import Sencho.Recovery.SwapRemoval

/-!
# A clean-up that dies part way

A clean-up deletes the originals, then the restored copy, and then the work directory with the
journal in it.  While the journal is there a repeated clean-up starts over.  The last removal
unlinks the journal before it removes the directory, and a clean-up that dies between the two
leaves a directory that nothing explains.
-/

namespace Sencho.Recovery

open Verified Verified.Interrupt Verified.Utf8 Prog

variable {id : IntentId} {C : Type}

/-- Clean-ups, each with its own order of deletions and its own interruption. -/
def repeatCleanup (calls : List (CleanupOrder C × Budget)) (v : Volume id C) : Volume id C :=
  calls.foldl (fun v call => (swapCleanup call.1).after call.2 v) v

/-- The journal proves that the swap is committed. -/
def SaysSwapped (plan : SwapPlan) (v : Volume id C) : Prop :=
  v.journal = some (.plan plan) ∧ plan.version = swapPlanVersion ∧ plan.status = .swapped

/-- A clean-up of what is left of `v₀` answers `cleaned`, removes the work directory and leaves
the root's own entries alone, and the status before it is no reason for alarm. -/
structure Repeatable (order : CleanupOrder C) (v₀ v : Volume id C) : Prop where
  status : swapStatus.outcome none v = .done ⟨.swapped, 0⟩ ∨
    swapStatus.outcome none v = .done ⟨.absent, 0⟩
  answer : (swapCleanup order).outcome none v = .done ⟨.cleaned, 0⟩
  removed : ((swapCleanup order).after none v).work = none
  before : ∀ n, v.lookup .root n = v₀.lookup .root n
  root : ∀ n, ((swapCleanup order).after none v).lookup .root n = v₀.lookup .root n

/-- A work directory that no journal explains. -/
def Stranded (v : Volume id C) : Prop := v.journal = none ∧ v.work.isSome = true

/-- The root's entries are those of `v₀`, and the journal is the committed one or gone. -/
structure Cleaning (plan : SwapPlan) (v₀ v : Volume id C) : Prop where
  root : ∀ n, v.lookup .root n = v₀.lookup .root n
  journal : v.journal = some (.plan plan) ∨ v.journal = none

variable {plan : SwapPlan} {v₀ v : Volume id C}

namespace Cleaning

section

variable (h : Cleaning plan v₀ v)
include h

theorem removal (r : Removal C) : Cleaning plan v₀ (r.apply v) := by
  constructor
  · intro n
    rw [Volume.lookup_root, Removal.root_apply, ← Volume.lookup_root]
    exact h.root n
  · rcases r.journal_apply v with hsame | hnone
    · rw [hsame]
      exact h.journal
    · exact .inr hnone

theorem dropWork : Cleaning plan v₀ v.dropWork :=
  ⟨h.root, .inr rfl⟩

theorem setStat (g : RootMeta → RootMeta) : Cleaning plan v₀ (v.setStat g) :=
  ⟨h.root, h.journal⟩

theorem wp_removeSide (s : Side) (parts : List (FileName × Option (Entry C))) :
    wp (removeSide s parts) (fun _ => Cleaning plan v₀) (fun (_ : SwapError) _ => False)
      (Cleaning plan v₀) v := by
  induction parts generalizing v with
  | nil => exact wp_write h (h.removal _)
  | cons part parts ih => exact wp_write_bind h (ih (h.removal _))

theorem wp_removeAll (order : List (Removal C)) :
    wp (removeAll order) (fun _ v' => Cleaning plan v₀ v' ∧ v'.work = none)
      (fun (_ : SwapError) _ => False) (Cleaning plan v₀) v := by
  induction order generalizing v with
  | nil => exact wp_write h ⟨h.dropWork, rfl⟩
  | cons r rest ih => exact wp_write_bind h (ih (h.removal r))

theorem wp_removeWorkDir (order : CleanupOrder C) :
    wp (removeWorkDir order) (fun _ v' => Cleaning plan v₀ v' ∧ v'.work = none)
      (fun (_ : SwapError) _ => False) (Cleaning plan v₀) v := by
  have hincoming : ∀ {v : Volume id C}, Cleaning plan v₀ v →
      wp (do removeSide .incoming order.incoming; removeAll order.rest)
        (fun _ v' => Cleaning plan v₀ v' ∧ v'.work = none)
        (fun (_ : SwapError) _ => False) (Cleaning plan v₀) v := by
    intro v h
    apply wp_bind
    apply wp_mono (h.wp_removeSide .incoming order.incoming)
    · intro _ _ h
      exact h.wp_removeAll order.rest
    · exact fun _ _ h => h
    · exact fun _ h => h
  apply wp_bind
  apply wp_mono (h.wp_removeSide .original order.original)
  · intro _ _ h
    exact hincoming h
  · exact fun _ _ h => h
  · exact fun _ h => h

end

end Cleaning

/-- A volume whose work directory is gone, or which still has its journal. -/
theorem not_stranded_iff : ¬ Stranded v ↔ v.journal.isSome = true ∨ v.work = none := by
  unfold Stranded
  cases hjournal : v.journal with
  | some j => simp
  | none => cases hwork : v.work <;> simp

/-- A journal of a known version is read. -/
theorem readPlan_known (h : plan.version = swapPlanVersion) :
    readPlan (.plan plan) = .ok plan.encoded :=
  if_pos h

section Calls

variable (hversion : plan.version = swapPlanVersion) (hstat : plan.status = .swapped)
  (order : CleanupOrder C)

include hversion hstat

section

variable (h : Cleaning plan v₀ v)
include h

/-- With its journal, a clean-up that nobody interrupts finishes; a cut leaves the root alone and
the journal as it was, or gone. -/
theorem wp_swapCleanup (hjournal : v.journal = some (.plan plan)) :
    wp (swapCleanup order)
      (fun r v' => r = ⟨.cleaned, 0⟩ ∧ Cleaning plan v₀ v' ∧ v'.work = none)
      (fun _ _ => False) (Cleaning plan v₀) v := by
  apply wp_read_bind
  rw [hjournal]
  dsimp only
  rw [readPlan_known hversion]
  apply wp_bind
  apply wp_pure
  rw [if_neg (fun hnot => hnot hstat)]
  apply wp_bind
  apply wp_mono (h.wp_removeWorkDir order)
  · rintro - v' ⟨h', hwork⟩
    apply wp_bind
    apply wp_write h'
    apply wp_pure
    exact ⟨rfl, h'.setStat _, hwork⟩
  · exact fun _ _ h => h
  · exact fun _ h => h

/-- One clean-up, cut anywhere, from any state an earlier one left. -/
theorem Cleaning.swapCleanup (b : Budget) : Cleaning plan v₀ ((swapCleanup order).after b v) := by
  rcases h.journal with hjournal | hnone
  · apply after_of_wp
    apply wp_mono (wp_swapCleanup hversion hstat order h hjournal)
    · exact fun _ _ h => h.2.1
    · exact fun _ _ h => h.elim
    · exact fun _ h => h
  · apply after_of_wp
    apply wp_read_bind
    rw [hnone]
    dsimp only
    split
    · exact wp_fail h
    · exact wp_pure h

theorem Cleaning.repeatCleanup (calls : List (CleanupOrder C × Budget)) :
    Cleaning plan v₀ (repeatCleanup calls v) := by
  induction calls generalizing v with
  | nil => exact h
  | cons call calls ih => exact ih (h.swapCleanup hversion hstat call.1 call.2)

theorem Cleaning.repeatable (hkept : ¬ Stranded v) : Repeatable order v₀ v := by
  rcases h.journal with hjournal | hnone
  · obtain ⟨r, hout, rfl, hafter, hwork⟩ :=
      done_of_wp (wp_swapCleanup hversion hstat order h hjournal)
    refine ⟨.inl ?_, hout, hwork, h.root, hafter.root⟩
    have hanswer : wp swapStatus (fun r _ => r = ⟨.swapped, 0⟩) (fun _ _ => False)
        (fun _ => True) v := by
      apply wp_read_bind
      rw [hjournal]
      dsimp only
      rw [readPlan_known hversion]
      apply wp_bind
      apply wp_pure
      apply wp_pure
      rw [computeStatus_eq_swapped.mpr (show plan.encoded.status = .swapped from hstat)]
    obtain ⟨r, hrun, rfl⟩ := done_of_wp hanswer
    exact hrun
  · have hwork : v.work = none := by
      rcases not_stranded_iff.mp hkept with hsome | hgone
      · rw [hnone] at hsome
        cases hsome
      · exact hgone
    have hanswer : wp swapStatus (fun r _ => r = ⟨.absent, 0⟩) (fun _ _ => False)
        (fun _ => True) v := by
      apply wp_read_bind
      rw [hnone]
      apply wp_pure
      rw [hwork]
      rfl
    have hclean : wp (Sencho.Recovery.swapCleanup order)
        (fun r v' => r = ⟨.cleaned, 0⟩ ∧ v' = v) (fun _ _ => False) (fun _ => True) v := by
      apply wp_read_bind
      rw [hnone]
      rw [hwork]
      exact wp_pure ⟨rfl, rfl⟩
    obtain ⟨r, hrun, rfl⟩ := done_of_wp hanswer
    obtain ⟨r, hout, rfl, hsame⟩ := done_of_wp hclean
    refine ⟨.inr hrun, hout, ?_, h.root, ?_⟩
    · rw [hsame]
      exact hwork
    · rw [hsame]
      exact h.root

end

end Calls

/-- A stranded directory is reported as inconsistent. -/
theorem Stranded.not_repeatable (h : Stranded v) {order : CleanupOrder C} :
    ¬ Repeatable order v₀ v := by
  intro hrepeatable
  have hanswer : wp swapStatus (fun r _ => r = ⟨.inconsistent, 0⟩) (fun _ _ => False)
      (fun _ => True) v := by
    apply wp_read_bind
    rw [h.1]
    apply wp_pure
    rw [h.2]
    rfl
  obtain ⟨r, hrun, rfl⟩ := done_of_wp hanswer
  rcases hrepeatable.status with hswapped | habsent
  · rw [hrun] at hswapped
    cases hswapped
  · rw [hrun] at habsent
    cases habsent

/-- After any number of interrupted clean-ups of a committed swap, a repeated one finishes with
the status explained and the root untouched, exactly when none of them died between the unlinking
of the journal and the removal of its directory. -/
theorem cleanup_repeatable_iff (v₀ : Volume id C) (plan : SwapPlan) (h : SaysSwapped plan v₀)
    (calls : List (CleanupOrder C × Budget)) (order : CleanupOrder C) :
    Repeatable order v₀ (repeatCleanup calls v₀) ↔ ¬ Stranded (repeatCleanup calls v₀) := by
  obtain ⟨hjournal, hversion, hstat⟩ := h
  have hstart : Cleaning plan v₀ v₀ := ⟨fun _ => rfl, .inl hjournal⟩
  have hcleaning := hstart.repeatCleanup hversion hstat calls
  constructor
  · intro hrepeatable hstranded
    exact hstranded.not_repeatable hrepeatable
  · exact hcleaning.repeatable hversion hstat order

/-- A committed swap with an original and a restored copy still to delete. -/
def committedVolume : Volume sampleId Nat where
  root := ⟨(∅ : Entries Nat).insert (ascii "a") ⟨false, 2⟩, ⟨0, 0, 0o755#12, 5⟩⟩
  work := some ⟨some (.plan ⟨1, sampleId.1, .swapped, [ascii "a"], [ascii "a"], ⟨0, 0, 0o755#12, 5⟩,
      some ⟨0, 0, 0o755#12, 4⟩, 1, 2⟩),
    some ⟨(∅ : Entries Nat).insert (ascii "a") ⟨false, 1⟩, ⟨0, 0, 0o700#12, 6⟩⟩,
    some ⟨∅, ⟨0, 0, 0o755#12, 5⟩⟩⟩
  dev := 1
  ino := 2
  clock := 10
  reserved := by decide

/-- The deletions of one clean-up of it. -/
def sampleOrder : CleanupOrder Nat := ⟨[(ascii "a", none)], [], [.journal]⟩

/-- A clean-up that dies while the restored copy is half deleted is repeated. -/
theorem cleanup_repeatable_with_journal :
    Repeatable sampleOrder committedVolume
      (repeatCleanup [(sampleOrder, some 1), (sampleOrder, some 2)] committedVolume) := by
  refine (cleanup_repeatable_iff committedVolume _ ⟨rfl, rfl, rfl⟩ _ _).mpr ?_
  rintro ⟨hnone, -⟩
  exact absurd hnone (by decide)

/-- A clean-up that dies after it has unlinked the journal cannot be repeated. -/
theorem cleanup_dies_after_journal :
    ¬ ∀ (plan : SwapPlan), SaysSwapped plan committedVolume →
      ∀ calls : List (CleanupOrder Nat × Budget),
        Repeatable sampleOrder committedVolume (repeatCleanup calls committedVolume) := by
  intro hall
  have hrepeatable := hall _ ⟨rfl, rfl, rfl⟩ [(sampleOrder, some 4)]
  have hstranded : Stranded (repeatCleanup [(sampleOrder, some 4)] committedVolume) := by
    constructor
    · decide
    · decide
  exact hstranded.not_repeatable hrepeatable

end Sencho.Recovery
