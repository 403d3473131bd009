import Sencho.Recovery.SwapRemoval

/-!
# Names that the journal cannot hold

A name is bytes, and `plan.json` holds it as the text those bytes are coerced to.  The helper
decides by the names of the journal, so an entry of another name is one it neither moves nor
accounts for.  This module says what comes of it.

* `swap_resumable_iff`: a swap is resumable exactly when every name is UTF-8.
* `rollback_repeatable_iff`: a rollback that dies in its removal can be repeated exactly when no
  original has the name that the journal has of a restored entry, or the helper refuses to move
  anything.
-/

namespace Sencho.Recovery

open Verified Verified.Interrupt Verified.Utf8 Volume Prog

variable {id : IntentId} {C : Type}

/-- The helper accounts for every entry of a volume it has just prepared: an original by its own
name, a restored entry by a name that some entry has. -/
structure Explained (v : Volume id C) : Prop where
  originals : ∀ n, (v.lookup .root n).isSome → Valid n
  restored : ∀ n, (restoredEntry v n).isSome →
    (v.lookup .root (coerce n)).isSome ∨ (restoredEntry v (coerce n)).isSome

theorem Explained.of_lookup {v v' : Volume id C} (h : Explained v)
    (hsame : ∀ p n, v'.lookup p n = v.lookup p n) : Explained v' := by
  constructor
  · intro n hn
    rw [hsame] at hn
    exact h.originals n hn
  · intro n hn
    simp only [restoredEntry, hsame] at hn ⊢
    exact h.restored n hn

variable {n : FileName}

theorem countMoved_eq_none {f : FileName → Option Bool} {names : List FileName}
    (hn : n ∈ names) (h : f n = none) : countMoved f names = none := by
  induction names with
  | nil => cases hn
  | cons m names ih =>
    unfold countMoved
    rcases List.mem_cons.mp hn with rfl | hn
    · rw [h]
    · rw [ih hn]
      cases f m <;> rfl

/-- An entry of the root that the plan does not name is inconsistent. -/
theorem computeStatus_of_unknown {v : Volume id C} {plan : SwapPlan}
    (hst : plan.status ≠ .swapped) (hn : n ∈ v.listNames .root)
    (hunknown : n ∉ knownNames id plan) : computeStatus v plan = .inconsistent := by
  have hany : ((v.listNames .root).any fun n => !(knownNames id plan).contains n) = true :=
    List.any_eq_true.mpr ⟨n, hn, by simpa using hunknown⟩
  unfold computeStatus
  rw [if_neg hst]
  split
  · rw [if_pos hany]
  · rfl

/-- So is a restored name that is nowhere. -/
theorem computeStatus_of_nowhere {v : Volume id C} {plan : SwapPlan}
    (hst : plan.status ≠ .swapped) (hn : n ∈ plan.incoming)
    (h : incomingMoved v plan n = none) : computeStatus v plan = .inconsistent := by
  unfold computeStatus
  rw [if_neg hst, countMoved_eq_none hn h]
  split
  · rename_i heq
    cases heq
  · rfl

section

variable {base : Volume id C} {plan : SwapPlan} (hr : Journaled base plan)
include hr

namespace Journaled

theorem status_ne : plan.status ≠ .swapped := by
  rw [hr.status]
  decide

theorem journal_status :
    base.journal = some (.plan { plan with status := plan.status }) := hr.journal

theorem valid_known (hn : n ∈ knownNames id plan) : Valid n := by
  simp only [knownNames, List.cons_append, List.mem_cons, List.mem_append] at hn
  rcases hn with rfl | hn | hn
  · exact valid_of_ascii (isAscii_of_isWorkDirName (isWorkDirName_workDirName id))
  · obtain ⟨m, -, rfl⟩ := (hr.fromRoot n).mp hn
    exact valid_coerce m
  · obtain ⟨m, -, rfl⟩ := (hr.fromIncoming n).mp hn
    exact valid_coerce m

/-- The status of a volume that was just prepared. -/
theorem computeStatus_iff : computeStatus base plan ≠ .inconsistent ↔ Explained base := by
  have hmem : ∀ {n}, (base.lookup .root n).isSome → n ∈ base.listNames .root := by
    intro n hn
    rw [mem_listNames, has, hn]
    rfl
  constructor
  · intro hne
    constructor
    · intro n hn
      by_contra hinvalid
      exact hne (computeStatus_of_unknown hr.status_ne (hmem hn)
        fun hknown => hinvalid (hr.valid_known hknown))
    · intro n hn
      by_contra hnowhere
      obtain ⟨hroot, hrest⟩ := not_or.mp hnowhere
      have hlisted := (hr.fromIncoming _).mpr ⟨n, hn, rfl⟩
      rw [restoredEntry_eq (hr.incoming_plain hlisted)] at hrest
      refine hne (computeStatus_of_nowhere hr.status_ne hlisted ?_)
      simp only [incomingMoved, has_of_ne _ _ (hr.incoming_ne hlisted)]
      simp [hroot, hrest]
  · intro h
    have horig : ∀ n, n ∈ plan.originals ↔ (base.lookup .root n).isSome := by
      intro n
      rw [hr.fromRoot]
      constructor
      · rintro ⟨m, hm, rfl⟩
        rwa [coerce_eq_iff.mpr (h.originals m hm)]
      · exact fun hn => ⟨n, hn, coerce_eq_iff.mpr (h.originals n hn)⟩
    refine computeStatus_ne_of_explained (fun n hn => ?_) (fun n hn => ?_) fun n hn => ?_
    · have hroot := (horig n).mp hn
      simp only [originalMoved, has_of_ne _ _ (hr.original_ne hn), hroot]
      split <;> rfl
    · simp only [incomingMoved, has_of_ne _ _ (hr.incoming_ne hn)]
      have hsome : (base.lookup .root n).isSome ∨ (base.lookup (.work .incoming) n).isSome := by
        have hplain := hr.incoming_plain hn
        obtain ⟨m, hm, rfl⟩ := (hr.fromIncoming n).mp hn
        rw [← restoredEntry_eq hplain]
        exact h.restored m hm
      by_cases hroot : (base.lookup .root n).isSome
      · have hlisted := (horig n).mpr hroot
        by_cases hin : (base.lookup (.work .incoming) n).isSome <;> simp [hroot, hin, hlisted]
      · simp [hroot, hsome.resolve_left hroot]
    · rw [mem_listNames] at hn
      by_cases hname : n = workDirName id
      · simp [knownNames, hname]
      · rw [has_of_ne _ _ hname] at hn
        simp [knownNames, (horig n).mpr hn]

/-- Nothing moves in a volume that the helper does not account for. -/
theorem frozen (hcs : computeStatus base plan = .inconsistent) :
    (∀ calls, runSwapCalls calls base = base) ∧ ¬ ReachesRemoval base := by
  have hread := hr.readPlan_eq plan.status
  have hrollback : wp rollbackBeforeRemoval (fun _ _ => False) (fun _ v' => v' = base)
      (fun _ => False) base := by
    refine wp_read_bind ?_
    simp only [hr.journal_status, hread]
    refine wp_bind (wp_pure ?_)
    simp only [hcs]
    exact wp_fail rfl
  have hcommit : wp swapCommit (fun _ v' => v' = base) (fun _ v' => v' = base)
      (fun v' => v' = base) base := by
    refine wp_read_bind ?_
    simp only [hr.journal_status, hread]
    refine wp_bind (wp_pure ?_)
    rw [if_neg (by simp [hr.owner]), if_neg (by simp [hr.device]), if_pos hcs]
    exact wp_fail rfl
  have hstep : ∀ call b, SwapCall.after b base call = base := by
    intro call b
    cases call with
    | prepare => exact after_of_wp (wp_swapPrepare_resumed hr hr.journal_status) b
    | commit => exact after_of_wp hcommit b
    | rollback =>
      exact after_of_wp (wp_mono hrollback (fun _ _ hQ => hQ.elim) (fun _ _ hE => hE)
        (fun _ hK => hK.elim)) b
  constructor
  · intro calls
    induction calls with
    | nil => rfl
    | cons call calls ih =>
      change runSwapCalls calls (call.1.after call.2 base) = base
      rw [hstep]
      exact ih
  · rintro ⟨p, hdone⟩
    exact of_wp_done hrollback hdone

/-- An original that has the name of a restored entry, and is alone in having
it, is taken for that entry. -/
theorem losing (hin : base.lookup (.work .incoming) n = none) :
    Losing n base where
  original m := by simp [lookup, hr.originalDir]
  incomingDir := hr.incomingDir
  pending := .inr hin

/-- Where every restored entry waits under the name that the journal has of it, the plan is one
of entries to move; elsewhere some original is taken for a restored entry. -/
theorem prepared_or_losing (h : Explained base) :
    Prepared base plan ∨ ∃ n ∈ plan.incoming, (base.lookup .root n).isSome ∧ Losing n base := by
  by_cases hall : ∀ n, (restoredEntry base n).isSome → (restoredEntry base (coerce n)).isSome
  · exact .inl (hr.prepared h.originals hall)
  · obtain ⟨n, hn, hmissing⟩ : ∃ n, (restoredEntry base n).isSome ∧
        ¬ (restoredEntry base (coerce n)).isSome := by simpa using hall
    have hlisted := (hr.fromIncoming _).mpr ⟨n, hn, rfl⟩
    refine .inr ⟨_, hlisted, (h.restored n hn).resolve_right hmissing, hr.losing ?_⟩
    rw [restoredEntry_eq (hr.incoming_plain hlisted)] at hmissing
    simpa using hmissing

end Journaled

end

/-- Crash safety of the volume swap.  After a fresh `prepare`, every sequence of commits and
rollbacks, each cut off anywhere before a removal of the work directory, leaves a resumable swap
exactly when every name is UTF-8. -/
theorem swap_resumable_iff (v₀ : Volume id C) (hfr : v₀.journal = none) (r : SwapReport)
    (hprep : swapPrepare.outcome none v₀ = .done r) :
    (∀ calls : List (SwapCall × Budget),
        Resumable v₀ (runSwapCalls calls (swapPrepare.after none v₀))) ↔ Spelled v₀ := by
  obtain ⟨-, ⟨plan, hr⟩, hsame, hroot⟩ := of_wp_done (wp_swapPrepare_fresh hfr) hprep
  generalize swapPrepare.after none v₀ = base at hr hsame hroot
  have hback : ∀ p n, v₀.lookup p n = base.lookup p n := fun p n => (hsame p n).symm
  constructor
  · intro hall
    have hstart : Resumable v₀ base := hall []
    have hopen : ∀ plan, base.journal = some (.plan plan) → plan.status ≠ .swapped := by
      intro plan' hj
      rw [hr.journal] at hj
      cases hj
      exact hr.status_ne
    have hexplained : Explained base := by
      rw [← hr.computeStatus_iff]
      obtain ⟨s, hout, hne⟩ := hstart.explained
      obtain ⟨s', hout', rfl, -⟩ :=
        done_of_wp (wp_swapStatus_of hr.journal (hr.readPlan_eq plan.status))
      rw [hout'] at hout
      cases hout
      exact hne
    refine Spelled.of_lookup ⟨hexplained.originals, fun n hn => ?_⟩ hback
    rcases hr.prepared_or_losing hexplained with hp | ⟨m, hm, hsome, hlosing⟩
    · have hcommit := wp_swapCommit hp (.inl ⟨.start, .planned, .inl rfl, hp.at_start⟩)
      obtain ⟨-, -, -, pl, -, hat, -⟩ := done_of_wp hcommit
      by_contra hinvalid
      have hup : n ∉ pl.up := by
        intro hmem
        obtain ⟨m, -, rfl⟩ := (hr.fromIncoming n).mp (pl.up_sub n hmem)
        exact hinvalid (valid_coerce m)
      have hgone : (swapCommit.after none base).lookup .root n = none := by
        rw [hat.placed.root n, if_neg hup]
        split
        · rfl
        · rw [← Option.not_isSome_iff_eq_none]
          exact fun hroot => hinvalid (hexplained.originals n hroot)
      rw [(hstart.commit.2.2 n).1] at hgone
      simp only [restoredEntry, hsame] at hn
      rw [restoredEntry] at hgone
      rw [hgone] at hn
      cases hn
    · obtain ⟨-, -, hgone⟩ := done_of_wp (hlosing.wp_swapRollback hr hm hr.journal_status
        hr.status_ne (hr.computeStatus_iff.mpr hexplained) [])
      rw [(hstart.rollback hopen []).2.2.2 m, ← hsame] at hgone
      rw [hgone] at hsome
      cases hsome
  · intro hspelled calls
    have hspelled' := hspelled.of_lookup hsame
    have hp := hr.prepared_of_spelled hspelled'
    exact (SwapInv.run hp (.inl ⟨.start, .planned, .inl rfl, hp.at_start⟩) calls).resumable hp
      hspelled' hsame hroot

/-- A commit cut in its renames, then a rollback cut in its own, on a volume
with an overlapping name. -/
theorem swap_resumable_overlap : Resumable overlapVolume
    (runSwapCalls [(.commit, some 4), (.rollback, some 1)]
      (swapPrepare.after none overlapVolume)) := by
  refine (swap_resumable_iff overlapVolume rfl ⟨.planned, 0⟩ (by decide)).mpr
    ⟨Folder.forall_lookup (by decide), fun n hn => ?_⟩ _
  exact Folder.forall_lookup (by decide) n (isSome_of_restoredEntry hn)

/-- A volume whose only original has the name `caf\xe9.txt`, and nothing to restore. -/
def latinVolume : Volume sampleId Nat where
  root := ⟨(∅ : Entries Nat).insert (ascii "caf" ++ [0xe9] ++ ascii ".txt") ⟨false, 1⟩,
    ⟨0, 0, 0o755#12, 7⟩⟩
  work := some ⟨none, none, some ⟨∅, ⟨999, 999, 0o700#12, 5⟩⟩⟩
  dev := 1
  ino := 2
  clock := 10
  reserved := by decide

/-- The journal has another name for it, and the helper finds the volume inconsistent. -/
theorem swap_of_latin_name :
    swapPrepare.outcome none latinVolume = .done ⟨.planned, 0⟩ ∧
      ¬ ∀ calls : List (SwapCall × Budget),
        Resumable latinVolume (runSwapCalls calls (swapPrepare.after none latinVolume)) := by
  refine ⟨by decide, fun hall => ?_⟩
  obtain ⟨r, hout, hne⟩ := (hall []).explained
  have hanswer : swapStatus.outcome none (runSwapCalls [] (swapPrepare.after none latinVolume)) =
      .done ⟨.inconsistent, 0⟩ := by decide
  rw [hanswer] at hout
  cases hout
  exact hne rfl

/-- Repeating a rollback that died in its removal costs no original exactly
when the helper refuses the volume from the start or no original has the name
that the journal has of a restored entry. -/
theorem rollback_repeatable_iff (v₀ : Volume id C) (hfr : v₀.journal = none)
    (r : SwapReport) (hprep : swapPrepare.outcome none v₀ = .done r) :
    (∀ (calls : List (SwapCall × Budget)) (removed : List (Removal C))
        (repeats : List (List (Removal C) × Budget)),
        ReachesRemoval (runSwapCalls calls (swapPrepare.after none v₀)) →
        OriginalsAtRoot v₀ (repeatRollback repeats (dieInRemoval removed
          (runSwapCalls calls (swapPrepare.after none v₀))))) ↔
      (Explained v₀ →
        ∀ n, (restoredEntry v₀ n).isSome → v₀.lookup .root (coerce n) = none) := by
  obtain ⟨-, ⟨plan, hr⟩, hsame, -⟩ := of_wp_done (wp_swapPrepare_fresh hfr) hprep
  generalize swapPrepare.after none v₀ = base at hr hsame
  have hrest : ∀ n, restoredEntry v₀ n = restoredEntry base n := by
    intro n
    simp [restoredEntry, hsame]
  constructor
  · intro hall hexplained n hn
    have hexplained' := hexplained.of_lookup hsame
    have hcs := hr.computeStatus_iff.mpr hexplained'
    rw [hrest] at hn
    have hlisted := (hr.fromIncoming _).mpr ⟨n, hn, rfl⟩
    rw [← hsame]
    rcases hr.prepared_or_losing hexplained' with hp | ⟨m, hm, hsome, hlosing⟩
    · by_contra hroot
      obtain ⟨e, he⟩ := Option.ne_none_iff_exists'.mp hroot
      have horig := (hp.originals _).mpr (Option.isSome_iff_exists.mpr ⟨e, he⟩)
      obtain ⟨_, hdone, ⟨st, rfl⟩, hres⟩ := done_of_wp
        (wp_rollbackBeforeRemoval hp ⟨.start, .planned, .inl rfl, hp.at_start⟩)
      have htwin := hres.twinGone (coerce n)
      obtain ⟨st', hst', hj'⟩ := htwin.journal
      obtain ⟨-, -, hgone⟩ := done_of_wp (htwin.losing.wp_swapRollback hr hlisted hj'
        hst'.ne_swapped (htwin.computeStatus_ne hp horig) [])
      have hkept := hall [] [.part .incoming (coerce n) none] [([], none)] ⟨_, hdone⟩
        (coerce n) e (by rw [← hsame]; exact he)
      change ((swapRollback []).after none ((Removal.part .incoming (coerce n) none).apply
        (rollbackBeforeRemoval.after none base))).lookup .root (coerce n) = some e at hkept
      rw [hgone] at hkept
      cases hkept
    · obtain ⟨e, he⟩ := Option.isSome_iff_exists.mp hsome
      obtain ⟨_, hdone, rfl, hgone⟩ := done_of_wp (hlosing.wp_rollbackBeforeRemoval hr hm
        hr.journal_status hr.status_ne hcs)
      have hkept := hall [] [] [] ⟨_, hdone⟩ m e (by rw [← hsame]; exact he)
      change (rollbackBeforeRemoval.after none base).lookup .root m = some e at hkept
      rw [hgone] at hkept
      cases hkept
  · intro hnone calls removed repeats hreaches
    by_cases hcs : computeStatus base plan = .inconsistent
    · obtain ⟨hsame', hnot⟩ := hr.frozen hcs
      rw [hsame'] at hreaches
      exact absurd hreaches hnot
    · have hexplained := (hr.computeStatus_iff.mp hcs).of_lookup fun p n => (hsame p n).symm
      have hdisjoint := hnone hexplained
      have hp : Prepared base plan := by
        refine hr.prepared (hr.computeStatus_iff.mp hcs).originals fun n hn => ?_
        rw [← hrest] at hn ⊢
        refine (hexplained.restored n hn).resolve_left ?_
        rw [hdisjoint n hn]
        exact Bool.false_ne_true
      have hdis : Disjoint plan := by
        intro n hn horig
        obtain ⟨m, hm, rfl⟩ := (hr.fromIncoming n).mp hn
        rw [← hrest] at hm
        rw [hp.originals, hsame, hdisjoint m hm] at horig
        cases horig
      have hinv := SwapInv.run hp (.inl ⟨.start, .planned, .inl rfl, hp.at_start⟩) calls
      rcases hinv with hmoving | hcommitted
      · obtain ⟨-, -, -, hres⟩ := done_of_wp (wp_rollbackBeforeRemoval hp hmoving)
        have hback : BackAtRoot base plan (dieInRemoval removed _) :=
          hres.backAtRoot.removals removed
        intro n e he
        rw [(hback.repeatRollback hp hdis repeats).root n, hsame]
        exact he
      · obtain ⟨p, hdone⟩ := hreaches
        exact (of_wp_done (wp_rollbackBeforeRemoval_committed hp hcommitted) hdone).elim

/-- A volume and a restored snapshot without a common name. -/
def disjointVolume : Volume sampleId Nat where
  root := ⟨(∅ : Entries Nat).insert (ascii "a") ⟨false, 1⟩, ⟨0, 0, 0o755#12, 7⟩⟩
  work := overlapVolume.work
  dev := 1
  ino := 2
  clock := 10
  reserved := by decide

/-- A rollback of a volume without a common name survives the loss of its
restored copy. -/
theorem rollback_repeatable_disjoint : OriginalsAtRoot disjointVolume
      (repeatRollback [([.journal], some 1), ([], none)]
        (dieInRemoval [.part .incoming (ascii "b") none]
          (runSwapCalls [(.commit, some 4)] (swapPrepare.after none disjointVolume)))) := by
  refine (rollback_repeatable_iff disjointVolume rfl ⟨.planned, 0⟩
    (by decide)).mpr (fun _ n hn => ?_) _ _ _ ⟨_, by rfl⟩
  exact Folder.forall_lookup (p := fun n => disjointVolume.lookup .root (coerce n) = none)
    (by decide) n (isSome_of_restoredEntry hn)

/-- The removal deletes the restored twin of an original and dies; the repeated
rollback moves the original into the work directory and deletes it there. -/
theorem rollback_repeat_loses_original :
    ¬ ∀ (calls : List (SwapCall × Budget)) (removed : List (Removal Nat))
        (repeats : List (List (Removal Nat) × Budget)),
        ReachesRemoval (runSwapCalls calls (swapPrepare.after none overlapVolume)) →
        OriginalsAtRoot overlapVolume (repeatRollback repeats (dieInRemoval removed
            (runSwapCalls calls (swapPrepare.after none overlapVolume)))) := by
  intro hall
  have hkept := hall [] [.part .incoming (ascii "b") none] [([], none)] ⟨_, by rfl⟩
    (ascii "b") ⟨true, 2⟩ (by decide)
  exact absurd hkept (by decide)

end Sencho.Recovery
