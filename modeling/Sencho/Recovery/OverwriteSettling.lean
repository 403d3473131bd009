import Sencho.Recovery.OverwriteCrash

/-!
# Boot settles what a crash left

One boot with a helper and a daemon that answer settles a crashed overwrite from
the phase and the journal together.  One pair is decided wrongly: a rollback of
the live pipeline that completed while the intent was in `swapping`, and died
before the phase write that records it, leaves no journal, which boot takes for
a swap it cannot account for.
-/

namespace Sencho.Recovery

open Verified.Interrupt Prog

variable {id : IntentId} {C : Type}

/-- The helper ran to its end and was heard. -/
def HelperRun.Whole (run : HelperRun C) : Prop :=
  ∃ order cleanup, run = .ran none .exited order cleanup

/-- The daemon updates and starts the container, which may be gone. -/
structure MemberAnswer.Obeys (answer : MemberAnswer) : Prop where
  update : answer.update = .ok ∨ answer.update = .notFound
  start : answer.start = .ok ∨ answer.start = .notModified ∨ answer.start = .notFound

/-- The helper and the daemon answer, and the staging volume can be removed. -/
structure Answers.Correct (env : Answers C) : Prop where
  helper : ∀ site, (env.helper site).Whole
  release : ∀ containerId, (env.release containerId).Obeys
  releaseLeftover : ∀ containerId, (env.releaseLeftover containerId).Obeys
  staging : env.staging = .removed ∨ env.staging = .missing ∨ env.staging = .notOurs

/-- The intent is settled: the originals are back, or the restored entries are in
their place, without a work directory and with the fence down. -/
structure Settled (orig restored : FileName → Option (Entry C)) (s : Overwrite id C) : Prop where
  data : s.intent.phase = .rolledBack ∧ Clear orig s.volume ∨
    s.intent.phase = .committed ∧ Clear restored s.volume
  fence : s.intent.fenceState.isLive = false

/-- An uninterrupted run returns, with this conclusion. -/
abbrev Finishes {σ ε α : Type} (p : Prog σ ε α) (Q : α → σ → Prop) (s : σ) : Prop :=
  wp p Q (fun _ _ => False) (fun _ => True) s

section Steps

variable {orig restored : FileName → Option (Entry C)} {v : Volume id C} {run : HelperRun C}

theorem HelperRun.Whole.step {action : SwapAction} {R : SwapReport → Volume id C → Prop}
    (hrun : run.Whole) (h : ∀ order cleanup, Finishes (swapProgram action order cleanup) R v) :
    ∃ report, run.result action v = ⟨true, some report, none⟩ ∧ R report (run.volume action v) := by
  obtain ⟨order, cleanup, rfl⟩ := hrun
  obtain ⟨report, hdone, hR⟩ := done_of_wp (h order cleanup)
  refine ⟨report, ?_, hR⟩
  simp only [HelperRun.result, hdone]
  rfl

theorem Clear.wp_swapStatus (h : Clear orig v) :
    Finishes swapStatus (fun r v' => r.status = .absent ∧ v' = v) v := by
  refine wp_read_bind ?_
  rw [h.beside.journal, h.work]
  exact wp_pure ⟨rfl, rfl⟩

theorem Marked.wp_swapStatus (h : Marked orig restored v) :
    Finishes swapStatus (fun r v' => r.status = .swapped ∧ v' = v) v := by
  obtain ⟨plan, hj, hst, hread⟩ := h.journal
  refine wp_read_bind ?_
  simp only [hj, hread]
  exact wp_bind (wp_pure (wp_pure ⟨computeStatus_eq_swapped.mpr hst, rfl⟩))

theorem Uncommitted.wp_swapStatus (h : Uncommitted orig restored v) :
    Finishes swapStatus (fun r v' =>
      (r.status ≠ .absent ∧ r.status ≠ .inconsistent ∧ r.status ≠ .swapped) ∧ v' = v)
      v := by
  obtain ⟨plan, hj, hst, hread, hne⟩ := h.journal
  refine wp_read_bind ?_
  simp only [hj, hread]
  refine wp_bind (wp_pure (wp_pure ⟨⟨computeStatus_ne_absent v plan, hne, ?_⟩, rfl⟩))
  exact fun hswapped => hst (computeStatus_eq_swapped.mp hswapped)

end Steps

section Settlement

variable {orig restored : FileName → Option (Entry C)} {s : Overwrite id C}
  {phase : RestoreIntentPhase} {env : Answers C}
variable {now : Int} {intent : IntentRow} {answers : String → MemberAnswer}

theorem InPhase.mayAdvance (h : InPhase phase s) {next : RestoreIntentPhase}
    (hallowed : next ∈ allowedTransitions phase) : mayAdvance s.intent next = true := by
  simp [Recovery.mayAdvance, h.phase, h.mode, hallowed]

theorem finishes_advance {next : RestoreIntentPhase} {extra : IntentAdvanceFields}
    {Q : Unit → Overwrite id C → Prop} (hs : InPhase phase s)
    (hallowed : next ∈ allowedTransitions phase) (h : ∀ s', InPhase next s' → s'.volume = s.volume →
      s'.intent.fenceState = s.intent.fenceState → Q () s') :
    Finishes (advanceIntent next extra now) Q s := by
  refine wp_read_bind ?_
  rw [if_pos (hs.mayAdvance hallowed)]
  exact wp_write trivial (h _ ⟨hs.mode, hs.target, rfl⟩ rfl rfl)

theorem finishes_step {action : SwapAction} {run : HelperRun C}
    {R : SwapReport → Volume id C → Prop} {Q : SwapRunResult → Overwrite id C → Prop}
    (hrun : run.Whole)
    (hprog : ∀ order cleanup, Finishes (swapProgram action order cleanup) R s.volume)
    (h : ∀ report s', s'.intent = s.intent → R report s'.volume → Q ⟨true, some report, none⟩ s') :
    Finishes (runSwapStep action run) Q s := by
  obtain ⟨report, hresult, hR⟩ := hrun.step hprog
  refine wp_step trivial fun s' hi hv => ?_
  rw [hresult]
  exact h report s' hi (by rw [hv]; exact hR)

theorem finishes_closing {action : SwapAction} {run statusRun : HelperRun C}
    {R : SwapReport → Volume id C → Prop} {Q : SwapRunResult → Overwrite id C → Prop}
    (hrun : run.Whole)
    (hprog : ∀ order cleanup, Finishes (swapProgram action order cleanup) R s.volume)
    (h : ∀ report s', s'.intent = s.intent → R report s'.volume → Q ⟨true, some report, none⟩ s') :
    Finishes (runClosingSwapStep action run statusRun) Q s := by
  refine wp_bind (finishes_step hrun hprog fun report s₁ hi₁ hR₁ => ?_)
  exact wp_pure (h report s₁ hi₁ hR₁)

section

variable (hanswers : ∀ containerId, (answers containerId).Obeys)

include hanswers

/-- A member of a fence is released when the daemon obeys. -/
theorem finishes_releaseMember (m : FenceMember) :
    Finishes (releaseMember answers true now m)
      (fun failed s' => failed = false ∧ MembersOnly s s') s := by
  unfold releaseMember
  split
  · exact wp_pure ⟨rfl, rfl, rfl⟩
  · obtain ⟨hupdate, hstart⟩ := hanswers m.containerId
    rcases hupdate with hupdate | hupdate
    · rw [hupdate]
      refine wp_write_bind trivial ?_
      split
      · rcases hstart with hstart | hstart | hstart
        · rw [hstart]
          exact wp_write_bind trivial (wp_write_bind trivial (wp_pure ⟨rfl, rfl, rfl⟩))
        · rw [hstart]
          exact wp_write_bind trivial (wp_pure ⟨rfl, rfl, rfl⟩)
        · rw [hstart]
          exact wp_write_bind trivial (wp_pure ⟨rfl, rfl, rfl⟩)
      · exact wp_write_bind trivial (wp_pure ⟨rfl, rfl, rfl⟩)
    · rw [hupdate]
      exact wp_write_bind trivial (wp_pure ⟨rfl, rfl, rfl⟩)

theorem finishes_releaseMembers (members : List FenceMember) :
    Finishes (releaseMembers answers true now members)
      (fun failed s' => failed = false ∧ MembersOnly s s') s := by
  induction members generalizing s with
  | nil => exact wp_pure ⟨rfl, rfl, rfl⟩
  | cons m ms ih =>
    refine wp_bind (wp_imp (finishes_releaseMember hanswers m) (fun failed s₁ h₁ => ?_))
    refine wp_bind (wp_imp (ih (s := s₁)) (fun rest s₂ h₂ => ?_))
    refine wp_pure ⟨by rw [h₁.1, h₂.1]; rfl, ?_, ?_⟩
    · exact h₂.2.volume.trans h₁.2.volume
    · exact h₂.2.intent.trans h₁.2.intent

theorem finishes_releaseFence (hs : InPhase phase s) :
    Finishes (releaseFence answers true now)
      (fun released s' => released = true ∧ InPhase phase s' ∧ s'.volume = s.volume ∧
        s'.intent.fenceState.isLive = false) s := by
  refine wp_read_bind ?_
  split
  · rename_i hdown
    refine wp_pure ⟨rfl, hs, rfl, ?_⟩
    cases hf : s.intent.fenceState <;> simp_all [RestoreFenceState.isLive]
  · split
    · exact wp_write_bind trivial (wp_pure ⟨rfl, ⟨hs.mode, hs.target, hs.phase⟩, rfl, rfl⟩)
    · refine wp_bind (wp_imp (finishes_releaseMembers hanswers s.members) (fun failed s₁ h₁ => ?_))
      obtain ⟨rfl, honly⟩ := h₁
      have h₁ := hs.of_intent honly.intent
      exact wp_write_bind trivial (wp_pure ⟨rfl, ⟨h₁.mode, h₁.target, h₁.phase⟩, honly.volume, rfl⟩)

end

theorem finishes_settleProven {committed released : Bool} (hs : InPhase phase s)
    (hallowed : (if committed then .committed else .rolledBack) ∈
      allowedTransitions phase) (hdata : Clear (if committed then restored else orig) s.volume)
    (hfence : s.intent.fenceState.isLive = false) :
    Finishes (settleProven committed released now) (fun _ s' => Settled orig restored s') s := by
  refine wp_bind (finishes_advance hs hallowed fun s₁ h₁ hv₁ hf₁ => wp_pure ⟨?_, ?_⟩)
  · rw [hv₁]
    cases committed with
    | true => exact .inr ⟨h₁.phase, hdata⟩
    | false => exact .inl ⟨h₁.phase, hdata⟩
  · rw [hf₁]
    exact hfence

section

variable (henv : env.Correct)

include henv

theorem finishes_settleUnswapped (hs : InPhase phase s)
    (hallowed : .rolledBack ∈ allowedTransitions phase) (hclear : Clear orig s.volume) :
    Finishes (settleUnswapped env) (fun _ s' => Settled orig restored s') s := by
  have hgone : Finishes (stagingVolumeGone env.staging)
      (fun gone s' => gone = true ∧ s' = s) s := by
    refine wp_read_bind ?_
    rcases henv.staging with hst | hst | hst <;> rw [hst] <;>
      cases s.intent.stagingVolume <;> exact wp_pure ⟨rfl, rfl⟩
  refine wp_bind (wp_imp hgone (fun gone s₁ h₁ => ?_))
  obtain ⟨rfl, rfl⟩ := h₁
  refine wp_bind (wp_imp (finishes_releaseFence henv.release hs) (fun released s₂ h₂ => ?_))
  obtain ⟨-, h₂, hv₂, hf₂⟩ := h₂
  exact finishes_settleProven h₂ hallowed (by rw [hv₂]; exact hclear) hf₂

theorem finishes_reconcileFenced (hs : InPhase phase s)
    (hallowed : .rolledBack ∈ allowedTransitions phase) (hfits : Clear orig s.volume ∨
      Stopped s ∧ (Beside orig s.volume ∨ Uncommitted orig restored s.volume)) :
    Finishes (reconcileFenced env intent) (fun _ s' => Settled orig restored s') s := by
  refine wp_read_bind ?_
  split
  · rename_i hmay
    have hclear : Clear orig s.volume := by
      rcases hfits with hclear | ⟨hstopped, -⟩
      · exact hclear
      · rw [hstopped] at hmay
        cases hmay
    refine wp_bind (finishes_step (henv.helper .status) (fun _ _ => hclear.wp_swapStatus)
      fun report s₁ hi₁ hR₁ => ?_)
    have habsent : (⟨true, some report, none⟩ : SwapRunResult).status = some .absent :=
      congrArg some hR₁.1
    simp only [habsent]
    exact finishes_settleUnswapped henv (hs.of_intent hi₁) hallowed (by rw [hR₁.2]; exact hclear)
  · have hrollback : ∀ (order : List (Removal C)) (cleanup : CleanupOrder C),
        Finishes (swapProgram .rollback order cleanup) (fun _ => Clear orig) s.volume := by
      intro order cleanup
      rcases hfits with hclear | ⟨-, hbeside | hopen⟩
      · exact hclear.beside.wp_swapRollback order
      · exact hbeside.wp_swapRollback order
      · exact hopen.wp_swapRollback order
    refine wp_bind (finishes_closing (henv.helper .rollback) hrollback
      fun report s₁ hi₁ hclear₁ => ?_)
    exact finishes_settleUnswapped henv (hs.of_intent hi₁) hallowed hclear₁

/-- The rest of a committed swap. -/
theorem finishes_finishCommitted (hs : InPhase .swapped s)
    (hmarked : Marked orig restored s.volume) :
    Finishes (finishCommitted env intent) (fun _ s' => Settled orig restored s') s := by
  refine wp_bind (finishes_closing (henv.helper .cleanup)
    (fun _ cleanup => hmarked.wp_swapCleanup cleanup) fun report s₁ hi₁ hclear₁ => ?_)
  refine wp_bind (wp_imp (finishes_releaseFence henv.release (hs.of_intent hi₁))
    (fun released s₂ h₂ => ?_))
  obtain ⟨rfl, h₂, hv₂, hf₂⟩ := h₂
  refine wp_bind (finishes_advance h₂ (by decide) fun s₃ h₃ hv₃ hf₃ => wp_pure ⟨?_, ?_⟩)
  · exact .inr ⟨h₃.phase, by rw [hv₃, hv₂]; exact hclear₁⟩
  · rw [hf₃]
    exact hf₂

/-- Rolling forward under a fence finishes the commit first. -/
theorem finishes_rollForward (hph : phase = .swapping ∨ phase = .swapped)
    (hs : InPhase phase s) (hintent : intent.phase = phase)
    (hswap : Uncommitted orig restored s.volume ∨ Marked orig restored s.volume) :
    Finishes (rollForward env intent false) (fun _ s' => Settled orig restored s') s := by
  have hcommit : Finishes (commitUnderFence env false)
      (fun ok s' => ok = true ∧ InPhase phase s' ∧ Marked orig restored s'.volume) s := by
    refine wp_bind (finishes_step (henv.helper .commit)
      (fun _ _ => wp_mono (wp_swapCommit_of hswap) (fun _ _ hQ => hQ.2)
        (fun _ _ hE => hE) (fun _ _ => trivial)) fun report s₁ hi₁ hmarked => ?_)
    exact wp_pure ⟨rfl, hs.of_intent hi₁, hmarked⟩
  refine wp_bind (wp_imp hcommit (fun ok s₁ h₁ => ?_))
  obtain ⟨rfl, h₁, hmarked₁⟩ := h₁
  have hadvance : Finishes (guardedBy (intent.phase = .swapping)
      (advanceIntent .swapped .empty env.now))
      (fun _ s' => InPhase .swapped s' ∧ s'.volume = s₁.volume) s₁ := by
    refine wp_guardedBy (fun hyes => ?_) fun hno => ?_
    · have hswapping : phase = .swapping := hintent.symm.trans (of_decide_eq_true hyes)
      subst hswapping
      exact finishes_advance h₁ (by decide) fun s₂ h₂ hv₂ _ => ⟨h₂, hv₂⟩
    · have hne : phase ≠ .swapping := fun heq =>
        of_decide_eq_false hno (hintent.trans heq)
      rcases hph with heq | heq
      · exact absurd heq hne
      · subst heq
        exact ⟨h₁, rfl⟩
  refine wp_bind (wp_imp hadvance (fun _ s₂ h₂ => ?_))
  exact finishes_finishCommitted henv h₂.1 (by rw [h₂.2]; exact hmarked₁)

theorem finishes_rollBackward (hs : InPhase .swapping s)
    (hopen : Uncommitted orig restored s.volume) :
    Finishes (rollBackward env intent false) (fun _ s' => Settled orig restored s') s := by
  refine wp_bind (finishes_closing (henv.helper .rollback)
    (fun order _ => hopen.wp_swapRollback order) fun report s₁ hi₁ hclear₁ => ?_)
  refine wp_bind (wp_imp (finishes_releaseFence henv.release (hs.of_intent hi₁))
    (fun released s₂ h₂ => ?_))
  obtain ⟨-, h₂, hv₂, hf₂⟩ := h₂
  exact finishes_settleProven h₂ (by decide) (by rw [hv₂]; exact hclear₁) hf₂

/-- A committed swap whose clean-up is done or still to do. -/
theorem finishes_reconcileSwapped (hs : InPhase .swapped s)
    (hfits : Clear restored s.volume ∨ Stopped s ∧ Marked orig restored s.volume) :
    Finishes (reconcileSwap env s.intent) (fun _ s' => Settled orig restored s') s := by
  rcases hfits with hclear | ⟨hstopped, hmarked⟩
  · refine wp_bind (finishes_step (henv.helper .status) (fun _ _ => hclear.wp_swapStatus)
      fun report s₁ hi₁ hR₁ => wp_read_bind ?_)
    have habsent : (⟨true, some report, none⟩ : SwapRunResult).status = some .absent :=
      congrArg some hR₁.1
    simp only [habsent]
    rw [if_pos hs.phase]
    refine wp_bind (wp_imp (finishes_releaseFence henv.release (hs.of_intent hi₁))
      (fun released s₂ h₂ => ?_))
    obtain ⟨-, h₂, hv₂, hf₂⟩ := h₂
    exact finishes_settleProven h₂ (by decide) (by rw [hv₂, hR₁.2]; exact hclear) hf₂
  · refine wp_bind (finishes_step (henv.helper .status) (fun _ _ => hmarked.wp_swapStatus)
      fun report s₁ hi₁ hR₁ => wp_read_bind ?_)
    have hswapped : (⟨true, some report, none⟩ : SwapRunResult).status = some .swapped :=
      congrArg some hR₁.1
    have hstopped₁ : workloadsMayRunNow s₁.intent.fenceState = false := by
      rw [hi₁]
      exact hstopped
    simp only [hswapped, hstopped₁]
    exact finishes_rollForward henv (.inr rfl) (hs.of_intent hi₁) hs.phase
      (.inr (by rw [hR₁.2]; exact hmarked))

/-- A swap that the journal accounts for. -/
theorem finishes_reconcileSwapping (hs : InPhase .swapping s) (hstopped : Stopped s)
    (hswap : Uncommitted orig restored s.volume ∨ Marked orig restored s.volume) :
    Finishes (reconcileSwap env s.intent) (fun _ s' => Settled orig restored s') s := by
  have hstopped₁ : ∀ s' : Overwrite id C, s'.intent = s.intent →
      workloadsMayRunNow s'.intent.fenceState = false := by
    intro s' hi
    rw [hi]
    exact hstopped
  rcases hswap with hopen | hmarked
  · refine wp_bind (finishes_step (henv.helper .status) (fun _ _ => hopen.wp_swapStatus)
      fun report s₁ hi₁ hR₁ => wp_read_bind ?_)
    have h₁ := hs.of_intent hi₁
    have hopen₁ : Uncommitted orig restored s₁.volume := by
      rw [hR₁.2]
      exact hopen
    have hback : Finishes (rollBackward env s.intent false)
        (fun _ s' => Settled orig restored s') s₁ :=
      finishes_rollBackward henv h₁ hopen₁
    have hforward := finishes_rollForward henv (.inl rfl) h₁ hs.phase (.inl hopen₁)
    obtain ⟨⟨habsent, hinconsistent, hswapped⟩, -⟩ := hR₁
    obtain ⟨status, moved⟩ := report
    simp only [SwapRunResult.status, Option.map_some, hstopped₁ s₁ hi₁]
    cases status with
    | absent => exact absurd rfl habsent
    | inconsistent => exact absurd rfl hinconsistent
    | swapped => exact absurd rfl hswapped
    | metadataPending => exact hforward
    | planned | movingOriginals | movingIncoming | rolledBack | cleaned => exact hback
  · refine wp_bind (finishes_step (henv.helper .status) (fun _ _ => hmarked.wp_swapStatus)
      fun report s₁ hi₁ hR₁ => wp_read_bind ?_)
    have hread : (⟨true, some report, none⟩ : SwapRunResult).status = some .swapped :=
      congrArg some hR₁.1
    simp only [hread, hstopped₁ s₁ hi₁]
    exact finishes_rollForward henv (.inl rfl) (hs.of_intent hi₁) hs.phase
      (.inr (by rw [hR₁.2]; exact hmarked))

/-- A rollback that completed in `swapping` reads as a swap nobody accounts for. -/
theorem finishes_reconcileSwapping_absent (hs : InPhase .swapping s)
    (hclear : Clear orig s.volume) :
    Finishes (reconcileSwap env s.intent) (fun _ s' => s'.intent.phase = .completionUnknown) s := by
  refine wp_bind (finishes_step (henv.helper .status) (fun _ _ => hclear.wp_swapStatus)
    fun report s₁ hi₁ hR₁ => wp_read_bind ?_)
  have habsent : (⟨true, some report, none⟩ : SwapRunResult).status = some .absent :=
    congrArg some hR₁.1
  simp only [habsent]
  rw [if_neg (by rw [hs.phase]; simp)]
  refine wp_bind ?_
  unfold markUnknown
  rw [if_neg (by rw [hs.phase]; simp)]
  exact finishes_advance (hs.of_intent hi₁) (by decide) fun s₂ h₂ _ _ => wp_pure h₂.phase

end

/-- The crash left a state that boot accounts for. -/
def AccountedFor (s : Overwrite id C) : Prop :=
  s.intent.phase ≠ .completionUnknown ∧ ¬ (s.intent.phase = .swapping ∧ s.volume.work = none)

theorem finishes_reconcile (henv : env.Correct) (h : Recoverable orig restored s)
    (haccounted : AccountedFor s) (hopen : s.intent.phase.isSettled = false) :
    Finishes (reconcileOverwriteIntent env s.intent) (fun _ s' => Settled orig restored s') s := by
  obtain ⟨hmode, htarget, hfits⟩ := h
  obtain ⟨-, hjournal⟩ := haccounted
  have hs : InPhase s.intent.phase s := ⟨hmode, htarget, rfl⟩
  have hsome : ¬ s.intent.targetVolume.isNone = true := by
    rw [Option.isSome_iff_exists] at htarget
    obtain ⟨name, hname⟩ := htarget
    simp [hname]
  unfold reconcileOverwriteIntent
  rw [if_neg (by simp [hmode])]
  cases hph : s.intent.phase with
  | recorded | staging | stagedVerified =>
    rw [hph] at hfits hs
    simp only [hsome, preFencePhases]
    exact finishes_settleUnswapped henv hs (by decide) hfits
  | fenced | protecting =>
    rw [hph] at hfits hs
    simp only [hsome, preFencePhases, fencedPhases]
    exact finishes_reconcileFenced henv hs (by decide) (.inl hfits)
  | materializing =>
    rw [hph] at hfits hs
    simp only [hsome, preFencePhases, fencedPhases]
    exact finishes_reconcileFenced henv hs (by decide) hfits
  | swapping =>
    rw [hph] at hfits hs
    simp only [hsome, preFencePhases, fencedPhases]
    rcases hfits with hclear | ⟨hstopped, hswap⟩
    · exact absurd ⟨hph, hclear.work⟩ hjournal
    · exact finishes_reconcileSwapping henv hs hstopped hswap
  | swapped =>
    rw [hph] at hfits hs
    simp only [hsome, preFencePhases, fencedPhases]
    exact finishes_reconcileSwapped henv hs hfits
  | committed | rolledBack | completionUnknown =>
    rw [hph] at hopen
    cases hopen

/-- The second pass takes down the fence of an intent that is settled. -/
theorem finishes_releaseLeftoverFence (henv : env.Correct) (hs : InPhase phase s)
    (hph : phase = .committed ∨ phase = .rolledBack) :
    Finishes (releaseLeftoverFence env) (fun _ s' => InPhase phase s' ∧ s'.volume = s.volume ∧
        s'.intent.fenceState.isLive = false) s := by
  refine wp_read_bind ?_
  split
  · refine wp_bind (wp_imp (finishes_releaseFence henv.releaseLeftover hs)
      (fun released s₁ h₁ => ?_))
    obtain ⟨-, h₁, hv₁, hf₁⟩ := h₁
    refine wp_guardedBy (fun _ => wp_guardedBy (fun _ => wp_write trivial ?_) fun _ => ?_)
      fun _ => ?_
    · exact ⟨⟨h₁.mode, h₁.target, h₁.phase⟩, hv₁, hf₁⟩
    · exact ⟨h₁, hv₁, hf₁⟩
    · exact ⟨h₁, hv₁, hf₁⟩
  · rename_i hidle
    refine wp_pure ⟨hs, rfl, ?_⟩
    rw [hs.phase] at hidle
    rcases hph with rfl | rfl <;> simpa using hidle

/-- An intent that is parked is left parked. -/
theorem finishes_releaseLeftoverFence_parked (hparked : s.intent.phase = .completionUnknown) :
    Finishes (releaseLeftoverFence env) (fun _ s' => s'.intent.phase = .completionUnknown) s := by
  refine wp_read_bind ?_
  rw [if_neg (by rw [hparked]; simp)]
  exact wp_pure hparked

/-- The second pass keeps what the first one settled. -/
theorem finishes_releaseLeftoverFence_settled (h : Settled orig restored s) :
    Finishes (releaseLeftoverFence env) (fun _ s' => Settled orig restored s') s := by
  refine wp_read_bind ?_
  rw [if_neg (by simp [h.fence])]
  exact wp_pure h

/-- One boot settles a recoverable overwrite that it accounts for. -/
theorem finishes_boot (henv : env.Correct) (h : Recoverable orig restored s)
    (haccounted : AccountedFor s) :
    Finishes (reconcileOverwriteIntentsAtStartup env) (fun _ s' => Settled orig restored s') s := by
  refine wp_bind (wp_read_bind ?_)
  split
  · rename_i hsett
    refine wp_pure ?_
    have hfits := h.fits
    have hs := h.inPhase
    have hknown := haccounted.1
    generalize s.intent.phase = phase at hfits hs hknown hsett
    cases phase with
    | committed =>
      refine wp_imp (finishes_releaseLeftoverFence henv hs (.inl rfl))
        (fun _ s' hQ => ⟨.inr ⟨hQ.1.phase, ?_⟩, hQ.2.2⟩)
      rw [hQ.2.1]
      exact hfits
    | rolledBack =>
      refine wp_imp (finishes_releaseLeftoverFence henv hs (.inr rfl))
        (fun _ s' hQ => ⟨.inl ⟨hQ.1.phase, ?_⟩, hQ.2.2⟩)
      rw [hQ.2.1]
      exact hfits
    | completionUnknown => exact absurd rfl hknown
    | _ => cases hsett
  · rename_i hopen
    refine wp_bind (wp_imp (finishes_reconcile henv h haccounted (by simpa using hopen))
      (fun _ s₁ h₁ => ?_))
    exact wp_pure (finishes_releaseLeftoverFence_settled h₁)

/-- Boot leaves an overwrite parked that it does not account for. -/
theorem finishes_boot_parked (henv : env.Correct) (h : Recoverable orig restored s)
    (hunaccounted : ¬ AccountedFor s) :
    Finishes (reconcileOverwriteIntentsAtStartup env)
      (fun _ s' => s'.intent.phase = .completionUnknown) s := by
  refine wp_bind (wp_read_bind ?_)
  by_cases hparked : s.intent.phase = .completionUnknown
  · rw [if_pos (by rw [hparked]; rfl)]
    exact wp_pure (finishes_releaseLeftoverFence_parked hparked)
  · have hgone : s.intent.phase = .swapping ∧ s.volume.work = none := by
      by_contra hnot
      exact hunaccounted ⟨hparked, hnot⟩
    obtain ⟨hph, hwork⟩ := hgone
    have hs : InPhase .swapping s := ⟨h.mode, h.target, hph⟩
    have hclear : Clear orig s.volume := by
      have hfits := h.fits
      rw [hph] at hfits
      rcases hfits with hclear | ⟨-, hopen | hmarked⟩
      · exact hclear
      · exact absurd hopen.work (by simp [hwork])
      · exact absurd hmarked.work (by simp [hwork])
    have hsome : ¬ s.intent.targetVolume.isNone = true := by
      have htarget := h.target
      rw [Option.isSome_iff_exists] at htarget
      obtain ⟨name, hname⟩ := htarget
      simp [hname]
    rw [if_neg (by rw [hph]; simp [RestoreIntentPhase.isSettled])]
    refine wp_bind ?_
    unfold reconcileOverwriteIntent
    rw [if_neg (by simp [h.mode])]
    simp only [hph, hsome, preFencePhases, fencedPhases]
    refine wp_imp (finishes_reconcileSwapping_absent henv hs hclear) (fun _ s₁ h₁ => ?_)
    exact wp_pure (finishes_releaseLeftoverFence_parked h₁)

end Settlement

/-- One boot settles the crash of a live pipeline, wherever that was cut and
whatever it was answered, exactly when the pipeline has not parked the intent
itself and the intent is not in `swapping` over a volume without a work
directory, as long as every name is UTF-8. -/
theorem boot_settles_crash_iff (s₀ : Overwrite id C) (hadmitted : Admitted s₀)
    (live : LiveAnswers C) (hlive : live.WholeSteps)
    (hnamed : Named (s₀.volume.lookup .root) live.restoredRoot) (b : Budget) (env : Answers C)
    (henv : env.Correct) :
    Settled (s₀.volume.lookup .root) live.restoredRoot
        ((reconcileOverwriteIntentsAtStartup env).after none
          ((runOverwritePipeline live).after b s₀)) ↔
      AccountedFor ((runOverwritePipeline live).after b s₀) := by
  have h := recoverable_pipeline hadmitted hlive hnamed b
  constructor
  · intro hsett
    by_contra hunaccounted
    obtain ⟨-, -, hparked⟩ := done_of_wp (finishes_boot_parked henv h hunaccounted)
    rcases hsett.data with ⟨hph, -⟩ | ⟨hph, -⟩
    · rw [hparked] at hph
      cases hph
    · rw [hparked] at hph
      cases hph
  · intro haccounted
    obtain ⟨-, -, hsett⟩ := done_of_wp (finishes_boot henv h haccounted)
    exact hsett

theorem Answers.complete_correct : (Answers.complete : Answers C).Correct where
  helper _ := ⟨[], ⟨[], [], []⟩, rfl⟩
  release _ := ⟨.inl rfl, .inl rfl⟩
  releaseLeftover _ := ⟨.inl rfl, .inl rfl⟩
  staging := .inl rfl

/-- The dependents change after the swap is prepared, so the pipeline rolls back;
nothing else goes wrong. -/
def changedBeforeSwap : LiveAnswers Nat :=
  { LiveAnswers.complete sampleContent with beforeSwap := .changed }

theorem changedBeforeSwap_whole : changedBeforeSwap.WholeSteps := ⟨rfl, rfl⟩

theorem changedBeforeSwap_named :
    Named (sampleOverwrite.volume.lookup .root) changedBeforeSwap.restoredRoot := by
  refine ⟨Folder.forall_lookup (by decide), fun n hn => ?_⟩
  unfold LiveAnswers.restoredRoot at hn
  split at hn
  · cases hn
  · exact Folder.forall_lookup (f := sampleContent) (by decide) n hn

/-- Cut right before the rollback helper runs, the pipeline leaves a journal, and
boot rolls back. -/
theorem boot_settles_crash_before_rollback :
    Settled (sampleOverwrite.volume.lookup .root) changedBeforeSwap.restoredRoot
      ((reconcileOverwriteIntentsAtStartup .complete).after none
        ((runOverwritePipeline changedBeforeSwap).after (some 12) sampleOverwrite)) := by
  refine (boot_settles_crash_iff sampleOverwrite sampleOverwrite_admitted
    changedBeforeSwap changedBeforeSwap_whole changedBeforeSwap_named (some 12) .complete
    Answers.complete_correct).mpr ⟨by decide, fun hgone => ?_⟩
  have hwork : ((runOverwritePipeline changedBeforeSwap).after (some 12)
      sampleOverwrite).volume.work.isSome = true := by decide
  rw [hgone.2] at hwork
  cases hwork

/-- Cut right after the rollback helper completed, the pipeline leaves the intent
in `swapping` without a journal, and boot parks it. -/
theorem boot_parks_completed_rollback : Admitted sampleOverwrite ∧ changedBeforeSwap.WholeSteps ∧
      (Answers.complete : Answers Nat).Correct ∧
      ¬ Settled (sampleOverwrite.volume.lookup .root) changedBeforeSwap.restoredRoot
        ((reconcileOverwriteIntentsAtStartup .complete).after none
          ((runOverwritePipeline changedBeforeSwap).after (some 13) sampleOverwrite)) := by
  refine ⟨sampleOverwrite_admitted, changedBeforeSwap_whole, Answers.complete_correct,
    fun hsett => ?_⟩
  have hparked : ((reconcileOverwriteIntentsAtStartup .complete).after none
      ((runOverwritePipeline changedBeforeSwap).after (some 13)
        sampleOverwrite)).intent.phase = .completionUnknown := by decide
  rcases hsett.data with ⟨hph, -⟩ | ⟨hph, -⟩
  · rw [hparked] at hph
    cases hph
  · rw [hparked] at hph
    cases hph

end Sencho.Recovery
