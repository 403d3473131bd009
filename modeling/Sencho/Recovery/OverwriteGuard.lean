import Sencho.Recovery.HelperSteps

/-!
# The guard of the data steps

The only guard of the data steps of a staged overwrite is the fence column,
which a release writes after it has dealt with every member.  The invariant
`Guarded` says that a release that has begun is recorded in the fence column or
finds the volume closed.  This module proves that reconciliation, at boot and on
a retry, keeps it at every interruption and under every answer.
-/

namespace Sencho.Recovery

open Verified.Interrupt Prog

variable {id : IntentId} {C : Type}

/-- Some fenced container was dealt with. -/
def Released (log : List OverwriteEvent) : Prop := ∃ e ∈ log, e.releases = true

/-- No step that moves data comes after a release. -/
def NoDataAfterRelease (log : List OverwriteEvent) : Prop :=
  ∀ pre e post, log = pre ++ e :: post → e.movesData = true → ¬ Released pre

theorem NoDataAfterRelease.concat {log : List OverwriteEvent} {e : OverwriteEvent}
    (h : NoDataAfterRelease log) (he : e.movesData = true → ¬ Released log) :
    NoDataAfterRelease (log ++ [e]) := by
  intro pre d post heq hd
  rcases List.eq_nil_or_concat post with rfl | ⟨post, last, rfl⟩
  · have hsplit := List.append_inj' heq rfl
    rw [← hsplit.1]
    exact he (by rw [List.cons.inj hsplit.2 |>.1]; exact hd)
  · have hshape : pre ++ d :: post.concat last = (pre ++ d :: post) ++ [last] := by simp
    rw [hshape] at heq
    exact h pre d post (List.append_inj' heq rfl).1 hd

theorem Released.concat_issued {log : List OverwriteEvent} {action : SwapAction}
    {moves : Bool} : Released (log ++ [.issued action moves]) ↔ Released log := by
  constructor
  · rintro ⟨e, he, hr⟩
    rcases List.mem_append.mp he with he | he
    · exact ⟨e, he, hr⟩
    · rw [List.mem_singleton.mp he] at hr
      cases hr
  · rintro ⟨e, he, hr⟩
    exact ⟨e, List.mem_append_left _ he, hr⟩

/-- The phases in which the volume may hold an open journal. -/
def openPhases : List RestoreIntentPhase :=
  [.materializing, .swapping, .swapped, .completionUnknown]

structure Guarded (s : Overwrite id C) : Prop where
  quiet : NoDataAfterRelease s.log
  begun : Released s.log → workloadsMayRunNow s.intent.fenceState = true ∨ Closed s.volume
  unswapped : s.intent.phase ∉ openPhases → Closed s.volume

/-- A held fence with a release behind it is over a closed volume. -/
theorem Guarded.closed_of_held {s : Overwrite id C} (h : Guarded s)
    (hheld : workloadsMayRunNow s.intent.fenceState = false) (hrel : Released s.log) :
    Closed s.volume := by
  rcases h.begun hrel with hmay | hclosed
  · rw [hheld] at hmay
    cases hmay
  · exact hclosed

/-- The program keeps the invariant at every interruption, and returns with `Q`. -/
def Keeps {α : Type} (p : OverwriteM id C α) (Q : α → Overwrite id C → Prop)
    (s : Overwrite id C) : Prop :=
  wp p (fun a s' => Guarded s' ∧ Q a s') (fun _ => Guarded) Guarded s

section Rules

variable {α β : Type} {s : Overwrite id C}
variable {Q : α → Overwrite id C → Prop}

theorem Keeps.pure {a : α} (h : Guarded s) (hq : Q a s) : Keeps (pure a) Q s := wp_pure ⟨h, hq⟩

theorem Keeps.fail {e : ErrorClass} (h : Guarded s) : Keeps (fail e) Q s := wp_fail h

theorem Keeps.bind {p : OverwriteM id C α} {f : α → OverwriteM id C β}
    {P : α → Overwrite id C → Prop} {Q : β → Overwrite id C → Prop}
    (h : Keeps p P s) (hf : ∀ a s', Guarded s' → P a s' → Keeps (f a) Q s') : Keeps (p >>= f) Q s :=
  wp_bind (wp_imp h (fun a s' ha => hf a s' ha.1 ha.2))

theorem Keeps.read {f : Overwrite id C → OverwriteM id C β}
    {Q : β → Overwrite id C → Prop} (h : Keeps (f s) Q s) : Keeps (read >>= f) Q s :=
  wp_read_bind h

theorem Keeps.write {g : Overwrite id C → Overwrite id C}
    {Q : Unit → Overwrite id C → Prop} (h : Guarded s) (hg : Guarded (g s))
    (hq : Q () (g s)) : Keeps (write g) Q s := wp_write h ⟨hg, hq⟩

theorem Keeps.mono {p : OverwriteM id C α} {P : α → Overwrite id C → Prop} (h : Keeps p P s)
    (hpq : ∀ a s', Guarded s' → P a s' → Q a s') : Keeps p Q s :=
  wp_imp h (fun a s' ha => ⟨ha.1, hpq a s' ha.1 ha.2⟩)

theorem Keeps.guardedBy {c : Bool} {p : OverwriteM id C Unit}
    {Q : Unit → Overwrite id C → Prop} (h : Guarded s)
    (hyes : c = true → Keeps p Q s) (hno : Q () s) : Keeps (guardedBy c p) Q s :=
  wp_guardedBy hyes fun _ => ⟨h, hno⟩

end Rules

section Intent

variable {s : Overwrite id C}
variable {now : Int} {extra : IntentAdvanceFields} {phase : RestoreIntentPhase}

/-- A write of the intent that keeps the volume and the log. -/
theorem Guarded.setIntent {f : IntentRow → IntentRow} (h : Guarded s)
    (hfence : Released s.log → workloadsMayRunNow (f s.intent).fenceState = true ∨ Closed s.volume)
    (hph : (f s.intent).phase ∉ openPhases → Closed s.volume) : Guarded (s.setIntent f) :=
  ⟨h.quiet, hfence, hph⟩

/-- What an intent write leaves alone. -/
structure IntentOnly (s s' : Overwrite id C) : Prop where
  volume : s'.volume = s.volume
  log : s'.log = s.log

section

variable (h : Guarded s)
include h

theorem keeps_advance (hclosed : mayAdvance s.intent phase = true → phase ∉ openPhases →
      Closed s.volume) :
    Keeps (advanceIntent phase extra now)
      (fun _ s' => IntentOnly s s' ∧ s'.intent.phase = phase) s := by
  refine Keeps.read ?_
  split
  · rename_i hmay
    exact Keeps.write h (h.setIntent h.begun (hclosed hmay)) ⟨⟨rfl, rfl⟩, rfl⟩
  · exact Keeps.fail h

/-- The early phases follow phases in which the volume is closed. -/
theorem Guarded.closed_of_early (hearly : phase ∈ [.staging, .stagedVerified, .fenced, .protecting])
    (hmay : mayAdvance s.intent phase = true) : Closed s.volume := by
  refine h.unswapped ?_
  have hallowed : phase ∈ allowedTransitions s.intent.phase := by
    have := (Bool.and_eq_true _ _ ▸ hmay).1
    simpa using this
  generalize s.intent.phase = p at hallowed
  cases p <;> cases phase <;> simp_all [allowedTransitions, openPhases]

theorem keeps_advance_early (hearly : phase ∈ [.staging, .stagedVerified, .fenced, .protecting]) :
    Keeps (advanceIntent phase extra now)
      (fun _ s' => IntentOnly s s' ∧ s'.intent.phase = phase) s :=
  keeps_advance h fun hmay _ => h.closed_of_early hearly hmay

theorem keeps_update : Keeps (updateIntent extra now)
      (fun _ s' => IntentOnly s s' ∧ s'.intent.phase = s.intent.phase) s :=
  Keeps.write h (h.setIntent h.begun h.unswapped) ⟨⟨rfl, rfl⟩, rfl⟩

theorem keeps_setFenceState {state : RestoreFenceState}
    (hstate : Released s.log → workloadsMayRunNow state = true ∨ Closed s.volume) :
    Keeps (setFenceState state now)
      (fun _ s' => IntentOnly s s' ∧ s'.intent.phase = s.intent.phase) s :=
  Keeps.write h (h.setIntent hstate h.unswapped) ⟨⟨rfl, rfl⟩, rfl⟩

theorem keeps_markUnknown {intent : IntentRow} {c : ErrorClass} :
    Keeps (markUnknown intent c now) (fun _ s' => IntentOnly s s') s := by
  unfold markUnknown
  split
  · exact (keeps_update h).mono fun _ _ _ hq => hq.1
  · refine (keeps_advance h fun _ hopen => ?_).mono fun _ _ _ hq => hq.1
    exact absurd (by simp [openPhases]) hopen

theorem keeps_clearFenceOutcome {intent : IntentRow} :
    Keeps (clearFenceOutcome intent now) (fun _ _ => True) s :=
  Keeps.guardedBy h (fun _ => (keeps_update h).mono fun _ _ _ _ => trivial) trivial

theorem keeps_stagingVolumeGone {removal : VolumeRemoval} :
    Keeps (stagingVolumeGone removal) (fun _ s' => s' = s) s := by
  refine Keeps.read ?_
  split <;> exact Keeps.pure h rfl

end

end Intent

section Helper

variable {s : Overwrite id C}
variable {run : HelperRun C} {action : SwapAction}

/-- What a helper step leaves alone. -/
structure HelperOnly (s s' : Overwrite id C) : Prop where
  intent : s'.intent = s.intent
  released : Released s'.log ↔ Released s.log

theorem HelperOnly.trans {s s' s'' : Overwrite id C} (h : HelperOnly s s')
    (h' : HelperOnly s' s'') : HelperOnly s s'' :=
  ⟨h'.intent.trans h.intent, h'.released.trans h.released⟩

section

variable (h : Guarded s)
include h

theorem keeps_runSwapStep (hquiet : Released s.log → movesData action s.volume = false)
    (hclosed : Closed s.volume → Released s.log ∨ s.intent.phase ∉ openPhases →
      Closed (run.volume action s.volume)) :
    Keeps (runSwapStep action run) (fun r s' => r = run.result action s.volume ∧
        s'.volume = run.volume action s.volume ∧ HelperOnly s s') s := by
  refine Keeps.read (Keeps.bind
    (P := fun _ s' => s' = { s with volume := run.volume action s.volume }.record
      (.issued action (movesData action s.volume)))
    (Keeps.write h ?_ rfl) fun _ s' hs' hq => ?_)
  · refine ⟨h.quiet.concat fun hmoves hrel => ?_, fun hrel => ?_, fun hopen => ?_⟩
    · rw [hquiet hrel] at hmoves
      cases hmoves
    · have hrel' := Released.concat_issued.mp hrel
      rcases h.begun hrel' with hmay | hc
      · exact .inl hmay
      · exact .inr (hclosed hc (.inl hrel'))
    · exact hclosed (h.unswapped hopen) (.inr hopen)
  · subst hq
    exact Keeps.pure hs' ⟨rfl, rfl, rfl, Released.concat_issued⟩

/-- A step other than `prepare` that moves nothing once a release has begun. -/
theorem keeps_step (hne : action ≠ .prepare)
    (hquiet : Released s.log → movesData action s.volume = false) :
    Keeps (runSwapStep action run) (fun r s' => r = run.result action s.volume ∧
        s'.volume = run.volume action s.volume ∧ HelperOnly s s') s :=
  keeps_runSwapStep h hquiet fun hc _ => hc.helper hne run

theorem keeps_status : Keeps (runSwapStep .status run)
      (fun r s' => r = run.result .status s.volume ∧ s'.volume = s.volume ∧ HelperOnly s s') s := by
  refine (keeps_step h (by simp) fun _ => movesData_status _).mono fun r s' _ hq => ?_
  rw [volume_status] at hq
  exact hq

/-- Under a fence that is not released, a step has nothing to move once a
release has begun. -/
theorem Guarded.quiet_of_held (hheld : workloadsMayRunNow s.intent.fenceState = false)
    (action : SwapAction) (hrel : Released s.log) : movesData action s.volume = false :=
  (h.closed_of_held hheld hrel).movesData action

end

/-- A closing step that ends `ok` leaves a closed volume. -/
theorem keeps_closing {statusRun : HelperRun C} (haction : action = .rollback ∨ action = .cleanup)
    (h : Guarded s) (hquiet : Released s.log → movesData action s.volume = false) :
    Keeps (runClosingSwapStep action run statusRun)
      (fun r s' => (r.ok = true → Closed s'.volume) ∧ HelperOnly s s') s := by
  have hne : action ≠ .prepare := by
    rcases haction with rfl | rfl <;> simp
  refine Keeps.bind (keeps_step h hne hquiet) fun r s₁ h₁ hq₁ => ?_
  obtain ⟨hr, hvol, honly⟩ := hq₁
  by_cases hok : r.ok = true
  · rw [if_pos hok]
    refine Keeps.pure h₁ ⟨fun _ => ?_, honly⟩
    rw [hvol]
    rw [hr] at hok
    rcases haction with rfl | rfl
    · exact closed_of_work_none (work_none_of_rollback hok)
    · exact closed_of_work_none (work_none_of_cleanup hok)
  · rw [if_neg hok]
    refine Keeps.bind (keeps_status h₁) fun after s₂ h₂ hq₂ => ?_
    obtain ⟨hafter, hvol₂, honly₂⟩ := hq₂
    by_cases habsent : (after.ok && after.status = some .absent) = true
    · rw [if_pos habsent]
      refine Keeps.pure h₂ ⟨fun _ => ?_, honly.trans honly₂⟩
      have hstat : after.status = some .absent :=
        of_decide_eq_true (Bool.and_eq_true _ _ ▸ habsent).2
      rw [hafter] at hstat
      rw [hvol₂]
      exact closed_of_work_none (reading_of_status hstat).absent
    · rw [if_neg habsent]
      exact Keeps.pure h₂ ⟨fun hok' => absurd hok' hok, honly.trans honly₂⟩

end Helper

variable {event : OverwriteEvent}

section Members

variable {R : Overwrite id C → Prop} {s : Overwrite id C}

/-- A property that dealing with one more member keeps. -/
def MemberInv (R : Overwrite id C → Prop) : Prop :=
  ∀ s members event, event.releases = true → R s → R ({ s with members }.record event)

section

variable (hR : MemberInv R) (h : R s)
include hR h

theorem MemberInv.wp_record (he : event.releases = true) :
    wp (write (·.record event)) (fun _ => R) (fun (_ : ErrorClass) _ => False) R s :=
  wp_write h (hR s s.members event he h)

theorem MemberInv.wp_mark (containerId : String) (now : Int) (failed : Bool) :
    wp (do markMemberReleased containerId now; pure failed) (fun _ => R) (fun _ _ => False) R s :=
  wp_write_bind h (wp_pure (hR s _ _ rfl h))

theorem MemberInv.wp_failed (he : event.releases = true) (applied : Bool) :
    wp (do guardedBy applied (write (·.record event)); pure true) (fun _ => R)
      (fun (_ : ErrorClass) _ => False) R s := by
  refine wp_bind (wp_guardedBy (fun _ => ?_) (fun _ => wp_pure h))
  exact wp_imp (hR.wp_record h he) (fun _ _ hQ => wp_pure hQ)

theorem MemberInv.wp_startMember (answer : DockerAnswer) (m : FenceMember) (now : Int) :
    wp (startMember answer m now) (fun _ => R) (fun _ _ => False) R s := by
  cases answer with
  | ok =>
    refine wp_bind (wp_imp (hR.wp_record h rfl) (fun _ s₁ h₁ => ?_))
    exact hR.wp_mark h₁ m.containerId now false
  | notModified | notFound => exact hR.wp_mark h m.containerId now false
  | failed applied => exact hR.wp_failed h rfl applied

theorem MemberInv.wp_releaseMember (answers : String → MemberAnswer) (restart : Bool) (now : Int)
    (m : FenceMember) :
    wp (releaseMember answers restart now m) (fun _ => R) (fun _ _ => False) R s := by
  unfold releaseMember
  split
  · exact wp_pure h
  · split
    · refine wp_bind (wp_imp (hR.wp_record h rfl) (fun _ s₁ h₁ => ?_))
      split
      · exact hR.wp_startMember h₁ _ m now
      · exact hR.wp_mark h₁ m.containerId now false
    · exact hR.wp_mark h m.containerId now false
    · exact wp_pure h
    · exact hR.wp_failed h rfl _

/-- What dealing with one member keeps, the whole loop keeps at every
interruption. -/
theorem MemberInv.wp_releaseMembers (answers : String → MemberAnswer) (restart : Bool) (now : Int)
    (members : List FenceMember) :
    wp (releaseMembers answers restart now members) (fun _ => R) (fun _ _ => False) R
      s := by
  induction members generalizing s with
  | nil => exact wp_pure h
  | cons m ms ih =>
    refine wp_bind (wp_imp (hR.wp_releaseMember h answers restart now m) (fun _ s₁ h₁ => ?_))
    refine wp_bind (wp_imp (ih h₁) (fun _ s₂ h₂ => ?_))
    exact wp_pure h₂

end

end Members

theorem OverwriteEvent.movesData_of_releases
    (h : event.releases = true) : event.movesData = false := by
  cases event with
  | issued action moves => cases h
  | _ => rfl

section Release

variable {s : Overwrite id C}
variable {restart : Bool} {now : Int} {answers : String → MemberAnswer}

/-- What a release leaves alone, until it writes the fence. -/
structure MembersOnly (s s' : Overwrite id C) : Prop where
  volume : s'.volume = s.volume
  intent : s'.intent = s.intent

/-- Dealing with a member of a fence over a closed volume. -/
theorem memberInv_closed (s : Overwrite id C) (hclosed : Closed s.volume) :
    MemberInv fun s' => Guarded s' ∧ MembersOnly s s' := by
  rintro s₁ members event he ⟨h₁, honly⟩
  have hclosed₁ : Closed s₁.volume := honly.volume ▸ hclosed
  refine ⟨⟨h₁.quiet.concat fun hmoves => ?_, fun _ => .inr hclosed₁, fun _ => hclosed₁⟩,
    honly.volume, honly.intent⟩
  rw [OverwriteEvent.movesData_of_releases he] at hmoves
  cases hmoves

theorem keeps_releaseMembers {members : List FenceMember} (h : Guarded s)
    (hclosed : Closed s.volume) :
    Keeps (releaseMembers answers restart now members) (fun _ s' => MembersOnly s s') s :=
  wp_mono ((memberInv_closed s hclosed).wp_releaseMembers ⟨h, rfl, rfl⟩ answers restart
    now members) (fun _ _ hQ => hQ) (fun _ _ hE => hE.elim) (fun _ hK => hK.1)

/-- What a whole release leaves alone. -/
structure FenceOnly (s s' : Overwrite id C) : Prop where
  volume : s'.volume = s.volume
  phase : s'.intent.phase = s.intent.phase

theorem keeps_releaseRestoreFence {members : List FenceMember} (h : Guarded s)
    (hclosed : Closed s.volume) :
    Keeps (releaseRestoreFence answers restart now members) (fun _ s' => FenceOnly s s') s := by
  refine Keeps.bind (keeps_releaseMembers h hclosed) fun failed s₁ h₁ hq₁ => ?_
  refine Keeps.bind (keeps_setFenceState h₁ fun _ => .inr (hq₁.volume ▸ hclosed))
    fun _ s₂ h₂ hq₂ => ?_
  refine Keeps.pure h₂ ⟨hq₂.1.volume.trans hq₁.volume, ?_⟩
  rw [hq₂.2, hq₁.intent]

theorem keeps_releaseFence (h : Guarded s) (hclosed : Closed s.volume) :
    Keeps (releaseFence answers restart now) (fun _ s' => FenceOnly s s') s := by
  refine Keeps.read ?_
  split
  · exact Keeps.pure h ⟨rfl, rfl⟩
  · split
    · refine Keeps.bind (keeps_setFenceState h fun _ => .inr hclosed) fun _ s₁ h₁ hq₁ => ?_
      exact Keeps.pure h₁ ⟨hq₁.1.volume, hq₁.2⟩
    · exact keeps_releaseRestoreFence h hclosed

end Release

section Settlement

variable {s : Overwrite id C} {env : Answers C}
variable {now : Int} {intent : IntentRow}

section

variable (h : Guarded s)
include h

theorem keeps_settleProven {committed released : Bool} (hclosed : Closed s.volume) :
    Keeps (settleProven committed released now) (fun _ _ => True) s :=
  Keeps.bind (keeps_advance h fun _ _ => hclosed) fun _ _ h' _ => Keeps.pure h' trivial

theorem keeps_settleUnswapped (hclosed : Closed s.volume) :
    Keeps (settleUnswapped env) (fun _ _ => True) s := by
  refine Keeps.bind (keeps_stagingVolumeGone h) fun gone s₁ h₁ hq₁ => ?_
  subst hq₁
  refine Keeps.bind (keeps_releaseFence h₁ hclosed) fun released s₂ h₂ hq₂ => ?_
  split
  · exact keeps_settleProven h₂ (hq₂.volume ▸ hclosed)
  · exact Keeps.bind (keeps_update h₂) fun _ _ h' _ => Keeps.pure h' trivial

theorem keeps_unknown {c : ErrorClass} :
    Keeps (do markUnknown intent c now; pure Reconciled.unknown) (fun _ _ => True) s :=
  Keeps.bind (keeps_markUnknown h) fun _ _ h' _ => Keeps.pure h' trivial

theorem keeps_reconcileFenced : Keeps (reconcileFenced env intent) (fun _ _ => True) s := by
  refine Keeps.read ?_
  split
  · refine Keeps.bind (keeps_status h) fun r s₁ h₁ hq₁ => ?_
    obtain ⟨hr, hvol, -⟩ := hq₁
    split
    · exact Keeps.pure h₁ trivial
    · rename_i hstat
      rw [hr] at hstat
      have hwork := (reading_of_status hstat).absent
      exact keeps_settleUnswapped h₁ (hvol ▸ closed_of_work_none hwork)
    · exact keeps_unknown h₁
  · rename_i hheld
    have hheld' : workloadsMayRunNow s.intent.fenceState = false := by simpa using hheld
    refine Keeps.bind (keeps_closing (.inl rfl) h (h.quiet_of_held hheld' _)) fun r s₁ h₁ hq₁ => ?_
    split
    · rename_i hok
      exact keeps_settleUnswapped h₁ (hq₁.1 hok)
    · exact keeps_unknown h₁

theorem keeps_keepForRelease : Keeps (keepForRelease intent now) (fun _ _ => True) s := by
  refine Keeps.read ?_
  split
  · exact (keeps_update h).mono fun _ _ _ _ => trivial
  · exact (keeps_markUnknown h).mono fun _ _ _ _ => trivial

theorem keeps_finishCommitted : Keeps (finishCommitted env intent) (fun _ _ => True) s := by
  refine Keeps.bind (keeps_closing (.inr rfl) h fun _ => movesData_cleanup _)
    fun cleaned s₁ h₁ hq₁ => ?_
  split
  · rename_i hok
    refine Keeps.bind (keeps_releaseFence h₁ (hq₁.1 hok)) fun released s₂ h₂ hq₂ => ?_
    split
    · exact Keeps.bind (keeps_advance h₂ fun _ _ => hq₂.volume ▸ hq₁.1 hok)
        fun _ _ h' _ => Keeps.pure h' trivial
    · exact Keeps.bind (keeps_keepForRelease h₂) fun _ _ h' _ => Keeps.pure h' trivial
  · exact Keeps.bind (keeps_update h₁) fun _ _ h' _ => Keeps.pure h' trivial

theorem keeps_rollForward : Keeps (rollForward env intent (workloadsMayRunNow s.intent.fenceState))
      (fun _ _ => True) s := by
  have hcommit : Keeps (commitUnderFence env (workloadsMayRunNow s.intent.fenceState))
      (fun _ _ => True) s := by
    unfold commitUnderFence
    split
    · exact Keeps.pure h trivial
    · rename_i hheld
      refine Keeps.bind (keeps_step h (by simp)
        (h.quiet_of_held (by simpa using hheld) _)) fun _ _ h' _ => ?_
      exact Keeps.pure h' trivial
  refine Keeps.bind hcommit fun ok s₁ h₁ _ => ?_
  split
  · refine Keeps.bind (P := fun _ _ => True) (Keeps.guardedBy h₁ (fun _ => ?_) trivial)
      fun _ s₂ h₂ _ => keeps_finishCommitted h₂
    exact (keeps_advance h₁ fun _ hopen => absurd (by simp [openPhases]) hopen).mono
      fun _ _ _ _ => trivial
  · exact keeps_unknown h₁

theorem keeps_rollBackward :
    Keeps (rollBackward env intent (workloadsMayRunNow s.intent.fenceState))
      (fun _ _ => True) s := by
  unfold rollBackward
  split
  · exact Keeps.pure h trivial
  · rename_i hheld
    refine Keeps.bind (keeps_closing (.inl rfl) h
      (h.quiet_of_held (by simpa using hheld) _)) fun r s₁ h₁ hq₁ => ?_
    split
    · rename_i hok
      refine Keeps.bind (keeps_releaseFence h₁ (hq₁.1 hok)) fun released s₂ h₂ hq₂ => ?_
      exact keeps_settleProven h₂ (hq₂.volume ▸ hq₁.1 hok)
    · exact keeps_unknown h₁

theorem keeps_reconcileSwap : Keeps (reconcileSwap env intent) (fun _ _ => True) s := by
  refine Keeps.bind (keeps_status h) fun r s₁ h₁ hq₁ => Keeps.read ?_
  obtain ⟨hr, hvol, -⟩ := hq₁
  split
  · rename_i hstat
    rw [hr] at hstat
    have hclosed : Closed s₁.volume :=
      hvol ▸ closed_of_work_none (reading_of_status hstat).absent
    split
    · refine Keeps.bind (keeps_releaseFence h₁ hclosed) fun released s₂ h₂ hq₂ => ?_
      exact keeps_settleProven h₂ (hq₂.volume ▸ hclosed)
    · exact keeps_unknown h₁
  · split
    · exact Keeps.pure h₁ trivial
    · exact keeps_unknown h₁
  · split
    · exact Keeps.pure h₁ trivial
    · exact keeps_unknown h₁
  · exact keeps_rollForward h₁
  · split
    · exact Keeps.pure h₁ trivial
    · exact keeps_rollForward h₁
  · exact keeps_rollBackward h₁

theorem keeps_reconcile : Keeps (reconcileOverwriteIntent env s.intent) (fun _ _ => True) s := by
  unfold reconcileOverwriteIntent
  split
  · exact Keeps.pure h trivial
  · split
    · exact Keeps.pure h trivial
    · split
      · exact Keeps.pure h trivial
      · split
        · exact keeps_unknown h
        · split
          · rename_i hpre
            refine keeps_settleUnswapped h (h.unswapped ?_)
            generalize s.intent.phase = p at hpre
            cases p <;> simp_all [preFencePhases, openPhases]
          · split
            · exact keeps_reconcileFenced h
            · exact keeps_reconcileSwap h

/-- Settled intents have a closed volume. -/
theorem Guarded.closed_of_settled
    (hph : s.intent.phase = .committed ∨ s.intent.phase = .rolledBack) : Closed s.volume := by
  refine h.unswapped ?_
  rcases hph with hph | hph <;> rw [hph] <;> simp [openPhases]

theorem keeps_boot : Keeps (reconcileOverwriteIntentsAtStartup env) (fun _ _ => True) s := by
  have hfirst : Keeps (reconcileUnsettled env) (fun _ _ => True) s := by
    refine Keeps.read ?_
    split
    · exact Keeps.pure h trivial
    · exact Keeps.bind (keeps_reconcile h) fun _ _ h' _ => Keeps.pure h' trivial
  refine Keeps.bind hfirst fun _ s₁ h₁ _ => Keeps.read ?_
  split
  · rename_i hleft
    have hsett : s₁.intent.phase = .committed ∨ s₁.intent.phase = .rolledBack := by
      have hph := (Bool.and_eq_true _ _ ▸ hleft).2
      simpa using hph
    refine Keeps.bind (keeps_releaseFence h₁ (h₁.closed_of_settled hsett))
      fun released s₂ h₂ _ => ?_
    exact Keeps.guardedBy h₂ (fun _ => keeps_clearFenceOutcome h₂) trivial
  · exact Keeps.pure h₁ trivial

theorem keeps_retry : Keeps (retryOverwrite env) (fun _ _ => True) s := by
  refine Keeps.read ?_
  split
  · exact Keeps.fail h
  · split
    · rename_i hsett
      have hclosed := h.closed_of_settled (by simpa using hsett)
      have hrelease : Keeps (retryRelease env s.intent) (fun _ _ => True) s := by
        unfold retryRelease
        split
        · refine Keeps.bind (keeps_releaseFence h hclosed) fun released s₁ h₁ _ => ?_
          split
          · exact keeps_clearFenceOutcome h₁
          · exact Keeps.fail h₁
        · exact Keeps.pure h trivial
      exact Keeps.bind hrelease fun _ _ h' _ => Keeps.pure h' trivial
    · exact Keeps.bind (keeps_reconcile h) fun _ _ h' _ => Keeps.pure h' trivial

end

end Settlement

end Sencho.Recovery
