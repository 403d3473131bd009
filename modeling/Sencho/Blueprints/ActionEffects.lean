import Sencho.Blueprints.Ticks

/-!
# What an action leaves

An action writes the row of its own node and adds events of its own node.  A check leaves the row
at its revision, and in a state the decision checks again unless the deploy of a repair failed.
-/

namespace Sencho.Blueprints

open Verified CodeUnits

/-! ## What an action adds -/

/-- Only the row of one node is written, and events of one kind are added. -/
structure Adds (E : Event → Prop) (m : Int) (l l' : Ledger) : Prop where
  rows : ∀ k, k ≠ m → l'.getDeployment k = l.getDeployment k
  events : ∃ es, l'.trace = es ++ l.trace ∧ ∀ e ∈ es, E e

namespace Adds

variable {E E' : Event → Prop} {m : Int} {l l' l'' : Ledger}

theorem refl (l : Ledger) : Adds E m l l := ⟨fun _ _ => rfl, [], rfl, fun _ he => by cases he⟩

theorem trans (h : Adds E m l l') (h' : Adds E m l' l'') : Adds E m l l'' := by
  obtain ⟨es, htrace, hes⟩ := h.events
  obtain ⟨es', htrace', hes'⟩ := h'.events
  refine ⟨fun k hk => (h'.rows k hk).trans (h.rows k hk), es' ++ es, ?_, ?_⟩
  · rw [htrace', htrace, List.append_assoc]
  · intro e he
    rcases List.mem_append.mp he with hnew | hold
    · exact hes' e hnew
    · exact hes e hold

theorem mono (h : Adds E m l l') (hE : ∀ e, E e → E' e) : Adds E' m l l' := by
  obtain ⟨es, htrace, hes⟩ := h.events
  exact ⟨h.rows, es, htrace, fun e he => hE e (hes e he)⟩

end Adds

section Writes

variable {E : Event → Prop} (m : Int) (l : Ledger)

theorem getDeployment_upsert (change : BlueprintDeployment → BlueprintDeployment) (k : Int) :
    (l.upsert m change).getDeployment k = if k = m then
        some { change ((l.getDeployment m).getD (Ledger.blankDeployment m)) with nodeId := m }
      else l.getDeployment k :=
  Table.find?_put l.deployments _ k

theorem adds_upsert (change : BlueprintDeployment → BlueprintDeployment) :
    Adds E m l (l.upsert m change) := by
  refine ⟨fun k hk => ?_, [], rfl, fun _ he => by cases he⟩
  rw [getDeployment_upsert, if_neg hk]

theorem adds_delete : Adds E m l (l.deleteDeployment m) := by
  refine ⟨fun k hk => ?_, [], rfl, fun _ he => by cases he⟩
  unfold Ledger.getDeployment Ledger.deleteDeployment
  rw [Table.find?_delete]
  cases hrow : l.deployments.find? k with
  | none => rfl
  | some row =>
    have hkey := Table.key_of_find? hrow
    simp [Option.filter, hkey, hk]

theorem adds_record {event : Event} (h : E event) : Adds E m l (l.record event) :=
  ⟨fun _ _ => rfl, [event], rfl, fun e he => by rw [List.mem_singleton.mp he]; exact h⟩

end Writes

/-- An event that neither checks nor pulls by tag. -/
def Calm (m : Int) (event : Event) : Prop :=
  event.nodeId = m ∧ event.isChecked = false ∧ event.unpinned = false

/-- An event that is no check. -/
def Unchecked (m : Int) (event : Event) : Prop := event.nodeId = m ∧ event.isChecked = false

def About (m : Int) (event : Event) : Prop := event.nodeId = m

theorem Calm.unchecked {m : Int} {event : Event} (h : Calm m event) : Unchecked m event :=
  ⟨h.1, h.2.1⟩

section Functions

variable {E : Event → Prop} (blueprint : Blueprint) (m : Int) (l : Ledger)
variable (a : NodeAnswers)

theorem adds_deployFailed (message : Text) : Adds E m l (deployFailed m message l).1 := by
  unfold deployFailed
  dsimp only
  exact adds_upsert m l _

theorem adds_deployConflicts (message : Text) : Adds E m l (deployConflicts m message l).1 := by
  unfold deployConflicts
  dsimp only
  exact adds_upsert m l _

theorem adds_deployUnderLock (a : DeployAnswers) :
    Adds E m l (deployUnderLock blueprint m a l).1 := by
  have hstart : Adds E m l (l.setStatus m .deploying) := adds_upsert m l _
  unfold deployUnderLock
  split
  · exact hstart.trans (adds_deployFailed m _ _)
  · exact hstart.trans (adds_deployConflicts m _ _)
  · split
    · exact hstart.trans (adds_deployConflicts m _ _)
    · exact hstart.trans (adds_deployFailed m _ _)
    · have hdone : Adds E m l (deployAcknowledged blueprint m a (l.setStatus m .deploying)) :=
        hstart.trans (adds_upsert m _ _)
      split
      · exact hdone.trans (adds_deployFailed m _ _)
      · exact hdone

theorem adds_deployToNode (a : DeployAnswers) :
    Adds (Unchecked m) m l (deployToNode blueprint m a l).1 := by
  have hrecord : Adds (Unchecked m) m l (l.record (.deployToNode m)) :=
    adds_record m l ⟨rfl, rfl⟩
  unfold deployToNode
  split
  · exact hrecord
  · exact hrecord.trans (adds_deployUnderLock blueprint m _ a)

theorem adds_reapply (a : RepairAnswers) (pinned : Bool) (hE : E (.reapply m pinned)) :
    Adds E m l (reapplyAuthorizedMaterialization blueprint m a l pinned).1 := by
  have hrecord : Adds E m l (l.record (.reapply m pinned)) := adds_record m l hE
  unfold reapplyAuthorizedMaterialization deployAuthorizedMaterialization
  split
  · exact hrecord
  · split
    · exact hrecord
    · split
      · exact hrecord
      · split
        · exact hrecord
        · exact hrecord.trans (adds_deployUnderLock blueprint m _ a.deploy)

theorem adds_enforceDigestRepair (a : RepairAnswers) :
    Adds (Calm m) m l (enforceDigestRepair blueprint m a l).1 := by
  unfold enforceDigestRepair
  split
  · exact .refl l
  · split
    · exact .refl l
    · split
      · exact .refl l
      · split
        · exact .refl l
        · exact adds_reapply blueprint m l a true ⟨rfl, rfl, rfl⟩

theorem adds_recordRepairHold (block : RepairBlock) :
    Adds (Calm m) m l (recordRepairHold m l block) := by
  unfold recordRepairHold
  split
  · exact .refl l
  · exact (adds_upsert m l _).trans (adds_record m _ ⟨rfl, rfl, rfl⟩)

/-- A settled refusal writes the row only when it was left correcting. -/
theorem settleRefused_ledger (outcome : DeployOutcome) (before : Option BlueprintDeployment)
    (deferred : Bool) :
    ∃ error, (settleRefusedDriftRepair m l outcome before deferred).1 =
      if (l.getDeployment m).any (fun d => d.status = .correcting) then
        l.upsert m fun d =>
          { d with status := .drifted, lastError := if deferred then d.lastError else error }
      else l := by
  unfold settleRefusedDriftRepair
  simp only [apply_ite Prod.fst, ite_self]
  cases (l.getDeployment m).any fun d => d.status = .correcting with
  | true => exact ⟨_, rfl⟩
  | false => exact ⟨none, rfl⟩

theorem adds_settleRefused (outcome : DeployOutcome) (before : Option BlueprintDeployment)
    (deferred : Bool) :
    Adds (Calm m) m l (settleRefusedDriftRepair m l outcome before deferred).1 := by
  obtain ⟨error, hledger⟩ := settleRefused_ledger m l outcome before deferred
  rw [hledger]
  split
  · exact adds_upsert m l _
  · exact .refl l

theorem adds_settleRepair (before : Option BlueprintDeployment)
    (repaired : Ledger × Except Text DeployOutcome) :
    Adds (Calm m) m repaired.1 (settleRepair m before repaired) := by
  unfold settleRepair
  dsimp only
  split
  · exact adds_recordRepairHold m _ _
  · exact .refl _
  · split
    · exact adds_settleRefused m _ _ _ _
    · exact (adds_settleRefused m _ _ _ _).trans (adds_record m _ ⟨rfl, rfl, rfl⟩)

theorem adds_runDriftRepair (cause : DriftCause) :
    Adds (Unchecked m) m l (runDriftRepair blueprint m a l cause).1 := by
  unfold runDriftRepair
  split
  · exact (adds_enforceDigestRepair blueprint m l a.repair).mono fun _ h => h.unchecked
  · split
    · exact adds_reapply blueprint m l a.repair false ⟨rfl, rfl⟩
    · exact adds_deployToNode blueprint m l a.deploy

theorem adds_handleDrift (reason : Text) (cause : DriftCause) (isNew : Bool) :
    Adds (Unchecked m) m l (handleDrift blueprint m a l reason cause isNew) := by
  unfold handleDrift
  split
  · exact .refl l
  · split
    · exact adds_record m l ⟨rfl, rfl⟩
    · exact .refl l
  · split
    · exact (adds_recordRepairHold m l _).mono fun _ h => h.unchecked
    · have hstart : Adds (Unchecked m) m l (l.setStatus m .correcting) := adds_upsert m l _
      have hsettle := adds_settleRepair m (l.getDeployment m)
        (runDriftRepair blueprint m a (l.setStatus m .correcting) cause)
      exact (hstart.trans (adds_runDriftRepair blueprint m _ a cause)).trans
        (hsettle.mono fun _ h => h.unchecked)

theorem adds_clearSettled : Adds E m l (clearSettledDriftState m l) := by
  unfold clearSettledDriftState
  split
  · exact adds_upsert m l _
  · exact .refl l

/-- A check writes one row, and after the check itself adds no other. -/
theorem adds_checkDrift :
    Adds (Unchecked m) m (l.record (.checked m a.check)) (checkDrift blueprint m a l) := by
  unfold checkDrift
  dsimp only
  split
  · exact adds_clearSettled m _
  · split
    · split
      · exact (adds_recordRepairHold m _ _).mono fun _ h => h.unchecked
      · exact .refl _
    · exact .refl _
  · split
    · exact (adds_recordRepairHold m _ _).mono fun _ h => h.unchecked
    · exact (adds_upsert m _ _).trans (adds_handleDrift blueprint m _ a _ _ _)

theorem adds_withdrawFromNode : Adds E m l (withdrawFromNode m a l) := by
  have hstart : Adds E m l (l.setStatus m .withdrawing) := adds_upsert m l _
  unfold withdrawFromNode
  split
  · exact .refl l
  · dsimp only
    split
    · exact hstart.trans (adds_delete m _)
    · exact hstart.trans (adds_upsert m _ _)
    · exact hstart.trans (adds_upsert m _ _)
    · exact hstart.trans (adds_upsert m _ _)

theorem adds_clearReversedEvict : Adds E m l (applyClearReversedEvict m l) := by
  unfold applyClearReversedEvict
  split
  · exact .refl l
  · split
    · exact .refl l
    · split
      · exact adds_delete m l
      · exact adds_upsert m l _

theorem adds_clearStaleGuard : Adds E m l (applyClearStaleGuard m a l) := by
  unfold applyClearStaleGuard
  split
  · exact .refl l
  · split
    · exact .refl l
    · split
      · exact .refl l
      · exact adds_delete m l

/-- An action that is no check adds no check. -/
theorem adds_executeOneAction {action : PreviewAction} (hcheck : isCheck action = false) :
    Adds (Unchecked m) m l (executeOneAction blueprint m a l action) := by
  cases action with
  | create | update => exact adds_deployToNode blueprint m l a.deploy
  | remove => exact adds_withdrawFromNode m l a
  | checkObserve | checkEnforce => cases hcheck
  | awaitStateReview | awaitEvictConfirm =>
    unfold executeOneAction
    exact adds_upsert m l _
  | clearStaleGuard => exact adds_clearStaleGuard m l a
  | clearReversedEvict => exact adds_clearReversedEvict m l
  | inFlightDeploy | inFlightCorrect | inFlightWithdraw | skipCordoned | skipWithdrawn
  | blockedNameConflict => exact .refl l

theorem executeOneAction_check {action : PreviewAction} (hcheck : isCheck action = true) :
    executeOneAction blueprint m a l action = checkDrift blueprint m a l := by
  cases action with
  | checkObserve | checkEnforce => rfl
  | _ => cases hcheck

/-- Every action adds events of its own node only. -/
theorem adds_about (action : PreviewAction) :
    Adds (About m) m l (executeOneAction blueprint m a l action) := by
  cases hcheck : isCheck action with
  | false => exact (adds_executeOneAction blueprint m l a hcheck).mono fun _ h => h.1
  | true =>
    rw [executeOneAction_check blueprint m l a hcheck]
    have hrecord : Adds (About m) m l (l.record (.checked m a.check)) := adds_record m l rfl
    exact hrecord.trans ((adds_checkDrift blueprint m l a).mono fun _ h => h.1)

end Functions

/-! ## The trace of a node -/

section Trace

variable {n : Int} {es trace : List Event}

theorem owed_append_unchecked (h : ∀ e ∈ es, e.nodeId = n → e.isChecked = false) :
    owed n (es ++ trace) = owed n trace := by
  induction es with
  | nil => rfl
  | cons e es ih =>
    have hrest := ih fun e he => h e (List.mem_cons_of_mem _ he)
    have hfirst := h e List.mem_cons_self
    cases e with
    | checked m result =>
      have hne : m ≠ n := fun hm => by cases hfirst hm
      rw [List.cons_append, owed, if_neg hne, hrest]
    | deployToNode m => exact hrest
    | reapply m pinned => exact hrest
    | alert m message => exact hrest

/-- Events of other nodes, and deploys by digest, leave a node pinned. -/
theorem pinnedOnly_append (h : PinnedOnly n trace)
    (hes : ∀ e ∈ es, e.nodeId = n → e.unpinned = false) : PinnedOnly n (es ++ trace) := by
  induction es with
  | nil => exact h
  | cons e es ih =>
    apply pinnedOnly_cons _ (ih fun e he => hes e (List.mem_cons_of_mem _ he))
    intro hnode hunpinned
    rw [hes e List.mem_cons_self hnode] at hunpinned
    cases hunpinned

/-- While nothing is owed any deploy leaves a node pinned. -/
theorem pinnedOnly_append_free (h : PinnedOnly n trace) (hfree : owed n trace = false)
    (hes : ∀ e ∈ es, e.nodeId = n → e.isChecked = false) : PinnedOnly n (es ++ trace) := by
  induction es with
  | nil => exact h
  | cons e es ih =>
    have hrest : ∀ e ∈ es, e.nodeId = n → e.isChecked = false :=
      fun e he => hes e (List.mem_cons_of_mem _ he)
    apply pinnedOnly_cons _ (ih hrest)
    intro _ _
    exact (owed_append_unchecked hrest).trans hfree

end Trace

/-! ## The row a check leaves -/

/-- The row of a node has the revision, and a status among some. -/
def RowIs (revision : Int) (m : Int) (statuses : DeploymentStatus → Prop) (l : Ledger) : Prop :=
  ∃ dep, l.getDeployment m = some dep ∧ dep.appliedRevision = some revision ∧ statuses dep.status

section Rows

variable {revision m : Int} {l : Ledger} {S S' : DeploymentStatus → Prop}

section

variable (h : RowIs revision m S l)
include h

theorem RowIs.mono (hS : ∀ s, S s → S' s) : RowIs revision m S' l := by
  obtain ⟨dep, hdep, hrevision, hstat⟩ := h
  exact ⟨dep, hdep, hrevision, hS _ hstat⟩

/-- A write that keeps the revision. -/
theorem RowIs.upsert {change : BlueprintDeployment → BlueprintDeployment}
    (hkeeps : ∀ d, (change d).appliedRevision = d.appliedRevision)
    (hstat : ∀ d, S' (change d).status) : RowIs revision m S' (l.upsert m change) := by
  obtain ⟨dep, hdep, hrevision, _⟩ := h
  refine ⟨_, by rw [getDeployment_upsert, if_pos rfl, hdep], ?_, ?_⟩
  · exact (hkeeps dep).trans hrevision
  · exact hstat dep

theorem RowIs.record (event : Event) : RowIs revision m S (l.record event) := h

theorem RowIs.failed (message : Text) :
    RowIs revision m (· = .failed) (deployFailed m message l).1 := by
  unfold deployFailed
  dsimp only
  exact h.upsert (fun _ => rfl) fun _ => rfl

theorem RowIs.conflict (message : Text) :
    RowIs revision m (· = .nameConflict) (deployConflicts m message l).1 := by
  unfold deployConflicts
  dsimp only
  exact h.upsert (fun _ => rfl) fun _ => rfl

end

/-- The states a digest repair leaves while it is owed. -/
def Kept (s : DeploymentStatus) : Prop :=
  s = .active ∨ s = .drifted ∨ s = .repairHeld ∨ s = .nameConflict

def Any (_ : DeploymentStatus) : Prop := True

theorem RowIs.hold (h : RowIs revision m S l) (block : RepairBlock) :
    RowIs revision m (· = .repairHeld) (recordRepairHold m l block) := by
  unfold recordRepairHold
  split
  · rename_i hsame
    obtain ⟨dep, hdep, hrevision, _⟩ := h
    rw [hdep, Option.any_some, Bool.and_eq_true] at hsame
    exact ⟨dep, hdep, hrevision, of_decide_eq_true hsame.1⟩
  · apply RowIs.record
    exact h.upsert (fun _ => rfl) fun _ => rfl

end Rows

section Repairs

variable (blueprint : Blueprint) (m : Int) {l : Ledger} {S : DeploymentStatus → Prop}

/-- The three ends of a deploy that holds the lock. -/
theorem deployUnderLock_cases (h : RowIs blueprint.revision m S l) (a : DeployAnswers)
    (hlock : a.lockFree = true) :
    (∃ message l', RowIs blueprint.revision m Any l' ∧ deployFails a = true ∧
        deployUnderLock blueprint m a l = deployFailed m message l') ∨
      (∃ message l', RowIs blueprint.revision m Any l' ∧
        deployUnderLock blueprint m a l = deployConflicts m message l') ∨
      ∃ l', RowIs blueprint.revision m (· = .active) l' ∧
        deployUnderLock blueprint m a l = (l', ⟨.active, none, none⟩) := by
  have hstart : RowIs blueprint.revision m Any (l.setStatus m .deploying) :=
    h.upsert (fun _ => rfl) fun _ => trivial
  have hdone : RowIs blueprint.revision m (· = .active)
      (deployAcknowledged blueprint m a (l.setStatus m .deploying)) := by
    obtain ⟨dep, hdep, _, _⟩ := hstart
    unfold deployAcknowledged
    exact ⟨_, by rw [getDeployment_upsert, if_pos rfl, hdep], rfl, rfl⟩
  cases hconflict : a.hasNameConflict with
  | error message =>
    exact .inl ⟨message, _, hstart, by simp [deployFails, hlock, hconflict],
      by simp only [deployUnderLock, hconflict]⟩
  | ok taken =>
    cases taken with
    | true =>
      right
      left
      refine ⟨text "A stack named \"" ++ blueprint.name ++
        text "\" already exists on this node and is not managed by Sencho.", _, hstart, ?_⟩
      simp only [deployUnderLock, hconflict]
    | false =>
      cases happly : a.apply with
      | error e =>
        cases e with
        | nameConflict message =>
          exact .inr (.inl ⟨message, _, hstart, by simp only [deployUnderLock, hconflict, happly]⟩)
        | other message =>
          exact .inl ⟨message, _, hstart, by simp [deployFails, hlock, hconflict, happly],
            by simp only [deployUnderLock, hconflict, happly]⟩
      | ok =>
        cases hfreeze : a.freeze with
        | error message =>
          exact .inl ⟨message, _, hdone.mono fun _ _ => trivial,
            by simp [deployFails, hlock, hconflict, happly, hfreeze],
            by simp only [deployUnderLock, hconflict, happly, hfreeze]⟩
        | ok =>
          exact .inr (.inr ⟨_, hdone, by simp only [deployUnderLock, hconflict, happly, hfreeze]⟩)

/-- How a repair left the row: untouched, held, or at the end of its deploy. -/
inductive RepairEnd (revision : Int) (m : Int) (fails : Bool) :
    Ledger × Except Text DeployOutcome → Prop where
  | untouched {l : Ledger} {r : Except Text DeployOutcome}
      (row : RowIs revision m (· = .correcting) l)
      (notActive : ∀ outcome, r = .ok outcome → outcome.status ≠ .active) :
      RepairEnd revision m fails (l, r)
  | failed {l : Ledger} {message : Text} (row : RowIs revision m (· = .failed) l)
      (failed : fails = true) : RepairEnd revision m fails (l, .ok (refused message))
  | conflict {l : Ledger} {outcome : DeployOutcome} (row : RowIs revision m (· = .nameConflict) l)
      (status : outcome.status = .nameConflict) : RepairEnd revision m fails (l, .ok outcome)
  | done {l : Ledger} {outcome : DeployOutcome} (row : RowIs revision m (· = .active) l)
      (status : outcome.status = .active) : RepairEnd revision m fails (l, .ok outcome)

section

variable (h : RowIs blueprint.revision m (· = .correcting) l)
include h

theorem repairEnd_deploy (a : DeployAnswers) : RepairEnd blueprint.revision m (deployFails a)
      ((deployAuthorizedMaterialization blueprint m a l).1,
        .ok (deployAuthorizedMaterialization blueprint m a l).2) := by
  unfold deployAuthorizedMaterialization
  cases hlock : a.lockFree with
  | false =>
    apply RepairEnd.untouched h
    intro outcome houtcome
    cases houtcome
    simp
  | true =>
    rcases deployUnderLock_cases blueprint m h a hlock with
      ⟨message, l', hrow, hfails, hend⟩ | ⟨message, l', hrow, hend⟩ | ⟨l', hrow, hend⟩
    · rw [hend]
      exact .failed (hrow.failed message) hfails
    · rw [hend]
      exact .conflict (hrow.conflict message) rfl
    · rw [hend]
      exact .done hrow rfl

theorem repairEnd_reapply (a : RepairAnswers) : RepairEnd blueprint.revision m
      (a.again.recordable && a.again.binding.isOk && a.content.isOk && deployFails a.deploy)
      ((reapplyAuthorizedMaterialization blueprint m a l true).1,
        .ok (reapplyAuthorizedMaterialization blueprint m a l true).2) := by
  have hrecord := h.record (.reapply m true)
  unfold reapplyAuthorizedMaterialization
  cases hrecordable : a.again.recordable with
  | false =>
    apply RepairEnd.untouched hrecord
    intro outcome houtcome
    cases houtcome
    simp [refused]
  | true =>
    cases hbinding : a.again.binding with
    | error reason =>
      apply RepairEnd.untouched hrecord
      intro outcome houtcome
      cases houtcome
      simp [heldRepair]
    | ok =>
      cases hcontent : a.content with
      | error message =>
        apply RepairEnd.untouched hrecord
        intro outcome houtcome
        cases houtcome
        simp [refused]
      | ok => exact repairEnd_deploy blueprint m hrecord a.deploy

/-- A digest repair leaves the row correcting, or at the end of its deploy. -/
theorem repairEnd_digest (a : RepairAnswers) :
    RepairEnd blueprint.revision m (digestDeployFails a) (enforceDigestRepair blueprint m a l) := by
  unfold enforceDigestRepair digestDeployFails
  cases hrecordable : a.first.recordable with
  | false =>
    apply RepairEnd.untouched h
    intro outcome houtcome
    cases houtcome
    simp [refused]
  | true =>
    cases hbinding : a.first.binding with
    | error reason =>
      apply RepairEnd.untouched h
      intro outcome houtcome
      cases houtcome
      simp [heldRepair]
    | ok =>
      cases hplatform : a.platform with
      | error message =>
        apply RepairEnd.untouched h
        intro outcome houtcome
        cases houtcome
      | ok =>
        cases hpins : a.pins with
        | false =>
          apply RepairEnd.untouched h
          intro outcome houtcome
          cases houtcome
          simp [refused]
        | true => exact repairEnd_reapply blueprint m h a

end

/-- Settling a repair that is not done leaves no row correcting. -/
theorem row_settleRefused {S : DeploymentStatus → Prop} {before : Option BlueprintDeployment}
    {fails deferred : Bool} (result : DeployOutcome) (hrow : RowIs blueprint.revision m S l)
    (hS : ∀ s, S s → s = .correcting ∨ Kept s ∨ fails = true) :
    RowIs blueprint.revision m (fun s => Kept s ∨ fails = true)
      (settleRefusedDriftRepair m l result before deferred).1 := by
  obtain ⟨error, heq⟩ := settleRefused_ledger m l result before deferred
  rw [heq]
  split
  · exact hrow.upsert (fun _ => rfl) fun _ => .inl (.inr (.inl rfl))
  · rename_i hnot
    obtain ⟨dep, hdep, hrevision, hstat⟩ := hrow
    refine ⟨dep, hdep, hrevision, ?_⟩
    rw [hdep, Option.any_some] at hnot
    rcases hS _ hstat with hcorrecting | hkept
    · exact absurd (decide_eq_true hcorrecting) hnot
    · exact hkept

/-- A settled repair leaves no row correcting, and leaves it failed only when its deploy failed. -/
theorem row_settleRepair {before : Option BlueprintDeployment} {fails : Bool}
    {repaired : Ledger × Except Text DeployOutcome}
    (h : RepairEnd blueprint.revision m fails repaired) :
    RowIs blueprint.revision m (fun s => Kept s ∨ fails = true)
      (settleRepair m before repaired) := by
  cases h with
  | untouched row notActive =>
    rename_i l r
    have hsett := fun result deferred =>
      @row_settleRefused blueprint m _ _ before fails deferred result row fun s hs => .inl hs
    unfold settleRepair
    dsimp only
    split
    · exact (row.hold _).mono fun s hs => .inl (.inr (.inr (.inl hs)))
    · rename_i hactive
      cases r with
      | ok outcome => exact absurd hactive (notActive outcome rfl)
      | error message => cases hactive
    · split
      · exact hsett _ _
      · exact (hsett _ _).record _
  | failed row hfailed =>
    have hsett := fun result deferred =>
      @row_settleRefused blueprint m _ _ before fails deferred result row
        fun s _ => .inr (.inr hfailed)
    unfold settleRepair
    dsimp only
    split
    · rename_i hheld
      cases hheld
    · rename_i hactive
      cases hactive
    · split
      · exact hsett _ _
      · exact (hsett _ _).record _
  | conflict row hstat =>
    have hsett := fun result deferred =>
      @row_settleRefused blueprint m _ _ before fails deferred result row
        fun s hs => .inr (.inl (.inr (.inr (.inr hs))))
    unfold settleRepair
    dsimp only
    split
    · rename_i hheld
      rw [hstat] at hheld
      cases hheld
    · rename_i hactive
      rw [hstat] at hactive
      cases hactive
    · split
      · exact hsett _ _
      · exact (hsett _ _).record _
  | done row hstat =>
    unfold settleRepair
    dsimp only
    split
    · rename_i hheld
      rw [hstat] at hheld
      cases hheld
    · exact row.mono fun s hs => .inl (.inl hs)
    · rename_i hheld hactive
      exact absurd hstat hactive

/-- Whether the repair of a cause reaches a deploy that fails. -/
def repairFails (a : NodeAnswers) : DriftCause → Bool
  | .digest => digestDeployFails a.repair
  | _ => deployFails a.deploy

theorem repairEnd_run (hinline : isGitManagedBlueprint blueprint = false)
    (h : RowIs blueprint.revision m (· = .correcting) l) (a : NodeAnswers) (cause : DriftCause) :
    RepairEnd blueprint.revision m (repairFails a cause)
      (runDriftRepair blueprint m a l cause) := by
  have htag := repairEnd_deploy blueprint m (h.record (.deployToNode m)) a.deploy
  unfold runDriftRepair
  cases cause with
  | digest => exact repairEnd_digest blueprint m h a.repair
  | revision | container =>
    rw [if_neg (by decide), if_neg (by simp [hinline])]
    exact htag

section

variable (hinline : isGitManagedBlueprint blueprint = false)
  (henforce : blueprint.driftMode = .enforce) (h : RowIs blueprint.revision m S l)
include hinline henforce h

/-- In Enforce a drift is held, or repaired by the method of its cause. -/
theorem row_handleDrift (a : NodeAnswers) (reason : Text) (cause : DriftCause) (isNew : Bool) :
    RowIs blueprint.revision m (fun s => Kept s ∨ repairFails a cause = true)
      (handleDrift blueprint m a l reason cause isNew) := by
  unfold handleDrift
  rw [henforce]
  dsimp only
  split
  · exact (h.hold _).mono fun s hs => .inl (.inr (.inr (.inl hs)))
  · have hstart : RowIs blueprint.revision m (· = .correcting) (l.setStatus m .correcting) :=
      h.upsert (fun _ => rfl) fun _ => rfl
    exact row_settleRepair blueprint m (repairEnd_run blueprint m hinline hstart a cause)

/-- The row a check leaves. -/
theorem row_checkDrift (a : NodeAnswers) : RowIs blueprint.revision m
      (fun s => a.check = .matched ∨ ((∀ reason cause block, a.check ≠ .drifted reason cause block) ∧
          S s) ∨ Kept s ∨ ∃ cause, repairs blueprint a = some cause ∧ repairFails a cause = true)
      (checkDrift blueprint m a l) := by
  have hrecord := h.record (.checked m a.check)
  unfold checkDrift repairs
  rw [henforce]
  cases hcheck : a.check with
  | matched =>
    rw [hcheck] at hrecord
    dsimp only
    unfold clearSettledDriftState
    split
    · exact hrecord.upsert (fun _ => rfl) fun _ => .inl rfl
    · exact hrecord.mono fun s _ => .inl rfl
  | unverified reason block =>
    rw [hcheck] at hrecord
    cases block with
    | none =>
      apply hrecord.mono
      intro s hs
      exact .inr (.inl ⟨fun _ _ _ heq => DriftCheckResult.noConfusion heq, hs⟩)
    | some block =>
      exact (hrecord.hold block).mono fun s hs => .inr (.inr (.inl (.inr (.inr (.inl hs)))))
  | drifted reason cause block =>
    rw [hcheck] at hrecord
    simp only [if_true]
    cases hblock : effectiveRepairBlock blueprint a block with
    | some held =>
      exact (hrecord.hold held).mono fun s hs => .inr (.inr (.inl (.inr (.inr (.inl hs)))))
    | none =>
      have hdrifted : RowIs blueprint.revision m Any
          ((l.record (.checked m (.drifted reason cause block))).upsert m fun d =>
            { d with status := .drifted, driftSummary := some reason }) :=
        hrecord.upsert (fun _ => rfl) fun _ => trivial
      apply (row_handleDrift blueprint m hinline henforce hdrifted a reason cause _).mono
      intro s hs
      right
      right
      rcases hs with hkept | hfails
      · exact .inl hkept
      · exact .inr ⟨cause, rfl, hfails⟩

end

end Repairs

end Sencho.Blueprints
