import Sencho.Blueprints.ActionEffects

/-!
# A digest drift and its repair

A check that finds another digest than the approved one owes the node a repair by digest.  Until
a check finds the node as approved, a deploy that pulls by tag would adopt what the approval
never saw.  A repair whose deploy fails leaves the row to the retry of an ordinary deploy, which
pulls by tag.
-/

namespace Sencho.Blueprints

open Verified CodeUnits

section Check

variable (blueprint : Blueprint) (m : Int) (l : Ledger)

theorem calm_handleDrift (henforce : blueprint.driftMode = .enforce) (a : NodeAnswers)
    (reason : Text) {cause : DriftCause} (hcause : cause = .digest) (isNew : Bool) :
    Adds (Calm m) m l (handleDrift blueprint m a l reason cause isNew) := by
  unfold handleDrift
  rw [henforce]
  dsimp only
  split
  · exact adds_recordRepairHold m _ _
  · have hrun : Adds (Calm m) m (l.setStatus m .correcting)
        (runDriftRepair blueprint m a (l.setStatus m .correcting) cause).1 := by
      unfold runDriftRepair
      rw [if_pos hcause]
      exact adds_enforceDigestRepair blueprint m _ a.repair
    have hstart : Adds (Calm m) m l (l.setStatus m .correcting) := adds_upsert m l _
    exact (hstart.trans hrun).trans (adds_settleRepair m _ _)

/-- A tick that repairs no other drift than a digest pulls nothing by tag. -/
theorem calm_checkDrift (henforce : blueprint.driftMode = .enforce) (a : NodeAnswers)
    (hdigest : ∀ cause, repairs blueprint a = some cause → cause = .digest) :
    Adds (Calm m) m (l.record (.checked m a.check)) (checkDrift blueprint m a l) := by
  unfold repairs at hdigest
  unfold checkDrift
  rw [henforce]
  cases hcheck : a.check with
  | matched => exact adds_clearSettled m _
  | unverified reason block =>
    cases block with
    | none => exact .refl _
    | some block => exact adds_recordRepairHold m _ _
  | drifted reason cause block =>
    rw [hcheck] at hdigest
    simp only [if_true]
    cases hblock : effectiveRepairBlock blueprint a block with
    | some held => exact adds_recordRepairHold m _ _
    | none =>
      have hcause : cause = .digest := hdigest cause (by simp [hblock])
      exact (adds_upsert m _ _).trans (calm_handleDrift blueprint m _ henforce a reason hcause _)

end Check

/-- What is known of a node a tick checks. -/
structure Watched (revision : Int) (n : Int) (l : Ledger) : Prop where
  pinned : PinnedOnly n l.trace
  row : RowIs revision n Any l
  kept : owed n l.trace = true → RowIs revision n Kept l

section Keeps

variable {blueprint : Blueprint} {n : Int} {l : Ledger}

theorem owed_checked (n : Int) (result : DriftCheckResult) (trace : List Event) :
    owed n (.checked n result :: trace) = owedAfter result (owed n trace) := by
  rw [owed, if_pos rfl]

/-- The trace of a node after a check of it. -/
theorem owed_checkDrift (a : NodeAnswers) :
    owed n (checkDrift blueprint n a l).trace = owedAfter a.check (owed n l.trace) := by
  obtain ⟨es, htrace, hes⟩ := (adds_checkDrift blueprint n l a).events
  rw [htrace, owed_append_unchecked fun e he _ => (hes e he).2]
  exact owed_checked n a.check l.trace

theorem pinned_checkDrift (henforce : blueprint.driftMode = .enforce) (h : PinnedOnly n l.trace)
    (a : NodeAnswers)
    (howed : owed n l.trace = true → ∀ cause, repairs blueprint a = some cause → cause = .digest) :
    PinnedOnly n (checkDrift blueprint n a l).trace := by
  have hchecked : PinnedOnly n (l.record (.checked n a.check)).trace := by
    apply pinnedOnly_cons _ h
    intro _ hunpinned
    cases hunpinned
  by_cases hdigest : ∀ cause, repairs blueprint a = some cause → cause = .digest
  · obtain ⟨es, htrace, hes⟩ := (calm_checkDrift blueprint n l henforce a hdigest).events
    rw [htrace]
    exact pinnedOnly_append hchecked fun e he _ => (hes e he).2.2
  · have hfree : owed n l.trace = false := by
      cases hbefore : owed n l.trace with
      | false => rfl
      | true => exact absurd (howed hbefore) hdigest
    have hafter : owed n (l.record (.checked n a.check)).trace = false := by
      show owed n (.checked n a.check :: l.trace) = false
      rw [owed_checked, hfree]
      unfold repairs at hdigest
      unfold owedAfter
      split
      · rfl
      · rename_i reason block hcheck
        exfalso
        apply hdigest
        intro cause hcause
        rw [hcheck] at hcause
        dsimp only at hcause
        split at hcause
        · exact (Option.some.inj hcause).symm
        · cases hcause
      · rfl
    obtain ⟨es, htrace, hes⟩ := (adds_checkDrift blueprint n l a).events
    rw [htrace]
    exact pinnedOnly_append_free hchecked hafter fun e he _ => (hes e he).2

/-- A steady check keeps what is known of its node. -/
theorem checkDrift_keeps (hinline : isGitManagedBlueprint blueprint = false)
    (henforce : blueprint.driftMode = .enforce) (h : Watched blueprint.revision n l)
    (a : NodeAnswers)
    (hfails : repairs blueprint a = some .digest → digestDeployFails a.repair = false)
    (howed : owed n l.trace = true → ∀ cause, repairs blueprint a = some cause → cause = .digest) :
    Watched blueprint.revision n (checkDrift blueprint n a l) := by
  refine ⟨pinned_checkDrift henforce h.pinned a howed,
    (row_checkDrift blueprint n hinline henforce h.row a).mono fun _ _ => trivial, ?_⟩
  rw [owed_checkDrift]
  intro hafter
  have hnot : ∀ cause, repairs blueprint a = some cause → repairFails a cause = false := by
    intro cause hcause
    have hdigest : cause = .digest := by
      cases hcheck : a.check with
      | matched | unverified reason block =>
        rw [repairs, hcheck] at hcause
        cases hcause
      | drifted reason found block =>
        by_cases hfound : found = .digest
        · rw [repairs, hcheck] at hcause
          dsimp only at hcause
          split at hcause
          · rw [← Option.some.inj hcause]
            exact hfound
          · cases hcause
        · rw [hcheck] at hafter
          have hbefore : owed n l.trace = true := by
            cases found with
            | digest => exact absurd rfl hfound
            | revision => exact hafter
            | container => exact hafter
          exact howed hbefore cause hcause
    rw [hdigest] at hcause ⊢
    exact hfails hcause
  have hclose : ∀ S : DeploymentStatus → Prop, RowIs blueprint.revision n S l →
      ((∀ reason cause block, a.check ≠ .drifted reason cause block) → a.check ≠ .matched →
        ∀ s, S s → Kept s) →
      RowIs blueprint.revision n Kept (checkDrift blueprint n a l) := by
    intro S hrow hS
    apply (row_checkDrift blueprint n hinline henforce hrow a).mono
    rintro s (hmatched | ⟨hundrifted, hs⟩ | hkept | ⟨cause, hcause, hfailed⟩)
    · rw [hmatched] at hafter
      cases hafter
    · apply hS hundrifted _ s hs
      intro hmatched
      rw [hmatched] at hafter
      cases hafter
    · exact hkept
    · rw [hnot cause hcause] at hfailed
      cases hfailed
  cases hbefore : owed n l.trace with
  | true => exact hclose Kept (h.kept hbefore) fun _ _ s hs => hs
  | false =>
    apply hclose Any h.row
    intro hundrifted hunmatched s _
    exfalso
    rw [hbefore] at hafter
    cases hcheck : a.check with
    | matched => exact hunmatched hcheck
    | unverified reason block =>
      rw [hcheck] at hafter
      cases hafter
    | drifted reason cause block => exact hundrifted _ _ _ hcheck

end Keeps

theorem reconcileBlueprint_subset {h : Host} {fleet : Fleet} {blueprint : Blueprint}
    {ref : ConfirmableActionRef} (hmem : ref ∈ (reconcileBlueprint h fleet blueprint).actions) :
    ref ∈ executorActions fleet blueprint := by
  cases hinline : isGitManagedBlueprint blueprint with
  | true =>
    unfold reconcileBlueprint at hmem
    rw [if_pos hinline] at hmem
    cases hmem
  | false =>
    cases hpolicy : policyPlacementAuthorizedActions fleet blueprint
        (executorActions fleet blueprint) true with
    | some authorized =>
      rw [reconcileBlueprint_policy hinline hpolicy] at hmem
      exact hmem
    | none =>
      cases hlegacy : legacyApproval h blueprint with
      | none =>
        rw [reconcileBlueprint_pending hinline hpolicy hlegacy] at hmem
        cases hmem
      | some entries =>
        rw [reconcileBlueprint_legacy hinline hpolicy hlegacy] at hmem
        unfold authorizeAgainstGitOpsPlacement filterAuthorizedExecutorActions at hmem
        split at hmem
        · exact (List.mem_filter.mp hmem).1
        · cases hmem
        · exact (List.mem_filter.mp (List.mem_filter.mp hmem).1).1

section Tick

variable {h : Host} {blueprint : Blueprint} {nodes : List Node} {labels : Int → List Text}

/-- Whether the blueprint wants a node, over the nodes and labels of a run. -/
def desiredIn (blueprint : Blueprint) (nodes : List Node) (labels : Int → List Text) (n : Int) :
    Bool :=
  desires ⟨.empty, nodes, labels, .empty, fun _ => none⟩ blueprint n

theorem desires_tick (l : Ledger) (i : TickInputs) (n : Int) :
    desires (tickFleet nodes labels l i) (tickRow blueprint i) n =
      desiredIn blueprint nodes labels n := rfl

/-- What is known of a node between ticks. -/
structure Known (blueprint : Blueprint) (nodes : List Node) (labels : Int → List Text) (n : Int)
    (l : Ledger) : Prop where
  pinned : PinnedOnly n l.trace
  kept : owed n l.trace = true →
    RowIs blueprint.revision n Kept l ∧ desiredIn blueprint nodes labels n = true

theorem Known.of_watched {n : Int} {l : Ledger} (hw : Watched blueprint.revision n l)
    (hdesired : desiredIn blueprint nodes labels n = true) : Known blueprint nodes labels n l :=
  ⟨hw.pinned, fun howed => ⟨hw.kept howed, hdesired⟩⟩

/-- A row that is kept, or looked at, is settled. -/
theorem settled_of_kept {n : Int} {l : Ledger} (hrow : RowIs blueprint.revision n Kept l) :
    ∃ dep, l.getDeployment n = some dep ∧ Settled blueprint dep := by
  obtain ⟨dep, hdep, hrevision, hstat⟩ := hrow
  refine ⟨dep, hdep, ?_⟩
  rcases hstat with hs | hs | hs | hs
  · exact .inl ⟨.inl hs, hrevision⟩
  · exact .inl ⟨.inr (.inl hs), hrevision⟩
  · exact .inl ⟨.inr (.inr hs), hrevision⟩
  · exact .inr hs

/-- An action on another node says nothing of this one. -/
theorem other_keeps {row : Blueprint} {n m : Int} {l : Ledger} {a : NodeAnswers}
    {action : PreviewAction} (hne : m ≠ n) :
    (executeOneAction row m a l action).getDeployment n = l.getDeployment n ∧
      owed n (executeOneAction row m a l action).trace = owed n l.trace ∧
      (PinnedOnly n l.trace → PinnedOnly n (executeOneAction row m a l action).trace) := by
  have hadds := adds_about row m l a action
  obtain ⟨es, htrace, hes⟩ := hadds.events
  have hother : ∀ e ∈ es, e.nodeId ≠ n := fun e he hnode => hne ((hes e he).symm.trans hnode)
  refine ⟨hadds.rows n (Ne.symm hne), ?_, ?_⟩
  · rw [htrace]
    exact owed_append_unchecked fun e he hnode => absurd hnode (hother e he)
  · intro hpinned
    rw [htrace]
    exact pinnedOnly_append hpinned fun e he hnode => absurd hnode (hother e he)

/-- Actions in order, from what each keeps. -/
theorem executeAuthorizedActions_keeps {row : Blueprint} {answers : Int → NodeAnswers}
    {actions : List ConfirmableActionRef} {I : Ledger → Prop} {l : Ledger} (h : I l)
    (hstep : ∀ ref ∈ actions, ∀ l, I l →
      I (executeOneAction row ref.nodeId (answers ref.nodeId) l ref.action)) :
    I (executeAuthorizedActions nodes row answers actions l) := by
  refine List.foldlRecOn _ _ h fun l hl ref href => ?_
  split
  · exact hl
  · exact hstep ref href l hl

/-- A node a tick checks: every action on it is the check. -/
theorem checked_tick {n : Int} {l : Ledger} {i : TickInputs}
    (hinline : isGitManagedBlueprint blueprint = false) (henforce : blueprint.driftMode = .enforce)
    (hsteady : Steady h blueprint nodes labels l i) (hknown : Known blueprint nodes labels n l)
    (hdesired : desiredIn blueprint nodes labels n = true) {dep : BlueprintDeployment}
    (hdep : l.getDeployment n = some dep)
    (hrevision : dep.appliedRevision = some blueprint.revision)
    (hsett : Settled blueprint dep) :
    Known blueprint nodes labels n (runTick h blueprint nodes labels l i) := by
  have hwatched : Watched blueprint.revision n (runTick h blueprint nodes labels l i) ∧
      (owed n (runTick h blueprint nodes labels l i).trace = true → owed n l.trace = true ∨
        ∃ reason block, (i.answers n).check = .drifted reason .digest block) := by
    apply executeAuthorizedActions_keeps (I := fun l' => Watched blueprint.revision n l' ∧
      (owed n l'.trace = true → owed n l.trace = true ∨
        ∃ reason block, (i.answers n).check = .drifted reason .digest block))
    · exact ⟨⟨hknown.pinned, ⟨dep, hdep, hrevision, trivial⟩, fun howed => (hknown.kept howed).1⟩,
        .inl⟩
    · rintro ref hmem l' ⟨hw, howed⟩
      by_cases hnode : ref.nodeId = n
      · have hplan := reconcileBlueprint_subset hmem
        have hcheck : isCheck ref.action = true := by
          apply checked_of_settled hplan
          · rw [hnode, desires_tick]
            exact hdesired
          · rw [hnode]
            exact hdep
          · exact hsett
        obtain ⟨hfails, hothers⟩ := hsteady ref hmem hcheck
        rw [hnode] at hfails hothers
        rw [executeOneAction_check _ _ _ _ hcheck, hnode]
        have hdigest : owed n l'.trace = true →
            ∀ cause, repairs (tickRow blueprint i) (i.answers n) = some cause →
              cause = .digest := by
          intro hafter cause hcause
          rcases howed hafter with hbefore | ⟨reason, block, hanswer⟩
          · have hsome : repairs blueprint (i.answers n) = some cause := hcause
            rcases hothers hbefore with hnone | hdigest
            · rw [hsome] at hnone
              cases hnone
            · rw [hsome] at hdigest
              exact Option.some.inj hdigest
          · rw [repairs, hanswer] at hcause
            dsimp only at hcause
            split at hcause
            · exact (Option.some.inj hcause).symm
            · cases hcause
        refine ⟨@checkDrift_keeps (tickRow blueprint i) n l' hinline henforce hw (i.answers n)
          hfails hdigest, ?_⟩
        rw [owed_checkDrift]
        intro hafter
        cases hanswer : (i.answers n).check with
        | matched =>
          rw [hanswer] at hafter
          cases hafter
        | unverified reason block =>
          rw [hanswer] at hafter howed
          rcases howed hafter with hbefore | ⟨_, _, hother⟩
          · exact .inl hbefore
          · cases hother
        | drifted reason cause block =>
          rw [hanswer] at hafter howed
          cases cause with
          | digest => exact .inr ⟨reason, block, rfl⟩
          | revision =>
            rcases howed hafter with hbefore | ⟨_, _, hother⟩
            · exact .inl hbefore
            · cases hother
          | container =>
            rcases howed hafter with hbefore | ⟨_, _, hother⟩
            · exact .inl hbefore
            · cases hother
      · obtain ⟨hrow, hsame, hpinned⟩ := @other_keeps (tickRow blueprint i) n ref.nodeId l'
          (i.answers ref.nodeId) ref.action hnode
        refine ⟨⟨hpinned hw.pinned, ?_, ?_⟩, ?_⟩
        · obtain ⟨dep', hdep', hrest⟩ := hw.row
          exact ⟨dep', hrow.trans hdep', hrest⟩
        · rw [hsame]
          intro hafter
          obtain ⟨dep', hdep', hrest⟩ := hw.kept hafter
          exact ⟨dep', hrow.trans hdep', hrest⟩
        · rw [hsame]
          exact howed
  exact .of_watched hwatched.1 hdesired

/-- A node a tick does not check, while nothing is owed. -/
theorem unchecked_tick {n : Int} {l : Ledger} {i : TickInputs} (hpinned : PinnedOnly n l.trace)
    (hfree : owed n l.trace = false)
    (hnone : ∀ ref ∈ tickActions h blueprint nodes labels l i, ref.nodeId = n →
      isCheck ref.action = false) :
    Known blueprint nodes labels n (runTick h blueprint nodes labels l i) := by
  have hkeeps : PinnedOnly n (runTick h blueprint nodes labels l i).trace ∧
      owed n (runTick h blueprint nodes labels l i).trace = false := by
    apply executeAuthorizedActions_keeps
      (I := fun l' => PinnedOnly n l'.trace ∧ owed n l'.trace = false) ⟨hpinned, hfree⟩
    rintro ref hmem l' ⟨hp, hf⟩
    by_cases hnode : ref.nodeId = n
    · have hadds := adds_executeOneAction (tickRow blueprint i) ref.nodeId l'
        (i.answers ref.nodeId) (hnone ref hmem hnode)
      obtain ⟨es, htrace, hes⟩ := hadds.events
      rw [htrace, owed_append_unchecked fun e he _ => (hes e he).2]
      exact ⟨pinnedOnly_append_free hp hf fun e he _ => (hes e he).2, hf⟩
    · obtain ⟨_, hsame, hother⟩ := @other_keeps (tickRow blueprint i) n ref.nodeId l'
        (i.answers ref.nodeId) ref.action hnode
      exact ⟨hother hp, hsame.trans hf⟩
  refine ⟨hkeeps.1, fun howed => ?_⟩
  rw [hkeeps.2] at howed
  cases howed

/-- A steady tick keeps what is known of a node. -/
theorem runTick_keeps {n : Int} {l : Ledger} {i : TickInputs}
    (hinline : isGitManagedBlueprint blueprint = false) (henforce : blueprint.driftMode = .enforce)
    (hsteady : Steady h blueprint nodes labels l i) (hknown : Known blueprint nodes labels n l) :
    Known blueprint nodes labels n (runTick h blueprint nodes labels l i) := by
  by_cases hchecks : ∃ ref ∈ tickActions h blueprint nodes labels l i,
      ref.nodeId = n ∧ isCheck ref.action = true
  · obtain ⟨ref, hmem, hnode, hcheck⟩ := hchecks
    obtain ⟨hdesired, dep, hdep, hcheckable⟩ :=
      checkable_of_plan (reconcileBlueprint_subset hmem) hcheck
    rw [hnode] at hdesired hdep
    exact checked_tick hinline henforce hsteady hknown hdesired hdep hcheckable.2 (.inl hcheckable)
  · cases howed : owed n l.trace with
    | true =>
      obtain ⟨hrow, hdesired⟩ := hknown.kept howed
      obtain ⟨dep, hdep, hsett⟩ := settled_of_kept hrow
      obtain ⟨dep', hdep', hrevision, _⟩ := hrow
      rw [hdep] at hdep'
      cases hdep'
      exact checked_tick hinline henforce hsteady hknown hdesired hdep hrevision hsett
    | false =>
      apply unchecked_tick hknown.pinned howed
      intro ref hmem hnode
      cases hcheck : isCheck ref.action with
      | false => rfl
      | true => exact absurd ⟨ref, hmem, hnode, hcheck⟩ hchecks

/-- In a steady run of ticks a digest drift is repaired by digest only: no deploy without pins is
issued to a node between a report of the drift and a check that finds the node matched. -/
theorem digest_drift_pinned (h : Host) (blueprint : Blueprint) (nodes : List Node)
    (labels : Int → List Text) (deployments : Deployments) (inputs : List TickInputs)
    (hinline : isGitManagedBlueprint blueprint = false) (henforce : blueprint.driftMode = .enforce)
    (hsteady : SteadyRun h blueprint nodes labels ⟨deployments, []⟩ inputs) (n : Int) :
    PinnedOnly n (runTicks h blueprint nodes labels ⟨deployments, []⟩ inputs).trace := by
  have hrun : ∀ (inputs : List TickInputs) (l : Ledger), Known blueprint nodes labels n l →
      SteadyRun h blueprint nodes labels l inputs →
      Known blueprint nodes labels n (runTicks h blueprint nodes labels l inputs) := by
    intro inputs
    induction inputs with
    | nil => exact fun _ hknown _ => hknown
    | cons i inputs ih =>
      intro l hknown hsteady
      exact ih _ (runTick_keeps hinline henforce hsteady.1 hknown) hsteady.2
  have hstart : Known blueprint nodes labels n ⟨deployments, []⟩ :=
    ⟨pinnedOnly_nil n, fun howed => by cases howed⟩
  exact (hrun inputs _ hstart hsteady).pinned

end Tick

section Example

/-- A blueprint in Enforce on one node, which an operator approved. -/
def enforcedBlueprint : Blueprint where
  id := 1
  name := text "web"
  composeContent := text "services:\n"
  selector := .nodes [1]
  driftMode := .enforce
  classification := .stateless
  enabled := true
  revision := 2
  pinnedNodeId := none
  approvalStatus := .pending
  approvedIntentFingerprint := none
  approvedBlastJson := none
  contentOrigin := .inline

/-- The digest of its intent. -/
def enforcedDigest : Text :=
  text "476c5038d45593e06c91077fd9541068ff8e18807a827faff66e2827be2afb53"

def enforcedHost : Host := integerHost enforcedDigest (by decide)

/-- The target acknowledged a generation and its artifact set. -/
def acknowledgedTarget : GitOps.Target :=
  { GitOps.emptyTargetRow "app" 1 1 with
    desiredGenerationId := some "generation"
    expectedArtifactSetId := some "set" }

def acknowledgedStore : GitOps.Db :=
  { GitOps.Db.empty with
    applications := Table.empty.put (GitOps.blankInlineApplication "app" 1 1)
    targets := Table.empty.put acknowledgedTarget
    generations := Table.empty.put ⟨"generation", "app", none, "fingerprint", true, false⟩
    artifactSets := Table.empty.put
      ⟨"set", "generation", 1, true, .exact, ⟨.exact, "sha256:aa"⟩, 1⟩ }

/-- A deploy that begins and ends as the node answers. -/
def answeredDeploy (apply : Except ApplyError Unit) : DeployAnswers :=
  ⟨true, .ok false, apply, .ok (), 10⟩

/-- The check finds another digest; the binding resolves and the pins are there. -/
def driftedAnswers (apply : Except ApplyError Unit) : NodeAnswers where
  check := .drifted (text "runtime artifact identity differs from the expected artifact set")
    .digest none
  markerMissing := false
  repair := ⟨⟨true, .ok ()⟩, .ok (), true, ⟨true, .ok ()⟩, .ok (), answeredDeploy apply⟩
  deploy := answeredDeploy (.ok ())
  withdrawLockFree := true
  withdraw := .withdrawn
  retired := true

/-- A tick under the operator's approval. -/
def approvedTick (apply : Except ApplyError Unit) : TickInputs where
  gitops := acknowledgedStore
  approvalStatus := .approved
  approvedIntentFingerprint := some enforcedDigest
  approvedBlastJson := some (serializeApprovedBlast enforcedHost [⟨1, .place⟩])
  hasNameConflict := fun _ => some false
  answers := fun _ => driftedAnswers apply

/-- The node runs the current revision. -/
def activeRow : Deployments := Table.empty.put ⟨1, .active, some 2, some 1, none, none⟩

/-- The digest repair is cut off by the registry, and the next tick deploys by tag. -/
theorem failed_repair_deploys_by_tag :
    ¬ PinnedOnly 1 (runTicks enforcedHost enforcedBlueprint [⟨1, false⟩] (fun _ => [])
      ⟨activeRow, []⟩
      [approvedTick (.error (.other (text "image pull timed out"))), approvedTick (.ok ())]).trace
    := by
  decide +kernel

/-- Repairs that end, twice over. -/
theorem ended_repairs_pinned :
    PinnedOnly 1 (runTicks enforcedHost enforcedBlueprint [⟨1, false⟩] (fun _ => [])
      ⟨activeRow, []⟩ [approvedTick (.ok ()), approvedTick (.ok ())]).trace := by
  have hsteady : SteadyRun enforcedHost enforcedBlueprint [⟨1, false⟩] (fun _ => [])
      ⟨activeRow, []⟩ [approvedTick (.ok ()), approvedTick (.ok ())] := by
    refine ⟨?_, ?_, trivial⟩
    · decide +kernel
    · decide +kernel
  exact digest_drift_pinned enforcedHost enforcedBlueprint [⟨1, false⟩] (fun _ => []) activeRow
    [approvedTick (.ok ()), approvedTick (.ok ())] (by decide) (by decide) hsteady 1

end Example

end Sencho.Blueprints
