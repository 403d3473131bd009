import Sencho.Blueprints.Plan

/-!
# What authorizes a plan

Two mechanisms authorize a plan: the combined approval an operator confirmed, narrowed by the
placement the application holds, and a placement approval a policy wrote.  The preview reports
what they cover; the tick executes what they cover.  The two compose the same parts with
different filters.
-/

namespace Sencho.Blueprints

open GitOps (Db Application Approval ApprovalAuthority truthy)

structure PlacementAuthority where
  authority : ApprovalAuthority
  requiredNodeIds : List Int
  placementEffect : List ApprovedNodeOutcome

namespace PlacementAuthority

variable (a : PlacementAuthority)

def required (nodeId : Int) : Bool := a.requiredNodeIds.contains nodeId

def effectByNode (nodeId : Int) : Option ApprovalOutcome := outcomeFor a.placementEffect nodeId

end PlacementAuthority

section Placement

variable (db : Db)

def frozenRequiredNodeIds (app : Application) : Option (List Int) :=
  match app.rolloutGenerationId.filter fun s => s ≠ "" with
  | some id =>
    match db.getRolloutGeneration id with
    | none => none
    | some generation =>
      if generation.applicationId ≠ app.id then none
      else GitOps.decodeRequiredTargets generation.requiredTargets
  | none =>
    match app.placementApprovalRef.filter fun s => s ≠ "" with
    | none => none
    | some ref =>
      match (db.getApproval ref).bind Approval.requiredTargets with
      | none => none
      | some targets => GitOps.decodeRequiredTargets targets

def decodedPlacementAuthority (app : Application) : Option PlacementAuthority :=
  match app.placementApprovalRef.filter (fun s => s ≠ ""),
      app.intentRevisionId.filter (fun s => s ≠ "") with
  | some ref, some intent =>
    match frozenRequiredNodeIds db app with
    | none => none
    | some frozenRequired =>
      match db.resolvePlacementApproval ref app.id intent frozenRequired with
      | none => none
      | some placement =>
        match placement.blast.bind GitOps.decodeApprovedTargetEffect with
        | none => none
        | some placementEffect =>
          some ⟨placement.authority, frozenRequired, placementEffect⟩
  | _, _ => none

/-- The live application of a blueprint, when it holds a placement approval. -/
def livePlacement (blueprint : Blueprint) : Option Application :=
  (db.getLiveBlueprintApplication blueprint.id).filter fun app => truthy app.placementApprovalRef

inductive ScopedLegacyBlast where
  | unresolvable
  | resolvable (entries : List ApprovedNodeOutcome) (authority : PlacementAuthority)

def insideRequired (authority : PlacementAuthority) (entry : ApprovedNodeOutcome) : Bool :=
  match entry.outcome with
  | .place => authority.required entry.nodeId
  | .remove => !authority.required entry.nodeId

/-- The operator's outcomes narrowed to the frozen required set, or nothing when there is no
placement to narrow by. -/
def scopeLegacyBlast (blueprint : Blueprint) (blastEntries : List ApprovedNodeOutcome) :
    Option ScopedLegacyBlast :=
  match livePlacement db blueprint with
  | none => none
  | some app =>
    match decodedPlacementAuthority db app with
    | none => some .unresolvable
    | some authority =>
      some (.resolvable (blastEntries.filter (insideRequired authority)) authority)

/-- Place only on a required node, remove only what the effect removes. -/
def actionInsideFrozenAuthorization (authority : PlacementAuthority)
    (ref : ConfirmableActionRef) : Bool :=
  match outcomeForConfirmableAction ref.action with
  | none => false
  | some .place =>
    authority.required ref.nodeId &&
      (authority.effectByNode ref.nodeId = some .place ||
        (authority.effectByNode ref.nodeId).isNone)
  | some .remove =>
    !authority.required ref.nodeId && authority.effectByNode ref.nodeId = some .remove

def authorizeAgainstGitOpsPlacement (blueprint : Blueprint)
    (blastEntries : List ApprovedNodeOutcome) (executorActions : List ConfirmableActionRef) :
    Option (List ConfirmableActionRef) :=
  match scopeLegacyBlast db blueprint blastEntries with
  | none => some (filterAuthorizedExecutorActions blastEntries executorActions)
  | some .unresolvable => none
  | some (.resolvable entries authority) =>
    some ((filterAuthorizedExecutorActions entries executorActions).filter
      (actionInsideFrozenAuthorization authority))

/-- One action under a placement a policy approved.  A retained node is only observed. -/
def actionPlacementAuthorized (authority : PlacementAuthority) (ref : ConfirmableActionRef) :
    Bool :=
  match outcomeForConfirmableAction ref.action with
  | none => false
  | some needed =>
    authority.effectByNode ref.nodeId = some needed ||
      (needed = .place && authority.required ref.nodeId && ref.action = .checkObserve)

end Placement

section Policy

variable (fleet : Fleet) (blueprint : Blueprint)

def retainedNodesAtCurrentRevision (retainedNodeIds : List Int) : Bool :=
  retainedNodeIds.all fun nodeId =>
    (fleet.getDeployment nodeId).any fun d => d.appliedRevision = some blueprint.revision

/-- The plan under the placement a policy approved, or nothing when the policy does not run the
whole of it. -/
def policyPlacementAuthorizedActions (executorActions : List ConfirmableActionRef)
    (enforceHold : Bool) : Option (List ConfirmableActionRef) :=
  match fleet.gitops.getLiveBlueprintApplication blueprint.id with
  | none => none
  | some app =>
    if app.targetMode ≠ .inlineBlueprint || app.placementPolicy ≠ .boundedAuto ||
        app.rolloutAuthorizationPolicy ≠ .automatic then none
    else
      match decodedPlacementAuthority fleet.gitops app with
      | none => none
      | some authority =>
        if authority.authority ≠ .configuredPolicy then none
        else
          let authorized := executorActions.filter (actionPlacementAuthorized authority)
          let retained := authority.requiredNodeIds.filter fun nodeId =>
            (authority.effectByNode nodeId).isNone
          if authorized.length ≠ executorActions.length then none
          else if retained.length = 0 then none
          else if !retainedNodesAtCurrentRevision fleet blueprint retained then none
          else if enforceHold && blueprint.driftMode = .enforce then none
          else some authorized

end Policy

inductive ReportedAuthority where
  | configuredPolicy
  | legacyCombined

structure ComposedApproval where
  effectiveApproval : EffectiveApproval
  unauthorizedActions : List ConfirmableActionRef
  approvalAuthority : Option ReportedAuthority
  approvalHoldReason : Option String

def enforceApprovalHoldReason : String :=
  "Enforce waits for Apply. Automatic placement acts in Observe or Suggest. In Enforce, a place, a withdrawal, or a repair under a policy approval stays pending until you confirm it."

section Preview

variable (h : Host) (fleet : Fleet) (blueprint : Blueprint)

def asObservation (ref : ConfirmableActionRef) : ConfirmableActionRef :=
  if ref.action = .checkEnforce then ⟨ref.nodeId, .checkObserve⟩ else ref

/-- Whether Enforce is all a plan waits for. -/
def enforcePlacementHoldReason (executorActions : List ConfirmableActionRef) : Option String :=
  if blueprint.driftMode ≠ .enforce then none
  else
    (policyPlacementAuthorizedActions fleet blueprint (executorActions.map asObservation) false).map
      fun _ => enforceApprovalHoldReason

/-- The blueprint with its outcomes narrowed, or as it is when nothing narrows them. -/
def scopedApprovedBlueprint : Blueprint :=
  match parseApprovedBlastJson h blueprint.approvedBlastJson with
  | .error _ => blueprint
  | .ok parsed =>
    match scopeLegacyBlast fleet.gitops blueprint parsed with
    | some (.resolvable entries _) =>
      if entries.length = parsed.length then blueprint
      else { blueprint with approvedBlastJson := some (serializeApprovedBlast h entries) }
    | _ => blueprint

def composeEffectiveApproval (executorActions : List ConfirmableActionRef) : ComposedApproval :=
  let policyAuthorized :=
    if 0 < executorActions.length then
      policyPlacementAuthorizedActions fleet blueprint executorActions true
    else none
  match policyAuthorized with
  | some _ => ⟨.approved, [], some .configuredPolicy, none⟩
  | none =>
    let evaluated := evaluateEffectiveApproval h (scopedApprovedBlueprint h fleet blueprint)
      executorActions
    match evaluated.effectiveApproval with
    | .approved => ⟨.approved, evaluated.unauthorizedActions, some .legacyCombined, none⟩
    | .reapprovalRequired => ⟨.reapprovalRequired, evaluated.unauthorizedActions, none, none⟩
    | .pending => ⟨.pending, evaluated.unauthorizedActions, none,
        enforcePlacementHoldReason fleet blueprint executorActions⟩

end Preview

inductive Tick where
  | driftObservation
  | skipped
  | approvalCleared
  | executed (actions : List ConfirmableActionRef)

/-- The actions a tick passes to `executeAuthorizedActions`. -/
def Tick.actions : Tick → List ConfirmableActionRef
  | .executed actions => actions
  | _ => []

/-- One blueprint of a tick, with the plan its preview projects. -/
def reconcileBlueprint (h : Host) (fleet : Fleet) (blueprint : Blueprint) : Tick :=
  if isGitManagedBlueprint blueprint then .driftObservation
  else
    let actions := executorActions fleet blueprint
    let execute := fun authorized : List ConfirmableActionRef =>
      if authorized.length = 0 then Tick.skipped else .executed authorized
    match policyPlacementAuthorizedActions fleet blueprint actions true with
    | some authorized => execute authorized
    | none =>
      match legacyApproval h blueprint with
      | none => .skipped
      | some entries =>
        match authorizeAgainstGitOpsPlacement fleet.gitops blueprint entries actions with
        | none => .approvalCleared
        | some authorized => execute authorized

section

variable {entries : List ApprovedNodeOutcome}
  (hasc : entries.Pairwise fun a b => a.nodeId < b.nodeId)
include hasc

theorem outcomeFor_eq_some (nodeId : Int) (outcome : ApprovalOutcome) :
    outcomeFor entries nodeId = some outcome ↔ ⟨nodeId, outcome⟩ ∈ entries := by
  have hnodup : (entries.reverse.map fun e => e.nodeId).Nodup := by
    rw [List.map_reverse, List.nodup_reverse]
    exact List.pairwise_map.mpr (hasc.imp fun hlt => Int.ne_of_lt hlt)
  constructor
  · intro h
    obtain ⟨e, hfind, rfl⟩ := Option.map_eq_some_iff.mp h
    obtain ⟨hmem, rfl⟩ := Verified.mem_key_of_find? hfind
    exact List.mem_reverse.mp hmem
  · intro hmem
    have hfind := (Verified.find?_key_iff hnodup).mpr ⟨List.mem_reverse.mpr hmem, rfl⟩
    rw [outcomeFor, hfind]
    rfl

end

/-- An entry that is covered stands for the outcome of the action. -/
theorem outcomeForConfirmableAction_of_authorized {outcome : ApprovalOutcome}
    {action : PreviewAction} (h : isActionAuthorized outcome action = true) :
    outcomeForConfirmableAction action = some outcome := by
  revert h
  cases outcome with
  | place | remove => cases action with | _ => decide

section

variable {entries : List ApprovedNodeOutcome}
  (hasc : entries.Pairwise fun a b => a.nodeId < b.nodeId)
include hasc

theorem covers_iff (ref : ConfirmableActionRef) :
    covers entries ref = true ↔
      ∃ outcome, ⟨ref.nodeId, outcome⟩ ∈ entries ∧ isActionAuthorized outcome ref.action = true := by
  rw [covers, Option.any_eq_true]
  constructor
  · rintro ⟨outcome, hsome, hauth⟩
    exact ⟨outcome, (outcomeFor_eq_some hasc _ _).mp hsome, hauth⟩
  · rintro ⟨outcome, hmem, hauth⟩
    exact ⟨outcome, (outcomeFor_eq_some hasc _ _).mpr hmem, hauth⟩

/-- Narrowed outcomes cover what the outcomes covered, inside the required set. -/
theorem covers_narrowed (authority : PlacementAuthority) (ref : ConfirmableActionRef) :
    covers (entries.filter (insideRequired authority)) ref = true ↔
      covers entries ref = true ∧ ∃ outcome, outcomeForConfirmableAction ref.action = some outcome ∧
        insideRequired authority ⟨ref.nodeId, outcome⟩ = true := by
  rw [covers_iff (hasc.sublist List.filter_sublist), covers_iff hasc]
  constructor
  · rintro ⟨outcome, hmem, hauth⟩
    obtain ⟨hent, hinside⟩ := List.mem_filter.mp hmem
    exact ⟨⟨outcome, hent, hauth⟩, outcome, outcomeForConfirmableAction_of_authorized hauth,
      hinside⟩
  · rintro ⟨⟨outcome, hent, hauth⟩, needed, hneeded, hinside⟩
    have hsame : needed = outcome := by
      rw [outcomeForConfirmableAction_of_authorized hauth] at hneeded
      exact (Option.some.inj hneeded).symm
    rw [hsame] at hinside
    exact ⟨outcome, List.mem_filter.mpr ⟨hent, hinside⟩, hauth⟩

end

/-- What is known of a placement that resolves. -/
structure PlacementAuthority.Sound (authority : PlacementAuthority) : Prop where
  ascending : authority.placementEffect.Pairwise fun a b => a.nodeId < b.nodeId
  compatible :
    GitOps.placementEffectCompatible authority.placementEffect authority.requiredNodeIds = true

theorem decodeApprovedTargetEffect_some {effect decoded : List GitOps.PlacementEffect}
    (h : GitOps.decodeApprovedTargetEffect effect = some decoded) :
    decoded = effect ∧ effect.Pairwise fun a b => a.nodeId < b.nodeId := by
  unfold GitOps.decodeApprovedTargetEffect at h
  split at h
  · rename_i hgood
    exact ⟨(Option.some.inj h).symm, hgood.1⟩
  · cases h

theorem decodedPlacementAuthority_sound {db : Db} {app : Application}
    {authority : PlacementAuthority} (h : decodedPlacementAuthority db app = some authority) :
    authority.Sound := by
  unfold decodedPlacementAuthority at h
  split at h
  · rename_i ref intent _ _
    split at h
    · cases h
    · rename_i frozenRequired _
      split at h
      · cases h
      · rename_i placement hplacement
        split at h
        · cases h
        · rename_i effect heffect
          cases h
          obtain ⟨blast, hblast, hdecode⟩ := Option.bind_eq_some_iff.mp heffect
          obtain ⟨hsame, hasc⟩ := decodeApprovedTargetEffect_some hdecode
          have hchecks := (Option.filter_eq_some_iff.mp hplacement).2
          rw [hblast] at hchecks
          simp only [hdecode, Bool.and_eq_true] at hchecks
          exact ⟨by rw [hsame]; exact hasc, hchecks.2⟩
  · cases h

section

variable {authority : PlacementAuthority} (hsound : authority.Sound)
include hsound

/-- A required node is not one the effect removes. -/
theorem PlacementAuthority.Sound.not_removed {nodeId : Int}
    (hrequired : authority.required nodeId = true) :
    authority.effectByNode nodeId ≠ some .remove := by
  intro heffect
  have hmem := (outcomeFor_eq_some hsound.ascending nodeId .remove).mp heffect
  have hent := List.all_eq_true.mp hsound.compatible _ hmem
  unfold PlacementAuthority.required at hrequired
  simp only [hrequired, Bool.not_true] at hent
  cases hent

/-- A covered action inside the required set is inside the authorization, but for a removal the
effect does not record. -/
theorem actionInsideFrozenAuthorization_iff {ref : ConfirmableActionRef} {outcome : ApprovalOutcome}
    (houtcome : outcomeForConfirmableAction ref.action = some outcome)
    (hinside : insideRequired authority ⟨ref.nodeId, outcome⟩ = true) :
    actionInsideFrozenAuthorization authority ref = true ↔
      (outcome = .remove → authority.effectByNode ref.nodeId = some .remove) := by
  unfold actionInsideFrozenAuthorization
  rw [houtcome]
  cases outcome with
  | place =>
    have hrequired : authority.required ref.nodeId = true := hinside
    have hnot := hsound.not_removed hrequired
    have heffect : (authority.effectByNode ref.nodeId = some .place ||
        (authority.effectByNode ref.nodeId).isNone) = true := by
      cases h : authority.effectByNode ref.nodeId with
      | none => rfl
      | some o =>
        cases o with
        | place => rfl
        | remove => exact absurd h hnot
    simp only [hrequired, Bool.true_and]
    constructor
    · intro _ hremove
      cases hremove
    · intro _
      simpa using heffect
  | remove =>
    have hrequired : (!authority.required ref.nodeId) = true := hinside
    simp only [hrequired, Bool.true_and, decide_eq_true_eq, forall_const]

end

/-- The actions of the plan a preview calls authorized. -/
def reportedAuthorized (composed : ComposedApproval) (actions : List ConfirmableActionRef) :
    List ConfirmableActionRef :=
  if composed.effectiveApproval = .pending then []
  else actions.filter fun ref => !composed.unauthorizedActions.contains ref

/-- The tick executes the actions the preview calls authorized. -/
def PreviewHonored (h : Host) (fleet : Fleet) (blueprint : Blueprint) : Prop :=
  let actions := executorActions fleet blueprint
  (reconcileBlueprint h fleet blueprint).actions =
    reportedAuthorized (composeEffectiveApproval h fleet blueprint actions) actions

instance PreviewHonored.decidable (h : Host) (fleet : Fleet) (blueprint : Blueprint) :
    Decidable (PreviewHonored h fleet blueprint) :=
  inferInstanceAs (Decidable (_ = _))

/-- When the operator's approval drives the plan under a live placement, each action it covers
meets a placement that resolves, and a removal of a node the placement does not require is one
its effect records. -/
def PlacementBacks (h : Host) (fleet : Fleet) (blueprint : Blueprint) : Prop :=
  ∀ entries app, legacyApproval h blueprint = some entries →
    livePlacement fleet.gitops blueprint = some app →
    policyPlacementAuthorizedActions fleet blueprint (executorActions fleet blueprint) true = none →
    ∀ ref ∈ executorActions fleet blueprint, covers entries ref = true →
      ∃ authority, decodedPlacementAuthority fleet.gitops app = some authority ∧
        (outcomeForConfirmableAction ref.action = some .remove →
          authority.required ref.nodeId = false →
          authority.effectByNode ref.nodeId = some .remove)

theorem filter_not_contains {actions : List ConfirmableActionRef}
    (p : ConfirmableActionRef → Bool) :
    (actions.filter fun ref => !(actions.filter fun r => !p r).contains ref) =
      actions.filter p := by
  apply List.filter_congr
  intro ref hmem
  cases hp : p ref with
  | true | false => simp [hmem, hp]

theorem actions_execute (authorized : List ConfirmableActionRef) :
    (if authorized.length = 0 then Tick.skipped else .executed authorized).actions =
      authorized := by
  split
  · rename_i hlen
    exact (List.eq_nil_of_length_eq_zero hlen).symm
  · rfl

/-- A policy that runs a plan runs the whole of it. -/
theorem policyPlacementAuthorizedActions_some {fleet : Fleet} {blueprint : Blueprint}
    {actions authorized : List ConfirmableActionRef} {enforceHold : Bool}
    (hsome : policyPlacementAuthorizedActions fleet blueprint actions enforceHold =
      some authorized) : authorized = actions := by
  unfold policyPlacementAuthorizedActions at hsome
  split at hsome
  · cases hsome
  · split at hsome
    · cases hsome
    · split at hsome
      · cases hsome
      · rename_i authority _
        split at hsome
        · cases hsome
        · dsimp only at hsome
          split at hsome
          · cases hsome
          · rename_i hlen
            have hall : actions.filter (actionPlacementAuthorized authority) = actions :=
              List.filter_eq_self.mpr (List.length_filter_eq_length_iff.mp (by omega))
            split at hsome
            · cases hsome
            · split at hsome
              · cases hsome
              · split at hsome
                · cases hsome
                · rw [← Option.some.inj hsome]
                  exact hall

variable {entries : List ApprovedNodeOutcome}

section Actions

variable {h : Host} {fleet : Fleet} {blueprint : Blueprint}

theorem reconcileBlueprint_policy {authorized : List ConfirmableActionRef}
    (hinline : isGitManagedBlueprint blueprint = false)
    (hpolicy : policyPlacementAuthorizedActions fleet blueprint (executorActions fleet blueprint)
      true = some authorized) :
    (reconcileBlueprint h fleet blueprint).actions = executorActions fleet blueprint := by
  unfold reconcileBlueprint
  rw [if_neg (by simp [hinline])]
  dsimp only
  rw [hpolicy]
  rw [actions_execute, policyPlacementAuthorizedActions_some hpolicy]

section

variable (hinline : isGitManagedBlueprint blueprint = false)
  (hpolicy :
    policyPlacementAuthorizedActions fleet blueprint (executorActions fleet blueprint) true = none)
include hinline hpolicy

theorem reconcileBlueprint_pending (hlegacy : legacyApproval h blueprint = none) :
    (reconcileBlueprint h fleet blueprint).actions = [] := by
  unfold reconcileBlueprint
  rw [if_neg (by simp [hinline])]
  dsimp only
  rw [hpolicy, hlegacy]
  rfl

theorem reconcileBlueprint_legacy (hlegacy : legacyApproval h blueprint = some entries) :
    (reconcileBlueprint h fleet blueprint).actions =
      (authorizeAgainstGitOpsPlacement fleet.gitops blueprint entries
        (executorActions fleet blueprint)).getD [] := by
  unfold reconcileBlueprint
  rw [if_neg (by simp [hinline])]
  dsimp only
  rw [hpolicy, hlegacy]
  dsimp only
  cases authorizeAgainstGitOpsPlacement fleet.gitops blueprint entries
      (executorActions fleet blueprint) with
  | none => rfl
  | some authorized => exact actions_execute authorized

end

end Actions

section Reports

variable {h : Host} {fleet : Fleet} {blueprint : Blueprint} {actions : List ConfirmableActionRef}

theorem reportedAuthorized_policy {authorized : List ConfirmableActionRef}
    (hpolicy : policyPlacementAuthorizedActions fleet blueprint actions true = some authorized) :
    reportedAuthorized (composeEffectiveApproval h fleet blueprint actions) actions = actions := by
  cases actions with
  | nil =>
    unfold reportedAuthorized
    split <;> rfl
  | cons ref actions =>
    have hcomposed : composeEffectiveApproval h fleet blueprint (ref :: actions) =
        ⟨.approved, [], some .configuredPolicy, none⟩ := by
      unfold composeEffectiveApproval
      rw [if_pos (by simp), hpolicy]
    rw [hcomposed]
    apply List.filter_eq_self.mpr
    intro r _
    rfl

section

variable (hpolicy : policyPlacementAuthorizedActions fleet blueprint actions true = none)
include hpolicy

/-- Without the policy the report is the evaluation of the narrowed blueprint. -/
theorem composeEffectiveApproval_none :
    (composeEffectiveApproval h fleet blueprint actions).effectiveApproval =
        (evaluateEffectiveApproval h (scopedApprovedBlueprint h fleet blueprint)
          actions).effectiveApproval ∧
      (composeEffectiveApproval h fleet blueprint actions).unauthorizedActions =
        (evaluateEffectiveApproval h (scopedApprovedBlueprint h fleet blueprint)
          actions).unauthorizedActions := by
  have hnone : (if 0 < actions.length then
      policyPlacementAuthorizedActions fleet blueprint actions true else none) = none := by
    rw [hpolicy, ite_self]
  unfold composeEffectiveApproval
  rw [hnone]
  dsimp only
  cases heffective : (evaluateEffectiveApproval h (scopedApprovedBlueprint h fleet blueprint)
      actions).effectiveApproval with
  | pending => exact ⟨rfl, rfl⟩
  | approved => exact ⟨rfl, rfl⟩
  | reapprovalRequired => exact ⟨rfl, rfl⟩

theorem reportedAuthorized_pending
    (hscoped : legacyApproval h (scopedApprovedBlueprint h fleet blueprint) = none) :
    reportedAuthorized (composeEffectiveApproval h fleet blueprint actions) actions = [] := by
  obtain ⟨heffective, _⟩ := composeEffectiveApproval_none (h := h) hpolicy
  unfold reportedAuthorized
  rw [heffective, evaluateEffectiveApproval_none hscoped]
  rfl

theorem reportedAuthorized_legacy
    (hscoped : legacyApproval h (scopedApprovedBlueprint h fleet blueprint) = some entries) :
    reportedAuthorized (composeEffectiveApproval h fleet blueprint actions) actions =
      actions.filter (covers entries) := by
  obtain ⟨heffective, hunauthorized⟩ := composeEffectiveApproval_none (h := h) hpolicy
  obtain ⟨hnot, hactions⟩ := evaluateEffectiveApproval_some hscoped actions
  unfold reportedAuthorized
  rw [heffective, if_neg hnot, hunauthorized, hactions]
  exact filter_not_contains (covers entries)

end

end Reports

section Narrowed

variable {h : Host} {fleet : Fleet} {blueprint : Blueprint}

theorem legacyApproval_some (hlegacy : legacyApproval h blueprint = some entries) :
    parseApprovedBlastJson h blueprint.approvedBlastJson = .ok entries ∧
      blueprint.approvalStatus = .approved ∧
      blueprint.approvedIntentFingerprint = some (intentFingerprint h blueprint) := by
  unfold legacyApproval at hlegacy
  split at hlegacy
  · cases hlegacy
  · rename_i read hparse
    split at hlegacy
    · rename_i hgood
      cases hlegacy
      exact ⟨hparse, hgood⟩
    · cases hlegacy

/-- What narrowing leaves of a column that is read. -/
def narrowedEntries (db : Db) (blueprint : Blueprint) (entries : List ApprovedNodeOutcome) :
    List ApprovedNodeOutcome :=
  match scopeLegacyBlast db blueprint entries with
  | some (.resolvable kept _) => kept
  | _ => entries

theorem narrowedEntries_sublist (db : Db) (blueprint : Blueprint)
    (entries : List ApprovedNodeOutcome) :
    (narrowedEntries db blueprint entries).Sublist entries := by
  unfold narrowedEntries scopeLegacyBlast
  cases livePlacement db blueprint with
  | none => exact .refl _
  | some app =>
    dsimp only
    cases decodedPlacementAuthority db app with
    | none => exact .refl _
    | some authority => exact List.filter_sublist

/-- The column of the narrowed blueprint reads as the narrowed outcomes. -/
theorem parse_scoped (hparse : parseApprovedBlastJson h blueprint.approvedBlastJson = .ok entries) :
    parseApprovedBlastJson h (scopedApprovedBlueprint h fleet blueprint).approvedBlastJson =
      .ok (narrowedEntries fleet.gitops blueprint entries) := by
  have hsublist := narrowedEntries_sublist fleet.gitops blueprint entries
  unfold scopedApprovedBlueprint
  rw [hparse]
  dsimp only
  cases hscope : scopeLegacyBlast fleet.gitops blueprint entries with
  | none =>
    unfold narrowedEntries
    rw [hscope]
    exact hparse
  | some scope =>
    unfold narrowedEntries at hsublist ⊢
    rw [hscope] at hsublist ⊢
    cases scope with
    | unresolvable => exact hparse
    | resolvable kept authority =>
      dsimp only at hsublist ⊢
      split
      · rename_i hlen
        rw [hsublist.eq_of_length hlen]
        exact hparse
      · exact parseApprovedBlastJson_serialize h hparse hsublist

/-- Narrowing touches nothing but the column. -/
theorem scopedApprovedBlueprint_frame :
    (scopedApprovedBlueprint h fleet blueprint).approvalStatus = blueprint.approvalStatus ∧
      (scopedApprovedBlueprint h fleet blueprint).approvedIntentFingerprint =
        blueprint.approvedIntentFingerprint ∧
      intentFingerprint h (scopedApprovedBlueprint h fleet blueprint) =
        intentFingerprint h blueprint := by
  unfold scopedApprovedBlueprint
  split
  · exact ⟨rfl, rfl, rfl⟩
  · split
    · split
      · exact ⟨rfl, rfl, rfl⟩
      · exact ⟨rfl, rfl, rfl⟩
    · exact ⟨rfl, rfl, rfl⟩

theorem legacyApproval_scoped :
    legacyApproval h (scopedApprovedBlueprint h fleet blueprint) =
      (legacyApproval h blueprint).map (narrowedEntries fleet.gitops blueprint) := by
  obtain ⟨hstat, hst, hfingerprint⟩ :=
    @scopedApprovedBlueprint_frame h fleet blueprint
  unfold legacyApproval
  cases hparse : parseApprovedBlastJson h blueprint.approvedBlastJson with
  | error e =>
    have hsame : scopedApprovedBlueprint h fleet blueprint = blueprint := by
      unfold scopedApprovedBlueprint
      rw [hparse]
    rw [hsame, hparse]
    rfl
  | ok entries =>
    rw [parse_scoped hparse]
    dsimp only
    rw [hstat, hst, hfingerprint]
    split <;> rfl

end Narrowed

section Honored

variable {h : Host} {fleet : Fleet} {blueprint : Blueprint} {entries : List ApprovedNodeOutcome}

theorem filter_inside_iff {authority : PlacementAuthority} (hsound : authority.Sound)
    (hasc : entries.Pairwise fun a b => a.nodeId < b.nodeId) (actions : List ConfirmableActionRef) :
    ((actions.filter (covers (entries.filter (insideRequired authority)))).filter
        (actionInsideFrozenAuthorization authority) =
      actions.filter (covers (entries.filter (insideRequired authority)))) ↔
    ∀ ref ∈ actions, covers entries ref = true →
      outcomeForConfirmableAction ref.action = some .remove →
      authority.required ref.nodeId = false →
      authority.effectByNode ref.nodeId = some .remove := by
  rw [List.filter_eq_self]
  constructor
  · intro hall ref hmem hcovers hremove hrequired
    have hinside : insideRequired authority ⟨ref.nodeId, .remove⟩ = true := by
      simp [insideRequired, hrequired]
    have hnarrowed := (covers_narrowed hasc authority ref).mpr ⟨hcovers, .remove, hremove, hinside⟩
    have hfrozen := hall ref (List.mem_filter.mpr ⟨hmem, hnarrowed⟩)
    exact (actionInsideFrozenAuthorization_iff hsound hremove hinside).mp hfrozen rfl
  · intro hall ref hmem
    obtain ⟨hplan, hnarrowed⟩ := List.mem_filter.mp hmem
    obtain ⟨hcovers, outcome, houtcome, hinside⟩ :=
      (covers_narrowed hasc authority ref).mp hnarrowed
    apply (actionInsideFrozenAuthorization_iff hsound houtcome hinside).mpr
    intro hremove
    rw [hremove] at houtcome hinside
    have hrequired : authority.required ref.nodeId = false := by
      simpa [insideRequired] using hinside
    exact hall ref hplan hcovers houtcome hrequired

/-- The preview of an inline blueprint is honored exactly when the placement backs what the
operator's approval covers. -/
theorem preview_honored_iff (h : Host) (fleet : Fleet) (blueprint : Blueprint)
    (hinline : isGitManagedBlueprint blueprint = false) :
    PreviewHonored h fleet blueprint ↔ PlacementBacks h fleet blueprint := by
  unfold PreviewHonored PlacementBacks
  dsimp only
  cases hpolicy : policyPlacementAuthorizedActions fleet blueprint
      (executorActions fleet blueprint) true with
  | some authorized =>
    rw [reconcileBlueprint_policy hinline hpolicy, reportedAuthorized_policy hpolicy]
    simp
  | none =>
    cases hlegacy : legacyApproval h blueprint with
    | none =>
      have hscoped : legacyApproval h (scopedApprovedBlueprint h fleet blueprint) = none := by
        rw [legacyApproval_scoped, hlegacy]
        rfl
      rw [reconcileBlueprint_pending hinline hpolicy hlegacy,
        reportedAuthorized_pending hpolicy hscoped]
      simp
    | some entries =>
      have hscoped : legacyApproval h (scopedApprovedBlueprint h fleet blueprint) =
          some (narrowedEntries fleet.gitops blueprint entries) := by
        rw [legacyApproval_scoped, hlegacy]
        rfl
      have hasc := (parseApprovedBlastJson_ok h (legacyApproval_some hlegacy).1).1
      rw [reconcileBlueprint_legacy hinline hpolicy hlegacy,
        reportedAuthorized_legacy hpolicy hscoped]
      unfold authorizeAgainstGitOpsPlacement narrowedEntries scopeLegacyBlast
      cases happ : livePlacement fleet.gitops blueprint with
      | none =>
        simp [filterAuthorizedExecutorActions]
      | some app =>
        dsimp only
        cases hauthority : decodedPlacementAuthority fleet.gitops app with
        | none =>
          dsimp only [Option.getD]
          rw [eq_comm, List.filter_eq_nil_iff]
          constructor
          · intro hnone e a he ha _ ref hmem hcovers
            cases he
            exact absurd hcovers (hnone ref hmem)
          · intro hback ref hmem hcovers
            obtain ⟨authority, hsome, _⟩ := hback entries app rfl rfl rfl ref hmem hcovers
            rw [hauthority] at hsome
            cases hsome
        | some authority =>
          dsimp only [Option.getD, filterAuthorizedExecutorActions]
          rw [filter_inside_iff (decodedPlacementAuthority_sound hauthority) hasc]
          constructor
          · intro hall e a he ha _ ref hmem hcovers
            cases he
            cases ha
            exact ⟨authority, hauthority, hall ref hmem hcovers⟩
          · intro hback ref hmem hcovers
            obtain ⟨other, hsome, hrecorded⟩ :=
              hback entries app rfl rfl rfl ref hmem hcovers
            rw [hauthority] at hsome
            cases hsome
            exact hrecorded

end Honored

section Example

open Verified CodeUnits Decimals

/-- The digest of the content of the blueprint below. -/
def contentDigest : Text :=
  text "fa73fccdc99ea835967c7dee7efbed1f3ca87260d92931850fdd66da8cb12f1d"

/-- A host whose numbers are the integers, with the digests of that content and of an intent. -/
def integerHost (digest : Text) (hdigest : digest ≠ []) : Host where
  Number := Int
  numbers := integers
  lawful := integers_lawful
  integer := some
  ofInt_integer := fun _ _ h _ => (Option.some.inj h).symm
  sha256 := fun t => if t = text "services:\n" then contentDigest else digest
  sha256_ne := by
    intro t
    split
    · decide
    · exact hdigest
  localeLe := fun a b =>
    JsString.unitsLe (a.map fun c => c.toNat) (b.map fun c => c.toNat)

/-- The digest of the intent below. -/
def intentDigest : Text :=
  text "93367cf687426c98eeeea4af7721d8088cac99ba3e37ec267b504c2e042538cc"

def confirmedHost : Host := integerHost intentDigest (by decide)

/-- An operator confirmed that the first node keeps the blueprint and the third loses it. -/
def confirmedBlueprint : Blueprint where
  id := 1
  name := text "web"
  composeContent := text "services:\n"
  selector := .nodes [1]
  driftMode := .observe
  classification := .stateless
  enabled := true
  revision := 2
  pinnedNodeId := none
  approvalStatus := .approved
  approvedIntentFingerprint := some intentDigest
  approvedBlastJson := some (serializeApprovedBlast confirmedHost [⟨1, .place⟩, ⟨3, .remove⟩])
  contentOrigin := .inline

/-- The placement now held records that the second node was dropped. -/
def secondNodeDropped : Approval where
  id := "placement"
  kind := .placementApproval
  authority := .operator
  authoritative := true
  applicationId := "app"
  generationId := none
  intentRevisionId := some "intent"
  artifactSetId := none
  rolloutCandidateId := none
  rolloutGenerationId := none
  sourceAcceptanceRef := none
  placementApprovalRef := none
  requiredTargets := some [1]
  preflightFingerprint := none
  fingerprint := none
  blast := some [⟨2, .remove⟩]
  policyProvenance := none
  sourceConfirmation := none
  actor := none
  createdAt := 1

def placedApplication : Application :=
  { GitOps.blankInlineApplication "app" 1 1 with
    intentRevisionId := some "intent"
    placementApprovalRef := some "placement" }

/-- The third node is still to be withdrawn from: the withdrawal failed. -/
def halfWithdrawnFleet : Fleet where
  gitops := { Db.empty with
    applications := Table.empty.put placedApplication
    approvals := Table.empty.put secondNodeDropped }
  nodes := [⟨1, false⟩, ⟨3, false⟩]
  labels := fun _ => []
  deployments := (Table.empty.put ⟨1, .active, some 2, some 1, none, none⟩).put
    ⟨3, .failed, some 2, some 1, none, none⟩
  hasNameConflict := fun _ => some false

/-- The preview calls the removal authorized; the tick leaves it out. -/
theorem removal_reported_not_executed :
    ¬ PreviewHonored confirmedHost halfWithdrawnFleet confirmedBlueprint := by
  decide +kernel

theorem halfWithdrawn_not_backed :
    ¬ PlacementBacks confirmedHost halfWithdrawnFleet confirmedBlueprint := by
  intro hback
  have hhonored := (preview_honored_iff confirmedHost halfWithdrawnFleet confirmedBlueprint
    (by decide)).mpr hback
  have hnot : ¬ PreviewHonored confirmedHost halfWithdrawnFleet confirmedBlueprint := by
    decide +kernel
  exact hnot hhonored

end Example

end Sencho.Blueprints
