import Sencho.HealthGate.Types

/-!
# One poll of a gate

A poll judges the containers a gate expects by what the node reports of them.  A
container that disappears twice, exits, turns unhealthy or keeps restarting ends
the observation; otherwise the gate carries what it saw to the next poll, and the
end of the window decides.

A cycle either ends with a verdict (the error) or hands the gate on.
-/

namespace Sencho.HealthGate

open GitOps

variable (gate : ActiveGate) (c : ObservedContainer) (expected observed : List ObservedContainer)

/-- An exited container that declares it never restarts, and ended well. -/
def isCleanOneShotCompletion (declared : Option String) : Bool :=
  c.state = "exited" && c.exitCode = some 0 && declared = some "no"

/-- One-shot recognition from the declared intent only. -/
def isDeclaredCleanOneShot : Bool :=
  match gate.declaredRestartByService, c.service with
  | some declared, some service =>
    match declared service with
    | some restart => service ≠ "" && isCleanOneShotCompletion c restart
    | none => false
  | _, _ => false

/-- Running, or a clean one-shot exit. -/
def isObservedContainerSatisfied (c : Option ObservedContainer) : Bool :=
  c.any fun c => c.state = "running" || isDeclaredCleanOneShot gate c

/-- A clean exit whose declared intent was never read. -/
def ambiguousCleanExit (c : Option ObservedContainer) : Bool :=
  gate.declaredRestartByService.isNone && c.any fun c => c.state = "exited" && c.exitCode = some 0

def declaredIntentUnavailableReason : String :=
  "the declared restart intent could not be read, so a completed one-shot cannot be told " ++
    "from a container that exited"

/-- Whether a container was replaced or relaunched since the baseline. -/
def restarted (baseline current : ObservedContainer) : Bool :=
  current.id ≠ baseline.id || current.restartCount > baseline.restartCount ||
    (current.startedAt.isSome && baseline.startedAt.isSome &&
      current.startedAt ≠ baseline.startedAt)

/-- The observation of an expected container, with its restarts tallied. -/
def accounted (baseline : ObservedContainer) : Option ObservedContainer :=
  (lookupName observed baseline.name).map fun current =>
    { current with
      restarts := baseline.restarts + if restarted baseline current then 1 else 0 }

def summarize : List HealthGateContainer :=
  expected.map fun baseline =>
    let now := accounted observed baseline
    { name := baseline.name
      state := (now.map fun c => c.state).getD "missing"
      health := now.bind fun c => c.health
      restarts := (now.map fun c => c.restarts).getD baseline.restarts
      service :=
        match gate.targetScope with
        | .stack => none
        | .service => ((now.getD baseline).service).or gate.serviceName
      role :=
        match gate.targetScope with
        | .stack => none
        | .service => gate.roleByName baseline.name }

/-- One expected container.  What remains is the gate, and whether its exit is
ambiguous. -/
def checkContainer (noun : String) (fail : String → GateVerdict) (gate : ActiveGate)
    (baseline : ObservedContainer) : Except GateVerdict (ActiveGate × Bool) :=
  let name := baseline.name
  match accounted observed baseline with
  | none =>
    if name ∈ gate.missingLastPoll then
      .error (fail (noun ++ " " ++ name ++ " disappeared during observation"))
    else .ok ({ gate with missingLastPoll := insert name gate.missingLastPoll }, false)
  | some current =>
    let gate := { gate with missingLastPoll := gate.missingLastPoll.erase name }
    let cleanOneShot := isDeclaredCleanOneShot gate current
    if current.state = "exited" && baseline.restarts = current.restarts && !cleanOneShot then
      if ambiguousCleanExit gate (some current) then .ok (gate, true)
      else .error (fail (noun ++ " " ++ name ++ " exited during observation"))
    else if !cleanOneShot && current.health = some "unhealthy" then
      .error (fail (noun ++ " " ++ name ++ " reported unhealthy"))
    else if current.restarts ≥ 2 then
      .error (fail (noun ++ " " ++ name ++ " is restart looping"))
    else
      let kept := { gate with
        expected := gate.expected.map fun expected => setNamed expected current }
      if current.state = "restarting" then
        if name ∈ gate.restartingLastPoll then
          .error (fail (noun ++ " " ++ name ++ " is stuck restarting"))
        else .ok ({ kept with restartingLastPoll := insert name kept.restartingLastPoll }, false)
      else .ok ({ kept with restartingLastPoll := kept.restartingLastPoll.erase name }, false)

/-- Milliseconds of the observation window. -/
def ActiveGate.windowMs : Int := gate.windowSeconds * 1000

/-- The role of an expected container. -/
def ActiveGate.role : GateRole :=
  (gate.roleByName c.name).getD .collateral

/-- Every expected container in turn.  What remains is the gate, and the role of the first
ambiguous exit. -/
def checkContainers (noun : GateRole → String) (fail : GateRole → String → GateVerdict)
    (expected : List ObservedContainer) (gate : ActiveGate) :
    Except GateVerdict (ActiveGate × Option GateRole) :=
  expected.foldlM (fun (gate, ambiguous) baseline =>
    let role := gate.role baseline
    (checkContainer observed (noun role) (fail role) gate baseline).map fun (gate, exit) =>
      (gate, if exit then Option.or ambiguous (some role) else ambiguous)) (gate, none)

/-- The verdict at the end of a stack gate's window. -/
def stackWindowEnd (summary : List HealthGateContainer) : GateVerdict :=
  let notRunning := expected.filter fun c =>
    !isObservedContainerSatisfied gate (accounted observed c)
  let stillStarting := observed.filter fun c =>
    c.health = some "starting" && !isDeclaredCleanOneShot gate c
  if notRunning ≠ [] then
    if notRunning.all fun c => ambiguousCleanExit gate (accounted observed c) then
      ⟨.unknown, some declaredIntentUnavailableReason, summary, none⟩
    else
      ⟨.failed, some ("not running at the end of the window: " ++
        ", ".intercalate (notRunning.map fun c => c.name)), summary, none⟩
  else if stillStarting ≠ [] then
    ⟨.unknown, some ("a healthcheck was still starting when the observation " ++
      "window ended"), summary, none⟩
  else ⟨.passed, none, summary, none⟩

/-- A poll of a stack gate, from what was observed and the time it took. -/
def runPollCycle (now : Int) : Except GateVerdict ActiveGate :=
  let elapsedMs := now - gate.startedAt
  match gate.expected with
  | none =>
    if observed ≠ [] then .ok { gate with expected := some (observed.foldl setNamed []) }
    else if elapsedMs ≥ emptyGraceMs then
      .error ⟨.unknown, some "no containers found to observe", [], none⟩
    else .ok gate
  | some expected =>
    let summary := summarize gate expected observed
    match checkContainers observed (fun _ => "container")
        (fun _ reason => ⟨.failed, some reason, summary, none⟩) expected gate with
    | .error v => .error v
    | .ok (gate, ambiguousExit) =>
      if ambiguousExit.isSome ∧ elapsedMs < gate.windowMs then
        .error ⟨.unknown, some declaredIntentUnavailableReason, summary, none⟩
      else if elapsedMs < gate.windowMs then .ok gate
      else .error (stackWindowEnd gate expected observed summary)

/-- Whether a container is a replica of the service the gate is about. -/
def ActiveGate.isReplica : Bool :=
  c.service = some (gate.serviceName.getD "")

/-- Expect a container in a role. -/
def ActiveGate.track (role : GateRole) (c : ObservedContainer) : ActiveGate :=
  { gate with
    roleByName := Function.update gate.roleByName c.name (some role)
    expected := some (setNamed (gate.expected.getD []) c) }

/-- Expect a sibling the gate prepared with, as it is now or as it was then. -/
def trackBaseline (gate : ActiveGate) (baseline : ObservedContainer) : ActiveGate :=
  if (gate.roleByName baseline.name).isSome then gate
  else gate.track .collateral ((lookupName observed baseline.name).getD baseline)

/-- Expect an eligible sibling that has no role yet. -/
def trackEligible : ActiveGate :=
  if c.name ∈ gate.collateralEligibleNames ∧ (gate.roleByName c.name).isNone then
    gate.track .collateral c
  else gate

/-- Arm a service gate: the replicas that came up, and the siblings it prepared with. -/
def armService : ActiveGate :=
  let primary := (observed.filter gate.isReplica).foldl (fun g c => g.track .primary c)
    { gate with expected := some [] }
  observed.foldl trackEligible
    (gate.collateralBaselineByName.foldl (trackBaseline observed) primary)

def GateRole.noun : GateRole → String
  | .primary => "replica"
  | .collateral => "sibling"

/-- The replicas a window end accounts for, each with what was last seen of it. -/
def accountedReplicas : List (String × Option ObservedContainer) :=
  if gate.expectedReplicas > 0 then
    ((expected.filter fun c => gate.roleByName c.name = some .primary).map fun c =>
      (c.name, accounted observed c)) ++
    ((observed.filter fun c => gate.isReplica c && !expected.any fun e => e.name = c.name).foldl
      setNamed []).map fun c => (c.name, some c)
  else []

/-- The verdict at the end of a service gate's window. -/
def serviceWindowEnd (summary : List HealthGateContainer) : GateVerdict :=
  let serviceName := gate.serviceName.getD ""
  let unsatisfiedReplicas := (accountedReplicas gate expected observed).filter fun replica =>
    !isObservedContainerSatisfied gate replica.2
  let definiteReplicas := unsatisfiedReplicas.filter fun replica =>
    !ambiguousCleanExit gate replica.2
  let collateralNotRunning := (expected.filter fun c =>
    gate.roleByName c.name = some .collateral).filter fun c =>
      !isObservedContainerSatisfied gate (accounted observed c)
  let definiteCollateral := collateralNotRunning.filter fun c =>
    !ambiguousCleanExit gate (accounted observed c)
  let satisfiedReplicas := (observed.filter fun c =>
    gate.isReplica c && isObservedContainerSatisfied gate (some c)).length
  let countReason := "service " ++ serviceName ++ " has " ++ toString satisfiedReplicas ++
    " satisfied replica(s), expected " ++ toString gate.expectedReplicas
  if definiteReplicas ≠ [] then
    ⟨.failed, some (if satisfiedReplicas = gate.expectedReplicas then
        "replica(s) not running at the end of the window: " ++
          ", ".intercalate (definiteReplicas.map Prod.fst)
      else countReason), summary, some .primary⟩
  else if definiteCollateral ≠ [] then
    ⟨.failed, some ("sibling(s) not running at the end of the window: " ++
      ", ".intercalate (definiteCollateral.map fun c => c.name)), summary, some .collateral⟩
  else if gate.expectedReplicas > satisfiedReplicas ∧
      unsatisfiedReplicas.length ≥ gate.expectedReplicas - satisfiedReplicas then
    ⟨.unknown, some declaredIntentUnavailableReason, summary, some .primary⟩
  else if satisfiedReplicas ≠ gate.expectedReplicas then
    ⟨.failed, some countReason, summary, some .primary⟩
  else if unsatisfiedReplicas ≠ [] then
    ⟨.unknown, some declaredIntentUnavailableReason, summary, some .primary⟩
  else if collateralNotRunning ≠ [] then
    ⟨.unknown, some declaredIntentUnavailableReason, summary, some .collateral⟩
  else if observed.any fun c => c.health = some "starting" && !isDeclaredCleanOneShot gate c &&
      (gate.isReplica c || c.name ∈ gate.collateralEligibleNames) then
    ⟨.unknown, some "a healthcheck was still starting when the observation window ended",
      summary, none⟩
  else ⟨.passed, none, summary, none⟩

/-- A replica on another image than the one every replica must converge on. -/
def wrongImage : Option ObservedContainer :=
  (gate.expectedImageId.filter fun image => image ≠ "").bind fun image => observed.find? fun c =>
    gate.isReplica c && c.imageId ≠ "" && c.imageId ≠ image

/-- A replica that appeared after the gate armed, and is unhealthy. -/
def unhealthyNewcomer : Option ObservedContainer :=
  observed.find? fun c => gate.isReplica c && !expected.any (fun e => e.name = c.name) &&
    c.state = "running" && c.health = some "unhealthy"

/-- A poll of a service gate, from what was observed and the time it took. -/
def runServicePollCycle (now : Int) : Except GateVerdict ActiveGate :=
  let elapsedMs := now - gate.startedAt
  let serviceName := gate.serviceName.getD ""
  match gate.expected with
  | none =>
    if gate.expectedReplicas > 0 ∧ observed.filter gate.isReplica = [] then
      if elapsedMs ≥ emptyGraceMs then
        .error ⟨.failed, some ("service " ++ serviceName ++
          " has no running replicas to observe"), [], some .primary⟩
      else .ok gate
    else .ok (armService gate observed)
  | some expected =>
    let summary := summarize gate expected observed
    let fail (role : GateRole) (reason : String) : GateVerdict :=
      ⟨.failed, some reason, summary, some role⟩
    match wrongImage gate observed with
    | some replica =>
      .error (fail .primary ("service " ++ serviceName ++ " replica " ++ replica.name ++
        " is running an unexpected image"))
    | none =>
      match checkContainers observed GateRole.noun fail expected gate with
      | .error v => .error v
      | .ok (gate, ambiguousRole) =>
        match unhealthyNewcomer gate expected observed with
        | some replica =>
          .error (fail .primary ("replica " ++ replica.name ++ " reported unhealthy"))
        | none =>
          if elapsedMs < gate.windowMs then
            match ambiguousRole with
            | some role =>
              .error ⟨.unknown, some declaredIntentUnavailableReason, summary, some role⟩
            | none => .ok gate
          else .error (serviceWindowEnd gate expected observed summary)

/-- A fold that does not fail keeps what each of its steps keeps. -/
theorem foldlM_keeps {ε α β : Type} {P : β → Prop} {f : β → α → Except ε β}
    (hf : ∀ b a b', P b → f b a = .ok b' → P b') (as : List α) :
    ∀ b b', P b → as.foldlM f b = .ok b' → P b' := by
  induction as with
  | nil =>
    intro b b' hb h
    cases h
    exact hb
  | cons a as ih =>
    intro b b' hb h
    rw [List.foldlM_cons] at h
    cases hstep : f b a with
    | error e =>
      rw [hstep] at h
      cases h
    | ok b₁ =>
      rw [hstep] at h
      exact ih b₁ b' (hf b a b₁ hb hstep) h

/-- A gate that has learnt what a poll saw, and is otherwise the same. -/
def Seen (gate' : ActiveGate) : Prop :=
  ∃ expected missing restarting role, gate' = { gate with
      expected := expected
      missingLastPoll := missing
      restartingLastPoll := restarting
      roleByName := role }

variable {observed : List ObservedContainer} (gate : ActiveGate)

namespace Seen

theorem refl : Seen gate gate := ⟨_, _, _, _, rfl⟩

theorem trans {a b c : ActiveGate} (hab : Seen a b) (hbc : Seen b c) : Seen a c := by
  obtain ⟨_, _, _, _, rfl⟩ := hab
  obtain ⟨_, _, _, _, rfl⟩ := hbc
  exact ⟨_, _, _, _, rfl⟩

theorem runId {a b : ActiveGate} (h : Seen a b) : b.runId = a.runId := by
  obtain ⟨_, _, _, _, rfl⟩ := h
  rfl

theorem key {a b : ActiveGate} (h : Seen a b) : b.key = a.key := by
  obtain ⟨_, _, _, _, rfl⟩ := h
  rfl

theorem checkContainer {noun : String} {fail : String → GateVerdict} {gate gate' : ActiveGate}
    {baseline : ObservedContainer} {exit : Bool}
    (h : checkContainer observed noun fail gate baseline = .ok (gate', exit)) :
    Seen gate gate' := by
  unfold HealthGate.checkContainer at h
  cases hacc : accounted observed baseline with
  | none =>
    simp only [hacc] at h
    split at h
    · cases h
    · cases h
      exact ⟨_, _, _, _, rfl⟩
  | some current =>
    simp only [hacc] at h
    split at h
    · split at h
      · cases h
        exact ⟨_, _, _, _, rfl⟩
      · cases h
    · split at h
      · cases h
      · split at h
        · cases h
        · split at h
          · split at h
            · cases h
            · cases h
              exact ⟨_, _, _, _, rfl⟩
          · cases h
            exact ⟨_, _, _, _, rfl⟩

theorem checkContainers {noun : GateRole → String} {fail : GateRole → String → GateVerdict}
    {expected : List ObservedContainer} {gate gate' : ActiveGate} {role : Option GateRole}
    (h : checkContainers observed noun fail expected gate = .ok (gate', role)) :
    Seen gate gate' := by
  have hstep := foldlM_keeps (P := fun b : ActiveGate × Option GateRole => Seen gate b.1)
    (f := fun (g, ambiguous) baseline =>
      (HealthGate.checkContainer observed (noun (g.role baseline)) (fail (g.role baseline)) g
        baseline).map fun (g', exit) =>
          (g', if exit then Option.or ambiguous (some (g.role baseline)) else ambiguous))
    (fun b baseline b' hb hcheck => by
      dsimp only at hcheck
      cases hone : HealthGate.checkContainer observed (noun (b.1.role baseline))
          (fail (b.1.role baseline)) b.1 baseline with
      | error v =>
        rw [hone] at hcheck
        cases hcheck
      | ok found =>
        rw [hone] at hcheck
        cases hcheck
        exact hb.trans (Seen.checkContainer hone)) expected (gate, none) (gate', role)
    (.refl gate) h
  exact hstep

theorem runPollCycle {gate gate' : ActiveGate} {now : Int}
    (h : runPollCycle gate observed now = .ok gate') : Seen gate gate' := by
  unfold HealthGate.runPollCycle at h
  cases hexp : gate.expected with
  | none =>
    simp only [hexp] at h
    split at h
    · cases h
      exact ⟨_, _, _, _, rfl⟩
    · split at h
      · cases h
      · cases h
        exact .refl gate
  | some expected =>
    simp only [hexp] at h
    split at h
    · cases h
    · rename_i hchecked
      have hseen := Seen.checkContainers hchecked
      split at h
      · cases h
      · split at h
        · cases h
          exact hseen
        · cases h

theorem track (role : GateRole) (c : ObservedContainer) :
    Seen gate (gate.track role c) := ⟨_, _, _, _, rfl⟩

theorem foldl {α : Type} {f : ActiveGate → α → ActiveGate}
    (hf : ∀ g a, Seen g (f g a)) (as : List α) (gate : ActiveGate) : Seen gate (as.foldl f gate) :=
  List.foldlRecOn as f (.refl gate) fun g hg a _ => hg.trans (hf g a)

theorem armService (observed : List ObservedContainer) : Seen gate (armService gate observed) := by
  have hcleared : Seen gate { gate with expected := some [] } := ⟨_, _, _, _, rfl⟩
  have hprimary := Seen.foldl (fun g c => Seen.track g .primary c)
    (observed.filter gate.isReplica) { gate with expected := some [] }
  have hbaseline : ∀ g c, Seen g (trackBaseline observed g c) := by
    intro g c
    unfold trackBaseline
    split
    · exact .refl g
    · exact Seen.track g _ _
  have heligible : ∀ g c, Seen g (trackEligible g c) := by
    intro g c
    unfold trackEligible
    split
    · exact Seen.track g _ _
    · exact .refl g
  exact ((hcleared.trans hprimary).trans (Seen.foldl hbaseline _ _)).trans
    (Seen.foldl heligible _ _)

theorem runServicePollCycle {gate gate' : ActiveGate} {now : Int}
    (h : runServicePollCycle gate observed now = .ok gate') : Seen gate gate' := by
  unfold HealthGate.runServicePollCycle at h
  cases hexp : gate.expected with
  | none =>
    simp only [hexp] at h
    split at h
    · split at h
      · cases h
      · cases h
        exact .refl gate
    · cases h
      exact Seen.armService gate observed
  | some expected =>
    simp only [hexp] at h
    split at h
    · cases h
    · split at h
      · cases h
      · rename_i hchecked
        have hseen := Seen.checkContainers hchecked
        split at h
        · cases h
        · split at h
          · split at h
            · cases h
            · cases h
              exact hseen
          · cases h

end Seen

end Sencho.HealthGate
