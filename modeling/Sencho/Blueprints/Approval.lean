import Sencho.GitOps.Store
import Sencho.Verified.Decimals

/-!
# The approval of a blueprint

An operator approves a blueprint together with what the plan would do on each node.  The
approval is bound to the intent it was given for by a fingerprint, and what it covers is kept
as a list of outcomes, one for a node, in a text column.
-/

namespace Sencho.Blueprints

open Verified CodeUnits Decimals List

inductive DriftMode where
  | observe
  | suggest
  | enforce
  deriving DecidableEq

def DriftMode.name : DriftMode → String
  | .observe => "observe"
  | .suggest => "suggest"
  | .enforce => "enforce"

inductive Classification where
  | stateless
  | stateful
  | unknown
  deriving DecidableEq

inductive Selector where
  | labels (any all : List Text)
  | nodes (ids : List Int)

inductive ApprovalStatus where
  | pending
  | approved
  deriving DecidableEq

inductive ContentOrigin where
  | inline
  | git
  deriving DecidableEq

structure Blueprint where
  id : Int
  name : Text
  composeContent : Text
  selector : Selector
  driftMode : DriftMode
  classification : Classification
  enabled : Bool
  revision : Int
  pinnedNodeId : Option Int
  approvalStatus : ApprovalStatus
  approvedIntentFingerprint : Option Text
  approvedBlastJson : Option Text
  contentOrigin : ContentOrigin

def isGitManagedBlueprint (blueprint : Blueprint) : Bool := blueprint.contentOrigin = .git

/-- What of the host the approval reads: its numbers with their whole values, the digest of a
text, and the order of texts. -/
structure Host where
  Number : Type
  numbers : Numbers Number
  lawful : Json.Lawful numbers
  integer : Number → Option Int
  ofInt_integer : ∀ x n, integer x = some n → 0 < n → numbers.ofInt n = x
  sha256 : Text → Text
  sha256_ne : ∀ t, sha256 t ≠ []
  localeLe : Text → Text → Bool

abbrev ApprovalOutcome := GitOps.PlacementOutcome

abbrev ApprovedNodeOutcome := GitOps.PlacementEffect

inductive EffectiveApproval where
  | pending
  | approved
  | reapprovalRequired
  deriving DecidableEq

inductive PreviewAction where
  | create
  | update
  | remove
  | checkObserve
  | checkEnforce
  | awaitStateReview
  | awaitEvictConfirm
  | clearStaleGuard
  | clearReversedEvict
  | inFlightDeploy
  | inFlightCorrect
  | inFlightWithdraw
  | skipCordoned
  | skipWithdrawn
  | blockedNameConflict
  deriving DecidableEq

structure ConfirmableActionRef where
  nodeId : Int
  action : PreviewAction
  deriving DecidableEq

def placeExecutor : List PreviewAction :=
  [.create, .update, .checkObserve, .checkEnforce, .awaitStateReview, .clearReversedEvict]

def removeExecutor : List PreviewAction := [.remove, .awaitEvictConfirm, .clearStaleGuard]

def informational : List PreviewAction :=
  [.inFlightDeploy, .inFlightCorrect, .inFlightWithdraw, .skipCordoned, .skipWithdrawn,
    .blockedNameConflict]

def isExecutorAction (action : PreviewAction) : Bool := !informational.contains action

/-- The outcome an action stands for when it appears in a confirmed plan. -/
def outcomeForConfirmableAction (action : PreviewAction) : Option ApprovalOutcome :=
  if placeExecutor.contains action || action = .inFlightDeploy || action = .inFlightCorrect then
    some .place
  else if removeExecutor.contains action || action = .inFlightWithdraw then some .remove
  else none

def isActionAuthorized (outcome : ApprovalOutcome) (action : PreviewAction) : Bool :=
  if informational.contains action then false
  else
    match outcome with
    | .place => placeExecutor.contains action
    | .remove => removeExecutor.contains action

section Fingerprint

variable (h : Host)

/-- A list in the order of the host's texts. -/
def sortTexts (texts : List Text) : List Text := texts.insertionSort fun a b => h.localeLe a b

def canonicalSelectorJson : Selector → Text
  | .nodes ids =>
    Json.stringify h.numbers 0 (.obj [(text "type", .str (text "nodes")),
      (text "ids", .arr ((ids.insertionSort (· ≤ ·)).map fun n => .num (h.numbers.ofInt n)))])
  | .labels any all =>
    Json.stringify h.numbers 0 (.obj [(text "type", .str (text "labels")),
      (text "any", .arr ((sortTexts h any).map .str)),
      (text "all", .arr ((sortTexts h all).map .str))])

/-- Lines joined by a line break. -/
def joinLines : List Text → Text
  | [] => []
  | [line] => line
  | line :: lines => line ++ unit '\n' :: joinLines lines

def intentFingerprint (blueprint : Blueprint) : Text :=
  h.sha256 (joinLines (sortTexts h [
    text "id:" ++ decimalInt blueprint.id,
    text "name:" ++ blueprint.name,
    text "revision:" ++ decimalInt blueprint.revision,
    text "selector:" ++ canonicalSelectorJson h blueprint.selector,
    text "pin:" ++ (blueprint.pinnedNodeId.elim (text "null") decimalInt),
    text "enabled:" ++ text (if blueprint.enabled then "1" else "0"),
    text "drift:" ++ text blueprint.driftMode.name,
    text "compose:" ++ h.sha256 blueprint.composeContent]))

end Fingerprint

def outcomeName : ApprovalOutcome → Text
  | .place => text "place"
  | .remove => text "remove"

def outcomeOf (t : Text) : Option ApprovalOutcome :=
  if t = text "place" then some .place
  else if t = text "remove" then some .remove
  else none

section Blast

variable (h : Host)

def entryJson (entry : ApprovedNodeOutcome) : Json h.Number :=
  .obj [(text "nodeId", .num (h.numbers.ofInt entry.nodeId)),
    (text "outcome", .str (outcomeName entry.outcome))]

def serializeApprovedBlast (entries : List ApprovedNodeOutcome) : Text :=
  Json.stringify h.numbers 0
    (.arr ((entries.insertionSort fun a b => a.nodeId ≤ b.nodeId).map (entryJson h)))

inductive ParseBlastReason where
  | missing
  | malformedJson
  | notArray
  | unknownKeys
  | badElement
  | invalidNodeId
  | invalidOutcome
  | duplicateNode
  | nonCanonicalOrder

def hasExactKeys {ν : Type} (fields : List (Text × Json ν)) (keyA keyB : Text) : Bool :=
  let keys := fields.map Prod.fst
  keys.length = 2 && keys.contains keyA && keys.contains keyB

def isPositiveInt : Option (Json h.Number) → Option Int
  | some (.num x) => (h.integer x).filter fun n => 0 < n
  | _ => none

/-- The elements in order, each checked against the nodes before it. -/
def parseEntries : List Int → List (Json h.Number) →
    Except ParseBlastReason (List ApprovedNodeOutcome)
  | _, [] => .ok []
  | seen, .obj fields :: items =>
    if !hasExactKeys fields (text "nodeId") (text "outcome") then .error .unknownKeys
    else
      match isPositiveInt h (Json.get? fields (text "nodeId")) with
      | none => .error .invalidNodeId
      | some nodeId =>
        match Json.get? fields (text "outcome") with
        | some (.str t) =>
          match outcomeOf t with
          | none => .error .invalidOutcome
          | some outcome =>
            if seen.contains nodeId then .error .duplicateNode
            else (parseEntries (nodeId :: seen) items).map (⟨nodeId, outcome⟩ :: ·)
        | _ => .error .invalidOutcome
  | _, _ :: _ => .error .badElement

/-- Each node id is above the one before it. -/
def ascending : List ApprovedNodeOutcome → Bool
  | a :: b :: entries => decide (a.nodeId < b.nodeId) && ascending (b :: entries)
  | _ => true

def parseApprovedBlastJson (raw : Option Text) :
    Except ParseBlastReason (List ApprovedNodeOutcome) :=
  match raw.filter fun t => t ≠ [] with
  | none => .error .missing
  | some t =>
    match Json.parse h.numbers t with
    | none => .error .malformedJson
    | some (.arr items) =>
      (parseEntries h [] items).bind fun entries =>
        if ascending entries then .ok entries else .error .nonCanonicalOrder
    | some _ => .error .notArray

end Blast

/-- The outcome of a node.  The last of two entries for one node counts. -/
def outcomeFor (entries : List ApprovedNodeOutcome) (nodeId : Int) : Option ApprovalOutcome :=
  (entries.reverse.find? fun e => e.nodeId = nodeId).map GitOps.PlacementEffect.outcome

def covers (entries : List ApprovedNodeOutcome) (ref : ConfirmableActionRef) : Bool :=
  (outcomeFor entries ref.nodeId).any fun outcome => isActionAuthorized outcome ref.action

def filterAuthorizedExecutorActions (blast : List ApprovedNodeOutcome)
    (executorActions : List ConfirmableActionRef) : List ConfirmableActionRef :=
  executorActions.filter (covers blast)

structure Evaluation where
  effectiveApproval : EffectiveApproval
  unauthorizedActions : List ConfirmableActionRef
  blast : Option (List ApprovedNodeOutcome)

def evaluateEffectiveApproval (h : Host) (blueprint : Blueprint)
    (executorActions : List ConfirmableActionRef) : Evaluation :=
  let pending : Evaluation := ⟨.pending, executorActions, none⟩
  match parseApprovedBlastJson h blueprint.approvedBlastJson with
  | .error _ => pending
  | .ok entries =>
    match blueprint.approvedIntentFingerprint.filter fun t => t ≠ [] with
    | none => pending
    | some fp =>
      if blueprint.approvalStatus ≠ .approved || fp ≠ intentFingerprint h blueprint then pending
      else
        let unauthorized := executorActions.filter fun ref => !covers entries ref
        if 0 < unauthorized.length then
          ⟨.reapprovalRequired, unauthorized, some entries⟩
        else ⟨.approved, [], some entries⟩

section ReadBack

variable (h : Host)
variable (entries : List ApprovedNodeOutcome)

/-- An entry as the column can hold it. -/
def Readable (entry : ApprovedNodeOutcome) : Prop :=
  0 < entry.nodeId ∧ h.integer (h.numbers.ofInt entry.nodeId) = some entry.nodeId

theorem isPositiveInt_sound {v : Option (Json h.Number)} {n : Int}
    (hv : isPositiveInt h v = some n) : 0 < n ∧ h.integer (h.numbers.ofInt n) = some n := by
  unfold isPositiveInt at hv
  split at hv
  · rename_i x
    obtain ⟨hinteger, hpos⟩ := Option.filter_eq_some_iff.mp hv
    have hn : 0 < n := of_decide_eq_true hpos
    have hback : h.numbers.ofInt n = x := h.ofInt_integer x n hinteger hn
    exact ⟨hn, by rw [hback, hinteger]⟩
  · cases hv

/-- The first element of a list that is read gives the first entry. -/
theorem parseEntries_cons {seen : List Int} {item : Json h.Number} {items : List (Json h.Number)}
    {entries : List ApprovedNodeOutcome} (hparse : parseEntries h seen (item :: items) = .ok entries) :
    ∃ nodeId outcome rest, (∃ v, isPositiveInt h v = some nodeId) ∧
      parseEntries h (nodeId :: seen) items = .ok rest ∧ entries = ⟨nodeId, outcome⟩ :: rest := by
  cases item with
  | obj fields =>
    rw [parseEntries] at hparse
    split at hparse
    · cases hparse
    · split at hparse
      · cases hparse
      · rename_i nodeId hnode
        split at hparse
        · split at hparse
          · cases hparse
          · rename_i outcome _
            split at hparse
            · cases hparse
            · cases hrest : parseEntries h (nodeId :: seen) items with
              | error e =>
                rw [hrest] at hparse
                cases hparse
              | ok rest =>
                rw [hrest] at hparse
                cases hparse
                exact ⟨nodeId, outcome, rest, ⟨_, hnode⟩, hrest, rfl⟩
        · cases hparse
  | null | bool b | num x | str t | arr vs => cases hparse

theorem parseEntries_readable (items : List (Json h.Number)) :
    ∀ (seen : List Int) (entries : List ApprovedNodeOutcome),
      parseEntries h seen items = .ok entries → ∀ entry ∈ entries, Readable h entry := by
  induction items with
  | nil =>
    intro seen entries hparse entry hmem
    cases hparse
    cases hmem
  | cons item items ih =>
    intro seen entries hparse entry hmem
    obtain ⟨nodeId, outcome, rest, ⟨v, hnode⟩, hrest, rfl⟩ := parseEntries_cons h hparse
    rcases mem_cons.mp hmem with rfl | htail
    · exact isPositiveInt_sound h hnode
    · exact ih (nodeId :: seen) rest hrest entry htail

theorem ascending_iff :
    ascending entries = true ↔ entries.Pairwise fun a b => a.nodeId < b.nodeId := by
  induction entries with
  | nil => simp [ascending]
  | cons a entries ih =>
    cases entries with
    | nil => simp [ascending]
    | cons b rest =>
      rw [ascending, Bool.and_eq_true, decide_eq_true_eq, ih]
      constructor
      · rintro ⟨hlt, hrest⟩
        apply pairwise_cons.mpr
        refine ⟨fun c hc => ?_, hrest⟩
        rcases mem_cons.mp hc with rfl | hc
        · exact hlt
        · exact Int.lt_trans hlt ((pairwise_cons.mp hrest).1 c hc)
      · intro hpair
        obtain ⟨hall, hrest⟩ := pairwise_cons.mp hpair
        exact ⟨hall b mem_cons_self, hrest⟩

/-- What a read column holds: readable entries in ascending order. -/
theorem parseApprovedBlastJson_ok {raw : Option Text} {entries : List ApprovedNodeOutcome}
    (hparse : parseApprovedBlastJson h raw = .ok entries) :
    (entries.Pairwise fun a b => a.nodeId < b.nodeId) ∧ ∀ entry ∈ entries, Readable h entry := by
  unfold parseApprovedBlastJson at hparse
  split at hparse
  · cases hparse
  · split at hparse
    · cases hparse
    · rename_i items _
      cases hitems : parseEntries h [] items with
      | error e =>
        rw [hitems] at hparse
        cases hparse
      | ok read =>
        rw [hitems] at hparse
        change (if ascending read then (.ok read : Except ParseBlastReason _) else _) = _ at hparse
        split at hparse
        · rename_i hasc
          cases hparse
          exact ⟨(ascending_iff entries).mp hasc, parseEntries_readable h items [] entries hitems⟩
        · cases hparse
    · cases hparse

theorem outcomeOf_name (outcome : ApprovalOutcome) :
    outcomeOf (outcomeName outcome) = some outcome := by
  cases outcome with
  | place | remove => decide

theorem back_entryJson (entry : ApprovedNodeOutcome) :
    Json.back h.numbers (entryJson h entry) = entryJson h entry := by
  have hfinite := h.lawful.finite_ofInt entry.nodeId
  have hkeys : text "nodeId" ≠ text "outcome" := by decide
  simp [entryJson, Json.back, Json.backFields, Json.put, hfinite, hkeys]

theorem backElements_entryJson :
    Json.backElements h.numbers (entries.map (entryJson h)) = entries.map (entryJson h) := by
  induction entries with
  | nil => rfl
  | cons entry entries ih =>
    rw [map_cons, Json.backElements, back_entryJson, ih]

theorem parseEntries_entryJson (hasc : entries.Pairwise fun a b => a.nodeId < b.nodeId)
    (hread : ∀ entry ∈ entries, Readable h entry) :
    ∀ seen : List Int, (∀ n ∈ seen, ∀ entry ∈ entries, n < entry.nodeId) →
      parseEntries h seen (entries.map (entryJson h)) = .ok entries := by
  induction entries with
  | nil => intro seen _; rfl
  | cons entry entries ih =>
    intro seen hseen
    obtain ⟨hfirst, hrest⟩ := pairwise_cons.mp hasc
    obtain ⟨hpos, hinteger⟩ := hread entry mem_cons_self
    have hkeys : hasExactKeys [(text "nodeId", Json.num (h.numbers.ofInt entry.nodeId)),
        (text "outcome", .str (outcomeName entry.outcome))] (text "nodeId") (text "outcome") =
        true := rfl
    have hnode : isPositiveInt h (Json.get? [(text "nodeId", Json.num
        (h.numbers.ofInt entry.nodeId)), (text "outcome", .str (outcomeName entry.outcome))]
        (text "nodeId")) = some entry.nodeId := by
      have hother : text "outcome" ≠ text "nodeId" := by decide
      simp [Json.get?, hother, isPositiveInt, hinteger, hpos]
    have houtcome : Json.get? [(text "nodeId", Json.num (h.numbers.ofInt entry.nodeId)),
        (text "outcome", .str (outcomeName entry.outcome))] (text "outcome") =
        some (.str (outcomeName entry.outcome)) := by
      simp [Json.get?]
    have hnew : seen.contains entry.nodeId = false := by
      rw [contains_eq_mem, decide_eq_false_iff_not]
      intro hmem
      have hlt := hseen entry.nodeId hmem entry mem_cons_self
      omega
    have hnext : ∀ n ∈ entry.nodeId :: seen, ∀ e ∈ entries, n < e.nodeId := by
      intro n hn e he
      rcases mem_cons.mp hn with rfl | hn
      · exact hfirst e he
      · exact hseen n hn e (mem_cons_of_mem _ he)
    have htail := ih hrest (fun e he => hread e (mem_cons_of_mem _ he)) _ hnext
    rw [map_cons, entryJson, parseEntries]
    simp only [hkeys, hnode, houtcome, outcomeOf_name, hnew, htail]
    rfl

theorem serializeApprovedBlast_ne : serializeApprovedBlast h entries ≠ [] := by
  intro hnil
  have hpos := Json.print_pos h.lawful 0 0
    (.arr ((entries.insertionSort fun a b => a.nodeId ≤ b.nodeId).map (entryJson h)))
  unfold serializeApprovedBlast Json.stringify at hnil
  rw [hnil] at hpos
  exact absurd hpos (Nat.lt_irrefl 0)

/-- Outcomes that were read, some of them dropped, are written and read back. -/
theorem parseApprovedBlastJson_serialize {raw : Option Text}
    {entries kept : List ApprovedNodeOutcome} (hparse : parseApprovedBlastJson h raw = .ok entries)
    (hkept : kept.Sublist entries) :
    parseApprovedBlastJson h (some (serializeApprovedBlast h kept)) = .ok kept := by
  obtain ⟨hasc, hread⟩ := parseApprovedBlastJson_ok h hparse
  have hkeptAsc := hasc.sublist hkept
  have hkeptRead : ∀ entry ∈ kept, Readable h entry := fun e he => hread e (hkept.subset he)
  have hsorted : kept.insertionSort (fun a b => a.nodeId ≤ b.nodeId) = kept :=
    (hkeptAsc.imp fun hlt => Int.le_of_lt hlt).insertionSort_eq
  have htext : (some (serializeApprovedBlast h kept)).filter (fun t => t ≠ []) =
      some (serializeApprovedBlast h kept) := by
    simp [Option.filter, serializeApprovedBlast_ne]
  have hjson : Json.parse h.numbers (serializeApprovedBlast h kept) =
      some (.arr (kept.map (entryJson h))) := by
    rw [serializeApprovedBlast, Json.parse_stringify h.lawful, hsorted, Json.back,
      backElements_entryJson]
  have hentries := parseEntries_entryJson h kept hkeptAsc hkeptRead []
    (fun n hn => absurd hn (not_mem_nil))
  unfold parseApprovedBlastJson
  rw [htext]
  dsimp only
  rw [hjson]
  dsimp only
  rw [hentries]
  change (if ascending kept then Except.ok kept else _) = _
  rw [if_pos ((ascending_iff kept).mpr hkeptAsc)]

end ReadBack

/-- The stored approval of a blueprint, when it is readable and given for the intent as it is. -/
def legacyApproval (h : Host) (blueprint : Blueprint) : Option (List ApprovedNodeOutcome) :=
  match parseApprovedBlastJson h blueprint.approvedBlastJson with
  | .error _ => none
  | .ok entries =>
    if blueprint.approvalStatus = .approved ∧
        blueprint.approvedIntentFingerprint = some (intentFingerprint h blueprint) then
      some entries
    else none

theorem intentFingerprint_ne (h : Host) (blueprint : Blueprint) :
    intentFingerprint h blueprint ≠ [] := h.sha256_ne _

/-- Without an approval in force everything waits. -/
theorem evaluateEffectiveApproval_none {h : Host} {blueprint : Blueprint}
    (hnone : legacyApproval h blueprint = none) (actions : List ConfirmableActionRef) :
    evaluateEffectiveApproval h blueprint actions = ⟨.pending, actions, none⟩ := by
  unfold legacyApproval at hnone
  unfold evaluateEffectiveApproval
  cases hparse : parseApprovedBlastJson h blueprint.approvedBlastJson with
  | error e => rfl
  | ok entries =>
    rw [hparse] at hnone
    dsimp only at hnone ⊢
    cases hfp : blueprint.approvedIntentFingerprint.filter fun t => t ≠ [] with
    | none => rfl
    | some fp =>
      obtain ⟨hst, _⟩ := Option.filter_eq_some_iff.mp hfp
      apply if_pos
      by_contra hgood
      simp only [Bool.or_eq_true, decide_eq_true_eq, not_or, not_not] at hgood
      rw [if_pos ⟨hgood.1, by rw [hst, hgood.2]⟩] at hnone
      cases hnone

/-- With one, what its outcomes do not cover waits. -/
theorem evaluateEffectiveApproval_some {h : Host} {blueprint : Blueprint}
    {entries : List ApprovedNodeOutcome} (hsome : legacyApproval h blueprint = some entries)
    (actions : List ConfirmableActionRef) :
    (evaluateEffectiveApproval h blueprint actions).effectiveApproval ≠ .pending ∧
      (evaluateEffectiveApproval h blueprint actions).unauthorizedActions =
        actions.filter fun ref => !covers entries ref := by
  unfold legacyApproval at hsome
  unfold evaluateEffectiveApproval
  cases hparse : parseApprovedBlastJson h blueprint.approvedBlastJson with
  | error e =>
    rw [hparse] at hsome
    cases hsome
  | ok read =>
    rw [hparse] at hsome
    dsimp only at hsome ⊢
    split at hsome
    · rename_i hgood
      cases hsome
      have hfp : blueprint.approvedIntentFingerprint.filter (fun t => t ≠ []) =
          some (intentFingerprint h blueprint) := by
        rw [hgood.2]
        simp [Option.filter, intentFingerprint_ne]
      rw [hfp]
      dsimp only
      rw [if_neg (by simp [hgood.1])]
      split
      · exact ⟨EffectiveApproval.noConfusion, rfl⟩
      · rename_i hlen
        refine ⟨EffectiveApproval.noConfusion, ?_⟩
        exact (eq_nil_of_length_eq_zero (by omega)).symm
    · cases hsome

end Sencho.Blueprints
