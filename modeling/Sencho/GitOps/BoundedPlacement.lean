import Mathlib.Data.Finset.Card
import Mathlib.Data.List.Sort
import Sencho.GitOps.Types

/-!
# Bounded automatic placement

The decision whether a change of the nodes an application runs on is approved without an operator:
one node is added or one is removed, and every safety input is clear.
-/

namespace Sencho.GitOps.BoundedPlacement

open List

inductive PlacementPolicyReason where
  | policyIsOperator
  | noPlacementChange
  | statelessAddition
  | statelessRemoval
  | mixedAddAndRemove
  | multipleAdditions
  | multipleRemovals
  | statefulWorkload
  | unknownWorkload
  | firstMultiNodePlacement
  | pinDrivenPlacement
  | cordonOverride
  | cordonDrivenRemoval
  | staleNode
  | unknownConnectivity
  | missingEvidence
  | malformedEvidence
  | destructiveEffect
  | conflictingOperation
  deriving DecidableEq

structure PlacementEffect where
  additions : List Int
  removals : List Int
  deriving DecidableEq

inductive PlacementDecision where
  | noAction (effect : PlacementEffect)
  | autoApprove (reason : PlacementPolicyReason) (effect : PlacementEffect)
  | operatorReview (reason : PlacementPolicyReason) (effect : PlacementEffect)
  deriving DecidableEq

inductive WorkloadStatelessness where
  | stateless
  | stateful
  | unknown
  deriving DecidableEq

inductive AffectedNodeState where
  | reachable
  | unreachable
  | unknown
  deriving DecidableEq

/-- An element of a stored list: a node id, or anything that is no finite number. -/
inductive Entry where
  | nodeId (id : Int)
  | other

/-- The lists are stored text that was read, so that either may be no list at all. -/
structure BoundedAutoInput where
  policy : PlacementPolicy
  approvedNodeIds : Option (List Entry)
  candidateNodeIds : Option (List Entry)
  hasPriorApproval : Bool
  statelessness : Option WorkloadStatelessness
  pinDriven : Bool
  cordonOverride : Bool
  cordonDrivenRemoval : Bool
  affectedNodeState : AffectedNodeState
  conflictingOperation : Bool
  evidenceReadable : Bool
  evidenceWellFormed : Bool

def nodeIdList : Option (List Entry) → List Int
  | none => []
  | some entries => entries.filterMap fun
    | .nodeId id => some id
    | .other => none

def setDifference (source other : List Int) : List Int := source.filter (· ∉ other)

def sortIds (ids : List Int) : List Int := ids.insertionSort (· ≤ ·)

def placementEffect (approved candidate : List Int) : PlacementEffect where
  additions := sortIds (setDifference candidate approved)
  removals := sortIds (setDifference approved candidate)

def decideBoundedAutoPlacement (input : BoundedAutoInput) : PlacementDecision :=
  let approved := nodeIdList input.approvedNodeIds
  let candidate := nodeIdList input.candidateNodeIds
  let effect := placementEffect approved candidate
  let review := fun reason => PlacementDecision.operatorReview reason effect
  if input.policy ≠ .boundedAuto then review .policyIsOperator
  else if input.conflictingOperation then review .conflictingOperation
  else if input.evidenceReadable = false then review .missingEvidence
  else if input.evidenceWellFormed = false then review .malformedEvidence
  else if effect.additions.length = 0 ∧ effect.removals.length = 0 then .noAction effect
  else if input.hasPriorApproval = false ∧ candidate.length > 1 then
    review .firstMultiNodePlacement
  else if effect.additions.length > 0 ∧ effect.removals.length > 0 then review .mixedAddAndRemove
  else if effect.additions.length > 1 then review .multipleAdditions
  else if effect.removals.length > 1 then review .multipleRemovals
  else if input.statelessness = some .stateful ∨ input.statelessness = none then
    review .statefulWorkload
  else if input.statelessness = some .unknown then review .unknownWorkload
  else if input.cordonOverride then review .cordonOverride
  else if input.cordonDrivenRemoval then review .cordonDrivenRemoval
  else if input.pinDriven then review .pinDrivenPlacement
  else if input.affectedNodeState = .unreachable then review .staleNode
  else if input.affectedNodeState = .unknown then review .unknownConnectivity
  else if candidate.length = 0 then review .destructiveEffect
  else if effect.additions.length = 1 then .autoApprove .statelessAddition effect
  else .autoApprove .statelessRemoval effect

variable {approved approved' candidate candidate' : List Int}

theorem mem_sortIds_setDifference {source other : List Int} {id : Int} :
    id ∈ sortIds (setDifference source other) ↔ id ∈ source ∧ id ∉ other := by
  unfold sortIds setDifference
  rw [(perm_insertionSort _ _).mem_iff, mem_filter, decide_eq_true_iff]

theorem sortIds_perm {ids ids' : List Int} (h : ids.Perm ids') : sortIds ids = sortIds ids' := by
  have hperm : (sortIds ids).Perm (sortIds ids') :=
    (perm_insertionSort _ ids).trans (h.trans (perm_insertionSort _ ids').symm)
  exact hperm.eq_of_pairwise' (pairwise_insertionSort _ ids) (pairwise_insertionSort _ ids')

theorem setDifference_perm (ha : approved.Perm approved') (hc : candidate.Perm candidate') :
    (setDifference candidate approved).Perm (setDifference candidate' approved') := by
  have hsame : setDifference candidate' approved' = setDifference candidate' approved := by
    unfold setDifference
    simp only [ha.mem_iff]
  rw [hsame]
  exact hc.filter _

theorem placementEffect_perm (ha : approved.Perm approved') (hc : candidate.Perm candidate') :
    placementEffect approved candidate = placementEffect approved' candidate' := by
  unfold placementEffect
  rw [sortIds_perm (setDifference_perm ha hc), sortIds_perm (setDifference_perm hc ha)]

theorem decide_perm {input : BoundedAutoInput} {approved candidate : Option (List Entry)}
    (ha : (nodeIdList approved).Perm (nodeIdList input.approvedNodeIds))
    (hc : (nodeIdList candidate).Perm (nodeIdList input.candidateNodeIds)) :
    decideBoundedAutoPlacement
        { input with approvedNodeIds := approved, candidateNodeIds := candidate } =
      decideBoundedAutoPlacement input := by
  unfold decideBoundedAutoPlacement
  simp only [placementEffect_perm ha hc, hc.length_eq]

/-- One node is added or removed, and nothing speaks against it. -/
structure OneNodeMove (input : BoundedAutoInput) (approved candidate : Finset Int) : Prop where
  policy : input.policy = .boundedAuto
  moved : ∃ id, candidate \ approved ∪ approved \ candidate = {id}
  nonempty : candidate.Nonempty
  stateless : input.statelessness = some .stateless
  readable : input.evidenceReadable = true
  wellFormed : input.evidenceWellFormed = true
  unopposed : input.conflictingOperation = false
  notByCordon : input.cordonDrivenRemoval = false
  notByPin : input.pinDriven = false
  notOverCordon : input.cordonOverride = false
  reachable : input.affectedNodeState = .reachable
  first : input.hasPriorApproval = false → candidate.card ≤ 1

/-- The bounds on the two differences leave one node. -/
theorem moved_one (hsome : ¬ ((placementEffect approved candidate).additions.length = 0 ∧
      (placementEffect approved candidate).removals.length = 0))
    (hboth : ¬ ((placementEffect approved candidate).additions.length > 0 ∧
      (placementEffect approved candidate).removals.length > 0))
    (hadd : ¬ (placementEffect approved candidate).additions.length > 1)
    (hremove : ¬ (placementEffect approved candidate).removals.length > 1) :
    ∃ id, candidate.toFinset \ approved.toFinset ∪ approved.toFinset \ candidate.toFinset =
      {id} := by
  have hone : ∃ id, (placementEffect approved candidate).additions ++
      (placementEffect approved candidate).removals = [id] := by
    refine length_eq_one_iff.mp ?_
    rw [length_append]
    omega
  obtain ⟨id, hid⟩ := hone
  refine ⟨id, Finset.ext fun x => ?_⟩
  have hmem : x ∈ (placementEffect approved candidate).additions ++
      (placementEffect approved candidate).removals ↔ x = id := by
    rw [hid, List.mem_singleton]
  rw [mem_append] at hmem
  simp only [placementEffect, mem_sortIds_setDifference] at hmem
  simpa using hmem

theorem not_answered {c : Prop} [Decidable c] {d d' d'' : PlacementDecision}
    (h : (if c then d else d') = d'') (hne : d ≠ d'') : ¬ c ∧ d' = d'' := by
  split at h
  · exact absurd h hne
  · rename_i hc
    exact ⟨hc, h⟩

theorem stateless_of {s : Option WorkloadStatelessness} (h : ¬ (s = some .stateful ∨ s = none))
    (hunknown : s ≠ some .unknown) : s = some .stateless := by
  rcases s with _ | _ | _ | _
  · exact absurd (.inr rfl) h
  · rfl
  · exact absurd (.inl rfl) h
  · exact absurd rfl hunknown

theorem reachable_of {s : AffectedNodeState} (h : s ≠ .unreachable) (hunknown : s ≠ .unknown) :
    s = .reachable := by
  cases s with
  | reachable => rfl
  | unreachable => exact absurd rfl h
  | unknown => exact absurd rfl hunknown

/-- What an automatic approval answers for, and that the order of the lists says nothing. -/
theorem autoApprove_oneNodeMove (input : BoundedAutoInput) :
    (∀ reason effect, decideBoundedAutoPlacement input = .autoApprove reason effect →
      OneNodeMove input (nodeIdList input.approvedNodeIds).toFinset
        (nodeIdList input.candidateNodeIds).toFinset) ∧
    ∀ approved candidate, (nodeIdList approved).Perm (nodeIdList input.approvedNodeIds) →
      (nodeIdList candidate).Perm (nodeIdList input.candidateNodeIds) →
      decideBoundedAutoPlacement
          { input with approvedNodeIds := approved, candidateNodeIds := candidate } =
        decideBoundedAutoPlacement input := by
  refine ⟨fun reason effect h => ?_, fun _ _ ha hc => decide_perm ha hc⟩
  obtain ⟨hpolicy, h⟩ := not_answered h (by simp)
  obtain ⟨hconflict, h⟩ := not_answered h (by simp)
  obtain ⟨hread, h⟩ := not_answered h (by simp)
  obtain ⟨hform, h⟩ := not_answered h (by simp)
  obtain ⟨hnone, h⟩ := not_answered h (by simp)
  obtain ⟨hfirst, h⟩ := not_answered h (by simp)
  obtain ⟨hboth, h⟩ := not_answered h (by simp)
  obtain ⟨hadd, h⟩ := not_answered h (by simp)
  obtain ⟨hremove, h⟩ := not_answered h (by simp)
  obtain ⟨hwork, h⟩ := not_answered h (by simp)
  obtain ⟨hunknown, h⟩ := not_answered h (by simp)
  obtain ⟨hover, h⟩ := not_answered h (by simp)
  obtain ⟨hdriven, h⟩ := not_answered h (by simp)
  obtain ⟨hpin, h⟩ := not_answered h (by simp)
  obtain ⟨hstale, h⟩ := not_answered h (by simp)
  obtain ⟨hconnect, h⟩ := not_answered h (by simp)
  obtain ⟨hempty, -⟩ := not_answered h (by simp)
  exact {
    policy := not_not.mp hpolicy
    moved := moved_one hnone hboth hadd hremove
    nonempty := (toFinset_nonempty_iff _).mpr (ne_nil_of_length_pos (Nat.pos_of_ne_zero hempty))
    stateless := stateless_of hwork hunknown
    readable := eq_true_of_ne_false hread
    wellFormed := eq_true_of_ne_false hform
    unopposed := eq_false_of_ne_true hconflict
    notByCordon := eq_false_of_ne_true hdriven
    notByPin := eq_false_of_ne_true hpin
    notOverCordon := eq_false_of_ne_true hover
    reachable := reachable_of hstale hconnect
    first := fun hnever => (toFinset_card_le _).trans
      (Nat.le_of_not_lt fun hmany => hfirst ⟨hnever, hmany⟩) }

/-- The first node of an application is approved. -/
theorem autoApprove_firstNode :
    OneNodeMove ⟨.boundedAuto, some [], some [.nodeId 3], false, some .stateless, false, false,
      false, .reachable, false, true, true⟩ ∅ {3} :=
  (autoApprove_oneNodeMove ⟨.boundedAuto, some [], some [.nodeId 3], false, some .stateless, false,
    false, false, .reachable, false, true, true⟩).1 .statelessAddition ⟨[3], []⟩ (by decide)

end Sencho.GitOps.BoundedPlacement
