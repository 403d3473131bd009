import Sencho.Blueprints.Plan

/-!
# What the plan asks of a node

The rows of the plan are pushed by one pass after another.  A node that is in the middle of its
life, with the current revision on it, gets a check and nothing else, and a check is given to no
other node.
-/

namespace Sencho.Blueprints

open Verified List Projection

/-- Push a row for a node that was not seen. -/
def Projection.pushRow (p : Projection) (row : RawAction) : Projection :=
  p.pushUnseen row.node row.action

variable {action : PreviewAction}

section

variable {p : Projection} {rows : List RawAction} {row : RawAction}

theorem nodup_push {node : Node}
    (h : (p.out.map fun row => row.node.id).Nodup) (hnew : ∀ row ∈ p.out, row.node.id ≠ node.id) :
    ((p.push node action).out.map fun row => row.node.id).Nodup := by
  show ((p.out ++ [RawAction.mk node action]).map fun row => row.node.id).Nodup
  rw [map_append, nodup_append]
  refine ⟨h, nodup_singleton _, ?_⟩
  intro n hn m hm
  obtain ⟨row, hrow, rfl⟩ := mem_map.mp hn
  rw [mem_singleton.mp hm]
  exact hnew row hrow

/-- Of rows pushed in order, a node that was not seen gets its first. -/
theorem mem_foldl_pushRow : row ∈ (rows.foldl pushRow p).out ↔ row ∈ p.out ∨
    row.node.id ∉ p.seen ∧ rows.find? (fun r => r.node.id = row.node.id) = some row := by
  induction rows generalizing p with
  | nil => simp
  | cons first rows ih =>
    rw [foldl_cons, ih, find?_cons]
    unfold pushRow pushUnseen
    by_cases hseen : first.node.id ∈ p.seen
    · rw [if_pos (contains_iff_mem.mpr hseen)]
      by_cases hid : first.node.id = row.node.id
      · rw [hid] at hseen
        simp [hseen]
      · simp [hid]
    · rw [if_neg (mt contains_iff_mem.mp hseen)]
      show row ∈ p.out ++ [first] ∨ row.node.id ∉ first.node.id :: p.seen ∧ _ ↔ _
      by_cases hid : first.node.id = row.node.id
      · rw [hid] at hseen
        simp [hid, hseen, eq_comm]
      · have hne : row ≠ first := fun h => hid (congrArg (fun r => r.node.id) h.symm)
        simp [hid, hne, Ne.symm hid]

theorem nodup_foldl_pushRow (hnodup : (p.out.map fun row => row.node.id).Nodup)
    (hseen : ∀ row ∈ p.out, row.node.id ∈ p.seen) :
    ((rows.foldl pushRow p).out.map fun row => row.node.id).Nodup := by
  induction rows generalizing p with
  | nil => exact hnodup
  | cons first rows ih =>
    rw [foldl_cons]
    unfold pushRow pushUnseen
    split
    · exact ih hnodup hseen
    · rename_i hnew
      refine ih (nodup_push hnodup fun row hrow hid => ?_) fun row hrow => ?_
      · exact hnew (contains_iff_mem.mpr (hid ▸ hseen row hrow))
      · rcases mem_append.mp hrow with hold | hlast
        · exact mem_cons_of_mem _ (hseen row hold)
        · rw [mem_singleton.mp hlast]
          exact mem_cons_self

end

section Passes

variable {fleet : Fleet} {blueprint : Blueprint} {row : RawAction}

theorem id_of_node? {nodeId : Int} {node : Node} (h : fleet.node? nodeId = some node) :
    node.id = nodeId := by
  simpa using find?_some h

/-- The row of a deployment, if its node is there. -/
def deploymentRow (fleet : Fleet) (action : BlueprintDeployment → Option PreviewAction)
    (dep : BlueprintDeployment) : Option RawAction :=
  (fleet.node? dep.nodeId).bind fun node => (action dep).map fun a => ⟨node, a⟩

/-- The rows that are pushed before all others. -/
def guards (fleet : Fleet) (blueprint : Blueprint) : List RawAction :=
  fleet.listDeployments.filterMap
    (deploymentRow fleet fun dep => precedenceAction dep (desires fleet blueprint dep.nodeId))

/-- The rows of the decision. -/
def decidedRows (fleet : Fleet) (blueprint : Blueprint) : List RawAction :=
  let decision := computeDecision fleet blueprint
  (decision.deploy.map fun n =>
      ⟨n, if (fleet.getDeployment n.id).isNone then .create else .update⟩) ++
    decision.withdraw.map (fun n => ⟨n, .remove⟩) ++
    decision.check.map (fun n => ⟨n, driftCheckAction blueprint.driftMode⟩) ++
    decision.stateReview.map (fun n => ⟨n, .awaitStateReview⟩) ++
    decision.evictBlocked.map fun n => ⟨n, .awaitEvictConfirm⟩

/-- The rows that are pushed after the decision's. -/
def lastRows (fleet : Fleet) (blueprint : Blueprint) : List RawAction :=
  (((listDesiredNodes fleet blueprint).filter fun node =>
      (fleet.getDeployment node.id).isNone && node.cordoned &&
        blueprint.pinnedNodeId ≠ some node.id).map fun n => ⟨n, .skipCordoned⟩) ++
    fleet.listDeployments.filterMap (deploymentRow fleet fun dep =>
      fallbackAction blueprint dep (desires fleet blueprint dep.nodeId))

/-- The rows in flight, under a guard or severed. -/
def guardRows (fleet : Fleet) (blueprint : Blueprint) : Projection :=
  projectSevered fleet blueprint (severedNodes fleet blueprint)
    (projectPrecedence fleet blueprint ⟨[], severedNodes fleet blueprint⟩)

theorem foldl_deploymentRow {step : Projection → Node → PreviewAction → Projection}
    (action : BlueprintDeployment → Option PreviewAction) (deps : List BlueprintDeployment)
    (p : Projection) : deps.foldl (fun p dep =>
      match fleet.node? dep.nodeId with
      | none => p
      | some node =>
        match action dep with
        | none => p
        | some a => step p node a) p =
    (deps.filterMap (deploymentRow fleet action)).foldl
      (fun p row => step p row.node row.action) p := by
  rw [foldl_filterMap]
  congr 1
  funext p dep
  unfold deploymentRow
  cases fleet.node? dep.nodeId with
  | none => rfl
  | some node => cases action dep <;> rfl

theorem projectActions_eq : projectActions fleet blueprint (computeDecision fleet blueprint) =
    ((decidedRows fleet blueprint ++ lastRows fleet blueprint).foldl pushRow
      (guardRows fleet blueprint)).out := by
  unfold decidedRows lastRows
  simp only [foldl_append, foldl_map, foldl_filter]
  rw [show pushRow = fun p row => p.pushUnseen row.node row.action from rfl, ← foldl_deploymentRow]
  rfl

theorem projectPrecedence_eq (p : Projection) : projectPrecedence fleet blueprint p =
    (guards fleet blueprint).foldl (fun p row => p.push row.node row.action) p :=
  foldl_deploymentRow _ _ _

theorem out_foldl_push (rows : List RawAction) (p : Projection) :
    (rows.foldl (fun p row => p.push row.node row.action) p).out = p.out ++ rows ∧
      ∀ n, n ∈ (rows.foldl (fun p row => p.push row.node row.action) p).seen ↔
        n ∈ p.seen ∨ ∃ row ∈ rows, row.node.id = n := by
  induction rows generalizing p with
  | nil => simp
  | cons row rows ih =>
    obtain ⟨hout, hseen⟩ := ih (p.push row.node row.action)
    rw [foldl_cons]
    refine ⟨?_, fun n => ?_⟩
    · rw [hout]
      exact append_assoc p.out [row] rows
    · rw [hseen]
      simp [push, or_assoc, or_left_comm, eq_comm]

theorem mem_listDeployments {dep : BlueprintDeployment} :
    dep ∈ fleet.listDeployments ↔ fleet.getDeployment dep.nodeId = some dep := by
  unfold Fleet.listDeployments Fleet.getDeployment
  rw [mem_insertionSort, Table.find?_eq_some_iff]
  simp

/-- The row of a deployment is about its node. -/
theorem mem_deploymentRows {action : BlueprintDeployment → Option PreviewAction} :
    row ∈ fleet.listDeployments.filterMap (deploymentRow fleet action) ↔
      ∃ dep, fleet.getDeployment row.node.id = some dep ∧ action dep = some row.action ∧
        fleet.node? row.node.id = some row.node := by
  simp only [mem_filterMap, mem_listDeployments, deploymentRow, Option.bind_eq_some_iff,
    Option.map_eq_some_iff]
  constructor
  · rintro ⟨dep, hdep, node, hnode, a, haction, rfl⟩
    rw [← id_of_node? hnode] at hdep hnode
    exact ⟨dep, hdep, haction, hnode⟩
  · rintro ⟨dep, hdep, haction, hnode⟩
    have hid : dep.nodeId = row.node.id := Table.key_of_find? hdep
    rw [← hid] at hdep hnode
    exact ⟨dep, hdep, row.node, hnode, row.action, haction, rfl⟩

theorem nodup_guards : ((guards fleet blueprint).map fun row => row.node.id).Nodup := by
  have hsub : ((guards fleet blueprint).map fun row => row.node.id).Sublist
      (fleet.listDeployments.map BlueprintDeployment.nodeId) := by
    unfold guards
    generalize fleet.listDeployments = deps
    induction deps with
    | nil => exact .refl _
    | cons dep deps ih =>
      rw [filterMap_cons]
      split
      · exact ih.cons _
      · rename_i row hrow
        obtain ⟨node, hnode, hmap⟩ := Option.bind_eq_some_iff.mp hrow
        obtain ⟨a, _, rfl⟩ := Option.map_eq_some_iff.mp hmap
        rw [map_cons, map_cons, id_of_node? hnode]
        exact ih.cons_cons _
  exact hsub.nodup ((((perm_insertionSort _ _).map _).nodup_iff).mpr fleet.deployments.nodup)

/-- What comes before the decision. -/
theorem guardRows_spec :
    ((guardRows fleet blueprint).out.map fun row => row.node.id).Nodup ∧
    (∀ n, n ∈ (guardRows fleet blueprint).seen ↔
      n ∈ severedNodes fleet blueprint ∨ ∃ row ∈ guards fleet blueprint, row.node.id = n) ∧
    ∀ row ∈ (guardRows fleet blueprint).out, row ∈ guards fleet blueprint ∨
      row.action = .skipWithdrawn ∧ row.node.id ∈ severedNodes fleet blueprint := by
  obtain ⟨hout, hseen⟩ := out_foldl_push (guards fleet blueprint) ⟨[], severedNodes fleet blueprint⟩
  refine foldlRecOn (motive := fun p : Projection => (p.out.map fun row => row.node.id).Nodup ∧
    (∀ n, n ∈ p.seen ↔ n ∈ severedNodes fleet blueprint ∨
      ∃ row ∈ guards fleet blueprint, row.node.id = n) ∧
    ∀ row ∈ p.out, row ∈ guards fleet blueprint ∨
      row.action = .skipWithdrawn ∧ row.node.id ∈ severedNodes fleet blueprint)
    _ _ ?_ fun p hp nodeId hsevered => ?_
  · rw [projectPrecedence_eq, hout, nil_append]
    exact ⟨nodup_guards, hseen, fun row hrow => .inl hrow⟩
  · split
    · exact hp
    · rename_i hskip
      rw [Bool.or_eq_true, not_or, Bool.not_eq_true _, any_eq_true] at hskip
      split
      · exact hp
      · rename_i node hnode
        have hid := id_of_node? hnode
        refine ⟨nodup_push hp.1 fun row hrow hsame => ?_, fun n => ?_, fun row hrow => ?_⟩
        · exact hskip.2 ⟨row, hrow, decide_eq_true (hsame.trans hid)⟩
        · rw [← hp.2.1 n]
          refine mem_cons.trans (or_iff_right_of_imp ?_)
          rintro rfl
          exact (hp.2.1 _).mpr (.inl (hid ▸ hsevered))
        · rcases mem_append.mp hrow with hold | hlast
          · exact hp.2.2 row hold
          · rw [mem_singleton.mp hlast]
            exact .inr ⟨rfl, hid ▸ hsevered⟩

theorem not_severed_of_unseen {n : Int} (h : n ∉ (guardRows fleet blueprint).seen) :
    n ∉ severedNodes fleet blueprint :=
  fun hmem => h ((guardRows_spec.2.1 n).mpr (.inl hmem))

/-- Where a row of a plan comes from. -/
theorem row_cases (hrow : row ∈ projectActions fleet blueprint (computeDecision fleet blueprint)) :
    row ∈ guards fleet blueprint ∨
    row.action = .skipWithdrawn ∧ row.node.id ∈ severedNodes fleet blueprint ∨
    row.node.id ∉ (guardRows fleet blueprint).seen ∧ (row ∈ decidedRows fleet blueprint ∨
      (∀ other ∈ decidedRows fleet blueprint, other.node.id ≠ row.node.id) ∧
        row ∈ lastRows fleet blueprint) := by
  rw [projectActions_eq, mem_foldl_pushRow, find?_append] at hrow
  rcases hrow with hguard | ⟨hseen, hfind⟩
  · rcases guardRows_spec.2.2 row hguard with hold | hskip
    · exact .inl hold
    · exact .inr (.inl hskip)
  · refine .inr (.inr ⟨hseen, ?_⟩)
    cases hdecided : (decidedRows fleet blueprint).find? fun r => r.node.id = row.node.id with
    | some first =>
      rw [hdecided] at hfind
      cases hfind
      exact .inl (mem_of_find?_eq_some hdecided)
    | none =>
      rw [hdecided] at hfind
      refine .inr ⟨fun other hother hid => ?_, mem_of_find?_eq_some hfind⟩
      exact find?_eq_none.mp hdecided other hother (decide_eq_true hid)

end Passes

def isCheck (action : PreviewAction) : Bool := action = .checkObserve || action = .checkEnforce

/-- A row at the current revision whose drift is looked at. -/
def Checkable (blueprint : Blueprint) (dep : BlueprintDeployment) : Prop :=
  (dep.status = .active ∨ dep.status = .drifted ∨ dep.status = .repairHeld) ∧
    dep.appliedRevision = some blueprint.revision

/-- A deployment in flight, or under a taken name. -/
def InFlight (dep : BlueprintDeployment) : Prop :=
  dep.status = .deploying ∨ dep.status = .correcting ∨ dep.status = .withdrawing ∨
    dep.status = .nameConflict

section Checks

variable {fleet : Fleet} {blueprint : Blueprint} {n : Int}
variable {dep : BlueprintDeployment} {node : Node} {row : RawAction}

theorem desires_iff : desires fleet blueprint n = true ↔
      ∃ node ∈ listDesiredNodes fleet blueprint, node.id = n := by
  simp [desires, any_eq_true]

theorem mem_desired {slot : DecisionSlot}
    (hmem : node ∈ (listDesiredNodes fleet blueprint).filter fun n =>
      desiredSlot fleet blueprint n = some slot) :
    desires fleet blueprint node.id = true ∧ desiredSlot fleet blueprint node = some slot := by
  obtain ⟨hnode, hslot⟩ := mem_filter.mp hmem
  exact ⟨desires_iff.mpr ⟨node, hnode, rfl⟩, by simpa using hslot⟩

theorem mem_leaving {slot : DecisionSlot} (hmem : node ∈ (fleet.listDeployments.filter fun d =>
      !desires fleet blueprint d.nodeId && leavingSlot blueprint d = some slot).filterMap fun d =>
        fleet.node? d.nodeId) : desires fleet blueprint node.id = false := by
  obtain ⟨dep, hdep, hnode⟩ := mem_filterMap.mp hmem
  have hleaves := (mem_filter.mp hdep).2
  rw [Bool.and_eq_true] at hleaves
  rw [id_of_node? hnode]
  simpa using hleaves.1

/-- A row of the decision, by what put its node there. -/
inductive Decided (fleet : Fleet) (blueprint : Blueprint) : RawAction → Prop
  | deploy {node : Node} (hdesired : desires fleet blueprint node.id = true)
    (hslot : desiredSlot fleet blueprint node = some .deploy) :
    Decided fleet blueprint
      ⟨node, if (fleet.getDeployment node.id).isNone then .create else .update⟩
  | checks {node : Node} (hdesired : desires fleet blueprint node.id = true)
    (hslot : desiredSlot fleet blueprint node = some .check) :
    Decided fleet blueprint ⟨node, driftCheckAction blueprint.driftMode⟩
  | reviews {node : Node} (hdesired : desires fleet blueprint node.id = true)
    (hslot : desiredSlot fleet blueprint node = some .stateReview) :
    Decided fleet blueprint ⟨node, .awaitStateReview⟩
  | leaves {node : Node} {action : PreviewAction}
    (hdesired : desires fleet blueprint node.id = false)
    (hnode : fleet.node? node.id = some node)
    (haction : action = .remove ∧ needsReview blueprint = false ∨ action = .awaitEvictConfirm) :
    Decided fleet blueprint ⟨node, action⟩

theorem decided_of_mem (hrow : row ∈ decidedRows fleet blueprint) :
    Decided fleet blueprint row := by
  have hleaving : ∀ {node slot}, node ∈ (fleet.listDeployments.filter fun d =>
      !desires fleet blueprint d.nodeId && leavingSlot blueprint d = some slot).filterMap (fun d =>
        fleet.node? d.nodeId) → fleet.node? node.id = some node ∧
      (slot = .withdraw → needsReview blueprint = false) := by
    intro node slot hmem
    obtain ⟨dep, hdep, hnode⟩ := mem_filterMap.mp hmem
    have hslot := (mem_filter.mp hdep).2
    rw [Bool.and_eq_true, decide_eq_true_eq] at hslot
    refine ⟨id_of_node? hnode ▸ hnode, fun hwithdraw => ?_⟩
    have hleaves := hslot.2
    unfold leavingSlot at hleaves
    grind
  simp only [decidedRows, mem_append, mem_map] at hrow
  rcases hrow with (((⟨node, hnode, rfl⟩ | ⟨node, hnode, rfl⟩) | ⟨node, hnode, rfl⟩) |
    ⟨node, hnode, rfl⟩) | ⟨node, hnode, rfl⟩
  · exact .deploy (mem_desired hnode).1 (mem_desired hnode).2
  · exact .leaves (mem_leaving hnode) (hleaving hnode).1 (.inl ⟨rfl, (hleaving hnode).2 rfl⟩)
  · exact .checks (mem_desired hnode).1 (mem_desired hnode).2
  · exact .reviews (mem_desired hnode).1 (mem_desired hnode).2
  · exact .leaves (mem_leaving hnode) (hleaving hnode).1 (.inr rfl)

/-- A row that comes after the decision's. -/
theorem lastRow_cases (hrow : row ∈ lastRows fleet blueprint) :
    row.action = .skipCordoned ∧ fleet.getDeployment row.node.id = none ∨
    ∃ dep, fleet.getDeployment row.node.id = some dep ∧
      fallbackAction blueprint dep (desires fleet blueprint row.node.id) = some row.action ∧
      fleet.node? row.node.id = some row.node := by
  rcases mem_append.mp hrow with hcordoned | hfallback
  · obtain ⟨node, hnode, rfl⟩ := mem_map.mp hcordoned
    have hskipped := (mem_filter.mp hnode).2
    simp only [Bool.and_eq_true, Option.isNone_iff_eq_none] at hskipped
    exact .inl ⟨rfl, hskipped.1.1⟩
  · obtain ⟨dep, hdep, haction, hnode⟩ := mem_deploymentRows.mp hfallback
    rw [Table.key_of_find? hdep] at haction
    exact .inr ⟨dep, hdep, haction, hnode⟩

theorem placementSlot_ne_check : placementSlot blueprint ≠ .check := by
  unfold placementSlot
  split <;> decide

/-- The decision checks a desired node with the current revision on it. -/
theorem checkable_of_slot (hslot : desiredSlot fleet blueprint node = some .check) :
    ∃ dep, fleet.getDeployment node.id = some dep ∧ Checkable blueprint dep := by
  have hplacement := @placementSlot_ne_check blueprint
  unfold desiredSlot at hslot
  cases hdep : fleet.getDeployment node.id with
  | none => grind
  | some dep =>
    refine ⟨dep, rfl, ?_⟩
    unfold Checkable
    grind

section

variable (hdep : fleet.getDeployment node.id = some dep)
include hdep

/-- A node with the current revision on it is checked. -/
theorem slot_of_checkable (hcheckable : Checkable blueprint dep) :
    desiredSlot fleet blueprint node = some .check := by
  obtain ⟨hstat, hcur⟩ := hcheckable
  unfold desiredSlot
  rw [hdep]
  rcases hstat with hstat | hstat | hstat <;> simp [hstat, hcur]

/-- The decision says nothing of a desired node in flight, and where a row is withdrawn at the
current revision. -/
theorem desiredSlot_none (h : InFlight dep ∨
      dep.status = .withdrawn ∧ dep.appliedRevision = some blueprint.revision) :
    desiredSlot fleet blueprint node = none := by
  unfold desiredSlot
  unfold InFlight at h
  grind

/-- A desired row at another revision that is neither in flight nor under a guard is decided,
unless its target is severed. -/
theorem decided_of_stale (hdesired : desires fleet blueprint node.id = true)
    (haction : fallbackAction blueprint dep true = some action)
    (hwaits : action ≠ .awaitStateReview)
    (hstale : dep.appliedRevision ≠ some blueprint.revision)
    (hnot : node.id ∉ severedNodes fleet blueprint) :
    ∃ other ∈ decidedRows fleet blueprint, other.node.id = node.id := by
  obtain ⟨other, hother, hid⟩ := desires_iff.mp hdesired
  have hslot : desiredSlot fleet blueprint other = some (placementSlot blueprint) := by
    unfold desiredSlot
    unfold fallbackAction at haction
    cases hstat : dep.status <;> simp_all
  unfold placementSlot at hslot
  cases hreview : needsReview blueprint with
  | true =>
    refine ⟨⟨other, .awaitStateReview⟩, ?_, hid⟩
    have hmem : other ∈ (computeDecision fleet blueprint).stateReview :=
      mem_filter.mpr ⟨hother, by simp [hslot, hreview]⟩
    simp [decidedRows, hmem]
  | false =>
    refine ⟨⟨other, if (fleet.getDeployment other.id).isNone then .create else .update⟩, ?_, hid⟩
    have hmem : other ∈ (computeDecision fleet blueprint).deploy :=
      mem_filter.mpr ⟨hother, by simp [hslot, hreview]⟩
    simp [decidedRows, hmem]

end

theorem isCheck_driftCheckAction (mode : DriftMode) : isCheck (driftCheckAction mode) = true := by
  cases mode <;> rfl

theorem precedenceAction_not_check {desired : Bool}
    (h : precedenceAction dep desired = some action) : isCheck action = false := by
  unfold precedenceAction at h
  grind [isCheck]

/-- What the status of a desired row gives is a check exactly in the three states of a drift. -/
theorem fallbackAction_check {desired : Bool}
    (h : fallbackAction blueprint dep desired = some action) (hcheck : isCheck action = true) :
    desired = true ∧ (dep.status = .active ∨ dep.status = .drifted ∨ dep.status = .repairHeld) := by
  unfold fallbackAction at h
  grind [isCheck]

/-- A node the plan checks is desired and has the current revision on it. -/
theorem checkable_of_row (hrow : row ∈ projectActions fleet blueprint
      (computeDecision fleet blueprint)) (hcheck : isCheck row.action = true) :
    desires fleet blueprint row.node.id = true ∧
      ∃ dep, fleet.getDeployment row.node.id = some dep ∧ Checkable blueprint dep := by
  rcases row_cases hrow with hguard | ⟨hskip, _⟩ | ⟨hunseen, hdecided | ⟨hundecided, hlast⟩⟩
  · obtain ⟨_, _, haction, _⟩ := mem_deploymentRows.mp hguard
    rw [precedenceAction_not_check haction] at hcheck
    cases hcheck
  · rw [hskip] at hcheck
    cases hcheck
  · cases decided_of_mem hdecided with
    | checks hdesired hslot => exact ⟨hdesired, checkable_of_slot hslot⟩
    | deploy => split at hcheck <;> cases hcheck
    | reviews => cases hcheck
    | leaves _ _ haction => rcases haction with ⟨rfl, _⟩ | rfl <;> cases hcheck
  · rcases lastRow_cases hlast with ⟨hskip, _⟩ | ⟨dep, hdep, haction, _⟩
    · rw [hskip] at hcheck
      cases hcheck
    · obtain ⟨hdesired, hstat⟩ := fallbackAction_check haction hcheck
      refine ⟨hdesired, dep, hdep, hstat, ?_⟩
      by_contra hstale
      rw [hdesired] at haction
      obtain ⟨other, hother, hid⟩ := decided_of_stale hdep hdesired haction
        (by rintro hwaits; rw [hwaits] at hcheck; cases hcheck) hstale
        (not_severed_of_unseen hunseen)
      exact hundecided other hother hid

/-- A desired row that is checked, or parked under a taken name. -/
def Settled (blueprint : Blueprint) (dep : BlueprintDeployment) : Prop :=
  Checkable blueprint dep ∨ dep.status = .nameConflict

/-- Nothing but a check is done to a settled row. -/
theorem check_of_row (hdesired : desires fleet blueprint row.node.id = true)
    (hdep : fleet.getDeployment row.node.id = some dep) (hsett : Settled blueprint dep)
    (hrow : row ∈ projectActions fleet blueprint (computeDecision fleet blueprint))
    (hexecutor : isExecutorAction row.action = true) : isCheck row.action = true := by
  have hslots : ∀ slot, slot ≠ .check → desiredSlot fleet blueprint row.node ≠ some slot := by
    intro slot hslot hdecided
    rcases hsett with hcheckable | hconflict
    · rw [slot_of_checkable hdep hcheckable] at hdecided
      exact hslot (Option.some.inj hdecided).symm
    · rw [desiredSlot_none hdep (.inl (.inr (.inr (.inr hconflict))))] at hdecided
      cases hdecided
  have hstat : (dep.status = .active ∨ dep.status = .drifted ∨ dep.status = .repairHeld) ∨
      dep.status = .nameConflict := hsett.imp_left And.left
  rcases row_cases hrow with hguard | ⟨hskip, _⟩ | ⟨_, hdecided | ⟨_, hlast⟩⟩
  · obtain ⟨other, hother, haction, _⟩ := mem_deploymentRows.mp hguard
    cases Option.some.inj (hdep.symm.trans hother)
    unfold precedenceAction at haction
    grind [isExecutorAction, informational]
  · rw [hskip] at hexecutor
    cases hexecutor
  · cases decided_of_mem hdecided with
    | checks => exact isCheck_driftCheckAction _
    | deploy _ hslot => exact absurd hslot (hslots .deploy (by decide))
    | reviews _ hslot => exact absurd hslot (hslots .stateReview (by decide))
    | leaves hleaves =>
      rw [hdesired] at hleaves
      cases hleaves
  · rcases lastRow_cases hlast with ⟨hskip, _⟩ | ⟨other, hother, haction, _⟩
    · rw [hskip] at hexecutor
      cases hexecutor
    · cases Option.some.inj (hdep.symm.trans hother)
      have hmode := isCheck_driftCheckAction blueprint.driftMode
      unfold fallbackAction at haction
      grind

end Checks

section Plan

variable {fleet : Fleet} {blueprint : Blueprint} {ref : ConfirmableActionRef}

section

variable (hmem : ref ∈ executorActions fleet blueprint)
include hmem

/-- An action of the plan is that of a row, but for a placement that is blocked. -/
theorem row_of_plan : ∃ row ∈ projectActions fleet blueprint (computeDecision fleet blueprint),
      row.node.id = ref.nodeId ∧ row.action = ref.action := by
  obtain ⟨change, hchange, rfl⟩ := mem_map.mp hmem
  obtain ⟨hlisted, hexecutor⟩ := mem_filter.mp hchange
  obtain ⟨row, hrow, rfl⟩ := mem_map.mp hlisted
  refine ⟨row, hrow, ?_⟩
  split at hexecutor
  · cases hexecutor
  · rename_i hopen
    rw [if_neg hopen]
    exact ⟨rfl, rfl⟩

theorem checkable_of_plan (hcheck : isCheck ref.action = true) :
    desires fleet blueprint ref.nodeId = true ∧
      ∃ dep, fleet.getDeployment ref.nodeId = some dep ∧ Checkable blueprint dep := by
  obtain ⟨row, hrow, hnode, haction⟩ := row_of_plan hmem
  have h := checkable_of_row hrow (by rw [haction, hcheck])
  rw [hnode] at h
  exact h

theorem checked_of_settled (hdesired : desires fleet blueprint ref.nodeId = true)
    {dep : BlueprintDeployment} (hdep : fleet.getDeployment ref.nodeId = some dep)
    (hsett : Settled blueprint dep) : isCheck ref.action = true := by
  obtain ⟨row, hrow, hnode, haction⟩ := row_of_plan hmem
  have hexecutor := isExecutor_of_plan hmem
  rw [← haction] at hexecutor ⊢
  rw [← hnode] at hdesired hdep
  exact check_of_row hdesired hdep hsett hrow hexecutor

end

end Plan

end Sencho.Blueprints
