import Sencho.Blueprints.Projections

/-!
# Plans that leave stateful workloads alone

A node gets one row of the plan.  What is in flight, under a guard or severed has its row before
the decision's, and no row comes after it.  The status of a deployment is read last, and a
withdrawn one that is desired again is placed whatever the workload is.
-/

namespace Sencho.Blueprints

open Verified CodeUnits List

/-- What automatic placement may do. -/
def automatic : List PreviewAction := [.create, .update, .remove, .checkObserve, .checkEnforce]

/-- A plan decides each node once, leaves alone what is in flight and what is severed, and
neither places nor removes a workload that needs review. -/
structure SafePlan (fleet : Fleet) (blueprint : Blueprint) (rows : List RawAction) : Prop where
  once : (rows.map fun row => row.node.id).Nodup
  inFlight : ∀ row ∈ rows, ∀ dep, fleet.getDeployment row.node.id = some dep → InFlight dep →
    isExecutorAction row.action = false
  severed : ∀ row ∈ rows, row.node.id ∈ severedNodes fleet blueprint → row.action ∉ automatic
  reviewed : needsReview blueprint = true → ∀ row ∈ rows, row.action ≠ .create ∧
    row.action ≠ .remove ∧ (row.action = .update → ∃ dep,
      fleet.getDeployment row.node.id = some dep ∧
      dep.appliedRevision = some blueprint.revision ∧
      (dep.status = .failed ∨ dep.status = .pending))

section

variable {fleet : Fleet} {blueprint : Blueprint} {node : Node} {action : PreviewAction}
variable {dep : BlueprintDeployment} {row : RawAction}

theorem precedenceAction_guards {desired : Bool}
    (h : precedenceAction dep desired = some action) : action ∉ automatic ∧
      (InFlight dep → isExecutorAction action = false) ∧ dep.status ≠ .withdrawn := by
  unfold precedenceAction at h
  unfold InFlight
  grind [automatic, isExecutorAction, informational]

/-- A node in flight is seen before the decision. -/
theorem inFlight_seen (hdep : fleet.getDeployment row.node.id = some dep) (hfl : InFlight dep)
    (hnode : fleet.node? row.node.id = some row.node) :
    row.node.id ∈ (guardRows fleet blueprint).seen := by
  have haction : ∃ action, precedenceAction dep (desires fleet blueprint dep.nodeId) =
      some action := by
    unfold precedenceAction
    rcases hfl with h | h | h | h <;> rw [h] <;> exact ⟨_, rfl⟩
  obtain ⟨action, haction⟩ := haction
  refine (guardRows_spec.2.1 _).mpr (.inr ⟨⟨row.node, action⟩, ?_, rfl⟩)
  exact mem_deploymentRows.mpr ⟨dep, hdep, haction, hnode⟩

theorem mem_nodes_of_desired (h : node ∈ listDesiredNodes fleet blueprint) :
    node ∈ fleet.nodes := by
  unfold listDesiredNodes at h
  split at h
  · exact mem_of_find?_eq_some (Option.mem_toList.mp h)
  · unfold matchSelector at h
    split at h
    · exact (mem_filter.mp h).1
    · dsimp only at h
      split at h
      · cases h
      · exact (mem_filter.mp h).1

theorem plan_once : ((projectActions fleet blueprint (computeDecision fleet blueprint)).map
    fun row => row.node.id).Nodup := by
  rw [projectActions_eq]
  refine nodup_foldl_pushRow guardRows_spec.1 fun row hrow => (guardRows_spec.2.1 _).mpr ?_
  exact (guardRows_spec.2.2 row hrow).symm.imp And.right fun hguard => ⟨row, hguard, rfl⟩

theorem plan_inFlight (hrow : row ∈ projectActions fleet blueprint
      (computeDecision fleet blueprint)) (hdep : fleet.getDeployment row.node.id = some dep)
    (hfl : InFlight dep) : isExecutorAction row.action = false := by
  rcases row_cases hrow with hguard | ⟨hskip, _⟩ | ⟨hunseen, hdecided | ⟨_, hlast⟩⟩
  · obtain ⟨other, hother, haction, _⟩ := mem_deploymentRows.mp hguard
    cases Option.some.inj (hdep.symm.trans hother)
    exact (precedenceAction_guards haction).2.1 hfl
  · rw [hskip]
    rfl
  · cases decided_of_mem hdecided with
    | deploy _ hslot | checks _ hslot | reviews _ hslot =>
      rw [desiredSlot_none hdep (.inl hfl)] at hslot
      cases hslot
    | leaves _ hnode => exact absurd (inFlight_seen hdep hfl hnode) hunseen
  · rcases lastRow_cases hlast with ⟨hskip, _⟩ | ⟨_, _, _, hnode⟩
    · rw [hskip]
      rfl
    · exact absurd (inFlight_seen hdep hfl hnode) hunseen

theorem plan_severed (hrow : row ∈ projectActions fleet blueprint
      (computeDecision fleet blueprint)) (hsevered : row.node.id ∈ severedNodes fleet blueprint) :
    row.action ∉ automatic := by
  rcases row_cases hrow with hguard | ⟨hskip, _⟩ | ⟨hunseen, _⟩
  · obtain ⟨_, _, haction, _⟩ := mem_deploymentRows.mp hguard
    exact (precedenceAction_guards haction).1
  · rw [hskip]
    decide
  · exact absurd hsevered (not_severed_of_unseen hunseen)

/-- No desired node that is not severed has a withdrawn row at the current revision. -/
def NoneWithdrawn (fleet : Fleet) (blueprint : Blueprint) : Prop :=
  ∀ node ∈ listDesiredNodes fleet blueprint, node.id ∉ severedNodes fleet blueprint →
    ∀ dep, fleet.getDeployment node.id = some dep → dep.status = .withdrawn →
      dep.appliedRevision ≠ some blueprint.revision

theorem plan_reviewed (hnone : NoneWithdrawn fleet blueprint)
    (hreview : needsReview blueprint = true)
    (hrow : row ∈ projectActions fleet blueprint (computeDecision fleet blueprint)) :
    row.action ≠ .create ∧ row.action ≠ .remove ∧ (row.action = .update → ∃ dep,
      fleet.getDeployment row.node.id = some dep ∧
      dep.appliedRevision = some blueprint.revision ∧
      (dep.status = .failed ∨ dep.status = .pending)) := by
  have hquiet : row.action ∉ automatic → row.action ≠ .create ∧ row.action ≠ .remove ∧
      row.action ≠ .update := by
    simp only [automatic, mem_cons, not_or]
    exact fun h => ⟨h.1, h.2.2.1, h.2.1⟩
  rcases row_cases hrow with hguard | ⟨hskip, _⟩ | ⟨hunseen, hdecided | ⟨hundecided, hlast⟩⟩
  · obtain ⟨_, _, haction, _⟩ := mem_deploymentRows.mp hguard
    exact (hquiet (precedenceAction_guards haction).1).imp_right
      (And.imp_right fun hne h => absurd h hne)
  · rw [hskip]
    simp
  · cases decided_of_mem hdecided with
    | @deploy node hdesired hslot =>
      unfold desiredSlot placementSlot at hslot
      cases hdep : fleet.getDeployment node.id with
      | none => grind
      | some dep =>
        refine ⟨by simp, by simp, fun _ => ⟨dep, rfl, ?_⟩⟩
        grind
    | checks => cases blueprint.driftMode <;> simp [driftCheckAction]
    | reviews => simp
    | leaves _ _ haction =>
      rcases haction with ⟨_, hnot⟩ | rfl
      · rw [hreview] at hnot
        cases hnot
      · simp
  · rcases lastRow_cases hlast with ⟨hskip, _⟩ | ⟨dep, hdep, haction, _⟩
    · rw [hskip]
      simp
    · have hcur : desires fleet blueprint row.node.id = true →
          row.action ≠ .awaitStateReview → dep.appliedRevision = some blueprint.revision := by
        intro hdesired hwaits
        by_contra hstale
        rw [hdesired] at haction
        obtain ⟨other, hother, hid⟩ := decided_of_stale hdep hdesired haction hwaits hstale
          (not_severed_of_unseen hunseen)
        exact hundecided other hother hid
      have hnot : desires fleet blueprint row.node.id = true → row.action = .create →
          dep.status ≠ .withdrawn := by
        intro hdesired hcreate hstat
        have happlied := hcur hdesired (by simp [hcreate])
        obtain ⟨node, hnode, hid⟩ := desires_iff.mp hdesired
        rw [← hid] at hdep hunseen
        exact hnone node hnode (not_severed_of_unseen hunseen) dep hdep hstat happlied
      unfold fallbackAction driftCheckAction at haction
      grind

/-- **Safe plans.**  A plan decides each node once, leaves alone what is in flight and what is
severed, and neither places nor removes a workload that needs review, exactly if none of it is
withdrawn at the current revision from a node that is desired again. -/
theorem safePlan_iff (fleet : Fleet) (blueprint : Blueprint) :
    SafePlan fleet blueprint (projectActions fleet blueprint (computeDecision fleet blueprint)) ↔
      (needsReview blueprint = true → NoneWithdrawn fleet blueprint) := by
  constructor
  · intro hsafe hreview node hnode hsevered dep hdep hstat hcur
    have hdesired : desires fleet blueprint node.id = true := desires_iff.mpr ⟨node, hnode, rfl⟩
    have hunseen : node.id ∉ (guardRows fleet blueprint).seen := by
      intro hseen
      obtain ⟨row, hrow, hid⟩ := ((guardRows_spec.2.1 _).mp hseen).resolve_left hsevered
      obtain ⟨other, hother, haction, _⟩ := mem_deploymentRows.mp hrow
      rw [hid, hdep] at hother
      cases hother
      exact (precedenceAction_guards haction).2.2 hstat
    have hundecided : ∀ row ∈ decidedRows fleet blueprint, row.node.id ≠ node.id := by
      intro row hrow hid
      rw [← hid] at hdep hdesired
      cases decided_of_mem hrow with
      | deploy _ hslot | checks _ hslot | reviews _ hslot =>
        rw [desiredSlot_none hdep (.inr ⟨hstat, hcur⟩)] at hslot
        cases hslot
      | leaves hleaves =>
        rw [hdesired] at hleaves
        cases hleaves
    obtain ⟨known, hknown⟩ : ∃ known, fleet.node? node.id = some known :=
      Option.isSome_iff_exists.mp
        (find?_isSome.mpr ⟨node, mem_nodes_of_desired hnode, decide_eq_true rfl⟩)
    have hid : known.id = node.id := id_of_node? hknown
    have hlast : (⟨known, .create⟩ : RawAction) ∈ lastRows fleet blueprint := by
      refine mem_append_right _ (mem_deploymentRows.mpr ⟨dep, ?_, ?_, ?_⟩)
      · exact hid ▸ hdep
      · rw [Table.key_of_find? hdep, hdesired]
        unfold fallbackAction
        rw [hstat]
        rfl
      · exact hid ▸ hknown
    have hfound : ((decidedRows fleet blueprint ++ lastRows fleet blueprint).find?
        fun r => r.node.id = node.id).isSome :=
      find?_isSome.mpr ⟨_, mem_append_right _ hlast, decide_eq_true hid⟩
    obtain ⟨row, hrow⟩ := Option.isSome_iff_exists.mp hfound
    have hrowId := (mem_key_of_find? hrow).2
    have hout : row ∈ projectActions fleet blueprint (computeDecision fleet blueprint) := by
      rw [projectActions_eq, mem_foldl_pushRow, hrowId]
      exact .inr ⟨hunseen, hrow⟩
    refine (hsafe.reviewed hreview row hout).1 ?_
    rcases mem_append.mp (mem_of_find?_eq_some hrow) with hdecided | hlast
    · exact absurd hrowId (hundecided row hdecided)
    · rcases lastRow_cases hlast with ⟨_, hfree⟩ | ⟨other, hother, haction, _⟩
      · rw [hrowId, hdep] at hfree
        cases hfree
      · rw [hrowId, hdep] at hother
        cases hother
        rw [hrowId, hdesired] at haction
        unfold fallbackAction at haction
        rw [hstat] at haction
        exact (Option.some.inj haction).symm
  · intro hnone
    exact ⟨plan_once, fun row hrow dep hdep hfl => plan_inFlight hrow hdep hfl,
      fun row hrow hsevered => plan_severed hrow hsevered,
      fun hreview row hrow => plan_reviewed (hnone hreview) hreview hrow⟩

end

/-- A stateful blueprint for one node. -/
def statefulBlueprint : Blueprint where
  id := 1
  name := text "db"
  composeContent := text "services:\n"
  selector := .nodes [1]
  driftMode := .observe
  classification := .stateful
  enabled := true
  revision := 2
  pinnedNodeId := none
  approvalStatus := .pending
  approvedIntentFingerprint := none
  approvedBlastJson := none
  contentOrigin := .inline

/-- The node, from which the current revision was withdrawn. -/
def withdrawnFleet : Fleet where
  gitops := GitOps.Db.empty
  nodes := [⟨1, false⟩]
  labels := fun _ => []
  deployments := Table.empty.put ⟨1, .withdrawn, some 2, some 1, none, none⟩
  hasNameConflict := fun _ => some false

/-- The plan places the workload by itself. -/
theorem withdrawn_placed : ¬ SafePlan withdrawnFleet statefulBlueprint
    (projectActions withdrawnFleet statefulBlueprint
      (computeDecision withdrawnFleet statefulBlueprint)) := by
  intro hsafe
  have hrow : (⟨⟨1, false⟩, .create⟩ : RawAction) ∈ projectActions withdrawnFleet
      statefulBlueprint (computeDecision withdrawnFleet statefulBlueprint) := by decide
  exact (hsafe.reviewed rfl _ hrow).1 rfl

end Sencho.Blueprints
