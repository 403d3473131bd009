import Sencho.GitOps.KeptStatements

/-!
# Stored targets pass the store's checks

The store checks a target row when it is written and never again.  The tables
the checks read only grow, so a row that passed when it was written still
passes, and writing back an edit that changes none of the checked columns is
never refused.
-/

namespace Sencho.GitOps

open Verified Tx

variable {repoKey : String → Option String} {db db' : Db}

/-- Every stored target passes the checks of a target write. -/
def RowsPass (db : Db) : Prop :=
  ∀ key t, db.targets.find? key = some t → assertTargetInvariants db t = none

/-- The tables the checks read, one inside the other. -/
structure Grows (db db' : Db) : Prop where
  generations : ∀ id g, db.getGeneration id = some g → db'.getGeneration id = some g
  artifactSets : ∀ id a, db.getArtifactSet id = some a → db'.getArtifactSet id = some a

theorem Grows.of_tables (hg : db'.generations = db.generations)
    (ha : db'.artifactSets = db.artifactSets) : Grows db db' := by
  constructor
  · intro id g h
    unfold Db.getGeneration
    rw [hg]
    exact h
  · intro id a h
    unfold Db.getArtifactSet
    rw [ha]
    exact h

theorem any_mono {γ : Type} {o o' : Option γ} {p : γ → Bool}
    (h : ∀ x, o = some x → o' = some x) (hany : o.any p = true) : o'.any p = true := by
  cases o with
  | none => cases hany
  | some x =>
    rw [h x rfl]
    exact hany

theorem assertArtifactPointer_none_iff {artifactSetId generationId : Option String} :
    assertArtifactPointer db artifactSetId generationId = none ↔
      artifactPointerOk db artifactSetId generationId = true := by
  unfold assertArtifactPointer
  cases artifactPointerOk db artifactSetId generationId <;> cases truthy generationId <;> simp

/-- A check that fails is the answer. -/
theorem failing_none_iff {c : Bool} {check rest : Option String} (h : c = true → check ≠ none) :
    (if c then check else rest) = none ↔ c = false ∧ rest = none := by
  cases c with
  | false => simp
  | true => simp [h rfl]

/-- The checks read the row and the two tables, and nothing else. -/
theorem assertTargetInvariants_none_iff {row : Target} : assertTargetInvariants db row = none ↔
      lkgArtifactOk db row.lkg = true ∧
      (row.lkg.unavailableAt.isSome && row.lkg.generationId.isSome) = false ∧
      artifactPointerOk db row.expectedArtifactSetId row.desiredGenerationId = true ∧
      artifactPointerOk db row.latestArtifactSetId row.desiredGenerationId = true ∧
      ownedGenerationOk db row.applicationId row.desiredGenerationId = true ∧
      ownedGenerationOk db row.applicationId row.candidateGenerationId = true ∧
      lkgColumnsOk row.lkg = true := by
  have hptr : ∀ artifactSetId,
      (!artifactPointerOk db artifactSetId row.desiredGenerationId) = true →
      assertArtifactPointer db artifactSetId row.desiredGenerationId ≠ none := by
    intro artifactSetId hfails hnone
    rw [assertArtifactPointer_none_iff.mp hnone] at hfails
    cases hfails
  unfold assertTargetInvariants
  rw [failing_none_iff (fun _ => by simp), failing_none_iff (fun _ => by simp),
    failing_none_iff (hptr _), failing_none_iff (hptr _),
    failing_none_iff (fun _ => by simp), failing_none_iff (fun _ => by simp),
    failing_none_iff (fun _ => by simp)]
  simp only [Bool.not_eq_false', and_true]

namespace Grows

theorem lkgArtifactOk (h : Grows db db') {lkg : LastKnownGood}
    (hok : GitOps.lkgArtifactOk db lkg = true) : GitOps.lkgArtifactOk db' lkg = true := by
  unfold GitOps.lkgArtifactOk at hok ⊢
  split
  · rfl
  · rename_i a ha
    rw [ha] at hok
    exact any_mono (h.artifactSets a) hok

theorem artifactPointerOk (h : Grows db db') {artifactSetId generationId : Option String}
    (hok : GitOps.artifactPointerOk db artifactSetId generationId = true) :
    GitOps.artifactPointerOk db' artifactSetId generationId = true := by
  unfold GitOps.artifactPointerOk at hok ⊢
  split
  · rfl
  · rename_i a ha
    rw [ha] at hok
    split
    · rename_i hg
      rw [hg] at hok
      exact hok
    · rename_i g hg
      rw [hg] at hok
      exact any_mono (h.artifactSets a) hok

theorem ownedGenerationOk (h : Grows db db') {applicationId : String} {generationId : Option String}
    (hok : GitOps.ownedGenerationOk db applicationId generationId = true) :
    GitOps.ownedGenerationOk db' applicationId generationId = true := by
  unfold GitOps.ownedGenerationOk at hok ⊢
  split
  · rfl
  · rename_i g hg
    rw [hg] at hok
    exact any_mono (h.generations g) hok

/-- A row that passes goes on passing. -/
theorem passes (h : Grows db db') {row : Target} (hrow : assertTargetInvariants db row = none) :
    assertTargetInvariants db' row = none := by
  rw [assertTargetInvariants_none_iff] at hrow ⊢
  obtain ⟨hlkg, hgone, hexp, hlatest, hdesired, hcand, hcolumns⟩ := hrow
  exact ⟨h.lkgArtifactOk hlkg, hgone, h.artifactPointerOk hexp,
    h.artifactPointerOk hlatest, h.ownedGenerationOk hdesired,
    h.ownedGenerationOk hcand, hcolumns⟩

end Grows

theorem RowsPass.grow (hrows : RowsPass db) (htargets : db'.targets = db.targets)
    (hgrows : Grows db db') : RowsPass db' := by
  intro key t ht
  rw [htargets] at ht
  exact hgrows.passes (hrows key t ht)

theorem RowsPass.put (hrows : RowsPass db) {row : Target}
    (hrow : assertTargetInvariants db row = none) : RowsPass (db.putTarget row) := by
  have hsame : Grows db (db.putTarget row) := Grows.of_tables rfl rfl
  intro key t ht
  rw [Db.find?_putTarget] at ht
  split at ht
  · cases ht
    exact hsame.passes hrow
  · exact hsame.passes (hrows key t ht)

theorem upsertTarget_of_passes {row : Target} (h : assertTargetInvariants db row = none) :
    upsertTarget row db = .ok ((), db.putTarget row) := by
  refine (@Tx.bind_of_ok _ _ _ _ db _ _ _ db rfl).trans ?_
  rw [h]
  rfl

theorem find?_insert {ρ κ : Type} [DecidableEq κ] {key : ρ → κ} {t t' : Table ρ κ key}
    {row r : ρ} {k : κ} (h : t.insert? row = some t') (hr : t.find? k = some r) :
    t'.find? k = some r := by
  obtain ⟨hnone, hfind⟩ := Table.insert?_eq_some h
  rw [hfind]
  split
  · rename_i heq
    rw [heq, hnone] at hr
    cases hr
  · exact hr

/-- Stored targets that pass go on passing. -/
def StillPass (db db' : Db) : Prop := RowsPass db → RowsPass db'

theorem stillPass_insertApproval (row : Approval) : Keeps StillPass (insertApproval row) := by
  unfold insertApproval
  intro db
  simp only [ensures_bind, ensures_refuseIf, ensures_insertRow]
  exact fun _ _ _ _ _ h => h.grow rfl (Grows.of_tables rfl rfl)

theorem stillPass_statements : Statements StillPass where
  refl _ h := h
  trans h h' hrows := h' (h hrows)
  same ht hg ha _ h := h.grow ht (Grows.of_tables hg ha)
  target _ _ := ensures_upsert.mpr fun hrow h => h.put hrow
  generation _ _ := ensures_insertRow.mpr fun _ ht h =>
    h.grow rfl ⟨fun _ _ hg => find?_insert ht hg, fun _ _ ha => ha⟩
  artifactSet row db := by
    unfold insertArtifactSet
    simp only [ensures_bind, ensures_refuseIf, ensures_get, ensures_insertRow]
    exact fun _ _ _ _ ht h => h.grow rfl ⟨fun _ _ hg => hg, fun _ _ ha => find?_insert ht ha⟩
  decision row _ := stillPass_insertApproval row
  confirmation _ _ db := by
    refine ensures_modify.mpr fun h => ?_
    split
    · exact h
    · exact h.grow rfl (Grows.of_tables rfl rfl)

/-- Every call keeps every row passing. -/
theorem stillPass_perform (tr : Transition) : Keeps StillPass (tr.perform repoKey) :=
  keeps_perform stillPass_statements fun row _ => stillPass_insertApproval row

theorem rowsPass_step (h : RowsPass db) (tr : Transition) : RowsPass (step repoKey db tr) :=
  (stillPass_perform tr).commit stillPass_statements.toQuasi db h

theorem rowsPass_empty : RowsPass Db.empty := by
  intro key t ht
  cases ht

theorem rowsPass_run (calls : List Transition) : RowsPass (runTransitions repoKey Db.empty calls) :=
  Runs.run_invariant (P := RowsPass) (fun _ tr h => rowsPass_step h tr) rowsPass_empty calls

end Sencho.GitOps
