import Sencho.GitOps.RowChecks

/-!
# Evidence that lasts

Generations, artifact sets and approvals are only ever added; of an approval,
only the confirmation beside the decision is rewritten.  What one call could
resolve, every later call can.
-/

namespace Sencho.GitOps

open Verified Option Tx Transition

variable {repoKey : String → Option String} {db db' db'' : Db} {tr : Transition}

/-- Two approval rows that record the same decision.  Beside the decision of a source
acceptance stand its confirmation and the placement it was confirmed against; every other row
is the same throughout. -/
structure SameDecision (a a' : Approval) : Prop where
  beside : ∃ ref confirmation,
    a' = { a with placementApprovalRef := ref, sourceConfirmation := confirmation }
  other : a.kind ≠ .sourceAcceptance → a' = a

theorem SameDecision.refl (a : Approval) : SameDecision a a := ⟨⟨_, _, rfl⟩, fun _ => rfl⟩

section

variable {a a' a'' : Approval} (h : SameDecision a a')
include h

namespace SameDecision

theorem kind : a'.kind = a.kind := by
  obtain ⟨⟨_, _, rfl⟩, -⟩ := h
  rfl

theorem authority : a'.authority = a.authority := by
  obtain ⟨⟨_, _, rfl⟩, -⟩ := h
  rfl

theorem applicationId : a'.applicationId = a.applicationId := by
  obtain ⟨⟨_, _, rfl⟩, -⟩ := h
  rfl

theorem generationId : a'.generationId = a.generationId := by
  obtain ⟨⟨_, _, rfl⟩, -⟩ := h
  rfl

theorem authoritative : a'.authoritative = a.authoritative := by
  obtain ⟨⟨_, _, rfl⟩, -⟩ := h
  rfl

theorem trans (h' : SameDecision a' a'') : SameDecision a a'' where
  beside := by
    obtain ⟨⟨_, _, rfl⟩, -⟩ := h
    obtain ⟨⟨_, _, rfl⟩, -⟩ := h'
    exact ⟨_, _, rfl⟩
  other hkind := (h'.other (h.kind ▸ hkind)).trans (h.other hkind)

end SameDecision

end

/-- The evidence of one database inside another. -/
structure Lasts (db db' : Db) : Prop extends Grows db db' where
  approvals : ∀ id a, db.getApproval id = some a →
    ∃ a', db'.getApproval id = some a' ∧ SameDecision a a'

theorem Lasts.refl (db : Db) : Lasts db db where
  generations _ _ h := h
  artifactSets _ _ h := h
  approvals _ a h := ⟨a, h, .refl a⟩

theorem Lasts.trans (h : Lasts db db') (h' : Lasts db' db'') : Lasts db db'' where
  generations id g hg := h'.generations id g (h.generations id g hg)
  artifactSets id a ha := h'.artifactSets id a (h.artifactSets id a ha)
  approvals id a ha := by
    obtain ⟨a', ha', hsame⟩ := h.approvals id a ha
    obtain ⟨a'', ha'', hsame'⟩ := h'.approvals id a' ha'
    exact ⟨a'', ha'', hsame.trans hsame'⟩

theorem Lasts.of_tables (hg : db'.generations = db.generations)
    (ha : db'.artifactSets = db.artifactSets) (hp : db'.approvals = db.approvals) :
    Lasts db db' := by
  refine ⟨Grows.of_tables hg ha, fun id a h => ⟨a, ?_, .refl a⟩⟩
  unfold Db.getApproval
  rw [hp]
  exact h

theorem resolveDecision_iff {id applicationId : String} {kind : ApprovalKind} {a : Approval} :
    db.resolveDecision id applicationId kind = some a ↔
      db.getApproval id = some a ∧ a.applicationId = applicationId ∧ a.kind = kind ∧
        a.authoritative = true ∧ (a.authority = .operator ∨ a.authority = .configuredPolicy) := by
  unfold Db.resolveDecision
  simp [and_assoc]

/-- What a resolved source acceptance says. -/
structure AcceptanceOf (db : Db) (id applicationId generationId : String) : Prop where
  decision : ∃ a, db.resolveDecision id applicationId .sourceAcceptance = some a ∧
    a.generationId = some generationId
  named : generationId ≠ ""
  owned : ∃ g, db.getGeneration generationId = some g ∧ g.applicationId = applicationId

theorem resolveSourceAcceptance_iff {id applicationId generationId : String} :
    (db.resolveSourceAcceptance id applicationId generationId).isSome = true ↔
      AcceptanceOf db id applicationId generationId := by
  constructor
  · intro h
    obtain ⟨a, ha⟩ := isSome_iff_exists.mp h
    obtain ⟨hdecision, hnames⟩ := filter_eq_some_iff.mp ha
    cases hg : a.generationId with
    | none =>
      rw [hg] at hnames
      cases hnames
    | some gid =>
      rw [hg] at hnames
      simp only [Bool.and_eq_true, decide_eq_true_eq, truthy, any_some] at hnames
      obtain ⟨⟨hnonempty, rfl⟩, howned⟩ := hnames
      obtain ⟨g, hfound, happ⟩ := (Option.any_eq_true _ _).mp howned
      exact ⟨⟨a, hdecision, hg⟩, hnonempty, g, hfound, of_decide_eq_true happ⟩
  · rintro ⟨⟨a, hdecision, hg⟩, hnonempty, g, hfound, happ⟩
    rw [isSome_iff_exists]
    refine ⟨a, filter_eq_some_iff.mpr ⟨hdecision, ?_⟩⟩
    rw [hg]
    simp [truthy, hnonempty, hfound, happ]

/-- An acceptance that resolves goes on resolving. -/
theorem Lasts.acceptanceOf (h : Lasts db db') {id applicationId generationId : String}
    (hof : AcceptanceOf db id applicationId generationId) :
    AcceptanceOf db' id applicationId generationId := by
  obtain ⟨⟨a, hdecision, hg⟩, hnonempty, g, hfound, happ⟩ := hof
  obtain ⟨hst, hid, hkind, hauth, hwho⟩ := resolveDecision_iff.mp hdecision
  obtain ⟨a', hst', hsame⟩ := h.approvals id a hst
  refine ⟨⟨a', resolveDecision_iff.mpr ⟨hst', ?_, ?_, ?_, ?_⟩, ?_⟩, hnonempty, g,
    h.generations _ g hfound, happ⟩
  · exact hsame.applicationId.trans hid
  · exact hsame.kind.trans hkind
  · exact hsame.authoritative.trans hauth
  · rw [hsame.authority]
    exact hwho
  · exact hsame.generationId.trans hg

theorem lasts_insertGeneration {row : Generation} : Tx.Keeps Lasts (insertGeneration row) := by
  refine fun db => ensures_insertRow.mpr fun t ht => ?_
  exact ⟨⟨fun _ _ hg => find?_insert ht hg, fun _ _ ha => ha⟩, fun _ a ha => ⟨a, ha, .refl a⟩⟩

theorem lasts_insertArtifactSet {row : ArtifactSet} : Tx.Keeps Lasts (insertArtifactSet row) := by
  unfold insertArtifactSet
  intro db
  simp only [ensures_bind, ensures_refuseIf, ensures_get, ensures_insertRow]
  intro _ _ _ t ht
  exact ⟨⟨fun _ _ hg => hg, fun _ _ ha => find?_insert ht ha⟩, fun _ a ha => ⟨a, ha, .refl a⟩⟩

theorem lasts_insertApproval {row : Approval} : Tx.Keeps Lasts (insertApproval row) := by
  unfold insertApproval
  intro db
  simp only [ensures_bind, ensures_refuseIf, ensures_insertRow]
  intro _ _ _ t ht
  exact ⟨⟨fun _ _ hg => hg, fun _ _ ha => ha⟩, fun _ a ha => ⟨a, find?_insert ht ha, .refl a⟩⟩

/-- A rewritten confirmation leaves the decision as it was. -/
theorem lasts_writeSourceConfirmation {id : String} {confirmation : Option SourceConfirmation} :
    Tx.Keeps Lasts (writeSourceConfirmation id confirmation) := by
  intro db
  refine ensures_modify.mpr ?_
  split
  · exact .refl db
  · refine ⟨⟨fun _ _ hg => hg, fun _ _ ha => ha⟩, fun gid a ha => ?_⟩
    unfold Db.getApproval at ha ⊢
    rw [Table.find?_update, ha, map_some]
    split
    · rename_i hrow
      exact ⟨_, rfl, ⟨_, _, rfl⟩,
        fun hkind => absurd (of_decide_eq_true (Bool.and_eq_true _ _ ▸ hrow).2) hkind⟩
    · exact ⟨a, rfl, .refl a⟩

theorem lasts_statements : Statements Lasts where
  refl := .refl
  trans := .trans
  same _ := .of_tables
  target _ _ := ensures_upsert.mpr fun _ => .of_tables rfl rfl rfl
  generation _ := lasts_insertGeneration
  artifactSet _ := lasts_insertArtifactSet
  decision _ _ := lasts_insertApproval
  confirmation _ _ := lasts_writeSourceConfirmation

/-- Every call keeps the evidence. -/
theorem lasts_step : Lasts db (step repoKey db tr) :=
  keeps_step lasts_statements fun _ _ => lasts_insertApproval

/-- The source acceptances of the second database that the first does not have are of
one application and on one authority. -/
def Accepted (by_ : Option (String × ApprovalAuthority)) (db db' : Db) : Prop :=
  ∀ id a', db'.getApproval id = some a' → a'.kind = .sourceAcceptance →
    (∃ a, db.getApproval id = some a ∧ SameDecision a a') ∨
      by_ = some (a'.applicationId, a'.authority)

variable {by_ : Option (String × ApprovalAuthority)}

theorem accepted_insertApproval {row : Approval}
    (h : row.kind = .sourceAcceptance → by_ = some (row.applicationId, row.authority)) :
    Tx.Keeps (Accepted by_) (insertApproval row) := by
  unfold insertApproval
  intro db
  simp only [ensures_bind, ensures_refuseIf, ensures_insertRow]
  intro _ _ _ t ht id a' ha' hkind
  obtain ⟨-, hfind⟩ := Table.insert?_eq_some ht
  unfold Db.getApproval at ha' ⊢
  rw [hfind] at ha'
  split at ha'
  · cases ha'
    exact .inr (h hkind)
  · exact .inl ⟨a', ha', .refl a'⟩

theorem accepted_statements : Statements (Accepted by_) where
  refl _ _ a' ha' _ := .inl ⟨a', ha', .refl a'⟩
  trans h h' id a'' ha'' hkind := by
    rcases h' id a'' ha'' hkind with ⟨a', ha', hsame'⟩ | hnew
    · rcases h id a' ha' (hsame'.kind.symm.trans hkind) with ⟨a, ha, hsame⟩ | hnew
      · exact .inl ⟨a, ha, hsame.trans hsame'⟩
      · exact .inr (by rw [hnew, hsame'.applicationId, hsame'.authority])
    · exact .inr hnew
  same _ _ _ hp id a' ha' _ := by
    unfold Db.getApproval at ha'
    rw [hp] at ha'
    exact .inl ⟨a', ha', .refl a'⟩
  target _ _ := ensures_upsert.mpr fun _ _ a' ha' _ => .inl ⟨a', ha', .refl a'⟩
  generation row db := ensures_insertRow.mpr fun _ _ _ a' ha' _ => .inl ⟨a', ha', .refl a'⟩
  artifactSet row db := by
    unfold insertArtifactSet
    simp only [ensures_bind, ensures_refuseIf, ensures_get, ensures_insertRow]
    intro _ _ _ t _ id a' ha' _
    exact .inl ⟨a', ha', .refl a'⟩
  decision row hkind := accepted_insertApproval fun h => absurd h hkind
  confirmation id c db := by
    refine ensures_modify.mpr ?_
    split
    · exact fun _ a' ha' _ => .inl ⟨a', ha', .refl a'⟩
    · intro id' a' ha' _
      unfold Db.getApproval at ha' ⊢
      rw [Table.find?_update] at ha'
      obtain ⟨a, ha, hrow⟩ := map_eq_some_iff.mp ha'
      refine .inl ⟨a, ha, ?_⟩
      split at hrow
      · rename_i hmatch
        subst hrow
        exact ⟨⟨_, _, rfl⟩,
          fun hkind => absurd (of_decide_eq_true (Bool.and_eq_true _ _ ▸ hmatch).2) hkind⟩
      · subst hrow
        exact .refl a

/-- A call records the acceptance it carries and no other. -/
theorem accepted_step : Accepted tr.acceptance db (step repoKey db tr) :=
  keeps_step accepted_statements fun _ hrow => accepted_insertApproval fun _ => hrow

theorem lasts_run (later : List Transition) : Lasts db (runTransitions repoKey db later) :=
  Runs.run_invariant (P := Lasts db) (fun _ _ h => h.trans lasts_step) (.refl db) later

/-- Whatever is called later, the evidence stays, and an acceptance that resolves goes on
resolving. -/
theorem acceptances_stand (db : Db) (later : List Transition) :
    Lasts db (runTransitions repoKey db later) ∧ ∀ id applicationId generationId,
      (db.resolveSourceAcceptance id applicationId generationId).isSome = true →
        ((runTransitions repoKey db later).resolveSourceAcceptance id applicationId
          generationId).isSome = true := by
  refine ⟨lasts_run later, fun id applicationId generationId hresolves => ?_⟩
  rw [resolveSourceAcceptance_iff] at hresolves ⊢
  exact (lasts_run later).acceptanceOf hresolves

/-- In every reachable database a target belongs to an application that is there, and a row that
was stored at any time before would be accepted again. -/
theorem stored_targets_stand (calls later : List Transition) :
    TargetsOwned (runTransitions repoKey Db.empty (calls ++ later)) ∧ ∀ key t,
      (runTransitions repoKey Db.empty calls).targets.find? key = some t →
        Tx.accepts (upsertTarget t) (runTransitions repoKey Db.empty (calls ++ later)) := by
  refine ⟨targetsOwned_run _, fun key t ht => ?_⟩
  have hlasts : Lasts (runTransitions repoKey Db.empty calls)
      (runTransitions repoKey Db.empty (calls ++ later)) := by
    unfold runTransitions
    rw [Runs.run_append]
    exact lasts_run later
  exact ⟨(), _, upsertTarget_of_passes (hlasts.toGrows.passes (rowsPass_run calls key t ht))⟩

end Sencho.GitOps
