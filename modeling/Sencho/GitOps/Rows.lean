import Sencho.GitOps.Settlements
import Mathlib.Logic.Relation

/-!
# Target rows along a run

Where the status, the operation and the recovery slot of a target row can come
from.  A row that is there stays there, and one call does one of a few things to
those columns: leaves them, settles the row, interrupts it, or tears it down.
-/

namespace Sencho.GitOps

open Verified Tx Transition

variable {repoKey : String → Option String} {db : Db} {tr : Transition}

/-- Whether a restart finds work open on the row. -/
def Target.isOpen (t : Target) : Bool := t.active.stage.isSome || targetRestoreInFlight t

/-- The columns that say what is happening on a target. -/
def settledColumns : List TargetColumn := [.status, .active, .recovery]

/-- One row severed by the removal of its node. -/
def Tombstones (at_ : Int) (t t' : Target) : Prop :=
  (t.tombstone.markInFlightRestore at_).Stamps t'

/-- One failed rollback recorded on a row. -/
def Refuses (recoveryRef : String) (at_ : Int) (t t' : Target) : Prop :=
  ∃ failureClass, (t.settleRollback recoveryRef failureClass at_).Stamps t'

/-- What a call can do to a target row. -/
inductive RowMove (db : Db) (tr : Transition) (key : TargetKey) (t : Target) : Target → Prop where
  | kept {t'} (h : ∀ c, c ∈ settledColumns ∨ ¬ tr.edits key c → c.get t' = c.get t) :
      RowMove db tr key t t'
  | settled {app row hold t'} (hat : tr.settlesAt = some key)
      (happ : db.getApplication key.applicationId = some app)
      (hsettles : Settles db app t tr row hold) (hstamps : row.Stamps t') :
      RowMove db tr key t t'
  | nodeRemoved {nodeId envelope t'} (htr : tr = .tombstoneNodeTargets nodeId envelope)
      (h : Relation.ReflTransGen (Tombstones envelope.at_) t t') : RowMove db tr key t t'
  | torndown {app failureClass envelope t'}
      (htr : tr = .createFailed key.applicationId failureClass envelope)
      (happ : db.getApplication key.applicationId = some app)
      (hcreating : app.lifecycleStatus = .creating) (h : t.tombstone.Stamps t') :
      RowMove db tr key t t'
  | interrupted {envelope} (htr : tr = .interruptActiveOperations key.applicationId envelope ∨
        ∃ reason, tr = .sourceSuspended key.applicationId reason envelope)
      (hopen : t.isOpen = true) : RowMove db tr key t (t.interrupt envelope.at_)
  | refused {targets recoveryRef envelope t'}
      (htr : tr = .rollbackRefusalSettled key.applicationId targets recoveryRef envelope)
      (h : Relation.ReflTransGen (Refuses recoveryRef envelope.at_) t t') :
      RowMove db tr key t t'

theorem Target.interrupt_key (t : Target) (at_ : Int) : (t.interrupt at_).key = t.key := by
  rw [Target.interrupt_eq]
  rfl

variable {envelope : EventEnvelope}

/-- A restart interrupts every open row of its application. -/
theorem ensures_interrupted {id : String} :
    Tx.Ensures (interruptActiveOperations id envelope) db fun _ db' =>
      ∀ key, db'.targets.find? key = (db.targets.find? key).map fun t =>
        if t.applicationId = id ∧ t.isOpen then t.interrupt envelope.at_ else t := by
  have hloop : ∀ db₁ : Db, db₁.targets = db.targets →
      Tx.Ensures (((db₁.listTargets id).filter Target.isOpen).forM fun t =>
        upsertTarget (t.interrupt envelope.at_)) db₁ fun _ db' =>
      ∀ key, db'.targets.find? key = (db.targets.find? key).map fun t =>
        if t.applicationId = id ∧ t.isOpen then t.interrupt envelope.at_ else t := by
    intro db₁ htargets
    refine (ensures_forM_upsert (fun t => t.interrupt_key _) _
      (listed_unique fun t ht => (stored_of_listed t ht).1)).mono fun _ db' h => ?_
    have hlisted : ∀ {key t}, t ∈ (db₁.listTargets id).filter Target.isOpen → t.key = key →
        db.targets.find? key = some t ∧ t.applicationId = id ∧ t.isOpen = true := by
      intro key t hmem hkey
      obtain ⟨hmem, hopen⟩ := List.mem_filter.mp hmem
      obtain ⟨hfind, hid⟩ := mem_listTargets.mp hmem
      rw [hkey, htargets] at hfind
      exact ⟨hfind, hid, hopen⟩
    intro key
    cases ht : db.targets.find? key with
    | none =>
      rw [Option.map_none, h.others key ?_, htargets]
      · exact ht
      · intro t' ht' hkey'
        exact Option.some_ne_none t' ((hlisted ht' hkey').1.symm.trans ht)
    | some t =>
      rw [Option.map_some]
      have hkey : t.key = key := Table.key_of_find? ht
      by_cases hopen : t.applicationId = id ∧ t.isOpen = true
      · rw [if_pos hopen]
        have hmem : t ∈ (db₁.listTargets id).filter Target.isOpen := by
          refine List.mem_filter.mpr ⟨mem_listTargets.mpr ⟨?_, hopen.1⟩, hopen.2⟩
          rw [htargets, hkey]
          exact ht
        have hedited := h.edited t hmem
        rw [hkey] at hedited
        exact hedited
      · rw [if_neg hopen, h.others key ?_, htargets]
        · exact ht
        · intro t' ht' hkey'
          obtain ⟨hfind, hown⟩ := hlisted ht' hkey'
          rw [Option.some.inj (hfind.symm.trans ht)] at hown
          exact hopen hown
  unfold interruptActiveOperations interruptApplication
  rw [ensures_bind, ensures_requireApp]
  intro app _
  simp only [ensures_bind, ensures_ite, ensures_writeApplication, ensures_pure, ensures_get]
  exact ⟨fun _ => hloop _ rfl, fun _ => hloop _ rfl⟩

theorem row_interrupted {id : String} {key : TargetKey}
    {t t' : Target} (ht : db.targets.find? key = some t)
    (htr : tr = .interruptActiveOperations id envelope ∨
      ∃ reason, tr = .sourceSuspended id reason envelope)
    (ht' : t' = if t.applicationId = id ∧ t.isOpen then t.interrupt envelope.at_ else t) :
    RowMove db tr key t t' := by
  by_cases hopen : t.applicationId = id ∧ t.isOpen = true
  · rw [if_pos hopen] at ht'
    have hkey : t.key = key := Table.key_of_find? ht
    have hid : id = key.applicationId := hopen.1.symm.trans (congrArg TargetKey.applicationId hkey)
    subst ht' hid
    exact .interrupted htr hopen.2
  · rw [if_neg hopen] at ht'
    subst ht'
    exact .kept fun _ _ => rfl

/-- Every row that is there stays there and makes one move. -/
def RowsMove (db db' : Db) (tr : Transition) : Prop :=
  ∀ key t, db.targets.find? key = some t →
    ∃ t', db'.targets.find? key = some t' ∧ RowMove db tr key t t'

theorem RowsMove.of_targets {db' : Db} (h : db'.targets = db.targets) : RowsMove db db' tr := by
  intro key t ht
  rw [h]
  exact ⟨t, ht, .kept fun _ _ => rfl⟩

theorem rows_interruptActiveOperations {id : String} :
    Tx.Ensures (interruptActiveOperations id envelope) db fun _ db' =>
      RowsMove db db' (.interruptActiveOperations id envelope) := by
  refine ensures_interrupted.mono fun _ db' h key t ht => ?_
  rw [h key, ht]
  exact ⟨_, rfl, row_interrupted ht (.inl rfl) rfl⟩

theorem rows_sourceSuspended {id reason : String} :
    Tx.Ensures (sourceSuspended id reason envelope) db fun _ db' =>
      RowsMove db db' (.sourceSuspended id reason envelope) := by
  refine ensures_mutateApp.mpr fun app happ => ?_
  have hid : app.id = id := Table.key_of_find? happ
  unfold interruptForSuspension
  simp only [ensures_bind, ensures_refuseIf, ensures_ite, ensures_pure, ensures_requireApp]
  refine fun _ => ⟨fun _ => ?_, fun _ => RowsMove.of_targets rfl⟩
  refine ensures_interrupted.mono fun _ db' h _ _ key t ht => ?_
  rw [hid] at h
  refine ⟨_, ?_, row_interrupted ht (.inr ⟨reason, rfl⟩) rfl⟩
  show db'.targets.find? key = _
  rw [h key, ht]
  rfl

theorem rows_createFailed {id failureClass : String} :
    Tx.Ensures (createFailed id failureClass envelope) db fun _ db' =>
      RowsMove db db' (.createFailed id failureClass envelope) := by
  unfold createFailed
  rw [ensures_bind, ensures_requireApp]
  intro app happ
  have hid : app.id = id := Table.key_of_find? happ
  simp only [ensures_bind, ensures_refuseIf, ensures_writeApplication, ensures_get]
  intro hcreating
  refine (ensures_forM_upsert (f := fun t => { t.tombstone with updatedAt := envelope.at_ })
    (fun _ => rfl) _ (listed_unique fun t ht => (stored_of_list t ht).1)).mono
    fun _ db' h key t ht => ?_
  have hkey : t.key = key := Table.key_of_find? ht
  have hkeyid : t.applicationId = key.applicationId := congrArg TargetKey.applicationId hkey
  by_cases hown : t.applicationId = id
  · have hmem := h.edited t (mem_listTargets.mpr ⟨by rw [hkey]; exact ht, hown.trans hid.symm⟩)
    rw [hkey] at hmem
    have htr : id = key.applicationId := hown.symm.trans hkeyid
    subst htr
    exact ⟨_, hmem, .torndown rfl happ (by simpa using hcreating) ⟨_, _, rfl⟩⟩
  · refine ⟨t, ?_, .kept fun _ _ => rfl⟩
    rw [h.others key ?_]
    · exact ht
    · intro t' ht' hkey'
      obtain ⟨-, hid'⟩ := mem_listTargets.mp ht'
      refine hown (hkeyid.trans ?_)
      rw [← hid, ← hid', ← hkey']
      rfl

/-- Rows that make any number of moves of one kind. -/
def RowsReach (R : Target → Target → Prop) (id : String → Prop) (db db' : Db) : Prop :=
  ∀ key t, db.targets.find? key = some t → ∃ t', db'.targets.find? key = some t' ∧
    (t' = t ∨ id key.applicationId) ∧ Relation.ReflTransGen R t t'

theorem RowsReach.refl {R : Target → Target → Prop} {id : String → Prop} : RowsReach R id db db :=
  fun _ t ht => ⟨t, ht, .inl rfl, .refl⟩

/-- One more settled target in a loop. -/
theorem RowsReach.settled {R : Target → Target → Prop} {id : String → Prop} {db₁ db₂ : Db}
    {key : TargetKey} (h : RowsReach R id db db₁) (hid : id key.applicationId)
    (hsett : Settled db₁ db₂ tr key)
    (hR : ∀ app t row hold t', Settles db₁ app t tr row hold → row.Stamps t' → R t t') :
    RowsReach R id db db₂ := by
  intro key' t ht
  obtain ⟨t₁, ht₁, hsame, hreach⟩ := h key' t ht
  obtain ⟨app, told, row, hold, happ, htold, hsettles, hlanded⟩ := hsett
  by_cases hkey : key' = key
  · subst hkey
    obtain ⟨t₂, ht₂, hstamps⟩ := hlanded.target
    have heq : told = t₁ := Option.some.inj (htold.symm.trans ht₁)
    subst heq
    exact ⟨t₂, ht₂, .inr hid, hreach.tail (hR app told row hold t₂ hsettles hstamps)⟩
  · refine ⟨t₁, ?_, hsame, hreach⟩
    rw [hlanded.others key' hkey]
    exact ht₁

theorem rows_tombstoneNodeTargets {nodeId : Int} :
    Tx.Ensures (tombstoneNodeTargets nodeId envelope) db fun _ db' =>
      RowsMove db db' (.tombstoneNodeTargets nodeId envelope) := by
  unfold tombstoneNodeTargets
  refine (ensures_forM (I := RowsReach (Tombstones envelope.at_) (fun _ => True) db) _ ?_
    RowsReach.refl).mono ?_
  · intro t _ db₁ hdb₁
    refine settles_targetTombstoned.mono fun _ db₂ hsett => ?_
    refine hdb₁.settled trivial hsett ?_
    intro app t row hold t' hsettles hstamps
    cases hsettles
    exact hstamps
  · intro _ db' h key t ht
    obtain ⟨t', ht', _, hreach⟩ := h key t ht
    exact ⟨t', ht', .nodeRemoved rfl hreach⟩

theorem rows_rollbackRefusalSettled {id recoveryRef : String} {targets : List RefusedTarget}
    :
    Tx.Ensures (rollbackRefusalSettled id targets recoveryRef envelope) db fun _ db' =>
      RowsMove db db' (.rollbackRefusalSettled id targets recoveryRef envelope) := by
  unfold rollbackRefusalSettled
  rw [ensures_bind]
  refine (ensures_forM (I := RowsReach (Refuses recoveryRef envelope.at_) (fun i => i = id) db) _ ?_
    RowsReach.refl).mono ?_
  · intro r _ db₁ hdb₁
    refine ensures_attempt ?_ hdb₁
    refine settles_rollbackTargetFailed.mono fun _ db₂ hsett => ?_
    refine hdb₁.settled rfl hsett ?_
    intro app t row hold t' hsettles hstamps
    cases hsettles
    exact ⟨_, hstamps⟩
  · intro _ db₁ h
    refine ensures_mutateApp.mpr fun app _ => ?_
    simp only [ensures_bind, ensures_get, ensures_pure]
    intro key t ht
    obtain ⟨t', ht', hown, hreach⟩ := h key t ht
    refine ⟨t', ht', ?_⟩
    rcases hown with rfl | hid
    · exact .kept fun _ _ => rfl
    · subst hid
      exact .refused rfl hreach

theorem rows_rollbackInProgress_none (id recoveryRef : String)
    (recoveryGenerationId : Option String) (envelope : EventEnvelope) :
    Tx.Ensures (rollbackInProgress id none recoveryRef recoveryGenerationId envelope) db
      fun _ db' => db'.targets = db.targets := by
  refine ensures_mutateApp.mpr fun app _ => ?_
  simp only [ensures_bind, ensures_refuseIf, ensures_pure]
  exact fun _ => rfl

theorem rows_rollbackPartialFailed_none (id recoveryRef : String)
    (failureClass : RollbackFailureClass) (envelope : EventEnvelope) :
    Tx.Ensures (rollbackPartialFailed id none recoveryRef failureClass envelope) db
      fun _ db' => db'.targets = db.targets := by
  refine ensures_mutateApp.mpr fun app _ => ?_
  simp only [ensures_bind, ensures_get, ensures_pure]
  rfl

/-- The calls that are not about one target and still move rows. -/
def Transition.movesRows : Transition → Bool
  | .createFailed .. | .sourceSuspended .. | .interruptActiveOperations ..
  | .tombstoneNodeTargets .. | .rollbackRefusalSettled .. | .rollbackInProgress ..
  | .rollbackPartialFailed .. => true
  | _ => false

theorem Transition.quiet (hat : tr.settlesAt = none) (hmoves : tr.movesRows = false)
    (key : TargetKey) (c : TargetColumn) (hc : c ∈ settledColumns) : ¬ tr.edits key c := by
  rintro ⟨hplaces, -, hwr⟩
  cases tr <;> simp [settlesAt, movesRows, places,
    targetWrites, settledColumns] at hat hmoves hplaces hwr hc
  all_goals grind

theorem rows_special (hmoves : tr.movesRows = true) (hat : tr.settlesAt = none) :
    Tx.Ensures (tr.perform repoKey) db fun _ db' => RowsMove db db' tr := by
  cases tr <;> try cases hmoves
  case createFailed => exact rows_createFailed
  case sourceSuspended => exact rows_sourceSuspended
  case interruptActiveOperations => exact rows_interruptActiveOperations
  case tombstoneNodeTargets => exact rows_tombstoneNodeTargets
  case rollbackRefusalSettled => exact rows_rollbackRefusalSettled
  case rollbackInProgress id nodeId recoveryRef recoveryGenerationId envelope =>
    cases nodeId with
    | none =>
      exact (rows_rollbackInProgress_none id recoveryRef recoveryGenerationId envelope).mono
        fun _ _ h => RowsMove.of_targets h
    | some nodeId => cases hat
  case rollbackPartialFailed id nodeId recoveryRef failureClass envelope =>
    cases nodeId with
    | none =>
      exact (rows_rollbackPartialFailed_none id recoveryRef failureClass envelope).mono
        fun _ _ h => RowsMove.of_targets h
    | some nodeId => cases hat

/-- What one call does to a row. -/
theorem step_row (howned : TargetsOwned db) : RowsMove db (step repoKey db tr) tr := by
  have hstill : RowsMove db db tr := RowsMove.of_targets rfl
  cases hat : tr.settlesAt with
  | some key₀ =>
    refine commit_of_ensures (P := fun db' => RowsMove db db' tr) ?_ hstill
    refine (perform_settles hat).mono fun _ db' hsett key t ht => ?_
    obtain ⟨app, told, row, hold, happ, htold, hsettles, hlanded⟩ := hsett
    by_cases hkey : key = key₀
    · subst hkey
      obtain ⟨t', ht', hstamps⟩ := hlanded.target
      have heq : told = t := Option.some.inj (htold.symm.trans ht)
      subst heq
      exact ⟨t', ht', .settled hat happ hsettles hstamps⟩
    · refine ⟨t, ?_, .kept fun _ _ => rfl⟩
      rw [hlanded.others key hkey]
      exact ht
  | none =>
    cases hmoves : tr.movesRows with
    | true =>
      exact commit_of_ensures (P := fun db' => RowsMove db db' tr) (rows_special hmoves hat) hstill
    | false =>
      intro key t ht
      obtain ⟨t', ht', hkept⟩ := @step_target repoKey _ tr howned _ _ ht
      refine ⟨t', ht', .kept fun c hc => hkept c ?_⟩
      rcases hc with hc | hc
      · exact tr.quiet hat hmoves key c hc
      · exact hc

end Sencho.GitOps
