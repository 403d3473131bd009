import Sencho.GitOps.RestoreMarkers

/-!
# The startup pass

At boot, before any service that mutates, every live application with work left
open by the previous process is reclassified: its operation and the operations
of its targets become interruptions, and a restore that was in flight becomes a
recovery failure of unknown outcome.
-/

namespace Sencho.GitOps

open List Option

open Verified

variable {repoKey : String → Option String} {db : Db}

/-- Whether a restart finds work open on the application row itself. -/
def Application.isOpen (app : Application) : Bool :=
  app.active.stage.isSome || applicationRecoveryInFlight app

namespace Db

/-- Whether a restart finds work open on an application or on a target of it. -/
def hasOpenOperations (db : Db) (app : Application) : Bool :=
  app.isOpen || db.targets.any fun t => t.applicationId = app.id && t.isOpen

/-- Live applications that were mid-operation, the oldest first. -/
def listApplicationsWithOpenOperations (db : Db) : List Application :=
  (db.applications.rows.filter fun app =>
    app.lifecycleStatus.live && db.hasOpenOperations app).insertionSort
      fun a b => a.createdAt ≤ b.createdAt

end Db

/-- The envelope the startup pass reclassifies an application with. -/
def startupEnvelope (app : Application) (newGitOpsId : String) (now : Int) : EventEnvelope :=
  ⟨app.latestOperationId.getD newGitOpsId, some "system:startup", "startup_reconcile", now⟩

/-- One turn of the startup pass: a refusal is logged and the next application
has its turn. -/
def reclassifyOne (newGitOpsId : Application → String) (now : Application → Int)
    (state : Db × Nat) (app : Application) : Db × Nat :=
  match interruptActiveOperations app.id (startupEnvelope app (newGitOpsId app) (now app))
      state.1 with
  | .ok (_, db) => (db, state.2 + 1)
  | .error _ => state

/-- Reclassify every operation the previous process left open. -/
def reclassifyInterruptedOperations (newGitOpsId : Application → String)
    (now : Application → Int) (db : Db) : Db × Nat :=
  db.listApplicationsWithOpenOperations.foldl (reclassifyOne newGitOpsId now) (db, 0)

/-- What reclassifying one application leaves. -/
structure Reclassified (db db' : Db) (id : String) (at_ : Int) : Prop where
  applications : ∀ id', db'.getApplication id' = (db.getApplication id').map fun app =>
    if app.id = id ∧ app.isOpen then keepIdentity app (app.interrupt at_) else app
  targets : ∀ key, db'.targets.find? key = (db.targets.find? key).map fun t =>
    if t.applicationId = id ∧ t.isOpen then t.interrupt at_ else t

variable {id : String}

theorem ensures_interrupted_application {envelope : EventEnvelope} :
    Tx.Ensures (interruptActiveOperations id envelope) db fun _ db' =>
      ∀ id', db'.getApplication id' = (db.getApplication id').map fun app =>
        if app.id = id ∧ app.isOpen then keepIdentity app (app.interrupt envelope.at_)
        else app := by
  unfold interruptActiveOperations interruptApplication
  rw [Tx.ensures_bind, ensures_requireApp]
  intro app happ
  have hid : app.id = id := Table.key_of_find? happ
  have hloop : ∀ (xs : List Target) (db₁ : Db), Tx.Ensures (xs.forM fun t =>
      upsertTarget (t.interrupt envelope.at_)) db₁ fun _ db' =>
        ∀ id', db'.getApplication id' = db₁.getApplication id' := by
    intro xs db₁
    refine Tx.ensures_forM xs (fun t _ db₂ h => ?_) fun _ => rfl
    exact ensures_upsert.mpr fun _ => h
  simp only [Tx.ensures_bind, Tx.ensures_ite, ensures_writeApplication, Tx.ensures_pure,
    Tx.ensures_get]
  refine ⟨fun hopen => (hloop _ _).mono fun _ db' h id' => ?_,
    fun hidle => (hloop _ _).mono fun _ db' h id' => ?_⟩
  · rw [h id', Db.getApplication_writeApp]
    cases hst : db.getApplication id' with
    | none => rfl
    | some stored =>
      have hsid : stored.id = id' := Table.key_of_find? hst
      have hiid : (app.interrupt envelope.at_).id = id :=
        (app.interrupt_kept envelope.at_).1.trans hid
      simp only [map_some]
      by_cases hsame : id' = id
      · have hrow : app = stored := by
          rw [hsame] at hst
          exact some.inj (happ.symm.trans hst)
        subst hrow
        rw [if_pos (hsame.trans hiid.symm), if_pos ⟨hid, hopen⟩]
      · rw [if_neg fun heq => hsame (heq.trans hiid), if_neg fun h => hsame (hsid.symm.trans h.1)]
  · rw [h id']
    cases hst : db.getApplication id' with
    | none => rfl
    | some stored =>
      refine congrArg some (if_neg fun hown => ?_).symm
      have hsid : stored.id = id' := Table.key_of_find? hst
      rw [← hsid, hown.1] at hst
      rw [some.inj (hst.symm.trans happ)] at hown
      exact hidle hown.2

theorem ensures_reclassified {envelope : EventEnvelope} :
    Tx.Ensures (interruptActiveOperations id envelope) db fun _ db' =>
      Reclassified db db' id envelope.at_ :=
  (ensures_interrupted_application.and ensures_interrupted).mono fun _ _ h => ⟨h.1, h.2⟩

/-- An interruption changes none of the columns the store checks. -/
theorem interrupt_passes {t : Target} {at_ : Int} (h : assertTargetInvariants db t = none) :
    assertTargetInvariants db (t.interrupt at_) = none := by
  rw [assertTargetInvariants_none_iff] at h ⊢
  rw [Target.interrupt_eq]
  exact h

theorem accepts_forM_interrupt {at_ : Int} (xs : List Target)
    (hxs : ∀ t ∈ xs, assertTargetInvariants db t = none) :
    ∃ db', (xs.forM fun t => upsertTarget (t.interrupt at_)) db = .ok ((), db') := by
  induction xs generalizing db with
  | nil => exact ⟨db, rfl⟩
  | cons t xs ih =>
    have hfirst := upsertTarget_of_passes (@interrupt_passes _ _ at_ (hxs t (by simp)))
    have hgrows : Grows db (db.putTarget (t.interrupt at_)) := Grows.of_tables rfl rfl
    obtain ⟨db', hrest⟩ := ih fun t' ht' =>
      hgrows.passes (hxs t' (mem_cons_of_mem t ht'))
    exact ⟨db', (Tx.bind_of_ok hfirst).trans hrest⟩

/-- The rows an interruption writes back all pass. -/
theorem accepts_interrupt_targets (hrows : RowsPass db) {db₁ : Db} (id : String) (at_ : Int)
    (htargets : db₁.targets = db.targets) (hgrows : Grows db db₁) :
    ∃ db', (((db₁.listTargets id).filter Target.isOpen).forM fun t =>
      upsertTarget (t.interrupt at_)) db₁ = .ok ((), db') := by
  refine accepts_forM_interrupt _ fun t ht => ?_
  obtain ⟨hmem, -⟩ := mem_filter.mp ht
  have hfind := (mem_listTargets.mp hmem).1
  rw [htargets] at hfind
  exact hgrows.passes (hrows t.key t hfind)

variable {app : Application}

theorem requireApp_of_some
    (happ : db.getApplication id = some app) : requireApp id db = .ok (app, db) := by
  refine (@Tx.bind_of_ok _ _ _ _ db _ _ _ db rfl).trans ?_
  rw [happ]
  rfl

/-- Reclassifying an application that is there is never refused. -/
theorem accepts_interrupt (hrows : RowsPass db)
    (happ : db.getApplication id = some app) (envelope : EventEnvelope) :
    ∃ db', interruptActiveOperations id envelope db = .ok ((), db') := by
  have hstart : ∀ {db₁ : Db}, interruptApplication app envelope db = .ok ((), db₁) →
      interruptActiveOperations id envelope db =
        (((db₁.listTargets id).filter Target.isOpen).forM fun t =>
          upsertTarget (t.interrupt envelope.at_)) db₁ := by
    intro db₁ hwrite
    refine (Tx.bind_of_ok (requireApp_of_some happ)).trans ((Tx.bind_of_ok hwrite).trans ?_)
    exact @Tx.bind_of_ok _ _ _ _ db₁ _ _ _ db₁ rfl
  unfold interruptApplication at hstart
  by_cases hopen : (app.active.stage.isSome || applicationRecoveryInFlight app) = true
  · rw [if_pos hopen] at hstart
    obtain ⟨db', hrun⟩ := @accepts_interrupt_targets _ hrows
        (db.writeApp (app.interrupt envelope.at_)) id envelope.at_ rfl
        (Grows.of_tables rfl rfl)
    exact ⟨db', (hstart rfl).trans hrun⟩
  · rw [if_neg hopen] at hstart
    obtain ⟨db', hrun⟩ := @accepts_interrupt_targets _ hrows db id envelope.at_ rfl
        (Grows.of_tables rfl rfl)
    exact ⟨db', (hstart rfl).trans hrun⟩

/-- Nothing is open on an application or on its targets. -/
structure Closed (db : Db) (id : String) : Prop where
  application : ∀ app, db.getApplication id = some app → app.isOpen = false
  targets : ∀ key t, db.targets.find? key = some t → key.applicationId = id → t.isOpen = false

theorem application_interrupt_closed (app : Application) (at_ : Int) :
    (keepIdentity app (app.interrupt at_)).isOpen = false := by
  show (app.interrupt at_).isOpen = false
  unfold Application.interrupt
  cases hfl : applicationRecoveryInFlight app with
  | true => rfl
  | false => exact hfl

theorem target_interrupt_closed (t : Target) (at_ : Int) : (t.interrupt at_).isOpen = false := by
  obtain ⟨hidle, hactive⟩ := interrupt_idle t at_
  unfold Target.isOpen
  rw [hidle, hactive]
  rfl

namespace Reclassified

variable {db' : Db} {id : String} {at_ : Int}

section

variable (h : Reclassified db db' id at_)
include h

theorem getApplication_some {id' : String} {app' : Application}
    (happ' : db'.getApplication id' = some app') :
    ∃ app, db.getApplication id' = some app ∧ app'.lifecycleStatus = app.lifecycleStatus ∧
      (app' = app ∨ app'.isOpen = false) ∧ (id' = id → app'.isOpen = false) := by
  rw [h.applications id'] at happ'
  obtain ⟨app, happ, hmap⟩ := map_eq_some_iff.mp happ'
  refine ⟨app, happ, ?_⟩
  subst hmap
  have hid : app.id = id' := Table.key_of_find? happ
  split
  · refine ⟨?_, .inr (application_interrupt_closed app at_), fun _ =>
      application_interrupt_closed app at_⟩
    exact (app.interrupt_kept at_).2 .lifecycle (by simp)
  · rename_i hnot
    refine ⟨rfl, .inl rfl, fun heq => ?_⟩
    exact Bool.eq_false_iff.mpr fun hopen => hnot ⟨hid.trans heq, hopen⟩

theorem find?_some {key : TargetKey} {t' : Target} (ht' : db'.targets.find? key = some t') :
    ∃ t, db.targets.find? key = some t ∧ (t' = t ∨ t' = t.interrupt at_) ∧
      (key.applicationId = id → t'.isOpen = false) := by
  rw [h.targets key] at ht'
  obtain ⟨t, ht, hmap⟩ := map_eq_some_iff.mp ht'
  refine ⟨t, ht, ?_⟩
  subst hmap
  have hkey : t.key = key := Table.key_of_find? ht
  have hid : t.applicationId = key.applicationId := congrArg TargetKey.applicationId hkey
  split
  · exact ⟨.inr rfl, fun _ => target_interrupt_closed t at_⟩
  · rename_i hnot
    refine ⟨.inl rfl, fun heq => ?_⟩
    exact Bool.eq_false_iff.mpr fun hopen => hnot ⟨hid.trans heq, hopen⟩

theorem closed_self : Closed db' id where
  application := by
    intro app' happ'
    obtain ⟨_, _, _, _, hclosed⟩ := h.getApplication_some happ'
    exact hclosed rfl
  targets := by
    intro key t' ht' hkey
    obtain ⟨_, _, _, hclosed⟩ := h.find?_some ht'
    exact hclosed hkey

theorem closed_other {id' : String} (hc : Closed db id') : Closed db' id' where
  application := by
    intro app' happ'
    obtain ⟨app, happ, _, hsame | hclosed, _⟩ := h.getApplication_some happ'
    · rw [hsame]
      exact hc.application app happ
    · exact hclosed
  targets := by
    intro key t' ht' hkey
    obtain ⟨t, ht, rfl | rfl, _⟩ := h.find?_some ht'
    · exact hc.targets key t' ht hkey
    · exact target_interrupt_closed t at_

/-- A restore in flight, or the claim it left, is still one or the other. -/
theorem answered {key : TargetKey} {t : Target} (ht : db.targets.find? key = some t)
    (hmoved : targetRecoveryFailureMoved t = true) :
    ∃ t', db'.targets.find? key = some t' ∧ targetRecoveryFailureMoved t' = true := by
  rw [h.targets key, ht]
  refine ⟨_, rfl, ?_⟩
  dsimp only
  split
  · unfold targetRecoveryFailureMoved
    rw [Bool.or_eq_true]
    refine .inr ?_
    cases hfl : targetRestoreInFlight t with
    | true =>
      unfold Target.interrupt
      rw [if_pos hfl]
      show (if recoveryClaimMoved t then t.recovery.failureClass else some .interrupted).any
        (fun c => c ≠ .preMutation) = true
      split
      · assumption
      · rfl
    | false =>
      unfold targetRecoveryFailureMoved at hmoved
      rw [hfl, Bool.false_or] at hmoved
      exact interrupt_moved hmoved
  · exact hmoved

end

end Reclassified

/-- What the turns of the pass leave. -/
structure Passed (db db' : Db) (xs : List Application) : Prop where
  closes : ∀ app ∈ xs, Closed db' app.id
  keeps : ∀ id, Closed db id → Closed db' id
  lifecycle : ∀ id app', db'.getApplication id = some app' →
    ∃ app, db.getApplication id = some app ∧ app'.lifecycleStatus = app.lifecycleStatus
  answered : ∀ key t, db.targets.find? key = some t → targetRecoveryFailureMoved t = true →
    ∃ t', db'.targets.find? key = some t' ∧ targetRecoveryFailureMoved t' = true

theorem Passed.nil : Passed db db [] where
  closes := by
    intro app happ
    cases happ
  keeps _ h := h
  lifecycle _ app' h := ⟨app', h, rfl⟩
  answered _ t h hmoved := ⟨t, h, hmoved⟩

theorem Passed.cons {db₁ db₂ : Db} {xs : List Application} {at_ : Int}
    (hfirst : Reclassified db db₁ app.id at_) (hrest : Passed db₁ db₂ xs) :
    Passed db db₂ (app :: xs) where
  closes := by
    intro app' happ'
    rcases mem_cons.mp happ' with rfl | hmem
    · exact hrest.keeps _ hfirst.closed_self
    · exact hrest.closes app' hmem
  keeps := by
    intro id hclosed
    exact hrest.keeps id (hfirst.closed_other hclosed)
  lifecycle := by
    intro id app₂ happ₂
    obtain ⟨app₁, happ₁, hlife₂⟩ := hrest.lifecycle id app₂ happ₂
    obtain ⟨app₀, happ₀, hlife₁, _⟩ := hfirst.getApplication_some happ₁
    exact ⟨app₀, happ₀, hlife₂.trans hlife₁⟩
  answered := by
    intro key t ht hmoved
    obtain ⟨t₁, ht₁, hmoved₁⟩ := hfirst.answered ht hmoved
    exact hrest.answered key t₁ ht₁ hmoved₁

section

variable (newGitOpsId : Application → String) (now : Application → Int)

/-- One turn reclassifies its application. -/
theorem reclassifyOne_spec (hrows : RowsPass db) {app stored : Application}
    (hst : db.getApplication app.id = some stored) (n : Nat) :
    ∃ db', reclassifyOne newGitOpsId now (db, n) app = (db', n + 1) ∧
      Reclassified db db' app.id (now app) ∧ RowsPass db' := by
  obtain ⟨db', hrun⟩ := accepts_interrupt hrows hst
    (startupEnvelope app (newGitOpsId app) (now app))
  refine ⟨db', ?_, ensures_reclassified _ _ hrun, ?_⟩
  · unfold reclassifyOne
    rw [hrun]
  · exact @stillPass_perform (fun _ => none) (.interruptActiveOperations app.id
      (startupEnvelope app (newGitOpsId app) (now app))) db _ _ hrun hrows

theorem foldl_reclassify (hrows : RowsPass db) (xs : List Application)
    (hxs : ∀ app ∈ xs, (db.getApplication app.id).isSome = true) (n : Nat) :
    ∃ db', xs.foldl (reclassifyOne newGitOpsId now) (db, n) = (db', n + xs.length) ∧
      Passed db db' xs := by
  induction xs generalizing db n with
  | nil => exact ⟨db, rfl, .nil⟩
  | cons app xs ih =>
    obtain ⟨stored, hst⟩ := isSome_iff_exists.mp (hxs app (by simp))
    obtain ⟨db₁, hone, hfirst, hrows₁⟩ :=
      reclassifyOne_spec newGitOpsId now hrows hst n
    have hpresent : ∀ app' ∈ xs, (db₁.getApplication app'.id).isSome = true := by
      intro app' happ'
      rw [hfirst.applications, isSome_map]
      exact hxs app' (mem_cons_of_mem app happ')
    obtain ⟨db', hrest, hpassed⟩ := ih hrows₁ hpresent (n + 1)
    refine ⟨db', ?_, .cons hfirst hpassed⟩
    rw [foldl_cons, hone, hrest, length_cons, Nat.add_right_comm, Nat.add_assoc]

end

theorem mem_listApplicationsWithOpenOperations :
    app ∈ db.listApplicationsWithOpenOperations ↔
      db.getApplication app.id = some app ∧ app.lifecycleStatus.live = true ∧
        ¬ Closed db app.id := by
  unfold Db.listApplicationsWithOpenOperations
  rw [mem_insertionSort, mem_filter, Bool.and_eq_true]
  have hst : app ∈ db.applications.rows ↔ db.getApplication app.id = some app := by
    unfold Db.getApplication
    rw [Table.find?_eq_some_iff]
    simp
  rw [hst]
  refine and_congr_right fun happ => and_congr_right fun _ => ?_
  unfold Db.hasOpenOperations
  rw [Bool.or_eq_true, Table.any_iff]
  constructor
  · rintro (hopen | ⟨key, t, ht, hopen⟩) hclosed
    · rw [hclosed.application app happ] at hopen
      cases hopen
    · rw [Bool.and_eq_true, decide_eq_true_eq] at hopen
      have hkey : t.key = key := Table.key_of_find? ht
      have hid : key.applicationId = app.id := by
        rw [← hkey]
        exact hopen.1
      rw [hclosed.targets key t ht hid] at hopen
      cases hopen.2
  · intro hnot
    by_contra hidle
    rw [not_or] at hidle
    refine hnot ⟨?_, ?_⟩
    · intro app' happ'
      rw [← some.inj (happ.symm.trans happ')]
      exact Bool.eq_false_iff.mpr hidle.1
    · intro key t ht hkey
      refine Bool.eq_false_iff.mpr fun hopen => hidle.2 ⟨key, t, ht, ?_⟩
      have hid : t.key = key := Table.key_of_find? ht
      rw [Bool.and_eq_true, decide_eq_true_eq]
      exact ⟨(congrArg TargetKey.applicationId hid).trans hkey, hopen⟩

/-- A restore in flight on a target of a live application. -/
def RestoreOpen (db : Db) (key : TargetKey) : Prop :=
  ∃ t app, db.targets.find? key = some t ∧ targetRestoreInFlight t = true ∧
    db.getApplication key.applicationId = some app ∧ app.lifecycleStatus.live = true

/-- A startup pass over a database: afterwards nothing is listed as open, each
restore it cut off has a claim that may have moved its target, and neither
another pass nor another reclassification of a live application changes
anything. -/
structure StartupSettles (db db' : Db) : Prop where
  nothingOpen : db'.listApplicationsWithOpenOperations = []
  claimed : ∀ key, RestoreOpen db key →
    ∃ t', db'.targets.find? key = some t' ∧ targetRestoreInFlight t' = false ∧
      recoveryClaimMoved t' = true
  again : ∀ newGitOpsId now, reclassifyInterruptedOperations newGitOpsId now db' = (db', 0)
  still : ∀ id app envelope, db'.getApplication id = some app →
    app.lifecycleStatus.live = true → interruptActiveOperations id envelope db' = .ok ((), db')

/-- Reclassifying an application with nothing open writes nothing. -/
theorem interrupt_closed (happ : db.getApplication id = some app) (hclosed : Closed db id)
    (envelope : EventEnvelope) : interruptActiveOperations id envelope db = .ok ((), db) := by
  refine (Tx.bind_of_ok (requireApp_of_some happ)).trans ?_
  have hidle : (app.active.stage.isSome || applicationRecoveryInFlight app) ≠ true :=
    Bool.eq_false_iff.mp (hclosed.application app happ)
  have hkept : interruptApplication app envelope db = .ok ((), db) := by
    unfold interruptApplication
    rw [if_neg hidle]
    rfl
  refine (Tx.bind_of_ok hkept).trans ((@Tx.bind_of_ok _ _ _ _ db _ _ _ db rfl).trans ?_)
  have hnone : ((db.listTargets id).filter fun t =>
      t.active.stage.isSome || targetRestoreInFlight t) = [] := by
    refine filter_eq_nil_iff.mpr fun t ht => ?_
    obtain ⟨hfind, hid⟩ := mem_listTargets.mp ht
    exact Bool.eq_false_iff.mp (hclosed.targets t.key t hfind hid)
  rw [hnone]
  rfl

/-- One startup pass leaves nothing open. -/
theorem startup_settles (hrows : RowsPass db) (newGitOpsId : Application → String)
    (now : Application → Int) :
    StartupSettles db (reclassifyInterruptedOperations newGitOpsId now db).1 := by
  have hlisted : ∀ app ∈ db.listApplicationsWithOpenOperations,
      (db.getApplication app.id).isSome = true := by
    intro app happ
    rw [(mem_listApplicationsWithOpenOperations.mp happ).1]
    rfl
  obtain ⟨db', hrun, hpassed⟩ := foldl_reclassify newGitOpsId now hrows _ hlisted 0
  have hfst : (reclassifyInterruptedOperations newGitOpsId now db).1 = db' := by
    unfold reclassifyInterruptedOperations
    rw [hrun]
  rw [hfst]
  have hclosed : ∀ id app', db'.getApplication id = some app' →
      app'.lifecycleStatus.live = true → Closed db' id := by
    intro id app' happ' hlive
    obtain ⟨app, happ, hlife⟩ := hpassed.lifecycle id app' happ'
    have hid : app.id = id := Table.key_of_find? happ
    by_cases hopen : Closed db id
    · exact hpassed.keeps id hopen
    · rw [← hid]
      refine hpassed.closes app (mem_listApplicationsWithOpenOperations.mpr ⟨?_, ?_, ?_⟩)
      · rw [hid]
        exact happ
      · rw [← hlife]
        exact hlive
      · rw [hid]
        exact hopen
  have hempty : db'.listApplicationsWithOpenOperations = [] := by
    refine eq_nil_iff_forall_not_mem.mpr fun app happ => ?_
    obtain ⟨hfind, hlive, hopen⟩ := mem_listApplicationsWithOpenOperations.mp happ
    exact hopen (hclosed app.id app hfind hlive)
  refine ⟨hempty, fun key hopen => ?_, fun newId now' => ?_, ?_⟩
  · obtain ⟨t, app, ht, hfl, happ, hlive⟩ := hopen
    obtain ⟨t', ht', hmoved⟩ := hpassed.answered key t ht (by
      unfold targetRecoveryFailureMoved
      rw [hfl]
      rfl)
    have hmem : app ∈ db.listApplicationsWithOpenOperations := by
      have hid : app.id = key.applicationId := Table.key_of_find? happ
      refine mem_listApplicationsWithOpenOperations.mpr ⟨by rw [hid]; exact happ, hlive, ?_⟩
      intro hclosed
      have hidle := hclosed.targets key t ht hid.symm
      unfold Target.isOpen at hidle
      rw [hfl, Bool.or_true] at hidle
      cases hidle
    have hid : app.id = key.applicationId := Table.key_of_find? happ
    have hidle : targetRestoreInFlight t' = false := by
      have hshut := (hpassed.closes app hmem).targets key t' ht' hid.symm
      exact (Bool.or_eq_false_iff.mp hshut).2
    refine ⟨t', ht', hidle, ?_⟩
    unfold targetRecoveryFailureMoved at hmoved
    rw [hidle, Bool.false_or] at hmoved
    exact hmoved
  · unfold reclassifyInterruptedOperations
    rw [hempty]
    rfl
  · intro id app envelope happ hlive
    exact interrupt_closed happ (hclosed id app happ hlive) envelope

/-- In every reachable database a restore in flight has the operation marker and
is the only one on its target, and one startup pass leaves nothing in flight. -/
theorem restores_recoverable (calls : List Transition) (newGitOpsId : Application → String)
    (now : Application → Int) :
    RestoresMarked (runTransitions repoKey Db.empty calls) ∧
    OneRestore repoKey (runTransitions repoKey Db.empty calls) ∧
    StartupSettles (runTransitions repoKey Db.empty calls)
      (reclassifyInterruptedOperations newGitOpsId now (runTransitions repoKey Db.empty calls)).1 :=
  ⟨restoresMarked_run calls, one_restore (targetsOwned_run calls),
    startup_settles (rowsPass_run calls) newGitOpsId now⟩

end Sencho.GitOps
