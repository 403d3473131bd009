import Sencho.GitOps.SourceController

/-!
# One owner for each slot

The slot of an application is in flight exactly while one promise owns it, and a
wake is parked only against an owned slot.  The release of the slot consumes the
wake: it evaluates the source, unless the source stopped being eligible.
-/

namespace Sencho.GitOps

open Verified List Function Controller

variable {c : Controller} {event : ControllerEvent} {id : String}

/-- Every slot in flight is owned by one promise, and wakes are parked against
owned slots only. -/
structure OneOwner (c : Controller) : Prop where
  owned : ∀ id, id ∈ c.inFlight ↔ ∃ t ∈ c.tasks, t.applicationId = id
  single : (c.tasks.map Task.applicationId).Nodup
  parked : ∀ id stackName, c.pendingWakes id = some stackName → id ∈ c.inFlight

theorem oneOwner_init (db : Db) : OneOwner (.init db) where
  owned id := by simp [init]
  single := nodup_nil
  parked id stackName h := by cases h

theorem OneOwner.claim (h : OneOwner c) {work : Work} (hfree : id ∉ c.inFlight) :
    OneOwner (c.claim work id) where
  owned id' := by
    unfold Controller.claim
    simp only [Finset.mem_insert, mem_cons, exists_eq_or_imp, h.owned id', eq_comm]
  single := by
    have hnew : id ∉ c.tasks.map Task.applicationId := by
      intro hmem
      obtain ⟨t, ht, hid⟩ := mem_map.mp hmem
      exact hfree ((h.owned id).mpr ⟨t, ht, hid⟩)
    exact nodup_cons.mpr ⟨hnew, h.single⟩
  parked id' stackName hwake :=
    Finset.mem_insert_of_mem (h.parked id' stackName hwake)

theorem OneOwner.evaluateNow (h : OneOwner c) (stackName : String) :
    OneOwner (c.evaluateNow stackName) := by
  unfold Controller.evaluateNow
  cases happ : c.db.getLiveSourceApplication stackName with
  | none => exact h
  | some app =>
    dsimp only
    by_cases hskip : app.sourcePolicy = .manual ∨ truthyAt app.suspendedAt = true
    · rw [if_pos hskip]
      exact h
    · rw [if_neg hskip]
      by_cases hbusy : app.id ∈ c.inFlight
      · rw [if_pos hbusy]
        refine ⟨h.owned, h.single, fun id name hwake => ?_⟩
        by_cases hid : id = app.id
        · rw [hid]
          exact hbusy
        · exact h.parked id name (by simpa [update_of_ne hid] using hwake)
      · rw [if_neg hbusy]
        exact h.claim hbusy

theorem OneOwner.scan (h : OneOwner c) (now : Int) : OneOwner (c.scan now) := by
  refine foldlRecOn _ _ h fun t ht app _ => ?_
  by_cases hbusy : app.id ∈ t.inFlight
  · rw [if_pos hbusy]
    exact ht
  · rw [if_neg hbusy]
    exact ht.claim hbusy

/-- A pull is refused while the slot is in flight. -/
theorem operatorFetchBlock_free {app : Option Application} {inFlight : Bool}
    {row : Application} {stackName : String}
    (h : operatorFetchBlock app inFlight = .ok (row, stackName)) :
    inFlight = false ∧ app = some row := by
  unfold operatorFetchBlock at h
  cases hrow : app.filter fun app => app.targetMode = .blueprint && app.lifecycleStatus.live with
  | none =>
    rw [hrow] at h
    cases h
  | some found =>
    rw [hrow] at h
    dsimp only at h
    have happ : app = some found := (Option.filter_eq_some_iff.mp hrow).1
    cases hname : (found.configuredSourceStackName.or found.stackName).filter
        fun name => name ≠ "" with
    | none =>
      rw [hname] at h
      cases h
    | some name =>
      rw [hname] at h
      dsimp only at h
      split at h <;> try cases h
      split at h <;> try cases h
      split at h <;> try cases h
      split at h <;> try cases h
      rename_i hfree
      split at h <;> cases h
      exact ⟨by simpa using fun hin => hfree (.inl hin), happ⟩

theorem OneOwner.requestFetch (h : OneOwner c) (applicationId : String)
    (confirmation : Option SourceConfirmation) :
    OneOwner (c.requestFetch applicationId confirmation) := by
  unfold Controller.requestFetch
  cases hblock : operatorFetchBlock (c.db.getApplication applicationId)
      (applicationId ∈ c.inFlight) with
  | error => exact h
  | ok found =>
    obtain ⟨hfree, happ⟩ := operatorFetchBlock_free hblock
    dsimp only
    split
    · exact h
    · rw [Table.key_of_find? happ]
      exact h.claim (of_decide_eq_false hfree)

/-- Taking the promise off the list takes its application with it. -/
theorem OneOwner.erased (h : OneOwner c) {task : Task} (htask : task ∈ c.tasks) (id : String) :
    (∃ t ∈ c.tasks.erase task, t.applicationId = id) ↔
      (∃ t ∈ c.tasks, t.applicationId = id) ∧ id ≠ task.applicationId := by
  have hnodup : c.tasks.Nodup := h.single.of_map
  constructor
  · rintro ⟨t, ht, rfl⟩
    obtain ⟨hne, hmem⟩ := hnodup.mem_erase_iff.mp ht
    exact ⟨⟨t, hmem, rfl⟩, fun hid => hne (inj_on_of_nodup_map h.single hmem htask hid)⟩
  · rintro ⟨⟨t, ht, rfl⟩, hne⟩
    exact ⟨t, hnodup.mem_erase_iff.mpr ⟨fun heq => hne (by rw [heq]), ht⟩, rfl⟩

/-- The controller without a settled promise, its slot and the wake against it. -/
def Controller.freed (c : Controller) (task : Task) : Controller :=
  { c with
    tasks := c.tasks.erase task
    inFlight := c.inFlight.erase task.applicationId
    pendingWakes := update c.pendingWakes task.applicationId none }

theorem OneOwner.freed (h : OneOwner c) {task : Task} (htask : task ∈ c.tasks) :
    OneOwner (c.freed task) where
  owned id := by
    unfold Controller.freed
    rw [h.erased htask id, Finset.mem_erase, h.owned id, and_comm]
  single := (List.Sublist.map _ erase_sublist).nodup h.single
  parked id stackName hwake := by
    unfold Controller.freed at hwake ⊢
    dsimp only at hwake ⊢
    by_cases hid : id = task.applicationId
    · rw [hid, update_self] at hwake
      cases hwake
    · rw [update_of_ne hid] at hwake
      exact Finset.mem_erase.mpr ⟨hid, h.parked id stackName hwake⟩

/-- A promise that settles for good frees its slot and runs the wake against it. -/
theorem Controller.settle_eq {task : Task} {how : Settlement} (htask : task ∈ c.tasks)
    (hdone : ¬(task.work = .pull ∧ how = .continuing)) :
    c.settle task how = match c.pendingWakes task.applicationId with
      | none => c.freed task
      | some stackName => (c.freed task).evaluateNow stackName := by
  unfold settle releaseAndDrainWake freed
  rw [if_pos htask, if_neg hdone]
  cases hwake : c.pendingWakes task.applicationId with
  | some stackName => rfl
  | none =>
    rw [show update c.pendingWakes task.applicationId none = c.pendingWakes from
      update_eq_self_iff.mpr hwake.symm]

theorem OneOwner.settle (h : OneOwner c) (task : Task) (how : Settlement) :
    OneOwner (c.settle task how) := by
  by_cases htask : task ∈ c.tasks
  · by_cases hpull : task.work = .pull ∧ how = .continuing
    · rw [show c.settle task how = { c with
          tasks := ⟨.follow, task.applicationId⟩ :: c.tasks.erase task } from
        (if_pos htask).trans (if_pos hpull)]
      refine ⟨fun id => ?_, ?_, h.parked⟩
      · rw [exists_mem_cons_iff]
        rw [h.erased htask id, h.owned id]
        by_cases hid : id = task.applicationId
        · subst hid
          exact iff_of_true ⟨task, htask, rfl⟩ (.inl rfl)
        · simp [hid, Ne.symm hid]
      · refine nodup_cons.mpr ⟨fun hmem => ?_, ?_⟩
        · obtain ⟨t, ht, hid⟩ := mem_map.mp hmem
          exact ((h.erased htask task.applicationId).mp ⟨t, ht, hid⟩).2 rfl
        · exact (List.Sublist.map _ erase_sublist).nodup h.single
    · rw [settle_eq htask hpull]
      cases hwake : c.pendingWakes task.applicationId with
      | none => exact h.freed htask
      | some stackName => exact (h.freed htask).evaluateNow stackName
  · rw [show c.settle task how = c from if_neg htask]
    exact h

theorem oneOwner_step (h : OneOwner c) (event : ControllerEvent) : OneOwner (c.step event) := by
  cases event with
  | rows db => exact ⟨h.owned, h.single, h.parked⟩
  | tick now => exact h.scan now
  | evaluateNow stackName => exact h.evaluateNow stackName
  | requestFetch applicationId confirmation => exact h.requestFetch applicationId confirmation
  | settle task how => exact h.settle task how

theorem oneOwner_run (db : Db) (events : List ControllerEvent) :
    OneOwner (runController db events) :=
  Runs.run_invariant (P := OneOwner) (fun _ event h => oneOwner_step h event)
    (oneOwner_init db) events

/-- Whether the unattended cadence may evaluate the application. -/
def Db.Eligible (db : Db) (id : String) : Prop :=
  ∃ stackName app, db.getLiveSourceApplication stackName = some app ∧ app.id = id ∧
    app.sourcePolicy ≠ .manual ∧ truthyAt app.suspendedAt = false

/-- Every application is found under the one stack its source keeps for life. -/
def SourcesNamed (nameOf : String → String) (db : Db) : Prop :=
  ∀ stackName app, db.getLiveSourceApplication stackName = some app → nameOf app.id = stackName

/-- The rows other writers leave keep the names. -/
def ControllerEvent.KeepsNames (nameOf : String → String) : ControllerEvent → Prop
  | .rows db => SourcesNamed nameOf db
  | _ => True

/-- The event begins an evaluation of the application. -/
def Controller.Begins (c : Controller) (event : ControllerEvent) (id : String) : Prop :=
  c.begun.count id < (c.step event).begun.count id

/-- The event releases the slot of the application. -/
def Controller.Releases (c : Controller) (event : ControllerEvent) (id : String) : Prop :=
  ∃ task how, event = .settle task how ∧ task ∈ c.tasks ∧ task.applicationId = id ∧
    ¬(task.work = .pull ∧ how = .continuing)

/-- The names of the rows and of the parked wakes. -/
structure Named (nameOf : String → String) (c : Controller) : Prop where
  rows : SourcesNamed nameOf c.db
  wakes : ∀ id stackName, c.pendingWakes id = some stackName → nameOf id = stackName

variable {nameOf : String → String}

/-- An evaluation right away, for an application whose slot is free. -/
theorem evaluateNow_eligible (hrows : SourcesNamed nameOf c.db) (helig : c.db.Eligible id)
    (hfree : id ∉ c.inFlight) : c.evaluateNow (nameOf id) = c.claim .evaluation id := by
  obtain ⟨stackName, app, hfound, rfl, hpolicy, hlive⟩ := helig
  unfold evaluateNow
  have hname := hrows stackName app hfound
  rw [hname, hfound]
  dsimp only
  have hkept : ¬(app.sourcePolicy = .manual ∨ truthyAt app.suspendedAt = true) := by
    rintro (hmanual | hsuspended)
    · exact hpolicy hmanual
    · rw [hlive] at hsuspended
      cases hsuspended
  rw [if_neg hkept, if_neg hfree]

theorem evaluateNow_wakes (stackName : String) (hwake : c.pendingWakes id ≠ none) :
    (c.evaluateNow stackName).pendingWakes id ≠ none := by
  unfold evaluateNow
  cases happ : c.db.getLiveSourceApplication stackName with
  | none => exact hwake
  | some app =>
    dsimp only
    split
    · exact hwake
    · split
      · by_cases hid : id = app.id
        · subst hid
          simp
        · simpa [update_of_ne hid] using hwake
      · exact hwake

theorem scan_kept (now : Int) :
    (c.scan now).pendingWakes = c.pendingWakes ∧ (c.scan now).db = c.db := by
  refine foldlRecOn (motive := fun t : Controller => t.pendingWakes = c.pendingWakes ∧ t.db = c.db)
    _ _ ⟨rfl, rfl⟩ fun t ht app _ => ?_
  split
  · exact ht
  · exact ht

theorem requestFetch_kept (applicationId : String) (confirmation : Option SourceConfirmation) :
    (c.requestFetch applicationId confirmation).pendingWakes = c.pendingWakes ∧
      (c.requestFetch applicationId confirmation).db = c.db := by
  unfold requestFetch
  split
  · exact ⟨rfl, rfl⟩
  · split <;> exact ⟨rfl, rfl⟩

theorem Named.evaluateNow (h : Named nameOf c) (stackName : String) :
    Named nameOf (c.evaluateNow stackName) := by
  unfold Controller.evaluateNow
  cases happ : c.db.getLiveSourceApplication stackName with
  | none => exact h
  | some app =>
    dsimp only
    split
    · exact h
    · split
      · refine ⟨h.rows, fun id name hwake => ?_⟩
        by_cases hid : id = app.id
        · subst hid
          rw [show name = stackName by simpa [eq_comm] using hwake]
          exact h.rows stackName app happ
        · exact h.wakes id name (by simpa [update_of_ne hid] using hwake)
      · exact ⟨h.rows, h.wakes⟩

theorem Named.freed (h : Named nameOf c) (task : Task) : Named nameOf (c.freed task) where
  rows := h.rows
  wakes id name hwake := by
    unfold Controller.freed at hwake
    dsimp only at hwake
    by_cases hid : id = task.applicationId
    · rw [hid, update_self] at hwake
      cases hwake
    · rw [update_of_ne hid] at hwake
      exact h.wakes id name hwake

theorem named_step (h : Named nameOf c) (hkeeps : event.KeepsNames nameOf) :
    Named nameOf (c.step event) := by
  cases event with
  | rows db => exact ⟨hkeeps, h.wakes⟩
  | tick now =>
    obtain ⟨hwakes, hdb⟩ := @scan_kept c now
    exact ⟨hdb.symm ▸ h.rows, hwakes.symm ▸ h.wakes⟩
  | evaluateNow stackName => exact h.evaluateNow stackName
  | requestFetch applicationId confirmation =>
    obtain ⟨hwakes, hdb⟩ := @requestFetch_kept c applicationId confirmation
    exact ⟨hdb.symm ▸ h.rows, hwakes.symm ▸ h.wakes⟩
  | settle task how =>
    show Named nameOf (c.settle task how)
    by_cases htask : task ∈ c.tasks
    · by_cases hpull : task.work = .pull ∧ how = .continuing
      · rw [show c.settle task how = { c with
            tasks := ⟨.follow, task.applicationId⟩ :: c.tasks.erase task } from
          (if_pos htask).trans (if_pos hpull)]
        exact ⟨h.rows, h.wakes⟩
      · rw [settle_eq htask hpull]
        cases hwake : c.pendingWakes task.applicationId with
        | none => exact h.freed task
        | some stackName => exact (h.freed task).evaluateNow stackName
    · rw [show c.settle task how = c from if_neg htask]
      exact h

/-- A parked wake stays parked, is answered by an evaluation, or is dropped when the
slot of an application that is no longer eligible is released. -/
theorem wake_step (hnamed : Named nameOf c)
    (hwake : c.pendingWakes id ≠ none) (event : ControllerEvent) :
    (c.step event).pendingWakes id ≠ none ∨ c.Begins event id ∨
      (c.Releases event id ∧ ¬ c.db.Eligible id) := by
  cases event with
  | rows db => exact .inl hwake
  | tick now =>
    refine .inl ?_
    rw [show (c.step (.tick now)).pendingWakes = c.pendingWakes from (scan_kept now).1]
    exact hwake
  | evaluateNow stackName => exact .inl (evaluateNow_wakes stackName hwake)
  | requestFetch applicationId confirmation =>
    refine .inl ?_
    rw [show (c.step (.requestFetch applicationId confirmation)).pendingWakes =
      c.pendingWakes from (requestFetch_kept ..).1]
    exact hwake
  | settle task how =>
    by_cases htask : task ∈ c.tasks
    swap
    · refine .inl ?_
      rw [show c.step (.settle task how) = c from if_neg htask]
      exact hwake
    by_cases hpull : task.work = .pull ∧ how = .continuing
    · refine .inl ?_
      rw [show c.step (.settle task how) = { c with
          tasks := ⟨.follow, task.applicationId⟩ :: c.tasks.erase task } from
        (if_pos htask).trans (if_pos hpull)]
      exact hwake
    have hstep : c.step (.settle task how) = _ := settle_eq htask hpull
    by_cases hid : id = task.applicationId
    · subst hid
      by_cases helig : c.db.Eligible task.applicationId
      · refine .inr (.inl ?_)
        obtain ⟨stackName, hparked⟩ := Option.ne_none_iff_exists'.mp hwake
        have hfree : task.applicationId ∉ (c.freed task).inFlight := Finset.notMem_erase _ _
        have hclaimed := evaluateNow_eligible (c := c.freed task) hnamed.rows helig hfree
        rw [hnamed.wakes _ _ hparked] at hclaimed
        rw [hparked] at hstep
        unfold Controller.Begins
        rw [hstep]
        dsimp only
        rw [hclaimed]
        show count task.applicationId c.begun <
          count task.applicationId (task.applicationId :: c.begun)
        rw [count_cons_self]
        exact Nat.lt_succ_self _
      · exact .inr (.inr ⟨⟨task, how, rfl, htask, rfl, hpull⟩, helig⟩)
    · refine .inl ?_
      have hkept : (c.freed task).pendingWakes id ≠ none := by
        unfold freed
        dsimp only
        rw [update_of_ne hid]
        exact hwake
      rw [hstep]
      cases hother : c.pendingWakes task.applicationId with
      | none => exact hkept
      | some stackName => exact evaluateNow_wakes stackName hkept

/-- Some event of the run evaluates the application, or releases its slot when it is
no longer eligible. -/
def WakeAnswered (c : Controller) (id : String) (events : List ControllerEvent) : Prop :=
  ∃ before event after, events = before ++ event :: after ∧
    ((Runs.run Controller.step c before).Begins event id ∨
      ((Runs.run Controller.step c before).Releases event id ∧
        ¬ (Runs.run Controller.step c before).db.Eligible id))

theorem WakeAnswered.cons {events : List ControllerEvent}
    (h : WakeAnswered (c.step event) id events) : WakeAnswered c id (event :: events) := by
  obtain ⟨before, e, after, rfl, hanswer⟩ := h
  exact ⟨event :: before, e, after, rfl, hanswer⟩

theorem wake_run (hnamed : Named nameOf c) (hwake : c.pendingWakes id ≠ none)
    (events : List ControllerEvent) (hkeeps : ∀ e ∈ events, e.KeepsNames nameOf) :
    WakeAnswered c id events ∨ (Runs.run Controller.step c events).pendingWakes id ≠ none := by
  induction events generalizing c with
  | nil => exact .inr hwake
  | cons event events ih =>
    rcases wake_step hnamed hwake event with hparked | hanswer
    · rcases ih (named_step hnamed (hkeeps event (by simp))) hparked
        fun e he => hkeeps e (by simp [he]) with hanswered | hstill
      · exact .inl hanswered.cons
      · exact .inr hstill
    · exact .inl ⟨[], event, events, rfl, hanswer⟩

/-- What a run of the controller guarantees. -/
structure EvaluationsOwned (db : Db) (events : List ControllerEvent) : Prop where
  single : ((runController db events).tasks.map Task.applicationId).Nodup
  parked : ∀ id stackName, (runController db events).pendingWakes id = some stackName →
    ∃ t ∈ (runController db events).tasks, t.applicationId = id
  woken : ∀ before stackName after app, events = before ++ .evaluateNow stackName :: after →
    (runController db before).db.getLiveSourceApplication stackName = some app →
    app.sourcePolicy ≠ .manual → truthyAt app.suspendedAt = false →
    WakeAnswered (runController db before) app.id (.evaluateNow stackName :: after) ∨
      (runController db events).pendingWakes app.id ≠ none
  settled : (runController db events).tasks = [] → (runController db events).inFlight = ∅ ∧
      ∀ id, (runController db events).pendingWakes id = none

theorem named_run {db : Db} (hrows : SourcesNamed nameOf db) (events : List ControllerEvent)
    (hkeeps : ∀ e ∈ events, e.KeepsNames nameOf) : Named nameOf (runController db events) := by
  refine Runs.run_stable (P := fun _ => True) (Q := Named nameOf)
    (R := ControllerEvent.KeepsNames nameOf) (fun _ _ _ => trivial)
    (fun _ _ _ h hkeep => named_step h hkeep) trivial ⟨hrows, fun id stackName h => ?_⟩ hkeeps
  cases h

/-- An evaluation of an eligible application begins, or its wake is parked. -/
theorem evaluateNow_woken {stackName : String} {app : Application}
    (hfound : c.db.getLiveSourceApplication stackName = some app)
    (hpolicy : app.sourcePolicy ≠ .manual) (hlive : truthyAt app.suspendedAt = false) :
    c.Begins (.evaluateNow stackName) app.id ∨
      (c.step (.evaluateNow stackName)).pendingWakes app.id ≠ none := by
  have hkept : ¬(app.sourcePolicy = .manual ∨ truthyAt app.suspendedAt = true) := by
    simp [hpolicy, hlive]
  unfold Controller.Begins
  simp only [Controller.step, Controller.evaluateNow, hfound, if_neg hkept]
  by_cases hbusy : app.id ∈ c.inFlight
  · refine .inr ?_
    simp [hbusy]
  · refine .inl ?_
    rw [if_neg hbusy]
    show count app.id c.begun < count app.id (app.id :: c.begun)
    rw [count_cons_self]
    exact Nat.lt_succ_self _

/-- Every run in which an application keeps the stack of its source. -/
theorem evaluations_owned (nameOf : String → String) (db : Db) (events : List ControllerEvent)
    (hrows : SourcesNamed nameOf db) (hkeeps : ∀ e ∈ events, e.KeepsNames nameOf) :
    EvaluationsOwned db events where
  single := (oneOwner_run db events).single
  parked id stackName hwake :=
    ((oneOwner_run db events).owned id).mp ((oneOwner_run db events).parked id stackName hwake)
  woken := by
    rintro before stackName after app rfl hfound hpolicy hlive
    have hstep : runController db (before ++ .evaluateNow stackName :: after) =
        Runs.run Controller.step ((runController db before).step (.evaluateNow stackName)) after :=
      Runs.run_append ..
    rcases evaluateNow_woken hfound hpolicy hlive with hbegins | hparked
    · exact .inl ⟨[], _, after, rfl, .inl hbegins⟩
    · have hbefore := named_run hrows before fun e he => hkeeps e (by simp [he])
      have hnamed := named_step hbefore (hkeeps (.evaluateNow stackName) (by simp))
      rcases wake_run hnamed hparked after
        fun e he => hkeeps e (by simp [he]) with hanswered | hstill
      · exact .inl hanswered.cons
      · rw [hstep]
        exact .inr hstill
  settled hnone := by
    have howner := oneOwner_run db events
    have hfree : ∀ id, id ∉ (runController db events).inFlight := by
      intro id hid
      obtain ⟨t, ht, -⟩ := (howner.owned id).mp hid
      rw [hnone] at ht
      cases ht
    refine ⟨Finset.eq_empty_of_forall_notMem hfree, fun id => ?_⟩
    cases hwake : (runController db events).pendingWakes id with
    | none => rfl
    | some stackName => exact absurd (howner.parked id stackName hwake) (hfree id)

/-- One automatic source. -/
def automaticSource : Db :=
  { Db.empty with
    applications := ⟨[buildDirectApplicationRow "app" "web"
      ⟨some "https://git.example/web", none, some "main", none, none, some false, none,
        some "fingerprint"⟩ .active .automatic 1], by simp⟩ }

/-- A resume, a second one while the first still runs, and the end of the first. -/
def resumedTwice : List ControllerEvent :=
  [.evaluateNow "web", .evaluateNow "web", .settle ⟨.evaluation, "app"⟩ .rejected]

theorem resumedTwice_owned : (runController automaticSource resumedTwice).begun = ["app", "app"] ∧
      EvaluationsOwned automaticSource resumedTwice := by
  refine ⟨by decide, evaluations_owned (fun _ => "web") _ _ (fun stackName app h => ?_) ?_⟩
  · by_contra hname
    have hnone : automaticSource.getLiveSourceApplication stackName = none := by
      simp [automaticSource, Db.getLiveSourceApplication, Db.getLiveDirectApplication,
        Db.getLiveBlueprintApplicationBySourceStack, buildDirectApplicationRow,
        blankApplicationRow, hname]
    rw [hnone] at h
    cases h
  · simp [resumedTwice, ControllerEvent.KeepsNames]

end Sencho.GitOps
