import Sencho.Recovery.Fence

/-!
# No start lands on a fenced volume

Runs of the fence system take container starts, fence applications, fence
releases, other writes of the intent store and answers of the daemon in any
order.  `FenceEffect` says once what one step can do; two invariants are read
off from it: every start that was issued is answered or registered, and a fence
application that waits after its write waits for every start that was issued
before it.
-/

namespace Sencho.Recovery

open Verified List FenceSystem

/-- What one step of the system does. -/
inductive FenceEffect (s s' : FenceSystem) : Prop where
  | quiet (intents : s'.intents = s.intents) (issued : s'.issued = s.issued)
      (answered : ∀ n ∈ s.answered, n ∈ s'.answered)
      (flight : ∀ n ∈ s.startsInFlight.map (·.1), n ∈ s'.answered ∨ n ∈ s'.startsInFlight.map (·.1))
      (applications : s'.applications = s.applications)
  | issued (start : IssuedStart) (now : Int)
      (clear : fenceHit (liveFencedVolumeNames s.intents) start.mounted = none)
      (intents : s'.intents = s.intents) (issued : s'.issued = s.issued ++ [start])
      (answered : s'.answered = s.answered)
      (flight : s'.startsInFlight = s.startsInFlight ++ [(start.number, now)])
      (applications : s'.applications = s.applications)
  | stored (call : IntentCall) (keeps : call.keepsFence = true)
      (eq : s' = { s with intents := intentStep s.intents call })
  | lowered (intentId : String) (state : RestoreFenceState) (now : Int) (low : state ≠ .held)
      (intents : s'.intents = intentStep s.intents (.setFenceState intentId state now))
      (issued : s'.issued = s.issued) (answered : s'.answered = s.answered)
      (flight : s'.startsInFlight = s.startsInFlight)
      (applications : s'.applications = s.applications ∨ ∃ i app, s.applications[i]? = some app ∧
          s'.applications = s.applications.set i { app with stage := .ended })
  | entered (intentId : String) (members : List String) (now : Int) (intents : IntentTable)
      (ok : callIntents s.intents (.advance ⟨[], []⟩ intentId .fenced .empty now) = .ok intents)
      (eq : s' = { s with
          intents := intentStep intents (.setFenceState intentId .held now)
          applications := s.applications ++ [⟨intentId, members,
              .draining (waitForStartsInFlight s.startsInFlight now)⟩] })
  | staged (i : Nat) (app : Application) (stage : ApplicationStage)
      (found : s.applications[i]? = some app)
      (quiet : ∀ drain, stage ≠ .applying drain)
      (stops : ∀ calls, stage = .stopping calls → (∃ before, app.stage = .stopping before) ∨
        ∃ drain capped, app.stage = .applying drain ∧ drain.result s.answered capped = some true)
      (eq : s' = s.setStage i app stage)
  | applied (i : Nat) (app : Application) (now : Int) (found : s.applications[i]? = some app)
      (eq : s' = (s.setFenceState app.intentId .held now).setStage i app
        (.applying (waitForStartsInFlight s.startsInFlight now)))

section Effects

variable {s : FenceSystem}
variable {app : Application} {i : Nat} (mounts : String → List Mount)

theorem FenceEffect.refl (s : FenceSystem) : FenceEffect s s :=
  .quiet rfl rfl (fun _ h => h) (fun _ h => .inr h) rfl

/-- A start whose mounts no fence refuses. -/
theorem FenceEffect.of_issue {s₀ : FenceSystem} {mounted : List String}
    (hclear : fenceHit (liveFencedVolumeNames s.intents) mounted = none)
    (hsame : s₀ = { s with inspections := s₀.inspections }) (throws : Bool) (now : Int) :
    FenceEffect s (s₀.issue mounted throws now) := by
  have hintents : s₀.intents = s.intents := by rw [hsame]
  have hissued : s₀.issued = s.issued := by rw [hsame]
  have hanswered : s₀.answered = s.answered := by rw [hsame]
  have hfl : s₀.startsInFlight = s.startsInFlight := by rw [hsame]
  have happs : s₀.applications = s.applications := by rw [hsame]
  cases throws with
  | true =>
    refine .quiet hintents hissued (fun n hn => ?_) (fun n hn => ?_) happs
    · exact hanswered.symm ▸ hn
    · exact .inr (hfl.symm ▸ hn)
  | false =>
    refine .issued ⟨s₀.issued.length, mounted⟩ now hclear hintents ?_ hanswered ?_ happs
    · rw [← hissued]
      rfl
    · rw [← hfl]
      rfl

theorem FenceEffect.of_startUnderFence {s₀ : FenceSystem} {names mounted : List String}
    (hsub : fenceHit (liveFencedVolumeNames s.intents) names = none →
      fenceHit (liveFencedVolumeNames s.intents) mounted = none)
    (hsame : s₀ = { s with inspections := s₀.inspections }) (throws : Bool) (now : Int) :
    FenceEffect s (s₀.startUnderFence names mounted throws now) := by
  have hintents : s₀.intents = s.intents := by rw [hsame]
  unfold startUnderFence
  rw [hintents]
  split
  · rw [hsame]
    exact .quiet rfl rfl (fun _ h => h) (fun _ h => .inr h) rfl
  · rename_i hclear
    exact .of_issue (hsub hclear) hsame throws now

theorem fenceHit_nil (fenced : List String) : fenceHit fenced [] = none := rfl

theorem fenceHit_of_no_fence {fenced : List String} (h : fenced.length = 0)
    (names : List String) : fenceHit fenced names = none := by
  have hfind : names.find? (fun name => ([] : List String).contains name) = none :=
    find?_eq_none.mpr (by simp)
  rw [eq_nil_of_length_eq_zero h, fenceHit, hfind]
  rfl

theorem fenceHit_mountedBy (s : FenceSystem) (containerId : String) {fenced : List String}
    (h : fenceHit fenced (volumeNames (mounts containerId)) = none) :
    fenceHit fenced (s.mountedBy mounts containerId) = none := by
  unfold mountedBy
  split
  · exact fenceHit_nil fenced
  · exact h

theorem FenceEffect.of_startContainer (containerId : String) (throws : Bool) (now : Int) :
    FenceEffect s (s.startContainerUnderFence mounts containerId throws now) := by
  unfold startContainerUnderFence
  split
  · rename_i hnone
    exact .of_startUnderFence (fun _ => fenceHit_of_no_fence hnone _) rfl throws now
  · exact .quiet rfl rfl (fun _ h => h) (fun _ h => .inr h) rfl

theorem FenceEffect.of_inspected (i : Nat) (answer : Inspection) (throws : Bool) (now : Int) :
    FenceEffect s (s.inspected mounts i answer throws now) := by
  unfold inspected
  cases hi : s.inspections[i]? with
  | none => exact .refl s
  | some containerId =>
    cases answer with
    | failed => exact .quiet rfl rfl (fun _ h => h) (fun _ h => .inr h) rfl
    | notFound =>
      by_cases hgone : s.gone.contains containerId = true
      · simp only [hgone, if_true]
        refine .of_startUnderFence (fun _ => ?_) rfl throws now
        rw [mountedBy, if_pos hgone]
        exact fenceHit_nil _
      · simp only [hgone]
        exact .refl s
    | found =>
      exact .of_startUnderFence (fenceHit_mountedBy mounts s containerId) rfl throws now

theorem FenceEffect.of_fenceWorkloads (intentId : String) (members : List String)
    (now : Int) : FenceEffect s (s.fenceWorkloads intentId members now) := by
  unfold fenceWorkloads
  cases h : callIntents s.intents (.advance ⟨[], []⟩ intentId .fenced .empty now) with
  | error e => exact .refl s
  | ok intents => exact .entered intentId members now intents h rfl

section

variable (hfound : s.applications[i]? = some app)
include hfound

theorem FenceEffect.of_drained (drain : Drain) (capped : Bool) (now : Int) :
    FenceEffect s (s.drained i app drain capped now) := by
  unfold drained
  split
  · exact .refl s
  · exact .lowered app.intentId .none now (by simp) rfl rfl rfl rfl (.inr ⟨i, app, hfound, rfl⟩)
  · exact .staged i app .listing hfound (by simp) (by simp) rfl

theorem FenceEffect.of_listed (current : Option (List String)) (now : Int) :
    FenceEffect s (s.listed i app current now) := by
  unfold listed
  cases current with
  | none => exact .staged i app .ended hfound (by simp) (by simp) rfl
  | some current =>
    dsimp only
    split
    · exact .lowered app.intentId .none now (by simp) rfl rfl rfl rfl (.inr ⟨i, app, hfound, rfl⟩)
    · exact .applied i app now hfound rfl

theorem FenceEffect.of_applyDrained {drain : Drain} (hstage : app.stage = .applying drain)
    (capped : Bool) : FenceEffect s (s.applyDrained i app drain capped) := by
  unfold applyDrained
  split
  · exact .refl s
  · exact .staged i app .ended hfound (by simp) (by simp) rfl
  · rename_i hresult
    refine .staged i app _ hfound (by simp) (fun calls _ => ?_) rfl
    exact .inr ⟨drain, capped, hstage, hresult⟩

theorem FenceEffect.of_fenceCall {calls : List FenceCall} (hstage : app.stage = .stopping calls)
    (ok : Bool) : FenceEffect s (s.fenceCall i app ok calls) := by
  cases calls with
  | nil => exact .refl s
  | cons call rest =>
    refine .staged i app (if ok then .stopping rest else .ended) hfound ?_ ?_ rfl
    · intro drain
      cases ok <;> simp
    · intro calls' _
      exact .inl ⟨call :: rest, hstage⟩

end

/-- What one step does. -/
theorem fence_effect (s : FenceSystem) (a : FenceAction) :
    FenceEffect s (fenceStep mounts s a) := by
  cases a with
  | startUnderFence names throws now =>
    exact .of_startUnderFence (fun h => h) rfl throws now
  | startContainerUnderFence containerId throws now =>
    exact .of_startContainer mounts containerId throws now
  | inspected i answer throws now => exact .of_inspected mounts i answer throws now
  | answered number =>
    simp only [fenceStep]
    split
    · exact .quiet rfl rfl (fun n hn => mem_cons_of_mem _ hn) (fun n hn => .inr hn) rfl
    · exact .refl s
  | forgotten number =>
    simp only [fenceStep]
    split
    · rename_i hanswered
      refine .quiet rfl rfl (fun n hn => hn) (fun n hn => ?_) rfl
      by_cases hn' : n = number
      · exact .inl (by simpa [hn'] using hanswered)
      · obtain ⟨start, hmem, rfl⟩ := mem_map.mp hn
        refine .inr (mem_map.mpr ⟨start, ?_, rfl⟩)
        exact mem_filter.mpr ⟨hmem, by simpa using hn'⟩
    · exact .refl s
  | removed containerId => exact .quiet rfl rfl (fun _ h => h) (fun _ h => .inr h) rfl
  | store call =>
    simp only [fenceStep]
    split
    · rename_i hkeeps
      exact .stored call hkeeps rfl
    · exact .refl s
  | fenceWorkloads intentId members now =>
    exact .of_fenceWorkloads intentId members now
  | drained i capped now =>
    simp only [fenceStep]
    split
    · rename_i app hfound
      split
      · exact .of_drained hfound _ capped now
      · exact .refl s
    · exact .refl s
  | listed i current now =>
    simp only [fenceStep]
    split
    · rename_i app hfound
      split
      · exact .of_listed hfound current now
      · exact .refl s
    · exact .refl s
  | applyDrained i capped =>
    simp only [fenceStep]
    split
    · rename_i app hfound
      split
      · rename_i hstage
        exact .of_applyDrained hfound hstage capped
      · exact .refl s
    · exact .refl s
  | fenceCall i ok =>
    simp only [fenceStep]
    split
    · rename_i app hfound
      split
      · rename_i hstage
        exact .of_fenceCall hfound hstage ok
      · exact .refl s
    · exact .refl s
  | releaseRestoreFence intentId members =>
    exact .quiet rfl rfl (fun _ h => h) (fun _ h => .inr h) rfl
  | releasedMember i answer =>
    simp only [fenceStep, releasedMember]
    split
    · exact .quiet rfl rfl (fun _ h => h) (fun _ h => .inr h) rfl
    · exact .refl s
  | releaseEnded i now =>
    simp only [fenceStep, releaseEnded]
    split
    · rename_i intentId failed _
      refine .lowered intentId (if failed then .releaseFailed else .released) now ?_
        rfl rfl rfl rfl (.inl rfl)
      cases failed <;> simp
    · exact .refl s

end Effects

/-- Every intent of the first table is in the second, with its mode and target
and at least as far along. -/
def IntentsGrow (t t' : IntentTable) : Prop :=
  ∀ id row, t.find? id = some row → ∃ row', t'.find? id = some row' ∧
    row'.targetMode = row.targetMode ∧ row.phase.rank ≤ row'.phase.rank

/-- No intent has an empty target. -/
def TargetsNamed (t : IntentTable) : Prop :=
  ∀ id row, t.find? id = some row → row.targetVolume ≠ some ""

theorem IntentsGrow.refl (t : IntentTable) : IntentsGrow t t :=
  fun _ row h => ⟨row, h, rfl, .refl⟩

variable {app : Application} {now : Int} {row : IntentRow} {t : IntentTable}
  {apps : List Application} {early : List IssuedStart} {intentId : String}
  (mounts : String → List Mount)

theorem IntentsGrow.trans {t' t'' : IntentTable} (h : IntentsGrow t t') (h' : IntentsGrow t' t'') :
    IntentsGrow t t'' := by
  intro id row hrow
  obtain ⟨row', hrow', hmode, hrank⟩ := h id row hrow
  obtain ⟨row'', hrow'', hmode', hrank'⟩ := h' id row' hrow'
  exact ⟨row'', hrow'', hmode'.trans hmode, Nat.le_trans hrank hrank'⟩

theorem IntentsGrow.step (t : IntentTable) (c : IntentCall) : IntentsGrow t (intentStep t c) := by
  intro id row hrow
  cases intent_fate t c id with
  | absent before | inserted row' before => rw [hrow] at before; cases before
  | kept r row' before after phase mode =>
    rw [hrow] at before
    cases before
    exact ⟨row', after, mode, by rw [phase]⟩
  | advanced r row' parents extra now call before after allowed _ _ mode =>
    rw [hrow] at before
    cases before
    exact ⟨row', after, mode, rank_le_of_allowed allowed⟩

theorem TargetsNamed.step (h : TargetsNamed t) (c : IntentCall) :
    TargetsNamed (intentStep t c) := by
  intro id row hrow
  cases intent_fate t c id with
  | absent before after => rw [hrow] at after; cases after
  | inserted row' before after phase key free named =>
    rw [hrow] at after
    cases after
    exact named
  | kept r row' before after phase mode target
  | advanced r row' parents extra now call before after allowed _ _ mode target =>
    rw [hrow] at after
    cases after
    rw [target]
    exact h id r before

/-- The intent that entered the fenced phase was verified, is an overwrite and
is further along now. -/
theorem entered_row {t' : IntentTable}
    (h : callIntents t (.advance ⟨[], []⟩ intentId .fenced .empty now) = .ok t') :
    t' = intentStep t (.advance ⟨[], []⟩ intentId .fenced .empty now) ∧
      (∃ row, t.find? intentId = some row ∧ row.phase.rank = 2) ∧
      ∃ row', t'.find? intentId = some row' ∧ row'.targetMode = .stagedOverwrite ∧
        row'.phase.rank = 3 := by
  have hstep : t' = intentStep t (.advance ⟨[], []⟩ intentId .fenced .empty now) := by
    rw [intentStep, h]
  obtain ⟨row, hrow, hallowed, hmode, -, hset⟩ := advance_ok h
  have hph : row.phase = .stagedVerified := by
    cases hp : row.phase <;> simp [hp, allowedTransitions] at hallowed
    rfl
  have hover : row.targetMode = .stagedOverwrite := by
    by_contra hne
    exact hmode hne (by simp [restoreOverwritePhases])
  refine ⟨hstep, ⟨row, hrow, by rw [hph]; rfl⟩, ?_⟩
  rw [hset]
  exact ⟨_, find?_set_self _ _ hrow, hover, rfl⟩

/-! ### The fence column -/

/-- A call that does not write the fence of an intent leaves it as it was. -/
theorem held_before {c : IntentCall} {id : String}
    (hother : ∀ state now, c ≠ .setFenceState id state now)
    (hrow : (intentStep t c).find? id = some row) (hheld : row.fenceState = .held) :
    ∃ row', t.find? id = some row' ∧ row'.fenceState = .held := by
  cases intent_fate t c id with
  | absent before after => rw [hrow] at after; cases after
  | inserted row' before after phase key free named fence =>
    rw [hrow] at after
    cases after
    rw [hheld] at fence
    cases fence
  | kept r row' before after phase mode target fence =>
    rw [hrow] at after
    cases after
    exact ⟨r, before, by rw [← fence hother]; exact hheld⟩
  | advanced r row' parents extra now call before after _ _ _ _ _ fence =>
    rw [hrow] at after
    cases after
    exact ⟨r, before, by rw [← fence]; exact hheld⟩

theorem fenceState_of_set {id : String} {state : RestoreFenceState}
    (hrow : (intentStep t (.setFenceState id state now)).find? id = some row) :
    row.fenceState = state := by
  cases hold : t.find? id with
  | none =>
    have hreq : t.require id = .error (.recovery .invalidRequest) := by
      rw [IntentTable.require, hold]
    simp only [intentStep, callIntents, RestoreIntentStore.setFenceState, hreq, bind,
      Except.bind, hold] at hrow
    cases hrow
  | some old =>
    have hreq : t.require id = .ok old := by
      rw [IntentTable.require, hold]
    simp only [intentStep, callIntents, RestoreIntentStore.setFenceState, hreq, bind,
      Except.bind] at hrow
    rw [find?_set_self _ _ hold] at hrow
    cases hrow
    rfl

/-- Every start is answered or registered, every application is that of an
overwrite past `stagedVerified`, and no intent has two. -/
structure FenceInv (s : FenceSystem) : Prop where
  tracked : ∀ start ∈ s.issued, start.number ∈ s.answered ∨
    start.number ∈ s.startsInFlight.map (·.1)
  named : TargetsNamed s.intents
  fenced : ∀ (i : Nat) (app : Application), s.applications[i]? = some app → ∃ row,
    s.intents.find? app.intentId = some row ∧ row.targetMode = .stagedOverwrite ∧ 3 ≤ row.phase.rank
  unique : ∀ (i j : Nat) (app app' : Application), s.applications[i]? = some app →
    s.applications[j]? = some app' → app.intentId = app'.intentId → i = j

/-- The applications of a state after one of them changed its stage. -/
theorem getElem?_setStage {i j : Nat} {app' : Application} {stage : ApplicationStage}
    (hfound : apps[i]? = some app) (h : (apps.set i { app with stage })[j]? = some app') :
    ∃ old, apps[j]? = some old ∧ old.intentId = app'.intentId ∧
      ((j ≠ i ∧ app' = old) ∨ (j = i ∧ old = app ∧ app' = { app with stage })) := by
  by_cases hj : j = i
  · subst hj
    have hlt : j < apps.length := by
      have := List.getElem?_eq_some_iff.mp hfound
      exact this.1
    rw [getElem?_set_self hlt] at h
    cases h
    exact ⟨app, hfound, rfl, .inr ⟨rfl, rfl, rfl⟩⟩
  · rw [getElem?_set_ne (Ne.symm hj)] at h
    exact ⟨app', h, rfl, .inl ⟨hj, rfl⟩⟩

/-- Each application was there before, at its place and for its intent. -/
def AppsFrom (apps apps' : List Application) : Prop :=
  ∀ (j : Nat) (app' : Application), apps'[j]? = some app' →
    ∃ old, apps[j]? = some old ∧ old.intentId = app'.intentId

theorem AppsFrom.of_eq {apps' : List Application} (h : apps' = apps) : AppsFrom apps apps' :=
  fun _ app' hj => ⟨app', h ▸ hj, rfl⟩

theorem AppsFrom.of_set {i : Nat} (hfound : apps[i]? = some app) (stage : ApplicationStage) :
    AppsFrom apps (apps.set i { app with stage }) := by
  intro j app' hj
  obtain ⟨old, hold, hid, -⟩ := getElem?_setStage hfound hj
  exact ⟨old, hold, hid⟩

theorem FenceInv.of_apps {s s' : FenceSystem} (h : FenceInv s)
    (htracked : ∀ start ∈ s'.issued, start.number ∈ s'.answered ∨
      start.number ∈ s'.startsInFlight.map (·.1))
    (hnamed : TargetsNamed s'.intents) (hgrow : IntentsGrow s.intents s'.intents)
    (hfrom : AppsFrom s.applications s'.applications) : FenceInv s' := by
  refine ⟨htracked, hnamed, ?_, ?_⟩
  · intro i app happ
    obtain ⟨old, hold, hid⟩ := hfrom i app happ
    obtain ⟨row, hrow, hmode, hrank⟩ := h.fenced i old hold
    obtain ⟨row', hrow', hmode', hrank'⟩ := hgrow _ row hrow
    rw [hid] at hrow'
    exact ⟨row', hrow', hmode'.trans hmode, Nat.le_trans hrank hrank'⟩
  · intro i j app app' happ happ' heq
    obtain ⟨old, hold, hid⟩ := hfrom i app happ
    obtain ⟨old', hold', hid'⟩ := hfrom j app' happ'
    exact h.unique i j old old' hold hold' (hid.trans (heq.trans hid'.symm))

/-- The applications after a new one was added. -/
theorem getElem?_concat_cases {new : Application} {j : Nat} (h : (apps ++ [new])[j]? = some app) :
    apps[j]? = some app ∨ (j = apps.length ∧ app = new) := by
  by_cases hlt : j < apps.length
  · rw [getElem?_append_left hlt] at h
    exact .inl h
  · rw [getElem?_append_right (Nat.not_lt.mp hlt)] at h
    have hj : j - apps.length = 0 := by
      have := (List.getElem?_eq_some_iff.mp h).1
      simp only [length_singleton] at this
      omega
    rw [hj] at h
    cases h
    exact .inr ⟨by omega, rfl⟩

/-- An intent that enters the fenced phase has no application yet. -/
theorem FenceInv.no_application {s : FenceSystem} (h : FenceInv s)
    (hrow : s.intents.find? intentId = some row) (hrank : row.phase.rank = 2) (i : Nat)
    (app : Application) (happ : s.applications[i]? = some app) : app.intentId ≠ intentId := by
  intro hid
  obtain ⟨row', hrow', -, hrank'⟩ := h.fenced i app happ
  rw [hid, hrow] at hrow'
  cases hrow'
  omega

theorem FenceInv.step (s : FenceSystem) (a : FenceAction) (h : FenceInv s) :
    FenceInv (fenceStep mounts s a) := by
  cases fence_effect mounts s a with
  | quiet intents issued answered flight applications =>
    refine h.of_apps ?_ (intents.symm ▸ h.named) (intents.symm ▸ .refl _) (.of_eq applications)
    intro start hstart
    rw [issued] at hstart
    rcases h.tracked start hstart with hn | hn
    · exact .inl (answered _ hn)
    · exact flight _ hn
  | issued start now clear intents issued answered flight applications =>
    refine h.of_apps ?_ (intents.symm ▸ h.named) (intents.symm ▸ .refl _) (.of_eq applications)
    intro start' hstart
    rw [issued] at hstart
    rw [answered, flight]
    rcases mem_append.mp hstart with hold | hnew
    · rcases h.tracked start' hold with hn | hn
      · exact .inl hn
      · exact .inr (by simpa using .inl (by simpa using hn))
    · rw [mem_singleton.mp hnew]
      exact .inr (by simp)
  | stored call keeps eq =>
    rw [eq]
    exact h.of_apps h.tracked (h.named.step call) (.step _ call) (.of_eq rfl)
  | lowered intentId state now low intents issued answered flight applications =>
    refine h.of_apps ?_ (intents.symm ▸ h.named.step _) (intents.symm ▸ .step _ _) ?_
    · rw [issued, answered, flight]
      exact h.tracked
    · rcases applications with happs | ⟨i, app, hfound, happs⟩
      · exact .of_eq happs
      · rw [happs]
        exact .of_set hfound .ended
  | entered intentId members now intents ok eq =>
    obtain ⟨hstep, ⟨row, hrow, hrank⟩, row', hrow', hmode, hrank'⟩ := entered_row ok
    have hgrow : IntentsGrow s.intents
        (intentStep intents (.setFenceState intentId .held now)) := by
      have hfirst : IntentsGrow s.intents intents := by
        rw [hstep]
        exact .step _ _
      exact hfirst.trans (.step _ _)
    have hnamed : TargetsNamed (intentStep intents (.setFenceState intentId .held now)) := by
      have hfirst : TargetsNamed intents := by
        rw [hstep]
        exact h.named.step _
      exact hfirst.step _
    rw [eq]
    refine ⟨h.tracked, hnamed, ?_, ?_⟩
    · intro i app happ
      rcases getElem?_concat_cases happ with hold | ⟨-, rfl⟩
      · obtain ⟨r, hr, hm, hk⟩ := h.fenced i app hold
        obtain ⟨r', hr', hm', hk'⟩ := hgrow _ r hr
        exact ⟨r', hr', hm'.trans hm, Nat.le_trans hk hk'⟩
      · obtain ⟨r', hr', hm', hk'⟩ := IntentsGrow.step intents
          (.setFenceState intentId .held now) intentId row' hrow'
        exact ⟨r', hr', hm'.trans hmode, hrank' ▸ hk'⟩
    · intro i j app app' happ happ' hid
      have hnone := h.no_application hrow hrank
      rcases getElem?_concat_cases happ with hold | ⟨hi, rfl⟩ <;>
        rcases getElem?_concat_cases happ' with hold' | ⟨hj, rfl⟩
      · exact h.unique i j app app' hold hold' hid
      · exact absurd hid (hnone i app hold)
      · exact absurd hid.symm (hnone j app' hold')
      · exact hi.trans hj.symm
  | staged i app stage found quiet stops eq =>
    rw [eq]
    exact h.of_apps h.tracked h.named (.refl _) (.of_set found stage)
  | applied i app now found eq =>
    rw [eq]
    exact h.of_apps h.tracked (h.named.step _) (.step _ _) (.of_set found _)

theorem FenceInv.run (acts : List FenceAction) : FenceInv (fenceRun mounts acts) := by
  refine Runs.run_invariant (FenceInv.step mounts) ⟨?_, ?_, ?_, ?_⟩ acts
  · intro start hstart
    cases hstart
  · intro id row hrow
    cases hrow
  · intro i app happ
    simp [empty] at happ
  · intro i j app app' happ
    simp [empty] at happ

/-- The application of an intent waits for the starts `early`, or it has seen
all of them answered. -/
structure Catches (early : List IssuedStart) (intentId : String) (s : FenceSystem) : Prop where
  issued : ∀ start ∈ early, start ∈ s.issued
  applying : ∀ (i : Nat) (app : Application) (pending : List Nat),
    s.applications[i]? = some app → app.intentId = intentId →
    app.stage = .applying (.waiting pending) →
    ∀ start ∈ early, start.number ∈ s.answered ∨ start.number ∈ pending
  stopping : ∀ (i : Nat) (app : Application) (calls : List FenceCall),
    s.applications[i]? = some app → app.intentId = intentId →
    app.stage = .stopping calls → ∀ start ∈ early, start.number ∈ s.answered

/-- A wait that succeeded has seen its starts answered. -/
theorem Drain.answered_of_result {answered : List Nat} {capped : Bool} {drain : Drain}
    (h : drain.result answered capped = some true) :
    ∃ pending, drain = .waiting pending ∧ ∀ n ∈ pending, n ∈ answered := by
  cases drain with
  | refused => cases h
  | waiting pending =>
    refine ⟨pending, rfl, ?_⟩
    cases pending with
    | nil =>
      intro n hn
      cases hn
    | cons m rest =>
      simp only [Drain.result] at h
      split at h
      · cases h
      · split at h
        · rename_i hall
          intro n hn
          simpa using all_eq_true.mp hall n hn
        · cases h

theorem waiting_of_wait {flight : List (Nat × Int)} {pending : List Nat}
    (h : waitForStartsInFlight flight now = .waiting pending) : pending = flight.map (·.1) := by
  unfold waitForStartsInFlight at h
  split at h
  · cases h
  · cases h
    rfl

section

variable {s : FenceSystem} (h : Catches early intentId s)
include h

/-- Nothing but new answers happened to the applications. -/
theorem Catches.of_same {s' : FenceSystem} (hissued : ∀ start ∈ s.issued, start ∈ s'.issued)
    (hanswered : ∀ n ∈ s.answered, n ∈ s'.answered) (happs : s'.applications = s.applications) :
    Catches early intentId s' := by
  refine ⟨fun start hs => hissued start (h.issued start hs), ?_, ?_⟩
  · intro i app pending happ hid hstage start hs
    rw [happs] at happ
    rcases h.applying i app pending happ hid hstage start hs with hn | hn
    · exact .inl (hanswered _ hn)
    · exact .inr hn
  · intro i app calls happ hid hstage start hs
    rw [happs] at happ
    exact hanswered _ (h.stopping i app calls happ hid hstage start hs)

/-- One application changed its stage. -/
theorem Catches.of_stage {s' : FenceSystem} {i : Nat} {stage : ApplicationStage}
    (hfound : s.applications[i]? = some app) (hissued : s'.issued = s.issued)
    (hanswered : s'.answered = s.answered)
    (happs : s'.applications = s.applications.set i { app with stage })
    (hwait : app.intentId = intentId → ∀ pending, stage = .applying (.waiting pending) →
      ∀ start ∈ early, start.number ∈ s.answered ∨ start.number ∈ pending)
    (hstop : app.intentId = intentId → ∀ calls, stage = .stopping calls →
      ∀ start ∈ early, start.number ∈ s.answered) : Catches early intentId s' := by
  refine ⟨fun start hs => hissued.symm ▸ h.issued start hs, ?_, ?_⟩
  · intro j app' pending happ hid hstage start hs
    rw [happs] at happ
    rw [hanswered]
    obtain ⟨old, hold, hoid, ⟨-, rfl⟩ | ⟨rfl, rfl, rfl⟩⟩ := getElem?_setStage hfound happ
    · exact h.applying j app' pending hold hid hstage start hs
    · exact hwait hid pending hstage start hs
  · intro j app' calls happ hid hstage start hs
    rw [happs] at happ
    rw [hanswered]
    obtain ⟨old, hold, hoid, ⟨-, rfl⟩ | ⟨rfl, rfl, rfl⟩⟩ := getElem?_setStage hfound happ
    · exact h.stopping j app' calls hold hid hstage start hs
    · exact hstop hid calls hstage start hs

theorem Catches.of_concat {s' : FenceSystem} {new : Application} {drain : Drain}
    (hissued : s'.issued = s.issued) (hanswered : s'.answered = s.answered)
    (happs : s'.applications = s.applications ++ [new]) (hnew : new.stage = .draining drain) :
    Catches early intentId s' := by
  refine ⟨fun start hs => hissued.symm ▸ h.issued start hs, ?_, ?_⟩
  · intro j app pending happ hid hstage start hs
    rw [happs] at happ
    rw [hanswered]
    rcases getElem?_concat_cases happ with hold | ⟨-, rfl⟩
    · exact h.applying j app pending hold hid hstage start hs
    · rw [hnew] at hstage
      cases hstage
  · intro j app calls happ hid hstage start hs
    rw [happs] at happ
    rw [hanswered]
    rcases getElem?_concat_cases happ with hold | ⟨-, rfl⟩
    · exact h.stopping j app calls hold hid hstage start hs
    · rw [hnew] at hstage
      cases hstage

end

theorem Catches.step (s : FenceSystem) (a : FenceAction) (hinv : FenceInv s)
    (h : Catches early intentId s) : Catches early intentId (fenceStep mounts s a) := by
  cases fence_effect mounts s a with
  | quiet intents issued answered flight applications =>
    exact h.of_same (fun start hs => issued.symm ▸ hs) answered applications
  | issued start now clear intents issued answered flight applications =>
    refine h.of_same (fun start' hs => ?_) (fun n hn => answered.symm ▸ hn) applications
    rw [issued]
    exact mem_append_left _ hs
  | stored call keeps eq =>
    rw [eq]
    exact h.of_same (fun _ hs => hs) (fun _ hn => hn) rfl
  | lowered id state now low intents issued answered flight applications =>
    rcases applications with happs | ⟨i, app, hfound, happs⟩
    · exact h.of_same (fun _ hs => issued.symm ▸ hs) (fun _ hn => answered.symm ▸ hn) happs
    · exact h.of_stage hfound issued answered happs (fun _ _ hs => by cases hs)
        (fun _ _ hs => by cases hs)
  | entered id members now intents ok eq =>
    rw [eq]
    exact h.of_concat rfl rfl rfl rfl
  | staged i app stage found quiet stops eq =>
    rw [eq]
    refine h.of_stage found rfl rfl rfl (fun _ pending hs => ?_) ?_
    · exact absurd hs (quiet _)
    · intro hid calls hs start hstart
      rcases stops calls hs with ⟨before, hbefore⟩ | ⟨drain, capped, hstage, hresult⟩
      · exact h.stopping i app before found hid hbefore start hstart
      · obtain ⟨pending, rfl, hall⟩ := Drain.answered_of_result hresult
        rcases h.applying i app pending found hid hstage start hstart with hn | hn
        · exact hn
        · exact hall _ hn
  | applied i app now found eq =>
    rw [eq]
    refine h.of_stage found rfl rfl rfl (fun _ pending hs start hstart => ?_)
      (fun _ _ hs => by cases hs)
    rw [waiting_of_wait (ApplicationStage.applying.inj hs)]
    exact hinv.tracked start (h.issued start hstart)

/-- The step that makes a fence held leaves its application, if it waits already,
waiting for every start issued before. -/
theorem Catches.of_held {s : FenceSystem} {a : FenceAction} (hinv : FenceInv s)
    (hbefore : ¬ s.Held intentId) (hafter : (fenceStep mounts s a).Held intentId) :
    Catches s.issued intentId (fenceStep mounts s a) := by
  obtain ⟨row, hrow, hheld⟩ := hafter
  have hlower : ∀ {c : IntentCall}, (fenceStep mounts s a).intents =
      intentStep s.intents c → (∀ state now, c ≠ .setFenceState intentId state now) →
      False := by
    intro c hc hother
    rw [hc] at hrow
    exact hbefore (held_before hother hrow hheld)
  cases heff : fence_effect mounts s a with
  | quiet intents | issued start now clear intents =>
    rw [intents] at hrow
    exact absurd ⟨row, hrow, hheld⟩ hbefore
  | stored call keeps eq =>
    refine absurd (hlower (c := call) (by rw [eq]) ?_) not_false
    rintro state now rfl
    cases keeps
  | lowered id state now low intents =>
    by_cases hid : id = intentId
    · subst hid
      rw [intents] at hrow
      exact absurd ((fenceState_of_set hrow).symm.trans hheld) low
    · refine absurd (hlower intents ?_) not_false
      rintro state' now' hc
      exact hid (by cases hc; rfl)
  | entered id members now intents ok eq =>
    obtain ⟨hstep, ⟨r, hr, hrank⟩, -⟩ := entered_row ok
    by_cases hid : id = intentId
    · subst hid
      have hnone := hinv.no_application hr hrank
      rw [eq]
      refine ⟨fun start hs => hs, ?_, ?_⟩
      · intro j app pending happ hid hstage
        rcases getElem?_concat_cases happ with hold | ⟨-, rfl⟩
        · exact absurd hid (hnone j app hold)
        · cases hstage
      · intro j app calls happ hid hstage
        rcases getElem?_concat_cases happ with hold | ⟨-, rfl⟩
        · exact absurd hid (hnone j app hold)
        · cases hstage
    · rw [eq] at hrow
      have hne : ∀ state now', IntentCall.setFenceState id .held now ≠
          .setFenceState intentId state now' := by
        rintro state now' hc
        exact hid (by cases hc; rfl)
      obtain ⟨r', hr', hheld'⟩ := held_before hne hrow hheld
      rw [hstep] at hr'
      exact absurd (held_before (by simp) hr' hheld') hbefore
  | staged i app stage found quiet stops eq =>
    rw [eq] at hrow
    exact absurd ⟨row, hrow, hheld⟩ hbefore
  | applied i app now found eq =>
    by_cases hid : app.intentId = intentId
    · rw [eq]
      refine ⟨fun start hs => hs, ?_, ?_⟩
      · intro j app' pending happ hid' hstage start hs
        obtain ⟨old, hold, hoid, ⟨hne, rfl⟩ | ⟨rfl, rfl, rfl⟩⟩ :=
          getElem?_setStage found happ
        · exact absurd (hinv.unique j i app' app hold found (hid'.trans hid.symm)) hne
        · rw [waiting_of_wait (ApplicationStage.applying.inj hstage)]
          exact hinv.tracked start hs
      · intro j app' calls happ hid' hstage
        obtain ⟨old, hold, hoid, ⟨hne, rfl⟩ | ⟨rfl, rfl, rfl⟩⟩ :=
          getElem?_setStage found happ
        · exact absurd (hinv.unique j i app' app hold found (hid'.trans hid.symm)) hne
        · cases hstage
    · refine absurd (hlower (by rw [eq]; rfl) ?_) not_false
      rintro state' now' hc
      exact hid (by cases hc; rfl)

theorem AppsFrom.persist {s : FenceSystem} (a : FenceAction)
    (h : ∃ (i : Nat) (app : Application), s.applications[i]? = some app ∧ app.intentId = intentId) :
    ∃ (i : Nat) (app : Application), (fenceStep mounts s a).applications[i]? = some app ∧
      app.intentId = intentId := by
  obtain ⟨i, app, happ, hid⟩ := h
  have hset : ∀ {j : Nat} {app' : Application} (stage : ApplicationStage),
      s.applications[j]? = some app' →
      ∃ (i : Nat) (new : Application), (s.applications.set j { app' with stage })[i]? = some new ∧
          new.intentId = intentId := by
    intro j app' stage hfound
    by_cases hj : i = j
    · subst hj
      rw [happ] at hfound
      cases hfound
      have hlt := (List.getElem?_eq_some_iff.mp happ).1
      exact ⟨i, { app with stage }, getElem?_set_self hlt, hid⟩
    · exact ⟨i, app, by rw [getElem?_set_ne (Ne.symm hj)]; exact happ, hid⟩
  cases fence_effect mounts s a with
  | quiet intents issued answered flight applications
  | issued start now clear intents issued answered flight applications =>
    exact ⟨i, app, by rw [applications]; exact happ, hid⟩
  | stored call keeps eq => exact ⟨i, app, by rw [eq]; exact happ, hid⟩
  | lowered id state now low intents issued answered flight applications =>
    rcases applications with happs | ⟨j, app', hfound, happs⟩
    · exact ⟨i, app, by rw [happs]; exact happ, hid⟩
    · rw [happs]
      exact hset .ended hfound
  | entered id members now intents ok eq =>
    refine ⟨i, app, ?_, hid⟩
    rw [eq]
    have hlt := (List.getElem?_eq_some_iff.mp happ).1
    exact (getElem?_append_left hlt).trans happ
  | staged j app' stage found quiet stops eq =>
    rw [eq]
    exact hset stage found
  | applied j app' now found eq =>
    rw [eq]
    exact hset _ found

/-- A live fence refuses every start on its volume. -/
theorem fenceHit_of_fences {volume : String} (hnamed : TargetsNamed t)
    (hrow : t.find? intentId = some row) (hmode : row.targetMode = .stagedOverwrite)
    (htarget : row.targetVolume = some volume) (hlive : row.fenceState.isLive = true)
    {mounted : List String} (hmem : volume ∈ mounted) :
    fenceHit (liveFencedVolumeNames t) mounted ≠ none := by
  have hfenced : volume ∈ liveFencedVolumeNames t := by
    refine mem_filterMap.mpr ⟨row, ((t.find?_eq_some_iff _ _).mp hrow).1, ?_⟩
    simp [hmode, hlive, htarget]
  have hnonempty : ∀ name ∈ liveFencedVolumeNames t, name ≠ "" := by
    intro name hname hempty
    obtain ⟨r, hr, hvalue⟩ := mem_filterMap.mp hname
    split at hvalue
    · refine hnamed r.id r ((t.find?_eq_some_iff _ _).mpr ⟨hr, rfl⟩) ?_
      rw [hvalue, hempty]
    · cases hvalue
  intro hnone
  cases hfind : mounted.find? (fun name => (liveFencedVolumeNames t).contains name) with
  | none =>
    have hno := find?_eq_none.mp hfind volume hmem
    exact hno (by simpa using hfenced)
  | some hit =>
    have hhit : hit ∈ liveFencedVolumeNames t := by
      simpa using find?_some hfind
    rw [fenceHit, hfind, Option.filter_some] at hnone
    simp [hnonempty hit hhit] at hnone

/-- What a fence guarantees in a run.  When the application of an intent issues
a container call, every start that was issued before the fence became held is
answered; and after that call, no start whose container mounts the volume is
issued while the fence is live. -/
structure StartsExcluded (mounts : String → List Mount) (acts : List FenceAction) : Prop where
  caught : ∀ pre call post intentId, acts = pre ++ call :: post →
    (fenceRun mounts pre).IssuesFenceCall call intentId →
    ∀ early write late, pre = early ++ write :: late →
    ¬ (fenceRun mounts early).Held intentId →
    (fenceRun mounts (early ++ [write])).Held intentId →
    ∀ start ∈ (fenceRun mounts early).issued, start.number ∈ (fenceRun mounts pre).answered
  shut : ∀ pre call middle a post intentId volume, acts = pre ++ call :: (middle ++ a :: post) →
    (fenceRun mounts pre).IssuesFenceCall call intentId →
    (fenceRun mounts (pre ++ call :: middle)).Fences intentId volume →
    ∀ start, (fenceStep mounts (fenceRun mounts (pre ++ call :: middle)) a).issued =
        (fenceRun mounts (pre ++ call :: middle)).issued ++ [start] →
      volume ∉ start.mounted

theorem fenceRun_append (as bs : List FenceAction) :
    fenceRun mounts (as ++ bs) = Runs.run (fenceStep mounts) (fenceRun mounts as) bs :=
  Runs.run_append _ _ _

/-- No start lands on a volume after its fence has begun stopping containers. -/
theorem fence_excludes_starts (mounts : String → List Mount)
    (acts : List FenceAction) : StartsExcluded mounts acts := by
  constructor
  · intro pre call post intentId _ hcall early write late hpre hbefore hafter start hstart
    have hinv := FenceInv.run mounts early
    rw [fenceRun_append] at hafter
    have hcatch := Catches.of_held mounts hinv hbefore hafter
    have hrun : Catches (fenceRun mounts early).issued intentId (fenceRun mounts pre) := by
      rw [hpre, fenceRun_append, Runs.run_cons]
      exact Runs.run_stable (R := fun _ => True) (FenceInv.step mounts)
        (fun s a hinv h _ => Catches.step mounts s a hinv h)
        (FenceInv.step mounts _ write hinv) hcatch (fun _ _ => trivial)
    obtain ⟨i, ok, app, fenceCall, calls, -, happ, hstage, hid⟩ := hcall
    exact hrun.stopping i app _ happ hid hstage start hstart
  · intro pre call middle a post intentId volume _ hcall hfences start hissued hmem
    obtain ⟨i, ok, app, fenceCall, calls, -, happ, hstage, hid⟩ := hcall
    have hpersist : ∃ (i : Nat) (app : Application),
        (fenceRun mounts (pre ++ call :: middle)).applications[i]? = some app ∧
          app.intentId = intentId := by
      rw [fenceRun_append]
      exact Runs.run_invariant (P := fun s : FenceSystem => ∃ (i : Nat) (app : Application),
          s.applications[i]? = some app ∧ app.intentId = intentId)
        (fun s a h => AppsFrom.persist mounts a h) ⟨i, app, happ, hid⟩ (call :: middle)
    have hinv := FenceInv.run mounts (pre ++ call :: middle)
    obtain ⟨j, app', happ', hid'⟩ := hpersist
    obtain ⟨row, hrow, hmode, -⟩ := hinv.fenced j app' happ'
    obtain ⟨row', hrow', htarget, hlive⟩ := hfences
    rw [hid', hrow'] at hrow
    cases hrow
    have hhit := fenceHit_of_fences hinv.named hrow' hmode htarget hlive hmem
    have hone : ∀ l : List IssuedStart, l ≠ l ++ [start] := by
      intro l hl
      have hlen := congrArg length hl
      simp at hlen
    cases fence_effect mounts (fenceRun mounts (pre ++ call :: middle)) a with
    | issued start' now clear intents issued =>
      rw [issued] at hissued
      have hsame : start' = start := by simpa using append_cancel_left hissued
      exact hhit (hsame ▸ clear)
    | quiet intents issued | lowered id state now low intents issued =>
      exact hone _ (issued.symm.trans hissued)
    | stored call' keeps eq | entered id members now intents ok eq
    | staged i app stage found quiet stops eq | applied i app now found eq =>
      rw [eq] at hissued
      exact hone _ hissued

/-- A start on its way when the fence of `data` goes up is waited for; after its
answer the container is stopped, and the next start finds the fence. -/
example : let mounts : String → List Mount := fun _ => [⟨some "volume", some "data"⟩]
    let parents : IntentParents := ⟨["op"], ["point"]⟩
    let before : List FenceAction :=
      [ .store (.recordOverwrite parents "intent"
          ⟨⟨none, "op", "point", "data", "admin", "epoch"⟩, "stage", "gen", []⟩ 0)
      , .store (.advance parents "intent" .staging .empty 1)
      , .store (.advance parents "intent" .stagedVerified .empty 2)
      , .startContainerUnderFence "web" false 3
      , .fenceWorkloads "intent" ["web"] 4 ]
    let after : List FenceAction :=
      [ .answered 0, .drained 0 false 5, .listed 0 (some ["web"]) 6
      , .applyDrained 0 false, .fenceCall 0 true
      , .startContainerUnderFence "web" false 7, .inspected 0 .found false 8 ]
    ((fenceRun mounts (before ++ [.drained 0 false 5])).applications.map (·.stage),
      (fenceRun mounts (before ++ after)).applications.map (·.stage),
      (fenceRun mounts (before ++ after)).issued.length) =
    ([.draining (.waiting [0])], [.stopping [.stop "web"]], 1) := by
  decide

theorem IntentsGrow.fenceStep (s : FenceSystem) (a : FenceAction) :
    IntentsGrow s.intents (fenceStep mounts s a).intents := by
  cases fence_effect mounts s a with
  | quiet intents | issued start now clear intents => exact intents.symm ▸ .refl _
  | stored call keeps eq =>
    rw [eq]
    exact .step _ call
  | lowered intentId state now low intents => exact intents.symm ▸ .step _ _
  | entered intentId members now intents ok eq =>
    have hfirst : IntentsGrow s.intents intents := by
      rw [(entered_row ok).1]
      exact .step _ _
    rw [eq]
    exact hfirst.trans (.step _ _)
  | staged i app stage found quiet stops eq =>
    rw [eq]
    exact .refl _
  | applied i app now found eq =>
    rw [eq]
    exact .step _ _

/-- Whatever starts, containers and fences do in between, no intent is lost, changes its mode or
goes back to an earlier phase, and what a fence was begun for stays an overwrite past
`stagedVerified`. -/
theorem intents_never_back (acts later : List FenceAction) :
    IntentsGrow (fenceRun mounts acts).intents (fenceRun mounts (acts ++ later)).intents ∧
      ∀ app ∈ (fenceRun mounts acts).applications, ∃ row,
        (fenceRun mounts (acts ++ later)).intents.find? app.intentId = some row ∧
          row.targetMode = .stagedOverwrite ∧ 3 ≤ row.phase.rank := by
  have hgrow : IntentsGrow (fenceRun mounts acts).intents
      (fenceRun mounts (acts ++ later)).intents := by
    rw [fenceRun_append]
    exact Runs.run_invariant (P := fun s => IntentsGrow (fenceRun mounts acts).intents s.intents)
      (fun s a h => h.trans (.fenceStep mounts s a)) (.refl _) later
  refine ⟨hgrow, fun app happ => ?_⟩
  obtain ⟨i, hi⟩ := mem_iff_getElem?.mp happ
  obtain ⟨row, hrow, hmode, hrank⟩ := (FenceInv.run mounts acts).fenced i app hi
  obtain ⟨row', hrow', hmode', hrank'⟩ := hgrow _ row hrow
  exact ⟨row', hrow', hmode'.trans hmode, Nat.le_trans hrank hrank'⟩

end Sencho.Recovery
