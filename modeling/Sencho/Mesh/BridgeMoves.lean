import Sencho.Mesh.BridgeControl

/-!
# The moves of a bridge

Each step of a bridge is a move of its control, unless it drops a half and leaves the other.
-/

namespace Sencho.Mesh

open Verified List Option
open Verified.Release
open Streams
open Function (update)

/-- What a frame that arrives says of a stream. -/
def BridgeEvent.tells : BridgeEvent → Option (Nat × Notice)
  | .json (.tcpOpenAck s ok) => if ok then none else some (s, .closes)
  | .json (.tcpOpenReverse s) => some (s, .opens)
  | .json (.tcpClose s) => some (s, .closes)
  | _ => none

namespace Control

variable {c c' : Control} {cause : Cause} {frames : List Frame} {s : Nat}
variable {entry : Nat × HeldKind} {t : Task → Prop}

/-! ## Rules for moves -/

/-- A notice that arrives closes a stream that is not held. -/
def Deaf (cause : Cause) (c : Control) : Prop :=
  ∀ s n, cause.arriving = some (s, n) → n = .closes ∧ c.held s = none

/-- Without a notice there is none to miss. -/
theorem deaf_of_none (h : cause.arriving = none) : Deaf cause c := by
  intro s n hsome
  rw [h] at hsome
  exact nomatch hsome

/-- A step that leaves every stream as it is. -/
structure Calm (c c' : Control) (frames : List Frame) : Prop where
  held : c'.held = c.held
  tasks : ∀ x, c'.tasks x → c.tasks x
  keeps : Keeps c c' frames fun _ => True
  silent : ∀ f ∈ frames, f.tells = none

/-- A calm step is a move. -/
theorem Calm.move (h : Calm c c' frames) (hdeaf : Deaf cause c) : Move cause c c' frames :=
  .quiet hdeaf h.held h.tasks h.keeps h.silent

/-- A move, with the frames that it sends. -/
abbrev Moves (cause : Cause) (c c' : Control) : Prop := ∃ frames, Move cause c c' frames

/-- A step that leaves every stream as it is, with the frames that it sends. -/
abbrev Calms (c c' : Control) : Prop := ∃ frames, Calm c c' frames

theorem Calm.moves (h : Calm c c' frames) (harr : cause.arriving = none) : Moves cause c c' :=
  ⟨frames, h.move (deaf_of_none harr)⟩

theorem Calm.refl (c : Control) : Calm c c [] :=
  ⟨rfl, fun _ hx => hx, ⟨rfl, rfl, fun _ _ ho => ho, fun _ _ _ hx => hx,
    (append_nil _).symm⟩, nofun⟩

/-- Nothing happens. -/
theorem moves_refl (harr : cause.arriving = none) : Moves cause c c :=
  (Calm.refl c).moves harr

theorem sent_send (hopen : c.wsOpen = true) (f : Frame) : (c.send f).sent = c.sent ++ [f] :=
  if_pos hopen

section

variable (h : Calm c c' frames)
include h

theorem Calm.send (hopen : c.wsOpen = true) {f : Frame} (hf : f.tells = none) :
    Calm c (c'.send f) (frames ++ [f]) where
  held := h.held
  tasks := h.tasks
  keeps := by
    refine ⟨h.keeps.closed, h.keeps.wsOpen, h.keeps.others, h.keeps.targets, ?_⟩
    rw [sent_send (h.keeps.wsOpen.trans hopen), h.keeps.sent, append_assoc]
  silent := by
    intro f' hf'
    rcases mem_append.mp hf' with hold | hnew
    · exact h.silent f' hold
    · rw [mem_singleton.mp hnew]
      exact hf

theorem Calm.emit (r : Nat) (event : HandleEvent) : Calm c (c'.emit r event) frames :=
  ⟨h.held, h.tasks, ⟨h.keeps.closed, h.keeps.wsOpen, h.keeps.others, h.keeps.targets,
    h.keeps.sent⟩, h.silent⟩

theorem Calm.work (htasks : ∀ x, t x → c.tasks x)
    (htargets : ∀ k s, c.tasks (.target k s) → t (.target k s)) : Calm c (c'.work t) frames :=
  ⟨h.held, htasks, ⟨h.keeps.closed, h.keeps.wsOpen, h.keeps.others, fun k s _ => htargets k s,
    h.keeps.sent⟩, h.silent⟩

theorem Calm.drop (hfree : c.held s = none) : Calm c (c'.drop s) frames where
  held := by
    have hsame : update c'.held s none = c'.held := by
      rw [h.held, ← hfree]
      exact Function.update_eq_self s c.held
    exact hsame.trans h.held
  tasks := h.tasks
  keeps := ⟨h.keeps.closed, h.keeps.wsOpen, fun s' hs ho => h.keeps.others s' hs ho.2,
    h.keeps.targets, h.keeps.sent⟩
  silent := h.silent

theorem Calm.store (hfree : c.held s = none) (hlow : s < agentReverseIdBase) :
    Calm c (c'.store s none) frames where
  held := by
    have hsame : update c'.held s none = c'.held := by
      rw [h.held, ← hfree]
      exact Function.update_eq_self s c.held
    exact hsame.trans h.held
  tasks := h.tasks
  keeps := by
    refine ⟨h.keeps.closed, h.keeps.wsOpen, fun s' hs ho => h.keeps.others s' hs ?_,
      h.keeps.targets, h.keeps.sent⟩
    have hne : s' ≠ s := by omega
    have hother : (if s' = s then (none : Option (Nat × HeldKind)) = none else c'.others s') := ho
    rw [if_neg hne] at hother
    exact hother
  silent := h.silent

end

/-- A stream of the agent is dropped and the agent told. -/
theorem ends_reverse (harr : cause.arriving = none) (hopen : c.wsOpen = true)
    (hent : c.held s = some entry) (hkind : entry.2 ≠ .tcp) (htasks : ∀ x, t x → c.tasks x)
    (htargets : ∀ k s', s' ≠ s → c.tasks (.target k s') → t (.target k s'))
    (hgone : ∀ k, ¬ t (.target k s)) {f : Frame} (hf : Closing s f) :
    Move cause c (((c.work t).drop s).send f) [f] := by
  refine .ends harr ⟨hent, rfl, fun ho => ho.1 rfl, htasks, hgone⟩ ?_ hf
    (fun htcp => absurd htcp hkind)
  exact ⟨rfl, rfl, fun _ _ ho => ho.2, htargets, if_pos hopen⟩

/-- A stream of the agent is dropped because a notice closed it. -/
theorem drops_reverse (harr : cause.arriving = some (s, .closes))
    (hent : c.held s = some entry) (hkind : entry.2 ≠ .tcp) (htasks : ∀ x, t x → c.tasks x)
    (htargets : ∀ k s', s' ≠ s → c.tasks (.target k s') → t (.target k s'))
    (hgone : ∀ k, ¬ t (.target k s)) : Move cause c ((c.work t).drop s) [] := by
  refine .drops harr ⟨hent, rfl, fun ho => ho.1 rfl, htasks, hgone⟩ ?_
    (fun htcp => absurd htcp hkind)
  exact ⟨rfl, rfl, fun _ _ ho => ho.2, htargets, (append_nil _).symm⟩

section

variable (h : Tended c)
include h

/-- A target belongs to the stored relay. -/
theorem Tended.no_target {r : Nat} {kind : HeldKind} (hent : c.held s = some (r, kind))
    (hkind : ∀ k, kind ≠ .reverseRelay k) (k : Nat) : ¬ c.tasks (.target k s) := by
  intro htask
  obtain ⟨r', hrelay⟩ := h.targeted k s htask
  rw [hent] at hrelay
  exact hkind k (congrArg Prod.snd (some.inj hrelay))

/-- The tasks of an id are no target where another task is there. -/
theorem Tended.only {x : Task} (hx : c.tasks x) (hkind : ∀ k s, x ≠ .target k s) (k : Nat) :
    ¬ c.tasks (.target k x.id) :=
  fun htask => hkind k x.id (h.alone x _ hx htask rfl)

theorem Tended.not_tcp (hhigh : agentReverseIdBase ≤ s) (hent : c.held s = some entry) :
    entry.2 ≠ .tcp := by
  intro htcp
  have hlow := (h.halves s entry.1 entry.2 hent).mp htcp
  omega

theorem Tended.is_tcp (hlow : s < agentReverseIdBase) (hent : c.held s = some entry) :
    entry.2 = .tcp :=
  (h.halves s entry.1 entry.2 hent).mpr hlow

end

end Control

variable {state : StreamState}

namespace PilotTunnelBridge

/-- What a step is for. -/
def cause (b : PilotTunnelBridge) (e : BridgeEvent) : Control.Cause :=
  ⟨fun s => e = .closeTcpStream s, fun s => e = .openTcpStream ∧ b.full = false ∧
    s = b.streamIds.next, e.tells⟩

/-! ## Steps -/

/-- A bridge that is up, with its tasks tended. -/
structure Tending (b : PilotTunnelBridge) : Prop where
  tended : b.control.Tended
  laid : Laid b
  closed : b.closed = false
  wsOpen : b.wsOpen = true

section Moves

open Control

variable {b : PilotTunnelBridge} {cause : Cause} {s r : Nat} {o : StreamObject}
variable {d : Dispatch} {n : Nat}

/-- A stored state is held by its kind. -/
theorem held_of_stored (h : b.stored s = some (r, o)) :
    b.held s = o.state.kind.map fun kind => (r, kind) := by
  unfold held
  rw [h]
  rfl

theorem held_of_none (h : b.stored s = none) : b.held s = none := by
  unfold held
  rw [h]
  rfl

theorem get?_of_held {entry : Nat × HeldKind} (h : b.held s = some entry) :
    b.streams.get? s = some entry.1 := by
  rw [held_eq] at h
  obtain ⟨r, hget, hkind⟩ := bind_eq_some_iff.mp h
  obtain ⟨kind, _, hpair⟩ := map_eq_some_iff.mp hkind
  rw [← hpair]
  exact hget

/-- The forward kind is held. -/
theorem holdsTcp_iff (b : PilotTunnelBridge) (s : Nat) :
    b.holdsTcp s = true ↔ ∃ r, b.held s = some (r, .tcp) := by
  unfold holdsTcp
  rw [Option.any_eq_true]
  constructor
  · rintro ⟨⟨r, kind⟩, hheld, hkind⟩
    have htcp : kind = .tcp := of_decide_eq_true hkind
    rw [htcp] at hheld
    exact ⟨r, hheld⟩
  · rintro ⟨r, hheld⟩
    exact ⟨(r, .tcp), hheld, rfl⟩

/-- A reverse kind is held. -/
theorem holdsReverse_iff (b : PilotTunnelBridge) (s : Nat) :
    b.holdsReverse s = true ↔ ∃ r kind, b.held s = some (r, kind) ∧ kind ≠ .tcp := by
  unfold holdsReverse
  rw [Option.any_eq_true]
  constructor
  · rintro ⟨⟨r, kind⟩, hheld, hkind⟩
    exact ⟨r, kind, hheld, of_decide_eq_true hkind⟩
  · rintro ⟨r, kind, hheld, hkind⟩
    exact ⟨(r, kind), hheld, decide_eq_true hkind⟩

theorem kindOf_of_stored (h : b.stored s = some (r, o)) : b.kindOf r = o.state.kind := by
  unfold kindOf
  rw [(get?_of_stored h).2]
  rfl

theorem Tending.held_of_get? (h : Tending b) (hhigh : agentReverseIdBase ≤ s)
    (hget : b.streams.get? s = some r) : ∃ kind, b.held s = some (r, kind) := by
  cases hheld : b.held s with
  | some entry =>
    have hr := get?_of_held hheld
    rw [hget] at hr
    have hent : r = entry.1 := some.inj hr
    exact ⟨entry.2, by rw [hent]⟩
  | none =>
    have hother : b.others s := by
      refine ⟨?_, hheld⟩
      rw [hget]
      exact some_ne_none r
    exact absurd hother (h.tended.others s hhigh)

/-- A target serves one stream. -/
theorem targets_unique {k s s' : Nat} (h : b.tasks (.target k s)) (h' : b.tasks (.target k s')) :
    s = s' := by
  obtain ⟨target, htarget, hs, _⟩ := h
  obtain ⟨target', htarget', hs', _⟩ := h'
  rw [htarget] at htarget'
  rw [← hs, ← hs', some.inj htarget']

/-! ### Dispatches -/

/-- A dispatch that gives up refuses its stream, whether it is still there or not. -/
theorem move_refuse (h : Tending b) (harr : cause.arriving = none)
    (hd : b.dispatches n = some d) (hstage : d.stage ≠ .settled) :
    Moves cause b.control ((b.setStage n .settled).refuse d.stream d.reservation).control := by
  have htask : b.control.tasks (.dispatch n d) := ⟨hd, hstage⟩
  have hhigh : agentReverseIdBase ≤ d.stream := h.tended.high _ htask
  have hsettle : ∀ x, (b.setStage n .settled).tasks x → b.tasks x :=
    fun x hx => (tasks_settle b hd hx).1
  cases hheld : b.held d.stream with
  | none =>
    have hne : b.streams.get? d.stream ≠ some d.reservation := by
      intro hget
      obtain ⟨kind, hno⟩ := h.held_of_get? hhigh hget
      rw [hheld] at hno
      exact nomatch hno
    have hcontrol : ((b.setStage n .settled).refuse d.stream d.reservation).control =
        (b.control.work (b.setStage n .settled).tasks).send (.tcpOpenAck d.stream false) := by
      unfold refuse
      rw [if_neg (by exact hne)]
      rfl
    rw [hcontrol]
    exact ⟨_, .strays harr htask hheld rfl hsettle
      ⟨rfl, rfl, fun _ _ ho => ho, fun _ _ _ hx => hx, if_pos h.wsOpen⟩⟩
  | some entry =>
    have hr : entry.1 = d.reservation := h.tended.own n d entry.1 entry.2 htask hheld
    have hget : b.streams.get? d.stream = some d.reservation := by
      rw [← hr]
      exact get?_of_held hheld
    have hcontrol : ((b.setStage n .settled).refuse d.stream d.reservation).control =
        (((b.control.work (b.setStage n .settled).tasks).drop d.stream).send
          (.tcpOpenAck d.stream false)) := by
      unfold refuse
      rw [if_pos (by exact hget), control_send, control_removeStream]
      rfl
    rw [hcontrol]
    refine ⟨_, ends_reverse (t := (b.setStage n .settled).tasks) harr h.wsOpen hheld
      (h.tended.not_tcp hhigh hheld) hsettle (fun _ _ _ hx => hx) ?_ (.inr ⟨rfl, hhigh⟩)⟩
    exact fun k hx => h.tended.only htask nofun k (hsettle _ hx)

theorem calm_settle (b : PilotTunnelBridge) (hd : b.dispatches n = some d) :
    Calm b.control (b.setStage n .settled).control [] :=
  (Calm.refl b.control).work (fun _ hx => (tasks_settle b hd hx).1) fun _ _ hx => hx

theorem reservation_held {s r : Nat} (h : b.reservationOf s = some r) :
    b.held s = some (r, .reverseLocal) := by
  obtain ⟨⟨r', o⟩, hst, hstate⟩ := bind_eq_some_iff.mp h
  cases hkind : o.state with
  | reverseLocal =>
    rw [held_of_stored hst]
    dsimp only at hstate
    rw [hkind] at hstate ⊢
    rw [some.inj hstate]
    rfl
  | http | ws | tcp | reverseRelay =>
    rw [hkind] at hstate
    exact nomatch hstate

/-- A dispatch that finds its reservation goes on with it. -/
theorem move_goesOn (harr : cause.arriving = none) (hd : b.dispatches n = some d)
    (hstage : d.stage ≠ .settled) (hheld : b.held d.stream = some (r, .reverseLocal))
    {stage : Stage} (hr : ∀ r', stage = .resolving r' ∨ stage = .ensuringBridge r' → r' = r) :
    Move cause b.control (b.setStage n stage).control [] := by
  refine .goesOn (y := .dispatch n { d with stage := stage }) harr ⟨hd, hstage⟩ hheld rfl rfl
    ?_ ?_ ?_ ⟨rfl, rfl, fun _ _ ho => ho, fun _ _ _ hx => hx, (append_nil _).symm⟩
  · intro k s hno
    cases hno
  · intro n' d' hsame
    injection hsame with _ hd'
    rw [← hd']
    exact ⟨rfl, hr⟩
  · intro x hx
    rcases tasks_setStage b hd hx with hold | ⟨hnew, _⟩
    · exact .inl hold
    · exact .inr hnew

/-- The dispatch goes on or ends. -/
theorem move_resumeImport (h : Tending b) (harr : cause.arriving = none)
    (hd : b.dispatches n = some d) (hstage : d.stage = .importing) (imported : Imported) :
    Moves cause b.control (b.resumeImport n d imported).control := by
  have hne : d.stage ≠ .settled := by simp [hstage]
  have hsett := (calm_settle b hd).moves harr
  cases imported with
  | failed => exact move_refuse h harr hd hne
  | localNode | otherNode =>
    unfold resumeImport
    cases hreservation : b.reservationOf d.stream with
    | none => exact hsett
    | some reservation =>
      refine ⟨_, move_goesOn harr hd hne (reservation_held hreservation) ?_⟩
      rintro r' (hsame | hsame) <;> cases hsame
      rfl

theorem held_of_state {s r : Nat} {kind : HeldKind}
    (hget : b.streams.get? s = some r) (hstate : b.stateOf r = some state)
    (hkind : state.kind = some kind) : b.held s = some (r, kind) := by
  rw [held_eq, hget, bind_some]
  obtain ⟨o, hobject, ho⟩ := map_eq_some_iff.mp hstate
  unfold kindOf
  rw [hobject, bind_some, ho, hkind]
  rfl

theorem kindOf_of_state {r : Nat} (hstate : b.stateOf r = some state) :
    b.kindOf r = state.kind := by
  obtain ⟨o, hobject, ho⟩ := map_eq_some_iff.mp hstate
  unfold kindOf
  rw [hobject, bind_some, ho]

/-- The dial of a reservation that is still stored. -/
theorem move_dial (harr : cause.arriving = none) (hd : b.dispatches n = some d)
    (hstage : d.stage ≠ .settled) (hget : b.streams.get? d.stream = some r) {socket : Option Nat}
    {buffer bytes : Nat} (hstate : b.stateOf r = some (.reverseLocal socket buffer bytes)) :
    Move cause b.control (((b.setStage n .settled).newSocket ⟨d.stream, r, false, false,
      false⟩).setState r (.reverseLocal (some b.fresh) buffer bytes)).control [] := by
  have hheld : b.held d.stream = some (r, .reverseLocal) := held_of_state hget hstate rfl
  have hkind : ((b.setStage n .settled).newSocket ⟨d.stream, r, false, false, false⟩).kindOf r =
      some .reverseLocal := kindOf_of_state hstate
  rw [control_setState _ hkind]
  refine .goesOn (y := .socket b.fresh d.stream) harr ⟨hd, hstage⟩ hheld rfl rfl ?_ ?_ ?_
    ⟨rfl, rfl, fun _ _ ho => ho, fun _ _ _ hx => hx, (append_nil _).symm⟩
  · intro k s hno
    cases hno
  · intro n' d' hno
    cases hno
  · intro x hx
    rcases tasks_newSocket _ hx with hold | hnew
    · exact .inl (tasks_settle b hd hold)
    · exact .inr hnew

/-- A dial, or a refusal. -/
theorem move_resumeResolve (h : Tending b) (harr : cause.arriving = none) {state : Nat}
    (hd : b.dispatches n = some d) (hstage : d.stage = .resolving state) (resolved : Resolved) :
    Moves cause b.control (b.resumeResolve n d state resolved).control := by
  have hne : d.stage ≠ .settled := by simp [hstage]
  have hstate : state = d.reservation := h.tended.captured n d state ⟨hd, hne⟩ (.inl hstage)
  have hsett := (calm_settle b hd).moves harr
  cases resolved with
  | failed => exact move_refuse h harr hd hne
  | notFound =>
    rw [hstate]
    exact move_refuse h harr hd hne
  | address =>
    unfold resumeResolve
    dsimp only
    split
    · next hget =>
        split
        · next hlocal => exact ⟨_, move_dial harr hd hne hget hlocal⟩
        · exact hsett
    · exact hsett

/-- No target has the next name. -/
theorem Tending.target_named (h : Tending b) {k s : Nat} (htask : b.tasks (.target k s)) :
    k < b.fresh := by
  obtain ⟨r, hheld⟩ := h.tended.targeted k s htask
  have hget := get?_of_held hheld
  have hkind : b.kindOf r = some (.reverseRelay k) := by
    rw [show b.control.held s = b.held s from rfl, held_eq, hget, bind_some] at hheld
    obtain ⟨kind, hkind, hpair⟩ := map_eq_some_iff.mp hheld
    rw [hkind]
    exact congrArg (fun pair => some pair.2) hpair
  obtain ⟨o, hobject, ho⟩ := bind_eq_some_iff.mp hkind
  cases hstate : o.state with
  | reverseRelay target isOpen buffer bytes =>
    rw [hstate] at ho
    injection ho with ho
    injection ho with hk
    have hrelay := relayAt_of_object (b := b) hobject hstate
    rw [← hk]
    exact (h.laid.wired.relay_named _ _ hrelay.1).2.2
  | http | ws | tcp | reverseLocal =>
    rw [hstate] at ho
    exact nomatch ho

section

variable (h : Tending b) (harr : cause.arriving = none) (hd : b.dispatches n = some d)
include h harr hd

/-- A relay takes the place of a reservation that is still stored. -/
theorem move_relay (hstage : d.stage ≠ .settled) (hget : b.streams.get? d.stream = some r)
    {socket : Option Nat} {buffer bytes : Nat}
    (hstate : b.stateOf r = some (.reverseLocal socket buffer bytes)) (opening : Nat) :
    Move cause b.control (((b.setStage n .settled).newTarget ⟨d.stream, false, false,
      []⟩).storeStream d.stream (.reverseRelay b.fresh false buffer bytes) opening).control [] := by
  have hheld : b.held d.stream = some (r, .reverseLocal) := held_of_state hget hstate rfl
  have hnamed : ∀ s r', b.streams.get? s = some r' → r' < b.fresh + 1 :=
    fun s r' hst => Nat.lt_succ_of_lt (h.laid.wired.stored_named s r' hst)
  rw [control_storeStream _ hnamed]
  refine .swaps harr ⟨hd, hstage⟩ hheld rfl ?_ ?_ ⟨rfl, rfl, ?_, ?_, (append_nil _).symm⟩
  · intro x hx
    rcases tasks_newTarget _ hx with hold | hnew
    · exact .inl (tasks_settle b hd hold)
    · exact .inr hnew
  · exact ⟨_, Function.update_self .., rfl, rfl⟩
  · intro s hs hother
    by_cases hsame : s = d.stream
    · change (if s = d.stream then _ else _) at hother
      rw [if_pos hsame] at hother
      exact nomatch hother
    · change (if s = d.stream then _ else _) at hother
      rw [if_neg hsame] at hother
      exact hother
  · intro k s _ htask
    have hk : k ≠ b.fresh := Nat.ne_of_lt (h.target_named htask)
    obtain ⟨target, htarget, hs, hleft⟩ := htask
    refine ⟨target, ?_, hs, hleft⟩
    exact (Function.update_of_ne hk _ _).trans htarget

/-- A relay, or a refusal. -/
theorem move_resumeEnsureBridge {reservation : Nat} (hstage : d.stage = .ensuringBridge reservation)
    (ensured : Ensured) :
    Moves cause b.control (b.resumeEnsureBridge n d reservation ensured).control := by
  have hne : d.stage ≠ .settled := by simp [hstage]
  have hreservation : reservation = d.reservation :=
    h.tended.captured n d reservation ⟨hd, hne⟩ (.inr hstage)
  have hsett := (calm_settle b hd).moves harr
  cases ensured with
  | failed => exact move_refuse h harr hd hne
  | noBridge =>
    rw [hreservation]
    exact move_refuse h harr hd hne
  | noStream =>
    unfold resumeEnsureBridge
    dsimp only
    split
    · rw [hreservation]
      exact move_refuse h harr hd hne
    · exact hsett
  | stream =>
    unfold resumeEnsureBridge
    dsimp only
    split
    · next hget =>
        split
        · next hobject =>
            have hstate : b.stateOf reservation = some (.reverseLocal _ _ _) :=
              map_eq_some_iff.mpr ⟨_, hobject, rfl⟩
            exact ⟨_, move_relay h harr hd hne hget hstate _⟩
        · exact hsett
    · exact hsett

end

/-! ### Local sockets -/

theorem tasks_removeStream (b : PilotTunnelBridge) (s : Nat) : (b.removeStream s).tasks = b.tasks :=
  congrArg Control.tasks (control_removeStream b s)

section Sockets

variable {k : Nat} {socket : LocalSocket}

theorem calm_setSocket (hsocket : b.sockets k = some socket) (socket' : LocalSocket)
    (hstream : socket'.stream = socket.stream)
    (hspent : socket'.spent = false → socket.spent = false) :
    Calm b.control (b.setSocket k socket').control [] :=
  (Calm.refl b.control).work (fun _ hx => tasks_setSocket b hsocket hstream hspent hx)
    fun _ _ hx => hx

section

variable (h : Tending b) (harr : cause.arriving = none) (hsocket : b.sockets k = some socket)
  (hspent : socket.spent = false)
include h harr hsocket hspent

/-- A socket with events to come drops the stream of its id, which is no relay. -/
theorem move_socketEnds (hget : b.streams.get? socket.stream = some r) {t : Task → Prop}
    (htasks : ∀ x, t x → b.tasks x) (htargets : ∀ k s, b.tasks (.target k s) → t (.target k s))
    {f : Frame} (hf : Closing socket.stream f) :
    Move cause b.control (((b.control.work t).drop socket.stream).send f) [f] := by
  have htask : b.control.tasks (.socket k socket.stream) := ⟨socket, hsocket, rfl, hspent⟩
  have hhigh : agentReverseIdBase ≤ socket.stream := h.tended.high _ htask
  obtain ⟨kind, hheld⟩ := h.held_of_get? hhigh hget
  refine ends_reverse harr h.wsOpen hheld (h.tended.not_tcp hhigh hheld) htasks
    (fun k s _ => htargets k s) ?_ hf
  intro k' hx
  exact h.tended.only htask nofun k' (htasks _ hx)

theorem move_teardownSocket {socket' : LocalSocket} (hstream : socket'.stream = socket.stream) :
    Moves cause b.control ((b.setSocket k socket').teardownSocket k socket.stream).control := by
  have hset : ∀ {x}, (b.setSocket k socket').tasks x → b.tasks x :=
    fun hx => tasks_setSocket b hsocket hstream (fun _ => hspent) hx
  unfold teardownSocket
  split
  · next hlisted =>
      obtain ⟨r, hget⟩ := isSome_iff_exists.mp hlisted
      rw [control_send, control_destroySocket, control_removeStream]
      refine ⟨_, move_socketEnds
        (t := (((b.setSocket k socket').removeStream socket.stream).destroySocket k).tasks) h
        harr hsocket hspent hget (fun x hx => ?_) (fun k' s hx => ?_) (.inl rfl)⟩
      · have hremoved := tasks_destroySocket _ hx
        rw [tasks_removeStream] at hremoved
        exact hset hremoved
      · have hremoved : ((b.setSocket k socket').removeStream socket.stream).tasks (.target k' s) := by
          rw [tasks_removeStream]
          exact hx
        exact hremoved
  · exact (calm_setSocket hsocket _ hstream fun _ => hspent).moves harr

end

theorem control_flushLocal (b : PilotTunnelBridge) (state : Nat) :
    (b.flushLocal state).control = b.control := by
  unfold flushLocal
  split
  · next hstate =>
      split
      · rfl
      · have hkind : b.kindOf state = some .reverseLocal := kindOf_of_state hstate
        exact control_resetPending (b.writeLocal state _) hkind
  · rfl

section

variable (h : Tending b) (harr : cause.arriving = none)
include h harr

/-- The open is acknowledged. -/
theorem move_socketConnect (hsocket : b.sockets k = some socket) :
    Moves cause b.control (b.socketConnect k socket).control := by
  unfold socketConnect
  split
  · exact moves_refl harr
  · next hfirst =>
      have hspent : socket.spent = false := by
        unfold LocalSocket.spent
        cases hended : socket.ended with
        | false => rfl
        | true => simp [hended] at hfirst
      rw [control_send, control_flushLocal]
      have hset : Calm b.control (b.setSocket k { socket with connected := true }).control [] :=
        calm_setSocket hsocket _ rfl fun _ => hspent
      exact (hset.send h.wsOpen rfl).moves harr

theorem move_socketData (bytes : List UInt8) :
    Moves cause b.control (b.socketData socket bytes).control := by
  have hrest : Moves cause b.control b.control := moves_refl harr
  unfold socketData
  split
  · split
    · exact hrest
    · rw [control_refreshIdleTimer, control_send]
      exact ((Calm.refl b.control).send h.wsOpen rfl).moves harr
  · exact hrest

/-- The id is freed and told. -/
theorem move_socketError (hsocket : b.sockets k = some socket) :
    Moves cause b.control (b.socketError k socket).control := by
  unfold socketError
  split
  · exact moves_refl harr
  · next hfirst =>
      have hspent : socket.spent = false := by
        unfold LocalSocket.spent
        simp [hfirst]
      dsimp only
      split
      · exact move_teardownSocket h harr hsocket hspent rfl
      · have hset := calm_setSocket hsocket { socket with ended := true } rfl fun _ => hspent
        split
        · next hlisted =>
            obtain ⟨r, hget⟩ := isSome_iff_exists.mp hlisted
            have hhigh : agentReverseIdBase ≤ socket.stream :=
              h.tended.high (.socket k socket.stream) ⟨socket, hsocket, rfl, hspent⟩
            rw [control_send, control_deleteStream]
            exact ⟨_, move_socketEnds h harr hsocket hspent hget hset.tasks
              (fun _ _ hx => hx) (.inr ⟨rfl, hhigh⟩)⟩
        · exact hset.moves harr

/-- The id is freed and told. -/
theorem move_socketClose (hsocket : b.sockets k = some socket) :
    Moves cause b.control (b.socketClose k socket).control := by
  unfold socketClose
  split
  · next hfirst =>
      have hspent : socket.spent = false := by
        rw [Bool.and_eq_true] at hfirst
        have hopen : socket.closeEmitted = false := by simpa using hfirst.2
        unfold LocalSocket.spent
        rw [hfirst.1, hopen]
        simp
      exact move_teardownSocket h harr hsocket hspent rfl
  · exact moves_refl harr

/-- Every listener is a move. -/
theorem move_socketEvent (k : Nat) (event : SocketEvent) :
    Moves cause b.control (b.socketEvent k event).control := by
  unfold socketEvent
  cases hsocket : b.sockets k with
  | none => exact moves_refl harr
  | some socket =>
    cases event with
    | connect => exact move_socketConnect h harr hsocket
    | data bytes => exact move_socketData h harr bytes
    | error => exact move_socketError h harr hsocket
    | close => exact move_socketClose h harr hsocket

end

end Sockets

/-! ### Targets of relays -/

section Targets

variable {k : Nat} {target : RelayTarget}

theorem target_task (htarget : b.targets k = some target) (hgone : ¬ target.gone = true) :
    b.control.tasks (.target k target.stream) :=
  ⟨target, htarget, rfl, Bool.eq_false_iff.mpr hgone⟩

theorem stored_of_relayOf {s : Nat} {entry : Nat × StreamObject} (h : b.relayOf s = some entry) :
    b.stored s = some entry := by
  obtain ⟨entry', hst, hstate⟩ := bind_eq_some_iff.mp h
  cases hkind : entry'.2.state with
  | reverseRelay =>
    rw [hkind] at hstate
    rw [hst, some.inj hstate]
  | http | ws | tcp | reverseLocal =>
    rw [hkind] at hstate
    exact nomatch hstate

theorem calm_setTarget (htarget : b.targets k = some target) (target' : RelayTarget)
    (hstream : target'.stream = target.stream) (hgone : target'.gone = target.gone) :
    Calm b.control (b.setTarget k target').control [] := by
  rw [control_setTarget b htarget hstream hgone]
  exact Calm.refl b.control

theorem calm_openRelay {b' : PilotTunnelBridge} {frames : List Frame}
    (h : Calm b.control b'.control frames) (hopen : b.wsOpen = true) (s : Nat) :
    Calms b.control (b'.openRelay s).control := by
  unfold openRelay
  split
  · next r target isOpen buffer bytes idleTimer refreshedAt opening hrelay =>
      have hkind : b'.kindOf r = some (.reverseRelay target) :=
        kindOf_of_stored (stored_of_relayOf hrelay)
      rw [control_send]
      split
      · rw [control_setState b' hkind]
        exact ⟨_, h.send hopen rfl⟩
      · have hreset : ((b'.writeTarget target (b'.buffers buffer)).resetPending r
            fun buffer => .reverseRelay target true buffer 0).control = b'.control :=
          Eq.trans (control_resetPending (b'.writeTarget target _) hkind)
            (control_writeTarget b' _ _)
        rw [hreset]
        exact ⟨_, h.send hopen rfl⟩
  · exact ⟨_, h⟩

section

variable (h : Tending b) (harr : cause.arriving = none)
include h harr

/-- The open is acknowledged. -/
theorem move_targetOpen (htarget : b.targets k = some target) :
    Moves cause b.control (b.targetOpen k target).control := by
  unfold targetOpen
  split
  · exact moves_refl harr
  · have hset := calm_setTarget htarget { target with opened := true } rfl rfl
    obtain ⟨frames, hopened⟩ := calm_openRelay hset h.wsOpen target.stream
    exact hopened.moves harr

theorem move_targetData (bytes : List UInt8) :
    Moves cause b.control (b.targetData target bytes).control := by
  have hrest : Moves cause b.control b.control := moves_refl harr
  unfold targetData
  split
  · exact hrest
  · split
    · exact hrest
    · rw [control_refreshIdleTimer, control_send]
      exact ((Calm.refl b.control).send h.wsOpen rfl).moves harr

section

variable (htarget : b.targets k = some target)
include htarget

/-- A target that is gone takes its relay with it. -/
theorem move_targetEnds (hgone : ¬ target.gone = true) {f : Frame} (hf : Closing target.stream f) :
    Move cause b.control (((b.control.work (b.withoutTarget k)).drop target.stream).send f)
      [f] := by
  have htask := target_task htarget hgone
  obtain ⟨r, hheld⟩ := h.tended.targeted k target.stream htask
  refine ends_reverse harr h.wsOpen hheld
    (h.tended.not_tcp (h.tended.high _ htask) hheld) (fun x hx => hx.1) ?_ ?_ hf
  · intro k' s hs hx
    refine ⟨hx, ?_⟩
    intro s' hsame
    injection hsame with hk
    rw [hk] at hx
    exact hs (targets_unique hx htask)
  · intro k' hx
    obtain ⟨r', hheld'⟩ := h.tended.targeted k' target.stream hx.1
    rw [hheld] at hheld'
    have hkinds := congrArg Prod.snd (some.inj hheld')
    injection hkinds with hk
    exact hx.2 target.stream (by rw [hk])

theorem move_targetFailed : Moves cause b.control (b.targetFailed k target).control := by
  unfold targetFailed
  split
  · exact moves_refl harr
  · next hgone =>
      have htask := target_task htarget hgone
      have hhigh : agentReverseIdBase ≤ target.stream := h.tended.high _ htask
      obtain ⟨r, hheld⟩ := h.tended.targeted k target.stream htask
      have hlisted : ((b.setTarget k { target with gone := true }).streams.get?
          target.stream).isSome = true := isSome_iff_exists.mpr ⟨r, get?_of_held hheld⟩
      rw [if_pos hlisted, control_send, control_deleteStream, control_goneTarget]
      exact ⟨_, move_targetEnds h harr htarget hgone (.inr ⟨rfl, hhigh⟩)⟩

/-- The id is freed and told. -/
theorem move_targetClose : Moves cause b.control (b.targetClose k target).control := by
  unfold targetClose
  split
  · exact moves_refl harr
  · next hgone =>
      obtain ⟨r, hheld⟩ := h.tended.targeted k target.stream (target_task htarget hgone)
      have hlisted : ((b.setTarget k { target with gone := true }).streams.get?
          target.stream).isSome = true := isSome_iff_exists.mpr ⟨r, get?_of_held hheld⟩
      rw [if_pos hlisted, control_send, control_removeStream, control_goneTarget]
      exact ⟨_, move_targetEnds h harr htarget hgone (.inl rfl)⟩

end

/-- Every target listener is a move. -/
theorem move_targetEvent (k : Nat) (event : TargetEvent) :
    Moves cause b.control (b.targetEvent k event).control := by
  unfold targetEvent
  cases htarget : b.targets k with
  | none => exact moves_refl harr
  | some target =>
    cases event with
    | «open» => exact move_targetOpen h harr htarget
    | data bytes => exact move_targetData h harr bytes
    | failed => exact move_targetFailed h harr htarget
    | close => exact move_targetClose h harr htarget

end

end Targets

/-! ### Streams that the primary opened -/

/-- A state that is removed while its id holds no TCP stream. -/
theorem calm_removeFree (b' : PilotTunnelBridge) {frames : List Frame}
    (h : Calm b.control b'.control frames) (hfree : b.held s = none) :
    Calm b.control (b'.removeStream s).control frames := by
  rw [control_removeStream]
  exact h.drop hfree

/-- The teardown of a state that is no TCP stream. -/
theorem teardownState_free (r : Nat) (hkind : state.kind = none) : b.teardownState r state = b := by
  cases state with
  | http | ws => rfl
  | tcp | reverseLocal | reverseRelay => exact nomatch hkind

theorem teardownStream_free (hget : b.streams.get? s = some r) (hfree : b.held s = none) :
    b.teardownStream r = b := by
  unfold teardownStream
  cases hobject : b.objects r with
  | none => rfl
  | some o =>
    refine teardownState_free r ?_
    rw [held_eq, hget, bind_some, map_eq_none_iff] at hfree
    unfold kindOf at hfree
    rw [hobject] at hfree
    exact hfree

theorem calm_loopbackEvent (h : Tending b) (hfree : b.held s = none) (event : LoopbackEvent) :
    Calms b.control (b.loopbackEvent s event).control := by
  have hrest := Calm.refl b.control
  have htext : ∀ {f : Frame} (b' : PilotTunnelBridge), b'.control = b.control → f.tells = none →
      Calms b.control (b'.send f).control := by
    intro f b' hsame hf
    rw [control_send, hsame]
    exact ⟨_, hrest.send h.wsOpen hf⟩
  unfold loopbackEvent
  cases hget : b.streams.get? s with
  | none =>
    cases event with
    | clientText | clientBinary => exact htext b rfl rfl
    | _ => exact ⟨_, hrest⟩
  | some r =>
    have hremove : ∀ (b' : PilotTunnelBridge) {frames}, Calm b.control b'.control frames →
        Calms b.control (b'.removeStream s).control :=
      fun b' _ hcalm => ⟨_, calm_removeFree b' hcalm hfree⟩
    cases event with
    | clientText | clientBinary =>
      exact htext (b.refreshIdleTimer s r) (control_refreshIdleTimer b s r) rfl
    | reqData => exact htext (b.refreshIdleTimer s r) (control_refreshIdleTimer b s r) rfl
    | reqEnd => exact htext b rfl rfl
    | reqError | upgradeError =>
      dsimp only
      rw [teardownStream_free hget hfree]
      exact hremove b hrest
    | reqAborted | resClose =>
      exact hremove ((b.send (.httpCancel s)).send (.httpErr s .tunnelDown))
        ((hrest.send h.wsOpen rfl).send h.wsOpen rfl)
    | upgradeClose => exact hremove (b.send (.wsClose s 1006)) (hrest.send h.wsOpen rfl)
    | clientClose code => exact hremove (b.send (.wsClose s code)) (hrest.send h.wsOpen rfl)
    | clientError => exact hremove b hrest

theorem control_openForward (h : Tending b) (state : StreamState) (frame : Nat → Frame) :
    (b.openForward state frame).control = (b.control.store b.streamIds.next
      (state.kind.map fun kind => (b.fresh, kind))).send (frame b.streamIds.next) := by
  unfold openForward
  rw [control_send, control_storeStream { b with streamIds := b.streamIds.allocate }
    h.laid.wired.stored_named]
  rfl

section

variable (h : Tending b)
  (hstays : b.full = false → b.streamIds.next < agentReverseIdBase ∧ b.held b.streamIds.next = none)
include h hstays

/-- A fresh id is opened. -/
theorem move_openTcpStream (harr : cause.arriving = none)
    (hopn : b.full = false → cause.opening b.streamIds.next) :
    Moves cause b.control b.openTcpStream.control := by
  unfold openTcpStream
  cases hfull : b.full with
  | true =>
    rw [Bool.not_true, Bool.and_false]
    exact moves_refl harr
  | false =>
    obtain ⟨hlow, hfree⟩ := hstays hfull
    have hopen : b.isOpen = true := by
      unfold isOpen
      rw [h.closed, h.wsOpen]
      rfl
    rw [hopen, if_pos (by rfl), control_openForward h]
    refine ⟨_, .opens harr (hopn hfull) hlow hfree rfl (fun _ hx => hx)
      ⟨rfl, rfl, ?_, fun _ _ _ hx => hx, if_pos h.wsOpen⟩⟩
    intro s hs hother
    have hne : s ≠ b.streamIds.next := by omega
    change (if s = b.streamIds.next then _ else _) at hother
    rw [if_neg hne] at hother
    exact hother

theorem calm_openOther (state : StreamState) (hkind : state.kind = none) (frame : Nat → Frame)
    (hframe : ∀ s, (frame s).tells = none) :
    Calms b.control (if b.isOpen && !b.full then b.openForward state frame else b).control := by
  split
  · next hgate =>
      rw [Bool.and_eq_true] at hgate
      have hfull : b.full = false := by simpa using hgate.2
      obtain ⟨hlow, hfree⟩ := hstays hfull
      rw [control_openForward h, hkind]
      exact ⟨_, ((Calm.refl b.control).store hfree hlow).send h.wsOpen (hframe _)⟩
  · exact ⟨_, Calm.refl b.control⟩

end

theorem calm_writeTcpData (h : Tending b) (s : Nat) (bytes : List UInt8) :
    Calms b.control (b.writeTcpData s bytes).control := by
  unfold writeTcpData
  split
  · split
    · rw [control_refreshIdleTimer, control_send]
      exact ⟨_, (Calm.refl b.control).send h.wsOpen rfl⟩
    · exact ⟨_, Calm.refl b.control⟩
  · exact ⟨_, Calm.refl b.control⟩

/-- The owner of a stream closes it. -/
theorem move_closeTcpStream (h : Tending b) (harr : cause.arriving = none)
    (howned : cause.owned s) (hstays : b.streams.get? s ≠ none → b.holdsTcp s = true) :
    Moves cause b.control (b.closeTcpStream s).control := by
  unfold closeTcpStream
  split
  · next hlisted =>
      obtain ⟨r, hget⟩ := isSome_iff_exists.mp hlisted
      have htcp : b.holdsTcp s = true := hstays (by rw [hget]; exact some_ne_none r)
      obtain ⟨r', hheld⟩ := (holdsTcp_iff b s).mp htcp
      rw [control_send, control_removeStream]
      have hgone := h.tended.no_target hheld fun _ hno => by cases hno
      exact ⟨_, .ends harr ⟨hheld, rfl, fun ho => ho.1 rfl, fun _ hx => hx, hgone⟩
        ⟨rfl, rfl, fun _ _ ho => ho.2, fun _ _ _ hx => hx, if_pos h.wsOpen⟩ (.inl rfl)
        (fun _ => .inr howned)⟩
  · exact moves_refl harr

/-! ### Idle timers -/

/-- The teardown of a stream of the primary tells its owner. -/
theorem tells_teardown (b : PilotTunnelBridge) (r : Nat) (accepted : Bool) :
    ∃ events, (b.teardownState r (.tcp accepted)).control =
      { b.control with emitted := b.control.emitted ++ events } ∧ (r, .close) ∈ events := by
  cases accepted with
  | true => exact ⟨[(r, .close)], rfl, mem_cons_self ..⟩
  | false =>
    refine ⟨[(r, .error), (r, .close)], ?_, mem_cons_of_mem _ (mem_cons_self ..)⟩
    change (b.control.emit r .error).emit r .close = _
    unfold Control.emit
    rw [append_assoc]
    rfl

/-- An idle id is freed and told. -/
theorem move_onStreamIdle (h : Tending b) (harr : cause.arriving = none)
    (hstays : b.holdsReverse s = false) : Moves cause b.control (b.onStreamIdle s).control := by
  unfold onStreamIdle
  cases hst : b.stored s with
  | none => exact moves_refl harr
  | some entry =>
    obtain ⟨r, o⟩ := entry
    have hheld := held_of_stored hst
    have hother : ∀ kind, o.state.kind = some kind → kind = .tcp := by
      intro kind hkind
      by_contra hne
      rw [hkind] at hheld
      have hreverse := (holdsReverse_iff b s).mpr ⟨r, kind, hheld, hne⟩
      rw [hstays] at hreverse
      exact nomatch hreverse
    rw [control_send, control_deleteStream]
    cases hstate : o.state with
    | http | ws =>
      rw [hstate] at hheld
      exact ⟨_, (((Calm.refl b.control).drop hheld).send h.wsOpen rfl).move (deaf_of_none harr)⟩
    | tcp accepted =>
      rw [hstate] at hheld
      obtain ⟨events, hcontrol, hclose⟩ := tells_teardown b r accepted
      rw [hcontrol]
      have hgone := h.tended.no_target hheld nofun
      exact ⟨_, .ends harr ⟨hheld, rfl, fun ho => ho.1 rfl, fun _ hx => hx, hgone⟩
        ⟨rfl, rfl, fun _ _ ho => ho.2, fun _ _ _ hx => hx, if_pos h.wsOpen⟩ (.inl rfl)
        (fun _ => .inl ⟨events, rfl, hclose⟩)⟩
    | reverseLocal =>
      rw [hstate] at hother
      exact nomatch hother _ rfl
    | reverseRelay =>
      rw [hstate] at hother
      exact nomatch hother _ rfl

theorem Tending.timers (h : Tending b) (timers : Nat → Option IdleTimer) :
    Tending { b with timers := timers } :=
  ⟨h.tended, ⟨h.laid.wired, h.laid.tagged⟩, h.closed, h.wsOpen⟩

theorem move_timeout (h : Tending b) (harr : cause.arriving = none) (timer : Nat)
    (hstays : ∀ armed, b.timers timer = some armed → armed.due ≤ b.now →
      b.holdsReverse armed.stream = false) : Moves cause b.control (b.timeout timer).control := by
  unfold timeout
  cases harmed : b.timers timer with
  | none => exact moves_refl harr
  | some armed =>
    dsimp only
    split
    · next hdue =>
        exact move_onStreamIdle (h.timers (update b.timers timer none)) harr
          (hstays armed harmed hdue)
    · exact moves_refl harr

/-! ### Frames of the agent -/

/-- The frames of requests and WebSockets leave the TCP streams alone. -/
theorem calm_setOther (hst : b.stored s = some (r, o))
    (hkind : o.state.kind = none) (hstate : state.kind = none) :
    Calm b.control ((b.setState r state).refreshIdleTimer s r).control [] := by
  have hsame : b.kindOf r = state.kind := by
    rw [kindOf_of_stored hst, hkind, hstate]
  rw [control_refreshIdleTimer, control_setState b hsame]
  exact Calm.refl b.control

theorem calm_removeOther (hst : b.stored s = some (r, o)) (hkind : o.state.kind = none) :
    Calm b.control (b.removeStream s).control [] := by
  refine calm_removeFree b (Calm.refl b.control) ?_
  rw [held_of_stored hst, hkind]
  rfl

/-- Most frames free nothing. -/
theorem calm_handleJsonFrame {frame : JsonFrame} (hack : ∀ s ok, frame ≠ .tcpOpenAck s ok)
    (hopen : ∀ s, frame ≠ .tcpOpenReverse s) (hclose : ∀ s, frame ≠ .tcpClose s)
    (herr : ∀ s, frame = .httpErr s → b.held s = none) :
    Calm b.control (b.handleJsonFrame frame).control [] := by
  have hrest := Calm.refl b.control
  unfold handleJsonFrame
  cases frame with
  | httpRes s =>
    dsimp only
    split
    · next hst => exact calm_setOther hst rfl rfl
    · exact hrest
  | httpResEnd s | wsReject s | wsClose s =>
    dsimp only
    split
    · next hst => exact calm_removeOther hst rfl
    · exact hrest
  | httpErr s =>
    have hfree := herr s rfl
    dsimp only
    split
    · exact hrest
    · exact calm_removeFree b hrest hfree
    · next hst =>
        rw [teardownStream_free (get?_of_stored hst).1 hfree]
        exact calm_removeFree b hrest hfree
  | wsAccept s upgraded =>
    dsimp only
    split
    · next hst =>
        split
        · exact calm_setOther hst rfl rfl
        · exact hrest
    · exact hrest
  | wsMsgText s =>
    dsimp only
    split
    · rw [control_refreshIdleTimer]
      exact hrest
    · exact hrest
  | tcpOpenAck s ok => exact absurd rfl (hack s ok)
  | tcpOpenReverse s => exact absurd rfl (hopen s)
  | tcpClose s => exact absurd rfl (hclose s)
  | other => exact hrest

section

variable (h : Tending b)
include h

theorem held_none_of_low (hlow : s < agentReverseIdBase) (hother : ∀ r, b.held s ≠ some (r, .tcp)) :
    b.held s = none := by
  cases hheld : b.held s with
  | none => rfl
  | some entry =>
    obtain ⟨r, kind⟩ := entry
    have htcp : kind = .tcp := h.tended.is_tcp hlow hheld
    rw [htcp] at hheld
    exact absurd hheld (hother r)

/-- An answer to an open of the primary. -/
theorem move_tcpOpenAck (ok : Bool) (harr : cause.arriving = if ok then none else some (s, .closes))
    (hlow : ok = false → s < agentReverseIdBase) :
    Moves cause b.control (b.handleJsonFrame (.tcpOpenAck s ok)).control := by
  unfold handleJsonFrame
  dsimp only
  split
  · next r accepted timer refreshedAt opening hst =>
      have hheld : b.held s = some (r, .tcp) := held_of_stored hst
      cases ok with
      | true =>
        have hsame : b.kindOf r = (StreamState.tcp true).kind := kindOf_of_stored hst
        rw [if_pos rfl, control_emit, control_refreshIdleTimer, control_setState b hsame]
        exact ((Calm.refl b.control).emit r .opened).moves harr
      | false =>
        rw [if_neg Bool.false_ne_true, control_emit, control_emit, control_removeStream]
        have hgone := h.tended.no_target hheld nofun
        refine ⟨_, .drops harr ⟨hheld, rfl, fun ho => ho.1 rfl, fun _ hx => hx, hgone⟩
          ⟨rfl, rfl, fun _ _ ho => ho.2, fun _ _ _ hx => hx, (append_nil _).symm⟩
          fun _ => ⟨[(r, .error), (r, .close)], ?_, mem_cons_of_mem _ (mem_cons_self ..)⟩⟩
        exact append_assoc ..
  · next hno =>
      refine ⟨_, (Calm.refl b.control).move ?_⟩
      cases ok with
      | true => exact deaf_of_none harr
      | false =>
        intro s' n hsome
        rw [harr] at hsome
        injection hsome with hpair
        injection hpair with hs hn
        refine ⟨hn.symm, ?_⟩
        rw [← hs]
        refine held_none_of_low h (hlow rfl) fun r hheld => ?_
        obtain ⟨⟨r', o⟩, hst, hkind⟩ := bind_eq_some_iff.mp hheld
        obtain ⟨kind, hkind, hpair⟩ := map_eq_some_iff.mp hkind
        have htcp : kind = .tcp := congrArg Prod.snd hpair
        obtain ⟨state, timer, refreshedAt, opening⟩ := o
        cases state with
        | tcp accepted => exact hno _ _ _ _ _ hst
        | http | ws => exact nomatch hkind
        | reverseLocal | reverseRelay =>
          rw [htcp] at hkind
          exact nomatch hkind

/-- An open of the agent is refused, or reserves its id for a dispatch. -/
theorem move_tcpOpenReverse (harr : cause.arriving = some (s, .opens))
    (hhigh : agentReverseIdBase ≤ s) :
    Moves cause b.control (b.handleTcpOpenReverse s).control := by
  have hrefuse : Move cause b.control (b.send (.tcpOpenAck s false)).control
      [.tcpOpenAck s false] :=
    .refuses harr hhigh rfl (fun _ hx => hx)
      ⟨rfl, rfl, fun _ _ ho => ho, fun _ _ _ hx => hx, if_pos h.wsOpen⟩
  unfold handleTcpOpenReverse
  rw [if_neg (Nat.not_lt.mpr hhigh)]
  split
  · exact ⟨_, hrefuse⟩
  · next hgate =>
      have hget : b.streams.get? s = none := by
        rw [Bool.or_eq_true, not_or] at hgate
        exact not_isSome_iff_eq_none.mp hgate.1
      have hheld : b.held s = none := by
        rw [held_eq, hget]
        rfl
      have hnamed : ∀ s r, b.newBuffer.streams.get? s = some r → r < b.newBuffer.fresh :=
        fun s r hst => Nat.lt_succ_of_lt (h.laid.wired.stored_named s r hst)
      have hstore := control_storeStream b.newBuffer hnamed s (.reverseLocal none b.fresh 0)
        b.newBuffer.fresh
      have htasks := congrArg Control.tasks hstore
      refine ⟨_, .accepts (s := s) (r := b.newBuffer.fresh) (n := b.newBuffer.fresh + 2) harr
        hhigh hheld ?_ ?_ ⟨rfl, rfl, ?_, ?_, (append_nil _).symm⟩⟩
      · exact congrArg Control.held hstore
      · intro x hx
        rcases tasks_newDispatch _ hx with hold | hnew
        · exact .inl (htasks ▸ hold)
        · exact .inr hnew
      · intro s' hs hother
        have hothers := congrFun (congrArg Control.others hstore) s'
        have hst : (b.newBuffer.control.store s (some (b.newBuffer.fresh, .reverseLocal))).others
            s' := hothers ▸ hother
        change (if s' = s then _ else _) at hst
        by_cases hsame : s' = s
        · rw [if_pos hsame] at hst
          cases hst
        · rw [if_neg hsame] at hst
          exact hst
      · exact fun _ _ _ hx => hx

/-- A close of the agent. -/
theorem move_tcpClose (harr : cause.arriving = some (s, .closes)) :
    Moves cause b.control (b.handleJsonFrame (.tcpClose s)).control := by
  unfold handleJsonFrame
  dsimp only
  cases hst : b.stored s with
  | none =>
    refine ⟨_, (Calm.refl b.control).move ?_⟩
    intro s' n hsome
    rw [harr] at hsome
    injection hsome with hpair
    injection hpair with hs hn
    rw [← hs, ← hn]
    exact ⟨rfl, held_of_none hst⟩
  | some entry =>
    obtain ⟨r, state, timer, refreshedAt, opening⟩ := entry
    have hheld := held_of_stored hst
    cases state with
    | http | ws =>
      refine ⟨_, (Calm.refl b.control).move ?_⟩
      intro s' n hsome
      rw [harr] at hsome
      injection hsome with hpair
      injection hpair with hs hn
      rw [← hs, ← hn]
      exact ⟨rfl, hheld⟩
    | tcp accepted =>
      have hgone := h.tended.no_target hheld nofun
      rw [control_emit, control_removeStream]
      exact ⟨_, .drops harr ⟨hheld, rfl, fun ho => ho.1 rfl, fun _ hx => hx, hgone⟩
        ⟨rfl, rfl, fun _ _ ho => ho.2, fun _ _ _ hx => hx, (append_nil _).symm⟩
        fun _ => ⟨[(r, .close)], rfl, mem_cons_self ..⟩⟩
    | reverseLocal socket =>
      have hgone := h.tended.no_target hheld nofun
      have hkind : HeldKind.reverseLocal ≠ .tcp := nofun
      cases socket with
      | none =>
        dsimp only [Option.elim]
        rw [control_removeStream]
        exact ⟨_, drops_reverse (t := b.tasks) harr hheld hkind (fun _ hx => hx)
          (fun _ _ _ hx => hx) hgone⟩
      | some k =>
        dsimp only [Option.elim]
        rw [control_destroySocket, control_removeStream]
        have hdestroyed : ∀ x, ((b.removeStream s).destroySocket k).tasks x → b.tasks x := by
          intro x hx
          have hremoved := tasks_destroySocket _ hx
          rw [tasks_removeStream] at hremoved
          exact hremoved
        refine ⟨_, drops_reverse (t := ((b.removeStream s).destroySocket k).tasks) harr
          hheld hkind hdestroyed (fun k' s' _ hx => ?_) fun k' hx => hgone k' (hdestroyed _ hx)⟩
        have hremoved : (b.removeStream s).tasks (.target k' s') := by
          rw [tasks_removeStream]
          exact hx
        exact hremoved
    | reverseRelay k =>
      have hkind : HeldKind.reverseRelay k ≠ .tcp := nofun
      have htask : b.tasks (.target k s) := h.tended.relayed s r k hheld
      have hwithout : (b.removeStream s).withoutTarget k = b.withoutTarget k := by
        unfold withoutTarget
        rw [tasks_removeStream]
      rw [control_destroyTarget, control_removeStream, hwithout]
      refine ⟨_, drops_reverse (t := b.withoutTarget k) harr hheld hkind (fun _ hx => hx.1) ?_ ?_⟩
      · intro k' s' hs hx
        refine ⟨hx, fun s'' hsame => ?_⟩
        injection hsame with hk
        rw [hk] at hx
        exact hs (targets_unique hx htask)
      · intro k' hx
        obtain ⟨r', hheld'⟩ := h.tended.targeted k' s hx.1
        rw [show b.control.held s = b.held s from rfl, hheld] at hheld'
        have hkinds := congrArg Prod.snd (some.inj hheld')
        injection hkinds with hk
        exact hx.2 s (by rw [hk])

end

/-! ### Bytes of the agent -/

theorem control_received (b : PilotTunnelBridge) (opening s r : Nat) (p : Payload) :
    ((b.receive opening p).refreshIdleTimer s r).control = b.control := by
  rw [control_refreshIdleTimer, control_receive]

theorem control_kept (state : StreamState) (hkind : b.kindOf r = state.kind)
    (opening buffer s : Nat) (p : Payload) :
    ((((b.receive opening p).refreshIdleTimer s r).push buffer p).setState r state).control =
      b.control := by
  have hsame : (((b.receive opening p).refreshIdleTimer s r).push buffer p).kindOf r = state.kind :=
    (kindOf_refreshIdleTimer (b.receive opening p) s r r).trans hkind
  rw [control_setState _ hsame, control_push, control_received]

section

variable (h : Tending b) (harr : cause.arriving = none)
include h harr

/-- A reservation whose buffer overflows is dropped and the agent told. -/
theorem move_overflow (hheld : b.held s = some (r, .reverseLocal)) {b' : PilotTunnelBridge}
    (hsame : b'.control = b.control) :
    Move cause b.control (b'.dropStream s).control [.tcpClose s] := by
  have hgone := h.tended.no_target hheld nofun
  unfold dropStream
  rw [control_send, control_removeStream, hsame]
  have hkind : HeldKind.reverseLocal ≠ .tcp := nofun
  exact ends_reverse (t := b.tasks) harr h.wsOpen hheld hkind (fun _ hx => hx)
    (fun _ _ _ hx => hx) hgone (.inl rfl)

/-- Over the cap the id is freed. -/
theorem move_handleTcpData (hst : b.stored s = some (r, o)) (bytes : List UInt8)
    (hstays : ∀ target pendingData pendingBytes,
      o.state = .reverseRelay target false pendingData pendingBytes →
        pendingBytes + bytes.length ≤ streamPendingDataMaxBytes) :
    Moves cause b.control (b.handleTcpData s r o bytes).control := by
  have hrest : Moves cause b.control b.control := moves_refl harr
  have hkindOf := kindOf_of_stored hst
  have hheld := held_of_stored hst
  unfold handleTcpData
  cases hstate : o.state with
  | http | ws => exact hrest
  | tcp =>
    rw [control_emit, control_refreshIdleTimer]
    exact ((Calm.refl b.control).emit r .data).moves harr
  | reverseLocal socket buffer held =>
    rw [hstate] at hheld hkindOf
    cases socket with
    | some k =>
      rw [control_writeLocal, control_received]
      exact hrest
    | none =>
      dsimp only
      split
      · exact ⟨_, move_overflow h harr hheld (control_received b _ _ _ _)⟩
      · rw [control_kept (.reverseLocal none buffer (held + bytes.length)) hkindOf]
        exact hrest
  | reverseRelay target isOpen buffer held =>
    rw [hstate] at hheld hkindOf
    dsimp only
    cases isOpen with
    | true =>
      rw [if_pos rfl, control_writeTarget, control_received]
      exact hrest
    | false =>
      have hfits := hstays target buffer held hstate
      rw [if_neg Bool.false_ne_true, if_neg (Nat.not_lt.mpr hfits),
        control_kept (.reverseRelay target false buffer (held + bytes.length)) hkindOf]
      exact hrest

end

theorem calm_handleBinaryFrame {frame : BinaryFrame} (hdata : ∀ s bytes, frame ≠ .tcpData s bytes) :
    Calm b.control (b.handleBinaryFrame frame).control [] := by
  have hrest := Calm.refl b.control
  unfold handleBinaryFrame
  cases frame with
  | httpResBody s =>
    dsimp only
    split
    · next hst => exact calm_setOther hst rfl rfl
    · exact hrest
  | wsMessageBinary s =>
    dsimp only
    split
    · rw [control_refreshIdleTimer]
      exact hrest
    · exact hrest
  | tcpData s bytes => exact absurd rfl (hdata s bytes)
  | other => exact hrest

/-! ### Every step -/

theorem moves_dispatch (harr : cause.arriving = none)
    {f : PilotTunnelBridge → Dispatch → PilotTunnelBridge}
    (hf : ∀ d, b.dispatches n = some d → Moves cause b.control (f b d).control) :
    Moves cause b.control (b.dispatchEvent n f).control := by
  unfold dispatchEvent
  cases hd : b.dispatches n with
  | none => exact moves_refl harr
  | some d => exact hf d hd

/-- The events that leave a bridge up, handed what an agent can send. -/
structure Ordinary (e : BridgeEvent) : Prop where
  wsClosing : e ≠ .wsClosing
  close : e ≠ .close
  malformed : e ≠ .malformed
  opens : ∀ s, e = .json (.tcpOpenReverse s) → agentReverseIdBase ≤ s
  acks : ∀ s, e = .json (.tcpOpenAck s false) → s < agentReverseIdBase

section

variable (h : Tending b)
include h

/-- A text frame is a move. -/
theorem move_json {frame : JsonFrame} (hordinary : Ordinary (.json frame))
    (hstays : ¬ b.Strands (.json frame)) :
    Moves (b.cause (.json frame)) b.control (b.handleJsonFrame frame).control := by
  cases frame with
  | tcpOpenAck s ok =>
    refine move_tcpOpenAck h ok rfl fun hok => ?_
    rw [hok] at hordinary
    exact hordinary.acks s rfl
  | tcpOpenReverse s => exact move_tcpOpenReverse h rfl (hordinary.opens s rfl)
  | tcpClose s => exact move_tcpClose h rfl
  | httpRes | httpResEnd | httpErr | wsAccept | wsReject | wsMsgText | wsClose | other =>
    refine (calm_handleJsonFrame (fun _ _ hno => by cases hno) (fun _ hno => by cases hno)
      (fun _ hno => by cases hno) fun s herr => ?_).moves rfl
    by_contra hheld
    rw [herr] at hstays
    exact hstays hheld

/-- A binary frame is a move. -/
theorem move_binary {frame : BinaryFrame} (hstays : ¬ b.Strands (.binary frame)) :
    Moves (b.cause (.binary frame)) b.control (b.binaryFrame frame).control := by
  unfold binaryFrame
  cases frame with
  | httpResBody | wsMessageBinary | other =>
    exact (calm_handleBinaryFrame fun _ _ hno => by cases hno).moves rfl
  | tcpData s bytes =>
    unfold handleBinaryFrame
    dsimp only
    cases hst : b.stored s with
    | none => exact moves_refl rfl
    | some entry =>
      obtain ⟨r, o⟩ := entry
      refine move_handleTcpData h rfl hst bytes fun target buffer held hstate => ?_
      by_contra hover
      obtain ⟨state, timer, refreshedAt, opening⟩ := o
      dsimp only at hstate
      rw [hstate] at hst
      exact hstays ⟨r, target, buffer, held, timer, refreshedAt, opening, hst,
        Nat.lt_of_not_le hover⟩

/-- A step of an open bridge is a move, unless it drops a half and leaves the other. -/
theorem move_step {e : BridgeEvent} (hordinary : Ordinary e) (hstays : ¬ b.Strands e) :
    Moves (b.cause e) b.control (step b e).control := by
  have hopens : ∀ {p : Prop}, ¬ (b.full = false ∧ ¬ p) → b.full = false → p :=
    fun hno hfull => Classical.byContradiction fun hbad => hno ⟨hfull, hbad⟩
  cases e with
  | elapse ms => exact moves_refl rfl
  | timeout timer =>
    refine move_timeout h rfl timer fun armed harmed hdue => ?_
    by_contra hreverse
    exact hstays ⟨armed, harmed, hdue, Bool.not_eq_false _ |>.mp hreverse⟩
  | wsClosing => exact absurd rfl hordinary.wsClosing
  | close => exact absurd rfl hordinary.close
  | malformed => exact absurd rfl hordinary.malformed
  | openTcpStream =>
    exact move_openTcpStream h (hopens hstays) rfl fun hfull => ⟨rfl, hfull, rfl⟩
  | loopbackRequest =>
    obtain ⟨frames, hcalm⟩ := calm_openOther h (hopens hstays)
      (.http false) rfl .httpReq fun _ => rfl
    exact hcalm.moves rfl
  | loopbackUpgrade =>
    obtain ⟨frames, hcalm⟩ := calm_openOther h (hopens hstays)
      (.ws true false) rfl .wsOpen fun _ => rfl
    exact hcalm.moves rfl
  | loopback s event =>
    obtain ⟨_, hcalm⟩ := calm_loopbackEvent h (Classical.not_not.mp hstays) event
    exact hcalm.moves rfl
  | writeTcpData s bytes =>
    obtain ⟨frames, hcalm⟩ := calm_writeTcpData h s bytes
    exact hcalm.moves rfl
  | closeTcpStream s =>
    refine move_closeTcpStream h rfl rfl fun hlisted => ?_
    by_contra htcp
    exact hstays ⟨hlisted, Bool.eq_false_iff.mpr htcp⟩
  | json frame =>
    change Moves _ _ (if b.closed then b else _).control
    rw [h.closed]
    exact move_json h hordinary hstays
  | binary frame =>
    change Moves _ _ (if b.closed then b else _).control
    rw [h.closed]
    exact move_binary h hstays
  | imported n imported =>
    refine moves_dispatch rfl fun d hd => ?_
    unfold onImported
    split
    · next hstage => exact move_resumeImport h rfl hd hstage imported
    · exact moves_refl rfl
  | resolved n resolved =>
    refine moves_dispatch rfl fun d hd => ?_
    unfold onResolved
    split
    · next hstage => exact move_resumeResolve h rfl hd hstage resolved
    · exact moves_refl rfl
  | ensured n ensured =>
    refine moves_dispatch rfl fun d hd => ?_
    unfold onEnsured
    split
    · next hstage => exact move_resumeEnsureBridge h rfl hd hstage ensured
    · exact moves_refl rfl
  | socket k event => exact move_socketEvent h rfl k event
  | target k event => exact move_targetEvent h rfl k event

/-- A move keeps an open bridge tended. -/
theorem Tending.step {e : BridgeEvent} {frames : List Frame}
    (hm : Move (b.cause e) b.control (Mesh.step b e).control frames)
    (hfree : ∀ s, e.tells = some (s, .opens) → ∀ x, b.tasks x → x.id ≠ s) :
    Tending (Mesh.step b e) :=
  ⟨h.tended.move hm hfree, h.laid.step e, hm.up.1.trans h.closed, hm.up.2.1.trans h.wsOpen⟩

end

/-- A new bridge tends its ids. -/
theorem tending_new : Tending PilotTunnelBridge.new where
  tended := by
    have htasks : ∀ x, ¬ PilotTunnelBridge.new.control.tasks x := by
      intro x hx
      cases x with
      | dispatch n d => exact nomatch hx.1
      | socket k s | target k s =>
        obtain ⟨_, hno, _⟩ := hx
        exact nomatch hno
    exact ⟨fun x _ hx => absurd hx (htasks x), fun _ _ _ _ hx => absurd hx (htasks _),
      fun _ _ _ hx => absurd hx (htasks _), fun _ _ hx => absurd hx (htasks _),
      nofun, fun x hx => absurd hx (htasks x),
      nofun, fun _ _ ho => ho.1 rfl⟩
  laid := laid_new
  closed := rfl
  wsOpen := rfl

end Moves

end PilotTunnelBridge

end Sencho.Mesh
