import Sencho.HealthGate.KnownFacts

/-!
# Gates beside a container operation

A deliberate operation on some services of a stack ends the stack's gates and the
services' own, and takes the services' containers out of the gates and the tokens of
their siblings.  Here are two states that agree on what is left, and what single calls
do to both.
-/

namespace Sencho.HealthGate

open Verified GitOps List Option ActiveGate StackContainerFact

/-- The calls an operation on a service may meet. -/
def HealthGateCall.gateLevel : HealthGateCall → Bool
  | .prepare _ _ _ _ _ _ _ _ | .snapshot _ _ _ | .attachExpectedImage _ _ _
  | .beginPrepared _ _ _ _ _ | .pollRead _ _ _ | .pollSettle _ _ _
  | .supersedeForContainerOp _ _ _ _ _ => true
  | _ => false

/-- Two calls that differ only in what the containers of some services do. -/
inductive Similar (svc : String → Option String) (named : List String) :
    HealthGateCall → HealthGateCall → Prop where
  | same (call : HealthGateCall) : Similar svc named call call
  | read (runId : String) {cs cs' : List StackContainerFact} (now : Int)
      (h : (cs.filter fun c => outside svc named c.name) =
        cs'.filter fun c => outside svc named c.name) :
      Similar svc named (.pollRead runId (.ok cs) now) (.pollRead runId (.ok cs') now)
  | snapshot (token : String) {cs cs' : List StackContainerFact} (composeTimeoutMs : Int)
      (h : (cs.filter fun c => outside svc named c.name) =
        cs'.filter fun c => outside svc named c.name) :
      Similar svc named (.snapshot token (some cs) composeTimeoutMs)
        (.snapshot token (some cs') composeTimeoutMs)

namespace HealthGateService

variable {s s' : HealthGateService} {svc : String → Option String} {named : List String}
  {nodeId : Int} {stackName : String}

/-! ## One run -/

/-- The gate of a run. -/
def gateOf (s : HealthGateService) (r : String) : Option ActiveGate :=
  s.active.find? fun g => g.runId = r

/-- The verdicts written for a run. -/
def verdictsOf (s : HealthGateService) (r : String) : List (String × GateVerdict) :=
  s.verdicts.filter fun x => x.1 = r

/-- The read a run's poll goes on with. -/
def pollOf (s : HealthGateService) (r : String) : Option (String × List ObservedContainer) :=
  s.polls.find? fun p => p.1 = r

theorem gateOf_some {r : String} {g : ActiveGate} (h : s.gateOf r = some g) :
    g ∈ s.active ∧ g.runId = r :=
  mem_key_of_find? h

/-- The gates that meet a condition, looked up by their run. -/
theorem find?_filter_run {gs : List ActiveGate} (hnodup : (gs.map fun g => g.runId).Nodup)
    (p : ActiveGate → Bool) (r : String) :
    ((gs.filter p).find? fun g => g.runId = r) = (gs.find? fun g => g.runId = r).filter p := by
  induction gs with
  | nil => rfl
  | cons g gs ih =>
    obtain ⟨hnew, hrest⟩ := nodup_cons.mp hnodup
    rw [find?_cons, filter_cons]
    by_cases hr : g.runId = r
    · rw [decide_eq_true hr]
      cases hp : p g with
      | true =>
        rw [if_pos rfl, find?_cons, decide_eq_true hr, filter_some, hp]
        rfl
      | false =>
        rw [if_neg Bool.false_ne_true, filter_some, hp, if_neg Bool.false_ne_true]
        refine find?_eq_none.mpr fun g' hg' hid => hnew ?_
        have hid' : g'.runId = r := of_decide_eq_true hid
        exact mem_map.mpr ⟨g', (mem_filter.mp hg').1, hid'.trans hr.symm⟩
    · rw [decide_eq_false hr]
      rw [← ih hrest]
      split
      · rw [find?_cons, decide_eq_false hr]
      · rfl

theorem gateOf_endGates (htidy : Tidy s) (p : ActiveGate → Bool) (reason : String) (now : Int)
    (r : String) : (s.endGates p reason now).gateOf r = (s.gateOf r).filter fun g => !p g := by
  obtain ⟨_, _, _, _, heq⟩ := endGates_eq htidy p reason now
  rw [heq]
  exact find?_filter_run htidy.active_nodup _ r

/-- The verdict a run gets where its gate meets a condition. -/
theorem verdicts_filter_run {gs : List ActiveGate} (hnodup : (gs.map fun g => g.runId).Nodup)
    (p : ActiveGate → Bool) (v : GateVerdict) (r : String) :
    (((gs.filter p).reverse.map fun g => (g.runId, v)).filter fun x => x.1 = r) =
      ((gs.find? fun g => g.runId = r).filter p).toList.map fun g => (g.runId, v) := by
  rw [← find?_filter_run hnodup p r]
  have hkept : ((gs.filter p).map fun g => g.runId).Nodup :=
    (filter_sublist.map _).nodup hnodup
  generalize gs.filter p = kept at hkept
  rw [List.filter_map, filter_reverse]
  have hone : (kept.filter fun g => decide (g.runId = r)) =
      (kept.find? fun g => g.runId = r).toList := by
    induction kept with
    | nil => rfl
    | cons g kept ih =>
      obtain ⟨hnew, hrest⟩ := nodup_cons.mp hkept
      by_cases hr : g.runId = r
      · have hnone : (kept.filter fun g => decide (g.runId = r)) = [] := by
          refine filter_eq_nil_iff.mpr fun g' hg' hid => hnew ?_
          have hid' : g'.runId = r := of_decide_eq_true hid
          exact List.mem_map.mpr ⟨g', hg', hid'.trans hr.symm⟩
        rw [filter_cons_of_pos (by simpa using hr), hnone,
          List.find?_cons_of_pos (by simpa using hr)]
        rfl
      · rw [filter_cons_of_neg (by simpa using hr), List.find?_cons_of_neg (by simpa using hr)]
        exact ih hrest
  have hcomp : ((fun x : String × GateVerdict => decide (x.1 = r)) ∘
      fun g : ActiveGate => (g.runId, v)) = fun g => decide (g.runId = r) := rfl
  rw [hcomp]
  rw [hone]
  cases kept.find? fun g => g.runId = r with
  | none | some g => rfl

theorem verdictsOf_endGates (htidy : Tidy s) (p : ActiveGate → Bool) (reason : String) (now : Int)
    (r : String) : (s.endGates p reason now).verdictsOf r =
      (((s.gateOf r).filter p).toList.map fun g =>
        (g.runId, ⟨.unknown, some reason, [], none⟩)) ++ s.verdictsOf r := by
  obtain ⟨_, _, _, _, heq⟩ := endGates_eq htidy p reason now
  rw [heq]
  unfold verdictsOf
  rw [filter_append, verdicts_filter_run htidy.active_nodup]
  rfl

/-- The end of a gate, seen by any run. -/
theorem endGate_views (htidy : Tidy s) (runId : String) (v : GateVerdict) (now : Int) (r : String) :
    (s.endGate runId v now).gateOf r = (if r = runId then none else s.gateOf r) ∧
      (s.endGate runId v now).verdictsOf r =
        (if r = runId ∧ (s.gateOf runId).isSome then (runId, v) :: s.verdictsOf r
          else s.verdictsOf r) ∧
      (s.endGate runId v now).pollOf r = s.pollOf r := by
  cases hfind : s.active.find? fun g => g.runId = runId with
  | none =>
    have hnone : s.gateOf runId = none := hfind
    rw [endGate_of_not_active hfind, hnone]
    refine ⟨?_, by simp, rfl⟩
    by_cases hr : r = runId
    · rw [if_pos hr, hr]
      exact hnone
    · rw [if_neg hr]
  | some g =>
    have hsome : s.gateOf runId = some g := hfind
    obtain ⟨db, delivered, heq⟩ := endGate_of_active hfind v now
    rw [heq, hsome]
    refine ⟨?_, ?_, rfl⟩
    · unfold gateOf
      rw [find?_filter_run htidy.active_nodup]
      by_cases hr : r = runId
      · rw [if_pos hr, hr, hfind, filter_some]
        have hid := (mem_key_of_find? hfind).2
        simp [hid]
      · rw [if_neg hr]
        cases hother : s.active.find? fun g => g.runId = r with
        | none => rfl
        | some g' =>
          have hid := (mem_key_of_find? hother).2
          rw [filter_some, hid]
          simp [hr]
    · unfold verdictsOf
      rw [filter_cons]
      by_cases hr : r = runId
      · subst hr
        simp
      · have hne : decide (runId = r) = false := decide_eq_false (Ne.symm hr)
        rw [if_neg (by rw [hne]; exact Bool.false_ne_true), if_neg fun h => hr h.1]

theorem setGate_gateOf (gate : ActiveGate) (r : String) : (s.setGate gate).gateOf r =
      (s.gateOf r).map fun g => if g.runId = gate.runId then gate else g := by
  unfold gateOf setGate
  rw [find?_map]
  have hsame : ((fun g : ActiveGate => decide (g.runId = r)) ∘ fun g =>
      if g.runId = gate.runId then gate else g) = fun g => decide (g.runId = r) := by
    funext g
    dsimp only [Function.comp_apply]
    split
    · rename_i hid
      rw [hid]
    · rfl
  rw [hsame]

/-! ## Two runs -/

/-- An operation on some services of a stack, and the service each container belongs to. -/
structure Operation where
  nodeId : Int
  stackName : String
  named : List String
  svc : String → Option String

/-- A gate of the stack that is blind to the operated services. -/
def Operation.Spared (op : Operation) (g : ActiveGate) : Prop :=
  onStack op.nodeId op.stackName g = true ∧ g.Blind op.svc op.named

/-- What a read says outside the operated services. -/
def Operation.rest (op : Operation) (poll : String × List ObservedContainer) :
    List ObservedContainer :=
  without op.svc op.named poll.2

/-- Two states agree on the gates, the polls and the verdicts of some runs. -/
structure SameGates (op : Operation) (P : String → Prop) (s s' : HealthGateService) : Prop where
  gates : ∀ r, P r → s'.gateOf r = s.gateOf r
  blind : ∀ r g, P r → s.gateOf r = some g → op.Spared g
  polls : ∀ r, P r → (s'.pollOf r).map op.rest = (s.pollOf r).map op.rest
  verdicts : ∀ r, P r → s'.verdictsOf r = s.verdictsOf r

/-- Two tokens agree, and are the same where they are watched. -/
structure SameToken (op : Operation) (V : String → Prop) (p p' : PreparedGate) : Prop where
  token : p'.token = p.token
  nodeId : p'.nodeId = p.nodeId
  stackName : p'.stackName = p.stackName
  serviceName : p'.serviceName = p.serviceName
  expiresAt : p'.expiresAt = p.expiresAt
  watched : V p.token → p' = p ∧ tokenOnStack op.nodeId op.stackName p = true ∧
    p.Blind op.svc op.named

/-- Two states agree on what decides when tokens begin. -/
structure SameTokens (op : Operation) (V : String → Prop) (s s' : HealthGateService) : Prop where
  started : s'.started = s.started
  drawn : s'.drawn = s.drawn
  preparing : s'.preparing = s.preparing
  dropped : s'.droppedPrepared = s.droppedPrepared
  tokens : List.Forall₂ (SameToken op V) s.prepared s'.prepared
  unprepared : ∀ q ∈ s.preparing, ¬ V q.token
  watchedDrawn : ∀ token, V token → token ∈ s.drawn

section Views

variable {op : Operation} {P Q V : String → Prop} {t t' : HealthGateService}

section

variable (h : SameGates op P s s')
include h

theorem SameGates.mono (hPQ : ∀ r, Q r → P r) : SameGates op Q s s' :=
  ⟨fun r hr => h.gates r (hPQ r hr), fun r g hr => h.blind r g (hPQ r hr),
    fun r hr => h.polls r (hPQ r hr), fun r hr => h.verdicts r (hPQ r hr)⟩

/-- Changes on either side that some runs do not see. -/
theorem SameGates.unseen (ht : ∀ r, P r → t.gateOf r = s.gateOf r ∧ t.pollOf r = s.pollOf r ∧
      t.verdictsOf r = s.verdictsOf r)
    (ht' : ∀ r, P r → t'.gateOf r = s'.gateOf r ∧ t'.pollOf r = s'.pollOf r ∧
      t'.verdictsOf r = s'.verdictsOf r) : SameGates op P t t' where
  gates := fun r hr => by rw [(ht r hr).1, (ht' r hr).1, h.gates r hr]
  blind := fun r g hr hg => h.blind r g hr (by rw [← (ht r hr).1]; exact hg)
  polls := fun r hr => by rw [(ht r hr).2.1, (ht' r hr).2.1, h.polls r hr]
  verdicts := fun r hr => by rw [(ht r hr).2.2, (ht' r hr).2.2, h.verdicts r hr]

theorem SameGates.endGates (htidy : Tidy s) (htidy' : Tidy s') (p : ActiveGate → Bool)
    (reason : String) (now : Int) :
    SameGates op P (s.endGates p reason now) (s'.endGates p reason now) where
  gates := fun r hr => by
    rw [gateOf_endGates htidy, gateOf_endGates htidy', h.gates r hr]
  blind := fun r g hr hg => by
    rw [gateOf_endGates htidy] at hg
    exact h.blind r g hr (filter_eq_some_iff.mp hg).1
  polls := fun r hr => by
    obtain ⟨_, _, _, _, heq⟩ := endGates_eq htidy p reason now
    obtain ⟨_, _, _, _, heq'⟩ := endGates_eq htidy' p reason now
    rw [heq, heq']
    exact h.polls r hr
  verdicts := fun r hr => by
    rw [verdictsOf_endGates htidy, verdictsOf_endGates htidy', h.gates r hr, h.verdicts r hr]

theorem SameGates.endGate (htidy : Tidy s) (htidy' : Tidy s') {runId : String}
    (hgate : P runId ∨ (s.gateOf runId).isSome = (s'.gateOf runId).isSome) (v : GateVerdict)
    (now : Int) : SameGates op P (s.endGate runId v now) (s'.endGate runId v now) := by
  have hsome : (s'.gateOf runId).isSome = (s.gateOf runId).isSome := by
    rcases hgate with hP | heq
    · rw [h.gates runId hP]
    · exact heq.symm
  refine ⟨fun r hr => ?_, fun r g hr hg => ?_, fun r hr => ?_, fun r hr => ?_⟩
  · rw [(endGate_views htidy runId v now r).1, (endGate_views htidy' runId v now r).1, h.gates r hr]
  · rw [(endGate_views htidy runId v now r).1] at hg
    split at hg
    · cases hg
    · exact h.blind r g hr hg
  · rw [(endGate_views htidy runId v now r).2.2, (endGate_views htidy' runId v now r).2.2]
    exact h.polls r hr
  · rw [(endGate_views htidy runId v now r).2.1, (endGate_views htidy' runId v now r).2.1, hsome,
      h.verdicts r hr]

end

/-- The end of a gate, unseen by the other runs. -/
theorem endGate_unseen (htidy : Tidy s) {runId r : String} (hr : r ≠ runId) (v : GateVerdict)
    (now : Int) : (s.endGate runId v now).gateOf r = s.gateOf r ∧
      (s.endGate runId v now).pollOf r = s.pollOf r ∧
      (s.endGate runId v now).verdictsOf r = s.verdictsOf r := by
  obtain ⟨hgate, hverdicts, hpoll⟩ := endGate_views htidy runId v now r
  rw [if_neg hr] at hgate
  rw [if_neg fun h => hr h.1] at hverdicts
  exact ⟨hgate, hpoll, hverdicts⟩

theorem setGate_unseen (gate : ActiveGate) {r : String} (hr : r ≠ gate.runId) :
    (s.setGate gate).gateOf r = s.gateOf r := by
  rw [setGate_gateOf]
  cases hgate : s.gateOf r with
  | none => rfl
  | some g =>
    have hid := (gateOf_some hgate).2
    rw [map_some, if_neg (by rw [hid]; exact hr)]

theorem SameGates.setGate (h : SameGates op P s s') {gate : ActiveGate}
    (hspared : ∀ r g, P r → s.gateOf r = some g → g.runId = gate.runId → op.Spared gate) :
    SameGates op P (s.setGate gate) (s'.setGate gate) where
  gates := fun r hr => by rw [setGate_gateOf, setGate_gateOf, h.gates r hr]
  blind := fun r g hr hg => by
    rw [setGate_gateOf] at hg
    obtain ⟨g₀, hg₀, rfl⟩ := map_eq_some_iff.mp hg
    split
    · rename_i hid
      exact hspared r g₀ hr hg₀ hid
    · exact h.blind r g₀ hr hg₀
  polls := h.polls
  verdicts := h.verdicts

section

variable {run : HealthGateRun} {gate : ActiveGate} {opened : HealthGateService × Bool}
  (h : s.openGate run gate = some opened)
include h

/-- A new gate, unseen by the other runs. -/
theorem openGate_unseen {r : String} (hr : r ≠ gate.runId) :
    opened.1.gateOf r = s.gateOf r ∧ opened.1.pollOf r = s.pollOf r ∧
      opened.1.verdictsOf r = s.verdictsOf r := by
  obtain ⟨_, gates, hgates, _, heq⟩ := openGate_eq h
  have hnone : (gates.find? fun g => g.runId = r) = none := by
    refine find?_eq_none.mpr fun g hg => ?_
    rw [hgates g hg]
    simpa using Ne.symm hr
  rw [heq]
  refine ⟨?_, rfl, rfl⟩
  unfold gateOf
  rw [find?_append, hnone, or_none]

end

end Views

/-! ## Tokens on both sides -/

section Lists

variable {α : Type} {R : α → α → Prop} {l l' : List α}

section

variable (h : List.Forall₂ R l l')
include h

theorem forall₂_filter {p : α → Bool} (hp : ∀ a b, R a b → p b = p a) :
    List.Forall₂ R (l.filter p) (l'.filter p) := by
  induction h with
  | nil => exact .nil
  | @cons a b l l' hab _ ih =>
    rw [filter_cons, filter_cons, hp a b hab]
    split
    · exact .cons hab ih
    · exact ih

theorem forall₂_map {f : α → α} (hf : ∀ a b, R a b → R (f a) (f b)) :
    List.Forall₂ R (l.map f) (l'.map f) := by
  induction h with
  | nil => exact .nil
  | cons hab _ ih => exact .cons (hf _ _ hab) ih

theorem forall₂_find? {p : α → Bool} (hp : ∀ a b, R a b → p b = p a) :
    (l.find? p = none ∧ l'.find? p = none) ∨
      ∃ a b, l.find? p = some a ∧ l'.find? p = some b ∧ R a b := by
  induction h with
  | nil => exact .inl ⟨rfl, rfl⟩
  | @cons a b l l' hab _ ih =>
    rw [find?_cons, find?_cons, hp a b hab]
    cases p a with
    | true => exact .inr ⟨a, b, rfl, rfl, hab⟩
    | false => exact ih

theorem forall₂_append {m m' : List α} (h' : List.Forall₂ R m m') :
    List.Forall₂ R (l ++ m) (l' ++ m') := by
  induction h with
  | nil => exact h'
  | cons hab _ ih => exact .cons hab ih

end

end Lists

section Tokens

variable {op : Operation} {V : String → Prop}

section

variable (h : SameTokens op V s s')
include h

namespace SameTokens

/-- Tokens written back alike on both sides. -/
theorem mapped (f : PreparedGate → PreparedGate)
    (hf : ∀ p p', SameToken op V p p' → SameToken op V (f p) (f p')) :
    SameTokens op V { s with prepared := s.prepared.map f }
      { s' with prepared := s'.prepared.map f } :=
  ⟨h.started, h.drawn, h.preparing, h.dropped, forall₂_map h.tokens hf, h.unprepared,
    h.watchedDrawn⟩

theorem swept (now : Int) :
    SameTokens op V (s.sweepExpiredPrepared now) (s'.sweepExpiredPrepared now) where
  started := h.started
  drawn := h.drawn
  preparing := h.preparing
  dropped := by
    unfold sweepExpiredPrepared
    rw [h.dropped]
  tokens := forall₂_filter h.tokens fun p p' hpp => by rw [hpp.expiresAt]
  unprepared := h.unprepared
  watchedDrawn := h.watchedDrawn

theorem consumed (token : String) (now : Int) :
    SameTokens op V (s.consumeToken token now) (s'.consumeToken token now) where
  started := h.started
  drawn := h.drawn
  preparing := h.preparing
  dropped := by
    have hswept := (h.swept now).dropped
    unfold consumeToken
    dsimp only
    rw [hswept]
  tokens := forall₂_filter (h.swept now).tokens fun p p' hpp => by rw [hpp.token]
  unprepared := h.unprepared
  watchedDrawn := h.watchedDrawn

theorem attached (token imageId : String) (now : Int) :
    SameTokens op V (s.attachExpectedImage token imageId now)
      (s'.attachExpectedImage token imageId now) := by
  refine (h.swept now).mapped
    (fun p => if p.token = token then { p with expectedImageId := some imageId } else p)
    fun p p' hpp => ?_
  by_cases htoken : p.token = token
  · rw [if_pos htoken, if_pos (hpp.token.trans htoken)]
    exact ⟨hpp.token, hpp.nodeId, hpp.stackName, hpp.serviceName, hpp.expiresAt, fun hV => by
      obtain ⟨rfl, hstack, hblind⟩ := hpp.watched hV
      exact ⟨rfl, hstack, ⟨hblind.own, hblind.baselines, hblind.eligible⟩⟩⟩
  · rw [if_neg htoken, if_neg (by rw [hpp.token]; exact htoken)]
    exact hpp

theorem prepare {token : String} (nodeId' : Int) (stackName' serviceName : String)
    (trigger : RunTrigger) (expectedReplicas : Nat) (settings : GateSettings) (now : Int)
    (hfr : token ∉ s.drawn) :
    SameTokens op V
      (s.startPrepare token nodeId' stackName' serviceName trigger expectedReplicas settings now)
      (s'.startPrepare token nodeId' stackName' serviceName trigger expectedReplicas settings
        now) where
  started := h.started
  drawn := congrArg (token :: ·) h.drawn
  preparing := congrArg (· ++ _) h.preparing
  dropped := (h.swept now).dropped
  tokens := (h.swept now).tokens
  unprepared := fun q hq hV => by
    rcases mem_append.mp hq with hold | hnew
    · exact h.unprepared q hold hV
    · rw [mem_singleton.mp hnew] at hV
      exact hfr (h.watchedDrawn token hV)
  watchedDrawn := fun token' hV => mem_cons_of_mem _ (h.watchedDrawn token' hV)

theorem snapshot (token : String) (snapshot snapshot' : Option (List StackContainerFact))
    (composeTimeoutMs : Int) :
    SameTokens op V (s.endPrepare token snapshot composeTimeoutMs).1
      (s'.endPrepare token snapshot' composeTimeoutMs).1 := by
  unfold endPrepare
  rw [h.preparing]
  cases hfind : s.preparing.find? fun p => p.token = token with
  | none => exact h
  | some q =>
    have hq : q ∈ s.preparing := mem_of_find?_eq_some hfind
    refine ⟨h.started, h.drawn, ?_, h.dropped, forall₂_append h.tokens (.cons ?_ .nil),
      fun q' hq' => h.unprepared q' (mem_filter.mp hq').1, h.watchedDrawn⟩
    · rfl
    · exact ⟨rfl, rfl, rfl, rfl, rfl, fun hV => absurd hV (h.unprepared q hq)⟩

theorem dropped_tokens (q : PreparedGate → Bool) (hq : ∀ p p', SameToken op V p p' → q p' = q p) :
    SameTokens op V (s.dropTokens q) (s'.dropTokens q) := by
  unfold dropTokens
  have hlists := forall₂_filter h.tokens hq
  generalize s.prepared.filter q = ps at hlists
  generalize s'.prepared.filter q = ps' at hlists
  induction hlists generalizing s s' with
  | nil => exact h
  | @cons p p' ps ps' hpp _ ih =>
    refine ih ⟨h.started, h.drawn, h.preparing, ?_, ?_, h.unprepared, h.watchedDrawn⟩
    · show s'.droppedPrepared ++ [(p'.token, p'.expiresAt)] =
        s.droppedPrepared ++ [(p.token, p.expiresAt)]
      rw [h.dropped, hpp.token, hpp.expiresAt]
    · show List.Forall₂ (SameToken op V) (s.prepared.filter fun x => x.token ≠ p.token)
        (s'.prepared.filter fun x => x.token ≠ p'.token)
      rw [hpp.token]
      exact forall₂_filter h.tokens fun a b hab => by rw [hab.token]

end SameTokens

end

theorem SameToken.detached {p p' : PreparedGate} (h : SameToken op V p p') (nodeId' : Int)
    (stackName' : String) (others : List String) :
    SameToken op V
      (if tokenOnStack nodeId' stackName' p then others.foldl PreparedGate.detach p else p)
      (if tokenOnStack nodeId' stackName' p' then others.foldl PreparedGate.detach p' else p') := by
  have hplace : tokenOnStack nodeId' stackName' p' = tokenOnStack nodeId' stackName' p := by
    unfold tokenOnStack
    rw [h.nodeId, h.stackName]
  rw [hplace]
  split
  · have hwatched : V p.token → p' = p ∧ tokenOnStack op.nodeId op.stackName p = true ∧
        (others.foldl PreparedGate.detach p).Blind op.svc op.named := by
      intro hV
      obtain ⟨hsame, hstack, hblind⟩ := h.watched hV
      exact ⟨hsame, hstack, hblind.detachAll others⟩
    obtain ⟨_, _, heq⟩ := p.detachAll_eq others
    obtain ⟨_, _, heq'⟩ := p'.detachAll_eq others
    rw [heq] at hwatched
    rw [heq, heq']
    refine ⟨h.token, h.nodeId, h.stackName, h.serviceName, h.expiresAt, fun hV => ?_⟩
    obtain ⟨rfl, hstack, hblind⟩ := hwatched hV
    exact ⟨heq'.symm.trans heq, hstack, hblind⟩
  · exact h

end Tokens

/-! ## One call on both sides -/

/-- Two states that agree on what is left of a stack beside an operation: on the gates of
some runs and on some tokens. -/
structure Alike (op : Operation) (W V : String → Prop) (s s' : HealthGateService) : Prop where
  tidy : Tidy s
  tidy' : Tidy s'
  known : KnownFacts op.svc op.nodeId op.stackName s
  known' : KnownFacts op.svc op.nodeId op.stackName s'
  tokens : SameTokens op V s s'
  gates : SameGates op (fun r => W r ∨ r ∉ s.drawn) s s'
  watchedDrawn : ∀ r, W r → r ∈ s.drawn

section Calls

variable {op : Operation} {W V P : String → Prop}

theorem any_pollOf (s : HealthGateService) (r : String) :
    (s.polls.any fun p => p.1 = r) = (s.pollOf r).isSome := by
  unfold pollOf
  rw [Bool.eq_iff_iff, List.find?_isSome, List.any_eq_true]

theorem isSome_polls (h : SameGates op P s s') {r : String} (hr : P r) :
    (s'.polls.any fun p => p.1 = r) = s.polls.any fun p => p.1 = r := by
  have hpolls := congrArg isSome (h.polls r hr)
  rw [isSome_map, isSome_map] at hpolls
  rw [any_pollOf, any_pollOf, hpolls]

section

variable {runId r : String} (htidy : Tidy s) (hr : r ≠ runId)
include htidy hr

/-- A read seen by the other runs. -/
theorem pollRead_unseen (read : StackHealthFactsOutcome) (now : Int) :
    (s.pollRead runId read now).gateOf r = s.gateOf r ∧
      (s.pollRead runId read now).pollOf r = s.pollOf r ∧
      (s.pollRead runId read now).verdictsOf r = s.verdictsOf r := by
  unfold pollRead
  cases hfind : s.active.find? fun g => g.runId = runId with
  | none => exact ⟨rfl, rfl, rfl⟩
  | some gate =>
    have hid := (mem_key_of_find? hfind).2
    have hset : ∀ n, (s.setGate { gate with consecutivePollErrors := n }).gateOf r =
        s.gateOf r := fun n => setGate_unseen _ (by
      show r ≠ gate.runId
      rw [hid]
      exact hr)
    dsimp only
    split
    · exact ⟨rfl, rfl, rfl⟩
    · cases read with
      | ok containers =>
        refine ⟨hset 0, ?_, rfl⟩
        unfold pollOf
        rw [find?_append, find?_cons_of_neg (by simpa using Ne.symm hr), find?_nil, or_none]
      | unsupported => exact endGate_unseen htidy hr _ now
      | unavailable node =>
        have hquiet := quiet_setGate
          { gate with consecutivePollErrors := gate.consecutivePollErrors + 1 } hfind htidy
          rfl rfl
        dsimp only
        split
        · obtain ⟨hgate, hpoll, hverdicts⟩ := endGate_unseen (htidy.quiet hquiet) hr
            ⟨.unknown, some (unreadableReason node), [], none⟩ now
          exact ⟨hgate.trans (hset _), hpoll, hverdicts⟩
        · exact ⟨hset _, rfl, rfl⟩

/-- A poll that goes on, seen by the other runs. -/
theorem pollSettle_unseen (declared : Option (String → Option (Option String))) (now : Int) :
    (s.pollSettle runId declared now).gateOf r = s.gateOf r ∧
      (s.pollSettle runId declared now).pollOf r = s.pollOf r ∧
      (s.pollSettle runId declared now).verdictsOf r = s.verdictsOf r := by
  unfold pollSettle
  cases hpoll : s.polls.find? fun p => p.1 = runId with
  | none => exact ⟨rfl, rfl, rfl⟩
  | some poll =>
    have hkept : ((s.polls.filter fun p => p.1 ≠ runId).find? fun p => p.1 = r) =
        s.polls.find? fun p => p.1 = r := by
      rw [find?_filter]
      refine congrArg (s.polls.find? ·) (funext fun p => ?_)
      by_cases hp : p.1 = r
      · simp [hp, hr]
      · simp [hp]
    have htidy' : Tidy { s with polls := s.polls.filter fun p => p.1 ≠ runId } :=
      htidy.of_fewer (.refl _) (.refl _) (runsFrom_of_eq rfl)
    cases hfind : s.active.find? fun g => g.runId = runId with
    | none => exact ⟨rfl, hkept, rfl⟩
    | some gate =>
      have hid := (mem_key_of_find? hfind).2
      dsimp only
      cases hcycle : pollCycle (gate.readDeclaredRestart declared) poll.2 now with
      | error v =>
        obtain ⟨hgate, hpoll', hverdicts⟩ := endGate_unseen htidy' hr v now
        exact ⟨hgate, hpoll'.trans hkept, hverdicts⟩
      | ok gate' =>
        have hrun : gate'.runId = runId := by
          have hread : (gate.readDeclaredRestart declared).runId = gate.runId := by
            unfold readDeclaredRestart
            split <;> rfl
          exact ((seen_pollCycle hcycle).runId.trans hread).trans hid
        refine ⟨setGate_unseen gate' ?_, hkept, rfl⟩
        rw [hrun]
        exact hr

end

/-- The reads of two similar polls, outside the operated services. -/
theorem rest_observed {runId : String} {cs cs' : List StackContainerFact}
    (h : (cs.filter fun c => outside op.svc op.named c.name) =
      cs'.filter fun c => outside op.svc op.named c.name) :
    op.rest (runId, cs'.map observed) =
      op.rest (runId, cs.map observed) := by
  have hrest : ∀ cs : List StackContainerFact, op.rest (runId, cs.map observed) =
        (cs.filter fun c => outside op.svc op.named c.name).map observed := by
    intro cs
    unfold Operation.rest without
    rw [List.filter_map]
    rfl
  rw [hrest, hrest, h]

/-- A read of a run both sides agree on. -/
theorem SameGates.read (h : SameGates op P s s') (htidy : Tidy s) (htidy' : Tidy s')
    {runId : String} (hrun : P runId) {read read' : StackHealthFactsOutcome}
    (hreads : read' = read ∨ ∃ cs cs', read = .ok cs ∧ read' = .ok cs' ∧
      (cs.filter fun c => outside op.svc op.named c.name) =
        cs'.filter fun c => outside op.svc op.named c.name) (now : Int) :
    SameGates op P (s.pollRead runId read now) (s'.pollRead runId read' now) := by
  have hgate : (s'.active.find? fun g => g.runId = runId) =
      s.active.find? fun g => g.runId = runId := h.gates runId hrun
  unfold pollRead
  rw [hgate]
  cases hfind : s.active.find? fun g => g.runId = runId with
  | none => exact h
  | some gate =>
    have hspared := h.blind runId gate hrun hfind
    have hset : ∀ n, SameGates op P (s.setGate { gate with consecutivePollErrors := n })
        (s'.setGate { gate with consecutivePollErrors := n }) := fun n =>
      h.setGate fun _ _ _ _ _ => ⟨hspared.1, hspared.2.counted n⟩
    have hquiet : ∀ n, Tidy (s.setGate { gate with consecutivePollErrors := n }) := fun n =>
      htidy.quiet (quiet_setGate _ hfind htidy rfl rfl)
    have hquiet' : ∀ n, Tidy (s'.setGate { gate with consecutivePollErrors := n }) := fun n =>
      htidy'.quiet (quiet_setGate _ (hgate.trans hfind) htidy' rfl rfl)
    dsimp only
    rw [isSome_polls h hrun]
    by_cases hpolled : (s.polls.any fun p => p.1 = runId) = true
    · rw [if_pos hpolled, if_pos hpolled]
      exact h
    · rw [if_neg hpolled, if_neg hpolled]
      have hok : ∀ cs cs' : List StackContainerFact,
          (cs.filter fun c => outside op.svc op.named c.name) =
            (cs'.filter fun c => outside op.svc op.named c.name) →
          SameGates op P { s.setGate { gate with consecutivePollErrors := 0 } with
              polls := s.polls ++ [(runId, cs.map observed)] }
            { s'.setGate { gate with consecutivePollErrors := 0 } with
              polls := s'.polls ++ [(runId, cs'.map observed)] } := by
        intro cs cs' hcs
        refine ⟨(hset 0).gates, (hset 0).blind, fun r hr => ?_, (hset 0).verdicts⟩
        unfold pollOf
        rw [find?_append, find?_append]
        have hold := h.polls r hr
        unfold pollOf at hold
        cases hs : s.polls.find? fun p => p.1 = r with
        | some poll =>
          rw [hs] at hold
          cases hs' : s'.polls.find? fun p => p.1 = r with
          | none =>
            rw [hs'] at hold
            cases hold
          | some poll' =>
            rw [hs'] at hold
            exact hold
        | none =>
          rw [hs] at hold
          cases hs' : s'.polls.find? fun p => p.1 = r with
          | some poll' =>
            rw [hs'] at hold
            cases hold
          | none =>
            rw [none_or, none_or]
            by_cases hr' : runId = r
            · rw [find?_cons_of_pos (by simpa using hr'),
                find?_cons_of_pos (by simpa using hr'), map_some,
                map_some, rest_observed hcs]
            · rw [find?_cons_of_neg (by simpa using hr'),
                find?_cons_of_neg (by simpa using hr')]
      rcases hreads with rfl | ⟨cs, cs', rfl, rfl, hcs⟩
      · cases read' with
        | ok containers => exact hok containers containers rfl
        | unsupported => exact h.endGate htidy htidy' (.inl hrun) _ now
        | unavailable node =>
          dsimp only
          split
          · exact (hset _).endGate (hquiet _) (hquiet' _) (.inl hrun) _ now
          · exact hset _
      · exact hok cs cs' hcs

/-- What a poll of a spared gate decides depends on what it read outside the operated
services. -/
theorem pollCycle_spared {gate : ActiveGate} (hspared : op.Spared gate)
    {poll poll' : String × List ObservedContainer} (hrest : op.rest poll' = op.rest poll)
    (hpoll : ∀ c ∈ poll.2, Belongs op.svc c.toStackContainerFact)
    (hpoll' : ∀ c ∈ poll'.2, Belongs op.svc c.toStackContainerFact) (now : Int) :
    pollCycle gate poll'.2 now = pollCycle gate poll.2 now := by
  unfold pollCycle
  rw [hspared.2.scope]
  rw [← hspared.2.runServicePollCycle_eq hpoll now, ← hspared.2.runServicePollCycle_eq hpoll' now]
  exact congrArg (fun cs => runServicePollCycle gate cs now) hrest

/-- A poll of a run both sides agree on goes on. -/
theorem SameGates.settle (h : SameGates op P s s') (htidy : Tidy s) (htidy' : Tidy s')
    (hknown : KnownFacts op.svc op.nodeId op.stackName s)
    (hknown' : KnownFacts op.svc op.nodeId op.stackName s') {runId : String} (hrun : P runId)
    (declared : Option (String → Option (Option String))) (now : Int) :
    SameGates op P (s.pollSettle runId declared now) (s'.pollSettle runId declared now) := by
  have hgate : (s'.active.find? fun g => g.runId = runId) =
      s.active.find? fun g => g.runId = runId := h.gates runId hrun
  have hpolls := h.polls runId hrun
  unfold pollOf at hpolls
  unfold pollSettle
  cases hpoll : s.polls.find? fun p => p.1 = runId with
  | none =>
    rw [hpoll] at hpolls
    cases hpoll' : s'.polls.find? fun p => p.1 = runId with
    | none => exact h
    | some poll' =>
      rw [hpoll'] at hpolls
      cases hpolls
  | some poll =>
    rw [hpoll] at hpolls
    cases hpoll' : s'.polls.find? fun p => p.1 = runId with
    | none =>
      rw [hpoll'] at hpolls
      cases hpolls
    | some poll' =>
      rw [hpoll'] at hpolls
      have hrest : op.rest poll' = op.rest poll := some.inj hpolls
      have hkept : ∀ (s : HealthGateService) (r : String),
          ((s.polls.filter fun p => p.1 ≠ runId).find? fun p => p.1 = r) =
            if r = runId then none else s.pollOf r := by
        intro s r
        by_cases hr : r = runId
        · rw [if_pos hr]
          refine find?_eq_none.mpr fun p hp hid => ?_
          have hne : p.1 ≠ runId := of_decide_eq_true (mem_filter.mp hp).2
          exact hne ((of_decide_eq_true hid).trans hr)
        · rw [if_neg hr, find?_filter]
          refine congrArg (s.polls.find? ·) (funext fun p => ?_)
          by_cases hp : p.1 = r
          · simp [hp, hr]
          · simp [hp]
      have hsett : SameGates op P { s with polls := s.polls.filter fun p => p.1 ≠ runId }
          { s' with polls := s'.polls.filter fun p => p.1 ≠ runId } := by
        refine ⟨h.gates, h.blind, fun r hr => ?_, h.verdicts⟩
        show Option.map op.rest ((s'.polls.filter fun p => p.1 ≠ runId).find? fun p => p.1 = r) =
          Option.map op.rest ((s.polls.filter fun p => p.1 ≠ runId).find? fun p => p.1 = r)
        rw [hkept, hkept]
        split
        · rfl
        · exact h.polls r hr
      have htidied : Tidy { s with polls := s.polls.filter fun p => p.1 ≠ runId } :=
        htidy.of_fewer (.refl _) (.refl _) (runsFrom_of_eq rfl)
      have htidied' : Tidy { s' with polls := s'.polls.filter fun p => p.1 ≠ runId } :=
        htidy'.of_fewer (.refl _) (.refl _) (runsFrom_of_eq rfl)
      rw [hgate]
      cases hfind : s.active.find? fun g => g.runId = runId with
      | none => exact hsett
      | some gate =>
        have hspared := h.blind runId gate hrun hfind
        have hid := (mem_key_of_find? hfind).2
        have hpollId := (mem_key_of_find? hpoll).2
        have hpollId' := (mem_key_of_find? hpoll').2
        have hfacts := hknown.polls poll (mem_of_find?_eq_some hpoll) gate
          (mem_of_find?_eq_some hfind) (hid.trans hpollId.symm) hspared.1 hspared.2.scope
        have hfacts' := hknown'.polls poll' (mem_of_find?_eq_some hpoll') gate
          (mem_of_find?_eq_some (hgate.trans hfind)) (hid.trans hpollId'.symm) hspared.1
          hspared.2.scope
        have hread : (gate.readDeclaredRestart declared).nodeId = gate.nodeId ∧
            (gate.readDeclaredRestart declared).stackName = gate.stackName := by
          unfold readDeclaredRestart
          split <;> exact ⟨rfl, rfl⟩
        have hready : op.Spared (gate.readDeclaredRestart declared) := by
          refine ⟨?_, hspared.2.readDeclaredRestart declared⟩
          have hstack := hspared.1
          unfold onStack at hstack ⊢
          rw [hread.1, hread.2]
          exact hstack
        dsimp only
        rw [pollCycle_spared hready hrest hfacts hfacts' now]
        cases hcycle : pollCycle (gate.readDeclaredRestart declared) poll.2 now with
        | error v => exact hsett.endGate htidied htidied' (.inl hrun) v now
        | ok gate' =>
          refine hsett.setGate fun _ _ _ _ _ => ?_
          have hseen := seen_pollCycle hcycle
          have hkey := hseen.key
          have hnode : gate'.nodeId = (gate.readDeclaredRestart declared).nodeId :=
            congrArg GateKey.nodeId hkey
          have hname : gate'.stackName = (gate.readDeclaredRestart declared).stackName :=
            congrArg GateKey.stackName hkey
          refine ⟨?_, ?_⟩
          · have hstack := hready.1
            unfold onStack at hstack ⊢
            rw [hnode, hname]
            exact hstack
          · unfold pollCycle at hcycle
            rw [hready.2.scope] at hcycle
            exact hready.2.poll hfacts hcycle

/-- Gates detached on both sides. -/
theorem SameGates.detached (h : SameGates op P s s') (p : ActiveGate → Bool)
    (others : List String) :
    SameGates op P
      { s with active := s.active.map fun g => if p g then others.foldl detach g else g }
      { s' with
        active := s'.active.map fun g => if p g then others.foldl detach g else g } := by
  have hmap : ∀ (s : HealthGateService) (r : String),
      ((s.active.map fun g => if p g then others.foldl detach g else g).find? fun g =>
        g.runId = r) = (s.gateOf r).map fun g => if p g then others.foldl detach g else g := by
    intro s r
    rw [find?_map]
    have hsame : ((fun g : ActiveGate => decide (g.runId = r)) ∘ fun g =>
        if p g then others.foldl detach g else g) = fun g => decide (g.runId = r) := by
      funext g
      dsimp only [Function.comp_apply]
      split
      · obtain ⟨_, _, _, _, _, _, heq⟩ := g.detachAll_eq others
        rw [heq]
      · rfl
    rw [hsame]
    rfl
  refine ⟨fun r hr => ?_, fun r g hr hg => ?_, h.polls, h.verdicts⟩
  · unfold gateOf
    rw [hmap, hmap, h.gates r hr]
  · unfold gateOf at hg
    rw [hmap] at hg
    obtain ⟨g₀, hg₀, rfl⟩ := map_eq_some_iff.mp hg
    obtain ⟨hstack, hblind⟩ := h.blind r g₀ hr hg₀
    split
    · refine ⟨?_, hblind.detachAll others⟩
      obtain ⟨_, _, _, _, _, _, heq⟩ := g₀.detachAll_eq others
      rw [heq]
      exact hstack
    · exact ⟨hstack, hblind⟩

theorem dropTokens_unseen (s : HealthGateService) (q : PreparedGate → Bool) (r : String) :
    (s.dropTokens q).gateOf r = s.gateOf r ∧ (s.dropTokens q).pollOf r = s.pollOf r ∧
      (s.dropTokens q).verdictsOf r = s.verdictsOf r := by
  rw [dropTokens_eq]
  exact ⟨rfl, rfl, rfl⟩

section

variable {V : String → Prop} (h : SameTokens op V s s')
include h

theorem SameTokens.ended (htidy : Tidy s) (htidy' : Tidy s') (p : ActiveGate → Bool)
    (reason : String) (now : Int) :
    SameTokens op V (s.endGates p reason now) (s'.endGates p reason now) := by
  obtain ⟨_, _, _, _, heq⟩ := endGates_eq htidy p reason now
  obtain ⟨_, _, _, _, heq'⟩ := endGates_eq htidy' p reason now
  rw [heq, heq']
  exact ⟨h.started, h.drawn, h.preparing, h.dropped, h.tokens, h.unprepared, h.watchedDrawn⟩

theorem SameTokens.regated (gates gates' : List ActiveGate) :
    SameTokens op V { s with active := gates } { s' with active := gates' } :=
  ⟨h.started, h.drawn, h.preparing, h.dropped, h.tokens, h.unprepared, h.watchedDrawn⟩

end

/-- A container operation on both sides. -/
theorem Alike.supersede (h : Alike op W V s s') (nodeId' : Int) (stackName' reason : String)
    (serviceNames : List String) (now : Int) :
    SameTokens op V (s.supersedeForContainerOp nodeId' stackName' reason serviceNames now).1
        (s'.supersedeForContainerOp nodeId' stackName' reason serviceNames now).1 ∧
      SameGates op (fun r => W r ∨ r ∉ s.drawn)
        (s.supersedeForContainerOp nodeId' stackName' reason serviceNames now).1
        (s'.supersedeForContainerOp nodeId' stackName' reason serviceNames now).1 := by
  unfold supersedeForContainerOp
  dsimp only
  generalize serviceNames.filter (fun name => name ≠ "") = others
  have hplaced : ∀ p p', SameToken op V p p' →
      tokenOnStack nodeId' stackName' p' = tokenOnStack nodeId' stackName' p := by
    intro p p' hpp
    unfold tokenOnStack
    rw [hpp.nodeId, hpp.stackName]
  split
  · have hgates := h.gates.endGates h.tidy h.tidy' (onStack nodeId' stackName') reason now
    have htokens := h.tokens.ended h.tidy h.tidy' (onStack nodeId' stackName') reason now
    exact ⟨htokens.dropped_tokens _ hplaced, hgates.unseen (fun r _ => dropTokens_unseen _ _ r)
      fun r _ => dropTokens_unseen _ _ r⟩
  · have hgates := (h.gates.endGates h.tidy h.tidy' (endedByOp nodeId' stackName' others) reason
      now).detached (onStack nodeId' stackName') others
    have htokens := h.tokens.ended h.tidy h.tidy' (endedByOp nodeId' stackName' others) reason now
    have hdetached := htokens.regated
      ((s.endGates (endedByOp nodeId' stackName' others) reason now).active.map fun g =>
        if onStack nodeId' stackName' g then others.foldl detach g else g)
      ((s'.endGates (endedByOp nodeId' stackName' others) reason now).active.map fun g =>
        if onStack nodeId' stackName' g then others.foldl detach g else g)
    have hdropped := hdetached.dropped_tokens
      (fun p => tokenOnStack nodeId' stackName' p && p.serviceName ∈ others) fun p p' hpp => by
        rw [hplaced p p' hpp, hpp.serviceName]
    exact ⟨hdropped.mapped _ fun p p' hpp => hpp.detached nodeId' stackName' others,
      hgates.unseen (fun r _ => dropTokens_unseen _ _ r) fun r _ => dropTokens_unseen _ _ r⟩

end Calls

end HealthGateService

end Sencho.HealthGate
