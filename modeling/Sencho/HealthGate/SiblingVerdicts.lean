import Sencho.HealthGate.SiblingGates

/-!
# Verdicts beside a container operation

Two runs that make similar calls after an operation on some services of a stack: every
gate of a sibling gets the same verdicts in both, and so does the gate of every token that
is left.

A sibling whose prepare still waits for its snapshot has no token yet, so nothing is taken
out of it: its gate will judge the operated containers.
-/

namespace Sencho.HealthGate

open Verified GitOps List HealthGateService

theorem Similar.draws {svc : String → Option String} {named : List String}
    {call call' : HealthGateCall} (h : Similar svc named call call') :
    call'.draws = call.draws := by
  cases h with
  | same | read | snapshot => rfl

namespace HealthGateService

variable {s s' : HealthGateService} {op : Operation} {W V P : String → Prop}
variable {t : HealthGateService}

/-! ## Begins -/

/-- A token always opens, under a fresh run. -/
theorem openGate_ready (htidy : Tidy s) (token : String) {runId : String} (p : PreparedGate)
    (actor : Option String) (now : Int) (hfr : runId ∉ s.drawn) :
    ∃ opened, (s.ready token p runId now).openGate (p.run runId now actor) (p.gate runId now) =
        some opened ∧
      opened.2 = decide ((s.ready token p runId now).active.length < maxConcurrentGates) := by
  have hconsumed : Tidy (s.consumeToken token now) := htidy.quiet (quiet_consumeToken token now)
  obtain ⟨_, hdrawn, _⟩ := endGates_keeps (s.consumeToken token now)
    (onService p.nodeId p.stackName p.serviceName) supersededReason now
  have hended := hconsumed.endings (endings_endGates (s := s.consumeToken token now)
    (onService p.nodeId p.stackName p.serviceName) supersededReason now)
  have hout : runId ∉ ((s.consumeToken token now).endGates
      (onService p.nodeId p.stackName p.serviceName) supersededReason now).drawn := by
    rw [hdrawn]
    exact hfr
  unfold openGate
  by_cases hcap : (s.ready token p runId now).active.length ≥ maxConcurrentGates
  · have hinsert := @insertHealthGateRun_isSome _ (p.run runId now actor).overCap hended hout
    obtain ⟨t, ht⟩ := Option.isSome_iff_exists.mp hinsert
    have ht' : (s.ready token p runId now).insertHealthGateRun (p.run runId now actor).overCap =
      some t := ht
    rw [if_pos hcap, ht']
    exact ⟨_, rfl, (decide_eq_false (Nat.not_lt_of_le hcap)).symm⟩
  · have hinsert := @insertHealthGateRun_isSome _ (p.run runId now actor) hended hout
    obtain ⟨t, ht⟩ := Option.isSome_iff_exists.mp hinsert
    have ht' : (s.ready token p runId now).insertHealthGateRun (p.run runId now actor) =
      some t := ht
    rw [if_neg hcap, ht']
    exact ⟨_, rfl, (decide_eq_true (Nat.lt_of_not_le hcap)).symm⟩

theorem SameTokens.droppedAt (h : SameTokens op V s s') (token : String) (now : Int) :
    s'.droppedAt token now = s.droppedAt token now := by
  unfold HealthGateService.droppedAt
  rw [(h.swept now).dropped]

/-- The tokens of two begins. -/
theorem SameTokens.tokenAt (h : SameTokens op V s s') (token : String) (now : Int) :
    (s.tokenAt token now = none ∧ s'.tokenAt token now = none) ∨
      ∃ p p', s.tokenAt token now = some p ∧ s'.tokenAt token now = some p' ∧ SameToken op V p p' :=
  forall₂_find? (h.swept now).tokens fun p p' hpp => by rw [hpp.token]

theorem Alike.consumed (h : Alike op W V s s') (token : String) (now : Int) :
    SameGates op (fun r => W r ∨ r ∉ s.drawn) (s.consumeToken token now)
      (s'.consumeToken token now) :=
  h.gates.unseen (fun _ _ => ⟨rfl, rfl, rfl⟩) fun _ _ => ⟨rfl, rfl, rfl⟩

/-- Two tokens ready to open their gates. -/
theorem Alike.ready (h : Alike op W V s s') (token : String) {p p' : PreparedGate}
    (hpp : SameToken op V p p') (runId : String) (now : Int) :
    SameTokens op V (s.ready token p runId now) (s'.ready token p' runId now) ∧
      SameGates op (fun r => W r ∨ r ∉ s.drawn) (s.ready token p runId now)
        (s'.ready token p' runId now) ∧
      (s.ready token p runId now).drawn = runId :: s.drawn := by
  have htidy : Tidy (s.consumeToken token now) := h.tidy.quiet (quiet_consumeToken token now)
  have htidy' : Tidy (s'.consumeToken token now) := h.tidy'.quiet (quiet_consumeToken token now)
  have hwhere : onService p'.nodeId p'.stackName p'.serviceName =
      onService p.nodeId p.stackName p.serviceName := by
    rw [hpp.nodeId, hpp.stackName, hpp.serviceName]
  unfold HealthGateService.ready
  rw [hwhere]
  have htokens := (h.tokens.consumed token now).ended htidy htidy'
    (onService p.nodeId p.stackName p.serviceName) supersededReason now
  have hgates := (h.consumed token now).endGates htidy htidy'
    (onService p.nodeId p.stackName p.serviceName) supersededReason now
  obtain ⟨_, _, _, _, heq⟩ := endGates_eq htidy (onService p.nodeId p.stackName p.serviceName)
    supersededReason now
  refine ⟨⟨htokens.started, congrArg (runId :: ·) htokens.drawn, htokens.preparing,
    htokens.dropped, htokens.tokens, htokens.unprepared, fun token' hV =>
      mem_cons_of_mem _ (htokens.watchedDrawn token' hV)⟩,
    hgates.unseen (fun _ _ => ⟨rfl, rfl, rfl⟩) fun _ _ => ⟨rfl, rfl, rfl⟩, ?_⟩
  rw [heq]
  rfl

/-- Both tokens open their gates. -/
theorem SameTokens.opened (h : SameTokens op V s s') {run run' : HealthGateRun}
    {gate gate' : ActiveGate} {opened opened' : HealthGateService × Bool}
    (hopen : s.openGate run gate = some opened) (hopen' : s'.openGate run' gate' = some opened') :
    SameTokens op V opened.1 opened'.1 := by
  obtain ⟨_, _, _, _, heq⟩ := openGate_eq hopen
  obtain ⟨_, _, _, _, heq'⟩ := openGate_eq hopen'
  rw [heq, heq']
  exact ⟨h.started, h.drawn, h.preparing, h.dropped, h.tokens, h.unprepared, h.watchedDrawn⟩

/-- A begin on both sides. -/
theorem Alike.beginPrepared (h : Alike op W V s s') (token : String) (actor : Option String)
    (runId : String) (settings : GateSettings) (now : Int) (hfr : runId ∉ s.drawn) :
    SameTokens op V (s.beginPrepared token actor runId settings now).1
        (s'.beginPrepared token actor runId settings now).1 ∧
      SameGates op (fun r => W r ∨ r ∉ (s.beginPrepared token actor runId settings now).1.drawn)
        (s.beginPrepared token actor runId settings now).1
        (s'.beginPrepared token actor runId settings now).1 := by
  have hquiet := And.intro (h.tokens.consumed token now) (h.consumed token now)
  have hfr' : runId ∉ s'.drawn := by
    rw [h.tokens.drawn]
    exact hfr
  rw [beginPrepared_eq, beginPrepared_eq, h.tokens.started]
  rcases h.tokens.tokenAt token now with ⟨hnone, hnone'⟩ | ⟨p, p', hsome, hsome', hpp⟩
  · rw [hnone, hnone']
    exact hquiet
  · rw [hsome, hsome']
    dsimp only
    by_cases hoff : (!s.started || !settings.enabled) = true
    · rw [if_pos hoff, if_pos hoff]
      exact hquiet
    · rw [if_neg hoff, if_neg hoff]
      obtain ⟨opened, hopen, _⟩ := openGate_ready h.tidy token p actor now hfr
      obtain ⟨opened', hopen', _⟩ := openGate_ready h.tidy' token p' actor now hfr'
      obtain ⟨htokens, hgates, hdrawn⟩ := h.ready token hpp runId now
      rw [hopen, hopen']
      have hdrawn' : opened.1.drawn = runId :: s.drawn := by
        rw [openGate_drawn hopen]
        exact hdrawn
      rw [hdrawn']
      have hother : ∀ r, W r ∨ r ∉ runId :: s.drawn → r ≠ runId := by
        rintro r (hW | hout) rfl
        · exact hfr (h.watchedDrawn r hW)
        · exact hout mem_cons_self
      have hless := hgates.mono (Q := fun r => W r ∨ r ∉ runId :: s.drawn) fun r hr =>
        hr.imp_right fun hout hin => hout (mem_cons_of_mem _ hin)
      refine ⟨htokens.opened hopen hopen', hless.unseen (fun r hr => ?_) fun r hr => ?_⟩
      · exact openGate_unseen hopen (hother r hr)
      · exact openGate_unseen hopen' (hother r hr)

/-- What decides when tokens begin. -/
def tokenFace (s : HealthGateService) :
    Bool × List String × List Preparing × List (String × Int) × List PreparedGate :=
  (s.started, s.drawn, s.preparing, s.droppedPrepared, s.prepared)

theorem endGate_tokenFace (s : HealthGateService) (runId : String) (v : GateVerdict) (now : Int) :
    (s.endGate runId v now).tokenFace = s.tokenFace := by
  cases hfind : s.active.find? fun g => g.runId = runId with
  | none => rw [endGate_of_not_active hfind]
  | some g =>
    obtain ⟨_, _, heq⟩ := endGate_of_active hfind v now
    rw [heq]
    rfl

theorem pollRead_tokenFace (s : HealthGateService) (runId : String)
    (read : StackHealthFactsOutcome) (now : Int) :
    (s.pollRead runId read now).tokenFace = s.tokenFace := by
  unfold pollRead
  cases s.active.find? fun g => g.runId = runId with
  | none => rfl
  | some gate =>
    dsimp only
    split
    · rfl
    · cases read with
      | ok containers => rfl
      | unsupported => exact endGate_tokenFace s _ _ now
      | unavailable node =>
        dsimp only
        split
        · exact endGate_tokenFace _ _ _ now
        · rfl

theorem pollSettle_tokenFace (s : HealthGateService) (runId : String)
    (declared : Option (String → Option (Option String))) (now : Int) :
    (s.pollSettle runId declared now).tokenFace = s.tokenFace := by
  unfold pollSettle
  cases s.polls.find? fun p => p.1 = runId with
  | none => rfl
  | some poll =>
    cases s.active.find? fun g => g.runId = runId with
    | none => rfl
    | some gate =>
      dsimp only
      cases pollCycle (gate.readDeclaredRestart declared) poll.2 now with
      | error v => exact endGate_tokenFace _ _ _ now
      | ok gate' => rfl

theorem SameTokens.of_face (h : SameTokens op V s s') {t' : HealthGateService}
    (ht : t.tokenFace = s.tokenFace) (ht' : t'.tokenFace = s'.tokenFace) :
    SameTokens op V t t' := by
  simp only [tokenFace, Prod.mk.injEq] at ht ht'
  obtain ⟨hstarted, hdrawn, hpreparing, hdropped, hprepared⟩ := ht
  obtain ⟨hstarted', hdrawn', hpreparing', hdropped', hprepared'⟩ := ht'
  refine ⟨?_, ?_, ?_, ?_, ?_, ?_, ?_⟩
  · rw [hstarted, hstarted', h.started]
  · rw [hdrawn, hdrawn', h.drawn]
  · rw [hpreparing, hpreparing', h.preparing]
  · rw [hdropped, hdropped', h.dropped]
  · rw [hprepared, hprepared']
    exact h.tokens
  · rw [hpreparing]
    exact h.unprepared
  · rw [hdrawn]
    exact h.watchedDrawn

theorem drawn_of_face (h : t.tokenFace = s.tokenFace) : t.drawn = s.drawn := by
  simp only [tokenFace, Prod.mk.injEq] at h
  exact h.2.1

theorem dropTokens_drawn (s : HealthGateService) (q : PreparedGate → Bool) :
    (s.dropTokens q).drawn = s.drawn := by
  rw [dropTokens_eq]

theorem supersede_drawn (s : HealthGateService) (nodeId : Int) (stackName reason : String)
    (serviceNames : List String) (now : Int) :
    (s.supersedeForContainerOp nodeId stackName reason serviceNames now).1.drawn = s.drawn := by
  unfold supersedeForContainerOp
  dsimp only
  generalize serviceNames.filter (fun name => name ≠ "") = named
  split
  · unfold supersedeStack
    rw [dropTokens_drawn]
    exact (endGates_keeps s _ reason now).2.1
  · unfold supersedeServices
    rw [dropTokens_drawn]
    exact (endGates_keeps s _ reason now).2.1

theorem endPrepare_drawn (s : HealthGateService) (token : String)
    (snapshot : Option (List StackContainerFact)) (composeTimeoutMs : Int) :
    (s.endPrepare token snapshot composeTimeoutMs).1.drawn = s.drawn := by
  unfold endPrepare
  cases s.preparing.find? fun p => p.token = token with
  | none | some p => rfl

theorem endPrepare_unseen (s : HealthGateService) (token : String)
    (snapshot : Option (List StackContainerFact)) (composeTimeoutMs : Int) (r : String) :
    (s.endPrepare token snapshot composeTimeoutMs).1.gateOf r = s.gateOf r ∧
      (s.endPrepare token snapshot composeTimeoutMs).1.pollOf r = s.pollOf r ∧
      (s.endPrepare token snapshot composeTimeoutMs).1.verdictsOf r = s.verdictsOf r := by
  unfold endPrepare
  cases s.preparing.find? fun p => p.token = token with
  | none | some p => exact ⟨rfl, rfl, rfl⟩

theorem beginPrepared_drawn (htidy : Tidy s) {token runId : String} (actor : Option String)
    (settings : GateSettings) (now : Int) (hfr : runId ∉ s.drawn) :
    s.drawn ⊆ (s.beginPrepared token actor runId settings now).1.drawn := by
  rw [beginPrepared_eq]
  cases s.tokenAt token now with
  | none => exact .refl _
  | some p =>
    dsimp only
    split
    · exact .refl _
    · obtain ⟨opened, hopen, _⟩ := openGate_ready htidy token p actor now hfr
      rw [hopen]
      rw [openGate_drawn hopen]
      show s.drawn ⊆ runId :: _
      rw [(endGates_keeps (s.consumeToken token now) _ supersededReason now).2.1]
      exact subset_cons_self _ _

/-- A read on both sides: of a run that is watched, or seen by no watched run. -/
theorem Alike.pollRead (h : Alike op W V s s') (runId : String)
    {read read' : StackHealthFactsOutcome}
    (hreads : read' = read ∨ ∃ cs cs', read = .ok cs ∧ read' = .ok cs' ∧
      (cs.filter fun c => outside op.svc op.named c.name) =
        cs'.filter fun c => outside op.svc op.named c.name) (now : Int) :
    SameGates op (fun r => W r ∨ r ∉ s.drawn) (s.pollRead runId read now)
      (s'.pollRead runId read' now) := by
  by_cases hrun : W runId ∨ runId ∉ s.drawn
  · exact h.gates.read h.tidy h.tidy' hrun hreads now
  · have hother : ∀ r, W r ∨ r ∉ s.drawn → r ≠ runId := by
      rintro r hr rfl
      exact hrun hr
    exact h.gates.unseen (fun r hr => pollRead_unseen h.tidy (hother r hr) read now)
      fun r hr => pollRead_unseen h.tidy' (hother r hr) read' now

/-- A poll that goes on, on both sides. -/
theorem Alike.pollSettle (h : Alike op W V s s') (runId : String)
    (declared : Option (String → Option (Option String))) (now : Int) :
    SameGates op (fun r => W r ∨ r ∉ s.drawn) (s.pollSettle runId declared now)
      (s'.pollSettle runId declared now) := by
  by_cases hrun : W runId ∨ runId ∉ s.drawn
  · exact h.gates.settle h.tidy h.tidy' h.known h.known' hrun declared now
  · have hother : ∀ r, W r ∨ r ∉ s.drawn → r ≠ runId := by
      rintro r hr rfl
      exact hrun hr
    exact h.gates.unseen (fun r hr => pollSettle_unseen h.tidy (hother r hr) declared now)
      fun r hr => pollSettle_unseen h.tidy' (hother r hr) declared now

/-- The watched runs have been drawn, and stay so. -/
theorem Alike.of_views (h : Alike op W V s s') {t' : HealthGateService} (htidy : Tidy t)
    (htidy' : Tidy t') (hknown : KnownFacts op.svc op.nodeId op.stackName t)
    (hknown' : KnownFacts op.svc op.nodeId op.stackName t') (htokens : SameTokens op V t t')
    (hgates : SameGates op (fun r => W r ∨ r ∉ t.drawn) t t') (hdrawn : s.drawn ⊆ t.drawn) :
    Alike op W V t t' :=
  ⟨htidy, htidy', hknown, hknown', htokens, hgates, fun r hr => hdrawn (h.watchedDrawn r hr)⟩

section

variable {call call' : HealthGateCall} (h : Alike op W V s s')
  (hsimilar : Similar op.svc op.named call call') (hlevel : call.gateLevel = true)
include h hsimilar hlevel

/-- What similar calls do, on both sides. -/
theorem Alike.perform (hfr : ∀ id, call.draws = some id → id ∉ s.drawn) :
    SameTokens op V (s.perform call) (s'.perform call') ∧
      SameGates op (fun r => W r ∨ r ∉ (s.perform call).drawn) (s.perform call) (s'.perform call') ∧
      s.drawn ⊆ (s.perform call).drawn := by
  have hkeep : ∀ {t t' : HealthGateService}, t.drawn = s.drawn → SameTokens op V t t' →
      SameGates op (fun r => W r ∨ r ∉ s.drawn) t t' → SameTokens op V t t' ∧
        SameGates op (fun r => W r ∨ r ∉ t.drawn) t t' ∧ s.drawn ⊆ t.drawn := by
    intro t t' hdrawn htokens hgates
    refine ⟨htokens, hgates.mono fun r hr => ?_, ?_⟩
    · rw [hdrawn] at hr
      exact hr
    · rw [hdrawn]
      exact .refl _
  have hread : ∀ (runId : String) (read read' : StackHealthFactsOutcome) (now : Int),
      (read' = read ∨ ∃ cs cs', read = .ok cs ∧ read' = .ok cs' ∧
        (cs.filter fun c => outside op.svc op.named c.name) =
          cs'.filter fun c => outside op.svc op.named c.name) →
      SameTokens op V (s.pollRead runId read now) (s'.pollRead runId read' now) ∧
        SameGates op (fun r => W r ∨ r ∉ (s.pollRead runId read now).drawn)
          (s.pollRead runId read now) (s'.pollRead runId read' now) ∧
        s.drawn ⊆ (s.pollRead runId read now).drawn := fun runId read read' now hreads =>
    hkeep (drawn_of_face (pollRead_tokenFace s runId read now))
      (h.tokens.of_face (pollRead_tokenFace s runId read now)
        (pollRead_tokenFace s' runId read' now)) (h.pollRead runId hreads now)
  have hsnapshot : ∀ (token : String) (snapshot snapshot' : Option (List StackContainerFact))
      (timeout : Int),
      SameTokens op V (s.endPrepare token snapshot timeout).1
          (s'.endPrepare token snapshot' timeout).1 ∧
        SameGates op (fun r => W r ∨ r ∉ (s.endPrepare token snapshot timeout).1.drawn)
          (s.endPrepare token snapshot timeout).1 (s'.endPrepare token snapshot' timeout).1 ∧
        s.drawn ⊆ (s.endPrepare token snapshot timeout).1.drawn :=
    fun token snapshot snapshot' timeout => hkeep (endPrepare_drawn s token snapshot timeout)
      (h.tokens.snapshot token snapshot snapshot' timeout)
      (h.gates.unseen (fun r _ => endPrepare_unseen s token snapshot timeout r)
        fun r _ => endPrepare_unseen s' token snapshot' timeout r)
  cases hsimilar with
  | read runId now hcs => exact hread runId _ _ now (.inr ⟨_, _, rfl, rfl, hcs⟩)
  | snapshot token timeout _ => exact hsnapshot token _ _ timeout
  | same =>
    cases call with
    | prepare token nodeId stackName serviceName trigger expectedReplicas settings now =>
      refine ⟨h.tokens.prepare nodeId stackName serviceName trigger expectedReplicas settings
        now (hfr token rfl), ?_, subset_cons_self _ _⟩
      have hless := h.gates.mono (Q := fun r => W r ∨ r ∉ token :: s.drawn) fun r hr =>
        hr.imp_right fun hout hin => hout (mem_cons_of_mem _ hin)
      exact hless.unseen (fun _ _ => ⟨rfl, rfl, rfl⟩) fun _ _ => ⟨rfl, rfl, rfl⟩
    | snapshot token snapshot timeout => exact hsnapshot token snapshot snapshot timeout
    | attachExpectedImage token imageId now =>
      exact hkeep rfl (h.tokens.attached token imageId now)
        (h.gates.unseen (fun _ _ => ⟨rfl, rfl, rfl⟩) fun _ _ => ⟨rfl, rfl, rfl⟩)
    | beginPrepared token actor runId settings now =>
      obtain ⟨htokens, hgates⟩ := h.beginPrepared token actor runId settings now (hfr runId rfl)
      exact ⟨htokens, hgates, beginPrepared_drawn h.tidy actor settings now (hfr runId rfl)⟩
    | pollRead runId read now => exact hread runId read read now (.inl rfl)
    | pollSettle runId declared now =>
      exact hkeep (drawn_of_face (pollSettle_tokenFace s runId declared now))
        (h.tokens.of_face (pollSettle_tokenFace s runId declared now)
          (pollSettle_tokenFace s' runId declared now)) (h.pollSettle runId declared now)
    | supersedeForContainerOp nodeId stackName reason serviceNames now =>
      obtain ⟨htokens, hgates⟩ := h.supersede nodeId stackName reason serviceNames now
      exact hkeep (supersede_drawn s nodeId stackName reason serviceNames now) htokens hgates
    | beginStack => cases hlevel
    | reserveRecoveryRun => cases hlevel
    | reserveRolloutRun => cases hlevel
    | armReservedRun => cases hlevel
    | armRolloutRun => cases hlevel
    | abandonReservedRun => cases hlevel
    | stop => cases hlevel
    | start => cases hlevel
    | crash => cases hlevel
    | gitops => cases hlevel

/-- Similar calls keep two states alike. -/
theorem Alike.step (hfaithful : Faithful op.svc op.nodeId op.stackName s call)
    (hfaithful' : Faithful op.svc op.nodeId op.stackName s' call') :
    Alike op W V (s.step call) (s'.step call') := by
  have htidy := h.tidy.step call
  have htidy' := h.tidy'.step call'
  have hknown := h.known.step h.tidy hfaithful
  have hknown' := h.known'.step h.tidy' hfaithful'
  unfold HealthGateService.step at htidy htidy' hknown hknown' ⊢
  rw [hsimilar.draws, h.tokens.drawn] at htidy' hknown' ⊢
  by_cases hdrawn : (call.draws.any fun id => id ∈ s.drawn) = true
  · rw [if_pos hdrawn, if_pos hdrawn]
    exact h
  · rw [if_neg hdrawn] at htidy htidy' hknown hknown' ⊢
    rw [if_neg hdrawn]
    obtain ⟨htokens, hgates, hsub⟩ := h.perform hsimilar hlevel (fresh_of_not_any hdrawn)
    exact h.of_views htidy htidy' hknown hknown' htokens hgates hsub

end

/-! ## The operation -/

section Operated

variable {svc : String → Option String} {nodeId : Int} {stackName reason : String}
  {named : List String} {now : Int}
variable {p : PreparedGate}

end Operated

/-! ## Runs after the operation -/

/-- Similar calls, one after another. -/
theorem Alike.run (h : Alike op W V s s') {as bs : List HealthGateCall}
    (hsimilar : List.Forall₂ (Similar op.svc op.named) as bs)
    (hlevel : ∀ call ∈ as, call.gateLevel = true)
    (has : Runs.Along HealthGateService.step (Faithful op.svc op.nodeId op.stackName) s as)
    (hbs : Runs.Along HealthGateService.step (Faithful op.svc op.nodeId op.stackName) s' bs) :
    Alike op W V (runCalls s as) (runCalls s' bs) := by
  induction hsimilar generalizing s s' with
  | nil => exact h
  | cons hcall _ ih =>
    exact ih (h.step hcall (hlevel _ mem_cons_self) has.1 hbs.1)
      (fun call hcall => hlevel call (mem_cons_of_mem _ hcall)) has.2 hbs.2

/-- What two states agree on for some runs and for others, they agree on for all of them. -/
theorem SameGates.or {Q : String → Prop} (h : SameGates op P s s') (h' : SameGates op Q s s') :
    SameGates op (fun r => P r ∨ Q r) s s' where
  gates := fun r hr => hr.elim (h.gates r) (h'.gates r)
  blind := fun r g hr hg => hr.elim (fun hP => h.blind r g hP hg) fun hQ => h'.blind r g hQ hg
  polls := fun r hr => hr.elim (h.polls r) (h'.polls r)
  verdicts := fun r hr => hr.elim (h.verdicts r) (h'.verdicts r)

end HealthGateService

end Sencho.HealthGate
