import Sencho.HealthGate.Changes
import Sencho.HealthGate.PollScope

/-!
# What gates and tokens hold of one stack

Over every run of calls whose reads of one stack name the service of each container,
what the service gates, the tokens and the polls of that stack hold does so too.
-/

namespace Sencho.HealthGate

open Verified GitOps List HealthGateService

namespace HealthGateService

variable {s s' : HealthGateService} {svc : String → Option String} {nodeId : Int}
  {stackName : String}

/-- The gates that end, one after another. -/
theorem foldl_endGate_eq (reason : String) (now : Int) (gs : List ActiveGate)
    (s : HealthGateService) (hactive : (s.active.map fun g => g.runId).Nodup)
    (hmem : ∀ g ∈ gs, g ∈ s.active) (hnodup : (gs.map fun g => g.runId).Nodup) :
    ∃ suppressed runs db delivered,
      gs.foldl (fun s g => s.endGate g.runId ⟨.unknown, some reason, [], none⟩ now) s = { s with
          active := s.active.filter fun g => g.runId ∉ gs.map fun g => g.runId
          verdicts := (gs.reverse.map fun g => (g.runId, ⟨.unknown, some reason, [], none⟩)) ++
            s.verdicts
          suppressedServices := suppressed
          runs := runs
          gitops := db
          delivered := delivered } := by
  induction gs generalizing s with
  | nil => exact ⟨s.suppressedServices, s.runs, s.gitops, s.delivered, by simp⟩
  | cons g gs ih =>
    obtain ⟨hnew, hrest⟩ := nodup_cons.mp hnodup
    have hfind : s.active.find? (fun g' => g'.runId = g.runId) = some g :=
      (find?_key_iff hactive).mpr ⟨hmem g mem_cons_self, rfl⟩
    obtain ⟨db, delivered, hend⟩ := endGate_of_active hfind ⟨.unknown, some reason, [], none⟩ now
    rw [foldl_cons, hend]
    obtain ⟨suppressed, runs, db', delivered', heq⟩ := ih { s with
        active := s.active.filter fun g' => g'.runId ≠ g.runId
        verdicts := (g.runId, ⟨.unknown, some reason, [], none⟩) :: s.verdicts
        suppressedServices := s.released g
        runs := s.runsWith g.runId ⟨.unknown, some reason, [], none⟩ now
        gitops := db
        delivered := delivered }
      ((filter_sublist.map _).nodup hactive)
      (fun g' hg' => mem_filter.mpr ⟨hmem g' (mem_cons_of_mem _ hg'), by
        have hne : g'.runId ≠ g.runId := fun heq =>
          hnew (mem_map.mpr ⟨g', hg', heq⟩)
        exact decide_eq_true hne⟩) hrest
    refine ⟨suppressed, runs, db', delivered', ?_⟩
    rw [heq]
    rw [filter_filter]
    have hboth : (fun g' : ActiveGate => decide (g'.runId ∉ gs.map fun g => g.runId) &&
        decide (g'.runId ≠ g.runId)) =
        fun g' => decide (g'.runId ∉ (g :: gs).map fun g => g.runId) := by
      funext g'
      rw [Bool.eq_iff_iff]
      simp only [Bool.and_eq_true, decide_eq_true_eq, map_cons, mem_cons, not_or]
      exact and_comm
    rw [hboth, reverse_cons, map_append, append_assoc]
    rfl

/-- What the end of several gates writes. -/
theorem endGates_eq (htidy : Tidy s) (p : ActiveGate → Bool) (reason : String) (now : Int) :
    ∃ suppressed runs db delivered, s.endGates p reason now = { s with
          active := s.active.filter fun g => !p g
          verdicts := ((s.active.filter p).reverse.map fun g =>
            (g.runId, ⟨.unknown, some reason, [], none⟩)) ++ s.verdicts
          suppressedServices := suppressed
          runs := runs
          gitops := db
          delivered := delivered } := by
  obtain ⟨suppressed, runs, db, delivered, heq⟩ := foldl_endGate_eq reason now (s.active.filter p)
    s htidy.active_nodup (fun g hg => (mem_filter.mp hg).1)
    ((filter_sublist.map _).nodup htidy.active_nodup)
  refine ⟨suppressed, runs, db, delivered, ?_⟩
  unfold endGates
  rw [heq]
  have hrest : (s.active.filter fun g => g.runId ∉ (s.active.filter p).map fun g => g.runId) =
      s.active.filter fun g => !p g := by
    refine filter_congr fun g hg => ?_
    cases hp : p g with
    | true =>
      have hin : g.runId ∈ (s.active.filter p).map fun g => g.runId :=
        mem_map.mpr ⟨g, mem_filter.mpr ⟨hg, hp⟩, rfl⟩
      simp only [hin, not_true_eq_false, decide_false, Bool.not_true]
    | false =>
      have hout : g.runId ∉ (s.active.filter p).map fun g => g.runId := by
        intro hin
        obtain ⟨g', hg', hid⟩ := mem_map.mp hin
        obtain ⟨hmem, hpg'⟩ := mem_filter.mp hg'
        rw [inj_on_of_nodup_map htidy.active_nodup hmem hg hid, hp] at hpg'
        cases hpg'
      simp only [hout, not_false_eq_true, decide_true, Bool.not_false]
  rw [hrest]

/-- What is held about the containers of a stack names their services; a run that is polled
and a token have been drawn, and no token is held twice. -/
structure KnownFacts (svc : String → Option String) (nodeId : Int) (stackName : String)
    (s : HealthGateService) : Prop where
  gates : ∀ g ∈ s.active, onStack nodeId stackName g = true → g.targetScope = .service → g.Known svc
  tokens : ∀ p ∈ s.prepared, tokenOnStack nodeId stackName p = true → p.Known svc
  polls : ∀ poll ∈ s.polls, ∀ g ∈ s.active, g.runId = poll.1 → onStack nodeId stackName g = true →
    g.targetScope = .service → ∀ c ∈ poll.2, Belongs svc c.toStackContainerFact
  pollDrawn : ∀ poll ∈ s.polls, poll.1 ∈ s.drawn
  distinct : (s.tokens.map Prod.fst).Nodup
  tokenDrawn : ∀ x ∈ s.tokens, x.1 ∈ s.drawn

/-- A call whose reads of a stack name the service of each container. -/
def Faithful (svc : String → Option String) (nodeId : Int) (stackName : String)
    (s : HealthGateService) : HealthGateCall → Prop
  | .pollRead runId (.ok cs) _ => ∀ g ∈ s.active, g.runId = runId →
      onStack nodeId stackName g = true → ∀ c ∈ cs, Belongs svc c
  | .snapshot token (some cs) _ => ∀ q ∈ s.preparing, q.token = token → q.nodeId = nodeId →
      q.stackName = stackName → ∀ c ∈ cs, Belongs svc c
  | _ => True

theorem KnownFacts.init (gitops : Db) : KnownFacts svc nodeId stackName (init gitops) where
  gates := fun _ hg => absurd hg not_mem_nil
  tokens := fun _ hp => absurd hp not_mem_nil
  polls := fun _ hpoll => absurd hpoll not_mem_nil
  pollDrawn := fun _ hpoll => absurd hpoll not_mem_nil
  distinct := nodup_nil
  tokenDrawn := fun _ hx => absurd hx not_mem_nil

/-- A gate that is newly open: a stack gate, or the gate of a token under a fresh run. -/
def Opened (s : HealthGateService) (g : ActiveGate) : Prop :=
  g.targetScope = .stack ∨ ∃ p ∈ s.prepared, ∃ runId now, runId ∉ s.drawn ∧ g = p.gate runId now

section

variable (h : KnownFacts svc nodeId stackName s)
include h

/-- Gates end and open, polls and tokens are dropped. -/
theorem KnownFacts.opens (hactive : ∀ g ∈ s'.active, g ∈ s.active ∨ s.Opened g)
    (hpolls : s'.polls ⊆ s.polls) (hpreparing : s'.preparing.Sublist s.preparing)
    (hprepared : s'.prepared.Sublist s.prepared) (hdrawn : s.drawn ⊆ s'.drawn) :
    KnownFacts svc nodeId stackName s' := by
  have htokens : s'.tokens.Sublist s.tokens := by
    exact (hpreparing.map _).append (hprepared.map _)
  refine ⟨fun g hg hstack hscope => ?_, fun p hp => h.tokens p (hprepared.subset hp),
    fun poll hpoll g hg hid hstack hscope => ?_, fun poll hpoll =>
      hdrawn (h.pollDrawn poll (hpolls hpoll)), (htokens.map _).nodup h.distinct,
    fun x hx => hdrawn (h.tokenDrawn x (htokens.subset hx))⟩
  · rcases hactive g hg with hold | hstackWide | ⟨p, hp, runId, now, _, rfl⟩
    · exact h.gates g hold hstack hscope
    · rw [hstackWide] at hscope
      cases hscope
    · exact (h.tokens p hp hstack).gate runId now
  · rcases hactive g hg with hold | hstackWide | ⟨p, _, runId, now, hfr, rfl⟩
    · exact h.polls poll (hpolls hpoll) g hold hid hstack hscope
    · rw [hstackWide] at hscope
      cases hscope
    · exact absurd (h.pollDrawn poll (hpolls hpoll)) (hid ▸ hfr)

/-- Gates that are written back under their run and their key. -/
theorem KnownFacts.mapped (f : ActiveGate → ActiveGate)
    (hf : ∀ g ∈ s.active, (f g).runId = g.runId ∧ (f g).key = g.key ∧
      (onStack nodeId stackName g = true → g.targetScope = .service → g.Known svc →
        (f g).Known svc)) :
    KnownFacts svc nodeId stackName { s with active := s.active.map f } := by
  have hback : ∀ g' ∈ s.active.map f, ∃ g ∈ s.active, f g = g' ∧ g.runId = g'.runId ∧
      onStack nodeId stackName g = onStack nodeId stackName g' ∧
        g.targetScope = g'.targetScope := by
    intro g' hg'
    obtain ⟨g, hg, rfl⟩ := mem_map.mp hg'
    obtain ⟨hid, hkey, _⟩ := hf g hg
    have hnode : (f g).nodeId = g.nodeId := congrArg GateKey.nodeId hkey
    have hname : (f g).stackName = g.stackName := congrArg GateKey.stackName hkey
    have hscope : (f g).targetScope = g.targetScope := congrArg GateKey.scope hkey
    refine ⟨g, hg, rfl, hid.symm, ?_, hscope.symm⟩
    unfold onStack
    rw [hnode, hname]
  refine ⟨fun g' hg' hstack hscope => ?_, h.tokens, fun poll hpoll g' hg' hid hstack hscope => ?_,
    h.pollDrawn, h.distinct, h.tokenDrawn⟩
  · obtain ⟨g, hg, rfl, _, honStack, hsame⟩ := hback g' hg'
    rw [← honStack] at hstack
    rw [← hsame] at hscope
    exact (hf g hg).2.2 hstack hscope (h.gates g hg hstack hscope)
  · obtain ⟨g, hg, _, hrun, honStack, hsame⟩ := hback g' hg'
    rw [← honStack] at hstack
    rw [← hsame] at hscope
    exact h.polls poll hpoll g hg (hrun.trans hid) hstack hscope

/-- Tokens that are written back under their token. -/
theorem KnownFacts.mappedTokens (f : PreparedGate → PreparedGate)
    (hf : ∀ p ∈ s.prepared, (f p).token = p.token ∧ (f p).nodeId = p.nodeId ∧
      (f p).stackName = p.stackName ∧ (f p).serviceName = p.serviceName ∧
      (tokenOnStack nodeId stackName p = true → p.Known svc → (f p).Known svc)) :
    KnownFacts svc nodeId stackName { s with prepared := s.prepared.map f } := by
  have htokens : ({ s with prepared := s.prepared.map f } : HealthGateService).tokens = s.tokens := by
    unfold HealthGateService.tokens
    rw [map_map]
    refine congrArg _ (map_congr_left fun p hp => ?_)
    obtain ⟨htoken, hnode, hname, hservice, _⟩ := hf p hp
    dsimp only [Function.comp_apply]
    rw [htoken, hnode, hname, hservice]
  refine ⟨h.gates, fun p' hp' hstack => ?_, h.polls, h.pollDrawn, ?_, ?_⟩
  · obtain ⟨p, hp, rfl⟩ := mem_map.mp hp'
    obtain ⟨_, hnode, hname, _, hknown⟩ := hf p hp
    have honStack : tokenOnStack nodeId stackName p = true := by
      unfold tokenOnStack at hstack ⊢
      rw [hnode, hname] at hstack
      exact hstack
    exact hknown honStack (h.tokens p hp honStack)
  · rw [htokens]
    exact h.distinct
  · rw [htokens]
    exact h.tokenDrawn

end

section

variable (h : KnownFacts svc nodeId stackName s)
include h

namespace KnownFacts

theorem endGate (runId : String) (v : GateVerdict) (now : Int) :
    KnownFacts svc nodeId stackName (s.endGate runId v now) := by
  cases hfind : s.active.find? fun g => g.runId = runId with
  | none =>
    rw [endGate_of_not_active hfind]
    exact h
  | some g =>
    obtain ⟨db, delivered, heq⟩ := endGate_of_active hfind v now
    rw [heq]
    exact h.opens (fun g hg => .inl (mem_filter.mp hg).1) (.refl _) (.refl _) (.refl _) (.refl _)

theorem endGates (p : ActiveGate → Bool) (reason : String) (now : Int) :
    KnownFacts svc nodeId stackName (s.endGates p reason now) :=
  foldlRecOn _ _ h fun _ ht g _ => ht.endGate g.runId _ now

theorem beginStack (nodeId' : Int) (stackName' : String)
    (trigger : RunTrigger) (actor generation : Option String) (runId : String)
    (settings : GateSettings) (now : Int) :
    KnownFacts svc nodeId stackName
      (s.beginStack nodeId' stackName' trigger actor generation runId settings now).1 := by
  have hended := h.endGates (onStack nodeId' stackName') supersededReason now
  unfold HealthGateService.beginStack
  split
  · exact h
  · dsimp only
    have hdrawn : KnownFacts svc nodeId stackName
        ((s.endGates (onStack nodeId' stackName') supersededReason now).draw runId) :=
      hended.opens (fun g hg => .inl hg) (.refl _) (.refl _)
        (.refl _) (subset_cons_self _ _)
    cases hopen : ((s.endGates (onStack nodeId' stackName') supersededReason now).draw
        runId).openGate
        (stackRun runId nodeId' stackName' trigger settings.windowSeconds now actor generation)
        (freshGate runId nodeId' stackName' settings.windowSeconds now trigger) with
    | none => exact hdrawn
    | some opened =>
      obtain ⟨_, gates, hgates, _, heq⟩ := openGate_eq hopen
      rw [heq]
      refine hdrawn.opens (fun g hg => ?_) (.refl _) (.refl _) (.refl _) (.refl _)
      rcases mem_append.mp hg with hold | hnew
      · exact .inl hold
      · rw [hgates g hnew]
        exact .inr (.inl rfl)

theorem inserted {runId : String} {run : HealthGateRun}
    (hinsert : (s.draw runId).insertHealthGateRun run = some s') :
    KnownFacts svc nodeId stackName s' := by
  obtain ⟨_, _, heq⟩ := insertHealthGateRun_eq hinsert
  rw [heq]
  exact h.opens (fun g hg => .inl hg) (.refl _) (.refl _) (.refl _) (subset_cons_self _ _)

theorem armReservedStackRun (runId : String) (nodeId' : Int)
    (stackName' : String) (expected : RunTrigger) (now : Int) :
    KnownFacts svc nodeId stackName
      (afterArm (s.armReservedStackRun runId nodeId' stackName' expected now)) := by
  have hended := h.endGates (onStack nodeId' stackName') supersededReason now
  unfold HealthGateService.armReservedStackRun
  split
  · exact h
  · cases s.getHealthGateRun nodeId' stackName' runId with
    | none => exact h
    | some run =>
      dsimp only
      split
      · exact h
      · split
        · exact h
        · split
          · exact hended
          · refine hended.opens (fun g hg => ?_) (.refl _) (.refl _) (.refl _) (.refl _)
            rcases mem_append.mp hg with hold | hnew
            · exact .inl hold
            · rw [mem_singleton.mp hnew]
              exact .inr (.inl rfl)

theorem consumeToken (token : String) (now : Int) :
    KnownFacts svc nodeId stackName (s.consumeToken token now) :=
  h.opens (fun _ hg => .inl hg) (.refl _) (.refl _)
    (filter_sublist.trans filter_sublist) (.refl _)

theorem beginPrepared (htidy : Tidy s) (token : String) (actor : Option String)
    (runId : String) (settings : GateSettings) (now : Int) (hfr : runId ∉ s.drawn) :
    KnownFacts svc nodeId stackName (s.beginPrepared token actor runId settings now).1 := by
  have hconsumed := h.consumeToken token now
  have htidy' : Tidy (s.consumeToken token now) := htidy.quiet (quiet_consumeToken token now)
  rw [beginPrepared_eq]
  cases hfind : s.tokenAt token now with
  | none => exact hconsumed
  | some p =>
    dsimp only
    split
    · exact hconsumed
    · have hp : p ∈ s.prepared := (mem_filter.mp (mem_of_find?_eq_some hfind)).1
      obtain ⟨_, _, _, _, heq⟩ := endGates_eq htidy'
        (onService p.nodeId p.stackName p.serviceName) supersededReason now
      have hends := hconsumed.endGates (onService p.nodeId p.stackName p.serviceName)
        supersededReason now
      cases hopen : (s.ready token p runId now).openGate (p.run runId now actor)
          (p.gate runId now) with
      | none =>
        exact hends.opens (fun g hg => .inl hg) (.refl _) (.refl _) (.refl _) (subset_cons_self _ _)
      | some opened =>
        unfold ready at hopen
        obtain ⟨_, gates, hgates, _, hopened⟩ := openGate_eq hopen
        rw [hopened, heq]
        refine h.opens (fun g hg => ?_) (.refl _) (.refl _) (filter_sublist.trans filter_sublist)
          (subset_cons_self _ _)
        rcases mem_append.mp hg with hold | hnew
        · exact .inl (mem_filter.mp hold).1
        · exact .inr (.inr ⟨p, hp, runId, now, hfr, hgates g hnew⟩)

end KnownFacts

end

theorem nodup_of_subperm {l l' : List String} (h : l.Subperm l') (hnodup : l'.Nodup) : l.Nodup := by
  obtain ⟨l₀, hperm, hsub⟩ := h
  exact hperm.nodup_iff.mp (hsub.nodup hnodup)

theorem tokens_startPrepare (s : HealthGateService) (token : String) (nodeId' : Int)
    (stackName' serviceName : String) (trigger : RunTrigger) (expectedReplicas : Nat)
    (settings : GateSettings) (now : Int) :
    ((s.startPrepare token nodeId' stackName' serviceName trigger expectedReplicas settings
      now).tokens.map Prod.fst).Subperm (token :: s.tokens.map Prod.fst) := by
  unfold tokens startPrepare
  dsimp only [draw, sweepExpiredPrepared]
  simp only [map_append, map_map, map_cons, map_nil, append_assoc, Function.comp_def]
  have hperm : ((s.preparing.map fun p => p.token) ++ ([token] ++ (s.prepared.filter fun p =>
      decide (now < p.expiresAt)).map fun p => p.token)).Perm
      (token :: ((s.preparing.map fun p => p.token) ++ (s.prepared.filter fun p =>
        decide (now < p.expiresAt)).map fun p => p.token)) := perm_middle
  refine hperm.subperm.trans (List.Sublist.subperm ?_)
  exact ((List.Sublist.refl _).append (filter_sublist.map _)).cons_cons token

section

variable (h : KnownFacts svc nodeId stackName s)
include h

namespace KnownFacts

theorem startPrepare (token : String) (nodeId' : Int) (stackName' serviceName : String)
    (trigger : RunTrigger) (expectedReplicas : Nat) (settings : GateSettings) (now : Int)
    (hfr : token ∉ s.drawn) :
    KnownFacts svc nodeId stackName
      (s.startPrepare token nodeId' stackName' serviceName trigger expectedReplicas settings
        now) where
  gates := h.gates
  tokens := fun p hp => h.tokens p (mem_filter.mp hp).1
  polls := h.polls
  pollDrawn := fun poll hpoll => mem_cons_of_mem _ (h.pollDrawn poll hpoll)
  distinct := by
    have hnodup : (token :: s.tokens.map Prod.fst).Nodup := by
      refine nodup_cons.mpr ⟨fun hmem => ?_, h.distinct⟩
      obtain ⟨x, hx, rfl⟩ := mem_map.mp hmem
      exact hfr (h.tokenDrawn x hx)
    exact nodup_of_subperm (tokens_startPrepare s token nodeId' stackName' serviceName trigger
      expectedReplicas settings now) hnodup
  tokenDrawn := fun x hx => by
    have hmem := (tokens_startPrepare s token nodeId' stackName' serviceName trigger
      expectedReplicas settings now).subset (mem_map.mpr ⟨x, hx, rfl⟩)
    rcases mem_cons.mp hmem with heq | hold
    · rw [heq]
      exact mem_cons_self
    · obtain ⟨y, hy, heq⟩ := mem_map.mp hold
      rw [← heq]
      exact mem_cons_of_mem _ (h.tokenDrawn y hy)

theorem endPrepare {token : String} {snapshot : Option (List StackContainerFact)}
    {composeTimeoutMs : Int}
    (hfaithful : Faithful svc nodeId stackName s (.snapshot token snapshot composeTimeoutMs)) :
    KnownFacts svc nodeId stackName (s.endPrepare token snapshot composeTimeoutMs).1 := by
  unfold HealthGateService.endPrepare
  cases hfind : s.preparing.find? fun p => p.token = token with
  | none => exact h
  | some q =>
    obtain ⟨hq, hid⟩ := mem_key_of_find? hfind
    have hids : (({ s with
        preparing := s.preparing.filter fun p => p.token ≠ token
        prepared := s.prepared ++ [q.prepared snapshot composeTimeoutMs] } :
          HealthGateService).tokens.map Prod.fst).Subperm (s.tokens.map Prod.fst) := by
      unfold HealthGateService.tokens
      simp only [map_append, map_map, Function.comp_def, map_cons, map_nil]
      generalize hkept : (s.preparing.filter fun p => decide (p.token ≠ token)).map
        (fun p => p.token) = kept
      have hmiddle : (kept ++ ((s.prepared.map fun p => p.token) ++ [q.token])).Perm
          ((q.token :: kept) ++ s.prepared.map fun p => p.token) :=
        (perm_append_comm.append_left kept).trans perm_middle
      refine hmiddle.subperm.trans ((subperm_append_right _).mpr ?_)
      subst hkept
      have hmem : q.token ∈ s.preparing.map fun p => p.token := mem_map.mpr ⟨q, hq, rfl⟩
      refine cons_subperm_of_not_mem_of_mem ?_ hmem (filter_sublist.map _).subperm
      intro hin
      obtain ⟨p, hp, hpid⟩ := mem_map.mp hin
      exact of_decide_eq_true (mem_filter.mp hp).2 (hpid.trans hid)
    refine ⟨h.gates, fun p hp hstack => ?_, h.polls, h.pollDrawn,
      nodup_of_subperm hids h.distinct, fun x hx => ?_⟩
    · rcases mem_append.mp hp with hold | hnew
      · exact h.tokens p hold hstack
      · rw [mem_singleton.mp hnew] at hstack ⊢
        have hplace : q.nodeId = nodeId ∧ q.stackName = stackName := by
          simpa [tokenOnStack, Preparing.prepared] using hstack
        refine q.prepared_known composeTimeoutMs fun cs hcs c hc => ?_
        cases hcs
        exact hfaithful q hq hid hplace.1 hplace.2 c hc
    · obtain ⟨y, hy, heq⟩ := mem_map.mp (hids.subset (mem_map.mpr ⟨x, hx, rfl⟩))
      rw [← heq]
      exact h.tokenDrawn y hy

theorem attachExpectedImage (token imageId : String) (now : Int) :
    KnownFacts svc nodeId stackName (s.attachExpectedImage token imageId now) := by
  have hswept : KnownFacts svc nodeId stackName (s.sweepExpiredPrepared now) :=
    h.opens (fun _ hg => .inl hg) (.refl _) (.refl _)
      filter_sublist (.refl _)
  refine hswept.mappedTokens
    (fun p => if p.token = token then { p with expectedImageId := some imageId } else p)
    fun p _ => ?_
  split
  · exact ⟨rfl, rfl, rfl, rfl, fun _ hknown => ⟨hknown.baselines, hknown.eligible⟩⟩
  · exact ⟨rfl, rfl, rfl, rfl, fun _ hknown => hknown⟩

/-- A gate written back under its run and its key. -/
theorem setGate {g gate : ActiveGate} (hg : g ∈ s.active) (htidy : Tidy s)
    (hrun : gate.runId = g.runId) (hkey : gate.key = g.key)
    (hknown : onStack nodeId stackName g = true → g.targetScope = .service → g.Known svc →
      gate.Known svc) : KnownFacts svc nodeId stackName (s.setGate gate) := by
  refine h.mapped (fun g' => if g'.runId = gate.runId then gate else g') fun g' hg' => ?_
  by_cases hsame : g'.runId = gate.runId
  · have heq : g' = g :=
      inj_on_of_nodup_map htidy.active_nodup hg' hg (hsame.trans hrun)
    subst heq
    rw [if_pos hsame]
    exact ⟨hrun, hkey, hknown⟩
  · rw [if_neg hsame]
    exact ⟨rfl, rfl, fun _ _ hold => hold⟩

theorem pollRead (htidy : Tidy s) {runId : String} {read : StackHealthFactsOutcome}
    {now : Int} (hfaithful : Faithful svc nodeId stackName s (.pollRead runId read now)) :
    KnownFacts svc nodeId stackName (s.pollRead runId read now) := by
  unfold HealthGateService.pollRead
  cases hfind : s.active.find? fun g => g.runId = runId with
  | none => exact h
  | some gate =>
    obtain ⟨hmem, hid⟩ := mem_key_of_find? hfind
    have hset : ∀ n, KnownFacts svc nodeId stackName
        (s.setGate { gate with consecutivePollErrors := n }) := fun n =>
      h.setGate hmem htidy rfl rfl fun _ _ hknown => hknown.counted n
    dsimp only
    split
    · exact h
    · cases read with
      | ok containers =>
        have hcounted := hset 0
        refine ⟨hcounted.gates, hcounted.tokens, fun poll hpoll g hg hrun hstack hscope => ?_,
          fun poll hpoll => ?_, hcounted.distinct, hcounted.tokenDrawn⟩
        · rcases mem_append.mp hpoll with hold | hnew
          · exact hcounted.polls poll hold g hg hrun hstack hscope
          · rw [mem_singleton.mp hnew] at hrun ⊢
            obtain ⟨g₀, hg₀, heq⟩ := mem_map.mp hg
            have hplace : onStack nodeId stackName gate = true := by
              by_cases hsame : g₀.runId = gate.runId
              · rw [if_pos hsame] at heq
                subst heq
                exact hstack
              · rw [if_neg hsame] at heq
                subst heq
                exact absurd (hrun.trans hid.symm) hsame
            intro c hc
            obtain ⟨f, hf, rfl⟩ := mem_map.mp hc
            exact hfaithful gate hmem hid hplace f hf
        · rcases mem_append.mp hpoll with hold | hnew
          · exact h.pollDrawn poll hold
          · rw [mem_singleton.mp hnew]
            exact hid ▸ htidy.gateDrawn _ _ (mem_faces_of_active hmem)
      | unsupported => exact h.endGate _ _ _
      | unavailable node =>
        dsimp only
        split
        · exact (hset _).endGate _ _ _
        · exact hset _

theorem pollSettle (htidy : Tidy s) (runId : String)
    (declared : Option (String → Option (Option String))) (now : Int) :
    KnownFacts svc nodeId stackName (s.pollSettle runId declared now) := by
  unfold HealthGateService.pollSettle
  cases hpoll : s.polls.find? fun p => p.1 = runId with
  | none => exact h
  | some poll =>
    obtain ⟨hmemPoll, hpollId⟩ := mem_key_of_find? hpoll
    have hsett : KnownFacts svc nodeId stackName
        { s with polls := s.polls.filter fun p => p.1 ≠ runId } :=
      h.opens (fun _ hg => .inl hg) (fun _ hpoll => (mem_filter.mp hpoll).1)
        (.refl _) (.refl _) (.refl _)
    have htidy' : Tidy { s with polls := s.polls.filter fun p => p.1 ≠ runId } :=
      htidy.of_fewer (.refl _) (.refl _) (runsFrom_of_eq rfl)
    cases hfind : s.active.find? fun g => g.runId = runId with
    | none => exact hsett
    | some gate =>
      obtain ⟨hmem, hid⟩ := mem_key_of_find? hfind
      dsimp only
      cases hcycle : pollCycle (gate.readDeclaredRestart declared) poll.2 now with
      | error v => exact hsett.endGate _ _ _
      | ok gate' =>
        have hread : (gate.readDeclaredRestart declared).runId = gate.runId ∧
            (gate.readDeclaredRestart declared).key = gate.key ∧
            (gate.readDeclaredRestart declared).targetScope = gate.targetScope := by
          unfold ActiveGate.readDeclaredRestart
          split <;> exact ⟨rfl, rfl, rfl⟩
        have hseen := seen_pollCycle hcycle
        refine hsett.setGate hmem htidy' (hseen.runId.trans hread.1)
          (hseen.key.trans hread.2.1) fun hstack hscope hknown => ?_
        unfold pollCycle at hcycle
        rw [hread.2.2, hscope] at hcycle
        exact (hknown.readDeclaredRestart declared).poll
          (h.polls poll hmemPoll gate hmem (hid.trans hpollId.symm) hstack hscope) hcycle

theorem dropTokens (q : PreparedGate → Bool) :
    KnownFacts svc nodeId stackName (s.dropTokens q) := by
  rw [dropTokens_eq]
  exact h.opens (fun _ hg => .inl hg) (.refl _) (.refl _) filter_sublist (.refl _)

theorem supersede (nodeId' : Int) (stackName' reason : String)
    (serviceNames : List String) (now : Int) :
    KnownFacts svc nodeId stackName
      (s.supersedeForContainerOp nodeId' stackName' reason serviceNames now).1 := by
  unfold supersedeForContainerOp
  dsimp only
  generalize serviceNames.filter (fun name => name ≠ "") = named
  split
  · exact (h.endGates _ reason now).dropTokens _
  · have hdetached := (h.endGates (endedByOp nodeId' stackName' named) reason now).mapped
      (fun g => if onStack nodeId' stackName' g then named.foldl ActiveGate.detach g else g)
      fun g _ => by
        split
        · obtain ⟨_, _, _, _, _, _, heq⟩ := g.detachAll_eq named
          have hface : (named.foldl ActiveGate.detach g).runId = g.runId ∧
              (named.foldl ActiveGate.detach g).key = g.key := heq ▸ ⟨rfl, rfl⟩
          exact ⟨hface.1, hface.2, fun _ _ hknown => hknown.detachAll named⟩
        · exact ⟨rfl, rfl, fun _ _ hknown => hknown⟩
    have hdropped := hdetached.dropTokens fun p =>
      tokenOnStack nodeId' stackName' p && p.serviceName ∈ named
    refine hdropped.mappedTokens
      (fun p => if tokenOnStack nodeId' stackName' p then named.foldl PreparedGate.detach p else p)
      fun p _ => ?_
    split
    · have hkept : p.Known svc → _ := fun hknown => hknown.detachAll named
      obtain ⟨_, _, heq⟩ := p.detachAll_eq named
      rw [heq] at hkept ⊢
      exact ⟨rfl, rfl, rfl, rfl, fun _ => hkept⟩
    · exact ⟨rfl, rfl, rfl, rfl, fun _ hknown => hknown⟩

/-- A call that leaves the gates, the polls and the tokens. -/
theorem same (hactive : s'.active = s.active) (hpolls : s'.polls = s.polls)
    (hpreparing : s'.preparing = s.preparing) (hprepared : s'.prepared = s.prepared)
    (hdrawn : s.drawn ⊆ s'.drawn) : KnownFacts svc nodeId stackName s' := by
  refine h.opens (fun g hg => .inl ?_) (fun poll hpoll => ?_) ?_ ?_ hdrawn
  · rw [← hactive]
    exact hg
  · rw [← hpolls]
    exact hpoll
  · rw [hpreparing]
  · rw [hprepared]

theorem finalizePersistedRun (run : HealthGateRun) (reason : String) (now : Int) :
    KnownFacts svc nodeId stackName (s.finalizePersistedRun run reason now) := by
  obtain ⟨db, delivered, heq⟩ := finalizePersistedRun_eq s run reason now
  rw [heq]
  exact h.same rfl rfl rfl rfl (.refl _)

theorem start (now : Int) : KnownFacts svc nodeId stackName (s.start now) := by
  have hstarted : KnownFacts svc nodeId stackName { s with started := true } :=
    h.same rfl rfl rfl rfl (.refl _)
  refine foldlRecOn _ _ ?_ fun t ht target _ => ?_
  · exact foldlRecOn _ _ hstarted fun _ ht run _ => ht.finalizePersistedRun run _ now
  · obtain ⟨db, delivered, heq⟩ := reconcileTarget_eq t now target
    rw [heq]
    exact ht.same rfl rfl rfl rfl (.refl _)

end KnownFacts

section

variable {call : HealthGateCall} (htidy : Tidy s) (hfaithful : Faithful svc nodeId stackName s call)
include htidy hfaithful

/-- Every call keeps the facts known. -/
theorem KnownFacts.perform (hfr : ∀ id, call.draws = some id → id ∉ s.drawn) :
    KnownFacts svc nodeId stackName (s.perform call) := by
  cases call with
  | beginStack => exact h.beginStack _ _ _ _ _ _ _ _
  | reserveRecoveryRun recoveryRef nodeId' stackName' generation actor runId settings now =>
    dsimp only [perform]
    unfold reserveRecoveryRun
    split
    · exact h
    · cases s.recoveryRuns recoveryRef with
      | some linked => exact h
      | none =>
        cases hinsert : (s.draw runId).insertHealthGateRun (stackRun runId nodeId' stackName'
            .recovery settings.windowSeconds now actor (some generation)) with
        | none => exact h
        | some t =>
          have ht : KnownFacts svc nodeId stackName t := h.inserted hinsert
          exact ht.same rfl rfl rfl rfl (.refl _)
  | reserveRolloutRun args runId settings now =>
    dsimp only [perform]
    unfold reserveRolloutRun
    split
    · exact h
    · cases s.findRolloutReservation args with
      | some existing => exact h
      | none =>
        cases hinsert : (s.draw runId).insertHealthGateRun (args.run runId settings now) with
        | none => exact h
        | some t => exact h.inserted hinsert
  | armReservedRun | armRolloutRun => exact h.armReservedStackRun _ _ _ _ _
  | abandonReservedRun runId nodeId' stackName' reason now =>
    dsimp only [perform]
    unfold abandonReservedRun
    cases s.getHealthGateRun nodeId' stackName' runId with
    | none => exact h
    | some run =>
      dsimp only
      split
      · have htaken : KnownFacts svc nodeId stackName { s with taken := runId :: s.taken } :=
          h.same rfl rfl rfl rfl (.refl _)
        exact htaken.finalizePersistedRun run reason now
      · exact h
  | prepare => exact h.startPrepare _ _ _ _ _ _ _ _ (hfr _ rfl)
  | snapshot => exact h.endPrepare hfaithful
  | attachExpectedImage => exact h.attachExpectedImage _ _ _
  | beginPrepared => exact h.beginPrepared htidy _ _ _ _ _ (hfr _ rfl)
  | pollRead => exact h.pollRead htidy hfaithful
  | pollSettle => exact h.pollSettle htidy _ _ _
  | supersedeForContainerOp => exact h.supersede _ _ _ _ _
  | stop now =>
    have hoff : KnownFacts svc nodeId stackName { s with started := false } :=
      h.same rfl rfl rfl rfl (.refl _)
    have hended := hoff.endGates (fun _ => true) "shutdown during observation" now
    exact hended.opens (fun _ hg => .inl hg) (.refl _) (.refl _) (nil_sublist _) (.refl _)
  | start now => exact h.start now
  | crash writing now =>
    dsimp only [perform]
    rcases crashWriting_eq s writing now with heq | ⟨_, _, _, _, _, heq⟩
    · rw [heq]
      exact h.opens (fun _ hg => absurd hg not_mem_nil)
        (fun _ hpoll => absurd hpoll not_mem_nil) (nil_sublist _) (nil_sublist _)
        (.refl _)
    · rw [heq]
      exact h.opens (fun _ hg => absurd hg not_mem_nil)
        (fun _ hpoll => absurd hpoll not_mem_nil) (nil_sublist _) (nil_sublist _)
        (.refl _)
  | gitops => exact h.same rfl rfl rfl rfl (.refl _)

theorem KnownFacts.step : KnownFacts svc nodeId stackName (s.step call) := by
  unfold HealthGateService.step
  by_cases hdrawn : (call.draws.any fun id => id ∈ s.drawn) = true
  · rw [if_pos hdrawn]
    exact h
  · rw [if_neg hdrawn]
    exact h.perform htidy hfaithful (fresh_of_not_any hdrawn)

end

end

end HealthGateService

end Sencho.HealthGate
