import Sencho.HealthGate.Service

/-!
# What a service gate looks at

A service gate judges its replicas and the siblings it prepared with.  Once the siblings
of some services have been dropped from it, the containers of these services no longer
matter to any poll, whatever a read says about them.

A container belongs to one service, which its name tells.
-/

namespace Sencho.HealthGate

open GitOps List ActiveGate

/-- Whether a container name belongs to none of some services. -/
def outside (svc : String → Option String) (named : List String) (name : String) : Bool :=
  !(svc name).any fun service => service ∈ named

variable {svc : String → Option String} {named : List String} {baseline : ObservedContainer}

theorem outside_of_service {name service : String} (h : svc name = some service)
    (hnot : service ∉ named) : outside svc named name = true := by
  unfold outside
  rw [h]
  simp [hnot]

theorem outside_iff {name : String} :
    outside svc named name = true ↔ ∀ service ∈ named, svc name ≠ some service := by
  unfold outside
  cases svc name with
  | none => simp
  | some service =>
    simp only [Option.any_some, Bool.not_eq_true', decide_eq_false_iff_not, ne_eq,
      Option.some.injEq]
    constructor
    · intro hnot t ht heq
      exact hnot (heq ▸ ht)
    · intro h hmem
      exact h service hmem rfl

/-- A list without the containers of some services. -/
def without (svc : String → Option String) (named : List String) (cs : List ObservedContainer) :
    List ObservedContainer :=
  cs.filter fun c => outside svc named c.name

variable {c : ObservedContainer}

section Reads

variable {cs : List ObservedContainer} {p : ObservedContainer → Bool}

section

variable (hp : ∀ c ∈ cs, p c = true → outside svc named c.name = true)
include hp

theorem filter_without : (without svc named cs).filter p = cs.filter p := by
  unfold without
  rw [filter_filter]
  refine filter_congr fun c hc => ?_
  cases hpc : p c with
  | false => rfl
  | true => rw [hp c hc hpc]; rfl

theorem find?_without : (without svc named cs).find? p = cs.find? p := by
  rw [← head?_filter, ← head?_filter, filter_without hp]

theorem any_without : (without svc named cs).any p = cs.any p := by
  rw [Bool.eq_iff_iff, any_eq_true, any_eq_true]
  constructor
  · rintro ⟨c, hc, hpc⟩
    exact ⟨c, (mem_filter.mp hc).1, hpc⟩
  · rintro ⟨c, hc, hpc⟩
    exact ⟨c, mem_filter.mpr ⟨hc, hp c hc hpc⟩, hpc⟩

end

theorem lookupName_without {name : String} (h : outside svc named name = true) :
    lookupName (without svc named cs) name = lookupName cs name := by
  have hreverse : (without svc named cs).reverse = without svc named cs.reverse := by
    unfold without
    rw [filter_reverse]
  unfold lookupName
  rw [hreverse]
  refine find?_without fun c _ hname => ?_
  rw [of_decide_eq_true hname]
  exact h

theorem accounted_without (h : outside svc named baseline.name = true) :
    accounted (without svc named cs) baseline = accounted cs baseline := by
  unfold accounted
  rw [lookupName_without h]

theorem mem_lookupName {name : String} (h : lookupName cs name = some c) : c ∈ cs ∧ c.name = name :=
  ⟨mem_reverse.mp (mem_of_find?_eq_some h), by simpa using find?_some h⟩

theorem mem_setNamed {c d : ObservedContainer} (h : d ∈ setNamed cs c) : d ∈ cs ∨ d = c := by
  unfold setNamed at h
  split at h
  · obtain ⟨e, he, heq⟩ := mem_map.mp h
    split at heq
    · exact .inr heq.symm
    · exact .inl (heq ▸ he)
  · rcases mem_append.mp h with hold | hnew
    · exact .inl hold
    · exact .inr (mem_singleton.mp hnew)

end Reads

section Learning

variable {P : StackContainerFact → Prop} {gate gate' : ActiveGate}
  {observed : List ObservedContainer}
variable {c : ObservedContainer}

/-- Every container a gate expects meets a condition. -/
def ActiveGate.Expects (gate : ActiveGate) (P : StackContainerFact → Prop) : Prop :=
  ∀ e ∈ gate.expected.getD [], P e.toStackContainerFact

theorem expects_setNamed (h : gate.Expects P) (hc : P c.toStackContainerFact) :
    ∀ e ∈ (gate.expected.map fun expected => setNamed expected c).getD [],
      P e.toStackContainerFact := by
  unfold ActiveGate.Expects at h
  cases hexp : gate.expected with
  | none =>
    intro e he
    exact absurd he not_mem_nil
  | some expected =>
    rw [hexp] at h
    intro e he
    rcases mem_setNamed he with hold | rfl
    · exact h e hold
    · exact hc

theorem accounted_fact (h : accounted observed baseline = some c) :
    ∃ seen ∈ observed, seen.name = baseline.name ∧
      c.toStackContainerFact = seen.toStackContainerFact := by
  obtain ⟨seen, hseen, rfl⟩ := Option.map_eq_some_iff.mp h
  obtain ⟨hmem, hname⟩ := mem_lookupName hseen
  exact ⟨seen, hmem, hname, rfl⟩

/-- An expected container is written back under what was seen of it. -/
theorem checkContainer_expects {noun : String} {fail : String → GateVerdict} {exit : Bool}
    (h : checkContainer observed noun fail gate baseline = .ok (gate', exit))
    (hexpects : gate.Expects P) (hbaseline : P baseline.toStackContainerFact)
    (hseen : ∀ c ∈ observed, ∀ f, P f → f.name = c.name → P c.toStackContainerFact) :
    gate'.Expects P ∧ gate'.roleByName = gate.roleByName := by
  unfold HealthGate.checkContainer at h
  cases hacc : accounted observed baseline with
  | none =>
    simp only [hacc] at h
    split at h
    · cases h
    · cases h
      exact ⟨hexpects, rfl⟩
  | some current =>
    obtain ⟨seen, hmem, hname, hfact⟩ := accounted_fact hacc
    have hcur : P current.toStackContainerFact := by
      rw [hfact]
      exact hseen seen hmem baseline.toStackContainerFact hbaseline hname.symm
    have hkept := expects_setNamed hexpects hcur
    simp only [hacc] at h
    split at h
    · split at h
      · cases h
        exact ⟨hexpects, rfl⟩
      · cases h
    · split at h
      · cases h
      · split at h
        · cases h
        · split at h
          · split at h
            · cases h
            · cases h
              exact ⟨hkept, rfl⟩
          · cases h
            exact ⟨hkept, rfl⟩

theorem checkContainers_expects {noun : GateRole → String} {fail : GateRole → String → GateVerdict}
    {expected : List ObservedContainer} {role : Option GateRole}
    (h : checkContainers observed noun fail expected gate = .ok (gate', role))
    (hexpects : gate.Expects P) (hexp : ∀ e ∈ expected, P e.toStackContainerFact)
    (hseen : ∀ c ∈ observed, ∀ f, P f → f.name = c.name → P c.toStackContainerFact) :
    gate'.Expects P ∧ gate'.roleByName = gate.roleByName := by
  unfold HealthGate.checkContainers at h
  generalize hinit : (none : Option GateRole) = ambiguous at h
  clear hinit
  induction expected generalizing gate ambiguous with
  | nil =>
    cases h
    exact ⟨hexpects, rfl⟩
  | cons baseline expected ih =>
    rw [foldlM_cons] at h
    cases hone : HealthGate.checkContainer observed (noun (gate.role baseline))
        (fail (gate.role baseline)) gate baseline with
    | error v =>
      dsimp only at h
      rw [hone] at h
      cases h
    | ok found =>
      dsimp only at h
      rw [hone] at h
      obtain ⟨hkept, hroles⟩ := checkContainer_expects hone hexpects
        (hexp baseline mem_cons_self) hseen
      obtain ⟨hkept', hroles'⟩ := ih hkept (fun e he => hexp e (mem_cons_of_mem _ he)) _ h
      exact ⟨hkept', hroles'.trans hroles⟩

/-- A gate that tracks containers that meet a condition. -/
theorem track_expects {role : GateRole} (hexpects : gate.Expects P)
    (hc : P c.toStackContainerFact) :
    (gate.track role c).Expects P := by
  intro e he
  rcases mem_setNamed he with hold | rfl
  · exact hexpects e hold
  · exact hc

/-- The roles a gate knows come from another, or from some names. -/
def RolesFrom (gate gate' : ActiveGate) (names : String → Prop) : Prop :=
  ∀ n, gate'.roleByName n = some .primary → gate.roleByName n = some .primary ∨ names n

theorem track_roles {names : String → Prop} {g : ActiveGate} {role : GateRole}
    (h : RolesFrom gate g names) (hc : role = .primary → names c.name) :
    RolesFrom gate (g.track role c) names := by
  intro n hn
  dsimp only [track] at hn
  by_cases hname : n = c.name
  · subst hname
    rw [Function.update_self] at hn
    cases hn
    exact .inr (hc rfl)
  · rw [Function.update_of_ne hname] at hn
    exact h n hn

/-- A gate as it arms: what it expects, and its replicas. -/
theorem armService_learns
    (hbaselines : ∀ b ∈ gate.collateralBaselineByName, P b.toStackContainerFact)
    (hreplica : ∀ c ∈ observed, gate.isReplica c = true → P c.toStackContainerFact)
    (heligible : ∀ c ∈ observed, c.name ∈ gate.collateralEligibleNames → P c.toStackContainerFact)
    (hseen : ∀ c ∈ observed, ∀ f, P f → f.name = c.name → P c.toStackContainerFact) :
    (armService gate observed).Expects P ∧ RolesFrom gate (armService gate observed) fun n =>
        ∃ c ∈ observed, gate.isReplica c = true ∧ c.name = n := by
  let names : String → Prop := fun n => ∃ c ∈ observed, gate.isReplica c = true ∧ c.name = n
  let Learnt : ActiveGate → Prop := fun g =>
    g.Expects P ∧ RolesFrom gate g names ∧ g.collateralEligibleNames = gate.collateralEligibleNames
  have hcleared : Learnt { gate with expected := some [] } :=
    ⟨fun e he => absurd he not_mem_nil, fun n hn => .inl hn, rfl⟩
  have hprimary := foldlRecOn (observed.filter gate.isReplica) (fun g c => g.track .primary c)
    hcleared fun g hg c hc => by
      obtain ⟨hmem, hrep⟩ := mem_filter.mp hc
      exact ⟨track_expects hg.1 (hreplica c hmem hrep),
        track_roles hg.2.1 fun _ => ⟨c, hmem, hrep, rfl⟩, hg.2.2⟩
  have htracked := foldlRecOn gate.collateralBaselineByName (trackBaseline observed) hprimary
    fun g hg b hb => by
      unfold trackBaseline
      split
      · exact hg
      · refine ⟨track_expects hg.1 ?_, track_roles hg.2.1 nofun, hg.2.2⟩
        cases hlookup : lookupName observed b.name with
        | none => exact hbaselines b hb
        | some c =>
          obtain ⟨hmem, hname⟩ := mem_lookupName hlookup
          exact hseen c hmem b.toStackContainerFact (hbaselines b hb) hname.symm
  have harmed := foldlRecOn observed trackEligible htracked fun g hg c hc => by
      unfold trackEligible
      split
      · rename_i hmem
        refine ⟨track_expects hg.1 (heligible c hc ?_), track_roles hg.2.1 nofun, hg.2.2⟩
        rw [← hg.2.2]
        exact hmem.1
      · exact hg
  exact ⟨harmed.1, harmed.2.1⟩

/-- A service gate after a poll: what it expects, and its replicas. -/
theorem runServicePollCycle_learns {now : Int}
    (h : runServicePollCycle gate observed now = .ok gate') (hexpects : gate.Expects P)
    (hbaselines : ∀ b ∈ gate.collateralBaselineByName, P b.toStackContainerFact)
    (hreplica : ∀ c ∈ observed, gate.isReplica c = true → P c.toStackContainerFact)
    (heligible : ∀ c ∈ observed, c.name ∈ gate.collateralEligibleNames → P c.toStackContainerFact)
    (hseen : ∀ c ∈ observed, ∀ f, P f → f.name = c.name → P c.toStackContainerFact) :
    gate'.Expects P ∧ RolesFrom gate gate' fun n =>
      ∃ c ∈ observed, gate.isReplica c = true ∧ c.name = n := by
  unfold HealthGate.runServicePollCycle at h
  cases hexp : gate.expected with
  | none =>
    simp only [hexp] at h
    split at h
    · split at h
      · cases h
      · cases h
        exact ⟨hexpects, fun n hn => .inl hn⟩
    · cases h
      exact armService_learns hbaselines hreplica heligible hseen
  | some expected =>
    have hmembers : ∀ e ∈ expected, P e.toStackContainerFact := by
      intro e he
      unfold ActiveGate.Expects at hexpects
      rw [hexp] at hexpects
      exact hexpects e he
    simp only [hexp] at h
    split at h
    · cases h
    · split at h
      · cases h
      · rename_i hchecked
        obtain ⟨hkept, hroles⟩ := checkContainers_expects hchecked hexpects hmembers hseen
        have hfrom : RolesFrom gate _ fun n =>
            ∃ c ∈ observed, gate.isReplica c = true ∧ c.name = n := fun n hn =>
          .inl (hroles ▸ hn)
        split at h
        · cases h
        · split at h
          · split at h
            · cases h
            · cases h
              exact ⟨hkept, hfrom⟩
          · cases h

end Learning

/-- A fact names the service its container belongs to. -/
def Belongs (svc : String → Option String) (f : StackContainerFact) : Prop :=
  f.service = svc f.name

/-- What a service gate holds about containers names their services, and its replicas are
its own service's. -/
structure ActiveGate.Known (svc : String → Option String) (g : ActiveGate) : Prop where
  baselines : ∀ b ∈ g.collateralBaselineByName, Belongs svc b.toStackContainerFact
  expects : g.Expects (Belongs svc)
  eligible : ∀ n ∈ g.collateralEligibleNames, ∃ b ∈ g.collateralBaselineByName, b.name = n
  prepared : ∀ b ∈ g.collateralBaselineByName, b.name ∈ g.collateralEligibleNames
  replicas : ∀ n, g.roleByName n = some .primary → svc n = some (g.serviceName.getD "")

/-- A service gate of another service that looks at no container of some services. -/
structure ActiveGate.Blind (svc : String → Option String) (named : List String)
    (g : ActiveGate) : Prop where
  scope : g.targetScope = .service
  own : g.serviceName.getD "" ∉ named
  baselines : ∀ b ∈ g.collateralBaselineByName, outside svc named b.name = true
  expects : g.Expects fun f => outside svc named f.name = true
  eligible : ∀ n ∈ g.collateralEligibleNames, outside svc named n = true

namespace ActiveGate

variable {g g' : ActiveGate} {observed : List ObservedContainer} {now : Int}

theorem isReplica_service (h : ∀ c ∈ observed, Belongs svc c.toStackContainerFact)
    (hc : c ∈ observed) (hreplica : g.isReplica c = true) :
    svc c.name = some (g.serviceName.getD "") := by
  have hservice : c.service = some (g.serviceName.getD "") := of_decide_eq_true hreplica
  exact (h c hc).symm.trans hservice

theorem Known.seen (h : g.Known svc) (hseen : Seen g g') (hexpects : g'.Expects (Belongs svc))
    (hroles : ∀ n, g'.roleByName n = some .primary → svc n = some (g.serviceName.getD "")) :
    g'.Known svc := by
  obtain ⟨_, _, _, _, rfl⟩ := hseen
  exact ⟨h.baselines, hexpects, h.eligible, h.prepared, hroles⟩

/-- A poll that reads known containers leaves the gate known. -/
theorem Known.poll (h : g.Known svc)
    (hobserved : ∀ c ∈ observed, Belongs svc c.toStackContainerFact)
    (hpoll : runServicePollCycle g observed now = .ok g') : g'.Known svc := by
  obtain ⟨hexpects, hroles⟩ := runServicePollCycle_learns hpoll h.expects h.baselines
    (fun c hc _ => hobserved c hc) (fun c hc _ => hobserved c hc) fun c hc _ _ _ => hobserved c hc
  refine h.seen (Seen.runServicePollCycle hpoll) hexpects fun n hn => ?_
  rcases hroles n hn with hold | ⟨c, hc, hreplica, rfl⟩
  · exact h.replicas n hold
  · exact isReplica_service hobserved hc hreplica

theorem Blind.replica (h : g.Blind svc named)
    (hobserved : ∀ c ∈ observed, Belongs svc c.toStackContainerFact)
    (hc : c ∈ observed) (hreplica : g.isReplica c = true) : outside svc named c.name = true :=
  outside_of_service (isReplica_service hobserved hc hreplica) h.own

/-- A poll leaves a blind gate blind. -/
theorem Blind.poll (h : g.Blind svc named)
    (hobserved : ∀ c ∈ observed, Belongs svc c.toStackContainerFact)
    (hpoll : runServicePollCycle g observed now = .ok g') : g'.Blind svc named := by
  obtain ⟨hexpects, _⟩ := runServicePollCycle_learns hpoll h.expects h.baselines
    (fun c hc hreplica => h.replica hobserved hc hreplica)
    (fun c _ hname => h.eligible c.name hname) fun c _ f hf hname => hname ▸ hf
  obtain ⟨_, _, _, _, rfl⟩ := Seen.runServicePollCycle hpoll
  exact ⟨h.scope, h.own, h.baselines, hexpects, h.eligible⟩

theorem Known.counted (h : g.Known svc) (n : Nat) :
    ({ g with consecutivePollErrors := n } : ActiveGate).Known svc :=
  ⟨h.baselines, h.expects, h.eligible, h.prepared, h.replicas⟩

theorem Known.readDeclaredRestart (h : g.Known svc)
    (declared : Option (String → Option (Option String))) :
    (g.readDeclaredRestart declared).Known svc := by
  unfold ActiveGate.readDeclaredRestart
  split
  · exact h
  · exact ⟨h.baselines, h.expects, h.eligible, h.prepared, h.replicas⟩

theorem Blind.counted (h : g.Blind svc named) (n : Nat) :
    ({ g with consecutivePollErrors := n } : ActiveGate).Blind svc named :=
  ⟨h.scope, h.own, h.baselines, h.expects, h.eligible⟩

theorem Blind.readDeclaredRestart (h : g.Blind svc named)
    (declared : Option (String → Option (Option String))) :
    (g.readDeclaredRestart declared).Blind svc named := by
  unfold ActiveGate.readDeclaredRestart
  split
  · exact h
  · exact ⟨h.scope, h.own, h.baselines, h.expects, h.eligible⟩

end ActiveGate

section Polling

variable {g g' : ActiveGate} {observed : List ObservedContainer}
variable {expected : List ObservedContainer}

theorem checkContainer_without {noun : String} {fail : String → GateVerdict}
    (h : outside svc named baseline.name = true) :
    checkContainer (without svc named observed) noun fail g baseline =
      checkContainer observed noun fail g baseline := by
  unfold checkContainer
  rw [accounted_without h]

theorem foldlM_agrees {ε α β : Type} {f f' : β → α → Except ε β} (as : List α)
    (h : ∀ a ∈ as, ∀ b, f b a = f' b a) (b : β) : as.foldlM f b = as.foldlM f' b := by
  induction as generalizing b with
  | nil => rfl
  | cons a as ih =>
    rw [foldlM_cons, foldlM_cons, h a mem_cons_self b]
    exact congrArg _ (funext fun b' => ih (fun a' ha' => h a' (mem_cons_of_mem _ ha')) b')

section

variable (h : ∀ e ∈ expected, outside svc named e.name = true)
include h

theorem checkContainers_without {noun : GateRole → String}
    {fail : GateRole → String → GateVerdict} :
    checkContainers (without svc named observed) noun fail expected g =
      checkContainers observed noun fail expected g := by
  refine foldlM_agrees expected (fun baseline hmem found => ?_) (g, none)
  dsimp only
  rw [checkContainer_without (h baseline hmem)]

theorem summarize_without :
    summarize g expected (without svc named observed) = summarize g expected observed := by
  refine map_congr_left fun e he => ?_
  rw [accounted_without (h e he)]

end

section

variable (hreplica : ∀ c ∈ observed, g.isReplica c = true → outside svc named c.name = true)
include hreplica

/-- A gate as it arms looks at its replicas, its baselines and its eligible siblings. -/
theorem armService_without
    (hbaselines : ∀ b ∈ g.collateralBaselineByName, outside svc named b.name = true)
    (heligible : ∀ n ∈ g.collateralEligibleNames, outside svc named n = true) :
    armService g (without svc named observed) = armService g observed := by
  have hbase : ∀ g', g.collateralBaselineByName.foldl (trackBaseline (without svc named observed)) g' =
      g.collateralBaselineByName.foldl (trackBaseline observed) g' := by
    refine fun g' => foldl_ext _ _ g' fun g' b hb => ?_
    unfold trackBaseline
    rw [lookupName_without (hbaselines b hb)]
  have helig : ∀ (cs : List ObservedContainer) (g : ActiveGate),
      (∀ n ∈ g.collateralEligibleNames, outside svc named n = true) →
        (without svc named cs).foldl trackEligible g = cs.foldl trackEligible g := by
    intro cs
    induction cs with
    | nil => exact fun _ _ => rfl
    | cons c cs ih =>
      intro g hg
      have hkept : (trackEligible g c).collateralEligibleNames = g.collateralEligibleNames := by
        unfold trackEligible
        split <;> rfl
      rw [foldl_cons]
      unfold without
      rw [filter_cons]
      cases hout : outside svc named c.name with
      | true =>
        exact ih (trackEligible g c) (by rw [hkept]; exact hg)
      | false =>
        have hskip : trackEligible g c = g := by
          unfold trackEligible
          rw [if_neg fun hmem => ?_]
          have hin := hg c.name hmem.1
          rw [hout] at hin
          cases hin
        rw [if_neg Bool.false_ne_true, hskip]
        exact ih g hg
  unfold armService
  dsimp only
  rw [filter_without hreplica, hbase, helig]
  intro n hn
  have hseen : Seen g (g.collateralBaselineByName.foldl (trackBaseline observed)
      ((observed.filter g.isReplica).foldl (fun g c => g.track .primary c)
        { g with expected := some [] })) := by
    have hcleared : Seen g { g with expected := some [] } := ⟨_, _, _, _, rfl⟩
    refine (hcleared.trans (Seen.foldl (fun g c => Seen.track g .primary c) _ _)).trans
      (Seen.foldl (fun g c => ?_) _ _)
    unfold trackBaseline
    split
    · exact .refl g
    · exact Seen.track g _ _
  obtain ⟨_, _, _, _, heq⟩ := hseen
  rw [heq] at hn
  exact heligible n hn

/-- The end of the window of a gate looks at its replicas and at what it expects. -/
theorem serviceWindowEnd_without {summary : List HealthGateContainer}
    (hexp : ∀ e ∈ expected, outside svc named e.name = true)
    (heligible : ∀ n ∈ g.collateralEligibleNames, outside svc named n = true) :
    serviceWindowEnd g expected (without svc named observed) summary =
      serviceWindowEnd g expected observed summary := by
  have hreplicas : accountedReplicas g expected (without svc named observed) =
      accountedReplicas g expected observed := by
    unfold accountedReplicas
    split
    · have hknown : ((expected.filter fun c => g.roleByName c.name = some .primary).map fun c =>
          (c.name, accounted (without svc named observed) c)) =
          (expected.filter fun c => g.roleByName c.name = some .primary).map fun c =>
            (c.name, accounted observed c) :=
        map_congr_left fun e he => by
          rw [accounted_without (hexp e (mem_filter.mp he).1)]
      rw [hknown, filter_without fun c hc hp => hreplica c hc (Bool.and_eq_true_iff.mp hp).1]
    · rfl
  have hcollateral : ((expected.filter fun c => g.roleByName c.name = some .collateral).filter
      fun c => !isObservedContainerSatisfied g (accounted (without svc named observed) c)) =
      (expected.filter fun c => g.roleByName c.name = some .collateral).filter fun c =>
        !isObservedContainerSatisfied g (accounted observed c) :=
    filter_congr fun e he => by
      rw [accounted_without (hexp e (mem_filter.mp he).1)]
  have hdefinite : ∀ cs : List ObservedContainer, (∀ e ∈ cs, e ∈ expected) →
      (cs.filter fun c => !ambiguousCleanExit g (accounted (without svc named observed) c)) =
        cs.filter fun c => !ambiguousCleanExit g (accounted observed c) := fun cs hcs =>
    filter_congr fun e he => by
      rw [accounted_without (hexp e (hcs e he))]
  have hsatisfied : ((without svc named observed).filter fun c =>
      g.isReplica c && isObservedContainerSatisfied g (some c)) =
      observed.filter fun c => g.isReplica c && isObservedContainerSatisfied g (some c) :=
    filter_without fun c hc hp => hreplica c hc (Bool.and_eq_true_iff.mp hp).1
  have hstarting : ((without svc named observed).any fun c =>
      c.health = some "starting" && !isDeclaredCleanOneShot g c &&
        (g.isReplica c || c.name ∈ g.collateralEligibleNames)) =
      observed.any fun c => c.health = some "starting" && !isDeclaredCleanOneShot g c &&
        (g.isReplica c || c.name ∈ g.collateralEligibleNames) := by
    refine any_without fun c hc hp => ?_
    rcases Bool.or_eq_true_iff.mp (Bool.and_eq_true_iff.mp hp).2 with hrep | helig
    · exact hreplica c hc hrep
    · exact heligible c.name (of_decide_eq_true helig)
  unfold serviceWindowEnd
  dsimp only
  rw [hreplicas, hcollateral, hsatisfied, hstarting, hdefinite]
  intro e he
  exact (mem_filter.mp (mem_filter.mp he).1).1

end

/-- A poll of a blind gate reads nothing of the operated services. -/
theorem ActiveGate.Blind.runServicePollCycle_eq (h : g.Blind svc named)
    (hobserved : ∀ c ∈ observed, Belongs svc c.toStackContainerFact) (now : Int) :
    runServicePollCycle g (without svc named observed) now =
      runServicePollCycle g observed now := by
  have hreplica : ∀ c ∈ observed, g.isReplica c = true → outside svc named c.name = true :=
    fun c hc hrep => h.replica hobserved hc hrep
  unfold runServicePollCycle
  cases hexp : g.expected with
  | none =>
    rw [filter_without hreplica, armService_without hreplica h.baselines h.eligible]
  | some expected =>
    have hmembers : ∀ e ∈ expected, outside svc named e.name = true := by
      intro e he
      have hexpects := h.expects
      unfold ActiveGate.Expects at hexpects
      rw [hexp] at hexpects
      exact hexpects e he
    have himage : wrongImage g (without svc named observed) = wrongImage g observed := by
      unfold wrongImage
      refine congrArg _ (funext fun image => find?_without fun c hc hp => ?_)
      simp only [Bool.and_eq_true] at hp
      exact hreplica c hc hp.1.1
    dsimp only
    rw [summarize_without hmembers, himage, checkContainers_without hmembers]
    cases wrongImage g observed with
    | some replica => rfl
    | none =>
      cases hchecked : checkContainers observed GateRole.noun
          (fun role reason => ⟨.failed, some reason, summarize g expected observed,
            some role⟩) expected g with
      | error v => rfl
      | ok checked =>
        obtain ⟨g', ambiguousRole⟩ := checked
        have hname : g'.serviceName = g.serviceName ∧
            g'.collateralEligibleNames = g.collateralEligibleNames := by
          obtain ⟨_, _, _, _, rfl⟩ := Seen.checkContainers hchecked
          exact ⟨rfl, rfl⟩
        have hreplica' : ∀ c ∈ observed, g'.isReplica c = true →
            outside svc named c.name = true := by
          intro c hc hrep
          unfold isReplica at hrep
          rw [hname.1] at hrep
          exact hreplica c hc hrep
        have hnewcomer : unhealthyNewcomer g' expected (without svc named observed) =
            unhealthyNewcomer g' expected observed := by
          refine find?_without fun c hc hp => ?_
          simp only [Bool.and_eq_true] at hp
          exact hreplica' c hc hp.1.1.1
        dsimp only
        rw [hnewcomer, serviceWindowEnd_without hreplica' hmembers
          (by rw [hname.2]; exact h.eligible)]

end Polling

namespace ActiveGate

variable {g : ActiveGate} {serviceName : String}
variable {other : String}

/-- A gate holds no container of a service. -/
structure FreeOf (svc : String → Option String) (serviceName : String) (g : ActiveGate) : Prop where
  eligible : ∀ n ∈ g.collateralEligibleNames, svc n ≠ some serviceName
  baselines : ∀ b ∈ g.collateralBaselineByName, svc b.name ≠ some serviceName
  expects : g.Expects fun f => svc f.name ≠ some serviceName

theorem mem_detach_expected {e : ObservedContainer} (he : e ∈ (g.detach other).expected.getD []) :
    e ∈ g.expected.getD [] ∧ e.name ∉ g.namesOf other := by
  unfold detach at he
  cases hexp : g.expected with
  | none =>
    rw [hexp] at he
    exact absurd he not_mem_nil
  | some expected =>
    rw [hexp] at he
    obtain ⟨hmem, hname⟩ := mem_filter.mp he
    exact ⟨hmem, of_decide_eq_true hname⟩

theorem mem_detach_eligible {n : String} (hn : n ∈ (g.detach other).collateralEligibleNames) :
    n ∈ g.collateralEligibleNames ∧ n ∉ g.namesOf other := by
  obtain ⟨hmem, hnot⟩ := Finset.mem_sdiff.mp hn
  exact ⟨hmem, fun hin => hnot (mem_toFinset.mpr hin)⟩

theorem mem_detach_baselines {b : ObservedContainer}
    (hb : b ∈ (g.detach other).collateralBaselineByName) :
    b ∈ g.collateralBaselineByName ∧ b.name ∉ g.namesOf other := by
  obtain ⟨hmem, hnot⟩ := mem_filter.mp hb
  exact ⟨hmem, of_decide_eq_true hnot⟩

theorem Known.detach (h : g.Known svc) (other : String) : (g.detach other).Known svc where
  baselines := fun b hb => h.baselines b (mem_detach_baselines hb).1
  expects := fun e he => h.expects e (mem_detach_expected he).1
  eligible := fun n hn => by
    obtain ⟨hmem, hnot⟩ := mem_detach_eligible hn
    obtain ⟨b, hb, rfl⟩ := h.eligible n hmem
    exact ⟨b, mem_filter.mpr ⟨hb, decide_eq_true hnot⟩, rfl⟩
  prepared := fun b hb => by
    obtain ⟨hmem, hnot⟩ := mem_detach_baselines hb
    exact Finset.mem_sdiff.mpr ⟨h.prepared b hmem, fun hin => hnot (mem_toFinset.mp hin)⟩
  replicas := fun n hn => by
    have hkept : g.roleByName n = some .primary := by
      unfold ActiveGate.detach at hn
      dsimp only at hn
      split at hn
      · cases hn
      · exact hn
    exact h.replicas n hkept

theorem FreeOf.detach (h : g.FreeOf svc serviceName) (other : String) :
    (g.detach other).FreeOf svc serviceName :=
  ⟨fun n hn => h.eligible n (mem_detach_eligible hn).1,
    fun b hb => h.baselines b (mem_detach_baselines hb).1,
    fun e he => h.expects e (mem_detach_expected he).1⟩

theorem Known.detachAll (h : g.Known svc) (others : List String) :
    (others.foldl ActiveGate.detach g).Known svc :=
  foldlRecOn others _ h fun _ hg other _ => hg.detach other

theorem FreeOf.detachAll (h : g.FreeOf svc serviceName) (others : List String) :
    (others.foldl ActiveGate.detach g).FreeOf svc serviceName :=
  foldlRecOn others _ h fun _ hg other _ => hg.detach other

theorem Blind.of_free (hscope : g.targetScope = .service) (hown : g.serviceName.getD "" ∉ named)
    (hfree : ∀ service ∈ named, g.FreeOf svc service) : g.Blind svc named where
  scope := hscope
  own := hown
  baselines := fun b hb => outside_iff.mpr fun service hservice =>
    (hfree service hservice).baselines b hb
  expects := fun e he => outside_iff.mpr fun service hservice =>
    (hfree service hservice).expects e he
  eligible := fun n hn => outside_iff.mpr fun service hservice =>
    (hfree service hservice).eligible n hn

theorem Blind.detachAll (h : g.Blind svc named) (others : List String) :
    (others.foldl detach g).Blind svc named := by
  have hfree : ∀ service ∈ named, (others.foldl detach g).FreeOf svc service := by
    refine fun service hservice => FreeOf.detachAll ?_ others
    exact ⟨fun n hn => outside_iff.mp (h.eligible n hn) service hservice,
      fun b hb => outside_iff.mp (h.baselines b hb) service hservice,
      fun e he => outside_iff.mp (h.expects e he) service hservice⟩
  obtain ⟨_, _, _, _, _, _, heq⟩ := g.detachAll_eq others
  rw [heq] at hfree ⊢
  exact .of_free h.scope h.own hfree

end ActiveGate

/-- What a token holds about containers names their services. -/
structure PreparedGate.Known (svc : String → Option String) (p : PreparedGate) : Prop where
  baselines : ∀ b ∈ p.collateralBaseline, Belongs svc b
  eligible : ∀ n ∈ p.collateralEligibleNames, ∃ b ∈ p.collateralBaseline, b.name = n

/-- A token of another service that holds no container of some services. -/
structure PreparedGate.Blind (svc : String → Option String) (named : List String)
    (p : PreparedGate) : Prop where
  own : p.serviceName ∉ named
  baselines : ∀ b ∈ p.collateralBaseline, outside svc named b.name = true
  eligible : ∀ n ∈ p.collateralEligibleNames, outside svc named n = true

namespace PreparedGate

variable {p : PreparedGate}
variable (others : List String)

theorem Known.detach (h : p.Known svc) (other : String) : (p.detach other).Known svc where
  baselines := fun b hb => h.baselines b (mem_filter.mp hb).1
  eligible := fun n hn => by
    obtain ⟨hmem, hnot⟩ := Finset.mem_filter.mp hn
    obtain ⟨b, hb, rfl⟩ := h.eligible n hmem
    refine ⟨b, mem_filter.mpr ⟨hb, decide_eq_true fun hservice => ?_⟩, rfl⟩
    have hany : (p.collateralBaseline.any fun b' =>
        b'.name = b.name && b'.service = some other) = true :=
      any_eq_true.mpr ⟨b, hb, by simp [hservice]⟩
    rw [hany] at hnot
    cases hnot

theorem Known.detachAll (h : p.Known svc) (others : List String) :
    (others.foldl PreparedGate.detach p).Known svc :=
  foldlRecOn others _ h fun _ hp other _ => hp.detach other

theorem Blind.detach (h : p.Blind svc named) (other : String) : (p.detach other).Blind svc named :=
  ⟨h.own, fun b hb => h.baselines b (mem_filter.mp hb).1,
    fun n hn => h.eligible n (Finset.mem_filter.mp hn).1⟩

theorem Blind.detachAll (h : p.Blind svc named) (others : List String) :
    (others.foldl PreparedGate.detach p).Blind svc named :=
  foldlRecOn others _ h fun _ hp other _ => hp.detach other

theorem mem_baselines {b : ObservedContainer} (hb : b ∈ p.baselines) :
    b.toStackContainerFact ∈ p.collateralBaseline ∧ b.name ∈ p.collateralEligibleNames := by
  refine foldlRecOn (motive := fun acc : List ObservedContainer => b ∈ acc →
    b.toStackContainerFact ∈ p.collateralBaseline ∧ b.name ∈ p.collateralEligibleNames) _ _
    (fun hnil => absurd hnil not_mem_nil) (fun acc hacc c hc hin => ?_) hb
  rcases mem_setNamed hin with hold | rfl
  · exact hacc hold
  · obtain ⟨fact, hfact, rfl⟩ := mem_map.mp hc
    obtain ⟨hold, helig⟩ := mem_filter.mp hfact
    exact ⟨hold, of_decide_eq_true helig⟩

theorem name_mem_setNamed {cs : List ObservedContainer} {n : String}
    (h : (∃ d ∈ cs, d.name = n) ∨ c.name = n) : ∃ d ∈ setNamed cs c, d.name = n := by
  unfold setNamed
  split
  · rename_i hany
    rcases h with ⟨d, hd, hname⟩ | hname
    · refine ⟨if d.name = c.name then c else d, mem_map.mpr ⟨d, hd, rfl⟩, ?_⟩
      split
      · rename_i hsame
        rw [← hsame]
        exact hname
      · exact hname
    · obtain ⟨d, hd, hsame⟩ := any_eq_true.mp hany
      have hsame' : d.name = c.name := of_decide_eq_true hsame
      exact ⟨c, mem_map.mpr ⟨d, hd, if_pos hsame'⟩, hname⟩
  · rcases h with ⟨d, hd, hname⟩ | hname
    · exact ⟨d, mem_append_left _ hd, hname⟩
    · exact ⟨c, mem_append_right _ mem_cons_self, hname⟩

theorem baselines_name {n : String} {f : StackContainerFact} (hf : f ∈ p.collateralBaseline)
    (hname : f.name = n) (hn : n ∈ p.collateralEligibleNames) : ∃ b ∈ p.baselines, b.name = n := by
  have hfold : ∀ (cs acc : List ObservedContainer),
      (∃ d ∈ acc, d.name = n) ∨ (∃ d ∈ cs, d.name = n) → ∃ d ∈ cs.foldl setNamed acc, d.name = n := by
    intro cs
    induction cs with
    | nil =>
      intro acc h
      rcases h with hacc | ⟨d, hd, _⟩
      · exact hacc
      · exact absurd hd not_mem_nil
    | cons c cs ih =>
      intro acc h
      refine ih (setNamed acc c) ?_
      rcases h with hacc | ⟨d, hd, hdname⟩
      · exact .inl (name_mem_setNamed (.inl hacc))
      · rcases mem_cons.mp hd with rfl | hlater
        · exact .inl (name_mem_setNamed (.inr hdname))
        · exact .inr ⟨d, hlater, hdname⟩
  refine hfold _ [] (.inr ⟨f.observed, mem_map.mpr ⟨f, mem_filter.mpr ⟨hf, ?_⟩, rfl⟩, hname⟩)
  rw [hname]
  exact decide_eq_true hn

/-- The gate of a known token. -/
theorem Known.gate (h : p.Known svc) (runId : String) (now : Int) :
    (p.gate runId now).Known svc where
  baselines := fun b hb => h.baselines _ (mem_baselines hb).1
  expects := fun e he => absurd he not_mem_nil
  eligible := fun n hn => by
    obtain ⟨f, hf, hname⟩ := h.eligible n hn
    exact baselines_name hf hname hn
  prepared := fun b hb => (mem_baselines hb).2
  replicas := fun n hn => by cases hn

theorem Blind.gate (h : p.Blind svc named) (runId : String) (now : Int) :
    (p.gate runId now).Blind svc named where
  scope := rfl
  own := h.own
  baselines := fun _ hb => h.baselines _ (mem_baselines hb).1
  expects := fun _ he => absurd he not_mem_nil
  eligible := h.eligible

end PreparedGate

/-- The token of a known snapshot. -/
theorem Preparing.prepared_known {snapshot : Option (List StackContainerFact)} (q : Preparing)
    (composeTimeoutMs : Int) (h : ∀ cs ∈ snapshot, ∀ c ∈ cs, Belongs svc c) :
    (q.prepared snapshot composeTimeoutMs).Known svc where
  baselines := fun b hb => by
    obtain ⟨hmem, _⟩ := mem_filter.mp hb
    cases snapshot with
    | none => exact absurd hmem not_mem_nil
    | some cs => exact h cs rfl b hmem
  eligible := fun n hn => by
    obtain ⟨b, hb, hname⟩ := mem_map.mp (mem_toFinset.mp hn)
    exact ⟨b, (mem_filter.mp hb).1, hname⟩

end Sencho.HealthGate
