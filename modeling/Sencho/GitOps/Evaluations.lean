import Mathlib.Logic.Function.Basic
import Mathlib.Logic.Relation

/-!
# Serialized evaluations

One evaluation of an application at a time.  A call chains its body behind the promise that the
map holds for the application and takes its place; the entry is removed by the call that put it
there.  What runs between two awaits is one step, and what waits resumes in any order.
-/

namespace Sencho.GitOps

open Function (update update_self update_of_ne)

/-- An entry of the map; a promise is named by the token of the call that made it. -/
structure InflightEvaluation where
  token : Nat
  promise : Nat

variable {E V : Type}

/-- How far a call is: before it is made, awaiting the prior promise, with what its body throws
when called, if it does; in its body; with `run` settled by the body; back at its caller. -/
inductive EvaluationCall (E V : Type) where
  | unmade
  | waiting (prior : Nat) (throws : Option E)
  | running
  | settled (outcome : Except E V)
  | answered (result : Except E V)

namespace EvaluationCall

/-- `fn()`: a body that throws at once rejects the promise `run`. -/
def start (throws : Option E) : EvaluationCall E V :=
  throws.elim running fun e => settled (.error e)

/-- Up to the first await: without a prior promise the body starts at once. -/
def opened (prior : Option Nat) (throws : Option E) : EvaluationCall E V :=
  match prior with
  | none => start throws
  | some p => waiting p throws

/-- What the promise `run` came to. -/
def run : EvaluationCall E V → Option (Except E V)
  | settled r | answered r => some r
  | _ => none

/-- The body has been called. -/
def Started : EvaluationCall E V → Prop
  | unmade | waiting .. => False
  | _ => True

/-- A call that has started comes after one that is over; one that has not waits for it. -/
def Follows (ended : Nat → Prop) (before : Option Nat) : EvaluationCall E V → Prop
  | unmade => False
  | waiting prior _ => before = some prior
  | _ => ∀ m, before = some m → ended m

end EvaluationCall

/-- What there is of one application: its entry of the map, its calls by their tokens, and the
tokens, the latest first. -/
structure EvaluationQueue (E V : Type) where
  inflight : Option InflightEvaluation
  calls : Nat → EvaluationCall E V
  made : List Nat

namespace EvaluationQueue

def empty : EvaluationQueue E V := ⟨none, fun _ => .unmade, []⟩

variable (q : EvaluationQueue E V)

/-- A call up to its first await. -/
def enter (token : Nat) (throws : Option E) : EvaluationQueue E V where
  inflight := some ⟨token, token⟩
  calls := update q.calls token (.opened (q.inflight.map InflightEvaluation.promise) throws)
  made := token :: q.made

def put (token : Nat) (c : EvaluationCall E V) : EvaluationQueue E V :=
  { q with calls := update q.calls token c }

/-- The `finally` clause. -/
def clear (token : Nat) : EvaluationQueue E V :=
  if q.inflight.map InflightEvaluation.token = some token then { q with inflight := none } else q

/-- A promise that is settled. -/
def Over (n : Nat) : Prop := (q.calls n).run.isSome = true

/-- What goes on: the body behind the prior promise, `run` with the body's promise, the caller's
await. -/
inductive Resumes : EvaluationQueue E V → Prop where
  | body {n prior : Nat} {throws : Option E} (hn : q.calls n = .waiting prior throws)
    (hprior : q.Over prior) : Resumes (q.put n (.start throws))
  | run {n : Nat} (hn : q.calls n = .running) (outcome : Except E V) :
    Resumes (q.put n (.settled outcome))
  | caller {n : Nat} {r : Except E V} (hn : q.calls n = .settled r) :
    Resumes ((q.clear n).put n (.answered r))

/-- No body is running, and nothing is left to resume. -/
def Rests : Prop := (∀ n, q.calls n ≠ .running) ∧ ∀ q', ¬ q.Resumes q'

/-- Every call of a list, the latest first, follows the one before it. -/
def Queued : List Nat → Prop
  | [] => True
  | n :: l => (q.calls n).Follows q.Over l.head? ∧ Queued l

end EvaluationQueue

/-- The counter of the module, and each application. -/
structure Evaluations (E V : Type) where
  inflightEvaluationToken : Nat
  queues : String → EvaluationQueue E V

namespace Evaluations

def init : Evaluations E V := ⟨0, fun _ => .empty⟩

def withSerializedEvaluation (s : Evaluations E V) (applicationId : String) (throws : Option E) :
    Evaluations E V where
  inflightEvaluationToken := s.inflightEvaluationToken + 1
  queues := update s.queues applicationId
    ((s.queues applicationId).enter (s.inflightEvaluationToken + 1) throws)

inductive Step (s : Evaluations E V) : Evaluations E V → Prop where
  | call (id : String) (throws : Option E) : Step s (s.withSerializedEvaluation id throws)
  | resume {id : String} {q : EvaluationQueue E V} (h : (s.queues id).Resumes q) :
    Step s { s with queues := update s.queues id q }

/-- The states of a run. -/
abbrev Run : Evaluations E V → Evaluations E V → Prop := Relation.ReflTransGen Step

end Evaluations

/-! ## Who waits for whom -/

open EvaluationQueue Evaluations EvaluationCall

variable {q q' : EvaluationQueue E V} {n t : Nat} {c : EvaluationCall E V} {l : List Nat}

theorem EvaluationQueue.Queued.imp (h : q.Queued l) (hstep : ∀ n before, n ∈ l →
      (∀ m, before = some m → m ∈ l) → (q.calls n).Follows q.Over before →
      (q'.calls n).Follows q'.Over before) : q'.Queued l := by
  induction l with
  | nil => trivial
  | cons n l ih =>
    refine ⟨hstep n _ (by simp) (fun m hm => ?_) h.1, ih h.2 fun n' before hn hbefore => ?_⟩
    · exact List.mem_cons_of_mem _ (List.mem_of_head? hm)
    · exact hstep n' before (by simp [hn]) fun m hm => by simp [hbefore m hm]

theorem EvaluationCall.follows_start {ended : Nat → Prop} {before : Option Nat} (throws : Option E)
    (h : ∀ m, before = some m → ended m) :
    (start throws : EvaluationCall E V).Follows ended before := by
  cases throws with
  | none => exact h
  | some e => exact h

theorem EvaluationCall.start_ne (throws : Option E) (r : Except E V) :
    start throws ≠ answered r := by
  cases throws with
  | none => exact nofun
  | some e => exact nofun

theorem EvaluationCall.opened_ne (prior : Option Nat) (throws : Option E) (r : Except E V) :
    opened prior throws ≠ answered r := by
  cases prior with
  | none => exact start_ne throws r
  | some p => exact nofun

theorem EvaluationCall.Follows.mono {ended ended' : Nat → Prop} {before : Option Nat}
    (h : c.Follows ended before) (hended : ∀ m, before = some m → ended m → ended' m) :
    c.Follows ended' before := by
  cases c with
  | unmade => exact h
  | waiting => exact h
  | running | settled | answered => exact fun m hm => hended m hm (h m hm)

/-- The calls of an application are queued; the map holds the last one until its caller is
answered, and without an entry the last one is over. -/
structure Serialized (t : Nat) (q : EvaluationQueue E V) : Prop where
  queued : q.Queued q.made
  held : ∀ e, q.inflight = some e → e.promise = e.token ∧ q.made.head? = some e.token ∧
    ∀ r, q.calls e.token ≠ .answered r
  free : q.inflight = none → ∀ m, q.made.head? = some m → q.Over m
  fresh : ∀ n ∈ q.made, n ≤ t

namespace Serialized

/-- A call goes on, and the map may let go of it once it is over. -/
theorem put (h : Serialized t q) {entry : Option InflightEvaluation}
    (hover : q.Over n → c.run.isSome = true)
    (hfollows : ∀ before, (q.calls n).Follows q.Over before → c.Follows q.Over before)
    (hheld : ∀ e, entry = some e → q.inflight = some e ∧ (e.token = n → ∀ r, c ≠ .answered r))
    (hfree : entry = none → q.inflight = none ∨ q.made.head? = some n ∧ q.Over n) :
    Serialized t { q with inflight := entry, calls := update q.calls n c } := by
  generalize hq' : { q with inflight := entry, calls := update q.calls n c } = q'
  have hself : q'.calls n = c := by
    rw [← hq']
    exact update_self ..
  have hother : ∀ m, m ≠ n → q'.calls m = q.calls m := by
    intro m hm
    rw [← hq']
    exact update_of_ne hm _ _
  have hstill : ∀ m, q.Over m → q'.Over m := by
    intro m hm
    unfold Over
    by_cases hmn : m = n
    · rw [hmn, hself]
      exact hover (hmn ▸ hm)
    · rw [hother m hmn]
      exact hm
  have hqueued : q'.Queued q.made := by
    refine h.queued.imp fun m before _ _ hf => ?_
    suffices hnext : (q'.calls m).Follows q.Over before from hnext.mono fun k _ => hstill k
    by_cases hmn : m = n
    · rw [hmn, hself]
      exact hfollows before (hmn ▸ hf)
    · rw [hother m hmn]
      exact hf
  have hlast : ∀ e, entry = some e → e.promise = e.token ∧
      q.made.head? = some e.token ∧ ∀ r, q'.calls e.token ≠ .answered r := by
    intro e he
    obtain ⟨hold, hn⟩ := hheld e he
    obtain ⟨hpromise, hhead, hnone⟩ := h.held e hold
    refine ⟨hpromise, hhead, ?_⟩
    by_cases hen : e.token = n
    · rw [hen, hself]
      exact hn hen
    · rw [hother _ hen]
      exact hnone
  have hidle : entry = none → ∀ m, q.made.head? = some m → q'.Over m := by
    intro hnone m hm
    rcases hfree hnone with hold | ⟨hhead, hn⟩
    · exact hstill m (h.free hold m hm)
    · exact hstill m (Option.some.inj (hhead.symm.trans hm) ▸ hn)
  rw [← hq'] at *
  exact ⟨hqueued, hlast, hidle, h.fresh⟩

/-- A call that is made takes the place of the one that the map held. -/
theorem enter (h : Serialized t q) (throws : Option E) :
    Serialized (t + 1) (q.enter (t + 1) throws) := by
  generalize hq' : q.enter (t + 1) throws = q'
  have hold : ∀ m ∈ q.made, q'.calls m = q.calls m := by
    intro m hm
    have hle := h.fresh m hm
    rw [← hq']
    exact update_of_ne (by omega) _ _
  have hover : ∀ m ∈ q.made, q.Over m → q'.Over m := by
    intro m hm hm'
    unfold Over
    rw [hold m hm]
    exact hm'
  have hqueued : q'.Queued q.made := by
    refine h.queued.imp fun m before hm hbefore hf => ?_
    rw [hold m hm]
    exact hf.mono fun k hk => hover k (hbefore k hk)
  have hnew : q'.calls (t + 1) =
      .opened (q.inflight.map InflightEvaluation.promise) throws := by
    rw [← hq']
    exact update_self ..
  have hfollows : (q'.calls (t + 1)).Follows q'.Over q.made.head? := by
    rw [hnew]
    cases hent : q.inflight with
    | none =>
      exact follows_start throws fun m hm =>
        hover m (List.mem_of_head? hm) (h.free hent m hm)
    | some e =>
      obtain ⟨hpromise, hhead, _⟩ := h.held e hent
      rw [hhead, ← hpromise]
      exact rfl
  have hlast : ∀ r, q'.calls (t + 1) ≠ .answered r := by
    rw [hnew]
    exact opened_ne _ throws
  have hfr : ∀ m ∈ (t + 1) :: q.made, m ≤ t + 1 := by
    refine List.forall_mem_cons.mpr ⟨Nat.le_refl _, fun m hm => ?_⟩
    exact Nat.le_succ_of_le (h.fresh m hm)
  have hmade : q'.made = (t + 1) :: q.made := by
    rw [← hq']
    rfl
  have hent : q'.inflight = some ⟨t + 1, t + 1⟩ := by
    rw [← hq']
    rfl
  refine { queued := ?_, held := ?_, free := ?_, fresh := ?_ }
  · rw [hmade]
    exact ⟨hfollows, hqueued⟩
  · rw [hmade, hent]
    intro e he
    cases he
    exact ⟨rfl, rfl, hlast⟩
  · rw [hent]
    intro hnone
    cases hnone
  · rw [hmade]
    exact hfr

/-- The map lets go of a call that is over, and its caller is answered. -/
theorem caller (h : Serialized t q) {r : Except E V} (hn : q.calls n = .settled r) :
    Serialized t ((q.clear n).put n (.answered r)) := by
  have hover : q.Over n := by
    unfold Over
    rw [hn]
    rfl
  have hanswer : ∀ before, (q.calls n).Follows q.Over before →
      (answered r : EvaluationCall E V).Follows q.Over before := by
    rw [hn]
    exact fun _ hf => hf
  unfold clear
  split
  · next hheld =>
      obtain ⟨e, he, hen⟩ := Option.map_eq_some_iff.mp hheld
      refine h.put (fun _ => rfl) hanswer (fun _ he' => by cases he') fun _ => .inr ⟨?_, hover⟩
      rw [← hen]
      exact (h.held e he).2.1
  · next hother =>
      refine h.put (fun _ => rfl) hanswer (fun e he => ⟨he, fun hen => absurd ?_ hother⟩) .inl
      rw [he, ← hen]
      rfl

theorem resumes (h : Serialized t q) (hresumes : q.Resumes q') : Serialized t q' := by
  cases hresumes with
  | body hn hprior =>
    refine h.put (fun hover => ?_) (fun before hf => ?_) (fun _ he => ⟨he, fun _ r hr => ?_⟩) .inl
    · unfold Over at hover
      rw [hn] at hover
      cases hover
    · rw [hn] at hf
      exact follows_start _ fun m hm => Option.some.inj (hf.symm.trans hm) ▸ hprior
    · exact start_ne _ r hr
  | run hn outcome =>
    refine h.put (fun _ => rfl) (fun before hf => ?_) (fun _ he => ⟨he, fun _ r hr => ?_⟩) .inl
    · rw [hn] at hf
      exact hf
    · cases hr
  | caller hn => exact h.caller hn

theorem step {s s' : Evaluations E V} (h : ∀ id, Serialized s.inflightEvaluationToken (s.queues id))
    (hstep : s.Step s') : ∀ id, Serialized s'.inflightEvaluationToken (s'.queues id) := by
  intro id
  cases hstep with
  | call id₀ throws =>
    show Serialized _ (update s.queues id₀ _ id)
    by_cases hid : id = id₀
    · rw [hid, update_self]
      exact (h id₀).enter throws
    · rw [update_of_ne hid]
      obtain ⟨hqueued, hheld, hfree, hfr⟩ := h id
      exact ⟨hqueued, hheld, hfree, fun n hn => Nat.le_succ_of_le (hfr n hn)⟩
  | @resume id₀ _ hresumes =>
    show Serialized _ (update s.queues id₀ _ id)
    by_cases hid : id = id₀
    · rw [hid, update_self]
      exact (h id₀).resumes hresumes
    · rw [update_of_ne hid]
      exact h id

end Serialized

/-! ## Every run -/

/-- Behind a call that has started all calls are over. -/
theorem EvaluationQueue.Queued.pairwise (h : q.Queued l) :
    l.Pairwise fun later earlier => (q.calls later).Started → q.Over earlier := by
  induction l with
  | nil => exact .nil
  | cons n l ih =>
    refine List.pairwise_cons.mpr ⟨fun m hm hstarted => ?_, ih h.2⟩
    have hfirst : ∀ k, l.head? = some k → q.Over k := by
      have hf := h.1
      cases hc : q.calls n with
      | unmade | waiting =>
        rw [hc] at hstarted
        exact hstarted.elim
      | running | settled | answered =>
        rw [hc] at hf
        exact hf
    cases l with
    | nil => cases hm
    | cons k l =>
      have hover := hfirst k rfl
      rcases List.mem_cons.mp hm with rfl | hm
      · exact hover
      · refine (List.pairwise_cons.mp (ih h.2)).1 m hm ?_
        unfold Over at hover
        cases hc : q.calls k with
        | unmade | waiting | running =>
          rw [hc] at hover
          cases hover
        | settled | answered => trivial

/-- At rest every caller has its answer. -/
theorem EvaluationQueue.Queued.answered (h : q.Queued l) (hrests : q.Rests) :
    ∀ n ∈ l, ∃ r, q.calls n = .answered r := by
  induction l with
  | nil => exact fun n hn => (nomatch hn)
  | cons n l ih =>
    have hl := ih h.2
    refine List.forall_mem_cons.mpr ⟨?_, hl⟩
    have hf := h.1
    cases hc : q.calls n with
    | unmade =>
      rw [hc] at hf
      exact hf.elim
    | running => exact absurd hc (hrests.1 n)
    | answered r => exact ⟨r, rfl⟩
    | settled r => exact absurd (.caller hc) (hrests.2 _)
    | waiting p throws =>
      rw [hc] at hf
      obtain ⟨r, hr⟩ := hl p (List.mem_of_head? hf)
      refine absurd (.body hc ?_) (hrests.2 _)
      unfold Over
      rw [hr]
      rfl

/-- A caller is answered what the promise of its call is settled with. -/
theorem Evaluations.Step.answered {s s' : Evaluations E V} {id : String} {r : Except E V}
    (hstep : s.Step s') (hn : (s'.queues id).calls n = .answered r) :
    (s.queues id).calls n = .answered r ∨ (s.queues id).calls n = .settled r := by
  have hupdate : ∀ {m : Nat} {c : EvaluationCall E V} {q : EvaluationQueue E V},
      update q.calls m c n = .answered r → (c = .answered r → q.calls m = .settled r) →
      q.calls n = .answered r ∨ q.calls n = .settled r := by
    intro m c q hput hc
    by_cases hnm : n = m
    · rw [hnm, update_self] at hput
      exact .inr (hnm ▸ hc hput)
    · rw [update_of_ne hnm] at hput
      exact .inl hput
  cases hstep with
  | call id₀ throws =>
    change (update s.queues id₀ _ id).calls n = _ at hn
    by_cases hid : id = id₀
    · rw [← hid, update_self] at hn
      exact hupdate hn fun hr => absurd hr (opened_ne _ throws r)
    · rw [update_of_ne hid] at hn
      exact .inl hn
  | @resume id₀ _ hresumes =>
    change (update s.queues id₀ _ id).calls n = _ at hn
    by_cases hid : id = id₀
    · rw [← hid] at hresumes
      rw [← hid, update_self] at hn
      cases hresumes with
      | body => exact hupdate hn fun hr => absurd hr (start_ne _ r)
      | run => exact hupdate hn nofun
      | @caller m _ hm =>
        have hclear : ((s.queues id).clear m).calls = (s.queues id).calls := by
          unfold clear
          split <;> rfl
        change update ((s.queues id).clear m).calls m _ n = _ at hn
        rw [hclear] at hn
        refine hupdate hn fun hr => ?_
        cases hr
        exact hm
    · rw [update_of_ne hid] at hn
      exact .inl hn

/-- Evaluations of one application do not overlap and start in the order of their calls, each
caller receives what its own body came to, and at rest every body has run and the map is empty. -/
theorem evaluations_serialized {s : Evaluations E V} (hrun : init.Run s) (id : String) :
    (s.queues id).made.Pairwise (fun later earlier =>
      ((s.queues id).calls later).Started → (s.queues id).Over earlier) ∧
    (∀ n r, (s.queues id).calls n = .answered r → ∃ s', init.Run s' ∧ s'.Run s ∧
      (s'.queues id).calls n = .settled r) ∧
    ((s.queues id).Rests → (s.queues id).inflight = none ∧
      ∀ n ∈ (s.queues id).made, ∃ r, (s.queues id).calls n = .answered r) := by
  have h : Serialized s.inflightEvaluationToken (s.queues id) := by
    have hall : ∀ id, Serialized s.inflightEvaluationToken (s.queues id) := by
      induction hrun with
      | refl =>
        exact fun _ => ⟨trivial, fun _ he => (nomatch he), fun _ _ hm => (nomatch hm),
          fun _ hm => (nomatch hm)⟩
      | tail _ hstep ih => exact Serialized.step ih hstep
    exact hall id
  refine ⟨h.queued.pairwise, fun n r hn => ?_, fun hrests => ?_⟩
  · clear h
    induction hrun with
    | refl => cases hn
    | tail hbefore hstep ih =>
      rcases hstep.answered hn with hold | hsett
      · obtain ⟨s', hto, hfrom, hends⟩ := ih hold
        exact ⟨s', hto, hfrom.tail hstep, hends⟩
      · exact ⟨_, hbefore, .single hstep, hsett⟩
  · have hall := h.queued.answered hrests
    refine ⟨?_, hall⟩
    by_contra hent
    obtain ⟨e, he⟩ := Option.ne_none_iff_exists'.mp hent
    obtain ⟨_, hhead, hnone⟩ := h.held e he
    obtain ⟨r, hr⟩ := hall e.token (List.mem_of_head? hhead)
    exact hnone r hr

/-- What goes on at one application. -/
theorem run_of_resumes {s : Evaluations E V} {id : String}
    (h : Relation.ReflTransGen Resumes (s.queues id) q) :
    s.Run { s with queues := update s.queues id q } := by
  induction h with
  | refl =>
    rw [Function.update_eq_self]
  | @tail q q' _ hstep ih =>
    have hresumes : (update s.queues id q id).Resumes q' := by
      rw [update_self]
      exact hstep
    have hlast := Step.resume (s := { s with queues := update s.queues id q }) hresumes
    rw [Function.update_idem] at hlast
    exact ih.tail hlast

/-- Two calls of one application, the second with a body that throws at once.  It waits for the
first, its caller has the error, and the entry is gone. -/
theorem failedEvaluation_answered : ∃ s s₁ : Evaluations String Nat, s₁.Run s ∧
      (s₁.queues "app").calls 2 = .waiting 1 (some "refused") ∧
      (s.queues "app").inflight = none ∧ (s.queues "app").calls 1 = .answered (.ok 7) ∧
      ((s.queues "app").made.Pairwise fun later earlier =>
        ((s.queues "app").calls later).Started → (s.queues "app").Over earlier) ∧
      ∃ s', init.Run s' ∧ s'.Run s ∧
        (s'.queues "app").calls 2 = .settled (.error "refused") := by
  let s₁ : Evaluations String Nat :=
    (init.withSerializedEvaluation "app" none).withSerializedEvaluation "app" (some "refused")
  have hcalls : init.Run s₁ := .tail (.single (.call "app" none)) (.call "app" (some "refused"))
  have hends : Relation.ReflTransGen Resumes (s₁.queues "app")
      (((((((s₁.queues "app").put 1 (.settled (.ok 7))).put 2 (.settled (.error "refused"))).clear
        1).put 1 (.answered (.ok 7))).clear 2).put 2 (.answered (.error "refused"))) :=
    .tail (.tail (.tail (.single (.run (n := 1) rfl (.ok 7)))
      (@Resumes.body _ _ _ 2 1 (some "refused") rfl rfl)) (.caller rfl)) (.caller rfl)
  have hrun := run_of_resumes hends
  have hserialized := evaluations_serialized (hcalls.trans hrun) "app"
  exact ⟨_, s₁, hrun, rfl, rfl, rfl, hserialized.1, hserialized.2.1 2 (.error "refused") rfl⟩

end Sencho.GitOps
