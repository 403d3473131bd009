import Mathlib.Data.List.Basic

/-!
# Releasing both ends of a stream

A stream has an end that opens it and an end that accepts it, and frames travel both ways in
order.  An end that drops the stream says so, and an end that is told drops it too.  If an id is
opened only when nothing of an earlier stream is left, both ends agree once nothing is in flight.

## Main definitions

* `Notice`, `Link` — the frames that matter, and what both ends hold with what is in flight.
* `Coherent` — the phases of a stream.
* `OpenerDoes`, `AcceptorDoes` — what each end can do in a step.
* `Acts`, `Meets` — what an end does to one stream of many, and two ends that hold many.

## Main results

* `Coherent.opener`, `Coherent.acceptor` — the steps of both ends keep a link coherent.
* `Meets.step` — the steps of an end that holds many streams keep all of its links coherent.
* `Coherent.agree` — with nothing in flight both ends hold the stream or neither does.
* `Coherent.acceptor_told`, `Coherent.opener_told` — an end that still holds it is being told.
-/

namespace Sencho.Verified.Release

open List

/-- What a frame says of the life of a stream. -/
inductive Notice where
  | opens
  | closes
  deriving DecidableEq

/-- Whether each end holds the stream, and the notices in flight from the opener and back. -/
structure Link where
  opener : Bool
  acceptor : Bool
  out : List Notice
  back : List Notice

/-- The phases of a stream.  The acceptor may close more than once, as when an open that it gave up
comes to its end. -/
inductive Coherent : Link → Prop
  | offered : Coherent ⟨true, false, [.opens], []⟩
  | shared : Coherent ⟨true, true, [], []⟩
  | withdrawn : Coherent ⟨false, false, [.opens, .closes], []⟩
  | closing : Coherent ⟨false, true, [.closes], []⟩
  | refused {back : List Notice} (hback : ∀ x ∈ back, x = .closes) (hne : back ≠ []) :
      Coherent ⟨true, false, [], back⟩
  | settled {back : List Notice} (hback : ∀ x ∈ back, x = .closes) :
    Coherent ⟨false, false, [], back⟩
  | crossed {back : List Notice} (hback : ∀ x ∈ back, x = .closes) :
      Coherent ⟨false, false, [.closes], back⟩

variable {o a : Bool} {out back : List Notice}

theorem coherent_rest : Coherent ⟨false, false, [], []⟩ := .settled nofun

theorem closes_concat (hback : ∀ x ∈ back, x = Notice.closes) :
    ∀ x ∈ back ++ [.closes], x = Notice.closes := by
  intro x hx
  rcases mem_append.mp hx with hold | hnew
  · exact hback x hold
  · exact mem_singleton.mp hnew

theorem closes_cons {x : Notice} (hback : ∀ y ∈ x :: back, y = Notice.closes) :
    ∀ y ∈ back, y = Notice.closes := fun y hy => hback y (mem_cons_of_mem x hy)

theorem Coherent.openerEnds (h : Coherent ⟨true, a, out, back⟩) :
    Coherent ⟨false, a, out ++ [.closes], back⟩ := by
  cases h with
  | offered => exact .withdrawn
  | shared => exact .closing
  | refused hback _ => exact .crossed hback

theorem Coherent.acceptorEnds (h : Coherent ⟨o, true, out, back⟩) :
    Coherent ⟨o, false, out, back ++ [.closes]⟩ := by
  cases h with
  | shared => exact .refused (closes_concat nofun) (cons_ne_nil _ _)
  | closing => exact .crossed (closes_concat nofun)

/-- An acceptor that does not hold the stream closes it, when no open is on its way. -/
theorem Coherent.stray (h : Coherent ⟨o, false, out, back⟩) (hno : .opens ∉ out) :
    Coherent ⟨o, false, out, back ++ [.closes]⟩ := by
  cases h with
  | offered | withdrawn => exact absurd (mem_cons_self ..) hno
  | refused hback hne =>
    exact .refused (closes_concat hback) (append_ne_nil_of_left_ne_nil hne _)
  | settled hback => exact .settled (closes_concat hback)
  | crossed hback => exact .crossed (closes_concat hback)

section

variable (h : Coherent ⟨o, a, .opens :: out, back⟩)
include h

theorem Coherent.accept : a = false ∧ .opens ∉ out ∧ Coherent ⟨o, true, out, back⟩ := by
  cases h with
  | offered => exact ⟨rfl, not_mem_nil, .shared⟩
  | withdrawn => exact ⟨rfl, by decide, .closing⟩

theorem Coherent.refuse : Coherent ⟨o, false, out, back ++ [.closes]⟩ := by
  obtain ⟨_, _, hacc⟩ := h.accept
  exact hacc.acceptorEnds

end

theorem Coherent.closeAcceptor (h : Coherent ⟨o, a, .closes :: out, back⟩) :
    Coherent ⟨o, false, out, back⟩ := by
  cases h with
  | closing => exact .settled nofun
  | crossed hback => exact .settled hback

theorem Coherent.closeOpener (h : Coherent ⟨o, a, out, .closes :: back⟩) :
    Coherent ⟨false, a, out, back⟩ := by
  cases h with
  | refused hback _ | settled hback => exact .settled (closes_cons hback)
  | crossed hback => exact .crossed (closes_cons hback)

theorem Coherent.opens_not_mem_back (h : Coherent ⟨o, a, out, back⟩) : .opens ∉ back := by
  intro hmem
  cases h with
  | offered | shared | withdrawn | closing => exact nomatch hmem
  | refused hback _ => exact nomatch hback _ hmem
  | settled hback => exact nomatch hback _ hmem
  | crossed hback => exact nomatch hback _ hmem

/-- What the end that opens can do: whether it holds the stream before and after, the notice that
arrived and the notices it sends. -/
inductive OpenerDoes : Bool → Bool → Option Notice → List Notice → Prop
  | stays {o : Bool} : OpenerDoes o o none []
  | opens : OpenerDoes false true none [.opens]
  | ends : OpenerDoes true false none [.closes]
  | told {o : Bool} : OpenerDoes o false (some .closes) []

/-- What the end that accepts can do. -/
inductive AcceptorDoes : Bool → Bool → Option Notice → List Notice → Prop
  | stays {a : Bool} : AcceptorDoes a a none []
  | ends : AcceptorDoes true false none [.closes]
  | strays : AcceptorDoes false false none [.closes]
  | accepts {a : Bool} : AcceptorDoes a true (some .opens) []
  | refuses {a : Bool} : AcceptorDoes a a (some .opens) [.closes]
  | told {a : Bool} : AcceptorDoes a false (some .closes) []

variable {o' a' : Bool} {arriving : Option Notice} {sent : List Notice}

/-- The opener may open a stream only at rest. -/
theorem Coherent.opener (h : Coherent ⟨o, a, out, arriving.toList ++ back⟩)
    (hdoes : OpenerDoes o o' arriving sent)
    (hrest : .opens ∈ sent → a = false ∧ out = [] ∧ back = []) :
    Coherent ⟨o', a, out ++ sent, back⟩ := by
  cases hdoes with
  | stays =>
    rw [append_nil]
    exact h
  | opens =>
    obtain ⟨ha, hout, hback⟩ := hrest (mem_cons_self ..)
    rw [ha, hout, hback]
    exact .offered
  | ends => exact h.openerEnds
  | told =>
    rw [append_nil]
    exact h.closeOpener

/-- The acceptor may close a stream that it does not hold only when no open is on its way. -/
theorem Coherent.acceptor (h : Coherent ⟨o, a, arriving.toList ++ out, back⟩)
    (hdoes : AcceptorDoes a a' arriving sent)
    (hstray : arriving = none → a = false → .closes ∈ sent → .opens ∉ out) :
    Coherent ⟨o, a', out, back ++ sent⟩ := by
  cases hdoes with
  | stays =>
    rw [append_nil]
    exact h
  | ends => exact h.acceptorEnds
  | strays => exact h.stray (hstray rfl rfl (mem_cons_self ..))
  | accepts =>
    obtain ⟨_, _, hacc⟩ := h.accept
    rw [append_nil]
    exact hacc
  | refuses =>
    obtain ⟨ha, _, _⟩ := h.accept
    have hrf := h.refuse
    rw [ha]
    exact hrf
  | told =>
    rw [append_nil]
    exact h.closeAcceptor

/-- What is said of one stream. -/
def heard (s : Nat) (told : Option (Nat × Notice)) : Option Notice :=
  told.bind fun about => if about.1 = s then some about.2 else none

def said (s : Nat) (tells : List (Nat × Notice)) : List Notice :=
  tells.filterMap fun about => heard s (some about)

variable {β γ : Type}

/-- What a step of an end does to one stream: what the end holds of it before and after, the notice
that arrived and the notices that are sent.  An end opens the ids that are its own, and something
that is still working for another id may close it. -/
inductive Acts (own opening working : Prop) :
    Option β → Option β → Option Notice → List Notice → Prop
  | stays {e : Option β} : Acts own opening working e e none []
  | told {e : Option β} : Acts own opening working e none (some .closes) []
  | ends {e : β} : Acts own opening working (some e) none none [.closes]
  | opens {e : β} (hown : own) (hopn : opening) :
      Acts own opening working none (some e) none [.opens]
  | accepts {e : Option β} {e' : β} (hother : ¬ own) :
      Acts own opening working e (some e') (some .opens) []
  | refuses {e : Option β} (hother : ¬ own) :
      Acts own opening working e e (some .opens) [.closes]
  | strays (hother : ¬ own) (hworking : working) :
      Acts own opening working none none none [.closes]
  | changes {e e' : β} : Acts own opening working (some e) (some e') none []

section Acts

variable {own opening working : Prop} {e e' : Option β}

section

variable (h : Acts own opening working e e' arriving sent)
include h

theorem Acts.opener (hown : own) : OpenerDoes e.isSome e'.isSome arriving sent := by
  cases h with
  | stays | changes => exact .stays
  | told => exact .told
  | ends => exact .ends
  | opens => exact .opens
  | accepts hother | refuses hother | strays hother => exact absurd hown hother

theorem Acts.acceptor (hother : ¬ own) : AcceptorDoes e.isSome e'.isSome arriving sent := by
  cases h with
  | stays | changes => exact .stays
  | told => exact .told
  | ends => exact .ends
  | opens hown => exact absurd hown hother
  | accepts => exact .accepts
  | refuses => exact .refuses
  | strays => exact .strays

theorem Acts.opening_of (hopens : .opens ∈ sent) : opening := by
  cases h with
  | opens _ hopn => exact hopn
  | stays | told | accepts | changes => exact nomatch hopens
  | ends | refuses | strays => exact nomatch mem_singleton.mp hopens

end

theorem Acts.working_of (h : Acts own opening working none e' none sent)
    (hcloses : .closes ∈ sent) :
    working := by
  cases h with
  | strays _ hworking => exact hworking
  | stays => exact nomatch hcloses
  | opens => exact nomatch mem_singleton.mp hcloses

/-- An end that drops a stream says so or was told. -/
theorem Acts.dropped {e : β} (h : Acts own opening working (some e) none arriving sent) :
    .closes ∈ sent ∨ arriving = some .closes := by
  cases h with
  | ends => exact .inl (mem_cons_self ..)
  | told => exact .inr rfl

theorem Acts.closed (h : Acts own opening working e e' (some .closes) sent) : e' = none := by
  cases h with
  | told => rfl

end Acts

variable {mine opening working : Nat → Prop} {held held' : Nat → Option β}
variable {working₂ : Nat → Prop}

/-- What a step that is about one stream does to all. -/
theorem acts_only (mine working : Nat → Prop) {s : Nat} {arriving : Option Notice}
    {sent : List Notice}
    (h : Acts (mine s) (opening s) (working s) (held s) (held' s) arriving sent)
    (hrest : ∀ s', s' ≠ s → held' s' = held s') (s' : Nat) :
    Acts (mine s') (opening s') (working s') (held s') (held' s')
      (heard s' (arriving.map fun n => (s, n))) (said s' (sent.map fun n => (s, n))) := by
  by_cases hs : s' = s
  · have hheard : heard s (arriving.map fun n => (s, n)) = arriving := by
      cases arriving <;> simp [heard]
    have hsaid : said s (sent.map fun n => (s, n)) = sent := by
      simp [said, heard, filterMap_map]
    rw [hs, hheard, hsaid]
    exact h
  · have hheard : heard s' (arriving.map fun n => (s, n)) = none := by
      cases arriving <;> simp [heard, Ne.symm hs]
    have hsaid : said s' (sent.map fun n => (s, n)) = [] := by
      simp [said, heard, filterMap_map, Ne.symm hs]
    rw [hheard, hsaid, hrest s' hs]
    exact .stays

/-- A step that says nothing and leaves every stream, and is told of no stream that is held. -/
theorem acts_quiet {own opening working : Prop} {told : Option (Nat × Notice)}
    (hdeaf : ∀ s n, told = some (s, n) → n = .closes ∧ held s = none) (hsame : held' = held)
    (s : Nat) : Acts own opening working (held s) (held' s) (heard s told) (said s []) := by
  rw [hsame, show said s [] = [] from rfl]
  cases told with
  | none => exact .stays
  | some about =>
    obtain ⟨s', n⟩ := about
    obtain ⟨hn, hfree⟩ := hdeaf s' n rfl
    by_cases hs : s' = s
    · rw [← hs, hfree, hn, heard, Option.bind_some, if_pos rfl]
      exact .told
    · rw [heard, Option.bind_some, if_neg hs]
      exact .stays

/-- Every id is a coherent link between two ends, whose opener is the end that owns it, and no open
is on its way to an end with something still working for its id. -/
structure Meets (mine : Nat → Prop) (held : Nat → Option β) (working : Nat → Prop)
    (held₂ : Nat → Option γ) (working₂ : Nat → Prop) (out back : Nat → List Notice) : Prop where
  own : ∀ s, mine s → Coherent ⟨(held s).isSome, (held₂ s).isSome, out s, back s⟩
  other : ∀ s, ¬ mine s → Coherent ⟨(held₂ s).isSome, (held s).isSome, back s, out s⟩
  idle : ∀ s, working s → .opens ∉ back s
  idle₂ : ∀ s, working₂ s → .opens ∉ out s

theorem Meets.symm {held₂ : Nat → Option γ} {out back : Nat → List Notice}
    (h : Meets mine held working held₂ working₂ out back) :
    Meets (fun s => ¬ mine s) held₂ working₂ held working back out :=
  ⟨h.other, fun s hs => h.own s (not_not.mp hs), h.idle₂, h.idle⟩

theorem meets_of_symm {held₂ : Nat → Option γ} {out back : Nat → List Notice}
    (h : Meets (fun s => ¬ mine s) held₂ working₂ held working back out) :
    Meets mine held working held₂ working₂ out back :=
  ⟨fun s hs => h.other s (not_not_intro hs), h.own, h.idle₂, h.idle⟩

/-- A step of an end keeps the ends meeting, when it opens only what is at rest. -/
theorem Meets.step (working' : Nat → Prop) {held₂ : Nat → Option γ} {out back : Nat → List Notice}
    {told : Option (Nat × Notice)} {tells : List (Nat × Notice)}
    (h : Meets mine held working held₂ working₂ out fun s => (heard s told).toList ++ back s)
    (hacts : ∀ s, Acts (mine s) (opening s) (working s) (held s) (held' s) (heard s told)
      (said s tells)) (hworks : ∀ s, working' s → working s ∨ heard s told = some .opens)
    (hrest : ∀ s, opening s → held₂ s = none ∧ out s = [] ∧ back s = [] ∧ ¬ working₂ s) :
    Meets mine held' working' held₂ working₂ (fun s => out s ++ said s tells) back where
  own := by
    intro s hs
    refine (h.own s hs).opener ((hacts s).opener hs) fun hopens => ?_
    obtain ⟨hfree, hout, hback, _⟩ := hrest s ((hacts s).opening_of hopens)
    exact ⟨by rw [hfree]; rfl, hout, hback⟩
  other := by
    intro s hs
    refine (h.other s hs).acceptor ((hacts s).acceptor hs) fun hnone hfree hcloses => ?_
    have hact := hacts s
    rw [hnone, Option.not_isSome_iff_eq_none.mp (Bool.eq_false_iff.mp hfree)] at hact
    exact fun hmem => h.idle s (hact.working_of hcloses) (mem_append_right _ hmem)
  idle := by
    intro s hs
    rcases hworks s hs with hold | hopens
    · exact fun hmem => h.idle s hold (mem_append_right _ hmem)
    · by_cases hown : mine s
      · have hno := (h.own s hown).opens_not_mem_back
        rw [hopens] at hno
        exact absurd (mem_cons_self ..) hno
      · have hlink := h.other s hown
        rw [hopens] at hlink
        exact hlink.accept.2.1
  idle₂ := by
    intro s hs hmem
    rcases mem_append.mp hmem with hold | hnew
    · exact h.idle₂ s hs hold
    · exact (hrest s ((hacts s).opening_of hnew)).2.2.2 hs

theorem Coherent.agree (h : Coherent ⟨o, a, [], []⟩) : o = a := by
  cases h with
  | shared => rfl
  | refused _ hne => exact absurd rfl hne
  | settled => rfl

theorem Coherent.acceptor_told (h : Coherent ⟨false, true, out, back⟩) : .closes ∈ out := by
  cases h with
  | closing => exact mem_cons_self ..

theorem Coherent.opener_told (h : Coherent ⟨true, false, out, back⟩) :
    .opens ∈ out ∨ .closes ∈ back := by
  cases h with
  | offered => exact .inl (mem_cons_self ..)
  | @refused back hback hne =>
    obtain ⟨x, hx⟩ := exists_mem_of_ne_nil back hne
    rw [hback x hx] at hx
    exact .inr hx

end Sencho.Verified.Release
