import Sencho.Cache.Service
import Mathlib.Data.List.Induction

/-!
# Values that outlive an invalidation

An invalidation numbers its keys again, so that a computation started before it meets a larger
number and does not write.  A flush forgets the numbers.  A computation that was started before a
flush, and before any invalidation of its key, meets the number zero again after it.
-/

namespace Sencho.Cache

open Verified List World Runs

variable {V : Type}
variable {e : Entry V} {t : Fetch V} {fetch : Nat} {started : Option Nat} {w : World V}

/-- A full store refuses a new key when nothing in it has expired. -/
def World.refuses (w : World V) (key : Text) (now : Int) : Bool :=
  w.isFull && (w.store.find? key).isNone && (w.purgeExpired now).isFull

/-- A computation that goes through began after the last flush, or meets another number than its
own, or is not stored. -/
def Meets (w : World V) : Call V → Prop
  | .resume fetch (.resolved _) now =>
    ∀ t, w.fetches[fetch]? = some t → t.settled = false →
      t.flushes = w.flushes ∨ w.currentGeneration t.key ≠ t.generation ∨ w.refuses t.key now = true
  | _ => True

/-- A computation that has not settled is the running one of its key, with its number and begun
after the last invalidation, or the key has a larger number by now. -/
def Current (w : World V) (fetch : Nat) (t : Fetch V) : Prop :=
  (w.inflight t.key = some fetch ∧ t.generation = w.currentGeneration t.key ∧
    t.started = w.invalidations t.key) ∨
  t.generation < w.currentGeneration t.key

/-- The entries and the running computations are as old as the last invalidation of their key,
and a computation of this flush that has not settled is current. -/
structure Sound (w : World V) : Prop extends Fresh w where
  rows : ∀ e ∈ w.store.rows, ∀ s, e.started = some s → s = w.invalidations e.key
  inflight : ∀ k f, w.inflight k = some f →
    ∃ t, w.fetches[f]? = some t ∧ t.started = w.invalidations k
  waits : ∀ x ∈ w.waits, ∃ t, w.fetches[x.fetch]? = some t ∧ x.asked ≤ t.started
  existing : ∀ t ∈ w.fetches, ∀ e, t.existing = some e → ∀ s, e.started = some s → t.started ≤ s
  flushed : ∀ t ∈ w.fetches, t.flushes ≤ w.flushes
  pending : ∀ f t, w.fetches[f]? = some t → t.settled = false → t.flushes = w.flushes →
    Current w f t

theorem sound_empty : Sound (empty : World V) := by
  constructor
  · constructor <;> simp [empty]
  all_goals simp [empty, Table.empty]

variable {now : Int}

section

variable (h : Sound w)
variable {key : Text}
include h

/-- An entry that is found is as old as the last invalidation of its key. -/
theorem Sound.found {s : Nat} (he : w.store.find? key = some e) (hs : e.started = some s) :
    s = w.invalidations key := by
  have hmem := (Table.find?_eq_some_iff _ _ _).mp he
  rw [← hmem.2]
  exact h.rows e hmem.1 s hs

theorem Sound.live {s : Nat} (he : w.live key now = some e) (hs : e.started = some s) :
    s = w.invalidations key :=
  h.found (Option.filter_eq_some_iff.mp he).1 hs

theorem Sound.answer {asked : Nat} {value : V} (hs : ∀ s, started = some s → asked ≤ s) :
    Sound (w.answer asked value started) := by
  constructor
  · constructor
    · intro a ha s has
      rcases mem_cons.mp ha with rfl | hold
      · exact hs s has
      · exact h.answers a hold s has
    · exact h.writes
  · exact h.rows
  · exact h.inflight
  · exact h.waits
  · exact h.existing
  · exact h.flushed
  · exact h.pending

/-- A live entry may be answered. -/
theorem Sound.answerLive (he : w.live key now = some e) :
    Sound (w.answer (w.invalidations key) e.value e.started) := by
  apply h.answer
  intro s hs
  rw [h.live he hs]

theorem sound_get (key : Text) (now : Int) : Sound (w.get key now) := by
  unfold World.get
  cases he : w.live key now with
  | some e => exact h.answerLive he
  | none => exact h

theorem sound_startFetch (ttlMs : Int) (hfree : w.inflight key = none) :
    Sound (w.startFetch key ttlMs) := by
  have hold : ∀ {f : Nat} {t : Fetch V}, w.fetches[f]? = some t →
      (w.startFetch key ttlMs).fetches[f]? = some t := by
    intro f t hf
    have hlt := (List.getElem?_eq_some_iff.mp hf).1
    show (w.fetches ++ _)[f]? = some t
    rw [getElem?_append_left hlt]
    exact hf
  have hnew : (w.startFetch key ttlMs).fetches[w.fetches.length]? =
      some ⟨key, ttlMs, w.currentGeneration key, w.store.find? key, false, w.invalidations key,
        w.flushes⟩ := by
    show (w.fetches ++ _)[w.fetches.length]? = _
    rw [getElem?_append_right (.refl), Nat.sub_self]
    rfl
  constructor
  · exact ⟨h.answers, h.writes⟩
  · exact h.rows
  · intro k f hf
    by_cases hk : k = key
    · subst hk
      have heq : w.fetches.length = f := by
        simpa [startFetch] using hf
      subst heq
      exact ⟨_, hnew, rfl⟩
    · have hf' : w.inflight k = some f := by
        simpa [startFetch, hk] using hf
      have hrun := h.inflight k f hf'
      rcases hrun with ⟨t, ht, hs⟩
      exact ⟨t, hold ht, hs⟩
  · intro x hx
    rcases h.waits x hx with ⟨t, ht, hs⟩
    exact ⟨t, hold ht, hs⟩
  · intro t ht e he s hs
    rcases mem_append.mp ht with ht | ht
    · exact h.existing t ht e he s hs
    · rw [mem_singleton.mp ht] at he ⊢
      exact Nat.le_of_eq (h.found he hs).symm
  · intro t ht
    rcases mem_append.mp ht with ht | ht
    · exact h.flushed t ht
    · rw [mem_singleton.mp ht]
      exact Nat.le_refl w.flushes
  · intro f t hf hsett hflush
    by_cases hlt : f < w.fetches.length
    · have hf' : w.fetches[f]? = some t := by
        rw [← getElem?_append_left hlt]
        exact hf
      rcases h.pending f t hf' hsett hflush with ⟨hin, hgen, hs⟩ | hgen
      · left
        refine ⟨?_, hgen, hs⟩
        have hk : t.key ≠ key := by
          intro hk
          rw [hk, hfree] at hin
          cases hin
        show (if t.key = key then _ else w.inflight t.key) = some f
        rw [if_neg hk]
        exact hin
      · exact .inr hgen
    · have hbound := (List.getElem?_eq_some_iff.mp hf).1
      have hlen : (w.startFetch key ttlMs).fetches.length = w.fetches.length + 1 := by
        simp [startFetch]
      have heq : f = w.fetches.length := by omega
      subst heq
      rw [hnew] at hf
      cases hf
      left
      refine ⟨?_, rfl, rfl⟩
      show (if key = key then some w.fetches.length else _) = _
      rw [if_pos rfl]

/-- Wait for the computation of a key, or be answered by one whose fetcher threw at once. -/
theorem Sound.join (hrun : w.inflight key = some fetch) : Sound (w.join fetch key) := by
  unfold World.join
  cases hf : (w.fetches[fetch]?).filter (·.settled) with
  | none =>
    constructor
    · exact ⟨h.answers, h.writes⟩
    · exact h.rows
    · exact h.inflight
    · intro x hx
      rcases mem_cons.mp hx with rfl | hx
      · rcases h.inflight key fetch hrun with ⟨t, ht, hs⟩
        exact ⟨t, ht, Nat.le_of_eq hs.symm⟩
      · exact h.waits x hx
    · exact h.existing
    · exact h.flushed
    · exact h.pending
  | some t =>
    dsimp only
    cases he : t.existing with
    | none => exact h
    | some e =>
      apply h.answer
      intro s hs
      obtain ⟨ht, _⟩ := Option.filter_eq_some_iff.mp hf
      rcases h.inflight key fetch hrun with ⟨t', ht', hstarted⟩
      rw [ht] at ht'
      cases ht'
      rw [← hstarted]
      exact h.existing t (mem_of_getElem? ht) e he s hs

theorem Sound.purge (now : Int) : Sound (w.purgeExpired now) := by
  constructor
  · exact ⟨h.answers, h.writes⟩
  · intro e he
    exact h.rows e (mem_filter.mp he).1
  · exact h.inflight
  · exact h.waits
  · exact h.existing
  · exact h.flushed
  · exact h.pending

theorem Sound.put (hs : ∀ s, started = some s → s = w.invalidations key) (value : V)
    (expiresAt : Int) : Sound (w.put key value expiresAt started) := by
  constructor
  · constructor
    · exact h.answers
    · intro x hx s hxs
      rcases mem_cons.mp hx with rfl | hold
      · exact Nat.le_of_eq (hs s hxs).symm
      · exact h.writes x hold s hxs
  · intro e he s hes
    rcases mem_cons.mp he with rfl | hold
    · exact hs s hes
    · exact h.rows e (mem_filter.mp hold).1 s hes
  · exact h.inflight
  · exact h.waits
  · exact h.existing
  · exact h.flushed
  · exact h.pending

end

/-- A write that is refused drops what has expired, and any other write stores its value. -/
theorem set_eq (w : World V) (key : Text) (value : V) (ttlMs now : Int) (started : Option Nat) :
    w.set key value ttlMs now started = w.purgeExpired now ∧ w.refuses key now = true ∨
      ∃ w', (w' = w ∨ w' = w.purgeExpired now) ∧ w.refuses key now = false ∧
        w.set key value ttlMs now started = w'.put key value (now + ttlMs) started := by
  unfold World.set World.refuses
  by_cases hfull : (w.isFull && (w.store.find? key).isNone) = true
  · rw [if_pos hfull, hfull, Bool.true_and]
    by_cases hpurged : (w.purgeExpired now).isFull = true
    · left
      rw [if_pos hpurged]
      exact ⟨rfl, hpurged⟩
    · right
      rw [if_neg hpurged]
      exact ⟨_, .inr rfl, by simpa using hpurged, rfl⟩
  · right
    have hnot : (w.isFull && (w.store.find? key).isNone) = false :=
      Bool.eq_false_iff.mpr hfull
    rw [if_neg hfull, hnot, Bool.false_and]
    exact ⟨w, .inl rfl, rfl, rfl⟩

theorem Sound.set (h : Sound w) {key : Text}
    (hs : w.refuses key now = false → ∀ s, started = some s → s = w.invalidations key) (value : V)
    (ttlMs : Int) : Sound (w.set key value ttlMs now started) := by
  rcases set_eq w key value ttlMs now started with ⟨heq, _⟩ | ⟨w', hw', hkept, heq⟩
  · rw [heq]
    exact h.purge now
  · rw [heq]
    rcases hw' with rfl | rfl
    · exact h.put (hs hkept) value _
    · exact (h.purge now).put (hs hkept) value _

/-- A computation that meets the condition writes nothing older than an invalidation. -/
theorem Sound.commit (h : Sound w) (ht : w.fetches[fetch]? = some t) (hrun : t.settled = false)
    (hmeets : t.flushes = w.flushes ∨ w.currentGeneration t.key ≠ t.generation ∨
      w.refuses t.key now = true) (value : V) : Sound (w.commit t value now) := by
  unfold World.commit
  by_cases hgen : w.currentGeneration t.key = t.generation
  · rw [if_pos hgen]
    apply h.set
    intro hkept s hs
    cases hs
    have hflush : t.flushes = w.flushes := by
      rcases hmeets with hflush | hother | hrf
      · exact hflush
      · exact absurd hgen hother
      · rw [hkept] at hrf
        cases hrf
    rcases h.pending fetch t ht hrun hflush with ⟨_, _, hstarted⟩ | hlt
    · exact hstarted
    · omega
  · rw [if_neg hgen]
    exact h

/-- A write leaves the computations and the record beside the writes alone. -/
structure Writes (w w' : World V) : Prop where
  fetches : w'.fetches = w.fetches
  flushes : w'.flushes = w.flushes
  invalidations : w'.invalidations = w.invalidations
  waits : w'.waits = w.waits

theorem writes_commit (w : World V) (t : Fetch V) (value : V) (now : Int) :
    Writes w (w.commit t value now) := by
  unfold commit
  by_cases hgen : w.currentGeneration t.key = t.generation
  · rw [if_pos hgen]
    rcases set_eq w t.key value t.ttlMs now (some t.started) with ⟨heq, _⟩ | ⟨w', hw', _, heq⟩
    · rw [heq]
      exact ⟨rfl, rfl, rfl, rfl⟩
    · rw [heq]
      rcases hw' with rfl | rfl
      · exact ⟨rfl, rfl, rfl, rfl⟩
      · exact ⟨rfl, rfl, rfl, rfl⟩
  · rw [if_neg hgen]
    exact ⟨rfl, rfl, rfl, rfl⟩

/-- The computations of a state in which one has settled. -/
theorem fetches_markSettled (w : World V) (fetch f : Nat) : (w.markSettled fetch).fetches[f]? =
      if fetch = f then (w.fetches[f]?).map fun t => { t with settled := true }
      else w.fetches[f]? := by
  unfold markSettled
  by_cases hf : fetch = f
  · simp [hf]
  · simp [hf]

/-- A computation of the state afterwards was there before, apart from having settled. -/
theorem of_markSettled {f : Nat} (ht : (w.markSettled fetch).fetches[f]? = some t) :
    ∃ t₀, w.fetches[f]? = some t₀ ∧ t = { t₀ with settled := t.settled } ∧
      (t.settled = false → f ≠ fetch ∧ t₀.settled = false) := by
  rw [fetches_markSettled] at ht
  by_cases hf : fetch = f
  · rw [if_pos hf] at ht
    rcases Option.map_eq_some_iff.mp ht with ⟨t₀, ht₀, rfl⟩
    exact ⟨t₀, ht₀, rfl, fun hfalse => nomatch hfalse⟩
  · rw [if_neg hf] at ht
    exact ⟨t, ht, rfl, fun hfalse => ⟨fun h => hf h.symm, hfalse⟩⟩

theorem to_markSettled (fetch : Nat) {f : Nat} {t₀ : Fetch V} (ht : w.fetches[f]? = some t₀) :
    ∃ t, (w.markSettled fetch).fetches[f]? = some t ∧ t.started = t₀.started := by
  rw [fetches_markSettled]
  by_cases hf : fetch = f
  · rw [if_pos hf, ht]
    exact ⟨_, rfl, rfl⟩
  · rw [if_neg hf]
    exact ⟨t₀, ht, rfl⟩

theorem Sound.markSettled (h : Sound w) (fetch : Nat) : Sound (w.markSettled fetch) := by
  constructor
  · exact ⟨h.answers, h.writes⟩
  · exact h.rows
  · intro k f hf
    rcases h.inflight k f hf with ⟨t₀, ht₀, hs⟩
    rcases to_markSettled fetch ht₀ with ⟨t, ht, hsame⟩
    exact ⟨t, ht, hsame.trans hs⟩
  · intro x hx
    rcases h.waits x hx with ⟨t₀, ht₀, hs⟩
    rcases to_markSettled fetch ht₀ with ⟨t, ht, hsame⟩
    exact ⟨t, ht, hsame ▸ hs⟩
  · intro t ht
    rcases mem_iff_getElem?.mp ht with ⟨f, hf⟩
    rcases of_markSettled hf with ⟨t₀, ht₀, heq, _⟩
    rw [heq]
    exact h.existing t₀ (mem_of_getElem? ht₀)
  · intro t ht
    rcases mem_iff_getElem?.mp ht with ⟨f, hf⟩
    rcases of_markSettled hf with ⟨t₀, ht₀, heq, _⟩
    rw [heq]
    exact h.flushed t₀ (mem_of_getElem? ht₀)
  · intro f t hf hrun hflush
    rcases of_markSettled hf with ⟨t₀, ht₀, heq, hother⟩
    have hsame : t = t₀ := by
      rw [heq, hrun, ← (hother hrun).2]
    subst hsame
    exact h.pending f t ht₀ hrun hflush

/-- A slot may be cleared once its computation has settled. -/
theorem Sound.settle (h : Sound w) (fetch : Nat) (key : Text) :
    Sound ((w.markSettled fetch).release fetch key) := by
  have hsett := h.markSettled fetch
  refine ⟨⟨h.answers, h.writes⟩, h.rows, fun k f hf => ?_, hsett.waits, hsett.existing,
    hsett.flushed, fun f t hf hrun hflush => ?_⟩
  · refine hsett.inflight k f ?_
    by_cases hk : k = key ∧ w.inflight k = some fetch
    · simp [release, hk] at hf
      exact hk.1 ▸ hf.2
    · simpa [release, World.markSettled, hk] using hf
  · rcases hsett.pending f t hf hrun hflush with ⟨hin, hgen, hs⟩ | hlt
    · refine .inl ⟨?_, hgen, hs⟩
      show (if t.key = key ∧ w.inflight t.key = some fetch then none
        else w.inflight t.key) = some f
      have hin : w.inflight t.key = some f := hin
      rw [if_neg, hin]
      rintro ⟨_, hself⟩
      rw [hin] at hself
      obtain ⟨_, _, _, hother⟩ := of_markSettled hf
      exact (hother hrun).1 (Option.some.inj hself)
    · exact .inr hlt

theorem sound_getOrFetch (h : Sound w) (key : Text) (ttlMs now : Int) (throws : Bool) :
    Sound (w.getOrFetch key ttlMs now throws) := by
  unfold getOrFetch
  cases he : w.live key now with
  | some e => exact h.answerLive he
  | none =>
    cases hrun : w.inflight key with
    | some fetch => exact h.join hrun
    | none =>
      have hstarted := sound_startFetch h ttlMs hrun
      have hslot : (w.startFetch key ttlMs).inflight key = some w.fetches.length := if_pos rfl
      cases throws with
      | false => exact hstarted.join hslot
      | true => exact (hstarted.markSettled _).join hslot

/-- The value of a computation may go to everyone who waits for it. -/
theorem Sound.deliver (h : Sound w) (ht : w.fetches[fetch]? = some t)
    (hs : ∀ s, started = some s → t.started ≤ s) (value : V) :
    Sound (w.deliver fetch value started) := by
  constructor
  · constructor
    · intro a ha s has
      rcases mem_append.mp ha with ha | hold
      · rcases mem_map.mp ha with ⟨x, hx, rfl⟩
        rcases mem_filter.mp hx with ⟨hx, hfetch⟩
        rcases h.waits x hx with ⟨t', ht', hasked⟩
        have hsame : x.fetch = fetch := by simpa using hfetch
        rw [hsame, ht] at ht'
        cases ht'
        exact Nat.le_trans hasked (hs s has)
      · exact h.answers a hold s has
    · exact h.writes
  · exact h.rows
  · exact h.inflight
  · exact h.waits
  · exact h.existing
  · exact h.flushed
  · exact h.pending

theorem fetches_settle (key : Text) (ht : w.fetches[fetch]? = some t) :
    ((w.markSettled fetch).release fetch key).fetches[fetch]? =
      some { t with settled := true } := by
  show (w.markSettled fetch).fetches[fetch]? = _
  rw [fetches_markSettled, if_pos rfl, ht]
  rfl

section

variable (h : Sound w)
include h

theorem Sound.resolve (ht : w.fetches[fetch]? = some t) (hrun : t.settled = false)
    (hmeets : t.flushes = w.flushes ∨ w.currentGeneration t.key ≠ t.generation ∨
      w.refuses t.key now = true) (value : V) : Sound (w.resolve fetch t value now) := by
  have hcommit := h.commit ht hrun hmeets value
  have hthere : (w.commit t value now).fetches[fetch]? = some t := by
    rw [(writes_commit w t value now).fetches]
    exact ht
  apply (hcommit.settle fetch t.key).deliver (fetches_settle t.key hthere)
  intro s hs
  cases hs
  exact Nat.le_refl t.started

theorem Sound.reject (ht : w.fetches[fetch]? = some t) : Sound (w.reject fetch t) := by
  unfold World.reject
  cases he : t.existing with
  | some e =>
    apply (h.settle fetch t.key).deliver (fetches_settle t.key ht)
    intro s hs
    exact h.existing t (mem_of_getElem? ht) e he s hs
  | none => exact h.settle fetch t.key

theorem sound_resume {result : FetchResult V}
    (hmeets : Meets w (.resume fetch result now)) : Sound (w.resume fetch result now) := by
  unfold resume
  cases hf : (w.fetches[fetch]?).filter fun t => !t.settled with
  | none => exact h
  | some t =>
    rcases Option.filter_eq_some_iff.mp hf with ⟨ht, hrun⟩
    cases result with
    | resolved value =>
      have hrun : t.settled = false := by simpa using hrun
      exact h.resolve ht hrun (hmeets t ht hrun) value
    | rejected => exact h.reject ht

/-- An invalidation that numbers every key it counts, if the service knows it. -/
theorem Sound.supersede {selects : Text → Bool} {invalidations : Text → Nat}
    (hsame : ∀ k, selects k = false → w.known k = true → invalidations k = w.invalidations k) :
    Sound { w.supersede selects with invalidations := invalidations } := by
  constructor
  · exact ⟨h.answers, h.writes⟩
  · intro e he s hs
    rcases mem_filter.mp he with ⟨hrow, hkept⟩
    have hkept : selects e.key = false := by simpa using hkept
    have hknown : w.known e.key = true := by
      unfold known
      rw [(Table.find?_eq_some_iff w.store e.key e).mpr ⟨hrow, rfl⟩]
      rfl
    show s = invalidations e.key
    rw [hsame _ hkept hknown]
    exact h.rows e hrow s hs
  · intro k f hf
    by_cases hk : selects k = true
    · simp [World.supersede, hk] at hf
    · have hk : selects k = false := by simpa using hk
      have hrun : w.inflight k = some f := by
        simpa [World.supersede, hk] using hf
      have hknown : w.known k = true := by
        unfold World.known
        rw [hrun]
        simp
      rcases h.inflight k f hrun with ⟨t, ht, hs⟩
      exact ⟨t, ht, hs.trans (hsame k hk hknown).symm⟩
  · exact h.waits
  · exact h.existing
  · exact h.flushed
  · intro f t hf hrun hflush
    have hcur := h.pending f t hf hrun hflush
    by_cases hk : selects t.key = true
    · right
      have hnext : (w.supersede selects).currentGeneration t.key =
          w.currentGeneration t.key + 1 := by
        simp [World.supersede, World.currentGeneration, hk]
      show t.generation < (w.supersede selects).currentGeneration t.key
      rcases hcur with ⟨_, hgen, _⟩ | hlt
      · omega
      · omega
    · have hk : selects t.key = false := by simpa using hk
      have hgenSame : (w.supersede selects).currentGeneration t.key =
          w.currentGeneration t.key := by
        simp [World.supersede, World.currentGeneration, hk]
      rcases hcur with ⟨hin, hgen, hs⟩ | hlt
      · left
        have hknown : w.known t.key = true := by
          unfold known
          rw [hin]
          simp
        refine ⟨?_, hgen.trans hgenSame.symm, hs.trans (hsame _ hk hknown).symm⟩
        show (if selects t.key = true then none else w.inflight t.key) = some f
        rw [hk]
        exact hin
      · right
        show t.generation < (w.supersede selects).currentGeneration t.key
        rw [hgenSame]
        exact hlt

theorem sound_invalidate (key : Text) : Sound (w.invalidate key) := by
  apply h.supersede
  intro k hk _
  have hother : k ≠ key := by simpa using hk
  exact if_neg hother

theorem sound_invalidateNamespace (namespace_ : Text) :
    Sound (w.invalidateNamespace namespace_) := by
  apply h.supersede
  intro k hk hknown
  have hother : inNamespace namespace_ k = false := by
    rw [hknown, Bool.true_and] at hk
    exact hk
  show (if inNamespace namespace_ k = true then _ else w.invalidations k) = _
  rw [hother]
  rfl

theorem sound_flush : Sound w.flush := by
  constructor
  · exact ⟨h.answers, h.writes⟩
  · intro e he
    cases he
  · intro k f hf
    cases hf
  · exact h.waits
  · exact h.existing
  · intro t ht
    exact Nat.le_succ_of_le (h.flushed t ht)
  · intro f t hf _ hflush
    have hle := h.flushed t (mem_of_getElem? hf)
    have heq : t.flushes = w.flushes + 1 := hflush
    omega

theorem sound_step {c : Call V} (hmeets : Meets w c) : Sound (step w c) := by
  cases c with
  | getOrFetch key ttlMs now throws => exact sound_getOrFetch h key ttlMs now throws
  | resume fetch result now => exact sound_resume h hmeets
  | get key now | peek key now => exact sound_get h key now
  | set key value ttlMs now =>
    apply h.set
    intro _ s hs
    cases hs
  | invalidate key => exact sound_invalidate h key
  | invalidateNamespace namespace_ => exact sound_invalidateNamespace h namespace_
  | flush => exact sound_flush h

end

/-- What any call does to the record: a computation is an earlier one or begins now, a flush
counts as an invalidation of every key, and no write is forgotten. -/
structure Grows (w w' : World V) : Prop where
  fetches : ∀ t ∈ w'.fetches, (∃ t₀ ∈ w.fetches, t = { t₀ with settled := t.settled }) ∨
    (t.started = w.invalidations t.key ∧ t.flushes = w.flushes)
  flushes : w.flushes ≤ w'.flushes
  invalidations : ∀ k, w.invalidations k + w'.flushes ≤ w'.invalidations k + w.flushes
  writes : ∀ x ∈ w.writes, x ∈ w'.writes

theorem Grows.refl (w : World V) : Grows w w :=
  ⟨fun t ht => .inl ⟨t, ht, rfl⟩, Nat.le_refl w.flushes,
    fun k => Nat.le_refl (w.invalidations k + w.flushes), fun _ hx => hx⟩

theorem writes_set (w : World V) (key : Text) (value : V) (ttlMs now : Int) (started : Option Nat) :
    ∀ x ∈ w.writes, x ∈ (w.set key value ttlMs now started).writes := by
  intro x hx
  rcases set_eq w key value ttlMs now started with ⟨heq, _⟩ | ⟨w', hw', _, heq⟩
  · rw [heq]
    exact hx
  · rw [heq]
    rcases hw' with rfl | rfl
    · exact mem_cons_of_mem _ hx
    · exact mem_cons_of_mem _ hx

theorem writes_commit_mono (w : World V) (t : Fetch V) (value : V) (now : Int) :
    ∀ x ∈ w.writes, x ∈ (w.commit t value now).writes := by
  unfold commit
  by_cases hgen : w.currentGeneration t.key = t.generation
  · rw [if_pos hgen]
    exact writes_set w t.key value t.ttlMs now (some t.started)
  · rw [if_neg hgen]
    exact fun _ hx => hx

/-- A call that leaves the counts alone and changes no computation but for its end. -/
theorem Grows.of_settled {w' v : World V} (hsame : v.fetches = w.fetches)
    (hfetches : w'.fetches = (v.markSettled fetch).fetches) (hflushes : w'.flushes = w.flushes)
    (hinv : w'.invalidations = w.invalidations) (hwr : ∀ x ∈ w.writes, x ∈ w'.writes) :
    Grows w w' := by
  constructor
  · intro t ht
    rw [hfetches] at ht
    rcases mem_iff_getElem?.mp ht with ⟨f, hf⟩
    rcases of_markSettled hf with ⟨t₀, ht₀, heq, _⟩
    rw [hsame] at ht₀
    exact .inl ⟨t₀, mem_of_getElem? ht₀, heq⟩
  · omega
  · intro k
    rw [hinv]
    omega
  · exact hwr

theorem grows_resume (w : World V) (fetch : Nat) (result : FetchResult V) (now : Int) :
    Grows w (w.resume fetch result now) := by
  unfold resume
  cases hf : (w.fetches[fetch]?).filter fun t => !t.settled with
  | none => exact Grows.refl w
  | some t =>
    cases result with
    | resolved value =>
      have hw := writes_commit w t value now
      exact Grows.of_settled hw.fetches rfl hw.flushes hw.invalidations
        (writes_commit_mono w t value now)
    | rejected =>
      show Grows w (w.reject fetch t)
      unfold reject
      cases t.existing with
      | some e => exact Grows.of_settled rfl rfl rfl rfl fun _ hx => hx
      | none => exact Grows.of_settled rfl rfl rfl rfl fun _ hx => hx

theorem grows_get (w : World V) (key : Text) (now : Int) : Grows w (w.get key now) := by
  have hrefl := Grows.refl w
  unfold World.get
  cases w.live key now with
  | some e => exact ⟨hrefl.fetches, hrefl.flushes, hrefl.invalidations, hrefl.writes⟩
  | none => exact hrefl

theorem Grows.join {w' : World V} (h : Grows w w') (fetch : Nat) (key : Text) :
    Grows w (w'.join fetch key) := by
  unfold World.join
  repeat' split
  all_goals exact ⟨h.fetches, h.flushes, h.invalidations, h.writes⟩

theorem grows_startFetch (w : World V) (key : Text) (ttlMs : Int) :
    Grows w (w.startFetch key ttlMs) := by
  refine ⟨fun t ht => ?_, Nat.le_refl _, fun k => Nat.le_refl _, fun _ hx => hx⟩
  rcases mem_append.mp ht with ht | ht
  · exact .inl ⟨t, ht, rfl⟩
  · rw [mem_singleton.mp ht]
    exact .inr ⟨rfl, rfl⟩

theorem grows_getOrFetch (w : World V) (key : Text) (ttlMs now : Int) (throws : Bool) :
    Grows w (w.getOrFetch key ttlMs now throws) := by
  have hrefl := Grows.refl w
  unfold getOrFetch
  cases w.live key now with
  | some e => exact ⟨hrefl.fetches, hrefl.flushes, hrefl.invalidations, hrefl.writes⟩
  | none =>
    cases w.inflight key with
    | some fetch => exact hrefl.join fetch key
    | none =>
      have hstarted := grows_startFetch w key ttlMs
      cases throws with
      | false => exact hstarted.join _ key
      | true =>
        have hthrown : Grows w ((w.startFetch key ttlMs).markSettled w.fetches.length) := by
          refine ⟨fun t ht => ?_, hstarted.flushes, hstarted.invalidations, hstarted.writes⟩
          rcases mem_iff_getElem?.mp ht with ⟨f, hf⟩
          rcases of_markSettled hf with ⟨t₀, ht₀, heq, _⟩
          rw [heq]
          rcases hstarted.fetches t₀ (mem_of_getElem? ht₀) with ⟨t₁, ht₁, heq₁⟩ | hnew
          · exact .inl ⟨t₁, ht₁, by rw [heq₁]⟩
          · exact .inr hnew
        exact hthrown.join _ key

theorem grows_set (w : World V) (key : Text) (value : V) (ttlMs now : Int) :
    Grows w (w.set key value ttlMs now none) := by
  have hrefl := Grows.refl w
  have hwr := writes_set w key value ttlMs now none
  rcases set_eq w key value ttlMs now none with ⟨heq, _⟩ | ⟨w', hw', _, heq⟩
  · rw [heq] at hwr ⊢
    exact ⟨hrefl.fetches, hrefl.flushes, hrefl.invalidations, hwr⟩
  · rw [heq] at hwr ⊢
    rcases hw' with rfl | rfl
    · exact ⟨hrefl.fetches, hrefl.flushes, hrefl.invalidations, hwr⟩
    · exact ⟨hrefl.fetches, hrefl.flushes, hrefl.invalidations, hwr⟩

/-- A call that counts invalidations and flushes no less than it flushes. -/
theorem Grows.of_counts {w' : World V} (hfetches : w'.fetches = w.fetches)
    (hflushes : w.flushes ≤ w'.flushes)
    (hinv : ∀ k, w.invalidations k + w'.flushes ≤ w'.invalidations k + w.flushes)
    (hwr : w'.writes = w.writes) : Grows w w' := by
  constructor
  · intro t ht
    rw [hfetches] at ht
    exact .inl ⟨t, ht, rfl⟩
  · exact hflushes
  · exact hinv
  · intro x hx
    rw [hwr]
    exact hx

theorem grows_step (w : World V) (c : Call V) : Grows w (step w c) := by
  cases c with
  | getOrFetch key ttlMs now throws => exact grows_getOrFetch w key ttlMs now throws
  | resume fetch result now => exact grows_resume w fetch result now
  | get key now | peek key now => exact grows_get w key now
  | set key value ttlMs now => exact grows_set w key value ttlMs now
  | invalidate key =>
    apply Grows.of_counts
    · rfl
    · exact Nat.le_refl w.flushes
    · intro k
      show w.invalidations k + w.flushes ≤
        (if k = key then w.invalidations k + 1 else w.invalidations k) + w.flushes
      by_cases hk : k = key
      · rw [if_pos hk]
        omega
      · rw [if_neg hk]
    · rfl
  | invalidateNamespace namespace_ =>
    apply Grows.of_counts
    · rfl
    · exact Nat.le_refl w.flushes
    · intro k
      show w.invalidations k + w.flushes ≤
        (if inNamespace namespace_ k = true then w.invalidations k + 1
          else w.invalidations k) + w.flushes
      by_cases hk : inNamespace namespace_ k = true
      · rw [if_pos hk]
        omega
      · rw [if_neg hk]
    · rfl
  | flush =>
    apply Grows.of_counts
    · rfl
    · exact Nat.le_succ w.flushes
    · intro k
      show w.invalidations k + (w.flushes + 1) ≤ w.invalidations k + 1 + w.flushes
      omega
    · rfl

/-- Every flush since a computation began is an invalidation of its key since then. -/
def Aged (w : World V) : Prop :=
  ∀ t ∈ w.fetches, t.flushes ≤ w.flushes ∧ t.started + w.flushes ≤ w.invalidations t.key + t.flushes

theorem aged_step (w : World V) (c : Call V) (h : Aged w) : Aged (step w c) := by
  intro t ht
  have hgrows := grows_step w c
  have hflushes := hgrows.flushes
  have hinv := hgrows.invalidations t.key
  rcases hgrows.fetches t ht with ⟨t₀, ht₀, heq⟩ | ⟨hs, hf⟩
  · have hold := h t₀ ht₀
    rw [heq] at hinv ⊢
    show t₀.flushes ≤ _ ∧ t₀.started + _ ≤ (step w c).invalidations t₀.key + t₀.flushes
    have hinv : w.invalidations t₀.key + (step w c).flushes ≤
        (step w c).invalidations t₀.key + w.flushes := hinv
    omega
  · omega

theorem aged_run (calls : List (Call V)) : Aged (run step empty calls) := by
  apply run_invariant aged_step
  intro t ht
  cases ht

theorem writes_run (w : World V) (calls : List (Call V)) {x : Write} (hx : x ∈ w.writes) :
    x ∈ (run step w calls).writes := by
  induction calls generalizing w with
  | nil => exact hx
  | cons c calls ih => exact ih _ ((grows_step w c).writes x hx)

/-- A call that does not meet the condition writes a value that an invalidation overtook. -/
theorem stale_write (h : Aged w) {c : Call V} (hc : ¬ Meets w c) :
    ∃ x ∈ (step w c).writes, ∃ s, x.started = some s ∧ s < x.invalidations := by
  cases c with
  | resume fetch result now =>
    cases result with
    | rejected => exact absurd trivial hc
    | resolved value =>
      unfold Meets at hc
      push Not at hc
      rcases hc with ⟨t, ht, hrun, hflush, hgen, hkept⟩
      have haged := h t (mem_of_getElem? ht)
      refine ⟨⟨w.invalidations t.key, some t.started⟩, ?_, t.started, rfl, ?_⟩
      · have hstep : step w (.resume fetch (.resolved value) now) =
            w.resolve fetch t value now := by
          show w.resume fetch (.resolved value) now = _
          unfold resume
          rw [ht, Option.filter_some, hrun]
          rfl
        rw [hstep]
        show _ ∈ (w.commit t value now).writes
        unfold commit
        rw [if_pos hgen]
        rcases set_eq w t.key value t.ttlMs now (some t.started) with
          ⟨_, hrf⟩ | ⟨w', hw', _, heq⟩
        · exact absurd hrf hkept
        · rw [heq]
          rcases hw' with rfl | rfl
          · exact mem_cons_self
          · exact mem_cons_self
      · show t.started < w.invalidations t.key
        omega
  | getOrFetch key ttlMs now throws | get key now | peek key now | set key value ttlMs now
  | invalidate key | invalidateNamespace namespace_ | flush => exact absurd trivial hc

theorem sound_run {calls : List (Call V)}
    (hmeets : ∀ pre c post, calls = pre ++ c :: post → Meets (run step empty pre) c) :
    Sound (run step empty calls) := by
  induction calls using reverseRecOn with
  | nil => exact sound_empty
  | append_singleton calls c ih =>
    rw [run_append]
    have hbefore : Sound (run step empty calls) := by
      apply ih
      intro pre d post heq
      apply hmeets pre d (post ++ [c])
      rw [heq]
      simp
    exact sound_step hbefore (hmeets calls c [] rfl)

/-- A run serves and stores nothing older than an invalidation exactly when no computation that
a flush overtook is stored because it meets its own number again. -/
theorem fresh_iff (calls : List (Call V)) : Fresh (run step empty calls) ↔
      ∀ pre c post, calls = pre ++ c :: post → Meets (run step empty pre) c := by
  constructor
  · intro hfr pre c post heq
    by_contra hc
    rcases stale_write (aged_run pre) hc with ⟨x, hx, s, hs, hlt⟩
    have hlast : x ∈ (run step empty calls).writes := by
      rw [heq, run_append, run_cons]
      exact writes_run _ post hx
    have hle := hfr.writes x hlast s hs
    omega
  · intro hmeets
    exact (sound_run hmeets).toFresh

/-- A computation starts, the cache is flushed, and the computation stores its value.  A later
call reads it. -/
def overtaken : List (Call Nat) :=
  [.getOrFetch [] 100 0 false, .flush, .resume 0 (.resolved 7) 1, .get [] 2]

/-- The last call is answered with the value of a fetcher that was started before the flush. -/
theorem flush_serves_older_value : ¬ Fresh (run step empty overtaken) := by
  intro h
  have hanswer : ⟨7, 1, some 0⟩ ∈ (run step empty overtaken).answers := by
    exact mem_cons_self
  have hle := h.answers _ hanswer 0 rfl
  have hone : (1 : Nat) ≤ 0 := hle
  omega

end Sencho.Cache
