import Sencho.Verified.CodeUnits
import Sencho.Verified.Runs
import Sencho.Verified.Table

/-!
# The process-wide cache

`CacheService` keeps entries with an expiry, shares one running computation between the callers
of a key, and numbers the writers of a key so that a computation an invalidation has overtaken
does not write.  A run is any list of calls, and a computation settles at any later step.  What a
fetcher does is not part of the service: it is started inside a call, where it may throw before it
has a promise, and else its outcome comes back in the step `resume`.

Beside the service stands a record of what was asked and answered.  It counts the invalidations
of each key, and with each value it keeps how many of them had returned when the fetcher that
produced the value was started.  No call reads it.
-/

namespace Sencho.Cache

open Verified CodeUnits

def colon : UInt16 := unit ':'

/-- The keys an invalidation of a namespace looks for. -/
def inNamespace (namespace_ key : Text) : Bool :=
  key = namespace_ || (namespace_ ++ [colon]).isPrefixOf key

/-- What is stored under a key.  `started` belongs to the record: it is absent for a value that
was given to `set`. -/
structure Entry (V : Type) where
  key : Text
  value : V
  expiresAt : Int
  started : Option Nat

/-- A computation.  `started` and `flushes` belong to the record: the invalidations of the key and
the flushes that had returned when the fetcher was started. -/
structure Fetch (V : Type) where
  key : Text
  ttlMs : Int
  generation : Nat
  existing : Option (Entry V)
  settled : Bool
  started : Nat
  flushes : Nat

/-- A call that waits for a computation, with the invalidations of its key before it. -/
structure Wait where
  fetch : Nat
  asked : Nat

/-- A value a call returned. -/
structure Answer (V : Type) where
  value : V
  asked : Nat
  started : Option Nat

/-- A write of an entry, with the invalidations of its key before it. -/
structure Write where
  invalidations : Nat
  started : Option Nat

/-- The service with its computations, and the record of a run. -/
structure World (V : Type) where
  store : Table (Entry V) Text Entry.key
  inflight : Text → Option Nat
  generations : Text → Option Nat
  fetches : List (Fetch V)
  waits : List Wait
  invalidations : Text → Nat
  flushes : Nat
  answers : List (Answer V)
  writes : List Write

def maxEntries : Nat := 1000

def World.empty {V : Type} : World V :=
  ⟨.empty, fun _ => none, fun _ => none, [], [], fun _ => 0, 0, [], []⟩

/-- How the promise of a fetcher settles. -/
inductive FetchResult (V : Type) where
  | resolved (value : V)
  | rejected

inductive Call (V : Type) where
  | getOrFetch (key : Text) (ttlMs now : Int) (throws : Bool)
  | resume (fetch : Nat) (result : FetchResult V) (now : Int)
  | get (key : Text) (now : Int)
  | peek (key : Text) (now : Int)
  | set (key : Text) (value : V) (ttlMs now : Int)
  | invalidate (key : Text)
  | invalidateNamespace (namespace_ : Text)
  | flush

namespace World

variable {V : Type} (w : World V)

def currentGeneration (key : Text) : Nat := (w.generations key).getD 0

/-- An entry that has not expired. -/
def live (key : Text) (now : Int) : Option (Entry V) :=
  (w.store.find? key).filter fun e => now < e.expiresAt

/-- Record a value that goes back to a caller. -/
def answer (asked : Nat) (value : V) (started : Option Nat) : World V :=
  { w with answers := ⟨value, asked, started⟩ :: w.answers }

def purgeExpired (now : Int) : World V :=
  { w with store := w.store.delete fun e => e.expiresAt ≤ now }

def isFull : Bool := maxEntries ≤ w.store.rows.length

def put (key : Text) (value : V) (expiresAt : Int) (started : Option Nat) : World V :=
  { w with
    store := w.store.put ⟨key, value, expiresAt, started⟩
    writes := ⟨w.invalidations key, started⟩ :: w.writes }

/-- Store a value.  A full store gives up what has expired, and refuses a new key if it is still
full. -/
def set (key : Text) (value : V) (ttlMs now : Int) (started : Option Nat) : World V :=
  if w.isFull && (w.store.find? key).isNone then
    if (w.purgeExpired now).isFull then w.purgeExpired now
    else (w.purgeExpired now).put key value (now + ttlMs) started
  else w.put key value (now + ttlMs) started

/-- Start a computation and take the slot of its key. -/
def startFetch (key : Text) (ttlMs : Int) : World V :=
  { w with
    fetches := w.fetches ++ [⟨key, ttlMs, w.currentGeneration key, w.store.find? key, false,
      w.invalidations key, w.flushes⟩]
    inflight := fun k => if k = key then some w.fetches.length else w.inflight k }

def markSettled (fetch : Nat) : World V :=
  { w with fetches := w.fetches.modify fetch fun t => { t with settled := true } }

/-- Wait for the computation in a slot.  Only one whose fetcher threw at once is settled there,
and its caller and all who come later get the entry that it found expired, or its error. -/
def join (fetch : Nat) (key : Text) : World V :=
  match (w.fetches[fetch]?).filter (·.settled) with
  | none => { w with waits := ⟨fetch, w.invalidations key⟩ :: w.waits }
  | some t =>
    match t.existing with
    | some e => w.answer (w.invalidations key) e.value e.started
    | none => w

/-- A fetcher that throws before it has a promise ends its computation before the slot is taken,
and nothing clears the slot afterwards. -/
def getOrFetch (key : Text) (ttlMs now : Int) (throws : Bool) : World V :=
  match w.live key now with
  | some e => w.answer (w.invalidations key) e.value e.started
  | none =>
    match w.inflight key with
    | some fetch => w.join fetch key
    | none =>
      let started := w.startFetch key ttlMs
      (if throws then started.markSettled w.fetches.length else started).join w.fetches.length key

/-- A synchronous read. -/
def get (key : Text) (now : Int) : World V :=
  match w.live key now with
  | some e => w.answer (w.invalidations key) e.value e.started
  | none => w

/-- A computation writes its value if nothing has numbered the key again since it began. -/
def commit (t : Fetch V) (value : V) (now : Int) : World V :=
  if w.currentGeneration t.key = t.generation then
    w.set t.key value t.ttlMs now (some t.started)
  else w

/-- Clear the slot of a key if the computation still owns it. -/
def release (fetch : Nat) (key : Text) : World V :=
  { w with inflight := fun k =>
      if k = key ∧ w.inflight k = some fetch then none else w.inflight k }

/-- Hand a value to the callers that wait for a computation. -/
def deliver (fetch : Nat) (value : V) (started : Option Nat) : World V :=
  { w with answers :=
      ((w.waits.filter fun wait => wait.fetch = fetch).map fun wait =>
        ⟨value, wait.asked, started⟩) ++ w.answers }

/-- A computation that went through is written and returned. -/
def resolve (fetch : Nat) (t : Fetch V) (value : V) (now : Int) : World V :=
  (((w.commit t value now).markSettled fetch).release fetch t.key).deliver fetch value
    (some t.started)

/-- A computation that failed falls back on the entry its caller found expired. -/
def reject (fetch : Nat) (t : Fetch V) : World V :=
  match t.existing with
  | some e => ((w.markSettled fetch).release fetch t.key).deliver fetch e.value e.started
  | none => (w.markSettled fetch).release fetch t.key

/-- The rest of a computation, once its fetcher has settled. -/
def resume (fetch : Nat) (result : FetchResult V) (now : Int) : World V :=
  match (w.fetches[fetch]?).filter fun t => !t.settled with
  | none => w
  | some t =>
    match result with
    | .resolved value => w.resolve fetch t value now
    | .rejected => w.reject fetch t

/-- Drop the entry and the running computation of the keys a test selects, and number them
again. -/
def supersede (selects : Text → Bool) : World V :=
  { w with
    store := w.store.delete fun e => selects e.key
    inflight := fun k => if selects k then none else w.inflight k
    generations := fun k =>
      if selects k then some (w.currentGeneration k + 1) else w.generations k }

def invalidate (key : Text) : World V :=
  { w.supersede fun k => k = key with
    invalidations := fun k => if k = key then w.invalidations k + 1 else w.invalidations k }

/-- The keys the service knows of. -/
def known (key : Text) : Bool :=
  (w.store.find? key).isSome || (w.inflight key).isSome || (w.generations key).isSome

def invalidateNamespace (namespace_ : Text) : World V :=
  { w.supersede fun k => w.known k && inNamespace namespace_ k with
    invalidations := fun k =>
      if inNamespace namespace_ k then w.invalidations k + 1 else w.invalidations k }

def flush : World V :=
  { w with
    store := .empty
    inflight := fun _ => none
    generations := fun _ => none
    invalidations := fun k => w.invalidations k + 1
    flushes := w.flushes + 1 }

end World

variable {V : Type}

def step (w : World V) : Call V → World V
  | .getOrFetch key ttlMs now throws => w.getOrFetch key ttlMs now throws
  | .resume fetch result now => w.resume fetch result now
  | .get key now => w.get key now
  | .peek key now => w.get key now
  | .set key value ttlMs now => w.set key value ttlMs now none
  | .invalidate key => w.invalidate key
  | .invalidateNamespace namespace_ => w.invalidateNamespace namespace_
  | .flush => w.flush

/-- No call returned the value of a fetcher that an earlier invalidation of its key found running
or settled, and no such fetcher wrote afterwards. -/
structure Fresh (w : World V) : Prop where
  answers : ∀ a ∈ w.answers, ∀ s, a.started = some s → a.asked ≤ s
  writes : ∀ x ∈ w.writes, ∀ s, x.started = some s → x.invalidations ≤ s

end Sencho.Cache
