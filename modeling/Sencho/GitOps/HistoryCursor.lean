import Sencho.Verified.Decimals

/-!
# Page cursors of the history

A cursor is a timestamp and an id, joined by a dot.  What comes back from a caller is split at its
first dot and read again, and anything that is not a timestamp with a history id is refused.  How
a host reads a number from a text is a parameter, of which the codec uses that it reads an integer
it has printed.
-/

namespace Sencho.GitOps.History

open Verified List CodeUnits Decimals

structure GitOpsHistoryCursor where
  createdAt : Int
  id : Text

def dot : UInt16 := unit '.'

def encodeHistoryCursor (cursor : GitOpsHistoryCursor) : Text :=
  decimalInt cursor.createdAt ++ dot :: cursor.id

/-- The class `[0-9a-f]`. -/
def isLowerHex (c : UInt16) : Bool :=
  (unit '0' ≤ c && c ≤ unit '9') || (unit 'a' ≤ c && c ≤ unit 'f')

/-- What follows a number of hexadecimal digits. -/
def afterHex (n : Nat) (t : Text) : Option Text :=
  if (t.take n).length = n ∧ (t.take n).all isLowerHex = true then some (t.drop n) else none

/-- What follows a hyphen and a number of hexadecimal digits. -/
def afterGroup (n : Nat) : Text → Option Text
  | [] => none
  | c :: t => if c = unit '-' then afterHex n t else none

/-- The lower-case form of a UUID, which is what a history id is. -/
def isGitOpsUuid (id : Text) : Bool :=
  ((((afterHex 8 id).bind (afterGroup 4)).bind (afterGroup 4)).bind (afterGroup 4)).bind
    (afterGroup 12) = some []

/-- The largest integer that a number holds apart from its neighbours. -/
def maxSafeInteger : Nat := 9007199254740991

/-- How a host reads a text as a number: the integer it stands for, if it is one. -/
structure NumberReader where
  toNumber : Text → Option Int
  safe : ∀ n : Int, n.natAbs ≤ maxSafeInteger → toNumber (decimalInt n) = some n
  unsafe_ : ∀ n m : Int, maxSafeInteger < n.natAbs → toNumber (decimalInt n) = some m →
    maxSafeInteger < m.natAbs

/-- A reader of integers in digits. -/
def NumberReader.digits : NumberReader where
  toNumber := fun t => some (readInt t)
  safe := fun n _ => congrArg some (readInt_decimalInt n)
  unsafe_ := by
    intro n m hn hm
    rw [readInt_decimalInt] at hm
    cases hm
    exact hn

variable (host : NumberReader)
variable (c : GitOpsHistoryCursor)

/-- Read a cursor that a caller sends.  Both of its halves are checked. -/
def decodeHistoryCursor (raw : Text) : Option GitOpsHistoryCursor :=
  let separator := raw.idxOf dot
  if raw.length ≤ separator ∨ separator = 0 ∨ separator + 1 = raw.length then none
  else
    match host.toNumber (raw.take separator) with
    | none => none
    | some createdAt =>
      if maxSafeInteger < createdAt.natAbs ∨ createdAt < 0 then none
      else if isGitOpsUuid (raw.drop (separator + 1)) = true then
        some ⟨createdAt, raw.drop (separator + 1)⟩
      else none

/-- A timestamp that is a safe integer, and a history id. -/
structure GitOpsHistoryCursor.Minted (c : GitOpsHistoryCursor) : Prop where
  positive : 0 ≤ c.createdAt
  safe : c.createdAt.natAbs ≤ maxSafeInteger
  id : isGitOpsUuid c.id = true

theorem dot_not_mem_decimalInt (n : Int) : dot ∉ decimalInt n := by
  have hdigits : ∀ n, dot ∉ decimal n := by
    intro n h
    exact absurd (decimal_digits n dot h) (by decide)
  cases n with
  | ofNat n => exact hdigits n
  | negSucc n =>
    intro h
    rcases mem_cons.mp h with h | h
    · exact absurd h (by decide)
    · exact hdigits (n + 1) h

theorem decimalInt_ne_nil (n : Int) : decimalInt n ≠ [] := by
  cases n with
  | ofNat n =>
    intro h
    have hunsigned := isUnsigned_decimal n
    rw [show decimal n = [] from h] at hunsigned
    cases hunsigned
  | negSucc n => exact cons_ne_nil _ _

/-- The first dot of a cursor is the one after the timestamp. -/
theorem idxOf_encode : (encodeHistoryCursor c).idxOf dot = (decimalInt c.createdAt).length := by
  unfold encodeHistoryCursor
  rw [idxOf_append_of_notMem (dot_not_mem_decimalInt c.createdAt), idxOf_cons_self]
  omega

theorem not_isGitOpsUuid_nil : isGitOpsUuid [] = false := by decide

/-- A cursor is read as what its timestamp reads as and its id. -/
theorem decode_encode :
    decodeHistoryCursor host (encodeHistoryCursor c) =
      (host.toNumber (decimalInt c.createdAt)).bind fun createdAt =>
        if maxSafeInteger < createdAt.natAbs ∨ createdAt < 0 then none
        else if isGitOpsUuid c.id = true then some ⟨createdAt, c.id⟩ else none := by
  have htake : (encodeHistoryCursor c).take (decimalInt c.createdAt).length =
      decimalInt c.createdAt := take_left
  have hdrop : (encodeHistoryCursor c).drop ((decimalInt c.createdAt).length + 1) = c.id := by
    unfold encodeHistoryCursor
    simp
  have hlength : (encodeHistoryCursor c).length =
      (decimalInt c.createdAt).length + 1 + c.id.length := by
    unfold encodeHistoryCursor
    rw [length_append, length_cons]
    omega
  have hpos := length_pos_of_ne_nil (decimalInt_ne_nil c.createdAt)
  unfold decodeHistoryCursor
  dsimp only
  rw [idxOf_encode, htake, hdrop, hlength]
  by_cases hid : c.id = []
  · have hlast : (decimalInt c.createdAt).length + 1 =
        (decimalInt c.createdAt).length + 1 + c.id.length := by
      rw [hid]
      rfl
    rw [if_pos (.inr (.inr hlast)), hid]
    cases host.toNumber (decimalInt c.createdAt) with
    | none => rfl
    | some createdAt => simp [not_isGitOpsUuid_nil]
  · have hlen := length_pos_of_ne_nil hid
    rw [if_neg (by omega)]
    cases host.toNumber (decimalInt c.createdAt) with
    | none | some createdAt => rfl

/-- A cursor is read back exactly when it names a safe timestamp and a history id. -/
theorem decode_encode_iff :
    decodeHistoryCursor host (encodeHistoryCursor c) = some c ↔ c.Minted := by
  rw [decode_encode]
  constructor
  · intro h
    rcases Option.bind_eq_some_iff.mp h with ⟨createdAt, hread, hsome⟩
    by_cases hrf : maxSafeInteger < createdAt.natAbs ∨ createdAt < 0
    · rw [if_pos hrf] at hsome
      cases hsome
    · rw [if_neg hrf] at hsome
      by_cases hid : isGitOpsUuid c.id = true
      · rw [if_pos hid] at hsome
        have hsame : createdAt = c.createdAt := congrArg GitOpsHistoryCursor.createdAt
          (Option.some.inj hsome)
        exact ⟨by omega, by omega, hid⟩
      · rw [if_neg hid] at hsome
        cases hsome
  · intro h
    have hpositive := h.positive
    have hsafe := h.safe
    rw [host.safe c.createdAt hsafe, Option.bind_some, if_neg (by omega), if_pos h.id]

end Sencho.GitOps.History
