import Mathlib.Data.List.Induction
import Mathlib.Data.List.TakeWhile
import Sencho.Verified.Json

/-!
# Addresses of outbound requests

The check of an outbound address is a lookup in lists of subnets.  An IPv6 address that maps an IPv4
one is looked up as the latter where its text begins in one of two ways.  In other spellings it is
looked up among the IPv6 subnets, none of which holds it.
-/

namespace Sencho.Security

open Verified CodeUnits Json List

def colon : UInt16 := unit ':'

def value (base : Nat) (t : Text) : Nat :=
  t.foldl (fun n c => n * base + (hexValue c).getD 0) 0

def readDigits (base : Nat) (t : Text) : Option Nat :=
  if t ≠ [] && t.all (fun c => (hexValue c).any (· < base)) then some (value base t) else none

/-- One to four hexadecimal digits. -/
def readWord (t : Text) : Option Nat := if t.length ≤ 4 then readDigits 16 t else none

/-- A number up to 255 without leading zeros. -/
def readOctet (t : Text) : Option Nat :=
  if t.head? = some (unit '0') && t ≠ text "0" then none else (readDigits 10 t).filter (· ≤ 255)

def ipv4 (a b c d : Nat) : Nat := ((a * 256 + b) * 256 + c) * 256 + d

def readIpv4 (t : Text) : Option Nat :=
  match t.splitOn (unit '.') with
  | [p, q, r, s] => do
    let a ← readOctet p
    let b ← readOctet q
    let c ← readOctet r
    let d ← readOctet s
    return ipv4 a b c d
  | _ => none

/-- The words between colons; the last two may be written as an IPv4 address. -/
def readWords : List Text → Option (List Nat)
  | [] => none
  | [p] =>
    match readIpv4 p with
    | some n => some [n / 0x10000, n % 0x10000]
    | none => (readWord p).map ([·])
  | p :: ps => do
    let w ← readWord p
    let ws ← readWords ps
    return w :: ws

def ofWords (ws : List Nat) : Nat := ws.foldl (fun n w => n * 0x10000 + w) 0

/-- A double colon stands for the zeros between its sides. -/
def readZeros (ls : List Nat) (ps : List Text) : Option Nat := do
  let rs ← if ps = [[]] then some [] else readWords ps
  if ls.length + rs.length ≤ 7 then
    some (ofWords (ls ++ replicate (8 - ls.length - rs.length) 0 ++ rs))
  else none

/-- The address of what stands between colons, where nothing stands in a double colon. -/
def readPieces : List Text → Option Nat
  | [] :: [] :: ps => readZeros [] ps
  | [] :: _ => none
  | ps =>
    match ps.dropWhile (· ≠ []) with
    | [] => ((readWords ps).filter (·.length = 8)).map ofWords
    | _ :: rs => do
      let ls ← (ps.takeWhile (· ≠ [])).mapM readWord
      readZeros ls rs

/-- The address of a text, which may name a zone. -/
def readIpv6 (t : Text) : Option Nat :=
  match t.splitOn (unit '%') with
  | [body] => readPieces (body.splitOn colon)
  | [body, zone] =>
    if zone ≠ [] && zone.all fun c =>
        (unit '0' ≤ c && c ≤ unit '9') || (unit 'a' ≤ c && c ≤ unit 'z') ||
          (unit 'A' ≤ c && c ≤ unit 'Z') || c = unit '-' || c = unit '.' || c = colon
    then readPieces (body.splitOn colon) else none
  | _ => none

/-- Whether one of the subnets holds an address. -/
def check (bits : Nat) (subnets : List (Nat × Nat)) (address : Nat) : Bool :=
  subnets.any fun (net, length) => address / 2 ^ (bits - length) = net / 2 ^ (bits - length)

def blockedIpv4 : List (Nat × Nat) :=
  [(ipv4 0 0 0 0, 8), (ipv4 127 0 0 0, 8), (ipv4 169 254 0 0, 16), (ipv4 192 0 0 0, 24),
    (ipv4 192 0 2 0, 24), (ipv4 192 88 99 0, 24), (ipv4 198 18 0 0, 15), (ipv4 198 51 100 0, 24),
    (ipv4 203 0 113 0, 24), (ipv4 224 0 0 0, 4), (ipv4 240 0 0 0, 4), (ipv4 100 100 100 200, 32)]

def blockedIpv6 : List (Nat × Nat) :=
  [(0, 128), (1, 128), (ofWords [0x100, 0, 0, 0, 0, 0, 0, 0], 64),
    (ofWords [0x2001, 0xdb8, 0, 0, 0, 0, 0, 0], 32), (ofWords [0xfe80, 0, 0, 0, 0, 0, 0, 0], 10),
    (ofWords [0xff00, 0, 0, 0, 0, 0, 0, 0], 8),
    (ofWords [0xfd00, 0xec2, 0, 0, 0, 0, 0, 0x254], 128)]

def loopbackIpv4 : List (Nat × Nat) := [(ipv4 127 0 0 0, 8)]

def isF (c : UInt16) : Bool := c = unit 'f' || c = unit 'F'

/-- What follows `::ffff:` or `0:0:0:0:0:ffff:`. -/
def afterMapped (t : Text) : Option Text :=
  match (afterPrefix (text "::") t).orElse fun _ => afterPrefix (text "0:0:0:0:0:") t with
  | some (a :: b :: c :: d :: e :: mapped) =>
    if isF a && isF b && isF c && isF d && e = colon then some mapped else none
  | _ => none

/-- A dotted IPv4 address or two words. -/
def readMapped (mapped : Text) : Option Nat :=
  (readIpv4 mapped).orElse fun _ =>
    match mapped.splitOn colon with
    | [h, l] => do
      let high ← readWord h
      let low ← readWord l
      return ipv4 (high / 256) (high % 256) (low / 256) (low % 256)
    | _ => none

/-- The IPv4 address that is recognized in a text, as the number that its text writes. -/
def ipv4FromMappedIpv6 (t : Text) : Option Nat := (afterMapped t).bind readMapped

/-- No text is an address of both families. -/
def isBlockedOutboundAddress (t : Text) : Bool :=
  match readIpv6 t with
  | some n =>
    match ipv4FromMappedIpv6 t with
    | some mapped => check 32 blockedIpv4 mapped
    | none => check 128 blockedIpv6 n
  | none =>
    match readIpv4 t with
    | some n => check 32 blockedIpv4 n
    | none => true

/-- The end-to-end tests may reach the loopback interface. -/
def isE2eLoopbackAllowed (override : Bool) (t : Text) : Bool :=
  override &&
    match readIpv4 t with
    | some n => check 32 loopbackIpv4 n
    | none => (readIpv6 t).isSome &&
      match ipv4FromMappedIpv6 t with
      | some mapped => check 32 loopbackIpv4 mapped
      | none => t = text "::1"

def isDisallowedOutboundAddress (override : Bool) (t : Text) : Bool :=
  isBlockedOutboundAddress t && !isE2eLoopbackAllowed override t

inductive UnsafeOutboundTarget where
  | blocked
  | unresolved

def normalizedHostname (hostname : Text) : Text :=
  if hostname.head? = some (unit '[') && hostname.getLast? = some (unit ']')
  then hostname.tail.dropLast else hostname

/-- The addresses a host may be reached at, with their families; `resolve` answers for a name. -/
def resolveSafeOutboundHostname (override : Bool) (resolve : Text → Option (List (Text × Nat)))
    (hostname : Text) : Except UnsafeOutboundTarget (List (Text × Nat)) :=
  let host := normalizedHostname hostname
  if (readIpv6 host).isSome || (readIpv4 host).isSome then
    if isDisallowedOutboundAddress override host then .error .blocked
    else .ok [(host, if (readIpv4 host).isSome then 4 else 6)]
  else
    match resolve host with
    | none | some [] => .error .unresolved
    | some addresses =>
      if addresses.any fun a => isDisallowedOutboundAddress override a.1 then .error .blocked
      else .ok addresses

section

variable {t : Text} {base n : Nat}

/-- A text between two colons. -/
def Plain (t : Text) : Prop := t ≠ [] ∧ colon ∉ t ∧ unit '%' ∉ t

theorem plain_of_readDigits (h : readDigits base t = some n) :
    Plain t ∧ n = value base t ∧ ∀ c ∈ t, (hexValue c).any (· < base) = true := by
  unfold readDigits at h
  split at h
  · next hdigits =>
      simp only [ne_eq, Bool.and_eq_true, decide_eq_true_eq, all_eq_true] at hdigits
      have hnone : hexValue colon = none ∧ hexValue (unit '%') = none := by decide
      refine ⟨⟨hdigits.1, ?_, ?_⟩, (Option.some.inj h).symm, hdigits.2⟩
      · intro hc
        simpa [hnone.1] using hdigits.2 _ hc
      · intro hc
        simpa [hnone.2] using hdigits.2 _ hc
  · exact nomatch h

theorem value_lt (hdigits : ∀ c ∈ t, (hexValue c).any (· < base) = true) :
    value base t < base ^ t.length := by
  induction t using List.reverseRecOn with
  | nil => exact Nat.one_pos
  | append_singleton t c ih =>
    have hc := hdigits c (by simp)
    have hlt := ih fun d hd => hdigits d (by simp [hd])
    unfold value at hlt ⊢
    rw [foldl_append, length_append, length_singleton, Nat.pow_succ]
    cases hv : hexValue c with
    | none => simp [hv] at hc
    | some v =>
      have hlt' : v < base := by simpa [hv] using hc
      have hmul := Nat.mul_le_mul_right base (Nat.succ_le_of_lt hlt)
      rw [Nat.succ_mul] at hmul
      simp only [foldl_cons, foldl_nil, hv, Option.getD_some]
      omega

theorem readWord_spec (h : readWord t = some n) : Plain t ∧ n < 0x10000 := by
  unfold readWord at h
  split at h
  · next hlength =>
      obtain ⟨hplain, hn, hdigits⟩ := plain_of_readDigits h
      have hlt := value_lt hdigits
      have hle : 16 ^ t.length ≤ 16 ^ 4 := Nat.pow_le_pow_right (by omega) hlength
      exact ⟨hplain, by omega⟩
  · exact nomatch h

theorem readOctet_spec (h : readOctet t = some n) : Plain t ∧ n ≤ 255 := by
  unfold readOctet at h
  split at h
  · exact nomatch h
  · obtain ⟨hdigits, hle⟩ := Option.filter_eq_some_iff.mp h
    exact ⟨(plain_of_readDigits hdigits).1, by simpa using hle⟩

theorem readIpv4_spec (h : readIpv4 t = some n) : Plain t ∧ n < 2 ^ 32 ∧ 4 < t.length := by
  unfold readIpv4 at h
  split at h
  · next p q r s hsplit =>
      obtain ⟨a, ha, h⟩ := Option.bind_eq_some_iff.mp h
      obtain ⟨b, hb, h⟩ := Option.bind_eq_some_iff.mp h
      obtain ⟨c, hc, h⟩ := Option.bind_eq_some_iff.mp h
      obtain ⟨d, hd, h⟩ := Option.bind_eq_some_iff.mp h
      have ht : _ = t := intercalate_splitOn (unit '.')
      rw [hsplit] at ht
      have hp := readOctet_spec ha
      have hq := readOctet_spec hb
      have hr := readOctet_spec hc
      have hs := readOctet_spec hd
      unfold Plain at hp hq hr hs ⊢
      have hn : ipv4 a b c d = n := Option.some.inj h
      unfold ipv4 at hn
      rw [← ht]
      have hdot : colon ≠ unit '.' ∧ unit '%' ≠ unit '.' := by decide
      have hlength : 0 < p.length ∧ 0 < q.length ∧ 0 < r.length ∧ 0 < s.length := by
        simp only [length_pos_iff]
        exact ⟨hp.1.1, hq.1.1, hr.1.1, hs.1.1⟩
      refine ⟨by simp [intercalate, hp, hq, hr, hs, hdot], by omega, ?_⟩
      simp [intercalate]
      omega
  · exact nomatch h

theorem hexValue_isF {c : UInt16} (h : isF c = true) : hexValue c = some 15 := by
  unfold isF at h
  rcases Bool.or_eq_true_iff.mp h with hc | hc <;> rw [of_decide_eq_true hc] <;> decide

theorem percent_intercalate {ps : List Text} (hps : ∀ p ∈ ps, unit '%' ∉ p) :
    unit '%' ∉ [colon].intercalate ps := by
  have hcolon : unit '%' ≠ colon := by decide
  induction ps with
  | nil => simp
  | cons p ps ih =>
    have hp := hps p mem_cons_self
    have ih := ih fun q hq => hps q (mem_cons_of_mem p hq)
    cases ps with
    | nil => simpa using hp
    | cons q qs =>
      rw [intercalate_cons_of_ne_nil (by simp)]
      simp [hp, ih, hcolon]

theorem readIpv6_intercalate {ps : List Text} (hps : ∀ p ∈ ps, colon ∉ p ∧ unit '%' ∉ p)
    (hne : ps ≠ []) : readIpv6 ([colon].intercalate ps) = readPieces ps := by
  unfold readIpv6
  rw [splitOn_eq_singleton (percent_intercalate fun p hp => (hps p hp).2)]
  dsimp only
  rw [splitOn_intercalate colon (fun p hp => (hps p hp).1) hne]

/-- The words of what the pattern leaves. -/
theorem words_of_mapped {mapped : Text} {m : Nat} (hm : readMapped mapped = some m) :
    ∃ qs, mapped = [colon].intercalate qs ∧ (∀ q ∈ qs, Plain q) ∧ qs ≠ [] ∧ m < 2 ^ 32 ∧
      readWords qs = some [m / 0x10000, m % 0x10000] := by
  unfold readMapped at hm
  cases hread : readIpv4 mapped with
  | some n =>
    rw [hread] at hm
    rw [← Option.some.inj hm]
    obtain ⟨hplain, hlt, _⟩ := readIpv4_spec hread
    refine ⟨[mapped], by simp, by simpa using hplain, by simp, hlt, ?_⟩
    simp [readWords, hread]
  | none =>
    rw [hread] at hm
    change (match mapped.splitOn colon with | [h, l] => _ | _ => none) = some m at hm
    split at hm
    · next h l hsplit =>
        obtain ⟨high, hhigh, hm⟩ := Option.bind_eq_some_iff.mp hm
        obtain ⟨low, hlow, hm⟩ := Option.bind_eq_some_iff.mp hm
        have hm : ipv4 (high / 256) (high % 256) (low / 256) (low % 256) = m := Option.some.inj hm
        obtain ⟨hh, hlt⟩ := readWord_spec hhigh
        obtain ⟨hl, hlt'⟩ := readWord_spec hlow
        have hdotted : readIpv4 l = none := by
          by_contra hsome
          obtain ⟨k, hk⟩ := Option.ne_none_iff_exists'.mp hsome
          have hlong := (readIpv4_spec hk).2.2
          unfold readWord at hlow
          rw [if_neg (by omega)] at hlow
          exact nomatch hlow
        unfold ipv4 at hm
        have ht : _ = mapped := intercalate_splitOn colon
        rw [hsplit] at ht
        refine ⟨[h, l], ht.symm, by simp [hh, hl], by simp, by omega, ?_⟩
        have hwords : m / 0x10000 = high ∧ m % 0x10000 = low := by omega
        simp [readWords, hhigh, hlow, hdotted, hwords]
    · exact nomatch hm

/-- What the pattern takes for a mapped address is one, and the one it writes. -/
theorem mapped_of_recognized {n m : Nat} (hn : readIpv6 t = some n)
    (hm : ipv4FromMappedIpv6 t = some m) : n / 2 ^ 32 = 0xffff ∧ n % 2 ^ 32 = m := by
  obtain ⟨mapped, hmapped, hm⟩ := Option.bind_eq_some_iff.mp hm
  obtain ⟨qs, rfl, hqs, hne, hlt, hwords⟩ := words_of_mapped hm
  unfold afterMapped at hmapped
  split at hmapped
  · next a b c d e rest hprefix =>
      split at hmapped
      · next hf =>
          simp only [Bool.and_eq_true, decide_eq_true_eq] at hf
          obtain ⟨⟨⟨⟨ha, hb⟩, hc⟩, hd⟩, rfl⟩ := hf
          rw [Option.some.inj hmapped] at hprefix
          have hword : readWord [a, b, c, d] = some 0xffff := by
            simp [readWord, readDigits, value, hexValue_isF ha, hexValue_isF hb, hexValue_isF hc,
              hexValue_isF hd]
          have hreads : readWords ([a, b, c, d] :: qs) =
              some [0xffff, m / 0x10000, m % 0x10000] := by
            cases qs with
            | nil => exact absurd rfl hne
            | cons q qs => simp [readWords, hword, hwords]
          have hps : ∀ p ∈ [a, b, c, d] :: qs, Plain p := by
            simpa [(readWord_spec hword).1] using hqs
          have hplain : ∀ p ∈ [a, b, c, d] :: qs, colon ∉ p ∧ unit '%' ∉ p := fun p hp => (hps p hp).2
          have hvalue : ofWords [0, 0, 0, 0, 0, 0xffff, m / 0x10000, m % 0x10000] = n →
              n / 2 ^ 32 = 0xffff ∧ n % 2 ^ 32 = m := by
            simp only [ofWords, foldl_cons, foldl_nil]
            omega
          apply hvalue
          have hzero : colon ≠ unit '0' ∧ unit '%' ≠ unit '0' := by decide
          cases hdouble : afterPrefix (text "::") t with
          | some u =>
            rw [hdouble] at hprefix
            have htext : text "::" = [colon, colon] := by decide
            have ht : t = [colon].intercalate ([] :: [] :: [a, b, c, d] :: qs) := by
              rw [afterPrefix_eq hdouble, Option.some.inj hprefix, htext]
              simp [intercalate_cons_of_ne_nil, hne]
            rw [ht, readIpv6_intercalate (by simpa using hplain) (by simp)] at hn
            unfold readPieces readZeros at hn
            simp [hreads, hne] at hn
            exact hn
          | none =>
            rw [hdouble] at hprefix
            have ht := afterPrefix_eq hprefix
            have htext : text "0:0:0:0:0:" = (replicate 5 [unit '0', colon]).flatten := by decide
            have hzeros : t = [colon].intercalate (replicate 5 [unit '0'] ++ [a, b, c, d] :: qs) := by
              rw [ht, htext]
              simp [intercalate_cons_of_ne_nil, hne, replicate_succ]
            have hall : qs.dropWhile (fun q => !decide (q = [])) = [] := by
              rw [dropWhile_eq_nil_iff]
              exact fun q hq => by simpa using (hqs q hq).1
            have hread : readWord [unit '0'] = some 0 := by decide
            rw [hzeros, readIpv6_intercalate (by simpa [hzero] using hplain) (by simp)] at hn
            unfold readPieces at hn
            simp [replicate_succ, readWords, hread, hreads, hall] at hn
            exact hn
      · exact nomatch hmapped
  · exact nomatch hmapped

theorem check_mapped {n : Nat} (hn : n / 2 ^ 32 = 0xffff) : check 128 blockedIpv6 n = false := by
  simp only [check, blockedIpv6, ofWords, any_cons, any_nil, foldl_cons, foldl_nil]
  simp
  omega

/-- The answer to an IPv6 address. -/
theorem isBlocked_eq {n : Nat} (hn : readIpv6 t = some n) : isBlockedOutboundAddress t =
    if n / 2 ^ 32 = 0xffff then
      (ipv4FromMappedIpv6 t).isSome && check 32 blockedIpv4 (n % 2 ^ 32)
    else check 128 blockedIpv6 n := by
  unfold isBlockedOutboundAddress
  rw [hn]
  cases hm : ipv4FromMappedIpv6 t with
  | some m =>
    obtain ⟨hmapped, hlow⟩ := mapped_of_recognized hn hm
    rw [if_pos hmapped, hlow]
    rfl
  | none =>
    change check 128 blockedIpv6 n = _
    split
    · next hmapped => exact check_mapped hmapped
    · rfl

/-- An address that some host is reached at outside the end-to-end tests. -/
def Reached (t : Text) : Prop :=
  ∃ resolve hostname answers, resolveSafeOutboundHostname false resolve hostname = .ok answers ∧
    t ∈ answers.map Prod.fst

theorem isDisallowed_off (t : Text) :
    isDisallowedOutboundAddress false t = isBlockedOutboundAddress t :=
  Bool.and_true _

theorem reached_iff : Reached t ↔ isBlockedOutboundAddress t = false := by
  constructor
  · rintro ⟨resolve, hostname, answers, hok, ht⟩
    unfold resolveSafeOutboundHostname at hok
    simp only [isDisallowed_off] at hok
    split at hok
    · split at hok
      · exact nomatch hok
      · next hfree =>
          rw [← Except.ok.inj hok, map_singleton, mem_singleton] at ht
          rw [ht]
          exact Bool.eq_false_iff.mpr hfree
    · split at hok
      · exact nomatch hok
      · exact nomatch hok
      · split at hok
        · exact nomatch hok
        · next hany =>
            rw [← Except.ok.inj hok] at ht
            obtain ⟨a, ha, rfl⟩ := mem_map.mp ht
            by_contra hblocked
            exact hany (any_eq_true.mpr ⟨a, ha, Bool.eq_true_of_not_eq_false hblocked⟩)
  · intro hfree
    refine ⟨fun _ => some [(t, 6)], text "a", [(t, 6)], ?_, by simp⟩
    change (if [(t, 6)].any _ then _ else _) = _
    simp [isDisallowed_off, hfree]

/-- The answer to a mapped address is that to the IPv4 address, which is not reached if blocked. -/
def Faithful (t : Text) (n : Nat) : Prop :=
  n / 2 ^ 32 = 0xffff → isBlockedOutboundAddress t = check 32 blockedIpv4 (n % 2 ^ 32) ∧
    (check 32 blockedIpv4 (n % 2 ^ 32) = true → ¬ Reached t)

/-- Two spellings of an address are treated alike, and as what they map, exactly when both are
recognized or nothing would be blocked. -/
theorem spelled_iff {s t : Text} {n : Nat} (hs : readIpv6 s = some n) (ht : readIpv6 t = some n) :
    (isBlockedOutboundAddress s = isBlockedOutboundAddress t ∧ Faithful s n ∧ Faithful t n) ↔
      (n / 2 ^ 32 = 0xffff → check 32 blockedIpv4 (n % 2 ^ 32) = true →
        (ipv4FromMappedIpv6 s).isSome ∧ (ipv4FromMappedIpv6 t).isSome) := by
  unfold Faithful
  rw [reached_iff, reached_iff, isBlocked_eq hs, isBlocked_eq ht]
  by_cases hmapped : n / 2 ^ 32 = 0xffff
  · simp only [hmapped, if_true, forall_const]
    cases check 32 blockedIpv4 (n % 2 ^ 32) <;> cases (ipv4FromMappedIpv6 s).isSome <;>
      cases (ipv4FromMappedIpv6 t).isSome <;> decide
  · simp only [hmapped, if_false, false_implies, and_self]

theorem loopback_spelled : isBlockedOutboundAddress (text "::1") =
    isBlockedOutboundAddress (text "0:0:0:0:0:0:0:1") :=
  ((spelled_iff (n := 1) (by decide) (by decide)).mpr (by decide)).1

/-- One more leading zero lets the loopback address through. -/
theorem longLoopback_passes :
    readIpv6 (text "0000:0:0:0:0:ffff:7f00:1") = readIpv6 (text "::ffff:127.0.0.1") ∧
      isBlockedOutboundAddress (text "0000:0:0:0:0:ffff:7f00:1") = false ∧
      isBlockedOutboundAddress (text "::ffff:127.0.0.1") = true := by
  decide

end

end Sencho.Security
