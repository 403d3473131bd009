import Sencho.GitOps.HistoryCursor
import Sencho.Verified.Keyset
import Mathlib.Data.List.Lex
import Mathlib.Data.Prod.Lex

/-!
# Pages of the history

A page reads a window of the rows that match the filters, newest first and past the cursor.  It
keeps the rows that the caller may read until it is full, and its cursor names the last row it
looked at.  The row authorization is a parameter of the page.
-/

namespace Sencho.GitOps.History

open Verified List Option Utf8 CodeUnits Keyset

inductive HistoryOutcome where
  | committed
  | failed
  | skipped
  | superseded
  | recovered
  | unknown
  deriving DecidableEq

/-- A row of the history, with the columns a page reads. -/
structure GitOpsHistoryRow where
  id : Text
  createdAt : Int
  applicationId : Text
  stackName : Option Text
  repoUrl : Option Text
  configuredRef : Option Text
  commitSha : Option Text
  generationId : Option Text
  artifactSetId : Option Text
  blueprintId : Option Int
  nodeId : Option Int
  rolloutCandidateId : Option Text
  rolloutGenerationId : Option Text
  outcome : HistoryOutcome
  trigger : Text
  actor : Option Text

def GitOpsHistoryRow.cursor (r : GitOpsHistoryRow) : GitOpsHistoryCursor := ⟨r.createdAt, r.id⟩

structure GitOpsHistoryFilters where
  applicationId : Option Text
  stackName : Option Text
  repoIdentity : Option Text
  configuredRef : Option Text
  commitSha : Option Text
  generationId : Option Text
  artifactSetId : Option Text
  blueprintId : Option Int
  rolloutCandidateId : Option Text
  rolloutGenerationId : Option Text
  nodeId : Option Int
  trigger : Option Text
  actor : Option Text
  outcome : Option HistoryOutcome

/-- A clause `column = ?`, which no null column meets. -/
def eqClause {α : Type} [DecidableEq α] (column : Option α) : Option α → Bool
  | none => true
  | some value => column = some value

/-- The clauses of a filter set.  A node's page keeps the rows that carry no node. -/
def GitOpsHistoryFilters.clauses (f : GitOpsHistoryFilters) (r : GitOpsHistoryRow) : Bool :=
  eqClause (some r.applicationId) f.applicationId && eqClause r.stackName f.stackName &&
    eqClause r.repoUrl f.repoIdentity && eqClause r.configuredRef f.configuredRef &&
    eqClause r.commitSha f.commitSha && eqClause r.generationId f.generationId &&
    eqClause r.artifactSetId f.artifactSetId && eqClause r.blueprintId f.blueprintId &&
    eqClause r.rolloutCandidateId f.rolloutCandidateId &&
    eqClause r.rolloutGenerationId f.rolloutGenerationId &&
    (eqClause r.nodeId f.nodeId || r.nodeId.isNone) && eqClause (some r.trigger) f.trigger &&
    eqClause r.actor f.actor && eqClause (some r.outcome) f.outcome

def historyScanCap : Nat := 1000

/-- The bytes by which the store compares an id. -/
def idBytes (id : Text) : List Nat := (encode id).map UInt8.toNat

/-- `created_at < ? OR (created_at = ? AND id < ?)`. -/
def pastCursor (cursor : GitOpsHistoryCursor) (r : GitOpsHistoryRow) : Bool :=
  r.createdAt < cursor.createdAt ||
    (r.createdAt = cursor.createdAt && idBytes r.id < idBytes cursor.id)

def cursorClause : Option GitOpsHistoryCursor → GitOpsHistoryRow → Bool
  | none, _ => true
  | some cursor, r => pastCursor cursor r

/-- What the rows are ordered by. -/
def historyKey (c : GitOpsHistoryCursor) : Int ×ₗ List Nat := toLex (c.createdAt, idBytes c.id)

def queryHistoryRows (rows : List GitOpsHistoryRow) (filters : GitOpsHistoryFilters)
    (cursor : Option GitOpsHistoryCursor) (scanLimit : Nat) : List GitOpsHistoryRow :=
  (sorted (fun r => historyKey r.cursor)
    (rows.filter fun r => filters.clauses r && cursorClause cursor r)).take scanLimit

structure Examined where
  items : List GitOpsHistoryRow
  lastExamined : Option GitOpsHistoryRow
  exhausted : Bool

/-- The loop over a window.  It stops at the first row after the page is full. -/
def examine (authorized : GitOpsHistoryRow → Bool) (limit : Nat) :
    List GitOpsHistoryRow → List GitOpsHistoryRow → Option GitOpsHistoryRow → Examined
  | [], items, last => ⟨items, last, true⟩
  | r :: rows, items, last =>
    if items.length = limit then ⟨items, last, false⟩
    else if authorized r then examine authorized limit rows (items ++ [r]) (some r)
    else examine authorized limit rows items (some r)

/-- One page, with the cursor of the next. -/
def buildHistoryPage (rows : List GitOpsHistoryRow) (filters : GitOpsHistoryFilters) (limit : Nat)
    (authorized : GitOpsHistoryRow → Bool) (cursor : Option GitOpsHistoryCursor) :
    List GitOpsHistoryRow × Option Text :=
  let window := queryHistoryRows rows filters cursor historyScanCap
  let examined := examine authorized limit window [] none
  let moreMayFollow := !examined.exhausted || window.length = historyScanCap
  (examined.items,
    if moreMayFollow then examined.lastExamined.map fun r => encodeHistoryCursor r.cursor else none)

variable (host : NumberReader)

/-- Answer a request.  A cursor that cannot be read is refused. -/
def respondWithHistory (rows : List GitOpsHistoryRow) (filters : GitOpsHistoryFilters)
    (limit : Nat) (authorized : GitOpsHistoryRow → Bool) :
    Option Text → Option (List GitOpsHistoryRow × Option Text)
  | none => some (buildHistoryPage rows filters limit authorized none)
  | some raw =>
    (decodeHistoryCursor host raw).map fun cursor =>
      buildHistoryPage rows filters limit authorized (some cursor)

/-- The requests of a caller who starts without a cursor and follows `nextCursor`. -/
def followPages (rows : List GitOpsHistoryRow) (filters : GitOpsHistoryFilters) (limit : Nat)
    (authorized : GitOpsHistoryRow → Bool) (requests : Nat) : Option (List GitOpsHistoryRow) :=
  walk (fun cursor => (respondWithHistory host rows filters limit authorized cursor).map
    fun page => (page.1, page.2.map some)) requests none

/-- The rows that the history holds: every id is a new UUID, and every timestamp a safe integer. -/
structure HistoryTable where
  rows : List GitOpsHistoryRow
  ids : (rows.map GitOpsHistoryRow.id).Nodup
  minted : ∀ r ∈ rows, r.cursor.Minted

theorem pastCursor_iff (cursor : GitOpsHistoryCursor) (r : GitOpsHistoryRow) :
    pastCursor cursor r = true ↔ historyKey r.cursor < historyKey cursor := by
  unfold pastCursor historyKey
  rw [Prod.Lex.toLex_lt_toLex]
  simp [GitOpsHistoryRow.cursor]

theorem afterHex_ascii {n : Nat} {t rest : Text} (h : afterHex n t = some rest)
    (hrest : ∀ c ∈ rest, isSurrogate c = false) : ∀ c ∈ t, isSurrogate c = false := by
  unfold afterHex at h
  by_cases hn : (t.take n).length = n ∧ (t.take n).all isLowerHex = true
  · rw [if_pos hn] at h
    have hdrop := some.inj h
    intro c hc
    rw [← take_append_drop n t, mem_append] at hc
    rcases hc with hc | hc
    · have hhex := all_eq_true.mp hn.2 c hc
      unfold isLowerHex at hhex
      unfold isSurrogate
      simp only [Bool.or_eq_true, Bool.and_eq_true, decide_eq_true_eq, UInt16.le_iff_toNat_le]
        at hhex
      have h9 : (unit '9').toNat = 57 := by decide
      have hf : (unit 'f').toNat = 102 := by decide
      simp only [Bool.and_eq_false_iff, decide_eq_false_iff_not]
      omega
    · rw [hdrop] at hc
      exact hrest c hc
  · rw [if_neg hn] at h
    cases h

theorem afterGroup_ascii {n : Nat} {t rest : Text} (h : afterGroup n t = some rest)
    (hrest : ∀ c ∈ rest, isSurrogate c = false) : ∀ c ∈ t, isSurrogate c = false := by
  cases t with
  | nil => cases h
  | cons c t =>
    rw [afterGroup] at h
    by_cases hc : c = unit '-'
    · rw [if_pos hc] at h
      intro d hd
      rcases mem_cons.mp hd with rfl | hd
      · rw [hc]
        decide
      · exact afterHex_ascii h hrest d hd
    · rw [if_neg hc] at h
      cases h

/-- An id has no surrogates, so that its bytes tell it from any other. -/
theorem uuid_wellFormed {id : Text} (h : isGitOpsUuid id = true) : Utf8.WellFormed id := by
  apply Utf8.WellFormed.of_all
  have h := of_decide_eq_true h
  rcases bind_eq_some_iff.mp h with ⟨t₄, h, hlast⟩
  rcases bind_eq_some_iff.mp h with ⟨t₃, h, h₄⟩
  rcases bind_eq_some_iff.mp h with ⟨t₂, h, h₃⟩
  rcases bind_eq_some_iff.mp h with ⟨t₁, h₁, h₂⟩
  have hnil : ∀ c ∈ ([] : Text), isSurrogate c = false := fun _ hc => nomatch hc
  have hfour := afterGroup_ascii hlast hnil
  have hthree := afterGroup_ascii h₄ hfour
  have htwo := afterGroup_ascii h₃ hthree
  have hone := afterGroup_ascii h₂ htwo
  exact afterHex_ascii h₁ hone

theorem idBytes_inj {a b : Text} (ha : isGitOpsUuid a = true) (hb : isGitOpsUuid b = true)
    (h : idBytes a = idBytes b) : a = b := by
  have hbytes : Utf8.encode a = Utf8.encode b :=
    map_injective_iff.mpr (fun _ _ hxy => UInt8.toNat_inj.mp hxy) h
  rw [← Utf8.decode_encode (uuid_wellFormed ha), ← Utf8.decode_encode (uuid_wellFormed hb), hbytes]

theorem HistoryTable.distinct (t : HistoryTable) :
    Distinct (fun r => historyKey r.cursor) t.rows := by
  apply List.Nodup.map_on
  · intro a ha b hb hkey
    have hids : a.id = b.id := by
      apply idBytes_inj (t.minted a ha).id (t.minted b hb).id
      exact congrArg (fun k => (ofLex k).2) hkey
    exact inj_on_of_nodup_map t.ids ha hb hids
  · exact t.ids.of_map

/-- The loop looks at the first rows of a window, keeps those that are authorized, and names the
last.  It looks at one row at least if there is one and the page has room. -/
theorem examine_split (authorized : GitOpsHistoryRow → Bool) (limit : Nat)
    (rows items : List GitOpsHistoryRow) (last : Option GitOpsHistoryRow) :
    ∃ seen rest, rows = seen ++ rest ∧
      (examine authorized limit rows items last).items = items ++ seen.filter authorized ∧
      ((examine authorized limit rows items last).exhausted = true ↔ rest = []) ∧
      (examine authorized limit rows items last).lastExamined = seen.getLast?.or last ∧
      (items.length ≠ limit → rows ≠ [] → seen ≠ []) := by
  induction rows generalizing items last with
  | nil => exact ⟨[], [], rfl, (append_nil items).symm, by simp [examine], rfl, by simp⟩
  | cons r rows ih =>
    by_cases hfull : items.length = limit
    · refine ⟨[], r :: rows, rfl, ?_, ?_, ?_, fun h => absurd hfull h⟩
      · simp [examine, hfull]
      · simp [examine, hfull]
      · simp [examine, hfull]
    · have hlast : ∀ seen : List GitOpsHistoryRow,
          (r :: seen).getLast?.or last = seen.getLast?.or (some r) := by
        intro seen
        cases seen with
        | nil => rfl
        | cons s seen => simp [getLast?_cons]
      by_cases hauth : authorized r = true
      · rcases ih (items ++ [r]) (some r) with ⟨seen, rest, hrows, hitems, hend, hnamed, _⟩
        refine ⟨r :: seen, rest, by rw [hrows]; rfl, ?_, ?_, ?_, fun _ _ => cons_ne_nil _ _⟩
        · rw [examine, if_neg hfull, if_pos hauth, hitems, filter_cons_of_pos hauth, append_assoc]
          rfl
        · rw [examine, if_neg hfull, if_pos hauth]
          exact hend
        · rw [examine, if_neg hfull, if_pos hauth, hnamed, hlast]
      · rcases ih items (some r) with ⟨seen, rest, hrows, hitems, hend, hnamed, _⟩
        refine ⟨r :: seen, rest, by rw [hrows]; rfl, ?_, ?_, ?_, fun _ _ => cons_ne_nil _ _⟩
        · rw [examine, if_neg hfull, if_neg hauth, hitems, filter_cons_of_neg hauth]
        · rw [examine, if_neg hfull, if_neg hauth]
          exact hend
        · rw [examine, if_neg hfull, if_neg hauth, hnamed, hlast]

section Pages

variable (t : HistoryTable) (filters : GitOpsHistoryFilters)

/-- The rows that match a filter set, newest first. -/
def HistoryTable.matching : List GitOpsHistoryRow :=
  sorted (fun r => historyKey r.cursor) (t.rows.filter filters.clauses)

/-- What is left of them past a cursor. -/
def HistoryTable.left (cursor : Option Text) : List GitOpsHistoryRow :=
  (t.matching filters).filter (cursorClause (cursor.bind (decodeHistoryCursor host)))

/-- A cursor that a page has handed out. -/
def HistoryTable.Issued (cursor : Option Text) : Prop :=
  cursor = none ∨ ∃ r ∈ t.matching filters, cursor = some (encodeHistoryCursor r.cursor)

variable {t filters}

theorem HistoryTable.mem_matching {r : GitOpsHistoryRow} (h : r ∈ t.matching filters) :
    r ∈ t.rows :=
  (mem_filter.mp ((sorted_perm _).mem_iff.mp h)).1

theorem HistoryTable.query_eq (cursor : Option GitOpsHistoryCursor) (scanLimit : Nat) :
    queryHistoryRows t.rows filters cursor scanLimit =
      ((t.matching filters).filter (cursorClause cursor)).take scanLimit := by
  have hfilter : t.rows.filter (fun r => filters.clauses r && cursorClause cursor r) =
      (t.rows.filter filters.clauses).filter (cursorClause cursor) := by
    rw [List.filter_filter]
    apply filter_congr
    intro r _
    exact Bool.and_comm _ _
  unfold queryHistoryRows HistoryTable.matching
  rw [hfilter, sorted_filter (t.distinct.filter filters.clauses)]

/-- The rows past a row that a cursor names are those after it. -/
theorem HistoryTable.left_issued {before after : List GitOpsHistoryRow} {r : GitOpsHistoryRow}
    (h : t.matching filters = before ++ r :: after) :
    t.left host filters (some (encodeHistoryCursor r.cursor)) = after := by
  have hmem : r ∈ t.matching filters := by
    rw [h]
    exact mem_append_right before mem_cons_self
  have hread : decodeHistoryCursor host (encodeHistoryCursor r.cursor) = some r.cursor :=
    (decode_encode_iff host r.cursor).mpr (t.minted r (HistoryTable.mem_matching hmem))
  have hsorted := (t.distinct.filter filters.clauses).sorted_lt
  have hpast : (t.matching filters).filter (cursorClause (some r.cursor)) =
      (t.matching filters).filter fun x => historyKey x.cursor < historyKey r.cursor := by
    apply filter_congr
    intro x _
    rw [Bool.eq_iff_iff]
    show pastCursor r.cursor x = true ↔ _
    rw [pastCursor_iff, decide_eq_true_eq]
  unfold HistoryTable.left
  rw [bind_some, hread, hpast, h]
  exact filter_past (h ▸ hsorted)

section

variable {cursor : Option Text} (h : t.Issued filters cursor)
include h

/-- What is left past a cursor that was handed out is the end of the matching rows. -/
theorem HistoryTable.Issued.suffix :
    ∃ before, t.matching filters = before ++ t.left host filters cursor := by
  rcases h with rfl | ⟨r, hr, rfl⟩
  · refine ⟨[], ?_⟩
    unfold HistoryTable.left
    exact (filter_eq_self.mpr fun _ _ => rfl).symm
  · rcases append_of_mem hr with ⟨before, after, heq⟩
    refine ⟨before ++ [r], ?_⟩
    rw [HistoryTable.left_issued host heq, heq, append_assoc]
    rfl

/-- A cursor that was handed out is read. -/
theorem HistoryTable.Issued.respond (limit : Nat) (authorized : GitOpsHistoryRow → Bool) :
    respondWithHistory host t.rows filters limit authorized cursor =
      some (buildHistoryPage t.rows filters limit authorized
        (cursor.bind (decodeHistoryCursor host))) := by
  rcases h with rfl | ⟨r, hr, rfl⟩
  · rfl
  · have hread := (decode_encode_iff host r.cursor).mpr (t.minted r (HistoryTable.mem_matching hr))
    rw [bind_some, hread]
    show (decodeHistoryCursor host (encodeHistoryCursor r.cursor)).map _ = _
    rw [hread]
    rfl

/-- A page keeps the authorized rows it has looked at, and its cursor leaves the rest. -/
theorem page_advances {limit : Nat} (hlimit : 1 ≤ limit) (authorized : GitOpsHistoryRow → Bool) :
    Advances authorized (t.left host filters) (t.Issued filters) cursor
      (buildHistoryPage t.rows filters limit authorized (cursor.bind (decodeHistoryCursor host))).1
      ((buildHistoryPage t.rows filters limit authorized
        (cursor.bind (decodeHistoryCursor host))).2.map some) := by
  have hwindow : queryHistoryRows t.rows filters (cursor.bind (decodeHistoryCursor host))
      historyScanCap = (t.left host filters cursor).take historyScanCap :=
    HistoryTable.query_eq _ _
  unfold buildHistoryPage
  rw [hwindow]
  generalize hleft : t.left host filters cursor = left
  rcases h.suffix host with ⟨before, hwhole⟩
  rw [hleft] at hwhole
  rcases examine_split authorized limit (left.take historyScanCap) [] none with
    ⟨seen, rest, hsplit, hitems, hend, hnamed, hroom⟩
  have hcover : left = seen ++ (rest ++ left.drop historyScanCap) := by
    rw [← append_assoc, ← hsplit, take_append_drop]
  have hsome : left ≠ [] → seen ≠ [] := by
    intro hne
    apply hroom (by simp only [length_nil]; omega)
    cases left with
    | nil => exact absurd rfl hne
    | cons r left => exact cons_ne_nil _ _
  constructor
  refine ⟨seen, rest ++ left.drop historyScanCap, by rw [hleft]; exact hcover, hitems, ?_, ?_⟩
  · intro hnone
    by_cases hempty : left = []
    · rw [hempty] at hcover ⊢
      exact (append_eq_nil_iff.mp hcover.symm).2
    · have hlast : ∃ r, seen.getLast? = some r := by
        cases hl : seen.getLast? with
        | none => exact absurd (getLast?_eq_none_iff.mp hl) (hsome hempty)
        | some r => exact ⟨r, rfl⟩
      rcases hlast with ⟨r, hr⟩
      dsimp only at hnone
      rw [hnamed, hr, or_none] at hnone
      by_cases hmore : (!(examine authorized limit (left.take historyScanCap) [] none).exhausted ||
          decide ((left.take historyScanCap).length = historyScanCap)) = true
      · rw [if_pos hmore] at hnone
        cases hnone
      · have hboth : (examine authorized limit (left.take historyScanCap) [] none).exhausted =
            true ∧ (left.take historyScanCap).length ≠ historyScanCap := by
          simpa using hmore
        have hshort : left.length ≤ historyScanCap := by
          have hlen := hboth.2
          rw [length_take] at hlen
          omega
        rw [hend.mp hboth.1, drop_of_length_le hshort]
        rfl
  · intro c hc
    rcases map_eq_some_iff.mp hc with ⟨raw, hraw, rfl⟩
    dsimp only at hraw
    rw [hnamed, or_none] at hraw
    have hmapped : seen.getLast?.map (fun r => encodeHistoryCursor r.cursor) = some raw := by
      by_cases hmore : (!(examine authorized limit (left.take historyScanCap) [] none).exhausted ||
          decide ((left.take historyScanCap).length = historyScanCap)) = true
      · rw [if_pos hmore] at hraw
        exact hraw
      · rw [if_neg hmore] at hraw
        cases hraw
    rcases map_eq_some_iff.mp hmapped with ⟨r, hr, rfl⟩
    rcases getLast?_eq_some_iff.mp hr with ⟨init, hinit⟩
    have hfound : t.matching filters =
        (before ++ init) ++ r :: (rest ++ left.drop historyScanCap) := by
      rw [hwhole]
      conv_lhs => rw [hcover, hinit]
      simp
    refine ⟨.inr ⟨r, ?_, rfl⟩, HistoryTable.left_issued host hfound, ?_⟩
    · rw [hfound]
      exact mem_append_right _ mem_cons_self
    · rw [hinit]
      exact append_ne_nil_of_right_ne_nil init (cons_ne_nil r [])

end

end Pages

/-- A caller who follows the cursors comes to an end, after no more requests than there are rows
and one, and has been given the rows that match and are authorized, each once and newest first.
The codec is inverse on the cursors that name a row and on no others. -/
theorem pages_complete (t : HistoryTable) (filters : GitOpsHistoryFilters) (limit : Nat)
    (authorized : GitOpsHistoryRow → Bool) (h : 1 ≤ limit) :
    followPages host t.rows filters limit authorized (t.rows.length + 1) =
        some (sorted (fun r => historyKey r.cursor)
          (t.rows.filter fun r => filters.clauses r && authorized r)) ∧
      ∀ c, decodeHistoryCursor host (encodeHistoryCursor c) = some c ↔ c.Minted := by
  constructor
  · have hfirst : t.left host filters none = t.matching filters :=
      filter_eq_self.mpr fun _ _ => rfl
    have hlength : (t.left host filters none).length < t.rows.length + 1 := by
      have hperm : (t.matching filters).Perm (t.rows.filter filters.clauses) := sorted_perm _
      have hsame := hperm.length_eq
      have hfilter := length_filter_le filters.clauses t.rows
      rw [hfirst]
      omega
    have hwalk : followPages host t.rows filters limit authorized (t.rows.length + 1) =
        some ((t.left host filters none).filter authorized) := by
      have hpage : ∀ cursor, t.Issued filters cursor → ∃ items next,
          (respondWithHistory host t.rows filters limit authorized cursor).map
              (fun page => (page.1, page.2.map some)) = some (items, next) ∧
            Advances authorized (t.left host filters) (t.Issued filters) cursor items next := by
        intro cursor hissued
        refine ⟨_, _, ?_, page_advances host hissued h authorized⟩
        rw [hissued.respond host limit authorized]
        rfl
      exact walk_eq hpage (.inl rfl) hlength
    have hboth : t.rows.filter (fun r => filters.clauses r && authorized r) =
        (t.rows.filter filters.clauses).filter authorized := by
      rw [List.filter_filter]
      apply filter_congr
      intro r _
      exact Bool.and_comm _ _
    rw [hwalk, hfirst, hboth, sorted_filter (t.distinct.filter filters.clauses)]
    rfl
  · exact decode_encode_iff host

/-- Two rows of one millisecond. -/
def sameMillisecond : HistoryTable where
  rows :=
    [⟨text "00000000-0000-4000-8000-000000000001", 5, [], none, none, none, none, none, none, none,
        none, none, none, .committed, [], none⟩,
      ⟨text "00000000-0000-4000-8000-000000000002", 5, [], none, none, none, none, none, none, none,
        none, none, none, .failed, [], none⟩]
  ids := by decide
  minted := by
    intro r hr
    rcases mem_cons.mp hr with rfl | hr
    · exact ⟨by decide, by decide, by decide⟩
    · rw [mem_singleton.mp hr]
      exact ⟨by decide, by decide, by decide⟩

def noFilters : GitOpsHistoryFilters :=
  ⟨none, none, none, none, none, none, none, none, none, none, none, none, none, none⟩

/-- The two rows on pages of one. -/
theorem sameMillisecond_complete :
    followPages .digits sameMillisecond.rows noFilters 1 (fun _ => true) 3 =
        some (sorted (fun r => historyKey r.cursor)
          (sameMillisecond.rows.filter fun r => noFilters.clauses r && true)) ∧
      ∀ c, decodeHistoryCursor .digits (encodeHistoryCursor c) = some c ↔ c.Minted :=
  pages_complete .digits sameMillisecond noFilters 1 (fun _ => true) (by decide)

/-- A cursor whose id is not a history id is not read back. -/
theorem decode_refuses_other_ids : ¬ ∀ (host : NumberReader) (c : GitOpsHistoryCursor),
      decodeHistoryCursor host (encodeHistoryCursor c) = some c := by
  intro h
  have hminted := (decode_encode_iff .digits ⟨0, [unit 'a']⟩).mp (h .digits ⟨0, [unit 'a']⟩)
  have hid := hminted.id
  exact absurd hid (by decide)

end Sencho.GitOps.History
