import Sencho.Verified.OrderedMap
import Sencho.Verified.Wildcards

/-!
# Suppressions of findings

A row of triage decides the findings of its CVE, where it names a package only that one's, and
where it has an image pattern only on the images the pattern matches.  Of the active rows that
match, the most specific decides.  The decision for many findings puts the rows in buckets by
CVE first.

An image pattern is written as a regular expression, a star as `.*`, and the dot stops at a line
terminator.
-/

namespace Sencho.Security

open Verified CodeUnits Wildcards List

inductive TriageStatus where
  | needs_review | affected | not_affected | accepted | fixed | false_positive | ignored
  deriving DecidableEq

def TriageStatus.name : TriageStatus → Text
  | .needs_review => text "needs_review"
  | .affected => text "affected"
  | .not_affected => text "not_affected"
  | .accepted => text "accepted"
  | .fixed => text "fixed"
  | .false_positive => text "false_positive"
  | .ignored => text "ignored"

def triageStatuses : List TriageStatus :=
  [.needs_review, .affected, .not_affected, .accepted, .fixed, .false_positive, .ignored]

/-- The statuses that dismiss a finding. -/
def dismissingStatuses : List TriageStatus :=
  [.not_affected, .accepted, .fixed, .false_positive, .ignored]

structure CveSuppression where
  id : Int
  cve_id : Text
  pkg_name : Option Text
  image_pattern : Option Text
  reason : Text
  expires_at : Option Int
  status : Option Text
  justification : Option Text
  deriving DecidableEq

structure SuppressibleFinding where
  vulnerability_id : Text
  pkg_name : Text

structure SuppressionDecision where
  suppressed : Bool
  suppression_id : Option Int
  suppression_reason : Option Text
  triage_status : Option TriageStatus
  triage_justification : Option (Option Text)

def isActive (suppression : CveSuppression) (now : Int) : Bool :=
  suppression.expires_at.all fun e => now < e

/-- The status a row takes effect with; a missing or unknown one is `accepted`. -/
def effectiveStatus (suppression : CveSuppression) : TriageStatus :=
  (suppression.status.bind fun s => triageStatuses.find? fun t => t.name = s).getD .accepted

/-- A pattern as the source of a regular expression. -/
def escaped (pattern : Text) : Text :=
  (pattern.flatMap fun c =>
    if c ∈ text ".+?^$\x7b\x7d()|[]\\" then [unit '\\', c] else [c]).flatMap fun c =>
      if c = unit '*' then text ".*" else [c]

/-- What the dot matches. -/
def isDot (c : UInt16) : Bool := !(c = 0x0a || c = 0x0d || c = 0x2028 || c = 0x2029)

/-- The pieces of such a source: an escaped unit, `.*`, or a unit that is itself. -/
def sourcePieces : Text → List Piece
  | [] => []
  | [c] => [.one (· = c)]
  | c :: d :: rest =>
    if c = unit '\\' then .one (· = d) :: sourcePieces rest
    else if c = unit '.' && d = unit '*' then .run isDot :: sourcePieces rest
    else .one (· = c) :: sourcePieces (d :: rest)

/-- No pattern, or an empty one, matches every image. -/
def matchesImagePattern (pattern : Option Text) (imageRef : Text) : Bool :=
  pattern.all fun p => p = [] || test (sourcePieces (escaped p)) imageRef

def mayDismissOnImage (suppression : CveSuppression) (imageRef : Text) (now : Int) : Bool :=
  isActive suppression now && effectiveStatus suppression ∈ dismissingStatuses &&
    matchesImagePattern suppression.image_pattern imageRef

/-- Whether a field names something. -/
def truthy (field : Option Text) : Bool := field.any (· ≠ [])

def specificityScore (s : CveSuppression) : Int :=
  (if truthy s.pkg_name then 2 else 0) + (if truthy s.image_pattern then 1 else 0)

/-- Whether a row of the CVE passes the checks of the walk. -/
def passes (finding : SuppressibleFinding) (imageRef : Text) (now : Int) (s : CveSuppression) :
    Bool :=
  isActive s now && s.pkg_name.all (· = finding.pkg_name) &&
    matchesImagePattern s.image_pattern imageRef

/-- The highest score first met. -/
def pickFromBucket (bucket : List CveSuppression) (finding : SuppressibleFinding)
    (imageRef : Text) (now : Int) : Option CveSuppression :=
  (bucket.foldl (fun (best : Option CveSuppression × Int) s =>
    if passes finding imageRef now s && best.2 < specificityScore s
    then (some s, specificityScore s) else best) (none, -1)).1

def findSuppression (finding : SuppressibleFinding) (imageRef : Text)
    (suppressions : List CveSuppression) (now : Int) : Option CveSuppression :=
  let bucket := suppressions.filter (·.cve_id = finding.vulnerability_id)
  if bucket = [] then none else pickFromBucket bucket finding imageRef now

/-- What is spread over a finding. -/
def decision : Option CveSuppression → SuppressionDecision
  | none => ⟨false, none, none, none, none⟩
  | some s => ⟨effectiveStatus s ∈ dismissingStatuses, some s.id, some s.reason,
      some (effectiveStatus s), some s.justification⟩

def applySuppressions {α : Type} (finding : α → SuppressibleFinding) (findings : List α)
    (imageRef : Text) (suppressions : List CveSuppression) (now : Int) :
    List (α × SuppressionDecision) :=
  if findings.length = 0 then []
  else
    let buckets := OrderedMap.group (·.cve_id) suppressions
    findings.map fun f => (f, decision ((buckets.get? (finding f).vulnerability_id).bind fun bucket =>
      pickFromBucket bucket (finding f) imageRef now))

/-- The pieces of a glob: a star runs over a class, another unit is itself. -/
def globPieces (star : UInt16 → Bool) (pattern : Text) : List Piece :=
  pattern.map fun c => if c = unit '*' then .run star else .one (· = c)

/-- A row matches a finding on an image. -/
structure Applies (star : UInt16 → Bool) (finding : SuppressibleFinding) (imageRef : Text)
    (now : Int) (s : CveSuppression) : Prop where
  active : ∀ e, s.expires_at = some e → now < e
  cve : s.cve_id = finding.vulnerability_id
  package : ∀ p, s.pkg_name = some p → p = finding.pkg_name
  image : ∀ p, s.image_pattern = some p → p ≠ [] → Matches (globPieces star p) imageRef

/-- What a star of a glob runs over. -/
def anyUnit (_ : UInt16) : Bool := true

/-- The rule on a list of findings: each has the decision of the one-shot lookup; the row that
lookup chooses matches and none that matches is more specific, and where it chooses none none
matches; and a row that dismisses could dismiss. -/
structure Decided {α : Type} (finding : α → SuppressibleFinding) (findings : List α)
    (imageRef : Text) (suppressions : List CveSuppression) (now : Int) : Prop where
  decisions : applySuppressions finding findings imageRef suppressions now =
    findings.map fun f => (f, decision (findSuppression (finding f) imageRef suppressions now))
  chosen : ∀ f ∈ findings, ∀ s, findSuppression (finding f) imageRef suppressions now = some s →
    s ∈ suppressions ∧ Applies anyUnit (finding f) imageRef now s ∧
      ∀ s' ∈ suppressions, Applies anyUnit (finding f) imageRef now s' →
        specificityScore s' ≤ specificityScore s
  unmatched : ∀ f ∈ findings, findSuppression (finding f) imageRef suppressions now = none →
    ∀ s ∈ suppressions, ¬ Applies anyUnit (finding f) imageRef now s
  dismissing : ∀ f ∈ findings, ∀ s, findSuppression (finding f) imageRef suppressions now = some s →
    (decision (some s)).suppressed = true → mayDismissOnImage s imageRef now = true

theorem sourcePieces_escaped (pattern : Text) :
    sourcePieces (escaped pattern) = globPieces isDot pattern := by
  induction pattern with
  | nil => rfl
  | cons c cs ih =>
    have hcons : ∀ t, escaped (c :: cs) = t ++ escaped cs → sourcePieces (t ++ escaped cs) =
        (if c = unit '*' then .run isDot else .one (· = c)) :: sourcePieces (escaped cs) →
        sourcePieces (escaped (c :: cs)) = globPieces isDot (c :: cs) := by
      intro t ht hpiece
      rw [ht, hpiece, ih]
      rfl
    by_cases hstar : c = unit '*'
    · refine hcons (text ".*") ?_ ?_
      · rw [hstar]
        rfl
      · rw [if_pos hstar]
        rfl
    · by_cases hspecial : c ∈ text ".+?^$\x7b\x7d()|[]\\"
      · refine hcons [unit '\\', c] ?_ ?_
        · simp only [escaped, flatMap_cons, if_pos hspecial, flatMap_append,
            flatMap_nil, if_neg hstar]
          rfl
        · rw [if_neg hstar]
          exact if_pos rfl
      · refine hcons [c] ?_ ?_
        · simp only [escaped, flatMap_cons, if_neg hspecial, flatMap_append,
            flatMap_nil, if_neg hstar]
          rfl
        · rw [if_neg hstar]
          cases escaped cs with
          | nil => rfl
          | cons d rest =>
            have hback : c ≠ unit '\\' := fun h => hspecial (h ▸ by decide)
            have hdot : c ≠ unit '.' := fun h => hspecial (h ▸ by decide)
            show sourcePieces (c :: d :: rest) = _
            rw [sourcePieces, if_neg hback, decide_eq_false hdot, Bool.false_and,
              if_neg Bool.false_ne_true]

/-- A wider class lets a glob match more. -/
theorem matches_glob_mono {star star' : UInt16 → Bool} {pattern t : Text}
    (hstar : ∀ c ∈ t, star c = true → star' c = true) (h : Matches (globPieces star pattern) t) :
    Matches (globPieces star' pattern) t := by
  induction pattern generalizing t with
  | nil => exact h
  | cons c pattern ih =>
    rw [globPieces, map_cons] at h ⊢
    by_cases hc : c = unit '*'
    · rw [if_pos hc] at h ⊢
      cases h with
      | run r hr h =>
        exact .run r (fun d hd => hstar d (mem_append_left _ hd) (hr d hd))
          (ih (fun d hd => hstar d (mem_append_right _ hd)) h)
    · rw [if_neg hc] at h ⊢
      cases h with
      | one hd h => exact .one hd (ih (fun d hd => hstar d (mem_cons_of_mem _ hd)) h)

section Rule

variable {finding : SuppressibleFinding} {imageRef : Text} {now : Int} {s : CveSuppression}

theorem Applies.mono {star star' : UInt16 → Bool}
    (hstar : ∀ c ∈ imageRef, star c = true → star' c = true)
    (h : Applies star finding imageRef now s) : Applies star' finding imageRef now s where
  active := h.active
  cve := h.cve
  package := h.package
  image := fun p hp hne => matches_glob_mono hstar (h.image p hp hne)

/-- The walk passes the rows that match while no star runs over a line terminator. -/
theorem applies_iff : Applies isDot finding imageRef now s ↔
    s.cve_id = finding.vulnerability_id ∧ passes finding imageRef now s = true := by
  have himage : matchesImagePattern s.image_pattern imageRef = true ↔
      ∀ p, s.image_pattern = some p → p ≠ [] → Matches (globPieces isDot p) imageRef := by
    simp only [matchesImagePattern, sourcePieces_escaped, Option.all_eq_true, Bool.or_eq_true,
      decide_eq_true_eq, test_iff, or_iff_not_imp_left, ne_eq]
  have hpasses : passes finding imageRef now s = true ↔
      (∀ e, s.expires_at = some e → now < e) ∧
        (∀ p, s.pkg_name = some p → p = finding.pkg_name) ∧
        ∀ p, s.image_pattern = some p → p ≠ [] → Matches (globPieces isDot p) imageRef := by
    simp only [passes, isActive, Bool.and_eq_true, Option.all_eq_true, decide_eq_true_eq, himage,
      and_assoc]
  rw [hpasses]
  exact ⟨fun h => ⟨h.cve, h.active, h.package, h.image⟩, fun h => ⟨h.2.1, h.1, h.2.2.1, h.2.2.2⟩⟩

theorem specificityScore_nonneg (s : CveSuppression) : 0 ≤ specificityScore s := by
  unfold specificityScore
  split <;> split <;> omega

/-- What the walk holds after some rows: nothing while none passed, else the best that passed. -/
def Best (finding : SuppressibleFinding) (imageRef : Text) (now : Int)
    (seen : List CveSuppression) (best : Option CveSuppression × Int) : Prop :=
  (∀ s ∈ seen, passes finding imageRef now s = true → specificityScore s ≤ best.2) ∧
    match best.1 with
    | none => best.2 = -1
    | some s => s ∈ seen ∧ passes finding imageRef now s = true ∧ best.2 = specificityScore s

theorem best_foldl {seen : List CveSuppression} {best : Option CveSuppression × Int}
    (h : Best finding imageRef now seen best) (bucket : List CveSuppression) :
    Best finding imageRef now (seen ++ bucket) (bucket.foldl (fun best s =>
      if passes finding imageRef now s && best.2 < specificityScore s
      then (some s, specificityScore s) else best) best) := by
  induction bucket generalizing seen best with
  | nil =>
    rw [append_nil]
    exact h
  | cons s bucket ih =>
    rw [foldl_cons, ← singleton_append, ← append_assoc]
    refine ih ?_
    by_cases htaken : (passes finding imageRef now s && best.2 < specificityScore s) = true
    · rw [if_pos htaken]
      rw [Bool.and_eq_true, decide_eq_true_eq] at htaken
      refine ⟨?_, mem_append_right _ mem_cons_self, htaken.1, rfl⟩
      intro s' hs' hpasses
      rcases mem_append.mp hs' with hs' | hs'
      · exact (h.1 s' hs' hpasses).trans htaken.2.le
      · rw [mem_singleton.mp hs']
    · rw [if_neg htaken]
      rw [Bool.and_eq_true, decide_eq_true_eq, not_and, not_lt] at htaken
      refine ⟨?_, ?_⟩
      · intro s' hs' hpasses
        rcases mem_append.mp hs' with hs' | hs'
        · exact h.1 s' hs' hpasses
        · rw [mem_singleton.mp hs'] at hpasses ⊢
          exact htaken hpasses
      · have hbest := h.2
        cases hb : best.1 with
        | none =>
          rw [hb] at hbest
          exact hbest
        | some b =>
          rw [hb] at hbest
          exact ⟨mem_append_left _ hbest.1, hbest.2⟩

/-- The lookup chooses a best row of those that match without a line terminator. -/
theorem findSuppression_spec (suppressions : List CveSuppression) :
    (∀ s, findSuppression finding imageRef suppressions now = some s →
      s ∈ suppressions ∧ Applies isDot finding imageRef now s) ∧
    ∀ s ∈ suppressions, Applies isDot finding imageRef now s →
      ∃ b, findSuppression finding imageRef suppressions now = some b ∧
        specificityScore s ≤ specificityScore b := by
  have hfind : findSuppression finding imageRef suppressions now = pickFromBucket
      (suppressions.filter (·.cve_id = finding.vulnerability_id)) finding imageRef now := by
    unfold findSuppression
    dsimp only
    split
    · rename_i hnil
      rw [hnil]
      rfl
    · rfl
  have hmem : ∀ s, s ∈ suppressions.filter (·.cve_id = finding.vulnerability_id) ∧
      passes finding imageRef now s = true ↔
        s ∈ suppressions ∧ Applies isDot finding imageRef now s := by
    intro s
    rw [applies_iff, mem_filter, decide_eq_true_eq, and_assoc]
  have hempty : Best finding imageRef now [] (none, -1) := ⟨by simp, rfl⟩
  have hbest := best_foldl hempty (suppressions.filter (·.cve_id = finding.vulnerability_id))
  obtain ⟨hmost, hbest⟩ := hbest
  rw [hfind]
  unfold pickFromBucket
  generalize (foldl _ _ _ : Option CveSuppression × Int) = best at hmost hbest
  constructor
  · intro s hs
    rw [hs] at hbest
    exact (hmem s).mp ⟨hbest.1, hbest.2.1⟩
  · intro s hs happlies
    have hscore := hmost s ((hmem s).mpr ⟨hs, happlies⟩).1 ((hmem s).mpr ⟨hs, happlies⟩).2
    cases hb : best.1 with
    | none =>
      rw [hb] at hbest
      have hpositive := specificityScore_nonneg s
      exact absurd (hscore.trans (le_of_eq hbest)) (by omega)
    | some b =>
      rw [hb] at hbest
      exact ⟨b, rfl, hbest.2.2 ▸ hscore⟩

end Rule

section Findings

variable {α : Type} (finding : α → SuppressibleFinding) (findings : List α) (imageRef : Text)
  (suppressions : List CveSuppression) (now : Int)

/-- The buckets decide as the one-shot lookup does. -/
theorem applySuppressions_eq : applySuppressions finding findings imageRef suppressions now =
    findings.map fun f =>
      (f, decision (findSuppression (finding f) imageRef suppressions now)) := by
  unfold applySuppressions
  split
  · rename_i hnil
    rw [length_eq_zero_iff.mp hnil]
    rfl
  · refine map_congr_left fun f _ => ?_
    rw [OrderedMap.get?_group, findSuppression]
    split <;> rfl

/-- The rule is met on an image reference without a line terminator. -/
theorem decided_of_one_line (hline : ∀ c ∈ imageRef, isDot c = true) :
    Decided finding findings imageRef suppressions now := by
  have happlies : ∀ {f s},
      Applies anyUnit f imageRef now s ↔ Applies isDot f imageRef now s := fun {f s} =>
    ⟨fun h => h.mono fun c hc _ => hline c hc, fun h => h.mono fun _ _ _ => rfl⟩
  refine ⟨applySuppressions_eq finding findings imageRef suppressions now, ?_, ?_, ?_⟩
  · intro f _ b hfind
    obtain ⟨hb, hdot⟩ := (findSuppression_spec suppressions).1 b hfind
    refine ⟨hb, happlies.mpr hdot, fun s hs hany => ?_⟩
    obtain ⟨b', hb', hscore⟩ := (findSuppression_spec suppressions).2 s hs (happlies.mp hany)
    rw [hfind] at hb'
    rw [Option.some.inj hb']
    exact hscore
  · intro f _ hfind s hs hany
    obtain ⟨b, hb, _⟩ := (findSuppression_spec suppressions).2 s hs (happlies.mp hany)
    rw [hfind] at hb
    cases hb
  · intro f _ s hfind hdismissed
    have hpasses := (applies_iff.mp ((findSuppression_spec suppressions).1 s hfind).2).2
    unfold passes at hpasses
    simp only [Bool.and_eq_true] at hpasses
    unfold mayDismissOnImage
    rw [hpasses.1.1, hpasses.2, Bool.true_and, Bool.and_true]
    exact hdismissed

end Findings

/-- A row without a pattern and a narrower one. -/
def wideAndNarrow : List CveSuppression :=
  [⟨1, text "CVE-1", none, none, text "wide", none, none, none⟩,
    ⟨2, text "CVE-1", none, some (text "a*b"), text "narrow", none, none, none⟩]

/-- On an image reference of one line the narrower row decides. -/
theorem decided_narrow : Decided id [⟨text "CVE-1", text "openssl"⟩] (text "a.b") wideAndNarrow 0 :=
  decided_of_one_line id _ (text "a.b") wideAndNarrow 0 (List.all_eq_true.mp (by decide))

/-- On an image reference of two lines the pattern `a*b` is passed over, and a row without a
pattern decides. -/
theorem not_decided_two_lines :
    ¬ Decided id [⟨text "CVE-1", text "openssl"⟩] (text "a\nb") wideAndNarrow 0 := by
  intro h
  have hscore := (h.chosen _ mem_cons_self
    ⟨1, text "CVE-1", none, none, text "wide", none, none, none⟩ (by decide +kernel)).2.2
    ⟨2, text "CVE-1", none, some (text "a*b"), text "narrow", none, none, none⟩
    (mem_cons_of_mem _ mem_cons_self) ⟨?_, rfl, ?_, ?_⟩
  · exact absurd hscore (by decide)
  · intro e he
    cases he
  · intro p hp
    cases hp
  · intro p hp _
    rw [← Option.some.inj hp]
    exact test_iff.mp (by decide)

end Sencho.Security
