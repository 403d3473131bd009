import Sencho.EnvFiles.ComposeDotenv

/-!
# How deep the reader goes

A reference is nested in a text longer than its own, and a statement leaves a text shorter
than the one it starts, so the depth and the number of statements the reader allows are
never reached: it reads by its own equation.
-/

namespace Sencho.EnvFiles

open Verified CodeUnits List Option

section References

variable {lookup : ComposeEnvLookup} {expand expand' : Text → Except Text Text}

theorem applyOperator_congr {name operator argument : Text}
    (h : expand argument = expand' argument) :
    applyOperator lookup expand name operator argument =
      applyOperator lookup expand' name operator argument := by
  unfold applyOperator
  rw [h]

theorem substituteBraced_congr {inner : Text}
    (h : ∀ u : Text, u.length < inner.length → expand u = expand' u) :
    substituteBraced lookup expand inner = substituteBraced lookup expand' inner := by
  unfold substituteBraced
  dsimp only
  by_cases hname : readName inner = []
  · rw [if_pos hname, if_pos hname]
  · rw [if_neg hname, if_neg hname]
    split
    · rfl
    · split
      · rfl
      · refine applyOperator_congr (h _ ?_)
        rename_i hrest _
        have hpos : 0 < (readName inner).length := length_pos_iff.mpr hname
        have hinner : 0 < inner.length := by
          cases inner with
          | nil => exact absurd rfl hname
          | cons c cs => exact Nat.succ_pos _
        rw [length_drop, length_drop]
        omega

/-- What a body stands for takes only shorter texts further. -/
theorem templateValue_congr {matched body : Text}
    (h : ∀ u : Text, u.length < body.length → expand u = expand' u) :
    templateValue lookup expand matched body = templateValue lookup expand' matched body := by
  unfold templateValue
  cases hfound : (templateAt body).filter (fun found => found.length = body.length) with
  | none => rfl
  | some found =>
    have hlength : decide (found.length = body.length) = true :=
      (filter_eq_some_iff.mp hfound).2
    cases found with
    | dollar => rfl
    | named name => rfl
    | unclosed => rfl
    | braced inner =>
      have hinner : inner.length + 3 = body.length := of_decide_eq_true hlength
      exact substituteBraced_congr fun u hu => h u (by omega)

/-- What a matched template stands for takes only shorter texts further. -/
theorem expandMatchedTemplate_congr {matched : Text}
    (h : ∀ u : Text, u.length < matched.length → expand u = expand' u) :
    expandMatchedTemplate lookup expand matched = expandMatchedTemplate lookup expand' matched := by
  unfold expandMatchedTemplate
  dsimp only
  generalize hcut : (firstBraceClose 0 false 0 matched).filter
    (fun close => decide (close < matched.length - 1)) = cut
  cases cut with
  | none =>
    rw [map_none, map_none, getD_none, getD_none, if_pos rfl, if_pos rfl]
    exact templateValue_congr h
  | some close =>
    have hclose : close < matched.length - 1 :=
      of_decide_eq_true (filter_eq_some_iff.mp hcut).2
    have hvalue : templateValue lookup expand matched (matched.take (close + 1)) =
        templateValue lookup expand' matched (matched.take (close + 1)) := by
      have htake : (matched.take (close + 1)).length ≤ matched.length :=
        length_take_le' _ _
      exact templateValue_congr fun u hu => h u (by omega)
    have hrest : expand (matched.drop (close + 1)) = expand' (matched.drop (close + 1)) := by
      apply h
      rw [length_drop]
      omega
    dsimp only [map_some, getD_some]
    rw [hvalue, hrest]

theorem replaceAllM_congr {ε : Type} {pattern pattern' : Text → Option (Except ε Text × Nat)}
    {t : Text} (h : ∀ c cs, (c :: cs) <:+ t → pattern (c :: cs) = pattern' (c :: cs))
    (skip : Nat) : replaceAllM pattern skip t = replaceAllM pattern' skip t := by
  induction t generalizing skip with
  | nil =>
    cases skip with
    | zero => rfl
    | succ skip => rfl
  | cons c cs ih =>
    have hrest : ∀ skip, replaceAllM pattern skip cs = replaceAllM pattern' skip cs :=
      ih fun d ds hd => h d ds (hd.trans (suffix_cons c cs))
    cases skip with
    | zero =>
      rw [replaceAllM, replaceAllM, h c cs (suffix_refl _), hrest]
      cases pattern' (c :: cs) with
      | none => rfl
      | some found =>
        dsimp only
        rw [hrest]
    | succ skip => exact hrest skip

/-- A text with its references substituted, by what the calls on other texts answer. -/
def expandReferences (lookup : ComposeEnvLookup) (expand : Text → Except Text Text) (t : Text) :
    Except Text Text :=
  replaceAllM (fun suffix => (templateAt suffix).map fun found =>
    (expandMatchedTemplate lookup expand (suffix.take found.length), found.length)) 0 t

/-- A text takes only shorter texts further. -/
theorem expandReferences_congr {t : Text}
    (h : ∀ u : Text, u.length < t.length → expand u = expand' u) :
    expandReferences lookup expand t = expandReferences lookup expand' t := by
  refine replaceAllM_congr (fun c cs hsuffix => ?_) 0
  refine congrArg (fun f => (templateAt (c :: cs)).map f) (funext fun found => ?_)
  refine congrArg (fun value => (value, found.length)) (expandMatchedTemplate_congr fun u hu => ?_)
  have hle := hsuffix.length_le
  have htake : ((c :: cs).take found.length).length ≤ (c :: cs).length :=
    length_take_le' _ _
  exact h u (by omega)

end References

/-- A text is not nested deeper than it is long. -/
theorem expandTemplates_enough (lookup : ComposeEnvLookup) (n m : Nat) (t : Text)
    (hn : t.length < n) (hm : t.length < m) :
    expandTemplates lookup n t = expandTemplates lookup m t := by
  induction n generalizing m t with
  | zero => exact absurd hn (Nat.not_lt_zero _)
  | succ n ih =>
    cases m with
    | zero => exact absurd hm (Nat.not_lt_zero _)
    | succ m => exact expandReferences_congr fun u hu => ih m u (by omega) (by omega)

/-- References, by the reader's own recursion. -/
theorem expandComposeEnvTemplate_eq (t : Text) (lookup : ComposeEnvLookup) :
    expandComposeEnvTemplate t lookup =
      replaceAllM (fun suffix => (templateAt suffix).map fun found =>
        (expandMatchedTemplate lookup (fun u => expandComposeEnvTemplate u lookup)
          (suffix.take found.length), found.length)) 0 t :=
  expandReferences_congr fun u hu => expandTemplates_enough lookup _ _ u hu (Nat.lt_succ_self _)

/-- **Expansion ends.**  A matched template, a braced body and a whole text depend on what
strictly shorter texts expand to and on no other, so one function satisfies the recursion, and
no depth past the length of a text is ever reached. -/
theorem expansion_ends (lookup : ComposeEnvLookup) :
    (∀ (t : Text) (expand expand' : Text → Except Text Text),
      (∀ u : Text, u.length < t.length → expand u = expand' u) →
        expandReferences lookup expand t = expandReferences lookup expand' t ∧
        expandMatchedTemplate lookup expand t = expandMatchedTemplate lookup expand' t ∧
        substituteBraced lookup expand t = substituteBraced lookup expand' t) ∧
    (∀ expand : Text → Except Text Text,
      (∀ t, expand t = expandReferences lookup expand t) ↔
        expand = fun t => expandComposeEnvTemplate t lookup) ∧
    ∀ t depth, t.length < depth →
      expandTemplates lookup depth t = expandComposeEnvTemplate t lookup := by
  refine ⟨fun t expand expand' h => ⟨expandReferences_congr h, expandMatchedTemplate_congr h,
    substituteBraced_congr h⟩, fun expand => ⟨fun hrec => funext fun t => ?_, ?_⟩,
    fun t depth hdepth => expandTemplates_enough lookup _ _ t hdepth (Nat.lt_succ_self _)⟩
  · induction hlength : t.length using Nat.strong_induction_on generalizing t with
    | _ n ih =>
      rw [hrec, expandComposeEnvTemplate_eq]
      refine expandReferences_congr fun u hu => ih u.length ?_ u rfl
      rw [← hlength]
      exact hu
  · rintro rfl t
    exact expandComposeEnvTemplate_eq t lookup

theorem skipToStatement_length (comment : Bool) (t : Text) :
    (skipToStatement comment t).length ≤ t.length := by
  induction t generalizing comment with
  | nil => exact .refl
  | cons c cs ih =>
    rw [skipToStatement]
    split
    · exact Nat.le_succ_of_le (ih _)
    · split
      · exact Nat.le_succ_of_le (ih _)
      · split
        · exact Nat.le_succ_of_le (ih _)
        · exact .refl

theorem afterPrefix_length {p t r : Text} (h : afterPrefix p t = some r) : r.length ≤ t.length := by
  induction p generalizing t with
  | nil =>
    cases h
    exact .refl
  | cons c p ih =>
    cases t with
    | nil => cases h
    | cons d t =>
      unfold afterPrefix at h
      split at h
      · exact Nat.le_succ_of_le (ih h)
      · cases h

theorem dropExport_length (t : Text) : (dropExport t).length ≤ t.length := by
  unfold dropExport
  cases hafter : afterPrefix (text "export") t with
  | none => exact .refl
  | some r =>
    cases r with
    | nil => exact .refl
    | cons c cs =>
      dsimp only
      split
      · have hle := afterPrefix_length hafter
        have hinner : (cs.dropWhile isExportSpace).length ≤ cs.length :=
          (dropWhile_sublist _).length_le
        have houter : ((cs.dropWhile isExportSpace).dropWhile isEnvSpace).length ≤
            (cs.dropWhile isExportSpace).length := (dropWhile_sublist _).length_le
        rw [length_cons] at hle
        omega
      · exact .refl

theorem ReadKey.rest_of_map {units : Text} {r : Except Text (Option ReadKey)} {k : ReadKey}
    (h : r.map (fun k => k.map (ReadKey.after units)) = .ok (some k)) :
    ∃ k', r = .ok (some k') ∧ k.rest = k'.rest := by
  cases r with
  | error e => cases h
  | ok found =>
    cases found with
    | none => cases h
    | some k' =>
      cases h
      exact ⟨k', rfl, rfl⟩

/-- What follows a name is shorter than the statement. -/
theorem readKey_length {tables : Nat → Bool} {t : Text} {k : ReadKey}
    (h : readKey tables t = .ok (some k)) : k.rest.length < t.length := by
  fun_induction readKey tables t generalizing k with
  | case1 => cases h
  | case3 c cs =>
    cases h
    exact Nat.lt_succ_self _
  | case2 c cs _ ih | case4 c cs _ _ _ ih | case9 c cs _ _ _ _ _ ih =>
    have hread := ReadKey.rest_of_map h
    obtain ⟨k', hk', hrest⟩ := hread
    rw [hrest]
    exact Nat.lt_succ_of_lt (ih hk')
  | case5 c _ _ _ _ d rest _ _ ih =>
    have hread := ReadKey.rest_of_map h
    obtain ⟨k', hk', hrest⟩ := hread
    rw [hrest]
    exact Nat.lt_succ_of_lt (Nat.lt_succ_of_lt (ih hk'))
  | case6 | case7 | case8 | case10 => cases h

theorem rest_of_map {add : Text → Text} {read : Except Text (Text × Text)} {r : Text × Text}
    (h : read.map (fun r => (add r.1, r.2)) = .ok r) : ∃ r', read = .ok r' ∧ r.2 = r'.2 := by
  cases read with
  | error e => cases h
  | ok found =>
    cases h
    exact ⟨found, rfl, rfl⟩

/-- What follows a quoted value is shorter than it. -/
theorem readQuotedValue_length {quote : UInt16} {escaped : Bool} {t : Text} {r : Text × Text}
    (h : readQuotedValue quote escaped t = .ok r) : r.2.length < t.length := by
  induction t generalizing escaped r with
  | nil => cases h
  | cons c cs ih =>
    have hnext : ∀ {add : Text → Text},
        (readQuotedValue quote false cs).map (fun r => (add r.1, r.2)) = .ok r →
          r.2.length < (c :: cs).length := by
      intro add hmap
      obtain ⟨r', hread, hrest⟩ := rest_of_map hmap
      rw [hrest]
      exact Nat.lt_succ_of_lt (ih hread)
    rw [readQuotedValue] at h
    by_cases hquote : c ≠ quote
    · rw [if_pos hquote] at h
      by_cases hbackslash : (!escaped && c = unit '\\') = true
      · rw [if_pos hbackslash] at h
        exact Nat.lt_succ_of_lt (ih h)
      · rw [if_neg hbackslash] at h
        exact @hnext (fun raw => (if escaped then [unit '\\', c] else [c]) ++ raw) h
    · rw [if_neg hquote] at h
      by_cases hescaped : escaped = true
      · rw [if_pos hescaped] at h
        exact @hnext (fun raw => c :: raw) h
      · rw [if_neg hescaped] at h
        cases h
        exact Nat.lt_succ_self _

/-- What follows a value is no longer than the value's text. -/
theorem readValue_length {lookup : ComposeEnvLookup} {t : Text} {r : Text × Text}
    (h : readValue lookup t = .ok r) : r.2.length ≤ t.length := by
  cases t with
  | nil =>
    cases h
    exact .refl
  | cons c cs =>
    rw [readValue.eq_def] at h
    dsimp only at h
    by_cases hdouble : c = unit '"'
    · rw [if_pos hdouble] at h
      cases hread : readQuotedValue c false cs with
      | error e =>
        rw [hread] at h
        cases h
      | ok found =>
        rw [hread] at h
        have hlt := readQuotedValue_length hread
        cases hvalue : expandComposeEnvTemplate (expandComposeEnvEscapes found.1) lookup with
        | error e =>
          simp only [bind, Except.bind, hvalue] at h
          cases h
        | ok value =>
          simp only [bind, Except.bind, hvalue] at h
          cases h
          exact Nat.le_succ_of_le hlt.le
    · rw [if_neg hdouble] at h
      by_cases hsingle : c = unit '\''
      · rw [if_pos hsingle] at h
        exact Nat.le_succ_of_le (readQuotedValue_length h).le
      · rw [if_neg hsingle] at h
        cases hvalue : expandComposeEnvTemplate (trimEnd isUnicodeSpace (beforeComment
            ((c :: cs).takeWhile fun c => c ≠ unit '\n'))) lookup with
        | error e =>
          simp only [bind, Except.bind, hvalue] at h
          cases h
        | ok value =>
          simp only [bind, Except.bind, hvalue] at h
          cases h
          rw [length_tail, length_drop]
          omega

/-- More statements than units change nothing. -/
theorem readStatements_enough (tables : Nat → Bool) (processEnv : ComposeEnvLookup) (n m : Nat)
    (values : Values) (t : Text) (hn : t.length < n) (hm : t.length < m) :
    readStatements tables processEnv n values t = readStatements tables processEnv m values t := by
  induction n generalizing m values t with
  | zero => exact absurd hn (Nat.not_lt_zero _)
  | succ n ih =>
    cases m with
    | zero => exact absurd hm (Nat.not_lt_zero _)
    | succ m =>
      rw [readStatements, readStatements]
      cases hskip : skipToStatement false t with
      | nil => rfl
      | cons c cs =>
        have hstart : (c :: cs).length ≤ t.length := hskip ▸ skipToStatement_length false t
        have hexport := dropExport_length (c :: cs)
        dsimp only
        cases hkey : readKey tables (dropExport (c :: cs)) with
        | error e => rfl
        | ok found =>
          cases found with
          | none => rfl
          | some k =>
            have hrest := readKey_length hkey
            simp only [bind, Except.bind]
            by_cases hspace : unit ' ' ∈ trimEnd isUnicodeSpace k.name
            · rw [if_pos hspace, if_pos hspace]
            · rw [if_neg hspace, if_neg hspace]
              by_cases hinherited : k.inherited = true
              · rw [if_pos hinherited, if_pos hinherited]
                exact ih m _ _ (by omega) (by omega)
              · rw [if_neg hinherited, if_neg hinherited]
                have hdrop : (k.rest.dropWhile isEnvSpace).length ≤ k.rest.length :=
                  (dropWhile_sublist _).length_le
                cases hvalue : readValue (lookupIn processEnv values)
                    (k.rest.dropWhile isEnvSpace) with
                | error e => rfl
                | ok read =>
                  have hnext := readValue_length hvalue
                  exact ih m _ _ (by omega) (by omega)

end Sencho.EnvFiles
