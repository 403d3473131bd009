import Sencho.EnvFiles.ReaderDepth
import Sencho.EnvFiles.WrittenFiles

/-!
# A quoted spelling of every text

Between double quotes a backslash before a backslash, a quote or a dollar gives each text a
spelling that Compose reads back as the text itself, whatever is set around it.  The reader
passes three times: the quotes keep the backslashes of what is no quote, the escapes turn an
escaped dollar into two, and the templates turn two dollars into one.
-/

namespace Sencho.EnvFiles

open Verified CodeUnits

/-- How a unit is written between double quotes. -/
def escapeDouble (c : UInt16) : Text :=
  if c = unit '\\' || c = unit '"' || c = unit '$' then [unit '\\', c] else [c]

/-- What the quotes leave of it. -/
def rawUnit (c : UInt16) : Text :=
  if c = unit '\\' || c = unit '$' then [unit '\\', c] else [c]

/-- What the escapes leave of it: a dollar twice. -/
def doubleDollar (c : UInt16) : Text := if c = unit '$' then [c, c] else [c]

theorem readQuotedValue_spelling (v rest : Text) :
    readQuotedValue (unit '"') false (v.flatMap escapeDouble ++ unit '"' :: rest) =
      .ok (v.flatMap rawUnit, rest) := by
  refine readQuotedValue_flatMap (fun c => ?_) v rest
  by_cases hquote : c = unit '"'
  · rw [hquote]
    exact readAs_quote
  · by_cases hkept : (c = unit '\\' || c = unit '$') = true
    · have hescape : escapeDouble c = [unit '\\', c] := by
        refine if_pos ?_
        simp only [Bool.or_eq_true, decide_eq_true_eq] at hkept ⊢
        exact hkept.imp_left .inl
      have hraw : rawUnit c = [unit '\\', c] := if_pos hkept
      rw [hescape, hraw]
      exact readAs_escaped hquote
    · have hback : c ≠ unit '\\' := fun heq => hkept (by rw [heq]; decide)
      have hescape : escapeDouble c = [c] := by
        refine if_neg fun hspecial => hkept ?_
        simp only [Bool.or_eq_true, decide_eq_true_eq] at hspecial ⊢
        exact hspecial.imp_left fun h => h.resolve_right hquote
      have hraw : rawUnit c = [c] := if_neg hkept
      rw [hescape, hraw]
      exact readAs_plain hquote hback

theorem expandComposeEnvEscapes_raw (v : Text) :
    expandComposeEnvEscapes (v.flatMap rawUnit) = v.flatMap doubleDollar := by
  refine replaceAll_written (fun c rest => ?_) v
  by_cases hback : c = unit '\\'
  · rw [hback]
    exact .inl ⟨unit '\\', [unit '\\'], by decide, rfl⟩
  · by_cases hdollar : c = unit '$'
    · rw [hdollar]
      exact .inl ⟨unit '\\', [unit '$'], by decide, rfl⟩
    · have hplain : rawUnit c = [c] := if_neg (by simp [hback, hdollar])
      have hnone : escapeAt (c :: rest) = none := by
        cases rest with
        | nil => rfl
        | cons d rest => exact if_pos hback
      exact .inr ⟨hplain, if_neg hdollar, hnone⟩

/-- A text whose every dollar is doubled is expanded to the text. -/
theorem expandComposeEnvTemplate_doubled (v : Text) (lookup : ComposeEnvLookup) :
    expandComposeEnvTemplate (v.flatMap doubleDollar) lookup = .ok v := by
  refine replaceAllM_flatMap (fun c rest => ?_) v
  by_cases hdollar : c = unit '$'
  · rw [hdollar]
    exact .inl ⟨unit '$', [unit '$'], by decide, rfl⟩
  · have hnone : templateAt (c :: rest) = none := by
      cases rest with
      | nil => rfl
      | cons d rest => exact if_pos hdollar
    exact .inr ⟨if_neg hdollar, by rw [hnone]; rfl⟩

theorem readValue_spelling (lookup : ComposeEnvLookup) (v rest : Text) :
    readValue lookup (unit '"' :: (v.flatMap escapeDouble ++ unit '"' :: rest)) =
      .ok (v, rest) := by
  unfold readValue
  dsimp only
  rw [if_pos rfl, readQuotedValue_spelling]
  show (do
    let value ← expandComposeEnvTemplate (expandComposeEnvEscapes (v.flatMap rawUnit)) lookup
    return (value, rest)) = _
  rw [expandComposeEnvEscapes_raw, expandComposeEnvTemplate_doubled]
  rfl

/-- A file of one line with the spelling of a text assigns the text to its name and is read
without an error; in a longer file reading goes on at the next line; and a text whose every
dollar is doubled is expanded to the text. -/
theorem parseEnvFileText_spelling (tables : Nat → Bool) (processEnv lookup : ComposeEnvLookup)
    (values : Values) {k : Text} (hk : isName tables k = true) (v : Text) :
    parseEnvFileText tables processEnv values
        (k ++ unit '=' :: unit '"' :: (v.flatMap escapeDouble ++ [unit '"', unit '\n'])) =
      .ok (values.insert k v) ∧
    (∀ rest, parseEnvFileText tables processEnv values
        (k ++ unit '=' :: unit '"' :: (v.flatMap escapeDouble ++ unit '"' :: unit '\n' :: rest)) =
      parseEnvFileText tables processEnv (values.insert k v) rest) ∧
    expandComposeEnvTemplate (v.flatMap doubleDollar) lookup = .ok v := by
  have hline : ∀ rest, parseEnvFileText tables processEnv values
        (k ++ unit '=' :: unit '"' :: (v.flatMap escapeDouble ++ unit '"' :: unit '\n' :: rest)) =
      parseEnvFileText tables processEnv (values.insert k v) rest := by
    intro rest
    unfold parseEnvFileText
    rw [readStatements_name tables processEnv _ values hk,
      List.dropWhile_cons_of_neg (by decide), readValue_spelling]
    show readStatements tables processEnv _ (values.insert k v) (unit '\n' :: rest) = _
    rw [readStatements_lf]
    refine readStatements_enough tables processEnv _ _ _ rest ?_ (Nat.lt_succ_self _)
    simp only [List.length_append, List.length_cons]
    omega
  exact ⟨hline [], hline, expandComposeEnvTemplate_doubled v lookup⟩

/-- Backslashes, quotes, references and line breaks are read back. -/
theorem parseEnvFileText_spelling_marks :
    parseEnvFileText (fun _ => false) (fun _ => some (text "x")) ∅
        (text "K" ++ unit '=' :: unit '"' ::
          ((text "\\\"$\x7b\n").flatMap escapeDouble ++ [unit '"', unit '\n'])) =
      .ok (AList.insert (text "K") (text "\\\"$\x7b\n") ∅) :=
  (parseEnvFileText_spelling (fun _ => false) (fun _ => some (text "x")) (fun _ => none) ∅
    (by decide) (text "\\\"$\x7b\n")).1

end Sencho.EnvFiles
