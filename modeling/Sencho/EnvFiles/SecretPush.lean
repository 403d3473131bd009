import Sencho.EnvFiles.WrittenFiles

/-!
# What Compose reads after a push

A push preserves what Compose reads exactly where every value it writes resolves, against
the process environment and what is expected of the names sorted before it, to what is
expected of it: the bundle's value, or what Compose read before.  A bundle value with a
reference does not, nor does one that begins or ends with a next line and needs no quotes;
and a kept value does not where the push read the file otherwise than Compose.
-/

namespace Sencho.EnvFiles

open Verified CodeUnits List AList ComposeEnvFiles

variable {tables : Nat → Bool} {processEnv : ComposeEnvLookup} {overlay : SecretKv}
  {readText : Text} {before : ComposeEnvFiles}

theorem settle_frame {values final : Values} {entries : List (Text × Text)} {name : Text}
    (h : settle processEnv values entries = .ok final) (hname : name ∉ entries.map Prod.fst) :
    final.lookup name = values.lookup name := by
  induction entries generalizing values with
  | nil =>
    cases h
    rfl
  | cons e entries ih =>
    obtain ⟨k, v⟩ := e
    rw [map_cons, mem_cons, not_or] at hname
    rw [settle] at h
    cases hvalue : expandComposeEnvTemplate (readBack v) (lookupIn processEnv values) with
    | error e =>
      rw [hvalue] at h
      cases h
    | ok value =>
      rw [hvalue] at h
      rw [ih h hname.2]
      exact lookup_insert_ne hname.1

/-- The process environment, then what is expected of some names. -/
def environmentAfter (processEnv : ComposeEnvLookup) (expected : Text → Option Text)
    (names : List Text) : ComposeEnvLookup :=
  fun name => (processEnv name).or (if name ∈ names then expected name else none)

/-- Assignments give what is expected exactly where each value resolves to it. -/
theorem settle_iff (expected : Text → Option Text) (entries : List (Text × Text))
    (names : List Text) (values : Values)
    (hvalues : ∀ name, values.lookup name = if name ∈ names then expected name else none)
    (hnodup : (names ++ entries.map Prod.fst).Nodup) :
    (∃ final, settle processEnv values entries = .ok final ∧
        ∀ e ∈ entries, final.lookup e.1 = expected e.1) ↔
      ∀ pre e post, entries = pre ++ e :: post → ∃ value, expected e.1 = some value ∧
        expandComposeEnvTemplate (readBack e.2)
          (environmentAfter processEnv expected (names ++ pre.map Prod.fst)) = .ok value := by
  induction entries generalizing names values with
  | nil =>
    constructor
    · rintro _ pre e post hsplit
      exact absurd hsplit (by simp)
    · exact fun _ => ⟨values, rfl, fun e he => absurd he not_mem_nil⟩
  | cons entry entries ih =>
    obtain ⟨k, v⟩ := entry
    have hlookup : lookupIn processEnv values = environmentAfter processEnv expected names := by
      funext name
      unfold lookupIn environmentAfter
      rw [hvalues name]
    have hnodup' : (names ++ [k] ++ entries.map Prod.fst).Nodup := by
      rw [append_assoc]
      exact hnodup
    have hfr : k ∉ entries.map Prod.fst := by
      have htail := (nodup_append.mp hnodup).2.1
      exact (nodup_cons.mp htail).1
    have hnext : ∀ value, expected k = some value → ∀ name, (values.insert k value).lookup name =
        if name ∈ names ++ [k] then expected name else none := by
      intro value hvalue name
      by_cases hk : name = k
      · rw [hk, lookup_insert, if_pos (by simp), hvalue]
      · rw [lookup_insert_ne hk, hvalues name]
        simp [hk]
    rw [settle, hlookup]
    constructor
    · rintro ⟨final, hsettle, hfinal⟩ pre e post hsplit
      cases hvalue : expandComposeEnvTemplate (readBack v)
          (environmentAfter processEnv expected names) with
      | error err =>
        rw [hvalue] at hsettle
        cases hsettle
      | ok value =>
        rw [hvalue] at hsettle
        have hkept : final.lookup k = some value := by
          rw [settle_frame hsettle hfr]
          exact lookup_insert _
        have hexp : expected k = some value := by
          rw [← hfinal (k, v) mem_cons_self]
          exact hkept
        have hrest := (ih (names ++ [k]) (values.insert k value) (hnext value hexp)
          hnodup').mp ⟨final, hsettle, fun e he => hfinal e (mem_cons_of_mem _ he)⟩
        cases pre with
        | nil =>
          obtain ⟨rfl, _⟩ := cons.inj hsplit
          refine ⟨value, hexp, ?_⟩
          rw [map_nil, append_nil]
          exact hvalue
        | cons p pre =>
          obtain ⟨rfl, hsplit'⟩ := cons.inj hsplit
          have hlater := hrest pre e post hsplit'
          rw [append_assoc] at hlater
          exact hlater
    · intro hall
      obtain ⟨value, hexp, hvalue⟩ := hall [] (k, v) entries rfl
      rw [map_nil, append_nil] at hvalue
      rw [hvalue]
      obtain ⟨final, hsettle, hfinal⟩ := (ih (names ++ [k]) (values.insert k value)
        (hnext value hexp) hnodup').mpr fun pre e post hsplit => by
          have hlater := hall ((k, v) :: pre) e post (by rw [hsplit]; rfl)
          rw [append_assoc]
          exact hlater
      refine ⟨final, hsettle, fun e he => ?_⟩
      rcases mem_cons.mp he with rfl | hrest
      · rw [settle_frame hsettle hfr, hexp]
        exact lookup_insert _
      · exact hfinal e hrest

/-- What Compose should read after a push. -/
def expectedAfter (overlay : SecretKv) (before : ComposeEnvFiles) (key : Text) : Option Text :=
  (overlay.lookup key).or (before.assigned key)

/-- Compose reads what was written: the bundle's values, and of the other names the push kept
what it read before. -/
def Preserved (tables : Nat → Bool) (processEnv : ComposeEnvLookup) (overlay : SecretKv)
    (readText : Text) (before : ComposeEnvFiles) : Prop :=
  ∃ after, (new processEnv).read tables (executePush overlay readText).newText =
      .ok after ∧
    (∀ key value, overlay.lookup key = some value → after.assigned key = some value) ∧
    ∀ key, key ∈ parseEnv readText → key ∉ overlay → after.assigned key = before.assigned key

/-- Every value a push writes resolves, after the names sorted before it, to what is expected
of it. -/
def Resolves (processEnv : ComposeEnvLookup) (overlay : SecretKv) (readText : Text)
    (before : ComposeEnvFiles) : Prop :=
  ∀ pre e post, sortedEntries (applyOverlay (parseEnv readText) overlay) = pre ++ e :: post →
    ∃ value, expectedAfter overlay before e.1 = some value ∧
      expandComposeEnvTemplate (readBack e.2)
        (environmentAfter processEnv (expectedAfter overlay before) (pre.map Prod.fst)) = .ok value

theorem mem_applyOverlay {existing : SecretKv} {key : Text} :
    key ∈ applyOverlay existing overlay ↔ key ∈ overlay ∨ key ∈ existing := mem_union

theorem sortedEntries_keys (kv : SecretKv) :
    (sortedEntries kv).map Prod.fst = kv.keys.mergeSort keyLe := by
  unfold sortedEntries
  rw [map_map]
  exact map_id _

theorem exists_sortedEntry {kv : SecretKv} {key : Text} (h : key ∈ kv) :
    ∃ e ∈ sortedEntries kv, e.1 = key := by
  have hmem : key ∈ (sortedEntries kv).map Prod.fst := by
    rw [sortedEntries_keys]
    exact (mergeSort_perm _ _).mem_iff.mpr (mem_keys.mp h)
  exact mem_map.mp hmem

/-- A written file gives what is expected of every name exactly where a push preserves what
Compose reads. -/
theorem preserved_iff_settle (hkeys : ∀ key ∈ overlay, isEnvKey key = true) :
    Preserved tables processEnv overlay readText before ↔
      ∃ final, settle processEnv ∅ (sortedEntries (applyOverlay (parseEnv readText) overlay)) =
          .ok final ∧
        ∀ e ∈ sortedEntries (applyOverlay (parseEnv readText) overlay),
          final.lookup e.1 = expectedAfter overlay before e.1 := by
  have hall : ∀ key ∈ applyOverlay (parseEnv readText) overlay, isEnvKey key = true :=
    fun key hkey => (mem_applyOverlay.mp hkey).elim (hkeys key) isEnvKey_of_parseEnv
  show (∃ after, (new processEnv).read tables
    (serializeEnv (applyOverlay (parseEnv readText) overlay)) = .ok after ∧ _) ↔ _
  rw [read_serializeEnv tables processEnv hall]
  constructor
  · rintro ⟨after, hread, hover, hkept⟩
    cases hsettle : settle processEnv ∅ (sortedEntries (applyOverlay (parseEnv readText) overlay)) with
    | error err =>
      rw [hsettle] at hread
      cases hread
    | ok final =>
      rw [hsettle] at hread
      cases hread
      refine ⟨final, rfl, fun e he => ?_⟩
      have hmem : e.1 ∈ applyOverlay (parseEnv readText) overlay :=
        lookup_isSome.mp (by rw [mem_sortedEntries he]; rfl)
      unfold expectedAfter
      cases hlookup : overlay.lookup e.1 with
      | some value => exact hover e.1 value hlookup
      | none =>
        have hnot : e.1 ∉ overlay := lookup_eq_none.mp hlookup
        exact hkept e.1 ((mem_applyOverlay.mp hmem).resolve_left hnot) hnot
  · rintro ⟨final, hsettle, hfinal⟩
    rw [hsettle]
    have hvalue : ∀ key ∈ applyOverlay (parseEnv readText) overlay,
        final.lookup key = expectedAfter overlay before key := by
      intro key hkey
      obtain ⟨e, he, rfl⟩ := exists_sortedEntry hkey
      exact hfinal e he
    refine ⟨⟨processEnv, final⟩, rfl, fun key value hover => ?_, fun key hkept hnot => ?_⟩
    · have hmem : key ∈ overlay := lookup_isSome.mp (by rw [hover]; rfl)
      show final.lookup key = some value
      rw [hvalue key (mem_applyOverlay.mpr (.inl hmem))]
      unfold expectedAfter
      rw [hover]
      rfl
    · show final.lookup key = before.assigned key
      rw [hvalue key (mem_applyOverlay.mpr (.inr hkept))]
      unfold expectedAfter
      rw [lookup_eq_none.mpr hnot]
      rfl

/-- A push preserves what Compose reads exactly where every value it writes resolves to what
is expected of it. -/
theorem preserved_iff_resolves (hkeys : ∀ key ∈ overlay, isEnvKey key = true)
    (_hread : (new processEnv).read tables readText = .ok before) :
    Preserved tables processEnv overlay readText before ↔
      Resolves processEnv overlay readText before := by
  rw [preserved_iff_settle hkeys]
  refine settle_iff (expectedAfter overlay before) _ [] ∅ (fun name => ?_) ?_
  · rw [if_neg not_mem_nil]
    exact lookup_empty name
  · rw [nil_append, sortedEntries_keys]
    exact (mergeSort_perm _ _).nodup_iff.mpr (applyOverlay (parseEnv readText) overlay).nodupKeys

theorem expandComposeEnvTemplate_of_plain {t : Text} (h : unit '$' ∉ t)
    (lookup : ComposeEnvLookup) : expandComposeEnvTemplate t lookup = .ok t := by
  unfold expandComposeEnvTemplate
  refine replaceAllM_of_none fun c cs hsuffix => ?_
  have hne : c ≠ unit '$' := by
    rintro rfl
    exact h (hsuffix.subset mem_cons_self)
  have hnone : templateAt (c :: cs) = none := by
    cases cs with
    | nil => rfl
    | cons d rest => exact if_pos hne
  rw [hnone]
  rfl

/-- A push whose values hold no dollar and lose no next line preserves what Compose reads
exactly where the push read the values it keeps as Compose does. -/
theorem preserved_iff_agrees (hkeys : ∀ key ∈ overlay, isEnvKey key = true)
    (hread : (new processEnv).read tables readText = .ok before)
    (hplain : ∀ e ∈ sortedEntries (applyOverlay (parseEnv readText) overlay),
      unit '$' ∉ e.2 ∧ readBack e.2 = e.2) :
    Preserved tables processEnv overlay readText before ↔
      ∀ key, key ∈ parseEnv readText → key ∉ overlay →
        before.assigned key = (parseEnv readText).lookup key := by
  rw [preserved_iff_resolves hkeys hread]
  have hvalue : ∀ e ∈ sortedEntries (applyOverlay (parseEnv readText) overlay), ∀ lookup,
      expandComposeEnvTemplate (readBack e.2) lookup = .ok e.2 := by
    intro e he lookup
    obtain ⟨hdollar, hback⟩ := hplain e he
    rw [hback]
    exact expandComposeEnvTemplate_of_plain hdollar lookup
  constructor
  · intro hresolves key hkept hnot
    obtain ⟨e, he, rfl⟩ := exists_sortedEntry (mem_applyOverlay.mpr (.inr hkept))
    obtain ⟨pre, post, hsplit⟩ := append_of_mem he
    obtain ⟨value, hexp, hexpand⟩ := hresolves pre e post hsplit
    rw [hvalue e he] at hexpand
    have hmerged := mem_sortedEntries he
    rw [applyOverlay_lookup] at hmerged
    unfold expectedAfter at hexp
    rw [lookup_eq_none.mpr hnot, Option.none_or] at hexp hmerged
    rw [hexp, hmerged, Except.ok.inj hexpand]
  · intro hagr pre e post hsplit
    have he : e ∈ sortedEntries (applyOverlay (parseEnv readText) overlay) := by
      rw [hsplit]
      exact mem_append_right _ mem_cons_self
    refine ⟨e.2, ?_, hvalue e he _⟩
    have hmerged := mem_sortedEntries he
    rw [applyOverlay_lookup] at hmerged
    unfold expectedAfter
    cases hover : overlay.lookup e.1 with
    | some value =>
      rw [hover] at hmerged
      exact hmerged
    | none =>
      rw [hover, Option.none_or] at hmerged
      have hkept : e.1 ∈ parseEnv readText :=
        lookup_isSome.mp (by rw [hmerged]; rfl)
      rw [Option.none_or, hagr e.1 hkept (lookup_eq_none.mp hover)]
      exact hmerged

/-- A bundle of one key. -/
def oneKey (value : Text) : SecretKv := singleton (text "KEY") value

theorem isEnvKey_oneKey (value : Text) : ∀ key ∈ oneKey value, isEnvKey key = true := by
  intro key hkey
  have hmem : key ∈ (oneKey value).keys := hkey
  rw [oneKey, keys_singleton, List.mem_singleton] at hmem
  rw [hmem]
  decide

theorem forall_sortedEntries {kv : SecretKv} {p : Text × Text → Prop}
    (h : ∀ key ∈ kv.keys, p (key, (kv.lookup key).getD [])) : ∀ e ∈ sortedEntries kv, p e := by
  intro e he
  obtain ⟨key, hkey, rfl⟩ := mem_map.mp he
  exact h key (mem_mergeSort.mp hkey)

/-- A user and a port. -/
def userFile (user : String) : Text := text "USER=" ++ text user ++ text "\nPORT=80\n"

/-- The environment and the assignments Compose reads for them. -/
def userRead (user : String) : ComposeEnvFiles where
  processEnv := fun name => if name = text "HOME" then some (text "root") else none
  values := (insert (text "USER") (text user) ∅).insert (text "PORT") (text "80")

/-- A file, and the assignments Compose reads from it. -/
structure ReadFile where
  file : Text
  read : ComposeEnvFiles
  unmarked : file.head? ≠ some 0xfeff
  parses : (parseEnvFileText (fun _ => false) read.processEnv ∅ file).map entries =
    .ok read.values.entries

def homeFile : ReadFile :=
  ⟨userFile "$HOME", userRead "root", by decide +kernel, by decide +kernel⟩

def commentedFile : ReadFile :=
  ⟨userFile "x # c", userRead "x", by decide +kernel, by decide +kernel⟩

theorem ReadFile.read_eq (f : ReadFile) :
    (new f.read.processEnv).read (fun _ => false) f.file = .ok f.read := by
  unfold ComposeEnvFiles.read ComposeEnvFiles.new
  simp only [if_neg f.unmarked]
  have h := f.parses
  cases hparse : parseEnvFileText (fun _ => false) f.read.processEnv ∅ f.file with
  | error e =>
    rw [hparse] at h
    cases h
  | ok values =>
    rw [hparse] at h
    have hvalues : values = f.read.values := ext (Except.ok.inj h)
    rw [hvalues]
    rfl

/-- A value with a space is written, and a reference is kept as what it resolved to. -/
theorem spaced_preserved :
    Preserved (fun _ => false) (userRead "root").processEnv (oneKey (text "a b"))
      (userFile "$HOME") (userRead "root") := by
  have hsorted : (applyOverlay (parseEnv (userFile "$HOME"))
      (oneKey (text "a b"))).keys.Pairwise fun a b => keyLe a b := by
    decide +kernel
  have hentries : sortedEntries (applyOverlay (parseEnv (userFile "$HOME"))
      (oneKey (text "a b"))) =
        [(text "KEY", text "a b"), (text "PORT", text "80"), (text "USER", text "$HOME")] := by
    unfold sortedEntries
    rw [mergeSort_of_pairwise hsorted]
    decide +kernel
  have hread : (new (userRead "root").processEnv).read (fun _ => false) (userFile "$HOME") =
      .ok (userRead "root") := homeFile.read_eq
  refine (preserved_iff_resolves (isEnvKey_oneKey _) hread).mpr ?_
  intro pre e post hsplit
  rw [hentries] at hsplit
  rcases pre with _ | ⟨k, _ | ⟨p, _ | ⟨u, pre⟩⟩⟩
  · cases hsplit
    exact ⟨text "a b", by decide +kernel⟩
  · cases hsplit
    exact ⟨text "80", by decide +kernel⟩
  · cases hsplit
    exact ⟨text "root", by decide +kernel⟩
  · have hlength := congrArg length hsplit
    simp at hlength

/-- Compose reads the kept port as the push does, and the user without the comment. -/
theorem commented_agrees :
    Preserved (fun _ => false) (userRead "x").processEnv (oneKey (text "a b"))
        (userFile "x # c") (userRead "x") ↔
      ∀ key, key ∈ parseEnv (userFile "x # c") → key ∉ oneKey (text "a b") →
        (userRead "x").assigned key = (parseEnv (userFile "x # c")).lookup key :=
  preserved_iff_agrees (isEnvKey_oneKey _) commentedFile.read_eq
    (forall_sortedEntries (p := fun e => unit '$' ∉ e.2 ∧ readBack e.2 = e.2) (by decide +kernel))

/-- A password with a dollar is written without its reference being escaped. -/
theorem dollar_expanded :
    ¬ ∀ (tables : Nat → Bool) (processEnv : ComposeEnvLookup) (overlay : SecretKv)
      (readText : Text) (before : ComposeEnvFiles),
      (new processEnv).read tables readText = .ok before →
      (∀ key ∈ overlay, isEnvKey key = true) →
      Preserved tables processEnv overlay readText before := by
  intro hclaim
  obtain ⟨after, hread, hover, _⟩ := hclaim (fun _ => false) (fun _ => none)
    (oneKey (text "pa$word")) [] (.new fun _ => none) rfl (isEnvKey_oneKey _)
  have hvalue := hover (text "KEY") (text "pa$word") (by decide)
  have hlost : (((new fun _ => none).read (fun _ => false)
      (executePush (oneKey (text "pa$word")) []).newText).toOption.bind fun r =>
        r.assigned (text "KEY")) = some (text "pa") := by
    decide +kernel
  rw [hread] at hlost
  have hboth : some (text "pa$word") = some (text "pa") := hvalue.symm.trans hlost
  exact absurd hboth (by decide)

end Sencho.EnvFiles
