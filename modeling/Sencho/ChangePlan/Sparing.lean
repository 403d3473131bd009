import Sencho.ChangePlan.Renames

/-!
# What an unblocked plan spares

A path is spared if the disk holds nothing there, or what the prior manifest put there, or a file
that predates the manifest.  The plan looks at one spelling of each lower-cased path.  What it
looks at is spared once no row blocks it; a candidate file that it does not look at is spared only
if the disk happens to be so.
-/

namespace Sencho.ChangePlan

open Verified List Option OrderedMap CodeUnits GitChangePlanOperation

variable {h : Host}

namespace BuildGitChangePlanInput

variable (h : Host) (input : BuildGitChangePlanInput)

def priorFiles : List (Text × PathMeta) :=
  managedFiles h input.priorInputs input.priorBuildContexts

def candidateFiles : List (Text × PathMeta) :=
  managedFiles h input.candidateInputs input.candidateBuildContexts

/-- The digest that an index holds for a lower-cased path. -/
def digestIn (index : OrderedMap Text PathMeta) (fold : Text) : Option Text :=
  (index.get? fold).bind (·.hash)

/-- The disk holds nothing at a path that the prior manifest or an older deploy did not put there. -/
def Spared (live : LiveStack) (path : Text) : Prop :=
  live.observe path = .absent ∨ (∃ file ∈ input.priorFiles h, file.1 = path ∧
      ∃ hash, file.2.hash = some hash ∧ live.observe path = .file hash) ∨
    path ∈ input.legacyOwnedPaths

/-- A candidate path whose own spelling the merge drops, or that no digest describes while it is
a project env file. -/
def Unexamined (path : Text) : Prop :=
  path ∉ mergePaths h (input.priorPaths h) (input.candidatePaths h) ∨
    (digestIn (input.priorIndex h) (h.toLowerCase path) = none ∧
      digestIn (input.candidateIndex h) (h.toLowerCase path) = none ∧
      input.isProjectEnv h (h.toLowerCase path) = true)

end BuildGitChangePlanInput

/-- The prior path that a row modifies, deletes or renames away. -/
def GitChangePlanOperation.changedPath (o : GitChangePlanOperation) : Option Text :=
  match o.op with
  | .modify | .delete => some o.pathKey
  | .rename => o.fromPath
  | _ => none

/-- The path that a row deletes or renames away. -/
def GitChangePlanOperation.removedPath (o : GitChangePlanOperation) : Option Text :=
  match o.op with
  | .delete => some o.pathKey
  | .rename => o.fromPath
  | _ => none

/-- Applying the candidate destroys nothing, and the plan removes only what Sencho may remove. -/
structure Spares (h : Host) (input : BuildGitChangePlanInput) (live : LiveStack)
    (plan : GitChangePlan) : Prop where
  candidate : ∀ file ∈ input.candidateFiles h, input.Spared h live file.1
  changed : ∀ o ∈ plan.operations, ∀ path, o.changedPath = some path → input.Spared h live path
  removed : ∀ o ∈ plan.operations, ∀ path, o.removedPath = some path →
    ∃ file ∈ input.priorFiles h, file.1 = path ∧ file.2.deletionAuthority = some .sencho

theorem mergePaths_eq (prior candidate : List Text) (rel : Text) :
    rel ∈ mergePaths h prior candidate ↔
      ∃ fold, (prior ++ candidate).find? (fun r => h.toLowerCase r = fold) = some rel := by
  unfold mergePaths Host.sortPaths
  rw [mem_insertionSort, mem_values_iff]
  simp only [get?_setNew, get?_empty, none_or, Option.map_id, id_eq]

theorem mem_of_find_fold {paths : List Text} {fold rel : Text}
    (hfind : paths.find? (fun r => h.toLowerCase r = fold) = some rel) :
    rel ∈ paths ∧ h.toLowerCase rel = fold := by
  have hmem := mem_of_find?_eq_some hfind
  exact ⟨hmem, by simpa using find?_some hfind⟩

variable {prior candidate : List Text}

/-- A merge keeps one spelling of each lower-cased path. -/
theorem mergePaths_inj {a b : Text}
    (ha : a ∈ mergePaths h prior candidate) (hb : b ∈ mergePaths h prior candidate)
    (hfold : h.toLowerCase a = h.toLowerCase b) : a = b := by
  obtain ⟨fa, hfa⟩ := (mergePaths_eq prior candidate a).mp ha
  obtain ⟨fb, hfb⟩ := (mergePaths_eq prior candidate b).mp hb
  have hka := (mem_of_find_fold hfa).2
  have hkb := (mem_of_find_fold hfb).2
  have hff : fa = fb := by rw [← hka, ← hkb, hfold]
  rw [hff, hfb] at hfa
  exact (some.inj hfa).symm

/-- Every lower-cased path of the first list is kept, in a spelling of that list. -/
theorem exists_kept_left {prior : List Text} (candidate : List Text) {rel : Text}
    (hrel : rel ∈ prior) :
    ∃ kept ∈ prior, kept ∈ mergePaths h prior candidate ∧
      h.toLowerCase kept = h.toLowerCase rel := by
  cases hfind : prior.find? fun r => h.toLowerCase r = h.toLowerCase rel with
  | none =>
    have hnone := find?_eq_none.mp hfind rel hrel
    simp at hnone
  | some kept =>
    have hkept := mem_of_find_fold hfind
    refine ⟨kept, hkept.1, ?_, hkept.2⟩
    apply (mergePaths_eq prior candidate kept).mpr
    refine ⟨h.toLowerCase rel, ?_⟩
    rw [find?_append, hfind]
    rfl

/-- A merge of a list with one spelling of each path keeps that list. -/
theorem mem_mergePaths_of_left {rel : Text}
    (hone : ∀ a ∈ prior, ∀ b ∈ prior, h.toLowerCase a = h.toLowerCase b → a = b)
    (hrel : rel ∈ prior) : rel ∈ mergePaths h prior candidate := by
  obtain ⟨kept, hkept, hmem, hfold⟩ := exists_kept_left candidate hrel
  have heq : kept = rel := hone kept hkept rel hrel hfold
  rw [← heq]
  exact hmem

theorem collectManifestFilePaths_inj {inputs : List ComposeInputEntry}
    {buildContexts : List BuildContextPlan} {a b : Text}
    (ha : a ∈ collectManifestFilePaths h inputs buildContexts)
    (hb : b ∈ collectManifestFilePaths h inputs buildContexts)
    (hfold : h.toLowerCase a = h.toLowerCase b) : a = b := by
  obtain ⟨fa, hfa⟩ := (mem_collectManifestFilePaths h inputs buildContexts a).mp ha
  obtain ⟨fb, hfb⟩ := (mem_collectManifestFilePaths h inputs buildContexts b).mp hb
  obtain ⟨filea, hlasta, heqa⟩ := map_eq_some_iff.mp hfa
  obtain ⟨fileb, hlastb, heqb⟩ := map_eq_some_iff.mp hfb
  have hka := (lastFile_mem h hlasta).2
  have hkb := (lastFile_mem h hlastb).2
  rw [heqa] at hka
  rw [heqb] at hkb
  have hff : fa = fb := by rw [← hka, ← hkb, hfold]
  rw [hff, hlastb] at hlasta
  rw [← heqa, ← heqb, some.inj hlasta]

variable {path : Text}

namespace BuildGitChangePlanInput

variable {input : BuildGitChangePlanInput} {extras : List Text}

/-- A path that the merge of the two manifests keeps is looked at. -/
theorem mem_planPaths (hkept : path ∈ mergePaths h (input.priorPaths h) (input.candidatePaths h)) :
    path ∈ input.planPaths h extras :=
  mem_mergePaths_of_left (fun _ ha _ hb hfold => mergePaths_inj ha hb hfold) hkept

/-- What the plan looks at under a path of the prior manifest is the prior spelling, and the
prior index describes it. -/
theorem prior_spelling {entry : PathMeta} (hpath : path ∈ input.planPaths h extras)
    (hent : (input.priorIndex h).get? (h.toLowerCase path) = some entry) :
    (path, entry) ∈ input.priorFiles h := by
  have hindex := hent
  unfold priorIndex at hindex
  rw [get?_indexPaths] at hindex
  obtain ⟨file, hlast, hfile⟩ := map_eq_some_iff.mp hindex
  obtain ⟨hmem, hfold⟩ := lastFile_mem h hlast
  have hprior : file.1 ∈ input.priorPaths h := by
    apply (mem_collectManifestFilePaths h _ _ file.1).mpr
    exact ⟨h.toLowerCase path, by rw [hlast]; rfl⟩
  have hone : ∀ a ∈ input.priorPaths h, ∀ b ∈ input.priorPaths h,
      h.toLowerCase a = h.toLowerCase b → a = b := fun _ ha _ hb hab =>
    collectManifestFilePaths_inj ha hb hab
  have hkept : file.1 ∈ mergePaths h (input.priorPaths h) (input.candidatePaths h) :=
    mem_mergePaths_of_left hone hprior
  have heq : file.1 = path := mergePaths_inj (mem_planPaths hkept) hpath hfold
  have hpair : file = (path, entry) := Prod.ext heq hfile
  rw [← hpair]
  exact hmem

end BuildGitChangePlanInput

/-- What the disk holds at a path that a plan may act on. -/
def StackPath.digest : StackPath → Option Text
  | .file sha256 => some sha256
  | _ => none

/-- What is known of a path whose row does not block the plan. -/
structure Open (args : ClassifyArgs) (kind : StackPath) (o : GitChangePlanOperation) : Prop where
  path : o.pathKey = args.pathKey
  readable : kind = .absent ∨ ∃ sha256, kind = .file sha256
  /-- The rows by which a prior path changes. -/
  prior : o.op = .modify ∨ o.op = .delete → ∃ hash, args.priorHash = some hash ∧ kind = .file hash
  authority : o.op = .delete → args.prior.bind (·.deletionAuthority) = some .sencho
  notRename : o.op ≠ .rename
  /-- The ways a path that has a candidate entry, or none, gets through. -/
  passed : (∃ hash, args.priorHash = some hash ∧ kind = .file hash) ∨
    (args.priorHash = none ∧ args.candidateHash = none ∧ args.isProjectEnv = true) ∨
    args.mode = .create ∨ kind = .absent ∨ args.pathKey ∈ args.legacyOwned

variable {args : ClassifyArgs} {o : GitChangePlanOperation} {ops : List GitChangePlanOperation}
  {kind : StackPath}

/-- A branch that blocks the plan is not the one taken. -/
theorem not_blocked {c : Prop} [Decidable c] {x y : GitChangePlanOperation}
    (hrow : (if c then x else y) = o) (hx : x.op.blocking = true) (hopen : o.op.blocking = false) :
    ¬c ∧ y = o := by
  by_cases hc : c
  · rw [if_pos hc] at hrow
    rw [hrow, hopen] at hx
    exact nomatch hx
  · rw [if_neg hc] at hrow
    exact ⟨hc, hrow⟩

section

variable (hread : kind = .absent ∨ ∃ sha256, kind = .file sha256)
include hread

theorem classifyCandidateOnly_open (hrow : classifyCandidateOnly h args kind.digest = o)
    (hopen : o.op.blocking = false) : Open args kind o := by
  unfold classifyCandidateOnly at hrow
  by_cases hadd : args.mode = .create ∨ kind.digest = none ∨ args.pathKey ∈ args.legacyOwned
  · rw [if_pos hadd] at hrow
    subst hrow
    refine ⟨rfl, hread, ?_, ?_, ?_, ?_⟩
    · rintro (hop | hop) <;> exact nomatch hop
    · intro hop
      exact nomatch hop
    · intro hop
      exact nomatch hop
    · rcases hadd with hmode | hnone | hlegacy
      · exact .inr (.inr (.inl hmode))
      · rcases hread with habsent | ⟨sha256, hfile⟩
        · exact .inr (.inr (.inr (.inl habsent)))
        · rw [hfile] at hnone
          exact nomatch hnone
      · exact .inr (.inr (.inr (.inr hlegacy)))
  · rw [if_neg hadd] at hrow
    subst hrow
    exact nomatch hopen

theorem classifyReadable_open (hrow : classifyReadable h args kind.digest = o)
    (hopen : o.op.blocking = false) : Open args kind o := by
  have hfile : ∀ hash, kind.digest = some hash → kind = .file hash := by
    intro hash hdigest
    rcases hread with habsent | ⟨sha256, hk⟩
    · rw [habsent] at hdigest
      exact nomatch hdigest
    · rw [hk] at hdigest ⊢
      exact congrArg StackPath.file (some.inj hdigest)
  unfold classifyReadable at hrow
  obtain ⟨hreviewed, hrow⟩ := not_blocked hrow rfl hopen
  cases hprior : args.priorHash with
  | some priorHash =>
    cases hcand : args.candidateHash with
    | some candidateHash =>
      simp only [hprior, hcand] at hrow
      obtain ⟨hnone, hrow⟩ := not_blocked hrow rfl hopen
      obtain ⟨hne, hrow⟩ := not_blocked hrow rfl hopen
      have hkind : kind = .file priorHash := hfile priorHash (not_not.mp hne)
      by_cases hsame : candidateHash = priorHash
      · rw [if_pos hsame] at hrow
        subst hrow
        exact ⟨rfl, hread, fun _ => ⟨priorHash, hprior, hkind⟩, fun hop => (nomatch hop),
          fun hop => (nomatch hop), .inl ⟨priorHash, hprior, hkind⟩⟩
      · rw [if_neg hsame] at hrow
        subst hrow
        exact ⟨rfl, hread, fun _ => ⟨priorHash, hprior, hkind⟩, fun hop => (nomatch hop),
          fun hop => (nomatch hop), .inl ⟨priorHash, hprior, hkind⟩⟩
    | none =>
      simp only [hprior, hcand] at hrow
      obtain ⟨hnone, hrow⟩ := not_blocked hrow rfl hopen
      obtain ⟨hauth, hrow⟩ := not_blocked hrow rfl hopen
      obtain ⟨hne, hrow⟩ := not_blocked hrow rfl hopen
      have hkind : kind = .file priorHash := hfile priorHash (not_not.mp hne)
      subst hrow
      exact ⟨rfl, hread, fun _ => ⟨priorHash, hprior, hkind⟩, fun _ => not_not.mp hauth,
        fun hop => (nomatch hop), .inl ⟨priorHash, hprior, hkind⟩⟩
  | none =>
    cases hcand : args.candidateHash with
    | some candidateHash =>
      simp only [hprior, hcand] at hrow
      exact classifyCandidateOnly_open hread hrow hopen
    | none =>
      simp only [hprior, hcand] at hrow
      by_cases henv : args.isProjectEnv = true
      · rw [if_pos henv] at hrow
        obtain ⟨hnone, hrow⟩ := not_blocked hrow rfl hopen
        subst hrow
        refine ⟨rfl, hread, ?_, fun hop => (nomatch hop), fun hop => (nomatch hop),
          .inr (.inl ⟨hprior, hcand, henv⟩)⟩
        rintro (hop | hop) <;> exact nomatch hop
      · rw [if_neg henv] at hrow
        obtain ⟨hextra, hrow⟩ := not_blocked hrow rfl hopen
        exact classifyCandidateOnly_open hread hrow hopen

end

theorem classifyPath_open (hrow : classifyPath h args kind = some o)
    (hopen : o.op.blocking = false) :
    Open args kind o := by
  cases kind with
  | absent => exact classifyReadable_open (.inl rfl) (some.inj hrow) hopen
  | file sha256 => exact classifyReadable_open (.inr ⟨sha256, rfl⟩) (some.inj hrow) hopen
  | unreadable => exact nomatch hrow
  | directory | symlink | special | escape =>
    cases some.inj hrow
    exact nomatch hopen

/-- A rename of two rows of a plan. -/
def PairOf (ops : List GitChangePlanOperation) (o : GitChangePlanOperation) : Prop :=
  ∃ del ∈ ops, ∃ add ∈ ops, del.op = .delete ∧ add.op = .add ∧ o = renameRow del add

theorem mem_pairRenames (ho : o ∈ pairRenames h ops) : o ∈ ops ∨ PairOf ops o := by
  unfold pairRenames Host.sortRows at ho
  rw [mem_insertionSort, mem_append] at ho
  rcases ho with hkept | hrename
  · exact .inl (mem_filter.mp hkept).1
  · obtain ⟨pairs, hst, _⟩ := paired_pairAll h ops
    rw [hst.renames] at hrename
    obtain ⟨pair, hpair, heq⟩ := mem_map.mp hrename
    obtain ⟨⟨hd, hdelete⟩, ⟨ha, hadd⟩, _⟩ := hst.joined pair hpair
    exact .inr ⟨pair.1, hd, pair.2, ha, hdelete, hadd, heq.symm⟩

/-- No rename hides a row that blocks. -/
theorem blocking_kept (ho : o ∈ ops) (hblock : o.op.blocking = true) : o ∈ pairRenames h ops := by
  have hdel : o.op ≠ .delete := fun hop => by rw [hop] at hblock; exact nomatch hblock
  have hadd : o.op ≠ .add := fun hop => by rw [hop] at hblock; exact nomatch hblock
  have htakes : (pairAll h ops).takes o = false := by
    unfold Pairing.takes
    simp [hdel, hadd]
  unfold pairRenames Host.sortRows
  rw [mem_insertionSort]
  exact mem_append_left _ (mem_filter.mpr ⟨ho, by rw [htakes]; rfl⟩)

/-- Where a row of optional results is had, each item gives one of them and each comes from one. -/
theorem mem_of_mapM {α β : Type} {f : α → Option β} {items : List α} {results : List β}
    (hrun : items.mapM f = some results) :
    (∀ a ∈ items, ∃ b ∈ results, f a = some b) ∧ ∀ b ∈ results, ∃ a ∈ items, f a = some b := by
  induction items generalizing results with
  | nil =>
    have hnil : results = [] := by simpa [eq_comm] using hrun
    rw [hnil]
    exact ⟨fun a ha => (nomatch ha), fun b hb => (nomatch hb)⟩
  | cons a items ih =>
    rw [mapM_cons] at hrun
    obtain ⟨b, hb, hrest⟩ := bind_eq_some_iff.mp hrun
    obtain ⟨bs, hbs, hcons⟩ := bind_eq_some_iff.mp hrest
    have hresults : results = b :: bs := (some.inj hcons).symm
    obtain ⟨hto, hfrom⟩ := ih hbs
    rw [hresults]
    constructor
    · intro x hx
      rcases mem_cons.mp hx with rfl | hx
      · exact ⟨b, mem_cons_self, hb⟩
      · obtain ⟨y, hy, hfy⟩ := hto x hx
        exact ⟨y, mem_cons_of_mem b hy, hfy⟩
    · intro y hy
      rcases mem_cons.mp hy with rfl | hy
      · exact ⟨a, mem_cons_self, hb⟩
      · obtain ⟨x, hx, hfx⟩ := hfrom y hy
        exact ⟨x, mem_cons_of_mem a hx, hfx⟩

/-- A plan is made of one row for each path it looks at. -/
structure Rows (h : Host) (input : BuildGitChangePlanInput) (live : LiveStack)
    (plan : GitChangePlan) (extras : List Text) (classified : List GitChangePlanOperation) :
    Prop where
  looked : ∀ path ∈ input.planPaths h extras, ∃ o ∈ classified,
    classifyPath h (input.argsOf h extras path) (live.observe path) = some o
  row : ∀ o ∈ classified, ∃ path ∈ input.planPaths h extras,
    classifyPath h (input.argsOf h extras path) (live.observe path) = some o
  operations : plan.operations = pairRenames h classified ++ (classifyInvocation h input).1.toList
  blocked : plan.blocked = plan.operations.any (·.op.blocking)

variable {input : BuildGitChangePlanInput}

theorem build_rows {live : LiveStack} {plan : GitChangePlan}
    (hbuild : build h input live = some plan) :
    ∃ extras classified, Rows h input live plan extras classified := by
  obtain ⟨classified, hclassified, hplan⟩ := bind_eq_some_iff.mp hbuild
  obtain ⟨extras, _, hrows⟩ := bind_eq_some_iff.mp hclassified
  obtain ⟨hlooked, hrow⟩ := mem_of_mapM hrows
  have heq := some.inj hplan
  exact ⟨extras, classified, hlooked, hrow, by rw [← heq], by rw [← heq]⟩

section Unblocked

variable {input : BuildGitChangePlanInput} {live : LiveStack} {plan : GitChangePlan}
  {extras : List Text} {classified : List GitChangePlanOperation}
variable {o : GitChangePlanOperation} {path : Text}

section

variable (hrows : Rows h input live plan extras classified) (hopen : plan.blocked = false)
  (ho : o ∈ classified)
include hrows hopen ho

/-- No row of an unblocked plan blocks, before or after the renames. -/
theorem Rows.unblocked : o.op.blocking = false := by
  cases hblock : o.op.blocking with
  | false => rfl
  | true =>
    have hmem : o ∈ plan.operations := by
      rw [hrows.operations]
      exact mem_append_left _ (blocking_kept ho hblock)
    have hany : plan.operations.any (·.op.blocking) = true :=
      any_eq_true.mpr ⟨o, hmem, hblock⟩
    rw [hrows.blocked, hany] at hopen
    exact nomatch hopen

/-- A row of an unblocked plan, with what is known of its path. -/
theorem Rows.opened : o.pathKey ∈ input.planPaths h extras ∧
      Open (input.argsOf h extras o.pathKey) (live.observe o.pathKey) o := by
  obtain ⟨path, hpath, hrow⟩ := hrows.row o ho
  have hrowOpen := classifyPath_open hrow (hrows.unblocked hopen ho)
  have hkey : o.pathKey = path := hrowOpen.path
  rw [hkey]
  exact ⟨hpath, hrowOpen⟩

end

section

variable {hash : Text} (hpath : path ∈ input.planPaths h extras)
  (hhash : (input.argsOf h extras path).priorHash = some hash)
include hpath hhash

/-- The digest and the authority that a row reads of the prior manifest are those of its path. -/
theorem prior_of_row : ∃ file ∈ input.priorFiles h, file.1 = path ∧ file.2.hash = some hash ∧
      (input.argsOf h extras path).prior.bind (·.deletionAuthority) = file.2.deletionAuthority := by
  obtain ⟨entry, hent, hhash'⟩ := bind_eq_some_iff.mp hhash
  have hmem := input.prior_spelling hpath hent
  refine ⟨(path, entry), hmem, rfl, hhash', ?_⟩
  rw [hent]
  rfl

theorem spared_of_prior (hlive : live.observe path = .file hash) : input.Spared h live path := by
  obtain ⟨file, hfile, hkey, hfileHash, _⟩ := prior_of_row hpath hhash
  exact .inr (.inl ⟨file, hfile, hkey, hash, hfileHash, hlive⟩)

end

section

variable (hrows : Rows h input live plan extras classified)
include hrows

/-- The row that a row of the plan removes a path by. -/
theorem changed_row (ho : o ∈ plan.operations) (hchanged : o.changedPath = some path)
    (hopen : plan.blocked = false) :
    ∃ row ∈ classified, row.pathKey = path ∧ (row.op = .modify ∨ row.op = .delete) ∧
      (o.removedPath = some path → row.op = .delete) := by
  rw [hrows.operations, mem_append] at ho
  rcases ho with hpaired | hinvocation
  · rcases mem_pairRenames hpaired with hkept | ⟨del, hdel, add, _, hdelOp, _, heq⟩
    · have hnot := (hrows.opened hopen hkept).2.notRename
      refine ⟨o, hkept, ?_⟩
      unfold changedPath at hchanged
      unfold removedPath
      cases hop : o.op with
      | modify =>
        rw [hop] at hchanged
        exact ⟨some.inj hchanged, .inl rfl, fun hremoved => nomatch hremoved⟩
      | delete =>
        rw [hop] at hchanged
        exact ⟨some.inj hchanged, .inr rfl, fun _ => rfl⟩
      | rename => exact absurd hop hnot
      | add | unchanged | localModified | localMissing | typeChanged | unmanagedCollision |
        invocation =>
          rw [hop] at hchanged
          exact nomatch hchanged
    · subst heq
      exact ⟨del, hdel, some.inj hchanged, .inr hdelOp, fun _ => hdelOp⟩
  · have hop : o.op = .invocation := by
      unfold classifyInvocation at hinvocation
      cases hprior : input.priorManifest with
      | none =>
        rw [hprior] at hinvocation
        exact nomatch hinvocation
      | some prior =>
        rw [hprior] at hinvocation
        by_cases hsame : input.liveInvocation = prior.invocation ∧
            input.candidateInvocation = prior.invocation
        · simp only [hsame, and_self, if_true] at hinvocation
          exact nomatch hinvocation
        · simp only [if_neg hsame] at hinvocation
          rw [mem_toList] at hinvocation
          rw [← some.inj hinvocation]
          rfl
    unfold changedPath at hchanged
    rw [hop] at hchanged
    exact nomatch hchanged

/-- A candidate file that a row vouches for is spared. -/
theorem spared_of_examined (hmode : input.mode ≠ .create) (hopen : plan.blocked = false)
    (hexamined : ¬ input.Unexamined h path) : input.Spared h live path := by
  have hkept : path ∈ mergePaths h (input.priorPaths h) (input.candidatePaths h) := by
    by_contra hnot
    exact hexamined (.inl hnot)
  have hpath : path ∈ input.planPaths h extras := input.mem_planPaths hkept
  obtain ⟨o, ho, hrow⟩ := hrows.looked path hpath
  have hrowOpen := classifyPath_open hrow (hrows.unblocked hopen ho)
  rcases hrowOpen.passed with ⟨hash, hhash, hlive⟩ | hblank | hcreate | habsent | hlegacy
  · exact spared_of_prior hpath hhash hlive
  · exact absurd (.inr hblank) hexamined
  · exact absurd hcreate hmode
  · exact .inl habsent
  · exact .inr (.inr hlegacy)

theorem Rows.changed_spared (hopen : plan.blocked = false) (ho : o ∈ plan.operations)
    (hchanged : o.changedPath = some path) : input.Spared h live path := by
  obtain ⟨row, hrow, hkey, hop, _⟩ := changed_row hrows ho hchanged hopen
  obtain ⟨hpath, hrowOpen⟩ := hrows.opened hopen hrow
  obtain ⟨hash, hhash, hlive⟩ := hrowOpen.prior hop
  rw [hkey] at hpath hhash hlive
  exact spared_of_prior hpath hhash hlive

end

/-- What is removed is changed. -/
theorem changedPath_of_removedPath (hremoved : o.removedPath = some path) :
    o.changedPath = some path := by
  unfold removedPath at hremoved
  unfold changedPath
  cases hop : o.op with
  | delete | rename =>
    rw [hop] at hremoved
    exact hremoved
  | add | modify | unchanged | localModified | localMissing | typeChanged | unmanagedCollision |
    invocation =>
      rw [hop] at hremoved
      exact nomatch hremoved

theorem Rows.removed_authorized (hrows : Rows h input live plan extras classified)
    (hopen : plan.blocked = false) (ho : o ∈ plan.operations) (hremoved : o.removedPath = some path) :
    ∃ file ∈ input.priorFiles h, file.1 = path ∧ file.2.deletionAuthority = some .sencho := by
  obtain ⟨row, hrow, hkey, _, hdelete⟩ :=
    changed_row hrows ho (changedPath_of_removedPath hremoved) hopen
  obtain ⟨hpath, hrowOpen⟩ := hrows.opened hopen hrow
  have hop := hdelete hremoved
  obtain ⟨hash, hhash, _⟩ := hrowOpen.prior (.inr hop)
  have hauth := hrowOpen.authority hop
  rw [hkey] at hpath hhash hauth
  obtain ⟨file, hfile, hfileKey, _, hfileAuth⟩ := prior_of_row hpath hhash
  exact ⟨file, hfile, hfileKey, by rw [← hfileAuth, hauth]⟩

end Unblocked

/-- An unblocked plan spares what it touches exactly when the candidate files that no row vouches
for are spared. -/
theorem unblocked_spares_iff {live : LiveStack}
    {plan : GitChangePlan} (hbuild : build h input live = some plan)
    (hmode : input.mode ≠ .create) (hopen : plan.blocked = false) :
    Spares h input live plan ↔ ∀ file ∈ input.candidateFiles h, input.Unexamined h file.1 →
        input.Spared h live file.1 := by
  obtain ⟨extras, classified, hrows⟩ := build_rows hbuild
  constructor
  · intro hspares file hfile _
    exact hspares.candidate file hfile
  · intro hunexamined
    constructor
    · intro file hfile
      by_cases hlook : input.Unexamined h file.1
      · exact hunexamined file hfile hlook
      · exact spared_of_examined hrows hmode hopen hlook
    · intro o ho path hchanged
      exact hrows.changed_spared hopen ho hchanged
    · intro o ho path hremoved
      exact hrows.removed_authorized hopen ho hremoved

theorem classifyPath_key (hrow : classifyPath h args kind = some o) : o.pathKey = args.pathKey := by
  have hread : ∀ liveHash, (classifyReadable h args liveHash).pathKey = args.pathKey := by
    intro liveHash
    unfold classifyReadable classifyCandidateOnly
    repeat' split
    all_goals rfl
  cases kind with
  | unreadable => cases hrow
  | absent | file =>
    cases hrow
    exact hread _
  | directory | symlink | special | escape =>
    cases hrow
    rfl

/-- No two merged paths are one up to letter case. -/
theorem nodup_mergePaths (prior candidate : List Text) :
    ((mergePaths h prior candidate).map h.toLowerCase).Nodup := by
  let m := setNew h.toLowerCase id .empty (prior ++ candidate)
  have hfold : ∀ e ∈ m.entries, h.toLowerCase e.2 = e.1 := by
    intro e he
    have hget : m.get? e.1 = some e.2 := (get?_eq_some_iff m e.1 e.2).mpr he
    rw [get?_setNew, get?_empty, Option.none_or, Option.map_id] at hget
    exact of_decide_eq_true (find?_some (p := fun r => decide (h.toLowerCase r = e.1)) hget)
  have hkeys : m.values.map h.toLowerCase = m.entries.map Prod.fst := by
    unfold values
    rw [List.map_map]
    exact map_congr_left hfold
  exact (((perm_insertionSort _ m.values).map h.toLowerCase).nodup_iff).mpr (hkeys ▸ m.nodup)

theorem keys_of_mapM {paths : List Text} {rows : List GitChangePlanOperation}
    {f : Text → Option GitChangePlanOperation} (hkey : ∀ p o, f p = some o → o.pathKey = p)
    (hrows : paths.mapM f = some rows) : rows.map (·.pathKey) = paths := by
  induction paths generalizing rows with
  | nil =>
    rw [mapM_nil] at hrows
    cases hrows
    rfl
  | cons p paths ih =>
    rw [mapM_cons] at hrows
    obtain ⟨o, ho, hrest⟩ := bind_eq_some_iff.mp hrows
    obtain ⟨os, hos, hcons⟩ := bind_eq_some_iff.mp hrest
    cases hcons
    rw [map_cons, hkey p o ho, ih hos]

/-- A path of either list has a spelling that the merge keeps. -/
theorem exists_kept (hpath : path ∈ prior ++ candidate) :
    ∃ kept ∈ mergePaths h prior candidate, h.toLowerCase kept = h.toLowerCase path := by
  have hsome : ((prior ++ candidate).find? fun r =>
      h.toLowerCase r = h.toLowerCase path).isSome = true :=
    find?_isSome.mpr ⟨path, hpath, decide_eq_true rfl⟩
  obtain ⟨kept, hfind⟩ := isSome_iff_exists.mp hsome
  exact ⟨kept, (mergePaths_eq prior candidate kept).mpr ⟨_, hfind⟩, (mem_of_find_fold hfind).2⟩

/-- A path is a file's. -/
theorem file_of_path {inputs : List ComposeInputEntry} {buildContexts : List BuildContextPlan}
    (hpath : path ∈ collectManifestFilePaths h inputs buildContexts) :
    ∃ file ∈ managedFiles h inputs buildContexts, file.1 = path := by
  obtain ⟨_, hlast⟩ := (mem_collectManifestFilePaths h inputs buildContexts path).mp hpath
  obtain ⟨file, hlast, hkey⟩ := map_eq_some_iff.mp hlast
  exact ⟨file, (lastFile_mem h hlast).1, hkey⟩

/-- Where both manifests spell each lower-cased path one way and every candidate file has a
digest, a row vouches for every candidate file. -/
theorem examined_of_one_spelling {file : Text × PathMeta}
    (hone : ∀ a ∈ input.priorFiles h ++ input.candidateFiles h,
      ∀ b ∈ input.priorFiles h ++ input.candidateFiles h, foldOf h a = foldOf h b → a.1 = b.1)
    (hhash : ∀ file ∈ input.candidateFiles h, file.2.hash ≠ none)
    (hfile : file ∈ input.candidateFiles h) : ¬ input.Unexamined h file.1 := by
  obtain ⟨last, hlast⟩ : ∃ last, lastFile h input.candidateInputs input.candidateBuildContexts
      (foldOf h file) = some last :=
    isSome_iff_exists.mp (find?_isSome.mpr
      ⟨file, mem_reverse.mpr hfile, decide_eq_true rfl⟩)
  obtain ⟨hmem, hfold⟩ := lastFile_mem h hlast
  rintro (hdropped | ⟨_, hnone, _⟩)
  · have hpath : last.1 ∈ input.candidatePaths h :=
      (mem_collectManifestFilePaths h _ _ _).mpr ⟨foldOf h file, by rw [hlast]; rfl⟩
    obtain ⟨kept, hkept, hsame⟩ := exists_kept (h := h)
      (mem_append_right (input.priorPaths h) hpath)
    have howned : ∃ owner ∈ input.priorFiles h ++ input.candidateFiles h, owner.1 = kept := by
      obtain ⟨fold, hfind⟩ := (mergePaths_eq _ _ _).mp hkept
      rcases mem_append.mp (mem_of_find_fold hfind).1 with hprior | hcand
      · obtain ⟨owner, howner, hkey⟩ := file_of_path hprior
        exact ⟨owner, mem_append_left _ howner, hkey⟩
      · obtain ⟨owner, howner, hkey⟩ := file_of_path hcand
        exact ⟨owner, mem_append_right _ howner, hkey⟩
    obtain ⟨owner, howner, rfl⟩ := howned
    exact hdropped (hone owner howner file (mem_append_right _ hfile) (hsame.trans hfold) ▸ hkept)
  · unfold BuildGitChangePlanInput.digestIn BuildGitChangePlanInput.candidateIndex at hnone
    rw [get?_indexPaths] at hnone
    rw [show lastFile h _ _ (h.toLowerCase file.1) = some last from hlast] at hnone
    exact hhash last hmem hnone

theorem exists_planPath (extras : List Text)
    (hpath : path ∈ (input.priorPaths h ++ input.candidatePaths h) ++ input.projectEnvFiles) :
    ∃ kept ∈ input.planPaths h extras, h.toLowerCase kept = h.toLowerCase path := by
  rcases mem_append.mp hpath with howned | henv
  · obtain ⟨kept, hmem, hfold⟩ := exists_kept (h := h) howned
    exact ⟨kept, input.mem_planPaths hmem, hfold⟩
  · obtain ⟨env, hmem, hfold⟩ := exists_kept (h := h) (mem_append_right extras henv)
    obtain ⟨kept, hkept, hfold'⟩ := exists_kept (h := h) (mem_append_right
      (mergePaths h (input.priorPaths h) (input.candidatePaths h)) hmem)
    exact ⟨kept, hkept, hfold'.trans hfold⟩

theorem expand_classifyInvocation (ho : (classifyInvocation h input).1 = some o) :
    expand o = [told o] ∧ (told o).1 = .invocation := by
  unfold classifyInvocation at ho
  split at ho
  · cases ho
  · split at ho
    · cases ho
    · cases ho
      exact ⟨rfl, rfl⟩

/-- However pairing joins the rows, a plan tells of no path twice up to letter case, and it tells
of every path that either manifest owns and of every project env file. -/
theorem told_once (hbuild : build h input live = some plan) :
    (plan.operations.flatMap expand).Pairwise (fun a b => a.1 ≠ .invocation →
        b.1 ≠ .invocation → h.toLowerCase a.2.1 ≠ h.toLowerCase b.2.1) ∧
      ∀ path ∈ (input.priorPaths h ++ input.candidatePaths h) ++ input.projectEnvFiles,
        ∃ row ∈ plan.operations.flatMap expand, h.toLowerCase row.2.1 = h.toLowerCase path := by
  obtain ⟨classified, hclassified, hplan⟩ := bind_eq_some_iff.mp hbuild
  obtain ⟨extras, _, hrows⟩ := bind_eq_some_iff.mp hclassified
  have hpaths := keys_of_mapM (fun p o ho => classifyPath_key ho) hrows
  have hfolds : ((classified.map (·.pathKey)).map h.toLowerCase).Nodup := by
    rw [hpaths]
    exact nodup_mergePaths _ _
  have hrow : ∀ o ∈ classified, o.op ≠ .rename ∧ (o.op = .delete → o.candidateHash = none) ∧
      (o.op = .add → o.priorHash = none) := by
    intro o ho
    obtain ⟨path, _, hpath⟩ := (mem_of_mapM hrows).2 o ho
    exact classifyPath_row hpath
  have hperm := meaning_of_classified (h := h) ⟨hfolds.of_map _, fun o ho => (hrow o ho).1,
    fun o ho => (hrow o ho).2.1, fun o ho => (hrow o ho).2.2⟩
  have htold : plan.operations.flatMap expand = (pairRenames h classified).flatMap expand ++
      (classifyInvocation h input).1.toList.flatMap expand := by
    rw [← some.inj hplan]
    exact flatMap_append
  rw [htold]
  constructor
  · have hmapped : (((pairRenames h classified).flatMap expand).map
        fun row => h.toLowerCase row.2.1).Nodup := by
      refine ((hperm.map _).nodup_iff).mpr ?_
      rw [List.map_map] at hfolds ⊢
      exact hfolds
    cases hone : (classifyInvocation h input).1 with
    | none =>
      rw [toList_none, flatMap_nil, append_nil]
      exact (pairwise_map.mp hmapped).imp fun hne _ _ => hne
    | some o =>
      obtain ⟨hexpand, hop⟩ := expand_classifyInvocation hone
      rw [toList_some, flatMap_singleton, hexpand]
      refine pairwise_append.mpr ⟨(pairwise_map.mp hmapped).imp fun hne _ _ => hne,
        pairwise_singleton _ _, fun a _ b hb _ hnot => absurd ?_ hnot⟩
      rw [mem_singleton.mp hb]
      exact hop
  · intro path hpath
    obtain ⟨kept, hmem, hfold⟩ := exists_planPath extras hpath
    obtain ⟨o, ho, hclass⟩ := (mem_of_mapM hrows).1 kept hmem
    refine ⟨told o, mem_append_left _ (hperm.mem_iff.mpr (mem_map_of_mem ho)), ?_⟩
    have hkey : o.pathKey = kept := classifyPath_key hclass
    show h.toLowerCase o.pathKey = _
    rw [hkey, hfold]

section CaseOnly

def lowerAscii (c : UInt16) : UInt16 := if 0x41 ≤ c ∧ c ≤ 0x5a then c + 0x20 else c

/-- A host for paths of plain letters. -/
def asciiHost : Host where
  toLowerCase := map lowerAscii
  localeLe := fun a b => JsString.unitsLe (a.map fun c => (lowerAscii c).toNat)
    (b.map fun c => (lowerAscii c).toNat)
  sha256OfJson := fun _ => []

def envEntry (path hash : String) : ComposeInputEntry where
  materializedPath := some (text path)
  role := .env
  dependencyKind := .envFile
  ownership := .managed
  provenance := .fetch
  sensitivity := .high
  contentSha256 := some (text hash)
  state := .present
  deletionAuthority := .sencho

/-- The last generation owned `app.env`, and the candidate brings `App.env`. -/
def respelled : BuildGitChangePlanInput where
  commitSha := text "c0ffee"
  mode := .update
  priorManifest := some ⟨[envEntry "app.env" "d1"], [], []⟩
  candidateInputs := [envEntry "App.env" "d2"]
  candidateBuildContexts := []
  candidateInvocation := []
  liveInvocation := []
  legacyOwnedPaths := []
  reviewedLiveHashes := fun _ => none
  projectEnvFiles := []

/-- The stack holds `app.env` as it was deployed, and perhaps a local `App.env`. -/
def stackWith (mine : StackPath) : LiveStack where
  observe := fun path =>
    if path = text "app.env" then .file (text "d1")
    else if path = text "App.env" then mine else .absent
  verifyContextOnDisk := fun _ _ => some []

/-- The plan for a local file at the new spelling is not blocked, and applying it overwrites the
file. -/
theorem respelled_overwrites :
    ∃ plan, build asciiHost respelled (stackWith (.file (text "mine"))) = some plan ∧
      respelled.mode ≠ .create ∧ plan.blocked = false ∧
      ¬ Spares asciiHost respelled (stackWith (.file (text "mine"))) plan := by
  have hsome : (build asciiHost respelled (stackWith (.file (text "mine")))).map (·.blocked) =
      some false := by decide +kernel
  obtain ⟨plan, hplan, hopen⟩ := map_eq_some_iff.mp hsome
  refine ⟨plan, hplan, by decide, hopen, ?_⟩
  intro hspares
  have hmem : (text "App.env", inputMeta (envEntry "App.env" "d2")) ∈
      respelled.candidateFiles asciiHost := by decide +kernel
  rcases hspares.candidate _ hmem with habsent | ⟨file, hfile, hpath, _⟩ | hlegacy
  · exact absurd habsent (by decide +kernel)
  · have hall : (respelled.priorFiles asciiHost).all (fun f => f.1 ≠ text "App.env") = true := by
      decide +kernel
    exact absurd hpath (by simpa using all_eq_true.mp hall file hfile)
  · exact nomatch hlegacy

/-- Without a local file at the new spelling the plan spares the stack. -/
theorem respelled_spares : ∃ plan, build asciiHost respelled (stackWith .absent) = some plan ∧
      plan.blocked = false ∧ Spares asciiHost respelled (stackWith .absent) plan := by
  have hsome : (build asciiHost respelled (stackWith .absent)).map (·.blocked) = some false := by
    decide +kernel
  obtain ⟨plan, hplan, hopen⟩ := map_eq_some_iff.mp hsome
  refine ⟨plan, hplan, hopen, ?_⟩
  apply (unblocked_spares_iff hplan (by decide) hopen).mpr
  intro file hfile _
  have hall : (respelled.candidateFiles asciiHost).all
      (fun f => (stackWith .absent).observe f.1 = .absent) = true := by decide +kernel
  exact .inl (by simpa using all_eq_true.mp hall file hfile)

/-- A second file keeps its content and changes its name. -/
def renamed : BuildGitChangePlanInput :=
  { respelled with
    priorManifest := some ⟨[envEntry "app.env" "d1", envEntry "old.env" "d3"], [], []⟩
    candidateInputs := [envEntry "App.env" "d2", envEntry "new.env" "d3"] }

def renamedStack : LiveStack :=
  { stackWith .absent with
    observe := fun path =>
      if path = text "old.env" then .file (text "d3") else (stackWith .absent).observe path }

/-- A plan with a rename tells of both its sides, and of a path that changes its spelling
once. -/
theorem respelled_told : ∃ plan, build asciiHost renamed renamedStack = some plan ∧
      (∃ o ∈ plan.operations, o.op = .rename) ∧
      (plan.operations.flatMap expand).Pairwise (fun a b => a.1 ≠ .invocation →
          b.1 ≠ .invocation → asciiHost.toLowerCase a.2.1 ≠ asciiHost.toLowerCase b.2.1) ∧
      ∀ path ∈ (renamed.priorPaths asciiHost ++ renamed.candidatePaths asciiHost) ++
          renamed.projectEnvFiles, ∃ row ∈ plan.operations.flatMap expand,
            asciiHost.toLowerCase row.2.1 = asciiHost.toLowerCase path := by
  have hsome : (build asciiHost renamed renamedStack).map
      (fun plan => plan.operations.any fun o => o.op = .rename) = some true := by
    decide +kernel
  obtain ⟨plan, hplan, hrename⟩ := map_eq_some_iff.mp hsome
  exact ⟨plan, hplan, by simpa using hrename, told_once hplan⟩

end CaseOnly

end Sencho.ChangePlan
