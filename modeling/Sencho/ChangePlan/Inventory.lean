import Sencho.Verified.CodeUnits
import Sencho.Verified.OrderedMap
import Mathlib.Data.List.Sort

/-!
# The files of a manifest

A manifest lists inputs and build contexts.  Two readings take its files: the paths it owns, and
an index from a lower-cased path to what the manifest says of it.  Both keep what was last written
under a lower-cased path, so a path and its entry belong together.
-/

namespace Sencho.ChangePlan

open Verified OrderedMap CodeUnits

inductive InputOwnership where
  | managed
  | unmanaged
  deriving DecidableEq

inductive ManifestProvenance where
  | fetch
  | migration
  | adopted
  deriving DecidableEq

inductive InputSensitivity where
  | high
  | medium
  | low
  deriving DecidableEq

inductive InputState where
  | present
  | tombstoned
  deriving DecidableEq

inductive DeletionAuthority where
  | sencho
  | user
  | none
  deriving DecidableEq

inductive InputRole where
  | composePrimary
  | composeAdditional
  | composeOverride
  | env
  | config
  | secret
  | labelFile
  | buildContext
  | dockerfile
  | buildSecret
  | buildAdditionalContext
  | bindMount
  | other
  deriving DecidableEq

inductive InputDependencyKind where
  | explicit
  | implicitOverride
  | «include»
  | includeEnv
  | «extends»
  | envFile
  | interpolationEnv
  | config
  | secret
  | labelFile
  | buildContext
  | dockerfile
  | buildSecret
  | buildAdditionalContext
  | syncEnv
  | bindMount
  deriving DecidableEq

/-- An input of a manifest, with the fields a plan reads. -/
structure ComposeInputEntry where
  materializedPath : Option Text
  role : InputRole
  dependencyKind : InputDependencyKind
  ownership : InputOwnership
  provenance : ManifestProvenance
  sensitivity : InputSensitivity
  contentSha256 : Option Text
  state : InputState
  deletionAuthority : DeletionAuthority

structure ContextFile where
  path : Text
  sha256 : Text

structure BuildContextPlan where
  repoPath : Text
  files : List ContextFile

/-- The role of a row of the plan. -/
inductive PlanRole where
  | input (role : InputRole)
  | buildContextFile
  | invocation
  deriving DecidableEq

structure PathMeta where
  hash : Option Text
  role : PlanRole
  deletionAuthority : Option DeletionAuthority
  sensitivity : InputSensitivity
  ownership : InputOwnership
  provenance : ManifestProvenance
  deriving DecidableEq

/-- What a plan uses of its host: letter case, collation, and the digest of an invocation. -/
structure Host where
  toLowerCase : Text → Text
  localeLe : Text → Text → Bool
  sha256OfJson : List Text → Text

variable (h : Host)

def Host.sortPaths (paths : List Text) : List Text :=
  paths.insertionSort fun a b => h.localeLe a b

def isContextKind (kind : InputDependencyKind) : Bool :=
  kind = .buildContext || kind = .buildAdditionalContext

/-- The path of an input that stands for a file of the manifest. -/
def ownedPath (entry : ComposeInputEntry) : Option Text :=
  if entry.ownership = .managed ∧ entry.state = .present ∧
      isContextKind entry.dependencyKind = false then
    entry.materializedPath
  else none

def contextPath (context : BuildContextPlan) (file : ContextFile) : Text :=
  if context.repoPath = [] then file.path else context.repoPath ++ unit '/' :: file.path

def inputMeta (entry : ComposeInputEntry) : PathMeta where
  hash := entry.contentSha256
  role := .input entry.role
  deletionAuthority := some entry.deletionAuthority
  sensitivity := entry.sensitivity
  ownership := entry.ownership
  provenance := entry.provenance

def contextFileMeta (parentSensitivity : InputSensitivity) (file : ContextFile) : PathMeta where
  hash := some file.sha256
  role := .buildContextFile
  deletionAuthority := some .sencho
  sensitivity := parentSensitivity
  ownership := .managed
  provenance := .fetch

variable (inputs : List ComposeInputEntry) (buildContexts : List BuildContextPlan)

/-- The sensitivity of the contexts that are listed as inputs, by lower-cased path. -/
def contextSensitivity : OrderedMap Text InputSensitivity :=
  inputs.foldl (fun index entry =>
    entry.materializedPath.elim index fun rel =>
      if isContextKind entry.dependencyKind then index.set (h.toLowerCase rel) entry.sensitivity
      else index) .empty

def parentSensitivity (context : BuildContextPlan) : InputSensitivity :=
  ((contextSensitivity h inputs).get? (h.toLowerCase context.repoPath)).getD .medium

/-- Every file that inputs and contexts own, in its own spelling, in the order they are read. -/
def managedFiles : List (Text × PathMeta) :=
  (inputs.filterMap fun entry => (ownedPath entry).map fun rel => (rel, inputMeta entry)) ++
    buildContexts.flatMap fun context =>
      context.files.map fun file =>
        (contextPath context file, contextFileMeta (parentSensitivity h inputs context) file)

def collectManifestFilePaths : List Text :=
  let paths := inputs.foldl (fun paths entry =>
    (ownedPath entry).elim paths fun rel => paths.set (h.toLowerCase rel) rel) empty
  let paths := buildContexts.foldl (fun paths context =>
    context.files.foldl (fun paths file =>
      paths.set (h.toLowerCase (contextPath context file)) (contextPath context file)) paths) paths
  h.sortPaths paths.values

def indexPaths : OrderedMap Text PathMeta :=
  let index := inputs.foldl (fun index entry =>
    (ownedPath entry).elim index fun rel =>
      index.set (h.toLowerCase rel) (inputMeta entry)) empty
  buildContexts.foldl (fun index context =>
    context.files.foldl (fun index file =>
      index.set (h.toLowerCase (contextPath context file))
        (contextFileMeta (parentSensitivity h inputs context) file)) index) index

/-- The lower-cased path of a file. -/
def foldOf (file : Text × PathMeta) : Text := h.toLowerCase file.1

/-- The file that was last read under a lower-cased path. -/
def lastFile (fold : Text) : Option (Text × PathMeta) :=
  lastAt (foldOf h) (managedFiles h inputs buildContexts) fold

section Readings

variable {α : Type} (value : Text × PathMeta → α)

theorem readInputs_eq_setAll (inputs : List ComposeInputEntry) (m : OrderedMap Text α) :
    inputs.foldl (fun m entry =>
      (ownedPath entry).elim m fun rel =>
        m.set (h.toLowerCase rel) (value (rel, inputMeta entry))) m =
    setAll (foldOf h) value m
      (inputs.filterMap fun entry => (ownedPath entry).map fun rel => (rel, inputMeta entry)) := by
  induction inputs generalizing m with
  | nil => rfl
  | cons entry inputs ih =>
    rw [List.foldl_cons, ih, List.filterMap_cons]
    cases ownedPath entry with
    | none => rfl
    | some rel => rfl

theorem readContexts_eq_setAll (buildContexts : List BuildContextPlan)
    (parent : BuildContextPlan → InputSensitivity) (m : OrderedMap Text α) :
    buildContexts.foldl (fun m context =>
      context.files.foldl (fun m file =>
        m.set (h.toLowerCase (contextPath context file))
          (value (contextPath context file, contextFileMeta (parent context) file))) m) m =
    setAll (foldOf h) value m
      (buildContexts.flatMap fun context =>
        context.files.map fun file =>
          (contextPath context file, contextFileMeta (parent context) file)) := by
  unfold setAll
  rw [List.foldl_flatMap]
  congr 1
  funext m context
  rw [List.foldl_map]
  rfl

/-- One reading of a manifest, for any value taken of its files. -/
theorem read_eq_setAll (inputs : List ComposeInputEntry) (buildContexts : List BuildContextPlan)
    (m : OrderedMap Text α) :
    buildContexts.foldl (fun m context =>
      context.files.foldl (fun m file =>
        m.set (h.toLowerCase (contextPath context file))
          (value (contextPath context file,
            contextFileMeta (parentSensitivity h inputs context) file))) m)
      (inputs.foldl (fun m entry =>
        (ownedPath entry).elim m fun rel =>
          m.set (h.toLowerCase rel) (value (rel, inputMeta entry))) m) =
    setAll (foldOf h) value m (managedFiles h inputs buildContexts) := by
  rw [readInputs_eq_setAll, readContexts_eq_setAll]
  unfold setAll managedFiles
  rw [List.foldl_append]

end Readings

theorem get?_indexPaths (fold : Text) :
    (indexPaths h inputs buildContexts).get? fold =
      (lastFile h inputs buildContexts fold).map Prod.snd := by
  have hread := read_eq_setAll h (fun file : Text × PathMeta => file.2) inputs buildContexts .empty
  unfold indexPaths
  dsimp only at hread ⊢
  rw [hread, get?_setAll, get?_empty, Option.or_none]
  rfl

theorem mem_collectManifestFilePaths (rel : Text) :
    rel ∈ collectManifestFilePaths h inputs buildContexts ↔
      ∃ fold, (lastFile h inputs buildContexts fold).map Prod.fst = some rel := by
  have hread := read_eq_setAll h (fun file : Text × PathMeta => file.1) inputs buildContexts .empty
  unfold collectManifestFilePaths Host.sortPaths
  dsimp only at hread ⊢
  rw [List.mem_insertionSort, mem_values_iff, hread]
  simp only [get?_setAll, get?_empty, Option.or_none]
  rfl

/-- The last file of a fold is a file, and lower-cases to it. -/
theorem lastFile_mem {inputs : List ComposeInputEntry} {buildContexts : List BuildContextPlan}
    {fold : Text} {file : Text × PathMeta}
    (hlast : lastFile h inputs buildContexts fold = some file) :
    file ∈ managedFiles h inputs buildContexts ∧ h.toLowerCase file.1 = fold :=
  lastAt_mem (foldOf h) hlast

end Sencho.ChangePlan
