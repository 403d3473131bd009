import Sencho.ChangePlan.Inventory

/-!
# The change plan of a Git stack

A plan compares three things path by path: what the prior manifest owns, what the candidate owns,
and what is on disk.  The paths are merged by their lower-cased form, and one spelling of each is
looked at.  A file that moved with its content is told as a rename.
-/

namespace Sencho.ChangePlan

open Verified CodeUnits

variable (h : Host)

inductive GitChangePlanOp where
  | add
  | modify
  | delete
  | rename
  | unchanged
  | localModified
  | localMissing
  | typeChanged
  | unmanagedCollision
  | invocation
  deriving DecidableEq

/-- `BLOCKING_CHANGE_PLAN_OPS`. -/
def GitChangePlanOp.blocking : GitChangePlanOp → Bool
  | .localModified | .localMissing | .typeChanged | .unmanagedCollision => true
  | _ => false

inductive GitChangePlanMode where
  | update
  | create
  deriving DecidableEq

structure GitChangePlanOperation where
  pathKey : Text
  op : GitChangePlanOp
  role : PlanRole
  deletionAuthority : Option DeletionAuthority
  priorHash : Option Text
  candidateHash : Option Text
  liveHash : Option Text
  sensitivity : InputSensitivity
  fromPath : Option Text
  ownership : InputOwnership
  provenance : ManifestProvenance
  sourceRevision : Text
  reason : String
  deriving DecidableEq

/-- What is at a path of the stack directory. -/
inductive StackPath where
  | absent
  | file (sha256 : Text)
  | directory
  | symlink
  | special
  | escape
  | unreadable
  deriving DecidableEq

/-- The live stack, and what a scan of a build context reports of it.  A scan may fail. -/
structure LiveStack where
  observe : Text → StackPath
  verifyContextOnDisk : BuildContextPlan → List Text → Option (List Text)

/-- The fields of a manifest that a plan reads. -/
structure GitProjectManifest where
  inputs : List ComposeInputEntry
  buildContexts : List BuildContextPlan
  invocation : List Text

structure BuildGitChangePlanInput where
  commitSha : Text
  mode : GitChangePlanMode
  priorManifest : Option GitProjectManifest
  candidateInputs : List ComposeInputEntry
  candidateBuildContexts : List BuildContextPlan
  candidateInvocation : List Text
  liveInvocation : List Text
  legacyOwnedPaths : List Text
  reviewedLiveHashes : Text → Option (Option Text)
  projectEnvFiles : List Text

namespace BuildGitChangePlanInput

variable (input : BuildGitChangePlanInput)

def priorInputs : List ComposeInputEntry := input.priorManifest.elim [] (·.inputs)

def priorBuildContexts : List BuildContextPlan := input.priorManifest.elim [] (·.buildContexts)

end BuildGitChangePlanInput

/-- One spelling of each path, the first of the two lists. -/
def mergePaths (prior candidate : List Text) : List Text :=
  let byFold := OrderedMap.setNew h.toLowerCase id .empty (prior ++ candidate)
  h.sortPaths byFold.values

/-- What the pattern of an annotated divergence captures. -/
def annotatedPath (diverged : Text) : Option Text :=
  let notes := ["locally added, not in the managed context", "symbolic link",
    "special file node", "missing"]
  let suffixes := notes.map fun note => text (" (" ++ note ++ ")")
  (suffixes.find? fun suffix => suffix.isSuffixOf diverged).bind fun suffix =>
    let rel := diverged.take (diverged.length - suffix.length)
    if rel ≠ [] ∧ rel.all (fun c => c ≠ 0x0a && c ≠ 0x0d && c ≠ 0x2028 && c ≠ 0x2029) then some rel
    else none

def stackPathFromContextDivergence (contextRepoPath diverged : Text) : Option Text :=
  let join (rel : Text) : Text :=
    if contextRepoPath = [] then rel else contextRepoPath ++ unit '/' :: rel
  if diverged = text ". (symbolic link)" ∨ diverged = text ". (special file node)" ∨
      diverged = text ". (scan limit exceeded)" then
    some (if contextRepoPath = [] then text "." else contextRepoPath)
  else
    match annotatedPath diverged with
    | some rel => some (join rel)
    | none => if unit '(' ∈ diverged then none else some (join diverged)

/-- The paths of managed inputs, which a scan of a context passes over. -/
def managedInputPaths (inputs : List ComposeInputEntry) : List Text :=
  (inputs.filter fun entry => entry.ownership = .managed && entry.state = .present).filterMap
    (·.materializedPath)

variable (args : ClassifyArgs) (ops : List GitChangePlanOperation) (input : BuildGitChangePlanInput)

def collectContextUniverseExtras (live : LiveStack) :
    Option (List Text) := do
  let managed := managedInputPaths (input.priorInputs ++ input.candidateInputs)
  let contextsByFold := OrderedMap.setAll (fun context => h.toLowerCase context.repoPath) id .empty
    (input.priorBuildContexts ++ input.candidateBuildContexts)
  let extras ← contextsByFold.values.mapM fun context => do
    let diverged ← live.verifyContextOnDisk context managed
    return (diverged.filterMap (stackPathFromContextDivergence context.repoPath)).filter (· ≠ [])
  return extras.flatten

/-- The last component of a path. -/
def baseName (path : Text) : Text := (path.splitOn (unit '/')).getLast?.getD []

def isEnvLikeFileName (name : Text) : Bool :=
  let base := h.toLowerCase
    (baseName (name.map fun c => if c = unit '\\' then unit '/' else c))
  base = text ".env" || (text ".env").isSuffixOf base || (text ".env.").isPrefixOf base

/-- `includes` of a string. -/
def includes (t needle : Text) : Bool := t.tails.any fun rest => needle.isPrefixOf rest

def isSecretBearingRelPath (rel : Text) : Bool :=
  let base := h.toLowerCase (baseName rel)
  isEnvLikeFileName h rel || includes base (text "secret") || includes base (text "credential") ||
    (text ".pem").isSuffixOf base || base = text "id_rsa"

/-- What the plan knows of a path before it looks at the disk. -/
structure ClassifyArgs where
  pathKey : Text
  prior : Option PathMeta
  candidate : Option PathMeta
  mode : GitChangePlanMode
  legacyOwned : List Text
  reviewedLive : Option (Option Text)
  isContextExtra : Bool
  isProjectEnv : Bool
  sourceRevision : Text

namespace ClassifyArgs

variable (args : ClassifyArgs)

def priorHash : Option Text := args.prior.bind (·.hash)

def candidateHash : Option Text := args.candidate.bind (·.hash)

def role : PlanRole :=
  match args.candidate, args.prior with
  | some m, _ => m.role
  | none, some m => m.role
  | none, none => .input (if args.isProjectEnv then .env else .other)

def deletionAuthority : Option DeletionAuthority :=
  (args.candidate.bind (·.deletionAuthority)).or (args.prior.bind (·.deletionAuthority))

def sensitivity : InputSensitivity :=
  if args.isContextExtra && isSecretBearingRelPath h args.pathKey then .high
  else
    match args.candidate, args.prior with
    | some m, _ => m.sensitivity
    | none, some m => m.sensitivity
    | none, none => if args.isProjectEnv then .high else .medium

def ownership : InputOwnership :=
  match args.candidate, args.prior with
  | some m, _ => m.ownership
  | none, some m => m.ownership
  | none, none => if args.isProjectEnv || args.isContextExtra then .unmanaged else .managed

def provenance : ManifestProvenance :=
  match args.candidate, args.prior with
  | some m, _ => m.provenance
  | none, some m => m.provenance
  | none, none => if args.isProjectEnv || args.isContextExtra then .adopted else .fetch

/-- A row for the path. -/
def row (op : GitChangePlanOp) (priorHash candidateHash liveHash : Option Text) (reason : String) :
    GitChangePlanOperation where
  pathKey := args.pathKey
  op := op
  role := args.role
  deletionAuthority := args.deletionAuthority
  priorHash := priorHash
  candidateHash := candidateHash
  liveHash := liveHash
  sensitivity := args.sensitivity h
  fromPath := none
  ownership := args.ownership
  provenance := args.provenance
  sourceRevision := args.sourceRevision
  reason := reason

end ClassifyArgs

/-- A candidate-only path: an add or a collision. -/
def classifyCandidateOnly (liveHash : Option Text) : GitChangePlanOperation :=
  if args.mode = .create ∨ liveHash = none ∨ args.pathKey ∈ args.legacyOwned then
    args.row h .add none args.candidateHash liveHash "new managed path"
  else
    args.row h .unmanagedCollision none args.candidateHash liveHash
      "unmanaged live file at a candidate path"

/-- A path that is a file with a digest, or is absent. -/
def classifyReadable (liveHash : Option Text) : GitChangePlanOperation :=
  if args.reviewedLive.any (· ≠ liveHash) then
    args.row h .localModified args.priorHash args.candidateHash liveHash
      "live hash changed since review"
  else
    match args.priorHash, args.candidateHash with
    | some priorHash, some candidateHash =>
      if liveHash = none then
        args.row h .localMissing priorHash candidateHash none "managed path absent on disk"
      else if liveHash ≠ priorHash then
        args.row h .localModified priorHash candidateHash liveHash
          "live hash differs from prior managed hash"
      else if candidateHash = priorHash then
        args.row h .unchanged priorHash candidateHash liveHash "matches prior managed hash"
      else args.row h .modify priorHash candidateHash liveHash "candidate content differs from prior"
    | some priorHash, none =>
      if liveHash = none then
        args.row h .localMissing priorHash none none "managed path absent on disk"
      else if args.prior.bind (·.deletionAuthority) ≠ some .sencho then
        args.row h .localModified priorHash none liveHash "live path is not sencho-deletable"
      else if liveHash ≠ priorHash then
        args.row h .localModified priorHash none liveHash "live hash differs from prior managed hash"
      else args.row h .delete priorHash none liveHash "removed from candidate"
    | none, none =>
      if args.isProjectEnv then
        if liveHash = none then
          args.row h .localMissing none none none "configured project env file missing on disk"
        else args.row h .unchanged none none liveHash "configured project env file"
      else if args.isContextExtra then
        args.row h .unmanagedCollision none none liveHash "locally added in build context"
      else classifyCandidateOnly h args liveHash
    | none, some _ => classifyCandidateOnly h args liveHash

/-- A path as the disk has it.  One that cannot be read fails the plan. -/
def classifyPath : StackPath → Option GitChangePlanOperation
  | .unreadable => none
  | .escape =>
    some (args.row h .typeChanged args.priorHash args.candidateHash none
      "live path escapes the stack through a symlink")
  | .directory | .symlink | .special =>
    some (args.row h .typeChanged args.priorHash args.candidateHash none
      "live path is not a regular file")
  | .absent => some (classifyReadable h args none)
  | .file sha256 => some (classifyReadable h args (some sha256))

/-- Whether an optional text is one that is not empty. -/
def truthy (t : Option Text) : Bool := t.any (· ≠ [])

def Host.sortRows : List GitChangePlanOperation :=
  ops.insertionSort fun a b => h.localeLe a.pathKey b.pathKey

/-- The rows by a digest of theirs. -/
def groupByHash (hash : GitChangePlanOperation → Option Text) (ops : List GitChangePlanOperation) :
    OrderedMap Text (List GitChangePlanOperation) :=
  ops.foldl (fun groups o =>
    groups.set ((hash o).getD []) ((groups.get? ((hash o).getD [])).getD [] ++ [o])) .empty

def renameRow (del add : GitChangePlanOperation) : GitChangePlanOperation where
  pathKey := add.pathKey
  op := .rename
  role := add.role
  deletionAuthority := del.deletionAuthority
  priorHash := del.priorHash
  candidateHash := add.candidateHash
  liveHash := add.liveHash
  sensitivity := if add.sensitivity = .high ∨ del.sensitivity = .high then .high else add.sensitivity
  fromPath := some del.pathKey
  ownership := add.ownership
  provenance := add.provenance
  sourceRevision := add.sourceRevision
  reason := "same content, new path"

structure Pairing where
  usedDeletes : List Text
  usedAdds : List Text
  renames : List GitChangePlanOperation

/-- Pair the deletes of one content with the adds of it. -/
def pairGroup (addsByHash : OrderedMap Text (List GitChangePlanOperation)) (st : Pairing)
    (group : Text × List GitChangePlanOperation) : Pairing :=
  match addsByHash.get? group.1 with
  | none => st
  | some addList =>
    let leftoverDel := h.sortRows (group.2.filter fun d => d.pathKey ∉ st.usedDeletes)
    let leftoverAdd := h.sortRows (addList.filter fun a => a.pathKey ∉ st.usedAdds)
    let pairs := leftoverDel.zip leftoverAdd
    { usedDeletes := st.usedDeletes ++ pairs.map (·.1.pathKey)
      usedAdds := st.usedAdds ++ pairs.map (·.2.pathKey)
      renames := st.renames ++ pairs.map fun pair => renameRow pair.1 pair.2 }

def pairAll : Pairing :=
  let deletes := ops.filter fun o => o.op = .delete && truthy o.priorHash
  let adds := ops.filter fun o => o.op = .add && truthy o.candidateHash
  (groupByHash (·.priorHash) deletes).entries.foldl
    (pairGroup h (groupByHash (·.candidateHash) adds)) ⟨[], [], []⟩

/-- Whether a row is taken into a rename. -/
def Pairing.takes (pairing : Pairing) (o : GitChangePlanOperation) : Bool :=
  (o.op = .delete && pairing.usedDeletes.contains o.pathKey) ||
    (o.op = .add && pairing.usedAdds.contains o.pathKey)

def pairRenames : List GitChangePlanOperation :=
  let pairing := pairAll h ops
  h.sortRows (ops.filter (fun o => !pairing.takes o) ++ pairing.renames)

def invocationPathKey : Text := text "__invocation__"

def invocationRow (prior candidate live : List Text) (sourceRevision : Text) :
    GitChangePlanOperation where
  pathKey := invocationPathKey
  op := .invocation
  role := .invocation
  deletionAuthority := none
  priorHash := some (h.sha256OfJson prior)
  candidateHash := some (h.sha256OfJson candidate)
  liveHash := some (h.sha256OfJson live)
  sensitivity := .low
  fromPath := none
  ownership := .managed
  provenance := .fetch
  sourceRevision := sourceRevision
  reason := if live ≠ prior then "live compose invocation diverged from prior"
    else "candidate compose invocation changed"

/-- The row of the invocation, and whether the live one left the last applied. -/
def classifyInvocation : Option GitChangePlanOperation × Bool :=
  match input.priorManifest with
  | none => (none, false)
  | some prior =>
    if input.liveInvocation = prior.invocation ∧ input.candidateInvocation = prior.invocation then
      (none, false)
    else
      (some (invocationRow h prior.invocation input.candidateInvocation input.liveInvocation
        input.commitSha), decide (input.liveInvocation ≠ prior.invocation))

structure GitChangePlan where
  blocked : Bool
  invocationBlocked : Bool
  candidateInvocation : List Text
  liveInvocation : List Text
  priorInvocation : List Text
  operations : List GitChangePlanOperation
  counts : GitChangePlanOp → Nat

namespace BuildGitChangePlanInput

variable (input : BuildGitChangePlanInput)

def priorPaths : List Text := collectManifestFilePaths h input.priorInputs input.priorBuildContexts

def candidatePaths : List Text :=
  collectManifestFilePaths h input.candidateInputs input.candidateBuildContexts

def priorIndex : OrderedMap Text PathMeta :=
  indexPaths h input.priorInputs input.priorBuildContexts

def candidateIndex : OrderedMap Text PathMeta :=
  indexPaths h input.candidateInputs input.candidateBuildContexts

/-- The paths a plan looks at. -/
def planPaths (contextExtras : List Text) : List Text :=
  mergePaths h (mergePaths h (input.priorPaths h) (input.candidatePaths h))
    (mergePaths h contextExtras input.projectEnvFiles)

/-- Whether a lower-cased path is a project env file's. -/
def isProjectEnv (fold : Text) : Bool := (input.projectEnvFiles.map h.toLowerCase).contains fold

def argsOf (contextExtras : List Text) (pathKey : Text) : ClassifyArgs where
  pathKey := pathKey
  prior := (input.priorIndex h).get? (h.toLowerCase pathKey)
  candidate := (input.candidateIndex h).get? (h.toLowerCase pathKey)
  mode := input.mode
  legacyOwned := input.legacyOwnedPaths
  reviewedLive := input.reviewedLiveHashes (h.toLowerCase pathKey)
  isContextExtra := (contextExtras.map h.toLowerCase).contains (h.toLowerCase pathKey) &&
    ((input.priorIndex h).get? (h.toLowerCase pathKey)).isNone &&
    ((input.candidateIndex h).get? (h.toLowerCase pathKey)).isNone
  isProjectEnv := input.isProjectEnv h (h.toLowerCase pathKey)
  sourceRevision := input.commitSha

end BuildGitChangePlanInput

/-- The rows of the paths, one for each. -/
def classifyAll (live : LiveStack) :
    Option (List GitChangePlanOperation) := do
  let contextExtras ← collectContextUniverseExtras h input live
  (input.planPaths h contextExtras).mapM fun pathKey =>
    classifyPath h (input.argsOf h contextExtras pathKey) (live.observe pathKey)

def build (live : LiveStack) : Option GitChangePlan := do
  let classified ← classifyAll h input live
  let invocation := classifyInvocation h input
  let operations := pairRenames h classified ++ invocation.1.toList
  return {
    blocked := operations.any (·.op.blocking)
    invocationBlocked := invocation.2
    candidateInvocation := input.candidateInvocation
    liveInvocation := input.liveInvocation
    priorInvocation := input.priorManifest.elim [] (·.invocation)
    operations := operations
    counts := fun op => operations.countP (·.op = op) }

end Sencho.ChangePlan
