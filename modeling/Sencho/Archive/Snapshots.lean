import Sencho.Archive.Envelope

/-!
# Snapshots in archives

A fleet snapshot is a row, the files it captured and the notes on its stacks.  An upload packs
them; an import reads them back and checks every record that is shown later.
-/

namespace Sencho.Archive

open Verified CodeUnits Json

variable {ν : Type}

/-- Where a snapshot was taken. -/
inductive SnapshotOrigin where
  | local
  | imported

/-- A row of the fleet snapshots. -/
structure Snapshot where
  id : Int
  description : Text
  createdBy : Text
  nodeCount : Int
  stackCount : Int
  skippedNodes : Text
  skippedStacks : Text
  createdAt : Int
  sourceInstanceId : Option Text
  origin : SnapshotOrigin
  warningsKnown : Int

variable (N : Numbers ν)

/-- Parse, or fall back. -/
def safeParseJson (value : Text) (fallback : Json ν) : Json ν :=
  if value = [] then fallback else (parse N value).getD fallback

/-- The nodes a row says were skipped. -/
def Snapshot.recordedNodes (snapshot : Snapshot) : Json ν :=
  safeParseJson N snapshot.skippedNodes (.arr [])

/-- The stacks a row says were skipped. -/
def Snapshot.recordedStacks (snapshot : Snapshot) : Json ν :=
  safeParseJson N snapshot.skippedStacks (.arr [])

def textOrNull : Option Text → Json ν
  | some t => .str t
  | none => .null

/-- What an archive says of its snapshot. -/
def metadata (instanceId : Text) (snapshot : Snapshot) (documentation : Text) : Json ν :=
  let sourceInstanceId := match snapshot.origin with
    | .imported => snapshot.sourceInstanceId
    | .local => some instanceId
  .obj ([
    (text "id", .num (N.ofInt snapshot.id)),
    (text "description", .str snapshot.description),
    (text "created_by", .str snapshot.createdBy),
    (text "created_at", .num (N.ofInt snapshot.createdAt)),
    (text "node_count", .num (N.ofInt snapshot.nodeCount)),
    (text "stack_count", .num (N.ofInt snapshot.stackCount)),
    (text "skipped_nodes", snapshot.recordedNodes N)] ++
    (if snapshot.warningsKnown = 0 then []
      else [(text "skipped_stacks", snapshot.recordedStacks N)]) ++ [
    (text "has_documentation", .bool (documentation ≠ [])),
    (text "instance_id", textOrNull sourceInstanceId),
    (text "archive_version", .num (N.ofInt 2))])

/-- The gzip of a snapshot. -/
def buildArchive (c : Codecs) (N : Numbers ν) (instanceId : Text) (snapshot : Snapshot)
    (files : List SnapshotFile) (documentation : Text) : Except ArchiveFormatError Bytes := do
  let metadataJson := stringify N 2 (metadata N instanceId snapshot documentation)
  assertArchiveFitsLimits {
    metadataBytes := (Utf8.encode metadataJson).length
    documentationBytes := (Utf8.encode documentation).length
    fileBytes := files.map fun f => (Utf8.encode f.content).length } archiveLimits
  let entries := ⟨metadataName, metadataJson⟩ ::
    ((if documentation ≠ [] then [⟨documentationName, documentation⟩] else []) ++
      files.map fun f => ⟨entryName f, f.content⟩)
  packSnapshotArchive c entries archiveLimits

/-- The settings an upload reads. -/
structure ArchiveSettings where
  archivesAreEncrypted : Bool
  storedArchivePassphrase : Option Text

/-- What a sealed upload draws. -/
structure SealParameters where
  salt : Bytes
  iv : Bytes
  saltLength : salt.length = saltLen
  ivLength : iv.length = ivLen

/-- How an upload fails. -/
inductive UploadError where
  | format (e : ArchiveFormatError)
  | noPassphrase

/-- Seal an archive if asked. -/
def protectArchive (c : Codecs) (settings : ArchiveSettings) (drawn : SealParameters)
    (gzip : Bytes) : Except UploadError Bytes :=
  if !settings.archivesAreEncrypted then .ok gzip
  else
    match settings.storedArchivePassphrase.filter fun p => p ≠ [] with
    | none => .error .noPassphrase
    | some passphrase =>
      match sealArchive c gzip passphrase drawn.salt drawn.iv with
      | .error e => .error (.format e)
      | .ok body =>
        match assertArchiveObjectSize body.length archiveLimits with
        | .error e => .error (.format e)
        | .ok () => .ok body

/-- A node left out. -/
structure ArchiveSkippedNode (ν : Type) where
  nodeId : ν
  nodeName : Text
  reason : Text

/-- A stack left out. -/
structure ArchiveSkippedStack (ν : Type) extends ArchiveSkippedNode ν where
  stackName : Text

/-- The metadata as read. -/
structure ParsedMetadata (ν : Type) where
  description : Text
  createdBy : Text
  createdAt : ν
  skippedNodes : List (ArchiveSkippedNode ν)
  skippedStacks : Option (List (ArchiveSkippedStack ν))
  nodeCount : Option Int
  stackCount : Option Int
  instanceId : Option Text

/-- A file as read. -/
structure ImportedSnapshotFile where
  nodeId : Int
  nodeName : Text
  stackName : Text
  filename : Text
  content : Text

/-- An opened snapshot. -/
structure ImportedSnapshot (ν : Type) where
  description : Text
  createdBy : Text
  createdAt : ν
  skippedNodes : Text
  skippedStacks : Text
  documentation : Text
  nodeCount : Int
  stackCount : Int
  sourceInstanceId : Option Text
  warningsKnown : Bool
  files : List ImportedSnapshotFile

def malformedWarning {α : Type} : Except ArchiveFormatError α :=
  badArchive "Archive metadata warning records are malformed"

/-- A positive integer that is told apart from its neighbours. -/
def isNodeId (x : ν) : Bool :=
  match N.safeInt x with
  | some n => n > 0
  | none => false

def warningNodeId : Option (Json ν) → Except ArchiveFormatError ν
  | some (.num x) => if isNodeId N x then .ok x else malformedWarning
  | _ => malformedWarning

def warningText : Option (Json ν) → Except ArchiveFormatError Text
  | some (.str t) => if t = [] then malformedWarning else .ok t
  | _ => malformedWarning

def parseSkippedNode : Json ν → Except ArchiveFormatError (ArchiveSkippedNode ν)
  | .obj entry => do
    let nodeId ← warningNodeId N (get? entry (text "nodeId"))
    let nodeName ← warningText (get? entry (text "nodeName"))
    let reason ← warningText (get? entry (text "reason"))
    return ⟨nodeId, nodeName, reason⟩
  | _ => malformedWarning

def parseSkippedStack : Json ν → Except ArchiveFormatError (ArchiveSkippedStack ν)
  | .obj entry => do
    let nodeId ← warningNodeId N (get? entry (text "nodeId"))
    let nodeName ← warningText (get? entry (text "nodeName"))
    let stackName ← warningText (get? entry (text "stackName"))
    let reason ← warningText (get? entry (text "reason"))
    return ⟨⟨nodeId, nodeName, reason⟩, stackName⟩
  | _ => malformedWarning

/-- An array of warnings. -/
def parseWarnings {α : Type} (record : Json ν → Except ArchiveFormatError α) :
    Option (Json ν) → Except ArchiveFormatError (List α)
  | some (.arr vs) => vs.mapM record
  | _ => badArchive "Archive metadata is incomplete"

/-- The nodes left out; none when absent. -/
def parseSkippedNodes : Option (Json ν) → Except ArchiveFormatError (List (ArchiveSkippedNode ν)) :=
  parseWarnings (parseSkippedNode N)

def parseSkippedStacks :
    Option (Json ν) → Except ArchiveFormatError (List (ArchiveSkippedStack ν)) :=
  parseWarnings (parseSkippedStack N)

/-- The stacks of an archive that may be too old to say. -/
def parseRecordedStacks :
    Option (Json ν) → Except ArchiveFormatError (Option (List (ArchiveSkippedStack ν)))
  | none => .ok none
  | some v => (parseSkippedStacks N (some v)).map some

def asCount : Option (Json ν) → Option Int
  | some (.num x) => (N.safeInt x).filter fun n => n ≥ 0
  | _ => none

def asText : Option (Json ν) → Option Text
  | some (.str t) => some t
  | _ => none

def asNumber : Option (Json ν) → Option ν
  | some (.num x) => some x
  | _ => none

/-- Read and check the metadata. -/
def parseMetadata [DecidableEq ν] (N : Numbers ν) (t : Text) :
    Except ArchiveFormatError (ParsedMetadata ν) :=
  match parse N t with
  | some (.obj record) =>
    match asNumber (get? record (text "archive_version")) with
    | none => badArchive "Archive version is not supported"
    | some version =>
      if version ≠ N.ofInt 1 ∧ version ≠ N.ofInt 2 then
        badArchive "Archive version is not supported"
      else
        match asText (get? record (text "description")), asText (get? record (text "created_by")) with
        | some description, some createdBy =>
          match (asNumber (get? record (text "created_at"))).filter N.finite with
          | none => badArchive "Archive metadata is incomplete"
          | some createdAt => do
            let skippedNodes ← parseSkippedNodes N (get? record (text "skipped_nodes"))
            let skippedStacks ← parseRecordedStacks N (get? record (text "skipped_stacks"))
            return {
              description, createdBy, createdAt, skippedNodes, skippedStacks
              nodeCount := asCount N (get? record (text "node_count"))
              stackCount := asCount N (get? record (text "stack_count"))
              instanceId :=
                (asText (get? record (text "instance_id"))).filter fun t => t ≠ [] }
        | _, _ => badArchive "Archive metadata is incomplete"
  | _ => badArchive "Archive metadata is not valid JSON"

def hasNodeId (record : List (Text × Json ν)) : Bool :=
  match get? record (text "nodeId") with
  | some (.num x) => isNodeId N x
  | _ => false

def hasText (record : List (Text × Json ν)) (key : Text) : Bool :=
  match get? record key with
  | some (.str t) => t ≠ []
  | _ => false

def isDocumentedStack : Json ν → Bool
  | .obj stack =>
    hasNodeId N stack && hasText stack (text "nodeName") && hasText stack (text "stackName") &&
      match get? stack (text "dossier") with
      | none => true
      | some (.obj _) => true
      | some _ => false
  | _ => false

def isDocumentedWarning : Json ν → Bool
  | .obj warning =>
    hasNodeId N warning && hasText warning (text "nodeName") &&
      hasText warning (text "stackName") && hasText warning (text "reason")
  | _ => false

/-- Check the documentation. -/
def parseDocumentation (t : Text) : Except ArchiveFormatError Text :=
  match parse N t with
  | none => badArchive "Archive documentation is not valid JSON"
  | some (.obj value) =>
    match get? value (text "stacks"), get? value (text "warnings") with
    | some (.arr described), some (.arr warnings) =>
      if described.all (isDocumentedStack N) && warnings.all (isDocumentedWarning N) then .ok t
      else badArchive "Archive documentation is malformed"
    | _, _ => badArchive "Archive documentation is incomplete"
  | some _ => badArchive "Archive documentation is incomplete"

def skippedNodeJson (r : ArchiveSkippedNode ν) : Json ν :=
  .obj [(text "nodeId", .num r.nodeId), (text "nodeName", .str r.nodeName),
    (text "reason", .str r.reason)]

def skippedStackJson (r : ArchiveSkippedStack ν) : Json ν :=
  .obj [(text "nodeId", .num r.nodeId), (text "nodeName", .str r.nodeName),
    (text "stackName", .str r.stackName), (text "reason", .str r.reason)]

/-- A captured file, from its entry. -/
def importFile (entry : Text × Bytes) : Except ArchiveFormatError ImportedSnapshotFile :=
  match fileSegments entry.1 with
  | none => badArchive "Archive contains an unexpected entry"
  | some (segment, stackName, filename) =>
    match parseNodeSegment segment with
    | none => badArchive "Archive contains an unexpected entry"
    | some node =>
      .ok ⟨node.nodeId, node.nodeName, stackName, filename, Utf8.decode entry.2⟩

/-- The entry of a name. -/
def entryBody (entries : List (Text × Bytes)) (name : Text) : Option Bytes :=
  (entries.find? fun e => e.1 = name).map Prod.snd

def readDocumentation : Option Bytes → Except ArchiveFormatError Text
  | none => .ok []
  | some raw => parseDocumentation N (Utf8.decode raw)

/-- The snapshot that an archive holds.  The counts of its metadata may be higher than what is
in it, not lower. -/
def importedSnapshot (data : ParsedMetadata ν) (documentation : Text)
    (files : List ImportedSnapshotFile) : ImportedSnapshot ν where
  description := data.description
  createdBy := data.createdBy
  createdAt := data.createdAt
  skippedNodes := stringify N 0 (.arr (data.skippedNodes.map skippedNodeJson))
  skippedStacks := stringify N 0 (.arr ((data.skippedStacks.getD []).map skippedStackJson))
  documentation := documentation
  nodeCount := max (data.nodeCount.getD 0) (files.map fun f => f.nodeId).dedup.length
  stackCount :=
    max (data.stackCount.getD 0) (files.map fun f => (f.nodeId, f.stackName)).dedup.length
  sourceInstanceId := data.instanceId
  warningsKnown := data.skippedStacks.isSome
  files := files

/-- Assemble a snapshot. -/
def snapshotFromEntries [DecidableEq ν] (N : Numbers ν) (entries : List (Text × Bytes)) :
    Except ArchiveFormatError (ImportedSnapshot ν) :=
  match entryBody entries metadataName with
  | none => badArchive "Archive is missing metadata.json"
  | some rawMeta => do
    let data ← parseMetadata N (Utf8.decode rawMeta)
    let documentation ← readDocumentation N (entryBody entries documentationName)
    let files ← (entries.filter fun e =>
      e.1 ≠ metadataName && e.1 ≠ documentationName).mapM importFile
    return importedSnapshot N data documentation files

/-- Open a stored object. -/
def openSnapshotArchive [DecidableEq ν] (c : Codecs) (N : Numbers ν) (objectBytes : Bytes)
    (passphrase : Option Text) : Except ArchiveFormatError (ImportedSnapshot ν) := do
  if objectBytes.length > archiveLimits.maxObjectBytes then
    tooLarge (text "Archive is larger than the import limit")
  else
    let gzipBytes ← plaintextGzip c objectBytes passphrase
    let tarBytes ← gunzipLimited c gzipBytes archiveLimits.maxTarBytes
    let entries ← readTarEntries c tarBytes archiveLimits
    snapshotFromEntries N entries

end Sencho.Archive
