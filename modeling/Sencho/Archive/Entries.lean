import Sencho.Verified.Decimals

/-!
# The entries of an archive

An archive holds one entry for its metadata, one for the documentation of its stacks, and one
for each captured file, whose name says the node, the stack and the file.  The side that
publishes checks its entries with the rules of the side that reads.
-/

namespace Sencho.Archive

open Verified CodeUnits Decimals List

/-- Why an archive is refused. -/
inductive ArchiveErrorCode where
  | passphraseRequired
  | invalidPassphrase
  | badArchive
  | tooLarge
  | invalidEntryName

/-- A refusal and its text. -/
structure ArchiveFormatError where
  code : ArchiveErrorCode
  message : Text

/-- Refuse an archive. -/
def badArchive {α : Type} (message : String) : Except ArchiveFormatError α :=
  .error ⟨.badArchive, text message⟩

/-- Refuse an archive for its size. -/
def tooLarge {α : Type} (message : Text) : Except ArchiveFormatError α :=
  .error ⟨.tooLarge, message⟩

/-- Bytes as megabytes with one decimal, a half rounded up. -/
def formatMiB (bytes : Nat) : Text :=
  let tenths := (bytes * 20 + 1024 * 1024) / (2 * 1024 * 1024)
  decimal (tenths / 10) ++ text "." ++ decimal (tenths % 10) ++ text " MB"

/-- The bounds of an archive. -/
structure ArchiveLimits where
  maxObjectBytes : Nat
  maxEntries : Nat
  maxEntryBytes : Nat
  maxDocumentationBytes : Nat
  maxMetadataBytes : Nat
  maxUncompressedBytes : Nat
  maxTarBytes : Nat

def archiveFramingAllowanceBytes : Nat := 8 * 1024 * 1024

def archiveLimits : ArchiveLimits where
  maxObjectBytes := 32 * 1024 * 1024
  maxEntries := 5000
  maxEntryBytes := 1000000
  maxDocumentationBytes := 8 * 1024 * 1024
  maxMetadataBytes := 1024 * 1024
  maxUncompressedBytes := 64 * 1024 * 1024
  maxTarBytes := 64 * 1024 * 1024 + archiveFramingAllowanceBytes

/-- What an archive will weigh. -/
structure ArchiveSizePlan where
  metadataBytes : Nat
  documentationBytes : Nat
  fileBytes : List Nat

def ArchiveSizePlan.entryCount (plan : ArchiveSizePlan) : Nat :=
  plan.fileBytes.length + 1 + if plan.documentationBytes > 0 then 1 else 0

def ArchiveSizePlan.total (plan : ArchiveSizePlan) : Nat :=
  plan.metadataBytes + plan.documentationBytes + plan.fileBytes.sum

/-- The limits on what is to be packed. -/
def assertArchiveFitsLimits (plan : ArchiveSizePlan) (limits : ArchiveLimits) :
    Except ArchiveFormatError Unit :=
  if plan.entryCount > limits.maxEntries then
    tooLarge (text "Archive would have " ++ decimal plan.entryCount ++
      text " entries, above the " ++ decimal limits.maxEntries ++ text "-entry recovery limit")
  else if plan.metadataBytes > limits.maxMetadataBytes then
    tooLarge (text "Archive metadata is larger than the recovery limit")
  else if plan.documentationBytes > limits.maxDocumentationBytes then
    tooLarge (text "Snapshot documentation is " ++ formatMiB plan.documentationBytes ++
      text ", above the " ++ formatMiB limits.maxDocumentationBytes ++ text " recovery limit")
  else
    match plan.fileBytes.find? fun bytes => bytes > limits.maxEntryBytes with
    | some bytes =>
      tooLarge (text "A captured file is " ++ formatMiB bytes ++ text ", above the " ++
        formatMiB limits.maxEntryBytes ++ text " per-file recovery limit")
    | none =>
      if plan.total > limits.maxUncompressedBytes then
        tooLarge (text "Archive would expand to " ++ formatMiB plan.total ++
          text ", above the " ++ formatMiB limits.maxUncompressedBytes ++
          text " recovery limit")
      else .ok ()

/-- The stored object stays within its bound. -/
def assertArchiveObjectSize (bytes : Nat) (limits : ArchiveLimits) :
    Except ArchiveFormatError Unit :=
  if bytes > limits.maxObjectBytes then
    tooLarge (text "Archive is " ++ formatMiB bytes ++ text ", above the " ++
      formatMiB limits.maxObjectBytes ++ text " upload limit")
  else .ok ()

def metadataName : Text := text "metadata.json"

def documentationName : Text := text "documentation.json"

/-- `FLEET_SNAPSHOT_APPLY_FILENAMES`. -/
def fileNames : List Text := [text "compose.yaml", text ".env"]

def slash : UInt16 := unit '/'

def maxSafeInteger : Nat := 9007199254740991

/-- A read `nodes` segment. -/
structure NodeSegment where
  nodeId : Nat
  nodeName : Text

/-- The id and the name of a node. -/
def parseNodeSegment (segment : Text) : Option NodeSegment :=
  let idStr := segment.takeWhile fun c => c ≠ unit '_'
  match idStr, segment.dropWhile fun c => c ≠ unit '_' with
  | c :: _, _ :: nodeName =>
    if Json.isDigit c && c ≠ unit '0' && idStr.all Json.isDigit &&
        value idStr ≤ maxSafeInteger && !nodeName.isEmpty then
      some ⟨value idStr, nodeName⟩
    else none
  | _, _ => none

/-- The node, the stack and the file of an entry's name. -/
def fileSegments (name : Text) : Option (Text × Text × Text) :=
  match name.splitOn slash with
  | [nodes, node, stack, file] =>
    if nodes = text "nodes" && !node.isEmpty && !stack.isEmpty && !file.isEmpty then
      some (node, stack, file)
    else none
  | _ => none

/-- The names the reader takes. -/
def isAllowedEntryName (name : Text) : Bool :=
  if name.contains (unit '\\') || name.head? = some slash ||
      (name.splitOn slash).contains (text "..") then false
  else if name = metadataName || name = documentationName then true
  else
    match fileSegments name with
    | some (node, _, file) => fileNames.contains file && (parseNodeSegment node).isSome
    | none => false

/-- Whether a name survives being stored. -/
def isArchiveStorableName (name : Text) : Bool :=
  !name.contains 0 && Utf8.decode (Utf8.encode name) = name

/-- An entry to be written. -/
structure ArchiveEntryPlan where
  name : Text
  content : Text

/-- The check before packing. -/
def assertPublishableEntries (entries : List ArchiveEntryPlan) :
    Except ArchiveFormatError Unit :=
  match entries.find? fun e => !(isArchiveStorableName e.name && isAllowedEntryName e.name) with
  | some entry =>
    .error ⟨.invalidEntryName, text "Archive entry " ++ Json.quote entry.name ++
      text " cannot be stored in the archive format the import path reads. Rename the node or stack it belongs to and take a new snapshot before uploading again."⟩
  | none => .ok ()

/-- A walk over `..`. -/
def dotDot : Text → Option (Text × Nat)
  | c :: d :: _ => if c = unit '.' && d = unit '.' then some ([unit '_'], 2) else none
  | _ => none

/-- A segment without `..` and separators. -/
def sanitizePathSegment (input : Text) : Text :=
  let cleaned := (replaceAll dotDot 0 input).map fun c =>
    if c = unit '\\' || c = slash then unit '_' else c
  if !cleaned.isEmpty && cleaned.all (fun c => c = unit '.') then [unit '_'] else cleaned

/-- A stored file of a snapshot. -/
structure SnapshotFile where
  nodeId : Int
  nodeName : Text
  stackName : Text
  filename : Text
  content : Text

/-- The name a file is packed under. -/
def entryName (file : SnapshotFile) : Text :=
  text "nodes/" ++ decimalInt file.nodeId ++ text "_" ++ sanitizePathSegment file.nodeName ++
    text "/" ++ sanitizePathSegment file.stackName ++ text "/" ++ sanitizePathSegment file.filename

/-- The part of a name that says the node. -/
def nodeSegment (file : SnapshotFile) : Text :=
  decimalInt file.nodeId ++ unit '_' :: sanitizePathSegment file.nodeName

variable {name : Text} (file : SnapshotFile)

/-- The four segments of a name. -/
theorem entryName_eq :
    entryName file = text "nodes" ++ slash :: (nodeSegment file ++
      slash :: (sanitizePathSegment file.stackName ++
        slash :: sanitizePathSegment file.filename)) := by
  unfold entryName nodeSegment
  rw [show text "nodes/" = text "nodes" ++ [slash] from by decide,
    show text "_" = [unit '_'] from by decide, show text "/" = [slash] from by decide]
  simp only [append_assoc, cons_append, nil_append]

/-- A sanitized segment has no separator. -/
theorem slash_notMem_sanitize (input : Text) : slash ∉ sanitizePathSegment input := by
  unfold sanitizePathSegment
  dsimp only
  intro h
  split at h
  · exact absurd h (by decide)
  · obtain ⟨c, _, hc⟩ := mem_map.mp h
    split at hc
    · exact absurd hc (by decide)
    · rename_i hnot
      exact hnot (by simp [hc])

theorem notMem_decimal {c : UInt16} (h : Json.isDigit c = false) (n : Nat) : c ∉ decimal n := by
  intro hc
  rw [decimal_digits n c hc] at h
  cases h

theorem notMem_decimalInt {c : UInt16} (h : Json.isDigit c = false) (hminus : c ≠ unit '-')
    (n : Int) : c ∉ decimalInt n := by
  cases n with
  | ofNat n => exact notMem_decimal h n
  | negSucc n =>
    intro hc
    rcases mem_cons.mp hc with heq | hc
    · exact hminus heq
    · exact notMem_decimal h (n + 1) hc

theorem slash_notMem_nodeSegment : slash ∉ nodeSegment file := by
  intro h
  rcases mem_append.mp h with h | h
  · exact notMem_decimalInt (by decide) (by decide) file.nodeId h
  · rcases mem_cons.mp h with heq | h
    · exact absurd heq (by decide)
    · exact slash_notMem_sanitize file.nodeName h

/-- The segments are read back. -/
theorem splitOn_entryName :
    (entryName file).splitOn slash = [text "nodes", nodeSegment file,
      sanitizePathSegment file.stackName, sanitizePathSegment file.filename] := by
  have hnodes : slash ∉ text "nodes" := by decide
  rw [entryName_eq, splitOn_append_cons_self_of_not_mem hnodes,
    splitOn_append_cons_self_of_not_mem (slash_notMem_nodeSegment file),
    splitOn_append_cons_self_of_not_mem (slash_notMem_sanitize file.stackName),
    splitOn_eq_singleton (slash_notMem_sanitize file.filename)]

/-- The name of a file is cut where it was put together. -/
theorem fileSegments_entryName {file : SnapshotFile} {segments : Text × Text × Text}
    (h : fileSegments (entryName file) = some segments) :
    segments = (nodeSegment file, sanitizePathSegment file.stackName,
      sanitizePathSegment file.filename) := by
  unfold fileSegments at h
  rw [splitOn_entryName] at h
  dsimp only at h
  split at h
  · exact (Option.some.inj h).symm
  · cases h

theorem entryName_ne_of_splitOn (h : (name.splitOn slash).length ≠ 4) (file : SnapshotFile) :
    entryName file ≠ name := by
  rintro rfl
  rw [splitOn_entryName] at h
  exact h rfl

/-- No file takes the metadata's name. -/
theorem entryName_ne_metadata : entryName file ≠ metadataName :=
  entryName_ne_of_splitOn (by decide) file

theorem entryName_ne_documentation : entryName file ≠ documentationName :=
  entryName_ne_of_splitOn (by decide) file

/-- The node of a name is read back. -/
theorem parseNodeSegment_entry {file : SnapshotFile} {segment : NodeSegment}
    (h : parseNodeSegment (nodeSegment file) = some segment) :
    (segment.nodeId : Int) = file.nodeId ∧
      segment.nodeName = sanitizePathSegment file.nodeName := by
  have hcut : ∀ c ∈ decimalInt file.nodeId, (decide (c ≠ unit '_')) = true := by
    intro c hc
    refine decide_eq_true fun heq => ?_
    rw [heq] at hc
    exact notMem_decimalInt (by decide) (by decide) file.nodeId hc
  have htake : (nodeSegment file).takeWhile (fun c => c ≠ unit '_') = decimalInt file.nodeId := by
    unfold nodeSegment
    rw [takeWhile_append_of_pos hcut, takeWhile_cons_of_neg (by decide), append_nil]
  have hdrop : (nodeSegment file).dropWhile (fun c => c ≠ unit '_') =
      unit '_' :: sanitizePathSegment file.nodeName := by
    unfold nodeSegment
    rw [dropWhile_append_of_pos hcut, dropWhile_cons_of_neg (by decide)]
  unfold parseNodeSegment at h
  rw [htake, hdrop] at h
  cases hid : file.nodeId with
  | ofNat n =>
    rw [hid] at h
    cases hdecimal : decimalInt (Int.ofNat n) with
    | nil =>
      rw [hdecimal] at h
      cases h
    | cons c cs =>
      rw [hdecimal] at h
      dsimp only at h
      split at h
      · rw [← Option.some.inj h, ← hdecimal]
        refine ⟨?_, rfl⟩
        show ((value (decimal n) : Nat) : Int) = Int.ofNat n
        rw [value_decimal]
        rfl
      · cases h
  | negSucc n =>
    rw [hid] at h
    dsimp only [decimalInt] at h
    cases h

/-- An allowed name is not empty. -/
theorem allowed_ne_nil (h : isAllowedEntryName name = true) : name ≠ [] := by
  rintro rfl
  exact absurd h (by decide)

/-- A name that is no directory's. -/
theorem allowed_getLast (h : isAllowedEntryName name = true) : name.getLast? ≠ some slash := by
  intro hlast
  obtain ⟨directory, heq⟩ : ∃ directory, name = directory ++ [slash] :=
    getLast?_eq_some_iff.mp hlast
  have hsegments : fileSegments name = none := by
    unfold fileSegments
    rw [heq, splitOn_append_cons_self, splitOn_nil]
    split
    · rename_i nodes node stackName file hsplit
      have hfile : file = [] := by
        have hends := congrArg getLast? hsplit
        rw [getLast?_append, getLast?_singleton] at hends
        exact (Option.some.inj hends).symm
      rw [hfile]
      simp
    · rfl
  unfold isAllowedEntryName at h
  rw [hsegments] at h
  split at h
  · cases h
  · split at h
    · rename_i hnames
      rw [Bool.or_eq_true, decide_eq_true_eq, decide_eq_true_eq] at hnames
      rcases hnames with hname | hname
      · rw [hname] at hlast
        exact absurd hlast (by decide)
      · rw [hname] at hlast
        exact absurd hlast (by decide)
    · cases h

/-- What an allowed name of a file says. -/
theorem allowed_entryName {file : SnapshotFile} (h : isAllowedEntryName (entryName file) = true) :
    fileSegments (entryName file) = some (nodeSegment file, sanitizePathSegment file.stackName,
        sanitizePathSegment file.filename) ∧
      fileNames.contains (sanitizePathSegment file.filename) = true ∧
      (parseNodeSegment (nodeSegment file)).isSome = true := by
  unfold isAllowedEntryName at h
  split at h
  · cases h
  · split at h
    · rename_i hnames
      rw [Bool.or_eq_true, decide_eq_true_eq, decide_eq_true_eq] at hnames
      rcases hnames with hname | hname
      · exact absurd hname (entryName_ne_metadata file)
      · exact absurd hname (entryName_ne_documentation file)
    · cases hsegments : fileSegments (entryName file) with
      | none =>
        rw [hsegments] at h
        cases h
      | some segments =>
        have hcut := fileSegments_entryName hsegments
        rw [hsegments, hcut] at h
        rw [Bool.and_eq_true] at h
        exact ⟨by rw [hcut], h.1, h.2⟩

theorem replaceAll_dotDot (t : Text) :
    unit '_' ∈ replaceAll dotDot 0 t ∨ replaceAll dotDot 0 t = t := by
  induction t with
  | nil => exact .inr rfl
  | cons c cs ih =>
    rw [replaceAll]
    cases hdots : dotDot (c :: cs) with
    | none =>
      rcases ih with hmem | heq
      · exact .inl (mem_cons_of_mem c hmem)
      · exact .inr (by rw [heq])
    | some out =>
      refine .inl ?_
      unfold dotDot at hdots
      split at hdots
      · split at hdots
        · cases hdots
          exact mem_append_left _ mem_cons_self
        · cases hdots
      · cases hdots

/-- A segment without an underscore was not changed. -/
theorem sanitize_eq {input : Text} (h : unit '_' ∉ sanitizePathSegment input) :
    sanitizePathSegment input = input := by
  unfold sanitizePathSegment at h ⊢
  dsimp only at h ⊢
  split at h
  · exact absurd mem_cons_self h
  · rename_i hdots
    rw [if_neg hdots]
    have hcleaned : replaceAll dotDot 0 input = input := by
      rcases replaceAll_dotDot input with hmem | heq
      · refine absurd (mem_map.mpr ⟨_, hmem, ?_⟩) h
        exact if_neg (by decide)
      · exact heq
    rw [hcleaned] at h ⊢
    refine (map_congr_left fun c hc => if_neg fun hsep => h ?_).trans (map_id' input)
    exact mem_map.mpr ⟨c, hc, if_pos hsep⟩

/-- A file that an archive may hold keeps its name. -/
theorem sanitize_filename {input : Text}
    (h : fileNames.contains (sanitizePathSegment input) = true) :
    sanitizePathSegment input = input := by
  refine sanitize_eq fun hmem => ?_
  have hnames : ∀ name ∈ fileNames, unit '_' ∉ name := by decide
  exact hnames _ (contains_iff_mem.mp h) hmem

end Sencho.Archive
