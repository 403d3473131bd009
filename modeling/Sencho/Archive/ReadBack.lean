import Sencho.Archive.PlainCodecs
import Sencho.Archive.Snapshots

/-!
# What is uploaded is read back

The object of an upload opens with the same passphrase, layer by layer, since both sides read
the same limits.  What the upload does not check are the records: two captured files whose names
become one after sanitizing make an archive with a duplicate entry, and a warning without a
reason, or notes of another shape, one that the import refuses.
-/

namespace Sencho.Archive

open Verified CodeUnits Json List Option Utf8 Decimals

variable {ν : Type} {N : Numbers ν}
variable {gzip : Bytes} {c : Codecs} {files : List SnapshotFile}

theorem get?_back (fields : List (Text × Json ν)) (k : Text) :
    get? (backFields N [] fields) k = (get? fields k).map (back N) := by
  rw [get?_backFields]
  exact or_none

theorem warningNodeId_back (hN : Lawful N) (v : Option (Json ν)) :
    warningNodeId N (v.map (back N)) = warningNodeId N v := by
  cases v with
  | none => rfl
  | some v =>
    cases v with
    | num x =>
      rw [map_some, back]
      cases hfinite : N.finite x with
      | true => rfl
      | false =>
        have hsafe : N.safeInt x = none := by
          cases hint : N.safeInt x with
          | none => rfl
          | some n =>
            rw [hN.finite_of_safeInt x n hint] at hfinite
            cases hfinite
        have hid : isNodeId N x = false := by
          unfold isNodeId
          rw [hsafe]
        show malformedWarning = if isNodeId N x = true then _ else _
        rw [hid, if_neg Bool.false_ne_true]
    | null => rw [map_some, back]
    | bool b => rw [map_some, back]
    | str t => rw [map_some, back]
    | arr vs =>
      rfl
    | obj fields =>
      rfl

theorem warningText_back (v : Option (Json ν)) : warningText (v.map (back N)) = warningText v := by
  cases v with
  | none => rfl
  | some v =>
    cases v with
    | num x =>
      rw [map_some, back]
      split
      · rfl
      · rfl
    | null => rw [map_some, back]
    | bool b => rw [map_some, back]
    | str t => rw [map_some, back]
    | arr vs =>
      rfl
    | obj fields =>
      rfl

/-- A skipped node survives the text. -/
theorem parseSkippedNode_back (hN : Lawful N) (v : Json ν) :
    parseSkippedNode N (back N v) = parseSkippedNode N v := by
  cases v with
  | obj entry =>
    rw [back, parseSkippedNode, parseSkippedNode, get?_back, get?_back, get?_back,
      warningNodeId_back hN, warningText_back, warningText_back]
  | num x =>
    rw [back]
    split
    · rfl
    · rfl
  | null | bool b | str t => rw [back]
  | arr vs =>
    rfl

/-- A skipped stack survives the text. -/
theorem parseSkippedStack_back (hN : Lawful N) (v : Json ν) :
    parseSkippedStack N (back N v) = parseSkippedStack N v := by
  cases v with
  | obj entry =>
    rw [back, parseSkippedStack, parseSkippedStack, get?_back, get?_back, get?_back, get?_back,
      warningNodeId_back hN, warningText_back, warningText_back, warningText_back]
  | num x =>
    rw [back]
    split
    · rfl
    · rfl
  | null | bool b | str t => rw [back]
  | arr vs =>
    rfl

section

variable {record : Json ν → Except ArchiveFormatError α} {α : Type}
  (h : ∀ v, record (back N v) = record v)
include h

theorem mapM_backElements (vs : List (Json ν)) :
    (backElements N vs).mapM record = vs.mapM record := by
  induction vs with
  | nil => rfl
  | cons v vs ih => rw [backElements, mapM_cons, mapM_cons, h, ih]

/-- Warnings are read from what is read back as from what was written. -/
theorem parseWarnings_back (v : Json ν) :
    parseWarnings record (some (back N v)) = parseWarnings record (some v) := by
  cases v with
  | arr vs =>
    exact mapM_backElements h vs
  | num x =>
    rw [back]
    split
    · rfl
    · rfl
  | null | bool b | str t => rw [back]
  | obj fields =>
    rfl

end

/-- The stacks an upload says were skipped, where the row knows. -/
def Snapshot.writtenStacks (N : Numbers ν) (snapshot : Snapshot) : Option (Json ν) :=
  if snapshot.warningsKnown = 0 then none else some (snapshot.recordedStacks N)

/-- The fields an import looks up. -/
structure MetadataRecord (N : Numbers ν) (snapshot : Snapshot) (record : List (Text × Json ν)) :
    Prop where
  version : get? record (text "archive_version") = some (back N (.num (N.ofInt 2)))
  description : get? record (text "description") = some (.str snapshot.description)
  createdBy : get? record (text "created_by") = some (.str snapshot.createdBy)
  createdAt : get? record (text "created_at") = some (back N (.num (N.ofInt snapshot.createdAt)))
  skippedNodes : get? record (text "skipped_nodes") = some (back N (snapshot.recordedNodes N))
  skippedStacks : get? record (text "skipped_stacks") = (snapshot.writtenStacks N).map (back N)

/-- The metadata is an object. -/
theorem metadata_record (instanceId : Text) (snapshot : Snapshot) (documentation : Text) :
    ∃ record, back N (metadata N instanceId snapshot documentation) = .obj record ∧
      MetadataRecord N snapshot record := by
  unfold metadata
  refine ⟨_, rfl, ?_⟩
  by_cases hknown : snapshot.warningsKnown = 0
  · constructor
    all_goals rw [get?_back]; simp +decide [get?, hknown, back, Snapshot.writtenStacks]
  · constructor
    all_goals rw [get?_back]; simp +decide [get?, hknown, back, Snapshot.writtenStacks]

/-- The metadata of an upload, as an import reads it. -/
theorem parseMetadata_metadata [DecidableEq ν] (hN : Lawful N) (instanceId : Text)
    (snapshot : Snapshot) (documentation : Text) :
    ∃ nodeCount stackCount instance?, parseMetadata N
        (stringify N 2 (metadata N instanceId snapshot documentation)) = do
      let skippedNodes ← parseSkippedNodes N (some (snapshot.recordedNodes N))
      let skippedStacks ← parseRecordedStacks N (snapshot.writtenStacks N)
      return {
        description := snapshot.description
        createdBy := snapshot.createdBy
        createdAt := N.ofInt snapshot.createdAt
        skippedNodes, skippedStacks, nodeCount, stackCount
        instanceId := instance? } := by
  obtain ⟨record, hrecord, h⟩ := metadata_record (N := N) instanceId snapshot documentation
  refine ⟨asCount N (get? record (text "node_count")), asCount N (get? record (text "stack_count")),
    (asText (get? record (text "instance_id"))).filter fun t => t ≠ [], ?_⟩
  have hnumber : ∀ n, back N (.num (N.ofInt n)) = .num (N.ofInt n) := by
    intro n
    rw [back, if_pos (hN.finite_ofInt n)]
  have hversion : ¬ (N.ofInt 2 ≠ N.ofInt 1 ∧ N.ofInt 2 ≠ N.ofInt 2) := fun hne => hne.2 rfl
  have hfinite : (some (N.ofInt snapshot.createdAt)).filter N.finite =
      some (N.ofInt snapshot.createdAt) := by
    rw [filter_some, if_pos (hN.finite_ofInt _)]
  have hnodes : parseSkippedNodes N (some (back N (snapshot.recordedNodes N))) =
      parseSkippedNodes N (some (snapshot.recordedNodes N)) :=
    parseWarnings_back (parseSkippedNode_back hN) _
  have hstacks : parseRecordedStacks N ((snapshot.writtenStacks N).map (back N)) =
      parseRecordedStacks N (snapshot.writtenStacks N) := by
    cases snapshot.writtenStacks N with
    | none => rfl
    | some v => exact congrArg (Except.map some) (parseWarnings_back (parseSkippedStack_back hN) v)
  unfold parseMetadata
  rw [parse_stringify hN, hrecord]
  dsimp only
  rw [h.version, hnumber]
  simp only [asNumber]
  rw [if_neg hversion, h.description, h.createdBy, h.createdAt, hnumber]
  simp only [asText]
  rw [hfinite, h.skippedNodes, h.skippedStacks, hnodes, hstacks]

/-- The entries of an upload. -/
def plannedEntries (metadataJson documentation : Text) (files : List SnapshotFile) :
    List (Text × Bytes) :=
  (metadataName, encode metadataJson) ::
    ((if documentation ≠ [] then [(documentationName, encode documentation)] else []) ++
      files.map fun f => (entryName f, encode f.content))

/-- Only the names of files may come twice. -/
theorem nodup_plannedEntries (metadataJson documentation : Text) (files : List SnapshotFile) :
    ((plannedEntries metadataJson documentation files).map Prod.fst).Nodup ↔
      (files.map entryName).Nodup := by
  have hmetadata : metadataName ∉ files.map entryName := by
    intro h
    obtain ⟨file, _, heq⟩ := mem_map.mp h
    exact entryName_ne_metadata file heq
  have hdocumentation : documentationName ∉ files.map entryName := by
    intro h
    obtain ⟨file, _, heq⟩ := mem_map.mp h
    exact entryName_ne_documentation file heq
  have hne : metadataName ≠ documentationName := by decide
  have hnames : (files.map fun f => (entryName f, encode f.content)).map Prod.fst =
      files.map entryName := by
    rw [List.map_map]
    rfl
  unfold plannedEntries
  by_cases hempty : documentation = []
  · rw [if_neg (not_not.mpr hempty), nil_append, map_cons, hnames, nodup_cons]
    exact ⟨fun h => h.2, fun h => ⟨hmetadata, h⟩⟩
  · rw [if_pos hempty, singleton_append, map_cons, map_cons, hnames, nodup_cons, nodup_cons]
    refine ⟨fun h => h.2.2, fun h => ⟨fun hmem => ?_, hdocumentation, h⟩⟩
    rcases mem_cons.mp hmem with heq | hmem
    · exact hne heq
    · exact hmetadata hmem

/-- What an upload that was packed has been checked for. -/
structure Published (c : Codecs) (entries : List (Text × Bytes)) (gzip : Bytes) : Prop where
  packed : gzip = c.gzip (c.pack entries)
  tar : (c.pack entries).length ≤ archiveLimits.maxTarBytes
  object : gzip.length ≤ archiveLimits.maxObjectBytes
  allowed : ∀ e ∈ entries, isArchiveStorableName e.1 = true ∧ isAllowedEntryName e.1 = true
  bounded : ∀ e ∈ entries, e.2.length ≤ entryByteLimit e.1 archiveLimits
  total : (entries.map fun e => e.2.length).sum ≤ archiveLimits.maxUncompressedBytes
  count : entries.length ≤ archiveLimits.maxEntries

/-- What passing the limits says. -/
theorem fits_of_assert {plan : ArchiveSizePlan} {limits : ArchiveLimits}
    (h : assertArchiveFitsLimits plan limits = .ok ()) :
    plan.entryCount ≤ limits.maxEntries ∧ plan.metadataBytes ≤ limits.maxMetadataBytes ∧
      plan.documentationBytes ≤ limits.maxDocumentationBytes ∧
      (∀ bytes ∈ plan.fileBytes, bytes ≤ limits.maxEntryBytes) ∧
      plan.total ≤ limits.maxUncompressedBytes := by
  unfold assertArchiveFitsLimits tooLarge at h
  split at h
  · cases h
  rename_i hcount
  split at h
  · cases h
  rename_i hmetadata
  split at h
  · cases h
  rename_i hdocumentation
  cases hfind : plan.fileBytes.find? fun bytes => bytes > limits.maxEntryBytes with
  | some bytes =>
    rw [hfind] at h
    cases h
  | none =>
    rw [hfind] at h
    dsimp only at h
    split at h
    · cases h
    rename_i htotal
    refine ⟨Nat.not_lt.mp hcount, Nat.not_lt.mp hmetadata, Nat.not_lt.mp hdocumentation,
      fun bytes hbytes => ?_, Nat.not_lt.mp htotal⟩
    have hnot := find?_eq_none.mp hfind bytes hbytes
    rw [decide_eq_true_eq] at hnot
    exact Nat.not_lt.mp hnot

/-- What a packed archive passed. -/
theorem published_of_pack {entries : List ArchiveEntryPlan}
    (h : packSnapshotArchive c entries archiveLimits = .ok gzip) :
    gzip = c.gzip (c.pack (entries.map ArchiveEntryPlan.packed)) ∧
      (c.pack (entries.map ArchiveEntryPlan.packed)).length ≤ archiveLimits.maxTarBytes ∧
      gzip.length ≤ archiveLimits.maxObjectBytes ∧
      ∀ e ∈ entries, isArchiveStorableName e.name = true ∧ isAllowedEntryName e.name = true := by
  unfold packSnapshotArchive assertPublishableEntries at h
  cases hfind : entries.find? fun e =>
      !(isArchiveStorableName e.name && isAllowedEntryName e.name) with
  | some entry =>
    rw [hfind] at h
    cases h
  | none =>
    rw [hfind] at h
    change (if _ then _ else _) = _ at h
    split at h
    · cases h
    rename_i htar
    unfold assertArchiveObjectSize at h
    by_cases hobject : (c.gzip (c.pack (entries.map ArchiveEntryPlan.packed))).length >
        archiveLimits.maxObjectBytes
    · rw [if_pos hobject] at h
      cases h
    · rw [if_neg hobject] at h
      have hgzip := (Except.ok.inj h).symm
      refine ⟨hgzip, Nat.not_lt.mp htar, ?_, fun e he => ?_⟩
      · rw [hgzip]
        exact Nat.not_lt.mp hobject
      · have hnot := find?_eq_none.mp hfind e he
        rw [Bool.not_eq_true, Bool.not_eq_false', Bool.and_eq_true] at hnot
        exact hnot

variable {documentation : Text} {settings : ArchiveSettings} {drawn : SealParameters}

/-- What was built keeps the limits and the names of the side that reads. -/
theorem published_of_build {instanceId : Text} {snapshot : Snapshot}
    (h : buildArchive c N instanceId snapshot files documentation = .ok gzip) :
    Published c (plannedEntries (stringify N 2 (metadata N instanceId snapshot documentation))
      documentation files) gzip := by
  unfold buildArchive at h
  dsimp only at h
  generalize hjson : stringify N 2 (metadata N instanceId snapshot documentation) = json at h ⊢
  cases hfits : assertArchiveFitsLimits ⟨(encode json).length,
      (encode documentation).length, files.map fun f => (encode f.content).length⟩
      archiveLimits with
  | error e =>
    rw [hfits] at h
    cases h
  | ok _ =>
    rw [hfits] at h
    obtain ⟨hcount, hmetadata, hdocumentation, hfiles, htotal⟩ := fits_of_assert hfits
    obtain ⟨hgzip, htar, hobject, hallowed⟩ := published_of_pack h
    have hpacked : (⟨metadataName, json⟩ :: ((if documentation ≠ [] then
        [⟨documentationName, documentation⟩] else []) ++
          files.map fun f => ⟨entryName f, f.content⟩)).map ArchiveEntryPlan.packed =
        plannedEntries json documentation files := by
      unfold plannedEntries
      rw [map_cons, map_append, List.map_map]
      by_cases hempty : documentation = []
      · rw [if_neg (not_not.mpr hempty), if_neg (not_not.mpr hempty)]
        rfl
      · rw [if_pos hempty, if_pos hempty]
        rfl
    rw [hpacked] at hgzip htar
    have hfile : ∀ e ∈ files.map (fun f => (entryName f, encode f.content)),
        e.2.length ≤ entryByteLimit e.1 archiveLimits := by
      intro e he
      obtain ⟨f, hf, rfl⟩ := mem_map.mp he
      unfold entryByteLimit
      exact hfiles _ (mem_map.mpr ⟨f, hf, rfl⟩)
    have hsum : ((files.map fun f => (entryName f, encode f.content)).map
        fun e => e.2.length) = files.map fun f => (encode f.content).length := by
      rw [List.map_map]
      rfl
    unfold ArchiveSizePlan.total at htotal
    unfold ArchiveSizePlan.entryCount at hcount
    dsimp only at hmetadata hdocumentation htotal hcount
    rw [length_map] at hcount
    refine ⟨hgzip, htar, hobject, fun e he => ?_, fun e he => ?_, ?_, ?_⟩
    · rw [← hpacked] at he
      obtain ⟨plan, hplan, rfl⟩ := mem_map.mp he
      exact hallowed plan hplan
    · unfold plannedEntries at he
      rcases mem_cons.mp he with rfl | he
      · exact hmetadata
      rcases mem_append.mp he with he | he
      · by_cases hempty : documentation = []
        · rw [if_neg (not_not.mpr hempty)] at he
          exact absurd he not_mem_nil
        · rw [if_pos hempty] at he
          rw [mem_singleton.mp he]
          exact hdocumentation
      · exact hfile e he
    · unfold plannedEntries
      rw [map_cons, sum_cons, map_append, sum_append, hsum]
      by_cases hempty : documentation = []
      · rw [if_neg (not_not.mpr hempty)]
        show (encode json).length + (0 + _) ≤ _
        omega
      · rw [if_pos hempty]
        show (encode json).length + ((encode documentation).length + 0 + _) ≤ _
        omega
    · unfold plannedEntries
      rw [length_cons, length_append, length_map]
      by_cases hempty : documentation = []
      · rw [if_neg (not_not.mpr hempty), length_nil]
        split at hcount <;> omega
      · have hbytes : (encode documentation).length > 0 := encode_pos hempty
        rw [if_pos hempty, length_singleton]
        rw [if_pos hbytes] at hcount
        omega

theorem isEncrypted_or (hc : c.Decodes)
    {b object : Bytes} (h : protectArchive c settings drawn (c.gzip b) = .ok object)
    (hsize : (c.gzip b).length ≤ archiveLimits.maxObjectBytes) :
    plaintextGzip c object settings.storedArchivePassphrase = .ok (c.gzip b) ∧
      object.length ≤ archiveLimits.maxObjectBytes := by
  unfold protectArchive at h
  by_cases hsettings : settings.archivesAreEncrypted = true
  · rw [hsettings, Bool.not_true, if_neg Bool.false_ne_true] at h
    cases hpassphrase : settings.storedArchivePassphrase.filter fun p => p ≠ [] with
    | none =>
      rw [hpassphrase] at h
      cases h
    | some passphrase =>
      rw [hpassphrase] at h
      dsimp only at h
      cases hsealed : sealArchive c (c.gzip b) passphrase drawn.salt drawn.iv with
      | error e =>
        rw [hsealed] at h
        cases h
      | ok body =>
        rw [hsealed] at h
        unfold assertArchiveObjectSize at h
        dsimp only at h
        by_cases hbody : body.length > archiveLimits.maxObjectBytes
        · rw [if_pos hbody] at h
          cases h
        · rw [if_neg hbody] at h
          have hobject := Except.ok.inj h
          obtain ⟨hencrypted, hopened⟩ := decryptArchive_sealArchive hc hsealed
          rw [← hobject]
          refine ⟨?_, Nat.not_lt.mp hbody⟩
          unfold plaintextGzip
          rw [hencrypted, Bool.not_true, if_neg Bool.false_ne_true, hpassphrase]
          exact hopened
  · rw [Bool.not_eq_true] at hsettings
    rw [hsettings, Bool.not_false, if_pos rfl] at h
    have hobject := Except.ok.inj h
    rw [← hobject]
    refine ⟨?_, hsize⟩
    unfold plaintextGzip
    rw [isEncryptedArchive_gzip hc, Bool.not_false, if_pos rfl]

/-- An uploaded object, opened: its entries are read, unless a name comes twice. -/
theorem open_object [DecidableEq ν] (hc : c.Decodes)
    {entries : List (Text × Bytes)} {object : Bytes} (hpublished : Published c entries gzip)
    (hprotect : protectArchive c settings drawn gzip = .ok object) :
    openSnapshotArchive c N object settings.storedArchivePassphrase =
      if (entries.map Prod.fst).Nodup then snapshotFromEntries N entries
      else badArchive "Archive contains a duplicate entry" := by
  have hsize := hpublished.object
  rw [hpublished.packed] at hprotect hsize
  obtain ⟨hplain, hobject⟩ := isEncrypted_or hc hprotect hsize
  have hnames : ∀ e ∈ entries,
      isArchiveStorableName e.1 = true ∧ e.1 ≠ [] ∧ e.1.getLast? ≠ some slash := by
    intro e he
    obtain ⟨hstorable, hallowed⟩ := hpublished.allowed e he
    exact ⟨hstorable, allowed_ne_nil hallowed, allowed_getLast hallowed⟩
  have hread : readTarEntries c (c.pack entries) archiveLimits =
      if (entries.map Prod.fst).Nodup then .ok entries
      else badArchive "Archive contains a duplicate entry" := by
    have htake := @takeEntries_plan archiveLimits entries [] 0
      (fun e he => (hpublished.allowed e he).2) hpublished.bounded
      (by rw [Nat.zero_add]; exact hpublished.total)
      (by rw [length_nil, Nat.zero_add]; exact hpublished.count) nodup_nil
    rw [nil_append] at htake
    unfold readTarEntries
    rw [hc.extract_pack entries hnames]
    dsimp only
    rw [htake]
    split
    · rfl
    · rfl
  have hgunzip : gunzipLimited c (c.gzip (c.pack entries)) archiveLimits.maxTarBytes =
      .ok (c.pack entries) := by
    unfold gunzipLimited
    rw [hc.gunzip_gzip]
    exact if_neg (Nat.not_lt.mpr hpublished.tar)
  unfold openSnapshotArchive
  rw [if_neg (Nat.not_lt.mpr hobject), hplain]
  show (gunzipLimited c (c.gzip (c.pack entries)) archiveLimits.maxTarBytes >>= _) = _
  rw [hgunzip]
  show (readTarEntries c (c.pack entries) archiveLimits >>= _) = _
  rw [hread]
  split
  · rfl
  · rfl

/-- A captured file, as an import reads it. -/
def capturedFile (f : SnapshotFile) : ImportedSnapshotFile :=
  ⟨f.nodeId, sanitizePathSegment f.nodeName, sanitizePathSegment f.stackName, f.filename, f.content⟩

/-- A packed file is imported as it was. -/
theorem importFile_entry {f : SnapshotFile} (hallowed : isAllowedEntryName (entryName f) = true)
    (hcontent : Utf8.WellFormed f.content) :
    importFile (entryName f, encode f.content) = .ok (capturedFile f) := by
  obtain ⟨hsegments, hfile, hnode⟩ := allowed_entryName hallowed
  unfold importFile
  rw [hsegments]
  dsimp only
  cases hparsed : parseNodeSegment (nodeSegment f) with
  | none =>
    rw [hparsed] at hnode
    cases hnode
  | some node =>
    obtain ⟨hid, hname⟩ := parseNodeSegment_entry hparsed
    dsimp only
    rw [hid, hname, sanitize_filename hfile, decode_encode hcontent]
    rfl

theorem mapM_importFile (hallowed : ∀ f ∈ files, isAllowedEntryName (entryName f) = true)
    (hcontent : ∀ f ∈ files, Utf8.WellFormed f.content) :
    (files.map fun f => (entryName f, encode f.content)).mapM importFile =
      .ok (files.map capturedFile) := by
  induction files with
  | nil => rfl
  | cons f files ih =>
    rw [map_cons, mapM_cons, importFile_entry (hallowed f mem_cons_self) (hcontent f mem_cons_self),
      ih (fun g hg => hallowed g (mem_cons_of_mem f hg))
        fun g hg => hcontent g (mem_cons_of_mem f hg)]
    rfl

/-- The two documents are found. -/
theorem entryBody_planned (metadataJson documentation : Text) (files : List SnapshotFile) :
    entryBody (plannedEntries metadataJson documentation files) metadataName =
        some (encode metadataJson) ∧
      entryBody (plannedEntries metadataJson documentation files) documentationName =
        if documentation = [] then none else some (encode documentation) := by
  have hne : metadataName ≠ documentationName := by decide
  have hfiles : (files.map fun f => (entryName f, encode f.content)).find?
      (fun e => e.1 = documentationName) = none := by
    refine find?_eq_none.mpr fun e he => ?_
    obtain ⟨f, _, rfl⟩ := mem_map.mp he
    rw [decide_eq_true_eq]
    exact entryName_ne_documentation f
  unfold entryBody plannedEntries
  refine ⟨?_, ?_⟩
  · rfl
  · rw [find?_cons_of_neg (by rw [decide_eq_true_eq]; exact hne)]
    by_cases hempty : documentation = []
    · rw [if_neg (not_not.mpr hempty), if_pos hempty, nil_append, hfiles]
      rfl
    · rw [if_pos hempty, if_neg hempty]
      rfl

theorem filter_planned (metadataJson documentation : Text) (files : List SnapshotFile) :
    (plannedEntries metadataJson documentation files).filter (fun e =>
        e.1 ≠ metadataName && e.1 ≠ documentationName) =
      files.map fun f => (entryName f, encode f.content) := by
  have hfiles : (files.map fun f => (entryName f, encode f.content)).filter (fun e =>
      e.1 ≠ metadataName && e.1 ≠ documentationName) =
      files.map fun f => (entryName f, encode f.content) := by
    refine filter_eq_self.mpr fun e he => ?_
    obtain ⟨f, _, rfl⟩ := mem_map.mp he
    rw [Bool.and_eq_true, decide_eq_true_eq, decide_eq_true_eq]
    exact ⟨entryName_ne_metadata f, entryName_ne_documentation f⟩
  unfold plannedEntries
  rw [filter_cons_of_neg (by simp), filter_append, hfiles]
  by_cases hempty : documentation = []
  · rw [if_neg (not_not.mpr hempty)]
    rfl
  · rw [if_pos hempty, filter_cons_of_neg (by simp)]
    rfl

/-- The body of the notes, where there are any. -/
def documentationBody (documentation : Text) : Option Bytes :=
  if documentation = [] then none else some (encode documentation)

/-- The snapshot an import makes of an upload's entries. -/
theorem snapshotFromEntries_planned [DecidableEq ν] {metadataJson : Text}
    (hjson : Utf8.WellFormed metadataJson)
    (hallowed : ∀ f ∈ files, isAllowedEntryName (entryName f) = true)
    (hcontent : ∀ f ∈ files, Utf8.WellFormed f.content) :
    snapshotFromEntries N (plannedEntries metadataJson documentation files) = do
      let data ← parseMetadata N metadataJson
      let documentation ← readDocumentation N (documentationBody documentation)
      return importedSnapshot N data documentation (files.map capturedFile) := by
  obtain ⟨hmetadata, hdocumentation⟩ := entryBody_planned metadataJson documentation files
  unfold snapshotFromEntries
  rw [hmetadata, hdocumentation, filter_planned, mapM_importFile hallowed hcontent]
  dsimp only
  rw [decode_encode hjson]
  rfl

/-- An import that gives what was captured: the warnings as records, and the stacks among them
only where the row knows. -/
structure ReadBack (N : Numbers ν) (snapshot : Snapshot) (files : List SnapshotFile)
    (documentation : Text) (imported : ImportedSnapshot ν) : Prop where
  description : imported.description = snapshot.description
  createdBy : imported.createdBy = snapshot.createdBy
  createdAt : imported.createdAt = N.ofInt snapshot.createdAt
  skippedNodes : ∃ records, parseSkippedNodes N (some (snapshot.recordedNodes N)) = .ok records ∧
    imported.skippedNodes = stringify N 0 (.arr (records.map skippedNodeJson))
  skippedStacks : if snapshot.warningsKnown = 0 then imported.warningsKnown = false
    else imported.warningsKnown = true ∧
      ∃ records, parseSkippedStacks N (some (snapshot.recordedStacks N)) = .ok records ∧
        imported.skippedStacks = stringify N 0 (.arr (records.map skippedStackJson))
  documentation : imported.documentation = documentation
  files : imported.files = files.map capturedFile

/-- No two files with one name, warnings that are records with a node, texts and a reason, and
notes that survive being stored and are what an import takes for notes. -/
structure Recoverable (N : Numbers ν) (snapshot : Snapshot) (files : List SnapshotFile)
    (documentation : Text) : Prop where
  names : (files.map entryName).Nodup
  skippedNodes : ∃ records, parseSkippedNodes N (some (snapshot.recordedNodes N)) = .ok records
  skippedStacks : snapshot.warningsKnown ≠ 0 →
    ∃ records, parseSkippedStacks N (some (snapshot.recordedStacks N)) = .ok records
  documentation : documentation ≠ [] → decode (encode documentation) = documentation ∧
    parseDocumentation N documentation = .ok documentation

/-- Documentation is kept verbatim. -/
theorem parseDocumentation_eq {t read : Text} (h : parseDocumentation N t = .ok read) :
    read = t := by
  unfold parseDocumentation badArchive at h
  split at h
  · cases h
  · split at h
    · split at h
      · exact (Except.ok.inj h).symm
      · cases h
    · cases h
  · cases h

/-- What an import answers, once the names of the files are told apart. -/
def imported [DecidableEq ν] (N : Numbers ν) (instanceId : Text) (snapshot : Snapshot)
    (files : List SnapshotFile) (documentation : Text) :
    Except ArchiveFormatError (ImportedSnapshot ν) := do
  let data ← parseMetadata N (stringify N 2 (metadata N instanceId snapshot documentation))
  let documentation ← readDocumentation N (documentationBody documentation)
  return importedSnapshot N data documentation (files.map capturedFile)

/-- The records and the notes of an upload are read exactly where they are what an import takes
for such. -/
theorem imported_iff [DecidableEq ν] (hN : Lawful N) {instanceId : Text} {snapshot : Snapshot}
    (hnames : (files.map entryName).Nodup) :
    (∃ read, imported N instanceId snapshot files documentation = .ok read ∧
        ReadBack N snapshot files documentation read) ↔
      Recoverable N snapshot files documentation := by
  obtain ⟨nodeCount, stackCount, instance?, hmetadata⟩ :=
    parseMetadata_metadata hN instanceId snapshot documentation
  unfold imported
  rw [hmetadata]
  constructor
  · rintro ⟨read, hread, hback⟩
    refine ⟨hnames, ?_, fun hknown => ?_, fun hnotes => ?_⟩
    · obtain ⟨records, hrecords, _⟩ := hback.skippedNodes
      exact ⟨records, hrecords⟩
    · have hstacks := hback.skippedStacks
      rw [if_neg hknown] at hstacks
      obtain ⟨_, records, hrecords, _⟩ := hstacks
      exact ⟨records, hrecords⟩
    · have hbody : readDocumentation N (documentationBody documentation) = .ok documentation := by
        cases hnodes : parseSkippedNodes N (some (snapshot.recordedNodes N)) with
        | error e =>
          rw [hnodes] at hread
          cases hread
        | ok nodes =>
          rw [hnodes] at hread
          cases hstacks : parseRecordedStacks N (snapshot.writtenStacks N) with
          | error e =>
            rw [hstacks] at hread
            cases hread
          | ok described =>
            rw [hstacks] at hread
            cases hbody : readDocumentation N (documentationBody documentation) with
            | error e =>
              rw [hbody] at hread
              cases hread
            | ok notes =>
              rw [hbody] at hread
              have hdocumentation := hback.documentation
              rw [← Except.ok.inj hread] at hdocumentation
              exact congrArg Except.ok hdocumentation
      unfold documentationBody at hbody
      rw [if_neg hnotes] at hbody
      have hsame : documentation = decode (encode documentation) :=
        parseDocumentation_eq hbody
      refine ⟨hsame.symm, ?_⟩
      have hparsed : parseDocumentation N (decode (encode documentation)) =
          .ok documentation := hbody
      rw [← hsame] at hparsed
      exact hparsed
  · rintro ⟨_, ⟨nodes, hnodes⟩, hstacks, hnotes⟩
    have hbody : readDocumentation N (documentationBody documentation) = .ok documentation := by
      unfold documentationBody
      by_cases hempty : documentation = []
      · rw [if_pos hempty, hempty]
        rfl
      · obtain ⟨hsame, hparsed⟩ := hnotes hempty
        rw [if_neg hempty]
        show parseDocumentation N (decode (encode documentation)) = _
        rw [hsame]
        exact hparsed
    rw [hnodes, hbody]
    by_cases hknown : snapshot.warningsKnown = 0
    · have hwritten : parseRecordedStacks N (snapshot.writtenStacks N) = .ok none := by
        unfold Snapshot.writtenStacks
        rw [if_pos hknown]
        rfl
      rw [hwritten]
      refine ⟨_, rfl, rfl, rfl, rfl, ⟨nodes, hnodes, rfl⟩, ?_, rfl, rfl⟩
      rw [if_pos hknown]
      rfl
    · obtain ⟨records, hrecords⟩ := hstacks hknown
      have hwritten : parseRecordedStacks N (snapshot.writtenStacks N) = .ok (some records) := by
        unfold Snapshot.writtenStacks
        rw [if_neg hknown]
        show (parseSkippedStacks N (some (snapshot.recordedStacks N))).map some = _
        rw [hrecords]
        rfl
      rw [hwritten]
      refine ⟨_, rfl, rfl, rfl, rfl, ⟨nodes, hnodes, rfl⟩, ?_, rfl, rfl⟩
      rw [if_neg hknown]
      exact ⟨rfl, records, hrecords, rfl⟩

/-- An uploaded object opens with its passphrase and reads back what was captured, exactly where
the snapshot is recoverable. -/
theorem archive_reads_back [DecidableEq ν] (hN : Lawful N) {c : Codecs} (hc : c.Decodes)
    {instanceId : Text} {snapshot : Snapshot} {files : List SnapshotFile} {gzip object : Bytes}
    (hcontent : ∀ f ∈ files, Utf8.WellFormed f.content)
    (hbuild : buildArchive c N instanceId snapshot files documentation = .ok gzip)
    (hprotect : protectArchive c settings drawn gzip = .ok object) :
    (∃ read, openSnapshotArchive c N object settings.storedArchivePassphrase = .ok read ∧
        ReadBack N snapshot files documentation read) ↔
      Recoverable N snapshot files documentation := by
  have hpublished := published_of_build hbuild
  have hallowed : ∀ f ∈ files, isAllowedEntryName (entryName f) = true := by
    intro f hf
    refine (hpublished.allowed (entryName f, encode f.content) ?_).2
    exact mem_cons_of_mem _ (mem_append_right _ (mem_map.mpr ⟨f, hf, rfl⟩))
  rw [open_object (N := N) hc hpublished hprotect, snapshotFromEntries_planned
    (wellFormed_stringify hN 2 _) hallowed hcontent]
  have hplanned := nodup_plannedEntries (stringify N 2 (metadata N instanceId snapshot
    documentation)) documentation files
  by_cases hnames : (files.map entryName).Nodup
  · rw [if_pos (hplanned.mpr hnames)]
    exact imported_iff hN hnames
  · rw [if_neg fun h => hnames (hplanned.mp h)]
    constructor
    · rintro ⟨read, hread, _⟩
      cases hread
    · exact fun h => absurd h.names hnames

/-- An imported snapshot of one node. -/
def fleetSnapshot (skippedNodes : Text) : Snapshot where
  id := 7
  description := text "nightly"
  createdBy := text "admin"
  nodeCount := 1
  stackCount := 2
  skippedNodes := skippedNodes
  skippedStacks := []
  createdAt := 1700000000000
  sourceInstanceId := some (text "other")
  origin := .imported
  warningsKnown := 1

/-- The stack `a..b` and the stack `a_b`. -/
def collidingFiles : List SnapshotFile :=
  [⟨1, text "hub", text "a..b", text "compose.yaml", []⟩,
    ⟨1, text "hub", text "a_b", text "compose.yaml", []⟩]

def plainSettings : ArchiveSettings := ⟨false, none⟩

def zeroParameters : SealParameters :=
  ⟨replicate saltLen 0, replicate ivLen 0, length_replicate, length_replicate⟩

/-- The upload succeeds, and no import reads it. -/
theorem colliding_unreadable :
    (collidingFiles.map fun f => (f.nodeId, f.stackName, f.filename)).Nodup ∧
      ∃ object, buildArchive plainCodecs integers [] (fleetSnapshot []) collidingFiles [] =
          .ok object ∧
        protectArchive plainCodecs plainSettings zeroParameters object = .ok object ∧
        ¬ ∃ read, openSnapshotArchive plainCodecs integers object none = .ok read ∧
          ReadBack integers (fleetSnapshot []) collidingFiles [] read := by
  have hrf : (buildArchive plainCodecs integers [] (fleetSnapshot []) collidingFiles
      []).toOption.map (fun object =>
        (openSnapshotArchive plainCodecs integers object none).isOk) = some false := by
    decide +kernel
  refine ⟨by decide, ?_⟩
  cases hbuild : buildArchive plainCodecs integers [] (fleetSnapshot []) collidingFiles
      [] with
  | error e =>
    rw [hbuild] at hrf
    cases hrf
  | ok object =>
    refine ⟨object, rfl, rfl, ?_⟩
    rintro ⟨read, hread, _⟩
    rw [hbuild] at hrf
    simp only [Except.toOption, map_some, hread] at hrf
    cases hrf

/-- One stack of one node, where another node was skipped. -/
def skippedNode : ArchiveSkippedNode Int := ⟨2, text "edge", text "timed out"⟩

def oneFile : List SnapshotFile :=
  [⟨1, text "hub", text "web", text "compose.yaml", text "services:"⟩]

def skippedNodeText : Text := stringify integers 0 (.arr [skippedNodeJson skippedNode])

def sealedSettings : ArchiveSettings := ⟨true, some (text "correct horse")⟩

/-- The example file is recoverable. -/
theorem oneFile_recoverable : Recoverable integers (fleetSnapshot skippedNodeText) oneFile [] := by
  have hnodes : (fleetSnapshot skippedNodeText).recordedNodes integers =
      back integers (.arr [skippedNodeJson skippedNode]) := by
    have hparse : parse integers skippedNodeText = _ :=
      parse_stringify integers_lawful 0 (.arr [skippedNodeJson skippedNode])
    unfold Snapshot.recordedNodes safeParseJson
    show (if skippedNodeText = [] then _ else _) = _
    show (parse integers skippedNodeText).getD (.arr []) = _
    rw [hparse]
    rfl
  refine ⟨nodup_singleton _, ?_, fun _ => ⟨[], rfl⟩, fun hne => absurd rfl hne⟩
  rw [hnodes]
  refine ⟨[skippedNode], ?_⟩
  show parseWarnings (parseSkippedNode integers) _ = _
  rfl

/-- It is uploaded under a passphrase and read back. -/
theorem oneFile_reads_back :
    ∃ gzip object, buildArchive plainCodecs integers [] (fleetSnapshot skippedNodeText)
        oneFile [] = .ok gzip ∧
      protectArchive plainCodecs sealedSettings zeroParameters gzip = .ok object ∧
      ∃ read, openSnapshotArchive plainCodecs integers object
          sealedSettings.storedArchivePassphrase = .ok read ∧
        ReadBack integers (fleetSnapshot skippedNodeText) oneFile [] read := by
  have hcontent : ∀ f ∈ oneFile, Utf8.WellFormed f.content := by
    intro f hf
    rw [mem_singleton.mp hf]
    exact .of_plain (by decide)
  have hbuilds : ((buildArchive plainCodecs integers [] (fleetSnapshot skippedNodeText)
      oneFile []).toOption.bind fun gzip =>
        (protectArchive plainCodecs sealedSettings zeroParameters gzip).toOption).isSome = true := by
    decide +kernel
  cases hbuild : buildArchive plainCodecs integers [] (fleetSnapshot skippedNodeText)
      oneFile [] with
  | error e =>
    rw [hbuild] at hbuilds
    cases hbuilds
  | ok gzip =>
    rw [hbuild] at hbuilds
    cases hprotect : protectArchive plainCodecs sealedSettings zeroParameters gzip with
    | error e =>
      simp only [Except.toOption, bind_some, hprotect] at hbuilds
      cases hbuilds
    | ok object =>
      exact ⟨gzip, object, rfl, hprotect, (archive_reads_back integers_lawful
        plainCodecs_decodes hcontent hbuild hprotect).mpr oneFile_recoverable⟩

end Sencho.Archive
