import Sencho.Archive.Entries

/-!
# The object of an archive

The entries of an archive are packed into a tar, the tar is compressed, and where archives are
encrypted the result is sealed with a passphrase.  What is read is bounded at each of these
layers.  The tar library, the compression and the cipher are parameters.
-/

namespace Sencho.Archive

open Verified CodeUnits List

/-- An entry as the tar library reports it. -/
structure TarEntry where
  isFile : Bool
  name : Text
  size : Nat
  body : Bytes

/-- How deciphering fails. -/
inductive DecipherFailure where
  | authentication
  | other

/-- What is used of the tar library, the compression and the cipher.  A tar that is not valid
may yield entries before it fails. -/
structure Codecs where
  pack : List (Text × Bytes) → Bytes
  extract : Bytes → List TarEntry × Bool
  gzip : Bytes → Bytes
  gunzip : Bytes → Option Bytes
  scrypt : Text → Bytes → Bytes
  encipher : Bytes → Bytes → Bytes → Bytes × Bytes
  decipher : Bytes → Bytes → Bytes → Bytes → Except DecipherFailure Bytes

/-- The bytes of a cipher's tag. -/
def tagLen : Nat := 16

/-- What is documented of them: they decode what they encoded, a compressed object begins with
its own two bytes, and a tag has its length. -/
structure Codecs.Decodes (c : Codecs) : Prop where
  extract_pack : ∀ es : List (Text × Bytes),
    (∀ e ∈ es, isArchiveStorableName e.1 = true ∧ e.1 ≠ [] ∧ e.1.getLast? ≠ some slash) →
      c.extract (c.pack es) = (es.map fun e => ⟨true, e.1, e.2.length, e.2⟩, true)
  gunzip_gzip : ∀ b, c.gunzip (c.gzip b) = some b
  gzip_magic : ∀ b, ∃ rest, c.gzip b = 0x1f :: 0x8b :: rest
  decipher_encipher : ∀ key iv b,
    c.decipher key iv (c.encipher key iv b).2 (c.encipher key iv b).1 = .ok b
  tag_length : ∀ key iv b, (c.encipher key iv b).2.length = tagLen

/-- `SCENC1`. -/
def magic : Bytes := [0x53, 0x43, 0x45, 0x4e, 0x43, 0x31]

def version : UInt8 := 1

def saltLen : Nat := 16

def ivLen : Nat := 12

def headerLen : Nat := magic.length + 1 + saltLen + ivLen

/-- The magic bytes stand first. -/
def isEncryptedArchive (bytes : Bytes) : Bool := magic.isPrefixOf bytes

variable (c : Codecs)

/-- Encrypt under a passphrase. -/
def sealArchive (plaintext : Bytes) (passphrase : Text) (salt iv : Bytes) :
    Except ArchiveFormatError Bytes :=
  if salt.length ≠ saltLen ∨ iv.length ≠ ivLen then
    badArchive "Archive seal parameters are the wrong length"
  else
    let r := c.encipher (c.scrypt passphrase salt) iv plaintext
    .ok (magic ++ [version] ++ salt ++ iv ++ r.1 ++ r.2)

/-- Undo `sealArchive`. -/
def decryptArchive (blob : Bytes) (passphrase : Text) : Except ArchiveFormatError Bytes :=
  if !isEncryptedArchive blob || blob.length < headerLen + tagLen then
    badArchive "Archive header is incomplete"
  else if blob[magic.length]? ≠ some version then
    badArchive "Archive version is not supported"
  else
    let salt := (blob.drop (magic.length + 1)).take saltLen
    let iv := (blob.drop (headerLen - ivLen)).take ivLen
    let tag := blob.drop (blob.length - tagLen)
    let ciphertext := (blob.drop headerLen).take (blob.length - tagLen - headerLen)
    match c.decipher (c.scrypt passphrase salt) iv tag ciphertext with
    | .ok plaintext => .ok plaintext
    | .error .authentication => .error ⟨.invalidPassphrase, text "Passphrase is incorrect"⟩
    | .error .other => badArchive "Archive could not be decrypted"

/-- The gzip of a plain or sealed object. -/
def plaintextGzip (objectBytes : Bytes) (passphrase : Option Text) :
    Except ArchiveFormatError Bytes :=
  if !isEncryptedArchive objectBytes then .ok objectBytes
  else
    match passphrase.filter fun p => p ≠ [] with
    | none => .error ⟨.passphraseRequired, text "A passphrase is required to read this archive"⟩
    | some passphrase => decryptArchive c objectBytes passphrase

/-- What the tar library is given. -/
def ArchiveEntryPlan.packed (e : ArchiveEntryPlan) : Text × Bytes := (e.name, Utf8.encode e.content)

/-- Check, pack and compress. -/
def packSnapshotArchive (entries : List ArchiveEntryPlan) (limits : ArchiveLimits) :
    Except ArchiveFormatError Bytes := do
  assertPublishableEntries entries
  let tar := c.pack (entries.map ArchiveEntryPlan.packed)
  if tar.length > limits.maxTarBytes then
    tooLarge (text "Archive would expand past the " ++ formatMiB limits.maxTarBytes ++
      text " recovery limit")
  else
    let archive := c.gzip tar
    assertArchiveObjectSize archive.length limits
    return archive

/-- Decompress within a bound. -/
def gunzipLimited (input : Bytes) (maxOut : Nat) : Except ArchiveFormatError Bytes :=
  match c.gunzip input with
  | none => badArchive "Archive is not a valid gzip file"
  | some tar =>
    if tar.length > maxOut then tooLarge (text "Archive expands past the size limit")
    else .ok tar

/-- The bound on one entry. -/
def entryByteLimit (name : Text) (limits : ArchiveLimits) : Nat :=
  if name = metadataName then limits.maxMetadataBytes
  else if name = documentationName then limits.maxDocumentationBytes
  else limits.maxEntryBytes

/-- One entry of a tar, where some bytes are read already. -/
def takeEntry (limits : ArchiveLimits) (used : Nat) (e : TarEntry) :
    Except ArchiveFormatError (Text × Bytes) :=
  if !e.isFile then badArchive "Archive contains a non-file entry"
  else if !isAllowedEntryName e.name then badArchive "Archive contains an unexpected entry"
  else
    let limit := entryByteLimit e.name limits
    if e.size > limit ∨ used + e.size > limits.maxUncompressedBytes then
      tooLarge (text "Archive entry exceeds the size limit")
    else if e.body.length > limit then tooLarge (text "Archive entry exceeds the size limit")
    else if used + e.body.length > limits.maxUncompressedBytes then
      tooLarge (text "Archive expands past the size limit")
    else .ok (e.name, e.body)

/-- The entries of a tar behind those read so far. -/
def takeEntries (limits : ArchiveLimits) (read : List (Text × Bytes)) (used : Nat) :
    List TarEntry → Except ArchiveFormatError (List (Text × Bytes))
  | [] => .ok read
  | e :: es => do
    let row ← takeEntry limits used e
    if (read.map Prod.fst).contains row.1 then badArchive "Archive contains a duplicate entry"
    else if read.length ≥ limits.maxEntries then
      tooLarge (text "Archive has too many entries")
    else takeEntries limits (read ++ [row]) (used + row.2.length) es

/-- Every entry, checked as it comes. -/
def readTarEntries (tarBytes : Bytes) (limits : ArchiveLimits) :
    Except ArchiveFormatError (List (Text × Bytes)) := do
  let r := c.extract tarBytes
  let entries ← takeEntries limits [] 0 r.1
  if r.2 then return entries else badArchive "Archive is not a valid tar file"

theorem isEncryptedArchive_gzip {c : Codecs} (hc : c.Decodes) (b : Bytes) :
    isEncryptedArchive (c.gzip b) = false := by
  obtain ⟨rest, heq⟩ := hc.gzip_magic b
  rw [heq]
  rfl

/-- What was sealed is opened with the same passphrase. -/
theorem decryptArchive_sealArchive {c : Codecs} (hc : c.Decodes) {plaintext : Bytes}
    {passphrase : Text} {salt iv blob : Bytes}
    (h : sealArchive c plaintext passphrase salt iv = .ok blob) :
    isEncryptedArchive blob = true ∧ decryptArchive c blob passphrase = .ok plaintext := by
  unfold sealArchive at h
  split at h
  · cases h
  rename_i hlengths
  rw [not_or, not_not, not_not] at hlengths
  obtain ⟨hsalt, hiv⟩ := hlengths
  have hblob := (Except.ok.inj h).symm
  generalize hr : c.encipher (c.scrypt passphrase salt) iv plaintext = r at hblob
  have htag : r.2.length = tagLen := by
    rw [← hr]
    exact hc.tag_length _ _ _
  have hplain : c.decipher (c.scrypt passphrase salt) iv r.2 r.1 = .ok plaintext := by
    rw [← hr]
    exact hc.decipher_encipher _ _ _
  have hencrypted : isEncryptedArchive blob = true := by
    rw [hblob]
    rfl
  have hhead : (magic ++ [version] ++ salt ++ iv).length = headerLen := by
    simp only [length_append, length_singleton, hsalt, hiv]
    rfl
  have hlength : blob.length = headerLen + r.1.length + tagLen := by
    rw [hblob, length_append, length_append, hhead, htag]
  have hversion : blob[magic.length]? = some version := by
    rw [hblob]
    rfl
  have hsaltAt : (blob.drop (magic.length + 1)).take saltLen = salt := by
    have heq : blob = (magic ++ [version]) ++ (salt ++ (iv ++ (r.1 ++ r.2))) := by
      rw [hblob]
      simp only [append_assoc]
    rw [heq, drop_left' (by rfl), take_left' hsalt]
  have hivAt : (blob.drop (headerLen - ivLen)).take ivLen = iv := by
    have hbefore : (magic ++ [version] ++ salt).length = headerLen - ivLen := by
      simp only [length_append, length_singleton, hsalt]
      rfl
    have heq : blob = (magic ++ [version] ++ salt) ++ (iv ++ (r.1 ++ r.2)) := by
      rw [hblob]
      simp only [append_assoc]
    rw [heq, drop_left' hbefore, take_left' hiv]
  have htagAt : blob.drop (blob.length - tagLen) = r.2 := by
    have hbefore : (magic ++ [version] ++ salt ++ iv ++ r.1).length = blob.length - tagLen := by
      rw [hlength, length_append, hhead, Nat.add_sub_cancel]
    rw [← hbefore, hblob]
    exact drop_left
  have htextAt : (blob.drop headerLen).take (blob.length - tagLen - headerLen) = r.1 := by
    have hafter : r.1.length = blob.length - tagLen - headerLen := by
      omega
    have heq : blob = (magic ++ [version] ++ salt ++ iv) ++ (r.1 ++ r.2) := by
      rw [hblob]
      simp only [append_assoc]
    rw [← hafter, heq, drop_left' hhead, take_left]
  refine ⟨hencrypted, ?_⟩
  unfold decryptArchive
  have hcomplete : ¬ (!isEncryptedArchive blob || blob.length < headerLen + tagLen) = true := by
    rw [hencrypted, Bool.not_true, Bool.false_or, decide_eq_true_eq, hlength]
    omega
  rw [if_neg hcomplete, if_neg (not_not.mpr hversion)]
  dsimp only
  rw [hsaltAt, hivAt, htagAt, htextAt, hplain]

theorem takeEntry_plan {limits : ArchiveLimits} {used : Nat} {e : Text × Bytes}
    (hallowed : isAllowedEntryName e.1 = true) (hlimit : e.2.length ≤ entryByteLimit e.1 limits)
    (hused : used + e.2.length ≤ limits.maxUncompressedBytes) :
    takeEntry limits used ⟨true, e.1, e.2.length, e.2⟩ = .ok e := by
  have hdeclared : ¬ (e.2.length > entryByteLimit e.1 limits ∨
      used + e.2.length > limits.maxUncompressedBytes) := by omega
  unfold takeEntry
  dsimp only
  rw [hallowed, if_neg (by decide), if_neg (by decide), if_neg hdeclared,
    if_neg (Nat.not_lt.mpr hlimit), if_neg (Nat.not_lt.mpr hused)]

/-- What was packed within the limits is read, unless a name comes twice. -/
theorem takeEntries_plan {limits : ArchiveLimits} {es read : List (Text × Bytes)} {used : Nat}
    (hallowed : ∀ e ∈ es, isAllowedEntryName e.1 = true)
    (hlimit : ∀ e ∈ es, e.2.length ≤ entryByteLimit e.1 limits)
    (hused : used + (es.map fun e => e.2.length).sum ≤ limits.maxUncompressedBytes)
    (hcount : read.length + es.length ≤ limits.maxEntries) (hread : (read.map Prod.fst).Nodup) :
    takeEntries limits read used (es.map fun e => ⟨true, e.1, e.2.length, e.2⟩) =
      if ((read ++ es).map Prod.fst).Nodup then .ok (read ++ es)
      else badArchive "Archive contains a duplicate entry" := by
  induction es generalizing read used with
  | nil =>
    rw [append_nil, if_pos hread]
    rfl
  | cons e es ih =>
    rw [map_cons, sum_cons] at hused
    rw [length_cons] at hcount
    have hrow : takeEntry limits used ⟨true, e.1, e.2.length, e.2⟩ = .ok e :=
      takeEntry_plan (hallowed e mem_cons_self) (hlimit e mem_cons_self) (by omega)
    rw [map_cons, takeEntries, hrow]
    show (if (read.map Prod.fst).contains e.1 then _ else _) = _
    by_cases hmem : e.1 ∈ read.map Prod.fst
    · have htwice : ¬ ((read ++ e :: es).map Prod.fst).Nodup := by
        rw [map_append, map_cons]
        intro hnodup
        exact (disjoint_of_nodup_append hnodup) hmem mem_cons_self
      rw [if_pos (contains_iff_mem.mpr hmem), if_neg htwice]
    · have hnot : ¬ (read.map Prod.fst).contains e.1 = true := fun h =>
        hmem (contains_iff_mem.mp h)
      have hnext : ((read ++ [e]).map Prod.fst).Nodup := by
        rw [map_append]
        refine List.Nodup.append hread (nodup_singleton _) ?_
        intro name hname hlast
        rw [List.mem_singleton.mp hlast] at hname
        exact hmem hname
      rw [if_neg hnot, if_neg (by omega), ih (fun e' he' => hallowed e' (mem_cons_of_mem e he'))
        (fun e' he' => hlimit e' (mem_cons_of_mem e he')) (by omega)
        (by rw [length_append, length_singleton]; omega) hnext, append_assoc,
        singleton_append]

end Sencho.Archive
