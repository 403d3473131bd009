import Mathlib.Data.List.AList
import Mathlib.Data.List.Sort
import Sencho.Verified.Interrupt
import Sencho.Verified.Runes

/-!
# The journaled rename swap of a volume

The recovery helper turns a staged restore into the live one inside the target
volume.  Every original top-level entry is renamed into the work directory,
every restored entry is renamed up, and only then are the root's own owner and
mode applied.  The plan file is the journal; the state is read back from the
directories and that plan.

This module embeds `swap.go`.  Every call is an interruptible program over the
volume: a rename, a journal write, a directory creation, a deletion and each
of the three metadata calls is one durable effect, and a run can be cut off
between any two of them.  A file system call that fails for a reason of its
own ends the call in the same state as a cut at that point, so only the
refusals the code decides itself are modelled as errors.  Syncing a directory
changes nothing here; a sync of a directory that may be missing is kept for
the error it reports then.

A directory is a finite map from names to entries.  An entry keeps what
`os.Rename` distinguishes (whether it is a directory) and its content, which
stays a type parameter.  Names are bytes, and the plan file is JSON.  The work directory
of the request's own id is a field of the volume rather than an entry of the root.
-/

namespace Sencho.Recovery

open Verified Verified.Interrupt Verified.Utf8 Prog

/-- A name as Go and the file system hold it: bytes that need not be UTF-8. -/
abbrev FileName := Bytes

/-- The bytes of an ASCII text. -/
def ascii (s : String) : Bytes := s.toList.map fun c => c.toNat.toUInt8

def workDirPrefix : FileName := ascii ".sencho-restore-"

/-- The characters `[0-9a-f]`. -/
def isLowerHex (b : UInt8) : Bool :=
  (0x30 ≤ b && b ≤ 0x39) || (0x61 ≤ b && b ≤ 0x66)

/-- Runs of hexadecimal digits of the given lengths, separated by dashes. -/
def hexGroups : List Nat → Bytes → Bool
  | [], bs => bs.isEmpty
  | [n], bs => bs.length == n && bs.all isLowerHex
  | n :: m :: ns, bs =>
    (bs.take n).length == n && (bs.take n).all isLowerHex &&
      (bs.drop n).head? == some 0x2d && hexGroups (m :: ns) (bs.drop (n + 1))

/-- The anchored pattern of an intent id: 8-4-4-4-12 hexadecimal digits. -/
def intentIDPattern (bs : Bytes) : Bool := hexGroups [8, 4, 4, 4, 12] bs

/-- The id of a request.  `runSwap` refuses every other string before it calls
one of the actions. -/
abbrev IntentId := { id : Bytes // intentIDPattern id = true }

/-- The name of the work directory of one restore. -/
def workDirName (id : IntentId) : FileName := workDirPrefix ++ id.1

/-- Whether a root entry is one of the helper's own swap directories. -/
def isWorkDirName (name : FileName) : Bool :=
  workDirPrefix.isPrefixOf name && intentIDPattern (name.drop workDirPrefix.length)

@[simp] theorem isWorkDirName_workDirName (id : IntentId) :
    isWorkDirName (workDirName id) = true := by
  have hinitial : workDirPrefix.isPrefixOf (workDirPrefix ++ id.1) = true := by
    rw [List.isPrefixOf_iff_prefix]
    exact List.prefix_append _ _
  rw [isWorkDirName, workDirName, hinitial, List.drop_left, id.2]
  rfl

theorem isAscii_of_isLowerHex {bs : Bytes} (h : bs.all isLowerHex = true) : IsAscii bs := by
  intro b hb
  have hdigit := List.all_eq_true.mp h b hb
  simp only [isLowerHex, Bool.or_eq_true, Bool.and_eq_true, decide_eq_true_eq] at hdigit
  rcases hdigit with ⟨-, hle⟩ | ⟨-, hle⟩
  · exact UInt8.lt_of_le_of_lt hle (by decide)
  · exact UInt8.lt_of_le_of_lt hle (by decide)

theorem isAscii_of_hexGroups {ns : List Nat} {bs : Bytes} (h : hexGroups ns bs = true) :
    IsAscii bs := by
  induction ns generalizing bs with
  | nil =>
    rw [List.isEmpty_iff.mp h]
    exact fun b hb => absurd hb List.not_mem_nil
  | cons n ns ih =>
    cases ns with
    | nil => exact isAscii_of_isLowerHex (Bool.and_eq_true _ _ ▸ h).2
    | cons m ns =>
      simp only [hexGroups, Bool.and_eq_true, beq_iff_eq, List.head?_drop] at h
      obtain ⟨⟨⟨-, hdigits⟩, hdash⟩, hrest⟩ := h
      intro b hb
      rw [← List.take_append_drop n bs, List.drop_eq_getElem?_toList_append, hdash] at hb
      rcases List.mem_append.mp hb with hb | hb
      · exact isAscii_of_isLowerHex hdigits b hb
      · rcases List.mem_cons.mp hb with rfl | hb
        · decide
        · exact ih hrest b hb

/-- The name of a work directory is ASCII. -/
theorem isAscii_of_isWorkDirName {name : FileName} (h : isWorkDirName name = true) :
    IsAscii name := by
  rw [isWorkDirName, Bool.and_eq_true, List.isPrefixOf_iff_prefix] at h
  obtain ⟨⟨rest, rfl⟩, hid⟩ := h
  rw [List.drop_left] at hid
  have hprefix : workDirPrefix.all (· < 0x80) = true := by decide
  intro b hb
  rcases List.mem_append.mp hb with hb | hb
  · exact of_decide_eq_true (List.all_eq_true.mp hprefix b hb)
  · exact isAscii_of_hexGroups hid b hb

/-- Drop the work directories a restored snapshot carries. -/
def withoutWorkDirs (names : List FileName) : List FileName :=
  names.filter fun name => !isWorkDirName name

/-- A directory entry: its kind, as a rename sees it, and its content. -/
structure Entry (C : Type) where
  isDir : Bool
  content : C
  deriving DecidableEq

abbrev Entries (C : Type) := AList (fun _ : FileName => Entry C)

/-- Owner, permission bits and modification time of a directory.  The type
bits of `st_mode` never change for a directory and are left out. -/
structure RootMeta where
  uid : UInt32
  gid : UInt32
  mode : BitVec 12
  mtime : Int

structure Folder (C : Type) where
  entries : Entries C
  stat : RootMeta

inductive SwapStatus where
  | planned
  | movingOriginals
  | movingIncoming
  | swapped
  | metadataPending
  | rolledBack
  | cleaned
  | inconsistent
  | absent
  deriving DecidableEq

def swapPlanVersion : Nat := 1

/-- The journal's record.  `originalRoot` is absent in a journal an older
helper wrote. -/
structure SwapPlan where
  version : Nat
  id : Bytes
  status : SwapStatus
  originals : List FileName
  incoming : List FileName
  root : RootMeta
  originalRoot : Option RootMeta
  rootDev : Int
  rootIno : Nat

/-- The record as `encoding/json` writes and reads it: in a string, U+FFFD takes the place of
every byte that is not UTF-8. -/
def SwapPlan.encoded (p : SwapPlan) : SwapPlan :=
  { p with
    id := coerce p.id
    originals := p.originals.map coerce
    incoming := p.incoming.map coerce }

@[simp] theorem SwapPlan.encoded_encoded (p : SwapPlan) : p.encoded.encoded = p.encoded := by
  simp [SwapPlan.encoded]

/-- What `plan.json` holds: a record, or bytes that do not parse as one. -/
inductive Journal where
  | plan (p : SwapPlan)
  | unreadable (detail : String)

/-- The two directories of entries inside a work directory: `original`, and
the restored snapshot root `incoming/data`. -/
inductive Side where
  | original
  | incoming
  deriving DecidableEq

/-- The three directories an entry can be in. -/
inductive Place where
  | root
  | work (s : Side)
  deriving DecidableEq

structure WorkDir (C : Type) where
  journal : Option Journal
  original : Option (Folder C)
  incoming : Option (Folder C)

/-- The volume as the helper of one restore sees it.  The work directory of
that restore is `work`, so the root's own entries never use its name. -/
structure Volume (id : IntentId) (C : Type) where
  root : Folder C
  work : Option (WorkDir C)
  dev : Int
  ino : Nat
  clock : Int
  reserved : workDirName id ∉ root.entries

variable {id : IntentId} {C : Type}

namespace Folder

def lookup (f : Folder C) (n : FileName) : Option (Entry C) := f.entries.lookup n

/-- Creating, replacing or removing an entry moves the modification time. -/
def touch (f : Folder C) (now : Int) : Folder C :=
  { f with stat := { f.stat with mtime := now } }

def put (f : Folder C) (now : Int) (n : FileName) (e : Entry C) : Folder C :=
  { f.touch now with entries := f.entries.insert n e }

def take (f : Folder C) (now : Int) (n : FileName) : Folder C :=
  { f.touch now with entries := f.entries.erase n }

end Folder

/-- A directory `os.MkdirAll(…, 0o700)` creates. -/
def newFolder (now : Int) : Folder C :=
  ⟨∅, ⟨0, 0, 0o700#12, now⟩⟩

namespace WorkDir

def side (w : WorkDir C) : Side → Option (Folder C)
  | .original => w.original
  | .incoming => w.incoming

def setSide (w : WorkDir C) (f : Option (Folder C)) : Side → WorkDir C
  | .original => { w with original := f }
  | .incoming => { w with incoming := f }

end WorkDir

namespace Volume

variable (v : Volume id C)

/-- Change the work directory, when there is one. -/
def onWork (g : WorkDir C → WorkDir C) : Volume id C :=
  { v with work := v.work.map g }

/-- The directory at a place, when it exists. -/
def folder : Place → Option (Folder C)
  | .root => some v.root
  | .work s => v.work.bind (·.side s)

def lookup (v : Volume id C) (p : Place) (n : FileName) : Option (Entry C) :=
  (v.folder p).bind (·.lookup n)

def journal (v : Volume id C) : Option Journal := v.work.bind (·.journal)

/-- `exists` of an entry of one of the three directories.  The work directory
itself is an entry of the root. -/
def has (p : Place) (n : FileName) : Bool :=
  (v.lookup p n).isSome || (p == .root && n == workDirName id && v.work.isSome)

/-- `listNames` of one of the three directories. -/
def listNames (p : Place) : List FileName :=
  let own := if p = .root ∧ v.work.isSome then [workDirName id] else []
  (((v.folder p).elim [] (·.entries.keys)) ++ own).insertionSort (· ≤ ·)

/-- The clock of the file system moves on. -/
def tick : Volume id C := { v with clock := v.clock + 1 }

/-- Put an entry into a directory.  The reserved name is never written. -/
def put (v : Volume id C) (p : Place) (n : FileName) (e : Entry C) : Volume id C :=
  match p with
  | .root =>
    if h : n = workDirName id then v
    else
      { v with
        root := v.root.put v.clock n e
        reserved := by
          rw [Folder.put, AList.mem_insert]
          rintro (heq | hmem)
          · exact h heq.symm
          · exact v.reserved hmem }
  | .work s => v.onWork fun w =>
    w.setSide ((w.side s).map (·.put v.clock n e)) s

/-- Take an entry out of a directory. -/
def take (v : Volume id C) (p : Place) (n : FileName) : Volume id C :=
  match p with
  | .root =>
    { v with
      root := v.root.take v.clock n
      reserved := by
        rw [Folder.take, AList.mem_erase]
        exact fun h => v.reserved h.2 }
  | .work s => v.onWork fun w =>
    w.setSide ((w.side s).map (·.take v.clock n)) s

/-- The effect of a rename that succeeds. -/
def move (src dst : Place) (n : FileName) : Volume id C :=
  match v.lookup src n with
  | none => v
  | some e => ((v.take src n).put dst n e).tick

/-- Set owner, mode or modification time of the root. -/
def setStat (g : RootMeta → RootMeta) : Volume id C :=
  { v with root := { v.root with stat := g v.root.stat } }

def setJournal (plan : SwapPlan) : Volume id C :=
  v.onWork ({ · with journal := some (.plan plan.encoded) })

/-- Remove what is left of the work directory and the directory itself. -/
def dropWork : Volume id C :=
  { v with work := none, root := v.root.touch v.clock, reserved := v.reserved }.tick

end Volume

inductive Errno where
  | enoent
  | eexist
  | enotdir
  | einval
  deriving DecidableEq

inductive SwapError where
  | noRestoredSnapshot
  | otherWorkDir
  | foreignJournal
  | workDirWithoutJournal
  | unreadableJournal (detail : String)
  | unknownVersion
  | noJournal
  | inconsistent
  | committed
  | notComplete
  | os (e : Errno)
  deriving DecidableEq

/-- The text each refusal is reported with. -/
def SwapError.message : SwapError → String
  | .noRestoredSnapshot => "no restored snapshot at incoming/data"
  | .otherWorkDir => "another restore work directory exists in this volume"
  | .foreignJournal => "the journal belongs to another restore"
  | .workDirWithoutJournal => "a work directory exists without a journal"
  | .unreadableJournal detail => "unreadable journal: " ++ detail
  | .unknownVersion => "unknown journal version"
  | .noJournal => "no journal: run prepare first"
  | .inconsistent => "inconsistent"
  | .committed => "the swap is committed and cannot be rolled back"
  | .notComplete => "the swap is not complete"
  | .os .enoent => "no such file or directory"
  | .os .eexist => "file exists"
  | .os .enotdir => "not a directory"
  | .os .einval => "invalid argument"

structure SwapReport where
  status : SwapStatus
  moved : Nat
  deriving DecidableEq

abbrev SwapM (id : IntentId) (C : Type) := Prog (Volume id C) SwapError

variable (v : Volume id C) (plan : SwapPlan)

/-- Why `os.Rename` of a name between two of the directories is refused: a
directory is never replaced, and a directory never replaces a file. -/
def renameError (src dst : Place) (n : FileName) : Option Errno :=
  match v.lookup src n, v.folder dst with
  | none, _ =>
    some (if src = .root ∧ n = workDirName id then .einval else .enoent)
  | some _, none => some .enoent
  | some e, some _ =>
    if dst = .root ∧ n = workDirName id then some .eexist
    else
      match v.lookup dst n with
      | none => none
      | some old =>
        if old.isDir then some .eexist
        else if e.isDir then some .enotdir else none

def rename (src dst : Place) (n : FileName) : SwapM id C Unit := do
  let v ← read
  match renameError v src dst n with
  | some e => fail (.os e)
  | none => write (·.move src dst n)

/-- `writePlan` replaces the journal atomically, through a temporary file. -/
def writePlan : SwapM id C Unit := write (·.setJournal plan)

/-- `os.MkdirAll` of one of the two directories inside the work directory. -/
def mkdirAll (s : Side) : SwapM id C Unit := do
  let v ← read
  guardedBy (v.folder (.work s)).isNone <|
    write fun v => v.onWork (·.setSide (some (newFolder v.clock)) s)

/-- Opening a directory to sync it fails when it is missing. -/
def syncDir (p : Place) : SwapM id C Unit := do
  let v ← read
  if (v.folder p).isSome then pure () else fail (.os .enoent)

def setTimes (mtime : Int) : SwapM id C Unit :=
  write (·.setStat ({ · with mtime := mtime }))

/-- Owner, then mode, then modification time of the root. -/
def applyRootMeta (m : RootMeta) : SwapM id C Unit := do
  write (·.setStat ({ · with uid := m.uid, gid := m.gid }))
  write (·.setStat ({ · with mode := m.mode }))
  setTimes m.mtime

/-- One deletion inside the work directory: the journal, an entry or a part of
one (`left` is what remains of it), or a directory with what it still holds. -/
inductive Removal (C : Type) where
  | journal
  | part (s : Side) (n : FileName) (left : Option (Entry C))
  | folder (s : Side)

/-- What one deletion leaves. -/
def Removal.apply (r : Removal C) (v : Volume id C) : Volume id C :=
  match r with
  | .journal => v.onWork ({ · with journal := none })
  | .part s n none => (v.take (.work s) n).tick
  | .part s n (some left) =>
    if (v.lookup (.work s) n).isSome then (v.put (.work s) n left).tick else v
  | .folder s => (v.onWork (·.setSide none s)).tick

/-- `os.RemoveAll(workDir)`: deletions in the order the directory yields them,
and the directory itself, with whatever it still holds, last. -/
def removeAll : List (Removal C) → SwapM id C Unit
  | [] => write Volume.dropWork
  | r :: rest => do
    write r.apply
    removeAll rest

/-- `os.RemoveAll` of one directory inside the work directory. -/
def removeSide (s : Side) : List (FileName × Option (Entry C)) → SwapM id C Unit
  | [] => write (Removal.folder s).apply
  | (n, left) :: rest => do
    write (Removal.part s n left).apply
    removeSide s rest

/-- The order in which a clean-up deletes: originals, restored copy, rest. -/
structure CleanupOrder (C : Type) where
  original : List (FileName × Option (Entry C))
  incoming : List (FileName × Option (Entry C))
  rest : List (Removal C)

/-- A committed swap's work directory is removed with the journal last. -/
def removeWorkDir (order : CleanupOrder C) : SwapM id C Unit := do
  removeSide .original order.original
  removeSide .incoming order.incoming
  removeAll order.rest

def readPlan : Journal → Except SwapError SwapPlan
  | .unreadable detail => .error (.unreadableJournal detail)
  | .plan p => if p.version = swapPlanVersion then .ok p.encoded else .error .unknownVersion

/-- Fail with the error of a computation that has no effect. -/
def orFail {α : Type} : Except SwapError α → SwapM id C α
  | .ok a => pure a
  | .error e => fail e

/-- Where one original is, as `computeStatus` decides it: moved away, still at
the root, or nowhere. -/
def originalMoved (n : FileName) : Option Bool :=
  if v.has (.work .original) n then some true
  else if v.has .root n then some false
  else none

/-- Where one restored entry is: moved up, still waiting, or unexplained. -/
def incomingMoved (n : FileName) : Option Bool :=
  let atIncoming := v.has (.work .incoming) n
  let atRoot := v.has .root n
  if atIncoming && atRoot && !plan.originals.contains n then none
  else if atIncoming then some false
  else if atRoot then some true
  else none

/-- The count a pass over the names yields, or nothing when one of them has no
explanation. -/
def countMoved (f : FileName → Option Bool) : List FileName → Option Nat
  | [] => some 0
  | n :: ns =>
    match f n, countMoved f ns with
    | some b, some k => some (k + b.toNat)
    | _, _ => none

/-- The names the plan explains at the root. -/
def knownNames (id : IntentId) (plan : SwapPlan) : List FileName :=
  workDirName id :: plan.originals ++ plan.incoming

/-- The state, read from the directories and never from a progress counter. -/
def computeStatus : SwapStatus :=
  if plan.status = .swapped then .swapped
  else
    match countMoved (originalMoved v) plan.originals,
        countMoved (incomingMoved v plan) plan.incoming with
    | some originalsMoved, some incomingMoved =>
      if (v.listNames .root).any fun n => !(knownNames id plan).contains n then
        .inconsistent
      else if originalsMoved = 0 ∧ incomingMoved = 0 then .planned
      else if originalsMoved < plan.originals.length then .movingOriginals
      else if incomingMoved < plan.incoming.length then .movingIncoming
      else .metadataPending
    | _, _ => .inconsistent

/-- The plan a fresh `prepare` records. -/
def freshPlan (incoming : Folder C) : SwapPlan where
  version := swapPlanVersion
  id := id.1
  status := .planned
  originals := (v.listNames .root).filter (· ≠ workDirName id)
  incoming := withoutWorkDirs (v.listNames (.work .incoming))
  root := incoming.stat
  originalRoot := some v.root.stat
  rootDev := v.dev
  rootIno := v.ino

/-- `prepare` records the plan and nothing else.  It refuses a second work
directory, and answers a resumed run with what the journal says. -/
def swapPrepare : SwapM id C SwapReport := do
  let v ← read
  match v.folder (.work .incoming) with
  | none => fail .noRestoredSnapshot
  | some incoming =>
    if (v.listNames .root).any fun n =>
        isWorkDirName n && n != workDirName id then
      fail .otherWorkDir
    else
      match v.journal with
      | some journal => do
        let plan ← orFail (readPlan journal)
        if plan.id ≠ id.1 then fail .foreignJournal
        else pure ⟨computeStatus v plan, 0⟩
      | none =>
        if (v.folder (.work .original)).isSome then
          fail .workDirWithoutJournal
        else do
          writePlan (freshPlan v incoming)
          pure ⟨.planned, 0⟩

/-- Move every original that is still at the root away. -/
def moveOriginals : List FileName → SwapM id C Nat
  | [] => pure 0
  | n :: ns => do
    let v ← read
    if v.has (.work .original) n then moveOriginals ns
    else if v.has .root n then do
      rename .root (.work .original) n
      let moved ← moveOriginals ns
      pure (moved + 1)
    else fail .inconsistent

/-- Move every restored entry that is still waiting up. -/
def moveIncoming : List FileName → SwapM id C Nat
  | [] => pure 0
  | n :: ns => do
    let v ← read
    if v.has (.work .incoming) n then do
      rename (.work .incoming) .root n
      let moved ← moveIncoming ns
      pure (moved + 1)
    else moveIncoming ns

/-- Both passes of a commit, each with the journal write that precedes it. -/
def commitMoves : SwapM id C Nat := do
  mkdirAll .original
  guardedBy (plan.status = .planned) <| writePlan { plan with status := .movingOriginals }
  let away ← moveOriginals plan.originals
  guardedBy (plan.status ≠ .movingIncoming) <| writePlan { plan with status := .movingIncoming }
  let up ← moveIncoming plan.incoming
  pure (away + up)

/-- The commit marker goes into the journal after the root metadata. -/
def commitMarker : SwapM id C Unit := do
  applyRootMeta plan.root
  syncDir (.work .incoming)
  writePlan { plan with status := .swapped }

/-- `commit` moves originals away, then incoming up, then applies the root
metadata. -/
def swapCommit : SwapM id C SwapReport := do
  let v ← read
  match v.journal with
  | none => fail .noJournal
  | some journal => do
    let plan ← orFail (readPlan journal)
    if plan.id ≠ id.1 then fail .foreignJournal
    else if v.dev ≠ plan.rootDev ∨ v.ino ≠ plan.rootIno then fail .inconsistent
    else if computeStatus v plan = .inconsistent then fail .inconsistent
    else if plan.status = .swapped then pure ⟨.swapped, 0⟩
    else do
      let moved ← commitMoves plan
      commitMarker plan
      pure ⟨.swapped, moved⟩

/-- `status` answers the computed state without changing anything. -/
def swapStatus : SwapM id C SwapReport := do
  let v ← read
  match v.journal with
  | none => pure ⟨if v.work.isSome then .inconsistent else .absent, 0⟩
  | some journal => do
    let plan ← orFail (readPlan journal)
    pure ⟨computeStatus v plan, 0⟩

/-- Move the restored entries back into the work directory. -/
def moveIncomingBack : List FileName → SwapM id C Unit
  | [] => pure ()
  | n :: ns => do
    let v ← read
    if v.has .root n && !v.has (.work .incoming) n then do
      mkdirAll .incoming
      rename .root (.work .incoming) n
      moveIncomingBack ns
    else moveIncomingBack ns

/-- Move the originals back to the root. -/
def moveOriginalsBack : List FileName → SwapM id C Unit
  | [] => pure ()
  | n :: ns => do
    let v ← read
    if v.has (.work .original) n then do
      rename (.work .original) .root n
      moveOriginalsBack ns
    else moveOriginalsBack ns

/-- Restored entries go first, so that an overlap between an original and a
restored name resolves in the original's favour. -/
def rollbackMoves : SwapM id C Unit := do
  moveIncomingBack plan.incoming
  moveOriginalsBack plan.originals
  match plan.originalRoot with
  | some m => applyRootMeta m
  | none => pure ()

/-- A rollback up to the point where it removes the work directory.  It yields
the journal's plan, when there is a journal. -/
def rollbackBeforeRemoval : SwapM id C (Option SwapPlan) := do
  let v ← read
  match v.journal with
  | none => pure none
  | some journal => do
    let plan ← orFail (readPlan journal)
    match computeStatus v plan with
    | .swapped => fail .committed
    | .inconsistent => fail .inconsistent
    | _ => do
      rollbackMoves plan
      pure (some plan)

/-- The rest of a rollback: the removal, and the root's modification time that
the renames and the removal moved. -/
def rollbackRemoval (order : List (Removal C)) : Option SwapPlan → SwapM id C SwapReport
  | none => do
    let v ← read
    guardedBy v.work.isSome (removeAll order)
    pure ⟨.rolledBack, 0⟩
  | some plan => do
    removeAll order
    match plan.originalRoot with
    | some m => setTimes m.mtime
    | none => pure ()
    pure ⟨.rolledBack, 0⟩

/-- `rollback` is only allowed before the journal says the swap committed. -/
def swapRollback (order : List (Removal C)) : SwapM id C SwapReport := do
  let plan ← rollbackBeforeRemoval
  rollbackRemoval order plan

/-- `cleanup` removes the work directory once the journal's commit marker
proves the swap is complete. -/
def swapCleanup (order : CleanupOrder C) : SwapM id C SwapReport := do
  let v ← read
  match v.journal with
  | none =>
    if v.work.isSome then fail .workDirWithoutJournal
    else pure ⟨.cleaned, 0⟩
  | some journal => do
    let plan ← orFail (readPlan journal)
    if plan.status ≠ .swapped then fail .notComplete
    else do
      removeWorkDir order
      setTimes plan.root.mtime
      pure ⟨.cleaned, 0⟩

end Sencho.Recovery
