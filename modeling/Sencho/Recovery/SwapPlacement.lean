import Mathlib.Tactic.Simps.Basic
import Sencho.Recovery.SwapMoves

/-!
# Placements: the abstract state of a swap

What makes a swap resumable is the order of its moves: a restored entry is at
the root only while every original is away.  That order is a field of a
`Placement`, the abstract state of a swap; `Placed` says that a volume is in
it, and `At` adds the journal and the device.
-/

namespace Sencho.Recovery

open Verified Verified.Interrupt Verified.Utf8 Option Volume Prog

variable {id : IntentId} {C : Type}

/-- Which originals are away and which restored entries are up.  The order of
the moves is part of the state. -/
structure Placement (originals incoming : List FileName) where
  away : Finset FileName
  up : Finset FileName
  away_sub : ∀ n ∈ away, n ∈ originals
  up_sub : ∀ n ∈ up, n ∈ incoming
  order : up.Nonempty → ∀ n ∈ originals, n ∈ away

namespace Placement

variable {originals incoming : List FileName}

/-- Nothing has moved. -/
@[simps away up]
def start : Placement originals incoming where
  away := ∅
  up := ∅
  away_sub := by simp
  up_sub := by simp
  order := by simp

variable (pl : Placement originals incoming)

/-- One more original is away. -/
@[simps away up]
def sendAway {n : FileName} (hn : n ∈ originals) : Placement originals incoming where
  away := insert n pl.away
  up := pl.up
  away_sub m hm := by
    rcases Finset.mem_insert.mp hm with rfl | hm
    · exact hn
    · exact pl.away_sub m hm
  up_sub := pl.up_sub
  order hup m hm := Finset.mem_insert_of_mem (pl.order hup m hm)

/-- One more restored entry is up, once every original is away. -/
@[simps away up]
def lift {n : FileName} (hn : n ∈ incoming) (hall : ∀ m ∈ originals, m ∈ pl.away) :
    Placement originals incoming where
  away := pl.away
  up := insert n pl.up
  away_sub := pl.away_sub
  up_sub m hm := by
    rcases Finset.mem_insert.mp hm with rfl | hm
    · exact hn
    · exact pl.up_sub m hm
  order _ := hall

/-- One restored entry is back in the work directory. -/
@[simps away up]
def lower (n : FileName) : Placement originals incoming where
  away := pl.away
  up := pl.up.erase n
  away_sub := pl.away_sub
  up_sub m hm := pl.up_sub m (Finset.mem_of_mem_erase hm)
  order hup := pl.order (hup.mono (Finset.erase_subset n pl.up))

/-- One original is back at the root, once no restored entry is up. -/
@[simps away up]
def bringBack (n : FileName) (hup : pl.up = ∅) : Placement originals incoming where
  away := pl.away.erase n
  up := pl.up
  away_sub m hm := pl.away_sub m (Finset.mem_of_mem_erase hm)
  up_sub := pl.up_sub
  order h := by simp [hup] at h

end Placement

/-- The restored entries a swap moves up: the snapshot without the work
directories it carries. -/
def restoredEntry (v : Volume id C) (n : FileName) : Option (Entry C) :=
  if isWorkDirName n then none else v.lookup (.work .incoming) n

variable {n : FileName} {v : Volume id C}

theorem restoredEntry_eq (h : isWorkDirName n = false) :
    restoredEntry v n = v.lookup (.work .incoming) n := by
  simp [restoredEntry, h]

theorem isSome_of_restoredEntry
    (h : (restoredEntry v n).isSome) : (v.lookup (.work .incoming) n).isSome := by
  unfold restoredEntry at h
  split at h
  · cases h
  · exact h

/-- What holds of the names of a directory holds of every name it has an entry for. -/
theorem Folder.forall_lookup {f : Folder C} {p : FileName → Prop}
    (h : ∀ n ∈ f.entries.keys, p n) (n : FileName) (hn : (f.lookup n).isSome) : p n :=
  h n (AList.mem_keys.mp (AList.lookup_isSome.mp hn))

/-- Every name of an original and of a restored entry is UTF-8. -/
structure Named (orig restored : FileName → Option (Entry C)) : Prop where
  originals : ∀ n, (orig n).isSome → Valid n
  restored : ∀ n, (restored n).isSome → Valid n

/-- The entries of a volume have such names. -/
abbrev Spelled (v : Volume id C) : Prop := Named (v.lookup .root) (restoredEntry v)

/-- What a successful `prepare` leaves in the volume: a plan of the names as
they are written to `plan.json`. -/
structure Journaled (base : Volume id C) (plan : SwapPlan) : Prop where
  journal : base.journal = some (.plan plan)
  encoded : plan.encoded = plan
  status : plan.status = .planned
  version : plan.version = swapPlanVersion
  owner : plan.id = id.1
  device : base.dev = plan.rootDev ∧ base.ino = plan.rootIno
  fromRoot : ∀ n, n ∈ plan.originals ↔ ∃ m, (base.lookup .root m).isSome ∧ coerce m = n
  fromIncoming : ∀ n, n ∈ plan.incoming ↔ ∃ m, (restoredEntry base m).isSome ∧ coerce m = n
  originalRoot : plan.originalRoot = some base.root.stat
  incomingDir : (base.folder (.work .incoming)).isSome
  originalDir : base.folder (.work .original) = none

/-- A plan whose names are those of the entries it is to move. -/
structure Prepared (base : Volume id C) (plan : SwapPlan) : Prop extends Journaled base plan where
  originals : ∀ n, n ∈ plan.originals ↔ (base.lookup .root n).isSome
  incoming : ∀ n ∈ plan.incoming, (base.lookup (.work .incoming) n).isSome

/-- Every original is at the root or in `original`, every restored entry in
`incoming/data` or at the root, as the placement says, with the content it had
when the swap was prepared; and there is nothing else. -/
structure Placed (base : Volume id C) {originals incoming : List FileName}
    (pl : Placement originals incoming) (v : Volume id C) : Prop where
  root : ∀ n, v.lookup .root n = if n ∈ pl.up then base.lookup (.work .incoming) n
    else if n ∈ pl.away then none else base.lookup .root n
  original : ∀ n, v.lookup (.work .original) n = if n ∈ pl.away then base.lookup .root n else none
  incoming : ∀ n, v.lookup (.work .incoming) n =
    if n ∈ pl.up then none else base.lookup (.work .incoming) n

/-- The whole state of a swap: the placement, the journal with the recorded
progress, and the device. -/
structure At (base : Volume id C) (plan : SwapPlan)
    (pl : Placement plan.originals plan.incoming) (st : SwapStatus)
    (v : Volume id C) : Prop where
  placed : Placed base pl v
  journal : v.journal = some (.plan { plan with status := st })
  incomingDir : (v.folder (.work .incoming)).isSome
  device : v.dev = base.dev ∧ v.ino = base.ino

/-- The journal statuses a swap in progress records. -/
def InProgress (st : SwapStatus) : Prop :=
  st = .planned ∨ st = .movingOriginals ∨ st = .movingIncoming

/-- A swap that has not committed. -/
def Moving (base : Volume id C) (plan : SwapPlan) (v : Volume id C) : Prop :=
  ∃ pl st, InProgress st ∧ At base plan pl st v

/-- Every original away and every restored entry up. -/
def Full {plan : SwapPlan} (pl : Placement plan.originals plan.incoming) :
    Prop :=
  (∀ n ∈ plan.originals, n ∈ pl.away) ∧ ∀ n ∈ plan.incoming, n ∈ pl.up

/-- A swap whose commit marker is in the journal. -/
def Committed (base : Volume id C) (plan : SwapPlan) (v : Volume id C) : Prop :=
  ∃ pl, Full pl ∧ At base plan pl .swapped v ∧ v.root.stat = plan.root

/-- The invariant of a swap from its `prepare` on. -/
def SwapInv (base : Volume id C) (plan : SwapPlan) (v : Volume id C) : Prop :=
  Moving base plan v ∨ Committed base plan v

section Prepared

variable {base : Volume id C} {plan : SwapPlan}

section

variable (hr : Journaled base plan)
include hr

namespace Journaled

/-- No name in a journal is one that a coercion has made a work directory's. -/
theorem incoming_plain (hn : n ∈ plan.incoming) : isWorkDirName n = false := by
  obtain ⟨m, hm, rfl⟩ := (hr.fromIncoming n).mp hn
  rw [Bool.eq_false_iff]
  intro hname
  rw [coerce_eq_of_ascii (isAscii_of_isWorkDirName hname)] at hname
  simp [restoredEntry, hname] at hm

theorem incoming_ne (hn : n ∈ plan.incoming) : n ≠ workDirName id := by
  rintro rfl
  simpa using hr.incoming_plain hn

theorem original_ne (hn : n ∈ plan.originals) : n ≠ workDirName id := by
  obtain ⟨m, hm, rfl⟩ := (hr.fromRoot n).mp hn
  intro hname
  have hascii : IsAscii (coerce m) := by
    rw [hname]
    exact isAscii_of_isWorkDirName (isWorkDirName_workDirName id)
  rw [coerce_eq_of_ascii hascii] at hname
  subst hname
  simp at hm

/-- The recorded progress is all that a later journal changes. -/
theorem encoded_status (st : SwapStatus) :
    SwapPlan.encoded { plan with status := st } = { plan with status := st } :=
  congrArg (fun p : SwapPlan => { p with status := st }) hr.encoded

/-- The plan the journal of a swap yields. -/
theorem readPlan_eq (st : SwapStatus) :
    readPlan (.plan { plan with status := st }) = .ok { plan with status := st } := by
  rw [readPlan, if_pos hr.version, hr.encoded_status]

/-- Originals that are UTF-8 are recorded as they are, and so is a restored
entry whose record names one. -/
theorem prepared (horig : ∀ n, (base.lookup .root n).isSome → Valid n)
    (hrest : ∀ n, (restoredEntry base n).isSome → (restoredEntry base (coerce n)).isSome) :
    Prepared base plan where
  toJournaled := hr
  originals n := by
    rw [hr.fromRoot]
    constructor
    · rintro ⟨m, hm, rfl⟩
      rwa [coerce_eq_iff.mpr (horig m hm)]
    · exact fun hn => ⟨n, hn, coerce_eq_iff.mpr (horig n hn)⟩
  incoming n hn := by
    rw [← restoredEntry_eq (hr.incoming_plain hn)]
    obtain ⟨m, hm, rfl⟩ := (hr.fromIncoming n).mp hn
    exact hrest m hm

theorem prepared_of_spelled (h : Spelled base) : Prepared base plan :=
  hr.prepared h.originals fun n hn => by rwa [coerce_eq_iff.mpr (h.restored n hn)]

end Journaled

end

section

variable (hp : Prepared base plan)
include hp

/-- A fresh `prepare` that succeeds starts the invariant. -/
theorem Prepared.at_start : At base plan .start .planned base where
  placed := by
    refine ⟨fun n => by simp, fun n => ?_, fun n => by
      simp⟩
    simp [lookup, hp.originalDir]
  journal := by
    have hplan : { plan with status := SwapStatus.planned } = plan := by
      rw [← hp.status]
    rw [hplan]
    exact hp.journal
  incomingDir := hp.incomingDir
  device := ⟨rfl, rfl⟩

end

end Prepared

theorem countMoved_isSome {f : FileName → Option Bool} {names : List FileName}
    (h : ∀ n ∈ names, (f n).isSome) : (countMoved f names).isSome := by
  induction names with
  | nil => rfl
  | cons n ns ih =>
    obtain ⟨b, hb⟩ := isSome_iff_exists.mp (h n (by simp))
    obtain ⟨k, hk⟩ :=
      isSome_iff_exists.mp (ih fun m hm => h m (by simp [hm]))
    simp [countMoved, hb, hk]

/-- A state in which every name has an explanation is not inconsistent. -/
theorem computeStatus_ne_of_explained {plan : SwapPlan}
    (horig : ∀ n ∈ plan.originals, (originalMoved v n).isSome)
    (hin : ∀ n ∈ plan.incoming, (incomingMoved v plan n).isSome)
    (hroot : ∀ n ∈ v.listNames .root, n ∈ knownNames id plan) :
    computeStatus v plan ≠ .inconsistent := by
  obtain ⟨a, ha⟩ := isSome_iff_exists.mp (countMoved_isSome horig)
  obtain ⟨b, hb⟩ := isSome_iff_exists.mp (countMoved_isSome hin)
  have hknown : ((v.listNames .root).any fun n =>
      !(knownNames id plan).contains n) = false := by
    rw [List.any_eq_false]
    intro n hn
    simpa using hroot n hn
  unfold computeStatus
  split
  · simp
  · simp only [ha, hb, hknown]
    split
    · simp_all
    · split
      · simp
      · split
        · simp
        · split <;> simp

section Readable

variable {base : Volume id C} {plan : SwapPlan}
  {pl : Placement plan.originals plan.incoming} {st : SwapStatus}
  {v : Volume id C}
variable {n : FileName}

section

variable (hp : Prepared base plan) (h : At base plan pl st v)
include hp h

/-- An original that is not away is at the root, and no restored entry is up. -/
theorem At.root_original (hn : n ∈ plan.originals) (haway : n ∉ pl.away) :
    ∃ e, v.lookup .root n = some e ∧ base.lookup .root n = some e := by
  have hup : n ∉ pl.up := by
    intro hmem
    exact haway (pl.order ⟨n, hmem⟩ n hn)
  obtain ⟨e, he⟩ := isSome_iff_exists.mp ((hp.originals n).mp hn)
  refine ⟨e, ?_, he⟩
  rw [h.placed.root n, if_neg hup, if_neg haway, he]

/-- An original that is away is in `original`. -/
theorem At.original_away (haway : n ∈ pl.away) : ∃ e, v.lookup (.work .original) n = some e ∧
      base.lookup .root n = some e := by
  obtain ⟨e, he⟩ :=
    isSome_iff_exists.mp ((hp.originals n).mp (pl.away_sub n haway))
  exact ⟨e, by rw [h.placed.original n, if_pos haway, he], he⟩

/-- A restored entry that is not up waits in the work directory. -/
theorem At.incoming_waits (hn : n ∈ plan.incoming) (hup : n ∉ pl.up) :
    ∃ e, v.lookup (.work .incoming) n = some e ∧ base.lookup (.work .incoming) n = some e := by
  obtain ⟨e, he⟩ := isSome_iff_exists.mp (hp.incoming n hn)
  exact ⟨e, by rw [h.placed.incoming n, if_neg hup, he], he⟩

/-- A restored entry that is up is at the root. -/
theorem At.root_incoming (hup : n ∈ pl.up) : ∃ e, v.lookup .root n = some e ∧
      base.lookup (.work .incoming) n = some e := by
  obtain ⟨e, he⟩ := isSome_iff_exists.mp (hp.incoming n (pl.up_sub n hup))
  exact ⟨e, by rw [h.placed.root n, if_pos hup, he], he⟩

theorem At.has_original (n : FileName) : v.has (.work .original) n = true ↔ n ∈ pl.away := by
  rw [has_work]
  by_cases haway : n ∈ pl.away
  · obtain ⟨e, he, -⟩ := h.original_away hp haway
    simp [he, haway]
  · simp [h.placed.original n, haway]

theorem At.has_incoming (hn : n ∈ plan.incoming) :
    v.has (.work .incoming) n = true ↔ n ∉ pl.up := by
  rw [has_work]
  by_cases hup : n ∈ pl.up
  · simp [h.placed.incoming n, hup]
  · obtain ⟨e, he, -⟩ := h.incoming_waits hp hn hup
    simp [he, hup]

theorem At.originals_explained (hn : n ∈ plan.originals) : (originalMoved v n).isSome := by
  unfold originalMoved
  by_cases haway : n ∈ pl.away
  · rw [if_pos ((h.has_original hp n).mpr haway)]
    rfl
  · obtain ⟨e, he, -⟩ := h.root_original hp hn haway
    have hroot : v.has .root n = true := by
      rw [has_of_ne _ _ (hp.original_ne hn), he]
      rfl
    split <;> rfl

/-- A waiting restored entry never meets an entry of the root that is not one
of the originals. -/
theorem At.incoming_explained (hn : n ∈ plan.incoming) :
    (incomingMoved v { plan with status := st } n).isSome := by
  have hne := hp.incoming_ne hn
  unfold incomingMoved
  by_cases hup : n ∈ pl.up
  · have hin : v.has (.work .incoming) n = false := by
      rw [Bool.eq_false_iff]
      exact fun hin => (h.has_incoming hp hn).mp hin hup
    obtain ⟨e, he, -⟩ := h.root_incoming hp hup
    have hroot : v.has .root n = true := by
      rw [has_of_ne _ _ hne, he]
      rfl
    simp [hin, hroot]
  · have hin := (h.has_incoming hp hn).mpr hup
    by_cases hroot : v.has .root n = true
    · have horig : n ∈ plan.originals := by
        rw [has_of_ne _ _ hne, h.placed.root n, if_neg hup] at hroot
        refine (hp.originals n).mpr ?_
        split at hroot
        · simp at hroot
        · exact hroot
      simp [hin, hroot, horig]
    · simp [hin, hroot]

theorem At.root_known (hn : n ∈ v.listNames .root) :
    n ∈ knownNames id { plan with status := st } := by
  rw [mem_listNames] at hn
  by_cases hne : n = workDirName id
  · simp [knownNames, hne]
  · rw [has_of_ne _ _ hne, h.placed.root n] at hn
    simp only [knownNames, List.mem_cons, List.mem_append, List.cons_append]
    split at hn
    · rename_i hup
      exact .inr (.inr (pl.up_sub n hup))
    · split at hn
      · simp at hn
      · exact .inr (.inl ((hp.originals n).mpr hn))

/-- `computeStatus` explains every state of a swap. -/
theorem At.computeStatus_ne : computeStatus v { plan with status := st } ≠ .inconsistent :=
  computeStatus_ne_of_explained (fun _ hn => h.originals_explained hp hn)
    (fun _ hn => h.incoming_explained hp hn) fun _ hn => h.root_known hp hn

end

end Readable

/-- Only the journal's commit marker makes the state `swapped`. -/
theorem computeStatus_eq_swapped {plan : SwapPlan} :
    computeStatus v plan = .swapped ↔ plan.status = .swapped := by
  unfold computeStatus
  by_cases h : plan.status = .swapped
  · simp [h]
  · simp only [h, if_false, iff_false]
    split
    · split
      · simp
      · split
        · simp
        · split
          · simp
          · split <;> simp
    · simp

section Steps

variable {base : Volume id C} {plan : SwapPlan}
  {pl : Placement plan.originals plan.incoming} {st : SwapStatus}
  {v : Volume id C}
variable {n : FileName}

/-- A rename keeps the journal, the directories and the device. -/
theorem At.of_move {pl' : Placement plan.originals plan.incoming} (h : At base plan pl st v)
    {src dst : Place} (hn : n ≠ workDirName id) (hplaced : Placed base pl' (v.move src dst n)) :
    At base plan pl' st (v.move src dst n) where
  placed := hplaced
  journal := by
    rw [journal_move]
    exact h.journal
  incomingDir := by
    rw [folder_move_isSome v src dst hn]
    exact h.incomingDir
  device := by
    rw [(device_move v src dst n).1, (device_move v src dst n).2]
    exact h.device

section

variable (hp : Prepared base plan)
include hp

theorem At.sendAway (h : At base plan pl st v) (hn : n ∈ plan.originals) (haway : n ∉ pl.away)
    (hdir : (v.folder (.work .original)).isSome) :
    At base plan (pl.sendAway hn) st (v.move .root (.work .original) n) := by
  have hne := hp.original_ne hn
  obtain ⟨e, he, hbase⟩ := h.root_original hp hn haway
  have hup : n ∉ pl.up := fun hmem => haway (pl.order ⟨n, hmem⟩ n hn)
  refine h.of_move hne ⟨fun m => ?_, fun m => ?_, fun m => ?_⟩
  all_goals
    rw [lookup_move v hne he hdir]
    by_cases hm : m = n
    · subst hm
      simp [hup, hbase, h.placed.incoming]
    · simp [hm, h.placed.root m, h.placed.original m, h.placed.incoming m]

theorem At.lift (h : At base plan pl st v) (hn : n ∈ plan.incoming) (hup : n ∉ pl.up)
    (hall : ∀ m ∈ plan.originals, m ∈ pl.away) :
    At base plan (pl.lift hn hall) st (v.move (.work .incoming) .root n) := by
  have hne := hp.incoming_ne hn
  obtain ⟨e, he, hbase⟩ := h.incoming_waits hp hn hup
  refine h.of_move hne ⟨fun m => ?_, fun m => ?_, fun m => ?_⟩
  all_goals
    rw [lookup_move v hne he rfl]
    by_cases hm : m = n
    · subst hm
      simp [hbase, h.placed.original]
    · simp [hm, h.placed.root m, h.placed.original m, h.placed.incoming m]

/-- A name that has no original is free at the root once its restored entry
left. -/
theorem away_or_absent (hup : n ∈ pl.up) : n ∈ pl.away ∨ base.lookup .root n = none := by
  by_cases horig : n ∈ plan.originals
  · exact .inl (pl.order ⟨n, hup⟩ n horig)
  · rw [hp.originals, not_isSome_iff_eq_none] at horig
    exact .inr horig

theorem At.lower (h : At base plan pl st v) (hup : n ∈ pl.up) :
    At base plan (pl.lower n) st (v.move .root (.work .incoming) n) := by
  have hne := hp.incoming_ne (pl.up_sub n hup)
  obtain ⟨e, he, hbase⟩ := h.root_incoming hp hup
  refine h.of_move hne ⟨fun m => ?_, fun m => ?_, fun m => ?_⟩
  all_goals
    rw [lookup_move v hne he h.incomingDir]
    by_cases hm : m = n
    · subst hm
      rcases away_or_absent hp hup with haway | habsent
      · simp [hbase, haway, h.placed.original]
      · simp [hbase, habsent, h.placed.original]
    · simp [hm, h.placed.root m, h.placed.original m, h.placed.incoming m]

theorem At.bringBack (h : At base plan pl st v) (haway : n ∈ pl.away) (hup : pl.up = ∅) :
    At base plan (pl.bringBack n hup) st (v.move (.work .original) .root n) := by
  have hne := hp.original_ne (pl.away_sub n haway)
  obtain ⟨e, he, hbase⟩ := h.original_away hp haway
  refine h.of_move hne ⟨fun m => ?_, fun m => ?_, fun m => ?_⟩
  all_goals
    rw [lookup_move v hne he rfl]
    by_cases hm : m = n
    · subst hm
      simp [hup, hbase, h.placed.incoming]
    · simp [hm, h.placed.root m, h.placed.original m, h.placed.incoming m]

end

section

variable (h : At base plan pl st v)
include h

/-- Root metadata is no part of a placement. -/
theorem At.setStat (g : RootMeta → RootMeta) : At base plan pl st (v.setStat g) :=
  ⟨⟨h.placed.root, h.placed.original, h.placed.incoming⟩, h.journal, h.incomingDir, h.device⟩

theorem At.work_isSome : v.work.isSome :=
  work_isSome_of_journal h.journal

/-- A journal write changes the recorded progress only. -/
theorem At.setJournal (hr : Journaled base plan) (st' : SwapStatus) :
    At base plan pl st' (v.setJournal { plan with status := st' }) where
  placed := by
    refine ⟨fun n => ?_, fun n => ?_, fun n => ?_⟩
    all_goals rw [lookup_setJournal]
    · exact h.placed.root n
    · exact h.placed.original n
    · exact h.placed.incoming n
  journal := by rw [journal_setJournal _ h.work_isSome, hr.encoded_status]
  incomingDir := by
    rw [folder_setJournal]
    exact h.incomingDir
  device := h.device

theorem At.newOriginal (hnone : v.folder (.work .original) = none) (now : Int) : At base plan pl st
      (v.onWork (·.setSide (some (newFolder now)) .original)) where
  placed := by
    refine ⟨fun n => ?_, fun n => ?_, fun n => ?_⟩
    all_goals rw [lookup_newFolder v hnone]
    · exact h.placed.root n
    · exact h.placed.original n
    · exact h.placed.incoming n
  journal := by
    obtain ⟨w, hw⟩ := isSome_iff_exists.mp h.work_isSome
    have hj := h.journal
    simpa [Volume.journal, onWork, hw] using hj
  incomingDir := by
    have hin := h.incomingDir
    obtain ⟨w, hw⟩ := isSome_iff_exists.mp h.work_isSome
    simpa [folder, onWork, hw] using hin
  device := h.device

end

end Steps

end Sencho.Recovery
