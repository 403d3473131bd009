import Sencho.GitOps.RestoreMarkers

/-!
# Agreement of the hold

What an application's hold says, beside what its live targets say: whether a
restore is in flight on one of them, and whether one of them has a claim that
may have moved it.  The helpers that move the hold keep the two in agreement, and
so does every call that settles one target, under a condition on that target.
-/

namespace Sencho.GitOps

open Verified Target Hold

variable {repoKey : String → Option String} {db db' : Db} {tr : Transition} {key : TargetKey}

/-- Some live target of an application meets a condition. -/
def SomeLive (p : Target → Bool) (db : Db) (id : String) : Prop :=
  ∃ key t, db.targets.find? key = some t ∧ key.applicationId = id ∧
    t.status ≠ .tombstoned ∧ p t = true

/-- Some live target beside the one under a key meets a condition. -/
def SomeOther (p : Target → Bool) (db : Db) (key : TargetKey) : Prop :=
  ∃ key' t, db.targets.find? key' = some t ∧ key'.applicationId = key.applicationId ∧
    key' ≠ key ∧ t.status ≠ .tombstoned ∧ p t = true

/-- The row is live and meets a condition. -/
def Target.LiveAnd (t : Target) (p : Target → Bool) : Prop :=
  t.status ≠ .tombstoned ∧ p t = true

variable {live : List Target}

section

variable {p : Target → Bool} {t : Target}

theorem someLive_iff (ht : db.targets.find? key = some t) :
    SomeLive p db key.applicationId ↔ t.LiveAnd p ∨ SomeOther p db key := by
  constructor
  · rintro ⟨key', t', ht', hid, hlive, hp⟩
    by_cases hkey : key' = key
    · subst hkey
      rw [Option.some.inj (ht.symm.trans ht')]
      exact .inl ⟨hlive, hp⟩
    · exact .inr ⟨key', t', ht', hid, hkey, hlive, hp⟩
  · rintro (⟨hlive, hp⟩ | ⟨key', t', ht', hid, -, hlive, hp⟩)
    · exact ⟨key, t, ht, rfl, hlive, hp⟩
    · exact ⟨key', t', ht', hid, hlive, hp⟩

theorem someOther_congr (h : ∀ key', key' ≠ key → db'.targets.find? key' = db.targets.find? key') :
    SomeOther p db' key ↔ SomeOther p db key := by
  constructor
  · rintro ⟨key', t, ht, hid, hne, hrest⟩
    exact ⟨key', t, (h key' hne).symm.trans ht, hid, hne, hrest⟩
  · rintro ⟨key', t, ht, hid, hne, hrest⟩
    exact ⟨key', t, (h key' hne).trans ht, hid, hne, hrest⟩

/-- The listing with one row in place of the stored one. -/
theorem any_liveWith
    (hlive : ∀ r, r ∈ live ↔ r ∈ liveWith db key.applicationId [t]) (hkey : t.key = key) :
    live.any p = true ↔ t.LiveAnd p ∨ SomeOther p db key := by
  have hnode : t.nodeId = key.nodeId := congrArg TargetKey.nodeId hkey
  rw [List.any_eq_true]
  constructor
  · rintro ⟨r, hmem, hp⟩
    rcases mem_liveWith.mp ((hlive r).mp hmem) with ⟨hfind, hid, hr, hne⟩ | ⟨hmem, hr⟩
    · refine .inr ⟨r.key, r, hfind, hid, fun heq => ?_, hr, hp⟩
      exact hne t (by simp) (hnode.trans (congrArg TargetKey.nodeId heq).symm)
    · rw [List.mem_singleton.mp hmem] at hr hp
      exact .inl ⟨hr, hp⟩
  · rintro (⟨hr, hp⟩ | ⟨key', r, hfind, hid, hne, hr, hp⟩)
    · exact ⟨t, (hlive t).mpr (mem_liveWith.mpr (.inr ⟨by simp, hr⟩)), hp⟩
    · have hrkey : r.key = key' := Table.key_of_find? hfind
      refine ⟨r, (hlive r).mpr (mem_liveWith.mpr (.inl ⟨?_, ?_, hr, ?_⟩)), hp⟩
      · rw [hrkey]
        exact hfind
      · exact (congrArg TargetKey.applicationId hrkey).trans hid
      · intro o ho hsame
        have hrnode : r.nodeId = key'.nodeId := congrArg TargetKey.nodeId hrkey
        refine hne ?_
        cases key'
        cases key
        simp_all

end

/-- Whether a claim remains beside a row that gives its own up. -/
theorem claimsRemain_iff {t : Target} (ht : db.targets.find? key = some t) :
    claimsRemain db key.applicationId key.nodeId = true ↔
      SomeOther targetRestoreInFlight db key ∨ SomeOther recoveryClaimMoved db key ∨
        t.LiveAnd targetRestoreInFlight := by
  unfold claimsRemain
  rw [List.any_eq_true]
  constructor
  · rintro ⟨r, hmem, hclaims⟩
    obtain ⟨hfind, hid⟩ := mem_listTargets.mp hmem
    simp only [Bool.and_eq_true, Bool.or_eq_true, decide_eq_true_eq] at hclaims
    obtain ⟨⟨hnode, hlive⟩, hmoved⟩ := hclaims
    by_cases hkey : r.key = key
    · rw [hkey] at hfind
      have hrow : r = t := Option.some.inj (hfind.symm.trans ht)
      have hrnode : r.nodeId = key.nodeId := congrArg TargetKey.nodeId hkey
      subst hrow
      rcases hnode with hnode | hfl
      · exact absurd hrnode hnode
      · exact .inr (.inr ⟨hlive, hfl⟩)
    · unfold targetRecoveryFailureMoved at hmoved
      rcases Bool.or_eq_true_iff.mp hmoved with hfl | hclaim
      · exact .inl ⟨r.key, r, hfind, hid, hkey, hlive, hfl⟩
      · exact .inr (.inl ⟨r.key, r, hfind, hid, hkey, hlive, hclaim⟩)
  · have hother : ∀ p : Target → Bool, (∀ r, p r = true → targetRecoveryFailureMoved r = true) →
        SomeOther p db key → ∃ r ∈ db.listTargets key.applicationId,
          ((r.nodeId ≠ key.nodeId || targetRestoreInFlight r) && r.status ≠ .tombstoned &&
            targetRecoveryFailureMoved r) = true := by
      rintro p hp ⟨key', r, hfind, hid, hne, hlive, hpr⟩
      have hrkey : r.key = key' := Table.key_of_find? hfind
      have hrid : r.applicationId = key.applicationId :=
        (congrArg TargetKey.applicationId hrkey).trans hid
      refine ⟨r, mem_listTargets.mpr ⟨by rw [hrkey]; exact hfind, hrid⟩, ?_⟩
      have hnode : r.nodeId ≠ key.nodeId := by
        intro hnode
        refine hne (hrkey.symm.trans ?_)
        cases key
        cases r
        simp_all [key]
      simp [hnode, hlive, hp r hpr]
    rintro (hfl | hmoved | ⟨hlive, hfl⟩)
    · refine hother targetRestoreInFlight (fun r hr => ?_) hfl
      unfold targetRecoveryFailureMoved
      rw [hr]
      rfl
    · refine hother recoveryClaimMoved (fun r hr => ?_) hmoved
      exact Bool.or_eq_true_iff.mpr (.inr hr)
    · have hkey : t.key = key := Table.key_of_find? ht
      refine ⟨t, mem_listTargets.mpr ⟨by rw [hkey]; exact ht,
        congrArg TargetKey.applicationId hkey⟩, ?_⟩
      unfold targetRecoveryFailureMoved
      simp [hlive, hfl]

namespace Hold

/-- The hold says that a restore is in flight. -/
def InFlight (h : Hold) : Prop :=
  h.recovery.phase = some .capturing ∨ h.recovery.phase = some .restoring ∨
    h.recovery.phase = some .compensating

/-- What a hold and the live targets say of each other: `flight` that a restore
is in flight on one of them, `moved` that one of them has a claim that may have
moved it. -/
structure Agrees (h : Hold) (flight moved : Prop) : Prop where
  moving : flight → h.recovery.phase = some .restoring ∨ h.recovery.phase = some .failed
  held : ¬ flight → moved → h.recovery.phase = some .failed
  answered : h.recovery.phase = some .failed → flight ∨ moved
  started : h.InFlight → flight
  named : h.recovery.phase = some .failed → h.failure.stage = some .recovery

variable {h : Hold} {flight flight' moved moved' : Prop}

theorem Agrees.congr (hagr : h.Agrees flight moved) (hfl : flight' ↔ flight)
    (hmoved : moved' ↔ moved) : h.Agrees flight' moved' := by
  rw [propext hfl, propext hmoved]
  exact hagr

/-- A hold nothing answers for and nothing is open under. -/
theorem agrees_idle (hfailed : h.recovery.phase ≠ some .failed) (hidle : ¬ h.InFlight)
    (hfl : ¬ flight) (hmoved : ¬ moved) : h.Agrees flight moved where
  moving hf := absurd hf hfl
  held _ hm := absurd hm hmoved
  answered hf := absurd hf hfailed
  started hs := absurd hs hidle
  named hf := absurd hf hfailed

/-- A hold that stands for a recovery failure. -/
theorem agrees_failed (hph : h.recovery.phase = some .failed)
    (hstage : h.failure.stage = some .recovery) (hanswered : flight ∨ moved) :
    h.Agrees flight moved where
  moving _ := .inr hph
  held _ _ := hph
  answered _ := hanswered
  started hs := by
    unfold InFlight at hs
    rw [hph] at hs
    rcases hs with hs | hs | hs <;> cases hs
  named _ := hstage

/-- A hold under which a restore has just been opened. -/
theorem agrees_opened (hph : h.recovery.phase = some .restoring) (hfl : flight) :
    h.Agrees flight moved where
  moving _ := .inl hph
  held hnot _ := absurd hfl hnot
  answered _ := .inl hfl
  started _ := hfl
  named hf := by
    rw [hph] at hf
    cases hf

theorem agrees_none {failure : ApplicationFailure} {ref : Option String}
    {phase : Option RecoveryPhase} (hph : phase = none ∨ phase = some .complete)
    (hfl : ¬ flight) (hmoved : ¬ moved) : Hold.Agrees ⟨⟨ref, phase⟩, failure⟩ flight moved := by
  refine agrees_idle ?_ ?_ hfl hmoved
  · rcases hph with rfl | rfl <;> exact nofun
  · rintro (hs | hs | hs) <;> rcases hph with rfl | rfl <;> cases hs

end Hold

/-- The hold of an application agrees with its targets, the one under a key being
a given row. -/
def RowAgrees (db : Db) (h : Hold) (key : TargetKey) (t : Target) : Prop :=
  h.Agrees (t.LiveAnd targetRestoreInFlight ∨ SomeOther targetRestoreInFlight db key)
    (t.LiveAnd recoveryClaimMoved ∨ SomeOther recoveryClaimMoved db key)

section

variable {h : Hold} {t t' : Target} {at_ : Int}

/-- The row changed neither its status nor what it claims. -/
theorem RowAgrees.same (hagr : RowAgrees db h key t) (hstat : t'.status = t.status)
    (hfl : targetRestoreInFlight t' = targetRestoreInFlight t)
    (hmoved : recoveryClaimMoved t' = recoveryClaimMoved t) : RowAgrees db h key t' := by
  unfold RowAgrees Target.LiveAnd
  rw [hstat, hfl, hmoved]
  exact hagr

/-- A hold released by a row that keeps a restore in flight and otherwise gives
its claim up. -/
theorem agrees_released {stored : Target} (hst : db.targets.find? key = some stored)
    (hagr : RowAgrees db h key t)
    (hsame : stored.LiveAnd targetRestoreInFlight ↔ t.LiveAnd targetRestoreInFlight)
    (hfl : t'.LiveAnd targetRestoreInFlight ↔ t.LiveAnd targetRestoreInFlight)
    (hgiven : t'.LiveAnd recoveryClaimMoved →
      t.LiveAnd targetRestoreInFlight ∧ t.LiveAnd recoveryClaimMoved) :
    RowAgrees db (h.released db key.applicationId key.nodeId) key t' := by
  unfold RowAgrees released
  by_cases hremain : claimsRemain db key.applicationId key.nodeId = true
  · rw [if_pos hremain]
    have hleft := (claimsRemain_iff hst).mp hremain
    refine ⟨fun hf => hagr.moving ?_, fun hf hm => hagr.held ?_ ?_, fun _ => ?_,
      fun hs => ?_, hagr.named⟩
    · exact hf.imp hfl.mp id
    · exact fun hbefore => hf (hbefore.imp hfl.mpr id)
    · exact hm.imp (fun hself => (hgiven hself).2) id
    · rcases hleft with hother | hother | hself
      · exact .inl (.inr hother)
      · exact .inr (.inr hother)
      · exact .inl (.inl (hfl.mpr (hsame.mp hself)))
    · exact (hagr.started hs).imp hfl.mpr id
  · rw [if_neg hremain]
    have hnone := mt (claimsRemain_iff hst).mpr hremain
    rw [not_or, not_or] at hnone
    obtain ⟨hnoFlight, hnoMoved, hself⟩ := hnone
    have hnot : ¬ t.LiveAnd targetRestoreInFlight := fun hf => hself (hsame.mpr hf)
    have hstill : ¬ (t.LiveAnd targetRestoreInFlight ∨
        SomeOther targetRestoreInFlight db key) := not_or.mpr ⟨hnot, hnoFlight⟩
    have hstill' : ¬ (t'.LiveAnd targetRestoreInFlight ∨ SomeOther targetRestoreInFlight db key) :=
      not_or.mpr ⟨fun hf => hnot (hfl.mp hf), hnoFlight⟩
    have hunmoved : ¬ (t'.LiveAnd recoveryClaimMoved ∨ SomeOther recoveryClaimMoved db key) :=
      not_or.mpr ⟨fun hm => hnot (hgiven hm).1, hnoMoved⟩
    unfold cleared
    split
    · rename_i hkept
      exact agrees_idle hkept.1 (fun hs => hstill (hagr.started hs)) hstill' hunmoved
    · exact agrees_none (.inl rfl) hstill' hunmoved

/-- A hold derived from a listing of the live targets. -/
theorem Hold.agrees_derived {flight moved : Prop}
    (hfl : live.any targetRestoreInFlight = true ↔ flight)
    (hmoved : live.any recoveryClaimMoved = true ↔ moved)
    (hmoving : flight → h.recovery.phase = some .restoring ∨
      h.recovery.phase = some .failed ∧ h.failure.stage = some .recovery) :
    (h.derived live at_).Agrees flight moved := by
  unfold derived
  by_cases hany : live.any targetRestoreInFlight = true
  · rw [if_pos hany]
    have hf := hfl.mp hany
    rcases hmoving hf with hph | ⟨hph, hstage⟩
    · exact agrees_opened hph hf
    · exact agrees_failed hph hstage (.inl hf)
  · rw [if_neg hany]
    have hidle := mt hfl.mpr hany
    split
    · rename_i surviving hfind
      refine agrees_failed rfl rfl (.inr (hmoved.mp ?_))
      exact List.any_eq_true.mpr ⟨surviving, List.mem_of_find?_eq_some hfind, List.find?_some hfind⟩
    · rename_i hfind
      have hnone : ¬ live.any recoveryClaimMoved = true := by
        rw [List.any_eq_true]
        rintro ⟨r, hmem, hp⟩
        exact List.find?_eq_none.mp hfind r hmem hp
      have hunmoved := mt hmoved.mpr hnone
      split
      · exact agrees_none (.inr rfl) hidle hunmoved
      · exact agrees_none (.inl rfl) hidle hunmoved

/-- A hold derived with one row in place of the stored one. -/
theorem agrees_derived
    (hlive : ∀ r, r ∈ live ↔ r ∈ liveWith db key.applicationId [t]) (hkey : t.key = key)
    (hmoving : t.LiveAnd targetRestoreInFlight ∨ SomeOther targetRestoreInFlight db key →
      h.recovery.phase = some .restoring ∨
        h.recovery.phase = some .failed ∧ h.failure.stage = some .recovery) :
    RowAgrees db (h.derived live at_) key t :=
  Hold.agrees_derived (any_liveWith hlive hkey) (any_liveWith hlive hkey) hmoving

theorem withoutClaim_flight (t : Target) : targetRestoreInFlight t.withoutClaim = false := by
  unfold withoutClaim
  rw [flight_congr (clearFailure_recovery _ _)]
  rfl

theorem withoutClaim_moved (t : Target) : recoveryClaimMoved t.withoutClaim = false := by
  unfold withoutClaim
  rw [moved_congr (clearFailure_recovery _ _)]
  rfl

theorem withoutClaim_status (t : Target) : t.withoutClaim.status = t.status := by
  unfold withoutClaim
  rw [clearFailure_eq]

/-- A row that gives its claim up, with no restore in flight on it. -/
theorem agrees_withoutClaim {stored : Target} (hst : db.targets.find? key = some stored)
    (hagr : RowAgrees db h key t)
    (hsame : stored.LiveAnd targetRestoreInFlight ↔ t.LiveAnd targetRestoreInFlight)
    (hidle : targetRestoreInFlight t = false) :
    RowAgrees db (h.released db key.applicationId key.nodeId) key t'.withoutClaim := by
  have hnot : ¬ t.LiveAnd targetRestoreInFlight := by
    rintro ⟨-, hf⟩
    rw [hidle] at hf
    cases hf
  refine agrees_released hst hagr hsame (iff_of_false ?_ hnot) ?_
  · rintro ⟨-, hf⟩
    rw [withoutClaim_flight] at hf
    cases hf
  · rintro ⟨-, hm⟩
    rw [withoutClaim_moved] at hm
    cases hm

/-- The two rows show the same restore and the same claim. -/
structure SameClaim (t t' : Target) : Prop where
  status : t'.status = t.status
  nodeId : t'.nodeId = t.nodeId
  flight : targetRestoreInFlight t' = targetRestoreInFlight t
  moved : recoveryClaimMoved t' = recoveryClaimMoved t

theorem SameClaim.liveAnd (hsame : SameClaim t t') :
    (t.LiveAnd targetRestoreInFlight ↔ t'.LiveAnd targetRestoreInFlight) ∧
      (t'.LiveAnd recoveryClaimMoved ↔ t.LiveAnd recoveryClaimMoved) := by
  unfold Target.LiveAnd
  rw [hsame.status, hsame.flight, hsame.moved]
  exact ⟨Iff.rfl, Iff.rfl⟩

theorem RowAgrees.sameClaim (hagr : RowAgrees db h key t) (hsame : SameClaim t t') :
    RowAgrees db h key t' :=
  hagr.same hsame.status hsame.flight hsame.moved

section

variable (ht : db.targets.find? key = some t) (hagr : RowAgrees db h key t)
  (hsame : SameClaim t t')
include ht hagr hsame

theorem agrees_onSuccess :
    RowAgrees db (h.onSuccess db key.applicationId t') key t'.retiredOnSuccess := by
  have hnode : t'.nodeId = key.nodeId :=
    hsame.nodeId.trans (congrArg TargetKey.nodeId (Table.key_of_find? ht))
  unfold onSuccess retiredOnSuccess
  by_cases hretires : t'.retiresOnSuccess = true
  · rw [if_pos hretires, if_pos hretires, hnode]
    refine agrees_withoutClaim ht (hagr.sameClaim hsame) hsame.liveAnd.1 ?_
    unfold retiresOnSuccess at hretires
    simp only [Bool.and_eq_true, Bool.not_eq_true'] at hretires
    exact hretires.1
  · rw [if_neg hretires, if_neg hretires]
    exact hagr.sameClaim hsame

theorem agrees_onNonMoving :
    RowAgrees db (h.onNonMoving db key.applicationId t') key t'.retiredNonMoving := by
  have hnode : t'.nodeId = key.nodeId :=
    hsame.nodeId.trans (congrArg TargetKey.nodeId (Table.key_of_find? ht))
  unfold onNonMoving retiredNonMoving
  by_cases hretires : recoveryClaimRetirable t' = true
  · rw [if_pos hretires, if_pos hretires, hnode]
    refine agrees_withoutClaim ht (hagr.sameClaim hsame) hsame.liveAnd.1 ?_
    unfold recoveryClaimRetirable at hretires
    simp only [Bool.and_eq_true, Bool.not_eq_true'] at hretires
    exact hretires.1
  · rw [if_neg hretires, if_neg hretires]
    exact hagr.sameClaim hsame

end

/-- A severed row has no restore in flight. -/
def Target.Grounded (t : Target) : Prop :=
  t.status = .tombstoned → targetRestoreInFlight t = false

/-- A severed row that is brought back. -/
theorem agrees_revived (ht : db.targets.find? key = some t) (hagr : RowAgrees db h key t)
    (hsevered : t.status ≠ .active) (hgrounded : t.Grounded) :
    RowAgrees db (h.onRevival db key.applicationId t at_) key t.revived := by
  have htomb : t.status = .tombstoned := by
    cases hstat : t.status with
    | active => exact absurd hstat hsevered
    | tombstoned => rfl
  have hidle : targetRestoreInFlight t = false := hgrounded htomb
  have hkey : t.key = key := Table.key_of_find? ht
  have hnode : t.nodeId = key.nodeId := congrArg TargetKey.nodeId hkey
  have hself : ∀ p, ¬ t.LiveAnd p := fun p hp => hp.1 htomb
  unfold onRevival onNonMoving
  by_cases hretires : recoveryClaimRetirable { t with status := .active } = true
  · have hrevived : t.revived = withoutClaim { t with status := .active } := by
      unfold revived retiredNonMoving
      rw [if_pos hretires]
    have hunmoved : ¬ recoveryClaimMoved t.revived = true := by
      rw [hrevived, withoutClaim_moved]
      exact Bool.false_ne_true
    rw [if_neg hunmoved, if_pos hretires, hrevived]
    show RowAgrees db (h.released db key.applicationId t.nodeId) key _
    rw [hnode]
    exact agrees_withoutClaim ht hagr Iff.rfl hidle
  · have hrevived : t.revived = { t with status := .active } := by
      unfold revived retiredNonMoving
      rw [if_neg hretires]
    rw [if_neg hretires, hrevived]
    have hnot : ¬ Target.LiveAnd { t with status := .active } targetRestoreInFlight := by
      rintro ⟨-, hf⟩
      have hf' : targetRestoreInFlight t = true := hf
      rw [hidle] at hf'
      cases hf'
    by_cases hmoved : recoveryClaimMoved { t with status := .active } = true
    · rw [if_pos hmoved]
      refine agrees_derived (fun _ => Iff.rfl) hkey fun hf => ?_
      have hother := hf.resolve_left hnot
      have hph := hagr.moving (.inr hother)
      exact hph.imp id fun hfailed => ⟨hfailed, hagr.named hfailed⟩
    · rw [if_neg hmoved]
      refine hagr.congr (or_congr_left (iff_of_false hnot (hself _)))
        (or_congr_left (iff_of_false ?_ (hself _)))
      exact fun hm => hmoved hm.2

end

section

variable {t t' t'' : Target}

namespace SameClaim

theorem trans (h : SameClaim t t') (h' : SameClaim t' t'') : SameClaim t t'' :=
  ⟨h'.status.trans h.status, h'.nodeId.trans h.nodeId, h'.flight.trans h.flight,
    h'.moved.trans h.moved⟩

theorem of_recovery (hkey : t'.key = t.key) (hstat : t'.status = t.status)
    (hrecovery : t'.recovery = t.recovery) : SameClaim t t' :=
  ⟨hstat, congrArg TargetKey.nodeId hkey, flight_congr hrecovery, moved_congr hrecovery⟩

theorem of_kept {cols : List TargetColumn} (h : TargetKept cols t t')
    (hstat : .status ∉ cols) (hrecovery : .recovery ∉ cols) : SameClaim t t' :=
  .of_recovery h.1 (h.2 .status hstat) (h.recovery hrecovery)

theorem marked (t : Target) (at_ : Int) : SameClaim t (t.markInFlightRestore at_) :=
  .of_kept (t.markInFlightRestore_kept at_) (by simp) (by simp)

theorem interruption (t : Target) (stage : TargetActiveStage) :
    SameClaim t (t.clearInterruption stage) :=
  .of_recovery (t.clearInterruption_key stage) (by rw [clearInterruption_eq])
    (t.clearInterruption_recovery stage)

theorem noted (t : Target) (generationId : Option String) :
    SameClaim t (t.noteRecoveryPoint generationId) := by
  refine ⟨?_, ?_, noteRecoveryPoint_flight, noteRecoveryPoint_moved⟩
  · rw [noteRecoveryPoint_eq]
  · rw [noteRecoveryPoint_eq]

theorem acknowledged (t : Target) (app : Application) (args : BlueprintAckArgs)
    (candidateId : Option String) : SameClaim t (t.acknowledged app args candidateId) := by
  have hkept := t.acknowledged_kept app args candidateId
  refine (SameClaim.noted t args.recoveryGenerationId).trans (.of_recovery ?_ ?_
    acknowledged_recovery)
  · exact hkept.1.trans (t.noteRecoveryPoint_kept _).1.symm
  · exact (hkept.2 .status (by simp [Transition.targetWrites])).trans
      ((t.noteRecoveryPoint_kept args.recoveryGenerationId).2 .status (by simp)).symm

theorem releaseRequest (t : Target) (args : BlueprintAckArgs) :
    SameClaim t (t.releaseRequest args) := by
  have hkept := t.releaseRequest_kept args
  refine (SameClaim.noted t args.recoveryGenerationId).trans (.of_recovery ?_ ?_
    releaseRequest_recovery)
  · exact hkept.1.trans (t.noteRecoveryPoint_kept _).1.symm
  · exact (hkept.2 .status (by simp)).trans
      ((t.noteRecoveryPoint_kept args.recoveryGenerationId).2 .status (by simp)).symm

theorem opened (t : Target) (args : BlueprintDeployStartedArgs) :
    SameClaim t (t.openBlueprintDeploy args) :=
  .of_kept (t.openBlueprintDeploy_kept args) (by simp) (by simp)

theorem bindRestored (t : Target) (db : Db) (applicationId restored : String)
    (captured acceptance : Option String) (at_ : Int) :
    SameClaim t (t.bindRestored db applicationId restored captured acceptance at_) :=
  .of_kept (t.bindRestored_kept db applicationId restored captured acceptance at_) (by simp)
    (by simp)

end SameClaim

end

/-- What a settling call must find for the hold to follow its target: a row it
severs has no restore in flight, and a failure it records is answered for by some
live target. -/
def Transition.SparesHold (tr : Transition) (db : Db) (key : TargetKey) (t : Target) :
    Prop :=
  match tr with
  | .targetTombstoned _ _ _ | .blueprintWithdrawn _ _ _ _ => targetRestoreInFlight t = false
  | .recoveryFailed _ _ _ failureClass _ =>
    t.status ≠ .tombstoned ∧ failureClass = .postMutation ∨
      SomeOther targetRestoreInFlight db key ∨ SomeOther recoveryClaimMoved db key
  | _ => True

/-- A failed deploy or withdrawal. -/
theorem agrees_failed {t : Target} {h : Hold} {stage : TargetActiveStage}
    {failure : TargetFailure} {at_ : Int} (ht : db.targets.find? key = some t)
    (hagr : RowAgrees db h key t) :
    RowAgrees db (h.onNonMoving db key.applicationId (t.clearActive.clearInterruption stage))
      key (t.failed stage failure at_) := by
  have hreleased : SameClaim t (t.clearActive.clearInterruption stage) :=
    (@SameClaim.of_recovery t t.clearActive rfl rfl rfl).trans (.interruption _ stage)
  refine (agrees_onNonMoving ht hagr hreleased).sameClaim ((SameClaim.marked _ at_).trans ?_)
  exact .of_recovery rfl rfl rfl

theorem bindDeploy_same (t : Target) (generationId : String) :
    SameClaim t (t.bindDeploy generationId) :=
  .of_kept (t.bindDeploy_kept generationId) (by simp) (by simp)

/-- A severed row gives its claim up. -/
theorem agrees_severed {t t' : Target} {h : Hold} (ht : db.targets.find? key = some t)
    (hagr : RowAgrees db h key t) (hsevered : t'.status = .tombstoned)
    (hidle : targetRestoreInFlight t = false) :
    RowAgrees db (h.released db key.applicationId key.nodeId) key t' := by
  refine agrees_released ht hagr Iff.rfl (iff_of_false ?_ ?_) ?_
  · exact fun hf => hf.1 hsevered
  · rintro ⟨-, hf⟩
    rw [hidle] at hf
    cases hf
  · exact fun hm => absurd hsevered hm.1

/-- A row whose restore ended: the hold is derived anew. -/
theorem agrees_ended {t t' : Target} {h : Hold} {at_ : Int} (hagr : RowAgrees db h key t)
    (hlive : ∀ r, r ∈ live ↔ r ∈ liveWith db key.applicationId [t']) (hkey : t'.key = key)
    (hidle : targetRestoreInFlight t' = false) : RowAgrees db (h.derived live at_) key t' := by
  refine agrees_derived hlive hkey fun hf => ?_
  have hother : SomeOther targetRestoreInFlight db key := by
    refine hf.resolve_left ?_
    rintro ⟨-, hfl⟩
    rw [hidle] at hfl
    cases hfl
  exact (hagr.moving (.inr hother)).imp id fun hfailed => ⟨hfailed, hagr.named hfailed⟩

/-- A current acknowledgement: the claim goes with the success, and the hold is
looked at once more. -/
theorem agrees_acknowledged {t t' : Target} {h : Hold} (ht : db.targets.find? key = some t)
    (hagr : RowAgrees db h key t) (hsame : SameClaim t t') :
    RowAgrees db ((h.onSuccess db key.applicationId t').released db key.applicationId
      key.nodeId) key t'.retiredOnSuccess := by
  have hfirst := agrees_onSuccess ht hagr hsame
  by_cases hretires : t'.retiresOnSuccess = true
  · have hgone : t'.retiredOnSuccess = t'.withoutClaim := by
      unfold retiredOnSuccess
      rw [if_pos hretires]
    rw [hgone] at hfirst ⊢
    have hidle : targetRestoreInFlight t = false := by
      rw [← hsame.flight]
      unfold retiresOnSuccess at hretires
      simp only [Bool.and_eq_true, Bool.not_eq_true'] at hretires
      exact hretires.1
    have hnot : ∀ {r : Target}, targetRestoreInFlight r = false →
        ¬ r.LiveAnd targetRestoreInFlight := by
      rintro r hr ⟨-, hf⟩
      rw [hr] at hf
      cases hf
    refine agrees_withoutClaim ht hfirst ?_ (withoutClaim_flight t')
    exact iff_of_false (hnot hidle) (hnot (withoutClaim_flight t'))
  · have hstays : t'.retiredOnSuccess = t' := by
      unfold retiredOnSuccess
      rw [if_neg hretires]
    rw [hstays] at hfirst ⊢
    refine agrees_released ht hfirst hsame.liveAnd.1 Iff.rfl fun hmoved => ⟨⟨hmoved.1, ?_⟩, hmoved⟩
    obtain ⟨-, hclaim⟩ := hmoved
    unfold retiresOnSuccess at hretires
    unfold recoveryClaimMoved at hclaim
    cases hfl : targetRestoreInFlight t' with
    | true => rfl
    | false =>
      cases hclass : recoveryFailureClaimClass t' with
      | none =>
        rw [hclass] at hclaim
        cases hclaim
      | some c =>
        rw [hfl, hclass] at hretires
        exact absurd (by simp) hretires

theorem settleRollback_idle (t : Target) (recoveryRef : String)
    (failureClass : RollbackFailureClass) (at_ : Int) :
    targetRestoreInFlight (t.settleRollback recoveryRef failureClass at_) = false := by
  unfold targetRestoreInFlight
  rw [settleRollback_phase]
  rfl

theorem completeRecovery_idle (t : Target) : targetRestoreInFlight t.completeRecovery = false := by
  unfold targetRestoreInFlight
  rw [completeRecovery_phase]
  rfl

theorem agrees_recovered {t : Target} {h : Hold} (hagr : RowAgrees db h key t)
    (hkey : t.key = key) (at_ : Int) :
    RowAgrees db (h.derived (liveWith db key.applicationId [t.completeRecovery]) at_) key
      t.completeRecovery :=
  agrees_ended hagr (fun _ => Iff.rfl) (t.completeRecovery_kept.1.trans hkey)
    (completeRecovery_idle t)

section

variable {t t' : Target}

namespace Target.Grounded

theorem sameClaim (h : t.Grounded) (hsame : SameClaim t t') : t'.Grounded := by
  intro hsevered
  rw [hsame.status] at hsevered
  rw [hsame.flight]
  exact h hsevered

theorem of_idle (h : targetRestoreInFlight t = false) : t.Grounded :=
  fun _ => h

theorem of_live (h : t.status ≠ .tombstoned) : t.Grounded :=
  fun hsevered => absurd hsevered h

theorem retiredOnSuccess (h : t.Grounded) : t.retiredOnSuccess.Grounded := by
  unfold Target.retiredOnSuccess
  split
  · exact .of_idle (withoutClaim_flight t)
  · exact h

theorem retiredNonMoving (h : t.Grounded) : t.retiredNonMoving.Grounded := by
  unfold Target.retiredNonMoving
  split
  · exact .of_idle (withoutClaim_flight t)
  · exact h

theorem failed {stage : TargetActiveStage} {failure : TargetFailure}
    {at_ : Int} (h : t.Grounded) : (t.failed stage failure at_).Grounded := by
  have hreleased : SameClaim t (t.clearActive.clearInterruption stage) :=
    (@SameClaim.of_recovery t t.clearActive rfl rfl rfl).trans (.interruption _ stage)
  refine (h.sameClaim hreleased).retiredNonMoving.sameClaim ((SameClaim.marked _ at_).trans ?_)
  exact .of_recovery rfl rfl rfl

end Target.Grounded

theorem revived_live (t : Target) : t.revived.status ≠ .tombstoned := by
  unfold revived retiredNonMoving
  split
  · rw [withoutClaim_status]
    exact nofun
  · exact nofun

/-- A row that agrees with the hold, and has no restore in flight if it is severed. -/
structure RowSettled (db : Db) (h : Hold) (key : TargetKey) (t : Target) : Prop where
  agrees : RowAgrees db h key t
  grounded : t.Grounded

theorem RowSettled.sameClaim {h : Hold} (hrow : RowSettled db h key t) (hsame : SameClaim t t') :
    RowSettled db h key t' :=
  ⟨hrow.agrees.sameClaim hsame, hrow.grounded.sameClaim hsame⟩

/-- The hold follows a settled target. -/
theorem Settles.settled {app : Application} {row : Target} {hold : Hold}
    (h : Settles db app t tr row hold) (hat : tr.settlesAt = some key)
    (hid : app.id = key.applicationId) (ht : db.targets.find? key = some t)
    (hrow : RowSettled db app.hold key t) (hspares : tr.SparesHold db key t) :
    RowSettled db hold key row := by
  have hkey : t.key = key := Table.key_of_find? ht
  have hlive : ∀ {r : Target}, r.status = .active → r.status ≠ .tombstoned := by
    intro r hr
    rw [hr]
    exact nofun
  obtain ⟨id, nodeId⟩ := key
  subst hid
  obtain ⟨hagr, hgrounded⟩ := hrow
  cases h with
  | deployStarted | blueprintWithdrawStarted =>
    refine RowSettled.sameClaim ⟨hagr, hgrounded⟩ (SameClaim.trans ?_ (.interruption _ _))
    exact .of_recovery rfl rfl rfl
  | @deployBound _ _ generationId =>
    have hbound := bindDeploy_same t generationId
    exact RowSettled.sameClaim ⟨agrees_onSuccess ht hagr hbound,
      (hgrounded.sameClaim hbound).retiredOnSuccess⟩ (.marked _ _)
  | deployUnbound | deployFailed | blueprintWithdrawFailed =>
    exact ⟨agrees_failed ht hagr, hgrounded.failed⟩
  | @blueprintDeployFailed _ _ failureClass envelope =>
    have hfailed : RowSettled db _ ⟨app.id, nodeId⟩ (t.failed .blueprintDeployStarted
        ⟨some .blueprintDeploy, some failureClass, some envelope.at_⟩ envelope.at_) :=
      ⟨agrees_failed ht hagr, hgrounded.failed⟩
    exact hfailed.sameClaim (.of_recovery rfl rfl rfl)
  | targetTombstoned =>
    cases hat
    exact RowSettled.sameClaim ⟨agrees_severed ht hagr rfl hspares,
      .of_idle (t := t.tombstone) hspares⟩ (.marked t.tombstone _)
  | blueprintWithdrawn =>
    cases hat
    have hidle : targetRestoreInFlight t.withdraw = false := by
      rw [flight_congr (t.withdraw_kept.recovery (by simp))]
      exact hspares
    exact RowSettled.sameClaim ⟨@agrees_severed _ _ _ t.withdraw _ ht hagr rfl hspares,
      .of_idle hidle⟩ (.marked _ _)
  | @blueprintDeployStarted args =>
    refine RowSettled.sameClaim ?_ (SameClaim.opened t.reopened args)
    unfold reopened
    by_cases hlive : t.status ≠ .active
    · rw [if_pos hlive, if_pos hlive]
      exact ⟨agrees_revived ht hagr hlive hgrounded, .of_live (revived_live t)⟩
    · rw [if_neg hlive, if_neg hlive]
      exact ⟨hagr, hgrounded⟩
  | alreadyAcked => exact RowSettled.sameClaim ⟨hagr, hgrounded⟩ (.noted t _)
  | @supersededAck args =>
    refine RowSettled.sameClaim ⟨hagr, hgrounded⟩ (SameClaim.trans ?_ (SameClaim.marked _ _))
    exact (SameClaim.releaseRequest t args).trans (.of_recovery rfl rfl rfl)
  | @acknowledged args =>
    have hnode : args.nodeId = nodeId := congrArg TargetKey.nodeId (Option.some.inj hat)
    rw [hnode]
    have hacked := SameClaim.acknowledged t app args args.rolloutCandidateId
    refine RowSettled.sameClaim ?_ (SameClaim.marked _ args.envelope.at_)
    exact ⟨agrees_acknowledged ht hagr hacked, (hgrounded.sameClaim hacked).retiredOnSuccess⟩
  | observed => exact ⟨hagr, hgrounded⟩
  | reviewed hsevered =>
    exact RowSettled.sameClaim ⟨agrees_revived ht hagr hsevered hgrounded,
      .of_live (revived_live t)⟩ (.of_recovery rfl rfl rfl)
  | rollbackInProgress hactive | recoveryStarted hactive =>
    exact ⟨agrees_opened rfl (.inl ⟨hlive hactive, rfl⟩), .of_live (hlive hactive)⟩
  | rollbackPartialFailed hlive =>
    exact ⟨agrees_ended hagr hlive ((t.settleRollback_kept _ _ _).1.trans hkey)
      (settleRollback_idle _ _ _ _), .of_idle (settleRollback_idle _ _ _ _)⟩
  | @recoveryFailed _ _ recoveryRef failureClass envelope =>
    refine ⟨Hold.agrees_failed rfl rfl ?_, .of_idle rfl⟩
    rcases hspares with ⟨hlive, rfl⟩ | hfl | hmoved
    · refine .inr (.inl ⟨?_, rfl⟩)
      show (t.clearActive.clearInterruption .recoveryStarted).status ≠ .tombstoned
      rw [clearInterruption_eq]
      exact hlive
    · exact .inl (.inr hfl)
    · exact .inr (.inr hmoved)
  | @rollbackCompleted id _ evidence envelope restored =>
    have hidle : targetRestoreInFlight (t.completeRollback evidence) = false :=
      completeRecovery_idle t
    have hended : RowAgrees db (app.hold.derived
        (liveWith db app.id [t.completeRollback evidence]) envelope.at_) ⟨app.id, nodeId⟩
        (t.completeRollback evidence) :=
      agrees_ended hagr (fun _ => Iff.rfl) ((t.completeRollback_kept evidence).1.trans hkey)
        hidle
    have hbound := SameClaim.bindRestored (t.completeRollback evidence) db id restored
      evidence.capturedArtifactSetId evidence.capturedSourceAcceptanceRef envelope.at_
    exact RowSettled.sameClaim ⟨hended, .of_idle hidle⟩ (hbound.trans (.of_recovery rfl rfl rfl))
  | recoveryUnproven =>
    exact RowSettled.sameClaim ⟨agrees_recovered hagr hkey _,
      .of_idle (completeRecovery_idle t)⟩ (.of_recovery rfl rfl rfl)
  | recoverySucceeded =>
    refine RowSettled.sameClaim ⟨agrees_recovered hagr hkey _,
      .of_idle (completeRecovery_idle t)⟩ (SameClaim.trans ?_ (SameClaim.bindRestored _ _ _ _ _ _ _))
    exact .of_recovery rfl rfl rfl

end

end Sencho.GitOps
