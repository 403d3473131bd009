import Sencho.Creates.Recovery
import Sencho.GitOps.Acceptances

/-!
# What a recovery may make of the creates

A recovery may stop after any of its effects.  What the creates have come to at such a point
is one invariant, and each effect of the recovery keeps it: a removal of what belongs to a
create that is torn down, the transaction that finishes a create, the one that records it as
failed, and the end of a checkpoint.
-/

namespace Sencho.Creates

open Verified Interrupt GitOps Tx CreateDb

/-- Whether an application is there, and where in its life it stands. -/
def lifecycle (db : Db) (id : String) : Option LifecycleStatus :=
  (db.getApplication id).map Application.lifecycleStatus

theorem lifecycle_of_writes {tr : Transition} {db db' : Db} {id : String}
    (hagr : Agrees tr.writes db db') (hwr : ¬ tr.writes (.app id .lifecycle)) :
    lifecycle db' id = lifecycle db id := hagr (.app id .lifecycle) hwr

/-- Finishing a create activates it, and touches no other application. -/
theorem ensures_applied_lifecycle {db : Db} {args : AppliedArgs}
    (hactivate : args.activateCreating = true) :
    Tx.Ensures (applied args) db fun _ db' =>
      (∀ id, id ≠ args.applicationId → lifecycle db' id = lifecycle db id) ∧
      (lifecycle db args.applicationId = some .creating →
        lifecycle db' args.applicationId = some .active) := by
  refine ensures_applied_accepts.mono fun _ db' haccepts => ?_
  obtain ⟨app, haccepts⟩ := haccepts
  refine ⟨fun id hid => ?_, fun hcreating => ?_⟩
  · unfold lifecycle
    rw [haccepts.others id hid]
  · unfold lifecycle at hcreating ⊢
    rw [haccepts.before] at hcreating
    rw [haccepts.after]
    have happ : app.lifecycleStatus = .creating := Option.some.inj hcreating
    show some (acceptedApplication (app.withoutAuthorization db) args).lifecycleStatus = _
    rw [acceptedApplication_eq, withoutAuthorization_eq]
    rw [happ, hactivate]
    rfl

variable {db : CreateDb} {envelope : EventEnvelope} {applicationId : String}

/-- Recording a create as failed retires it, and touches no other application. -/
theorem ensures_createFailed_lifecycle {db : Db} {failureClass : String} :
    Tx.Ensures (createFailed applicationId failureClass envelope) db fun _ db' =>
      (∀ id, id ≠ applicationId → lifecycle db' id = lifecycle db id) ∧
      lifecycle db applicationId = some .creating ∧
      lifecycle db' applicationId = some .deleted := by
  intro a db' hrun
  have hwr : Agrees (Transition.createFailed applicationId failureClass envelope).writes
      db db' := @writes_createFailed (fun _ => none) _ _ _ _ a db' hrun
  have hretires := createFailed_retires a db' hrun
  obtain ⟨app, app', happ, hcreating, happ', hdeleted⟩ := hretires
  refine ⟨fun id hid => lifecycle_of_writes hwr fun howns => hid howns.1, ?_, ?_⟩
  · unfold lifecycle
    rw [happ, Option.map_some, hcreating]
  · unfold lifecycle
    rw [happ', Option.map_some, hdeleted]

theorem ensures_sourcePollScheduled_lifecycle {db : Db} {at_ : Int} :
    Tx.Ensures (sourcePollScheduled applicationId at_ envelope) db fun _ db' =>
      ∀ id, lifecycle db' id = lifecycle db id := by
  intro a db' hrun id
  have hwr : Agrees (Transition.sourcePollScheduled applicationId at_ envelope).writes
      db db' := @writes_perform (fun _ => none) db
        (.sourcePollScheduled applicationId at_ envelope) a db' hrun
  refine lifecycle_of_writes hwr fun howns => ?_
  have hmem := howns.2
  simp [Transition.appWrites] at hmem

theorem ensures_onGitOps {p : Store Unit} {Q : Unit → CreateDb → Prop} :
    Tx.Ensures (onGitOps p) db Q ↔
      Tx.Ensures p db.gitops fun _ gitops => Q () { db with gitops := gitops } := by
  constructor
  · intro h a gitops hrun
    refine h () _ ?_
    unfold onGitOps
    rw [hrun]
  · intro h a db' hrun
    unfold onGitOps at hrun
    cases hp : p db.gitops with
    | error e =>
      rw [hp] at hrun
      cases hrun
    | ok r =>
      rw [hp] at hrun
      cases hrun
      exact h r.1 r.2 hp

/-- Arming the first poll moves no lifecycle and no checkpoint. -/
theorem ensures_armFirstPoll {c : CreateCheckpoint} {a : Answers} :
    Tx.Ensures (armFirstPoll c a) db fun _ db' =>
      (∀ id, lifecycle db'.gitops id = lifecycle db.gitops id) ∧
      db'.checkpoints = db.checkpoints ∧ db'.directories = db.directories := by
  unfold armFirstPoll
  rw [ensures_bind, ensures_get]
  cases db.gitops.getApplication c.applicationId with
  | none => exact ensures_pure.mpr ⟨fun _ => rfl, rfl, rfl⟩
  | some app =>
    dsimp only
    split
    · rw [ensures_onGitOps]
      exact ensures_sourcePollScheduled_lifecycle.mono fun _ _ h => ⟨h, rfl, rfl⟩
    · exact ensures_pure.mpr ⟨fun _ => rfl, rfl, rfl⟩

/-- What finishing a create does to the rows. -/
theorem ensures_finishCreate {c : CreateCheckpoint} {generationId : String}
    {spec : Option AppliedSpec} {manifest : Option ManifestState} {a : Answers} :
    Tx.Ensures (finishCreate c generationId spec manifest a) db fun _ db' =>
      (∀ id, id ≠ c.applicationId → lifecycle db'.gitops id = lifecycle db.gitops id) ∧
      (lifecycle db.gitops c.applicationId = some .creating →
        lifecycle db'.gitops c.applicationId = some .active) ∧
      db'.checkpoints = (db.setPhase c.applicationId .pointersCommitted).checkpoints ∧
      db'.directories = db.directories := by
  unfold finishCreate
  simp only [ensures_bind, ensures_modify, ensures_onGitOps]
  refine (ensures_applied_lifecycle rfl).mono fun _ gitops hactive => ?_
  unfold updateCreateCheckpoint
  simp only [ensures_bind, ensures_get, ensures_require, ensures_set]
  intro _ _
  refine ensures_armFirstPoll.mono fun _ db' harm => ?_
  obtain ⟨hsame, hcheckpoints, hdirectories⟩ := harm
  refine ⟨fun id hid => ?_, fun hcreating => ?_, hcheckpoints, hdirectories⟩
  · rw [hsame id]
    exact hactive.1 id hid
  · rw [hsame]
    exact hactive.2 hcreating

/-- What recording a create as failed does to the rows. -/
theorem ensures_failCreate {failureClass : String} :
    Tx.Ensures (failCreate applicationId failureClass envelope) db fun _ db' =>
      (∀ id, id ≠ applicationId → lifecycle db'.gitops id = lifecycle db.gitops id) ∧
      lifecycle db.gitops applicationId = some .creating ∧
      lifecycle db'.gitops applicationId = some .deleted ∧
      db'.checkpoints = (db.deleteCreateCheckpoint applicationId).checkpoints ∧
      db'.directories = db.directories := by
  unfold failCreate
  simp only [ensures_bind, ensures_modify, ensures_onGitOps]
  refine ensures_createFailed_lifecycle.mono fun _ gitops h => ?_
  exact ⟨h.1, h.2.1, h.2.2, rfl, rfl⟩

section Effects

variable {w : World} {Q : Unit → World → Prop} {E : String → World → Prop} {C : World → Prop}

theorem wp_onFiles {f : Files → Files} (hcut : C w)
    (h : Q () { w with files := f w.files }) : wp (onFiles f) Q E C w :=
  wp_write hcut h

/-- A transaction is one effect, and a refusal none. -/
theorem wp_transact {p : CreateStore Unit} {note : World → World} (hcut : C w)
    (hrf : ∀ e, E e w) (h : Tx.Ensures p w.db fun _ db => Q () (note { w with db := db })) :
    wp (transact p note) Q E C w := by
  refine wp_read_bind ?_
  cases hp : p w.db with
  | error e => exact wp_fail (hrf _)
  | ok r => exact wp_write hcut (h r.1 r.2 hp)

/-- A removal takes some of what is under its path, and where it succeeds all of it. -/
theorem wp_rm {p : Path} {r : Removal} (hcut : C w)
    (hpart : C { w with files := w.files.removeSome p r.gone })
    (herror : ∀ e, E e { w with files := w.files.removeSome p r.gone })
    (h : Q () { w with files := (w.files.removeSome p r.gone).remove p }) :
    wp (rm p r) Q E C w := by
  refine wp_bind (wp_onFiles hcut ?_)
  cases r.error with
  | some error => exact wp_fail (herror error)
  | none => exact wp_onFiles hpart h

end Effects

namespace World

def lifecycle (w : World) (id : String) : Option LifecycleStatus :=
  Creates.lifecycle w.db.gitops id

def checkpoint (w : World) (id : String) : Option CreateCheckpoint :=
  w.db.checkpoints.find? id

end World

/-- What a create put on disk is gone: its stack's directory, unless it may be the
operator's, and everything it staged. -/
structure Gone (l : Layout) (w : World) (c : CreateCheckpoint) : Prop where
  stack : c.phase = .preStack ∨ w.files.has (l.stackDir c.stackName) = false
  staged : ∀ p ∈ w.db.staged l c, ∀ q, p <+: q → w.files.has q = false

/-- What a recovery may remove for a checkpoint: the directory of a stack whose create went
past `pre_stack` and was not committed, what the create staged, and its marker. -/
def Removable (l : Layout) (w : World) (id : String) (c : CreateCheckpoint) (q : Path) : Prop :=
  (l.stackDir c.stackName <+: q ∧ c.phase ≠ .preStack ∧ c.committed = none ∧
    w.lifecycle id = some .creating) ∨
  (∃ p ∈ w.db.staged l c, p <+: q) ∨ q = l.stagingMarker c.stackName

/-- What the recoveries have made of the creates. -/
structure Settling (l : Layout) (w₀ w : World) : Prop where
  lifecycles : ∀ id, w.lifecycle id = w₀.lifecycle id ∨ (w₀.lifecycle id = some .creating ∧
    (w.lifecycle id = some .active ∨ w.lifecycle id = some .deleted))
  rows : ∀ id c, w.checkpoint id = some c → ∃ c₀, w₀.checkpoint id = some c₀ ∧
    (c = c₀ ∨ (c = { c₀ with phase := .pointersCommitted } ∧
      w.lifecycle id ≠ some .creating))
  kept : ∀ id c, w₀.checkpoint id = some c → w.lifecycle id = some .creating →
    w.checkpoint id = some c
  directories : w.db.directories = w₀.db.directories
  shrinks : ∀ q, w.files.has q = true → w₀.files.has q = true
  finished : ∀ id present, (id, present) ∈ w.finished → present = true
  activated : ∀ id, w₀.lifecycle id = some .creating → w.lifecycle id = some .active →
    ∃ c, w₀.checkpoint id = some c ∧ c.committed.isSome = true ∧ (id, true) ∈ w.finished
  failed : ∀ id c, w₀.checkpoint id = some c → w₀.lifecycle id = some .creating →
    w.lifecycle id = some .deleted → Gone l w c
  removed : ∀ q, w₀.files.has q = true → w.files.has q = false →
    ∃ id c, w₀.checkpoint id = some c ∧ Removable l w₀ id c q

theorem Settling.refl (l : Layout) {w : World} (hfinished : w.finished = []) :
    Settling l w w where
  lifecycles := fun _ => .inl rfl
  rows := fun _ c hc => ⟨c, hc, .inl rfl⟩
  kept := fun _ _ hc _ => hc
  directories := rfl
  shrinks := fun _ hq => hq
  finished := fun id present hmem => by
    rw [hfinished] at hmem
    exact absurd hmem List.not_mem_nil
  activated := fun id hcreating hactive => by
    rw [hcreating] at hactive
    cases hactive
  failed := fun id c _ hcreating hdeleted => by
    rw [hcreating] at hdeleted
    cases hdeleted
  removed := fun q hq hgone => by
    rw [hq] at hgone
    cases hgone

section Steps

variable {l : Layout} {w₀ w₁ w w' : World} {c : CreateCheckpoint}

/-- The recovery that runs now started from a world. -/
structure Since (w₁ w : World) : Prop where
  shrinks : ∀ q, w.files.has q = true → w₁.files.has q = true
  creating : ∀ id, w.lifecycle id = some .creating → w₁.lifecycle id = some .creating

/-- What holds at every point where a recovery may stop. -/
structure Stop (l : Layout) (w₀ w₁ w : World) : Prop where
  settling : Settling l w₀ w
  since : Since w₁ w

/-- A create that is being torn down. -/
structure Open (l : Layout) (w₀ w₁ : World) (c : CreateCheckpoint) (w : World) : Prop where
  stop : Stop l w₀ w₁ w
  creating : w.lifecycle c.applicationId = some .creating
  row : w₀.checkpoint c.applicationId = some c

theorem Settling.creating (h : Settling l w₀ w) {id : String}
    (hcreating : w.lifecycle id = some .creating) : w₀.lifecycle id = some .creating := by
  rcases h.lifecycles id with hsame | ⟨_, hactive | hdeleted⟩
  · rw [← hsame]
    exact hcreating
  · rw [hactive] at hcreating
    cases hcreating
  · rw [hdeleted] at hcreating
    cases hcreating

theorem Settling.staged_eq (h : Settling l w₀ w) (c : CreateCheckpoint) :
    w.db.staged l c = w₀.db.staged l c := by
  unfold staged directoriesOf
  rw [h.directories]

theorem Gone.shrink (h : Gone l w c) (hdb : w'.db.staged l c = w.db.staged l c)
    (hfiles : ∀ q, w.files.has q = false → w'.files.has q = false) : Gone l w' c where
  stack := h.stack.imp_right (hfiles _)
  staged := fun p hp q hq => by
    rw [hdb] at hp
    exact hfiles q (h.staged p hp q hq)

theorem find?_deleteCreateCheckpoint (db : CreateDb) (applicationId id : String) :
    (db.deleteCreateCheckpoint applicationId).checkpoints.find? id =
      if id = applicationId then none else db.checkpoints.find? id := by
  unfold deleteCreateCheckpoint
  rw [Table.find?_delete]
  cases hfound : db.checkpoints.find? id with
  | none => simp
  | some r =>
    have hkey : r.applicationId = id := Table.key_of_find? hfound
    rw [← hkey]
    by_cases hid : r.applicationId = applicationId
    · simp [hid]
    · simp [hid]

/-- Removing what may be removed. -/
theorem Settling.remove (h : Settling l w₀ w) {files : Files}
    (hshrinks : ∀ q, files.has q = true → w.files.has q = true)
    (hremovable : ∀ q, w.files.has q = true → files.has q = false →
      ∃ id c, w₀.checkpoint id = some c ∧ Removable l w₀ id c q) :
    Settling l w₀ { w with files := files } where
  lifecycles := h.lifecycles
  rows := h.rows
  kept := h.kept
  directories := h.directories
  shrinks := fun q hq => h.shrinks q (hshrinks q hq)
  finished := h.finished
  activated := h.activated
  failed := fun id c hc hcreating hdeleted => by
    refine (h.failed id c hc hcreating hdeleted).shrink rfl fun q hq => ?_
    cases hnow : files.has q with
    | false => rfl
    | true =>
      rw [hshrinks q hnow] at hq
      cases hq
  removed := fun q hq hgone => by
    cases hnow : w.files.has q with
    | true => exact hremovable q hnow hgone
    | false => exact h.removed q hq hnow

theorem Stop.remove (h : Stop l w₀ w₁ w) {files : Files}
    (hshrinks : ∀ q, files.has q = true → w.files.has q = true)
    (hremovable : ∀ q, w.files.has q = true → files.has q = false →
      ∃ id c, w₀.checkpoint id = some c ∧ Removable l w₀ id c q) :
    Stop l w₀ w₁ { w with files := files } :=
  ⟨h.settling.remove hshrinks hremovable,
    ⟨fun q hq => h.since.shrinks q (hshrinks q hq), h.since.creating⟩⟩

/-- A create becomes active. -/
theorem Stop.activate (h : Open l w₀ w₁ c w) (hcommitted : c.committed.isSome = true)
    (hdir : w.files.has (l.stackDir c.stackName) = true) {db : CreateDb}
    (hothers : ∀ id, id ≠ c.applicationId → lifecycle db.gitops id = w.lifecycle id)
    (hactive : lifecycle db.gitops c.applicationId = some .active)
    (hrows : db.checkpoints = (w.db.setPhase c.applicationId .pointersCommitted).checkpoints)
    (hdirectories : db.directories = w.db.directories) :
    Stop l w₀ w₁ ⟨db, w.files,
      (c.applicationId, w.files.has (l.stackDir c.stackName)) :: w.finished⟩ := by
  have hwas := h.stop.settling.creating h.creating
  have hfind : ∀ id, db.checkpoints.find? id = (w.db.checkpoints.find? id).map fun r =>
      if r.applicationId = c.applicationId then { r with phase := .pointersCommitted } else r := by
    intro id
    rw [hrows]
    unfold setPhase
    simp
  refine ⟨?_, ⟨h.stop.since.shrinks, fun id hcreating => ?_⟩⟩
  · constructor
    case lifecycles =>
      intro id
      show lifecycle db.gitops id = _ ∨ _
      by_cases hid : id = c.applicationId
      · rw [hid]
        exact .inr ⟨hwas, .inl hactive⟩
      · have hkept := h.stop.settling.lifecycles id
        rw [← hothers id hid] at hkept
        exact hkept
    case rows =>
      intro id r hr
      have hr' : db.checkpoints.find? id = some r := hr
      rw [hfind id] at hr'
      cases hold : w.db.checkpoints.find? id with
      | none =>
        rw [hold] at hr'
        cases hr'
      | some old =>
        rw [hold, Option.map_some] at hr'
        have hkey : old.applicationId = id := Table.key_of_find? hold
        obtain ⟨c₀, hc₀, hrow⟩ := h.stop.settling.rows id old hold
        refine ⟨c₀, hc₀, ?_⟩
        by_cases hid : id = c.applicationId
        · rw [if_pos (hkey.trans hid)] at hr'
          cases hr'
          rw [hid] at hc₀ hrow
          refine .inr ⟨?_, ?_⟩
          · rcases hrow with rfl | ⟨rfl, hnot⟩
            · rfl
            · exact absurd h.creating hnot
          · show lifecycle db.gitops id ≠ _
            rw [hid, hactive]
            exact fun heq => by cases heq
        · rw [if_neg (fun heq => hid (hkey.symm.trans heq))] at hr'
          cases hr'
          refine hrow.imp_right fun hrow => ⟨hrow.1, ?_⟩
          show lifecycle db.gitops id ≠ _
          rw [hothers id hid]
          exact hrow.2
    case kept =>
      intro id r hr hcreating
      have hcreating' : lifecycle db.gitops id = some .creating := hcreating
      have hid : id ≠ c.applicationId := by
        rintro rfl
        rw [hactive] at hcreating'
        cases hcreating'
      rw [hothers id hid] at hcreating'
      have hkept : w.db.checkpoints.find? id = some r :=
        h.stop.settling.kept id r hr hcreating'
      have hkey : r.applicationId = id := Table.key_of_find? hkept
      show db.checkpoints.find? id = some r
      rw [hfind id, hkept, Option.map_some, if_neg fun heq => hid (hkey.symm.trans heq)]
    case directories => exact hdirectories.trans h.stop.settling.directories
    case shrinks => exact h.stop.settling.shrinks
    case finished =>
      intro id present hmem
      rcases List.mem_cons.mp hmem with heq | hold
      · cases heq
        exact hdir
      · exact h.stop.settling.finished id present hold
    case activated =>
      intro id hcreating hnow
      by_cases hid : id = c.applicationId
      · refine ⟨c, ?_, hcommitted, ?_⟩
        · rw [hid]
          exact h.row
        · rw [hid, hdir]
          exact List.mem_cons_self
      · have hnow' : lifecycle db.gitops id = some .active := hnow
        rw [hothers id hid] at hnow'
        obtain ⟨r, hr, hcommitted, hmem⟩ := h.stop.settling.activated id hcreating hnow'
        exact ⟨r, hr, hcommitted, List.mem_cons_of_mem _ hmem⟩
    case failed =>
      intro id r hr hcreating hdeleted
      have hdeleted' : lifecycle db.gitops id = some .deleted := hdeleted
      have hid : id ≠ c.applicationId := by
        rintro rfl
        rw [hactive] at hdeleted'
        cases hdeleted'
      rw [hothers id hid] at hdeleted'
      refine (h.stop.settling.failed id r hr hcreating hdeleted').shrink ?_ fun q hq => hq
      unfold staged directoriesOf
      rw [hdirectories]
    case removed => exact h.stop.settling.removed
  · have hcreating' : lifecycle db.gitops id = some .creating := hcreating
    by_cases hid : id = c.applicationId
    · rw [hid, hactive] at hcreating'
      cases hcreating'
    · rw [hothers id hid] at hcreating'
      exact h.stop.since.creating id hcreating'

/-- A creating application is retired.  Where it had a checkpoint, what the create put on disk
is gone. -/
theorem Stop.retire (h : Stop l w₀ w₁ w) {applicationId : String}
    (hcreating : w.lifecycle applicationId = some .creating)
    (hgone : ∀ c, w₀.checkpoint applicationId = some c → Gone l w c) {db : CreateDb}
    (hothers : ∀ id, id ≠ applicationId → lifecycle db.gitops id = w.lifecycle id)
    (hdeleted : lifecycle db.gitops applicationId = some .deleted)
    (hrows : db.checkpoints = (w.db.deleteCreateCheckpoint applicationId).checkpoints)
    (hdirectories : db.directories = w.db.directories) : Stop l w₀ w₁ { w with db := db } := by
  have hwas := h.settling.creating hcreating
  refine ⟨?_, ⟨h.since.shrinks, fun id hnow => ?_⟩⟩
  · constructor
    case lifecycles =>
      intro id
      show lifecycle db.gitops id = _ ∨ _
      by_cases hid : id = applicationId
      · rw [hid]
        exact .inr ⟨hwas, .inr hdeleted⟩
      · have hkept := h.settling.lifecycles id
        rw [← hothers id hid] at hkept
        exact hkept
    case rows =>
      intro id r hr
      have hr' : db.checkpoints.find? id = some r := hr
      rw [hrows, find?_deleteCreateCheckpoint] at hr'
      by_cases hid : id = applicationId
      · rw [if_pos hid] at hr'
        cases hr'
      · rw [if_neg hid] at hr'
        obtain ⟨c₀, hc₀, hrow⟩ := h.settling.rows id r hr'
        refine ⟨c₀, hc₀, hrow.imp_right fun hrow => ⟨hrow.1, ?_⟩⟩
        show lifecycle db.gitops id ≠ _
        rw [hothers id hid]
        exact hrow.2
    case kept =>
      intro id r hr hnow
      have hnow' : lifecycle db.gitops id = some .creating := hnow
      have hid : id ≠ applicationId := by
        rintro rfl
        rw [hdeleted] at hnow'
        cases hnow'
      rw [hothers id hid] at hnow'
      show db.checkpoints.find? id = some r
      rw [hrows, find?_deleteCreateCheckpoint, if_neg hid]
      exact h.settling.kept id r hr hnow'
    case directories => exact hdirectories.trans h.settling.directories
    case shrinks => exact h.settling.shrinks
    case finished => exact h.settling.finished
    case activated =>
      intro id hcreating₀ hnow
      have hnow' : lifecycle db.gitops id = some .active := hnow
      have hid : id ≠ applicationId := by
        rintro rfl
        rw [hdeleted] at hnow'
        cases hnow'
      rw [hothers id hid] at hnow'
      exact h.settling.activated id hcreating₀ hnow'
    case failed =>
      intro id r hr hcreating₀ hnow
      have hstaged : ∀ r : CreateCheckpoint,
          db.staged l r = w.db.staged l r := by
        intro r
        unfold staged directoriesOf
        rw [hdirectories]
      by_cases hid : id = applicationId
      · rw [hid] at hr
        exact (hgone r hr).shrink (hstaged r) fun q hq => hq
      · have hnow' : lifecycle db.gitops id = some .deleted := hnow
        rw [hothers id hid] at hnow'
        exact (h.settling.failed id r hr hcreating₀ hnow').shrink (hstaged r) fun q hq => hq
    case removed => exact h.settling.removed
  · have hnow' : lifecycle db.gitops id = some .creating := hnow
    by_cases hid : id = applicationId
    · rw [hid, hdeleted] at hnow'
      cases hnow'
    · rw [hothers id hid] at hnow'
      exact h.since.creating id hnow'

/-- The checkpoint of a create that is settled is dropped. -/
theorem Stop.drop (h : Stop l w₀ w₁ w) {applicationId : String}
    (hsett : w.lifecycle applicationId ≠ some .creating) :
    Stop l w₀ w₁ { w with db := w.db.deleteCreateCheckpoint applicationId } := by
  refine ⟨?_, ⟨h.since.shrinks, h.since.creating⟩⟩
  constructor
  case lifecycles => exact h.settling.lifecycles
  case rows =>
    intro id r hr
    have hr' : (w.db.deleteCreateCheckpoint applicationId).checkpoints.find? id = some r := hr
    rw [find?_deleteCreateCheckpoint] at hr'
    by_cases hid : id = applicationId
    · rw [if_pos hid] at hr'
      cases hr'
    · rw [if_neg hid] at hr'
      exact h.settling.rows id r hr'
  case kept =>
    intro id r hr hnow
    have hid : id ≠ applicationId := by
      rintro rfl
      exact hsett hnow
    show (w.db.deleteCreateCheckpoint applicationId).checkpoints.find? id = some r
    rw [find?_deleteCreateCheckpoint, if_neg hid]
    exact h.settling.kept id r hr hnow
  case directories => exact h.settling.directories
  case shrinks => exact h.settling.shrinks
  case finished => exact h.settling.finished
  case activated => exact h.settling.activated
  case failed =>
    intro id r hr hcreating hnow
    exact (h.settling.failed id r hr hcreating hnow).shrink rfl fun q hq => hq
  case removed => exact h.settling.removed

end Steps

end Sencho.Creates
