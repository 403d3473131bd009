import Sencho.Creates.Settling

/-!
# Interrupted recoveries

However often recovery is cut off and whatever the filesystem answers, a create becomes
active only where its manifest was committed and its directory was there, nothing is removed
but what belongs to a create that is torn down, and no checkpoint of a create that is still
open is lost.  A create is recorded as failed only once what it put on disk is gone, where
every stat of a directory that is there answers: a teardown takes a stat that fails for a
missing directory, leaves the directory and records the failure.
-/

namespace Sencho.Creates

open List Option

open Verified Interrupt GitOps

variable {l : Layout} {w₀ w₁ w : World} {c : CreateCheckpoint} {a : Answers}
variable {f : Files} {p q : Path} {answers : String → Answers}

/-- What is gone stays gone. -/
def Fewer (w w' : World) : Prop := ∀ q, w.files.has q = false → w'.files.has q = false

theorem Fewer.refl (w : World) : Fewer w w := fun _ h => h

theorem Fewer.trans {w' w'' : World} (h : Fewer w w') (h' : Fewer w' w'') : Fewer w w'' :=
  fun q hq => h' q (h q hq)

theorem removeSome_has {gone : Path → Bool} (h : (f.removeSome p gone).has q = true) :
    f.has q = true :=
  (Bool.and_eq_true_iff.mp h).1

theorem remove_has (h : (f.remove p).has q = true) : f.has q = true := (Bool.and_eq_true_iff.mp h).1

theorem removed_under {gone : Path → Bool} (h : f.has q = true)
    (hgone : (f.removeSome p gone).has q = false) : p <+: q := by
  have hpart : (f.has q && !(p.isPrefixOf q && gone q)) = false := hgone
  rw [h, Bool.true_and, Bool.not_eq_false', Bool.and_eq_true] at hpart
  exact isPrefixOf_iff_prefix.mp hpart.1

theorem remove_under (h : f.has q = true) (hgone : (f.remove p).has q = false) : p <+: q := by
  have hpart : (f.has q && !p.isPrefixOf q) = false := hgone
  rw [h, Bool.true_and, Bool.not_eq_false'] at hpart
  exact isPrefixOf_iff_prefix.mp hpart

theorem remove_gone (h : p <+: q) : (f.remove p).has q = false := by
  show (f.has q && !p.isPrefixOf q) = false
  rw [ isPrefixOf_iff_prefix.mpr h, Bool.not_true, Bool.and_false]

/-- A removal of what the create that is torn down may remove. -/
theorem Open.rm (h : Open l w₀ w₁ c w) (r : Removal)
    (hp : ∀ q, p <+: q → Removable l w₀ c.applicationId c q) :
    wp (rm p r) (fun _ w' => Open l w₀ w₁ c w' ∧ Fewer w w' ∧ ∀ q, p <+: q → w'.files.has q = false)
      (fun _ => Stop l w₀ w₁) (Stop l w₀ w₁) w := by
  have hpart : Stop l w₀ w₁ { w with files := w.files.removeSome p r.gone } :=
    h.stop.remove (fun q hq => removeSome_has hq) fun q hq hgone =>
      ⟨c.applicationId, c, h.row, hp q (removed_under hq hgone)⟩
  have hall : Stop l w₀ w₁ { w with files := (w.files.removeSome p r.gone).remove p } :=
    hpart.remove (fun q hq => remove_has hq) fun q hq hgone =>
      ⟨c.applicationId, c, h.row, hp q (remove_under hq hgone)⟩
  refine wp_rm h.stop hpart (fun _ => hpart) ⟨⟨hall, h.creating, h.row⟩, fun q hq => ?_,
    fun q hq => remove_gone hq⟩
  cases hnow : ((w.files.removeSome p r.gone).remove p).has q with
  | false => rfl
  | true =>
    have hback := removeSome_has (remove_has hnow)
    rw [hq] at hback
    cases hback

/-- A marker is cleared, or stays. -/
theorem Stop.clearMarker (h : Stop l w₀ w₁ w) {id : String} {c₀ : CreateCheckpoint}
    (hrow : w₀.checkpoint id = some c₀) (hstack : c₀.stackName = c.stackName) :
    wp (clearSettledMarker l c.stackName a)
      (fun _ w' => Stop l w₀ w₁ w' ∧ Fewer w w' ∧ w'.db = w.db)
      (fun _ => Stop l w₀ w₁) (Stop l w₀ w₁) w := by
  have hshrinks : ∀ q, (w.files.removeFile (l.stagingMarker c.stackName)).has q = true →
      w.files.has q = true := fun q hq => (Bool.and_eq_true_iff.mp hq).1
  have hcleared : Stop l w₀ w₁
      { w with files := w.files.removeFile (l.stagingMarker c.stackName) } := by
    refine h.remove hshrinks fun q hq hgone => ⟨id, c₀, hrow, .inr (.inr ?_)⟩
    have hpart : (w.files.has q && decide (q ≠ l.stagingMarker c.stackName)) = false := hgone
    rw [hq, Bool.true_and] at hpart
    rw [hstack]
    exact not_not.mp (of_decide_eq_false hpart)
  have hkept : wp (deleteStagingMarker l c.stackName a)
      (fun _ w' => Stop l w₀ w₁ w' ∧ Fewer w w' ∧ w'.db = w.db)
      (fun _ w' => Stop l w₀ w₁ w' ∧ Fewer w w' ∧ w'.db = w.db) (Stop l w₀ w₁) w := by
    unfold deleteStagingMarker
    cases a.markerInPlace with
    | false => exact wp_fail ⟨h, Fewer.refl w, rfl⟩
    | true =>
      rw [if_pos rfl]
      cases a.marker with
      | some error => exact wp_fail ⟨h, Fewer.refl w, rfl⟩
      | none =>
        refine wp_onFiles h ⟨hcleared, fun q hq => ?_, rfl⟩
        cases hnow : (w.files.removeFile (l.stagingMarker c.stackName)).has q with
        | false => rfl
        | true =>
          rw [hshrinks q hnow] at hq
          cases hq
  exact wp_recover (wp_bind (wp_mono hkept (fun _ _ hw => wp_pure hw) (fun _ _ hw => hw)
    fun _ hw => hw))

/-- A staged directory is removed, or the recovery stops. -/
theorem Open.removeStaged (h : Open l w₀ w₁ c w) {rel : Option RelPath} (inPlace : Bool)
    (r : Removal) (hrel : ∀ path, rel = some path → path ≠ [""] →
      resolveIn (l.managedRoot c.stackName) path ∈ w₀.db.staged l c) :
    wp (removeStaged (l.managedRoot c.stackName) rel inPlace r)
      (fun _ w' => Open l w₀ w₁ c w' ∧ Fewer w w' ∧ ∀ path, rel = some path → path ≠ [""] →
        ∀ q, resolveIn (l.managedRoot c.stackName) path <+: q → w'.files.has q = false)
      (fun _ => Stop l w₀ w₁) (Stop l w₀ w₁) w := by
  unfold Creates.removeStaged
  cases hfilter : rel.filter fun rel => rel ≠ [""] with
  | none =>
    refine wp_pure ⟨h, Fewer.refl w, fun path hpath hne => ?_⟩
    rw [hpath, filter_eq_none_iff] at hfilter
    exact absurd (decide_eq_true hne) (hfilter path rfl)
  | some path =>
    obtain ⟨hsome, hne⟩ := filter_eq_some_iff.mp hfilter
    have hstaged := hrel path hsome (of_decide_eq_true hne)
    dsimp only
    split
    · exact wp_fail h.stop
    · split
      · exact wp_fail h.stop
      · split
        · exact wp_fail h.stop
        · refine wp_mono (h.rm r fun q hq => .inr (.inl ⟨_, hstaged, hq⟩)) (fun _ w' hw => ?_)
            (fun _ _ hw => hw) fun _ hw => hw
          obtain ⟨hopen, hfewer, hgone⟩ := hw
          refine ⟨hopen, hfewer, fun path' hpath' _ => ?_⟩
          rw [hsome] at hpath'
          cases hpath'
          exact hgone

/-- What a create staged is removed, or the recovery stops. -/
theorem Open.removeOperationOwnedPaths (h : Open l w₀ w₁ c w) :
    wp (removeOperationOwnedPaths l c.stackName (w.db.directoriesOf c) c.createdManagedRoot a)
      (fun outcome w' => Stop l w₀ w₁ w' ∧ Fewer w w' ∧ (outcome = .cleared →
        Open l w₀ w₁ c w' ∧ ∀ p ∈ w₀.db.staged l c, ∀ q, p <+: q → w'.files.has q = false))
      (fun _ => Stop l w₀ w₁) (Stop l w₀ w₁) w := by
  unfold Creates.removeOperationOwnedPaths
  cases howns : c.createdManagedRoot with
  | true =>
    have hstaged : w₀.db.staged l c = [l.managedRoot c.stackName] := by
      unfold CreateDb.staged
      rw [howns]
      rfl
    cases a.rootInPlace with
    | false => exact wp_fail h.stop
    | true =>
      refine wp_bind (wp_mono (h.rm a.root fun q hq => .inr (.inl ⟨_, ?_, hq⟩))
        (fun _ w' hw => wp_pure ?_) (fun _ _ hw => hw) fun _ hw => hw)
      · rw [hstaged]
        exact mem_singleton.mpr rfl
      · refine ⟨hw.1.stop, hw.2.1, fun _ => ⟨hw.1, fun p hp => ?_⟩⟩
        rw [hstaged] at hp
        rw [mem_singleton.mp hp]
        exact hw.2.2
  | false =>
    have hdirs : w.db.directoriesOf c = w₀.db.directoriesOf c := by
      unfold CreateDb.directoriesOf
      rw [h.stop.settling.directories]
    have hstaged : ∀ p, p ∈ w₀.db.staged l c ↔ ∃ rel, (∃ d, w₀.db.directoriesOf c = some d ∧
        (rel = d.candidateDir ∨ rel = d.appliedDir)) ∧ ¬ rel = [""] ∧
          resolveIn (l.managedRoot c.stackName) rel = p := by
      intro p
      unfold CreateDb.staged
      rw [howns, if_neg Bool.false_ne_true]
      simp only [mem_filterMap, mem_flatMap, mem_toList, mem_cons,
        not_mem_nil, or_false, ite_none_left_eq_some, some.injEq]
    have hmap : ∀ {dir : GenerationDirs → RelPath} {path : RelPath},
        (w₀.db.directoriesOf c).map dir = some path →
          ∃ d, w₀.db.directoriesOf c = some d ∧ path = dir d := by
      intro dir path hpath
      obtain ⟨d, hd, hdir⟩ := map_eq_some_iff.mp hpath
      exact ⟨d, hd, hdir.symm⟩
    rw [hdirs]
    refine wp_bind (wp_mono (h.removeStaged a.candidateInPlace a.candidate fun path hpath hne =>
      ?_) (fun _ w₂ hfirst => ?_) (fun _ _ hw => hw) fun _ hw => hw)
    · obtain ⟨d, hd, hdir⟩ := hmap hpath
      exact (hstaged _).mpr ⟨path, ⟨d, hd, .inl hdir⟩, hne, rfl⟩
    obtain ⟨hopen₂, hfewer₂, hcand⟩ := hfirst
    refine wp_bind (wp_mono (hopen₂.removeStaged a.appliedInPlace a.applied fun path hpath hne =>
      ?_) (fun _ w₃ hsecond => ?_) (fun _ _ hw => hw) fun _ hw => hw)
    · obtain ⟨d, hd, hdir⟩ := hmap hpath
      exact (hstaged _).mpr ⟨path, ⟨d, hd, .inr hdir⟩, hne, rfl⟩
    obtain ⟨hopen₃, hfewer₃, happlied⟩ := hsecond
    refine wp_bind (wp_mono (hopen₃.stop.clearMarker h.row rfl) (fun cleared w₄ hmarker => ?_)
      (fun _ _ hw => hw) fun _ hw => hw)
    obtain ⟨hstop₄, hfewer₄, hdb₄⟩ := hmarker
    refine wp_pure ⟨hstop₄, hfewer₂.trans (hfewer₃.trans hfewer₄), fun _ => ⟨⟨hstop₄, ?_,
      h.row⟩, fun p hp q hq => ?_⟩⟩
    · unfold World.lifecycle
      rw [hdb₄]
      exact hopen₃.creating
    · obtain ⟨rel, ⟨d, hd, hrel⟩, hne, hresolved⟩ := (hstaged p).mp hp
      rw [← hresolved] at hq
      rcases hrel with hrel | hrel
      · refine hfewer₄ q (hfewer₃ q (hcand rel ?_ hne q hq))
        rw [hd, hrel]
        rfl
      · refine hfewer₄ q (happlied rel ?_ hne q hq)
        rw [hd, hrel]
        rfl

/-- A directory that a stat reports is there. -/
theorem present_has {stackName : String} {answers : Bool}
    (h : stackDirState l stackName answers w = .present) :
    w.files.has (l.stackDir stackName) = true := by
  unfold stackDirState at h
  cases answers with
  | false => cases h
  | true =>
    cases hthere : w.files.has (l.stackDir stackName) with
    | true => rfl
    | false =>
      rw [hthere] at h
      cases h

/-- Every stat that decides a create whose directory is there answers, and a checkpoint at its
last phase belongs to an application that is active. -/
def Decided (l : Layout) (w : World) (answers : String → Answers) : Prop :=
  ∀ id c, w.checkpoint id = some c →
    (c.phase = .pointersCommitted → w.lifecycle id ≠ some .creating) ∧
    (w.files.has (l.stackDir c.stackName) = true →
      (c.committed.isSome = true → (answers id).completionStat = true) ∧
      (c.committed = none → c.phase ≠ .preStack → (answers id).teardownStat = true))

/-- A settled checkpoint is dropped, or kept for its marker. -/
theorem Stop.clearCheckpoint (h : Stop l w₀ w₁ w) {id : String} {c₀ : CreateCheckpoint}
    (hrow : w₀.checkpoint id = some c₀) (hstack : c₀.stackName = c.stackName)
    (hsett : w.lifecycle c.applicationId ≠ some .creating) (outcome : CreateRecoveryOutcome) :
    wp (clearCheckpoint l c a outcome) (fun _ => Stop l w₀ w₁) (fun _ => Stop l w₀ w₁)
      (Stop l w₀ w₁) w := by
  refine wp_bind (wp_mono (h.clearMarker hrow hstack) (fun cleared w' hmarker => ?_)
    (fun _ _ hw => hw) fun _ hw => hw)
  obtain ⟨hstop, _, hdb⟩ := hmarker
  cases cleared with
  | false => exact wp_pure hstop
  | true =>
    refine wp_bind (wp_transact hstop (fun _ => hstop) (Tx.ensures_modify.mpr ?_))
    refine wp_pure (hstop.drop ?_)
    unfold World.lifecycle
    rw [hdb]
    exact hsett

section

variable (h : Open l w₀ w₁ c w)
include h

/-- A create whose manifest is committed and whose directory is there is finished. -/
theorem Open.complete (hcommitted : c.committed.isSome = true)
    (hdir : w.files.has (l.stackDir c.stackName) = true) (generationId : String) :
    wp (complete l c generationId a) (fun _ => Stop l w₀ w₁) (fun _ => Stop l w₀ w₁)
      (Stop l w₀ w₁) w := by
  have hfinish : ∀ spec manifest, wp (do
      transact (finishCreate c generationId spec manifest a) fun w =>
        { w with
          finished := (c.applicationId, w.files.has (l.stackDir c.stackName)) :: w.finished }
      clearCheckpoint l c a .completed) (fun _ => Stop l w₀ w₁) (fun _ => Stop l w₀ w₁)
      (Stop l w₀ w₁) w := by
    intro spec manifest
    refine wp_bind (wp_transact h.stop (fun _ => h.stop)
      (ensures_finishCreate.mono fun _ db hdb => ?_))
    obtain ⟨hothers, hactive, hrows, hdirectories⟩ := hdb
    have hnow := hactive h.creating
    have hstop := Stop.activate h hcommitted hdir hothers hnow hrows hdirectories
    refine hstop.clearCheckpoint h.row rfl ?_ .completed
    show lifecycle db.gitops c.applicationId ≠ _
    rw [hnow]
    exact fun heq => by cases heq
  unfold Creates.complete
  cases c.appliedSpec with
  | none =>
    cases a.manifest with
    | error error => exact wp_fail h.stop
    | ok manifest => exact hfinish _ _
  | some spec =>
    cases spec with
    | error error => exact wp_fail h.stop
    | ok spec =>
      cases a.manifest with
      | error error => exact wp_fail h.stop
      | ok manifest => exact hfinish _ _

/-- Once its stack's directory is gone, or may be the operator's, what a create staged goes
and the create is recorded as failed. -/
theorem Open.recordFailed
    (hstack : c.phase = .preStack ∨ w.files.has (l.stackDir c.stackName) = false) :
    wp (recordFailed l c (w₀.db.directoriesOf c) a) (fun _ => Stop l w₀ w₁)
      (fun _ => Stop l w₀ w₁) (Stop l w₀ w₁) w := by
  have hdirs : w.db.directoriesOf c = w₀.db.directoriesOf c := by
    unfold CreateDb.directoriesOf
    rw [h.stop.settling.directories]
  rw [← hdirs]
  refine wp_bind (wp_mono h.removeOperationOwnedPaths (fun outcome w₂ hcleanup => ?_)
    (fun _ _ hw => hw) fun _ hw => hw)
  obtain ⟨hstop, hfewer, hcleared⟩ := hcleanup
  cases outcome with
  | markerRetained => exact wp_pure hstop
  | cleared =>
    obtain ⟨hopen, hgone⟩ := hcleared rfl
    refine wp_bind (wp_transact hstop (fun _ => hstop) (ensures_failCreate.mono fun _ db hdb => ?_))
    obtain ⟨hothers, _, hdeleted, hrows, hdirectories⟩ := hdb
    refine wp_pure (hstop.retire hopen.creating (fun r hr => ?_) hothers hdeleted hrows
      hdirectories)
    rw [h.row] at hr
    cases hr
    refine ⟨hstack.imp_right (hfewer _), fun p hp q hq => hgone p ?_ q hq⟩
    rw [hstop.settling.staged_eq] at hp
    exact hp

/-- A create that is not finished is torn down. -/
theorem Open.teardown (hdecided : w.files.has (l.stackDir c.stackName) = true →
      c.committed = none ∧ (c.phase ≠ .preStack → a.teardownStat = true)) :
    wp (teardown l c a) (fun _ => Stop l w₀ w₁) (fun _ => Stop l w₀ w₁) (Stop l w₀ w₁) w := by
  have hdirs : w.db.directoriesOf c = w₀.db.directoriesOf c := by
    unfold CreateDb.directoriesOf
    rw [h.stop.settling.directories]
  refine wp_read_bind ?_
  rw [hdirs]
  by_cases hdelete : c.phase ≠ .preStack ∧ stackDirState l c.stackName a.teardownStat w = .present
  · rw [if_pos hdelete]
    have hthere : w.files.has (l.stackDir c.stackName) = true := present_has hdelete.2
    unfold Creates.deleteStack
    cases a.stackWithinBase with
    | false => exact wp_bind (wp_fail h.stop)
    | true =>
      have hremovable : ∀ q, l.stackDir c.stackName <+: q →
          Removable l w₀ c.applicationId c q := fun q hq =>
        .inl ⟨hq, hdelete.1, (hdecided hthere).1, h.stop.settling.creating h.creating⟩
      refine wp_bind (wp_mono (h.rm a.deleteStack hremovable) (fun _ w₂ hw => ?_)
        (fun _ _ hw => hw) fun _ hw => hw)
      exact hw.1.recordFailed (.inr (hw.2.2 _ (prefix_refl _)))
  · rw [if_neg hdelete]
    refine h.recordFailed ?_
    by_cases hph : c.phase = .preStack
    · exact .inl hph
    · refine .inr ?_
      cases hthere : w.files.has (l.stackDir c.stackName) with
      | false => rfl
      | true =>
        have hanswers := (hdecided hthere).2 hph
        refine absurd ⟨hph, ?_⟩ hdelete
        unfold stackDirState
        rw [hanswers, hthere]
        rfl

end

section

variable (hdecided : Decided l w₁ answers) (h₁ : Settling l w₀ w₁)
  (hrow : w₁.checkpoint c.applicationId = some c) (h : Stop l w₀ w₁ w)
include hdecided h₁ hrow h

/-- One checkpoint, at every point where its recovery may stop. -/
theorem stop_resolveOne : wp (resolveOne l c (answers c.applicationId)) (fun _ => Stop l w₀ w₁)
      (fun _ => Stop l w₀ w₁) (Stop l w₀ w₁) w := by
  obtain ⟨c₀, hc₀, hsame⟩ := h₁.rows c.applicationId c hrow
  have hstack : c₀.stackName = c.stackName := by
    rcases hsame with hsame | hsame
    · rw [hsame]
    · rw [hsame.1]
  obtain ⟨hpointers, hstats⟩ := hdecided c.applicationId c hrow
  refine wp_read_bind ?_
  cases happ : (w.db.gitops.getApplication c.applicationId).filter fun app =>
      c.phase ≠ .pointersCommitted && app.lifecycleStatus = .creating with
  | none =>
    refine h.clearCheckpoint hc₀ hstack (fun hcreating => ?_) .checkpointCleared
    obtain ⟨app, hfound, hlifecycle⟩ := map_eq_some_iff.mp hcreating
    rw [hfound, filter_eq_none_iff] at happ
    have hnot := happ app rfl
    have hph : c.phase = .pointersCommitted := by
      by_contra hother
      exact hnot (Bool.and_eq_true_iff.mpr ⟨decide_eq_true hother, decide_eq_true hlifecycle⟩)
    exact hpointers hph (h.since.creating _ hcreating)
  | some app =>
    obtain ⟨hfound, hcond⟩ := filter_eq_some_iff.mp happ
    rw [Bool.and_eq_true, decide_eq_true_eq, decide_eq_true_eq] at hcond
    have hcreating : w.lifecycle c.applicationId = some .creating := by
      unfold World.lifecycle lifecycle
      rw [hfound, map_some, hcond.2]
    have hopen : Open l w₀ w₁ c w := by
      refine ⟨h, hcreating, ?_⟩
      rcases hsame with hsame | hsame
      · rw [hsame]
        rw [hsame] at hc₀
        exact hc₀
      · refine absurd ?_ hcond.1
        rw [hsame.1]
    cases hcommitted : c.committed.filter fun _ =>
        stackDirState l c.stackName (answers c.applicationId).completionStat w = .present with
    | some generationId =>
      obtain ⟨hsome, hpresent⟩ := filter_eq_some_iff.mp hcommitted
      refine hopen.complete ?_ (present_has (of_decide_eq_true hpresent)) generationId
      rw [hsome]
      rfl
    | none =>
      refine hopen.teardown fun hthere => ?_
      obtain ⟨hcompletion, hteardown⟩ := hstats (h.since.shrinks _ hthere)
      have hnone : c.committed = none := by
        cases hsome : c.committed with
        | none => rfl
        | some generationId =>
          rw [hsome, filter_eq_none_iff] at hcommitted
          refine absurd (decide_eq_true ?_) (hcommitted generationId rfl)
          have hanswers := hcompletion (by rw [hsome]; rfl)
          unfold stackDirState
          rw [hanswers, hthere]
          rfl
      exact ⟨hnone, hteardown hnone⟩

theorem stop_settleOne : wp (settleOne l answers c) (fun _ => Stop l w₀ w₁) (fun _ => Stop l w₀ w₁)
      (Stop l w₀ w₁) w := by
  refine wp_bind (wp_recover (wp_mono (stop_resolveOne hdecided h₁ hrow h)
    (fun _ _ hw => wp_pure hw) (fun _ _ hw => wp_pure hw) fun _ hw => hw))

end

/-- An application without a checkpoint had none when the recoveries began. -/
theorem stop_settleCheckpointless {app : Application} (h : Stop l w₀ w₁ w) :
    wp (settleCheckpointless answers app) (fun _ => Stop l w₀ w₁) (fun _ => Stop l w₀ w₁)
      (Stop l w₀ w₁) w := by
  refine wp_read_bind ?_
  cases hnone : w.db.getCreateCheckpoint app.id with
  | some _ => exact wp_pure h
  | none =>
    refine wp_bind (wp_recover (wp_bind (wp_transact h (fun _ => wp_pure h)
      (ensures_failCreate.mono fun _ db hdb => ?_))))
    obtain ⟨hothers, hcreating, hdeleted, hrows, hdirectories⟩ := hdb
    refine wp_pure (wp_pure (h.retire hcreating (fun r hr => ?_) hothers hdeleted hrows
      hdirectories))
    have hkept := h.settling.kept app.id r hr hcreating
    unfold World.checkpoint at hkept
    unfold CreateDb.getCreateCheckpoint at hnone
    rw [hnone] at hkept
    cases hkept

theorem mem_listCreateCheckpoints {db : CreateDb} (h : c ∈ db.listCreateCheckpoints) :
    db.checkpoints.find? c.applicationId = some c := by
  have hmem : c ∈ db.checkpoints.rows := (mergeSort_perm _ _).mem_iff.mp h
  exact (db.checkpoints.find?_eq_some_iff _ _).mpr ⟨hmem, rfl⟩

/-- One recovery, at every point where it may stop. -/
theorem stop_resolveInterruptedCreates (hdecided : Decided l w answers) (h : Settling l w₀ w) :
    wp (resolveInterruptedCreates l answers) (fun _ => Stop l w₀ w) (fun _ => Stop l w₀ w)
      (Stop l w₀ w) w := by
  have hstart : Stop l w₀ w w := ⟨h, ⟨fun _ hq => hq, fun _ hid => hid⟩⟩
  refine wp_read_bind (wp_bind (wp_mono (wp_each (fun c hc t ht =>
    stop_settleOne hdecided h (mem_listCreateCheckpoints hc) ht) hstart)
    (fun _ w₂ hw₂ => ?_) (fun _ _ hw => hw) fun _ hw => hw))
  refine wp_read_bind (wp_bind (wp_mono (wp_each (fun app _ t ht =>
    stop_settleCheckpointless ht) hw₂) (fun _ _ hw => wp_pure hw) (fun _ _ hw => hw)
    fun _ hw => hw))

/-- What the creates of a process that died have come to. -/
structure Settled (l : Layout) (w₀ w : World) : Prop where
  activated : ∀ id, w₀.lifecycle id = some .creating → w.lifecycle id = some .active →
    ∃ c, w₀.checkpoint id = some c ∧ c.committed.isSome = true ∧ (id, true) ∈ w.finished
  present : ∀ id present, (id, present) ∈ w.finished → present = true
  failed : ∀ id c, w₀.checkpoint id = some c → w₀.lifecycle id = some .creating →
    w.lifecycle id = some .deleted → Gone l w c
  removed : ∀ q, w₀.files.has q = true → w.files.has q = false →
    ∃ id c, w₀.checkpoint id = some c ∧ (Removable l w₀ id c q ∧
      (w.lifecycle id = some .active → ¬ l.stackDir c.stackName <+: q ∨
        (∃ p ∈ w₀.db.staged l c, p <+: q) ∨ q = l.stagingMarker c.stackName))
  kept : ∀ id c, w₀.checkpoint id = some c → w.lifecycle id = some .creating →
    w.checkpoint id = some c

theorem Settling.settled (h : Settling l w₀ w) : Settled l w₀ w where
  activated := h.activated
  present := h.finished
  failed := h.failed
  removed := fun q hq hgone => by
    obtain ⟨id, c, hc, hremovable⟩ := h.removed q hq hgone
    refine ⟨id, c, hc, hremovable, fun hactive => ?_⟩
    rcases hremovable with ⟨_, _, hnone, hcreating⟩ | hstaged | hmarker
    · obtain ⟨c', hc', hcommitted, _⟩ := h.activated id hcreating hactive
      rw [hc] at hc'
      cases hc'
      rw [hnone] at hcommitted
      cases hcommitted
    · exact .inr (.inl hstaged)
    · exact .inr (.inr hmarker)
  kept := h.kept

/-- One recovery of a sequence, which may be cut off. -/
def recover (l : Layout) (w : World) (run : (String → Answers) × Budget) : World :=
  (resolveInterruptedCreates l run.1).after run.2 w

/-- Every sequence of recoveries, each with its own answers and cut off anywhere, where every
stat that decides a create answers. -/
theorem interrupted_creates_settle (l : Layout) (db : CreateDb) (files : Files)
    {runs : List ((String → Answers) × Budget)}
    (h : Runs.Along (recover l) (fun w run => Decided l w run.1) ⟨db, files, []⟩ runs) :
    Settled l ⟨db, files, []⟩ (Runs.run (recover l) ⟨db, files, []⟩ runs) := by
  have hstart : Settling l ⟨db, files, []⟩ ⟨db, files, []⟩ := Settling.refl l rfl
  refine (Runs.run_along (P := Settling l ⟨db, files, []⟩) (fun w run hw hdecided => ?_)
    hstart h).settled
  exact (after_of_wp (stop_resolveInterruptedCreates hdecided hw) run.2).settling

/-- A create from Git whose stack's directory is made and whose project is not. -/
def halfBuilt : CreateDb where
  gitops := { Db.empty with
    applications := ⟨[buildDirectApplicationRow "app" "web"
      ⟨some "https://git.example/web", none, some "main", none, none, some false, none,
        some "fingerprint"⟩ .creating .manual 1], by simp⟩ }
  checkpoints := ⟨[⟨"app", "web", .stackCreated, none, "create", "https://git.example/web",
    "main", none, none, true, 1⟩], by simp⟩
  directories := .empty
  sources := .empty
  pollIntervalSecs := fun _ => none
  gitOpsPollIntervalMins := 0

def homeLayout : Layout := ⟨["srv", "stacks"], ["srv", "git-managed"], "1"⟩

/-- The stack's directory, and the managed root. -/
def halfBuiltFiles : Files :=
  ⟨fun q => q = homeLayout.stackDir "web" || q = homeLayout.managedRoot "web"⟩

/-- Everything succeeds, but for the stat of the teardown. -/
def answering (teardownStat : Bool) : Answers where
  completionStat := true
  manifest := .ok none
  teardownStat := teardownStat
  stackWithinBase := true
  deleteStack := ⟨fun _ => true, none⟩
  rootInPlace := true
  root := ⟨fun _ => true, none⟩
  candidateInPlace := true
  candidate := ⟨fun _ => true, none⟩
  appliedInPlace := true
  applied := ⟨fun _ => true, none⟩
  markerInPlace := true
  marker := none
  artifactSetId := "set"
  sourceAcceptanceId := "acceptance"
  pollOperationId := "poll"
  now := 2

def beforeRecovery : World := ⟨halfBuilt, halfBuiltFiles, []⟩

theorem recover_halfBuilt (files : Files) (teardownStat : Bool) (budget : Budget) :
    recover homeLayout ⟨halfBuilt, files, []⟩ (fun _ => answering teardownStat, budget) =
      (Prog.each halfBuilt.checkpoints.rows (settleOne homeLayout fun _ => answering teardownStat)
        >>= fun settled => Prog.read >>= fun w =>
          Prog.each w.db.listCreatingDirectApplications
            (settleCheckpointless fun _ => answering teardownStat) >>= fun rest =>
          pure (settled ++ rest.flatten)).after budget ⟨halfBuilt, files, []⟩ := by
  have hlist : halfBuilt.listCreateCheckpoints = halfBuilt.checkpoints.rows :=
    mergeSort_singleton _
  rw [← hlist]
  rfl

/-- The create is recorded as failed, and its directory is still there. -/
theorem unknown_tombstoned : ¬ Settled homeLayout beforeRecovery
      (Runs.run (recover homeLayout) beforeRecovery [(fun _ => answering false, none)]) := by
  intro h
  rw [Runs.run_cons, Runs.run_nil, beforeRecovery, recover_halfBuilt] at h
  have hgone := h.failed "app" _ rfl (by decide) (by decide)
  rcases hgone.stack with hph | hthere
  · exact absurd hph (by decide)
  · exact absurd hthere (by decide)

/-- A recovery that is cut off while the stack's directory goes, and one that is not. -/
theorem halfBuilt_settles :
    Runs.Along (recover homeLayout) (fun w run => Decided homeLayout w run.1) beforeRecovery
        [(fun _ => answering true, some 1), (fun _ => answering true, none)] ∧
      Settled homeLayout beforeRecovery (Runs.run (recover homeLayout) beforeRecovery
        [(fun _ => answering true, some 1), (fun _ => answering true, none)]) := by
  have hdecided : ∀ w : World, (∀ id c, w.checkpoint id = some c → c.phase = .stackCreated) →
      Decided homeLayout w fun _ => answering true := by
    intro w hph id c hc
    refine ⟨fun hlast => ?_, fun _ => ⟨fun _ => rfl, fun _ _ => rfl⟩⟩
    rw [hph id c hc] at hlast
    cases hlast
  have hstart : ∀ id c, beforeRecovery.checkpoint id = some c → c.phase = .stackCreated := by
    intro id c hc
    have hmem := ((beforeRecovery.db.checkpoints.find?_eq_some_iff id c).mp hc).1
    rw [mem_singleton.mp hmem]
  have hcut : (recover homeLayout beforeRecovery (fun _ => answering true, some 1)).db =
      halfBuilt := by
    rw [beforeRecovery, recover_halfBuilt]
    rfl
  have hruns : Runs.Along (recover homeLayout) (fun w run => Decided homeLayout w run.1)
      beforeRecovery [(fun _ => answering true, some 1), (fun _ => answering true, none)] := by
    refine ⟨hdecided _ hstart, hdecided _ fun id c hc => hstart id c ?_, trivial⟩
    unfold World.checkpoint at hc ⊢
    rw [hcut] at hc
    exact hc
  exact ⟨hruns, interrupted_creates_settle homeLayout halfBuilt halfBuiltFiles hruns⟩

end Sencho.Creates
