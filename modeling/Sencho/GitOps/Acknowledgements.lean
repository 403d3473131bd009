import Sencho.GitOps.RolloutRules
import Sencho.GitOps.RecoveryClaims

/-!
# Acknowledgements

A Blueprint deploy is asked for in one call and acknowledged in another, and any
calls may come between.  The acknowledgement binds the target to the generation
the application has accepted by then, so it names the generation that was
deployed exactly when that one is still accepted, or when the request's intent
has been left and the acknowledgement is recorded beside the pointers.
-/

namespace Sencho.GitOps

open Verified Option Tx Target

variable {repoKey : String → Option String} {db : Db} {tr : Transition}

theorem retiredOnSuccess_applied (t : Target) :
    t.retiredOnSuccess.appliedGenerationId = t.appliedGenerationId := by
  unfold retiredOnSuccess withoutClaim
  split
  · rw [clearFailure_applied]
  · rfl

theorem acknowledged_applied (t : Target) (app : Application) (args : BlueprintAckArgs)
    (candidateId : Option String) :
    (t.acknowledged app args candidateId).appliedGenerationId = app.acceptedGenerationId := by
  unfold acknowledged
  rw [clearInterruption_applied, clearFailure_applied]
  rfl

/-- How an acknowledgement was recorded, and the applied pointer it leaves. -/
structure AckApplied (app : Application) (args : BlueprintAckArgs) (outcome : AckOutcome)
    (t t' : Target) : Prop where
  superseded : outcome = .superseded ↔ app.intentRevisionId ≠ some args.intentRevisionId
  kept : outcome = .superseded → t'.appliedGenerationId = t.appliedGenerationId
  current : outcome ≠ .superseded → t'.appliedGenerationId = app.acceptedGenerationId

variable {app : Application}

theorem ensures_acknowledge {t : Target} {args : BlueprintAckArgs}
    {candidateId : Option String} (happ : db.getApplication args.applicationId = some app) :
    Tx.Ensures (acknowledge t app args candidateId) db fun r _ =>
      r.1.key = t.key ∧ AckApplied app args r.2 t r.1 := by
  unfold acknowledge
  rw [ensures_ite, ensures_pure]
  refine ⟨fun hintent => ⟨?_, ?_, ?_, ?_⟩, fun hintent => ?_⟩
  · rw [markInFlightRestore_key]
    exact (t.releaseRequest_kept args).1
  · exact iff_of_true rfl hintent
  · intro _
    rw [markInFlightRestore_applied]
    exact (t.releaseRequest_kept args).2 .applied (by simp)
  · intro h
    exact absurd rfl h
  · simp only [ensures_bind, ensures_pure]
    refine (ensures_onSuccess happ).mono fun t' db' h => ?_
    obtain ⟨now, hnow, -⟩ := h.2.owner
    refine (ensures_released hnow).mono fun _ _ _ => ?_
    rw [h.1]
    refine ⟨by simp [(t.acknowledged_kept app args candidateId).1],
      iff_of_false (by simp) hintent, fun habs => (by cases habs), fun _ => ?_⟩
    rw [markInFlightRestore_applied, retiredOnSuccess_applied, acknowledged_applied]

theorem alreadyAcked_spec {t : Target} {intentRevisionId : String} {candidateId : Option String}
    (h : alreadyAckedForThisRollout t app intentRevisionId candidateId = true) :
    app.intentRevisionId = some intentRevisionId ∧
      t.appliedGenerationId = app.acceptedGenerationId := by
  unfold alreadyAckedForThisRollout at h
  simp only [Bool.and_eq_true, decide_eq_true_eq] at h
  exact ⟨h.1.1.1.1.1.1, h.1.1.1.2⟩

/-- An accepted acknowledgement: superseded exactly when the application has left
the request's intent, and otherwise bound to what the application accepts. -/
theorem ack_applied {args : BlueprintAckArgs} :
    Tx.Ensures (blueprintAckRecorded args) db fun outcome db' =>
      ∃ app t t', db.getApplication args.applicationId = some app ∧
        db.targets.find? ⟨args.applicationId, args.nodeId⟩ = some t ∧
        db'.targets.find? ⟨args.applicationId, args.nodeId⟩ = some t' ∧
        AckApplied app args outcome t t' := by
  refine ensures_mutateTarget.mpr fun app t happ ht => ?_
  have hkey : t.key = ⟨args.applicationId, args.nodeId⟩ := Table.key_of_find? ht
  have hland : ∀ (r : Target × AckOutcome) (db' : Db), r.1.key = t.key →
      AckApplied app args r.2 t r.1 →
      ∃ app t t', db.getApplication args.applicationId = some app ∧
        db.targets.find? ⟨args.applicationId, args.nodeId⟩ = some t ∧
        (db'.putTarget (r.1.stamped .blueprintAckRecorded false args.envelope)).targets.find?
          ⟨args.applicationId, args.nodeId⟩ = some t' ∧ AckApplied app args r.2 t t' := by
    intro r db' hrow hacked
    exact ⟨app, t, _, happ, ht, Db.find?_putTarget_self (hrow.trans hkey), hacked.superseded,
      hacked.kept, hacked.current⟩
  rw [ensures_ite, ensures_pure]
  refine ⟨fun hacked _ => hland _ _ (t.noteRecoveryPoint_kept _).1 ?_, fun _ => ?_⟩
  · obtain ⟨hintent, happlied⟩ := alreadyAcked_spec hacked
    refine ⟨iff_of_false (by simp) (not_not.mpr hintent), fun habs => (by cases habs), fun _ => ?_⟩
    rw [← happlied]
    exact (t.noteRecoveryPoint_kept _).2 .applied (by simp)
  · simp only [ensures_bind, ensures_require, ensures_refuseIf]
    intro candidate hmatch _
    exact (ensures_acknowledge happ).mono fun r db' hacked _ => hland r db' hacked.1 hacked.2

/-- A Blueprint deploy of one target, from the call that asked for it to the call
that acknowledged it, with whatever came before and between. -/
structure Delivery (repoKey : String → Option String) where
  before : List Transition
  request : BlueprintDeployStartedArgs
  between : List Transition
  ack : BlueprintAckArgs
  /-- The generation the application had accepted when the deploy began. -/
  generationId : String
  outcome : AckOutcome
  after : Db
  started : accepts (blueprintDeployStarted request) (runTransitions repoKey Db.empty before)
  materialized : ((runTransitions repoKey Db.empty before).getApplication
    request.applicationId).bind Application.acceptedGenerationId = some generationId
  application : ack.applicationId = request.applicationId
  node : ack.nodeId = request.nodeId
  intent : ack.intentRevisionId = request.intentRevisionId
  candidate : ack.rolloutCandidateId = request.rolloutCandidateId
  acked : blueprintAckRecorded ack (runTransitions repoKey Db.empty
    (before ++ .blueprintDeployStarted request :: between)) = .ok (outcome, after)

namespace Delivery

/-- The database the acknowledgement finds. -/
def atAck (d : Delivery repoKey) : Db :=
  runTransitions repoKey Db.empty (d.before ++ .blueprintDeployStarted d.request :: d.between)

def key (d : Delivery repoKey) : TargetKey := ⟨d.ack.applicationId, d.ack.nodeId⟩

/-- The acknowledgement names the generation that was deployed, or is recorded as
superseded and leaves the pointer as it was. -/
def Attributed (d : Delivery repoKey) : Prop :=
  ∃ t t', d.atAck.targets.find? d.key = some t ∧ d.after.targets.find? d.key = some t' ∧
    ((t'.appliedGenerationId = some d.generationId ∧
        ∀ app, d.after.getApplication d.ack.applicationId = some app → app.targetMode ≠ .direct →
          runningGenerationForTarget app t' = some d.generationId) ∨
      (d.outcome = .superseded ∧ t'.appliedGenerationId = t.appliedGenerationId))

/-- The application still accepts the generation that was deployed, or has left
the intent it was deployed for. -/
def StillCurrent (generationId intentRevisionId : String) (app : Application) : Prop :=
  app.acceptedGenerationId = some generationId ∨ app.intentRevisionId ≠ some intentRevisionId

/-- The calls that move the accepted generation under an open request. -/
def Reaccepts (d : Delivery repoKey) : Transition → Prop
  | .sourceAccepted args | .applied args => args.applicationId = d.ack.applicationId
  | .inlineRevisionFrozen id _ _ _ => id = d.ack.applicationId
  | .intentRevised id intent _ =>
    id = d.ack.applicationId ∧ intent.id = d.ack.intentRevisionId
  | _ => False

end Delivery

theorem running_of_applied {t : Target} (h : app.targetMode ≠ .direct) :
    runningGenerationForTarget app t = t.appliedGenerationId := by
  unfold runningGenerationForTarget
  cases hmode : app.targetMode with
  | direct => exact absurd hmode h
  | inlineBlueprint | blueprint => rfl

/-- Exactly when the acknowledgement names what was deployed. -/
theorem Delivery.attributed_iff (d : Delivery repoKey) :
    d.Attributed ↔ ∃ app, d.atAck.getApplication d.ack.applicationId = some app ∧
      StillCurrent d.generationId d.ack.intentRevisionId app := by
  obtain ⟨app, t, t', happ, ht, ht', hsuper, hkept, hcur⟩ := ack_applied _ _ d.acked
  constructor
  · rintro ⟨told, tnew, htold, htnew, hattributed⟩
    have hold : told = t := some.inj (htold.symm.trans ht)
    have hnew : tnew = t' := some.inj (htnew.symm.trans ht')
    subst hold hnew
    refine ⟨app, happ, ?_⟩
    by_cases hout : d.outcome = .superseded
    · exact .inr (hsuper.mp hout)
    · rcases hattributed with ⟨happlied, -⟩ | ⟨hout', -⟩
      · exact .inl ((hcur hout).symm.trans happlied)
      · exact absurd hout' hout
  · rintro ⟨app', happ', hstill⟩
    have hsame : app' = app := some.inj (happ'.symm.trans happ)
    subst hsame
    refine ⟨t, t', ht, ht', ?_⟩
    by_cases hout : d.outcome = .superseded
    · exact .inr ⟨hout, hkept hout⟩
    · rcases hstill with hacc | hintent
      · have happlied := (hcur hout).trans hacc
        refine .inl ⟨happlied, fun app _ hmode => ?_⟩
        rw [running_of_applied hmode]
        exact happlied
      · exact absurd (hsuper.mpr hintent) hout

/-- The calls that write the accepted generation or the intent. -/
theorem reaccepting_cases (hactivates : tr.activates = false)
    (h : .accepted ∈ tr.appWrites ∨ .intent ∈ tr.appWrites) :
    (∃ args, tr = .sourceAccepted args ∨ tr = .applied args) ∨
      (∃ id generation artifactSetId envelope,
        tr = .inlineRevisionFrozen id generation artifactSetId envelope) ∨
      ∃ id intent envelope, tr = .intentRevised id intent envelope := by
  cases tr <;> first
    | (simp [Transition.appWrites, authorizationColumns] at h; done)
    | (simp; done)
    | cases hactivates

/-- One call between the request and the acknowledgement. -/
theorem Delivery.stillCurrent_step (d : Delivery repoKey)
    (happ : db.getApplication d.ack.applicationId = some app)
    (hstill : StillCurrent d.generationId d.ack.intentRevisionId app) (hnot : ¬ d.Reaccepts tr) :
    ∃ app', (step repoKey db tr).getApplication d.ack.applicationId = some app' ∧
      StillCurrent d.generationId d.ack.intentRevisionId app' := by
  obtain ⟨app', happ', hkept⟩ := @step_app repoKey _ tr _ _ happ
  refine ⟨app', happ', ?_⟩
  have hsame : (∀ c, c = .accepted ∨ c = .intent →
      tr.activates = true ∨ ¬ tr.writes (.app d.ack.applicationId c)) →
      StillCurrent d.generationId d.ack.intentRevisionId app' := by
    intro hquiet
    have hacc : app'.acceptedGenerationId = app.acceptedGenerationId :=
      hkept .accepted (hquiet .accepted (.inl rfl))
    have hintent : app'.intentRevisionId = app.intentRevisionId :=
      hkept .intent (hquiet .intent (.inr rfl))
    unfold StillCurrent
    rw [hacc, hintent]
    exact hstill
  cases hact : tr.activates with
  | true => exact hsame fun _ _ => .inl hact
  | false =>
    by_cases howns : tr.scope.ownsApp d.ack.applicationId
    · by_cases hwr : .accepted ∈ tr.appWrites ∨ .intent ∈ tr.appWrites
      · rcases reaccepting_cases hact hwr with ⟨args, rfl | rfl⟩ | ⟨id, g, a, e, rfl⟩ |
          ⟨id, intent, envelope, rfl⟩
        · exact absurd howns.symm hnot
        · exact absurd howns.symm hnot
        · exact absurd howns.symm hnot
        · have hid : d.ack.applicationId = id := howns
          have hrevised : (step repoKey db (.intentRevised id intent envelope)) = db ∨
              ∃ app app', IntentRevised db
                (step repoKey db (.intentRevised id intent envelope)) id intent envelope
                app app' :=
            commit_or ensures_intentRevised
          rcases hrevised with hsamedb | ⟨old, new, hnew⟩
          · rw [hsamedb] at happ'
            rw [some.inj (happ'.symm.trans happ)]
            exact hstill
          · rw [hid] at happ'
            have heq : app' = new := some.inj (happ'.symm.trans hnew.after)
            refine .inr ?_
            rw [heq, hnew.intent]
            intro hintent
            exact hnot ⟨hid.symm, some.inj hintent⟩
      · refine hsame fun c hc => .inr fun hw => hwr ?_
        rcases hc with rfl | rfl
        · exact .inl hw.2
        · exact .inr hw.2
    · exact hsame fun c _ => .inr fun hw => howns hw.1

theorem Delivery.stillCurrent_run (d : Delivery repoKey)
    (happ : db.getApplication d.ack.applicationId = some app)
    (hstill : StillCurrent d.generationId d.ack.intentRevisionId app)
    {calls : List Transition} (hcalls : ∀ tr ∈ calls, ¬ d.Reaccepts tr) :
    ∃ app', (Runs.run (step repoKey) db calls).getApplication d.ack.applicationId = some app' ∧
      StillCurrent d.generationId d.ack.intentRevisionId app' := by
  induction calls generalizing db app with
  | nil => exact ⟨app, happ, hstill⟩
  | cons tr calls ih =>
    obtain ⟨next, hnext, hstill'⟩ := d.stillCurrent_step happ hstill
      (hcalls tr (List.mem_cons_self ..))
    exact ih hnext hstill' fun tr' htr' => hcalls tr' (List.mem_cons_of_mem _ htr')

/-- A delivery is attributed to what was deployed exactly when, at the
acknowledgement, the application still accepts it or has left its intent; and it
is attributed in every run that accepts nothing else under the open request. -/
theorem delivery_attributed (d : Delivery repoKey) :
    (d.Attributed ↔ ∃ app, d.atAck.getApplication d.ack.applicationId = some app ∧
      Delivery.StillCurrent d.generationId d.ack.intentRevisionId app) ∧
    ((∀ tr ∈ d.between, ¬ d.Reaccepts tr) → d.Attributed) := by
  refine ⟨d.attributed_iff, fun hbetween => d.attributed_iff.mpr ?_⟩
  obtain ⟨app, happ, hacc⟩ := bind_eq_some_iff.mp d.materialized
  rw [← d.application] at happ
  have hstart : ∀ tr ∈ .blueprintDeployStarted d.request :: d.between, ¬ d.Reaccepts tr := by
    intro tr htr
    rcases List.mem_cons.mp htr with rfl | htr
    · exact fun h => h
    · exact hbetween tr htr
  have hrun := d.stillCurrent_run happ (.inl hacc) hstart
  unfold Delivery.atAck runTransitions
  rw [Runs.run_append]
  exact hrun

/-- A fetched generation of the linked stack, ready to be accepted. -/
def fetchedGeneration (id : String) : Generation :=
  ⟨id, "app", some .branch, "fingerprint", true, false⟩

/-- Offer a fetched generation and accept it. -/
def offerAndAccept (generationId : String) (at_ : Int) : List Transition :=
  [.stageGeneration (fetchedGeneration generationId),
    .candidateReady "app" generationId false (envelopeAt ("offer-" ++ generationId) at_),
    .sourceAccepted ⟨"app", generationId, "artifacts-" ++ generationId,
      "acceptance-" ++ generationId, .operator,
      envelopeAt ("accept-" ++ generationId) (at_ + 1), false, none⟩]

/-- A linked stack with its first generation accepted, retargeted to a Blueprint
with one intent and one node. -/
def retargeted : List Transition :=
  .activateDirect linkedStack 1 (envelopeAt "link" 1) :: offerAndAccept "g1" 2 ++
    [.convertDirectToBlueprint "app" 7 (envelopeAt "retarget" 4),
      .intentRevised "app" ⟨"i1", "app", "sha", "web", none, 5⟩ (envelopeAt "intent" 5)]

/-- The deploy of the first generation, acknowledged after the second was
accepted. -/
def overtaken : Delivery fun url => some url where
  before := retargeted
  request := ⟨"app", 1, "i1", none, none, envelopeAt "deploy" 6⟩
  between := offerAndAccept "g2" 7
  ack := ⟨"app", 1, "i1", none, none, none, envelopeAt "deploy" 9⟩
  generationId := "g1"
  outcome := .acknowledged
  after := _
  started := ⟨(), _, ok_of_result (by decide)⟩
  materialized := by decide
  application := rfl
  node := rfl
  intent := rfl
  candidate := rfl
  acked := ok_of_result (by decide)

/-- The acknowledgement of the first generation's deploy names the second. -/
theorem overtaken_not_attributed : ¬ ∀ d : Delivery fun url => some url, d.Attributed := by
  intro h
  obtain ⟨app, happ, hstill⟩ := overtaken.attributed_iff.mp (h overtaken)
  have hnow : (overtaken.atAck.getApplication overtaken.ack.applicationId).all (fun app =>
      app.acceptedGenerationId = some "g2" && app.intentRevisionId = some "i1") = true := by
    decide
  rw [happ] at hnow
  simp only [all_some, Bool.and_eq_true, decide_eq_true_eq] at hnow
  rcases hstill with hacc | hintent
  · exact absurd (hnow.1.symm.trans hacc) (by decide)
  · exact hintent hnow.2

/-- The same deploy, acknowledged while the second generation is only offered. -/
def undisturbed : Delivery fun url => some url where
  before := retargeted
  request := overtaken.request
  between := (offerAndAccept "g2" 7).take 2
  ack := overtaken.ack
  generationId := "g1"
  outcome := .acknowledged
  after := _
  started := ⟨(), _, ok_of_result (by decide)⟩
  materialized := by decide
  application := rfl
  node := rfl
  intent := rfl
  candidate := rfl
  acked := ok_of_result (by decide)

/-- The acknowledgement of the first generation's deploy names the first. -/
theorem undisturbed_attributed : undisturbed.Attributed :=
  (delivery_attributed undisturbed).2 (by simp [undisturbed, offerAndAccept, Delivery.Reaccepts])

end Sencho.GitOps
