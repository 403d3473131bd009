import Sencho.GitOps.Transitions

/-!
# Exact rules

What the two shapes of a transition leave in the database, exactly: an edited
application is written back over the stored row, an edited target is put under
its key.  A property of a call that depends on more than its write set is read
off these rules.
-/

namespace Sencho.GitOps

open Verified Tx

variable {db : Db}

namespace Db

/-- The database with the mutable half of an application row replaced. -/
def writeApp (db : Db) (app : Application) : Db := { db with
  applications := db.applications.update (fun a => a.id = app.id)
    (fun stored => keepIdentity stored app) fun stored => keepIdentity_id stored app }

/-- The database with a target row put under its key. -/
def putTarget (db : Db) (t : Target) : Db := { db with targets := db.targets.put t }

theorem getApplication_writeApp (app : Application) (id : String) :
    (db.writeApp app).getApplication id = (db.getApplication id).map fun stored =>
      if id = app.id then keepIdentity stored app else stored :=
  getApplication_writeApplication app id

/-- The row written back, when its application is there. -/
theorem getApplication_writeApp_self {app stored : Application} {id : String}
    (hid : app.id = id) (hst : db.getApplication id = some stored) :
    (db.writeApp app).getApplication id = some (keepIdentity stored app) := by
  rw [getApplication_writeApp, hst]
  simp [hid]

theorem getApplication_writeApp_ne {app : Application} {id : String} (hid : id ≠ app.id) :
    (db.writeApp app).getApplication id = db.getApplication id := by
  rw [getApplication_writeApp]
  simp [hid]

@[simp] theorem getApplication_putTarget (t : Target) (id : String) :
    (db.putTarget t).getApplication id = db.getApplication id := rfl

theorem find?_putTarget (t : Target) (key : TargetKey) :
    (db.putTarget t).targets.find? key =
      if key = t.key then some t else db.targets.find? key :=
  Table.find?_put db.targets t key

theorem find?_putTarget_self {t : Target} {key : TargetKey} (hkey : t.key = key) :
    (db.putTarget t).targets.find? key = some t := by
  rw [find?_putTarget, if_pos hkey.symm]

theorem find?_putTarget_ne {t : Target} {key : TargetKey} (hkey : key ≠ t.key) :
    (db.putTarget t).targets.find? key = db.targets.find? key := by
  rw [find?_putTarget, if_neg hkey]

end Db

/-- An application row as an edit leaves it. -/
def Application.stamped (app : Application) (envelope : EventEnvelope) : Application :=
  { app with
    latestOperationId := some envelope.operationId
    updatedAt := envelope.at_ }

/-- A target row as an edit leaves it. -/
def Target.stamped (t : Target) (stage : TargetStage) (keep : Bool)
    (envelope : EventEnvelope) : Target :=
  { t with
    latestStage :=
      if keep && isStandingBlueprintDecision t.latestStage then t.latestStage
      else some stage
    updatedAt := envelope.at_ }

variable {envelope : EventEnvelope} {id : String} {Q : Unit → Db → Prop}

theorem ensures_writeApplication {app : Application} :
    Tx.Ensures (writeApplication app) db Q ↔ Q () (db.writeApp app) :=
  ensures_modify

theorem ensures_upsert {row : Target} :
    Tx.Ensures (upsertTarget row) db Q ↔
      (assertTargetInvariants db row = none → Q () (db.putTarget row)) :=
  ensures_upsertTarget

theorem ensures_mutateApp {mutate : Application → Store Application} :
    Tx.Ensures (mutateApp id envelope mutate) db Q ↔
      ∀ app, db.getApplication id = some app →
        Tx.Ensures (mutate app) db fun app' db' =>
          Q () (db'.writeApp (app'.stamped envelope)) := by
  unfold mutateApp requireApp
  simp only [ensures_bind, ensures_get, ensures_require, ensures_writeApplication]
  rfl

theorem ensures_mutateTarget {β : Type} {nodeId : Int} {stage : TargetStage}
    {mutate : Target → Application → Store (Target × β)} {keep : Bool} {Q : β → Db → Prop} :
    Tx.Ensures (mutateTarget id nodeId envelope stage mutate keep) db Q ↔
      ∀ app t, db.getApplication id = some app → db.targets.find? ⟨id, nodeId⟩ = some t →
        Tx.Ensures (mutate t app) db fun r db' =>
          assertTargetInvariants db' (r.1.stamped stage keep envelope) = none →
            Q r.2 (db'.putTarget (r.1.stamped stage keep envelope)) := by
  unfold mutateTarget requireApp
  simp only [ensures_bind, ensures_get, ensures_require, ensures_upsertTarget, ensures_pure]
  constructor
  · intro h app t happ ht
    exact h app happ t ht
  · intro h app happ t ht
    exact h app t happ ht

theorem ensures_withApplication_iff {mutate : Db → Application → Application} :
    Tx.Ensures (withApplication id envelope mutate) db Q ↔
      ∀ app, db.getApplication id = some app →
        Q () (db.writeApp { mutate db app with updatedAt := envelope.at_ }) := by
  unfold withApplication requireApp
  simp only [ensures_bind, ensures_get, ensures_require, ensures_writeApplication]

/-- The targets after an edit of every listed row. -/
structure EditedRows (db db' : Db) (xs : List Target) (f : Target → Target) : Prop where
  edited : ∀ t ∈ xs, db'.targets.find? t.key = some (f t)
  others : ∀ key, (∀ t ∈ xs, t.key ≠ key) → db'.targets.find? key = db.targets.find? key
  applications : db'.applications = db.applications

theorem ensures_forM_upsert {f : Target → Target} (hf : ∀ t, (f t).key = t.key)
    (xs : List Target) (hxs : ∀ t ∈ xs, ∀ t' ∈ xs, t.key = t'.key → t = t') :
    Tx.Ensures (xs.forM fun t => upsertTarget (f t)) db fun _ db' =>
      EditedRows db db' xs f := by
  induction xs generalizing db with
  | nil =>
    refine ensures_pure.mpr ⟨fun t ht => ?_, fun _ _ => rfl, rfl⟩
    cases ht
  | cons x xs ih =>
    refine ensures_bind.mpr (ensures_upsert.mpr fun _ => ?_)
    have hrest := @ih (db.putTarget (f x)) fun t ht t' ht' =>
      hxs t (List.mem_cons_of_mem _ ht) t' (List.mem_cons_of_mem _ ht')
    refine hrest.mono fun _ db' h => ?_
    refine ⟨fun t ht => ?_, fun key hkey => ?_, h.applications⟩
    · by_cases hmem : ∃ t' ∈ xs, t'.key = t.key
      · obtain ⟨t', ht', hsame⟩ := hmem
        have heq : t' = t := hxs t' (List.mem_cons_of_mem _ ht') t ht hsame
        rw [← heq]
        exact h.edited t' ht'
      · have hx : t = x := by
          rcases List.mem_cons.mp ht with hx | hin
          · exact hx
          · exact absurd ⟨t, hin, rfl⟩ hmem
        rw [h.others t.key fun t' ht' heq => hmem ⟨t', ht', heq⟩, hx]
        exact Db.find?_putTarget_self (hf x)
    · rw [h.others key fun t ht => hkey t (List.mem_cons_of_mem _ ht)]
      refine Db.find?_putTarget_ne fun heq => ?_
      exact hkey x (by simp) ((hf x).symm.trans heq.symm)

/-- Listed rows with one key are one row. -/
theorem listed_unique {xs : List Target} (hxs : ∀ t ∈ xs, db.targets.find? t.key = some t) :
    ∀ t ∈ xs, ∀ t' ∈ xs, t.key = t'.key → t = t' := by
  intro t ht t' ht' hkey
  have hst := hxs t ht
  rw [hkey] at hst
  exact Option.some.inj (hst.symm.trans (hxs t' ht'))

end Sencho.GitOps
