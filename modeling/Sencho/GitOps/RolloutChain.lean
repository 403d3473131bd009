import Sencho.Verified.Chains
import Sencho.GitOps.CandidateBinding

/-!
# One live rollout generation

A generation that is opened supersedes the one the pointer names, and every
change that drops a pointer marks the generation it named.  So the live
generation of an application is the one its pointer names, the generations it
superseded form a chain, and history records each of them once.  The drift of a
preflight drops the pointer to a placement generation without marking it, and a
withdrawal records a generation that was superseded before a second time.
-/

namespace Sencho.GitOps

open Verified Option Function Table Db

variable {repoKey : String → Option String} {db db' : Db} {tr : Transition}

/-- The rollout generations, their history, and the pointers of the applications. -/
structure Rollouts where
  generation : String → Option RolloutGeneration
  history : Table SupersededRecord (String × String) SupersededRecord.dedupe
  pointer : String → Option String

/-- What a generation superseded when it was opened. -/
def Rollouts.link (r : Rollouts) (id : String) : Option String :=
  (r.generation id).bind fun g => g.supersedesGenerationId

def Db.rollouts (db : Db) : Rollouts where
  generation := db.getRolloutGeneration
  history := db.supersessions
  pointer id := (db.getApplication id).bind fun app => app.rolloutGenerationId

/-- Live generations are pointed to, superseded ones are chained and recorded once. -/
structure Chained (r : Rollouts) : Prop where
  pointed : ∀ id gid, r.pointer id = some gid →
    gid ≠ "" ∧ ∃ g, r.generation gid = some g ∧ g.applicationId = id
  live : ∀ gid g, r.generation gid = some g → g.supersededAt = none →
    r.pointer g.applicationId = some gid
  chain : Chain r.link
  linked : ∀ gid g p, r.generation gid = some g → g.supersedesGenerationId = some p →
    ∃ g', r.generation p = some g' ∧ g'.applicationId = g.applicationId ∧
      g'.supersededAt.isSome = true
  unlinked : ∀ id gid gid', r.pointer id = some gid → r.link gid' ≠ some gid
  recorded : ∀ key row, r.history.find? key = some row →
    ∃ g, r.generation row.rolloutGenerationId = some g ∧ g.supersededAt.isSome = true
  once : ∀ key key' row row', r.history.find? key = some row →
    r.history.find? key' = some row' → row.rolloutGenerationId = row'.rolloutGenerationId →
    key = key'

theorem chained_empty : Chained empty.rollouts where
  pointed _ _ h := by cases h
  live _ _ h := by cases h
  chain := .empty
  linked _ _ _ h := by cases h
  unlinked _ _ _ h := by cases h
  recorded _ _ h := by cases h
  once _ _ _ _ h := by cases h

/-- The rollouts with a new generation and the pointer on it. -/
def Rollouts.opening (r : Rollouts) (g : RolloutGeneration) : Rollouts where
  generation gid := if gid = g.id then some g else r.generation gid
  history := r.history
  pointer := update r.pointer g.applicationId (some g.id)

/-- A change of a generation that touches nothing but its marks, and takes none away. -/
structure Marks (f : RolloutGeneration → RolloutGeneration) : Prop where
  application : ∀ g, (f g).applicationId = g.applicationId
  link : ∀ g, (f g).supersedesGenerationId = g.supersedesGenerationId
  superseded : ∀ g, g.supersededAt.isSome = true → (f g).supersededAt.isSome = true

/-- What marking may add to history: nothing, or one generation it marks that
was not recorded yet. -/
def Records (f : RolloutGeneration → RolloutGeneration) (r r' : Rollouts) : Prop :=
  r'.history = r.history ∨ ∃ row, r.history.insert? row = some r'.history ∧
      (∃ g, r.generation row.rolloutGenerationId = some g ∧ (f g).supersededAt.isSome = true) ∧
      ∀ key old, r.history.find? key = some old → old.rolloutGenerationId ≠ row.rolloutGenerationId

variable {g : RolloutGeneration}

namespace Chained

variable {r r' : Rollouts} {f : RolloutGeneration → RolloutGeneration}

theorem link_marked (hf : Marks f) (hgens : ∀ gid, r'.generation gid =
    (r.generation gid).map f) : r'.link = r.link := by
  funext gid
  unfold Rollouts.link
  rw [hgens gid]
  cases r.generation gid with
  | none => rfl
  | some g => exact hf.link g

/-- Marking generations, with the pointers as they are. -/
theorem marks (h : Chained r) (hf : Marks f)
    (hgens : ∀ gid, r'.generation gid = (r.generation gid).map f)
    (hptr : r'.pointer = r.pointer) (hrecords : Records f r r') : Chained r' := by
  have hlink := link_marked hf hgens
  have hback : ∀ {gid g'}, r'.generation gid = some g' →
      ∃ g, r.generation gid = some g ∧ f g = g' := by
    intro gid g' hg'
    rw [hgens gid] at hg'
    exact map_eq_some_iff.mp hg'
  have hforth : ∀ {gid g}, r.generation gid = some g → r'.generation gid = some (f g) := by
    intro gid g hg
    rw [hgens gid, hg, map_some]
  refine ⟨fun id gid hp => ?_, fun gid g' hg' hlive => ?_, ?_, fun gid g' p hg' hp => ?_,
    fun id gid gid' hp => ?_, ?_, ?_⟩
  · rw [hptr] at hp
    obtain ⟨hnamed, g, hg, howner⟩ := h.pointed id gid hp
    exact ⟨hnamed, f g, hforth hg, (hf.application g).trans howner⟩
  · obtain ⟨g, hg, rfl⟩ := hback hg'
    rw [hptr, hf.application g]
    refine h.live gid g hg ?_
    cases hmark : g.supersededAt with
    | none => rfl
    | some at_ =>
      have hkept := hf.superseded g (by rw [hmark]; rfl)
      rw [hlive] at hkept
      cases hkept
  · rw [hlink]
    exact h.chain
  · obtain ⟨g, hg, rfl⟩ := hback hg'
    rw [hf.link g] at hp
    obtain ⟨old, hold, howner, hmark⟩ := h.linked gid g p hg hp
    refine ⟨f old, hforth hold, ?_, hf.superseded old hmark⟩
    rw [hf.application old, hf.application g]
    exact howner
  · rw [hptr] at hp
    rw [hlink]
    exact h.unlinked id gid gid' hp
  · intro key row hrow
    have hold : r.history.find? key = some row →
        ∃ g, r'.generation row.rolloutGenerationId = some g ∧ g.supersededAt.isSome = true := by
      intro hthere
      obtain ⟨g, hg, hmark⟩ := h.recorded key row hthere
      exact ⟨f g, hforth hg, hf.superseded g hmark⟩
    rcases hrecords with hkept | ⟨new, hinsert, ⟨g, hg, hmark⟩, -⟩
    · exact hold (hkept ▸ hrow)
    · rw [(insert?_eq_some hinsert).2] at hrow
      split at hrow
      · cases hrow
        exact ⟨f g, hforth hg, hmark⟩
      · exact hold hrow
  · intro key key' row row' hrow hrow' hsame
    rcases hrecords with hkept | ⟨new, hinsert, -, hfr⟩
    · rw [hkept] at hrow hrow'
      exact h.once key key' row row' hrow hrow' hsame
    · rw [(insert?_eq_some hinsert).2] at hrow hrow'
      split at hrow
      · rename_i hkey
        cases hrow
        split at hrow'
        · rename_i hkey'
          exact hkey.trans hkey'.symm
        · exact absurd hsame.symm (hfr key' row' hrow')
      · split at hrow'
        · cases hrow'
          exact absurd hsame (hfr key row hrow)
        · exact h.once key key' row row' hrow hrow' hsame

/-- Dropping a pointer whose generation is marked. -/
theorem drop (h : Chained r) {id : String}
    (hmarked : ∀ gid g, r.pointer id = some gid → r.generation gid = some g →
      g.supersededAt.isSome = true) : Chained { r with pointer := update r.pointer id none } := by
  have hback : ∀ {i gid}, update r.pointer id none i = some gid →
      r.pointer i = some gid := by
    intro i gid hp
    by_cases hi : i = id
    · rw [hi, update_self] at hp
      cases hp
    · rwa [update_of_ne hi] at hp
  refine ⟨fun i gid hp => h.pointed i gid (hback hp), fun gid g hg hlive => ?_, h.chain,
    h.linked, fun i gid gid' hp => h.unlinked i gid gid' (hback hp), h.recorded, h.once⟩
  have hptr := h.live gid g hg hlive
  have hne : g.applicationId ≠ id := by
    rintro rfl
    have hmark := hmarked gid g hptr hg
    rw [hlive] at hmark
    cases hmark
  show update r.pointer id none g.applicationId = some gid
  rw [update_of_ne hne]
  exact hptr

theorem link_opening {gid : String} :
    (r.opening g).link gid = if gid = g.id then g.supersedesGenerationId else r.link gid := by
  unfold Rollouts.link Rollouts.opening
  dsimp only
  split <;> rfl

/-- Opening a generation over the one the pointer names, once that is marked. -/
theorem opened (h : Chained r) (hfree : r.generation g.id = none)
    (hnamed : g.id ≠ "") (hlink : g.supersedesGenerationId = r.pointer g.applicationId)
    (hmarked : ∀ gid old, r.pointer g.applicationId = some gid →
      r.generation gid = some old → old.supersededAt.isSome = true) : Chained (r.opening g) := by
  have hold : ∀ {gid old}, r.generation gid = some old →
      (r.opening g).generation gid = some old := by
    intro gid old hg
    have hne : gid ≠ g.id := by
      rintro rfl
      exact some_ne_none old (hg.symm.trans hfree)
    show (if gid = g.id then some g else r.generation gid) = some old
    rw [if_neg hne]
    exact hg
  have hself : (r.opening g).generation g.id = some g := if_pos rfl
  have hcases : ∀ {gid g'}, (r.opening g).generation gid = some g' →
      (gid = g.id ∧ g' = g) ∨ r.generation gid = some g' := by
    intro gid g' hg'
    by_cases hid : gid = g.id
    · subst hid
      exact .inl ⟨rfl, (some.inj (hself.symm.trans hg')).symm⟩
    · exact .inr ((if_neg hid).symm.trans hg')
  have hpointers : ∀ {i gid}, (r.opening g).pointer i = some gid →
      (i = g.applicationId ∧ gid = g.id) ∨ (i ≠ g.applicationId ∧ r.pointer i = some gid) := by
    intro i gid hp
    have hp' : update r.pointer g.applicationId (some g.id) i = some gid := hp
    by_cases hi : i = g.applicationId
    · rw [hi, update_self] at hp'
      exact .inl ⟨hi, (some.inj hp').symm⟩
    · rw [update_of_ne hi] at hp'
      exact .inr ⟨hi, hp'⟩
  have hunnamed : ∀ gid, r.link gid ≠ some g.id := by
    intro gid hl
    obtain ⟨old, hg, hp⟩ := bind_eq_some_iff.mp hl
    obtain ⟨new, hnew, -⟩ := h.linked gid old g.id hg hp
    exact some_ne_none new (hnew.symm.trans hfree)
  refine ⟨fun i gid hp => ?_, fun gid g' hg' hlive => ?_, ?_, fun gid g' p hg' hp => ?_,
    fun i gid gid' hp => ?_, fun key row hrow => ?_, h.once⟩
  · rcases hpointers hp with ⟨rfl, rfl⟩ | ⟨-, hp⟩
    · exact ⟨hnamed, g, hself, rfl⟩
    · obtain ⟨hne, old, hg, howner⟩ := h.pointed i gid hp
      exact ⟨hne, old, hold hg, howner⟩
  · rcases hcases hg' with ⟨rfl, rfl⟩ | hg
    · exact update_self g'.applicationId (some g'.id) r.pointer
    · have hptr := h.live gid g' hg hlive
      have hne : g'.applicationId ≠ g.applicationId := by
        intro heq
        have hmark := hmarked gid g' (heq ▸ hptr) hg
        rw [hlive] at hmark
        cases hmark
      exact (update_of_ne hne (some g.id) r.pointer).trans hptr
  · refine h.chain.extend (fun gid hne => ?_) hunnamed fun p hp => ?_
    · rw [link_opening, if_neg hne]
    · rw [link_opening, if_pos rfl, hlink] at hp
      obtain ⟨-, old, hg, -⟩ := h.pointed g.applicationId p hp
      refine ⟨?_, fun gid => h.unlinked g.applicationId p gid hp⟩
      rintro rfl
      exact some_ne_none old (hg.symm.trans hfree)
  · rcases hcases hg' with ⟨rfl, rfl⟩ | hg
    · rw [hlink] at hp
      obtain ⟨-, old, hg, howner⟩ := h.pointed g'.applicationId p hp
      exact ⟨old, hold hg, howner, hmarked p old hp hg⟩
    · obtain ⟨old, hg', howner, hmark⟩ := h.linked gid g' p hg hp
      exact ⟨old, hold hg', howner, hmark⟩
  · rw [link_opening]
    rcases hpointers hp with ⟨rfl, rfl⟩ | ⟨hi, hp⟩
    · split
      · intro hself'
        rw [hlink] at hself'
        obtain ⟨-, old, hg, -⟩ := h.pointed g.applicationId g.id hself'
        exact some_ne_none old (hg.symm.trans hfree)
      · exact hunnamed gid'
    · split
      · intro hsame
        rw [hlink] at hsame
        obtain ⟨-, old, hg, howner⟩ := h.pointed g.applicationId gid hsame
        obtain ⟨-, old', hg', howner'⟩ := h.pointed i gid hp
        cases some.inj (hg.symm.trans hg')
        exact hi (howner'.symm.trans howner)
      · exact h.unlinked i gid gid' hp
  · obtain ⟨old, hg, hmark⟩ := h.recorded key row hrow
    exact ⟨old, hold hg, hmark⟩

end Chained

/-- A generation with its mark, when it is the one that is marked. -/
def RolloutGeneration.markedAt (g : RolloutGeneration) (id : String) (at_ : Int) :
    RolloutGeneration :=
  if g.id = id then { g with supersededAt := g.supersededAt.or (some at_) } else g

theorem marks_markedAt (id : String) (at_ : Int) : Marks fun g => g.markedAt id at_ := by
  refine ⟨fun g => ?_, fun g => ?_, fun g hmark => ?_⟩
  · unfold RolloutGeneration.markedAt
    split <;> rfl
  · unfold RolloutGeneration.markedAt
    split <;> rfl
  · unfold RolloutGeneration.markedAt
    split
    · obtain ⟨at₀, hat₀⟩ := isSome_iff_exists.mp hmark
      simp [hat₀]
    · exact hmark

section

variable {envelope : EventEnvelope} {applicationId generationId : String}

theorem getRolloutGeneration_supersede (gid : String) :
    (db.supersede applicationId generationId envelope).getRolloutGeneration gid =
      (db.getRolloutGeneration gid).map fun g => g.markedAt generationId envelope.at_ := by
  unfold supersede
  by_cases hlive :
      (db.getRolloutGeneration generationId).any (fun g => g.supersededAt.isNone) = true
  · rw [if_pos hlive]
    unfold markSuperseded getRolloutGeneration
    rw [find?_update]
    simp only [decide_eq_true_eq]
    rfl
  · rw [if_neg hlive]
    cases hg : db.getRolloutGeneration gid with
    | none => rfl
    | some g =>
      have hid : g.id = gid := key_of_find? hg
      rw [map_some]
      unfold RolloutGeneration.markedAt
      by_cases hself : g.id = generationId
      · rw [if_pos hself]
        rw [← hself, hid, hg, any_some] at hlive
        cases hmark : g.supersededAt with
        | none => exact absurd (by rw [hmark]; rfl) hlive
        | some at₀ => rw [some_or, ← hmark]
      · rw [if_neg hself]

theorem pointer_supersede : (db.supersede applicationId generationId envelope).rollouts.pointer =
      db.rollouts.pointer := by
  have happs := (@Db.supersede_beside db envelope applicationId generationId).applications
  unfold rollouts getApplication
  rw [happs]

/-- Superseding a generation keeps the chain. -/
theorem Chained.supersede (h : Chained db.rollouts) :
    Chained (db.supersede applicationId generationId envelope).rollouts := by
  refine h.marks (marks_markedAt generationId envelope.at_) getRolloutGeneration_supersede
    pointer_supersede ?_
  unfold Db.supersede
  by_cases hlive :
      (db.getRolloutGeneration generationId).any (fun g => g.supersededAt.isNone) = true
  · rw [if_pos hlive]
    obtain ⟨g, hg, hnone⟩ := (any_eq_true _ _).mp hlive
    have hid : g.id = generationId := key_of_find? hg
    cases hinsert : db.supersessions.insert?
        ⟨applicationId, envelope.operationId, generationId⟩ with
    | none =>
      refine .inl ?_
      show (db.supersessions.insert? _).getD db.supersessions = db.supersessions
      rw [hinsert, getD_none]
    | some table =>
      refine .inr ⟨⟨applicationId, envelope.operationId, generationId⟩, ?_, ⟨g, hg, ?_⟩,
        fun key old hold hsame => ?_⟩
      · show db.supersessions.insert? _ = some ((db.supersessions.insert? _).getD _)
        rw [hinsert, getD_some]
      · show (g.markedAt generationId envelope.at_).supersededAt.isSome = true
        unfold RolloutGeneration.markedAt
        rw [if_pos hid]
        cases g.supersededAt <;> rfl
      · obtain ⟨g', hg', hmark⟩ := h.recorded key old hold
        rw [hsame] at hg'
        cases some.inj (hg.symm.trans hg')
        rw [isNone_iff_eq_none.mp hnone] at hmark
        cases hmark
  · rw [if_neg hlive]
    exact .inl rfl

/-- A superseded generation is marked. -/
theorem marked_of_supersede
    (hg : (db.supersede applicationId generationId envelope).getRolloutGeneration
      generationId = some g) : g.supersededAt.isSome = true := by
  rw [getRolloutGeneration_supersede] at hg
  obtain ⟨g₀, hg₀, rfl⟩ := map_eq_some_iff.mp hg
  unfold RolloutGeneration.markedAt
  rw [if_pos (key_of_find? hg₀)]
  cases g₀.supersededAt <;> rfl

end

variable {app : Application}

/-- A pointer names something. -/
theorem Chained.filter_pointer (h : Chained db.rollouts) {id : String}
    (happ : db.getApplication id = some app) :
    app.rolloutGenerationId.filter (fun s => truthy (some s)) = app.rolloutGenerationId := by
  cases hp : app.rolloutGenerationId with
  | none => rfl
  | some gid =>
    have hptr : db.rollouts.pointer id = some gid := by
      unfold rollouts
      dsimp only
      rw [happ, bind_some]
      exact hp
    refine filter_eq_some_iff.mpr ⟨rfl, ?_⟩
    simp [truthy, (h.pointed id gid hptr).1]

section

variable {id : String} {app : Application} {envelope : EventEnvelope}

theorem Chained.supersedeNamed (h : Chained db.rollouts) :
    Chained (db.supersedeNamed app envelope).rollouts := by
  unfold Db.supersedeNamed
  split
  · exact h
  · exact h.supersede

theorem pointer_supersedeNamed :
    (db.supersedeNamed app envelope).rollouts.pointer = db.rollouts.pointer := by
  unfold supersedeNamed
  split
  · rfl
  · exact pointer_supersede

theorem Chained.supersedeAuthorized (h : Chained db.rollouts) :
    Chained (db.supersedeAuthorized app envelope).rollouts := by
  unfold Db.supersedeAuthorized
  split
  · exact h
  · exact h.supersede

theorem pointer_supersedeAuthorized :
    (db.supersedeAuthorized app envelope).rollouts.pointer = db.rollouts.pointer := by
  unfold supersedeAuthorized
  split
  · rfl
  · exact pointer_supersede

theorem pointer_of_app (happ : db.getApplication id = some app) :
    db.rollouts.pointer id = app.rolloutGenerationId := by
  unfold rollouts
  dsimp only
  rw [happ, bind_some]

section

variable (h : Chained db.rollouts) (happ : db.getApplication id = some app)
include h happ

/-- After the named generation was superseded, it is marked. -/
theorem marked_of_supersedeNamed {gid : String} (hp : app.rolloutGenerationId = some gid)
    (hg : (db.supersedeNamed app envelope).getRolloutGeneration gid = some g) :
    g.supersededAt.isSome = true := by
  have hfilter := h.filter_pointer happ
  rw [hp] at hfilter
  unfold supersedeNamed at hg
  rw [hp, hfilter] at hg
  exact marked_of_supersede hg

/-- After an authorized generation was superseded, it is marked; another one was
marked before, when the call may drop it. -/
theorem marked_of_supersedeAuthorized
    (hdrops : ∀ live, db.namedGeneration app = some live → live.supersededAt = none →
      live.provenance = .rolloutAuthorization) {gid : String}
    (hp : app.rolloutGenerationId = some gid)
    (hg : (db.supersedeAuthorized app envelope).getRolloutGeneration gid = some g) :
    g.supersededAt.isSome = true := by
  have hfilter := h.filter_pointer happ
  rw [hp] at hfilter
  have hnamed : db.namedGeneration app = db.getRolloutGeneration gid := by
    unfold namedGeneration
    rw [hp, hfilter, bind_some]
  unfold supersedeAuthorized at hg
  cases hlive : (db.namedGeneration app).filter (fun g => g.provenance = .rolloutAuthorization) with
  | none =>
    rw [hlive] at hg
    rw [hnamed, hg] at hlive hdrops
    cases hmark : g.supersededAt with
    | some _ => rfl
    | none =>
      have hprovenance := hdrops g rfl hmark
      simp [hprovenance] at hlive
  | some live =>
    rw [hlive] at hg
    have hfound := (filter_eq_some_iff.mp hlive).1
    rw [hnamed] at hfound
    have hid : live.id = gid := key_of_find? hfound
    rw [← hid] at hg
    exact marked_of_supersede hg

end

/-- The rollouts of a database, from its tables and its pointers. -/
theorem rollouts_eq {db₁ : Db} (hg : db'.rolloutGenerations = db₁.rolloutGenerations)
    (hs : db'.supersessions = db₁.supersessions) :
    db'.rollouts = { db₁.rollouts with pointer := db'.rollouts.pointer } := by
  unfold rollouts getRolloutGeneration
  rw [hg, hs]

end

/-- The rows a call inserts point nowhere, the generations it opens have an id, a
drift finds no live generation an approval opened, and a withdrawal finds its
generation unrecorded. -/
def Transition.KeepsRollouts (tr : Transition) (db : Db) : Prop :=
  (∀ application, tr.inserts = some application → application.rolloutGenerationId = none) ∧
  tr.opensGeneration ≠ some "" ∧ match tr with
    | .invalidateAuthorizationOnPreflightDrift id _ =>
      ∀ app live, db.getApplication id = some app → app.targetMode = .blueprint →
        (truthy app.rolloutAuthorizationRef || truthy app.preflightFingerprint) = true →
        db.namedGeneration app = some live → live.supersededAt = none →
        live.provenance = .rolloutAuthorization
    | .rolloutSuperseded id envelope =>
      ∀ app target, db.getApplication id = some app → app.lifecycleStatus = .active →
        rolloutToSupersede db app = some target →
        (db.supersessions.find? (id, envelope.operationId)).isSome = true ∨
        ∀ key row, db.supersessions.find? key = some row → row.rolloutGenerationId ≠ target.id
    | _ => True

/-- The marks of a withdrawal. -/
def RolloutGeneration.withdrawnFrom (g : RolloutGeneration) (id : String) (at_ : Int) :
    RolloutGeneration :=
  if g.id = id then
    { g with
      supersededAt := g.supersededAt.or (some at_)
      withdrawnAt := g.withdrawnAt.or (some at_) }
  else g

theorem marks_withdrawnFrom (id : String) (at_ : Int) : Marks fun g => g.withdrawnFrom id at_ := by
  refine ⟨fun g => ?_, fun g => ?_, fun g hmark => ?_⟩
  · unfold RolloutGeneration.withdrawnFrom
    split <;> rfl
  · unfold RolloutGeneration.withdrawnFrom
    split <;> rfl
  · unfold RolloutGeneration.withdrawnFrom
    split
    · obtain ⟨at₀, hat₀⟩ := isSome_iff_exists.mp hmark
      simp [hat₀]
    · exact hmark

/-- The target of a withdrawal is a generation that is there. -/
theorem rolloutToSupersede_stored {target : RolloutGeneration}
    (h : rolloutToSupersede db app = some target) :
    ∃ g, db.getRolloutGeneration target.id = some g := by
  have htarget := (filter_eq_some_iff.mp h).1
  have hmem : target ∈ db.rolloutGenerations.rows := by
    split at htarget
    · obtain ⟨gid, -, hfound⟩ := bind_eq_some_iff.mp htarget
      exact ((find?_eq_some_iff _ gid target).mp hfound).1
    · obtain ⟨accepted, -, hfound⟩ := bind_eq_some_iff.mp htarget
      exact List.mem_of_find?_eq_some hfound
  exact ⟨target, (find?_eq_some_iff _ target.id target).mpr ⟨hmem, rfl⟩⟩

/-- A pointer that names something is dropped. -/
theorem Chained.dropPointer_eq (h : Chained db.rollouts) {id : String}
    (happ : db.getApplication id = some app) : dropPointer app.rolloutGenerationId = none := by
  unfold dropPointer
  cases hp : app.rolloutGenerationId with
  | none => rfl
  | some gid =>
    obtain ⟨hnamed, -⟩ := h.pointed id gid ((pointer_of_app happ).trans hp)
    rw [if_pos (by simp [truthy, hnamed])]

section

variable {id : String} {app : Application} {envelope : EventEnvelope}

section

variable (h : Chained db.rollouts) (happ : db.getApplication id = some app)
include h happ

/-- A pointer dropped after the generation it names was superseded. -/
theorem Chained.dropNamed : Chained { (db.supersedeNamed app envelope).rollouts with
      pointer := update db.rollouts.pointer id none } := by
  have hchained : Chained (db.supersedeNamed app envelope).rollouts := h.supersedeNamed
  have hdropped := @Chained.drop _ hchained id fun gid g hp hg => ?_
  · rw [pointer_supersedeNamed] at hdropped
    exact hdropped
  · rw [pointer_supersedeNamed, pointer_of_app happ] at hp
    exact marked_of_supersedeNamed h happ hp hg

theorem Chained.dropAuthorized
    (hdrops : ∀ live, db.namedGeneration app = some live → live.supersededAt = none →
      live.provenance = .rolloutAuthorization) :
    Chained { (db.supersedeAuthorized app envelope).rollouts with
      pointer := update db.rollouts.pointer id none } := by
  have hchained : Chained (db.supersedeAuthorized app envelope).rollouts :=
    h.supersedeAuthorized
  have hdropped := @Chained.drop _ hchained id fun gid g hp hg => ?_
  · rw [pointer_supersedeAuthorized] at hdropped
    exact hdropped
  · rw [pointer_supersedeAuthorized, pointer_of_app happ] at hp
    exact marked_of_supersedeAuthorized h happ hdrops hp hg

end

end

/-- A move of the rollouts of one application keeps the chain. -/
theorem RolloutMove.chained {id : String} {pointer : Option String}
    (hmove : RolloutMove db db' tr app pointer) (h : Chained db.rollouts)
    (happ : db.getApplication id = some app) (hkeeps : tr.KeepsRollouts db)
    (hpointers : db'.rollouts.pointer = update db.rollouts.pointer id pointer) :
    Chained db'.rollouts := by
  have hid : app.id = id := key_of_find? happ
  have hnow := pointer_of_app happ
  cases hmove with
  | kept hg hs hp =>
    rw [rollouts_eq hg hs, hpointers, hp, ← hnow, update_eq_self]
    exact h
  | dropped envelope hg hs hp =>
    rw [rollouts_eq hg hs, hpointers, hp, h.dropPointer_eq happ]
    exact h.dropNamed happ
  | withdrawn envelope hg hs hp =>
    rw [rollouts_eq hg hs, hpointers, hp]
    by_cases hauth : ((db.namedGeneration app).any
        fun g => g.provenance = .rolloutAuthorization) = true
    · rw [if_pos hauth]
      refine h.dropAuthorized happ fun live hlive _ => ?_
      rw [hlive, any_some] at hauth
      exact of_decide_eq_true hauth
    · have hnone : (db.namedGeneration app).filter
          (fun g => g.provenance = .rolloutAuthorization) = none := by
        cases hnamed : db.namedGeneration app with
        | none => rfl
        | some g =>
          rw [hnamed, any_some] at hauth
          exact filter_eq_none_iff.mpr fun g' hg' => by
            cases hg'
            exact hauth
      have hsame : db.supersedeAuthorized app envelope = db := by
        unfold supersedeAuthorized
        rw [hnone]
      rw [if_neg hauth, ← hnow, update_eq_self, hsame]
      exact h
  | drifted envelope htr hauthorized hg hs hp =>
    rw [rollouts_eq hg hs, hpointers, hp, h.dropPointer_eq happ]
    subst htr
    rw [hid] at hkeeps
    exact h.dropAuthorized happ fun live hlive hnone =>
      hkeeps.2.2 app live happ hauthorized.1 hauthorized.2 hlive hnone
  | opened envelope g hg hs hp hopens howner hlink hlive =>
    obtain ⟨hfree, hfind⟩ := insert?_eq_some hg
    have hopn : db'.rollouts = (db.supersedeNamed app envelope).rollouts.opening g := by
      unfold Rollouts.opening
      rw [pointer_supersedeNamed, howner, hid, ← hp, ← hpointers]
      unfold rollouts getRolloutGeneration
      rw [hs, Rollouts.mk.injEq]
      exact ⟨funext hfind, rfl, rfl⟩
    rw [hopn]
    refine (h.supersedeNamed).opened hfree ?_ ?_ fun gid old hold hg' => ?_
    · rintro hempty
      rw [hempty] at hopens
      exact hkeeps.2.1 hopens
    · rw [pointer_supersedeNamed, howner, hid, hnow]
      exact hlink
    · rw [pointer_supersedeNamed, howner, hid, hnow] at hold
      exact marked_of_supersedeNamed h happ hold hg'
  | marked envelope target htr hactive htarget hg hs hp =>
    have hptr : db'.rollouts.pointer = db.rollouts.pointer := by
      rw [hpointers, hp, ← hnow, update_eq_self]
    refine h.marks (marks_withdrawnFrom target.id envelope.at_) hg hptr ?_
    subst htr
    rw [hid] at hkeeps hs
    cases hinsert : db.supersessions.insert? ⟨id, envelope.operationId, target.id⟩ with
    | none =>
      rw [hinsert, getD_none] at hs
      exact .inl hs
    | some table =>
      rw [hinsert, getD_some] at hs
      obtain ⟨g, hst⟩ := rolloutToSupersede_stored htarget
      refine .inr ⟨⟨id, envelope.operationId, target.id⟩, ?_, ⟨g, hst, ?_⟩, ?_⟩
      · exact hinsert.trans (congrArg some hs.symm)
      · show (g.withdrawnFrom target.id envelope.at_).supersededAt.isSome = true
        unfold RolloutGeneration.withdrawnFrom
        rw [if_pos (key_of_find? hst)]
        cases g.supersededAt <;> rfl
      · rcases hkeeps.2.2 app target happ hactive htarget with hthere | hfr
        · have hfree := (insert?_eq_some hinsert).1
          rw [show SupersededRecord.dedupe ⟨id, envelope.operationId, target.id⟩ =
            (id, envelope.operationId) from rfl] at hfree
          rw [hfree] at hthere
          cases hthere
        · exact hfr

/-- The pointers of the other applications. -/
theorem pointer_elsewhere {id : String} (hinserts : ∀ application,
      tr.inserts = some application → application.rolloutGenerationId = none)
    (hkept : ∀ app, db.getApplication id = some app →
      ∃ app', (step repoKey db tr).getApplication id = some app' ∧
        app'.rolloutGenerationId = app.rolloutGenerationId) :
    (step repoKey db tr).rollouts.pointer id = db.rollouts.pointer id := by
  cases happ : db.getApplication id with
  | some app =>
    obtain ⟨app', happ', hptr⟩ := hkept app happ
    rw [pointer_of_app happ, pointer_of_app happ', hptr]
  | none =>
    have hnone : db.rollouts.pointer id = none := by
      unfold rollouts
      dsimp only
      rw [happ, bind_none]
    rw [hnone]
    cases happ' : (step repoKey db tr).getApplication id with
    | none =>
      unfold rollouts
      dsimp only
      rw [happ', bind_none]
    | some app' =>
      obtain ⟨application, hinsert, hcolumns⟩ := step_inserted happ happ'
      rw [pointer_of_app happ']
      exact (hcolumns .rolloutGeneration (by decide)).trans (hinserts application hinsert)

/-- One call keeps the chain. -/
theorem chained_step (h : Chained db.rollouts) (hkeeps : tr.KeepsRollouts db) :
    Chained (step repoKey db tr).rollouts := by
  cases hat : tr.rollsAt with
  | none =>
    have hsame := @rolloutsKept_step repoKey db _ hat
    have hpointers : (step repoKey db tr).rollouts.pointer = db.rollouts.pointer :=
      funext fun id => pointer_elsewhere hkeeps.1 (hsame.pointers id)
    rw [rollouts_eq hsame.generations hsame.history, hpointers]
    exact h
  | some id =>
    obtain ⟨hmoved, hothers⟩ := @step_rollouts repoKey db _ _ hat
    rcases hmoved with hrf | ⟨app, app', happ, happ', hmove⟩
    · rw [hrf]
      exact h
    · refine hmove.chained h happ hkeeps (funext fun id' => ?_)
      by_cases hid : id' = id
      · rw [hid, update_self, pointer_of_app happ']
      · rw [update_of_ne hid]
        exact pointer_elsewhere hkeeps.1 fun app₀ happ₀ => hothers id' app₀ hid happ₀

/-- The links among the generations of one application. -/
def Db.linkOf (db : Db) (id gid : String) : Option String :=
  ((db.getRolloutGeneration gid).filter fun g => g.applicationId = id).bind fun g =>
    g.supersedesGenerationId

/-- One live generation, a chain of superseded ones, and one record of each. -/
structure OneLive (db : Db) (id : String) (app : Application) : Prop where
  live : ∀ gid g, db.getRolloutGeneration gid = some g → g.applicationId = id →
    g.supersededAt = none → app.rolloutGenerationId = some gid
  chain : Chain (db.linkOf id)
  once : ∀ key key' row row', db.supersessions.find? key = some row →
    db.supersessions.find? key' = some row' →
    row.rolloutGenerationId = row'.rolloutGenerationId → key = key'

/-- After every run of calls that leave no generation behind, an application has
one live generation. -/
theorem rollouts_chained (calls : List Transition)
    (hcalls : Runs.Along (step repoKey) (fun db tr => tr.KeepsRollouts db) empty calls) :
    ∀ id app, (runTransitions repoKey empty calls).getApplication id = some app →
      OneLive (runTransitions repoKey empty calls) id app := by
  intro id app happ
  have hrun := Runs.run_along (P := fun db : Db => Chained db.rollouts)
    (fun db tr h hkeeps => chained_step h hkeeps) chained_empty hcalls
  have hrun' : Chained (runTransitions repoKey empty calls).rollouts := hrun
  refine ⟨fun gid g hg howner hlive => ?_, hrun'.chain.mono fun gid p hp => ?_, hrun'.once⟩
  · have hptr := hrun'.live gid g hg hlive
    rw [howner, pointer_of_app happ] at hptr
    exact hptr
  · obtain ⟨g, hg, hlink⟩ := bind_eq_some_iff.mp hp
    exact bind_eq_some_iff.mpr ⟨g, (filter_eq_some_iff.mp hg).1, hlink⟩

/-- A placement and an authorization over it are one chain. -/
theorem rolloutStarted_oneLive :
    ∃ app, (runTransitions (fun url => some url) empty rolloutStarted).getApplication
        "app" = some app ∧
      OneLive (runTransitions (fun url => some url) empty rolloutStarted) "app" app := by
  have hrow : ((runTransitions (fun url => some url) empty rolloutStarted).getApplication
      "app").isSome = true := by
    decide +kernel
  obtain ⟨app, happ⟩ := isSome_iff_exists.mp hrow
  refine ⟨app, happ, rollouts_chained rolloutStarted ?_ "app" app happ⟩
  have hinserts : ∀ application, some linkedStack = some application →
      application.rolloutGenerationId = none := by
    intro application heq
    cases heq
    rfl
  have hnone : ∀ application, (none : Option Application) = some application →
      application.rolloutGenerationId = none := by
    intro application heq
    cases heq
  exact ⟨⟨hinserts, by decide, trivial⟩, ⟨hnone, by decide, trivial⟩,
    ⟨hnone, by decide, trivial⟩, ⟨hnone, by decide, trivial⟩, ⟨hnone, by decide, trivial⟩,
    ⟨hnone, by decide, trivial⟩, ⟨hnone, by decide, trivial⟩, ⟨hnone, by decide, trivial⟩,
    ⟨hnone, by decide, trivial⟩, ⟨hnone, by decide, trivial⟩, trivial⟩

/-- A new placement is approved over an authorized rollout, and the preflight of
the old one is found to have drifted. -/
def driftedOver : List Transition :=
  rolloutStarted ++ [.placementApproved ⟨"app", "p2", "i1", [⟨1, .place⟩], [1], none, none,
      envelopeAt "replace" 10, "r3", "c1", .operator, none, none, some .placementApproval⟩,
    .invalidateAuthorizationOnPreflightDrift "app" (envelopeAt "drift" 11)]

/-- The drift drops the pointer to the new placement generation and leaves the
generation live. -/
theorem drift_leaves_orphan : ¬ ∀ (calls : List Transition) (id : String) (app : Application),
      (runTransitions (fun url => some url) empty calls).getApplication id = some app →
      app.targetMode = .blueprint →
      OneLive (runTransitions (fun url => some url) empty calls) id app := by
  intro h
  have hgeneration : ((runTransitions (fun url => some url) empty
      driftedOver).getRolloutGeneration "r3").any (fun g =>
        g.applicationId = "app" && g.supersededAt.isNone) = true := by
    decide +kernel
  have hrow : ((runTransitions (fun url => some url) empty driftedOver).getApplication
      "app").any (fun app => app.targetMode = .blueprint &&
        app.rolloutGenerationId.isNone) = true := by
    decide +kernel
  obtain ⟨g, hg, hlive⟩ := (any_eq_true _ _).mp hgeneration
  obtain ⟨app, happ, hcolumns⟩ := (any_eq_true _ _).mp hrow
  simp only [Bool.and_eq_true, decide_eq_true_eq, isNone_iff_eq_none] at hlive hcolumns
  have hpointed := (h driftedOver "app" app happ hcolumns.1).live "r3" g hg hlive.1 hlive.2
  rw [hcolumns.2] at hpointed
  cases hpointed

end Sencho.GitOps
