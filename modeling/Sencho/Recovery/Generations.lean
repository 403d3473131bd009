import Sencho.Recovery.StorageIdentity
import Sencho.Verified.Runs

/-!
# Generations of a storage

The generations of a storage key, newest first, are numbered down to one, each
names the one before it, no two have the same token, and exactly the newest is
current.  An observation keeps this of every key: it either finds the current
generation again, or puts a new one in front and marks the one before it.
-/

namespace Sencho.Recovery

open Verified Savepoints List Runs StorageDb Leads

/-! ## What an observation does -/

namespace StorageDb

/-- The tables once the current generation, if there is one, is superseded. -/
def retire (db : StorageDb) : Option IdentityRow → StorageDb
  | none => db
  | some current => db.supersede current.id

theorem insertIdentity_ok {db db' : StorageDb} {row : IdentityRow} {u : Unit}
    (h : db.insertIdentity row = .ok (u, db')) :
    db'.identities.rows = row :: db.identities.rows := by
  unfold insertIdentity at h
  split at h
  · cases h
  · cases hins : db.identities.insert? row with
    | none =>
      rw [hins] at h
      cases h
    | some identities =>
      rw [hins] at h
      cases h
      unfold Table.insert? at hins
      split at hins
      · cases hins
      · cases hins
        rfl

theorem identity_ok {db db' : StorageDb} {id : String} {row : IdentityRow}
    (h : db.identity id = .ok (row, db')) : db.identities.find? id = some row ∧ db' = db := by
  unfold identity at h
  cases hfind : db.identities.find? id with
  | none =>
    rw [hfind] at h
    cases h
  | some found =>
    rw [hfind] at h
    cases h
    exact ⟨rfl, rfl⟩

theorem insertDependent_identities (db : StorageDb) (row : DependentRow) :
    (db.insertDependent row).identities = db.identities := by
  unfold insertDependent
  cases db.dependents.insert? row with
  | none | some dependents => rfl

end StorageDb

/-- What an observation does to the identities: the current generation is seen
again, or a new one supersedes it. -/
inductive GenerationSettled (o : Observing) (storageKey : String) (db db' : StorageDb)
    (id : String) :
    Prop where
  | again (current : IdentityRow) (hcur : db.currentOf storageKey = some current)
      (hid : id = current.id)
      (hrows : db'.identities = (db.touch current.id o.now).identities)
  | opened (authorityId locator : String) (hid : id = o.newId)
      (hfr : db.seenBefore storageKey o.token = false)
      (hrows : db'.identities.rows =
        o.nextRow authorityId storageKey locator (db.currentOf storageKey)
          ((db.retire (db.currentOf storageKey)).latestGeneration storageKey) ::
        (db.retire (db.currentOf storageKey)).identities.rows)

theorem GenerationSettled.of_identities {o : Observing} {storageKey id : String}
    {db db₁ db' : StorageDb} (h : GenerationSettled o storageKey db db₁ id)
    (hsame : db'.identities = db₁.identities) : GenerationSettled o storageKey db db' id := by
  cases h with
  | again current hcur hid hrows => exact .again current hcur hid (hsame.trans hrows)
  | opened authorityId locator hid hfr hrows =>
    exact .opened authorityId locator hid hfr (by rw [hsame, hrows])

namespace Observing

variable (o : Observing) {authorityId storageKey locator : String}
variable (current : Option IdentityRow)

theorem supersedeSql_leads :
    Leads (supersedeSql current) fun db _ db' => db' = db.retire current := by
  cases current with
  | none => exact pure fun _ => rfl
  | some c =>
    unfold supersedeSql
    refine statement fun db u db' h => ?_
    cases h
    rfl

/-- The insert of a new generation, after the current one is superseded. -/
theorem insertGeneration_leads : Leads (do
        let latest ← Code.select fun db => db.latestGeneration storageKey
        Code.statement fun db =>
          db.insertIdentity (o.nextRow authorityId storageKey locator current latest)
        return o.newId : StorageSql String) fun db id db' =>
      id = o.newId ∧ db'.identities.rows = o.nextRow authorityId storageKey locator current
        (db.latestGeneration storageKey) :: db.identities.rows := by
  refine bind (select (Q := fun db latest db' =>
    latest = db.latestGeneration storageKey ∧ db' = db) fun db => ⟨rfl, rfl⟩)
    (fun latest => bind (statement fun db u db' h => insertIdentity_ok h)
      (fun _ => pure (Q := fun db id db' => id = o.newId ∧ db' = db) fun db => ⟨rfl, rfl⟩)
      (S := fun db id db' => id = o.newId ∧ db'.identities.rows =
        o.nextRow authorityId storageKey locator current latest :: db.identities.rows) ?_) ?_
  · rintro db u db₁ id db' hrows ⟨hid, rfl⟩
    exact ⟨hid, hrows⟩
  · rintro db latest db₁ id db' ⟨rfl, rfl⟩ hrest
    exact hrest

theorem openGeneration_leads :
    Leads (o.openGeneration authorityId storageKey locator current) fun db id db' =>
      id = o.newId ∧ db.seenBefore storageKey o.token = false ∧
      db'.identities.rows = o.nextRow authorityId storageKey locator current
        ((db.retire current).latestGeneration storageKey) ::
          (db.retire current).identities.rows := by
  refine bind (select (Q := fun db seen db' =>
    seen = db.seenBefore storageKey o.token ∧ db' = db) fun db => ⟨rfl, rfl⟩)
    (R := fun seen db id db' => id = o.newId ∧ seen = false ∧ db'.identities.rows =
      o.nextRow authorityId storageKey locator current
        ((db.retire current).latestGeneration storageKey) ::
          (db.retire current).identities.rows) (fun seen => ?_) ?_
  · refine ite (fun _ => throw) fun hseen => ?_
    refine bind (supersedeSql_leads current) (fun _ => o.insertGeneration_leads current) ?_
    rintro db u db₁ id db' rfl ⟨hid, hrows⟩
    exact ⟨hid, Bool.eq_false_iff.mpr hseen, hrows⟩
  · rintro db seen db₁ id db' ⟨rfl, rfl⟩ hrest
    exact hrest

theorem settleIdentity_leads :
    Leads (o.settleIdentity authorityId storageKey locator current) fun db id db' =>
      db.currentOf storageKey = current → GenerationSettled o storageKey db db' id := by
  have hopen : Leads (o.openGeneration authorityId storageKey locator current)
      fun db id db' => db.currentOf storageKey = current →
        GenerationSettled o storageKey db db' id := by
    refine (o.openGeneration_leads current).mono ?_
    rintro db id db' ⟨hid, hfr, hrows⟩ rfl
    exact .opened authorityId locator hid hfr hrows
  cases current with
  | none => exact hopen
  | some c =>
    refine ite (fun _ => ?_) fun _ => hopen
    refine bind (statement (Q := fun db _ db' => db' = db.touch c.id o.now) ?_)
      (fun _ => pure (Q := fun db id db' => id = c.id ∧ db' = db) fun db => ⟨rfl, rfl⟩) ?_
    · rintro db u db' h
      cases h
      rfl
    · rintro db u db₁ id db' rfl ⟨hid, rfl⟩ hcur
      exact .again c hcur hid rfl

theorem insertDependents_leads (ds : List StorageDependent) :
    Leads (o.insertDependents storageKey ds) fun db _ db' =>
      db'.identities = db.identities := by
  induction ds with
  | nil => exact pure fun _ => rfl
  | cons d ds ih =>
    refine ite (fun _ => throw) fun _ => ?_
    refine bind (statement (Q := fun db _ db' =>
      db'.identities = db.identities) fun db u db' h => ?_) (fun _ => ih)
      fun db _ db₁ _ db' hfirst hrest => hrest.trans hfirst
    cases h
    exact db.insertDependent_identities _

theorem replaceDependents_leads : Leads (o.replaceDependents storageKey) fun db _ db' =>
      db'.identities = db.identities := by
  refine bind (statement (Q := fun db _ db' =>
    db'.identities = db.identities) fun db u db' h => ?_)
    (fun _ => o.insertDependents_leads o.observation.dependents)
    fun db _ db₁ _ db' hfirst hrest => hrest.trans hfirst
  cases h
  rfl

theorem body_leads : Leads (o.body authorityId storageKey locator) fun db row db' =>
      GenerationSettled o storageKey db db' row.id ∧ db'.identities.find? row.id = some row := by
  refine bind (select (Q := fun db current db' =>
    current = db.currentOf storageKey ∧ db' = db) fun db => ⟨rfl, rfl⟩)
    (fun current => bind (o.settleIdentity_leads current)
      (fun id => bind (o.replaceDependents_leads)
        (fun _ => statement fun db row db' h => identity_ok h)
        (S := fun db row db' => db'.identities = db.identities ∧
          db'.identities.find? id = some row) ?_)
      (S := fun db row db' => db.currentOf storageKey = current →
        GenerationSettled o storageKey db db' row.id ∧ db'.identities.find? row.id = some row) ?_) ?_
  · rintro db u db₁ row db' hsame ⟨hfind, rfl⟩
    exact ⟨hsame, hfind⟩
  · rintro db id db₁ row db' hsett ⟨hsame, hfind⟩ hcur
    have hid : row.id = id := Table.key_of_find? hfind
    rw [hid]
    exact ⟨(hsett hcur).of_identities hsame, hfind⟩
  · rintro db current db₁ row db' ⟨rfl, rfl⟩ hrest
    exact hrest rfl

/-- An observation that returns settled the identity of one key, which is the
key of its answer. -/
theorem observe_leads (derive : String → String → StorageKind → String → String) :
    Leads (o.observe derive) fun db row db' => ∃ storageKey,
      GenerationSettled o storageKey db db' row.id ∧ db'.identities.find? row.id = some row := by
  refine ite (fun _ => throw) fun _ => ?_
  cases canonicalizeLocator o.observation.kind o.observation.locator with
  | error e => exact throw
  | ok locator =>
    cases o.authorityId with
    | none => exact throw
    | some authorityId =>
      exact (transaction o.body_leads).mono fun db row db' h => ⟨_, h⟩

/-- An observation that throws leaves the connection as it was. -/
theorem observe_undone (derive : String → String → StorageKind → String → String)
    {c : Connection StorageDb} {e : StoreError} (hrun : (o.observe derive c).1 = .error e) :
    (o.observe derive c).2 = c := by
  unfold observe at hrun ⊢
  split
  · rfl
  · next htoken =>
      rw [if_neg htoken] at hrun
      cases hlocator : canonicalizeLocator o.observation.kind o.observation.locator with
      | error e' => rfl
      | ok locator =>
        rw [hlocator] at hrun
        cases hauthority : o.authorityId with
        | none => rfl
        | some authorityId =>
          rw [hauthority] at hrun
          exact o.body_leads.undone hrun

end Observing

/-! ## Lineages -/

/-- Generations, newest first: numbered down to one, each naming the one before
it, with tokens of their own. -/
inductive Descends : List IdentityRow → Prop where
  | none : Descends []
  | next {r : IdentityRow} {rest : List IdentityRow} (hrest : Descends rest)
      (hgeneration : r.generation = rest.length + 1)
      (hparent : r.lineageParentId = rest.head?.map IdentityRow.id)
      (htoken : ∀ p ∈ rest, p.generationToken ≠ r.generationToken) : Descends (r :: rest)

namespace Descends

variable {h : List IdentityRow}

section

variable (hd : Descends h)
variable {r : IdentityRow}
include hd

/-- A change of the other columns keeps the descent. -/
theorem map {f : IdentityRow → IdentityRow} (hid : ∀ r, (f r).id = r.id)
    (hgeneration : ∀ r, (f r).generation = r.generation)
    (htoken : ∀ r, (f r).generationToken = r.generationToken)
    (hparent : ∀ r, (f r).lineageParentId = r.lineageParentId) : Descends (h.map f) := by
  induction hd with
  | none => exact .none
  | @next r rest hrest hgen hpar htok ih =>
    refine .next ih ?_ ?_ fun p hp => ?_
    · rw [hgeneration, length_map, hgen]
    · rw [hparent, hpar, head?_map]
      cases rest.head? with
      | none => rfl
      | some p => exact congrArg some (hid p).symm
    · obtain ⟨q, hq, rfl⟩ := mem_map.mp hp
      rw [htoken, htoken]
      exact htok q hq

theorem generation_le (hr : r ∈ h) : 1 ≤ r.generation ∧ r.generation ≤ h.length := by
  induction hd with
  | none => cases hr
  | @next r' rest hrest hgen hpar htok ih =>
    rw [length_cons]
    rcases mem_cons.mp hr with rfl | hr
    · omega
    · have := ih hr
      omega

theorem latest : h.foldr (fun r g => max r.generation g) 0 = h.length := by
  induction hd with
  | none => rfl
  | @next r rest hrest hgen hpar htok ih =>
    rw [foldr_cons, ih, hgen, length_cons]
    omega

theorem generations : h.map IdentityRow.generation = (range' 1 h.length).reverse := by
  induction hd with
  | none => rfl
  | @next r rest hrest hgen hpar htok ih =>
    rw [map_cons, ih, hgen, length_cons, range'_concat, reverse_append]
    simp [Nat.add_comm]

/-- No two generations have the same token. -/
theorem token_inj {r' : IdentityRow} (hr : r ∈ h) (hr' : r' ∈ h)
    (htoken : r.generationToken = r'.generationToken) : r = r' := by
  induction hd with
  | none => cases hr
  | @next first rest hrest hgen hpar htok ih =>
    rcases mem_cons.mp hr with heq | hold
    · rcases mem_cons.mp hr' with heq' | hold'
      · rw [heq, heq']
      · rw [heq] at htoken
        exact absurd htoken.symm (htok r' hold')
    · rcases mem_cons.mp hr' with heq' | hold'
      · rw [heq'] at htoken
        exact absurd htoken (htok r hold)
      · exact ih hold hold'

/-- The parent of a generation is the generation before it. -/
theorem parent {r' : IdentityRow} (hr : r ∈ h) (hr' : r' ∈ h)
    (hnext : r'.generation = r.generation + 1) : r'.lineageParentId = some r.id := by
  induction hd with
  | none => cases hr
  | @next first rest hrest hgen hpar htok ih =>
    rcases mem_cons.mp hr' with heq' | hold'
    · rw [heq'] at hnext ⊢
      rw [hpar]
      rcases mem_cons.mp hr with heq | hold
      · rw [heq] at hnext
        omega
      · cases hrest with
        | none => cases hold
        | @next second older holder hgen' hpar' htok' =>
          rcases mem_cons.mp hold with heq | hold
          · rw [heq]
            rfl
          · have hle := holder.generation_le hold
            rw [length_cons] at hgen
            omega
    · rcases mem_cons.mp hr with heq | hold
      · have hle := hrest.generation_le hold'
        rw [heq] at hnext
        omega
      · exact ih hold hold'

theorem first_parent (hr : r ∈ h) (hfirst : r.generation = 1) :
    r.lineageParentId = Option.none := by
  induction hd with
  | none => cases hr
  | @next r' rest hrest hgen hpar htok ih =>
    rcases mem_cons.mp hr with rfl | hr
    · have hnil : rest = [] := length_eq_zero_iff.mp (by omega)
      rw [hpar, hnil]
      rfl
    · exact ih hr

end

end Descends

/-- A lineage whose newest generation, and no other, is current. -/
structure Lineage (h : List IdentityRow) : Prop where
  descends : Descends h
  current : ∀ r, h.head? = some r → r.state = .current
  superseded : ∀ r ∈ h.tail, r.state = .superseded

namespace StorageDb

variable (db : StorageDb)

theorem mem_history {storageKey : String} {r : IdentityRow} :
    r ∈ db.history storageKey ↔ r ∈ db.identities.rows ∧ r.storageKey = storageKey := by
  simp [history]

/-- The current generation is the newest. -/
theorem currentOf_eq {storageKey : String} (h : Lineage (db.history storageKey)) :
    db.currentOf storageKey = (db.history storageKey).head? := by
  have hfind : db.currentOf storageKey =
      (db.history storageKey).find? fun r => r.state = .current := by
    simp [currentOf, history, find?_filter]
  rw [hfind]
  cases hhistory : db.history storageKey with
  | nil => rfl
  | cons r rest =>
    have hcur : r.state = .current := h.current r (by rw [hhistory]; rfl)
    simp [hcur]

/-- The generations of a key after an update that keeps the keys. -/
theorem history_update (storageKey : String) {p : IdentityRow → Bool}
    {f : IdentityRow → IdentityRow} (hid : ∀ r, (f r).id = r.id)
    (hkey : ∀ r, (f r).storageKey = r.storageKey) :
    ({ db with identities := db.identities.update p f hid } : StorageDb).history storageKey =
      (db.history storageKey).map fun r => if p r then f r else r := by
  have hkept : ∀ r, (if p r then f r else r).storageKey = r.storageKey := by
    intro r
    by_cases hp : p r = true
    · rw [if_pos hp, hkey]
    · rw [if_neg hp]
  simp only [history, Table.update, filter_map, Function.comp_def, hkept]

/-- A row once the current generation, if there is one, is superseded. -/
def retired (current : Option IdentityRow) (r : IdentityRow) : IdentityRow :=
  if current.any fun c => r.id = c.id then { r with state := .superseded } else r

theorem history_retire (current : Option IdentityRow) (storageKey : String) :
    (db.retire current).history storageKey = (db.history storageKey).map (retired current) := by
  cases current with
  | none =>
    have hsame : retired none = id := by
      funext r
      simp [retired]
    rw [hsame, map_id]
    rfl
  | some c =>
    have hid : ∀ r : IdentityRow,
        ({ r with state := .superseded } : IdentityRow).id = r.id := fun _ => rfl
    refine (db.history_update storageKey hid fun _ => rfl).trans ?_
    refine map_congr_left fun r _ => ?_
    simp only [retired, Option.any_some]

theorem retired_cases (current : Option IdentityRow) (r : IdentityRow) :
    (retired current r).id = r.id ∧ (retired current r).generation = r.generation ∧
      (retired current r).generationToken = r.generationToken ∧
      (retired current r).lineageParentId = r.lineageParentId := by
  unfold retired
  split <;> exact ⟨rfl, rfl, rfl, rfl⟩

end StorageDb

namespace Lineage

variable {o : Observing} {storageKey id : String} {db db' : StorageDb}

theorem descends_retired {h : List IdentityRow} (hd : Descends h)
    (current : Option IdentityRow) : Descends (h.map (retired current)) :=
  hd.map (fun r => (retired_cases current r).1) (fun r => (retired_cases current r).2.1)
    (fun r => (retired_cases current r).2.2.1)
    (fun r => (retired_cases current r).2.2.2)

/-- Seeing a generation again keeps every lineage. -/
theorem touch (h : ∀ k, Lineage (db.history k)) (touched : String) (now : Int) (k : String) :
    Lineage ((db.touch touched now).history k) := by
  have hid : ∀ r : IdentityRow, ({ r with lastSeenAt := now } : IdentityRow).id = r.id :=
    fun _ => rfl
  have hhistory : (db.touch touched now).history k = (db.history k).map fun r =>
      if r.id = touched then { r with lastSeenAt := now } else r := by
    refine (db.history_update k hid fun _ => rfl).trans ?_
    simp only [decide_eq_true_eq]
  have hstate : ∀ r : IdentityRow,
      (if r.id = touched then { r with lastSeenAt := now } else r).state = r.state := by
    intro r
    split <;> rfl
  rw [hhistory]
  refine ⟨(h k).descends.map ?_ ?_ ?_ ?_, fun r hr => ?_, fun r hr => ?_⟩
  · intro r
    split <;> rfl
  · intro r
    split <;> rfl
  · intro r
    split <;> rfl
  · intro r
    split <;> rfl
  · rw [head?_map, Option.map_eq_some_iff] at hr
    obtain ⟨r₀, hr₀, rfl⟩ := hr
    rw [hstate]
    exact (h k).current r₀ hr₀
  · rw [← map_tail, mem_map] at hr
    obtain ⟨r₀, hr₀, rfl⟩ := hr
    rw [hstate]
    exact (h k).superseded r₀ hr₀

/-- Only the key of the current generation is retired. -/
theorem retired_other {k : String} (hk : k ≠ storageKey) :
    (db.history k).map (retired (db.currentOf storageKey)) = db.history k := by
  refine Eq.trans (map_congr_left (g := id) fun r hr => ?_) (map_id _)
  obtain ⟨hrow, hrk⟩ := db.mem_history.mp hr
  cases hcur : db.currentOf storageKey with
  | none => simp [retired]
  | some c =>
    have hc : c ∈ db.identities.rows := mem_of_find?_eq_some hcur
    have hckey : c.storageKey = storageKey := by
      have hfound := find?_some hcur
      simp only [Bool.and_eq_true, decide_eq_true_eq] at hfound
      exact hfound.1
    have hne : r.id ≠ c.id := by
      intro heq
      have hsame := inj_on_of_nodup_map db.identities.nodup hrow hc heq
      exact hk (by rw [← hrk, hsame, hckey])
    simp [retired, hne]

/-- A new generation goes in front of the lineage it supersedes. -/
theorem opened (h : Lineage (db.history storageKey)) {authorityId locator : String}
    (hfr : db.seenBefore storageKey o.token = false) :
    Lineage (o.nextRow authorityId storageKey locator (db.currentOf storageKey)
      ((db.retire (db.currentOf storageKey)).latestGeneration storageKey) ::
        (db.history storageKey).map (retired (db.currentOf storageKey))) := by
  have hdescends := descends_retired h.descends (db.currentOf storageKey)
  have hlatest : (db.retire (db.currentOf storageKey)).latestGeneration storageKey =
      ((db.history storageKey).map (retired (db.currentOf storageKey))).length := by
    unfold latestGeneration
    rw [db.history_retire]
    exact hdescends.latest
  refine ⟨.next hdescends ?_ ?_ fun p hp => ?_, fun r hr => ?_, fun r hr => ?_⟩
  · rw [hlatest]
    rfl
  · show (db.currentOf storageKey).map IdentityRow.id = _
    rw [db.currentOf_eq h, head?_map, Option.map_map]
    cases (db.history storageKey).head? with
    | none => rfl
    | some r => exact congrArg some (retired_cases _ r).1.symm
  · obtain ⟨q, hq, rfl⟩ := mem_map.mp hp
    rw [(retired_cases _ q).2.2.1]
    obtain ⟨hrow, hkey⟩ := db.mem_history.mp hq
    intro htoken
    have hseen : db.seenBefore storageKey o.token = true :=
      any_eq_true.mpr ⟨q, hrow, by simp [hkey, htoken, Observing.nextRow]⟩
    rw [hfr] at hseen
    cases hseen
  · cases hr
    rfl
  · rw [tail_cons] at hr
    obtain ⟨q, hq, rfl⟩ := mem_map.mp hr
    rw [db.currentOf_eq h]
    cases hhistory : db.history storageKey with
    | nil =>
      rw [hhistory] at hq
      cases hq
    | cons first rest =>
      rw [hhistory] at hq
      rcases mem_cons.mp hq with heq | hold
      · rw [heq]
        simp [retired]
      · have hold' := h.superseded q (by rw [hhistory]; exact hold)
        unfold retired
        split
        · rfl
        · exact hold'

theorem step (h : ∀ k, Lineage (db.history k)) (hsett : GenerationSettled o storageKey db db' id)
    (k : String) : Lineage (db'.history k) := by
  cases hsett with
  | again current hcur hid hrows =>
    have hsame : db'.history k = (db.touch current.id o.now).history k := by
      simp only [history, hrows]
    rw [hsame]
    exact touch h current.id o.now k
  | opened authorityId locator hid hfr hrows =>
    have hhistory : db'.history k = (o.nextRow authorityId storageKey locator
        (db.currentOf storageKey)
        ((db.retire (db.currentOf storageKey)).latestGeneration storageKey) ::
          (db.retire (db.currentOf storageKey)).identities.rows).filter
            fun r => r.storageKey = k := by
      simp only [history, hrows]
    by_cases hk : k = storageKey
    · subst hk
      rw [filter_cons_of_pos (by simp [Observing.nextRow])] at hhistory
      rw [hhistory]
      have hrest := db.history_retire (db.currentOf k) k
      unfold history at hrest
      rw [hrest]
      exact (h k).opened hfr
    · rw [filter_cons_of_neg (by simp [Observing.nextRow, Ne.symm hk])] at hhistory
      have hrest := db.history_retire (db.currentOf storageKey) k
      rw [retired_other hk] at hrest
      rw [hhistory]
      unfold history at hrest
      rw [hrest]
      exact h k

end Lineage

/-! ## Runs -/

/-- A generation that is there stays, under its key, with its token; one that is
superseded stays superseded. -/
theorem GenerationSettled.kept {o : Observing} {storageKey id : String} {db db' : StorageDb}
    (h : GenerationSettled o storageKey db db' id) {r : IdentityRow} (hr : r ∈ db.identities.rows) :
    ∃ r' ∈ db'.identities.rows, r'.storageKey = r.storageKey ∧
      r'.generationToken = r.generationToken ∧
      (r.state = .superseded → r'.state = .superseded) := by
  cases h with
  | again current hcur hid hrows =>
    refine ⟨if r.id = current.id then { r with lastSeenAt := o.now } else r, ?_, ?_, ?_, ?_⟩
    · rw [hrows]
      refine mem_map.mpr ⟨r, hr, ?_⟩
      simp only [decide_eq_true_eq]
    · split <;> rfl
    · split <;> rfl
    · intro hstate
      split
      · exact hstate
      · exact hstate
  | opened authorityId locator hid hfr hrows =>
    refine ⟨retired (db.currentOf storageKey) r, ?_, ?_, ?_, ?_⟩
    · rw [hrows]
      refine mem_cons_of_mem _ ?_
      cases db.currentOf storageKey with
      | none =>
        exact hr
      | some c =>
        refine mem_map.mpr ⟨r, hr, ?_⟩
        simp only [retired, Option.any_some]
    · unfold retired
      split <;> rfl
    · exact (retired_cases _ r).2.2.1
    · intro hstate
      unfold retired
      split
      · rfl
      · exact hstate

section Runs

variable (derive : String → String → StorageKind → String → String)

/-- The tables after one observation. -/
def StorageDb.after (db : StorageDb) (o : Observing) : StorageDb :=
  (o.observe derive ⟨db, []⟩).2.rows

/-- The tables after a run of observations from empty tables. -/
def observed (calls : List Observing) : StorageDb :=
  run (after derive) .empty calls

/-- Some observation of the run returned an identity of the key. -/
def ObservedKey (calls : List Observing) (storageKey : String) : Prop :=
  ∃ before o rest, calls = before ++ o :: rest ∧
    ∃ row, (o.observe derive ⟨observed derive before, []⟩).1 = .ok row ∧ row.storageKey = storageKey

theorem StorageDb.after_ok {db : StorageDb} {o : Observing} {row : IdentityRow}
    (hrun : (o.observe derive ⟨db, []⟩).1 = .ok row) : ∃ storageKey,
      GenerationSettled o storageKey db (db.after derive o) row.id ∧
        row ∈ (db.after derive o).identities.rows := by
  unfold after
  obtain ⟨storageKey, hsett, hfind⟩ := (o.observe_leads derive ⟨db, []⟩).2 row hrun
  generalize (o.observe derive ⟨db, []⟩).2 = c at hsett hfind
  exact ⟨storageKey, hsett, mem_of_find?_eq_some hfind⟩

theorem StorageDb.after_cases (db : StorageDb) (o : Observing) :
    db.after derive o = db ∨
      ∃ storageKey id, GenerationSettled o storageKey db (db.after derive o) id := by
  cases hrun : (o.observe derive ⟨db, []⟩).1 with
  | error e =>
    have hundone := o.observe_undone derive hrun
    refine .inl ?_
    unfold after
    rw [hundone]
  | ok row =>
    obtain ⟨storageKey, hsett, -⟩ := after_ok derive hrun
    exact .inr ⟨storageKey, row.id, hsett⟩

theorem lineage_observed (calls : List Observing) (k : String) :
    Lineage ((observed derive calls).history k) := by
  have hstep : ∀ (db : StorageDb) (o : Observing), (∀ k, Lineage (db.history k)) →
      ∀ k, Lineage ((db.after derive o).history k) := by
    intro db o h
    rcases db.after_cases derive o with hsame | ⟨storageKey, id, hsett⟩
    · rw [hsame]
      exact h
    · exact Lineage.step h hsett
  have hstart : ∀ k, Lineage (empty.history k) := by
    intro k
    exact ⟨.none, fun r hr => (nomatch hr), fun r hr => (nomatch hr)⟩
  exact run_invariant (P := fun db : StorageDb => ∀ k, Lineage (db.history k)) hstep hstart calls k

/-- What is there of a key stays there, in any later state. -/
theorem run_kept (calls : List Observing) {db : StorageDb} {r : IdentityRow}
    (hr : r ∈ db.identities.rows) :
    ∃ r' ∈ (run (after derive) db calls).identities.rows,
      r'.storageKey = r.storageKey ∧ r'.generationToken = r.generationToken ∧
      (r.state = .superseded → r'.state = .superseded) := by
  induction calls generalizing db r with
  | nil => exact ⟨r, hr, rfl, rfl, fun h => h⟩
  | cons o calls ih =>
    have hone : ∃ r' ∈ (db.after derive o).identities.rows,
        r'.storageKey = r.storageKey ∧ r'.generationToken = r.generationToken ∧
        (r.state = .superseded → r'.state = .superseded) := by
      rcases db.after_cases derive o with hsame | ⟨storageKey, id, hsett⟩
      · rw [hsame]
        exact ⟨r, hr, rfl, rfl, fun h => h⟩
      · exact hsett.kept hr
    obtain ⟨r₁, hr₁, hkey₁, htoken₁, hstate₁⟩ := hone
    obtain ⟨r₂, hr₂, hkey₂, htoken₂, hstate₂⟩ := ih hr₁
    exact ⟨r₂, hr₂, hkey₂.trans hkey₁, htoken₂.trans htoken₁, fun h => hstate₂ (hstate₁ h)⟩

theorem history_of_observedKey {calls : List Observing} {k : String}
    (h : ObservedKey derive calls k) : (observed derive calls).history k ≠ [] := by
  obtain ⟨before, o, rest, rfl, row, hrun, rfl⟩ := h
  obtain ⟨-, -, hmem⟩ := after_ok derive hrun
  obtain ⟨r, hr, hkey, -⟩ := run_kept derive rest hmem
  have hrun : observed derive (before ++ o :: rest) =
      run (after derive) ((observed derive before).after derive o) rest := by
    unfold observed
    rw [run_append, run_cons]
  rw [hrun]
  exact ne_nil_of_mem ((mem_history _).mpr ⟨hr, hkey⟩)

/-- After any run of observations: every key that was observed has exactly one
current identity, its newest generation; the generations of a key are numbered
from one and each names the one before it; a token belongs to one generation of
a key, and never becomes current again once that is superseded; and an
observation that throws leaves every row as it was. -/
theorem linear_history (calls : List Observing) : (∀ k, ObservedKey derive calls k →
      ∃ r ∈ (observed derive calls).history k, r.state = .current ∧
        ∀ r' ∈ (observed derive calls).history k,
          r'.generation ≤ r.generation ∧ (r'.state = .current → r' = r)) ∧
    (∀ k, ((observed derive calls).history k).map IdentityRow.generation =
      (range' 1 ((observed derive calls).history k).length).reverse) ∧
    (∀ k, ∀ r ∈ (observed derive calls).history k, (r.generation = 1 → r.lineageParentId = none) ∧
      ∀ r' ∈ (observed derive calls).history k, r'.generation = r.generation + 1 →
        r'.lineageParentId = some r.id) ∧
    (∀ k, ∀ r ∈ (observed derive calls).history k, ∀ r' ∈ (observed derive calls).history k,
        r.generationToken = r'.generationToken → r = r') ∧
    (∀ k, ∀ r ∈ (observed derive calls).history k, r.state = .superseded →
      ∀ later, ∀ r' ∈ (observed derive (calls ++ later)).history k,
        r'.generationToken = r.generationToken → r'.state = .superseded) ∧
    ∀ (o : Observing) (saved : List StorageDb) (e : StoreError),
      (o.observe derive ⟨observed derive calls, saved⟩).1 = .error e →
        (o.observe derive ⟨observed derive calls, saved⟩).2 = ⟨observed derive calls, saved⟩ := by
  have hlineage := lineage_observed derive calls
  refine ⟨fun k hk => ?_, fun k => (hlineage k).descends.generations, fun k r hr =>
    ⟨(hlineage k).descends.first_parent hr, fun r' hr' => (hlineage k).descends.parent hr hr'⟩,
    fun k r hr r' hr' => (hlineage k).descends.token_inj hr hr', ?_,
    fun o saved e hrun => o.observe_undone derive hrun⟩
  · have hne := history_of_observedKey derive hk
    have h := hlineage k
    generalize (observed derive calls).history k = history at hne h
    cases history with
    | nil => exact absurd rfl hne
    | cons r rest =>
      refine ⟨r, mem_cons_self, h.current r rfl, fun r' hr' => ?_⟩
      have hle := (h.descends.generation_le hr').2
      cases h.descends with
      | next hrest hgeneration hparent htoken =>
        refine ⟨by rw [hgeneration]; exact hle, fun hcur => ?_⟩
        rcases mem_cons.mp hr' with heq | hold
        · exact heq
        · have hgone := h.superseded r' hold
          rw [hcur] at hgone
          cases hgone
  · intro k r hr hstate later r' hr' htoken
    obtain ⟨hrow, hkey⟩ := (mem_history _).mp hr
    obtain ⟨r₁, hr₁, hkey₁, htoken₁, hstate₁⟩ := run_kept derive later hrow
    have hrun : run (after derive) (observed derive calls) later =
        observed derive (calls ++ later) := by
      unfold observed
      rw [run_append]
    rw [hrun] at hr₁
    have hmem : r₁ ∈ (observed derive (calls ++ later)).history k :=
      (mem_history _).mpr ⟨hr₁, hkey₁.trans hkey⟩
    have hsame := (lineage_observed derive (calls ++ later) k).descends.token_inj hr' hmem
      (htoken.trans htoken₁.symm)
    rw [hsame]
    exact hstate₁ hstate

end Runs

end Sencho.Recovery
