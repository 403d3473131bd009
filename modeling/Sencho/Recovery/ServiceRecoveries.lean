import Mathlib.Data.List.Sort
import Sencho.Verified.CodeUnits
import Sencho.Verified.Runs

/-!
# Service update recoveries

Before a service is updated its images are recorded, so that an operator can put the service back.
Rows move between five statuses, and the newest usable row of each service is offered.
-/

namespace Sencho.Recovery.ServiceUpdateRecovery

open Verified CodeUnits Runs List

inductive Status where
  | active
  | restoring
  | consumed
  | expired
  | invalidated
  deriving DecidableEq

def Status.terminal : Status → Bool
  | active => false
  | restoring => false
  | _ => true

structure ServiceReplicaSnapshot where
  imageId : Text
  repoDigest : Option Text
  deriving DecidableEq

structure CreateInput where
  nodeId : Int
  stackName : Text
  serviceName : Text
  replicas : List ServiceReplicaSnapshot
  declaredImageRef : Option Text
  createdBy : Option Text

inductive UnavailableReason where
  | noReplicas
  | majorityTie
  | buildOnly
  | digestPinnedDeclaredRef
  | missingLocalId

structure Row where
  rowid : Nat
  id : Text
  nodeId : Int
  stackName : Text
  serviceName : Text
  replicas : List ServiceReplicaSnapshot
  majorityImageId : Text
  declaredImageRef : Text
  weakFloatingTag : Bool
  healthGateId : Option Text
  status : Status
  expiresAt : Int
  claimExpiresAt : Option Int
  createdAt : Int
  createdBy : Option Text
  deriving DecidableEq

def Row.sameService (r r' : Row) : Bool :=
  r.nodeId = r'.nodeId && r.stackName = r'.stackName && r.serviceName = r'.serviceName

/-- The image most replicas ran, unless two lead. -/
def computeMajorityImage (replicas : List ServiceReplicaSnapshot) : Option (Text × Bool) :=
  let images := replicas.map (·.imageId)
  let ranked := images.eraseDups.insertionSort fun a b => images.count b ≤ images.count a
  let weakFloatingTag := fun winner => !replicas.any fun r =>
    r.imageId = winner && r.repoDigest.any (!·.isEmpty)
  match ranked with
  | [] => none
  | [winner] => some (winner, weakFloatingTag winner)
  | winner :: second :: _ =>
    if images.count winner = images.count second then none
    else some (winner, weakFloatingTag winner)

def isHex (c : UInt16) : Bool :=
  (unit '0' ≤ c && c ≤ unit '9') || (unit 'a' ≤ c && c ≤ unit 'f') ||
    (unit 'A' ≤ c && c ≤ unit 'F')

/-- The reference ends with a digest, in either letter case. -/
def digestPinned (ref : Text) : Bool :=
  let digits := ref.reverse.take 64
  let mark := ((ref.reverse.drop 64).take 8).reverse.map fun c =>
    if unit 'A' ≤ c && c ≤ unit 'Z' then c + 32 else c
  digits.length = 64 && digits.all isHex && mark = text "@sha256:"

def minClaimWindowMs : Int := 30 * 60000

def claimRenewalBufferMs : Int := 5 * 60000

def recoveryTtlBufferMs : Int := 30 * 60000

def minRecoveryWindowSeconds : Int := 90

/-- The window is the setting as it was read, if it was a number. -/
def readRecoveryWindowSeconds (setting : Option Int) : Int :=
  setting.elim minRecoveryWindowSeconds fun raw => max raw minRecoveryWindowSeconds

def activeRecoveryTtlMs (composeTimeoutMs : Int) (setting : Option Int) : Int :=
  max composeTimeoutMs (readRecoveryWindowSeconds setting * 1000)

def nextClaimExpiry (composeTimeoutMs now : Int) : Int :=
  now + max composeTimeoutMs minClaimWindowMs + claimRenewalBufferMs

def eligibleRow (rowid : Nat) (id : Text) (input : CreateInput) (composeTimeoutMs : Int)
    (setting : Option Int) (now : Int) : Except UnavailableReason Row :=
  let validReplicas := input.replicas.filter fun r => !(trim r.imageId).isEmpty
  if validReplicas = [] then
    .error (if input.replicas = [] then .noReplicas else .missingLocalId)
  else
    match computeMajorityImage validReplicas with
    | none => .error .majorityTie
    | some (imageId, weakFloatingTag) =>
      match input.declaredImageRef.filter (!·.isEmpty) with
      | none => .error .buildOnly
      | some declaredImageRef =>
        if digestPinned declaredImageRef then .error .digestPinnedDeclaredRef
        else .ok {
          rowid, id, declaredImageRef, weakFloatingTag
          nodeId := input.nodeId
          stackName := input.stackName
          serviceName := input.serviceName
          replicas := input.replicas
          majorityImageId := imageId
          healthGateId := none
          status := .active
          expiresAt := now + activeRecoveryTtlMs composeTimeoutMs setting + recoveryTtlBufferMs
          claimExpiresAt := none
          createdAt := now
          createdBy := input.createdBy }

/-- A second row with the same id is refused by the table. -/
def createIfEligible (rows : List Row) (id : Text) (input : CreateInput) (composeTimeoutMs : Int)
    (setting : Option Int) (now : Int) : List Row :=
  match eligibleRow (rows.length + 1) id input composeTimeoutMs setting now with
  | .error _ => rows
  | .ok row => if id ∈ rows.map Row.id then rows else rows ++ [row]

def update (rows : List Row) (p : Row → Bool) (f : Row → Row) : List Row :=
  rows.map fun r => if p r then f r else r

def claimable (id : Text) (now : Int) (r : Row) : Bool :=
  r.id = id && r.status = .active && r.expiresAt > now

def restoring (id : Text) (r : Row) : Bool := r.id = id && r.status = .restoring

def claim (rows : List Row) (id : Text) (composeTimeoutMs now : Int) : List Row :=
  update rows (claimable id now) fun r =>
    { r with status := .restoring, claimExpiresAt := some (nextClaimExpiry composeTimeoutMs now) }

def renewClaim (rows : List Row) (id : Text) (composeTimeoutMs now : Int) : List Row :=
  update rows (restoring id) fun r =>
    { r with claimExpiresAt := some (nextClaimExpiry composeTimeoutMs now) }

def markConsumed (rows : List Row) (id : Text) (healthGateId : Option Text) : List Row :=
  update rows (restoring id) fun r =>
    { r with
      status := .consumed
      claimExpiresAt := none
      healthGateId := healthGateId.or r.healthGateId }

def reactivate (rows : List Row) (id : Text) : List Row :=
  update rows (restoring id) fun r => { r with status := .active, claimExpiresAt := none }

def invalidate (rows : List Row) (id : Text) : List Row :=
  update rows (restoring id) fun r => { r with status := .invalidated, claimExpiresAt := none }

def invalidateActiveForStack (rows : List Row) (nodeId : Int) (stackName : Text) : List Row :=
  update rows (fun r => r.nodeId = nodeId && r.stackName = stackName && r.status = .active)
    fun r => { r with status := .invalidated }

/-- Active rows past their time, then claims that nobody renewed. -/
def sweep (rows : List Row) (now : Int) : List Row :=
  update
    (update rows (fun r => r.status = .active && r.expiresAt ≤ now)
      fun r => { r with status := .expired })
    (fun r => r.status = .restoring && r.claimExpiresAt.any (· ≤ now))
    fun r => { r with status := .expired }

def Row.usable (r : Row) (now : Int) : Bool :=
  (r.status = .active && r.expiresAt > now) ||
    (r.status = .restoring && r.claimExpiresAt.any (· > now))

def Row.newer (n r : Row) : Bool :=
  n.createdAt > r.createdAt || (n.createdAt = r.createdAt && n.rowid > r.rowid)

def listAllActiveForStack (rows : List Row) (nodeId : Int) (stackName : Text) (now : Int) :
    List Row :=
  (rows.filter fun r => r.nodeId = nodeId && r.stackName = stackName && r.status = .active &&
    r.expiresAt > now && !rows.any fun n => n.sameService r && n.usable now && n.newer r)
  |>.insertionSort fun a b => b.createdAt ≤ a.createdAt

inductive Call where
  | createIfEligible (id : Text) (input : CreateInput) (composeTimeoutMs : Int)
      (setting : Option Int)
  | claim (caller : Nat) (id : Text) (composeTimeoutMs : Int)
  | renewClaim (id : Text) (composeTimeoutMs : Int)
  | markConsumed (id : Text) (healthGateId : Option Text)
  | reactivate (id : Text)
  | invalidate (id : Text)
  | invalidateActiveForStack (nodeId : Int) (stackName : Text)
  | sweep

def apply (rows : List Row) (now : Int) : Call → List Row
  | .createIfEligible id input timeout setting =>
    createIfEligible rows id input timeout setting now
  | .claim _ id timeout => claim rows id timeout now
  | .renewClaim id timeout => renewClaim rows id timeout now
  | .markConsumed id healthGateId => markConsumed rows id healthGateId
  | .reactivate id => reactivate rows id
  | .invalidate id => invalidate rows id
  | .invalidateActiveForStack nodeId stackName => invalidateActiveForStack rows nodeId stackName
  | .sweep => sweep rows now

/-- The table, the callers whose claim of a row still stands, and the clock. -/
structure World where
  rows : List Row
  held : List (Nat × Text)
  clock : Int

/-- The claim a call wins. -/
def won (rows : List Row) (now : Int) : Call → List (Nat × Text)
  | .claim caller id _ => if rows.any (claimable id now) then [(caller, id)] else []
  | _ => []

/-- A claim stands as long as its row is being restored. -/
def step (w : World) (e : Nat × Call) : World :=
  let now := w.clock + e.1
  let rows := apply w.rows now e.2
  { rows
    held := (w.held ++ won w.rows now e.2).filter fun h => rows.any (restoring h.2)
    clock := now }

def start (clock : Int) : World := ⟨[], [], clock⟩

/-- A row keeps what it is of, and a status that is final. -/
structure Evolved (r r' : Row) : Prop where
  rowid : r'.rowid = r.rowid
  id : r'.id = r.id
  createdAt : r'.createdAt = r.createdAt
  status : r.status.terminal = true → r'.status = r.status

theorem Evolved.refl (r : Row) : Evolved r r := ⟨rfl, rfl, rfl, fun _ => rfl⟩

variable {rows : List Row} {r : Row} {w : World}

theorem Evolved.trans {r' r'' : Row} (h : Evolved r r') (h' : Evolved r' r'') : Evolved r r'' where
  rowid := h'.rowid.trans h.rowid
  id := h'.id.trans h.id
  createdAt := h'.createdAt.trans h.createdAt
  status ht := (h'.status (by rw [h.status ht]; exact ht)).trans (h.status ht)

def Moved (rows rows' : List Row) : Prop := ∃ f, rows' = rows.map f ∧ ∀ r, Evolved r (f r)

/-- The next row of the table. -/
structure Next (rows : List Row) (now : Int) (r : Row) : Prop where
  rowid : r.rowid = rows.length + 1
  createdAt : r.createdAt = now
  id : r.id ∉ rows.map Row.id

theorem moved_update {p : Row → Bool} {f : Row → Row}
    (hkeys : ∀ r, (f r).rowid = r.rowid ∧ (f r).id = r.id ∧ (f r).createdAt = r.createdAt)
    (hlive : ∀ r, p r = true → r.status.terminal = false) : Moved rows (update rows p f) := by
  refine ⟨_, rfl, fun r => ?_⟩
  split
  · rename_i hp
    obtain ⟨hrowid, hid, hcreated⟩ := hkeys r
    exact ⟨hrowid, hid, hcreated, fun ht => absurd ((hlive r hp).symm.trans ht) (by decide)⟩
  · exact Evolved.refl r

theorem Moved.trans {rows' rows'' : List Row} (h : Moved rows rows') (h' : Moved rows' rows'') :
    Moved rows rows'' := by
  obtain ⟨f, rfl, hf⟩ := h
  obtain ⟨g, rfl, hg⟩ := h'
  exact ⟨g ∘ f, map_map, fun r => (hf r).trans (hg (f r))⟩

theorem live_of_restoring {id : Text} (h : restoring id r = true) : r.status.terminal = false := by
  rw [of_decide_eq_true (Bool.and_eq_true_iff.mp h).2]
  rfl

theorem live_of_status {b : Bool} {status : Status} (hlive : status.terminal = false)
    (h : (decide (r.status = status) && b) = true) : r.status.terminal = false := by
  rw [of_decide_eq_true (Bool.and_eq_true_iff.mp h).1]
  exact hlive

theorem next_of_eligible {id : Text} {input : CreateInput} {timeout now : Int}
    {setting : Option Int} {row : Row}
    (h : eligibleRow (rows.length + 1) id input timeout setting now = .ok row)
    (hfr : id ∉ rows.map Row.id) : Next rows now row := by
  unfold eligibleRow at h
  dsimp only at h
  split at h
  · cases h
  · split at h
    · cases h
    · split at h
      · cases h
      · split at h
        · cases h
        · cases h
          exact ⟨rfl, rfl, hfr⟩

/-- A call moves rows, or adds the next one. -/
theorem apply_evolves (rows : List Row) (now : Int) (c : Call) :
    Moved rows (apply rows now c) ∨
      ∃ row, apply rows now c = rows ++ [row] ∧ Next rows now row := by
  cases c with
  | createIfEligible id input timeout setting =>
    have hsame : Moved rows rows := ⟨fun r => r, (map_id' _).symm, Evolved.refl⟩
    simp only [apply, createIfEligible]
    cases hrow : eligibleRow (rows.length + 1) id input timeout setting now with
    | error reason => exact .inl hsame
    | ok row =>
      dsimp only
      split
      · exact .inl hsame
      · rename_i hfr
        exact .inr ⟨row, rfl, next_of_eligible hrow hfr⟩
  | claim caller id timeout =>
    refine .inl (moved_update (fun _ => ⟨rfl, rfl, rfl⟩) fun r hr => ?_)
    simp only [claimable, Bool.and_eq_true, decide_eq_true_eq] at hr
    rw [hr.1.2]
    rfl
  | renewClaim id timeout | markConsumed id gate | reactivate id | invalidate id =>
    exact .inl (moved_update (fun _ => ⟨rfl, rfl, rfl⟩) fun _ => live_of_restoring)
  | invalidateActiveForStack nodeId stackName =>
    refine .inl (moved_update (fun _ => ⟨rfl, rfl, rfl⟩) fun r hr => ?_)
    rw [of_decide_eq_true (Bool.and_eq_true_iff.mp hr).2]
    rfl
  | sweep =>
    refine .inl (Moved.trans (moved_update ?_ ?_) (moved_update ?_ ?_))
    · exact fun _ => ⟨rfl, rfl, rfl⟩
    · exact fun _ => live_of_status rfl
    · exact fun _ => ⟨rfl, rfl, rfl⟩
    · exact fun _ => live_of_status rfl

/-- Rows stand in the order of their creation, and each claim has one holder. -/
structure Ordered (w : World) : Prop where
  rows : w.rows.Pairwise fun r r' => r.rowid < r'.rowid ∧ r.createdAt ≤ r'.createdAt
  ids : (w.rows.map Row.id).Nodup
  bound : ∀ r ∈ w.rows, r.rowid ≤ w.rows.length ∧ r.createdAt ≤ w.clock
  held : (w.held.map Prod.snd).Nodup
  restoring : ∀ h ∈ w.held, w.rows.any (restoring h.2) = true

theorem ordered_rows (h : Ordered w) (elapsed : Nat) (c : Call)
    (hrows : rows = apply w.rows (w.clock + elapsed) c) :
    rows.Pairwise (fun r r' => r.rowid < r'.rowid ∧ r.createdAt ≤ r'.createdAt) ∧
      (rows.map Row.id).Nodup ∧
      ∀ r ∈ rows, r.rowid ≤ rows.length ∧ r.createdAt ≤ w.clock + elapsed := by
  rcases apply_evolves w.rows (w.clock + elapsed) c with ⟨f, hf, hmoved⟩ | ⟨row, happ, hnext⟩
  · rw [hf] at hrows
    subst hrows
    refine ⟨pairwise_map.mpr (h.rows.imp fun {a b} hab => ?_), ?_, fun r hr => ?_⟩
    · rw [(hmoved a).rowid, (hmoved b).rowid, (hmoved a).createdAt, (hmoved b).createdAt]
      exact hab
    · rw [map_map, show Row.id ∘ f = Row.id from funext fun r => (hmoved r).id]
      exact h.ids
    · obtain ⟨a, ha, rfl⟩ := mem_map.mp hr
      have hbound := h.bound a ha
      rw [(hmoved a).rowid, (hmoved a).createdAt, length_map]
      omega
  · rw [happ] at hrows
    subst hrows
    refine ⟨pairwise_append.mpr ⟨h.rows, pairwise_singleton _ _, fun r hr r' hr' => ?_⟩, ?_,
      fun r hr => ?_⟩
    · have hbound := h.bound r hr
      have hrowid := hnext.rowid
      have hcreated := hnext.createdAt
      rw [mem_singleton.mp hr']
      omega
    · rw [map_append, nodup_append]
      refine ⟨h.ids, nodup_singleton _, fun a ha b hb hab => hnext.id ?_⟩
      rw [← mem_singleton.mp hb, ← hab]
      exact ha
    · rw [length_append, length_singleton]
      rcases mem_append.mp hr with hold | hnew
      · have hbound := h.bound r hold
        omega
      · have hrowid := hnext.rowid
        have hcreated := hnext.createdAt
        rw [mem_singleton.mp hnew]
        omega

theorem row_unique (h : Ordered w) {r' : Row} (hr : r ∈ w.rows) (hr' : r' ∈ w.rows)
    (hid : r.id = r'.id) : r = r' := inj_on_of_nodup_map h.ids hr hr' hid

/-- A call wins the claim of a row that nobody holds. -/
theorem held_won (h : Ordered w) (now : Int) (c : Call) :
    ((w.held ++ won w.rows now c).map Prod.snd).Nodup := by
  cases c with
  | claim caller id timeout =>
    simp only [won]
    split
    · rename_i hany
      rw [map_append, nodup_append]
      refine ⟨h.held, nodup_singleton _, fun a ha b hb hab => ?_⟩
      obtain ⟨held, hheld, rfl⟩ := mem_map.mp ha
      have hid : held.2 = id := hab.trans (mem_singleton.mp hb)
      obtain ⟨r, hr, hrow⟩ := any_eq_true.mp (h.restoring held hheld)
      obtain ⟨r', hr', hrow'⟩ := any_eq_true.mp hany
      simp only [ServiceUpdateRecovery.restoring, claimable, Bool.and_eq_true,
        decide_eq_true_eq] at hrow hrow'
      have hsame := row_unique h hr hr' (hrow.1.trans (hid.trans hrow'.1.1.symm))
      rw [hsame, hrow'.1.2] at hrow
      exact absurd hrow.2 (by decide)
    · rw [append_nil]
      exact h.held
  | _ =>
    rw [show won w.rows now _ = [] from rfl, append_nil]
    exact h.held

theorem Ordered.step (h : Ordered w) (e : Nat × Call) : Ordered (step w e) := by
  obtain ⟨hrows, hids, hbound⟩ := ordered_rows h e.1 e.2 rfl
  exact {
    rows := hrows
    ids := hids
    bound := hbound
    held := (held_won h _ e.2).sublist (filter_sublist.map _)
    restoring := fun _ hh => (mem_filter.mp hh).2 }

/-- Each claim has one holder, each service one offer, and a newer usable row hides the older. -/
structure Lawful (w : World) : Prop where
  claims : (w.held.map Prod.snd).Nodup
  single : ∀ nodeId stackName now, ∀ r ∈ listAllActiveForStack w.rows nodeId stackName now,
    ∀ r' ∈ listAllActiveForStack w.rows nodeId stackName now, r.sameService r' = true → r = r'
  latest : ∀ older newer, [older, newer] <+ w.rows → newer.sameService older = true →
    ∀ nodeId stackName now, newer.usable now = true →
      older ∉ listAllActiveForStack w.rows nodeId stackName now

theorem mem_listAllActiveForStack_iff {nodeId : Int} {stackName : Text} {now : Int} (r : Row) :
    r ∈ listAllActiveForStack rows nodeId stackName now ↔
      r ∈ rows ∧ (((r.nodeId = nodeId ∧ r.stackName = stackName) ∧ r.status = .active) ∧
        r.expiresAt > now) ∧
        ∀ n ∈ rows, n.sameService r = true → n.usable now = true → n.newer r ≠ true := by
  unfold listAllActiveForStack
  simp [and_imp]

theorem Ordered.lawful (h : Ordered w) : Lawful w where
  claims := h.held
  single := by
    intro nodeId stackName now r hr r' hr' hsame
    rw [mem_listAllActiveForStack_iff] at hr hr'
    obtain ⟨hmem, ⟨⟨_, hactive⟩, hlive⟩, hlast⟩ := hr
    obtain ⟨hmem', ⟨⟨_, hactive'⟩, hlive'⟩, hlast'⟩ := hr'
    have hrowids : (w.rows.map Row.rowid).Nodup :=
      pairwise_map.mpr (h.rows.imp fun hab => Nat.ne_of_lt hab.1)
    by_contra hne
    have hrowid : r.rowid ≠ r'.rowid := fun heq =>
      hne (inj_on_of_nodup_map hrowids hmem hmem' heq)
    have hback : r'.sameService r = true := by
      simp only [Row.sameService, Bool.and_eq_true, decide_eq_true_eq] at hsame ⊢
      exact ⟨⟨hsame.1.1.symm, hsame.1.2.symm⟩, hsame.2.symm⟩
    have hfirst := hlast r' hmem' hback (by simp [Row.usable, hactive', hlive'])
    have hsecond := hlast' r hmem hsame (by simp [Row.usable, hactive, hlive])
    simp [Row.newer] at hfirst hsecond
    omega
  latest := by
    intro older newer horder hsame nodeId stackName now husable hoffer
    obtain ⟨_, _, hlast⟩ := (mem_listAllActiveForStack_iff older).mp hoffer
    have hpair := (pairwise_pair.mp (h.rows.sublist horder))
    refine hlast newer (horder.subset (by simp)) hsame husable ?_
    simp only [Row.newer, Bool.or_eq_true, Bool.and_eq_true, decide_eq_true_eq]
    omega

/-- A final status stays over a whole run. -/
theorem terminal_run (hr : r ∈ w.rows) (ht : r.status.terminal = true) (calls : List (Nat × Call)) :
    ∃ r' ∈ (run step w calls).rows, r'.id = r.id ∧ r'.status = r.status := by
  induction calls generalizing w r with
  | nil => exact ⟨r, hr, rfl, rfl⟩
  | cons e calls ih =>
    rcases apply_evolves w.rows (w.clock + e.1) e.2 with ⟨f, hf, hmoved⟩ | ⟨row, happ, _⟩
    · have hmem : f r ∈ (step w e).rows := (congrArg (f r ∈ ·) hf).mpr (mem_map_of_mem hr)
      have hstat := (hmoved r).status ht
      obtain ⟨r', hr', hid, hsame⟩ := ih hmem (by rw [hstat]; exact ht)
      exact ⟨r', hr', hid.trans (hmoved r).id, hsame.trans hstat⟩
    · have hmem : r ∈ (step w e).rows :=
        (congrArg (r ∈ ·) happ).mpr (mem_append_left [row] hr)
      exact ih hmem ht

/-- The laws hold in every state, and a final status of a row stays. -/
theorem recoveries_lawful (clock : Int) (calls : List (Nat × Call)) :
    Lawful (run step (start clock) calls) ∧
      ∀ more, ∀ r ∈ (run step (start clock) calls).rows, r.status.terminal = true →
        ∃ r' ∈ (run step (start clock) (calls ++ more)).rows,
          r'.id = r.id ∧ r'.status = r.status := by
  have hstart : Ordered (start clock) :=
    ⟨Pairwise.nil, nodup_nil, fun _ hr => absurd hr not_mem_nil, nodup_nil,
      fun _ hh => absurd hh not_mem_nil⟩
  have hordered := run_invariant (fun _ e h => h.step e) hstart calls
  refine ⟨hordered.lawful, fun more r hr ht => ?_⟩
  rw [run_append]
  exact terminal_run hr ht more

/-- The snapshot before the last one is offered once the last one was restored. -/
theorem superseded_offered :
    let input : CreateInput := ⟨1, text "web", text "api", [⟨text "sha256:1", none⟩],
      some (text "nginx:latest"), none⟩
    let rows := (run step (start 0) [(0, .createIfEligible (text "a") input 0 none),
      (1000, .createIfEligible (text "b") input 0 none), (1000, .claim 1 (text "b") 0),
      (1000, .markConsumed (text "b") none)]).rows
    ∃ older ∈ listAllActiveForStack rows 1 (text "web") 3000, ∃ newer ∈ rows,
      newer.sameService older = true ∧ newer.newer older = true := by
  decide +kernel

end Sencho.Recovery.ServiceUpdateRecovery
