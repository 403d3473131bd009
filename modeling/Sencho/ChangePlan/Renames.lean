import Mathlib.Data.List.Perm.Basic
import Sencho.ChangePlan.Service

/-!
# Renames of a plan

The deletes and adds of one content are paired in the order of their paths, as many as the
shorter side has.  A rename says what the two rows said, so that a plan tells the same after
pairing as before.
-/

namespace Sencho.ChangePlan

open Verified CodeUnits List Option

variable {h : Host} {ops : List GitChangePlanOperation}
  {pairs : List (GitChangePlanOperation × GitChangePlanOperation)}

/-- A row as it is shown.  A path may be there and redacted. -/
structure PublicGitChangePlanOperation where
  path : Option Text
  op : GitChangePlanOp
  role : PlanRole
  fromPath : Option (Option Text)

def toPublicOp (op : GitChangePlanOperation) : PublicGitChangePlanOperation where
  path := if op.sensitivity = .high ∨ op.op = .invocation then none else some op.pathKey
  op := op.op
  role := op.role
  fromPath := op.fromPath.map fun path => if op.sensitivity = .high then none else some path

/-- The operations of `toPublic`. -/
def publicOperations (operations : List GitChangePlanOperation) :
    List PublicGitChangePlanOperation :=
  (operations.filter fun op => op.op ≠ .unchanged).map toPublicOp

/-- What a row says of a path: the operation, and the content before and after. -/
def told (o : GitChangePlanOperation) : GitChangePlanOp × Text × Option Text × Option Text :=
  (o.op, o.pathKey, o.priorHash, o.candidateHash)

/-- A rename as a delete of the path it leaves and an add of the path it takes. -/
def expand (o : GitChangePlanOperation) :
    List (GitChangePlanOp × Text × Option Text × Option Text) :=
  if o.op = .rename then
    [(.delete, o.fromPath.getD [], o.priorHash, none), (.add, o.pathKey, none, o.candidateHash)]
  else [told o]

/-- What pairing keeps: the meaning of the rows; a rename joins a delete and an add of one
content, and shows neither path where one of them is sensitive; and no two rows of one content
that counts are left to pair. -/
structure Preserved (h : Host) (counts : Text → Prop) (ops : List GitChangePlanOperation) :
    Prop where
  meaning : ((pairRenames h ops).flatMap expand).Perm (ops.map told)
  joins : ∀ r ∈ pairRenames h ops, r.op = .rename → ∃ d ∈ ops, ∃ a ∈ ops, d.op = .delete ∧
    a.op = .add ∧ (∃ k, d.priorHash = some k ∧ a.candidateHash = some k) ∧
      r.fromPath = some d.pathKey ∧ r.pathKey = a.pathKey ∧
      (d.sensitivity = .high ∨ a.sensitivity = .high →
        r.sensitivity = .high ∧ toPublicOp r ∈ publicOperations (pairRenames h ops) ∧
          (toPublicOp r).path = none ∧ (toPublicOp r).fromPath = some none)
  settled : ∀ d ∈ pairRenames h ops, ∀ a ∈ pairRenames h ops, d.op = .delete → a.op = .add →
    ∀ k, counts k → d.priorHash = some k → a.candidateHash ≠ some k

/-- A delete and an add of one content. -/
def Joined (ops : List GitChangePlanOperation)
    (pair : GitChangePlanOperation × GitChangePlanOperation) : Prop :=
  (pair.1 ∈ ops ∧ pair.1.op = .delete) ∧ (pair.2 ∈ ops ∧ pair.2.op = .add) ∧
    ∃ k, pair.1.priorHash = some k ∧ pair.2.candidateHash = some k

/-- The rows of a content that could be paired. -/
def sharing (ops : List GitChangePlanOperation) (op : GitChangePlanOp)
    (hash : GitChangePlanOperation → Option Text) (k : Text) : List GitChangePlanOperation :=
  (ops.filter fun o => o.op = op && truthy (hash o)).filter fun o => (hash o).getD [] = k

variable {o : GitChangePlanOperation}

theorem mem_sharing {op : GitChangePlanOp} {hash : GitChangePlanOperation → Option Text} {k : Text}
    :
    o ∈ sharing ops op hash k ↔ o ∈ ops ∧ o.op = op ∧ hash o = some k ∧ k ≠ [] := by
  simp only [sharing, mem_filter, Bool.and_eq_true, decide_eq_true_eq, truthy]
  constructor
  · rintro ⟨⟨ho, hop, hhash⟩, rfl⟩
    obtain ⟨k, hk, hne⟩ := (Option.any_eq_true ..).mp hhash
    rw [hk]
    exact ⟨ho, hop, rfl, of_decide_eq_true hne⟩
  · rintro ⟨ho, hop, hk, hne⟩
    rw [hk]
    exact ⟨⟨ho, hop, decide_eq_true hne⟩, rfl⟩

/-- The pairs of a walk: each row in one of them, as the used paths say. -/
structure Paired (ops : List GitChangePlanOperation) (st : Pairing)
    (pairs : List (GitChangePlanOperation × GitChangePlanOperation)) : Prop where
  usedDeletes : st.usedDeletes = pairs.map (·.1.pathKey)
  usedAdds : st.usedAdds = pairs.map (·.2.pathKey)
  renames : st.renames = pairs.map fun pair => renameRow pair.1 pair.2
  joined : ∀ pair ∈ pairs, Joined ops pair
  once : (ops.map (·.pathKey)).Nodup →
    (pairs.map (·.1.pathKey)).Nodup ∧ (pairs.map (·.2.pathKey)).Nodup

/-- Nothing of a content is left on one of the two sides. -/
def Settled (ops : List GitChangePlanOperation) (st : Pairing) (k : Text) : Prop :=
  (∀ d ∈ sharing ops .delete (·.priorHash) k, d.pathKey ∈ st.usedDeletes) ∨
    ∀ a ∈ sharing ops .add (·.candidateHash) k, a.pathKey ∈ st.usedAdds

/-- A pairing takes a row of each side until one side has none left. -/
theorem zip_covers {α β : Type} (xs : List α) (ys : List β) :
    ∃ xs' ys', xs = (xs.zip ys).map Prod.fst ++ xs' ∧ ys = (xs.zip ys).map Prod.snd ++ ys' ∧
      (xs' = [] ∨ ys' = []) := by
  induction xs generalizing ys with
  | nil => exact ⟨[], ys, rfl, rfl, .inl rfl⟩
  | cons x xs ih =>
    cases ys with
    | nil => exact ⟨x :: xs, [], rfl, rfl, .inr rfl⟩
    | cons y ys =>
      obtain ⟨xs', ys', hxs, hys, hend⟩ := ih ys
      exact ⟨xs', ys', congrArg (x :: ·) hxs, congrArg (y :: ·) hys, hend⟩

theorem mem_sortRows {rows : List GitChangePlanOperation} :
    o ∈ h.sortRows rows ↔ o ∈ rows := mem_insertionSort _

/-- The paths of one side after a group: no path twice, and those that were left come first. -/
theorem nodup_used {used : List Text} {rows taken rest : List GitChangePlanOperation}
    (hused : used.Nodup) (hrows : (rows.map (·.pathKey)).Nodup)
    (hleft : h.sortRows (rows.filter fun o => o.pathKey ∉ used) = taken ++ rest) :
    (used ++ taken.map (·.pathKey)).Nodup := by
  have hperm : (taken ++ rest).Perm (rows.filter fun o => o.pathKey ∉ used) :=
    hleft ▸ perm_insertionSort ..
  have hnodup : ((taken ++ rest).map (·.pathKey)).Nodup :=
    (hperm.map _).nodup_iff.mpr ((filter_sublist.map _).nodup hrows)
  rw [map_append] at hnodup
  refine nodup_append.mpr ⟨hused, hnodup.of_append_left, ?_⟩
  rintro path hpath _ htaken rfl
  obtain ⟨o, ho, rfl⟩ := mem_map.mp htaken
  have hfree := (mem_filter.mp (hperm.subset (mem_append_left _ ho))).2
  exact of_decide_eq_true hfree hpath

/-- One group of the walk. -/
theorem Paired.pairGroup {st : Pairing} {addsByHash : OrderedMap Text (List GitChangePlanOperation)}
    (hst : Paired ops st pairs) {k : Text}
    (hadds : addsByHash.get? k = if sharing ops .add (·.candidateHash) k = [] then none
      else some (sharing ops .add (·.candidateHash) k)) :
    (∃ more, Paired ops (pairGroup h addsByHash st (k, sharing ops .delete (·.priorHash) k))
      (pairs ++ more)) ∧
    Settled ops (pairGroup h addsByHash st (k, sharing ops .delete (·.priorHash) k)) k := by
  unfold ChangePlan.pairGroup
  dsimp only
  rw [hadds]
  by_cases hnone : sharing ops .add (·.candidateHash) k = []
  · rw [if_pos hnone]
    refine ⟨⟨[], by rwa [append_nil]⟩, .inr fun a ha => ?_⟩
    rw [hnone] at ha
    exact absurd ha not_mem_nil
  · rw [if_neg hnone]
    dsimp only
    generalize hdels : h.sortRows ((sharing ops .delete (·.priorHash) k).filter
      fun d => d.pathKey ∉ st.usedDeletes) = dels
    generalize hfree : h.sortRows ((sharing ops .add (·.candidateHash) k).filter
      fun a => a.pathKey ∉ st.usedAdds) = adds
    obtain ⟨dels', adds', hcoverD, hcoverA, hend⟩ := zip_covers dels adds
    have hmemD : ∀ d, d ∈ dels ↔ d ∈ sharing ops .delete (·.priorHash) k ∧
        d.pathKey ∉ st.usedDeletes := by
      intro d
      rw [← hdels, mem_sortRows, mem_filter, decide_eq_true_eq]
    have hmemA : ∀ a, a ∈ adds ↔ a ∈ sharing ops .add (·.candidateHash) k ∧
        a.pathKey ∉ st.usedAdds := by
      intro a
      rw [← hfree, mem_sortRows, mem_filter, decide_eq_true_eq]
    refine ⟨⟨dels.zip adds, ?_⟩, ?_⟩
    · refine ⟨?_, ?_, ?_, ?_, ?_⟩
      · rw [map_append, ← hst.usedDeletes]
      · rw [map_append, ← hst.usedAdds]
      · rw [map_append, ← hst.renames]
      · intro pair hpair
        rcases mem_append.mp hpair with hold | hnew
        · exact hst.joined pair hold
        · obtain ⟨hd, ha⟩ := of_mem_zip hnew
          obtain ⟨hd, hdelete, hprior, _⟩ := mem_sharing.mp ((hmemD _).mp hd).1
          obtain ⟨ha, hadd, hcand, _⟩ := mem_sharing.mp ((hmemA _).mp ha).1
          exact ⟨⟨hd, hdelete⟩, ⟨ha, hadd⟩, k, hprior, hcand⟩
      · intro hkeys
        have hside : ∀ op hash, ((sharing ops op hash k).map (·.pathKey)).Nodup := fun op hash =>
          ((filter_sublist.trans filter_sublist).map _).nodup hkeys
        obtain ⟨honceD, honceA⟩ := hst.once hkeys
        have hnodupD := nodup_used (hst.usedDeletes ▸ honceD) (hside .delete _)
          (hdels.trans hcoverD)
        have hnodupA := nodup_used (hst.usedAdds ▸ honceA) (hside .add _) (hfree.trans hcoverA)
        rw [hst.usedDeletes, List.map_map] at hnodupD
        rw [hst.usedAdds, List.map_map] at hnodupA
        rw [map_append, map_append]
        exact ⟨hnodupD, hnodupA⟩
    · rcases hend with hend | hend
      · refine .inl fun d hd => ?_
        by_cases hold : d.pathKey ∈ st.usedDeletes
        · exact mem_append_left _ hold
        · have htaken := (hmemD d).mpr ⟨hd, hold⟩
          rw [hcoverD, hend, append_nil] at htaken
          obtain ⟨pair, hpair, rfl⟩ := mem_map.mp htaken
          exact mem_append_right _ (mem_map_of_mem hpair)
      · refine .inr fun a ha => ?_
        by_cases hold : a.pathKey ∈ st.usedAdds
        · exact mem_append_left _ hold
        · have htaken := (hmemA a).mpr ⟨ha, hold⟩
          rw [hcoverA, hend, append_nil] at htaken
          obtain ⟨pair, hpair, rfl⟩ := mem_map.mp htaken
          exact mem_append_right _ (mem_map_of_mem hpair)

theorem Settled.mono {st st' : Pairing} {k : Text} (hst : Settled ops st k)
    (hdeletes : st.usedDeletes ⊆ st'.usedDeletes) (hadds : st.usedAdds ⊆ st'.usedAdds) :
    Settled ops st' k :=
  hst.imp (fun h d hd => hdeletes (h d hd)) fun h a ha => hadds (h a ha)

/-- The whole walk. -/
theorem paired_pairAll (h : Host) (ops : List GitChangePlanOperation) :
    ∃ pairs, Paired ops (pairAll h ops) pairs ∧ ∀ k, Settled ops (pairAll h ops) k := by
  have hgroup : ∀ op (hash : GitChangePlanOperation → Option Text) k,
      (groupByHash hash (ops.filter fun o => o.op = op && truthy (hash o))).get? k =
        if sharing ops op hash k = [] then none else some (sharing ops op hash k) :=
    fun op hash k => OrderedMap.get?_group (fun o => (hash o).getD []) _ k
  have hdeletes := hgroup .delete (·.priorHash)
  have hadds := hgroup .add (·.candidateHash)
  unfold pairAll
  dsimp only
  generalize groupByHash (·.candidateHash)
    (ops.filter fun o => o.op = .add && truthy o.candidateHash) = addsByHash at hadds
  generalize groupByHash (·.priorHash) (ops.filter fun o => o.op = .delete && truthy o.priorHash) =
    deletesByHash at hdeletes
  have hrun : ∀ (groups : List (Text × List GitChangePlanOperation)) (st : Pairing) pairs,
      (∀ g ∈ groups, g.2 = sharing ops .delete (·.priorHash) g.1) → Paired ops st pairs →
      ∃ more, Paired ops (groups.foldl (pairGroup h addsByHash) st) (pairs ++ more) ∧
        ∀ k, Settled ops st k ∨ k ∈ groups.map Prod.fst →
          Settled ops (groups.foldl (pairGroup h addsByHash) st) k := by
    intro groups
    induction groups with
    | nil =>
      intro st pairs _ hst
      exact ⟨[], by rwa [append_nil], fun k hk => hk.resolve_right not_mem_nil⟩
    | cons g groups ih =>
      intro st pairs hgroups hst
      obtain ⟨k, dels⟩ := g
      obtain rfl : dels = sharing ops .delete (·.priorHash) k := hgroups _ mem_cons_self
      obtain ⟨⟨more, hstep⟩, hsett⟩ := hst.pairGroup (h := h) (hadds k)
      obtain ⟨more', hend, hall⟩ := ih _ _ (fun g hg => hgroups g (mem_cons_of_mem _ hg)) hstep
      refine ⟨more ++ more', by rwa [← append_assoc], fun k' hk' => hall k' ?_⟩
      rcases hk' with hold | hk'
      · refine .inl (hold.mono ?_ ?_)
        · rw [hst.usedDeletes, hstep.usedDeletes, map_append]
          exact subset_append_left ..
        · rw [hst.usedAdds, hstep.usedAdds, map_append]
          exact subset_append_left ..
      · rcases mem_cons.mp hk' with rfl | hk'
        · exact .inl hsett
        · exact .inr hk'
  have hgroups : ∀ g ∈ deletesByHash.entries, g.2 = sharing ops .delete (·.priorHash) g.1 := by
    intro g hg
    have hget := (OrderedMap.get?_eq_some_iff _ g.1 g.2).mpr hg
    rw [hdeletes] at hget
    split at hget
    · cases hget
    · exact (some.inj hget).symm
  obtain ⟨more, hpaired, hsett⟩ := hrun deletesByHash.entries ⟨[], [], []⟩ [] hgroups
    ⟨rfl, rfl, rfl, fun _ hpair => absurd hpair not_mem_nil, fun _ => ⟨nodup_nil, nodup_nil⟩⟩
  refine ⟨more, hpaired, fun k => ?_⟩
  by_cases hnone : sharing ops .delete (·.priorHash) k = []
  · refine .inl fun d hd => ?_
    rw [hnone] at hd
    exact absurd hd not_mem_nil
  · have hent := (OrderedMap.get?_eq_some_iff deletesByHash k _).mp ((hdeletes k).trans (if_neg hnone))
    exact hsett k (.inr (mem_map.mpr ⟨_, hent, rfl⟩))

/-- Rows as a path is classified: none is a rename, a delete has no content after it and an add
none before. -/
structure Classified (ops : List GitChangePlanOperation) : Prop where
  keys : (ops.map (·.pathKey)).Nodup
  plain : ∀ o ∈ ops, o.op ≠ .rename
  deletes : ∀ o ∈ ops, o.op = .delete → o.candidateHash = none
  adds : ∀ o ∈ ops, o.op = .add → o.priorHash = none

/-- What the classification of a path gives. -/
theorem classifyPath_row {args : ClassifyArgs} {kind : StackPath}
    (hrow : classifyPath h args kind = some o) : o.op ≠ .rename ∧
      (o.op = .delete → o.candidateHash = none) ∧ (o.op = .add → o.priorHash = none) := by
  have hread : ∀ liveHash, (classifyReadable h args liveHash).op ≠ .rename ∧
      ((classifyReadable h args liveHash).op = .delete →
        (classifyReadable h args liveHash).candidateHash = none) ∧
      ((classifyReadable h args liveHash).op = .add →
        (classifyReadable h args liveHash).priorHash = none) := by
    intro liveHash
    unfold classifyReadable classifyCandidateOnly
    repeat' split
    all_goals simp [ClassifyArgs.row]
  cases kind with
  | unreadable => cases hrow
  | absent => exact some.inj hrow ▸ hread none
  | file sha256 => exact some.inj hrow ▸ hread (some sha256)
  | directory | symlink | special | escape =>
    cases hrow
    simp [ClassifyArgs.row]

variable {st : Pairing}

/-- The rows that are taken are those of the pairs. -/
theorem Paired.takes_iff (hst : Paired ops st pairs) (hkeys : (ops.map (·.pathKey)).Nodup)
    (ho : o ∈ ops) : st.takes o = true ↔ o ∈ pairs.map Prod.fst ++ pairs.map Prod.snd := by
  have hsame : ∀ x ∈ ops, x.pathKey = o.pathKey → x = o := fun x hx hkey =>
    inj_on_of_nodup_map hkeys hx ho hkey
  simp only [Pairing.takes, hst.usedDeletes, hst.usedAdds, Bool.or_eq_true, Bool.and_eq_true,
    decide_eq_true_eq, contains_iff_mem, List.mem_map, mem_append]
  constructor
  · rintro (⟨-, pair, hpair, hkey⟩ | ⟨-, pair, hpair, hkey⟩)
    · exact .inl ⟨pair, hpair, hsame _ (hst.joined pair hpair).1.1 hkey⟩
    · exact .inr ⟨pair, hpair, hsame _ (hst.joined pair hpair).2.1.1 hkey⟩
  · rintro (⟨pair, hpair, rfl⟩ | ⟨pair, hpair, rfl⟩)
    · exact .inl ⟨(hst.joined pair hpair).1.2, pair, hpair, rfl⟩
    · exact .inr ⟨(hst.joined pair hpair).2.1.2, pair, hpair, rfl⟩

theorem Paired.filter_perm (hst : Paired ops st pairs) (hkeys : (ops.map (·.pathKey)).Nodup) :
    (ops.filter st.takes).Perm (pairs.map Prod.fst ++ pairs.map Prod.snd) := by
  obtain ⟨honceD, honceA⟩ := hst.once hkeys
  have hmem : ∀ {x}, x ∈ pairs.map Prod.fst ++ pairs.map Prod.snd → x ∈ ops := by
    intro x hx
    rcases mem_append.mp hx with hx | hx
    · obtain ⟨pair, hpair, rfl⟩ := mem_map.mp hx
      exact (hst.joined pair hpair).1.1
    · obtain ⟨pair, hpair, rfl⟩ := mem_map.mp hx
      exact (hst.joined pair hpair).2.1.1
  refine (perm_ext_iff_of_nodup (hkeys.of_map.filter _) ?_).mpr fun x => ?_
  · refine nodup_append.mpr ⟨.of_map (·.pathKey) (by rwa [List.map_map]),
      .of_map (·.pathKey) (by rwa [List.map_map]), ?_⟩
    rintro x hx _ hy rfl
    obtain ⟨pair, hpair, rfl⟩ := mem_map.mp hx
    obtain ⟨pair', hpair', heq⟩ := mem_map.mp hy
    have hdelete := (hst.joined pair hpair).1.2
    rw [← heq, (hst.joined pair' hpair').2.1.2] at hdelete
    cases hdelete
  · rw [mem_filter]
    exact ⟨fun hx => (hst.takes_iff hkeys hx.1).mp hx.2,
      fun hx => ⟨hmem hx, (hst.takes_iff hkeys (hmem hx)).mpr hx⟩⟩

/-- A rename is expanded into what its two rows said. -/
theorem expand_renameRow (hc : Classified ops)
    {pair : GitChangePlanOperation × GitChangePlanOperation} (hpair : Joined ops pair) :
    expand (renameRow pair.1 pair.2) = [told pair.1] ++ [told pair.2] := by
  obtain ⟨⟨hd, hdelete⟩, ⟨ha, hadd⟩, -⟩ := hpair
  unfold expand told
  rw [hdelete, hadd, hc.deletes _ hd hdelete, hc.adds _ ha hadd]
  rfl

theorem meaning_of_classified (hc : Classified ops) :
    ((pairRenames h ops).flatMap expand).Perm (ops.map told) := by
  obtain ⟨pairs, hst, -⟩ := paired_pairAll h ops
  have hkept : ∀ p : GitChangePlanOperation → Bool,
      (ops.filter p).flatMap expand = (ops.filter p).map told := by
    intro p
    rw [map_eq_flatMap]
    exact flatMap_congr fun o ho => if_neg (hc.plain o (mem_filter.mp ho).1)
  have hrenames : (pairAll h ops).renames.flatMap expand =
      pairs.flatMap fun pair => [told pair.1] ++ [told pair.2] := by
    rw [hst.renames, flatMap_map]
    exact flatMap_congr fun pair hpair => expand_renameRow hc (hst.joined pair hpair)
  have hpairs : (pairs.flatMap fun pair => [told pair.1] ++ [told pair.2]).Perm
      ((ops.filter (pairAll h ops).takes).map told) := by
    refine (flatMap_append_perm ..).symm.trans ?_
    rw [← map_eq_flatMap, ← map_eq_flatMap]
    have htaken := ((hst.filter_perm hc.keys).map told).symm
    rwa [map_append, List.map_map, List.map_map] at htaken
  refine ((perm_insertionSort ..).flatMap_right expand).trans ?_
  rw [flatMap_append, hkept, hrenames]
  refine (hpairs.append_left _).trans ?_
  rw [← map_append]
  exact (perm_append_comm.trans (filter_append_perm ..)).map told

/-- Pairing keeps the meaning of classified rows.  A content counts where its digest is not
empty. -/
theorem preserved_of_classified (h : Host) (hc : Classified ops) : Preserved h (· ≠ []) ops := by
  obtain ⟨pairs, hst, hsett⟩ := paired_pairAll h ops
  have hrows : ∀ {o}, o ∈ pairRenames h ops → (o ∈ ops ∧ (pairAll h ops).takes o = false) ∨
      ∃ pair ∈ pairs, o = renameRow pair.1 pair.2 := by
    intro o ho
    rcases mem_append.mp (mem_sortRows.mp ho) with hkept | hrename
    · obtain ⟨ho, htakes⟩ := mem_filter.mp hkept
      exact .inl ⟨ho, by simpa using htakes⟩
    · rw [hst.renames] at hrename
      obtain ⟨pair, hpair, heq⟩ := mem_map.mp hrename
      exact .inr ⟨pair, hpair, heq.symm⟩
  refine ⟨meaning_of_classified hc, ?_, ?_⟩
  · intro r hr hop
    rcases hrows hr with ⟨ho, -⟩ | ⟨pair, hpair, rfl⟩
    · exact absurd hop (hc.plain r ho)
    · obtain ⟨⟨hd, hdelete⟩, ⟨ha, hadd⟩, hhash⟩ := hst.joined pair hpair
      refine ⟨pair.1, hd, pair.2, ha, hdelete, hadd, hhash, rfl, rfl, fun hside => ?_⟩
      have hhigh : (renameRow pair.1 pair.2).sensitivity = .high := if_pos hside.symm
      refine ⟨hhigh, mem_map_of_mem (mem_filter.mpr ⟨hr, rfl⟩), if_pos (.inl hhigh), ?_⟩
      show some (if (renameRow pair.1 pair.2).sensitivity = .high then none else _) = _
      rw [if_pos hhigh]
  · intro d hd a ha hdelete hadd k hk hprior hcand
    have hleft : ∀ {o}, o ∈ pairRenames h ops → o.op ≠ .rename →
        o ∈ ops ∧ (pairAll h ops).takes o = false := by
      intro o ho hop
      rcases hrows ho with hkept | ⟨pair, -, rfl⟩
      · exact hkept
      · exact absurd rfl hop
    obtain ⟨hd, hnotD⟩ := hleft hd (by rw [hdelete]; decide)
    obtain ⟨ha, hnotA⟩ := hleft ha (by rw [hadd]; decide)
    rcases hsett k with hnone | hnone
    · have hused := hnone d (mem_sharing.mpr ⟨hd, hdelete, hprior, hk⟩)
      simp [Pairing.takes, hdelete, hused] at hnotD
    · have hused := hnone a (mem_sharing.mpr ⟨ha, hadd, hcand, hk⟩)
      simp [Pairing.takes, hadd, hused] at hnotA

/-- A row of a file with nothing to say but its contents. -/
def plainRow (op : GitChangePlanOp) (pathKey : Text) (priorHash candidateHash : Option Text) :
    GitChangePlanOperation :=
  ⟨pathKey, op, .buildContextFile, none, priorHash, candidateHash, none, .high, none, .managed, .fetch,
    [], ""⟩

/-- A host that orders no two paths. -/
def flatHost : Host := ⟨id, fun _ _ => true, fun _ => []⟩

theorem preserved_of_moved : Preserved flatHost (· ≠ [])
    [plainRow .delete (text "a") (some (text "x")) none,
      plainRow .add (text "b") none (some (text "x"))] :=
  preserved_of_classified flatHost ⟨by decide, by decide, by decide, by decide⟩

/-- A rename that was there, a delete with a content after it, an add with one before it, and two
rows of an empty digest are not told again. -/
theorem not_preserved :
    ¬ Preserved flatHost (fun _ => True) [plainRow .rename (text "a") none none] ∧
    ¬ Preserved flatHost (fun _ => True) [plainRow .delete (text "a") (some (text "x")) (some (text "y")),
      plainRow .add (text "b") none (some (text "x"))] ∧
    ¬ Preserved flatHost (fun _ => True) [plainRow .delete (text "a") (some (text "x")) none,
      plainRow .add (text "b") (some (text "y")) (some (text "x"))] ∧
    ¬ Preserved flatHost (fun _ => True) [plainRow .delete (text "a") (some []) none,
      plainRow .add (text "b") none (some [])] := by
  refine ⟨fun hp => ?_, fun hp => ?_, fun hp => ?_, fun hp => ?_⟩
  · exact absurd hp.meaning (by decide +kernel)
  · exact absurd hp.meaning (by decide +kernel)
  · exact absurd hp.meaning (by decide +kernel)
  · exact hp.settled (plainRow .delete (text "a") (some []) none) (by decide +kernel)
      (plainRow .add (text "b") none (some [])) (by decide +kernel) rfl rfl [] trivial rfl rfl

end Sencho.ChangePlan
