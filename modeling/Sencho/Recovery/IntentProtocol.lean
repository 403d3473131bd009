import Mathlib.Data.List.Induction
import Sencho.Recovery.Intents
import Sencho.Verified.Runs

/-!
# The phase protocol of restore intents

Any number of restores write intents through the five calls of the store.  A
run starts from the empty table and takes any calls in any order, refused ones
included.  `IntentFate` says once what one call can do to one intent; the
rules about whole runs are read off from it along the history of the intent.
-/

namespace Sencho.Recovery

open Verified List Runs RestoreIntentStore

inductive IntentCall where
  | record (parents : IntentParents) (newId : String) (input : RestoreIntentInput) (now : Int)
  | recordOverwrite (parents : IntentParents) (newId : String)
      (input : OverwriteIntentInput) (now : Int)
  | advance (parents : IntentParents) (id : String) (phase : RestoreIntentPhase)
      (extra : IntentAdvanceFields) (now : Int)
  | setFenceState (id : String) (state : RestoreFenceState) (now : Int)
  | update (parents : IntentParents) (id : String) (extra : IntentAdvanceFields) (now : Int)

variable (t : IntentTable)

def callIntents : IntentCall → Except IntentError IntentTable
  | .record parents newId input now =>
    record parents newId input now t
  | .recordOverwrite parents newId input now =>
    recordOverwrite parents newId input now t
  | .advance parents id phase extra now =>
    advance parents id phase extra now t
  | .setFenceState id state now => setFenceState id state now t
  | .update parents id extra now => update parents id extra now t

/-- The table after a call; a call that threw changed nothing. -/
def intentStep (c : IntentCall) : IntentTable :=
  match callIntents t c with
  | .ok t' => t'
  | .error _ => t

def intentRun (calls : List IntentCall) : IntentTable :=
  run intentStep .empty calls

/-- The phases an intent had in the states of a run, in order. -/
def phaseHistory (id : String) (calls : List IntentCall) : List RestoreIntentPhase :=
  (trace intentStep .empty calls).filterMap fun t =>
    (t.find? id).map (·.phase)

/-- What a call does to the intent with an id. -/
inductive IntentFate (t : IntentTable) (c : IntentCall) (id : String) : Prop where
  | absent (before : t.find? id = none) (after : (intentStep t c).find? id = none)
  | inserted (row : IntentRow) (before : t.find? id = none)
      (after : (intentStep t c).find? id = some row)
      (phase : row.phase = .recorded) (key : row.id = id)
      (free : t.liveTargetTaken row = false) (named : row.targetVolume ≠ some "")
      (fence : row.fenceState = .none)
      (others : ∀ k, k ≠ id → (intentStep t c).find? k = t.find? k)
  | kept (row row' : IntentRow) (before : t.find? id = some row)
      (after : (intentStep t c).find? id = some row')
      (phase : row'.phase = row.phase) (mode : row'.targetMode = row.targetMode)
      (target : row'.targetVolume = row.targetVolume)
      (fence : (∀ state now, c ≠ .setFenceState id state now) → row'.fenceState = row.fenceState)
  | advanced (row row' : IntentRow) (parents : IntentParents)
      (extra : IntentAdvanceFields) (now : Int)
      (call : c = .advance parents id row'.phase extra now)
      (before : t.find? id = some row)
      (after : (intentStep t c).find? id = some row')
      (allowed : row'.phase ∈ allowedTransitions row.phase)
      (overwrite : row.targetMode ≠ .stagedOverwrite → row'.phase ∉ restoreOverwritePhases)
      (refers : extra.refers parents = true)
      (mode : row'.targetMode = row.targetMode)
      (target : row'.targetVolume = row.targetVolume)
      (fence : row'.fenceState = row.fenceState)

section Fate

variable {t : IntentTable} {c : IntentCall}
variable {parents : IntentParents} {row : IntentRow}

theorem find?_set (t : IntentTable) (key id : String) (f : IntentRow → IntentRow)
    (hf : ∀ row, (f row).id = row.id) :
    (t.set key f hf).find? id = if id = key then (t.find? id).map f else t.find? id := by
  rw [IntentTable.set, Table.find?_update]
  cases h : t.find? id with
  | none => simp
  | some row =>
    have hid : row.id = id := Table.key_of_find? h
    by_cases hk : id = key
    · simp [hid, hk]
    · simp [hid, hk]

theorem find?_set_self {t : IntentTable} {id : String} (f : IntentRow → IntentRow)
    (hf : ∀ row, (f row).id = row.id) (h : t.find? id = some row) :
    (t.set id f hf).find? id = some (f row) := by
  rw [find?_set, if_pos rfl, h]
  rfl

theorem IntentFate.of_unchanged (h : intentStep t c = t) (id : String) : IntentFate t c id := by
  cases hrow : t.find? id with
  | none => exact .absent hrow (by rw [h, hrow])
  | some row => exact .kept row row hrow (by rw [h, hrow]) rfl rfl rfl fun _ => rfl

theorem intent_of_require {id : String} (h : t.require id = .ok row) : t.find? id = some row := by
  unfold IntentTable.require at h
  cases hrow : t.find? id with
  | none => rw [hrow] at h; cases h
  | some row' => rw [hrow] at h; cases h; rfl

/-- A write that leaves phase, mode and target of its row alone. -/
theorem IntentFate.of_set (key : String) (f : IntentRow → IntentRow)
    (hf : ∀ row, (f row).id = row.id) (h : intentStep t c = t.set key f hf)
    (hph : ∀ row, (f row).phase = row.phase) (hmode : ∀ row, (f row).targetMode = row.targetMode)
    (htarget : ∀ row, (f row).targetVolume = row.targetVolume)
    (hfence : (∀ state now, c ≠ .setFenceState key state now) →
      ∀ row, (f row).fenceState = row.fenceState) (id : String) : IntentFate t c id := by
  have hafter := find?_set t key id f hf
  rw [← h] at hafter
  cases hrow : t.find? id with
  | none =>
    refine .absent hrow ?_
    rw [hafter, hrow]
    simp
  | some row =>
    rw [hrow] at hafter
    by_cases hk : id = key
    · rw [if_pos hk] at hafter
      exact .kept row (f row) hrow hafter (hph row) (hmode row) (htarget row)
        fun hother => hfence (hk ▸ hother) row
    · rw [if_neg hk] at hafter
      exact .kept row row hrow hafter rfl rfl rfl fun _ => rfl

theorem insert_ok {t' : IntentTable} (h : insert parents row t = .ok t') :
    t.liveTargetTaken row = false ∧ row.targetVolume ≠ some "" ∧ t.insert? row = some t' := by
  unfold RestoreIntentStore.insert at h
  split at h
  · cases h
  · rename_i hnamed
    split at h
    · cases h
    · rename_i hfree
      have hlive : t.liveTargetTaken row = false := by
        cases hl : t.liveTargetTaken row with
        | false => rfl
        | true => simp [hl] at hfree
      refine ⟨hlive, hnamed, ?_⟩
      cases hins : t.insert? row with
      | none => simp [hins] at h
      | some t'' =>
        simp only [hins] at h
        split at h
        · cases h; rfl
        · cases h

theorem IntentFate.of_insert (hcall : callIntents t c = insert parents row t)
    (hph : row.phase = .recorded) (hfence : row.fenceState = .none) (id : String) :
    IntentFate t c id := by
  cases h : insert parents row t with
  | error e => exact .of_unchanged (by simp [intentStep, hcall, h]) id
  | ok t' =>
    have hstep : intentStep t c = t' := by simp [intentStep, hcall, h]
    obtain ⟨hfree, hnamed, hins⟩ := insert_ok h
    obtain ⟨hnew, hfind⟩ := Table.insert?_eq_some hins
    rw [← hstep] at hfind
    by_cases hid : id = row.id
    · subst hid
      refine .inserted row hnew ?_ hph rfl hfree hnamed hfence ?_
      · rw [hfind, if_pos rfl]
      · intro k hk
        rw [hfind, if_neg hk]
    · have hafter := hfind id
      rw [if_neg hid] at hafter
      cases hrow : t.find? id with
      | none => exact .absent hrow (by rw [hafter, hrow])
      | some row' =>
        exact .kept row' row' hrow (by rw [hafter, hrow]) rfl rfl rfl fun _ => rfl

/-- An advance that did not throw found its intent and passed both checks. -/
theorem advance_ok {key : String} {phase : RestoreIntentPhase} {extra : IntentAdvanceFields}
    {now : Int} {t' : IntentTable} (h : advance parents key phase extra now t = .ok t') :
    ∃ row, t.find? key = some row ∧ phase ∈ allowedTransitions row.phase ∧
      (row.targetMode ≠ .stagedOverwrite → phase ∉ restoreOverwritePhases) ∧
      extra.refers parents = true ∧
      t' = t.set key (fun r => extra.apply now { r with phase }) fun _ => rfl := by
  unfold advance at h
  cases hreq : t.require key with
  | error e => rw [hreq] at h; cases h
  | ok row =>
    rw [hreq] at h
    simp only [bind, Except.bind] at h
    split at h
    · cases h
    · rename_i hallowed
      split at h
      · cases h
      · rename_i hmode
        split at h
        · cases h
        · split at h
          · cases h
          · rename_i hrefers
            refine ⟨row, intent_of_require hreq, by simpa using hallowed, ?_,
              by simpa using hrefers, ?_⟩
            · intro hne
              simpa [hne] using hmode
            · cases h; rfl

theorem IntentFate.of_advance (parents : IntentParents) (key : String)
    (phase : RestoreIntentPhase) (extra : IntentAdvanceFields) (now : Int)
    (id : String) : IntentFate t (.advance parents key phase extra now) id := by
  cases h : advance parents key phase extra now t with
  | error e => exact .of_unchanged (by simp [intentStep, callIntents, h]) id
  | ok t' =>
    have hstep : intentStep t (.advance parents key phase extra now) = t' := by
      simp [intentStep, callIntents, h]
    obtain ⟨row, hrow, hallowed, hmode, hrefers, rfl⟩ := advance_ok h
    have hafter := find?_set t key id (fun r => extra.apply now { r with phase }) fun _ => rfl
    rw [← hstep] at hafter
    by_cases hk : id = key
    · subst hk
      rw [if_pos rfl, hrow] at hafter
      exact .advanced row (extra.apply now { row with phase }) parents extra now
        rfl hrow hafter hallowed hmode hrefers rfl rfl rfl
    · rw [if_neg hk] at hafter
      cases hother : t.find? id with
      | none => exact .absent hother (by rw [hafter, hother])
      | some row' =>
        exact .kept row' row' hother (by rw [hafter, hother]) rfl rfl rfl fun _ => rfl

/-- What one call does to one intent. -/
theorem intent_fate (t : IntentTable) (c : IntentCall) (id : String) : IntentFate t c id := by
  cases c with
  | record parents newId input now | recordOverwrite parents newId input now =>
    exact .of_insert rfl rfl rfl id
  | advance parents key phase extra now =>
    exact .of_advance parents key phase extra now id
  | setFenceState key state now =>
    cases hreq : t.require key with
    | error e =>
      exact .of_unchanged (by simp [intentStep, callIntents, setFenceState,
          hreq, bind, Except.bind]) id
    | ok row =>
      refine .of_set key (fun row => { row with fenceState := state, updatedAt := now })
        (fun _ => rfl) ?_ (fun _ => rfl) (fun _ => rfl) (fun _ => rfl)
        (fun hother => absurd rfl (hother state now)) id
      simp only [intentStep, callIntents, setFenceState, hreq, bind, Except.bind]
  | update parents key extra now =>
    cases hreq : t.require key with
    | error e =>
      exact .of_unchanged (by simp [intentStep, callIntents, update, hreq, bind, Except.bind]) id
    | ok row =>
      by_cases hrefers : extra.refers parents = true
      · refine .of_set key (extra.apply now) (fun _ => rfl) ?_ (fun _ => rfl)
          (fun _ => rfl) (fun _ => rfl) (fun _ _ => rfl) id
        simp only [intentStep, callIntents, update, hreq, bind,
          Except.bind, hrefers, Bool.not_true, Bool.false_eq_true, if_false]
      · refine .of_unchanged ?_ id
        simp only [intentStep, callIntents, update, hreq, bind,
          Except.bind, hrefers, Bool.not_false, if_true]

end Fate

theorem phaseHistory_concat (id : String) (calls : List IntentCall) (c : IntentCall) :
    phaseHistory id (calls ++ [c]) = phaseHistory id calls ++
      (((intentRun (calls ++ [c])).find? id).map (·.phase)).toList := by
  unfold phaseHistory intentRun
  rw [trace_concat, filterMap_append]
  cases h : (run intentStep .empty (calls ++ [c])).find? id with
  | none | some row => simp [h]

variable {row : IntentRow} {id : String} (calls : List IntentCall) {p q : RestoreIntentPhase}

theorem intentRun_concat (c : IntentCall) :
    intentRun (calls ++ [c]) = intentStep (intentRun calls) c := by
  unfold intentRun
  rw [run_append]
  rfl

/-- An intent that is not in the table has no history. -/
theorem phaseHistory_of_absent (id : String) (calls : List IntentCall)
    (h : (intentRun calls).find? id = none) : phaseHistory id calls = [] := by
  induction calls using reverseRecOn with
  | nil => rfl
  | append_singleton calls c ih =>
    have hafter := h
    rw [intentRun_concat] at h
    rw [phaseHistory_concat, hafter]
    cases intent_fate (intentRun calls) c id with
    | absent before after => rw [ih before]; rfl
    | inserted row before after => rw [h] at after; cases after
    | kept row row' before after => rw [h] at after; cases after
    | advanced row row' parents extra now call before after =>
      rw [h] at after; cases after

/-- A rule about intents and their histories: it holds of a new intent, and
every call of the run keeps it. -/
theorem phaseHistory_rule {P : IntentRow → List RestoreIntentPhase → Prop} (id : String)
    (calls : List IntentCall) (hnew : ∀ row, row.phase = .recorded → P row [.recorded])
    (hkept : ∀ row row' phases, P row phases → row'.phase = row.phase →
      row'.targetMode = row.targetMode → P row' (phases ++ [row.phase]))
    (hmove : ∀ pre parents extra now post row row' phases,
      calls = pre ++ IntentCall.advance parents id row'.phase extra now :: post →
      (intentRun pre).find? id = some row → extra.refers parents = true →
      row'.phase ∈ allowedTransitions row.phase →
      (row.targetMode ≠ .stagedOverwrite → row'.phase ∉ restoreOverwritePhases) →
      row'.targetMode = row.targetMode → P row phases →
      P row' (phases ++ [row'.phase])) (h : (intentRun calls).find? id = some row) :
    P row (phaseHistory id calls) := by
  suffices hpre : ∀ pre post, calls = pre ++ post → ∀ row,
      (intentRun pre).find? id = some row → P row (phaseHistory id pre) from
    hpre calls [] (append_nil calls).symm row h
  intro pre
  induction pre using reverseRecOn with
  | nil =>
    intro post _ row hrow
    cases hrow
  | append_singleton pre c ih =>
    intro post hcalls row hrow
    have hsplit : calls = pre ++ c :: post := by
      rw [hcalls, append_assoc]
      rfl
    rw [phaseHistory_concat, hrow]
    rw [intentRun_concat] at hrow
    cases intent_fate (intentRun pre) c id with
    | absent before after => rw [hrow] at after; cases after
    | inserted row' before after phase =>
      rw [hrow] at after
      cases after
      rw [phaseHistory_of_absent id pre before]
      simpa [phase] using hnew row phase
    | kept row₀ row' before after phase mode =>
      rw [hrow] at after
      cases after
      have hprev := ih (c :: post) hsplit row₀ before
      simpa [phase] using hkept row₀ row _ hprev phase mode
    | advanced row₀ row' parents extra now call before after allowed overwrite refers mode =>
        rw [hrow] at after
        cases after
        have hprev := ih (c :: post) hsplit row₀ before
        rw [call] at hsplit
        exact hmove pre parents extra now post row₀ row _ hsplit before refers
          allowed overwrite mode hprev

/-- What the protocol says of the state a run reaches and of the way there. -/
structure IntentProtocol (calls : List IntentCall) : Prop where
  /-- No two live intents have the same target volume. -/
  oneLive : ∀ i j row row' volume,
    (intentRun calls).find? i = some row → (intentRun calls).find? j = some row' →
    row.phase.isSettled = false → row'.phase.isSettled = false →
    row.targetVolume = some volume → row'.targetVolume = some volume → i = j
  /-- Only a staged overwrite was ever in an overwrite phase. -/
  overwriteOnly : ∀ id row, (intentRun calls).find? id = some row →
    row.targetMode ≠ .stagedOverwrite →
    ∀ phase ∈ phaseHistory id calls, phase ∉ restoreOverwritePhases
  /-- A committed or rolled back intent is still what it was. -/
  ended : ∀ pre post id row, calls = pre ++ post →
    (intentRun pre).find? id = some row →
    row.phase = .committed ∨ row.phase = .rolledBack →
    ∃ row', (intentRun calls).find? id = some row' ∧ row'.phase = row.phase
  /-- An intent that was unknown is so still, or it settled. -/
  unknown : ∀ pre post id row, calls = pre ++ post →
    (intentRun pre).find? id = some row → row.phase = .completionUnknown →
    ∃ row', (intentRun calls).find? id = some row' ∧
      row'.phase ∈ [.completionUnknown, .committed, .rolledBack]
  /-- A committed overwrite that was never unknown took every overwrite phase. -/
  fenceFirst : ∀ id row, (intentRun calls).find? id = some row →
    row.targetMode = .stagedOverwrite → row.phase = .committed →
    .completionUnknown ∉ phaseHistory id calls →
    restoreOverwritePhases.Sublist (phaseHistory id calls)

/-- Every state of the run keeps the protocol. -/
def FollowsProtocol (calls : List IntentCall) : Prop :=
  ∀ reached post, calls = reached ++ post → IntentProtocol reached

/-- The call commits a staged overwrite that was never fenced. -/
def SkipsFence (c : IntentCall) : Prop :=
  ∃ parents id extra now row, c = .advance parents id .committed extra now ∧
    extra.refers parents = true ∧ t.find? id = some row ∧
    row.targetMode = .stagedOverwrite ∧ row.phase = .stagedVerified

/-! ### One live intent for a target -/

/-- No two live intents have the same target volume. -/
def OneLive : Prop :=
  ∀ i j row row' volume, t.find? i = some row → t.find? j = some row' →
    row.phase.isSettled = false → row'.phase.isSettled = false →
    row.targetVolume = some volume → row'.targetVolume = some volume → i = j

theorem isSettled_of_allowed (h : q ∈ allowedTransitions p)
    (hq : q.isSettled = false) : p.isSettled = false := by
  cases p <;> cases q <;> simp_all [allowedTransitions, RestoreIntentPhase.isSettled]

theorem liveTargetTaken_of_live {t : IntentTable} {other : IntentRow} {volume k : String}
    (hother : t.find? k = some other) (hne : k ≠ row.id) (hlive : other.phase.isSettled = false)
    (htarget : other.targetVolume = some volume) (hrow : row.phase.isSettled = false)
    (hv : row.targetVolume = some volume) : t.liveTargetTaken row = true := by
  have hk : other.id = k := Table.key_of_find? hother
  have hany : t.any (fun r => r.id ≠ row.id && !r.phase.isSettled &&
      r.targetVolume == row.targetVolume) = true := by
    rw [Table.any_iff]
    refine ⟨k, other, hother, ?_⟩
    simp [hk, hne, hlive, htarget, hv]
  simp only [IntentTable.liveTargetTaken, hrow, hv, Bool.not_false, Option.isSome_some,
    Bool.true_and]
  rw [← hv]
  exact hany

/-- A live intent after a call is new to a free target, or it was live with the
same target before. -/
theorem live_before {t : IntentTable} {c : IntentCall} (hrow : (intentStep t c).find? id = some row)
    (hlive : row.phase.isSettled = false) :
    (∃ old, t.find? id = some old ∧ old.phase.isSettled = false ∧
      old.targetVolume = row.targetVolume) ∨
    (t.find? id = none ∧ row.id = id ∧ t.liveTargetTaken row = false ∧
      ∀ k, k ≠ id → (intentStep t c).find? k = t.find? k) := by
  cases intent_fate t c id with
  | absent before after => rw [hrow] at after; cases after
  | inserted row' before after phase key free named fence others =>
    rw [hrow] at after
    cases after
    exact .inr ⟨before, key, free, others⟩
  | kept old row' before after phase mode target =>
    rw [hrow] at after
    cases after
    exact .inl ⟨old, before, by rw [← phase]; exact hlive, target.symm⟩
  | advanced old row' parents extra now call before after allowed overwrite refers mode target =>
      rw [hrow] at after
      cases after
      exact .inl ⟨old, before, isSettled_of_allowed allowed hlive, target.symm⟩

theorem OneLive.step (c : IntentCall) (h : OneLive t) : OneLive (intentStep t c) := by
  intro i j row row' volume hi hj hlive hlive' hv hv'
  by_contra hne
  obtain ⟨old, hold, holdLive, holdTarget⟩ | ⟨-, key, free, others⟩ :=
    live_before hi hlive
  · obtain ⟨old', hold', holdLive', holdTarget'⟩ | ⟨-, key', free', others'⟩ :=
      live_before hj hlive'
    · exact hne (h i j old old' volume hold hold' holdLive holdLive'
        (holdTarget.trans hv) (holdTarget'.trans hv'))
    · have htaken := liveTargetTaken_of_live hold (by rw [key']; exact hne) holdLive
        (holdTarget.trans hv) hlive' hv'
      rw [free'] at htaken
      cases htaken
  · have hjt : t.find? j = some row' := by
      rw [← others j (Ne.symm hne)]
      exact hj
    have htaken := liveTargetTaken_of_live hjt (by rw [key]; exact Ne.symm hne) hlive' hv' hlive hv
    rw [free] at htaken
    cases htaken

theorem OneLive.run : OneLive (intentRun calls) := by
  refine run_invariant OneLive.step ?_ calls
  intro i j row row' volume hi
  cases hi

/-! ### Phases that hold on -/

/-- A set of phases that no transition leaves is not left in a run. -/
theorem phases_closed {phases : List RestoreIntentPhase}
    (hclosed : ∀ p ∈ phases, ∀ q ∈ allowedTransitions p, q ∈ phases) (pre post : List IntentCall)
    (hrow : (intentRun pre).find? id = some row) (hph : row.phase ∈ phases) :
    ∃ row', (intentRun (pre ++ post)).find? id = some row' ∧ row'.phase ∈ phases := by
  have hrun : intentRun (pre ++ post) = run intentStep (intentRun pre) post :=
    run_append _ _ _
  rw [hrun]
  refine run_invariant
    (P := fun t : IntentTable => ∃ row', t.find? id = some row' ∧ row'.phase ∈ phases) ?_
    ⟨row, hrow, hph⟩ post
  rintro t c ⟨r, hr, hp⟩
  cases intent_fate t c id with
  | absent before after | inserted row' before after => rw [hr] at before; cases before
  | kept r₀ row' before after phase =>
    rw [hr] at before
    cases before
    exact ⟨row', after, by rw [phase]; exact hp⟩
  | advanced r₀ row' parents extra now call before after allowed =>
    rw [hr] at before
    cases before
    exact ⟨row', after, hclosed r.phase hp row'.phase allowed⟩

theorem overwriteOnly_run (h : (intentRun calls).find? id = some row)
    (hmode : row.targetMode ≠ .stagedOverwrite) :
    ∀ phase ∈ phaseHistory id calls, phase ∉ restoreOverwritePhases := by
  refine phaseHistory_rule (P := fun row phases => row.targetMode ≠ .stagedOverwrite →
      row.phase ∉ restoreOverwritePhases ∧ ∀ phase ∈ phases, phase ∉ restoreOverwritePhases)
    id calls ?_ ?_ ?_ h hmode |>.2
  · intro row hph _
    rw [hph]
    simp [restoreOverwritePhases]
  · intro row row' phases hprev hph hmode' hne
    obtain ⟨hp, hall⟩ := hprev (by rw [← hmode']; exact hne)
    refine ⟨by rw [hph]; exact hp, ?_⟩
    intro phase hmem
    rcases mem_append.mp hmem with hmem | hmem
    · exact hall phase hmem
    · rw [mem_singleton.mp hmem]
      exact hp
  · intro pre parents extra now post row row' phases _ _ _ _ hover hmode' hprev hne
    have hrow : row.targetMode ≠ .stagedOverwrite := by
      rw [← hmode']
      exact hne
    refine ⟨hover hrow, ?_⟩
    intro phase hmem
    rcases mem_append.mp hmem with hmem | hmem
    · exact (hprev hrow).2 phase hmem
    · rw [mem_singleton.mp hmem]
      exact hover hrow

/-! ### The fence -/

/-- How far along the protocol a phase is. -/
def RestoreIntentPhase.rank : RestoreIntentPhase → Nat
  | .recorded => 0
  | .staging => 1
  | .stagedVerified => 2
  | .fenced => 3
  | .protecting => 4
  | .materializing => 5
  | .swapping => 6
  | .swapped => 7
  | .completionUnknown => 8
  | .committed => 9
  | .rolledBack => 9

theorem rank_le_of_allowed (h : q ∈ allowedTransitions p) : p.rank ≤ q.rank := by
  cases p <;> cases q <;> simp_all [allowedTransitions, RestoreIntentPhase.rank]

/-- An intent never went back. -/
theorem rank_history (h : (intentRun calls).find? id = some row) :
    ∀ phase ∈ phaseHistory id calls, phase.rank ≤ row.phase.rank := by
  refine phaseHistory_rule (P := fun row phases => ∀ phase ∈ phases, phase.rank ≤ row.phase.rank)
    id calls ?_ ?_ ?_ h
  · intro row hph phase hmem
    rw [mem_singleton.mp hmem, hph]
  · intro row row' phases hprev hph _ phase hmem
    rw [hph]
    rcases mem_append.mp hmem with hmem | hmem
    · exact hprev phase hmem
    · rw [mem_singleton.mp hmem]
  · intro pre parents extra now post row row' phases _ _ _ hallowed _ _ hprev phase hmem
    rcases mem_append.mp hmem with hmem | hmem
    · exact Nat.le_trans (hprev phase hmem) (rank_le_of_allowed hallowed)
    · rw [mem_singleton.mp hmem]

/-- The overwrite phases an overwrite has taken when it is in a phase. -/
def overwritePath : RestoreIntentPhase → List RestoreIntentPhase
  | .fenced => [.fenced]
  | .protecting => [.fenced, .protecting]
  | .materializing => [.fenced, .protecting, .materializing]
  | .swapping => [.fenced, .protecting, .materializing, .swapping]
  | .swapped | .committed => restoreOverwritePhases
  | _ => []

/-- Each transition but the one past the fence adds one phase to the path. -/
theorem overwritePath_allowed (h : q ∈ allowedTransitions p)
    (hknown : p ≠ .completionUnknown) (hfence : p = .stagedVerified → q ≠ .committed) :
    (overwritePath q).Sublist (overwritePath p ++ [q]) := by
  cases p <;> cases q <;> simp_all [allowedTransitions, overwritePath, restoreOverwritePhases]

theorem overwritePath_history
    (hskip : ∀ pre c post, calls = pre ++ c :: post → ¬ SkipsFence (intentRun pre) c)
    (h : (intentRun calls).find? id = some row) (hmode : row.targetMode = .stagedOverwrite)
    (hknown : .completionUnknown ∉ phaseHistory id calls) :
    (overwritePath row.phase).Sublist (phaseHistory id calls) := by
  refine phaseHistory_rule (P := fun row phases => row.phase ∈ phases ∧
      (row.targetMode = .stagedOverwrite → .completionUnknown ∉ phases →
        (overwritePath row.phase).Sublist phases))
    id calls ?_ ?_ ?_ h |>.2 hmode hknown
  · intro row hph
    rw [hph]
    exact ⟨mem_singleton_self _, fun _ _ => nil_sublist _⟩
  · intro row row' phases hprev hph hmode'
    rw [hph]
    refine ⟨mem_append_right _ (mem_singleton_self _), fun hover hunk => ?_⟩
    have hunk' : .completionUnknown ∉ phases := fun hmem =>
      hunk (mem_append_left _ hmem)
    exact (hprev.2 (hmode'.symm.trans hover) hunk').trans (sublist_append_left _ _)
  · intro pre parents extra now post row row' phases hcalls hrow hrefers hallowed _ hmode' hprev
    refine ⟨mem_append_right _ (mem_singleton_self _), fun hover hunk => ?_⟩
    have hunk' : .completionUnknown ∉ phases := fun hmem =>
      hunk (mem_append_left _ hmem)
    have hknown' : row.phase ≠ .completionUnknown := fun hp =>
      hunk' (hp ▸ hprev.1)
    have hrowMode : row.targetMode = .stagedOverwrite := hmode'.symm.trans hover
    have hpath := hprev.2 hrowMode hunk'
    have hfence : row.phase = .stagedVerified → row'.phase ≠ .committed := by
      intro hp hq
      refine hskip pre _ post hcalls ⟨parents, id, extra, now, row, ?_, hrefers, hrow, hrowMode, hp⟩
      rw [hq]
    exact (overwritePath_allowed hallowed hknown' hfence).trans
      (List.Sublist.append hpath (.refl _))

/-- The step past the fence breaks the protocol in the state it reaches. -/
theorem not_protocol_of_skip {pre : List IntentCall} {c : IntentCall}
    (hskip : SkipsFence (intentRun pre) c) : ¬ IntentProtocol (pre ++ [c]) := by
  intro hprotocol
  obtain ⟨parents, id, extra, now, row, rfl, hrefers, hrow, hmode, hph⟩ := hskip
  have hafter : (intentRun (pre ++ [.advance parents id .committed extra now])).find?
      id = some (extra.apply now { row with phase := .committed }) := by
    rw [intentRun_concat]
    have hreq : (intentRun pre).require id = .ok row := by
      rw [IntentTable.require, hrow]
    have hstep : callIntents (intentRun pre) (.advance parents id .committed extra now) =
        .ok ((intentRun pre).set id
          (fun r => extra.apply now { r with phase := .committed }) fun _ => rfl) := by
      simp only [callIntents, advance, hreq, bind, Except.bind, hph, hmode, hrefers]
      rfl
    rw [intentStep, hstep]
    exact find?_set_self _ _ hrow
  have hearly : ∀ phase ∈ phaseHistory id pre, phase.rank ≤ 2 := by
    intro phase hmem
    have hle := rank_history pre hrow phase hmem
    rw [hph] at hle
    exact hle
  have hhistory := phaseHistory_concat id pre (.advance parents id .committed extra now)
  rw [hafter] at hhistory
  have hnew : ∀ phase, phase ≠ .committed → 2 < phase.rank →
      phase ∉ phaseHistory id (pre ++ [.advance parents id .committed extra now]) := by
    intro phase hne hrank hmem
    rw [hhistory] at hmem
    rcases mem_append.mp hmem with hmem | hmem
    · have hle := hearly phase hmem
      omega
    · exact hne (by simpa [IntentAdvanceFields.apply] using hmem)
  have hsub := hprotocol.fenceFirst id _ hafter hmode rfl
    (hnew .completionUnknown (by simp) (by simp [RestoreIntentPhase.rank]))
  exact hnew .fenced (by simp) (by simp [RestoreIntentPhase.rank])
    (hsub.subset (by simp [restoreOverwritePhases]))

/-- A run keeps the protocol in every state exactly when none of its calls
commits a staged overwrite out of `stagedVerified`. -/
theorem intents_follow_protocol_iff (calls : List IntentCall) : FollowsProtocol calls ↔
      ∀ pre c post, calls = pre ++ c :: post → ¬ SkipsFence (intentRun pre) c := by
  constructor
  · intro h pre c post hcalls hskip
    refine not_protocol_of_skip hskip (h (pre ++ [c]) post ?_)
    rw [hcalls, append_assoc]
    rfl
  · intro hskip reached post hcalls
    have hskip' : ∀ pre c post, reached = pre ++ c :: post → ¬ SkipsFence (intentRun pre) c := by
      intro pre c rest hreached
      refine hskip pre c (rest ++ post) ?_
      rw [hcalls, hreached, append_assoc]
      rfl
    refine ⟨OneLive.run reached, fun id row h hmode => overwriteOnly_run reached h hmode,
      ?_, ?_, ?_⟩
    · intro pre rest id row hreached hrow hph
      have hclosed : ∀ p ∈ [row.phase], ∀ q ∈ allowedTransitions p, q ∈ [row.phase] := by
        intro p hp q hq
        rw [mem_singleton.mp hp] at hq
        rcases hph with hph | hph <;> rw [hph] at hq <;> cases hq
      obtain ⟨row', hrow', hph'⟩ :=
        phases_closed hclosed pre rest hrow (mem_singleton_self _)
      rw [hreached]
      exact ⟨row', hrow', mem_singleton.mp hph'⟩
    · intro pre rest id row hreached hrow hph
      rw [hreached]
      refine phases_closed ?_ pre rest hrow (by rw [hph]; simp)
      decide
    · intro id row h hmode hph hknown
      have hpath := overwritePath_history reached hskip' h hmode hknown
      rw [hph] at hpath
      exact hpath

/-- An overwrite of `data`, staged, verified and then committed. -/
def unfencedCommit : List IntentCall :=
  let parents : IntentParents := ⟨["op"], ["point"]⟩
  [ .recordOverwrite parents "intent"
      ⟨⟨none, "op", "point", "data", "admin", "epoch"⟩, "stage", "generation", []⟩ 0
  , .advance parents "intent" .staging .empty 1
  , .advance parents "intent" .stagedVerified .empty 2
  , .advance parents "intent" .committed .empty 3 ]

/-- The overwrite above is committed, was never unknown, and never entered an
overwrite phase. -/
theorem unfenced_commit_accepted : ((intentRun unfencedCommit).find? "intent").map
        (fun row => (row.targetMode, row.phase)) =
      some (.stagedOverwrite, .committed) ∧
    phaseHistory "intent" unfencedCommit = [.recorded, .staging, .stagedVerified, .committed] ∧
    ¬ FollowsProtocol unfencedCommit := by
  refine ⟨by decide, by decide, ?_⟩
  intro h
  have hskip : SkipsFence (intentRun (unfencedCommit.take 3))
      (.advance ⟨["op"], ["point"]⟩ "intent" .committed .empty 3) := by
    refine ⟨_, _, _, _, _, rfl, by decide, rfl, rfl, rfl⟩
  exact not_protocol_of_skip hskip (h _ [] (by rfl))

end Sencho.Recovery
