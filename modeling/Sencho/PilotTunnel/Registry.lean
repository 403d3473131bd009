import Sencho.PilotTunnel.Manager
import Sencho.Verified.Runs

/-!
# What the tunnel registry says of the bridges

Where no start is awaited, a registry that describes its bridges holds each open bridge
under its node and no bridge that has closed, within the limit, and calls a node's tunnel
confidential only where the registered bridge is a pilot tunnel accepted as such.

Three calls can break this.  A registration installs its bridge without looking at what
happened while it started: the bridge may have closed, another may hold the node, the limit
may be reached.  A dialed bridge may have closed before it is registered.  And a
force-close leaves a node confidential that was so before.
-/

namespace Sencho.PilotTunnel

open Verified List PilotTunnelManager AList

/-- The close handler a bridge has while its start is awaited. -/
def Awaiting.handler : Awaiting → Option BridgeKind
  | .registerTunnel _ => some .pilot
  | .dial => none

namespace PilotTunnelManager

variable {s s' : PilotTunnelManager} {nodeId : Int} {bridge : Nat}

/-- The registry describes the live tunnels. -/
structure Describes (s : PilotTunnelManager) : Prop where
  single : ∀ (b b' : Nat) (x x' : PilotTunnelBridge), s.created[b]? = some x →
    s.created[b']? = some x' → x.closed = false → x'.closed = false → x.nodeId = x'.nodeId → b = b'
  live : ∀ b x, s.created[b]? = some x → x.closed = false → s.getBridge x.nodeId = some b
  registered : ∀ n b, s.getBridge n = some b →
    ∃ x, s.created[b]? = some x ∧ x.nodeId = n ∧ x.closed = false
  limited : s.size ≤ pilotTunnelHardLimit
  confidential : ∀ n, s.isTunnelConfidential n = true →
    ∃ b, s.getBridge n = some b ∧ s.bridgeKinds.lookup n = some .pilot ∧ (b, true) ∈ s.accepted

/-- What holds of the maps between any two calls. -/
structure Wired (s : PilotTunnelManager) : Prop where
  registered : ∀ n b, s.getBridge n = some b → ∃ kind,
    s.created[b]? = some ⟨n, false, some kind⟩ ∧ s.bridgeKinds.lookup n = some kind
  live : ∀ b x, s.created[b]? = some x → x.closed = false →
    s.getBridge x.nodeId = some b ∨ b ∈ s.awaiting.map Prod.fst
  waits : ∀ b a, (b, a) ∈ s.awaiting → ∃ x, s.created[b]? = some x ∧ x.onClosed = a.handler
  idle : ∀ n b, s.getBridge n = some b → b ∉ s.awaiting.map Prod.fst
  accepts : ∀ b c, (b, .registerTunnel c) ∈ s.awaiting → (b, c) ∈ s.accepted
  limited : s.size ≤ pilotTunnelHardLimit
  confidential : ∀ n, s.isTunnelConfidential n = true →
    ∃ b, s.getBridge n = some b ∧ s.bridgeKinds.lookup n = some .pilot ∧ (b, true) ∈ s.accepted

theorem Wired.init : Wired init where
  registered := fun _ _ h => absurd h (by simp [getBridge, PilotTunnelManager.init])
  live := fun _ _ h => absurd h (by simp [PilotTunnelManager.init])
  waits := fun _ _ h => absurd h not_mem_nil
  idle := fun _ _ _ => not_mem_nil
  accepts := fun _ _ h => absurd h not_mem_nil
  limited := Nat.zero_le _
  confidential := fun _ h => absurd h (by
    simp [isTunnelConfidential, PilotTunnelManager.init])

/-- With no start awaited, the registry describes the tunnels. -/
theorem Wired.describes (h : Wired s) (hquiet : s.awaiting = []) : Describes s := by
  have hlive : ∀ b x, s.created[b]? = some x → x.closed = false →
      s.getBridge x.nodeId = some b := by
    intro b x hx hopen
    rcases h.live b x hx hopen with hreg | hwait
    · exact hreg
    · rw [hquiet] at hwait
      exact absurd hwait not_mem_nil
  refine ⟨fun b b' x x' hx hx' hopen hopen' hnode => ?_, hlive, fun n b hreg => ?_, h.limited,
    h.confidential⟩
  · have hreg := hlive b x hx hopen
    have hreg' := hlive b' x' hx' hopen'
    rw [hnode, hreg'] at hreg
    exact (Option.some.inj hreg).symm
  · obtain ⟨kind, hx, _⟩ := h.registered n b hreg
    exact ⟨_, hx, rfl, rfl⟩

@[simp] theorem getBridge_release (s : PilotTunnelManager) (n : Int) :
    (s.release n).getBridge n = none := lookup_erase n s.bridges

theorem getBridge_release_ne {n : Int} (h : n ≠ nodeId) :
    (s.release nodeId).getBridge n = s.getBridge n := lookup_erase_ne h

theorem size_erase_le (m : AList fun _ : Int => Nat) (n : Int) :
    (m.erase n).keys.length ≤ m.keys.length := by
  rw [keys_erase]
  exact length_erase_le

theorem size_insert_le (m : AList fun _ : Int => Nat) (n : Int) (b : Nat) :
    (m.insert n b).keys.length ≤ m.keys.length + 1 := by
  rw [keys_insert, length_cons]
  have hle : (m.keys.erase n).length ≤ m.keys.length := length_erase_le
  omega

theorem getElem?_marked {bridges : List PilotTunnelBridge} (hlt : bridge < bridges.length)
    (x : PilotTunnelBridge) (b : Nat) :
    (bridges.set bridge x)[b]? = if bridge = b then some x else bridges[b]? := by
  by_cases hb : bridge = b
  · rw [if_pos hb, ← hb, getElem?_set_self hlt]
  · rw [if_neg hb, getElem?_set_ne hb]

/-- A bridge that is not registered, marked as closed. -/
theorem Wired.marked (h : Wired s) {x : PilotTunnelBridge} (hx : s.created[bridge]? = some x)
    (hout : s.getBridge x.nodeId ≠ some bridge) :
    Wired { s with created := s.created.set bridge { x with closed := true } } := by
  have hlt : bridge < s.created.length := (List.getElem?_eq_some_iff.mp hx).1
  have hat := getElem?_marked hlt { x with closed := true }
  refine ⟨fun n b hreg => ?_, fun b y hy hopen => ?_, fun b a ha => ?_, h.idle, h.accepts,
    h.limited, h.confidential⟩
  · obtain ⟨kind, hb, hkind⟩ := h.registered n b hreg
    have hne : bridge ≠ b := by
      rintro rfl
      rw [hx] at hb
      cases hb
      exact hout hreg
    refine ⟨kind, ?_, hkind⟩
    show (s.created.set bridge { x with closed := true })[b]? = _
    rw [hat, if_neg hne]
    exact hb
  · have hy' : (s.created.set bridge { x with closed := true })[b]? = some y := hy
    rw [hat] at hy'
    by_cases hb : bridge = b
    · rw [if_pos hb] at hy'
      cases hy'
      cases hopen
    · rw [if_neg hb] at hy'
      exact h.live b y hy' hopen
  · obtain ⟨y, hy, hhandler⟩ := h.waits b a ha
    show ∃ z, (s.created.set bridge { x with closed := true })[b]? = some z ∧ _
    rw [hat]
    by_cases hb : bridge = b
    · rw [if_pos hb]
      rw [← hb, hx] at hy
      cases hy
      exact ⟨_, rfl, hhandler⟩
    · rw [if_neg hb]
      exact ⟨y, hy, hhandler⟩

/-- A registered bridge, marked as closed and taken out of the maps.  Its node must no longer
be confidential. -/
theorem Wired.gone (h : Wired s) {kind : BridgeKind}
    (hx : s.created[bridge]? = some ⟨nodeId, false, some kind⟩)
    (hslot : s.getBridge nodeId = some bridge) (hbridges : s'.bridges = s.bridges.erase nodeId)
    (hkinds : s'.bridgeKinds = s.bridgeKinds.erase nodeId)
    (hcreated : s'.created = s.created.set bridge ⟨nodeId, true, some kind⟩)
    (hawaiting : s'.awaiting = s.awaiting) (hacc : s'.accepted = s.accepted)
    (hconfidential : ∀ n, s'.isTunnelConfidential n = true →
      n ≠ nodeId ∧ s.isTunnelConfidential n = true) : Wired s' := by
  have hlt : bridge < s.created.length := (List.getElem?_eq_some_iff.mp hx).1
  have hat : ∀ b, s'.created[b]? =
      if bridge = b then some ⟨nodeId, true, some kind⟩ else s.created[b]? := by
    intro b
    rw [hcreated]
    exact getElem?_marked hlt _ b
  have hreg : ∀ n, s'.getBridge n = if n = nodeId then none else s.getBridge n := by
    intro n
    unfold getBridge
    rw [hbridges]
    by_cases hn : n = nodeId
    · rw [if_pos hn, hn]
      exact lookup_erase nodeId s.bridges
    · rw [if_neg hn]
      exact lookup_erase_ne hn
  have hkind : ∀ n, n ≠ nodeId → s'.bridgeKinds.lookup n = s.bridgeKinds.lookup n := by
    intro n hn
    rw [hkinds]
    exact lookup_erase_ne hn
  have hold : ∀ n b, s'.getBridge n = some b → n ≠ nodeId ∧ s.getBridge n = some b := by
    intro n b hb
    rw [hreg] at hb
    by_cases hn : n = nodeId
    · rw [if_pos hn] at hb
      cases hb
    · rw [if_neg hn] at hb
      exact ⟨hn, hb⟩
  refine ⟨fun n b hb => ?_, fun b y hy hopen => ?_, fun b a ha => ?_, fun n b hb => ?_,
    fun b c hc => ?_, ?_, fun n hn => ?_⟩
  · obtain ⟨hn, hb'⟩ := hold n b hb
    obtain ⟨kind', hcreated', hkind'⟩ := h.registered n b hb'
    have hne : bridge ≠ b := by
      rintro rfl
      rw [hx] at hcreated'
      cases hcreated'
      exact hn rfl
    refine ⟨kind', ?_, ?_⟩
    · rw [hat, if_neg hne]
      exact hcreated'
    · rw [hkind n hn]
      exact hkind'
  · rw [hat] at hy
    rw [hawaiting]
    by_cases hb : bridge = b
    · rw [if_pos hb] at hy
      cases hy
      cases hopen
    · rw [if_neg hb] at hy
      rcases h.live b y hy hopen with hlive | hwait
      · by_cases hn : y.nodeId = nodeId
        · rw [hn, hslot] at hlive
          exact absurd (Option.some.inj hlive) hb
        · refine .inl ?_
          rw [hreg, if_neg hn]
          exact hlive
      · exact .inr hwait
  · rw [hawaiting] at ha
    obtain ⟨y, hy, hhandler⟩ := h.waits b a ha
    rw [hat]
    by_cases hb : bridge = b
    · rw [if_pos hb]
      rw [← hb, hx] at hy
      cases hy
      exact ⟨_, rfl, hhandler⟩
    · rw [if_neg hb]
      exact ⟨y, hy, hhandler⟩
  · rw [hawaiting]
    exact h.idle n b (hold n b hb).2
  · rw [hawaiting] at hc
    rw [hacc]
    exact h.accepts b c hc
  · have hle := size_erase_le s.bridges nodeId
    have hlimited := h.limited
    unfold size at hlimited ⊢
    rw [hbridges]
    omega
  · obtain ⟨hne, hwas⟩ := hconfidential n hn
    obtain ⟨b, hb, hpilot, haccept⟩ := h.confidential n hwas
    refine ⟨b, ?_, ?_, ?_⟩
    · rw [hreg, if_neg hne]
      exact hb
    · rw [hkind n hne]
      exact hpilot
    · rw [hacc]
      exact haccept

/-- What a close does: nothing, a mark, or a mark and the node out of the maps. -/
theorem Wired.close (h : Wired s) (bridge : Nat) : Wired (s.close bridge) := by
  unfold PilotTunnelManager.close
  cases hx : s.created[bridge]? with
  | none => exact h
  | some x =>
    obtain ⟨n, closed, onClosed⟩ := x
    cases closed with
    | true => exact h
    | false =>
      dsimp only
      by_cases hslot : s.getBridge n = some bridge
      · obtain ⟨kind, hcreated, hkind⟩ := h.registered n bridge hslot
        rw [hx] at hcreated
        cases hcreated
        dsimp only
        unfold handleClosed
        have hslot' : ({ s with created := s.created.set bridge ⟨n, true, some kind⟩ } :
            PilotTunnelManager).getBridge n = some bridge := hslot
        rw [if_pos hslot']
        cases kind with
        | pilot =>
          refine h.gone hx hslot rfl rfl rfl rfl rfl fun m hm => ?_
          have hm' : (s.tunnelConfidential.erase n).lookup m = some true :=
            of_decide_eq_true hm
          by_cases hne : m = n
          · rw [hne, lookup_erase] at hm'
            cases hm'
          · rw [lookup_erase_ne hne] at hm'
            refine ⟨hne, ?_⟩
            unfold isTunnelConfidential
            rw [hm']
            rfl
        | proxy =>
          refine h.gone hx hslot rfl rfl rfl rfl rfl fun m hm => ⟨?_, hm⟩
          rintro rfl
          obtain ⟨_, _, hpilot, _⟩ := h.confidential m hm
          rw [hkind] at hpilot
          cases hpilot
      · have hmarked := h.marked hx hslot
        cases onClosed with
        | none => exact hmarked
        | some kind =>
          dsimp only
          unfold handleClosed
          have hout : ({ s with created := s.created.set bridge ⟨n, true, some kind⟩ } :
              PilotTunnelManager).getBridge n ≠ some bridge := hslot
          rw [if_neg hout]
          exact hmarked

/-- A close leaves no open bridge, and keeps what is accepted and awaited. -/
theorem close_frame (s : PilotTunnelManager) (bridge : Nat) :
    (s.close bridge).awaiting = s.awaiting ∧ (s.close bridge).accepted = s.accepted ∧
      (s.close bridge).created.length = s.created.length ∧
      ∀ x, (s.close bridge).created[bridge]? = some x → x.closed = true := by
  unfold close
  cases hx : s.created[bridge]? with
  | none =>
    refine ⟨rfl, rfl, rfl, fun x hx' => ?_⟩
    rw [hx] at hx'
    cases hx'
  | some y =>
    obtain ⟨n, closed, onClosed⟩ := y
    have hlt : bridge < s.created.length := (List.getElem?_eq_some_iff.mp hx).1
    cases closed with
    | true =>
      refine ⟨rfl, rfl, rfl, fun x hx' => ?_⟩
      rw [show (s.created[bridge]? = some x) from hx'] at hx
      cases hx
      rfl
    | false =>
      have hmark : ∀ x, (s.created.set bridge ⟨n, true, onClosed⟩)[bridge]? = some x →
          x.closed = true := by
        intro x hx'
        rw [getElem?_set_self hlt] at hx'
        cases hx'
        rfl
      dsimp only
      rw [if_neg Bool.false_ne_true]
      cases onClosed with
      | none => exact ⟨rfl, rfl, length_set, hmark⟩
      | some kind =>
        dsimp only
        unfold handleClosed
        split
        · cases kind with
          | pilot => exact ⟨rfl, rfl, length_set, hmark⟩
          | proxy => exact ⟨rfl, rfl, length_set, hmark⟩
        · exact ⟨rfl, rfl, length_set, hmark⟩

/-- A close empties a node's slot or leaves it. -/
theorem getBridge_close (s : PilotTunnelManager) (bridge : Nat) (n : Int) :
    (s.close bridge).getBridge n = s.getBridge n ∨ (s.close bridge).getBridge n = none := by
  have hrelease : ∀ m, (s.release m).getBridge n = s.getBridge n ∨
      (s.release m).getBridge n = none := by
    intro m
    by_cases hn : n = m
    · rw [hn]
      exact .inr (getBridge_release s m)
    · exact .inl (getBridge_release_ne hn)
  unfold close
  cases s.created[bridge]? with
  | none => exact .inl rfl
  | some x =>
    dsimp only
    split
    · exact .inl rfl
    · cases x.onClosed with
      | none => exact .inl rfl
      | some kind =>
        dsimp only
        unfold handleClosed
        split
        · cases kind with
          | pilot => exact hrelease x.nodeId
          | proxy => exact hrelease x.nodeId
        · exact .inl rfl

/-- The node of a bridge that closes is free. -/
theorem Wired.free_of_close (h : Wired s) (hslot : s.getBridge nodeId = some bridge) :
    (s.close bridge).getBridge nodeId = none := by
  have hclosed := (close_frame s bridge).2.2.2
  cases hfree : (s.close bridge).getBridge nodeId with
  | none => rfl
  | some b =>
    obtain ⟨kind, hb, _⟩ := (h.close bridge).registered nodeId b hfree
    have hsame : b = bridge := by
      have hkeep := getBridge_close s bridge nodeId
      rcases hkeep with hkeep | hkeep
      · rw [hkeep] at hfree
        rw [hslot] at hfree
        exact (Option.some.inj hfree).symm
      · rw [hkeep] at hfree
        cases hfree
    rw [hsame] at hb
    have hfalse := hclosed _ hb
    cases hfalse

/-- Whether the maps answer a node's confidentiality alike. -/
theorem confidential_of_lookup {n : Int}
    (h : s'.tunnelConfidential.lookup n = s.tunnelConfidential.lookup n) :
    s'.isTunnelConfidential n = s.isTunnelConfidential n := by
  unfold isTunnelConfidential
  rw [h]

section

variable (h : Wired s)
include h

/-- A free node, taken out of the maps once more. -/
theorem Wired.releasePilot (hfree : s.getBridge nodeId = none) : Wired (s.releasePilot nodeId) := by
  have hslot : ∀ n b, (s.releasePilot nodeId).getBridge n = some b →
      n ≠ nodeId ∧ s.getBridge n = some b := by
    intro n b hb
    by_cases hn : n = nodeId
    · rw [hn] at hb
      have hnone : (s.releasePilot nodeId).getBridge nodeId = none := getBridge_release s nodeId
      rw [hnone] at hb
      cases hb
    · have hkeep : (s.releasePilot nodeId).getBridge n = s.getBridge n := getBridge_release_ne hn
      rw [hkeep] at hb
      exact ⟨hn, hb⟩
  have hkinds : ∀ n, n ≠ nodeId →
      (s.releasePilot nodeId).bridgeKinds.lookup n = s.bridgeKinds.lookup n := fun n hn =>
    lookup_erase_ne hn
  refine ⟨fun n b hb => ?_, fun b x hx hopen => ?_, h.waits, fun n b hb => ?_, h.accepts, ?_,
    fun n hn => ?_⟩
  · obtain ⟨hn, hb'⟩ := hslot n b hb
    obtain ⟨kind, hx, hkind⟩ := h.registered n b hb'
    exact ⟨kind, hx, (hkinds n hn).trans hkind⟩
  · refine (h.live b x hx hopen).imp_left fun hlive => ?_
    have hne : x.nodeId ≠ nodeId := by
      rintro heq
      rw [heq, hfree] at hlive
      cases hlive
    have hkeep : (s.releasePilot nodeId).getBridge x.nodeId = s.getBridge x.nodeId :=
      getBridge_release_ne hne
    rw [hkeep]
    exact hlive
  · exact h.idle n b (hslot n b hb).2
  · exact Nat.le_trans (size_erase_le s.bridges nodeId) h.limited
  · by_cases hne : n = nodeId
    · have hnone : (s.releasePilot nodeId).tunnelConfidential.lookup nodeId = none :=
        lookup_erase nodeId s.tunnelConfidential
      unfold isTunnelConfidential at hn
      rw [hne, hnone] at hn
      cases hn
    · have hsame : (s.releasePilot nodeId).isTunnelConfidential n = s.isTunnelConfidential n :=
        confidential_of_lookup (lookup_erase_ne hne)
      rw [hsame] at hn
      obtain ⟨b, hb, hpilot, haccept⟩ := h.confidential n hn
      have hkeep : (s.releasePilot nodeId).getBridge n = s.getBridge n := getBridge_release_ne hne
      exact ⟨b, hkeep.trans hb, (hkinds n hne).trans hpilot, haccept⟩

/-- A new bridge, whose start is awaited. -/
theorem Wired.create (nodeId : Int) (awaiting : Awaiting)
    (hcreated : s'.created = s.created ++ [⟨nodeId, false, awaiting.handler⟩])
    (hawaiting : s'.awaiting = s.awaiting ++ [(s.created.length, awaiting)])
    (hbridges : s'.bridges = s.bridges) (hkinds : s'.bridgeKinds = s.bridgeKinds)
    (hconfidential : s'.tunnelConfidential = s.tunnelConfidential)
    (hkept : s.accepted ⊆ s'.accepted)
    (hacc : ∀ c, awaiting = .registerTunnel c → (s.created.length, c) ∈ s'.accepted) :
    Wired s' := by
  have hold : ∀ (b : Nat) (x : PilotTunnelBridge), s.created[b]? = some x →
      s'.created[b]? = some x := by
    intro b x hx
    rw [hcreated, List.getElem?_append_left (List.getElem?_eq_some_iff.mp hx).1]
    exact hx
  have hnew : s'.created[s.created.length]? = some ⟨nodeId, false, awaiting.handler⟩ := by
    rw [hcreated]
    exact getElem?_concat_length
  have hslot : ∀ n, s'.getBridge n = s.getBridge n := by
    intro n
    unfold getBridge
    rw [hbridges]
  refine ⟨fun n b hb => ?_, fun b x hx hopen => ?_, fun b a ha => ?_, fun n b hb => ?_,
    fun b c hc => ?_, ?_, fun n hn => ?_⟩
  · rw [hslot] at hb
    obtain ⟨kind, hx, hkind⟩ := h.registered n b hb
    rw [hkinds]
    exact ⟨kind, hold b _ hx, hkind⟩
  · rw [hslot, hawaiting, map_append, mem_append]
    by_cases hb : b < s.created.length
    · rw [hcreated, getElem?_append_left hb] at hx
      exact (h.live b x hx hopen).imp_right .inl
    · have hlt : b < s'.created.length := (List.getElem?_eq_some_iff.mp hx).1
      rw [hcreated, length_append, length_singleton] at hlt
      have hat : b = s.created.length := by omega
      rw [hat]
      exact .inr (.inr mem_cons_self)
  · rw [hawaiting] at ha
    rcases mem_append.mp ha with hwait | hlast
    · obtain ⟨x, hx, hhandler⟩ := h.waits b a hwait
      exact ⟨x, hold b x hx, hhandler⟩
    · cases mem_singleton.mp hlast
      exact ⟨_, hnew, rfl⟩
  · rw [hslot] at hb
    rw [hawaiting, map_append, mem_append]
    rintro (hwait | hlast)
    · exact h.idle n b hb hwait
    · obtain ⟨kind, hx, _⟩ := h.registered n b hb
      have hlt := (List.getElem?_eq_some_iff.mp hx).1
      rw [map_singleton, mem_singleton] at hlast
      rw [hlast] at hlt
      exact absurd hlt (Nat.lt_irrefl _)
  · rw [hawaiting] at hc
    rcases mem_append.mp hc with hwait | hlast
    · exact hkept (h.accepts b c hwait)
    · cases mem_singleton.mp hlast
      exact hacc c rfl
  · have hlimited := h.limited
    unfold size at hlimited ⊢
    rw [hbridges]
    exact hlimited
  · have hsame : s'.isTunnelConfidential n = s.isTunnelConfidential n :=
      confidential_of_lookup (by rw [hconfidential])
    rw [hsame] at hn
    obtain ⟨b, hb, hpilot, haccept⟩ := h.confidential n hn
    rw [hkinds]
    exact ⟨b, (hslot n).trans hb, hpilot, hkept haccept⟩

theorem Wired.registerTunnel (nodeId : Int) (tunnelConfidential : Bool) :
    Wired (s.registerTunnel nodeId tunnelConfidential).1 := by
  have hfreed : Wired (s.closeReplaced nodeId) := by
    unfold closeReplaced
    cases hslot : s.getBridge nodeId with
    | none => exact h
    | some existing => exact (h.close existing).releasePilot (h.free_of_close hslot)
  unfold PilotTunnelManager.registerTunnel
  dsimp only
  split
  · exact hfreed
  · refine hfreed.create nodeId (.registerTunnel tunnelConfidential) rfl rfl rfl rfl rfl
      (subset_cons_self _ _) fun c hc => ?_
    cases hc
    exact mem_cons_self

theorem Wired.dial (nodeId : Int) : Wired (s.create nodeId none .dial) :=
  h.create nodeId .dial rfl rfl rfl rfl rfl (.refl _) fun _ hc => by cases hc

end

theorem resume_awaiting (s : PilotTunnelManager) (bridge b : Nat) :
    b ∈ (s.resume bridge).awaiting.map Prod.fst ↔ b ∈ s.awaiting.map Prod.fst ∧ b ≠ bridge := by
  rw [mem_map, mem_map]
  constructor
  · rintro ⟨a, ha, rfl⟩
    obtain ⟨hmem, hne⟩ := mem_filter.mp ha
    exact ⟨⟨a, hmem, rfl⟩, of_decide_eq_true hne⟩
  · rintro ⟨⟨a, ha, rfl⟩, hne⟩
    exact ⟨a, mem_filter.mpr ⟨ha, decide_eq_true hne⟩, rfl⟩

/-- The start of a bridge that has closed is no longer awaited. -/
theorem Wired.resume (h : Wired s)
    (hclosed : ∀ x, s.created[bridge]? = some x → x.closed = true) : Wired (s.resume bridge) where
  registered := h.registered
  live := fun b x hx hopen => by
    refine (h.live b x hx hopen).imp_right fun hwait => (resume_awaiting s bridge b).mpr ⟨hwait, ?_⟩
    rintro rfl
    rw [hclosed x hx] at hopen
    cases hopen
  waits := fun b a ha => h.waits b a (mem_filter.mp ha).1
  idle := fun n b hb hwait => h.idle n b hb ((resume_awaiting s bridge b).mp hwait).1
  accepts := fun b c hc => h.accepts b c (mem_filter.mp hc).1
  limited := h.limited
  confidential := h.confidential

theorem handleClosed_resume (s : PilotTunnelManager) (bridge b : Nat) (n : Int)
    (kind : BridgeKind) :
    (s.resume b).handleClosed bridge n kind = (s.handleClosed bridge n kind).resume b := by
  have hsame : (s.resume b).getBridge n = s.getBridge n := rfl
  unfold handleClosed
  rw [hsame]
  split
  · cases kind with
    | pilot | proxy => rfl
  · rfl

/-- Closing and no longer awaiting a bridge, in either order. -/
theorem close_resume (s : PilotTunnelManager) (bridge b : Nat) :
    (s.resume b).close bridge = (s.close bridge).resume b := by
  unfold close
  have hcreated : (s.resume b).created = s.created := rfl
  rw [hcreated]
  cases s.created[bridge]? with
  | none => rfl
  | some x =>
    obtain ⟨n, closed, onClosed⟩ := x
    cases closed with
    | true => rfl
    | false =>
      cases onClosed with
      | none => rfl
      | some kind =>
        exact handleClosed_resume
          { s with created := s.created.set bridge ⟨n, true, some kind⟩ } bridge b n kind

/-- A dialed bridge is closed, and its start no longer awaited. -/
theorem Wired.resumeClose (h : Wired s) (bridge : Nat) :
    Wired ((s.resume bridge).close bridge) := by
  rw [close_resume]
  exact (h.close bridge).resume (close_frame s bridge).2.2.2

/-- An open bridge is put into a free slot. -/
theorem Wired.installed (h : Wired s) {kind : BridgeKind}
    (hopen : ∃ onClosed, s.created[bridge]? = some ⟨nodeId, false, onClosed⟩)
    (hfree : s.getBridge nodeId = none) (hroom : s.size < pilotTunnelHardLimit)
    (hbridges : s'.bridges = s.bridges.insert nodeId bridge)
    (hkinds : s'.bridgeKinds = s.bridgeKinds.insert nodeId kind) (hcreated : ∀ b, s'.created[b]? =
      if bridge = b then some ⟨nodeId, false, some kind⟩ else s.created[b]?)
    (hawaiting : s'.awaiting = s.awaiting.filter fun a => a.1 ≠ bridge)
    (hacc : s'.accepted = s.accepted)
    (hothers : ∀ n, n ≠ nodeId → s'.isTunnelConfidential n = s.isTunnelConfidential n)
    (hown : s'.isTunnelConfidential nodeId = true → kind = .pilot ∧ (bridge, true) ∈ s.accepted) :
    Wired s' := by
  have hslot : s'.getBridge nodeId = some bridge := by
    unfold getBridge
    rw [hbridges]
    exact lookup_insert _
  have hslots : ∀ n, n ≠ nodeId → s'.getBridge n = s.getBridge n := by
    intro n hn
    unfold getBridge
    rw [hbridges]
    exact lookup_insert_ne hn
  have hkind : s'.bridgeKinds.lookup nodeId = some kind := by
    rw [hkinds]
    exact lookup_insert _
  have hkept : ∀ n, n ≠ nodeId → s'.bridgeKinds.lookup n = s.bridgeKinds.lookup n := by
    intro n hn
    rw [hkinds]
    exact lookup_insert_ne hn
  have hwait : ∀ b, b ∈ s'.awaiting.map Prod.fst ↔ b ∈ s.awaiting.map Prod.fst ∧ b ≠ bridge := by
    intro b
    rw [hawaiting]
    exact resume_awaiting s bridge b
  have hnode : ∀ n, s.getBridge n ≠ some bridge := by
    intro n hn
    obtain ⟨onClosed, hx⟩ := hopen
    obtain ⟨kind', hx', _⟩ := h.registered n bridge hn
    rw [hx] at hx'
    cases hx'
    rw [hfree] at hn
    cases hn
  refine ⟨fun n b hb => ?_, fun b x hx hlive => ?_, fun b a ha => ?_, fun n b hb => ?_,
    fun b c hc => ?_, ?_, fun n hn => ?_⟩
  · by_cases hn : n = nodeId
    · rw [hn, hslot] at hb
      cases hb
      rw [hn, hcreated, if_pos rfl]
      exact ⟨kind, rfl, hkind⟩
    · rw [hslots n hn] at hb
      obtain ⟨kind', hx, hkind'⟩ := h.registered n b hb
      have hne : bridge ≠ b := by
        rintro rfl
        exact hnode n hb
      rw [hcreated, if_neg hne]
      exact ⟨kind', hx, (hkept n hn).trans hkind'⟩
  · rw [hcreated] at hx
    by_cases hb : bridge = b
    · rw [if_pos hb] at hx
      cases hx
      rw [← hb]
      exact .inl hslot
    · rw [if_neg hb] at hx
      rcases h.live b x hx hlive with hreg | hawait
      · have hn : x.nodeId ≠ nodeId := by
          intro heq
          rw [heq, hfree] at hreg
          cases hreg
        exact .inl ((hslots x.nodeId hn).trans hreg)
      · exact .inr ((hwait b).mpr ⟨hawait, Ne.symm hb⟩)
  · rw [hawaiting] at ha
    obtain ⟨hmem, hne⟩ := mem_filter.mp ha
    have hne' : bridge ≠ b := Ne.symm (of_decide_eq_true hne)
    rw [hcreated, if_neg hne']
    exact h.waits b a hmem
  · intro hin
    obtain ⟨hin', hne⟩ := (hwait b).mp hin
    by_cases hn : n = nodeId
    · rw [hn, hslot] at hb
      exact hne (Option.some.inj hb).symm
    · rw [hslots n hn] at hb
      exact h.idle n b hb hin'
  · rw [hawaiting] at hc
    rw [hacc]
    exact h.accepts b c (mem_filter.mp hc).1
  · have hle := size_insert_le s.bridges nodeId bridge
    unfold size at hroom ⊢
    rw [hbridges]
    omega
  · rw [hacc]
    by_cases hne : n = nodeId
    · rw [hne] at hn ⊢
      obtain ⟨hpilot, haccept⟩ := hown hn
      exact ⟨bridge, hslot, hkind.trans (congrArg some hpilot), haccept⟩
    · rw [hothers n hne] at hn
      obtain ⟨b, hb, hpilot, haccept⟩ := h.confidential n hn
      exact ⟨b, (hslots n hne).trans hb, (hkept n hne).trans hpilot, haccept⟩

/-- A call that finds nothing changed behind its back: a bridge that is registered after its
start is open, and where a pilot tunnel's start ends, its node is free and the limit is not
reached; a start fails for a pilot tunnel that has closed; and no confidential tunnel is
force-closed. -/
def Orderly (s : PilotTunnelManager) : TunnelCall → Prop
  | .bridgeStarted bridge ok stopped =>
    match s.awaiting.find? fun a => a.1 = bridge, s.created[bridge]? with
    | some (_, .registerTunnel _), some x =>
      if ok then x.closed = false ∧ s.getBridge x.nodeId = none ∧ s.size < pilotTunnelHardLimit
      else x.closed = true
    | some (_, .dial), some x =>
      ok = true → stopped = false → s.getBridge x.nodeId = none →
        s.size < pilotTunnelHardLimit → x.closed = false
    | _, _ => True
  | .closeTunnel nodeId => s.isTunnelConfidential nodeId = false
  | _ => True

section

variable (h : Wired s)
include h

theorem Wired.tunnelStarted {x : PilotTunnelBridge} {tunnelConfidential : Bool}
    (hawait : (bridge, .registerTunnel tunnelConfidential) ∈ s.awaiting)
    (hx : s.created[bridge]? = some x) (hopen : x.closed = false)
    (hfree : s.getBridge x.nodeId = none) (hroom : s.size < pilotTunnelHardLimit) :
    Wired ((s.resume bridge).tunnelStarted x.nodeId bridge tunnelConfidential) := by
  obtain ⟨n, closed, onClosed⟩ := x
  obtain ⟨y, hy, hhandler⟩ := h.waits bridge _ hawait
  rw [hx] at hy
  cases hy
  dsimp only at hopen hhandler
  rw [hopen, hhandler] at hx
  have hsame : ∀ b, s.created[b]? = if bridge = b then
      some ⟨n, false, some BridgeKind.pilot⟩ else s.created[b]? := by
    intro b
    by_cases hb : bridge = b
    · rw [if_pos hb, ← hb]
      exact hx
    · rw [if_neg hb]
  refine h.installed ⟨_, hx⟩ hfree hroom rfl rfl hsame rfl rfl (fun m hm => ?_) fun hown => ?_
  · exact confidential_of_lookup (lookup_insert_ne hm)
  · have hvalue : (s.tunnelConfidential.insert n tunnelConfidential).lookup n = some true :=
      of_decide_eq_true hown
    rw [lookup_insert] at hvalue
    rw [Option.some.inj hvalue] at hawait
    exact ⟨rfl, h.accepts bridge true hawait⟩

theorem Wired.dialStarted {x : PilotTunnelBridge} {stopped : Bool}
    (hx : s.created[bridge]? = some x)
    (hopen : stopped = false → s.getBridge x.nodeId = none → s.size < pilotTunnelHardLimit →
      x.closed = false) : Wired ((s.resume bridge).dialStarted x.nodeId bridge stopped) := by
  unfold PilotTunnelManager.dialStarted
  cases stopped with
  | true => exact h.resumeClose bridge
  | false =>
    unfold registerProxyBridge
    have hslot : (s.resume bridge).getBridge x.nodeId = s.getBridge x.nodeId := rfl
    have hsize : (s.resume bridge).size = s.size := rfl
    rw [hslot, hsize]
    cases hfree : s.getBridge x.nodeId with
    | some b => exact h.resumeClose bridge
    | none =>
      by_cases hroom : s.size ≥ pilotTunnelHardLimit
      · rw [if_pos hroom]
        exact h.resumeClose bridge
      · rw [if_neg hroom]
        obtain ⟨n, closed, onClosed⟩ := x
        have hlt : s.size < pilotTunnelHardLimit := Nat.lt_of_not_le hroom
        have hnot : closed = false := hopen rfl hfree hlt
        rw [hnot] at hx
        have hsame : ∀ b, (s.created.modify bridge fun y =>
            { y with onClosed := some BridgeKind.proxy })[b]? = if bridge = b then
              some ⟨n, false, some BridgeKind.proxy⟩ else s.created[b]? := by
          intro b
          rw [getElem?_modify]
          by_cases hb : bridge = b
          · rw [if_pos hb, ← hb, hx]
            simp
          · simp [hb]
        refine h.installed ⟨_, hx⟩ hfree hlt rfl rfl hsame rfl rfl (fun m _ => rfl) fun hown => ?_
        obtain ⟨b, hb, _⟩ := h.confidential n hown
        rw [hfree] at hb
        cases hb

theorem Wired.bridgeStarted {ok stopped : Bool}
    (horderly : Orderly s (.bridgeStarted bridge ok stopped)) :
    Wired (s.bridgeStarted bridge ok stopped) := by
  unfold PilotTunnelManager.bridgeStarted
  unfold Orderly at horderly
  dsimp only at horderly
  cases hfind : s.awaiting.find? fun a => a.1 = bridge with
  | none => exact h
  | some a =>
    obtain ⟨b, awaiting⟩ := a
    have hid : b = bridge := by simpa using find?_some hfind
    have hmem : (bridge, awaiting) ∈ s.awaiting := hid ▸ mem_of_find?_eq_some hfind
    rw [hfind] at horderly
    cases hx : s.created[bridge]? with
    | none =>
      cases awaiting with
      | registerTunnel => exact h
      | dial => exact h
    | some x =>
      rw [hx] at horderly
      cases awaiting with
      | registerTunnel tunnelConfidential =>
        cases ok with
        | true => exact h.tunnelStarted hmem hx horderly.1 horderly.2.1 horderly.2.2
        | false =>
          refine h.resume fun y hy => ?_
          rw [hx] at hy
          cases hy
          exact horderly
      | dial =>
        cases ok with
        | true => exact h.dialStarted hx (horderly rfl)
        | false => exact h.resumeClose bridge

theorem Wired.closeTunnel (hplain : s.isTunnelConfidential nodeId = false) :
    Wired (s.closeTunnel nodeId) := by
  unfold PilotTunnelManager.closeTunnel
  cases hslot : s.getBridge nodeId with
  | none => exact h
  | some bridge =>
    obtain ⟨kind, hx, hkind⟩ := h.registered nodeId bridge hslot
    dsimp only
    rw [hkind]
    have hothers : ∀ n, s.isTunnelConfidential n = true →
        n ≠ nodeId ∧ s.isTunnelConfidential n = true := by
      rintro n hn
      refine ⟨?_, hn⟩
      rintro rfl
      rw [hplain] at hn
      cases hn
    have hclosed : ∀ event, ((s.release nodeId).emit event).close bridge =
        { (s.release nodeId).emit event with
          created := s.created.set bridge ⟨nodeId, true, some kind⟩ } := by
      intro event
      have hfree : (s.release nodeId).getBridge nodeId = none := getBridge_release s nodeId
      have hcreated : ((s.release nodeId).emit event).created[bridge]? =
          some ⟨nodeId, false, some kind⟩ := hx
      unfold PilotTunnelManager.close
      rw [hcreated]
      dsimp only
      rw [if_neg Bool.false_ne_true]
      refine if_neg fun heq => ?_
      have heq' : (s.release nodeId).getBridge nodeId = some bridge := heq
      rw [hfree] at heq'
      cases heq'
    cases kind with
    | pilot =>
      rw [hclosed]
      exact h.gone hx hslot rfl rfl rfl rfl rfl hothers
    | proxy =>
      rw [hclosed]
      exact h.gone hx hslot rfl rfl rfl rfl rfl hothers

/-- Every orderly call keeps the maps wired. -/
theorem Wired.step {call : TunnelCall} (horderly : Orderly s call) : Wired (s.step call) := by
  cases call with
  | registerTunnel nodeId tunnelConfidential => exact h.registerTunnel nodeId tunnelConfidential
  | dial nodeId => exact h.dial nodeId
  | bridgeStarted bridge ok stopped => exact h.bridgeStarted horderly
  | closeTunnel nodeId => exact h.closeTunnel horderly
  | bridgeClosed bridge => exact h.close bridge

end

/-- Over every run of orderly calls the registry keeps its limit, calls confidential only what was
accepted so, and describes the tunnels whenever no start is awaited. -/
theorem registry_describes {calls : List TunnelCall}
    (horderly : Runs.Along step Orderly init calls) :
    (runCalls init calls).size ≤ pilotTunnelHardLimit ∧
      (∀ n, (runCalls init calls).isTunnelConfidential n = true →
        ∃ b, (runCalls init calls).getBridge n = some b ∧
          (runCalls init calls).bridgeKinds.lookup n = some .pilot ∧
          (b, true) ∈ (runCalls init calls).accepted) ∧
      ((runCalls init calls).awaiting = [] → Describes (runCalls init calls)) := by
  have hwired : Wired (runCalls init calls) :=
    Runs.run_along (P := Wired) (fun _ _ h hcall => h.step hcall) .init horderly
  exact ⟨hwired.limited, hwired.confidential, hwired.describes⟩

/-- A tunnel that reconnects. -/
def reconnect : List TunnelCall :=
  [.registerTunnel 1 true, .bridgeStarted 0 true false, .registerTunnel 1 true,
    .bridgeStarted 1 true false]

theorem reconnect_describes : Describes (runCalls init reconnect) := by
  refine (@registry_describes reconnect ⟨trivial, ?_, trivial, ?_, trivial⟩).2.2 (by decide)
  · exact ⟨rfl, rfl, by decide⟩
  · exact ⟨rfl, rfl, by decide⟩

/-- A force-closed tunnel leaves its node confidential. -/
theorem closedTunnel_confidential :
    ¬ ∀ calls, (runCalls init calls).awaiting = [] →
      Describes (runCalls init calls) := by
  intro hclaim
  have hdescribes := hclaim [.registerTunnel 1 true, .bridgeStarted 0 true false, .closeTunnel 1]
    (by decide)
  obtain ⟨b, hb, _⟩ := hdescribes.confidential 1 (by decide)
  have hnone : (runCalls init
      [.registerTunnel 1 true, .bridgeStarted 0 true false, .closeTunnel 1]).getBridge 1 = none := by
    decide
  rw [hnone] at hb
  cases hb

end PilotTunnelManager

end Sencho.PilotTunnel
