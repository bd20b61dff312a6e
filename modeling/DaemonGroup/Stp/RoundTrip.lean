import DaemonGroup.Stp.Sent
import DaemonGroup.Stp.Roles

/-!
# DaemonGroup.Stp.RoundTrip

What a peer of the region reads in a frame (`stp_receive_setRcvdMsgs`) that a port of the CIST has sent
(`stp_transmit_txMstp`).

* `upTo_val` — the loop over the records changes each port of the peer by the records for it.
* `standard_cist`, `cisco_cist` — the message of the CIST is what the sender has, in both formats.
* `standard_heard`, `cisco_heard` — what an MST port of the peer hears in a record.
* `round_trip_iff` — for which senders the peer is told what they have.
-/

namespace DaemonGroup
namespace Stp

open Lib

/-! ## The loop over the records -/

section
variable (m : Frame) (cisco : Bool) (t : UInt8)

/-- What a port has once the record `i` is taken for its message. -/
def heard (i : Nat) (r : Port) : Port := (setMstMsg m i cisco t (m.mstid cisco i) r).val r

/-- What the port of the instance `v` has after `k` rounds. -/
def credited (v : UInt16) : Nat → Port → Port
  | 0, r => r
  | k + 1, r =>
    let r := credited v k r
    if m.mstid cisco k = v then heard m cisco t k r else r

variable {m cisco t} {v : UInt16} {i k : Nat} {r : Port} {c : PortChain} {l : List Port}

@[simp] theorem heard_vlan_id : (heard m cisco t i r).vlan_id = r.vlan_id := by
  cases cisco <;> rfl

@[simp] theorem credited_vlan_id : (credited m cisco t v k r).vlan_id = r.vlan_id := by
  induction k with
  | zero => rfl
  | succ k ih =>
    unfold credited
    split
    · exact heard_vlan_id.trans ih
    · exact ih

theorem map_absent {f : Port → Port} (h : l.find? (·.vlan_id = v) = none) :
    l.map (fun r => if r.vlan_id = v then f r else r) = l := by
  have hall := List.find?_eq_none.mp h
  have hsame : l.map (fun r => if r.vlan_id = v then f r else r) = l.map id :=
    List.map_congr_left fun r hr => if_neg (by simpa using hall r hr)
  rw [hsame, List.map_id]

/-- The port that is found is the only one that is changed. -/
theorem replaceF_found {p : Port} {f : Port → Port → Port} (hids : (l.map (·.vlan_id)).Nodup)
    (h : l.find? (·.vlan_id = v) = some p) :
    (l.replaceF fun r => if r.vlan_id = v then some (f p r) else none) =
      l.map fun r => if r.vlan_id = v then f r r else r := by
  induction l with
  | nil => cases h
  | cons r l ih =>
    obtain ⟨hr, hl⟩ := List.nodup_cons.mp hids
    by_cases hv : r.vlan_id = v
    · have hp : r = p := by simpa [hv] using h
      have hrest : l.find? (·.vlan_id = v) = none := by
        refine List.find?_eq_none.mpr fun q hq => ?_
        have hne : q.vlan_id ≠ r.vlan_id := fun he => hr (List.mem_map.mpr ⟨q, hq, he⟩)
        simpa [← hv] using hne
      have hcons : (r :: l).replaceF (fun r => if r.vlan_id = v then some (f p r) else none) =
          f p r :: l := List.replaceF_cons_of_some _ (if_pos hv)
      rw [hcons, List.map_cons, if_pos hv, map_absent hrest, hp]
    · have hrest : l.find? (·.vlan_id = v) = some p := by simpa [hv] using h
      have hcons : (r :: l).replaceF (fun r => if r.vlan_id = v then some (f p r) else none) =
          r :: l.replaceF fun r => if r.vlan_id = v then some (f p r) else none :=
        List.replaceF_cons_of_none _ (if_neg hv)
      rw [hcons, List.map_cons, if_neg hv, ih hl hrest]

/-- The instances of a chain are distinct, none of the MST ports is one of the CIST, and the chain is
found. -/
structure PortChain.Linked (c : PortChain) : Prop where
  indexed : c.indexed = true
  ids : (c.msts.map (·.vlan_id)).Nodup
  msti : ∀ r ∈ c.msts, r.vlan_id ≠ 0

/-- A round that finds no port. -/
theorem setMstMsgs_none (h : c.find (m.mstid cisco i) = none) :
    (setMstMsgs m cisco t i c).val = c := by
  cases cisco
  · have hid : ((Bpdu.msti_region_root_id.shift (Bpdu.MCfgMsg i)).head.ntohs m).val &&& 0x0fff =
        m.mstid false i := rfl
    simp only [setMstMsgs, Bool.false_eq_true, if_false, Reads.bind_val, hid]
    rw [h]
    rfl
  · have hid : ((CiscoBpdu.msti_region_root_id.shift (CiscoBpdu.MCfgMsg i)).head.ntohs m).val &&&
        0x0fff = m.mstid true i := rfl
    simp only [setMstMsgs, if_true, Reads.bind_val, hid]
    rw [h]
    rfl

/-- A round that finds a port. -/
theorem setMstMsgs_some {p : Port} (h : c.find (m.mstid cisco i) = some p) :
    (setMstMsgs m cisco t i c).val =
      c.modify (m.mstid cisco i) (setMstMsg m i cisco t (m.mstid cisco i) p).val := by
  cases cisco
  · have hid : ((Bpdu.msti_region_root_id.shift (Bpdu.MCfgMsg i)).head.ntohs m).val &&& 0x0fff =
        m.mstid false i := rfl
    simp only [setMstMsgs, Bool.false_eq_true, if_false, Reads.bind_val, hid]
    rw [h]
    rfl
  · have hid : ((CiscoBpdu.msti_region_root_id.shift (CiscoBpdu.MCfgMsg i)).head.ntohs m).val &&&
        0x0fff = m.mstid true i := rfl
    simp only [setMstMsgs, if_true, Reads.bind_val, hid]
    rw [h]
    rfl

theorem setMstMsgs_val (hc : c.Linked) : (setMstMsgs m cisco t i c).val = { c with
    cist := if m.mstid cisco i = 0 then heard m cisco t i c.cist else c.cist
    msts := c.msts.map fun r => if r.vlan_id = m.mstid cisco i then heard m cisco t i r else r } := by
  have hfind : c.find (m.mstid cisco i) = if m.mstid cisco i = 0 then some c.cist
      else c.msts.find? (·.vlan_id = m.mstid cisco i) := by
    rw [PortChain.find, if_neg (not_not.mpr hc.indexed)]
  by_cases hzero : m.mstid cisco i = 0
  · rw [if_pos hzero] at hfind
    have hmsts : c.msts.map (fun r => if r.vlan_id = m.mstid cisco i then heard m cisco t i r
        else r) = c.msts := by
      refine map_absent (List.find?_eq_none.mpr fun r hr => ?_)
      rw [hzero]
      simpa using hc.msti r hr
    rw [setMstMsgs_some hfind, PortChain.modify, if_pos hzero, if_pos hzero, hmsts]
    rfl
  · rw [if_neg hzero] at hfind
    rw [if_neg hzero]
    cases hp : c.msts.find? (·.vlan_id = m.mstid cisco i) with
    | none => rw [setMstMsgs_none (hfind.trans hp), map_absent hp]
    | some p =>
      have hrep := @replaceF_found _ _ p
        (fun p r => (setMstMsg m i cisco t (m.mstid cisco i) p).val r) hc.ids hp
      rw [setMstMsgs_some (hfind.trans hp), PortChain.modify, if_neg hzero, hrep]
      rfl

theorem upTo_val (hc : c.Linked) : (Reads.upTo (setMstMsgs m cisco t) k c).val = { c with
    cist := credited m cisco t 0 k c.cist
    msts := c.msts.map fun r => credited m cisco t r.vlan_id k r } := by
  induction k with
  | zero => simp [Reads.upTo, credited]
  | succ k ih =>
    have hlinked : (Reads.upTo (setMstMsgs m cisco t) k c).val.Linked := by
      rw [ih]
      refine ⟨hc.indexed, ?_, ?_⟩
      · simpa [Function.comp_def] using hc.ids
      · intro r hr
        obtain ⟨q, hq, rfl⟩ := List.mem_map.mp hr
        rw [credited_vlan_id]
        exact hc.msti q hq
    rw [Reads.upTo, Reads.bind_val, setMstMsgs_val hlinked, ih]
    simp only [List.map_map, credited]
    congr 1
    refine List.map_congr_left fun r _ => ?_
    simp only [Function.comp_apply, credited_vlan_id]
    by_cases hv : m.mstid cisco k = r.vlan_id
    · rw [if_pos hv.symm, if_pos hv]
    · rw [if_neg (Ne.symm hv), if_neg hv]

/-- A port that no record is for keeps what it has. -/
theorem credited_none (h : ∀ j < k, m.mstid cisco j ≠ v) : credited m cisco t v k r = r := by
  induction k with
  | zero => rfl
  | succ k ih =>
    rw [credited, ih fun j hj => h j (by omega), if_neg (h k (by omega))]

/-- A port that one record is for has its message. -/
theorem credited_one {j : Nat} (hj : j < k) (hv : m.mstid cisco j = v)
    (huniq : ∀ j' < k, m.mstid cisco j' = v → j' = j) :
    credited m cisco t v k r = heard m cisco t j r := by
  induction k with
  | zero => omega
  | succ k ih =>
    rw [credited]
    by_cases hk : j = k
    · subst hk
      rw [if_pos hv, credited_none fun j' hj' hv' => ?_]
      have := huniq j' (by omega) hv'
      omega
    · have hother : m.mstid cisco k ≠ v := fun hv' => hk (huniq k (by omega) hv').symm
      rw [if_neg hother]
      exact ih (by omega) fun j' hj' => huniq j' (by omega)

/-- What all the messages for a port have, it has once there is one. -/
theorem credited_some {P : Port → Prop} {j : Nat} (hj : j < k) (hv : m.mstid cisco j = v)
    (hall : ∀ j' < k, m.mstid cisco j' = v → ∀ r, P (heard m cisco t j' r)) :
    P (credited m cisco t v k r) := by
  induction k with
  | zero => omega
  | succ k ih =>
    rw [credited]
    split
    · next hk => exact hall k (by omega) hk _
    · next hk =>
      have hne : j ≠ k := by
        rintro rfl
        exact hk hv
      exact ih (by omega) fun j' hj' => hall j' (by omega)

end

/-! ## The message of the CIST -/

/-- The vector that a port tells, for the port that hears it. -/
def TxPort.toldPrio (p : TxPort) (bridge_port : UInt16) : PrioVector :=
  { p.portPrio with design_bridge := p.BrId, design_port := p.port_id, bridge_port := bridge_port }

/-- The times that a port tells: the seconds fill one octet. -/
def TxPort.toldTimes (p : TxPort) : TimeValues :=
  { MessageAge := p.portTimes.MessageAge <<< 8 >>> 8
    MaxAge := p.portTimes.MaxAge <<< 8 >>> 8
    ForwardDelay := p.portTimes.ForwardDelay <<< 8 >>> 8
    HelloTime := p.portTimes.HelloTime <<< 8 >>> 8
    RemainingHops := p.portTimes.RemainingHops }

section
variable {m : Frame} {b : Transmitter} {digest : OctetArray 16} {p : Port} {v : TimeValues}

theorem timesGet_told {t : TimeValues}
    (hage : Bpdu.message_age.octets m = beShort (t.MessageAge <<< 8))
    (hmax : Bpdu.max_age.octets m = beShort (t.MaxAge <<< 8))
    (hhello : Bpdu.hello_time.octets m = beShort (t.HelloTime <<< 8))
    (hdelay : Bpdu.forward_delay.octets m = beShort (t.ForwardDelay <<< 8)) :
    (stpTimesGet m v).val = { v with
      MessageAge := t.MessageAge <<< 8 >>> 8
      MaxAge := t.MaxAge <<< 8 >>> 8
      ForwardDelay := t.ForwardDelay <<< 8 >>> 8
      HelloTime := t.HelloTime <<< 8 >>> 8 } := by
  simp only [stpTimesGet, Reads.bind_val, Reads.pure_val, ntohs_of_octets hage,
    ntohs_of_octets hmax, ntohs_of_octets hhello, ntohs_of_octets hdelay]

theorem standard_cist (h : Holds m b.standardStores) (hp : p.rcvdInternal = true) :
    (stpReceiveSetRcvdMsgs.cistMsg m BPDU_MSTP p).val = { p with
      msgPrio := b.cist.toldPrio p.port_id
      msgTimes := b.cist.toldTimes } := by
  have hroot := bridgeId_of_octets rfl (h.at 1 rfl length_octets_bridgeId)
  have hcost := ntohl_of_octets (h.at 2 rfl rfl)
  have hregion := bridgeId_of_octets rfl (h.at 3 rfl length_octets_bridgeId)
  have hport := ntohs_of_octets (h.at 4 rfl rfl)
  have htimes := @timesGet_told m p.msgTimes b.cist.portTimes (h.at 5 rfl rfl) (h.at 6 rfl rfl)
    (h.at 7 rfl rfl) (h.at 8 rfl rfl)
  have hbridge := bridgeId_of_octets rfl (h.at 10 rfl length_octets_bridgeId)
  have hinner := ntohl_of_octets (h.at 11 rfl rfl)
  have hhops := byte_of_octets (h.at 12 rfl rfl)
  simp only [stpReceiveSetRcvdMsgs.cistMsg, Reads.bind_val, Reads.pure_val, if_true, hp, and_self,
    hroot, hcost, hregion, hport, htimes, hbridge, hinner, hhops]
  rfl

theorem cisco_cist (h : Holds m (b.ciscoStores digest)) (hp : p.rcvdInternal = true) :
    (stpReceiveSetRcvdMsgsCisco.cistMsg m BPDU_MSTP p).val = { p with
      digest := b.ciscoDigest digest
      msgPrio := b.cist.toldPrio p.port_id
      msgTimes := b.cist.toldTimes } := by
  have hroot := bridgeId_of_octets rfl (h.at 1 rfl length_octets_bridgeId)
  have hcost := ntohl_of_octets (h.at 2 rfl rfl)
  have hbridge := bridgeId_of_octets rfl (h.at 3 rfl length_octets_bridgeId)
  have hport := ntohs_of_octets (h.at 4 rfl rfl)
  have htimes := @timesGet_told m p.msgTimes b.cist.portTimes (h.at 5 rfl rfl) (h.at 6 rfl rfl)
    (h.at 7 rfl rfl) (h.at 8 rfl rfl)
  have hdigest : CiscoBpdu.ConfigurationDigest.octets m = b.ciscoDigest digest :=
    h.at 11 rfl length_ciscoDigest
  have hregion := bridgeId_of_octets rfl (h.at 12 rfl length_octets_bridgeId)
  have hinner := ntohl_of_octets (h.at 13 rfl rfl)
  have hhops := byte_of_octets (h.at 14 rfl rfl)
  have hload : (CiscoBpdu.ConfigurationDigest.load m).val = b.ciscoDigest digest := hdigest
  simp only [stpReceiveSetRcvdMsgsCisco.cistMsg, Reads.bind_val, Reads.pure_val, if_true, hp,
    and_self, hroot, hcost, hbridge, hport, htimes, hload, hregion, hinner, hhops]
  rfl

end

/-! ## The records -/

/-- What a port hears in a record of the standard format: the identifiers of the bridge and of the
port are put together from the upper four bits and what the message of the CIST tells. -/
def TxPort.heardStandard (q cist : TxPort) (t : UInt8) (r : Port) : Port :=
  { r with
    rcvdMsg := true
    msgBpduType := t
    msgPrio := { r.msgPrio with
      region_root_bridge := q.portPrio.region_root_bridge
      region_root_path_cost := q.portPrio.region_root_path_cost
      design_bridge := { cist.BrId with
        prio := (q.BrId.prio &&& 0xf000) + (q.portPrio.region_root_bridge.prio &&& 0x0fff) }
      design_port := (cist.port_id &&& 0x0fff) + (q.port_id &&& 0xf000)
      bridge_port := r.port_id }
    msgFlags := q.mstFlags
    msgTimes :=
      { MessageAge := 0, MaxAge := 0, ForwardDelay := 0, HelloTime := 0
        RemainingHops := q.portTimes.RemainingHops } }

section
variable {m : Frame} {b : Transmitter} {digest : OctetArray 16} {q : TxPort} {r : Port} {i : Nat}
  {t : UInt8}

theorem Holds.standardRecord (h : Holds m b.standardStores) (hi : b.nextMst[i]? = some q) :
    Holds m (stpVectorSetMstVector i q) := by
  intro w hw
  rw [← Nat.zero_add i] at hw
  exact h w (List.mem_append_left _ (List.mem_append_right _ (each_mem hi hw)))

theorem Holds.ciscoRecord (h : Holds m (b.ciscoStores digest)) (hi : b.nextMst[i]? = some q) :
    Holds m (stpVectorCiscoSetMstVector i q) := by
  intro w hw
  rw [← Nat.zero_add i] at hw
  exact h w (List.mem_append_left _ (List.mem_append_right _ (each_mem hi hw)))

theorem prio_of_octets {f : Member} {x : BridgeId} (hf : f.size = 8) (h : f.octets m = x.octets) :
    (f.head.ntohs m).val = x.prio :=
  congrArg BridgeId.prio (bridgeId_of_octets hf h)

theorem standard_mstid (h : Holds m b.standardStores) (hi : b.nextMst[i]? = some q) :
    m.mstid false i = q.portPrio.region_root_bridge.prio &&& 0x0fff := by
  have hprio := prio_of_octets rfl ((h.standardRecord hi).at 1 rfl length_octets_bridgeId)
  rw [ntohs_val] at hprio
  exact congrArg (· &&& (0x0fff : UInt16)) hprio

theorem cisco_mstid (h : Holds m (b.ciscoStores digest)) (hi : b.nextMst[i]? = some q) :
    m.mstid true i = q.portPrio.region_root_bridge.prio &&& 0x0fff := by
  have hprio := prio_of_octets rfl ((h.ciscoRecord hi).at 2 rfl length_octets_bridgeId)
  rw [ntohs_val] at hprio
  exact congrArg (· &&& (0x0fff : UInt16)) hprio

theorem standard_heard (h : Holds m b.standardStores) (hi : b.nextMst[i]? = some q) :
    heard m false t i r = q.heardStandard b.cist t r := by
  have hrec := h.standardRecord hi
  have hflags := byte_of_octets (hrec.at 0 rfl rfl)
  have hregion := bridgeId_of_octets rfl (hrec.at 1 rfl length_octets_bridgeId)
  have hcost := ntohl_of_octets (hrec.at 2 rfl rfl)
  have hbridgePrio := byte_of_octets (hrec.at 3 rfl rfl)
  have hportPrio := byte_of_octets (hrec.at 4 rfl rfl)
  have hhops := byte_of_octets (hrec.at 5 rfl rfl)
  have hport := ntohs_of_octets (h.at 4 rfl rfl)
  have hbridge := bridgeId_of_octets rfl (h.at 10 rfl length_octets_bridgeId)
  rw [heard, standard_mstid h hi]
  simp only [setMstMsg, stpVectorGetMstVector, stpVectorGetMstTimers, Bool.false_eq_true, if_false,
    Reads.bind_val, Reads.pure_val, hflags, hregion, hcost, hbridgePrio, hportPrio, hhops, hport,
    hbridge, nibble_back]
  rfl

/-- What a port hears in a record of the other format: the instance is added to a priority that has
it already, the port identifier is the octet of the standard format, and the hops are read where the
standard format has them. -/
theorem cisco_heard (h : Holds m (b.ciscoStores digest)) (hi : b.nextMst[i]? = some q) :
    heard m true t i r = { r with
      rcvdMsg := true
      msgBpduType := t
      msgPrio := { r.msgPrio with
        region_root_bridge := q.portPrio.region_root_bridge
        region_root_path_cost := q.portPrio.region_root_path_cost
        design_bridge := { q.BrId with
          prio := q.BrId.prio + (q.portPrio.region_root_bridge.prio &&& 0x0fff) }
        design_port := (q.port_id &&& 0xf000) >>> 8
        bridge_port := r.port_id }
      msgFlags := q.mstFlags
      msgTimes :=
        { MessageAge := 0, MaxAge := 0, ForwardDelay := 0, HelloTime := 0
          RemainingHops := m (Bpdu.MCfgMsg i + 15) } } := by
  have hrec := h.ciscoRecord hi
  have hflags := byte_of_octets (hrec.at 1 rfl rfl)
  have hregion := bridgeId_of_octets rfl (hrec.at 2 rfl length_octets_bridgeId)
  have hcost := ntohl_of_octets (hrec.at 3 rfl rfl)
  have hbridge := bridgeId_of_octets rfl (hrec.at 4 rfl length_octets_bridgeId)
  have hport := ntohs_of_octets (hrec.at 5 rfl rfl)
  have hhops : ((Bpdu.msti_remaining_hops.shift (Bpdu.MCfgMsg i)).byte m).val =
      m (Bpdu.MCfgMsg i + 15) := byte_val rfl
  rw [heard, cisco_mstid h hi]
  simp only [setMstMsg, stpVectorGetMstVector, stpVectorGetMstTimers, if_true, Reads.bind_val,
    Reads.pure_val, hflags, hregion, hcost, hbridge, hport, hhops]

end

/-! ## The whole message -/

/-- A port has been told what another port has. -/
structure Told (q : TxPort) (r : Port) : Prop where
  root_bridge : r.msgPrio.root_bridge = q.portPrio.root_bridge
  root_path_cost : r.msgPrio.root_path_cost = q.portPrio.root_path_cost
  region_root_bridge : r.msgPrio.region_root_bridge = q.portPrio.region_root_bridge
  region_root_path_cost : r.msgPrio.region_root_path_cost = q.portPrio.region_root_path_cost
  design_bridge : r.msgPrio.design_bridge = q.BrId
  design_port : r.msgPrio.design_port = q.port_id
  times : r.msgTimes = q.portTimes

/-- A frame of the type `BPDU_MSTP` is taken: its header by the port, its messages by the receive
machine. -/
def decoded (m : Frame) (o : Owner) (c : PortChain) : PortChain :=
  let p := (stpPortinfoRxBpdu.header m BPDU_MSTP { c.cist with rcvdBpdu := true }).val.2.1
  (receiveState m BPDU_MSTP o { c with cist := p }).val

/-- A frame is sent, and the ports of the peer are told what the port of the CIST and the MST ports
of the instances that both have are to tell. -/
def RoundTrip (b : Transmitter) (o : Owner) (c : PortChain) : Prop :=
  ∃ m len, b.stpTransmitTxMstp = some (m, len) ∧ Told b.cist (decoded m o c).cist ∧
    ∀ q ∈ b.nextMst, ∀ r ∈ (decoded m o c).msts, r.vlan_id = q.vlan_id → Told q r

/-- The region root of an MST port is one of its instance. -/
def TxPort.Named (q : TxPort) : Prop :=
  q.portPrio.region_root_bridge.prio &&& 0x0fff = q.vlan_id

/-- The two bridges are in one region, and the ports use the same format. -/
structure SameRegion (b : Transmitter) (o : Owner) (c : PortChain) : Prop where
  version : 3 ≤ o.ForceVersion
  config : o.MstConfigId = b.MstConfigId
  format : c.cist.configDigestSnp = b.configDigestSnp

section
variable {m : Frame} {b : Transmitter} {digest : OctetArray 16} {o : Owner} {c : PortChain}

/-- The port of the CIST takes its messages from a frame of its region. -/
theorem decoded_inside {s : FrameStores} {len : UInt16} (h : Holds m s)
    (hs : ∀ w ∈ stpTransmitBuildBpduHeader b.src_mac BPDU_MSTP len, w ∈ s)
    (hversion : 3 ≤ o.ForceVersion)
    (hregion : c.cist.configDigestSnp = true ∨ Bpdu.MSTCID.octets m = o.MstConfigId) :
    ∃ q : Port, q.rcvdInternal = true ∧ q.msgBpduType = BPDU_RSTP ∧ q.port_id = c.cist.port_id ∧
      q.configDigestSnp = c.cist.configDigestSnp ∧
      decoded m o c = (stpReceiveSetRcvdMsgs m BPDU_MSTP { c with cist := q }).val := by
  have htype := byte_of_octets (h.octets (hs _ (.tail _ (.head _))) rfl)
  have hver := byte_of_octets (h.octets (hs _ (.tail _ (.tail _ (.head _)))) rfl)
  let p : Port := { c.cist with
    rcvdBpdu := true
    msgBpduVersion := BPDU_VERSION_MULTI_ID
    msgBpduType := BPDU_RSTP
    msgFlags := (Bpdu.flags.byte m).val }
  have hheader : (stpPortinfoRxBpdu.header m BPDU_MSTP { c.cist with rcvdBpdu := true }).val.2.1 =
      p := by
    simp only [stpPortinfoRxBpdu.header, Reads.bind_val, Reads.pure_val, htype, hver]
    rfl
  have hin : stpReceiveFromSameRegion m BPDU_MSTP o (stpReceiveUpdtBPDUVersion p) = true := by
    simp [stpReceiveFromSameRegion, stpReceiveUpdtBPDUVersion, p, hversion, hregion]
  refine ⟨{ stpReceiveUpdtBPDUVersion p with rcvdInternal := true }, rfl, rfl, rfl, rfl, ?_⟩
  rw [decoded, hheader]
  show (stpReceiveSetRcvdMsgs m BPDU_MSTP { c with cist := { stpReceiveUpdtBPDUVersion p with
    rcvdInternal := stpReceiveFromSameRegion m BPDU_MSTP o (stpReceiveUpdtBPDUVersion p) } }).val = _
  rw [hin]

theorem setRecords_val {cisco : Bool} {n : Nat} (hc : c.Linked) (hin : c.cist.rcvdInternal = true)
    (hlen : (if cisco then CiscoBpdu.version_3_length.ntohs m
      else Bpdu.version_3_length.ntohs m).val = UInt16.ofNat (64 + (if cisco then 26 else 16) * n))
    (hn : n ≤ 64) : (setRecords m cisco c).val = { c with
      cist := credited m cisco c.cist.msgBpduType 0 n c.cist
      msts := c.msts.map fun r => credited m cisco c.cist.msgBpduType r.vlan_id n r } := by
  have hcnt : mstCnt (UInt16.ofNat (64 + (if cisco then 26 else 16) * n))
      (if cisco then 26 else 16) = n := by
    cases cisco
    · exact mstCnt_records (by decide) (by decide) hn
    · exact mstCnt_records (by decide) (by decide) hn
  have hnat : ((n : Int) % 65536).toNat = n := by omega
  have hval : (setRecords m cisco c).val = (Reads.upTo (setMstMsgs m cisco c.cist.msgBpduType)
      (mstCnt (if cisco then CiscoBpdu.version_3_length.ntohs m
        else Bpdu.version_3_length.ntohs m).val (if cisco then 26 else 16) % 65536).toNat c).val := by
    cases cisco <;> simp [setRecords, hin]
  rw [hval, hlen, hcnt, hnat]
  exact upTo_val hc

/-- The ports of the peer once a frame is decoded, whichever format it has. -/
structure Decoded (b : Transmitter) (m : Frame) (c c' : PortChain) : Prop where
  cist : ∃ p : Port, p.msgPrio = b.cist.toldPrio c.cist.port_id ∧ p.msgTimes = b.cist.toldTimes ∧
    c'.cist = credited m b.configDigestSnp BPDU_RSTP 0 b.nextMst.length p
  msts : c'.msts = c.msts.map fun r =>
    credited m b.configDigestSnp BPDU_RSTP r.vlan_id b.nextMst.length r

/-- The records are taken by the port of the CIST that has its message. -/
theorem decoded_records {c' : PortChain} {p : Port} (hc : c.Linked)
    (hprio : p.msgPrio = b.cist.toldPrio c.cist.port_id) (htimes : p.msgTimes = b.cist.toldTimes)
    (hin : p.rcvdInternal = true) (htype : p.msgBpduType = BPDU_RSTP)
    (hlen : (if b.configDigestSnp then CiscoBpdu.version_3_length.ntohs m
      else Bpdu.version_3_length.ntohs m).val =
        UInt16.ofNat (64 + (if b.configDigestSnp then 26 else 16) * b.nextMst.length))
    (hfits : b.nextMst.length ≤ 64)
    (h : c' = (setRecords m b.configDigestSnp { c with cist := p }).val) : Decoded b m c c' := by
  have hrec := @setRecords_val m { c with cist := p } b.configDigestSnp b.nextMst.length
    ⟨hc.indexed, hc.ids, hc.msti⟩ hin hlen hfits
  rw [htype] at hrec
  rw [h, hrec]
  exact ⟨⟨p, hprio, htimes, rfl⟩, rfl⟩

theorem decoded_standard (h : Holds m b.standardStores) (hf : b.configDigestSnp = false)
    (hr : SameRegion b o c) (hc : c.Linked) (hfits : b.nextMst.length ≤ 64) :
    Decoded b m c (decoded m o c) := by
  have hcfg : Bpdu.MSTCID.octets m = o.MstConfigId :=
    (h.at 9 rfl b.MstConfigId.2).trans hr.config.symm
  have hlen : (Bpdu.version_3_length.ntohs m).val = b.version3Length 16 :=
    ntohs_of_octets (h.octets (List.mem_append_right _ (.head _)) rfl)
  obtain ⟨q, hin, htype, hport, hsnp, hdec⟩ := decoded_inside h
    (fun w hw => List.mem_append_right _ (.tail _ hw)) hr.version (Or.inr hcfg)
  have hfmt : ¬ q.configDigestSnp = true := by
    rw [hsnp, hr.format, hf]
    exact Bool.false_ne_true
  have hcist := @standard_cist m b { q with rcvdMsg := true } h hin
  refine decoded_records (p := (stpReceiveSetRcvdMsgs.cistMsg m BPDU_MSTP
    { q with rcvdMsg := true }).val) hc ?_ ?_ ?_ ?_ ?_ hfits ?_
  · rw [hcist, ← hport]
  · rw [hcist]
  · rw [hcist]
    exact hin
  · rw [hcist]
    exact htype
  · rw [hf]
    exact hlen
  · rw [hdec, stpReceiveSetRcvdMsgs, if_neg hfmt, hf]
    rfl

theorem decoded_cisco (h : Holds m (b.ciscoStores digest)) (hf : b.configDigestSnp = true)
    (hr : SameRegion b o c) (hc : c.Linked) (hfits : b.nextMst.length ≤ 64) :
    Decoded b m c (decoded m o c) := by
  have hlen : (CiscoBpdu.version_3_length.ntohs m).val = b.version3Length 26 :=
    ntohs_of_octets (h.octets (List.mem_append_right _ (.head _)) rfl)
  obtain ⟨q, hin, htype, hport, hsnp, hdec⟩ := decoded_inside h
    (fun w hw => List.mem_append_right _ (.tail _ hw)) hr.version
    (Or.inl (hr.format.trans hf))
  have hfmt : q.configDigestSnp = true := hsnp.trans (hr.format.trans hf)
  have hcist := @cisco_cist m b digest { q with rcvdMsg := true } h hin
  refine decoded_records (p := (stpReceiveSetRcvdMsgsCisco.cistMsg m BPDU_MSTP
    { q with rcvdMsg := true }).val) hc ?_ ?_ ?_ ?_ ?_ hfits ?_
  · rw [hcist, ← hport]
  · rw [hcist]
  · rw [hcist]
    exact hin
  · rw [hcist]
    exact htype
  · rw [hf]
    exact hlen
  · rw [hdec, stpReceiveSetRcvdMsgs, if_pos hfmt, hf]
    rfl

/-- What holds of a port of the CIST that sends, and of the MST ports behind it: the port takes part
and its instance is in the list; the instances are distinct, at most as many as a frame has room for,
and none of them is the CIST; the vector of an MST port is of its instance, or it has been
initialised only; the vector of the port of the CIST is from an election; the times are below the
256 s that a frame can tell. -/
structure Transmitter.Wf (b : Transmitter) : Prop where
  up : b.admin_non_stp = false
  version : 3 ≤ b.ForceVersion
  listed : b.userDigest.isSome
  fits : b.nextMst.length ≤ 64
  ids : (b.nextMst.map (·.vlan_id)).Nodup
  msti : ∀ q ∈ b.nextMst, q.vlan_id ≠ 0
  region : ∀ q ∈ b.nextMst, q.Named ∨ q.portPrio.region_root_bridge = null_br
  elected : b.cist.portPrio.region_root_bridge ≠ null_br
  age : b.cist.portTimes.MessageAge.toNat < 256
  maxAge : b.cist.portTimes.MaxAge.toNat < 256
  delay : b.cist.portTimes.ForwardDelay.toNat < 256
  hello : b.cist.portTimes.HelloTime.toNat < 256

/-- The message of an MST port can be put together from its record and the message of the CIST. -/
structure TxPort.Rebuilt (q cist : TxPort) (r : Port) : Prop where
  addr : q.BrId.addr = cist.BrId.addr
  prio : q.BrId.prio &&& 0x0fff = q.vlan_id
  port : q.port_id &&& 0x0fff = cist.port_id &&& 0x0fff
  times : q.portTimes =
    { MessageAge := 0, MaxAge := 0, ForwardDelay := 0, HelloTime := 0
      RemainingHops := q.portTimes.RemainingHops }
  root_bridge : r.msgPrio.root_bridge = q.portPrio.root_bridge
  root_path_cost : r.msgPrio.root_path_cost = q.portPrio.root_path_cost

/-- A frame holds what is stored in it in the format of the port. -/
def Transmitter.Sends (b : Transmitter) (m : Frame) : Prop :=
  b.configDigestSnp = false ∧ Holds m b.standardStores ∨
    b.configDigestSnp = true ∧ ∃ digest, Holds m (b.ciscoStores digest)

variable {q q' : TxPort} {r : Port} {i : Nat}

/-- What the header check of the peer takes the frame for. -/
def Transmitter.takenFor (b : Transmitter) (junk : UInt8) : Option UInt8 :=
  if b.configDigestSnp = false ∨ b.nextMst.length ≤ 39 then some BPDU_MSTP
  else if b.nextMst.length ≤ 53 then some BPDU_RSTP
  else some junk

theorem Transmitter.Wf.sends (hb : b.Wf) : ∃ m len, b.stpTransmitTxMstp = some (m, len) ∧
    b.Sends m ∧ ∀ junk, m.type len junk b.configDigestSnp = b.takenFor junk := by
  have hversion := hb.version
  have hold : ¬ b.ForceVersion ≤ 1 := by omega
  have hrstp : ¬ b.ForceVersion < 3 := by omega
  have hup : ¬ b.admin_non_stp = true := by
    rw [hb.up]
    exact Bool.false_ne_true
  unfold Transmitter.stpTransmitTxMstp
  rw [if_neg hup, if_neg hold]
  cases hf : b.configDigestSnp with
  | false =>
    have hholds := holds_stores (@standard_apart b)
    rw [if_neg Bool.false_ne_true, if_neg hrstp]
    refine ⟨_, _, rfl, Or.inl ⟨hf, hholds⟩, fun junk => ?_⟩
    rw [Transmitter.takenFor, if_pos (Or.inl hf)]
    exact standard_type hholds standard_headed hb.fits
  | true =>
    obtain ⟨digest, hdigest⟩ := Option.isSome_iff_exists.mp hb.listed
    have hholds := holds_stores (@cisco_apart b digest)
    rw [if_pos rfl, Transmitter.stpTransmitTxMstpToCisco, if_neg hrstp, hdigest]
    refine ⟨_, _, rfl, Or.inr ⟨hf, digest, hholds⟩, fun junk => ?_⟩
    simp only [Transmitter.takenFor, hf, Bool.true_eq_false, false_or]
    exact cisco_type hholds cisco_headed hb.fits

theorem Transmitter.Sends.decoded (h : b.Sends m) (hb : b.Wf) (hr : SameRegion b o c)
    (hc : c.Linked) : Decoded b m c (decoded m o c) := by
  rcases h with ⟨hf, h⟩ | ⟨hf, digest, h⟩
  · exact decoded_standard h hf hr hc hb.fits
  · exact decoded_cisco h hf hr hc hb.fits

theorem Transmitter.Sends.mstid (h : b.Sends m) (hi : b.nextMst[i]? = some q) :
    m.mstid b.configDigestSnp i = q.portPrio.region_root_bridge.prio &&& 0x0fff := by
  rcases h with ⟨hf, h⟩ | ⟨hf, digest, h⟩
  · rw [hf]
    exact standard_mstid h hi
  · rw [hf]
    exact cisco_mstid h hi

theorem Transmitter.Sends.region (h : b.Sends m) (hi : b.nextMst[i]? = some q) :
    (heard m b.configDigestSnp BPDU_RSTP i r).msgPrio.region_root_bridge =
      q.portPrio.region_root_bridge := by
  rcases h with ⟨hf, h⟩ | ⟨hf, digest, h⟩
  · rw [hf, standard_heard h hi]
    rfl
  · rw [hf, cisco_heard h hi]

theorem cist_told {p : Port} (hb : b.Wf) (hprio : p.msgPrio = b.cist.toldPrio c.cist.port_id)
    (htimes : p.msgTimes = b.cist.toldTimes) : Told b.cist p := by
  have hback : b.cist.toldTimes = b.cist.portTimes := by
    rw [TxPort.toldTimes, shift_back hb.age, shift_back hb.maxAge, shift_back hb.delay,
      shift_back hb.hello]
  constructor
  · rw [hprio]
    rfl
  · rw [hprio]
    rfl
  · rw [hprio]
    rfl
  · rw [hprio]
    rfl
  · rw [hprio]
    rfl
  · rw [hprio]
    rfl
  · rw [htimes, hback]

/-- What a port of the peer hears in the record of its instance is what the MST port tells, exactly
if the format is the standard one and the message can be put together. -/
theorem heard_told (h : b.Sends m) (hi : b.nextMst[i]? = some q) (hn : q.Named)
    (hzero : q.vlan_id ≠ 0) : Told q (heard m b.configDigestSnp BPDU_RSTP i r) ↔
      b.configDigestSnp = false ∧ q.Rebuilt b.cist r := by
  rcases h with ⟨hf, h⟩ | ⟨hf, digest, h⟩
  · rw [hf, standard_heard h hi]
    constructor
    · intro ht
      have haddr : b.cist.BrId.addr = q.BrId.addr := (congrArg BridgeId.addr ht.design_bridge :)
      have hprio : (q.BrId.prio &&& 0xf000) + (q.portPrio.region_root_bridge.prio &&& 0x0fff) =
          q.BrId.prio := congrArg BridgeId.prio ht.design_bridge
      have hport : (b.cist.port_id &&& 0x0fff) + (q.port_id &&& 0xf000) = q.port_id :=
        ht.design_port
      rw [hn] at hprio
      rw [UInt16.add_comm] at hport
      exact ⟨rfl, haddr.symm, nibble_add_iff.mp hprio, nibble_add_iff.mp hport, ht.times.symm,
        ht.root_bridge, ht.root_path_cost⟩
    · rintro ⟨-, hre⟩
      have hprio : (q.BrId.prio &&& 0xf000) + (q.portPrio.region_root_bridge.prio &&& 0x0fff) =
          q.BrId.prio := nibble_add_iff.mpr (hre.prio.trans hn.symm)
      have hport : (b.cist.port_id &&& 0x0fff) + (q.port_id &&& 0xf000) = q.port_id :=
        (UInt16.add_comm _ _).trans (nibble_add_iff.mpr hre.port)
      refine ⟨hre.root_bridge, hre.root_path_cost, rfl, rfl, ?_, hport, hre.times.symm⟩
      show BridgeId.mk _ _ = _
      rw [hprio, ← hre.addr]
  · rw [hf, cisco_heard h hi]
    constructor
    · intro ht
      have hprio : q.BrId.prio + (q.portPrio.region_root_bridge.prio &&& 0x0fff) = q.BrId.prio :=
        congrArg BridgeId.prio ht.design_bridge
      rw [hn] at hprio
      exact absurd (by simpa using hprio) hzero
    · rintro ⟨hfalse, -⟩
      cases hfalse

/-- An MST port whose vector is not of an election yet is taken for one of the CIST: the port of the
peer then hears of no region root. -/
theorem unnamed_region (h : b.Sends m) (hb : b.Wf) (hq : q ∈ b.nextMst) (hn : ¬ q.Named)
    {p : Port} : (credited m b.configDigestSnp BPDU_RSTP 0 b.nextMst.length
      p).msgPrio.region_root_bridge = null_br := by
  obtain ⟨i, hi⟩ := List.mem_iff_getElem?.mp hq
  have hnull := (hb.region q hq).resolve_left hn
  have hlt := (List.getElem?_eq_some_iff.mp hi).1
  have hid : m.mstid b.configDigestSnp i = 0 := by
    rw [h.mstid hi, hnull]
    rfl
  refine credited_some (P := fun r => r.msgPrio.region_root_bridge = null_br) hlt hid
    fun j hj hjid r => ?_
  have hj' : b.nextMst[j]? = some b.nextMst[j] := List.getElem?_eq_getElem hj
  have hmem := List.mem_of_getElem? hj'
  rw [h.region hj']
  rcases hb.region _ hmem with hname | hnull'
  · rw [h.mstid hj', hname] at hjid
    exact absurd hjid (hb.msti _ hmem)
  · exact hnull'

theorem named_mstid (h : b.Sends m) (hn : ∀ q ∈ b.nextMst, q.Named) (hi : b.nextMst[i]? = some q) :
    m.mstid b.configDigestSnp i = q.vlan_id :=
  (h.mstid hi).trans (hn q (List.mem_of_getElem? hi))

/-- No record is for the CIST. -/
theorem credited_cist (h : b.Sends m) (hb : b.Wf) (hn : ∀ q ∈ b.nextMst, q.Named) {p : Port} :
    credited m b.configDigestSnp BPDU_RSTP 0 b.nextMst.length p = p := by
  refine credited_none fun j hj hid => ?_
  have hj' : b.nextMst[j]? = some b.nextMst[j] := List.getElem?_eq_getElem hj
  rw [named_mstid h hn hj'] at hid
  exact hb.msti _ (List.mem_of_getElem? hj') hid

/-- The record of an instance is the only one for its port. -/
theorem credited_msti (h : b.Sends m) (hb : b.Wf) (hn : ∀ q ∈ b.nextMst, q.Named)
    (hi : b.nextMst[i]? = some q) : credited m b.configDigestSnp BPDU_RSTP q.vlan_id
      b.nextMst.length r = heard m b.configDigestSnp BPDU_RSTP i r := by
  obtain ⟨hlt, hget⟩ := List.getElem?_eq_some_iff.mp hi
  refine credited_one hlt (named_mstid h hn hi) fun j hj hid => ?_
  rw [named_mstid h hn (List.getElem?_eq_getElem hj), ← hget] at hid
  have hlen : (b.nextMst.map (·.vlan_id)).length = b.nextMst.length := List.length_map _
  have hsame : (b.nextMst.map (·.vlan_id))[j] = (b.nextMst.map (·.vlan_id))[i] := by
    simpa using hid
  exact hb.ids.getElem_inj_iff.mp hsame

/-- The round trip gives what the sender has exactly if the vectors of all the MST ports are from an
election, and for each instance that both bridges have, the format is the standard one and the
message can be put together. -/
theorem round_trip_iff (hb : b.Wf) (hc : c.Linked) (hr : SameRegion b o c) :
    RoundTrip b o c ↔ (∀ q ∈ b.nextMst, q.Named) ∧ ∀ q ∈ b.nextMst, ∀ r ∈ c.msts,
      r.vlan_id = q.vlan_id → b.configDigestSnp = false ∧ q.Rebuilt b.cist r := by
  obtain ⟨m, len, hsent, hs, -⟩ := hb.sends
  obtain ⟨⟨p, hprio, htimes, hcist⟩, hmsts⟩ := hs.decoded hb hr hc
  have htrip : RoundTrip b o c ↔ Told b.cist (decoded m o c).cist ∧
      ∀ q ∈ b.nextMst, ∀ r ∈ (decoded m o c).msts, r.vlan_id = q.vlan_id → Told q r := by
    constructor
    · rintro ⟨m', len', hsent', h⟩
      obtain ⟨rfl, -⟩ := Prod.mk.inj (Option.some.inj (hsent.symm.trans hsent'))
      exact h
    · exact fun h => ⟨m, len, hsent, h⟩
  -- once all the vectors are from an election, each instance is on its own
  have hmsti : (∀ q ∈ b.nextMst, q.Named) → ∀ q ∈ b.nextMst,
      (∀ r ∈ (decoded m o c).msts, r.vlan_id = q.vlan_id → Told q r) ↔
      ∀ r ∈ c.msts, r.vlan_id = q.vlan_id → b.configDigestSnp = false ∧ q.Rebuilt b.cist r := by
    intro hn q hq
    obtain ⟨i, hi⟩ := List.mem_iff_getElem?.mp hq
    rw [hmsts, List.forall_mem_map]
    refine forall₂_congr fun r _ => ?_
    rw [credited_vlan_id]
    refine imp_congr_right fun hv => ?_
    rw [hv, credited_msti hs hb hn hi]
    exact heard_told hs hi (hn q hq) (hb.msti q hq)
  rw [htrip]
  constructor
  · rintro ⟨htold, hall⟩
    have hn : ∀ q ∈ b.nextMst, q.Named := by
      intro q hq
      by_contra hnot
      have hnull := unnamed_region hs hb hq hnot (p := p)
      rw [← hcist, htold.region_root_bridge] at hnull
      exact hb.elected hnull
    exact ⟨hn, fun q hq => (hmsti hn q hq).mp (hall q hq)⟩
  · rintro ⟨hn, hall⟩
    refine ⟨?_, fun q hq => (hmsti hn q hq).mpr (hall q hq)⟩
    rw [hcist, credited_cist hs hb hn]
    exact cist_told hb hprio htimes

/-- A port of a bridge that is the root of everything, in one MST instance. -/
def sampleTransmitter (configDigestSnp : Bool) : Transmitter :=
  { ForceVersion := 3
    MstConfigId := ⟨List.replicate 51 0, rfl⟩
    admin_non_stp := false
    configDigestSnp := configDigestSnp
    digest := ⟨List.replicate 16 0, rfl⟩
    userDigest := some ⟨List.replicate 16 0, rfl⟩
    src_mac := zeroMac
    cist := { sampleTxPort with
      BrId := ⟨0x8000, zeroMac⟩
      portPrio := { zeroPrio with
        root_bridge := ⟨0x8000, zeroMac⟩
        region_root_bridge := ⟨0x8000, zeroMac⟩ }
      portTimes :=
        { MessageAge := 0, MaxAge := 20, ForwardDelay := 15, HelloTime := 2, RemainingHops := 20 } }
    nextMst := [{ sampleTxPort with vlan_id := 1 }] }
where
  sampleTxPort : TxPort :=
    { vlan_id := 0
      BrId := ⟨0x8001, zeroMac⟩
      port_id := 0x8001
      role := .DesignatedPort
      portPrio := { zeroPrio with region_root_bridge := ⟨0x8001, zeroMac⟩ }
      portTimes := { zeroTimes with RemainingHops := 20 }
      tcWhile := 0
      proposing := false
      learning := true
      forwarding := true
      agree := false }

/-- The ports of a peer that has the instance too. -/
def samplePeer (configDigestSnp : Bool) : PortChain :=
  { cist := { freshPort with configDigestSnp := configDigestSnp }
    msts := [{ freshPort with vlan_id := 1 }]
    indexed := true }

def sampleOwner : Owner := { ForceVersion := 3, MstConfigId := List.replicate 51 0 }

theorem sampleTransmitter_wf {snp : Bool} : (sampleTransmitter snp).Wf := by
  constructor
  · rfl
  · exact Nat.le_refl 3
  · rfl
  · exact Nat.le_of_ble_eq_true rfl
  · decide +revert
  · decide +revert
  · intro q hq
    obtain rfl := List.mem_singleton.mp hq
    exact Or.inl rfl
  all_goals decide +revert

theorem samplePeer_linked {snp : Bool} : (samplePeer snp).Linked :=
  ⟨rfl, by decide +revert, by decide +revert⟩

theorem sample_sameRegion {snp : Bool} :
    SameRegion (sampleTransmitter snp) sampleOwner (samplePeer snp) :=
  ⟨Nat.le_refl 3, rfl, rfl⟩

theorem sample_round_trip : RoundTrip (sampleTransmitter false) sampleOwner (samplePeer false) := by
  refine (round_trip_iff sampleTransmitter_wf samplePeer_linked sample_sameRegion).mpr ⟨?_, ?_⟩
  · intro q hq
    obtain rfl := List.mem_singleton.mp hq
    rfl
  · intro q hq r hr _
    obtain rfl := List.mem_singleton.mp hq
    obtain rfl := List.mem_singleton.mp hr
    exact ⟨rfl, rfl, by decide, by decide, rfl, rfl, rfl⟩

/-- In the other format the peer takes the bridge 0x8001 of the instance 1 for the bridge 0x8002. -/
theorem sample_cisco : (sampleTransmitter true).Wf ∧ (samplePeer true).Linked ∧
    SameRegion (sampleTransmitter true) sampleOwner (samplePeer true) ∧
    ¬ RoundTrip (sampleTransmitter true) sampleOwner (samplePeer true) := by
  refine ⟨sampleTransmitter_wf, samplePeer_linked, sample_sameRegion, ?_⟩
  rintro ⟨m, len, hsent, -, hall⟩
  obtain ⟨rfl, -⟩ := Prod.mk.inj (Option.some.inj hsent)
  have hheard : ∃ r ∈ (decoded (stores gBpduPacket ((sampleTransmitter true).ciscoStores
      ⟨List.replicate 16 0, rfl⟩)) sampleOwner (samplePeer true)).msts,
      r.vlan_id = 1 ∧ r.msgPrio.design_bridge.prio = 0x8002 := by
    decide +kernel
  obtain ⟨r, hr, hv, hprio⟩ := hheard
  have htold := (hall _ (List.mem_singleton_self _) r hr hv).design_bridge
  rw [htold] at hprio
  exact absurd hprio (by decide)

end

end Stp
end DaemonGroup
