import DaemonGroup.Stp.Bpdu

/-!
# DaemonGroup.Stp.Receive

What a port does with a frame: the check of its header (`stp_in_check_bpdu_header`), the port
information machine's part (`stp_portinfo_rx_bpdu`), and the messages that the receive machine takes
from an accepted one (`stp_receive_setRcvdMsgs`). `receive_within` says for which frames every octet
that is read lies before the end of the frame.
-/

namespace DaemonGroup
namespace Stp

open Lib

def MIN_BPDU : Nat := 7
def BPDU_L_SAP : UInt8 := 0x42
def LLC_UI : UInt8 := 0x03
def BPDU_TOPO_CHANGE_TYPE : UInt8 := 0x80
def BPDU_CONFIG_TYPE : UInt8 := 0x00
def BPDU_RSTP : UInt8 := 0x02
def BPDU_MSTP : UInt8 := 0x03
def STP_CIST_ID : UInt16 := 0

/-! `RSTP_ERRORS` -/
def STP_Big_len8023_Format : Int := 19
def STP_Small_len8023_Format : Int := 20
def STP_len8023_Format_Gt_Len : Int := 21
def STP_Not_Proper_802_3_Packet : Int := 22
def STP_Invalid_Protocol : Int := 23

/-- The part of a port that messages are about. -/
structure Port where
  vlan_id : UInt16
  port_id : UInt16
  configDigestSnp : Bool
  admin_non_stp : Bool
  rcvdBpdu : Bool
  rcvdRSTP : Bool
  rcvdSTP : Bool
  rcvdInternal : Bool
  rcvdMsg : Bool
  msgBpduVersion : UInt8
  msgBpduType : UInt8
  msgFlags : UInt8
  msgPrio : PrioVector
  msgTimes : TimeValues
  digest : Octets
  rx_cfg_bpdu_cnt : Nat
  rx_rstp_bpdu_cnt : Nat
  rx_tcn_bpdu_cnt : Nat

/-- The part of the owner of the CIST port that the reception of a frame depends on. -/
structure Owner where
  ForceVersion : Nat
  MstConfigId : Octets

/-- A port of the CIST, the ports on its `nextMst` chain, and whether `g_CISTPORT` leads to them. -/
structure PortChain where
  cist : Port
  msts : List Port
  indexed : Bool

/-- `stp_port_mst_findport` for the port index of the chain. -/
def PortChain.find (c : PortChain) (MSTID : UInt16) : Option Port :=
  if ¬ c.indexed then none
  else if MSTID = 0 then some c.cist
  else c.msts.find? (·.vlan_id = MSTID)

/-- The port that `find` finds is changed. -/
def PortChain.modify (c : PortChain) (MSTID : UInt16) (f : Port → Port) : PortChain :=
  if MSTID = 0 then { c with cist := f c.cist }
  else { c with msts := c.msts.replaceF fun p => if p.vlan_id = MSTID then some (f p) else none }

/-- How many MST records a frame with this `version_3_length` has, if each is `k` octets. -/
def mstCnt (v : UInt16) (k : Nat) : Int := ((v.toNat : Int) - 64).tdiv k

/-- `stp_in_check_bpdu_header`: the result, and the type of the frame if it is told. -/
def stpInCheckBpduHeader (m : Frame) (len : Nat) (configDigestSnp : Bool) :
    Reads (Int × Option UInt8) := do
  if len < MIN_BPDU then
    return (-1, none)
  let len8023 ← Bpdu.len8023.ntohs m
  if len8023.toNat > 1500 then
    return (STP_Big_len8023_Format, none)
  if len8023.toNat < MIN_BPDU then
    return (STP_Small_len8023_Format, none)
  if len8023.toNat + 14 > len then
    return (STP_len8023_Format_Gt_Len, none)
  let llc ← (Bpdu.dsap.is m BPDU_L_SAP).and
    ((Bpdu.ssap.is m BPDU_L_SAP).and (Bpdu.llc.is m LLC_UI))
  if ¬ llc then
    return (STP_Not_Proper_802_3_Packet, none)
  let protocol ← (Bpdu.protocol0.is m 0).and (Bpdu.protocol1.is m 0)
  if ¬ protocol then
    return (STP_Invalid_Protocol, none)
  switch
where
  switch : Reads (Int × Option UInt8) := do
    let type ← Bpdu.bpdu_type.byte m
    if type = BPDU_TOPO_CHANGE_TYPE then
      return if len ≥ 4 then (0, some BPDU_TOPO_CHANGE_TYPE) else (-1, none)
    if type = BPDU_CONFIG_TYPE then
      return if len ≥ 35 then (0, some BPDU_CONFIG_TYPE) else (-1, none)
    if type ≠ BPDU_RSTP then
      return (-1, none)
    let version ← Bpdu.version.byte m
    if version = 2 ∧ len ≥ 36 then
      return (0, some BPDU_RSTP)
    if version < 3 then
      return (-1, none)
    multi
  multi : Reads (Int × Option UInt8) := do
    let v ← if configDigestSnp then CiscoBpdu.version_3_length.ntohs m
      else Bpdu.version_3_length.ntohs m
    if 35 ≤ len ∧ len < 103 then
      return (0, some BPDU_RSTP)
    let ver_1_len ← Bpdu.ver_1_len.byte m
    if ver_1_len ≠ 0 ∨ mstCnt v 16 > 64 ∨ mstCnt v 16 < 0 then
      return (0, some BPDU_RSTP)
    return if len ≥ 102 then (0, some BPDU_MSTP) else (-1, none)

/-- `stp_portinfo_rx_bpdu`: the result, the port, and the type of the current frame once it is set.
When the header check complains with a positive number the type is read without having been set; it
is then the octet `junk` that was on the stack. -/
def stpPortinfoRxBpdu (m : Frame) (len : Nat) (junk : UInt8) (o : Owner) (p : Port) :
    Reads (Int × Port × Option UInt8) := do
  let check ← stpInCheckBpduHeader m len p.configDigestSnp
  if check.1 < 0 then
    return (-1, p, none)
  let type := check.2.getD junk
  if type = BPDU_CONFIG_TYPE then
    let p := { p with rx_cfg_bpdu_cnt := p.rx_cfg_bpdu_cnt + 1 }
    if p.admin_non_stp then
      return (-1, p, none)
    header type { p with rcvdBpdu := true }
  else if type = BPDU_TOPO_CHANGE_TYPE then
    let p := { p with rx_tcn_bpdu_cnt := p.rx_tcn_bpdu_cnt + 1 }
    if p.admin_non_stp then
      return (-1, p, none)
    header type { p with rcvdBpdu := true }
  else if type = BPDU_RSTP ∨ type = BPDU_MSTP then
    let p := { p with rx_rstp_bpdu_cnt := p.rx_rstp_bpdu_cnt + 1 }
    if p.admin_non_stp then
      return (-1, p, none)
    if o.ForceVersion < 2 then
      return (-1, p, none)
    header type { p with rcvdBpdu := true }
  else
    -- the type is printed
    let _ ← Bpdu.bpdu_type.byte m
    return (-1, p, none)
where
  header (type : UInt8) (p : Port) : Reads (Int × Port × Option UInt8) := do
    let version ← Bpdu.version.byte m
    let bpdu_type ← Bpdu.bpdu_type.byte m
    let flags ← Bpdu.flags.byte m
    return (0, { p with msgBpduVersion := version, msgBpduType := bpdu_type, msgFlags := flags },
      some type)

/-- `stp_receive_updtBPDUVersion`. -/
def stpReceiveUpdtBPDUVersion (p : Port) : Port :=
  { p with
    rcvdSTP := p.rcvdSTP ∨ p.msgBpduType = BPDU_TOPO_CHANGE_TYPE ∨ p.msgBpduVersion < 2
    rcvdRSTP := p.rcvdRSTP ∨ p.msgBpduType = BPDU_RSTP }

/-- `stp_receive_fromSameRegion` for a frame of the type `type`. -/
def stpReceiveFromSameRegion (m : Frame) (type : UInt8) (o : Owner) (p : Port) : Bool :=
  p.rcvdRSTP ∧ type = BPDU_MSTP ∧ 3 ≤ o.ForceVersion ∧
    (p.configDigestSnp ∨ Bpdu.MSTCID.octets m = o.MstConfigId)

/-- The message of one MST record, for the port that it is about. -/
def setMstMsg (m : Frame) (i : Nat) (cisco : Bool) (msgBpduType : UInt8) (mstid : UInt16) (p : Port) :
    Reads (Port → Port) := do
  let prio ← stpVectorGetMstVector m i cisco p.msgPrio
  let flags ← if cisco then (CiscoBpdu.msti_flags.shift (CiscoBpdu.MCfgMsg i)).byte m
    else (Bpdu.msti_flags.shift (Bpdu.MCfgMsg i)).byte m
  let times ← stpVectorGetMstTimers m i
  return fun p =>
    { p with
      rcvdMsg := true
      msgBpduType := msgBpduType
      msgPrio :=
        { prio with
          bridge_port := p.port_id
          design_bridge := { prio.design_bridge with prio := prio.design_bridge.prio + mstid } }
      msgFlags := flags
      msgTimes := times }

/-- One round of the loop over the MST records. -/
def setMstMsgs (m : Frame) (cisco : Bool) (msgBpduType : UInt8) (i : Nat) (c : PortChain) :
    Reads PortChain := do
  let prio ← if cisco then (CiscoBpdu.msti_region_root_id.shift (CiscoBpdu.MCfgMsg i)).head.ntohs m
    else (Bpdu.msti_region_root_id.shift (Bpdu.MCfgMsg i)).head.ntohs m
  let mstid := prio &&& (0x0fff : UInt16)
  match c.find mstid with
  | none => return c
  | some p =>
    let f ← setMstMsg m i cisco msgBpduType mstid p
    return c.modify mstid f

/-- The loop over the MST records, if the frame comes from the region of the bridge. -/
def setRecords (m : Frame) (cisco : Bool) (c : PortChain) : Reads PortChain := do
  if ¬ c.cist.rcvdInternal then
    return c
  let v ← if cisco then CiscoBpdu.version_3_length.ntohs m else Bpdu.version_3_length.ntohs m
  Reads.upTo (setMstMsgs m cisco c.cist.msgBpduType)
    ((mstCnt v (if cisco then 26 else 16)) % 65536).toNat c

/-- `stp_receive_setRcvdMsgs_Cisco`: first the message for the CIST. -/
def stpReceiveSetRcvdMsgsCisco (m : Frame) (type : UInt8) (c : PortChain) : Reads PortChain := do
  let p ← cistMsg { c.cist with rcvdMsg := true }
  setRecords m true { c with cist := p }
where
  cistMsg (p : Port) : Reads Port := do
    let digest ← if type = BPDU_MSTP then CiscoBpdu.ConfigurationDigest.load m else pure p.digest
    let root ← stpVectorGetBridgeId m Bpdu.root_id
    let cost ← Bpdu.root_path_cost.ntohl m
    let region ← stpVectorGetBridgeId m CiscoBpdu.cist_region_root_id
    let port ← Bpdu.port_id.ntohs m
    let bridge ← stpVectorGetBridgeId m Bpdu.bridge_id
    let inner ← if type = BPDU_MSTP ∧ p.rcvdInternal then CiscoBpdu.cist_inter_path_cost.ntohl m
      else pure 0
    let times ← stpTimesGet m p.msgTimes
    let hops ← if type = BPDU_MSTP then CiscoBpdu.cist_remaining_hops.byte m else pure 0
    return { p with
      digest := digest
      msgPrio :=
        { root_bridge := root
          root_path_cost := cost
          region_root_bridge := region
          region_root_path_cost := inner
          design_bridge := bridge
          design_port := port
          bridge_port := p.port_id }
      msgTimes := { times with RemainingHops := hops } }

/-- `stp_receive_setRcvdMsgs`. -/
def stpReceiveSetRcvdMsgs (m : Frame) (type : UInt8) (c : PortChain) : Reads PortChain := do
  if c.cist.configDigestSnp then
    stpReceiveSetRcvdMsgsCisco m type { c with cist := { c.cist with rcvdMsg := true } }
  else
    let p ← cistMsg { c.cist with rcvdMsg := true }
    setRecords m false { c with cist := p }
where
  cistMsg (p : Port) : Reads Port := do
    let root ← stpVectorGetBridgeId m Bpdu.root_id
    let cost ← Bpdu.root_path_cost.ntohl m
    let region ← stpVectorGetBridgeId m Bpdu.bridge_id
    let port ← Bpdu.port_id.ntohs m
    let bridge ← stpVectorGetBridgeId m
      (if type = BPDU_MSTP then Bpdu.cist_bridge_id else Bpdu.bridge_id)
    let inner ← if type = BPDU_MSTP ∧ p.rcvdInternal then Bpdu.cist_inter_path_cost.ntohl m
      else pure 0
    let times ← stpTimesGet m p.msgTimes
    let hops ← if type = BPDU_MSTP then Bpdu.cist_remaining_hops.byte m else pure 0
    return { p with
      msgPrio :=
        { root_bridge := root
          root_path_cost := cost
          region_root_bridge := region
          region_root_path_cost := inner
          design_bridge := bridge
          design_port := port
          bridge_port := p.port_id }
      msgTimes := { times with RemainingHops := hops } }

/-- The state RECEIVE of the receive machine, for the port of a frame of the type `type`. -/
def receiveState (m : Frame) (type : UInt8) (o : Owner) (c : PortChain) : Reads PortChain :=
  let p := stpReceiveUpdtBPDUVersion c.cist
  let c := { c with cist := { p with rcvdInternal := stpReceiveFromSameRegion m type o p } }
  stpReceiveSetRcvdMsgs m type c

/-- A frame of length `len` arrives, and if it is accepted its messages are taken. -/
def receiveBpdu (m : Frame) (len : Nat) (junk : UInt8) (o : Owner) (c : PortChain) :
    Reads PortChain := do
  let r ← stpPortinfoRxBpdu m len junk o c.cist
  messages { c with cist := r.2.1 } r.2.2
where
  messages (c : PortChain) : Option UInt8 → Reads PortChain
    | none => pure c
    | some type => receiveState m type o c

/-! ## The frames that are long enough -/

/-- The header check finds nothing to complain of before it comes to the type. -/
def Frame.wellFormed (m : Frame) (len : Nat) : Prop :=
  let l := (word16 (Bpdu.len8023.octets m)).toNat
  l ≤ 1500 ∧ MIN_BPDU ≤ l ∧ l + 14 ≤ len ∧ m 14 = BPDU_L_SAP ∧ m 15 = BPDU_L_SAP ∧ m 16 = LLC_UI ∧
    m 17 = 0 ∧ m 18 = 0

instance (m : Frame) (len : Nat) : Decidable (m.wellFormed len) :=
  inferInstanceAs (Decidable (_ ∧ _ ∧ _ ∧ _ ∧ _ ∧ _ ∧ _ ∧ _))

/-- A frame that says it is of version 3 or later. -/
def Frame.multi (m : Frame) (len : Nat) : Prop := m.wellFormed len ∧ m 20 = BPDU_RSTP ∧ 3 ≤ m 19

instance (m : Frame) (len : Nat) : Decidable (m.multi len) :=
  inferInstanceAs (Decidable (_ ∧ _ ∧ _))

/-- `version_3_length`, in the format that the port takes the frame to have. -/
def Frame.version3Length (m : Frame) (cisco : Bool) : UInt16 :=
  word16 (if cisco then CiscoBpdu.version_3_length.octets m else Bpdu.version_3_length.octets m)

/-- What the frame is taken for, if it is not dropped at once: for what is on the stack, if it is
malformed. -/
def Frame.type (m : Frame) (len : Nat) (junk : UInt8) (cisco : Bool) : Option UInt8 :=
  if len < MIN_BPDU then none
  else if ¬ m.wellFormed len then some junk
  else if m 20 = BPDU_TOPO_CHANGE_TYPE then some BPDU_TOPO_CHANGE_TYPE
  else if m 20 = BPDU_CONFIG_TYPE then if 35 ≤ len then some BPDU_CONFIG_TYPE else none
  else if m 20 ≠ BPDU_RSTP ∨ m 19 < 2 then none
  else if m 19 = 2 then if 36 ≤ len then some BPDU_RSTP else none
  else if 103 ≤ len ∧ m 52 = 0 ∧ 0 ≤ mstCnt (m.version3Length cisco) 16 ∧
      mstCnt (m.version3Length cisco) 16 ≤ 64 then some BPDU_MSTP
  else some BPDU_RSTP

/-- The port counts frames of this type. -/
def isBpduType (t : UInt8) : Prop :=
  t = BPDU_CONFIG_TYPE ∨ t = BPDU_TOPO_CHANGE_TYPE ∨ t = BPDU_RSTP ∨ t = BPDU_MSTP

instance (t : UInt8) : Decidable (isBpduType t) := inferInstanceAs (Decidable (_ ∨ _ ∨ _ ∨ _))

/-- The port takes frames of this type. -/
def Port.takes (p : Port) (o : Owner) (t : UInt8) : Prop :=
  isBpduType t ∧ ¬ p.admin_non_stp ∧ (t = BPDU_RSTP ∨ t = BPDU_MSTP → 2 ≤ o.ForceVersion)

instance (p : Port) (o : Owner) (t : UInt8) : Decidable (p.takes o t) :=
  inferInstanceAs (Decidable (_ ∧ _ ∧ _))

/-- The frame comes from the region of the bridge. -/
def Port.sameRegion (p : Port) (o : Owner) (m : Frame) (t : UInt8) : Prop :=
  t = BPDU_MSTP ∧ 3 ≤ o.ForceVersion ∧ (p.rcvdRSTP ∨ m 20 = BPDU_RSTP) ∧
    (p.configDigestSnp ∨ Bpdu.MSTCID.octets m = o.MstConfigId)

instance (p : Port) (o : Owner) (m : Frame) (t : UInt8) : Decidable (p.sameRegion o m t) :=
  inferInstanceAs (Decidable (_ ∧ _ ∧ _ ∧ _))

/-- The MST instance that the record `i` is about. -/
def Frame.mstid (m : Frame) (cisco : Bool) (i : Nat) : UInt16 :=
  word16 (Bytes.read m
    (if cisco then CiscoBpdu.MCfgMsg i + 2 else Bpdu.MCfgMsg i + 1) 2) &&& (0x0fff : UInt16)

/-- How many records the frame says it has. -/
def Frame.records (m : Frame) (cisco : Bool) : Nat :=
  (mstCnt (m.version3Length cisco) (if cisco then 26 else 16) % 65536).toNat

/-- Where the record `i` ends, as far as it is read: to the instance only, if the port is not in
it. -/
def recordEnd (cisco known : Bool) (i : Nat) : Nat :=
  if cisco then CiscoBpdu.MCfgMsg i + if known then 24 else 4
  else Bpdu.MCfgMsg i + if known then 16 else 3

/-- Every record that the frame says it has ends before `len`, as far as it is read. -/
def Frame.recordsFit (m : Frame) (len : Nat) (cisco : Bool) (c : PortChain) : Prop :=
  ∀ i < m.records cisco, recordEnd cisco (c.find (m.mstid cisco i)).isSome i ≤ len

/-- The frame is long enough for the messages that are taken from a frame of its type. -/
def Frame.messagesFit (m : Frame) (len : Nat) (o : Owner) (c : PortChain) (t : UInt8) : Prop :=
  let cisco := c.cist.configDigestSnp
  (if t = BPDU_MSTP then 119 else if cisco then 114 else 52) ≤ len ∧
    (c.cist.sameRegion o m t → m.recordsFit len cisco c)

/-- The frame is too short to be looked at, or as long as what the header check reads of it. -/
def Frame.headerFits (m : Frame) (len : Nat) (cisco : Bool) : Prop :=
  len < MIN_BPDU ∨ 14 ≤ len ∧ (m.multi len → (if cisco then 56 else 55) ≤ len)

/-- The frame is long enough for the header check, and then for what it is taken for. -/
def Frame.Fits (m : Frame) (len : Nat) (junk : UInt8) (o : Owner) (c : PortChain) : Prop :=
  m.headerFits len c.cist.configDigestSnp ∧
    ∀ t ∈ m.type len junk c.cist.configDigestSnp,
      (¬ isBpduType t → 21 ≤ len) ∧ (c.cist.takes o t → m.messagesFit len o c t)

open Reads

section
variable {m : Frame} {len n i : Nat} {junk t : UInt8} {o : Owner} {c : PortChain} {p : Port}
  {cisco : Bool}

theorem byte_val {f : Member} (hf : f.size = 1) : (f.byte m).val = m f.off := by
  simp [Member.byte, Member.load, hf, Bytes.read]

theorem is_val {f : Member} {x : UInt8} (hf : f.size = 1) : (f.is m x).val = decide (m f.off = x) := by
  simp [Member.is, byte_val hf]

theorem llc_val : ((Bpdu.dsap.is m BPDU_L_SAP).and
    ((Bpdu.ssap.is m BPDU_L_SAP).and (Bpdu.llc.is m LLC_UI))).val =
      decide (m 14 = BPDU_L_SAP ∧ m 15 = BPDU_L_SAP ∧ m 16 = LLC_UI) := by
  simp [is_val, Bpdu.dsap, Bpdu.ssap, Bpdu.llc]

theorem protocol_val : ((Bpdu.protocol0.is m 0).and (Bpdu.protocol1.is m 0)).val =
    decide (m 17 = 0 ∧ m 18 = 0) := by
  simp [is_val, Bpdu.protocol0, Bpdu.protocol1]

theorem ntohs_val {f : Member} : (f.ntohs m).val = word16 (f.octets m) := by
  simp [Member.ntohs, Member.load, Member.octets]

theorem within_multi : Within len (stpInCheckBpduHeader.multi m len cisco) ↔
    (if cisco then 56 else 55) ≤ len := by
  cases cisco <;>
    simp [stpInCheckBpduHeader.multi, Bpdu.version_3_length, CiscoBpdu.version_3_length,
      Bpdu.ver_1_len] <;>
    omega

theorem within_switch : Within len (stpInCheckBpduHeader.switch m len cisco) ↔
    21 ≤ len ∧ (m 20 = BPDU_RSTP → 3 ≤ m 19 → (if cisco then 56 else 55) ≤ len) := by
  have htype : (Bpdu.bpdu_type.byte m).val = m 20 := byte_val rfl
  have hversion : (Bpdu.version.byte m).val = m 19 := byte_val rfl
  have hread : Within len (Bpdu.bpdu_type.byte m) ↔ 21 ≤ len := by
    simp [Bpdu.bpdu_type]
  have hread' : Within len (Bpdu.version.byte m) ↔ 20 ≤ len := by
    simp [Bpdu.version]
  simp only [stpInCheckBpduHeader.switch, within_bind, within_ite, within_pure, within_multi, htype,
    hversion, hread, hread', UInt8.not_lt, implies_true, true_and]
  refine and_congr_right fun hlen => ?_
  constructor
  · intro h hrstp hver
    have hne : m 19 ≠ 2 := by
      rintro h2
      rw [h2] at hver
      exact absurd hver (by decide)
    exact (h (by simp [hrstp]; decide) (by simp [hrstp]; decide) (by simp [hrstp])).2
      (fun h2 => hne h2.1) hver
  · intro h _ _ hrstp
    exact ⟨by omega, fun _ hver => h (not_not.mp hrstp) hver⟩

/-- The header check reads the length of the frame, and more only of a frame that has it. -/
theorem within_check : Within len (stpInCheckBpduHeader m len cisco) ↔ m.headerFits len cisco := by
  rw [Frame.headerFits]
  by_cases hmin : len < MIN_BPDU
  · simp [stpInCheckBpduHeader, hmin]
  have hread : Within len (Bpdu.len8023.ntohs m) ↔ 14 ≤ len := by
    simp [Bpdu.len8023]
  have hllc : 21 ≤ len → Within len ((Bpdu.dsap.is m BPDU_L_SAP).and
      ((Bpdu.ssap.is m BPDU_L_SAP).and (Bpdu.llc.is m LLC_UI))) := by
    intro h
    simp only [within_and, within_is, Bpdu.dsap, Bpdu.ssap, Bpdu.llc]
    omega
  have hprotocol : 21 ≤ len →
      Within len ((Bpdu.protocol0.is m 0).and (Bpdu.protocol1.is m 0)) := by
    intro h
    simp only [within_and, within_is, Bpdu.protocol0, Bpdu.protocol1]
    omega
  rw [stpInCheckBpduHeader, if_neg hmin]
  simp only [within_bind, within_ite, within_pure, llc_val, protocol_val, ntohs_val, within_switch,
    hread, hmin, false_or, implies_true, true_and, decide_eq_true_eq, not_not]
  refine and_congr_right fun hlen => ?_
  constructor
  · rintro h ⟨⟨h1, h2, h3, h4, h5, h6, h7, h8⟩, h9, h10⟩
    exact (((h (Nat.not_lt.mpr h1) (Nat.not_lt.mpr h2) (Nat.not_lt.mpr h3)).2 ⟨h4, h5, h6⟩).2
      ⟨h7, h8⟩).2 h9 h10
  · intro h h1 h2 h3
    have h21 : 21 ≤ len := by
      have := hmin
      simp only [MIN_BPDU] at h2
      omega
    refine ⟨hllc h21, ?_⟩
    rintro ⟨h4, h5, h6⟩
    refine ⟨hprotocol h21, ?_⟩
    rintro ⟨h7, h8⟩
    refine ⟨h21, fun h9 h10 => h ?_⟩
    exact ⟨⟨Nat.not_lt.mp h1, Nat.not_lt.mp h2, Nat.not_lt.mp h3, h4, h5, h6, h7, h8⟩, h9, h10⟩

/-- What the check says of the type, once it has come to it. -/
theorem multi_val (hlen : 35 ≤ len) : (stpInCheckBpduHeader.multi m len cisco).val =
    (0, some (if 103 ≤ len ∧ m 52 = 0 ∧ 0 ≤ mstCnt (m.version3Length cisco) 16 ∧
      mstCnt (m.version3Length cisco) 16 ≤ 64 then BPDU_MSTP else BPDU_RSTP)) := by
  have hver : (Bpdu.ver_1_len.byte m).val = m 52 := byte_val rfl
  have hv : (stpInCheckBpduHeader.multi m len cisco).val = if 35 ≤ len ∧ len < 103 then
      (0, some BPDU_RSTP) else if m 52 ≠ 0 ∨ mstCnt (m.version3Length cisco) 16 > 64 ∨
        mstCnt (m.version3Length cisco) 16 < 0 then (0, some BPDU_RSTP)
      else if len ≥ 102 then (0, some BPDU_MSTP) else (-1, none) := by
    cases cisco <;>
      simp [stpInCheckBpduHeader.multi, hver, ntohs_val, Frame.version3Length]
  rw [hv]
  by_cases h103 : len < 103
  · rw [if_pos ⟨hlen, h103⟩, if_neg (by omega)]
  · rw [if_neg (by omega)]
    by_cases hm : m 52 = 0 ∧ 0 ≤ mstCnt (m.version3Length cisco) 16 ∧
        mstCnt (m.version3Length cisco) 16 ≤ 64
    · obtain ⟨h1, h2, h3⟩ := hm
      rw [if_neg (by simp [h1]; omega), if_pos (by omega), if_pos ⟨by omega, h1, h2, h3⟩]
    · rw [if_pos, if_neg fun h => hm h.2]
      by_contra hno
      simp only [not_or, not_not, not_lt] at hno
      exact hm ⟨hno.1, hno.2.2, hno.2.1⟩

/-- The result of the header check and the type of the frame say the same. -/
def Says (r : Int × Option UInt8) (junk : UInt8) (t : Option UInt8) : Prop :=
  (r.1 < 0 ∧ t = none) ∨ (0 ≤ r.1 ∧ t = some (r.2.getD junk))

theorem switch_says (hmin : ¬ len < MIN_BPDU) (hw : m.wellFormed len)
    (hlen : m.multi len → 35 ≤ len) :
    Says (stpInCheckBpduHeader.switch m len cisco).val junk (m.type len junk cisco) := by
  have htype : (Bpdu.bpdu_type.byte m).val = m 20 := byte_val rfl
  have hversion : (Bpdu.version.byte m).val = m 19 := byte_val rfl
  have h21 : 21 ≤ len := by
    obtain ⟨-, h1, h2, -⟩ := hw
    simp only [MIN_BPDU] at h1
    omega
  rw [Frame.type, if_neg hmin, if_neg (not_not.mpr hw)]
  simp only [stpInCheckBpduHeader.switch, bind_val, ite_val, pure_val, htype, hversion]
  by_cases h1 : m 20 = BPDU_TOPO_CHANGE_TYPE
  · rw [if_pos h1, if_pos h1, if_pos (by omega)]
    exact .inr ⟨Int.le_refl _, rfl⟩
  rw [if_neg h1, if_neg h1]
  by_cases h2 : m 20 = BPDU_CONFIG_TYPE
  · rw [if_pos h2, if_pos h2]
    split
    · exact .inr ⟨Int.le_refl _, rfl⟩
    · exact .inl ⟨by decide, rfl⟩
  rw [if_neg h2, if_neg h2]
  by_cases h3 : m 20 = BPDU_RSTP
  · rw [if_neg (not_not.mpr h3)]
    by_cases h4 : m 19 = 2
    · have hver : ¬(m 20 ≠ BPDU_RSTP ∨ m 19 < 2) := by
        rw [h3, h4]
        decide
      by_cases h36 : 36 ≤ len
      · rw [if_pos ⟨h4, h36⟩, if_neg hver, if_pos h4, if_pos h36]
        exact .inr ⟨Int.le_refl _, rfl⟩
      · rw [if_neg fun h => h36 h.2, if_pos (by rw [h4]; decide), if_neg hver, if_pos h4, if_neg h36]
        exact .inl ⟨by decide, rfl⟩
    rw [if_neg fun h => h4 h.1]
    by_cases h5 : m 19 < 3
    · have h6 : m 19 < 2 := by
        have := UInt8.lt_iff_toNat_lt.mp h5
        have hne : (m 19).toNat ≠ 2 := fun h => h4 (UInt8.toNat.inj h)
        exact UInt8.lt_iff_toNat_lt.mpr (by simp at this ⊢; omega)
      rw [if_pos h5, if_pos (.inr h6)]
      exact .inl ⟨by decide, rfl⟩
    · have h6 : ¬ m 19 < 2 := fun h => h5 (UInt8.lt_trans h (by decide))
      have hmulti : m.multi len := ⟨hw, h3, UInt8.not_lt.mp h5⟩
      rw [if_neg h5, if_neg (by simp [h3, h6]), if_neg h4, multi_val (hlen hmulti)]
      refine .inr ⟨Int.le_refl _, ?_⟩
      split <;> rfl
  · rw [if_pos h3, if_pos (.inl h3)]
    exact .inl ⟨by decide, rfl⟩

theorem check_outcome (hfits : m.headerFits len cisco) :
    Says (stpInCheckBpduHeader m len cisco).val junk (m.type len junk cisco) := by
  by_cases hmin : len < MIN_BPDU
  · rw [stpInCheckBpduHeader, if_pos hmin, Frame.type, if_pos hmin]
    exact .inl ⟨by decide, rfl⟩
  have hlen : m.multi len → 35 ≤ len := by
    intro hm
    have := (hfits.resolve_left hmin).2 hm
    split at this <;> omega
  have hbad : ∀ r : Int, 0 ≤ r → ¬ m.wellFormed len → Says (r, none) junk (m.type len junk cisco) := by
    intro r hr hw
    rw [Frame.type, if_neg hmin, if_pos hw]
    exact .inr ⟨hr, rfl⟩
  rw [stpInCheckBpduHeader, if_neg hmin]
  simp only [bind_val, ite_val, pure_val, ntohs_val, llc_val, protocol_val]
  split
  · rename_i h
    exact hbad _ (by decide) fun hw => absurd hw.1 (Nat.not_le.mpr h)
  rename_i h1
  split
  · rename_i h
    exact hbad _ (by decide) fun hw => absurd hw.2.1 (Nat.not_le.mpr h)
  rename_i h2
  split
  · rename_i h
    exact hbad _ (by decide) fun hw => absurd hw.2.2.1 (Nat.not_le.mpr h)
  rename_i h3
  split
  · rename_i h
    exact hbad _ (by decide) fun hw => h (decide_eq_true ⟨hw.2.2.2.1, hw.2.2.2.2.1, hw.2.2.2.2.2.1⟩)
  rename_i h4
  split
  · rename_i h
    exact hbad _ (by decide) fun hw => h (decide_eq_true hw.2.2.2.2.2.2)
  rename_i h5
  obtain ⟨h6, h7, h8⟩ := of_decide_eq_true (not_not.mp h4)
  exact switch_says hmin ⟨Nat.not_lt.mp h1, Nat.not_lt.mp h2, Nat.not_lt.mp h3, h6, h7, h8,
    of_decide_eq_true (not_not.mp h5)⟩ hlen

/-- The port of a frame that was accepted. -/
structure Accepted (m : Frame) (p p' : Port) : Prop where
  configDigestSnp : p'.configDigestSnp = p.configDigestSnp
  rcvdRSTP : p'.rcvdRSTP = p.rcvdRSTP
  msgBpduType : p'.msgBpduType = m 20

theorem within_header : Within len (stpPortinfoRxBpdu.header m t p) ↔ 22 ≤ len := by
  simp [stpPortinfoRxBpdu.header, Bpdu.version, Bpdu.bpdu_type, Bpdu.flags]
  omega

/-- What follows the header check of a frame that is taken for one of the type `t`. -/
inductive RxRest (m : Frame) (o : Owner) (p : Port) (t : UInt8) :
    Reads (Int × Port × Option UInt8) → Prop
  | taken (h : p.takes o t) {q : Port} (hsnp : q.configDigestSnp = p.configDigestSnp)
      (hrstp : q.rcvdRSTP = p.rcvdRSTP) : RxRest m o p t (stpPortinfoRxBpdu.header m t q)
  | refused (h : isBpduType t) (hn : ¬ p.takes o t) {q : Port} : RxRest m o p t (pure (-1, q, none))
  | unknown (h : ¬ isBpduType t) :
      RxRest m o p t (Bpdu.bpdu_type.byte m >>= fun _ => pure (-1, p, none))

theorem rx_rest (hr : 0 ≤ (stpInCheckBpduHeader m len p.configDigestSnp).val.1)
    (ht : t = (stpInCheckBpduHeader m len p.configDigestSnp).val.2.getD junk) :
    ∃ s, stpPortinfoRxBpdu m len junk o p =
      (stpInCheckBpduHeader m len p.configDigestSnp >>= fun _ => s) ∧ RxRest m o p t s := by
  refine ⟨_, rfl, ?_⟩
  dsimp only
  rw [if_neg (Int.not_lt.mpr hr), ← ht]
  have hnon : p.admin_non_stp = true → ¬ p.takes o t := fun h htakes => htakes.2.1 h
  split
  · rename_i h
    have hkind : isBpduType t := .inl h
    split
    · rename_i hn
      exact .refused hkind (hnon hn)
    · rename_i hn
      refine .taken ⟨hkind, hn, fun hmulti => ?_⟩ rfl rfl
      rw [h] at hmulti
      exact absurd hmulti (by decide)
  split
  · rename_i h
    have hkind : isBpduType t := .inr (.inl h)
    split
    · rename_i hn
      exact .refused hkind (hnon hn)
    · rename_i hn
      refine .taken ⟨hkind, hn, fun hmulti => ?_⟩ rfl rfl
      rw [h] at hmulti
      exact absurd hmulti (by decide)
  split
  · rename_i h
    have hkind : isBpduType t := .inr (.inr h)
    split
    · rename_i hn
      exact .refused hkind (hnon hn)
    split
    · rename_i hv
      exact .refused hkind fun htakes => absurd (htakes.2.2 h) (Nat.not_le.mpr hv)
    · rename_i hn hv
      exact .taken ⟨hkind, hn, fun _ => Nat.not_lt.mp hv⟩ rfl rfl
  · rename_i h1 h2 h3
    refine .unknown ?_
    rintro (h | h | h)
    · exact h1 h
    · exact h2 h
    · exact h3 h

/-! ## The messages of a frame -/

theorem within_setMstMsg {mstid : UInt16} {q : Port} :
    Within n (setMstMsg m i cisco t mstid q) ↔ recordEnd cisco true i ≤ n := by
  cases cisco
  · simp [setMstMsg, recordEnd, Bpdu.msti_flags, Member.shift, Bpdu.MCfgMsg]
    omega
  · simp [setMstMsg, recordEnd, CiscoBpdu.msti_flags, Member.shift, CiscoBpdu.MCfgMsg, Bpdu.MCfgMsg]
    omega

theorem within_setMstMsgs : Within n (setMstMsgs m cisco t i c) ↔
    recordEnd cisco (c.find (m.mstid cisco i)).isSome i ≤ n := by
  have hrest : ∀ {id : UInt16}, Within n (match c.find id with
      | none => pure c
      | some p => do
        let f ← setMstMsg m i cisco t id p
        pure (c.modify id f)) ↔
      ((c.find id).isSome → recordEnd cisco true i ≤ n) := by
    intro id
    cases c.find id with
    | none => simp
    | some p => simp [within_setMstMsg]
  have hmono : recordEnd cisco false i ≤ recordEnd cisco true i := by
    cases cisco <;> simp [recordEnd]
  have hend : Within n (setMstMsgs m cisco t i c) ↔ recordEnd cisco false i ≤ n ∧
      ((c.find (m.mstid cisco i)).isSome → recordEnd cisco true i ≤ n) := by
    rw [← hrest]
    cases cisco
    · simp only [setMstMsgs, Bool.false_eq_true, if_false, within_bind, within_ntohs, ntohs_val]
      refine and_congr ?_ Iff.rfl
      simp [Member.head, Member.shift, Bpdu.msti_region_root_id, recordEnd, Nat.add_assoc]
    · simp only [setMstMsgs, if_true, within_bind, within_ntohs, ntohs_val]
      refine and_congr ?_ Iff.rfl
      simp [Member.head, Member.shift, CiscoBpdu.msti_region_root_id, recordEnd, Nat.add_assoc]
  rw [hend]
  cases (c.find (m.mstid cisco i)).isSome with
  | false => simp
  | true => simpa using fun h => hmono.trans h

/-- The chain leads to ports of the same instances. -/
def PortChain.Alike (c c' : PortChain) : Prop := ∀ id, (c'.find id).isSome = (c.find id).isSome

theorem modify_alike {id : UInt16} {f : Port → Port} (hf : ∀ p, (f p).vlan_id = p.vlan_id) :
    c.Alike (c.modify id f) := by
  have hlist : ∀ (id' : UInt16) (l : List Port),
      ((l.replaceF fun p => if p.vlan_id = id then some (f p) else none).find?
        (·.vlan_id = id')).isSome = (l.find? (·.vlan_id = id')).isSome := by
    intro id' l
    induction l with
    | nil => rfl
    | cons p l ih =>
      by_cases hp : p.vlan_id = id
      · have h : (p :: l).replaceF (fun p => if p.vlan_id = id then some (f p) else none) = f p :: l :=
          List.replaceF_cons_of_some _ (if_pos hp)
        rw [h, List.find?_cons, List.find?_cons, hf]
        split <;> rfl
      · have h : (p :: l).replaceF (fun p => if p.vlan_id = id then some (f p) else none) =
            p :: l.replaceF fun p => if p.vlan_id = id then some (f p) else none :=
          List.replaceF_cons_of_none _ (if_neg hp)
        rw [h, List.find?_cons, List.find?_cons]
        split
        · rfl
        · exact ih
  intro id'
  by_cases hid : id = 0
  · simp only [PortChain.find, PortChain.modify, hid, if_true]
    split
    · rfl
    · split <;> rfl
  · simp only [PortChain.find, PortChain.modify, hid, if_false]
    split
    · rfl
    · split
      · rfl
      · exact hlist id' c.msts

theorem setMstMsgs_alike : c.Alike (setMstMsgs m cisco t i c).val := by
  have hrest : ∀ {id : UInt16}, c.Alike (Reads.val (match c.find id with
      | none => pure c
      | some p => do
        let f ← setMstMsg m i cisco t id p
        pure (c.modify id f))) := by
    intro id
    cases c.find id with
    | none => exact fun id' => rfl
    | some p =>
      refine modify_alike fun q => ?_
      cases cisco <;> rfl
  cases cisco <;> exact hrest

theorem within_records {k : Nat} : Within n (upTo (setMstMsgs m cisco t) k c) ↔
    ∀ i < k, recordEnd cisco (c.find (m.mstid cisco i)).isSome i ≤ n := by
  refine within_upTo (I := c.Alike) (fun i c' h id => ?_) (fun i c' h => ?_) fun _ => rfl
  · exact (setMstMsgs_alike id).trans (h id)
  · rw [within_setMstMsgs, h]

theorem within_setRecords (hn : 56 ≤ n) : Within n (setRecords m cisco c) ↔
    (c.cist.rcvdInternal → m.recordsFit n cisco c) := by
  have hcount : ∀ {i k : Nat}, 0 < k → (i < (mstCnt (m.version3Length cisco) k % 65536).toNat ↔
      (i : Int) < mstCnt (m.version3Length cisco) k % 65536) := by
    intro i k _
    omega
  cases cisco
  · have hread : Within n (Bpdu.version_3_length.ntohs m) := by
      simp only [within_ntohs, Bpdu.version_3_length]
      omega
    have hval : (Bpdu.version_3_length.ntohs m).val = m.version3Length false := ntohs_val
    simp only [setRecords, Bool.false_eq_true, if_false, within_ite, within_bind, within_pure,
      within_records, hval, hread, not_not, implies_true, true_and]
    rfl
  · have hread : Within n (CiscoBpdu.version_3_length.ntohs m) := by
      simp only [within_ntohs, CiscoBpdu.version_3_length]
      omega
    have hval : (CiscoBpdu.version_3_length.ntohs m).val = m.version3Length true := ntohs_val
    simp only [setRecords, if_true, within_ite, within_bind, within_pure, within_records, hval, hread,
      not_not, implies_true, true_and]
    rfl

theorem within_cistMsgCisco : Within n (stpReceiveSetRcvdMsgsCisco.cistMsg m t p) ↔
    (if t = BPDU_MSTP then 119 else 114) ≤ n := by
  by_cases ht : t = BPDU_MSTP
  · cases hin : p.rcvdInternal <;>
    · simp [stpReceiveSetRcvdMsgsCisco.cistMsg, ht, hin, CiscoBpdu.ConfigurationDigest, Bpdu.root_id,
        Bpdu.root_path_cost, CiscoBpdu.cist_region_root_id, Bpdu.port_id, Bpdu.bridge_id,
        CiscoBpdu.cist_inter_path_cost, CiscoBpdu.cist_remaining_hops]
      omega
  · simp [stpReceiveSetRcvdMsgsCisco.cistMsg, ht, Bpdu.root_id, Bpdu.root_path_cost,
      CiscoBpdu.cist_region_root_id, Bpdu.port_id, Bpdu.bridge_id]
    omega

theorem cistMsgCisco_rcvdInternal :
    (stpReceiveSetRcvdMsgsCisco.cistMsg m t p).val.rcvdInternal = p.rcvdInternal := by
  by_cases ht : t = BPDU_MSTP
  · cases hin : p.rcvdInternal <;> simp [stpReceiveSetRcvdMsgsCisco.cistMsg, ht, hin]
  · simp [stpReceiveSetRcvdMsgsCisco.cistMsg, ht]

theorem within_cistMsg : Within n (stpReceiveSetRcvdMsgs.cistMsg m t p) ↔
    (if t = BPDU_MSTP then 119 else 52) ≤ n := by
  by_cases ht : t = BPDU_MSTP
  · cases hin : p.rcvdInternal <;>
    · simp [stpReceiveSetRcvdMsgs.cistMsg, ht, hin, Bpdu.root_id, Bpdu.root_path_cost, Bpdu.port_id,
        Bpdu.bridge_id, Bpdu.cist_bridge_id, Bpdu.cist_inter_path_cost, Bpdu.cist_remaining_hops]
      omega
  · simp [stpReceiveSetRcvdMsgs.cistMsg, ht, Bpdu.root_id, Bpdu.root_path_cost, Bpdu.port_id,
      Bpdu.bridge_id]
    omega

theorem cistMsg_rcvdInternal :
    (stpReceiveSetRcvdMsgs.cistMsg m t p).val.rcvdInternal = p.rcvdInternal := by
  by_cases ht : t = BPDU_MSTP
  · cases hin : p.rcvdInternal <;> simp [stpReceiveSetRcvdMsgs.cistMsg, ht, hin]
  · simp [stpReceiveSetRcvdMsgs.cistMsg, ht]

theorem find_cist {q : Port} {id : UInt16} :
    ({ c with cist := q }.find id).isSome = (c.find id).isSome := by
  simp only [PortChain.find]
  split
  · rfl
  · split <;> rfl

theorem recordsFit_cist {q : Port} :
    m.recordsFit n cisco { c with cist := q } ↔ m.recordsFit n cisco c := by
  simp only [Frame.recordsFit, find_cist]

theorem within_setRcvdMsgsCisco : Within n (stpReceiveSetRcvdMsgsCisco m t c) ↔
    (if t = BPDU_MSTP then 119 else 114) ≤ n ∧ (c.cist.rcvdInternal → m.recordsFit n true c) := by
  rw [stpReceiveSetRcvdMsgsCisco, within_bind, within_cistMsgCisco]
  refine and_congr_right fun hn => ?_
  have hn : 56 ≤ n := by
    split at hn <;> omega
  rw [within_setRecords hn, recordsFit_cist, cistMsgCisco_rcvdInternal]

/-- From a frame of another region only the message of the CIST is taken. -/
theorem within_setRcvdMsgs (hin : c.cist.rcvdInternal → t = BPDU_MSTP) :
    Within n (stpReceiveSetRcvdMsgs m t c) ↔
      (if t = BPDU_MSTP then 119 else if c.cist.configDigestSnp then 114 else 52) ≤ n ∧
        (c.cist.rcvdInternal → m.recordsFit n c.cist.configDigestSnp c) := by
  by_cases hsnp : c.cist.configDigestSnp = true
  · rw [stpReceiveSetRcvdMsgs, if_pos hsnp]
    refine within_setRcvdMsgsCisco.trans ?_
    rw [recordsFit_cist, hsnp, if_pos rfl]
  · rw [stpReceiveSetRcvdMsgs, if_neg hsnp, within_bind, within_cistMsg, if_neg hsnp,
      Bool.eq_false_iff.mpr hsnp]
    refine and_congr_right fun hn => ?_
    by_cases hint : c.cist.rcvdInternal = true
    · rw [if_pos (hin hint)] at hn
      rw [within_setRecords (by omega), recordsFit_cist, cistMsg_rcvdInternal]
    · have hint' : (stpReceiveSetRcvdMsgs.cistMsg m t
          { c.cist with rcvdMsg := true }).val.rcvdInternal ≠ true := by
        rw [cistMsg_rcvdInternal]
        exact hint
      rw [setRecords, if_pos hint']
      simp [hint]

theorem within_receiveState (hp : Accepted m p c.cist) (hsnp : p.configDigestSnp = cisco) :
    Within n (receiveState m t o c) ↔
      (if t = BPDU_MSTP then 119 else if cisco then 114 else 52) ≤ n ∧
        (p.sameRegion o m t → m.recordsFit n cisco c) := by
  have hregion : stpReceiveFromSameRegion m t o (stpReceiveUpdtBPDUVersion c.cist) = true ↔
      p.sameRegion o m t := by
    simp only [stpReceiveFromSameRegion, stpReceiveUpdtBPDUVersion, Port.sameRegion, hp.rcvdRSTP,
      hp.msgBpduType, hp.configDigestSnp, decide_eq_true_eq, Bool.decide_or, Bool.or_eq_true]
    tauto
  obtain rfl : c.cist.configDigestSnp = cisco := hp.configDigestSnp.trans hsnp
  refine (within_setRcvdMsgs fun h => (hregion.mp h).1).trans ?_
  rw [recordsFit_cist]
  exact and_congr Iff.rfl (imp_congr hregion Iff.rfl)

theorem within_taken {q : Port} (hsnp : q.configDigestSnp = c.cist.configDigestSnp)
    (hrstp : q.rcvdRSTP = c.cist.rcvdRSTP) :
    Within n (stpPortinfoRxBpdu.header m t q >>= fun r =>
      receiveBpdu.messages m o { c with cist := r.2.1 } r.2.2) ↔ m.messagesFit n o c t := by
  rw [within_bind, within_header]
  have htype : (Bpdu.bpdu_type.byte m).val = m 20 := byte_val rfl
  have hp : Accepted m c.cist (stpPortinfoRxBpdu.header m t q).val.2.1 := ⟨hsnp, hrstp, htype⟩
  have hstate := within_receiveState (n := n) (t := t) (o := o)
    (c := { c with cist := (stpPortinfoRxBpdu.header m t q).val.2.1 }) hp rfl
  rw [recordsFit_cist] at hstate
  refine (and_congr_right fun _ => hstate).trans ?_
  rw [Frame.messagesFit]
  refine and_iff_right_of_imp fun h => ?_
  have := h.1
  split at this
  · omega
  · split at this <;> omega

/-- What is read after the header check of a frame of the type `t`. -/
theorem within_rest {s : Reads (Int × Port × Option UInt8)} (h : RxRest m o c.cist t s) :
    Within n (s >>= fun r => receiveBpdu.messages m o { c with cist := r.2.1 } r.2.2) ↔
      (¬ isBpduType t → 21 ≤ n) ∧ (c.cist.takes o t → m.messagesFit n o c t) := by
  cases h with
  | taken h hsnp hrstp => 
    rw [within_taken hsnp hrstp]
    simp [h, h.1]
  | refused h hn => 
    rw [within_bind]
    simp [h, hn, receiveBpdu.messages]
  | unknown h =>
    have hn : ¬ c.cist.takes o t := fun htakes => h htakes.1
    rw [within_bind]
    simp [h, hn, receiveBpdu.messages, Bpdu.bpdu_type]

theorem rx_dropped (hr : (stpInCheckBpduHeader m len p.configDigestSnp).val.1 < 0) :
    stpPortinfoRxBpdu m len junk o p =
      (stpInCheckBpduHeader m len p.configDigestSnp >>= fun _ => pure (-1, p, none)) := by
  refine (bind_at _ _).trans ?_
  rw [if_pos hr]

/-- Every octet that is read of a frame lies in it exactly if the frame is long enough for what it is
taken for. -/
theorem receive_within : Within len (receiveBpdu m len junk o c) ↔ m.Fits len junk o c := by
  have hcut : ∀ s, stpPortinfoRxBpdu m len junk o c.cist =
      (stpInCheckBpduHeader m len c.cist.configDigestSnp >>= fun _ => s) →
      (Within len (receiveBpdu m len junk o c) ↔ m.headerFits len c.cist.configDigestSnp ∧
        Within len (s >>= fun r =>
          receiveBpdu.messages m o { c with cist := r.2.1 } r.2.2)) := by
    intro s hs
    rw [receiveBpdu, hs, within_bind, within_bind, within_check, bind_val, and_assoc, within_bind]
  by_cases hneg : (stpInCheckBpduHeader m len c.cist.configDigestSnp).val.1 < 0
  · rw [hcut _ (rx_dropped hneg), Frame.Fits]
    refine and_congr_right fun hfits => ?_
    rcases @check_outcome _ _ junk _ hfits with ⟨-, htype⟩ | ⟨hpos, -⟩
    · simp [htype, receiveBpdu.messages]
    · omega
  · obtain ⟨s, hs, hrest⟩ := @rx_rest m _ junk _ o _ (Int.not_lt.mp hneg) rfl
    rw [hcut s hs, within_rest hrest, Frame.Fits]
    refine and_congr_right fun hfits => ?_
    rcases @check_outcome _ _ junk _ hfits with ⟨hneg', -⟩ | ⟨-, htype⟩
    · omega
    · simp [htype]

end

/-- An MSTP frame of the region whose `MSTCID` is all zero, that says it has one record. -/
def oneRecord : Frame := fun a =>
  if a = 13 then 105 else if a = 14 ∨ a = 15 then BPDU_L_SAP else if a = 16 then LLC_UI
  else if a = 19 then 3 else if a = 20 then BPDU_RSTP else if a = 54 then 80 else 0

def zeroMac : MacAddr := ⟨List.replicate 6 0, rfl⟩

def zeroPrio : PrioVector :=
  { root_bridge := ⟨0, zeroMac⟩, root_path_cost := 0, region_root_bridge := ⟨0, zeroMac⟩
    region_root_path_cost := 0, design_bridge := ⟨0, zeroMac⟩, design_port := 0, bridge_port := 0 }

def zeroTimes : TimeValues :=
  { MessageAge := 0, MaxAge := 0, ForwardDelay := 0, HelloTime := 0, RemainingHops := 0 }

def freshPort : Port :=
  { vlan_id := 0, port_id := 0, configDigestSnp := false, admin_non_stp := false, rcvdBpdu := false
    rcvdRSTP := false, rcvdSTP := false, rcvdInternal := false, rcvdMsg := false
    msgBpduVersion := 0, msgBpduType := 0, msgFlags := 0, msgPrio := zeroPrio, msgTimes := zeroTimes
    digest := [], rx_cfg_bpdu_cnt := 0, rx_rstp_bpdu_cnt := 0, rx_tcn_bpdu_cnt := 0 }

/-- The record of a frame that ends where the records begin is read, and with it what follows the
frame. -/
theorem receive_past_end : ¬ Within 119 (receiveBpdu oneRecord 119 0
    { ForceVersion := 3, MstConfigId := List.replicate 51 0 }
    { cist := freshPort, msts := [], indexed := true }) := by
  decide +kernel

end Stp
end DaemonGroup
