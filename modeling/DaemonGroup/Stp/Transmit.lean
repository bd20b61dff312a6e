import DaemonGroup.Stp.PortInfo
import DaemonGroup.Lib.Stores

/-!
# DaemonGroup.Stp.Transmit

The frames that a port of the CIST sends (`stp_transmit_txMstp`, `stp_transmit_txMstp_to_Cisco`): the
message of the CIST and a record for each port on the `nextMst` chain
(`stp_vector_set_mst_vector`, `stp_vector_cisco_set_mst_vector`).

A function that fills members of a frame is the list of what it stores. The flags are stored once,
with the role that the caller adds to them.
-/

namespace DaemonGroup
namespace Stp

open Lib

def BPDU_VERSION_ID : UInt8 := 0x00
def BPDU_VERSION_RAPID_ID : UInt8 := 0x02
def BPDU_VERSION_MULTI_ID : UInt8 := 0x03

def TOLPLOGY_CHANGE_BIT : UInt8 := 0x01
def LEARN_BIT : UInt8 := 0x10
def FORWARD_BIT : UInt8 := 0x20

def MSTP_PORT_ROLE_MASTER : UInt8 := 0x00
def RSTP_PORT_ROLE_ALTBACK : UInt8 := 0x01

/-- `unsigned char [n]` -/
abbrev OctetArray (n : Nat) : Type := {l : Octets // l.length = n}

/-- What a function stores, each with the offset in the frame. -/
abbrev FrameStores : Type := List (Nat × Octets)

/-- The part of `PORT_T` and of its owner that a message is made of. -/
structure TxPort where
  vlan_id : UInt16
  BrId : BridgeId
  port_id : UInt16
  role : PortRole
  portPrio : PrioVector
  portTimes : TimeValues
  tcWhile : Nat
  proposing : Bool
  learning : Bool
  forwarding : Bool
  agree : Bool

/-- A port of the CIST, the ports on its `nextMst` chain, and the part of the port and of its owner
that is not in a message for one instance. `userDigest` is the digest of the CIST, if it is in the
list of the instances. -/
structure Transmitter where
  ForceVersion : Nat
  MstConfigId : OctetArray 51
  admin_non_stp : Bool
  configDigestSnp : Bool
  digest : OctetArray 16
  userDigest : Option (OctetArray 16)
  src_mac : MacAddr
  cist : TxPort
  nextMst : List TxPort

/-! ## Values -/

/-- `htons` -/
def beShort (x : UInt16) : Octets := [(x >>> 8).toUInt8, x.toUInt8]

/-- `htonl` -/
def beLong (x : UInt32) : Octets :=
  [(x >>> 24).toUInt8, (x >>> 16).toUInt8, (x >>> 8).toUInt8, x.toUInt8]

/-- A bridge identifier as it is in a frame. -/
def BridgeId.octets (b : BridgeId) : Octets := beShort b.prio ++ b.addr

def Member.store (f : Member) (l : Octets) : Nat × Octets := (f.off, l)

/-- `stp_vector_set_bridge_id` -/
def stpVectorSetBridgeId (b : BridgeId) (f : Member) : Nat × Octets := f.store b.octets

/-- `stp_times_set` -/
def stpTimesSet (v : TimeValues) : FrameStores :=
  [Bpdu.message_age.store (beShort (v.MessageAge <<< 8)),
    Bpdu.max_age.store (beShort (v.MaxAge <<< 8)),
    Bpdu.hello_time.store (beShort (v.HelloTime <<< 8)),
    Bpdu.forward_delay.store (beShort (v.ForwardDelay <<< 8))]

/-- The bits of the role in the flags of a message. -/
def PortRole.bits : PortRole → UInt8
  | .MasterPort => MSTP_PORT_ROLE_MASTER
  | .AlternatePort => RSTP_PORT_ROLE_ALTBACK
  | .BackupPort => RSTP_PORT_ROLE_ALTBACK
  | .RootPort => RSTP_PORT_ROLE_ROOT
  | .DesignatedPort => RSTP_PORT_ROLE_DESGN
  | .DisabledPort => RSTP_PORT_ROLE_UNKN
  | .NonStpPort => RSTP_PORT_ROLE_UNKN

/-- The flags of a message for the CIST. -/
def TxPort.flags (p : TxPort) : UInt8 :=
  (if p.tcWhile ≠ 0 then TOLPLOGY_CHANGE_BIT else 0) |||
  (if p.proposing then PROPOSAL_BIT else 0) |||
  (if p.learning then LEARN_BIT else 0) |||
  (if p.forwarding then FORWARD_BIT else 0) |||
  (if p.agree then AGREEMENT_BIT else 0) |||
  (p.role.bits <<< PORT_ROLE_OFFS)

/-- The flags of a message for an MST instance. -/
def TxPort.mstFlags (p : TxPort) : UInt8 :=
  p.flags ||| (if p.role = .MasterPort then MASTER_BIT else 0)

/-! ## Messages -/

/-- `stp_transmit_build_config_bpdu_mstp` -/
def stpTransmitBuildConfigBpduMstp (p : TxPort) : FrameStores :=
  [Bpdu.flags.store [p.flags],
    stpVectorSetBridgeId p.portPrio.root_bridge Bpdu.root_id,
    Bpdu.root_path_cost.store (beLong p.portPrio.root_path_cost),
    stpVectorSetBridgeId p.portPrio.region_root_bridge Bpdu.bridge_id,
    Bpdu.port_id.store (beShort p.port_id)] ++ stpTimesSet p.portTimes

/-- `stp_transmit_build_cisco_config_bpdu_mstp` -/
def stpTransmitBuildCiscoConfigBpduMstp (p : TxPort) : FrameStores :=
  [Bpdu.flags.store [p.flags],
    stpVectorSetBridgeId p.portPrio.root_bridge Bpdu.root_id,
    Bpdu.root_path_cost.store (beLong p.portPrio.root_path_cost),
    stpVectorSetBridgeId p.BrId Bpdu.bridge_id,
    Bpdu.port_id.store (beShort p.port_id)] ++ stpTimesSet p.portTimes

/-- `stp_vector_set_mst_vector` for the record `i` -/
def stpVectorSetMstVector (i : Nat) (p : TxPort) : FrameStores :=
  let msg := Bpdu.MCfgMsg i
  let v := p.portPrio
  [(Bpdu.msti_flags.shift msg).store [p.mstFlags],
    stpVectorSetBridgeId v.region_root_bridge (Bpdu.msti_region_root_id.shift msg),
    (Bpdu.msti_internal_root_path_cost.shift msg).store (beLong v.region_root_path_cost),
    (Bpdu.msti_bridge_priority.shift msg).store [((p.BrId.prio &&& 0xf000) >>> 8).toUInt8],
    (Bpdu.msti_port_priority.shift msg).store [((p.port_id &&& 0xf000) >>> 8).toUInt8],
    (Bpdu.msti_remaining_hops.shift msg).store [p.portTimes.RemainingHops]]

/-- `stp_vector_cisco_set_mst_vector` for the record `i` -/
def stpVectorCiscoSetMstVector (i : Nat) (p : TxPort) : FrameStores :=
  let msg := CiscoBpdu.MCfgMsg i
  let v := p.portPrio
  [(CiscoBpdu.msti_id.shift msg).store [p.vlan_id.toUInt8],
    (CiscoBpdu.msti_flags.shift msg).store [p.mstFlags],
    stpVectorSetBridgeId v.region_root_bridge (CiscoBpdu.msti_region_root_id.shift msg),
    (CiscoBpdu.msti_internal_root_path_cost.shift msg).store (beLong v.region_root_path_cost),
    stpVectorSetBridgeId p.BrId (CiscoBpdu.msti_bridge_priority.shift msg),
    (CiscoBpdu.msti_port_priority.shift msg).store (beShort ((p.port_id &&& 0xf000) >>> 8)),
    (CiscoBpdu.msti_remaining_hops.shift msg).store [p.portTimes.RemainingHops]]

/-! ## Frames -/

def src_mac : Member := ⟨6, 6⟩

/-- `g_bpdu_packet`, and zeros behind it -/
def gBpduPacket : Frame := fun a =>
  ([0x01, 0x80, 0xc2, 0x00, 0x00, 0x00, 0x00, 0x00, 0x00, 0x00, 0x00, 0x00, 0x00, 0x00,
    BPDU_L_SAP, BPDU_L_SAP, LLC_UI] : Octets).getD a 0

/-! The octets before the protocol header, those of the header, and those of the body. -/
def frameHeaderSize : Nat := 17
def bpduHeaderSize : UInt16 := 4
def bpduBodySize : UInt16 := 31

/-- `stp_transmit_build_bpdu_header` -/
def stpTransmitBuildBpduHeader (mac : MacAddr) (bpdu_type : UInt8) (pkt_len : UInt16) :
    FrameStores :=
  [src_mac.store mac,
    Bpdu.bpdu_type.store [if bpdu_type = BPDU_MSTP then BPDU_RSTP else bpdu_type],
    Bpdu.version.store [if bpdu_type = BPDU_RSTP then BPDU_VERSION_RAPID_ID
      else if bpdu_type = BPDU_MSTP then BPDU_VERSION_MULTI_ID else BPDU_VERSION_ID],
    Bpdu.len8023.store (beShort (pkt_len + 3))]

namespace Transmitter

variable (b : Transmitter)

/-- `version_3_length`, if a record has `k` octets -/
def version3Length (k : Nat) : UInt16 := UInt16.ofNat (64 + k * b.nextMst.length)

/-- The digest that goes to the other vendor: that of the bridge, unless the port has one from a
message or the user has set one. -/
def ciscoDigest (userDigest : OctetArray 16) : Octets :=
  if b.configDigestSnp then
    if userDigest.val.headD 0 ≠ 0 then userDigest else b.digest
  else b.MstConfigId.val.drop 35

/-- `pkt_len` of a frame without MST records, and of those with them. -/
def rstpLength : UInt16 := bpduHeaderSize + bpduBodySize + 1
def standardLength : UInt16 := bpduHeaderSize + bpduBodySize + 1 + 2 + b.version3Length 16
def ciscoLength : UInt16 := bpduHeaderSize + bpduBodySize + 1 + 1 + 2 + b.version3Length 26

/-- What is stored before the MST records. -/
def standardHead : FrameStores :=
  stpTransmitBuildConfigBpduMstp b.cist ++
  [Bpdu.MSTCID.store b.MstConfigId,
    stpVectorSetBridgeId b.cist.BrId Bpdu.cist_bridge_id,
    Bpdu.cist_inter_path_cost.store (beLong b.cist.portPrio.region_root_path_cost),
    Bpdu.cist_remaining_hops.store [b.cist.portTimes.RemainingHops]]

def ciscoHead (userDigest : OctetArray 16) : FrameStores :=
  stpTransmitBuildCiscoConfigBpduMstp b.cist ++
  [CiscoBpdu.ConfigurationName.store ((b.MstConfigId.val.drop 1).take 32),
    CiscoBpdu.RevisionLevel.store ((b.MstConfigId.val.drop 33).take 2),
    CiscoBpdu.ConfigurationDigest.store (b.ciscoDigest userDigest),
    stpVectorSetBridgeId b.cist.portPrio.region_root_bridge CiscoBpdu.cist_region_root_id,
    CiscoBpdu.cist_inter_path_cost.store (beLong b.cist.portPrio.region_root_path_cost),
    CiscoBpdu.cist_remaining_hops.store [b.cist.portTimes.RemainingHops]]

/-- What is stored after the MST records. -/
def standardTail : FrameStores :=
  Bpdu.version_3_length.store (beShort (b.version3Length 16)) ::
    stpTransmitBuildBpduHeader b.src_mac BPDU_MSTP b.standardLength

def ciscoTail : FrameStores :=
  CiscoBpdu.version_3_length.store (beShort (b.version3Length 26)) ::
    stpTransmitBuildBpduHeader b.src_mac BPDU_MSTP b.ciscoLength

def standardStores : FrameStores :=
  b.standardHead ++ each stpVectorSetMstVector 0 b.nextMst ++ b.standardTail

def ciscoStores (userDigest : OctetArray 16) : FrameStores :=
  b.ciscoHead userDigest ++ each stpVectorCiscoSetMstVector 0 b.nextMst ++ b.ciscoTail

/-- A frame of version 2: without what is about the region. -/
def rstpFrame (build : TxPort → FrameStores) : Frame × Nat :=
  (stores gBpduPacket (build b.cist ++ stpTransmitBuildBpduHeader b.src_mac BPDU_RSTP rstpLength),
    rstpLength.toNat + frameHeaderSize)

/-- `stp_transmit_txMstp_to_Cisco`: the frame and its length. -/
def stpTransmitTxMstpToCisco : Option (Frame × Nat) :=
  if b.ForceVersion < 3 then some (b.rstpFrame stpTransmitBuildCiscoConfigBpduMstp)
  else
    b.userDigest.map fun userDigest =>
      (stores gBpduPacket (b.ciscoStores userDigest), b.ciscoLength.toNat + frameHeaderSize)

/-- `stp_transmit_txMstp`: the frame and its length, if one is sent. -/
def stpTransmitTxMstp : Option (Frame × Nat) :=
  if b.admin_non_stp then none
  else if b.ForceVersion ≤ 1 then none
  else if b.configDigestSnp then b.stpTransmitTxMstpToCisco
  else if b.ForceVersion < 3 then some (b.rstpFrame stpTransmitBuildConfigBpduMstp)
  else some (stores gBpduPacket b.standardStores, b.standardLength.toNat + frameHeaderSize)

end Transmitter

end Stp
end DaemonGroup
