import DaemonGroup.Lib.Reads
import Mathlib.Data.UInt

/-!
# DaemonGroup.Stp.Bpdu

The frames of the spanning tree protocol (`stp_bpdu.h`) and the values that are read off them. The
structures of the header are packed: a member is the octets at its offset. `MCfgMsg i` is the `i`-th
record of an MST instance, in the standard format and in that of the other vendor.

A `long` is four octets wide, as `ntohl` takes it. The host has network byte order.
-/

namespace DaemonGroup
namespace Stp

open Lib

abbrev Octets : Type := List UInt8

/-- The memory from the first octet of a frame on; the frame ends somewhere, the memory does not. -/
abbrev Frame : Type := Nat → UInt8

abbrev MacAddr : Type := {l : Octets // l.length = 6}

/-- `BRIDGE_ID` -/
structure BridgeId where
  prio : UInt16
  addr : MacAddr
deriving DecidableEq

/-- `PRIO_VECTOR_T` -/
structure PrioVector where
  root_bridge : BridgeId
  root_path_cost : UInt32
  region_root_bridge : BridgeId
  region_root_path_cost : UInt32
  design_bridge : BridgeId
  design_port : UInt16
  bridge_port : UInt16
deriving DecidableEq

/-- `TIMEVALUES_T` -/
structure TimeValues where
  MessageAge : UInt16
  MaxAge : UInt16
  ForwardDelay : UInt16
  HelloTime : UInt16
  RemainingHops : UInt8
deriving DecidableEq, Repr

/-! ## Members -/

/-- A member of a packed structure. -/
structure Member where
  off : Nat
  size : Nat
deriving DecidableEq, Repr

/-- The `unsigned short` that a member begins with. -/
def Member.head (f : Member) : Member := { f with size := 2 }

/-- The member of an array element or of a nested structure that begins at `a`. -/
def Member.shift (f : Member) (a : Nat) : Member := { f with off := a + f.off }

namespace Bpdu

/-! `ETH_HEADER_T` -/
def len8023 : Member := ⟨12, 2⟩
def dsap : Member := ⟨14, 1⟩
def ssap : Member := ⟨15, 1⟩
def llc : Member := ⟨16, 1⟩

/-! `BPDU_HEADER_T` -/
def protocol0 : Member := ⟨17, 1⟩
def protocol1 : Member := ⟨18, 1⟩
def version : Member := ⟨19, 1⟩
def bpdu_type : Member := ⟨20, 1⟩

/-! `BPDU_BODY_T` -/
def flags : Member := ⟨21, 1⟩
def root_id : Member := ⟨22, 8⟩
def root_path_cost : Member := ⟨30, 4⟩
def bridge_id : Member := ⟨34, 8⟩
def port_id : Member := ⟨42, 2⟩
def message_age : Member := ⟨44, 2⟩
def max_age : Member := ⟨46, 2⟩
def hello_time : Member := ⟨48, 2⟩
def forward_delay : Member := ⟨50, 2⟩

/-! `MSTP_BPDU_T`; `MSTP_Cisco_BPDU_T` has the first of them too. -/
def ver_1_len : Member := ⟨52, 1⟩
def version_3_length : Member := ⟨53, 2⟩
def MSTCID : Member := ⟨55, 51⟩
def cist_inter_path_cost : Member := ⟨106, 4⟩
def cist_bridge_id : Member := ⟨110, 8⟩
def cist_remaining_hops : Member := ⟨118, 1⟩
def MCfgMsg (i : Nat) : Nat := 119 + 16 * i

/-! `MSTI_CFG_MSG_T` -/
def msti_flags : Member := ⟨0, 1⟩
def msti_region_root_id : Member := ⟨1, 8⟩
def msti_internal_root_path_cost : Member := ⟨9, 4⟩
def msti_bridge_priority : Member := ⟨13, 1⟩
def msti_port_priority : Member := ⟨14, 1⟩
def msti_remaining_hops : Member := ⟨15, 1⟩

end Bpdu

namespace CiscoBpdu

/-! `MSTP_Cisco_BPDU_T` -/
def rsvd1 : Member := ⟨53, 1⟩
def version_3_length : Member := ⟨54, 2⟩
def ConfigurationName : Member := ⟨56, 32⟩
def RevisionLevel : Member := ⟨88, 2⟩
def ConfigurationDigest : Member := ⟨90, 16⟩
def cist_region_root_id : Member := ⟨106, 8⟩
def cist_inter_path_cost : Member := ⟨114, 4⟩
def cist_remaining_hops : Member := ⟨118, 1⟩
def rsvd2 : Member := ⟨119, 1⟩
def MCfgMsg (i : Nat) : Nat := 120 + 26 * i

/-! `MSTI_Cisco_CFG_MST_T` -/
def msti_id : Member := ⟨0, 1⟩
def msti_flags : Member := ⟨1, 1⟩
def msti_region_root_id : Member := ⟨2, 8⟩
def msti_internal_root_path_cost : Member := ⟨10, 4⟩
def msti_bridge_priority : Member := ⟨14, 8⟩
def msti_port_priority : Member := ⟨22, 2⟩
def msti_remaining_hops : Member := ⟨24, 1⟩

end CiscoBpdu

/-! ## Values -/

def word16 (l : Octets) : UInt16 := UInt16.ofNat ((l.getD 0 0).toNat * 256 + (l.getD 1 0).toNat)

def word32 (l : Octets) : UInt32 :=
  UInt32.ofNat ((l.getD 0 0).toNat * 16777216 + (l.getD 1 0).toNat * 65536 +
    (l.getD 2 0).toNat * 256 + (l.getD 3 0).toNat)

section
variable (m : Frame) (f : Member)

def Member.octets : Octets := Bytes.read m f.off f.size

def Member.load : Reads Octets := Reads.load m f.off f.size

def Member.byte : Reads UInt8 := do
  let l ← f.load m
  pure (l.getD 0 0)

/-- Is the member the octet `x`? -/
def Member.is (x : UInt8) : Reads Bool := do
  let y ← f.byte m
  pure (y = x)

/-- `ntohs` of the member. -/
def Member.ntohs : Reads UInt16 := do
  let l ← f.load m
  pure (word16 l)

/-- `ntohl` of the member. -/
def Member.ntohl : Reads UInt32 := do
  let l ← f.load m
  pure (word32 l)

def macAt (a : Nat) : MacAddr := ⟨Bytes.read m a 6, Bytes.length_read⟩

/-- `memcpy` of a MAC address from the address `a`. -/
def loadMac (a : Nat) : Reads MacAddr := ⟨macAt m a, (Reads.load m a 6).log⟩

/-- `stp_vector_get_bridge_id`. -/
def stpVectorGetBridgeId : Reads BridgeId := do
  let prio ← f.head.ntohs m
  let addr ← loadMac m (f.off + 2)
  pure ⟨prio, addr⟩

end

/-- `stp_times_get` with the hops that are set after it. -/
def stpTimesGet (m : Frame) (v : TimeValues) : Reads TimeValues := do
  let age ← Bpdu.message_age.ntohs m
  let maxAge ← Bpdu.max_age.ntohs m
  let delay ← Bpdu.forward_delay.ntohs m
  let hello ← Bpdu.hello_time.ntohs m
  pure { v with
    MessageAge := age >>> 8, MaxAge := maxAge >>> 8, ForwardDelay := delay >>> 8
    HelloTime := hello >>> 8 }

/-- `stp_vector_get_mst_vector` for the record `i`, in the format of the other vendor if `cisco`. -/
def stpVectorGetMstVector (m : Frame) (i : Nat) (cisco : Bool) (v : PrioVector) :
    Reads PrioVector := do
  if cisco then
    let msg := CiscoBpdu.MCfgMsg i
    let root ← stpVectorGetBridgeId m (CiscoBpdu.msti_region_root_id.shift msg)
    let cost ← (CiscoBpdu.msti_internal_root_path_cost.shift msg).ntohl m
    let _ ← stpVectorGetBridgeId m CiscoBpdu.cist_region_root_id
    let bridge ← stpVectorGetBridgeId m (CiscoBpdu.msti_bridge_priority.shift msg)
    let port ← (CiscoBpdu.msti_port_priority.shift msg).ntohs m
    pure { v with
      region_root_bridge := root, region_root_path_cost := cost, design_bridge := bridge
      design_port := port }
  else
    let msg := Bpdu.MCfgMsg i
    let root ← stpVectorGetBridgeId m (Bpdu.msti_region_root_id.shift msg)
    let cost ← (Bpdu.msti_internal_root_path_cost.shift msg).ntohl m
    let bridge ← stpVectorGetBridgeId m Bpdu.cist_bridge_id
    let bridgePrio ← (Bpdu.msti_bridge_priority.shift msg).byte m
    let port ← Bpdu.port_id.ntohs m
    let portPrio ← (Bpdu.msti_port_priority.shift msg).byte m
    pure { v with
      region_root_bridge := root
      region_root_path_cost := cost
      design_bridge := { bridge with prio := (bridgePrio &&& 0xf0).toUInt16 <<< 8 &&& (0xf000 : UInt16) }
      design_port := (port &&& (0x0fff : UInt16)) +
        ((portPrio &&& 0xf0).toUInt16 <<< 8 &&& (0xf000 : UInt16)) }

/-- `stp_vector_get_mst_timers` for the record `i`: in the standard format, whichever the frame
has. -/
def stpVectorGetMstTimers (m : Frame) (i : Nat) : Reads TimeValues := do
  let hops ← (Bpdu.msti_remaining_hops.shift (Bpdu.MCfgMsg i)).byte m
  pure { MessageAge := 0, MaxAge := 0, ForwardDelay := 0, HelloTime := 0, RemainingHops := hops }

/-! ## What is read -/

open Reads

section
variable {m : Frame} {f : Member} {n i : Nat}

@[simp] theorem within_member : Within n (f.load m) ↔ f.size = 0 ∨ f.off + f.size ≤ n := within_load

@[simp] theorem within_byte : Within n (f.byte m) ↔ f.size = 0 ∨ f.off + f.size ≤ n := by
  simp [Member.byte]

@[simp] theorem within_is {x : UInt8} : Within n (f.is m x) ↔ f.size = 0 ∨ f.off + f.size ≤ n := by
  simp [Member.is]

@[simp] theorem within_ntohs : Within n (f.ntohs m) ↔ f.size = 0 ∨ f.off + f.size ≤ n := by
  simp [Member.ntohs]

@[simp] theorem within_ntohl : Within n (f.ntohl m) ↔ f.size = 0 ∨ f.off + f.size ≤ n := by
  simp [Member.ntohl]

@[simp] theorem within_bridgeId : Within n (stpVectorGetBridgeId m f) ↔ f.off + 8 ≤ n := by
  have hmac : Within n (loadMac m (f.off + 2)) ↔ f.off + 8 ≤ n :=
    (within_load (m := m) (a := f.off + 2) (k := 6)).trans (by omega)
  simp [stpVectorGetBridgeId, Member.head, hmac]
  omega

@[simp] theorem within_timesGet {v : TimeValues} : Within n (stpTimesGet m v) ↔ 52 ≤ n := by
  simp [stpTimesGet, Bpdu.message_age, Bpdu.max_age, Bpdu.forward_delay, Bpdu.hello_time]
  omega

@[simp] theorem within_mstVector {cisco : Bool} {v : PrioVector} :
    Within n (stpVectorGetMstVector m i cisco v) ↔
      (if cisco then CiscoBpdu.MCfgMsg i + 24 else Bpdu.MCfgMsg i + 15) ≤ n := by
  cases cisco
  · simp [stpVectorGetMstVector, Member.shift, Bpdu.MCfgMsg, Bpdu.msti_region_root_id,
      Bpdu.msti_internal_root_path_cost, Bpdu.cist_bridge_id, Bpdu.msti_bridge_priority,
      Bpdu.port_id, Bpdu.msti_port_priority]
    omega
  · simp [stpVectorGetMstVector, Member.shift, CiscoBpdu.MCfgMsg, CiscoBpdu.msti_region_root_id,
      CiscoBpdu.msti_internal_root_path_cost, CiscoBpdu.cist_region_root_id,
      CiscoBpdu.msti_bridge_priority, CiscoBpdu.msti_port_priority]
    omega

@[simp] theorem within_mstTimers :
    Within n (stpVectorGetMstTimers m i) ↔ Bpdu.MCfgMsg i + 16 ≤ n := by
  simp only [stpVectorGetMstTimers, Member.shift, Bpdu.MCfgMsg, Bpdu.msti_remaining_hops, within_bind,
    within_byte, one_ne_zero, false_or, within_pure, and_true]

end

end Stp
end DaemonGroup
