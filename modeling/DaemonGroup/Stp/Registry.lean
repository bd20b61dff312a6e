import DaemonGroup.Stp.Receive
import Mathlib.Data.Finset.Insert
import Mathlib.Data.Finset.Range

/-!
# DaemonGroup.Stp.Registry

The instances of the spanning tree and their ports, as `stp_mgmt.c`, `stp_stpm.c` and `stp_port.c`
keep them: the list of instances, the ports of each instance, the chain of the ports with one index
through all the instances (`g_CISTPORT[index] -> nextMst -> ...`), the VLAN maps of the instances, and
the table `g_VID2MSTID`.

A pointer is the number of the allocation it points to; allocations are never used again. A linked
list is the list of the pointers in it. A function that follows a pointer to what has been freed, or
`NULL`, is undefined: its result is `none`.
-/

namespace DaemonGroup
namespace Stp

open Lib

def STP_OK : Int := 0
def STP_ERROR : Int := 1
def STP_Cannot_Create_Instance_For_Vlan : Int := 26
def STP_Cannot_Create_Instance_For_Port : Int := 27
def STP_BRIDGE_NOTFOUND : Int := 33
def STP_CREATE_PORT_FAIL : Int := 34
def STP_PORT_NOTFOUND : Int := 35

def STP_MSTI_MAX : UInt16 := 64
def STP_MAX_VID : Nat := 4094
def MAX_PORT_NUM : Int := 51

/-! ## Port numbers -/

inductive Product
  | AX7K | AU3K | AU3K_BCM | AU3K_BCAT | AU2K_TCAT | AX5K_E | AX5608 | AX5K_I | AX5K | AU4K | other
deriving DecidableEq, Repr

/-- `productId`, `stp_is_distributed` and `stp_slot_id`. -/
structure Chassis where
  product : Product
  distributed : Bool
  slot : Nat

/-- `BITMAP_T`: nine octets. -/
abbrev PortBmp : Type := Nat → UInt8

/-- The `int` of a number that was computed as an `unsigned int`. -/
def toInt (x : Int) : Int := (Int32.ofInt x).toInt

/-- `stp_port_global_index_parse`: the place of a port in `g_CISTPORT`. -/
def Chassis.stpPortGlobalIndexParse (c : Chassis) (port_index : UInt32) : Int :=
  if c.distributed then (port_index % 64).toNat
  else match c.product with
    | .AX7K => toInt ((port_index - 64) / 64 * 6 + port_index % 64).toNat
    | .AU3K | .AU3K_BCM | .AU3K_BCAT | .AU2K_TCAT | .AX5K_E | .AX5608 => toInt port_index.toNat
    | .AX5K_I => toInt (if port_index ≥ 56 then port_index - 56 else port_index).toNat
    | .AX5K | .AU4K => toInt (if port_index ≥ 64 then port_index - 64 else port_index).toNat
    | .other => -1

/-- `stp_bitmap_get_portindex_from_bmp`. -/
def Chassis.stpBitmapGetPortindexFromBmp (c : Chassis) (bmp : PortBmp) (Bytes Bit : Nat) : Int :=
  if bmp Bytes = 0 then -2
  else if bmp Bytes &&& (1 <<< UInt8.ofNat Bit) = 0 then -1
  else if c.distributed then toInt (64 * ((c.slot : Int) - 1) + 8 * ((Bytes : Int) - 1) + Bit)
  else match c.product with
    | .AU3K | .AU3K_BCM | .AU3K_BCAT | .AU2K_TCAT => inByte (8 * ((Bytes : Int) - 1) + (Bit - 1))
    | .AX5K_E | .AX5608 => inByte (8 * ((Bytes : Int) - 1) + Bit)
    | .AX5K_I => inByte (56 + 8 * ((Bytes : Int) - 1) + Bit)
    | .AU4K | .AX5K => inByte (64 + 8 * ((Bytes : Int) - 1) + (Bit - 1))
    | .AX7K => toInt (64 * Bytes + Bit - 1)
    | .other => -2
where
  inByte (x : Int) : Int := if Bytes > 0 then toInt x else -2

/-- The ports that the loop of `stp_mgmt_stpm_add_vlan` comes to: `-2` ends the loop over a byte. -/
def Chassis.portsToAdd (c : Chassis) (bmp : PortBmp) : List UInt32 :=
  ((List.range 9).flatMap fun b =>
    (((List.range 8).map (c.stpBitmapGetPortindexFromBmp bmp b)).takeWhile (· ≠ -2)).filter
      (· ≠ -1)).map UInt32.ofInt

/-- The ports that the loop of `stp_mgmt_stpm_del_vlan` comes to: `-2` is a port like others. -/
def Chassis.portsToDel (c : Chassis) (bmp : PortBmp) : List UInt32 :=
  ((List.range 9).flatMap fun b =>
    ((List.range 8).map (c.stpBitmapGetPortindexFromBmp bmp b)).filter (· ≠ -1)).map UInt32.ofInt

/-! ## The instances and their ports -/

/-- `VLAN_MAP_T`, its bitmap as the set of the VIDs whose bit is set. -/
structure VlanMap where
  bmp : Finset Nat
  ulcount : UInt32

def VlanMap.add (v : VlanMap) (VID : Nat) : VlanMap := ⟨insert VID v.bmp, v.ulcount + 1⟩

def VlanMap.del (v : VlanMap) (VID : Nat) : VlanMap := ⟨v.bmp.erase VID, v.ulcount - 1⟩

/-- The part of `PORT_T` that the registry is made of. -/
structure MstPort where
  port_index : UInt32
  owner : Nat
  vlan_map : VlanMap

/-- The part of `STPM_T` that the registry is made of, and where it lies. -/
structure Stpm where
  addr : Nat
  vlan_id : UInt16
  vlan_map : VlanMap
  ports : List Nat
  ConfigurationDigest : Octets

structure Registry where
  bridges : List Stpm
  g_CISTBRIDGE : Option Nat
  heap : Nat → Option MstPort
  g_CISTPORT : Int → List Nat
  g_VID2MSTID : Nat → UInt16
  g_VlanPBMP : Nat → PortBmp
  brk : Nat

namespace Registry

section
variable (r : Registry) (c : Chassis)

/-- The instance that a pointer points to. -/
def stpm (a : Nat) : Option Stpm := r.bridges.find? (·.addr = a)

/-- `stp_stpm_get_instance`. -/
def stpStpmGetInstance (mstid : UInt16) : Option Stpm := r.bridges.find? (·.vlan_id = mstid)

def setStpm (a : Nat) (f : Stpm → Stpm) : Registry :=
  { r with bridges := r.bridges.map fun b => if b.addr = a then f b else b }

def setPort (a : Nat) (p : MstPort) : Registry :=
  { r with heap := Function.update r.heap a (some p) }

def setChain (index : Int) (l : List Nat) : Registry :=
  { r with g_CISTPORT := Function.update r.g_CISTPORT index l }

/-- `port->owner->vlan_id == MSTID` -/
def ownedBy (MSTID : UInt16) (a : Nat) : Option Bool := do
  let p ← r.heap a
  let s ← r.stpm p.owner
  pure (s.vlan_id = MSTID)

/-- `stp_port_mst_findport`. -/
def stpPortMstFindport (MSTID : UInt16) (port_index : UInt32) : Option (Option Nat) :=
  let index := c.stpPortGlobalIndexParse port_index
  if index < 0 ∨ index > MAX_PORT_NUM then some none
  else match r.g_CISTPORT index with
    | [] => some none
    | head :: l =>
      if MSTID = STP_CIST_ID then some (some head)
      else do
        let _ ← r.heap head
        l.findM? (r.ownedBy MSTID)

/-- `stp_port_mst_port_create`: the port, at the head of the list of its instance. -/
def stpPortMstPortCreate (s : Stpm) (port_index : UInt32) : Option (Option (Nat × Registry)) := do
  let same ← s.ports.findM? fun a => do
    let p ← r.heap a
    pure (p.port_index = port_index)
  match same with
  | some _ => pure none
  | none =>
    let a := r.brk
    let r := r.setStpm s.addr fun s => { s with ports := a :: s.ports }
    let r := r.setPort a { port_index := port_index, owner := s.addr, vlan_map := ⟨∅, 0⟩ }
    pure (some (a, { r with brk := a + 1 }))

/-- The port is put into `g_CISTPORT`, for the CIST, or after the port that is there. -/
def chainPort (MSTID : UInt16) (index : Int) (a : Nat) : Option Registry :=
  if MSTID = STP_CIST_ID then some (r.setChain index [a])
  else match r.g_CISTPORT index with
    | [] => none
    | head :: l => do
      let _ ← r.heap head
      pure (r.setChain index (head :: a :: l))

/-- The port is given the VLAN. -/
def countVlan (a VID : Nat) (isWan : Bool) : Option Registry := do
  let p ← r.heap a
  let m := p.vlan_map.add VID
  pure (r.setPort a { p with vlan_map := if isWan then { m with ulcount := 1 } else m })

/-- `stp_port_mst_addport`. -/
def stpPortMstAddport (MSTID : UInt16) (port_index : UInt32) (VID : Nat) (isWan : Bool) :
    Option (Int × Registry) := do
  let index := c.stpPortGlobalIndexParse port_index
  if MSTID > STP_MSTI_MAX ∨ index < 0 ∨ index > MAX_PORT_NUM then
    return (STP_ERROR, r)
  match ← r.stpPortMstFindport c MSTID port_index with
  | some a => return (STP_OK, ← r.countVlan a VID isWan)
  | none =>
    match r.stpStpmGetInstance MSTID with
    | none => return (STP_BRIDGE_NOTFOUND, r)
    | some s =>
      match ← r.stpPortMstPortCreate s port_index with
      | none => return (STP_CREATE_PORT_FAIL, r)
      | some (a, r) =>
        let r ← r.chainPort MSTID index a
        return (STP_OK, ← r.countVlan a VID isWan)

/-- `stp_port_delete`. -/
def stpPortDelete (a : Nat) : Option Registry := do
  let p ← r.heap a
  let s ← r.stpm p.owner
  let tmp ← s.ports.findM? fun b => do
    let q ← r.heap b
    pure (q.port_index = p.port_index)
  match tmp with
  | none => pure r
  | some b =>
    let r := r.setStpm s.addr fun s =>
      { s with ports := s.ports.takeWhile (· ≠ b) ++ (s.ports.dropWhile (· ≠ a)).tail }
    pure { r with heap := Function.update r.heap a none }

/-- The port after the first one that belongs to the instance is taken out of the chain. -/
def unchain (MSTID : UInt16) (index : Int) : Option Registry :=
  match r.g_CISTPORT index with
  | [] => none
  | head :: l => do
    let _ ← r.heap head
    match ← l.findM? (r.ownedBy MSTID) with
    | none => pure r
    | some a => pure (r.setChain index (head :: l.erase a))

/-- `stp_port_mst_delport`. While the port has other VLANs the result is what is on the stack. -/
def stpPortMstDelport (MSTID : UInt16) (port_index : UInt32) (VID : Nat) (junk : Int) :
    Option (Int × Registry) := do
  let index := c.stpPortGlobalIndexParse port_index
  if MSTID > STP_MSTI_MAX ∨ index < 0 ∨ index > MAX_PORT_NUM then
    return (STP_ERROR, r)
  if MSTID = STP_CIST_ID then
    return (STP_OK, r)
  match ← r.stpPortMstFindport c MSTID port_index with
  | none => return (STP_PORT_NOTFOUND, r)
  | some a =>
    let p ← r.heap a
    let p := { p with vlan_map := p.vlan_map.del VID }
    let r := r.setPort a p
    if p.vlan_map.ulcount ≠ 0 then
      return (junk, r)
    let r ← r.unchain MSTID index
    return (STP_OK, ← r.stpPortDelete a)

/-- The loop of `stp_stpm_delete` over the ports, from a port on. The port after the one that is
deleted is made the port of the round, and then `port->next` is taken of it. -/
def deletePorts (a : Nat) : List Nat → Registry → Option Registry
  | [], r => some r
  | [_], _ => none
  | p :: q :: l, r => do
    let r ← r.stpPortDelete p
    deletePorts a l (r.setStpm a fun s => { s with ports := q :: l })

/-- `stp_stpm_delete`. -/
def stpStpmDelete (a : Nat) : Option Registry := do
  let s ← r.stpm a
  let r ← deletePorts a s.ports r
  pure { r with
    bridges := r.bridges.eraseP (·.vlan_id = s.vlan_id)
    g_CISTBRIDGE := if s.vlan_id = STP_CIST_ID then none else r.g_CISTBRIDGE }

/-- `STP_NEW_IN_LIST` at the pointer `next` of the instance at `a`. -/
def insertAfter (a : Nat) (s : Stpm) : List Stpm → List Stpm
  | [] => []
  | b :: l => if b.addr = a then b :: s :: l else b :: insertAfter a s l

/-- `stp_stpm_mst_create`. -/
def stpStpmMstCreate (mstid : UInt16) : Option (Nat × Registry) :=
  let s : Stpm :=
    { addr := r.brk, vlan_id := mstid, vlan_map := ⟨∅, 0⟩, ports := []
      ConfigurationDigest := List.replicate 16 0 }
  if mstid > STP_MSTI_MAX then none
  else if mstid = STP_CIST_ID then
    some (r.brk, { r with
      bridges := s :: r.bridges, g_CISTBRIDGE := some r.brk, brk := r.brk + 1 })
  else match r.g_CISTBRIDGE with
    | some a => some (r.brk, { r with bridges := insertAfter a s r.bridges, brk := r.brk + 1 })
    | none => none

end

end Registry

end Stp
end DaemonGroup
