import DaemonGroup.Stp.Ports

/-!
# DaemonGroup.Stp.Vlans

The management of VLANs (`stp_mgmt.c`, and `stp_in_add_vlan_to_cist`, `stp_in_del_vlan_from_cist`):
which instance a VLAN is in is kept in the map of the instance, in the count of that map, in the map of
the CIST and in `g_VID2MSTID`, and the digest of the table in the CIST.

The digest is an arbitrary function of the table; it stands for the keyed MD5.
-/

namespace DaemonGroup
namespace Stp

open Lib

namespace Registry

section
variable (r : Registry) (c : Chassis) (digest : List UInt16 → Octets)

/-- The table that `stp_mgmt_calc_configid_digest` makes the digest of. -/
def configTable (g_VID2MSTID : Nat → UInt16) : List UInt16 :=
  (List.range 4096).map fun i => if 1 ≤ i ∧ i < 4095 then g_VID2MSTID i else 0

/-- `stp_mgmt_calc_configid_digest` for the instance at `a`. -/
def stpMgmtCalcConfigidDigest (a : Nat) : Registry :=
  r.setStpm a fun s => { s with ConfigurationDigest := digest (configTable r.g_VID2MSTID) }

/-- `stp_mgmt_build_configid_digest`: nothing is done if there is a CIST. -/
def stpMgmtBuildConfigidDigest : Option Registry := r.g_CISTBRIDGE.map fun _ => r

/-- `stp_mgmt_set_cist_vlan_map`. -/
def stpMgmtSetCistVlanMap (VID : Nat) (isAdd : Bool) : Registry :=
  match r.g_CISTBRIDGE with
  | none => r
  | some a => r.setStpm a fun s =>
    { s with vlan_map := if isAdd then s.vlan_map.del VID else s.vlan_map.add VID }

/-- The loop of `stp_mgmt_stpm_add_vlan` over the ports: have all of them been added? -/
def addPorts (MSTID : UInt16) (VID : Nat) : List UInt32 → Registry → Option (Bool × Registry)
  | [], r => some (true, r)
  | i :: l, r => do
    let x ← r.stpPortMstAddport c MSTID i VID false
    if x.1 = STP_OK then addPorts MSTID VID l x.2 else pure (false, x.2)

/-- The maps of the instance and of the CIST are changed for a VLAN that the instance gets. -/
def mapVlan (s : Stpm) (VID : Nat) : Registry :=
  let r := r.setStpm s.addr fun s => { s with vlan_map := s.vlan_map.add VID }
  if s.vlan_id = STP_CIST_ID then r else r.stpMgmtSetCistVlanMap VID true

/-- `stp_mgmt_stpm_add_vlan`. -/
def stpMgmtStpmAddVlan (a VID : Nat) : Option (Int × Registry) := do
  if VID > STP_MAX_VID then
    return (STP_ERROR, r)
  let s ← r.stpm a
  let r := if VID ≠ 0 then r.mapVlan s VID else r
  let x ← addPorts c s.vlan_id VID (c.portsToAdd (r.g_VlanPBMP VID)) r
  if x.1 then
    return (STP_OK, { x.2 with g_VID2MSTID := Function.update x.2.g_VID2MSTID VID s.vlan_id })
  return (STP_Cannot_Create_Instance_For_Port, ← x.2.stpStpmDelete a)

/-- The loop of `stp_mgmt_stpm_del_vlan` over the ports: the result, and what is on the stack when
`stp_port_mst_delport` returns without one. -/
def delPorts (MSTID : UInt16) (VID : Nat) (junk : UInt32 → Int) :
    List UInt32 → Registry → Option (Int × Registry)
  | [], r => some (STP_OK, r)
  | i :: l, r => do
    match ← r.stpPortMstFindport c MSTID i with
    | none => delPorts MSTID VID junk l r
    | some a =>
      let _ ← r.heap a
      let x ← r.stpPortMstDelport c MSTID i VID (junk i)
      if x.1 = STP_OK then delPorts MSTID VID junk l x.2 else pure x

/-- The maps of the instance and of the CIST are changed for a VLAN that the instance loses. -/
def unmapVlan (s : Stpm) (VID : Nat) : Registry :=
  let r := r.setStpm s.addr fun s => { s with vlan_map := s.vlan_map.del VID }
  if s.vlan_id = STP_CIST_ID then r else r.stpMgmtSetCistVlanMap VID false

/-- `stp_mgmt_stpm_del_vlan`. -/
def stpMgmtStpmDelVlan (a VID : Nat) (junk : UInt32 → Int) : Option (Int × Registry) := do
  if VID > STP_MAX_VID then
    return (STP_ERROR, r)
  let s ← r.stpm a
  let r := r.unmapVlan s VID
  let x ← delPorts c s.vlan_id VID junk (c.portsToDel (r.g_VlanPBMP VID)) r
  if x.1 ≠ STP_OK then
    return x
  let s ← x.2.stpm a
  let r ← if s.vlan_map.ulcount = 0 ∧ s.vlan_id ≠ STP_CIST_ID then x.2.stpStpmDelete a else pure x.2
  return (STP_OK, { r with g_VID2MSTID := Function.update r.g_VID2MSTID VID STP_CIST_ID })

/-- The instance that is found, or made. -/
def getOrCreate (MSTID : UInt16) : Option (Nat × Registry) :=
  match r.stpStpmGetInstance MSTID with
  | some s => some (s.addr, r)
  | none => r.stpStpmMstCreate MSTID

/-- `stp_mgmt_stpm_update_instance`; `started` is what `stp_stpm_enable` says, if the protocol is
enabled. -/
def stpMgmtStpmUpdateInstance (MSTID : UInt16) (VID : Nat) (junk : UInt32 → Int) (started : Int) :
    Option (Int × Registry) :=
  if MSTID = r.g_VID2MSTID VID then some (STP_OK, r)
  else match r.getOrCreate MSTID with
    | none => some (STP_Cannot_Create_Instance_For_Vlan, r)
    | some (this, r) => match r.stpStpmGetInstance (r.g_VID2MSTID VID) with
      | none => some (STP_Cannot_Create_Instance_For_Vlan, r)
      | some old_stpm => do
        let x ← r.stpMgmtStpmDelVlan c old_stpm.addr VID junk
        if x.1 ≠ STP_OK then
          return x
        let y ← x.2.stpMgmtStpmAddVlan c this VID
        if y.1 ≠ STP_OK then
          return y
        let cist_stpm ← y.2.g_CISTBRIDGE
        return (started, y.2.stpMgmtCalcConfigidDigest digest cist_stpm)

/-- `stp_in_add_vlan_to_cist`. -/
def stpInAddVlanToCist (vid : Nat) (port_bmp : PortBmp) : Option (Int × Registry) :=
  let r := { r with g_VlanPBMP := Function.update r.g_VlanPBMP vid port_bmp }
  match r.g_CISTBRIDGE with
  | none => some (STP_BRIDGE_NOTFOUND, r)
  | some this => do
    let x ← r.stpMgmtStpmAddVlan c this vid
    if x.1 ≠ STP_OK then
      return x
    return (STP_OK, ← x.2.stpMgmtBuildConfigidDigest)

/-- `stp_in_del_vlan_from_cist`. -/
def stpInDelVlanFromCist (vid : Nat) (junk : UInt32 → Int) : Option (Int × Registry) :=
  if r.g_VID2MSTID vid = STP_CIST_ID then some (STP_OK, r)
  else match r.stpStpmGetInstance (r.g_VID2MSTID vid) with
    | none => some (STP_Cannot_Create_Instance_For_Vlan, r)
    | some this => do
      let x ← r.stpMgmtStpmDelVlan c this.addr vid junk
      if x.1 ≠ STP_OK then
        return x
      return (STP_OK, ← x.2.stpMgmtBuildConfigidDigest)

/-- `while (port = stpm->ports) stp_port_delete(port)`, for at most `n` rounds. -/
def dropPorts (a : Nat) : Nat → Registry → Option Registry
  | 0, r => do
    let s ← r.stpm a
    if s.ports = [] then pure r else none
  | n + 1, r => do
    let s ← r.stpm a
    match s.ports with
    | [] => pure r
    | p :: _ =>
      let r ← r.stpPortDelete p
      dropPorts a n r

/-- `while (stpm = stp_stpm_get_the_list())`, for at most `n` rounds. -/
def dropInstances : Nat → Registry → Option Registry
  | 0, r => if r.bridges = [] then some r else none
  | n + 1, r => match r.bridges with
    | [] => some r
    | s :: _ => do
      let r ← dropPorts s.addr s.ports.length r
      let r ← r.stpStpmDelete s.addr
      dropInstances n r

/-- `stp_mgmt_stpm_delete_all`. Both tables are cleared for 4096 octets. -/
def stpMgmtStpmDeleteAll : Option Registry := do
  let r ← dropInstances r.bridges.length r
  pure { r with
    g_CISTPORT := fun _ => []
    g_VlanPBMP := fun i j => if 9 * i + j < 4096 then 0 else r.g_VlanPBMP i j
    g_VID2MSTID := fun i => if 2 * i < 4096 then 0 else r.g_VID2MSTID i }

/-- `stp_mgmt_stpm_create_cist`. -/
def stpMgmtStpmCreateCist : Registry :=
  match r.g_CISTBRIDGE with
  | some _ => r
  | none => match r.stpStpmMstCreate STP_CIST_ID with
    | none => r
    | some (a, r) =>
      let r := r.setStpm a fun s => { s with vlan_map := ⟨Finset.range 4096, 4094⟩ }
      r.stpMgmtCalcConfigidDigest digest a

end

end Registry

/-- The operations of the management, and what else changes ports and their VLANs. A VID of 4096 or
more is outside of the tables. -/
inductive VlanOp
  | updateInstance (MSTID VID : UInt16) (junk : UInt32 → Int) (started : Int)
  | addVlanToCist (vid : UInt16) (port_bmp : PortBmp)
  | delVlanFromCist (vid : UInt16) (junk : UInt32 → Int)
  | recreate
  | initVlanpbmp (VID : UInt16) (ports : PortBmp)
  | addport (MSTID : UInt16) (port_index : UInt32) (VID : UInt16) (isWan : Bool)
  | delport (MSTID : UInt16) (port_index : UInt32) (VID : UInt16) (junk : Int)

/-- The result of the operation and the registry after it. -/
def VlanOp.call (c : Chassis) (digest : List UInt16 → Octets) (r : Registry) :
    VlanOp → Option (Int × Registry)
  | updateInstance MSTID VID junk started =>
    if VID.toNat < 4096 then r.stpMgmtStpmUpdateInstance c digest MSTID VID.toNat junk started else none
  | addVlanToCist vid port_bmp =>
    if vid.toNat < 4096 then r.stpInAddVlanToCist c vid.toNat port_bmp else none
  | delVlanFromCist vid junk =>
    if vid.toNat < 4096 then r.stpInDelVlanFromCist c vid.toNat junk else none
  | recreate => r.stpMgmtStpmDeleteAll.map fun r => (STP_OK, r.stpMgmtStpmCreateCist digest)
  | initVlanpbmp VID ports =>
    if VID.toNat < 4096 then
      some (STP_OK, { r with g_VlanPBMP := Function.update r.g_VlanPBMP VID.toNat ports })
    else none
  | addport MSTID port_index VID isWan => r.stpPortMstAddport c MSTID port_index VID.toNat isWan
  | delport MSTID port_index VID junk => r.stpPortMstDelport c MSTID port_index VID.toNat junk

def VlanOp.step (c : Chassis) (digest : List UInt16 → Octets) (r : Registry) (op : VlanOp) :
    Option Registry := (op.call c digest r).map Prod.snd

/-- The CIST has just been created. -/
def Registry.fresh (digest : List UInt16 → Octets) (g_VlanPBMP : Nat → PortBmp) : Registry :=
  (Registry.empty (fun _ => 0) g_VlanPBMP).stpMgmtStpmCreateCist digest

end Stp
end DaemonGroup
