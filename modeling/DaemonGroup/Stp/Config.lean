import DaemonGroup.Stp.PortInfo
import DaemonGroup.Stp.Registry

/-!
# DaemonGroup.Stp.Config

The configuration of a bridge instance (`stp_in_stpm_get_cfg` and `stp_in_stpm_set_cfg`).

* `config_iff` — for which requests an instance is configured as asked or left alone, and for which
  instances what is reported can be asked for.
-/

namespace DaemonGroup
namespace Stp

open Lib

/-! ## Requests -/

/-- `UID_STP_MODE_T` -/
inductive UidStpMode where
  | STP_DISABLED
  | STP_ENABLED
deriving DecidableEq, Repr

def BR_CFG_STATE : UInt32 := (1 : UInt32) <<< 0
def BR_CFG_PRIO : UInt32 := (1 : UInt32) <<< 1
def BR_CFG_AGE : UInt32 := (1 : UInt32) <<< 2
def BR_CFG_HELLO : UInt32 := (1 : UInt32) <<< 3
def BR_CFG_DELAY : UInt32 := (1 : UInt32) <<< 4
def BR_CFG_FORCE_VER : UInt32 := (1 : UInt32) <<< 5
def BR_CFG_AGE_MODE : UInt32 := (1 : UInt32) <<< 6
def BR_CFG_AGE_TIME : UInt32 := (1 : UInt32) <<< 7
def BR_CFG_HOLD_TIME : UInt32 := (1 : UInt32) <<< 8
def BR_CFG_MAX_HOPS : UInt32 := (1 : UInt32) <<< 9
def BR_CFG_ALL : UInt32 :=
  BR_CFG_STATE ||| BR_CFG_PRIO ||| BR_CFG_AGE ||| BR_CFG_HELLO ||| BR_CFG_DELAY |||
    BR_CFG_FORCE_VER ||| BR_CFG_AGE_MODE ||| BR_CFG_AGE_TIME ||| BR_CFG_HOLD_TIME |||
    BR_CFG_MAX_HOPS

/-! The limits of `stp_in.h`. -/
def DEF_BR_PRIO : UInt16 := 32768
def MIN_BR_PRIO : Int := 0
def MAX_BR_PRIO : Int := 61440
def MIN_BR_HELLOT : Int := 1
def MAX_BR_HELLOT : Int := 10
def DEF_BR_MAXAGE : Int := 20
def MIN_BR_MAXAGE : Int := 6
def MAX_BR_MAXAGE : Int := 40
def DEF_BR_FWDELAY : Int := 15
def MIN_BR_FWDELAY : Int := 4
def MAX_BR_FWDELAY : Int := 30
def DEF_REMAINING_HOPS : Int := 20
def MIN_REMAINING_HOPS : Int := 6
def MAX_REMAINING_HOPS : Int := 40
def DEF_FORCE_VERS : Int := 2
def TxHoldCount : Int := 3

/-! `RSTP_ERRORS` -/
def STP_Small_Bridge_Priority : Int := 4
def STP_Large_Bridge_Priority : Int := 5
def STP_Small_Hello_Time : Int := 6
def STP_Large_Hello_Time : Int := 7
def STP_Small_Max_Age : Int := 8
def STP_Large_Max_Age : Int := 9
def STP_Small_Forward_Delay : Int := 10
def STP_Large_Forward_Delay : Int := 11
def STP_Small_Max_Hops : Int := 12
def STP_Large_Max_Hops : Int := 13
def STP_Forward_Delay_And_Max_Age_Are_Inconsistent : Int := 14
def STP_Hello_Time_And_Max_Age_Are_Inconsistent : Int := 15
def STP_Hello_Time_And_Forward_Delay_Are_Inconsistent : Int := 16
def STP_Cannot_Compute_Bridge_Prio : Int := 30

/-- `UID_STP_CFG_T` -/
structure UidStpCfg where
  field_mask : UInt32
  stp_enabled : UidStpMode
  bridge_priority : Int
  max_age : Int
  hello_time : Int
  forward_delay : Int
  force_version : Int
  hold_time : Int
  maxhops : Int
deriving DecidableEq

/-- The request selects a field. -/
def UidStpCfg.has (q : UidStpCfg) (bit : UInt32) : Bool := bit &&& q.field_mask ≠ 0

/-- `stp_in_check_stpm_config` -/
def stpInCheckStpmConfig (q : UidStpCfg) (mstid : UInt16) : Int :=
  if q.bridge_priority < MIN_BR_PRIO then STP_Small_Bridge_Priority
  else if q.bridge_priority > MAX_BR_PRIO then STP_Large_Bridge_Priority
  else if q.maxhops < MIN_REMAINING_HOPS then STP_Small_Max_Hops
  else if q.maxhops > MAX_REMAINING_HOPS then STP_Large_Max_Hops
  else if mstid ≠ STP_CIST_ID then STP_OK
  else if q.hello_time < MIN_BR_HELLOT then STP_Small_Hello_Time
  else if q.hello_time > MAX_BR_HELLOT then STP_Large_Hello_Time
  else if q.max_age < MIN_BR_MAXAGE then STP_Small_Max_Age
  else if q.max_age > MAX_BR_MAXAGE then STP_Large_Max_Age
  else if q.forward_delay < MIN_BR_FWDELAY then STP_Small_Forward_Delay
  else if q.forward_delay > MAX_BR_FWDELAY then STP_Large_Forward_Delay
  else if 2 * (q.forward_delay - 1) < q.max_age then
    STP_Forward_Delay_And_Max_Age_Are_Inconsistent
  else if q.max_age < 2 * (q.hello_time + 1) then STP_Hello_Time_And_Max_Age_Are_Inconsistent
  else if 2 * (q.hello_time + 1) > 2 * (q.forward_delay - 1) then
    STP_Hello_Time_And_Forward_Delay_Are_Inconsistent
  else STP_OK

/-! ## Instances -/

/-- The part of a port that a configuration touches. -/
structure CfgPort where
  port_index : Nat
  mcheck : Bool
  reselect : Bool
  selected : Bool
deriving DecidableEq

/-- An instance with its configuration. The state machines and what they work on are `rest`. -/
structure CfgBridge (R : Type) where
  vlan_id : UInt16
  admin_state : UidStpMode
  ForceVersion : Int
  BrId : BridgeId
  BrTimes : TimeValues
  ports : List CfgPort
  rest : R
deriving DecidableEq

/-- Nothing that is configured differs. -/
structure CfgBridge.SameCfg {R : Type} (b b' : CfgBridge R) : Prop where
  vlan_id : b'.vlan_id = b.vlan_id
  ForceVersion : b'.ForceVersion = b.ForceVersion
  prio : b'.BrId.prio = b.BrId.prio
  MaxAge : b'.BrTimes.MaxAge = b.BrTimes.MaxAge
  HelloTime : b'.BrTimes.HelloTime = b.BrTimes.HelloTime
  ForwardDelay : b'.BrTimes.ForwardDelay = b.BrTimes.ForwardDelay
  RemainingHops : b'.BrTimes.RemainingHops = b.BrTimes.RemainingHops

/-- The state machines of the instances, and the addresses of the ports. -/
structure Machines (R : Type) where
  port_mac : Nat → MacAddr
  /-- The part of `stp_stpm_start` behind `stp_stpm_compute_bridge_id`. -/
  start : CfgBridge R → CfgBridge R
  /-- `stp_stpm_mst_update` -/
  update : CfgBridge R → CfgBridge R
  start_same : ∀ b : CfgBridge R, b.SameCfg (start b)
  update_same : ∀ b : CfgBridge R,
    b.SameCfg (update b) ∧ (update b).admin_state = b.admin_state

variable {R : Type}

/-- `stp_in_stpm_get_cfg` -/
def stpInStpmGetCfg (b : CfgBridge R) : UidStpCfg :=
  let bit (c : Bool) (m : UInt32) : UInt32 := if c then m else 0
  { field_mask :=
      bit (b.admin_state ≠ .STP_DISABLED) BR_CFG_STATE |||
      bit (b.BrId.prio ≠ DEF_BR_PRIO) BR_CFG_PRIO |||
      bit ((b.BrTimes.RemainingHops.toNat : Int) ≠ DEF_REMAINING_HOPS) BR_CFG_MAX_HOPS |||
      bit (b.ForceVersion ≠ 2) BR_CFG_FORCE_VER |||
      bit ((b.BrTimes.MaxAge.toNat : Int) ≠ DEF_BR_MAXAGE) BR_CFG_AGE |||
      bit (b.BrTimes.HelloTime.toNat ≠ DEF_BR_HELLOT) BR_CFG_HELLO |||
      bit ((b.BrTimes.ForwardDelay.toNat : Int) ≠ DEF_BR_FWDELAY) BR_CFG_DELAY
    stp_enabled := b.admin_state
    bridge_priority := b.BrId.prio.toNat
    max_age := b.BrTimes.MaxAge.toNat
    hello_time := b.BrTimes.HelloTime.toNat
    forward_delay := b.BrTimes.ForwardDelay.toNat
    force_version := b.ForceVersion
    hold_time := TxHoldCount
    maxhops := b.BrTimes.RemainingHops.toNat }

/-- `stp_stpm_compute_bridge_id`: the port with the least index, if there is a port. -/
def stpStpmComputeBridgeId (b : CfgBridge R) : Option CfgPort :=
  (b.ports.foldl (fun r port =>
    if r.2 = 0 ∨ port.port_index < r.2 then (some port, port.port_index) else r)
    ((none : Option CfgPort), 0)).1

/-- `stp_stpm_start` -/
def stpStpmStart (M : Machines R) (b : CfgBridge R) : Int × CfgBridge R :=
  if b.vlan_id = STP_CIST_ID then
    match stpStpmComputeBridgeId b with
    | none => (STP_Cannot_Compute_Bridge_Prio, b)
    | some min_num_port =>
      (STP_OK, M.start { b with
        BrId := { b.BrId with addr := M.port_mac min_num_port.port_index } })
  else (STP_OK, M.start b)

/-- `stp_stpm_enable` -/
def stpStpmEnable (M : Machines R) (b : CfgBridge R) (admin_state : UidStpMode) :
    Int × CfgBridge R :=
  if admin_state = b.admin_state then (0, b)
  else if admin_state = .STP_ENABLED then
    let (rc, b) := stpStpmStart M b
    (rc, { b with admin_state := admin_state })
  else (0, { b with admin_state := .STP_DISABLED })

/-- An `int` as an `unsigned short`. -/
def toShort (v : Int) : UInt16 := UInt16.ofNat (v % 2 ^ 16).toNat

/-- An `int` as an `unsigned char`. -/
def toChar (v : Int) : UInt8 := UInt8.ofNat (v % 2 ^ 8).toNat

/-- The `!` of C. -/
def cNot (x : UInt32) : UInt32 := if x = 0 then 1 else 0

/-- What the request does not select is as the instance has it. -/
def UidStpCfg.merge (old q : UidStpCfg) : UidStpCfg :=
  { old with
    bridge_priority := if q.has BR_CFG_PRIO then q.bridge_priority else old.bridge_priority
    max_age := if q.has BR_CFG_AGE then q.max_age else old.max_age
    hello_time := if q.has BR_CFG_HELLO then q.hello_time else old.hello_time
    forward_delay := if q.has BR_CFG_DELAY then q.forward_delay else old.forward_delay
    force_version := if q.has BR_CFG_FORCE_VER then q.force_version else old.force_version
    maxhops := if q.has BR_CFG_MAX_HOPS then q.maxhops else old.maxhops }

/-- The migration of every port is checked when a version with rapid transitions is asked for. -/
def setMcheck (q : UidStpCfg) (b : CfgBridge R) : CfgBridge R :=
  if q.has BR_CFG_FORCE_VER ∧ q.force_version ≥ DEF_FORCE_VERS then
    { b with ports := b.ports.map fun port => { port with mcheck := true } }
  else b

/-- The values that have been merged are stored. -/
def store (old : UidStpCfg) (b : CfgBridge R) : CfgBridge R :=
  { b with
    BrId := { b.BrId with
      prio := (b.BrId.prio &&& 0xfff) + (toShort old.bridge_priority &&& 0xf000) }
    BrTimes := { b.BrTimes with
      MaxAge := toShort old.max_age
      HelloTime := toShort old.hello_time
      ForwardDelay := toShort old.forward_delay
      RemainingHops := toChar old.maxhops }
    ForceVersion := old.force_version }

/-- The ports of an enabled instance get new roles. -/
def reselectRoles (M : Machines R) (b : CfgBridge R) : CfgBridge R :=
  if b.admin_state ≠ .STP_DISABLED then
    M.update { b with
      ports := b.ports.map fun port => { port with reselect := true, selected := false } }
  else b

/-- The part of `stp_in_stpm_set_cfg` behind the transition to the state DISABLED. -/
def applyCfg (M : Machines R) (old q : UidStpCfg) (b : CfgBridge R) : Int × CfgBridge R :=
  let b := store old b
  if q.has BR_CFG_STATE ∧ q.stp_enabled ≠ .STP_DISABLED ∧ b.admin_state = .STP_DISABLED then
    let (rc, b) := stpStpmEnable M b q.stp_enabled
    if rc ≠ 0 then (rc, b) else (0, reselectRoles M b)
  else (0, reselectRoles M b)

/-- `stp_in_stpm_set_cfg` -/
def stpInStpmSetCfg (M : Machines R) (b : CfgBridge R) (q : UidStpCfg) : Int × CfgBridge R :=
  let old := (stpInStpmGetCfg b).merge q
  let b := setMcheck q b
  let rc := stpInCheckStpmConfig old b.vlan_id
  if rc ≠ 0 then (rc, b)
  else if q.has BR_CFG_STATE ∧ q.stp_enabled = .STP_DISABLED then
    let (rc, b) := stpStpmEnable M b .STP_DISABLED
    if rc ≠ 0 then (rc, b)
    else
      -- the bit was to be cleared, but `!` leaves none of the mask
      let q := { q with field_mask := q.field_mask &&& cNot BR_CFG_STATE }
      if q.field_mask = 0 then (0, b) else applyCfg M old q b
  else applyCfg M old q b

/-! ## What is asked for -/

/-- The fields without the mask. -/
def UidStpCfg.values (q : UidStpCfg) : UidStpCfg := { q with field_mask := 0 }

/-- What is to be reported once a request is granted: the fields that it selects are as it asks
for. The priority is a multiple of 4096, with the number of the instance in the bits below. -/
def UidStpCfg.granted (old q : UidStpCfg) : UidStpCfg :=
  { old.merge q with
    stp_enabled := if q.has BR_CFG_STATE then q.stp_enabled else old.stp_enabled
    bridge_priority :=
      if q.has BR_CFG_PRIO then old.bridge_priority % 4096 + q.bridge_priority / 4096 * 4096
      else old.bridge_priority
    hold_time := if q.has BR_CFG_HOLD_TIME then q.hold_time else old.hold_time }

/-- A request that fails leaves the instance alone, and one that succeeds is granted. -/
structure Configures (M : Machines R) (b : CfgBridge R) (q : UidStpCfg) : Prop where
  failed : (stpInStpmSetCfg M b q).1 ≠ 0 → (stpInStpmSetCfg M b q).2 = b
  granted : (stpInStpmSetCfg M b q).1 = 0 →
    (stpInStpmGetCfg (stpInStpmSetCfg M b q).2).values = ((stpInStpmGetCfg b).granted q).values

/-- What is reported can be asked for, and is reported then. -/
structure Resubmits (M : Machines R) (b : CfgBridge R) (q : UidStpCfg) : Prop where
  accepted : (stpInStpmSetCfg M b q).1 = 0
  unchanged : (stpInStpmGetCfg (stpInStpmSetCfg M b q).2).values = (stpInStpmGetCfg b).values

/-- What is reported, with all fields selected. -/
def reportedAll (b : CfgBridge R) : UidStpCfg := { stpInStpmGetCfg b with field_mask := BR_CFG_ALL }

/-- The request disables the instance. -/
def UidStpCfg.Disables (q : UidStpCfg) : Prop := q.has BR_CFG_STATE ∧ q.stp_enabled = .STP_DISABLED

/-- The request enables an instance that is disabled. -/
def CfgBridge.EnabledBy (b : CfgBridge R) (q : UidStpCfg) : Prop :=
  q.has BR_CFG_STATE ∧ q.stp_enabled = .STP_ENABLED ∧ b.admin_state = .STP_DISABLED

/-- The value fits into an `unsigned short`. -/
def FitsShort (v : Int) : Prop := 0 ≤ v ∧ v < 2 ^ 16

/-- The requests that are granted or leave the instance alone. One that is refused does not ask for
a version with rapid transitions, unless every port checks its migration already. One that disables
the instance asks for nothing else that is new. Any other one does not enable the CIST
without ports, has times that can be stored, and leaves the hold time. -/
structure CfgBridge.Settable (b : CfgBridge R) (q : UidStpCfg) : Prop where
  refused : stpInCheckStpmConfig ((stpInStpmGetCfg b).merge q) b.vlan_id ≠ 0 →
    q.has BR_CFG_FORCE_VER → q.force_version ≥ DEF_FORCE_VERS → ∀ port ∈ b.ports, port.mcheck
  disables : stpInCheckStpmConfig ((stpInStpmGetCfg b).merge q) b.vlan_id = 0 → q.Disables →
    { (stpInStpmGetCfg b).granted q with stp_enabled := b.admin_state }.values =
      (stpInStpmGetCfg b).values
  applies : stpInCheckStpmConfig ((stpInStpmGetCfg b).merge q) b.vlan_id = 0 → ¬ q.Disables →
    (b.EnabledBy q → b.vlan_id = STP_CIST_ID → b.ports ≠ []) ∧
    FitsShort ((stpInStpmGetCfg b).merge q).max_age ∧
    FitsShort ((stpInStpmGetCfg b).merge q).hello_time ∧
    FitsShort ((stpInStpmGetCfg b).merge q).forward_delay ∧
    (q.has BR_CFG_HOLD_TIME → q.hold_time = TxHoldCount)

/-! ## What is stored -/

section
variable {M : Machines R} {b b' : CfgBridge R} {q old : UidStpCfg}

theorem and_fff {x : UInt16} : (x &&& 0xfff).toNat = x.toNat % 4096 := by
  rw [UInt16.toNat_and]
  exact Nat.and_two_pow_sub_one_eq_mod x.toNat 12

theorem and_f000 {x : UInt16} : (x &&& 0xf000).toNat = x.toNat / 4096 * 4096 := by
  have hx := x.toNat_lt
  have h : x.toNat &&& 0xf000 = x.toNat >>> 12 <<< 12 := by
    apply Nat.eq_of_testBit_eq
    intro i
    rw [Nat.testBit_and, show (0xf000 : Nat) = (2 ^ 4 - 1) <<< 12 from rfl, Nat.testBit_shiftLeft,
      Nat.testBit_shiftLeft, Nat.testBit_two_pow_sub_one, Nat.testBit_shiftRight]
    by_cases hi : 12 ≤ i
    · by_cases h4 : i - 12 < 4
      · simp [hi, h4]
      · have hpow : x.toNat < 2 ^ i :=
          Nat.lt_of_lt_of_le hx (Nat.pow_le_pow_right (by decide) (by omega))
        simp [hi, h4, Nat.testBit_lt_two_pow hpow]
    · simp [hi]
  rw [UInt16.toNat_and]
  exact h.trans (by rw [Nat.shiftLeft_eq, Nat.shiftRight_eq_div_pow])

/-- Two values of a `short` are told apart by the `int`. -/
theorem toNat_toShort {v : Int} : ((toShort v).toNat : Int) = v ↔ FitsShort v := by
  have hv : (v % 2 ^ 16).toNat < 2 ^ 16 := by omega
  rw [toShort, UInt16.toNat_ofNat_of_lt' hv, FitsShort]
  omega

theorem toNat_toChar {v : Int} (h0 : 0 ≤ v) (h : v < 2 ^ 8) : ((toChar v).toNat : Int) = v := by
  have hv : (v % 2 ^ 8).toNat < 2 ^ 8 := by omega
  rw [toChar, UInt8.toNat_ofNat_of_lt' hv]
  omega

theorem prio_stored {x : UInt16} {p : Int} (h0 : MIN_BR_PRIO ≤ p) (h : p ≤ MAX_BR_PRIO) :
    (((x &&& 0xfff) + (toShort p &&& 0xf000)).toNat : Int) =
      (x.toNat : Int) % 4096 + p / 4096 * 4096 := by
  have hx := x.toNat_lt
  unfold MIN_BR_PRIO at h0
  unfold MAX_BR_PRIO at h
  have hp : ((toShort p).toNat : Int) = p := toNat_toShort.mpr ⟨h0, by omega⟩
  rw [UInt16.toNat_add, and_fff, and_f000]
  omega

/-- A check that has not failed. -/
theorem passed {c : Prop} [Decidable c] {e rest : Int} (h : (if c then e else rest) = 0)
    (he : e ≠ 0) : ¬ c ∧ rest = 0 := by
  by_cases hc : c
  · rw [if_pos hc] at h
    exact absurd h he
  · rw [if_neg hc] at h
    exact ⟨hc, h⟩

theorem check_ok {id : UInt16} (h : stpInCheckStpmConfig q id = 0) :
    ( MIN_BR_PRIO ≤ q.bridge_priority ∧ q.bridge_priority ≤ MAX_BR_PRIO) ∧
      MIN_REMAINING_HOPS ≤ q.maxhops ∧ q.maxhops ≤ MAX_REMAINING_HOPS := by
  unfold stpInCheckStpmConfig at h
  obtain ⟨h1, h⟩ := passed h (by decide)
  obtain ⟨h2, h⟩ := passed h (by decide)
  obtain ⟨h3, h⟩ := passed h (by decide)
  obtain ⟨h4, _⟩ := passed h (by decide)
  exact ⟨⟨Int.not_lt.mp h1, Int.not_lt.mp h2⟩, Int.not_lt.mp h3, Int.not_lt.mp h4⟩

theorem CfgBridge.SameCfg.refl (b : CfgBridge R) : b.SameCfg b :=
  ⟨rfl, rfl, rfl, rfl, rfl, rfl, rfl⟩

/-- The state is not part of the configuration. -/
theorem CfgBridge.SameCfg.state (h : b.SameCfg b') (m : UidStpMode) :
    b.SameCfg { b' with admin_state := m } :=
  ⟨h.vlan_id, h.ForceVersion, h.prio, h.MaxAge, h.HelloTime, h.ForwardDelay, h.RemainingHops⟩

theorem CfgBridge.SameCfg.trans {b'' : CfgBridge R} (h : b.SameCfg b') (h' : b'.SameCfg b'') :
    b.SameCfg b'' :=
  ⟨h'.vlan_id.trans h.vlan_id, h'.ForceVersion.trans h.ForceVersion, h'.prio.trans h.prio,
    h'.MaxAge.trans h.MaxAge, h'.HelloTime.trans h.HelloTime,
    h'.ForwardDelay.trans h.ForwardDelay, h'.RemainingHops.trans h.RemainingHops⟩

/-- What is reported depends on the configuration only. -/
theorem get_sameCfg (h : b.SameCfg b') : (stpInStpmGetCfg b').values =
    { (stpInStpmGetCfg b).values with stp_enabled := b'.admin_state } := by
  simp only [UidStpCfg.values, stpInStpmGetCfg, h.prio, h.MaxAge, h.HelloTime, h.ForwardDelay,
    h.RemainingHops, h.ForceVersion]

theorem setMcheck_same : b.SameCfg (setMcheck q b) ∧ (setMcheck q b).admin_state = b.admin_state := by
  unfold setMcheck
  split
  · exact ⟨⟨rfl, rfl, rfl, rfl, rfl, rfl, rfl⟩, rfl⟩
  · exact ⟨.refl b, rfl⟩

theorem reselectRoles_same :
    b.SameCfg (reselectRoles M b) ∧ (reselectRoles M b).admin_state = b.admin_state := by
  unfold reselectRoles
  split
  · obtain ⟨hsame, hstate⟩ := M.update_same { b with
      ports := b.ports.map fun port => { port with reselect := true, selected := false } }
    have hports : b.SameCfg { b with
        ports := b.ports.map fun port => { port with reselect := true, selected := false } } :=
      ⟨rfl, rfl, rfl, rfl, rfl, rfl, rfl⟩
    exact ⟨hports.trans hsame, hstate⟩
  · exact ⟨.refl b, rfl⟩

theorem foldl_isSome {l : List CfgPort} {r : Option CfgPort × Nat} (h : r.1.isSome) :
    (l.foldl (fun r port =>
      if r.2 = 0 ∨ port.port_index < r.2 then (some port, port.port_index) else r) r).1.isSome := by
  induction l generalizing r with
  | nil => exact h
  | cons p l ih =>
    rw [List.foldl_cons]
    apply ih
    split
    · rfl
    · exact h

/-- A bridge identifier can be computed if there is a port. -/
theorem computeBridgeId_none : stpStpmComputeBridgeId b = none ↔ b.ports = [] := by
  unfold stpStpmComputeBridgeId
  cases hp : b.ports with
  | nil => simp
  | cons p l =>
    have hsome := @foldl_isSome l (some p, p.port_index) rfl
    rw [List.foldl_cons, if_pos (Or.inl rfl)]
    simp only [reduceCtorEq, iff_false]
    intro hnone
    rw [hnone] at hsome
    cases hsome

/-- The CIST is not started without a port. -/
def CfgBridge.Startable (b : CfgBridge R) : Prop := b.vlan_id = STP_CIST_ID → b.ports ≠ []

theorem start_ok (h : b.Startable) :
    (stpStpmStart M b).1 = 0 ∧ b.SameCfg (stpStpmStart M b).2 := by
  unfold stpStpmStart
  split
  · next hv =>
    split
    · next hnone => exact absurd (computeBridgeId_none.mp hnone) (h hv)
    · next p hp =>
      have hsame := M.start_same { b with BrId := { b.BrId with addr := M.port_mac p.port_index } }
      have haddr : b.SameCfg
          { b with BrId := { b.BrId with addr := M.port_mac p.port_index } } :=
        ⟨rfl, rfl, rfl, rfl, rfl, rfl, rfl⟩
      exact ⟨rfl, haddr.trans hsame⟩
  · exact ⟨rfl, M.start_same b⟩

theorem start_fails (h : ¬ b.Startable) : (stpStpmStart M b).1 ≠ 0 := by
  obtain ⟨hv, hp⟩ := Classical.not_imp.mp h
  have hnone := computeBridgeId_none.mpr (Classical.not_not.mp hp)
  rw [stpStpmStart, if_pos hv, hnone]
  exact (by decide : STP_Cannot_Compute_Bridge_Prio ≠ 0)

/-- What is stored is reported if it fits. -/
theorem get_store {m : UidStpMode} {hold : Int} (h : stpInCheckStpmConfig old b.vlan_id = 0) :
    { (stpInStpmGetCfg (store old b)).values with stp_enabled := m } =
      { old.values with
        stp_enabled := m
        bridge_priority := (b.BrId.prio.toNat : Int) % 4096 + old.bridge_priority / 4096 * 4096
        hold_time := hold } ↔
    FitsShort old.max_age ∧ FitsShort old.hello_time ∧ FitsShort old.forward_delay ∧
      hold = TxHoldCount := by
  obtain ⟨⟨hp0, hp⟩, hm0, hm⟩ := check_ok h
  unfold MIN_REMAINING_HOPS at hm0
  unfold MAX_REMAINING_HOPS at hm
  have hhops : ((toChar old.maxhops).toNat : Int) = old.maxhops :=
    toNat_toChar (by omega) (by omega)
  rw [← toNat_toShort, ← toNat_toShort, ← toNat_toShort, eq_comm (a := hold)]
  simp only [UidStpCfg.values, stpInStpmGetCfg, store, prio_stored hp0 hp, hhops,
    UidStpCfg.mk.injEq, true_and, and_true]

/-! ## What a request does -/

theorem mode_cases {m : UidStpMode} : m ≠ .STP_DISABLED ↔ m = .STP_ENABLED := by
  cases m <;> simp

/-- The state of the instance once a request has been applied. -/
def CfgBridge.newState (b : CfgBridge R) (q : UidStpCfg) : UidStpMode :=
  if q.has BR_CFG_STATE then q.stp_enabled else b.admin_state

theorem enable_eq (h : b.admin_state = .STP_DISABLED) : stpStpmEnable M b .STP_ENABLED =
    ((stpStpmStart M b).1, { (stpStpmStart M b).2 with admin_state := .STP_ENABLED }) := by
  rw [stpStpmEnable, h, if_neg (by decide), if_pos rfl]

theorem apply_ok (hd : ¬ q.Disables) (h : b.EnabledBy q → b.Startable) :
    (applyCfg M old q b).1 = 0 ∧ (store old b).SameCfg (applyCfg M old q b).2 ∧
      (applyCfg M old q b).2.admin_state = b.newState q := by
  unfold applyCfg CfgBridge.newState
  dsimp only
  split
  · next hcond =>
    obtain ⟨hq, hne, hstate⟩ := hcond
    have hen := mode_cases.mp hne
    have hstart : (store old b).Startable := h ⟨hq, hen, hstate⟩
    obtain ⟨hrc, hsame⟩ := @start_ok R M _ hstart
    have hsame' := hsame.state .STP_ENABLED
    rw [hen, enable_eq hstate]
    dsimp only
    rw [hrc, if_neg (by decide), if_pos hq]
    exact ⟨rfl, hsame'.trans reselectRoles_same.1, reselectRoles_same.2⟩
  · next hcond =>
    refine ⟨rfl, reselectRoles_same.1, reselectRoles_same.2.trans ?_⟩
    split
    · next hq =>
      have hen : q.stp_enabled ≠ .STP_DISABLED := fun he => hd ⟨hq, he⟩
      have hstate : b.admin_state ≠ .STP_DISABLED := fun he => hcond ⟨hq, hen, he⟩
      exact (mode_cases.mp hstate).trans (mode_cases.mp hen).symm
    · rfl

/-- The CIST without ports fails to start, and is enabled nevertheless. -/
theorem apply_fails (hen : b.EnabledBy q) (h : ¬ b.Startable) :
    (applyCfg M old q b).1 ≠ 0 ∧ (applyCfg M old q b).2.admin_state = .STP_ENABLED := by
  have hstart : ¬ (store old b).Startable := h
  have hrc := @start_fails R M _ hstart
  have hcond : q.has BR_CFG_STATE ∧ q.stp_enabled ≠ .STP_DISABLED ∧
      (store old b).admin_state = .STP_DISABLED := ⟨hen.1, mode_cases.mpr hen.2.1, hen.2.2⟩
  unfold applyCfg
  dsimp only
  rw [if_pos hcond, hen.2.1, enable_eq hcond.2.2]
  dsimp only
  rw [if_pos hrc]
  exact ⟨hrc, rfl⟩

/-- The configuration that is checked. -/
def CfgBridge.check (b : CfgBridge R) (q : UidStpCfg) : Int :=
  stpInCheckStpmConfig ((stpInStpmGetCfg b).merge q) b.vlan_id

theorem set_refused (h : b.check q ≠ 0) :
    stpInStpmSetCfg M b q = (b.check q, setMcheck q b) := by
  unfold stpInStpmSetCfg
  dsimp only
  rw [setMcheck_same.1.vlan_id]
  exact if_pos h

/-- The mask that is left when the bit of the state has been taken out of it is empty, so that a
request that disables the instance ends here. -/
theorem set_disables (h : b.check q = 0) (hd : q.Disables) :
    stpInStpmSetCfg M b q = (0, { setMcheck q b with admin_state := .STP_DISABLED }) := by
  have henable : stpStpmEnable M (setMcheck q b) .STP_DISABLED =
      (0, { setMcheck q b with admin_state := .STP_DISABLED }) := by
    unfold stpStpmEnable
    split
    · next hstate => rw [hstate]
    · rw [if_neg (by decide)]
  have hmask : q.field_mask &&& cNot BR_CFG_STATE = 0 := by
    rw [show cNot BR_CFG_STATE = 0 by decide]
    exact UInt32.and_zero
  have hrc : stpInCheckStpmConfig ((stpInStpmGetCfg b).merge q) (setMcheck q b).vlan_id = 0 := by
    rw [setMcheck_same.1.vlan_id]
    exact h
  unfold stpInStpmSetCfg
  refine (if_neg (Classical.not_not.mpr hrc)).trans ?_
  refine (if_pos hd).trans ?_
  rw [henable]
  dsimp only
  rw [if_neg (by decide), if_pos hmask]

theorem set_applies (h : b.check q = 0) (hd : ¬ q.Disables) :
    stpInStpmSetCfg M b q = applyCfg M ((stpInStpmGetCfg b).merge q) q (setMcheck q b) := by
  unfold stpInStpmSetCfg
  dsimp only
  rw [setMcheck_same.1.vlan_id]
  exact (if_neg (Classical.not_not.mpr h)).trans (if_neg hd)

theorem setMcheck_eq :
    setMcheck q b = b ↔
      (q.has BR_CFG_FORCE_VER → q.force_version ≥ DEF_FORCE_VERS → ∀ port ∈ b.ports, port.mcheck) := by
  unfold setMcheck
  split
  · next hcond =>
    constructor
    · intro h _ _ port hport
      have hports : b.ports.map (fun port => { port with mcheck := true }) = b.ports :=
        congrArg CfgBridge.ports h
      rw [← hports] at hport
      obtain ⟨p, _, rfl⟩ := List.mem_map.mp hport
      rfl
    · intro h
      have hports : b.ports.map (fun port => { port with mcheck := true }) = b.ports := by
        refine (List.map_congr_left fun port hport => ?_).trans (List.map_id _)
        have hm := h hcond.1 hcond.2 port hport
        rw [id, ← hm]
      rw [hports]
  · next hcond => exact iff_of_true rfl fun hq hv => absurd ⟨hq, hv⟩ hcond

/-- Nothing that is reported is changed by the migration checks, the new roles and the start. -/
theorem applied_get (h : (store old (setMcheck q b)).SameCfg b') :
    (stpInStpmGetCfg b').values =
      { (stpInStpmGetCfg (store old b)).values with stp_enabled := b'.admin_state } := by
  have hstore : (store old b).SameCfg (store old (setMcheck q b)) := by
    have hsame := @setMcheck_same R b q
    refine ⟨hsame.1.vlan_id, rfl, ?_, rfl, rfl, rfl, rfl⟩
    unfold store
    dsimp only
    rw [hsame.1.prio]
  exact get_sameCfg (hstore.trans h)

/-- A request that is refused. -/
theorem configures_refused (h : b.check q ≠ 0) : Configures M b q ↔ setMcheck q b = b := by
  have hset := @set_refused R M b q h
  constructor
  · intro hc
    have hfail := hc.failed
    rw [hset] at hfail
    exact hfail h
  · intro hm
    constructor
    · intro _
      rw [hset]
      exact hm
    · intro h0
      rw [hset] at h0
      exact absurd h0 h

/-- A request that disables the instance. -/
theorem configures_disables (h : b.check q = 0) (hd : q.Disables) : Configures M b q ↔
    { (stpInStpmGetCfg b).granted q with stp_enabled := b.admin_state }.values =
      (stpInStpmGetCfg b).values := by
  have hset := @set_disables R M b q h hd
  have hsame := @setMcheck_same R b q
  have hget := get_sameCfg (hsame.1.state .STP_DISABLED)
  have hstate : ((stpInStpmGetCfg b).granted q).stp_enabled = .STP_DISABLED := by
    refine (if_pos hd.1).trans hd.2
  constructor
  · intro hc
    have hgr := hc.granted
    rw [hset, hget] at hgr
    have hgr := congrArg (fun c : UidStpCfg => { c with stp_enabled := b.admin_state }) (hgr rfl)
    exact hgr.symm
  · intro hv
    constructor
    · intro h0
      rw [hset] at h0
      exact absurd rfl h0
    · intro _
      rw [hset, hget]
      have hv := congrArg (fun c : UidStpCfg => { c with stp_enabled := .STP_DISABLED }) hv
      refine hv.symm.trans ?_
      rw [← hstate]
      rfl

theorem granted_values : ((stpInStpmGetCfg b).granted q).values =
    { ((stpInStpmGetCfg b).merge q).values with
      stp_enabled := b.newState q
      bridge_priority := (b.BrId.prio.toNat : Int) % 4096 +
        ((stpInStpmGetCfg b).merge q).bridge_priority / 4096 * 4096
      hold_time := if q.has BR_CFG_HOLD_TIME then q.hold_time else TxHoldCount } := by
  have hprio : ((stpInStpmGetCfg b).granted q).bridge_priority = (b.BrId.prio.toNat : Int) % 4096 +
      ((stpInStpmGetCfg b).merge q).bridge_priority / 4096 * 4096 := by
    unfold UidStpCfg.granted UidStpCfg.merge
    dsimp only
    split
    · rfl
    · show (b.BrId.prio.toNat : Int) = (b.BrId.prio.toNat : Int) % 4096 +
        (b.BrId.prio.toNat : Int) / 4096 * 4096
      omega
  rw [← hprio]
  rfl

theorem setMcheck_startable : (setMcheck q b).Startable ↔ b.Startable := by
  unfold setMcheck
  split
  · unfold CfgBridge.Startable
    dsimp only
    rw [ne_eq, List.map_eq_nil_iff]
  · rfl

/-- A request that is applied. -/
theorem configures_applies (h : b.check q = 0) (hd : ¬ q.Disables) : Configures M b q ↔
    (b.EnabledBy q → b.Startable) ∧
      FitsShort ((stpInStpmGetCfg b).merge q).max_age ∧
      FitsShort ((stpInStpmGetCfg b).merge q).hello_time ∧
      FitsShort ((stpInStpmGetCfg b).merge q).forward_delay ∧
      (q.has BR_CFG_HOLD_TIME → q.hold_time = TxHoldCount) := by
  have hset := @set_applies R M b q h hd
  have hmcheck := @setMcheck_same R b q
  by_cases hen : b.EnabledBy q → b.Startable
  · have hok := @apply_ok R M (setMcheck q b) q ((stpInStpmGetCfg b).merge q) hd fun he =>
      setMcheck_startable.mpr (hen ⟨he.1, he.2.1, hmcheck.2.symm.trans he.2.2⟩)
    rw [← hset] at hok
    obtain ⟨hrc, hsame, hstate⟩ := hok
    have hstate : (stpInStpmSetCfg M b q).2.admin_state = b.newState q := by
      rw [hstate, CfgBridge.newState, CfgBridge.newState, hmcheck.2]
    have hget := applied_get hsame
    rw [hstate] at hget
    have hiff : Configures M b q ↔ (stpInStpmGetCfg (stpInStpmSetCfg M b q).2).values =
        ((stpInStpmGetCfg b).granted q).values :=
      ⟨fun hc => hc.granted hrc, fun heq => ⟨fun h0 => absurd hrc h0, fun _ => heq⟩⟩
    have hhold : (if q.has BR_CFG_HOLD_TIME then q.hold_time else TxHoldCount) = TxHoldCount ↔
        (q.has BR_CFG_HOLD_TIME → q.hold_time = TxHoldCount) := by
      split <;> simp_all
    rw [hiff, hget, granted_values, get_store h, hhold]
    exact (and_iff_right hen).symm
  · obtain ⟨he, hns⟩ := Classical.not_imp.mp hen
    refine iff_of_false (fun hc => ?_) fun hall => hen hall.1
    have hfails := @apply_fails R M (setMcheck q b) q ((stpInStpmGetCfg b).merge q)
      ⟨he.1, he.2.1, hmcheck.2.trans he.2.2⟩ fun hs => hns (setMcheck_startable.mp hs)
    rw [← hset] at hfails
    -- the error leaves the instance enabled
    have hstate := congrArg CfgBridge.admin_state (hc.failed hfails.1)
    rw [hfails.2, he.2.2] at hstate
    cases hstate

theorem configures_iff : Configures M b q ↔ b.Settable q := by
  by_cases h : b.check q = 0
  · by_cases hd : q.Disables
    · rw [configures_disables h hd]
      exact ⟨fun hv => ⟨fun h0 => absurd h h0, fun _ _ => hv, fun _ hnd => absurd hd hnd⟩,
        fun hs => hs.disables h hd⟩
    · rw [configures_applies h hd]
      exact ⟨fun ha => ⟨fun h0 => absurd h h0, fun _ hdis => absurd hdis hd, fun _ _ => ha⟩,
        fun hs => hs.applies h hd⟩
  · rw [configures_refused h, setMcheck_eq]
    exact ⟨fun hm => ⟨fun _ => hm, fun h0 => absurd h0 h, fun h0 => absurd h0 h⟩,
      fun hs => hs.refused h⟩

/-! ## What is reported -/

theorem has_all {bit : UInt32} (h : bit &&& BR_CFG_ALL ≠ 0) : (reportedAll b).has bit = true :=
  decide_eq_true h

/-- The configuration as it is reported asks for nothing new. -/
theorem merge_reported : (stpInStpmGetCfg b).merge (reportedAll b) = stpInStpmGetCfg b := by
  unfold UidStpCfg.merge
  rw [has_all (by decide), has_all (by decide), has_all (by decide), has_all (by decide),
    has_all (by decide), has_all (by decide)]
  rfl

theorem granted_reported :
    ((stpInStpmGetCfg b).granted (reportedAll b)).values = (stpInStpmGetCfg b).values := by
  rw [granted_values, merge_reported, CfgBridge.newState, has_all (by decide), has_all (by decide)]
  have hprio : (b.BrId.prio.toNat : Int) % 4096 +
      (stpInStpmGetCfg b).bridge_priority / 4096 * 4096 = (stpInStpmGetCfg b).bridge_priority := by
    rw [show (stpInStpmGetCfg b).bridge_priority = (b.BrId.prio.toNat : Int) from rfl]
    omega
  rw [hprio]
  rfl

theorem fitsShort_toNat {x : UInt16} : FitsShort (x.toNat : Int) := by
  have hx := x.toNat_lt
  exact ⟨by omega, by omega⟩

theorem not_enabledBy_reported : ¬ b.EnabledBy (reportedAll b) := by
  rintro ⟨_, hen, hstate⟩
  have hreported : (reportedAll b).stp_enabled = b.admin_state := rfl
  rw [hreported, hstate] at hen
  cases hen

theorem settable_reported (h : b.check (reportedAll b) = 0) : b.Settable (reportedAll b) where
  refused h0 := absurd h h0
  disables _ _ :=
    congrArg (fun c : UidStpCfg => { c with stp_enabled := b.admin_state }) granted_reported
  applies _ _ := by
    rw [merge_reported]
    exact ⟨fun he => absurd he not_enabledBy_reported, fitsShort_toNat, fitsShort_toNat,
      fitsShort_toNat, fun _ => rfl⟩

theorem resubmits_iff : Resubmits M b (reportedAll b) ↔
    stpInCheckStpmConfig (stpInStpmGetCfg b) b.vlan_id = 0 := by
  have hcheck : b.check (reportedAll b) = stpInCheckStpmConfig (stpInStpmGetCfg b) b.vlan_id := by
    rw [CfgBridge.check, merge_reported]
  rw [← hcheck]
  constructor
  · intro hr
    by_contra h
    have hacc := hr.accepted
    rw [set_refused h] at hacc
    exact h hacc
  · intro h
    have hc : Configures M b (reportedAll b) := configures_iff.mpr (settable_reported h)
    have hrc : (stpInStpmSetCfg M b (reportedAll b)).1 = 0 := by
      by_cases hd : (reportedAll b).Disables
      · rw [set_disables h hd]
      · rw [set_applies h hd]
        have hmcheck := @setMcheck_same R b (reportedAll b)
        exact (apply_ok hd fun he =>
          absurd ⟨he.1, he.2.1, hmcheck.2.symm.trans he.2.2⟩ not_enabledBy_reported).1
    exact ⟨hrc, (hc.granted hrc).trans granted_reported⟩

/-- The requests that leave an instance configured as they ask or not at all, and the instances
whose configuration can be read and submitted again. -/
theorem config_iff : ∀ (M : Machines R) (b : CfgBridge R),
    (∀ q, Configures M b q ↔ b.Settable q) ∧
      (Resubmits M b (reportedAll b) ↔ stpInCheckStpmConfig (stpInStpmGetCfg b) b.vlan_id = 0) :=
  fun _ _ => ⟨fun _ => configures_iff, resubmits_iff⟩

end

/-! ## What goes wrong -/

def idleMachines : Machines Unit where
  port_mac _ := ⟨[0, 0, 0, 0, 0, 1], rfl⟩
  start := id
  update := id
  start_same _ := ⟨rfl, rfl, rfl, rfl, rfl, rfl, rfl⟩
  update_same _ := ⟨⟨rfl, rfl, rfl, rfl, rfl, rfl, rfl⟩, rfl⟩

/-- An instance with the defaults. -/
def defaultBridge (vlan_id prio : UInt16) : CfgBridge Unit where
  vlan_id := vlan_id
  admin_state := .STP_ENABLED
  ForceVersion := DEF_FORCE_VERS
  BrId := ⟨prio, ⟨[0, 0, 0, 0, 0, 1], rfl⟩⟩
  BrTimes := ⟨0, 20, 15, 2, 20⟩
  ports := [⟨1, false, false, false⟩]
  rest := ()

/-- The state and the maximum age are asked for. -/
def disableWithAge : UidStpCfg where
  field_mask := BR_CFG_STATE ||| BR_CFG_AGE
  stp_enabled := .STP_DISABLED
  bridge_priority := 0
  max_age := 10
  hello_time := 0
  forward_delay := 0
  force_version := 0
  hold_time := 0
  maxhops := 0

/-- The greatest priority is asked for. -/
def largestPriority : UidStpCfg :=
  { disableWithAge with field_mask := BR_CFG_PRIO, bridge_priority := MAX_BR_PRIO }

/-- The age is not set when the instance is disabled, and the greatest priority is reported
with the number of the instance in it, which is out of range. -/
theorem age_forgotten :
    ¬ (∀ (M : Machines Unit) (b : CfgBridge Unit),
      (∀ q, Configures M b q) ∧ Resubmits M b (reportedAll b)) ∧
    ¬ Configures idleMachines (defaultBridge STP_CIST_ID DEF_BR_PRIO) disableWithAge ∧
    (stpInStpmSetCfg idleMachines (defaultBridge 1 32769) largestPriority).1 = 0 ∧
    (stpInStpmSetCfg idleMachines (stpInStpmSetCfg idleMachines (defaultBridge 1 32769)
      largestPriority).2 (reportedAll (stpInStpmSetCfg idleMachines (defaultBridge 1 32769)
        largestPriority).2)).1 = STP_Large_Bridge_Priority := by
  have hage : ¬ Configures idleMachines (defaultBridge STP_CIST_ID DEF_BR_PRIO) disableWithAge :=
    fun h => absurd (h.granted (by decide)) (by decide)
  exact ⟨fun h => hage ((h _ _).1 _), hage, by decide, by decide⟩

end Stp
end DaemonGroup
