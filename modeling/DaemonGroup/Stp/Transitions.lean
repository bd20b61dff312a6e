import DaemonGroup.Lib.Machine
import DaemonGroup.Stp.PortInfo
import Mathlib.Data.Fintype.Defs
import Mathlib.Logic.Function.Basic

/-!
# DaemonGroup.Stp.Transitions

The machines that decide whether a port learns and forwards: the transitions of its role
(`stp_roletrns.c`) and of its state (`stp_sttrans.c`), and the loop that runs a machine
(`stp_statmch.c`). The ports of an instance are numbered by `ι`; a machine is the one of a port `k`.

* `statmch_rest` — one check and one change of state are the loop `Machine.rest`.
* `roletrnsEnters`, `spreads`, `sttransEnters` — what entering a state does to the port of the machine and
  to the others.
-/

namespace DaemonGroup
namespace Stp

open Lib

/-! ## Running a machine -/

/-- The part of `STATE_MACH_T` that changes. -/
structure StateMach (τ : Type) where
  changeState : Bool
  State : τ

section
variable {τ σ : Type}

/-- `stp_statmch_hop_2_state` -/
def stpStatmchHop2State (this : StateMach τ) (new_state : τ) : StateMach τ :=
  { this with State := new_state, changeState := true }

/-- `stp_statmch_check_condition` -/
def stpStatmchCheckCondition (m : Machine τ σ) (this : StateMach τ) (v : σ) : StateMach τ × σ :=
  match m.check this.State v with
  | (some new_state, v) => (stpStatmchHop2State this new_state, v)
  | (none, v) => (this, v)

/-- `stp_statmch_change_state`; `none` means that the fuel ran out. -/
def stpStatmchChangeState (m : Machine τ σ) : Nat → StateMach τ → σ → Option (StateMach τ × σ)
  | 0, _, _ => none
  | fuel + 1, this, v =>
    if ¬ this.changeState then some (this, v)
    else
      let r := stpStatmchCheckCondition m { this with changeState := false } (m.enter this.State v)
      stpStatmchChangeState m fuel r.1 r.2

/-- A machine that was at rest is looked at and run: it comes to rest where `Machine.rest` says. -/
theorem statmch_rest {m : Machine τ σ} {this : StateMach τ} {v : σ} {fuel : Nat}
    (h : this.changeState = false) :
    stpStatmchChangeState m fuel (stpStatmchCheckCondition m this v).1
        (stpStatmchCheckCondition m this v).2 =
      (m.rest fuel this.State v).map fun c => (⟨false, c.1⟩, c.2) := by
  obtain ⟨flag, s⟩ := this
  subst h
  induction fuel generalizing s v with
  | zero => rfl
  | succ n ih =>
    cases hc : m.check s v with
    | mk next w =>
      cases next with
      | none =>
        rw [Machine.rest_still (Machine.turn_eq_none.mpr (by rw [hc]))]
        simp [stpStatmchChangeState, stpStatmchCheckCondition, hc]
      | some u =>
        rw [Machine.rest_turn (Machine.turn_eq_some.mpr ⟨by rw [hc], rfl⟩), hc, ← ih]
        simp [stpStatmchChangeState, stpStatmchCheckCondition, stpStatmchHop2State, hc]

end

/-! ## The ports -/

/-- What `npd` is told of a port. -/
inductive NamState where
  | NAM_STP_PORT_STATE_DISABLE_E
  | NAM_STP_PORT_STATE_DISCARD_E
  | NAM_STP_PORT_STATE_LEARN_E
  | NAM_STP_PORT_STATE_FORWARD_E
deriving DecidableEq, Repr

/-- The part of `PORT_T` that the machines of a port work on. -/
structure TransPort extends Info where
  fdWhile : Nat
  rrWhile : Nat
  rbWhile : Nat
  tcWhile : Nat
  reRoot : Bool
  operEdge : Bool
  learning : Bool
  forwarding : Bool
  isWAN : Bool
  tc : Bool
  tcAck : Bool
  tcProp : Bool
  rcvdTc : Bool
  rcvdTcn : Bool
  rcvdTcAck : Bool
deriving DecidableEq

/-- What was told of a port, to the bridge of a master control port or to `npd`. -/
structure Telling (ι : Type) where
  port : ι
  isWAN : Bool
  state : NamState
deriving DecidableEq

/-- An instance: its ports, the times of the CIST, and what was told of the ports, the last first. -/
structure Bridge (ι : Type) where
  ForceVersion : Nat
  cist : Option TimeValues
  ports : ι → TransPort
  sttrans_count : Nat
  told : List (Telling ι)

/-- The states of the machine of the roles. -/
inductive RoleState where
  | BEGIN
  | INIT_PORT
  | BLOCK_PORT
  | BLOCKED_PORT
  | BACKUP_PORT
  | PROPOSED
  | PROPOSING
  | AGREES
  | SYNCED
  | REROOT
  | ACTIVE_PORT
  | FORWARD
  | LEARN
  | LISTEN
  | REROOTED
  | ROOT
  | NON_STP
deriving DecidableEq, Repr

/-- The states of the machine of the port state. -/
inductive PortState where
  | BEGIN
  | DISCARDING
  | LEARNING
  | FORWARDING
deriving DecidableEq, Repr

section
variable {ι : Type} [DecidableEq ι] (k : ι)

/-- What is done to the port `k`. -/
def Bridge.modify (b : Bridge ι) (f : TransPort → TransPort) : Bridge ι :=
  { b with ports := Function.update b.ports k (f (b.ports k)) }

/-- `stp_roletrns_setSyncTree` -/
def stpRoletrnsSetSyncTree (b : Bridge ι) : Bridge ι :=
  { b with ports := fun j => { b.ports j with port := { (b.ports j).port with sync := true } } }

/-- `stp_roletrns_setReRootTree` -/
def stpRoletrnsSetReRootTree (b : Bridge ι) : Bridge ι :=
  { b with ports := fun j => { b.ports j with reRoot := true } }

section
variable [Fintype ι]

/-- `stp_roletrns_compute_all_synced` -/
def stpRoletrnsComputeAllSynced (b : Bridge ι) : Bool :=
  decide (∀ j, j = k ∨ (b.ports j).port.admin_non_stp ∨ (b.ports j).port.synced)

/-- `stp_roletrns_compute_re_rooted` -/
def stpRoletrnsComputeReRooted (b : Bridge ι) : Bool :=
  decide (∀ j, j = k ∨ (b.ports j).port.admin_non_stp ∨ (b.ports j).rrWhile = 0)

end

/-! ## The transitions of the role -/

/-- What the machine of the roles does to its own port when it enters a state. -/
def roletrnsEnters (rootTimes : TimeValues) (s : RoleState) (p : TransPort) : TransPort :=
  let ForwardDelay := rootTimes.ForwardDelay.toNat
  match s with
  | .BEGIN | .INIT_PORT =>
    { p with
      port := { p.port with
        role := .DisabledPort
        selectedRole := .DisabledPort
        reselect := true
        synced := false
        sync := true }
      reRoot := true
      rrWhile := ForwardDelay
      fdWhile := ForwardDelay
      rbWhile := 0 }
  | .BLOCK_PORT =>
    { p with
      port := { p.port with role := p.port.selectedRole, learn := false, forward := false } }
  | .BLOCKED_PORT =>
    { p with
      port := { p.port with synced := true, sync := false }
      fdWhile := ForwardDelay
      rrWhile := 0
      reRoot := false }
  | .BACKUP_PORT => { p with rbWhile := 2 * rootTimes.HelloTime.toNat }
  | .PROPOSED => { p with port := { p.port with proposed := false } }
  | .PROPOSING =>
    { p with
      toInfo := stpRoletrnsSetnewinfoXst { p.toInfo with port := { p.port with proposing := true } } }
  | .AGREES =>
    { p with
      toInfo := stpRoletrnsSetnewinfoXst
        { p.toInfo with port := { p.port with proposed := false, agree := true } } }
  | .SYNCED =>
    { p with
      port := { p.port with synced := true, sync := false }
      rrWhile := if p.port.role ≠ .RootPort then 0 else p.rrWhile }
  | .REROOT => p
  | .FORWARD => { p with port := { p.port with forward := true }, fdWhile := 0 }
  | .LISTEN =>
    { p with port := { p.port with learn := false, forward := false }, fdWhile := ForwardDelay }
  | .LEARN => { p with port := { p.port with learn := true }, fdWhile := ForwardDelay }
  | .REROOTED => { p with reRoot := false }
  | .ROOT => { p with rrWhile := ForwardDelay }
  | .NON_STP => { p with port := { p.port with role := .NonStpPort } }
  | .ACTIVE_PORT => { p with port := { p.port with role := p.port.selectedRole } }

/-- `MSTP_roletrns_enter_state` -/
def mstpRoletrnsEnterState (s : RoleState) (b : Bridge ι) : Bridge ι :=
  match b.cist with
  | none => b
  | some rootTimes =>
    match s with
    | .PROPOSED => (stpRoletrnsSetSyncTree b).modify k (roletrnsEnters rootTimes .PROPOSED)
    | .REROOT => (stpRoletrnsSetReRootTree b).modify k (roletrnsEnters rootTimes .REROOT)
    | s => b.modify k (roletrnsEnters rootTimes s)

/-- What entering a state does to every port of the instance. -/
def spreads (s : RoleState) (p : TransPort) : TransPort :=
  match s with
  | .PROPOSED => { p with port := { p.port with sync := true } }
  | .REROOT => { p with reRoot := true }
  | _ => p

section
variable {k} {b : Bridge ι} {f : TransPort → TransPort} {s : RoleState} {j : ι} {rootTimes : TimeValues}

@[simp] theorem Bridge.modify_self : (b.modify k f).ports k = f (b.ports k) := by simp [Bridge.modify]

@[simp] theorem Bridge.modify_of_ne (h : j ≠ k) : (b.modify k f).ports j = b.ports j := by
  simp [Bridge.modify, h]

@[simp] theorem Bridge.modify_cist : (b.modify k f).cist = b.cist := rfl

@[simp] theorem enters_cist : (mstpRoletrnsEnterState k s b).cist = b.cist := by
  unfold mstpRoletrnsEnterState
  cases hc : b.cist with
  | none => exact hc
  | some rootTimes => cases s <;> exact hc

theorem enters_none (hc : b.cist = none) : mstpRoletrnsEnterState k s b = b := by
  simp [mstpRoletrnsEnterState, hc]

/-- What entering a state does to the port of the machine. -/
theorem enters_self (hc : b.cist = some rootTimes) :
    (mstpRoletrnsEnterState k s b).ports k = roletrnsEnters rootTimes s (spreads s (b.ports k)) := by
  unfold mstpRoletrnsEnterState
  rw [hc]
  cases s <;> simp [spreads, stpRoletrnsSetSyncTree, stpRoletrnsSetReRootTree]

/-- What entering a state does to the other ports. -/
theorem enters_of_ne (hc : b.cist = some rootTimes) (h : j ≠ k) :
    (mstpRoletrnsEnterState k s b).ports j = spreads s (b.ports j) := by
  unfold mstpRoletrnsEnterState
  rw [hc]
  cases s <;> simp [spreads, stpRoletrnsSetSyncTree, stpRoletrnsSetReRootTree, h]

end

section
variable [Fintype ι]

/-- What lets an active port learn and forward. -/
def Bridge.mayPass (b : Bridge ι) : Bool :=
  let p := b.ports k
  p.fdWhile = 0 ∨
    p.port.role = .RootPort ∧ stpRoletrnsComputeReRooted k b ∧ p.rbWhile = 0 ∧ 2 ≤ b.ForceVersion ∨
    p.port.role = .DesignatedPort ∧ (p.port.agreed ∨ p.operEdge) ∧ (p.rrWhile = 0 ∨ ¬ p.reRoot) ∧
      ¬ p.port.sync ∨
    p.port.role = .MasterPort ∧ stpRoletrnsComputeAllSynced k b

/-- `MSTP_roletrns_check_conditions` in ACTIVE_PORT -/
def activeConditions (rootTimes : TimeValues) (b : Bridge ι) : Option RoleState :=
  let p := b.ports k
  let allSynced := stpRoletrnsComputeAllSynced k b
  if ¬ p.port.selected ∨ p.port.updtInfo then none
  else if (¬ p.learning ∧ ¬ p.forwarding ∧ ¬ p.port.synced ∧ p.port.role ≠ .RootPort) ∨
      (p.port.agreed ∧ ¬ p.port.synced) ∨ (p.operEdge ∧ ¬ p.port.synced) ∨
      (p.port.sync ∧ p.port.synced) then some .SYNCED
  else if allSynced ∧ (p.port.proposed ∨ ¬ p.port.agree) then some .AGREES
  else if ¬ p.port.forward ∧ ¬ p.port.agreed ∧ ¬ p.port.proposing ∧ ¬ p.operEdge ∧
      p.port.role = .DesignatedPort then some .PROPOSING
  else if p.port.proposed ∧ ¬ p.port.agree then some .PROPOSED
  else if p.port.learn ∧ ¬ p.port.forward ∧ b.mayPass k then some .FORWARD
  else if p.rrWhile ≠ rootTimes.ForwardDelay.toNat ∧ p.port.role = .RootPort then some .ROOT
  else if ¬ p.port.forward ∧ ¬ p.reRoot ∧ p.port.role = .RootPort then some .REROOT
  else if p.reRoot ∧ ((p.port.role = .RootPort ∧ p.port.forward) ∨ p.rrWhile = 0) then some .REROOTED
  else if ¬ p.port.learn ∧ b.mayPass k then some .LEARN
  else if (p.port.learn ∨ p.port.forward) ∧ ¬ p.operEdge ∧
      (p.port.role ≠ .RootPort ∧ p.port.role ≠ .MasterPort) ∧
      ((p.port.sync ∧ ¬ p.port.synced) ∨ (p.reRoot ∧ p.rrWhile ≠ 0)) then some .LISTEN
  else none

/-- Another role is selected for the port. -/
def TransPort.reassigned (p : TransPort) : Bool :=
  p.port.role ≠ p.port.selectedRole ∧ p.port.selected ∧ ¬ p.port.updtInfo

/-- The state in which a port takes a role. -/
def PortRole.state : PortRole → RoleState
  | .DisabledPort | .AlternatePort | .BackupPort => .BLOCK_PORT
  | .RootPort | .DesignatedPort | .MasterPort => .ACTIVE_PORT
  | .NonStpPort => .NON_STP

/-- `MSTP_roletrns_check_conditions` for a port that keeps its role -/
def roletrnsConditions (rootTimes : TimeValues) (s : RoleState) (b : Bridge ι) : Option RoleState :=
  let p := b.ports k
  match s with
  | .BEGIN => none
  | .INIT_PORT => some .BLOCK_PORT
  | .BLOCK_PORT =>
    if ¬ p.port.selected ∨ p.port.updtInfo then none
    else if ¬ p.learning ∧ ¬ p.forwarding then some .BLOCKED_PORT
    else none
  | .BLOCKED_PORT =>
    if ¬ p.port.selected ∨ p.port.updtInfo then none
    else if p.fdWhile ≠ rootTimes.ForwardDelay.toNat ∨ p.port.sync ∨ p.reRoot ∨ ¬ p.port.synced then
      some .BLOCKED_PORT
    else if p.rbWhile ≠ 2 * rootTimes.HelloTime.toNat ∧ p.port.role = .BackupPort then
      some .BACKUP_PORT
    else none
  | .BACKUP_PORT => some .BLOCKED_PORT
  | .PROPOSED | .PROPOSING | .AGREES | .SYNCED | .REROOT | .FORWARD | .LISTEN | .LEARN | .REROOTED
  | .ROOT => some .ACTIVE_PORT
  | .ACTIVE_PORT => activeConditions k rootTimes b
  | .NON_STP => none

/-- `MSTP_roletrns_check_conditions`: the state that the machine changes to. -/
def mstpRoletrnsCheckConditions (s : RoleState) (b : Bridge ι) : Option RoleState :=
  match b.cist with
  | none => none
  | some rootTimes =>
    if s = .BEGIN then some .INIT_PORT
    else if (b.ports k).reassigned then some (b.ports k).port.selectedRole.state
    else roletrnsConditions k rootTimes s b

/-- The machine of the role of the port `k`. -/
def roletrns : Machine RoleState (Bridge ι) where
  enter := mstpRoletrnsEnterState k
  check := fun s b => (mstpRoletrnsCheckConditions k s b, b)

end

/-! ## The transitions of the state -/

/-- What is told in a state of the machine. -/
def PortState.nam : PortState → NamState
  | .BEGIN => .NAM_STP_PORT_STATE_DISABLE_E
  | .DISCARDING => .NAM_STP_PORT_STATE_DISCARD_E
  | .LEARNING => .NAM_STP_PORT_STATE_LEARN_E
  | .FORWARDING => .NAM_STP_PORT_STATE_FORWARD_E

/-- `stp_sttrans_sendStpStatetoNpd` -/
def stpSttransSendStpStatetoNpd (s : PortState) (b : Bridge ι) : Bridge ι :=
  { b with told := ⟨k, (b.ports k).isWAN, s.nam⟩ :: b.told }

/-- What the machine of the port state does to its own port when it enters a state. -/
def sttransEnters (s : PortState) (p : TransPort) : TransPort :=
  match s with
  | .BEGIN | .DISCARDING => { p with learning := false, forwarding := false }
  | .LEARNING => { p with learning := true }
  | .FORWARDING =>
    { p with
      tc := ¬ p.operEdge
      forwarding := true
      port := { p.port with synced := false, proposing := false, agreed := false } }

/-- `MSTP_sttrans_enter_state`. Of a port that discards `npd` is told only while the port is enabled. -/
def mstpSttransEnterState (s : PortState) (b : Bridge ι) : Bridge ι :=
  let b := b.modify k (sttransEnters s)
  match s with
  | .BEGIN | .DISCARDING =>
    if (b.ports k).port.portEnabled then stpSttransSendStpStatetoNpd k s b else b
  | .LEARNING | .FORWARDING => stpSttransSendStpStatetoNpd k s b

/-- `MSTP_sttrans_check_conditions`: the state that the machine changes to, and what the first look at
a port that discards tells. -/
def mstpSttransCheckConditions (s : PortState) (b : Bridge ι) : Option PortState × Bridge ι :=
  let p := b.ports k
  match s with
  | .BEGIN => (some .DISCARDING, b)
  | .DISCARDING =>
    let b :=
      if p.port.portEnabled ∧ b.sttrans_count < 1 ∧ ¬ p.port.learn then
        { stpSttransSendStpStatetoNpd k s b with sttrans_count := b.sttrans_count + 1 }
      else b
    (if p.port.learn then some .LEARNING else none, b)
  | .LEARNING =>
    (if p.port.forward then some .FORWARDING else if ¬ p.port.learn then some .DISCARDING else none, b)
  | .FORWARDING => (if ¬ p.port.forward then some .DISCARDING else none, b)

section
variable {k} {b : Bridge ι} {s : PortState}

@[simp] theorem sttrans_enters_ports :
    (mstpSttransEnterState k s b).ports = (b.modify k (sttransEnters s)).ports := by
  unfold mstpSttransEnterState
  cases s with
  | BEGIN | DISCARDING =>
    dsimp only
    split_ifs <;> rfl
  | LEARNING | FORWARDING => rfl

omit [DecidableEq ι] in
@[simp] theorem sttrans_check_ports : (mstpSttransCheckConditions k s b).2.ports = b.ports := by
  cases s with
  | DISCARDING =>
    simp only [mstpSttransCheckConditions]
    split_ifs <;> rfl
  | BEGIN | LEARNING | FORWARDING => rfl

omit [DecidableEq ι] in
/-- Where the machine goes from a state. -/
theorem sttrans_check_state : (mstpSttransCheckConditions k s b).1 =
    match s with
    | .BEGIN => some .DISCARDING
    | .DISCARDING => if (b.ports k).port.learn then some .LEARNING else none
    | .LEARNING =>
      if (b.ports k).port.forward then some .FORWARDING
      else if ¬ (b.ports k).port.learn then some .DISCARDING
      else none
    | .FORWARDING => if ¬ (b.ports k).port.forward then some .DISCARDING else none := by
  cases s <;> rfl

end

/-- The machine of the state of the port `k`. -/
def sttrans : Machine PortState (Bridge ι) where
  enter := mstpSttransEnterState k
  check := mstpSttransCheckConditions k

end

end Stp
end DaemonGroup
