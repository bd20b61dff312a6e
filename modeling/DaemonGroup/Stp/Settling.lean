import DaemonGroup.Stp.Messages
import DaemonGroup.Stp.Transitions

/-!
# DaemonGroup.Stp.Settling

`stp_statmch_change_state` runs a machine until it has nothing to do. Whether that happens depends on what
the bridge has learned from its neighbours.

* `ActiveStep` — what an active port can do next; `work_lt` — whatever it does, there is less left to do.
* `role_machine_rests` — the machine of the roles comes to rest from everywhere if the forward delay of the
  root is not zero; if it is, a port that becomes the root port keeps it going for ever.
* `sttrans_settles` — the machine of the port state comes to rest from everywhere.
-/

namespace DaemonGroup
namespace Stp

open Lib

namespace TransPort

/-- The condition of LISTEN, but for what the port does. -/
def mustListen (p : TransPort) : Bool :=
  ¬ p.operEdge ∧ p.port.role ≠ .RootPort ∧ p.port.role ≠ .MasterPort ∧
    ((p.port.sync ∧ ¬ p.port.synced) ∨ (p.reRoot ∧ p.rrWhile ≠ 0))

/-- How often an active port can still change between learning, forwarding and listening. -/
def wavers (p : TransPort) : Nat :=
  if p.mustListen then
    if ¬ p.port.learn ∧ p.fdWhile = 0 then 3
    else if p.port.learn ∧ ¬ p.port.forward ∧ p.fdWhile = 0 then 2
    else if p.port.learn ∨ p.port.forward then 1
    else 0
  else (if p.port.learn then 0 else 1) + if p.port.forward then 0 else 1

/-- The work of a root port. -/
def rootWork (ForwardDelay : Nat) (p : TransPort) : Nat :=
  8 * (if p.rrWhile = ForwardDelay then 0 else 1) +
    2 * (if p.port.forward then if p.reRoot then 1 else 0 else if p.reRoot then 2 else 3) +
      if p.port.learn then 0 else 1

/-- The work of any other port. -/
def otherWork (p : TransPort) : Nat :=
  8 * (if p.reRoot then 1 else 0) + 2 * p.wavers + if p.port.proposing then 0 else 1

/-- What is left of the agreement. -/
def agreeing (p : TransPort) : Nat :=
  (if p.port.proposed then 2 else 0) + if p.port.agree then 0 else 1

def syncing (p : TransPort) : Nat :=
  (if p.port.sync then 1 else 0) + if p.port.synced then 0 else 1

/-- What an active port has still to do. -/
def work (ForwardDelay : Nat) (p : TransPort) : Nat :=
  64 * p.agreeing + 16 * p.syncing +
    if p.port.role = .RootPort then p.rootWork ForwardDelay else p.otherWork

end TransPort

/-- What an active port can do, with as much of the conditions as its work depends on. -/
inductive ActiveStep (ForwardDelay : Nat) (p : TransPort) : RoleState → Prop where
  | synced : (p.port.synced → p.port.sync) → ActiveStep ForwardDelay p .SYNCED
  | agrees : p.port.proposed ∨ ¬ p.port.agree → ActiveStep ForwardDelay p .AGREES
  | proposing : p.port.role = .DesignatedPort → ¬ p.port.proposing →
      ActiveStep ForwardDelay p .PROPOSING
  | proposed : p.port.proposed → ¬ p.port.agree → ActiveStep ForwardDelay p .PROPOSED
  | forward : p.port.learn → ¬ p.port.forward → (p.mustListen → p.fdWhile = 0) →
      ActiveStep ForwardDelay p .FORWARD
  | root : p.port.role = .RootPort → p.rrWhile ≠ ForwardDelay → ActiveStep ForwardDelay p .ROOT
  | reroot : p.port.role = .RootPort → ¬ p.port.forward → ¬ p.reRoot →
      ActiveStep ForwardDelay p .REROOT
  | rerooted : p.reRoot → (p.port.role = .RootPort → p.port.forward ∨ ForwardDelay = 0) →
      ActiveStep ForwardDelay p .REROOTED
  | learn : ¬ p.port.learn → (p.mustListen → p.fdWhile = 0) → ActiveStep ForwardDelay p .LEARN
  | listen : p.mustListen → p.port.learn ∨ p.port.forward → ActiveStep ForwardDelay p .LISTEN

section
variable {ι : Type} [DecidableEq ι] [Fintype ι] {k : ι} {b : Bridge ι} {rootTimes : TimeValues}
  {u : RoleState} {p : TransPort}

theorem TransPort.wavers_le : p.wavers ≤ 3 := by
  unfold TransPort.wavers
  split_ifs <;> omega

theorem TransPort.otherWork_lt : p.otherWork < 16 := by
  have := p.wavers_le
  unfold TransPort.otherWork
  split_ifs <;> omega

theorem TransPort.rootWork_lt {d : Nat} : p.rootWork d < 16 := by
  unfold TransPort.rootWork
  split_ifs <;> omega

theorem TransPort.syncing_le : p.syncing ≤ 2 := by
  unfold TransPort.syncing
  split_ifs <;> omega

theorem mayPass_mustListen (h : b.mayPass k) (hl : (b.ports k).mustListen) : (b.ports k).fdWhile = 0 := by
  simp only [Bridge.mayPass, TransPort.mustListen, decide_eq_true_eq] at h hl
  grind

theorem activeStep (h : activeConditions k rootTimes b = some u) :
    (b.ports k).port.selected ∧ ¬ (b.ports k).port.updtInfo ∧
      ActiveStep rootTimes.ForwardDelay.toNat (b.ports k) u := by
  simp only [activeConditions] at h
  rcases ite_eq_iff.mp h with ⟨-, hu⟩ | ⟨hsel, h⟩
  · cases hu
  refine ⟨by tauto, by tauto, ?_⟩
  rcases ite_eq_iff.mp h with ⟨hc, hu⟩ | ⟨-, h⟩
  · cases hu
    exact .synced (by grind)
  rcases ite_eq_iff.mp h with ⟨hc, hu⟩ | ⟨-, h⟩
  · cases hu
    exact .agrees (by grind)
  rcases ite_eq_iff.mp h with ⟨hc, hu⟩ | ⟨-, h⟩
  · cases hu
    exact .proposing hc.2.2.2.2 hc.2.2.1
  rcases ite_eq_iff.mp h with ⟨hc, hu⟩ | ⟨-, h⟩
  · cases hu
    exact .proposed hc.1 hc.2
  rcases ite_eq_iff.mp h with ⟨hc, hu⟩ | ⟨-, h⟩
  · cases hu
    exact .forward hc.1 hc.2.1 (mayPass_mustListen hc.2.2)
  rcases ite_eq_iff.mp h with ⟨hc, hu⟩ | ⟨hroot, h⟩
  · cases hu
    exact .root hc.2 hc.1
  rcases ite_eq_iff.mp h with ⟨hc, hu⟩ | ⟨-, h⟩
  · cases hu
    exact .reroot hc.2.2 hc.1 hc.2.1
  rcases ite_eq_iff.mp h with ⟨hc, hu⟩ | ⟨-, h⟩
  · cases hu
    refine .rerooted hc.1 fun hr => ?_
    -- the timer of a root port is running by now
    have hrun : (b.ports k).rrWhile = rootTimes.ForwardDelay.toNat :=
      Classical.byContradiction fun hne => hroot ⟨hne, hr⟩
    rcases hc.2 with hf | hz
    · exact .inl hf.2
    · exact .inr (hrun.symm.trans hz)
  rcases ite_eq_iff.mp h with ⟨hc, hu⟩ | ⟨-, h⟩
  · cases hu
    exact .learn hc.1 (mayPass_mustListen hc.2)
  rcases ite_eq_iff.mp h with ⟨hc, hu⟩ | ⟨-, h⟩
  · cases hu
    exact .listen (by simp only [TransPort.mustListen, decide_eq_true_eq]; grind) hc.1
  · cases h

theorem TransPort.rest_lt {d : Nat} :
    (if p.port.role = .RootPort then p.rootWork d else p.otherWork) < 16 := by
  split_ifs
  · exact p.rootWork_lt
  · exact p.otherWork_lt

theorem TransPort.work_of_agreeing {d : Nat} {q : TransPort} (h : q.agreeing < p.agreeing) :
    q.work d < p.work d := by
  have := q.rest_lt (d := d)
  have := q.syncing_le
  unfold TransPort.work
  omega

theorem TransPort.work_of_syncing {d : Nat} {q : TransPort} (ha : q.agreeing = p.agreeing)
    (h : q.syncing < p.syncing) : q.work d < p.work d := by
  have := q.rest_lt (d := d)
  unfold TransPort.work
  omega

theorem TransPort.work_of_root {d : Nat} {q : TransPort} (ha : q.agreeing = p.agreeing)
    (hs : q.syncing = p.syncing) (hq : q.port.role = .RootPort) (hp : p.port.role = .RootPort)
    (h : q.rootWork d < p.rootWork d) : q.work d < p.work d := by
  simp only [TransPort.work, hq, hp, if_true]
  omega

theorem TransPort.work_of_other {d : Nat} {q : TransPort} (ha : q.agreeing = p.agreeing)
    (hs : q.syncing = p.syncing) (hq : q.port.role ≠ .RootPort) (hp : p.port.role ≠ .RootPort)
    (h : q.otherWork < p.otherWork) : q.work d < p.work d := by
  simp only [TransPort.work, hq, hp, if_false]
  omega

/-- What is to be sent is no part of the work. -/
theorem setnewinfo_port {i : Info} : (stpRoletrnsSetnewinfoXst i).port =
    { i.port with newInfoCist := i.port.newInfoCist || decide (i.port.vlan_id = STP_CIST_ID) } := by
  unfold stpRoletrnsSetnewinfoXst
  split_ifs with h <;> simp [h]

/-- Whatever an active port does, there is less left to do. -/
theorem work_lt (h0 : rootTimes.ForwardDelay.toNat ≠ 0)
    (h : ActiveStep rootTimes.ForwardDelay.toNat p u) :
    (roletrnsEnters rootTimes u (spreads u p)).work rootTimes.ForwardDelay.toNat <
      p.work rootTimes.ForwardDelay.toNat := by
  cases h with
  | synced h =>
    refine TransPort.work_of_syncing rfl ?_
    simp only [TransPort.syncing, roletrnsEnters, spreads]
    grind
  | agrees h =>
    refine TransPort.work_of_agreeing ?_
    simp only [TransPort.agreeing, roletrnsEnters, spreads, setnewinfo_port]
    grind
  | proposing hrole h =>
    have hr : p.port.role ≠ .RootPort := by simp [hrole]
    refine TransPort.work_of_other ?_ ?_ ?_ hr ?_ <;>
      simp only [TransPort.agreeing, TransPort.syncing, TransPort.otherWork, TransPort.wavers,
        TransPort.mustListen, roletrnsEnters, spreads, setnewinfo_port]
    · exact hr
    · grind
  | proposed h h' =>
    refine TransPort.work_of_agreeing ?_
    simp only [TransPort.agreeing, roletrnsEnters, spreads]
    grind
  | forward hl hf hw =>
    by_cases hr : p.port.role = .RootPort
    · refine TransPort.work_of_root rfl rfl hr hr ?_
      simp only [TransPort.rootWork, roletrnsEnters, spreads]
      grind
    · refine TransPort.work_of_other rfl rfl hr hr ?_
      simp only [TransPort.otherWork, TransPort.wavers, TransPort.mustListen, roletrnsEnters, spreads] at hw ⊢
      grind
  | root hr h => 
    refine TransPort.work_of_root rfl rfl hr hr ?_
    simp only [TransPort.rootWork, roletrnsEnters, spreads]
    grind
  | reroot hr hf h =>
    refine TransPort.work_of_root rfl rfl hr hr ?_
    simp only [TransPort.rootWork, roletrnsEnters, spreads]
    grind
  | rerooted h h' => 
    by_cases hr : p.port.role = .RootPort
    · refine TransPort.work_of_root rfl rfl hr hr ?_
      simp only [TransPort.rootWork, roletrnsEnters, spreads]
      grind
    · refine TransPort.work_of_other rfl rfl hr hr ?_
      have := TransPort.wavers_le (p := { p with reRoot := false })
      simp only [TransPort.otherWork, roletrnsEnters, spreads]
      grind
  | learn hl hw =>
    by_cases hr : p.port.role = .RootPort
    · refine TransPort.work_of_root rfl rfl hr hr ?_
      simp only [TransPort.rootWork, roletrnsEnters, spreads]
      grind
    · refine TransPort.work_of_other rfl rfl hr hr ?_
      simp only [TransPort.otherWork, TransPort.wavers, TransPort.mustListen, roletrnsEnters, spreads] at hw ⊢
      grind
  | listen hm h =>
    have hr : p.port.role ≠ .RootPort := by
      simp only [TransPort.mustListen, decide_eq_true_eq] at hm
      exact hm.2.1
    refine TransPort.work_of_other rfl rfl hr hr ?_
    simp only [TransPort.otherWork, TransPort.wavers, TransPort.mustListen, roletrnsEnters, spreads] at hm ⊢
    grind

/-! ## Coming to rest -/

/-- The states of a port with a role that takes part. -/
def RoleState.active : RoleState → Bool
  | .PROPOSED | .PROPOSING | .AGREES | .SYNCED | .REROOT | .ACTIVE_PORT | .FORWARD | .LEARN | .LISTEN
  | .REROOTED | .ROOT => true
  | _ => false

theorem active_ne_begin {s : RoleState} (h : s.active) : s ≠ .BEGIN := by
  rintro rfl
  cases h

theorem ActiveStep.active {d : Nat} (h : ActiveStep d p u) : u.active ∧ u ≠ .ACTIVE_PORT := by
  cases h <;> decide

/-- Entering a state of an active port leaves the selection alone. -/
theorem enters_selection (rootTimes : TimeValues) (h : u.active) :
    (roletrnsEnters rootTimes u (spreads u p)).port.selected = p.port.selected ∧
      (roletrnsEnters rootTimes u (spreads u p)).port.updtInfo = p.port.updtInfo ∧
      (roletrnsEnters rootTimes u (spreads u p)).port.selectedRole = p.port.selectedRole ∧
      (roletrnsEnters rootTimes u (spreads u p)).port.role =
        if u = .ACTIVE_PORT then p.port.selectedRole else p.port.role := by
  cases u <;> simp [RoleState.active] at h <;> simp [roletrnsEnters, spreads, setnewinfo_port]

variable {s : RoleState}

/-- The condition of an active state. -/
theorem conditions_active (hs : s.active) : roletrnsConditions k rootTimes s b =
    if s = .ACTIVE_PORT then activeConditions k rootTimes b else some .ACTIVE_PORT := by
  cases s <;> simp_all [RoleState.active, roletrnsConditions]

theorem check_kept (hc : b.cist = some rootTimes) (hs : s ≠ .BEGIN) (hr : ¬ (b.ports k).reassigned) :
    mstpRoletrnsCheckConditions k s b = roletrnsConditions k rootTimes s b := by
  simp [mstpRoletrnsCheckConditions, hc, hs, hr]

theorem check_reassigned (hc : b.cist = some rootTimes) (hs : s ≠ .BEGIN) (hr : (b.ports k).reassigned) :
    mstpRoletrnsCheckConditions k s b = some (b.ports k).port.selectedRole.state := by
  simp [mstpRoletrnsCheckConditions, hc, hs, hr]

theorem not_reassigned (h : p.port.role = p.port.selectedRole) : ¬ p.reassigned := by
  simp [TransPort.reassigned, h]

theorem roletrns_still :
    (roletrns k).turn s b = none ↔ mstpRoletrnsCheckConditions k s b = none :=
  Machine.turn_eq_none

theorem roletrns_turn {w : Bridge ι} : (roletrns k).turn s b = some (u, w) ↔
    mstpRoletrnsCheckConditions k s b = some u ∧ mstpRoletrnsEnterState k u b = w :=
  Machine.turn_eq_some

/-- A port that keeps its role does not change when it takes it again. -/
theorem enters_same_role (h : p.port.role = p.port.selectedRole) :
    roletrnsEnters rootTimes .ACTIVE_PORT (spreads .ACTIVE_PORT p) = p :=
  congrArg (fun r => ({ p with port := { p.port with role := r } } : TransPort)) h.symm

/-- An active port has the role that is selected for it. -/
structure Busy (rootTimes : TimeValues) (k : ι) (s : RoleState) (b : Bridge ι) : Prop where
  cist : b.cist = some rootTimes
  active : s.active
  selected : (b.ports k).port.selected
  updtInfo : ¬ (b.ports k).port.updtInfo
  role : (b.ports k).port.role = (b.ports k).port.selectedRole

/-- What is left to do, and the way back to ACTIVE_PORT. -/
def toil (rootTimes : TimeValues) (k : ι) (s : RoleState) (b : Bridge ι) : Nat :=
  2 * (b.ports k).work rootTimes.ForwardDelay.toNat + if s = .ACTIVE_PORT then 0 else 1

theorem Busy.turn (h : Busy rootTimes k s b) (h0 : rootTimes.ForwardDelay.toNat ≠ 0) {w : Bridge ι}
    (ht : (roletrns k).turn s b = some (u, w)) :
    Busy rootTimes k u w ∧ toil rootTimes k u w < toil rootTimes k s b := by
  obtain ⟨hu, rfl⟩ := roletrns_turn.mp ht
  rw [check_kept h.cist (active_ne_begin h.active) (not_reassigned h.role), conditions_active h.active] at hu
  have hself := enters_self (k := k) (s := u) h.cist
  split_ifs at hu with hact
  · obtain ⟨-, -, hstep⟩ := activeStep hu
    obtain ⟨hua, hne⟩ := hstep.active
    obtain ⟨e1, e2, e3, e4⟩ := enters_selection rootTimes (p := b.ports k) hua
    have hless := work_lt h0 hstep
    refine ⟨⟨by rw [enters_cist, h.cist], hua, ?_, ?_, ?_⟩, ?_⟩
    · rw [hself, e1]
      exact h.selected
    · rw [hself, e2]
      exact h.updtInfo
    · rw [hself, e3, e4, if_neg hne]
      exact h.role
    · simp only [toil, hself, hact, hne, if_true, if_false]
      omega
  · cases hu
    rw [enters_same_role h.role] at hself
    refine ⟨⟨by rw [enters_cist, h.cist], rfl, ?_, ?_, ?_⟩, ?_⟩
    · rw [hself]
      exact h.selected
    · rw [hself]
      exact h.updtInfo
    · rw [hself]
      exact h.role
    · simp only [toil, hself, hact, if_true, if_false]
      omega

/-- Without a selection an active port stays where it is. -/
theorem active_waits (hc : b.cist = some rootTimes)
    (h : (b.ports k).port.selected → (b.ports k).port.updtInfo) :
    (roletrns k).turn .ACTIVE_PORT b = none := by
  refine roletrns_still.mpr ?_
  rw [check_kept hc (by decide) (by simp_all [TransPort.reassigned])]
  simp only [roletrnsConditions, activeConditions]
  rw [if_pos (by tauto)]

/-- An active port that keeps its role has finitely much to do. -/
theorem settles_active (hc : b.cist = some rootTimes) (h0 : rootTimes.ForwardDelay.toNat ≠ 0)
    (hs : s.active) (hr : ¬ (b.ports k).reassigned) : (roletrns k).Settles s b := by
  by_cases hsel : (b.ports k).port.selected → (b.ports k).port.updtInfo
  · by_cases hact : s = .ACTIVE_PORT
    · subst hact
      exact .still (active_waits hc hsel)
    · obtain ⟨e1, e2, -, -⟩ := enters_selection rootTimes (p := b.ports k)
        (u := .ACTIVE_PORT) rfl
      refine (Machine.Settles.next (roletrns_turn.mpr ⟨?_, rfl⟩)).mpr (.still (active_waits (enters_cist.trans hc) ?_))
      · rw [check_kept hc (active_ne_begin hs) hr, conditions_active hs, if_neg hact]
      · rw [enters_self hc, e1, e2]
        exact hsel
  · have hbusy : Busy rootTimes k s b := by
      simp only [TransPort.reassigned, decide_eq_true_eq] at hr
      exact ⟨hc, hs, by tauto, by tauto, by tauto⟩
    exact Machine.Settles.of_measure (toil rootTimes k) (fun _ _ _ _ h => h.turn h0) hbusy

/-! ## The other states -/

/-- The states of a port with a role that takes no part. -/
def RoleState.blocked : RoleState → Bool
  | .BLOCK_PORT | .BLOCKED_PORT | .BACKUP_PORT => true
  | _ => false

/-- What a blocked port has still to do. -/
def blockedToil (rootTimes : TimeValues) (k : ι) (s : RoleState) (b : Bridge ι) : Nat :=
  let p := b.ports k
  let backup := if p.rbWhile ≠ 2 * rootTimes.HelloTime.toNat then 2 else 0
  match s with
  | .BLOCKED_PORT =>
    (if p.fdWhile ≠ rootTimes.ForwardDelay.toNat ∨ p.port.sync ∨ p.reRoot ∨ ¬ p.port.synced then 3 else 0) +
      backup
  | .BACKUP_PORT => 1 + backup
  | _ => 10

/-- What a blocked port that keeps its role does next, and that there is less left to do. -/
theorem blocked_turn {w : Bridge ι} (hc : b.cist = some rootTimes) (hs : s.blocked)
    (hr : ¬ (b.ports k).reassigned) (ht : (roletrns k).turn s b = some (u, w)) :
    u.blocked ∧ ¬ (w.ports k).reassigned ∧ blockedToil rootTimes k u w < blockedToil rootTimes k s b := by
  obtain ⟨hu, rfl⟩ := roletrns_turn.mp ht
  rw [check_kept hc (by rintro rfl; cases hs) hr] at hu
  have hself := enters_self (k := k) (s := u) hc
  simp only [TransPort.reassigned, decide_eq_true_eq] at hr ⊢
  simp only [blockedToil, hself]
  cases s with
  | BLOCK_PORT =>
    simp only [roletrnsConditions] at hu
    split_ifs at hu
    cases hu
    simp [roletrnsEnters, spreads, RoleState.blocked]
    grind
  | BLOCKED_PORT =>
    simp only [roletrnsConditions] at hu
    split_ifs at hu with hsel hdirty hbackup <;> cases hu
    · simp [roletrnsEnters, spreads, RoleState.blocked]
      grind
    · simp [roletrnsEnters, spreads, RoleState.blocked, hbackup.1]
      grind
  | BACKUP_PORT =>
    cases hu
    simp [roletrnsEnters, spreads, RoleState.blocked]
    grind
  | _ => cases hs

theorem settles_blocked (hc : b.cist = some rootTimes) (hs : s.blocked)
    (hr : ¬ (b.ports k).reassigned) : (roletrns k).Settles s b := by
  refine Machine.Settles.of_measure
    (I := fun s b => b.cist = some rootTimes ∧ s.blocked ∧ ¬ (b.ports k).reassigned)
    (blockedToil rootTimes k) ?_ ⟨hc, hs, hr⟩
  rintro s b u w ⟨hc, hs, hr⟩ ht
  obtain ⟨hu, hr', hlt⟩ := blocked_turn hc hs hr ht
  obtain ⟨-, rfl⟩ := roletrns_turn.mp ht
  exact ⟨⟨enters_cist.trans hc, hu, hr'⟩, hlt⟩

/-- What the machine of the roles can do next. -/
inductive RoleStep (p : TransPort) : RoleState → RoleState → Prop where
  | init : RoleStep p .BEGIN .INIT_PORT
  | assigned {s : RoleState} : p.reassigned → RoleStep p s p.port.selectedRole.state
  | block : RoleStep p .INIT_PORT .BLOCK_PORT
  | blocked {s u : RoleState} : s.blocked → u = .BLOCKED_PORT ∨ u = .BACKUP_PORT → RoleStep p s u
  | back {s : RoleState} : s.active → s ≠ .ACTIVE_PORT → RoleStep p s .ACTIVE_PORT
  | acts {u : RoleState} : p.port.role = p.port.selectedRole → u.active → u ≠ .ACTIVE_PORT →
      RoleStep p .ACTIVE_PORT u

theorem roleStep (hc : b.cist = some rootTimes) (h : mstpRoletrnsCheckConditions k s b = some u) :
    RoleStep (b.ports k) s u := by
  by_cases hs : s = .BEGIN
  · subst hs
    simp only [mstpRoletrnsCheckConditions, hc, if_true, Option.some.injEq] at h
    subst h
    exact .init
  by_cases hr : (b.ports k).reassigned
  · rw [check_reassigned hc hs hr] at h
    cases h
    exact .assigned hr
  rw [check_kept hc hs hr] at h
  cases s with
  | BEGIN => cases hs rfl
  | INIT_PORT =>
    cases h
    exact .block
  | BLOCK_PORT =>
    simp only [roletrnsConditions] at h
    split_ifs at h
    cases h
    exact .blocked rfl (.inl rfl)
  | BLOCKED_PORT =>
    simp only [roletrnsConditions] at h
    split_ifs at h <;> cases h
    · exact .blocked rfl (.inl rfl)
    · exact .blocked rfl (.inr rfl)
  | BACKUP_PORT =>
    cases h
    exact .blocked rfl (.inl rfl)
  | ACTIVE_PORT =>
    obtain ⟨hsel, hupdt, hstep⟩ := activeStep h
    have hrole : (b.ports k).port.role = (b.ports k).port.selectedRole := by
      simp only [TransPort.reassigned, decide_eq_true_eq] at hr
      tauto
    exact .acts hrole hstep.active.1 hstep.active.2
  | NON_STP => cases h
  | _ =>
    cases h
    exact .back rfl (by decide)

/-- A port that has just taken a role keeps it. -/
theorem enters_role (hs : u = .INIT_PORT ∨ u = .BLOCK_PORT ∨ u = .ACTIVE_PORT) :
    ¬ (roletrnsEnters rootTimes u (spreads u p)).reassigned := by
  rcases hs with rfl | rfl | rfl <;> exact not_reassigned rfl

theorem state_ne_begin (r : PortRole) : r.state ≠ .BEGIN := by
  cases r <;> decide

/-- A port that has taken the selected role keeps it. -/
theorem enters_state :
    ¬ (roletrnsEnters rootTimes p.port.selectedRole.state (spreads p.port.selectedRole.state p)).reassigned := by
  cases hsel : p.port.selectedRole with
  | DisabledPort | AlternatePort | BackupPort => exact enters_role (.inr (.inl rfl))
  | RootPort | DesignatedPort | MasterPort => exact enters_role (.inr (.inr rfl))
  | NonStpPort => exact not_reassigned hsel.symm

/-- A port that keeps its role comes to rest. -/
theorem settles_kept (hc : b.cist = some rootTimes) (h0 : rootTimes.ForwardDelay.toNat ≠ 0)
    (hs : s ≠ .BEGIN) (hr : ¬ (b.ports k).reassigned) : (roletrns k).Settles s b := by
  cases s with
  | BEGIN => cases hs rfl
  | INIT_PORT =>
    refine (Machine.Settles.next (roletrns_turn.mpr ⟨check_kept hc hs hr, rfl⟩)).mpr
      (settles_blocked (enters_cist.trans hc) rfl ?_)
    rw [enters_self hc]
    exact enters_role (.inr (.inl rfl))
  | BLOCK_PORT | BLOCKED_PORT | BACKUP_PORT => exact settles_blocked hc rfl hr
  | NON_STP => exact .still (roletrns_still.mpr (check_kept hc hs hr))
  | _ => exact settles_active hc h0 rfl hr

/-- The machine of the roles comes to rest from everywhere, unless the forward delay is zero. -/
theorem roletrns_settles (h0 : ∀ t, b.cist = some t → t.ForwardDelay ≠ 0) : (roletrns k).Settles s b := by
  cases hc : b.cist with
  | none => exact .still (roletrns_still.mpr (by simp [mstpRoletrnsCheckConditions, hc]))
  | some rootTimes =>
    have hd : rootTimes.ForwardDelay.toNat ≠ 0 := fun he => h0 rootTimes hc (UInt16.toNat_inj.mp he)
    have htakes : ∀ u, mstpRoletrnsCheckConditions k s b = some u → u ≠ .BEGIN →
        ¬ (roletrnsEnters rootTimes u (spreads u (b.ports k))).reassigned → (roletrns k).Settles s b := by
      intro u hu hne hr
      refine (Machine.Settles.next (roletrns_turn.mpr ⟨hu, rfl⟩)).mpr
        (settles_kept (enters_cist.trans hc) hd hne ?_)
      rw [enters_self hc]
      exact hr
    by_cases hs : s = .BEGIN
    · exact htakes .INIT_PORT (by simp [mstpRoletrnsCheckConditions, hc, hs]) (by decide)
        (enters_role (.inl rfl))
    by_cases hr : (b.ports k).reassigned
    · -- the port takes its new role, and keeps it
      exact htakes _ (check_reassigned hc hs hr) (state_ne_begin _) enters_state
    · exact settles_kept hc hd hs hr

/-! ## Without a forward delay -/

/-- A root port that neither learns nor forwards. -/
structure Waiting (rootTimes : TimeValues) (k : ι) (s : RoleState) (b : Bridge ι) : Prop
    extends Busy rootTimes k s b where
  root : (b.ports k).port.selectedRole = .RootPort
  learn : ¬ (b.ports k).port.learn
  forward : ¬ (b.ports k).port.forward

theorem first_of_ite {α : Type} {c : Prop} [Decidable c] {x : α} {r : Option α} {P : α → Prop}
    (hx : c → P x) (hr : ¬ c → ∃ y, r = some y ∧ P y) :
    ∃ y, (if c then some x else r) = some y ∧ P y := by
  split_ifs with h
  · exact ⟨x, rfl, hx h⟩
  · exact hr h

/-- With no forward delay there is always something to do: the flag that REROOT raises is taken back by
REROOTED, before the port gets to LEARN. -/
theorem Waiting.conditions (h : Waiting rootTimes k s b) (h0 : rootTimes.ForwardDelay.toNat = 0) :
    ∃ u, activeConditions k rootTimes b = some u ∧
      u ∈ [RoleState.SYNCED, .AGREES, .PROPOSED, .ROOT, .REROOT, .REROOTED] := by
  have hrole := h.role.trans h.root
  have hf := h.forward
  have hl := h.learn
  simp only [activeConditions]
  rw [if_neg (by simp [h.selected, h.updtInfo])]
  refine first_of_ite (fun _ => by decide) fun _ => first_of_ite (fun _ => by decide) fun _ =>
    first_of_ite (fun hc => by simp [hrole] at hc) fun _ => first_of_ite (fun _ => by decide) fun _ =>
    first_of_ite (fun hc => absurd hc.1 hl) fun _ => first_of_ite (fun _ => by decide) fun hrr =>
    first_of_ite (fun _ => by decide) fun hreroot => ?_
  rw [if_pos]
  · exact ⟨_, rfl, by decide⟩
  · simp [hrole, hf] at hrr hreroot
    exact ⟨hreroot, .inr (hrr.trans h0)⟩

/-- None of this lets the port learn or forward. -/
theorem enters_waiting (rootTimes : TimeValues)
    (h : u ∈ [RoleState.SYNCED, .AGREES, .PROPOSED, .ROOT, .REROOT, .REROOTED]) :
    u.active ∧ u ≠ .ACTIVE_PORT ∧
      (roletrnsEnters rootTimes u (spreads u p)).port.learn = p.port.learn ∧
      (roletrnsEnters rootTimes u (spreads u p)).port.forward = p.port.forward := by
  cases u <;> simp at h <;> simp [RoleState.active, roletrnsEnters, spreads, setnewinfo_port]

theorem Waiting.turn (h : Waiting rootTimes k s b) (h0 : rootTimes.ForwardDelay.toNat = 0) :
    ∃ u w, (roletrns k).turn s b = some (u, w) ∧ Waiting rootTimes k u w := by
  have hcheck := check_kept h.cist (active_ne_begin h.active) (not_reassigned h.role)
  rw [conditions_active h.active] at hcheck
  by_cases hact : s = .ACTIVE_PORT
  · obtain ⟨u, hu, hmem⟩ := h.conditions h0
    rw [if_pos hact, hu] at hcheck
    refine ⟨u, _, roletrns_turn.mpr ⟨hcheck, rfl⟩, ?_⟩
    have hself := enters_self (k := k) (s := u) h.cist
    obtain ⟨hua, hne, hl, hf⟩ := enters_waiting rootTimes (p := b.ports k) hmem
    obtain ⟨e1, e2, e3, e4⟩ := enters_selection rootTimes (p := b.ports k) hua
    rw [if_neg hne] at e4
    exact { cist := enters_cist.trans h.cist, active := hua
            selected := by rw [hself, e1]; exact h.selected
            updtInfo := by rw [hself, e2]; exact h.updtInfo
            role := by rw [hself, e3, e4]; exact h.role
            root := by rw [hself, e3]; exact h.root
            learn := by rw [hself, hl]; exact h.learn
            forward := by rw [hself, hf]; exact h.forward }
  · rw [if_neg hact] at hcheck
    have hself := enters_self (k := k) (s := .ACTIVE_PORT) h.cist
    rw [enters_same_role h.role] at hself
    exact ⟨_, _, roletrns_turn.mpr ⟨hcheck, rfl⟩,
      { cist := enters_cist.trans h.cist, active := rfl, selected := by rw [hself]; exact h.selected
        updtInfo := by rw [hself]; exact h.updtInfo
        role := by rw [hself]; exact h.role
        root := by rw [hself]; exact h.root
        learn := by rw [hself]; exact h.learn
        forward := by rw [hself]; exact h.forward }⟩

/-- A port that is selected as the root port of a bridge with no forward delay, and that does not forward
yet, keeps its machine going for ever. -/
theorem root_spins (hc : b.cist = some rootTimes) (h0 : rootTimes.ForwardDelay = 0)
    (hs : s ≠ .BEGIN) (hnew : s.active ∨ (b.ports k).port.role ≠ .RootPort)
    (hsel : (b.ports k).port.selected) (hupdt : ¬ (b.ports k).port.updtInfo)
    (hroot : (b.ports k).port.selectedRole = .RootPort) (hl : ¬ (b.ports k).port.learn)
    (hf : ¬ (b.ports k).port.forward) : ¬ (roletrns k).Settles s b := by
  have hd : rootTimes.ForwardDelay.toNat = 0 := by simp [h0]
  have hwaits : ∀ {t : RoleState} {w : Bridge ι}, Waiting rootTimes k t w → ¬ (roletrns k).Settles t w :=
    fun h => Machine.not_settles (fun _ _ h => h.turn hd) h
  by_cases hr : (b.ports k).reassigned
  · have hcheck := check_reassigned hc hs hr
    rw [hroot, show PortRole.RootPort.state = .ACTIVE_PORT from rfl] at hcheck
    rw [Machine.Settles.next (roletrns_turn.mpr ⟨hcheck, rfl⟩)]
    have hself := enters_self (k := k) (s := .ACTIVE_PORT) hc
    refine hwaits (t := .ACTIVE_PORT)
      ⟨⟨enters_cist.trans hc, rfl, ?_, ?_, ?_⟩, ?_, ?_, ?_⟩ <;> rw [hself]
    · exact hsel
    · exact hupdt
    · rfl
    · exact hroot
    · exact hl
    · exact hf
  · have hrole : (b.ports k).port.role = (b.ports k).port.selectedRole := by
      simp only [TransPort.reassigned, decide_eq_true_eq] at hr
      tauto
    have ha : s.active := hnew.resolve_right fun h => h (hrole.trans hroot)
    exact hwaits ⟨⟨hc, ha, hsel, hupdt, hrole⟩, hroot, hl, hf⟩

/-- The machine of the roles comes to rest from everywhere if there is a forward delay. Without one, a port
that becomes the root port and does not forward yet keeps it going for ever. -/
theorem role_machine_rests (k : ι) (s : RoleState) (b : Bridge ι) (hc : b.cist = some rootTimes) :
    (rootTimes.ForwardDelay ≠ 0 → (roletrns k).Settles s b) ∧
      (rootTimes.ForwardDelay = 0 → s ≠ .BEGIN → s.active ∨ (b.ports k).port.role ≠ .RootPort →
        (b.ports k).port.selected → ¬ (b.ports k).port.updtInfo →
        (b.ports k).port.selectedRole = .RootPort → ¬ (b.ports k).port.learn →
        ¬ (b.ports k).port.forward → ¬ (roletrns k).Settles s b) :=
  ⟨fun h => roletrns_settles fun t ht => by rw [hc] at ht; cases ht; exact h, root_spins hc⟩

end

/-- A port of the CIST that has just been created. -/
def freshTransPort : TransPort :=
  { port := freshXstPort, nextMst := [], cist := none, BrTimes := zeroTimes, fdWhile := 0, rrWhile := 0
    rbWhile := 0, tcWhile := 0, reRoot := false, operEdge := false, learning := false
    forwarding := false, isWAN := false, tc := false, tcAck := false, tcProp := false, rcvdTc := false
    rcvdTcn := false, rcvdTcAck := false }

/-- A bridge with one port, that has been selected as the root port. -/
def newRoot (ForwardDelay : UInt16) : Bridge (Fin 1) :=
  { ForceVersion := 3
    cist := some { zeroTimes with ForwardDelay := ForwardDelay }
    ports := fun _ =>
      { freshTransPort with port := { freshXstPort with selectedRole := .RootPort, selected := true } }
    sttrans_count := 0
    told := [] }

theorem new_root_rests : (roletrns 0).Settles .BLOCKED_PORT (newRoot 15) ∧
    ¬ (roletrns 0).Settles .BLOCKED_PORT (newRoot 0) :=
  ⟨(role_machine_rests 0 .BLOCKED_PORT (newRoot 15) rfl).1 (by decide),
    (role_machine_rests 0 .BLOCKED_PORT (newRoot 0) rfl).2 rfl (by decide) (.inr (by decide)) rfl
      (by decide) rfl (by decide) (by decide)⟩

section
variable {ι : Type} [DecidableEq ι] {k : ι} {b : Bridge ι}

/-! ## The state of a port -/

/-- How far the machine of the port state is from where the port is to be. -/
def sttransToil (k : ι) (s : PortState) (b : Bridge ι) : Nat :=
  let p := (b.ports k).port
  match s with
  | .BEGIN => 4
  | .DISCARDING => if p.learn then 2 else 0
  | .LEARNING => if p.forward ∨ ¬ p.learn then 1 else 0
  | .FORWARDING => if p.forward then 0 else 3

theorem sttrans_settles {s : PortState} : (sttrans k).Settles s b := by
  refine Machine.Settles.of_measure (I := fun _ _ => True) (sttransToil k) ?_ trivial
  intro s b u w _ ht
  refine ⟨trivial, ?_⟩
  obtain ⟨hu, rfl⟩ := Machine.turn_eq_some.mp ht
  have hports : ((mstpSttransEnterState k u (mstpSttransCheckConditions k s b).2).ports k) =
      sttransEnters u (b.ports k) := by simp
  change (mstpSttransCheckConditions k s b).1 = some u at hu
  change sttransToil k u (mstpSttransEnterState k u (mstpSttransCheckConditions k s b).2) < _
  rw [sttrans_check_state] at hu
  simp only [sttransToil, hports]
  cases s with
  | BEGIN =>
    cases hu
    simp only [sttransEnters]
    grind
  | DISCARDING =>
    simp only [] at hu
    split_ifs at hu with hl
    cases hu
    simp only [sttransEnters, hl]
    grind
  | LEARNING =>
    simp only [] at hu
    split_ifs at hu with hf hl <;> cases hu
    · simp [sttransEnters, hf]
    · simp [sttransEnters, hl]
  | FORWARDING =>
    simp only [] at hu
    split_ifs at hu with hf
    cases hu
    simp only [sttransEnters, hf]
    grind

end

end Stp
end DaemonGroup
