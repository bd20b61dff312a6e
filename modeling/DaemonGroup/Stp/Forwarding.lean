import DaemonGroup.Lib.Run
import DaemonGroup.Stp.Roles
import DaemonGroup.Stp.Settling

/-!
# DaemonGroup.Stp.Forwarding

What holds of the ports of an instance whatever the order in which their machines are started and run, and
whatever the rest of the daemon does to the ports in between.

* `Event` — a machine is started, or looked at and run until it comes to rest; or the other machines, the
  messages, the timers and the management change the ports (`XstPort.Elsewhere` says what they leave alone;
  `info_elsewhere` and `roles_elsewhere` that the modelled ones do).
* `reached_safe` — the invariant `Safe` of every run.
* `forwarding_takes_part` — a port that forwards also learns, and at rest a port that is disabled, alternate
  or backup does neither.
-/

namespace DaemonGroup
namespace Stp

open Lib

/-- The port has a role that takes no part in the forwarding of frames. -/
def PortRole.standsBy : PortRole → Bool
  | .DisabledPort | .AlternatePort | .BackupPort => true
  | _ => false

/-- What all the rest of the daemon leaves alone. The selection of roles lets a port without the protocol
learn and forward. -/
def XstPort.Elsewhere (p q : XstPort) : Prop :=
  q.role = p.role ∧ q.learn = p.learn ∧ q.forward = p.forward ∨
    q.role = .NonStpPort ∧ q.learn ∧ q.forward

instance (p q : XstPort) : Decidable (p.Elsewhere q) := inferInstanceAs (Decidable (_ ∨ _))

/-- The port is not changed but by its two machines. -/
def TransPort.Elsewhere (p q : TransPort) : Prop :=
  q.learning = p.learning ∧ q.forwarding = p.forwarding ∧ p.port.Elsewhere q.port

instance (p q : TransPort) : Decidable (p.Elsewhere q) := inferInstanceAs (Decidable (_ ∧ _))

/-- An instance, with the states of the machines of its ports. -/
structure Switch (ι : Type) where
  bridge : Bridge ι
  roletrns : ι → RoleState
  sttrans : ι → PortState

/-- What happens to an instance. -/
inductive Event (ι : Type) where
  | initRole (k : ι)
  | initState (k : ι)
  | runRole (k : ι) (fuel : Nat)
  | runState (k : ι) (fuel : Nat)
  | other (b : Bridge ι)

section
variable {ι : Type} [DecidableEq ι] [Fintype ι]

/-- `stp_stpm_init_machine` for the two machines, a run of one of them, and what happens elsewhere. -/
def Switch.step (s : Switch ι) : Event ι → Option (Switch ι)
  | .initRole k => some { s with
      bridge := mstpRoletrnsEnterState k .BEGIN s.bridge
      roletrns := Function.update s.roletrns k .BEGIN }
  | .initState k => some { s with
      bridge := mstpSttransEnterState k .BEGIN s.bridge
      sttrans := Function.update s.sttrans k .BEGIN }
  | .runRole k fuel =>
    ((Stp.roletrns k).rest fuel (s.roletrns k) s.bridge).map fun c =>
      { s with bridge := c.2, roletrns := Function.update s.roletrns k c.1 }
  | .runState k fuel =>
    ((Stp.sttrans k).rest fuel (s.sttrans k) s.bridge).map fun c =>
      { s with bridge := c.2, sttrans := Function.update s.sttrans k c.1 }
  | .other b =>
    if ∀ j, (s.bridge.ports j).Elsewhere (b.ports j) then
      some { s with bridge := { b with told := s.bridge.told } }
    else none

/-! ## The invariant -/

/-- The states in which the machine of the roles can be at rest. -/
def RoleState.still : RoleState → Bool
  | .BEGIN | .BLOCK_PORT | .BLOCKED_PORT | .ACTIVE_PORT | .NON_STP => true
  | _ => false

/-- What the machine of the roles says about its port. -/
structure RoleSafe (t : RoleState) (p : TransPort) : Prop where
  active : t.active → ¬ p.port.role.standsBy
  standby : p.port.role.standsBy → t = .BEGIN ∨ t = .INIT_PORT ∨ ¬ p.port.learn ∧ ¬ p.port.forward
  settled : t.active → t ≠ .ACTIVE_PORT → p.port.role = p.port.selectedRole

def PortState.learns : PortState → Bool
  | .LEARNING | .FORWARDING => true
  | _ => false

def PortState.forwards : PortState → Bool
  | .FORWARDING => true
  | _ => false

/-- What the machine of the port state says about its port. -/
structure StateSafe (t : PortState) (p : TransPort) : Prop where
  learning : p.learning = t.learns
  forwarding : p.forwarding = t.forwards

structure Switch.Safe (s : Switch ι) (k : ι) : Prop where
  role : RoleSafe (s.roletrns k) (s.bridge.ports k)
  still : (s.roletrns k).still
  state : StateSafe (s.sttrans k) (s.bridge.ports k)

/-- An instance that has just been created. -/
structure Switch.Created (s : Switch ι) : Prop where
  roletrns : ∀ k, s.roletrns k = .BEGIN
  sttrans : ∀ k, s.sttrans k = .BEGIN
  learning : ∀ k, (s.bridge.ports k).learning = false
  forwarding : ∀ k, (s.bridge.ports k).forwarding = false
  told : s.bridge.told = []

variable {k j : ι} {b : Bridge ι} {p q : TransPort} {rootTimes : TimeValues} {t u : RoleState}

theorem RoleSafe.still_of (h : RoleSafe t p) (ht : t.still) (hr : q.port.role = p.port.role)
    (hl : q.port.learn = p.port.learn) (hf : q.port.forward = p.port.forward) : RoleSafe t q where
  active := by
    rw [hr]
    exact h.active
  standby := by
    rw [hr, hl, hf]
    exact h.standby
  settled := by
    intro ha hne
    cases t <;> simp [RoleState.still, RoleState.active] at ht ha hne

/-- What happens elsewhere does not make a port unsafe. -/
theorem RoleSafe.elsewhere (h : RoleSafe t p) (ht : t.still) (he : p.port.Elsewhere q.port) :
    RoleSafe t q := by
  rcases he with ⟨hr, hl, hf⟩ | ⟨hr, -, -⟩
  · exact h.still_of ht hr hl hf
  · refine ⟨?_, ?_, fun ha hne => ?_⟩
    · simp [hr, PortRole.standsBy]
    · simp [hr, PortRole.standsBy]
    · cases t <;> simp [RoleState.still, RoleState.active] at ht ha hne

/-- A port that does not take part, and neither learns nor forwards. -/
theorem RoleSafe.of_standby (ht : ¬ t.active)
    (h : p.port.role.standsBy → t = .BEGIN ∨ t = .INIT_PORT ∨ ¬ p.port.learn ∧ ¬ p.port.forward) :
    RoleSafe t p :=
  ⟨fun ha => absurd ha ht, h, fun ha => absurd ha ht⟩

/-- A port that takes part. -/
theorem RoleSafe.of_active (hp : ¬ p.port.role.standsBy)
    (h : t ≠ .ACTIVE_PORT → p.port.role = p.port.selectedRole) : RoleSafe t p :=
  ⟨fun _ => hp, fun hs => absurd hs hp, fun _ => h⟩

/-- In the states that an active port passes through it keeps its role. -/
theorem RoleSafe.enters (h : RoleSafe t p) (hstep : RoleStep p t u) :
    RoleSafe u (roletrnsEnters rootTimes u (spreads u p)) := by
  cases hstep with
  | init => exact .of_standby (by decide) fun _ => .inr (.inl rfl)
  | assigned hr =>
    cases hsel : p.port.selectedRole with
    | DisabledPort | AlternatePort | BackupPort =>
      exact .of_standby (by decide) fun _ => .inr (.inr ⟨Bool.false_ne_true, Bool.false_ne_true⟩)
    | RootPort | DesignatedPort | MasterPort =>
      refine .of_active ?_ fun hne => absurd rfl hne
      show ¬ p.port.selectedRole.standsBy
      rw [hsel]
      decide
    | NonStpPort => exact .of_standby (by decide) fun hs => by cases hs
  | block =>
    exact .of_standby (by decide) fun _ => .inr (.inr ⟨Bool.false_ne_true, Bool.false_ne_true⟩)
  | blocked hs hu =>
    have hrest : p.port.role.standsBy → ¬ p.port.learn ∧ ¬ p.port.forward := by
      intro hp
      rcases h.standby hp with rfl | rfl | hlf
      · cases hs
      · cases hs
      · exact hlf
    rcases hu with rfl | rfl
    · exact .of_standby (by decide) fun hp => .inr (.inr (hrest hp))
    · exact .of_standby (by decide) fun hp => .inr (.inr (hrest hp))
  | back ha hne =>
    refine .of_active ?_ fun hne => absurd rfl hne
    show ¬ p.port.selectedRole.standsBy
    rw [← h.settled ha hne]
    exact h.active ha
  | acts hr ha hne =>
    obtain ⟨-, -, hsel, hrole⟩ := enters_selection rootTimes (p := p) ha
    rw [if_neg hne] at hrole
    refine .of_active ?_ fun _ => by rw [hrole, hsel, hr]
    rw [hrole]
    exact h.active rfl

/-- What a run of the machine of the roles leaves of the other ports, and of the state of its own. -/
structure Untold (k : ι) (b b' : Bridge ι) : Prop where
  told : b'.told = b.told
  learning : ∀ j, (b'.ports j).learning = (b.ports j).learning
  forwarding : ∀ j, (b'.ports j).forwarding = (b.ports j).forwarding
  role : ∀ j, j ≠ k → (b'.ports j).port.role = (b.ports j).port.role
  learn : ∀ j, j ≠ k → (b'.ports j).port.learn = (b.ports j).port.learn
  forward : ∀ j, j ≠ k → (b'.ports j).port.forward = (b.ports j).port.forward

omit [DecidableEq ι] [Fintype ι] in
theorem Untold.refl : Untold k b b :=
  ⟨rfl, fun _ => rfl, fun _ => rfl, fun _ _ => rfl, fun _ _ => rfl, fun _ _ => rfl⟩

omit [DecidableEq ι] [Fintype ι] in
theorem Untold.trans {b' b'' : Bridge ι} (h : Untold k b b') (h' : Untold k b' b'') : Untold k b b'' where
  told := h'.told.trans h.told
  learning j := (h'.learning j).trans (h.learning j)
  forwarding j := (h'.forwarding j).trans (h.forwarding j)
  role j hj := (h'.role j hj).trans (h.role j hj)
  learn j hj := (h'.learn j hj).trans (h.learn j hj)
  forward j hj := (h'.forward j hj).trans (h.forward j hj)

theorem spreads_course : (spreads t p).port.role = p.port.role ∧ (spreads t p).port.learn = p.port.learn ∧
    (spreads t p).port.forward = p.port.forward ∧ (spreads t p).learning = p.learning ∧
    (spreads t p).forwarding = p.forwarding := by
  cases t <;> simp [spreads]

theorem roletrnsEnters_state : (roletrnsEnters rootTimes t p).learning = p.learning ∧
    (roletrnsEnters rootTimes t p).forwarding = p.forwarding := by
  cases t <;> simp [roletrnsEnters]

omit [Fintype ι] in
theorem enters_untold : Untold k b (mstpRoletrnsEnterState k t b) := by
  cases hc : b.cist with
  | none =>
    rw [enters_none hc]
    exact .refl
  | some rootTimes =>
    have hother : ∀ j, j ≠ k → (mstpRoletrnsEnterState k t b).ports j = spreads t (b.ports j) :=
      fun j hj => enters_of_ne hc hj
    have hself := enters_self (k := k) (s := t) hc
    refine ⟨?_, fun j => ?_, fun j => ?_, fun j hj => ?_, fun j hj => ?_, fun j hj => ?_⟩
    · unfold mstpRoletrnsEnterState
      rw [hc]
      cases t <;> rfl
    · by_cases hj : j = k
      · rw [hj, hself, roletrnsEnters_state.1, spreads_course.2.2.2.1]
      · rw [hother j hj, spreads_course.2.2.2.1]
    · by_cases hj : j = k
      · rw [hj, hself, roletrnsEnters_state.2, spreads_course.2.2.2.2]
      · rw [hother j hj, spreads_course.2.2.2.2]
    · rw [hother j hj, spreads_course.1]
    · rw [hother j hj, spreads_course.2.1]
    · rw [hother j hj, spreads_course.2.2.1]

/-- Only in a few states there can be nothing to do. -/
theorem still_of_check (hc : b.cist = some rootTimes) (h : mstpRoletrnsCheckConditions k t b = none) :
    t.still := by
  by_cases hb : t = .BEGIN
  · rw [hb]
    rfl
  by_cases hr : (b.ports k).reassigned
  · rw [check_reassigned hc hb hr] at h
    cases h
  · rw [check_kept hc hb hr] at h
    cases t <;> first | rfl | cases h

theorem role_untold {fuel : Nat} {c : RoleState × Bridge ι}
    (hrun : (roletrns k).rest fuel t b = some c) : Untold k b c.2 := by
  refine Machine.rest_rule (I := fun _ b' => Untold k b b') (J := fun _ b' => Untold k b b') ?_
    (fun _ _ h _ => h) .refl hrun
  rintro t v u w h hturn
  obtain ⟨-, rfl⟩ := roletrns_turn.mp hturn
  exact h.trans enters_untold

/-- A run of the machine of the roles. -/
theorem role_run {fuel : Nat} {c : RoleState × Bridge ι} (h : RoleSafe t (b.ports k)) (ht : t.still)
    (hrun : (roletrns k).rest fuel t b = some c) : RoleSafe c.1 (c.2.ports k) ∧ c.1.still := by
  refine Machine.rest_rule
    (I := fun t' b' => RoleSafe t' (b'.ports k) ∧ (b'.cist = none → t'.still))
    (J := fun t' b' => RoleSafe t' (b'.ports k) ∧ t'.still) ?_ ?_ ⟨h, fun _ => ht⟩ hrun
  · rintro t v u w ⟨hs, hn⟩ hturn
    obtain ⟨hcheck, rfl⟩ := roletrns_turn.mp hturn
    cases hc : v.cist with
    | none => simp [mstpRoletrnsCheckConditions, hc] at hcheck
    | some rootTimes =>
      refine ⟨?_, fun hnone => ?_⟩
      · rw [enters_self hc]
        exact hs.enters (roleStep hc hcheck)
      · rw [enters_cist, hc] at hnone
        cases hnone
  · rintro t v ⟨hs, hn⟩ hcheck
    cases hc : v.cist with
    | none => exact ⟨hs, hn hc⟩
    | some rootTimes => exact ⟨hs, still_of_check hc hcheck⟩

variable {v w : PortState}

/-- What a run of the machine of the port state leaves alone. -/
structure StateOnly (k : ι) (b b' : Bridge ι) : Prop where
  others : ∀ j, j ≠ k → b'.ports j = b.ports j
  portEnabled : (b'.ports k).port.portEnabled = (b.ports k).port.portEnabled
  role : (b'.ports k).port.role = (b.ports k).port.role
  learn : (b'.ports k).port.learn = (b.ports k).port.learn
  forward : (b'.ports k).port.forward = (b.ports k).port.forward

omit [DecidableEq ι] [Fintype ι] in
theorem StateOnly.refl : StateOnly k b b := ⟨fun _ _ => rfl, rfl, rfl, rfl, rfl⟩

omit [DecidableEq ι] [Fintype ι] in
theorem StateOnly.trans {b' b'' : Bridge ι} (h : StateOnly k b b') (h' : StateOnly k b' b'') :
    StateOnly k b b'' where
  others j hj := (h'.others j hj).trans (h.others j hj)
  portEnabled := h'.portEnabled.trans h.portEnabled
  role := h'.role.trans h.role
  learn := h'.learn.trans h.learn
  forward := h'.forward.trans h.forward

omit [DecidableEq ι] [Fintype ι] in
theorem StateOnly.of_ports {b' : Bridge ι} (h : b'.ports = b.ports) : StateOnly k b b' := by
  constructor <;> simp [h]

omit [Fintype ι] in
theorem state_enters_only : StateOnly k b (mstpSttransEnterState k v b) := by
  refine ⟨fun j hj => by simp [hj], ?_, ?_, ?_, ?_⟩ <;>
    simp only [sttrans_enters_ports, Bridge.modify_self] <;> cases v <;> rfl

/-- Where the machine of the port state goes from `v`. -/
inductive StateStep (p : TransPort) : PortState → PortState → Prop where
  | init : StateStep p .BEGIN .DISCARDING
  | learns : p.port.learn → StateStep p .DISCARDING .LEARNING
  | forwards : p.port.forward → StateStep p .LEARNING .FORWARDING
  | gives_up : ¬ p.port.forward → ¬ p.port.learn → StateStep p .LEARNING .DISCARDING
  | stops : ¬ p.port.forward → StateStep p .FORWARDING .DISCARDING

omit [DecidableEq ι] [Fintype ι] in
theorem stateStep (h : (mstpSttransCheckConditions k v b).1 = some w) : StateStep (b.ports k) v w := by
  rw [sttrans_check_state] at h
  cases v with
  | BEGIN =>
    cases h
    exact .init
  | DISCARDING =>
    simp only [] at h
    split_ifs at h with hl
    cases h
    exact .learns hl
  | LEARNING =>
    simp only [] at h
    split_ifs at h with hf hl <;> cases h
    · exact .forwards hf
    · exact .gives_up hf hl
  | FORWARDING =>
    simp only [] at h
    split_ifs at h with hf
    cases h
    exact .stops hf

theorem StateSafe.enters (h : StateSafe v p) (hstep : StateStep p v w) :
    StateSafe w (sttransEnters w p) := by
  cases hstep with
  | init | gives_up _ _ | stops _ => exact ⟨rfl, rfl⟩
  | learns _ => exact ⟨rfl, h.forwarding⟩
  | forwards _ => exact ⟨h.learning, rfl⟩

omit [Fintype ι] in
/-- A run of the machine of the port state. -/
theorem state_run {fuel : Nat} {c : PortState × Bridge ι} (h : StateSafe v (b.ports k))
    (hrun : (sttrans k).rest fuel v b = some c) : StateSafe c.1 (c.2.ports k) ∧ StateOnly k b c.2 := by
  refine Machine.rest_rule (I := fun v' b' => StateSafe v' (b'.ports k) ∧ StateOnly k b b')
    (J := fun v' b' => StateSafe v' (b'.ports k) ∧ StateOnly k b b') ?_ ?_ ⟨h, .refl⟩ hrun
  · rintro v b₁ w b₂ ⟨hs, ho⟩ hturn
    obtain ⟨hcheck, rfl⟩ := Machine.turn_eq_some.mp hturn
    have hports : (((sttrans k).check v b₁).2).ports = b₁.ports := sttrans_check_ports
    refine ⟨?_, (ho.trans (.of_ports hports)).trans state_enters_only⟩
    show StateSafe w ((mstpSttransEnterState k w _).ports k)
    rw [sttrans_enters_ports, Bridge.modify_self, hports]
    exact hs.enters (stateStep hcheck)
  · rintro v b₁ ⟨hs, ho⟩ -
    have hports : (((sttrans k).check v b₁).2).ports = b₁.ports := sttrans_check_ports
    exact ⟨by rw [hports]; exact hs, ho.trans (.of_ports hports)⟩

/-! ## Runs -/

variable {s s' : Switch ι} {e : Event ι} {es : List (Event ι)}

theorem StateSafe.of_same (h : StateSafe v p) (hl : q.learning = p.learning)
    (hf : q.forwarding = p.forwarding) : StateSafe v q :=
  ⟨hl.trans h.learning, hf.trans h.forwarding⟩

omit [Fintype ι] in
/-- The machine of the role of `j` is in another state. -/
theorem Switch.Safe.role_moves (h : s.Safe k) (hu : Untold j s.bridge b)
    (hs : RoleSafe t (b.ports j)) (ht : t.still) :
    Switch.Safe { s with bridge := b, roletrns := Function.update s.roletrns j t } k := by
  have hstate := h.state.of_same (hu.learning k) (hu.forwarding k)
  by_cases hk : k = j
  · subst hk
    refine ⟨?_, ?_, hstate⟩ <;> simp only [Function.update_self]
    · exact hs
    · exact ht
  · refine ⟨?_, ?_, hstate⟩ <;> simp only [Function.update_of_ne hk]
    · exact h.role.still_of h.still (hu.role k hk) (hu.learn k hk) (hu.forward k hk)
    · exact h.still

omit [Fintype ι] in
/-- The machine of the state of the port `j` is in another state. -/
theorem Switch.Safe.state_moves (h : s.Safe k) (hu : StateOnly j s.bridge b)
    (hs : StateSafe v (b.ports j)) :
    Switch.Safe { s with bridge := b, sttrans := Function.update s.sttrans j v } k := by
  by_cases hk : k = j
  · subst hk
    refine ⟨h.role.still_of h.still hu.role hu.learn hu.forward, h.still, ?_⟩
    simp only [Function.update_self]
    exact hs
  · refine ⟨?_, h.still, ?_⟩ <;> simp only [Function.update_of_ne hk, hu.others k hk]
    · exact h.role
    · exact h.state

theorem step_safe (h : ∀ k, s.Safe k) (hstep : s.step e = some s') (k : ι) : s'.Safe k := by
  cases e with
  | initRole j =>
    cases hstep
    exact (h k).role_moves enters_untold (.of_standby (by decide) fun _ => .inl rfl) rfl
  | initState j =>
    cases hstep
    refine (h k).state_moves state_enters_only ?_
    rw [sttrans_enters_ports, Bridge.modify_self]
    exact ⟨rfl, rfl⟩
  | runRole j fuel =>
    obtain ⟨c, hc, rfl⟩ := Option.map_eq_some_iff.mp hstep
    obtain ⟨hs, ht⟩ := role_run (h j).role (h j).still hc
    exact (h k).role_moves (role_untold hc) hs ht
  | runState j fuel =>
    obtain ⟨c, hc, rfl⟩ := Option.map_eq_some_iff.mp hstep
    obtain ⟨hs, hu⟩ := state_run (h j).state hc
    exact (h k).state_moves hu hs
  | other b =>
    simp only [Switch.step] at hstep
    split_ifs at hstep with he
    cases hstep
    obtain ⟨hl, hf, hp⟩ := he k
    exact ⟨(h k).role.elsewhere (h k).still hp, (h k).still, (h k).state.of_same hl hf⟩

omit [DecidableEq ι] [Fintype ι] in
theorem Switch.Created.safe (h : s.Created) (k : ι) : s.Safe k where
  role := by
    rw [h.roletrns k]
    exact .of_standby (by decide) fun _ => .inl rfl
  still := by
    rw [h.roletrns k]
    rfl
  state := by
    rw [h.sttrans k]
    exact ⟨h.learning k, h.forwarding k⟩

/-- The invariant of every run. -/
theorem reached_safe (h : s.Created) (hrun : tryRun Switch.step s es = some s') (k : ι) : s'.Safe k :=
  tryRun_inv (I := fun s => ∀ k, s.Safe k) (fun _ _ _ hs hstep => step_safe hs hstep) h.safe hrun k

/-- The machines of a port have nothing to do. -/
def Switch.AtRest (s : Switch ι) (k : ι) : Prop :=
  mstpRoletrnsCheckConditions k (s.roletrns k) s.bridge = none ∧
    (mstpSttransCheckConditions k (s.sttrans k) s.bridge).1 = none

omit [DecidableEq ι] [Fintype ι] in
theorem discards_at_rest (h : (mstpSttransCheckConditions k v b).1 = none)
    (hl : ¬ (b.ports k).port.learn) (hf : ¬ (b.ports k).port.forward) : v = .DISCARDING := by
  rw [sttrans_check_state] at h
  cases v <;> simp [hl, hf] at h ⊢

theorem kept_at_rest (h : mstpRoletrnsCheckConditions k t b = none) (hc : b.cist = some rootTimes)
    (ht : t ≠ .BEGIN) : ¬ (b.ports k).reassigned := by
  intro hr
  rw [check_reassigned hc ht hr] at h
  cases h

/-- Whatever happens in whatever order, a port that forwards also learns. When the machines of a port are at
rest and the one of the roles has been run, the port has the role that is selected for it, and it does
neither if with this role it takes no part. -/
theorem forwarding_takes_part (s s' : Switch ι) (es : List (Event ι)) (k : ι) (hs : s.Created)
    (hrun : tryRun Switch.step s es = some s') :
    ((s'.bridge.ports k).forwarding → (s'.bridge.ports k).learning) ∧
      (s'.AtRest k → s'.roletrns k ≠ .BEGIN →
        ((s'.bridge.ports k).port.role.standsBy → s'.sttrans k = .DISCARDING ∧
          ¬ (s'.bridge.ports k).learning ∧ ¬ (s'.bridge.ports k).forwarding) ∧
        (s'.bridge.cist.isSome → (s'.bridge.ports k).port.selected →
          ¬ (s'.bridge.ports k).port.updtInfo →
            (s'.bridge.ports k).port.role = (s'.bridge.ports k).port.selectedRole)) := by
  have h := reached_safe hs hrun k
  refine ⟨fun hf => ?_, fun hrest hb => ⟨fun hp => ?_, fun hc hsel hupdt => ?_⟩⟩
  · rw [h.state.forwarding] at hf
    rw [h.state.learning]
    revert hf
    cases s'.sttrans k <;> decide
  · have hlf : ¬ (s'.bridge.ports k).port.learn ∧ ¬ (s'.bridge.ports k).port.forward := by
      rcases h.role.standby hp with hbegin | hinit | hlf
      · exact absurd hbegin hb
      · have := h.still
        rw [hinit] at this
        cases this
      · exact hlf
    have hd := discards_at_rest hrest.2 hlf.1 hlf.2
    refine ⟨hd, ?_, ?_⟩
    · simp [h.state.learning, hd, PortState.learns]
    · simp [h.state.forwarding, hd, PortState.forwards]
  · obtain ⟨rootTimes, hc⟩ := Option.isSome_iff_exists.mp hc
    have hr := kept_at_rest hrest.1 hc hb
    simp only [TransPort.reassigned, decide_eq_true_eq] at hr
    tauto

end

/-- A switch with one port, that has just been created. -/
def onePort : Switch (Fin 1) :=
  { bridge :=
      { ForceVersion := 3, cist := some { zeroTimes with ForwardDelay := 15, HelloTime := 2 }
        ports := fun _ => freshTransPort, sttrans_count := 0, told := [] }
    roletrns := fun _ => .BEGIN
    sttrans := fun _ => .BEGIN }

theorem onePort_created : onePort.Created :=
  ⟨fun _ => rfl, fun _ => rfl, fun _ => rfl, fun _ => rfl, rfl⟩

/-- The port becomes a designated port at the edge, and forwards; then its link goes down. -/
def linkDown : List (Event (Fin 1)) :=
  let up : TransPort :=
    { freshTransPort with
      operEdge := true
      port := { freshXstPort with selectedRole := .DesignatedPort, selected := true } }
  let down : TransPort :=
    { freshTransPort with
      learning := true
      forwarding := true
      port := { freshXstPort with
        role := .DesignatedPort
        selected := true
        learn := true
        forward := true
        portEnabled := false } }
  [.runRole 0 5, .other { onePort.bridge with ports := fun _ => up }, .runRole 0 20, .runState 0 5,
    .other { onePort.bridge with ports := fun _ => down }, .runRole 0 5, .runState 0 5]

theorem link_down_discards : ∃ s', tryRun Switch.step onePort linkDown = some s' ∧
    ((s'.bridge.ports 0).forwarding → (s'.bridge.ports 0).learning) := by
  obtain ⟨s', hs'⟩ := Option.isSome_iff_exists.mp
    (by decide +kernel : (tryRun Switch.step onePort linkDown).isSome)
  exact ⟨s', hs', (forwarding_takes_part onePort s' linkDown 0 onePort_created hs').1⟩

/-! ## The rest of the daemon -/

/-- What the two machines decide about a port. -/
def XstPort.course (p : XstPort) : PortRole × Bool × Bool := (p.role, p.learn, p.forward)

theorem XstPort.Elsewhere.of_course {p q : XstPort} (h : q.course = p.course) : p.Elsewhere q := by
  simp only [XstPort.course, Prod.mk.injEq] at h
  exact .inl h

theorem XstPort.Elsewhere.of_same {p q r : XstPort} (h : p.Elsewhere r) (hp : p.course = q.course) :
    q.Elsewhere r := by
  simp only [XstPort.course, Prod.mk.injEq] at hp
  obtain ⟨hr, hl, hf⟩ := hp
  rwa [XstPort.Elsewhere, hr, hl, hf] at h

section
variable {i : Info}

@[simp] theorem setnewinfo_course : (stpRoletrnsSetnewinfoXst i).port.course = i.port.course := by
  rw [setnewinfo_port]
  rfl

@[simp] theorem rcvinfo_course : (stpPortinfoXstRcvinfo i).2.port.course = i.port.course := by
  unfold stpPortinfoXstRcvinfo stpPortinfoCistRcvinfo stpPortinfoMstiRcvinfo rcvinfo
  split_ifs <;> rfl

@[simp] theorem mastered_course : (stpPortinfoRecordMasteredxst i).port.course = i.port.course := by
  unfold stpPortinfoRecordMasteredxst stpPortinfoRecordMasteredcist
  split_ifs <;> rfl

@[simp] theorem proposal_course : (stpPortinfoRecordProposalxst i).port.course = i.port.course := by
  unfold stpPortinfoRecordProposalxst
  split_ifs <;> rfl

@[simp] theorem agreement_course : (stpPortinfoRecordAgreementxst i).port.course = i.port.course := by
  unfold stpPortinfoRecordAgreementxst stpPortinfoRecordAgreementmsti
  split_ifs
  · rfl
  · cases i.cist <;> rfl

@[simp] theorem infoWhile_course : (stpPortinfoUpdtRcvdInfoWhileXst i).port.course = i.port.course := by
  unfold stpPortinfoUpdtRcvdInfoWhileXst
  split_ifs
  · unfold stpPortinfoUpdtRcvdInfoWhileCist
    dsimp only
    split_ifs <;> rfl
  · rfl

/-- The machine of the information leaves alone what the two machines of a port work on. -/
theorem info_elsewhere {t : InfoState} : i.port.Elsewhere (mstpInfoEnterState t i).port := by
  refine .of_course ?_
  cases t with
  | UPDATE => exact setnewinfo_course
  | RECEIVE => exact mastered_course.trans rcvinfo_course
  | SUPERIOR_DESIGNATED =>
    let i₁ := stpPortinfoRecordProposalxst
      { i with port := { i.port with infoInternal := i.port.rcvdInternal, proposing := false } }
    let i₂ := stpPortinfoRecordAgreementxst
      { i₁ with port := { i₁.port with agree := i₁.port.agree ∧ stpPortinfoXstinfoCheck i₁ } }
    let i₃ := stpPortinfoUpdtRcvdInfoWhileXst { i₂ with
      port := { i₂.port with
        synced := i₂.port.synced ∧ i₂.port.agreed
        portPrio := i₂.port.msgPrio
        portTimes := i₂.port.msgTimes } }
    have h₁ : i₁.port.course = i.port.course := proposal_course
    have h₂ : i₂.port.course = i₁.port.course := agreement_course
    have h₃ : i₃.port.course = i₂.port.course := infoWhile_course
    have h := h₃.trans (h₂.trans h₁)
    simp only [XstPort.course, mstpInfoEnterState] at h ⊢
    exact h
  | REPEATED_DESIGNATED =>
    let i₁ := stpPortinfoRecordProposalxst
      { i with port := { i.port with infoInternal := i.port.rcvdInternal } }
    have h₁ : i₁.port.course = i.port.course := proposal_course
    have h₂ : (stpPortinfoRecordAgreementxst i₁).port.course = i₁.port.course := agreement_course
    have h₃ : (stpPortinfoUpdtRcvdInfoWhileXst (stpPortinfoRecordAgreementxst i₁)).port.course =
        (stpPortinfoRecordAgreementxst i₁).port.course := infoWhile_course
    have h := h₃.trans (h₂.trans h₁)
    simp only [XstPort.course, mstpInfoEnterState] at h ⊢
    exact h
  | ROOT => exact agreement_course
  | _ => rfl

theorem setRoleSelected_course {r : PortRole} {p : XstPort} (h : r ≠ .NonStpPort) :
    (stpRoleselSetRoleSelected r p).course = p.course := by
  unfold stpRoleselSetRoleSelected
  dsimp only
  split_ifs <;> simp_all [XstPort.course]

theorem setNonStp_elsewhere {p : XstPort} : p.Elsewhere (setNonStp p) := by
  refine .inr ⟨?_, rfl, rfl⟩
  simp only [setNonStp, stpRoleselSetRoleSelected]
  split_ifs with h
  · exact h.symm
  · rfl

theorem roleByInfo_course {s : Instance} {p : XstPort} : (roleByInfo s p).course = p.course := by
  unfold roleByInfo
  cases p.infoIs with
  | Disabled => exact setRoleSelected_course (by decide)
  | Aged => exact setRoleSelected_course (by decide)
  | Mine =>
    dsimp only
    split_ifs <;> exact setRoleSelected_course (by decide)
  | Received =>
    dsimp only
    split_ifs <;> exact setRoleSelected_course (by decide)

theorem updtRoleCist_elsewhere {s : Instance} : i.port.Elsewhere (updtRoleCist s i).port := by
  unfold updtRoleCist
  split_ifs
  · exact setNonStp_elsewhere
  · dsimp only
    split_ifs <;> exact .of_course roleByInfo_course

theorem roleAtBorder_course {c p : XstPort} : (roleAtBorder c p).course = p.course := by
  unfold roleAtBorder
  dsimp only
  split_ifs <;> first | exact setRoleSelected_course (by decide) | rfl

theorem updtRolesMsti_elsewhere {s : Instance} {l : List Info} :
    List.Forall₂ (fun i j : Info => i.port.Elsewhere j.port) l (updtRolesMsti s l) := by
  induction l with
  | nil => exact .nil
  | cons i l ih =>
    unfold updtRolesMsti
    split_ifs
    · exact .cons setNonStp_elsewhere ih
    · cases i.cist with
      | none => exact List.forall₂_same.mpr fun _ _ => .of_course rfl
      | some c =>
        refine .cons (.of_course ?_) ih
        dsimp only
        split_ifs
        · exact roleAtBorder_course
        · exact roleByInfo_course

end

/-- The ports of an instance that has elected its root. -/
theorem designate_course {s : Instance} {i : Info} : (designate s i).port.course = i.port.course := by
  unfold designate
  dsimp only
  split_ifs <;> rfl

theorem settled_course {s : Instance} :
    s.settled.ports.map (·.port.course) = s.ports.map (·.port.course) := by
  have hdes : s.elect.designated.ports.map (·.port.course) = s.ports.map (·.port.course) := by
    have hports : s.elect.ports = s.ports := foldl_rest.1
    rw [Instance.designated, hports, List.map_map]
    exact List.map_congr_left fun i _ => designate_course
  unfold Instance.settled setChangedMaster
  split_ifs
  · rw [List.map_map]
    exact hdes
  · exact hdes
  · exact hdes

theorem elsewhere_of_course {l m n : List Info} (h : l.map (·.port.course) = m.map (·.port.course))
    (hm : List.Forall₂ (fun i j : Info => i.port.Elsewhere j.port) m n) :
    List.Forall₂ (fun i j : Info => i.port.Elsewhere j.port) l n := by
  induction hm generalizing l with
  | nil =>
    rw [List.map_nil, List.map_eq_nil_iff] at h
    rw [h]
    exact .nil
  | cons hij _ ih =>
    cases l with
    | nil => simp at h
    | cons a l =>
      obtain ⟨ha, hl⟩ := List.cons.inj h
      exact .cons (hij.of_same ha.symm) (ih hl)

/-- And so does the selection of the roles. -/
theorem roles_elsewhere {s : Instance} : List.Forall₂ (fun i j : Info => i.port.Elsewhere j.port) s.ports
    (stpRoleselUpdtRolesXst s).ports := by
  refine elsewhere_of_course settled_course.symm ?_
  unfold stpRoleselUpdtRolesXst
  by_cases hv : s.vlan_id = STP_CIST_ID
  · rw [if_pos hv, show (stpRoleselUpdtRolesCist s).ports = s.settled.ports.map (updtRoleCist s.settled) by
      simp only [Instance.settled, if_pos hv]
      rfl]
    refine List.forall₂_map_right_iff.mpr (List.forall₂_same.mpr fun i _ => updtRoleCist_elsewhere)
  · rw [if_neg hv, show (stpRoleselUpdtRolesMsti s).ports = updtRolesMsti s.settled s.settled.ports by
      simp only [Instance.settled, if_neg hv]
      rfl]
    exact updtRolesMsti_elsewhere

end Stp
end DaemonGroup
