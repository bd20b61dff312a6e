import DaemonGroup.Lib.Run
import DaemonGroup.Stp.Settling
import DaemonGroup.Stp.Transmit

/-!
# DaemonGroup.Stp.Topology

Changes of the topology: the machine of a port (`stp_topoch.c`) and the flags that a message raises
(`stp_receive_setTcFlags`). Flushing the learning table (`stp_topoch_flush`) is left out, `stp_to_flush_lt`
does nothing.

* `topoch_settles_iff` — from where the machine comes to rest.
* `tc_flags_lost` — the flag in a message raises nothing on the ports of the CIST, and if nothing else
  happens the CIST never passes it on.
-/

namespace DaemonGroup
namespace Stp

open Lib

/-- The states of the machine. -/
inductive TopoState where
  | BEGIN
  | INIT
  | INACTIVE
  | ACTIVE
  | DETECTED
  | NOTIFIED_TC
  | PROPAGATING
  | ACKNOWLEDGED
  | NOTIFIED_TCN
deriving DecidableEq, Repr

/-- The port has a role that takes part in the tree. -/
def PortRole.takesPart : PortRole → Bool
  | .RootPort | .DesignatedPort | .MasterPort => true
  | _ => false

/-- `stp_topoch_newTcWhile`; `rootTimes` are those of the CIST. -/
def stpTopochNewTcWhile (rootTimes : TimeValues) (p : TransPort) : Nat :=
  if p.tcWhile = 0 ∧ p.port.sendRSTP ∧ p.port.operPointToPointMac then 2 * rootTimes.HelloTime.toNat
  else rootTimes.MaxAge.toNat + rootTimes.ForwardDelay.toNat

/-- What the machine does to its own port when it enters a state. -/
def topochEnters (rootTimes : TimeValues) (s : TopoState) (p : TransPort) : TransPort :=
  let cist : Bool := p.port.vlan_id = STP_CIST_ID
  match s with
  | .BEGIN | .INIT => { p with tcWhile := 0, tcAck := if cist then false else p.tcAck }
  | .INACTIVE =>
    { p with
      rcvdTcn := if cist then false else p.rcvdTcn
      rcvdTcAck := if cist then false else p.rcvdTcAck
      rcvdTc := false
      tcProp := false }
  | .ACTIVE => p
  | .DETECTED =>
    { p with tcWhile := stpTopochNewTcWhile rootTimes p, toInfo := stpRoletrnsSetnewinfoXst p.toInfo }
  | .NOTIFIED_TC =>
    { p with
      rcvdTcn := if cist then false else p.rcvdTcn
      rcvdTc := false
      tcAck := if cist ∧ p.port.role = .DesignatedPort then true else p.tcAck }
  | .PROPAGATING => { p with tcWhile := stpTopochNewTcWhile rootTimes p, tcProp := false }
  | .ACKNOWLEDGED => { p with tcWhile := 0, rcvdTcAck := false }
  | .NOTIFIED_TCN => { p with tcWhile := stpTopochNewTcWhile rootTimes p }

/-- `MSTP_topoch_check_conditions`: the state that the machine changes to. -/
def mstpTopochCheckConditions (s : TopoState) (p : TransPort) : Option TopoState :=
  match s with
  | .BEGIN => some .INIT
  | .INIT => some .INACTIVE
  | .INACTIVE =>
    if p.rcvdTc ∨ p.rcvdTcn ∨ p.rcvdTcAck ∨ p.tcProp then some .INACTIVE
    else if p.port.role.takesPart ∧ p.port.forward ∧ ¬ p.operEdge then some .DETECTED
    else none
  | .DETECTED => some .ACTIVE
  | .ACTIVE =>
    if ¬ p.port.role.takesPart then some .INIT
    else if p.rcvdTcn then some .NOTIFIED_TCN
    else if p.rcvdTc then some .NOTIFIED_TC
    else if p.tcProp then some .PROPAGATING
    else if p.rcvdTcAck then some .ACKNOWLEDGED
    else none
  | .NOTIFIED_TC | .PROPAGATING | .ACKNOWLEDGED => some .ACTIVE
  | .NOTIFIED_TCN => some .NOTIFIED_TC

section
variable {ι : Type} [DecidableEq ι] (k : ι) (rootTimes : TimeValues)

/-- `stp_topoch_setTcPropTree` -/
def stpTopochSetTcPropTree (b : Bridge ι) : Bridge ι :=
  { b with ports := fun j => if j = k then b.ports j else { b.ports j with tcProp := true } }

/-- `MSTP_topoch_enter_state` -/
def mstpTopochEnterState (s : TopoState) (b : Bridge ι) : Bridge ι :=
  match s with
  | .DETECTED => (stpTopochSetTcPropTree k b).modify k (topochEnters rootTimes .DETECTED)
  | .NOTIFIED_TC => (stpTopochSetTcPropTree k b).modify k (topochEnters rootTimes .NOTIFIED_TC)
  | s => b.modify k (topochEnters rootTimes s)

/-- The machine of the topology changes of the port `k`. -/
def topoch : Machine TopoState (Bridge ι) where
  enter := mstpTopochEnterState k rootTimes
  check := fun s b => (mstpTopochCheckConditions s (b.ports k), b)

end

/-! ## Coming to rest -/

/-- The machine on its own port. -/
def topochPort (rootTimes : TimeValues) : Machine TopoState TransPort where
  enter := topochEnters rootTimes
  check := fun s p => (mstpTopochCheckConditions s p, p)

/-- The states of a port with a role that takes part in the tree. -/
def TopoState.active : TopoState → Bool
  | .BEGIN | .INIT | .INACTIVE => false
  | _ => true

section
variable {ι : Type} [DecidableEq ι] {k : ι} {b : Bridge ι} {rootTimes : TimeValues} {s u : TopoState}
  {p q : TransPort}

theorem topoch_enters_self :
    (mstpTopochEnterState k rootTimes s b).ports k = topochEnters rootTimes s (b.ports k) := by
  cases s <;> simp [mstpTopochEnterState, stpTopochSetTcPropTree]

theorem topoch_settles_port : (topoch k rootTimes).Settles s b ↔
    (topochPort rootTimes).Settles s (b.ports k) :=
  Machine.settles_project (fun b : Bridge ι => b.ports k) (fun _ _ => ⟨rfl, rfl⟩)
    fun _ _ => topoch_enters_self

theorem topoch_turn : (topochPort rootTimes).turn s p = some (u, q) ↔
    mstpTopochCheckConditions s p = some u ∧ topochEnters rootTimes u p = q :=
  Machine.turn_eq_some

/-- What entering a state leaves alone. -/
theorem topochEnters_keeps : (topochEnters rootTimes s p).port.vlan_id = p.port.vlan_id ∧
    (topochEnters rootTimes s p).port.role = p.port.role ∧
    (topochEnters rootTimes s p).port.forward = p.port.forward ∧
    (topochEnters rootTimes s p).operEdge = p.operEdge := by
  cases s <;> simp [topochEnters, setnewinfo_port]

/-- The flags that the port has still to look at. -/
def TransPort.flags (p : TransPort) : Nat :=
  p.rcvdTcn.toNat + p.rcvdTc.toNat + p.tcProp.toNat + p.rcvdTcAck.toNat

/-- What is left to do in the states of a port that takes part. -/
def topoToil (s : TopoState) (p : TransPort) : Nat :=
  match s with
  | .ACTIVE => 4 * p.flags
  | .NOTIFIED_TCN => 4 * (p.tcProp.toNat + p.rcvdTcAck.toNat) + 2
  | _ => 4 * p.flags + 1

/-- The port is one of the CIST. -/
def TransPort.isCist (p : TransPort) : Prop := p.port.vlan_id = STP_CIST_ID

instance (p : TransPort) : Decidable p.isCist := inferInstanceAs (Decidable (_ = _))

/-- A port that takes part gets to the end of its flags. -/
theorem topo_settles_active (hs : s.active) (hrole : p.port.role.takesPart)
    (hn : p.rcvdTcn → p.isCist) : (topochPort rootTimes).Settles s p := by
  refine Machine.Settles.of_measure
    (I := fun s p => s.active ∧ p.port.role.takesPart ∧ (p.rcvdTcn → p.isCist)) topoToil ?_
    ⟨hs, hrole, hn⟩
  rintro s p u q ⟨hs, hrole, hn⟩ hturn
  obtain ⟨hcheck, rfl⟩ := topoch_turn.mp hturn
  unfold TransPort.isCist at hn
  cases s with
  | BEGIN | INIT | INACTIVE => cases hs
  | ACTIVE =>
    simp only [mstpTopochCheckConditions] at hcheck
    rw [if_neg (by simp [hrole])] at hcheck
    split_ifs at hcheck with htcn htc hprop hack <;> cases hcheck <;>
      simp only [topochEnters, TransPort.isCist, topoToil, TransPort.flags, TopoState.active] <;> grind
  | NOTIFIED_TCN =>
    cases hcheck
    simp only [topochEnters, TransPort.isCist, topoToil, TransPort.flags, TopoState.active]
    grind
  | DETECTED | NOTIFIED_TC | PROPAGATING | ACKNOWLEDGED =>
    cases hcheck
    exact ⟨⟨rfl, hrole, hn⟩, by simp [topoToil, topochEnters]⟩

/-- Nothing is left in INACTIVE that the port would look at again and again. -/
def TransPort.clears (p : TransPort) : Prop := p.isCist ∨ ¬ p.rcvdTcn ∧ ¬ p.rcvdTcAck

theorem topo_settles_clear (h : ¬ p.rcvdTc ∧ ¬ p.rcvdTcn ∧ ¬ p.rcvdTcAck ∧ ¬ p.tcProp) :
    (topochPort rootTimes).Settles .INACTIVE p := by
  by_cases hd : p.port.role.takesPart ∧ p.port.forward ∧ ¬ p.operEdge
  · have hcheck : mstpTopochCheckConditions .INACTIVE p = some .DETECTED := by
      simp [mstpTopochCheckConditions, h, hd]
    refine (Machine.Settles.next (topoch_turn.mpr ⟨hcheck, rfl⟩)).mpr (topo_settles_active rfl ?_ ?_)
    · rw [topochEnters_keeps.2.1]
      exact hd.1
    · intro hn
      exact absurd hn h.2.1
  · refine .still (Machine.turn_eq_none.mpr ?_)
    show mstpTopochCheckConditions .INACTIVE p = none
    simp only [mstpTopochCheckConditions]
    rw [if_neg (by tauto), if_neg hd]

theorem topo_settles_inactive (h : p.clears) : (topochPort rootTimes).Settles .INACTIVE p := by
  by_cases hf : p.rcvdTc ∨ p.rcvdTcn ∨ p.rcvdTcAck ∨ p.tcProp
  · have hcheck : mstpTopochCheckConditions .INACTIVE p = some .INACTIVE := by
      simp only [mstpTopochCheckConditions, if_pos hf]
    refine (Machine.Settles.next (topoch_turn.mpr ⟨hcheck, rfl⟩)).mpr (topo_settles_clear ?_)
    simp only [TransPort.clears, TransPort.isCist] at h
    simp only [topochEnters]
    grind
  · exact topo_settles_clear (by tauto)

theorem topo_settles_init (h : p.clears) : (topochPort rootTimes).Settles .INIT p := by
  refine (Machine.Settles.next (topoch_turn.mpr ⟨rfl, rfl⟩)).mpr (topo_settles_inactive ?_)
  simp only [TransPort.clears, TransPort.isCist, topochEnters] at h ⊢
  grind

theorem topo_settles_idle (h : p.clears) (hrole : ¬ p.port.role.takesPart) :
    (topochPort rootTimes).Settles .ACTIVE p := by
  have hcheck : mstpTopochCheckConditions .ACTIVE p = some .INIT := by
    simp [mstpTopochCheckConditions, hrole]
  exact (Machine.Settles.next (topoch_turn.mpr ⟨hcheck, rfl⟩)).mpr (topo_settles_init h)

theorem topo_settles_notified (h : p.clears) (hrole : ¬ p.port.role.takesPart) :
    (topochPort rootTimes).Settles .NOTIFIED_TC p :=
  (Machine.Settles.next (topoch_turn.mpr ⟨rfl, rfl⟩)).mpr (topo_settles_idle h hrole)

/-- A port that takes no part, or not any more, gets back to INACTIVE. -/
theorem topo_settles_back (h : p.clears) (hs : s.active → ¬ p.port.role.takesPart) :
    (topochPort rootTimes).Settles s p := by
  cases s with
  | BEGIN =>
    refine (Machine.Settles.next (topoch_turn.mpr ⟨rfl, rfl⟩)).mpr (topo_settles_init ?_)
    exact h
  | INIT => exact topo_settles_init h
  | INACTIVE => exact topo_settles_inactive h
  | ACTIVE => exact topo_settles_idle h (hs rfl)
  | NOTIFIED_TC => exact topo_settles_notified h (hs rfl)
  | DETECTED | PROPAGATING | ACKNOWLEDGED =>
    exact (Machine.Settles.next (topoch_turn.mpr ⟨rfl, rfl⟩)).mpr (topo_settles_idle h (hs rfl))
  | NOTIFIED_TCN =>
    refine (Machine.Settles.next (topoch_turn.mpr ⟨rfl, rfl⟩)).mpr (topo_settles_notified ?_ (hs rfl))
    simp only [TransPort.clears, TransPort.isCist, topochEnters] at h ⊢
    grind

/-- With a notification that is never taken back there is always something to do. -/
theorem topo_spins_tcn (hc : ¬ p.isCist) (hn : p.rcvdTcn) : ¬ (topochPort rootTimes).Settles s p := by
  refine Machine.not_settles (I := fun _ p => ¬ p.isCist ∧ p.rcvdTcn) ?_ ⟨hc, hn⟩
  rintro s p ⟨hc, hn⟩
  have hkept : ∀ u, ¬ (topochEnters rootTimes u p).isCist ∧ (topochEnters rootTimes u p).rcvdTcn := by
    intro u
    unfold TransPort.isCist at hc ⊢
    cases u <;> simp [topochEnters, setnewinfo_port, hc, hn]
  have hgo : ∃ u, mstpTopochCheckConditions s p = some u := by
    cases s <;> simp [mstpTopochCheckConditions, hn]
    by_cases hr : p.port.role.takesPart <;> simp [hr]
  obtain ⟨u, hu⟩ := hgo
  exact ⟨u, _, topoch_turn.mpr ⟨hu, rfl⟩, hkept u⟩

/-- And so there is with an acknowledgement on a port that takes no part, or not yet. -/
theorem topo_spins_ack (hc : ¬ p.isCist) (ha : p.rcvdTcAck)
    (hs : s.active → ¬ p.port.role.takesPart) : ¬ (topochPort rootTimes).Settles s p := by
  refine Machine.not_settles
    (I := fun s p => ¬ p.isCist ∧ p.rcvdTcAck ∧ (s.active → ¬ p.port.role.takesPart)) ?_
    ⟨hc, ha, hs⟩
  rintro s p ⟨hc, ha, hs⟩
  have hgo : ∃ u, mstpTopochCheckConditions s p = some u ∧ u ≠ .ACKNOWLEDGED ∧
      (u.active → s.active) := by
    cases s with
    | BEGIN => exact ⟨.INIT, rfl, by decide, by decide⟩
    | INIT => exact ⟨.INACTIVE, rfl, by decide, by decide⟩
    | INACTIVE => exact ⟨.INACTIVE, by simp [mstpTopochCheckConditions, ha], by decide, by decide⟩
    | ACTIVE =>
      exact ⟨.INIT, by simp [mstpTopochCheckConditions, hs rfl], by decide, by decide⟩
    | NOTIFIED_TCN => exact ⟨.NOTIFIED_TC, rfl, by decide, by decide⟩
    | DETECTED | NOTIFIED_TC | PROPAGATING | ACKNOWLEDGED =>
      exact ⟨.ACTIVE, rfl, by decide, by decide⟩
  obtain ⟨u, hu, hne, hact⟩ := hgo
  refine ⟨u, _, topoch_turn.mpr ⟨hu, rfl⟩, ?_, ?_, ?_⟩
  · unfold TransPort.isCist
    rw [topochEnters_keeps.1]
    exact hc
  · unfold TransPort.isCist at hc
    cases u <;> simp [topochEnters, hc, ha] at hne ⊢
  · intro hu
    rw [topochEnters_keeps.2.1]
    exact hs (hact hu)

/-- The machine of the topology changes comes to rest on a port of the CIST. On one of another tree it does
not while a notification is noted, nor, unless the port takes part, while an acknowledgement is. -/
theorem topoch_settles_iff (k : ι) (rootTimes : TimeValues) (s : TopoState) (b : Bridge ι) :
    (topoch k rootTimes).Settles s b ↔ (b.ports k).isCist ∨ ¬ (b.ports k).rcvdTcn ∧
      ((b.ports k).rcvdTcAck → s.active ∧ (b.ports k).port.role.takesPart) := by
  rw [topoch_settles_port]
  constructor
  · intro h
    by_cases hc : (b.ports k).isCist
    · exact .inl hc
    refine .inr ⟨fun hn => topo_spins_tcn hc hn h, fun ha => ?_⟩
    by_contra hs
    exact topo_spins_ack hc ha (fun hact hrole => hs ⟨hact, hrole⟩) h
  · intro h
    by_cases hs : s.active ∧ (b.ports k).port.role.takesPart
    · exact topo_settles_active hs.1 hs.2 fun hn => h.resolve_right fun h => h.1 hn
    · exact topo_settles_back (h.imp id fun h => ⟨h.1, fun ha => hs (h.2 ha)⟩)
        fun hact hrole => hs ⟨hact, hrole⟩

end

/-! ## What the messages raise -/

def TOLPLOGY_CHANGE_ACK_BIT : UInt8 := 0x80

/-- `stp_receive_setTcFlags`: a port of the CIST has received a message; `mst` are the ports behind it. -/
def stpReceiveSetTcFlags (p : TransPort) (mst : List TransPort) : TransPort × List TransPort :=
  let notified := mst.map fun m => { m with rcvdTc := true }
  if p.port.msgBpduType = BPDU_TOPO_CHANGE_TYPE then ({ p with rcvdTcn := true }, notified)
  else if p.port.msgBpduType = BPDU_CONFIG_TYPE ∨ p.port.msgBpduType = BPDU_RSTP then
    (if TOLPLOGY_CHANGE_ACK_BIT &&& p.port.msgFlags ≠ 0 then { p with rcvdTcAck := true } else p,
      if p.port.rcvdInternal = false then
        if TOLPLOGY_CHANGE_BIT &&& p.port.msgFlags ≠ 0 then notified else mst
      else mst.map fun m =>
        if m.port.rcvdMsg ∧ TOLPLOGY_CHANGE_BIT &&& m.port.msgFlags ≠ 0 then { m with rcvdTc := true }
        else m)
  else (p, mst)

/-- The CIST, with the machines of the topology changes of its ports. -/
structure TopoSwitch (ι : Type) where
  bridge : Bridge ι
  rootTimes : TimeValues
  topoch : ι → TopoState

/-- What happens to it. `mst` are the ports of the other trees behind the port. -/
inductive TopoEvent (ι : Type) where
  | init (k : ι)
  | run (k : ι) (fuel : Nat)
  | receive (k : ι) (mst : List TransPort)
  | other (b : Bridge ι) (rootTimes : TimeValues)

/-- All the rest of the daemon leaves the flags of the topology changes alone, and lets the timer run out. -/
def TransPort.SameTopology (p q : TransPort) : Prop :=
  q.isCist ∧ q.rcvdTc = p.rcvdTc ∧ q.rcvdTcn = p.rcvdTcn ∧ q.tcProp = p.tcProp ∧ q.tcWhile ≤ p.tcWhile

instance (p q : TransPort) : Decidable (p.SameTopology q) := inferInstanceAs (Decidable (_ ∧ _))

/-- The machine would find out by itself that the topology has changed. -/
def TransPort.detects (p : TransPort) : Prop := p.port.role.takesPart ∧ p.port.forward ∧ ¬ p.operEdge

instance (p : TransPort) : Decidable p.detects := inferInstanceAs (Decidable (_ ∧ _))

/-- The machine of a port will not look for a change itself. -/
def Unmoved (s : TopoState) (p : TransPort) : Prop := s.active ∧ p.port.role.takesPart ∨ ¬ p.detects

instance (s : TopoState) (p : TransPort) : Decidable (Unmoved s p) := inferInstanceAs (Decidable (_ ∨ _))

section
variable {ι : Type} [DecidableEq ι] [Fintype ι]

def TopoSwitch.step (s : TopoSwitch ι) : TopoEvent ι → Option (TopoSwitch ι)
  | .init k => some { s with
      bridge := mstpTopochEnterState k s.rootTimes .BEGIN s.bridge
      topoch := Function.update s.topoch k .BEGIN }
  | .run k fuel =>
    ((Stp.topoch k s.rootTimes).rest fuel (s.topoch k) s.bridge).map fun c =>
      { s with bridge := c.2, topoch := Function.update s.topoch k c.1 }
  | .receive k mst =>
    some { s with bridge := s.bridge.modify k fun p => (stpReceiveSetTcFlags p mst).1 }
  | .other b rootTimes =>
    if ∀ j, (s.bridge.ports j).SameTopology (b.ports j) then
      some { s with bridge := b, rootTimes := rootTimes }
    else none

/-- Nothing but the flag in a message says that the topology has changed: there is no notification of the
old kind, and no port detects a change itself. -/
def TopoSwitch.Quiet (s : TopoSwitch ι) : TopoEvent ι → Prop
  | .run k _ => Unmoved (s.topoch k) (s.bridge.ports k)
  | .receive k _ => (s.bridge.ports k).port.msgBpduType ≠ BPDU_TOPO_CHANGE_TYPE
  | .init _ | .other _ _ => True

instance (s : TopoSwitch ι) : (e : TopoEvent ι) → Decidable (s.Quiet e)
  | .run _ _ => inferInstanceAs (Decidable (Unmoved _ _))
  | .receive _ _ => inferInstanceAs (Decidable (_ ≠ _))
  | .init _ => inferInstanceAs (Decidable True)
  | .other _ _ => inferInstanceAs (Decidable True)

end

/-! ### What is never raised -/

/-- The port is one of the CIST, and no change was received on it. -/
structure TransPort.Unheard (p : TransPort) : Prop where
  isCist : p.isCist
  rcvdTc : p.rcvdTc = false

/-- Nor is there one to pass on, or to tell in a message. -/
structure TransPort.Calm (p : TransPort) : Prop where
  rcvdTcn : p.rcvdTcn = false
  tcProp : p.tcProp = false
  tcWhile : p.tcWhile = 0

section
variable {ι : Type} [DecidableEq ι] {k : ι} {rootTimes : TimeValues} {s u : TopoState} {b : Bridge ι}
  {p q : TransPort}

namespace TransPort

theorem Unheard.enters (h : p.Unheard) : (topochEnters rootTimes s p).Unheard := by
  refine ⟨?_, ?_⟩
  · rw [TransPort.isCist, topochEnters_keeps.1]
    exact h.isCist
  · cases s <;> simp [topochEnters, h.rcvdTc]

theorem Unheard.receives (h : p.Unheard) (mst : List TransPort) : (stpReceiveSetTcFlags p mst).1.Unheard := by
  obtain ⟨hc, ht⟩ := h
  unfold stpReceiveSetTcFlags
  split_ifs <;> exact ⟨hc, ht⟩

theorem Unheard.same (h : p.Unheard) (hsame : p.SameTopology q) : q.Unheard :=
  ⟨hsame.1, hsame.2.1.trans h.rcvdTc⟩

theorem Calm.receives (h : p.Calm) (mst : List TransPort) (hb : p.port.msgBpduType ≠ BPDU_TOPO_CHANGE_TYPE) :
    (stpReceiveSetTcFlags p mst).1.Calm := by
  obtain ⟨hn, hp, hw⟩ := h
  unfold stpReceiveSetTcFlags
  rw [if_neg hb]
  split_ifs <;> exact ⟨hn, hp, hw⟩

theorem Calm.same (h : p.Calm) (hsame : p.SameTopology q) : q.Calm := by
  obtain ⟨-, -, hn, hp, hw⟩ := hsame
  refine ⟨hn.trans h.rcvdTcn, hp.trans h.tcProp, ?_⟩
  have := h.tcWhile
  omega

end TransPort

/-- Entering a state does to the other ports nothing but to have them pass a change on. -/
theorem topoch_enters_other {j : ι} (h : j ≠ k) : (mstpTopochEnterState k rootTimes s b).ports j =
    if s = .DETECTED ∨ s = .NOTIFIED_TC then { b.ports j with tcProp := true } else b.ports j := by
  cases s <;> simp [mstpTopochEnterState, stpTopochSetTcPropTree, h]

theorem unheard_enters (h : ∀ j, (b.ports j).Unheard) (j : ι) :
    ((mstpTopochEnterState k rootTimes s b).ports j).Unheard := by
  by_cases hj : j = k
  · subst hj
    rw [topoch_enters_self]
    exact (h j).enters
  · rw [topoch_enters_other hj]
    split_ifs
    · exact ⟨(h j).isCist, (h j).rcvdTc⟩
    · exact h j

/-- Nothing is passed on when the machine enters the state. -/
def TopoState.keepsQuiet : TopoState → Bool
  | .DETECTED | .NOTIFIED_TC | .PROPAGATING | .NOTIFIED_TCN => false
  | _ => true

theorem calm_enters (hs : s.keepsQuiet) (h : ∀ j, (b.ports j).Calm) (j : ι) :
    ((mstpTopochEnterState k rootTimes s b).ports j).Calm := by
  by_cases hj : j = k
  · subst hj
    obtain ⟨hn, hp, hw⟩ := h j
    rw [topoch_enters_self]
    cases s with
    | DETECTED | NOTIFIED_TC | PROPAGATING | NOTIFIED_TCN => cases hs
    | BEGIN | INIT | INACTIVE | ACTIVE | ACKNOWLEDGED =>
      constructor <;> simp [topochEnters, hn, hp, hw]
  · rw [topoch_enters_other hj, if_neg]
    · exact h j
    · rintro (rfl | rfl) <;> cases hs

/-- Where nothing was heard, the machine of a port that takes part looks at nothing but an
acknowledgement. -/
theorem check_quiet (hu : p.Unheard) (hc : p.Calm) (hm : Unmoved s p) (hs : s ≠ .NOTIFIED_TCN)
    (h : mstpTopochCheckConditions s p = some u) :
    u.keepsQuiet ∧ (u.active ∧ p.port.role.takesPart ∨ ¬ p.detects) := by
  have ht := hu.rcvdTc
  obtain ⟨hn, hp, -⟩ := hc
  cases s with
  | NOTIFIED_TCN => exact absurd rfl hs
  | BEGIN | INIT =>
    cases h
    exact ⟨rfl, .inr (hm.resolve_left fun hm => by cases hm.1)⟩
  | DETECTED | NOTIFIED_TC | PROPAGATING | ACKNOWLEDGED =>
    cases h
    exact ⟨rfl, hm.imp (fun hm => ⟨rfl, hm.2⟩) id⟩
  | INACTIVE =>
    have hd := hm.resolve_left fun hm => by cases hm.1
    simp only [mstpTopochCheckConditions] at h
    split_ifs at h with hflag hdet
    · cases h
      exact ⟨rfl, .inr hd⟩
    · exact absurd hdet hd
  | ACTIVE =>
    simp only [mstpTopochCheckConditions, ht, hn, hp, Bool.false_eq_true, if_false] at h
    by_cases hrole : p.port.role.takesPart
    · rw [if_neg (not_not.mpr hrole)] at h
      split_ifs at h with hack
      cases h
      exact ⟨rfl, .inl ⟨rfl, hrole⟩⟩
    · rw [if_pos hrole] at h
      cases h
      exact ⟨rfl, .inr fun hd => hrole hd.1⟩

theorem run_unheard {fuel : Nat} {c : TopoState × Bridge ι} (h : ∀ j, (b.ports j).Unheard)
    (hrun : (topoch k rootTimes).rest fuel s b = some c) (j : ι) : (c.2.ports j).Unheard := by
  refine Machine.rest_rule (I := fun _ (b : Bridge ι) => ∀ j, (b.ports j).Unheard)
    (J := fun _ b => ∀ j, (b.ports j).Unheard) ?_ (fun _ _ h _ => h) h hrun j
  intro t v u w hv hturn
  obtain ⟨-, rfl⟩ := Machine.turn_eq_some.mp hturn
  exact unheard_enters hv

theorem run_calm {fuel : Nat} {c : TopoState × Bridge ι} (hu : ∀ j, (b.ports j).Unheard)
    (h : ∀ j, (b.ports j).Calm) (hm : Unmoved s (b.ports k)) (hs : s ≠ .NOTIFIED_TCN)
    (hrun : (topoch k rootTimes).rest fuel s b = some c) :
    (∀ j, (c.2.ports j).Calm) ∧ c.1 ≠ .NOTIFIED_TCN := by
  refine Machine.rest_rule
    (I := fun t (b : Bridge ι) => (∀ j, (b.ports j).Unheard) ∧ Unmoved t (b.ports k) ∧
      (∀ j, (b.ports j).Calm) ∧ t ≠ .NOTIFIED_TCN)
    (J := fun t b => (∀ j, (b.ports j).Calm) ∧ t ≠ .NOTIFIED_TCN) ?_
    (fun _ _ h _ => h.2.2) ⟨hu, hm, h, hs⟩ hrun
  rintro t v u w ⟨hu, hm, h, hs⟩ hturn
  obtain ⟨hcheck, rfl⟩ := Machine.turn_eq_some.mp hturn
  obtain ⟨hkeeps, hm'⟩ := check_quiet (hu k) (h k) hm hs hcheck
  refine ⟨unheard_enters hu, ?_, calm_enters hkeeps h, ?_⟩
  · obtain ⟨-, hrole, hforward, hedge⟩ := @topochEnters_keeps rootTimes u (v.ports k)
    unfold Unmoved TransPort.detects
    simp only [topoch, topoch_enters_self, hrole, hforward, hedge]
    exact hm'
  · rintro rfl
    cases hkeeps

end

/-! ### Runs -/

namespace TopoSwitch

section
variable {ι : Type}

/-- No port has received a change. -/
def Deaf (s : TopoSwitch ι) : Prop := ∀ j, (s.bridge.ports j).Unheard

/-- No port has one to pass on or to tell. -/
def Still (s : TopoSwitch ι) : Prop :=
  (∀ j, (s.bridge.ports j).Calm) ∧ ∀ j, s.topoch j ≠ .NOTIFIED_TCN

end

section
variable {ι : Type} [DecidableEq ι] {s : TopoSwitch ι} {k : ι}

/-- What a message does to the ports. -/
theorem receive_ports {mst : List TransPort} {P : TransPort → Prop} {j : ι}
    (hk : P (stpReceiveSetTcFlags (s.bridge.ports k) mst).1) (h : P (s.bridge.ports j)) :
    P ((s.bridge.modify k fun p => (stpReceiveSetTcFlags p mst).1).ports j) := by
  by_cases hj : j = k
  · subst hj
    rwa [Bridge.modify_self]
  · rwa [Bridge.modify_of_ne hj]

variable [Fintype ι]

theorem step_deaf (s : TopoSwitch ι) (e : TopoEvent ι) (s' : TopoSwitch ι) (h : s.Deaf)
    (hstep : s.step e = some s') : s'.Deaf := by
  intro j
  cases e with
  | init k =>
    cases hstep
    show ((mstpTopochEnterState k s.rootTimes .BEGIN s.bridge).ports j).Unheard
    exact unheard_enters h j
  | run k fuel =>
    obtain ⟨c, hc, rfl⟩ := Option.map_eq_some_iff.mp hstep
    exact run_unheard h hc j
  | receive k mst =>
    cases hstep
    exact receive_ports ((h k).receives mst) (h j)
  | other b rootTimes =>
    simp only [step] at hstep
    split_ifs at hstep with hsame
    cases hstep
    exact (h j).same (hsame j)

theorem step_still (s : TopoSwitch ι) (e : TopoEvent ι) (s' : TopoSwitch ι) (hd : s.Deaf) (h : s.Still)
    (hq : s.Quiet e) (hstep : s.step e = some s') : s'.Still := by
  obtain ⟨hcalm, hstate⟩ := h
  have hstate' : ∀ j k : ι, ∀ u, u ≠ .NOTIFIED_TCN →
      Function.update s.topoch k u j ≠ .NOTIFIED_TCN := by
    intro j k u hu
    by_cases hj : j = k
    · subst hj
      rwa [Function.update_self]
    · rw [Function.update_of_ne hj]
      exact hstate j
  cases e with
  | init k =>
    cases hstep
    have hcalm' : ∀ j, ((mstpTopochEnterState k s.rootTimes .BEGIN s.bridge).ports j).Calm :=
      calm_enters rfl hcalm
    exact ⟨hcalm', fun j => hstate' j k _ (by decide)⟩
  | run k fuel =>
    obtain ⟨c, hc, rfl⟩ := Option.map_eq_some_iff.mp hstep
    obtain ⟨hcalm', hne⟩ := run_calm hd hcalm hq (hstate k) hc
    exact ⟨hcalm', fun j => hstate' j k _ hne⟩
  | receive k mst =>
    cases hstep
    exact ⟨fun j => receive_ports ((hcalm k).receives mst hq) (hcalm j), hstate⟩
  | other b rootTimes =>
    simp only [step] at hstep
    split_ifs at hstep with hsame
    cases hstep
    exact ⟨fun j => (hcalm j).same (hsame j), hstate⟩

/-- The flag of a change in a message is lost on the CIST: in no run is it noted on one of its ports, and in
a run in which nothing else happens no port ever passes a change on, or tells one in its own messages. -/
theorem tc_flags_lost (s s' : TopoSwitch ι) (es : List (TopoEvent ι)) (hd : s.Deaf) (hs : s.Still)
    (hrun : tryRun step s es = some s') :
    (∀ j, (s'.bridge.ports j).rcvdTc = false) ∧
      (TryObeys step Quiet s es →
        ∀ j, (s'.bridge.ports j).tcProp = false ∧ (s'.bridge.ports j).tcWhile = 0) := by
  refine ⟨fun j => (tryRun_inv step_deaf hd hrun j).rcvdTc, fun hq j => ?_⟩
  have h : s'.Deaf ∧ s'.Still := by
    refine TryObeys.reach_inv (I := fun s => s.Deaf ∧ s.Still) ?_ ⟨hd, hs⟩ hq hrun
    intro s e s' h hq hstep
    exact ⟨step_deaf s e s' h.1 hstep, step_still s e s' h.1 h.2 hq hstep⟩
  exact ⟨(h.2.1 j).tcProp, (h.2.1 j).tcWhile⟩

end

/-- A switch with one port of the CIST, on which a message with the flag of a change has come in. -/
def flagged : TopoSwitch (Fin 1) :=
  { bridge := { newRoot 15 with
      ports := fun _ =>
        { freshTransPort with port := { freshXstPort with msgBpduType := BPDU_RSTP, msgFlags := 0x01 } } }
    rootTimes := zeroTimes
    topoch := fun _ => .BEGIN }

/-- The message is received, and the port gets its role. -/
def flaggedRun : List (TopoEvent (Fin 1)) :=
  let up : TransPort := { freshTransPort with
    operEdge := true
    port := { freshXstPort with role := .DesignatedPort, forward := true } }
  let k := Fin.last 0
  [.init k, .receive k [freshTransPort], .run k 5, .other { newRoot 15 with ports := fun _ => up } zeroTimes,
    .run k 5]

theorem flag_lost : ∃ s', tryRun step flagged flaggedRun = some s' ∧
    (s'.bridge.ports 0).rcvdTc = false ∧ (s'.bridge.ports 0).tcProp = false ∧
    (stpReceiveSetTcFlags (flagged.bridge.ports 0) [freshTransPort]).2 =
      [{ freshTransPort with rcvdTc := true }] := by
  obtain ⟨s', hs'⟩ := Option.isSome_iff_exists.mp
    (by decide +kernel : (tryRun step flagged flaggedRun).isSome)
  have h := tc_flags_lost flagged s' flaggedRun (fun _ => ⟨rfl, rfl⟩)
    ⟨fun _ => ⟨rfl, rfl, rfl⟩, fun _ h => by cases h⟩ hs'
  exact ⟨s', hs', h.1 0, (h.2 (by decide +kernel) 0).1, rfl⟩

end TopoSwitch

end Stp
end DaemonGroup
