import DaemonGroup.Pppoe.Defs
import Mathlib.Data.List.Basic

/-!
# DaemonGroup.Pppoe.Session

`pppoe_session.c`: the timers and the registered operations of a session, and the three indexes of
the session table (by session id, by client address, and the list of all sessions).
-/

namespace DaemonGroup
namespace Pppoe

/-! ## Termination cause -/

def sessionTermcauseSetup (cause : Nat) : M Unit :=
  update fun s => if s.terminate_cause = 0 then { s with terminate_cause := cause } else s

/-! ## Timers -/

def Session.timer (s : Session) : SessionTimerType → Timer
  | .TIMEOUT => s.timeout
  | .ECHO => s.echo
  | .RETRANS => s.retrans
  | .UPDATE => s.update

def Session.setTimer (s : Session) (v : Timer) : SessionTimerType → Session
  | .TIMEOUT => { s with timeout := v }
  | .ECHO => { s with echo := v }
  | .RETRANS => { s with retrans := v }
  | .UPDATE => { s with update := v }

def sessionTimerInit (e : Env) (t : SessionTimerType) : M Int := do
  if (← get).sess.timer t ≠ .none then
    return PPPOEERR_EEXIST
  if e.fail (.timer t) then
    return PPPOEERR_ENOMEM
  update fun s => s.setTimer .armed t
  return PPPOEERR_SUCCESS

def sessionTimerUpdate (t : SessionTimerType) : M Int := do
  if (← get).sess.timer t = .none then
    return PPPOEERR_ENOEXIST
  update fun s => s.setTimer .armed t
  return PPPOEERR_SUCCESS

def sessionTimerPause (t : SessionTimerType) : M Int := do
  if (← get).sess.timer t = .none then
    return PPPOEERR_ENOEXIST
  if (← get).sess.timer t ≠ .armed then
    return PPPOEERR_ESTATE
  update fun s => s.setTimer .paused t
  return PPPOEERR_SUCCESS

def sessionTimerDestroy (t : SessionTimerType) : M Unit :=
  update fun s => s.setTimer .none t

/-- `session_timer_clear`. -/
def Session.timerClear (s : Session) : Session :=
  { s with timeout := .none, echo := .none, retrans := .none, update := .none }

/-! ## Operations -/

/-- `session_opt_perform`: run the operation `f` of a session if it is registered. -/
def sessionOptPerform (o : SessionOptType) (f : M Int) : M Int := do
  if o ∈ (← get).sess.opt then
    f
  else
    return PPPOEERR_ENOEXIST

/-- `session_opt_register`; the operation of a kind is always the same function. -/
def sessionOptRegister (o : SessionOptType) : M Int := do
  if o ∈ (← get).sess.opt then
    return PPPOEERR_EEXIST
  update fun s => { s with opt := o :: s.opt }
  return PPPOEERR_SUCCESS

def sessionOptUnregister (o : SessionOptType) : M Int := do
  if o ∉ (← get).sess.opt then
    return PPPOEERR_ENOEXIST
  update fun s => { s with opt := s.opt.filter (· ≠ o) }
  return PPPOEERR_SUCCESS

/-- The operations registered with the instance when its modules are set up (`manage_setup`,
`discover_setup`, `control_setup`, `radius_setup`); `session_alloc` copies them to the session. -/
def sessionsOpt : List SessionOptType :=
  [.EXIT, .IPAPPLY, .IPRECOVER, .IPREGISTER, .IPUNREGISTER, .ONLINESYNC, .OFFLINESYNC, .UPDATESYNC,
    .DISTREM, .LCPCONFREQ, .LCPECHOREQ, .LCPTERMREQ, .CCPCONFREQ, .IPCPCONFREQ, .AUTHREQ,
    .ACCTSTART, .ACCTSTOP, .ACCTSTOPV2, .ACCTUPDATE]

/-! ## Tables -/

/-- The session tables of `struct pppoe_sessions`, the cache of session records, and the manager's
list of dead sessions. `sess_sid` is the array indexed by session id, extended beyond its end. -/
structure Tables where
  sess_sid : Nat → Option Addr := fun _ => none
  sess_mac : Nat → List Addr := fun _ => []
  sess_list : List Addr := []
  count : Int := 0
  /-- the records handed out by the cache -/
  cache : List Addr := []
  sess_dead : List Addr := []

abbrev Mem := Addr → Session

def Mem.set (mem : Mem) (a : Addr) (s : Session) : Mem := fun x => if x = a then s else mem x

@[simp] theorem Mem.set_same {mem : Mem} {a : Addr} {s : Session} : mem.set a s a = s := by
  simp [Mem.set]

@[simp] theorem Mem.set_other {mem : Mem} {a b : Addr} {s : Session} (h : b ≠ a) :
    mem.set a s b = mem b := by
  simp [Mem.set, h]

@[simp] theorem Mem.set_set {mem : Mem} {a : Addr} {s s' : Session} :
    (mem.set a s).set a s' = mem.set a s' := by
  funext x
  by_cases h : x = a <;> simp [Mem.set, h]

def sessionMacHash (mac : Mac) : Nat := (mac.b4.toNat * 256 + mac.b5.toNat) &&& 0xffff

def _sessionGetByMac (t : Tables) (mem : Mem) (mac : Mac) : Option Addr :=
  (t.sess_mac (sessionMacHash mac)).find? fun a => (mem a).mac = mac

def _sessionGetBySid (cfg : Config) (t : Tables) (sid : Nat) : Option Addr :=
  if sid > cfg.max_sid then none else t.sess_sid sid

/-- `session_register`, the tables. -/
def Tables.register (t : Tables) (a : Addr) (sid : Nat) (mac : Mac) : Tables :=
  { t with
    sess_mac := fun h => if h = sessionMacHash mac then a :: t.sess_mac h else t.sess_mac h
    sess_sid := fun i => if i = sid then some a else t.sess_sid i
    sess_list := t.sess_list ++ [a]
    count := t.count + 1 }

/-- `session_unregister`, the tables. -/
def Tables.unregister (t : Tables) (a : Addr) (sid : Nat) (mac : Mac) : Tables :=
  { t with
    sess_mac := fun h =>
      if h = sessionMacHash mac then (t.sess_mac h).erase a else t.sess_mac h
    sess_sid := fun i => if i = sid then none else t.sess_sid i
    sess_list := t.sess_list.erase a
    count := t.count - 1 }

/-- `session_alloc_id`: the first free session id, zero if there is none. -/
def sessionAllocId (cfg : Config) (t : Tables) : Nat :=
  ((List.range' 1 cfg.max_sid).find? fun i => t.sess_sid i = none).getD 0

/-- The result of `session_alloc`: the tables (the cache may have handed out a record), the
memory, and the session if there is one. `a` is the record that the cache hands out. -/
structure Alloc where
  tables : Tables
  mem : Mem
  sess : Option Addr

/-- `session_alloc`. When no session id is left, the record taken from the cache is not returned
to it. -/
def sessionAlloc (cfg : Config) (t : Tables) (mem : Mem) (a : Addr) (memFail : Bool)
    (sid : Nat) (mac : Mac) : Alloc :=
  if sid ≠ 0 ∧ (_sessionGetBySid cfg t sid).isSome then
    ⟨t, mem, none⟩
  else if (_sessionGetByMac t mem mac).isSome then
    ⟨t, mem, none⟩
  else if memFail then
    ⟨t, mem, none⟩
  else
    let id := if sid ≠ 0 then sid else sessionAllocId cfg t
    let t' := { t with cache := a :: t.cache }
    if id = 0 then
      ⟨t', mem.set a {}, none⟩
    else
      ⟨t', mem.set a { sid := id, mac := mac, opt := sessionsOpt }, some a⟩

end Pppoe
end DaemonGroup
