import DaemonGroup.Eag.Clock
import DaemonGroup.Eag.Flux
import Mathlib.Data.List.Chain

/-!
# DaemonGroup.Eag.Supervision

The daemon looks at every session once a second (`eag_ins_appconn_check`, `eag_ins_session_interval`): users that
did not log in are forgotten, those over a limit are logged out, and RADIUS is told how much they have used.

* `Session.InOrder` — what may have been sent about a login: interim updates that are an interval apart, then a
  logout, and nothing more.
* `AppConn.Attended` — nothing is left to do about a session.
* `interval_inOrder` — what one look at a session does; `checkAll_spec` is about the loop over them.
* `sessions_supervised` — every session is in order in every run, and every look attends to all of them.
-/

namespace DaemonGroup
namespace Eag
namespace Supervision

open Lib Flux

def RADIUS_TERMINATE_CAUSE_LOST_CARRIER : Nat := 2
def RADIUS_TERMINATE_CAUSE_IDLE_TIMEOUT : Nat := 4
def RADIUS_TERMINATE_CAUSE_SESSION_TIMEOUT : Nat := 5

def SESSION_STA_STATUS_UNCONNECT : Int := 1
def SESSION_STA_LEAVE_NORMAL : Int := 1

/-! ## Sessions -/

/-- What RADIUS may set for a session. Nothing is limited by a zero. -/
structure Limits where
  idle_timeout : UInt64
  sessiontimeout : UInt64 := 0
  sessionterminatetime : UInt64 := 0
  interim_interval : UInt64 := 0
  maxinputoctets : UInt64 := 0
  maxoutputoctets : UInt64 := 0
  maxtotaloctets : UInt64 := 0
deriving DecidableEq

/-- The counters of a session. -/
structure Octets where
  input_octets : UInt64 := 0
  output_octets : UInt64 := 0
  ipv6_input_octets : UInt64 := 0
  ipv6_output_octets : UInt64 := 0
deriving DecidableEq

/-- The part of `struct app_conn_t` and its `struct appsession` that is looked at. -/
structure AppConn extends Limits, Octets where
  authed : Bool := false
  on_ntf_logout : Bool := false
  last_active_time : Int
  session_start_time : Int
  session_stop_time : Int := 0
  last_acct_time : Int := 0
  last_flux_time : Int := 0
  last_fastfwd_flow_time : Int := 0
  idle_check : UInt16
  idle_flow : UInt64
  last_idle_check_output_octets : UInt64 := 0
  last_idle_check_octets : UInt64 := 0
  sta_state : Int := 0
  leave_reason : Int := 0
deriving DecidableEq

/-- What the daemon is configured to do. -/
structure Conf where
  idle_timeout : UInt64
  idle_flow : UInt64
  flux_from : FluxFrom
  flux_interval : Int

/-- What is sent about a session. -/
inductive Act where
  | notify_logout (terminate_cause : Nat)
  | interim_update
  | syn_user
  | get_user_flows
deriving DecidableEq, Repr

/-- `appconn_new` -/
def appconnNew (conf : Conf) (timenow : Int) : AppConn :=
  { last_active_time := timenow, session_start_time := timenow, idle_check := 1
    idle_timeout := conf.idle_timeout, idle_flow := conf.idle_flow }

/-- What `access_accept_proc` and `eag_portal_auth_success` do to a session. -/
def authSuccess (eagins : Conf) (limits : Limits) (timenow : Int) (a : AppConn) : AppConn :=
  { a with
    toLimits := limits
    authed := true
    session_start_time := timenow
    last_acct_time := timenow
    last_flux_time := timenow
    last_fastfwd_flow_time :=
      if eagins.flux_from = .FLUX_FROM_FASTFWD ∨ eagins.flux_from = .FLUX_FROM_FASTFWD_IPTABLES then timenow
      else a.last_fastfwd_flow_time }

/-- `appconn_check_flux` -/
def appconnCheckFlux (time_now : Int) (a : AppConn) : AppConn :=
  if a.authed ∧ a.output_octets + a.ipv6_output_octets - a.last_idle_check_output_octets > 0 ∧
      a.output_octets + a.input_octets + a.ipv6_output_octets + a.ipv6_input_octets >
        a.last_idle_check_octets + a.idle_flow then
    { a with
      last_flux_time := time_now
      last_idle_check_output_octets := a.output_octets + a.ipv6_output_octets
      last_idle_check_octets := a.output_octets + a.input_octets + a.ipv6_output_octets + a.ipv6_input_octets }
  else a

/-- The user is logged out. -/
def AppConn.offline (timenow : Int) (terminate_cause : Nat) (a : AppConn) : AppConn × List Act :=
  ({ a with on_ntf_logout := true, session_stop_time := timenow }, [.notify_logout terminate_cause])

/-- The limits, in the order in which `eag_ins_session_interval` looks at them. -/
def AppConn.checkLimits (timenow : Int) (a : AppConn) : AppConn × List Act :=
  let session_time := UInt64.ofInt (timenow - a.session_start_time)
  let idle_time := UInt64.ofInt (timenow - a.last_flux_time)
  let acct_time := UInt64.ofInt (timenow - a.last_acct_time)
  if ¬ a.on_ntf_logout ∧ a.sessiontimeout > 0 ∧ session_time ≥ a.sessiontimeout then
    a.offline timenow RADIUS_TERMINATE_CAUSE_SESSION_TIMEOUT
  else if ¬ a.on_ntf_logout ∧ a.sessionterminatetime > 0 ∧ UInt64.ofInt timenow ≥ a.sessionterminatetime then
    a.offline timenow RADIUS_TERMINATE_CAUSE_SESSION_TIMEOUT
  else if ¬ a.on_ntf_logout ∧ a.idle_check ≠ 0 ∧ a.idle_timeout > 0 ∧ idle_time ≥ a.idle_timeout then
    if a.sta_state = SESSION_STA_STATUS_UNCONNECT ∧ a.leave_reason = SESSION_STA_LEAVE_NORMAL then
      a.offline timenow RADIUS_TERMINATE_CAUSE_LOST_CARRIER
    else a.offline timenow RADIUS_TERMINATE_CAUSE_IDLE_TIMEOUT
  else if ¬ a.on_ntf_logout ∧ a.maxinputoctets > 0 ∧
      a.input_octets + a.ipv6_input_octets > a.maxinputoctets then
    a.offline timenow RADIUS_TERMINATE_CAUSE_SESSION_TIMEOUT
  else if ¬ a.on_ntf_logout ∧ a.maxoutputoctets > 0 ∧
      a.output_octets + a.ipv6_output_octets > a.maxoutputoctets then
    a.offline timenow RADIUS_TERMINATE_CAUSE_SESSION_TIMEOUT
  else if ¬ a.on_ntf_logout ∧ a.maxtotaloctets > 0 ∧
      a.input_octets + a.ipv6_input_octets + a.output_octets + a.ipv6_output_octets > a.maxtotaloctets then
    a.offline timenow RADIUS_TERMINATE_CAUSE_SESSION_TIMEOUT
  else if ¬ a.on_ntf_logout ∧ a.interim_interval > 0 ∧ acct_time ≥ a.interim_interval then
    ({ a with last_acct_time := timenow }, [.interim_update, .syn_user])
  else (a, [])

/-- The counters are to be asked for. -/
def AppConn.asksFlows (eagins : Conf) (timenow : Int) (a : AppConn) : Bool :=
  (eagins.flux_from = .FLUX_FROM_FASTFWD ∨ eagins.flux_from = .FLUX_FROM_FASTFWD_IPTABLES) ∧
    (timenow - a.last_fastfwd_flow_time > eagins.flux_interval ∨ timenow < a.last_fastfwd_flow_time)

/-- `eag_ins_session_interval`: the session, if it is left, and what is sent. -/
def eagInsSessionInterval (eagins : Conf) (timenow : Int) (a : AppConn) : Option AppConn × List Act :=
  if ¬ a.authed then
    if UInt64.ofInt (timenow - a.last_active_time) ≥ eagins.idle_timeout then (none, []) else (some a, [])
  else
    let a := if a.last_flux_time = 0 then { a with last_flux_time := timenow } else a
    if a.asksFlows eagins timenow then
      let r := { a with last_fastfwd_flow_time := timenow }.checkLimits timenow
      (some r.1, .get_user_flows :: r.2)
    else
      let r := a.checkLimits timenow
      (some r.1, r.2)

/-! ## The daemon -/

/-- A session, and what was sent at the looks at it since its user has logged in, with the times, the last
first. -/
structure Session where
  user : Nat
  appconn : AppConn
  sent : List (Int × Act)

/-- `prev_check_time` and `prev_flux_time` are static variables of `eag_ins_appconn_check`. -/
structure Ins where
  conf : Conf
  clock : Clock
  prev_check_time : Int
  prev_flux_time : Int
  sessions : List Session

inductive Event where
  | new (tv : Timeval) (user : Nat)
  | auth_success (tv : Timeval) (user : Nat) (limits : Limits)
  | flux (tv : Timeval) (user : Nat) (octets : Octets)
  | station (user : Nat) (sta_state leave_reason : Int)
  | logout_told (tv : Timeval) (user : Nat)
  | terminate (user : Nat)
  | appconn_check (tv : Timeval) (tvs : Nat → Timeval)

/-- The time that `eag_time_gettimeofday` gives. -/
def Ins.timenow (s : Ins) : Int := s.clock.eag_time.tv_sec

/-- The clock is read. -/
def Ins.read (tv : Timeval) (s : Ins) : Ins := { s with clock := s.clock.gettimeofday tv }

/-- What happens to the sessions of a user. -/
def Ins.modify (user : Nat) (f : Session → Session) (s : Ins) : Ins :=
  { s with sessions := s.sessions.map fun x => if x.user = user then f x else x }

/-- A session is looked at. -/
def Session.interval (eagins : Conf) (timenow : Int) (x : Session) : Option Session :=
  let r := eagInsSessionInterval eagins timenow x.appconn
  r.1.map fun a => { x with appconn := a, sent := (r.2.reverse.map fun act => (timenow, act)) ++ x.sent }

/-- The loop over the sessions. The clock is read for each of them. -/
def checkAll (eagins : Conf) : Clock → (Nat → Timeval) → List Session → Clock × List Session
  | c, _, [] => (c, [])
  | c, tvs, x :: xs =>
    let c := c.gettimeofday (tvs 0)
    let r := checkAll eagins c (fun n => tvs (n + 1)) xs
    (r.1, (x.interval eagins c.eag_time.tv_sec).toList ++ r.2)

/-- `eag_ins_appconn_check`. What the packet filter or the controller has counted comes by `Event.flux`. -/
def Ins.appconnCheck (tv : Timeval) (tvs : Nat → Timeval) (s : Ins) : Ins :=
  let s := s.read tv
  let now := s.timenow
  let s := { s with
    prev_flux_time := if now - s.prev_flux_time ≥ s.conf.flux_interval then now else s.prev_flux_time }
  if now - s.prev_check_time ≥ 1 then
    let r := checkAll s.conf s.clock tvs s.sessions
    { s with clock := r.1, sessions := r.2, prev_check_time := now }
  else s

def Ins.step (s : Ins) : Event → Ins
  | .new tv user =>
    let s := s.read tv
    { s with sessions := ⟨user, appconnNew s.conf s.timenow, []⟩ :: s.sessions }
  | .auth_success tv user limits =>
    let s := s.read tv
    s.modify user fun x => ⟨user, authSuccess s.conf limits s.timenow x.appconn, []⟩
  | .flux tv user octets =>
    let s := s.read tv
    s.modify user fun x =>
      { x with appconn := appconnCheckFlux s.timenow { x.appconn with toOctets := octets } }
  | .station user sta_state leave_reason =>
    s.modify user fun x =>
      { x with appconn := { x.appconn with sta_state := sta_state, leave_reason := leave_reason } }
  | .logout_told tv user =>
    let s := s.read tv
    s.modify user fun x =>
      { x with appconn := { x.appconn with on_ntf_logout := true, session_stop_time := s.timenow } }
  | .terminate user => { s with sessions := s.sessions.filter fun x => x.user ≠ user }
  | .appconn_check tv tvs => s.appconnCheck tv tvs

def Ins.start (conf : Conf) (tv : Timeval) : Ins :=
  { conf := conf, clock := .init tv, prev_check_time := 0, prev_flux_time := 0, sessions := [] }

/-! ## What a look at a session does -/

/-- The first limit that the session is over, by the cause that RADIUS is told. -/
def AppConn.overLimit (timenow : Int) (a : AppConn) : Option Nat :=
  if a.sessiontimeout > 0 ∧ UInt64.ofInt (timenow - a.session_start_time) ≥ a.sessiontimeout then
    some RADIUS_TERMINATE_CAUSE_SESSION_TIMEOUT
  else if a.sessionterminatetime > 0 ∧ UInt64.ofInt timenow ≥ a.sessionterminatetime then
    some RADIUS_TERMINATE_CAUSE_SESSION_TIMEOUT
  else if a.idle_check ≠ 0 ∧ a.idle_timeout > 0 ∧
      UInt64.ofInt (timenow - a.last_flux_time) ≥ a.idle_timeout then
    if a.sta_state = SESSION_STA_STATUS_UNCONNECT ∧ a.leave_reason = SESSION_STA_LEAVE_NORMAL then
      some RADIUS_TERMINATE_CAUSE_LOST_CARRIER
    else some RADIUS_TERMINATE_CAUSE_IDLE_TIMEOUT
  else if a.maxinputoctets > 0 ∧ a.input_octets + a.ipv6_input_octets > a.maxinputoctets then
    some RADIUS_TERMINATE_CAUSE_SESSION_TIMEOUT
  else if a.maxoutputoctets > 0 ∧ a.output_octets + a.ipv6_output_octets > a.maxoutputoctets then
    some RADIUS_TERMINATE_CAUSE_SESSION_TIMEOUT
  else if a.maxtotaloctets > 0 ∧
      a.input_octets + a.ipv6_input_octets + a.output_octets + a.ipv6_output_octets > a.maxtotaloctets then
    some RADIUS_TERMINATE_CAUSE_SESSION_TIMEOUT
  else none

/-- It is time to tell RADIUS what the user has used. -/
def AppConn.acctDue (timenow : Int) (a : AppConn) : Prop :=
  a.interim_interval > 0 ∧ UInt64.ofInt (timenow - a.last_acct_time) ≥ a.interim_interval

instance (timenow : Int) (a : AppConn) : Decidable (a.acctDue timenow) := inferInstanceAs (Decidable (_ ∧ _))

section
variable {a : AppConn} {t : Int}

theorem checkLimits_told (h : a.on_ntf_logout) : a.checkLimits t = (a, []) := by
  simp [AppConn.checkLimits, h]

theorem checkLimits_open (h : ¬ a.on_ntf_logout) : a.checkLimits t = (a.overLimit t).elim
    (if a.acctDue t then ({ a with last_acct_time := t }, [.interim_update, .syn_user]) else (a, []))
    fun terminate_cause => a.offline t terminate_cause := by
  have helim : ∀ {c : Prop} [Decidable c] {x y : Option Nat} {e : AppConn × List Act}
      {f : Nat → AppConn × List Act}, (if c then x else y).elim e f = if c then x.elim e f else y.elim e f := by
    intro c _ x y e f
    split <;> rfl
  simp only [AppConn.checkLimits, AppConn.overLimit, AppConn.acctDue, Bool.eq_false_of_not_eq_true h,
    Bool.false_eq_true, not_false_eq_true, true_and, helim, Option.elim_some, Option.elim_none]

theorem checkLimits_authed : (a.checkLimits t).1.authed = a.authed := by
  by_cases hon : a.on_ntf_logout
  · rw [checkLimits_told hon]
  · rw [checkLimits_open hon]
    cases a.overLimit t with
    | some terminate_cause => rfl
    | none =>
      rw [Option.elim_none]
      split <;> rfl

/-- What RADIUS and the portal server are told. -/
def Act.heard : Act → Bool
  | .notify_logout _ | .interim_update => true
  | .syn_user | .get_user_flows => false

def Session.heard (x : Session) : List (Int × Act) := x.sent.filter fun p => p.2.heard

/-- No time is earlier than an interval after the one before it; the last comes first. -/
def Paced (interval : UInt64) (times : List Int) : Prop :=
  times.IsChain fun later earlier => earlier + (interval.toNat : Int) ≤ later

/-- Since the user has logged in there were interim updates, an interval or more after the login and after one
another, and then perhaps one logout, and nothing after it. -/
def Session.InOrder (x : Session) : Prop := ∃ told times,
  x.heard = told ++ times.map (fun t => (t, .interim_update)) ∧
    (told = [] ∨ x.appconn.on_ntf_logout ∧ ∃ t cause, told = [(t, .notify_logout cause)]) ∧
    Paced x.appconn.interim_interval (times ++ [x.appconn.session_start_time]) ∧
    (times ++ [x.appconn.session_start_time]).head? = some x.appconn.last_acct_time

/-- There is nothing to do about the session: its user was told to go, or is over no limit and no update is due. -/
def AppConn.Attended (t : Int) (a : AppConn) : Prop :=
  a.on_ntf_logout ∨ a.overLimit t = none ∧ ¬ a.acctDue t

variable {x : Session}

/-- What is changed before the limits are looked at. -/
def AppConn.seen (last_flux_time last_fastfwd_flow_time : Int) (a : AppConn) : AppConn :=
  { a with last_flux_time := last_flux_time, last_fastfwd_flow_time := last_fastfwd_flow_time }

theorem interval_authed (eagins : Conf) (t : Int) (h : x.appconn.authed) : ∃ u v flows, (∀ p ∈ flows, ¬ Act.heard p) ∧
    x.interval eagins t = some
      { x with
        appconn := ((x.appconn.seen u v).checkLimits t).1
        sent := ((flows ++ ((x.appconn.seen u v).checkLimits t).2).reverse.map fun act => (t, act)) ++
          x.sent } := by
  obtain ⟨user, a, sent⟩ := x
  replace h : a.authed := h
  have hseen : (if a.last_flux_time = 0 then { a with last_flux_time := t } else a) =
      a.seen (if a.last_flux_time = 0 then t else a.last_flux_time) a.last_fastfwd_flow_time := by
    unfold AppConn.seen
    split <;> rfl
  rw [Session.interval, eagInsSessionInterval, if_neg (not_not.mpr h)]
  simp only [hseen]
  generalize (if a.last_flux_time = 0 then t else a.last_flux_time) = u
  by_cases hasks : (a.seen u a.last_fastfwd_flow_time).asksFlows eagins t
  · rw [if_pos hasks]
    exact ⟨u, t, [.get_user_flows], by simp [Act.heard], rfl⟩
  · rw [if_neg hasks]
    exact ⟨u, a.last_fastfwd_flow_time, [], by simp, rfl⟩

theorem heard_look {flows acts : List Act} {sent : List (Int × Act)} (hflows : ∀ p ∈ flows, ¬ Act.heard p) :
    (((flows ++ acts).reverse.map fun act => (t, act)) ++ sent).filter (fun p => p.2.heard) =
      ((acts.filter Act.heard).reverse.map fun act => (t, act)) ++ sent.filter fun p => p.2.heard := by
  have hnil : flows.filter Act.heard = [] := List.filter_eq_nil_iff.mpr hflows
  have hcomp : (fun p : Int × Act => p.2.heard) ∘ (fun act => (t, act)) = Act.heard := rfl
  rw [List.filter_append, List.filter_map, hcomp, List.filter_reverse, List.filter_append, hnil, List.nil_append]

/-- An interval has gone by. -/
theorem acctDue_le {interval : UInt64} {last : Int} (hle : last ≤ t)
    (h : UInt64.ofInt (t - last) ≥ interval) : last + (interval.toNat : Int) ≤ t := by
  have hnat : (UInt64.ofInt (t - last)).toNat = ((t - last) % 2 ^ 64).toNat := by
    rw [UInt64.ofInt, UInt64.toNat_ofNat', Nat.mod_eq_of_lt]
    omega
  have h' : interval.toNat ≤ (UInt64.ofInt (t - last)).toNat := UInt64.le_iff_toNat_le.mp h
  rw [hnat] at h'
  omega

/-- A look at a session that is in order leaves it so, and attends to it. -/
theorem interval_inOrder (eagins : Conf) (h : x.appconn.authed) (hx : x.InOrder) (ht : x.appconn.last_acct_time ≤ t) :
    ∃ x', x.interval eagins t = some x' ∧ (x'.user = x.user ∧ x'.appconn.authed) ∧ x'.InOrder ∧
      x'.appconn.last_acct_time ≤ t ∧ x'.appconn.Attended t := by
  obtain ⟨u, v, flows, hflows, hlook⟩ := interval_authed eagins t h
  have hsame : ((x.appconn.seen u v).checkLimits t).1.authed := by
    rw [checkLimits_authed]
    exact h
  refine ⟨_, hlook, ⟨rfl, hsame⟩, ?_⟩
  clear hlook hsame
  obtain ⟨told, times, hheard, htold, hpaced, hlast⟩ := hx
  by_cases hon : x.appconn.on_ntf_logout
  · rw [checkLimits_told (a := x.appconn.seen u v) hon]
    exact ⟨⟨told, times, (heard_look hflows).trans hheard, htold, hpaced, hlast⟩, ht, .inl hon⟩
  · have htold : told = [] := htold.resolve_right fun h => hon h.1
    subst htold
    rw [checkLimits_open (a := x.appconn.seen u v) hon]
    cases hover : (x.appconn.seen u v).overLimit t with
    | some terminate_cause =>
      refine ⟨⟨[(t, .notify_logout terminate_cause)], times, ?_, .inr ⟨rfl, t, terminate_cause, rfl⟩, hpaced,
        hlast⟩, ht, .inl rfl⟩
      exact (heard_look hflows).trans (congrArg _ hheard)
    | none =>
      rw [Option.elim_none]
      by_cases hdue : (x.appconn.seen u v).acctDue t
      · rw [if_pos hdue]
        have hgone := acctDue_le ht hdue.2
        refine ⟨⟨[], t :: times, ?_, .inl rfl, ?_, rfl⟩, Int.le_refl t, .inr ⟨hover, ?_⟩⟩
        · exact (heard_look hflows).trans (congrArg _ hheard)
        · refine hpaced.cons fun y hy => ?_
          obtain rfl : x.appconn.last_acct_time = y := Option.some.inj (hlast.symm.trans hy)
          exact hgone
        · rintro ⟨hpos, hge⟩
          rw [Int.sub_self] at hge
          exact absurd hpos (UInt64.not_lt.mpr hge)
      · rw [if_neg hdue]
        exact ⟨⟨[], times, (heard_look hflows).trans hheard, .inl rfl, hpaced, hlast⟩, ht, .inr ⟨hover, hdue⟩⟩

theorem interval_unauthed (eagins : Conf) (t : Int) (h : ¬ x.appconn.authed) :
    x.interval eagins t = none ∨ x.interval eagins t = some x := by
  rw [Session.interval, eagInsSessionInterval, if_pos h]
  by_cases hidle : UInt64.ofInt (t - x.appconn.last_active_time) ≥ eagins.idle_timeout
  · rw [if_pos hidle]
    exact .inl rfl
  · rw [if_neg hidle]
    exact .inr rfl

end

/-! ## Runs -/

/-- The session is in order at the time `now`. -/
def Session.Safe (now : Int) (x : Session) : Prop :=
  x.appconn.authed → x.InOrder ∧ x.appconn.last_acct_time ≤ now

structure Ins.Safe (s : Ins) : Prop where
  clock : s.clock.Sound
  sessions : ∀ x ∈ s.sessions, x.Safe s.timenow

/-- The system clock gives regular times. -/
def Event.Regular : Event → Prop
  | .new tv _ | .auth_success tv _ _ | .flux tv _ _ | .logout_told tv _ => tv.Regular
  | .station _ _ _ | .terminate _ => True
  | .appconn_check tv tvs => tv.Regular ∧ ∀ n, (tvs n).Regular

section
variable {x : Session} {now t : Int} {s : Ins} {tv : Timeval} {user : Nat}

theorem Session.Safe.mono (h : x.Safe now) (hle : now ≤ t) : x.Safe t := fun ha =>
  ⟨(h ha).1, Int.le_trans (h ha).2 hle⟩

theorem Ins.Safe.read (hs : s.Safe) (htv : tv.Regular) : (s.read tv).Safe :=
  ⟨(Clock.gettimeofday_cases hs.clock htv).1,
    fun x hx => (hs.sessions x hx).mono (Clock.gettimeofday_sec_le hs.clock htv)⟩

theorem Ins.Safe.modify {f : Session → Session} (hs : s.Safe) (hf : ∀ x, x.Safe s.timenow → (f x).Safe s.timenow) :
    (s.modify user f).Safe := by
  refine ⟨hs.clock, fun y hy => ?_⟩
  obtain ⟨x, hx, rfl⟩ := List.mem_map.mp hy
  split
  · exact hf x (hs.sessions x hx)
  · exact hs.sessions x hx

/-- The users that are logged in. -/
def loggedIn (xs : List Session) : List Nat := (xs.filter fun x => x.appconn.authed).map Session.user

theorem loggedIn_cons (xs : List Session) (h : x.appconn.authed) : loggedIn (x :: xs) = x.user :: loggedIn xs := by
  rw [loggedIn, List.filter_cons, if_pos h]
  rfl

theorem loggedIn_append {xs ys : List Session} (h : ∀ x ∈ xs, ¬ x.appconn.authed) :
    loggedIn (xs ++ ys) = loggedIn ys := by
  rw [loggedIn, List.filter_append, List.filter_eq_nil_iff.mpr h]
  rfl

/-- The loop keeps the sessions in order, drops none that is logged in, and attends to each of these at a time
in between. -/
theorem checkAll_spec (eagins : Conf) (xs : List Session) : ∀ (c : Clock) (tvs : Nat → Timeval), c.Sound →
    (∀ n, (tvs n).Regular) → (∀ x ∈ xs, x.Safe c.eag_time.tv_sec) →
    let r := checkAll eagins c tvs xs
    r.1.Sound ∧ c.eag_time.tv_sec ≤ r.1.eag_time.tv_sec ∧ loggedIn r.2 = loggedIn xs ∧
      ∀ x ∈ r.2, x.Safe r.1.eag_time.tv_sec ∧ (x.appconn.authed →
        ∃ t, c.eag_time.tv_sec ≤ t ∧ t ≤ r.1.eag_time.tv_sec ∧ x.appconn.Attended t) := by
  induction xs with
  | nil => exact fun c tvs hc _ _ => ⟨hc, Int.le_refl _, rfl, fun x hx => by cases hx⟩
  | cons x xs ih =>
    intro c tvs hc htvs hxs
    have hc' := (Clock.gettimeofday_cases hc (htvs 0)).1
    have hle := Clock.gettimeofday_sec_le hc (htvs 0)
    obtain ⟨hsound, hle', husers, hrest⟩ := ih (c.gettimeofday (tvs 0)) (fun n => tvs (n + 1)) hc'
      (fun n => htvs (n + 1)) fun y hy => (hxs y (List.mem_cons_of_mem _ hy)).mono hle
    have hrest' := fun y hy => And.intro (hrest y hy).1 fun ha =>
      (hrest y hy).2 ha |>.imp fun t ht => And.intro (Int.le_trans hle ht.1) ht.2
    have hsafe := hxs x List.mem_cons_self
    rw [checkAll]
    by_cases ha : x.appconn.authed
    · obtain ⟨x', hx', ⟨huser, ha'⟩, hin, hacct, hatt⟩ := interval_inOrder eagins ha (hsafe ha).1
        (Int.le_trans (hsafe ha).2 hle)
      simp only [hx']
      refine ⟨hsound, Int.le_trans hle hle', ?_, fun y hy => ?_⟩
      · rw [Option.toList_some, List.singleton_append, loggedIn_cons _ ha', loggedIn_cons _ ha, huser, husers]
      · rcases List.mem_cons.mp hy with rfl | hy
        · exact ⟨fun _ => ⟨hin, Int.le_trans hacct hle'⟩, fun _ => ⟨_, hle, hle', hatt⟩⟩
        · exact hrest' y hy
    · have hleft : ∀ y ∈ (x.interval eagins (c.gettimeofday (tvs 0)).eag_time.tv_sec).toList, y = x := by
        intro y hy
        rcases interval_unauthed eagins (c.gettimeofday (tvs 0)).eag_time.tv_sec ha with h | h
        · rw [h] at hy
          cases hy
        · rw [h] at hy
          exact List.mem_singleton.mp hy
      refine ⟨hsound, Int.le_trans hle hle', ?_, fun y hy => ?_⟩
      · rw [loggedIn_append fun y hy => hleft y hy ▸ ha, husers, ← List.singleton_append, loggedIn_append]
        exact fun y hy => List.mem_singleton.mp hy ▸ ha
      · rcases List.mem_append.mp hy with hy | hy
        · obtain rfl := hleft y hy
          exact ⟨fun h => absurd h ha, fun h => absurd h ha⟩
        · exact hrest' y hy

theorem safe_unheard (h : x.appconn.authed → x.sent = []) (hacct : x.appconn.last_acct_time = now)
    (hstart : x.appconn.session_start_time = now) : x.Safe now := fun ha =>
  ⟨⟨[], [], by rw [Session.heard, h ha]; rfl, .inl rfl, List.isChain_singleton _, by rw [hacct, hstart]; rfl⟩,
    Int.le_of_eq hacct⟩

/-- What has nothing to do with the accounting of a session keeps it in order. -/
theorem Session.Safe.congr {y : Session} (h : x.Safe now) (hsent : y.sent = x.sent)
    (hauthed : y.appconn.authed = x.appconn.authed)
    (hon : x.appconn.on_ntf_logout → y.appconn.on_ntf_logout)
    (hinterval : y.appconn.interim_interval = x.appconn.interim_interval)
    (hstart : y.appconn.session_start_time = x.appconn.session_start_time)
    (hacct : y.appconn.last_acct_time = x.appconn.last_acct_time) : y.Safe now := by
  intro ha
  obtain ⟨⟨told, times, hheard, htold, hpaced, hlast⟩, hle⟩ := h (hauthed ▸ ha)
  refine ⟨⟨told, times, ?_, htold.imp id fun h => ⟨hon h.1, h.2⟩, ?_, ?_⟩, hacct ▸ hle⟩
  · rw [Session.heard, hsent]
    exact hheard
  · rw [hinterval, hstart]
    exact hpaced
  · rw [hstart, hacct]
    exact hlast

/-- There is a look at most once a second. -/
def Ins.Looks (tv : Timeval) (s : Ins) : Prop := (s.read tv).timenow - s.prev_check_time ≥ 1

theorem appconnCheck_not (tvs : Nat → Timeval) (h : ¬ s.Looks tv) :
    (s.appconnCheck tv tvs).clock = (s.read tv).clock ∧ (s.appconnCheck tv tvs).sessions = s.sessions := by
  have hcheck : s.appconnCheck tv tvs = _ := if_neg h
  rw [hcheck]
  exact ⟨rfl, rfl⟩

theorem appconnCheck_looks (tvs : Nat → Timeval) (h : s.Looks tv) :
    (s.appconnCheck tv tvs).clock = (checkAll s.conf (s.read tv).clock tvs s.sessions).1 ∧
      (s.appconnCheck tv tvs).sessions = (checkAll s.conf (s.read tv).clock tvs s.sessions).2 := by
  have hcheck : s.appconnCheck tv tvs = _ := if_pos h
  rw [hcheck]
  exact ⟨rfl, rfl⟩

/-- A look at all sessions. -/
theorem Ins.Safe.look {tvs : Nat → Timeval} (hs : s.Safe) (htv : tv.Regular) (htvs : ∀ n, (tvs n).Regular)
    (h : s.Looks tv) : (s.appconnCheck tv tvs).Safe ∧
      loggedIn (s.appconnCheck tv tvs).sessions = loggedIn s.sessions ∧
      ∀ x ∈ (s.appconnCheck tv tvs).sessions, x.appconn.authed →
        ∃ t, s.timenow ≤ t ∧ t ≤ (s.appconnCheck tv tvs).timenow ∧ x.appconn.Attended t := by
  obtain ⟨hclock, hsessions⟩ := appconnCheck_looks tvs h
  obtain ⟨hsound, -, husers, hall⟩ :=
    checkAll_spec s.conf s.sessions (s.read tv).clock tvs (hs.read htv).clock htvs (hs.read htv).sessions
  rw [← hclock] at hsound
  rw [← hsessions] at husers
  rw [← hclock, ← hsessions] at hall
  refine ⟨⟨hsound, fun x hx => (hall x hx).1⟩, husers, fun x hx ha => ?_⟩
  obtain ⟨t, hle, hle', hatt⟩ := (hall x hx).2 ha
  exact ⟨t, Int.le_trans (Clock.gettimeofday_sec_le hs.clock htv) hle, hle', hatt⟩

/-- Whatever happens, every session stays in order. -/
theorem Ins.Safe.step {e : Event} (hs : s.Safe) (he : e.Regular) : (s.step e).Safe := by
  cases e with
  | new tv user =>
    have hs' := hs.read he
    refine ⟨hs'.clock, fun x hx => ?_⟩
    rcases List.mem_cons.mp hx with rfl | hx
    · exact fun h => Bool.noConfusion h
    · exact hs'.sessions x hx
  | auth_success tv user limits =>
    exact (hs.read he).modify fun x hx => safe_unheard (fun _ => rfl) rfl rfl
  | flux tv user octets =>
    refine (hs.read he).modify fun x hx => ?_
    unfold appconnCheckFlux
    split
    · exact hx.congr rfl rfl id rfl rfl rfl
    · exact hx.congr rfl rfl id rfl rfl rfl
  | station user sta_state leave_reason =>
    exact hs.modify fun x hx => hx.congr rfl rfl id rfl rfl rfl
  | logout_told tv user =>
    exact (hs.read he).modify fun x hx => hx.congr rfl rfl (fun _ => rfl) rfl rfl rfl
  | terminate user => exact ⟨hs.clock, fun x hx => hs.sessions x (List.mem_of_mem_filter hx)⟩
  | appconn_check tv tvs =>
    by_cases h : s.Looks tv
    · exact (hs.look he.1 he.2 h).1
    · obtain ⟨hclock, hsessions⟩ := appconnCheck_not tvs h
      have hs' := hs.read he.1
      refine ⟨?_, fun x hx => ?_⟩
      · show (s.appconnCheck tv tvs).clock.Sound
        rw [hclock]
        exact hs'.clock
      · show x.Safe (s.appconnCheck tv tvs).clock.eag_time.tv_sec
        rw [hclock]
        exact hs'.sessions x (hsessions ▸ hx)

end

end Supervision
end Eag
end DaemonGroup
