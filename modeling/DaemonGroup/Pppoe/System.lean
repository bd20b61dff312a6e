import DaemonGroup.Lib.Run
import DaemonGroup.Pppoe.Control
import DaemonGroup.Pppoe.RadiusReply

/-!
# DaemonGroup.Pppoe.System

The PPPoE instance as an event machine. `World` is the state of its device thread, `step` takes one
event: a frame, a discovery packet, a datagram, a timer that expires, a reply of the kernel, a call
of the management, a message of the backup peer, a change of role.

Everything that happens to one session goes through `World.runOn`: the handler of a `Trigger` runs
on the session and the shared parts, and the session is taken out of the tables if it was ended.
-/

namespace DaemonGroup
namespace Pppoe

/-! ## What can happen to a session -/

inductive Trigger where
  | frame (f : Frame)
  | padt
  /-- the PADS for a session that was just set up does not fit its buffer -/
  | padsRoom
  /-- a timer of the session expires -/
  | timer (t : SessionTimerType)
  | register (errorcode : Int)
  | authorize (ip : UInt32) (errorcode : Int)
  | unauthorize (ip : UInt32)
  | standbyRegister (errorcode : Int)
  | standbyAuthorize (ip : UInt32) (errorcode : Int)
  | reply (p : RadPtr) (d : Datagram)
  | disconnect
  | kick
  | clear
  | clearV2
  | sync
  | wakeup
  | offlineSync
  | updateSync (m : UpdateSync)
deriving DecidableEq, Repr

/-- The function of a timer. -/
def timerFunc (e : Env) : SessionTimerType → M Int
  | .TIMEOUT => sessTimeoutFunc e
  | .ECHO => sessEchoFunc e
  | .RETRANS => radiusSessRetransportFunc e
  | .UPDATE => sessAcctUpdateFunc e

/-- The handler of a trigger; what it returns is not looked at. -/
def handle (e : Env) : Trigger → M Unit
  | .frame f => controlProcess e f
  | .padt => do let _ ← processPADT e
  | .padsRoom => do let _ ← sessionOptPerform .EXIT (sessoptExit e)
  | .timer t => do let _ ← timerFunc e t
  | .register err => do let _ ← processRegister e err
  | .authorize ip err => do let _ ← processAuthorize e ip err
  | .unauthorize ip => do let _ ← processUnauthorize e ip
  | .standbyRegister err => do let _ ← standbyRegister err
  | .standbyAuthorize ip err => do let _ ← standbyAuthorize ip err
  | .reply p d => do let _ ← radiusSockProcess e p d
  | .disconnect => coaSessionDisconnnect e
  | .kick => do let _ ← manageSessKick e
  | .clear => do let _ ← clearSess e
  | .clearV2 => sessExit
  | .sync => do let _ ← syncSess e
  | .wakeup => do let _ ← wakeupSess
  | .offlineSync => do let _ ← manageSessOfflineSync e
  | .updateSync m => do let _ ← manageSessUpdateSync e m

/-! ## The instance -/

structure World where
  cfg : Config := {}
  status : BackupStatus := .NONE
  prev : BackupStatus := .NONE
  channel : Bool := false
  sync_flag : Bool := false
  now : Nat := 0
  tables : Tables := {}
  pool : Ippool := {}
  rad : Radius := {}
  options : SessionOptions := {}
  queue : List Sync := []
  out : List Packet := []
  mem : Mem := fun _ => {}
  /-- what was done in the sessions that have ended, oldest first; no code reads it -/
  ended : List (List Mark) := []
  /-- the thread has crashed, or hangs -/
  fault : Bool := false

/-- The instance as it is set up. -/
def World.init (cfg : Config) (pool : Ippool) (status : BackupStatus) : World :=
  { cfg := cfg, pool := pool, status := status }

/-- What the event meets: the record the cache hands out, the calls that fail for each session, the
wall clock, the random bytes. -/
structure Oracle where
  addr : Addr := 0
  fails : Addr → List Call := fun _ => []
  time : Nat := 0
  rand : Bytes := []

/-- The instance's own messages to the peer fail like those of a session. -/
def Oracle.syncFails (o : Oracle) : Bool :=
  (o.fails o.addr).contains .pbuf ∨ (o.fails o.addr).contains .backupTask

def World.env (w : World) (o : Oracle) (a : Addr) : Env :=
  { cfg := w.cfg
    self := a
    now := w.now
    time := o.time
    status := w.status
    channel := w.channel
    fails := o.fails a
    rand := o.rand }

/-- `__sess_free`. The record keeps its contents. -/
def World.sessFreeAt (w : World) (a : Addr) : World :=
  let r := ipaddrRecover w.pool a (w.mem a).ipaddr
  { w with
    pool := r.2.1
    mem := w.mem.set a { w.mem a with ipaddr := r.2.2 }
    tables := { w.tables with cache := w.tables.cache.erase a } }

/-- One round of `sess_dead_free`. -/
def World.deadFreeAt (w : World) (a : Addr) : World :=
  if (w.mem a).refcnt = 0 then
    World.sessFreeAt
      { w with tables := { w.tables with sess_dead := w.tables.sess_dead.erase a } } a
  else
    w

/-- `sess_dead_free`. -/
def World.sessDeadFree (w : World) : World := w.tables.sess_dead.foldl World.deadFreeAt w

/-- `session_timer_clear` and `session_unregister`. -/
def World.unregister (w : World) (a : Addr) : World :=
  let s := w.mem a
  { w with
    tables := w.tables.unregister a s.sid s.mac
    mem := w.mem.set a { s.timerClear with state := .DEAD }
    ended := w.ended ++ [s.marks] }

/-- `sess_free`. -/
def World.sessFree (w : World) (a : Addr) : World :=
  let w := if (w.mem a).refcnt ≠ 0 then
      { w with tables := { w.tables with sess_dead := a :: w.tables.sess_dead } }
    else w.sessFreeAt a
  w.sessDeadFree

/-- `sess_exit`. -/
def World.sessExit (w : World) (a : Addr) : World := (w.unregister a).sessFree a

/-- What a handler of the session at `a` starts with. -/
def World.ctx (w : World) (a : Addr) : Ctx :=
  { sess := w.mem a
    pool := w.pool
    rad := w.rad
    options := w.options
    queue := w.queue
    out := w.out }

/-- The instance with what a handler of the session at `a` left. -/
def World.store (w : World) (a : Addr) (c : Ctx) : World :=
  { w with
    mem := w.mem.set a c.sess
    pool := c.pool
    rad := c.rad
    options := c.options
    queue := c.queue
    out := c.out }

/-- Run the handler of a trigger on the session at `a`. -/
def World.runOn (w : World) (o : Oracle) (a : Addr) (t : Trigger) : World :=
  let c := (handle (w.env o a) t (w.ctx a)).2
  if w.fault then w
  else if c.fault then { w with fault := true }
  else if c.exited then (w.store a c).sessExit a
  else w.store a c

/-! ## Sessions by id and by address -/

def World.bySid (w : World) (sid : Nat) : Option Addr := _sessionGetBySid w.cfg w.tables sid

def World.byMac (w : World) (mac : Mac) : Option Addr := _sessionGetByMac w.tables w.mem mac

/-- Run a trigger on a session that was looked up, if there is one and it passes the test that
follows the lookup. -/
def World.runIf (w : World) (o : Oracle) (x : Option Addr) (test : Session → Bool) (t : Trigger) :
    World :=
  match x with
  | none => w
  | some a => if test (w.mem a) then w.runOn o a t else w

/-- Run a trigger on one session after the other. -/
def World.runEach (w : World) (o : Oracle) (t : Trigger) (l : List Addr) : World :=
  l.foldl (fun w a => w.runOn o a t) w

/-- The loops over all session ids of `manage_sessions_clear` and `manage_sessions_clear_v2`. -/
def World.runSids (w : World) (o : Oracle) (t : Trigger) : World :=
  (List.range' 1 w.cfg.max_sid).foldl (fun w i => w.runIf o (w.bySid i) (fun _ => true) t) w

/-! ## Session set-up -/

/-- Take a record for a session; the cache is out of memory when it has no record or the one the
oracle names is in use. -/
def World.alloc (w : World) (o : Oracle) (sid : Nat) (mac : Mac) : Alloc :=
  sessionAlloc w.cfg w.tables w.mem o.addr
    ((o.fails o.addr).contains .memCache ∨ o.addr ∈ w.tables.cache) sid mac

/-- `session_register` of the session `s` in the record `a`. -/
def World.register (w : World) (a : Addr) (s : Session) : World :=
  { w with
    tables := w.tables.register a s.sid s.mac
    mem := w.mem.set a { s with state := .INIT } }

/-- `manage_sess_init` with `_discover_session_setup`. -/
def World.manageSessInit (w : World) (o : Oracle) (mac serverMac : Mac) : World :=
  let r := w.alloc o 0 mac
  let w' := { w with tables := r.tables, mem := r.mem }
  match r.sess with
  | none => w'
  | some a =>
    let s := { r.mem a with
      serverIP := w.cfg.ipaddr, serverMac := serverMac, magic := charArray 4 o.rand }
    let free := { w' with
      mem := w'.mem.set a s, tables := { w'.tables with cache := w'.tables.cache.erase a } }
    if (w.env o a).fail (.timer .TIMEOUT) then free
    else if (w.env o a).fail .channelRegister then free
    else
      let s := { s with timeout := .armed, startTime := w.now, sname := w.cfg.sname }
      World.register { w' with out := w'.out ++ [.register s.sid mac serverMac s.magic] } a s

/-- `processPADR` once the tags have been checked. -/
def World.processPADR (w : World) (o : Oracle) (mac serverMac : Mac) (room : Bool) : World :=
  let w' := match w.byMac mac with
    | none => w.manageSessInit o mac serverMac
    | some _ => w
  match w.byMac mac with
  | some a => if (w.mem a).state.num > SessState.INIT.num ∨ room then w else w.runOn o a .padsRoom
  | none => if room then w' else w'.runIf o (w'.byMac mac) (fun _ => true) .padsRoom

/-- The session that `manage_sess_online_sync` builds from a message, before its timers are set. -/
def onlineSyncSess (now : Nat) (s : Session) (m : OnlineSync) : Session :=
  { s with
    serverIP := m.serverIP
    ipaddr := m.ipaddr
    auth_type := m.auth_type
    chap_mdtype := m.chap_mdtype
    stat := m.stat
    bk_stat := m.stat
    startTime := now - m.startTime
    onlineTime := now - m.onlineTime
    mac := m.mac
    serverMac := m.serverMac
    sname := m.sname
    magic := m.magic
    peermagic := m.peermagic
    challenge := m.challenge
    passwd := m.passwd
    username := m.username
    acctSessID := m.acctSessID }

/-- `manage_sess_online_sync`. On an error the record is given to `free`, not to the cache it came
from, so the cache keeps counting it as handed out. -/
def World.manageSessOnlineSync (w : World) (o : Oracle) (m : OnlineSync) : World :=
  let r := w.alloc o m.sid m.mac
  let w' := { w with tables := r.tables, mem := r.mem }
  match r.sess with
  | none => w'
  | some a =>
    let e := w.env o a
    let s := onlineSyncSess w.now (r.mem a) m
    let error := { w' with mem := w'.mem.set a s }
    if e.fail (.timer .TIMEOUT) ∨ e.fail (.timer .ECHO) ∨ e.fail (.timer .UPDATE) then error
    else if e.fail .channelRegister then error
    else
      let reg := Packet.register s.sid s.mac s.serverMac s.magic
      if e.fail .channelAuthorize then
        { error with out := w'.out ++ [reg, .unregister s.sid s.mac] }
      else
        World.register { w' with out := w'.out ++ [reg, .authorize s.sid s.ipaddr.ip] } a
          { s with timeout := .armed, echo := .paused, update := .paused }

/-! ## Datagrams -/

/-- The identifier that a datagram on a RADIUS socket names, if its lengths are right and the
identifier is in use. -/
def World.radidOf (w : World) (sock : Nat) (d : Datagram) : Option RadPtr :=
  let pack := packOf d.bytes
  if sock ≥ w.rad.socks ∨ d.bytes.length < RADIUS_PACKET_HEADSIZE ∨
      pack.length < RADIUS_PACKET_HEADSIZE ∨ pack.length > d.bytes.length then
    none
  else if (w.rad.id ⟨sock, pack.id⟩).status ≠ .USED then
    none
  else
    some ⟨sock, pack.id⟩

/-- `radius_sock_process`. -/
def World.radiusSock (w : World) (o : Oracle) (sock : Nat) (d : Datagram) : World :=
  match w.radidOf sock d with
  | none => w
  | some p =>
    match (w.rad.id p).sess with
    | none => { w with fault := true }
    | some a => w.runOn o a (.reply p d)

/-- The answer to a Disconnect-Request. -/
def coaReply (d : Bytes) (code cause : Nat) (secret : Bytes) : Bytes :=
  let b := radiusAddInteger RADIUS_ATTR_ERROR_CAUSE cause
    { pack := { packOf d with code := code }, attrs := [] }
  let auth := Md5.md5 (b.bytes ++ secret)
  RadiusBuf.bytes { b with pack := { b.pack with authenticator := auth } }

/-- The server that a datagram on the CoA socket comes from, if it is a Disconnect-Request of the
right length from one of the servers. -/
def World.coaFrom (w : World) (d : Datagram) : Option RadiusServer :=
  let pack := packOf d.bytes
  if d.bytes.length < RADIUS_PACKET_HEADSIZE ∨ pack.length > d.bytes.length ∨
      pack.code ≠ RADIUS_CODE_DISCONNECT_REQUEST ∨ d.ip = 0 then
    none
  else
    coaRadiusServerLookup w.cfg d.ip

/-- The session that a Disconnect-Request with these attributes is about. -/
def World.coaSession (w : World) (k : CoaKey) : Option Addr :=
  coaSessionLookup k w.tables.sess_list w.mem

/-- `coa_process` with `coa_disconnect_request`: the authenticator of the request is not looked
at. -/
def World.coa (w : World) (o : Oracle) (d : Datagram) : World :=
  match w.coaFrom d, coaKey d.bytes with
  | none, _ => w
  | some _, none => { w with fault := true }
  | some server, some k =>
    match w.coaSession k with
    | none =>
      let cause :=
        if getChar k.username 0 = 0 ∧ getChar k.sessionid 0 = 0 ∧ k.userip = 0 then 402 else 503
      { w with
        out := w.out ++ [.coa (coaReply d.bytes RADIUS_CODE_DISCONNECT_NAK cause server.secret)] }
    | some a =>
      let w := w.runOn o a .disconnect
      { w with
        out := w.out ++ [.coa (coaReply d.bytes RADIUS_CODE_DISCONNECT_ACK 201 server.secret)] }

/-! ## Clearing and change of role -/

/-- `manage_sessions_clear`. -/
def World.manageSessionsClear (w : World) (o : Oracle) : World :=
  let q := if w.status = .ACTIVE ∧ w.channel ∧ ¬ o.syncFails then [Sync.SESSCLEAR] else []
  World.runSids { w with out := w.out ++ [.clear], queue := w.queue ++ q } o .clear

/-- `manage_sessions_clear_v2`. -/
def World.manageSessionsClearV2 (w : World) (o : Oracle) : World :=
  World.runSids { w with out := w.out ++ [.clear], sync_flag := false } o .clearV2

/-- `manage_sessions_sync`. -/
def World.manageSessionsSync (w : World) (o : Oracle) : World :=
  let w := w.runEach o .sync w.tables.sess_list
  if w.channel ∧ ¬ o.syncFails then { w with queue := w.queue ++ [.SYNCFINISHED] } else w

def BackupStatus.serving : BackupStatus → Bool
  | .NONE => true
  | .ACTIVE => true
  | _ => false

/-- `pppoe_radius_stop`. -/
def Radius.stop (r : Radius) : Radius := { r with free_list := [] }

/-- `pppoe_radius_start`: `sock_setup` marks every identifier free. -/
def Radius.start (r : Radius) : Radius :=
  { r with
    free_list := []
    id := fun p => if p.sock < r.socks then { r.id p with status := .FREE } else r.id p }

/-- Does a restart clear the sessions? -/
def World.clears (w : World) : Bool :=
  w.prev.serving ∨ w.prev = .STANDBY ∧ w.status ≠ .ACTIVE

/-- `pppoe_manage_restart`. -/
def World.manageRestart (w : World) (o : Oracle) : World :=
  let w := if w.clears then w.manageSessionsClearV2 o else w
  if w.status.serving then w.runEach o .wakeup w.tables.sess_list else w

/-- The new status is noted, and the sockets of the old one are closed. -/
def World.switch (w : World) (status : BackupStatus) : World :=
  let w := { w with prev := w.status, status := status }
  if w.prev.serving then { w with rad := w.rad.stop } else w

/-- `device_thread_restart`, for the new status. -/
def World.restart (w : World) (o : Oracle) (status : BackupStatus) : World :=
  let w := (w.switch status).manageRestart o
  if w.status.serving then { w with rad := w.rad.start } else w

/-! ## Events -/

/-- A reply of the kernel. -/
inductive KernelMsg where
  | register (sid : Nat) (mac : Mac) (errorcode : Int)
  | authorize (sid : Nat) (ip : UInt32) (errorcode : Int)
  | unauthorize (sid : Nat) (ip : UInt32)
deriving DecidableEq, Repr

inductive Event where
  | frame (sid : Nat) (mac : Mac) (f : Frame)
  | padr (mac serverMac : Mac) (room : Bool)
  | padt (sid : Nat) (mac : Mac)
  | timer (a : Addr) (t : SessionTimerType)
  | kernel (m : KernelMsg)
  | radius (sock : Nat) (d : Datagram)
  | coa (d : Datagram)
  | kickBySid (sid : Nat)
  | kickByMac (mac : Mac)
  | clear
  | clearV2
  | onlineSync (m : OnlineSync)
  | offlineSync (m : OfflineSync)
  | updateSync (m : UpdateSync)
  | sync
  | syncFinished
  | restart (status : BackupStatus)
  | channel (up : Bool)
  | clock (n : Nat)
  | stat (sid : Nat) (stat : SessionStat)
  | hold (sid : Nat)
  | put (a : Addr)
deriving DecidableEq, Repr

/-- A reply of the kernel, taken by `manage_process` or by `standby_process`. -/
def World.kernel (w : World) (o : Oracle) : KernelMsg → World
  | .register sid mac err =>
    w.runIf o (w.bySid sid) (·.mac = mac)
      (if w.status.serving then .register err else .standbyRegister err)
  | .authorize sid ip err =>
    w.runIf o (w.bySid sid) (fun _ => true)
      (if w.status.serving then .authorize ip err else .standbyAuthorize ip err)
  | .unauthorize sid ip =>
    if w.status.serving then w.runIf o (w.bySid sid) (fun _ => true) (.unauthorize ip) else w

/-- Change the reference count of the session at `a`. -/
def World.refer (w : World) (a : Addr) (f : Nat → Nat) : World :=
  { w with mem := w.mem.set a { w.mem a with refcnt := f (w.mem a).refcnt } }

/-- `session_hold` on a session that was looked up. -/
def World.hold (w : World) : Option Addr → World
  | none => w
  | some a => w.refer a (· + 1)

/-- `manage_sess_kick_by_mac`: the lookup takes a reference and nothing gives it back. -/
def World.kickByMac (w : World) (o : Oracle) (mac : Mac) : World :=
  (w.hold (w.byMac mac)).runIf o (w.byMac mac) (fun _ => true) .kick

/-- `method_session_stat_update` for one session. -/
def World.stat (w : World) (sid : Nat) (st : SessionStat) : World :=
  match w.bySid sid with
  | none => w
  | some a =>
    let s := w.mem a
    if s.state.num > SessState.ONLINE.num then w
    else
      let stat : SessionStat :=
        { rx_bytes := s.bk_stat.rx_bytes + st.rx_bytes
          tx_bytes := s.bk_stat.tx_bytes + st.tx_bytes
          rx_packets := s.bk_stat.rx_packets + st.rx_packets
          tx_packets := s.bk_stat.tx_packets + st.tx_packets }
      { w with mem := w.mem.set a { s with stat := stat } }

/-- Is the event dispatched? The discovery, control and RADIUS sockets are open only while the
instance serves clients, and a disabled instance dispatches nothing but its own control. -/
def World.takes (w : World) : Event → Bool
  | .frame .. | .padr .. | .padt .. | .radius .. | .kickBySid _ | .kickByMac _ | .clear =>
    w.status.serving
  | .timer .. | .kernel _ | .coa _ | .clearV2 | .onlineSync _ | .offlineSync _ | .updateSync _
  | .sync => w.status ≠ .DISABLE
  | .syncFinished | .restart _ | .channel _ | .clock _ | .stat .. | .hold _ | .put _ => true

/-- The event of `x`, once it is dispatched. -/
def World.dispatch (w : World) (x : Event × Oracle) : World :=
  let o := x.2
  match x.1 with
  | .frame sid mac f => w.runIf o (w.bySid sid) (·.mac = mac) (.frame f)
  | .padr mac serverMac room => w.processPADR o mac serverMac room
  | .padt sid mac => w.runIf o (w.bySid sid) (·.mac = mac) .padt
  | .timer a t =>
    if a ∈ w.tables.sess_list ∧ (w.mem a).timer t = .armed then w.runOn o a (.timer t) else w
  | .kernel m => w.kernel o m
  | .radius sock d => w.radiusSock o sock d
  | .coa d => w.coa o d
  | .kickBySid sid => w.runIf o (w.bySid sid) (fun _ => true) .kick
  | .kickByMac mac => w.kickByMac o mac
  | .clear => w.manageSessionsClear o
  | .clearV2 => w.manageSessionsClearV2 o
  | .onlineSync m => w.manageSessOnlineSync o m
  | .offlineSync m => w.runIf o (w.bySid m.sid) (fun _ => true) .offlineSync
  | .updateSync m => w.runIf o (w.bySid m.sid) (fun _ => true) (.updateSync m)
  | .sync => w.manageSessionsSync o
  | .syncFinished => { w with sync_flag := true }
  | .restart status => w.restart o status
  | .channel b => { w with channel := b }
  | .clock n => { w with now := w.now + n }
  | .stat sid st => w.stat sid st
  | .hold sid => w.hold (w.bySid sid)
  | .put a => if (w.mem a).refcnt ≠ 0 then w.refer a (· - 1) else w

/-- One event; a thread that has crashed takes none. -/
def step (w : World) (x : Event × Oracle) : World :=
  if w.fault ∨ ¬ w.takes x.1 then w else w.dispatch x

/-- The instance after a sequence of events. -/
def runEvents (w : World) (xs : List (Event × Oracle)) : World := Lib.run step w xs

end Pppoe
end DaemonGroup
