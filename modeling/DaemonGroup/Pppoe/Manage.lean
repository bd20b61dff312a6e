import DaemonGroup.Pppoe.Ippool
import DaemonGroup.Pppoe.Send

/-!
# DaemonGroup.Pppoe.Manage

The part of `pppoe_manage.c` that works on one session: going online and offline, the messages for
the backup peer, ending the session, the timer functions, and the replies of the kernel.
-/

namespace DaemonGroup
namespace Pppoe

def RADIUS_TERMINATE_CAUSE_USER_REQUEST : Nat := 1
def RADIUS_TERMINATE_CAUSE_SESSION_TIMEOUT : Nat := 5
def RADIUS_TERMINATE_CAUSE_NAS_REQUEST : Nat := 10
def RADIUS_TERMINATE_CAUSE_NAS_REBOOT : Nat := 11

/-! ## Backup messages -/

/-- Queue a message for the peer; the buffer can be refused, and so can the task. -/
def sessBackupSync (e : Env) (m : Sync) : M Int := do
  if ¬ e.channel then
    return PPPOEERR_ESTATE
  if e.fail .pbuf then
    return PPPOEERR_ENOMEM
  if e.fail .backupTask then
    return PPPOEERR_ESEND
  modify fun c => { c with queue := c.queue ++ [m] }
  return PPPOEERR_SUCCESS

/-- The three `sessopt_` functions that tell the peer something do nothing unless this instance is
the active one. -/
def sessoptSync (e : Env) (msg : Session → Sync) : M Int := do
  if e.status ≠ .ACTIVE then
    return PPPOEERR_SUCCESS
  sessBackupSync e (msg (← get).sess)

def onlineMsg (e : Env) (s : Session) : OnlineSync :=
  { sid := s.sid
    mac := s.mac
    serverMac := s.serverMac
    serverIP := s.serverIP
    ipaddr := s.ipaddr
    startTime := e.now - s.startTime
    onlineTime := e.now - s.onlineTime
    auth_type := s.auth_type
    chap_mdtype := s.chap_mdtype
    sname := s.sname
    magic := s.magic
    peermagic := s.peermagic
    challenge := s.challenge
    passwd := s.passwd
    username := s.username
    acctSessID := s.acctSessID
    stat := s.stat }

def sessoptOnlinesync (e : Env) : M Int := sessoptSync e fun s => .SESSONLINE (onlineMsg e s)

def sessoptOfflinesync (e : Env) : M Int :=
  sessoptSync e fun s => .SESSOFFLINE { sid := s.sid, mac := s.mac }

def sessoptUpdatesync (e : Env) : M Int :=
  sessoptSync e fun s => .SESSUPDATE { sid := s.sid, mac := s.mac, stat := s.stat }

/-! ## The kernel channel -/

/-- `sessopt_exit`. The session leaves the tables when the handler has returned; nothing touches
it in between. -/
def sessoptExit (e : Env) : M Int := do
  let s := (← get).sess
  let _ ← emit e .channelUnregister (.unregister s.sid s.mac)
  modify fun c => { c with exited := true }
  return PPPOEERR_SUCCESS

def sessoptIpregister (e : Env) : M Int := do
  let s := (← get).sess
  if s.ipaddr.ip = 0 then
    return PPPOEERR_EINVAL
  emit e .channelAuthorize (.authorize s.sid s.ipaddr.ip)

/-! ## Online and offline -/

def sessOnline (e : Env) : M Int := do
  let _ ← sessionTimerPause .TIMEOUT
  let ret ← sessionTimerInit e .ECHO
  if ret ≠ PPPOEERR_SUCCESS then
    return ret
  let ret ← sessionTimerInit e .UPDATE
  if ret ≠ PPPOEERR_SUCCESS then
    sessionTimerDestroy .ECHO
    return ret
  let ret ← sessionOptPerform .ACCTSTART (radiusAcctStart e)
  if ret ≠ PPPOEERR_SUCCESS then
    sessionTimerDestroy .UPDATE
    sessionTimerDestroy .ECHO
    return ret
  update fun s => { s with state := .ONLINEPOST }
  return PPPOEERR_SUCCESS

def sessOffline (e : Env) : M Int := do
  sessionTimerDestroy .UPDATE
  sessionTimerDestroy .ECHO
  let ret ← sessionOptPerform .ACCTSTOP (radiusAcctStop e)
  if ret ≠ PPPOEERR_SUCCESS then
    update fun s => { s with state := .OFFLINE }
  else
    update fun s => { s with state := .OFFLINEPOST }
  let _ ← sessionOptPerform .OFFLINESYNC (sessoptOfflinesync e)
  return ret

/-! ## Ending a session -/

def _manageSessExit (e : Env) : M Unit := do
  let ret ← sessionOptPerform .LCPTERMREQ (sendLcpTermReq e)
  if ret = PPPOEERR_SUCCESS then
    let _ ← sessionTimerUpdate .TIMEOUT
    return ()
  let _ ← sessionOptPerform .DISTREM (discoverSessionExit e)
  let _ ← sessionOptPerform .EXIT (sessoptExit e)
  return ()

def manageSessExit (e : Env) : M Unit := do
  match (← get).sess.state with
  | .ONLINE =>
    let ret ← sessOffline e
    if ret = PPPOEERR_SUCCESS then
      return ()
    _manageSessExit e
  | .OFFLINEPRE => return ()
  | .OFFLINEPOST => return ()
  | _ => _manageSessExit e

/-- `sess_exit` called by itself: the session is taken out without a word to the kernel. -/
def sessExit : M Unit := modify fun c => { c with exited := true }

/-! ## Timer functions -/

def sessEchoFunc (e : Env) : M Int := do
  if (← get).sess.echoLoseTimes ≥ 3 then
    sessionTermcauseSetup RADIUS_TERMINATE_CAUSE_SESSION_TIMEOUT
    manageSessExit e
    return PPPOEERR_ETIMEOUT
  update fun s => { s with echoLoseTimes := s.echoLoseTimes + 1 }
  let _ ← sessionOptPerform .LCPECHOREQ (sendLcpEchoReq e)
  let _ ← sessionTimerUpdate .ECHO
  return PPPOEERR_SUCCESS

def sessTimeoutFunc (e : Env) : M Int := do
  _manageSessExit e
  return PPPOEERR_SUCCESS

def sessAcctUpdateFunc (e : Env) : M Int := do
  let _ ← sessionTimerUpdate .UPDATE
  let _ ← sessionOptPerform .UPDATESYNC (sessoptUpdatesync e)
  sessionOptPerform .ACCTUPDATE (radiusAcctUpdate e)

/-! ## Replies of the kernel -/

def processRegister (e : Env) (errorcode : Int) : M Int := do
  if errorcode ≠ 0 then
    let _ ← sessionOptPerform .DISTREM (discoverSessionExit e)
    sessExit
    return PPPOEERR_ESYSCALL
  return PPPOEERR_SUCCESS

def processAuthorize (e : Env) (ip : UInt32) (errorcode : Int) : M Int := do
  if (← get).sess.ipaddr.ip ≠ ip then
    return PPPOEERR_ENOEXIST
  if errorcode ≠ 0 then
    _manageSessExit e
    return errorcode
  let ret ← sessOnline e
  if ret ≠ PPPOEERR_SUCCESS then
    _manageSessExit e
    return ret
  return PPPOEERR_SUCCESS

def processUnauthorize (e : Env) (ip : UInt32) : M Int := do
  if (← get).sess.ipaddr.ip ≠ ip then
    return PPPOEERR_ENOEXIST
  manageSessExit e
  return PPPOEERR_SUCCESS

def standbyRegister (errorcode : Int) : M Int := do
  if errorcode ≠ 0 then
    sessExit
    return PPPOEERR_ESYSCALL
  return PPPOEERR_SUCCESS

def standbyAuthorize (ip : UInt32) (errorcode : Int) : M Int := do
  if (← get).sess.ipaddr.ip ≠ ip then
    return PPPOEERR_ENOEXIST
  if errorcode ≠ 0 then
    sessExit
    return errorcode
  let _ ← sessionTimerPause .TIMEOUT
  update fun s => { s with state := .ONLINE }
  return PPPOEERR_SUCCESS

/-! ## Management -/

/-- `manage_sess_kick_by_mac` and `manage_sess_kick_by_sid` on the session they found. -/
def manageSessKick (e : Env) : M Int := do
  if (← get).sess.state ≠ .ONLINE then
    return PPPOEERR_ENOEXIST
  sessionTermcauseSetup RADIUS_TERMINATE_CAUSE_NAS_REQUEST
  manageSessExit e
  return PPPOEERR_SUCCESS

/-- What `manage_sessions_clear` does to each session. -/
def clearSess (e : Env) : M Int := do
  if (← get).sess.state = .ONLINE then
    sessionTermcauseSetup RADIUS_TERMINATE_CAUSE_NAS_REBOOT
    let _ ← sessionOptPerform .ACCTSTOPV2 (radiusAcctStopWithoutRetransport e)
  let _ ← sessionOptPerform .LCPTERMREQ (sendLcpTermReq e)
  let _ ← sessionOptPerform .DISTREM (discoverSessionExit e)
  sessExit
  return PPPOEERR_SUCCESS

/-- What `manage_sessions_sync` does to each session. -/
def syncSess (e : Env) : M Int := do
  if (← get).sess.state = .ONLINE then
    sessionOptPerform .ONLINESYNC (sessoptOnlinesync e)
  else
    return PPPOEERR_SUCCESS

/-- What `manage_sessions_wakeup` does to each session. -/
def wakeupSess : M Int := do
  if (← get).sess.state ≠ .ONLINE then
    return PPPOEERR_SUCCESS
  let _ ← sessionTimerUpdate .ECHO
  sessionTimerUpdate .UPDATE

/-- `manage_sess_offline_sync` on the session it found. -/
def manageSessOfflineSync (e : Env) : M Int := sessionOptPerform .EXIT (sessoptExit e)

/-- `manage_sess_update_sync` on the session it found. -/
def manageSessUpdateSync (e : Env) (m : UpdateSync) : M Int := do
  if (← get).sess.mac ≠ m.mac then
    sessionOptPerform .EXIT (sessoptExit e)
  else
    update fun s => { s with stat := m.stat, bk_stat := m.stat }
    return PPPOEERR_SUCCESS

/-- `processPADT` of `pppoe_discover.c`, for a PADT from the client of the session. -/
def processPADT (e : Env) : M Int := do
  let _ ← sendPADT e
  sessionTermcauseSetup RADIUS_TERMINATE_CAUSE_USER_REQUEST
  let _ ← sessionOptUnregister .LCPTERMREQ
  let _ ← sessionOptUnregister .DISTREM
  manageSessExit e
  return PPPOEERR_SUCCESS

end Pppoe
end DaemonGroup
