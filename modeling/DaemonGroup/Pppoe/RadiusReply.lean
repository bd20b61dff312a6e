import DaemonGroup.Pppoe.Manage

/-!
# DaemonGroup.Pppoe.RadiusReply

The other half of `pppoe_radius.c`: the replies of the servers, the retransmission timer, and the
Disconnect-Requests of the CoA socket, each on the session it is about.
-/

namespace DaemonGroup
namespace Pppoe

/-- A datagram with the address it came from, the relay header taken off. -/
structure Datagram where
  ip : Nat
  port : Nat
  bytes : Bytes
deriving DecidableEq, Repr, Inhabited

/-! ## Authentication -/

def _radiusSessAuthFail (e : Env) : M Unit := do
  let _ ← sessionOptPerform .AUTHFAIL (sendChapFail e)
  sessionTimerDestroy .RETRANS
  _manageSessExit e

/-- The packets that a client gets when it is accepted. -/
def authSuccessSend (e : Env) : M Int := do
  let ret ← sessionOptPerform .AUTHSUCCESS (sendChapSuccess e)
  if ret ≠ PPPOEERR_SUCCESS then
    return ret
  sessionOptPerform .IPCPCONFREQ (sendIpcpConfReq e)

def _radiusSessAuthSuccess (e : Env) : M Unit := do
  let ret ← authSuccessSend e
  if ret ≠ PPPOEERR_SUCCESS then
    sessionTimerDestroy .RETRANS
    _manageSessExit e
  else
    let _ ← sessionTimerPause .RETRANS
    let _ ← sessionTimerUpdate .TIMEOUT
    update fun s => { s with state := .IPCPPOSTOPEN }

/-! ## Retransmission -/

/-- What `radius_sess_retransport_func` does when the retries are used up. -/
def radiusSessGiveUp (e : Env) : M Int := do
  _radiusSessClean
  let _ ← sessionTimerPause .RETRANS
  match (← get).sess.state with
  | .AUTHPOST =>
    _radiusSessAuthFail e
    return PPPOEERR_ETIMEOUT
  | .ONLINEPOST =>
    let _ ← sessionOptPerform .ONLINESYNC (sessoptOnlinesync e)
    update fun s => { s with state := .ONLINE }
    return PPPOEERR_ETIMEOUT
  | .OFFLINEPOST =>
    update fun s => { s with state := .OFFLINE }
    _manageSessExit e
    return PPPOEERR_ETIMEOUT
  | .ONLINE => return PPPOEERR_ETIMEOUT
  | _ => return PPPOEERR_EINVAL

def radiusSessRetransportFunc (e : Env) : M Int := do
  if (← _radiusSessCheck e) ≠ PPPOEERR_SUCCESS then
    let _ ← sessionTimerPause .RETRANS
    return PPPOEERR_EINVAL
  let s := (← get).sess
  if s.retryTimes ≥ s.retryMaxTimes then
    radiusSessGiveUp e
  else
    update fun s => { s with retryTimes := s.retryTimes + 1 }
    let _ ← sessionTimerUpdate .RETRANS
    match s.priv_data with
    | some p => _radiusSessRetransport e p
    | none => return PPPOEERR_EINVAL

/-! ## Replies -/

/-- An attribute of a response, if it is there, must repeat what the session has. The result is
true when it does not; a search that does not end is a fault. -/
def attrDiffers (d : Bytes) (type : Nat) (have_ : Bytes) : M Bool := do
  match radiusGetattr (d.drop RADIUS_PACKET_HEADSIZE)
      ((packOf d).length - RADIUS_PACKET_HEADSIZE) type with
  | .found l v => return ¬ (l = strlen have_ + 2 ∧ v.take (l - 2) = cstring have_)
  | .missing => return false
  | .loops =>
    modify fun c => { c with fault := true }
    return true

def processAcctResponse (e : Env) (d : Bytes) : M Int := do
  let s := (← get).sess
  if ← attrDiffers d RADIUS_ATTR_ACCT_SESSION_ID s.acctSessID then
    return PPPOEERR_EINVAL
  if ← attrDiffers d RADIUS_ATTR_USER_NAME s.username then
    return PPPOEERR_EINVAL
  _radiusSessClean
  let _ ← sessionTimerPause .RETRANS
  match (← get).sess.state with
  | .ONLINEPOST =>
    let _ ← sessionOptPerform .ONLINESYNC (sessoptOnlinesync e)
    update fun s => { s with state := .ONLINE }
  | .OFFLINEPOST =>
    update fun s => { s with state := .OFFLINE }
    _manageSessExit e
  | _ => pure ()
  return PPPOEERR_SUCCESS

/-- The identifier is released on the spot. -/
def radidFree (p : RadPtr) : M Unit :=
  modify fun c => { c with rad := c.rad.setId p { c.rad.id p with status := .FREE, sess := none } }

/-- The server among two that a datagram came from. -/
def fromServer (d : Datagram) (first second : RadiusServer) : Option RadiusServer :=
  if d.ip = first.ip ∧ d.port = first.port then some first
  else if d.ip = second.ip ∧ d.port = second.port then some second
  else none

/-- `radius_sock_process` from the lookup of the session on; `p` is the identifier the datagram
names, which is in use. In the code's order: a reply that does not suit the session's state
releases the identifier before its origin and its authenticator are looked at. -/
def radiusSockProcess (e : Env) (p : RadPtr) (d : Datagram) : M Int := do
  let c ← get
  let pack := packOf d.bytes
  let radid := c.rad.id p
  if pack.code = RADIUS_CODE_ACCESS_ACCEPT ∨ pack.code = RADIUS_CODE_ACCESS_REJECT then
    if c.sess.state ≠ .AUTHPOST then
      radidFree p
      return PPPOEERR_ESTATE
    if radid.req_pack.code ≠ RADIUS_CODE_ACCESS_REQUEST then
      return PPPOEERR_EINVAL
    match fromServer d e.cfg.srv.auth e.cfg.srv.backup_auth with
    | none => return PPPOEERR_EADDR
    | some server =>
      if ¬ radiusReplyCheck d.bytes radid.req_pack server.secret then
        return PPPOEERR_EINVAL
      _radiusSessClean
      if pack.code = RADIUS_CODE_ACCESS_REJECT then
        _radiusSessAuthFail e
      else
        _radiusSessAuthSuccess e
      return PPPOEERR_SUCCESS
  else if pack.code = RADIUS_CODE_ACCOUNTING_RESPONSE then
    if c.sess.state ≠ .ONLINEPOST ∧ c.sess.state ≠ .ONLINE ∧ c.sess.state ≠ .OFFLINEPOST then
      radidFree p
      return PPPOEERR_ESTATE
    if radid.req_pack.code ≠ RADIUS_CODE_ACCOUNTING_REQUEST then
      return PPPOEERR_EINVAL
    match fromServer d e.cfg.srv.acct e.cfg.srv.backup_acct with
    | none => return PPPOEERR_EADDR
    | some server =>
      if ¬ radiusReplyCheck d.bytes radid.req_pack server.secret then
        return PPPOEERR_EINVAL
      processAcctResponse e d.bytes
  else
    return PPPOEERR_EINVAL

/-! ## Disconnect-Request -/

/-- `coa_session_disconnnect`. -/
def coaSessionDisconnnect (e : Env) : M Unit := do
  update fun s => { s with offlineTime := e.now, state := .OFFLINE }
  sessionTimerDestroy .RETRANS
  sessionTimerDestroy .UPDATE
  sessionTimerDestroy .ECHO
  let _ ← sessionOptPerform .OFFLINESYNC (sessoptOfflinesync e)
  _manageSessExit e

/-- The attributes that `coa_session_lookup` goes by: user name, address, accounting session. -/
structure CoaKey where
  username : Bytes := []
  userip : UInt32 := 0
  sessionid : Bytes := []
deriving DecidableEq, Repr, Inhabited

/-- The text of an attribute if it fits an array of `n` bytes; its length octet may be below two,
which makes a length that does not fit. -/
def coaText (n : Nat) : GetAttr → Bytes
  | .found l v => if 2 ≤ l ∧ l - 2 < n then v.take (l - 2) else []
  | _ => []

/-- The key of a Disconnect-Request; `none` when a search does not end. -/
def coaKey (d : Bytes) : Option CoaKey :=
  let attrs := d.drop RADIUS_PACKET_HEADSIZE
  let len := (packOf d).length - RADIUS_PACKET_HEADSIZE
  let name := radiusGetattr attrs len RADIUS_ATTR_USER_NAME
  let addr := radiusGetattr attrs len RADIUS_ATTR_FRAMED_IP_ADDRESS
  let acct := radiusGetattr attrs len RADIUS_ATTR_ACCT_SESSION_ID
  if name = .loops ∨ addr = .loops ∨ acct = .loops then
    none
  else
    some
      { username := coaText 256 name
        userip := match addr with
          | .found _ v => UInt32.ofNat (getLong v 0)
          | _ => 0
        sessionid := coaText 32 acct }

/-- Does the session answer to the key? Arrays are compared whole. -/
def CoaKey.matches (k : CoaKey) (s : Session) : Bool :=
  s.state = .ONLINE ∧
    (getChar k.username 0 = 0 ∨ charArray 256 k.username = charArray 256 s.username) ∧
    (k.userip = 0 ∨ k.userip = s.ipaddr.ip) ∧
    (getChar k.sessionid 0 = 0 ∨ charArray 32 k.sessionid = charArray 32 s.acctSessID)

/-- `coa_session_lookup`: the first session of the list that answers to the key. -/
def coaSessionLookup (k : CoaKey) (l : List Addr) (mem : Mem) : Option Addr :=
  if getChar k.username 0 = 0 ∧ getChar k.sessionid 0 = 0 ∧ k.userip = 0 then
    none
  else
    l.find? fun a => k.matches (mem a)

/-- `coa_radius_server_lookup`. -/
def coaRadiusServerLookup (cfg : Config) (ip : Nat) : Option RadiusServer :=
  if cfg.srv.auth.ip = ip then some cfg.srv.auth
  else if cfg.srv.backup_auth.ip = ip then some cfg.srv.backup_auth
  else if cfg.srv.acct.ip = ip then some cfg.srv.acct
  else if cfg.srv.backup_acct.ip = ip then some cfg.srv.backup_acct
  else none

end Pppoe
end DaemonGroup
