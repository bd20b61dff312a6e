import DaemonGroup.Lib.Partial
import DaemonGroup.Eag.PortalSess
import DaemonGroup.Eag.Radius

/-!
# DaemonGroup.Eag.Portal

The portal (`eag_portal.c`, with what it needs of `eag_ins.c` and `eag_radius.c`): logins and logouts that a
portal server asks for, the sessions in which they take place, and their timers.

A packet of the portal server goes to the handler of its type. A request gets to the user's connection,
which may be made for it (`serve`), and then to the session of the user's address (`reachSess`). A login
marks the connection as being on authentication and sends an Access-Request; the reply ends it.

What the rest of the system says is an input (`PortalAnswers`). What uses a session or a connection that has
been freed has no result. Logins are numbered in the order in which they are started; the number goes with
the connection, with the session and with the Access-Request, and no function of the source has it.
-/

namespace DaemonGroup
namespace Eag

open Lib Bytes

def REQ_CHALLENGE : UInt8 := 1
def ACK_CHALLENGE : UInt8 := 2
def REQ_AUTH : UInt8 := 3
def ACK_AUTH : UInt8 := 4
def REQ_LOGOUT : UInt8 := 5
def ACK_LOGOUT : UInt8 := 6
def AFF_ACK_AUTH : UInt8 := 7
def REQ_INFO : UInt8 := 9
def ACK_INFO : UInt8 := 10
def ACK_MACBINDING_INFO : UInt8 := 0x31
def REQ_USER_OFFLINE : UInt8 := 0x36

def AUTH_CHAP : UInt8 := 0
def AUTH_PAP : UInt8 := 1

def CHALLENGE_REJECT : UInt8 := 1
def CHALLENGE_CONNECTED : UInt8 := 2
def CHALLENGE_ONAUTH : UInt8 := 3
def CHALLENGE_FAILED : UInt8 := 4

def PORTAL_AUTH_REJECT : UInt8 := 1
def PORTAL_AUTH_CONNECTED : UInt8 := 2
def PORTAL_AUTH_ONAUTH : UInt8 := 3

def EC_ACK_LOGOUT_REJECT : UInt8 := 1
def EC_ACK_LOGOUT_FAILED : UInt8 := 2

def EC_ACK_INFO_FAILED : UInt8 := 2

def ATTR_USERNAME : UInt8 := 1
def ATTR_PASSWORD : UInt8 := 2
def ATTR_CHAPPASSWORD : UInt8 := 4
def ATTR_UPLINKFLUX : UInt8 := 6
def ATTR_PORT_ID : UInt8 := 8
def ATTR_USERMAC : UInt8 := 0x0b
def ATTR_USER_IPV6 : UInt8 := 0xf1

def RADIUS_PASSWORD_LEN : UInt8 := 16
def PORTAL_TELECOM_USERNAME_LEN : Nat := 32

/-! ## Packets -/

/-- What stays as it is: the machine, the digest function and the protocol. -/
structure PortalEnv where
  host : Host
  md5 : Digest
  protocol : Protocol

/-- The fields of `struct portal_packet_t`. -/
def packetType (pkt : Packet) : UInt8 := pkt 1
def packetAuthType (pkt : Packet) : UInt8 := pkt 2
def packetRsv (pkt : Packet) : UInt8 := pkt 3
def packetReqId (pkt : Packet) : UInt16 := (pkt 6).toUInt16 * 256 + (pkt 7).toUInt16
def packetUserIp (pkt : Packet) : UInt32 :=
  ((((pkt 8).toUInt32 * 256) + (pkt 9).toUInt32) * 256 + (pkt 10).toUInt32) * 256 + (pkt 11).toUInt32
def packetErrCode (pkt : Packet) : UInt8 := pkt 14

/-- `portal_packet_minsize`. -/
def portalPacketMinsize (p : Protocol) : Nat :=
  match p with
  | .PORTAL_PROTOCOL_MOBILE => PORTAL_PACKET_MOBILE_HEADSIZE
  | .PORTAL_PROTOCOL_TELECOM => PORTAL_PACKET_TELECOM_HEADSIZE

/-- The loop of `portal_packet_get_attr`: `n` attributes are left, the next one is at `attr`. -/
def getAttrLoop (pkt : Packet) (type : UInt8) : Nat → Nat → Option Nat
  | 0, _ => none
  | n + 1, attr =>
    if pkt attr = type then some attr else getAttrLoop pkt type n (attr + (pkt (attr + 1)).toNat)

/-- `portal_packet_get_attr`: where the attribute is. -/
def portalPacketGetAttr (p : Protocol) (pkt : Packet) (type : UInt8) : Option Nat :=
  getAttrLoop pkt type (attrNum pkt) (portalPacketMinsize p)

/-- The value of an attribute. To copy `attr->len - 2` octets of one that is shorter than its head has no
result. -/
def attrValue (pkt : Packet) (attr : Nat) : Option (List UInt8) :=
  if pkt (attr + 1) < 2 then none else some (read pkt (attr + 2) ((pkt (attr + 1)).toNat - 2))

/-- The octets of an IPv6 address, in memory that was zero before. -/
def In6Addr.ofOctets (h : Host) (l : List UInt8) : In6Addr :=
  let b := fun i => l.getD i 0
  ⟨h.word (b 0) (b 1) (b 2) (b 3), h.word (b 4) (b 5) (b 6) (b 7), h.word (b 8) (b 9) (b 10) (b 11),
    h.word (b 12) (b 13) (b 14) (b 15)⟩

/-- `portal_packet_init_ipx`. An IPv6 attribute that is longer than an address overwrites what follows. -/
def portalPacketInitIpx (env : PortalEnv) (pkt : Packet) : Option UserAddr :=
  let user_ip := packetUserIp pkt
  match portalPacketGetAttr env.protocol pkt ATTR_USER_IPV6 with
  | none => some ⟨if user_ip ≠ 0 then EAG_IPV4 else 0, user_ip, .zero⟩
  | some attr =>
    (attrValue pkt attr).bind fun value =>
      if 16 < value.length then none
      else some ⟨if user_ip = 0 then EAG_IPV6 else EAG_MIX, user_ip, In6Addr.ofOctets env.host value⟩

/-- The name of a REQ_AUTH, as a string. -/
def packetUsername (env : PortalEnv) (pkt : Packet) : Option (List UInt8) :=
  match portalPacketGetAttr env.protocol pkt ATTR_USERNAME with
  | none => some []
  | some attr => (attrValue pkt attr).map fun value => value.takeWhile (· ≠ 0)

/-- What an acknowledgement says. -/
structure Ack where
  type : UInt8
  err_code : UInt8 := 0
  req_id : UInt16 := 0
  user_addr : UserAddr
  challenge : List UInt8 := []
deriving DecidableEq, Repr

/-! ## Users -/

/-- `struct portal_srv_t`. -/
structure PortalSrv where
  secret : List UInt8
  domain : List UInt8

/-- A RADIUS server of `struct radius_conf`. -/
structure RadiusDomain where
  domain : List UInt8
  remove_domain_name : Bool
  srv : RadiusSrv

/-- What of `struct app_conn_t` is not in the tables. -/
structure Account where
  authed : Bool := false
  on_auth : Bool := false
  on_ntf_logout : Bool := false
  username : List UInt8 := []
  domain_name : List UInt8 := []
  secret : List UInt8 := []
  radius_srv : RadiusSrv := {}
  nasip : UInt32 := 0
  nasipv6 : In6Addr := .zero
  login : Nat := 0

/-- What stands before the last `@` of a name and what stands after it. -/
def splitAt (username : List UInt8) : Option (List UInt8 × List UInt8) :=
  let r := username.reverse.span (· ≠ 64)
  match r.2 with
  | [] => none
  | _ :: name => some (name.reverse, r.1.reverse)

/-- `div_username_and_domain`. -/
def divUsernameAndDomain (radiusconf : List RadiusDomain) (username domain : List UInt8) :
    List UInt8 × List UInt8 :=
  match splitAt username with
  | none => (username, domain)
  | some (name, get_domain) =>
    if get_domain = [] then (username, domain)
    else match radiusconf.find? (·.domain = get_domain) with
      | some s => (if s.remove_domain_name then name else username, get_domain)
      | none =>
        match (radiusconf.find? (·.domain = domain)).orElse fun _ => radiusconf.head? with
        | some s => (if s.remove_domain_name then name else username, domain)
        | none => (username, domain)

/-- `appconn_config_radiussrv_by_domain`: the server of the domain, or the first one. -/
def configRadiussrvByDomain (radiusconf : List RadiusDomain) (domain_name : List UInt8) :
    Option RadiusSrv :=
  ((radiusconf.find? (·.domain = domain_name)).orElse fun _ => radiusconf.head?).map (·.srv)

/-- The parameters that may be set at any time. -/
structure PortalConf where
  auto_session : Bool := true
  retry_times : Int := 0
  retry_interval : Int := 2
  check_errid : Bool := false
  macbound_timeout : Int := 5
  challenged_timeout : Int := 15
  logout_wait_timeout : Int := 10
  pdc_distributed : Bool := false
  hansi_id : UInt16 := 0
  nasip : UInt32 := 0
  nasipv6 : In6Addr := .zero
  radiusconf : List RadiusDomain := []

/-- What the rest of the system says: about the user's MAC address and station, whether there is memory for
a session and for a socket, random octets, the portal server that is configured for the user, and whether
the DHCP lease of the address is good. -/
structure PortalAnswers where
  make : AppDb.Answers
  sess_mem : Bool
  sock_mem : Nat → Bool
  challenge : List UInt8
  authenticator : Nat → List UInt8
  portal_srv : Option PortalSrv
  dhcp : Bool

inductive AcctStatus
  | RADIUS_STATUS_TYPE_START
  | RADIUS_STATUS_TYPE_STOP
deriving DecidableEq, Repr

/-- A connection that has been set to APPCONN_STATUS_AUTHED: its name and its login, the request that was
accepted, and the login whose REQ_AUTH is acknowledged. -/
structure Authed where
  username : List UInt8
  login : Nat
  req_packet : RadiusReq
  rcvpkt_login : Nat
deriving DecidableEq, Repr

/-- The portal. What has been sent is that of the last step; `acct` has the Accounting-Requests that were made
and `log` the connections that were authenticated. -/
structure Portal where
  db : AppDb
  account : Nat → Account := fun _ => {}
  authed_user_num : Int := 0
  table : SessTable := {}
  radius : Radius
  conf : PortalConf := {}
  prev_reqid : UInt16 := 0
  started : Bool := true
  logins : Nat := 0
  sent : List Ack := []
  acct : List (Nat × AcctStatus) := []
  log : List Authed := []

abbrev PortalM := Prog Portal

namespace Portal

/-! ## Sessions -/

def sessOf (n : Nat) : PortalM PortalSess := ask fun P => P.table.sess n

def setSess (n : Nat) (s : PortalSess) : PortalM Unit :=
  change fun P => (P.table.sess n).map fun _ => { P with table := P.table.setSess n s }

def portalSessFree (n : Nat) : PortalM Unit :=
  change fun P => (P.table.portalSessFree n).map fun T => { P with table := T }

def portalSessFindByUseripx (user_addr : UserAddr) : PortalM (Option Nat) := do
  let x ← ask fun P => P.table.portalSessFindByUseripx user_addr
  modify fun P => { P with table := x.2 }
  pure x.1

/-- The session of an address; if there is none, a new one. -/
def reachSess (user_addr : UserAddr) (mem : Bool) : PortalM (Option Nat) := do
  match ← portalSessFindByUseripx user_addr with
  | some n => pure (some n)
  | none =>
    if mem then do
      let n ← ask fun P => some P.table.brk
      modify fun P => { P with table := P.table.portalSessNew user_addr }
      pure (some n)
    else pure none

/-- `portal_sess_event`: the timer of the session `s`, as it is armed at `P`. -/
def armed (P : Portal) (t : SessTimer) (timeout : Int) (s : PortalSess) : PortalSess :=
  { s with t_timeout := some (t, P.radius.now + timeout) }

/-! ## Acknowledgements -/

def send (ack : Ack) : PortalM Unit := modify fun P => { P with sent := ack :: P.sent }

/-- `reqid_is_used`, for the octets that count. -/
def reqidIsUsed (P : Portal) (mask reqid : UInt16) : Bool :=
  P.table.sess_head.any fun n => (P.table.sess n).any fun s =>
    (s.status = .SESS_STATUS_CHALLENGED ∨ s.status = .SESS_STATUS_ON_CHAPAUTH) ∧
      reqid &&& mask = s.reqid &&& mask

/-- The loop of `portal_detect_unique_reqid`: `n` numbers are left, the next one is `reqid`. -/
def detectReqid (P : Portal) (mask : UInt16) : Nat → UInt16 → Option UInt16
  | 0, _ => none
  | n + 1, reqid =>
    if reqid ≠ 0 ∧ !P.reqidIsUsed mask reqid then some reqid
    else P.detectReqid mask n ((reqid + 1) &&& mask)

/-- `portal_detect_unique_reqid`. -/
def detectUniqueReqid : PortalM UInt16 := do
  let P ← get
  let mask : UInt16 := if P.conf.pdc_distributed then 0xfff else 0xffff
  let next := (P.prev_reqid + 1) &&& mask
  let reqid := (P.detectReqid mask mask.toNat next).getD (if next = 0 then 1 else next)
  modify fun P => { P with prev_reqid := reqid }
  pure (if P.conf.pdc_distributed then P.conf.hansi_id <<< 12 ||| reqid else reqid)

/-- `portal_packet_init_rsp`, with error code 0. -/
def portalPacketInitRsp (env : PortalEnv) (reqpkt : Packet) : PortalM Ack := do
  let user_addr ← ask fun _ => portalPacketInitIpx env reqpkt
  if packetType reqpkt = REQ_CHALLENGE then do
    let reqid ← detectUniqueReqid
    pure { type := ACK_CHALLENGE, req_id := reqid, user_addr := user_addr }
  else if packetType reqpkt = REQ_AUTH then
    pure { type := ACK_AUTH, req_id := packetReqId reqpkt, user_addr := user_addr }
  else if packetType reqpkt = REQ_LOGOUT then pure { type := ACK_LOGOUT, user_addr := user_addr }
  else if packetType reqpkt = REQ_INFO then pure { type := ACK_INFO, user_addr := user_addr }
  else pure { type := 0, user_addr := user_addr }

/-! ## RADIUS requests -/

/-- `radius_req`, and whether a request has been made. -/
def radiusReq (ans : PortalAnswers) (user_addr : UserAddr) (req : RadiusReq) (radius_srv : RadiusSrv)
    (wait : Bool) : PortalM Bool := do
  let R ← ask fun P => some P.radius
  let mem := ans.sock_mem R.requests
  let req := { req with authenticator := ans.authenticator R.requests }
  modify fun P => { P with radius := R.radiusReq user_addr req radius_srv wait mem }
  pure ((Radius.freeId R.sockradius_list).isSome || mem)

def connOf (a : Nat) : PortalM AppConn := ask fun P => P.db.conns a

def accountOf (a : Nat) : PortalM Account := ask fun P => (P.db.conns a).map fun _ => P.account a

def setAccount (a : Nat) (f : Account → Account) : PortalM Unit :=
  change fun P => (P.db.conns a).map fun _ =>
    { P with account := Function.update P.account a (f (P.account a)) }

/-- A name that fits in a RADIUS attribute. -/
def validName (username : List UInt8) : Bool := username ≠ [] ∧ username.length ≤ RADIUS_ATTR_VLEN

/-- `radius_auth`. -/
def radiusAuth (ans : PortalAnswers) (a : Nat) : PortalM Unit := do
  let c ← connOf a
  let x ← accountOf a
  if validName x.username then do
    let _ ← radiusReq ans c.user_addr
      { code := RADIUS_CODE_ACCESS_REQUEST, user_name := x.username, login := some x.login } x.radius_srv true
    pure ()
  else pure ()

/-- `radius_acct_req`. -/
def radiusAcctReq (ans : PortalAnswers) (a : Nat) (status_type : AcctStatus) (wait : Bool) : PortalM Unit := do
  let c ← connOf a
  let x ← accountOf a
  if validName x.username then do
    let made ← radiusReq ans c.user_addr
      { code := RADIUS_CODE_ACCOUNTING_REQUEST, user_name := x.username } x.radius_srv wait
    if made then modify fun P => { P with acct := (a, status_type) :: P.acct } else pure ()
  else pure ()

/-! ## The end of a connection -/

/-- `appconn_del_from_db` and `appconn_free`. -/
def dropAppconn (a : Nat) : PortalM Unit :=
  change fun P => (P.db.appconnDelFromDb a).map fun db => { P with db := db }

/-- `appdb_authed_user_num_decrease`. -/
def authedUserNumDecrease : PortalM Unit :=
  modify fun P => { P with authed_user_num :=
    if P.authed_user_num ≤ 0 then P.authed_user_num else P.authed_user_num - 1 }

/-- What `eag_portal_notify_logout_nowait` does to the session of the user's address. -/
def notifyLogoutNowait (a : Nat) : PortalM Unit := do
  let c ← connOf a
  match ← portalSessFindByUseripx c.user_addr with
  | some n => portalSessFree n
  | none => pure ()

/-- `terminate_appconn`. -/
def terminateAppconn (ans : PortalAnswers) (a : Nat) : PortalM Unit := do
  radiusAcctReq ans a .RADIUS_STATUS_TYPE_STOP true
  setAccount a fun x => { x with authed := false }
  authedUserNumDecrease
  dropAppconn a

/-- `terminate_appconn_nowait`. -/
def terminateAppconnNowait (ans : PortalAnswers) (a : Nat) : PortalM Unit := do
  notifyLogoutNowait a
  radiusAcctReq ans a .RADIUS_STATUS_TYPE_STOP false
  setAccount a fun x => { x with authed := false }
  authedUserNumDecrease
  dropAppconn a

/-- `appconn_clean_conflict`, and what is done in other places to a connection that is to go. -/
def appconnCleanConflict (ans : PortalAnswers) (a : Nat) : PortalM Unit := do
  let x ← accountOf a
  if x.authed then terminateAppconnNowait ans a else dropAppconn a

/-! ## The connection of a user -/

/-- `appconn_find_by_useripx`. -/
def appconnFindByUseripx (ans : PortalAnswers) (user_addr : UserAddr) : PortalM (Option Nat) :=
  if user_addr.family = EAG_IPV4 then ask fun P => P.db.appconnFindByUserip user_addr.user_ip
  else if user_addr.family = EAG_IPV6 then ask fun P => P.db.appconnFindByUseripv6 user_addr.user_ipv6
  else if user_addr.family = EAG_MIX then do
    let appconn_v4 ← ask fun P => P.db.appconnFindByUserip user_addr.user_ip
    let appconn_v6 ← ask fun P => P.db.appconnFindByUseripv6 user_addr.user_ipv6
    match appconn_v4, appconn_v6 with
    | some v4, some v6 =>
      if v4 ≠ v6 then do
        appconnCleanConflict ans v6
        pure (some v4)
      else pure (some v4)
    | some v4, none => pure (some v4)
    | none, v6 => pure v6
  else pure none

/-- `ipxcmp`, as equality. -/
def ipxEq (u v : UserAddr) : Bool :=
  if u.family = EAG_IPV4 ∧ v.family ≠ EAG_IPV6 then u.user_ip = v.user_ip
  else if u.family = EAG_MIX then
    if v.family = EAG_IPV4 then u.user_ip = v.user_ip
    else if v.family = EAG_MIX then u = v
    else if v.family = EAG_IPV6 then u.user_ipv6 = v.user_ipv6
    else false
  else if u.family = EAG_IPV6 ∧ v.family ≠ EAG_IPV4 then u.user_ipv6 = v.user_ipv6
  else false

/-- `appconn_check_is_conflict`: the connection of another address with the same MAC address. -/
def appconnCheckIsConflict (env : PortalEnv) (user_addr : UserAddr) (usermac : Mac) : PortalM (Option Nat) :=
  ask fun P =>
    if usermac = .zero then some none
    else (P.db.appconnFindByUsermac env.host usermac).map fun r =>
      r.filter fun a => (P.db.conns a).any fun c => !ipxEq user_addr c.user_addr

/-- `appconn_create_no_arp`. -/
def appconnCreateNoArp (env : PortalEnv) (ans : PortalAnswers) (user_addr : UserAddr) :
    PortalM (Option Nat) := do
  let x ← ask fun P => some (P.db.appconnCreateNoArp env.host user_addr ans.make)
  modify fun P => { P with db := x.2, account := Function.update P.account P.db.brk {} }
  pure x.1

/-- How a request gets to the connection of its address: that is found, or it is made if `auto` says so. A
connection of another address with the same MAC address is a conflict, and it is the second result. -/
def reach (env : PortalEnv) (ans : PortalAnswers) (auto : Bool) (user_addr : UserAddr) :
    PortalM (Option Nat × Option Nat) := do
  match ← appconnFindByUseripx ans user_addr with
  | some a => pure (some a, none)
  | none =>
    if auto then do
      let conflict ← appconnCheckIsConflict env user_addr ans.make.usermac
      let appconn ← appconnCreateNoArp env ans user_addr
      pure (appconn, conflict)
    else pure (none, none)

/-- `portal_request_check` with the secret that the connection has. -/
def requestCheck (env : PortalEnv) (a : Nat) (pkt : Packet) : PortalM Bool := do
  let x ← accountOf a
  pure ((portalRequestCheck env.protocol env.md5 pkt x.secret).2 = 0)

/-- What the handlers of REQ_CHALLENGE, REQ_AUTH and REQ_LOGOUT have in common. Without a connection, or
with a conflict, the request is rejected, which the telecom protocol does not say; the conflict is removed
then. -/
def serve (env : PortalEnv) (ans : PortalAnswers) (auto : Bool) (user_addr : UserAddr) (pkt : Packet)
    (reject : PortalM Unit) (body : Nat → PortalM Unit) : PortalM Unit := do
  match ← reach env ans auto user_addr with
  | (some a, none) =>
    if ← requestCheck env a pkt then body a else pure ()
  | (_, conflict) => do
    if env.protocol = .PORTAL_PROTOCOL_TELECOM then pure () else reject
    match conflict with
    | some b => appconnCleanConflict ans b
    | none => pure ()

/-- `appconn_config_portalsrv`. -/
def appconnConfigPortalsrv (a : Nat) (srv : PortalSrv) : PortalM Unit :=
  setAccount a fun x => { x with secret := srv.secret, domain_name := srv.domain }

/-- The session of the connection gets the addresses of the service. -/
def configNas (a : Nat) : PortalM Unit := do
  let conf ← ask fun P => some P.conf
  setAccount a fun x => { x with nasip := conf.nasip, nasipv6 := conf.nasipv6 }

end Portal

end Eag
end DaemonGroup
