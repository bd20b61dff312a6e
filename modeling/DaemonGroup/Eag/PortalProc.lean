import DaemonGroup.Eag.Portal
import DaemonGroup.Lib.Run

/-!
# DaemonGroup.Eag.PortalProc

The handlers of the portal's packets, of its timers and of RADIUS replies (`eag_portal.c`, `eag_radius.c`,
`eag_ins.c`), and the steps that the portal is made of (`PortalOp`).

Where a handler cancels the timer of a session and then arms another one or frees the session, the timer is
not cancelled here: both put an end to it.
-/

namespace DaemonGroup
namespace Eag

open Lib Bytes

namespace Portal

/-! ## Challenges -/

/-- What `eag_portal_challenge_proc` does in the session `n`. -/
def challengeSess (ans : PortalAnswers) (pkt : Packet) (rsppkt : Ack) (a n : Nat) : PortalM Unit := do
  let s ← sessOf n
  let x ← accountOf a
  let P ← get
  if packetRsv pkt ≠ 0 then send { rsppkt with err_code := CHALLENGE_FAILED }
  else match s.status with
  | .SESS_STATUS_ON_MACBIND | .SESS_STATUS_LOGOUT_WAIT | .SESS_STATUS_MACBOUND | .SESS_STATUS_NONE =>
    if x.authed then do
      setSess n { s with t_timeout := none }
      send { rsppkt with err_code := CHALLENGE_CONNECTED }
    else do
      setSess n (P.armed .SESS_CHALLENGED_TIMEOUT P.conf.challenged_timeout
        { s with status := .SESS_STATUS_CHALLENGED, challenge := ans.challenge, reqid := rsppkt.req_id })
      send { rsppkt with challenge := ans.challenge }
  | .SESS_STATUS_CHALLENGED => send { rsppkt with req_id := s.reqid, challenge := s.challenge }
  | .SESS_STATUS_ON_PAPAUTH | .SESS_STATUS_ON_CHAPAUTH => send { rsppkt with err_code := CHALLENGE_ONAUTH }
  | .SESS_STATUS_AFF_WAIT | .SESS_STATUS_NTF_LOGOUT_WAIT =>
    send { rsppkt with err_code := if x.authed then CHALLENGE_CONNECTED else CHALLENGE_REJECT }

/-- `eag_portal_challenge_proc`. -/
def challengeProc (env : PortalEnv) (ans : PortalAnswers) (pkt : Packet) : PortalM Unit := do
  let user_addr ← ask fun _ => portalPacketInitIpx env pkt
  let rsppkt ← portalPacketInitRsp env pkt
  let conf ← ask fun P => some P.conf
  let reject := send { rsppkt with err_code := CHALLENGE_REJECT }
  if conf.check_errid ∧ env.protocol = .PORTAL_PROTOCOL_MOBILE ∧ !ans.dhcp then reject
  else serve env ans conf.auto_session user_addr pkt reject fun a => do
    configNas a
    match ← reachSess user_addr ans.sess_mem with
    | none => reject
    | some n => challengeSess ans pkt rsppkt a n

/-! ## Logins -/

/-- The session is freed and the login is rejected. -/
def refuse (rsppkt : Ack) (n : Nat) : PortalM Unit := do
  portalSessFree n
  send { rsppkt with err_code := PORTAL_AUTH_REJECT }

/-- A login is sent to the RADIUS server. -/
def sendLogin (ans : PortalAnswers) (pkt : Packet) (username : List UInt8) (status : SessStatus) (a n : Nat) :
    PortalM Unit := do
  let login ← ask fun P => some P.logins
  modify fun P => { P with logins := P.logins + 1 }
  setAccount a fun x => { x with on_auth := true, login := login }
  configNas a
  radiusAuth ans a
  let s ← sessOf n
  let P ← get
  let R := P.radius
  setSess n (P.armed .SESS_ONAUTH_TIMEOUT (int (R.retry_interval * (R.retry_times + R.vice_retry_times + 1)))
    { s with rcvpkt := pkt, status := status, username := username, login := login })

/-- What both handlers of REQ_AUTH do to let a user in: the name, its domain and the password are checked,
and then the RADIUS server is asked. -/
def startLogin (env : PortalEnv) (ans : PortalAnswers) (pkt : Packet) (rsppkt : Ack) (username : List UInt8)
    (passwd : Bool) (status : SessStatus) (a n : Nat) : PortalM Unit := do
  setAccount a fun x => { x with username := username }
  if env.protocol = .PORTAL_PROTOCOL_TELECOM ∧ PORTAL_TELECOM_USERNAME_LEN < username.length then
    refuse rsppkt n
  else do
    let conf ← ask fun P => some P.conf
    setAccount a fun x =>
      let y := divUsernameAndDomain conf.radiusconf x.username x.domain_name
      { x with username := y.1, domain_name := y.2 }
    let x ← accountOf a
    if x.username = [] then refuse rsppkt n
    else match configRadiussrvByDomain conf.radiusconf x.domain_name with
    | none => refuse rsppkt n
    | some srv => do
      setAccount a fun x => { x with radius_srv := srv }
      if passwd then sendLogin ans pkt username status a n else refuse rsppkt n

/-- A REQ_AUTH has a password of the length that CHAP has. -/
def chapPasswd (env : PortalEnv) (pkt : Packet) : Bool :=
  (portalPacketGetAttr env.protocol pkt ATTR_CHAPPASSWORD).any fun attr =>
    pkt (attr + 1) = RADIUS_PASSWORD_LEN + 2

/-- A REQ_AUTH has a password that is not empty. -/
def papPasswd (env : PortalEnv) (pkt : Packet) : Bool :=
  (portalPacketGetAttr env.protocol pkt ATTR_PASSWORD).any fun attr => ¬ pkt (attr + 1) < 3

/-- What `eag_portal_chapauth_proc` does in the session `n`. -/
def chapauthSess (env : PortalEnv) (ans : PortalAnswers) (pkt : Packet) (rsppkt : Ack) (username : List UInt8)
    (a n : Nat) : PortalM Unit := do
  let s ← sessOf n
  let x ← accountOf a
  match s.status with
  | .SESS_STATUS_NONE => do
    portalSessFree n
    send { rsppkt with err_code := if x.authed then PORTAL_AUTH_CONNECTED else PORTAL_AUTH_REJECT }
  | .SESS_STATUS_ON_MACBIND | .SESS_STATUS_MACBOUND | .SESS_STATUS_LOGOUT_WAIT =>
    send { rsppkt with err_code := PORTAL_AUTH_REJECT }
  | .SESS_STATUS_CHALLENGED =>
    if packetReqId pkt ≠ s.reqid then refuse rsppkt n
    else startLogin env ans pkt rsppkt username (chapPasswd env pkt) .SESS_STATUS_ON_CHAPAUTH a n
  | .SESS_STATUS_ON_PAPAUTH | .SESS_STATUS_ON_CHAPAUTH => send { rsppkt with err_code := PORTAL_AUTH_ONAUTH }
  | .SESS_STATUS_AFF_WAIT => send rsppkt
  | .SESS_STATUS_NTF_LOGOUT_WAIT =>
    send { rsppkt with err_code := if x.authed then PORTAL_AUTH_CONNECTED else PORTAL_AUTH_REJECT }

/-- What `eag_portal_papauth_proc` does in the session `n`. -/
def papauthSess (env : PortalEnv) (ans : PortalAnswers) (pkt : Packet) (rsppkt : Ack) (username : List UInt8)
    (a n : Nat) : PortalM Unit := do
  let s ← sessOf n
  let x ← accountOf a
  match s.status with
  | .SESS_STATUS_ON_MACBIND | .SESS_STATUS_CHALLENGED | .SESS_STATUS_LOGOUT_WAIT | .SESS_STATUS_MACBOUND
  | .SESS_STATUS_NONE =>
    if x.authed then do
      portalSessFree n
      send { rsppkt with err_code := PORTAL_AUTH_CONNECTED }
    else startLogin env ans pkt rsppkt username (papPasswd env pkt) .SESS_STATUS_ON_PAPAUTH a n
  | .SESS_STATUS_ON_CHAPAUTH | .SESS_STATUS_ON_PAPAUTH => send { rsppkt with err_code := PORTAL_AUTH_ONAUTH }
  | .SESS_STATUS_AFF_WAIT => send rsppkt
  | .SESS_STATUS_NTF_LOGOUT_WAIT =>
    send { rsppkt with err_code := if x.authed then PORTAL_AUTH_CONNECTED else PORTAL_AUTH_REJECT }

/-- What `eag_portal_chapauth_proc` and `eag_portal_papauth_proc` have in common. `nas` says whether the
connection gets the addresses of the service at once; `sess` is what they do in the session. -/
def authProc (env : PortalEnv) (ans : PortalAnswers) (pkt : Packet) (nas : Bool)
    (sess : Ack → List UInt8 → Nat → Nat → PortalM Unit) : PortalM Unit := do
  let user_addr ← ask fun _ => portalPacketInitIpx env pkt
  let rsppkt ← portalPacketInitRsp env pkt
  let username ← ask fun _ => packetUsername env pkt
  let conf ← ask fun P => some P.conf
  let reject := send { rsppkt with err_code := PORTAL_AUTH_REJECT }
  serve env ans conf.auto_session user_addr pkt reject fun a => do
    (if nas then configNas a else pure () : PortalM Unit)
    match ans.portal_srv with
    | none => reject
    | some srv => do
      appconnConfigPortalsrv a srv
      match ← reachSess user_addr ans.sess_mem with
      | none => reject
      | some n => do
        let s ← sessOf n
        setSess n { s with username := username }
        sess rsppkt username a n

/-- `eag_portal_chapauth_proc`. -/
def chapauthProc (env : PortalEnv) (ans : PortalAnswers) (pkt : Packet) : PortalM Unit :=
  authProc env ans pkt true (chapauthSess env ans pkt)

/-- `eag_portal_papauth_proc`. -/
def papauthProc (env : PortalEnv) (ans : PortalAnswers) (pkt : Packet) : PortalM Unit :=
  authProc env ans pkt false (papauthSess env ans pkt)

/-- `eag_portal_auth_failure`. -/
def authFailure (env : PortalEnv) (ans : PortalAnswers) (user_addr : UserAddr) (err_code : UInt8) :
    PortalM Unit := do
  match ← portalSessFindByUseripx user_addr with
  | none => pure ()
  | some n => do
    let _ ← appconnFindByUseripx ans user_addr
    let s ← sessOf n
    if s.onAuth ∧ packetType s.rcvpkt = REQ_AUTH then do
      let rsppkt ← portalPacketInitRsp env s.rcvpkt
      send { rsppkt with err_code := err_code }
      portalSessFree n
    else pure ()

/-- What `eag_portal_auth_success` does with the session `n` that waits for it: the user is counted, the
REQ_AUTH is acknowledged, the connection is authenticated and accounting is told. -/
def authorize (env : PortalEnv) (ans : PortalAnswers) (req : RadiusReq) (a n : Nat) (s : PortalSess) :
    PortalM Unit := do
  modify fun P => { P with authed_user_num := P.authed_user_num + 1 }
  let rsppkt ← portalPacketInitRsp env s.rcvpkt
  send rsppkt
  let P ← get
  setSess n (P.armed .SESS_AFF_WAIT_TIMEOUT P.conf.retry_interval
    { s with status := .SESS_STATUS_AFF_WAIT, retry_count := 0 })
  let x ← accountOf a
  setAccount a fun x => { x with authed := true }
  modify fun P => { P with log := ⟨x.username, x.login, req, s.login⟩ :: P.log }
  radiusAcctReq ans a .RADIUS_STATUS_TYPE_START true

/-- `eag_portal_auth_success`, for the request that was accepted. -/
def authSuccess (env : PortalEnv) (ans : PortalAnswers) (req : RadiusReq) (a : Nat) : PortalM Unit := do
  let c ← connOf a
  match ← portalSessFindByUseripx c.user_addr with
  | none => pure ()
  | some n => do
    let s ← sessOf n
    if s.onAuth ∧ packetType s.rcvpkt = REQ_AUTH then authorize env ans req a n s else pure ()

/-- `access_accept_proc`. -/
def accessAcceptProc (env : PortalEnv) (ans : PortalAnswers) (user_addr : UserAddr) (req : RadiusReq) :
    PortalM Unit := do
  match ← appconnFindByUseripx ans user_addr with
  | none => authFailure env ans user_addr PORTAL_AUTH_REJECT
  | some a => do
    let x ← accountOf a
    if x.on_auth then do
      setAccount a fun x => { x with on_auth := false }
      authSuccess env ans req a
    else authFailure env ans user_addr PORTAL_AUTH_REJECT

/-- The connection of an address, if there is one, is not on authentication any more. -/
def endAuth (ans : PortalAnswers) (user_addr : UserAddr) : PortalM Unit := do
  match ← appconnFindByUseripx ans user_addr with
  | none => pure ()
  | some a => setAccount a fun x => { x with on_auth := false }

/-- `access_reject_proc`; the error code is the one that is configured for the reply message. -/
def accessRejectProc (env : PortalEnv) (ans : PortalAnswers) (user_addr : UserAddr) (err_code : UInt8) :
    PortalM Unit := do
  endAuth ans user_addr
  authFailure env ans user_addr err_code

/-- `sockradius_receive` on the socket `k`. -/
def sockradiusReceive (env : PortalEnv) (ans : PortalAnswers) (k : Nat) (packet : Packet) (nbyte : Nat)
    (radius_ip : UInt32) (radius_port : UInt16) (err_code : UInt8) : PortalM Unit := do
  let P ← get
  match P.radius.answeredId env.md5 k packet nbyte radius_ip radius_port with
  | none => pure ()
  | some r => do
    modify fun P => { P with radius := P.radius.answer env.md5 k packet r }
    if packet 0 = RADIUS_CODE_ACCESS_ACCEPT then accessAcceptProc env ans r.user_addr r.req_packet
    else if packet 0 = RADIUS_CODE_ACCESS_REJECT then accessRejectProc env ans r.user_addr err_code
    else do
      let _ ← appconnFindByUseripx ans r.user_addr
      pure ()

/-! ## Logouts -/

/-- What `eag_portal_logout_proc` does in the session `n`. A request with `rsv` gets the error code itself. -/
def logoutSess (ans : PortalAnswers) (pkt : Packet) (rsppkt : Ack) (a n : Nat) : PortalM Unit := do
  let s ← sessOf n
  let x ← accountOf a
  if packetRsv pkt ≠ 0 then send rsppkt
  else match s.status with
  | .SESS_STATUS_AFF_WAIT | .SESS_STATUS_NONE =>
    if x.authed then do
      send rsppkt
      terminateAppconn ans a
      let P ← get
      setSess n (P.armed .SESS_LOGOUT_WAIT_TIMEOUT P.conf.logout_wait_timeout
        { s with status := .SESS_STATUS_LOGOUT_WAIT })
    else do
      portalSessFree n
      send { rsppkt with err_code := EC_ACK_LOGOUT_REJECT }
  | .SESS_STATUS_LOGOUT_WAIT => send rsppkt
  | .SESS_STATUS_ON_MACBIND | .SESS_STATUS_MACBOUND | .SESS_STATUS_ON_CHAPAUTH | .SESS_STATUS_ON_PAPAUTH
  | .SESS_STATUS_NTF_LOGOUT_WAIT => send { rsppkt with err_code := EC_ACK_LOGOUT_REJECT }
  | .SESS_STATUS_CHALLENGED => send { rsppkt with err_code := EC_ACK_LOGOUT_FAILED }

/-- `eag_portal_logout_proc`. -/
def logoutProc (env : PortalEnv) (ans : PortalAnswers) (pkt : Packet) : PortalM Unit := do
  let user_addr ← ask fun _ => portalPacketInitIpx env pkt
  let rsppkt ← portalPacketInitRsp env pkt
  let reject := send { rsppkt with err_code := EC_ACK_LOGOUT_REJECT }
  serve env ans true user_addr pkt reject fun a => do
    match ← reachSess user_addr ans.sess_mem with
    | none => reject
    | some n => logoutSess ans pkt rsppkt a n

/-- `eag_portal_logout_errcode1_proc`: the connection is looked for. -/
def logoutErrcode1Proc (env : PortalEnv) (ans : PortalAnswers) (pkt : Packet) : PortalM Unit := do
  let user_addr ← ask fun _ => portalPacketInitIpx env pkt
  let _ ← appconnFindByUseripx ans user_addr
  pure ()

/-- What the handlers of ACK_LOGOUT, AFF_ACK_AUTH and ACK_MACBINDING_INFO have in common: the connection and
the session are looked for, and `sess` is done with them. `check` says whether the authenticator of the
packet is looked at. -/
def acknowledged (env : PortalEnv) (ans : PortalAnswers) (pkt : Packet) (check : Bool)
    (sess : Nat → Nat → PortalM Unit) : PortalM Unit := do
  let user_addr ← ask fun _ => portalPacketInitIpx env pkt
  match ← appconnFindByUseripx ans user_addr with
  | none => pure ()
  | some a =>
    let passed ← requestCheck env a pkt
    if check && !passed then pure ()
    else match ← portalSessFindByUseripx user_addr with
      | none => pure ()
      | some n => sess a n

/-- What `eag_portal_ack_logout_proc` does in the session `n`. -/
def ackLogoutSess (ans : PortalAnswers) (a n : Nat) : PortalM Unit := do
  let s ← sessOf n
  let x ← accountOf a
  match s.status with
  | .SESS_STATUS_NONE => portalSessFree n
  | .SESS_STATUS_NTF_LOGOUT_WAIT =>
    if x.authed then do
      setAccount a fun x => { x with on_ntf_logout := false }
      terminateAppconn ans a
      portalSessFree n
    else portalSessFree n
  | _ => pure ()

/-- `eag_portal_ack_logout_proc`. -/
def ackLogoutProc (env : PortalEnv) (ans : PortalAnswers) (pkt : Packet) : PortalM Unit :=
  acknowledged env ans pkt false (ackLogoutSess ans)

/-- What `eag_portal_aff_ack_auth_proc` does in the session `n`. -/
def affAckAuthSess (n : Nat) : PortalM Unit := do
  let s ← sessOf n
  match s.status with
  | .SESS_STATUS_NONE | .SESS_STATUS_AFF_WAIT => portalSessFree n
  | _ => pure ()

/-- `eag_portal_aff_ack_auth_proc`. -/
def affAckAuthProc (env : PortalEnv) (ans : PortalAnswers) (pkt : Packet) : PortalM Unit :=
  acknowledged env ans pkt true fun _ n => affAckAuthSess n

/-- What `eag_portal_ack_macbind_proc` does in the session `n`. -/
def ackMacbindSess (pkt : Packet) (n : Nat) : PortalM Unit := do
  let s ← sessOf n
  let P ← get
  match s.status with
  | .SESS_STATUS_NONE => portalSessFree n
  | .SESS_STATUS_ON_MACBIND =>
    if packetErrCode pkt = 1 then portalSessFree n
    else setSess n (P.armed .SESS_MACBOUND_TIMEOUT P.conf.macbound_timeout
      { s with status := .SESS_STATUS_MACBOUND })
  | _ => pure ()

/-- `eag_portal_ack_macbind_proc`. -/
def ackMacbindProc (env : PortalEnv) (ans : PortalAnswers) (pkt : Packet) : PortalM Unit :=
  acknowledged env ans pkt false fun _ n => ackMacbindSess pkt n

/-- The answer of `eag_portal_reqinfo_proc` has something in it. -/
def infoFound (env : PortalEnv) (pkt : Packet) (authed : Bool) : Bool :=
  env.protocol = .PORTAL_PROTOCOL_MOBILE ∨ (portalPacketGetAttr env.protocol pkt ATTR_PORT_ID).isSome ∨
    ((portalPacketGetAttr env.protocol pkt ATTR_UPLINKFLUX).isSome ∧ authed)

/-- `eag_portal_reqinfo_proc`. A conflict is not removed here. -/
def reqinfoProc (env : PortalEnv) (ans : PortalAnswers) (pkt : Packet) : PortalM Unit := do
  let user_addr ← ask fun _ => portalPacketInitIpx env pkt
  let rsppkt ← portalPacketInitRsp env pkt
  match ← reach env ans true user_addr with
  | (some a, none) =>
    if ← requestCheck env a pkt then do
      let x ← accountOf a
      send (if infoFound env pkt x.authed then rsppkt else { rsppkt with err_code := EC_ACK_INFO_FAILED })
    else pure ()
  | _ =>
    if env.protocol = .PORTAL_PROTOCOL_TELECOM then pure ()
    else send { rsppkt with err_code := EC_ACK_INFO_FAILED }

/-- The MAC address of a REQ_USER_OFFLINE. -/
def packetUsermac (env : PortalEnv) (pkt : Packet) : Option Mac :=
  (portalPacketGetAttr env.protocol pkt ATTR_USERMAC).bind fun attr =>
    if pkt (attr + 1) = 8 then
      some ⟨pkt (attr + 2), pkt (attr + 3), pkt (attr + 4), pkt (attr + 5), pkt (attr + 6), pkt (attr + 7)⟩
    else none

/-- `eag_portal_user_offline_proc`. -/
def userOfflineProc (env : PortalEnv) (ans : PortalAnswers) (pkt : Packet) : PortalM Unit := do
  let user_addr ← ask fun _ => portalPacketInitIpx env pkt
  match packetUsermac env pkt with
  | none => pure ()
  | some usermac =>
    match ← appconnFindByUseripx ans user_addr with
    | none => pure ()
    | some a => do
      let c ← connOf a
      let x ← accountOf a
      if c.usermac ≠ usermac then pure ()
      else if x.authed then do
        notifyLogoutNowait a
        terminateAppconn ans a
      else dropAppconn a

/-- `portal_proc_packet`. -/
def portalProcPacket (env : PortalEnv) (ans : PortalAnswers) (pkt : Packet) : PortalM Unit := do
  let _ ← ask fun _ => portalPacketInitIpx env pkt
  if packetType pkt = REQ_CHALLENGE then challengeProc env ans pkt
  else if packetType pkt = REQ_AUTH then
    if packetAuthType pkt = AUTH_CHAP then chapauthProc env ans pkt
    else if packetAuthType pkt = AUTH_PAP then papauthProc env ans pkt
    else pure ()
  else if packetType pkt = REQ_LOGOUT then
    if packetErrCode pkt = 0 then logoutProc env ans pkt
    else if packetErrCode pkt = 1 then logoutErrcode1Proc env ans pkt
    else pure ()
  else if packetType pkt = ACK_LOGOUT then ackLogoutProc env ans pkt
  else if packetType pkt = AFF_ACK_AUTH then affAckAuthProc env ans pkt
  else if packetType pkt = REQ_INFO then reqinfoProc env ans pkt
  else if packetType pkt = ACK_MACBINDING_INFO then ackMacbindProc env ans pkt
  else if packetType pkt = REQ_USER_OFFLINE then userOfflineProc env ans pkt
  else pure ()

/-- The checks of `portal_receive` on the size and the length. -/
def portalAccepts (env : PortalEnv) (pkt : Packet) (nbyte : Nat) : Prop :=
  portalPacketMinsize env.protocol ≤ nbyte ∧ nbyte ≤ PORTAL_PACKET_SIZE ∧
    nbyte = portalPacketGetLength env.protocol pkt

instance (env : PortalEnv) (pkt : Packet) (nbyte : Nat) : Decidable (portalAccepts env pkt nbyte) :=
  inferInstanceAs (Decidable (_ ∧ _))

/-- The types that `portal_receive` lets through. -/
def portalTypes : List UInt8 :=
  [REQ_CHALLENGE, REQ_AUTH, REQ_LOGOUT, ACK_LOGOUT, AFF_ACK_AUTH, REQ_INFO, ACK_MACBINDING_INFO, REQ_USER_OFFLINE]

/-- `portal_receive`. -/
def portalReceive (env : PortalEnv) (ans : PortalAnswers) (pkt : Packet) (nbyte : Nat) : PortalM Unit := do
  let started ← ask fun P => some P.started
  if started ∧ portalAccepts env pkt nbyte ∧ packetType pkt ∈ portalTypes then portalProcPacket env ans pkt
  else pure ()


/-! ## Timers of sessions -/

/-- The timer of the session has fired. -/
def fired (s : PortalSess) : PortalSess := { s with t_timeout := none }

/-- `eag_portal_onmacbind_timeout`. -/
def onmacbindTimeout (ans : PortalAnswers) (n : Nat) : PortalM Unit := do
  let s ← sessOf n
  setSess n (fired s)
  match ← appconnFindByUseripx ans s.user_addr with
  | none => portalSessFree n
  | some _ => do
    let P ← get
    if s.retry_count < P.conf.retry_times then
      setSess n (P.armed .SESS_ONMACBIND_TIMEOUT P.conf.retry_interval { s with retry_count := s.retry_count + 1 })
    else portalSessFree n

/-- `eag_portal_onauth_timeout`. -/
def onauthTimeout (env : PortalEnv) (ans : PortalAnswers) (n : Nat) : PortalM Unit := do
  let s ← sessOf n
  setSess n (fired s)
  let rsppkt ← portalPacketInitRsp env s.rcvpkt
  send { rsppkt with err_code := PORTAL_AUTH_REJECT }
  endAuth ans s.user_addr
  portalSessFree n

/-- `eag_portal_aff_wait_timeout`. -/
def affWaitTimeout (env : PortalEnv) (ans : PortalAnswers) (n : Nat) : PortalM Unit := do
  let s ← sessOf n
  setSess n (fired s)
  let P ← get
  if s.retry_count < P.conf.retry_times then do
    let rsppkt ← portalPacketInitRsp env s.rcvpkt
    let _ ← appconnFindByUseripx ans s.user_addr
    send rsppkt
    let P ← get
    setSess n (P.armed .SESS_AFF_WAIT_TIMEOUT P.conf.retry_interval { s with retry_count := s.retry_count + 1 })
  else portalSessFree n

/-- `eag_portal_ntf_logout_wait_timeout`. -/
def ntfLogoutWaitTimeout (ans : PortalAnswers) (n : Nat) : PortalM Unit := do
  let s ← sessOf n
  setSess n (fired s)
  match ← appconnFindByUseripx ans s.user_addr with
  | none => portalSessFree n
  | some a => do
    let P ← get
    if s.retry_count < P.conf.retry_times then
      setSess n (P.armed .SESS_NTF_LOGOUT_WAIT_TIMEOUT P.conf.retry_interval
        { s with retry_count := s.retry_count + 1 })
    else do
      setAccount a fun x => { x with on_ntf_logout := false }
      terminateAppconn ans a
      portalSessFree n

/-- The timer of the session `n` fires, if it is due. Those of a session that is MACBOUND, CHALLENGED or in
LOGOUT_WAIT free it (`eag_portal_macbound_timeout`, `eag_portal_challenged_timeout`,
`eag_portal_logout_wait_timeout`). -/
def sessTimeout (env : PortalEnv) (ans : PortalAnswers) (n : Nat) : PortalM Unit := do
  let P ← get
  match (P.table.sess n).bind (·.t_timeout) with
  | none => pure ()
  | some (t, due) =>
    if P.radius.now < due then pure ()
    else match t with
      | .SESS_ONMACBIND_TIMEOUT => onmacbindTimeout ans n
      | .SESS_MACBOUND_TIMEOUT | .SESS_CHALLENGED_TIMEOUT | .SESS_LOGOUT_WAIT_TIMEOUT => portalSessFree n
      | .SESS_ONAUTH_TIMEOUT => onauthTimeout env ans n
      | .SESS_AFF_WAIT_TIMEOUT => affWaitTimeout env ans n
      | .SESS_NTF_LOGOUT_WAIT_TIMEOUT => ntfLogoutWaitTimeout ans n

/-! ## Timers of RADIUS ids -/

/-- The timer of an id fires, if it is due: `radius_id_retry_timeout` and `radius_id_status_timeout`. -/
def idTimeout (ans : PortalAnswers) (k : Nat) (i : UInt8) : PortalM Unit := do
  let P ← get
  match P.radius.dueId k i with
  | none => pure ()
  | some (r, .RADIUS_ID_RETRY_TIMEOUT) => do
    let _ ← appconnFindByUseripx ans r.user_addr
    let s ← ask fun P => P.radius.sockradius_list[k]?
    modify fun P => { P with radius := P.radius.radiusIdRetryTimeout k i (s.id i) }
  | some (r, .RADIUS_ID_STATUS_TIMEOUT) =>
    modify fun P => { P with radius := P.radius.radiusIdStatusTimeout k i r }

/-! ## Logouts that the portal server is told of -/

/-- `eag_portal_notify_logout`. -/
def notifyLogout (ans : PortalAnswers) (a : Nat) : PortalM Unit := do
  let c ← connOf a
  match ← reachSess c.user_addr ans.sess_mem with
  | none => pure ()
  | some n => do
    let s ← sessOf n
    let P ← get
    if s.status = .SESS_STATUS_NTF_LOGOUT_WAIT then pure ()
    else setSess n (P.armed .SESS_NTF_LOGOUT_WAIT_TIMEOUT P.conf.retry_interval
      { s with status := .SESS_STATUS_NTF_LOGOUT_WAIT, retry_count := 0 })

/-- What is done to a user who is to be logged out: its time or its volume is used up, or it is kicked. A kick by
address, MAC address or number does not look at whether the portal server knows already, one by name does. -/
def logoutUser (ans : PortalAnswers) (a : Nat) (again : Bool) : PortalM Unit := do
  let x ← accountOf a
  if x.authed ∧ (again ∨ !x.on_ntf_logout) then do
    notifyLogout ans a
    setAccount a fun x => { x with on_ntf_logout := true }
  else pure ()

/-- `eag_portal_proc_dm_request`, for the connection that a Disconnect-Request is for. -/
def procDmRequest (ans : PortalAnswers) (a : Nat) : PortalM Unit := do
  let x ← accountOf a
  if x.authed ∧ !x.on_ntf_logout then do
    let c ← connOf a
    match ← reachSess c.user_addr ans.sess_mem with
    | none => pure ()
    | some n => do
      let s ← sessOf n
      match s.status with
      | .SESS_STATUS_AFF_WAIT | .SESS_STATUS_NONE => do
        setSess n { s with t_timeout := none, is_dm_logout := true }
        setAccount a fun x => { x with on_ntf_logout := true }
        notifyLogout ans a
      | _ => pure ()
  else pure ()

/-- `eag_portal_macbind_req`. -/
def macbindReq (ans : PortalAnswers) (a : Nat) : PortalM Unit := do
  let c ← connOf a
  match ← reachSess c.user_addr ans.sess_mem with
  | none => pure ()
  | some n => do
    let s ← sessOf n
    let P ← get
    match s.status with
    | .SESS_STATUS_NONE | .SESS_STATUS_LOGOUT_WAIT =>
      setSess n (P.armed .SESS_ONMACBIND_TIMEOUT P.conf.retry_interval
        { s with status := .SESS_STATUS_ON_MACBIND, retry_count := 0 })
    | _ => pure ()

/-! ## The service -/

/-- `terminate_appconn_all` and `terminate_appconn_by_interface`: the connections with `p` go. -/
def terminateAppconnAll (ans : PortalAnswers) (p : Nat → Bool) : PortalM Unit := do
  let P ← get
  P.db.head.forM fun a => if p a then appconnCleanConflict ans a else pure ()

/-- `eag_portal_stop`: all sessions are freed. -/
def portalStop : PortalM Unit := do
  let P ← get
  P.table.sess_head.forM portalSessFree

/-- `eag_ins_stop` on a master. -/
def insStop (ans : PortalAnswers) : PortalM Unit := do
  let P ← get
  if P.started then do
    terminateAppconnAll ans fun _ => true
    portalStop
    modify fun P => { P with radius := { P.radius with sockradius_list := [] }, started := false }
  else pure ()

/-- `appconn_create_by_sta_v2`, which other parts call; it configures the portal server. -/
def appconnCreateByStaV2 (env : PortalEnv) (ans : PortalAnswers) (user_addr : UserAddr) : PortalM Unit := do
  let x ← ask fun P => some (P.db.appconnCreateByStaV2 env.host user_addr ans.make)
  modify fun P => { P with db := x.2, account := Function.update P.account P.db.brk {} }
  match x.1, ans.portal_srv with
  | some a, some srv => appconnConfigPortalsrv a srv
  | _, _ => pure ()

/-- A user leaves: it goes to another network, for instance. -/
def leave (ans : PortalAnswers) (a : Nat) : PortalM Unit := do
  let x ← accountOf a
  if x.authed then do
    notifyLogoutNowait a
    terminateAppconn ans a
  else dropAppconn a

/-- A connection that is not authenticated is removed after a time. -/
def idle (a : Nat) : PortalM Unit := do
  let x ← accountOf a
  if x.authed then pure () else dropAppconn a

end Portal

/-- What can happen. Connections are made, updated and removed by other parts of the system as well; the
parameters may be set at any time. -/
inductive PortalOp
  | receive (ans : PortalAnswers) (pkt : Packet) (nbyte : Nat)
  | reply (ans : PortalAnswers) (k : Nat) (packet : Packet) (nbyte : Nat) (radius_ip : UInt32)
      (radius_port : UInt16) (err_code : UInt8)
  | sessTimer (ans : PortalAnswers) (n : Nat)
  | idTimer (ans : PortalAnswers) (k : Nat) (i : UInt8)
  | dmRequest (ans : PortalAnswers) (a : Nat)
  | logoutUser (ans : PortalAnswers) (a : Nat) (again : Bool)
  | macbindReq (ans : PortalAnswers) (a : Nat)
  | createBySta (ans : PortalAnswers) (user_addr : UserAddr)
  | ipxUpdate (a : Nat) (user_addr : UserAddr)
  | cleanConflict (ans : PortalAnswers) (a : Nat)
  | leave (ans : PortalAnswers) (a : Nat)
  | idle (a : Nat)
  | interfaceDown (ans : PortalAnswers) (p : Nat → Bool)
  | stop (ans : PortalAnswers)
  | start
  | configPortalsrv (a : Nat) (srv : PortalSrv)
  | setRetryParams (retry_interval retry_times vice_retry_times : Int)
  | configure (conf : PortalConf)
  | tick (seconds : Nat)

namespace PortalOp

open Portal

/-- The program of a step. -/
def prog (env : PortalEnv) : PortalOp → PortalM Unit
  | receive ans pkt nbyte => portalReceive env ans pkt nbyte
  | reply ans k packet nbyte radius_ip radius_port err_code =>
    sockradiusReceive env ans k packet nbyte radius_ip radius_port err_code
  | sessTimer ans n => sessTimeout env ans n
  | idTimer ans k i => idTimeout ans k i
  | dmRequest ans a => procDmRequest ans a
  | logoutUser ans a again => Portal.logoutUser ans a again
  | macbindReq ans a => Portal.macbindReq ans a
  | createBySta ans user_addr => appconnCreateByStaV2 env ans user_addr
  | ipxUpdate a user_addr => modify fun P => { P with db := P.db.appconnIpxUpdate a user_addr }
  | cleanConflict ans a => appconnCleanConflict ans a
  | leave ans a => Portal.leave ans a
  | idle a => Portal.idle a
  | interfaceDown ans p => terminateAppconnAll ans p
  | stop ans => insStop ans
  | start => modify fun P => { P with started := true }
  | configPortalsrv a srv => appconnConfigPortalsrv a srv
  | setRetryParams retry_interval retry_times vice_retry_times =>
    modify fun P => { P with radius := P.radius.setRetryParams retry_interval retry_times vice_retry_times }
  | configure conf => modify fun P => { P with conf := conf }
  | tick seconds => modify fun P => { P with radius := { P.radius with now := P.radius.now + seconds } }

/-- A step; what has been sent before is forgotten. -/
def step (env : PortalEnv) (P : Portal) (op : PortalOp) : Option Portal :=
  (op.prog env { P with sent := [] }).map Prod.snd

end PortalOp

/-- The portal at the start, with the connections and the sockets that there are. -/
def Portal.create (hash_num : UInt32) (retry_interval retry_times vice_retry_times now : Int) : Portal :=
  { db := AppDb.create hash_num
    radius := ⟨retry_interval, retry_times, vice_retry_times, [], 0, now, []⟩ }

end Eag
end DaemonGroup
