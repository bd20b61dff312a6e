import DaemonGroup.Eag.Appconn
import DaemonGroup.Eag.Packets

/-!
# DaemonGroup.Eag.Radius

The RADIUS client of the portal (`eag_radius.c`): the ids of its sockets, their timers, and what replies
do to them. Requests are numbered in the order in which they are made.

The log says which ids were taken, what was sent to which server, and which replies were accepted. What
is put into a request and whether there is memory for a socket are inputs.
-/

namespace DaemonGroup
namespace Eag

def RADIUS_CODE_ACCESS_REQUEST : UInt8 := 1
def RADIUS_CODE_ACCESS_ACCEPT : UInt8 := 2
def RADIUS_CODE_ACCESS_REJECT : UInt8 := 3
def RADIUS_CODE_ACCOUNTING_RESPONSE : UInt8 := 5

/-- The value of `n` as an `int`, of 32 bits. -/
def int (n : Int) : Int := (Int32.ofInt n).toInt

theorem int_eq {n : Int} (h : 0 ≤ n) (h' : n < 2 ^ 31) : int n = n :=
  Int32.toInt_ofInt_of_le (by omega) h'

/-- `struct radius_srv_t`. -/
structure RadiusSrv where
  auth_ip : UInt32 := 0
  auth_port : UInt16 := 0
  auth_secret : List UInt8 := []
  acct_ip : UInt32 := 0
  acct_port : UInt16 := 0
  acct_secret : List UInt8 := []
  backup_auth_ip : UInt32 := 0
  backup_auth_port : UInt16 := 0
  backup_acct_ip : UInt32 := 0
  backup_acct_port : UInt16 := 0
deriving DecidableEq, Repr

/-- What `sock_radius_req` makes of the servers: a backup server that is not set is the server itself. -/
def RadiusSrv.withBackup (srv : RadiusSrv) : RadiusSrv :=
  { srv with
    backup_auth_ip := if srv.backup_auth_ip = 0 then srv.auth_ip else srv.backup_auth_ip
    backup_auth_port := if srv.backup_auth_ip = 0 then srv.auth_port else srv.backup_auth_port
    backup_acct_ip := if srv.backup_acct_ip = 0 then srv.acct_ip else srv.backup_acct_ip
    backup_acct_port := if srv.backup_acct_ip = 0 then srv.acct_port else srv.backup_acct_port }

/-- What of a request packet matters. The login is the one that an Access-Request is made for. -/
structure RadiusReq where
  number : Nat := 0
  code : UInt8 := 0
  authenticator : List UInt8 := []
  user_name : List UInt8 := []
  login : Option Nat := none
deriving DecidableEq, Repr

inductive IdStatus
  | RADIUS_ID_FREE
  | RADIUS_ID_USED
  | RADIUS_ID_WAIT
deriving DecidableEq, Repr

inductive IdTimer
  | RADIUS_ID_STATUS_TIMEOUT
  | RADIUS_ID_RETRY_TIMEOUT
deriving DecidableEq, Repr

/-- `struct radius_id`. An armed timer has the time when it is due. The total time is the `int` that is
computed for it, so that a product too large for one is negative here. -/
structure RadiusId where
  status : IdStatus := .RADIUS_ID_FREE
  req_packet : RadiusReq := {}
  t_timeout : Option (IdTimer × Int) := none
  timeout : Int := 0
  retry_count : Int := 0
  vice_retry_count : Int := 0
  total_time : Int := 0
  start_time : Int := 0
  radius_srv : RadiusSrv := {}
  user_addr : UserAddr := ⟨0, 0, .zero⟩
deriving DecidableEq, Repr

/-- `struct sock_radius`. -/
structure SockRadius where
  roll_id : UInt8 := 0
  id : UInt8 → RadiusId := fun _ => {}

/-- `sock_radius_detect_free_id`: all ids but `roll_id` are tried. -/
def SockRadius.detectFreeId (s : SockRadius) : Option UInt8 :=
  ((List.range 255).map fun k => s.roll_id + 1 + UInt8.ofNat k).find? fun i =>
    (s.id i).status = .RADIUS_ID_FREE

inductive RadiusLog
  | taken (request : Nat) (status : IdStatus)
  | sent (request : Nat) (backup : Bool) (retry_times vice_retry_times : Int)
  | answered (code : UInt8) (req : RadiusReq) (passes : Bool)
deriving DecidableEq, Repr

/-- `struct eag_radius`. -/
structure Radius where
  retry_interval : Int
  retry_times : Int
  vice_retry_times : Int
  sockradius_list : List SockRadius
  requests : Nat
  now : Int
  log : List RadiusLog

namespace Radius

section
variable (md5 : Digest) (R : Radius)

/-- `radius_id_event`. -/
def radiusIdEvent (t : IdTimer) (timeout : Int) (r : RadiusId) : RadiusId :=
  { r with timeout := timeout, t_timeout := some (t, R.now + timeout) }

def setId (k : Nat) (i : UInt8) (r : RadiusId) : Radius :=
  { R with sockradius_list := R.sockradius_list.modify k fun s => { s with id := Function.update s.id i r } }

/-- The request is sent to one of its servers. -/
def send (request : Nat) (backup : Bool) : Radius :=
  { R with log := .sent request backup R.retry_times R.vice_retry_times :: R.log }

/-- What `sock_radius_req` makes of an id. -/
def usedId (user_addr : UserAddr) (req : RadiusReq) (radius_srv : RadiusSrv) (wait : Bool) (old : RadiusId) :
    RadiusId :=
  let total_time := int (R.retry_interval * (R.retry_times + R.vice_retry_times + 1) * 2)
  let r := { old with
    status := .RADIUS_ID_USED, req_packet := req, retry_count := 0, vice_retry_count := 0
    total_time := total_time, start_time := R.now, radius_srv := radius_srv.withBackup
    user_addr := user_addr }
  if wait then R.radiusIdEvent .RADIUS_ID_RETRY_TIMEOUT R.retry_interval r
  else R.radiusIdEvent .RADIUS_ID_STATUS_TIMEOUT total_time r

/-- The first socket that has a free id, and the id. -/
def freeId (l : List SockRadius) : Option (Nat × UInt8) :=
  l.zipIdx.findSome? fun x => x.1.detectFreeId.map (x.2, ·)

/-- `sock_radius_req`, with the id `i` of the socket `k`. -/
def sockRadiusReq (k : Nat) (i : UInt8) (user_addr : UserAddr) (req : RadiusReq) (radius_srv : RadiusSrv)
    (wait : Bool) : Radius :=
  match R.sockradius_list[k]? with
  | none => R
  | some s =>
    let req := { req with number := R.requests }
    let s' := { roll_id := i, id := Function.update s.id i (R.usedId user_addr req radius_srv wait (s.id i)) }
    { R with
      sockradius_list := R.sockradius_list.set k s'
      requests := R.requests + 1
      log := .sent R.requests false R.retry_times R.vice_retry_times ::
        .taken R.requests (s.id i).status :: R.log }

/-- `radius_req`. If no id is free there is a new socket, whose id 0 is taken. -/
def radiusReq (user_addr : UserAddr) (req : RadiusReq) (radius_srv : RadiusSrv) (wait mem : Bool) : Radius :=
  match freeId R.sockradius_list with
  | some (k, i) => R.sockRadiusReq k i user_addr req radius_srv wait
  | none =>
    if mem then
      ({ R with sockradius_list := R.sockradius_list ++ [({} : SockRadius)] }).sockRadiusReq R.sockradius_list.length 0
        user_addr req radius_srv wait
    else R

/-- The digest of the reply is right for the request. -/
def authentic (packet : Packet) (req : RadiusReq) (secret : List UInt8) : Bool :=
  (radiusCheck md5 packet req.authenticator secret).2 = 0

/-- The checks of `sockradius_receive`: the reply comes from a server of the id, and its authenticator
is made for the request of the id. -/
def replyCheck (r : RadiusId) (packet : Packet) (radius_ip : UInt32) (radius_port : UInt16) : Bool :=
  let srv := r.radius_srv
  if packet 0 = RADIUS_CODE_ACCESS_ACCEPT ∨ packet 0 = RADIUS_CODE_ACCESS_REJECT then
    (radius_ip = srv.auth_ip ∨ radius_ip = srv.backup_auth_ip) ∧
      (radius_port = srv.auth_port ∨ radius_port = srv.backup_auth_port) ∧
      authentic md5 packet r.req_packet srv.auth_secret
  else if packet 0 = RADIUS_CODE_ACCOUNTING_RESPONSE then
    (radius_ip = srv.acct_ip ∨ radius_ip = srv.backup_acct_ip) ∧
      (radius_port = srv.acct_port ∨ radius_port = srv.backup_acct_port) ∧
      authentic md5 packet r.req_packet srv.acct_secret
  else false

/-- The secret of the server that the reply is for. -/
def replySecret (r : RadiusId) (packet : Packet) : List UInt8 :=
  if packet 0 = RADIUS_CODE_ACCOUNTING_RESPONSE then r.radius_srv.acct_secret else r.radius_srv.auth_secret

/-- The id waits until its time is over before it is free. -/
def waitId (r : RadiusId) : RadiusId :=
  R.radiusIdEvent .RADIUS_ID_STATUS_TIMEOUT (int (r.total_time + r.start_time - R.now))
    { r with status := .RADIUS_ID_WAIT }

/-- The id whose request the packet answers, as `sockradius_receive` on the socket `k` sees it. -/
def answeredId (k : Nat) (packet : Packet) (nbyte : Nat) (radius_ip : UInt32) (radius_port : UInt16) :
    Option RadiusId := do
  let s ← R.sockradius_list[k]?
  let r := s.id (packet 1)
  if nbyte < RADIUS_PACKET_HEADSIZE ∨ RADIUS_PACKET_SIZE < nbyte ∨ nbyte ≠ radiusLength packet then none
  else if r.status ≠ .RADIUS_ID_USED then none
  else if replyCheck md5 r packet radius_ip radius_port then some r
  else none

/-- What `sockradius_receive` does to the id that is answered. -/
def answer (k : Nat) (packet : Packet) (r : RadiusId) : Radius :=
  { R.setId k (packet 1) (R.waitId r) with
    log := .answered (packet 0) r.req_packet (authentic md5 packet r.req_packet (replySecret r packet)) ::
      R.log }

/-- `radius_id_retry_timeout`. -/
def radiusIdRetryTimeout (k : Nat) (i : UInt8) (r : RadiusId) : Radius :=
  if r.retry_count < R.retry_times then
    (R.setId k i (R.radiusIdEvent .RADIUS_ID_RETRY_TIMEOUT R.retry_interval
      { r with retry_count := r.retry_count + 1 })).send r.req_packet.number false
  else if r.vice_retry_count < R.vice_retry_times then
    (R.setId k i (R.radiusIdEvent .RADIUS_ID_RETRY_TIMEOUT R.retry_interval
      { r with vice_retry_count := r.vice_retry_count + 1 })).send r.req_packet.number true
  else R.setId k i (R.waitId r)

/-- `radius_id_status_timeout`. -/
def radiusIdStatusTimeout (k : Nat) (i : UInt8) (r : RadiusId) : Radius :=
  R.setId k i { user_addr := r.user_addr }

/-- The id and its timer, if it is due. -/
def dueId (k : Nat) (i : UInt8) : Option (RadiusId × IdTimer) := do
  let s ← R.sockradius_list[k]?
  let t ← (s.id i).t_timeout
  if R.now < t.2 then none else some (s.id i, t.1)

/-- `eag_radius_set_retry_params`. -/
def setRetryParams (retry_interval retry_times vice_retry_times : Int) : Radius :=
  { R with retry_interval := retry_interval, retry_times := retry_times, vice_retry_times := vice_retry_times }

end

end Radius

end Eag
end DaemonGroup
