import DaemonGroup.Lib.State
import DaemonGroup.Pppoe.Md5

/-!
# DaemonGroup.Pppoe.Defs

The data model of the PPPoE instance's device thread: the session record (`pppoe_session.h`), the
address pool, the table of RADIUS identifiers, the messages of the backup channel, and the state a
handler of one session works on.

A handler runs in the device thread on one session at a time, so it is a program over `Ctx`: the
session it was called with and the parts of the instance it can change. What it reads and cannot
change (its address, the clock, the configuration, which calls out of the thread fail) is its
`Env`. The tables of sessions are not part of `Ctx`: a handler that ends its session raises
`exited`, and the session is taken out of the tables when the handler has returned.
-/

namespace DaemonGroup
namespace Pppoe

abbrev Byte := UInt8
abbrev Bytes := List UInt8

/-! ## Return codes -/

def PPPOEERR_SUCCESS : Int := 0
def PPPOEERR_EINVAL : Int := -0x1
def PPPOEERR_ENOMEM : Int := -0x2
def PPPOEERR_EEXIST : Int := -0x3
def PPPOEERR_ENOEXIST : Int := -0x4
def PPPOEERR_ESEND : Int := -0x5
def PPPOEERR_ETIMEOUT : Int := -0x7
def PPPOEERR_ELENGTH : Int := -0x8
def PPPOEERR_EADDR : Int := -0x9
def PPPOEERR_ESYSCALL : Int := -0xa
def PPPOEERR_ESTATE : Int := -0x10

/-! ## Bytes -/

/-- `GETCHAR(cp + i)`; bytes past the buffer read as zero. -/
def getChar (bs : Bytes) (i : Nat) : Nat := (bs.getD i 0).toNat

def getShort (bs : Bytes) (i : Nat) : Nat := getChar bs i * 256 + getChar bs (i + 1)

def getLong (bs : Bytes) (i : Nat) : Nat :=
  getChar bs i * 16777216 + getChar bs (i + 1) * 65536 + getChar bs (i + 2) * 256 +
    getChar bs (i + 3)

def putChar (n : Nat) : Bytes := [UInt8.ofNat n]

def putShort (n : Nat) : Bytes := [UInt8.ofNat (n / 256), UInt8.ofNat n]

def putLong (n : Nat) : Bytes :=
  [UInt8.ofNat (n / 16777216), UInt8.ofNat (n / 65536), UInt8.ofNat (n / 256), UInt8.ofNat n]

/-- A `char` array of `n` bytes that was zeroed before `bs` was copied into it. -/
def charArray (n : Nat) (bs : Bytes) : Bytes := bs.take n ++ List.replicate (n - bs.length) 0

def strlen (bs : Bytes) : Nat := (bs.takeWhile (· ≠ 0)).length

/-- The first `strlen` bytes. -/
def cstring (bs : Bytes) : Bytes := bs.takeWhile (· ≠ 0)

structure Mac where
  b0 : Byte
  b1 : Byte
  b2 : Byte
  b3 : Byte
  b4 : Byte
  b5 : Byte
deriving DecidableEq, Repr, Inhabited

/-! ## Sessions -/

inductive SessState where
  | NONE | INIT | LCPPREOPEN | LCPPOSTOPEN | LCPOPEN | AUTHPRE | AUTH | AUTHPOST | AUTHSUCCESS
  | IPCPPREOPEN | IPCPPOSTOPEN | IPCPOPEN | ONLINEPRE | ONLINEPOST | ONLINE | OFFLINEPRE
  | OFFLINEPOST | OFFLINE | IPCPPRECLOSE | IPCPPOSTCLOSE | IPCPCLOSE | LCPPRECLOSE | LCPPOSTCLOSE
  | LCPCLOSE | DISTERM | DEAD
deriving DecidableEq, Repr, Inhabited

/-- The value of the enumerator, for the comparisons the code makes. -/
def SessState.num : SessState → Nat
  | .NONE => 0 | .INIT => 1 | .LCPPREOPEN => 2 | .LCPPOSTOPEN => 3 | .LCPOPEN => 4
  | .AUTHPRE => 5 | .AUTH => 6 | .AUTHPOST => 7 | .AUTHSUCCESS => 8 | .IPCPPREOPEN => 9
  | .IPCPPOSTOPEN => 10 | .IPCPOPEN => 11 | .ONLINEPRE => 12 | .ONLINEPOST => 13 | .ONLINE => 14
  | .OFFLINEPRE => 15 | .OFFLINEPOST => 16 | .OFFLINE => 17 | .IPCPPRECLOSE => 18
  | .IPCPPOSTCLOSE => 19 | .IPCPCLOSE => 20 | .LCPPRECLOSE => 21 | .LCPPOSTCLOSE => 22
  | .LCPCLOSE => 23 | .DISTERM => 24 | .DEAD => 25

/-- A timer of a session: not created, created and paused, or waiting to expire. -/
inductive Timer where
  | none | paused | armed
deriving DecidableEq, Repr, Inhabited

inductive SessionTimerType where
  | TIMEOUT | ECHO | RETRANS | UPDATE
deriving DecidableEq, Repr

inductive SessionOptType where
  | EXIT | DISTREM | LCPCONFREQ | LCPECHOREQ | LCPTERMREQ | CCPCONFREQ | IPCPCONFREQ | IPAPPLY
  | IPRECOVER | IPREGISTER | IPUNREGISTER | AUTHPRE | AUTHREQ | AUTHSUCCESS | AUTHFAIL | ACCTSTART
  | ACCTSTOP | ACCTSTOPV2 | ACCTUPDATE | ONLINESYNC | OFFLINESYNC | UPDATESYNC
deriving DecidableEq, Repr

structure IpaddrStruct where
  ip : UInt32 := 0
  dns1 : Nat := 0
  dns2 : Nat := 0
deriving DecidableEq, Repr, Inhabited

structure SessionStat where
  rx_packets : Nat := 0
  tx_packets : Nat := 0
  rx_bytes : Nat := 0
  tx_bytes : Nat := 0
deriving DecidableEq, Repr, Inhabited

/-- `&sock->id[id]` of a RADIUS socket, the sockets numbered in the order of their creation. -/
structure RadPtr where
  sock : Nat
  id : Byte
deriving DecidableEq, Repr, Inhabited

/-- What a RADIUS request asks for. The code keeps only the packet; the kind is recorded to speak
about the request that a response answers. -/
inductive ReqKind where
  | auth | start | update | stop
deriving DecidableEq, Repr, Inhabited

/-- What has been done in a session, oldest first. No code reads it. -/
inductive Mark where
  /-- a CHAP Challenge with this identifier was transmitted -/
  | challenge (ident : Nat)
  /-- a CHAP Response with this identifier was accepted: the session entered `AUTH` -/
  | response (ident : Nat)
  /-- a request of this kind was transmitted for the first time -/
  | request (k : ReqKind)
deriving DecidableEq, Repr

abbrev Addr := Nat

/-- The fields of a session that its life is about: where it stands, what it holds, what it waits
for. -/
structure Life where
  state : SessState := .NONE
  refcnt : Nat := 0
  sid : Nat := 0
  mac : Mac := default
  ipaddr : IpaddrStruct := {}
  ident : Nat := 0
  priv_data : Option RadPtr := none
  timeout : Timer := .none
  retrans : Timer := .none
  marks : List Mark := []
deriving DecidableEq, Repr, Inhabited

/-- `struct session_struct`. `opt` lists the operations that are registered. The random seed, the
buffer and the thread master have no place here, nor do the wireless fields, which no modelled
function reads. -/
structure Session extends Life where
  configState : Nat := 0
  terminate_cause : Nat := 0
  serverMac : Mac := default
  serverIP : Nat := 0
  startTime : Int := 0
  onlineTime : Int := 0
  offlineTime : Int := 0
  echoLoseTimes : Nat := 0
  termTimes : Nat := 0
  termMaxTimes : Nat := 0
  retryTimes : Nat := 0
  retryMaxTimes : Nat := 0
  auth_type : Nat := 0
  chap_mdtype : Nat := 0
  opt : List SessionOptType := []
  echo : Timer := .none
  update : Timer := .none
  sname : Bytes := []
  magic : Bytes := []
  peermagic : Bytes := []
  challenge : Bytes := []
  passwd : Bytes := []
  username : Bytes := []
  acctSessID : Bytes := []
  stat : SessionStat := {}
  bk_stat : SessionStat := {}
deriving DecidableEq, Repr, Inhabited

/-- `struct session_options`, shared by all sessions of the instance; the fields that are read. -/
structure SessionOptions where
  neg_mru : Bool := true
  neg_upap : Bool := false
  neg_chap : Bool := true
  neg_eap : Bool := false
  neg_magicnumber : Bool := true
  neg_ipcompression : Bool := false
  neg_ipaddr : Bool := true
  neg_ipmsdns : Bool := true
  neg_ipmswins : Bool := false
  mru : Nat := 1492
  chap_mdtype : Nat := 4
deriving DecidableEq, Repr, Inhabited

/-! ## RADIUS identifiers -/

inductive RadiusIDStatus where
  | FREE | USED | WAIT
deriving DecidableEq, Repr, Inhabited

/-- `struct radius_packet`, the header of a packet. -/
structure RadiusPacket where
  code : Nat := 0
  id : Byte := 0
  length : Nat := 0
  authenticator : Bytes := []
deriving DecidableEq, Repr, Inhabited

/-- `struct radius_id`, with the kind of the request it was last used for. -/
structure RadiusId where
  freetime : Nat := 0
  status : RadiusIDStatus := .FREE
  sess : Option Addr := none
  req_pack : RadiusPacket := {}
  kind : ReqKind := .auth
deriving DecidableEq, Repr, Inhabited

/-- The part of `struct radius_struct` that changes. The socket at the head of `sock_list` is the
one created last, so the list is its length. -/
structure Radius where
  socks : Nat := 0
  curr_id : Nat → Byte := fun _ => 0
  id : RadPtr → RadiusId := fun _ => {}
  free_list : List RadPtr := []

/-- `struct radius_server`. -/
structure RadiusServer where
  ip : Nat := 0
  port : Nat := 0
  secret : Bytes := []
deriving DecidableEq, Repr, Inhabited

structure RadiusSrv where
  auth : RadiusServer := {}
  backup_auth : RadiusServer := {}
  acct : RadiusServer := {}
  backup_acct : RadiusServer := {}
deriving DecidableEq, Repr, Inhabited

/-! ## The address pool -/

/-- `struct ippool_struct`; a slot holds the session whose address record it points to. -/
structure Ippool where
  startIP : UInt32 := 0
  totalNUM : UInt32 := 0
  dns1 : Nat := 0
  dns2 : Nat := 0
  pool : Nat → Option Addr := fun _ => none

/-! ## Backup messages -/

inductive BackupStatus where
  | NONE | ACTIVE | STANDBY | DISABLE
deriving DecidableEq, Repr, Inhabited

/-- `struct online_sync`. -/
structure OnlineSync where
  sid : Nat := 0
  mac : Mac := default
  serverMac : Mac := default
  serverIP : Nat := 0
  ipaddr : IpaddrStruct := {}
  startTime : Int := 0
  onlineTime : Int := 0
  auth_type : Nat := 0
  chap_mdtype : Nat := 0
  sname : Bytes := []
  magic : Bytes := []
  peermagic : Bytes := []
  challenge : Bytes := []
  passwd : Bytes := []
  username : Bytes := []
  acctSessID : Bytes := []
  stat : SessionStat := {}
deriving DecidableEq, Repr, Inhabited

/-- `struct offline_sync`. -/
structure OfflineSync where
  sid : Nat
  mac : Mac
deriving DecidableEq, Repr, Inhabited

/-- `struct update_sync`. -/
structure UpdateSync where
  sid : Nat
  mac : Mac
  stat : SessionStat
deriving DecidableEq, Repr, Inhabited

/-- A message for the peer, `struct instance_sync` with what follows it. -/
inductive Sync where
  | SESSONLINE (m : OnlineSync)
  | SESSOFFLINE (m : OfflineSync)
  | SESSUPDATE (m : UpdateSync)
  | SESSCLEAR
  | SYNCFINISHED
deriving DecidableEq, Repr

/-! ## Handlers -/

/-- The calls out of the thread that can fail. A handler makes each of them at most once for one
session. -/
inductive Call where
  | lcpConfReq | lcpEchoReq | lcpTermReq | ipcpConfReq | chapChallenge | chapSuccess | chapFail
  | pppReply | padt | pads
  | channelRegister | channelUnregister | channelAuthorize
  | radiusSend | radiusSock | coaSend
  | memCache | pbuf | backupTask
  | timer (t : SessionTimerType)
deriving DecidableEq, Repr

/-- What the thread hands to the network or the kernel. -/
inductive Packet where
  | ppp (sid : Nat) (mac : Mac) (bytes : Bytes)
  | padt (sid : Nat) (mac : Mac)
  | register (sid : Nat) (mac serverMac : Mac) (magic : Bytes)
  | unregister (sid : Nat) (mac : Mac)
  | authorize (sid : Nat) (ip : UInt32)
  | clear
  | radius (server : RadiusServer) (sock : Nat) (bytes : Bytes)
  | coa (bytes : Bytes)
deriving DecidableEq, Repr

structure Config where
  max_sid : Nat := 0xfffe
  ipaddr : Nat := 0
  nasip : Nat := 0
  srv : RadiusSrv := {}
  sname : Bytes := []
  pid : Nat := 0
deriving DecidableEq, Repr, Inhabited

/-- What a handler reads: its session's address, the clock, the role of the instance, the calls
that fail during this event, and the values drawn from the random generator. -/
structure Env where
  cfg : Config := {}
  self : Addr := 0
  now : Nat := 0
  time : Nat := 0
  status : BackupStatus := .NONE
  channel : Bool := false
  fails : List Call := []
  rand : Bytes := []

def Env.fail (e : Env) (c : Call) : Bool := e.fails.contains c

/-- What a handler works on. -/
structure Ctx where
  sess : Session := {}
  pool : Ippool := {}
  rad : Radius := {}
  options : SessionOptions := {}
  queue : List Sync := []
  out : List Packet := []
  /-- the session has been ended: it is to be taken out of the tables and freed -/
  exited : Bool := false
  /-- a pointer that is null was followed, or a loop did not end -/
  fault : Bool := false

abbrev M := StateM Ctx

/-- Change the session. -/
def update (f : Session → Session) : M Unit := modify fun c => { c with sess := f c.sess }

/-- Hand a packet out; `c` is the call that does it. -/
def emit (e : Env) (c : Call) (p : Packet) : M Int := do
  if e.fail c then
    return PPPOEERR_ESEND
  modify fun x => { x with out := x.out ++ [p] }
  return PPPOEERR_SUCCESS

def mark (m : Mark) : M Unit := update fun s => { s with marks := s.marks ++ [m] }

end Pppoe
end DaemonGroup
