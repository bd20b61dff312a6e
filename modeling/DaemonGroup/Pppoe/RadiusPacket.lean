import DaemonGroup.Pppoe.Session

/-!
# DaemonGroup.Pppoe.RadiusPacket

`radius_packet.c` and the request packets of `pppoe_radius.c`: building a request, searching the
attributes of a received packet, and the two authenticators.
-/

namespace DaemonGroup
namespace Pppoe

def RADIUS_PACKET_HEADSIZE : Nat := 20
def RADIUS_AUTHLEN : Nat := 16
def RADIUS_ATTR_VLEN : Nat := 253

def RADIUS_CODE_ACCESS_REQUEST : Nat := 1
def RADIUS_CODE_ACCESS_ACCEPT : Nat := 2
def RADIUS_CODE_ACCESS_REJECT : Nat := 3
def RADIUS_CODE_ACCOUNTING_REQUEST : Nat := 4
def RADIUS_CODE_ACCOUNTING_RESPONSE : Nat := 5
def RADIUS_CODE_DISCONNECT_REQUEST : Nat := 40
def RADIUS_CODE_DISCONNECT_ACK : Nat := 41
def RADIUS_CODE_DISCONNECT_NAK : Nat := 42

def RADIUS_ATTR_USER_NAME : Nat := 1
def RADIUS_ATTR_CHAP_PASSWORD : Nat := 3
def RADIUS_ATTR_NAS_IP_ADDRESS : Nat := 4
def RADIUS_ATTR_NAS_PORT : Nat := 5
def RADIUS_ATTR_SERVICE_TYPE : Nat := 6
def RADIUS_ATTR_FRAMED_PROTOCOL : Nat := 7
def RADIUS_ATTR_FRAMED_IP_ADDRESS : Nat := 8
def RADIUS_ATTR_ACCT_STATUS_TYPE : Nat := 40
def RADIUS_ATTR_ACCT_INPUT_OCTETS : Nat := 42
def RADIUS_ATTR_ACCT_OUTPUT_OCTETS : Nat := 43
def RADIUS_ATTR_ACCT_SESSION_ID : Nat := 44
def RADIUS_ATTR_ACCT_AUTHENTIC : Nat := 45
def RADIUS_ATTR_ACCT_SESSION_TIME : Nat := 46
def RADIUS_ATTR_ACCT_INPUT_PACKETS : Nat := 47
def RADIUS_ATTR_ACCT_OUTPUT_PACKETS : Nat := 48
def RADIUS_ATTR_ACCT_TERMINATE_CAUSE : Nat := 49
def RADIUS_ATTR_ACCT_INPUT_GIGAWORDS : Nat := 52
def RADIUS_ATTR_ACCT_OUTPUT_GIGAWORDS : Nat := 53
def RADIUS_ATTR_CHAP_CHALLENGE : Nat := 60
def RADIUS_ATTR_NAS_PORT_TYPE : Nat := 61
def RADIUS_ATTR_ERROR_CAUSE : Nat := 101

/-! ## Packets under construction -/

/-- A packet in a buffer: its header and the attributes behind it. -/
structure RadiusBuf where
  pack : RadiusPacket
  attrs : Bytes
deriving DecidableEq, Repr, Inhabited

def RadiusPacket.bytes (p : RadiusPacket) : Bytes :=
  putChar p.code ++ [p.id] ++ putShort p.length ++ p.authenticator

def RadiusBuf.bytes (b : RadiusBuf) : Bytes := b.pack.bytes ++ b.attrs

/-- `radius_packet_init`; `rand` is what the random generator yields. An accounting request's
authenticator is filled in when the request is sent. -/
def radiusPacketInit (code : Nat) (rand : Bytes) : RadiusBuf :=
  { pack :=
      { code := code
        id := 0
        length := RADIUS_PACKET_HEADSIZE
        authenticator := if code = RADIUS_CODE_ACCESS_REQUEST then charArray RADIUS_AUTHLEN rand
          else List.replicate RADIUS_AUTHLEN 0 }
    attrs := [] }

/-- The room of a buffer behind the space reserved for the relay header. -/
def radiusBufRoom : Nat := 4096 - 48

/-- `radius_addattr` for a type that is not vendor specific. With `dlen = 0` the attribute is four
bytes long, taken from `data` if that is given and from `value` otherwise. -/
def radiusAddattr (b : RadiusBuf) (type value : Nat) (data : Option Bytes) (dlen : Nat) :
    RadiusBuf :=
  let vlen := min (if dlen ≠ 0 then dlen else 4) RADIUS_ATTR_VLEN
  if radiusBufRoom - (RADIUS_PACKET_HEADSIZE + b.attrs.length) < vlen + 2 then
    b
  else
    let v := match data with
      | some d => charArray vlen d
      | none => if dlen ≠ 0 then List.replicate vlen 0 else putLong value
    let attrs := b.attrs ++ putChar type ++ putChar (vlen + 2) ++ v
    { pack := { b.pack with length := RADIUS_PACKET_HEADSIZE + attrs.length }, attrs := attrs }

def radiusAddInteger (type value : Nat) (b : RadiusBuf) : RadiusBuf :=
  radiusAddattr b type value none 0

def radiusAddString (type : Nat) (data : Bytes) (dlen : Nat) (b : RadiusBuf) : RadiusBuf :=
  radiusAddattr b type 0 (some data) dlen

/-! ## Requests -/

/-- A `long` passed as a `uint32`. -/
def toUint32 (n : Int) : Nat := (n % 4294967296).toNat

/-- The attributes that every request ends with. -/
def packetNas (cfg : Config) (b : RadiusBuf) : RadiusBuf :=
  radiusAddInteger RADIUS_ATTR_NAS_PORT_TYPE 5
    (radiusAddInteger RADIUS_ATTR_NAS_PORT 0
      (radiusAddInteger RADIUS_ATTR_NAS_IP_ADDRESS cfg.nasip b))

/-- Service-Type Framed and Framed-Protocol PPP, which every request begins with. -/
def packetService (b : RadiusBuf) : RadiusBuf :=
  radiusAddInteger RADIUS_ATTR_FRAMED_PROTOCOL 1 (radiusAddInteger RADIUS_ATTR_SERVICE_TYPE 2 b)

def packetAuthReq (cfg : Config) (s : Session) (b : RadiusBuf) : RadiusBuf :=
  let b := packetService b
  let b := radiusAddString RADIUS_ATTR_USER_NAME s.username (strlen s.username) b
  let b := radiusAddString RADIUS_ATTR_CHAP_CHALLENGE s.challenge 16 b
  let b := radiusAddString RADIUS_ATTR_CHAP_PASSWORD
    (putChar (s.ident % 256) ++ charArray 16 s.passwd) 17 b
  packetNas cfg b

/-- What the three accounting requests have in common up to Acct-Authentic. -/
def packetAcct (s : Session) (statusType : Nat) (b : RadiusBuf) : RadiusBuf :=
  let b := packetService b
  let b := radiusAddString RADIUS_ATTR_ACCT_SESSION_ID s.acctSessID (strlen s.acctSessID) b
  let b := radiusAddString RADIUS_ATTR_USER_NAME s.username (strlen s.username) b
  let b := radiusAddInteger RADIUS_ATTR_FRAMED_IP_ADDRESS s.ipaddr.ip.toNat b
  let b := radiusAddInteger RADIUS_ATTR_ACCT_STATUS_TYPE statusType b
  radiusAddInteger RADIUS_ATTR_ACCT_AUTHENTIC 1 b

/-- The counters of Stop and Interim-Update. -/
def packetStat (s : Session) (b : RadiusBuf) : RadiusBuf :=
  let b := radiusAddInteger RADIUS_ATTR_ACCT_INPUT_OCTETS (s.stat.rx_bytes % 4294967296) b
  let b := radiusAddInteger RADIUS_ATTR_ACCT_INPUT_GIGAWORDS (s.stat.rx_bytes / 4294967296) b
  let b := radiusAddInteger RADIUS_ATTR_ACCT_OUTPUT_OCTETS (s.stat.tx_bytes % 4294967296) b
  let b := radiusAddInteger RADIUS_ATTR_ACCT_OUTPUT_GIGAWORDS (s.stat.tx_bytes / 4294967296) b
  let b := radiusAddInteger RADIUS_ATTR_ACCT_INPUT_PACKETS (s.stat.rx_packets % 4294967296) b
  radiusAddInteger RADIUS_ATTR_ACCT_OUTPUT_PACKETS (s.stat.tx_packets % 4294967296) b

def packetAcctStartReq (cfg : Config) (s : Session) (b : RadiusBuf) : RadiusBuf :=
  packetNas cfg (packetAcct s 1 b)

def packetAcctStopReq (cfg : Config) (s : Session) (b : RadiusBuf) : RadiusBuf :=
  let b := packetAcct s 2 b
  let b := radiusAddInteger RADIUS_ATTR_ACCT_TERMINATE_CAUSE s.terminate_cause b
  let b := radiusAddInteger RADIUS_ATTR_ACCT_SESSION_TIME (toUint32 (s.offlineTime - s.onlineTime)) b
  packetNas cfg (packetStat s b)

def packetAcctUpdateReq (cfg : Config) (now : Nat) (s : Session) (b : RadiusBuf) : RadiusBuf :=
  let b := packetAcct s 3 b
  let b := radiusAddInteger RADIUS_ATTR_ACCT_SESSION_TIME (toUint32 (now - s.onlineTime)) b
  packetNas cfg (packetStat s b)

/-! ## Authenticators -/

/-- `radius_acctreq_authenticator`: the digest of the packet with a zero authenticator, followed
by the secret. -/
def radiusAcctreqAuthenticator (b : RadiusBuf) (secret : Bytes) : RadiusBuf :=
  let zero := { b with pack := { b.pack with authenticator := List.replicate RADIUS_AUTHLEN 0 } }
  { b with pack := { b.pack with authenticator := Md5.md5 (zero.bytes ++ secret) } }

/-- The header at the front of received bytes. -/
def packOf (bs : Bytes) : RadiusPacket :=
  { code := getChar bs 0
    id := bs.getD 1 0
    length := getShort bs 2
    authenticator := (bs.drop 4).take RADIUS_AUTHLEN }

/-- `radius_reply_check`: true when the authenticator of the reply `bs` is right for the request
`req`. -/
def radiusReplyCheck (bs : Bytes) (req : RadiusPacket) (secret : Bytes) : Bool :=
  (packOf bs).authenticator =
    Md5.md5 (bs.take 4 ++ req.authenticator ++
      (bs.drop RADIUS_PACKET_HEADSIZE).take ((packOf bs).length - RADIUS_PACKET_HEADSIZE) ++ secret)

/-- `radius_request_check`: true when the authenticator of the request `bs` is right. -/
def radiusRequestCheck (bs : Bytes) (secret : Bytes) : Bool :=
  (packOf bs).authenticator =
    Md5.md5 (bs.take 4 ++ List.replicate RADIUS_AUTHLEN 0 ++
      (bs.drop RADIUS_PACKET_HEADSIZE).take ((packOf bs).length - RADIUS_PACKET_HEADSIZE) ++ secret)

/-! ## Attributes of a received packet -/

/-- What a search for an attribute comes to: the attribute (its length octet and the bytes behind
it), no such attribute, or a loop that does not end, which an attribute of length zero and another
type makes. -/
inductive GetAttr where
  | found (l : Nat) (v : Bytes)
  | missing
  | loops
deriving DecidableEq, Repr

/-- The loop of `radius_getattr`: `cur` is the buffer from the cursor on, `len` the octets left.
Every round but one that repeats itself for ever takes an octet, so `len + 1` rounds are enough. -/
def getattrLoop (type : Nat) : Nat → Bytes → Nat → GetAttr
  | 0, _, _ => .loops
  | fuel + 1, cur, len =>
    if len = 0 then
      .missing
    else if len < 2 ∨ getChar cur 1 > len then
      .missing
    else if getChar cur 0 = type then
      .found (getChar cur 1) (cur.drop 2)
    else
      getattrLoop type fuel (cur.drop (getChar cur 1)) (len - getChar cur 1)

def radiusGetattr (cur : Bytes) (len type : Nat) : GetAttr :=
  getattrLoop type (len + 1) cur len

end Pppoe
end DaemonGroup
