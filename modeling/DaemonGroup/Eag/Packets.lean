import DaemonGroup.Lib.Bytes
import Mathlib.Algebra.Order.Ring.Nat

/-!
# DaemonGroup.Eag.Packets

The authenticators of `radius_packet.c` and `portal_packet.c`. A packet is the memory from its
first byte on, as the functions of the source see it through a pointer; numbers in it are in
network order. The digest is a parameter: `MD5Init`, calls of `MD5Update` and `MD5Final` digest the
concatenation of the bytes given to `MD5Update`.

A check returns the packet too, as it leaves it.
-/

namespace DaemonGroup
namespace Eag

open Lib Bytes

/-- The bytes of a packet and what follows it in memory. -/
abbrev Packet := Nat → UInt8

/-- The digest function of `md5.c`. -/
abbrev Digest := List UInt8 → Vector UInt8 16

/-- A signed length passed as `size_t`. -/
def sizeT (n : Int) : Nat := (n % 2 ^ 64).toNat

/-- The size of a user name. -/
def USERNAMESIZE : Nat := 256

/-- `memcmp` of two buffers of one length. -/
def memcmp : List UInt8 → List UInt8 → Int
  | x :: xs, y :: ys => if x = y then memcmp xs ys else x.toNat - y.toNat
  | _, _ => 0

/-! ## RADIUS -/

def RADIUS_PACKET_HEADSIZE : Nat := 20
def RADIUS_PACKET_SIZE : Nat := 4096
def RADIUS_ATTR_VLEN : Nat := 253
def RADIUS_CODE_ACCOUNTING_REQUEST : UInt8 := 4
def RADIUS_AUTHLEN : Nat := 16

/-- The offset of `authenticator` in `struct radius_packet_t`. -/
def radiusAuth : Nat := 4

/-- `ntohs(pack->length)`. -/
def radiusLength (pack : Packet) : Nat := (pack 2).toNat * 256 + (pack 3).toNat

/-- `radius_acctreq_authenticator`. -/
def radiusAcctreqAuthenticator (md5 : Digest) (pack : Packet) (secret : List UInt8) : Packet :=
  let pack := write pack radiusAuth (List.replicate RADIUS_AUTHLEN 0)
  let context := read pack 0 (radiusLength pack) ++ secret
  write pack radiusAuth (md5 context).toList

/-- `radius_authresp_authenticator`. -/
def radiusAuthrespAuthenticator (md5 : Digest) (pack : Packet) (req_auth secret : List UInt8) :
    Packet :=
  let pack := write pack radiusAuth req_auth
  let context := read pack 0 (radiusLength pack) ++ secret
  write pack radiusAuth (md5 context).toList

/-- What both checks of RADIUS packets compute: the digest with `auth` for the authenticator, and
its comparison with the authenticator received. -/
def radiusCheck (md5 : Digest) (pack : Packet) (auth secret : List UInt8) : Packet × Int :=
  let context := read pack 0 (RADIUS_PACKET_HEADSIZE - RADIUS_AUTHLEN) ++ auth ++
    read pack RADIUS_PACKET_HEADSIZE (sizeT (radiusLength pack - RADIUS_PACKET_HEADSIZE)) ++ secret
  (pack, memcmp (read pack radiusAuth RADIUS_AUTHLEN) (md5 context).toList)

/-- `radius_reply_check`. -/
def radiusReplyCheck (md5 : Digest) (pack pack_req : Packet) (secret : List UInt8) :
    Packet × Int :=
  radiusCheck md5 pack (read pack_req radiusAuth RADIUS_AUTHLEN) secret

/-- `radius_request_check`. -/
def radiusRequestCheck (md5 : Digest) (pack : Packet) (secret : List UInt8) : Packet × Int :=
  radiusCheck md5 pack (List.replicate RADIUS_AUTHLEN 0) secret

/-! ## Portal -/

/-- `eag_portal_protocol_type`. -/
inductive Protocol where
  | PORTAL_PROTOCOL_MOBILE
  | PORTAL_PROTOCOL_TELECOM
deriving Repr, DecidableEq

def PORTAL_PACKET_MOBILE_HEADSIZE : Nat := 16
def PORTAL_PACKET_TELECOM_HEADSIZE : Nat := 32
def PORTAL_PACKET_SIZE : Nat := 1024
def PORTAL_AUTHLEN : Nat := 16

/-- The offset of `payload.t.authenticator` in `struct portal_packet_t`. -/
def portalAuth : Nat := 16

/-- `packet->attr_num`. -/
def attrNum (pack : Packet) : Nat := (pack 15).toNat

/-- The loop of `portal_packet_get_length`: `n` attributes are left, the next one is at `attr`. -/
def lengthLoop (pack : Packet) : Nat → Nat → Nat → Nat
  | 0, length, _ => length
  | n + 1, length, attr =>
    let len := (pack (attr + 1)).toNat
    if length + len > PORTAL_PACKET_SIZE then 0
    else lengthLoop pack n (length + len) (attr + len)

/-- `portal_packet_get_length`: zero if the attributes do not fit in a packet. -/
def portalPacketGetLength (p : Protocol) (pack : Packet) : Nat :=
  match p with
  | .PORTAL_PROTOCOL_MOBILE =>
    lengthLoop pack (attrNum pack) PORTAL_PACKET_MOBILE_HEADSIZE PORTAL_PACKET_MOBILE_HEADSIZE
  | .PORTAL_PROTOCOL_TELECOM =>
    lengthLoop pack (attrNum pack) PORTAL_PACKET_TELECOM_HEADSIZE PORTAL_PACKET_TELECOM_HEADSIZE

/-- What both functions that stamp portal packets do: the authenticator becomes the digest of the
packet with `auth` in its place. Packets of the mobile protocol have no authenticator. -/
def portalStamp (p : Protocol) (md5 : Digest) (pack : Packet) (auth secret : List UInt8) : Packet :=
  match p with
  | .PORTAL_PROTOCOL_MOBILE => pack
  | .PORTAL_PROTOCOL_TELECOM =>
    let pack := write pack portalAuth auth
    let context := read pack 0 (portalPacketGetLength p pack) ++ secret
    write pack portalAuth (md5 context).toList

/-- `portal_resp_authenticator`. -/
def portalRespAuthenticator (p : Protocol) (md5 : Digest) (pack req_pack : Packet)
    (secret : List UInt8) : Packet :=
  portalStamp p md5 pack (read req_pack portalAuth PORTAL_AUTHLEN) secret

/-- `portal_req_authenticator`. -/
def portalReqAuthenticator (p : Protocol) (md5 : Digest) (pack : Packet) (secret : List UInt8) :
    Packet :=
  portalStamp p md5 pack (List.replicate PORTAL_AUTHLEN 0) secret

/-- What both checks of portal packets compute. -/
def portalCheck (p : Protocol) (md5 : Digest) (pack : Packet) (auth secret : List UInt8) :
    Packet × Int :=
  match p with
  | .PORTAL_PROTOCOL_MOBILE => (pack, 0)
  | .PORTAL_PROTOCOL_TELECOM =>
    let packet_len := portalPacketGetLength p pack
    let context := read pack 0 (PORTAL_PACKET_TELECOM_HEADSIZE - PORTAL_AUTHLEN) ++ auth ++
      read pack PORTAL_PACKET_TELECOM_HEADSIZE
        (sizeT (packet_len - PORTAL_PACKET_TELECOM_HEADSIZE)) ++ secret
    (pack, memcmp (read pack portalAuth PORTAL_AUTHLEN) (md5 context).toList)

/-- `portal_request_check`. -/
def portalRequestCheck (p : Protocol) (md5 : Digest) (pack : Packet) (secret : List UInt8) :
    Packet × Int :=
  portalCheck p md5 pack (List.replicate PORTAL_AUTHLEN 0) secret

/-- `portal_response_check`. -/
def portalResponseCheck (p : Protocol) (md5 : Digest) (pack req_pack : Packet)
    (secret : List UInt8) : Packet × Int :=
  portalCheck p md5 pack (read req_pack portalAuth PORTAL_AUTHLEN) secret

end Eag
end DaemonGroup
