import DaemonGroup.Lib.Reads
import DaemonGroup.Pppoe.Defs

/-!
# DaemonGroup.Pppoe.Discover

Discovery frames (`pppoe_discover.c`): how they are received, the parser of their tags, the cookie,
and what is answered to a PADI and to a PADR. A PADR that passes all checks goes on in
`World.processPADR`.

The bytes of the frame are read in the monad of the addresses that were read, so that the parser is
known by what it looks at. The array of the tags received is one memory for each of them, zero where
nothing was copied.
-/

namespace DaemonGroup
namespace Pppoe

open Lib Reads

def ETH_HDR : Nat := 14
def PPPOE_MTU : Nat := 1492
def TAG_HDR_SIZE : Nat := 4

/-- The room that `pppoe_discover_init` allocates, `DEFAULT_BUF_SIZE`. -/
def DISCOVER_BUF_SIZE : Nat := 4096

/-- `sizeof(struct pppoe_packet)`. -/
def PPPOE_PACKET : Nat := 20

def CODE_PADI : Nat := 0x09
def CODE_PADO : Nat := 0x07
def CODE_PADR : Nat := 0x19
def CODE_PADS : Nat := 0x65

def TAG_END_OF_LIST : Nat := 0x0000
def TAG_SERVICE_NAME : Nat := 0x0101
def TAG_AC_NAME : Nat := 0x0102
def TAG_HOST_UNIQ : Nat := 0x0103
def TAG_AC_COOKIE : Nat := 0x0104
def TAG_RELAY_SESSION_ID : Nat := 0x0110
def TAG_SERVICE_NAME_ERROR : Nat := 0x0201

def MD5_LEN : Nat := 16

/-- `MD5_LEN + sizeof(pid_t)`. -/
def COOKIE_LEN : Nat := 20

/-- The tags that are kept. -/
inductive RecvTag where
  | DIS_SERVICE
  | DIS_RALAYID
  | DIS_HOSTUNIQ
  | DIS_ACCOOKIE
deriving DecidableEq, Repr

/-- `struct discover_tag recv_tag[DIS_TAGNUMS]`. -/
abbrev RecvTags := RecvTag → Nat → UInt8

/-- `memset(recv_tag, 0, sizeof(recv_tag))`. -/
def zeroTags : RecvTags := fun _ _ => 0

/-- The fields of a `struct discover_tag`. -/
def tagType (t : Nat → UInt8) : Nat := getShort (Bytes.read t 0 2) 0

def tagLength (t : Nat → UInt8) : Nat := getShort (Bytes.read t 2 2) 0

def tagPayload (t : Nat → UInt8) (n : Nat) : Bytes := Bytes.read t TAG_HDR_SIZE n

/-- `GETSHORT`. -/
def readShort (m : Nat → UInt8) (a : Nat) : Reads Nat := do
  let bs ← load m a 2
  pure (getShort bs 0)

/-- `memcpy(&tag[k], cur_tag, tag_len + TAG_HDR_SIZE)`. -/
def copyTag (m : Nat → UInt8) (k : RecvTag) (cur_tag tag_len : Nat) (tag : RecvTags) :
    Reads RecvTags := do
  let bs ← load m cur_tag (tag_len + TAG_HDR_SIZE)
  pure (Function.update tag k (Bytes.write (tag k) 0 bs))

/-- The switch of `parsePacket`. -/
def switchTag (m : Nat → UInt8) (tag_type cur_tag tag_len : Nat) (tag : RecvTags) :
    Reads RecvTags :=
  if tag_type = TAG_SERVICE_NAME then copyTag m .DIS_SERVICE cur_tag tag_len tag
  else if tag_type = TAG_RELAY_SESSION_ID then copyTag m .DIS_RALAYID cur_tag tag_len tag
  else if tag_type = TAG_HOST_UNIQ then copyTag m .DIS_HOSTUNIQ cur_tag tag_len tag
  else if tag_type = TAG_AC_COOKIE then copyTag m .DIS_ACCOOKIE cur_tag tag_len tag
  else pure tag

/-- The loop of `parsePacket`: `len` bytes are left from `cur_tag` on. The body of the loop for a tag
that is all there is `handle`, called with the type, the place and the length of the tag. -/
def parseTags {σ : Type} (handle : Nat → Nat → Nat → σ → Reads σ) (m : Nat → UInt8)
    (cur_tag len : Nat) (s : σ) : Reads (Int × σ) :=
  if len = 0 then pure (PPPOEERR_SUCCESS, s)
  else if len < TAG_HDR_SIZE then pure (PPPOEERR_ELENGTH, s)
  else do
    let tag_type ← readShort m cur_tag
    let tag_len ← readShort m (cur_tag + 2)
    if tag_type = TAG_END_OF_LIST then pure (PPPOEERR_SUCCESS, s)
    else if tag_len + TAG_HDR_SIZE > len then pure (PPPOEERR_ELENGTH, s)
    else do
      let s ← handle tag_type cur_tag tag_len s
      parseTags handle m (cur_tag + (TAG_HDR_SIZE + tag_len)) (len - (TAG_HDR_SIZE + tag_len)) s
termination_by len
decreasing_by
  have : 0 < TAG_HDR_SIZE := by decide
  omega

/-- `parsePacket` with `handle` for its switch. -/
def parseWith {σ : Type} (handle : Nat → Nat → Nat → σ → Reads σ) (m : Nat → UInt8) (len : Nat)
    (s : σ) : Reads (Int × σ) :=
  if len > PPPOE_MTU - 6 then pure (PPPOEERR_ELENGTH, s) else parseTags handle m 0 len s

/-- `parsePacket`; `m` are the bytes behind the PPPoE header and `len` is the length it names. -/
def parsePacket (m : Nat → UInt8) (len : Nat) (tag : RecvTags) : Reads (Int × RecvTags) :=
  parseWith (switchTag m) m len tag

/-! ## Frames -/

def Mac.octets (a : Mac) : Bytes := [a.b0, a.b1, a.b2, a.b3, a.b4, a.b5]

/-- `NOT_UNICAST`. -/
def Mac.notUnicast (a : Mac) : Bool := a.b0 &&& 0x01 ≠ 0

/-- The address that is written at `a`. -/
def macAt (buf : Nat → UInt8) (a : Nat) : Mac :=
  ⟨buf a, buf (a + 1), buf (a + 2), buf (a + 3), buf (a + 4), buf (a + 5)⟩

/-- A discovery frame as the handlers get it: `data` are the bytes behind the PPPoE header, of which
the frame has `len`. -/
structure PppoePacket where
  h_dest : Mac
  h_source : Mac
  code : Nat
  data : Nat → UInt8
  len : Nat

/-- `discover_process` up to its switch, when `length` bytes were received into `buf`. -/
def discoverRecv (buf : Nat → UInt8) (length : Nat) : Except Int PppoePacket :=
  let plen := getShort (Bytes.read buf (ETH_HDR + 4) 2) 0
  if PPPOE_PACKET > length then .error PPPOEERR_ELENGTH
  else if plen > length - PPPOE_PACKET then .error PPPOEERR_ELENGTH
  else if buf ETH_HDR ≠ 0x11 then .error PPPOEERR_EINVAL
  else
    .ok
      { h_dest := macAt buf 0
        h_source := macAt buf 6
        code := (buf (ETH_HDR + 1)).toNat
        data := fun i => buf (PPPOE_PACKET + i)
        len := plen }

/-- What the handlers read of the configuration, of `struct discover_info` and of the process. The
names are those of the `char` arrays, without the zeros behind them. -/
structure Discover where
  sname : Bytes
  hwaddr : Mac
  cookie_seed : Bytes
  hname : Bytes
  pid : Nat

/-- `genCookie`. -/
def genCookie (d : Discover) (peerEthAddr : Mac) : Bytes :=
  Md5.md5 (peerEthAddr.octets ++ d.hwaddr.octets ++ d.cookie_seed) ++ putLong d.pid

/-- A tag as it is put into an answer. -/
def tagOctets (type : Nat) (value : Bytes) : Bytes := putShort type ++ putShort value.length ++ value

/-- The tag that was received in `t`, with its head. -/
def recvOctets (t : Nat → UInt8) : Bytes := Bytes.read t 0 (tagLength t + TAG_HDR_SIZE)

/-- `pbuf_put` after the test of `pbuf_tailroom`; `tags` are behind the header already. -/
def pbufPut (tags bs : Bytes) : Option Bytes :=
  if DISCOVER_BUF_SIZE - (PPPOE_PACKET + tags.length) < bs.length then none else some (tags ++ bs)

/-- The tag in `t` is given back if there is one. -/
def putHostUniq (tags : Bytes) (t : Nat → UInt8) : Option Bytes :=
  if tagType t ≠ 0 then pbufPut tags (recvOctets t) else some tags

/-- A frame of the daemon around its tags. -/
def discFrame (dest source : Mac) (code sid : Nat) (tags : Bytes) : Bytes :=
  dest.octets ++ source.octets ++ putShort 0x8863 ++ [0x11, UInt8.ofNat code] ++ putShort sid ++
    putShort tags.length ++ tags

/-- `sendErrorPADS`; `none` is when it sends nothing. -/
def sendErrorPADS (d : Discover) (dest : Mac) (recv_tag : RecvTags) (errorTag : Nat)
    (errorMsg : String) : Option Bytes := do
  let tags ← pbufPut [] (tagOctets errorTag errorMsg.toUTF8.toList)
  let tags ← putHostUniq tags (recv_tag .DIS_HOSTUNIQ)
  pure (discFrame dest d.hwaddr CODE_PADS 0 tags)

/-- The service that a tag names is another one than `sname`. -/
def otherService (sname : Bytes) (t : Nat → UInt8) : Bool :=
  tagLength t ≠ 0 ∧ (tagLength t ≠ sname.length ∨ sname ≠ tagPayload t (tagLength t))

/-- The tags of a PADO; `none` is the label `room_err`. -/
def padoTags (d : Discover) (dest : Mac) (recv_tag : RecvTags) : Option Bytes := do
  let tags ← pbufPut [] (tagOctets TAG_AC_NAME d.hname)
  let tags ← pbufPut tags (tagOctets TAG_SERVICE_NAME d.sname)
  let tags ← pbufPut tags (tagOctets TAG_AC_COOKIE (genCookie d dest))
  putHostUniq tags (recv_tag .DIS_HOSTUNIQ)

/-- `processPADI`: its return value and the PADO that it sends. `session` is whether the client has a
session, `send` is what `_send_packet` returns. -/
def processPADI (d : Discover) (send : Bytes → Int) (session : Bool) (pack : PppoePacket) :
    Int × Option Bytes :=
  if pack.h_source.notUnicast then (PPPOEERR_EADDR, none)
  else if session then (PPPOEERR_EEXIST, none)
  else
    let r := (parsePacket pack.data pack.len zeroTags).val
    if r.1 ≠ PPPOEERR_SUCCESS then (PPPOEERR_EINVAL, none)
    else if tagType (r.2 .DIS_RALAYID) ≠ 0 then (PPPOEERR_EINVAL, none)
    else if tagType (r.2 .DIS_SERVICE) ≠ 0 ∧ otherService d.sname (r.2 .DIS_SERVICE) then
      (PPPOEERR_ENOEXIST, none)
    else
      match padoTags d pack.h_source r.2 with
      | none => (PPPOEERR_ENOMEM, none)
      | some tags =>
        let frame := discFrame pack.h_source d.hwaddr CODE_PADO 0 tags
        (send frame, some frame)

/-- How the checks of a PADR end: with an error and the PADS that tells it, or with the tags, for which
a session is made. -/
inductive Padr where
  | refused (ret : Int) (pads : Option Bytes)
  | admitted (recv_tag : RecvTags)

/-- The checks of `processPADR` behind that of the cookie. -/
def padrService (d : Discover) (client : Mac) (recv_tag : RecvTags) : Padr :=
  if tagType (recv_tag .DIS_SERVICE) = 0 then
    .refused PPPOEERR_EINVAL (sendErrorPADS d client recv_tag TAG_SERVICE_NAME_ERROR
      "PPPoE: Server: No service name tag")
  else if otherService d.sname (recv_tag .DIS_SERVICE) then
    .refused PPPOEERR_ENOEXIST (sendErrorPADS d client recv_tag TAG_SERVICE_NAME_ERROR
      "PPPoE: Server: Not support service name")
  else .admitted recv_tag

/-- `processPADR` up to the making of the session; `session` is the state of the session that the
client has. -/
def processPADR (d : Discover) (session : Option SessState) (pack : PppoePacket) : Padr :=
  if pack.h_dest ≠ d.hwaddr then .refused PPPOEERR_EADDR none
  else if pack.h_source.notUnicast then .refused PPPOEERR_EADDR none
  else if session.any fun st => st.num > SessState.INIT.num then .refused PPPOEERR_EEXIST none
  else
    let r := (parsePacket pack.data pack.len zeroTags).val
    if r.1 ≠ PPPOEERR_SUCCESS then .refused PPPOEERR_EINVAL none
    else if tagType (r.2 .DIS_RALAYID) ≠ 0 then .refused PPPOEERR_EINVAL none
    else if tagType (r.2 .DIS_ACCOOKIE) = 0 ∨ tagLength (r.2 .DIS_ACCOOKIE) ≠ COOKIE_LEN then
      .refused PPPOEERR_EINVAL none
    else if tagPayload (r.2 .DIS_ACCOOKIE) COOKIE_LEN ≠ genCookie d pack.h_source then
      .refused PPPOEERR_EINVAL none
    else padrService d pack.h_source r.2

end Pppoe
end DaemonGroup
