import DaemonGroup.Lib.Bytes
import DaemonGroup.Lib.Fields
import Mathlib.Algebra.Order.Ring.Nat

/-!
# DaemonGroup.Wcpss.Protocol

The fragments of CAPWAP control messages, `CWProtocol.c`: `cwAssembleMessage` cuts a message into
fragments, `cwProtocolParseFragment` collects them in a list and puts the message together again.

What `malloc` returns is part of the input: `mem` says of every place that asks for memory whether
there is some. A length below zero is, as a `size_t`, more than there is. A datagram has at most 65535
octets and a list at most one fragment for each of the 8192 offsets, so no `int` overflows here.
-/

namespace DaemonGroup
namespace Wcpss

open Lib

/-- An `int` or an `unsigned int`. -/
abbrev Word := BitVec 32
abbrev Bytes := List UInt8

def CW_PROTOCOL_VERSION : Word := 0
def CW_PACKET_PLAIN : Word := 0
def CW_CONTROL_HEADER_OFFSET_FOR_MSG_ELEMS : BitVec 16 := 3
def CW_BINDING_HLEN : Word := 4
def CW_BINDING_DATALENGTH : Word := 6
def gMaxDTLSHeaderSize : Int := 25
def gMaxCAPWAPHeaderSize : Int := 8
def gMaxCAPWAPHeaderSizeBinding : Nat := 16

/-- Where a field of a header begins, and how many bits it has. -/
structure Field where
  start : Nat
  len : Nat
deriving DecidableEq, Repr

/-! The fields of the first word of the transport header. -/

def CW_TRANSPORT_HEADER_VERSION : Field := ⟨0, 4⟩
def CW_TRANSPORT_HEADER_TYPE : Field := ⟨4, 4⟩
def CW_TRANSPORT_HEADER_HLEN : Field := ⟨8, 5⟩
def CW_TRANSPORT_HEADER_RID : Field := ⟨13, 5⟩
def CW_TRANSPORT_HEADER_WBID : Field := ⟨18, 5⟩
def CW_TRANSPORT_HEADER_T : Field := ⟨23, 1⟩
def CW_TRANSPORT_HEADER_F : Field := ⟨24, 1⟩
def CW_TRANSPORT_HEADER_L : Field := ⟨25, 1⟩
def CW_TRANSPORT_HEADER_W : Field := ⟨26, 1⟩
def CW_TRANSPORT_HEADER_M : Field := ⟨27, 1⟩
def CW_TRANSPORT_HEADER_K : Field := ⟨28, 1⟩
def CW_TRANSPORT_HEADER_FLAGS : Field := ⟨29, 3⟩

/-! The fields of its second word. -/

def CW_TRANSPORT_HEADER_FRAGMENT_ID : Field := ⟨0, 16⟩
def CW_TRANSPORT_HEADER_FRAGMENT_OFFSET : Field := ⟨16, 13⟩
def CW_TRANSPORT_HEADER_RESERVED : Field := ⟨29, 3⟩

/-! The fields of the two words of the wireless header. -/

def CW_TRANSPORT_HEADER_LENGTH : Field := ⟨0, 8⟩
def CW_TRANSPORT_HEADER_RSSI : Field := ⟨8, 8⟩
def CW_TRANSPORT_HEADER_SNR : Field := ⟨16, 8⟩
def CW_TRANSPORT_HEADER_DATARATE_1 : Field := ⟨24, 8⟩
def CW_TRANSPORT_HEADER_DATARATE_2 : Field := ⟨0, 8⟩
def CW_TRANSPORT_HEADER_PADDING : Field := ⟨8, 24⟩

def cwSetField32 (src : Word) (f : Field) (val : Word) : Word := setField src f.start f.len val
def cwGetField32 (src : Word) (f : Field) : Word := getField src f.start f.len

/-! ## Messages -/

/-- `CWProtocolMessage`: what is allocated at `msg`, and the octets stored there so far. Their number
is `offset`; nothing keeps it below `size`. -/
structure CWProtocolMessage where
  size : Nat
  bytes : Bytes := []
deriving DecidableEq, Repr

def CWProtocolMessage.offset (m : CWProtocolMessage) : Nat := m.bytes.length

def cwProtocolStoreRawBytes (m : CWProtocolMessage) (bytes : Bytes) : CWProtocolMessage :=
  { m with bytes := m.bytes ++ bytes }

def cwProtocolStoreMessage (m msgToStore : CWProtocolMessage) : CWProtocolMessage :=
  cwProtocolStoreRawBytes m msgToStore.bytes

def cwProtocolStore8 (m : CWProtocolMessage) (val : BitVec 8) : CWProtocolMessage :=
  cwProtocolStoreRawBytes m [UInt8.ofBitVec val]

def cwProtocolStore16 (m : CWProtocolMessage) (val : BitVec 16) : CWProtocolMessage :=
  cwProtocolStoreRawBytes m [UInt8.ofBitVec (val.extractLsb' 8 8), UInt8.ofBitVec (val.extractLsb' 0 8)]

def cwProtocolStore32 (m : CWProtocolMessage) (val : Word) : CWProtocolMessage :=
  cwProtocolStoreRawBytes m
    [UInt8.ofBitVec (val.extractLsb' 24 8), UInt8.ofBitVec (val.extractLsb' 16 8),
      UInt8.ofBitVec (val.extractLsb' 8 8), UInt8.ofBitVec (val.extractLsb' 0 8)]

/-- The word at `offset`, in network order. -/
def cwProtocolRetrieve32 (msg : Nat → UInt8) (offset : Nat) : Word :=
  (msg offset).toBitVec ++ (msg (offset + 1)).toBitVec ++ (msg (offset + 2)).toBitVec ++
    (msg (offset + 3)).toBitVec

/-! ## Headers -/

structure CWBindingTransportHeaderValues where
  RSSI : BitVec 8
  SNR : BitVec 8
  dataRate : Word
deriving DecidableEq, Repr

structure CWProtocolTransportHeaderValues where
  payloadType : Word := 0
  type : Word := 0
  isFragment : Word := 0
  last : Word := 0
  fragmentID : Word := 0
  fragmentOffset : Word := 0
  keepAlive : Word := 0
  bindingValuesPtr : Option CWBindingTransportHeaderValues := none
deriving DecidableEq, Repr

/-- A `char` is signed where it is widened. -/
def cwAssembleTransportHeaderBinding (hdr : CWProtocolMessage) (v : CWBindingTransportHeaderValues) :
    CWProtocolMessage :=
  let val := cwSetField32 0 CW_TRANSPORT_HEADER_LENGTH CW_BINDING_DATALENGTH
  let val := cwSetField32 val CW_TRANSPORT_HEADER_RSSI (v.RSSI.signExtend 32)
  let val := cwSetField32 val CW_TRANSPORT_HEADER_SNR (v.SNR.signExtend 32)
  let val := cwSetField32 val CW_TRANSPORT_HEADER_DATARATE_1 (v.dataRate.sshiftRight 8)
  let hdr := cwProtocolStore32 hdr val
  let val := cwSetField32 0 CW_TRANSPORT_HEADER_DATARATE_2 (v.dataRate &&& 0x000000FF)
  let val := cwSetField32 val CW_TRANSPORT_HEADER_PADDING 0
  cwProtocolStore32 hdr val

/-- The first word of the transport header. -/
def transportWord1 (v : CWProtocolTransportHeaderValues) : Word :=
  let val := cwSetField32 0 CW_TRANSPORT_HEADER_VERSION CW_PROTOCOL_VERSION
  let val := cwSetField32 val CW_TRANSPORT_HEADER_TYPE
    (if v.payloadType = CW_PACKET_PLAIN then 0 else 1)
  let val := cwSetField32 val CW_TRANSPORT_HEADER_HLEN
    (if v.bindingValuesPtr.isSome then CW_BINDING_HLEN else 2)
  let val := cwSetField32 val CW_TRANSPORT_HEADER_RID 0
  let val := cwSetField32 val CW_TRANSPORT_HEADER_WBID 1
  let val := cwSetField32 val CW_TRANSPORT_HEADER_T 1
  let val := cwSetField32 val CW_TRANSPORT_HEADER_F v.isFragment
  let val := cwSetField32 val CW_TRANSPORT_HEADER_L v.last
  let val := cwSetField32 val CW_TRANSPORT_HEADER_W (if v.bindingValuesPtr.isSome then 1 else 0)
  let val := cwSetField32 val CW_TRANSPORT_HEADER_M 0
  let val := cwSetField32 val CW_TRANSPORT_HEADER_K 0
  cwSetField32 val CW_TRANSPORT_HEADER_FLAGS 0

/-- The second word of the transport header. -/
def transportWord2 (v : CWProtocolTransportHeaderValues) : Word :=
  let val := cwSetField32 0 CW_TRANSPORT_HEADER_FRAGMENT_ID v.fragmentID
  let val := cwSetField32 val CW_TRANSPORT_HEADER_FRAGMENT_OFFSET v.fragmentOffset
  cwSetField32 val CW_TRANSPORT_HEADER_RESERVED 0

/-- `mem`: whether the header can be allocated. -/
def cwAssembleTransportHeader (mem : Bool) (v : CWProtocolTransportHeaderValues) :
    Option CWProtocolMessage :=
  if mem then
    let hdr : CWProtocolMessage :=
      { size := if v.bindingValuesPtr.isSome then gMaxCAPWAPHeaderSizeBinding else 8 }
    let hdr := cwProtocolStore32 hdr (transportWord1 v)
    let hdr := cwProtocolStore32 hdr (transportWord2 v)
    match v.bindingValuesPtr with
    | some b => some (cwAssembleTransportHeaderBinding hdr b)
    | none => some hdr
  else none

structure CWControlHeaderValues where
  messageTypeValue : Word
  seqNum : BitVec 8
  msgElemsLen : BitVec 16
deriving DecidableEq, Repr

def cwAssembleControlHeader (mem : Bool) (v : CWControlHeaderValues) : Option CWProtocolMessage :=
  if mem then
    let hdr := cwProtocolStore32 { size := 8 } v.messageTypeValue
    let hdr := cwProtocolStore8 hdr v.seqNum
    let hdr := cwProtocolStore16 hdr (CW_CONTROL_HEADER_OFFSET_FOR_MSG_ELEMS + v.msgElemsLen)
    some (cwProtocolStore8 hdr 0)
  else none

/-! ## Assembling -/

/-- The places where `CWAssembleMessage` asks for memory; the last two do so for every fragment. -/
inductive AssembleAlloc where
  | controlHdr | msg | array | transportHdr (i : Nat) | completeMsg (i : Nat)
deriving DecidableEq, Repr

/-- What goes into the header of a fragment. -/
def fragmentValues (fragID is_crypted : Word) (offset : Nat) (last : Bool) :
    CWProtocolTransportHeaderValues :=
  { isFragment := 1, fragmentOffset := BitVec.ofNat 32 (offset / 8), fragmentID := fragID,
    payloadType := is_crypted, last := if last then 1 else 0 }

/-- The loop over the fragments of `msg`, from the `i`th on: `left` of them are still to come, and
`offset` octets are gone. -/
def assembleFragments (mem : AssembleAlloc → Bool) (fragID is_crypted : Word) (PMTU num : Nat)
    (msg : Bytes) : (left i offset : Nat) → Option (List CWProtocolMessage)
  | 0, _, _ => some []
  | left + 1, i, offset =>
    let last := !decide (i < num - 1)
    let fragSize := if last then msg.length - (num - 1) * PMTU else PMTU
    match cwAssembleTransportHeader (mem (.transportHdr i))
        (fragmentValues fragID is_crypted offset last) with
    | none => none
    | some transportHdr =>
      if mem (.completeMsg i) then
        let m : CWProtocolMessage := { size := transportHdr.offset + fragSize }
        let m := cwProtocolStoreMessage m transportHdr
        let m := cwProtocolStoreRawBytes m ((msg.drop offset).take fragSize)
        (assembleFragments mem fragID is_crypted PMTU num msg left (i + 1) (offset + fragSize)).map
          (m :: ·)
      else none

/-- How many fragments a message of `size` octets needs, and how long they are. The length is of no
use when there is one. -/
def fragmentsNum (PMTU : Int) (size : Nat) : Nat × Nat :=
  let PMTU := PMTU - gMaxDTLSHeaderSize - gMaxCAPWAPHeaderSize
  if 0 < PMTU then
    let PMTU := (PMTU / 8 * 8).toNat
    if PMTU = 0 then (1, PMTU)
    else (size / PMTU + (if size % PMTU ≠ 0 then 1 else 0), PMTU)
  else (1, 0)

/-- The whole control message: the control header and the elements. -/
def controlMessage (mem : AssembleAlloc → Bool) (seqNum msgTypeValue : Word)
    (msgElems msgElemsBinding : List Bytes) : Option CWProtocolMessage :=
  let msgElemsLen := (msgElems.map List.length).sum + (msgElemsBinding.map List.length).sum
  match cwAssembleControlHeader (mem .controlHdr)
      { messageTypeValue := msgTypeValue, seqNum := seqNum.setWidth 8,
        msgElemsLen := BitVec.ofNat 16 msgElemsLen } with
  | none => none
  | some controlHdr =>
    if mem .msg then
      let m : CWProtocolMessage := { size := controlHdr.offset + msgElemsLen }
      let m := cwProtocolStoreMessage m controlHdr
      let m := msgElems.foldl cwProtocolStoreRawBytes m
      some (msgElemsBinding.foldl cwProtocolStoreRawBytes m)
    else none

/-- `CWAssembleMessage`; `fragID` is what `CWGetFragmentID` returns. -/
def cwAssembleMessage (mem : AssembleAlloc → Bool) (fragID : Word) (PMTU : Int)
    (seqNum msgTypeValue : Word) (msgElems msgElemsBinding : List Bytes) (is_crypted : Word) :
    Option (List CWProtocolMessage) :=
  match controlMessage mem seqNum msgTypeValue msgElems msgElemsBinding with
  | none => none
  | some msg =>
    let (num, PMTU) := fragmentsNum PMTU msg.offset
    if num = 1 then
      if mem .array then
        match cwAssembleTransportHeader (mem (.transportHdr 0)) { payloadType := is_crypted } with
        | none => none
        | some transportHdr =>
          if mem (.completeMsg 0) then
            let m : CWProtocolMessage := { size := transportHdr.offset + msg.offset }
            some [cwProtocolStoreMessage (cwProtocolStoreMessage m transportHdr) msg]
          else none
      else none
    else if mem .array then
      assembleFragments mem fragID is_crypted PMTU num msg.bytes num 0 0
    else none

/-! ## Parsing -/

inductive CWErrorCode where
  | OUT_OF_MEMORY | NEED_RESOURCE | INVALID_FORMAT
deriving DecidableEq, Repr

/-- What `CWErrorRaise` leaves behind; the text is empty where it was `NULL`. -/
structure CWError where
  code : CWErrorCode
  message : String := ""
deriving DecidableEq, Repr

/-- The places where `CWProtocolParseFragment` asks for memory. -/
inductive ParseAlloc where
  | binding | fragment | data | element | message
deriving DecidableEq, Repr

/-- `malloc` of `size` octets, where there is memory if `mem` says so. -/
def malloc (mem : Bool) (size : Int) : Bool := mem && decide (0 ≤ size)

/-- What the wireless header of the datagram makes of the parse: its two words are read over, or its
length field is wrong. -/
def cwParseTransportHeaderBinding (buf : Nat → UInt8) (offset : Nat) : Except CWError Nat :=
  let val := cwProtocolRetrieve32 buf offset
  if cwGetField32 val CW_TRANSPORT_HEADER_LENGTH ≠ CW_BINDING_DATALENGTH then
    .error { code := .INVALID_FORMAT, message := "Wrong Binding Data Field Length" }
  else .ok (offset + 8)

/-- What `CWParseTransportHeader` finds: the values and how far it read. The values of the wireless
header are dropped at once. -/
structure ParsedHeader where
  values : CWProtocolTransportHeaderValues
  offset : Nat
deriving DecidableEq, Repr

/-- The values in the two words of a transport header. -/
def headerValues (buf : Nat → UInt8) : CWProtocolTransportHeaderValues :=
  let val := cwProtocolRetrieve32 buf 0
  let val2 := cwProtocolRetrieve32 buf 4
  { payloadType := cwGetField32 val CW_TRANSPORT_HEADER_TYPE
    type := cwGetField32 val CW_TRANSPORT_HEADER_T
    isFragment := cwGetField32 val CW_TRANSPORT_HEADER_F
    last := cwGetField32 val CW_TRANSPORT_HEADER_L
    keepAlive := cwGetField32 val CW_TRANSPORT_HEADER_K
    fragmentID := cwGetField32 val2 CW_TRANSPORT_HEADER_FRAGMENT_ID
    fragmentOffset := cwGetField32 val2 CW_TRANSPORT_HEADER_FRAGMENT_OFFSET }

def cwParseTransportHeader (mem : Bool) (buf : Nat → UInt8) : Except CWError ParsedHeader :=
  let val := cwProtocolRetrieve32 buf 0
  if cwGetField32 val CW_TRANSPORT_HEADER_VERSION ≠ CW_PROTOCOL_VERSION then
    .error { code := .INVALID_FORMAT, message := "Wrong Protocol Version" }
  else
    let transport4BytesLen := cwGetField32 val CW_TRANSPORT_HEADER_HLEN
    let optionalWireless := cwGetField32 val CW_TRANSPORT_HEADER_W
    if transport4BytesLen = 4 ∧ optionalWireless = 1 then
      if mem then
        match cwParseTransportHeaderBinding buf 8 with
        | .error e => .error e
        | .ok offset => .ok { values := headerValues buf, offset := offset }
      else .error { code := .OUT_OF_MEMORY }
    else if transport4BytesLen = 2 then
      .ok { values := headerValues buf, offset := 8 }
    else .error { code := .INVALID_FORMAT, message := "Malformed Transport Header" }

/-- What `CWParseTransportHeader` leaves in `*dataFlagPtr`. -/
def dataFlag (buf : Nat → UInt8) : Bool :=
  let val := cwProtocolRetrieve32 buf 0
  cwGetField32 val CW_TRANSPORT_HEADER_VERSION == CW_PROTOCOL_VERSION &&
    cwGetField32 val CW_TRANSPORT_HEADER_HLEN == 4 && cwGetField32 val CW_TRANSPORT_HEADER_W == 1

/-- `CWProtocolFragment`, with what is used of its header. `dataLen` is the length of `data`. -/
structure CWProtocolFragment where
  fragmentID : Nat
  fragmentOffset : Nat
  last : Nat
  data : Bytes
deriving DecidableEq, Repr

def CWProtocolFragment.dataLen (f : CWProtocolFragment) : Nat := f.data.length

def cwCompareFragment (newEl oldEl : CWProtocolFragment) : Bool :=
  newEl.fragmentID == oldEl.fragmentID && newEl.fragmentOffset == oldEl.fragmentOffset

/-- The loop that looks for the end of the message: the end of the fragment flagged last, of the one
furthest down the list when there are several. -/
def totalSize (l : List CWProtocolFragment) : Nat :=
  l.foldl (fun size f => if f.last = 1 then f.fragmentOffset * 8 + f.dataLen else size) 0

/-- The octets in all the fragments. -/
def currentSize (l : List CWProtocolFragment) : Nat := (l.map (·.dataLen)).sum

/-- The variables of the loop that copies. -/
structure Copy where
  currentOffset : Nat
  reassembledMsg : CWProtocolMessage
deriving DecidableEq, Repr

/-- One turn of the loop that copies: it goes on, or the function returns. -/
def copyStep (l : List CWProtocolFragment) (c : Copy) : Copy ⊕ Except CWError CWProtocolMessage :=
  match l.find? (fun f => f.fragmentOffset == c.currentOffset) with
  | none => .inr (.error { code := .INVALID_FORMAT, message := "Bad Fragmented Messsage" })
  | some f =>
    let m := cwProtocolStoreRawBytes c.reassembledMsg f.data
    if f.last = 1 then .inr (.ok m)
    else .inl { currentOffset := c.currentOffset + f.dataLen / 8, reassembledMsg := m }

/-- Where the loop that copies is after at most `n` turns. -/
def copyLoop (l : List CWProtocolFragment) : Nat → Copy → Copy ⊕ Except CWError CWProtocolMessage
  | 0, c => .inl c
  | n + 1, c =>
    match copyStep l c with
    | .inl c' => copyLoop l n c'
    | .inr r => .inr r

/-- What a call has come to before it copies anything: it has returned, or the fragments in the list
add up to `size` octets and the loop that copies begins. -/
inductive Entry where
  | ret (r : Except CWError CWProtocolMessage) (l : List CWProtocolFragment)
  | copy (size : Nat) (l : List CWProtocolFragment)
deriving DecidableEq, Repr

/-- From the check if there are all the fragments on. -/
def checkFragments (mem : ParseAlloc → Bool) (l : List CWProtocolFragment) : Entry :=
  if totalSize l = 0 then .ret (.error { code := .NEED_RESOURCE }) l
  else if currentSize l ≠ totalSize l then .ret (.error { code := .NEED_RESOURCE }) l
  else if malloc (mem .message) (totalSize l) then .copy (totalSize l) l
  else .ret (.error { code := .OUT_OF_MEMORY }) l

/-- The fragment is copied from the datagram and put at the head of the list. -/
def addFragment (mem : ParseAlloc → Bool) (dataLen : Int) (frag : CWProtocolFragment)
    (l : List CWProtocolFragment) : Entry :=
  if malloc (mem .data) dataLen then
    if mem .element then checkFragments mem (frag :: l)
    else .ret (.error { code := .OUT_OF_MEMORY }) []
  else .ret (.error { code := .OUT_OF_MEMORY }) l

/-- The fragment in a datagram with the header `h`. -/
def fragmentOf (buf : Nat → UInt8) (readBytes : Nat) (h : ParsedHeader) : CWProtocolFragment :=
  { fragmentID := h.values.fragmentID.toNat, fragmentOffset := h.values.fragmentOffset.toNat,
    last := h.values.last.toNat, data := Bytes.read buf h.offset (readBytes - h.offset) }

/-- A call of `CWProtocolParseFragment` up to the loop that copies. -/
def parseEntry (mem : ParseAlloc → Bool) (buf : Nat → UInt8) (readBytes : Nat)
    (l : List CWProtocolFragment) : Entry :=
  match cwParseTransportHeader (mem .binding) buf with
  | .error e => .ret (.error e) l
  | .ok h =>
    let dataLen : Int := readBytes - h.offset
    if h.values.isFragment = 0 then
      if malloc (mem .message) dataLen then
        let m : CWProtocolMessage := { size := dataLen.toNat }
        .ret (.ok (cwProtocolStoreRawBytes m (Bytes.read buf h.offset dataLen.toNat))) l
      else .ret (.error { code := .OUT_OF_MEMORY }) l
    else if mem .fragment then
      let frag := fragmentOf buf readBytes h
      match l with
      | [] => addFragment mem dataLen frag []
      | f :: rest =>
        if f.fragmentID = frag.fragmentID then
          if (f :: rest).any (cwCompareFragment frag) then
            .ret (.error { code := .NEED_RESOURCE }) (f :: rest)
          else addFragment mem dataLen frag (f :: rest)
        else addFragment mem dataLen frag []
    else .ret (.error { code := .OUT_OF_MEMORY }) l

/-- What a call of `CWProtocolParseFragment` returns, and what it leaves in `*fragmentsListPtr` and
`*dataFlagPtr`. -/
structure Parsed where
  ret : Except CWError CWProtocolMessage
  list : List CWProtocolFragment
  dataFlag : Bool
deriving DecidableEq, Repr

/-- `CWProtocolParseFragment`, if it returns within `n` turns of the loop that copies. -/
def cwProtocolParseFragment (n : Nat) (mem : ParseAlloc → Bool) (buf : Nat → UInt8)
    (readBytes : Nat) (l : List CWProtocolFragment) : Option Parsed :=
  match parseEntry mem buf readBytes l with
  | .ret r l' => some { ret := r, list := l', dataFlag := dataFlag buf }
  | .copy size l' =>
    match copyLoop l' n { currentOffset := 0, reassembledMsg := { size := size } } with
    | .inl _ => none
    | .inr r => some { ret := r, list := [], dataFlag := dataFlag buf }

end Wcpss
end DaemonGroup
