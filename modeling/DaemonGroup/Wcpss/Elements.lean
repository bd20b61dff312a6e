import DaemonGroup.Wcpss.Protocol

/-!
# DaemonGroup.Wcpss.Elements

The parsers of the message elements of a CAPWAP Discovery Request, `ACProtocol.c`: each begins at the
offset behind the head of its element and is right only if it ends as far behind it as the head says.

* `infoCount` — the loop that counts the vendor entries of an element, if it ends within `n` turns.
* `parseElement_some`, `parseElement_end` — the parsers return, and where they stop.

The memory that these functions ask for is there: the branches in which one of them returns for want of memory, before
it has gone through its element, are left out. A `char` is signed, and the host is big-endian, so
`ntohl` leaves a word as it is.
-/

namespace DaemonGroup
namespace Wcpss

open Lib

def CW_MSG_ELEMENT_DISCOVERY_TYPE_CW_TYPE : BitVec 16 := 20
def CW_MSG_ELEMENT_WTP_BOARD_DATA_CW_TYPE : BitVec 16 := 38
def CW_MSG_ELEMENT_WTP_DESCRIPTOR_CW_TYPE : BitVec 16 := 39
def CW_MSG_ELEMENT_WTP_FRAME_TUNNEL_MODE_CW_TYPE : BitVec 16 := 41
def CW_MSG_ELEMENT_WTP_MAC_TYPE_CW_TYPE : BitVec 16 := 43

/-! The types of the vendor entries of the board data, and of the descriptor. -/

def CW_WTP_MODEL_NUMBER : BitVec 16 := 0
def CW_WTP_SERIAL_NUMBER : BitVec 16 := 1
def CW_BOARD_MAC_ADDRESS : BitVec 16 := 4
def CW_WTP_REAL_MODEL_NUMBER : BitVec 16 := 5
def CW_WTP_CODE_VERSION : BitVec 16 := 6
def CW_WTP_MANUFACTURE_OPTION : BitVec 16 := 7
def CW_WTP_HARDWARE_VERSION : BitVec 16 := 0
def CW_WTP_SOFTWARE_VERSION : BitVec 16 := 1

def cwProtocolRetrieve8 (msg : Nat → UInt8) (offset : Nat) : BitVec 8 := (msg offset).toBitVec

/-- The half-word at `offset`, in network order. -/
def cwProtocolRetrieve16 (msg : Nat → UInt8) (offset : Nat) : BitVec 16 :=
  (msg offset).toBitVec ++ (msg (offset + 1)).toBitVec

/-- `CWWTPVendorInfoValues`: a pointer that was not set is `none`. -/
structure CWWTPVendorInfoValues where
  vendorIdentifier : Word
  type : BitVec 16
  length : Nat
  valuePtr : Option Bytes := none
  model : Option Bytes := none
  SN : Option Bytes := none
  mac : Option Bytes := none
  ver : Option Bytes := none
  codever : Option Bytes := none
  sysver : Option Bytes := none
  Rmodel : Option Bytes := none
  manuoption : BitVec 16 := 0
deriving DecidableEq, Repr

structure CWWTPDescriptor where
  maxRadios : BitVec 8 := 0
  radiosInUse : BitVec 8 := 0
  encCapabilities : BitVec 16 := 0
  vendorInfos : List CWWTPVendorInfoValues := []
deriving DecidableEq, Repr

structure CWDiscoveryRequestValues where
  type : BitVec 8 := 0
  WTPBoardData : List CWWTPVendorInfoValues := []
  WTPDescriptor : CWWTPDescriptor := {}
  frameTunnelMode : BitVec 8 := 0
  MACType : BitVec 8 := 0
deriving DecidableEq, Repr

/-- `CWParseMessageElementEnd`: the offset has to be `len` behind the old one. -/
def messageElementEnd {α : Type} (oldOffset len : Nat) (v : α) (offset : Nat) : Except CWError (α × Nat) :=
  if offset - oldOffset = len then .ok (v, offset)
  else .error { code := .INVALID_FORMAT, message := "Message Element Malformed" }

/-! ## Vendor entries -/

/-- The loop that counts the entries: each has a head of `head` octets, the last two of them the length
of what follows. -/
def infoCount (head : Nat) (msg : Nat → UInt8) (oldOffset len : Nat) : Nat → Nat → Option Nat
  | 0, _ => none
  | n + 1, offset =>
    if offset - oldOffset < len then
      let tmp := (cwProtocolRetrieve16 msg (offset + head - 2)).toNat
      (infoCount head msg oldOffset len n (offset + head + tmp)).map (· + 1)
    else some 0

/-- The loop that reads them, `count` turns of it. -/
def infoLoop (step : Nat → CWWTPVendorInfoValues × Nat) : Nat → Nat → List CWWTPVendorInfoValues × Nat
  | 0, offset => ([], offset)
  | count + 1, offset =>
    let (info, next) := step offset
    let (infos, last) := infoLoop step count next
    (info :: infos, last)

/-- `wid_illegal_character_check` of a whole string, with `modify` off. -/
def widIllegalCharacterCheck (str : Bytes) : Bool :=
  (str.takeWhile (· ≠ 0)).all fun c => 32 ≤ c && c ≤ 126

/-- A text entry: what is kept of it is all zero if it has a character that is not printable. -/
def checkedText (msg : Nat → UInt8) (offset length : Nat) : Bytes :=
  let str := Bytes.read msg offset length
  if widIllegalCharacterCheck str then str else List.replicate length 0

/-- An entry of the board data. The length of an entry is cut to 64; the entry of a type that is not
known is not skipped. -/
def boardInfo (msg : Nat → UInt8) (vendorID : Word) (offset : Nat) : CWWTPVendorInfoValues × Nat :=
  let type := cwProtocolRetrieve16 msg offset
  let length := (cwProtocolRetrieve16 msg (offset + 2)).toNat
  let info : CWWTPVendorInfoValues := { vendorIdentifier := vendorID, type := type, length := length }
  let cut := if length > 64 then 64 else length
  let text := checkedText msg (offset + 4) cut
  if type = CW_WTP_SERIAL_NUMBER then
    ({ info with length := cut, SN := some text }, offset + 4 + cut)
  else if type = CW_BOARD_MAC_ADDRESS then
    let cut := if length < 6 ∨ length > 64 then 64 else length
    ({ info with length := cut, mac := some (Bytes.read msg (offset + 4) cut) }, offset + 4 + cut)
  else if type = CW_WTP_MODEL_NUMBER then
    ({ info with length := cut, model := some text, valuePtr := if cut = 4 then some text else none },
      offset + 4 + cut)
  else if type = CW_WTP_REAL_MODEL_NUMBER then
    ({ info with length := cut, Rmodel := some text, valuePtr := if cut = 4 then some text else none },
      offset + 4 + cut)
  else if type = CW_WTP_CODE_VERSION then
    ({ info with length := cut, codever := some text }, offset + 4 + cut)
  else if type = CW_WTP_MANUFACTURE_OPTION then
    ({ info with manuoption := cwProtocolRetrieve16 msg (offset + 4) }, offset + 8)
  else (info, offset + 4)

/-- An entry of the descriptor. -/
def descriptorInfo (msg : Nat → UInt8) (offset : Nat) : CWWTPVendorInfoValues × Nat :=
  let type := cwProtocolRetrieve16 msg (offset + 4)
  let length := (cwProtocolRetrieve16 msg (offset + 6)).toNat
  let info : CWWTPVendorInfoValues :=
    { vendorIdentifier := cwProtocolRetrieve32 msg offset, type := type, length := length }
  let bytes := Bytes.read msg (offset + 8) length
  if type = CW_WTP_HARDWARE_VERSION then ({ info with sysver := some bytes }, offset + 8 + length)
  else if type = CW_WTP_SOFTWARE_VERSION then ({ info with ver := some bytes }, offset + 8 + length)
  else ({ info with valuePtr := some bytes }, offset + 8 + length)

/-! ## Elements

`offset` is where the element begins and `len` what its head says; the loops of an element have `n`
turns to end. -/

/-- An element of one octet. -/
def parseOctet (msg : Nat → UInt8) (offset len : Nat) : Except CWError (BitVec 8 × Nat) :=
  messageElementEnd offset len (cwProtocolRetrieve8 msg offset) (offset + 1)

def cwParseDiscoveryType (msg : Nat → UInt8) (offset len : Nat) : Except CWError (BitVec 8 × Nat) :=
  parseOctet msg offset len

def cwParseWTPFrameTunnelMode (msg : Nat → UInt8) (offset len : Nat) : Except CWError (BitVec 8 × Nat) :=
  parseOctet msg offset len

def cwParseWTPMACType (msg : Nat → UInt8) (offset len : Nat) : Except CWError (BitVec 8 × Nat) :=
  parseOctet msg offset len

def cwParseWTPBoardData (n : Nat) (msg : Nat → UInt8) (offset len : Nat) :
    Option (Except CWError (List CWWTPVendorInfoValues × Nat)) :=
  let vendorID := cwProtocolRetrieve32 msg offset
  (infoCount 4 msg offset len n (offset + 4)).map fun count =>
    let (infos, last) := infoLoop (boardInfo msg vendorID) count (offset + 4)
    messageElementEnd offset len infos last

def cwParseWTPDescriptor (n : Nat) (msg : Nat → UInt8) (offset len : Nat) :
    Option (Except CWError (CWWTPDescriptor × Nat)) :=
  (infoCount 8 msg offset len n (offset + 4)).map fun count =>
    let (infos, last) := infoLoop (descriptorInfo msg) count (offset + 4)
    messageElementEnd offset len
      { maxRadios := cwProtocolRetrieve8 msg offset
        radiosInUse := cwProtocolRetrieve8 msg (offset + 1)
        encCapabilities := cwProtocolRetrieve16 msg (offset + 2)
        vendorInfos := infos } last

/-- What an element makes of the values of the request. -/
def storedIn {α : Type} (set : α → CWDiscoveryRequestValues) (r : Except CWError (α × Nat)) :
    Except CWError (CWDiscoveryRequestValues × Nat) :=
  r.map fun p => (set p.1, p.2)

/-- The `switch` over the types of the elements. -/
def parseElement (n : Nat) (msg : Nat → UInt8) (offset : Nat) (elemType : BitVec 16) (elemLen : Nat)
    (v : CWDiscoveryRequestValues) : Option (Except CWError (CWDiscoveryRequestValues × Nat)) :=
  if elemType = CW_MSG_ELEMENT_DISCOVERY_TYPE_CW_TYPE then
    some (storedIn (fun x => { v with type := x }) (cwParseDiscoveryType msg offset elemLen))
  else if elemType = CW_MSG_ELEMENT_WTP_BOARD_DATA_CW_TYPE then
    (cwParseWTPBoardData n msg offset elemLen).map (storedIn fun x => { v with WTPBoardData := x })
  else if elemType = CW_MSG_ELEMENT_WTP_DESCRIPTOR_CW_TYPE then
    (cwParseWTPDescriptor n msg offset elemLen).map (storedIn fun x => { v with WTPDescriptor := x })
  else if elemType = CW_MSG_ELEMENT_WTP_FRAME_TUNNEL_MODE_CW_TYPE then
    some (storedIn (fun x => { v with frameTunnelMode := x }) (cwParseWTPFrameTunnelMode msg offset elemLen))
  else if elemType = CW_MSG_ELEMENT_WTP_MAC_TYPE_CW_TYPE then
    some (storedIn (fun x => { v with MACType := x }) (cwParseWTPMACType msg offset elemLen))
  else some (.error { code := .INVALID_FORMAT, message := "Unrecognized Message Element" })

/-! ## Where they stop -/

section
variable {α β : Type} {n k offset old len : Nat} {msg : Nat → UInt8} {v w : CWDiscoveryRequestValues}
  {elemType : BitVec 16}

/-- The count comes to an end: every turn goes on by the length of a head at least. -/
theorem infoCount_some {head : Nat} (hhead : 0 < head) (hold : old ≤ offset) (hn : len ≤ offset - old + n) :
    ∃ count, infoCount head msg old len (n + 1) offset = some count := by
  induction n generalizing offset with
  | zero => exact ⟨0, by rw [infoCount, if_neg (by omega)]⟩
  | succ n ih =>
    rw [infoCount]
    by_cases hlt : offset - old < len
    · obtain ⟨count, hcount⟩ := @ih (offset + head + (cwProtocolRetrieve16 msg (offset + head - 2)).toNat)
        (by omega) (by omega)
      exact ⟨count + 1, (if_pos hlt).trans (congrArg (Option.map (· + 1)) hcount)⟩
    · exact ⟨0, if_neg hlt⟩

/-- The count does not depend on the turns it was given. -/
theorem infoCount_det {head c d : Nat} (hc : infoCount head msg old len n offset = some c)
    (hd : infoCount head msg old len k offset = some d) : c = d := by
  induction n generalizing offset k c d with
  | zero => cases hc
  | succ n ih =>
    cases k with
    | zero => cases hd
    | succ k =>
      rw [infoCount] at hc hd
      by_cases hlt : offset - old < len
      · rw [if_pos hlt] at hc hd
        obtain ⟨c', hc', rfl⟩ := Option.map_eq_some_iff.mp hc
        obtain ⟨d', hd', rfl⟩ := Option.map_eq_some_iff.mp hd
        rw [ih hc' hd']
      · rw [if_neg hlt] at hc hd
        exact Option.some.inj (hc.symm.trans hd)

theorem messageElementEnd_ok {x : α} {r : α × Nat} (hold : old ≤ offset)
    (h : messageElementEnd old len x offset = .ok r) : r.2 = old + len := by
  rw [messageElementEnd] at h
  split at h
  · rename_i heq
    cases h
    show offset = old + len
    omega
  · cases h

theorem le_infoLoop {step : Nat → CWWTPVendorInfoValues × Nat} (hstep : ∀ o, o ≤ (step o).2) {count : Nat} :
    offset ≤ (infoLoop step count offset).2 := by
  induction count generalizing offset with
  | zero => exact Nat.le_refl _
  | succ count ih => exact Nat.le_trans (hstep offset) ih

theorem le_boardInfo (msg : Nat → UInt8) (vendorID : Word) (offset : Nat) : offset ≤ (boardInfo msg vendorID offset).2 := by
  simp only [boardInfo]
  repeat' split
  all_goals simp only [Nat.add_assoc, Nat.le_add_right]

theorem le_descriptorInfo (msg : Nat → UInt8) (offset : Nat) : offset ≤ (descriptorInfo msg offset).2 := by
  simp only [descriptorInfo]
  repeat' split
  all_goals simp only [Nat.add_assoc, Nat.le_add_right]

/-- A parser of an element of `len` octets at `offset`, as a function of the turns its loops are given: it
returns, always the same, and where it is content it has read the whole element. -/
structure Parses (offset len : Nat) (r : Nat → Option (Except CWError (α × Nat))) : Prop where
  returns : ∀ {n}, len ≤ n → ∃ x, r (n + 1) = some x
  same : ∀ {n k x y}, r n = some x → r k = some y → x = y
  stops : ∀ {n p}, r n = some (.ok p) → p.2 = offset + len

theorem Parses.const (x : Except CWError (α × Nat)) (hstops : ∀ p, x = .ok p → p.2 = offset + len) :
    Parses offset len fun _ => some x where
  returns _ := ⟨x, rfl⟩
  same hx hy := Option.some.inj (hx.symm.trans hy)
  stops h := hstops _ (Option.some.inj h)

theorem Parses.octet (msg : Nat → UInt8) : Parses offset len fun _ => some (parseOctet msg offset len) :=
  .const _ fun _ h => messageElementEnd_ok (Nat.le_add_right _ _) h

/-- An element of vendor entries: it is read by as many turns as were counted. -/
theorem Parses.infos (msg : Nat → UInt8) {head : Nat} (hhead : 0 < head)
    (step : Nat → CWWTPVendorInfoValues × Nat) (hstep : ∀ o, o ≤ (step o).2) (f : List CWWTPVendorInfoValues → α) :
    Parses offset len fun n => (infoCount head msg offset len n (offset + 4)).map fun count =>
      messageElementEnd offset len (f (infoLoop step count (offset + 4)).1) (infoLoop step count (offset + 4)).2 where
  returns hn := by
    obtain ⟨count, hcount⟩ := @infoCount_some _ (offset + 4) offset len msg head hhead (Nat.le_add_right offset 4)
      (Nat.le_trans hn (Nat.le_add_left _ _))
    exact ⟨_, by rw [hcount]; rfl⟩
  same hx hy := by
    obtain ⟨c, hc, rfl⟩ := Option.map_eq_some_iff.mp hx
    obtain ⟨d, hd, rfl⟩ := Option.map_eq_some_iff.mp hy
    rw [infoCount_det hc hd]
  stops h := by
    obtain ⟨c, hc, hend⟩ := Option.map_eq_some_iff.mp h
    exact messageElementEnd_ok (Nat.le_trans (Nat.le_add_right _ 4) (le_infoLoop hstep)) hend

/-- Whatever the type of an element is, a parser reads it and its result is stored. -/
theorem parseElement_parses (msg : Nat → UInt8) (offset : Nat) (elemType : BitVec 16) (len : Nat) :
    ∃ (α : Type) (r : Nat → Option (Except CWError (α × Nat)))
      (set : CWDiscoveryRequestValues → α → CWDiscoveryRequestValues), Parses offset len r ∧
      ∀ n v, parseElement n msg offset elemType len v = (r n).map (storedIn (set v)) := by
  by_cases h20 : elemType = CW_MSG_ELEMENT_DISCOVERY_TYPE_CW_TYPE
  · exact ⟨_, _, fun v x => { v with type := x }, .octet msg, fun n v => if_pos h20⟩
  by_cases h38 : elemType = CW_MSG_ELEMENT_WTP_BOARD_DATA_CW_TYPE
  · refine ⟨_, _, fun v x => { v with WTPBoardData := x }, .infos msg (show 0 < 4 by decide)
      (boardInfo msg (cwProtocolRetrieve32 msg offset)) (le_boardInfo _ _) id, fun n v => ?_⟩
    rw [parseElement, if_neg h20, if_pos h38]
    rfl
  by_cases h39 : elemType = CW_MSG_ELEMENT_WTP_DESCRIPTOR_CW_TYPE
  · refine ⟨_, _, fun v x => { v with WTPDescriptor := x }, .infos msg (show 0 < 8 by decide)
      (descriptorInfo msg) (le_descriptorInfo _) fun infos =>
        { maxRadios := cwProtocolRetrieve8 msg offset
          radiosInUse := cwProtocolRetrieve8 msg (offset + 1)
          encCapabilities := cwProtocolRetrieve16 msg (offset + 2)
          vendorInfos := infos }, fun n v => ?_⟩
    rw [parseElement, if_neg h20, if_neg h38, if_pos h39]
    rfl
  by_cases h41 : elemType = CW_MSG_ELEMENT_WTP_FRAME_TUNNEL_MODE_CW_TYPE
  · refine ⟨_, _, fun v x => { v with frameTunnelMode := x }, .octet msg, fun n v => ?_⟩
    rw [parseElement, if_neg h20, if_neg h38, if_neg h39, if_pos h41]
    rfl
  by_cases h43 : elemType = CW_MSG_ELEMENT_WTP_MAC_TYPE_CW_TYPE
  · refine ⟨_, _, fun v x => { v with MACType := x }, .octet msg, fun n v => ?_⟩
    rw [parseElement, if_neg h20, if_neg h38, if_neg h39, if_neg h41, if_pos h43]
    rfl
  · refine ⟨Unit, _, fun v _ => v,
      .const (.error { code := .INVALID_FORMAT, message := "Unrecognized Message Element" })
        (fun p h => by cases h), fun n v => ?_⟩
    rw [parseElement, if_neg h20, if_neg h38, if_neg h39, if_neg h41, if_neg h43]
    rfl

@[simp] theorem isOk_storedIn {set : α → CWDiscoveryRequestValues} {r : Except CWError (α × Nat)} :
    (storedIn set r).isOk = r.isOk := by
  cases r <;> rfl

theorem storedIn_ok {set : α → CWDiscoveryRequestValues} {r : Except CWError (α × Nat)}
    {p : CWDiscoveryRequestValues × Nat} (h : storedIn set r = .ok p) : ∃ q, r = .ok q ∧ q.2 = p.2 := by
  cases r with
  | error e => cases h
  | ok q =>
    cases h
    exact ⟨q, rfl, rfl⟩

/-- The parser of the element is content with it. -/
def ElementOk (msg : Nat → UInt8) (offset : Nat) (elemType : BitVec 16) (len : Nat) : Prop :=
  ∃ n v p, parseElement n msg offset elemType len v = some (.ok p)

/-- The parsers of the elements return. -/
theorem parseElement_some (hn : len ≤ n) :
    ∃ x, parseElement (n + 1) msg offset elemType len v = some x := by
  obtain ⟨α, r, set, hr, heq⟩ := parseElement_parses msg offset elemType len
  obtain ⟨x, hx⟩ := hr.returns hn
  exact ⟨storedIn (set v) x, by rw [heq, hx]; rfl⟩

/-- A parser that is content has read the whole element. -/
theorem parseElement_end {p : CWDiscoveryRequestValues × Nat}
    (h : parseElement n msg offset elemType len v = some (.ok p)) : p.2 = offset + len := by
  obtain ⟨α, r, set, hr, heq⟩ := parseElement_parses msg offset elemType len
  rw [heq] at h
  obtain ⟨x, hx, hstored⟩ := Option.map_eq_some_iff.mp h
  obtain ⟨q, rfl, hq⟩ := storedIn_ok hstored
  rw [← hq, hr.stops hx]

/-- Whether it is content depends on the element alone. -/
theorem elementOk_iff {x : Except CWError (CWDiscoveryRequestValues × Nat)}
    (h : parseElement n msg offset elemType len v = some x) :
    ElementOk msg offset elemType len ↔ x.isOk = true := by
  constructor
  · rintro ⟨k, w, p, hp⟩
    obtain ⟨α, r, set, hr, heq⟩ := parseElement_parses msg offset elemType len
    rw [heq] at h hp
    obtain ⟨y, hy, rfl⟩ := Option.map_eq_some_iff.mp h
    obtain ⟨z, hz, hstored⟩ := Option.map_eq_some_iff.mp hp
    obtain ⟨q, rfl, -⟩ := storedIn_ok hstored
    rw [isOk_storedIn, hr.same hy hz]
    rfl
  · intro hok
    cases x with
    | error e => cases hok
    | ok p => exact ⟨n, v, p, h⟩

end

end Wcpss
end DaemonGroup
