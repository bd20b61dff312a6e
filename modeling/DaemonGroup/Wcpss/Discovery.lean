import DaemonGroup.Lib.Hops
import DaemonGroup.Lib.Reads
import DaemonGroup.Wcpss.Elements

/-!
# DaemonGroup.Wcpss.Discovery

`CWParseDiscoveryRequestMessage` of `ACDiscoveryState.c`, with the addresses at which it reads the headers and
the heads of the elements of the message. What the parsers of the elements read is not among them, and these parsers
find the memory that they ask for.

* `Bounded` — what the parser is for: it returns, it reads inside the datagram, and it takes a message only
  if its elements fill the octets announced for them and the datagram.
* `Fits` — the datagrams for which it does that.

The length of the datagram is compared with the offset at the end, so `Fits` is not for free.
-/

namespace DaemonGroup
namespace Wcpss

open Lib Reads

def CW_MSG_TYPE_VALUE_DISCOVERY_REQUEST : Word := 1

/-- One of the retrieve functions, of `size` octets, with the addresses that it reads. -/
def retrieve {α : Type} (size : Nat) (f : (Nat → UInt8) → Nat → α) (msg : Nat → UInt8) (offset : Nat) : Reads α := do
  let _ ← load msg offset size
  pure (f msg offset)

/-- `CWParseTransportHeaderBinding` -/
def readTransportHeaderBinding (msg : Nat → UInt8) (offset : Nat) : Reads (Except CWError Nat) := do
  let val ← retrieve 4 cwProtocolRetrieve32 msg offset
  if cwGetField32 val CW_TRANSPORT_HEADER_LENGTH ≠ CW_BINDING_DATALENGTH then
    pure (.error { code := .INVALID_FORMAT, message := "Wrong Binding Data Field Length" })
  else do
    let _ ← retrieve 4 cwProtocolRetrieve32 msg (offset + 4)
    pure (.ok (offset + 8))

/-- `CWParseTransportHeader` -/
def readTransportHeader (mem : Bool) (msg : Nat → UInt8) : Reads (Except CWError ParsedHeader) := do
  let val ← retrieve 4 cwProtocolRetrieve32 msg 0
  if cwGetField32 val CW_TRANSPORT_HEADER_VERSION ≠ CW_PROTOCOL_VERSION then
    pure (.error { code := .INVALID_FORMAT, message := "Wrong Protocol Version" })
  else do
    let transport4BytesLen := cwGetField32 val CW_TRANSPORT_HEADER_HLEN
    let optionalWireless := cwGetField32 val CW_TRANSPORT_HEADER_W
    let _ ← retrieve 4 cwProtocolRetrieve32 msg 4
    if transport4BytesLen = 4 ∧ optionalWireless = 1 then
      if mem then do
        let r ← readTransportHeaderBinding msg 8
        pure (r.map fun offset => { values := headerValues msg, offset := offset })
      else pure (.error { code := .OUT_OF_MEMORY })
    else if transport4BytesLen = 2 then pure (.ok { values := headerValues msg, offset := 8 })
    else pure (.error { code := .INVALID_FORMAT, message := "Malformed Transport Header" })

/-- The control header has eight octets; its flags are not used. -/
def cwParseControlHeader (msg : Nat → UInt8) (offset : Nat) : Reads CWControlHeaderValues := do
  let messageTypeValue ← retrieve 4 cwProtocolRetrieve32 msg offset
  let seqNum ← retrieve 1 cwProtocolRetrieve8 msg (offset + 4)
  let msgElemsLen ← retrieve 2 cwProtocolRetrieve16 msg (offset + 5)
  let _ ← retrieve 1 cwProtocolRetrieve8 msg (offset + 7)
  pure { messageTypeValue := messageTypeValue, seqNum := seqNum, msgElemsLen := msgElemsLen }

def cwParseFormatMsgElem (msg : Nat → UInt8) (offset : Nat) : Reads (BitVec 16 × BitVec 16) := do
  let type ← retrieve 2 cwProtocolRetrieve16 msg offset
  let len ← retrieve 2 cwProtocolRetrieve16 msg (offset + 2)
  pure (type, len)

/-- The loop over the elements; `next` is what is done with the values and the offset when it is over. -/
def elementLoop (n : Nat) (msg : Nat → UInt8) (offsetTillMessages msgElemsLen : Nat) :
    Nat → Nat → CWDiscoveryRequestValues → Reads (Option (Except CWError (CWDiscoveryRequestValues × Nat)))
  | 0, _, _ => pure none
  | k + 1, offset, v =>
    if offset - offsetTillMessages < msgElemsLen then do
      let elem ← cwParseFormatMsgElem msg offset
      match parseElement n msg (offset + 4) elem.1 elem.2.toNat v with
      | some (.ok p) => elementLoop n msg offsetTillMessages msgElemsLen k p.2 p.1
      | r => pure r
    else pure (some (.ok (v, offset)))

/-- What is left when the elements have been read. -/
def discoveryEnd (len : Nat) (seqNum : BitVec 8) (p : CWDiscoveryRequestValues × Nat) :
    Except CWError (BitVec 8 × CWDiscoveryRequestValues) :=
  if p.2 ≠ len then .error { code := .INVALID_FORMAT, message := "Garbage at the End of the Message" }
  else .ok (seqNum, p.1)

/-- The message behind the transport header. -/
def readDiscoveryRequest (n : Nat) (msg : Nat → UInt8) (len : Nat) (v : CWDiscoveryRequestValues) (offset : Nat) :
    Reads (Option (Except CWError (BitVec 8 × CWDiscoveryRequestValues))) := do
  let controlVal ← cwParseControlHeader msg offset
  if controlVal.messageTypeValue ≠ CW_MSG_TYPE_VALUE_DISCOVERY_REQUEST then
    pure (some (.error { code := .INVALID_FORMAT, message := "Message is not Discovery Request as Expected" }))
  else do
    -- an `unsigned short`: less than the three octets that are taken off wraps around
    let msgElemsLen := controlVal.msgElemsLen - CW_CONTROL_HEADER_OFFSET_FOR_MSG_ELEMS
    let r ← elementLoop n msg (offset + 8) msgElemsLen.toNat n (offset + 8) v
    pure (r.map fun r => r.bind (discoveryEnd len controlVal.seqNum))

/-- `CWParseDiscoveryRequestMessage` of a datagram of `len` octets at `msg`, if its loops end within `n` turns:
the sequence number and the values, which were `v` before. `mem`: whether there is memory for the wireless
header. -/
def cwParseDiscoveryRequestMessage (n : Nat) (mem : Bool) (msg : Nat → UInt8) (len : Nat)
    (v : CWDiscoveryRequestValues) : Reads (Option (Except CWError (BitVec 8 × CWDiscoveryRequestValues))) := do
  let h ← readTransportHeader mem msg
  match h with
  | .error e => pure (some (.error e))
  | .ok h => readDiscoveryRequest n msg len v h.offset

/-! ## The layout of a datagram -/

/-- How far the transport header is read. -/
def transportEnd (mem : Bool) (msg : Nat → UInt8) : Nat :=
  let val := cwProtocolRetrieve32 msg 0
  if cwGetField32 val CW_TRANSPORT_HEADER_VERSION ≠ CW_PROTOCOL_VERSION then 4
  else if cwGetField32 val CW_TRANSPORT_HEADER_HLEN = 4 ∧ cwGetField32 val CW_TRANSPORT_HEADER_W = 1 ∧ mem = true then
    if cwGetField32 (cwProtocolRetrieve32 msg 8) CW_TRANSPORT_HEADER_LENGTH = CW_BINDING_DATALENGTH then 16 else 12
  else 8

/-- The length that the control header at `offset` announces: of the elements, of itself and of the flags. -/
def announced (msg : Nat → UInt8) (offset : Nat) : Nat := (cwProtocolRetrieve16 msg (offset + 5)).toNat

/-- The octets of the element at `offset`, with its head. -/
def elemSize (msg : Nat → UInt8) (offset : Nat) : Nat := 4 + (cwProtocolRetrieve16 msg (offset + 2)).toNat

/-- The place of the element number `i` behind the control header at `offset`. -/
def elemAt (msg : Nat → UInt8) (offset i : Nat) : Nat := hop (elemSize msg) (offset + 8) i

/-- The element at `offset` is of a type that is known, and its parser is content with it. -/
def HeadOk (msg : Nat → UInt8) (offset : Nat) : Prop :=
  ElementOk msg (offset + 4) (cwProtocolRetrieve16 msg offset) (cwProtocolRetrieve16 msg (offset + 2)).toNat

/-- Elements, one behind the other, fill what the control header at `offset` announces, up to the end of the
datagram. -/
def Tiled (msg : Nat → UInt8) (len offset : Nat) : Prop :=
  ∃ k, elemAt msg offset k + 3 = offset + 8 + announced msg offset ∧ elemAt msg offset k = len

/-- What the parser is to do with a datagram. -/
structure Bounded (n : Nat) (mem : Bool) (msg : Nat → UInt8) (len : Nat) (v : CWDiscoveryRequestValues) : Prop where
  returns : ∃ r, (cwParseDiscoveryRequestMessage n mem msg len v).val = some r
  reads : Within len (cwParseDiscoveryRequestMessage n mem msg len v)
  tiled : ∀ p, (cwParseDiscoveryRequestMessage n mem msg len v).val = some (.ok p) →
    ∃ h, cwParseTransportHeader mem msg = .ok h ∧ Tiled msg len h.offset

/-- Where the loop takes the elements to end: three octets are taken off in sixteen bits. -/
def elemsEnd (msg : Nat → UInt8) (offset : Nat) : Nat :=
  offset + 8 + (cwProtocolRetrieve16 msg (offset + 5) - CW_CONTROL_HEADER_OFFSET_FOR_MSG_ELEMS).toNat

/-- The heads of the elements that the loop comes to are inside the datagram. -/
def HeadsFit (msg : Nat → UInt8) (len offset : Nat) : Prop :=
  ∀ i, (∀ j < i, HeadOk msg (elemAt msg offset j)) → elemAt msg offset i < elemsEnd msg offset →
    elemAt msg offset i + 4 ≤ len

/-- Elements that come to the end of the datagram are as long as was announced. -/
def EndFits (msg : Nat → UInt8) (len offset : Nat) : Prop :=
  ∀ i, (∀ j < i, HeadOk msg (elemAt msg offset j) ∧ elemAt msg offset j < elemsEnd msg offset) →
    elemsEnd msg offset ≤ elemAt msg offset i → elemAt msg offset i = len →
    announced msg offset = len - (offset + 8) + 3

/-- The datagrams that the parser can be given. -/
structure Fits (mem : Bool) (msg : Nat → UInt8) (len : Nat) : Prop where
  transport : transportEnd mem msg ≤ len
  control : ∀ h, cwParseTransportHeader mem msg = .ok h → h.offset + 8 ≤ len
  heads : ∀ h, cwParseTransportHeader mem msg = .ok h →
    cwProtocolRetrieve32 msg h.offset = CW_MSG_TYPE_VALUE_DISCOVERY_REQUEST → HeadsFit msg len h.offset
  ends : ∀ h, cwParseTransportHeader mem msg = .ok h →
    cwProtocolRetrieve32 msg h.offset = CW_MSG_TYPE_VALUE_DISCOVERY_REQUEST → EndFits msg len h.offset

/-! ## Headers -/

section
variable {α : Type} {n k size len offset start total : Nat} {f : (Nat → UInt8) → Nat → α} {mem : Bool}
  {msg : Nat → UInt8} {v : CWDiscoveryRequestValues}

@[simp] theorem retrieve_val : (retrieve size f msg offset).val = f msg offset := rfl

@[simp] theorem within_retrieve : Within len (retrieve (size + 1) f msg offset) ↔ offset + size < len := by
  rw [retrieve, within_bind, within_load_succ, within_pure, and_true]

/-- With the addresses left out this is the parser of the header. -/
theorem transport_val : (readTransportHeader mem msg).val = cwParseTransportHeader mem msg := by
  have hbinding : (readTransportHeaderBinding msg 8).val = cwParseTransportHeaderBinding msg 8 := by
    simp only [readTransportHeaderBinding, bind_val, ite_val, pure_val]
    rfl
  simp only [readTransportHeader, bind_val, ite_val, pure_val, hbinding]
  cases h : cwParseTransportHeaderBinding msg 8 <;> simp only [cwParseTransportHeader, h] <;> rfl

theorem within_transport : Within len (readTransportHeader mem msg) ↔ transportEnd mem msg ≤ len := by
  simp only [readTransportHeader, readTransportHeaderBinding, within_bind, within_ite, within_pure]
  simp only [within_retrieve, retrieve_val, transportEnd]
  repeat' split
  all_goals simp_all
  all_goals omega

theorem control_val : (cwParseControlHeader msg offset).val =
    { messageTypeValue := cwProtocolRetrieve32 msg offset
      seqNum := cwProtocolRetrieve8 msg (offset + 4)
      msgElemsLen := cwProtocolRetrieve16 msg (offset + 5) } := rfl

theorem within_control : Within len (cwParseControlHeader msg offset) ↔ offset + 8 ≤ len := by
  simp only [cwParseControlHeader, within_bind, within_retrieve, within_pure, and_true]
  omega

theorem within_format : Within len (cwParseFormatMsgElem msg offset) ↔ offset + 4 ≤ len := by
  simp only [cwParseFormatMsgElem, within_bind, within_retrieve, within_pure, and_true]
  omega

/-! ## The loop -/

/-- A turn of the loop: it goes on behind an element that its parser is content with, and stops at any other. -/
theorem elementLoop_turn (hn : 2 ^ 16 ≤ n) (hin : offset - start < total) :
    (HeadOk msg offset ∧ ∃ w, elementLoop n msg start total (k + 1) offset v = (do
      let _ ← cwParseFormatMsgElem msg offset
      elementLoop n msg start total k (offset + elemSize msg offset) w)) ∨
    (¬ HeadOk msg offset ∧ ∃ e, elementLoop n msg start total (k + 1) offset v = (do
      let _ ← cwParseFormatMsgElem msg offset
      pure (some (.error e)))) := by
  obtain ⟨n, rfl⟩ : ∃ n', n = n' + 1 := ⟨n - 1, by omega⟩
  have hlen : (cwProtocolRetrieve16 msg (offset + 2)).toNat ≤ n := by
    have := (cwProtocolRetrieve16 msg (offset + 2)).isLt
    omega
  obtain ⟨x, hx⟩ := @parseElement_some n (offset + 4) _ msg v (cwProtocolRetrieve16 msg offset) hlen
  have hok := elementOk_iff hx
  have hval : parseElement (n + 1) msg (offset + 4) (cwParseFormatMsgElem msg offset).val.1
      (cwParseFormatMsgElem msg offset).val.2.toNat v = some x := hx
  rw [elementLoop, if_pos hin, bind_at]
  cases x with
  | error e =>
    refine .inr ⟨fun h => by simpa [Except.isOk, Except.toBool] using hok.mp h, e, ?_⟩
    simp only [hval]
  | ok p =>
    refine .inl ⟨hok.mpr rfl, p.1, ?_⟩
    have hend : offset + elemSize msg offset = p.2 := by
      rw [parseElement_end hx, elemSize, Nat.add_assoc]
    rw [hend]
    simp only [hval]

/-- The loop ends: every turn goes on by the length of a head at least. -/
theorem elementLoop_some (hn : 2 ^ 16 ≤ n) (hstart : start ≤ offset) (hk : total ≤ offset - start + k) :
    ∃ r, (elementLoop n msg start total (k + 1) offset v).val = some r := by
  induction k generalizing offset v with
  | zero => exact ⟨.ok (v, offset), by rw [elementLoop, if_neg (by omega)]; rfl⟩
  | succ k ih =>
    by_cases hin : offset - start < total
    · obtain ⟨-, w, heq⟩ | ⟨-, e, heq⟩ := @elementLoop_turn n (k + 1) offset start total msg v hn hin
      · have hsize : 4 ≤ elemSize msg offset := Nat.le_add_right _ _
        rw [heq, bind_val]
        exact ih (by omega) (by omega)
      · exact ⟨.error e, by rw [heq]; rfl⟩
    · exact ⟨.ok (v, offset), by rw [elementLoop, if_neg hin]; rfl⟩

/-- The heads that the loop reads: those behind elements that are right, as far as the announced length goes. -/
theorem within_elementLoop (hn : 2 ^ 16 ≤ n) (hstart : start ≤ offset) (hk : total ≤ offset - start + k) :
    Within len (elementLoop n msg start total (k + 1) offset v) ↔
      ∀ i, (∀ j < i, HeadOk msg (hop (elemSize msg) offset j)) → hop (elemSize msg) offset i < start + total →
        hop (elemSize msg) offset i + 4 ≤ len := by
  induction k generalizing offset v with
  | zero =>
    rw [elementLoop, if_neg (by omega), within_pure, true_iff]
    intro i _ hlt
    have := @le_hop (elemSize msg) offset i
    omega
  | succ k ih =>
    by_cases hin : offset - start < total
    · obtain ⟨hok, w, heq⟩ | ⟨hok, e, heq⟩ := @elementLoop_turn n (k + 1) offset start total msg v hn hin
      · have hsize : 4 ≤ elemSize msg offset := Nat.le_add_right _ _
        rw [heq, within_bind, within_format, ih (by omega) (by omega)]
        constructor
        · rintro ⟨hfirst, hrest⟩ i hall hlt
          cases i with
          | zero => exact hfirst
          | succ i => exact hrest i (fun j hj => hall (j + 1) (by omega)) hlt
        · intro h
          refine ⟨h 0 (by omega) (show offset < _ by omega), fun i hall hlt => h (i + 1) (fun j hj => ?_) hlt⟩
          cases j with
          | zero => exact hok
          | succ j => exact hall j (by omega)
      · rw [heq, within_bind, within_format, within_pure, and_true]
        constructor
        · intro hfirst i hall _
          cases i with
          | zero => exact hfirst
          | succ i => exact absurd (hall 0 (by omega)) hok
        · exact fun h => h 0 (by omega) (show offset < _ by omega)
    · rw [elementLoop, if_neg hin, within_pure, true_iff]
      intro i _ hlt
      have := @le_hop (elemSize msg) offset i
      omega

/-- Where the loop is content: behind the first elements that reach the announced length. -/
theorem elementLoop_ok_iff (hn : 2 ^ 16 ≤ n) (hstart : start ≤ offset) (hk : total ≤ offset - start + k) {o : Nat} :
    (∃ w, (elementLoop n msg start total (k + 1) offset v).val = some (.ok (w, o))) ↔
      ∃ i, (∀ j < i, HeadOk msg (hop (elemSize msg) offset j) ∧ hop (elemSize msg) offset j < start + total) ∧
        start + total ≤ hop (elemSize msg) offset i ∧ hop (elemSize msg) offset i = o := by
  have hstop : ∀ {k offset v}, start ≤ offset → ¬ offset - start < total →
      ((∃ w, (elementLoop n msg start total (k + 1) offset v).val = some (.ok (w, o))) ↔
        ∃ i, (∀ j < i, HeadOk msg (hop (elemSize msg) offset j) ∧ hop (elemSize msg) offset j < start + total) ∧
          start + total ≤ hop (elemSize msg) offset i ∧ hop (elemSize msg) offset i = o) := by
    intro k offset v hle hout
    rw [elementLoop, if_neg hout]
    constructor
    · rintro ⟨w, hw⟩
      obtain ⟨-, ho⟩ := Prod.mk.inj (Except.ok.inj (Option.some.inj hw))
      refine ⟨0, by omega, ?_, ho⟩
      show start + total ≤ offset
      omega
    · rintro ⟨i, hall, -, ho⟩
      cases i with
      | zero => exact ⟨v, by rw [← ho]; rfl⟩
      | succ i =>
        have hlt : offset < start + total := (hall 0 (by omega)).2
        omega
  induction k generalizing offset v with
  | zero => exact hstop hstart (by omega)
  | succ k ih =>
    by_cases hin : offset - start < total
    · obtain ⟨hok, w, heq⟩ | ⟨hok, e, heq⟩ := @elementLoop_turn n (k + 1) offset start total msg v hn hin
      · have hsize : 4 ≤ elemSize msg offset := Nat.le_add_right _ _
        have hnext := @ih (offset + elemSize msg offset) w (by omega) (by omega)
        rw [heq, bind_val]
        refine hnext.trans ?_
        constructor
        · rintro ⟨i, hall, hend, ho⟩
          refine ⟨i + 1, fun j hj => ?_, hend, ho⟩
          cases j with
          | zero => exact ⟨hok, show offset < _ by omega⟩
          | succ j => exact hall j (by omega)
        · rintro ⟨i, hall, hend, ho⟩
          cases i with
          | zero =>
            have hle : start + total ≤ offset := hend
            omega
          | succ i => exact ⟨i, fun j hj => hall (j + 1) (by omega), hend, ho⟩
      · rw [heq]
        constructor
        · rintro ⟨w, hw⟩
          cases hw
        · rintro ⟨i, hall, hend, ho⟩
          cases i with
          | zero =>
            have hle : start + total ≤ offset := hend
            omega
          | succ i => exact absurd (hall 0 (by omega)).1 hok
    · exact hstop hstart hin

/-! ## The parser -/

theorem request_val (hmsg : cwProtocolRetrieve32 msg offset = CW_MSG_TYPE_VALUE_DISCOVERY_REQUEST) :
    (readDiscoveryRequest n msg len v offset).val =
      (elementLoop n msg (offset + 8) (elemsEnd msg offset - (offset + 8)) n (offset + 8) v).val.map fun r =>
        r.bind (discoveryEnd len (cwProtocolRetrieve8 msg (offset + 4))) := by
  rw [readDiscoveryRequest, bind_val, control_val, ite_val, if_neg (not_not.mpr hmsg), elemsEnd,
    Nat.add_sub_cancel_left]
  rfl

theorem within_request : Within len (readDiscoveryRequest n msg len v offset) ↔ offset + 8 ≤ len ∧
    (cwProtocolRetrieve32 msg offset = CW_MSG_TYPE_VALUE_DISCOVERY_REQUEST →
      Within len (elementLoop n msg (offset + 8) (elemsEnd msg offset - (offset + 8)) n (offset + 8) v)) := by
  rw [readDiscoveryRequest, within_bind, within_control, control_val, within_ite]
  simp only [within_pure, within_bind, implies_true, true_and, and_true, not_not, elemsEnd, Nat.add_sub_cancel_left]

theorem discoveryEnd_ok {seqNum : BitVec 8} {p : CWDiscoveryRequestValues × Nat}
    {q : BitVec 8 × CWDiscoveryRequestValues} : discoveryEnd len seqNum p = .ok q ↔ p.2 = len ∧ q = (seqNum, p.1) := by
  rw [discoveryEnd]
  by_cases h : p.2 = len
  · rw [if_neg (not_not.mpr h)]
    exact ⟨fun hq => ⟨h, (Except.ok.inj hq).symm⟩, fun hq => by rw [hq.2]⟩
  · rw [if_pos h]
    constructor
    · intro hq
      cases hq
    · exact fun hq => absurd hq.1 h

/-- What the parser comes to, when the transport header is right. -/
theorem parse_ok {h : ParsedHeader} (hh : cwParseTransportHeader mem msg = .ok h) :
    (cwParseDiscoveryRequestMessage n mem msg len v).val = (readDiscoveryRequest n msg len v h.offset).val := by
  rw [cwParseDiscoveryRequestMessage, bind_val, transport_val, hh]

theorem parse_error {e : CWError} (hh : cwParseTransportHeader mem msg = .error e) :
    (cwParseDiscoveryRequestMessage n mem msg len v).val = some (.error e) := by
  rw [cwParseDiscoveryRequestMessage, bind_val, transport_val, hh]
  rfl

theorem within_parse : Within len (cwParseDiscoveryRequestMessage n mem msg len v) ↔ transportEnd mem msg ≤ len ∧
    ∀ h, cwParseTransportHeader mem msg = .ok h → Within len (readDiscoveryRequest n msg len v h.offset) := by
  rw [cwParseDiscoveryRequestMessage, within_bind, within_transport, transport_val]
  refine and_congr_right fun _ => ?_
  cases cwParseTransportHeader mem msg with
  | error e => simp
  | ok h =>
    exact ⟨fun hw h' hh => by rw [← Except.ok.inj hh]; exact hw, fun hw => hw h rfl⟩

/-- The turns of the loop over the elements of a message. -/
theorem elemsEnd_turns (hn : 2 ^ 16 ≤ n) : ∃ k, n = k + 1 ∧ offset + 8 + (elemsEnd msg offset - (offset + 8)) =
    elemsEnd msg offset ∧ elemsEnd msg offset - (offset + 8) ≤ offset + 8 - (offset + 8) + k := by
  refine ⟨n - 1, by omega, ?_⟩
  have := (cwProtocolRetrieve16 msg (offset + 5) - CW_CONTROL_HEADER_OFFSET_FOR_MSG_ELEMS).isLt
  rw [elemsEnd]
  omega

theorem request_some (hn : 2 ^ 16 ≤ n) : ∃ r, (readDiscoveryRequest n msg len v offset).val = some r := by
  by_cases hmsg : cwProtocolRetrieve32 msg offset = CW_MSG_TYPE_VALUE_DISCOVERY_REQUEST
  · obtain ⟨k, rfl, -, hk⟩ := @elemsEnd_turns n offset msg hn
    obtain ⟨r, hr⟩ := @elementLoop_some (k + 1) k (offset + 8) (offset + 8) _ msg v hn (Nat.le_refl _) hk
    exact ⟨_, by rw [request_val hmsg, hr]; rfl⟩
  · refine ⟨.error { code := .INVALID_FORMAT, message := "Message is not Discovery Request as Expected" }, ?_⟩
    rw [readDiscoveryRequest, bind_val, control_val, ite_val, if_pos hmsg]
    rfl

theorem within_request_iff (hn : 2 ^ 16 ≤ n) : Within len (readDiscoveryRequest n msg len v offset) ↔
    offset + 8 ≤ len ∧ (cwProtocolRetrieve32 msg offset = CW_MSG_TYPE_VALUE_DISCOVERY_REQUEST →
      HeadsFit msg len offset) := by
  obtain ⟨k, rfl, hend, hk⟩ := @elemsEnd_turns n offset msg hn
  rw [within_request, within_elementLoop hn (Nat.le_refl _) hk, hend]
  rfl

/-- The messages that are taken. -/
theorem request_ok_iff (hn : 2 ^ 16 ≤ n) : (∃ q, (readDiscoveryRequest n msg len v offset).val = some (.ok q)) ↔
    cwProtocolRetrieve32 msg offset = CW_MSG_TYPE_VALUE_DISCOVERY_REQUEST ∧
      ∃ i, (∀ j < i, HeadOk msg (elemAt msg offset j) ∧ elemAt msg offset j < elemsEnd msg offset) ∧
        elemsEnd msg offset ≤ elemAt msg offset i ∧ elemAt msg offset i = len := by
  by_cases hmsg : cwProtocolRetrieve32 msg offset = CW_MSG_TYPE_VALUE_DISCOVERY_REQUEST
  · obtain ⟨k, rfl, hend, hk⟩ := @elemsEnd_turns n offset msg hn
    have hloop := @elementLoop_ok_iff (k + 1) k (offset + 8) (offset + 8) _ msg v hn (Nat.le_refl _) hk len
    rw [hend] at hloop
    rw [request_val hmsg]
    refine Iff.trans ?_ (hloop.trans (and_iff_right hmsg).symm)
    constructor
    · rintro ⟨q, hq⟩
      obtain ⟨r, hr, hq⟩ := Option.map_eq_some_iff.mp hq
      cases r with
      | error e => cases hq
      | ok p =>
        obtain ⟨w, o⟩ := p
        obtain ⟨rfl, -⟩ := discoveryEnd_ok.mp hq
        exact ⟨w, hr⟩
    · rintro ⟨w, hw⟩
      refine ⟨(cwProtocolRetrieve8 msg (offset + 4), w), ?_⟩
      rw [hw, Option.map_some]
      exact congrArg some (discoveryEnd_ok.mpr ⟨rfl, rfl⟩)
  · constructor
    · rintro ⟨q, hq⟩
      rw [readDiscoveryRequest, bind_val, control_val, ite_val, if_pos hmsg] at hq
      cases hq
    · exact fun h => absurd h.1 hmsg

/-- The parser of the Discovery Request does what it is to do with the datagrams that fit, and with no others. -/
theorem discovery_bounded_iff (hn : 2 ^ 16 ≤ n) : Bounded n mem msg len v ↔ Fits mem msg len := by
  constructor
  · rintro ⟨-, hreads, htiled⟩
    rw [within_parse] at hreads
    obtain ⟨htransport, hrequest⟩ := hreads
    refine ⟨htransport, fun h hh => ((within_request_iff hn).mp (hrequest h hh)).1,
      fun h hh => ((within_request_iff hn).mp (hrequest h hh)).2, ?_⟩
    intro h hh hmsg i hall hend hlen
    obtain ⟨q, hq⟩ := (@request_ok_iff n len h.offset msg v hn).mpr ⟨hmsg, i, hall, hend, hlen⟩
    obtain ⟨h', hh', k, hk, hlen'⟩ := htiled q ((parse_ok hh).trans hq)
    obtain rfl := Except.ok.inj (hh'.symm.trans hh)
    have := @le_hop (elemSize msg) (h'.offset + 8) k
    rw [elemAt] at hlen' hk
    omega
  · intro hfits
    refine ⟨?_, within_parse.mpr ⟨hfits.transport, fun h hh => (within_request_iff hn).mpr
      ⟨hfits.control h hh, hfits.heads h hh⟩⟩, fun q hq => ?_⟩
    · cases hh : cwParseTransportHeader mem msg with
      | error e => exact ⟨_, parse_error hh⟩
      | ok h =>
        rw [parse_ok hh]
        exact request_some hn
    · cases hh : cwParseTransportHeader mem msg with
      | error e =>
        rw [parse_error hh] at hq
        cases hq
      | ok h =>
        rw [parse_ok hh] at hq
        obtain ⟨hmsg, i, hall, hend, hlen⟩ := (request_ok_iff hn).mp ⟨q, hq⟩
        have hlong := hfits.ends h hh hmsg i hall hend hlen
        have hle := @le_hop (elemSize msg) (h.offset + 8) i
        rw [← elemAt] at hle
        exact ⟨h, rfl, i, by omega, hlen⟩

end

/-- A request with the discovery type alone. -/
def discoveryTypeRequest (i : Nat) : UInt8 :=
  [0x00, 0x10, 0x00, 0x00, 0x00, 0x00, 0x00, 0x00, 0x00, 0x00, 0x00, 0x01, 0x07, 0x00, 0x08, 0x00,
    0x00, 0x14, 0x00, 0x01, 0x00].getD i 0

theorem discovery_bounded_iff_type : Bounded (2 ^ 16) true discoveryTypeRequest 21 {} := by
  have hheader : cwParseTransportHeader true discoveryTypeRequest =
    .ok { values := headerValues discoveryTypeRequest, offset := 8 } := by decide
  have hend : elemsEnd discoveryTypeRequest 8 = 21 := by decide
  have hnext : ∀ i, 21 ≤ elemAt discoveryTypeRequest 8 (i + 1) := by
    intro i
    have hfirst : hop (elemSize discoveryTypeRequest) (8 + 8) 1 = 21 := by decide
    rw [elemAt, ← hfirst]
    exact hop_mono (by omega)
  refine (discovery_bounded_iff (Nat.le_refl _)).mpr ⟨by decide, fun h hh => ?_, fun h hh _ i _ hlt => ?_,
    fun h hh _ i _ _ _ => ?_⟩
  · rw [hheader] at hh
    obtain rfl := Except.ok.inj hh
    decide
  · rw [hheader] at hh
    obtain rfl := Except.ok.inj hh
    cases i with
    | zero => exact show elemAt discoveryTypeRequest 8 0 + 4 ≤ 21 by decide
    | succ i => exact absurd hlt (by rw [hend]; exact Nat.not_lt.mpr (hnext i))
  · rw [hheader] at hh
    obtain rfl := Except.ok.inj hh
    decide

/-- A transport header and nothing behind it: the control header is read from what the buffer held before. -/
theorem short_datagram_overread : ¬ Bounded (2 ^ 16) true
    (fun i => [0x00, 0x10, 0x00, 0x00, 0x00, 0x00, 0x00, 0x00].getD i 0) 8 {} := by
  intro h
  obtain ⟨-, hrequest⟩ := within_parse.mp h.reads
  have hread := within_request.mp (hrequest { values := _, offset := 8 } rfl)
  exact absurd hread.1 (by decide)

end Wcpss
end DaemonGroup
