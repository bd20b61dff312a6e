import DaemonGroup.Eag.PortalBounds
import DaemonGroup.Lib.Attrs

/-!
# DaemonGroup.Eag.PortalAttrs

The attributes that `portal_packet_add_attr` appends to a portal packet. The length of a packet is
not stored: every function walks through `attr_num` attributes from the end of the head on. They
agree on every packet that is built by adding attributes (`Portal.attrs_round_trip`).
-/

namespace DaemonGroup
namespace Eag

open Lib Bytes

def EAG_ERR_INPUT_PARAM_ERR : Int := -2
def EAG_ERR_PORTAL_INVALID_PKGSIZE : Int := -3002

namespace Portal

/-- `portal_packet_add_attr`; without a value the pointer is `NULL`. -/
def portalPacketAddAttr (p : Protocol) (pkt : Packet) (type : UInt8) (value : Option (List UInt8)) :
    Int × Packet :=
  match value with
  | none => (EAG_ERR_INPUT_PARAM_ERR, pkt)
  | some value =>
    let len := value.length
    if len > MAX_ATTR_VALUE_LEN then
      (EAG_ERR_INPUT_PARAM_ERR, pkt)
    else
      let attr := portalPacketGetLength p pkt
      let packet_len := attr + len + 2
      if packet_len > PORTAL_PACKET_SIZE then
        (EAG_ERR_PORTAL_INVALID_PKGSIZE, pkt)
      else
        let pkt := write pkt attr [type, UInt8.ofNat (len + 2)]
        let pkt := write pkt (attr + 2) value
        (0, write pkt 15 [pkt 15 + 1])

/-- A sequence of calls: the packet after them, and the attributes of those that succeeded. -/
def addAttrs (p : Protocol) : Packet → List (UInt8 × Option (List UInt8)) → Packet × List Attr
  | pkt, [] => (pkt, [])
  | pkt, (type, value) :: calls =>
    let r := portalPacketAddAttr p pkt type value
    let rest := addAttrs p r.2 calls
    (rest.1, (if r.1 = 0 then [(type, value.getD [])] else []) ++ rest.2)

/-- The type and the value of the attribute at `attr`. -/
def attrPair (pkt : Packet) (attr : Nat) : Attr := (pkt attr, read pkt (attr + 2) (attrLen pkt attr - 2))

section
variable {p : Protocol} {pkt : Packet} {xs : List Attr} {x : Attr} {a : Nat}

/-! ## The walks -/

theorem attrPair_at (h : x.At pkt a) : attrPair pkt a = x := by
  have hlen : attrLen pkt a - 2 = x.2.length := by
    rw [attrLen, h.len]
    rfl
  rw [attrPair, hlen, h.value, h.type]

theorem map_attrPair (h : Spelled pkt a xs) : (starts a xs).map (attrPair pkt) = xs := by
  induction xs generalizing a with
  | nil => rfl
  | cons x xs ih => rw [starts, List.map_cons, attrPair_at h.1, ih h.2]

theorem lengthLoop_spelled {length : Nat} (h : Spelled pkt a xs)
    (hle : length + attrsSize xs ≤ PORTAL_PACKET_SIZE) :
    lengthLoop pkt xs.length length a = length + attrsSize xs := by
  induction xs generalizing a length with
  | nil => rfl
  | cons x xs ih =>
    rw [attrsSize_cons] at hle
    rw [List.length_cons, lengthLoop, h.1.len, if_neg (by omega), ih h.2 (by omega), attrsSize_cons]
    omega

theorem getAttrLoop_spelled {type : UInt8} (h : Spelled pkt a xs) :
    (getAttrLoop pkt type xs.length a).map (attrPair pkt) = xs.find? fun x => x.1 = type := by
  induction xs generalizing a with
  | nil => rfl
  | cons x xs ih =>
    rw [List.length_cons, getAttrLoop, h.1.type]
    by_cases ht : x.1 = type
    · rw [if_pos ht, List.find?_cons_of_pos (by simpa using ht), Option.map_some, attrPair_at h.1]
    · rw [if_neg ht, List.find?_cons_of_neg (by simpa using ht), h.1.len, ih h.2]

/-- The iteration goes on from the attribute at `prev` to the attributes behind it. -/
theorem nextVisits_spelled {prev : Nat} (hnum : attrNum pkt ≠ 0) (hprev : prev + attrLen pkt prev = a)
    (h : Spelled pkt a xs) (hlen : portalPacketGetLength p pkt = a + attrsSize xs) :
    nextVisits p pkt (xs.length + 1) (some prev) = some (starts a xs) := by
  induction xs generalizing a prev with
  | nil =>
    have hend : portalPacketGetNextAttr p pkt (some prev) = none := by
      rw [portalPacketGetNextAttr, if_neg hnum, hprev]
      exact if_pos (Nat.le_of_eq hlen)
    rw [List.length_nil, nextVisits, hend]
    rfl
  | cons x xs ih =>
    have hsize : x.size = x.2.length + 2 := rfl
    rw [attrsSize_cons] at hlen
    have hnext : portalPacketGetNextAttr p pkt (some prev) = some a := by
      rw [portalPacketGetNextAttr, if_neg hnum, hprev]
      exact if_neg (by omega)
    have hrest := @ih _ a (by rw [attrLen, h.1.len]) h.2 (by omega)
    rw [List.length_cons, nextVisits, hnext]
    dsimp only
    rw [hrest]
    rfl

/-! ## Packets that are built -/

/-- The packet has the attributes `xs` and no others. -/
structure Made (p : Protocol) (pkt : Packet) (xs : List Attr) : Prop where
  num : attrNum pkt = xs.length
  size : portalPacketMinsize p + attrsSize xs ≤ PORTAL_PACKET_SIZE
  spelled : Spelled pkt (portalPacketMinsize p) xs

theorem Made.length (h : Made p pkt xs) :
    portalPacketGetLength p pkt = portalPacketMinsize p + attrsSize xs := by
  have hloop : portalPacketGetLength p pkt =
      lengthLoop pkt (attrNum pkt) (portalPacketMinsize p) (portalPacketMinsize p) := by
    cases p <;> rfl
  rw [hloop, h.num, lengthLoop_spelled h.spelled h.size]

theorem Made.visits (h : Made p pkt xs) :
    nextVisits p pkt (xs.length + 1) none = some (starts (portalPacketMinsize p) xs) := by
  cases xs with
  | nil =>
    have hend : portalPacketGetNextAttr p pkt none = none := if_pos h.num
    rw [List.length_nil, nextVisits, hend]
    rfl
  | cons x xs =>
    have hnum : attrNum pkt ≠ 0 := by
      rw [h.num]
      exact Nat.succ_ne_zero _
    have hfirst : portalPacketGetNextAttr p pkt none = some (portalPacketMinsize p) := if_neg hnum
    have hlen := h.length
    rw [attrsSize_cons] at hlen
    have hrest := @nextVisits_spelled p _ _ _ (portalPacketMinsize p) hnum
      (by rw [attrLen, h.spelled.1.len]) h.spelled.2 (by omega)
    rw [List.length_cons, nextVisits, hfirst]
    dsimp only
    rw [hrest]
    rfl

theorem Made.find (h : Made p pkt xs) (type : UInt8) :
    (portalPacketGetAttr p pkt type).map (attrPair pkt) = xs.find? fun x => x.1 = type := by
  rw [portalPacketGetAttr, h.num]
  exact getAttrLoop_spelled h.spelled

/-- A call succeeds if there is a value, it is not too long and the attribute fits. -/
theorem Made.accepts (h : Made p pkt xs) {type : UInt8} {value : Option (List UInt8)} :
    (portalPacketAddAttr p pkt type value).1 = 0 ↔ ∃ v, value = some v ∧ v.length ≤ MAX_ATTR_VALUE_LEN ∧
      portalPacketMinsize p + attrsSize xs + (v.length + 2) ≤ PORTAL_PACKET_SIZE := by
  cases value with
  | none => simp [portalPacketAddAttr, EAG_ERR_INPUT_PARAM_ERR]
  | some v =>
    simp only [portalPacketAddAttr, h.length, Option.some.injEq, exists_eq_left']
    split_ifs with hlong hfull
    · simp only [EAG_ERR_INPUT_PARAM_ERR]
      omega
    · simp only [EAG_ERR_PORTAL_INVALID_PKGSIZE]
      omega
    · simp only [true_iff]
      omega

theorem addAttr_refused {type : UInt8} {value : Option (List UInt8)}
    (h : (portalPacketAddAttr p pkt type value).1 ≠ 0) : (portalPacketAddAttr p pkt type value).2 = pkt := by
  cases value with
  | none => rfl
  | some v =>
    simp only [portalPacketAddAttr] at h ⊢
    split_ifs at h ⊢
    · rfl
    · rfl
    · exact absurd rfl h

theorem Made.add (h : Made p pkt xs) (hnum : xs.length < 255) {type : UInt8} {value : Option (List UInt8)}
    (hok : (portalPacketAddAttr p pkt type value).1 = 0) :
    Made p (portalPacketAddAttr p pkt type value).2 (xs ++ [(type, value.getD [])]) := by
  obtain ⟨v, rfl, hlong, hfit⟩ := h.accepts.mp hok
  have hmax : MAX_ATTR_VALUE_LEN = 253 := rfl
  have hsize : Attr.size (type, v) = v.length + 2 := rfl
  have hmin : 16 ≤ portalPacketMinsize p := by cases p <;> decide
  -- the attribute is written in two parts behind the others, and the count is before the first
  have hpkt : (portalPacketAddAttr p pkt type (some v)).2 =
      write (write pkt (portalPacketMinsize p + attrsSize xs) (Attr.octets (type, v))) 15 [pkt 15 + 1] := by
    simp only [portalPacketAddAttr, h.length]
    rw [if_neg (by omega), if_neg (by omega), write_of_lt (by omega), write_of_lt (by omega)]
    exact congrArg (fun m => write m 15 [pkt 15 + 1]) write_append
  rw [hpkt, Option.getD_some]
  refine ⟨?_, ?_, ?_⟩
  · rw [List.length_append, List.length_singleton, ← h.num, attrNum, attrNum, write_self_one, UInt8.toNat_add]
    have := h.num
    rw [attrNum] at this
    simp only [UInt8.reduceToNat]
    omega
  · rw [attrsSize_append]
    simp only [attrsSize, List.map_cons, List.map_nil, List.sum_cons, List.sum_nil, hsize] at hfit ⊢
    omega
  · refine (h.spelled.add (by omega)).congr fun i h₁ _ => ?_
    exact write_of_ge (by simp; omega)

theorem Made.init (h : attrNum pkt = 0) : Made p pkt [] where
  num := h
  size := by cases p <;> decide
  spelled := trivial

theorem Made.run (h : Made p pkt xs) {calls : List (UInt8 × Option (List UInt8))}
    (hn : (xs ++ (addAttrs p pkt calls).2).length ≤ 255) :
    Made p (addAttrs p pkt calls).1 (xs ++ (addAttrs p pkt calls).2) := by
  induction calls generalizing pkt xs with
  | nil =>
    rw [addAttrs, List.append_nil]
    exact h
  | cons c calls ih =>
    obtain ⟨type, value⟩ := c
    rw [addAttrs] at hn ⊢
    dsimp only at hn ⊢
    by_cases hok : (portalPacketAddAttr p pkt type value).1 = 0
    · rw [if_pos hok] at hn ⊢
      rw [← List.append_assoc] at hn ⊢
      refine ih (h.add ?_ hok) hn
      simp only [List.length_append, List.length_singleton] at hn
      omega
    · rw [if_neg hok, List.nil_append] at hn ⊢
      rw [addAttr_refused hok] at hn ⊢
      exact ih h hn

/-- The functions agree that the attributes of the packet are `xs`. -/
structure Agree (p : Protocol) (pkt : Packet) (xs : List Attr) : Prop where
  num : attrNum pkt = xs.length
  length : portalPacketGetLength p pkt = portalPacketMinsize p + (xs.map Attr.size).sum
  next : ∃ fuel visits, nextVisits p pkt fuel none = some visits ∧ visits.map (attrPair pkt) = xs
  get : ∀ type, (portalPacketGetAttr p pkt type).map (attrPair pkt) = xs.find? fun x => x.1 = type
  add : ∀ type value, (portalPacketAddAttr p pkt type value).1 = 0 ↔
    ∃ v, value = some v ∧ v.length ≤ MAX_ATTR_VALUE_LEN ∧
      portalPacketMinsize p + (xs.map Attr.size).sum + (v.length + 2) ≤ PORTAL_PACKET_SIZE
  refused : ∀ type value, (portalPacketAddAttr p pkt type value).1 ≠ 0 →
    (portalPacketAddAttr p pkt type value).2 = pkt

theorem Made.agree (h : Made p pkt xs) : Agree p pkt xs where
  num := h.num
  length := h.length
  next := ⟨_, _, h.visits, map_attrPair h.spelled⟩
  get := h.find
  add _ _ := h.accepts
  refused _ _ := addAttr_refused

/-- The packets that are built from an empty one by any sequence of calls, some of which may fail. -/
theorem attrs_round_trip {calls : List (UInt8 × Option (List UInt8))} (h0 : attrNum pkt = 0)
    (hn : (addAttrs p pkt calls).2.length ≤ 255) :
    Agree p (addAttrs p pkt calls).1 (addAttrs p pkt calls).2 :=
  ((Made.init h0).run hn).agree

/-- A value, a missing one and an empty one. -/
def sampleCalls : List (UInt8 × Option (List UInt8)) := [(1, some [7, 8]), (2, none), (1, some [])]

theorem attrs_round_trip_sample :
    Agree .PORTAL_PROTOCOL_TELECOM (addAttrs .PORTAL_PROTOCOL_TELECOM (fun _ => 0) sampleCalls).1
      (addAttrs .PORTAL_PROTOCOL_TELECOM (fun _ => 0) sampleCalls).2 :=
  attrs_round_trip rfl (by decide)

example : (addAttrs .PORTAL_PROTOCOL_TELECOM (fun _ => 0) sampleCalls).2 = [(1, [7, 8]), (1, [])] := by decide

end

end Portal
end Eag
end DaemonGroup
