import DaemonGroup.Eag.Packets
import DaemonGroup.Lib.Hops
import DaemonGroup.Lib.Reads
import Mathlib.Tactic.Common

/-!
# DaemonGroup.Eag.RadiusAttr

The attributes of RADIUS packets (`radius_packet.c`): the search for one, with the octets that it reads, and
what is appended to a packet.

The search goes from attribute to attribute by their length octets. With an attribute of length zero that it
passes over it does not end (`getnextattr_stuck`), so it has fuel and may run out of it.
-/

namespace DaemonGroup
namespace Eag

open Lib Bytes Reads


def RADIUS_ATTR_USER_NAME : UInt8 := 1
def RADIUS_ATTR_FRAMED_IP_ADDRESS : UInt8 := 8
def RADIUS_ATTR_VENDOR_SPECIFIC : UInt8 := 26
def RADIUS_ATTR_ACCT_STATUS_TYPE : UInt8 := 40
def RADIUS_ATTR_ACCT_SESSION_ID : UInt8 := 44

/-- `ntohl` of the four octets at `a`. -/
def ntohlAt (pack : Packet) (a : Nat) : UInt32 :=
  ((((pack a).toUInt32 * 256) + (pack (a + 1)).toUInt32) * 256 + (pack (a + 2)).toUInt32) * 256 +
    (pack (a + 3)).toUInt32

/-- `len` of `radius_getnextattr`. -/
def payloadLen (pack : Packet) : Nat := sizeT (radiusLength pack - RADIUS_PACKET_HEADSIZE)

/-- The vendor attribute at `t` is of another vendor or of another type; the type is looked at if the vendor is
the right one. -/
def otherVendor (pack : Packet) (vendor_id : UInt32) (vendor_type : UInt8) (t : Nat) : Reads Bool := do
  let i : UInt32 ← ⟨ntohlAt pack (t + 2), (load pack (t + 2) 4).log⟩
  if i ≠ vendor_id then pure true
  else do
    let vt ← peek pack (t + 6)
    pure (vt ≠ vendor_type)

section
variable (pack : Packet) (type : UInt8) (vendor_id : UInt32) (vendor_type : UInt8) (inst : Int)

/-- The loop of `radius_getnextattr`: where the attribute is and the offset of the next one. Without fuel it has
not ended. -/
def radiusGetnextattr : Nat → Int → Nat → Reads (Option (Option (Nat × Nat)))
  | 0, _, _ => pure none
  | fuel + 1, count, offset =>
    if offset < payloadLen pack then do
      let t := RADIUS_PACKET_HEADSIZE + offset
      let l ← peek pack (t + 1)
      let kind ← peek pack t
      if kind ≠ type then radiusGetnextattr fuel count (offset + l.toNat)
      else do
        let other ← if kind = RADIUS_ATTR_VENDOR_SPECIFIC then otherVendor pack vendor_id vendor_type t
          else pure false
        if other then radiusGetnextattr fuel count (offset + l.toNat)
        else if count = inst then
          pure (some (some (if type = RADIUS_ATTR_VENDOR_SPECIFIC then t + 6 else t, offset + l.toNat)))
        else radiusGetnextattr fuel (count + 1) (offset + l.toNat)
    else pure (some none)

/-- `radius_getattr`. -/
def radiusGetattr (fuel : Nat) : Reads (Option (Option Nat)) :=
  (·.map (·.map Prod.fst)) <$> radiusGetnextattr pack type vendor_id vendor_type inst fuel 0 0

/-- The first attribute of a kind, with fuel for every search that ends. -/
def findAttr : Option (Option Nat) := (radiusGetattr pack type vendor_id vendor_type 0 (payloadLen pack + 1)).val

/-! ## The search -/

/-- The length octet of the attribute at `offset`. -/
def attrL (offset : Nat) : Nat := (pack (RADIUS_PACKET_HEADSIZE + offset + 1)).toNat

/-- The attribute at `offset` is the one that is looked for. -/
def Wanted (offset : Nat) : Prop :=
  pack (RADIUS_PACKET_HEADSIZE + offset) = type ∧
    (type = RADIUS_ATTR_VENDOR_SPECIFIC →
      ntohlAt pack (RADIUS_PACKET_HEADSIZE + offset + 2) = vendor_id ∧
        pack (RADIUS_PACKET_HEADSIZE + offset + 6) = vendor_type)

instance (offset : Nat) : Decidable (Wanted pack type vendor_id vendor_type offset) :=
  inferInstanceAs (Decidable (_ ∧ _))

/-- The search gets to the attribute number `i` from `offset` on: none before it is wanted. -/
def Seen (offset i : Nat) : Prop :=
  hop (attrL pack) offset i < payloadLen pack ∧
    ∀ j < i, ¬ Wanted pack type vendor_id vendor_type (hop (attrL pack) offset j)

end

section
variable {pack : Packet} {type : UInt8} {vendor_id : UInt32} {vendor_type : UInt8} {inst count : Int}
  {n offset fuel i : Nat}

/-- One round of the search. -/
theorem getnextattr_round :
    (radiusGetnextattr pack type vendor_id vendor_type inst (fuel + 1) count offset).val =
      if offset < payloadLen pack then
        if Wanted pack type vendor_id vendor_type offset then
          if count = inst then
            some (some (RADIUS_PACKET_HEADSIZE + offset + (if type = RADIUS_ATTR_VENDOR_SPECIFIC then 6 else 0),
              offset + attrL pack offset))
          else
            (radiusGetnextattr pack type vendor_id vendor_type inst fuel (count + 1)
              (offset + attrL pack offset)).val
        else (radiusGetnextattr pack type vendor_id vendor_type inst fuel count (offset + attrL pack offset)).val
      else some none := by
  rw [radiusGetnextattr]
  by_cases hlt : offset < payloadLen pack
  · rw [if_pos hlt, if_pos hlt]
    by_cases ht : pack (RADIUS_PACKET_HEADSIZE + offset) = type
    · by_cases hv : type = RADIUS_ATTR_VENDOR_SPECIFIC
      · subst hv
        by_cases hid : ntohlAt pack (RADIUS_PACKET_HEADSIZE + offset + 2) = vendor_id
        · by_cases hvt : pack (RADIUS_PACKET_HEADSIZE + offset + 6) = vendor_type
          · by_cases hc : count = inst <;> simp [Wanted, otherVendor, ht, hid, hvt, attrL, hc]
          · simp [Wanted, otherVendor, ht, hid, hvt, attrL]
        · simp [Wanted, otherVendor, ht, hid, attrL]
      · by_cases hc : count = inst <;> simp [Wanted, ht, hv, attrL, hc]
    · simp [Wanted, ht, attrL]
  · rw [if_neg hlt, if_neg hlt]
    rfl

/-- One round of the search for the first wanted attribute. -/
theorem getnextattr_val : (radiusGetnextattr pack type vendor_id vendor_type 0 (fuel + 1) 0 offset).val =
    if offset < payloadLen pack then
      if Wanted pack type vendor_id vendor_type offset then
        some (some (RADIUS_PACKET_HEADSIZE + offset + (if type = RADIUS_ATTR_VENDOR_SPECIFIC then 6 else 0),
          offset + attrL pack offset))
      else (radiusGetnextattr pack type vendor_id vendor_type 0 fuel 0 (offset + attrL pack offset)).val
    else some none := by
  rw [getnextattr_round, if_pos rfl]

theorem seen_zero : Seen pack type vendor_id vendor_type offset 0 ↔ offset < payloadLen pack :=
  and_iff_left fun _ hj => absurd hj (Nat.not_lt_zero _)

theorem seen_succ : Seen pack type vendor_id vendor_type offset (i + 1) ↔
    ¬ Wanted pack type vendor_id vendor_type offset ∧
      Seen pack type vendor_id vendor_type (offset + attrL pack offset) i := by
  unfold Seen
  constructor
  · rintro ⟨hlt, hnone⟩
    exact ⟨hnone 0 (Nat.succ_pos i), hlt, fun j hj => hnone (j + 1) (Nat.succ_lt_succ hj)⟩
  · rintro ⟨hfirst, hlt, hnone⟩
    refine ⟨hlt, ?_⟩
    intro j hj
    cases j with
    | zero => exact hfirst
    | succ j => exact hnone j (Nat.lt_of_succ_lt_succ hj)

/-- What the search has got to is behind where it began. -/
theorem Seen.lt (h : Seen pack type vendor_id vendor_type offset i) : offset < payloadLen pack :=
  Nat.lt_of_le_of_lt le_hop h.1

theorem getnextattr_stuck (hlt : offset < payloadLen pack)
    (hnot : ¬ Wanted pack type vendor_id vendor_type offset) (hzero : attrL pack offset = 0) :
    (radiusGetnextattr pack type vendor_id vendor_type 0 fuel 0 offset).val = none := by
  induction fuel with
  | zero => rfl
  | succ fuel ih => rw [getnextattr_val, if_pos hlt, if_neg hnot, hzero, Nat.add_zero, ih]

/-- If nothing that is passed over has length zero, the search ends. -/
theorem getnextattr_ends (hpos : ∀ i, Seen pack type vendor_id vendor_type offset i →
      ¬ Wanted pack type vendor_id vendor_type (hop (attrL pack) offset i) →
      attrL pack (hop (attrL pack) offset i) ≠ 0)
    (hfuel : payloadLen pack - offset < fuel) :
    ∃ r, (radiusGetnextattr pack type vendor_id vendor_type 0 fuel 0 offset).val = some r := by
  induction fuel generalizing offset with
  | zero => exact absurd hfuel (Nat.not_lt_zero _)
  | succ fuel ih =>
    rw [getnextattr_val]
    by_cases hlt : offset < payloadLen pack
    · rw [if_pos hlt]
      by_cases hw : Wanted pack type vendor_id vendor_type offset
      · rw [if_pos hw]
        exact ⟨_, rfl⟩
      · rw [if_neg hw]
        have hfirst : attrL pack offset ≠ 0 := hpos 0 (seen_zero.mpr hlt) hw
        refine ih ?_ (by omega)
        intro i hi hwi
        exact hpos (i + 1) (seen_succ.mpr ⟨hw, hi⟩) hwi
    · rw [if_neg hlt]
      exact ⟨_, rfl⟩

/-- What a search that has ended found: the first wanted attribute, if there is one. -/
theorem getnextattr_result {r : Option (Nat × Nat)}
    (h : (radiusGetnextattr pack type vendor_id vendor_type 0 fuel 0 offset).val = some r) :
    (r = none ∧ ∀ i, Seen pack type vendor_id vendor_type offset i →
      ¬ Wanted pack type vendor_id vendor_type (hop (attrL pack) offset i)) ∨
    ∃ i, Seen pack type vendor_id vendor_type offset i ∧
      Wanted pack type vendor_id vendor_type (hop (attrL pack) offset i) ∧
      r.map Prod.fst = some (RADIUS_PACKET_HEADSIZE + hop (attrL pack) offset i +
        (if type = RADIUS_ATTR_VENDOR_SPECIFIC then 6 else 0)) := by
  induction fuel generalizing offset with
  | zero => cases h
  | succ fuel ih =>
    rw [getnextattr_val] at h
    by_cases hlt : offset < payloadLen pack
    · rw [if_pos hlt] at h
      by_cases hw : Wanted pack type vendor_id vendor_type offset
      · rw [if_pos hw] at h
        obtain rfl := Option.some.inj h
        exact .inr ⟨0, seen_zero.mpr hlt, hw, rfl⟩
      · rw [if_neg hw] at h
        rcases ih h with ⟨hr, hnone⟩ | ⟨i, hi, hwi, hr⟩
        · refine .inl ⟨hr, ?_⟩
          intro i hi
          cases i with
          | zero => exact hw
          | succ i => exact hnone i (seen_succ.mp hi).2
        · exact .inr ⟨i + 1, seen_succ.mpr ⟨hw, hi⟩, hwi, hr⟩
    · rw [if_neg hlt] at h
      refine .inl ⟨(Option.some.inj h).symm, ?_⟩
      intro i hi
      exact absurd hi.lt hlt

/-- Only one attribute that the search gets to is wanted. -/
theorem Seen.unique {j : Nat} (hi : Seen pack type vendor_id vendor_type offset i)
    (hwi : Wanted pack type vendor_id vendor_type (hop (attrL pack) offset i))
    (hj : Seen pack type vendor_id vendor_type offset j)
    (hwj : Wanted pack type vendor_id vendor_type (hop (attrL pack) offset j)) : i = j := by
  rcases Nat.lt_trichotomy i j with hlt | heq | hlt
  · exact absurd hwi (hj.2 i hlt)
  · exact heq
  · exact absurd hwj (hi.2 j hlt)

end


/-! ## The octets that are read -/

section
variable {pack : Packet} {type : UInt8} {n offset fuel : Nat}

/-- One round reads the two octets of the head, if the attribute is not one of a vendor. -/
theorem within_getnextattr (hv : type ≠ RADIUS_ATTR_VENDOR_SPECIFIC) :
    Within n (radiusGetnextattr pack type 0 0 0 (fuel + 1) 0 offset) ↔
      (offset < payloadLen pack → RADIUS_PACKET_HEADSIZE + offset + 1 < n ∧
        (¬ Wanted pack type 0 0 offset →
          Within n (radiusGetnextattr pack type 0 0 0 fuel 0 (offset + attrL pack offset)))) := by
  rw [radiusGetnextattr]
  by_cases hlt : offset < payloadLen pack
  · rw [if_pos hlt]
    by_cases ht : pack (RADIUS_PACKET_HEADSIZE + offset) = type
    · have hw : Wanted pack type 0 0 offset := ⟨ht, fun h => absurd h hv⟩
      simp [ht, hv, hw, hlt]
      omega
    · have hw : ¬ Wanted pack type 0 0 offset := fun h => ht h.1
      simp only [within_bind, within_peek, peek_val, ht, ne_eq, not_false_eq_true, if_true, hw, hlt, forall_const,
        attrL]
      constructor
      · rintro ⟨hl, -, hrest⟩
        exact ⟨hl, hrest⟩
      · rintro ⟨hl, hrest⟩
        exact ⟨hl, by omega, hrest⟩
  · simp [hlt]

/-- The search ends, reads nothing from `n` on, and finds, if anything, an attribute with `value`. -/
def Scanned (pack : Packet) (type : UInt8) (n : Nat) (value : Nat → Prop) : Prop :=
  ∃ fuel r, (radiusGetattr pack type 0 0 0 fuel).val = some r ∧ Within n (radiusGetattr pack type 0 0 0 fuel) ∧
    ∀ t, r = some t → value t

/-- Every attribute up to the first one of the type has its head before `n`; those that are passed over do not
have length zero, and the first one has `value`. -/
def Readable (pack : Packet) (type : UInt8) (n : Nat) (value : Nat → Prop) : Prop :=
  ∀ i, hop (attrL pack) 0 i < payloadLen pack →
    (∀ j < i, pack (RADIUS_PACKET_HEADSIZE + hop (attrL pack) 0 j) ≠ type) →
    RADIUS_PACKET_HEADSIZE + hop (attrL pack) 0 i + 2 ≤ n ∧
      if pack (RADIUS_PACKET_HEADSIZE + hop (attrL pack) 0 i) = type then
        value (RADIUS_PACKET_HEADSIZE + hop (attrL pack) 0 i)
      else attrL pack (hop (attrL pack) 0 i) ≠ 0

theorem wanted_iff (hv : type ≠ RADIUS_ATTR_VENDOR_SPECIFIC) :
    Wanted pack type 0 0 offset ↔ pack (RADIUS_PACKET_HEADSIZE + offset) = type :=
  and_iff_left fun h => absurd h hv

/-- A search that ends within `n` had every head before `n` and passed over no length zero. -/
theorem heads_of_ended (hv : type ≠ RADIUS_ATTR_VENDOR_SPECIFIC) {r : Option (Nat × Nat)}
    (hend : (radiusGetnextattr pack type 0 0 0 fuel 0 offset).val = some r)
    (hin : Within n (radiusGetnextattr pack type 0 0 0 fuel 0 offset)) {i : Nat}
    (hi : Seen pack type 0 0 offset i) :
    RADIUS_PACKET_HEADSIZE + hop (attrL pack) offset i + 1 < n ∧
      (¬ Wanted pack type 0 0 (hop (attrL pack) offset i) → attrL pack (hop (attrL pack) offset i) ≠ 0) := by
  induction fuel generalizing offset i with
  | zero => cases hend
  | succ fuel ih =>
    obtain ⟨hhead, hrest⟩ := (within_getnextattr hv).mp hin hi.lt
    cases i with
    | zero =>
      refine ⟨hhead, ?_⟩
      intro hw hzero
      rw [getnextattr_stuck hi.lt hw hzero] at hend
      cases hend
    | succ i =>
      obtain ⟨hw, hi'⟩ := seen_succ.mp hi
      rw [getnextattr_val, if_pos hi.lt, if_neg hw] at hend
      exact ih hend (hrest hw) hi'

theorem within_of_heads (hv : type ≠ RADIUS_ATTR_VENDOR_SPECIFIC)
    (hheads : ∀ i, Seen pack type 0 0 offset i → RADIUS_PACKET_HEADSIZE + hop (attrL pack) offset i + 1 < n) :
    Within n (radiusGetnextattr pack type 0 0 0 fuel 0 offset) := by
  induction fuel generalizing offset with
  | zero => exact (within_pure _).mpr trivial
  | succ fuel ih =>
    refine (within_getnextattr hv).mpr ?_
    intro hlt
    refine ⟨hheads 0 (seen_zero.mpr hlt), ?_⟩
    intro hw
    exact ih fun i hi => hheads (i + 1) (seen_succ.mpr ⟨hw, hi⟩)

theorem scanned_iff {value : Nat → Prop} (hv : type ≠ RADIUS_ATTR_VENDOR_SPECIFIC) :
    Scanned pack type n value ↔ Readable pack type n value := by
  have hseen : ∀ i, Seen pack type 0 0 0 i ↔ hop (attrL pack) 0 i < payloadLen pack ∧
      ∀ j < i, pack (RADIUS_PACKET_HEADSIZE + hop (attrL pack) 0 j) ≠ type := by
    intro i
    simp only [Seen, wanted_iff hv, ne_eq]
  constructor
  · rintro ⟨fuel, r, hval, hin, hvalue⟩ i hlt hnone
    obtain ⟨found, hend, rfl⟩ : ∃ found, (radiusGetnextattr pack type 0 0 0 fuel 0 0).val = some found ∧
        found.map Prod.fst = r := by
      rw [radiusGetattr, map_val] at hval
      exact Option.map_eq_some_iff.mp hval
    have hi := (hseen i).mpr ⟨hlt, hnone⟩
    obtain ⟨hhead, hpos⟩ := heads_of_ended hv hend ((within_map _ _).mp hin) hi
    refine ⟨hhead, ?_⟩
    split
    · rename_i ht
      apply hvalue
      rcases getnextattr_result hend with ⟨-, hno⟩ | ⟨k, hk, hwk, hr⟩
      · exact absurd ((wanted_iff hv).mpr ht) (hno i hi)
      · obtain rfl := Seen.unique hk hwk hi ((wanted_iff hv).mpr ht)
        rw [hr, if_neg hv]
        rfl
    · rename_i ht
      exact hpos fun hw => ht ((wanted_iff hv).mp hw)
  · intro hread
    have hall : ∀ i, Seen pack type 0 0 0 i → _ := fun i hi => hread i ((hseen i).mp hi).1 ((hseen i).mp hi).2
    have hpos : ∀ i, Seen pack type 0 0 0 i → ¬ Wanted pack type 0 0 (hop (attrL pack) 0 i) →
        attrL pack (hop (attrL pack) 0 i) ≠ 0 := by
      intro i hi hw
      have := (hall i hi).2
      rwa [if_neg fun ht => hw ((wanted_iff hv).mpr ht)] at this
    obtain ⟨found, hend⟩ := getnextattr_ends hpos (Nat.lt_succ_self (payloadLen pack))
    refine ⟨payloadLen pack + 1, found.map Prod.fst, ?_, ?_, ?_⟩
    · rw [radiusGetattr, map_val, hend]
      rfl
    · exact (within_map _ _).mpr (within_of_heads hv fun i hi => (hall i hi).1)
    · intro t ht
      rcases getnextattr_result hend with ⟨rfl, -⟩ | ⟨i, hi, hwi, hr⟩
      · cases ht
      · rw [hr, if_neg hv] at ht
        obtain rfl := Option.some.inj ht
        have := (hall i hi).2
        rwa [if_pos ((wanted_iff hv).mp hwi)] at this

end


/-! ## Packets that are made -/

/-- `packet->length = htons(length)`. -/
def setLength (pack : Packet) (length : Nat) : Packet :=
  write pack 2 [UInt8.ofNat (length / 256), UInt8.ofNat (length % 256)]

/-- `htonl`. -/
def netOrder (v : UInt32) : List UInt8 :=
  [(v >>> 24).toUInt8, (v >>> 16).toUInt8, (v >>> 8).toUInt8, v.toUInt8]

/-- `radius_packet_init` of an Accounting-Request, in memory that holds `pack`. -/
def radiusPacketInit (pack : Packet) (code : UInt8) : Packet :=
  setLength (write pack 0 (code :: List.replicate (RADIUS_PACKET_HEADSIZE - 1) 0)) RADIUS_PACKET_HEADSIZE

/-- The arguments of `radius_addattr`; `data` is the memory that the pointer points to. -/
structure Addition where
  type : UInt8
  vendor_id : UInt32 := 0
  vendor_type : UInt8 := 0
  value : UInt32 := 0
  data : Option Packet := none
  dlen : UInt16 := 0

/-- `vlen`. -/
def Addition.vlen (x : Addition) (max : Nat) : Nat := min (if x.dlen ≠ 0 then x.dlen.toNat else 4) max

/-- The octets of the value, `n` of them if they are not those of `value`. -/
def Addition.octets (x : Addition) (n : Nat) : List UInt8 :=
  match x.data with
  | some data => read data 0 n
  | none => if x.dlen ≠ 0 then List.replicate n 0 else netOrder x.value

/-- Where the value of a vendor attribute is written: behind the head of eight octets. The integer is a member of
the inner union, which is aligned for it and begins two octets later. -/
def Addition.vendorAt (x : Addition) : Nat := if x.data.isSome ∨ x.dlen ≠ 0 then 8 else 10

theorem Addition.vendorAt_ge (x : Addition) : 8 ≤ x.vendorAt := by
  unfold Addition.vendorAt
  split <;> omega

/-- `radius_addattr`. A vendor attribute is checked as if its head had two octets, and all of its data is copied. -/
def radiusAddattr (pack : Packet) (x : Addition) : Packet :=
  let length := radiusLength pack
  if x.type ≠ RADIUS_ATTR_VENDOR_SPECIFIC then
    let vlen := x.vlen RADIUS_ATTR_VLEN
    if length + vlen + 2 > RADIUS_PACKET_SIZE then pack
    else
      write (write (setLength pack (length + vlen + 2)) length [x.type, UInt8.ofNat (vlen + 2)]) (length + 2)
        (x.octets vlen)
  else
    let vlen := x.vlen (RADIUS_ATTR_VLEN - 8)
    if length + vlen + 2 > RADIUS_PACKET_SIZE then pack
    else
      write (write (setLength pack (length + vlen + 8)) length
        ([x.type, UInt8.ofNat (vlen + 8)] ++ netOrder x.vendor_id ++ [x.vendor_type, UInt8.ofNat (vlen + 2)]))
        (length + x.vendorAt) (x.octets x.dlen.toNat)

section
variable {pack pack' : Packet} {x : Addition} {n : Nat}

theorem setLength_of_ge {i : Nat} (hi : 4 ≤ i) : setLength pack n i = pack i := write_of_ge hi

theorem radiusLength_setLength (hn : n < 65536) : radiusLength (setLength pack n) = n := by
  have hhi : setLength pack n 2 = UInt8.ofNat (n / 256) := by simp [setLength, write]
  have hlo : setLength pack n 3 = UInt8.ofNat (n % 256) := by simp [setLength, write]
  rw [radiusLength, hhi, hlo, UInt8.toNat_ofNat', UInt8.toNat_ofNat']
  omega

theorem radiusLength_congr (h : ∀ i < 4, pack' i = pack i) : radiusLength pack' = radiusLength pack := by
  rw [radiusLength, radiusLength, h 2 (by omega), h 3 (by omega)]

theorem payloadLen_eq (h : RADIUS_PACKET_HEADSIZE ≤ radiusLength pack) :
    payloadLen pack = radiusLength pack - RADIUS_PACKET_HEADSIZE := by
  have h₁ := (pack 2).toNat_lt
  have h₂ := (pack 3).toNat_lt
  have hlt : radiusLength pack < 65536 := by
    unfold radiusLength
    omega
  unfold payloadLen sizeT
  omega

/-- The packet begins as `pack` does. -/
structure Extends (pack pack' : Packet) : Prop where
  length : radiusLength pack ≤ radiusLength pack'
  same : ∀ i, 4 ≤ i → i < radiusLength pack → pack' i = pack i

theorem Extends.refl : Extends pack pack := ⟨Nat.le_refl _, fun _ _ _ => rfl⟩

theorem Extends.trans {pack'' : Packet} (h : Extends pack pack') (h' : Extends pack' pack'') :
    Extends pack pack'' :=
  ⟨Nat.le_trans h.length h'.length, fun i hi hlt =>
    (h'.same i hi (Nat.lt_of_lt_of_le hlt h.length)).trans (h.same i hi hlt)⟩

theorem Addition.vlen_le (x : Addition) (max : Nat) : x.vlen max ≤ max := Nat.min_le_right _ _

/-- What is written behind the length of a packet. -/
theorem extends_write {length k : Nat} {head l : List UInt8} (hlen : radiusLength pack = length) (hpos : 4 ≤ length)
    (hn : n < 65536) (hle : length ≤ n) (hk : length ≤ k) :
    Extends pack (write (write (setLength pack n) length head) k l) ∧
      radiusLength (write (write (setLength pack n) length head) k l) = n := by
  have hnew : radiusLength (write (write (setLength pack n) length head) k l) = n := by
    refine (radiusLength_congr fun i hi => ?_).trans (@radiusLength_setLength pack _ hn)
    rw [write_of_lt (by omega), write_of_lt (by omega)]
  refine ⟨⟨by omega, ?_⟩, hnew⟩
  intro i hi hlt
  rw [write_of_lt (by omega), write_of_lt (by omega), setLength_of_ge hi]

/-- A packet is extended by an attribute or stays as it is. -/
theorem addattr_extends (hpos : 4 ≤ radiusLength pack) : Extends pack (radiusAddattr pack x) := by
  have hsize : RADIUS_PACKET_SIZE = 4096 := rfl
  unfold radiusAddattr
  dsimp only
  split
  · split
    · exact .refl
    · exact (extends_write rfl hpos (by omega) (by omega) (by omega)).1
  · split
    · exact .refl
    · exact (extends_write rfl hpos (by omega) (by omega) (by omega)).1

theorem foldl_extends {xs : List Addition} (hpos : 4 ≤ radiusLength pack) :
    Extends pack (xs.foldl radiusAddattr pack) := by
  induction xs generalizing pack with
  | nil => exact .refl
  | cons x xs ih =>
    have hstep := addattr_extends (x := x) hpos
    exact hstep.trans (ih (Nat.le_trans hpos hstep.length))

end


section
variable {pack pack' : Packet} {x : Addition} {type : UInt8} {n : Nat}

theorem head_write {length k : Nat} {head l : List UInt8} (hk : length + 2 ≤ k) :
    (write (write pack length (x.type :: UInt8.ofNat n :: head)) k l) length = x.type ∧
      (write (write pack length (x.type :: UInt8.ofNat n :: head)) k l) (length + 1) = UInt8.ofNat n := by
  constructor
  · rw [write_of_lt (by omega)]
    simp [write]
  · rw [write_of_lt (by omega)]
    simp [write]

/-- The attribute that is appended, if there is room: where it is, its type and its length octet. -/
theorem addattr_head (hpos : 4 ≤ radiusLength pack) (hroom : radiusLength pack + 255 ≤ RADIUS_PACKET_SIZE) :
    radiusAddattr pack x (radiusLength pack) = x.type ∧
    2 ≤ (radiusAddattr pack x (radiusLength pack + 1)).toNat ∧
    radiusLength (radiusAddattr pack x) =
      radiusLength pack + (radiusAddattr pack x (radiusLength pack + 1)).toNat := by
  have hsize : RADIUS_PACKET_SIZE = 4096 := rfl
  have hvlen : RADIUS_ATTR_VLEN = 253 := rfl
  unfold radiusAddattr
  dsimp only
  split
  · have hle := x.vlen_le RADIUS_ATTR_VLEN
    rw [if_neg (by omega)]
    obtain ⟨h₁, h₂⟩ := @head_write (setLength pack (radiusLength pack + x.vlen RADIUS_ATTR_VLEN + 2)) x
        (x.vlen RADIUS_ATTR_VLEN + 2) (radiusLength pack) (radiusLength pack + 2) []
        (x.octets (x.vlen RADIUS_ATTR_VLEN)) (Nat.le_refl _)
    rw [h₁, h₂, (extends_write rfl hpos (by omega) (by omega) (by omega)).2, UInt8.toNat_ofNat']
    exact ⟨rfl, by omega, by omega⟩
  · have hle := x.vlen_le (RADIUS_ATTR_VLEN - 8)
    have hat := x.vendorAt_ge
    rw [if_neg (by omega)]
    obtain ⟨h₁, h₂⟩ := @head_write (setLength pack (radiusLength pack + x.vlen (RADIUS_ATTR_VLEN - 8) + 8)) x
        (x.vlen (RADIUS_ATTR_VLEN - 8) + 8) (radiusLength pack) (radiusLength pack + x.vendorAt)
        (netOrder x.vendor_id ++ [x.vendor_type, UInt8.ofNat (x.vlen (RADIUS_ATTR_VLEN - 8) + 2)])
        (x.octets x.dlen.toNat) (by omega)
    rw [show ([x.type, UInt8.ofNat (x.vlen (RADIUS_ATTR_VLEN - 8) + 8)] ++ netOrder x.vendor_id ++
      [x.vendor_type, UInt8.ofNat (x.vlen (RADIUS_ATTR_VLEN - 8) + 2)]) = x.type ::
        UInt8.ofNat (x.vlen (RADIUS_ATTR_VLEN - 8) + 8) :: (netOrder x.vendor_id ++
          [x.vendor_type, UInt8.ofNat (x.vlen (RADIUS_ATTR_VLEN - 8) + 2)]) from rfl, h₁, h₂,
      (extends_write rfl hpos (by omega) (by omega) (by omega)).2, UInt8.toNat_ofNat']
    exact ⟨rfl, by omega, by omega⟩

/-- The attributes of a packet, `n` of them, end where the packet ends. -/
structure Tiled (pack : Packet) (n : Nat) : Prop where
  ends : RADIUS_PACKET_HEADSIZE + hop (attrL pack) 0 n = radiusLength pack
  attr : ∀ j < n, 2 ≤ attrL pack (hop (attrL pack) 0 j)

theorem Tiled.pos (h : Tiled pack n) : RADIUS_PACKET_HEADSIZE ≤ radiusLength pack :=
  h.ends ▸ Nat.le_add_right _ _

/-- Type and length of an attribute are inside the packet. -/
theorem Tiled.inside (h : Tiled pack n) {j : Nat} (hj : j < n) :
    RADIUS_PACKET_HEADSIZE + hop (attrL pack) 0 j + 1 < radiusLength pack := by
  have hnext : hop (attrL pack) 0 j + attrL pack (hop (attrL pack) 0 j) ≤ hop (attrL pack) 0 n := by
    rw [← hop_succ]
    exact hop_mono (by omega)
  have htwo := h.attr j hj
  have hends := h.ends
  omega

theorem Tiled.same (h : Tiled pack n) (hext : Extends pack pack') {j : Nat} (hj : j < n) :
    attrL pack' (hop (attrL pack) 0 j) = attrL pack (hop (attrL pack) 0 j) := by
  have hinside := h.inside hj
  have hhead : RADIUS_PACKET_HEADSIZE = 20 := rfl
  exact congrArg UInt8.toNat (hext.same _ (by omega) (by omega))

/-- The attributes that are there stay where they are. -/
theorem Tiled.hop_eq (h : Tiled pack n) (hext : Extends pack pack') {i : Nat} (hi : i ≤ n) :
    hop (attrL pack') 0 i = hop (attrL pack) 0 i :=
  hop_congr fun _ hj => h.same hext (Nat.lt_of_lt_of_le hj hi)

/-- A packet of `n` attributes, none of them of the type. -/
structure Built (type : UInt8) (pack : Packet) (n : Nat) : Prop where
  head : RADIUS_PACKET_HEADSIZE ≤ radiusLength pack
  size : radiusLength pack ≤ RADIUS_PACKET_HEADSIZE + 255 * n
  ends : RADIUS_PACKET_HEADSIZE + hop (attrL pack) 0 n = radiusLength pack
  attr : ∀ j < n, pack (RADIUS_PACKET_HEADSIZE + hop (attrL pack) 0 j) ≠ type ∧
    2 ≤ attrL pack (hop (attrL pack) 0 j)

theorem Built.init {code : UInt8} : Built type (radiusPacketInit pack code) 0 := by
  have hlen : radiusLength (radiusPacketInit pack code) = RADIUS_PACKET_HEADSIZE :=
    radiusLength_setLength (by decide)
  refine ⟨Nat.le_of_eq hlen.symm, Nat.le_of_eq hlen, hlen.symm, ?_⟩
  intro j hj
  exact absurd hj (Nat.not_lt_zero j)

theorem Built.tiled (h : Built type pack n) : Tiled pack n := ⟨h.ends, fun j hj => (h.attr j hj).2⟩

theorem Built.type_same (h : Built type pack n) (hext : Extends pack pack') {j : Nat} (hj : j < n) :
    pack' (RADIUS_PACKET_HEADSIZE + hop (attrL pack) 0 j) = pack (RADIUS_PACKET_HEADSIZE + hop (attrL pack) 0 j) := by
  have hinside := h.tiled.inside hj
  have hhead : RADIUS_PACKET_HEADSIZE = 20 := rfl
  exact hext.same _ (by omega) (by omega)

theorem Built.add (h : Built type pack n) (hn : n ≤ 14) (hx : x.type ≠ type) :
    Built type (radiusAddattr pack x) (n + 1) := by
  have hhead : RADIUS_PACKET_HEADSIZE = 20 := rfl
  have hpos := h.head
  have hsize := h.size
  have hroom : radiusLength pack + 255 ≤ RADIUS_PACKET_SIZE := by
    have : RADIUS_PACKET_SIZE = 4096 := rfl
    omega
  have hext := @addattr_extends pack x (by omega)
  obtain ⟨htype, htwo, hlen⟩ := addattr_head (x := x) (by omega) hroom
  have hlast : RADIUS_PACKET_HEADSIZE + hop (attrL (radiusAddattr pack x)) 0 n = radiusLength pack := by
    rw [h.tiled.hop_eq hext (Nat.le_refl n)]
    exact h.ends
  have hnew : attrL (radiusAddattr pack x) (hop (attrL (radiusAddattr pack x)) 0 n) =
      (radiusAddattr pack x (radiusLength pack + 1)).toNat := by
    unfold attrL at hlast ⊢
    rw [hlast]
  have hoctet := (radiusAddattr pack x (radiusLength pack + 1)).toNat_lt
  refine ⟨by omega, by omega, ?_, ?_⟩
  · rw [hop_succ, hnew, hlen]
    omega
  · intro j hj
    rcases Nat.lt_succ_iff_lt_or_eq.mp hj with hj | rfl
    · rw [h.tiled.hop_eq hext (Nat.le_of_lt hj), h.type_same hext hj, h.tiled.same hext hj]
      exact h.attr j hj
    · rw [hlast, hnew, htype]
      exact ⟨hx, htwo⟩

/-- An attribute of the type that is appended is found where it was put, in all that the packet is extended to. -/
theorem Built.find (h : Built type pack n) (hn : n ≤ 14) (hx : x.type = type)
    (hv : type ≠ RADIUS_ATTR_VENDOR_SPECIFIC) (hext : Extends (radiusAddattr pack x) pack') :
    findAttr pack' type 0 0 = some (some (radiusLength pack)) := by
  have hhead : RADIUS_PACKET_HEADSIZE = 20 := rfl
  have hpos := h.head
  have hsize := h.size
  have hroom : radiusLength pack + 255 ≤ RADIUS_PACKET_SIZE := by
    have : RADIUS_PACKET_SIZE = 4096 := rfl
    omega
  obtain ⟨htype, htwo, hlen⟩ := addattr_head (x := x) (by omega) hroom
  have hall := (@addattr_extends pack x (by omega)).trans hext
  have hlast : RADIUS_PACKET_HEADSIZE + hop (attrL pack') 0 n = radiusLength pack := by
    rw [h.tiled.hop_eq hall (Nat.le_refl n)]
    exact h.ends
  have hlonger := hext.length
  have hpayload := payloadLen_eq (show RADIUS_PACKET_HEADSIZE ≤ radiusLength pack' by omega)
  have hseen : Seen pack' type 0 0 0 n := by
    refine ⟨by omega, ?_⟩
    intro j hj hw
    rw [h.tiled.hop_eq hall (Nat.le_of_lt hj), wanted_iff hv, h.type_same hall hj] at hw
    exact (h.attr j hj).1 hw
  have hwanted : Wanted pack' type 0 0 (hop (attrL pack') 0 n) := by
    rw [wanted_iff hv, hlast, hext.same _ (by omega) (by omega), htype]
    exact hx
  have hnonzero : ∀ i, Seen pack' type 0 0 0 i → ¬ Wanted pack' type 0 0 (hop (attrL pack') 0 i) →
      attrL pack' (hop (attrL pack') 0 i) ≠ 0 := by
    intro i hi hw hzero
    rcases Nat.lt_trichotomy i n with hlt | rfl | hgt
    · rw [h.tiled.hop_eq hall (Nat.le_of_lt hlt), h.tiled.same hall hlt] at hzero
      have := (h.attr i hlt).2
      omega
    · exact hw hwanted
    · exact hi.2 n hgt hwanted
  obtain ⟨r, hend⟩ := getnextattr_ends hnonzero (Nat.lt_succ_self (payloadLen pack'))
  have hfound : r.map Prod.fst = some (radiusLength pack) := by
    rcases getnextattr_result hend with ⟨-, hnone⟩ | ⟨i, hi, hwi, hr⟩
    · exact absurd hwanted (hnone n hseen)
    · obtain rfl := Seen.unique hi hwi hseen hwanted
      rw [hr, if_neg hv, Nat.add_zero, hlast]
  rw [findAttr, radiusGetattr, map_val, hend, Option.map_some, hfound]

end


section
variable {pack : Packet} {x : Addition}

/-- The value of an attribute that is appended. -/
theorem addattr_value {data : Packet} (hroom : radiusLength pack + 255 ≤ RADIUS_PACKET_SIZE)
    (hv : x.type ≠ RADIUS_ATTR_VENDOR_SPECIFIC) (hdata : x.data = some data) (hlen : x.dlen ≠ 0)
    (hle : x.dlen.toNat ≤ RADIUS_ATTR_VLEN) :
    (radiusAddattr pack x (radiusLength pack + 1)).toNat = x.dlen.toNat + 2 ∧
      read (radiusAddattr pack x) (radiusLength pack + 2) x.dlen.toNat = read data 0 x.dlen.toNat := by
  have hsize : RADIUS_PACKET_SIZE = 4096 := rfl
  have hvmax : RADIUS_ATTR_VLEN = 253 := rfl
  have hvlen : x.vlen RADIUS_ATTR_VLEN = x.dlen.toNat := by
    rw [Addition.vlen, if_pos hlen, Nat.min_eq_left hle]
  have hoctets : x.octets x.dlen.toNat = read data 0 x.dlen.toNat := by
    rw [Addition.octets, hdata]
  unfold radiusAddattr
  dsimp only
  rw [if_pos hv, hvlen, if_neg (by omega), hoctets]
  constructor
  · rw [(@head_write _ _ _ _ _ [] _ (Nat.le_refl _)).2, UInt8.toNat_ofNat']
    omega
  · have hself := read_write_self (m := write (setLength pack (radiusLength pack + x.dlen.toNat + 2))
      (radiusLength pack) [x.type, UInt8.ofNat (x.dlen.toNat + 2)]) (a := radiusLength pack + 2)
      (l := read data 0 x.dlen.toNat)
    rwa [length_read] at hself

end

end Eag
end DaemonGroup
