import DaemonGroup.Eag.RadiusAttr
import Mathlib.Data.List.Induction

/-!
# DaemonGroup.Eag.RadiusAdditions

Sequences of calls of `radius_addattr`: how large the packet becomes, where the octets go, and what
`radius_getattr` finds in the end. The head of a vendor attribute has eight octets, of which the check of the size
counts two; all of its data is copied where the length octet counts 245 of them; and an integer is written two
octets behind the place of the value (`encodes_iff`).
-/

namespace DaemonGroup
namespace Eag

open Lib Bytes Reads

/-! ## The search for an attribute of a number -/

section
variable {pack : Packet} {type : UInt8} {vendor_id : UInt32} {vendor_type : UInt8} {inst count : Int}
  {offset fuel i : Nat}

/-- How many attributes of the kind are before the attribute number `i`. -/
def kindBefore (pack : Packet) (type : UInt8) (vendor_id : UInt32) (vendor_type : UInt8) (offset i : Nat) : Nat :=
  (List.range i).countP fun j => Wanted pack type vendor_id vendor_type (hop (attrL pack) offset j)

theorem kindBefore_succ : kindBefore pack type vendor_id vendor_type offset (i + 1) =
    (if Wanted pack type vendor_id vendor_type offset then 1 else 0) +
      kindBefore pack type vendor_id vendor_type (offset + attrL pack offset) i := by
  rw [kindBefore, List.range_succ_eq_map, List.countP_cons, List.countP_map, Nat.add_comm]
  congr 1
  simp only [decide_eq_true_eq]
  rfl

/-- A wanted attribute is found under the number of those of its kind before it. -/
theorem getnextattr_counted (hlt : hop (attrL pack) offset i < payloadLen pack)
    (hw : Wanted pack type vendor_id vendor_type (hop (attrL pack) offset i)) (hfuel : i < fuel) :
    ((radiusGetnextattr pack type vendor_id vendor_type
        (count + kindBefore pack type vendor_id vendor_type offset i) fuel count offset).val).map
      (Option.map Prod.fst) =
    some (some (RADIUS_PACKET_HEADSIZE + hop (attrL pack) offset i +
      (if type = RADIUS_ATTR_VENDOR_SPECIFIC then 6 else 0))) := by
  induction i generalizing offset fuel count with
  | zero =>
    obtain ⟨fuel, rfl⟩ := Nat.exists_eq_add_one.mpr hfuel
    have hzero : kindBefore pack type vendor_id vendor_type offset 0 = 0 := rfl
    rw [hop] at hlt hw ⊢
    rw [hzero, getnextattr_round, if_pos hlt, if_pos hw, if_pos (by simp)]
    rfl
  | succ i ih =>
    obtain ⟨fuel, rfl⟩ := Nat.exists_eq_add_one.mpr (Nat.lt_of_le_of_lt (Nat.zero_le _) hfuel)
    have hfirst : offset < payloadLen pack := Nat.lt_of_le_of_lt le_hop hlt
    rw [getnextattr_round, if_pos hfirst, kindBefore_succ]
    by_cases hhere : Wanted pack type vendor_id vendor_type offset
    · rw [if_pos hhere, if_pos hhere, if_neg (by omega)]
      have hnext := @ih (count + 1) _ fuel hlt hw (by omega)
      rw [show count + ((1 + kindBefore pack type vendor_id vendor_type (offset + attrL pack offset) i : Nat) : Int) =
        count + 1 + kindBefore pack type vendor_id vendor_type (offset + attrL pack offset) i by omega]
      exact hnext
    · rw [if_neg hhere, if_neg hhere, Nat.zero_add]
      exact ih hlt hw (by omega)

end

/-! ## One call -/

/-- The length of the value, the head before it, and the check of the size. -/
def Addition.size (x : Addition) : Nat :=
  x.vlen (if x.type ≠ RADIUS_ATTR_VENDOR_SPECIFIC then RADIUS_ATTR_VLEN else RADIUS_ATTR_VLEN - 8)

def Addition.headSize (x : Addition) : Nat := if x.type ≠ RADIUS_ATTR_VENDOR_SPECIFIC then 2 else 8

def HasSpace (pack : Packet) (x : Addition) : Prop := radiusLength pack + x.size + 2 ≤ RADIUS_PACKET_SIZE

instance (pack : Packet) (x : Addition) : Decidable (HasSpace pack x) := inferInstanceAs (Decidable (_ ≤ _))

def Addition.head (x : Addition) : List UInt8 :=
  if x.type ≠ RADIUS_ATTR_VENDOR_SPECIFIC then [x.type, UInt8.ofNat (x.size + 2)]
  else [x.type, UInt8.ofNat (x.size + 8)] ++ netOrder x.vendor_id ++ [x.vendor_type, UInt8.ofNat (x.size + 2)]

/-- Where the value is written, from the beginning of the attribute on. -/
def Addition.copyAt (x : Addition) : Nat := if x.type ≠ RADIUS_ATTR_VENDOR_SPECIFIC then 2 else x.vendorAt

/-- The octets that are written there. -/
def Addition.copied (x : Addition) : List UInt8 :=
  x.octets (if x.type ≠ RADIUS_ATTR_VENDOR_SPECIFIC then x.size else x.dlen.toNat)

/-- Where a call writes, and what, beside the length of the packet. -/
def attrWrites (pack : Packet) (x : Addition) : List (Nat × List UInt8) :=
  if HasSpace pack x then
    [(radiusLength pack, x.head), (radiusLength pack + x.copyAt, x.copied)]
  else []

section
variable {pack pack' : Packet} {x : Addition}

theorem radiusAddattr_writes : radiusAddattr pack x =
    (attrWrites pack x).foldl (fun m w => write m w.1 w.2)
      (if HasSpace pack x then setLength pack (radiusLength pack + x.size + x.headSize) else pack) := by
  unfold radiusAddattr attrWrites HasSpace Addition.copied Addition.copyAt Addition.head Addition.headSize
    Addition.size
  dsimp only
  by_cases hv : x.type ≠ RADIUS_ATTR_VENDOR_SPECIFIC
  · simp only [if_pos hv]
    by_cases hfit : radiusLength pack + x.vlen RADIUS_ATTR_VLEN + 2 ≤ RADIUS_PACKET_SIZE
    · rw [if_neg (Nat.not_lt.mpr hfit), if_pos hfit, if_pos hfit]
      rfl
    · rw [if_pos (Nat.not_le.mp hfit), if_neg hfit, if_neg hfit]
      rfl
  · simp only [if_neg hv]
    by_cases hfit : radiusLength pack + x.vlen (RADIUS_ATTR_VLEN - 8) + 2 ≤ RADIUS_PACKET_SIZE
    · rw [if_neg (Nat.not_lt.mpr hfit), if_pos hfit, if_pos hfit]
      rfl
    · rw [if_pos (Nat.not_le.mp hfit), if_neg hfit, if_neg hfit]
      rfl

theorem addattr_space (h : HasSpace pack x) : radiusAddattr pack x =
    write (write (setLength pack (radiusLength pack + x.size + x.headSize)) (radiusLength pack) x.head)
      (radiusLength pack + x.copyAt) x.copied := by
  rw [radiusAddattr_writes, attrWrites, if_pos h, if_pos h]
  rfl

theorem addattr_full (h : ¬ HasSpace pack x) : radiusAddattr pack x = pack := by
  rw [radiusAddattr_writes, attrWrites, if_neg h, if_neg h]
  rfl

theorem head_length : x.head.length = x.headSize := by
  unfold Addition.head Addition.headSize
  split <;> rfl

theorem size_le : x.size + x.headSize ≤ 255 := by
  have hmax : RADIUS_ATTR_VLEN = 253 := rfl
  unfold Addition.size Addition.headSize
  split
  · have := x.vlen_le RADIUS_ATTR_VLEN
    omega
  · have := x.vlen_le (RADIUS_ATTR_VLEN - 8)
    omega

theorem headSize_le_copyAt : x.headSize ≤ x.copyAt := by
  unfold Addition.headSize Addition.copyAt
  split
  · exact Nat.le_refl _
  · exact x.vendorAt_ge

/-- What is behind the head after a call that fits. -/
def valueLeft (pack : Packet) (x : Addition) : List UInt8 :=
  read (write pack (radiusLength pack + x.copyAt) x.copied) (radiusLength pack + x.headSize) x.size

/-- An attribute with the head of `x` is at `o`, and behind the head the value `v`. -/
structure Placed (pack : Packet) (o : Nat) (x : Addition) (v : List UInt8) : Prop where
  head : read pack o x.headSize = x.head
  value : read pack (o + x.headSize) x.size = v

theorem Placed.extends {v : List UInt8} {o : Nat} (h : Placed pack o x v) (ho : 4 ≤ o)
    (hle : o + x.headSize + x.size ≤ radiusLength pack) (hext : Extends pack pack') : Placed pack' o x v := by
  refine ⟨?_, ?_⟩
  · rw [← h.head]
    exact read_congr fun i h₁ h₂ => hext.same i (by omega) (by omega)
  · rw [← h.value]
    exact read_congr fun i h₁ h₂ => hext.same i (by omega) (by omega)

/-- What a call that fits leaves at the old end of the packet. -/
theorem addattr_placed (h : HasSpace pack x) (hpos : 4 ≤ radiusLength pack) :
    radiusLength (radiusAddattr pack x) = radiusLength pack + x.size + x.headSize ∧
      Placed (radiusAddattr pack x) (radiusLength pack) x (valueLeft pack x) := by
  have hsize : RADIUS_PACKET_SIZE = 4096 := rfl
  have hfit : radiusLength pack + x.size + 2 ≤ RADIUS_PACKET_SIZE := h
  have hsmall := @size_le x
  have hat := @headSize_le_copyAt x
  rw [addattr_space h]
  have hlen := (@extends_write pack (radiusLength pack + x.size + x.headSize) _ (radiusLength pack + x.copyAt)
    x.head x.copied rfl hpos (by omega) (by omega) (by omega)).2
  refine ⟨hlen, ?_, ?_⟩
  · rw [read_write_of_disjoint (.inl (by omega)), ← head_length]
    exact read_write_self
  · -- neither the length of the packet nor the head is where the value is
    refine read_congr fun i h₁ _ => write_same ?_
    rw [write_of_ge (by rw [head_length]; exact h₁), setLength_of_ge (by omega)]

theorem ntohl_netOrder {v : UInt32} {o : Nat} (h : read pack o 4 = netOrder v) : ntohlAt pack o = v := by
  obtain ⟨h₀, h₁, h₂, h₃⟩ : pack o = (v >>> 24).toUInt8 ∧ pack (o + 1) = (v >>> 16).toUInt8 ∧
      pack (o + 2) = (v >>> 8).toUInt8 ∧ pack (o + 3) = v.toUInt8 := by
    simpa [Bytes.read, List.range_succ, netOrder] using h
  have hlt := v.toNat_lt
  rw [ntohlAt, h₀, h₁, h₂, h₃, ← UInt32.toNat_inj]
  simp [UInt32.toNat_add, UInt32.toNat_mul, Nat.shiftRight_eq_div_pow]
  omega

/-- An attribute that is placed is one of its kind, with its length. -/
theorem Placed.wanted {offset : Nat} {v : List UInt8} (h : Placed pack (RADIUS_PACKET_HEADSIZE + offset) x v) :
    Wanted pack x.type x.vendor_id x.vendor_type offset ∧ attrL pack offset = x.size + x.headSize ∧
      (x.type = RADIUS_ATTR_VENDOR_SPECIFIC →
        (pack (RADIUS_PACKET_HEADSIZE + offset + 7)).toNat = x.size + 2) := by
  have hsmall := @size_le x
  have hhead := h.head
  by_cases hv : x.type = RADIUS_ATTR_VENDOR_SPECIFIC
  · have hsize : x.headSize = 8 := if_neg (not_not.mpr hv)
    have hoctets : x.head = [x.type, UInt8.ofNat (x.size + 8)] ++ netOrder x.vendor_id ++
        [x.vendor_type, UInt8.ofNat (x.size + 2)] := if_neg (not_not.mpr hv)
    rw [hsize, show 8 = 2 + 4 + 2 from rfl, read_add, read_add, hoctets] at hhead
    obtain ⟨hleft, hkind⟩ := List.append_inj hhead (by simp [netOrder])
    obtain ⟨htwo, hid⟩ := List.append_inj hleft (by simp)
    obtain ⟨ht, hl⟩ : pack (RADIUS_PACKET_HEADSIZE + offset) = x.type ∧
        pack (RADIUS_PACKET_HEADSIZE + offset + 1) = UInt8.ofNat (x.size + 8) := by
      simpa [Bytes.read, List.range_succ] using htwo
    obtain ⟨hvt, hvl⟩ : pack (RADIUS_PACKET_HEADSIZE + offset + 6) = x.vendor_type ∧
        pack (RADIUS_PACKET_HEADSIZE + offset + 7) = UInt8.ofNat (x.size + 2) := by
      simpa [Bytes.read, List.range_succ] using hkind
    refine ⟨⟨ht, fun _ => ⟨ntohl_netOrder hid, hvt⟩⟩, ?_, fun _ => ?_⟩
    · rw [attrL, hl, UInt8.toNat_ofNat', hsize]
      omega
    · rw [hvl, UInt8.toNat_ofNat']
      omega
  · have hsize : x.headSize = 2 := if_pos hv
    have hoctets : x.head = [x.type, UInt8.ofNat (x.size + 2)] := if_pos hv
    rw [hsize, hoctets] at hhead
    obtain ⟨ht, hl⟩ : pack (RADIUS_PACKET_HEADSIZE + offset) = x.type ∧
        pack (RADIUS_PACKET_HEADSIZE + offset + 1) = UInt8.ofNat (x.size + 2) := by
      simpa [Bytes.read, List.range_succ] using hhead
    refine ⟨⟨ht, fun hc => absurd hc hv⟩, ?_, fun hc => absurd hc hv⟩
    rw [attrL, hl, UInt8.toNat_ofNat', hsize]
    omega

/-! ## Packets of attributes -/

theorem Tiled.add {n : Nat} (h : Tiled pack n) (hfit : HasSpace pack x) :
    Tiled (radiusAddattr pack x) (n + 1) := by
  have hhead : RADIUS_PACKET_HEADSIZE = 20 := rfl
  have hpos : 4 ≤ radiusLength pack := by
    have := h.pos
    omega
  have hext := addattr_extends (x := x) hpos
  obtain ⟨hlen, hplaced⟩ := addattr_placed hfit hpos
  rw [← h.ends] at hplaced
  have hL := hplaced.wanted.2.1
  have htwo : 2 ≤ x.headSize := by
    unfold Addition.headSize
    split <;> omega
  have hhop := h.hop_eq hext (Nat.le_refl n)
  refine ⟨?_, fun j hj => ?_⟩
  · rw [hop_succ, hhop, hL, hlen, ← h.ends]
    omega
  · rcases Nat.lt_succ_iff_lt_or_eq.mp hj with hj | rfl
    · rw [h.hop_eq hext (Nat.le_of_lt hj), h.same hext hj]
      exact h.attr j hj
    · rw [hhop, hL]
      omega

end

/-! ## Sequences of calls -/

/-- `radius_getattr` on `res` finds the attribute of `x` that begins at `o`, by the number of those of its kind
before it, with the value that was given. -/
def Found (res : Packet) (o : Nat) (x : Addition) : Prop :=
  ∃ i t, RADIUS_PACKET_HEADSIZE + hop (attrL res) 0 i = o ∧
    (radiusGetattr res x.type x.vendor_id x.vendor_type
      (kindBefore res x.type x.vendor_id x.vendor_type 0 i) (payloadLen res + 1)).val = some (some t) ∧
    read res (t + 2) ((res (t + 1)).toNat - 2) = x.octets x.size

/-- The packet stays within its size, every octet that a call writes is within the attribute whose length octet it
sets, and every attribute that is added is found in the end. -/
structure Encodes (pack : Packet) (xs : List Addition) : Prop where
  size : ∀ pre suf, xs = pre ++ suf → radiusLength (pre.foldl radiusAddattr pack) ≤ RADIUS_PACKET_SIZE
  inside : ∀ pre x suf, xs = pre ++ x :: suf → ∀ w ∈ attrWrites (pre.foldl radiusAddattr pack) x,
    radiusLength (pre.foldl radiusAddattr pack) ≤ w.1 ∧
      w.1 + w.2.length ≤ radiusLength (pre.foldl radiusAddattr pack) +
        (((pre ++ [x]).foldl radiusAddattr pack) (radiusLength (pre.foldl radiusAddattr pack) + 1)).toNat
  found : ∀ pre x suf, xs = pre ++ x :: suf → HasSpace (pre.foldl radiusAddattr pack) x →
    Found (xs.foldl radiusAddattr pack) (radiusLength (pre.foldl radiusAddattr pack)) x

/-- A vendor attribute that passes the check of the size is not an integer, and has at most 245 octets of data and
room for all of its head; if there is data without a length, what is behind the packet is the same already. -/
def VendorSound (pack : Packet) (x : Addition) : Prop :=
  x.type = RADIUS_ATTR_VENDOR_SPECIFIC → HasSpace pack x →
    (x.data = none → x.dlen ≠ 0) ∧ x.dlen.toNat ≤ RADIUS_ATTR_VLEN - 8 ∧ radiusLength pack + x.size + 8 ≤ RADIUS_PACKET_SIZE ∧
      ∀ data, x.data = some data → x.dlen = 0 → read pack (radiusLength pack + 8) 4 = read data 0 4

section
variable {pack res : Packet} {x : Addition} {n : Nat}

theorem octets_length : (x.octets x.size).length = x.size := by
  unfold Addition.octets
  split
  · exact length_read
  · split
    · exact List.length_replicate
    · rename_i h
      have hzero : x.dlen = 0 := not_not.mp h
      unfold Addition.size Addition.vlen
      rw [if_neg h]
      split <;> rfl

/-- The data of a vendor attribute: all of it is copied, but for its length the size of the value counts. -/
theorem vendor_copied (hv : x.type = RADIUS_ATTR_VENDOR_SPECIFIC) :
    x.headSize = 8 ∧ x.copied = x.octets x.dlen.toNat ∧
      x.size = min (if x.dlen ≠ 0 then x.dlen.toNat else 4) (RADIUS_ATTR_VLEN - 8) := by
  refine ⟨if_neg (not_not.mpr hv), ?_, ?_⟩
  · rw [Addition.copied, if_neg (not_not.mpr hv)]
  · rw [Addition.size, if_neg (not_not.mpr hv)]
    rfl

/-- The integer of a vendor attribute ends two octets behind its attribute. -/
theorem integer_outside (hv : x.type = RADIUS_ATTR_VENDOR_SPECIFIC) (hd : x.data = none) (hz : x.dlen = 0) :
    x.headSize + x.size < x.copyAt + x.copied.length := by
  obtain ⟨hhead, hcopied, hsize⟩ := vendor_copied hv
  have hat : x.copyAt = 10 := by
    rw [Addition.copyAt, if_neg (not_not.mpr hv), Addition.vendorAt, if_neg (by simp [hd, hz])]
  have hfour : x.size = 4 := by
    rw [hsize, if_neg (not_not.mpr hz)]
    rfl
  have hlen : x.copied.length = 4 := by
    rw [hcopied, Addition.octets, hd]
    simp [hz, netOrder]
  omega

/-- If it is not an integer, the value of a vendor attribute is written behind its head. -/
theorem copyAt_eq (h : x.type = RADIUS_ATTR_VENDOR_SPECIFIC → x.data = none → x.dlen ≠ 0) :
    x.copyAt = x.headSize := by
  unfold Addition.copyAt Addition.headSize
  split
  · rfl
  · rename_i hv
    refine if_pos ?_
    cases hd : x.data with
    | none => exact .inr (h (not_not.mp hv) hd)
    | some data => exact .inl rfl

/-- Only with data whose length is zero it is not the value that is copied. -/
theorem copied_octets (hint : x.type = RADIUS_ATTR_VENDOR_SPECIFIC → x.data = none → x.dlen ≠ 0)
    (hlen : x.type = RADIUS_ATTR_VENDOR_SPECIFIC → x.dlen.toNat ≤ RADIUS_ATTR_VLEN - 8) :
    x.copied = x.octets x.size ∨
      x.type = RADIUS_ATTR_VENDOR_SPECIFIC ∧ x.copied = [] ∧ x.size = 4 ∧ x.dlen = 0 ∧ ∃ data, x.data = some data := by
  by_cases hv : x.type = RADIUS_ATTR_VENDOR_SPECIFIC
  · obtain ⟨-, hcopied, hsize⟩ := vendor_copied hv
    by_cases hz : x.dlen = 0
    · have hfour : x.size = 4 := by
        rw [hsize, if_neg (not_not.mpr hz)]
        rfl
      cases hd : x.data with
      | none => exact absurd hz (hint hv hd)
      | some data =>
        right
        refine ⟨hv, ?_, hfour, hz, data, rfl⟩
        rw [hcopied, hz, Addition.octets, hd]
        rfl
    · left
      rw [hcopied, hsize, if_pos hz, Nat.min_eq_left (hlen hv)]
  · left
    rw [Addition.copied, if_pos hv]

theorem valueLeft_octets (hat : x.copyAt = x.headSize) (h : x.copied = x.octets x.size) :
    valueLeft pack x = x.octets x.size := by
  have hself := @read_write_self _ pack (radiusLength pack + x.headSize) (x.octets x.size)
  rw [octets_length] at hself
  rw [valueLeft, hat, h, hself]

/-- Where nothing is copied the value is what was in memory. -/
theorem valueLeft_nil (h : x.copied = []) :
    valueLeft pack x = read pack (radiusLength pack + x.headSize) x.size := by
  rw [valueLeft, h, write_nil]

theorem VendorSound.value (h : VendorSound pack x) (hfit : HasSpace pack x) :
    x.copyAt + x.copied.length ≤ x.headSize + x.size ∧ valueLeft pack x = x.octets x.size := by
  have hat : x.copyAt = x.headSize := copyAt_eq fun hv => (h hv hfit).1
  rw [hat]
  rcases copied_octets (fun hv => (h hv hfit).1) fun hv => (h hv hfit).2.1 with hc | ⟨hv, hc, hfour, hz, data, hd⟩
  · exact ⟨by rw [hc, octets_length], valueLeft_octets hat hc⟩
  · have hread := (h hv hfit).2.2.2 data hd hz
    refine ⟨by rw [hc]; exact Nat.le_add_right _ _, ?_⟩
    rw [valueLeft_nil hc, hfour, (vendor_copied hv).1, Addition.octets, hd]
    exact hread

/-- Conversely, a call within its attribute that leaves the value is sound. -/
theorem VendorSound.of_value (hroom : x.type = RADIUS_ATTR_VENDOR_SPECIFIC → HasSpace pack x →
      radiusLength pack + x.size + 8 ≤ RADIUS_PACKET_SIZE)
    (hinside : HasSpace pack x → x.copyAt + x.copied.length ≤ x.headSize + x.size)
    (hvalue : HasSpace pack x → valueLeft pack x = x.octets x.size) : VendorSound pack x := by
  intro hv hfit
  obtain ⟨hhead, hc, hsize⟩ := vendor_copied hv
  have hle := hinside hfit
  have hint : x.data = none → x.dlen ≠ 0 := by
    intro hd hz
    have hout := integer_outside hv hd hz
    omega
  have hat : x.copyAt = x.headSize := copyAt_eq fun _ => hint
  refine ⟨hint, ?_, hroom hv hfit, ?_⟩
  · by_cases hz : x.dlen = 0
    · rw [hz]
      exact Nat.zero_le _
    · have hlen : x.copied.length = x.dlen.toNat := by
        rw [hc, Addition.octets]
        split
        · exact length_read
        · rw [if_pos hz]
          exact List.length_replicate
      rw [hat, hlen, hsize, if_pos hz] at hle
      omega
  · intro data hd hz
    have hempty : x.copied = [] := by
      rw [hc, hz, Addition.octets, hd]
      rfl
    have hfour : x.size = 4 := by
      rw [hsize, if_neg (not_not.mpr hz)]
      rfl
    have hleft := hvalue hfit
    rw [valueLeft_nil hempty, hfour, hhead, Addition.octets, hd] at hleft
    exact hleft

/-- The attribute behind a tiled packet has its number. -/
theorem Tiled.number (h : Tiled pack n) (hext : Extends pack res) (hL : 2 ≤ attrL res (hop (attrL res) 0 n)) {i : Nat}
    (hi : RADIUS_PACKET_HEADSIZE + hop (attrL res) 0 i = radiusLength pack) : i = n := by
  have hn := h.hop_eq hext (Nat.le_refl n)
  have hends := h.ends
  rcases Nat.lt_trichotomy i n with hlt | heq | hgt
  · have hnext : hop (attrL pack) 0 (i + 1) ≤ hop (attrL pack) 0 n := hop_mono hlt
    have hpos := h.attr i hlt
    rw [hop_succ] at hnext
    rw [h.hop_eq hext (Nat.le_of_lt hlt)] at hi
    omega
  · exact heq
  · have hnext : hop (attrL res) 0 (n + 1) ≤ hop (attrL res) 0 i := hop_mono hgt
    rw [hop_succ] at hnext
    omega

/-- What the search finds of an attribute that is placed behind a tiled packet is what was left there. -/
theorem found_iff {v : List UInt8} (h : Tiled pack n) (hext : Extends pack res)
    (hp : Placed res (radiusLength pack) x v) (hlt : radiusLength pack < radiusLength res) :
    Found res (radiusLength pack) x ↔ v = x.octets x.size := by
  have hhead : RADIUS_PACKET_HEADSIZE = 20 := rfl
  have hpos := h.pos
  have hends := h.ends
  have hn := h.hop_eq hext (Nat.le_refl n)
  have hat : radiusLength pack = RADIUS_PACKET_HEADSIZE + hop (attrL res) 0 n := by rw [hn, hends]
  rw [hat] at hp
  obtain ⟨hw, hL, hvl⟩ := hp.wanted
  have hpay : payloadLen res = radiusLength res - RADIUS_PACKET_HEADSIZE := payloadLen_eq (by omega)
  have hfuel : n < payloadLen res + 1 := by
    have hnum := add_le_hop h.attr
    omega
  have hsearch := @getnextattr_counted res _ _ _ 0 0 _ n (by omega) hw hfuel
  rw [Int.zero_add] at hsearch
  have htwo : 2 ≤ x.headSize := by
    unfold Addition.headSize
    split <;> omega
  -- the value is behind the head, which the search skips but for its last two octets
  have hval : read res (RADIUS_PACKET_HEADSIZE + hop (attrL res) 0 n +
        (if x.type = RADIUS_ATTR_VENDOR_SPECIFIC then 6 else 0) + 2)
      ((res (RADIUS_PACKET_HEADSIZE + hop (attrL res) 0 n +
        (if x.type = RADIUS_ATTR_VENDOR_SPECIFIC then 6 else 0) + 1)).toNat - 2) = v := by
    rw [← hp.value]
    by_cases hv : x.type = RADIUS_ATTR_VENDOR_SPECIFIC
    · rw [if_pos hv, hvl hv, (vendor_copied hv).1]
      rfl
    · have hsize : x.headSize = 2 := if_pos hv
      rw [attrL, hsize] at hL
      rw [if_neg hv, Nat.add_zero, hL, hsize]
      rfl
  constructor
  · rintro ⟨i, t, hi, hget, hgiven⟩
    obtain rfl := h.number hext (by omega) hi
    rw [radiusGetattr, map_val, hsearch] at hget
    obtain rfl := Option.some.inj (Option.some.inj hget)
    rw [← hval, hgiven]
  · rintro rfl
    exact ⟨n, _, hat.symm, by rw [radiusGetattr, map_val, hsearch], hval⟩

/-- What a call that fits does at the end of a tiled packet, as it is seen in all that the packet is extended to. -/
theorem Tiled.call (h : Tiled pack n) (hfit : HasSpace pack x) (hext : Extends (radiusAddattr pack x) res) :
    radiusLength (radiusAddattr pack x) = radiusLength pack + x.size + x.headSize ∧
      (radiusAddattr pack x (radiusLength pack + 1)).toNat = x.size + x.headSize ∧
      (Found res (radiusLength pack) x ↔ valueLeft pack x = x.octets x.size) := by
  have hhead : RADIUS_PACKET_HEADSIZE = 20 := rfl
  have hpos := h.pos
  have htwo : 2 ≤ x.headSize := by
    unfold Addition.headSize
    split <;> omega
  obtain ⟨hlen, hplaced⟩ := addattr_placed hfit (by omega)
  refine ⟨hlen, ?_, ?_⟩
  · rw [← h.ends] at hplaced ⊢
    exact hplaced.wanted.2.1
  · have hlonger := hext.length
    exact found_iff h ((addattr_extends (by omega)).trans hext)
      (hplaced.extends (by omega) (by omega) hext) (by omega)

theorem mem_attrWrites {w : Nat × List UInt8} : w ∈ attrWrites pack x ↔
    HasSpace pack x ∧ (w = (radiusLength pack, x.head) ∨ w = (radiusLength pack + x.copyAt, x.copied)) := by
  rw [attrWrites]
  split
  · rename_i hfit
    simp [hfit]
  · rename_i hfit
    simp [hfit]

theorem tiled_foldl (h : Tiled pack n) (pre : List Addition) : ∃ k, Tiled (pre.foldl radiusAddattr pack) k := by
  induction pre generalizing pack n with
  | nil => exact ⟨n, h⟩
  | cons x pre ih =>
    by_cases hfit : HasSpace pack x
    · exact ih (h.add hfit)
    · rw [List.foldl_cons, addattr_full hfit]
      exact ih h

theorem extends_foldl (h : Tiled pack n) (pre suf : List Addition) :
    Extends (pre.foldl radiusAddattr pack) ((pre ++ suf).foldl radiusAddattr pack) := by
  have hhead : RADIUS_PACKET_HEADSIZE = 20 := rfl
  obtain ⟨k, hk⟩ := tiled_foldl h pre
  have hpos := hk.pos
  rw [List.foldl_append]
  exact foldl_extends (by omega)

theorem size_foldl {xs : List Addition} (h : Tiled pack n) (hsize : radiusLength pack ≤ RADIUS_PACKET_SIZE)
    (hsound : ∀ pre x suf, xs = pre ++ x :: suf → VendorSound (pre.foldl radiusAddattr pack) x) :
    ∀ pre suf, xs = pre ++ suf → radiusLength (pre.foldl radiusAddattr pack) ≤ RADIUS_PACKET_SIZE := by
  intro pre
  induction pre using List.reverseRecOn with
  | nil => exact fun _ _ => hsize
  | append_singleton pre x ih =>
    intro suf hxs
    rw [List.append_assoc, List.singleton_append] at hxs
    have hbefore := ih _ hxs
    obtain ⟨k, hk⟩ := tiled_foldl h pre
    rw [List.foldl_append, List.foldl_cons, List.foldl_nil]
    by_cases hfit : HasSpace (pre.foldl radiusAddattr pack) x
    · rw [(hk.call hfit .refl).1]
      by_cases hv : x.type = RADIUS_ATTR_VENDOR_SPECIFIC
      · rw [(vendor_copied hv).1]
        exact (hsound pre x suf hxs hv hfit).2.2.1
      · rw [show x.headSize = 2 from if_pos hv]
        exact hfit
    · rw [addattr_full hfit]
      exact hbefore

/-- For every packet of attributes and every sequence of calls. -/
theorem encodes_iff {xs : List Addition} (h : Tiled pack n) (hsize : radiusLength pack ≤ RADIUS_PACKET_SIZE) :
    Encodes pack xs ↔
      ∀ pre x suf, xs = pre ++ x :: suf → VendorSound (pre.foldl radiusAddattr pack) x := by
  constructor
  · intro he pre x suf hxs
    obtain ⟨k, hk⟩ := tiled_foldl h pre
    have hres := extends_foldl h (pre ++ [x]) suf
    rw [List.append_assoc, List.singleton_append, ← hxs, List.foldl_append, List.foldl_cons, List.foldl_nil] at hres
    have hnext := he.size (pre ++ [x]) suf (by rw [hxs, List.append_assoc, List.singleton_append])
    have hin := he.inside pre x suf hxs
    rw [List.foldl_append, List.foldl_cons, List.foldl_nil] at hnext hin
    refine .of_value ?_ ?_ ?_
    · intro hv hfit
      rw [(hk.call hfit hres).1, (vendor_copied hv).1] at hnext
      exact hnext
    · intro hfit
      obtain ⟨-, hcall, -⟩ := hk.call hfit hres
      have hw := (hin _ (mem_attrWrites.mpr ⟨hfit, .inr rfl⟩)).2
      rw [hcall] at hw
      dsimp only at hw
      omega
    · intro hfit
      exact (hk.call hfit hres).2.2.mp (he.found pre x suf hxs hfit)
  · intro hsound
    refine ⟨size_foldl h hsize hsound, ?_, ?_⟩
    · intro pre x suf hxs w hw
      obtain ⟨k, hk⟩ := tiled_foldl h pre
      obtain ⟨hfit, hw⟩ := mem_attrWrites.mp hw
      have hle := ((hsound pre x suf hxs).value hfit).1
      obtain ⟨-, hcall, -⟩ := hk.call hfit .refl
      rw [List.foldl_append, List.foldl_cons, List.foldl_nil, hcall]
      rcases hw with rfl | rfl
      · refine ⟨Nat.le_refl _, ?_⟩
        rw [head_length]
        omega
      · exact ⟨Nat.le_add_right _ _, by dsimp only; omega⟩
    · intro pre x suf hxs hfit
      obtain ⟨k, hk⟩ := tiled_foldl h pre
      have hres := extends_foldl h (pre ++ [x]) suf
      rw [List.append_assoc, List.singleton_append, ← hxs, List.foldl_append, List.foldl_cons, List.foldl_nil] at hres
      exact (hk.call hfit hres).2.2.mpr ((hsound pre x suf hxs).value hfit).2

end

/-- A new Access-Request, and two attributes of it. -/
def newRequest : Packet := radiusPacketInit (fun _ => 0) 1

def userName : Addition := { type := RADIUS_ATTR_USER_NAME, data := some fun _ => 97, dlen := 5 }

def longVendor : Addition :=
  { type := RADIUS_ATTR_VENDOR_SPECIFIC, vendor_id := 2011, vendor_type := 1, data := some fun _ => 97, dlen := 246 }

theorem newRequest_tiled : Tiled newRequest 0 where
  ends := by decide
  attr _ hj := absurd hj (Nat.not_lt_zero _)

theorem encodes_iff_request : Encodes newRequest [userName, longVendor] ↔
    ∀ pre x suf, [userName, longVendor] = pre ++ x :: suf →
      VendorSound (pre.foldl radiusAddattr newRequest) x :=
  encodes_iff newRequest_tiled (by decide)

/-- One octet more than the length octet says is copied. -/
theorem long_vendor_outside : ¬ Encodes newRequest [longVendor] := by
  intro he
  have hw := (he.inside [] longVendor [] rfl _ (mem_attrWrites.mpr ⟨by decide, .inr rfl⟩)).2
  exact absurd hw (by decide +kernel)

end Eag
end DaemonGroup
