import DaemonGroup.Wcpss.Reassembly

/-!
# DaemonGroup.Wcpss.Fragments

What `CWAssembleMessage` cuts up, `CWProtocolParseFragment` puts together: the fragments of a control
message may come in any order and more than once, and the call that gets the last one missing returns
the message (`fragments_reassemble`).

The two functions meet at `Cut`: the `j`th of `num` fragments has the octets from `j * P` on, at most
`P` of them, where `P` is a multiple of eight.
-/

namespace DaemonGroup
namespace Wcpss

open Lib

/-- The datagram with the octets `bs`, as it lies in the buffer. -/
def datagram (bs : Bytes) : Nat → UInt8 := fun i => bs.getD i 0

/-- The octets of a word, in network order. -/
def wordBytes (w : Word) : Bytes :=
  [UInt8.ofBitVec (w.extractLsb' 24 8), UInt8.ofBitVec (w.extractLsb' 16 8),
    UInt8.ofBitVec (w.extractLsb' 8 8), UInt8.ofBitVec (w.extractLsb' 0 8)]

/-- The octets of a transport header without wireless header. -/
def headerBytes (v : CWProtocolTransportHeaderValues) : Bytes :=
  wordBytes (transportWord1 v) ++ wordBytes (transportWord2 v)

/-! ## Headers -/

section
variable {v : CWProtocolTransportHeaderValues} {data : Bytes}

theorem length_headerBytes : (headerBytes v).length = 8 := rfl

theorem cwAssembleTransportHeader_bytes {m : Bool} {h : CWProtocolMessage}
    (hv : v.bindingValuesPtr = none) (hh : cwAssembleTransportHeader m v = some h) :
    h.bytes = headerBytes v := by
  cases m with
  | false => cases hh
  | true =>
    simp only [cwAssembleTransportHeader, hv, if_true] at hh
    obtain rfl := Option.some.inj hh
    rfl

theorem word_append (w : Word) :
    (w.extractLsb' 24 8 ++ w.extractLsb' 16 8 ++ w.extractLsb' 8 8 ++ w.extractLsb' 0 8 : Word) = w := by
  refine BitVec.eq_of_getLsbD_eq fun i hi => ?_
  simp only [BitVec.getLsbD_append, BitVec.getLsbD_extractLsb']
  by_cases h1 : i < 8
  · simp [h1]
  · by_cases h2 : i < 16
    · have e1 : i - 8 < 8 := by omega
      have e2 : 8 + (i - 8) = i := by omega
      simp [h1, e1, e2]
    · by_cases h3 : i < 24
      · have e0 : ¬i - 8 < 8 := by omega
        have e1 : i - 8 - 8 < 8 := by omega
        have e2 : 16 + (i - 8 - 8) = i := by omega
        simp [h1, e0, e1, e2]
      · have e0 : ¬i - 8 < 8 := by omega
        have e1 : ¬i - 8 - 8 < 8 := by omega
        have e2 : i - 8 - 8 - 8 < 8 := by omega
        have e3 : 24 + (i - 8 - 8 - 8) = i := by omega
        simp [h1, e0, e1, e2, e3]

theorem retrieve32_word1 :
    cwProtocolRetrieve32 (datagram (headerBytes v ++ data)) 0 = transportWord1 v :=
  word_append (transportWord1 v)

theorem retrieve32_word2 :
    cwProtocolRetrieve32 (datagram (headerBytes v ++ data)) 4 = transportWord2 v :=
  word_append (transportWord2 v)

theorem read_datagram :
    Bytes.read (datagram (headerBytes v ++ data)) 8 ((headerBytes v ++ data).length - 8) = data := by
  have hlen : (headerBytes v ++ data).length - 8 = data.length := by
    rw [List.length_append, length_headerBytes]
    omega
  rw [hlen]
  refine List.ext_getElem (by simp) fun i h1 h2 => ?_
  have h3 : (headerBytes v).length ≤ 8 + i := by rw [length_headerBytes]; omega
  simp [Bytes.read, datagram, List.getElem_append_right h3, length_headerBytes, h2]

/-- The second word holds the ID and the offset, cut to their fields. -/
theorem transportWord2_fields :
    (cwGetField32 (transportWord2 v) CW_TRANSPORT_HEADER_FRAGMENT_ID).toNat =
        v.fragmentID.toNat % 65536 ∧
      (cwGetField32 (transportWord2 v) CW_TRANSPORT_HEADER_FRAGMENT_OFFSET).toNat =
        v.fragmentOffset.toNat % 8192 := by
  constructor
  · rw [cwGetField32, transportWord2, cwSetField32, cwSetField32, cwSetField32,
      getField_setField_of_disjoint (by decide) (by decide) (by decide),
      getField_setField_of_disjoint (by decide) (by decide) (by decide),
      getField_setField_self (by decide) (getField_zero (by decide)), toNat_lowMask_and]
    rfl
  · rw [cwGetField32, transportWord2, cwSetField32, cwSetField32, cwSetField32,
      getField_setField_of_disjoint (by decide) (by decide) (by decide),
      getField_setField_self (by decide) ?_, toNat_lowMask_and]
    · rfl
    · rw [getField_setField_of_disjoint (by decide) (by decide) (by decide),
        getField_zero (by decide)]

/-- The first word of a header without wireless header: a version, a length and a flag for it that
the parser takes. -/
theorem transportWord1_fields (hb : v.bindingValuesPtr = none)
    (hf : v.isFragment = 0 ∨ v.isFragment = 1) (hl : v.last = 0 ∨ v.last = 1) :
    cwGetField32 (transportWord1 v) CW_TRANSPORT_HEADER_VERSION = CW_PROTOCOL_VERSION ∧
      cwGetField32 (transportWord1 v) CW_TRANSPORT_HEADER_HLEN = 2 ∧
      cwGetField32 (transportWord1 v) CW_TRANSPORT_HEADER_F = v.isFragment ∧
      cwGetField32 (transportWord1 v) CW_TRANSPORT_HEADER_L = v.last := by
  by_cases hp : v.payloadType = CW_PACKET_PLAIN <;>
    rcases hf with hf | hf <;> rcases hl with hl | hl <;>
    · simp only [transportWord1, hb, hf, hl, hp, if_true, if_false, Option.isSome_none,
        Bool.false_eq_true]
      decide

theorem cwParseTransportHeader_ok {m : Bool} (hb : v.bindingValuesPtr = none)
    (hf : v.isFragment = 0 ∨ v.isFragment = 1) (hl : v.last = 0 ∨ v.last = 1) :
    cwParseTransportHeader m (datagram (headerBytes v ++ data)) =
      .ok { values := headerValues (datagram (headerBytes v ++ data)), offset := 8 } := by
  obtain ⟨hver, hlen, -, -⟩ := transportWord1_fields hb hf hl
  have hlen4 : ¬((2 : Word) = 4 ∧
      cwGetField32 (transportWord1 v) CW_TRANSPORT_HEADER_W = 1) := fun h => absurd h.1 (by decide)
  simp only [cwParseTransportHeader, retrieve32_word1, hver, hlen, ne_eq, not_true_eq_false,
    if_false, if_true, hlen4]

end

/-! ## The cut -/

/-- A message is cut into `num` fragments of `P` octets, the last one with what is left. -/
structure Cut (msg : Bytes) (P num : Nat) : Prop where
  pos : 0 < P
  align : 8 ∣ P
  two : 2 ≤ num
  lower : (num - 1) * P < msg.length
  upper : msg.length ≤ num * P
  small : msg.length ≤ 65535

/-- The octets of the `j`th fragment. -/
def piece (msg : Bytes) (P j : Nat) : Bytes := (msg.drop (j * P)).take P

/-- The `j`th fragment, as the receiver keeps it. -/
def frag (fragID : Word) (msg : Bytes) (P num j : Nat) : CWProtocolFragment where
  fragmentID := fragID.toNat % 65536
  fragmentOffset := j * P / 8
  last := if j < num - 1 then 0 else 1
  data := piece msg P j

/-- The octets of the `j`th fragment on the wire. -/
def fragBytes (fragID is_crypted : Word) (msg : Bytes) (P num j : Nat) : Bytes :=
  headerBytes (fragmentValues fragID is_crypted (j * P) (!decide (j < num - 1))) ++ piece msg P j

theorem fragmentsNum_cut {PMTU : Int} {msg : Bytes} {P num : Nat}
    (h : fragmentsNum PMTU msg.length = (num, P)) (hnum : num ≠ 1) (hpos : 0 < msg.length)
    (hsmall : msg.length ≤ 65535) : Cut msg P num := by
  unfold fragmentsNum at h
  dsimp only at h
  generalize PMTU - gMaxDTLSHeaderSize - gMaxCAPWAPHeaderSize = Q at h
  split at h
  · generalize hR : (Q / 8 * 8).toNat = R at h
    split at h
    · obtain ⟨rfl, -⟩ := Prod.mk.inj h
      exact absurd rfl hnum
    · rename_i hQ hR0
      obtain ⟨hn, rfl⟩ := Prod.mk.inj h
      have hRpos : 0 < R := Nat.pos_of_ne_zero hR0
      have hdiv := Nat.div_add_mod msg.length R
      have hmod := Nat.mod_lt msg.length hRpos
      have hR8 : 8 ∣ R := by omega
      generalize hq : msg.length / R = q at hn hdiv
      generalize hr : msg.length % R = r at hn hdiv hmod
      have hmul : ∀ k, k * R = R * k := fun k => Nat.mul_comm k R
      have hsucc : R * (q + 1) = R * q + R := Nat.mul_succ R q
      by_cases hr0 : r = 0
      · obtain rfl : num = q := by rw [← hn, if_neg (by simpa using hr0), Nat.add_zero]
        have hnum0 : num ≠ 0 := by
          rintro rfl
          omega
        obtain ⟨k, rfl⟩ : ∃ k, num = k + 1 := ⟨num - 1, by omega⟩
        have hk : R * (k + 1) = R * k + R := Nat.mul_succ R k
        exact ⟨hRpos, hR8, by omega, by rw [hmul, Nat.add_sub_cancel]; omega,
          by rw [hmul]; omega, hsmall⟩
      · obtain rfl : num = q + 1 := by rw [← hn, if_pos hr0]
        exact ⟨hRpos, hR8, by omega, by rw [hmul, Nat.add_sub_cancel]; omega,
          by rw [hmul]; omega, hsmall⟩
  · obtain ⟨rfl, -⟩ := Prod.mk.inj h
    exact absurd rfl hnum

section
variable {msg : Bytes} {P num j i : Nat} {fragID is_crypted : Word}

theorem Cut.mul_lt (h : Cut msg P num) (hj : j < num) : j * P < msg.length := by
  have h1 : j * P ≤ (num - 1) * P := Nat.mul_le_mul_right P (by omega)
  have := h.lower
  omega

theorem length_piece : (piece msg P j).length = min P (msg.length - j * P) := by
  rw [piece, List.length_take, List.length_drop]

theorem Cut.length_piece_pos (h : Cut msg P num) (hj : j < num) : 0 < (piece msg P j).length := by
  have := h.mul_lt hj
  have := h.pos
  rw [length_piece]
  omega

theorem Cut.length_piece_of_lt (h : Cut msg P num) (hj : j < num - 1) :
    (piece msg P j).length = P := by
  have h1 : (j + 1) * P ≤ (num - 1) * P := Nat.mul_le_mul_right P hj
  have h2 : (j + 1) * P = j * P + P := Nat.succ_mul j P
  have := h.lower
  rw [length_piece]
  omega

theorem Cut.length_piece_last (h : Cut msg P num) :
    (num - 1) * P + (piece msg P (num - 1)).length = msg.length := by
  have h1 : num * P = (num - 1) * P + P := by
    conv_lhs => rw [show num = num - 1 + 1 from by have := h.two; omega, Nat.succ_mul]
  have := h.lower
  have := h.upper
  rw [length_piece]
  omega

/-- The pieces, put together, are the message. -/
theorem flatMap_piece (k : Nat) :
    (List.range k).flatMap (piece msg P) = msg.take (k * P) := by
  induction k with
  | zero => simp
  | succ k ih =>
    rw [List.range_succ, List.flatMap_append, ih, Nat.succ_mul, List.take_add]
    simp [piece]

theorem Cut.flatMap_piece_num (h : Cut msg P num) :
    (List.range num).flatMap (piece msg P) = msg := by
  rw [flatMap_piece, List.take_of_length_le h.upper]

/-- Offsets count in eights, and lose nothing. -/
theorem Cut.offset (h : Cut msg P num) : j * P / 8 = j * (P / 8) ∧ j * P / 8 * 8 = j * P := by
  obtain ⟨q, rfl⟩ := h.align
  have h1 : j * (8 * q) = 8 * (j * q) := Nat.mul_left_comm j 8 q
  constructor
  · rw [h1, Nat.mul_div_cancel_left _ (by decide), Nat.mul_div_cancel_left _ (by decide)]
  · rw [h1, Nat.mul_div_cancel_left _ (by decide), Nat.mul_comm]

/-- A fragment is found by its offset. -/
theorem Cut.offset_inj (h : Cut msg P num) (he : j * P / 8 = i * P / 8) : j = i := by
  obtain ⟨-, hj⟩ := h.offset (j := j)
  obtain ⟨-, hi⟩ := h.offset (j := i)
  have hmul : j * P = i * P := by omega
  exact Nat.eq_of_mul_eq_mul_right h.pos hmul

/-- The loop of `CWAssembleMessage` makes the pieces, one after the other. -/
theorem assembleFragments_bytes (h : Cut msg P num) {mem : AssembleAlloc → Bool} {left : Nat}
    {ms : List CWProtocolMessage} (hi : i + left = num)
    (hms : assembleFragments mem fragID is_crypted P num msg left i (i * P) = some ms) :
    ms.map (·.bytes) = (List.range' i left).map (fragBytes fragID is_crypted msg P num) := by
  induction left generalizing i ms with
  | zero =>
    obtain rfl := Option.some.inj hms
    rfl
  | succ left ih =>
    unfold assembleFragments at hms
    dsimp only at hms
    split at hms
    · cases hms
    · rename_i hdr hhdr
      have hbytes := cwAssembleTransportHeader_bytes rfl hhdr
      split at hms
      · -- what the code cuts off is the piece, also at the end
        have hcut : (msg.drop (i * P)).take
            (if (!decide (i < num - 1)) = true then msg.length - (num - 1) * P else P) =
            piece msg P i := by
          by_cases hlast : i < num - 1
          · simp [hlast, piece]
          · have hin : i = num - 1 := by omega
            have hlen := h.length_piece_last
            rw [length_piece] at hlen
            subst hin
            simp only [hlast, decide_false, Bool.not_false, if_true, piece]
            rw [List.take_of_length_le (Nat.le_of_eq List.length_drop), List.take_of_length_le]
            rw [List.length_drop]
            omega
        obtain ⟨rest, hrest, rfl⟩ := Option.map_eq_some_iff.mp hms
        have hfirst : (headerBytes (fragmentValues fragID is_crypted (i * P)
            (!decide (i < num - 1)))) ++ piece msg P i =
            fragBytes fragID is_crypted msg P num i := rfl
        rw [List.map_cons, List.range'_succ, List.map_cons, ← hfirst]
        congr 1
        · simp only [cwProtocolStoreRawBytes, cwProtocolStoreMessage, List.nil_append, hbytes, hcut]
        · cases left with
          | zero =>
            obtain rfl := Option.some.inj hrest
            rfl
          | succ left =>
            have hlt : i < num - 1 := by omega
            simp only [hlt, decide_true, Bool.not_true, Bool.false_eq_true, if_false] at hrest
            exact ih (by omega) (by rw [Nat.succ_mul]; exact hrest)
      · cases hms

/-! ## The list of the receiver -/

/-- A call with a datagram of the octets `bs`, where there is memory. -/
def recv (bs : Bytes) : Call := ⟨fun _ => true, datagram bs, bs.length⟩

theorem fragmentOf_fragBytes (h : Cut msg P num) (hj : j < num) :
    fragmentOf (datagram (fragBytes fragID is_crypted msg P num j))
      (fragBytes fragID is_crypted msg P num j).length
      { values := headerValues (datagram (fragBytes fragID is_crypted msg P num j)), offset := 8 } =
    frag fragID msg P num j := by
  have hlast : (fragmentValues fragID is_crypted (j * P) (!decide (j < num - 1))).last = 0 ∨
      (fragmentValues fragID is_crypted (j * P) (!decide (j < num - 1))).last = 1 := by
    cases hd : decide (j < num - 1) <;> simp [fragmentValues]
  obtain ⟨-, -, -, hl⟩ := transportWord1_fields
    (v := fragmentValues fragID is_crypted (j * P) (!decide (j < num - 1))) rfl (.inr rfl) hlast
  obtain ⟨hid, hoff⟩ := transportWord2_fields
    (v := fragmentValues fragID is_crypted (j * P) (!decide (j < num - 1)))
  have hlt := h.mul_lt hj
  have hsmall := h.small
  have hmod : j * P / 8 % 2 ^ 32 % 8192 = j * P / 8 := by
    rw [Nat.mod_eq_of_lt (by omega), Nat.mod_eq_of_lt (by omega)]
  unfold fragmentOf fragBytes headerValues frag
  simp only [retrieve32_word1, retrieve32_word2, read_datagram, hid, hoff, hl]
  congr 1
  by_cases hd : j < num - 1 <;> simp [fragmentValues, hd]

/-- What a call with the `j`th fragment does to a list of others. -/
theorem entry_fragBytes (h : Cut msg P num) (fragID is_crypted : Word) (hj : j < num)
    (s : List Nat) :
    (recv (fragBytes fragID is_crypted msg P num j)).entry (s.map (frag fragID msg P num)) =
      if j ∈ s then .ret (.error { code := .NEED_RESOURCE }) (s.map (frag fragID msg P num))
      else checkFragments (fun _ => true) ((j :: s).map (frag fragID msg P num)) := by
  have hlast : (fragmentValues fragID is_crypted (j * P) (!decide (j < num - 1))).last = 0 ∨
      (fragmentValues fragID is_crypted (j * P) (!decide (j < num - 1))).last = 1 := by
    cases hd : decide (j < num - 1) <;> simp [fragmentValues]
  obtain ⟨-, -, hf, -⟩ := transportWord1_fields
    (v := fragmentValues fragID is_crypted (j * P) (!decide (j < num - 1))) rfl (.inr rfl) hlast
  have hfrag : (headerValues (datagram (fragBytes fragID is_crypted msg P num j))).isFragment ≠ 0 := by
    simp only [fragBytes, headerValues, retrieve32_word1, hf]
    exact (by decide : (1 : Word) ≠ 0)
  have hpos : (0 : Int) ≤ (fragBytes fragID is_crypted msg P num j).length - (8 : Nat) := by
    rw [fragBytes, List.length_append, length_headerBytes]
    omega
  have hadd : ∀ l, addFragment (fun _ => true)
      ((fragBytes fragID is_crypted msg P num j).length - (8 : Nat)) (frag fragID msg P num j) l =
      checkFragments (fun _ => true) (frag fragID msg P num j :: l) := by
    intro l
    simp only [addFragment, malloc, hpos, decide_true, Bool.and_self, if_true]
  have hany : ∀ l : List Nat, (l.map (frag fragID msg P num)).any
      (cwCompareFragment (frag fragID msg P num j)) = decide (j ∈ l) := by
    intro l
    rw [Bool.eq_iff_iff, List.any_eq_true, decide_eq_true_eq]
    constructor
    · rintro ⟨x, hx, hc⟩
      obtain ⟨i, hi, rfl⟩ := List.mem_map.mp hx
      have hoff : j * P / 8 = i * P / 8 := by simpa [cwCompareFragment, frag] using hc
      exact h.offset_inj hoff ▸ hi
    · intro hmem
      exact ⟨_, List.mem_map_of_mem hmem, by simp [cwCompareFragment]⟩
  have hparse : cwParseTransportHeader true (datagram (fragBytes fragID is_crypted msg P num j)) =
      .ok { values := headerValues (datagram (fragBytes fragID is_crypted msg P num j)),
            offset := 8 } := cwParseTransportHeader_ok rfl (.inr rfl) hlast
  unfold Call.entry recv parseEntry
  simp only [hparse, hfrag, if_false, if_true, fragmentOf_fragBytes h hj, hadd]
  cases s with
  | nil => simp
  | cons i s =>
    have hid : (frag fragID msg P num i).fragmentID = (frag fragID msg P num j).fragmentID := rfl
    have hany' := hany (i :: s)
    rw [List.map_cons] at hany'
    simp only [List.map_cons, hid, if_true, hany', decide_eq_true_eq]

/-- The octets in the fragments `s` are those of their pieces. -/
theorem currentSize_frag (s : List Nat) :
    currentSize (s.map (frag fragID msg P num)) = (s.map fun j => (piece msg P j).length).sum := by
  rw [currentSize, List.map_map]
  rfl

theorem Cut.sum_piece (h : Cut msg P num) :
    ((List.range num).map fun j => (piece msg P j).length).sum = msg.length := by
  conv_rhs => rw [← h.flatMap_piece_num]
  rw [List.length_flatMap]

theorem Cut.totalSize_frag (h : Cut msg P num) {s : List Nat} (hs : ∀ j ∈ s, j < num) :
    totalSize (s.map (frag fragID msg P num)) = if num - 1 ∈ s then msg.length else 0 := by
  have hlast : ∀ {j}, j < num → (frag fragID msg P num j).last = 1 → j = num - 1 := by
    intro j hj h1
    by_contra hne
    have hlt : j < num - 1 := by omega
    simp [frag, hlt] at h1
  have hend : ∀ f ∈ s.map (frag fragID msg P num), f.last = 1 → f.start + f.dataLen = msg.length := by
    intro f hf h1
    obtain ⟨j, hj, rfl⟩ := List.mem_map.mp hf
    obtain rfl := hlast (hs j hj) h1
    rw [CWProtocolFragment.start, CWProtocolFragment.dataLen, frag, (h.offset (j := num - 1)).2]
    exact h.length_piece_last
  rw [totalSize_eq hend]
  refine if_congr ⟨?_, fun hmem => ?_⟩ rfl rfl
  · rintro ⟨f, hf, h1⟩
    obtain ⟨j, hj, rfl⟩ := List.mem_map.mp hf
    exact hlast (hs j hj) h1 ▸ hj
  · exact ⟨_, List.mem_map_of_mem hmem, by simp [frag]⟩

/-- While a fragment is missing, the octets are fewer than the last one promises. -/
theorem Cut.check_missing (h : Cut msg P num) {s : List Nat} (hnd : s.Nodup)
    (hs : ∀ j ∈ s, j < num) (hj : j < num) (hmiss : j ∉ s) :
    checkFragments (fun _ => true) (s.map (frag fragID msg P num)) =
      .ret (.error { code := .NEED_RESOURCE }) (s.map (frag fragID msg P num)) := by
  have hlt : currentSize (s.map (frag fragID msg P num)) < msg.length := by
    have hsub : (j :: s).Subperm (List.range num) := by
      refine List.Nodup.subperm (List.nodup_cons.mpr ⟨hmiss, hnd⟩) fun i hi => ?_
      rcases List.mem_cons.mp hi with rfl | hi
      · exact List.mem_range.mpr hj
      · exact List.mem_range.mpr (hs i hi)
    have hle : ((j :: s).map fun j => (piece msg P j).length).sum ≤
        ((List.range num).map fun j => (piece msg P j).length).sum := sum_le_of_subperm hsub
    have hpos := h.length_piece_pos hj
    rw [h.sum_piece, List.map_cons, List.sum_cons] at hle
    rw [currentSize_frag]
    omega
  unfold checkFragments
  rw [h.totalSize_frag hs]
  by_cases hmem : num - 1 ∈ s
  · rw [if_pos hmem, if_neg (by omega), if_pos (by omega)]
  · rw [if_neg hmem, if_pos rfl]

/-- With all of them, the loop that copies begins. -/
theorem Cut.check_all (h : Cut msg P num) {s : List Nat} (hnd : s.Nodup)
    (hs : ∀ j, j ∈ s ↔ j < num) :
    checkFragments (fun _ => true) (s.map (frag fragID msg P num)) =
      .copy msg.length (s.map (frag fragID msg P num)) := by
  have htwo := h.two
  have hperm : s.Perm (List.range num) :=
    (List.perm_ext_iff_of_nodup hnd List.nodup_range).mpr fun j => by rw [hs, List.mem_range]
  have hcur : currentSize (s.map (frag fragID msg P num)) = msg.length := by
    rw [currentSize_frag, ← h.sum_piece]
    exact (hperm.map _).sum_eq
  have hpos := h.lower
  have hlast : num - 1 ∈ s := (hs _).mpr (by omega)
  unfold checkFragments
  rw [h.totalSize_frag fun j hj => (hs j).mp hj, if_pos hlast, if_neg (by omega),
    if_neg (by rw [hcur]; simp)]
  simp [malloc]

/-- The loop that copies finds one piece after the other. -/
theorem Cut.copyLoop (h : Cut msg P num) (fragID : Word) {s : List Nat} (hs : ∀ j, j ∈ s ↔ j < num) {n left : Nat}
    (hi : i + left = num) (hleft : 0 < left) (hn : left ≤ n) (size : Nat) :
    copyLoop (s.map (frag fragID msg P num)) n
        { currentOffset := i * (P / 8)
          reassembledMsg := { size := size, bytes := msg.take (i * P) } } =
      .inr (.ok { size := size, bytes := msg }) := by
  induction left generalizing i n with
  | zero => exact absurd hleft (by omega)
  | succ left ih =>
    obtain ⟨n, rfl⟩ : ∃ k, n = k + 1 := ⟨n - 1, by omega⟩
    have hfind : (s.map (frag fragID msg P num)).find?
        (fun f => f.fragmentOffset == i * (P / 8)) = some (frag fragID msg P num i) := by
      have hmem : frag fragID msg P num i ∈ s.map (frag fragID msg P num) :=
        List.mem_map_of_mem ((hs i).mpr (by omega))
      cases hf : (s.map (frag fragID msg P num)).find? (fun f => f.fragmentOffset == i * (P / 8)) with
      | none =>
        have := List.find?_eq_none.mp hf _ hmem
        simp [frag, (h.offset (j := i)).1] at this
      | some f =>
        obtain ⟨j, -, rfl⟩ := List.mem_map.mp (List.mem_of_find?_eq_some hf)
        have hoff : j * P / 8 = i * (P / 8) := by simpa [frag] using List.find?_some hf
        rw [h.offset_inj (hoff.trans (h.offset (j := i)).1.symm)]
    have hbytes : msg.take (i * P) ++ piece msg P i = msg.take ((i + 1) * P) := by
      rw [Nat.succ_mul, List.take_add]
      rfl
    by_cases hlast : i < num - 1
    · have hstep : copyStep (s.map (frag fragID msg P num))
          { currentOffset := i * (P / 8)
            reassembledMsg := { size := size, bytes := msg.take (i * P) } } =
          .inl { currentOffset := (i + 1) * (P / 8)
                 reassembledMsg := { size := size, bytes := msg.take ((i + 1) * P) } } := by
        have hlen : (frag fragID msg P num i).dataLen = P := h.length_piece_of_lt hlast
        unfold copyStep
        rw [hfind, ← hbytes, Nat.succ_mul]
        simp only [hlen, cwProtocolStoreRawBytes]
        simp [frag, hlast]
      simp only [Wcpss.copyLoop, hstep]
      exact ih (by omega) (by omega) (by omega)
    · have hin : (i + 1) * P = num * P := by rw [show i + 1 = num by omega]
      have hstep : copyStep (s.map (frag fragID msg P num))
          { currentOffset := i * (P / 8)
            reassembledMsg := { size := size, bytes := msg.take (i * P) } } =
          .inr (.ok { size := size, bytes := msg }) := by
        unfold copyStep
        rw [hfind]
        have hwhole : msg.take (i * P) ++ piece msg P i = msg := by
          rw [hbytes, hin, List.take_of_length_le h.upper]
        simp [frag, hlast, cwProtocolStoreRawBytes, hwhole]
      simp only [Wcpss.copyLoop, hstep]

/-! ## Runs -/

/-- Calls with the datagrams `ds`, one after the other: what they return, and the list left. -/
def feed (n : Nat) : List Bytes → List CWProtocolFragment →
    Option (List (Except CWError CWProtocolMessage) × List CWProtocolFragment)
  | [], l => some ([], l)
  | bs :: ds, l =>
    match (recv bs).parse n l with
    | none => none
    | some p => (feed n ds p.list).map fun r => (p.ret :: r.1, r.2)

/-- A fragment that leaves others missing is kept, or dropped if it is there already. -/
theorem Cut.parse_missing (h : Cut msg P num) (fragID is_crypted : Word) {s : List Nat}
    (hnd : s.Nodup) (hs : ∀ j ∈ s, j < num) (hj : j < num) (hmiss : ∃ i < num, i ∉ s ∧ i ≠ j) (n : Nat) :
    ∃ s' : List Nat, s'.Nodup ∧ (∀ i, i ∈ s' ↔ i = j ∨ i ∈ s) ∧
      (recv (fragBytes fragID is_crypted msg P num j)).parse n (s.map (frag fragID msg P num)) =
        some ⟨.error { code := .NEED_RESOURCE }, s'.map (frag fragID msg P num),
          dataFlag (datagram (fragBytes fragID is_crypted msg P num j))⟩ := by
  obtain ⟨i, hi, his, hij⟩ := hmiss
  have hentry := entry_fragBytes h fragID is_crypted hj s
  rw [Call.entry] at hentry
  rw [Call.parse, cwProtocolParseFragment]
  by_cases hmem : j ∈ s
  · refine ⟨s, hnd, fun i => ⟨.inr, ?_⟩, ?_⟩
    · rintro (rfl | h')
      · exact hmem
      · exact h'
    · rw [hentry, if_pos hmem]
      rfl
  · have hnd' : (j :: s).Nodup := List.nodup_cons.mpr ⟨hmem, hnd⟩
    have hs' : ∀ x ∈ j :: s, x < num := by
      intro x hx
      rcases List.mem_cons.mp hx with rfl | hx
      · exact hj
      · exact hs x hx
    have hi' : i ∉ j :: s := by
      rw [List.mem_cons]
      rintro (rfl | h')
      · exact hij rfl
      · exact his h'
    refine ⟨j :: s, hnd', fun i => List.mem_cons, ?_⟩
    rw [hentry, if_neg hmem, h.check_missing hnd' hs' hi hi']
    rfl

/-- The fragment that was missing brings the message. -/
theorem Cut.parse_all (h : Cut msg P num) (fragID is_crypted : Word) {s : List Nat}
    (hnd : s.Nodup) (hs : ∀ j ∈ s, j < num) (hj : j < num) (hmiss : j ∉ s) (hall : ∀ i < num, i = j ∨ i ∈ s)
    {n : Nat} (hn : num ≤ n) :
    (recv (fragBytes fragID is_crypted msg P num j)).parse n (s.map (frag fragID msg P num)) =
      some ⟨.ok { size := msg.length, bytes := msg }, [],
        dataFlag (datagram (fragBytes fragID is_crypted msg P num j))⟩ := by
  have hmem : ∀ i, i ∈ j :: s ↔ i < num := by
    intro i
    rw [List.mem_cons]
    refine ⟨?_, hall i⟩
    rintro (rfl | h')
    · exact hj
    · exact hs i h'
  have hentry := entry_fragBytes h fragID is_crypted hj s
  have hcopy := h.copyLoop fragID hmem (Nat.zero_add num) (by omega) hn msg.length
  rw [Nat.zero_mul, Nat.zero_mul, List.take_zero] at hcopy
  rw [if_neg hmiss, h.check_all (List.nodup_cons.mpr ⟨hmiss, hnd⟩) hmem, Call.entry] at hentry
  rw [Call.parse, cwProtocolParseFragment, hentry]
  simp only [hcopy]
  rfl

/-- Fragments in any order and more than once, as long as one is missing. -/
theorem Cut.feed_missing (h : Cut msg P num) (fragID is_crypted : Word) {n : Nat} {pre s : List Nat}
    (hnd : s.Nodup) (hs : ∀ j ∈ s, j < num) (hpre : ∀ j ∈ pre, j < num) (hmiss : ∃ i < num, i ∉ s ∧ i ∉ pre) :
    ∃ s' : List Nat, s'.Nodup ∧ (∀ i, i ∈ s' ↔ i ∈ pre ∨ i ∈ s) ∧
      feed n (pre.map (fragBytes fragID is_crypted msg P num)) (s.map (frag fragID msg P num)) =
        some (List.replicate pre.length (.error { code := .NEED_RESOURCE }),
          s'.map (frag fragID msg P num)) := by
  induction pre generalizing s with
  | nil => exact ⟨s, hnd, by simp, rfl⟩
  | cons j pre ih =>
    obtain ⟨i, hi, his, hip⟩ := hmiss
    have hj := hpre j List.mem_cons_self
    obtain ⟨s₁, hnd₁, hs₁, hparse⟩ := h.parse_missing fragID is_crypted hnd hs hj
      ⟨i, hi, his, fun he => hip (he ▸ List.mem_cons_self)⟩ n
    have hlt₁ : ∀ x ∈ s₁, x < num := by
      intro x hx
      rcases (hs₁ x).mp hx with rfl | hx
      · exact hj
      · exact hs x hx
    have hi₁ : i ∉ s₁ := by
      rw [hs₁]
      rintro (rfl | h')
      · exact hip List.mem_cons_self
      · exact his h'
    obtain ⟨s₂, hnd₂, hs₂, hfeed⟩ := ih hnd₁ hlt₁ (fun x hx => hpre x (List.mem_cons_of_mem _ hx))
      ⟨i, hi, hi₁, fun h' => hip (List.mem_cons_of_mem _ h')⟩
    refine ⟨s₂, hnd₂, fun x => ?_, ?_⟩
    · rw [hs₂, hs₁, List.mem_cons]
      tauto
    · rw [List.map_cons, feed, hparse]
      simp only [hfeed, Option.map_some, List.length_cons, List.replicate_succ]

/-- All the fragments but the `j`th, in any order and more than once, and then this one. -/
theorem Cut.reassemble (h : Cut msg P num) (fragID is_crypted : Word) {pre : List Nat} {n : Nat}
    (hpre : ∀ i ∈ pre, i < num) (hj : j < num) (hmiss : j ∉ pre) (hall : ∀ i < num, i = j ∨ i ∈ pre)
    (hn : num ≤ n) :
    ∃ l flag, feed n (pre.map (fragBytes fragID is_crypted msg P num)) [] =
        some (List.replicate pre.length (.error { code := .NEED_RESOURCE }), l) ∧
      (recv (fragBytes fragID is_crypted msg P num j)).parse n l =
        some ⟨.ok { size := msg.length, bytes := msg }, [], flag⟩ := by
  obtain ⟨s, hnd, hs, hfeed⟩ := h.feed_missing fragID is_crypted List.nodup_nil
    (fun i hi => absurd hi List.not_mem_nil) hpre ⟨j, hj, List.not_mem_nil, hmiss⟩
  have hs' : ∀ i, i ∈ s ↔ i ∈ pre := fun i => by rw [hs]; simp
  exact ⟨_, _, hfeed, h.parse_all fragID is_crypted hnd (fun i hi => hpre i ((hs' i).mp hi)) hj
    (fun hi => hmiss ((hs' j).mp hi)) (fun i hi => (hall i hi).imp_right (hs' i).mpr) hn⟩

end

/-- The octets of a control message: the control header, then the elements. -/
def controlBytes (seqNum msgTypeValue : Word) (msgElems msgElemsBinding : List Bytes) : Bytes :=
  let v : CWControlHeaderValues :=
    { messageTypeValue := msgTypeValue, seqNum := seqNum.setWidth 8,
      msgElemsLen := BitVec.ofNat 16 (msgElems.flatten.length + msgElemsBinding.flatten.length) }
  (cwAssembleControlHeader true v).elim [] (·.bytes) ++ msgElems.flatten ++ msgElemsBinding.flatten

theorem foldl_store (m : CWProtocolMessage) (l : List Bytes) :
    l.foldl cwProtocolStoreRawBytes m = { m with bytes := m.bytes ++ l.flatten } := by
  induction l generalizing m with
  | nil => simp
  | cons x l ih =>
    rw [List.foldl_cons, ih]
    simp [cwProtocolStoreRawBytes]

section
variable {mem : AssembleAlloc → Bool} {fragID seqNum msgTypeValue is_crypted : Word} {PMTU : Int}
  {msgElems msgElemsBinding : List Bytes}

theorem controlMessage_bytes {m : CWProtocolMessage}
    (h : controlMessage mem seqNum msgTypeValue msgElems msgElemsBinding = some m) :
    m.bytes = controlBytes seqNum msgTypeValue msgElems msgElemsBinding := by
  unfold controlMessage at h
  rw [← List.length_flatten, ← List.length_flatten] at h
  dsimp only at h
  cases hm : mem .controlHdr with
  | false =>
    rw [hm] at h
    cases h
  | true =>
    rw [hm] at h
    unfold cwAssembleControlHeader at h
    simp only [if_true] at h
    split at h
    · obtain rfl := Option.some.inj h
      simp [foldl_store, cwProtocolStoreMessage, cwProtocolStoreRawBytes, controlBytes,
        cwAssembleControlHeader]
    · cases h

theorem controlBytes_pos :
    0 < (controlBytes seqNum msgTypeValue msgElems msgElemsBinding).length := by
  simp [controlBytes, cwAssembleControlHeader, cwProtocolStore8, cwProtocolStore16,
    cwProtocolStore32, cwProtocolStoreRawBytes]

/-- What the fragments are: the message alone in a datagram, or the pieces of a cut. -/
theorem cwAssembleMessage_cases {frags : List CWProtocolMessage}
    (h : cwAssembleMessage mem fragID PMTU seqNum msgTypeValue msgElems msgElemsBinding is_crypted =
      some frags)
    (hsmall : (controlBytes seqNum msgTypeValue msgElems msgElemsBinding).length ≤ 65535) :
    (∃ m, frags = [m] ∧ m.bytes = headerBytes { payloadType := is_crypted } ++
      controlBytes seqNum msgTypeValue msgElems msgElemsBinding) ∨
    (∃ P num, Cut (controlBytes seqNum msgTypeValue msgElems msgElemsBinding) P num ∧
      frags.map (·.bytes) = (List.range num).map (fragBytes fragID is_crypted
        (controlBytes seqNum msgTypeValue msgElems msgElemsBinding) P num)) := by
  unfold cwAssembleMessage at h
  cases hmsg : controlMessage mem seqNum msgTypeValue msgElems msgElemsBinding with
  | none =>
    rw [hmsg] at h
    cases h
  | some msg =>
    have hbytes := controlMessage_bytes hmsg
    rw [hmsg] at h
    simp only at h
    rw [CWProtocolMessage.offset, hbytes] at h
    obtain ⟨num, P, hnum⟩ : ∃ num P, fragmentsNum PMTU
        (controlBytes seqNum msgTypeValue msgElems msgElemsBinding).length = (num, P) := ⟨_, _, rfl⟩
    simp only [hnum] at h
    split at h
    · left
      split at h
      · split at h
        · cases h
        · rename_i hdr hhdr
          split at h
          · obtain rfl := Option.some.inj h
            refine ⟨_, rfl, ?_⟩
            rw [← cwAssembleTransportHeader_bytes rfl hhdr, ← hbytes]
            simp [cwProtocolStoreMessage, cwProtocolStoreRawBytes]
          · cases h
      · cases h
    · rename_i hone
      right
      have hcut := fragmentsNum_cut hnum hone controlBytes_pos hsmall
      split at h
      · refine ⟨P, num, hcut, ?_⟩
        rw [List.range_eq_range']
        exact assembleFragments_bytes hcut (Nat.zero_add num) (by rw [Nat.zero_mul]; exact h)
      · cases h

/-- A datagram that is the whole message is the message. -/
theorem parse_single {msg : Bytes} (n : Nat) (l : List CWProtocolFragment) :
    (recv (headerBytes { payloadType := is_crypted } ++ msg)).parse n l =
      some ⟨.ok { size := msg.length, bytes := msg }, l,
        dataFlag (datagram (headerBytes { payloadType := is_crypted } ++ msg))⟩ := by
  obtain ⟨-, -, hf, -⟩ := transportWord1_fields (v := { payloadType := is_crypted }) rfl (.inl rfl)
    (.inl rfl)
  have hfrag : (headerValues (datagram
      (headerBytes { payloadType := is_crypted } ++ msg))).isFragment = 0 := by
    simp only [headerValues, retrieve32_word1, hf]
  have hlen : ((headerBytes { payloadType := is_crypted } ++ msg).length : Int) - (8 : Nat) =
      msg.length := by
    rw [List.length_append, length_headerBytes]
    omega
  have hread : Bytes.read (datagram (headerBytes { payloadType := is_crypted } ++ msg)) 8
      msg.length = msg := by
    have hmsg : Bytes.read (datagram (headerBytes { payloadType := is_crypted } ++ msg)) 8
        ((headerBytes { payloadType := is_crypted } ++ msg).length - 8) = msg := read_datagram
    rwa [List.length_append, length_headerBytes, Nat.add_sub_cancel_left] at hmsg
  have hparse : cwParseTransportHeader true
      (datagram (headerBytes { payloadType := is_crypted } ++ msg)) =
      .ok { values := headerValues (datagram (headerBytes { payloadType := is_crypted } ++ msg)),
            offset := 8 } := cwParseTransportHeader_ok rfl (.inl rfl) (.inl rfl)
  simp only [Call.parse, recv, cwProtocolParseFragment, parseEntry, hparse, hfrag, if_true, hlen,
    malloc, Int.natCast_nonneg, decide_true, Bool.and_self, Int.toNat_natCast, hread,
    cwProtocolStoreRawBytes, List.nil_append]

/-- The fragments of a control message, in any order and more than once: each call asks for more but
the one with the last fragment missing, which returns the message and leaves the list empty. -/
theorem fragments_reassemble {frags : List CWProtocolMessage}
    (h : cwAssembleMessage mem fragID PMTU seqNum msgTypeValue msgElems msgElemsBinding is_crypted =
      some frags)
    (hsmall : (controlBytes seqNum msgTypeValue msgElems msgElemsBinding).length ≤ 65535)
    (pre : List (Fin frags.length)) (k : Fin frags.length)
    (hmiss : ∃ j, j ∉ pre) (hall : ∀ j, j = k ∨ j ∈ pre) {n : Nat} (hn : frags.length ≤ n) :
    ∃ l m flag,
      feed n (pre.map fun j => (frags.get j).bytes) [] =
        some (List.replicate pre.length (.error { code := .NEED_RESOURCE }), l) ∧
      (recv (frags.get k).bytes).parse n l = some ⟨.ok m, [], flag⟩ ∧
      m.bytes = controlBytes seqNum msgTypeValue msgElems msgElemsBinding := by
  obtain ⟨j, hj⟩ := hmiss
  obtain rfl : j = k := (hall j).resolve_right hj
  rcases cwAssembleMessage_cases h hsmall with ⟨m, rfl, hm⟩ | ⟨P, num, hcut, hbytes⟩
  · -- one fragment: there is no other to come first
    have hone : ∀ i : Fin [m].length, i = j := fun i => Fin.ext (by
      have := i.isLt
      have := j.isLt
      simp only [List.length_singleton] at *
      omega)
    obtain rfl : pre = [] := List.eq_nil_iff_forall_not_mem.mpr fun i hi => hj (hone i ▸ hi)
    have hget : [m].get j = m := by
      rw [hone ⟨0, by simp⟩ |>.symm]
      rfl
    rw [hget, hm]
    exact ⟨[], _, _, rfl, parse_single n [], rfl⟩
  · have hnum : frags.length = num := by simpa using congrArg List.length hbytes
    have hget : ∀ i : Fin frags.length, (frags.get i).bytes = fragBytes fragID is_crypted
        (controlBytes seqNum msgTypeValue msgElems msgElemsBinding) P num i.val := by
      intro i
      have hi := List.getElem_of_eq hbytes (i := i.val) (by simp)
      simpa using hi
    have hpre : pre.map (fun i => (frags.get i).bytes) = (pre.map Fin.val).map
        (fragBytes fragID is_crypted (controlBytes seqNum msgTypeValue msgElems msgElemsBinding)
          P num) := by
      rw [List.map_map]
      exact List.map_congr_left fun i _ => hget i
    have hjpre : j.val ∉ pre.map Fin.val := by
      rw [List.mem_map]
      rintro ⟨i, hi, he⟩
      exact hj (Fin.ext he ▸ hi)
    obtain ⟨l, flag, hfeed, hparse⟩ := hcut.reassemble fragID is_crypted
      (fun x hx => by
        obtain ⟨i, -, rfl⟩ := List.mem_map.mp hx
        exact hnum ▸ i.isLt) (hnum ▸ j.isLt) hjpre
      (fun x hx => by
        rcases hall ⟨x, hnum ▸ hx⟩ with he | he
        · exact .inl (congrArg Fin.val he)
        · exact .inr (List.mem_map.mpr ⟨_, he, rfl⟩)) (hnum ▸ hn)
    rw [List.length_map] at hfeed
    rw [hpre, hget j]
    exact ⟨l, _, flag, hfeed, hparse, rfl⟩

end

/-- The two fragments of a control message with one element, the last one first and twice. -/
theorem fragments_reassemble_sample :
    ∃ l m flag,
      feed 2 [[0, 16, 3, 192, 0, 7, 0, 8, 1, 2, 3, 4], [0, 16, 3, 192, 0, 7, 0, 8, 1, 2, 3, 4]] [] =
        some (List.replicate 2 (.error { code := .NEED_RESOURCE }), l) ∧
      (recv [0, 16, 3, 128, 0, 7, 0, 0, 0, 0, 0, 1, 2, 0, 7, 0]).parse 2 l =
        some ⟨.ok m, [], flag⟩ ∧
      m.bytes = controlBytes 2 1 [[1, 2, 3, 4]] [] := by
  have h : cwAssembleMessage (fun _ => true) 7 41 2 1 [[1, 2, 3, 4]] [] 0 =
      some [⟨16, [0, 16, 3, 128, 0, 7, 0, 0, 0, 0, 0, 1, 2, 0, 7, 0]⟩,
        ⟨12, [0, 16, 3, 192, 0, 7, 0, 8, 1, 2, 3, 4]⟩] := by decide
  exact fragments_reassemble h (by decide) [1, 1] 0 ⟨0, by decide⟩ (by decide) (by decide)

end Wcpss
end DaemonGroup
