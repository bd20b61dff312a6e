import DaemonGroup.Stp.Transmit

/-!
# DaemonGroup.Stp.Sent

What a frame that has been sent holds: the stores that a frame is made of do not touch each other
(`standard_apart`, `cisco_apart`), so that every member is what was stored in it (`Holds.octets`), and
is read as the value that it was made of.
-/

namespace DaemonGroup
namespace Stp

open Lib

/-! ## Values -/

section
variable {m : Frame} {f : Member} {l : Octets}

theorem word16_beShort {x : UInt16} : word16 (beShort x) = x := by
  have hx := x.toNat_lt
  apply UInt16.toNat_inj.mp
  simp only [word16, beShort, List.getD_cons_zero, List.getD_cons_succ, UInt16.toNat_ofNat',
    UInt16.toNat_toUInt8, UInt16.toNat_shiftRight, Nat.shiftRight_eq_div_pow]
  simp only [UInt16.reduceToNat, Nat.reduceMod, Nat.reducePow]
  omega

theorem word32_beLong {x : UInt32} : word32 (beLong x) = x := by
  have hx := x.toNat_lt
  apply UInt32.toNat_inj.mp
  simp only [word32, beLong, List.getD_cons_zero, List.getD_cons_succ, UInt32.toNat_ofNat',
    UInt32.toNat_toUInt8, UInt32.toNat_shiftRight, Nat.shiftRight_eq_div_pow]
  simp only [UInt32.reduceToNat, Nat.reduceMod, Nat.reducePow]
  omega

@[simp] theorem length_octets_bridgeId {b : BridgeId} : b.octets.length = 8 := by
  simp [BridgeId.octets, beShort, b.addr.2]

theorem ntohs_of_octets {x : UInt16} (h : f.octets m = beShort x) : (f.ntohs m).val = x := by
  rw [ntohs_val, h, word16_beShort]

theorem ntohl_of_octets {x : UInt32} (h : f.octets m = beLong x) : (f.ntohl m).val = x := by
  have hval : (f.ntohl m).val = word32 (f.octets m) := rfl
  rw [hval, h, word32_beLong]

theorem byte_of_octets {x : UInt8} (h : f.octets m = [x]) : (f.byte m).val = x := by
  have hval : (f.byte m).val = (f.octets m).getD 0 0 := rfl
  rw [hval, h]
  rfl

theorem bridgeId_of_octets {b : BridgeId} (hf : f.size = 8) (h : f.octets m = b.octets) :
    (stpVectorGetBridgeId m f).val = b := by
  have hsplit : Bytes.read m f.off 2 ++ Bytes.read m (f.off + 2) 6 = beShort b.prio ++ b.addr := by
    rw [← Bytes.read_add]
    rw [Member.octets, hf] at h
    exact h
  obtain ⟨hprio, haddr⟩ := List.append_inj hsplit (by simp [beShort])
  have hval : (stpVectorGetBridgeId m f).val =
      ⟨word16 (Bytes.read m f.off 2), macAt m (f.off + 2)⟩ := rfl
  have hmac : macAt m (f.off + 2) = b.addr := Subtype.ext haddr
  rw [hval, hprio, word16_beShort, hmac]

theorem shift_back {x : UInt16} (h : x.toNat < 256) : x <<< 8 >>> 8 = x := by
  apply UInt16.toNat_inj.mp
  simp only [UInt16.toNat_shiftRight, UInt16.toNat_shiftLeft, Nat.shiftRight_eq_div_pow,
    Nat.shiftLeft_eq]
  simp only [UInt16.reduceToNat, Nat.reduceMod, Nat.reducePow]
  omega

/-- The upper four bits of an identifier come through the octet that they are sent in. -/
theorem nibble_back {x : UInt16} :
    (((x &&& 0xf000) >>> 8).toUInt8 &&& 0xf0).toUInt16 <<< 8 &&& 0xf000 = x &&& 0xf000 := by
  apply UInt16.toNat_inj.mp
  simp only [UInt16.toNat_and, UInt16.toNat_shiftLeft, UInt8.toNat_toUInt16, UInt8.toNat_and,
    UInt16.toNat_toUInt8, UInt16.toNat_shiftRight, UInt16.reduceToNat, UInt8.reduceToNat,
    Nat.reduceMod]
  apply Nat.eq_of_testBit_eq
  intro i
  simp only [Nat.testBit_and, Nat.testBit_mod_two_pow, Nat.testBit_shiftLeft,
    Nat.testBit_shiftRight]
  have hmask : ∀ i < 16, Nat.testBit 61440 i = decide (12 ≤ i) := by decide
  have hoctet : ∀ i < 8, Nat.testBit 240 i = decide (4 ≤ i) := by decide
  by_cases hi : i < 16
  · by_cases hhigh : 12 ≤ i
    · have hback : 8 + (i - 8) = i := by omega
      have hi8 : i - 8 < 8 := by omega
      have h4 : 4 ≤ i - 8 := by omega
      have h8 : i ≥ 8 := by omega
      simp [hback, hmask i hi, hoctet _ hi8, hi, hi8, h4, h8, hhigh]
    · simp [hmask i hi, hhigh]
  · have hzero : Nat.testBit 61440 i = false :=
      Nat.testBit_lt_two_pow (Nat.lt_of_lt_of_le (by decide) (Nat.pow_le_pow_right (by decide)
        (Nat.not_lt.mp hi)))
    simp [hzero]

/-- An identifier is its upper four bits and the rest. -/
theorem nibble_add {x : UInt16} : (x &&& 0xf000) + (x &&& 0x0fff) = x := by
  apply UInt16.toBitVec_inj.mp
  have hzero : (x.toBitVec &&& 0xf000#16) &&& (x.toBitVec &&& 0x0fff#16) = 0#16 := by
    rw [BitVec.and_comm x.toBitVec, BitVec.and_assoc, ← BitVec.and_assoc x.toBitVec,
      BitVec.and_self, BitVec.and_comm x.toBitVec, ← BitVec.and_assoc]
    simp
  show (x.toBitVec &&& 0xf000#16) + (x.toBitVec &&& 0x0fff#16) = x.toBitVec
  have hones : 0xf000#16 ||| 0x0fff#16 = BitVec.allOnes 16 := by decide
  rw [BitVec.add_eq_or_of_and_eq_zero _ _ hzero, ← BitVec.and_or_distrib_left, hones,
    BitVec.and_allOnes]

/-- An identifier is put together from the upper four bits exactly if the rest is what is added. -/
theorem nibble_add_iff {x v : UInt16} : (x &&& 0xf000) + v = x ↔ x &&& 0x0fff = v := by
  constructor
  · intro h
    exact (UInt16.add_right_inj (x &&& 0xf000)).mp (nibble_add.trans h.symm)
  · rintro rfl
    exact nibble_add

end

/-! ## What is in a frame -/

section
variable {m : Frame} {f : Member} {l : Octets} {s : FrameStores} {b : Transmitter} {i : Nat}
  {q : TxPort} {l' : List TxPort} {digest : OctetArray 16} {pkt_len : UInt16}

/-- The frame holds what the stores have put there. -/
def Holds (m : Frame) (s : FrameStores) : Prop := ∀ w ∈ s, Bytes.read m w.1 w.2.length = w.2

theorem Holds.octets (h : Holds m s) (hw : f.store l ∈ s) (hl : l.length = f.size) :
    f.octets m = l := by
  rw [Member.octets, ← hl]
  exact h _ hw

/-- The `i`-th store is that of `l` to the member `f`. -/
theorem Holds.at (h : Holds m s) (i : Nat) (hw : s[i]? = some (f.store l))
    (hl : l.length = f.size) : f.octets m = l :=
  h.octets (List.mem_of_getElem? hw) hl

theorem holds_stores (h : s.Pairwise Apart) : Holds (stores gBpduPacket s) s :=
  fun _ hw => read_stores_of_mem h hw

theorem standard_records : (each stpVectorSetMstVector i l').Pairwise Apart ∧
    ∀ w ∈ each stpVectorSetMstVector i l', Bpdu.MCfgMsg i ≤ w.1 := by
  have hin : ∀ i q, ∀ w ∈ stpVectorSetMstVector i q,
      Bpdu.MCfgMsg i ≤ w.1 ∧ w.1 + w.2.length ≤ Bpdu.MCfgMsg (i + 1) := by
    intro i q
    simp [stpVectorSetMstVector, stpVectorSetBridgeId, Member.store, Member.shift, beLong,
      Bpdu.msti_flags, Bpdu.msti_region_root_id, Bpdu.msti_internal_root_path_cost,
      Bpdu.msti_bridge_priority, Bpdu.msti_port_priority, Bpdu.msti_remaining_hops, Bpdu.MCfgMsg]
    omega
  have hmono : Monotone Bpdu.MCfgMsg := fun i j h => by
    unfold Bpdu.MCfgMsg
    omega
  constructor
  · refine pairwise_each hin hmono fun i q => pairwise_apart_iff.mpr ?_
    simp [stpVectorSetMstVector, stpVectorSetBridgeId, Member.store, Member.shift, beLong, span,
      Separate, Bpdu.msti_flags, Bpdu.msti_region_root_id, Bpdu.msti_internal_root_path_cost,
      Bpdu.msti_bridge_priority, Bpdu.msti_port_priority, Bpdu.msti_remaining_hops]
  · intro w hw
    obtain ⟨k, q, -, hq⟩ := mem_each hw
    exact (hmono (Nat.le_add_right i k)).trans (hin _ q w hq).1

theorem cisco_records : (each stpVectorCiscoSetMstVector i l').Pairwise Apart ∧
    ∀ w ∈ each stpVectorCiscoSetMstVector i l', CiscoBpdu.MCfgMsg i ≤ w.1 := by
  have hin : ∀ i q, ∀ w ∈ stpVectorCiscoSetMstVector i q,
      CiscoBpdu.MCfgMsg i ≤ w.1 ∧ w.1 + w.2.length ≤ CiscoBpdu.MCfgMsg (i + 1) := by
    intro i q
    simp [stpVectorCiscoSetMstVector, stpVectorSetBridgeId, Member.store, Member.shift, beLong,
      beShort, CiscoBpdu.msti_id, CiscoBpdu.msti_flags, CiscoBpdu.msti_region_root_id,
      CiscoBpdu.msti_internal_root_path_cost, CiscoBpdu.msti_bridge_priority,
      CiscoBpdu.msti_port_priority, CiscoBpdu.msti_remaining_hops, CiscoBpdu.MCfgMsg]
    omega
  have hmono : Monotone CiscoBpdu.MCfgMsg := fun i j h => by
    unfold CiscoBpdu.MCfgMsg
    omega
  constructor
  · refine pairwise_each hin hmono fun i q => pairwise_apart_iff.mpr ?_
    simp [stpVectorCiscoSetMstVector, stpVectorSetBridgeId, Member.store, Member.shift, beLong,
      beShort, span, Separate, CiscoBpdu.msti_id, CiscoBpdu.msti_flags,
      CiscoBpdu.msti_region_root_id, CiscoBpdu.msti_internal_root_path_cost,
      CiscoBpdu.msti_bridge_priority, CiscoBpdu.msti_port_priority, CiscoBpdu.msti_remaining_hops]
  · intro w hw
    obtain ⟨k, q, -, hq⟩ := mem_each hw
    exact (hmono (Nat.le_add_right i k)).trans (hin _ q w hq).1

theorem standard_spans : (b.standardHead ++ b.standardTail).map span =
    [(21, 1), (22, 8), (30, 4), (34, 8), (42, 2), (44, 2), (46, 2), (48, 2), (50, 2), (55, 51),
      (110, 8), (106, 4), (118, 1), (53, 2), (6, 6), (20, 1), (19, 1), (12, 2)] := by
  simp [Transmitter.standardHead, Transmitter.standardTail, stpTransmitBuildConfigBpduMstp,
    stpTransmitBuildBpduHeader, stpVectorSetBridgeId, stpTimesSet, Member.store, span, beLong,
    beShort, b.src_mac.2, b.MstConfigId.2]
  decide

theorem standard_apart : b.standardStores.Pairwise Apart := by
  refine pairwise_middle (k := Bpdu.MCfgMsg 0) ?_ ?_ standard_records.1 standard_records.2
  · rw [standard_spans]
    decide
  · rw [standard_spans]
    decide

theorem length_ciscoDigest : (b.ciscoDigest digest).length = 16 := by
  unfold Transmitter.ciscoDigest
  split
  · split
    · exact digest.2
    · exact b.digest.2
  · simp [b.MstConfigId.2]

theorem cisco_spans : (b.ciscoHead digest ++ b.ciscoTail).map span =
    [(21, 1), (22, 8), (30, 4), (34, 8), (42, 2), (44, 2), (46, 2), (48, 2), (50, 2), (56, 32),
      (88, 2), (90, 16), (106, 8), (114, 4), (118, 1), (54, 2), (6, 6), (20, 1), (19, 1),
      (12, 2)] := by
  simp [Transmitter.ciscoHead, Transmitter.ciscoTail, stpTransmitBuildCiscoConfigBpduMstp,
    stpTransmitBuildBpduHeader, stpVectorSetBridgeId, stpTimesSet, Member.store, span, beLong,
    beShort, b.src_mac.2, b.MstConfigId.2, length_ciscoDigest]
  decide

theorem cisco_apart : (b.ciscoStores digest).Pairwise Apart := by
  refine pairwise_middle (k := CiscoBpdu.MCfgMsg 0) ?_ ?_ cisco_records.1 cisco_records.2
  · rw [cisco_spans]
    decide
  · rw [cisco_spans]
    decide

/-- The octets from 14 to 18 and the octet 52 are those of `g_bpdu_packet`. -/
theorem standard_base : Bytes.read (stores gBpduPacket b.standardStores) 14 5 =
      [BPDU_L_SAP, BPDU_L_SAP, LLC_UI, 0, 0] ∧
    Bytes.read (stores gBpduPacket b.standardStores) 52 1 = [0] := by
  constructor
  · refine (read_stores_of_clear (clear_middle ?_ ?_ standard_records.2)).trans rfl
    · rw [standard_spans]
      decide
    · decide
  · refine (read_stores_of_clear (clear_middle ?_ ?_ standard_records.2)).trans rfl
    · rw [standard_spans]
      decide
    · decide

theorem cisco_base : Bytes.read (stores gBpduPacket (b.ciscoStores digest)) 14 5 =
      [BPDU_L_SAP, BPDU_L_SAP, LLC_UI, 0, 0] ∧
    Bytes.read (stores gBpduPacket (b.ciscoStores digest)) 52 1 = [0] := by
  constructor
  · refine (read_stores_of_clear (clear_middle ?_ ?_ cisco_records.2)).trans rfl
    · rw [cisco_spans]
      decide
    · decide
  · refine (read_stores_of_clear (clear_middle ?_ ?_ cisco_records.2)).trans rfl
    · rw [cisco_spans]
      decide
    · decide

/-- What the header check sees of a frame that is built with `pkt_len` octets of message. -/
structure Headed (m : Frame) (pkt_len : UInt16) : Prop where
  length : Bpdu.len8023.octets m = beShort (pkt_len + 3)
  llc : m 14 = BPDU_L_SAP ∧ m 15 = BPDU_L_SAP ∧ m 16 = LLC_UI
  protocol : m 17 = 0 ∧ m 18 = 0
  version : m 19 = BPDU_VERSION_MULTI_ID
  type : m 20 = BPDU_RSTP
  ver_1_len : m 52 = 0

theorem headed {s : FrameStores} (h : Holds m s)
    (hs : ∀ w ∈ stpTransmitBuildBpduHeader b.src_mac BPDU_MSTP pkt_len, w ∈ s)
    (hbase : Bytes.read m 14 5 = [BPDU_L_SAP, BPDU_L_SAP, LLC_UI, 0, 0])
    (hver1 : Bytes.read m 52 1 = [0]) : Headed m pkt_len := by
  have hlen := h.octets (hs _ (.tail _ (.tail _ (.tail _ (.head _))))) rfl
  have htype := h.octets (hs _ (.tail _ (.head _))) rfl
  have hversion := h.octets (hs _ (.tail _ (.tail _ (.head _)))) rfl
  obtain ⟨h14, h15, h16, h17, h18⟩ : m 14 = BPDU_L_SAP ∧ m 15 = BPDU_L_SAP ∧ m 16 = LLC_UI ∧
      m 17 = 0 ∧ m 18 = 0 := by
    simpa [Bytes.read, List.range_succ] using hbase
  refine ⟨hlen, ⟨h14, h15, h16⟩, ⟨h17, h18⟩, ?_, ?_, ?_⟩
  · exact List.head_eq_of_cons_eq hversion
  · exact List.head_eq_of_cons_eq htype
  · exact List.head_eq_of_cons_eq hver1

/-- The records that a frame says it has are those that are in it. -/
theorem mstCnt_records {n k : Nat} (hk : 0 < k) (hk26 : k ≤ 26) (hn : n ≤ 64) :
    mstCnt (UInt16.ofNat (64 + k * n)) k = n := by
  have hle : k * n ≤ 26 * 64 := Nat.mul_le_mul hk26 hn
  have hval : (UInt16.ofNat (64 + k * n)).toNat = 64 + k * n := by
    rw [UInt16.toNat_ofNat']
    omega
  have hsub : ((64 + k * n : Nat) : Int) - 64 = (n : Int) * k := by
    push_cast
    rw [Int.mul_comm]
    omega
  rw [mstCnt, hval, hsub]
  exact Int.mul_tdiv_cancel _ (by omega)

/-- What a frame is taken for. -/
theorem Headed.frameType {cisco : Bool} {junk : UInt8} (h : Headed m pkt_len)
    (hlow : 86 ≤ pkt_len.toNat) (hhigh : pkt_len.toNat < 2000) :
    m.type (pkt_len.toNat + frameHeaderSize) junk cisco =
      if pkt_len.toNat ≤ 1497 then
        if 0 ≤ mstCnt (m.version3Length cisco) 16 ∧ mstCnt (m.version3Length cisco) 16 ≤ 64 then
          some BPDU_MSTP
        else some BPDU_RSTP
      else some junk := by
  have hlength : (word16 (Bpdu.len8023.octets m)).toNat = pkt_len.toNat + 3 := by
    rw [h.length, word16_beShort]
    simp only [UInt16.toNat_add, UInt16.reduceToNat]
    omega
  have hwf : m.wellFormed (pkt_len.toNat + frameHeaderSize) ↔ pkt_len.toNat ≤ 1497 := by
    simp only [Frame.wellFormed, hlength, h.llc, h.protocol, MIN_BPDU, frameHeaderSize, and_true]
    omega
  have hmin : ¬ pkt_len.toNat + frameHeaderSize < MIN_BPDU := by
    simp only [MIN_BPDU, frameHeaderSize]
    omega
  rw [Frame.type, if_neg hmin]
  by_cases hle : pkt_len.toNat ≤ 1497
  · have h103 : 103 ≤ pkt_len.toNat + frameHeaderSize := by
      simp only [frameHeaderSize]
      omega
    rw [if_neg (not_not.mpr (hwf.mpr hle)), if_pos hle, h.type, h.version, if_neg (by decide),
      if_neg (by decide), if_neg (by decide), if_neg (by decide)]
    simp only [h103, h.ver_1_len, true_and]
  · rw [if_pos (fun hw => hle (hwf.mp hw)), if_neg hle]

theorem toNat_standardLength (hfits : b.nextMst.length ≤ 64) :
    b.standardLength.toNat = 102 + 16 * b.nextMst.length := by
  simp only [Transmitter.standardLength, Transmitter.version3Length, bpduHeaderSize, bpduBodySize,
    UInt16.toNat_add, UInt16.toNat_ofNat', UInt16.reduceToNat]
  omega

theorem toNat_ciscoLength (hfits : b.nextMst.length ≤ 64) :
    b.ciscoLength.toNat = 103 + 26 * b.nextMst.length := by
  simp only [Transmitter.ciscoLength, Transmitter.version3Length, bpduHeaderSize, bpduBodySize,
    UInt16.toNat_add, UInt16.toNat_ofNat', UInt16.reduceToNat]
  omega

theorem standard_headed : Headed (stores gBpduPacket b.standardStores) b.standardLength :=
  headed (holds_stores standard_apart) (fun _ hw => List.mem_append_right _ (.tail _ hw))
    standard_base.1 standard_base.2

theorem cisco_headed : Headed (stores gBpduPacket (b.ciscoStores digest)) b.ciscoLength :=
  headed (holds_stores cisco_apart) (fun _ hw => List.mem_append_right _ (.tail _ hw))
    cisco_base.1 cisco_base.2

/-- A frame of the standard format is taken for what it is. -/
theorem standard_type {junk : UInt8} (h : Holds m b.standardStores)
    (hhead : Headed m b.standardLength) (hfits : b.nextMst.length ≤ 64) :
    m.type (b.standardLength.toNat + frameHeaderSize) junk false = some BPDU_MSTP := by
  have hpkt := toNat_standardLength hfits
  have hoctets : Bpdu.version_3_length.octets m = beShort (b.version3Length 16) :=
    h.octets (List.mem_append_right _ (.head _)) rfl
  have hversion : m.version3Length false = b.version3Length 16 := by
    rw [Frame.version3Length, if_neg Bool.false_ne_true, hoctets, word16_beShort]
  have hcnt : mstCnt (b.version3Length 16) 16 = b.nextMst.length :=
    mstCnt_records (by decide) (by decide) hfits
  rw [hhead.frameType (by omega) (by omega), hversion, hcnt, if_pos (by omega), if_pos (by omega)]

/-- The header check counts records of the standard format, so that a frame of the other format is
not taken for what it is if it has forty records or more. -/
theorem cisco_type {junk : UInt8} (h : Holds m (b.ciscoStores digest))
    (hhead : Headed m b.ciscoLength) (hfits : b.nextMst.length ≤ 64) :
    m.type (b.ciscoLength.toNat + frameHeaderSize) junk true =
      if b.nextMst.length ≤ 39 then some BPDU_MSTP
      else if b.nextMst.length ≤ 53 then some BPDU_RSTP
      else some junk := by
  have hpkt := toNat_ciscoLength hfits
  have hoctets : CiscoBpdu.version_3_length.octets m = beShort (b.version3Length 26) :=
    h.octets (List.mem_append_right _ (.head _)) rfl
  have hversion : m.version3Length true = b.version3Length 26 := by
    rw [Frame.version3Length, if_pos rfl, hoctets, word16_beShort]
  have hcnt : mstCnt (b.version3Length 26) 16 = (26 * b.nextMst.length / 16 : Nat) := by
    have hval : (b.version3Length 26).toNat = 64 + 26 * b.nextMst.length := by
      rw [Transmitter.version3Length, UInt16.toNat_ofNat']
      omega
    have hsub : ((64 + 26 * b.nextMst.length : Nat) : Int) - 64 =
        ((26 * b.nextMst.length : Nat) : Int) := by
      omega
    rw [mstCnt, hval, hsub]
    rfl
  rw [hhead.frameType (by omega) (by omega), hversion, hcnt]
  by_cases h39 : b.nextMst.length ≤ 39
  · rw [if_pos (by omega), if_pos (by omega), if_pos h39]
  · by_cases h53 : b.nextMst.length ≤ 53
    · rw [if_pos (by omega), if_neg (by omega), if_neg h39, if_pos h53]
    · rw [if_neg (by omega), if_neg h39, if_neg h53]

end

end Stp
end DaemonGroup
