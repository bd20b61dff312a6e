import DaemonGroup.Stp.Digest
import Mathlib.Order.Interval.Finset.Nat

/-!
# DaemonGroup.Stp.Partition

Which instance a VLAN is in, said three times: by the bitmaps of the instances, by their counts and by
`g_VID2MSTID`. The three agree in every state of a run exactly if no step of it moves a VLAN
(`partition_iff`): a VLAN that leaves the CIST is taken from its map twice, and its count goes down by two.
-/

namespace DaemonGroup
namespace Stp

open Lib

/-- The VIDs of a map. -/
def VlanMap.vids (m : VlanMap) : Finset Nat := m.bmp.filter fun v => 1 ≤ v ∧ v ≤ STP_MAX_VID

/-- The map of the CIST that `stp_mgmt_stpm_create_cist` makes. -/
def VlanMap.full : VlanMap := ⟨Finset.range 4096, 4094⟩

namespace VlanMap

theorem vids_full : full.vids = Finset.Icc 1 4094 := by
  ext v
  rw [vids, Finset.mem_filter]
  simp only [full, STP_MAX_VID, Finset.mem_range, Finset.mem_Icc]
  omega

theorem vids_add {m : VlanMap} {VID : Nat} (h : VID ∈ m.bmp) : (m.add VID).vids = m.vids := by
  rw [vids, add, Finset.insert_eq_of_mem h, vids]

theorem vids_del {m : VlanMap} {VID : Nat} : (m.del VID).vids = m.vids.erase VID := by
  ext v
  simp [vids, del, and_assoc]

theorem full_count : full.ulcount.toNat = full.vids.card := by
  rw [vids_full, Nat.card_Icc]
  rfl

/-- A VLAN that the map has already is counted twice. -/
theorem full_add {VID : Nat} (h : VID ≤ STP_MAX_VID) :
    (full.add VID).ulcount.toNat ≠ (full.add VID).vids.card := by
  have hmem : VID ∈ full.bmp := by
    simp only [full, Finset.mem_range, STP_MAX_VID] at h ⊢
    omega
  have hcount : (full.add VID).ulcount.toNat = 4095 := rfl
  rw [vids_add hmem, vids_full, Nat.card_Icc, hcount]
  decide

/-- A VLAN that is taken twice is taken from the count twice. -/
theorem full_del_del {VID : Nat} (h : VID ≠ 0) (h' : VID ≤ STP_MAX_VID) :
    ((full.del VID).del VID).ulcount.toNat ≠ ((full.del VID).del VID).vids.card := by
  have hmem : VID ∈ Finset.Icc 1 4094 := by
    simp only [Finset.mem_Icc, STP_MAX_VID] at h' ⊢
    omega
  have hcount : ((full.del VID).del VID).ulcount.toNat = 4092 := by
    change ((4094 : UInt32) - 1 - 1).toNat = 4092
    decide
  rw [vids_del, vids_del, vids_full, Finset.erase_idem, Finset.card_erase_of_mem hmem, Nat.card_Icc,
    hcount]
  decide

/-- VLAN 0 has a bit in the map, and is not counted. -/
theorem full_del_zero : (full.del 0).ulcount.toNat ≠ (full.del 0).vids.card := by
  have hmem : 0 ∉ Finset.Icc 1 4094 := by simp
  rw [vids_del, vids_full, Finset.erase_eq_of_notMem hmem, Nat.card_Icc]
  decide

end VlanMap

namespace Registry

/-- Every VLAN is in one instance, the table says in which, and the counts are right. -/
structure Partition (r : Registry) : Prop where
  map : ∀ v, 1 ≤ v → v ≤ STP_MAX_VID → ∃ s ∈ r.bridges, v ∈ s.vlan_map.bmp ∧
    r.g_VID2MSTID v = s.vlan_id ∧ ∀ t ∈ r.bridges, v ∈ t.vlan_map.bmp → t = s
  count : ∀ s ∈ r.bridges, s.vlan_map.ulcount.toNat = s.vlan_map.vids.card

/-- All the VLANs are in the CIST, as at the start. -/
structure Unmoved (c : Chassis) (r : Registry) : Prop extends Wf c r where
  made : ∃ s ∈ r.bridges, s.vlan_id = STP_CIST_ID
  full : ∀ s ∈ r.bridges, s.vlan_map = if s.vlan_id = STP_CIST_ID then .full else ⟨∅, 0⟩
  table : ∀ v, r.g_VID2MSTID v = STP_CIST_ID

section
variable {r r' : Registry} {c : Chassis} {digest : List UInt16 → Octets} {a VID : Nat} {s t : Stpm}
  {MSTID : UInt16} {rc : Int} {junk : UInt32 → Int} {port_index : UInt32}

theorem Unmoved.partition (h : r.Unmoved c) : r.Partition := by
  obtain ⟨s, hs, hid⟩ := h.made
  have hmap : s.vlan_map = .full := by rw [h.full s hs, if_pos hid]
  refine ⟨fun v hv hv' => ⟨s, hs, ?_, by rw [h.table, hid], fun t ht hmem => ?_⟩, fun t ht => ?_⟩
  · simp only [STP_MAX_VID] at hv'
    rw [hmap]
    simp only [VlanMap.full, Finset.mem_range]
    omega
  · by_cases htid : t.vlan_id = STP_CIST_ID
    · exact h.eq_of_id ht hs (htid.trans hid.symm)
    · rw [h.full t ht, if_neg htid] at hmem
      simp at hmem
  · rw [h.full t ht]
    split
    · exact VlanMap.full_count
    · rfl

/-- Only ports have changed. -/
theorem Unmoved.of_kept (h : r.Unmoved c) (hk : Kept r r') (hwf : r'.Wf c) : r'.Unmoved c := by
  refine { toWf := hwf, made := ?_, full := fun t ht => ?_, table := fun v => ?_ }
  · obtain ⟨s, hs, hid⟩ := h.made
    obtain ⟨t, ht, -, htid, -⟩ := maps_mem hk.maps.symm hs
    exact ⟨t, ht, htid.trans hid⟩
  · obtain ⟨s, hs, -, hid, hmap, -⟩ := maps_mem hk.maps ht
    rw [← hmap, ← hid]
    exact h.full s hs
  · rw [← h.table v]
    exact congrFun (congrArg (·.2.2.1) hk.maps) v

theorem Unmoved.cist_ne_none (h : r.Unmoved c) : r.g_CISTBRIDGE ≠ none := by
  obtain ⟨s, hs, hid⟩ := h.made
  rw [(h.cist s hs).mp hid]
  simp

theorem Unmoved.getOrCreate (h : r.Unmoved c) (hmk : r.getOrCreate MSTID = some (a, r')) :
    r'.Unmoved c := by
  rw [Registry.getOrCreate] at hmk
  cases hget : r.stpStpmGetInstance MSTID with
  | some s =>
    rw [hget] at hmk
    cases hmk
    exact h
  | none =>
    rw [hget] at hmk
    have hc := (h.toRoll.created hmk).2
    have hmem : ∀ t, t ∈ r'.bridges ↔ t = r.newStpm MSTID ∨ t ∈ r.bridges := fun t => by
      rw [hc.bridges.mem_iff, List.mem_cons]
    obtain ⟨s, hs, hid⟩ := h.made
    have hne : MSTID ≠ STP_CIST_ID := fun he => no_instance hget s hs (hid.trans he.symm)
    refine
      { toWf := hc.wf h.toWf hget
        made := ⟨s, (hmem s).mpr (.inr hs), hid⟩
        full := fun t ht => ?_
        table := fun v => by rw [hc.table]; exact h.table v }
    rcases (hmem t).mp ht with rfl | ht
    · simp [newStpm, hne]
    · exact h.full t ht

/-! ## Ports for the CIST -/

theorem addport_place (h : r.stpPortMstAddport c MSTID port_index VID false = some (STP_OK, r')) :
    Place (c.stpPortGlobalIndexParse port_index) := by
  by_contra hno
  rw [stpPortMstAddport] at h
  simp only [not_place.mpr hno, or_true, if_true] at h
  cases h

theorem addPorts_place {l : List UInt32} (h : addPorts c MSTID VID l r = some (true, r')) :
    ∀ i ∈ l, Place (c.stpPortGlobalIndexParse i) := by
  induction l generalizing r with
  | nil => simp
  | cons i l ih =>
    simp only [addPorts, Option.bind_eq_bind, Option.bind_eq_some_iff] at h
    obtain ⟨x, hadd, h⟩ := h
    split at h
    · rename_i hok
      have hx : x = (STP_OK, x.2) := Prod.ext hok rfl
      rw [hx] at hadd
      intro j hj
      rcases List.mem_cons.mp hj with rfl | hj
      · exact addport_place hadd
      · exact ih h j hj
    · cases h

theorem Unmoved.addPorts {l : List UInt32} (h : r.Unmoved c)
    (hl : ∀ i ∈ l, Place (c.stpPortGlobalIndexParse i)) :
    ∃ r', addPorts c STP_CIST_ID VID l r = some (true, r') ∧ r'.Unmoved c := by
  induction l generalizing r with
  | nil => exact ⟨r, rfl, h⟩
  | cons i l ih =>
    obtain ⟨rc, r₁, hadd, hwf, -, hok⟩ := @Registry.Wf.addport _ _ VID STP_CIST_ID i false h.toWf fun hne => absurd rfl hne
    obtain rfl := hok (hl i (by simp)) h.made
    have h₁ := h.of_kept (addport_kept hadd) hwf
    obtain ⟨r', hr', h'⟩ := ih h₁ fun j hj => hl j (by simp [hj])
    refine ⟨r', ?_, h'⟩
    simp only [Registry.addPorts, hadd, Option.bind_eq_bind, Option.bind_some, if_true]
    exact hr'

/-- Ports of the CIST are not deleted with a VLAN. -/
theorem delPorts_cist {l : List UInt32}
    (h : delPorts c STP_CIST_ID VID junk l r = some (rc, r')) : rc = STP_OK ∧ r' = r := by
  induction l with
  | nil =>
    cases h
    exact ⟨rfl, rfl⟩
  | cons i l ih =>
    simp only [delPorts, Option.bind_eq_bind, Option.bind_eq_some_iff] at h
    obtain ⟨o, hfind, h⟩ := h
    cases o with
    | none => exact ih h
    | some b =>
      have hplace : ¬(c.stpPortGlobalIndexParse i < 0 ∨ c.stpPortGlobalIndexParse i > MAX_PORT_NUM) := by
        intro hbad
        simp [stpPortMstFindport, hbad] at hfind
      have hdel : r.stpPortMstDelport c STP_CIST_ID i VID (junk i) = some (STP_OK, r) := by
        have hsmall : ¬ STP_CIST_ID > STP_MSTI_MAX := by decide
        simp only [stpPortMstDelport, hplace, hsmall, or_self, if_false, if_true]
        rfl
      simp only [Option.bind_eq_some_iff] at h
      obtain ⟨p, -, x, hx, h⟩ := h
      rw [hdel] at hx
      cases hx
      rw [if_pos rfl] at h
      exact ih h

/-! ## The map of the CIST -/

def cistMap (r : Registry) : Option VlanMap := r.ofCist (·.vlan_map)

theorem Roll.ofCist {β : Type} {f : Stpm → β} (h : r.Roll) (hs : s ∈ r.bridges)
    (hid : s.vlan_id = STP_CIST_ID) : r.ofCist f = some (f s) := by
  rw [Registry.ofCist, (h.cist s hs).mp hid, Option.bind_some, h.stpm hs, Option.map_some]

theorem Roll.exists_cist (h : r.Roll) (hg : r.g_CISTBRIDGE = some a) :
    ∃ s ∈ r.bridges, s.addr = a ∧ s.vlan_id = STP_CIST_ID := by
  obtain ⟨s, hs, rfl⟩ := h.known a hg
  exact ⟨s, hs, rfl, (h.cist s hs).mpr hg⟩

/-- The count of the CIST is right. -/
theorem Partition.cistMap (h : r.Partition) (hr : r.Roll) {m : VlanMap} (hm : r.cistMap = some m) :
    m.ulcount.toNat = m.vids.card := by
  cases hg : r.g_CISTBRIDGE with
  | none => simp [Registry.cistMap, Registry.ofCist, hg] at hm
  | some a =>
    obtain ⟨s, hs, -, hid⟩ := hr.exists_cist hg
    rw [Registry.cistMap, hr.ofCist hs hid, Option.some.injEq] at hm
    rw [← hm]
    exact h.count s hs

theorem Unmoved.cistMap (h : r.Unmoved c) : r.cistMap = some .full := by
  obtain ⟨s, hs, hid⟩ := h.made
  rw [Registry.cistMap, h.toRoll.ofCist hs hid, h.full s hs, if_pos hid]

theorem Roll.setMap (h : r.Roll) {f : VlanMap → VlanMap} :
    (r.setStpm a fun s => { s with vlan_map := f s.vlan_map }).Roll :=
  h.setStpm (fun _ => rfl) fun _ => rfl

/-- The map of one instance is changed. -/
theorem Roll.setMap_cistMap (h : r.Roll) {f : VlanMap → VlanMap} :
    (r.setStpm a fun s => { s with vlan_map := f s.vlan_map }).cistMap =
      if r.g_CISTBRIDGE = some a then r.cistMap.map f else r.cistMap := by
  cases hg : r.g_CISTBRIDGE with
  | none => simp [Registry.cistMap, Registry.ofCist, hg, Registry.setStpm]
  | some b =>
    obtain ⟨s, hs, rfl, hid⟩ := h.exists_cist hg
    have hmem : (if s.addr = a then { s with vlan_map := f s.vlan_map } else s) ∈
        (r.setStpm a fun s => { s with vlan_map := f s.vlan_map }).bridges :=
      mem_setStpm.mpr ⟨s, hs, rfl⟩
    rw [Registry.cistMap, h.setMap.ofCist hmem (by split <;> exact hid), Registry.cistMap,
      h.ofCist hs hid]
    by_cases ha : s.addr = a <;> simp [ha]

theorem Roll.setCist_cistMap (h : r.Roll) {isAdd : Bool} :
    (r.stpMgmtSetCistVlanMap VID isAdd).cistMap =
      r.cistMap.map fun m => if isAdd then m.del VID else m.add VID := by
  rw [stpMgmtSetCistVlanMap]
  cases hg : r.g_CISTBRIDGE with
  | none => simp [Registry.cistMap, Registry.ofCist, hg]
  | some b =>
    refine (h.setMap_cistMap (f := fun m => if isAdd then m.del VID else m.add VID)).trans ?_
    rw [if_pos hg]

theorem Roll.mapVlan_cistMap (h : r.Roll) (hs : s ∈ r.bridges) : (r.mapVlan s VID).cistMap =
    r.cistMap.map fun m => if s.vlan_id = STP_CIST_ID then m.add VID else m.del VID := by
  have hset := h.setMap_cistMap (a := s.addr) (f := fun m => m.add VID)
  rw [Registry.mapVlan]
  by_cases hid : s.vlan_id = STP_CIST_ID
  · simp only [hid, if_true]
    rw [hset, if_pos ((h.cist s hs).mp hid)]
  · simp only [hid, if_false]
    have hroll := h.setMap (a := s.addr) (f := fun m => m.add VID)
    rw [hroll.setCist_cistMap, hset, if_neg (mt (h.cist s hs).mpr hid)]
    rfl

theorem Roll.unmapVlan_cistMap (h : r.Roll) (hs : s ∈ r.bridges) (hid : s.vlan_id = STP_CIST_ID) :
    (r.unmapVlan s VID).cistMap = r.cistMap.map fun m => m.del VID := by
  rw [Registry.unmapVlan]
  simp only [hid, if_true]
  exact (h.setMap_cistMap (f := fun m => m.del VID)).trans (if_pos ((h.cist s hs).mp hid))

theorem Kept.cistMap (h : Kept r r') : r'.cistMap = r.cistMap := h.ofCist fun _ => rfl

theorem Kept.cist (h : Kept r r') : r'.g_CISTBRIDGE = r.g_CISTBRIDGE := congrArg (·.2.1) h.maps

theorem Kept.table (h : Kept r r') : r'.g_VID2MSTID = r.g_VID2MSTID := congrArg (·.2.2.1) h.maps

/-- The CIST loses a VLAN. -/
theorem Roll.delVlan_cist (h : r.Roll) (hg : r.g_CISTBRIDGE = some a) (hVID : VID ≤ STP_MAX_VID)
    (hd : r.stpMgmtStpmDelVlan c a VID junk = some (rc, r')) :
    rc = STP_OK ∧ r'.g_CISTBRIDGE = some a ∧ r'.cistMap = r.cistMap.map fun m => m.del VID := by
  rcases delVlan_cases hd with ⟨hbig, -⟩ | ⟨s, rc₁, r₁, hs, hdel, hr'⟩
  · exact absurd hVID (Nat.not_le.mpr hbig)
  obtain ⟨hmem, rfl⟩ := mem_of_stpm hs
  have hid : s.vlan_id = STP_CIST_ID := (h.cist s hmem).mpr hg
  rw [hid] at hdel
  obtain ⟨rfl, rfl⟩ := delPorts_cist hdel
  have hg₁ : (r.unmapVlan s VID).g_CISTBRIDGE = some s.addr := unmapVlan_frame.2.2.trans hg
  rcases hr' with ⟨hne, -⟩ | ⟨rfl, s₁, r₂, hs₁, hr₂, rfl⟩
  · exact absurd rfl hne
  obtain ⟨hmem₁, haddr⟩ := mem_of_stpm hs₁
  have hid₁ : s₁.vlan_id = STP_CIST_ID := (h.unmapVlan.cist s₁ hmem₁).mpr (haddr ▸ hg₁)
  rw [if_neg (by simp [hid₁])] at hr₂
  cases hr₂
  exact ⟨rfl, hg₁, h.unmapVlan_cistMap hmem hid⟩

/-- Another instance gets a VLAN, or is deleted: the CIST loses it. -/
theorem Roll.addVlan_other (h : r.Roll) (hg : r.g_CISTBRIDGE ≠ some a) (hVID : VID ≤ STP_MAX_VID)
    (ha : r.stpMgmtStpmAddVlan c a VID = some (rc, r')) :
    r'.cistMap = if VID ≠ 0 then r.cistMap.map fun m => m.del VID else r.cistMap := by
  rcases addVlan_cases ha with ⟨hbig, -⟩ | ⟨s, b, r₁, hs, hadd, hr'⟩
  · exact absurd hVID (Nat.not_le.mpr hbig)
  obtain ⟨hmem, rfl⟩ := mem_of_stpm hs
  have hid : s.vlan_id ≠ STP_CIST_ID := mt (h.cist s hmem).mp hg
  have hkept := addPorts_kept hadd
  have hroll : (if VID ≠ 0 then r.mapVlan s VID else r).Roll := by
    split
    · exact h.mapVlan
    · exact h
  have hmap : r₁.cistMap = if VID ≠ 0 then r.cistMap.map fun m => m.del VID else r.cistMap := by
    rw [hkept.cistMap]
    split
    · rw [h.mapVlan_cistMap hmem]
      simp [hid]
    · rfl
  have hg₁ : r₁.g_CISTBRIDGE = r.g_CISTBRIDGE := by
    rw [hkept.cist]
    split
    · exact mapVlan_frame.2.2
    · rfl
  rcases hr' with ⟨-, -, rfl⟩ | ⟨-, hd⟩
  · exact hmap
  · obtain ⟨r₂, t, hkept₂, hroll₂, ht, hta, rfl⟩ := (hkept.roll hroll).deleted hd
    have htid : t.vlan_id ≠ STP_CIST_ID := by
      intro hz
      have := (hroll₂.cist t ht).mp hz
      rw [hkept₂.cist, hg₁, hta] at this
      exact hg this
    rw [Registry.cistMap, hroll₂.withoutInstance_ofCist ht htid]
    exact hkept₂.cistMap.trans hmap

/-- The CIST gets a VLAN, or is deleted. -/
theorem Roll.addVlan_cist (h : r.Roll) (hg : r.g_CISTBRIDGE = some a) (hVID : VID ≤ STP_MAX_VID)
    (ha : r.stpMgmtStpmAddVlan c a VID = some (rc, r')) :
    (∀ i ∈ c.portsToAdd (r.g_VlanPBMP VID), Place (c.stpPortGlobalIndexParse i)) ∧
        r'.cistMap = (if VID ≠ 0 then r.cistMap.map fun m => m.add VID else r.cistMap) ∨
      r'.g_VID2MSTID = r.g_VID2MSTID ∧ ∀ t ∈ r'.bridges, t.vlan_id ≠ STP_CIST_ID := by
  rcases addVlan_cases ha with ⟨hbig, -⟩ | ⟨s, b, r₁, hs, hadd, hr'⟩
  · exact absurd hVID (Nat.not_le.mpr hbig)
  obtain ⟨hmem, rfl⟩ := mem_of_stpm hs
  have hid : s.vlan_id = STP_CIST_ID := (h.cist s hmem).mpr hg
  have hkept := addPorts_kept hadd
  have hroll : (if VID ≠ 0 then r.mapVlan s VID else r).Roll := by
    split
    · exact h.mapVlan
    · exact h
  rcases hr' with ⟨rfl, hb, rfl⟩ | ⟨-, hd⟩
  · subst hb
    refine .inl ⟨addPorts_place hadd, hkept.cistMap.trans ?_⟩
    split
    · rw [h.mapVlan_cistMap hmem]
      simp [hid]
    · rfl
  · obtain ⟨r₂, t, hkept₂, hroll₂, ht, hta, rfl⟩ := (hkept.roll hroll).deleted hd
    refine .inr ⟨?_, fun u hu huid => ?_⟩
    · refine (hkept₂.table.trans hkept.table).trans ?_
      split
      · exact mapVlan_frame.2.1
      · rfl
    · obtain ⟨hu, hne⟩ := (hroll₂.mem_withoutInstance ht).mp hu
      have hcist : r₂.g_CISTBRIDGE = some s.addr := by
        rw [hkept₂.cist, hkept.cist]
        split
        · exact mapVlan_frame.2.2.trans hg
        · exact hg
      have := (hroll₂.cist u hu).mp huid
      rw [hcist, Option.some.injEq, ← hta] at this
      exact hne (hroll₂.eq_of_addr hu ht this.symm)

/-! ## What moves a VLAN -/

theorem Unmoved.getOrCreate_cist (h : r.Unmoved c) (hne : MSTID ≠ STP_CIST_ID)
    (hmk : r.getOrCreate MSTID = some (a, r')) : r'.g_CISTBRIDGE ≠ some a := by
  rw [Registry.getOrCreate] at hmk
  cases hget : r.stpStpmGetInstance MSTID with
  | some s =>
    rw [hget] at hmk
    cases hmk
    obtain ⟨hs, hid⟩ := mem_of_instance hget
    exact mt (h.cist s hs).mpr (hid ▸ hne)
  | none =>
    rw [hget] at hmk
    obtain ⟨rfl, hc⟩ := h.toRoll.created hmk
    rw [hc.cist, if_neg hne]
    intro hg
    obtain ⟨s, hs, ha⟩ := h.known _ hg
    exact absurd (h.fresh s hs) (by rw [ha]; exact Nat.lt_irrefl _)

/-- The first VLAN that is moved out of the CIST leaves its count wrong, whatever comes of it. -/
theorem Unmoved.update_bad {started : Int} (h : r.Unmoved c) (hne : MSTID ≠ r.g_VID2MSTID VID)
    (hsmall : MSTID ≤ STP_MSTI_MAX) (hVID : VID ≤ STP_MAX_VID)
    (hu : r.stpMgmtStpmUpdateInstance c digest MSTID VID junk started = some (rc, r')) :
    ¬ r'.Partition := by
  have hroll' := h.toRoll.update hu
  rw [h.table] at hne
  -- the CIST is where the VLAN is taken from, and then it loses the VLAN once more
  have hends : ∀ {this : Nat} {r₁ r₂ r₃ : Registry} {old : Stpm} {rc rc' : Int},
      r.getOrCreate MSTID = some (this, r₁) →
      r₁.stpStpmGetInstance (r₁.g_VID2MSTID VID) = some old →
      r₁.stpMgmtStpmDelVlan c old.addr VID junk = some (rc, r₂) →
      r₂.stpMgmtStpmAddVlan c this VID = some (rc', r₃) →
      r₃.cistMap = some (if VID ≠ 0 then (VlanMap.full.del VID).del VID else VlanMap.full.del VID) := by
    intro this r₁ r₂ r₃ old rc rc' hmk hold hdel hadd
    have h₁ := h.getOrCreate hmk
    obtain ⟨hmem, hid⟩ := mem_of_instance hold
    rw [h₁.table] at hid
    have hg₁ := (h₁.cist old hmem).mp hid
    have hthis := h.getOrCreate_cist hne hmk
    obtain ⟨-, hg₂, hmap⟩ := h₁.toRoll.delVlan_cist hg₁ hVID hdel
    rw [hg₁, ← hg₂] at hthis
    rw [(h₁.toRoll.delVlan hdel).addVlan_other hthis hVID hadd, hmap, h₁.cistMap]
    split <;> rfl
  have hoff : r'.cistMap =
      some (if VID ≠ 0 then (VlanMap.full.del VID).del VID else VlanMap.full.del VID) →
      ¬ r'.Partition := by
    intro hm hpart
    have hcount := hpart.cistMap hroll' hm
    by_cases hz : VID = 0
    · subst hz
      exact VlanMap.full_del_zero hcount
    · rw [if_pos hz] at hcount
      exact VlanMap.full_del_del hz hVID hcount
  cases update_ends hu with
  | already heq => exact absurd (heq.trans (h.table VID)) hne
  | notMade _ hmk =>
    obtain ⟨r₁, hr₁⟩ := create_defined hsmall h.cist_ne_none
    rw [Registry.getOrCreate, hr₁] at hmk
    cases hget : r.stpStpmGetInstance MSTID <;> simp [hget] at hmk
  | noOld _ hmk hold =>
    have h₁ := h.getOrCreate hmk
    obtain ⟨s, hs, hid⟩ := h₁.made
    rw [h₁.table] at hold
    exact absurd hid (no_instance hold s hs)
  | notTaken _ hmk hold hdel hrc =>
    have h₁ := h.getOrCreate hmk
    obtain ⟨hmem, hid⟩ := mem_of_instance hold
    rw [h₁.table] at hid
    exact absurd (h₁.toRoll.delVlan_cist ((h₁.cist _ hmem).mp hid) hVID hdel).1 hrc
  | notAdded _ hmk hold hdel hadd _ => exact hoff (hends hmk hold hdel hadd)
  | moved _ hmk hold hdel hadd _ =>
    refine hoff ((setStpm_ofCist ?_ ?_).trans (hends hmk hold hdel hadd))
    · exact fun _ => rfl
    · exact fun _ => rfl

/-- A VLAN that is added to the CIST is counted twice, and VLAN 0 is not counted. -/
theorem Unmoved.addVlanToCist_bad {port_bmp : PortBmp} (h : r.Unmoved c) (hVID : VID ≤ STP_MAX_VID)
    (hbad : ¬(VID = 0 ∧ ∀ i ∈ c.portsToAdd port_bmp, Place (c.stpPortGlobalIndexParse i)))
    (ha : r.stpInAddVlanToCist c VID port_bmp = some (rc, r')) : ¬ r'.Partition := by
  rcases addVlanToCist_cases ha with ⟨hnone, -⟩ | ⟨a, hg, hadd⟩
  · exact absurd hnone h.cist_ne_none
  have hroll := h.toRoll.pbmp (w := Function.update r.g_VlanPBMP VID port_bmp)
  have hroll' := hroll.addVlan hadd
  intro hpart
  rcases hroll.addVlan_cist hg hVID hadd with ⟨hplace, hmap⟩ | ⟨htable, hgone⟩
  · by_cases hz : VID = 0
    · refine hbad ⟨hz, ?_⟩
      simpa using hplace
    · rw [if_pos hz] at hmap
      have hcount := hpart.cistMap hroll' (hmap.trans (congrArg _ h.cistMap))
      exact VlanMap.full_add hVID hcount
  · obtain ⟨s, hs, -, hid, -⟩ := hpart.map 1 (Nat.le_refl _) (by decide)
    rw [htable] at hid
    exact hgone s hs (hid.symm.trans (h.table 1))

/-! ## Everything is deleted and created again -/

theorem Listed.dropPorts {n : Nat} (h : r.Listed c) (hs : s ∈ r.bridges) (hn : s.ports.length = n) :
    ∃ r', dropPorts s.addr n r = some r' ∧ r'.Listed c ∧ ∃ t ∈ r'.bridges, t.addr = s.addr ∧ t.ports = [] := by
  induction n generalizing r s with
  | zero =>
    have hnil := List.length_eq_zero_iff.mp hn
    refine ⟨r, ?_, h, s, hs, rfl, hnil⟩
    simp [Registry.dropPorts, h.stpm hs, hnil]
  | succ n ih =>
    cases hl : s.ports with
    | nil => simp [hl] at hn
    | cons p l =>
      obtain ⟨q, hq, ho⟩ := ((h.listed s hs).2 p).mp (by simp [hl])
      have hmem : { s with ports := s.ports.erase p } ∈ (r.unlistPort s p).bridges :=
        mem_setStpm.mpr ⟨s, hs, by simp⟩
      have hlen : (s.ports.erase p).length = n := by simpa [hl] using hn
      obtain ⟨r', hr', hl', ht⟩ := ih (h.unlistPort hq ho) hmem hlen
      refine ⟨r', ?_, hl', ht⟩
      simp only [Registry.dropPorts, h.stpm hs, Option.bind_eq_bind, Option.bind_some, hl,
        h.portDelete hs hq ho]
      exact hr'

theorem Listed.dropInstances {n : Nat} (h : r.Listed c) (hn : r.bridges.length = n) :
    ∃ r', dropInstances n r = some r' ∧ r'.Listed c ∧ r'.bridges = [] ∧
      r'.g_VID2MSTID = r.g_VID2MSTID := by
  induction n generalizing r with
  | zero =>
    have hnil := List.length_eq_zero_iff.mp hn
    exact ⟨r, by simp [Registry.dropInstances, hnil], h, hnil, rfl⟩
  | succ n ih =>
    cases hl : r.bridges with
    | nil => simp [hl] at hn
    | cons s l =>
      obtain ⟨r₁, hr₁, h₁, t, ht, hta, hports⟩ := h.dropPorts (s := s) (by simp [hl]) rfl
      have hkept := dropPorts_kept hr₁
      have hlen : (r₁.withoutInstance t).bridges.length = n := by
        have hsame : r₁.bridges.length = r.bridges.length := by
          simpa [maps] using congrArg (fun x => x.1.length) hkept.maps
        rw [Registry.withoutInstance,
          List.length_eraseP_of_mem (p := fun x : Stpm => decide (x.vlan_id = t.vlan_id)) ht (by simp),
          hsame, hn]
        rfl
      obtain ⟨r', hr', h', hb, htable⟩ := ih (h₁.withoutInstance ht hports) hlen
      refine ⟨r', ?_, h', hb, htable.trans hkept.table⟩
      have hdel := h₁.toRoll.delete ht hports
      rw [hta] at hdel
      simp only [Registry.dropInstances, hl, hr₁, hdel, Option.bind_eq_bind, Option.bind_some]
      exact hr'

/-- Without instances there are no ports. -/
theorem Listed.no_ports (h : r.Listed c) (hb : r.bridges = []) : r.heap a = none := by
  cases hp : r.heap a with
  | none => rfl
  | some p =>
    obtain ⟨s, hs, -⟩ := h.owned a p hp
    rw [hb] at hs
    cases hs

theorem Wf.of_nothing (hb : r.bridges = []) (hg : r.g_CISTBRIDGE = none) (hh : ∀ a, r.heap a = none)
    (hc : ∀ k, r.g_CISTPORT k = []) : r.Wf c := by
  refine ⟨⟨⟨?_, ?_, ?_, ?_, ?_, ?_⟩, ?_, ?_, ?_, ?_, ?_⟩, ?_, ?_⟩ <;> simp [hb, hg, hh, hc, Lib.Lists]

theorem Unmoved.deleteAll (h : r.Unmoved c) : ∃ r', r.stpMgmtStpmDeleteAll = some r' ∧ r'.Wf c ∧
    r'.bridges = [] ∧ ∀ v, r'.g_VID2MSTID v = STP_CIST_ID := by
  obtain ⟨r₁, hr₁, h₁, hb, htable⟩ := h.toListed.dropInstances rfl
  have hg : r₁.g_CISTBRIDGE = none := by
    cases hg : r₁.g_CISTBRIDGE with
    | none => rfl
    | some a =>
      obtain ⟨s, hs, -⟩ := h₁.known a hg
      rw [hb] at hs
      cases hs
  rw [stpMgmtStpmDeleteAll, hr₁]
  refine ⟨_, rfl, .of_nothing hb hg (fun a => h₁.no_ports hb) fun _ => rfl, hb, fun v => ?_⟩
  dsimp only
  split
  · rfl
  · rw [htable]
    exact h.table v

/-- An instance may be changed but for its place, its number and its ports. -/
theorem Wf.setStpm (h : r.Wf c) {f : Stpm → Stpm} (haddr : ∀ s, (f s).addr = s.addr)
    (hid : ∀ s, (f s).vlan_id = s.vlan_id) (hports : ∀ s, (f s).ports = s.ports) :
    (r.setStpm a f).Wf c := by
  refine
    { toRoll := h.toRoll.setStpm haddr hid
      allocated := h.allocated
      owned := fun b p hp => ?_
      inRange := h.inRange
      listed := fun t ht => ?_
      one := h.one
      chained := h.chained
      head := h.head }
  · obtain ⟨s, hs, ho⟩ := h.owned b p hp
    refine ⟨_, mem_setStpm.mpr ⟨s, hs, rfl⟩, ?_⟩
    split
    · rw [haddr, ho]
    · exact ho
  · obtain ⟨s, hs, rfl⟩ := mem_setStpm.mp ht
    split
    · rw [haddr, hports]
      exact h.listed s hs
    · exact h.listed s hs

theorem Wf.createCist (h : r.Wf c) (hb : r.bridges = []) (htable : ∀ v, r.g_VID2MSTID v = STP_CIST_ID) :
    (r.stpMgmtStpmCreateCist digest).Unmoved c := by
  have hg : r.g_CISTBRIDGE = none := by
    cases hg : r.g_CISTBRIDGE with
    | none => rfl
    | some a =>
      obtain ⟨s, hs, -⟩ := h.known a hg
      rw [hb] at hs
      cases hs
  have hmk : r.stpStpmMstCreate STP_CIST_ID = some (r.brk, { r with
      bridges := r.newStpm STP_CIST_ID :: r.bridges, g_CISTBRIDGE := some r.brk, brk := r.brk + 1 }) := rfl
  have hwf := (h.toRoll.created hmk).2.wf h (h.toRoll.no_cist hg)
  have hwf' := (hwf.setStpm (a := r.brk) (f := fun s => { s with vlan_map := .full }) (fun _ => rfl)
    (fun _ => rfl) fun _ => rfl).setStpm (a := r.brk)
    (f := fun s => { s with ConfigurationDigest := digest (configTable r.g_VID2MSTID) }) (fun _ => rfl)
    (fun _ => rfl) fun _ => rfl
  rw [stpMgmtStpmCreateCist, hg, hmk]
  dsimp only
  refine { toWf := hwf', made := ?_, full := ?_, table := htable }
  · simp [hb, newStpm, stpMgmtCalcConfigidDigest, Registry.setStpm]
  · simp [hb, newStpm, stpMgmtCalcConfigidDigest, Registry.setStpm, VlanMap.full]

end

end Registry

namespace VlanOp

open Registry

/-- No VLAN is moved: an update is for the instance that the VLAN is in, or for none there can be, or
for the VID 4095, which is refused; and only VLAN 0, which is not counted, is added to the CIST, with
ports that have their places. -/
def Still (c : Chassis) (r : Registry) : VlanOp → Prop
  | updateInstance MSTID VID _ _ => VID.toNat < 4096 ∧
    (MSTID = r.g_VID2MSTID VID.toNat ∨ MSTID > STP_MSTI_MAX ∨ VID.toNat > STP_MAX_VID)
  | addVlanToCist vid port_bmp => vid.toNat < 4096 ∧ (vid.toNat > STP_MAX_VID ∨
    vid.toNat = 0 ∧ ∀ i ∈ c.portsToAdd port_bmp, Place (c.stpPortGlobalIndexParse i))
  | delVlanFromCist vid _ => vid.toNat < 4096
  | recreate => True
  | initVlanpbmp VID _ => VID.toNat < 4096
  | addport MSTID port_index _ _ => r.AddOk c MSTID port_index
  | delport _ _ _ _ => True

section
variable {r r' : Registry} {c : Chassis} {digest : List UInt16 → Octets} {op : VlanOp}
  {w : Nat → PortBmp} {ops : List VlanOp}

theorem update_unmoved {MSTID : UInt16} {VID : Nat} {junk : UInt32 → Int} {started : Int}
    (h : r.Unmoved c)
    (hok : MSTID = r.g_VID2MSTID VID ∨ MSTID > STP_MSTI_MAX ∨ VID > STP_MAX_VID) :
    ∃ rc r', r.stpMgmtStpmUpdateInstance c digest MSTID VID junk started = some (rc, r') ∧
      r'.Unmoved c := by
  rw [stpMgmtStpmUpdateInstance]
  by_cases heq : MSTID = r.g_VID2MSTID VID
  · exact ⟨_, _, if_pos heq, h⟩
  rw [if_neg heq]
  cases hmk : r.getOrCreate MSTID with
  | none => exact ⟨_, _, rfl, h⟩
  | some x =>
    have h₁ := h.getOrCreate hmk
    have hsmall : ¬ MSTID > STP_MSTI_MAX := by
      intro hbig
      rw [Registry.getOrCreate] at hmk
      cases hget : r.stpStpmGetInstance MSTID with
      | none => simp [hget, stpStpmMstCreate, hbig] at hmk
      | some s =>
        obtain ⟨hs, rfl⟩ := mem_of_instance hget
        exact absurd (h.small s hs) (UInt16.not_le.mpr hbig)
    have hVID : VID > STP_MAX_VID := (hok.resolve_left heq).resolve_left hsmall
    dsimp only
    cases hold : x.2.stpStpmGetInstance (x.2.g_VID2MSTID VID) with
    | none => exact ⟨_, _, rfl, h₁⟩
    | some old =>
      have hdel : x.2.stpMgmtStpmDelVlan c old.addr VID junk = some (STP_ERROR, x.2) := by
        simp [stpMgmtStpmDelVlan, hVID]
      refine ⟨STP_ERROR, x.2, ?_, h₁⟩
      simp [hdel, STP_ERROR, STP_OK]

theorem addVlanToCist_unmoved {vid : Nat} {port_bmp : PortBmp} (h : r.Unmoved c)
    (hok : vid > STP_MAX_VID ∨
      vid = 0 ∧ ∀ i ∈ c.portsToAdd port_bmp, Place (c.stpPortGlobalIndexParse i)) :
    ∃ rc r', r.stpInAddVlanToCist c vid port_bmp = some (rc, r') ∧ r'.Unmoved c := by
  have h₁ : ({ r with g_VlanPBMP := Function.update r.g_VlanPBMP vid port_bmp } : Registry).Unmoved c :=
    { toWf := h.toWf.of_key rfl rfl rfl rfl rfl, made := h.made, full := h.full, table := h.table }
  obtain ⟨s, hs, hid⟩ := h₁.made
  have hg := (h₁.cist s hs).mp hid
  have hstpm := h₁.toRoll.stpm hs
  rw [stpInAddVlanToCist]
  dsimp only
  split
  · rename_i hg'
    exact absurd hg' h.cist_ne_none
  rename_i b hb
  obtain rfl : s.addr = b := Option.some.inj (hg.symm.trans hb)
  rcases hok with hbig | ⟨rfl, hplace⟩
  · refine ⟨STP_ERROR, _, ?_, h₁⟩
    simp [stpMgmtStpmAddVlan, hbig, STP_ERROR, STP_OK]
  · obtain ⟨r₂, hr₂, h₂⟩ := @Registry.Unmoved.addPorts _ _ 0 _ h₁ hplace
    refine ⟨STP_OK, { r₂ with g_VID2MSTID := Function.update r₂.g_VID2MSTID 0 STP_CIST_ID }, ?_, ?_⟩
    · have hadd : stpMgmtStpmAddVlan
          { r with g_VlanPBMP := Function.update r.g_VlanPBMP 0 port_bmp } c s.addr 0 =
          some (STP_OK, { r₂ with g_VID2MSTID := Function.update r₂.g_VID2MSTID 0 STP_CIST_ID }) := by
        simp [stpMgmtStpmAddVlan, STP_MAX_VID, hstpm, hid, hr₂]
      have hg₂ : r₂.g_CISTBRIDGE = some s.addr := (addPorts_kept hr₂).cist.trans hg
      simp [hadd, stpMgmtBuildConfigidDigest, hg₂]
    · refine
        { toWf := h₂.toWf.of_key rfl rfl rfl rfl rfl, made := h₂.made, full := h₂.full
          table := fun v => ?_ }
      by_cases hv : v = 0
      · simp [hv]
      · simp [Function.update_of_ne hv, h₂.table]

theorem step_unmoved (h : r.Unmoved c) (hok : op.Still c r) :
    ∃ r', op.step c digest r = some r' ∧ r'.Unmoved c := by
  cases op with
  | updateInstance MSTID VID junk started =>
    obtain ⟨rc, r', hr', h'⟩ := @VlanOp.update_unmoved _ _ digest _ _ junk started h hok.2
    exact ⟨r', by simp [step, call, hok.1, hr'], h'⟩
  | addVlanToCist vid port_bmp =>
    obtain ⟨rc, r', hr', h'⟩ := addVlanToCist_unmoved h hok.2
    exact ⟨r', by simp [step, call, hok.1, hr'], h'⟩
  | delVlanFromCist vid junk =>
    have hlt : vid.toNat < 4096 := hok
    exact ⟨r, by simp [step, call, hlt, stpInDelVlanFromCist, h.table], h⟩
  | recreate =>
    obtain ⟨r₁, hr₁, hwf, hb, htable⟩ := h.deleteAll
    exact ⟨_, by simp [step, call, hr₁], @Registry.Wf.createCist _ _ digest hwf hb htable⟩
  | initVlanpbmp VID ports =>
    have hlt : VID.toNat < 4096 := hok
    refine ⟨_, by rw [step, call, if_pos hlt]; rfl, ?_⟩
    exact { toWf := h.toWf.of_key rfl rfl rfl rfl rfl, made := h.made, full := h.full, table := h.table }
  | addport MSTID port_index VID isWan =>
    obtain ⟨rc, r', hr', hwf, -⟩ := @Registry.Wf.addport _ _ VID.toNat _ _ isWan h.toWf hok
    exact ⟨r', by simp [step, call, hr'], h.of_kept (addport_kept hr') hwf⟩
  | delport MSTID port_index VID junk =>
    obtain ⟨rc, r', hr', hwf⟩ := @Registry.Wf.delport _ _ VID.toNat MSTID port_index junk h.toWf
    exact ⟨r', by simp [step, call, hr'], h.of_kept (delport_kept hr') hwf⟩

theorem step_moved (h : r.Unmoved c) (hno : ¬ op.Still c r) (hstep : op.step c digest r = some r') :
    ¬ r'.Partition := by
  simp only [step, Option.map_eq_some_iff] at hstep
  obtain ⟨x, hcall, rfl⟩ := hstep
  cases op with
  | updateInstance MSTID VID junk started =>
    rw [call] at hcall
    split at hcall
    · rename_i hlt
      simp only [Still, hlt, true_and, not_or] at hno
      exact h.update_bad hno.1 (UInt16.not_lt.mp hno.2.1) (Nat.not_lt.mp hno.2.2) hcall
    · cases hcall
  | addVlanToCist vid port_bmp =>
    rw [call] at hcall
    split at hcall
    · rename_i hlt
      simp only [Still, hlt, true_and, not_or] at hno
      exact h.addVlanToCist_bad (Nat.not_lt.mp hno.1) hno.2 hcall
    · cases hcall
  | delVlanFromCist vid junk =>
    have hge : ¬ vid.toNat < 4096 := hno
    rw [call, if_neg hge] at hcall
    cases hcall
  | recreate => exact absurd trivial hno
  | initVlanpbmp VID ports =>
    have hge : ¬ VID.toNat < 4096 := hno
    rw [call, if_neg hge] at hcall
    cases hcall
  | addport MSTID port_index VID isWan =>
    rw [call, h.toWf.addport_stuck hno] at hcall
    cases hcall
  | delport MSTID port_index VID junk => exact absurd trivial hno

theorem fresh_unmoved : (Registry.fresh digest w).Unmoved c :=
  wf_empty.createCist rfl fun _ => rfl

/-- The VLANs are parted between the instances in every state of a run exactly if no step of it moves
one. -/
theorem partition_iff : (∀ pre suf, ops = pre ++ suf →
      ∃ r, tryRun (step c digest) (Registry.fresh digest w) pre = some r ∧ r.Partition) ↔
    TryObeys (step c digest) (fun r op => op.Still c r) (Registry.fresh digest w) ops :=
  (tryObeys_iff (fun _ _ h hok => step_unmoved h hok) (fun _ h => h.partition)
    (fun _ _ _ h hno hr' => step_moved h hno hr') fresh_unmoved).symm

/-- VLAN 10 is moved to the instance 1: the CIST has 4093 VLANs, and counts 4092. -/
theorem partition_moved10 : ¬ ∀ ops r, tryRun (step PortOp.plain digest10)
    (Registry.fresh digest10 fun _ _ => 0) ops = some r → r.Partition := by
  intro h
  obtain ⟨r, r', hrun, -⟩ := moved10
  have hstill : ¬ Still PortOp.plain (Registry.fresh digest10 fun _ _ => 0)
      (updateInstance 1 10 (fun _ => 0) STP_OK) := by
    have htable := (@VlanOp.fresh_unmoved PortOp.plain digest10 (fun _ _ => 0)).table
    simp only [Still, htable]
    decide
  have hstep : (updateInstance 1 10 (fun _ => 0) STP_OK).step PortOp.plain digest10
      (Registry.fresh digest10 fun _ _ => 0) = some r := by
    rw [tryRun, Option.bind_eq_some_iff] at hrun
    obtain ⟨x, hx, hrun⟩ := hrun
    cases hrun
    exact hx
  exact step_moved fresh_unmoved hstill hstep (h _ r hrun)

end

end VlanOp

end Stp
end DaemonGroup
