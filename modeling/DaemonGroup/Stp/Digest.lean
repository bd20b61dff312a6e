import DaemonGroup.Stp.Vlans

/-!
# DaemonGroup.Stp.Digest

The digest that the CIST keeps of `g_VID2MSTID`. `digest_fresh_iff` says after which operations it is
the digest of the table as it is then.
-/

namespace DaemonGroup
namespace Stp

open Lib

namespace Registry

section
variable {r r' : Registry} {c : Chassis} {digest : List UInt16 → Octets} {a VID : Nat} {s t : Stpm}
  {MSTID : UInt16} {rc : Int} {junk : UInt32 → Int}

/-! ## The roll of the instances in every run -/

/-- A change of an instance that leaves it where it is, with the number it has. -/
theorem Roll.setStpm (h : r.Roll) {f : Stpm → Stpm} (haddr : ∀ s, (f s).addr = s.addr)
    (hid : ∀ s, (f s).vlan_id = s.vlan_id) : (r.setStpm a f).Roll := by
  refine h.of_heads ?_ rfl (Nat.le_refl _)
  simp only [Registry.setStpm, List.map_map, Function.comp_def]
  refine List.map_congr_left fun s _ => ?_
  split
  · rw [haddr, hid]
  · rfl

theorem Roll.setCist (h : r.Roll) {isAdd : Bool} : (r.stpMgmtSetCistVlanMap VID isAdd).Roll := by
  rw [stpMgmtSetCistVlanMap]
  split
  · exact h
  · exact h.setStpm (fun _ => rfl) fun _ => rfl

theorem Roll.mapVlan (h : r.Roll) : (r.mapVlan s VID).Roll := by
  rw [Registry.mapVlan]
  have := h.setStpm (a := s.addr) (f := fun s => { s with vlan_map := s.vlan_map.add VID })
    (fun _ => rfl) fun _ => rfl
  split
  · exact this
  · exact this.setCist

theorem Roll.unmapVlan (h : r.Roll) : (r.unmapVlan s VID).Roll := by
  rw [Registry.unmapVlan]
  have := h.setStpm (a := s.addr) (f := fun s => { s with vlan_map := s.vlan_map.del VID })
    (fun _ => rfl) fun _ => rfl
  split
  · exact this
  · exact this.setCist

theorem addPorts_kept {l : List UInt32} {b : Bool} (h : addPorts c MSTID VID l r = some (b, r')) :
    Kept r r' := by
  induction l generalizing r with
  | nil =>
    cases h
    exact .refl
  | cons i l ih =>
    simp only [addPorts, Option.bind_eq_bind, Option.bind_eq_some_iff] at h
    obtain ⟨x, hadd, h⟩ := h
    have hx := addport_kept hadd
    split at h
    · exact hx.trans (ih h)
    · cases h
      exact hx

theorem delPorts_kept {l : List UInt32} (h : delPorts c MSTID VID junk l r = some (rc, r')) :
    Kept r r' := by
  induction l generalizing r with
  | nil =>
    cases h
    exact .refl
  | cons i l ih =>
    simp only [delPorts, Option.bind_eq_bind, Option.bind_eq_some_iff] at h
    obtain ⟨o, -, h⟩ := h
    cases o with
    | none => exact ih h
    | some b =>
      simp only [Option.bind_eq_some_iff] at h
      obtain ⟨p, -, x, hdel, h⟩ := h
      have hx := delport_kept hdel
      split at h
      · exact hx.trans (ih h)
      · cases h
        exact hx

/-- The instance that is deleted is the one at the pointer, or what has been made of it. -/
theorem Roll.deleted (h : r.Roll) (hd : r.stpStpmDelete a = some r') :
    ∃ r₁ s, Kept r r₁ ∧ r₁.Roll ∧ s ∈ r₁.bridges ∧ s.addr = a ∧ r' = r₁.withoutInstance s := by
  simp only [stpStpmDelete, Option.bind_eq_bind, Option.bind_eq_some_iff] at hd
  obtain ⟨s, hs, r₁, hloop, hd⟩ := hd
  cases hd
  have hkept := (deletePorts_spares hloop).1
  obtain ⟨hmem, ha⟩ := mem_of_stpm hs
  obtain ⟨s₁, hs₁, haddr, hid, -⟩ := maps_mem hkept.maps.symm hmem
  refine ⟨r₁, s₁, hkept, hkept.roll h, hs₁, haddr.trans ha, ?_⟩
  rw [Registry.withoutInstance, hid]

theorem Roll.of_delete (h : r.Roll) (hd : r.stpStpmDelete a = some r') : r'.Roll := by
  obtain ⟨r₁, s, -, hroll, hs, -, rfl⟩ := h.deleted hd
  exact hroll.withoutInstance hs

theorem Roll.table (h : r.Roll) {v : Nat → UInt16} : ({ r with g_VID2MSTID := v } : Registry).Roll :=
  h.of_heads rfl rfl (Nat.le_refl _)

theorem Roll.pbmp (h : r.Roll) {w : Nat → PortBmp} : ({ r with g_VlanPBMP := w } : Registry).Roll :=
  h.of_heads rfl rfl (Nat.le_refl _)

/-- What the change of a map leaves alone. -/
theorem setCist_frame {isAdd : Bool} : (r.stpMgmtSetCistVlanMap VID isAdd).g_VlanPBMP = r.g_VlanPBMP ∧
    (r.stpMgmtSetCistVlanMap VID isAdd).g_VID2MSTID = r.g_VID2MSTID ∧
    (r.stpMgmtSetCistVlanMap VID isAdd).g_CISTBRIDGE = r.g_CISTBRIDGE := by
  rw [stpMgmtSetCistVlanMap]
  split
  · exact ⟨rfl, rfl, rfl⟩
  · rename_i b hg
    exact ⟨rfl, rfl, rfl⟩

theorem mapVlan_frame : (r.mapVlan s VID).g_VlanPBMP = r.g_VlanPBMP ∧
    (r.mapVlan s VID).g_VID2MSTID = r.g_VID2MSTID ∧
    (r.mapVlan s VID).g_CISTBRIDGE = r.g_CISTBRIDGE := by
  rw [mapVlan]
  split
  · exact ⟨rfl, rfl, rfl⟩
  · exact setCist_frame

theorem unmapVlan_frame : (r.unmapVlan s VID).g_VlanPBMP = r.g_VlanPBMP ∧
    (r.unmapVlan s VID).g_VID2MSTID = r.g_VID2MSTID ∧
    (r.unmapVlan s VID).g_CISTBRIDGE = r.g_CISTBRIDGE := by
  rw [unmapVlan]
  split
  · exact ⟨rfl, rfl, rfl⟩
  · exact setCist_frame

/-- What `stp_mgmt_stpm_add_vlan` does, by its result. -/
theorem addVlan_cases (h : r.stpMgmtStpmAddVlan c a VID = some (rc, r')) :
    (VID > STP_MAX_VID ∧ rc = STP_ERROR ∧ r' = r) ∨
    ∃ s b r₁, r.stpm a = some s ∧
      addPorts c s.vlan_id VID (c.portsToAdd (r.g_VlanPBMP VID))
        (if VID ≠ 0 then r.mapVlan s VID else r) = some (b, r₁) ∧
      (rc = STP_OK ∧ b = true ∧
          r' = { r₁ with g_VID2MSTID := Function.update r₁.g_VID2MSTID VID s.vlan_id } ∨
        rc = STP_Cannot_Create_Instance_For_Port ∧ r₁.stpStpmDelete a = some r') := by
  simp only [stpMgmtStpmAddVlan] at h
  split at h
  · rename_i hbig
    cases h
    exact .inl ⟨hbig, rfl, rfl⟩
  simp only [Option.bind_eq_bind, Option.bind_eq_some_iff] at h
  obtain ⟨s, hs, x, hadd, h⟩ := h
  have hpbmp : (if VID ≠ 0 then r.mapVlan s VID else r).g_VlanPBMP = r.g_VlanPBMP := by
    split
    · exact mapVlan_frame.1
    · rfl
  rw [hpbmp] at hadd
  refine .inr ⟨s, x.1, x.2, hs, hadd, ?_⟩
  split at h
  · rename_i hall
    cases h
    exact .inl ⟨rfl, hall, rfl⟩
  · simp only [Option.bind_eq_some_iff] at h
    obtain ⟨r₂, hdel, h⟩ := h
    cases h
    exact .inr ⟨rfl, hdel⟩

/-- What `stp_mgmt_stpm_del_vlan` does, by its result. -/
theorem delVlan_cases (h : r.stpMgmtStpmDelVlan c a VID junk = some (rc, r')) :
    (VID > STP_MAX_VID ∧ rc = STP_ERROR ∧ r' = r) ∨
    ∃ s rc₁ r₁, r.stpm a = some s ∧
      delPorts c s.vlan_id VID junk (c.portsToDel (r.g_VlanPBMP VID)) (r.unmapVlan s VID) =
        some (rc₁, r₁) ∧
      (rc₁ ≠ STP_OK ∧ rc = rc₁ ∧ r' = r₁ ∨
        rc = STP_OK ∧ ∃ s₁ r₂, r₁.stpm a = some s₁ ∧
          (if s₁.vlan_map.ulcount = 0 ∧ s₁.vlan_id ≠ STP_CIST_ID then r₁.stpStpmDelete a
            else some r₁) = some r₂ ∧
          r' = { r₂ with g_VID2MSTID := Function.update r₂.g_VID2MSTID VID STP_CIST_ID }) := by
  simp only [stpMgmtStpmDelVlan] at h
  split at h
  · rename_i hbig
    cases h
    exact .inl ⟨hbig, rfl, rfl⟩
  simp only [Option.bind_eq_bind, Option.bind_eq_some_iff] at h
  obtain ⟨s, hs, x, hdel, h⟩ := h
  rw [unmapVlan_frame.1] at hdel
  refine .inr ⟨s, x.1, x.2, hs, hdel, ?_⟩
  split at h
  · rename_i hne
    cases h
    exact .inl ⟨hne, rfl, rfl⟩
  · simp only [Option.bind_eq_some_iff] at h
    obtain ⟨s₁, hs₁, h⟩ := h
    split at h
    · rename_i hlast
      simp only [Option.bind_eq_some_iff] at h
      obtain ⟨r₂, hr₂, h⟩ := h
      cases h
      exact .inr ⟨rfl, s₁, r₂, hs₁, by rw [if_pos hlast, hr₂], rfl⟩
    · rename_i hlast
      cases h
      exact .inr ⟨rfl, s₁, x.2, hs₁, by rw [if_neg hlast], rfl⟩

theorem Roll.addVlan (h : r.Roll) (ha : r.stpMgmtStpmAddVlan c a VID = some (rc, r')) : r'.Roll := by
  rcases addVlan_cases ha with ⟨-, -, rfl⟩ | ⟨s, b, r₁, -, hadd, hr'⟩
  · exact h
  have hmap : (if VID ≠ 0 then r.mapVlan s VID else r).Roll := by
    split
    · exact h.mapVlan
    · exact h
  have hroll := (addPorts_kept hadd).roll hmap
  rcases hr' with ⟨-, -, rfl⟩ | ⟨-, hd⟩
  · exact hroll.table
  · exact hroll.of_delete hd

theorem Roll.delVlan (h : r.Roll) (hd : r.stpMgmtStpmDelVlan c a VID junk = some (rc, r')) :
    r'.Roll := by
  rcases delVlan_cases hd with ⟨-, -, rfl⟩ | ⟨s, rc₁, r₁, -, hdel, hr'⟩
  · exact h
  have hroll := (delPorts_kept hdel).roll h.unmapVlan
  rcases hr' with ⟨-, -, rfl⟩ | ⟨-, s₁, r₂, -, hr₂, rfl⟩
  · exact hroll
  · split at hr₂
    · exact (hroll.of_delete hr₂).table
    · cases hr₂
      exact hroll.table

/-! ## The digest of the CIST -/

/-- `ConfigurationDigest` of the CIST. -/
def cistDigest (r : Registry) : Option Octets :=
  r.g_CISTBRIDGE.bind fun a => (r.stpm a).map (·.ConfigurationDigest)

/-- The CIST has the digest of the table as it is. -/
def Fresh (digest : List UInt16 → Octets) (r : Registry) : Prop :=
  r.cistDigest = some (digest (configTable r.g_VID2MSTID))

/-- What the CIST has of something that every instance has. -/
def ofCist {β : Type} (f : Stpm → β) (r : Registry) : Option β :=
  r.g_CISTBRIDGE.bind fun a => (r.stpm a).map f

section
variable {β : Type} {f : Stpm → β}

theorem ofCist_congr (hg : r'.g_CISTBRIDGE = r.g_CISTBRIDGE)
    (hb : r'.bridges.map (fun s => (s.addr, f s)) = r.bridges.map fun s => (s.addr, f s)) :
    r'.ofCist f = r.ofCist f := by
  have hfind : ∀ (r : Registry) a, (r.stpm a).map f =
      ((r.bridges.map fun s => (s.addr, f s)).find? (·.1 = a)).map Prod.snd := by
    intro r a
    rw [List.find?_map, Option.map_map]
    rfl
  simp only [ofCist, hg, hfind, hb]

theorem Kept.ofCist (h : Kept r r') (hf : ∀ s, f { s with ports := [] } = f s) :
    r'.ofCist f = r.ofCist f := by
  have hcore : r'.bridges.map (fun s => { s with ports := [] }) =
      r.bridges.map fun s => { s with ports := [] } := congrArg Prod.fst h.maps
  refine ofCist_congr (congrArg (·.2.1) h.maps) ?_
  simpa [Function.comp_def, hf] using congrArg (List.map fun s => (s.addr, f s)) hcore

theorem setStpm_ofCist {g : Stpm → Stpm} (haddr : ∀ s, (g s).addr = s.addr)
    (hf : ∀ s, f (g s) = f s) : (r.setStpm a g).ofCist f = r.ofCist f := by
  refine ofCist_congr rfl ?_
  simp only [Registry.setStpm, List.map_map, Function.comp_def]
  refine List.map_congr_left fun s _ => ?_
  split
  · rw [haddr, hf]
  · rfl

/-- What the CIST has is not lost with another instance. -/
theorem Roll.withoutInstance_ofCist (h : r.Roll) (hs : s ∈ r.bridges)
    (hid : s.vlan_id ≠ STP_CIST_ID) : (r.withoutInstance s).ofCist f = r.ofCist f := by
  have hg : (r.withoutInstance s).g_CISTBRIDGE = r.g_CISTBRIDGE := by
    simp [Registry.withoutInstance, hid]
  rw [ofCist, ofCist, hg]
  cases hc : r.g_CISTBRIDGE with
  | none => rfl
  | some b =>
    obtain ⟨t, ht, rfl⟩ := h.known b hc
    have hts : t ≠ s := by
      rintro rfl
      exact hid ((h.cist t ht).mpr hc)
    simp only [Option.bind_some]
    rw [h.stpm ht, (h.withoutInstance hs).stpm ((h.mem_withoutInstance hs).mpr ⟨ht, hts⟩)]

end

theorem cistDigest_congr (hg : r'.g_CISTBRIDGE = r.g_CISTBRIDGE) (hb : r'.bridges = r.bridges) :
    r'.cistDigest = r.cistDigest :=
  ofCist_congr hg (by rw [hb])

theorem Kept.cistDigest (h : Kept r r') : r'.cistDigest = r.cistDigest := h.ofCist fun _ => rfl

theorem setMap_cistDigest {g : Stpm → VlanMap} :
    (r.setStpm a fun s => { s with vlan_map := g s }).cistDigest = r.cistDigest :=
  setStpm_ofCist (fun _ => rfl) fun _ => rfl

theorem setCist_cistDigest {isAdd : Bool} :
    (r.stpMgmtSetCistVlanMap VID isAdd).cistDigest = r.cistDigest := by
  rw [stpMgmtSetCistVlanMap]
  split
  · rfl
  · exact setMap_cistDigest

theorem mapVlan_cistDigest : (r.mapVlan s VID).cistDigest = r.cistDigest := by
  rw [mapVlan]
  split
  · exact setMap_cistDigest
  · exact setCist_cistDigest.trans setMap_cistDigest

theorem unmapVlan_cistDigest : (r.unmapVlan s VID).cistDigest = r.cistDigest := by
  rw [unmapVlan]
  split
  · exact setMap_cistDigest
  · exact setCist_cistDigest.trans setMap_cistDigest

/-- A VLAN that is added changes its entry, and not the digest. -/
theorem addVlan_ok (h : r.stpMgmtStpmAddVlan c a VID = some (STP_OK, r')) :
    ∃ s, r.stpm a = some s ∧ r'.g_VID2MSTID = Function.update r.g_VID2MSTID VID s.vlan_id ∧
      r'.cistDigest = r.cistDigest := by
  rcases addVlan_cases h with ⟨-, hrc, -⟩ | ⟨s, b, r₁, hs, hadd, ⟨-, -, rfl⟩ | ⟨hrc, -⟩⟩
  · exact absurd hrc (by decide)
  · have hkept := addPorts_kept hadd
    have htable : r₁.g_VID2MSTID = (if VID ≠ 0 then r.mapVlan s VID else r).g_VID2MSTID :=
      congrArg (·.2.2.1) hkept.maps
    refine ⟨s, hs, ?_, ?_⟩
    · simp only [htable]
      split
      · rw [mapVlan_frame.2.1]
      · rfl
    · refine (cistDigest_congr rfl rfl).trans (hkept.cistDigest.trans ?_)
      split
      · exact mapVlan_cistDigest
      · rfl
  · exact absurd hrc (by decide)

/-- A VLAN that is taken from another instance than the CIST changes its entry, and not the digest. -/
theorem Roll.delVlan_ok (h : r.Roll) (hd : r.stpMgmtStpmDelVlan c a VID junk = some (STP_OK, r')) :
    r'.g_VID2MSTID = Function.update r.g_VID2MSTID VID STP_CIST_ID ∧ r'.cistDigest = r.cistDigest := by
  rcases delVlan_cases hd with ⟨-, hrc, -⟩ | ⟨s, rc₁, r₁, hs, hdel, ⟨hne, hrc, -⟩ | ⟨-, s₁, r₂, hs₁, hr₂, rfl⟩⟩
  · exact absurd hrc (by decide)
  · exact absurd hrc.symm hne
  · have hkept := delPorts_kept hdel
    have hroll := hkept.roll h.unmapVlan
    have htable : r₁.g_VID2MSTID = r.g_VID2MSTID :=
      (congrArg (·.2.2.1) hkept.maps).trans unmapVlan_frame.2.1
    have hdig : r₁.cistDigest = r.cistDigest := hkept.cistDigest.trans unmapVlan_cistDigest
    split at hr₂
    · rename_i hlast
      obtain ⟨r₃, t, hkept', hroll', ht, hta, rfl⟩ := hroll.deleted hr₂
      have hid : t.vlan_id ≠ STP_CIST_ID := by
        obtain ⟨u, hu, hua, huid, -⟩ := maps_mem hkept'.maps ht
        obtain ⟨hs₁', hs₁a⟩ := mem_of_stpm hs₁
        rw [← huid, hroll.eq_of_addr hu hs₁' (hua.trans (hta.trans hs₁a.symm))]
        exact hlast.2
      have htable' : r₃.g_VID2MSTID = r₁.g_VID2MSTID := congrArg (·.2.2.1) hkept'.maps
      refine ⟨?_, ?_⟩
      · simp only [Registry.withoutInstance, htable', htable]
      · refine (cistDigest_congr rfl rfl).trans ?_
        exact (hroll'.withoutInstance_ofCist ht hid).trans (hkept'.cistDigest.trans hdig)
    · cases hr₂
      refine ⟨by simp only [htable], (cistDigest_congr rfl rfl).trans hdig⟩

/-- How `stp_mgmt_stpm_update_instance` ends: at once, before it has taken the VLAN from its
instance, before it has added it to the other one, or with a new digest. -/
inductive UpdateEnds (c : Chassis) (digest : List UInt16 → Octets) (r : Registry) (MSTID : UInt16)
    (VID : Nat) (junk : UInt32 → Int) (started : Int) : Int → Registry → Prop
  | already (h : MSTID = r.g_VID2MSTID VID) : UpdateEnds c digest r MSTID VID junk started STP_OK r
  | notMade (h : MSTID ≠ r.g_VID2MSTID VID) (hmk : r.getOrCreate MSTID = none) :
      UpdateEnds c digest r MSTID VID junk started STP_Cannot_Create_Instance_For_Vlan r
  | noOld (h : MSTID ≠ r.g_VID2MSTID VID) {this : Nat} {r₁ : Registry}
      (hmk : r.getOrCreate MSTID = some (this, r₁))
      (hold : r₁.stpStpmGetInstance (r₁.g_VID2MSTID VID) = none) :
      UpdateEnds c digest r MSTID VID junk started STP_Cannot_Create_Instance_For_Vlan r₁
  | notTaken (h : MSTID ≠ r.g_VID2MSTID VID) {this : Nat} {r₁ r₂ : Registry} {old : Stpm} {rc : Int}
      (hmk : r.getOrCreate MSTID = some (this, r₁))
      (hold : r₁.stpStpmGetInstance (r₁.g_VID2MSTID VID) = some old)
      (hdel : r₁.stpMgmtStpmDelVlan c old.addr VID junk = some (rc, r₂)) (hrc : rc ≠ STP_OK) :
      UpdateEnds c digest r MSTID VID junk started rc r₂
  | notAdded (h : MSTID ≠ r.g_VID2MSTID VID) {this : Nat} {r₁ r₂ r₃ : Registry} {old : Stpm} {rc : Int}
      (hmk : r.getOrCreate MSTID = some (this, r₁))
      (hold : r₁.stpStpmGetInstance (r₁.g_VID2MSTID VID) = some old)
      (hdel : r₁.stpMgmtStpmDelVlan c old.addr VID junk = some (STP_OK, r₂))
      (hadd : r₂.stpMgmtStpmAddVlan c this VID = some (rc, r₃)) (hrc : rc ≠ STP_OK) :
      UpdateEnds c digest r MSTID VID junk started rc r₃
  | moved (h : MSTID ≠ r.g_VID2MSTID VID) {this cist : Nat} {r₁ r₂ r₃ : Registry} {old : Stpm}
      (hmk : r.getOrCreate MSTID = some (this, r₁))
      (hold : r₁.stpStpmGetInstance (r₁.g_VID2MSTID VID) = some old)
      (hdel : r₁.stpMgmtStpmDelVlan c old.addr VID junk = some (STP_OK, r₂))
      (hadd : r₂.stpMgmtStpmAddVlan c this VID = some (STP_OK, r₃))
      (hcist : r₃.g_CISTBRIDGE = some cist) :
      UpdateEnds c digest r MSTID VID junk started started (r₃.stpMgmtCalcConfigidDigest digest cist)

theorem update_ends {started : Int}
    (h : r.stpMgmtStpmUpdateInstance c digest MSTID VID junk started = some (rc, r')) :
    UpdateEnds c digest r MSTID VID junk started rc r' := by
  rw [stpMgmtStpmUpdateInstance] at h
  split at h
  · rename_i heq
    cases h
    exact .already heq
  rename_i hne
  cases hmk : r.getOrCreate MSTID with
  | none =>
    rw [hmk] at h
    cases h
    exact .notMade hne hmk
  | some x =>
    rw [hmk] at h
    dsimp only at h
    cases hold : x.2.stpStpmGetInstance (x.2.g_VID2MSTID VID) with
    | none =>
      rw [hold] at h
      cases h
      exact .noOld hne hmk hold
    | some old =>
      rw [hold] at h
      simp only [Option.bind_eq_bind, Option.bind_eq_some_iff] at h
      obtain ⟨y, hdel, h⟩ := h
      split at h
      · rename_i hrc
        cases h
        exact .notTaken hne hmk hold hdel hrc
      rename_i hrc
      have hy : y = (STP_OK, y.2) := Prod.ext (not_not.mp hrc) rfl
      rw [hy] at hdel
      simp only [Option.bind_eq_some_iff] at h
      obtain ⟨z, hadd, h⟩ := h
      split at h
      · rename_i hrc
        cases h
        exact .notAdded hne hmk hold hdel hadd hrc
      rename_i hrc
      have hz : z = (STP_OK, z.2) := Prod.ext (not_not.mp hrc) rfl
      rw [hz] at hadd
      simp only [Option.bind_eq_some_iff] at h
      obtain ⟨cist, hcist, h⟩ := h
      cases h
      exact .moved hne hmk hold hdel hadd hcist

theorem Roll.getOrCreate (h : r.Roll) (hmk : r.getOrCreate MSTID = some (a, r')) : r'.Roll := by
  rw [Registry.getOrCreate] at hmk
  cases hget : r.stpStpmGetInstance MSTID with
  | some s =>
    rw [hget] at hmk
    cases hmk
    exact h
  | none =>
    rw [hget] at hmk
    exact (h.created hmk).2.roll h hget

theorem Roll.calcDigest (h : r.Roll) : (r.stpMgmtCalcConfigidDigest digest a).Roll :=
  h.setStpm (fun _ => rfl) fun _ => rfl

theorem Roll.update {started : Int} (h : r.Roll)
    (hu : r.stpMgmtStpmUpdateInstance c digest MSTID VID junk started = some (rc, r')) : r'.Roll := by
  cases update_ends hu with
  | already => exact h
  | notMade => exact h
  | noOld _ hmk => exact h.getOrCreate hmk
  | notTaken _ hmk _ hdel => exact (h.getOrCreate hmk).delVlan hdel
  | notAdded _ hmk _ hdel hadd => exact ((h.getOrCreate hmk).delVlan hdel).addVlan hadd
  | moved _ hmk _ hdel hadd => exact (((h.getOrCreate hmk).delVlan hdel).addVlan hadd).calcDigest

theorem build_eq (h : r.stpMgmtBuildConfigidDigest = some r') : r' = r := by
  simp only [stpMgmtBuildConfigidDigest, Option.map_eq_some_iff] at h
  obtain ⟨a, -, h⟩ := h
  exact h.symm

/-- What `stp_in_add_vlan_to_cist` does: the VLAN is added to the CIST, if there is one. -/
theorem addVlanToCist_cases {vid : Nat} {port_bmp : PortBmp}
    (h : r.stpInAddVlanToCist c vid port_bmp = some (rc, r')) :
    (r.g_CISTBRIDGE = none ∧ rc = STP_BRIDGE_NOTFOUND ∧
        r' = { r with g_VlanPBMP := Function.update r.g_VlanPBMP vid port_bmp }) ∨
      ∃ a, r.g_CISTBRIDGE = some a ∧ stpMgmtStpmAddVlan
        { r with g_VlanPBMP := Function.update r.g_VlanPBMP vid port_bmp } c a vid = some (rc, r') := by
  rw [stpInAddVlanToCist] at h
  cases hg : r.g_CISTBRIDGE with
  | none =>
    simp only [hg] at h
    cases h
    exact .inl ⟨rfl, rfl, rfl⟩
  | some a =>
    simp only [hg, Option.bind_eq_bind, Option.bind_eq_some_iff] at h
    obtain ⟨x, hadd, h⟩ := h
    refine .inr ⟨a, rfl, ?_⟩
    split at h
    · cases h
      exact hadd
    · rename_i hrc
      simp only [Option.bind_eq_some_iff] at h
      obtain ⟨r₁, hbuild, h⟩ := h
      cases h
      rw [hadd, build_eq hbuild, ← not_not.mp hrc]

/-- What `stp_in_del_vlan_from_cist` does: the VLAN is taken from its instance, if that is another
one. -/
theorem delVlanFromCist_cases {vid : Nat} (h : r.stpInDelVlanFromCist c vid junk = some (rc, r')) :
    r' = r ∨ ∃ s, r.g_VID2MSTID vid ≠ STP_CIST_ID ∧
      r.stpStpmGetInstance (r.g_VID2MSTID vid) = some s ∧
      r.stpMgmtStpmDelVlan c s.addr vid junk = some (rc, r') := by
  rw [stpInDelVlanFromCist] at h
  split at h
  · cases h
    exact .inl rfl
  rename_i hid
  cases hget : r.stpStpmGetInstance (r.g_VID2MSTID vid) with
  | none =>
    rw [hget] at h
    cases h
    exact .inl rfl
  | some s =>
    simp only [hget, Option.bind_eq_bind, Option.bind_eq_some_iff] at h
    obtain ⟨x, hdel, h⟩ := h
    refine .inr ⟨s, hid, rfl, ?_⟩
    split at h
    · cases h
      exact hdel
    · rename_i hrc
      simp only [Option.bind_eq_some_iff] at h
      obtain ⟨r₁, hbuild, h⟩ := h
      cases h
      rw [hdel, build_eq hbuild, ← not_not.mp hrc]

theorem dropPorts_kept {n : Nat} (h : dropPorts a n r = some r') : Kept r r' := by
  induction n generalizing r with
  | zero =>
    simp only [dropPorts, Option.bind_eq_bind, Option.bind_eq_some_iff] at h
    obtain ⟨s, -, h⟩ := h
    split at h
    · cases h
      exact .refl
    · cases h
  | succ n ih =>
    simp only [dropPorts, Option.bind_eq_bind, Option.bind_eq_some_iff] at h
    obtain ⟨s, -, h⟩ := h
    split at h
    · cases h
      exact .refl
    · simp only [Option.bind_eq_some_iff] at h
      obtain ⟨r₁, hdel, h⟩ := h
      exact (portDelete_kept hdel).trans (ih h)

theorem Roll.dropInstances {n : Nat} (hr : r.Roll) (h : dropInstances n r = some r') : r'.Roll := by
  induction n generalizing r with
  | zero =>
    rw [Registry.dropInstances] at h
    split at h
    · cases h
      exact hr
    · cases h
  | succ n ih =>
    rw [Registry.dropInstances] at h
    split at h
    · cases h
      exact hr
    · simp only [Option.bind_eq_bind, Option.bind_eq_some_iff] at h
      obtain ⟨r₁, hports, r₂, hdel, h⟩ := h
      exact ih (((dropPorts_kept hports).roll hr).of_delete hdel) h

theorem Roll.deleteAll (hr : r.Roll) (h : r.stpMgmtStpmDeleteAll = some r') : r'.Roll := by
  simp only [stpMgmtStpmDeleteAll, Option.bind_eq_bind, Option.bind_eq_some_iff] at h
  obtain ⟨r₁, hdrop, h⟩ := h
  cases h
  exact (hr.dropInstances hdrop).of_heads rfl rfl (Nat.le_refl _)

theorem Roll.no_cist (hr : r.Roll) (hg : r.g_CISTBRIDGE = none) :
    r.stpStpmGetInstance STP_CIST_ID = none := by
  cases hget : r.stpStpmGetInstance STP_CIST_ID with
  | none => rfl
  | some s =>
    obtain ⟨hs, hid⟩ := mem_of_instance hget
    rw [(hr.cist s hs).mp hid] at hg
    cases hg

theorem Roll.createCist (hr : r.Roll) : (r.stpMgmtStpmCreateCist digest).Roll := by
  rw [stpMgmtStpmCreateCist]
  cases hg : r.g_CISTBRIDGE with
  | some a => exact hr
  | none =>
    cases hmk : r.stpStpmMstCreate STP_CIST_ID with
    | none => exact hr
    | some x =>
      have hroll := (hr.created hmk).2.roll hr (hr.no_cist hg)
      exact Roll.calcDigest (hroll.setStpm (a := x.1)
        (f := fun s => { s with vlan_map := ⟨Finset.range 4096, 4094⟩ }) (fun _ => rfl) fun _ => rfl)

theorem calc_fresh (h : r.Roll) (hg : r.g_CISTBRIDGE = some a) :
    (r.stpMgmtCalcConfigidDigest digest a).Fresh digest := by
  obtain ⟨s, hs, rfl⟩ := h.known a hg
  have hmem : { s with ConfigurationDigest := digest (configTable r.g_VID2MSTID) } ∈
      (r.stpMgmtCalcConfigidDigest digest s.addr).bridges :=
    mem_setStpm.mpr ⟨s, hs, by simp⟩
  have hstpm := (@Registry.Roll.calcDigest _ digest s.addr h).stpm hmem
  have hg' : (r.stpMgmtCalcConfigidDigest digest s.addr).g_CISTBRIDGE = some s.addr := hg
  rw [Fresh, cistDigest, hg', Option.bind_some]
  dsimp only at hstpm
  rw [hstpm]
  rfl

end

end Registry

namespace VlanOp

open Registry

section
variable {r r' : Registry} {c : Chassis} {digest : List UInt16 → Octets} {op : VlanOp} {rc : Int}
  {w : Nat → PortBmp} {ops : List VlanOp}

theorem call_roll (h : r.Roll) (hcall : op.call c digest r = some (rc, r')) : r'.Roll := by
  cases op with
  | updateInstance MSTID VID junk started =>
    rw [call] at hcall
    split at hcall
    · exact h.update hcall
    · cases hcall
  | addVlanToCist vid port_bmp =>
    rw [call] at hcall
    split at hcall
    · rcases addVlanToCist_cases hcall with ⟨-, -, rfl⟩ | ⟨a, -, hadd⟩
      · exact h.pbmp
      · exact h.pbmp.addVlan hadd
    · cases hcall
  | delVlanFromCist vid junk =>
    rw [call] at hcall
    split at hcall
    · rcases delVlanFromCist_cases hcall with rfl | ⟨s, -, -, hdel⟩
      · exact h
      · exact h.delVlan hdel
    · cases hcall
  | recreate =>
    simp only [call, Option.map_eq_some_iff] at hcall
    obtain ⟨r₁, hall, hr'⟩ := hcall
    cases hr'
    exact (h.deleteAll hall).createCist
  | initVlanpbmp VID ports =>
    rw [call] at hcall
    split at hcall
    · cases hcall
      exact h.pbmp
    · cases hcall
  | addport MSTID port_index VID isWan => exact (addport_kept hcall).roll h
  | delport MSTID port_index VID junk => exact (delport_kept hcall).roll h

theorem run_roll (h : r.Roll) (hrun : tryRun (step c digest) r ops = some r') : r'.Roll := by
  induction ops generalizing r with
  | nil =>
    cases hrun
    exact h
  | cons op ops ih =>
    simp only [tryRun, Option.bind_eq_some_iff] at hrun
    obtain ⟨r₁, hstep, hrun⟩ := hrun
    simp only [step, Option.map_eq_some_iff] at hstep
    obtain ⟨x, hcall, rfl⟩ := hstep
    exact ih (call_roll h hcall) hrun

theorem fresh_roll : (Registry.fresh digest w).Roll :=
  (wf_empty (c := ⟨.other, false, 0⟩)).toRoll.createCist

/-- The operations that change the table, and the VLAN they change it for. -/
def vlan : VlanOp → Option UInt16
  | updateInstance _ VID _ _ => some VID
  | addVlanToCist vid _ => some vid
  | delVlanFromCist vid _ => some vid
  | _ => none

/-- The digest is calculated, or it is the one of the table in which the VLAN is in the CIST. -/
def Refreshes (digest : List UInt16 → Octets) (r : Registry) : VlanOp → Prop
  | addVlanToCist vid _ | delVlanFromCist vid _ =>
    r.cistDigest = some (digest (configTable (Function.update r.g_VID2MSTID vid.toNat STP_CIST_ID)))
  | _ => True

/-- After an operation that succeeds in changing the table the digest is fresh exactly if the operation
refreshes it. -/
theorem digest_fresh_iff (hrun : tryRun (step c digest) (Registry.fresh digest w) ops = some r)
    (hop : op.vlan ≠ none) (hcall : op.call c digest r = some (STP_OK, r'))
    (hch : r'.g_VID2MSTID ≠ r.g_VID2MSTID) : r'.Fresh digest ↔ op.Refreshes digest r := by
  have hroll : r.Roll := run_roll fresh_roll hrun
  cases op with
  | updateInstance MSTID VID junk started =>
    rw [call] at hcall
    split at hcall
    · refine iff_of_true ?_ trivial
      generalize hrc : STP_OK = rc at hcall
      cases update_ends hcall with
      | already => exact absurd rfl hch
      | notMade => exact absurd hrc (by decide)
      | noOld => exact absurd hrc (by decide)
      | notTaken _ _ _ _ hne => exact absurd hrc.symm hne
      | notAdded _ _ _ _ _ hne => exact absurd hrc.symm hne
      | moved _ hmk _ hdel hadd hcist =>
        exact calc_fresh (((hroll.getOrCreate hmk).delVlan hdel).addVlan hadd) hcist
    · cases hcall
  | addVlanToCist vid port_bmp =>
    rw [call] at hcall
    split at hcall
    · rcases addVlanToCist_cases hcall with ⟨-, hrc, -⟩ | ⟨a, hg, hadd⟩
      · exact absurd hrc (by decide)
      · obtain ⟨s, hs, htable, hdig⟩ := addVlan_ok hadd
        have hid : s.vlan_id = STP_CIST_ID := by
          obtain ⟨hmem, rfl⟩ := mem_of_stpm hs
          exact (hroll.cist s hmem).mpr hg
        rw [Fresh, hdig, htable, hid]
        rfl
    · cases hcall
  | delVlanFromCist vid junk =>
    rw [call] at hcall
    split at hcall
    · rcases delVlanFromCist_cases hcall with rfl | ⟨s, -, -, hdel⟩
      · exact absurd rfl hch
      · obtain ⟨htable, hdig⟩ := hroll.delVlan_ok hdel
        rw [Fresh, hdig, htable]
        rfl
    · cases hcall
  | recreate => exact absurd rfl hop
  | initVlanpbmp VID ports => exact absurd rfl hop
  | addport MSTID port_index VID isWan => exact absurd rfl hop
  | delport MSTID port_index VID junk => exact absurd rfl hop

/-- What the digest of a table might be, as far as VLAN 10 is concerned. -/
def digest10 (l : List UInt16) : Octets := [(l.getD 10 0).toUInt8]

/-- VLAN 10 is in the instance 1, and is taken from it. -/
theorem moved10 : ∃ r r', tryRun (step PortOp.plain digest10) (Registry.fresh digest10 fun _ _ => 0)
      [updateInstance 1 10 (fun _ => 0) STP_OK] = some r ∧
    (delVlanFromCist 10 fun _ => 0).call PortOp.plain digest10 r = some (STP_OK, r') ∧
    r.g_VID2MSTID 10 = 1 ∧ r'.g_VID2MSTID 10 = 0 ∧ r'.cistDigest = some [1] ∧
      digest10 (configTable r'.g_VID2MSTID) = [0] := by
  have hends : ((tryRun (step PortOp.plain digest10) (Registry.fresh digest10 fun _ _ => 0)
      [updateInstance 1 10 (fun _ => 0) STP_OK]).bind fun r =>
        ((delVlanFromCist 10 fun _ => 0).call PortOp.plain digest10 r).map fun x =>
          (((r.g_VID2MSTID 10, x.2.g_VID2MSTID 10), x.1),
            (x.2.cistDigest, digest10 (configTable x.2.g_VID2MSTID)))) =
      some (((1, 0), STP_OK), (some [1], [0])) := by
    decide +kernel
  simp only [Option.bind_eq_some_iff, Option.map_eq_some_iff, Prod.mk.injEq] at hends
  obtain ⟨r, hr, x, hx, ⟨⟨h1, h2⟩, hrc⟩, h3, h4⟩ := hends
  exact ⟨r, x.2, hr, hrc ▸ hx, h1, h2, h3, h4⟩

theorem digest_fresh_iff_moved10 : ∃ r r',
    (delVlanFromCist 10 fun _ => 0).call PortOp.plain digest10 r = some (STP_OK, r') ∧
      (r'.Fresh digest10 ↔ (delVlanFromCist 10 fun _ => 0).Refreshes digest10 r) := by
  obtain ⟨r, r', hrun, hcall, h1, h2, -⟩ := moved10
  refine ⟨r, r', hcall, digest_fresh_iff hrun (by decide) hcall fun he => ?_⟩
  rw [he, h1] at h2
  exact absurd h2 (by decide)

/-- After VLAN 10 has gone back to the CIST the digest is still the one of the table before. -/
theorem digest_stale : ¬ ∀ ops r op r', tryRun (step PortOp.plain digest10)
      (Registry.fresh digest10 fun _ _ => 0) ops = some r →
    vlan op ≠ none → op.call PortOp.plain digest10 r = some (STP_OK, r') →
    r'.g_VID2MSTID ≠ r.g_VID2MSTID → r'.Fresh digest10 := by
  intro h
  obtain ⟨r, r', hrun, hcall, h1, h2, h3, h4⟩ := moved10
  have hfresh := h _ r _ r' hrun (by decide) hcall fun he => by
    rw [he, h1] at h2
    exact absurd h2 (by decide)
  rw [Fresh, h3, h4] at hfresh
  exact absurd hfresh (by decide)

end

end VlanOp

end Stp
end DaemonGroup
