import DaemonGroup.Stp.Messages

/-!
# DaemonGroup.Stp.Roles

The selection of the roles of the ports (`stp_rolesel.c`).

* `election_iff` — for which costs the elected vector is the least one there is.
* `roles_selected` — what the role of a port depends on, and which port is the root port.
-/

namespace DaemonGroup
namespace Stp

open Lib

/-- The part of `STPM_T` that the selection works on. What the ports can reach is with them. -/
structure Instance where
  vlan_id : UInt16
  BrId : BridgeId
  BrTimes : TimeValues
  rootPortId : UInt16
  rootPrio : PrioVector
  rootTimes : TimeValues
  ports : List Info

/-! ## The election -/

/-- `stp_rolesel_is_backup_port` -/
def stpRoleselIsBackupPort (p : XstPort) (s : Instance) : Bool :=
  stpVectorCompareBridgeId p.portPrio.design_bridge s.BrId = 0

/-- The port has information from another bridge; an MST port at the border of the region has not. -/
def Instance.eligible (s : Instance) (i : Info) : Bool :=
  let p := i.port
  ¬ p.admin_non_stp ∧ p.infoIs ≠ .Disabled ∧ p.infoIs ≠ .Aged ∧ p.infoIs ≠ .Mine ∧
    stpVectorCompareBridgeId p.portPrio.design_bridge s.BrId ≠ 0 ∧
    (s.vlan_id ≠ STP_CIST_ID →
      (i.cist.map fun c => decide ¬ (c.infoInternal = false ∧ c.infoIs = .Received)).getD false)

/-- The vector of a port with the cost of the port. -/
def Instance.rootPathPrio (s : Instance) (p : XstPort) : PrioVector :=
  let v := p.portPrio
  if s.vlan_id = STP_CIST_ID then
    if p.infoInternal then
      { v with region_root_path_cost := v.region_root_path_cost + p.operPCost }
    else
      { v with
        root_path_cost := v.root_path_cost + p.operPCost
        region_root_bridge := s.BrId
        region_root_path_cost := 0 }
  else
    { v with region_root_path_cost := v.region_root_path_cost + p.operPCost }

/-- One round of `stp_rolesel_updtRootPrio`. -/
def electPort (s : Instance) (i : Info) : Instance :=
  if s.eligible i then
    let rootPathPrio := s.rootPathPrio i.port
    if stpVectorCompare rootPathPrio s.rootPrio < 0 then
      { s with rootPrio := rootPathPrio, rootTimes := i.port.portTimes }
    else s
  else s

/-- `stp_rolesel_updtRootPrio` -/
def stpRoleselUpdtRootPrio (s : Instance) : Instance := s.ports.foldl electPort s

/-- The bridge identifier of all zeros. -/
def null_br : BridgeId := ⟨0, zeroMac⟩

/-- The vector of the bridge itself. -/
def Instance.ownPrio (s : Instance) : PrioVector :=
  stpVectorCreate (if s.vlan_id = STP_CIST_ID then s.BrId else null_br) 0 s.BrId 0 s.BrId 0 0

/-- The election begins with the bridge itself as the root. -/
def Instance.beginElection (s : Instance) : Instance :=
  { s with
    rootPrio := s.ownPrio
    rootTimes := s.BrTimes
    rootPortId := 0 }

/-- The bridge elects its root: the part of `stp_rolesel_updtRolesCist` and
`stp_rolesel_updtRolesMsti` before the ports get what they send. -/
def Instance.elect (s : Instance) : Instance := stpRoleselUpdtRootPrio s.beginElection

/-! ## The roles -/

/-- `stp_rolesel_setRoleSelected` -/
def stpRoleselSetRoleSelected (newRole : PortRole) (p : XstPort) : XstPort :=
  let old := p.role
  let p := { p with selectedRole := newRole }
  if newRole = old then p
  else
    { p with
      role := if newRole = .NonStpPort then newRole else p.role
      proposing := false
      proposed := false
      agree := false
      agreed := false
      sync := false
      synced := false }

/-- A port that takes no part. -/
def setNonStp (p : XstPort) : XstPort :=
  { stpRoleselSetRoleSelected .NonStpPort p with
    forward := true
    learn := true }

/-- What the port has is not what it sends. -/
def XstPort.differs (p : XstPort) : Bool :=
  stpVectorCompare p.portPrio p.designPrio ≠ 0 ∨ stpTimesCompare p.portTimes p.designTimes ≠ 0

/-- The role of a port by the state of its information. -/
def roleByInfo (s : Instance) (p : XstPort) : XstPort :=
  match p.infoIs with
  | .Disabled => stpRoleselSetRoleSelected .DisabledPort p
  | .Aged => { stpRoleselSetRoleSelected .DesignatedPort p with updtInfo := true }
  | .Mine =>
    let p := stpRoleselSetRoleSelected .DesignatedPort p
    if p.differs then { p with updtInfo := true } else p
  | .Received =>
    if s.rootPortId = p.port_id then
      { stpRoleselSetRoleSelected .RootPort p with updtInfo := false }
    else if stpVectorCompare p.designPrio p.portPrio < 0 then
      { stpRoleselSetRoleSelected .DesignatedPort p with updtInfo := true }
    else if stpRoleselIsBackupPort p s then
      { stpRoleselSetRoleSelected .BackupPort p with updtInfo := false }
    else
      { stpRoleselSetRoleSelected .AlternatePort p with updtInfo := false }

/-- What a port of the elected bridge sends. -/
def designate (s : Instance) (i : Info) : Info :=
  let p := i.port
  if p.admin_non_stp then i
  else
    let v := stpVectorCreate s.rootPrio.root_bridge s.rootPrio.root_path_cost
      s.rootPrio.region_root_bridge s.rootPrio.region_root_path_cost s.BrId p.port_id p.port_id
    { i with
      port := { p with
        designPrio :=
          if s.vlan_id = STP_CIST_ID ∧ ¬ p.sendRSTP then { v with region_root_bridge := s.BrId }
          else v
        designTimes := s.rootTimes } }

/-- The ports get what they send, and the bridge knows its root port. -/
def Instance.designated (s : Instance) : Instance :=
  { s with
    ports := s.ports.map (designate s)
    rootPortId := s.rootPrio.bridge_port }

/-- The MST ports behind the ports learn that the region root is another one. -/
def setChangedMaster (had_cist_pathcost : UInt32) (old_region_root : MacAddr) (s : Instance) :
    Instance :=
  if (s.rootPrio.root_path_cost ≠ 0 ∨ had_cist_pathcost ≠ 0) ∧
      memcmp old_region_root s.rootPrio.region_root_bridge.addr ≠ 0 then
    { s with
      ports := s.ports.map fun i =>
        { i with nextMst := i.nextMst.map fun m => { m with changedMaster := true } } }
  else s

/-- The role of a port of the CIST. The MST ports behind a port at the border select theirs anew. -/
def updtRoleCist (s : Instance) (i : Info) : Info :=
  if i.port.admin_non_stp then { i with port := setNonStp i.port }
  else
    let p := roleByInfo s i.port
    if ¬ p.infoInternal ∨ ¬ p.rcvdInternal then
      { i with
        port := p
        nextMst := i.nextMst.map fun m => { m with reselect := true, selected := false } }
    else { i with port := p }

/-- `stp_rolesel_updtRolesCist` -/
def stpRoleselUpdtRolesCist (s : Instance) : Instance :=
  let had_cist_pathcost := s.rootPrio.root_path_cost
  let old_region_root := s.rootPrio.region_root_bridge.addr
  let s := setChangedMaster had_cist_pathcost old_region_root s.elect.designated
  { s with ports := s.ports.map (updtRoleCist s) }

/-- The port of the CIST has information from another region. -/
def XstPort.atBorder (cistport : XstPort) : Bool :=
  cistport.portEnabled ∧ cistport.infoIs = .Received ∧ cistport.infoInternal = false

/-- The role of an MST port at the border of the region. -/
def roleAtBorder (cistport : XstPort) (p : XstPort) : XstPort :=
  let p :=
    if cistport.selectedRole = .RootPort then stpRoleselSetRoleSelected .MasterPort p
    else if cistport.selectedRole = .AlternatePort then stpRoleselSetRoleSelected .AlternatePort p
    else p
  if p.differs then { p with updtInfo := true } else p

/-- The loop over the ports of an MST instance. It ends at a port without a port of the CIST. -/
def updtRolesMsti (s : Instance) : List Info → List Info
  | [] => []
  | i :: l =>
    if i.port.admin_non_stp then { i with port := setNonStp i.port } :: updtRolesMsti s l
    else
      match i.cist with
      | none => i :: l
      | some cistport =>
        { i with
          port := if cistport.atBorder then roleAtBorder cistport i.port
            else roleByInfo s i.port } :: updtRolesMsti s l

/-- `stp_rolesel_updtRolesMsti` -/
def stpRoleselUpdtRolesMsti (s : Instance) : Instance :=
  let s := s.elect.designated
  { s with ports := updtRolesMsti s s.ports }

/-- `stp_rolesel_updtRolesXst` -/
def stpRoleselUpdtRolesXst (s : Instance) : Instance :=
  if s.vlan_id = STP_CIST_ID then stpRoleselUpdtRolesCist s else stpRoleselUpdtRolesMsti s

/-! ## The elected vector -/

section
variable {s t : Instance} {i j : Info} {l : List Info}

/-- The ports that a bridge elects from. -/
def Instance.candidates (s : Instance) : List Info := s.ports.filter (s.eligible ·)

/-- The vectors that are compared in an election. -/
def Instance.vectors (s : Instance) : List PrioVector :=
  s.ownPrio :: s.candidates.map (s.rootPathPrio ·.port)

/-- The elected vector is the least one of the bridge's own and of those of the ports. -/
def Instance.Least (s : Instance) (v : PrioVector) : Prop :=
  v ∈ s.vectors ∧ ∀ w ∈ s.vectors, v.rank ≤ w.rank

/-- The election is one of a least vector: the vectors of the bridge are compared as they are
ordered, the cost of a port makes none of them better, and in whatever order the ports are, the
vector that is elected is the least one. -/
structure Instance.Elects (s : Instance) : Prop where
  ordered : ∀ v ∈ s.vectors ++ s.candidates.map (·.port.portPrio),
    ∀ w ∈ s.vectors ++ s.candidates.map (·.port.portPrio),
      Compares (stpVectorCompare v w) v.rank w.rank
  rises : ∀ i ∈ s.candidates, i.port.portPrio.rank ≤ (s.rootPathPrio i.port).rank
  least : ∀ l, l.Perm s.ports → s.Least ({ s with ports := l } : Instance).elect.rootPrio

/-- The cost of a port can be added to its vector. -/
def Instance.Fits (s : Instance) (p : XstPort) : Prop :=
  if s.vlan_id = STP_CIST_ID ∧ p.infoInternal = false then
    p.portPrio.root_path_cost.toNat + p.operPCost.toNat < 2 ^ 32 ∧
      (p.operPCost = 0 → p.portPrio.region_root_bridge.rank < s.BrId.rank ∨
        p.portPrio.region_root_bridge.rank = s.BrId.rank ∧
          p.portPrio.region_root_path_cost.toNat = 0)
  else p.portPrio.region_root_path_cost.toNat + p.operPCost.toNat < 2 ^ 32

/-- The costs that decide between two vectors are less than half of the range apart, and no sum
of costs leaves the range. -/
structure Instance.InRange (s : Instance) : Prop where
  within : ∀ v ∈ s.vectors ++ s.candidates.map (·.port.portPrio),
    ∀ w ∈ s.vectors ++ s.candidates.map (·.port.portPrio), v.Within w
  fits : ∀ i ∈ s.candidates, s.Fits i.port

theorem foldl_electPort : (l.foldl electPort s).rootPrio =
    best stpVectorCompare s.rootPrio ((l.filter (s.eligible ·)).map (s.rootPathPrio ·.port)) := by
  induction l generalizing s with
  | nil => rfl
  | cons i l ih =>
    rw [List.foldl_cons, ih]
    by_cases hi : s.eligible i = true
    · rw [List.filter_cons_of_pos hi, List.map_cons, best_cons, electPort, if_pos hi]
      dsimp only
      split <;> rfl
    · rw [List.filter_cons_of_neg hi, electPort, if_neg hi]

theorem elect_rootPrio : s.elect.rootPrio =
    best stpVectorCompare s.ownPrio (s.candidates.map (s.rootPathPrio ·.port)) :=
  @foldl_electPort s.beginElection s.ports

theorem le_add_iff {a b : UInt32} : a.toNat ≤ (a + b).toNat ↔ a.toNat + b.toNat < 2 ^ 32 := by
  have ha := a.toNat_lt
  have hb := b.toNat_lt
  rw [UInt32.toNat_add]
  omega

theorem eq_add_iff {a b : UInt32} : a.toNat = (a + b).toNat ↔ b = 0 := by
  have ha := a.toNat_lt
  have hb := b.toNat_lt
  rw [UInt32.toNat_add, ← UInt32.toNat_inj, UInt32.toNat_zero]
  omega

/-- Inside the region the cost goes to the internal path. -/
theorem internal_rises {v : PrioVector} {c : UInt32} :
    v.rank ≤ ({ v with region_root_path_cost := v.region_root_path_cost + c } : PrioVector).rank ↔
      v.region_root_path_cost.toNat + c.toNat < 2 ^ 32 := by
  rw [← le_add_iff]
  simp only [PrioVector.rank, Prod.Lex.toLex_le_toLex, lt_irrefl, le_refl, false_or, true_and,
    and_true]
  exact le_iff_lt_or_eq.symm

/-- Between regions the cost goes to the external path, and the bridge becomes the region root. -/
theorem external_rises {v : PrioVector} {b : BridgeId} {c : UInt32} :
    v.rank ≤ ({ v with
        root_path_cost := v.root_path_cost + c
        region_root_bridge := b
        region_root_path_cost := 0 } : PrioVector).rank ↔
      v.root_path_cost.toNat + c.toNat < 2 ^ 32 ∧
        (c = 0 → v.region_root_bridge.rank < b.rank ∨
          v.region_root_bridge.rank = b.rank ∧ v.region_root_path_cost.toNat = 0) := by
  rw [← le_add_iff]
  simp only [PrioVector.rank, Prod.Lex.toLex_le_toLex, lt_irrefl, le_refl, false_or, true_and,
    and_true, UInt32.toNat_zero, Nat.not_lt_zero, eq_add_iff]
  constructor
  · rintro (hlt | ⟨rfl, h⟩)
    · refine ⟨hlt.le, ?_⟩
      rintro rfl
      simp at hlt
    · exact ⟨by simp, fun _ => h⟩
  · rintro ⟨hle, h⟩
    by_cases hc : c = 0
    · exact Or.inr ⟨hc, h hc⟩
    · exact Or.inl (lt_of_le_of_ne hle fun he => hc (eq_add_iff.mp he))

theorem rises_iff {p : XstPort} : p.portPrio.rank ≤ (s.rootPathPrio p).rank ↔ s.Fits p := by
  unfold Instance.rootPathPrio Instance.Fits
  by_cases hv : s.vlan_id = STP_CIST_ID
  · by_cases hin : p.infoInternal = true
    · rw [if_pos hv, if_pos hin, if_neg (by simp [hin])]
      exact internal_rises
    · rw [if_pos hv, if_neg hin, if_pos ⟨hv, Bool.eq_false_iff.mpr hin⟩]
      exact external_rises
  · rw [if_neg hv, if_neg fun h => hv h.1]
    exact internal_rises

/-- The order of the ports makes no difference to what there is to elect from. -/
theorem vectors_perm (h : l.Perm s.ports) :
    ({ s with ports := l } : Instance).vectors.Perm s.vectors :=
  List.Perm.cons _ (((h.filter (s.eligible ·))).map _)

/-- The elected vector is a least one exactly if the costs are in range. -/
theorem elects_iff : s.Elects ↔ s.InRange := by
  constructor
  · intro h
    constructor
    · intro v hv w hw
      exact compares_iff_within.mp (h.ordered v hv w hw)
    · intro i hi
      exact rises_iff.mp (h.rises i hi)
  · intro h
    constructor
    · intro v hv w hw
      exact compares_iff_within.mpr (h.within v hv w hw)
    · intro i hi
      exact rises_iff.mpr (h.fits i hi)
    · intro l hl
      have hperm := vectors_perm hl
      have hord : ∀ v ∈ ({ s with ports := l } : Instance).vectors,
          ∀ w ∈ ({ s with ports := l } : Instance).vectors,
            Compares (stpVectorCompare v w) v.rank w.rank := by
        intro v hv w hw
        exact compares_iff_within.mpr (h.within v (List.mem_append_left _ (hperm.subset hv)) w
          (List.mem_append_left _ (hperm.subset hw)))
      obtain ⟨hmem, hle⟩ := best_least hord
      rw [elect_rootPrio]
      exact ⟨hperm.subset hmem, fun w hw => hle w (hperm.symm.subset hw)⟩

/-- Two vectors are compared as they are ordered exactly if the costs that decide are in range of
each other, and a bridge elects the least vector exactly if its costs are in range. -/
theorem election_iff (v w : PrioVector) (s : Instance) :
    (Compares (stpVectorCompare v w) v.rank w.rank ↔ v.Within w) ∧ (s.Elects ↔ s.InRange) :=
  ⟨compares_iff_within, elects_iff⟩

end

/-- A port of the CIST that has information on a root at this cost. -/
def rootAt (port_id : UInt16) (cost : UInt32) : Info :=
  { port := { freshXstPort with
      port_id := port_id
      operPCost := 1
      infoIs := .Received
      portPrio := { zeroPrio with
        root_bridge := ⟨0x1000, zeroMac⟩
        root_path_cost := cost
        design_bridge := ⟨0x2000, zeroMac⟩
        bridge_port := port_id } }
    nextMst := []
    cist := none
    BrTimes := zeroTimes }

/-- A bridge with these ports. -/
def bridgeWith (ports : List Info) : Instance :=
  { vlan_id := 0
    BrId := ⟨0x8000, zeroMac⟩
    BrTimes := zeroTimes
    rootPortId := 0
    rootPrio := zeroPrio
    rootTimes := zeroTimes
    ports := ports }

/-- Two costs that are half of the range apart are each less than the other: the port that comes last
is elected. -/
theorem half_range_elected :
    (bridgeWith [rootAt 1 0, rootAt 2 0x80000000]).elect.rootPrio.bridge_port = 2 ∧
    (bridgeWith [rootAt 2 0x80000000, rootAt 1 0]).elect.rootPrio.bridge_port = 1 ∧
    ¬ (bridgeWith [rootAt 1 0, rootAt 2 0x80000000]).Elects := by
  refine ⟨by decide +kernel, by decide +kernel, fun h => ?_⟩
  have hlt := (h.ordered (rootAt 2 0x80000000).port.portPrio (by decide +kernel)
    (rootAt 1 0).port.portPrio (by decide +kernel)).neg.mp (by decide +kernel)
  exact absurd hlt (by decide +kernel)

/-! ## The selected roles -/

section
variable {s t : Instance} {i j : Info} {l : List Info}

/-- An MST port whose port of the CIST is at the border of the region. -/
def Instance.Border (s : Instance) (i : Info) : Prop :=
  s.vlan_id ≠ STP_CIST_ID ∧ ∃ c, i.cist = some c ∧ c.atBorder

/-- The port gets a role. One at the border of the region gets none unless its port of the CIST is a
root or alternate port. -/
def Instance.Assigned (s : Instance) (i : Info) : Prop :=
  i.port.admin_non_stp = true ∨ s.vlan_id = STP_CIST_ID ∨
    ∀ c, i.cist = some c → c.atBorder = true →
      c.selectedRole = .RootPort ∨ c.selectedRole = .AlternatePort

/-- The port without the role that was selected for it. -/
def Info.forget (i : Info) : Info := { i with port := { i.port with selectedRole := .DisabledPort } }

def Instance.forget (s : Instance) : Instance := { s with ports := s.ports.map Info.forget }

/-- What the roles of the ports are like after the selection. -/
structure Instance.RolesSelected (r : Instance) : Prop where
  root_once : ∀ i ∈ r.ports, ∀ j ∈ r.ports, r.Assigned i → r.Assigned j →
    i.port.selectedRole = .RootPort → j.port.selectedRole = .RootPort → i = j
  root_iff : ∀ i ∈ r.ports, r.Assigned i →
    (i.port.selectedRole = .RootPort ↔ r.rootPortId = i.port.port_id ∧
      i.port.infoIs = .Received ∧ i.port.admin_non_stp = false ∧ ¬ r.Border i)
  standby : ∀ i ∈ r.ports, r.Assigned i →
    i.port.selectedRole = .AlternatePort ∨ i.port.selectedRole = .BackupPort →
      r.Border i ∨ 0 ≤ stpVectorCompare i.port.designPrio i.port.portPrio

/-- The role of a port by the state of its information. -/
def chosen (s : Instance) (p : XstPort) : PortRole :=
  match p.infoIs with
  | .Disabled => .DisabledPort
  | .Aged => .DesignatedPort
  | .Mine => .DesignatedPort
  | .Received =>
    if s.rootPortId = p.port_id then .RootPort
    else if stpVectorCompare p.designPrio p.portPrio < 0 then .DesignatedPort
    else if stpRoleselIsBackupPort p s then .BackupPort
    else .AlternatePort

/-- What the selection of a role leaves of a port. -/
structure SameData (p q : XstPort) : Prop where
  port_id : q.port_id = p.port_id
  infoIs : q.infoIs = p.infoIs
  admin_non_stp : q.admin_non_stp = p.admin_non_stp
  portPrio : q.portPrio = p.portPrio
  designPrio : q.designPrio = p.designPrio

theorem setRoleSelected_data {r : PortRole} {p : XstPort} :
    SameData p (stpRoleselSetRoleSelected r p) ∧
      (stpRoleselSetRoleSelected r p).selectedRole = r := by
  unfold stpRoleselSetRoleSelected
  dsimp only
  split <;> exact ⟨⟨rfl, rfl, rfl, rfl, rfl⟩, rfl⟩

theorem roleByInfo_data {p : XstPort} :
    SameData p (roleByInfo s p) ∧ (roleByInfo s p).selectedRole = chosen s p := by
  have hset : ∀ {r : PortRole} {u : Bool},
      SameData p { stpRoleselSetRoleSelected r p with updtInfo := u } ∧
        ({ stpRoleselSetRoleSelected r p with updtInfo := u } : XstPort).selectedRole = r := by
    intro r u
    obtain ⟨⟨h1, h2, h3, h4, h5⟩, hr⟩ := @setRoleSelected_data r p
    exact ⟨⟨h1, h2, h3, h4, h5⟩, hr⟩
  unfold roleByInfo chosen
  cases hinfo : p.infoIs with
  | Disabled => exact setRoleSelected_data
  | Aged => exact hset
  | Mine =>
    dsimp only
    split
    · exact hset
    · exact setRoleSelected_data
  | Received =>
    dsimp only
    split
    · exact hset
    · split
      · exact hset
      · split <;> exact hset

/-- The role of an MST port that has a port of the CIST. -/
def placeMsti (s : Instance) (c : XstPort) (i : Info) : Info :=
  if i.port.admin_non_stp then { i with port := setNonStp i.port }
  else { i with port := if c.atBorder then roleAtBorder c i.port else roleByInfo s i.port }

/-- The role of a port. -/
def place (s : Instance) (i : Info) : Info :=
  if s.vlan_id = STP_CIST_ID then updtRoleCist s i
  else
    match i.cist with
    | none => i
    | some c => placeMsti s c i

theorem updtRolesMsti_eq (hv : s.vlan_id ≠ STP_CIST_ID) (h : ∀ i ∈ l, i.cist.isSome) :
    updtRolesMsti s l = l.map (place s) := by
  induction l with
  | nil => rfl
  | cons i l ih =>
    obtain ⟨c, hc⟩ := Option.isSome_iff_exists.mp (h i List.mem_cons_self)
    have hrest := ih fun j hj => h j (List.mem_cons_of_mem i hj)
    rw [updtRolesMsti, List.map_cons, place, if_neg hv, hc]
    dsimp only
    unfold placeMsti
    split <;> rw [hrest, hc]

/-- The role that a port gets. -/
def given (s : Instance) (i : Info) : PortRole :=
  if i.port.admin_non_stp then .NonStpPort
  else if s.vlan_id = STP_CIST_ID then chosen s i.port
  else
    match i.cist with
    | none => i.port.selectedRole
    | some c =>
      if c.atBorder then
        if c.selectedRole = .RootPort then .MasterPort
        else if c.selectedRole = .AlternatePort then .AlternatePort
        else i.port.selectedRole
      else chosen s i.port

theorem setNonStp_data {p : XstPort} :
    SameData p (setNonStp p) ∧ (setNonStp p).selectedRole = .NonStpPort := by
  obtain ⟨⟨h1, h2, h3, h4, h5⟩, hr⟩ := @setRoleSelected_data .NonStpPort p
  exact ⟨⟨h1, h2, h3, h4, h5⟩, hr⟩

theorem roleAtBorder_data {c p : XstPort} : SameData p (roleAtBorder c p) ∧
    (roleAtBorder c p).selectedRole =
      if c.selectedRole = .RootPort then .MasterPort
      else if c.selectedRole = .AlternatePort then .AlternatePort
      else p.selectedRole := by
  have hupd : ∀ {q : XstPort} {r : PortRole}, SameData p q ∧ q.selectedRole = r →
      SameData p (if q.differs then { q with updtInfo := true } else q) ∧
        (if q.differs then { q with updtInfo := true } else q : XstPort).selectedRole = r := by
    rintro q r ⟨⟨h1, h2, h3, h4, h5⟩, hr⟩
    split <;> exact ⟨⟨h1, h2, h3, h4, h5⟩, hr⟩
  unfold roleAtBorder
  apply hupd
  split
  · exact setRoleSelected_data
  · split
    · exact setRoleSelected_data
    · exact ⟨⟨rfl, rfl, rfl, rfl, rfl⟩, rfl⟩

theorem updtRoleCist_data (hv : s.vlan_id = STP_CIST_ID) :
    SameData i.port (updtRoleCist s i).port ∧ (updtRoleCist s i).cist = i.cist ∧
      (updtRoleCist s i).port.selectedRole = given s i := by
  unfold updtRoleCist given
  by_cases hn : i.port.admin_non_stp = true
  · rw [if_pos hn, if_pos hn]
    exact ⟨setNonStp_data.1, rfl, setNonStp_data.2⟩
  · rw [if_neg hn, if_neg hn, if_pos hv]
    dsimp only
    split <;> exact ⟨roleByInfo_data.1, rfl, roleByInfo_data.2⟩

theorem placeMsti_data {c : XstPort} (hv : s.vlan_id ≠ STP_CIST_ID) (hc : i.cist = some c) :
    SameData i.port (placeMsti s c i).port ∧ (placeMsti s c i).cist = i.cist ∧
      (placeMsti s c i).port.selectedRole = given s i := by
  unfold placeMsti given
  by_cases hn : i.port.admin_non_stp = true
  · rw [if_pos hn, if_pos hn]
    exact ⟨setNonStp_data.1, rfl, setNonStp_data.2⟩
  · rw [if_neg hn, if_neg hn, if_neg hv, hc]
    dsimp only
    split
    · exact ⟨roleAtBorder_data.1, rfl, roleAtBorder_data.2⟩
    · exact ⟨roleByInfo_data.1, rfl, roleByInfo_data.2⟩

/-- A port keeps what it has and gets its role. -/
theorem place_data (h : s.vlan_id ≠ STP_CIST_ID → i.cist.isSome) :
    SameData i.port (place s i).port ∧ (place s i).cist = i.cist ∧
      (place s i).port.selectedRole = given s i := by
  unfold place
  by_cases hv : s.vlan_id = STP_CIST_ID
  · rw [if_pos hv]
    exact updtRoleCist_data hv
  · obtain ⟨c, hc⟩ := Option.isSome_iff_exists.mp (h hv)
    rw [if_neg hv, hc]
    have hdata := placeMsti_data hv hc
    rw [hc] at hdata
    exact hdata

/-! ## What the roles depend on -/

/-- The instance when the roles of its ports are selected. -/
def Instance.settled (s : Instance) : Instance :=
  if s.vlan_id = STP_CIST_ID then
    setChangedMaster s.rootPrio.root_path_cost s.rootPrio.region_root_bridge.addr
      s.elect.designated
  else s.elect.designated

theorem electPort_forget : (electPort s i).forget = electPort s.forget i.forget := by
  unfold electPort
  dsimp only
  rw [apply_ite Instance.forget, apply_ite Instance.forget]
  rfl

theorem foldl_forget :
    (l.foldl electPort s).forget = (l.map Info.forget).foldl electPort s.forget := by
  induction l generalizing s with
  | nil => rfl
  | cons i l ih => rw [List.foldl_cons, ih, electPort_forget, List.map_cons, List.foldl_cons]

theorem elect_forget : s.elect.forget = s.forget.elect := foldl_forget

theorem designate_forget : (designate s i).forget = designate s.forget i.forget := by
  unfold designate
  dsimp only
  rw [apply_ite Info.forget]
  rfl

theorem designated_forget : s.designated.forget = s.forget.designated := by
  have hports : (s.ports.map (designate s)).map Info.forget =
      (s.ports.map Info.forget).map (designate s.forget) := by
    rw [List.map_map, List.map_map]
    exact List.map_congr_left fun i _ => designate_forget
  unfold Instance.designated Instance.forget
  dsimp only
  rw [hports]
  rfl

theorem setChangedMaster_forget {c : UInt32} {b : MacAddr} :
    (setChangedMaster c b s).forget = setChangedMaster c b s.forget := by
  unfold setChangedMaster
  rw [apply_ite Instance.forget]
  unfold Instance.forget
  dsimp only
  rw [List.map_map, List.map_map]
  rfl

theorem settled_forget : s.settled.forget = s.forget.settled := by
  unfold Instance.settled
  rw [apply_ite Instance.forget, setChangedMaster_forget, designated_forget, elect_forget]
  rfl

theorem foldl_rest : (l.foldl electPort s).ports = s.ports ∧
    (l.foldl electPort s).vlan_id = s.vlan_id := by
  induction l generalizing s with
  | nil => exact ⟨rfl, rfl⟩
  | cons i l ih =>
    have hport : (electPort s i).ports = s.ports ∧ (electPort s i).vlan_id = s.vlan_id := by
      unfold electPort
      dsimp only
      split
      · split <;> exact ⟨rfl, rfl⟩
      · exact ⟨rfl, rfl⟩
    rw [List.foldl_cons, ih.1, ih.2]
    exact hport

theorem designate_data : (designate s i).port.port_id = i.port.port_id ∧
    (designate s i).cist = i.cist := by
  unfold designate
  dsimp only
  split <;> exact ⟨rfl, rfl⟩

theorem settled_vlan : s.settled.vlan_id = s.vlan_id := by
  unfold Instance.settled
  split
  · unfold setChangedMaster
    split <;> exact foldl_rest.2
  · exact foldl_rest.2

/-- The ports keep their identifiers and what they can reach. -/
theorem settled_ports : s.settled.ports.map (fun i => (i.port.port_id, i.cist)) =
    s.ports.map fun i => (i.port.port_id, i.cist) := by
  have hdes : s.elect.designated.ports.map (fun i => (i.port.port_id, i.cist)) =
      s.ports.map fun i => (i.port.port_id, i.cist) := by
    have hports : s.elect.ports = s.ports := foldl_rest.1
    rw [Instance.designated, hports, List.map_map]
    refine List.map_congr_left fun i _ => ?_
    exact Prod.ext designate_data.1 designate_data.2
  unfold Instance.settled setChangedMaster
  split
  · split
    · rw [List.map_map]
      exact hdes
    · exact hdes
  · exact hdes

theorem settled_cist (h : s.vlan_id ≠ STP_CIST_ID → ∀ i ∈ s.ports, i.cist.isSome) :
    s.settled.vlan_id ≠ STP_CIST_ID → ∀ i ∈ s.settled.ports, i.cist.isSome := by
  intro hv i hi
  have hmem := List.mem_map_of_mem (f := fun i : Info => (i.port.port_id, i.cist)) hi
  rw [settled_ports] at hmem
  obtain ⟨j, hj, hij⟩ := List.mem_map.mp hmem
  obtain ⟨-, hcist⟩ := Prod.mk.inj hij
  rw [← hcist]
  exact h (settled_vlan ▸ hv) j hj

theorem updtRolesXst_eq (h : s.vlan_id ≠ STP_CIST_ID → ∀ i ∈ s.ports, i.cist.isSome) :
    stpRoleselUpdtRolesXst s =
      { s.settled with ports := s.settled.ports.map (place s.settled) } := by
  have hcist := settled_cist h
  have hvlan := @settled_vlan s
  unfold stpRoleselUpdtRolesXst
  by_cases hv : s.vlan_id = STP_CIST_ID
  · have hplace : place s.settled = updtRoleCist s.settled := by
      funext i
      rw [place, if_pos (hvlan.trans hv)]
    rw [if_pos hv, hplace]
    unfold Instance.settled
    rw [if_pos hv]
    rfl
  · have hne : s.settled.vlan_id ≠ STP_CIST_ID := fun he => hv (hvlan.symm.trans he)
    rw [if_neg hv, ← updtRolesMsti_eq hne (hcist hne)]
    unfold Instance.settled
    rw [if_neg hv]
    rfl

/-- The role that a port gets does not depend on the one that it had. -/
theorem given_forget (hc : s.vlan_id ≠ STP_CIST_ID → i.cist.isSome) (h : s.Assigned i) :
    given s.forget i.forget = given s i := by
  unfold given
  by_cases hn : i.port.admin_non_stp = true
  · rw [if_pos hn]
    exact if_pos hn
  · by_cases hv : s.vlan_id = STP_CIST_ID
    · rw [if_neg hn, if_pos hv]
      exact (if_neg hn).trans (if_pos hv)
    · obtain ⟨c, hcist⟩ := Option.isSome_iff_exists.mp (hc hv)
      have hborder : c.atBorder = true →
          c.selectedRole = .RootPort ∨ c.selectedRole = .AlternatePort := by
        rcases h with h | h | h
        · exact absurd h hn
        · exact absurd h hv
        · exact h c hcist
      have hforget : i.forget.cist = some c := hcist
      refine (if_neg hn).trans ((if_neg hv).trans ?_)
      rw [if_neg hn, if_neg hv, hforget, hcist]
      dsimp only
      split
      · next hb =>
        rcases hborder hb with hr | hr
        · rw [if_pos hr, if_pos hr]
        · rw [hr]
          rfl
      · rfl

theorem chosen_root {p : XstPort} :
    chosen s p = .RootPort ↔ s.rootPortId = p.port_id ∧ p.infoIs = .Received := by
  unfold chosen
  cases p.infoIs with
  | Disabled => simp
  | Aged => simp
  | Mine => simp
  | Received =>
    dsimp only
    split
    · next h => simp [h]
    · next h =>
      simp only [h, false_and, iff_false]
      split
      · simp
      · split <;> simp

theorem chosen_standby {p : XstPort}
    (h : chosen s p = .AlternatePort ∨ chosen s p = .BackupPort) :
    0 ≤ stpVectorCompare p.designPrio p.portPrio := by
  unfold chosen at h
  cases hinfo : p.infoIs with
  | Disabled => simp [hinfo] at h
  | Aged => simp [hinfo] at h
  | Mine => simp [hinfo] at h
  | Received =>
    rw [hinfo] at h
    dsimp only at h
    split at h
    · simp at h
    · split at h
      · simp at h
      · next hlt => exact Int.not_lt.mp hlt

/-- A port is given its role by what it knows, or by its port of the CIST at the border. -/
theorem given_cases (hc : s.vlan_id ≠ STP_CIST_ID → i.cist.isSome) (h : s.Assigned i) :
    i.port.admin_non_stp = true ∧ given s i = .NonStpPort ∨
    i.port.admin_non_stp = false ∧ ¬ s.Border i ∧ given s i = chosen s i.port ∨
    i.port.admin_non_stp = false ∧ s.Border i ∧
      (given s i = .MasterPort ∨ given s i = .AlternatePort) := by
  unfold given
  by_cases hn : i.port.admin_non_stp = true
  · exact Or.inl ⟨hn, if_pos hn⟩
  · refine Or.inr ?_
    have hn' := Bool.eq_false_iff.mpr hn
    rw [if_neg hn]
    by_cases hv : s.vlan_id = STP_CIST_ID
    · rw [if_pos hv]
      exact Or.inl ⟨hn', fun hb => hb.1 hv, rfl⟩
    · obtain ⟨c, hcist⟩ := Option.isSome_iff_exists.mp (hc hv)
      rw [if_neg hv, hcist]
      dsimp only
      split
      · next hb =>
        refine Or.inr ⟨hn', ⟨hv, c, hcist, hb⟩, ?_⟩
        split
        · exact Or.inl rfl
        · next hr =>
          rcases h with h | h | h
          · exact absurd h hn
          · exact absurd h hv
          · rw [if_pos ((h c hcist hb).resolve_left hr)]
            exact Or.inr rfl
      · next hb =>
        refine Or.inl ⟨hn', ?_, rfl⟩
        rintro ⟨-, c', hc', hb'⟩
        rw [hcist] at hc'
        obtain rfl := Option.some.inj hc'
        exact hb hb'

/-- The instance whose ports have got their roles. -/
def Instance.placed (s : Instance) : Instance := { s with ports := s.ports.map (place s) }

theorem border_place (h : s.vlan_id ≠ STP_CIST_ID → i.cist.isSome) :
    s.placed.Border (place s i) ↔ s.Border i := by
  unfold Instance.Border
  rw [(place_data h).2.1]
  rfl

theorem assigned_place (h : s.vlan_id ≠ STP_CIST_ID → i.cist.isSome) :
    s.placed.Assigned (place s i) ↔ s.Assigned i := by
  unfold Instance.Assigned
  rw [(place_data h).2.1, (place_data h).1.admin_non_stp]
  rfl

/-- A port that gets a role becomes the root port exactly if it is the elected one. -/
theorem place_root (hc : s.vlan_id ≠ STP_CIST_ID → i.cist.isSome) (h : s.Assigned i) :
    (place s i).port.selectedRole = .RootPort ↔ s.rootPortId = i.port.port_id ∧
      i.port.infoIs = .Received ∧ i.port.admin_non_stp = false ∧ ¬ s.Border i := by
  rw [(place_data hc).2.2]
  rcases given_cases hc h with ⟨hn, hr⟩ | ⟨hn, hb, hr⟩ | ⟨hn, hb, hr⟩
  · simp [hr, hn]
  · rw [hr, chosen_root]
    simp [hn, hb]
  · rcases hr with hr | hr <;> simp [hr, hb]

theorem place_standby (hc : s.vlan_id ≠ STP_CIST_ID → i.cist.isSome) (h : s.Assigned i)
    (hs : (place s i).port.selectedRole = .AlternatePort ∨
      (place s i).port.selectedRole = .BackupPort) :
    s.Border i ∨ 0 ≤ stpVectorCompare i.port.designPrio i.port.portPrio := by
  rw [(place_data hc).2.2] at hs
  rcases given_cases hc h with ⟨-, hr⟩ | ⟨-, -, hr⟩ | ⟨-, hb, -⟩
  · simp [hr] at hs
  · rw [hr] at hs
    exact Or.inr (chosen_standby hs)
  · exact Or.inl hb

theorem placed_roles (hids : (s.ports.map (·.port.port_id)).Nodup)
    (hc : s.vlan_id ≠ STP_CIST_ID → ∀ i ∈ s.ports, i.cist.isSome) : s.placed.RolesSelected := by
  have hmem : ∀ k ∈ s.placed.ports, ∃ i ∈ s.ports, place s i = k := fun k hk =>
    List.mem_map.mp hk
  constructor
  · intro k hk m hm hak ham hrk hrm
    obtain ⟨i, hi, rfl⟩ := hmem k hk
    obtain ⟨j, hj, rfl⟩ := hmem m hm
    have hci := fun hv => hc hv i hi
    have hcj := fun hv => hc hv j hj
    have hri := ((place_root hci ((assigned_place hci).mp hak)).mp hrk).1
    have hrj := ((place_root hcj ((assigned_place hcj).mp ham)).mp hrm).1
    rw [List.inj_on_of_nodup_map hids hi hj (hri.symm.trans hrj)]
  · intro k hk hak
    obtain ⟨i, hi, rfl⟩ := hmem k hk
    have hci := fun hv => hc hv i hi
    obtain ⟨hdata, -, -⟩ := @place_data s i hci
    rw [place_root hci ((assigned_place hci).mp hak), border_place hci, hdata.port_id,
      hdata.infoIs, hdata.admin_non_stp]
    rfl
  · intro k hk hak hs
    obtain ⟨i, hi, rfl⟩ := hmem k hk
    have hci := fun hv => hc hv i hi
    obtain ⟨hdata, -, -⟩ := @place_data s i hci
    rw [border_place hci, hdata.designPrio, hdata.portPrio]
    exact place_standby hci ((assigned_place hci).mp hak) hs

theorem forget_vlan (h : t.forget = s.forget) : t.vlan_id = s.vlan_id := by
  have hv : t.forget.vlan_id = s.forget.vlan_id := congrArg Instance.vlan_id h
  exact hv

theorem forget_cist (h : j.forget = i.forget) : j.cist = i.cist := by
  have hc : j.forget.cist = i.forget.cist := congrArg Info.cist h
  exact hc

theorem given_alike (hs : t.forget = s.forget) (hi : j.forget = i.forget)
    (hc : s.vlan_id ≠ STP_CIST_ID → i.cist.isSome) (h : s.Assigned i) : given s i = given t j := by
  have hassigned : t.forget.Assigned j.forget := by
    rw [hs, hi]
    exact h
  have hvlan : t.vlan_id = s.vlan_id := forget_vlan hs
  have hcist : j.cist = i.cist := forget_cist hi
  have hc' : t.vlan_id ≠ STP_CIST_ID → j.cist.isSome := by
    rw [hvlan, hcist]
    exact hc
  rw [← given_forget hc h, ← given_forget hc' hassigned, hs, hi]

/-- The roles of the ports of two instances with the same information, in the order of the ports. -/
theorem map_place_alike {m : List Info} (hs : t.forget = s.forget)
    (hm : m.map Info.forget = l.map Info.forget)
    (hc : s.vlan_id ≠ STP_CIST_ID → ∀ i ∈ l, i.cist.isSome) :
    List.Forall₂ (fun i j => s.placed.Assigned i → i.port.selectedRole = j.port.selectedRole)
      (l.map (place s)) (m.map (place t)) := by
  induction l generalizing m with
  | nil =>
    rw [List.map_nil, List.map_eq_nil_iff] at hm
    rw [hm]
    exact List.Forall₂.nil
  | cons i l ih =>
    cases m with
    | nil => simp at hm
    | cons j m =>
      obtain ⟨hji, hml⟩ := List.cons.inj hm
      have hci := fun hv => hc hv i List.mem_cons_self
      have hvlan : t.vlan_id = s.vlan_id := forget_vlan hs
      have hcist : j.cist = i.cist := forget_cist hji
      have hcj : t.vlan_id ≠ STP_CIST_ID → j.cist.isSome := by
        rw [hvlan, hcist]
        exact hci
      refine List.Forall₂.cons (fun ha => ?_)
        (ih hml fun hv k hk => hc hv k (List.mem_cons_of_mem i hk))
      rw [(place_data hci).2.2, (place_data hcj).2.2]
      exact given_alike hs hji hci ((assigned_place hci).mp ha)

/-- Every port that is assigned a role gets it by what is known now; at most one port becomes the
root port, and it is the one that has been elected; and a port stands by only if it is at the
border or what it has is not worse than what it would send. -/
theorem roles_selected (s : Instance) (hids : (s.ports.map (·.port.port_id)).Nodup)
    (hcist : s.vlan_id ≠ STP_CIST_ID → ∀ i ∈ s.ports, i.cist.isSome) :
    (stpRoleselUpdtRolesXst s).RolesSelected ∧
      ∀ t : Instance, t.forget = s.forget →
        List.Forall₂ (fun i j => (stpRoleselUpdtRolesXst s).Assigned i →
            i.port.selectedRole = j.port.selectedRole)
          (stpRoleselUpdtRolesXst s).ports (stpRoleselUpdtRolesXst t).ports := by
  have hids' : (s.settled.ports.map (·.port.port_id)).Nodup := by
    have hmap := congrArg (List.map Prod.fst) (@settled_ports s)
    rw [List.map_map, List.map_map] at hmap
    exact hmap ▸ hids
  have hcist' := settled_cist hcist
  rw [updtRolesXst_eq hcist]
  refine ⟨placed_roles hids' hcist', fun t ht => ?_⟩
  have hsettled : t.settled.forget = s.settled.forget := by
    rw [settled_forget, settled_forget, ht]
  have htcist : t.vlan_id ≠ STP_CIST_ID → ∀ i ∈ t.ports, i.cist.isSome := by
    intro hv j hj
    have hvlan : t.vlan_id = s.vlan_id := forget_vlan ht
    have hmem : j.forget ∈ s.ports.map Info.forget := by
      rw [← show t.ports.map Info.forget = s.ports.map Info.forget from
        congrArg Instance.ports ht]
      exact List.mem_map_of_mem hj
    obtain ⟨i, hi, hij⟩ := List.mem_map.mp hmem
    rw [← show i.cist = j.cist from forget_cist hij]
    exact hcist (hvlan ▸ hv) i hi
  rw [updtRolesXst_eq htcist]
  exact map_place_alike hsettled (congrArg Instance.ports hsettled) hcist'

end

theorem roles_selected_two :
    (stpRoleselUpdtRolesXst (bridgeWith [rootAt 1 0, rootAt 2 5])).RolesSelected ∧
      ∀ t : Instance, t.forget = (bridgeWith [rootAt 1 0, rootAt 2 5]).forget →
        List.Forall₂ (fun i j =>
            (stpRoleselUpdtRolesXst (bridgeWith [rootAt 1 0, rootAt 2 5])).Assigned i →
              i.port.selectedRole = j.port.selectedRole)
          (stpRoleselUpdtRolesXst (bridgeWith [rootAt 1 0, rootAt 2 5])).ports
          (stpRoleselUpdtRolesXst t).ports :=
  roles_selected _ (by decide) (fun h => absurd rfl h)

/-- An MST instance with one port, at the border of the region, that still has what it told before the bridge
became a better root. Its port of the CIST is an alternate port. -/
def borderOfRegion : Instance :=
  { bridgeWith [{ rootAt 1 0 with
      port := { (rootAt 1 0).port with
        vlan_id := 1
        infoIs := .Mine
        portPrio := { zeroPrio with region_root_bridge := ⟨0x9000, zeroMac⟩ } }
      cist := some { (rootAt 1 0).port with selectedRole := .AlternatePort } }] with
    vlan_id := 1 }

/-- The port follows the one of the CIST: it stands by, though what it would send is better than what it has. -/
theorem border_alternate : ¬ ∀ s : Instance, (s.ports.map (·.port.port_id)).Nodup →
    (s.vlan_id ≠ STP_CIST_ID → ∀ i ∈ s.ports, i.cist.isSome) → ∀ i ∈ (stpRoleselUpdtRolesXst s).ports,
      i.port.selectedRole = .AlternatePort ∨ i.port.selectedRole = .BackupPort →
        0 ≤ stpVectorCompare i.port.designPrio i.port.portPrio := by
  intro h
  have hall : (stpRoleselUpdtRolesXst borderOfRegion).ports.all (fun i =>
      i.port.selectedRole = .AlternatePort ∧ stpVectorCompare i.port.designPrio i.port.portPrio < 0) = true := by
    decide +kernel
  cases hports : (stpRoleselUpdtRolesXst borderOfRegion).ports with
  | nil => exact absurd (congrArg List.length hports) (by decide +kernel)
  | cons i l =>
    have hi : i ∈ (stpRoleselUpdtRolesXst borderOfRegion).ports := hports ▸ List.mem_cons_self
    obtain ⟨hrole, hlt⟩ := of_decide_eq_true (List.all_eq_true.mp hall i hi)
    have hle := h borderOfRegion (by decide) (fun _ => by decide) i hi (.inl hrole)
    omega

end Stp
end DaemonGroup
