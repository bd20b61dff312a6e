import DaemonGroup.Stp.Registry
import DaemonGroup.Lib.Listing
import DaemonGroup.Lib.Run

/-!
# DaemonGroup.Stp.Ports

The two ways to a port: the list of its instance and the chain of its index. `Registry.Wf` says that
both are indexes of the ports there are, and that the ports belong to instances there are.
-/

namespace DaemonGroup
namespace Stp

open Lib

/-- What is cut out of a list at a member of it. -/
theorem takeWhile_append_tail {l : List Nat} {a : Nat} :
    l.takeWhile (· ≠ a) ++ (l.dropWhile (· ≠ a)).tail = l.erase a := by
  induction l with
  | nil => rfl
  | cons b l ih =>
    by_cases hb : b = a
    · simp [hb]
    · simpa [hb, List.erase_cons_tail] using ih

namespace Registry

/-- The instances: at different places, with different numbers, and `g_CISTBRIDGE` points to the one
with the number of the CIST. -/
structure Roll (r : Registry) : Prop where
  ids : (r.bridges.map (·.vlan_id)).Nodup
  addrs : (r.bridges.map (·.addr)).Nodup
  small : ∀ s ∈ r.bridges, s.vlan_id ≤ STP_MSTI_MAX
  cist : ∀ s ∈ r.bridges, s.vlan_id = STP_CIST_ID ↔ r.g_CISTBRIDGE = some s.addr
  known : ∀ a, r.g_CISTBRIDGE = some a → ∃ s ∈ r.bridges, s.addr = a
  fresh : ∀ s ∈ r.bridges, s.addr < r.brk

/-- The ports on the lists of their instances. -/
structure Listed (c : Chassis) (r : Registry) : Prop extends Roll r where
  allocated : ∀ a p, r.heap a = some p → a < r.brk
  owned : ∀ a p, r.heap a = some p → ∃ s ∈ r.bridges, s.addr = p.owner
  inRange : ∀ a p, r.heap a = some p →
    0 ≤ c.stpPortGlobalIndexParse p.port_index ∧ c.stpPortGlobalIndexParse p.port_index ≤ MAX_PORT_NUM
  listed : ∀ s ∈ r.bridges, Lists s.ports fun a => ∃ p, r.heap a = some p ∧ p.owner = s.addr
  one : ∀ a b p q, r.heap a = some p → r.heap b = some q → p.owner = q.owner →
    c.stpPortGlobalIndexParse p.port_index = c.stpPortGlobalIndexParse q.port_index → a = b

/-- The ports on the lists of their instances and on the chains of their indexes. -/
structure Wf (c : Chassis) (r : Registry) : Prop extends Listed c r where
  chained : ∀ k, Lists (r.g_CISTPORT k) fun a =>
    ∃ p, r.heap a = some p ∧ c.stpPortGlobalIndexParse p.port_index = k
  head : ∀ k a l, r.g_CISTPORT k = a :: l → ∃ p, r.heap a = some p ∧ r.g_CISTBRIDGE = some p.owner

section
variable {r r' : Registry} {c : Chassis} {a b VID : Nat} {s t : Stpm} {p q : MstPort}
  {MSTID : UInt16} {port_index : UInt32} {isWan : Bool} {rc junk : Int}

theorem Roll.eq_of_addr (h : r.Roll) (hs : s ∈ r.bridges) (ht : t ∈ r.bridges)
    (he : s.addr = t.addr) : s = t :=
  List.inj_on_of_nodup_map h.addrs hs ht he

theorem Roll.eq_of_id (h : r.Roll) (hs : s ∈ r.bridges) (ht : t ∈ r.bridges)
    (he : s.vlan_id = t.vlan_id) : s = t :=
  List.inj_on_of_nodup_map h.ids hs ht he

theorem mem_of_stpm (h : r.stpm a = some s) : s ∈ r.bridges ∧ s.addr = a :=
  ⟨List.mem_of_find?_eq_some h, by simpa using List.find?_some h⟩

theorem Roll.stpm (h : r.Roll) (hs : s ∈ r.bridges) : r.stpm s.addr = some s := by
  cases hf : r.stpm s.addr with
  | none => simpa using List.find?_eq_none.mp hf s hs
  | some t =>
    obtain ⟨ht, he⟩ := mem_of_stpm hf
    rw [h.eq_of_addr ht hs he]

theorem mem_of_instance (h : r.stpStpmGetInstance MSTID = some s) :
    s ∈ r.bridges ∧ s.vlan_id = MSTID :=
  ⟨List.mem_of_find?_eq_some h, by simpa using List.find?_some h⟩

theorem Roll.instance (h : r.Roll) (hs : s ∈ r.bridges) :
    r.stpStpmGetInstance s.vlan_id = some s := by
  cases hf : r.stpStpmGetInstance s.vlan_id with
  | none => simpa using List.find?_eq_none.mp hf s hs
  | some t =>
    obtain ⟨ht, he⟩ := mem_of_instance hf
    rw [h.eq_of_id ht hs he]

theorem no_instance (h : r.stpStpmGetInstance MSTID = none) : ∀ s ∈ r.bridges, s.vlan_id ≠ MSTID := by
  intro s hs
  simpa using List.find?_eq_none.mp h s hs

/-! ## Finding a port -/

/-- The port at `a` is the one of the instance `MSTID` with the index of `port_index`. -/
def Has (c : Chassis) (r : Registry) (MSTID : UInt16) (port_index : UInt32) (a : Nat) : Prop :=
  ∃ p, r.heap a = some p ∧ c.stpPortGlobalIndexParse p.port_index = c.stpPortGlobalIndexParse port_index ∧
    ∃ s ∈ r.bridges, s.addr = p.owner ∧ s.vlan_id = MSTID

theorem Wf.has_unique (h : r.Wf c) (ha : r.Has c MSTID port_index a)
    (hb : r.Has c MSTID port_index b) : a = b := by
  obtain ⟨p, hp, hpi, s, hs, hso, hsid⟩ := ha
  obtain ⟨q, hq, hqi, t, ht, hto, htid⟩ := hb
  have hst : s = t := h.eq_of_id hs ht (hsid.trans htid.symm)
  subst hst
  exact h.one a b p q hp hq (hso.symm.trans hto) (hpi.trans hqi.symm)

theorem Wf.ownedBy (h : r.Wf c) (hp : r.heap a = some p) (hs : s ∈ r.bridges)
    (ho : s.addr = p.owner) : r.ownedBy MSTID a = some (decide (s.vlan_id = MSTID)) := by
  simp [Registry.ownedBy, hp, ← ho, h.stpm hs]

/-- The search through a chain finds the port of the instance, if there is one. -/
theorem Wf.search (h : r.Wf c) {l : List Nat}
    (hl : ∀ a ∈ l, ∃ p, r.heap a = some p ∧
      c.stpPortGlobalIndexParse p.port_index = c.stpPortGlobalIndexParse port_index) :
    ∃ o, l.findM? (r.ownedBy MSTID) = some o ∧
      ∀ a, o = some a ↔ a ∈ l ∧ r.Has c MSTID port_index a := by
  have hall : ∀ a ∈ l, r.ownedBy MSTID a = some ((r.ownedBy MSTID a).getD false) := by
    intro a ha
    obtain ⟨p, hp, -⟩ := hl a ha
    obtain ⟨s, hs, ho⟩ := h.owned a p hp
    rw [h.ownedBy hp hs ho]
    rfl
  have hhas : ∀ a ∈ l, (r.ownedBy MSTID a).getD false = true ↔ r.Has c MSTID port_index a := by
    intro a ha
    obtain ⟨p, hp, hi⟩ := hl a ha
    obtain ⟨s, hs, ho⟩ := h.owned a p hp
    rw [h.ownedBy hp hs ho]
    constructor
    · intro hid
      exact ⟨p, hp, hi, s, hs, ho, by simpa using hid⟩
    · rintro ⟨q, hq, -, t, ht, hto, hid⟩
      rw [hp] at hq
      cases hq
      rw [h.eq_of_addr hs ht (ho.trans hto.symm), hid]
      simp
  refine ⟨_, findM?_total hall, fun a => ⟨fun hf => ?_, ?_⟩⟩
  · have ha := List.mem_of_find?_eq_some hf
    have hg := List.find?_some hf
    exact ⟨ha, (hhas a ha).mp hg⟩
  · rintro ⟨ha, hhas'⟩
    cases hf : l.find? fun a => (r.ownedBy MSTID a).getD false with
    | none => exact absurd ((hhas a ha).mpr hhas') (List.find?_eq_none.mp hf a ha)
    | some b =>
      have hb := List.mem_of_find?_eq_some hf
      have hg := List.find?_some hf
      rw [h.has_unique ((hhas b hb).mp hg) hhas']

theorem Wf.mem_chain (h : r.Wf c) (ha : r.Has c MSTID port_index a) :
    a ∈ r.g_CISTPORT (c.stpPortGlobalIndexParse port_index) := by
  obtain ⟨p, hp, hi, -⟩ := ha
  exact ((h.chained _).2 a).mpr ⟨p, hp, hi⟩

/-- The first port of a chain is the one of the CIST. -/
theorem Wf.has_head (h : r.Wf c) {l : List Nat}
    (hc : r.g_CISTPORT (c.stpPortGlobalIndexParse port_index) = a :: l) :
    r.Has c STP_CIST_ID port_index a := by
  obtain ⟨p, hp, hi⟩ := ((h.chained _).2 a).mp (hc ▸ List.mem_cons_self)
  obtain ⟨q, hq, hcist⟩ := h.head _ a l hc
  rw [hp] at hq
  cases hq
  obtain ⟨s, hs, ho⟩ := h.owned a p hp
  exact ⟨p, hp, hi, s, hs, ho, (h.cist s hs).mpr (by rw [hcist, ho])⟩

theorem Wf.findport (h : r.Wf c) : ∃ o, r.stpPortMstFindport c MSTID port_index = some o ∧
    ∀ a, o = some a ↔ r.Has c MSTID port_index a := by
  unfold stpPortMstFindport
  dsimp only
  by_cases hr : c.stpPortGlobalIndexParse port_index < 0 ∨
      c.stpPortGlobalIndexParse port_index > MAX_PORT_NUM
  · rw [if_pos hr]
    refine ⟨none, rfl, fun a => ⟨fun h => absurd h (by simp), ?_⟩⟩
    rintro ⟨p, hp, hi, -⟩
    have := h.inRange a p hp
    omega
  rw [if_neg hr]
  cases hc : r.g_CISTPORT (c.stpPortGlobalIndexParse port_index) with
  | nil =>
    refine ⟨none, rfl, fun a => ⟨fun h => absurd h (by simp), fun ha => ?_⟩⟩
    have := h.mem_chain ha
    rw [hc] at this
    cases this
  | cons b l =>
    have hhead := h.has_head hc
    by_cases hid : MSTID = STP_CIST_ID
    · subst hid
      refine ⟨some b, rfl, fun a => ⟨fun hab => ?_, fun ha => ?_⟩⟩
      · cases hab
        exact hhead
      · rw [h.has_unique ha hhead]
    · dsimp only
      rw [if_neg hid]
      obtain ⟨p, hp, -⟩ := hhead
      obtain ⟨o, ho, hall⟩ := @Registry.Wf.search _ _ MSTID port_index h l fun a ha =>
        ((h.chained _).2 a).mp (hc ▸ List.mem_cons_of_mem b ha)
      refine ⟨o, by rw [hp]; exact ho, fun a => (hall a).trans (and_iff_right_of_imp fun ha => ?_)⟩
      have hmem := h.mem_chain ha
      rw [hc] at hmem
      rcases List.mem_cons.mp hmem with rfl | hmem
      · obtain ⟨q, hq, -, s, hs, ho, hsid⟩ := ha
        obtain ⟨q', hq', -, t, ht, hto, htid⟩ := h.has_head hc
        rw [hq] at hq'
        cases hq'
        rw [h.eq_of_addr hs ht (ho.trans hto.symm)] at hsid
        exact absurd (hsid.symm.trans htid) hid
      · exact hmem

/-! ## Ports come and go -/

@[simp] theorem mem_setStpm {f : Stpm → Stpm} :
    t ∈ (r.setStpm a f).bridges ↔ ∃ s ∈ r.bridges, (if s.addr = a then f s else s) = t := by
  simp [setStpm]

/-- What the handling of ports leaves alone: the instances but for their ports, the table, and the
ports of the VLANs. -/
def maps (r : Registry) : List Stpm × Option Nat × (Nat → UInt16) × (Nat → PortBmp) :=
  (r.bridges.map fun s => { s with ports := [] }, r.g_CISTBRIDGE, r.g_VID2MSTID, r.g_VlanPBMP)

theorem maps_setPorts {f : Stpm → List Nat} :
    (r.setStpm a fun s => { s with ports := f s }).maps = r.maps := by
  have hmap : ∀ s : Stpm, { (if s.addr = a then { s with ports := f s } else s) with ports := [] } =
      { s with ports := [] } := by
    intro s
    split <;> rfl
  simp only [maps, setStpm, List.map_map, Function.comp_def, hmap]

/-- The instance of the other registry with the same number, at the same place. -/
theorem maps_mem (hm : r'.maps = r.maps) (ht : t ∈ r'.bridges) :
    ∃ s ∈ r.bridges, s.addr = t.addr ∧ s.vlan_id = t.vlan_id ∧ s.vlan_map = t.vlan_map ∧
      s.ConfigurationDigest = t.ConfigurationDigest := by
  have hcore : r'.bridges.map (fun s => { s with ports := [] }) =
      r.bridges.map fun s => { s with ports := [] } := congrArg Prod.fst hm
  have hmem : { t with ports := [] } ∈ r.bridges.map fun s => { s with ports := [] } := by
    rw [← hcore]
    exact List.mem_map_of_mem ht
  obtain ⟨s, hs, he⟩ := List.mem_map.mp hmem
  simp only [Stpm.mk.injEq] at he
  exact ⟨s, hs, he.1, he.2.1, he.2.2.1, he.2.2.2.2⟩

/-- The roll is about the places and the numbers of the instances. -/
theorem Roll.of_heads (h : r.Roll)
    (hb : r'.bridges.map (fun s => (s.addr, s.vlan_id)) = r.bridges.map fun s => (s.addr, s.vlan_id))
    (hg : r'.g_CISTBRIDGE = r.g_CISTBRIDGE) (hbrk : r.brk ≤ r'.brk) : r'.Roll := by
  have hids : r'.bridges.map (·.vlan_id) = r.bridges.map (·.vlan_id) := by
    simpa [Function.comp_def] using congrArg (List.map Prod.snd) hb
  have haddrs : r'.bridges.map (·.addr) = r.bridges.map (·.addr) := by
    simpa [Function.comp_def] using congrArg (List.map Prod.fst) hb
  have hmem : ∀ {r r' : Registry}, r'.bridges.map (fun s => (s.addr, s.vlan_id)) =
      r.bridges.map (fun s => (s.addr, s.vlan_id)) → ∀ t ∈ r'.bridges,
        ∃ s ∈ r.bridges, s.addr = t.addr ∧ s.vlan_id = t.vlan_id := by
    intro r r' hb t ht
    have hm : (t.addr, t.vlan_id) ∈ r.bridges.map fun s => (s.addr, s.vlan_id) := by
      rw [← hb]
      exact List.mem_map_of_mem ht
    obtain ⟨s, hs, he⟩ := List.mem_map.mp hm
    exact ⟨s, hs, congrArg Prod.fst he, congrArg Prod.snd he⟩
  refine ⟨hids ▸ h.ids, haddrs ▸ h.addrs, fun t ht => ?_, fun t ht => ?_, fun b hb' => ?_, fun t ht => ?_⟩
  · obtain ⟨s, hs, -, hid⟩ := hmem hb t ht
    exact hid ▸ h.small s hs
  · obtain ⟨s, hs, haddr, hid⟩ := hmem hb t ht
    rw [← hid, ← haddr, hg]
    exact h.cist s hs
  · obtain ⟨s, hs, haddr⟩ := h.known b (hg ▸ hb')
    obtain ⟨t, ht, hta, -⟩ := hmem hb.symm s hs
    exact ⟨t, ht, hta.trans haddr⟩
  · obtain ⟨s, hs, haddr, -⟩ := hmem hb t ht
    exact Nat.lt_of_lt_of_le (haddr ▸ h.fresh s hs) hbrk

theorem Roll.of_maps (h : r.Roll) (hm : r'.maps = r.maps) (hbrk : r.brk ≤ r'.brk) : r'.Roll := by
  have hcore : r'.bridges.map (fun s => { s with ports := [] }) =
      r.bridges.map fun s => { s with ports := [] } := congrArg Prod.fst hm
  refine h.of_heads ?_ (congrArg (·.2.1) hm) hbrk
  simpa [Function.comp_def] using congrArg (List.map fun s => (s.addr, s.vlan_id)) hcore

theorem Roll.setPorts (h : r.Roll) {f : Stpm → List Nat} :
    (r.setStpm a fun s => { s with ports := f s }).Roll :=
  h.of_maps maps_setPorts (Nat.le_refl _)

/-- Nothing but ports has changed, and nothing is allocated twice. -/
structure Kept (r r' : Registry) : Prop where
  maps : r'.maps = r.maps
  brk : r.brk ≤ r'.brk

theorem Kept.refl : Kept r r := ⟨rfl, Nat.le_refl _⟩

theorem Kept.setPort : Kept r (r.setPort a p) := ⟨rfl, Nat.le_refl _⟩

theorem Kept.setChain {k : Int} {l : List Nat} : Kept r (r.setChain k l) := ⟨rfl, Nat.le_refl _⟩

theorem Kept.trans {r'' : Registry} (h : Kept r r') (h' : Kept r' r'') : Kept r r'' :=
  ⟨h'.maps.trans h.maps, Nat.le_trans h.brk h'.brk⟩

theorem Kept.roll (h : Kept r r') (hr : r.Roll) : r'.Roll := hr.of_maps h.maps h.brk

/-- Whose port is at `a`, and with which index. -/
def key (r : Registry) (a : Nat) : Option (UInt32 × Nat) :=
  (r.heap a).map fun p => (p.port_index, p.owner)

theorem key_eq_some {i : UInt32} {o : Nat} :
    r.key a = some (i, o) ↔ ∃ p, r.heap a = some p ∧ p.port_index = i ∧ p.owner = o := by
  simp [key]

/-- Only the keys of the ports matter. -/
theorem Wf.of_key (h : r.Wf c) (hb : r'.bridges = r.bridges) (hg : r'.g_CISTBRIDGE = r.g_CISTBRIDGE)
    (hc : r'.g_CISTPORT = r.g_CISTPORT) (hk : r'.brk = r.brk) (hkey : r'.key = r.key) : r'.Wf c := by
  have hto : ∀ a p', r'.heap a = some p' →
      ∃ p, r.heap a = some p ∧ p.port_index = p'.port_index ∧ p.owner = p'.owner := by
    intro a p' hp'
    exact key_eq_some.mp (by rw [← hkey]; simp [key, hp'])
  have hfrom : ∀ a p, r.heap a = some p →
      ∃ p', r'.heap a = some p' ∧ p'.port_index = p.port_index ∧ p'.owner = p.owner := by
    intro a p hp
    exact key_eq_some.mp (by rw [hkey]; simp [key, hp])
  refine
    { ids := hb ▸ h.ids
      addrs := hb ▸ h.addrs
      small := hb ▸ h.small
      cist := by rw [hb, hg]; exact h.cist
      known := by rw [hb, hg]; exact h.known
      fresh := by rw [hb, hk]; exact h.fresh
      allocated := fun a p' hp' => ?_
      owned := fun a p' hp' => ?_
      inRange := fun a p' hp' => ?_
      listed := fun s hs => (h.listed s (hb ▸ hs)).congr fun a => ⟨?_, ?_⟩
      one := fun a b p' q' hp' hq' ho hi => ?_
      chained := fun k => hc ▸ (h.chained k).congr fun a => ⟨?_, ?_⟩
      head := fun k a l hl => ?_ }
  · obtain ⟨p, hp, -⟩ := hto a p' hp'
    exact hk ▸ h.allocated a p hp
  · obtain ⟨p, hp, -, ho⟩ := hto a p' hp'
    rw [hb, ← ho]
    exact h.owned a p hp
  · obtain ⟨p, hp, hi, -⟩ := hto a p' hp'
    exact hi ▸ h.inRange a p hp
  · rintro ⟨p, hp, ho⟩
    obtain ⟨p', hp', -, ho'⟩ := hfrom a p hp
    exact ⟨p', hp', ho'.trans ho⟩
  · rintro ⟨p', hp', ho'⟩
    obtain ⟨p, hp, -, ho⟩ := hto a p' hp'
    exact ⟨p, hp, ho.trans ho'⟩
  · obtain ⟨p, hp, hip, hop⟩ := hto a p' hp'
    obtain ⟨q, hq, hiq, hoq⟩ := hto b q' hq'
    exact h.one a b p q hp hq (hop.trans (ho.trans hoq.symm)) (by rw [hip, hiq, hi])
  · rintro ⟨p, hp, hi⟩
    obtain ⟨p', hp', hi', -⟩ := hfrom a p hp
    exact ⟨p', hp', hi' ▸ hi⟩
  · rintro ⟨p', hp', hi'⟩
    obtain ⟨p, hp, hi, -⟩ := hto a p' hp'
    exact ⟨p, hp, hi ▸ hi'⟩
  · obtain ⟨p, hp, hcist⟩ := h.head k a l (hc ▸ hl)
    obtain ⟨p', hp', -, ho'⟩ := hfrom a p hp
    exact ⟨p', hp', by rw [hg, hcist, ho']⟩

/-- A port may be changed, but for its index and its owner. -/
theorem Wf.setPort (h : r.Wf c) (hp : r.heap a = some p) (hi : q.port_index = p.port_index)
    (ho : q.owner = p.owner) : (r.setPort a q).Wf c := by
  refine h.of_key rfl rfl rfl rfl (funext fun b => ?_)
  by_cases hab : b = a
  · subst hab
    simp [key, Registry.setPort, hp, hi, ho]
  · simp [key, Registry.setPort, Function.update_of_ne hab]

/-- The registry with a new port `p` of the instance `s`, on the chain of the index `k` that is now
`l`. -/
def withPort (r : Registry) (s : Stpm) (p : MstPort) (k : Int) (l : List Nat) : Registry :=
  { ((r.setStpm s.addr fun t => { t with ports := r.brk :: t.ports }).setPort r.brk p).setChain k l with
    brk := r.brk + 1 }

/-- A new port may be put at the head of the chain of the CIST, or behind it. -/
theorem Wf.withPort (h : r.Wf c) {k : Int} {l m : List Nat} (hs : s ∈ r.bridges) (ho : p.owner = s.addr)
    (hi : c.stpPortGlobalIndexParse p.port_index = k) (hk : 0 ≤ k ∧ k ≤ MAX_PORT_NUM)
    (hnew : ∀ a, ¬ r.Has c s.vlan_id p.port_index a) (hl : r.g_CISTPORT k = l ++ m)
    (hhead : if s.vlan_id = STP_CIST_ID then l = [] ∧ m = [] else l ≠ []) :
    (r.withPort s p k (l ++ r.brk :: m)).Wf c := by
  have hfree : r.heap r.brk = none := by
    cases hb : r.heap r.brk with
    | none => rfl
    | some q => exact absurd (h.allocated _ q hb) (Nat.lt_irrefl _)
  have hheap : ∀ b q, (r.withPort s p k (l ++ r.brk :: m)).heap b = some q ↔
      b = r.brk ∧ q = p ∨ r.heap b = some q := by
    intro b q
    by_cases hb : b = r.brk
    · subst hb
      simp [Registry.withPort, Registry.setPort, setChain, hfree, eq_comm]
    · simp [Registry.withPort, Registry.setPort, setChain, setStpm, hb]
  have hex : ∀ b (F : MstPort → Prop),
      (∃ q, (r.withPort s p k (l ++ r.brk :: m)).heap b = some q ∧ F q) ↔
        b = r.brk ∧ F p ∨ ∃ q, r.heap b = some q ∧ F q := by
    intro b F
    simp only [hheap, or_and_right, exists_or, and_assoc, exists_and_left, exists_eq_left]
  have hbrk : ∀ F : MstPort → Prop, ¬ ∃ q, r.heap r.brk = some q ∧ F q := by
    simp [hfree]
  have hroll : (r.setStpm s.addr fun t => { t with ports := r.brk :: t.ports }).Roll := h.toRoll.setPorts
  have hsame : ∀ t ∈ r.bridges, t.addr = s.addr ↔ t = s := fun t ht =>
    ⟨h.eq_of_addr ht hs, fun he => by rw [he]⟩
  have hkeep : ∀ t ∈ r.bridges, ∃ t' ∈ (r.withPort s p k (l ++ r.brk :: m)).bridges,
      t'.addr = t.addr := by
    intro t ht
    refine ⟨_, mem_setStpm.mpr ⟨t, ht, rfl⟩, ?_⟩
    split <;> rfl
  -- a port with the key of the new one would be the port that was not found
  have hapart : ∀ b q, r.heap b = some q → q.owner = p.owner →
      c.stpPortGlobalIndexParse q.port_index ≠ c.stpPortGlobalIndexParse p.port_index := by
    intro b q hq hqo hqi
    exact hnew b ⟨q, hq, hqi, s, hs, by rw [hqo, ho], rfl⟩
  refine
    { ids := hroll.ids
      addrs := hroll.addrs
      small := hroll.small
      cist := hroll.cist
      known := hroll.known
      fresh := fun t ht => Nat.lt_succ_of_lt (hroll.fresh t ht)
      allocated := fun b q hq => ?_
      owned := fun b q hq => ?_
      inRange := fun b q hq => ?_
      listed := fun t ht => ?_
      one := fun a b p' q' hp' hq' ho' hi' => ?_
      chained := fun k' => ?_
      head := fun k' b l' hl' => ?_ }
  · rcases (hheap b q).mp hq with ⟨rfl, -⟩ | hq
    · exact Nat.lt_succ_self _
    · exact Nat.lt_succ_of_lt (h.allocated b q hq)
  · rcases (hheap b q).mp hq with ⟨-, rfl⟩ | hq
    · rw [ho]
      exact hkeep s hs
    · obtain ⟨t, ht, hto⟩ := h.owned b q hq
      rw [← hto]
      exact hkeep t ht
  · rcases (hheap b q).mp hq with ⟨-, rfl⟩ | hq
    · exact hi ▸ hk
    · exact h.inRange b q hq
  · obtain ⟨t, ht', rfl⟩ := mem_setStpm.mp ht
    by_cases hts : t.addr = s.addr
    · rw [if_pos hts]
      refine (h.listed t ht').cons (hbrk _) fun b => ?_
      rw [hex, ho, hts]
      simp
    · rw [if_neg hts]
      refine (h.listed t ht').congr fun b => ?_
      rw [hex, ho]
      simp [Ne.symm hts]
  · rcases (hheap a p').mp hp' with ⟨ha, rfl⟩ | hpa
    · rcases (hheap b q').mp hq' with ⟨hb, -⟩ | hqb
      · rw [ha, hb]
      · exact absurd hi'.symm (hapart b q' hqb ho'.symm)
    · rcases (hheap b q').mp hq' with ⟨-, rfl⟩ | hqb
      · exact absurd hi' (hapart a p' hpa ho')
      · exact h.one a b p' q' hpa hqb ho' hi'
  · by_cases hkk : k' = k
    · subst hkk
      have hchain : (r.withPort s p k' (l ++ r.brk :: m)).g_CISTPORT k' = l ++ r.brk :: m :=
        Function.update_self ..
      rw [hchain]
      refine (hl ▸ h.chained k').insert (hbrk _) fun b => ?_
      rw [hex]
      simp [hi]
    · have hchain : (r.withPort s p k (l ++ r.brk :: m)).g_CISTPORT k' = r.g_CISTPORT k' :=
        Function.update_of_ne hkk ..
      rw [hchain]
      refine (h.chained k').congr fun b => ?_
      rw [hex]
      simp [hi, Ne.symm hkk]
  · by_cases hkk : k' = k
    · subst hkk
      have hchain : (r.withPort s p k' (l ++ r.brk :: m)).g_CISTPORT k' = l ++ r.brk :: m :=
        Function.update_self ..
      rw [hchain] at hl'
      by_cases hid : s.vlan_id = STP_CIST_ID
      · rw [if_pos hid] at hhead
        rw [hhead.1] at hl'
        cases hl'
        exact ⟨p, (hheap _ _).mpr (.inl ⟨rfl, rfl⟩), ho ▸ (h.cist s hs).mp hid⟩
      · rw [if_neg hid] at hhead
        cases l with
        | nil => exact absurd rfl hhead
        | cons a l =>
          obtain ⟨rfl, -⟩ := List.cons.inj hl'
          obtain ⟨q, hq, hcist⟩ := h.head k' a (l ++ m) hl
          exact ⟨q, (hheap _ _).mpr (.inr hq), hcist⟩
    · have hchain : (r.withPort s p k (l ++ r.brk :: m)).g_CISTPORT k' = r.g_CISTPORT k' :=
        Function.update_of_ne hkk ..
      obtain ⟨q, hq, hcist⟩ := h.head k' b l' (hchain ▸ hl')
      exact ⟨q, (hheap _ _).mpr (.inr hq), hcist⟩

/-- The registry without the port at `a` of the instance `s`. -/
def unlistPort (r : Registry) (s : Stpm) (a : Nat) : Registry :=
  { r.setStpm s.addr fun t => { t with ports := t.ports.erase a } with
    heap := Function.update r.heap a none }

theorem heap_unlistPort : (r.unlistPort s a).heap b = some q ↔ r.heap b = some q ∧ b ≠ a := by
  by_cases hb : b = a
  · subst hb
    simp [unlistPort]
  · simp [unlistPort, hb]

theorem exists_unlistPort {F : MstPort → Prop} : (∃ q, (r.unlistPort s a).heap b = some q ∧ F q) ↔
    (∃ q, r.heap b = some q ∧ F q) ∧ b ≠ a := by
  simp only [heap_unlistPort, and_right_comm, exists_and_right]

/-- The port is on no list but those of its key. -/
theorem spared_of_not (hp : r.heap a = some p) {F : MstPort → Prop} (hF : ¬ F p) :
    (∃ q, r.heap b = some q ∧ F q) ↔ (∃ q, r.heap b = some q ∧ F q) ∧ b ≠ a := by
  refine (and_iff_left_of_imp ?_).symm
  rintro ⟨q, hq, hFq⟩ rfl
  rw [hp] at hq
  cases hq
  exact hF hFq

theorem Listed.unlistPort (h : r.Listed c) (hp : r.heap a = some p) (ho : p.owner = s.addr) :
    (r.unlistPort s a).Listed c := by
  have hroll : (r.setStpm s.addr fun t => { t with ports := t.ports.erase a }).Roll :=
    h.toRoll.setPorts
  refine
    { ids := hroll.ids
      addrs := hroll.addrs
      small := hroll.small
      cist := hroll.cist
      known := hroll.known
      fresh := hroll.fresh
      allocated := fun b q hq => h.allocated b q (heap_unlistPort.mp hq).1
      owned := fun b q hq => ?_
      inRange := fun b q hq => h.inRange b q (heap_unlistPort.mp hq).1
      listed := fun t ht => ?_
      one := fun b b' q q' hq hq' => h.one b b' q q' (heap_unlistPort.mp hq).1 (heap_unlistPort.mp hq').1 }
  · obtain ⟨t, ht, hto⟩ := h.owned b q (heap_unlistPort.mp hq).1
    rw [← hto]
    refine ⟨_, mem_setStpm.mpr ⟨t, ht, rfl⟩, ?_⟩
    split <;> rfl
  · obtain ⟨t, ht', rfl⟩ := mem_setStpm.mp ht
    by_cases hts : t.addr = s.addr
    · rw [if_pos hts]
      exact (h.listed t ht').erase fun b => exists_unlistPort
    · rw [if_neg hts]
      exact (h.listed t ht').congr fun b =>
        (spared_of_not hp fun he => hts (he.symm.trans ho)).trans exists_unlistPort.symm

/-- The registry without the port at `a`, of the instance `s` and with the index `k`. -/
def withoutPort (r : Registry) (s : Stpm) (a : Nat) (k : Int) : Registry :=
  (r.unlistPort s a).setChain k ((r.g_CISTPORT k).erase a)

/-- A port of another instance than the CIST may be taken out of both lists. -/
theorem Wf.withoutPort (h : r.Wf c) {k : Int} (hs : s ∈ r.bridges) (hp : r.heap a = some p)
    (ho : p.owner = s.addr) (hi : c.stpPortGlobalIndexParse p.port_index = k)
    (hid : s.vlan_id ≠ STP_CIST_ID) : (r.withoutPort s a k).Wf c := by
  have hlisted := h.toListed.unlistPort hp ho
  have hne : ∀ x q, r.heap x = some q → r.g_CISTBRIDGE = some q.owner → x ≠ a := by
    rintro x q hq hcist rfl
    rw [hp] at hq
    cases hq
    exact hid ((h.cist s hs).mpr (by rw [hcist, ho]))
  have hthis : (r.withoutPort s a k).g_CISTPORT k = (r.g_CISTPORT k).erase a := Function.update_self ..
  have hother : ∀ k' ≠ k, (r.withoutPort s a k).g_CISTPORT k' = r.g_CISTPORT k' := fun k' hkk =>
    Function.update_of_ne hkk ..
  refine
    { ids := hlisted.ids
      addrs := hlisted.addrs
      small := hlisted.small
      cist := hlisted.cist
      known := hlisted.known
      fresh := hlisted.fresh
      allocated := hlisted.allocated
      owned := hlisted.owned
      inRange := hlisted.inRange
      listed := hlisted.listed
      one := hlisted.one
      chained := fun k' => ?_
      head := fun k' b l' hl' => ?_ }
  · by_cases hkk : k' = k
    · subst hkk
      rw [hthis]
      exact (h.chained k').erase fun b => exists_unlistPort (s := s)
    · rw [hother k' hkk]
      exact (h.chained k').congr fun b =>
        (spared_of_not hp fun he => hkk (he.symm.trans hi)).trans (exists_unlistPort (s := s)).symm
  · by_cases hkk : k' = k
    · subst hkk
      rw [hthis] at hl'
      cases hl : r.g_CISTPORT k' with
      | nil => simp [hl] at hl'
      | cons x l =>
        obtain ⟨q, hq, hcist⟩ := h.head k' x l hl
        have hxa := hne x q hq hcist
        rw [hl, List.erase_cons_tail (by simpa using hxa)] at hl'
        obtain ⟨rfl, -⟩ := List.cons.inj hl'
        exact ⟨q, (heap_unlistPort (s := s)).mpr ⟨hq, hxa⟩, hcist⟩
    · obtain ⟨q, hq, hcist⟩ := h.head k' b l' (hother k' hkk ▸ hl')
      exact ⟨q, (heap_unlistPort (s := s)).mpr ⟨hq, hne b q hq hcist⟩, hcist⟩

/-! ## The functions -/

/-- The index has a place in `g_CISTPORT`. -/
def Place (k : Int) : Prop := 0 ≤ k ∧ k ≤ MAX_PORT_NUM

instance (k : Int) : Decidable (Place k) := inferInstanceAs (Decidable (_ ∧ _))

theorem not_place {k : Int} : (k < 0 ∨ k > MAX_PORT_NUM) ↔ ¬ Place k := by
  simp only [Place]
  omega

theorem Wf.countVlan (h : r.Wf c) (hp : r.heap a = some p) :
    ∃ r', r.countVlan a VID isWan = some r' ∧ r'.Wf c ∧ r'.g_CISTPORT = r.g_CISTPORT := by
  refine ⟨r.setPort a { p with vlan_map :=
    if isWan then { p.vlan_map.add VID with ulcount := 1 } else p.vlan_map.add VID }, ?_,
    h.setPort hp rfl rfl, rfl⟩
  rw [Registry.countVlan, hp]
  rfl

theorem Wf.create (h : r.Wf c) (hs : s ∈ r.bridges) (hnew : ∀ a, ¬ r.Has c s.vlan_id port_index a) :
    r.stpPortMstPortCreate s port_index = some (some (r.brk,
      { (r.setStpm s.addr fun t => { t with ports := r.brk :: t.ports }).setPort r.brk
          { port_index := port_index, owner := s.addr, vlan_map := ⟨∅, 0⟩ } with
        brk := r.brk + 1 })) := by
  have hall : ∀ a ∈ s.ports, (do
      let p ← r.heap a
      pure (decide (p.port_index = port_index))) = some false := by
    intro a ha
    obtain ⟨p, hp, ho⟩ := ((h.listed s hs).2 a).mp ha
    have hne : p.port_index ≠ port_index := by
      intro hi
      exact hnew a ⟨p, hp, by rw [hi], s, hs, ho.symm, rfl⟩
    simp [hp, hne]
  have hnone : s.ports.find? (fun _ => false) = none := by simp
  rw [stpPortMstPortCreate, findM?_total hall, hnone]
  rfl

/-- The port that has been made for `s` goes into the chain: first, if it is the one of the CIST, and
after the one of the CIST if it is not. -/
theorem Wf.chain (h : r.Wf c) {k : Int} (hs : s ∈ r.bridges) (hi : c.stpPortGlobalIndexParse port_index = k)
    (hk : Place k) (hnew : ∀ a, ¬ r.Has c s.vlan_id port_index a)
    (hok : s.vlan_id ≠ STP_CIST_ID → r.g_CISTPORT k ≠ []) :
    ∃ r', chainPort
        { (r.setStpm s.addr fun t => { t with ports := r.brk :: t.ports }).setPort r.brk
            { port_index := port_index, owner := s.addr, vlan_map := ⟨∅, 0⟩ } with
          brk := r.brk + 1 } s.vlan_id k r.brk = some r' ∧
      r'.Wf c ∧ (∀ k, r.g_CISTPORT k ≠ [] → r'.g_CISTPORT k ≠ []) ∧
      r'.heap r.brk = some { port_index := port_index, owner := s.addr, vlan_map := ⟨∅, 0⟩ } := by
  have hwith : ∀ l m, r.g_CISTPORT k = l ++ m →
      (if s.vlan_id = STP_CIST_ID then l = [] ∧ m = [] else l ≠ []) →
      ∃ r', r.withPort s { port_index := port_index, owner := s.addr, vlan_map := ⟨∅, 0⟩ } k
          (l ++ r.brk :: m) = r' ∧
        r'.Wf c ∧ (∀ k, r.g_CISTPORT k ≠ [] → r'.g_CISTPORT k ≠ []) ∧
        r'.heap r.brk = some { port_index := port_index, owner := s.addr, vlan_map := ⟨∅, 0⟩ } := by
    intro l m hl hhead
    refine ⟨_, rfl, h.withPort hs rfl hi hk hnew hl hhead, fun k' hk' => ?_, ?_⟩
    · by_cases hkk : k' = k
      · subst hkk
        simp [Registry.withPort, setChain]
      · simpa [Registry.withPort, setChain, Registry.setPort, setStpm, hkk] using hk'
    · simp [Registry.withPort, setChain, Registry.setPort]
  by_cases hid : s.vlan_id = STP_CIST_ID
  · have hnil : r.g_CISTPORT k = [] := by
      cases hc : r.g_CISTPORT k with
      | nil => rfl
      | cons a l => exact absurd (hid ▸ h.has_head (hi ▸ hc)) (hnew a)
    obtain ⟨r', rfl, hr'⟩ := hwith [] [] hnil (by simp [hid])
    refine ⟨_, ?_, hr'⟩
    rw [chainPort, if_pos hid]
    rfl
  · cases hc : r.g_CISTPORT k with
    | nil => exact absurd hc (hok hid)
    | cons a l =>
      obtain ⟨p, hp, -⟩ := h.head k a l hc
      have ha : a ≠ r.brk := Nat.ne_of_lt (h.allocated a p hp)
      obtain ⟨r', rfl, hr'⟩ := hwith [a] l hc (by simp [hid])
      refine ⟨_, ?_, hr'⟩
      rw [chainPort, if_neg hid]
      simp only [Registry.setPort, setStpm, hc, Function.update_of_ne ha, hp]
      rfl

/-- A port is made for an instance only where the CIST has one. -/
def AddOk (c : Chassis) (r : Registry) (MSTID : UInt16) (port_index : UInt32) : Prop :=
  MSTID ≠ STP_CIST_ID → (∃ s ∈ r.bridges, s.vlan_id = MSTID) →
    Place (c.stpPortGlobalIndexParse port_index) →
      r.g_CISTPORT (c.stpPortGlobalIndexParse port_index) ≠ []

theorem Wf.addport (h : r.Wf c) (hok : r.AddOk c MSTID port_index) :
    ∃ rc r', r.stpPortMstAddport c MSTID port_index VID isWan = some (rc, r') ∧ r'.Wf c ∧
      (∀ k, r.g_CISTPORT k ≠ [] → r'.g_CISTPORT k ≠ []) ∧
      (Place (c.stpPortGlobalIndexParse port_index) → (∃ s ∈ r.bridges, s.vlan_id = MSTID) →
        rc = STP_OK) := by
  obtain ⟨o, hfind, ho⟩ := @Registry.Wf.findport _ _ MSTID port_index h
  rw [stpPortMstAddport]
  by_cases hbad : MSTID > STP_MSTI_MAX ∨ c.stpPortGlobalIndexParse port_index < 0 ∨
      c.stpPortGlobalIndexParse port_index > MAX_PORT_NUM
  · refine ⟨STP_ERROR, r, by simp [hbad], h, fun _ hk => hk, fun hplace hs => ?_⟩
    obtain ⟨s, hs, rfl⟩ := hs
    rcases hbad with hbig | hbad
    · exact absurd (h.small s hs) (UInt16.not_le.mpr hbig)
    · exact absurd hplace (not_place.mp hbad)
  have hplace : Place (c.stpPortGlobalIndexParse port_index) :=
    not_not.mp fun hn => hbad (.inr (not_place.mpr hn))
  cases o with
  | some a =>
    obtain ⟨p, hp, -⟩ := (ho a).mp rfl
    obtain ⟨r', hcount, hwf, hchain⟩ := @Registry.Wf.countVlan _ _ _ VID _ isWan h hp
    refine ⟨STP_OK, r', ?_, hwf, fun k hk => hchain ▸ hk, fun _ _ => rfl⟩
    simp [hbad, hfind, hcount]
  | none =>
    have hnew : ∀ a, ¬ r.Has c MSTID port_index a := fun a ha => by simpa using (ho a).mpr ha
    cases hget : r.stpStpmGetInstance MSTID with
    | none =>
      refine ⟨STP_BRIDGE_NOTFOUND, r, by simp [hbad, hfind], h, fun _ hk => hk, fun _ hs => ?_⟩
      obtain ⟨s, hs, hid⟩ := hs
      exact absurd hid (no_instance hget s hs)
    | some s =>
      obtain ⟨hs, hid⟩ := mem_of_instance hget
      subst hid
      obtain ⟨r₁, hchain, hwf, hchains, hp⟩ := h.chain hs rfl hplace hnew fun hid =>
        hok hid ⟨s, hs, rfl⟩ hplace
      obtain ⟨r', hcount, hwf', hchains'⟩ := @Registry.Wf.countVlan _ _ _ VID _ isWan hwf hp
      refine ⟨STP_OK, r', ?_, hwf', fun k hk => hchains' ▸ hchains k hk, fun _ _ => rfl⟩
      simp [hbad, hfind, h.create hs hnew, hchain, hcount]

/-- `stp_port_delete` takes a port out of its instance. -/
theorem Listed.portDelete (h : r.Listed c) (hs : s ∈ r.bridges) (hp : r.heap a = some p)
    (ho : p.owner = s.addr) : r.stpPortDelete a = some (r.unlistPort s a) := by
  have hall : ∀ b ∈ s.ports, (do
      let q ← r.heap b
      pure (decide (q.port_index = p.port_index))) = some (decide (b = a)) := by
    intro b hb
    obtain ⟨q, hq, hqo⟩ := ((h.listed s hs).2 b).mp hb
    have hba : q.port_index = p.port_index ↔ b = a := by
      constructor
      · intro he
        exact h.one b a q p hq hp (hqo.trans ho.symm) (by rw [he])
      · rintro rfl
        rw [hp] at hq
        cases hq
        rfl
    simp [hq, hba]
  have hfind : s.ports.find? (fun b => decide (b = a)) = some a := by
    have hmem : a ∈ s.ports := ((h.listed s hs).2 a).mpr ⟨p, hp, ho⟩
    cases hf : s.ports.find? (fun b => decide (b = a)) with
    | none => simpa using List.find?_eq_none.mp hf a hmem
    | some b => simpa using List.find?_some hf
  have hs' : r.stpm p.owner = some s := by
    rw [ho]
    exact h.stpm hs
  have hsearch := findM?_total hall
  rw [hfind] at hsearch
  simp only [Option.bind_eq_bind] at hsearch
  rw [stpPortDelete, hp]
  simp only [Option.bind_eq_bind, Option.bind_some, hs', hsearch, takeWhile_append_tail]
  rfl

/-- Taking a port out of its chain and out of its instance. -/
theorem Wf.portDelete (h : r.Wf c) {k : Int} (hs : s ∈ r.bridges) (hp : r.heap a = some p)
    (ho : p.owner = s.addr) (hi : c.stpPortGlobalIndexParse p.port_index = k)
    (hid : s.vlan_id ≠ STP_CIST_ID) :
    (r.unchain s.vlan_id k >>= fun r => r.stpPortDelete a) = some (r.withoutPort s a k) := by
  have hhas : r.Has c s.vlan_id p.port_index a := ⟨p, hp, rfl, s, hs, ho.symm, rfl⟩
  have hmem : a ∈ r.g_CISTPORT k := hi ▸ h.mem_chain hhas
  have hchain : r.unchain s.vlan_id k = some (r.setChain k ((r.g_CISTPORT k).erase a)) := by
    cases hc : r.g_CISTPORT k with
    | nil => simp [hc] at hmem
    | cons x l =>
      obtain ⟨q, hq, hcist⟩ := h.head k x l hc
      have hxa : x ≠ a := by
        rintro rfl
        rw [hp] at hq
        cases hq
        exact hid ((h.cist s hs).mpr (by rw [hcist, ho]))
      have hal : a ∈ l := by
        rw [hc] at hmem
        exact (List.mem_cons.mp hmem).resolve_left (Ne.symm hxa)
      obtain ⟨o, hsearch, hall⟩ := @Registry.Wf.search _ _ s.vlan_id p.port_index h l
        fun b hb => ((h.chained _).2 b).mp (by rw [hi, hc]; exact List.mem_cons_of_mem x hb)
      obtain rfl : o = some a := (hall a).mpr ⟨hal, hhas⟩
      rw [unchain, hc]
      simp only [hq, hsearch]
      rw [List.erase_cons_tail (by simpa using hxa)]
      rfl
  have hlisted : (r.setChain k ((r.g_CISTPORT k).erase a)).Listed c :=
    { ids := h.ids
      addrs := h.addrs
      small := h.small
      cist := h.cist
      known := h.known
      fresh := h.fresh
      allocated := h.allocated
      owned := h.owned
      inRange := h.inRange
      listed := h.listed
      one := h.one }
  rw [hchain]
  exact hlisted.portDelete hs hp ho

/-- The VLAN is taken from the port, and if it was the last one the port goes. -/
theorem Wf.delport_found (h : r.Wf c) (hs : s ∈ r.bridges) (hid : s.vlan_id ≠ STP_CIST_ID)
    (hp : r.heap a = some p) (ho : p.owner = s.addr)
    (hi : c.stpPortGlobalIndexParse p.port_index = c.stpPortGlobalIndexParse port_index) :
    r.stpPortMstDelport c s.vlan_id port_index VID junk = some
      (if p.vlan_map.ulcount = 1 then
        (STP_OK, (r.setPort a { p with vlan_map := p.vlan_map.del VID }).withoutPort s a
          (c.stpPortGlobalIndexParse port_index))
      else (junk, r.setPort a { p with vlan_map := p.vlan_map.del VID })) := by
  obtain ⟨o, hfind, hall⟩ := @Registry.Wf.findport _ _ s.vlan_id port_index h
  obtain rfl : o = some a := (hall a).mpr ⟨p, hp, hi, s, hs, ho.symm, rfl⟩
  have hplace : Place (c.stpPortGlobalIndexParse port_index) := hi ▸ h.inRange a p hp
  have hbad : ¬(s.vlan_id > STP_MSTI_MAX ∨ c.stpPortGlobalIndexParse port_index < 0 ∨
      c.stpPortGlobalIndexParse port_index > MAX_PORT_NUM) := by
    rintro (hbig | hbad)
    · exact absurd (h.small s hs) (UInt16.not_le.mpr hbig)
    · exact not_place.mp hbad hplace
  have hzero : (p.vlan_map.del VID).ulcount = 0 ↔ p.vlan_map.ulcount = 1 := by
    rw [VlanMap.del, sub_eq_zero]
  have hwf : (r.setPort a { p with vlan_map := p.vlan_map.del VID }).Wf c := h.setPort hp rfl rfl
  have hgone := hwf.portDelete (s := s) (a := a) (p := { p with vlan_map := p.vlan_map.del VID }) hs
    (by simp [Registry.setPort]) ho hi hid
  rw [stpPortMstDelport]
  by_cases hlast : p.vlan_map.ulcount = 1
  · rw [if_pos hlast]
    simp only [hbad, hid, if_false, hfind, hp, hzero.mpr hlast, Option.bind_eq_bind,
      Option.bind_some, ne_eq, not_true_eq_false] at hgone ⊢
    rw [← Option.bind_assoc, hgone]
    rfl
  · rw [if_neg hlast]
    have hne := mt hzero.mp hlast
    simp only [hbad, hid, if_false, hfind, hp, hne, Option.bind_eq_bind, Option.bind_some, ne_eq,
      not_false_eq_true, if_true]
    rfl

theorem Wf.delport (h : r.Wf c) :
    ∃ rc r', r.stpPortMstDelport c MSTID port_index VID junk = some (rc, r') ∧ r'.Wf c := by
  by_cases hbad : MSTID > STP_MSTI_MAX ∨ c.stpPortGlobalIndexParse port_index < 0 ∨
      c.stpPortGlobalIndexParse port_index > MAX_PORT_NUM
  · exact ⟨STP_ERROR, r, by simp [stpPortMstDelport, hbad], h⟩
  by_cases hid : MSTID = STP_CIST_ID
  · refine ⟨STP_OK, r, ?_, h⟩
    rw [stpPortMstDelport]
    simp only [hbad, if_false]
    rw [if_pos hid]
    rfl
  obtain ⟨o, hfind, hall⟩ := @Registry.Wf.findport _ _ MSTID port_index h
  cases o with
  | none => exact ⟨STP_PORT_NOTFOUND, r, by simp [stpPortMstDelport, hbad, hid, hfind], h⟩
  | some a =>
    obtain ⟨p, hp, hi, s, hs, ho, rfl⟩ := (hall a).mp rfl
    rw [h.delport_found hs hid hp ho.symm hi]
    have hwf : (r.setPort a { p with vlan_map := p.vlan_map.del VID }).Wf c := h.setPort hp rfl rfl
    split
    · exact ⟨_, _, rfl, hwf.withoutPort (p := { p with vlan_map := p.vlan_map.del VID }) hs
        (by simp [Registry.setPort]) ho.symm hi hid⟩
    · exact ⟨_, _, rfl, hwf⟩

/-! ## Instances come and go -/

def withoutInstance (r : Registry) (s : Stpm) : Registry :=
  { r with
    bridges := r.bridges.eraseP (·.vlan_id = s.vlan_id)
    g_CISTBRIDGE := if s.vlan_id = STP_CIST_ID then none else r.g_CISTBRIDGE }

theorem Roll.delete (h : r.Roll) (hs : s ∈ r.bridges) (hports : s.ports = []) :
    r.stpStpmDelete s.addr = some (r.withoutInstance s) := by
  rw [stpStpmDelete, h.stpm hs]
  simp [hports, deletePorts, withoutInstance]

theorem Roll.mem_withoutInstance (h : r.Roll) (hs : s ∈ r.bridges) :
    t ∈ (r.withoutInstance s).bridges ↔ t ∈ r.bridges ∧ t ≠ s := by
  obtain ⟨u, l₁, l₂, -, hu, hsplit, herase⟩ :=
    List.exists_of_eraseP (p := fun x : Stpm => decide (x.vlan_id = s.vlan_id)) hs (by simp)
  obtain rfl : u = s := h.eq_of_id (by rw [hsplit]; simp) hs (by simpa using hu)
  have hnot : u ∉ l₁ ++ l₂ := by
    have hids := h.ids
    rw [hsplit, List.map_append, List.map_cons, List.nodup_middle, List.nodup_cons,
      ← List.map_append] at hids
    exact fun hm => hids.1 (List.mem_map_of_mem hm)
  have hbridges : (r.withoutInstance u).bridges = l₁ ++ l₂ := herase
  rw [hbridges, hsplit]
  constructor
  · intro ht
    refine ⟨?_, fun he => hnot (he ▸ ht)⟩
    simp only [List.mem_append, List.mem_cons] at ht ⊢
    tauto
  · rintro ⟨ht, hne⟩
    simp only [List.mem_append, List.mem_cons] at ht ⊢
    tauto

theorem Roll.withoutInstance (h : r.Roll) (hs : s ∈ r.bridges) : (r.withoutInstance s).Roll := by
  have hmem : ∀ {t : Stpm}, t ∈ (r.withoutInstance s).bridges → t ∈ r.bridges ∧ t ≠ s :=
    (h.mem_withoutInstance hs).mp
  have hcist : ∀ a, (r.withoutInstance s).g_CISTBRIDGE = some a ↔
      r.g_CISTBRIDGE = some a ∧ a ≠ s.addr := by
    intro a
    by_cases hid : s.vlan_id = STP_CIST_ID
    · have := (h.cist s hs).mp hid
      simp [Registry.withoutInstance, hid, this]
      exact fun he => he.symm
    · have := mt (h.cist s hs).mpr hid
      simp only [Registry.withoutInstance, hid, if_false]
      refine (and_iff_left_of_imp ?_).symm
      rintro ha rfl
      exact this ha
  refine ⟨?_, ?_, fun t ht => h.small t (hmem ht).1, fun t ht => ?_, fun a ha => ?_,
    fun t ht => h.fresh t (hmem ht).1⟩
  · exact h.ids.sublist (List.eraseP_sublist.map _)
  · exact h.addrs.sublist (List.eraseP_sublist.map _)
  · rw [hcist, h.cist t (hmem ht).1]
    exact (and_iff_left fun he => (hmem ht).2 (h.eq_of_addr (hmem ht).1 hs he)).symm
  · obtain ⟨ha, hne⟩ := (hcist a).mp ha
    obtain ⟨t, ht, rfl⟩ := h.known a ha
    exact ⟨t, (h.mem_withoutInstance hs).mpr ⟨ht, fun he => hne (by rw [he])⟩, rfl⟩

/-- No port belongs to an instance without ports. -/
theorem Listed.not_owner (h : r.Listed c) (hs : s ∈ r.bridges) (hports : s.ports = [])
    (hp : r.heap a = some p) : p.owner ≠ s.addr := by
  intro ho
  have hmem := ((h.listed s hs).2 a).mpr ⟨p, hp, ho⟩
  rw [hports] at hmem
  cases hmem

theorem Listed.withoutInstance (h : r.Listed c) (hs : s ∈ r.bridges) (hports : s.ports = []) :
    (r.withoutInstance s).Listed c := by
  refine
    { toRoll := h.toRoll.withoutInstance hs
      allocated := h.allocated
      owned := fun a p hp => ?_
      inRange := h.inRange
      listed := fun t ht => h.listed t ((h.mem_withoutInstance hs).mp ht).1
      one := h.one }
  obtain ⟨t, ht, hto⟩ := h.owned a p hp
  refine ⟨t, (h.mem_withoutInstance hs).mpr ⟨ht, ?_⟩, hto⟩
  rintro rfl
  exact h.not_owner ht hports hp hto.symm

/-- An instance without ports may be deleted. -/
theorem Wf.withoutInstance (h : r.Wf c) (hs : s ∈ r.bridges) (hports : s.ports = []) :
    (r.withoutInstance s).Wf c := by
  refine
    { toListed := h.toListed.withoutInstance hs hports
      chained := h.chained
      head := fun k a l hl => ?_ }
  obtain ⟨p, hp, hcist⟩ := h.head k a l hl
  refine ⟨p, hp, ?_⟩
  have hid : s.vlan_id ≠ STP_CIST_ID := by
    intro hid
    have := (h.cist s hs).mp hid
    rw [hcist, Option.some.injEq] at this
    exact h.not_owner hs hports hp this
  simpa [Registry.withoutInstance, hid] using hcist

theorem insertAfter_perm {l : List Stpm} (h : ∃ t ∈ l, t.addr = a) :
    (insertAfter a s l).Perm (s :: l) := by
  induction l with
  | nil => simp at h
  | cons b l ih =>
    rw [insertAfter]
    split
    · exact List.Perm.swap s b l
    · rename_i hb
      have hl : ∃ t ∈ l, t.addr = a := by
        obtain ⟨t, ht, hta⟩ := h
        exact ⟨t, (List.mem_cons.mp ht).resolve_left fun he => hb (he ▸ hta), hta⟩
      exact ((ih hl).cons b).trans (List.Perm.swap s b l)

/-- A new instance, at a new place and with a new number. -/
theorem Roll.withInstance (h : r.Roll) (hb : r'.bridges.Perm (s :: r.bridges)) (ha : s.addr = r.brk)
    (hid : ∀ t ∈ r.bridges, t.vlan_id ≠ s.vlan_id) (hsmall : s.vlan_id ≤ STP_MSTI_MAX)
    (hbrk : r'.brk = r.brk + 1)
    (hcist : r'.g_CISTBRIDGE = if s.vlan_id = STP_CIST_ID then some s.addr else r.g_CISTBRIDGE) :
    r'.Roll := by
  have hmem : ∀ t, t ∈ r'.bridges ↔ t = s ∨ t ∈ r.bridges := fun t => by
    rw [hb.mem_iff, List.mem_cons]
  have hnew : ∀ t ∈ r.bridges, t.addr ≠ s.addr := fun t ht => by
    have := h.fresh t ht
    omega
  refine
    { ids := ?_
      addrs := ?_
      small := fun t ht => ?_
      cist := fun t ht => ?_
      known := fun a hg => ?_
      fresh := fun t ht => ?_ }
  · rw [(hb.map _).nodup_iff, List.map_cons, List.nodup_cons]
    refine ⟨fun hm => ?_, h.ids⟩
    obtain ⟨t, ht, he⟩ := List.mem_map.mp hm
    exact hid t ht he
  · rw [(hb.map _).nodup_iff, List.map_cons, List.nodup_cons]
    refine ⟨fun hm => ?_, h.addrs⟩
    obtain ⟨t, ht, he⟩ := List.mem_map.mp hm
    exact hnew t ht he
  · rcases (hmem t).mp ht with rfl | ht
    · exact hsmall
    · exact h.small t ht
  · rw [hcist]
    rcases (hmem t).mp ht with rfl | ht
    · by_cases hz : t.vlan_id = STP_CIST_ID
      · simp [hz]
      · simp only [hz, if_false, false_iff]
        intro hg
        obtain ⟨u, hu, hua⟩ := h.known _ hg
        exact hnew u hu hua
    · by_cases hz : s.vlan_id = STP_CIST_ID
      · simp only [hz, if_true, Option.some.injEq]
        exact ⟨fun ht0 => absurd (ht0.trans hz.symm) (hid t ht), fun he => absurd he.symm (hnew t ht)⟩
      · simp only [hz, if_false]
        exact h.cist t ht
  · rw [hcist] at hg
    split at hg
    · exact ⟨s, (hmem s).mpr (.inl rfl), Option.some.inj hg⟩
    · obtain ⟨t, ht, hta⟩ := h.known a hg
      exact ⟨t, (hmem t).mpr (.inr ht), hta⟩
  · rw [hbrk]
    rcases (hmem t).mp ht with rfl | ht
    · omega
    · exact Nat.lt_succ_of_lt (h.fresh t ht)

/-- A new instance has no ports. -/
theorem Wf.withInstance (h : r.Wf c) (hb : r'.bridges.Perm (s :: r.bridges)) (ha : s.addr = r.brk)
    (hid : ∀ t ∈ r.bridges, t.vlan_id ≠ s.vlan_id) (hsmall : s.vlan_id ≤ STP_MSTI_MAX)
    (hports : s.ports = []) (hheap : r'.heap = r.heap) (hchain : r'.g_CISTPORT = r.g_CISTPORT)
    (hbrk : r'.brk = r.brk + 1)
    (hcist : r'.g_CISTBRIDGE = if s.vlan_id = STP_CIST_ID then some s.addr else r.g_CISTBRIDGE) :
    r'.Wf c := by
  have hmem : ∀ t, t ∈ r'.bridges ↔ t = s ∨ t ∈ r.bridges := fun t => by
    rw [hb.mem_iff, List.mem_cons]
  have hold : s.vlan_id = STP_CIST_ID → r.g_CISTBRIDGE = none := by
    intro hz
    cases hg : r.g_CISTBRIDGE with
    | none => rfl
    | some a =>
      obtain ⟨t, ht, hta⟩ := h.known a hg
      exact absurd (((h.cist t ht).mpr (hta ▸ hg)).trans hz.symm) (hid t ht)
  refine
    { toRoll := h.toRoll.withInstance hb ha hid hsmall hbrk hcist
      allocated := fun a p hp => ?_
      owned := fun a p hp => ?_
      inRange := hheap ▸ h.inRange
      listed := fun t ht => ?_
      one := hheap ▸ h.one
      chained := fun k => by rw [hheap, hchain]; exact h.chained k
      head := fun k a l hl => ?_ }
  · rw [hbrk]
    exact Nat.lt_succ_of_lt (h.allocated a p (hheap ▸ hp))
  · obtain ⟨t, ht, hto⟩ := h.owned a p (hheap ▸ hp)
    exact ⟨t, (hmem t).mpr (.inr ht), hto⟩
  · rw [hheap]
    rcases (hmem t).mp ht with rfl | ht
    · rw [hports]
      refine .nil fun a => ?_
      rintro ⟨p, hp, ho⟩
      obtain ⟨u, hu, huo⟩ := h.owned a p hp
      have := h.fresh u hu
      omega
    · exact h.listed t ht
  · obtain ⟨p, hp, hg⟩ := h.head k a l (hchain ▸ hl)
    refine ⟨p, hheap ▸ hp, ?_⟩
    rw [hcist, if_neg, hg]
    intro hz
    rw [hold hz] at hg
    cases hg

/-- The instance that `stp_stpm_mst_create` makes. -/
def newStpm (r : Registry) (MSTID : UInt16) : Stpm :=
  { addr := r.brk, vlan_id := MSTID, vlan_map := ⟨∅, 0⟩, ports := []
    ConfigurationDigest := List.replicate 16 0 }

/-- A new instance is all that is new. -/
structure Created (r : Registry) (MSTID : UInt16) (r' : Registry) : Prop where
  small : MSTID ≤ STP_MSTI_MAX
  bridges : r'.bridges.Perm (r.newStpm MSTID :: r.bridges)
  cist : r'.g_CISTBRIDGE = if MSTID = STP_CIST_ID then some r.brk else r.g_CISTBRIDGE
  heap : r'.heap = r.heap
  chain : r'.g_CISTPORT = r.g_CISTPORT
  table : r'.g_VID2MSTID = r.g_VID2MSTID
  pbmp : r'.g_VlanPBMP = r.g_VlanPBMP
  brk : r'.brk = r.brk + 1

theorem Roll.created (h : r.Roll) (hmk : r.stpStpmMstCreate MSTID = some (a, r')) :
    a = r.brk ∧ Created r MSTID r' := by
  by_cases hbig : MSTID > STP_MSTI_MAX
  · simp [stpStpmMstCreate, hbig] at hmk
  have hsmall : MSTID ≤ STP_MSTI_MAX := UInt16.not_lt.mp hbig
  rw [stpStpmMstCreate] at hmk
  simp only [hbig, if_false] at hmk
  by_cases hz : MSTID = STP_CIST_ID
  · rw [if_pos hz] at hmk
    cases hmk
    exact ⟨rfl, hsmall, .refl _, by simp [hz], rfl, rfl, rfl, rfl, rfl⟩
  · rw [if_neg hz] at hmk
    cases hg : r.g_CISTBRIDGE with
    | none =>
      rw [hg] at hmk
      cases hmk
    | some b =>
      rw [hg] at hmk
      cases hmk
      exact ⟨rfl, hsmall, insertAfter_perm (h.known b hg), by simp [hz, hg], rfl, rfl, rfl, rfl, rfl⟩

theorem create_defined (hsmall : MSTID ≤ STP_MSTI_MAX) (hg : r.g_CISTBRIDGE ≠ none) :
    ∃ r', r.stpStpmMstCreate MSTID = some (r.brk, r') := by
  rw [stpStpmMstCreate]
  simp only [UInt16.not_lt.mpr hsmall, if_false]
  split
  · exact ⟨_, rfl⟩
  · cases hg' : r.g_CISTBRIDGE with
    | none => exact absurd hg' hg
    | some a => exact ⟨_, rfl⟩

theorem Created.roll (hc : Created r MSTID r') (h : r.Roll) (hno : r.stpStpmGetInstance MSTID = none) :
    r'.Roll :=
  h.withInstance hc.bridges rfl (no_instance hno) hc.small hc.brk hc.cist

theorem Created.wf (hc : Created r MSTID r') (h : r.Wf c) (hno : r.stpStpmGetInstance MSTID = none) :
    r'.Wf c :=
  h.withInstance hc.bridges rfl (no_instance hno) hc.small rfl hc.heap hc.chain hc.brk hc.cist

/-! ## What is left by a deletion of ports -/

theorem portDelete_heap (h : r.stpPortDelete a = some r') (hb : b ≠ a) : r'.heap b = r.heap b := by
  simp only [stpPortDelete, Option.bind_eq_bind, Option.bind_eq_some_iff] at h
  obtain ⟨p, -, s, -, tmp, -, h⟩ := h
  cases tmp with
  | none =>
    cases h
    rfl
  | some x =>
    cases h
    exact Function.update_of_ne hb ..

theorem portDelete_kept (h : r.stpPortDelete a = some r') : Kept r r' := by
  simp only [stpPortDelete, Option.bind_eq_bind, Option.bind_eq_some_iff] at h
  obtain ⟨p, -, s, -, tmp, -, h⟩ := h
  cases tmp with
  | none =>
    cases h
    exact .refl
  | some x =>
    cases h
    exact ⟨maps_setPorts, Nat.le_refl _⟩

/-- The loop over the ports leaves the ports it does not come to. -/
theorem deletePorts_spares {l : List Nat} (h : deletePorts a l r = some r') :
    Kept r r' ∧ ∀ b ∉ l, r'.heap b = r.heap b := by
  induction l using List.twoStepInduction generalizing r with
  | nil =>
    cases h
    exact ⟨.refl, fun _ _ => rfl⟩
  | singleton p => cases h
  | cons_cons p q l ih _ =>
    simp only [deletePorts, Option.bind_eq_bind, Option.bind_eq_some_iff] at h
    obtain ⟨r₁, hdel, hrest⟩ := h
    obtain ⟨hkept, hheap⟩ := ih hrest
    have hset : Kept r₁ (r₁.setStpm a fun s => { s with ports := q :: l }) :=
      ⟨maps_setPorts, Nat.le_refl _⟩
    refine ⟨((portDelete_kept hdel).trans hset).trans hkept, fun b hb => ?_⟩
    simp only [List.mem_cons, not_or] at hb
    have hb' := portDelete_heap hdel hb.1
    exact (hheap b hb.2.2).trans hb'

/-- An instance that is deleted with ports leaves the second of them behind. -/
theorem Wf.delete_leaves (h : r.Wf c) (hs : s ∈ r.bridges) (hports : s.ports ≠ [])
    (hd : r.stpStpmDelete s.addr = some r') :
    ∃ a p, r'.heap a = some p ∧ ∀ t ∈ r'.bridges, t.addr ≠ p.owner := by
  rw [stpStpmDelete, h.stpm hs] at hd
  simp only [Option.bind_eq_bind, Option.bind_some, Option.bind_eq_some_iff] at hd
  obtain ⟨r₁, hloop, hd⟩ := hd
  cases hd
  have hkept := (deletePorts_spares hloop).1
  have hroll : r₁.Roll := hkept.roll h.toRoll
  obtain ⟨s₁, hs₁, haddr, hid, -⟩ := maps_mem hkept.maps.symm hs
  have hnodup := (h.listed s hs).1
  cases hl : s.ports with
  | nil => exact absurd hl hports
  | cons x l =>
    cases l with
    | nil =>
      rw [hl] at hloop
      cases hloop
    | cons q l =>
      rw [hl] at hloop hnodup
      simp only [deletePorts, Option.bind_eq_bind, Option.bind_eq_some_iff] at hloop
      obtain ⟨r₂, hdel, hrest⟩ := hloop
      have hq : q ∉ l := (List.nodup_cons.mp (List.nodup_cons.mp hnodup).2).1
      have hqx : q ≠ x := fun he => (List.nodup_cons.mp hnodup).1 (by simp [he])
      obtain ⟨p, hp, ho⟩ := ((h.listed s hs).2 q).mp (by simp [hl])
      refine ⟨q, p, ?_, fun t ht => ?_⟩
      · have hx := portDelete_heap hdel hqx
        exact ((deletePorts_spares hrest).2 q hq).trans (hx.trans hp)
      · have ht' : t ∈ (r₁.withoutInstance s₁).bridges := by
          rw [Registry.withoutInstance, hid]
          exact ht
        obtain ⟨htmem, hne⟩ := (hroll.mem_withoutInstance hs₁).mp ht'
        rw [ho, ← haddr]
        exact fun he => hne (hroll.eq_of_addr htmem hs₁ he)

/-! ## What the handling of ports leaves alone -/

theorem countVlan_kept (h : r.countVlan a VID isWan = some r') : Kept r r' := by
  simp only [Registry.countVlan, Option.bind_eq_bind, Option.bind_eq_some_iff] at h
  obtain ⟨p, -, h⟩ := h
  cases h
  exact .setPort

theorem chainPort_kept {k : Int} (h : r.chainPort MSTID k a = some r') : Kept r r' := by
  rw [chainPort] at h
  split at h
  · cases h
    exact .setChain
  · split at h
    · cases h
    · simp only [Option.bind_eq_bind, Option.bind_eq_some_iff] at h
      obtain ⟨p, -, h⟩ := h
      cases h
      exact .setChain

theorem unchain_kept {k : Int} (h : r.unchain MSTID k = some r') : Kept r r' := by
  rw [unchain] at h
  split at h
  · cases h
  · simp only [Option.bind_eq_bind, Option.bind_eq_some_iff] at h
    obtain ⟨p, -, o, -, h⟩ := h
    cases o with
    | none =>
      cases h
      exact .refl
    | some b =>
      cases h
      exact .setChain

theorem create_kept (h : r.stpPortMstPortCreate s port_index = some (some (a, r'))) :
    Kept r r' := by
  simp only [stpPortMstPortCreate, Option.bind_eq_bind, Option.bind_eq_some_iff] at h
  obtain ⟨o, -, h⟩ := h
  cases o with
  | some b => cases h
  | none =>
    cases h
    exact ⟨maps_setPorts, Nat.le_succ _⟩

theorem addport_kept (h : r.stpPortMstAddport c MSTID port_index VID isWan = some (rc, r')) :
    Kept r r' := by
  simp only [stpPortMstAddport] at h
  split at h
  · cases h
    exact .refl
  simp only [Option.bind_eq_bind, Option.bind_eq_some_iff] at h
  obtain ⟨o, -, h⟩ := h
  cases o with
  | some a =>
    simp only [Option.bind_eq_some_iff] at h
    obtain ⟨r₁, hcount, h⟩ := h
    cases h
    exact countVlan_kept hcount
  | none =>
    cases hget : r.stpStpmGetInstance MSTID with
    | none =>
      rw [hget] at h
      cases h
      exact .refl
    | some s =>
      simp only [hget, Option.bind_eq_some_iff] at h
      obtain ⟨x, hcreate, h⟩ := h
      cases x with
      | none =>
        cases h
        exact .refl
      | some x =>
        simp only [Option.bind_eq_some_iff] at h
        obtain ⟨r₁, hchain, r₂, hcount, h⟩ := h
        cases h
        exact ((create_kept hcreate).trans (chainPort_kept hchain)).trans (countVlan_kept hcount)

theorem delport_kept (h : r.stpPortMstDelport c MSTID port_index VID junk = some (rc, r')) :
    Kept r r' := by
  simp only [stpPortMstDelport] at h
  split at h
  · cases h
    exact .refl
  split at h
  · cases h
    exact .refl
  simp only [Option.bind_eq_bind, Option.bind_eq_some_iff] at h
  obtain ⟨o, -, h⟩ := h
  cases o with
  | none =>
    cases h
    exact .refl
  | some a =>
    simp only [Option.bind_eq_some_iff] at h
    obtain ⟨p, -, h⟩ := h
    split at h
    · cases h
      exact .setPort
    · simp only [Option.bind_eq_some_iff] at h
      obtain ⟨r₁, hchain, r₂, hdel, h⟩ := h
      cases h
      exact (Kept.setPort.trans (unchain_kept hchain)).trans (portDelete_kept hdel)

/-- Without a port of the CIST in the chain, the new port has nowhere to go. -/
theorem Wf.addport_stuck (h : r.Wf c) (hno : ¬ r.AddOk c MSTID port_index) :
    r.stpPortMstAddport c MSTID port_index VID isWan = none := by
  simp only [AddOk, Classical.not_imp, ne_eq, not_not] at hno
  obtain ⟨hid, ⟨s, hs, rfl⟩, hplace, hnil⟩ := hno
  have hnew : ∀ a, ¬ r.Has c s.vlan_id port_index a := by
    intro a ha
    have := h.mem_chain ha
    rw [hnil] at this
    cases this
  obtain ⟨o, hfind, hall⟩ := @Registry.Wf.findport _ _ s.vlan_id port_index h
  obtain rfl : o = none := by
    cases o with
    | none => rfl
    | some a => exact absurd ((hall a).mp rfl) (hnew a)
  have hbad : ¬(s.vlan_id > STP_MSTI_MAX ∨ c.stpPortGlobalIndexParse port_index < 0 ∨
      c.stpPortGlobalIndexParse port_index > MAX_PORT_NUM) := by
    rintro (hbig | hbad)
    · exact absurd (h.small s hs) (UInt16.not_le.mpr hbig)
    · exact not_place.mp hbad hplace
  rw [stpPortMstAddport]
  simp [hbad, hfind, h.toRoll.instance hs, h.create hs hnew, chainPort, hid, Registry.setPort, setStpm,
    hnil]

/-! ## Runs -/

/-- The registry before anything is made. -/
def empty (g_VID2MSTID : Nat → UInt16) (g_VlanPBMP : Nat → PortBmp) : Registry :=
  { bridges := [], g_CISTBRIDGE := none, heap := fun _ => none, g_CISTPORT := fun _ => []
    g_VID2MSTID := g_VID2MSTID, g_VlanPBMP := g_VlanPBMP, brk := 0 }

theorem wf_empty {v : Nat → UInt16} {w : Nat → PortBmp} : (empty v w).Wf c := by
  refine ⟨⟨⟨?_, ?_, ?_, ?_, ?_, ?_⟩, ?_, ?_, ?_, ?_, ?_⟩, ?_, ?_⟩ <;> simp [empty, Lib.Lists]

/-- The chain of an index has the port of the CIST at its head, and then one port for each other
instance that has one of that index; every port on a list belongs to the instance whose list it is;
and no port is left of an instance that is gone. -/
structure Registered (c : Chassis) (r : Registry) : Prop where
  owner : ∀ s ∈ r.bridges, ∀ a ∈ s.ports, ∃ p, r.heap a = some p ∧ p.owner = s.addr
  chain : ∀ k a, a ∈ r.g_CISTPORT k ↔ ∃ s ∈ r.bridges, a ∈ s.ports ∧
    ∃ p, r.heap a = some p ∧ c.stpPortGlobalIndexParse p.port_index = k
  nodup : ∀ k, (r.g_CISTPORT k).Nodup
  one : ∀ k, ∀ s ∈ r.bridges, ∀ a ∈ s.ports, ∀ b ∈ s.ports,
    a ∈ r.g_CISTPORT k → b ∈ r.g_CISTPORT k → a = b
  cist : ∀ k a l, r.g_CISTPORT k = a :: l →
    ∃ s ∈ r.bridges, s.vlan_id = STP_CIST_ID ∧ a ∈ s.ports
  left : ∀ a p, r.heap a = some p → ∃ s ∈ r.bridges, s.addr = p.owner ∧ a ∈ s.ports

theorem Wf.registered (h : r.Wf c) : r.Registered c := by
  have hleft : ∀ a p, r.heap a = some p → ∃ s ∈ r.bridges, s.addr = p.owner ∧ a ∈ s.ports := by
    intro a p hp
    obtain ⟨s, hs, ho⟩ := h.owned a p hp
    exact ⟨s, hs, ho, ((h.listed s hs).2 a).mpr ⟨p, hp, ho.symm⟩⟩
  refine
    { owner := fun s hs a ha => ((h.listed s hs).2 a).mp ha
      chain := fun k a => ?_
      nodup := fun k => (h.chained k).1
      one := fun k s hs a ha b hb hak hbk => ?_
      cist := fun k a l hl => ?_
      left := hleft }
  · rw [(h.chained k).2 a]
    constructor
    · rintro ⟨p, hp, hi⟩
      obtain ⟨s, hs, -, ha⟩ := hleft a p hp
      exact ⟨s, hs, ha, p, hp, hi⟩
    · rintro ⟨s, hs, ha, hp⟩
      exact hp
  · obtain ⟨p, hp, hpo⟩ := ((h.listed s hs).2 a).mp ha
    obtain ⟨q, hq, hqo⟩ := ((h.listed s hs).2 b).mp hb
    obtain ⟨p', hp', hpi⟩ := ((h.chained k).2 a).mp hak
    obtain ⟨q', hq', hqi⟩ := ((h.chained k).2 b).mp hbk
    rw [hp] at hp'
    rw [hq] at hq'
    cases hp'
    cases hq'
    exact h.one a b p q hp hq (hpo.trans hqo.symm) (hpi.trans hqi.symm)
  · obtain ⟨p, hp, hg⟩ := h.head k a l hl
    obtain ⟨s, hs, ho, ha⟩ := hleft a p hp
    exact ⟨s, hs, (h.cist s hs).mpr (by rw [hg, ho]), ha⟩

end

end Registry

/-- What the management of VLANs does to the registry. -/
inductive PortOp
  | mstCreate (MSTID : UInt16)
  | mstAddport (MSTID : UInt16) (port_index : UInt32) (VID : Nat) (isWan : Bool)
  | mstDelport (MSTID : UInt16) (port_index : UInt32) (VID : Nat) (junk : Int)
  | stpmDelete (MSTID : UInt16)

namespace PortOp

open Registry

/-- An instance is made if it is not there, and deleted if it is. -/
def step (c : Chassis) (r : Registry) : PortOp → Option Registry
  | mstCreate MSTID =>
    if (r.stpStpmGetInstance MSTID).isSome then some r
    else some (((r.stpStpmMstCreate MSTID).map Prod.snd).getD r)
  | mstAddport MSTID port_index VID isWan =>
    (r.stpPortMstAddport c MSTID port_index VID isWan).map Prod.snd
  | mstDelport MSTID port_index VID junk =>
    (r.stpPortMstDelport c MSTID port_index VID junk).map Prod.snd
  | stpmDelete MSTID => (r.stpStpmGetInstance MSTID).elim (some r) fun s => r.stpStpmDelete s.addr

/-- A port is made for an instance only where the CIST has one, and an instance is deleted only
without ports. -/
def Ok (c : Chassis) (r : Registry) : PortOp → Prop
  | mstCreate _ => True
  | mstAddport MSTID port_index _ _ => r.AddOk c MSTID port_index
  | mstDelport _ _ _ _ => True
  | stpmDelete MSTID => ∀ s ∈ r.bridges, s.vlan_id = MSTID → s.ports = []

section
variable {r : Registry} {c : Chassis} {op : PortOp}

theorem step_wf (h : r.Wf c) (hok : op.Ok c r) : ∃ r', op.step c r = some r' ∧ r'.Wf c := by
  cases op with
  | mstCreate MSTID =>
    cases hget : r.stpStpmGetInstance MSTID with
    | some s => exact ⟨r, by simp [step, hget], h⟩
    | none =>
      cases hmk : r.stpStpmMstCreate MSTID with
      | none => exact ⟨r, by simp [step, hget, hmk], h⟩
      | some x => exact ⟨x.2, by simp [step, hget, hmk], (h.toRoll.created hmk).2.wf h hget⟩
  | mstAddport MSTID port_index VID isWan =>
    obtain ⟨rc, r', hr', hwf, -⟩ := @Registry.Wf.addport _ _ VID _ _ isWan h hok
    exact ⟨r', by simp [step, hr'], hwf⟩
  | mstDelport MSTID port_index VID junk =>
    obtain ⟨rc, r', hr', hwf⟩ := @Registry.Wf.delport _ _ VID MSTID port_index junk h
    exact ⟨r', by simp [step, hr'], hwf⟩
  | stpmDelete MSTID =>
    cases hget : r.stpStpmGetInstance MSTID with
    | none => exact ⟨r, by simp [step, hget], h⟩
    | some s =>
      obtain ⟨hs, hid⟩ := mem_of_instance hget
      have hports := hok s hs hid
      exact ⟨_, by simp [step, hget, h.toRoll.delete hs hports], h.withoutInstance hs hports⟩

theorem step_bad (h : r.Wf c) (hno : ¬ op.Ok c r) {r' : Registry} (hr' : op.step c r = some r') :
    ¬ r'.Registered c := by
  cases op with
  | mstCreate MSTID => exact absurd trivial hno
  | mstAddport MSTID port_index VID isWan => simp [step, h.addport_stuck hno] at hr'
  | mstDelport MSTID port_index VID junk => exact absurd trivial hno
  | stpmDelete MSTID =>
    simp only [Ok, not_forall] at hno
    obtain ⟨s, hs, rfl, hports⟩ := hno
    simp only [step, h.toRoll.instance hs, Option.elim_some] at hr'
    obtain ⟨a, p, hp, hgone⟩ := h.delete_leaves hs hports hr'
    intro hreg
    obtain ⟨t, ht, hto, -⟩ := hreg.left a p hp
    exact hgone t ht hto

end

/-- The ports are registered in every state of a run exactly if every step of it is in order. -/
theorem registered_iff {c : Chassis} {v : Nat → UInt16} {w : Nat → PortBmp} {ops : List PortOp} :
    (∀ pre suf, ops = pre ++ suf →
      ∃ r, tryRun (fun r op => op.step c r) (empty v w) pre = some r ∧ r.Registered c) ↔
    TryObeys (fun r op => op.step c r) (fun r op => op.Ok c r) (empty v w) ops :=
  (tryObeys_iff (fun _ _ h hok => step_wf h hok) (fun _ h => h.registered)
    (fun _ _ _ h hno hr' => step_bad h hno hr') wf_empty).symm

/-- A chassis whose ports are numbered from 0 on. -/
def plain : Chassis := ⟨.AX5K_E, false, 1⟩

/-- The third port of a VLAN has no place, so the instance is deleted, with two ports: the second one of
its list stays in the chain, and belongs to what is no longer there. -/
theorem delete_two : ¬ ∀ pre suf,
    [mstCreate 0, mstAddport 0 1 10 false, mstAddport 0 2 10 false, mstCreate 1,
      mstAddport 1 1 10 false, mstAddport 1 2 10 false, mstAddport 1 60 10 false, stpmDelete 1] = pre ++ suf →
    ∃ r, tryRun (fun r op => op.step plain r) (empty (fun _ => 0) fun _ _ => 0) pre = some r ∧
      r.Registered plain := by
  intro h
  obtain ⟨r, hr, hreg⟩ := h _ [] (List.append_nil _).symm
  have hends : (tryRun (fun r op => op.step plain r) (empty (fun _ => 0) fun _ _ => 0)
      [mstCreate 0, mstAddport 0 1 10 false, mstAddport 0 2 10 false, mstCreate 1,
        mstAddport 1 1 10 false, mstAddport 1 2 10 false, mstAddport 1 60 10 false, stpmDelete 1]).map
      (fun r => ((r.heap 4).map (·.owner), r.bridges.map (·.addr))) = some (some 3, [0]) := by
    decide +kernel
  rw [hr] at hends
  simp only [Option.map_some, Option.some.injEq, Prod.mk.injEq, Option.map_eq_some_iff] at hends
  obtain ⟨⟨p, hp, ho⟩, hbridges⟩ := hends
  obtain ⟨s, hs, hso, -⟩ := hreg.left 4 p hp
  have hmem : s.addr ∈ r.bridges.map (·.addr) := List.mem_map_of_mem hs
  rw [hbridges, hso, ho] at hmem
  simp at hmem

end PortOp

end Stp
end DaemonGroup
