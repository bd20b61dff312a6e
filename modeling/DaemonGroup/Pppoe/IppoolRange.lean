import DaemonGroup.Pppoe.Addresses
import Mathlib.Data.Set.Card
import Mathlib.Order.Interval.Finset.Nat

/-!
# DaemonGroup.Pppoe.IppoolRange

The addresses of a pool. Its slots are numbered by the host addresses of its range, and the two
formulas of `pppoe_ippool.c` are the numbering and its inverse. A configured range that has a host
address keeps what is handed out inside it; at the two ends of the address space the adjusted
bounds wrap.
-/

namespace DaemonGroup
namespace Pppoe

open Lib

/-! ## Slots and addresses -/

def hostRange (lo up : UInt32) : Set UInt32 := {a | lo ≤ a ∧ a ≤ up ∧ IsHost a.toNat}

def Ippool.slots (p : Ippool) : Set UInt32 := {i | i < p.totalNUM}

theorem Ippool.Range.host {p : Ippool} {m i : UInt32} (h : p.Range m) (hi : i ∈ p.slots) :
    indexToIpaddr p.startIP i ∈ hostRange p.startIP m := by
  have hi' : i.toNat ≤ hosts p.startIP.toNat m.toNat := by
    have := UInt32.lt_iff_toNat_lt.mp hi
    rw [h.total] at this
    omega
  have hle := UInt32.le_iff_toNat_le.mp h.le
  have hip := indexToIpaddr_toNat h.start h.last hle m.toNat_lt hi'
  obtain ⟨hup, hhost, hge, -⟩ := hostAt_spec h.start h.last hle hi'
  rw [← hip] at hup hhost hge
  exact ⟨UInt32.le_iff_toNat_le.mpr hge, UInt32.le_iff_toNat_le.mpr hup, hhost⟩

/-- A host address of the range has a slot, and it is the address of this slot. -/
theorem Ippool.Range.slot {p : Ippool} {m a : UInt32} (h : p.Range m)
    (ha : a ∈ hostRange p.startIP m) :
    ipaddrToIndex p.startIP a ∈ p.slots ∧
      indexToIpaddr p.startIP (ipaddrToIndex p.startIP a) = a := by
  obtain ⟨hlo, hup, hhost⟩ := ha
  have hidx : (ipaddrToIndex p.startIP a).toNat = hosts p.startIP.toNat a.toNat :=
    hosts_toNat h.start hhost hlo
  have hlo := UInt32.le_iff_toNat_le.mp hlo
  have hup := UInt32.le_iff_toNat_le.mp hup
  have hmono := hosts_mono h.start hhost h.last hlo hup
  constructor
  · show ipaddrToIndex p.startIP a < p.totalNUM
    rw [UInt32.lt_iff_toNat_lt, hidx, h.total]
    omega
  · rw [← UInt32.toNat_inj, indexToIpaddr_toNat h.start h.last (hlo.trans hup) m.toNat_lt
      (by rw [hidx]; exact hmono), hidx]
    exact hostAt_hosts h.start hhost hlo

theorem Ippool.Range.invOn {p : Ippool} {m : UInt32} (h : p.Range m) :
    Set.InvOn (ipaddrToIndex p.startIP) (indexToIpaddr p.startIP) p.slots
      (hostRange p.startIP m) :=
  ⟨fun _ hi => (h.index hi).2, fun _ ha => (h.slot ha).2⟩

theorem Ippool.Range.bijOn {p : Ippool} {m : UInt32} (h : p.Range m) :
    Set.BijOn (indexToIpaddr p.startIP) p.slots (hostRange p.startIP m) :=
  h.invOn.bijOn (fun _ hi => h.host hi) (fun _ ha => (h.slot ha).1)

theorem Ippool.slots_ncard (p : Ippool) : p.slots.ncard = p.totalNUM.toNat := by
  have himage : UInt32.toNat '' p.slots = Set.Iio p.totalNUM.toNat := by
    ext n
    constructor
    · rintro ⟨i, hi, rfl⟩
      exact UInt32.lt_iff_toNat_lt.mp hi
    · intro hn
      have hlt := hn.trans p.totalNUM.toNat_lt
      refine ⟨UInt32.ofNat n, ?_, UInt32.toNat_ofNat_of_lt' hlt⟩
      show UInt32.ofNat n < p.totalNUM
      rw [UInt32.lt_iff_toNat_lt, UInt32.toNat_ofNat_of_lt' hlt]
      exact hn
  rw [← Set.ncard_image_of_injective p.slots fun _ _ h => UInt32.toNat_inj.mp h, himage,
    Set.ncard_eq_toFinset_card', Set.toFinset_Iio, Nat.card_Iio]

/-! ## The adjusted bounds -/

theorem lowerIP_le_iff {minIP a : UInt32} (h : minIP ≠ 0xffffffff) (ha : IsHost a.toNat) :
    lowerIP minIP ≤ a ↔ minIP ≤ a := by
  obtain ⟨ha₁, ha₂⟩ := ha
  have hlt := minIP.toNat_lt
  have hne : minIP.toNat ≠ 4294967295 := fun hc => h (UInt32.toNat_inj.mp hc)
  rw [UInt32.le_iff_toNat_le, UInt32.le_iff_toNat_le, lowerIP]
  simp only [low_eq]
  simp only [UInt32.reduceToNat]
  split_ifs
  · rw [UInt32.toNat_add]
    simp only [UInt32.reduceToNat]
    omega
  · rw [UInt32.toNat_add]
    simp only [UInt32.reduceToNat]
    omega
  · exact Iff.rfl

theorem le_upperIP_iff {maxIP a : UInt32} (h : maxIP ≠ 0) (ha : IsHost a.toNat) :
    a ≤ upperIP maxIP ↔ a ≤ maxIP := by
  obtain ⟨ha₁, ha₂⟩ := ha
  have hlt := maxIP.toNat_lt
  have hne : maxIP.toNat ≠ 0 := fun hc => h (UInt32.toNat_inj.mp hc)
  rw [UInt32.le_iff_toNat_le, UInt32.le_iff_toNat_le, upperIP]
  simp only [low_eq]
  simp only [UInt32.reduceToNat]
  split_ifs
  · rw [UInt32.toNat_sub]
    simp only [UInt32.reduceToNat]
    omega
  · rw [UInt32.toNat_sub]
    simp only [UInt32.reduceToNat]
    omega
  · exact Iff.rfl

theorem hostRange_bounds {minIP maxIP : UInt32} (h₁ : minIP ≠ 0xffffffff) (h₂ : maxIP ≠ 0) :
    hostRange (lowerIP minIP) (upperIP maxIP) = hostRange minIP maxIP := by
  ext a
  constructor
  · rintro ⟨hlo, hup, ha⟩
    exact ⟨(lowerIP_le_iff h₁ ha).mp hlo, (le_upperIP_iff h₂ ha).mp hup, ha⟩
  · rintro ⟨hlo, hup, ha⟩
    exact ⟨(lowerIP_le_iff h₁ ha).mpr hlo, (le_upperIP_iff h₂ ha).mpr hup, ha⟩

theorem lowerIP_host {x : UInt32} (h : IsHost x.toNat) : lowerIP x = x := by
  obtain ⟨h₁, h₂⟩ := h
  rw [lowerIP, if_neg, if_neg]
  · rw [low_eq]
    simp only [UInt32.reduceToNat]
    omega
  · rw [low_eq]
    simp only [UInt32.reduceToNat]
    omega

/-- The slots of a pool that is asked for from a host address on are numbered by the host
addresses of the range. -/
theorem index_bijection {startIP maxIP : UInt32} (dns1 dns2 : Nat) (hs : IsHost startIP.toNat)
    (hle : startIP ≤ maxIP) :
    ∃ p, ippoolCreate startIP maxIP dns1 dns2 = some p ∧ p.startIP = startIP ∧
      Set.BijOn (indexToIpaddr startIP) p.slots (hostRange startIP maxIP) ∧
      Set.BijOn (ipaddrToIndex startIP) (hostRange startIP maxIP) p.slots ∧
      Set.InvOn (ipaddrToIndex startIP) (indexToIpaddr startIP) p.slots
        (hostRange startIP maxIP) := by
  have h₁ : startIP ≠ 0xffffffff := by
    rintro rfl
    exact absurd hs.2 (by decide)
  have h₂ : maxIP ≠ 0 := by
    rintro rfl
    have hz : startIP = 0 := UInt32.le_antisymm hle (UInt32.le_iff_toNat_le.mpr (Nat.zero_le _))
    rw [hz] at hs
    exact absurd hs.1 (by decide)
  have hup : startIP ≤ upperIP maxIP := (le_upperIP_iff h₂ hs).mpr hle
  obtain ⟨p, hp⟩ : ∃ p, ippoolCreate startIP maxIP dns1 dns2 = some p := by
    rw [ippoolCreate_eq, lowerIP_host hs, if_neg (UInt32.not_lt.mpr hup)]
    exact ⟨_, rfl⟩
  obtain ⟨hlo, hr⟩ := ippoolCreate_range hp
  have hrange : hostRange p.startIP (upperIP maxIP) = hostRange startIP maxIP := by
    rw [hlo, hostRange_bounds h₁ h₂]
  rw [lowerIP_host hs] at hlo
  refine ⟨p, hp, hlo, ?_, ?_, ?_⟩
  · rw [← hrange, ← hlo]
    exact hr.bijOn
  · rw [← hrange, ← hlo]
    exact Set.BijOn.symm hr.invOn.symm hr.bijOn
  · rw [← hrange, ← hlo]
    exact hr.invOn

theorem index_bijection_octets :
    ∃ p, ippoolCreate 0x0a010163 0x0a010300 0 0 = some p ∧ p.startIP = 0x0a010163 ∧
      Set.BijOn (indexToIpaddr 0x0a010163) p.slots (hostRange 0x0a010163 0x0a010300) ∧
      Set.BijOn (ipaddrToIndex 0x0a010163) (hostRange 0x0a010163 0x0a010300) p.slots ∧
      Set.InvOn (ipaddrToIndex 0x0a010163) (indexToIpaddr 0x0a010163) p.slots
        (hostRange 0x0a010163 0x0a010300) :=
  index_bijection 0 0 ⟨by decide, by decide⟩ (by decide)

/-! ## Runs of a pool -/

/-- What happens to the records of a pool: IPCP asks for an address for the session at `a`, which
it does only while the session has none; a session that is freed gives its address back; a session
is cleared or takes over the address of the peer's session. -/
inductive IpaddrOp where
  | apply (a : Addr)
  | recover (a : Addr)
  | record (a : Addr) (ipaddr : IpaddrStruct)

structure IpaddrState where
  pool : Ippool
  mem : Addr → IpaddrStruct := fun _ => {}

/-- The address that `ipaddr_apply` returns, if it does, and the state after the operation. -/
def IpaddrOp.run : IpaddrOp → IpaddrState → Option UInt32 × IpaddrState
  | .apply a, s =>
    if (s.mem a).ip ≠ 0 then
      (none, s)
    else
      let r := ipaddrApply s.pool a (s.mem a)
      (if r.1 = PPPOEERR_SUCCESS then some r.2.2.ip else none,
        { pool := r.2.1, mem := Function.update s.mem a r.2.2 })
  | .recover a, s =>
    let r := ipaddrRecover s.pool a (s.mem a)
    (none, { pool := r.2.1, mem := Function.update s.mem a r.2.2 })
  | .record a ipaddr, s => (none, { s with mem := Function.update s.mem a ipaddr })

/-- The addresses that `ipaddr_apply` returns in a run. -/
def returned : IpaddrState → List IpaddrOp → List UInt32
  | _, [] => []
  | s, x :: xs => (x.run s).1.toList ++ returned (x.run s).2 xs

theorem ipaddrApply_pool (p : Ippool) (a : Addr) (ipaddr : IpaddrStruct) :
    (ipaddrApply p a ipaddr).2.1.startIP = p.startIP ∧
      (ipaddrApply p a ipaddr).2.1.totalNUM = p.totalNUM := by
  rw [ipaddrApply]
  dsimp only
  split_ifs <;> exact ⟨rfl, rfl⟩

theorem ipaddrRecover_pool (p : Ippool) (a : Addr) (ipaddr : IpaddrStruct) :
    (ipaddrRecover p a ipaddr).2.1.startIP = p.startIP ∧
      (ipaddrRecover p a ipaddr).2.1.totalNUM = p.totalNUM := by
  rw [ipaddrRecover]
  dsimp only
  split_ifs <;> exact ⟨rfl, rfl⟩

theorem IpaddrOp.run_pool (x : IpaddrOp) (s : IpaddrState) :
    (x.run s).2.pool.startIP = s.pool.startIP ∧ (x.run s).2.pool.totalNUM = s.pool.totalNUM := by
  cases x with
  | apply a =>
    rw [IpaddrOp.run]
    split
    · exact ⟨rfl, rfl⟩
    · exact ipaddrApply_pool s.pool a (s.mem a)
  | recover a => exact ipaddrRecover_pool s.pool a (s.mem a)
  | record a ipaddr => exact ⟨rfl, rfl⟩

theorem IpaddrOp.run_host {x : IpaddrOp} {s : IpaddrState} {m a : UInt32} (hr : s.pool.Range m)
    (h : a ∈ (x.run s).1) : a ∈ hostRange s.pool.startIP m := by
  cases x with
  | apply b =>
    rw [IpaddrOp.run] at h
    split at h
    · cases h
    rename_i h0
    have h0 : (s.mem b).ip = 0 := not_not.mp h0
    rw [ipaddrApply] at h
    simp only [h0, ne_eq, not_true_eq_false, if_false] at h
    split at h
    · simp [PPPOEERR_ENOMEM, PPPOEERR_SUCCESS] at h
    rename_i hlt
    have hi : ippoolGetFreeIndex s.pool ∈ s.pool.slots := UInt32.not_le.mp hlt
    simp only [if_true, Option.mem_some] at h
    exact h ▸ hr.host hi
  | recover b => cases h
  | record b ipaddr => cases h

theorem returned_host {m : UInt32} {xs : List IpaddrOp} {s : IpaddrState} (hr : s.pool.Range m) :
    ∀ a ∈ returned s xs, a ∈ hostRange s.pool.startIP m := by
  induction xs generalizing s with
  | nil =>
    intro a ha
    cases ha
  | cons x xs ih =>
    intro a ha
    rw [returned, List.mem_append, Option.mem_toList] at ha
    obtain ⟨hs, ht⟩ := x.run_pool s
    rcases ha with ha | ha
    · exact x.run_host hr ha
    · have := ih (hr.keep hs ht) a ha
      rwa [hs] at this

/-! ## The configured range -/

structure IppoolConfig where
  minIP : UInt32 := 0
  maxIP : UInt32 := 0
  dns1 : Nat := 0
  dns2 : Nat := 0

/-- `pppoe_manage_config_sessions_ipaddr`. -/
def pppoeManageConfigSessionsIpaddr (config : IppoolConfig) (minIP maxIP : UInt32) :
    Int × IppoolConfig :=
  if minIP > maxIP then (PPPOEERR_EINVAL, config)
  else (PPPOEERR_SUCCESS, { config with minIP := minIP, maxIP := maxIP })

/-- Whatever happens to the pool of `config`, it hands out host addresses of the configured range,
and it counts every one of them. -/
def RangeKept (config : IppoolConfig) : Prop :=
  ∀ p, ippoolCreate config.minIP config.maxIP config.dns1 config.dns2 = some p →
    (∀ mem xs, ∀ a ∈ returned ⟨p, mem⟩ xs, a ∈ hostRange config.minIP config.maxIP) ∧
      p.totalNUM.toNat = (hostRange config.minIP config.maxIP).ncard

theorem RangeKept.of {config : IppoolConfig} (h₁ : config.minIP ≠ 0xffffffff)
    (h₂ : config.maxIP ≠ 0) : RangeKept config := by
  intro p hp
  obtain ⟨hlo, hr⟩ := ippoolCreate_range hp
  have hrange : hostRange p.startIP (upperIP config.maxIP) =
      hostRange config.minIP config.maxIP := by
    rw [hlo, hostRange_bounds h₁ h₂]
  rw [← hrange]
  refine ⟨fun mem xs a ha => returned_host (s := ⟨p, mem⟩) hr a ha, ?_⟩
  rw [← hr.bijOn.ncard_eq, p.slots_ncard]

theorem ippoolGetFreeIndex_empty {p : Ippool} (h : 0 < p.totalNUM.toNat)
    (he : p.pool 0 = none) : ippoolGetFreeIndex p = 0 := by
  obtain ⟨n, hn⟩ := Nat.exists_eq_add_one.mpr h
  have hf : (List.range p.totalNUM.toNat).find? (fun i => p.pool i = none) = some 0 := by
    rw [hn, List.range_succ_eq_map]
    simp [he]
  rw [ippoolGetFreeIndex, hf]
  rfl

/-- The first session that asks for an address gets the first of the pool. -/
theorem returned_first {minIP maxIP : UInt32} {dns1 dns2 : Nat} {p : Ippool}
    (hp : ippoolCreate minIP maxIP dns1 dns2 = some p) (a : Addr) :
    returned ⟨p, fun _ => {}⟩ [.apply a] = [lowerIP minIP] := by
  obtain ⟨hlo, hr⟩ := ippoolCreate_range hp
  have hpos : 0 < p.totalNUM.toNat := by
    rw [hr.total]
    exact Nat.succ_pos _
  have hlt : ¬ p.totalNUM ≤ 0 := UInt32.not_le.mpr (UInt32.lt_iff_toNat_lt.mpr hpos)
  have hfree := ippoolGetFreeIndex_empty hpos (ippoolCreate_empty hp 0)
  have hbase : indexToIpaddr p.startIP 0 = p.startIP := by
    rw [← UInt32.toNat_inj, indexToIpaddr_toNat hr.start hr.last (UInt32.le_iff_toNat_le.mp hr.le)
      (upperIP maxIP).toNat_lt (Nat.zero_le _)]
    have := hr.start.2
    rw [hostAt, if_neg]
    · rfl
    · show ¬ 255 ≤ 0 % 254 + _
      omega
  rw [← hlo]
  simp only [returned, IpaddrOp.run, ipaddrApply, ne_eq, not_true_eq_false, if_false, hfree, ge_iff_le,
    hlt, hbase, if_true, Option.toList_some, List.append_nil]

theorem not_rangeKept {minIP maxIP : UInt32} {dns1 dns2 : Nat}
    (hp : lowerIP minIP ≤ upperIP maxIP) (hout : lowerIP minIP ∉ hostRange minIP maxIP) :
    ¬ RangeKept ⟨minIP, maxIP, dns1, dns2⟩ := by
  intro h
  obtain ⟨p, hp⟩ : ∃ p, ippoolCreate minIP maxIP dns1 dns2 = some p := by
    rw [ippoolCreate_eq, if_neg (UInt32.not_lt.mpr hp)]
    exact ⟨_, rfl⟩
  refine hout ((h p hp).1 (fun _ => {}) [.apply 0] _ ?_)
  rw [returned_first hp]
  exact List.mem_singleton_self _

/-- A configured range holds what is handed out, unless it is one of the two ends of the address
space: there an adjusted bound wraps and the pool is nearly the whole space. -/
theorem range_kept_iff {config config' : IppoolConfig} {minIP maxIP : UInt32}
    (h : pppoeManageConfigSessionsIpaddr config minIP maxIP = (PPPOEERR_SUCCESS, config')) :
    RangeKept config' ↔ minIP ≠ 0xffffffff ∧ maxIP ≠ 0 := by
  rw [pppoeManageConfigSessionsIpaddr] at h
  split at h
  · cases congrArg Prod.fst h
  rename_i hle
  have hle : minIP ≤ maxIP := UInt32.not_lt.mp hle
  cases h
  constructor
  · intro hk
    constructor
    · rintro rfl
      have hmax : maxIP = 0xffffffff :=
        UInt32.le_antisymm (UInt32.le_iff_toNat_le.mpr (Nat.le_of_lt_succ maxIP.toNat_lt)) hle
      subst hmax
      exact not_rangeKept (by decide) (fun ho => absurd ho.1 (by decide)) hk
    · rintro rfl
      have hmin : minIP = 0 := UInt32.le_antisymm hle (UInt32.le_iff_toNat_le.mpr (Nat.zero_le _))
      subst hmin
      exact not_rangeKept (by decide) (fun ho => absurd ho.2.1 (by decide)) hk
  · rintro ⟨h₁, h₂⟩
    exact .of h₁ h₂

theorem range_kept_private :
    RangeKept ⟨0x0a010100, 0x0a0103ff, 0, 0⟩ ↔ (0x0a010100 : UInt32) ≠ 0xffffffff ∧
      (0x0a0103ff : UInt32) ≠ 0 :=
  @range_kept_iff {} _ _ _ rfl

/-- The pool of the last address alone starts at 0.0.0.1. -/
theorem last_range_left :
    pppoeManageConfigSessionsIpaddr {} 0xffffffff 0xffffffff =
      (PPPOEERR_SUCCESS, ⟨0xffffffff, 0xffffffff, 0, 0⟩) ∧ ¬ RangeKept ⟨0xffffffff, 0xffffffff, 0, 0⟩ :=
  ⟨rfl, not_rangeKept (by decide) (fun ho => absurd ho.1 (by decide))⟩

end Pppoe
end DaemonGroup
