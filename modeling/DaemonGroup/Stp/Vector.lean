import DaemonGroup.Stp.Bpdu
import DaemonGroup.Lib.Threeway
import Mathlib.Algebra.Order.Ring.Nat
import Mathlib.Order.CompletePartialOrder
import Mathlib.Order.CompleteBooleanAlgebra

/-!
# DaemonGroup.Stp.Vector

Priority vectors (`stp_vector.c`) and times (`stp_times.c`) and how they are compared.

A vector is better than another one if its components, read from the root bridge to the bridge port,
are the smaller ones (`PrioVector.rank`). `stp_vector_compare` takes the difference of two unsigned
costs for a signed number: `compare_iff` says for which vectors its result is right.
-/

namespace DaemonGroup
namespace Stp

open Lib

/-! ## Comparisons -/

/-- `memcmp` of as many octets as there are. -/
def memcmp : Octets → Octets → Int
  | a :: l, b :: l' => if a < b then -1 else if b < a then 1 else memcmp l l'
  | _, _ => 0

/-- `stp_vector_compare_bridge_id` -/
def stpVectorCompareBridgeId (b1 b2 : BridgeId) : Int :=
  if b1.prio < b2.prio then -1 else if b2.prio < b1.prio then 1 else memcmp b1.addr b2.addr

/-- The difference of two costs as an `int`. -/
def costDiff (a b : UInt32) : Int := (a - b).toBitVec.toInt

/-- The difference of two port identifiers, which are promoted to `int` first. -/
def portDiff (a b : UInt16) : Int := (a.toNat : Int) - b.toNat

/-- `stp_vector_compare` -/
def stpVectorCompare (v1 v2 : PrioVector) : Int :=
  level (stpVectorCompareBridgeId v1.root_bridge v2.root_bridge) 1 <|
  level (costDiff v1.root_path_cost v2.root_path_cost) 2 <|
  level (stpVectorCompareBridgeId v1.region_root_bridge v2.region_root_bridge) 3 <|
  level (costDiff v1.region_root_path_cost v2.region_root_path_cost) 4 <|
  level (stpVectorCompareBridgeId v1.design_bridge v2.design_bridge) 5 <|
  level (portDiff v1.design_port v2.design_port) 6 <|
  level (portDiff v1.bridge_port v2.bridge_port) 7 0

/-- `stp_vector_create` -/
def stpVectorCreate (root_br : BridgeId) (root_path_cost : UInt32) (region_root_br : BridgeId)
    (region_root_path_cost : UInt32) (design_bridge : BridgeId) (design_port bridge_port : UInt16) :
    PrioVector :=
  { root_bridge := root_br
    root_path_cost := root_path_cost
    region_root_bridge := region_root_br
    region_root_path_cost := region_root_path_cost
    design_bridge := design_bridge
    design_port := design_port
    bridge_port := bridge_port }

/-- `stp_times_compare` -/
def stpTimesCompare (t1 t2 : TimeValues) : Int :=
  level (portDiff t1.MessageAge t2.MessageAge) 1 <|
  level (portDiff t1.MaxAge t2.MaxAge) 2 <|
  level (portDiff t1.ForwardDelay t2.ForwardDelay) 3 <|
  level (portDiff t1.HelloTime t2.HelloTime) 4 <|
  level ((t1.RemainingHops.toNat : Int) - t2.RemainingHops.toNat) 5 0

/-! ## The order of the vectors -/

/-- Octets as the number that they are in network byte order. -/
def number : Octets → Nat
  | [] => 0
  | b :: l => b.toNat * 256 ^ l.length + number l

/-- A bridge identifier as a number of 64 bits. -/
def BridgeId.rank (b : BridgeId) : Nat := b.prio.toNat * 256 ^ 6 + number b.addr

/-- The components of a vector, from the most to the least significant one. -/
def PrioVector.rank (v : PrioVector) : ℕ ×ₗ ℕ ×ₗ ℕ ×ₗ ℕ ×ₗ ℕ ×ₗ ℕ ×ₗ ℕ ×ₗ Unit :=
  toLex (v.root_bridge.rank, toLex (v.root_path_cost.toNat, toLex (v.region_root_bridge.rank,
    toLex (v.region_root_path_cost.toNat, toLex (v.design_bridge.rank, toLex (v.design_port.toNat,
    toLex (v.bridge_port.toNat, ())))))))

theorem number_lt {l : Octets} : number l < 256 ^ l.length := by
  induction l with
  | nil => simp [number]
  | cons b l ih =>
    have hb : b.toNat < 256 := b.toNat_lt
    calc number (b :: l) < b.toNat * 256 ^ l.length + 256 ^ l.length := by
          simpa [number] using ih
      _ = (b.toNat + 1) * 256 ^ l.length := (Nat.succ_mul _ _).symm
      _ ≤ 256 * 256 ^ l.length := Nat.mul_le_mul_right _ hb
      _ = 256 ^ (b :: l).length := by rw [List.length_cons, Nat.pow_succ']

theorem number_lt_of_head {a b : UInt8} {l l' : Octets} (hl : l.length = l'.length) (h : a < b) :
    number (a :: l) < number (b :: l') := by
  have hab : a.toNat + 1 ≤ b.toNat := h
  calc number (a :: l) < a.toNat * 256 ^ l.length + 256 ^ l.length := by
        simpa [number] using number_lt
    _ = (a.toNat + 1) * 256 ^ l'.length := by rw [hl, Nat.succ_mul]
    _ ≤ b.toNat * 256 ^ l'.length := Nat.mul_le_mul_right _ hab
    _ ≤ number (b :: l') := by simp [number]

theorem number_injective {l l' : Octets} (hl : l.length = l'.length) (h : number l = number l') :
    l = l' := by
  induction l generalizing l' with
  | nil => exact (List.length_eq_zero_iff.mp hl.symm).symm
  | cons a l ih =>
    cases l' with
    | nil => simp at hl
    | cons b l' =>
      have hll : l.length = l'.length := by simpa using hl
      have hab : ¬ a < b := fun hlt => (number_lt_of_head hll hlt).ne h
      have hba : ¬ b < a := fun hlt => (number_lt_of_head hll.symm hlt).ne h.symm
      obtain rfl : a = b := UInt8.le_antisymm (UInt8.not_lt.mp hba) (UInt8.not_lt.mp hab)
      have hrest : number l = number l' := by
        rw [number, number, hll] at h
        omega
      rw [ih hll hrest]

theorem compares_memcmp {l l' : Octets} (hl : l.length = l'.length) :
    Compares (memcmp l l') (number l) (number l') := by
  induction l generalizing l' with
  | nil =>
    obtain rfl : l' = [] := List.length_eq_zero_iff.mp hl.symm
    simp [memcmp, number, Compares.mk]
  | cons a l ih =>
    cases l' with
    | nil => simp at hl
    | cons b l' =>
      have hll : l.length = l'.length := by simpa using hl
      unfold memcmp
      split
      · next hab =>
        have h := number_lt_of_head hll hab
        exact ⟨by omega, by omega⟩
      · split
        · next hba =>
          have h := number_lt_of_head hll.symm hba
          exact ⟨by omega, by omega⟩
        · next hab hba =>
          have he : a = b := UInt8.le_antisymm (UInt8.not_lt.mp hba) (UInt8.not_lt.mp hab)
          obtain ⟨hneg, hpos⟩ := ih hll
          subst he
          rw [number, number, hll]
          exact ⟨by omega, by omega⟩

theorem compares_bridgeId {b1 b2 : BridgeId} :
    Compares (stpVectorCompareBridgeId b1 b2) b1.rank b2.rank := by
  have h1 : number b1.addr < 256 ^ 6 := by simpa [b1.addr.2] using @number_lt b1.addr
  have h2 : number b2.addr < 256 ^ 6 := by simpa [b2.addr.2] using @number_lt b2.addr
  have hm : Compares (memcmp b1.addr b2.addr) (number b1.addr) (number b2.addr) :=
    compares_memcmp (b1.addr.2.trans b2.addr.2.symm)
  unfold stpVectorCompareBridgeId BridgeId.rank
  split
  · next hlt =>
    have hlt' : b1.prio.toNat < b2.prio.toNat := hlt
    exact ⟨by omega, by omega⟩
  · split
    · next hgt =>
      have hgt' : b2.prio.toNat < b1.prio.toNat := hgt
      exact ⟨by omega, by omega⟩
    · next hlt hgt =>
      have hlt' : ¬ b1.prio.toNat < b2.prio.toNat := hlt
      have hgt' : ¬ b2.prio.toNat < b1.prio.toNat := hgt
      have hneg := hm.neg
      have hpos := hm.pos
      exact ⟨by omega, by omega⟩

theorem BridgeId.rank_injective {b1 b2 : BridgeId} (h : b1.rank = b2.rank) : b1 = b2 := by
  have h1 : number b1.addr < 256 ^ 6 := by simpa [b1.addr.2] using @number_lt b1.addr
  have h2 : number b2.addr < 256 ^ 6 := by simpa [b2.addr.2] using @number_lt b2.addr
  unfold BridgeId.rank at h
  have hprio : b1.prio = b2.prio := UInt16.toNat_inj.mp (by omega)
  have haddr : (b1.addr : Octets) = b2.addr :=
    number_injective (b1.addr.2.trans b2.addr.2.symm) (by omega)
  cases b1
  cases b2
  simp_all [Subtype.ext_iff]

theorem compareBridgeId_zero {b1 b2 : BridgeId} :
    stpVectorCompareBridgeId b1 b2 = 0 ↔ b1 = b2 := by
  rw [compares_bridgeId.zero]
  exact ⟨BridgeId.rank_injective, fun h => h ▸ rfl⟩

theorem costDiff_zero {a b : UInt32} : costDiff a b = 0 ↔ a.toNat = b.toNat := by
  have ha := a.toNat_lt
  have hb := b.toNat_lt
  have hs : (a - b).toNat = (2 ^ 32 - b.toNat + a.toNat) % 2 ^ 32 := UInt32.toNat_sub a b
  rw [costDiff, BitVec.toInt_eq_toNat_cond, UInt32.toNat_toBitVec, hs]
  split <;> omega

/-- Two costs are compared rightly if they are not half of the range apart. -/
theorem compares_costDiff {a b : UInt32} : Compares (costDiff a b) a.toNat b.toNat ↔
    a.toNat < b.toNat + 2 ^ 31 ∧ b.toNat ≤ a.toNat + 2 ^ 31 := by
  have ha := a.toNat_lt
  have hb := b.toNat_lt
  have hs : (a - b).toNat = (2 ^ 32 - b.toNat + a.toNat) % 2 ^ 32 := UInt32.toNat_sub a b
  rw [costDiff, BitVec.toInt_eq_toNat_cond, UInt32.toNat_toBitVec, hs]
  constructor
  · intro h
    have hneg := h.neg
    have hpos := h.pos
    split at hneg <;> omega
  · intro h
    constructor <;> split <;> omega

theorem compares_portDiff {a b : UInt16} : Compares (portDiff a b) a.toNat b.toNat := compares_sub

theorem PrioVector.rank_injective {v w : PrioVector} (h : v.rank = w.rank) : v = w := by
  simp only [PrioVector.rank, toLex_inj, Prod.mk.injEq, and_true] at h
  obtain ⟨h1, h2, h3, h4, h5, h6, h7⟩ := h
  cases v
  cases w
  simp only [PrioVector.mk.injEq]
  exact ⟨BridgeId.rank_injective h1, UInt32.toNat_inj.mp h2, BridgeId.rank_injective h3,
    UInt32.toNat_inj.mp h4, BridgeId.rank_injective h5, UInt16.toNat_inj.mp h6,
    UInt16.toNat_inj.mp h7⟩

/-- Which vectors are equal the comparison always tells. -/
theorem compare_zero {v w : PrioVector} : stpVectorCompare v w = 0 ↔ v = w := by
  have hbr : ∀ {b1 b2 : BridgeId}, stpVectorCompareBridgeId b1 b2 = 0 ↔ b1.rank = b2.rank :=
    compares_bridgeId.zero
  constructor
  · intro h
    simp only [stpVectorCompare, level_eq_zero (show (0 : Int) < 1 by decide),
      level_eq_zero (show (0 : Int) < 2 by decide), level_eq_zero (show (0 : Int) < 3 by decide),
      level_eq_zero (show (0 : Int) < 4 by decide), level_eq_zero (show (0 : Int) < 5 by decide),
      level_eq_zero (show (0 : Int) < 6 by decide), level_eq_zero (show (0 : Int) < 7 by decide),
      hbr, costDiff_zero, compares_portDiff.zero, and_true] at h
    apply PrioVector.rank_injective
    simp only [PrioVector.rank, toLex_inj, Prod.mk.injEq, and_true]
    exact h
  · rintro rfl
    have hid : ∀ b, stpVectorCompareBridgeId b b = 0 := fun b => hbr.mpr rfl
    have hcost : ∀ a, costDiff a a = 0 := fun a => costDiff_zero.mpr rfl
    have hport : ∀ a, portDiff a a = 0 := fun a => compares_portDiff.zero.mpr rfl
    simp [stpVectorCompare, level, hid, hcost, hport]

theorem timesCompare_zero {t u : TimeValues} : stpTimesCompare t u = 0 ↔ t = u := by
  have hport : ∀ {a b : UInt16}, portDiff a b = 0 ↔ a = b := by
    intro a b
    rw [compares_portDiff.zero, UInt16.toNat_inj]
  have hhops : ∀ {a b : UInt8}, (a.toNat : Int) - b.toNat = 0 ↔ a = b := by
    intro a b
    rw [compares_sub.zero, UInt8.toNat_inj]
  simp only [stpTimesCompare, level_eq_zero (show (0 : Int) < 1 by decide),
    level_eq_zero (show (0 : Int) < 2 by decide), level_eq_zero (show (0 : Int) < 3 by decide),
    level_eq_zero (show (0 : Int) < 4 by decide), level_eq_zero (show (0 : Int) < 5 by decide),
    hport, hhops, and_true]
  cases t
  cases u
  simp

/-- The costs at the first level where two vectors differ, if that is one of costs, are in range of
each other. -/
def PrioVector.Within (v w : PrioVector) : Prop :=
  v.root_bridge.rank = w.root_bridge.rank →
    (v.root_path_cost.toNat < w.root_path_cost.toNat + 2 ^ 31 ∧
      w.root_path_cost.toNat ≤ v.root_path_cost.toNat + 2 ^ 31) ∧
    (v.root_path_cost.toNat = w.root_path_cost.toNat →
      v.region_root_bridge.rank = w.region_root_bridge.rank →
      v.region_root_path_cost.toNat < w.region_root_path_cost.toNat + 2 ^ 31 ∧
        w.region_root_path_cost.toNat ≤ v.region_root_path_cost.toNat + 2 ^ 31)

theorem compares_iff_within {v w : PrioVector} :
    Compares (stpVectorCompare v w) v.rank w.rank ↔ v.Within w := by
  have hlow : Compares (level (stpVectorCompareBridgeId v.design_bridge w.design_bridge) 5 <|
      level (portDiff v.design_port w.design_port) 6 <|
      level (portDiff v.bridge_port w.bridge_port) 7 0)
      (toLex (v.design_bridge.rank, toLex (v.design_port.toNat, toLex (v.bridge_port.toNat, ()))))
      (toLex (w.design_bridge.rank, toLex (w.design_port.toNat,
        toLex (w.bridge_port.toNat, ())))) := by
    rw [compares_level (by decide) compares_bridgeId.zero]
    refine ⟨compares_bridgeId, fun _ => ?_⟩
    rw [compares_level (by decide) compares_portDiff.zero]
    refine ⟨compares_portDiff, fun _ => ?_⟩
    rw [compares_level (by decide) compares_portDiff.zero]
    exact ⟨compares_portDiff, fun _ => ⟨by simp, by simp⟩⟩
  unfold stpVectorCompare PrioVector.rank PrioVector.Within
  rw [compares_level (by decide) compares_bridgeId.zero, compares_level (by decide) costDiff_zero,
    compares_level (by decide) compares_bridgeId.zero, compares_level (by decide) costDiff_zero,
    compares_costDiff, compares_costDiff]
  simp only [compares_bridgeId, hlow, true_and, implies_true, and_true]

end Stp
end DaemonGroup
