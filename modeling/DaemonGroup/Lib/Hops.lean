import Mathlib.Tactic.Common

/-!
# DaemonGroup.Lib.Hops

Elements in a row that tell their own length, as the attributes of a packet do.

* `hop len a i` — where the element number `i` begins, if the first one begins at `a`.
* `hop_congr` — it depends on the lengths of the elements before it only.
-/

namespace DaemonGroup
namespace Lib

section
variable {len : Nat → Nat} {a i j : Nat}

/-- The place of the element number `i`. -/
def hop (len : Nat → Nat) (a : Nat) : Nat → Nat
  | 0 => a
  | i + 1 => hop len (a + len a) i

theorem hop_succ : hop len a (i + 1) = hop len a i + len (hop len a i) := by
  induction i generalizing a with
  | zero => rfl
  | succ i ih =>
    rw [hop, ih]
    rfl

/-- Where an element is depends on the lengths of those before it. -/
theorem hop_congr {len' : Nat → Nat} (h : ∀ j < i, len' (hop len a j) = len (hop len a j)) :
    hop len' a i = hop len a i := by
  induction i with
  | zero => rfl
  | succ i ih =>
    rw [hop_succ, hop_succ, ih fun j hj => h j (Nat.lt_succ_of_lt hj), h i (Nat.lt_succ_self i)]

theorem hop_le_succ : hop len a i ≤ hop len a (i + 1) := by
  rw [hop_succ]
  exact Nat.le_add_right _ _

theorem hop_mono (hij : i ≤ j) : hop len a i ≤ hop len a j := by
  induction hij with
  | refl => exact Nat.le_refl _
  | step _ ih => exact Nat.le_trans ih hop_le_succ

theorem le_hop : a ≤ hop len a i := hop_mono (Nat.zero_le i)

/-- Elements that are not too short take their room. -/
theorem add_le_hop {k : Nat} (h : ∀ j < i, k ≤ len (hop len a j)) : a + k * i ≤ hop len a i := by
  induction i with
  | zero => exact Nat.le_refl _
  | succ i ih =>
    have hbefore := ih fun j hj => h j (Nat.lt_succ_of_lt hj)
    have hlast := h i (Nat.lt_succ_self i)
    rw [hop_succ, Nat.mul_succ]
    omega

end

end Lib
end DaemonGroup
