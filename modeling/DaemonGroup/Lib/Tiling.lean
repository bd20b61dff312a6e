import Mathlib.Data.List.Perm.Subperm
import Mathlib.Algebra.BigOperators.Group.List.Basic
import Mathlib.Algebra.Order.Ring.Nat

/-!
# DaemonGroup.Lib.Tiling

Pieces of a line, each with a start and a length.

* `Tiles start len l n` — the pieces `l` cover every point below `n` once, and no other.
* `Adjacent start len a l b` — the pieces `l`, in this order, each begin where the one before ends.
* `Adjacent.tiles` — adjacent pieces tile; `Tiles.append_empty`, `Tiles.perm` — empty pieces and the
  order do not matter.
* `exists_rest` — pieces taken from a list that are as long as all of it leave empty ones only.
-/

namespace DaemonGroup
namespace Lib

section
variable {α : Type} (start len : α → Nat)

/-- The piece has the point `p`. -/
def covers (p : Nat) (x : α) : Bool := decide (start x ≤ p ∧ p < start x + len x)

/-- Every point below `n` is covered once, and no other. -/
def Tiles (l : List α) (n : Nat) : Prop :=
  ∀ p, l.countP (covers start len p) = if p < n then 1 else 0

/-- Each piece begins where the one before ends. -/
def Adjacent : Nat → List α → Nat → Prop
  | a, [], b => a = b
  | a, x :: l, b => start x = a ∧ Adjacent (a + len x) l b

variable {start len} {l r : List α} {a b n : Nat}

theorem Adjacent.le (h : Adjacent start len a l b) : a ≤ b := by
  induction l generalizing a with
  | nil => exact Nat.le_of_eq h
  | cons x l ih =>
    have := ih h.2
    omega

theorem Adjacent.countP (h : Adjacent start len a l b) (p : Nat) :
    l.countP (covers start len p) = if a ≤ p ∧ p < b then 1 else 0 := by
  induction l generalizing a with
  | nil =>
    have hab : a = b := h
    have : ¬(a ≤ p ∧ p < b) := by omega
    simp [this]
  | cons x l ih =>
    obtain ⟨hx, hl⟩ := h
    have hle := hl.le
    have hcov : covers start len p x = decide (a ≤ p ∧ p < a + len x) := by simp [covers, hx]
    rw [List.countP_cons, ih hl, hcov]
    by_cases h1 : a + len x ≤ p
    · have h2 : ¬(a ≤ p ∧ p < a + len x) := by omega
      have h3 : (a + len x ≤ p ∧ p < b) ↔ (a ≤ p ∧ p < b) := by omega
      simp [h2, h3]
    · have h2 : ¬(a + len x ≤ p ∧ p < b) := by omega
      have h3 : (a ≤ p ∧ p < a + len x) ↔ (a ≤ p ∧ p < b) := by omega
      simp [h2, h3]

theorem Adjacent.tiles (h : Adjacent start len 0 l n) : Tiles start len l n := by
  intro p
  simpa using h.countP p

theorem Adjacent.append {l' : List α} {c : Nat} (h : Adjacent start len a l b)
    (h' : Adjacent start len b l' c) : Adjacent start len a (l ++ l') c := by
  induction l generalizing a with
  | nil =>
    obtain rfl : a = b := h
    exact h'
  | cons x l ih => exact ⟨h.1, ih h.2⟩

theorem Tiles.perm (h : Tiles start len l n) (hp : l.Perm r) : Tiles start len r n := by
  intro p
  rw [← hp.countP_eq, h p]

theorem Tiles.append_empty (h : Tiles start len l n) (hr : ∀ x ∈ r, len x = 0) :
    Tiles start len (l ++ r) n := by
  intro p
  have hzero : r.countP (covers start len p) = 0 := by
    refine List.countP_eq_zero.mpr fun x hx => ?_
    have := hr x hx
    simp only [covers, decide_eq_true_eq]
    omega
  rw [List.countP_append, h p, hzero, Nat.add_zero]

theorem sum_le_of_subperm (h : r.Subperm l) : (r.map len).sum ≤ (l.map len).sum := by
  obtain ⟨s, hs, hsl⟩ := h
  obtain ⟨t, ht⟩ := hsl.exists_perm_append
  have hsum := (ht.map len).sum_eq
  have hsr := (hs.map len).sum_eq
  rw [List.map_append, List.sum_append] at hsum
  omega

/-- Pieces taken from `l` that are as long as all of `l` leave empty ones only. -/
theorem exists_rest (h : r.Subperm l) (hsum : (r.map len).sum = (l.map len).sum) :
    ∃ t, l.Perm (r ++ t) ∧ ∀ x ∈ t, len x = 0 := by
  obtain ⟨s, hs, hsl⟩ := h
  obtain ⟨t, ht⟩ := hsl.exists_perm_append
  refine ⟨t, ht.trans (hs.append_right t), fun x hx => ?_⟩
  have h1 := (ht.map len).sum_eq
  have h2 := (hs.map len).sum_eq
  rw [List.map_append, List.sum_append] at h1
  have h3 : (t.map len).sum = 0 := by omega
  exact List.sum_eq_zero_iff_forall_eq_nat.mp h3 _ (List.mem_map_of_mem hx)

end

end Lib
end DaemonGroup
