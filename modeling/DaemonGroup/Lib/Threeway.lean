import Mathlib.Data.Prod.Lex
import Mathlib.Order.Defs.LinearOrder

/-!
# DaemonGroup.Lib.Threeway

Comparisons that return a number whose sign is the result.

* `Compares c a b` — the sign of `c` tells the order of `a` and `b`.
* `level` — one component of a lexicographic comparison, before the components behind it.
* `compares_level` — the lexicographic comparison is right where its components are.
* `best` — the loop that keeps the least element that it has seen.
-/

namespace DaemonGroup
namespace Lib

/-- The sign of `c` tells the order of `a` and `b`. -/
structure Compares {α : Type*} [LT α] (c : Int) (a b : α) : Prop where
  neg : c < 0 ↔ a < b
  pos : 0 < c ↔ b < a

/-- The component number `k` compares as `c`; if it leaves the order open, the others compare as
`r`. -/
def level (c k r : Int) : Int := if c < 0 then -k else if 0 < c then k else r

section
variable {α β : Type*} [LinearOrder α] [LinearOrder β] {a b : α} {x y : β} {c k r : Int}

theorem Compares.zero (h : Compares c a b) : c = 0 ↔ a = b := by
  constructor
  · intro hc
    have hneg : ¬ a < b := fun hab => by
      have := h.neg.mpr hab
      omega
    have hpos : ¬ b < a := fun hba => by
      have := h.pos.mpr hba
      omega
    exact le_antisymm (not_lt.mp hpos) (not_lt.mp hneg)
  · rintro rfl
    have hneg : ¬ c < 0 := fun hc => lt_irrefl a (h.neg.mp hc)
    have hpos : ¬ 0 < c := fun hc => lt_irrefl a (h.pos.mp hc)
    omega

theorem Compares.nonneg (h : Compares c a b) : 0 ≤ c ↔ b ≤ a := by
  rw [← not_lt, h.neg, not_lt]

theorem level_neg (hk : 0 < k) : level c k r < 0 ↔ c < 0 ∨ c = 0 ∧ r < 0 := by
  unfold level
  split
  · omega
  · split <;> omega

theorem level_pos (hk : 0 < k) : 0 < level c k r ↔ 0 < c ∨ c = 0 ∧ 0 < r := by
  unfold level
  split
  · omega
  · split <;> omega

theorem level_eq_zero (hk : 0 < k) : level c k r = 0 ↔ c = 0 ∧ r = 0 := by
  unfold level
  split
  · omega
  · split <;> omega

/-- A component that tells which values are equal decides as the lexicographic order does, if it and
the components behind it do. -/
theorem compares_level (hk : 0 < k) (hc : c = 0 ↔ a = b) :
    Compares (level c k r) (toLex (a, x)) (toLex (b, y)) ↔
      Compares c a b ∧ (a = b → Compares r x y) := by
  by_cases hab : a = b
  · have h0 : c = 0 := hc.mpr hab
    subst hab
    constructor
    · intro h
      have hneg := h.neg
      have hpos := h.pos
      simp only [level_neg hk, level_pos hk, Prod.Lex.toLex_lt_toLex, h0, lt_irrefl, false_or,
        true_and] at hneg hpos
      exact ⟨⟨by simp [h0], by simp [h0]⟩, fun _ => ⟨hneg, hpos⟩⟩
    · rintro ⟨-, hr⟩
      obtain ⟨hneg, hpos⟩ := hr rfl
      constructor
      · simp [level_neg hk, Prod.Lex.toLex_lt_toLex, h0, hneg]
      · simp [level_pos hk, Prod.Lex.toLex_lt_toLex, h0, hpos]
  · have h0 : c ≠ 0 := fun h => hab (hc.mp h)
    have hba : b ≠ a := fun h => hab h.symm
    constructor
    · intro h
      have hneg := h.neg
      have hpos := h.pos
      simp only [level_neg hk, level_pos hk, Prod.Lex.toLex_lt_toLex, h0, hab, hba, false_and,
        or_false] at hneg hpos
      exact ⟨⟨hneg, hpos⟩, fun he => absurd he hab⟩
    · rintro ⟨h, -⟩
      constructor
      · simp [level_neg hk, Prod.Lex.toLex_lt_toLex, h0, hab, h.neg]
      · simp [level_pos hk, Prod.Lex.toLex_lt_toLex, h0, hba, h.pos]

theorem compares_sub {m n : Nat} : Compares ((m : Int) - n) m n := ⟨by omega, by omega⟩

end

/-! ## The least element of a list -/

section
variable {α β : Type*} [LinearOrder β] {cmp : α → α → Int} {key : α → β} {a x : α} {l : List α}

/-- The least of `a` and the elements of `l`, as `cmp` orders them. -/
def best (cmp : α → α → Int) (a : α) (l : List α) : α :=
  l.foldl (fun r x => if cmp x r < 0 then x else r) a

@[simp] theorem best_nil : best cmp a [] = a := rfl

@[simp] theorem best_cons :
    best cmp a (x :: l) = best cmp (if cmp x a < 0 then x else a) l := rfl

/-- Where the comparison is right, the loop ends with one of the elements, and with a least one. -/
theorem best_least (h : ∀ x ∈ a :: l, ∀ y ∈ a :: l, Compares (cmp x y) (key x) (key y)) :
    best cmp a l ∈ a :: l ∧ ∀ x ∈ a :: l, key (best cmp a l) ≤ key x := by
  induction l generalizing a with
  | nil => simp
  | cons x l ih =>
    have hx := h x (by simp) a (by simp)
    rw [best_cons]
    split
    · next hlt =>
      have hxa : key x < key a := hx.neg.mp hlt
      obtain ⟨hmem, hle⟩ := @ih x fun y hy z hz => h y (by simp_all) z (by simp_all)
      refine ⟨List.mem_cons_of_mem a hmem, ?_⟩
      intro y hy
      rcases List.mem_cons.mp hy with rfl | hy
      · exact le_trans (hle x (by simp)) (le_of_lt hxa)
      · exact hle y hy
    · next hge =>
      have hax : key a ≤ key x := hx.nonneg.mp (Int.not_lt.mp hge)
      obtain ⟨hmem, hle⟩ := @ih a fun y hy z hz => h y (by
        rcases List.mem_cons.mp hy with rfl | hy <;> simp_all) z (by
        rcases List.mem_cons.mp hz with rfl | hz <;> simp_all)
      constructor
      · rcases List.mem_cons.mp hmem with hm | hm
        · rw [hm]
          exact List.mem_cons_self
        · exact List.mem_cons_of_mem a (List.mem_cons_of_mem x hm)
      · intro y hy
        rcases List.mem_cons.mp hy with rfl | hy
        · exact hle y (by simp)
        · rcases List.mem_cons.mp hy with rfl | hy
          · exact le_trans (hle a (by simp)) hax
          · exact hle y (List.mem_cons_of_mem a hy)

end

end Lib
end DaemonGroup
