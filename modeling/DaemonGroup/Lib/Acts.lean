import Mathlib.Algebra.BigOperators.Group.List.Basic
import Mathlib.Algebra.Order.Ring.Int
import Mathlib.Data.List.Infix
import Mathlib.Tactic.Common

/-!
# DaemonGroup.Lib.Acts

Programs that leave a trace of what they did.

* `Acts ω α` — a result, and the acts on the way to it, in order; `act o` does `o`.
* `Balanced w l` — the acts `l` open and close, `w` says by how much: nothing is open at the end, and
  no more is closed than was open at any point. `Balanced.append`, `Balanced.wrap`, `balanced_quiet`.
* `Settled gets gives held l` — every thing that is held at the start or acquired on the way is given
  up, once. `Holding gets gives held l b` — after `l` only `b` is left to give up.
-/

namespace DaemonGroup
namespace Lib

/-- A result and the acts on the way to it. -/
structure Acts (ω α : Type) where
  val : α
  log : List ω

namespace Acts

section
variable {ω α β : Type}

instance : Monad (Acts ω) where
  pure a := ⟨a, []⟩
  bind r f := ⟨(f r.val).val, r.log ++ (f r.val).log⟩

def act (o : ω) : Acts ω Unit := ⟨(), [o]⟩

@[simp] theorem pure_log (a : α) : (pure a : Acts ω α).log = [] := rfl

@[simp] theorem bind_log (r : Acts ω α) (f : α → Acts ω β) :
    (r >>= f).log = r.log ++ (f r.val).log := rfl

@[simp] theorem act_log (o : ω) : (act o).log = [o] := rfl

@[simp] theorem pure_val (a : α) : (pure a : Acts ω α).val = a := rfl

@[simp] theorem bind_val (r : Acts ω α) (f : α → Acts ω β) : (r >>= f).val = (f r.val).val := rfl

end

section Brackets
variable {ω : Type} {w : ω → Int}

/-- What `l` leaves open. -/
def depth (w : ω → Int) (l : List ω) : Int := (l.map w).sum

/-- As much is closed as is opened, and never more than is open. -/
structure Balanced (w : ω → Int) (l : List ω) : Prop where
  closed : depth w l = 0
  above : ∀ p, p <+: l → 0 ≤ depth w p

instance (w : ω → Int) (l : List ω) : Decidable (Balanced w l) :=
  decidable_of_iff (depth w l = 0 ∧ ∀ p ∈ l.inits, 0 ≤ depth w p)
    ⟨fun h => ⟨h.1, fun p hp => h.2 p ((List.mem_inits p l).mpr hp)⟩,
      fun h => ⟨h.closed, fun p hp => h.above p ((List.mem_inits p l).mp hp)⟩⟩

variable {o c : ω} {l r : List ω}

@[simp] theorem depth_nil : depth w [] = 0 := rfl

@[simp] theorem depth_cons : depth w (o :: l) = w o + depth w l := by
  simp [depth]

@[simp] theorem depth_append : depth w (l ++ r) = depth w l + depth w r := by
  simp [depth]

theorem depth_quiet (h : ∀ x ∈ l, w x = 0) : depth w l = 0 := by
  induction l with
  | nil => rfl
  | cons x l ih =>
    rw [depth_cons, h x List.mem_cons_self, ih fun y hy => h y (List.mem_cons_of_mem x hy), zero_add]

/-- Acts that neither open nor close. -/
theorem balanced_quiet (h : ∀ x ∈ l, w x = 0) : Balanced w l where
  closed := depth_quiet h
  above p hp := by
    exact le_of_eq (depth_quiet fun x hx => h x (hp.subset hx)).symm

theorem Balanced.append (hl : Balanced w l) (hr : Balanced w r) : Balanced w (l ++ r) where
  closed := by rw [depth_append, hl.closed, hr.closed, add_zero]
  above p hp := by
    rcases List.prefix_or_prefix_of_prefix hp (List.prefix_append l r) with h | ⟨q, rfl⟩
    · exact hl.above p h
    · rw [depth_append, hl.closed, zero_add]
      exact hr.above q ((List.prefix_append_right_inj l).mp hp)

/-- Acts between one that opens and the one that closes it. -/
theorem Balanced.wrap (h : Balanced w l) (ho : w o = 1) (hc : w c = -1) :
    Balanced w (o :: (l ++ [c])) where
  closed := by
    rw [depth_cons, depth_append, depth_cons, depth_nil, h.closed, ho, hc]
    omega
  above p hp := by
    rcases List.prefix_cons_iff.mp hp with rfl | ⟨q, rfl, hq⟩
    · exact le_of_eq depth_nil.symm
    · rw [depth_cons, ho]
      rcases List.prefix_concat_iff.mp hq with rfl | hq
      · rw [depth_append, depth_cons, depth_nil, h.closed, hc]
        omega
      · have := h.above q hq
        omega

end Brackets

section Custody
variable {ω β : Type} [DecidableEq β] {gets gives : ω → Option β} {held : List β} {l r : List ω}

/-- How often `l` does to `b` what `f` says. -/
def times (f : ω → Option β) (b : β) (l : List ω) : Nat := l.countP fun o => f o = some b

/-- What is held at the start or acquired on the way is given up once, and nothing else is. -/
def Settled (gets gives : ω → Option β) (held : List β) (l : List ω) : Prop :=
  ∀ b, times gives b l = held.count b + times gets b l ∧ times gives b l ≤ 1

/-- After `l` the thing `b` is all that is still to be given up. -/
def Holding (gets gives : ω → Option β) (held : List β) (l : List ω) (b : β) : Prop :=
  ∀ x, times gives x l + (if b = x then 1 else 0) = held.count x + times gets x l ∧
    times gives x l + (if b = x then 1 else 0) ≤ 1

@[simp] theorem times_nil {f : ω → Option β} {b : β} : times f b [] = 0 := rfl

@[simp] theorem times_cons {f : ω → Option β} {b : β} {o : ω} :
    times f b (o :: l) = times f b l + if f o = some b then 1 else 0 := by
  simp [times, List.countP_cons]

@[simp] theorem times_append {f : ω → Option β} {b : β} :
    times f b (l ++ r) = times f b l + times f b r :=
  List.countP_append

/-- The last thing is given up, and nothing is acquired any more. -/
theorem Holding.settled {b : β} (h : Holding gets gives held l b)
    (hgets : ∀ x, times gets x r = 0) (hgives : ∀ x, times gives x r = if b = x then 1 else 0) :
    Settled gets gives held (l ++ r) := by
  intro x
  rw [times_append, times_append, hgets, hgives]
  exact h x

end Custody

end Acts
end Lib
end DaemonGroup
