import DaemonGroup.Lib.Bytes

/-!
# DaemonGroup.Lib.Reads

Programs that read a byte memory, with the addresses they have read.

* `Reads α` — a result, and the addresses that were read for it, in order; `load m a n` reads `n`
  bytes from address `a` on.
* `Within n r` — every address that `r` has read is below `n`. Its lemmas are equivalences, so that
  the bound of a program is read off its text.
* `and r s` — both, the second only if the first is true; `upTo f k s` — the steps `f 0` .. `f (k - 1)`
  in turn.

Nothing here knows what the memory holds.
-/

namespace DaemonGroup
namespace Lib

/-- A result and the addresses read for it. -/
structure Reads (α : Type) where
  val : α
  log : List Nat

namespace Reads

instance : Monad Reads where
  pure a := ⟨a, []⟩
  bind r f := ⟨(f r.val).val, r.log ++ (f r.val).log⟩

def load (m : Nat → UInt8) (a n : Nat) : Reads (List UInt8) :=
  ⟨Bytes.read m a n, List.range' a n⟩

/-- The byte at `a`. -/
def peek (m : Nat → UInt8) (a : Nat) : Reads UInt8 := ⟨m a, [a]⟩

/-- `&&`: what the second reads is read only if the first is true. -/
def and (r s : Reads Bool) : Reads Bool := do
  if ← r then s else pure false

/-- The steps `f 0` .. `f (k - 1)`, one after the other. -/
def upTo {σ : Type} (f : Nat → σ → Reads σ) : Nat → σ → Reads σ
  | 0, s => pure s
  | k + 1, s => do
    let s ← upTo f k s
    f k s

/-- Every address that was read is below `n`. -/
def Within {α : Type} (n : Nat) (r : Reads α) : Prop := ∀ i ∈ r.log, i < n

instance {α : Type} (n : Nat) (r : Reads α) : Decidable (Within n r) :=
  inferInstanceAs (Decidable (∀ i ∈ r.log, i < n))

section
variable {α β σ : Type} {m : Nat → UInt8} {n a k : Nat}

@[simp] theorem pure_val (x : α) : (pure x : Reads α).val = x := rfl

@[simp] theorem bind_val (r : Reads α) (f : α → Reads β) : (r >>= f).val = (f r.val).val := rfl

/-- What follows is what it is for the result. -/
theorem bind_at (r : Reads α) (f : α → Reads β) : (r >>= f) = (r >>= fun _ => f r.val) := rfl

@[simp] theorem map_val (f : α → β) (r : Reads α) : (f <$> r).val = f r.val := rfl

@[simp] theorem load_val : (load m a k).val = Bytes.read m a k := rfl

@[simp] theorem peek_val : (peek m a).val = m a := rfl

@[simp] theorem ite_val {p : Prop} [Decidable p] (r s : Reads α) :
    (if p then r else s).val = if p then r.val else s.val := by
  split <;> rfl

@[simp] theorem and_val (r s : Reads Bool) : (and r s).val = (r.val && s.val) := by
  cases h : r.val <;> simp [and, h]

@[simp] theorem within_pure (x : α) : Within n (pure x) ↔ True := by
  simp [Within, pure]

@[simp] theorem within_bind (r : Reads α) (f : α → Reads β) :
    Within n (r >>= f) ↔ Within n r ∧ Within n (f r.val) := by
  simp only [Within, bind, List.mem_append, or_imp, forall_and]

@[simp] theorem within_map (f : α → β) (r : Reads α) : Within n (f <$> r) ↔ Within n r := by
  show Within n (r >>= fun x => pure (f x)) ↔ _
  rw [within_bind]
  simp

@[simp] theorem within_ite {p : Prop} [Decidable p] (r s : Reads α) :
    Within n (if p then r else s) ↔ (p → Within n r) ∧ (¬ p → Within n s) := by
  split <;> simp_all

@[simp] theorem within_and (r s : Reads Bool) :
    Within n (and r s) ↔ Within n r ∧ (r.val = true → Within n s) := by
  simp [and]

@[simp] theorem within_peek : Within n (peek m a) ↔ a < n := by
  simp [Within, peek]

theorem within_load : Within n (load m a k) ↔ k = 0 ∨ a + k ≤ n := by
  simp only [Within, load, List.mem_range'_1]
  constructor
  · intro h
    by_cases hk : k = 0
    · exact .inl hk
    · have := h (a + k - 1) (by omega)
      omega
  · rintro (rfl | hk) i hi <;> omega

@[simp] theorem within_load_succ : Within n (load m a (k + 1)) ↔ a + k < n := by
  rw [within_load]
  omega

/-- The reads of a loop are those of its steps, when what a step reads is known from an invariant of
the states. -/
theorem within_upTo {f : Nat → σ → Reads σ} {I : σ → Prop} {P : Nat → Prop} {s : σ}
    (hI : ∀ i s, I s → I (f i s).val) (h : ∀ i s, I s → (Within n (f i s) ↔ P i)) (hs : I s) :
    Within n (upTo f k s) ↔ ∀ i < k, P i := by
  have hinv : ∀ k, I (upTo f k s).val := by
    intro k
    induction k with
    | zero => exact hs
    | succ k ih => exact hI k _ ih
  induction k with
  | zero => simp [upTo]
  | succ k ih =>
    rw [upTo, within_bind, h k _ (hinv k)]
    constructor
    · rintro ⟨hlt, hk⟩ i hi
      rcases Nat.lt_succ_iff_lt_or_eq.mp hi with hi | rfl
      · exact ih.mp hlt i hi
      · exact hk
    · exact fun hall => ⟨ih.mpr fun i hi => hall i (by omega), hall k (by omega)⟩

end

end Reads
end Lib
end DaemonGroup
