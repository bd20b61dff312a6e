import DaemonGroup.Lib.Bytes
import Mathlib.Tactic.Common
import Mathlib.Algebra.Order.Ring.Nat

/-!
# DaemonGroup.Lib.Hiding

Octets hidden block by block: every block is combined by exclusive or with a value that is computed from the
hidden block before it, the first one from a start value.

* `hide f k b iv l` — `b` blocks of `k` octets of `l` hidden, `f` computing from one hidden block what hides the
  next; `reveal` is its inverse (`reveal_hide`).
* `hideAt f k b iv m a` — the same in place, in a memory (`read_hideAt`).
* `padded k l` — zeros up to a whole number of blocks.
-/

namespace DaemonGroup
namespace Lib

open Bytes

/-- Octet by octet, as long as both last. -/
def xorOctets (l ks : List UInt8) : List UInt8 := List.zipWith (· ^^^ ·) l ks

/-- The octets at `a` combined with `ks`. -/
def xorAt (m : Nat → UInt8) (a : Nat) (ks : List UInt8) : Nat → UInt8 :=
  write m a (xorOctets (read m a ks.length) ks)

def padded (k : Nat) (l : List UInt8) : List UInt8 := l ++ List.replicate ((k - l.length % k) % k) 0

section
variable (f : List UInt8 → List UInt8) (k : Nat)

def hide : Nat → List UInt8 → List UInt8 → List UInt8
  | 0, _, _ => []
  | b + 1, iv, l => xorOctets (l.take k) (f iv) ++ hide b (xorOctets (l.take k) (f iv)) (l.drop k)

def reveal : Nat → List UInt8 → List UInt8 → List UInt8
  | 0, _, _ => []
  | b + 1, iv, l => xorOctets (l.take k) (f iv) ++ reveal b (l.take k) (l.drop k)

def hideAt : Nat → List UInt8 → (Nat → UInt8) → Nat → Nat → UInt8
  | 0, _, m, _ => m
  | b + 1, iv, m, a => hideAt b (read (xorAt m a (f iv)) a k) (xorAt m a (f iv)) (a + k)

end

section
variable {f : List UInt8 → List UInt8} {k b a n : Nat} {iv l ks : List UInt8} {m : Nat → UInt8}

theorem xorOctets_self (h : l.length ≤ ks.length) : xorOctets (xorOctets l ks) ks = l := by
  refine List.ext_getElem ?_ ?_
  · simp only [xorOctets, List.length_zipWith]
    omega
  · intro i h₁ h₂
    simp only [xorOctets, List.getElem_zipWith, UInt8.xor_assoc, UInt8.xor_self, UInt8.xor_zero]

theorem length_xorOctets (h : l.length = ks.length) : (xorOctets l ks).length = l.length := by
  simp [xorOctets, h]

theorem length_hide (hf : ∀ v, (f v).length = k) (hl : l.length = k * b) : (hide f k b iv l).length = k * b := by
  induction b generalizing iv l with
  | zero => rfl
  | succ b ih =>
    rw [Nat.mul_succ] at hl ⊢
    have htake : (l.take k).length = k := by
      rw [List.length_take]
      omega
    rw [hide, List.length_append, length_xorOctets (by rw [htake, hf]), htake,
      ih (by rw [List.length_drop]; omega)]
    omega

theorem reveal_hide (hf : ∀ v, (f v).length = k) (hl : l.length = k * b) :
    reveal f k b iv (hide f k b iv l) = l := by
  induction b generalizing iv l with
  | zero => exact (List.eq_nil_of_length_eq_zero hl).symm
  | succ b ih =>
    rw [Nat.mul_succ] at hl
    have htake : (l.take k).length = k := by
      rw [List.length_take]
      omega
    have hc : (xorOctets (l.take k) (f iv)).length = k := by
      rw [length_xorOctets (by rw [htake, hf]), htake]
    rw [hide, reveal, List.take_left' hc, List.drop_left' hc, xorOctets_self (by rw [htake, hf]),
      ih (by rw [List.length_drop]; omega), List.take_append_drop]

/-! ## In place -/

theorem read_xorAt (hks : ks.length = k) :
    read (xorAt m a ks) a k = xorOctets (read m a k) ks := by
  have hlen : (xorOctets (read m a ks.length) ks).length = k := by
    rw [length_xorOctets length_read, length_read, hks]
  have hself := read_write_self (m := m) (a := a) (l := xorOctets (read m a ks.length) ks)
  rw [hlen, hks] at hself
  rw [xorAt, hks]
  exact hself

theorem read_xorAt_behind (hks : ks.length = k) : read (xorAt m a ks) (a + k) n = read m (a + k) n := by
  refine read_write_of_disjoint (.inr ?_)
  rw [length_xorOctets length_read, length_read, hks]

theorem hideAt_of_lt {i : Nat} (hi : i < a) : hideAt f k b iv m a i = m i := by
  induction b generalizing iv m a with
  | zero => rfl
  | succ b ih =>
    rw [hideAt, ih (by omega)]
    exact write_of_lt hi

/-- Hiding in place hides what is there. -/
theorem read_hideAt (hf : ∀ v, (f v).length = k) :
    read (hideAt f k b iv m a) a (k * b) = hide f k b iv (read m a (k * b)) := by
  induction b generalizing iv m a with
  | zero => rfl
  | succ b ih =>
    have hfirst : read (hideAt f k (b + 1) iv m a) a k = xorOctets (read m a k) (f iv) := by
      rw [← read_xorAt (hf iv), hideAt]
      exact read_congr fun i _ hlt => hideAt_of_lt hlt
    have hmul : k * (b + 1) = k + k * b := by rw [Nat.mul_succ, Nat.add_comm]
    have hlen : (read m a k).length = k := length_read
    rw [hmul, read_add, hfirst, read_add, hide, List.take_left' hlen, List.drop_left' hlen, hideAt, ih,
      read_xorAt (hf iv), read_xorAt_behind (hf iv)]

/-! ## Padding -/

theorem length_padded : (padded k l).length = l.length + (k - l.length % k) % k := by
  rw [padded, List.length_append, List.length_replicate]

end

end Lib
end DaemonGroup
