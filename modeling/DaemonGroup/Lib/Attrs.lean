import DaemonGroup.Lib.Bytes
import Mathlib.Algebra.Order.Ring.Nat
import Mathlib.Tactic.Common

/-!
# DaemonGroup.Lib.Attrs

Attributes written out in a row: a type octet, a length octet that counts the two of the head, and
the value.

* `Spelled m a xs` — the memory has the attributes `xs` from `a` on.
* `starts a xs` — where each of them begins, `size xs` — how many octets they take.
* `spelled_append`, `Spelled.congr`, `Spelled.add` — attributes behind attributes, octets elsewhere
  changed, one more written.
-/

namespace DaemonGroup
namespace Lib

open Bytes

/-- A type and a value. -/
abbrev Attr := UInt8 × List UInt8

/-- How many octets an attribute takes. -/
def Attr.size (x : Attr) : Nat := x.2.length + 2

def Attr.octets (x : Attr) : List UInt8 := x.1 :: UInt8.ofNat x.size :: x.2

def attrsSize (xs : List Attr) : Nat := (xs.map Attr.size).sum

/-- The attribute `x` is at `a`. -/
structure Attr.At (m : Nat → UInt8) (a : Nat) (x : Attr) : Prop where
  type : m a = x.1
  len : (m (a + 1)).toNat = x.size
  value : read m (a + 2) x.2.length = x.2

def Spelled (m : Nat → UInt8) : Nat → List Attr → Prop
  | _, [] => True
  | a, x :: xs => x.At m a ∧ Spelled m (a + x.size) xs

def starts : Nat → List Attr → List Nat
  | _, [] => []
  | a, x :: xs => a :: starts (a + x.size) xs

section
variable {m m' : Nat → UInt8} {a : Nat} {x : Attr} {xs ys : List Attr}

@[simp] theorem length_octets : x.octets.length = x.size := rfl

theorem attrsSize_cons : attrsSize (x :: xs) = x.size + attrsSize xs := by
  simp [attrsSize]

theorem attrsSize_append : attrsSize (xs ++ ys) = attrsSize xs + attrsSize ys := by
  simp [attrsSize]

theorem Attr.At.congr (h : x.At m a) (hm : ∀ i, a ≤ i → i < a + x.size → m' i = m i) :
    x.At m' a := by
  have hsize : x.size = x.2.length + 2 := rfl
  refine ⟨?_, ?_, ?_⟩
  · rw [hm a (by omega) (by omega), h.type]
  · rw [hm (a + 1) (by omega) (by omega), h.len]
  · rw [← h.value, length_read]
    exact read_congr fun i h₁ h₂ => hm i (by omega) (by omega)

theorem Attr.At.written (h : x.size < 256) : x.At (write m a x.octets) a := by
  have hread : read (write m a x.octets) a x.octets.length = x.octets := read_write_self
  have hhead : read (write m a x.octets) a (2 + x.2.length) = [x.1, UInt8.ofNat x.size] ++ x.2 := by
    rw [Nat.add_comm]
    exact hread
  rw [read_add] at hhead
  obtain ⟨htwo, hvalue⟩ := List.append_inj hhead (by simp)
  obtain ⟨h₁, h₂⟩ : write m a x.octets a = x.1 ∧
      write m a x.octets (a + 1) = UInt8.ofNat x.size := by
    simpa [Bytes.read, List.range_succ] using htwo
  refine ⟨h₁, ?_, hvalue⟩
  rw [h₂, UInt8.toNat_ofNat_of_lt' h]

theorem Spelled.congr (h : Spelled m a xs)
    (hm : ∀ i, a ≤ i → i < a + attrsSize xs → m' i = m i) : Spelled m' a xs := by
  induction xs generalizing a with
  | nil => trivial
  | cons x xs ih =>
    rw [attrsSize_cons] at hm
    exact ⟨h.1.congr fun i h₁ h₂ => hm i h₁ (by omega),
      ih h.2 fun i h₁ h₂ => hm i (by omega) (by omega)⟩

theorem spelled_append :
    Spelled m a (xs ++ ys) ↔ Spelled m a xs ∧ Spelled m (a + attrsSize xs) ys := by
  induction xs generalizing a with
  | nil => simp [Spelled, attrsSize]
  | cons x xs ih =>
    rw [List.cons_append, Spelled, Spelled, ih, attrsSize_cons, Nat.add_assoc, and_assoc]

/-- One more attribute behind those that are there. -/
theorem Spelled.add (h : Spelled m a xs) (hx : x.size < 256) :
    Spelled (write m (a + attrsSize xs) x.octets) a (xs ++ [x]) := by
  refine spelled_append.mpr ⟨?_, .written hx, trivial⟩
  exact h.congr fun i _ h₂ => write_of_lt h₂

end

end Lib
end DaemonGroup
