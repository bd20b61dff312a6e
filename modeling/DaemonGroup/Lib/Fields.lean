import Mathlib.Data.Nat.Notation
import Mathlib.Tactic.Common
import Mathlib.Algebra.Order.Ring.Nat

/-!
# DaemonGroup.Lib.Fields

Bit fields of a word, counted from the most significant bit: the field of `len` bits at `start` is
or-ed in with `setField` and read with `getField`.

* `getField_setField_self` — a field that was empty reads back what was set, cut to its length.
* `getField_setField_of_disjoint` — setting a field leaves the others.
-/

namespace DaemonGroup
namespace Lib

section
variable {w : Nat}

/-- The `len` low bits. -/
def lowMask (w len : Nat) : BitVec w := ~~~(BitVec.allOnes w <<< len)

/-- `src` with the low `len` bits of `val` or-ed into its field at `start`. -/
def setField (src : BitVec w) (start len : Nat) (val : BitVec w) : BitVec w :=
  src ||| ((lowMask w len &&& val) <<< (w - start - len))

/-- The field of `src` at `start`. The shift keeps the sign, which the mask then drops. -/
def getField (src : BitVec w) (start len : Nat) : BitVec w :=
  lowMask w len &&& src.sshiftRight (w - start - len)

variable {src val : BitVec w} {start len start' len' i : Nat}

theorem getLsbD_lowMask : (lowMask w len).getLsbD i = (decide (i < w) && decide (i < len)) := by
  by_cases h : i < w
  · by_cases hl : i < len <;> simp [lowMask, h, hl]
  · simp [lowMask, h]

theorem getLsbD_setField : (setField src start len val).getLsbD i =
    (src.getLsbD i || (decide (i < w) && decide (w - start - len ≤ i) &&
      decide (i < w - start - len + len) && val.getLsbD (i - (w - start - len)))) := by
  rw [setField, BitVec.getLsbD_or, BitVec.getLsbD_shiftLeft, BitVec.getLsbD_and, getLsbD_lowMask]
  congr 1
  by_cases h : i < w
  · by_cases hk : w - start - len ≤ i
    · have h1 : i - (w - start - len) < w := by omega
      have h2 : (i - (w - start - len) < len) ↔ (i < w - start - len + len) := by omega
      simp [h, hk, h1, h2]
    · simp [hk]
  · simp [h]

theorem getLsbD_getField (h : start + len ≤ w) :
    (getField src start len).getLsbD i =
      (decide (i < len) && src.getLsbD (w - start - len + i)) := by
  rw [getField, BitVec.getLsbD_and, getLsbD_lowMask, BitVec.getLsbD_sshiftRight]
  by_cases hl : i < len
  · have h1 : i < w := by omega
    have h2 : w - start - len + i < w := by omega
    simp [hl, h1, h2]
  · simp [hl]

theorem getField_zero (h : start + len ≤ w) : getField (0 : BitVec w) start len = 0 := by
  refine BitVec.eq_of_getLsbD_eq fun i _ => ?_
  rw [getLsbD_getField h]
  simp

/-- A field that was empty reads back what was set, cut to its length. -/
theorem getField_setField_self (h : start + len ≤ w) (hz : getField src start len = 0) :
    getField (setField src start len val) start len = lowMask w len &&& val := by
  refine BitVec.eq_of_getLsbD_eq fun i hi => ?_
  have hbit := congrArg (fun v => v.getLsbD i) hz
  rw [getLsbD_getField h] at hbit
  rw [getLsbD_getField h, getLsbD_setField, BitVec.getLsbD_and, getLsbD_lowMask]
  by_cases hl : i < len
  · have h1 : w - start - len + i < w := by omega
    have h2 : w - start - len + i < w - start - len + len := by omega
    have hsrc : src.getLsbD (w - start - len + i) = false := by simpa [hl] using hbit
    rw [hsrc]
    simp [hl, hi, h1]
  · simp [hl]

/-- Setting a field leaves the others. -/
theorem getField_setField_of_disjoint (h : start + len ≤ w) (h' : start' + len' ≤ w)
    (hd : start + len ≤ start' ∨ start' + len' ≤ start) :
    getField (setField src start' len' val) start len = getField src start len := by
  refine BitVec.eq_of_getLsbD_eq fun i hi => ?_
  rw [getLsbD_getField h, getLsbD_getField h, getLsbD_setField]
  by_cases hl : i < len
  · have hout : ¬(w - start' - len' ≤ w - start - len + i ∧
        w - start - len + i < w - start' - len' + len') := by omega
    have hfalse : (decide (w - start - len + i < w) && decide (w - start' - len' ≤ w - start - len + i) &&
        decide (w - start - len + i < w - start' - len' + len')) = false := by
      simp only [Bool.and_eq_false_iff, decide_eq_false_iff_not]
      omega
    rw [hfalse, Bool.false_and, Bool.or_false]
  · simp [hl]

/-- What does not fit into the mask is cut off. -/
theorem toNat_lowMask_and : (lowMask w len &&& val).toNat = val.toNat % 2 ^ len := by
  refine Nat.eq_of_testBit_eq fun i => ?_
  rw [BitVec.testBit_toNat, BitVec.getLsbD_and, getLsbD_lowMask, Nat.testBit_mod_two_pow,
    BitVec.testBit_toNat]
  by_cases h : i < w
  · simp [h]
  · simp [h, BitVec.getLsbD_of_ge val i (by omega)]

end

end Lib
end DaemonGroup
