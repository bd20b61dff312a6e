import Mathlib.Data.List.Basic
import Mathlib.Data.Finset.Card
import Mathlib.Data.Finset.Range
import Mathlib.Tactic.Common

/-!
# DaemonGroup.Lib.Bitmap

Bitmaps in bytes, the first bit of a byte its most significant one.

* `bit l n` — bit `n`; `ones l` — the bits that are set.
* `orBit`, `xorBit` — setting and flipping a bit, and what that does to the bits and their number.
* `firstByte`, `width`, `first` — the first byte with a clear bit, and the first clear bit in it:
  `bit_first` says that this is the first clear bit of the bitmap.
-/

namespace DaemonGroup
namespace Lib
namespace Bitmap

/-- Bit `n`, counted from the most significant bit of the first byte. -/
def bit (l : List (BitVec 8)) (n : Nat) : Bool := (l.getD (n / 8) 0).getMsbD (n % 8)

/-- The numbers of the bits that are set. -/
def ones (l : List (BitVec 8)) : Finset Nat :=
  (Finset.range (8 * l.length)).filter fun n => bit l n = true

/-- Set bit `n`. -/
def orBit (l : List (BitVec 8)) (n : Nat) : List (BitVec 8) :=
  l.set (n / 8) (l.getD (n / 8) 0 ||| 0x80#8 >>> (n % 8))

/-- Flip bit `n`. -/
def xorBit (l : List (BitVec 8)) (n : Nat) : List (BitVec 8) :=
  l.set (n / 8) (l.getD (n / 8) 0 ^^^ 0x80#8 >>> (n % 8))

/-- The first byte that has a clear bit; the length of the list if there is none. -/
def firstByte (l : List (BitVec 8)) : Nat := l.findIdx (· != 0xff#8)

/-- How often `flag` can be shifted to the right before it is zero, at most `fuel` times. -/
def width : Nat → BitVec 8 → Nat
  | 0, _ => 0
  | fuel + 1, flag => if flag.toNat > 0 then width fuel (flag >>> 1) + 1 else 0

/-! ## One byte -/

/-- The bits of a mask with one bit. -/
theorem mask_bit : ∀ k m : Fin 8, (0x80#8 >>> k.val).getMsbD m = decide (m = k) := by
  decide +kernel

theorem byte_or (k m : Fin 8) (b : BitVec 8) :
    (b ||| 0x80#8 >>> k.val).getMsbD m = (decide (m = k) || b.getMsbD m) := by
  rw [BitVec.getMsbD_or, mask_bit, Bool.or_comm]

theorem byte_xor (k m : Fin 8) (b : BitVec 8) :
    (b ^^^ 0x80#8 >>> k.val).getMsbD m = (decide (m = k) ^^ b.getMsbD m) := by
  rw [BitVec.getMsbD_xor, mask_bit, Bool.xor_comm]

/-- Masking with one bit tests it. -/
theorem byte_and : ∀ k : Fin 8, ∀ b : BitVec 8,
    (b &&& 0x80#8 >>> k.val = 0) ↔ b.getMsbD k = false := by
  decide +kernel

/-- The bit found in a byte with a clear bit: it is clear, the ones before it are set, and it is
the one the shifted mask names. -/
theorem byte_first : ∀ b : BitVec 8, b ≠ 0xff#8 →
    0 < width 8 (~~~b) ∧ width 8 (~~~b) ≤ 8 ∧ b.getMsbD (8 - width 8 (~~~b)) = false ∧
      (1#8 <<< (width 8 (~~~b) - 1)) = 0x80#8 >>> (8 - width 8 (~~~b)) ∧
      ∀ k : Fin 8, k.val < 8 - width 8 (~~~b) → b.getMsbD k = true := by
  decide +kernel

theorem byte_full : ∀ k : Fin 8, (0xff#8).getMsbD k = true := by
  decide +kernel

/-! ## The whole bitmap -/

section
variable {l : List (BitVec 8)} {n m : Nat}

@[simp] theorem length_orBit : (orBit l n).length = l.length := by simp [orBit]

@[simp] theorem length_xorBit : (xorBit l n).length = l.length := by simp [xorBit]

/-- The bits after one byte is replaced. -/
theorem bit_set {b : BitVec 8} (hn : n / 8 < l.length) :
    bit (l.set (n / 8) b) m = if m / 8 = n / 8 then b.getMsbD (m % 8) else bit l m := by
  unfold bit
  split
  case isTrue h => simp [h, hn, List.getD_eq_getElem?_getD]
  case isFalse h =>
    simp [List.getD_eq_getElem?_getD, List.getElem?_set_ne (Ne.symm h)]

theorem bit_orBit (hn : n < 8 * l.length) :
    bit (orBit l n) m = (decide (m = n) || bit l m) := by
  have hn' : n / 8 < l.length := by omega
  have hmod : ∀ i, i % 8 < 8 := fun i => Nat.mod_lt i (by decide)
  rw [orBit, bit_set hn']
  split
  case isTrue h =>
    have := byte_or ⟨n % 8, hmod n⟩ ⟨m % 8, hmod m⟩ (l.getD (n / 8) 0)
    rw [this, bit, h]
    congr 1
    simp only [Fin.mk.injEq, decide_eq_decide]
    omega
  case isFalse h =>
    have hne : m ≠ n := fun he => h (by rw [he])
    simp [hne]

theorem bit_xorBit (hn : n < 8 * l.length) :
    bit (xorBit l n) m = (decide (m = n) ^^ bit l m) := by
  have hn' : n / 8 < l.length := by omega
  have hmod : ∀ i, i % 8 < 8 := fun i => Nat.mod_lt i (by decide)
  rw [xorBit, bit_set hn']
  split
  case isTrue h =>
    have := byte_xor ⟨n % 8, hmod n⟩ ⟨m % 8, hmod m⟩ (l.getD (n / 8) 0)
    rw [this, bit, h]
    congr 1
    simp only [Fin.mk.injEq, decide_eq_decide]
    omega
  case isFalse h =>
    have hne : m ≠ n := fun he => h (by rw [he])
    simp [hne]

theorem mem_ones : n ∈ ones l ↔ n < 8 * l.length ∧ bit l n = true := by
  simp [ones]

/-- No bit is set beyond the end. -/
theorem bit_of_le (h : 8 * l.length ≤ n) : bit l n = false := by
  have : l.length ≤ n / 8 := by omega
  simp [bit, List.getD_eq_getElem?_getD, List.getElem?_eq_none this]

theorem mem_ones_iff : n ∈ ones l ↔ bit l n = true := by
  rw [mem_ones, and_iff_right_iff_imp]
  intro h
  by_contra hlt
  rw [bit_of_le (by omega)] at h
  cases h

theorem card_orBit (hn : n < 8 * l.length) (hc : bit l n = false) :
    (ones (orBit l n)).card = (ones l).card + 1 := by
  have hins : ones (orBit l n) = insert n (ones l) := by
    ext m
    rw [Finset.mem_insert, mem_ones_iff, mem_ones_iff, bit_orBit hn]
    simp
  have hnot : n ∉ ones l := by
    rw [mem_ones_iff, hc]
    decide
  rw [hins, Finset.card_insert_of_notMem hnot]

theorem card_xorBit (hn : n < 8 * l.length) (hc : bit l n = true) :
    (ones (xorBit l n)).card + 1 = (ones l).card := by
  have hins : insert n (ones (xorBit l n)) = ones l := by
    ext m
    rw [Finset.mem_insert, mem_ones_iff, mem_ones_iff, bit_xorBit hn]
    by_cases hm : m = n <;> simp [hm, hc]
  have hnot : n ∉ ones (xorBit l n) := by
    rw [mem_ones_iff, bit_xorBit hn]
    simp [hc]
  rw [← hins, Finset.card_insert_of_notMem hnot]

/-- With fewer than `n` bits set, one of the first `n` is clear. -/
theorem exists_clear (h : (ones l).card < n) : ∃ m < n, bit l m = false := by
  by_contra hall
  push Not at hall
  have hsub : Finset.range n ⊆ ones l := by
    intro m hm
    rw [mem_ones_iff]
    simpa using hall m (Finset.mem_range.mp hm)
  have := Finset.card_le_card hsub
  rw [Finset.card_range] at this
  omega

/-- The first clear bit, as it is searched for: byte by byte, then in the byte. -/
def first (l : List (BitVec 8)) : Nat :=
  firstByte l * 8 + 8 - width 8 (~~~ l.getD (firstByte l) 0)

theorem firstByte_lt (hm : bit l m = false) (hlt : m < 8 * l.length) : firstByte l ≤ m / 8 := by
  by_contra h
  have hmod : m % 8 < 8 := Nat.mod_lt m (by decide)
  have hl : m / 8 < l.length := by omega
  have := List.not_of_lt_findIdx (Nat.lt_of_not_le h)
  have hff : l.getD (m / 8) 0 = 0xff#8 := by
    simpa [List.getD_eq_getElem?_getD, hl] using this
  rw [bit, hff] at hm
  rw [byte_full ⟨m % 8, hmod⟩] at hm
  cases hm

/-- The byte found has a clear bit. -/
theorem firstByte_ne (h : firstByte l < l.length) : l.getD (firstByte l) 0 ≠ 0xff#8 := by
  rw [List.getD_eq_getElem?_getD, List.getElem?_eq_getElem h]
  exact bne_iff_ne.mp (List.findIdx_getElem (w := h))

/-- The bit found is clear, and no clear bit comes before it. -/
theorem bit_first (h : firstByte l < l.length) :
    bit l (first l) = false ∧ first l < 8 * l.length ∧ first l / 8 = firstByte l ∧
      first l % 8 = 8 - width 8 (~~~ l.getD (firstByte l) 0) ∧
      ∀ m < 8 * l.length, bit l m = false → first l ≤ m := by
  obtain ⟨hpos, hle, hclear, -, hset⟩ := byte_first _ (firstByte_ne h)
  have hdiv : first l / 8 = firstByte l := by unfold first; omega
  have hmod : first l % 8 = 8 - width 8 (~~~ l.getD (firstByte l) 0) := by unfold first; omega
  refine ⟨?_, by omega, hdiv, hmod, ?_⟩
  · rw [bit, hdiv, hmod]
    exact hclear
  · intro m hm hc
    have hfb := firstByte_lt hc hm
    by_contra hlt
    have hm8 : m / 8 = firstByte l := by omega
    have hk : m % 8 < 8 - width 8 (~~~ l.getD (firstByte l) 0) := by omega
    have := hset ⟨m % 8, by omega⟩ hk
    rw [bit, hm8] at hc
    rw [hc] at this
    cases this

end

end Bitmap
end Lib
end DaemonGroup
