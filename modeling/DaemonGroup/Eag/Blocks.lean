import DaemonGroup.Eag.Blkmem
import Mathlib.Algebra.Order.Ring.Nat
import Mathlib.Tactic.Ring
import Mathlib.Tactic.Tauto

/-!
# DaemonGroup.Eag.Blocks

The block allocator keeps its bitmaps, counters and block array in agreement with the items in use.

* `BlkOk.malloc`, `BlkOk.free` — the bitmap search and the release of one slot.
* `Entries.set` — what replacing one entry of the block array needs.
* `malloc_inv`, `freeItem_eq`, `free_inv` — the operations keep the invariant; a live item is found
  in its own block, at its own offset.
-/

namespace DaemonGroup
namespace Blkmem

open Lib Bitmap

/-! ## One block -/

/-- The address of slot `n`. -/
def itemAddr (b : EagBlk) (n : Nat) : Nat := b.itemdata + n * b.item_size

/-- A block of `num` items of `sz` bytes in order. -/
structure BlkOk (sz num : Nat) (b : EagBlk) : Prop where
  size_eq : b.item_size = sz
  num_eq : b.item_num = num
  length : b.blk_item_flag.length = sizeofFlag
  bit_lt : ∀ n, bit b.blk_item_flag n = true → n < num
  free_num : b.free_num + (ones b.blk_item_flag).card = num
  first_gt : b.addr + sizeofEagBlk < b.itemdata
  first_le : b.itemdata ≤ b.addr + sizeofEagBlk + sz

/-- `d` is an item in use of the block `p` points to. -/
def Item (p : Option EagBlk) (d : Nat) : Prop :=
  ∃ b n, p = some b ∧ bit b.blk_item_flag n = true ∧ d = itemAddr b n

section
variable {sz num : Nat} {b : EagBlk} {n k d : Nat}

theorem item_some : Item (some b) d ↔ ∃ n, bit b.blk_item_flag n = true ∧ d = itemAddr b n := by
  simp [Item]

theorem item_none : ¬ Item none d := by
  rintro ⟨b, n, h, -⟩
  cases h

theorem itemAddr_inj (hsz : 0 < b.item_size) (h : itemAddr b n = itemAddr b k) : n = k := by
  have h' : n * b.item_size = k * b.item_size := by simp only [itemAddr] at h; omega
  exact Nat.eq_of_mul_eq_mul_right hsz h'

/-- The slots lie in the area of the block. -/
theorem BlkOk.bounds (h : BlkOk sz num b) (hn : n < num) :
    b.addr + sizeofEagBlk < itemAddr b n ∧
      itemAddr b n + sz ≤ b.addr + (sizeofEagBlk + sz * (num + 1)) := by
  have h1 := h.first_gt
  have h2 := h.first_le
  have h3 : (n + 1) * sz ≤ num * sz := Nat.mul_le_mul_right sz hn
  have e1 : (n + 1) * sz = n * sz + sz := by ring
  have e2 : sz * (num + 1) = num * sz + sz := by ring
  simp only [itemAddr, h.size_eq]
  constructor <;> omega

theorem BlkOk.item_bounds (h : BlkOk sz num b) (hd : Item (some b) d) :
    b.addr + sizeofEagBlk < d ∧ d + sz ≤ b.addr + (sizeofEagBlk + sz * (num + 1)) := by
  obtain ⟨n, hn, rfl⟩ := item_some.mp hd
  exact h.bounds (h.bit_lt n hn)

/-- The bitmap search of a block with a free item finds a clear bit below `item_num`. -/
theorem BlkOk.first_lt (h : BlkOk sz num b) (hnum : num ≤ MAX_BLK_ITEM_NUM)
    (hpos : 0 < b.free_num) :
    firstByte b.blk_item_flag < b.blk_item_flag.length ∧ first b.blk_item_flag < num ∧
      bit b.blk_item_flag (first b.blk_item_flag) = false := by
  have hfree := h.free_num
  obtain ⟨m, hm, hclear⟩ := exists_clear (l := b.blk_item_flag) (n := num) (by omega)
  have hlen : num ≤ 8 * b.blk_item_flag.length := by
    rw [h.length]
    exact hnum.trans (by decide)
  have hbyte : firstByte b.blk_item_flag < b.blk_item_flag.length := by
    have := firstByte_lt hclear (by omega)
    omega
  obtain ⟨h1, -, -, -, h2⟩ := bit_first hbyte
  exact ⟨hbyte, (h2 m (by omega) hclear).trans_lt hm, h1⟩

/-- What `eag_blk_malloc_item` does to a block with a free item. -/
theorem BlkOk.malloc_eq (h : BlkOk sz num b) (hnum : num ≤ MAX_BLK_ITEM_NUM)
    (hpos : 0 < b.free_num) :
    eagBlkMallocItem b =
      ({ b with
          blk_item_flag := orBit b.blk_item_flag (first b.blk_item_flag)
          free_num := b.free_num - 1 },
        some (itemAddr b (first b.blk_item_flag))) := by
  obtain ⟨hbyte, -, -⟩ := h.first_lt hnum hpos
  obtain ⟨-, -, hdiv, hmod, -⟩ := bit_first hbyte
  obtain ⟨-, -, -, hmask, -⟩ := byte_first _ (firstByte_ne hbyte)
  unfold eagBlkMallocItem
  rw [if_neg (by omega)]
  dsimp only
  rw [if_neg (by omega), hmask, orBit, hdiv, hmod]
  rfl

theorem BlkOk.malloc (h : BlkOk sz num b) (hnum : num ≤ MAX_BLK_ITEM_NUM) (hsz : 0 < sz)
    (hpos : 0 < b.free_num) :
    ∃ c x, eagBlkMallocItem b = (c, some x) ∧ BlkOk sz num c ∧ c.addr = b.addr ∧
      (∃ n < num, x = itemAddr b n) ∧ ¬ Item (some b) x ∧
      ∀ d, Item (some c) d ↔ Item (some b) d ∨ d = x := by
  obtain ⟨hbyte, hlt, hclear⟩ := h.first_lt hnum hpos
  have hin : first b.blk_item_flag < 8 * b.blk_item_flag.length := (bit_first hbyte).2.1
  refine ⟨_, _, h.malloc_eq hnum hpos, ⟨h.size_eq, h.num_eq, by simp [h.length], ?_, ?_, h.first_gt,
    h.first_le⟩, rfl, ⟨_, hlt, rfl⟩, ?_, ?_⟩
  · intro n hn
    rw [bit_orBit hin] at hn
    by_cases he : n = first b.blk_item_flag
    · omega
    · exact h.bit_lt n (by simpa [he] using hn)
  · have := h.free_num
    dsimp only
    rw [card_orBit hin hclear]
    omega
  · intro hi
    obtain ⟨n, hn, he⟩ := item_some.mp hi
    have := itemAddr_inj (by rw [h.size_eq]; exact hsz) he
    rw [← this, hclear] at hn
    cases hn
  · intro d
    rw [item_some, item_some]
    constructor
    · rintro ⟨n, hn, rfl⟩
      rw [bit_orBit hin] at hn
      by_cases he : n = first b.blk_item_flag
      · exact .inr (by rw [he]; rfl)
      · exact .inl ⟨n, by simpa [he] using hn, rfl⟩
    · rintro (⟨n, hn, rfl⟩ | rfl)
      · exact ⟨n, by rw [bit_orBit hin, hn, Bool.or_true], rfl⟩
      · exact ⟨first b.blk_item_flag, by simp [bit_orBit hin], rfl⟩

/-- The slot of an item in use, as `eag_blk_get_item_offset_in_blk` finds it. -/
theorem BlkOk.offset (h : BlkOk sz num b) (hsz : 0 < sz)
    (hfits : sizeofEagBlk + sz * (num + 1) < 2 ^ 32) (hn : n < num) :
    eagBlkGetItemOffsetInBlk b (itemAddr b n) = .ok n := by
  have hmul : n * sz < num * sz := (Nat.mul_lt_mul_right hsz).mpr hn
  have e2 : sz * (num + 1) = num * sz + sz := by ring
  have e3 : sz * num = num * sz := Nat.mul_comm _ _
  have hmod : sz * num % 2 ^ 32 = sz * num := Nat.mod_eq_of_lt (by omega)
  have hb := (h.bounds hn).1
  have hsub : itemAddr b n - b.itemdata = n * sz := by
    simp only [itemAddr, h.size_eq]
    omega
  have hmod' : n * sz % 2 ^ 32 = n * sz := Nat.mod_eq_of_lt (by omega)
  unfold eagBlkGetItemOffsetInBlk
  rw [h.size_eq, h.num_eq, hmod, hsub, if_neg (by omega), if_neg, if_neg, Nat.mul_div_cancel _ hsz]
  · rw [hmod', Nat.mul_mod_left]
    simp
  · simp only [itemAddr, h.size_eq]
    omega

/-- An item of a block apart is not taken for one of this block. -/
theorem BlkOk.offset_other (h : BlkOk sz num b) {c : EagBlk} (hc : BlkOk sz num c)
    (hfits : sizeofEagBlk + sz * (num + 1) < 2 ^ 32) (hn : n < num)
    (hapart : b.addr + (sizeofEagBlk + sz * (num + 1)) ≤ c.addr ∨
      c.addr + (sizeofEagBlk + sz * (num + 1)) ≤ b.addr) :
    eagBlkGetItemOffsetInBlk c (itemAddr b n) = .error .ITEM_NOT_IN_BLK := by
  have hb := h.bounds hn
  have hc1 := hc.first_gt
  have hc2 := hc.first_le
  have e2 : sz * (num + 1) = sz * num + sz := by ring
  have hmod : sz * num % 2 ^ 32 = sz * num := Nat.mod_eq_of_lt (by omega)
  unfold eagBlkGetItemOffsetInBlk
  rw [hc.size_eq, hc.num_eq, hmod, if_neg (by omega), if_pos (by omega)]

/-- What `eag_blk_free_item` does to a slot in use. -/
theorem BlkOk.free_eq (hbit : bit b.blk_item_flag n = true) :
    eagBlkFreeItem b n =
      { b with blk_item_flag := xorBit b.blk_item_flag n, free_num := b.free_num + 1 } := by
  have hmod : n % 8 < 8 := Nat.mod_lt n (by decide)
  unfold eagBlkFreeItem
  dsimp only
  rw [if_neg, xorBit]
  rw [byte_and ⟨n % 8, hmod⟩]
  intro hf
  rw [bit, hf] at hbit
  cases hbit

theorem BlkOk.free (h : BlkOk sz num b) (hnum : num ≤ MAX_BLK_ITEM_NUM) (hsz : 0 < sz)
    (hbit : bit b.blk_item_flag n = true) :
    BlkOk sz num (eagBlkFreeItem b n) ∧ (eagBlkFreeItem b n).addr = b.addr ∧
      ∀ d, Item (some (eagBlkFreeItem b n)) d ↔ Item (some b) d ∧ d ≠ itemAddr b n := by
  have hlt := h.bit_lt n hbit
  have hin : n < 8 * b.blk_item_flag.length := by
    rw [h.length]
    exact (hlt.trans_le hnum).trans_le (by decide)
  rw [BlkOk.free_eq hbit]
  refine ⟨⟨h.size_eq, h.num_eq, by simp [h.length], ?_, ?_, h.first_gt, h.first_le⟩, rfl, ?_⟩
  · intro k hk
    rw [bit_xorBit hin] at hk
    by_cases he : k = n
    · omega
    · exact h.bit_lt k (by simpa [he] using hk)
  · have h1 := h.free_num
    have h2 := card_xorBit hin hbit
    dsimp only
    omega
  · intro d
    rw [item_some, item_some]
    constructor
    · rintro ⟨k, hk, rfl⟩
      rw [bit_xorBit hin] at hk
      by_cases he : k = n
      · simp [he, hbit] at hk
      · exact ⟨⟨k, by simpa [he] using hk, rfl⟩,
          fun hd => he (itemAddr_inj (by rw [h.size_eq]; exact hsz) hd)⟩
    · rintro ⟨⟨k, hk, rfl⟩, hne⟩
      have he : k ≠ n := fun he => hne (by rw [he])
      exact ⟨k, by simp [bit_xorBit hin, he, hk], rfl⟩

/-- A block without set bits has no item in use. -/
theorem BlkOk.no_item (h : BlkOk sz num b) (hall : b.free_num = num) : ¬ Item (some b) d := by
  intro hd
  obtain ⟨n, hn, -⟩ := item_some.mp hd
  have hcard : (ones b.blk_item_flag).card = 0 := by
    have := h.free_num
    omega
  rw [Finset.card_eq_zero] at hcard
  have hm : n ∈ ones b.blk_item_flag := mem_ones_iff.mpr hn
  rw [hcard] at hm
  exact absurd hm (Finset.notMem_empty n)

end

/-! ## The block array -/

/-- Two blocks lie apart. -/
def Apart (sz num : Nat) (b c : EagBlk) : Prop :=
  b.addr + (sizeofEagBlk + sz * (num + 1)) ≤ c.addr ∨
    c.addr + (sizeofEagBlk + sz * (num + 1)) ≤ b.addr

/-- The blocks of the array are in order and apart, and the items in use are those their bitmaps
mark. -/
structure Entries (sz num : Nat) (l : List (Option EagBlk)) (live : List Nat) : Prop where
  ok : ∀ (i : Nat) b, l[i]? = some (some b) → BlkOk sz num b
  apart : ∀ (i j : Nat) b c, i ≠ j → l[i]? = some (some b) → l[j]? = some (some c) → Apart sz num b c
  live_nodup : live.Nodup
  live_iff : ∀ d, d ∈ live ↔ ∃ (i : Nat) (p : Option EagBlk), l[i]? = some p ∧ Item p d

section
variable {sz num : Nat} {l : List (Option EagBlk)} {live : List Nat}

/-- An item in use belongs to one entry of the array. -/
theorem Entries.unique (h : Entries sz num l live) {i j : Nat} {p q : Option EagBlk} {d : Nat}
    (hi : l[i]? = some p) (hj : l[j]? = some q) (hp : Item p d) (hq : Item q d) : i = j := by
  by_contra hne
  obtain ⟨b, n, rfl, hn, rfl⟩ := id hp
  obtain ⟨c, k, rfl, hk, -⟩ := id hq
  have h1 := (h.ok i b hi).item_bounds hp
  have h2 := (h.ok j c hj).item_bounds hq
  rcases h.apart i j b c hne hi hj with h3 | h3 <;> omega

/-- Replacing entry `i` by `q`. -/
theorem Entries.set (h : Entries sz num l live) {i : Nat} {p q : Option EagBlk}
    (hi : l[i]? = some p) (hok : ∀ c, q = some c → BlkOk sz num c)
    (hapart : ∀ c, q = some c → ∀ (j : Nat) b, j ≠ i → l[j]? = some (some b) → Apart sz num c b)
    {live' : List Nat} (hnodup : live'.Nodup)
    (hlive : ∀ d, d ∈ live' ↔ (d ∈ live ∧ ¬ Item p d) ∨ Item q d) :
    Entries sz num (l.set i q) live' := by
  have hlen : i < l.length := (List.getElem?_eq_some_iff.mp hi).1
  have hself : (l.set i q)[i]? = some q := by simp [hlen]
  have hother : ∀ j, j ≠ i → (l.set i q)[j]? = l[j]? :=
    fun j hj => List.getElem?_set_ne (Ne.symm hj)
  refine ⟨?_, ?_, hnodup, ?_⟩
  · intro j c hj
    by_cases hji : j = i
    · subst hji
      rw [hself] at hj
      exact hok c (Option.some.inj hj)
    · rw [hother j hji] at hj
      exact h.ok j c hj
  · intro j k b c hne hj hk
    by_cases hji : j = i
    · subst hji
      rw [hself] at hj
      rw [hother k (Ne.symm hne)] at hk
      exact hapart b (Option.some.inj hj) k c (Ne.symm hne) hk
    · rw [hother j hji] at hj
      by_cases hki : k = i
      · subst hki
        rw [hself] at hk
        exact (hapart c (Option.some.inj hk) j b hji hj).symm
      · rw [hother k hki] at hk
        exact h.apart j k b c hne hj hk
  · intro d
    rw [hlive, h.live_iff]
    constructor
    · rintro (⟨⟨j, r, hj, hr⟩, hnot⟩ | hq)
      · have hji : j ≠ i := by
          rintro rfl
          rw [hi] at hj
          exact hnot (Option.some.inj hj ▸ hr)
        exact ⟨j, r, (hother j hji).trans hj, hr⟩
      · exact ⟨i, q, hself, hq⟩
    · rintro ⟨j, r, hj, hr⟩
      by_cases hji : j = i
      · subst hji
        rw [hself] at hj
        exact .inr (Option.some.inj hj ▸ hr)
      · rw [hother j hji] at hj
        exact .inl ⟨⟨j, r, hj, hr⟩, fun hp => hji (h.unique hj hi hr hp)⟩

end

/-! ## The allocator -/

/-- The sizes `eag_blkmem_create` fixes. It checks the number of items; its callers pass constants
for which a block is far below 4 GiB and the number of blocks is at most `MAX_BLK_NUM`. -/
structure Config (m : EagBlkMem) : Prop where
  size_pos : 0 < m.blk_item_size
  num_pos : 0 < m.blk_item_num
  num_le : m.blk_item_num ≤ MAX_BLK_ITEM_NUM
  fits : sizeofEagBlk + m.blk_item_size * (m.blk_item_num + 1) < 2 ^ 32
  max_le : m.max_blk_num ≤ MAX_BLK_NUM

structure Inv (u : Use) : Prop where
  config : Config u.mem
  length : u.mem.blk.length = MAX_BLK_NUM
  blk_num : u.mem.blk_num = u.mem.blk.countP Option.isSome
  blk_num_le : u.mem.blk_num ≤ u.mem.max_blk_num
  entries : Entries u.mem.blk_item_size u.mem.blk_item_num u.mem.blk u.live

theorem getBlkHasFree_some {m : EagBlkMem} {i : Nat} {b : EagBlk}
    (h : eagBlkmemGetBlkHasFree m = some (i, b)) :
    m.blk[i]? = some (some b) ∧ 0 < b.free_num := by
  unfold eagBlkmemGetBlkHasFree at h
  dsimp only at h
  split at h
  case h_2 => cases h
  case h_1 c hc =>
    cases h
    refine ⟨hc, ?_⟩
    obtain ⟨hlt, he⟩ := List.getElem?_eq_some_iff.mp hc
    have := List.findIdx_getElem (w := hlt)
    rw [he] at this
    simpa [hasFree, eagBlkIfHasFreeItem] using this

theorem getBlkHasFree_none {m : EagBlkMem} (h : eagBlkmemGetBlkHasFree m = none) :
    ∀ b, some b ∈ m.blk → b.free_num = 0 := by
  intro b hb
  by_contra hpos
  have hex : ∃ p ∈ m.blk, hasFree p := ⟨some b, hb, by simp [hasFree, eagBlkIfHasFreeItem]; omega⟩
  have hlt := List.findIdx_lt_length_of_exists hex
  have hp := List.findIdx_getElem (w := hlt)
  unfold eagBlkmemGetBlkHasFree at h
  dsimp only at h
  rw [List.getElem?_eq_getElem hlt] at h
  cases he : m.blk[m.blk.findIdx hasFree] with
  | none => rw [he] at hp; cases hp
  | some c => rw [he] at h; cases h

/-- The number of blocks after an entry is replaced. -/
theorem countP_set {l : List (Option EagBlk)} {i : Nat} {p q : Option EagBlk}
    (hi : l[i]? = some p) :
    (l.set i q).countP Option.isSome + (if p.isSome then 1 else 0) =
      l.countP Option.isSome + (if q.isSome then 1 else 0) := by
  induction l generalizing i with
  | nil => simp at hi
  | cons a l ih =>
    cases i with
    | zero =>
      simp only [List.getElem?_cons_zero, Option.some.injEq] at hi
      subst hi
      simp only [List.set_cons_zero, List.countP_cons]
      omega
    | succ i =>
      have := ih (by simpa using hi)
      simp only [List.set_cons_succ, List.countP_cons]
      omega

/-- A new block: nothing in use, and all of it free. -/
theorem create_ok {sz num a : Nat} (hsz : 0 < sz) (hnum : 0 < num) (hle : num ≤ MAX_BLK_ITEM_NUM) :
    ∃ b, eagBlkCreate sz num (some a) = .ok b ∧ BlkOk sz num b ∧ b.addr = a ∧
      b.free_num = num := by
  have hbit : ∀ n, bit (List.replicate sizeofFlag 0#8) n = false := by
    intro n
    unfold bit
    rw [List.getD_eq_getElem?_getD, List.getElem?_replicate]
    split <;> simp
  have hones : ones (List.replicate sizeofFlag 0#8) = ∅ := by
    ext n
    simp [mem_ones_iff, hbit]
  have hmod : (a + sizeofEagBlk) % sz < sz := Nat.mod_lt _ hsz
  have hmod' : (a + sizeofEagBlk) % sz ≤ a + sizeofEagBlk := Nat.mod_le _ _
  unfold eagBlkCreate
  rw [if_neg (by omega), if_neg (by omega)]
  refine ⟨_, rfl, ⟨rfl, rfl, by simp, ?_, ?_, ?_, ?_⟩, rfl, rfl⟩
  · intro n hn
    exact absurd hn (by rw [Bool.not_eq_true]; exact hbit n)
  · simp [hones]
  · dsimp only
    omega
  · dsimp only
    omega

/-- There is a null pointer left in the array while fewer blocks exist than it has places. -/
theorem addBlk_ok {m : EagBlkMem} (hnum : m.blk_num = m.blk.countP Option.isSome)
    (hlt : m.blk_num < m.blk.length) (b : EagBlk) :
    ∃ i, m.blk[i]? = some none ∧
      eagBlkmemAddBlk m b =
        ({ m with blk := m.blk.set i (some b), blk_num := m.blk_num + 1 }, .ok i) := by
  have hex : ∃ p ∈ m.blk, Option.isNone p = true := by
    by_contra hall
    push Not at hall
    have : m.blk.countP Option.isSome = m.blk.length := by
      rw [List.countP_eq_length]
      intro p hp
      exact Option.isSome_iff_ne_none.mpr (by simpa using hall p hp)
    omega
  have hi := List.findIdx_lt_length_of_exists hex
  have hp := List.findIdx_getElem (w := hi)
  refine ⟨m.blk.findIdx Option.isNone, ?_, by simp only [eagBlkmemAddBlk, hi, if_true]⟩
  rw [List.getElem?_eq_getElem hi]
  simpa using hp

/-- A block of the array gives an item. -/
theorem Inv.malloc_entry {m : EagBlkMem} {live : List Nat} (h : Inv ⟨m, live⟩) {i : Nat}
    {p : Option EagBlk} (hi : m.blk[i]? = some p) {b : EagBlk}
    (hb : BlkOk m.blk_item_size m.blk_item_num b) (hpos : 0 < b.free_num)
    (hitems : ∀ d, Item (some b) d ↔ Item p d)
    (hapart : ∀ (j : Nat) c, j ≠ i → m.blk[j]? = some (some c) →
      Apart m.blk_item_size m.blk_item_num b c) :
    ∃ c x, eagBlkMallocItem b = (c, some x) ∧
      Entries m.blk_item_size m.blk_item_num (m.blk.set i (some c)) (x :: live) := by
  obtain ⟨hc, -, -, -, he⟩ := h
  dsimp only at hc he
  obtain ⟨c, x, heq, hok, haddr, ⟨n, hn, hx⟩, hnew, hiff⟩ := hb.malloc hc.num_le hc.size_pos hpos
  refine ⟨c, x, heq, he.set hi ?_ ?_ ?_ ?_⟩
  · rintro _ ⟨⟩
    exact hok
  · rintro _ ⟨⟩ j d hj hd
    unfold Apart
    rw [haddr]
    exact hapart j d hj hd
  · refine List.nodup_cons.mpr ⟨fun hm => ?_, he.live_nodup⟩
    obtain ⟨j, q, hj, hq⟩ := (he.live_iff x).mp hm
    by_cases hji : j = i
    · subst hji
      rw [hi] at hj
      cases hj
      exact hnew ((hitems x).mpr hq)
    · obtain ⟨d, k, rfl, -, -⟩ := id hq
      have h1 := (he.ok j d hj).item_bounds hq
      have h2 := hb.bounds hn
      rcases hapart j d hji hj with h3 | h3 <;> omega
  · intro d
    rw [List.mem_cons, hiff, hitems]
    by_cases hp : Item p d
    · simp only [hp, not_true, and_false, true_or, or_true, iff_true]
      exact .inr ((he.live_iff d).mpr ⟨i, p, hi, hp⟩)
    · tauto

/-- `eag_blkmem_malloc_item` keeps the invariant. -/
theorem malloc_inv {u : Use} (h : Inv u) {mem : Option Nat} (hm : ∀ a ∈ mem, Fresh u.mem a) :
    Inv (step u (.malloc mem)) := by
  obtain ⟨m, live⟩ := u
  obtain ⟨hc, hlen, hnum, hle, he⟩ := id h
  dsimp only at hc hlen hnum hle he hm
  show Inv ⟨(eagBlkmemMallocItem m mem).1, (eagBlkmemMallocItem m mem).2.toList ++ live⟩
  cases hg : eagBlkmemGetBlkHasFree m with
  | some r =>
    obtain ⟨i, b⟩ := r
    obtain ⟨hi, hpos⟩ := getBlkHasFree_some hg
    obtain ⟨c, x, heq, hset⟩ := h.malloc_entry hi (he.ok i b hi) hpos (fun _ => Iff.rfl)
      fun j d hj hd => he.apart i j b d (Ne.symm hj) hi hd
    have hres : eagBlkmemMallocItem m mem = ({ m with blk := m.blk.set i (some c) }, some x) := by
      simp only [eagBlkmemMallocItem, hg, heq]
    rw [hres]
    refine ⟨⟨hc.size_pos, hc.num_pos, hc.num_le, hc.fits, hc.max_le⟩, by simp [hlen], ?_, hle, hset⟩
    have := countP_set (q := some c) hi
    simp only [Option.isSome_some, if_true] at this
    dsimp only
    omega
  | none =>
    by_cases hmax : eagBlkmemIfHasMaxBlk m = true
    · have hres : eagBlkmemMallocItem m mem = (m, none) := by
        simp only [eagBlkmemMallocItem, hg, hmax, if_true]
      rw [hres]
      exact h
    · have hlt : m.blk_num < m.max_blk_num := by simpa [eagBlkmemIfHasMaxBlk] using hmax
      cases mem with
      | none =>
        have hfail : ∃ e, eagBlkCreate m.blk_item_size m.blk_item_num none = .error e := by
          unfold eagBlkCreate
          split
          · exact ⟨_, rfl⟩
          · split <;> exact ⟨_, rfl⟩
        obtain ⟨e, hfail⟩ := hfail
        have hres : eagBlkmemMallocItem m none = (m, none) := by
          simp only [eagBlkmemMallocItem, hg, hmax, hfail]
          rfl
        rw [hres]
        exact h
      | some a =>
        have hroom : m.blk_num < m.blk.length := by
          have := hc.max_le
          omega
        obtain ⟨b, hcreate, hok, haddr, hfree⟩ :=
          create_ok (a := a) hc.size_pos hc.num_pos hc.num_le
        obtain ⟨i, hi, hadd⟩ := addBlk_ok hnum hroom b
        have hpos : 0 < b.free_num := hfree ▸ hc.num_pos
        obtain ⟨c, x, heq, hset⟩ := h.malloc_entry hi hok hpos
          (fun d => iff_of_false (hok.no_item hfree) item_none) (by
            intro j d hj hd
            have := hm a rfl d (List.mem_of_getElem? hd)
            rw [blkMemSize, Nat.mod_eq_of_lt hc.fits] at this
            unfold Apart
            rw [haddr]
            exact this.symm)
        have hres : eagBlkmemMallocItem m (some a) =
            ({ m with blk := m.blk.set i (some c), blk_num := m.blk_num + 1 }, some x) := by
          simp only [eagBlkmemMallocItem, hg, hmax, hcreate, hadd, heq, List.set_set]
          rfl
        rw [hres]
        refine ⟨⟨hc.size_pos, hc.num_pos, hc.num_le, hc.fits, hc.max_le⟩, by simp [hlen], ?_,
          hlt, hset⟩
        have := countP_set (q := some c) hi
        simp only [Option.isSome_some, Option.isSome_none, if_true] at this
        dsimp only
        simp at this
        omega

/-- The entry that `eag_blkmem_free_item` puts back for the block `b` after slot `n` is free. -/
def freed (b : EagBlk) (n : Nat) : Option EagBlk :=
  if eagBlkIfAllFree (eagBlkFreeItem b n) then none else some (eagBlkFreeItem b n)

/-- A live item is found in its own block and at its own offset. -/
theorem Inv.freeItem_eq {m : EagBlkMem} {live : List Nat} (h : Inv ⟨m, live⟩) {i n : Nat}
    {b : EagBlk} (hi : m.blk[i]? = some (some b)) (hn : bit b.blk_item_flag n = true) :
    eagBlkmemFreeItem m (itemAddr b n) =
      ({ m with
          blk := m.blk.set i (freed b n)
          blk_num := m.blk_num - (if (freed b n).isSome then 0 else 1) }, .ok ()) := by
  obtain ⟨hc, -, -, -, he⟩ := h
  dsimp only at hc he
  have hok := he.ok i b hi
  have hlt := hok.bit_lt n hn
  have hoff := hok.offset hc.size_pos hc.fits hlt
  obtain ⟨hlen, hget⟩ := List.getElem?_eq_some_iff.mp hi
  have hidx : m.blk.findIdx (holds (itemAddr b n)) = i := by
    rw [List.findIdx_eq hlen]
    constructor
    · rw [hget]
      simp [holds, hoff, Except.isOk, Except.toBool]
    · intro j hj
      have hjlen : j < m.blk.length := hj.trans hlen
      cases hjb : m.blk[j] with
      | none => rfl
      | some c =>
        have hjc : m.blk[j]? = some (some c) := by rw [List.getElem?_eq_getElem hjlen, hjb]
        have := hok.offset_other (he.ok j c hjc) hc.fits hlt
          (he.apart i j b c (Nat.ne_of_gt hj) hi hjc)
        simp [holds, this, Except.isOk, Except.toBool]
  have hne : itemAddr b n ≠ 0 := by
    have := (hok.bounds hlt).1
    omega
  unfold eagBlkmemFreeItem
  rw [if_neg hne]
  dsimp only
  rw [hidx, hi]
  dsimp only
  rw [hoff]
  dsimp only
  unfold freed
  split <;> rfl

theorem Inv.free_entries {m : EagBlkMem} {live : List Nat} (h : Inv ⟨m, live⟩) {i n : Nat}
    {b : EagBlk} (hi : m.blk[i]? = some (some b)) (hn : bit b.blk_item_flag n = true) :
    Entries m.blk_item_size m.blk_item_num (m.blk.set i (freed b n))
      (live.erase (itemAddr b n)) := by
  obtain ⟨hc, -, -, -, he⟩ := h
  dsimp only at hc he
  have hok := he.ok i b hi
  obtain ⟨hfree, haddr, hiff⟩ := hok.free hc.num_le hc.size_pos hn
  have hitem : ∀ d, Item (freed b n) d ↔ Item (some b) d ∧ d ≠ itemAddr b n := by
    intro d
    unfold freed
    split
    case isTrue hall =>
      have hnum : (eagBlkFreeItem b n).free_num = m.blk_item_num := by
        rw [← hfree.num_eq]
        simpa [eagBlkIfAllFree] using hall
      rw [← hiff d]
      exact iff_of_false item_none (hfree.no_item hnum)
    case isFalse => exact hiff d
  have hcase : ∀ c, freed b n = some c → c = eagBlkFreeItem b n := by
    intro c hcb
    unfold freed at hcb
    split at hcb
    · cases hcb
    · exact (Option.some.inj hcb).symm
  refine he.set hi (fun c hcb => hcase c hcb ▸ hfree) ?_ (he.live_nodup.erase _) ?_
  · intro c hcb j d hj hd
    rw [hcase c hcb]
    unfold Apart
    rw [haddr]
    exact he.apart i j b d (Ne.symm hj) hi hd
  · intro d
    rw [he.live_nodup.mem_erase_iff, hitem]
    by_cases hd : Item (some b) d
    · simp only [hd, not_true, and_false, false_or, true_and]
      exact and_iff_left ((he.live_iff d).mpr ⟨i, some b, hi, hd⟩)
    · have hne : d ≠ itemAddr b n := fun hd' => hd (item_some.mpr ⟨n, hn, hd'⟩)
      simp [hd, hne]

/-- `eag_blkmem_free_item` of a held item, or of `NULL`, keeps the invariant. -/
theorem free_inv {u : Use} (h : Inv u) {d : Nat} (hd : d = 0 ∨ d ∈ u.live) :
    Inv (step u (.free d)) := by
  obtain ⟨m, live⟩ := u
  obtain ⟨hc, hlen, hnum, hle, he⟩ := id h
  dsimp only at hc hlen hnum hle he hd
  show Inv ⟨(eagBlkmemFreeItem m d).1, live.erase d⟩
  by_cases hmem : d ∈ live
  · obtain ⟨i, p, hi, b, n, rfl, hn, rfl⟩ := (he.live_iff d).mp hmem
    rw [h.freeItem_eq hi hn]
    have hcount := countP_set (q := freed b n) hi
    refine ⟨⟨hc.size_pos, hc.num_pos, hc.num_le, hc.fits, hc.max_le⟩, by simp [hlen], ?_, ?_,
      h.free_entries hi hn⟩
    · simp only [Option.isSome_some, if_true] at hcount
      dsimp only
      cases hfreed : freed b n with
      | none =>
        rw [hfreed] at hcount
        simp at hcount ⊢
        omega
      | some c =>
        rw [hfreed] at hcount
        simp at hcount ⊢
        omega
    · dsimp only
      omega
  · have h0 : d = 0 := hd.resolve_right hmem
    have hres : eagBlkmemFreeItem m d = (m, .error .INPUT_PARAM_ERR) := by
      unfold eagBlkmemFreeItem
      rw [if_pos h0]
    rw [hres, List.erase_of_not_mem hmem]
    exact h

theorem step_inv {u : Use} {e : Event} (h : Inv u) (hl : Legal u e) : Inv (step u e) := by
  cases e with
  | malloc mem => exact malloc_inv h hl
  | free d => exact free_inv h hl

/-! ## The whole run -/

/-- The sizes for which a block does not wrap, and a number of blocks the array has room for. -/
def Fits (item_size item_num max_blk_num : Nat) : Prop :=
  sizeofEagBlk + item_size * (item_num + 1) < 2 ^ 32 ∧ max_blk_num ≤ MAX_BLK_NUM

instance {item_size item_num max_blk_num : Nat} :
    Decidable (Fits item_size item_num max_blk_num) := inferInstanceAs (Decidable (_ ∧ _))

theorem create_inv {item_size item_num max_blk_num : Nat} {m : EagBlkMem}
    (hf : Fits item_size item_num max_blk_num)
    (hm : eagBlkmemCreate item_size item_num max_blk_num = .ok m) : Inv ⟨m, []⟩ := by
  unfold eagBlkmemCreate at hm
  split at hm
  · cases hm
  · split at hm
    · cases hm
    · cases hm
      have hnone : ∀ (i : Nat) b,
          (List.replicate MAX_BLK_NUM (none : Option EagBlk))[i]? ≠ some (some b) := by
        intro i b hi
        have := List.eq_of_mem_replicate (List.mem_of_getElem? hi)
        cases this
      refine ⟨⟨by dsimp only; omega, by dsimp only; omega, by dsimp only; omega, hf.1, hf.2⟩,
        by simp, by simp [List.countP_replicate], Nat.zero_le _, ?_⟩
      refine ⟨fun i b hi => absurd hi (hnone i b),
        fun i j b c _ hi => absurd hi (hnone i b), List.nodup_nil, fun d => ?_⟩
      constructor
      · intro hd
        cases hd
      · rintro ⟨i, p, hi, b, n, rfl, -⟩
        exact absurd hi (hnone i b)

/-- Bitmaps, counters, block array and items in use agree. -/
structure Agree (u : Use) : Prop where
  free_num : ∀ b, some b ∈ u.mem.blk →
    (ones b.blk_item_flag).card ≤ b.item_num ∧
      b.free_num = b.item_num - (ones b.blk_item_flag).card
  /-- The bitmap search of a block with a free item gives a free slot below `item_num`. -/
  search : ∀ b, some b ∈ u.mem.blk → 0 < b.free_num →
    ∃ n < b.item_num, bit b.blk_item_flag n = false ∧
      (eagBlkMallocItem b).2 = some (itemAddr b n)
  live_nodup : u.live.Nodup
  /-- Items in use do not overlap. -/
  apart : ∀ d ∈ u.live, ∀ e ∈ u.live, d ≠ e →
    d + u.mem.blk_item_size ≤ e ∨ e + u.mem.blk_item_size ≤ d
  blk_num : u.mem.blk_num = u.mem.blk.countP Option.isSome
  /-- An item is refused, `eag_malloc` succeeding, only when all blocks exist and are full. -/
  grows : ∀ a, (eagBlkmemMallocItem u.mem (some a)).2 = none →
    u.mem.blk_num = u.mem.max_blk_num ∧ ∀ b, some b ∈ u.mem.blk → b.free_num = 0
  /-- A free changes the slot the item came from and nothing else; a block without items in use is
  given back. -/
  free : ∀ d ∈ u.live, ∃ (i : Nat) (b : EagBlk) (n : Nat), u.mem.blk[i]? = some (some b) ∧
    n < b.item_num ∧ bit b.blk_item_flag n = true ∧ d = itemAddr b n ∧
    (eagBlkmemFreeItem u.mem d).1.blk = u.mem.blk.set i (freed b n) ∧
    (eagBlkmemFreeItem u.mem d).2 = .ok () ∧
    (freed b n = none ↔ ∀ k, bit b.blk_item_flag k = true → k = n) ∧
    ∀ c, freed b n = some c → c.itemdata = b.itemdata ∧
      ∀ k, bit c.blk_item_flag k = (bit b.blk_item_flag k && decide (k ≠ n))

section
variable {sz num n : Nat} {b : EagBlk}

/-- The bits after a slot is released. -/
theorem BlkOk.bit_free (h : BlkOk sz num b) (hnum : num ≤ MAX_BLK_ITEM_NUM)
    (hbit : bit b.blk_item_flag n = true) (k : Nat) :
    bit (eagBlkFreeItem b n).blk_item_flag k = (bit b.blk_item_flag k && decide (k ≠ n)) := by
  have hin : n < 8 * b.blk_item_flag.length := by
    rw [h.length]
    exact ((h.bit_lt n hbit).trans_le hnum).trans_le (by decide)
  rw [BlkOk.free_eq hbit, bit_xorBit hin]
  by_cases hk : k = n <;> simp [hk, hbit]

/-- A block is given back when the slot released was the last one in use. -/
theorem BlkOk.freed_eq_none (h : BlkOk sz num b) (hnum : num ≤ MAX_BLK_ITEM_NUM) (hsz : 0 < sz)
    (hbit : bit b.blk_item_flag n = true) :
    freed b n = none ↔ ∀ k, bit b.blk_item_flag k = true → k = n := by
  obtain ⟨hfree, -, -⟩ := h.free hnum hsz hbit
  have hempty : freed b n = none ↔ ones (eagBlkFreeItem b n).blk_item_flag = ∅ := by
    have h1 := hfree.free_num
    have h2 := hfree.num_eq
    rw [← Finset.card_eq_zero]
    unfold freed
    split
    case isTrue hall =>
      have : (eagBlkFreeItem b n).free_num = (eagBlkFreeItem b n).item_num := by
        simpa [eagBlkIfAllFree] using hall
      exact iff_of_true rfl (by omega)
    case isFalse hall =>
      have : (eagBlkFreeItem b n).free_num ≠ (eagBlkFreeItem b n).item_num := by
        simpa [eagBlkIfAllFree] using hall
      exact iff_of_false (by simp) (by omega)
  rw [hempty, Finset.eq_empty_iff_forall_notMem]
  refine forall_congr' fun k => ?_
  rw [mem_ones_iff, h.bit_free hnum hbit]
  by_cases hk : k = n <;> simp [hk]

end

theorem Inv.agree {u : Use} (h : Inv u) : Agree u := by
  obtain ⟨m, live⟩ := u
  obtain ⟨hc, hlen, hnum, hle, he⟩ := id h
  dsimp only at hc hlen hnum hle he
  have hok : ∀ b, some b ∈ m.blk → BlkOk m.blk_item_size m.blk_item_num b := by
    intro b hb
    obtain ⟨i, hi⟩ := List.getElem?_of_mem hb
    exact he.ok i b hi
  refine ⟨?_, ?_, he.live_nodup, ?_, hnum, ?_, ?_⟩
  · intro b hb
    have h1 := (hok b hb).free_num
    have h2 := (hok b hb).num_eq
    omega
  · intro b hb hpos
    obtain ⟨-, hlt, hclear⟩ := (hok b hb).first_lt hc.num_le hpos
    refine ⟨_, (hok b hb).num_eq ▸ hlt, hclear, ?_⟩
    rw [(hok b hb).malloc_eq hc.num_le hpos]
  · intro d hd e hde hne
    obtain ⟨i, p, hi, hp⟩ := (he.live_iff d).mp hd
    obtain ⟨j, q, hj, hq⟩ := (he.live_iff e).mp hde
    obtain ⟨b, n, rfl, hn, rfl⟩ := id hp
    obtain ⟨c, k, rfl, hk, rfl⟩ := id hq
    have hb := he.ok i b hi
    by_cases hij : i = j
    · subst hij
      rw [hi] at hj
      cases hj
      have hnk : n ≠ k := fun hnk => hne (by rw [hnk])
      simp only [itemAddr, hb.size_eq]
      rcases Nat.lt_or_gt_of_ne hnk with hlt | hlt
      · left
        have := Nat.mul_le_mul_right m.blk_item_size hlt
        simp only [Nat.succ_mul] at this
        omega
      · right
        have := Nat.mul_le_mul_right m.blk_item_size hlt
        simp only [Nat.succ_mul] at this
        omega
    · have h1 := hb.item_bounds hp
      have h2 := (he.ok j c hj).item_bounds hq
      rcases he.apart i j b c hij hi hj with h3 | h3
      · left; dsimp only; omega
      · right; dsimp only; omega
  · intro a ha
    dsimp only at ha ⊢
    cases hg : eagBlkmemGetBlkHasFree m with
    | some r =>
      obtain ⟨i, b⟩ := r
      obtain ⟨hi, hpos⟩ := getBlkHasFree_some hg
      simp only [eagBlkmemMallocItem, hg, (he.ok i b hi).malloc_eq hc.num_le hpos] at ha
      cases ha
    | none =>
      refine ⟨?_, getBlkHasFree_none hg⟩
      by_contra hlt
      have hmax : eagBlkmemIfHasMaxBlk m = false := by
        simp [eagBlkmemIfHasMaxBlk]
        omega
      have hroom : m.blk_num < m.blk.length := by
        have := hc.max_le
        omega
      obtain ⟨b, hcreate, hb, -, hfree⟩ := create_ok (a := a) hc.size_pos hc.num_pos hc.num_le
      obtain ⟨i, -, hadd⟩ := addBlk_ok hnum hroom b
      have hpos : 0 < b.free_num := hfree ▸ hc.num_pos
      simp only [eagBlkmemMallocItem, hg, hmax, hcreate, hadd, hb.malloc_eq hc.num_le hpos] at ha
      cases ha
  · intro d hd
    obtain ⟨i, p, hi, b, n, rfl, hn, rfl⟩ := (he.live_iff d).mp hd
    have hb := he.ok i b hi
    refine ⟨i, b, n, hi, hb.num_eq ▸ hb.bit_lt n hn, hn, rfl, ?_, ?_,
      hb.freed_eq_none hc.num_le hc.size_pos hn, ?_⟩
    · rw [h.freeItem_eq hi hn]
    · rw [h.freeItem_eq hi hn]
    · intro c hcb
      obtain rfl : eagBlkFreeItem b n = c := by
        unfold freed at hcb
        split at hcb
        · cases hcb
        · exact Option.some.inj hcb
      exact ⟨by rw [BlkOk.free_eq hn], hb.bit_free hc.num_le hn⟩

/-- In every state that users of an allocator can bring it to, bitmaps, counters, block array and
items in use agree. -/
theorem blkmem_agrees {item_size item_num max_blk_num : Nat} {m : EagBlkMem} {es : List Event}
    (hf : Fits item_size item_num max_blk_num)
    (hm : eagBlkmemCreate item_size item_num max_blk_num = .ok m)
    (hl : Obeys step Legal ⟨m, []⟩ es) : Agree (run step ⟨m, []⟩ es) :=
  Inv.agree (hl.run_inv (fun _ _ => step_inv) (create_inv hf hm))

/-- Ten-item blocks, two of them at most: twelve items are taken, so that a second block is made,
and the first one is given back. -/
def sampleUse : List Event :=
  [.malloc (some 4096)] ++ List.replicate 9 (.malloc none) ++ [.malloc (some 8192), .malloc none,
    .free 4256]

def sampleMem : EagBlkMem where
  blk_item_size := 16
  blk_item_num := 10
  max_blk_num := 2
  blk_num := 0
  blk := List.replicate MAX_BLK_NUM none

theorem blkmem_agrees_sample :
    (run step ⟨sampleMem, []⟩ sampleUse).live.length = 11 ∧
      Agree (run step ⟨sampleMem, []⟩ sampleUse) :=
  have hf : Fits 16 10 2 := by decide
  have hm : eagBlkmemCreate 16 10 2 = .ok sampleMem := rfl
  ⟨by decide +kernel, blkmem_agrees hf hm (by decide +kernel)⟩

end Blkmem
end DaemonGroup
