import DaemonGroup.Pppoe.MemCache
import Mathlib.Data.Finset.Card
import Mathlib.Data.Set.Insert
import Mathlib.Data.List.Perm.Basic
import Mathlib.Algebra.Order.Ring.Nat
import Mathlib.Tactic.Linarith
import Mathlib.Tactic.Ring
import Mathlib.Tactic.Tauto

/-!
# DaemonGroup.Pppoe.Slab

The slab cache keeps its lists, counters and free chains in agreement.

The slots of a block are numbered from its first item on. The invariant says of each block which
slots were handed out at least once (`used`) and which of those came back (`back`, in the order of
the `recover` chain); a slot is live when it was handed out and did not come back (`Taken`).

* `BlkInv.take`, `BlkInv.give` — what taking and giving back one item does to its block.
* `Listed.del`, `Listed.full`, `Listed.part`, `Listed.empty` — how a block moves between the lists.
* `alloc_inv`, `free_inv`, `create_inv` — the operations keep the invariant.
-/

namespace DaemonGroup
namespace MemCache

open Lib

/-! ## One block -/

/-- The address of item `k`. -/
def slot (sz : Nat) (blk : MemBlk) (k : Nat) : Nat := blk.frist + k * sz

/-- Slot `k` is handed out and not on the `recover` chain. -/
def Taken (used : Nat) (back : List Nat) (k : Nat) : Prop := k < used ∧ k ∉ back

/-- The block at `b`, for items of `sz` bytes, `num` of them: the slots below `used` were handed
out, those in `back` came back. -/
structure BlkInv (sz num : Nat) (priv : Nat → Nat) (b : Nat) (blk : MemBlk) (used : Nat)
    (back : List Nat) : Prop where
  used_le : used ≤ num
  free_eq : blk.free = slot sz blk used
  free_num : blk.free_num + used = num + back.length
  chain : Chain priv blk.recover (back.map (slot sz blk)) 0
  back_lt : ∀ k ∈ back, k < used
  back_nodup : back.Nodup
  first_gt : b + sizeofMemBlk < blk.frist
  first_le : blk.frist ≤ b + sizeofMemBlk + sz
  priv_eq : ∀ k, Taken used back k → priv (slot sz blk k) = b

section
variable {sz num : Nat} {priv : Nat → Nat} {b : Nat} {blk : MemBlk} {used : Nat}
  {back : List Nat}

theorem slot_inj (hsz : 0 < sz) {j k : Nat} (h : slot sz blk j = slot sz blk k) : j = k := by
  have h' : j * sz = k * sz := by simp only [slot] at h; omega
  exact Nat.eq_of_mul_eq_mul_right hsz h'

theorem BlkInv.slot_ne_zero (h : BlkInv sz num priv b blk used back) (k : Nat) :
    slot sz blk k ≠ 0 := by
  have := h.first_gt
  simp only [slot]
  omega

theorem slot_not_mem (hsz : 0 < sz) {k : Nat} {l : List Nat} (hk : k ∉ l) :
    slot sz blk k ∉ l.map (slot sz blk) := by
  intro hm
  obtain ⟨j, hj, he⟩ := List.mem_map.mp hm
  exact hk (slot_inj hsz he ▸ hj)

/-- Every item of the block lies in its area. -/
theorem BlkInv.slot_bounds (h : BlkInv sz num priv b blk used back) {k : Nat} (hk : k < num) :
    b + sizeofMemBlk < slot sz blk k ∧
      slot sz blk k + sz ≤ b + (sizeofMemBlk + sz * (num + 1)) := by
  have h1 := h.first_gt
  have h2 := h.first_le
  have h3 : (k + 1) * sz ≤ num * sz := Nat.mul_le_mul_right sz hk
  simp only [slot]
  constructor
  · omega
  · have e1 : (k + 1) * sz = k * sz + sz := by ring
    have e2 : sz * (num + 1) = num * sz + sz := by ring
    omega

/-- A store to a `priv` word that is none of the block's own leaves the block as it is. -/
theorem BlkInv.update (h : BlkInv sz num priv b blk used back) {x v : Nat}
    (hx : ∀ k < num, slot sz blk k ≠ x) :
    BlkInv sz num (Function.update priv x v) b blk used back := by
  have hlt : ∀ k < used, slot sz blk k ≠ x := fun k hk => hx k (hk.trans_le h.used_le)
  refine { h with chain := h.chain.update ?_, priv_eq := ?_ }
  · intro hm
    obtain ⟨k, hk, he⟩ := List.mem_map.mp hm
    exact hlt k (h.back_lt k hk) he
  · intro k hk
    rw [Function.update_of_ne (hlt k hk.1)]
    exact h.priv_eq k hk

/-- All slots of a block with `free_num = item_num` are free. -/
theorem BlkInv.none_taken (h : BlkInv sz num priv b blk used back) (hn : blk.free_num = num)
    (k : Nat) : ¬ Taken used back k := by
  intro hk
  have hsub : back.toFinset ⊆ Finset.range used := by
    intro j hj
    exact Finset.mem_range.mpr (h.back_lt j (List.mem_toFinset.mp hj))
  have hcard : (Finset.range used).card ≤ back.toFinset.card := by
    rw [Finset.card_range, List.toFinset_card_of_nodup h.back_nodup]
    have := h.free_num
    omega
  have heq := Finset.eq_of_subset_of_card_le hsub hcard
  have : k ∈ back.toFinset := heq ▸ Finset.mem_range.mpr hk.1
  exact hk.2 (List.mem_toFinset.mp this)

/-- The slots that came back are as many as were handed out at most. -/
theorem BlkInv.length_le (h : BlkInv sz num priv b blk used back) : back.length ≤ used := by
  have hsub : back.toFinset ⊆ Finset.range used := by
    intro j hj
    exact Finset.mem_range.mpr (h.back_lt j (List.mem_toFinset.mp hj))
  have := Finset.card_le_card hsub
  rwa [Finset.card_range, List.toFinset_card_of_nodup h.back_nodup] at this

/-- A block with a live slot has fewer than `item_num` free ones. -/
theorem BlkInv.free_num_lt (h : BlkInv sz num priv b blk used back) {k : Nat}
    (hk : Taken used back k) : blk.free_num < num := by
  have h1 := h.length_le
  have h2 := h.free_num
  have h3 : blk.free_num ≠ num := fun hn => h.none_taken hn k hk
  omega

/-- The header of the block after `__blk_alloc_item`. -/
def takeBlk (sz : Nat) (priv : Nat → Nat) (blk : MemBlk) : MemBlk :=
  let item := nextItem blk
  let blk' :=
    if blk.recover ≠ 0 then { blk with recover := priv item } else { blk with free := item + sz }
  { blk' with free_num := blk'.free_num - 1 }

@[simp] theorem takeBlk_free_num : (takeBlk sz priv blk).free_num = blk.free_num - 1 := by
  unfold takeBlk
  by_cases h : blk.recover = 0 <;> simp [h]

@[simp] theorem takeBlk_slot {k : Nat} : slot sz (takeBlk sz priv blk) k = slot sz blk k := by
  unfold takeBlk
  by_cases h : blk.recover = 0 <;> simp [h, slot]

/-- Taking an item: it was free, it is the only slot that becomes live, and the block stays in
order. -/
theorem BlkInv.take (hsz : 0 < sz) (h : BlkInv sz num priv b blk used back)
    (hpos : 0 < blk.free_num) :
    ∃ k used' back', nextItem blk = slot sz blk k ∧ k < num ∧ ¬ Taken used back k ∧
      (∀ j, Taken used' back' j ↔ Taken used back j ∨ j = k) ∧
      BlkInv sz num (Function.update priv (nextItem blk) b) b (takeBlk sz priv blk) used' back' := by
  cases back with
  | cons k back =>
    -- the first slot of the `recover` chain
    have hrec : blk.recover = slot sz blk k := h.chain.1
    have hne : blk.recover ≠ 0 := hrec ▸ h.slot_ne_zero k
    have hitem : nextItem blk = slot sz blk k := by rw [nextItem, if_pos hne, hrec]
    have htake : takeBlk sz priv blk =
        { blk with recover := priv (slot sz blk k), free_num := blk.free_num - 1 } := by
      simp [takeBlk, hne, hitem]
    have hkb : k ∉ back := (List.nodup_cons.mp h.back_nodup).1
    have hku : k < used := h.back_lt k (by simp)
    refine ⟨k, used, back, hitem, hku.trans_le h.used_le, by simp [Taken], ?_, ?_⟩
    · intro j
      simp only [Taken, List.mem_cons, not_or]
      constructor
      · rintro ⟨h1, h2⟩
        by_cases hj : j = k
        · exact .inr hj
        · exact .inl ⟨h1, hj, h2⟩
      · rintro (⟨h1, -, h2⟩ | rfl)
        · exact ⟨h1, h2⟩
        · exact ⟨hku, hkb⟩
    · rw [hitem, htake]
      refine ⟨h.used_le, h.free_eq, ?_, h.chain.2.update (slot_not_mem hsz hkb),
        fun j hj => h.back_lt j (by simp [hj]), (List.nodup_cons.mp h.back_nodup).2,
        h.first_gt, h.first_le, ?_⟩
      · have := h.free_num
        simp only [List.length_cons] at this
        show blk.free_num - 1 + used = num + back.length
        omega
      · intro j hj
        show Function.update priv (slot sz blk k) b (slot sz blk j) = b
        by_cases hjk : j = k
        · simp [hjk]
        · have hs : slot sz blk j ≠ slot sz blk k := fun he => hjk (slot_inj hsz he)
          rw [Function.update_of_ne hs]
          exact h.priv_eq j ⟨hj.1, by simp [hjk, hj.2]⟩
  | nil =>
    -- no slot came back: the one `free` points to
    have hrec : blk.recover = 0 := h.chain
    have hitem : nextItem blk = slot sz blk used := by simp [nextItem, hrec, h.free_eq]
    have htake : takeBlk sz priv blk =
        { blk with free := slot sz blk used + sz, free_num := blk.free_num - 1 } := by
      simp [takeBlk, hrec, hitem]
    have hlt : used < num := by
      have := h.free_num
      simp only [List.length_nil] at this
      omega
    refine ⟨used, used + 1, [], hitem, hlt, by simp [Taken], ?_, ?_⟩
    · intro j
      simp only [Taken, List.not_mem_nil, not_false_eq_true, and_true]
      omega
    · rw [hitem, htake]
      refine ⟨hlt, ?_, ?_, hrec, by simp, by simp, h.first_gt, h.first_le, ?_⟩
      · show slot sz blk used + sz = blk.frist + (used + 1) * sz
        simp only [slot]
        ring
      · have := h.free_num
        simp only [List.length_nil] at this ⊢
        show blk.free_num - 1 + (used + 1) = num + 0
        omega
      · intro j hj
        show Function.update priv (slot sz blk used) b (slot sz blk j) = b
        by_cases hju : j = used
        · simp [hju]
        · have hs : slot sz blk j ≠ slot sz blk used := fun he => hju (slot_inj hsz he)
          rw [Function.update_of_ne hs]
          exact h.priv_eq j ⟨by have := hj.1; omega, by simp⟩

/-- The header of the block after `__blk_free_item`. -/
def giveBlk (blk : MemBlk) (item : Nat) : MemBlk :=
  { blk with recover := item, free_num := blk.free_num + 1 }

/-- Giving back a live item: it goes to the front of the `recover` chain. -/
theorem BlkInv.give (hsz : 0 < sz) (h : BlkInv sz num priv b blk used back) {k : Nat}
    (hk : Taken used back k) :
    (∀ j, Taken used (k :: back) j ↔ Taken used back j ∧ j ≠ k) ∧
      BlkInv sz num (Function.update priv (slot sz blk k) blk.recover) b
        (giveBlk blk (slot sz blk k)) used (k :: back) := by
  constructor
  · intro j
    simp only [Taken, List.mem_cons, not_or]
    tauto
  · refine ⟨h.used_le, h.free_eq, ?_, ⟨rfl, ?_⟩, ?_, List.nodup_cons.mpr ⟨hk.2, h.back_nodup⟩,
      h.first_gt, h.first_le, ?_⟩
    · have := h.free_num
      show blk.free_num + 1 + used = num + (k :: back).length
      simp only [List.length_cons]
      omega
    · show Chain _ (Function.update priv (slot sz blk k) blk.recover (slot sz blk k))
        (back.map (slot sz blk)) 0
      rw [Function.update_self]
      exact h.chain.update (slot_not_mem hsz hk.2)
    · intro j hj
      rcases List.mem_cons.mp hj with rfl | hj
      · exact hk.1
      · exact h.back_lt j hj
    · intro j hj
      have hjk : j ≠ k := fun he => hj.2 (by simp [he])
      have hs : slot sz blk j ≠ slot sz blk k := fun he => hjk (slot_inj hsz he)
      show Function.update priv (slot sz blk k) blk.recover (slot sz blk j) = b
      rw [Function.update_of_ne hs]
      exact h.priv_eq j ⟨hj.1, fun hm => hj.2 (by simp [hm])⟩

/-- A block as `mem_blk_create` makes it, and as `mem_cache_free` resets it; `f` is its first
item. -/
def bareBlk (num f : Nat) : MemBlk := { free_num := num, frist := f, free := f, recover := 0 }

theorem BlkInv.fresh {f : Nat} (hgt : b + sizeofMemBlk < f) (hle : f ≤ b + sizeofMemBlk + sz) :
    BlkInv sz num priv b (bareBlk num f) 0 [] where
  used_le := Nat.zero_le _
  free_eq := by simp [slot, bareBlk]
  free_num := by simp [bareBlk]
  chain := rfl
  back_lt := by simp
  back_nodup := by simp
  first_gt := hgt
  first_le := hle
  priv_eq k hk := absurd hk.1 (Nat.not_lt_zero k)

end

/-! ## The three lists -/

/-- The blocks `H` are on the lists that `num`, their `free_num`, says; `n` is `item_num`. -/
structure Listed (n : Nat) (c : Cache) (H : Set Nat) (num : Nat → Nat) : Prop where
  full_nodup : c.full_head.Nodup
  partial_nodup : c.partial_head.Nodup
  empty_nodup : c.empty_head.Nodup
  mem_full : ∀ b, b ∈ c.full_head ↔ b ∈ H ∧ num b = 0
  mem_partial : ∀ b, b ∈ c.partial_head ↔ b ∈ H ∧ 0 < num b ∧ num b < n
  mem_empty : ∀ b, b ∈ c.empty_head ↔ b ∈ H ∧ num b = n

section
variable {n : Nat} {c : Cache} {H : Set Nat} {num num' : Nat → Nat} {b : Nat}

theorem Listed.congr (h : Listed n c H num) (he : ∀ a ∈ H, num' a = num a) :
    Listed n c H num' := by
  refine ⟨h.full_nodup, h.partial_nodup, h.empty_nodup, ?_, ?_, ?_⟩
  · intro a
    rw [h.mem_full]
    exact and_congr_right fun ha => by rw [he a ha]
  · intro a
    rw [h.mem_partial]
    exact and_congr_right fun ha => by rw [he a ha]
  · intro a
    rw [h.mem_empty]
    exact and_congr_right fun ha => by rw [he a ha]

/-- The lists read only the list fields. -/
theorem Listed.of_lists (h : Listed n c H num) {c' : Cache} (hf : c'.full_head = c.full_head)
    (hp : c'.partial_head = c.partial_head) (he : c'.empty_head = c.empty_head) :
    Listed n c' H num := by
  refine ⟨?_, ?_, ?_, ?_, ?_, ?_⟩
  · rw [hf]; exact h.full_nodup
  · rw [hp]; exact h.partial_nodup
  · rw [he]; exact h.empty_nodup
  · rw [hf]; exact h.mem_full
  · rw [hp]; exact h.mem_partial
  · rw [he]; exact h.mem_empty

/-- `list_del` takes a block off its list. -/
theorem Listed.del (h : Listed n c H num) (b : Nat) : Listed n (listDel c b) (H \ {b}) num := by
  refine ⟨h.full_nodup.erase b, h.partial_nodup.erase b, h.empty_nodup.erase b, ?_, ?_, ?_⟩
  · intro a
    simp only [listDel, h.full_nodup.mem_erase_iff, h.mem_full, Set.mem_sdiff,
      Set.mem_singleton_iff]
    tauto
  · intro a
    simp only [listDel, h.partial_nodup.mem_erase_iff, h.mem_partial, Set.mem_sdiff,
      Set.mem_singleton_iff]
    tauto
  · intro a
    simp only [listDel, h.empty_nodup.mem_erase_iff, h.mem_empty, Set.mem_sdiff,
      Set.mem_singleton_iff]
    tauto

/-- A new block without `P` is none of the blocks with `P`. -/
theorem insert_off {P : Nat → Prop} (hb : ¬ P b) (a : Nat) :
    a ∈ H ∧ P a ↔ a ∈ insert b H ∧ P a := by
  rw [Set.mem_insert_iff]
  constructor
  · exact fun ha => ⟨.inr ha.1, ha.2⟩
  · rintro ⟨rfl | ha, h'⟩
    · exact absurd h' hb
    · exact ⟨ha, h'⟩

theorem insert_on {P : Nat → Prop} (hb : P b) (a : Nat) :
    a = b ∨ a ∈ H ∧ P a ↔ a ∈ insert b H ∧ P a := by
  rw [Set.mem_insert_iff]
  constructor
  · rintro (rfl | ha)
    · exact ⟨.inl rfl, hb⟩
    · exact ⟨.inr ha.1, ha.2⟩
  · rintro ⟨rfl | ha, h'⟩
    · exact .inl rfl
    · exact .inr ⟨ha, h'⟩

theorem Listed.full (hn : 0 < n) (h : Listed n c H num) (hb : b ∉ H) (h0 : num b = 0) :
    Listed n { c with full_head := b :: c.full_head } (insert b H) num := by
  have hne : b ∉ c.full_head := fun hm => hb ((h.mem_full b).mp hm).1
  refine ⟨List.nodup_cons.mpr ⟨hne, h.full_nodup⟩, h.partial_nodup, h.empty_nodup,
    fun a => ?_, fun a => ?_, fun a => ?_⟩
  · rw [List.mem_cons, h.mem_full]
    exact insert_on (P := fun b => num b = 0) h0 a
  · rw [h.mem_partial]
    exact insert_off (P := fun b => 0 < num b ∧ num b < n) (by omega) a
  · rw [h.mem_empty]
    exact insert_off (P := fun b => num b = n) (by omega) a

theorem Listed.part (h : Listed n c H num) (hb : b ∉ H) (h0 : 0 < num b) (h1 : num b < n) :
    Listed n { c with partial_head := b :: c.partial_head } (insert b H) num := by
  have hne : b ∉ c.partial_head := fun hm => hb ((h.mem_partial b).mp hm).1
  refine ⟨h.full_nodup, List.nodup_cons.mpr ⟨hne, h.partial_nodup⟩, h.empty_nodup,
    fun a => ?_, fun a => ?_, fun a => ?_⟩
  · rw [h.mem_full]
    exact insert_off (P := fun b => num b = 0) (by omega) a
  · rw [List.mem_cons, h.mem_partial]
    exact insert_on (P := fun b => 0 < num b ∧ num b < n) ⟨h0, h1⟩ a
  · rw [h.mem_empty]
    exact insert_off (P := fun b => num b = n) (by omega) a

/-- A block becomes empty; `list_add` and `list_add_tail` differ in the place only. -/
theorem Listed.empty (hn : 0 < n) (h : Listed n c H num) (hb : b ∉ H) (h0 : num b = n)
    {l : List Nat} (hl : l.Perm (b :: c.empty_head)) :
    Listed n { c with empty_head := l } (insert b H) num := by
  have hne : b ∉ c.empty_head := fun hm => hb ((h.mem_empty b).mp hm).1
  refine ⟨h.full_nodup, h.partial_nodup,
    hl.nodup_iff.mpr (List.nodup_cons.mpr ⟨hne, h.empty_nodup⟩),
    fun a => ?_, fun a => ?_, fun a => ?_⟩
  · rw [h.mem_full]
    exact insert_off (P := fun b => num b = 0) (by omega) a
  · rw [h.mem_partial]
    exact insert_off (P := fun b => 0 < num b ∧ num b < n) (by omega) a
  · rw [hl.mem_iff, List.mem_cons, h.mem_empty]
    exact insert_on (P := fun b => num b = n) h0 a

/-- A block of which an item is taken goes to the list it belongs on then. -/
theorem Listed.taken (hn : 0 < n) (h : Listed n c H num) (hb : b ∉ H) {m : Nat} (hm : 0 < m)
    (hmn : m ≤ n) (hnum : num' b = m - 1) (he : ∀ a ∈ H, num' a = num a) :
    Listed n (listTaken c m b) (insert b H) num' := by
  have h' := h.congr he
  unfold listTaken
  split
  · exact h'.full hn hb (by omega)
  · exact h'.part hb (by omega) (by omega)

/-- A block stays on `partial_head`. -/
theorem Listed.stay (h : Listed n c H num) (hb : 0 < num b ∧ num b < n)
    (hb' : 0 < num' b ∧ num' b < n) (he : ∀ a, a ≠ b → num' a = num a) : Listed n c H num' := by
  refine ⟨h.full_nodup, h.partial_nodup, h.empty_nodup, fun a => ?_, fun a => ?_, fun a => ?_⟩
  · rw [h.mem_full]
    by_cases hab : a = b
    · subst hab; omega
    · rw [he a hab]
  · rw [h.mem_partial]
    by_cases hab : a = b
    · subst hab; simp [hb, hb']
    · rw [he a hab]
  · rw [h.mem_empty]
    by_cases hab : a = b
    · subst hab; omega
    · rw [he a hab]

/-- `list_del` of a block that is not empty leaves `empty_head` as it is. -/
theorem Listed.del_empty_of_ne (h : Listed n c H num) (hb : num b ≠ n) :
    (listDel c b).empty_head = c.empty_head :=
  List.erase_of_not_mem fun hm => hb ((h.mem_empty b).mp hm).2

/-- The three lists together are the blocks. -/
theorem Listed.perm {heap : List Nat} (hn : 0 < n) (h : Listed n c {b | b ∈ heap} num)
    (hle : ∀ b ∈ heap, num b ≤ n) (hd : heap.Nodup) :
    heap.Perm (c.full_head ++ c.partial_head ++ c.empty_head) := by
  have hnodup : (c.full_head ++ c.partial_head ++ c.empty_head).Nodup := by
    refine List.nodup_append.mpr ⟨List.nodup_append.mpr ⟨h.full_nodup, h.partial_nodup, ?_⟩,
      h.empty_nodup, ?_⟩
    · rintro a ha b hb rfl
      have h1 := ((h.mem_full a).mp ha).2
      have h2 := ((h.mem_partial a).mp hb).2.1
      omega
    · rintro a ha b hb rfl
      have h2 := ((h.mem_empty a).mp hb).2
      rcases List.mem_append.mp ha with ha | ha
      · have h1 := ((h.mem_full a).mp ha).2
        omega
      · have h1 := ((h.mem_partial a).mp ha).2.2
        omega
  refine (List.perm_ext_iff_of_nodup hd hnodup).mpr fun a => ?_
  simp only [List.mem_append, h.mem_full, h.mem_partial, h.mem_empty, Set.mem_ofPred_eq]
  constructor
  · intro ha
    have := hle a ha
    rcases Nat.eq_zero_or_pos (num a) with h0 | h0
    · exact .inl (.inl ⟨ha, h0⟩)
    · rcases Nat.lt_or_ge (num a) n with h1 | h1
      · exact .inl (.inr ⟨ha, h0, h1⟩)
      · exact .inr ⟨ha, by omega⟩
  · rintro ((ha | ha) | ha) <;> exact ha.1

end

/-! ## All blocks -/

/-- The blocks of the heap lie apart, each is in order, and the items in use are their live
slots. -/
structure Blocks (sz num : Nat) (heap : List Nat) (blk : Nat → MemBlk) (priv : Nat → Nat)
    (live : List Nat) (used : Nat → Nat) (back : Nat → List Nat) : Prop where
  nodup : heap.Nodup
  apart : ∀ a ∈ heap, ∀ b ∈ heap, a ≠ b →
    a + (sizeofMemBlk + sz * (num + 1)) ≤ b ∨ b + (sizeofMemBlk + sz * (num + 1)) ≤ a
  blks : ∀ b ∈ heap, BlkInv sz num priv b (blk b) (used b) (back b)
  live_nodup : live.Nodup
  live_iff : ∀ d, d ∈ live ↔ ∃ b ∈ heap, ∃ k,
    Taken (used b) (back b) k ∧ d = slot sz (blk b) k + sizeofMemItem

section
variable {sz num : Nat} {heap : List Nat} {blk : Nat → MemBlk} {priv : Nat → Nat}
  {live : List Nat} {used : Nat → Nat} {back : Nat → List Nat}

/-- Slots of different blocks are apart by an item at least. -/
theorem Blocks.slot_apart (h : Blocks sz num heap blk priv live used back) {a b j k : Nat}
    (ha : a ∈ heap) (hb : b ∈ heap) (hne : a ≠ b) (hj : j < num) (hk : k < num) :
    slot sz (blk a) j + sz ≤ slot sz (blk b) k ∨ slot sz (blk b) k + sz ≤ slot sz (blk a) j := by
  have h1 := (h.blks a ha).slot_bounds hj
  have h2 := (h.blks b hb).slot_bounds hk
  rcases h.apart a ha b hb hne with h3 | h3
  · left; omega
  · right; omega

theorem Blocks.slot_ne (hsz : 0 < sz) (h : Blocks sz num heap blk priv live used back)
    {a b j k : Nat} (ha : a ∈ heap) (hb : b ∈ heap) (hne : a ≠ b) (hj : j < num) (hk : k < num) :
    slot sz (blk a) j ≠ slot sz (blk b) k := by
  rcases h.slot_apart ha hb hne hj hk with h1 | h1 <;> omega

theorem Blocks.taken_lt (h : Blocks sz num heap blk priv live used back) {b k : Nat}
    (hb : b ∈ heap) (hk : Taken (used b) (back b) k) : k < num :=
  hk.1.trans_le (h.blks b hb).used_le

/-- The blocks after a change to block `b` and to the `priv` word of its slot `k`. -/
theorem Blocks.change (hsz : 0 < sz) (h : Blocks sz num heap blk priv live used back)
    {b k v : Nat} (hb : b ∈ heap) (hk : k < num) {x : MemBlk} {m : Nat} {l : List Nat}
    (hx : BlkInv sz num (Function.update priv (slot sz (blk b) k) v) b x m l) :
    ∀ a ∈ heap, BlkInv sz num (Function.update priv (slot sz (blk b) k) v) a
      (Function.update blk b x a) (Function.update used b m a) (Function.update back b l a) := by
  intro a ha
  by_cases hab : a = b
  · subst hab
    simpa using hx
  · rw [Function.update_of_ne hab, Function.update_of_ne hab, Function.update_of_ne hab]
    exact (h.blks a ha).update fun j hj => h.slot_ne hsz ha hb hab hj hk

/-- `__blk_alloc_item` hands out an item nobody holds. -/
theorem Blocks.take (hsz : 0 < sz) (h : Blocks sz num heap blk priv live used back) {b : Nat}
    (hb : b ∈ heap) (hpos : 0 < (blk b).free_num) :
    ∃ used' back', Blocks sz num heap (Function.update blk b (takeBlk sz priv (blk b)))
      (Function.update priv (nextItem (blk b)) b)
      ((nextItem (blk b) + sizeofMemItem) :: live) used' back' := by
  obtain ⟨k, m, l, hitem, hk, hfree, htaken, hblk⟩ := (h.blks b hb).take hsz hpos
  rw [hitem] at hblk ⊢
  refine ⟨Function.update used b m, Function.update back b l, h.nodup, h.apart,
    h.change hsz hb hk hblk, List.nodup_cons.mpr ⟨?_, h.live_nodup⟩, ?_⟩
  · intro hm
    obtain ⟨a, ha, j, hj, he⟩ := (h.live_iff _).mp hm
    by_cases hab : a = b
    · subst hab
      have : k = j := slot_inj hsz (Nat.add_right_cancel he)
      exact hfree (this ▸ hj)
    · exact h.slot_ne hsz ha hb hab (h.taken_lt ha hj) hk (by omega)
  · intro d
    rw [List.mem_cons, h.live_iff]
    constructor
    · rintro (rfl | ⟨a, ha, j, hj, rfl⟩)
      · exact ⟨b, hb, k, by simpa using (htaken k).mpr (.inr rfl), by simp⟩
      · refine ⟨a, ha, j, ?_, ?_⟩
        · by_cases hab : a = b
          · subst hab
            simpa using (htaken j).mpr (.inl hj)
          · simpa [hab] using hj
        · by_cases hab : a = b
          · subst hab
            simp
          · simp [hab]
    · rintro ⟨a, ha, j, hj, rfl⟩
      by_cases hab : a = b
      · subst hab
        simp only [Function.update_self] at hj ⊢
        rcases (htaken j).mp hj with hj | rfl
        · exact .inr ⟨a, ha, j, hj, by simp⟩
        · exact .inl (by simp)
      · simp only [Function.update_of_ne hab] at hj ⊢
        exact .inr ⟨a, ha, j, hj, rfl⟩

/-- A held item knows its block, which is not empty; giving it back keeps all blocks in order. -/
theorem Blocks.give (hsz : 0 < sz) (h : Blocks sz num heap blk priv live used back) {d : Nat}
    (hd : d ∈ live) :
    ∃ b ∈ heap, priv (d - sizeofMemItem) = b ∧ d ≠ 0 ∧ (blk b).free_num < num ∧
      ∃ used' back', Blocks sz num heap
        (Function.update blk b (giveBlk (blk b) (d - sizeofMemItem)))
        (Function.update priv (d - sizeofMemItem) (blk b).recover) (live.erase d) used' back' := by
  obtain ⟨b, hb, k, hk, rfl⟩ := (h.live_iff d).mp hd
  have hblk := h.blks b hb
  rw [Nat.add_sub_cancel]
  obtain ⟨htaken, hgive⟩ := hblk.give hsz hk
  refine ⟨b, hb, hblk.priv_eq k hk, by simp [sizeofMemItem], hblk.free_num_lt hk,
    Function.update used b (used b), Function.update back b (k :: back b), h.nodup, h.apart,
    h.change hsz hb (h.taken_lt hb hk) hgive, h.live_nodup.erase _, ?_⟩
  intro d
  rw [h.live_nodup.mem_erase_iff, h.live_iff]
  constructor
  · rintro ⟨hne, a, ha, j, hj, rfl⟩
    refine ⟨a, ha, j, ?_, ?_⟩
    · by_cases hab : a = b
      · subst hab
        simpa using (htaken j).mpr ⟨hj, fun he => hne (by rw [he])⟩
      · simpa [hab] using hj
    · by_cases hab : a = b
      · subst hab
        simp [giveBlk, slot]
      · simp [hab]
  · rintro ⟨a, ha, j, hj, rfl⟩
    by_cases hab : a = b
    · subst hab
      simp only [Function.update_self] at hj ⊢
      obtain ⟨hj, hjk⟩ := (htaken j).mp hj
      exact ⟨fun he => hjk (slot_inj hsz (Nat.add_right_cancel he)), a, ha, j, hj, rfl⟩
    · simp only [Function.update_of_ne hab] at hj ⊢
      refine ⟨fun he => ?_, a, ha, j, hj, rfl⟩
      exact h.slot_ne hsz ha hb hab (h.taken_lt ha hj) (h.taken_lt hb hk) (by omega)

/-- The first item starts after the header, at most one item later. -/
theorem firstItem_bounds (a : Nat) (hsz : 0 < sz) :
    a + sizeofMemBlk < firstItem a sz ∧ firstItem a sz ≤ a + sizeofMemBlk + sz := by
  have h1 : (a + sizeofMemBlk) % 2 ^ 32 &&& (sz - 1) ≤ sz - 1 := Nat.and_le_right
  have h2 : (a + sizeofMemBlk) % 2 ^ 32 &&& (sz - 1) ≤ (a + sizeofMemBlk) % 2 ^ 32 :=
    Nat.and_le_left
  have h3 : (a + sizeofMemBlk) % 2 ^ 32 ≤ a + sizeofMemBlk := Nat.mod_le _ _
  simp only [firstItem]
  omega

/-- `mem_blk_create`: a block nobody holds an item of. -/
theorem Blocks.create (hsz : 0 < sz) (h : Blocks sz num heap blk priv live used back) {a : Nat}
    (ha : ∀ b ∈ heap, b + (sizeofMemBlk + sz * (num + 1)) ≤ a ∨
      a + (sizeofMemBlk + sz * (num + 1)) ≤ b) :
    a ∉ heap ∧ Blocks sz num (a :: heap)
      (Function.update blk a (bareBlk num (firstItem a sz))) priv live (Function.update used a 0) (Function.update back a []) := by
  have hne : a ∉ heap := by
    intro hm
    have h0 : 0 < sizeofMemBlk := by decide
    rcases ha a hm with h1 | h1 <;> omega
  have hab : ∀ b ∈ heap, b ≠ a := fun b hb he => hne (he ▸ hb)
  refine ⟨hne, List.nodup_cons.mpr ⟨hne, h.nodup⟩, ?_, ?_, h.live_nodup, ?_⟩
  · intro x hx y hy hxy
    rcases List.mem_cons.mp hx with rfl | hx' <;> rcases List.mem_cons.mp hy with rfl | hy'
    · exact absurd rfl hxy
    · exact (ha y hy').symm
    · exact ha x hx'
    · exact h.apart x hx' y hy' hxy
  · intro b hb
    rcases List.mem_cons.mp hb with rfl | hb
    · simp only [Function.update_self]
      exact .fresh (firstItem_bounds b hsz).1 (firstItem_bounds b hsz).2
    · simp only [Function.update_of_ne (hab b hb)]
      exact h.blks b hb
  · intro d
    rw [h.live_iff]
    constructor
    · rintro ⟨b, hb, k, hk, rfl⟩
      exact ⟨b, by simp [hb], k, by simpa [hab b hb] using hk, by simp [hab b hb]⟩
    · rintro ⟨b, hb, k, hk, rfl⟩
      rcases List.mem_cons.mp hb with rfl | hb
      · simp [Taken] at hk
      · simp only [Function.update_of_ne (hab b hb)] at hk ⊢
        exact ⟨b, hb, k, hk, rfl⟩

/-- Resetting a block without live items. -/
theorem Blocks.reset (h : Blocks sz num heap blk priv live used back) {b : Nat} (hb : b ∈ heap)
    (hn : (blk b).free_num = num) :
    Blocks sz num heap (Function.update blk b (bareBlk num (blk b).frist)) priv live
      (Function.update used b 0) (Function.update back b []) := by
  refine ⟨h.nodup, h.apart, ?_, h.live_nodup, ?_⟩
  · intro a ha
    by_cases hab : a = b
    · subst hab
      simp only [Function.update_self]
      exact .fresh (h.blks a hb).first_gt (h.blks a hb).first_le
    · simp only [Function.update_of_ne hab]
      exact h.blks a ha
  · intro d
    rw [h.live_iff]
    refine exists_congr fun a => and_congr_right fun ha => exists_congr fun k => ?_
    by_cases hab : a = b
    · subst hab
      have hnone := (h.blks a hb).none_taken hn k
      have hzero : ¬ Taken 0 [] k := fun hk => Nat.not_lt_zero k hk.1
      simp [hnone, hzero]
    · simp only [Function.update_of_ne hab]

/-- Freeing a block without live items. -/
theorem Blocks.destroy (h : Blocks sz num heap blk priv live used back) {b : Nat} (hb : b ∈ heap)
    (hn : (blk b).free_num = num) : Blocks sz num (heap.erase b) blk priv live used back := by
  have hsub : ∀ a ∈ heap.erase b, a ∈ heap := fun a => List.mem_of_mem_erase
  refine ⟨h.nodup.erase b, fun a ha c hc => h.apart a (hsub a ha) c (hsub c hc),
    fun a ha => h.blks a (hsub a ha), h.live_nodup, ?_⟩
  intro d
  rw [h.live_iff]
  constructor
  · rintro ⟨a, ha, k, hk, rfl⟩
    have hab : a ≠ b := by
      rintro rfl
      exact (h.blks a hb).none_taken hn k hk
    exact ⟨a, h.nodup.mem_erase_iff.mpr ⟨hab, ha⟩, k, hk, rfl⟩
  · rintro ⟨a, ha, k, hk, rfl⟩
    exact ⟨a, hsub a ha, k, hk, rfl⟩

end

/-! ## The cache -/

/-- The sizes `mem_cache_create` fixes. The callers pass constants for which a block is far below
4 GiB, so that its size does not wrap. -/
structure Config (c : Cache) : Prop where
  fits : sizeofMemBlk + c.item_size * (c.item_num + 1) < 2 ^ 32
  size_pos : 0 < c.item_size
  num_pos : 0 < c.item_num

theorem Config.congr {c c' : Cache} (h : Config c) (hs : c'.item_size = c.item_size)
    (hn : c'.item_num = c.item_num) : Config c' := by
  refine ⟨?_, ?_, ?_⟩
  · rw [hs, hn]; exact h.fits
  · rw [hs]; exact h.size_pos
  · rw [hn]; exact h.num_pos

/-- The lists and the counters agree with the blocks. -/
structure Lists (s : Store) : Prop where
  listed : Listed s.cache.item_num s.cache {b | b ∈ s.heap} (fun b => (s.blk b).free_num)
  blk_num : s.cache.blk_num = s.heap.length
  empty_num : s.cache.empty_num = s.cache.empty_head.length

structure Inv (u : Use) : Prop where
  config : Config u.store.cache
  lists : Lists u.store
  blocks : ∃ used back, Blocks u.store.cache.item_size u.store.cache.item_num u.store.heap
    u.store.blk u.store.priv u.live used back

theorem blkEnd_eq {s : Store} (h : Config s.cache) (a : Nat) :
    blkEnd s a = a + (sizeofMemBlk + s.cache.item_size * (s.cache.item_num + 1)) := by
  rw [blkEnd, blkMemSize, Nat.mod_eq_of_lt h.fits]

theorem Fresh.apart {s : Store} (h : Config s.cache) {a : Nat} (ha : Fresh s a) :
    ∀ b ∈ s.heap, b + (sizeofMemBlk + s.cache.item_size * (s.cache.item_num + 1)) ≤ a ∨
      a + (sizeofMemBlk + s.cache.item_size * (s.cache.item_num + 1)) ≤ b := by
  intro b hb
  rw [← blkEnd_eq h, ← blkEnd_eq h]
  exact ha.2 b hb

theorem getFreeItemBlk_some {s : Store} (h : Lists s) (hc : Config s.cache) {b : Nat}
    (hb : getFreeItemBlk s.cache = some b) :
    b ∈ s.heap ∧ 0 < (s.blk b).free_num ∧ (s.blk b).free_num ≤ s.cache.item_num := by
  have hpos := hc.num_pos
  unfold getFreeItemBlk at hb
  cases hp : s.cache.partial_head with
  | cons p l =>
    rw [hp] at hb
    obtain rfl : p = b := Option.some.inj hb
    obtain ⟨h1, h2, h3⟩ := (h.listed.mem_partial p).mp (by simp [hp])
    exact ⟨h1, h2, by omega⟩
  | nil =>
    rw [hp] at hb
    cases he : s.cache.empty_head with
    | cons e l =>
      rw [he] at hb
      obtain rfl : e = b := Option.some.inj hb
      obtain ⟨h1, h2⟩ := (h.listed.mem_empty e).mp (by simp [he])
      exact ⟨h1, by omega, by omega⟩
    | nil =>
      rw [he] at hb
      cases hb

/-- No block to take an item from: all blocks are full. -/
theorem getFreeItemBlk_none {c : Cache} (h : getFreeItemBlk c = none) :
    c.partial_head = [] ∧ c.empty_head = [] := by
  unfold getFreeItemBlk at h
  cases hp : c.partial_head with
  | cons p l => rw [hp] at h; cases h
  | nil =>
    rw [hp] at h
    cases he : c.empty_head with
    | cons e l => rw [he] at h; cases h
    | nil => exact ⟨rfl, rfl⟩

theorem insert_diff_heap {heap : List Nat} {b : Nat} (hb : b ∈ heap) :
    insert b ({a | a ∈ heap} \ {b} : Set Nat) = {a | a ∈ heap} := by
  rw [Set.insert_sdiff_singleton]
  exact Set.insert_eq_of_mem hb

@[simp] theorem listTaken_empty_head {c : Cache} {n b : Nat} :
    (listTaken c n b).empty_head = c.empty_head := by
  unfold listTaken; split <;> rfl

@[simp] theorem listTaken_empty_num {c : Cache} {n b : Nat} :
    (listTaken c n b).empty_num = c.empty_num := by
  unfold listTaken; split <;> rfl

@[simp] theorem listTaken_blk_num {c : Cache} {n b : Nat} :
    (listTaken c n b).blk_num = c.blk_num := by
  unfold listTaken; split <;> rfl

@[simp] theorem listTaken_item_num {c : Cache} {n b : Nat} :
    (listTaken c n b).item_num = c.item_num := by
  unfold listTaken; split <;> rfl

@[simp] theorem listTaken_item_size {c : Cache} {n b : Nat} :
    (listTaken c n b).item_size = c.item_size := by
  unfold listTaken; split <;> rfl

@[simp] theorem blkAllocItem_fst {s : Store} {b : Nat} :
    (blkAllocItem s b).1 =
      { s with
        priv := Function.update s.priv (nextItem (s.blk b)) b
        blk := Function.update s.blk b (takeBlk s.cache.item_size s.priv (s.blk b)) } := rfl

@[simp] theorem blkAllocItem_snd {s : Store} {b : Nat} :
    (blkAllocItem s b).2 = nextItem (s.blk b) + sizeofMemItem := rfl

/-- The cache after `mem_cache_alloc` has moved the block `b` it takes an item from. -/
def allocMoved (s : Store) (b : Nat) : Cache :=
  let n := (s.blk b).free_num
  if n = s.cache.item_num then
    let c := listDel s.cache b
    listTaken { c with empty_num := c.empty_num - 1 } n b
  else if n = 1 then
    let c := listDel s.cache b
    { c with full_head := b :: c.full_head }
  else s.cache

theorem memCacheAlloc_some {s : Store} {mem : Option Nat} {b : Nat}
    (h : getFreeItemBlk s.cache = some b) :
    memCacheAlloc s mem =
      ((blkAllocItem { s with cache := allocMoved s b } b).1,
        some (nextItem (s.blk b) + sizeofMemItem)) := by
  unfold memCacheAlloc
  rw [h]
  rfl

/-- The cache after `mem_cache_alloc` has put a new block on its list. -/
def allocCreated (c : Cache) (a : Nat) : Cache :=
  { listTaken c c.item_num a with blk_num := c.blk_num + 1 }

theorem memCacheAlloc_create {s : Store} {a : Nat} (h : getFreeItemBlk s.cache = none)
    (hb : s.cache.max_blk ≠ s.cache.blk_num) :
    memCacheAlloc s (some a) =
      ((blkAllocItem { memBlkCreate s a with cache := allocCreated s.cache a } a).1,
        some (nextItem ((memBlkCreate s a).blk a) + sizeofMemItem)) := by
  unfold memCacheAlloc
  simp only [h, hb, if_false, allocCreated]
  simp [memBlkCreate]

section
variable {s : Store} {b : Nat}

theorem allocMoved_frame : (allocMoved s b).item_num = s.cache.item_num ∧
    (allocMoved s b).item_size = s.cache.item_size ∧
    (allocMoved s b).blk_num = s.cache.blk_num := by
  unfold allocMoved
  dsimp only
  split
  · simp [listDel]
  · split <;> exact ⟨rfl, rfl, rfl⟩

/-- The lists agree with the blocks after an item of block `b` is taken. -/
theorem allocMoved_listed (h : Lists s) (hc : Config s.cache) (hb : b ∈ s.heap)
    (hpos : 0 < (s.blk b).free_num) (hle : (s.blk b).free_num ≤ s.cache.item_num)
    {num' : Nat → Nat} (hnum : num' b = (s.blk b).free_num - 1)
    (hne : ∀ a, a ≠ b → num' a = (s.blk a).free_num) :
    Listed s.cache.item_num (allocMoved s b) {a | a ∈ s.heap} num' := by
  have hoff : ∀ a ∈ ({a | a ∈ s.heap} \ {b} : Set Nat), num' a = (s.blk a).free_num :=
    fun a ha => hne a ha.2
  have hdel := h.listed.del b
  unfold allocMoved
  dsimp only
  split
  · rw [← insert_diff_heap hb]
    have hdel' : Listed s.cache.item_num
        { listDel s.cache b with empty_num := (listDel s.cache b).empty_num - 1 }
        ({a | a ∈ s.heap} \ {b}) (fun a => (s.blk a).free_num) := hdel.of_lists rfl rfl rfl
    exact hdel'.taken hc.num_pos (by simp) hpos hle hnum hoff
  · split
    · rw [← insert_diff_heap hb]
      exact (hdel.congr hoff).full hc.num_pos (by simp) (by omega)
    · exact h.listed.stay ⟨hpos, by omega⟩ (by omega) hne

theorem allocMoved_empty_num (h : Lists s) (hb : b ∈ s.heap) :
    (allocMoved s b).empty_num = (allocMoved s b).empty_head.length := by
  unfold allocMoved
  dsimp only
  split
  · have hm : b ∈ s.cache.empty_head := (h.listed.mem_empty b).mpr ⟨hb, by assumption⟩
    simp only [listTaken_empty_num, listTaken_empty_head, listDel, h.empty_num,
      List.length_erase_of_mem hm]
  · split
    · have := h.listed.del_empty_of_ne (b := b) (by assumption)
      simp only [this]
      exact h.empty_num
    · exact h.empty_num

end

/-- `mem_cache_alloc` keeps the invariant. -/
theorem alloc_inv {u : Use} (h : Inv u) {mem : Option Nat} (hm : ∀ a ∈ mem, Fresh u.store a) :
    Inv (step u (.alloc mem)) := by
  obtain ⟨s, live⟩ := u
  obtain ⟨hc, hl, used, back, hblocks⟩ := h
  dsimp only at hc hl hblocks hm
  show Inv ⟨(memCacheAlloc s mem).1, (memCacheAlloc s mem).2.toList ++ live⟩
  cases hg : getFreeItemBlk s.cache with
  | some b =>
    obtain ⟨hb, hpos, hle⟩ := getFreeItemBlk_some hl hc hg
    obtain ⟨f1, f2, f3⟩ := allocMoved_frame (s := s) (b := b)
    rw [memCacheAlloc_some hg]
    refine ⟨hc.congr f2 f1, ⟨?_, ?_, ?_⟩, ?_⟩
    · dsimp only [blkAllocItem_fst]
      rw [f1]
      exact allocMoved_listed hl hc hb hpos hle (by simp) fun a ha => by simp [ha]
    · dsimp only [blkAllocItem_fst]; rw [f3]; exact hl.blk_num
    · exact allocMoved_empty_num hl hb
    · dsimp only [blkAllocItem_fst]
      rw [f1, f2]
      exact hblocks.take hc.size_pos hb hpos
  | none =>
    by_cases hfull : s.cache.max_blk = s.cache.blk_num
    · have hnone : memCacheAlloc s mem = (s, none) := by
        unfold memCacheAlloc
        simp only [hg, hfull, if_true]
      rw [hnone]
      exact ⟨hc, hl, used, back, hblocks⟩
    · cases mem with
      | none =>
        have hnone : memCacheAlloc s none = (s, none) := by
          unfold memCacheAlloc
          simp only [hg, hfull, if_false]
        rw [hnone]
        exact ⟨hc, hl, used, back, hblocks⟩
      | some a =>
        obtain ⟨hne, hnew⟩ := hblocks.create hc.size_pos ((hm a rfl).apart hc)
        rw [memCacheAlloc_create hg hfull]
        have hself : (memBlkCreate s a).blk a =
            { free_num := s.cache.item_num, frist := firstItem a s.cache.item_size,
              free := firstItem a s.cache.item_size, recover := 0 } := by simp [memBlkCreate]
        refine ⟨hc.congr (by simp [allocCreated]) (by simp [allocCreated]), ⟨?_, ?_, ?_⟩, ?_⟩
        · have hset : ({b | b ∈ a :: s.heap} : Set Nat) = insert a {b | b ∈ s.heap} := by
            ext b; simp
          simp only [blkAllocItem_fst, allocCreated, listTaken_item_num, memBlkCreate]
          rw [hset]
          refine (Listed.taken hc.num_pos hl.listed hne hc.num_pos le_rfl ?_ ?_).of_lists
            rfl rfl rfl
          · simp
          · intro b hb
            have hba : b ≠ a := fun he => hne (he ▸ hb)
            simp [hba]
        · simp [allocCreated, memBlkCreate, hl.blk_num]
        · simpa [allocCreated] using hl.empty_num
        · have := hnew.take hc.size_pos (b := a) (by simp) (by simpa [bareBlk] using hc.num_pos)
          simpa [allocCreated, memBlkCreate, bareBlk] using this

section
variable {s : Store} {d b : Nat}

/-- The block header and the `priv` word after `__blk_free_item`. -/
theorem blkFreeItem_eq {item : Nat} : blkFreeItem s b item =
    { s with
      priv := Function.update s.priv item (s.blk b).recover
      blk := Function.update s.blk b (giveBlk (s.blk b) item) } := rfl

/-- The three ways `mem_cache_free` ends: the block of the item is destroyed, it becomes empty, or
at least one of its items stays in use. -/
theorem memCacheFree_cases (hd : d ≠ 0) (hb : s.priv (d - sizeofMemItem) = b) :
    memCacheFree s d =
      let t := blkFreeItem s b (d - sizeofMemItem)
      let n := (s.blk b).free_num + 1
      let c := listDel s.cache b
      if n = s.cache.item_num then
        if c.empty_num = c.max_empty then
          memBlkDestroy { t with cache := { c with blk_num := c.blk_num - 1 } } b
        else
          { t with
            blk := Function.update s.blk b
              { free_num := c.item_num, frist := (s.blk b).frist, free := (s.blk b).frist,
                recover := 0 }
            cache := { c with empty_head := b :: c.empty_head, empty_num := c.empty_num + 1 } }
      else if n = 1 then { t with cache := { c with partial_head := b :: c.partial_head } }
      else t := by
  unfold memCacheFree
  simp only [hd, if_false, hb, blkFreeItem_eq, Function.update_self, Function.update_idem]
  rfl

end

theorem free_inv_held {s : Store} {live : List Nat} (h : Inv ⟨s, live⟩) {d : Nat} (hd : d ∈ live) :
    Inv ⟨memCacheFree s d, live.erase d⟩ := by
  obtain ⟨hc, hl, used, back, hblocks⟩ := h
  dsimp only at hc hl hblocks
  obtain ⟨b, hb, hpriv, hd0, hlt, used', back', hgive⟩ := hblocks.give hc.size_pos hd
  have hdel := hl.listed.del b
  have hempty := hl.listed.del_empty_of_ne (b := b) (by omega)
  have hset := insert_diff_heap hb
  rw [memCacheFree_cases hd0 hpriv]
  dsimp only
  split
  case isTrue hn =>
    -- the last live item of the block
    have hnum : (giveBlk (s.blk b) (d - sizeofMemItem)).free_num = s.cache.item_num := hn
    split
    · have hdes := hgive.destroy hb (by simpa using hnum)
      refine ⟨hc.congr rfl rfl, ⟨?_, ?_, ?_⟩, used', back', hdes⟩
      · have hheap : ({a | a ∈ s.heap.erase b} : Set Nat) = {a | a ∈ s.heap} \ {b} := by
          ext a
          simp only [hblocks.nodup.mem_erase_iff, Set.mem_ofPred_eq, Set.mem_sdiff,
            Set.mem_singleton_iff]
          tauto
        show Listed s.cache.item_num _ {a | a ∈ s.heap.erase b} _
        rw [hheap]
        refine (hdel.congr fun a ha => ?_).of_lists rfl rfl rfl
        have hab : a ≠ b := ha.2
        simp [memBlkDestroy, blkFreeItem_eq, hab]
      · show s.cache.blk_num - 1 = (s.heap.erase b).length
        rw [List.length_erase_of_mem hb, hl.blk_num]
      · show s.cache.empty_num = (listDel s.cache b).empty_head.length
        rw [hempty, hl.empty_num]
    · have hres := hgive.reset hb (by simpa using hnum)
      refine ⟨hc.congr rfl rfl, ⟨?_, ?_, ?_⟩, Function.update used' b 0, Function.update back' b [], ?_⟩
      · show Listed s.cache.item_num _ {a | a ∈ s.heap} _
        rw [← hset]
        have hreset : Listed s.cache.item_num (listDel s.cache b) ({a | a ∈ s.heap} \ {b})
            (fun a => (Function.update s.blk b
              (bareBlk s.cache.item_num (s.blk b).frist) a).free_num) := by
          refine hdel.congr fun a ha => ?_
          have hab : a ≠ b := ha.2
          simp [hab]
        exact (hreset.empty hc.num_pos (by simp) (by simp [bareBlk]) (List.Perm.refl _)).of_lists rfl rfl rfl
      · exact hl.blk_num
      · show s.cache.empty_num + 1 = (b :: (listDel s.cache b).empty_head).length
        rw [hempty, hl.empty_num, List.length_cons]
      · simpa [blkFreeItem_eq, giveBlk, listDel, bareBlk] using hres
  case isFalse hn =>
    split
    case isTrue h1 =>
      -- the block was full
      refine ⟨hc.congr rfl rfl, ⟨?_, hl.blk_num, ?_⟩, used', back', hgive⟩
      · show Listed s.cache.item_num _ {a | a ∈ s.heap} _
        rw [← hset]
        refine (hdel.congr fun a ha => ?_).part (by simp) ?_ ?_
        · have hab : a ≠ b := ha.2
          simp [blkFreeItem_eq, hab]
        · simp [blkFreeItem_eq, giveBlk]
        · simp only [blkFreeItem_eq, giveBlk, Function.update_self]
          omega
      · show s.cache.empty_num = (listDel s.cache b).empty_head.length
        rw [hempty, hl.empty_num]
    case isFalse h1 =>
      refine ⟨hc.congr rfl rfl, ⟨?_, hl.blk_num, hl.empty_num⟩, used', back', hgive⟩
      have hmid : 0 < (s.blk b).free_num ∧ (s.blk b).free_num < s.cache.item_num := by omega
      refine hl.listed.stay (b := b) hmid ?_ fun a hab => ?_
      · simp only [blkFreeItem_eq, giveBlk, Function.update_self]
        omega
      · simp [blkFreeItem_eq, hab]

/-- `mem_cache_free` of a held item, or of `NULL`, keeps the invariant. -/
theorem free_inv {u : Use} (h : Inv u) {d : Nat} (hd : d = 0 ∨ d ∈ u.live) :
    Inv (step u (.free d)) := by
  by_cases hmem : d ∈ u.live
  · exact free_inv_held h hmem
  · have h0 : d = 0 := hd.resolve_right hmem
    have hlive : u.live.erase d = u.live := List.erase_of_not_mem hmem
    have hstore : memCacheFree u.store d = u.store := by
      unfold memCacheFree
      rw [if_pos h0]
    show Inv ⟨memCacheFree u.store d, u.live.erase d⟩
    rw [hlive, hstore]
    exact h

theorem step_inv {u : Use} {e : Event} (h : Inv u) (hl : Legal u e) : Inv (step u e) := by
  cases e with
  | alloc mem => exact alloc_inv h hl
  | free d => exact free_inv h hl

/-! ## The whole run -/

theorem createBlk_inv {s : Store} (h : Inv ⟨s, []⟩) {mem : Option Nat}
    (hm : ∀ a ∈ mem, Fresh s a) : Inv ⟨createBlk s mem, []⟩ := by
  cases mem with
  | none => exact h
  | some a =>
    obtain ⟨hc, hl, used, back, hblocks⟩ := h
    dsimp only at hc hl hblocks
    obtain ⟨hne, hnew⟩ := hblocks.create hc.size_pos ((hm a rfl).apart hc)
    refine ⟨hc.congr rfl rfl, ⟨?_, ?_, ?_⟩, _, _, hnew⟩
    · have hset : ({b | b ∈ a :: s.heap} : Set Nat) = insert a {b | b ∈ s.heap} := by
        ext b; simp
      show Listed s.cache.item_num _ {b | b ∈ a :: s.heap} _
      rw [hset]
      refine ((hl.listed.congr fun b hb => ?_).empty hc.num_pos hne ?_
        (List.perm_append_singleton a _)).of_lists rfl rfl rfl
      · have hba : b ≠ a := fun he => hne (he ▸ hb)
        simp [createBlk, memBlkCreate, hba]
      · simp [createBlk, memBlkCreate]
    · simp [createBlk, memBlkCreate, hl.blk_num]
    · simp [createBlk, memBlkCreate, hl.empty_num]

/-- The loop of `mem_cache_create`. -/
theorem createLoop_inv {s : Store} (h : Inv ⟨s, []⟩) {mems : List (Option Nat)}
    (hm : FreshAll s mems) : Inv ⟨mems.foldl createBlk s, []⟩ := by
  induction mems generalizing s with
  | nil => exact h
  | cons mem mems ih => exact ih (createBlk_inv h hm.1) hm.2

/-- The item sizes and numbers for which the size of a block does not wrap. -/
def Fits (item_size item_num : Nat) : Prop :=
  sizeofMemBlk + (item_size + sizeofMemItem) *
    ((if item_num = 0 then CACHE_DEFAULT_ITEMNUM else item_num) + 1) < 2 ^ 32

instance {item_size item_num : Nat} : Decidable (Fits item_size item_num) :=
  inferInstanceAs (Decidable (_ < _))

theorem bareStore_inv {max_blk max_empty item_size item_num : Nat}
    (hf : Fits item_size item_num) : Inv ⟨bareStore max_blk max_empty item_size item_num, []⟩ := by
  have hpos : 0 < if item_num = 0 then CACHE_DEFAULT_ITEMNUM else item_num := by
    split
    · decide
    · omega
  have hsize : item_size + sizeofMemItem < 2 ^ 32 := by
    have h1 : (item_size + sizeofMemItem) * 1 ≤ (item_size + sizeofMemItem) *
        ((if item_num = 0 then CACHE_DEFAULT_ITEMNUM else item_num) + 1) :=
      Nat.mul_le_mul_left _ (by omega)
    unfold Fits at hf
    omega
  refine ⟨⟨?_, ?_, hpos⟩, ⟨?_, rfl, rfl⟩, fun _ => 0, fun _ => [], ?_⟩
  · unfold Fits at hf
    simpa only [bareStore, Nat.mod_eq_of_lt hsize] using hf
  · show 0 < (item_size + sizeofMemItem) % 2 ^ 32
    rw [Nat.mod_eq_of_lt hsize]
    simp [sizeofMemItem]
  · constructor <;> simp [bareStore]
  · constructor <;> simp [bareStore]

theorem create_inv {max_blk max_empty item_size item_num : Nat} {mems : List (Option Nat)}
    {s : Store} (hf : Fits item_size item_num)
    (hm : FreshAll (bareStore max_blk max_empty item_size item_num) (mems.take max_empty))
    (hs : memCacheCreate max_blk max_empty item_size item_num mems = some s) : Inv ⟨s, []⟩ := by
  unfold memCacheCreate at hs
  split at hs
  · cases hs
  · cases hs
    exact createLoop_inv (bareStore_inv hf) hm

/-- `l` are the free slots of block `b` in the order they are handed out: the `recover` chain, then
the items from `free` to the end of the block. -/
def FreeList (s : Store) (b : Nat) (l : List Nat) : Prop :=
  ∃ back n, Chain s.priv (s.blk b).recover back 0 ∧
    (s.blk b).free + n * s.cache.item_size =
      (s.blk b).frist + s.cache.item_num * s.cache.item_size ∧
    l = back ++ (List.range n).map fun k => (s.blk b).free + k * s.cache.item_size

/-- The item at `x` lies in the area of block `b`, after its header. -/
def Inside (s : Store) (b x : Nat) : Prop :=
  b + sizeofMemBlk ≤ x ∧ x + s.cache.item_size ≤ blkEnd s b

/-- Lists, counters, free chains and items in use agree. -/
structure Agree (u : Use) : Prop where
  /-- A block is on the list its `free_num` says, once, and on no other. -/
  lists : ∀ b ∈ u.store.heap,
    u.store.cache.full_head.count b = (if (u.store.blk b).free_num = 0 then 1 else 0) ∧
    u.store.cache.empty_head.count b =
      (if (u.store.blk b).free_num = u.store.cache.item_num then 1 else 0) ∧
    u.store.cache.partial_head.count b =
      (if 0 < (u.store.blk b).free_num ∧ (u.store.blk b).free_num < u.store.cache.item_num
        then 1 else 0) ∧
    (u.store.blk b).free_num ≤ u.store.cache.item_num
  /-- Nothing else is on the lists. -/
  listed : ∀ b ∈ u.store.cache.full_head ++ u.store.cache.partial_head ++ u.store.cache.empty_head,
    b ∈ u.store.heap
  blk_num : u.store.cache.blk_num = u.store.cache.full_head.length +
    u.store.cache.partial_head.length + u.store.cache.empty_head.length
  empty_num : u.store.cache.empty_num = u.store.cache.empty_head.length
  free : ∀ b ∈ u.store.heap, ∃ l, FreeList u.store b l ∧ l.length = (u.store.blk b).free_num ∧
    l.Nodup ∧ ∀ x ∈ l, Inside u.store b x ∧ x + sizeofMemItem ∉ u.live
  live_nodup : u.live.Nodup
  inside : ∀ d ∈ u.live, ∃ b ∈ u.store.heap, u.store.priv (d - sizeofMemItem) = b ∧
    Inside u.store b (d - sizeofMemItem)
  apart : ∀ d ∈ u.live, ∀ e ∈ u.live, d ≠ e →
    d + u.store.cache.item_size ≤ e ∨ e + u.store.cache.item_size ≤ d
  /-- `mem_cache_alloc` fails, `malloc` succeeding, only when all blocks exist and are full. -/
  fails : ∀ a, (memCacheAlloc u.store (some a)).2 = none →
    u.store.heap.length = u.store.cache.max_blk ∧ ∀ b ∈ u.store.heap, (u.store.blk b).free_num = 0

section
variable {u : Use}

theorem BlkInv.free_num_le {sz num : Nat} {priv : Nat → Nat} {b : Nat} {blk : MemBlk} {used : Nat}
    {back : List Nat} (h : BlkInv sz num priv b blk used back) : blk.free_num ≤ num := by
  have h1 := h.free_num
  have h2 := h.length_le
  omega

theorem count_eq_ite {l : List Nat} (hl : l.Nodup) {b : Nat} {p : Prop} [Decidable p]
    (h : b ∈ l ↔ p) : l.count b = if p then 1 else 0 := by
  split
  case isTrue hp => exact List.count_eq_one_of_mem hl (h.mpr hp)
  case isFalse hp => exact List.count_eq_zero_of_not_mem (fun hm => hp (h.mp hm))

/-- The free slots of a block, by number. -/
theorem Inv.freeList (h : Inv u) {b : Nat} (hb : b ∈ u.store.heap) :
    ∃ l, FreeList u.store b l ∧ l.length = (u.store.blk b).free_num ∧ l.Nodup ∧
      ∀ x ∈ l, Inside u.store b x ∧ x + sizeofMemItem ∉ u.live := by
  obtain ⟨hc, -, used, back, hblocks⟩ := h
  have hblk := hblocks.blks b hb
  have hsz := hc.size_pos
  obtain ⟨n, hn⟩ : ∃ n, used b + n = u.store.cache.item_num :=
    ⟨_, Nat.add_sub_cancel' hblk.used_le⟩
  let idx := back b ++ (List.range n).map (used b + ·)
  have hidx : ∀ k ∈ idx, k < u.store.cache.item_num ∧ ¬ Taken (used b) (back b) k := by
    intro k hk
    rcases List.mem_append.mp hk with hk | hk
    · have := hblk.back_lt k hk
      exact ⟨by omega, fun ht => ht.2 hk⟩
    · obtain ⟨j, hj, rfl⟩ := List.mem_map.mp hk
      have := List.mem_range.mp hj
      exact ⟨by omega, fun ht => by have := ht.1; omega⟩
  have hnodup : idx.Nodup := by
    refine List.nodup_append.mpr ⟨hblk.back_nodup, List.nodup_range.map fun i j hij => ?_, ?_⟩
    · exact Nat.add_left_cancel hij
    · rintro k hk j hj rfl
      obtain ⟨i, -, rfl⟩ := List.mem_map.mp hj
      have := hblk.back_lt _ hk
      omega
  refine ⟨idx.map (slot u.store.cache.item_size (u.store.blk b)), ⟨_, n, hblk.chain, ?_, ?_⟩,
    ?_, hnodup.map fun i j hij => slot_inj hsz hij, ?_⟩
  · rw [hblk.free_eq, slot, ← hn]
    ring
  · rw [List.map_append, List.map_map]
    congr 1
    refine List.map_congr_left fun k _ => ?_
    simp only [Function.comp, hblk.free_eq, slot]
    ring
  · have := hblk.free_num
    simp only [idx, List.length_map, List.length_append, List.length_range]
    omega
  · intro x hx
    obtain ⟨k, hk, rfl⟩ := List.mem_map.mp hx
    obtain ⟨hlt, hfree⟩ := hidx k hk
    obtain ⟨h1, h2⟩ := hblk.slot_bounds hlt
    refine ⟨⟨h1.le, by rw [blkEnd_eq hc]; exact h2⟩, fun hm => ?_⟩
    obtain ⟨a, ha, j, hj, he⟩ := (hblocks.live_iff _).mp hm
    by_cases hab : a = b
    · subst hab
      exact hfree (slot_inj hsz (Nat.add_right_cancel he) ▸ hj)
    · exact hblocks.slot_ne hsz ha hb hab (hblocks.taken_lt ha hj) hlt (by omega)

/-- The failing path of `mem_cache_alloc`. -/
theorem memCacheAlloc_fails {s : Store} {a : Nat} (h : (memCacheAlloc s (some a)).2 = none) :
    getFreeItemBlk s.cache = none ∧ s.cache.max_blk = s.cache.blk_num := by
  cases hg : getFreeItemBlk s.cache with
  | some b => rw [memCacheAlloc_some hg] at h; cases h
  | none =>
    refine ⟨rfl, ?_⟩
    by_contra hne
    rw [memCacheAlloc_create hg hne] at h
    cases h

theorem Inv.agree (h : Inv u) : Agree u := by
  obtain ⟨hc, hl, used, back, hblocks⟩ := id h
  have hle : ∀ b ∈ u.store.heap, (u.store.blk b).free_num ≤ u.store.cache.item_num :=
    fun b hb => (hblocks.blks b hb).free_num_le
  have hperm := hl.listed.perm hc.num_pos hle hblocks.nodup
  refine ⟨?_, ?_, ?_, hl.empty_num, fun b hb => h.freeList hb, hblocks.live_nodup, ?_, ?_, ?_⟩
  · intro b hb
    refine ⟨count_eq_ite hl.listed.full_nodup ?_, count_eq_ite hl.listed.empty_nodup ?_,
      count_eq_ite hl.listed.partial_nodup ?_, hle b hb⟩
    · rw [hl.listed.mem_full]
      exact and_iff_right hb
    · rw [hl.listed.mem_empty]
      exact and_iff_right hb
    · rw [hl.listed.mem_partial]
      exact and_iff_right hb
  · exact fun b hb => hperm.mem_iff.mpr hb
  · rw [hl.blk_num, hperm.length_eq, List.length_append, List.length_append]
  · intro d hd
    obtain ⟨b, hb, k, hk, rfl⟩ := (hblocks.live_iff d).mp hd
    have hblk := hblocks.blks b hb
    obtain ⟨h1, h2⟩ := hblk.slot_bounds (hblocks.taken_lt hb hk)
    rw [Nat.add_sub_cancel]
    exact ⟨b, hb, hblk.priv_eq k hk, h1.le, by rw [blkEnd_eq hc]; exact h2⟩
  · intro d hd e he hne
    obtain ⟨a, ha, j, hj, rfl⟩ := (hblocks.live_iff d).mp hd
    obtain ⟨b, hb, k, hk, rfl⟩ := (hblocks.live_iff e).mp he
    by_cases hab : a = b
    · subst hab
      have hjk : j ≠ k := fun he => hne (by rw [he])
      rcases Nat.lt_or_gt_of_ne hjk with hlt | hlt
      · left
        have := Nat.mul_le_mul_right u.store.cache.item_size hlt
        simp only [slot, Nat.succ_mul] at this ⊢
        omega
      · right
        have := Nat.mul_le_mul_right u.store.cache.item_size hlt
        simp only [slot, Nat.succ_mul] at this ⊢
        omega
    · rcases hblocks.slot_apart ha hb hab (hblocks.taken_lt ha hj) (hblocks.taken_lt hb hk)
        with h1 | h1
      · left; omega
      · right; omega
  · intro a ha
    obtain ⟨hg, hmax⟩ := memCacheAlloc_fails ha
    obtain ⟨hp, he⟩ := getFreeItemBlk_none hg
    refine ⟨by rw [← hl.blk_num, hmax], fun b hb => ?_⟩
    have hm := hperm.mem_iff.mp hb
    rw [hp, he, List.append_nil, List.append_nil] at hm
    exact ((hl.listed.mem_full b).mp hm).2

end

/-- In every state that users of a cache can bring it to, lists, counters, free chains and items in
use agree. -/
theorem slab_agrees {max_blk max_empty item_size item_num : Nat} {mems : List (Option Nat)}
    {s : Store} {es : List Event} (hf : Fits item_size item_num)
    (hm : FreshAll (bareStore max_blk max_empty item_size item_num) (mems.take max_empty))
    (hs : memCacheCreate max_blk max_empty item_size item_num mems = some s)
    (hl : Obeys step Legal ⟨s, []⟩ es) : Agree (run step ⟨s, []⟩ es) :=
  Inv.agree (hl.run_inv (fun _ _ => step_inv) (create_inv hf hm hs))

/-- A cache of at most two blocks of two items, one of them made at once: three items are taken,
so that a second block is made, and the first one is given back. -/
def sampleUse : List Event :=
  [.alloc none, .alloc none, .alloc (some 8192), .free 4168]

def sampleStore : Store :=
  ([some 4096] : List (Option Nat)).foldl createBlk (bareStore 2 1 8 2)

theorem slab_agrees_sample :
    (run step ⟨sampleStore, []⟩ sampleUse).live = [8264, 4184] ∧
      Agree (run step ⟨sampleStore, []⟩ sampleUse) :=
  have hf : Fits 8 2 := by decide
  have hm : FreshAll (bareStore 2 1 8 2) (([some 4096] : List (Option Nat)).take 1) := by decide
  have hs : memCacheCreate 2 1 8 2 [some 4096] = some sampleStore := rfl
  ⟨by decide, slab_agrees hf hm hs (by decide)⟩

end MemCache
end DaemonGroup
