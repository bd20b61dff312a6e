import DaemonGroup.Lib.Bitmap
import DaemonGroup.Lib.Run
import Mathlib.Algebra.Order.Ring.Nat

/-!
# DaemonGroup.Eag.Blkmem

The block allocator of `eag_blkmem.c`. A block is one `malloc`ed area: a header with the bitmap of
its items in use, then room for `item_num + 1` items, the first at the aligned address `itemdata`.
The allocator holds at most `MAX_BLK_NUM` blocks in an array of pointers; a block is reachable
through that array only, so the array holds the blocks themselves here.

Addresses are natural numbers; the results of `eag_malloc` are inputs.
-/

namespace DaemonGroup
namespace Blkmem

open Lib Bitmap

def MAX_BLK_ITEM_NUM : Nat := 1024
def MAX_BLK_NUM : Nat := 256

/-- `sizeof(((struct eag_blk *)0)->blk_item_flag)`. -/
def sizeofFlag : Nat := (MAX_BLK_ITEM_NUM + 7) / 8

/-- `sizeof(struct eag_blk)`. -/
def sizeofEagBlk : Nat := 152

/-- The error codes of `eag_errcode.h` used here; all are negative numbers in the source. -/
inductive Err where
  | INPUT_PARAM_ERR
  | UNKNOWN
  | MALLOC_FAILED
  | ITEM_NOT_IN_BLK
  | ILLEGAL_ITEM_POINTER
  | ITEM_NUM_OVER_LIMIT
  | HAS_MAX_BLK_NUM
deriving Repr, DecidableEq

/-- `struct eag_blk`, with the address it was allocated at. -/
structure EagBlk where
  addr : Nat
  item_size : Nat
  item_num : Nat
  free_num : Nat
  blk_item_flag : List (BitVec 8)
  itemdata : Nat
deriving Repr, DecidableEq

/-- `struct eag_blk_mem`. -/
structure EagBlkMem where
  blk_item_size : Nat
  blk_item_num : Nat
  max_blk_num : Nat
  blk_num : Nat
  blk : List (Option EagBlk)
deriving Repr, DecidableEq

/-- The size `eag_blk_create` asks for, in 32-bit arithmetic. -/
def blkMemSize (item_size item_num : Nat) : Nat :=
  (sizeofEagBlk + item_size * (item_num + 1)) % 2 ^ 32

/-- `eag_blk_create`; `mem` is the result of `eag_malloc`. -/
def eagBlkCreate (item_size item_num : Nat) (mem : Option Nat) : Except Err EagBlk :=
  if item_size = 0 ∨ item_num = 0 then .error .INPUT_PARAM_ERR
  else if item_num > MAX_BLK_ITEM_NUM then .error .ITEM_NUM_OVER_LIMIT
  else
    match mem with
    | none => .error .MALLOC_FAILED
    | some a => .ok
        { addr := a
          item_size := item_size
          item_num := item_num
          free_num := item_num
          blk_item_flag := List.replicate sizeofFlag 0
          itemdata := a + sizeofEagBlk - (a + sizeofEagBlk) % item_size + item_size }

/-- `eag_blk_if_has_free_item`. -/
def eagBlkIfHasFreeItem (blk : EagBlk) : Bool := blk.free_num > 0

/-- `eag_blk_malloc_item`: the first byte of the bitmap with a clear bit, the leftmost clear bit
in it. -/
def eagBlkMallocItem (blk : EagBlk) : EagBlk × Option Nat :=
  if blk.free_num = 0 then (blk, none)
  else
    let i := firstByte blk.blk_item_flag
    if i = blk.blk_item_flag.length then ({ blk with free_num := 0 }, none)
    else
      let byte := blk.blk_item_flag.getD i 0
      let j := width 8 (~~~byte)
      let free_item_offset := i * 8 + 8 - j
      let flag := 1#8 <<< (j - 1)
      ({ blk with
          blk_item_flag := blk.blk_item_flag.set i (byte ||| flag)
          free_num := blk.free_num - 1 },
        some (blk.itemdata + free_item_offset * blk.item_size))

/-- `eag_blk_get_item_offset_in_blk`. -/
def eagBlkGetItemOffsetInBlk (blk : EagBlk) (item : Nat) : Except Err Nat :=
  if item = 0 then .error .INPUT_PARAM_ERR
  else if item < blk.itemdata ∨ item > blk.itemdata + blk.item_size * blk.item_num % 2 ^ 32 then
    .error .ITEM_NOT_IN_BLK
  else if (item - blk.itemdata) % 2 ^ 32 % blk.item_size ≠ 0 then .error .ILLEGAL_ITEM_POINTER
  else .ok ((item - blk.itemdata) / blk.item_size)

/-- `eag_blk_if_all_free`. -/
def eagBlkIfAllFree (blk : EagBlk) : Bool := blk.free_num == blk.item_num

/-- `eag_blk_free_item`; a slot that is not in use is left alone. -/
def eagBlkFreeItem (blk : EagBlk) (offset : Nat) : EagBlk :=
  let i := offset / 8
  let flag := 0x80#8 >>> (offset % 8)
  let byte := blk.blk_item_flag.getD i 0
  if byte &&& flag = 0 then blk
  else
    { blk with
      blk_item_flag := blk.blk_item_flag.set i (byte ^^^ flag)
      free_num := blk.free_num + 1 }

/-- `eag_blkmem_create`, the name left out. -/
def eagBlkmemCreate (blk_item_size blk_item_num max_blk_num : Nat) : Except Err EagBlkMem :=
  if blk_item_size = 0 ∨ blk_item_num = 0 then .error .INPUT_PARAM_ERR
  else if blk_item_num > MAX_BLK_ITEM_NUM then .error .ITEM_NUM_OVER_LIMIT
  else .ok
    { blk_item_size := blk_item_size
      blk_item_num := blk_item_num
      max_blk_num := max_blk_num
      blk_num := 0
      blk := List.replicate MAX_BLK_NUM none }

/-- The block pointer `p` is not null and has a free item. -/
def hasFree (p : Option EagBlk) : Bool := p.any eagBlkIfHasFreeItem

/-- `eag_blkmem_get_blk_has_free`: the first block with a free item, by its place in the array. -/
def eagBlkmemGetBlkHasFree (m : EagBlkMem) : Option (Nat × EagBlk) :=
  let i := m.blk.findIdx hasFree
  match m.blk[i]? with
  | some (some b) => some (i, b)
  | _ => none

/-- `eag_blkmem_if_has_max_blk`. -/
def eagBlkmemIfHasMaxBlk (m : EagBlkMem) : Bool := m.blk_num ≥ m.max_blk_num

/-- `eag_blkmem_add_blk`: the first null pointer of the array becomes `b`. -/
def eagBlkmemAddBlk (m : EagBlkMem) (b : EagBlk) : EagBlkMem × Except Err Nat :=
  let i := m.blk.findIdx Option.isNone
  if i < m.blk.length then
    ({ m with blk := m.blk.set i (some b), blk_num := m.blk_num + 1 }, .ok i)
  else (m, .error .HAS_MAX_BLK_NUM)

/-- `eag_blkmem_malloc_item`. A new block for which the array has no place is used all the same:
its item is handed out and the block is lost. -/
def eagBlkmemMallocItem (m : EagBlkMem) (mem : Option Nat) : EagBlkMem × Option Nat :=
  match eagBlkmemGetBlkHasFree m with
  | some (i, b) =>
    let r := eagBlkMallocItem b
    ({ m with blk := m.blk.set i (some r.1) }, r.2)
  | none =>
    if eagBlkmemIfHasMaxBlk m then (m, none)
    else
      match eagBlkCreate m.blk_item_size m.blk_item_num mem with
      | .error _ => (m, none)
      | .ok b =>
        let r := eagBlkMallocItem b
        match eagBlkmemAddBlk m b with
        | (m, .ok i) => ({ m with blk := m.blk.set i (some r.1) }, r.2)
        | (m, .error _) => (m, r.2)

/-- The block pointer `p` is not null and `buff` is one of its items. -/
def holds (buff : Nat) (p : Option EagBlk) : Bool :=
  p.any fun b => (eagBlkGetItemOffsetInBlk b buff).isOk

/-- `eag_blkmem_free_item`. -/
def eagBlkmemFreeItem (m : EagBlkMem) (buff : Nat) : EagBlkMem × Except Err Unit :=
  if buff = 0 then (m, .error .INPUT_PARAM_ERR)
  else
    let i := m.blk.findIdx (holds buff)
    match m.blk[i]? with
    | some (some b) =>
      match eagBlkGetItemOffsetInBlk b buff with
      | .ok offset =>
        let b := eagBlkFreeItem b offset
        if eagBlkIfAllFree b then
          ({ m with blk := m.blk.set i none, blk_num := m.blk_num - 1 }, .ok ())
        else ({ m with blk := m.blk.set i (some b) }, .ok ())
      | .error _ => (m, .error .UNKNOWN)
    | _ => (m, .error .UNKNOWN)

/-- What users of the allocator do. -/
inductive Event where
  /-- `eag_blkmem_malloc_item`, with the answer of `eag_malloc`. -/
  | malloc (mem : Option Nat)
  /-- `eag_blkmem_free_item`. -/
  | free (buff : Nat)
deriving Repr, DecidableEq

/-- The allocator with the items its users hold. -/
structure Use where
  mem : EagBlkMem
  live : List Nat
deriving Repr, DecidableEq

def step (u : Use) : Event → Use
  | .malloc mem =>
    let r := eagBlkmemMallocItem u.mem mem
    { mem := r.1, live := r.2.toList ++ u.live }
  | .free buff => { mem := (eagBlkmemFreeItem u.mem buff).1, live := u.live.erase buff }

/-- What `eag_malloc` promises: an area apart from those of the blocks in the array. -/
def Fresh (m : EagBlkMem) (a : Nat) : Prop :=
  ∀ b, some b ∈ m.blk →
    b.addr + blkMemSize m.blk_item_size m.blk_item_num ≤ a ∨
      a + blkMemSize m.blk_item_size m.blk_item_num ≤ b.addr

instance {m : EagBlkMem} {a : Nat} : Decidable (Fresh m a) :=
  decidable_of_iff (∀ p ∈ m.blk, ∀ b ∈ p, b.addr + blkMemSize m.blk_item_size m.blk_item_num ≤ a ∨
    a + blkMemSize m.blk_item_size m.blk_item_num ≤ b.addr)
    ⟨fun h b hb => h _ hb b rfl, fun h p hp b hb => h b (by rw [Option.mem_def] at hb; exact hb ▸ hp)⟩

/-- `eag_malloc` keeps its promise, and users free what they hold (or `NULL`). -/
def Legal (u : Use) : Event → Prop
  | .malloc mem => ∀ a ∈ mem, Fresh u.mem a
  | .free buff => buff = 0 ∨ buff ∈ u.live

instance {u : Use} : (e : Event) → Decidable (Legal u e)
  | .malloc mem => inferInstanceAs (Decidable (∀ a ∈ mem, Fresh u.mem a))
  | .free buff => inferInstanceAs (Decidable (buff = 0 ∨ buff ∈ u.live))

end Blkmem
end DaemonGroup
