import DaemonGroup.Lib.Chain
import DaemonGroup.Lib.Run
import Mathlib.Algebra.Order.Ring.Nat

/-!
# DaemonGroup.Pppoe.MemCache

The slab cache of `mem_cache.c`, over a memory of addresses. A block is one `malloc`ed area: its
header, then room for `item_num + 1` items, of which the first starts at the aligned address
`frist`. An item is a `priv` word followed by the data handed to the caller; `priv` is the block
of a live item and the next free item of one on the `recover` chain.

Addresses are natural numbers, zero is `NULL`; the results of `malloc` are inputs. The lists of the source (`list_add`, `list_del`) are Lean
lists of block addresses, first element first; `list_del` unlinks a block from whichever list it
is on.
-/

namespace DaemonGroup
namespace MemCache

def CACHE_MAX_BLKNUM : Nat := 128
def CACHE_DEFAULT_ITEMNUM : Nat := 512

/-- `sizeof(struct mem_item)`: one pointer. -/
def sizeofMemItem : Nat := 8

/-- `sizeof(struct mem_blk)`: the counter, three pointers and a list head. -/
def sizeofMemBlk : Nat := 48

/-- The header of `struct mem_blk`, without the list links. -/
structure MemBlk where
  free_num : Nat
  frist : Nat
  free : Nat
  recover : Nat
deriving Repr, DecidableEq

/-- `struct mem_cache`. -/
structure Cache where
  max_empty : Nat
  max_blk : Nat
  blk_num : Nat
  empty_num : Nat
  item_size : Nat
  item_num : Nat
  full_head : List Nat
  partial_head : List Nat
  empty_head : List Nat
deriving Repr, DecidableEq

/-- The cache with the memory it works in: the block headers, the `priv` words of the items, and
the blocks that are `malloc`ed and not freed. -/
structure Store where
  cache : Cache
  blk : Nat → MemBlk
  priv : Nat → Nat
  heap : List Nat

/-- `__get_free_item_blk`. -/
def getFreeItemBlk (c : Cache) : Option Nat :=
  match c.partial_head with
  | b :: _ => some b
  | [] =>
    match c.empty_head with
    | b :: _ => some b
    | [] => none

/-- `list_del(&blk->next)`. -/
def listDel (c : Cache) (b : Nat) : Cache :=
  { c with
    full_head := c.full_head.erase b
    partial_head := c.partial_head.erase b
    empty_head := c.empty_head.erase b }

/-- The item that `__blk_alloc_item` takes: the first of the `recover` chain, else the one that
`free` points to. -/
def nextItem (blk : MemBlk) : Nat :=
  if blk.recover ≠ 0 then blk.recover else blk.free

/-- `__blk_alloc_item`. -/
def blkAllocItem (s : Store) (b : Nat) : Store × Nat :=
  let blk := s.blk b
  let item := nextItem blk
  let blk' :=
    if blk.recover ≠ 0 then { blk with recover := s.priv item }
    else { blk with free := item + s.cache.item_size }
  ({ s with
      priv := Function.update s.priv item b
      blk := Function.update s.blk b { blk' with free_num := blk'.free_num - 1 } },
    item + sizeofMemItem)

/-- `__blk_free_item`. -/
def blkFreeItem (s : Store) (b item : Nat) : Store :=
  let blk := s.blk b
  { s with
    priv := Function.update s.priv item blk.recover
    blk := Function.update s.blk b
      { blk with recover := item, free_num := blk.free_num + 1 } }

/-- The size `mem_blk_create` asks `malloc` for, in 32-bit arithmetic. -/
def blkMemSize (item_size item_num : Nat) : Nat :=
  (sizeofMemBlk + item_size * (item_num + 1)) % 2 ^ 32

/-- The first item of the block at `a`: the next address after the header that is a multiple of
the item size, when that is a power of two. -/
def firstItem (a item_size : Nat) : Nat :=
  a + sizeofMemBlk - ((a + sizeofMemBlk) % 2 ^ 32 &&& (item_size - 1)) + item_size

/-- `mem_blk_create` when `malloc` returned `a`. -/
def memBlkCreate (s : Store) (a : Nat) : Store :=
  { s with
    heap := a :: s.heap
    blk := Function.update s.blk a
      { free_num := s.cache.item_num
        frist := firstItem a s.cache.item_size
        free := firstItem a s.cache.item_size
        recover := 0 } }

/-- `mem_blk_destroy`. -/
def memBlkDestroy (s : Store) (b : Nat) : Store :=
  { s with heap := s.heap.erase b }

/-- The list a block goes to when an item of it is about to be taken: `full_head` when it is the
last one, `partial_head` otherwise. -/
def listTaken (c : Cache) (free_num : Nat) (b : Nat) : Cache :=
  if free_num = 1 then { c with full_head := b :: c.full_head }
  else { c with partial_head := b :: c.partial_head }

/-- `mem_cache_alloc`; `mem` is what `malloc` returns if it is called. -/
def memCacheAlloc (s : Store) (mem : Option Nat) : Store × Option Nat :=
  match getFreeItemBlk s.cache with
  | none =>
    if s.cache.max_blk = s.cache.blk_num then (s, none)
    else
      match mem with
      | none => (s, none)
      | some a =>
        let s := memBlkCreate s a
        let c := listTaken s.cache (s.blk a).free_num a
        let r := blkAllocItem { s with cache := { c with blk_num := c.blk_num + 1 } } a
        (r.1, some r.2)
  | some b =>
    let n := (s.blk b).free_num
    let c :=
      if n = s.cache.item_num then
        let c := listDel s.cache b
        listTaken { c with empty_num := c.empty_num - 1 } n b
      else if n = 1 then
        let c := listDel s.cache b
        { c with full_head := b :: c.full_head }
      else s.cache
    let r := blkAllocItem { s with cache := c } b
    (r.1, some r.2)

/-- `mem_cache_free`. -/
def memCacheFree (s : Store) (data : Nat) : Store :=
  if data = 0 then s
  else
    let item := data - sizeofMemItem
    let b := s.priv item
    let s := blkFreeItem s b item
    let n := (s.blk b).free_num
    if n = s.cache.item_num then
      let c := listDel s.cache b
      if c.empty_num = c.max_empty then
        memBlkDestroy { s with cache := { c with blk_num := c.blk_num - 1 } } b
      else
        { s with
          blk := Function.update s.blk b
            { s.blk b with free_num := c.item_num, free := (s.blk b).frist, recover := 0 }
          cache := { c with empty_head := b :: c.empty_head, empty_num := c.empty_num + 1 } }
    else if n = 1 then
      let c := listDel s.cache b
      { s with cache := { c with partial_head := b :: c.partial_head } }
    else s

/-- One turn of the loop of `mem_cache_create`: an empty block, if `malloc` gives one. -/
def createBlk (s : Store) (mem : Option Nat) : Store :=
  match mem with
  | none => s
  | some a =>
    let s := memBlkCreate s a
    { s with
      cache := { s.cache with
        empty_head := s.cache.empty_head ++ [a]
        blk_num := s.cache.blk_num + 1
        empty_num := s.cache.empty_num + 1 } }

/-- A cache without blocks, as `mem_cache_create` sets it up before its loop. -/
def bareStore (max_blk max_empty item_size item_num : Nat) : Store where
  cache :=
    { max_empty := max_empty
      max_blk := if max_blk = 0 then CACHE_MAX_BLKNUM else max_blk
      blk_num := 0
      empty_num := 0
      item_size := (item_size + sizeofMemItem) % 2 ^ 32
      item_num := if item_num = 0 then CACHE_DEFAULT_ITEMNUM else item_num
      full_head := []
      partial_head := []
      empty_head := [] }
  blk _ := { free_num := 0, frist := 0, free := 0, recover := 0 }
  priv _ := 0
  heap := []

/-- `mem_cache_create`; `mems` are the results of `malloc` for the `max_empty` blocks of the
loop. -/
def memCacheCreate (max_blk max_empty item_size item_num : Nat) (mems : List (Option Nat)) :
    Option Store :=
  if max_blk > CACHE_MAX_BLKNUM ∨ (max_blk ≠ 0 ∧ max_empty > max_blk) then none
  else some ((mems.take max_empty).foldl createBlk (bareStore max_blk max_empty item_size item_num))

/-- What users of the cache do. -/
inductive Event where
  /-- `mem_cache_alloc`, with the answer of `malloc`. -/
  | alloc (mem : Option Nat)
  /-- `mem_cache_free`. -/
  | free (data : Nat)
deriving Repr, DecidableEq

/-- The cache with the items its users hold. -/
structure Use where
  store : Store
  live : List Nat

def step (u : Use) : Event → Use
  | .alloc mem =>
    let r := memCacheAlloc u.store mem
    { store := r.1, live := r.2.toList ++ u.live }
  | .free data => { store := memCacheFree u.store data, live := u.live.erase data }

/-- The bytes of the block at `a`. -/
def blkEnd (s : Store) (a : Nat) : Nat :=
  a + blkMemSize s.cache.item_size s.cache.item_num

/-- What `malloc` promises: no null address, and an area apart from the ones it gave before. -/
def Fresh (s : Store) (a : Nat) : Prop :=
  a ≠ 0 ∧ ∀ b ∈ s.heap, blkEnd s b ≤ a ∨ blkEnd s a ≤ b

instance {s : Store} {a : Nat} : Decidable (Fresh s a) :=
  inferInstanceAs (Decidable (_ ∧ _))

/-- `malloc` keeps its promise, and users free what they hold (or `NULL`). -/
def Legal (u : Use) : Event → Prop
  | .alloc mem => ∀ a ∈ mem, Fresh u.store a
  | .free data => data = 0 ∨ data ∈ u.live

instance {u : Use} : (e : Event) → Decidable (Legal u e)
  | .alloc mem => inferInstanceAs (Decidable (∀ a ∈ mem, Fresh u.store a))
  | .free data => inferInstanceAs (Decidable (data = 0 ∨ data ∈ u.live))

/-- `malloc` keeps its promise through the loop of `mem_cache_create`. -/
def FreshAll : Store → List (Option Nat) → Prop
  | _, [] => True
  | s, mem :: mems => (∀ a ∈ mem, Fresh s a) ∧ FreshAll (createBlk s mem) mems

instance decFreshAll : ∀ (s : Store) (mems : List (Option Nat)), Decidable (FreshAll s mems)
  | _, [] => inferInstanceAs (Decidable True)
  | s, mem :: mems =>
    have := decFreshAll (createBlk s mem) mems
    inferInstanceAs (Decidable ((∀ a ∈ mem, Fresh s a) ∧ FreshAll (createBlk s mem) mems))

end MemCache
end DaemonGroup
