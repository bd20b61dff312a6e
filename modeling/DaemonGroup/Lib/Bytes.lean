import Mathlib.Data.List.Basic

/-!
# DaemonGroup.Lib.Bytes

Byte memories: a memory is a function of addresses.

* `read m a n` — the `n` bytes from address `a` on; `write m a l` — the memory with the bytes `l`
  at `a`.
* `read_add` splits a read, `read_write`, `read_write_self`, `read_write_of_disjoint` say what a read sees of a
  write.
-/

namespace DaemonGroup
namespace Lib
namespace Bytes

section
variable {α : Type}

/-- The `n` bytes from address `a` on. -/
def read (m : Nat → α) (a n : Nat) : List α := (List.range n).map fun i => m (a + i)

/-- The memory with the bytes `l` at address `a`. -/
def write (m : Nat → α) (a : Nat) (l : List α) : Nat → α := fun i =>
  if a ≤ i then l.getD (i - a) (m i) else m i

variable {m m' : Nat → α} {a b n k : Nat} {l : List α}

@[simp] theorem length_read : (read m a n).length = n := by simp [read]

theorem read_congr (h : ∀ i, a ≤ i → i < a + n → m i = m' i) : read m a n = read m' a n := by
  refine List.map_congr_left fun i hi => h _ (by omega) ?_
  have := List.mem_range.mp hi
  omega

theorem read_add : read m a (n + k) = read m a n ++ read m (a + n) k := by
  simp only [read, List.range_add, List.map_append, List.map_map]
  congr 1
  refine List.map_congr_left fun i _ => ?_
  simp [Nat.add_assoc]

/-- The part of a read behind `l.length` bytes. -/
theorem read_middle {e r : List α} (h : read m a n = l ++ e ++ r) :
    read m (a + l.length) e.length = e := by
  have hn : n = l.length + e.length + r.length := by
    have hlen := congrArg List.length h
    simpa [Nat.add_assoc] using hlen
  rw [hn, read_add, read_add] at h
  have hfront := (List.append_inj h (by simp)).1
  exact (List.append_inj hfront (by simp)).2

theorem write_of_lt (h : b < a) : write m a l b = m b := by
  simp [write, Nat.not_le.mpr h]

theorem write_of_ge (h : a + l.length ≤ b) : write m a l b = m b := by
  have h1 : l.length ≤ b - a := by omega
  simp [write, List.getD_eq_getElem?_getD, List.getElem?_eq_none h1]

theorem write_same (h : m b = m' b) : write m a l b = write m' a l b := by
  simp only [write, h]

theorem write_nil : write m a [] = m := by
  funext i
  simp [write]

theorem write_self_one {x : α} : write m a [x] a = x := by
  simp [write]

/-- Bytes written one behind the other. -/
theorem write_append {l' : List α} : write (write m a l) (a + l.length) l' = write m a (l ++ l') := by
  funext i
  rcases Nat.lt_or_ge i a with h | h
  · rw [write_of_lt (by omega), write_of_lt h, write_of_lt h]
  · rcases Nat.lt_or_ge i (a + l.length) with h' | h'
    · rw [write_of_lt h', write, write, if_pos h, if_pos h]
      simp only [List.getD_eq_getElem?_getD]
      rw [List.getElem?_append_left (by omega)]
    · rw [write, if_pos h', write_of_ge h', write, if_pos h]
      simp only [List.getD_eq_getElem?_getD]
      rw [List.getElem?_append_right (by omega), Nat.sub_sub]

/-- A read at the address of a write. -/
theorem read_write : read (write m a l) a n = l.take n ++ (read m a n).drop l.length := by
  refine List.ext_getElem (by simp; omega) ?_
  intro i h₁ h₂
  have hi : i < n := by simpa using h₁
  have hat : write m a l (a + i) = l.getD i (m (a + i)) := by
    rw [write, if_pos (Nat.le_add_right a i), Nat.add_sub_cancel_left]
  rw [List.getElem_append]
  split
  · rename_i h
    have hl : i < l.length := by
      rw [List.length_take] at h
      omega
    rw [List.getElem_take]
    simp [read, hat, List.getD_eq_getElem?_getD, hl]
  · rename_i h
    have hl : l.length ≤ i := by
      rw [List.length_take] at h
      omega
    have hk : l.length + (i - (l.take n).length) = i := by
      rw [List.length_take]
      omega
    rw [List.getElem_drop]
    simp only [hk]
    simp [read, hat, List.getD_eq_getElem?_getD, List.getElem?_eq_none hl]

theorem read_write_of_disjoint (h : b + n ≤ a ∨ a + l.length ≤ b) :
    read (write m a l) b n = read m b n := by
  refine read_congr fun i h1 h2 => ?_
  rcases h with h | h
  · exact write_of_lt (by omega)
  · exact write_of_ge (by omega)

theorem read_write_self : read (write m a l) a l.length = l := by
  refine List.ext_getElem (by simp) fun i h1 h2 => ?_
  simp [read, write, List.getD_eq_getElem?_getD, h2]

end

end Bytes
end Lib
end DaemonGroup
