import DaemonGroup.Lib.Bytes
import Mathlib.Data.List.Pairwise
import Mathlib.Order.Monotone.Basic
import Mathlib.Order.Nat

/-!
# DaemonGroup.Lib.Stores

Programs that store bytes, as the list of what they store.

* `stores m s` — the memory after the stores `s`, in this order.
* `Clear a n s` — no store of `s` touches the `n` bytes from address `a` on.
* `read_stores_of_clear` and `read_stores_of_mem` — what a read sees of stores that do not touch each
  other.
* `pairwise_middle` — from where the stores are it is decided that they do not touch each other.
* `each f i l` — the stores of a loop over a list, the first element having the number `i`.
-/

namespace DaemonGroup
namespace Lib

section
variable {α β : Type}

/-- The memory after the stores `s`, each with the address it begins at. -/
def stores (m : Nat → α) (s : List (Nat × List α)) : Nat → α :=
  s.foldl (fun m w => Bytes.write m w.1 w.2) m

/-- A store does not touch the `n` bytes from `a` on. -/
def Misses (a n : Nat) (w : Nat × List α) : Prop := a + n ≤ w.1 ∨ w.1 + w.2.length ≤ a

/-- No store touches the `n` bytes from `a` on. -/
def Clear (a n : Nat) (s : List (Nat × List α)) : Prop := ∀ w ∈ s, Misses a n w

/-- Two stores do not touch each other. -/
def Apart (v w : Nat × List α) : Prop := Misses v.1 v.2.length w

/-- Where a store begins and how long it is. -/
def span (w : Nat × List α) : Nat × Nat := (w.1, w.2.length)

/-- Two places do not overlap. -/
def Separate (v w : Nat × Nat) : Prop := v.1 + v.2 ≤ w.1 ∨ w.1 + w.2 ≤ v.1

/-- The stores of a loop. -/
def each (f : Nat → β → List (Nat × List α)) : Nat → List β → List (Nat × List α)
  | _, [] => []
  | i, x :: l => f i x ++ each f (i + 1) l

instance (v w : Nat × Nat) : Decidable (Separate v w) := inferInstanceAs (Decidable (_ ∨ _))

variable {m : Nat → α} {s t : List (Nat × List α)} {v w : Nat × List α} {a n i : Nat}

theorem stores_append : stores m (s ++ t) = stores (stores m s) t := List.foldl_append

theorem clear_cons : Clear a n (w :: s) ↔ Misses a n w ∧ Clear a n s := List.forall_mem_cons

theorem read_stores_of_clear (h : Clear a n s) :
    Bytes.read (stores m s) a n = Bytes.read m a n := by
  induction s generalizing m with
  | nil => rfl
  | cons w s ih =>
    obtain ⟨hw, hs⟩ := clear_cons.mp h
    have hrest : Bytes.read (stores (Bytes.write m w.1 w.2) s) a n =
        Bytes.read (Bytes.write m w.1 w.2) a n := ih hs
    exact hrest.trans (Bytes.read_write_of_disjoint hw)

/-- Of stores that do not touch each other every one is read back. -/
theorem read_stores_of_mem (hs : s.Pairwise Apart) (hw : w ∈ s) :
    Bytes.read (stores m s) w.1 w.2.length = w.2 := by
  obtain ⟨front, back, rfl⟩ := List.append_of_mem hw
  have hback : Clear w.1 w.2.length back := by
    intro u hu
    have hpair := (List.pairwise_append.mp hs).2.1
    exact List.rel_of_pairwise_cons hpair hu
  have hcons : stores m (front ++ w :: back) =
      stores (Bytes.write (stores m front) w.1 w.2) back := stores_append
  rw [hcons, read_stores_of_clear hback, Bytes.read_write_self]

/-- Whether stores touch each other depends on where they are only. -/
theorem pairwise_apart_iff : s.Pairwise Apart ↔ (s.map span).Pairwise Separate := by
  rw [List.pairwise_map]
  rfl

/-- Stores below an address and stores from it on do not touch each other. -/
theorem pairwise_middle {u : List (Nat × List α)} {k : Nat}
    (hsu : ((s ++ u).map span).Pairwise Separate) (hlow : ∀ v ∈ (s ++ u).map span, v.1 + v.2 ≤ k)
    (ht : t.Pairwise Apart) (hhigh : ∀ w ∈ t, k ≤ w.1) : (s ++ t ++ u).Pairwise Apart := by
  obtain ⟨hs, hu, hcross⟩ := List.pairwise_append.mp (pairwise_apart_iff.mpr hsu)
  refine List.pairwise_append.mpr ⟨List.pairwise_append.mpr ⟨hs, ht, ?_⟩, hu, ?_⟩
  · intro v hv w hw
    have hend := hlow (span v) (List.mem_map_of_mem (List.mem_append_left _ hv))
    exact Or.inl (hend.trans (hhigh w hw))
  · intro v hv w hw
    rcases List.mem_append.mp hv with hv | hv
    · exact hcross v hv w hw
    · have hend := hlow (span w) (List.mem_map_of_mem (List.mem_append_right _ hw))
      exact Or.inr (hend.trans (hhigh v hv))

/-- A place below the address `k` that no store below it touches. -/
theorem clear_middle {u : List (Nat × List α)} {k : Nat}
    (hsu : ∀ v ∈ (s ++ u).map span, Separate (a, n) v) (ha : a + n ≤ k)
    (hhigh : ∀ w ∈ t, k ≤ w.1) : Clear a n (s ++ t ++ u) := by
  intro w hw
  rcases List.mem_append.mp hw with hw | hw
  · rcases List.mem_append.mp hw with hw | hw
    · exact hsu (span w) (List.mem_map_of_mem (List.mem_append_left _ hw))
    · exact Or.inl (ha.trans (hhigh w hw))
  · exact hsu (span w) (List.mem_map_of_mem (List.mem_append_right _ hw))

/-- Where the stores of a loop are told by the numbers of its rounds. -/
theorem mem_each {f : Nat → β → List (Nat × List α)} {l : List β} (h : w ∈ each f i l) :
    ∃ k x, l[k]? = some x ∧ w ∈ f (i + k) x := by
  induction l generalizing i with
  | nil => cases h
  | cons x l ih =>
    rcases List.mem_append.mp h with h | h
    · exact ⟨0, x, rfl, h⟩
    · obtain ⟨k, y, hk, hy⟩ := ih h
      refine ⟨k + 1, y, by simpa using hk, ?_⟩
      have hik : i + (k + 1) = i + 1 + k := by omega
      rwa [hik]

theorem each_mem {f : Nat → β → List (Nat × List α)} {l : List β} {k : Nat} {x : β}
    (hk : l[k]? = some x) (h : w ∈ f (i + k) x) : w ∈ each f i l := by
  induction l generalizing i k with
  | nil => simp at hk
  | cons y l ih =>
    cases k with
    | zero =>
      obtain rfl : y = x := by simpa using hk
      exact List.mem_append_left _ h
    | succ k =>
      have hik : i + (k + 1) = i + 1 + k := by omega
      rw [hik] at h
      exact List.mem_append_right _ (ih (by simpa using hk) h)

/-- Rounds whose stores stay each in a part of its own do not touch each other. -/
theorem pairwise_each {f : Nat → β → List (Nat × List α)} {start : Nat → Nat} {l : List β}
    (hin : ∀ i x, ∀ w ∈ f i x, start i ≤ w.1 ∧ w.1 + w.2.length ≤ start (i + 1))
    (hmono : Monotone start) (hf : ∀ i x, (f i x).Pairwise Apart) :
    (each f i l).Pairwise Apart := by
  induction l generalizing i with
  | nil => exact List.Pairwise.nil
  | cons x l ih =>
    refine List.pairwise_append.mpr ⟨hf i x, ih, fun v hv w hw => ?_⟩
    obtain ⟨k, y, -, hy⟩ := mem_each hw
    have hv' := (hin i x v hv).2
    have hw' := (hin _ y w hy).1
    have hle : start (i + 1) ≤ start (i + 1 + k) := hmono (Nat.le_add_right _ _)
    exact Or.inl (by omega)

end

end Lib
end DaemonGroup
