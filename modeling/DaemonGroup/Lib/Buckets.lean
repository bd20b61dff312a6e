import Mathlib.Logic.Function.Basic
import Mathlib.Data.List.Nodup

/-!
# DaemonGroup.Lib.Buckets

Hash tables of chained buckets. A table maps each hash value to the list of its nodes; `key` reads
the key of a node and `hash` the hash value of a key.

* `Keyed hash key T` — every node is in the bucket of its key, once, and no two nodes share a key.
* `find` — the node with a key, searched for in one bucket.
* `Keyed.insert`, `Keyed.erase`, `Keyed.congr` — adding a node with a new key, taking one out, and
  changing the keys of nodes that are not in the table.
-/

namespace DaemonGroup
namespace Lib
namespace Buckets

section
variable {α β κ : Type}

/-- The node `a` is in the table. -/
def Mem (T : β → List α) (a : α) : Prop := ∃ h, a ∈ T h

structure Keyed (hash : κ → β) (key : α → κ) (T : β → List α) : Prop where
  home : ∀ h, ∀ a ∈ T h, hash (key a) = h
  nodup : ∀ h, (T h).Nodup
  inj : ∀ a b, Mem T a → Mem T b → key a = key b → a = b

variable {hash : κ → β} {key key' : α → κ} {T : β → List α} {a b : α} {k : κ}

theorem Keyed.mem_home (h : Keyed hash key T) (ha : Mem T a) : a ∈ T (hash (key a)) := by
  obtain ⟨i, hi⟩ := ha
  rw [h.home i a hi]
  exact hi

theorem Keyed.empty : Keyed hash key (fun _ => ([] : List α)) :=
  ⟨fun _ _ ha => (by cases ha), fun _ => List.nodup_nil, fun _ _ ha => by
    obtain ⟨_, ha⟩ := ha
    cases ha⟩

theorem not_mem_empty : ¬ Mem (fun _ : β => ([] : List α)) a := by
  rintro ⟨_, ha⟩
  cases ha

/-- Keys of nodes outside the table may change. -/
theorem Keyed.congr (h : Keyed hash key T) (he : ∀ a, Mem T a → key' a = key a) :
    Keyed hash key' T := by
  refine ⟨fun i a ha => ?_, h.nodup, fun a b ha hb hab => ?_⟩
  · rw [he a ⟨i, ha⟩]
    exact h.home i a ha
  · rw [he a ha, he b hb] at hab
    exact h.inj a b ha hb hab

section
variable [DecidableEq κ]

/-- The first node of a bucket with key `k`. -/
def find (key : α → κ) (k : κ) (l : List α) : Option α := l.find? fun a => key a = k

theorem find_some (h : find key k (T (hash k)) = some a) : Mem T a ∧ key a = k := by
  refine ⟨⟨_, List.mem_of_find?_eq_some h⟩, ?_⟩
  simpa using List.find?_some h

theorem Keyed.find_none (h : Keyed hash key T) (hf : find key k (T (hash k)) = none)
    (ha : Mem T a) : key a ≠ k := by
  rintro rfl
  have := List.find?_eq_none.mp hf a (h.mem_home ha)
  simp at this

/-- The search finds the node of a key that is in the table. -/
theorem Keyed.find_eq (h : Keyed hash key T) (ha : Mem T a) :
    find key (key a) (T (hash (key a))) = some a := by
  cases hf : find key (key a) (T (hash (key a))) with
  | none => exact absurd rfl (h.find_none hf ha)
  | some b =>
    obtain ⟨hb, hk⟩ := find_some hf
    rw [h.inj b a hb ha hk]

end

section
variable [DecidableEq β]

/-- Put `a` at the front of its bucket. -/
def insert (hash : κ → β) (key : α → κ) (T : β → List α) (a : α) : β → List α :=
  Function.update T (hash (key a)) (a :: T (hash (key a)))

theorem mem_insert : Mem (insert hash key T a) b ↔ b = a ∨ Mem T b := by
  constructor
  · rintro ⟨i, hi⟩
    by_cases hia : i = hash (key a)
    · rw [insert, hia, Function.update_self] at hi
      exact (List.mem_cons.mp hi).imp id fun hb => ⟨_, hb⟩
    · rw [insert, Function.update_of_ne hia] at hi
      exact .inr ⟨i, hi⟩
  · rintro (rfl | ⟨i, hi⟩)
    · exact ⟨hash (key b), by simp [insert]⟩
    · refine ⟨i, ?_⟩
      by_cases hia : i = hash (key a)
      · rw [insert, hia, Function.update_self]
        exact List.mem_cons_of_mem _ (hia ▸ hi)
      · rw [insert, Function.update_of_ne hia]
        exact hi

theorem Keyed.insert (h : Keyed hash key T) (hnew : ∀ b, Mem T b → key b ≠ key a) :
    Keyed hash key (insert hash key T a) := by
  have hout : ¬ Mem T a := fun ha => hnew a ha rfl
  refine ⟨fun i b hb => ?_, fun i => ?_, fun b c hb hc hbc => ?_⟩
  · by_cases hia : i = hash (key a)
    · rw [Buckets.insert, hia, Function.update_self] at hb
      rcases List.mem_cons.mp hb with rfl | hb
      · exact hia.symm
      · exact (h.home _ b hb).trans hia.symm
    · rw [Buckets.insert, Function.update_of_ne hia] at hb
      exact h.home i b hb
  · by_cases hia : i = hash (key a)
    · rw [Buckets.insert, hia, Function.update_self]
      exact List.nodup_cons.mpr ⟨fun ha => hout ⟨_, ha⟩, h.nodup _⟩
    · rw [Buckets.insert, Function.update_of_ne hia]
      exact h.nodup i
  · rcases mem_insert.mp hb with rfl | hb' <;> rcases mem_insert.mp hc with rfl | hc'
    · rfl
    · exact absurd hbc.symm (hnew c hc')
    · exact absurd hbc (hnew b hb')
    · exact h.inj b c hb' hc' hbc

variable [DecidableEq α]

/-- Take `a` out of bucket `i`. -/
def erase (T : β → List α) (i : β) (a : α) : β → List α := Function.update T i ((T i).erase a)

theorem Keyed.mem_erase (h : Keyed hash key T) :
    Mem (erase T (hash (key a)) a) b ↔ Mem T b ∧ b ≠ a := by
  constructor
  · rintro ⟨i, hi⟩
    by_cases hia : i = hash (key a)
    · rw [erase, hia, Function.update_self, (h.nodup _).mem_erase_iff] at hi
      exact ⟨⟨_, hi.2⟩, hi.1⟩
    · rw [erase, Function.update_of_ne hia] at hi
      refine ⟨⟨i, hi⟩, ?_⟩
      rintro rfl
      exact hia (h.home i b hi).symm
  · rintro ⟨⟨i, hi⟩, hne⟩
    refine ⟨i, ?_⟩
    by_cases hia : i = hash (key a)
    · subst hia
      rw [erase, Function.update_self, (h.nodup _).mem_erase_iff]
      exact ⟨hne, hi⟩
    · rw [erase, Function.update_of_ne hia]
      exact hi

theorem Keyed.erase (h : Keyed hash key T) (a : α) :
    Keyed hash key (erase T (hash (key a)) a) := by
  refine ⟨fun i b hb => ?_, fun i => ?_, fun b c hb hc => ?_⟩
  · by_cases hia : i = hash (key a)
    · rw [Buckets.erase, hia, Function.update_self] at hb
      rw [hia]
      exact h.home _ b (List.mem_of_mem_erase hb)
    · rw [Buckets.erase, Function.update_of_ne hia] at hb
      exact h.home i b hb
  · by_cases hia : i = hash (key a)
    · rw [Buckets.erase, hia, Function.update_self]
      exact (h.nodup _).erase a
    · rw [Buckets.erase, Function.update_of_ne hia]
      exact h.nodup i
  · exact h.inj b c (h.mem_erase.mp hb).1 (h.mem_erase.mp hc).1

end

end

end Buckets
end Lib
end DaemonGroup
