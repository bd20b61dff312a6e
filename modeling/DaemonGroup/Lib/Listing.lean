import Mathlib.Data.List.Nodup
import Mathlib.Logic.Function.Basic

/-!
# DaemonGroup.Lib.Listing

Lists that keep an index of something: `Lists l P` says that `l` has exactly the elements with `P`,
each of them once. The lemmas say how an index follows what it is an index of: an element is added
(`Lists.cons`, `Lists.insert`), taken out (`Lists.erase`), or neither (`Lists.congr`).

`Files T place` says the same of a table of lists: every element that has a place is in the list of its
place, once, and no other element is in the table.
-/

namespace DaemonGroup
namespace Lib

section
variable {α : Type} {P Q : α → Prop} {l m : List α} {a : α}

/-- The list has the elements with `P`, each once. -/
def Lists (l : List α) (P : α → Prop) : Prop := l.Nodup ∧ ∀ a, a ∈ l ↔ P a

theorem Lists.congr (h : Lists l P) (he : ∀ a, P a ↔ Q a) : Lists l Q :=
  ⟨h.1, fun a => (h.2 a).trans (he a)⟩

theorem Lists.nil (h : ∀ a, ¬ P a) : Lists [] P :=
  ⟨List.nodup_nil, fun a => by simp [h a]⟩

/-- A new element goes anywhere into the list. -/
theorem Lists.insert (h : Lists (l ++ m) P) (ha : ¬ P a) (hQ : ∀ b, Q b ↔ b = a ∨ P b) :
    Lists (l ++ a :: m) Q := by
  refine ⟨?_, fun b => ?_⟩
  · rw [List.nodup_middle, List.nodup_cons]
    exact ⟨fun hm => ha ((h.2 a).mp hm), h.1⟩
  · rw [hQ, ← h.2 b]
    simp only [List.mem_append, List.mem_cons]
    tauto

theorem Lists.cons (h : Lists l P) (ha : ¬ P a) (hQ : ∀ b, Q b ↔ b = a ∨ P b) : Lists (a :: l) Q :=
  Lists.insert (l := []) h ha hQ

theorem Lists.erase [DecidableEq α] (h : Lists l P) (hQ : ∀ b, Q b ↔ P b ∧ b ≠ a) :
    Lists (l.erase a) Q := by
  refine ⟨h.1.erase a, fun b => ?_⟩
  rw [hQ, ← h.2 b, h.1.mem_erase_iff]
  tauto

/-- A search that never gets stuck is a search. -/
theorem findM?_total {f : α → Option Bool} {g : α → Bool}
    (h : ∀ a ∈ l, f a = some (g a)) : l.findM? f = some (l.find? g) := by
  induction l with
  | nil => rfl
  | cons a l ih =>
    have ha := h a (by simp)
    have hl := ih fun b hb => h b (by simp [hb])
    cases hg : g a <;> simp [List.findM?, ha, hg, hl]

/-! ## Tables -/

variable {β : Type} {T : β → List α} {place place' : α → Option β} {i : β}

/-- The elements are in the lists of their places. -/
def Files (T : β → List α) (place : α → Option β) : Prop := ∀ i, Lists (T i) fun a => place a = some i

theorem Files.mem (h : Files T place) : a ∈ T i ↔ place a = some i := (h i).2 a

theorem Files.empty (h : ∀ a, place a = none) : Files (fun _ => []) place := fun i =>
  Lists.nil fun a => by simp [h a]

/-- An element without a place is put at the head of a list. -/
theorem Files.put [DecidableEq β] [DecidableEq α] (h : Files T place) (ha : place a = none) :
    Files (Function.update T i (a :: T i)) (Function.update place a (some i)) := by
  have hplace : ∀ b j, Function.update place a (some i) b = some j ↔ b = a ∧ i = j ∨ place b = some j := by
    intro b j
    by_cases hb : b = a
    · subst hb
      simp [ha]
    · simp [hb]
  intro j
  by_cases hj : j = i
  · subst hj
    rw [Function.update_self]
    exact (h j).cons (by simp [ha]) fun b => by rw [hplace]; simp
  · rw [Function.update_of_ne hj]
    refine (h j).congr fun b => ?_
    rw [hplace]
    simp [Ne.symm hj]

/-- An element is taken out of its list. -/
theorem Files.out [DecidableEq α] (h : Files T place) :
    Files (fun j => (T j).erase a) (Function.update place a none) := by
  intro j
  refine (h j).erase fun b => ?_
  by_cases hb : b = a
  · subst hb
    simp
  · simp [hb]

end

end Lib
end DaemonGroup
