import Mathlib.Data.List.Basic
import Mathlib.Data.List.Nodup

/-!
# DaemonGroup.Lib.Dll

Doubly linked lists in a memory of `next` and `prev` fields.

* `Seg next prev b l e` — the nodes `l` are linked in order, the first has `b` before it and the last
  has `e` after it.
* `Dll next prev first last l` — the same for a whole list with its two ends.
* `seek` — the loop that looks for a node (`Seg.seek`).
* `Dll.unlink` — a node is taken out; `Dll.insert` — a node is put in, anywhere.

The nodes are of an arbitrary type; the fields after an operation are given by what they are for the
nodes of the list.
-/

namespace DaemonGroup
namespace Lib

section
variable {α : Type}

/-- The nodes `l` are linked, between `b` and `e`. -/
def Seg (next prev : α → Option α) : Option α → List α → Option α → Prop
  | _, [], _ => True
  | b, a :: l, e => prev a = b ∧ next a = l.head?.or e ∧ Seg next prev (some a) l e

variable {next prev next' prev' : α → Option α} {b e b' e' first last first' last' : Option α}
  {a t : α} {l m l₁ l₂ : List α}

theorem seg_append : Seg next prev b (l ++ m) e ↔
    Seg next prev b l (m.head?.or e) ∧ Seg next prev (l.getLast?.or b) m e := by
  induction l generalizing b with
  | nil => simp [Seg]
  | cons a l ih =>
    have hhead : (l ++ m).head?.or e = l.head?.or (m.head?.or e) := by
      cases l <;> simp
    have hlast : (a :: l).getLast?.or b = l.getLast?.or (some a) := by
      rw [List.getLast?_cons]
      cases l.getLast? <;> rfl
    rw [List.cons_append, Seg, Seg, ih, hhead, hlast]
    tauto

theorem Seg.congr (h : Seg next prev b l e) (hn : ∀ a ∈ l, next' a = next a)
    (hp : ∀ a ∈ l, prev' a = prev a) : Seg next' prev' b l e := by
  induction l generalizing b with
  | nil => trivial
  | cons a l ih =>
    obtain ⟨hb, he, hl⟩ := h
    refine ⟨?_, ?_, ih hl (fun x hx => hn x (by simp [hx])) fun x hx => hp x (by simp [hx])⟩
    · rw [hp a (by simp), hb]
    · rw [hn a (by simp), he]

/-- The nodes `l` are linked from `first` to `last`. -/
structure Dll (next prev : α → Option α) (first last : Option α) (l : List α) : Prop where
  nodup : l.Nodup
  first : first = l.head?
  last : last = l.getLast?
  seg : Seg next prev none l none

theorem Dll.nil : Dll next prev none none [] := ⟨List.nodup_nil, rfl, rfl, trivial⟩

theorem Dll.congr (h : Dll next prev first last l) (hn : ∀ a ∈ l, next' a = next a)
    (hp : ∀ a ∈ l, prev' a = prev a) : Dll next' prev' first last l :=
  ⟨h.nodup, h.first, h.last, h.seg.congr hn hp⟩

/-- The neighbours of a node. -/
theorem Dll.around (h : Dll next prev first last (l₁ ++ t :: l₂)) :
    prev t = l₁.getLast? ∧ next t = l₂.head? := by
  obtain ⟨-, hp, hn, -⟩ := seg_append.mp h.seg
  simp only [Option.or_none] at hp hn
  exact ⟨hp, hn⟩

/-- `while (p != NULL) { if (f(p)) break; p = p->next; }`, for at most `n` rounds. What cannot be read
has no value. -/
def seek (next : α → Option (Option α)) (f : α → Option Bool) : Nat → Option α → Option (Option α)
  | _, none => some none
  | 0, some _ => none
  | n + 1, some a => do
    if ← f a then pure (some a) else seek next f n (← next a)

/-- A search through a linked list ends, and finds what a search through its nodes finds. -/
theorem Seg.seek {read : α → Option (Option α)} {f : α → Option Bool} {g : α → Bool} {n : Nat}
    (h : Seg next prev b l none) (hr : ∀ a ∈ l, read a = some (next a))
    (hf : ∀ a ∈ l, f a = some (g a)) (hn : l.length ≤ n) :
    seek read f n l.head? = some (l.find? g) := by
  induction l generalizing b n with
  | nil => cases n <;> rfl
  | cons a l ih =>
    obtain ⟨-, he, hl⟩ := h
    cases n with
    | zero => simp at hn
    | succ n =>
      have ha := hf a (by simp)
      have hrest := ih hl (fun x hx => hr x (by simp [hx])) (fun x hx => hf x (by simp [hx]))
        (Nat.le_of_succ_le_succ hn)
      rw [Option.or_none] at he
      cases hg : g a with
      | true => simp [Lib.seek, ha, hg]
      | false => simp [Lib.seek, ha, hg, hr a, he, hrest]

variable [DecidableEq α]

/-- Another node follows the last one. -/
theorem Seg.setEnd (h : Seg next prev b l e) (hd : l.Nodup)
    (hn : ∀ a ∈ l, next' a = if l.getLast? = some a then e' else next a)
    (hp : ∀ a ∈ l, prev' a = prev a) : Seg next' prev' b l e' := by
  induction l generalizing b with
  | nil => trivial
  | cons a l ih =>
    obtain ⟨hb, he, hl⟩ := h
    have ha : a ∉ l := (List.nodup_cons.mp hd).1
    refine ⟨by rw [hp a (by simp), hb], ?_, ih hl (List.nodup_cons.mp hd).2 (fun x hx => ?_)
      fun x hx => hp x (by simp [hx])⟩
    · rw [hn a (by simp)]
      cases l with
      | nil => simp
      | cons x l =>
        have hne : (a :: x :: l).getLast? ≠ some a := by
          intro hlast
          rw [List.getLast?_cons_cons] at hlast
          exact ha (List.mem_of_getLast? hlast)
        rw [if_neg hne, he]
        rfl
    · rw [hn x (by simp [hx])]
      cases l with
      | nil => cases hx
      | cons y l => rw [List.getLast?_cons_cons]

/-- Another node comes before the first one. -/
theorem Seg.setStart (h : Seg next prev b l e) (hd : l.Nodup) (hn : ∀ a ∈ l, next' a = next a)
    (hp : ∀ a ∈ l, prev' a = if l.head? = some a then b' else prev a) : Seg next' prev' b' l e := by
  cases l with
  | nil => trivial
  | cons a l =>
    obtain ⟨hb, he, hl⟩ := h
    have ha : a ∉ l := (List.nodup_cons.mp hd).1
    refine ⟨by rw [hp a (by simp)]; simp, by rw [hn a (by simp), he], hl.congr
      (fun x hx => hn x (by simp [hx])) fun x hx => ?_⟩
    have hne : (a :: l).head? ≠ some x := by
      rintro hax
      cases hax
      exact ha hx
    rw [hp x (by simp [hx]), if_neg hne]

/-- A node is taken out: its neighbours, or the ends, are linked with each other. -/
theorem Dll.unlink (h : Dll next prev first last (l₁ ++ t :: l₂))
    (hn : ∀ a ∈ l₁ ++ l₂, next' a = if prev t = some a then next t else next a)
    (hp : ∀ a ∈ l₁ ++ l₂, prev' a = if next t = some a then prev t else prev a)
    (hf : first' = if prev t = none then next t else first)
    (hl : last' = if next t = none then prev t else last) :
    Dll next' prev' first' last' (l₁ ++ l₂) := by
  obtain ⟨hprev, hnext⟩ := h.around
  rw [hprev] at hn hf hp hl
  rw [hnext] at hn hf hp hl
  have hd := h.nodup
  rw [List.nodup_middle, List.nodup_cons] at hd
  obtain ⟨hd₁, hd₂, hdis⟩ := List.nodup_append.mp hd.2
  obtain ⟨hs₁, -, -, hs₂⟩ := seg_append.mp h.seg
  refine ⟨hd.2, ?_, ?_, seg_append.mpr ⟨?_, ?_⟩⟩
  · rw [hf, h.first]
    cases l₁ <;> simp
  · rw [hl, h.last]
    cases l₂ <;> simp [List.getLast?_append]
  · simp only [Option.or_none]
    refine hs₁.setEnd hd₁ (fun a ha => hn a (by simp [ha])) fun a ha => ?_
    rw [hp a (by simp [ha]), if_neg]
    intro hhead
    exact hdis a ha a (List.mem_of_head? hhead) rfl
  · simp only [Option.or_none]
    refine hs₂.setStart hd₂ (fun a ha => ?_) fun a ha => hp a (by simp [ha])
    rw [hn a (by simp [ha]), if_neg]
    intro hlast
    exact hdis a (List.mem_of_getLast? hlast) a ha rfl

/-- A node is put in between others, or at an end. -/
theorem Dll.insert (h : Dll next prev first last (l₁ ++ l₂)) (ht : t ∉ l₁ ++ l₂)
    (hn : ∀ a ∈ l₁ ++ l₂, next' a = if l₁.getLast? = some a then some t else next a)
    (hp : ∀ a ∈ l₁ ++ l₂, prev' a = if l₂.head? = some a then some t else prev a)
    (hnt : next' t = l₂.head?) (hpt : prev' t = l₁.getLast?)
    (hf : first' = if l₁ = [] then some t else first)
    (hl : last' = if l₂ = [] then some t else last) :
    Dll next' prev' first' last' (l₁ ++ t :: l₂) := by
  obtain ⟨hd₁, hd₂, hdis⟩ := List.nodup_append.mp h.nodup
  obtain ⟨hs₁, hs₂⟩ := seg_append.mp h.seg
  refine ⟨?_, ?_, ?_, seg_append.mpr ⟨?_, ?_, ?_, ?_⟩⟩
  · rw [List.nodup_middle, List.nodup_cons]
    exact ⟨ht, h.nodup⟩
  · rw [hf, h.first]
    cases l₁ <;> simp
  · rw [hl, h.last]
    cases l₂ <;> simp [List.getLast?_append]
  · refine hs₁.setEnd hd₁ (fun a ha => hn a (by simp [ha])) fun a ha => ?_
    rw [hp a (by simp [ha]), if_neg]
    intro hhead
    exact hdis a ha a (List.mem_of_head? hhead) rfl
  · rw [hpt, Option.or_none]
  · rw [hnt, Option.or_none]
  · refine hs₂.setStart hd₂ (fun a ha => ?_) fun a ha => hp a (by simp [ha])
    rw [hn a (by simp [ha]), if_neg]
    intro hlast
    exact hdis a (List.mem_of_getLast? hlast) a ha rfl

end

end Lib
end DaemonGroup
