import Mathlib.Data.List.Basic
import Mathlib.Tactic.Common

/-!
# DaemonGroup.Lib.Tags

Tags in a row: a type and a length of two octets each, the more significant one first, and the value,
which is what the length counts. One type marks the end of the list; its length means nothing.

* `Split e p ts rest` — the octets `p` are the tags `ts` and `rest`, at which the list ends or a tag
  overruns what is left. There is one split of every `p`: `exists_split`, `Split.unique`.
* `shortAt` — the number that two octets spell; `octets_type`, `octets_len` read the head of a tag.
-/

namespace DaemonGroup
namespace Lib
namespace Tags

structure Tag where
  type : UInt16
  value : List UInt8
  fits : value.length < 65536
deriving DecidableEq, Repr

/-- A number in two octets. -/
def octets16 (n : Nat) : List UInt8 := [UInt8.ofNat (n / 256), UInt8.ofNat n]

/-- The number that the two octets at `i` spell. -/
def shortAt (p : List UInt8) (i : Nat) : Nat := (p.getD i 0).toNat * 256 + (p.getD (i + 1) 0).toNat

def Tag.octets (t : Tag) : List UInt8 := octets16 t.type.toNat ++ octets16 t.value.length ++ t.value

def Tag.size (t : Tag) : Nat := t.value.length + 4

/-- The list ends here. -/
def Ended (e : UInt16) (p : List UInt8) : Prop := p = [] ∨ 4 ≤ p.length ∧ shortAt p 0 = e.toNat

/-- The head of the next tag, or its value, is not all there. -/
def Overrun (e : UInt16) (p : List UInt8) : Prop :=
  p ≠ [] ∧ (p.length < 4 ∨ shortAt p 0 ≠ e.toNat ∧ p.length < shortAt p 2 + 4)

instance (e : UInt16) (p : List UInt8) : Decidable (Ended e p) :=
  inferInstanceAs (Decidable (p = [] ∨ 4 ≤ p.length ∧ shortAt p 0 = e.toNat))

instance (e : UInt16) (p : List UInt8) : Decidable (Overrun e p) :=
  inferInstanceAs (Decidable (p ≠ [] ∧
    (p.length < 4 ∨ shortAt p 0 ≠ e.toNat ∧ p.length < shortAt p 2 + 4)))

/-- The tags in front of the place where the list ends or breaks off. -/
structure Split (e : UInt16) (p : List UInt8) (ts : List Tag) (rest : List UInt8) : Prop where
  eq : p = ts.flatMap Tag.octets ++ rest
  real : ∀ t ∈ ts, t.type ≠ e
  stop : Ended e rest ∨ Overrun e rest

section
variable {e : UInt16} {p q rest rest' : List UInt8} {t u : Tag} {ts us : List Tag} {n : Nat}

@[simp] theorem Tag.length_octets : t.octets.length = t.size := by
  simp [Tag.octets, Tag.size, octets16]

theorem shortAt_octets16 (h : n < 65536) : shortAt (octets16 n ++ q) 0 = n := by
  have h₁ : (UInt8.ofNat (n / 256)).toNat = n / 256 % 256 := UInt8.toNat_ofNat'
  have h₂ : (UInt8.ofNat n).toNat = n % 256 := UInt8.toNat_ofNat'
  simp only [shortAt, octets16, List.cons_append, List.getD_cons_zero, List.getD_cons_succ, h₁, h₂]
  omega

theorem octets_type : shortAt (t.octets ++ q) 0 = t.type.toNat := by
  rw [Tag.octets, List.append_assoc, List.append_assoc]
  exact shortAt_octets16 t.type.toNat_lt

theorem octets_len : shortAt (t.octets ++ q) 2 = t.value.length := by
  rw [Tag.octets, List.append_assoc, List.append_assoc]
  exact shortAt_octets16 (q := t.value ++ q) t.fits

/-- Two octets are the number that they spell. -/
theorem octets16_short (a b : UInt8) : octets16 (a.toNat * 256 + b.toNat) = [a, b] := by
  have ha := a.toNat_lt
  have hb := b.toNat_lt
  have h : (a.toNat * 256 + b.toNat) / 256 = a.toNat := by omega
  rw [octets16, h, UInt8.ofNat_toNat]
  congr 2
  refine UInt8.toNat_inj.mp ?_
  rw [UInt8.toNat_ofNat']
  omega

/-- What is long enough for a tag begins with one. -/
theorem exists_tag (h : 4 ≤ p.length) (hlen : shortAt p 2 + 4 ≤ p.length) :
    ∃ (t : Tag) (q : List UInt8), p = t.octets ++ q ∧ t.type.toNat = shortAt p 0 := by
  obtain _ | ⟨a, _ | ⟨b, _ | ⟨c, _ | ⟨d, l⟩⟩⟩⟩ := p
  any_goals simp at h
  have hc := c.toNat_lt
  have hd := d.toNat_lt
  have ha := a.toNat_lt
  have hb := b.toNat_lt
  have hn : shortAt (a :: b :: c :: d :: l) 2 = c.toNat * 256 + d.toNat := rfl
  have hl : c.toNat * 256 + d.toNat ≤ l.length := by
    rw [hn] at hlen
    simpa using hlen
  have htake : (l.take (c.toNat * 256 + d.toNat)).length = c.toNat * 256 + d.toNat :=
    List.length_take_of_le hl
  have hab : a.toNat * 256 + b.toNat < 65536 := by omega
  have htype : (UInt16.ofNat (a.toNat * 256 + b.toNat)).toNat = a.toNat * 256 + b.toNat :=
    UInt16.toNat_ofNat_of_lt' hab
  refine ⟨⟨UInt16.ofNat (a.toNat * 256 + b.toNat), l.take (c.toNat * 256 + d.toNat), by omega⟩,
    l.drop (c.toNat * 256 + d.toNat), ?_, htype⟩
  simp only [Tag.octets, htype, htake, octets16_short]
  simp

theorem Ended.not_overrun (h : Ended e p) : ¬ Overrun e p := by
  rintro ⟨hne, hlt | ⟨htype, -⟩⟩
  · rcases h with rfl | ⟨hle, -⟩
    · exact hne rfl
    · omega
  · rcases h with rfl | ⟨-, heq⟩
    · exact hne rfl
    · exact htype heq

/-- Where a tag is in front, the list neither ends nor breaks off. -/
theorem not_stop_octets (h : t.type ≠ e) : ¬ (Ended e (t.octets ++ q) ∨ Overrun e (t.octets ++ q)) := by
  have hlen : (t.octets ++ q).length = t.value.length + 4 + q.length := by
    rw [List.length_append, Tag.length_octets, Tag.size]
  rintro ((hnil | ⟨-, htype⟩) | ⟨-, hlt | ⟨-, hlt⟩⟩)
  · rw [hnil, List.length_nil] at hlen
    omega
  · rw [octets_type] at htype
    exact h (UInt16.toNat_inj.mp htype)
  · omega
  · rw [octets_len] at hlt
    omega

theorem exists_split (e : UInt16) (p : List UInt8) : ∃ ts rest, Split e p ts rest := by
  induction hn : p.length using Nat.strongRecOn generalizing p with
  | ind n ih =>
    by_cases hstop : Ended e p ∨ Overrun e p
    · exact ⟨[], p, by simp, by simp, hstop⟩
    have hended : ¬ Ended e p := fun h => hstop (.inl h)
    have hover : ¬ Overrun e p := fun h => hstop (.inr h)
    have hne : p ≠ [] := fun h => hended (.inl h)
    have h4 : 4 ≤ p.length := Nat.not_lt.mp fun h => hover ⟨hne, .inl h⟩
    have htype : shortAt p 0 ≠ e.toNat := fun h => hended (.inr ⟨h4, h⟩)
    have hlen : shortAt p 2 + 4 ≤ p.length := Nat.not_lt.mp fun h => hover ⟨hne, .inr ⟨htype, h⟩⟩
    obtain ⟨t, q, rfl, ht⟩ := exists_tag h4 hlen
    have hlt : q.length < n := by
      rw [← hn, List.length_append, Tag.length_octets, Tag.size]
      omega
    obtain ⟨ts, rest, hs⟩ := ih _ hlt q rfl
    refine ⟨t :: ts, rest, ?_, ?_, hs.stop⟩
    · rw [List.flatMap_cons, List.append_assoc, ← hs.eq]
    · intro u hu
      rcases List.mem_cons.mp hu with rfl | hu
      · exact fun h => htype (by rw [← ht, h])
      · exact hs.real u hu

/-- Octets that begin with a tag begin with one tag. -/
theorem octets_inj (h : t.octets ++ p = u.octets ++ q) : t = u ∧ p = q := by
  have htype : t.type = u.type := by
    refine UInt16.toNat_inj.mp ?_
    rw [← octets_type (t := t) (q := p), h, octets_type]
  have hlen : t.value.length = u.value.length := by
    rw [← octets_len (t := t) (q := p), h, octets_len]
  obtain ⟨ho, hq⟩ := List.append_inj h (by simp [Tag.size, hlen])
  refine ⟨?_, hq⟩
  obtain ⟨type, value, fits⟩ := t
  obtain ⟨type', value', fits'⟩ := u
  have hv : value = value' := (List.append_inj ho (by simp [octets16])).2
  cases htype
  cases hv
  rfl

/-- The split is unique. -/
theorem Split.unique (h : Split e p ts rest) (h' : Split e p us rest') : ts = us ∧ rest = rest' := by
  induction ts generalizing p us with
  | nil =>
    obtain rfl : p = rest := h.eq
    cases us with
    | nil => exact ⟨rfl, h'.eq⟩
    | cons u us =>
      have heq := h'.eq
      rw [List.flatMap_cons, List.append_assoc] at heq
      have hstop := h.stop
      rw [heq] at hstop
      exact absurd hstop (not_stop_octets (h'.real u List.mem_cons_self))
  | cons t ts ih =>
    have heq := h.eq
    rw [List.flatMap_cons, List.append_assoc] at heq
    cases us with
    | nil =>
      obtain rfl : p = rest' := h'.eq
      have hstop := h'.stop
      rw [heq] at hstop
      exact absurd hstop (not_stop_octets (h.real t List.mem_cons_self))
    | cons u us =>
      have heq' := h'.eq
      rw [heq, List.flatMap_cons, List.append_assoc] at heq'
      obtain ⟨rfl, hq⟩ := octets_inj heq'
      have htail : Split e (ts.flatMap Tag.octets ++ rest) ts rest :=
        ⟨rfl, fun x hx => h.real x (List.mem_cons_of_mem t hx), h.stop⟩
      have htail' : Split e (ts.flatMap Tag.octets ++ rest) us rest' :=
        ⟨hq, fun x hx => h'.real x (List.mem_cons_of_mem t hx), h'.stop⟩
      obtain ⟨rfl, rfl⟩ := ih htail htail'
      exact ⟨rfl, rfl⟩

/-- A tag is no longer than what it was split from. -/
theorem Split.size_le (h : Split e p ts rest) (ht : t ∈ ts) : t.size ≤ p.length := by
  have hsub : t.octets.length ≤ (ts.flatMap Tag.octets).length :=
    (List.sublist_flatten_of_mem (List.mem_map_of_mem ht)).length_le
  rw [Tag.length_octets] at hsub
  rw [h.eq, List.length_append]
  omega

end

end Tags
end Lib
end DaemonGroup
