import Mathlib.Tactic.Common

/-!
# DaemonGroup.Lib.Machine

State machines that are run until they come to rest.

* `Machine τ σ` — states `τ` over variables `σ`. Looking at the variables says which state is next, if one
  is, and may itself leave its mark on them; entering a state does its work.
* `rest` — the loop: look, enter, look again, until there is no next state; `none` means that the fuel
  ran out. `Settles` — some fuel is enough.
* `Settles.of_measure` — a machine settles if every turn makes a number less. `not_settles` — it does
  not if a turn can be taken from every place it gets to.
* `settles_project` — a machine settles if it does on the part of the variables that it depends on.
* `rest_rule` — what every turn keeps, and looking turns into `J`, is `J` at rest.

Nothing here knows what the states and the variables are.
-/

namespace DaemonGroup
namespace Lib

/-- A machine with the states `τ` over the variables `σ`. -/
structure Machine (τ σ : Type) where
  enter : τ → σ → σ
  check : τ → σ → Option τ × σ

namespace Machine
variable {τ σ : Type}

/-- Where the machine is after one turn, if there is a turn to take. -/
def turn (m : Machine τ σ) (t : τ) (v : σ) : Option (τ × σ) :=
  (m.check t v).1.map fun u => (u, m.enter u (m.check t v).2)

/-- Where the machine comes to rest from `t`, with what looking for the last time left. -/
def rest (m : Machine τ σ) : Nat → τ → σ → Option (τ × σ)
  | 0, _, _ => none
  | fuel + 1, t, v =>
    match m.turn t v with
    | some (u, w) => m.rest fuel u w
    | none => some (t, (m.check t v).2)

/-- The machine comes to rest from `t`. -/
def Settles (m : Machine τ σ) (t : τ) (v : σ) : Prop := ∃ fuel, (m.rest fuel t v).isSome

section
variable {m : Machine τ σ} {t u : τ} {v w : σ} {fuel : Nat} {c : τ × σ}

theorem turn_eq_none : m.turn t v = none ↔ (m.check t v).1 = none := by
  simp [turn]

theorem turn_eq_some :
    m.turn t v = some (u, w) ↔ (m.check t v).1 = some u ∧ m.enter u (m.check t v).2 = w := by
  cases h : (m.check t v).1 with
  | none => simp [turn, h]
  | some x =>
    simp only [turn, h, Option.map_some, Option.some.injEq, Prod.mk.injEq]
    constructor
    · rintro ⟨rfl, rfl⟩
      exact ⟨rfl, rfl⟩
    · rintro ⟨rfl, rfl⟩
      exact ⟨rfl, rfl⟩

theorem rest_turn (h : m.turn t v = some (u, w)) : m.rest (fuel + 1) t v = m.rest fuel u w := by
  simp [rest, h]

theorem rest_still (h : m.turn t v = none) :
    m.rest (fuel + 1) t v = some (t, (m.check t v).2) := by
  simp [rest, h]

theorem Settles.next (ht : m.turn t v = some (u, w)) : m.Settles t v ↔ m.Settles u w := by
  constructor
  · rintro ⟨fuel, hf⟩
    cases fuel with
    | zero => cases hf
    | succ n => exact ⟨n, by rwa [rest_turn ht] at hf⟩
  · rintro ⟨fuel, hf⟩
    exact ⟨fuel + 1, by rwa [rest_turn ht]⟩

theorem Settles.still (ht : m.turn t v = none) : m.Settles t v :=
  ⟨1, by simp [rest_still ht]⟩

/-- A machine settles if, as long as `I` holds, every turn keeps `I` and makes a number less. -/
theorem Settles.of_measure {I : τ → σ → Prop} (μ : τ → σ → Nat)
    (hturn : ∀ t v u w, I t v → m.turn t v = some (u, w) → I u w ∧ μ u w < μ t v) (hI : I t v) :
    m.Settles t v := by
  induction hn : μ t v using Nat.strongRecOn generalizing t v with
  | ind n ih =>
    cases ht : m.turn t v with
    | none => exact .still ht
    | some c =>
      obtain ⟨hI', hlt⟩ := hturn t v c.1 c.2 hI ht
      exact (Settles.next ht).mpr (ih _ (hn ▸ hlt) hI' rfl)

/-- A machine does not settle if there is a turn to take wherever it gets to. -/
theorem not_settles {I : τ → σ → Prop}
    (hturn : ∀ t v, I t v → ∃ u w, m.turn t v = some (u, w) ∧ I u w) (hI : I t v) :
    ¬ m.Settles t v := by
  rintro ⟨fuel, hf⟩
  induction fuel generalizing t v with
  | zero => cases hf
  | succ n ih =>
    obtain ⟨u, w, ht, hI'⟩ := hturn t v hI
    rw [rest_turn ht] at hf
    exact ih hI' hf

/-- The rule of the loop: `I` is kept by every turn, and where there is none to take it gives `J` of what
looking leaves. -/
theorem rest_rule {I J : τ → σ → Prop}
    (hturn : ∀ t v u w, I t v → m.turn t v = some (u, w) → I u w)
    (hstill : ∀ t v, I t v → (m.check t v).1 = none → J t (m.check t v).2) (hI : I t v)
    (h : m.rest fuel t v = some c) : J c.1 c.2 := by
  induction fuel generalizing t v with
  | zero => cases h
  | succ n ih =>
    cases ht : m.turn t v with
    | none =>
      rw [rest_still ht] at h
      cases h
      exact hstill t v hI (turn_eq_none.mp ht)
    | some d =>
      rw [rest_turn ht] at h
      exact ih (hturn t v d.1 d.2 hI ht) h

/-- What a machine does depends on a part of its variables only: it comes to rest if the machine on this part
does. -/
theorem settles_project {ρ : Type} {n : Machine τ ρ} (π : σ → ρ)
    (hcheck : ∀ t v, (m.check t v).1 = (n.check t (π v)).1 ∧ π (m.check t v).2 = (n.check t (π v)).2)
    (henter : ∀ t v, π (m.enter t v) = n.enter t (π v)) : m.Settles t v ↔ n.Settles t (π v) := by
  have hturn : ∀ t v, n.turn t (π v) = (m.turn t v).map fun c => (c.1, π c.2) := by
    intro t v
    simp only [turn, ← (hcheck t v).1, Option.map_map]
    refine Option.map_congr fun u _ => ?_
    simp only [Function.comp, henter, (hcheck t v).2]
  have hrest : ∀ fuel t v, (n.rest fuel t (π v)).isSome = (m.rest fuel t v).isSome := by
    intro fuel
    induction fuel with
    | zero => exact fun _ _ => rfl
    | succ k ih =>
      intro t v
      have h := hturn t v
      cases ht : m.turn t v with
      | none =>
        rw [ht] at h
        rw [rest_still ht, rest_still h]
        rfl
      | some c =>
        rw [ht] at h
        rw [rest_turn ht, rest_turn h]
        exact ih c.1 c.2
  simp only [Settles, hrest]

end
end Machine

end Lib
end DaemonGroup
