import Mathlib.Logic.Function.Basic

/-!
# DaemonGroup.Lib.State

Programs that pass a state, and what is known of the state they leave.

* `bind_run` and the lemmas with it push an application to a state through the constructs of `do`
  notation.
* `wp m Q s` — the program `m`, run on `s`, ends with a result and a state that `Q` holds of. Its
  lemmas take a program apart from the front; a function is passed by a rule of its own, which asks
  for `Q` of everything the function can leave.
* `Stable P m` — the program `m` keeps what `P` says of the state; it is read off the shape of `m`.
-/

namespace DaemonGroup
namespace Lib

section
variable {σ α β : Type}

@[simp] theorem bind_run (m : StateM σ α) (f : α → StateM σ β) (s : σ) :
    (m >>= f) s = f (m s).1 (m s).2 := rfl

@[simp] theorem map_run (f : α → β) (m : StateM σ α) (s : σ) :
    (f <$> m) s = (f (m s).1, (m s).2) := rfl

@[simp] theorem pure_run (a : α) (s : σ) : (pure a : StateM σ α) s = (a, s) := rfl

@[simp] theorem get_run (s : σ) : (get : StateM σ σ) s = (s, s) := rfl

@[simp] theorem set_run (s t : σ) : (set t : StateM σ PUnit) s = (⟨⟩, t) := rfl

@[simp] theorem modify_run (f : σ → σ) (s : σ) : (modify f : StateM σ PUnit) s = (⟨⟩, f s) := rfl

@[simp] theorem ite_run (c : Prop) [Decidable c] (m n : StateM σ α) (s : σ) :
    (if c then m else n) s = if c then m s else n s := by
  split <;> rfl

/-- Run on `s`, the program `m` ends with a result and a state that `Q` holds of. -/
def wp (m : StateM σ α) (Q : α → σ → Prop) (s : σ) : Prop := Q (m s).1 (m s).2

theorem wp_bind {m : StateM σ α} {f : α → StateM σ β} {Q : β → σ → Prop} {s : σ} :
    wp (m >>= f) Q s ↔ wp m (fun a t => wp (f a) Q t) s := Iff.rfl

theorem wp_pure {a : α} {Q : α → σ → Prop} {s : σ} : wp (pure a) Q s ↔ Q a s := Iff.rfl

theorem wp_get {Q : σ → σ → Prop} {s : σ} : wp get Q s ↔ Q s s := Iff.rfl

theorem wp_set {Q : PUnit → σ → Prop} {s t : σ} : wp (set t) Q s ↔ Q ⟨⟩ t := Iff.rfl

theorem wp_modify {f : σ → σ} {Q : PUnit → σ → Prop} {s : σ} : wp (modify f) Q s ↔ Q ⟨⟩ (f s) :=
  Iff.rfl

theorem wp_ite {p : Prop} [Decidable p] {m n : StateM σ α} {Q : α → σ → Prop} {s : σ} :
    wp (if p then m else n) Q s ↔ (p → wp m Q s) ∧ (¬ p → wp n Q s) := by
  by_cases h : p <;> simp [h]

/-- The program `m` keeps `P`. -/
def Stable (P : σ → Prop) (m : StateM σ α) : Prop := ∀ s, P s → P (m s).2

section
variable {P : σ → Prop}

theorem Stable.bind {m : StateM σ α} {f : α → StateM σ β} (hm : Stable P m)
    (hf : ∀ a, Stable P (f a)) : Stable P (m >>= f) :=
  fun s hs => hf _ _ (hm s hs)

theorem Stable.pure {a : α} : Stable P (pure a : StateM σ α) := fun _ hs => hs

theorem Stable.get : Stable P (get : StateM σ σ) := fun _ hs => hs

theorem Stable.modify {f : σ → σ} (hf : ∀ s, P s → P (f s)) :
    Stable P (modify f : StateM σ PUnit) :=
  hf

theorem Stable.ite {p : Prop} [Decidable p] {m n : StateM σ α} (hm : Stable P m)
    (hn : Stable P n) : Stable P (if p then m else n) := by
  split
  · exact hm
  · exact hn

end

end

end Lib
end DaemonGroup
