import Mathlib.Logic.Function.Basic

/-!
# DaemonGroup.Lib.Partial

Programs that pass a state and may have no result, as those that follow a pointer to something that is
gone.

* `ask f`, `change f` — a program that reads the state, and one that changes it.
* `wlp m Q s` — if the program `m`, run on `s`, has a result, then `Q` holds of it and of the state that is
  left. The lemmas with it take a program apart from the front. `twp m Q s` says that there is a result, too.
* `Keeps I m` — the program `m` keeps what `I` says of the state; it is read off the shape of `m`.
-/

namespace DaemonGroup
namespace Lib

/-- A program on states `σ` that may have no result. -/
abbrev Prog (σ α : Type) := StateT σ Option α

section
variable {σ α β : Type}

/-- Something is read off the state. -/
def ask (f : σ → Option α) : Prog σ α := fun s => (f s).map fun a => (a, s)

/-- The state is changed. -/
def change (f : σ → Option σ) : Prog σ PUnit := fun s => (f s).map fun t => (⟨⟩, t)

/-- If `m`, run on `s`, has a result, `Q` holds of it and of the state that is left. -/
def wlp (m : Prog σ α) (Q : α → σ → Prop) (s : σ) : Prop := ∀ a t, m s = some (a, t) → Q a t

section
variable {m : Prog σ α} {f : α → Prog σ β} {Q R : α → σ → Prop} {s : σ}

theorem wlp_bind {Q : β → σ → Prop} : wlp (m >>= f) Q s ↔ wlp m (fun a t => wlp (f a) Q t) s := by
  constructor
  · intro h a t hm b u hf
    refine h b u ?_
    change (m s).bind (fun x => f x.1 x.2) = some (b, u)
    rw [hm]
    exact hf
  · intro h b u hb
    change (m s).bind (fun x => f x.1 x.2) = some (b, u) at hb
    cases hm : m s with
    | none => simp [hm] at hb
    | some x =>
      rw [hm] at hb
      exact h x.1 x.2 hm b u hb

theorem wlp_pure {a : α} : wlp (pure a) Q s ↔ Q a s := by
  constructor
  · intro h
    exact h a s rfl
  · intro h b t hb
    cases hb
    exact h

theorem wlp_ask {g : σ → Option α} : wlp (ask g) Q s ↔ ∀ a, g s = some a → Q a s := by
  constructor
  · intro h a ha
    exact h a s (by simp [ask, ha])
  · intro h a t ht
    cases hg : g s with
    | none => simp [ask, hg] at ht
    | some b =>
      simp only [ask, hg, Option.map_some, Option.some.injEq, Prod.mk.injEq] at ht
      obtain ⟨rfl, rfl⟩ := ht
      exact h b hg

theorem ask_some {g : σ → Option α} {a : α} (ha : g s = some a) : ask g s = some (a, s) := by simp [ask, ha]

theorem wlp_change {g : σ → Option σ} {Q : PUnit → σ → Prop} :
    wlp (change g) Q s ↔ ∀ t, g s = some t → Q ⟨⟩ t := by
  constructor
  · intro h t ht
    exact h ⟨⟩ t (by simp [change, ht])
  · intro h a t ht
    cases hg : g s with
    | none => simp [change, hg] at ht
    | some u =>
      simp only [change, hg, Option.map_some, Option.some.injEq, Prod.mk.injEq, true_and] at ht
      subst ht
      exact h u hg

theorem wlp_get {Q : σ → σ → Prop} : wlp (get : Prog σ σ) Q s ↔ Q s s := by
  constructor
  · intro h
    exact h s s rfl
  · intro h a t ht
    cases ht
    exact h

theorem wlp_modify {g : σ → σ} {Q : PUnit → σ → Prop} :
    wlp (modify g : Prog σ PUnit) Q s ↔ Q ⟨⟩ (g s) := by
  constructor
  · intro h
    exact h ⟨⟩ (g s) rfl
  · intro h a t ht
    cases ht
    exact h

theorem wlp_ite {p : Prop} [Decidable p] {n : Prog σ α} :
    wlp (if p then m else n) Q s ↔ (p → wlp m Q s) ∧ (¬ p → wlp n Q s) := by
  by_cases h : p <;> simp [h]

theorem wlp_mono (h : ∀ a t, Q a t → R a t) (hq : wlp m Q s) : wlp m R s :=
  fun a t hm => h a t (hq a t hm)

theorem wlp_and (hq : wlp m Q s) (hr : wlp m R s) : wlp m (fun a t => Q a t ∧ R a t) s :=
  fun a t hm => ⟨hq a t hm, hr a t hm⟩

/-- `m`, run on `s`, has a result, and `Q` holds of it and of the state that is left. -/
def twp (m : Prog σ α) (Q : α → σ → Prop) (s : σ) : Prop := ∃ a t, m s = some (a, t) ∧ Q a t

theorem twp_bind {Q : β → σ → Prop} : twp (m >>= f) Q s ↔ twp m (fun a t => twp (f a) Q t) s := by
  have hbind : (m >>= f) s = (m s).bind fun x => f x.1 x.2 := rfl
  constructor
  · rintro ⟨b, u, hb, hq⟩
    rw [hbind] at hb
    cases hm : m s with
    | none => simp [hm] at hb
    | some x =>
      rw [hm] at hb
      exact ⟨x.1, x.2, hm, b, u, hb, hq⟩
  · rintro ⟨a, t, ha, b, u, hb, hq⟩
    exact ⟨b, u, by rw [hbind, ha]; exact hb, hq⟩

theorem twp_pure {a : α} (hq : Q a s) : twp (pure a) Q s := ⟨a, s, rfl, hq⟩

theorem twp_ask {g : σ → Option α} {a : α} (ha : g s = some a) (hq : Q a s) : twp (ask g) Q s :=
  ⟨a, s, by simp [ask, ha], hq⟩

theorem twp_get {Q : σ → σ → Prop} (hq : Q s s) : twp (get : Prog σ σ) Q s := ⟨s, s, rfl, hq⟩

theorem twp_modify {g : σ → σ} {Q : PUnit → σ → Prop} (hq : Q ⟨⟩ (g s)) : twp (modify g : Prog σ PUnit) Q s :=
  ⟨⟨⟩, g s, rfl, hq⟩

theorem twp_some {a : α} {t : σ} (h : m s = some (a, t)) : twp m Q s ↔ Q a t := by
  constructor
  · rintro ⟨b, u, hm, hq⟩
    rw [h] at hm
    cases hm
    exact hq
  · intro hq
    exact ⟨a, t, h, hq⟩

/-- The first part of a program is run. -/
theorem twp_first {a : α} {t : σ} {Q : β → σ → Prop} (h : m s = some (a, t)) :
    twp (m >>= f) Q s ↔ twp (f a) Q t := twp_bind.trans (twp_some h)

/-- The branches of a program, with what each of them comes to. -/
theorem twp_ite {p a b : Prop} [Decidable p] {n : Prog σ α} (hm : p → (twp m Q s ↔ a)) (hn : ¬ p → (twp n Q s ↔ b)) :
    twp (if p then m else n) Q s ↔ if p then a else b := by
  by_cases h : p
  · rw [if_pos h, if_pos h]
    exact hm h
  · rw [if_neg h, if_neg h]
    exact hn h

theorem not_twp (h : wlp m (fun a t => ¬ Q a t) s) : ¬ twp m Q s := by
  rintro ⟨a, t, hm, hq⟩
  exact h a t hm hq

/-- What has a result has one of which everything holds that holds of every result. -/
theorem twp_of_wlp (hr : twp m R s) (hq : wlp m Q s) : twp m Q s := by
  obtain ⟨a, t, ht, -⟩ := hr
  exact ⟨a, t, ht, hq a t ht⟩

end

/-- The program `m` keeps `I`. -/
def Keeps (I : σ → Prop) (m : Prog σ α) : Prop := ∀ s, I s → wlp m (fun _ => I) s

section
variable {I : σ → Prop} {m n : Prog σ α}

theorem Keeps.bind {f : α → Prog σ β} (hm : Keeps I m) (hf : ∀ a, Keeps I (f a)) : Keeps I (m >>= f) := by
  intro s hs
  rw [wlp_bind]
  exact wlp_mono (fun a t ht => hf a t ht) (hm s hs)

theorem Keeps.pure {a : α} : Keeps I (pure a : Prog σ α) := fun _ hs => wlp_pure.mpr hs

theorem Keeps.ask {g : σ → Option α} : Keeps I (ask g) := fun _ hs => wlp_ask.mpr fun _ _ => hs

theorem Keeps.modify {g : σ → σ} (hg : ∀ s, I s → I (g s)) : Keeps I (modify g : Prog σ PUnit) :=
  fun s hs => wlp_modify.mpr (hg s hs)

theorem Keeps.ite {p : Prop} [Decidable p] (hm : p → Keeps I m) (hn : ¬ p → Keeps I n) :
    Keeps I (if p then m else n) := by
  by_cases h : p
  · rw [if_pos h]
    exact hm h
  · rw [if_neg h]
    exact hn h

theorem Keeps.forM {l : List β} {f : β → Prog σ PUnit} (hf : ∀ b ∈ l, Keeps I (f b)) :
    Keeps I (l.forM f) := by
  induction l with
  | nil => exact Keeps.pure
  | cons b l ih =>
    change Keeps I (f b >>= fun _ => l.forM f)
    exact (hf b (by simp)).bind fun _ => ih fun c hc => hf c (by simp [hc])

end

end

end Lib
end DaemonGroup
