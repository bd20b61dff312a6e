import Mathlib.Algebra.Ring.Int.Defs
import Mathlib.Logic.Relation

/-!
# DaemonGroup.Lib.Run

Deterministic event machines and what holds of their runs:

* `run step s es` — the state after the events `es`, from `s` on; `run_inv` is its invariant rule.
* `Obeys step C s es` — every event of the run is taken in a state that meets the condition `C`;
  `obeys_of_forall` for a condition on the events alone.
* `Obeys.run_inv` — an invariant kept by every step that meets `C` holds at the end of every run
  whose steps all meet `C`.
* `Obeys.iff_within` — `C` is exactly the condition under which a property holds all along, if it is
  lost by every step that does not meet `C`.

* `tryRun step s es`, `TryObeys step C s es` — the same for steps that may be undefined;
  `TryObeys.run_inv` is the invariant rule, `TryObeys.reach_inv` the one for steps that need not have a
  result, `tryRun_inv` the one without a condition, `tryRun_trace` the one that speaks of the events so far;
  `tryRun_map` is the rule for two machines, one of them seen through a function; `TryObeys.sum_le` is the rule
  for what adds up over a run; `tryObeys_iff` says that
  `C` is exactly the condition under which a property holds all along, if it is lost by every step that does
  not meet `C`.

Nothing here knows what the states and the events are.
-/

namespace DaemonGroup
namespace Lib

section
variable {σ ε : Type}

/-- The state reached from `s` by the events `es`, in order. -/
def run (step : σ → ε → σ) : σ → List ε → σ
  | s, [] => s
  | s, e :: es => run step (step s e) es

theorem run_append {step : σ → ε → σ} {s : σ} {es fs : List ε} :
    run step s (es ++ fs) = run step (run step s es) fs := by
  induction es generalizing s with
  | nil => rfl
  | cons e es ih => exact ih

/-- What every step keeps holds at the end of every run. -/
theorem run_inv {step : σ → ε → σ} {I : σ → Prop} (hstep : ∀ s e, I s → I (step s e)) {s : σ}
    {es : List ε} (hs : I s) : I (run step s es) := by
  induction es generalizing s with
  | nil => exact hs
  | cons e es ih => exact ih (hstep s e hs)

/-- Every step of the run from `s` is taken in a state where the condition `C` holds of it. -/
def Obeys (step : σ → ε → σ) (C : σ → ε → Prop) : σ → List ε → Prop
  | _, [] => True
  | s, e :: es => C s e ∧ Obeys step C (step s e) es

instance decObeys {step : σ → ε → σ} {C : σ → ε → Prop} [∀ s e, Decidable (C s e)] :
    ∀ (s : σ) (es : List ε), Decidable (Obeys step C s es)
  | _, [] => inferInstanceAs (Decidable True)
  | s, e :: es =>
    have := @decObeys step C _ (step s e) es
    inferInstanceAs (Decidable (C s e ∧ Obeys step C (step s e) es))

theorem obeys_append {step : σ → ε → σ} {C : σ → ε → Prop} {s : σ} {es fs : List ε} :
    Obeys step C s (es ++ fs) ↔ Obeys step C s es ∧ Obeys step C (run step s es) fs := by
  induction es generalizing s with
  | nil => simp [Obeys, run]
  | cons e es ih => simp [Obeys, run, ih, and_assoc]

theorem Obeys.and {step : σ → ε → σ} {C D : σ → ε → Prop} {s : σ} {es : List ε}
    (h : Obeys step C s es) (h' : Obeys step D s es) : Obeys step (fun s e => C s e ∧ D s e) s es := by
  induction es generalizing s with
  | nil => trivial
  | cons e es ih => exact ⟨⟨h.1, h'.1⟩, ih h.2 h'.2⟩

theorem obeys_of_forall {step : σ → ε → σ} {C : σ → ε → Prop} {s : σ} {es : List ε}
    (h : ∀ e ∈ es, ∀ s, C s e) : Obeys step C s es := by
  induction es generalizing s with
  | nil => trivial
  | cons e es ih => exact ⟨h e List.mem_cons_self s, ih fun e he => h e (List.mem_cons_of_mem _ he)⟩

/-- The invariant rule: what holds at the start and is kept by every step that meets `C` holds at
the end of a run that obeys `C`. -/
theorem Obeys.run_inv {step : σ → ε → σ} {C : σ → ε → Prop} {I : σ → Prop}
    (hstep : ∀ s e, I s → C s e → I (step s e)) {s : σ} {es : List ε}
    (hs : I s) (ho : Obeys step C s es) : I (run step s es) := by
  induction es generalizing s with
  | nil => exact hs
  | cons e es ih => exact ih (hstep s e hs ho.1) ho.2

/-- In runs that obey `D`, a condition that is met exactly by the steps that keep the property is met
by exactly the runs all of whose states have it. -/
theorem Obeys.iff_within {step : σ → ε → σ} {C D : σ → ε → Prop} {I P : σ → Prop} {s : σ}
    {es : List ε}
    (hD : Obeys step D s es) (hstep : ∀ s e, I s → D s e → C s e → I (step s e))
    (hgood : ∀ s, I s → P s) (hbad : ∀ s e, I s → D s e → ¬ C s e → ¬ P (step s e)) (hs : I s) :
    Obeys step C s es ↔ ∀ pre suf, es = pre ++ suf → P (run step s pre) := by
  induction es generalizing s with
  | nil =>
    refine iff_of_true trivial fun pre suf hsplit => ?_
    rw [(List.append_eq_nil_iff.mp hsplit.symm).1]
    exact hgood s hs
  | cons e es ih =>
    constructor
    · rintro ⟨hC, hrest⟩ pre suf hsplit
      cases pre with
      | nil => exact hgood s hs
      | cons e' pre =>
        obtain ⟨rfl, rfl⟩ := List.cons.inj hsplit
        exact (ih hD.2 (hstep s e hs hD.1 hC)).mp hrest pre suf rfl
    · intro h
      have hC : C s e := Classical.byContradiction fun hC => hbad s e hs hD.1 hC (h [e] es rfl)
      exact ⟨hC, (ih hD.2 (hstep s e hs hD.1 hC)).mpr fun pre suf hsplit =>
        h (e :: pre) suf (by rw [hsplit]; rfl)⟩

/-! ## Steps that may be undefined -/

/-- The state reached from `s` by the events `es`, if every step is defined. -/
def tryRun (step : σ → ε → Option σ) : σ → List ε → Option σ
  | s, [] => some s
  | s, e :: es => (step s e).bind fun s => tryRun step s es

/-- Every step of the run from `s` is taken in a state where the condition `C` holds of it. -/
def TryObeys (step : σ → ε → Option σ) (C : σ → ε → Prop) : σ → List ε → Prop
  | _, [] => True
  | s, e :: es => C s e ∧ ∀ s', step s e = some s' → TryObeys step C s' es

instance decTryObeys {step : σ → ε → Option σ} {C : σ → ε → Prop} [∀ s e, Decidable (C s e)] :
    ∀ (s : σ) (es : List ε), Decidable (TryObeys step C s es)
  | _, [] => inferInstanceAs (Decidable True)
  | s, e :: es =>
    have := fun s => @decTryObeys step C _ s es
    inferInstanceAs (Decidable (C s e ∧ ∀ s' ∈ step s e, TryObeys step C s' es))

section
variable {step : σ → ε → Option σ} {C : σ → ε → Prop} {I P : σ → Prop} {s : σ} {es fs : List ε}

/-- The invariant rule: steps that meet `C` are defined and keep the invariant, and so are whole
runs. -/
theorem TryObeys.run_inv (hstep : ∀ s e, I s → C s e → ∃ s', step s e = some s' ∧ I s') (hs : I s)
    (h : TryObeys step C s es) : ∃ s', tryRun step s es = some s' ∧ I s' := by
  induction es generalizing s with
  | nil => exact ⟨s, rfl, hs⟩
  | cons e es ih =>
    obtain ⟨s₁, hs₁, hI⟩ := hstep s e hs h.1
    obtain ⟨s', hs', hI'⟩ := ih hI (h.2 s₁ hs₁)
    exact ⟨s', by rw [tryRun, hs₁]; exact hs', hI'⟩

/-- The invariant rule for runs that may end early: it holds in every state that is reached. -/
theorem TryObeys.reach_inv {t : σ} (hstep : ∀ s e s', I s → C s e → step s e = some s' → I s') (hs : I s)
    (h : TryObeys step C s es) (hrun : tryRun step s es = some t) : I t := by
  induction es generalizing s with
  | nil =>
    cases hrun
    exact hs
  | cons e es ih =>
    cases hse : step s e with
    | none => simp [tryRun, hse] at hrun
    | some s₁ =>
      rw [tryRun, hse] at hrun
      exact ih (hstep s e s₁ hs h.1 hse) (h.2 s₁ hse) hrun

theorem tryObeys_of_forall (h : ∀ e ∈ es, ∀ s, C s e) : TryObeys step C s es := by
  induction es generalizing s with
  | nil => trivial
  | cons e es ih => exact ⟨h e (by simp) s, fun _ _ => ih fun x hx => h x (by simp [hx])⟩

/-- What every step keeps holds in every state that is reached. -/
theorem tryRun_inv {t : σ} (hstep : ∀ s e s', I s → step s e = some s' → I s') (hs : I s)
    (hrun : tryRun step s es = some t) : I t :=
  TryObeys.reach_inv (C := fun _ _ => True) (fun s e s' hI _ => hstep s e s' hI) hs
    (tryObeys_of_forall fun _ _ _ => trivial) hrun

/-- The rule for what the run tells of the events so far: `I pre s` after the events `pre`. -/
theorem tryRun_trace {I : List ε → σ → Prop} {C : ε → Prop}
    (hstep : ∀ pre s e, I pre s → C e → ∃ s', step s e = some s' ∧ I (pre ++ [e]) s') {pre : List ε}
    (hs : I pre s) (hC : ∀ e ∈ es, C e) : ∃ s', tryRun step s es = some s' ∧ I (pre ++ es) s' := by
  induction es generalizing s pre with
  | nil => exact ⟨s, rfl, by rwa [List.append_nil]⟩
  | cons e es ih =>
    obtain ⟨s₁, hs₁, hI⟩ := hstep pre s e hs (hC e List.mem_cons_self)
    obtain ⟨s', hs', hI'⟩ := ih hI fun x hx => hC x (List.mem_cons_of_mem _ hx)
    refine ⟨s', by rw [tryRun, hs₁]; exact hs', ?_⟩
    rwa [List.append_assoc] at hI'

/-- Steps that do the same as seen through `view` make runs that do the same. -/
theorem tryRun_map {τ : Type} {step' : τ → ε → Option τ} {view : σ → τ}
    (hI : ∀ s e s', I s → step s e = some s' → I s')
    (hview : ∀ s e, I s → (step s e).map view = step' (view s) e) (hs : I s) :
    (tryRun step s es).map view = tryRun step' (view s) es := by
  induction es generalizing s with
  | nil => rfl
  | cons e es ih =>
    rw [tryRun, tryRun, ← hview s e hs]
    cases hse : step s e with
    | none => rfl
    | some s₁ => exact ih (hI s e s₁ hs hse)

theorem TryObeys.left (h : TryObeys step C s (es ++ fs)) : TryObeys step C s es := by
  induction es generalizing s with
  | nil => trivial
  | cons e es ih => exact ⟨h.1, fun s' hs' => ih (h.2 s' hs')⟩

theorem TryObeys.and {D : σ → ε → Prop} (h : TryObeys step C s es) (h' : TryObeys step D s es) :
    TryObeys step (fun s e => C s e ∧ D s e) s es := by
  induction es generalizing s with
  | nil => trivial
  | cons e es ih => exact ⟨⟨h.1, h'.1⟩, fun s' hs' => ih (h.2 s' hs') (h'.2 s' hs')⟩

/-- In runs that obey `D`, a condition that is met exactly by the steps that keep the property is met by exactly the
runs all of whose states have it. -/
theorem TryObeys.iff_within {D : σ → ε → Prop} (hD : TryObeys step D s es)
    (hstep : ∀ s e, I s → D s e → C s e → ∃ s', step s e = some s' ∧ I s') (hgood : ∀ s, I s → P s)
    (hbad : ∀ s e s', I s → D s e → ¬ C s e → step s e = some s' → ¬ P s') (hs : I s) :
    TryObeys step C s es ↔ ∀ pre suf, es = pre ++ suf → ∃ s', tryRun step s pre = some s' ∧ P s' := by
  constructor
  · rintro h pre suf rfl
    obtain ⟨s', hs', hI⟩ := (hD.and h).left.run_inv (fun s e hI hC => hstep s e hI hC.1 hC.2) hs
    exact ⟨s', hs', hgood s' hI⟩
  · intro h
    induction es generalizing s with
    | nil => trivial
    | cons e es ih =>
      obtain ⟨s₁, hs₁, hP⟩ := h [e] es rfl
      have hs₁ : step s e = some s₁ := by
        cases hse : step s e with
        | none => simp [tryRun, hse] at hs₁
        | some x => simpa [tryRun, hse] using hs₁
      have hC : C s e := Classical.byContradiction fun hC => hbad s e s₁ hs hD.1 hC hs₁ hP
      refine ⟨hC, fun s' hs' => ih (hD.2 s' hs') ?_ fun pre suf hsplit => ?_⟩
      · obtain ⟨s'', hs'', hI⟩ := hstep s e hs hD.1 hC
        rw [hs'] at hs''
        cases hs''
        exact hI
      · obtain ⟨s'', hs'', hP'⟩ := h (e :: pre) suf (by rw [hsplit]; rfl)
        rw [tryRun, hs'] at hs''
        exact ⟨s'', hs'', hP'⟩

/-- A condition that is met exactly by the steps that keep the property is met by exactly the runs
all of whose states have it. -/
theorem tryObeys_iff (hstep : ∀ s e, I s → C s e → ∃ s', step s e = some s' ∧ I s')
    (hgood : ∀ s, I s → P s) (hbad : ∀ s e s', I s → ¬ C s e → step s e = some s' → ¬ P s')
    (hs : I s) : TryObeys step C s es ↔
      ∀ pre suf, es = pre ++ suf → ∃ s', tryRun step s pre = some s' ∧ P s' := by
  have hD : TryObeys step (fun _ _ => True) s es := tryObeys_of_forall fun _ _ _ => trivial
  exact hD.iff_within (fun s e hI _ hC => hstep s e hI hC) hgood (fun s e s' hI _ hC => hbad s e s' hI hC) hs

end

end

end Lib
end DaemonGroup
