import DaemonGroup.Wcpss.TimerQueue
import DaemonGroup.Lib.Run
import Mathlib.Tactic.ByContra

/-!
# DaemonGroup.Wcpss.TimerRuns

What becomes of a timer in any run: its handler is called at most once, not before its time and not
after `timer_rem` has found it. Whether its argument is freed is up to the caller of `timer_rem`, but
not if the timer is the one `cronometer` waits for: then it is freed in any case (`sound_iff`).
-/

namespace DaemonGroup
namespace Wcpss

open Lib

namespace TimerEvent

/-- The timer an event is about. -/
def timer : TimerEvent → Nat
  | added t _ _ => t
  | removed t _ => t
  | ran t _ => t
  | freed t => t

/-- The handler of `a` is called. -/
def runs (a : Nat) : TimerEvent → Bool
  | ran t _ => t = a
  | _ => false

end TimerEvent

open TimerEvent

/-- No handler is called after its timer has been removed. -/
def Dead (log : List TimerEvent) : Prop :=
  ∀ l₂ l₁ a f now, log = l₂ ++ removed a f :: l₁ → ran a now ∉ l₂

/-- What the timers `d` that there are and the log say about each other. -/
structure Told (d : Nat → Option Timer) (brk : Nat) (log : List TimerEvent) : Prop where
  known : ∀ e ∈ log, e.timer < brk
  added : ∀ a t, d a = some t → .added a t.timeout t.handler_arg ∈ log
  same : ∀ a w arg w' arg', .added a w arg ∈ log → .added a w' arg' ∈ log → w' = w ∧ arg' = arg
  unrun : ∀ a t, d a = some t → ∀ now, ran a now ∉ log
  unfreed : ∀ a t, d a = some t → .freed a ∉ log
  marked : ∀ a t, d a = some t → (t.cancelled = true ↔ ∃ f, removed a f ∈ log)
  agreed : ∀ a t f, d a = some t → removed a f ∈ log → f ≠ 0 ∨ t.handler_arg = none
  once : ∀ a, log.countP (runs a) ≤ 1
  due : ∀ a w arg now, .added a w arg ∈ log → ran a now ∈ log → ¬ now.lessThan w
  dead : Dead log
  freed : ∀ a w arg f, .added a w arg ∈ log → removed a f ∈ log → d a = none →
    (.freed a ∈ log ↔ f ≠ 0 ∧ arg ≠ none)

section
variable {d d' : Nat → Option Timer} {brk a : Nat} {log : List TimerEvent} {t : Timer} {e : TimerEvent}
  {f : Int} {now : Timeval}

theorem countP_runs : log.countP (runs a) = 0 ↔ ∀ now, ran a now ∉ log := by
  rw [List.countP_eq_zero]
  constructor
  · intro h now hmem
    exact h _ hmem (by simp [runs])
  · intro h e he hr
    cases e with
    | ran b now =>
      simp only [runs, decide_eq_true_eq] at hr
      exact h now (hr ▸ he)
    | _ => cases hr

/-- No handler runs by an event of another kind, nor by a run of a timer that was not removed. -/
theorem Dead.cons (h : Dead log) (he : ∀ a now, e = ran a now → ∀ f, removed a f ∉ log) :
    Dead (e :: log) := by
  intro l₂ l₁ a f now hl hmem
  cases l₂ with
  | nil => cases hmem
  | cons x l₂ =>
    obtain ⟨hex, htail⟩ := List.cons.inj hl
    rcases List.mem_cons.mp hmem with hx | hmem
    · exact he a now (hex.trans hx.symm) f (by simp [htail])
    · exact h l₂ l₁ a f now htail hmem

namespace Told

/-- The flag `in_use` has no part in it. -/
theorem congr (h : Told d brk log) (hnone : ∀ a, d' a = none ↔ d a = none)
    (hd : ∀ a t', d' a = some t' → ∃ t, d a = some t ∧ t.timeout = t'.timeout ∧
      t.handler_arg = t'.handler_arg ∧ t.cancelled = t'.cancelled) : Told d' brk log where
  known := h.known
  added a t' ht' := by
    obtain ⟨t, ht, hto, harg, -⟩ := hd a t' ht'
    rw [← hto, ← harg]
    exact h.added a t ht
  same := h.same
  unrun a t' ht' := by
    obtain ⟨t, ht, -⟩ := hd a t' ht'
    exact h.unrun a t ht
  unfreed a t' ht' := by
    obtain ⟨t, ht, -⟩ := hd a t' ht'
    exact h.unfreed a t ht
  marked a t' ht' := by
    obtain ⟨t, ht, -, -, hc⟩ := hd a t' ht'
    rw [← hc]
    exact h.marked a t ht
  agreed a t' f ht' hf := by
    obtain ⟨t, ht, -, harg, -⟩ := hd a t' ht'
    rw [← harg]
    exact h.agreed a t f ht hf
  once := h.once
  due := h.due
  dead := h.dead
  freed a w arg f hadd hf hn := h.freed a w arg f hadd hf ((hnone a).mp hn)

/-- A new timer. -/
theorem add (h : Told d brk log) (ht : t.cancelled = false) (hnew : d brk = none) :
    Told (Function.update d brk (some t)) (brk + 1) (.added brk t.timeout t.handler_arg :: log) := by
  have hout : ∀ e ∈ log, e.timer ≠ brk := fun e he => Nat.ne_of_lt (h.known e he)
  have hold : ∀ {a s}, Function.update d brk (some t) a = some s → a ≠ brk → d a = some s := by
    intro a s hs ha
    rwa [Function.update_of_ne ha] at hs
  refine ⟨fun e he => ?_, fun a s hs => ?_, fun a w arg w' arg' hl hl' => ?_, fun a s hs now hm => ?_,
    fun a s hs hm => ?_, fun a s hs => ?_, fun a s f hs hm => ?_, fun a => ?_,
    fun a w arg now hadd hm => ?_, h.dead.cons (by simp), fun a w arg f hadd hm hn => ?_⟩
  · rcases List.mem_cons.mp he with rfl | he
    · exact Nat.lt_succ_self _
    · exact Nat.lt_succ_of_lt (h.known e he)
  · by_cases ha : a = brk
    · subst ha
      rw [Function.update_self] at hs
      cases hs
      exact List.mem_cons_self
    · exact List.mem_cons_of_mem _ (h.added a s (hold hs ha))
  · simp only [List.mem_cons, TimerEvent.added.injEq] at hl hl'
    rcases hl with ⟨rfl, rfl, rfl⟩ | hl
    · rcases hl' with ⟨-, rfl, rfl⟩ | hl'
      · exact ⟨rfl, rfl⟩
      · exact absurd rfl (hout _ hl')
    · rcases hl' with ⟨rfl, rfl, rfl⟩ | hl'
      · exact absurd rfl (hout _ hl)
      · exact h.same a w arg w' arg' hl hl'
  · simp only [List.mem_cons, reduceCtorEq, false_or] at hm
    exact h.unrun a s (hold hs (hout _ hm)) now hm
  · simp only [List.mem_cons, reduceCtorEq, false_or] at hm
    exact h.unfreed a s (hold hs (hout _ hm)) hm
  · simp only [List.mem_cons, reduceCtorEq, false_or]
    by_cases ha : a = brk
    · subst ha
      rw [Function.update_self] at hs
      cases hs
      simp only [ht, Bool.false_eq_true, false_iff, not_exists]
      exact fun f hf => hout _ hf rfl
    · exact h.marked a s (hold hs ha)
  · simp only [List.mem_cons, reduceCtorEq, false_or] at hm
    exact h.agreed a s f (hold hs (hout _ hm)) hm
  · simpa [List.countP_cons, runs] using h.once a
  · simp only [List.mem_cons, reduceCtorEq, false_or] at hm
    simp only [List.mem_cons, TimerEvent.added.injEq] at hadd
    rcases hadd with ⟨rfl, rfl, rfl⟩ | hadd
    · exact absurd rfl (hout _ hm)
    · exact h.due a w arg now hadd hm
  · simp only [List.mem_cons, reduceCtorEq, false_or] at hm ⊢
    simp only [List.mem_cons, TimerEvent.added.injEq] at hadd
    rcases hadd with ⟨rfl, rfl, rfl⟩ | hadd
    · exact absurd rfl (hout _ hm)
    · have ha : a ≠ brk := hout _ hm
      rw [Function.update_of_ne ha] at hn
      exact h.freed a w arg f hadd hm hn

/-- A timer is marked as cancelled. -/
theorem cancel (h : Told d brk log) (ha : d a = some t) (hf : f ≠ 0 ∨ t.handler_arg = none) :
    Told (Function.update d a (some { t with cancelled := true })) brk (removed a f :: log) := by
  have hlt : a < brk := h.known _ (h.added a t ha)
  have hold : ∀ {b s}, Function.update d a (some { t with cancelled := true }) b = some s →
      b = a ∧ s = { t with cancelled := true } ∨ b ≠ a ∧ d b = some s := by
    intro b s hs
    by_cases hb : b = a
    · subst hb
      rw [Function.update_self] at hs
      exact .inl ⟨rfl, (Option.some.inj hs).symm⟩
    · rw [Function.update_of_ne hb] at hs
      exact .inr ⟨hb, hs⟩
  refine ⟨fun e he => ?_, fun b s hs => ?_, fun b w arg w' arg' hl hl' => ?_, fun b s hs now hm => ?_,
    fun b s hs hm => ?_, fun b s hs => ?_, fun b s g hs hm => ?_, fun b => ?_,
    fun b w arg now hadd hm => ?_, h.dead.cons (by simp), fun b w arg g hadd hm hn => ?_⟩
  · rcases List.mem_cons.mp he with rfl | he
    · exact hlt
    · exact h.known e he
  · refine List.mem_cons_of_mem _ ?_
    rcases hold hs with ⟨rfl, rfl⟩ | ⟨-, hs⟩
    · exact h.added _ t ha
    · exact h.added b s hs
  · simp only [List.mem_cons, reduceCtorEq, false_or] at hl hl'
    exact h.same b w arg w' arg' hl hl'
  · simp only [List.mem_cons, reduceCtorEq, false_or] at hm
    rcases hold hs with ⟨rfl, rfl⟩ | ⟨-, hs⟩
    · exact h.unrun _ t ha now hm
    · exact h.unrun b s hs now hm
  · simp only [List.mem_cons, reduceCtorEq, false_or] at hm
    rcases hold hs with ⟨rfl, rfl⟩ | ⟨-, hs⟩
    · exact h.unfreed _ t ha hm
    · exact h.unfreed b s hs hm
  · rcases hold hs with ⟨rfl, rfl⟩ | ⟨hb, hs⟩
    · exact iff_of_true rfl ⟨f, by simp⟩
    · simpa [hb] using h.marked b s hs
  · rcases hold hs with ⟨rfl, rfl⟩ | ⟨hb, hs⟩
    · simp only [List.mem_cons, removed.injEq, true_and] at hm
      rcases hm with rfl | hm
      · exact hf
      · exact h.agreed _ t g ha hm
    · simp only [List.mem_cons, removed.injEq, hb, false_and, false_or] at hm
      exact h.agreed b s g hs hm
  · simpa [List.countP_cons, runs] using h.once b
  · simp only [List.mem_cons, reduceCtorEq, false_or] at hadd hm
    exact h.due b w arg now hadd hm
  · have hb : b ≠ a := by
      rintro rfl
      simp at hn
    rw [Function.update_of_ne hb] at hn
    simp only [List.mem_cons, reduceCtorEq, false_or, removed.injEq, hb, false_and] at hadd hm ⊢
    exact h.freed b w arg g hadd hm hn

/-- A timer leaves the queue, and its argument is freed or not. -/
theorem leave (h : Told d brk log) (ha : d a = some t) {es : List TimerEvent}
    (hes : ∀ e ∈ es, e = .freed a ∨ ∃ f, e = removed a f)
    (hfree : ∀ f, removed a f ∈ es ++ log → (.freed a ∈ es ↔ f ≠ 0 ∧ t.handler_arg ≠ none)) :
    Told (Function.update d a none) brk (es ++ log) := by
  have hadded : ∀ {b w arg}, TimerEvent.added b w arg ∈ es ++ log → TimerEvent.added b w arg ∈ log := by
    intro b w arg hm
    refine (List.mem_append.mp hm).resolve_left fun hm => ?_
    rcases hes _ hm with he | ⟨f, he⟩ <;> cases he
  have hran : ∀ {b now}, ran b now ∈ es ++ log → ran b now ∈ log := by
    intro b now hm
    refine (List.mem_append.mp hm).resolve_left fun hm => ?_
    rcases hes _ hm with he | ⟨f, he⟩ <;> cases he
  have hremoved : ∀ {b f}, b ≠ a → (removed b f ∈ es ++ log ↔ removed b f ∈ log) := by
    intro b f hb
    refine ⟨fun hm => (List.mem_append.mp hm).resolve_left fun hm => ?_, List.mem_append_right _⟩
    rcases hes _ hm with he | ⟨f, he⟩ <;> cases he
    exact hb rfl
  have hfreed : ∀ {b}, b ≠ a → (.freed b ∈ es ++ log ↔ .freed b ∈ log) := by
    intro b hb
    refine ⟨fun hm => (List.mem_append.mp hm).resolve_left fun hm => ?_, List.mem_append_right _⟩
    rcases hes _ hm with he | ⟨f, he⟩ <;> cases he
    exact hb rfl
  have hold : ∀ {b s}, Function.update d a none b = some s → b ≠ a ∧ d b = some s := by
    intro b s hs
    by_cases hb : b = a
    · simp [hb] at hs
    · rw [Function.update_of_ne hb] at hs
      exact ⟨hb, hs⟩
  have hdead : ∀ fs : List TimerEvent, (∀ e ∈ fs, e = .freed a ∨ ∃ f, e = removed a f) →
      Dead (fs ++ log) := by
    intro fs hfs
    induction fs with
    | nil => exact h.dead
    | cons e fs ih =>
      refine (ih fun x hx => hfs x (by simp [hx])).cons ?_
      rintro b now rfl
      rcases hfs _ List.mem_cons_self with he | ⟨f, he⟩ <;> cases he
  refine ⟨fun e he => ?_, fun b s hs => ?_, fun b w arg w' arg' hl hl' => ?_, fun b s hs now hm => ?_,
    fun b s hs hm => ?_, fun b s hs => ?_, fun b s g hs hm => ?_, fun b => ?_,
    fun b w arg now hadd hm => ?_, hdead es hes, fun b w arg g hadd hm hn => ?_⟩
  · rcases List.mem_append.mp he with he | he
    · have := h.known _ (h.added a t ha)
      rcases hes e he with rfl | ⟨f, rfl⟩ <;> exact this
    · exact h.known e he
  · exact List.mem_append_right _ (h.added b s (hold hs).2)
  · exact h.same b w arg w' arg' (hadded hl) (hadded hl')
  · exact h.unrun b s (hold hs).2 now (hran hm)
  · obtain ⟨hb, hs⟩ := hold hs
    exact h.unfreed b s hs ((hfreed hb).mp hm)
  · obtain ⟨hb, hs⟩ := hold hs
    simpa only [hremoved hb] using h.marked b s hs
  · obtain ⟨hb, hs⟩ := hold hs
    exact h.agreed b s g hs ((hremoved hb).mp hm)
  · have hzero : es.countP (runs b) = 0 := by
      rw [countP_runs]
      intro now hm
      rcases hes _ hm with he | ⟨f, he⟩ <;> cases he
    rw [List.countP_append, hzero, Nat.zero_add]
    exact h.once b
  · exact h.due b w arg now (hadded hadd) (hran hm)
  · by_cases hb : b = a
    · subst hb
      obtain ⟨-, rfl⟩ := h.same b t.timeout t.handler_arg w arg (h.added b t ha) (hadded hadd)
      rw [List.mem_append, or_iff_left (h.unfreed b t ha)]
      exact hfree g hm
    · rw [Function.update_of_ne hb] at hn
      rw [hfreed hb]
      exact h.freed b w arg g (hadded hadd) ((hremoved hb).mp hm) hn

/-- A timer that is not cancelled leaves the queue, and its handler is called in time. -/
theorem run (h : Told d brk log) (ha : d a = some t) (hc : t.cancelled = false)
    (hnow : ¬ now.lessThan t.timeout) : Told (Function.update d a none) brk (ran a now :: log) := by
  have hno : ∀ f, removed a f ∉ log := fun f hf => by
    simpa [hc] using (h.marked a t ha).mpr ⟨f, hf⟩
  have h' : Told (Function.update d a none) brk log := by
    simpa using @Told.leave _ _ _ _ _ h ha [] (by simp) fun f hf => absurd hf (by simpa using hno f)
  have hlt : a < brk := h.known _ (h.added a t ha)
  have hold : ∀ {b s}, Function.update d a none b = some s → b ≠ a := by
    rintro b s hs rfl
    simp at hs
  refine ⟨fun e he => ?_, fun b s hs => ?_, fun b w arg w' arg' hl hl' => ?_, fun b s hs n hm => ?_,
    fun b s hs hm => ?_, fun b s hs => ?_, fun b s g hs hm => ?_, fun b => ?_,
    fun b w arg n hadd hm => ?_, h'.dead.cons ?_, fun b w arg g hadd hm hn => ?_⟩
  · rcases List.mem_cons.mp he with rfl | he
    · exact hlt
    · exact h.known e he
  · exact List.mem_cons_of_mem _ (h'.added b s hs)
  · simp only [List.mem_cons, reduceCtorEq, false_or] at hl hl'
    exact h.same b w arg w' arg' hl hl'
  · simp only [List.mem_cons, ran.injEq, hold hs, false_and, false_or] at hm
    exact h'.unrun b s hs n hm
  · simp only [List.mem_cons, reduceCtorEq, false_or] at hm
    exact h'.unfreed b s hs hm
  · simpa using h'.marked b s hs
  · simp only [List.mem_cons, reduceCtorEq, false_or] at hm
    exact h'.agreed b s g hs hm
  · by_cases hb : a = b
    · subst hb
      rw [List.countP_cons, countP_runs.mpr (h.unrun a t ha)]
      split <;> decide
    · simpa [List.countP_cons, runs, hb] using h.once b
  · simp only [List.mem_cons, reduceCtorEq, false_or, ran.injEq] at hadd hm
    rcases hm with ⟨rfl, rfl⟩ | hm
    · obtain ⟨rfl, -⟩ := h.same b t.timeout t.handler_arg w arg (h.added b t ha) hadd
      exact hnow
    · exact h.due b w arg n hadd hm
  · intro b n he f
    cases he
    exact hno f
  · simp only [List.mem_cons, reduceCtorEq, false_or] at hadd hm ⊢
    exact h'.freed b w arg g hadd hm hn

end Told

end

namespace Timerq

/-- The queue is a doubly linked list in the order of the timeouts, and only its first timer is in use; a
handler is called at most once, not before the timeout of its timer and not after `timer_rem` has found
it; and once a timer that `timer_rem` has found is gone its argument has been freed exactly if `timer_rem`
was told so. -/
structure Sound (q : Timerq) : Prop where
  queue : ∃ l, q.Ordered l
  once : ∀ a, q.log.countP (runs a) ≤ 1
  due : ∀ a w arg now, added a w arg ∈ q.log → ran a now ∈ q.log → ¬ now.lessThan w
  dead : Dead q.log
  freed : ∀ a w arg f, added a w arg ∈ q.log → removed a f ∈ q.log →
    (.freed a ∈ q.log ↔ q.heap a = none ∧ f ≠ 0 ∧ arg ≠ none)

/-- The state of the queue in a run in which `timer_rem` is used with care. -/
def Kept (q : Timerq) : Prop := ∃ l, q.Ordered l ∧ Told q.data q.brk q.log

section
variable {q q' : Timerq} {l : List Nat} {a : Nat} {t : Timer}

theorem data_eq_none : q.data a = none ↔ q.heap a = none := by
  simp [data]

theorem Kept.sound (h : q.Kept) : q.Sound := by
  obtain ⟨l, hl, ht⟩ := h
  refine ⟨⟨l, hl⟩, ht.once, ht.due, ht.dead, fun a w arg f hadd hrem => ?_⟩
  cases hd : q.data a with
  | none =>
    rw [ht.freed a w arg f hadd hrem hd, and_iff_right (data_eq_none.mp hd)]
  | some s =>
    refine iff_of_false (ht.unfreed a s hd) ?_
    rintro ⟨hn, -⟩
    rw [data_eq_none.mpr hn] at hd
    cases hd

theorem Linked.data (h : q.Linked l) (ha : a ∈ l) : ∃ t, q.data a = some t :=
  Option.ne_none_iff_exists'.mp ((h.live a).mp ha)

theorem Ordered.first_mem (h : q.Ordered l) (hf : q.first = some a) :
    ∃ m, l = a :: m ∧ a ∉ m := by
  have hhead := h.dll.first.symm.trans hf
  cases l with
  | nil => cases hhead
  | cons x m =>
    cases hhead
    exact ⟨m, rfl, (List.nodup_cons.mp h.dll.nodup).1⟩

theorem Kept.timerAdd {now : Timeval} {sec usec : Int64} {hndlr hndlr_arg : Option Nat} {mem : Bool}
    (h : q.Kept) : ∃ x, q.timerAdd now sec usec hndlr hndlr_arg mem = some x ∧ x.2.Kept := by
  cases hndlr with
  | none => exact ⟨_, rfl, h⟩
  | some handler =>
    rw [Timerq.timerAdd]
    split
    · exact ⟨_, rfl, h⟩
    split
    · exact ⟨_, rfl, h⟩
    obtain ⟨l, hl, ht⟩ := h
    have hl₀ : Ordered { q with cur_id := q.cur_id + 1 } l :=
      ⟨⟨hl.dll, hl.live, hl.small⟩, hl.sorted, hl.used⟩
    obtain ⟨q', l', app', hlink, hord, hnew, hto, harg, hc, hold, -, hlog⟩ := @Timerq.Ordered.link _ _
      { timeout := deadline now sec usec, handler := handler, handler_arg := hndlr_arg, id := q.cur_id
        in_use := false, cancelled := false, next := none, prev := none } hl₀ rfl
    dsimp only at hnew hto harg hc hold
    simp only [hlink, Option.bind_eq_bind, Option.bind_some]
    refine ⟨_, rfl, l', ⟨⟨hord.dll, hord.live, hord.small⟩, hord.sorted, hord.used⟩, ?_⟩
    have hfree : q.data q.brk = none := by
      cases hd : q.data q.brk with
      | none => rfl
      | some s =>
        have := hl.small q.brk ((hl.live q.brk).mpr (by simp [hd]))
        exact absurd this (Nat.lt_irrefl _)
    have htold := ht.add (t := app') hc hfree
    rw [hto, harg] at htold
    have hlog' : q'.log = q.log := hlog
    have hgoal : Told q'.data (q.brk + 1) (added q.brk (deadline now sec usec) hndlr_arg :: q'.log) := by
      rw [hlog']
      refine htold.congr (fun b => ?_) fun b s hs => ?_
      · by_cases hb : b = q.brk
        · subst hb
          rw [Function.update_self]
          exact iff_of_false (by rw [hnew]; simp) (by simp)
        · obtain ⟨f, hf⟩ := hold b hb
          rw [Function.update_of_ne hb, hf]
          exact Option.map_eq_none_iff
      · by_cases hb : b = q.brk
        · subst hb
          rw [hnew] at hs
          cases hs
          exact ⟨app', Function.update_self .., rfl, rfl, rfl⟩
        · obtain ⟨f, hf⟩ := hold b hb
          rw [hf, Option.map_eq_some_iff] at hs
          obtain ⟨u, hu, rfl⟩ := hs
          exact ⟨u, by rw [Function.update_of_ne hb]; exact hu, rfl, rfl, rfl⟩
    exact hgoal

/-- A timer that is found is one of the queue. -/
theorem Linked.found {f : Timer → Bool} (h : q.Linked l) (hf : q.find f = some (some a)) : a ∈ l := by
  rw [h.find, Option.some.injEq] at hf
  exact List.mem_of_find?_eq_some hf

/-- `timer_rem` is told to free the argument, if there is one, of a timer that is in use or has been
removed already. -/
def RemOk (q : Timerq) (id : Int32) (isFree : Int) : Prop :=
  ∀ a t, q.find (·.id = id) = some (some a) → q.heap a = some t →
    isFree ≠ 0 ∨ t.handler_arg = none ∨ (t.in_use = false ∧ t.cancelled = false)

theorem Kept.timerRem {id : Int32} {isFree : Int} (h : q.Kept) (hok : q.RemOk id isFree) :
    ∃ q', q.timerRem id isFree = some q' ∧ q'.Kept := by
  obtain ⟨l, hl, ht⟩ := h
  cases hf : q.find (·.id = id) with
  | none =>
    rw [hl.toLinked.find] at hf
    cases hf
  | some o =>
    cases o with
    | none => exact ⟨q, by simp [Timerq.timerRem, hf], l, hl, ht⟩
    | some a =>
      have hmem := hl.toLinked.found hf
      obtain ⟨t, hdata⟩ := hl.toLinked.data hmem
      obtain ⟨s, hs, rfl⟩ := data_eq_some hdata
      have hl₀ : (q.note (removed a isFree)).Ordered l :=
        ⟨⟨hl.dll, hl.live, hl.small⟩, hl.sorted, hl.used⟩
      have hok' := hok a s hf hs
      cases hu : s.in_use with
      | true =>
        obtain ⟨q', hq', hl', hd', -, hbrk, -, hlog⟩ := hl₀.flag
          (g := fun x => { x with cancelled := true }) hdata (fun _ _ _ => rfl) rfl
          fun htail => hl.used a htail { s with next := none, prev := none } hdata
        refine ⟨q', by simp [Timerq.timerRem, hf, hs, hu, hq'], l, hl', ?_⟩
        rw [hd', hbrk, hlog]
        refine ht.cancel hdata ?_
        rcases hok' with hf | harg | ⟨hu', -⟩
        · exact .inl hf
        · exact .inr harg
        · rw [hu] at hu'
          cases hu'
      | false =>
        obtain ⟨l₁, l₂, rfl⟩ := List.append_of_mem hmem
        obtain ⟨q', hq', hl', hd', hbrk, -, hlog⟩ := @Timerq.Ordered.dequeue _ _ _ _ _ isFree hl₀ hdata
        refine ⟨q', by simp [Timerq.timerRem, hf, hs, hu, hq'], l₁ ++ l₂, hl', ?_⟩
        rw [hd', hbrk, hlog]
        -- the argument is freed now exactly if it is to be freed, and an earlier call agrees
        have hagree : ∀ f, removed a f ∈ removed a isFree :: q.log →
            ((isFree ≠ 0 ∧ s.handler_arg ≠ none) ↔ f ≠ 0 ∧ s.handler_arg ≠ none) := by
          intro f hmem
          simp only [List.mem_cons, removed.injEq, true_and] at hmem
          rcases hmem with rfl | hmem
          · rfl
          · have hc := (ht.marked a _ hdata).mpr ⟨f, hmem⟩
            have hf := ht.agreed a _ f hdata hmem
            rcases hok' with hok | hok | ⟨-, hok⟩
            · rcases hf with hf | hf
              · simp [hok, hf]
              · simp [show s.handler_arg = none from hf]
            · simp [hok]
            · rw [show s.cancelled = true from hc] at hok
              cases hok
        by_cases hfree : isFree ≠ 0 ∧ s.handler_arg ≠ none
        · rw [if_pos hfree]
          refine @Told.leave _ _ _ _ _ ht hdata [.freed a, removed a isFree] (by simp) fun f hmem => ?_
          refine iff_of_true (by simp) ((hagree f ?_).mp hfree)
          simpa using hmem
        · rw [if_neg hfree]
          refine @Told.leave _ _ _ _ _ ht hdata [removed a isFree] (by simp) fun f hmem => ?_
          refine iff_of_false (by simp) fun hf => hfree ((hagree f ?_).mpr hf)
          simpa using hmem

theorem Kept.arm (h : q.Kept) : ∃ q', q.arm = some q' ∧ q'.Kept := by
  obtain ⟨l, hl, ht⟩ := h
  rw [Timerq.arm]
  cases hf : q.first with
  | none => exact ⟨q, rfl, l, hl, ht⟩
  | some a =>
    obtain ⟨m, rfl, hm⟩ := hl.first_mem hf
    obtain ⟨t, hdata⟩ := hl.toLinked.data (a := a) (by simp)
    obtain ⟨q', hq', hl', hd', -, hbrk, -, hlog⟩ := hl.flag (g := fun x => { x with in_use := true }) hdata
      (fun _ _ _ => rfl) rfl fun htail => absurd htail hm
    simp only [hq', Option.bind_eq_bind, Option.bind_some]
    refine ⟨_, rfl, a :: m, ⟨⟨hl'.dll, hl'.live, hl'.small⟩, hl'.sorted, hl'.used⟩, ?_⟩
    have hgoal : Told q'.data q'.brk q'.log := by
      rw [hd', hbrk, hlog]
      refine ht.congr (fun b => ?_) fun b s hs => ?_
      · by_cases hb : b = a
        · subst hb
          simp [hdata]
        · rw [Function.update_of_ne hb]
      · by_cases hb : b = a
        · subst hb
          rw [Function.update_self] at hs
          cases hs
          exact ⟨t, hdata, rfl, rfl, rfl⟩
        · rw [Function.update_of_ne hb] at hs
          exact ⟨s, hs, rfl, rfl, rfl⟩
    exact hgoal

/-- The first timer is taken out by `cronometer`. -/
theorem Ordered.dequeue_first {isFree : Int} {m : List Nat} (h : q.Ordered (a :: m))
    (ha : q.data a = some t) : ∃ q', q.timerDequeue a isFree = some q' ∧ q'.Ordered m ∧
      q'.data = Function.update q.data a none ∧ q'.brk = q.brk ∧ q'.ticker = q.ticker ∧
      q'.log = if isFree ≠ 0 ∧ t.handler_arg ≠ none then .freed a :: q.log else q.log :=
  @Timerq.Ordered.dequeue _ [] _ _ _ _ h ha

theorem Kept.wake {now : Timeval} (h : q.Kept) : ∃ q', q.wake now = some q' ∧ q'.Kept := by
  obtain ⟨l, hl, ht⟩ := h
  rw [Timerq.wake]
  split
  · exact ⟨_, rfl, l, ⟨⟨hl.dll, hl.live, hl.small⟩, hl.sorted, hl.used⟩, ht⟩
  · rename_i a hf
    obtain ⟨m, rfl, hm⟩ := hl.first_mem hf
    obtain ⟨t, hdata⟩ := hl.toLinked.data (a := a) (by simp)
    obtain ⟨s, hs, rfl⟩ := data_eq_some hdata
    simp only [hs, Option.bind_eq_bind, Option.bind_some]
    by_cases hc : s.cancelled = true
    · obtain ⟨q', hq', hl', hd', hbrk, -, hlog⟩ := @Timerq.Ordered.dequeue_first _ _ _ 1 _ hl hdata
      simp only [hc, if_true, hq', Option.bind_some]
      refine ⟨_, rfl, m, ⟨⟨hl'.dll, hl'.live, hl'.small⟩, hl'.sorted, hl'.used⟩, ?_⟩
      have hgoal : Told q'.data q'.brk q'.log := by
        rw [hd', hbrk, hlog]
        by_cases harg : s.handler_arg = none
        · simp only [harg, ne_eq, not_true_eq_false, and_false, if_false]
          refine @Told.leave _ _ _ _ _ ht hdata [] (by simp) fun f _ => ?_
          simp [harg]
        · rw [if_pos ⟨by decide, harg⟩]
          refine @Told.leave _ _ _ _ _ ht hdata [.freed a] (by simp) fun f hmem => ?_
          have hmem' : removed a f ∈ q.log := by simpa using hmem
          have hf := (ht.agreed a _ f hdata hmem').resolve_right harg
          simp [hf, harg]
      exact hgoal
    · simp only [hc, Bool.false_eq_true, if_false]
      by_cases hnow : now.lessThan s.timeout
      · rw [if_pos hnow]
        exact ⟨_, rfl, a :: m, ⟨⟨hl.dll, hl.live, hl.small⟩, hl.sorted, hl.used⟩, ht⟩
      · rw [if_neg hnow]
        obtain ⟨q', hq', hl', hd', hbrk, -, hlog⟩ := @Timerq.Ordered.dequeue_first _ _ _ 0 _ hl hdata
        simp only [hq', Option.bind_some]
        refine ⟨_, rfl, m, ⟨⟨hl'.dll, hl'.live, hl'.small⟩, hl'.sorted, hl'.used⟩, ?_⟩
        have hgoal : Told q'.data q'.brk (ran a now :: q'.log) := by
          rw [hd', hbrk, hlog]
          simp only [ne_eq, not_true_eq_false, false_and, if_false]
          exact ht.run hdata (by simpa using hc) hnow
        exact hgoal

theorem kept_init : init.Kept := by
  refine ⟨[], ⟨⟨.nil, by simp [data, init], by simp⟩, List.Pairwise.nil, by simp⟩, ?_⟩
  constructor <;> simp [data, init, Dead]

end

end Timerq

namespace TimerOp

open Timerq

/-- `timer_rem` is used with care. -/
def Ok (q : Timerq) : TimerOp → Prop
  | rem id isFree => q.RemOk id isFree
  | _ => True

/-- A step of `cronometer`. -/
def isTick : TimerOp → Bool
  | arm | wake _ | done => true
  | _ => false

section
variable {q q' : Timerq} {op : TimerOp} {l : List Nat} {a : Nat} {t : Timer}

theorem step_kept (h : q.Kept) (hok : op.Ok q) : ∃ q', op.step q = some q' ∧ q'.Kept := by
  cases op with
  | add now sec usec hndlr hndlr_arg mem =>
    obtain ⟨x, hx, hk⟩ := @Timerq.Kept.timerAdd _ now sec usec hndlr hndlr_arg mem h
    exact ⟨x.2, by simp [step, hx], hk⟩
  | rem id isFree => exact h.timerRem hok
  | arm =>
    rw [step]
    split
    · exact h.arm
    · exact ⟨q, rfl, h⟩
  | wake now =>
    rw [step]
    split
    · exact h.wake
    · exact ⟨q, rfl, h⟩
  | done =>
    rw [step]
    obtain ⟨l, hl, ht⟩ := h
    split
    · exact ⟨_, rfl, l, ⟨⟨hl.dll, hl.live, hl.small⟩, hl.sorted, hl.used⟩, ht⟩
    · exact ⟨q, rfl, l, hl, ht⟩

/-- Whatever `cronometer` does next, the queue is sound. -/
def StaysSound (q : Timerq) : Prop :=
  ∀ ticks : List TimerOp, (∀ e ∈ ticks, e.isTick) →
    ∃ q', tryRun (fun q op => op.step q) q ticks = some q' ∧ q'.Sound

theorem staysSound (h : q.Kept) : StaysSound q := by
  intro ticks hticks
  have hok : TryObeys (fun q op => step q op) (fun q op => op.Ok q) q ticks := by
    refine tryObeys_of_forall fun e he q => ?_
    have := hticks e he
    cases e <;> trivial
  obtain ⟨q', hq', hk⟩ := hok.run_inv (I := Kept) (fun _ _ h hok => step_kept h hok) h
  exact ⟨q', hq', hk.sound⟩

/-- The first timer is cancelled, and has an argument. -/
structure Doomed (q : Timerq) (a : Nat) : Prop where
  ordered : ∃ l, q.Ordered l
  first : q.first = some a
  marked : ∃ t, q.data a = some t ∧ t.cancelled = true ∧ t.handler_arg ≠ none

theorem Doomed.wake {now : Timeval} (h : Doomed q a) (hw : q.ticker = .waiting) :
    ∃ q', (wake now).step q = some q' ∧ q'.log = .freed a :: q.log := by
  obtain ⟨⟨l, hl⟩, hf, t, hdata, hc, harg⟩ := h
  obtain ⟨m, rfl, hm⟩ := hl.first_mem hf
  obtain ⟨s, hs, rfl⟩ := data_eq_some hdata
  obtain ⟨q', hq', -, -, -, -, hlog⟩ := @Timerq.Ordered.dequeue_first _ _ _ 1 _ hl hdata
  rw [if_pos ⟨by decide, harg⟩] at hlog
  have hc' : s.cancelled = true := hc
  refine ⟨{ q' with ticker := .top }, ?_, hlog⟩
  simp [step, hw, Timerq.wake, hf, hs, hc', hq']

theorem Doomed.arm (h : Doomed q a) (hw : q.ticker = .top) :
    ∃ q', arm.step q = some q' ∧ Doomed q' a ∧ q'.ticker = .waiting ∧ q'.log = q.log := by
  obtain ⟨⟨l, hl⟩, hf, t, hdata, hc, harg⟩ := h
  obtain ⟨m, rfl, hm⟩ := hl.first_mem hf
  obtain ⟨q', hq', hl', hd', hf', -, -, hlog⟩ := hl.flag (g := fun x => { x with in_use := true }) hdata
    (fun _ _ _ => rfl) rfl fun htail => absurd htail hm
  refine ⟨{ q' with ticker := .waiting }, by simp [step, hw, Timerq.arm, hf, hq'],
    ⟨⟨a :: m, ⟨⟨hl'.dll, hl'.live, hl'.small⟩, hl'.sorted, hl'.used⟩⟩, hf'.trans hf,
      { t with in_use := true }, ?_, hc, harg⟩, rfl, hlog⟩
  have hgoal : q'.data a = some { t with in_use := true } := by
    rw [hd', Function.update_self]
  exact hgoal

/-- Sooner or later `cronometer` frees the argument. -/
theorem Doomed.frees (h : Doomed q a) : ∃ ticks q', (∀ e ∈ ticks, isTick e) ∧
    tryRun (fun q op => op.step q) q ticks = some q' ∧ q'.log = .freed a :: q.log := by
  have harm : ∀ {q : Timerq}, Doomed q a → q.ticker = .top → ∃ q',
      tryRun (fun q op => step q op) q [TimerOp.arm, TimerOp.wake ⟨0, 0⟩] = some q' ∧
        q'.log = .freed a :: q.log := by
    intro q h hw
    obtain ⟨q₁, hq₁, h₁, hw₁, hlog₁⟩ := h.arm hw
    obtain ⟨q₂, hq₂, hlog₂⟩ := @TimerOp.Doomed.wake _ _ ⟨0, 0⟩ h₁ hw₁
    exact ⟨q₂, by simp [tryRun, hq₁, hq₂], by rw [hlog₂, hlog₁]⟩
  cases hw : q.ticker with
  | top =>
    obtain ⟨q', hq', hlog⟩ := harm h hw
    exact ⟨_, q', by simp [isTick], hq', hlog⟩
  | waiting =>
    obtain ⟨q', hq', hlog⟩ := @TimerOp.Doomed.wake _ _ ⟨0, 0⟩ h hw
    exact ⟨[TimerOp.wake ⟨0, 0⟩], q', by simp [isTick], by simp [tryRun, hq'], hlog⟩
  | handling =>
    obtain ⟨⟨l, hl⟩, hf, hm⟩ := h
    have h₀ : Doomed { q with ticker := .top } a :=
      ⟨⟨l, ⟨⟨hl.dll, hl.live, hl.small⟩, hl.sorted, hl.used⟩⟩, hf, hm⟩
    obtain ⟨q', hq', hlog⟩ := harm h₀ rfl
    refine ⟨TimerOp.done :: [TimerOp.arm, TimerOp.wake ⟨0, 0⟩], q', by simp [isTick], ?_, hlog⟩
    rw [tryRun, step, if_pos hw, Option.bind_some]
    exact hq'

theorem step_bad (h : q.Kept) (hno : ¬ op.Ok q) (hstep : op.step q = some q') : ¬ StaysSound q' := by
  intro hstays
  cases op with
  | rem id isFree =>
    simp only [Ok, RemOk, not_forall, not_or] at hno
    obtain ⟨a, s, hf, hs, hzero, harg, hflag⟩ := hno
    rw [not_not] at hzero
    subst hzero
    obtain ⟨l, hl, ht⟩ := h
    have hmem := hl.toLinked.found hf
    have hdata : q.data a = some { s with next := none, prev := none } := by simp [data, hs]
    have hadd : added a s.timeout s.handler_arg ∈ q.log :=
      ht.added a { s with next := none, prev := none } hdata
    have hl₀ : (q.note (.removed a 0)).Ordered l := ⟨⟨hl.dll, hl.live, hl.small⟩, hl.sorted, hl.used⟩
    cases hu : s.in_use with
    | true =>
      -- the timer is cancelled, and `cronometer` frees its argument
      have hnot : a ∉ l.tail := fun htail => by
        simpa [hu] using hl.used a htail _ hdata
      obtain ⟨q₁, hq₁, hl₁, hd₁, hf₁, -, -, hlog₁⟩ := hl₀.flag
        (g := fun x => { x with cancelled := true }) hdata (fun _ _ _ => rfl) rfl
        fun htail => absurd htail hnot
      have hq' : q' = q₁ := by
        simpa [step, Timerq.timerRem, hf, hs, hu, hq₁] using hstep.symm
      subst hq'
      have hfirst : q.first = some a := by
        rw [hl.dll.first]
        cases l with
        | nil => cases hmem
        | cons x m =>
          rcases List.mem_cons.mp hmem with rfl | hmem
          · rfl
          · exact absurd hmem hnot
      have hdoom : Doomed q' a :=
        ⟨⟨l, hl₁⟩, hf₁.trans hfirst, { s with next := none, prev := none, cancelled := true },
          by rw [hd₁, Function.update_self], rfl, harg⟩
      obtain ⟨ticks, q₂, hticks, hrun, hlog₂⟩ := hdoom.frees
      obtain ⟨q₃, hq₃, hsound⟩ := hstays ticks hticks
      rw [hrun] at hq₃
      cases hq₃
      have hfree := (hsound.freed a s.timeout s.handler_arg 0 (by rw [hlog₂, hlog₁]; simp [note, hadd])
        (by rw [hlog₂, hlog₁]; simp [note])).mp (by rw [hlog₂]; simp)
      exact hfree.2.1 rfl
    | false =>
      -- the argument was to be freed, and is not
      have hc : s.cancelled = true := by
        by_contra hc
        exact hflag ⟨hu, by simpa using hc⟩
      obtain ⟨f, hrem⟩ := (ht.marked a _ hdata).mp hc
      have hf0 := (ht.agreed a _ f hdata hrem).resolve_right harg
      obtain ⟨l₁, l₂, rfl⟩ := List.append_of_mem hmem
      obtain ⟨q₁, hq₁, -, hd₁, -, -, hlog₁⟩ := @Timerq.Ordered.dequeue _ _ _ _ _ 0 hl₀ hdata
      have hq' : q' = q₁ := by
        simpa [step, Timerq.timerRem, hf, hs, hu, hq₁] using hstep.symm
      subst hq'
      have hlog : q'.log = .removed a 0 :: q.log := by simpa [note] using hlog₁
      obtain ⟨q₃, hq₃, hsound⟩ := hstays [] (by simp)
      cases hq₃
      have hgone : q'.heap a = none := data_eq_none.mp (by rw [hd₁, Function.update_self])
      have hfree := (hsound.freed a s.timeout s.handler_arg f (by rw [hlog]; simp [hadd])
        (by rw [hlog]; simp [hrem])).mpr ⟨hgone, hf0, harg⟩
      rw [hlog] at hfree
      exact ht.unfreed a _ hdata (by simpa using hfree)
  | _ => exact absurd trivial hno

/-- The queue stays sound, whatever `cronometer` does, in every state of a run exactly if `timer_rem` is
used with care in all of it. -/
theorem sound_iff {ops : List TimerOp} : (∀ pre suf, ops = pre ++ suf →
      ∃ q, tryRun (fun q op => op.step q) init pre = some q ∧ StaysSound q) ↔
    TryObeys (fun q op => step q op) (fun q op => op.Ok q) init ops :=
  (tryObeys_iff (fun _ _ h hok => step_kept h hok) (fun _ h => staysSound h)
    (fun _ _ _ h hno hq' => step_bad h hno hq') kept_init).symm

/-- A timer of one second is added, `cronometer` waits for it, it is removed and its argument is not to
be freed; but then it is. -/
theorem freed_unasked : ¬ ∀ ops q, tryRun (fun q op => step q op) init ops = some q → q.Sound := by
  intro h
  have hends : (tryRun (fun q op => step q op) init
      [.add ⟨100, 0⟩ 1 0 (some 1) (some 7) true, .arm, .rem 1 0, .wake ⟨100, 500000⟩]).map
        (fun q => (q.log, q.heap 0)) =
      some ([freed 0, removed 0 0, added 0 ⟨101, 0⟩ (some 7)], none) := by
    decide +kernel
  rw [Option.map_eq_some_iff] at hends
  obtain ⟨q, hq, hlog⟩ := hends
  have hlog : q.log = [freed 0, removed 0 0, added 0 ⟨101, 0⟩ (some 7)] := congrArg Prod.fst hlog
  have hfree := (h _ q hq).freed 0 ⟨101, 0⟩ (some 7) 0 (by simp [hlog]) (by simp [hlog])
  simp [hlog] at hfree

end

end TimerOp

end Wcpss
end DaemonGroup
