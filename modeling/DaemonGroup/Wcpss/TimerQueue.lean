import DaemonGroup.Wcpss.Timerlib
import Mathlib.Data.List.Perm.Subperm

/-!
# DaemonGroup.Wcpss.TimerQueue

The queue as a list. `Linked q l` says that the timers there are, in the order `l`, are the queue; each
function takes a timer out of the list or puts one into it, and changes of the others at most the flag
`in_use`.
-/

namespace DaemonGroup
namespace Wcpss

open Lib

theorem Timeval.lessThan_trans {s t u : Timeval} (h : s.lessThan t) (h' : t.lessThan u) :
    s.lessThan u := by
  rcases h with h | ⟨h, hu⟩
  · rcases h' with h' | ⟨h', -⟩
    · exact .inl (Int64.lt_trans h h')
    · exact .inl (h' ▸ h)
  · rcases h' with h' | ⟨h', hu'⟩
    · exact .inl (h ▸ h')
    · exact .inr ⟨h.trans h', Int64.lt_trans hu hu'⟩

theorem Timeval.lessThan_irrefl {t : Timeval} : ¬ t.lessThan t := by
  rintro (h | ⟨-, h⟩)
  · exact Int64.lt_irrefl h
  · exact Int64.lt_irrefl h

namespace Timerq

def next (q : Timerq) (a : Nat) : Option Nat := (q.heap a).bind (·.next)

def prev (q : Timerq) (a : Nat) : Option Nat := (q.heap a).bind (·.prev)

/-- A timer without its links. -/
def data (q : Timerq) (a : Nat) : Option Timer :=
  (q.heap a).map fun t => { t with next := none, prev := none }

/-- The timers are linked in the order `l`. -/
structure Linked (q : Timerq) (l : List Nat) : Prop where
  dll : Dll q.next q.prev q.first q.last l
  live : ∀ a, a ∈ l ↔ q.data a ≠ none
  small : ∀ a ∈ l, a < q.brk

section
variable {q q' : Timerq} {l l₁ l₂ : List Nat} {a b : Nat} {s t : Timer} {isFree : Int}
  {o v : Option Nat} {f : Timer → Bool}

theorem data_eq_some (h : q.data a = some t) : ∃ s, q.heap a = some s ∧
    t = { s with next := none, prev := none } := by
  simp only [data, Option.map_eq_some_iff] at h
  obtain ⟨s, hs, rfl⟩ := h
  exact ⟨s, hs, rfl⟩

theorem Linked.heap (h : q.Linked l) (ha : a ∈ l) : ∃ t, q.heap a = some t := by
  have := (h.live a).mp ha
  simpa [data, Option.ne_none_iff_exists'] using this

theorem Linked.length_le (h : q.Linked l) : l.length ≤ q.brk := by
  have hsub := h.dll.nodup.subperm fun a ha => List.mem_range.mpr (h.small a ha)
  simpa using hsub.length_le

/-- A loop over the queue ends. -/
theorem Linked.find (h : q.Linked l) :
    q.find f = some (l.find? fun a => ((q.heap a).map f).getD false) := by
  rw [Timerq.find, h.dll.first]
  refine h.dll.seg.seek (fun a ha => ?_) (fun a ha => ?_) h.length_le
  · obtain ⟨t, ht⟩ := h.heap ha
    simp [Timerq.next, ht]
  · obtain ⟨t, ht⟩ := h.heap ha
    simp [ht]

/-- Only links have changed. -/
structure Relinked (q q' : Timerq) : Prop where
  data : q'.data = q.data
  brk : q'.brk = q.brk
  ticker : q'.ticker = q.ticker
  log : q'.log = q.log

theorem Relinked.heap (h : Relinked q q') (ha : q.heap a = some t) : ∃ t, q'.heap a = some t := by
  have hdata := congrFun h.data a
  simp only [Timerq.data, ha, Option.map_some, Option.map_eq_some_iff] at hdata
  obtain ⟨s, hs, -⟩ := hdata
  exact ⟨s, hs⟩

theorem setNext_spec (ho : ∀ p, o = some p → ∃ t, q.heap p = some t) :
    ∃ q', q.setNext o v = some q' ∧ Relinked q q' ∧
      (∀ b, q'.next b = if o = some b then v else q.next b) ∧ q'.prev = q.prev ∧
      q'.first = (if o = none then v else q.first) ∧ q'.last = q.last := by
  cases o with
  | none => exact ⟨_, rfl, ⟨rfl, rfl, rfl, rfl⟩, fun b => by simp [Timerq.next], rfl, by simp, rfl⟩
  | some p =>
    obtain ⟨t, ht⟩ := ho p rfl
    refine ⟨q.put p { t with next := v }, by simp [setNext, store, ht], ⟨?_, rfl, rfl, rfl⟩, fun b => ?_,
      ?_, by simp [put], rfl⟩
    · funext b
      by_cases hb : b = p
      · subst hb
        simp [data, put, ht]
      · simp [data, put, hb]
    · by_cases hb : b = p
      · subst hb
        simp [Timerq.next, put]
      · simp [Timerq.next, put, hb, Ne.symm hb]
    · funext b
      by_cases hb : b = p
      · subst hb
        simp [prev, put, ht]
      · simp [prev, put, hb]

theorem setPrev_spec (ho : ∀ p, o = some p → ∃ t, q.heap p = some t) :
    ∃ q', q.setPrev o v = some q' ∧ Relinked q q' ∧
      (∀ b, q'.prev b = if o = some b then v else q.prev b) ∧ q'.next = q.next ∧
      q'.last = (if o = none then v else q.last) ∧ q'.first = q.first := by
  cases o with
  | none => exact ⟨_, rfl, ⟨rfl, rfl, rfl, rfl⟩, fun b => by simp [prev], rfl, by simp, rfl⟩
  | some p =>
    obtain ⟨t, ht⟩ := ho p rfl
    refine ⟨q.put p { t with prev := v }, by simp [setPrev, store, ht], ⟨?_, rfl, rfl, rfl⟩, fun b => ?_,
      ?_, by simp [put], rfl⟩
    · funext b
      by_cases hb : b = p
      · subst hb
        simp [data, put, ht]
      · simp [data, put, hb]
    · by_cases hb : b = p
      · subst hb
        simp [prev, put]
      · simp [prev, put, hb, Ne.symm hb]
    · funext b
      by_cases hb : b = p
      · subst hb
        simp [Timerq.next, put, ht]
      · simp [Timerq.next, put, hb]

/-- `timer_dequeue` takes a timer out. -/
theorem Linked.dequeue (h : q.Linked (l₁ ++ a :: l₂)) (ha : q.data a = some t) :
    ∃ q', q.timerDequeue a isFree = some q' ∧ q'.Linked (l₁ ++ l₂) ∧
      q'.data = Function.update q.data a none ∧ q'.brk = q.brk ∧ q'.ticker = q.ticker ∧
      q'.log = if isFree ≠ 0 ∧ t.handler_arg ≠ none then .freed a :: q.log else q.log := by
  obtain ⟨s, hs, rfl⟩ := data_eq_some ha
  obtain ⟨hprev, hnext⟩ := h.dll.around
  have hp : s.prev = l₁.getLast? := by simpa [prev, hs] using hprev
  have hn : s.next = l₂.head? := by simpa [Timerq.next, hs] using hnext
  have hlive : ∀ b, b ∈ l₁ ∨ b ∈ l₂ → ∃ t, q.heap b = some t := by
    intro b hb
    refine h.heap ?_
    simp only [List.mem_append, List.mem_cons]
    tauto
  obtain ⟨q₁, hq₁, hr₁, hn₁, hp₁, hf₁, hl₁⟩ := setNext_spec (q := q) (o := s.prev) (v := s.next)
    fun b hb => hlive b (.inl (List.mem_of_getLast? (hp ▸ hb)))
  obtain ⟨q₂, hq₂, hr₂, hp₂, hn₂, hl₂, hf₂⟩ := setPrev_spec (q := q₁) (o := s.next) (v := s.prev)
    fun b hb => by
      obtain ⟨u, hu⟩ := hlive b (.inr (List.mem_of_head? (hn ▸ hb)))
      exact hr₁.heap hu
  have hdata : q₂.data = q.data := hr₂.data.trans hr₁.data
  obtain ⟨u, hu, hus⟩ : ∃ u, q₂.heap a = some u ∧ u.handler_arg = s.handler_arg := by
    have := congrFun hdata a
    rw [ha] at this
    obtain ⟨u, hu, he⟩ := data_eq_some this
    exact ⟨u, hu, by simpa using (congrArg Timer.handler_arg he).symm⟩
  have hlog : q₂.log = q.log := hr₂.log.trans hr₁.log
  have hmem : ∀ b, b ∈ l₁ ++ l₂ → b ≠ a := by
    have hd := h.dll.nodup
    rw [List.nodup_middle, List.nodup_cons] at hd
    rintro b hb rfl
    exact hd.1 hb
  have hdata' : data { q₂ with
      heap := Function.update q₂.heap a none
      log := if isFree ≠ 0 ∧ s.handler_arg ≠ none then .freed a :: q₂.log else q₂.log } =
      Function.update q.data a none := by
    funext b
    by_cases hb : b = a
    · simp [hb, data]
    · rw [Function.update_of_ne hb, ← hdata]
      simp [data, hb]
  refine ⟨{ q₂ with
    heap := Function.update q₂.heap a none
    log := if isFree ≠ 0 ∧ s.handler_arg ≠ none then .freed a :: q₂.log else q₂.log }, ?_,
    ⟨?_, fun b => ?_, fun b hb => ?_⟩, hdata', hr₂.brk.trans hr₁.brk, hr₂.ticker.trans hr₁.ticker, ?_⟩
  · rw [timerDequeue, hs]
    simp only [Option.bind_eq_bind, Option.bind_some, hq₁, hq₂, timerFree, hu, hus]
    split <;> rfl
  · refine h.dll.unlink (t := a) (fun b hb => ?_) (fun b hb => ?_) ?_ ?_
    · have hq : q₂.next b = if s.prev = some b then s.next else q.next b := by rw [hn₂, hn₁]
      rw [hprev, hnext, ← hp, ← hn, ← hq]
      simp [Timerq.next, hmem b hb]
    · have hq : q₂.prev b = if s.next = some b then s.prev else q.prev b := by rw [hp₂, hp₁]
      rw [hprev, hnext, ← hp, ← hn, ← hq]
      simp [prev, hmem b hb]
    · rw [hprev, hnext, ← hp, ← hn, ← hf₁]
      exact hf₂
    · rw [hprev, hnext, ← hp, ← hn, ← hl₁]
      exact hl₂
  · rw [hdata']
    by_cases hb : b = a
    · subst hb
      simpa using fun hb => hmem b hb rfl
    · rw [Function.update_of_ne hb, ← h.live b]
      simp [hb]
  · rw [hr₂.brk, hr₁.brk]
    exact h.small b (by simp only [List.mem_append, List.mem_cons] at hb ⊢; tauto)
  · simp only [hlog]

/-- What a timer of the queue is after another one has been put in between `l₁` and `l₂`. -/
def relinked (l₁ l₂ : List Nat) (a b : Nat) (x : Timer) : Timer :=
  { x with
    next := if l₁.getLast? = some b then some a else x.next
    prev := if l₂.head? = some b then some a else x.prev
    in_use := if l₁ = [] ∧ l₂.head? = some b then false else x.in_use }

/-- The timer that has been put in between them. -/
def inserted (l₁ l₂ : List Nat) (app : Timer) : Timer :=
  { app with
    next := l₂.head?
    prev := l₁.getLast?
    in_use := if l₁ = [] ∧ l₂ ≠ [] then true else app.in_use }

theorem relinked_of_ne {x : Timer} (h₁ : l₁.getLast? ≠ some b) (h₂ : l₂.head? ≠ some b) :
    relinked l₁ l₂ a b x = x := by
  simp [relinked, h₁, h₂]

/-- What `timer_add` stores, wherever the new timer goes. -/
theorem Linked.link_heap {app : Timer} (h : q.Linked (l₁ ++ l₂))
    (hfind : q.find (fun tmp => app.timeout.lessThan tmp.timeout) = some l₂.head?) :
    ∃ q', q.link app = some q' ∧ q'.heap q.brk = some (inserted l₁ l₂ app) ∧
      (∀ b, b ≠ q.brk → q'.heap b = (q.heap b).map (relinked l₁ l₂ q.brk b)) ∧
      q'.first = (if l₁ = [] then some q.brk else q.first) ∧
      q'.last = (if l₂ = [] then some q.brk else q.last) ∧
      q'.brk = q.brk ∧ q'.ticker = q.ticker ∧ q'.log = q.log := by
  have hnew : ∀ b ∈ l₁ ++ l₂, b ≠ q.brk := fun b hb => Nat.ne_of_lt (h.small b hb)
  rcases List.eq_nil_or_concat l₁ with rfl | ⟨k, e, rfl⟩
  · cases l₂ with
    | nil =>
      have hfirst : q.first = none := h.dll.first
      have hlink : q.link app = some { q.put q.brk { app with prev := none, next := none } with
          first := some q.brk, last := some q.brk } := by
        rw [link, hfirst]
        rfl
      refine ⟨_, hlink, ?_, fun b hb => ?_, rfl, rfl, rfl, rfl, rfl⟩
      · simp [put, inserted]
      · have hsame : relinked [] [] q.brk b = id := funext fun x => relinked_of_ne (by simp) (by simp)
        simp [put, hb, hsame]
    | cons x m =>
      have hfirst : q.first = some x := h.dll.first
      obtain ⟨t, ht⟩ := h.heap (a := x) (by simp)
      have hx : x ≠ q.brk := hnew x (by simp)
      have hprev : t.prev = none := by simpa [prev, ht] using (@Dll.around _ _ _ _ _ _ [] _ h.dll).1
      have hlink : q.link app = some { (q.put q.brk { app with prev := none, next := some x, in_use := true }).put
          x { t with prev := some q.brk, in_use := false } with first := some q.brk } := by
        simp [link, hfirst, hfind, ht, hprev, store, put, hx]
      refine ⟨_, hlink, ?_, fun b hb => ?_, rfl, rfl, rfl, rfl, rfl⟩
      · simp [put, inserted, Ne.symm hx]
      · by_cases hbx : b = x
        · subst hbx
          simp [put, ht, relinked]
        · have hsame : relinked [] (x :: m) q.brk b = id := funext fun y =>
            relinked_of_ne (by simp) (by simp [Ne.symm hbx])
          simp [put, hb, hbx, hsame]
  · rw [List.concat_eq_append] at h hnew ⊢
    have hfirst : ∃ y, q.first = some y := by
      rw [h.dll.first]
      cases k <;> simp
    obtain ⟨y, hfirst⟩ := hfirst
    obtain ⟨s, hs⟩ := h.heap (a := e) (by simp)
    have he : e ≠ q.brk := hnew e (by simp)
    cases l₂ with
    | nil =>
      have hlast : q.last = some e := by simpa using h.dll.last
      have hlink : q.link app = some { (q.put q.brk { app with prev := some e, next := none }).put
          e { s with next := some q.brk } with last := some q.brk } := by
        simp [link, hfirst, hfind, hlast, store, put, he, hs]
      refine ⟨_, hlink, ?_, fun b hb => ?_, by simp [put], rfl, rfl, rfl, rfl⟩
      · simp [put, inserted, Ne.symm he]
      · by_cases hbe : b = e
        · subst hbe
          simp [put, hs, relinked]
        · have hsame : relinked (k ++ [e]) [] q.brk b = id := funext fun y =>
            relinked_of_ne (by simp [Ne.symm hbe]) (by simp)
          simp [put, hb, hbe, hsame]
    | cons x m =>
      obtain ⟨t, ht⟩ := h.heap (a := x) (by simp)
      have hx : x ≠ q.brk := hnew x (by simp)
      have hprev : t.prev = some e := by simpa [prev, ht] using h.dll.around.1
      have hex : e ≠ x := by
        rintro rfl
        exact (List.nodup_append.mp h.dll.nodup).2.2 e (by simp) e (by simp) rfl
      have hlink : q.link app = some (((q.put q.brk { app with prev := some e, next := some x }).put
          e { s with next := some q.brk }).put x { t with prev := some q.brk }) := by
        simp [link, hfirst, hfind, ht, hprev, store, put, he, hs, hx, Ne.symm hex]
      refine ⟨_, hlink, ?_, fun b hb => ?_, by simp [put], by simp [put], rfl, rfl, rfl⟩
      · simp [put, inserted, Ne.symm he, Ne.symm hx]
      · by_cases hbx : b = x
        · subst hbx
          simp [put, ht, relinked, hex]
        · by_cases hbe : b = e
          · subst hbe
            simp [put, hs, relinked, hbx, Ne.symm hbx]
          · have hsame : relinked (k ++ [e]) (x :: m) q.brk b = id := funext fun y =>
              relinked_of_ne (by simp [Ne.symm hbe]) (by simp [Ne.symm hbx])
            simp [put, hb, hbx, hbe, hsame]

/-- `timer_add` puts the new timer before the ones that expire later. -/
theorem Linked.link {app : Timer} (h : q.Linked (l₁ ++ l₂))
    (hfind : q.find (fun tmp => app.timeout.lessThan tmp.timeout) = some l₂.head?) :
    ∃ q', q.link app = some q' ∧ Linked { q' with brk := q.brk + 1 } (l₁ ++ q.brk :: l₂) ∧
      q'.data q.brk = some { inserted l₁ l₂ app with next := none, prev := none } ∧
      (∀ b, b ≠ q.brk → q'.data b = (q.data b).map fun x =>
        { x with in_use := if l₁ = [] ∧ l₂.head? = some b then false else x.in_use }) ∧
      q'.ticker = q.ticker ∧ q'.log = q.log := by
  obtain ⟨q', hlink, hnew, hold, hf, hl, -, hticker, hlog⟩ := h.link_heap hfind
  have hne : ∀ b ∈ l₁ ++ l₂, b ≠ q.brk := fun b hb => Nat.ne_of_lt (h.small b hb)
  refine ⟨q', hlink, ⟨?_, fun b => ?_, fun b hb => ?_⟩, ?_, fun b hb => ?_, hticker, hlog⟩
  · refine h.dll.insert (fun hmem => hne _ hmem rfl) (fun b hb => ?_) (fun b hb => ?_) ?_ ?_ hf hl
    · obtain ⟨x, hx⟩ := h.heap hb
      simp [Timerq.next, hold b (hne b hb), hx, relinked]
    · obtain ⟨x, hx⟩ := h.heap hb
      simp [prev, hold b (hne b hb), hx, relinked]
    · simp [Timerq.next, hnew, inserted]
    · simp [prev, hnew, inserted]
  · by_cases hb : b = q.brk
    · subst hb
      simp [data, hnew]
    · have := h.live b
      simp only [List.mem_append] at this
      simp only [List.mem_append, List.mem_cons, hb, false_or, this]
      simp [data, hold b hb]
  · simp only [List.mem_append, List.mem_cons] at hb
    rcases hb with hb | rfl | hb
    · exact Nat.lt_succ_of_lt (h.small b (by simp [hb]))
    · exact Nat.lt_succ_self _
    · exact Nat.lt_succ_of_lt (h.small b (by simp [hb]))
  · simp [data, hnew]
  · rw [data, hold b hb, data]
    cases q.heap b <;> rfl

/-- A store to the flags of a timer. -/
theorem Linked.flag {g : Timer → Timer} (h : q.Linked l) (ha : q.data a = some t)
    (hg : ∀ x n p, g { x with next := n, prev := p } = { g x with next := n, prev := p }) :
    ∃ q', q.store a g = some q' ∧ q'.Linked l ∧ q'.data = Function.update q.data a (some (g t)) ∧
      q'.first = q.first ∧ q'.brk = q.brk ∧ q'.ticker = q.ticker ∧ q'.log = q.log := by
  obtain ⟨s, hs, rfl⟩ := data_eq_some ha
  have hdata : (q.put a (g s)).data =
      Function.update q.data a (some (g { s with next := none, prev := none })) := by
    funext b
    by_cases hb : b = a
    · subst hb
      simp only [data, put, Function.update_self, Option.map_some, hg s none none]
    · simp [data, put, hb]
  have hlinks : (g s).next = s.next ∧ (g s).prev = s.prev := by
    have := hg s s.next s.prev
    exact ⟨by rw [this], by rw [this]⟩
  refine ⟨q.put a (g s), by simp [store, hs], ⟨?_, fun b => ?_, h.small⟩, hdata, rfl, rfl, rfl, rfl⟩
  · refine h.dll.congr (fun b _ => ?_) fun b _ => ?_
    · by_cases hb : b = a
      · subst hb
        simp [Timerq.next, put, hs, hlinks]
      · simp [Timerq.next, put, hb]
    · by_cases hb : b = a
      · subst hb
        simp [prev, put, hs, hlinks]
      · simp [prev, put, hb]
  · rw [hdata]
    by_cases hb : b = a
    · subst hb
      simp [h.live b, ha]
    · rw [Function.update_of_ne hb]
      exact h.live b

/-! ## The order of the queue -/

/-- The timers expire in the order of the queue, and only the first one is in use. -/
structure Ordered (q : Timerq) (l : List Nat) : Prop extends Linked q l where
  sorted : l.Pairwise fun a b => ∀ s t, q.data a = some s → q.data b = some t →
    ¬ t.timeout.lessThan s.timeout
  used : ∀ a ∈ l.tail, ∀ t, q.data a = some t → t.in_use = false

theorem Ordered.dequeue (h : q.Ordered (l₁ ++ a :: l₂)) (ha : q.data a = some t) :
    ∃ q', q.timerDequeue a isFree = some q' ∧ q'.Ordered (l₁ ++ l₂) ∧
      q'.data = Function.update q.data a none ∧ q'.brk = q.brk ∧ q'.ticker = q.ticker ∧
      q'.log = if isFree ≠ 0 ∧ t.handler_arg ≠ none then .freed a :: q.log else q.log := by
  obtain ⟨q', hq', hlink, hdata, hrest⟩ := @Timerq.Linked.dequeue _ _ _ _ _ isFree h.toLinked ha
  have hold : ∀ {b s}, q'.data b = some s → q.data b = some s := by
    intro b s hs
    rw [hdata] at hs
    by_cases hb : b = a
    · simp [hb] at hs
    · rwa [Function.update_of_ne hb] at hs
  refine ⟨q', hq', ⟨hlink, ?_, fun b hb s hs => ?_⟩, hdata, hrest⟩
  · have hsub : (l₁ ++ l₂).Sublist (l₁ ++ a :: l₂) := (List.sublist_cons_self a l₂).append_left l₁
    exact (h.sorted.sublist hsub).imp fun hle s t hs ht => hle s t (hold hs) (hold ht)
  · refine h.used b ?_ s (hold hs)
    cases l₁ with
    | nil => exact List.mem_of_mem_tail hb
    | cons x l₁ =>
      simp only [List.cons_append, List.tail_cons, List.mem_append, List.mem_cons] at hb ⊢
      tauto

theorem Ordered.flag {g : Timer → Timer} (h : q.Ordered l) (ha : q.data a = some t)
    (hg : ∀ x n p, g { x with next := n, prev := p } = { g x with next := n, prev := p })
    (hto : (g t).timeout = t.timeout) (huse : a ∈ l.tail → (g t).in_use = false) :
    ∃ q', q.store a g = some q' ∧ q'.Ordered l ∧ q'.data = Function.update q.data a (some (g t)) ∧
      q'.first = q.first ∧ q'.brk = q.brk ∧ q'.ticker = q.ticker ∧ q'.log = q.log := by
  obtain ⟨q', hq', hlink, hdata, hrest⟩ := h.toLinked.flag ha hg
  have hold : ∀ {b s}, q'.data b = some s →
      b = a ∧ s = g t ∨ b ≠ a ∧ q.data b = some s := by
    intro b s hs
    rw [hdata] at hs
    by_cases hb : b = a
    · subst hb
      rw [Function.update_self] at hs
      exact .inl ⟨rfl, (Option.some.inj hs).symm⟩
    · rw [Function.update_of_ne hb] at hs
      exact .inr ⟨hb, hs⟩
  have htime : ∀ {b s}, q'.data b = some s → ∃ u, q.data b = some u ∧ u.timeout = s.timeout := by
    intro b s hs
    rcases hold hs with ⟨rfl, rfl⟩ | ⟨-, hs⟩
    · exact ⟨t, ha, hto.symm⟩
    · exact ⟨s, hs, rfl⟩
  refine ⟨q', hq', ⟨hlink, h.sorted.imp fun hle s u hs hu => ?_, fun b hb s hs => ?_⟩, hdata, hrest⟩
  · obtain ⟨s', hs', hse⟩ := htime hs
    obtain ⟨u', hu', hue⟩ := htime hu
    rw [← hse, ← hue]
    exact hle s' u' hs' hu'
  · rcases hold hs with ⟨rfl, rfl⟩ | ⟨-, hs⟩
    · exact huse hb
    · exact h.used b hb s hs

/-- Where a search stops. -/
theorem find?_split {α : Type} (p : α → Bool) (l : List α) : ∃ l₁ l₂, l = l₁ ++ l₂ ∧
    l.find? p = l₂.head? ∧ (∀ b ∈ l₁, p b = false) ∧ ∀ x m, l₂ = x :: m → p x = true := by
  cases hf : l.find? p with
  | none => exact ⟨l, [], by simp, rfl, by simpa using hf, by simp⟩
  | some x =>
    obtain ⟨hx, l₁, m, rfl, hl₁⟩ := List.find?_eq_some_iff_append.mp hf
    refine ⟨l₁, x :: m, rfl, rfl, by simpa using hl₁, fun y k hy => ?_⟩
    cases hy
    exact hx

/-- The place of a new timer in the order. -/
theorem Ordered.link {app : Timer} (h : q.Ordered l) (hu : app.in_use = false) :
    ∃ q' l' app', q.link app = some q' ∧ Ordered { q' with brk := q.brk + 1 } l' ∧
      q'.data q.brk = some app' ∧ app'.timeout = app.timeout ∧ app'.handler_arg = app.handler_arg ∧
      app'.cancelled = app.cancelled ∧
      (∀ b, b ≠ q.brk → ∃ f : Timer → Bool, q'.data b = (q.data b).map fun x => { x with in_use := f x }) ∧
      q'.ticker = q.ticker ∧ q'.log = q.log := by
  have hfind := h.toLinked.find (f := fun tmp => app.timeout.lessThan tmp.timeout)
  obtain ⟨l₁, l₂, rfl, hhead, hbefore, hafter⟩ := find?_split
    (fun a => ((q.heap a).map fun tmp => decide (app.timeout.lessThan tmp.timeout)).getD false) l
  rw [hhead] at hfind
  -- the timers before expire no later than the new one, and the first one after expires later
  replace hbefore : ∀ b ∈ l₁, ∀ s, q.data b = some s → ¬ app.timeout.lessThan s.timeout := by
    intro b hb s hs
    obtain ⟨x, hx, rfl⟩ := data_eq_some hs
    simpa [hx] using hbefore b hb
  replace hafter : ∀ b ∈ l₂, ∀ s, q.data b = some s → ¬ s.timeout.lessThan app.timeout := by
    intro b hb s hs hlt
    cases l₂ with
    | nil => cases hb
    | cons x m =>
      obtain ⟨y, hy⟩ := h.toLinked.heap (a := x) (by simp)
      have hx : q.data x = some { y with next := none, prev := none } := by simp [data, hy]
      have hlater : app.timeout.lessThan y.timeout := by simpa [hy] using hafter x m rfl
      have hbx := Timeval.lessThan_trans hlt hlater
      rcases List.mem_cons.mp hb with rfl | hb
      · rw [hx] at hs
        cases hs
        exact Timeval.lessThan_irrefl hbx
      · have hm := (List.pairwise_append.mp h.sorted).2.1
        exact (List.pairwise_cons.mp hm).1 b hb _ s hx hs hbx
  obtain ⟨q', hlink, hlinked, hnew, hold, hticker, hlog⟩ := h.toLinked.link hfind
  have hne : ∀ b ∈ l₁ ++ l₂, b ≠ q.brk := fun b hb => Nat.ne_of_lt (h.small b hb)
  have htime : ∀ b ∈ l₁ ++ l₂, ∀ s, q'.data b = some s → ∃ u, q.data b = some u ∧ u.timeout = s.timeout := by
    intro b hb s hs
    rw [hold b (hne b hb), Option.map_eq_some_iff] at hs
    obtain ⟨u, hu, rfl⟩ := hs
    exact ⟨u, hu, rfl⟩
  refine ⟨q', l₁ ++ q.brk :: l₂, _, hlink, ⟨hlinked, ?_, fun b hb s hs => ?_⟩, hnew, rfl, rfl, rfl,
    fun b hb => ⟨_, hold b hb⟩, hticker, hlog⟩
  · obtain ⟨hs₁, hs₂, hs₁₂⟩ := List.pairwise_append.mp h.sorted
    have hkeep : ∀ {a b : Nat}, a ∈ l₁ ++ l₂ → b ∈ l₁ ++ l₂ →
        (∀ s t, q.data a = some s → q.data b = some t → ¬ t.timeout.lessThan s.timeout) →
        ∀ s t, q'.data a = some s → q'.data b = some t → ¬ t.timeout.lessThan s.timeout := by
      intro a b ha hb hle s t hs ht
      obtain ⟨s', hs', hse⟩ := htime a ha s hs
      obtain ⟨t', ht', hte⟩ := htime b hb t ht
      rw [← hse, ← hte]
      exact hle s' t' hs' ht'
    refine List.pairwise_append.mpr ⟨?_, List.pairwise_cons.mpr ⟨fun b hb s t hs ht => ?_, ?_⟩, ?_⟩
    · exact hs₁.imp_of_mem fun ha hb => hkeep (by simp [ha]) (by simp [hb])
    · have hs' : s.timeout = app.timeout := by
        have := hnew.symm.trans hs
        cases this
        rfl
      obtain ⟨t', ht', hte⟩ := htime b (by simp [hb]) t ht
      rw [hs', ← hte]
      exact hafter b hb t' ht'
    · exact hs₂.imp_of_mem fun ha hb => hkeep (by simp [ha]) (by simp [hb])
    · intro a ha b hb s t hs ht
      rcases List.mem_cons.mp hb with rfl | hb
      · have ht' : t.timeout = app.timeout := by
          have := hnew.symm.trans ht
          cases this
          rfl
        obtain ⟨s', hs', hse⟩ := htime a (by simp [ha]) s hs
        rw [ht', ← hse]
        exact hbefore a ha s' hs'
      · exact hkeep (by simp [ha]) (by simp [hb]) (hs₁₂ a ha b hb) s t hs ht
  · cases l₁ with
    | nil =>
      have hb' : b ∈ l₂ := hb
      have hs' := hs
      have hs : q'.data b = some s := hs'
      rw [hold b (hne b (by simp [hb'])), Option.map_eq_some_iff] at hs
      obtain ⟨u, hu', rfl⟩ := hs
      by_cases hhd : l₂.head? = some b
      · simp [hhd]
      · simp only [hhd, and_false, if_false]
        refine h.used b ?_ u hu'
        cases l₂ with
        | nil => cases hb'
        | cons x m =>
          refine (List.mem_cons.mp hb').resolve_left ?_
          rintro rfl
          exact hhd rfl
    | cons x l₁ =>
      have hs : q'.data b = some s := hs
      simp only [List.cons_append, List.tail_cons, List.mem_append, List.mem_cons] at hb
      by_cases hbn : b = q.brk
      · subst hbn
        rw [hnew] at hs
        cases hs
        simp [inserted, hu]
      · have hb' : b ∈ (x :: l₁ ++ l₂).tail := by
          simp only [List.cons_append, List.tail_cons, List.mem_append]
          tauto
        rw [hold b hbn, Option.map_eq_some_iff] at hs
        obtain ⟨u, hu', rfl⟩ := hs
        simpa using h.used b hb' u hu'

end

end Timerq

end Wcpss
end DaemonGroup
