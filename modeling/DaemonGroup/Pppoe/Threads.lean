import DaemonGroup.Lib.Run
import DaemonGroup.Pppoe.Defs
import Mathlib.Data.List.Nodup
import Mathlib.Logic.Function.Basic
import Mathlib.Algebra.Order.Ring.Int

/-!
# DaemonGroup.Pppoe.Threads

The timers of a thread master. An armed timer is in one of the lists of `struct thread_timer`, always
appended at the tail, and `thread_dispatch_timer` goes through each list up to the first timer that has
not expired. What the function of a timer does in the middle of that is a step like any other:
`threadDispatch` ends at the first timer that is run, and `threadReturn` goes on from there.

`ThreadMaster.Exact` is what this is for, and `ThreadMaster.Meets` the condition under which the code
does it (`timers_exact`).
-/

namespace DaemonGroup
namespace Pppoe

open Lib

def THREAD_TIMER_NUM : Nat := 10
def THREAD_EXTIMER_NUM : Nat := 3

inductive ThreadState where
  | RUN | PAUSE
deriving DecidableEq, Repr

/-- A timer; the master has other threads, which are in other lists. `long` is wide enough for the
uptime and a timer. -/
structure ThreadStruct where
  state : ThreadState := .RUN
  sands : Int := 0
deriving DecidableEq, Repr

/-- A place in the arrays of `struct thread_timer`, whether or not they have it. -/
inductive TimerSlot where
  | array (i : Int)
  | exarray (i : Int)
deriving DecidableEq, Repr

def TimerSlot.inside : TimerSlot → Bool
  | .array i => 0 ≤ i ∧ i < THREAD_TIMER_NUM
  | .exarray i => 0 ≤ i ∧ i < THREAD_EXTIMER_NUM

def timerSlots : List TimerSlot :=
  (List.range THREAD_TIMER_NUM).map (fun i => .array i) ++
    (List.range THREAD_EXTIMER_NUM).map (fun i => .exarray i)

/-- Where `thread_add_timer` and `thread_update_timer` put a timer. -/
def timerSlot (timer : Int) (extern_id : Nat) : TimerSlot :=
  if extern_id ≠ 0 then .exarray (extern_id - 1) else .array (timer - 1)

/-- The check that both begin with. -/
def timerRefused (timer : Int) (extern_id : Nat) : Bool :=
  extern_id = 0 ∧ timer > THREAD_TIMER_NUM ∨ extern_id > THREAD_TIMER_NUM

def timeCompare (lt rt : Int) : Int := lt - rt

/-- What a pointer to a `list_head` points to: the head of a list, a timer, or nothing, once the timer
that it was read from is out of its list. -/
inductive Link where
  | head (s : TimerSlot)
  | node (a : Addr)
  | poison
deriving DecidableEq, Repr

def linkTo (s : TimerSlot) : List Addr → Link
  | [] => .head s
  | a :: _ => .node a

/-- `thread_dispatch_timer` while the function of a timer runs: the lists from the one that the timer was
found in on, and the pointer `n` to go on with. -/
structure TimerWalk where
  slots : List TimerSlot
  next : Link
deriving DecidableEq, Repr

structure ThreadMaster where
  /-- what `time_sysup` returns -/
  clock : Nat := 0
  time_now : Int := 0
  thread : Addr → Option ThreadStruct := fun _ => none
  timer : TimerSlot → List Addr := fun _ => []
  walk : Option TimerWalk := none
  /-- the timers that were armed and had expired when the dispatch began, and have neither been run nor
  stopped since; no code reads it -/
  due : List Addr := []
  /-- the timers that were run though they were not due; no code reads it -/
  wrong : List Addr := []

namespace ThreadMaster

def sands (m : ThreadMaster) (a : Addr) : Int := ((m.thread a).map (·.sands)).getD 0

/-! ## Adding and stopping -/

/-- `list_add_tail` of a timer that is to run. -/
def append (m : ThreadMaster) (a : Addr) (s : TimerSlot) (sands : Int) : ThreadMaster :=
  { m with
    thread := Function.update m.thread a (some { state := .RUN, sands := sands })
    timer := Function.update m.timer s (m.timer s ++ [a]) }

/-- The end of `thread_add_timer` and `thread_update_timer`; there is no list outside the arrays. -/
def arm (m : ThreadMaster) (a : Addr) (timer : Int) (extern_id : Nat) : Option ThreadMaster :=
  if (timerSlot timer extern_id).inside then
    some (m.append a (timerSlot timer extern_id) (m.clock + timer))
  else
    none

/-- `list_del`, if the timer is in a list. -/
def unlink (m : ThreadMaster) (a : Addr) (r : ThreadStruct) : ThreadMaster :=
  if r.state = .RUN then { m with timer := fun s => (m.timer s).erase a, due := m.due.erase a } else m

def put (m : ThreadMaster) (a : Addr) (r : Option ThreadStruct) : ThreadMaster :=
  { m with thread := Function.update m.thread a r }

/-- `thread_add_timer_with_funcname`, which returns the timer. The cache has no record if the one that
it is to hand out is in use. -/
def threadAddTimer (m : ThreadMaster) (record : Addr) (timer : Int) (extern_id : Nat) :
    Option (Option Addr × ThreadMaster) :=
  if timerRefused timer extern_id then some (none, m)
  else if (m.thread record).isSome then some (none, m)
  else (m.arm record timer extern_id).map fun m => (some record, m)

/-- `thread_update_timer`. Callers hold no pointer to a timer that was cancelled. -/
def threadUpdateTimer (m : ThreadMaster) (a : Addr) (timer : Int) (extern_id : Nat) :
    Option (Int × ThreadMaster) :=
  match m.thread a with
  | none => some (PPPOEERR_ENOEXIST, m)
  | some r =>
    if timerRefused timer extern_id then some (PPPOEERR_EINVAL, m)
    else ((m.unlink a r).arm a timer extern_id).map fun m => (PPPOEERR_SUCCESS, m)

/-- `thread_pause_timer`. -/
def threadPauseTimer (m : ThreadMaster) (a : Addr) : Int × ThreadMaster :=
  match m.thread a with
  | none => (PPPOEERR_ENOEXIST, m)
  | some r =>
    if r.state ≠ .RUN then (PPPOEERR_ESTATE, m)
    else (PPPOEERR_SUCCESS, (m.unlink a r).put a (some { r with state := .PAUSE }))

/-- `thread_cancel`. -/
def threadCancel (m : ThreadMaster) (a : Addr) : ThreadMaster :=
  match m.thread a with
  | none => m
  | some r => (m.unlink a r).put a none

/-! ## Dispatch -/

/-- The `next` field of a timer. -/
def nextOf (m : ThreadMaster) (a : Addr) : Link :=
  match timerSlots.find? fun s => a ∈ m.timer s with
  | none => .poison
  | some s => linkTo s ((m.timer s).dropWhile (· ≠ a)).tail

/-- What `thread_dispatch_timer` does at a place in the list `s`: run a timer, or leave the list. It
cannot go on from the head of another list, from a record that was freed or from no list. -/
def look (m : ThreadMaster) (s : TimerSlot) : Link → Option (Option Addr)
  | .head s' => if s' = s then some none else none
  | .node a => (m.thread a).map fun r => if timeCompare m.time_now r.sands < 0 then none else some a
  | .poison => none

/-- `thread_run`, up to the function of the timer; the next one has been read before. -/
def threadRun (m : ThreadMaster) (slots : List TimerSlot) (a : Addr) : ThreadMaster :=
  { m with
    walk := some ⟨slots, m.nextOf a⟩
    due := m.due.erase a
    wrong := if a ∈ m.due then m.wrong else a :: m.wrong }

/-- The first timer of the first list. -/
def first (m : ThreadMaster) : List TimerSlot → Link
  | [] => .poison
  | s :: _ => linkTo s (m.timer s)

/-- `thread_dispatch_timer` from a place on, up to the next timer that is run. -/
def threadDispatchTimer (m : ThreadMaster) : List TimerSlot → Link → Option ThreadMaster
  | [], _ => some { m with walk := none }
  | s :: rest, next =>
    match m.look s next with
    | none => none
    | some (some a) => some (m.threadRun (s :: rest) a)
    | some none => m.threadDispatchTimer rest (m.first rest)

/-- `thread_dispatch`, as far as the timers. -/
def threadDispatch (m : ThreadMaster) : Option ThreadMaster :=
  -- the thread that dispatches is in the function of a timer, and none of them dispatches
  if m.walk.isSome then some m
  else
    let m := { m with
      time_now := m.clock
      due := timerSlots.flatMap fun s => (m.timer s).filter fun a => m.sands a ≤ m.clock }
    m.threadDispatchTimer timerSlots (m.first timerSlots)

/-- The function of the timer that is run returns. -/
def threadReturn (m : ThreadMaster) : Option ThreadMaster :=
  match m.walk with
  | none => some m
  | some w => m.threadDispatchTimer w.slots w.next

end ThreadMaster

/-! ## Runs -/

inductive TimerEvent where
  | tick (n : Nat)
  | add (record : Addr) (timer : Int) (extern_id : Nat)
  | update (a : Addr) (timer : Int) (extern_id : Nat)
  | pause (a : Addr)
  | cancel (a : Addr)
  | dispatch
  | returned
deriving DecidableEq, Repr

namespace ThreadMaster

def step (m : ThreadMaster) : TimerEvent → Option ThreadMaster
  | .tick n => some { m with clock := m.clock + n }
  | .add record timer extern_id => (m.threadAddTimer record timer extern_id).map (·.2)
  | .update a timer extern_id => (m.threadUpdateTimer a timer extern_id).map (·.2)
  | .pause a => some (m.threadPauseTimer a).2
  | .cancel a => some (m.threadCancel a)
  | .dispatch => m.threadDispatch
  | .returned => m.threadReturn

/-- The lists are sorted, no timer was run that was not due, and a dispatch leaves none that is. -/
structure Exact (m : ThreadMaster) : Prop where
  sorted : ∀ s, (m.timer s).Pairwise fun a b => m.sands a ≤ m.sands b
  wrong : m.wrong = []
  due : m.walk = none → m.due = []

/-- The place for the timer is in the arrays, and no other timer there expires later. While a dispatch is
under way the timer does not expire at once. -/
def Fits (m : ThreadMaster) (a : Addr) (timer : Int) (extern_id : Nat) : Prop :=
  if extern_id = 0 then 1 ≤ timer
  else extern_id ≤ THREAD_EXTIMER_NUM ∧
    (∀ b ∈ m.timer (timerSlot timer extern_id), b ≠ a → m.sands b ≤ m.clock + timer) ∧
    (m.walk.isSome → m.time_now < m.clock + timer)

/-- The dispatch that is under way goes on with the timer. -/
def Upcoming (m : ThreadMaster) (a : Addr) : Prop := m.walk.map (·.next) = some (.node a)

/-- The list that the dispatch is in. -/
def current (m : ThreadMaster) : List Addr := ((m.walk.bind (·.slots.head?)).map m.timer).getD []

/-- A timer that is armed fits. A timer that the dispatch goes on with is not cancelled, it is paused only
if it has not expired, and it is reset only if it is the last that is due in its list. -/
def Meets (m : ThreadMaster) : TimerEvent → Prop
  | .add a timer extern_id =>
    timerRefused timer extern_id = false → m.thread a = none → m.Fits a timer extern_id
  | .update a timer extern_id =>
    timerRefused timer extern_id = false → m.thread a ≠ none →
      m.Fits a timer extern_id ∧ (m.Upcoming a → ∀ b ∈ m.current, b ∈ m.due → b = a)
  | .pause a => m.Upcoming a → m.time_now < m.sands a
  | .cancel a => ¬ m.Upcoming a
  | .tick _ | .dispatch | .returned => True

instance (m : ThreadMaster) (a : Addr) (timer : Int) (extern_id : Nat) : Decidable (m.Fits a timer extern_id) :=
  inferInstanceAs (Decidable (ite ..))

instance (m : ThreadMaster) (a : Addr) : Decidable (m.Upcoming a) := inferInstanceAs (Decidable (_ = _))

instance (m : ThreadMaster) (e : TimerEvent) : Decidable (m.Meets e) :=
  match e with
  | .add _ _ _ => inferInstanceAs (Decidable (_ → _ → _))
  | .update _ _ _ => inferInstanceAs (Decidable (_ → _ → _ ∧ (_ → ∀ b ∈ _, _)))
  | .pause _ => inferInstanceAs (Decidable (_ → _))
  | .cancel _ => inferInstanceAs (Decidable (¬ _))
  | .tick _ | .dispatch | .returned => inferInstanceAs (Decidable True)

/-! ## The lists -/

structure Ordered (m : ThreadMaster) : Prop where
  armed : ∀ s, ∀ a ∈ m.timer s, ∃ r, m.thread a = some r ∧ r.state = .RUN
  nodup : ∀ s, (m.timer s).Nodup
  one : ∀ s s' a, a ∈ m.timer s → a ∈ m.timer s' → s = s'
  inside : ∀ s, ∀ a ∈ m.timer s, s.inside
  sorted : ∀ s, (m.timer s).Pairwise fun a b => m.sands a ≤ m.sands b
  /-- the timers of a list of `array` have been set for the same time -/
  plain : ∀ i, ∀ a ∈ m.timer (.array i), m.sands a ≤ m.clock + (i + 1)
  now : m.time_now ≤ m.clock

section
variable {m m' : ThreadMaster} {a b : Addr} {s : TimerSlot} {r : ThreadStruct} {o : Option ThreadStruct}
  {timer v : Int} {extern_id : Nat} {slots : List TimerSlot} {next : Link}

theorem sands_eq (h : m.thread a = some r) : m.sands a = r.sands := by
  rw [sands, h]
  rfl

theorem Ordered.create (clock : Nat) : Ordered { clock := clock } where
  armed := fun _ _ h => absurd h List.not_mem_nil
  nodup := fun _ => List.nodup_nil
  one := fun _ _ _ h => absurd h List.not_mem_nil
  inside := fun _ _ h => absurd h List.not_mem_nil
  sorted := fun _ => List.Pairwise.nil
  plain := fun _ _ h => absurd h List.not_mem_nil
  now := Int.natCast_nonneg clock

/-- Time passes, and a dispatch goes on. -/
theorem Ordered.later (h : m.Ordered) {clock : Nat} {time_now : Int} {walk : Option TimerWalk} {due wrong : List Addr}
    (hc : m.clock ≤ clock) (hn : time_now ≤ clock) :
    Ordered { m with clock := clock, time_now := time_now, walk := walk, due := due, wrong := wrong } where
  armed := h.armed
  nodup := h.nodup
  one := h.one
  inside := h.inside
  sorted := h.sorted
  plain := by
    intro i a ha
    have hle : m.sands a ≤ m.clock + (i + 1) := h.plain i a ha
    exact hle.trans (by dsimp only; omega)
  now := hn

/-- A timer that is paused is in no list. -/
theorem Ordered.unlisted (h : m.Ordered) (ha : m.thread a = some r) (hr : r.state ≠ .RUN) : a ∉ m.timer s := by
  intro hin
  obtain ⟨r', ha', hr'⟩ := h.armed s a hin
  rw [ha] at ha'
  cases ha'
  exact hr hr'

theorem Ordered.fresh (h : m.Ordered) (ha : m.thread a = none) : a ∉ m.timer s := by
  intro hin
  obtain ⟨r, hr, -⟩ := h.armed s a hin
  rw [ha] at hr
  cases hr

theorem listed_ne (ha : ∀ s, a ∉ m.timer s) (hb : b ∈ m.timer s) : b ≠ a := fun hba => ha s (hba ▸ hb)

/-! ### `unlink` -/

@[simp] theorem unlink_thread : (m.unlink a r).thread = m.thread := by
  unfold unlink
  split <;> rfl

@[simp] theorem unlink_clock : (m.unlink a r).clock = m.clock := by
  unfold unlink
  split <;> rfl

@[simp] theorem unlink_time_now : (m.unlink a r).time_now = m.time_now := by
  unfold unlink
  split <;> rfl

@[simp] theorem unlink_walk : (m.unlink a r).walk = m.walk := by
  unfold unlink
  split <;> rfl

@[simp] theorem unlink_wrong : (m.unlink a r).wrong = m.wrong := by
  unfold unlink
  split <;> rfl

theorem unlink_idle (h : m.due = []) : (m.unlink a r).due = [] := by
  unfold unlink
  split
  · rw [h]
    rfl
  · exact h

@[simp] theorem unlink_sands : (m.unlink a r).sands b = m.sands b := by
  rw [sands, unlink_thread, sands]

theorem Ordered.unlink_timer (h : m.Ordered) (ha : m.thread a = some r) :
    (m.unlink a r).timer s = (m.timer s).erase a := by
  unfold unlink
  split
  · rfl
  · exact (List.erase_of_not_mem (h.unlisted ha ‹_›)).symm

theorem Ordered.mem_unlink (h : m.Ordered) (ha : m.thread a = some r) :
    b ∈ (m.unlink a r).timer s ↔ b ≠ a ∧ b ∈ m.timer s := by
  rw [h.unlink_timer ha]
  exact (h.nodup s).mem_erase_iff

theorem Ordered.unlink (h : m.Ordered) (ha : m.thread a = some r) : (m.unlink a r).Ordered where
  armed := by
    intro s b hb
    rw [unlink_thread]
    exact h.armed s b ((h.mem_unlink ha).mp hb).2
  nodup := by
    intro s
    rw [h.unlink_timer ha]
    exact (h.nodup s).erase a
  one := fun s s' b hb hb' => h.one s s' b ((h.mem_unlink ha).mp hb).2 ((h.mem_unlink ha).mp hb').2
  inside := fun s b hb => h.inside s b ((h.mem_unlink ha).mp hb).2
  sorted := by
    intro s
    simp only [h.unlink_timer ha, unlink_sands]
    exact (h.sorted s).sublist List.erase_sublist
  plain := by
    intro i b hb
    rw [unlink_sands, unlink_clock]
    exact h.plain i b ((h.mem_unlink ha).mp hb).2
  now := by
    rw [unlink_time_now, unlink_clock]
    exact h.now

/-! ### `put` -/

theorem put_thread (hb : b ≠ a) : (m.put a o).thread b = m.thread b := Function.update_of_ne hb ..

theorem put_thread_self : (m.put a o).thread a = o := Function.update_self ..

theorem put_sands (hb : b ≠ a) : (m.put a o).sands b = m.sands b := by
  rw [sands, put_thread hb, sands]

/-- A timer that is in no list may change, or go. -/
theorem Ordered.put (h : m.Ordered) (ha : ∀ s, a ∉ m.timer s) : (m.put a o).Ordered := by
  have hne : ∀ {s b}, b ∈ m.timer s → b ≠ a := listed_ne ha
  constructor
  · intro s b hb
    rw [put_thread (hne hb)]
    exact h.armed s b hb
  · exact h.nodup
  · exact h.one
  · exact h.inside
  · intro s
    exact (h.sorted s).imp_of_mem fun hb hc hle => by rwa [put_sands (hne hb), put_sands (hne hc)]
  · intro i b hb
    rw [put_sands (hne hb)]
    exact h.plain i b hb
  · exact h.now

/-! ### `append` -/

theorem append_thread (hb : b ≠ a) : (m.append a s v).thread b = m.thread b := Function.update_of_ne hb ..

theorem append_thread_self : (m.append a s v).thread a = some { state := .RUN, sands := v } :=
  Function.update_self ..

theorem append_sands_self : (m.append a s v).sands a = v := sands_eq append_thread_self

theorem append_sands (hb : b ≠ a) : (m.append a s v).sands b = m.sands b := by
  rw [sands, append_thread hb, sands]

theorem append_timer (s' : TimerSlot) :
    (m.append a s v).timer s' = if s' = s then m.timer s ++ [a] else m.timer s' := by
  split
  · subst s'
    exact Function.update_self ..
  · exact Function.update_of_ne ‹_› ..

theorem mem_append_timer {s' : TimerSlot} :
    b ∈ (m.append a s v).timer s' ↔ b ∈ m.timer s' ∨ b = a ∧ s' = s := by
  rw [append_timer]
  split
  · subst s'
    simp
  · simp_all

theorem Ordered.append (h : m.Ordered) (ha : ∀ s, a ∉ m.timer s) (hs : s.inside)
    (hlast : ∀ b ∈ m.timer s, m.sands b ≤ v) (hplain : ∀ i, s = .array i → v ≤ m.clock + (i + 1)) :
    (m.append a s v).Ordered := by
  have hne : ∀ {s b}, b ∈ m.timer s → b ≠ a := listed_ne ha
  constructor
  · intro s' b hb
    rcases mem_append_timer.mp hb with hb | ⟨rfl, -⟩
    · rw [append_thread (hne hb)]
      exact h.armed s' b hb
    · exact ⟨_, append_thread_self, rfl⟩
  · intro s'
    rw [append_timer]
    split
    · exact List.nodup_append.mpr ⟨h.nodup s, List.nodup_singleton a, fun b hb c hc hbc =>
        hne hb (hbc.trans (List.mem_singleton.mp hc))⟩
    · exact h.nodup s'
  · intro s₁ s₂ b h₁ h₂
    rcases mem_append_timer.mp h₁ with hb₁ | ⟨hba, hs₁⟩
    · rcases mem_append_timer.mp h₂ with hb₂ | ⟨hba, -⟩
      · exact h.one s₁ s₂ b hb₁ hb₂
      · exact absurd hba (hne hb₁)
    · rcases mem_append_timer.mp h₂ with hb₂ | ⟨-, hs₂⟩
      · exact absurd hba (hne hb₂)
      · exact hs₁.trans hs₂.symm
  · intro s' b hb
    rcases mem_append_timer.mp hb with hb | ⟨-, rfl⟩
    · exact h.inside s' b hb
    · exact hs
  · intro s'
    have hold : ∀ s', (m.timer s').Pairwise fun b c => (m.append a s v).sands b ≤ (m.append a s v).sands c :=
      fun s' => (h.sorted s').imp_of_mem fun hb hc hle => by rwa [append_sands (hne hb), append_sands (hne hc)]
    rw [append_timer]
    split
    · refine List.pairwise_append.mpr ⟨hold s, List.pairwise_singleton _ a, fun b hb c hc => ?_⟩
      rw [List.mem_singleton.mp hc, append_sands_self, append_sands (hne hb)]
      exact hlast b hb
    · exact hold s'
  · intro i b hb
    rcases mem_append_timer.mp hb with hb | ⟨rfl, hi⟩
    · rw [append_sands (hne hb)]
      exact h.plain i b hb
    · rw [append_sands_self]
      exact hplain i hi.symm
  · exact h.now

/-- A timer is put into the arrays exactly if its place is one of theirs. -/
theorem inside_iff (h : timerRefused timer extern_id = false) : (timerSlot timer extern_id).inside ↔
    if extern_id = 0 then 1 ≤ timer else extern_id ≤ THREAD_EXTIMER_NUM := by
  rw [timerRefused, decide_eq_false_iff_not] at h
  have hnum : THREAD_TIMER_NUM = 10 ∧ THREAD_EXTIMER_NUM = 3 := ⟨rfl, rfl⟩
  rw [timerSlot]
  by_cases hid : extern_id = 0
  · rw [if_neg (fun hne => hne hid), if_pos hid, TimerSlot.inside, decide_eq_true_iff]
    omega
  · rw [if_pos hid, if_neg hid, TimerSlot.inside, decide_eq_true_iff]
    omega

/-! ## What is left of a dispatch -/

/-- What is due is in the lists that are left, and of the lists after the first no timer has been run. -/
structure Left (m : ThreadMaster) (slots : List TimerSlot) : Prop where
  distinct : slots.Nodup
  once : m.due.Nodup
  held : ∀ a ∈ m.due, ∃ s ∈ slots, a ∈ m.timer s
  later : ∀ s ∈ slots.tail, ∀ a ∈ m.timer s, a ∈ m.due ↔ m.sands a ≤ m.time_now

/-- No timer of the list is due. -/
def Clear (m : ThreadMaster) (s : TimerSlot) : Prop := ∀ a ∈ m.timer s, a ∉ m.due

/-- Where the dispatch goes on in the list `s`: at a place of the list before which nothing is due, or, if
nothing in the list is due, at any timer that has not expired. -/
inductive Ahead (m : ThreadMaster) (s : TimerSlot) (next : Link) : Prop
  | here (l₁ l₂ : List Addr) (hl : m.timer s = l₁ ++ l₂) (hn : next = linkTo s l₂)
      (hpast : ∀ a ∈ l₁, a ∉ m.due) (hdue : ∀ a ∈ l₂, a ∈ m.due ↔ m.sands a ≤ m.time_now)
  | away (a : Addr) (r : ThreadStruct) (hn : next = .node a) (ha : m.thread a = some r)
      (hr : m.time_now < r.sands) (hclear : m.Clear s)

structure Walks (m : ThreadMaster) (w : TimerWalk) : Prop where
  left : m.Left w.slots
  ahead : ∀ s, w.slots.head? = some s → m.Ahead s w.next

structure Inv (m : ThreadMaster) : Prop where
  ordered : m.Ordered
  wrong : m.wrong = []
  idle : m.walk = none → m.due = []
  walks : ∀ w, m.walk = some w → m.Walks w

theorem Inv.exact (h : m.Inv) : m.Exact := ⟨h.ordered.sorted, h.wrong, h.idle⟩

/-- At the first timer of a list, nothing of it has been run. -/
theorem Left.first (h : m.Left slots)
    (hall : ∀ s ∈ slots, ∀ a ∈ m.timer s, a ∈ m.due ↔ m.sands a ≤ m.time_now) :
    m.Walks ⟨slots, m.first slots⟩ := by
  refine ⟨h, fun s hs => ?_⟩
  cases slots with
  | nil => cases hs
  | cons s' rest =>
    cases hs
    exact .here [] (m.timer s) rfl rfl (List.forall_mem_nil _) (hall s List.mem_cons_self)

/-- A list in which nothing is due is left. -/
theorem Walks.leave {rest : List TimerSlot} (h : m.Left (s :: rest)) (hclear : m.Clear s) :
    m.Walks ⟨rest, m.first rest⟩ := by
  have hleft : m.Left rest := by
    refine ⟨(List.nodup_cons.mp h.distinct).2, h.once, fun a ha => ?_, fun s' hs' =>
      h.later s' (List.mem_of_mem_tail hs')⟩
    obtain ⟨s', hs', hin⟩ := h.held a ha
    rcases List.mem_cons.mp hs' with hs | hs'
    · exact absurd ha (hclear a (hs ▸ hin))
    · exact ⟨s', hs', hin⟩
  exact hleft.first h.later

/-- If the next timer has not expired, nothing in the list is due, for the list is sorted. -/
theorem Ahead.clear (ho : m.Ordered) (h : m.Ahead s (.node a)) (ha : m.time_now < m.sands a) : m.Clear s := by
  cases h with
  | away b r hn hb hr hclear => exact hclear
  | here l₁ l₂ hl hn hpast hdue =>
    cases l₂ with
    | nil => cases hn
    | cons b l₂ =>
      cases hn
      have hsorted := ho.sorted s
      rw [hl, List.pairwise_append, List.pairwise_cons] at hsorted
      intro c hc
      rw [hl] at hc
      rcases List.mem_append.mp hc with hc | hc
      · exact hpast c hc
      · rw [hdue c hc]
        rcases List.mem_cons.mp hc with rfl | hc
        · exact Int.not_le.mpr ha
        · exact Int.not_le.mpr (ha.trans_le (hsorted.2.1.1 c hc))

theorem inside_slots (h : s.inside) : s ∈ timerSlots := by
  cases s with
  | array i =>
    simp only [TimerSlot.inside, decide_eq_true_iff] at h
    refine List.mem_append_left _ (List.mem_map.mpr ⟨i.toNat, List.mem_range.mpr (by omega), ?_⟩)
    rw [Int.toNat_of_nonneg h.1]
  | exarray i =>
    simp only [TimerSlot.inside, decide_eq_true_iff] at h
    refine List.mem_append_right _ (List.mem_map.mpr ⟨i.toNat, List.mem_range.mpr (by omega), ?_⟩)
    rw [Int.toNat_of_nonneg h.1]

/-- The next timer of a list. -/
theorem Ordered.nextOf {l₁ l₂ : List Addr} (h : m.Ordered) (hl : m.timer s = l₁ ++ a :: l₂) :
    m.nextOf a = linkTo s l₂ := by
  have ha : a ∈ m.timer s := hl ▸ List.mem_append_right _ List.mem_cons_self
  have hfind : timerSlots.find? (fun s => a ∈ m.timer s) = some s := by
    cases hf : timerSlots.find? fun s => a ∈ m.timer s with
    | none =>
      have hno := List.find?_eq_none.mp hf s (inside_slots (h.inside s a ha))
      exact absurd (decide_eq_true ha) hno
    | some s' =>
      have hs' : a ∈ m.timer s' := by simpa using List.find?_some hf
      rw [h.one s' s a hs' ha]
  have hpast : ∀ b ∈ l₁, decide (b ≠ a) = true := by
    intro b hb
    have hnd := h.nodup s
    rw [hl] at hnd
    exact decide_eq_true fun hba => (List.nodup_append.mp hnd).2.2 b hb a List.mem_cons_self hba
  rw [ThreadMaster.nextOf, hfind]
  dsimp only
  rw [hl, List.dropWhile_append_of_pos hpast, List.dropWhile_cons_of_neg (by simp)]
  rfl

/-- A timer that is due is run. -/
theorem Left.run {rest : List TimerSlot} {l₁ l₂ : List Addr} (ho : m.Ordered) (hw : m.wrong = [])
    (h : m.Left (s :: rest)) (hl : m.timer s = l₁ ++ a :: l₂) (hpast : ∀ b ∈ l₁, b ∉ m.due)
    (hdue : ∀ b ∈ a :: l₂, b ∈ m.due ↔ m.sands b ≤ m.time_now) (ha : a ∈ m.due) :
    (m.threadRun (s :: rest) a).Inv := by
  have herase : ∀ b, b ∈ m.due.erase a ↔ b ≠ a ∧ b ∈ m.due := fun b => h.once.mem_erase_iff
  have hin : a ∈ m.timer s := hl ▸ List.mem_append_right _ List.mem_cons_self
  have hother : ∀ b, b ≠ a → (b ∈ m.due.erase a ↔ b ∈ m.due) := fun b hb =>
    (herase b).trans (and_iff_right hb)
  have hnd := ho.nodup s
  rw [hl, List.nodup_append, List.nodup_cons] at hnd
  refine ⟨ho.later le_rfl ho.now, (if_pos ha).trans hw, fun hn => (Option.some_ne_none _ hn).elim, ?_⟩
  rintro w ⟨⟩
  refine ⟨⟨h.distinct, h.once.erase a, fun b hb => h.held b ((herase b).mp hb).2, fun s' hs' b hb => ?_⟩, ?_⟩
  · have hba : b ≠ a := by
      rintro rfl
      exact (List.nodup_cons.mp h.distinct).1 (ho.one s s' b hin hb ▸ hs')
    exact (hother b hba).trans (h.later s' hs' b hb)
  · rintro s' ⟨⟩
    refine .here (l₁ ++ [a]) l₂ (by simp [threadRun, hl]) (ho.nextOf hl) (fun b hb => ?_) fun b hb => ?_
    · rcases List.mem_append.mp hb with hb | hb
      · exact fun hd => hpast b hb ((herase b).mp hd).2
      · exact fun hd => ((herase b).mp hd).1 (List.mem_singleton.mp hb)
    · have hba : b ≠ a := by
        rintro rfl
        exact hnd.2.1.1 hb
      exact (hother b hba).trans (hdue b (List.mem_cons_of_mem _ hb))

/-- The dispatch runs the next timer that is due, or ends. -/
theorem Walks.dispatch (ho : m.Ordered) (hw : m.wrong = []) (h : m.Walks ⟨slots, next⟩) :
    ∃ m', m.threadDispatchTimer slots next = some m' ∧ m'.Inv := by
  induction slots generalizing next with
  | nil =>
    have hnone : m.due = [] := List.eq_nil_iff_forall_not_mem.mpr fun a ha => by
      obtain ⟨s, hs, -⟩ := h.left.held a ha
      cases hs
    exact ⟨_, rfl, ho.later le_rfl ho.now, hw, fun _ => hnone, fun w hw => (Option.some_ne_none w hw.symm).elim⟩
  | cons s rest ih =>
    have hleave : m.look s next = some none → m.Clear s →
        ∃ m', m.threadDispatchTimer (s :: rest) next = some m' ∧ m'.Inv := by
      intro hlook hclear
      rw [threadDispatchTimer, hlook]
      exact ih (.leave h.left hclear)
    have hahead : m.Ahead s next := h.ahead s rfl
    cases hahead with
    | away a r hn ha hr hclear =>
      refine hleave ?_ hclear
      have hlate : timeCompare m.time_now r.sands < 0 := by
        unfold timeCompare
        omega
      rw [hn, look, ha, Option.map_some, if_pos hlate]
    | here l₁ l₂ hl hn hpast hdue =>
      cases l₂ with
      | nil =>
        refine hleave ?_ fun a ha => hpast a ?_
        · rw [hn, linkTo, look, if_pos rfl]
        · rwa [hl, List.append_nil] at ha
      | cons a l₂ =>
        obtain ⟨r, ha, -⟩ := ho.armed s a (hl ▸ List.mem_append_right _ List.mem_cons_self)
        have hsands : m.sands a = r.sands := sands_eq ha
        by_cases hexp : timeCompare m.time_now r.sands < 0
        · refine hleave (by rw [hn, linkTo, look, ha, Option.map_some, if_pos hexp]) ?_
          refine Ahead.clear ho (.here l₁ (a :: l₂) hl rfl hpast hdue) ?_
          unfold timeCompare at hexp
          omega
        · have hlook : m.look s next = some (some a) := by
            rw [hn, linkTo, look, ha, Option.map_some, if_neg hexp]
          have hin : a ∈ m.due := by
            rw [hdue a List.mem_cons_self]
            unfold timeCompare at hexp
            omega
          rw [threadDispatchTimer, hlook]
          exact ⟨_, rfl, h.left.run ho hw hl hpast hdue hin⟩

/-! ## Operations during a dispatch -/

theorem Left.mem_unlink (ho : m.Ordered) (h : m.Left slots) (ha : m.thread a = some r) :
    b ∈ (m.unlink a r).due ↔ b ≠ a ∧ b ∈ m.due := by
  unfold ThreadMaster.unlink
  split
  · exact h.once.mem_erase_iff
  · refine (and_iff_right_of_imp fun hb => ?_).symm
    rintro rfl
    obtain ⟨s, -, hin⟩ := h.held b hb
    exact ho.unlisted ha ‹_› hin

theorem Left.unlink (ho : m.Ordered) (h : m.Left slots) (ha : m.thread a = some r) : (m.unlink a r).Left slots where
  distinct := h.distinct
  once := by
    unfold ThreadMaster.unlink
    split
    · exact h.once.erase a
    · exact h.once
  held := by
    intro b hb
    obtain ⟨hba, hb⟩ := (h.mem_unlink ho ha).mp hb
    obtain ⟨s, hs, hin⟩ := h.held b hb
    exact ⟨s, hs, (ho.mem_unlink ha).mpr ⟨hba, hin⟩⟩
  later := by
    intro s hs b hb
    obtain ⟨hba, hin⟩ := (ho.mem_unlink ha).mp hb
    rw [h.mem_unlink ho ha, and_iff_right hba, unlink_sands, unlink_time_now]
    exact h.later s hs b hin

theorem Clear.unlink (ho : m.Ordered) (hl : m.Left slots) (ha : m.thread a = some r)
    (h : ∀ b ∈ m.timer s, b ∈ m.due → b = a) : (m.unlink a r).Clear s := by
  intro b hb hd
  obtain ⟨hba, hd⟩ := (hl.mem_unlink ho ha).mp hd
  exact hba (h b ((ho.mem_unlink ha).mp hb).2 hd)

/-- A timer that the dispatch does not go on with may be taken out. -/
theorem Ahead.unlink (ho : m.Ordered) (hl : m.Left slots) (h : m.Ahead s next) (ha : m.thread a = some r)
    (hne : next ≠ .node a) : (m.unlink a r).Ahead s next := by
  cases h with
  | away b r' hn hb hr hclear =>
    refine .away b r' hn ?_ ?_ (.unlink ho hl ha fun c hc hd => absurd hd (hclear c hc))
    · rw [unlink_thread, hb]
    · rw [unlink_time_now]
      exact hr
  | here l₁ l₂ htimer hn hpast hdue =>
    have hdue' : ∀ b, b ≠ a → (b ∈ (m.unlink a r).due ↔ b ∈ m.due) := fun b hb =>
      (hl.mem_unlink ho ha).trans (and_iff_right hb)
    have hnd := ho.nodup s
    rw [htimer, List.nodup_append] at hnd
    by_cases hin : a ∈ l₁
    · refine .here (l₁.erase a) l₂ ?_ hn (fun b hb => ?_) fun b hb => ?_
      · rw [ho.unlink_timer ha, htimer, List.erase_append_left _ hin]
      · exact fun hd => hpast b (List.mem_of_mem_erase hb) ((hl.mem_unlink ho ha).mp hd).2
      · rw [hdue' b (fun hba => hnd.2.2 a hin b hb hba.symm), unlink_sands, unlink_time_now]
        exact hdue b hb
    · refine .here l₁ (l₂.erase a) ?_ ?_ (fun b hb => ?_) fun b hb => ?_
      · rw [ho.unlink_timer ha, htimer, List.erase_append_right _ hin]
      · rw [hn]
        cases l₂ with
        | nil => rfl
        | cons c l₂ =>
          have hca : c ≠ a := fun hca => hne (hn.trans (congrArg Link.node hca))
          rw [List.erase_cons_tail (by simpa using hca)]
          rfl
      · exact fun hd => hpast b hb ((hl.mem_unlink ho ha).mp hd).2
      · obtain ⟨hba, hb⟩ := hnd.2.1.mem_erase_iff.mp hb
        rw [hdue' b hba, unlink_sands, unlink_time_now]
        exact hdue b hb

theorem Left.put (h : m.Left slots) (ha : ∀ s, a ∉ m.timer s) : (m.put a o).Left slots := by
  refine ⟨h.distinct, h.once, h.held, fun s hs b hb => ?_⟩
  rw [put_sands (listed_ne ha hb)]
  exact h.later s hs b hb

theorem Ahead.put (h : m.Ahead s next) (ha : ∀ s, a ∉ m.timer s) (hne : next ≠ .node a) :
    (m.put a o).Ahead s next := by
  cases h with
  | away b r hn hb hr hclear =>
    have hba : b ≠ a := fun hba => hne (hn.trans (congrArg Link.node hba))
    exact .away b r hn ((put_thread hba).trans hb) hr hclear
  | here l₁ l₂ htimer hn hpast hdue =>
    refine .here l₁ l₂ htimer hn hpast fun b hb => ?_
    have hin : b ∈ m.timer s := htimer ▸ List.mem_append_right _ hb
    rw [put_sands (listed_ne ha hin)]
    exact hdue b hb

theorem Left.append (h : m.Left slots) (ha : ∀ s, a ∉ m.timer s) (hv : m.time_now < v) :
    (m.append a s v).Left slots := by
  have hnot : a ∉ m.due := fun hd => by
    obtain ⟨s, -, hin⟩ := h.held a hd
    exact ha s hin
  refine ⟨h.distinct, h.once, fun b hb => ?_, fun s' hs' b hb => ?_⟩
  · obtain ⟨s', hs', hin⟩ := h.held b hb
    exact ⟨s', hs', mem_append_timer.mpr (.inl hin)⟩
  · rcases mem_append_timer.mp hb with hb | ⟨rfl, -⟩
    · rw [append_sands (listed_ne ha hb)]
      exact h.later s' hs' b hb
    · rw [append_sands_self]
      exact iff_of_false hnot (Int.not_le.mpr hv)

theorem Clear.append {s' : TimerSlot} (h : m.Clear s) (ha : a ∉ m.due) : (m.append a s' v).Clear s := by
  intro b hb
  rcases mem_append_timer.mp hb with hb | ⟨rfl, -⟩
  · exact h b hb
  · exact ha

/-- A timer that the dispatch does not go on with may be armed. -/
theorem Ahead.append {s' : TimerSlot} (h : m.Ahead s next) (ha : ∀ s, a ∉ m.timer s) (hd : a ∉ m.due)
    (hv : m.time_now < v) (hne : next ≠ .node a) : (m.append a s' v).Ahead s next := by
  cases h with
  | away b r hn hb hr hclear =>
    have hba : b ≠ a := fun hba => hne (hn.trans (congrArg Link.node hba))
    exact .away b r hn ((append_thread hba).trans hb) hr (.append hclear hd)
  | here l₁ l₂ htimer hn hpast hdue =>
    have hsands : ∀ b ∈ l₂, (b ∈ m.due ↔ (m.append a s' v).sands b ≤ m.time_now) := by
      intro b hb
      have hin : b ∈ m.timer s := htimer ▸ List.mem_append_right _ hb
      rw [append_sands (listed_ne ha hin)]
      exact hdue b hb
    by_cases hs : s = s'
    · subst hs
      have hnew : (m.append a s v).timer s = l₁ ++ (l₂ ++ [a]) := by
        rw [append_timer, if_pos rfl, htimer, List.append_assoc]
      cases l₂ with
      | nil =>
        -- the end of the list was read before the timer was put there
        refine .here (l₁ ++ [a]) [] (by rw [hnew]; simp) hn (fun b hb => ?_) (List.forall_mem_nil _)
        rcases List.mem_append.mp hb with hb | hb
        · exact hpast b hb
        · exact List.mem_singleton.mp hb ▸ hd
      | cons c l₂ =>
        refine .here l₁ (c :: l₂ ++ [a]) hnew hn hpast fun b hb => ?_
        rcases List.mem_append.mp hb with hb | hb
        · exact hsands b hb
        · rw [List.mem_singleton.mp hb, append_sands_self]
          exact iff_of_false hd (Int.not_le.mpr hv)
    · exact .here l₁ l₂ ((append_timer s).trans ((if_neg hs).trans htimer)) hn hpast hsands

theorem Ahead.live (ho : m.Ordered) (h : m.Ahead s (.node a)) : m.thread a ≠ none := by
  cases h with
  | away b r hn hb hr hclear =>
    cases hn
    exact hb ▸ Option.some_ne_none r
  | here l₁ l₂ hl hn hpast hdue =>
    cases l₂ with
    | nil => cases hn
    | cons b l₂ =>
      cases hn
      obtain ⟨r, hr, -⟩ := ho.armed s a (hl ▸ List.mem_append_right _ List.mem_cons_self)
      exact hr ▸ Option.some_ne_none r

/-! ## Every step -/

theorem Walks.at {w : TimerWalk} (h : m.Walks w) (clock : Nat) : Walks { m with clock := clock } w := by
  refine ⟨⟨h.left.distinct, h.left.once, h.left.held, h.left.later⟩, fun s hs => ?_⟩
  cases h.ahead s hs with
  | here l₁ l₂ hl hn hpast hdue => exact .here l₁ l₂ hl hn hpast hdue
  | away a r hn ha hr hclear => exact .away a r hn ha hr hclear

theorem Inv.tick (h : m.Inv) (n : Nat) : Inv { m with clock := m.clock + n } := by
  have hle : m.time_now ≤ (m.clock + n : Nat) := by
    have hnow := h.ordered.now
    omega
  exact ⟨h.ordered.later (Nat.le_add_right _ _) hle, h.wrong, h.idle, fun w hw => (h.walks w hw).at _⟩

/-- What is armed at a place that fits. -/
theorem Fits.place (ho : m.Ordered) (hf : m.Fits a timer extern_id) (hr : timerRefused timer extern_id = false) :
    (timerSlot timer extern_id).inside ∧
      (∀ b ∈ m.timer (timerSlot timer extern_id), b ≠ a → m.sands b ≤ m.clock + timer) ∧
      (m.walk.isSome → m.time_now < m.clock + timer) ∧
      ∀ i, timerSlot timer extern_id = .array i → m.clock + timer ≤ m.clock + (i + 1) := by
  rw [inside_iff hr]
  unfold Fits at hf
  split at hf
  · rename_i hid
    rw [if_pos hid]
    have hslot : timerSlot timer extern_id = .array (timer - 1) := if_neg fun hne => hne hid
    rw [hslot]
    refine ⟨hf, fun b hb _ => ?_, fun _ => ?_, ?_⟩
    · have hplain := ho.plain _ b hb
      omega
    · have hnow := ho.now
      omega
    · rintro i ⟨⟩
      omega
  · rename_i hid
    rw [if_neg hid]
    refine ⟨hf.1, hf.2.1, hf.2.2, fun i hi => ?_⟩
    rw [timerSlot, if_pos hid] at hi
    cases hi

theorem Inv.add (h : m.Inv) (hm : m.Meets (.add a timer extern_id)) :
    ∃ m', m.step (.add a timer extern_id) = some m' ∧ m'.Inv := by
  rw [step, threadAddTimer]
  split
  · exact ⟨m, rfl, h⟩
  rename_i hr
  split
  · exact ⟨m, rfl, h⟩
  rename_i hsome
  have ho := h.ordered
  have hr : timerRefused timer extern_id = false := Bool.eq_false_iff.mpr hr
  have hnone : m.thread a = none := Option.not_isSome_iff_eq_none.mp hsome
  obtain ⟨hin, hlast, hlate, hplain⟩ := Fits.place ho (hm hr hnone) hr
  have hgone : ∀ s, a ∉ m.timer s := fun s => ho.fresh hnone
  rw [arm, if_pos hin]
  refine ⟨_, rfl, ho.append hgone hin (fun b hb => hlast b hb (listed_ne hgone hb)) hplain, h.wrong, h.idle, ?_⟩
  intro w hw
  obtain ⟨hleft, hahead⟩ := h.walks w hw
  have hv : m.time_now < m.clock + timer := hlate (Option.isSome_iff_exists.mpr ⟨w, hw⟩)
  refine ⟨hleft.append hgone hv, fun s hs => (hahead s hs).append hgone (fun hd => ?_) hv fun hn => ?_⟩
  · obtain ⟨s, -, hin⟩ := hleft.held a hd
    exact hgone s hin
  · exact (hn ▸ hahead s hs).live ho hnone

theorem Inv.update (h : m.Inv) (hm : m.Meets (.update a timer extern_id)) :
    ∃ m', m.step (.update a timer extern_id) = some m' ∧ m'.Inv := by
  rw [step, threadUpdateTimer]
  cases ha : m.thread a with
  | none => exact ⟨m, rfl, h⟩
  | some r =>
    dsimp only
    split
    · exact ⟨m, rfl, h⟩
    rename_i hr
    have ho := h.ordered
    have hr : timerRefused timer extern_id = false := Bool.eq_false_iff.mpr hr
    obtain ⟨hf, hup⟩ := hm hr (ha ▸ Option.some_ne_none r)
    obtain ⟨hin, hlast, hlate, hplain⟩ := Fits.place ho hf hr
    have hgone : ∀ s, a ∉ (m.unlink a r).timer s := fun s hs => ((ho.mem_unlink ha).mp hs).1 rfl
    rw [arm, if_pos hin, unlink_clock]
    have hafter : ((m.unlink a r).append a (timerSlot timer extern_id) (m.clock + timer)).Ordered := by
      refine (ho.unlink ha).append hgone hin (fun b hb => ?_) (unlink_clock (m := m) ▸ hplain)
      obtain ⟨hba, hb⟩ := (ho.mem_unlink ha).mp hb
      rw [unlink_sands]
      exact hlast b hb hba
    have hidle : m.walk = none → (m.unlink a r).due = [] := fun hn => unlink_idle (h.idle hn)
    refine ⟨_, rfl, hafter, unlink_wrong.trans h.wrong, unlink_walk (m := m) ▸ hidle, ?_⟩
    · intro w hw
      have hw : m.walk = some w := unlink_walk (m := m) ▸ hw
      obtain ⟨hleft, hahead⟩ := h.walks w hw
      have hv : m.time_now < m.clock + timer := hlate (Option.isSome_iff_exists.mpr ⟨w, hw⟩)
      have hv' : (m.unlink a r).time_now < m.clock + timer := unlink_time_now (m := m) ▸ hv
      have hnot : a ∉ (m.unlink a r).due := fun hd => ((hleft.mem_unlink ho ha).mp hd).1 rfl
      refine ⟨(hleft.unlink ho ha).append hgone hv', fun s hs => ?_⟩
      by_cases hnext : w.next = .node a
      · have hlast : ∀ b ∈ m.timer s, b ∈ m.due → b = a := by
          have hcur : m.current = m.timer s := by
            rw [current, hw, Option.bind_some, hs]
            rfl
          exact hcur ▸ hup (by rw [Upcoming, hw, Option.map_some, hnext])
        exact .away a _ hnext append_thread_self hv' ((Clear.unlink ho hleft ha hlast).append hnot)
      · exact ((hahead s hs).unlink ho hleft ha hnext).append hgone hnot hv' hnext

/-- A timer is taken out, and its record changed or freed. -/
theorem Inv.stop (h : m.Inv) (ha : m.thread a = some r)
    (hup : m.Upcoming a → m.time_now < m.sands a ∧ ∃ r', o = some r' ∧ r'.sands = r.sands) :
    ((m.unlink a r).put a o).Inv := by
  have ho := h.ordered
  have hgone : ∀ s, a ∉ (m.unlink a r).timer s := fun s hs => ((ho.mem_unlink ha).mp hs).1 rfl
  refine ⟨(ho.unlink ha).put hgone, unlink_wrong.trans h.wrong,
    fun hn => unlink_idle (h.idle (unlink_walk (m := m) ▸ hn)), fun w hw => ?_⟩
  have hw : m.walk = some w := unlink_walk (m := m) ▸ hw
  obtain ⟨hleft, hahead⟩ := h.walks w hw
  refine ⟨(hleft.unlink ho ha).put hgone, fun s hs => ?_⟩
  by_cases hnext : w.next = .node a
  · obtain ⟨hlate, r', rfl, hsands⟩ := hup (by rw [Upcoming, hw, Option.map_some, hnext])
    have hclear : m.Clear s := (hnext ▸ hahead s hs).clear ho hlate
    have hlate' : (m.unlink a r).time_now < r'.sands := by
      rw [unlink_time_now, hsands, ← sands_eq ha]
      exact hlate
    exact .away a r' hnext put_thread_self hlate'
      (Clear.unlink ho hleft ha fun b hb hd => absurd hd (hclear b hb))
  · exact ((hahead s hs).unlink ho hleft ha hnext).put hgone hnext

theorem Inv.pause (h : m.Inv) (hm : m.Meets (.pause a)) : (m.threadPauseTimer a).2.Inv := by
  rw [threadPauseTimer]
  cases ha : m.thread a with
  | none => exact h
  | some r =>
    dsimp only
    split
    · exact h
    · exact h.stop ha fun hup => ⟨hm hup, _, rfl, rfl⟩

theorem Inv.cancel (h : m.Inv) (hm : m.Meets (.cancel a)) : (m.threadCancel a).Inv := by
  rw [threadCancel]
  cases ha : m.thread a with
  | none => exact h
  | some r => exact h.stop ha fun hup => absurd hup hm

theorem Inv.dispatch (h : m.Inv) : ∃ m', m.threadDispatch = some m' ∧ m'.Inv := by
  rw [threadDispatch]
  split
  · exact ⟨m, rfl, h⟩
  have ho := h.ordered
  have hmem : ∀ a, a ∈ (timerSlots.flatMap fun s => (m.timer s).filter fun a => m.sands a ≤ m.clock) ↔
      ∃ s ∈ timerSlots, a ∈ m.timer s ∧ m.sands a ≤ m.clock := by
    intro a
    simp only [List.mem_flatMap, List.mem_filter, decide_eq_true_eq]
  have honce : (timerSlots.flatMap fun s => (m.timer s).filter fun a => m.sands a ≤ m.clock).Nodup := by
    refine List.nodup_flatMap.mpr ⟨fun s _ => (ho.nodup s).filter _, ?_⟩
    refine List.Pairwise.imp (fun hne => ?_) (show timerSlots.Nodup by decide)
    intro a h₁ h₂
    exact hne (ho.one _ _ a (List.mem_of_mem_filter h₁) (List.mem_of_mem_filter h₂))
  have hall : ∀ s ∈ timerSlots, ∀ a ∈ m.timer s,
      (a ∈ (timerSlots.flatMap fun s => (m.timer s).filter fun a => m.sands a ≤ m.clock) ↔
        m.sands a ≤ m.clock) := by
    intro s hs a ha
    refine (hmem a).trans ⟨fun hd => ?_, fun hle => ⟨s, hs, ha, hle⟩⟩
    obtain ⟨-, -, -, hle⟩ := hd
    exact hle
  have hleft : Left { m with
      time_now := m.clock
      due := timerSlots.flatMap fun s => (m.timer s).filter fun a => m.sands a ≤ m.clock } timerSlots := by
    refine ⟨by decide, honce, fun a ha => ?_, fun s hs => hall s (List.mem_of_mem_tail hs)⟩
    obtain ⟨s, hs, hin, -⟩ := (hmem a).mp ha
    exact ⟨s, hs, hin⟩
  exact Walks.dispatch (ho.later le_rfl le_rfl) h.wrong (hleft.first hall)

theorem Inv.returned (h : m.Inv) : ∃ m', m.threadReturn = some m' ∧ m'.Inv := by
  rw [threadReturn]
  cases hw : m.walk with
  | none => exact ⟨m, rfl, h⟩
  | some w => exact (h.walks w hw).dispatch h.ordered h.wrong

theorem Inv.step (h : m.Inv) {e : TimerEvent} (hm : m.Meets e) : ∃ m', m.step e = some m' ∧ m'.Inv := by
  cases e with
  | tick n => exact ⟨_, rfl, h.tick n⟩
  | add record timer extern_id => exact h.add hm
  | update a timer extern_id => exact h.update hm
  | pause a => exact ⟨_, rfl, h.pause hm⟩
  | cancel a => exact ⟨_, rfl, h.cancel hm⟩
  | dispatch => exact h.dispatch
  | returned => exact h.returned

end

theorem Inv.create (clock : Nat) : Inv { clock := clock } where
  ordered := .create clock
  wrong := rfl
  idle := fun _ => rfl
  walks := fun w hw => (Option.some_ne_none w hw.symm).elim

/-- A timer that is not refused is put into the arrays exactly if its place is one of theirs. In a run whose steps
all meet the condition the lists stay sorted, and every dispatch runs what is due, once. -/
theorem timers_exact {clock : Nat} {es : List TimerEvent} (ho : TryObeys step Meets { clock := clock } es) :
    (∀ timer extern_id, timerRefused timer extern_id = false → ((timerSlot timer extern_id).inside ↔
      if extern_id = 0 then 1 ≤ timer else extern_id ≤ THREAD_EXTIMER_NUM)) ∧
    ∀ pre suf, es = pre ++ suf → ∃ m, tryRun step { clock := clock } pre = some m ∧ m.Exact := by
  refine ⟨fun timer extern_id => inside_iff, fun pre suf hsplit => ?_⟩
  subst hsplit
  obtain ⟨m, hrun, hm⟩ := ho.left.run_inv (fun m e h hc => h.step hc) (Inv.create clock)
  exact ⟨m, hrun, hm.exact⟩

/-- Two timers run, one of them twice. -/
def sampleTimers : List TimerEvent :=
  [.add 1 1 0, .add 2 60 1, .tick 1, .dispatch, .update 1 10 0, .returned, .tick 59, .dispatch, .cancel 1, .returned,
    .update 2 60 1, .returned]

theorem timers_exact_sample : TryObeys step Meets { clock := 5 } sampleTimers ∧
    ∃ m, tryRun step { clock := 5 } sampleTimers = some m ∧ m.Exact := by
  have ho : TryObeys step Meets { clock := 5 } sampleTimers := by decide +kernel
  exact ⟨ho, (timers_exact ho).2 sampleTimers [] (List.append_nil _).symm⟩

/-- A timer of no time, and one with an extern id beyond the array, are let in and put outside the arrays. A
timer that is shorter than the one before it in its list does not run when it should, and if the function of a
timer cancels the one behind it, the dispatch goes on from a record that was freed. -/
theorem timers_astray :
    (timerRefused 0 0 = false ∧ (timerSlot 0 0).inside = false) ∧
      (timerRefused 5 4 = false ∧ (timerSlot 5 4).inside = false) ∧
      (∃ m, tryRun step { clock := 5 } [.add 1 60 1, .add 2 10 1, .tick 10, .dispatch] = some m ∧ ¬ m.Exact) ∧
      tryRun step { clock := 5 } [.add 1 1 0, .add 2 1 0, .tick 1, .dispatch, .cancel 2, .returned] = none := by
  refine ⟨by decide, by decide, ?_, Option.isNone_iff_eq_none.mp (by decide +kernel)⟩
  have hany : (tryRun step { clock := 5 } [.add 1 60 1, .add 2 10 1, .tick 10, .dispatch]).any (fun m =>
      m.walk = none ∧ m.due = [2]) = true := by
    decide +kernel
  obtain ⟨m, hrun, hm⟩ := (Option.any_eq_true _ _).mp hany
  obtain ⟨hwalk, hdue⟩ := of_decide_eq_true hm
  refine ⟨m, hrun, fun h => ?_⟩
  have hnone := h.due hwalk
  rw [hdue] at hnone
  cases hnone

end ThreadMaster

end Pppoe
end DaemonGroup
