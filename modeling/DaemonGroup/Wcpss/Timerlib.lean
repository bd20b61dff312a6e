import DaemonGroup.Lib.Dll
import Mathlib.Logic.Function.Basic

/-!
# DaemonGroup.Wcpss.Timerlib

The timer queue of the wireless controller (`timerlib.c`). `timer_add` and `timer_rem` are called by
any thread; the thread `cronometer` waits for the first timer of the queue and runs its handler. All of
them hold the mutex while they touch the queue, so each of their critical sections is one step.

A pointer to a timer is the number of its allocation, and allocations are never used again. What reads
a timer that has been freed has no result.
-/

namespace DaemonGroup
namespace Wcpss

open Lib

structure Timeval where
  tv_sec : Int64
  tv_usec : Int64
deriving DecidableEq, Repr

def MICRO_PER_SEC : Int64 := 1000000

/-- `TV_LESS_THAN`. -/
def Timeval.lessThan (t1 t2 : Timeval) : Prop :=
  t1.tv_sec < t2.tv_sec ∨ (t1.tv_sec = t2.tv_sec ∧ t1.tv_usec < t2.tv_usec)

instance (t1 t2 : Timeval) : Decidable (t1.lessThan t2) := inferInstanceAs (Decidable (_ ∨ _))

/-- `struct timer`. -/
structure Timer where
  timeout : Timeval
  handler : Nat
  handler_arg : Option Nat
  id : Int32
  in_use : Bool
  cancelled : Bool
  next : Option Nat
  prev : Option Nat
deriving DecidableEq, Repr

/-- Where `cronometer` is: before it takes the first timer, in `sigwait`, or in a handler. -/
inductive Ticker
  | top | waiting | handling
deriving DecidableEq, Repr

/-- What has been done with the timer at a place: it was added, found by `timer_rem`, its handler was
called, its argument was freed. -/
inductive TimerEvent
  | added (t : Nat) (timeout : Timeval) (handler_arg : Option Nat)
  | removed (t : Nat) (isFree : Int)
  | ran (t : Nat) (now : Timeval)
  | freed (t : Nat)
deriving DecidableEq, Repr

/-- `timerq`, the memory of the timers, the thread, and what has been done, the latest first. -/
structure Timerq where
  first : Option Nat
  last : Option Nat
  cur_id : Int32
  heap : Nat → Option Timer
  brk : Nat
  ticker : Ticker
  log : List TimerEvent

namespace Timerq

section
variable (q : Timerq)

/-- After `timer_init`. -/
def init : Timerq :=
  { first := none, last := none, cur_id := 1, heap := fun _ => none, brk := 0, ticker := .top, log := [] }

def note (e : TimerEvent) : Timerq := { q with log := e :: q.log }

def put (a : Nat) (t : Timer) : Timerq := { q with heap := Function.update q.heap a (some t) }

/-- A store to fields of the timer at `a`. -/
def store (a : Nat) (f : Timer → Timer) : Option Timerq := do
  let t ← q.heap a
  pure (q.put a (f t))

/-- `timer_free`. -/
def timerFree (a : Nat) (isFree : Int) : Option Timerq := do
  let t ← q.heap a
  let q := if isFree ≠ 0 ∧ t.handler_arg ≠ none then q.note (.freed a) else q
  pure { q with heap := Function.update q.heap a none }

/-- `p->next = v`, or `timerq.first = v` if there is no timer before. -/
def setNext (p v : Option Nat) : Option Timerq :=
  match p with
  | none => some { q with first := v }
  | some p => q.store p fun x => { x with next := v }

/-- `n->prev = v`, or `timerq.last = v` if there is no timer after. -/
def setPrev (n v : Option Nat) : Option Timerq :=
  match n with
  | none => some { q with last := v }
  | some n => q.store n fun x => { x with prev := v }

/-- `timer_dequeue`. -/
def timerDequeue (a : Nat) (isFree : Int) : Option Timerq := do
  let t ← q.heap a
  let q ← q.setNext t.prev t.next
  let q ← q.setPrev t.next t.prev
  q.timerFree a isFree

/-- `while (t != NULL) { if (f(t)) break; t = t->next; }`, from the first timer. -/
def find (f : Timer → Bool) : Option (Option Nat) :=
  seek (fun a => (q.heap a).map (·.next)) (fun a => (q.heap a).map f) q.brk q.first

/-- The new timer is put before the first one that expires later. -/
def link (app : Timer) : Option Timerq := do
  let a := q.brk
  match q.first with
  | none =>
    let q := q.put a { app with prev := none, next := none }
    pure { q with first := some a, last := some a }
  | some _ =>
    match ← q.find fun tmp => app.timeout.lessThan tmp.timeout with
    | none =>
      let last ← q.last
      let q := q.put a { app with prev := some last, next := none }
      let q ← q.store last fun x => { x with next := some a }
      pure { q with last := some a }
    | some tmp =>
      let t ← q.heap tmp
      match t.prev with
      | none =>
        let q := q.put a { app with prev := none, next := some tmp, in_use := true }
        let q ← q.store tmp fun x => { x with prev := some a, in_use := false }
        pure { q with first := some a }
      | some p =>
        let q := q.put a { app with prev := some p, next := some tmp }
        let q ← q.store p fun x => { x with next := some a }
        q.store tmp fun x => { x with prev := some a }

/-- The time of `gettimeofday` and `sec` seconds and `usec` microseconds. -/
def deadline (now : Timeval) (sec usec : Int64) : Timeval :=
  ⟨now.tv_sec + (sec + (now.tv_usec + usec) / MICRO_PER_SEC), (now.tv_usec + usec) % MICRO_PER_SEC⟩

/-- `timer_add`, at the time `now`; `mem` says whether there is memory for the timer. -/
def timerAdd (now : Timeval) (sec usec : Int64) (hndlr hndlr_arg : Option Nat) (mem : Bool) :
    Option (Int32 × Timerq) :=
  match hndlr with
  | none => some (-1, q)
  | some handler =>
    if sec < 0 ∨ usec < 0 ∨ (sec = 0 ∧ usec = 0) then some (-1, q)
    else if !mem then some (-1, q)
    else do
      let id := q.cur_id
      let app : Timer :=
        { timeout := deadline now sec usec, handler := handler, handler_arg := hndlr_arg, id := id
          in_use := false, cancelled := false, next := none, prev := none }
      let a := q.brk
      let q ← { q with cur_id := id + 1 }.link app
      pure (id, { q with brk := a + 1 }.note (.added a app.timeout hndlr_arg))

/-- `timer_rem`. -/
def timerRem (id : Int32) (isFree : Int) : Option Timerq := do
  match ← q.find (·.id = id) with
  | none => pure q
  | some a =>
    let t ← q.heap a
    let q := q.note (.removed a isFree)
    if t.in_use then q.store a fun x => { x with cancelled := true }
    else q.timerDequeue a isFree

/-- The loop of `cronometer` up to `sigwait`. -/
def arm : Option Timerq :=
  match q.first with
  | none => some q
  | some a => do
    let q ← q.store a fun x => { x with in_use := true }
    pure { q with ticker := .waiting }

/-- The loop of `cronometer` after `sigwait`, at the time `now`. -/
def wake (now : Timeval) : Option Timerq :=
  match q.first with
  | none => some { q with ticker := .top }
  | some a => do
    let t ← q.heap a
    if t.cancelled then
      let q ← q.timerDequeue a 1
      pure { q with ticker := .top }
    else if now.lessThan t.timeout then
      pure { q with ticker := .top }
    else
      let q ← q.timerDequeue a 0
      pure ({ q with ticker := .handling }.note (.ran a now))

end

end Timerq

/-- The critical sections, and the return of a handler. -/
inductive TimerOp
  | add (now : Timeval) (sec usec : Int64) (hndlr hndlr_arg : Option Nat) (mem : Bool)
  | rem (id : Int32) (isFree : Int)
  | arm
  | wake (now : Timeval)
  | done

/-- A step of one of the threads; the ones of `cronometer` only where it is. -/
def TimerOp.step (q : Timerq) : TimerOp → Option Timerq
  | add now sec usec hndlr hndlr_arg mem =>
    (q.timerAdd now sec usec hndlr hndlr_arg mem).map Prod.snd
  | rem id isFree => q.timerRem id isFree
  | arm => if q.ticker = .top then q.arm else some q
  | wake now => if q.ticker = .waiting then q.wake now else some q
  | done => if q.ticker = .handling then some { q with ticker := .top } else some q

end Wcpss
end DaemonGroup
