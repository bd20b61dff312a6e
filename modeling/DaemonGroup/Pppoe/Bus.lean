import DaemonGroup.Lib.Chain
import DaemonGroup.Lib.Run

/-!
# DaemonGroup.Pppoe.Bus

The thread bus of `thread_bus.c`: the message queues of the connections as linked lists of message
addresses, the batch of messages that a running `connection_dispatch` has taken out of its queue,
and the replies that go back to the queue of the sender. Address zero is `NULL`.

Every operation on a queue runs under the lock of that queue, so the operations of the threads
interleave as whole steps; one turn of the loop of `connection_dispatch` is one step.

The fields from `count` on are not in the source. Each message gets a serial number when it is put
on a queue; `enq` are the numbers put on the queue of a connection, in order, `del` those that its
dispatcher has handled, `rem` those that a waiting sender has taken out.
-/

namespace DaemonGroup
namespace Bus

/-- The flags of a message: `TBUS_FLAG_REPLY` and `TBUS_FLAG_UNHANDLE`. -/
structure Flag where
  reply : Bool
  unhandle : Bool
deriving Repr, DecidableEq

/-- `struct tbus_message`, without its `next` field and what only the method reads. -/
structure Message where
  dest : Nat
  source : Nat
  flag : Flag
deriving Repr, DecidableEq

/-- `struct tbus_queue`. -/
structure Queue where
  head : Nat
  tail : Nat
deriving Repr, DecidableEq

/-- `struct thread_bus` with the memory of its messages. -/
structure ThreadBus where
  /-- `tbus->connection[id]` is not null. -/
  connection : Nat → Bool
  queue : Nat → Queue
  /-- The variable `list` of the `connection_dispatch` that runs for a connection; null if none
  does. -/
  list : Nat → Nat
  /-- The `next` fields. -/
  next : Nat → Nat
  mess : Nat → Message
  /-- The messages that are allocated. -/
  heap : List Nat
  count : Nat
  serial : Nat → Nat
  enq : Nat → List Nat
  del : Nat → List Nat
  rem : Nat → List Nat

/-- A bus with the connections `conns`, their queues empty. -/
def threadBusInit (conns : List Nat) : ThreadBus where
  connection c := conns.contains c
  queue _ := ⟨0, 0⟩
  list _ := 0
  next _ := 0
  mess _ := ⟨0, 0, ⟨false, false⟩⟩
  heap := []
  count := 0
  serial _ := 0
  enq _ := []
  del _ := []
  rem _ := []

/-- `message_create` when `malloc` returned `m`. -/
def messageCreate (s : ThreadBus) (m : Nat) (mess : Message) : ThreadBus :=
  { s with
    heap := m :: s.heap
    next := Function.update s.next m 0
    mess := Function.update s.mess m mess }

/-- `PPPOE_FREE(mess)`. -/
def messageFree (s : ThreadBus) (m : Nat) : ThreadBus := { s with heap := s.heap.erase m }

/-- `message_queue_add`. -/
def messageQueueAdd (s : ThreadBus) (c m : Nat) : ThreadBus :=
  let q := s.queue c
  { s with
    next := if q.tail = 0 then s.next else Function.update s.next q.tail m
    queue := Function.update s.queue c ⟨if q.tail = 0 then m else q.head, m⟩
    count := s.count + 1
    serial := Function.update s.serial m s.count
    enq := Function.update s.enq c (s.enq c ++ [s.count]) }

/-- The loop of `message_queue_get`: at most `len` messages leave the queue. -/
def getLoop : Nat → (Nat → Nat) → Queue → (Nat → Nat) × Queue
  | 0, next, q => (next, q)
  | len + 1, next, q =>
    let mess := q.head
    let head := next mess
    if head = 0 then (next, ⟨0, 0⟩)
    else if len = 0 then (Function.update next mess 0, ⟨head, q.tail⟩)
    else getLoop len next ⟨head, q.tail⟩

/-- `message_queue_get`, with `list` the variable of the caller; zero is no limit for `len`. -/
def messageQueueGet (s : ThreadBus) (c len : Nat) : ThreadBus :=
  let q := s.queue c
  if q.head = 0 then { s with list := Function.update s.list c 0 }
  else if len = 0 then
    { s with
      list := Function.update s.list c q.head
      queue := Function.update s.queue c ⟨0, 0⟩ }
  else
    let r := getLoop len s.next q
    { s with
      list := Function.update s.list c q.head
      next := r.1
      queue := Function.update s.queue c r.2 }

/-- The loop of `__message_reply_get`: the node before `mess`, or `mess` itself if it is the first
one. -/
def replyFind (next : Nat → Nat) (mess : Nat) : Nat → Nat → Nat → Option Nat
  | 0, _, _ => none
  | fuel + 1, node, prev =>
    if node = 0 then none
    else if node = mess then some prev
    else replyFind next mess fuel (next node) node

/-- `__message_reply_get`, and what `tbus_send_method_call_with_reply` does with the reply it has
got. No queue is longer than the number of messages put on queues so far. -/
def messageReplyGet (s : ThreadBus) (c m : Nat) : ThreadBus :=
  let q := s.queue c
  match replyFind s.next m (s.count + 1) q.head q.head with
  | none => s
  | some prev =>
    let s := { s with rem := Function.update s.rem c (s.rem c ++ [s.serial m]) }
    if m = prev then
      if q.head = q.tail then
        messageFree { s with queue := Function.update s.queue c ⟨0, 0⟩ } m
      else
        messageFree { s with queue := Function.update s.queue c ⟨s.next m, q.tail⟩ } m
    else messageFree { s with next := Function.update s.next prev (s.next m) } m

/-- `tbus_send_signal` from connection `c`. -/
def tbusSendSignal (s : ThreadBus) (c dest m : Nat) (flag : Flag) : ThreadBus :=
  if dest = c then s
  else
    let s := messageCreate s m ⟨dest, c, flag⟩
    if s.connection dest then messageQueueAdd s dest m else messageFree s m

/-- `tbus_send_method_call_with_reply` up to the wait for the reply. -/
def tbusSendMethodCall (s : ThreadBus) (c dest m : Nat) (flag : Flag) : ThreadBus :=
  tbusSendSignal s c dest m { flag with reply := true }

/-- One turn of the loop of `connection_dispatch`. -/
def dispatchOne (s : ThreadBus) (c : Nat) : ThreadBus :=
  let m := s.list c
  let s := { s with
    list := Function.update s.list c (s.next m)
    del := Function.update s.del c (s.del c ++ [s.serial m]) }
  let mess := s.mess m
  if mess.flag.unhandle then messageFree s m
  else if mess.flag.reply then
    let s := { s with
      mess := Function.update s.mess m { mess with flag := { mess.flag with unhandle := true } } }
    if s.connection mess.source then messageQueueAdd s mess.source m else messageFree s m
  else messageFree s m

/-- The steps of the threads. -/
inductive Event where
  /-- `tbus_send_signal` from `c`, the message at `m`. -/
  | signal (c dest m : Nat) (flag : Flag)
  /-- `tbus_send_method_call_with_reply` from `c`, the message at `m`. -/
  | call (c dest m : Nat) (flag : Flag)
  /-- `tbus_connection_dispatch` takes messages out of the queue of `c`. -/
  | dispatch (c len : Nat)
  /-- `tbus_connection_dispatch` handles the next of them. -/
  | handle (c : Nat)
  /-- A sender on `c` that waits for the reply to `m` wakes up. -/
  | reply (c m : Nat)
deriving Repr, DecidableEq

def step (s : ThreadBus) : Event → ThreadBus
  | .signal c dest m flag => tbusSendSignal s c dest m flag
  | .call c dest m flag => tbusSendMethodCall s c dest m flag
  | .dispatch c len => if s.list c = 0 then messageQueueGet s c len else s
  | .handle c => if s.list c = 0 then s else dispatchOne s c
  | .reply c m => messageReplyGet s c m

/-- What `malloc` promises for a new message. -/
def Legal (s : ThreadBus) : Event → Prop
  | .signal _ _ m _ => m ≠ 0 ∧ m ∉ s.heap
  | .call _ _ m _ => m ≠ 0 ∧ m ∉ s.heap
  | _ => True

/-- The steps that keep the queues in order: a reply is not taken out as the last of several
messages, and a message goes back to its sender only if it is the last of its batch. -/
def Safe (s : ThreadBus) : Event → Prop
  | .reply c m => m = (s.queue c).tail → (s.queue c).head = (s.queue c).tail
  | .handle c =>
    (s.mess (s.list c)).flag.reply = true → (s.mess (s.list c)).flag.unhandle = false →
      s.next (s.list c) = 0
  | _ => True

instance {s : ThreadBus} : (e : Event) → Decidable (Legal s e)
  | .signal _ _ m _ => inferInstanceAs (Decidable (m ≠ 0 ∧ m ∉ s.heap))
  | .call _ _ m _ => inferInstanceAs (Decidable (m ≠ 0 ∧ m ∉ s.heap))
  | .dispatch .. | .handle .. | .reply .. => inferInstanceAs (Decidable True)

instance {s : ThreadBus} : (e : Event) → Decidable (Safe s e)
  | .reply c m =>
    inferInstanceAs (Decidable (m = (s.queue c).tail → (s.queue c).head = (s.queue c).tail))
  | .handle c => inferInstanceAs (Decidable ((s.mess (s.list c)).flag.reply = true →
      (s.mess (s.list c)).flag.unhandle = false → s.next (s.list c) = 0))
  | .signal .. | .call .. | .dispatch .. => inferInstanceAs (Decidable True)

/-- The queue of connection `c` holds the messages `q`, in order, its `tail` is the last of them,
and `b` are the messages its dispatcher still has to handle. The messages put on the queue, less
those taken out by a waiting sender, are those handled, then `b`, then `q`: each once, in order. -/
structure Fifo (s : ThreadBus) (c : Nat) (b q : List Nat) : Prop where
  queue : Lib.Chain s.next (s.queue c).head q 0
  tail : (s.queue c).tail = q.getLast?.getD 0
  batch : Lib.Chain s.next (s.list c) b 0
  no_null : 0 ∉ b ++ q
  once : (s.enq c).Nodup
  order : (s.enq c).filter (· ∉ s.rem c) = s.del c ++ (b ++ q).map s.serial

/-- All queues are in order. -/
def InOrder (s : ThreadBus) : Prop := ∀ c, ∃ b q, Fifo s c b q

end Bus
end DaemonGroup
