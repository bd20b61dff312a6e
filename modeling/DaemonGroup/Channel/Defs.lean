import DaemonGroup.Lib.Run
import DaemonGroup.Pppoe.Defs

/-!
# DaemonGroup.Channel.Defs

The backup channel of `pppoe_backup.c`: two machines with a `struct backup_struct` each, and the
connections between them. `step` takes one event of either machine: a frame is queued, the socket can
be written or read, a timer expires, a connection is made, accepted, or replaced by another.

What the kernel does is part of the event: how many octets each `send` and `recv` takes, the errors
they return, and whether memory is to be had. The kernel keeps the octets of a connection in order
and loses none but at its end.
-/

namespace DaemonGroup
namespace Channel

open Pppoe (Bytes BackupStatus getShort putShort)

def BACKUP_HEADER_LEN : Nat := 4
def DEFAULT_BUF_SIZE : Nat := 4096
def DEFAULT_BACKUP_ECHO_TIMES : Nat := 6

def BACKUP_ECHO_REQUEST : Nat := 0
def BACKUP_ECHO_REPLY : Nat := 1

inductive ChannelState where
  | NONE | INIT | CONNECT | DISCONNECT | CLOSE
deriving DecidableEq, Repr, Inhabited

/-! ## One machine -/

/-- The buffer that is being sent: what it holds from its head on, and how much of it is gone. -/
structure SendBuf where
  bytes : Bytes
  off : Nat := 0
deriving DecidableEq, Repr

/-- From the data pointer to the tail. -/
def SendBuf.left (b : SendBuf) : Bytes := b.bytes.drop b.off

/-- `struct backup_struct`. The socket is named by its connection; `recv` is what the receive buffer
holds from its head on. The addresses, the caches and the threads have no place here: a thread that
exists may run at any time. -/
structure Backup where
  sk : Option Nat := none
  status : BackupStatus := .NONE
  c_state : ChannelState := .NONE
  lostTimes : Nat := 0
  recv : Bytes := []
  send : Option SendBuf := none
  tasks : List Bytes := []
deriving Repr

/-- `active_disconnect` and `standby_disconnect` but for their timers. -/
def Backup.disconnect (e : Backup) : Backup :=
  { e with recv := [], send := none, tasks := [], sk := none, c_state := .DISCONNECT }

def activeDisconnect (e : Backup) : Backup := e.disconnect

def standbyDisconnect (e : Backup) : Backup := e.disconnect

def backupDisconnect (e : Backup) : Backup :=
  match e.status with
  | .ACTIVE => activeDisconnect e
  | .STANDBY => standbyDisconnect e
  | _ => e

/-- `echo_packet`. -/
def echoPacket (proto : Nat) : Bytes := putShort proto ++ putShort BACKUP_HEADER_LEN

/-- `backup_task_create`: the header goes in front of the data. -/
def backupTaskCreate (proto : Nat) (data : Bytes) : Bytes :=
  putShort proto ++ putShort (data.length + BACKUP_HEADER_LEN) ++ data

def backupTaskAdd (e : Backup) (task : Bytes) : Backup :=
  if e.c_state ≠ .CONNECT then e else { e with tasks := e.tasks ++ [task] }

/-! ## Streams -/

/-- One direction of a connection: the octets that were written to it and the frames begun on it at
one end, the number of octets read and the frames handed to their callbacks at the other. The two
lists are not in the code. -/
structure Stream where
  sent : Bytes := []
  begun : List Bytes := []
  got : Nat := 0
  delivered : List Bytes := []
deriving Repr

/-- What `send` returns: a number of octets, or an error. -/
inductive SendResult where
  | bytes (n : Nat) | eintr | eagain | error
deriving DecidableEq, Repr

/-- What `recv` returns. -/
inductive RecvResult where
  | bytes (n : Nat) | eintr | eagain | error | closed
deriving DecidableEq, Repr

/-! ## Writing -/

/-- The next task becomes the buffer to be sent if there is none. -/
def Backup.load (e : Backup) : Backup :=
  match e.send, e.tasks with
  | none, t :: ts => { e with send := some { bytes := t }, tasks := ts }
  | _, _ => e

/-- `m` octets of the buffer are written. -/
def Stream.write (x : Stream) (b : SendBuf) (m : Nat) : Stream :=
  { x with
    sent := x.sent ++ b.left.take m
    begun := if b.off = 0 ∧ m ≠ 0 then x.begun ++ [b.bytes] else x.begun }

def Backup.advance (e : Backup) (b : SendBuf) (m : Nat) : Backup :=
  { e with send := if b.left.length = m then none else some { b with off := b.off + m } }

/-- The loop of `backup_post_func`; `rs` are the results of its calls of `send`, which would block
when there are no more. -/
def postLoop : List SendResult → Backup → Stream → Backup × Stream
  | [], e, x => ({ e.load with lostTimes := 0 }, x)
  | r :: rs, e, x =>
    match e.load.send with
    | none => ({ e.load with lostTimes := 0 }, x)
    | some b =>
      match r with
      | .eintr => postLoop rs e.load x
      | .eagain => ({ e.load with lostTimes := 0 }, x)
      | .error => (backupDisconnect e.load, x)
      | .bytes n =>
        postLoop rs (e.load.advance b (min n b.left.length)) (x.write b (min n b.left.length))

/-! ## Reading -/

/-- How the inner loop of `backup_process` ends: the rest is moved to the head of the buffer, a length
is above the size of the buffer, or there is a frame of length zero at its head for ever. -/
inductive Cut where
  | move (rest : Bytes) | length | loops
deriving Repr

/-- The inner loop of `backup_process`: the frames that are handed on, each with its protocol, and
the end of the loop. `mem` tells for each frame whether there is memory for it. -/
def cutLoop : Nat → List Bool → Bytes → List (Nat × Bytes) × Cut
  | 0, _, _ => ([], .loops)
  | fuel + 1, mem, buf =>
    if buf.length < BACKUP_HEADER_LEN then
      ([], .move buf)
    else if getShort buf 2 > DEFAULT_BUF_SIZE then
      ([], .length)
    else if getShort buf 2 > buf.length then
      ([], .move buf)
    else
      let r := cutLoop fuel mem.tail (buf.drop (getShort buf 2))
      if mem.headD true then ((getShort buf 0, buf.take (getShort buf 2)) :: r.1, r.2) else r

/-- `proto_process`: of the callbacks, the one for echo requests works on the channel itself. -/
def protoProcess (e : Backup) (proto : Nat) : Backup :=
  if proto = BACKUP_ECHO_REQUEST then
    match e.send with
    | some _ => e
    | none => { e with send := some { bytes := echoPacket BACKUP_ECHO_REPLY } }
  else
    e

/-- `m` octets are read and the frames `fs` handed on. -/
def Stream.read (x : Stream) (m : Nat) (fs : List Bytes) : Stream :=
  { x with got := x.got + m, delivered := x.delivered ++ fs }

/-- The room in the receive buffer and the octets that have not been read bound what `recv` takes. -/
def recvSize (e : Backup) (x : Stream) (n : Nat) : Nat :=
  min n (min (DEFAULT_BUF_SIZE - e.recv.length) (x.sent.length - x.got))

/-- The receive buffer once `m` octets have been read. -/
def recvBuf (e : Backup) (x : Stream) (m : Nat) : Bytes := e.recv ++ (x.sent.drop x.got).take m

/-- The loop of `backup_process`; `rs` are the results of its calls of `recv`, which would block when
there are no more, `mem` tells for each of them where there is memory. The last component is true
when the loop does not end. -/
def recvLoop : List RecvResult → List (List Bool) → Backup → Stream → Backup × Stream × Bool
  | [], _, e, x => ({ e with lostTimes := 0 }, x, false)
  | r :: rs, mem, e, x =>
    match r with
    | .eintr => recvLoop rs mem.tail e x
    | .eagain => ({ e with lostTimes := 0 }, x, false)
    | .error | .closed => (backupDisconnect e, x, false)
    | .bytes n =>
      if e.recv.length ≥ DEFAULT_BUF_SIZE then
        (backupDisconnect e, x, false)
      else if recvSize e x n = 0 then
        ({ e with lostTimes := 0 }, x, false)
      else
        let buf := recvBuf e x (recvSize e x n)
        let c := cutLoop (buf.length + 1) (mem.headD []) buf
        let x' := x.read (recvSize e x n) (c.1.map Prod.snd)
        let e' := (c.1.map Prod.fst).foldl protoProcess e
        match c.2 with
        | .move rest => recvLoop rs mem.tail { e' with recv := rest } x'
        | .length => ({ e' with recv := [] }, x', false)
        | .loops => (e', x', true)

/-! ## Timers -/

def activeEchoTimerFunc (e : Backup) (nomem : Bool) : Backup :=
  if e.lostTimes ≥ DEFAULT_BACKUP_ECHO_TIMES then
    activeDisconnect e
  else if e.send.isSome ∨ e.tasks ≠ [] ∨ nomem then
    { e with lostTimes := e.lostTimes + 1 }
  else
    { e with
      send := some { bytes := echoPacket BACKUP_ECHO_REQUEST }
      lostTimes := e.lostTimes + 1 }

def standbyEchoTimerFunc (e : Backup) : Backup :=
  if e.lostTimes ≥ DEFAULT_BACKUP_ECHO_TIMES then standbyDisconnect e
  else { e with lostTimes := e.lostTimes + 1 }

/-! ## Two machines -/

inductive Side where
  | first | second
deriving DecidableEq, Repr

def Side.other : Side → Side
  | .first => .second
  | .second => .first

structure Net where
  ends : Side → Backup := fun _ => {}
  /-- connections that wait to be accepted -/
  backlog : Side → List Nat := fun _ => []
  /-- the number of connections made -/
  conns : Nat := 0
  /-- what each side writes to each connection -/
  streams : Side → Nat → Stream := fun _ _ => {}
  /-- a loop of one of the machines does not end -/
  fault : Bool := false

def Net.setEnd (n : Net) (s : Side) (e : Backup) : Net :=
  { n with ends := fun t => if t = s then e else n.ends t }

def Net.setStream (n : Net) (s : Side) (k : Nat) (x : Stream) : Net :=
  { n with streams := fun t j => if t = s ∧ j = k then x else n.streams t j }

def Net.setBacklog (n : Net) (s : Side) (l : List Nat) : Net :=
  { n with backlog := fun t => if t = s then l else n.backlog t }

/-- `backup_post_func`. -/
def Net.post (n : Net) (s : Side) (rs : List SendResult) : Net :=
  match (n.ends s).sk with
  | none => n
  | some k =>
    let r := postLoop rs (n.ends s) (n.streams s k)
    (n.setEnd s r.1).setStream s k r.2

/-- `backup_process`. -/
def Net.process (n : Net) (s : Side) (rs : List RecvResult) (mem : List (List Bool)) : Net :=
  match (n.ends s).sk with
  | none => n
  | some k =>
    let r := recvLoop rs mem (n.ends s) (n.streams s.other k)
    { (n.setEnd s r.1).setStream s.other k r.2.1 with fault := r.2.2 }

/-- The echo timer. One that was forgotten when its connection was replaced still runs. -/
def Net.echo (n : Net) (s : Side) (nomem : Bool) : Net :=
  match (n.ends s).status with
  | .ACTIVE => n.setEnd s (activeEchoTimerFunc (n.ends s) nomem)
  | .STANDBY => n.setEnd s (standbyEchoTimerFunc (n.ends s))
  | _ => n

/-- How an attempt to set a connection up ends: it is refused, it is given up after it was made, or
it succeeds. -/
inductive Attempt where
  | refused | failed | ok
deriving DecidableEq, Repr

/-- `standby_sock_init` and `standby_connect`. -/
def Net.connect (n : Net) (s : Side) (r : Attempt) : Net :=
  let e := n.ends s
  if e.status ≠ .STANDBY ∨ e.sk.isSome then
    n
  else if r = .refused ∨ (n.ends s.other).status ≠ .ACTIVE then
    n.setEnd s { e with c_state := .NONE }
  else
    let n' := Net.setBacklog { n with conns := n.conns + 1 } s.other (n.backlog s.other ++ [n.conns])
    if r = .failed then n'.setEnd s { e with c_state := .NONE }
    else n'.setEnd s { e with sk := some n.conns, c_state := .CONNECT, lostTimes := 0 }

/-- `active_listen_process`: the socket of the old connection is closed, its buffers stay. -/
def Net.accept (n : Net) (s : Side) (r : Attempt) : Net :=
  let e := n.ends s
  if e.status ≠ .ACTIVE then
    n
  else
    match n.backlog s with
    | [] => n
    | k :: ks =>
      let n' := n.setBacklog s ks
      match r with
      | .refused => n'
      | .failed => n'.setEnd s { e with sk := none }
      | .ok => n'.setEnd s { e with sk := some k, c_state := .CONNECT, lostTimes := 0 }

/-- `backup_active_stop` and `backup_standby_stop`. -/
def backupStop (e : Backup) : Backup :=
  match e.status with
  | .ACTIVE | .STANDBY => { e with recv := [], send := none, tasks := [], sk := none, c_state := .NONE }
  | _ => e

/-- `backup_status_setup`; the first attempt of a standby to connect is an event of its own. -/
def Net.setup (n : Net) (s : Side) (status : BackupStatus) : Net :=
  let e := { backupStop (n.ends s) with status := status }
  let e := if status = .ACTIVE ∨ status = .STANDBY then { e with c_state := .INIT } else e
  (n.setBacklog s []).setEnd s e

/-! ## Events -/

inductive Event where
  | add (s : Side) (proto : Nat) (data : Bytes)
  | post (s : Side) (rs : List SendResult)
  | process (s : Side) (rs : List RecvResult) (mem : List (List Bool))
  | echo (s : Side) (nomem : Bool)
  | connect (s : Side) (r : Attempt)
  | accept (s : Side) (r : Attempt)
  | setup (s : Side) (status : BackupStatus)
deriving Repr

def Net.dispatch (n : Net) : Event → Net
  | .add s proto data => n.setEnd s (backupTaskAdd (n.ends s) (backupTaskCreate proto data))
  | .post s rs => n.post s rs
  | .process s rs mem => n.process s rs mem
  | .echo s nomem => n.echo s nomem
  | .connect s r => n.connect s r
  | .accept s r => n.accept s r
  | .setup s status => n.setup s status

def step (n : Net) (ev : Event) : Net := if n.fault then n else n.dispatch ev

/-- The two machines after a sequence of events. -/
def runEvents (n : Net) (evs : List Event) : Net := Lib.run step n evs

end Channel
end DaemonGroup
