import DaemonGroup.Channel.Defs

/-!
# DaemonGroup.Channel.Posting

One machine of the backup channel and the thread that posts its tasks. The thread is paused when there is
nothing to send and started when something is queued, by four functions. It is paused only with an empty queue
and no buffer in hand, and what goes out are whole frames with the tasks in the order in which they were added,
as long as no connection is set up while there is something to send (`Sender.orderly_iff`).

An active machine accepts a connection also while it has one. It closes the old socket, but what is queued for it
stays, and the post thread and the echo timer that belong to it are forgotten and not cancelled.
-/

namespace DaemonGroup
namespace Channel

open Lib
open Pppoe (Bytes BackupStatus)

/-- `ThreadState`. -/
inductive ThreadState where
  | THREAD_RUN | THREAD_PAUSE
deriving DecidableEq, Repr

/-- `thread_start`, of a thread that may have been cancelled. -/
def threadStart : Option ThreadState → Option ThreadState
  | some .THREAD_PAUSE => some .THREAD_RUN
  | post => post

/-- `thread_pause`. -/
def threadPause : Option ThreadState → Option ThreadState
  | some .THREAD_RUN => some .THREAD_PAUSE
  | post => post

inductive Kind where
  | task | echo
deriving DecidableEq, Repr

/-- A machine, its post thread, whether it has an echo timer, and how many threads and timers of the two kinds
are still there from connections that were replaced; a thread that was paused then is never started again. What
has happened on the connection is not in the code: the octets that were sent, the tasks that were added and the
frames that became the buffer to be sent. -/
structure Sender where
  backup : Backup
  post : Option ThreadState := none
  timer : Bool := false
  posts : Nat := 0
  timers : Nat := 0
  sent : Bytes := []
  added : List Bytes := []
  loaded : List (Kind × Bytes) := []

def tasksOf (l : List (Kind × Bytes)) : List Bytes := (l.filter fun f => f.1 = .task).map Prod.snd

def octetsOf (l : List (Kind × Bytes)) : Bytes := (l.map Prod.snd).flatten

/-! ## The functions -/

/-- The next task becomes the buffer to be sent if there is none. -/
def Sender.load (s : Sender) : Sender :=
  match s.backup.send, s.backup.tasks with
  | none, t :: _ => { s with backup := s.backup.load, loaded := s.loaded ++ [(.task, t)] }
  | _, _ => s

/-- `active_disconnect` and `standby_disconnect`. -/
def Sender.clear (s : Sender) : Sender :=
  { s with backup := s.backup.disconnect, post := none, timer := false }

/-- `backup_disconnect`. -/
def Sender.disconnect (s : Sender) : Sender :=
  match s.backup.status with
  | .ACTIVE | .STANDBY => s.clear
  | _ => s

def Sender.seen (s : Sender) : Sender := { s with backup := { s.backup with lostTimes := 0 } }

/-- The loop of `backup_post_func`, with the results of its calls of `send`. -/
def Sender.postFunc : List SendResult → Sender → Sender
  | [], s =>
    match s.load.backup.send with
    | none => { s.load.seen with post := threadPause s.post }
    | some _ => s.load.seen
  | r :: rs, s =>
    match s.load.backup.send with
    | none => { s.load.seen with post := threadPause s.post }
    | some b =>
      match r with
      | .eintr => postFunc rs s.load
      | .eagain => s.load.seen
      | .error => s.load.disconnect
      | .bytes n =>
        postFunc rs
          { s.load with
            backup := s.load.backup.advance b (min n b.left.length)
            sent := s.sent ++ b.left.take (min n b.left.length) }

/-- The thread that has run was not `post`, which is cancelled if the connection is lost. -/
def Sender.another (s : Sender) (post : Option ThreadState) : Sender :=
  { s with
    post := if s.post = none then none else post
    posts := if s.post = some .THREAD_PAUSE then s.posts - 1 else s.posts }

/-- A post thread that was forgotten runs. It sends on the connection that there is now, and it is the one that is
paused in the end. -/
def Sender.postForgotten (s : Sender) (rs : List SendResult) : Sender :=
  ({ s with post := some .THREAD_RUN }.postFunc rs).another s.post

/-- `backup_task_add`. -/
def Sender.taskAdd (s : Sender) (task : Bytes) : Sender :=
  if s.backup.c_state ≠ .CONNECT then s
  else
    { s with
      backup := backupTaskAdd s.backup task
      post := if s.backup.tasks = [] then threadStart s.post else s.post
      added := s.added ++ [task] }

/-- An echo packet becomes the buffer to be sent. -/
def Sender.echo (s : Sender) (lostTimes : Nat) (proto : Nat) : Sender :=
  { s with
    backup := { s.backup with send := some { bytes := echoPacket proto }, lostTimes := lostTimes }
    post := threadStart s.post
    loaded := s.loaded ++ [(.echo, echoPacket proto)] }

def Sender.lost (s : Sender) : Sender :=
  { s with backup := { s.backup with lostTimes := s.backup.lostTimes + 1 } }

/-- `active_echo_timer_func`. -/
def Sender.activeEchoTimer (s : Sender) (nomem : Bool) : Sender :=
  if s.backup.lostTimes ≥ DEFAULT_BACKUP_ECHO_TIMES then s.clear
  else if s.backup.send.isSome ∨ s.backup.tasks ≠ [] ∨ nomem then s.lost
  else s.echo (s.backup.lostTimes + 1) BACKUP_ECHO_REQUEST

/-- `standby_echo_timer_func`. -/
def Sender.standbyEchoTimer (s : Sender) : Sender :=
  if s.backup.lostTimes ≥ DEFAULT_BACKUP_ECHO_TIMES then s.clear else s.lost

/-- `standby_proto_echo_process`, which both machines register. -/
def Sender.echoProcess (s : Sender) : Sender :=
  match s.backup.send with
  | some _ => s
  | none => s.echo s.backup.lostTimes BACKUP_ECHO_REPLY

/-- How an attempt to set a connection up ends: there is no connection, no thread can be added for its socket or
for the tasks, no timer can be added, or it succeeds. -/
inductive SetUp where
  | refused | noread | nowrite | notimer | ok
deriving DecidableEq, Repr

/-- A connection is there: its post thread is added and paused, and its timer is added. -/
def Sender.establish (s : Sender) : Sender :=
  { backup := { s.backup with sk := some 0, c_state := .CONNECT, lostTimes := 0 }
    post := threadPause (some .THREAD_RUN)
    timer := true
    posts := s.posts
    timers := s.timers }

/-- The pointer to the post thread gets another value, the thread stays. -/
def Sender.forgetPost (s : Sender) : Sender :=
  { s with
    post := none
    posts := if s.post = some .THREAD_RUN then s.posts + 1 else s.posts }

def Sender.forgetTimer (s : Sender) : Sender :=
  { s with
    timer := false
    timers := if s.timer then s.timers + 1 else s.timers }

/-- There is no socket any more. -/
def Sender.unplug (s : Sender) : Sender := { s with backup := { s.backup with sk := none } }

/-- `standby_connect`, after `standby_sock_init`. -/
def Sender.connect (s : Sender) : SetUp → Sender
  | .ok => s.establish
  | .notimer => { s.seen with backup := { s.seen.backup with c_state := .NONE } }
  | _ => { s with backup := { s.backup with c_state := .NONE } }

/-- `active_listen_process`. The socket of the connection that was there is closed. -/
def Sender.accept (s : Sender) : SetUp → Sender
  | .refused => s
  | .noread => s.unplug
  | .nowrite => s.forgetPost.unplug
  | .notimer => s.forgetPost.forgetTimer.seen.unplug
  | .ok => s.forgetPost.forgetTimer.establish

/-- `backup_status_setup`. -/
def Sender.setup (s : Sender) (status : BackupStatus) : Sender :=
  let e := { backupStop s.backup with status := status }
  { s with
    backup := if status = .ACTIVE ∨ status = .STANDBY then { e with c_state := .INIT } else e
    post := match s.backup.status with
      | .ACTIVE | .STANDBY => none
      | _ => s.post
    timer := match s.backup.status with
      | .ACTIVE | .STANDBY => false
      | _ => s.timer }

inductive SendEvent where
  | add (proto : Nat) (data : Bytes)
  | post (rs : List SendResult)
  | postForgotten (rs : List SendResult)
  | echo (nomem : Bool)
  | echoForgotten (nomem : Bool)
  | request
  | heard
  | clear
  | connect (r : SetUp)
  | accept (r : SetUp)
  | setup (status : BackupStatus)
deriving Repr

/-- A thread runs while it is not paused and sends while there is a socket, the socket is read while there is one,
and the timers run while they are there. A standby connects while it has no connection, an active machine accepts
at any time. -/
def Sender.step (s : Sender) : SendEvent → Sender
  | .add proto data => s.taskAdd (backupTaskCreate proto data)
  | .post rs => if s.post = some .THREAD_RUN ∧ s.backup.sk ≠ none then s.postFunc rs else s
  | .postForgotten rs => if 0 < s.posts ∧ s.backup.sk ≠ none then s.postForgotten rs else s
  | .echo nomem =>
    if s.timer then if s.backup.status = .ACTIVE then s.activeEchoTimer nomem else s.standbyEchoTimer else s
  | .echoForgotten nomem => if 0 < s.timers then s.activeEchoTimer nomem else s
  | .request => if s.backup.sk = none then s else s.echoProcess
  | .heard => if s.backup.sk = none then s else s.seen
  | .clear => if s.backup.sk = none then s else s.disconnect
  | .connect r => if s.backup.status = .STANDBY ∧ s.backup.sk = none then s.connect r else s
  | .accept r => if s.backup.status = .ACTIVE then s.accept r else s
  | .setup status => s.setup status

/-! ## What a machine keeps to -/

/-- What is in hand: the last frame that was loaded, behind the octets of those before it. -/
def Sender.InHand (s : Sender) : Prop :=
  match s.backup.send with
  | none => s.sent = octetsOf s.loaded
  | some b => ∃ k done, s.loaded = done ++ [(k, b.bytes)] ∧ s.sent = octetsOf done ++ b.bytes.take b.off

/-- The post thread is paused only while there is nothing to send. The tasks go out in the order in which they
were added, and every frame is complete before the next one begins. -/
structure Sender.Orderly (s : Sender) : Prop where
  idle : s.post = some .THREAD_PAUSE → s.backup.tasks = [] ∧ s.backup.send = none
  order : tasksOf s.loaded <+: s.added
  octets : s.sent <+: octetsOf s.loaded
  live : s.backup.c_state = .CONNECT → tasksOf s.loaded ++ s.backup.tasks = s.added ∧ s.InHand

/-- A post thread and a socket belong to a connection; only an active machine can lose its socket before it knows. -/
structure Sender.Inv (s : Sender) : Prop extends s.Orderly where
  conn : s.backup.sk ≠ none ∨ s.post ≠ none → s.backup.c_state = .CONNECT
  on : s.backup.c_state = .CONNECT ∨ s.timer → s.backup.status = .ACTIVE ∨ s.backup.status = .STANDBY
  standby : s.backup.status = .STANDBY → s.backup.c_state = .CONNECT → s.backup.sk ≠ none

/-- A connection is set up. -/
def Sender.SetsUp (s : Sender) : SendEvent → Prop
  | .connect .ok => s.backup.status = .STANDBY ∧ s.backup.sk = none
  | .accept .ok => s.backup.status = .ACTIVE
  | _ => False

/-- The condition on a step: when a connection is set up, nothing is queued and no buffer is in hand. -/
def Sender.Ok (s : Sender) (x : SendEvent) : Prop :=
  s.SetsUp x → s.backup.tasks = [] ∧ s.backup.send = none

section
variable {s : Sender} {l l' : List (Kind × Bytes)} {k : Kind} {f : Bytes}

theorem tasksOf_task : tasksOf (l ++ [(.task, f)]) = tasksOf l ++ [f] := by
  simp [tasksOf]

theorem tasksOf_echo : tasksOf (l ++ [(.echo, f)]) = tasksOf l := by
  simp [tasksOf]

theorem octetsOf_add : octetsOf (l ++ [(k, f)]) = octetsOf l ++ f := by
  simp [octetsOf]

theorem Sender.InHand.octets (h : s.InHand) : s.sent <+: octetsOf s.loaded := by
  rw [InHand] at h
  split at h
  · exact h ▸ List.prefix_rfl
  · obtain ⟨k, done, hloaded, hsent⟩ := h
    rw [hsent, hloaded, octetsOf_add]
    exact (List.prefix_append_right_inj _).mpr (List.take_prefix _ _)

/-- A machine with a connection keeps to it if nothing is left while its thread is paused. -/
theorem Sender.Inv.of_live (hon : s.backup.status = .ACTIVE ∨ s.backup.status = .STANDBY)
    (hsk : s.backup.status = .STANDBY → s.backup.sk ≠ none) (hc : s.backup.c_state = .CONNECT)
    (hidle : s.post = some .THREAD_PAUSE → s.backup.tasks = [] ∧ s.backup.send = none)
    (horder : tasksOf s.loaded ++ s.backup.tasks = s.added) (hhand : s.InHand) : s.Inv where
  idle := hidle
  order := horder ▸ List.prefix_append _ _
  octets := hhand.octets
  live _ := ⟨horder, hhand⟩
  conn _ := hc
  on _ := hon
  standby h _ := hsk h

/-- A machine without a connection, a thread and a timer. -/
theorem Sender.Inv.of_dead (hc : s.backup.c_state ≠ .CONNECT) (hsk : s.backup.sk = none) (hpost : s.post = none)
    (htimer : s.timer = false) (horder : tasksOf s.loaded <+: s.added) (hoctets : s.sent <+: octetsOf s.loaded) :
    s.Inv where
  idle h := by rw [hpost] at h; cases h
  order := horder
  octets := hoctets
  live h := absurd h hc
  conn h := absurd h (by simp [hsk, hpost])
  on h := absurd h (by simp [hc, htimer])
  standby _ h := absurd h hc

theorem Sender.Inv.clear (h : s.Inv) : s.clear.Inv :=
  .of_dead nofun rfl rfl rfl h.order h.octets

theorem Sender.Inv.disconnect (h : s.Inv) : s.disconnect.Inv := by
  rw [Sender.disconnect]
  split
  · exact h.clear
  · exact h.clear
  · exact h

theorem Sender.Inv.seen (h : s.Inv) : s.seen.Inv :=
  ⟨⟨h.idle, h.order, h.octets, h.live⟩, h.conn, h.on, h.standby⟩

theorem Sender.Inv.lost (h : s.Inv) : s.lost.Inv :=
  ⟨⟨h.idle, h.order, h.octets, h.live⟩, h.conn, h.on, h.standby⟩

/-- A machine with a socket is on, and what it sends is in order. -/
theorem Sender.Inv.connected (h : s.Inv) (hsk : s.backup.sk ≠ none) :
    s.backup.c_state = .CONNECT ∧ (s.backup.status = .ACTIVE ∨ s.backup.status = .STANDBY) :=
  ⟨h.conn (.inl hsk), h.on (.inl (h.conn (.inl hsk)))⟩

/-! ## Loading and sending -/

/-- A running thread with its order kept. -/
structure Sender.Running (s : Sender) : Prop where
  post : s.post = some .THREAD_RUN
  sk : s.backup.sk ≠ none
  on : s.backup.status = .ACTIVE ∨ s.backup.status = .STANDBY
  c_state : s.backup.c_state = .CONNECT
  order : tasksOf s.loaded ++ s.backup.tasks = s.added
  hand : s.InHand

/-- A thread of the machine that runs, be it the one that it knows or another. -/
theorem Sender.Inv.running (h : s.Inv) (hsk : s.backup.sk ≠ none) :
    Sender.Running { s with post := some .THREAD_RUN } := by
  obtain ⟨hc, hon⟩ := h.connected hsk
  obtain ⟨horder, hhand⟩ := h.live hc
  exact ⟨rfl, hsk, hon, hc, horder, hhand⟩

theorem Sender.Running.inv (h : s.Running) : s.Inv :=
  .of_live h.on (fun _ => h.sk) h.c_state (fun hp => by rw [h.post] at hp; cases hp) h.order h.hand

theorem Sender.Running.seen (h : s.Running) : s.seen.Running :=
  ⟨h.post, h.sk, h.on, h.c_state, h.order, h.hand⟩

/-- A task that is loaded is in hand with none of its octets gone. -/
theorem Sender.Running.load (h : s.Running) : s.load.Running ∧
    (s.load.backup.send = none → s.backup.tasks = [] ∧ s.load = s) := by
  have horder := h.order
  have hhand := h.hand
  rw [Sender.load]
  split
  · rename_i t ts hs ht
    have hload : s.backup.load = { s.backup with send := some { bytes := t }, tasks := ts } := by
      rw [Backup.load, hs, ht]
    rw [hload]
    rw [ht] at horder
    rw [InHand, hs] at hhand
    refine ⟨⟨h.post, h.sk, h.on, h.c_state, ?_, ?_⟩, nofun⟩
    · rw [tasksOf_task, ← horder, List.append_assoc]
      rfl
    · exact ⟨.task, s.loaded, rfl, by simpa using hhand⟩
  · rename_i hnot
    refine ⟨h, fun hs => ⟨?_, rfl⟩⟩
    cases ht : s.backup.tasks with
    | nil => rfl
    | cons t ts => exact absurd ht (hnot t ts hs)

theorem load_sent : s.load.sent = s.sent := by
  rw [Sender.load]
  split <;> rfl

/-- Sending `m` octets of the buffer in hand. -/
theorem Sender.Running.advance {b : SendBuf} {m : Nat} (h : s.Running) (hb : s.backup.send = some b) :
    Sender.Running { s with backup := s.backup.advance b m, sent := s.sent ++ b.left.take m } := by
  refine ⟨h.post, h.sk, h.on, h.c_state, h.order, ?_⟩
  have hhand := h.hand
  rw [InHand, hb] at hhand
  obtain ⟨k, done, hloaded, hsent⟩ := hhand
  rw [InHand, Backup.advance]
  by_cases hall : b.left.length = m
  · have hwhole : b.bytes.take b.off ++ b.left.take m = b.bytes := by
      rw [← hall, List.take_length]
      exact List.take_append_drop _ _
    simp only [if_pos hall]
    rw [hloaded, octetsOf_add, hsent, List.append_assoc, hwhole]
  · simp only [if_neg hall]
    refine ⟨k, done, hloaded, ?_⟩
    rw [hsent, List.append_assoc, List.take_add]
    rfl

theorem Sender.Running.pause (h : s.Running) (hs : s.backup.send = none) (ht : s.backup.tasks = []) :
    Sender.Inv { s.seen with post := threadPause s.post } :=
  .of_live h.on (fun _ => h.sk) h.c_state (fun _ => ⟨ht, hs⟩) h.order h.hand

theorem Sender.Running.postFunc {rs : List SendResult} (h : s.Running) : (s.postFunc rs).Inv := by
  induction rs generalizing s with
  | nil =>
    obtain ⟨hl, hempty⟩ := h.load
    rw [Sender.postFunc]
    split
    · rename_i hs
      obtain ⟨ht, he⟩ := hempty hs
      rw [he] at hs ⊢
      exact h.pause hs ht
    · exact hl.seen.inv
  | cons r rs ih =>
    obtain ⟨hl, hempty⟩ := h.load
    rw [Sender.postFunc]
    split
    · rename_i hs
      obtain ⟨ht, he⟩ := hempty hs
      rw [he] at hs ⊢
      exact h.pause hs ht
    · rename_i b hb
      cases r with
      | eintr => exact ih hl
      | eagain => exact hl.seen.inv
      | error => exact hl.inv.disconnect
      | bytes n =>
        have hgo := hl.advance (m := min n b.left.length) hb
        rw [load_sent] at hgo
        exact ih hgo

/-- With nothing to send a thread sends nothing. -/
theorem postFunc_empty {rs : List SendResult} (ht : s.backup.tasks = []) (hs : s.backup.send = none) :
    s.postFunc rs = { s.seen with post := threadPause s.post } := by
  have hl : s.load = s := by
    rw [Sender.load]
    split
    · rename_i t ts _ ht'
      rw [ht] at ht'
      cases ht'
    · rfl
  cases rs with
  | nil => rw [Sender.postFunc, hl, hs]
  | cons r rs => rw [Sender.postFunc, hl, hs]

theorem Sender.Inv.another {post : Option ThreadState} (h : s.Inv)
    (hidle : post = some .THREAD_PAUSE → s.backup.tasks = [] ∧ s.backup.send = none) : (s.another post).Inv := by
  refine ⟨⟨fun hp => ?_, h.order, h.octets, h.live⟩, fun hne => h.conn (hne.imp id ?_), h.on, h.standby⟩
  · dsimp only [Sender.another] at hp
    split at hp
    · cases hp
    · exact hidle hp
  · intro hne hnone
    exact hne (if_pos hnone)

/-- A thread that was forgotten sends in order as well. -/
theorem Sender.Inv.postForgotten {rs : List SendResult} (h : s.Inv) (hsk : s.backup.sk ≠ none) :
    (s.postForgotten rs).Inv := by
  refine (h.running hsk).postFunc.another fun hp => ?_
  obtain ⟨ht, hs⟩ := h.idle hp
  rw [@postFunc_empty { s with post := some .THREAD_RUN } rs ht hs]
  exact ⟨ht, hs⟩

/-! ## Queueing -/

theorem start_ne_paused {post : Option ThreadState} : threadStart post ≠ some .THREAD_PAUSE := by
  rcases post with _ | _ | _ <;> decide

theorem start_none {post : Option ThreadState} (h : threadStart post ≠ none) : post ≠ none := by
  rintro rfl
  exact h rfl

theorem Sender.Inv.taskAdd (h : s.Inv) (task : Bytes) : (s.taskAdd task).Inv := by
  rw [Sender.taskAdd]
  split
  · exact h
  rename_i hc
  have hc : s.backup.c_state = .CONNECT := not_not.mp hc
  obtain ⟨horder, hhand⟩ := h.live hc
  have hadd : backupTaskAdd s.backup task = { s.backup with tasks := s.backup.tasks ++ [task] } := by
    rw [backupTaskAdd, if_neg (not_not.mpr hc)]
  rw [hadd]
  refine .of_live (h.on (.inl hc)) (fun hs => h.standby hs hc) hc ?_ ?_ hhand
  · intro hp
    dsimp only at hp
    split at hp
    · exact absurd hp start_ne_paused
    · rename_i ht
      exact absurd (h.idle hp).1 ht
  · rw [← horder, List.append_assoc]

/-- An echo packet is queued, on a connection or not. -/
theorem Sender.Inv.echo {n proto : Nat} (h : s.Inv) (hs : s.backup.send = none) : (s.echo n proto).Inv where
  idle hp := absurd hp start_ne_paused
  order := by
    rw [show tasksOf (s.echo n proto).loaded = tasksOf s.loaded from tasksOf_echo]
    exact h.order
  octets := by
    rw [show octetsOf (s.echo n proto).loaded = octetsOf s.loaded ++ echoPacket proto from octetsOf_add]
    exact h.octets.trans (List.prefix_append _ _)
  live hc := by
    obtain ⟨horder, hhand⟩ := h.live hc
    rw [InHand, hs] at hhand
    refine ⟨?_, .echo, s.loaded, rfl, ?_⟩
    · rw [show tasksOf (s.echo n proto).loaded = tasksOf s.loaded from tasksOf_echo]
      exact horder
    · rw [show (s.echo n proto).sent = s.sent from rfl, hhand]
      exact (List.append_nil _).symm
  conn hne := h.conn (hne.imp id start_none)
  on := h.on
  standby := h.standby

theorem Sender.Inv.activeEchoTimer (h : s.Inv) (nomem : Bool) : (s.activeEchoTimer nomem).Inv := by
  rw [Sender.activeEchoTimer]
  split
  · exact h.clear
  · split
    · exact h.lost
    · rename_i hnot
      have hs : s.backup.send = none := by
        rw [← Option.not_isSome_iff_eq_none]
        intro hsome
        exact hnot (.inl hsome)
      exact h.echo hs

theorem Sender.Inv.standbyEchoTimer (h : s.Inv) : s.standbyEchoTimer.Inv := by
  rw [Sender.standbyEchoTimer]
  split
  · exact h.clear
  · exact h.lost

theorem Sender.Inv.echoProcess (h : s.Inv) : s.echoProcess.Inv := by
  rw [Sender.echoProcess]
  split
  · exact h
  · rename_i hs
    exact h.echo hs

/-! ## Connections -/

/-- A connection is set up while there is nothing to send. -/
theorem Sender.Inv.establish (hon : s.backup.status = .ACTIVE ∨ s.backup.status = .STANDBY)
    (ht : s.backup.tasks = []) (hs : s.backup.send = none) : s.establish.Inv := by
  refine .of_live hon (fun _ => nofun) rfl (fun _ => ⟨ht, hs⟩) ?_ ?_
  · show tasksOf [] ++ s.backup.tasks = []
    rw [ht]
    rfl
  · rw [InHand, show s.establish.backup.send = none from hs]
    rfl

theorem Sender.Inv.connect {r : SetUp} (h : s.Inv) (hstandby : s.backup.status = .STANDBY)
    (hsk : s.backup.sk = none) (hok : r = .ok → s.backup.tasks = [] ∧ s.backup.send = none) : (s.connect r).Inv := by
  have hc : s.backup.c_state ≠ .CONNECT := fun hc => h.standby hstandby hc hsk
  have hpost : s.post = none := by
    by_contra hne
    exact hc (h.conn (.inr hne))
  -- an attempt that fails leaves a machine that may have a timer, but no connection
  have hfailed (n : Nat) : Sender.Inv { s with
      backup := { s.backup with c_state := .NONE, lostTimes := n } } :=
    { idle := fun hp => by rw [hpost] at hp; cases hp
      order := h.order
      octets := h.octets
      live := nofun
      conn := fun hne => absurd hne (by simp [hsk, hpost])
      on := fun _ => .inr hstandby
      standby := fun _ => nofun }
  cases r with
  | refused => exact hfailed _
  | noread => exact hfailed _
  | nowrite => exact hfailed _
  | notimer => exact hfailed _
  | ok => exact .establish (.inr hstandby) (hok rfl).1 (hok rfl).2

/-- An active machine loses its socket. -/
theorem Sender.Inv.unplug (h : s.Inv) (hactive : s.backup.status = .ACTIVE) : s.unplug.Inv :=
  ⟨⟨h.idle, h.order, h.octets, h.live⟩, fun hne => h.conn (hne.imp (absurd rfl) id), h.on,
    fun hs => by
      have hactive' : s.unplug.backup.status = .ACTIVE := hactive
      rw [hactive'] at hs
      cases hs⟩

theorem Sender.Inv.forgetPost (h : s.Inv) : s.forgetPost.Inv :=
  ⟨⟨nofun, h.order, h.octets, h.live⟩, fun hne => h.conn (hne.imp id (absurd rfl)), h.on, h.standby⟩

theorem Sender.Inv.forgetTimer (h : s.Inv) : s.forgetTimer.Inv :=
  ⟨⟨h.idle, h.order, h.octets, h.live⟩, h.conn, fun hon => h.on (hon.imp id nofun), h.standby⟩

theorem Sender.Inv.accept {r : SetUp} (h : s.Inv) (hactive : s.backup.status = .ACTIVE)
    (hok : r = .ok → s.backup.tasks = [] ∧ s.backup.send = none) : (s.accept r).Inv := by
  cases r with
  | refused => exact h
  | noread => exact h.unplug hactive
  | nowrite => exact h.forgetPost.unplug hactive
  | notimer => exact h.forgetPost.forgetTimer.seen.unplug hactive
  | ok => exact .establish (.inl hactive) (hok rfl).1 (hok rfl).2

theorem backupStop_quiet {e : Backup} (hon : e.status = .ACTIVE ∨ e.status = .STANDBY) :
    (backupStop e).sk = none ∧ (backupStop e).c_state = .NONE := by
  rcases hon with hs | hs <;> simp [backupStop, hs]

theorem Sender.Inv.setup (h : s.Inv) (status : BackupStatus) : (s.setup status).Inv := by
  have hquiet : (backupStop s.backup).sk = none ∧ (backupStop s.backup).c_state ≠ .CONNECT ∧
      (s.setup status).post = none ∧ (s.setup status).timer = false := by
    by_cases hon : s.backup.status = .ACTIVE ∨ s.backup.status = .STANDBY
    · obtain ⟨hsk, hc⟩ := backupStop_quiet hon
      refine ⟨hsk, by rw [hc]; decide, ?_⟩
      rcases hon with hs | hs <;> simp [Sender.setup, hs]
    · have hc : s.backup.c_state ≠ .CONNECT := fun hc => hon (h.on (.inl hc))
      have hstop : backupStop s.backup = s.backup := by
        rw [backupStop]
        split
        · rename_i hst
          exact absurd (.inl hst) hon
        · rename_i hst
          exact absurd (.inr hst) hon
        · rfl
      rw [hstop]
      have hsk : s.backup.sk = none := by
        by_contra hne
        exact hc (h.conn (.inl hne))
      have hpost : s.post = none := by
        by_contra hne
        exact hc (h.conn (.inr hne))
      have htimer : s.timer = false := by
        by_contra hne
        exact hon (h.on (.inr (Bool.not_eq_false _ ▸ hne)))
      refine ⟨hsk, hc, ?_, ?_⟩
      · rw [Sender.setup]
        dsimp only
        split
        · rfl
        · rfl
        · exact hpost
      · rw [Sender.setup]
        dsimp only
        split
        · rfl
        · rfl
        · exact htimer
  obtain ⟨hsk, hc, hpost, htimer⟩ := hquiet
  refine .of_dead ?_ ?_ hpost htimer h.order h.octets
  · rw [Sender.setup]
    dsimp only
    split
    · exact ChannelState.noConfusion
    · exact hc
  · rw [Sender.setup]
    dsimp only
    split
    · exact hsk
    · exact hsk

/-! ## Runs -/

theorem Sender.Inv.step (x : SendEvent) (h : s.Inv) (hok : s.Ok x) : (s.step x).Inv := by
  cases x with
  | add proto data => exact h.taskAdd _
  | post rs =>
    rw [Sender.step]
    split
    · rename_i hp
      have hrun := h.running hp.2
      rw [← hp.1] at hrun
      exact hrun.postFunc
    · exact h
  | postForgotten rs =>
    rw [Sender.step]
    split
    · rename_i hp
      exact h.postForgotten hp.2
    · exact h
  | echo nomem =>
    rw [Sender.step]
    split
    · split
      · exact h.activeEchoTimer nomem
      · exact h.standbyEchoTimer
    · exact h
  | echoForgotten nomem =>
    rw [Sender.step]
    split
    · exact h.activeEchoTimer nomem
    · exact h
  | request =>
    rw [Sender.step]
    split
    · exact h
    · exact h.echoProcess
  | heard =>
    rw [Sender.step]
    split
    · exact h
    · exact h.seen
  | clear =>
    rw [Sender.step]
    split
    · exact h
    · exact h.disconnect
  | connect r =>
    rw [Sender.step]
    split
    · rename_i hc
      exact h.connect hc.1 hc.2 fun hr => hok (by subst hr; exact hc)
    · exact h
  | accept r =>
    rw [Sender.step]
    split
    · rename_i hactive
      exact h.accept hactive fun hr => hok (by subst hr; exact hactive)
    · exact h
  | setup status => exact h.setup status

/-- The thread of a connection that is set up is paused, and what is queued stays. -/
theorem Sender.SetsUp.idle {x : SendEvent} (h : s.SetsUp x) : (s.step x).post = some .THREAD_PAUSE ∧
    (s.step x).backup.tasks = s.backup.tasks ∧ (s.step x).backup.send = s.backup.send := by
  cases x with
  | connect r =>
    cases r with
    | ok =>
      have hc : s.backup.status = .STANDBY ∧ s.backup.sk = none := h
      rw [Sender.step, if_pos hc]
      exact ⟨rfl, rfl, rfl⟩
    | _ => cases h
  | accept r =>
    cases r with
    | ok =>
      have hactive : s.backup.status = .ACTIVE := h
      rw [Sender.step, if_pos hactive]
      exact ⟨rfl, rfl, rfl⟩
    | _ => cases h
  | _ => cases h

/-- The machine before its first connection. -/
def Sender.init (status : BackupStatus) : Sender := { backup := { status := status } }

theorem Sender.Inv.init (status : BackupStatus) : (Sender.init status).Inv :=
  .of_dead nofun rfl rfl rfl List.prefix_rfl List.prefix_rfl

/-- For every run: the post thread is paused only while there is nothing to send, and the tasks go out whole and in
the order in which they were added, if and only if nothing is left to send whenever a connection is set up. -/
theorem Sender.orderly_iff (status : BackupStatus) (xs : List SendEvent) :
    (∀ pre suf, xs = pre ++ suf → (run Sender.step (Sender.init status) pre).Orderly) ↔
      Obeys Sender.step Sender.Ok (Sender.init status) xs := by
  have hall : Obeys Sender.step (fun _ _ => True) (Sender.init status) xs := obeys_of_forall fun _ _ _ => trivial
  have hbad : ∀ s x, Sender.Inv s → True → ¬ s.Ok x → ¬ (s.step x).Orderly := by
    intro s x _ _ hnot hord
    refine hnot fun hup => ?_
    obtain ⟨hp, ht, hs⟩ := hup.idle
    rw [← ht, ← hs]
    exact hord.idle hp
  exact (hall.iff_within (fun s x h _ hok => Sender.Inv.step x h hok) (fun s h => h.toOrderly) hbad
    (Sender.Inv.init status)).symm

/-- Two octets of a task are gone when another connection is accepted: the rest of it waits behind a thread that
is paused. -/
theorem Sender.accepted_twice : ¬ ∀ pre suf,
    [.setup .ACTIVE, .accept .ok, .add 5 [1, 2, 3], .post [.bytes 2], .accept .ok] = pre ++ suf →
      (run Sender.step (Sender.init .NONE) pre).Orderly := by
  intro h
  have hidle := (h _ [] (List.append_nil _).symm).idle (by decide)
  exact absurd hidle.2 (by decide)

/-! ## The loop of the channel -/

theorem load_backup : s.load.backup = s.backup.load := by
  rw [Sender.load]
  split
  · rfl
  · rename_i hnot
    rw [Backup.load]
    split
    · rename_i t ts hs ht
      exact absurd ht (hnot t ts hs)
    · rfl

theorem disconnect_backup :
    s.disconnect.backup = backupDisconnect s.backup ∧ s.disconnect.sent = s.sent := by
  cases hs : s.backup.status <;>
    simp [Sender.disconnect, Sender.clear, backupDisconnect, activeDisconnect, standbyDisconnect, hs]

/-- The machine and what it sends are those of `postLoop`. -/
theorem postFunc_backup {rs : List SendResult} {x : Stream} (hx : x.sent = s.sent) :
    (s.postFunc rs).backup = (postLoop rs s.backup x).1 ∧
      (s.postFunc rs).sent = (postLoop rs s.backup x).2.sent := by
  have hseen : ∀ s : Sender, s.load.seen.backup = { s.backup.load with lostTimes := 0 } ∧
      s.load.seen.sent = s.sent := by
    intro s
    rw [Sender.seen, load_backup]
    exact ⟨rfl, load_sent⟩
  induction rs generalizing s x with
  | nil =>
    obtain ⟨hb, hs⟩ := hseen s
    rw [Sender.postFunc, postLoop]
    split
    · exact ⟨hb, hs.trans hx.symm⟩
    · exact ⟨hb, hs.trans hx.symm⟩
  | cons r rs ih =>
    obtain ⟨hb, hs⟩ := hseen s
    have hload := @load_backup s
    rw [Sender.postFunc, postLoop]
    rw [← hload] at hb ⊢
    cases hsend : s.load.backup.send with
    | none => exact ⟨hb, hs.trans hx.symm⟩
    | some b =>
      cases r with
      | eintr => exact ih (hx.trans load_sent.symm)
      | eagain => exact ⟨hb, hs.trans hx.symm⟩
      | error =>
        obtain ⟨hd, hds⟩ := @disconnect_backup s.load
        exact ⟨hd, hds.trans (load_sent.trans hx.symm)⟩
      | bytes n =>
        refine ih ?_
        rw [Stream.write, hx]

end

end Channel
end DaemonGroup
