import DaemonGroup.Lib.Run
import DaemonGroup.Pppoe.Defs

/-!
# DaemonGroup.Eag.Hansi

The backup channel of the portal (`eag_hansi.c`): a master and a backup on one connection. Each has a fifo of
packets to be written and one packet buffer for what it reads.

What the kernel does is part of an operation: how many octets `write` and `recv` take, and which calls fail. So
is what a callback does: the packets it queues. The octets of the connection that were written and not read yet
are kept in order. A `long` has four octets.

The log has what was queued and acknowledged, what the callbacks were given, and which octets were thrown away
unused.
-/

namespace DaemonGroup
namespace Eag

open Pppoe (Bytes getLong putLong charArray)

def BACKUP_PACKET_SIZE : Nat := 4096

/-- `offsetof(struct backup_packet, data)`. -/
def BACKUP_PACKET_HEADSIZE : Nat := 16

/-! ## Backup types -/

/-- `struct eag_hansi_backup_type`; of the callback, whether there is one. -/
structure BackupType where
  type : UInt32
  get_backup_data : Bool
deriving DecidableEq, Repr

/-- `eag_hansi_register_backup_type` for each callback in turn; `type` is the static counter. -/
def registerBackupTypes : UInt32 → List Bool → List BackupType
  | _, [] => []
  | type, cb :: cbs => { type := type + 1, get_backup_data := cb } :: registerBackupTypes (type + 1) cbs

/-- `eag_hansi_get_backup_type_by_id`; a backup type is named by its place in the list. -/
def getBackupTypeById (bktypes : List BackupType) (type : UInt32) : Option Nat :=
  bktypes.findIdx? (·.type = type)

/-! ## Packets and tasks -/

/-- What a packet is about: its type and the octets of `data` that were copied in. The rest of the array is
zero and not part of the packet. -/
structure BackupData where
  type : UInt32
  data : Bytes
deriving DecidableEq, Repr

/-- `pktlen` of `struct backup_packet`. -/
def BackupData.pktlen (p : BackupData) : Nat := p.data.length + BACKUP_PACKET_HEADSIZE

/-- The octets of `struct backup_packet` up to its `pktlen`, stamped with the time `tv`. -/
def BackupData.octets (p : BackupData) (tv : Nat × Nat) : Bytes :=
  putLong tv.1 ++ putLong tv.2 ++ putLong p.type.toNat ++ putLong p.pktlen ++ p.data

/-- `struct eag_hansi_task`; of the thread `t_write`, whether there is one. The time in the packet is written
anew before each `write`, so it is not kept. -/
structure HansiTask where
  packet : BackupData
  writen : Nat := 0
  t_write : Bool := false
deriving DecidableEq, Repr

inductive HansiLog
  | queued (packet : BackupData)
  | jumped (packet : BackupData)
  | acked
  | called (type : UInt32) (data : Bytes)
  | thrown (octets : Bytes)
deriving DecidableEq, Repr

/-- `struct eag_hansi_proc`: whether `conn_fd` is valid, the first `readlen` octets of `readbuf`, the others of
which are zero, and the fifo. -/
structure HansiProc where
  conn_fd : Bool := true
  readbuf : Bytes := []
  task_fifo : List HansiTask := []
deriving DecidableEq, Repr

/-- `struct eag_hansi`; `backup` is `eag_hansi_is_backup`. -/
structure Hansi where
  backup : Bool
  bktypes : List BackupType
  proc : HansiProc := {}
  log : List HansiLog := []
deriving DecidableEq, Repr

/-- `eag_hansi_proc_stop`. -/
def Hansi.procStop (h : Hansi) : Hansi := { h with proc := { conn_fd := false } }

/-- `eag_hansi_task_start_write` of the first task; `thread` is whether `eag_thread_add_write` succeeds. -/
def Hansi.taskStartWrite (h : Hansi) (thread : Bool) : Hansi :=
  match h.proc.task_fifo with
  | [] => h
  | task :: rest =>
    if h.proc.conn_fd = false then h
    else if thread = false then h.procStop
    else { h with proc := { h.proc with task_fifo := { task with t_write := true } :: rest } }

/-- `eag_hansi_fifo_pop`, with the task freed. -/
def Hansi.fifoPop (h : Hansi) : Hansi :=
  { h with proc := { h.proc with task_fifo := h.proc.task_fifo.tail } }

/-- `eag_hansi_fifo_push`. -/
def fifoPush (fifo : List HansiTask) (task : HansiTask) : List HansiTask := fifo ++ [task]

/-- `eag_hansi_fifo_jump`. -/
def fifoJump : List HansiTask → HansiTask → List HansiTask
  | [], task => [task]
  | first :: rest, task => first :: task :: rest

/-! ## Queueing -/

/-- A call of `eag_hansi_queue_data` or, if `jump` is set, of `eag_hansi_jump_data`. A `bktype` that is no place
in the list stands for a null pointer; `task` and `thread` are whether a task and a thread can be had. -/
structure HansiCall where
  jump : Bool
  bktype : Nat
  data : Bytes
  task : Bool
  thread : Bool
deriving DecidableEq, Repr

/-- The packet of the task that a call makes, if it passes the checks and the connection is up. -/
def HansiCall.packet (c : HansiCall) (bktypes : List BackupType) : Option BackupData :=
  match bktypes[c.bktype]? with
  | none => none
  | some bktype =>
    if c.data.length = 0 then none
    else if BACKUP_PACKET_SIZE < c.data.length then none
    else if getBackupTypeById bktypes bktype.type ≠ some c.bktype then none
    else if c.task = false then none
    else some { type := bktype.type, data := c.data }

/-- What both calls do once the task is made: `place` puts it into the fifo, and it is written at once if the
fifo was empty. -/
def Hansi.enqueue (h : Hansi) (place : List HansiTask → HansiTask → List HansiTask) (p : BackupData)
    (thread : Bool) (note : HansiLog) : Hansi :=
  let placed := { h with
    proc := { h.proc with task_fifo := place h.proc.task_fifo { packet := p } }, log := h.log ++ [note] }
  if h.proc.task_fifo = [] then placed.taskStartWrite thread else placed

/-- `eag_hansi_queue_data` and `eag_hansi_jump_data`. -/
def Hansi.submit (h : Hansi) (c : HansiCall) : Hansi :=
  if h.proc.conn_fd = false then h
  else
    match c.packet h.bktypes with
    | none => h
    | some p =>
      if c.jump then h.enqueue fifoJump p c.thread (.jumped p) else h.enqueue fifoPush p c.thread (.queued p)

/-! ## Writing -/

/-- What `write` returns: the number of octets it took, `0` standing for `EAGAIN` and its like, or an error. -/
inductive WriteResult
  | written (n : Nat)
  | failed
deriving DecidableEq, Repr

/-- `eag_hansi_task_write` of the task at place `i`, if it has its thread, at the time `tv`. The second result
is what was written. -/
def Hansi.taskWrite (h : Hansi) (i : Nat) (tv : Nat × Nat) (r : WriteResult) (thread : Bool) : Hansi × Bytes :=
  match h.proc.task_fifo[i]?, r with
  | none, _ => (h, [])
  | some task, r =>
    if task.t_write = false then (h, [])
    else
      match r with
      | .failed => (h.procStop, [])
      | .written n =>
        let out := ((task.packet.octets tv).drop task.writen).take n
        let writen := task.writen + out.length
        let whole := task.packet.pktlen ≤ writen
        let h := { h with proc := { h.proc with
          task_fifo := h.proc.task_fifo.set i { task with writen := writen, t_write := !decide whole } } }
        if whole ∧ h.backup then (h.fifoPop.taskStartWrite thread, out) else (h, out)

/-! ## Reading -/

/-- What `recv` returns: at most `n` octets, `0` standing for `EAGAIN` and its like, an error, or the end of the
stream. -/
inductive RecvResult
  | octets (n : Nat)
  | failed
  | shutdown
deriving DecidableEq, Repr

/-- A callback is given the type and the array `data` of the buffer and makes the calls `cb`; the first result
is `false` if there is none for the type. -/
def Hansi.getBackupData (h : Hansi) (cb : List HansiCall) : Bool × Hansi :=
  let type := UInt32.ofNat (getLong h.proc.readbuf 8)
  match (getBackupTypeById h.bktypes type).bind (h.bktypes[·]?) with
  | none => (false, h)
  | some bktype =>
    if bktype.get_backup_data = false then (false, h)
    else
      let data := charArray BACKUP_PACKET_SIZE (h.proc.readbuf.drop BACKUP_PACKET_HEADSIZE)
      (true, cb.foldl Hansi.submit { h with log := h.log ++ [.called type data] })

/-- `eag_hansi_do_ack_data`. -/
def Hansi.doAckData (h : Hansi) (cb : List HansiCall) (thread : Bool) : Bool × Hansi :=
  match h.getBackupData cb with
  | (false, h) => (false, h)
  | (true, h) => (true, (({ h with log := h.log ++ [.acked] } : Hansi).fifoPop).taskStartWrite thread)

/-- `eag_hansi_do_syn_data`. -/
def Hansi.doSynData (h : Hansi) (cb : List HansiCall) : Bool × Hansi := h.getBackupData cb

/-- The buffer is filled and, if it holds a packet, given to `doData` and thrown away. -/
def Hansi.received (h : Hansi) (octets : Bytes) (doData : Hansi → Bool × Hansi) : Hansi :=
  let h := { h with proc := { h.proc with readbuf := h.proc.readbuf ++ octets } }
  let buf := h.proc.readbuf
  let pktlen := getLong buf 12
  if BACKUP_PACKET_HEADSIZE ≤ buf.length ∧ pktlen ≤ buf.length then
    let (used, h) := doData h
    { h with
      proc := { h.proc with readbuf := [] }, log := h.log ++ [.thrown (if used then buf.drop pktlen else buf)] }
  else h

/-- How many octets `recv` takes from `stream`. -/
def Hansi.recvlen (h : Hansi) (stream : Bytes) (n : Nat) : Nat :=
  min n (min stream.length (BACKUP_PACKET_HEADSIZE + BACKUP_PACKET_SIZE - h.proc.readbuf.length))

/-- What `eag_hansi_read_on_master` and `eag_hansi_read_on_backup` have in common. Nothing is read once the
connection is down, and a `recv` into a full buffer returns `0`, which looks like the end of the stream. The
second result is what is left of the stream. -/
def Hansi.read (h : Hansi) (stream : Bytes) (r : RecvResult) (doData : Hansi → Bool × Hansi) : Hansi × Bytes :=
  if h.proc.conn_fd = false then (h, stream)
  else
    match r with
    | .failed => (h.procStop, stream)
    | .shutdown => (h.procStop, stream)
    | .octets n =>
      if BACKUP_PACKET_HEADSIZE + BACKUP_PACKET_SIZE ≤ h.proc.readbuf.length then (h.procStop, stream)
      else (h.received (stream.take (h.recvlen stream n)) doData, stream.drop (h.recvlen stream n))

/-- `eag_hansi_read_on_master`. -/
def Hansi.readOnMaster (h : Hansi) (stream : Bytes) (r : RecvResult) (cb : List HansiCall) (thread : Bool) :
    Hansi × Bytes :=
  h.read stream r fun h => h.doAckData cb thread

/-- `eag_hansi_read_on_backup`. -/
def Hansi.readOnBackup (h : Hansi) (stream : Bytes) (r : RecvResult) (cb : List HansiCall) : Hansi × Bytes :=
  h.read stream r fun h => h.doSynData cb

/-! ## The connection -/

/-- The two ends, and the octets on their way from the master and from the backup. -/
structure HansiLink where
  master : Hansi
  backup : Hansi
  down : Bytes := []
  up : Bytes := []
deriving DecidableEq, Repr

/-- A new connection between two instances that registered the backup types `cbs`. -/
def connected (cbs : List Bool) : HansiLink where
  master := { backup := false, bktypes := registerBackupTypes 0 cbs }
  backup := { backup := true, bktypes := registerBackupTypes 0 cbs }

inductive HansiOp
  | call (c : HansiCall)
  | masterWrite (i : Nat) (tv : Nat × Nat) (r : WriteResult) (thread : Bool)
  | masterRead (r : RecvResult) (cb : List HansiCall) (thread : Bool)
  | backupWrite (i : Nat) (tv : Nat × Nat) (r : WriteResult) (thread : Bool)
  | backupRead (r : RecvResult) (cb : List HansiCall)
deriving DecidableEq, Repr

def HansiOp.step (l : HansiLink) : HansiOp → HansiLink
  | .call c => { l with master := l.master.submit c }
  | .masterWrite i tv r thread =>
    let (h, out) := l.master.taskWrite i tv r thread
    { l with master := h, down := l.down ++ out }
  | .masterRead r cb thread =>
    let (h, up) := l.master.readOnMaster l.up r cb thread
    { l with master := h, up := up }
  | .backupWrite i tv r thread =>
    let (h, out) := l.backup.taskWrite i tv r thread
    { l with backup := h, up := l.up ++ out }
  | .backupRead r cb =>
    let (h, down) := l.backup.readOnBackup l.down r cb
    { l with backup := h, down := down }

/-- A callback on the backup makes one call, which queues an acknowledgement. -/
def HansiOp.AcksOnce (l : HansiLink) : HansiOp → Prop
  | .backupRead _ cb => ∃ c, cb = [c] ∧ c.jump = false ∧ (c.packet l.backup.bktypes).isSome
  | _ => True

/-! ## What the runs are about -/

/-- The sequence of packets to be sent, and how many of them were acknowledged: the next one is at the head. -/
structure HansiOrder where
  packets : List BackupData := []
  acked : Nat := 0
deriving DecidableEq, Repr

/-- A queued packet goes to the end of the sequence, a jumped one right after the head. -/
def HansiOrder.note (o : HansiOrder) : HansiLog → HansiOrder
  | .queued p => { o with packets := o.packets ++ [p] }
  | .jumped p =>
    { o with packets := o.packets.take (o.acked + 1) ++ p :: o.packets.drop (o.acked + 1) }
  | .acked => { o with acked := o.acked + 1 }
  | .called .. => o
  | .thrown _ => o

def HansiLink.order (l : HansiLink) : HansiOrder := l.master.log.foldl HansiOrder.note {}

/-- What a callback is given of a packet: its type and an array that starts with its data. -/
def BackupData.given (p : BackupData) : UInt32 × Bytes := (p.type, charArray BACKUP_PACKET_SIZE p.data)

def HansiLog.call? : HansiLog → Option (UInt32 × Bytes)
  | .called type data => some (type, data)
  | _ => none

def HansiLog.thrown? : HansiLog → Bytes
  | .thrown octets => octets
  | _ => []

/-- What the callbacks were given, in order. -/
def Hansi.calls (h : Hansi) : List (UInt32 × Bytes) := h.log.filterMap HansiLog.call?

/-- The octets that were thrown away unused. -/
def Hansi.discarded (h : Hansi) : Bytes := h.log.flatMap HansiLog.thrown?

/-- The packets in the fifo that are being written or were written. -/
def Hansi.outstanding (h : Hansi) : List HansiTask :=
  h.proc.task_fifo.filter fun task => task.t_write || decide (0 < task.writen)

end Eag
end DaemonGroup
