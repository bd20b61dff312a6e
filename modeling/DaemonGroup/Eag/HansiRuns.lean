import DaemonGroup.Eag.Hansi
import Mathlib.Algebra.Order.Ring.Nat
import Mathlib.Data.List.Basic

/-!
# DaemonGroup.Eag.HansiRuns

The backup channel is stop-and-wait: the octets between the two ends are those of the packet at the head of the
master's fifo, or of the acknowledgement of it. So the packet buffer of either end holds no more than one packet
when it is thrown away, and the callbacks of the backup see the packets in the order of the fifo.

`Waiting` and `Acking` are the two halves of the exchange of one packet; either end may have stopped.
-/

namespace DaemonGroup
namespace Eag

open Pppoe (Bytes getLong putLong charArray getChar)
open Lib

namespace HansiLink

/-! ## The octets of a packet -/

/-- The octets `s` are the first `w` of the packet `p`, but for the time stamp, which may have changed from one
`write` to the next. -/
structure Image (p : BackupData) (w : Nat) (s : Bytes) : Prop where
  length : s.length = w
  octet : ∀ i, 8 ≤ i → i < w → s[i]? = (p.octets (0, 0))[i]?

theorem length_octets {p : BackupData} {tv : Nat × Nat} : (p.octets tv).length = p.pktlen := by
  simp [BackupData.octets, BackupData.pktlen, putLong, BACKUP_PACKET_HEADSIZE]

theorem octets_stamp {p : BackupData} {tv : Nat × Nat} {i : Nat} (hi : 8 ≤ i) :
    (p.octets tv)[i]? = (p.octets (0, 0))[i]? := by
  have hlen : ∀ tv : Nat × Nat, (putLong tv.1 ++ putLong tv.2).length ≤ i := fun _ => by simpa [putLong] using hi
  simp only [BackupData.octets, List.append_assoc]
  rw [← List.append_assoc (putLong tv.1), ← List.append_assoc (putLong 0),
    List.getElem?_append_right (hlen tv), List.getElem?_append_right (hlen (0, 0))]
  simp [putLong]

theorem image_nil {p : BackupData} : Image p 0 [] := ⟨rfl, fun _ _ h => absurd h (by omega)⟩

theorem Image.write {p : BackupData} {w n : Nat} {s : Bytes} (h : Image p w s) (tv : Nat × Nat) :
    Image p (w + (((p.octets tv).drop w).take n).length) (s ++ ((p.octets tv).drop w).take n) := by
  refine ⟨by simp [h.length], fun i h8 hi => ?_⟩
  by_cases hw : i < w
  · rw [List.getElem?_append_left (by rw [h.length]; exact hw)]
    exact h.octet i h8 hw
  · have hin : i - w < n := by
      have := hi
      simp only [List.length_take] at this
      omega
    rw [List.getElem?_append_right (by rw [h.length]; omega), h.length, List.getElem?_take_of_lt hin,
      List.getElem?_drop, show w + (i - w) = i by omega]
    exact octets_stamp h8

/-- The numbers of the head are read back. -/
theorem getLong_putLong {l r : Bytes} {k : Nat} (hk : k < 2 ^ 32) : getLong (l ++ (putLong k ++ r)) l.length = k := by
  have hget : ∀ j, (l ++ (putLong k ++ r)).getD (l.length + j) 0 = (putLong k ++ r).getD j 0 := by
    intro j
    rw [List.getD_eq_getElem?_getD, List.getElem?_append_right (by omega), Nat.add_sub_cancel_left,
      List.getD_eq_getElem?_getD]
  have h0 := hget 0
  rw [Nat.add_zero] at h0
  simp only [getLong, getChar, h0, hget]
  simp [putLong]
  omega

theorem Image.long {p : BackupData} {w k : Nat} {s : Bytes} (h : Image p w s) (hk : 8 ≤ k) (hw : k + 4 ≤ w) :
    getLong s k = getLong (p.octets (0, 0)) k := by
  have hget : ∀ j, k ≤ j → j < k + 4 → s.getD j 0 = (p.octets (0, 0)).getD j 0 := by
    intro j hj hj4
    rw [List.getD_eq_getElem?_getD, List.getD_eq_getElem?_getD, h.octet j (by omega) (by omega)]
  simp only [getLong, getChar, hget k (by omega) (by omega), hget (k + 1) (by omega) (by omega),
    hget (k + 2) (by omega) (by omega), hget (k + 3) (by omega) (by omega)]

/-- A packet that can be queued: its type is known and its data fit. -/
structure Good (bktypes : List BackupType) (p : BackupData) : Prop where
  known : ∃ i t, getBackupTypeById bktypes p.type = some i ∧ bktypes[i]? = some t ∧ t.get_backup_data = true
  pos : 0 < p.data.length
  fits : p.data.length ≤ BACKUP_PACKET_SIZE

theorem Image.pktlen {T : List BackupType} {p : BackupData} {w : Nat} {s : Bytes} (h : Image p w s) (hg : Good T p)
    (hw : BACKUP_PACKET_HEADSIZE ≤ w) : getLong s 12 = p.pktlen := by
  have hlt : p.pktlen < 2 ^ 32 := by
    have := hg.fits
    simp only [BackupData.pktlen, BACKUP_PACKET_SIZE, BACKUP_PACKET_HEADSIZE] at this ⊢
    omega
  have hsplit : p.octets (0, 0) =
      (putLong 0 ++ putLong 0 ++ putLong p.type.toNat) ++ (putLong p.pktlen ++ p.data) := by
    simp [BackupData.octets]
  rw [h.long (by omega) (by simpa [BACKUP_PACKET_HEADSIZE] using hw), hsplit]
  exact getLong_putLong (l := putLong 0 ++ putLong 0 ++ putLong p.type.toNat) hlt

theorem Image.type {p : BackupData} {w : Nat} {s : Bytes} (h : Image p w s) (hw : BACKUP_PACKET_HEADSIZE ≤ w) :
    UInt32.ofNat (getLong s 8) = p.type := by
  have hsplit : p.octets (0, 0) =
      (putLong 0 ++ putLong 0) ++ (putLong p.type.toNat ++ (putLong p.pktlen ++ p.data)) := by
    simp [BackupData.octets]
  have hlong : getLong (p.octets (0, 0)) 8 = p.type.toNat := by
    rw [hsplit]
    exact getLong_putLong (l := putLong 0 ++ putLong 0) p.type.toNat_lt
  have hfits : 8 + 4 ≤ w := by
    simp only [BACKUP_PACKET_HEADSIZE] at hw
    omega
  rw [h.long (by omega) hfits, hlong, UInt32.ofNat_toNat]

theorem Image.data {p : BackupData} {s : Bytes} (h : Image p p.pktlen s) : s.drop BACKUP_PACKET_HEADSIZE = p.data := by
  have hlen : s.length = p.pktlen := h.length
  apply List.ext_getElem?
  intro i
  rw [List.getElem?_drop]
  by_cases hi : i < p.data.length
  · rw [h.octet _ (by simp [BACKUP_PACKET_HEADSIZE]; omega) (by simp [BackupData.pktlen]; omega)]
    have hsplit : p.octets (0, 0) =
        (putLong 0 ++ putLong 0 ++ putLong p.type.toNat ++ putLong p.pktlen) ++ p.data := by
      simp [BackupData.octets]
    rw [hsplit, List.getElem?_append_right (by simp [putLong, BACKUP_PACKET_HEADSIZE])]
    simp [putLong, BACKUP_PACKET_HEADSIZE]
  · have hout : s.length ≤ BACKUP_PACKET_HEADSIZE + i := by
      rw [hlen]
      simp only [BackupData.pktlen]
      omega
    rw [List.getElem?_eq_none hout, List.getElem?_eq_none (by omega)]

/-! ## The sequence of packets -/

/-- What a queued or jumped packet does to the sequence: nothing up to the head changes. -/
structure Placed (o o' : HansiOrder) (p : BackupData) : Prop where
  acked : o'.acked = o.acked
  length : o'.packets.length = o.packets.length + 1
  take : ∀ k, k ≤ o.acked + 1 → k ≤ o.packets.length → o'.packets.take k = o.packets.take k
  mem : ∀ q ∈ o'.packets, q ∈ o.packets ∨ q = p

section
variable {o : HansiOrder} {p : BackupData} {fifo : List HansiTask}

theorem placed_queued : Placed o (o.note (.queued p)) p where
  acked := rfl
  length := by simp [HansiOrder.note]
  take k _ hk := by simp [HansiOrder.note, List.take_append_of_le_length hk]
  mem q hq := by simpa [HansiOrder.note] using hq

theorem placed_jumped : Placed o (o.note (.jumped p)) p where
  acked := rfl
  length := by
    simp only [HansiOrder.note, List.length_append, List.length_take, List.length_cons, List.length_drop]
    omega
  take k hk hl := by
    have hlen : k ≤ (o.packets.take (o.acked + 1)).length := by
      rw [List.length_take]
      omega
    simp only [HansiOrder.note]
    rw [List.take_append_of_le_length hlen, List.take_take, Nat.min_eq_left hk]
  mem q hq := by
    simp only [HansiOrder.note, List.mem_append, List.mem_cons] at hq
    obtain hq | rfl | hq := hq
    · exact .inl (List.mem_of_mem_take hq)
    · exact .inr rfl
    · exact .inl (List.mem_of_mem_drop hq)

theorem drop_queued (hle : o.acked ≤ o.packets.length) (hf : o.packets.drop o.acked = fifo.map (·.packet)) :
    (o.note (.queued p)).packets.drop o.acked = (fifoPush fifo { packet := p }).map (·.packet) := by
  simp [HansiOrder.note, fifoPush, List.drop_append_of_le_length hle, hf]

theorem drop_jumped (hle : o.acked ≤ o.packets.length) (hf : o.packets.drop o.acked = fifo.map (·.packet)) :
    (o.note (.jumped p)).packets.drop o.acked = (fifoJump fifo { packet := p }).map (·.packet) := by
  simp only [HansiOrder.note]
  cases fifo with
  | nil =>
    have hlen : o.packets.length ≤ o.acked := List.drop_eq_nil_iff.mp hf
    rw [List.take_of_length_le (by omega), List.drop_of_length_le (i := o.acked + 1) (by omega),
      List.drop_append_of_le_length hle, hf]
    rfl
  | cons first rest =>
    have hrest : o.packets.drop (o.acked + 1) = rest.map (·.packet) := by
      rw [← List.tail_drop, hf]
      rfl
    have hlt : o.acked < o.packets.length := by
      have := congrArg List.length hf
      simp at this
      omega
    have hhead : (o.packets.take (o.acked + 1)).drop o.acked = [first.packet] := by
      rw [List.drop_take, hf]
      simp
    rw [List.drop_append_of_le_length (by simp; omega), hhead, hrest]
    rfl

end

/-- A call that makes a task makes one of a packet that the backup knows. -/
theorem packet_good {T : List BackupType} {c : HansiCall} {p : BackupData}
    (hcb : ∀ t ∈ T, t.get_backup_data = true) (h : c.packet T = some p) : Good T p := by
  unfold HansiCall.packet at h
  split at h
  · cases h
  · rename_i bktype hb
    repeat' split at h
    all_goals try cases h
    rename_i hpos hfits hid _
    exact ⟨⟨c.bktype, bktype, not_not.mp hid, hb, hcb bktype (List.mem_of_getElem? hb)⟩, by simp; omega, by simp; omega⟩

/-! ## The exchange of one packet -/

/-- The packets before the head were given to the callbacks, and the first `w` octets of the packet `p` at the
head were written. -/
structure Waiting (l : HansiLink) (p : BackupData) (w : Nat) : Prop where
  calls : l.backup.calls = (l.order.packets.take l.order.acked).map BackupData.given
  idle : l.backup.proc.task_fifo = []
  up : l.master.proc.conn_fd = true → l.master.proc.readbuf ++ l.up = []
  down : l.backup.proc.conn_fd = true → Image p w (l.backup.proc.readbuf ++ l.down)
  le : w ≤ p.pktlen
  next : 0 < w → l.order.packets[l.order.acked]? = some p
  head : l.master.proc.conn_fd = true → l.master.proc.task_fifo = [] ∧ w = 0 ∨
    ∃ rest, l.master.proc.task_fifo = { packet := p, writen := w, t_write := decide (w < p.pktlen) } :: rest

/-- The packet at the head was given to the callbacks too, and the first `w` octets of its acknowledgement `p`
were written. -/
structure Acking (T : List BackupType) (l : HansiLink) (p : BackupData) (w : Nat) : Prop where
  calls : l.backup.calls = (l.order.packets.take (l.order.acked + 1)).map BackupData.given
  lt : l.order.acked < l.order.packets.length
  down : l.backup.proc.conn_fd = true → l.backup.proc.readbuf ++ l.down = []
  up : l.master.proc.conn_fd = true → Image p w (l.master.proc.readbuf ++ l.up)
  good : Good T p
  le : w ≤ p.pktlen
  task : l.backup.proc.conn_fd = true → l.backup.proc.task_fifo = [] ∧ w = p.pktlen ∨
    l.backup.proc.task_fifo = [{ packet := p, writen := w, t_write := true }] ∧ w < p.pktlen
  stopped : l.backup.proc.conn_fd = false → l.backup.proc.task_fifo = []
  head : l.master.proc.conn_fd = true → ∃ first rest, l.master.proc.task_fifo = first :: rest ∧ first.t_write = false

/-- What holds in both halves: the fifo of the master is what is left of the sequence, and no packet but the
first is being written. -/
structure Kept (T : List BackupType) (l : HansiLink) : Prop where
  masterTypes : l.master.bktypes = T
  backupTypes : l.backup.bktypes = T
  master : l.master.backup = false
  backup : l.backup.backup = true
  acked : l.order.acked ≤ l.order.packets.length
  good : ∀ p ∈ l.order.packets, Good T p
  fifo : l.master.proc.conn_fd = true →
    l.order.packets.drop l.order.acked = l.master.proc.task_fifo.map (·.packet)
  later : ∀ task ∈ l.master.proc.task_fifo.tail, task.writen = 0 ∧ task.t_write = false
  stopped : l.master.proc.conn_fd = false → l.master.proc.task_fifo = []
  masterClean : l.master.discarded = []
  backupClean : l.backup.discarded = []

def Sound (T : List BackupType) (l : HansiLink) : Prop := Kept T l ∧ ∃ p w, Waiting l p w ∨ Acking T l p w

section
variable {T : List BackupType} {l : HansiLink} {p : BackupData} {w : Nat}

theorem Kept.next (h : Kept T l) (hc : l.master.proc.conn_fd = true) {first : HansiTask} {rest : List HansiTask}
    (hf : l.master.proc.task_fifo = first :: rest) : l.order.packets[l.order.acked]? = some first.packet := by
  have hdrop := h.fifo hc
  rw [hf] at hdrop
  have := congrArg (·[0]?) hdrop
  simpa [List.getElem?_drop] using this

/-- Either end may stop at any time. -/
theorem Sound.masterStop (h : Sound T l) : Sound T { l with master := l.master.procStop } := by
  obtain ⟨h, p, w, hp⟩ := h
  refine ⟨⟨h.masterTypes, h.backupTypes, h.master, h.backup, h.acked, h.good, nofun, by simp [Hansi.procStop],
    fun _ => rfl, h.masterClean, h.backupClean⟩, p, w, ?_⟩
  obtain hp | hp := hp
  · exact .inl ⟨hp.calls, hp.idle, nofun, hp.down, hp.le, hp.next, nofun⟩
  · exact .inr ⟨hp.calls, hp.lt, hp.down, nofun, hp.good, hp.le, hp.task, hp.stopped, nofun⟩

theorem Sound.backupStop (h : Sound T l) : Sound T { l with backup := l.backup.procStop } := by
  obtain ⟨h, p, w, hp⟩ := h
  refine ⟨⟨h.masterTypes, h.backupTypes, h.master, h.backup, h.acked, h.good, h.fifo, h.later,
    h.stopped, h.masterClean, h.backupClean⟩, p, w, ?_⟩
  obtain hp | hp := hp
  · exact .inl ⟨hp.calls, rfl, hp.up, nofun, hp.le, hp.next, hp.head⟩
  · exact .inr ⟨hp.calls, hp.lt, nofun, hp.up, hp.good, hp.le, nofun, fun _ => rfl, hp.head⟩

end

/-! ## Queueing -/

/-- The master's fifo becomes `fifo`, which the log tells. -/
def enqueued (l : HansiLink) (fifo : List HansiTask) (note : HansiLog) : HansiLink :=
  { l with master := { l.master with
    proc := { l.master.proc with task_fifo := fifo }, log := l.master.log ++ [note] } }

/-- The packet `q` is placed: it is written at once if the fifo was empty, and the first task stays where it is if
it was not. -/
structure Enqueues (l : HansiLink) (fifo : List HansiTask) (note : HansiLog) (q : BackupData) : Prop where
  placed : Placed l.order (l.order.note note) q
  conn : l.master.proc.conn_fd = true
  kept : note.thrown? = []
  left : (l.order.note note).packets.drop l.order.acked = fifo.map (·.packet)
  later : ∀ task ∈ fifo.tail, task.writen = 0 ∧ task.t_write = false
  first : (l.master.proc.task_fifo = [] ∧ fifo = [{ packet := q, t_write := true }]) ∨
    ∃ first rest rest', l.master.proc.task_fifo = first :: rest ∧ fifo = first :: rest'

section
variable {T : List BackupType} {l : HansiLink} {p q : BackupData} {w : Nat} {fifo : List HansiTask}
  {note : HansiLog}

theorem order_enqueued : (l.enqueued fifo note).order = l.order.note note := by
  simp [order, enqueued, List.foldl_append]

theorem Enqueues.acked (he : Enqueues l fifo note q) : (l.enqueued fifo note).order.acked = l.order.acked := by
  rw [order_enqueued, he.placed.acked]

theorem Enqueues.take (he : Enqueues l fifo note q) {k : Nat} (hk : k ≤ l.order.acked + 1)
    (hl : k ≤ l.order.packets.length) : (l.enqueued fifo note).order.packets.take k = l.order.packets.take k := by
  rw [order_enqueued]
  exact he.placed.take k hk hl

theorem Kept.enqueued (h : Kept T l) (he : Enqueues l fifo note q) (hq : Good T q) :
    Kept T (l.enqueued fifo note) where
  masterTypes := h.masterTypes
  backupTypes := h.backupTypes
  master := h.master
  backup := h.backup
  acked := by
    have := h.acked
    rw [he.acked, order_enqueued, he.placed.length]
    omega
  good := by
    intro r hr
    rw [order_enqueued] at hr
    obtain hr | rfl := he.placed.mem r hr
    · exact h.good r hr
    · exact hq
  fifo _ := by
    rw [he.acked, order_enqueued]
    exact he.left
  later := he.later
  stopped hno := absurd (he.conn.symm.trans hno) (by simp)
  masterClean := by
    have hclean := h.masterClean
    unfold Hansi.discarded at hclean
    simp [HansiLink.enqueued, Hansi.discarded, he.kept, hclean]
  backupClean := h.backupClean

theorem Waiting.enqueued (hp : Waiting l p w) (h : Kept T l) (he : Enqueues l fifo note q) (hq : Good T q) :
    ∃ p w, Waiting (l.enqueued fifo note) p w := by
  have hcalls : (l.enqueued fifo note).backup.calls =
      ((l.enqueued fifo note).order.packets.take (l.enqueued fifo note).order.acked).map BackupData.given := by
    rw [he.acked, he.take (by omega) h.acked]
    exact hp.calls
  obtain ⟨hnil, rfl⟩ | ⟨first, rest, rest', hold, rfl⟩ := he.first
  · -- The packet is the next one, and nothing of it is written yet.
    obtain ⟨-, rfl⟩ | ⟨rest, hcons⟩ := hp.head he.conn
    · have hpos : 0 < q.pktlen := by
        have := hq.pos
        simp only [BackupData.pktlen]
        omega
      refine ⟨q, 0, hcalls, hp.idle, hp.up, fun hb => ?_, Nat.zero_le _, by simp, fun _ => .inr ⟨[], ?_⟩⟩
      · have hempty := (hp.down hb).length
        rw [List.length_eq_zero_iff] at hempty
        show Image q 0 (l.backup.proc.readbuf ++ l.down)
        rw [hempty]
        exact image_nil
      · simp [HansiLink.enqueued, hpos]
    · rw [hnil] at hcons
      cases hcons
  · obtain ⟨hnil, -⟩ | ⟨rest'', hcons⟩ := hp.head he.conn
    · rw [hnil] at hold
      cases hold
    · rw [hold] at hcons
      cases hcons
      refine ⟨p, w, hcalls, hp.idle, hp.up, hp.down, hp.le, fun _ => ?_, fun _ => .inr ⟨rest', rfl⟩⟩
      exact (h.enqueued he hq).next he.conn rfl

theorem Acking.enqueued (hp : Acking T l p w) (he : Enqueues l fifo note q) :
    Acking T (l.enqueued fifo note) p w := by
  have hlt := hp.lt
  refine ⟨?_, ?_, hp.down, hp.up, hp.good, hp.le, hp.task, hp.stopped, fun _ => ?_⟩
  · rw [he.acked, he.take (by omega) (by omega)]
    exact hp.calls
  · rw [he.acked, order_enqueued, he.placed.length]
    omega
  · obtain ⟨first, rest, hcons, hidle⟩ := hp.head he.conn
    obtain ⟨hnil, -⟩ | ⟨first, rest, rest', hold, rfl⟩ := he.first
    · rw [hnil] at hcons
      cases hcons
    · rw [hold] at hcons
      cases hcons
      exact ⟨first, rest', rfl, hidle⟩

/-- What a call on the master comes to: nothing, a packet placed, or a packet that could not be written, for which
the connection is given up. -/
theorem submit_cases (h : Kept T l) (hcb : ∀ t ∈ T, t.get_backup_data = true) (c : HansiCall) :
    l.master.submit c = l.master ∨
    ∃ fifo note q, Enqueues l fifo note q ∧ Good T q ∧
      ({ l with master := l.master.submit c } = l.enqueued fifo note ∨
        l.master.proc.task_fifo = [] ∧
          { l with master := l.master.submit c } =
            { l.enqueued fifo note with master := (l.enqueued fifo note).master.procStop }) := by
  unfold Hansi.submit
  split
  · exact .inl rfl
  · rename_i hconn
    have hconn : l.master.proc.conn_fd = true := by simpa using hconn
    split
    · exact .inl rfl
    · rename_i q hq
      rw [h.masterTypes] at hq
      have hgood := packet_good hcb hq
      have hdrop := h.fifo hconn
      right
      cases hfifo : l.master.proc.task_fifo with
      | nil =>
        rw [hfifo] at hdrop
        have hone : ∀ task ∈ ([{ packet := q, t_write := true }] : List HansiTask).tail,
            task.writen = 0 ∧ task.t_write = false := by simp
        split
        · refine ⟨[{ packet := q, t_write := true }], .jumped q, q,
            ⟨placed_jumped, hconn, rfl, drop_jumped h.acked hdrop, hone, .inl ⟨hfifo, rfl⟩⟩, hgood, ?_⟩
          cases ht : c.thread <;>
            simp [Hansi.enqueue, hfifo, fifoJump, Hansi.taskStartWrite, hconn, enqueued, Hansi.procStop]
        · refine ⟨[{ packet := q, t_write := true }], .queued q, q,
            ⟨placed_queued, hconn, rfl, drop_queued h.acked hdrop, hone, .inl ⟨hfifo, rfl⟩⟩, hgood, ?_⟩
          cases ht : c.thread <;>
            simp [Hansi.enqueue, hfifo, fifoPush, Hansi.taskStartWrite, hconn, enqueued, Hansi.procStop]
      | cons first rest =>
        rw [hfifo] at hdrop
        have hlater := h.later
        rw [hfifo] at hlater
        split
        · refine ⟨fifoJump (first :: rest) { packet := q }, .jumped q, q, ⟨placed_jumped, hconn, rfl,
            drop_jumped h.acked hdrop, ?_, .inr ⟨first, rest, _, hfifo, rfl⟩⟩, hgood, .inl ?_⟩
          · intro task ht
            obtain rfl | ht := List.mem_cons.mp ht
            · exact ⟨rfl, rfl⟩
            · exact hlater task ht
          · simp [Hansi.enqueue, hfifo, enqueued]
        · refine ⟨fifoPush (first :: rest) { packet := q }, .queued q, q, ⟨placed_queued, hconn, rfl,
            drop_queued h.acked hdrop, ?_, .inr ⟨first, rest, _, hfifo, rfl⟩⟩, hgood, .inl ?_⟩
          · intro task ht
            obtain ht | ht := List.mem_append.mp ht
            · exact hlater task ht
            · obtain rfl := List.mem_singleton.mp ht
              exact ⟨rfl, rfl⟩
          · simp [Hansi.enqueue, hfifo, enqueued]

theorem Sound.submit (h : Sound T l) (hcb : ∀ t ∈ T, t.get_backup_data = true) (c : HansiCall) :
    Sound T { l with master := l.master.submit c } := by
  obtain ⟨hk, p, w, hp⟩ := h
  obtain hsame | ⟨fifo, note, q, he, hq, heq⟩ := submit_cases hk hcb c
  · rw [hsame]
    exact ⟨hk, p, w, hp⟩
  · have henq : Sound T (l.enqueued fifo note) := by
      refine ⟨hk.enqueued he hq, ?_⟩
      obtain hp | hp := hp
      · obtain ⟨p, w, hp⟩ := hp.enqueued hk he hq
        exact ⟨p, w, .inl hp⟩
      · exact ⟨p, w, .inr (hp.enqueued he)⟩
    obtain heq | ⟨-, heq⟩ := heq
    · rw [heq]
      exact henq
    · rw [heq]
      exact henq.masterStop

/-- A callback on the master finds the packet that is acknowledged at the head. -/
theorem Acking.submit (hp : Acking T l p w) (h : Kept T l) (hcb : ∀ t ∈ T, t.get_backup_data = true)
    (hc : l.master.proc.conn_fd = true) (c : HansiCall) :
    Kept T { l with master := l.master.submit c } ∧ Acking T { l with master := l.master.submit c } p w ∧
      (l.master.submit c).proc.conn_fd = true ∧
      (l.master.submit c).proc.readbuf = l.master.proc.readbuf := by
  obtain hsame | ⟨fifo, note, q, he, hq, heq⟩ := submit_cases h hcb c
  · rw [hsame]
    exact ⟨h, hp, hc, rfl⟩
  · obtain heq | ⟨hnil, -⟩ := heq
    · have hmaster := congrArg HansiLink.master heq
      rw [heq]
      refine ⟨h.enqueued he hq, hp.enqueued he, ?_, ?_⟩
      · rw [show l.master.submit c = _ from hmaster]
        exact hc
      · rw [show l.master.submit c = _ from hmaster]
        rfl
    · obtain ⟨first, rest, hcons, -⟩ := hp.head hc
      rw [hnil] at hcons
      cases hcons

/-! ## Writing -/

section
variable {T : List BackupType} {l : HansiLink} {p : BackupData} {w : Nat}

theorem taskWrite_idle {h : Hansi} {i : Nat} {tv : Nat × Nat} {r : WriteResult} {thread : Bool}
    (hidle : ∀ task, h.proc.task_fifo[i]? = some task → task.t_write = false) :
    h.taskWrite i tv r thread = (h, []) := by
  unfold Hansi.taskWrite
  split
  · rfl
  · rename_i task hi
    rw [if_pos (hidle task hi)]

theorem length_written {n : Nat} {tv : Nat × Nat} (hw : w ≤ p.pktlen) :
    w + (((p.octets tv).drop w).take n).length ≤ p.pktlen := by
  rw [List.length_take, List.length_drop, length_octets]
  omega

theorem Sound.masterWrite (h : Sound T l) (i : Nat) (tv : Nat × Nat) (r : WriteResult) (thread : Bool) :
    Sound T (HansiOp.step l (.masterWrite i tv r thread)) := by
  have hnothing : (∀ task, l.master.proc.task_fifo[i]? = some task → task.t_write = false) →
      Sound T (HansiOp.step l (.masterWrite i tv r thread)) := by
    intro hidle
    simp only [HansiOp.step, taskWrite_idle hidle, List.append_nil]
    exact h
  obtain ⟨hk, p, w, hp⟩ := h
  cases hc : l.master.proc.conn_fd with
  | false =>
    apply hnothing
    rw [hk.stopped hc]
    simp
  | true =>
    obtain hp | hp := hp
    · obtain ⟨hnil, -⟩ | ⟨rest, hcons⟩ := hp.head hc
      · apply hnothing
        rw [hnil]
        simp
      · have hlater := hk.later
        rw [hcons] at hlater
        cases i with
        | succ i =>
          apply hnothing
          intro task ht
          rw [hcons, List.getElem?_cons_succ] at ht
          exact (hlater task (List.mem_of_getElem? ht)).2
        | zero =>
          by_cases hlt : w < p.pktlen
          · cases r with
            | failed =>
              have hstep : HansiOp.step l (.masterWrite 0 tv .failed thread) =
                  { l with master := l.master.procStop } := by
                simp [HansiOp.step, Hansi.taskWrite, hcons, hlt]
              rw [hstep]
              exact Sound.masterStop ⟨hk, p, w, .inl hp⟩
            | written n =>
              -- The master keeps the task until it is acknowledged.
              obtain ⟨out, hout⟩ : ∃ out, out = ((p.octets tv).drop w).take n := ⟨_, rfl⟩
              have hle : w + out.length ≤ p.pktlen := hout ▸ length_written hp.le
              have hdone : ∀ k : Nat, (!decide (p.pktlen ≤ k)) = decide (k < p.pktlen) := by
                intro k
                simp only [← Nat.not_le, decide_not]
              have hstep : HansiOp.step l (.masterWrite 0 tv (.written n) thread) =
                  { l with
                    master := { l.master with proc := { l.master.proc with
                      task_fifo := { packet := p, writen := w + out.length,
                                     t_write := decide (w + out.length < p.pktlen) } :: rest } },
                    down := l.down ++ out } := by
                simp [HansiOp.step, Hansi.taskWrite, hcons, hlt, hk.master, hdone, hout]
              rw [hstep]
              refine ⟨⟨hk.masterTypes, hk.backupTypes, hk.master, hk.backup, hk.acked, hk.good, fun _ => ?_, hlater,
                fun hno => absurd (hc.symm.trans hno) (by simp), hk.masterClean, hk.backupClean⟩,
                p, w + out.length, .inl ⟨hp.calls, hp.idle, hp.up, fun hb => ?_, hle, fun _ => hk.next hc hcons,
                  fun _ => .inr ⟨rest, rfl⟩⟩⟩
              · have := hk.fifo hc
                rw [hcons] at this
                exact this
              · have := (hp.down hb).write (n := n) tv
                rwa [List.append_assoc, ← hout] at this
          · apply hnothing
            intro task ht
            rw [hcons] at ht
            cases ht
            simpa using hlt
    · obtain ⟨first, rest, hcons, hidle⟩ := hp.head hc
      have hlater := hk.later
      rw [hcons] at hlater
      apply hnothing
      intro task ht
      rw [hcons] at ht
      cases i with
      | zero =>
        cases ht
        exact hidle
      | succ i =>
        rw [List.getElem?_cons_succ] at ht
        exact (hlater task (List.mem_of_getElem? ht)).2

theorem Sound.backupWrite (h : Sound T l) (i : Nat) (tv : Nat × Nat) (r : WriteResult) (thread : Bool) :
    Sound T (HansiOp.step l (.backupWrite i tv r thread)) := by
  have hnothing : l.backup.proc.task_fifo[i]? = none →
      Sound T (HansiOp.step l (.backupWrite i tv r thread)) := by
    intro hnone
    have hidle : ∀ task, l.backup.proc.task_fifo[i]? = some task → task.t_write = false := by
      rw [hnone]
      simp
    simp only [HansiOp.step, taskWrite_idle hidle, List.append_nil]
    exact h
  obtain ⟨hk, p, w, hp⟩ := h
  obtain hp | hp := hp
  · apply hnothing
    rw [hp.idle]
    rfl
  · cases hb : l.backup.proc.conn_fd with
    | false =>
      apply hnothing
      rw [hp.stopped hb]
      rfl
    | true =>
      obtain ⟨hnil, -⟩ | ⟨hone, hlt⟩ := hp.task hb
      · apply hnothing
        rw [hnil]
        rfl
      · cases i with
        | succ i =>
          apply hnothing
          rw [hone]
          rfl
        | zero =>
          cases r with
          | failed =>
            have hstep : HansiOp.step l (.backupWrite 0 tv .failed thread) =
                { l with backup := l.backup.procStop } := by
              simp [HansiOp.step, Hansi.taskWrite, hone]
            rw [hstep]
            exact Sound.backupStop ⟨hk, p, w, .inr hp⟩
          | written n =>
            obtain ⟨out, hout⟩ : ∃ out, out = ((p.octets tv).drop w).take n := ⟨_, rfl⟩
            have hle : w + out.length ≤ p.pktlen := hout ▸ length_written (Nat.le_of_lt hlt)
            have himage : l.master.proc.conn_fd = true →
                Image p (w + out.length) (l.master.proc.readbuf ++ (l.up ++ out)) := by
              intro hc
              have := (hp.up hc).write (n := n) tv
              rwa [List.append_assoc, ← hout] at this
            by_cases hwhole : p.pktlen ≤ w + out.length
            · have hstep : HansiOp.step l (.backupWrite 0 tv (.written n) thread) =
                  { l with
                    backup := { l.backup with proc := { l.backup.proc with task_fifo := [] } },
                    up := l.up ++ out } := by
                simp [HansiOp.step, Hansi.taskWrite, hone, hk.backup, Hansi.fifoPop, Hansi.taskStartWrite, ← hout,
                  hwhole]
              rw [hstep]
              exact ⟨⟨hk.masterTypes, hk.backupTypes, hk.master, hk.backup, hk.acked, hk.good, hk.fifo, hk.later,
                hk.stopped, hk.masterClean, hk.backupClean⟩, p, _, .inr ⟨hp.calls, hp.lt, hp.down, himage, hp.good, hle,
                fun _ => .inl ⟨rfl, Nat.le_antisymm hle hwhole⟩, fun _ => rfl, hp.head⟩⟩
            · have hstep : HansiOp.step l (.backupWrite 0 tv (.written n) thread) =
                  { l with
                    backup := { l.backup with proc := { l.backup.proc with
                      task_fifo := [{ packet := p, writen := w + out.length, t_write := true }] } },
                    up := l.up ++ out } := by
                simp [HansiOp.step, Hansi.taskWrite, hone, ← hout, hwhole]
              rw [hstep]
              exact ⟨⟨hk.masterTypes, hk.backupTypes, hk.master, hk.backup, hk.acked, hk.good, hk.fifo, hk.later,
                hk.stopped, hk.masterClean, hk.backupClean⟩, p, _, .inr ⟨hp.calls, hp.lt, hp.down, himage, hp.good, hle,
                fun _ => .inr ⟨rfl, by omega⟩, fun hno => absurd (hb.symm.trans hno) (by simp), hp.head⟩⟩

/-! ## Reading -/

theorem getLong_append {l r : Bytes} {i : Nat} (hi : i + 4 ≤ l.length) : getLong (l ++ r) i = getLong l i := by
  have hget : ∀ j, j < l.length → (l ++ r).getD j 0 = l.getD j 0 := by
    intro j hj
    rw [List.getD_eq_getElem?_getD, List.getD_eq_getElem?_getD, List.getElem?_append_left hj]
  simp only [getLong, getChar, hget i (by omega), hget (i + 1) (by omega), hget (i + 2) (by omega),
    hget (i + 3) (by omega)]

/-- A buffer that holds a packet according to its head holds all that was written. -/
theorem Image.complete {T : List BackupType} {p : BackupData} {w : Nat} {buf stream : Bytes}
    (h : Image p w (buf ++ stream)) (hg : Good T p) (hle : w ≤ p.pktlen)
    (hhead : BACKUP_PACKET_HEADSIZE ≤ buf.length) (hfull : getLong buf 12 ≤ buf.length) :
    getLong buf 12 = p.pktlen ∧ stream = [] ∧ w = p.pktlen ∧ Image p p.pktlen buf := by
  have hlen := h.length
  rw [List.length_append] at hlen
  have hpktlen : getLong buf 12 = p.pktlen := by
    rw [← getLong_append (r := stream) (by simpa [BACKUP_PACKET_HEADSIZE] using hhead)]
    exact h.pktlen hg (by omega)
  have hstream : stream = [] := List.length_eq_zero_iff.mp (by omega)
  have hw : w = p.pktlen := by omega
  subst hstream hw
  rw [List.append_nil] at h
  exact ⟨hpktlen, rfl, rfl, h⟩

/-- The packet in the buffer is given to the callback of its type. -/
theorem getBackupData_eq {T : List BackupType} {h : Hansi} {p : BackupData} (hT : h.bktypes = T) (hg : Good T p)
    (himage : Image p p.pktlen h.proc.readbuf) (cb : List HansiCall) :
    h.getBackupData cb =
      (true, cb.foldl Hansi.submit { h with log := h.log ++ [.called p.given.1 p.given.2] }) := by
  obtain ⟨i, t, hid, ht, hset⟩ := hg.known
  have htype := himage.type (by simp [BackupData.pktlen])
  unfold Hansi.getBackupData
  simp only [htype, hT, hid, Option.bind_some, ht, hset, himage.data]
  rfl

section
variable {T : List BackupType} {l : HansiLink} {p : BackupData} {w : Nat}

/-- `k` octets have come into the buffer of the backup. -/
def backupMoved (l : HansiLink) (k : Nat) : HansiLink :=
  { l with
    backup := { l.backup with proc := { l.backup.proc with readbuf := l.backup.proc.readbuf ++ l.down.take k } },
    down := l.down.drop k }

/-- `k` octets have come into the buffer of the master. -/
def masterMoved (l : HansiLink) (k : Nat) : HansiLink :=
  { l with
    master := { l.master with proc := { l.master.proc with readbuf := l.master.proc.readbuf ++ l.up.take k } },
    up := l.up.drop k }

theorem Kept.backupMoved (h : Kept T l) {k : Nat} : Kept T (l.backupMoved k) :=
  ⟨h.masterTypes, h.backupTypes, h.master, h.backup, h.acked, h.good, h.fifo, h.later, h.stopped, h.masterClean,
    h.backupClean⟩

theorem Kept.masterMoved (h : Kept T l) {k : Nat} : Kept T (l.masterMoved k) :=
  ⟨h.masterTypes, h.backupTypes, h.master, h.backup, h.acked, h.good, h.fifo, h.later, h.stopped, h.masterClean,
    h.backupClean⟩

theorem Waiting.backupMoved (hp : Waiting l p w) {k : Nat} : Waiting (l.backupMoved k) p w := by
  refine ⟨hp.calls, hp.idle, hp.up, fun hb => ?_, hp.le, hp.next, hp.head⟩
  have := hp.down hb
  simpa [HansiLink.backupMoved] using this

theorem Acking.backupMoved (hp : Acking T l p w) {k : Nat} : Acking T (l.backupMoved k) p w := by
  refine ⟨hp.calls, hp.lt, fun hb => ?_, hp.up, hp.good, hp.le, hp.task, hp.stopped, hp.head⟩
  have := hp.down hb
  simpa [HansiLink.backupMoved] using this

theorem Waiting.masterMoved (hp : Waiting l p w) {k : Nat} : Waiting (l.masterMoved k) p w := by
  refine ⟨hp.calls, hp.idle, fun hc => ?_, hp.down, hp.le, hp.next, hp.head⟩
  have := hp.up hc
  simpa [HansiLink.masterMoved] using this

theorem Acking.masterMoved (hp : Acking T l p w) {k : Nat} : Acking T (l.masterMoved k) p w := by
  refine ⟨hp.calls, hp.lt, hp.down, fun hc => ?_, hp.good, hp.le, hp.task, hp.stopped, hp.head⟩
  have := hp.up hc
  simpa [HansiLink.masterMoved] using this

/-- The backup has read a packet: it is the one at the head. -/
theorem Waiting.delivered (hp : Waiting l p w) (hk : Kept T l) (hcb : ∀ t ∈ T, t.get_backup_data = true)
    (hb : l.backup.proc.conn_fd = true) (hhead : BACKUP_PACKET_HEADSIZE ≤ l.backup.proc.readbuf.length)
    (hfull : getLong l.backup.proc.readbuf 12 ≤ l.backup.proc.readbuf.length) {c : HansiCall}
    (hjump : c.jump = false) (hack : (c.packet T).isSome) :
    Sound T { l with backup := { (l.backup.doSynData [c]).2 with
      proc := { (l.backup.doSynData [c]).2.proc with readbuf := [] },
      log := (l.backup.doSynData [c]).2.log ++ [.thrown (if (l.backup.doSynData [c]).1 then
        l.backup.proc.readbuf.drop (getLong l.backup.proc.readbuf 12) else l.backup.proc.readbuf)] } } := by
  have hlen := (hp.down hb).length
  rw [List.length_append] at hlen
  have hw : 0 < w := by
    simp only [BACKUP_PACKET_HEADSIZE] at hhead
    omega
  have hnext := hp.next hw
  have hgood : Good T p := hk.good p (List.mem_of_getElem? hnext)
  obtain ⟨hpktlen, hdown, rfl, himage⟩ := (hp.down hb).complete hgood hp.le hhead hfull
  obtain ⟨q, hq⟩ := Option.isSome_iff_exists.mp hack
  have hqgood := packet_good hcb hq
  have hsyn : l.backup.doSynData [c] =
      (true, ({ l.backup with
        proc := { l.backup.proc with task_fifo := [{ packet := q }] },
        log := l.backup.log ++ [.called p.given.1 p.given.2] ++ [.queued q] } : Hansi).taskStartWrite c.thread) := by
    unfold Hansi.doSynData
    rw [getBackupData_eq hk.backupTypes hgood himage]
    simp [Hansi.submit, hb, hk.backupTypes, hq, hjump, Hansi.enqueue, hp.idle, fifoPush]
  have hdrop : l.backup.proc.readbuf.drop (getLong l.backup.proc.readbuf 12) = [] := by
    rw [hpktlen, ← himage.length]
    exact List.drop_length
  have hclean := hk.backupClean
  have hcalls := hp.calls
  have htake : l.order.packets.take (l.order.acked + 1) = l.order.packets.take l.order.acked ++ [p] := by
    rw [List.take_add_one, hnext]
    rfl
  have hlt : l.order.acked < l.order.packets.length := (List.getElem?_eq_some_iff.mp hnext).1
  unfold Hansi.discarded at hclean
  unfold Hansi.calls at hcalls
  have hdone : Sound T { l with backup := { l.backup with
      proc := { l.backup.proc with readbuf := [], task_fifo := [{ packet := q, t_write := true }] },
      log := l.backup.log ++ [.called p.given.1 p.given.2] ++ [.queued q] ++ [.thrown []] } } := by
    refine ⟨⟨hk.masterTypes, hk.backupTypes, hk.master, hk.backup, hk.acked, hk.good, hk.fifo, hk.later, hk.stopped,
      hk.masterClean, ?_⟩, q, 0, .inr ⟨?_, hlt, fun _ => by simpa using hdown, fun hc => ?_, hqgood, Nat.zero_le _,
      fun _ => .inr ⟨rfl, ?_⟩, fun hno => absurd (hb.symm.trans hno) (by simp), fun hc => ?_⟩⟩
    · simp [Hansi.discarded, hclean, HansiLog.thrown?]
    · show _ = (l.order.packets.take (l.order.acked + 1)).map BackupData.given
      simp [Hansi.calls, hcalls, HansiLog.call?, htake]
    · show Image q 0 (l.master.proc.readbuf ++ l.up)
      rw [hp.up hc]
      exact image_nil
    · have := hqgood.pos
      simp only [BackupData.pktlen]
      omega
    · obtain ⟨-, hzero⟩ | ⟨rest, hcons⟩ := hp.head hc
      · omega
      · exact ⟨_, rest, hcons, by simp⟩
  rw [hsyn, hdrop]
  cases hthread : c.thread with
  | true =>
    simpa [Hansi.taskStartWrite, hb] using hdone
  | false =>
    simpa [Hansi.taskStartWrite, hb, Hansi.procStop] using hdone.backupStop

section
variable {T : List BackupType} {l : HansiLink} {p : BackupData} {w : Nat}

theorem Sound.backupRead (h : Sound T l) (hcb : ∀ t ∈ T, t.get_backup_data = true) {r : RecvResult}
    {cb : List HansiCall} (hacks : HansiOp.AcksOnce l (.backupRead r cb)) :
    Sound T (HansiOp.step l (.backupRead r cb)) := by
  obtain ⟨c, rfl, hjump, hack⟩ := hacks
  simp only [HansiOp.step, Hansi.readOnBackup, Hansi.read]
  split
  · exact h
  · rename_i hb
    have hb : l.backup.proc.conn_fd = true := by simpa using hb
    cases r with
    | failed => exact h.backupStop
    | shutdown => exact h.backupStop
    | octets n =>
      simp only
      split
      · exact h.backupStop
      · obtain ⟨hk, p, w, hp⟩ := h
        rw [hk.backupTypes] at hack
        have hkm := hk.backupMoved (k := l.backup.recvlen l.down n)
        simp only [Hansi.received]
        split
        · rename_i hfull
          obtain hp | hp := hp
          · exact hp.backupMoved.delivered hkm hcb hb hfull.1 hfull.2 hjump hack
          · have hempty := List.append_eq_nil_iff.mp ((hp.backupMoved (k := l.backup.recvlen l.down n)).down hb)
            have hlen := hfull.1
            rw [show l.backup.proc.readbuf ++ l.down.take (l.backup.recvlen l.down n) = [] from hempty.1] at hlen
            simp [BACKUP_PACKET_HEADSIZE] at hlen
        · refine ⟨hkm, p, w, ?_⟩
          obtain hp | hp := hp
          · exact .inl hp.backupMoved
          · exact .inr hp.backupMoved

/-- What the log tells besides the packets does not change the sequence. -/
theorem Kept.called (h : Kept T l) (hc : l.master.proc.conn_fd = true) (hp : Acking T l p w) {type : UInt32}
    {data : Bytes} :
    Kept T { l with master := { l.master with log := l.master.log ++ [.called type data] } } ∧
      Acking T { l with master := { l.master with log := l.master.log ++ [.called type data] } } p w := by
  have horder : ({ l with master := { l.master with log := l.master.log ++ [.called type data] } } : HansiLink).order =
      l.order := by
    simp [order, List.foldl_append, HansiOrder.note]
  have hclean := h.masterClean
  unfold Hansi.discarded at hclean
  refine ⟨⟨h.masterTypes, h.backupTypes, h.master, h.backup, horder ▸ h.acked, horder ▸ h.good, ?_, h.later, h.stopped,
    ?_, h.backupClean⟩, ⟨?_, horder ▸ hp.lt, hp.down, hp.up, hp.good, hp.le, hp.task, hp.stopped, hp.head⟩⟩
  · intro _
    rw [horder]
    exact h.fifo hc
  · simp [Hansi.discarded, hclean, HansiLog.thrown?]
  · rw [horder]
    exact hp.calls

/-- What a callback on the master queues comes after the packet that is acknowledged. -/
theorem Acking.callback (hcb : ∀ t ∈ T, t.get_backup_data = true) (cb : List HansiCall) (hk : Kept T l)
    (hp : Acking T l p w) (hc : l.master.proc.conn_fd = true) :
    Kept T { l with master := cb.foldl Hansi.submit l.master } ∧
      Acking T { l with master := cb.foldl Hansi.submit l.master } p w ∧
      (cb.foldl Hansi.submit l.master).proc.conn_fd = true := by
  induction cb generalizing l with
  | nil => exact ⟨hk, hp, hc⟩
  | cons c cb ih =>
    obtain ⟨hk', hp', hc', -⟩ := hp.submit hk hcb hc c
    exact ih hk' hp' hc'

/-- The acknowledged packet leaves the fifo, and the next one is written. -/
theorem Acking.acked (hp : Acking T l p p.pktlen) (hk : Kept T l) (hc : l.master.proc.conn_fd = true)
    (hup : l.up = []) (thread : Bool) {h : Hansi}
    (hh : h = (({ l.master with log := l.master.log ++ [.acked] } : Hansi).fifoPop).taskStartWrite thread) :
    Sound T { l with master := { h with
      proc := { h.proc with readbuf := [] }, log := h.log ++ [.thrown []] } } := by
  obtain ⟨first, rest, hcons, -⟩ := hp.head hc
  have hlater := hk.later
  rw [hcons] at hlater
  have hdrop := hk.fifo hc
  rw [hcons] at hdrop
  have hidle : l.backup.proc.task_fifo = [] := by
    cases hb : l.backup.proc.conn_fd with
    | false => exact hp.stopped hb
    | true =>
      obtain ⟨hnil, -⟩ | ⟨-, hlt⟩ := hp.task hb
      · exact hnil
      · exact absurd hlt (Nat.lt_irrefl _)
  have hnote : ∀ proc : HansiProc, ({ l with master := { l.master with
      proc := proc, log := l.master.log ++ [.acked] ++ [.thrown []] } } : HansiLink).order =
      { l.order with acked := l.order.acked + 1 } := by
    simp [order, List.foldl_append, HansiOrder.note]
  have hclean := hk.masterClean
  unfold Hansi.discarded at hclean
  -- The state if the next packet can be written.
  have hgo : ∀ fifo q, (fifo = [] ∧ rest = []) ∨
      (∃ task later, rest = task :: later ∧ q = task.packet ∧ fifo = { task with t_write := true } :: later) →
      Sound T { l with master := { l.master with
        proc := { l.master.proc with readbuf := [], task_fifo := fifo },
        log := l.master.log ++ [.acked] ++ [.thrown []] } } := by
    intro fifo q hfifo
    have hrest : l.order.packets.drop (l.order.acked + 1) = rest.map (·.packet) := by
      rw [← List.tail_drop, hdrop]
      rfl
    have hmap : rest.map (·.packet) = fifo.map (·.packet) := by
      obtain ⟨rfl, rfl⟩ | ⟨task, later, rfl, -, rfl⟩ := hfifo
      · rfl
      · rfl
    refine ⟨⟨hk.masterTypes, hk.backupTypes, hk.master, hk.backup, ?_, ?_, fun _ => ?_, ?_,
      fun hno => absurd (hc.symm.trans hno) (by simp), ?_, hk.backupClean⟩, q, 0, .inl ⟨?_, hidle, fun _ => by simpa using hup,
      fun hb => ?_, Nat.zero_le _, by simp, fun _ => ?_⟩⟩
    · rw [hnote]
      exact hp.lt
    · rw [hnote]
      exact hk.good
    · rw [hnote]
      exact hrest.trans hmap
    · obtain ⟨rfl, rfl⟩ | ⟨task, later, rfl, -, rfl⟩ := hfifo
      · simp
      · exact fun t ht => hlater t (List.mem_cons_of_mem _ ht)
    · simp [Hansi.discarded, hclean, HansiLog.thrown?]
    · rw [hnote]
      exact hp.calls
    · show Image q 0 (l.backup.proc.readbuf ++ l.down)
      rw [hp.down hb]
      exact image_nil
    · obtain ⟨rfl, rfl⟩ | ⟨task, later, rfl, rfl, rfl⟩ := hfifo
      · exact .inl ⟨rfl, rfl⟩
      · have hnew := (hlater task (List.mem_cons_self ..)).1
        have hpos : 0 < task.packet.pktlen := by simp [BackupData.pktlen, BACKUP_PACKET_HEADSIZE]
        refine .inr ⟨later, ?_⟩
        simp [hpos, hnew]
  have hpop : ({ l.master with log := l.master.log ++ [.acked] } : Hansi).fifoPop =
      { l.master with
        proc := { l.master.proc with task_fifo := rest }, log := l.master.log ++ [.acked] } := by
    simp [Hansi.fifoPop, hcons]
  rw [hpop] at hh
  subst hh
  cases hr : rest with
  | nil =>
    simpa [Hansi.taskStartWrite] using hgo [] p (.inl ⟨rfl, hr⟩)
  | cons task later =>
    have hnext := hgo ({ task with t_write := true } :: later) task.packet (.inr ⟨task, later, hr, rfl, rfl⟩)
    cases thread with
    | true => simpa [Hansi.taskStartWrite, hc] using hnext
    | false => simpa [Hansi.taskStartWrite, hc, Hansi.procStop] using hnext.masterStop

theorem Sound.masterRead (h : Sound T l) (hcb : ∀ t ∈ T, t.get_backup_data = true) (r : RecvResult)
    (cb : List HansiCall) (thread : Bool) : Sound T (HansiOp.step l (.masterRead r cb thread)) := by
  simp only [HansiOp.step, Hansi.readOnMaster, Hansi.read]
  split
  · exact h
  · rename_i hc
    have hc : l.master.proc.conn_fd = true := by simpa using hc
    cases r with
    | failed => exact h.masterStop
    | shutdown => exact h.masterStop
    | octets n =>
      simp only
      split
      · exact h.masterStop
      · obtain ⟨hk, p, w, hp⟩ := h
        have hkm := hk.masterMoved (k := l.master.recvlen l.up n)
        simp only [Hansi.received]
        split
        · rename_i hfull
          obtain hp | hp := hp
          · have hempty := List.append_eq_nil_iff.mp ((hp.masterMoved (k := l.master.recvlen l.up n)).up hc)
            have hlen := hfull.1
            rw [show l.master.proc.readbuf ++ l.up.take (l.master.recvlen l.up n) = [] from hempty.1] at hlen
            simp [BACKUP_PACKET_HEADSIZE] at hlen
          · have hpm := hp.masterMoved (k := l.master.recvlen l.up n)
            obtain ⟨hpktlen, hup, rfl, himage⟩ := (hpm.up hc).complete hpm.good hpm.le hfull.1 hfull.2
            have hack := getBackupData_eq hkm.masterTypes hpm.good himage cb
            have hnone : (l.masterMoved (l.master.recvlen l.up n)).master.proc.readbuf.drop p.pktlen = [] := by
              rw [← himage.length]
              exact List.drop_length
            obtain ⟨hkc, hpc⟩ := @HansiLink.Kept.called _ _ _ _ hkm hc hpm p.given.1 p.given.2
            obtain ⟨hkc, hpc, hcc⟩ := Acking.callback hcb cb hkc hpc hc
            have hdone := hpc.acked hkc hcc hup thread rfl
            simp only [masterMoved] at hack hdone hnone hpktlen
            simp only [Hansi.doAckData, hack, hpktlen, hnone, if_true]
            exact hdone
        · refine ⟨hkm, p, w, ?_⟩
          obtain hp | hp := hp
          · exact .inl hp.masterMoved
          · exact .inr hp.masterMoved

end

end

end

end

/-! ## Runs -/

section
variable {T : List BackupType} {l : HansiLink}

theorem Sound.step (hcb : ∀ t ∈ T, t.get_backup_data = true) (h : Sound T l) {op : HansiOp}
    (hacks : op.AcksOnce l) : Sound T (op.step l) := by
  cases op with
  | call c => exact h.submit hcb c
  | masterWrite i tv r thread => exact h.masterWrite i tv r thread
  | masterRead r cb thread => exact h.masterRead hcb r cb thread
  | backupWrite i tv r thread => exact h.backupWrite i tv r thread
  | backupRead r cb => exact h.backupRead hcb hacks

theorem sound_connected {cbs : List Bool} : Sound (registerBackupTypes 0 cbs) (connected cbs) := by
  refine ⟨⟨rfl, rfl, rfl, rfl, Nat.le_refl _, nofun, fun _ => rfl, nofun, fun _ => rfl, rfl, rfl⟩,
    { type := 0, data := [] }, 0, .inl ⟨rfl, rfl, fun _ => rfl, fun _ => image_nil, Nat.zero_le _, nofun,
      fun _ => .inl ⟨rfl, rfl⟩⟩⟩

theorem registered_callbacks {cbs : List Bool} (hcb : ∀ cb ∈ cbs, cb = true) {type : UInt32} :
    ∀ t ∈ registerBackupTypes type cbs, t.get_backup_data = true := by
  induction cbs generalizing type with
  | nil => nofun
  | cons cb cbs ih =>
    intro t ht
    obtain rfl | ht := List.mem_cons.mp ht
    · exact hcb cb (List.mem_cons_self ..)
    · exact ih (fun cb hm => hcb cb (List.mem_cons_of_mem _ hm)) t ht

theorem Sound.inOrder (h : Sound T l) : l.backup.calls <+: l.order.packets.map BackupData.given := by
  obtain ⟨-, p, w, hp | hp⟩ := h
  · rw [hp.calls]
    exact (List.take_prefix _ _).map _
  · rw [hp.calls]
    exact (List.take_prefix _ _).map _

theorem Kept.outstanding (h : Kept T l) : l.master.outstanding.length ≤ 1 := by
  have hlater := h.later
  unfold Hansi.outstanding
  cases hfifo : l.master.proc.task_fifo with
  | nil => simp
  | cons first rest =>
    rw [hfifo] at hlater
    have hnone : rest.filter (fun task => task.t_write || decide (0 < task.writen)) = [] := by
      rw [List.filter_eq_nil_iff]
      intro task ht
      simp [hlater task ht]
    rw [List.filter_cons, hnone]
    split <;> simp

end

end HansiLink

namespace HansiOp

/-- The callbacks of the backup are given the packets in the order of the sequence and unchanged, all octets that
are read are used, and the master waits for one acknowledgement at a time. -/
theorem stop_and_wait (cbs : List Bool) (hcb : ∀ cb ∈ cbs, cb = true) {ops : List HansiOp}
    (ho : Obeys step AcksOnce (connected cbs) ops) :
    (run step (connected cbs) ops).backup.calls <+:
        (run step (connected cbs) ops).order.packets.map BackupData.given ∧
      (run step (connected cbs) ops).master.discarded = [] ∧
      (run step (connected cbs) ops).backup.discarded = [] ∧
      (run step (connected cbs) ops).master.outstanding.length ≤ 1 := by
  have h := ho.run_inv (I := HansiLink.Sound (registerBackupTypes 0 cbs))
    (fun _ _ hs hacks => hs.step (HansiLink.registered_callbacks hcb) hacks) HansiLink.sound_connected
  exact ⟨h.inOrder, h.1.masterClean, h.1.backupClean, h.1.outstanding⟩

/-- Three packets, the last of which jumps the second; the first comes in pieces. -/
def sampleLink : List HansiOp :=
  [.call ⟨false, 0, [1], true, true⟩, .call ⟨false, 0, [2], true, true⟩,
    .masterWrite 0 (7, 0) (.written 10) true, .backupRead (.octets 9) [⟨false, 1, [0], true, true⟩],
    .call ⟨true, 0, [3], true, true⟩, .masterWrite 0 (8, 0) (.written 10) true,
    .backupRead (.octets 10) [⟨false, 1, [0], true, true⟩], .backupWrite 0 (9, 0) (.written 5) true,
    .masterRead (.octets 9) [] true, .backupWrite 0 (9, 0) (.written 50) true, .masterRead (.octets 50) [] true,
    .masterWrite 0 (10, 0) (.written 50) true, .backupRead (.octets 50) [⟨false, 1, [0], true, true⟩]]

theorem stop_and_wait_sample :
    (run step (connected [true, true]) sampleLink).order = ⟨[⟨1, [1]⟩, ⟨1, [3]⟩, ⟨1, [2]⟩], 1⟩ ∧
      (run step (connected [true, true]) sampleLink).backup.calls.length = 2 ∧
      (run step (connected [true, true]) sampleLink).backup.calls <+:
        (run step (connected [true, true]) sampleLink).order.packets.map BackupData.given := by
  refine ⟨by decide, by decide, (stop_and_wait [true, true] (by decide) ?_).1⟩
  exact ⟨trivial, trivial, trivial, ⟨_, rfl, rfl, by decide⟩, trivial, trivial, ⟨_, rfl, rfl, by decide⟩, trivial,
    trivial, trivial, trivial, trivial, ⟨_, rfl, rfl, by decide⟩, trivial⟩

end HansiOp

end Eag
end DaemonGroup
