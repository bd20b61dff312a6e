import DaemonGroup.Channel.Defs
import DaemonGroup.Lib.Framing

/-!
# DaemonGroup.Channel.Framing

On every connection the frames that are handed on are the first of those that were sent on it, however
the kernel splits the octets. It is not so once a connection is replaced: what is left of a frame of
the old connection, in the receive buffer or in the buffer that is being sent, is carried over to the
new one.
-/

namespace DaemonGroup
namespace Channel

open Lib
open Pppoe (Bytes BackupStatus getShort putShort)

/-- On each connection, in each direction, the frames handed on are the first of those begun. -/
def Net.Framed (n : Net) : Prop := ∀ s k, (n.streams s k).delivered <+: (n.streams s k).begun

/-- Nothing is left over of a connection: no octets of a frame that has not come in whole, and none of
one that has gone out in part. -/
def Backup.clear (e : Backup) : Bool := e.recv = [] ∧ ∀ b ∈ e.send, b.off = 0

/-- Frames are within the size of the buffer, a connection is accepted with nothing left over of the
one before, and there is memory for the frames that come in. -/
def Event.clean (n : Net) : Event → Bool
  | .add _ _ data => data.length + BACKUP_HEADER_LEN ≤ DEFAULT_BUF_SIZE
  | .process _ _ mem => ∀ m ∈ mem, ∀ b ∈ m, b = true
  | .accept s r => r = .ok → n.backlog s ≠ [] → (n.ends s).clear
  | _ => true

/-! ## Frames -/

theorem getShort_prefix {l l' : Bytes} (h : 4 ≤ l.length) (hp : l <+: l') :
    getShort l' 2 = getShort l 2 := by
  obtain ⟨t, rfl⟩ := hp
  have h₂ : 2 < l.length := by omega
  have h₃ : 3 < l.length := by omega
  simp [getShort, Pppoe.getChar, List.getElem?_append_left h₂, List.getElem?_append_left h₃]

/-- The length field of `struct backup_packet`. -/
def frameCode : Code UInt8 where
  header := BACKUP_HEADER_LEN
  size l := getShort l 2
  pos := by decide
  read _ _ h hp := getShort_prefix h hp

/-- A frame that the receive buffer can hold. -/
structure IsFrame (f : Bytes) : Prop extends frameCode.IsFrame f where
  room : f.length ≤ DEFAULT_BUF_SIZE

theorem echoPacket_isFrame {proto : Nat} : IsFrame (echoPacket proto) := by
  have hlen : (echoPacket proto).length = BACKUP_HEADER_LEN := rfl
  refine ⟨⟨hlen.ge, ?_⟩, by rw [hlen]; decide⟩
  simp [frameCode, echoPacket, putShort, getShort, Pppoe.getChar, BACKUP_HEADER_LEN]

theorem backupTaskCreate_isFrame {proto : Nat} {data : Bytes}
    (h : data.length + BACKUP_HEADER_LEN ≤ DEFAULT_BUF_SIZE) : IsFrame (backupTaskCreate proto data) := by
  have hlen : (backupTaskCreate proto data).length = data.length + BACKUP_HEADER_LEN := by
    simp [backupTaskCreate, putShort, BACKUP_HEADER_LEN]
  refine ⟨⟨?_, ?_⟩, by rw [hlen]; exact h⟩
  · rw [hlen]
    exact Nat.le_add_left _ _
  · rw [hlen]
    have hbound : data.length + 4 ≤ 4096 := h
    simp only [frameCode, backupTaskCreate, putShort, getShort, Pppoe.getChar, BACKUP_HEADER_LEN]
    simp
    omega

/-! ## One direction of a connection -/

/-- What was written, with the octets `rest` that are still to come, is what was begun. -/
structure Stream.Written (x : Stream) (rest : Bytes) : Prop where
  frames : ∀ f ∈ x.begun, IsFrame f
  octets : x.sent ++ rest = x.begun.flatten

/-- What was read is what was handed on and, behind it, the octets `buf`. -/
structure Stream.Read (x : Stream) (buf : Bytes) : Prop where
  got : x.got ≤ x.sent.length
  frames : ∀ f ∈ x.delivered, frameCode.IsFrame f
  octets : x.sent.take x.got = x.delivered.flatten ++ buf

section
variable {x x' : Stream} {rest buf : Bytes}

theorem Stream.Read.within (hr : x.Read buf) (hw : x.Written rest) :
    x.delivered.flatten ++ buf <+: x.begun.flatten := by
  rw [← hr.octets, ← hw.octets]
  exact (List.take_prefix _ _).trans (List.prefix_append _ _)

theorem Stream.Read.framed (hr : x.Read buf) (hw : x.Written rest) : x.delivered <+: x.begun :=
  Code.flatten_prefix hr.frames (fun f hf => (hw.frames f hf).toIsFrame)
    ((List.prefix_append _ _).trans (hr.within hw))

/-- More may be written while the other end reads. -/
theorem Stream.Read.grow (hr : x.Read buf) (hs : x.sent <+: x'.sent) (hg : x'.got = x.got)
    (hd : x'.delivered = x.delivered) : x'.Read buf := by
  obtain ⟨t, ht⟩ := hs
  refine ⟨?_, hd ▸ hr.frames, ?_⟩
  · rw [hg, ← ht, List.length_append]
    exact Nat.le_add_right_of_le hr.got
  · rw [hg, hd, ← ht, List.take_append_of_le_length hr.got]
    exact hr.octets

theorem Stream.Written.same (hw : x.Written rest) (hs : x'.sent = x.sent) (hb : x'.begun = x.begun) :
    x'.Written rest :=
  ⟨hb ▸ hw.frames, by rw [hs, hb]; exact hw.octets⟩

end

/-! ## Writing -/

/-- What a machine has queued are frames, and of the one that is being sent something is left. -/
structure Backup.Ready (e : Backup) : Prop where
  tasks : ∀ f ∈ e.tasks, IsFrame f
  send : ∀ b, e.send = some b → IsFrame b.bytes ∧ b.off < b.bytes.length

/-- What is left of a frame that has been sent in part. -/
def Backup.half (e : Backup) : Bytes :=
  match e.send with
  | none => []
  | some b => if b.off = 0 then [] else b.left

/-- What the loops of a machine leave: it goes on with its connection, or has given it up and keeps
nothing of it. -/
structure LoopEnd (e e' : Backup) : Prop where
  ready : e'.Ready
  status : e'.status = e.status
  sk : e'.sk = e.sk ∨ e'.sk = none ∧ e'.recv = [] ∧ e'.send = none

def Backup.on (e : Backup) : Prop := e.status = .ACTIVE ∨ e.status = .STANDBY

section
variable {e e' : Backup} {x : Stream} {b : SendBuf}

theorem Backup.Ready.load (h : e.Ready) : e.load.Ready := by
  rw [Backup.load]
  split
  · rename_i t ts hs ht
    refine ⟨fun f hf => h.tasks f (ht ▸ List.mem_cons_of_mem _ hf), fun b hb => ?_⟩
    cases hb
    have hf : IsFrame t := h.tasks t (ht ▸ List.mem_cons_self)
    exact ⟨hf, Nat.lt_of_lt_of_le frameCode.pos hf.header⟩
  · exact h

theorem load_half : e.load.half = e.half := by
  rw [Backup.load]
  split
  · rename_i hs ht
    simp [Backup.half, hs]
  · rfl

/-- Loading a task changes what is queued and what is being sent. -/
theorem load_frame : e.load.sk = e.sk ∧ e.load.status = e.status ∧ e.load.recv = e.recv := by
  rw [Backup.load]
  split <;> exact ⟨rfl, rfl, rfl⟩

theorem disconnect_end (hon : e.on) : LoopEnd e (backupDisconnect e) ∧ (backupDisconnect e).sk = none := by
  have hd : backupDisconnect e = e.disconnect := by
    rcases hon with h | h <;> rw [backupDisconnect, h] <;> rfl
  rw [hd]
  exact ⟨⟨⟨nofun, nofun⟩, rfl, .inr ⟨rfl, rfl, rfl⟩⟩, rfl⟩

theorem advance_half {m : Nat} :
    (e.advance b m).half = if b.off + m = 0 then [] else b.left.drop m := by
  rw [Backup.advance, Backup.half]
  by_cases hall : b.left.length = m
  · rw [if_pos hall, ← hall, List.drop_length, ite_self]
  · rw [if_neg hall]
    simp only [SendBuf.left, List.drop_drop]

/-- Writing `m` octets of the buffer. -/
theorem write_written {m : Nat} (hb : e.send = some b) (hf : IsFrame b.bytes)
    (hw : x.Written e.half) : (x.write b m).Written (e.advance b m).half := by
  have hleft : b.left.take m ++ b.left.drop m = b.left := List.take_append_drop m b.left
  have hoctets := hw.octets
  rw [advance_half]
  by_cases h0 : b.off = 0
  · have hbytes : b.left = b.bytes := by rw [SendBuf.left, h0, List.drop_zero]
    have hempty : e.half = [] := by simp [Backup.half, hb, h0]
    rw [hempty, List.append_nil] at hoctets
    by_cases hm : m = 0
    · refine ⟨?_, ?_⟩
      · simpa [Stream.write, hm] using hw.frames
      · simpa [Stream.write, hm, h0] using hoctets
    · refine ⟨fun f hmem => ?_, ?_⟩
      · simp only [Stream.write, h0, hm, ne_eq, not_false_iff, and_self, if_true, List.mem_append,
          List.mem_singleton] at hmem
        rcases hmem with hmem | rfl
        · exact hw.frames f hmem
        · exact hf
      · have hbegun : (x.write b m).begun = x.begun ++ [b.bytes] := by simp [Stream.write, h0, hm]
        rw [hbegun, List.flatten_append, ← hoctets, if_neg (by omega)]
        show (x.sent ++ b.left.take m) ++ b.left.drop m = _
        rw [List.append_assoc, hleft, hbytes]
        simp
  · have hhalf : e.half = b.left := by simp [Backup.half, hb, h0]
    have hbegun : (x.write b m).begun = x.begun := by simp [Stream.write, h0]
    refine ⟨hbegun ▸ hw.frames, ?_⟩
    rw [hbegun, ← hoctets, hhalf, if_neg (by omega)]
    show (x.sent ++ b.left.take m) ++ b.left.drop m = _
    rw [List.append_assoc, hleft]

theorem advance_ready {m : Nat} (h : e.Ready) (hb : e.send = some b) (hm : m ≤ b.left.length) :
    (e.advance b m).Ready := by
  refine ⟨h.tasks, fun b' hb' => ?_⟩
  obtain ⟨hf, hoff⟩ := h.send b hb
  rw [Backup.advance] at hb'
  dsimp only at hb'
  split at hb'
  · cases hb'
  · cases hb'
    rename_i hne
    have hlen : b.left.length = b.bytes.length - b.off := List.length_drop
    exact ⟨hf, by show b.off + m < b.bytes.length; omega⟩

/-- What the loop of `backup_post_func` leaves: what is written is what was begun. -/
structure Posted (e : Backup) (x : Stream) (e' : Backup) (x' : Stream) : Prop extends LoopEnd e e' where
  recv : e'.sk ≠ none → e'.recv = e.recv
  sent : x.sent <+: x'.sent
  got : x'.got = x.got
  delivered : x'.delivered = x.delivered
  written : x'.Written e'.half ∨ e'.sk = none ∧ ∃ rest, x'.Written rest

theorem postLoop_posted {rs : List SendResult} (hon : e.on) (hr : e.Ready) (hw : x.Written e.half) :
    Posted e x (postLoop rs e x).1 (postLoop rs e x).2 := by
  induction rs generalizing e x with
  | nil =>
    obtain ⟨hsk, hst, hrecv⟩ := load_frame (e := e)
    refine ⟨⟨⟨hr.load.tasks, hr.load.send⟩, hst, .inl hsk⟩, fun _ => hrecv, List.prefix_rfl, rfl, rfl,
      .inl ?_⟩
    rw [← load_half] at hw
    exact hw
  | cons r rs ih =>
    obtain ⟨hsk, hst, hrecv⟩ := load_frame (e := e)
    have hw' : x.Written e.load.half := by rw [load_half]; exact hw
    have hon' : e.load.on := by rw [Backup.on, hst]; exact hon
    have hstop : Posted e x { e.load with lostTimes := 0 } x :=
      ⟨⟨⟨hr.load.tasks, hr.load.send⟩, hst, .inl hsk⟩, fun _ => hrecv, List.prefix_rfl, rfl, rfl, .inl hw'⟩
    have hgo : ∀ {e₁ x₁}, Posted e.load x e₁ x₁ → Posted e x e₁ x₁ := by
      intro e₁ x₁ h
      exact ⟨⟨h.ready, h.status.trans hst, by rw [← hsk]; exact h.sk⟩, by rw [← hrecv]; exact h.recv, h.sent,
        h.got, h.delivered, h.written⟩
    rw [postLoop]
    split
    · exact hstop
    rename_i b hb
    cases r with
    | eintr => exact hgo (ih hon' hr.load hw')
    | eagain => exact hstop
    | error =>
      obtain ⟨hend, hnone⟩ := disconnect_end hon'
      exact hgo ⟨hend, fun h => absurd hnone h, List.prefix_rfl, rfl, rfl, .inr ⟨hnone, _, hw'⟩⟩
    | bytes n =>
      have hm : min n b.left.length ≤ b.left.length := Nat.min_le_right _ _
      have h := ih (e := e.load.advance b (min n b.left.length)) (x := x.write b (min n b.left.length))
        hon' (advance_ready hr.load hb hm) (write_written hb (hr.load.send b hb).1 hw')
      exact hgo ⟨⟨h.ready, h.status, h.sk⟩, h.recv, (List.prefix_append _ _).trans h.sent, h.got,
        h.delivered, h.written⟩

end

/-! ## Reading -/

section
variable {e e' : Backup} {x : Stream} {rest buf : Bytes}

/-- What the inner loop leaves of octets that are the beginning of a stream of frames: the frames that
are whole, and the rest. -/
theorem cutLoop_frames {gs D : List Bytes} {fuel : Nat} {mem : List Bool}
    (hg : ∀ g ∈ gs, IsFrame g) (hD : ∀ f ∈ D, frameCode.IsFrame f)
    (hp : D.flatten ++ buf <+: gs.flatten) (hmem : ∀ b ∈ mem, b = true) (hfuel : buf.length < fuel) :
    ∃ fs rest, cutLoop fuel mem buf = (fs, .move rest) ∧
      (∀ f ∈ fs.map Prod.snd, frameCode.IsFrame f) ∧ (fs.map Prod.snd).flatten ++ rest = buf := by
  induction fuel generalizing D mem buf with
  | zero => omega
  | succ fuel ih =>
    rw [cutLoop]
    split
    · exact ⟨[], buf, rfl, nofun, rfl⟩
    rename_i hhead
    have hhead : BACKUP_HEADER_LEN ≤ buf.length := Nat.le_of_not_lt hhead
    obtain ⟨g, hmemg, hsize⟩ := Code.next_size hD (fun g h => (hg g h).toIsFrame) hp hhead
    have hlen : getShort buf 2 = g.length := hsize
    rw [if_neg (by rw [hlen]; exact Nat.not_lt.mpr (hg g hmemg).room)]
    split
    · exact ⟨[], buf, rfl, nofun, rfl⟩
    rename_i hwhole
    have hpos : BACKUP_HEADER_LEN ≤ getShort buf 2 := hlen ▸ (hg g hmemg).header
    have hframe : frameCode.IsFrame (buf.take (getShort buf 2)) :=
      Code.next_frame (C := frameCode) hpos (Nat.le_of_not_lt hwhole)
    have hsplit : buf.take (getShort buf 2) ++ buf.drop (getShort buf 2) = buf :=
      List.take_append_drop _ _
    obtain ⟨fs, rest, hcut, hfs, hrest⟩ := @ih (buf.drop (getShort buf 2))
      (D ++ [buf.take (getShort buf 2)]) mem.tail
      (fun f hf => by
        rcases List.mem_append.mp hf with hf | hf
        · exact hD f hf
        · rw [List.mem_singleton.mp hf]
          exact hframe)
      (by
        rw [List.flatten_append, List.append_assoc]
        simpa [hsplit] using hp)
      (fun b hb => hmem b (List.mem_of_mem_tail hb))
      (by
        have hfour : BACKUP_HEADER_LEN = 4 := rfl
        rw [List.length_drop]
        omega)
    have hroom : mem.headD true = true := by
      cases mem with
      | nil => rfl
      | cons b bs => exact hmem b List.mem_cons_self
    dsimp only
    rw [hcut, if_pos hroom]
    refine ⟨_, rest, rfl, fun f hf => ?_, ?_⟩
    · rw [List.map_cons, List.mem_cons] at hf
      rcases hf with rfl | hf
      · exact hframe
      · exact hfs f hf
    · rw [List.map_cons, List.flatten_cons, List.append_assoc, hrest, hsplit]

/-- The callbacks start the reply to an echo request, and do nothing else to the channel. -/
structure Called (e e' : Backup) : Prop where
  ready : e.Ready → e'.Ready
  half : e'.half = e.half
  status : e'.status = e.status
  sk : e'.sk = e.sk
  recv : e'.recv = e.recv

theorem protoProcess_called {proto : Nat} : Called e (protoProcess e proto) := by
  rw [protoProcess]
  split
  · split
    · exact ⟨id, rfl, rfl, rfl, rfl⟩
    · rename_i hs
      refine ⟨fun h => ⟨h.tasks, fun b hb => ?_⟩, ?_, rfl, rfl, rfl⟩
      · cases hb
        exact ⟨echoPacket_isFrame, by decide⟩
      · simp [Backup.half, hs]
  · exact ⟨id, rfl, rfl, rfl, rfl⟩

theorem protoFold_called {ps : List Nat} : Called e (ps.foldl protoProcess e) := by
  induction ps generalizing e with
  | nil => exact ⟨id, rfl, rfl, rfl, rfl⟩
  | cons p ps ih =>
    have h₁ : Called e (protoProcess e p) := protoProcess_called
    have h₂ := ih (e := protoProcess e p)
    exact ⟨h₂.ready ∘ h₁.ready, h₂.half.trans h₁.half, h₂.status.trans h₁.status, h₂.sk.trans h₁.sk,
      h₂.recv.trans h₁.recv⟩

/-- What the loop of `backup_process` leaves: what is read is what was handed on, and the receive
buffer. -/
structure Processed (e : Backup) (x : Stream) (e' : Backup) (x' : Stream) : Prop extends LoopEnd e e' where
  half : e'.sk ≠ none → e'.half = e.half
  sent : x'.sent = x.sent
  begun : x'.begun = x.begun
  read : x'.Read e'.recv ∨ e'.sk = none ∧ ∃ buf, x'.Read buf

/-- Reading `m` octets and handing on the frames `fs`. -/
theorem read_read {m : Nat} {fs : List Bytes} (hr : x.Read e.recv)
    (hm : m ≤ x.sent.length - x.got) (hfs : ∀ f ∈ fs, frameCode.IsFrame f)
    (hbuf : fs.flatten ++ rest = recvBuf e x m) : (x.read m fs).Read rest := by
  have hgot := hr.got
  refine ⟨?_, fun f hf => ?_, ?_⟩
  · show x.got + m ≤ x.sent.length
    omega
  · rcases List.mem_append.mp hf with hf | hf
    · exact hr.frames f hf
    · exact hfs f hf
  · show x.sent.take (x.got + m) = (x.delivered ++ fs).flatten ++ rest
    rw [List.take_add, hr.octets, List.flatten_append, List.append_assoc, List.append_assoc, hbuf]
    rfl

theorem recvLoop_processed {rs : List RecvResult} {mem : List (List Bool)} (hon : e.on)
    (he : e.Ready) (hr : x.Read e.recv) (hw : x.Written rest)
    (hmem : ∀ m ∈ mem, ∀ b ∈ m, b = true) :
    Processed e x (recvLoop rs mem e x).1 (recvLoop rs mem e x).2.1 ∧
      (recvLoop rs mem e x).2.2 = false := by
  induction rs generalizing e x mem with
  | nil => exact ⟨⟨⟨⟨he.tasks, he.send⟩, rfl, .inl rfl⟩, fun _ => rfl, rfl, rfl, .inl hr⟩, rfl⟩
  | cons r rs ih =>
    have htail : ∀ m ∈ mem.tail, ∀ b ∈ m, b = true :=
      fun m hm => hmem m (List.mem_of_mem_tail hm)
    have hstop : Processed e x { e with lostTimes := 0 } x :=
      ⟨⟨⟨he.tasks, he.send⟩, rfl, .inl rfl⟩, fun _ => rfl, rfl, rfl, .inl hr⟩
    have hquit : Processed e x (backupDisconnect e) x := by
      obtain ⟨hend, hnone⟩ := disconnect_end hon
      exact ⟨hend, fun h => absurd hnone h, rfl, rfl, .inr ⟨hnone, _, hr⟩⟩
    cases r with
    | eintr => exact ih hon he hr hw htail
    | eagain => exact ⟨hstop, rfl⟩
    | error => exact ⟨hquit, rfl⟩
    | closed => exact ⟨hquit, rfl⟩
    | bytes n =>
      rw [recvLoop]
      split
      · exact ⟨hquit, rfl⟩
      split
      · exact ⟨hstop, rfl⟩
      have hm : recvSize e x n ≤ x.sent.length - x.got :=
        (Nat.min_le_right _ _).trans (Nat.min_le_right _ _)
      have hin : x.delivered.flatten ++ recvBuf e x (recvSize e x n) <+: x.begun.flatten := by
        rw [recvBuf, ← List.append_assoc, ← hr.octets, ← List.take_add, ← hw.octets]
        exact (List.take_prefix _ _).trans (List.prefix_append _ _)
      have hhead : ∀ b ∈ mem.headD [], b = true := by
        cases mem with
        | nil => nofun
        | cons m ms => exact hmem m List.mem_cons_self
      obtain ⟨fs, rest', hcut, hfs, hbuf⟩ :=
        cutLoop_frames hw.frames hr.frames hin hhead (Nat.lt_succ_self _)
      have hcall : Called e ((fs.map Prod.fst).foldl protoProcess e) := protoFold_called
      dsimp only
      rw [hcut]
      dsimp only
      have hread := read_read hr hm hfs hbuf
      obtain ⟨h, hend⟩ := @ih { (fs.map Prod.fst).foldl protoProcess e with recv := rest' }
        (x.read (recvSize e x n) (fs.map Prod.snd)) mem.tail
        (by rw [Backup.on]; exact hcall.status ▸ hon)
        ⟨(hcall.ready he).tasks, (hcall.ready he).send⟩ hread ⟨hw.frames, hw.octets⟩ htail
      refine ⟨⟨⟨h.ready, h.status.trans hcall.status, ?_⟩, fun hne => (h.half hne).trans hcall.half, h.sent,
        h.begun, h.read⟩, hend⟩
      rw [← hcall.sk]
      exact h.sk

end

/-! ## One machine and its connections -/

/-- A machine `e`, the streams `wr` it writes and the streams `rd` it reads, the connections that wait
for it to be accepted, and the number of connections made. -/
structure Linked (e : Backup) (wr rd : Nat → Stream) (backlog : List Nat) (conns : Nat) : Prop where
  ready : e.Ready
  written : ∀ k, ∃ rest, (wr k).Written rest
  read : ∀ k, ∃ buf, (rd k).Read buf
  writes : ∀ k, e.sk = some k → (wr k).Written e.half
  reads : ∀ k, e.sk = some k → (rd k).Read e.recv
  /-- a connection that the machine has not had -/
  unused : ∀ k, conns ≤ k ∨ k ∈ backlog →
    (wr k).sent = [] ∧ (wr k).begun = [] ∧ (rd k).got = 0 ∧ (rd k).delivered = []
  waiting : ∀ k ∈ backlog, k < conns
  nodup : backlog.Nodup
  current : ∀ k, e.sk = some k → k < conns ∧ k ∉ backlog
  idle : e.sk = none → e.status ≠ .ACTIVE → e.recv = [] ∧ e.half = []
  on : e.sk ≠ none → e.on

section
variable {e e' : Backup} {wr rd : Nat → Stream} {backlog : List Nat} {conns k : Nat} {x : Stream}

theorem LoopEnd.same (h : LoopEnd e e') (hk : e'.sk = some k) : e.sk = some k := by
  rcases h.sk with hsk | ⟨hsk, -, -⟩
  · rw [← hsk]
    exact hk
  · rw [hsk] at hk
    cases hk

theorem LoopEnd.idle (h : LoopEnd e e') (hk : e.sk = some k) (hno : e'.sk = none) :
    e'.recv = [] ∧ e'.half = [] := by
  rcases h.sk with hsk | ⟨-, hrecv, hsend⟩
  · rw [hsk, hk] at hno
    cases hno
  · exact ⟨hrecv, by rw [Backup.half, hsend]⟩

/-- The connection that a machine has is not one that it has not had. -/
theorem Linked.had (h : Linked e wr rd backlog conns) (hk : e.sk = some k) {j : Nat}
    (hj : conns ≤ j ∨ j ∈ backlog) : j ≠ k := by
  rintro rfl
  obtain ⟨hlt, hnot⟩ := h.current j hk
  rcases hj with hj | hj
  · exact absurd hlt (Nat.not_lt.mpr hj)
  · exact hnot hj

/-- The machine goes on with its connection, or gives it up. -/
theorem Linked.turn (h : Linked e wr rd backlog conns) (hr : e'.Ready)
    (hsk : e'.sk = e.sk ∧ e'.half = e.half ∧ e'.recv = e.recv ∧ e'.status = e.status ∨
      e'.sk = none ∧ (e'.status ≠ .ACTIVE → e'.recv = [] ∧ e'.half = [])) :
    Linked e' wr rd backlog conns := by
  rcases hsk with ⟨hsk, hhalf, hrecv, hst⟩ | ⟨hsk, hidle⟩
  · exact ⟨hr, h.written, h.read, fun k hk => hhalf ▸ h.writes k (hsk ▸ hk),
      fun k hk => hrecv ▸ h.reads k (hsk ▸ hk), h.unused, h.waiting, h.nodup,
      fun k hk => h.current k (hsk ▸ hk), by rw [hsk, hst, hhalf, hrecv]; exact h.idle,
      by rw [hsk, Backup.on, hst]; exact h.on⟩
  · have hno : ∀ {P : Prop} k, e'.sk = some k → P := fun k hk => by rw [hsk] at hk; cases hk
    exact ⟨hr, h.written, h.read, fun k hk => hno k hk, fun k hk => hno k hk, h.unused, h.waiting,
      h.nodup, fun k hk => hno k hk, fun _ => hidle, fun hne => absurd hsk hne⟩

/-- The machine takes a connection that it has not had, with nothing left over of the one before. -/
theorem Linked.take (h : Linked e wr rd backlog conns) (hhalf : e.half = []) (hrecv : e.recv = [])
    (hon : e.on) {backlog' : List Nat} {conns' : Nat} (hsub : backlog'.Sublist backlog)
    (hle : conns ≤ conns') (hk : conns ≤ k ∨ k ∈ backlog) (hlt : k < conns') (hnot : k ∉ backlog') :
    Linked { e with sk := some k, c_state := .CONNECT, lostTimes := 0 } wr rd backlog' conns' := by
  obtain ⟨hsent, hbegun, hgot, hdel⟩ := h.unused k hk
  refine ⟨⟨h.ready.tasks, h.ready.send⟩, h.written, h.read, fun j hj => ?_, fun j hj => ?_,
    fun j hj => h.unused j (hj.imp (Nat.le_trans hle) fun hj => hsub.subset hj),
    fun j hj => Nat.lt_of_lt_of_le (h.waiting j (hsub.subset hj)) hle, h.nodup.sublist hsub,
    fun j hj => ?_, nofun, fun _ => hon⟩
  · cases hj
    show (wr k).Written e.half
    rw [hhalf]
    exact ⟨by rw [hbegun]; nofun, by rw [hsent, hbegun]; rfl⟩
  · cases hj
    show (rd k).Read e.recv
    rw [hrecv]
    exact ⟨by rw [hgot]; exact Nat.zero_le _, by rw [hdel]; nofun, by rw [hgot, hdel]; rfl⟩
  · cases hj
    exact ⟨hlt, hnot⟩

/-- The machine has written to its connection. -/
theorem Linked.post (h : Linked e wr rd backlog conns) (hk : e.sk = some k)
    (hp : Posted e (wr k) e' x) :
    Linked e' (fun j => if j = k then x else wr j) rd backlog conns := by
  have hsame : ∀ j, e'.sk = some j → e.sk = some j := fun j hj => hp.same hj
  have hjk : ∀ j, e'.sk = some j → j = k := fun j hj => Option.some.inj ((hsame j hj).symm.trans hk)
  have hnone : ∀ j, e'.sk = some j → e'.sk ≠ none := fun j hj => by rw [hj]; nofun
  refine ⟨hp.ready, fun j => ?_, h.read, fun j hj => ?_, fun j hj => ?_, fun j hj => ?_, h.waiting,
    h.nodup, fun j hj => h.current j (hsame j hj), fun hsk _ => ?_, fun hne => ?_⟩
  · split
    · rcases hp.written with hw | ⟨-, hw⟩
      · exact ⟨_, hw⟩
      · exact hw
    · exact h.written j
  · rw [if_pos (hjk j hj)]
    rcases hp.written with hw | ⟨hsk, -⟩
    · exact hw
    · rw [hsk] at hj
      cases hj
  · rw [hp.recv (hnone j hj)]
    exact h.reads j (hsame j hj)
  · rw [if_neg (h.had hk hj)]
    exact h.unused j hj
  · exact hp.idle hk hsk
  · rw [Backup.on, hp.status]
    exact h.on (by rw [hk]; nofun)

/-- The machine has read from its connection. -/
theorem Linked.process (h : Linked e wr rd backlog conns) (hk : e.sk = some k)
    (hp : Processed e (rd k) e' x) :
    Linked e' wr (fun j => if j = k then x else rd j) backlog conns := by
  have hsame : ∀ j, e'.sk = some j → e.sk = some j := fun j hj => hp.same hj
  have hjk : ∀ j, e'.sk = some j → j = k := fun j hj => Option.some.inj ((hsame j hj).symm.trans hk)
  have hnone : ∀ j, e'.sk = some j → e'.sk ≠ none := fun j hj => by rw [hj]; nofun
  refine ⟨hp.ready, h.written, fun j => ?_, fun j hj => ?_, fun j hj => ?_, fun j hj => ?_, h.waiting,
    h.nodup, fun j hj => h.current j (hsame j hj), fun hsk _ => ?_, fun hne => ?_⟩
  · split
    · rcases hp.read with hr | ⟨-, hr⟩
      · exact ⟨_, hr⟩
      · exact hr
    · exact h.read j
  · rw [hp.half (hnone j hj)]
    exact h.writes j (hsame j hj)
  · rw [if_pos (hjk j hj)]
    rcases hp.read with hr | ⟨hsk, -⟩
    · exact hr
    · rw [hsk] at hj
      cases hj
  · rw [if_neg (h.had hk hj)]
    exact h.unused j hj
  · exact hp.idle hk hsk
  · rw [Backup.on, hp.status]
    exact h.on (by rw [hk]; nofun)

/-- The other machine has written. -/
theorem Linked.other_post (h : Linked e wr rd backlog conns) (hs : (rd k).sent <+: x.sent)
    (hg : x.got = (rd k).got) (hd : x.delivered = (rd k).delivered) :
    Linked e wr (fun j => if j = k then x else rd j) backlog conns := by
  have hread : ∀ j buf, (rd j).Read buf → (if j = k then x else rd j).Read buf := by
    intro j buf hr
    split
    · rename_i hj
      subst hj
      exact hr.grow hs hg hd
    · exact hr
  refine ⟨h.ready, h.written, fun j => ?_, h.writes, fun j hj => hread j _ (h.reads j hj),
    fun j hj => ?_, h.waiting, h.nodup, h.current, h.idle, h.on⟩
  · obtain ⟨buf, hr⟩ := h.read j
    exact ⟨buf, hread j buf hr⟩
  · obtain ⟨h₁, h₂, h₃, h₄⟩ := h.unused j hj
    refine ⟨h₁, h₂, ?_, ?_⟩
    · split
      · rename_i hjk
        rw [hg, ← hjk, h₃]
      · exact h₃
    · split
      · rename_i hjk
        rw [hd, ← hjk, h₄]
      · exact h₄

/-- The other machine has read. -/
theorem Linked.other_process (h : Linked e wr rd backlog conns) (hs : x.sent = (wr k).sent)
    (hb : x.begun = (wr k).begun) :
    Linked e (fun j => if j = k then x else wr j) rd backlog conns := by
  have hwritten : ∀ j rest, (wr j).Written rest → (if j = k then x else wr j).Written rest := by
    intro j rest hw
    split
    · rename_i hj
      subst hj
      exact hw.same hs hb
    · exact hw
  refine ⟨h.ready, fun j => ?_, h.read, fun j hj => hwritten j _ (h.writes j hj), h.reads,
    fun j hj => ?_, h.waiting, h.nodup, h.current, h.idle, h.on⟩
  · obtain ⟨rest, hw⟩ := h.written j
    exact ⟨rest, hwritten j rest hw⟩
  · obtain ⟨h₁, h₂, h₃, h₄⟩ := h.unused j hj
    refine ⟨?_, ?_, h₃, h₄⟩
    · split
      · rename_i hjk
        rw [hs, ← hjk, h₁]
      · exact h₁
    · split
      · rename_i hjk
        rw [hb, ← hjk, h₂]
      · exact h₂

end

/-! ## Both machines -/

@[simp] theorem Side.other_other (s : Side) : s.other.other = s := by cases s <;> rfl

theorem Side.other_ne (s : Side) : s.other ≠ s := by cases s <;> nofun

theorem Side.eq_or_other (s t : Side) : t = s ∨ t = s.other := by
  cases s <;> cases t <;> first | exact .inl rfl | exact .inr rfl

/-- The machine of the side `s`, linked to the other. -/
def Net.Side (n : Net) (s : Side) : Prop :=
  Linked (n.ends s) (n.streams s) (n.streams s.other) (n.backlog s) n.conns

section
variable {n n' : Net} {s : Side} {e' : Backup} {x : Stream} {k : Nat}

/-- What holds of both sides, from the side that acts and the other one. -/
theorem sides (h₁ : n'.Side s) (h₂ : n'.Side s.other) (t : Side) : n'.Side t := by
  rcases Side.eq_or_other s t with rfl | rfl
  · exact h₁
  · exact h₂

/-- The machine of the side `s` turns; nothing else changes. -/
theorem setEnd_sides (h : ∀ t, n.Side t)
    (hl : Linked e' (n.streams s) (n.streams s.other) (n.backlog s) n.conns) (t : Side) :
    (n.setEnd s e').Side t := by
  refine sides (s := s) ?_ ?_ t
  · simpa [Net.Side, Net.setEnd] using hl
  · simpa [Net.Side, Net.setEnd, Side.other_ne] using h s.other

theorem post_sides {rs : List SendResult} (h : ∀ t, n.Side t) (t : Side) : (n.post s rs).Side t := by
  rw [Net.post]
  split
  · exact h t
  rename_i k hk
  have hp := @postLoop_posted _ _ rs ((h s).on (by rw [hk]; nofun)) (h s).ready ((h s).writes k hk)
  have hother := h s.other
  rw [Net.Side, Side.other_other] at hother
  refine sides (s := s) ?_ ?_ t
  · simpa [Net.Side, Net.setEnd, Net.setStream, Side.other_ne] using (h s).post hk hp
  · simpa [Net.Side, Net.setEnd, Net.setStream, Side.other_ne] using
      hother.other_post hp.sent hp.got hp.delivered

theorem process_sides {rs : List RecvResult} {mem : List (List Bool)} (h : ∀ t, n.Side t)
    (hf : n.fault = false) (hmem : ∀ m ∈ mem, ∀ b ∈ m, b = true) :
    (∀ t, (n.process s rs mem).Side t) ∧ (n.process s rs mem).fault = false := by
  rw [Net.process]
  split
  · exact ⟨h, hf⟩
  rename_i k hk
  have hother := h s.other
  rw [Net.Side, Side.other_other] at hother
  obtain ⟨rest, hw⟩ := hother.written k
  obtain ⟨hp, hend⟩ := @recvLoop_processed _ _ _ rs mem ((h s).on (by rw [hk]; nofun))
    (h s).ready ((h s).reads k hk) hw hmem
  refine ⟨fun t => sides (s := s) ?_ ?_ t, hend⟩
  · simpa [Net.Side, Net.setEnd, Net.setStream, (Side.other_ne s).symm] using (h s).process hk hp
  · simpa [Net.Side, Net.setEnd, Net.setStream, Side.other_ne, (Side.other_ne s).symm] using
      hother.other_process hp.sent hp.begun

theorem disconnected_ready {e : Backup} : e.disconnect.Ready := ⟨nofun, nofun⟩

theorem echo_sides {nomem : Bool} (h : ∀ t, n.Side t) (t : Side) : (n.echo s nomem).Side t := by
  have hdrop : Linked (n.ends s).disconnect (n.streams s) (n.streams s.other) (n.backlog s) n.conns :=
    (h s).turn disconnected_ready (.inr ⟨rfl, fun _ => ⟨rfl, rfl⟩⟩)
  have hwait : Linked { n.ends s with lostTimes := (n.ends s).lostTimes + 1 } (n.streams s)
      (n.streams s.other) (n.backlog s) n.conns :=
    (h s).turn ⟨(h s).ready.tasks, (h s).ready.send⟩ (.inl ⟨rfl, rfl, rfl, rfl⟩)
  rw [Net.echo]
  split
  · refine setEnd_sides h ?_ t
    rw [activeEchoTimerFunc]
    split
    · exact hdrop
    split
    · exact hwait
    · rename_i hno
      have hsend : (n.ends s).send = none := by
        cases hs : (n.ends s).send with
        | none => rfl
        | some b => exact absurd (.inl (by rw [hs]; rfl)) hno
      refine (h s).turn ⟨(h s).ready.tasks, fun b hb => ?_⟩ (.inl ⟨rfl, ?_, rfl, rfl⟩)
      · cases hb
        exact ⟨echoPacket_isFrame, by decide⟩
      · simp [Backup.half, hsend]
  · refine setEnd_sides h ?_ t
    rw [standbyEchoTimerFunc]
    split
    · exact hdrop
    · exact hwait
  · exact h t

theorem connect_sides {r : Attempt} (h : ∀ t, n.Side t) (t : Side) : (n.connect s r).Side t := by
  rw [Net.connect]
  dsimp only
  split
  · exact h t
  rename_i hst
  obtain ⟨hst, hsk⟩ := not_or.mp hst
  have hstandby : (n.ends s).status = .STANDBY := not_not.mp hst
  have hnone : (n.ends s).sk = none := Option.not_isSome_iff_eq_none.mp hsk
  obtain ⟨hrecv, hhalf⟩ := (h s).idle hnone (by rw [hstandby]; nofun)
  have hready : (n.ends s).Ready := (h s).ready
  -- the other side sees one more connection that waits
  have hother : Linked (n.ends s.other) (n.streams s.other) (n.streams s)
      (n.backlog s.other ++ [n.conns]) (n.conns + 1) := by
    have ho := h s.other
    rw [Net.Side, Side.other_other] at ho
    have hnew : n.conns ∉ n.backlog s.other := fun hin => Nat.lt_irrefl _ (ho.waiting _ hin)
    refine ⟨ho.ready, ho.written, ho.read, ho.writes, ho.reads, fun k hk => ho.unused k ?_,
      fun k hk => ?_, ?_, fun k hk => ?_, ho.idle, ho.on⟩
    · rw [List.mem_append, List.mem_singleton] at hk
      rcases hk with hk | hk | rfl
      · exact .inl (by omega)
      · exact .inr hk
      · exact .inl (Nat.le_refl _)
    · rw [List.mem_append, List.mem_singleton] at hk
      rcases hk with hk | rfl
      · exact Nat.lt_succ_of_lt (ho.waiting k hk)
      · exact Nat.lt_succ_self _
    · exact List.nodup_append.mpr ⟨ho.nodup, List.pairwise_singleton _ _, fun a ha b hb => by
        rw [List.mem_singleton.mp hb]
        rintro rfl
        exact hnew ha⟩
    · obtain ⟨hlt, hnot⟩ := ho.current k hk
      refine ⟨Nat.lt_succ_of_lt hlt, fun hin => ?_⟩
      rw [List.mem_append, List.mem_singleton] at hin
      rcases hin with hin | rfl
      · exact hnot hin
      · exact Nat.lt_irrefl _ hlt
  have hmore : Linked (n.ends s) (n.streams s) (n.streams s.other) (n.backlog s) (n.conns + 1) :=
    ⟨hready, (h s).written, (h s).read, (h s).writes, (h s).reads,
      fun k hk => (h s).unused k (hk.imp (fun hk => by omega) id),
      fun k hk => Nat.lt_succ_of_lt ((h s).waiting k hk), (h s).nodup,
      fun k hk => ⟨Nat.lt_succ_of_lt ((h s).current k hk).1, ((h s).current k hk).2⟩, (h s).idle,
      (h s).on⟩
  have hclosed : ∀ {wr rd backlog conns}, Linked (n.ends s) wr rd backlog conns →
      Linked { n.ends s with c_state := .NONE } wr rd backlog conns := fun hl =>
    hl.turn ⟨hready.tasks, hready.send⟩ (.inl ⟨rfl, rfl, rfl, rfl⟩)
  split
  · exact setEnd_sides h (hclosed (h s)) t
  split
  · refine sides (s := s) ?_ ?_ t
    · simpa [Net.Side, Net.setEnd, Net.setBacklog, (Side.other_ne s).symm] using hclosed hmore
    · simpa [Net.Side, Net.setEnd, Net.setBacklog, Side.other_ne] using hother
  · have htake : Linked { n.ends s with sk := some n.conns, c_state := .CONNECT, lostTimes := 0 }
        (n.streams s) (n.streams s.other) (n.backlog s) (n.conns + 1) :=
      (h s).take hhalf hrecv (.inr hstandby) (List.Sublist.refl _) (Nat.le_succ _)
        (.inl (Nat.le_refl _)) (Nat.lt_succ_self _)
        (fun hin => Nat.lt_irrefl _ ((h s).waiting _ hin))
    refine sides (s := s) ?_ ?_ t
    · simpa [Net.Side, Net.setEnd, Net.setBacklog, (Side.other_ne s).symm] using htake
    · simpa [Net.Side, Net.setEnd, Net.setBacklog, Side.other_ne] using hother

theorem clear_half {e : Backup} (h : e.clear) : e.recv = [] ∧ e.half = [] := by
  obtain ⟨hrecv, hoff⟩ := of_decide_eq_true h
  refine ⟨hrecv, ?_⟩
  rw [Backup.half]
  split
  · rfl
  · rename_i b hb
    rw [if_pos (hoff b hb)]

/-- A machine whose backlog has become shorter. -/
theorem Linked.shorter {e : Backup} {wr rd : Nat → Stream} {l l' : List Nat} {c : Nat}
    (h : Linked e wr rd l c) (hsub : l'.Sublist l) : Linked e wr rd l' c :=
  ⟨h.ready, h.written, h.read, h.writes, h.reads,
    fun k hk => h.unused k (hk.imp id fun hk => hsub.subset hk), fun k hk => h.waiting k (hsub.subset hk),
    h.nodup.sublist hsub, fun k hk => ⟨(h.current k hk).1, fun hin => (h.current k hk).2 (hsub.subset hin)⟩,
    h.idle, h.on⟩

theorem accept_sides {r : Attempt} (h : ∀ t, n.Side t)
    (hg : r = .ok → n.backlog s ≠ [] → (n.ends s).clear) (t : Side) : (n.accept s r).Side t := by
  rw [Net.accept]
  dsimp only
  split
  · exact h t
  rename_i hst
  have hactive : (n.ends s).status = .ACTIVE := not_not.mp hst
  split
  · exact h t
  rename_i k ks hb
  have hsub : ks.Sublist (n.backlog s) := by
    rw [hb]
    exact List.sublist_cons_self k ks
  have hready : (n.ends s).Ready := (h s).ready
  have hshort : Linked (n.ends s) (n.streams s) (n.streams s.other) ks n.conns := (h s).shorter hsub
  have hother := h s.other
  cases r with
  | refused =>
    refine sides (s := s) ?_ ?_ t
    · simpa [Net.Side, Net.setBacklog] using hshort
    · simpa [Net.Side, Net.setBacklog, Side.other_ne] using hother
  | failed =>
    have hdrop : Linked { n.ends s with sk := none } (n.streams s) (n.streams s.other) ks n.conns :=
      hshort.turn ⟨hready.tasks, hready.send⟩ (.inr ⟨rfl, fun hne => absurd hactive hne⟩)
    refine sides (s := s) ?_ ?_ t
    · simpa [Net.Side, Net.setEnd, Net.setBacklog] using hdrop
    · simpa [Net.Side, Net.setEnd, Net.setBacklog, Side.other_ne] using hother
  | ok =>
    obtain ⟨hrecv, hhalf⟩ := clear_half (hg rfl (by rw [hb]; nofun))
    have hin : k ∈ n.backlog s := hb ▸ List.mem_cons_self
    have htake : Linked { n.ends s with sk := some k, c_state := .CONNECT, lostTimes := 0 }
        (n.streams s) (n.streams s.other) ks n.conns :=
      (h s).take hhalf hrecv (.inl hactive) hsub (Nat.le_refl _) (.inr hin) ((h s).waiting k hin)
        (List.nodup_cons.mp (hb ▸ (h s).nodup)).1
    refine sides (s := s) ?_ ?_ t
    · simpa [Net.Side, Net.setEnd, Net.setBacklog] using htake
    · simpa [Net.Side, Net.setEnd, Net.setBacklog, Side.other_ne] using hother

theorem setup_sides {status : BackupStatus} (h : ∀ t, n.Side t) (t : Side) :
    (n.setup s status).Side t := by
  have hstop : (backupStop (n.ends s)).Ready ∧ (backupStop (n.ends s)).sk = none ∧
      (backupStop (n.ends s)).recv = [] ∧ (backupStop (n.ends s)).half = [] := by
    rw [backupStop]
    split
    · exact ⟨⟨nofun, nofun⟩, rfl, rfl, rfl⟩
    · exact ⟨⟨nofun, nofun⟩, rfl, rfl, rfl⟩
    · rename_i hna hns
      have hnone : (n.ends s).sk = none := by
        by_contra hne
        exact ((h s).on hne).elim hna hns
      obtain ⟨hrecv, hhalf⟩ := (h s).idle hnone hna
      exact ⟨(h s).ready, hnone, hrecv, hhalf⟩
  obtain ⟨hready, hnone, hrecv, hhalf⟩ := hstop
  have hempty : Linked (n.ends s) (n.streams s) (n.streams s.other) [] n.conns :=
    (h s).shorter (List.nil_sublist _)
  have hturn : ∀ st, Linked { backupStop (n.ends s) with status := status, c_state := st } (n.streams s)
      (n.streams s.other) [] n.conns := fun st =>
    hempty.turn ⟨hready.tasks, hready.send⟩ (.inr ⟨hnone, fun _ => ⟨hrecv, hhalf⟩⟩)
  have hother := h s.other
  rw [Net.setup]
  dsimp only
  refine sides (s := s) ?_ ?_ t
  · by_cases hon : status = .ACTIVE ∨ status = .STANDBY
    · simpa [Net.Side, Net.setEnd, Net.setBacklog, hon] using hturn .INIT
    · simpa [Net.Side, Net.setEnd, Net.setBacklog, hon] using hturn (backupStop (n.ends s)).c_state
  · simpa [Net.Side, Net.setEnd, Net.setBacklog, Side.other_ne] using hother

theorem add_sides {proto : Nat} {data : Bytes} (h : ∀ t, n.Side t)
    (hg : data.length + BACKUP_HEADER_LEN ≤ DEFAULT_BUF_SIZE) (t : Side) :
    (n.setEnd s (backupTaskAdd (n.ends s) (backupTaskCreate proto data))).Side t := by
  refine setEnd_sides h ?_ t
  rw [backupTaskAdd]
  split
  · exact h s
  · refine (h s).turn ⟨fun f hf => ?_, (h s).ready.send⟩ (.inl ⟨rfl, rfl, rfl, rfl⟩)
    rcases List.mem_append.mp hf with hf | hf
    · exact (h s).ready.tasks f hf
    · rw [List.mem_singleton.mp hf]
      exact backupTaskCreate_isFrame hg

/-! ## Runs -/

/-- No machine hangs, and each is linked to the other. -/
structure Sound (n : Net) : Prop where
  fault : n.fault = false
  side : ∀ s, n.Side s

theorem step_fault (ev : Event) (hev : ∀ s rs mem, ev ≠ .process s rs mem) :
    (n.dispatch ev).fault = n.fault := by
  cases ev with
  | add => rfl
  | post s rs =>
    rw [Net.dispatch, Net.post]
    split <;> rfl
  | process s rs mem => exact absurd rfl (hev s rs mem)
  | echo s nomem =>
    rw [Net.dispatch, Net.echo]
    split <;> rfl
  | connect s r =>
    rw [Net.dispatch, Net.connect]
    dsimp only
    split
    · rfl
    split
    · rfl
    split <;> rfl
  | accept s r =>
    rw [Net.dispatch, Net.accept]
    dsimp only
    split
    · rfl
    split
    · rfl
    · cases r <;> rfl
  | setup => rfl

/-- A clean event keeps the machines linked. -/
theorem step_sound {ev : Event} (h : Sound n) (hg : ev.clean n) : Sound (step n ev) := by
  rw [step, h.fault, if_neg (by decide)]
  have hfault := fun hev => (step_fault (n := n) ev hev).trans h.fault
  cases ev with
  | add s proto data => exact ⟨hfault nofun, add_sides h.side (of_decide_eq_true hg)⟩
  | post s rs => exact ⟨hfault nofun, post_sides h.side⟩
  | process s rs mem =>
    obtain ⟨hs, hf⟩ := @process_sides _ s rs mem h.side h.fault (of_decide_eq_true hg)
    exact ⟨hf, hs⟩
  | echo s nomem => exact ⟨hfault nofun, echo_sides h.side⟩
  | connect s r => exact ⟨hfault nofun, connect_sides h.side⟩
  | accept s r => exact ⟨hfault nofun, accept_sides h.side (of_decide_eq_true hg)⟩
  | setup s status => exact ⟨hfault nofun, setup_sides h.side⟩

theorem init_sound : Sound {} := by
  refine ⟨rfl, fun s => ⟨⟨nofun, nofun⟩, fun _ => ⟨[], nofun, rfl⟩, fun _ => ⟨[], Nat.le_refl _, nofun, rfl⟩,
    nofun, nofun, fun _ _ => ⟨rfl, rfl, rfl, rfl⟩, nofun, List.nodup_nil, nofun,
    fun _ _ => ⟨rfl, rfl⟩, fun h => absurd rfl h⟩⟩

theorem Sound.framed (h : Sound n) : n.Framed := by
  intro s k
  obtain ⟨rest, hw⟩ := (h.side s).written k
  have hother := h.side s.other
  rw [Net.Side, Side.other_other] at hother
  obtain ⟨buf, hr⟩ := hother.read k
  exact hr.framed hw

end

/-- In every run of the two machines in which frames are within the size of the buffer, a connection is
accepted with nothing left over of the one before and there is memory for what comes in, the frames
handed on are on each connection the first of those sent on it. -/
theorem frames_kept {evs : List Event} (ho : Obeys step (fun n ev => Event.clean n ev = true) {} evs) :
    (runEvents {} evs).Framed :=
  (ho.run_inv (fun _ _ h hg => step_sound h hg) init_sound).framed

/-- An active machine, a standby that connects to it, and a frame that the kernel sends in two parts. -/
def sampleChannel : List Event :=
  [.setup .first .ACTIVE, .setup .second .STANDBY, .connect .second .ok, .accept .first .ok,
    .add .first 2 [0, 0, 9, 9, 0, 1, 0, 4], .post .first [.bytes 8]]

theorem frames_kept_sample :
    (runEvents {} (sampleChannel ++ [.process .second [.bytes 3, .bytes 9] [], .post .first [.bytes 9],
      .process .second [.bytes 9] []])).Framed :=
  frames_kept (by decide +kernel)

/-- The standby loses the connection and makes another, which replaces the first: the second part of
the frame goes out on the new connection, and the standby takes it for a frame. -/
theorem frame_spliced :
    ¬ (runEvents {} (sampleChannel ++ [.process .second [.error] [], .connect .second .ok,
      .accept .first .ok, .post .first [.bytes 9], .process .second [.bytes 9] []])).Framed := by
  intro h
  exact absurd (h .first 1) (by decide +kernel)

end Channel
end DaemonGroup
