import DaemonGroup.Channel.Framing

/-!
# DaemonGroup.Channel.Extraction

The inner loop of `backup_process` on the octets of any peer. It takes off the buffer as many octets as the
length field of a frame says, and looks only for fields that are too large. A field of zero makes no progress, and
one of 1..3 takes a part of the head (`extracted_iff`).
-/

namespace DaemonGroup
namespace Channel

open Lib
open Pppoe (Bytes BackupStatus getShort putShort)

/-! ## Every `pbuf_pull` -/

/-- What the inner loop takes off the buffer: how much is buffered, and how much of it is taken. -/
def cutPulls : Nat → Bytes → List (Nat × Nat)
  | 0, _ => []
  | fuel + 1, buf =>
    if buf.length < BACKUP_HEADER_LEN then []
    else if getShort buf 2 > DEFAULT_BUF_SIZE then []
    else if getShort buf 2 > buf.length then []
    else (buf.length, getShort buf 2) :: cutPulls fuel (buf.drop (getShort buf 2))

/-- What a call of `backup_process` takes off the buffer. -/
def recvPulls : List RecvResult → List (List Bool) → Backup → Stream → List (Nat × Nat)
  | [], _, _, _ => []
  | r :: rs, mem, e, x =>
    match r with
    | .eintr => recvPulls rs mem.tail e x
    | .eagain | .error | .closed => []
    | .bytes n =>
      if e.recv.length ≥ DEFAULT_BUF_SIZE then []
      else if recvSize e x n = 0 then []
      else
        let buf := recvBuf e x (recvSize e x n)
        let c := cutLoop (buf.length + 1) (mem.headD []) buf
        let x' := x.read (recvSize e x n) (c.1.map Prod.snd)
        let e' := (c.1.map Prod.fst).foldl protoProcess e
        cutPulls (buf.length + 1) buf ++
          match c.2 with
          | .move rest => recvPulls rs mem.tail { e' with recv := rest } x'
          | .length | .loops => []

/-- A call of `backup_process`: the results of `recv` and where there is memory. -/
abbrev Call := List RecvResult × List (List Bool)

/-- The calls of a connection end when it is given up or when one of them does not return. -/
def recvCalls : List Call → Backup → Stream → List (Nat × Nat) × Bool
  | [], _, _ => ([], false)
  | c :: cs, e, x =>
    if e.sk = none then ([], false)
    else
      let r := recvLoop c.1 c.2 e x
      if r.2.2 then (recvPulls c.1 c.2 e x, true)
      else
        let rest := recvCalls cs r.1 r.2.1
        (recvPulls c.1 c.2 e x ++ rest.1, rest.2)

/-- Every call returns, no more is taken off the buffer than it holds, and nothing shorter than a head is
taken for a frame. -/
structure Extracted (cs : List Call) (e : Backup) (x : Stream) : Prop where
  ends : (recvCalls cs e x).2 = false
  within : ∀ p ∈ (recvCalls cs e x).1, p.2 ≤ p.1
  rejected : ∀ p ∈ (recvCalls cs e x).1, BACKUP_HEADER_LEN ≤ p.2

/-- Frame by frame a length field that is too small is met. Behind one that is too large the octets that are
buffered are dropped, from 4 to 4096 of them. -/
inductive ShortAhead : Bytes → Prop where
  | here {l : Bytes} : BACKUP_HEADER_LEN ≤ l.length → getShort l 2 < BACKUP_HEADER_LEN → ShortAhead l
  | next {l : Bytes} : BACKUP_HEADER_LEN ≤ l.length → BACKUP_HEADER_LEN ≤ getShort l 2 →
      getShort l 2 ≤ DEFAULT_BUF_SIZE → ShortAhead (l.drop (getShort l 2)) → ShortAhead l
  | skip {l : Bytes} {n : Nat} : DEFAULT_BUF_SIZE < getShort l 2 → BACKUP_HEADER_LEN ≤ n →
      n ≤ DEFAULT_BUF_SIZE → n ≤ l.length → ShortAhead (l.drop n) → ShortAhead l

/-! ## The inner loop -/

section
variable {buf tail : Bytes} {fuel : Nat} {mem : List Bool}

theorem cutPulls_within : ∀ p ∈ cutPulls fuel buf, p.2 ≤ p.1 := by
  induction fuel generalizing buf with
  | zero => exact nofun
  | succ fuel ih =>
    rw [cutPulls]
    split_ifs
    · exact nofun
    · exact nofun
    · exact nofun
    · intro p hp
      rcases List.mem_cons.mp hp with rfl | hp
      · exact Nat.le_of_not_lt ‹_›
      · exact ih p hp

/-- With a length of zero at its head the buffer stays as it is, however many rounds there are. -/
theorem cutLoop_stuck (hlen : BACKUP_HEADER_LEN ≤ buf.length) (hzero : getShort buf 2 = 0) :
    (cutLoop fuel mem buf).2 = .loops := by
  induction fuel generalizing mem with
  | zero => rfl
  | succ fuel ih =>
    rw [cutLoop, if_neg (Nat.not_lt.mpr hlen), hzero, if_neg (Nat.not_lt_zero _), if_neg (Nat.not_lt_zero _),
      List.drop_zero]
    dsimp only
    split <;> exact ih

/-- How the inner loop ends on the first octets of a stream in which no length field is too small. -/
theorem cutLoop_ends (h : ¬ ShortAhead (buf ++ tail)) (hfuel : buf.length < fuel)
    (hroom : buf.length ≤ DEFAULT_BUF_SIZE) :
    (∀ p ∈ cutPulls fuel buf, BACKUP_HEADER_LEN ≤ p.2) ∧
      ((∃ rest, (cutLoop fuel mem buf).2 = .move rest ∧ ¬ ShortAhead (rest ++ tail) ∧
          rest.length < DEFAULT_BUF_SIZE) ∨
        (cutLoop fuel mem buf).2 = .length ∧ ¬ ShortAhead tail) := by
  induction fuel generalizing buf mem with
  | zero => exact absurd hfuel (Nat.not_lt_zero _)
  | succ fuel ih =>
    have hfour : BACKUP_HEADER_LEN = 4 := rfl
    have hsize : DEFAULT_BUF_SIZE = 4096 := rfl
    rw [cutPulls, cutLoop]
    by_cases hhead : buf.length < BACKUP_HEADER_LEN
    · rw [if_pos hhead, if_pos hhead]
      exact ⟨List.forall_mem_nil _, .inl ⟨buf, rfl, h, by omega⟩⟩
    have hread : getShort (buf ++ tail) 2 = getShort buf 2 :=
      getShort_prefix (by omega) (List.prefix_append _ _)
    have hlen : BACKUP_HEADER_LEN ≤ (buf ++ tail).length := by
      rw [List.length_append]
      omega
    rw [if_neg hhead, if_neg hhead]
    by_cases hbig : getShort buf 2 > DEFAULT_BUF_SIZE
    · rw [if_pos hbig, if_pos hbig]
      refine ⟨List.forall_mem_nil _, .inr ⟨rfl, fun ht => h (.skip (n := buf.length) ?_ ?_ hroom ?_ ?_)⟩⟩
      · rw [hread]
        exact hbig
      · omega
      · rw [List.length_append]
        exact Nat.le_add_right _ _
      · rw [List.drop_left]
        exact ht
    rw [if_neg hbig, if_neg hbig]
    by_cases hpart : getShort buf 2 > buf.length
    · rw [if_pos hpart, if_pos hpart]
      exact ⟨List.forall_mem_nil _, .inl ⟨buf, rfl, h, by omega⟩⟩
    rw [if_neg hpart, if_neg hpart]
    have hle : BACKUP_HEADER_LEN ≤ getShort buf 2 := by
      by_contra hshort
      exact h (.here hlen (by rw [hread]; omega))
    have hrest : ¬ ShortAhead (buf.drop (getShort buf 2) ++ tail) := by
      intro hs
      refine h (.next hlen (by rw [hread]; exact hle) (by rw [hread]; omega) ?_)
      rw [hread, List.drop_append_of_le_length (by omega)]
      exact hs
    have hdrop : (buf.drop (getShort buf 2)).length = buf.length - getShort buf 2 := List.length_drop
    obtain ⟨hpulls, hend⟩ := @ih (buf.drop (getShort buf 2)) mem.tail hrest (by omega) (by omega)
    constructor
    · intro p hp
      rcases List.mem_cons.mp hp with rfl | hp
      · exact hle
      · exact hpulls p hp
    · dsimp only
      split <;> exact hend

end

/-! ## Calls -/

section
variable {e : Backup} {x : Stream} {rs : List RecvResult} {mem : List (List Bool)} {n : Nat}

/-- The octets that have not been read. -/
def Stream.ahead (x : Stream) : Bytes := x.sent.drop x.got

theorem recvBuf_ahead {fs : List Bytes} {m : Nat} :
    recvBuf e x m ++ (x.read m fs).ahead = e.recv ++ x.ahead := by
  show (e.recv ++ (x.sent.drop x.got).take m) ++ x.sent.drop (x.got + m) = _
  rw [List.append_assoc, ← List.drop_drop, List.take_append_drop]
  rfl

theorem recvBuf_room (h : e.recv.length < DEFAULT_BUF_SIZE) :
    (recvBuf e x (recvSize e x n)).length ≤ DEFAULT_BUF_SIZE := by
  rw [recvBuf, List.length_append, List.length_take, recvSize]
  omega

theorem recvPulls_within : ∀ p ∈ recvPulls rs mem e x, p.2 ≤ p.1 := by
  induction rs generalizing mem e x with
  | nil => exact List.forall_mem_nil _
  | cons r rs ih =>
    cases r with
    | eintr => exact ih
    | eagain => exact List.forall_mem_nil _
    | error => exact List.forall_mem_nil _
    | closed => exact List.forall_mem_nil _
    | bytes n =>
      rw [recvPulls]
      split_ifs
      · exact List.forall_mem_nil _
      · exact List.forall_mem_nil _
      · intro p hp
        rcases List.mem_append.mp hp with hp | hp
        · exact cutPulls_within p hp
        · split at hp
          · exact ih p hp
          · cases hp
          · cases hp

/-- Nothing that is ahead is too small, and the buffer has room. -/
structure Clear (e : Backup) (x : Stream) : Prop where
  ahead : ¬ ShortAhead (e.recv ++ x.ahead)
  room : e.recv.length < DEFAULT_BUF_SIZE

theorem disconnect_clear (h : Clear e x) :
    (backupDisconnect e).sk = none ∨ Clear (backupDisconnect e) x := by
  rw [backupDisconnect]
  split
  · exact .inl rfl
  · exact .inl rfl
  · exact .inr h

theorem recvLoop_clear (h : Clear e x) :
    (recvLoop rs mem e x).2.2 = false ∧ (∀ p ∈ recvPulls rs mem e x, BACKUP_HEADER_LEN ≤ p.2) ∧
      ((recvLoop rs mem e x).1.sk = none ∨ Clear (recvLoop rs mem e x).1 (recvLoop rs mem e x).2.1) := by
  induction rs generalizing mem e x with
  | nil => exact ⟨rfl, List.forall_mem_nil _, .inr ⟨h.ahead, h.room⟩⟩
  | cons r rs ih =>
    cases r with
    | eintr => exact ih h
    | eagain => exact ⟨rfl, List.forall_mem_nil _, .inr ⟨h.ahead, h.room⟩⟩
    | error => exact ⟨rfl, List.forall_mem_nil _, disconnect_clear h⟩
    | closed => exact ⟨rfl, List.forall_mem_nil _, disconnect_clear h⟩
    | bytes n =>
      rw [recvLoop, recvPulls, if_neg (Nat.not_le.mpr h.room), if_neg (Nat.not_le.mpr h.room)]
      split_ifs
      · exact ⟨rfl, List.forall_mem_nil _, .inr ⟨h.ahead, h.room⟩⟩
      dsimp only
      have hahead : ¬ ShortAhead (recvBuf e x (recvSize e x n) ++ (x.read (recvSize e x n)
          ((cutLoop ((recvBuf e x (recvSize e x n)).length + 1) (mem.headD [])
            (recvBuf e x (recvSize e x n))).1.map Prod.snd)).ahead) := by
        rw [recvBuf_ahead]
        exact h.ahead
      obtain ⟨hpulls, hend⟩ := @cutLoop_ends _ _ _ (mem.headD []) hahead (Nat.lt_succ_self _) (recvBuf_room h.room)
      generalize List.foldl protoProcess e _ = e'
      generalize x.read _ _ = x' at hend ⊢
      rcases hend with ⟨rest, hcut, hahead, hroom⟩ | ⟨hcut, hahead⟩
      · rw [hcut]
        have hnext : Clear { e' with recv := rest } x' := ⟨hahead, hroom⟩
        obtain ⟨hflag, hp, hkeep⟩ := @ih _ _ mem.tail hnext
        refine ⟨hflag, ?_, hkeep⟩
        intro p hmem
        rcases List.mem_append.mp hmem with hmem | hmem
        · exact hpulls p hmem
        · exact hp p hmem
      · rw [hcut]
        refine ⟨rfl, ?_, .inr ⟨hahead, Nat.succ_pos 4095⟩⟩
        rw [List.append_nil]
        exact hpulls

theorem Extracted.of_clear {cs : List Call} (h : Clear e x) : Extracted cs e x := by
  suffices hall : (recvCalls cs e x).2 = false ∧
      ∀ p ∈ (recvCalls cs e x).1, p.2 ≤ p.1 ∧ BACKUP_HEADER_LEN ≤ p.2 from
    ⟨hall.1, fun p hp => (hall.2 p hp).1, fun p hp => (hall.2 p hp).2⟩
  induction cs generalizing e x with
  | nil => exact ⟨rfl, nofun⟩
  | cons c cs ih =>
    obtain ⟨hflag, hpulls, hkeep⟩ := @recvLoop_clear _ _ c.1 c.2 h
    rw [recvCalls]
    split
    · exact ⟨rfl, nofun⟩
    dsimp only
    rw [hflag, if_neg Bool.false_ne_true]
    have hrest : (recvCalls cs (recvLoop c.1 c.2 e x).1 (recvLoop c.1 c.2 e x).2.1).2 = false ∧
        ∀ p ∈ (recvCalls cs (recvLoop c.1 c.2 e x).1 (recvLoop c.1 c.2 e x).2.1).1,
          p.2 ≤ p.1 ∧ BACKUP_HEADER_LEN ≤ p.2 := by
      rcases hkeep with hnone | hclear
      · cases cs with
        | nil => exact ⟨rfl, nofun⟩
        | cons c' cs =>
          rw [recvCalls, if_pos hnone]
          exact ⟨rfl, nofun⟩
      · exact ih hclear
    refine ⟨hrest.1, ?_⟩
    intro p hp
    rcases List.mem_append.mp hp with hp | hp
    · exact ⟨recvPulls_within p hp, hpulls p hp⟩
    · exact hrest.2 p hp

/-! ## A field that is met -/

theorem ShortAhead.length {l : Bytes} (h : ShortAhead l) : BACKUP_HEADER_LEN ≤ l.length := by
  cases h with
  | here hlen _ => exact hlen
  | next hlen _ _ _ => exact hlen
  | skip _ hn _ hle _ => exact hn.trans hle

/-- What a call leaves for those that follow it. -/
theorem Extracted.rest {c : Call} {cs : List Call} (h : Extracted (c :: cs) e x) (hsk : e.sk ≠ none)
    (hret : (recvLoop c.1 c.2 e x).2.2 = false) :
    Extracted cs (recvLoop c.1 c.2 e x).1 (recvLoop c.1 c.2 e x).2.1 := by
  have hcalls : recvCalls (c :: cs) e x =
      (recvPulls c.1 c.2 e x ++ (recvCalls cs (recvLoop c.1 c.2 e x).1 (recvLoop c.1 c.2 e x).2.1).1,
        (recvCalls cs (recvLoop c.1 c.2 e x).1 (recvLoop c.1 c.2 e x).2.1).2) := by
    rw [recvCalls, if_neg hsk]
    dsimp only
    rw [hret, if_neg Bool.false_ne_true]
  obtain ⟨hends, hwithin, hrej⟩ := h
  rw [hcalls] at hends hwithin hrej
  exact ⟨hends, fun p hp => hwithin p (List.mem_append_right _ hp),
    fun p hp => hrej p (List.mem_append_right _ hp)⟩

/-- The first call takes nothing too short off the buffer. -/
theorem Extracted.first {c : Call} {cs : List Call} (h : Extracted (c :: cs) e x) (hsk : e.sk ≠ none) :
    ∀ p ∈ recvPulls c.1 c.2 e x, BACKUP_HEADER_LEN ≤ p.2 := by
  intro p hp
  refine h.rejected p ?_
  rw [recvCalls, if_neg hsk]
  dsimp only
  split
  · exact hp
  · exact List.mem_append_left _ hp

/-- A call that receives `n` octets into an empty buffer. -/
theorem recvBuf_empty (hrecv : e.recv = []) (hn : n ≤ DEFAULT_BUF_SIZE) (hlen : n ≤ x.ahead.length) :
    recvSize e x n = n ∧ recvBuf e x n = x.ahead.take n := by
  have hl : x.ahead.length = x.sent.length - x.got := List.length_drop
  constructor
  · rw [recvSize, hrecv, ← hl]
    simp only [List.length_nil]
    omega
  · rw [recvBuf, hrecv]
    rfl

theorem take_getShort {l : Bytes} (hn : BACKUP_HEADER_LEN ≤ n) (hlen : n ≤ l.length) :
    getShort (l.take n) 2 = getShort l 2 := by
  have hfour : BACKUP_HEADER_LEN = 4 := rfl
  have hle : 4 ≤ (l.take n).length := by
    rw [List.length_take]
    omega
  have hp : l.take n <+: l := List.take_prefix n l
  exact Eq.symm <| getShort_prefix hle hp

/-- A call that receives `n` octets into an empty buffer and leaves it empty. -/
theorem recvLoop_one (hrecv : e.recv = []) (hpos : n ≠ 0) (hn : n ≤ DEFAULT_BUF_SIZE) (hlen : n ≤ x.ahead.length)
    (hcut : (cutLoop (n + 1) [] (x.ahead.take n)).2 = .move [] ∨
      (cutLoop (n + 1) [] (x.ahead.take n)).2 = .length) :
    (recvLoop [.bytes n] [] e x).2.2 = false ∧ (recvLoop [.bytes n] [] e x).1.sk = e.sk ∧
      (recvLoop [.bytes n] [] e x).1.recv = [] ∧
      (recvLoop [.bytes n] [] e x).2.1.ahead = x.ahead.drop n := by
  obtain ⟨hm, hbuf⟩ := recvBuf_empty hrecv hn hlen
  have htake : (x.ahead.take n).length = n := by
    rw [List.length_take]
    omega
  have hahead : ∀ fs, (x.read n fs).ahead = x.ahead.drop n := fun fs => List.drop_drop.symm
  have hsk : ∀ ps : List Nat, (ps.foldl protoProcess e).sk = e.sk := fun ps => protoFold_called.sk
  rw [recvLoop, hrecv, if_neg (by decide), hm, if_neg hpos]
  dsimp only
  rw [hbuf, htake]
  rcases hcut with hcut | hcut
  · rw [show List.headD ([] : List (List Bool)) [] = [] from rfl, hcut]
    exact ⟨rfl, hsk _, rfl, hahead _⟩
  · rw [show List.headD ([] : List (List Bool)) [] = [] from rfl, hcut]
    exact ⟨rfl, hsk _, rfl, hahead _⟩

/-- If a field that is too small is ahead, the octets may come in so that it is met: frame by frame. -/
theorem ShortAhead.met {l : Bytes} (h : ShortAhead l) (hl : x.ahead = l) (hsk : e.sk ≠ none)
    (hrecv : e.recv = []) : ∃ cs, ¬ Extracted cs e x := by
  have hfour : BACKUP_HEADER_LEN = 4 := rfl
  have hsize : DEFAULT_BUF_SIZE = 4096 := rfl
  induction h generalizing e x with
  | @here l hlen hshort =>
    refine ⟨[([.bytes BACKUP_HEADER_LEN], [])], fun hex => ?_⟩
    obtain ⟨hm, hbuf⟩ := recvBuf_empty (x := x) hrecv (n := BACKUP_HEADER_LEN) (by omega) (by rw [hl]; exact hlen)
    have hfirst := hex.first hsk (BACKUP_HEADER_LEN, getShort l 2) ?_
    · exact absurd hfirst (Nat.not_le.mpr hshort)
    have htake : (l.take BACKUP_HEADER_LEN).length = BACKUP_HEADER_LEN := by
      rw [List.length_take]
      omega
    have hfield := take_getShort (l := l) (n := BACKUP_HEADER_LEN) (Nat.le_refl _) hlen
    rw [recvPulls, hrecv, if_neg (by decide), hm, if_neg (by decide)]
    dsimp only
    rw [hbuf, hl, cutPulls, htake, hfield, if_neg (by omega), if_neg (by omega), if_neg (by omega)]
    exact List.mem_append_left _ List.mem_cons_self
  | @next l hlen hle hroom hrest ih =>
    -- the frame comes in alone and is taken off the buffer
    have hwhole : getShort l 2 ≤ l.length := by
      have := hrest.length
      rw [List.length_drop] at this
      omega
    have htake : (l.take (getShort l 2)).length = getShort l 2 := by
      rw [List.length_take]
      omega
    have hcut : (cutLoop (getShort l 2 + 1) [] (l.take (getShort l 2))).2 = .move [] := by
      rw [cutLoop, take_getShort hle hwhole, htake, if_neg (by omega), if_neg (by omega), if_neg (by omega),
        List.drop_take, Nat.sub_self, List.take_zero]
      have hend : cutLoop (getShort l 2) [] [] = ([], .move []) := by
        obtain ⟨m, hm⟩ : ∃ m, getShort l 2 = m + 1 := Nat.exists_eq_add_one.mpr (by omega)
        rw [hm]
        rfl
      exact congrArg Prod.snd hend
    obtain ⟨hret, hsk', hrecv', hahead⟩ := recvLoop_one (x := x) hrecv (n := getShort l 2) (by omega) (by omega)
      (by rw [hl]; exact hwhole) (.inl (by rw [hl]; exact hcut))
    obtain ⟨cs, hcs⟩ := ih (hahead.trans (by rw [hl])) (hsk' ▸ hsk) hrecv'
    exact ⟨([.bytes (getShort l 2)], []) :: cs, fun hex => hcs (hex.rest hsk hret)⟩
  | @skip l n hbig hn hroom hle hrest ih =>
    have hcut : (cutLoop (n + 1) [] (l.take n)).2 = .length := by
      rw [cutLoop, take_getShort hn hle, List.length_take, if_neg (by omega), if_pos hbig]
    obtain ⟨hret, hsk', hrecv', hahead⟩ := recvLoop_one (x := x) hrecv (n := n) (by omega) hroom
      (by rw [hl]; exact hle) (.inr (by rw [hl]; exact hcut))
    obtain ⟨cs, hcs⟩ := ih (hahead.trans (by rw [hl])) (hsk' ▸ hsk) hrecv'
    exact ⟨([.bytes n], []) :: cs, fun hex => hcs (hex.rest hsk hret)⟩

/-- For every sequence of octets on a new connection, however they come in: the inner loop ends, takes no more than
there is and rejects what is shorter than a head, if and only if no such length field is met frame by frame. -/
theorem extracted_iff (hsk : e.sk ≠ none) (hrecv : e.recv = []) :
    (∀ cs, Extracted cs e x) ↔ ¬ ShortAhead x.ahead := by
  constructor
  · intro h hs
    obtain ⟨cs, hcs⟩ := hs.met rfl hsk hrecv
    exact hcs (h cs)
  · intro h cs
    refine .of_clear ⟨?_, ?_⟩
    · rw [hrecv]
      exact h
    · rw [hrecv]
      exact Nat.succ_pos 4095

/-- The beginning of a connection on which an active machine gets the octets `l`. -/
def accepted : Backup := { sk := some 0, status := .ACTIVE, c_state := .CONNECT }

theorem extracted_iff_echo :
    (∀ cs, Extracted cs accepted { sent := echoPacket BACKUP_ECHO_REQUEST }) ↔
      ¬ ShortAhead (Stream.ahead { sent := echoPacket BACKUP_ECHO_REQUEST }) :=
  extracted_iff nofun rfl

/-- A head with the length zero is taken off the buffer again and again. -/
theorem empty_frame_loops :
    (recvCalls [([.bytes 4], [])] accepted { sent := [0, 0, 0, 0] }).2 = true ∧
      ¬ Extracted [([.bytes 4], [])] accepted { sent := [0, 0, 0, 0] } :=
  ⟨by decide, fun h => absurd h.ends (by decide)⟩

end

end Channel
end DaemonGroup
