import DaemonGroup.Pppoe.Control

/-!
# DaemonGroup.Pppoe.Buffers

`pppoe_buf.h` with its four pointers, and what `control_process` and `rdc_recvfrom` do to a buffer
while they parse a packet.

A trace is the buffer after each operation on it, in order. The handlers take the length of the packet
from its own header and trim the buffer to it, which fails if the packet is longer than what was
received; then they pull the header off. Nothing says that the packet is as long as its header, and if
it is not, the length wraps (`buffers_in_order`).
-/

namespace DaemonGroup
namespace Pppoe

open Lib

def DEFAULT_BUF_SIZE : Nat := 4096
def PPP_HEADER_LEN : Nat := 2
def sizeofPppoeCtl : Nat := 4
def sizeofRdcPacket : Nat := 48

/-- `struct pppoe_buf`: addresses, and a length that is a `uint32`. -/
structure PppoeBuf where
  head : Int
  data : Int
  tail : Int
  end_ : Int
  len : Nat
deriving DecidableEq, Repr

/-- `pbuf_alloc` of `size` octets at `head`. -/
def pbufAlloc (head : Int) (size : Nat) : PppoeBuf :=
  { head := head, data := head, tail := head, end_ := head + size, len := 0 }

namespace PppoeBuf

/-- `pbuf_init` -/
def init (b : PppoeBuf) : PppoeBuf := { b with data := b.head, tail := b.head, len := 0 }

/-- `pbuf_put` -/
def put (b : PppoeBuf) (n : Nat) : PppoeBuf :=
  { b with tail := b.tail + n, len := (b.len + n) % 4294967296 }

/-- `pbuf_push` -/
def push (b : PppoeBuf) (n : Nat) : PppoeBuf :=
  { b with data := b.data - n, len := (b.len + n) % 4294967296 }

/-- `pbuf_trim`; `none` stands for the length error. -/
def trim (b : PppoeBuf) (n : Nat) : Option PppoeBuf :=
  if n > b.len then none else some { b with len := n, tail := b.data + n }

/-- `pbuf_pull` -/
def pull (b : PppoeBuf) (n : Nat) : PppoeBuf :=
  { b with data := b.data + n, len := (b.len + 4294967296 - n) % 4294967296 }

/-- `pbuf_may_pull` -/
def mayPull (b : PppoeBuf) (n : Nat) : Bool := n ≤ b.len

/-- `pbuf_tailroom(pbuf) < n`: the room is an `int`, and compared as a `uint32`. -/
def noTailroom (b : PppoeBuf) (n : Nat) : Bool := ((b.end_ - b.tail) % 4294967296).toNat < n

/-- `n` octets have been received at the data pointer. -/
def recv (b : PppoeBuf) (n : Nat) : PppoeBuf := { b with len := n, tail := b.data + n }

/-- `pbuf_trim(pbuf, 0)`, whose result nobody looks at. -/
def trim0 (b : PppoeBuf) : PppoeBuf := (b.trim 0).getD b

/-- The pointers are in order and the length is the distance of two of them. -/
structure Ok (b : PppoeBuf) : Prop where
  head_le : b.head ≤ b.data
  data_le : b.data ≤ b.tail
  tail_le : b.tail ≤ b.end_
  len_eq : (b.len : Int) = b.tail - b.data

end PppoeBuf

/-- The buffer after each operation. -/
abbrev Trace := List PppoeBuf

/-- A Nak or a Reject of `n` octets is put in the place of the options. -/
def confTrace (b : PppoeBuf) (n : Nat) : Trace :=
  if b.trim0.noTailroom n then [b.trim0] else [b.trim0, b.trim0.put n]

/-! ## LCP -/

def lcpConfReqTrace (c : Ctx) (q : Pbuf) (b : PppoeBuf) : Trace :=
  match ciWalk id (lcpReqOption c.sess) q { options := c.options } with
  | .inr _ => []
  | .inl a =>
    if a.rej ≠ [] then confTrace b a.rej.length
    else if a.nak ≠ [] then confTrace b a.nak.length
    else []

/-- The Configure-Request that answers a Configure-Nak is put together without a look at the room. -/
def lcpConfNakTrace (c : Ctx) (q : Pbuf) (b : PppoeBuf) : Trace :=
  match ciWalk (fun a => (a, CODEREJ)) (lcpNakOption c.sess) q { options := c.options } with
  | .inr (_, code) => if code = TERMREQ then [b.trim0] else []
  | .inl a =>
    let b₁ := b.trim0
    let b₂ := b₁.put CILEN_SHORT
    let b₃ := b₂.put (if a.auth_type = 0 ∨ a.auth_type = PPP_CHAP then CILEN_CHAP else CILEN_SHORT)
    [b₁, b₂, b₃, b₃.put CILEN_LONG]

/-- `lcp_process` from the switch on. -/
def lcpCodeTrace (c : Ctx) (ctl : PppoeCtl) (q : Pbuf) (b : PppoeBuf) : Trace :=
  let s := c.sess
  if ctl.code = 0 ∨ ctl.code > lcpCodenames then []
  else if ctl.code = CONFREQ then
    if s.state.num > SessState.LCPPOSTOPEN.num then [] else lcpConfReqTrace c q b
  else if ctl.code = CONFNAK ∨ ctl.code = CONFREJ then
    if s.state ≠ .LCPPOSTOPEN ∨ ctl.ident ≠ s.ident then []
    else if ctl.code = CONFNAK then lcpConfNakTrace c q b
    else [b.trim0]
  else if ctl.code = TERMREQ then [b.trim0]
  else if ctl.code = CODEREJ then
    if s.state.num ≥ SessState.LCPOPEN.num ∨ ctl.ident ≠ s.ident then [] else [b.trim0]
  else []

/-! ## IPCP, CHAP and CCP -/

def ipcpConfReqTrace (e : Env) (c : Ctx) (q : Pbuf) (b : PppoeBuf) : Trace :=
  match ciWalk (fun a => (a, IpcpStop.coderej)) (ipcpReqOption e) q { ctx := c } with
  | .inr _ => []
  | .inl a =>
    if a.rej ≠ [] then confTrace b a.rej.length
    else if a.nak ≠ [] then confTrace b a.nak.length
    else []

def ipcpConfNakTrace (c : Ctx) (q : Pbuf) (b : PppoeBuf) : Trace :=
  match ciWalk (fun _ => false) (ipcpNakOption c.options) q () with
  | .inr true => [b.trim0]
  | _ => []

def ipcpConfRejTrace (c : Ctx) (q : Pbuf) (b : PppoeBuf) : Trace :=
  match ciWalk id (ipcpRejOption c.options) q () with
  | .inr _ => []
  | .inl _ => [b.trim0]

/-- `ipcp_process` from the switch on. -/
def ipcpCodeTrace (e : Env) (c : Ctx) (ctl : PppoeCtl) (q : Pbuf) (b : PppoeBuf) : Trace :=
  let s := c.sess
  if ctl.code = 0 ∨ ctl.code > ipcpCodenames then []
  else if ctl.code = CONFREQ then
    if s.state ≠ .IPCPPOSTOPEN then [] else ipcpConfReqTrace e c q b
  else if ctl.code = CONFNAK ∨ ctl.code = CONFREJ then
    if s.state ≠ .IPCPPOSTOPEN ∨ ctl.ident ≠ s.ident then []
    else if ctl.code = CONFNAK then ipcpConfNakTrace c q b
    else ipcpConfRejTrace c q b
  else if ctl.code = TERMREQ then [b.trim0]
  else []

/-- `chap_process` from the switch on: only a Response is taken, and its password is pulled off. -/
def chapCodeTrace (ctl : PppoeCtl) (q : Pbuf) (b : PppoeBuf) : Trace :=
  if ctl.code = CHAP_RESPONSE then
    if b.mayPull (RADIUS_PASSWORD_LEN + 1) = false ∨ getChar q.data 0 ≠ RADIUS_PASSWORD_LEN then []
    else [b.pull (RADIUS_PASSWORD_LEN + 1)]
  else []

/-- `ccp_process` from the switch on. -/
def ccpCodeTrace (ctl : PppoeCtl) (b : PppoeBuf) : Trace :=
  if ctl.code = CONFREQ ∨ ctl.code = TERMREQ ∨ ctl.code = CODEREJ then [b.trim0] else []

/-! ## The frame -/

/-- The states in which the handler of a protocol takes a packet. -/
def protoState (proto : Nat) (st : SessState) : Bool :=
  if proto = PPP_LCP then SessState.INIT.num ≤ st.num ∧ st.num < SessState.LCPCLOSE.num
  else if proto = PPP_CHAP then st = .AUTHPRE
  else if proto = PPP_IPCP then SessState.IPCPPOSTOPEN.num ≤ st.num ∧ st.num < SessState.IPCPCLOSE.num
  else if proto = PPP_CCP then SessState.LCPOPEN.num ≤ st.num ∧ st.num < SessState.LCPCLOSE.num
  else false

/-- What follows the header of the packet, by protocol. -/
def codeTrace (e : Env) (c : Ctx) (proto : Nat) (ctl : PppoeCtl) (q : Pbuf) (b : PppoeBuf) : Trace :=
  if proto = PPP_LCP then lcpCodeTrace c ctl q b
  else if proto = PPP_CHAP then chapCodeTrace ctl q b
  else if proto = PPP_IPCP then ipcpCodeTrace e c ctl q b
  else ccpCodeTrace ctl b

/-- `lcp_process`, `chap_process`, `ipcp_process` and `ccp_process` begin alike: the state, the length
of the packet, its header. `b` is the buffer from the header on. -/
def protoTrace (e : Env) (c : Ctx) (f : Frame) (b : PppoeBuf) : Trace :=
  if protoState f.proto c.sess.state then
    match b.trim f.ctl.length with
    | none => []
    | some b₁ =>
      let b₂ := b₁.pull sizeofPppoeCtl
      b₁ :: b₂ :: codeTrace e c f.proto f.ctl { data := f.pbuf.data.drop 4, len := b₂.len } b₂
  else []

/-- `control_process` up to its reply, for a frame that was received into `b`. `found` is what the
handler works on when there is a session with the ID and the MAC of the frame. -/
def controlTrace (found : Option (Env × Ctx)) (f : Frame) (b : PppoeBuf) : Trace :=
  let b₀ := b.init
  let b₁ := b₀.recv f.bytes.length
  match found with
  | none => [b₀, b₁]
  | some (e, c) =>
    if b₁.mayPull (PPP_HEADER_LEN + sizeofPppoeCtl) then
      let b₂ := b₁.pull PPP_HEADER_LEN
      let t := protoTrace e c f b₂
      [b₀, b₁, b₂] ++ t ++
        (if 0 < (pppProtoProcess e f c).1.1 then
          [(t.getLastD b₂).push (PPP_HEADER_LEN + sizeofPppoeCtl)]
        else [])
    else [b₀, b₁]

/-- `rdc_recvfrom`, for a datagram received into `b`; the length field of its header is at 6. -/
def rdcTrace (bytes : Bytes) (b : PppoeBuf) : Trace :=
  if bytes.length ≤ sizeofRdcPacket then []
  else
    let b₁ := b.recv bytes.length
    match b₁.trim (getShort bytes 6) with
    | none => [b₁]
    | some b₂ => [b₁, b₂, b₂.pull sizeofRdcPacket]

/-! ## Operations on a buffer in order -/

namespace PppoeBuf

variable {b : PppoeBuf} {n : Nat}

theorem Ok.trim0 (h : b.Ok) : b.trim0.Ok ∧ b.trim0.data = b.data ∧ b.trim0.tail = b.data ∧
    b.trim0.end_ = b.end_ ∧ b.trim0.head = b.head := by
  have htrim : b.trim0 = { b with len := 0, tail := b.data + (0 : Nat) } := by
    simp [PppoeBuf.trim0, trim]
  obtain ⟨h1, h2, h3, -⟩ := h
  rw [htrim]
  refine ⟨⟨h1, ?_, ?_, ?_⟩, rfl, ?_, rfl, rfl⟩
  all_goals
    dsimp only
    omega

/-- There is room for `n` octets more. -/
theorem Ok.put (h : b.Ok) (hn : b.tail + n ≤ b.end_) (hsize : b.end_ - b.head ≤ 65535) :
    (b.put n).Ok := by
  obtain ⟨h1, h2, h3, h4⟩ := h
  refine ⟨h1, ?_, hn, ?_⟩
  all_goals
    simp only [PppoeBuf.put]
    omega

theorem Ok.push (h : b.Ok) (hn : b.head + n ≤ b.data) (hsize : b.end_ - b.head ≤ 65535) :
    (b.push n).Ok := by
  obtain ⟨h1, h2, h3, h4⟩ := h
  refine ⟨?_, ?_, h3, ?_⟩
  all_goals
    simp only [PppoeBuf.push]
    omega

/-- A pull is legal if there is that much, and not otherwise. -/
theorem Ok.pull_iff (h : b.Ok) (hsize : b.end_ - b.head ≤ 65535) (hn : n ≤ 65535) :
    (b.pull n).Ok ↔ n ≤ b.len := by
  obtain ⟨h1, h2, h3, h4⟩ := h
  constructor
  · rintro ⟨k1, k2, k3, k4⟩
    simp only [PppoeBuf.pull] at k2
    omega
  · intro hle
    refine ⟨?_, ?_, h3, ?_⟩
    all_goals
      simp only [PppoeBuf.pull]
      omega

theorem Ok.trim (h : b.Ok) {b' : PppoeBuf} (ht : b.trim n = some b') :
    b'.Ok ∧ b'.len = n ∧ b'.data = b.data ∧ b'.head = b.head ∧ b'.end_ = b.end_ := by
  unfold PppoeBuf.trim at ht
  split at ht
  · exact nomatch ht
  · obtain rfl := Option.some.inj ht
    obtain ⟨h1, h2, h3, h4⟩ := h
    refine ⟨⟨h1, ?_, ?_, ?_⟩, rfl, rfl, rfl, rfl⟩
    all_goals
      dsimp only
      omega

theorem Ok.noTailroom (h : b.Ok) (hsize : b.end_ - b.head ≤ 65535) :
    b.noTailroom n = decide (b.end_ < b.tail + n) := by
  obtain ⟨h1, h2, h3, h4⟩ := h
  rw [PppoeBuf.noTailroom, decide_eq_decide]
  omega

end PppoeBuf

/-! ## The handlers behind the header -/

/-- A buffer reached from `b` with the pointers in order and nothing pushed back. -/
structure Follows (b x : PppoeBuf) : Prop where
  ok : x.Ok
  data_le : b.data ≤ x.data
  head_eq : x.head = b.head
  end_eq : x.end_ = b.end_

section
variable {b : PppoeBuf} {e : Env} {c : Ctx} {q : Pbuf} {ctl : PppoeCtl} {n : Nat}

theorem Follows.trim0 (h : b.Ok) : Follows b b.trim0 :=
  ⟨h.trim0.1, Int.le_of_eq h.trim0.2.1.symm, h.trim0.2.2.2.2, h.trim0.2.2.2.1⟩

theorem confTrace_follows (h : b.Ok) (hsize : b.end_ - b.head ≤ 65535) :
    ∀ x ∈ confTrace b n, Follows b x := by
  obtain ⟨hok, hdata, htail, hend, hhead⟩ := h.trim0
  have hsize' : b.trim0.end_ - b.trim0.head ≤ 65535 := by rw [hend, hhead]; exact hsize
  intro x hx
  unfold confTrace at hx
  rw [hok.noTailroom hsize'] at hx
  split at hx
  · obtain rfl := List.mem_singleton.mp hx
    exact .trim0 h
  · rename_i hroom
    simp only [decide_eq_true_eq] at hroom
    rcases List.mem_cons.mp hx with rfl | hx
    · exact .trim0 h
    · obtain rfl := List.mem_singleton.mp hx
      exact ⟨hok.put (by omega) hsize', Int.le_of_eq hdata.symm, hhead, hend⟩

theorem lcpConfReqTrace_follows (h : b.Ok) (hsize : b.end_ - b.head ≤ 65535) :
    ∀ x ∈ lcpConfReqTrace c q b, Follows b x := by
  intro x hx
  unfold lcpConfReqTrace at hx
  split at hx
  · exact nomatch hx
  · split at hx
    · exact confTrace_follows h hsize x hx
    · split at hx
      · exact confTrace_follows h hsize x hx
      · exact nomatch hx

theorem lcpConfNakTrace_follows (h : b.Ok) (hsize : b.end_ - b.head ≤ 65535)
    (hroom : b.data + 15 ≤ b.end_) : ∀ x ∈ lcpConfNakTrace c q b, Follows b x := by
  obtain ⟨hok, hdata, htail, hend, hhead⟩ := h.trim0
  intro x hx
  unfold lcpConfNakTrace at hx
  split at hx
  · split at hx
    · obtain rfl := List.mem_singleton.mp hx
      exact .trim0 h
    · exact nomatch hx
  · rename_i a _
    -- at most 4 + 5 + 6 octets
    generalize hk : (if a.auth_type = 0 ∨ a.auth_type = PPP_CHAP then CILEN_CHAP else CILEN_SHORT) = k
      at hx
    have hk5 : k ≤ 5 := by
      rw [← hk]
      split <;> decide
    have hsize' : b.trim0.end_ - b.trim0.head ≤ 65535 := by rw [hend, hhead]; exact hsize
    have h₂ : (b.trim0.put CILEN_SHORT).Ok :=
      hok.put (by rw [htail, hend]; simp only [CILEN_SHORT]; omega) hsize'
    have h₃ : ((b.trim0.put CILEN_SHORT).put k).Ok := by
      refine h₂.put ?_ hsize'
      simp only [PppoeBuf.put, CILEN_SHORT, htail, hend]
      omega
    have h₄ : (((b.trim0.put CILEN_SHORT).put k).put CILEN_LONG).Ok := by
      refine h₃.put ?_ hsize'
      simp only [PppoeBuf.put, CILEN_SHORT, CILEN_LONG, htail, hend]
      omega
    simp only [List.mem_cons, List.not_mem_nil, or_false] at hx
    rcases hx with rfl | rfl | rfl | rfl
    · exact .trim0 h
    · exact ⟨h₂, Int.le_of_eq hdata.symm, hhead, hend⟩
    · exact ⟨h₃, Int.le_of_eq hdata.symm, hhead, hend⟩
    · exact ⟨h₄, Int.le_of_eq hdata.symm, hhead, hend⟩

theorem lcpCodeTrace_follows (h : b.Ok) (hsize : b.end_ - b.head ≤ 65535)
    (hroom : b.data + 15 ≤ b.end_) : ∀ x ∈ lcpCodeTrace c ctl q b, Follows b x := by
  intro x hx
  unfold lcpCodeTrace at hx
  dsimp only at hx
  split at hx
  · exact nomatch hx
  split at hx
  · split at hx
    · exact nomatch hx
    · exact lcpConfReqTrace_follows h hsize x hx
  split at hx
  · split at hx
    · exact nomatch hx
    split at hx
    · exact lcpConfNakTrace_follows h hsize hroom x hx
    · exact List.mem_singleton.mp hx ▸ .trim0 h
  split at hx
  · exact List.mem_singleton.mp hx ▸ .trim0 h
  split at hx
  · split at hx
    · exact nomatch hx
    · exact List.mem_singleton.mp hx ▸ .trim0 h
  · exact nomatch hx

theorem ipcpConfReqTrace_follows (h : b.Ok) (hsize : b.end_ - b.head ≤ 65535) :
    ∀ x ∈ ipcpConfReqTrace e c q b, Follows b x := by
  intro x hx
  unfold ipcpConfReqTrace at hx
  split at hx
  · exact nomatch hx
  · split at hx
    · exact confTrace_follows h hsize x hx
    · split at hx
      · exact confTrace_follows h hsize x hx
      · exact nomatch hx

theorem ipcpCodeTrace_follows (h : b.Ok) (hsize : b.end_ - b.head ≤ 65535) :
    ∀ x ∈ ipcpCodeTrace e c ctl q b, Follows b x := by
  intro x hx
  unfold ipcpCodeTrace ipcpConfNakTrace ipcpConfRejTrace at hx
  dsimp only at hx
  split at hx
  · exact nomatch hx
  split at hx
  · split at hx
    · exact nomatch hx
    · exact ipcpConfReqTrace_follows h hsize x hx
  split at hx
  · split at hx
    · exact nomatch hx
    split at hx
    · split at hx
      · exact List.mem_singleton.mp hx ▸ .trim0 h
      · exact nomatch hx
    · split at hx
      · exact nomatch hx
      · exact List.mem_singleton.mp hx ▸ .trim0 h
  split at hx
  · exact List.mem_singleton.mp hx ▸ .trim0 h
  · exact nomatch hx

theorem chapCodeTrace_follows (h : b.Ok) (hsize : b.end_ - b.head ≤ 65535) :
    ∀ x ∈ chapCodeTrace ctl q b, Follows b x := by
  intro x hx
  unfold chapCodeTrace at hx
  split at hx
  · split at hx
    · exact nomatch hx
    · rename_i hmay
      have hlen : RADIUS_PASSWORD_LEN + 1 ≤ b.len := by
        simpa [PppoeBuf.mayPull] using (not_or.mp hmay).1
      obtain rfl := List.mem_singleton.mp hx
      exact ⟨(h.pull_iff hsize (by decide)).mpr hlen, by simp only [PppoeBuf.pull]; omega, rfl, rfl⟩
  · exact nomatch hx

theorem ccpCodeTrace_follows (h : b.Ok) : ∀ x ∈ ccpCodeTrace ctl b, Follows b x := by
  intro x hx
  unfold ccpCodeTrace at hx
  split at hx
  · exact List.mem_singleton.mp hx ▸ .trim0 h
  · exact nomatch hx

theorem codeTrace_follows {proto : Nat} (h : b.Ok) (hsize : b.end_ - b.head ≤ 65535)
    (hroom : b.data + 15 ≤ b.end_) : ∀ x ∈ codeTrace e c proto ctl q b, Follows b x := by
  intro x hx
  unfold codeTrace at hx
  split at hx
  · exact lcpCodeTrace_follows h hsize hroom x hx
  split at hx
  · exact chapCodeTrace_follows h hsize x hx
  split at hx
  · exact ipcpCodeTrace_follows h hsize x hx
  · exact ccpCodeTrace_follows h x hx

end

/-! ## The frame -/

/-- The handler gets as far as the header of the packet. -/
def reachesHeader (s : Session) (f : Frame) : Prop :=
  PPP_HEADER_LEN + sizeofPppoeCtl ≤ f.bytes.length ∧ protoState f.proto s.state ∧
    f.ctl.length ≤ f.bytes.length - PPP_HEADER_LEN

section
variable {e : Env} {c : Ctx} {f : Frame}

/-- A handler that does not get as far as the header has nothing to reply. -/
theorem pppProtoProcess_early
    (h : ¬(protoState f.proto c.sess.state ∧ f.ctl.length ≤ f.bytes.length - PPP_HEADER_LEN)) :
    (pppProtoProcess e f c).1.1 < 0 := by
  have hlen : f.pbuf.len = f.bytes.length - PPP_HEADER_LEN := rfl
  have htrim : ¬f.ctl.length ≤ f.bytes.length - PPP_HEADER_LEN → f.pbuf.trim f.ctl.length = none := by
    intro hlt
    rw [Pbuf.trim, hlen, if_pos (by omega)]
  have hctl : ctlOf f.pbuf.data = f.ctl := rfl
  have hESTATE : PPPOEERR_ESTATE < 0 := by decide
  have hELENGTH : PPPOEERR_ELENGTH < 0 := by decide
  unfold pppProtoProcess
  by_cases hl : f.proto = PPP_LCP
  · rw [if_pos hl, lcpProcess, bind_run, get_run, hctl]
    by_cases hst : c.sess.state.num < SessState.INIT.num ∨ c.sess.state.num ≥ SessState.LCPCLOSE.num
    · rw [if_pos hst]
      exact hESTATE
    · have hpass : protoState f.proto c.sess.state := by
        simp only [protoState, hl, if_true, decide_eq_true_eq]
        omega
      rw [if_neg hst, htrim fun hle => h ⟨hpass, hle⟩]
      exact hELENGTH
  by_cases hc : f.proto = PPP_CHAP
  · rw [if_neg hl, if_pos hc, chapProcess, bind_run, get_run, hctl]
    by_cases hst : c.sess.state ≠ .AUTHPRE
    · rw [if_pos hst]
      exact hESTATE
    · have hpass : protoState f.proto c.sess.state := by
        rw [protoState, if_neg hl, if_pos hc]
        simpa using hst
      rw [if_neg hst, htrim fun hle => h ⟨hpass, hle⟩]
      exact hELENGTH
  by_cases hi : f.proto = PPP_IPCP
  · rw [if_neg hl, if_neg hc, if_pos hi, ipcpProcess, bind_run, get_run, hctl]
    by_cases hst : c.sess.state.num < SessState.IPCPPOSTOPEN.num ∨
        c.sess.state.num ≥ SessState.IPCPCLOSE.num
    · rw [if_pos hst]
      exact hESTATE
    · have hpass : protoState f.proto c.sess.state := by
        rw [protoState, if_neg hl, if_neg hc, if_pos hi, decide_eq_true_eq]
        omega
      rw [if_neg hst, htrim fun hle => h ⟨hpass, hle⟩]
      exact hELENGTH
  by_cases hp : f.proto = PPP_CCP
  · rw [if_neg hl, if_neg hc, if_neg hi, if_pos hp, ccpProcess, bind_run, get_run, hctl]
    by_cases hst : c.sess.state.num < SessState.LCPOPEN.num ∨
        c.sess.state.num ≥ SessState.LCPCLOSE.num
    · rw [if_pos hst]
      exact hESTATE
    · have hpass : protoState f.proto c.sess.state := by
        rw [protoState, if_neg hl, if_neg hc, if_neg hi, if_pos hp, decide_eq_true_eq]
        omega
      rw [if_neg hst, htrim fun hle => h ⟨hpass, hle⟩]
      exact hELENGTH
  · rw [if_neg hl, if_neg hc, if_neg hi, if_neg hp]
    exact (by decide : PPPOEERR_ENOEXIST < 0)

/-- The buffer when the frame is in it, and when its protocol field has been pulled off. -/
theorem received_ok {b : PppoeBuf} (hb : b.end_ = b.head + DEFAULT_BUF_SIZE)
    (hf : f.bytes.length ≤ DEFAULT_BUF_SIZE) : (b.init.recv f.bytes.length).Ok := by
  simp only [DEFAULT_BUF_SIZE] at hb hf
  refine ⟨?_, ?_, ?_, ?_⟩
  all_goals
    simp only [PppoeBuf.init, PppoeBuf.recv]
    omega

section
variable {b : PppoeBuf}

theorem protoTrace_early (hlen : b.len = f.bytes.length - PPP_HEADER_LEN)
    (h : ¬(protoState f.proto c.sess.state ∧ f.ctl.length ≤ f.bytes.length - PPP_HEADER_LEN)) :
    protoTrace e c f b = [] := by
  unfold protoTrace
  by_cases hst : protoState f.proto c.sess.state
  · have hlt : ¬f.ctl.length ≤ f.bytes.length - PPP_HEADER_LEN := fun hle => h ⟨hst, hle⟩
    have htrim : b.trim f.ctl.length = none := by
      rw [PppoeBuf.trim, hlen, if_pos (by omega)]
    rw [if_pos hst, htrim]
  · rw [if_neg hst]

/-- The packet, trimmed to its length, and what is left when its header has been pulled off. -/
theorem protoTrace_reached (hb : b.Ok) (hlen : b.len = f.bytes.length - PPP_HEADER_LEN)
    (hst : protoState f.proto c.sess.state)
    (hle : f.ctl.length ≤ f.bytes.length - PPP_HEADER_LEN) :
    ∃ b₁ q, b₁.Ok ∧ b₁.len = f.ctl.length ∧ b₁.data = b.data ∧ b₁.head = b.head ∧
      b₁.end_ = b.end_ ∧ protoTrace e c f b = b₁ :: b₁.pull sizeofPppoeCtl ::
        codeTrace e c f.proto f.ctl q (b₁.pull sizeofPppoeCtl) := by
  have htrim : b.trim f.ctl.length =
      some { b with len := f.ctl.length, tail := b.data + f.ctl.length } := by
    rw [PppoeBuf.trim, hlen, if_neg (by omega)]
  obtain ⟨h1, h2, h3, h4, h5⟩ := hb.trim htrim
  generalize { b with len := f.ctl.length, tail := b.data + f.ctl.length } = b₁ at *
  refine ⟨b₁, { data := f.pbuf.data.drop 4, len := (b₁.pull sizeofPppoeCtl).len },
    h1, h2, h3, h4, h5, ?_⟩
  rw [protoTrace, if_pos hst, htrim]

/-- A packet that is shorter than its header leaves a buffer that is not in order. -/
theorem protoTrace_short (hb : b.Ok) (hend : b.end_ = b.head + DEFAULT_BUF_SIZE)
    (hlen : b.len = f.bytes.length - PPP_HEADER_LEN) (hst : protoState f.proto c.sess.state)
    (hle : f.ctl.length ≤ f.bytes.length - PPP_HEADER_LEN) (hshort : f.ctl.length < sizeofPppoeCtl) :
    ∃ x ∈ protoTrace e c f b, ¬x.Ok := by
  obtain ⟨b₁, q, hok, hlen₁, hdata, hhead, hend₁, htrace⟩ :=
    protoTrace_reached (e := e) (c := c) hb hlen hst hle
  refine ⟨b₁.pull sizeofPppoeCtl, by rw [htrace]; simp, fun hbad => ?_⟩
  have hsize : b₁.end_ - b₁.head ≤ 65535 := by
    rw [hend₁, hhead, hend]
    simp only [DEFAULT_BUF_SIZE]
    omega
  have := (hok.pull_iff hsize (by decide)).mp hbad
  omega

/-- One that has its header leaves all in order, and the header can be pushed back. -/
theorem protoTrace_whole (hb : b.Ok) (hdata : b.data = b.head + PPP_HEADER_LEN)
    (hend : b.end_ = b.head + DEFAULT_BUF_SIZE) (hlen : b.len = f.bytes.length - PPP_HEADER_LEN)
    (hst : protoState f.proto c.sess.state)
    (hle : f.ctl.length ≤ f.bytes.length - PPP_HEADER_LEN) (hwhole : sizeofPppoeCtl ≤ f.ctl.length) :
    (∀ x ∈ protoTrace e c f b, x.Ok) ∧
      (((protoTrace e c f b).getLastD b).push (PPP_HEADER_LEN + sizeofPppoeCtl)).Ok := by
  obtain ⟨b₁, q, hok, hlen₁, hdata₁, hhead₁, hend₁, htrace⟩ :=
    protoTrace_reached (e := e) (c := c) hb hlen hst hle
  have hsize : b₁.end_ - b₁.head ≤ 65535 := by
    rw [hend₁, hhead₁, hend]
    simp only [DEFAULT_BUF_SIZE]
    omega
  have hok₂ := (hok.pull_iff hsize (by decide : sizeofPppoeCtl ≤ 65535)).mpr (by omega)
  have hself : Follows (b₁.pull sizeofPppoeCtl) (b₁.pull sizeofPppoeCtl) :=
    ⟨hok₂, Int.le_refl _, rfl, rfl⟩
  have hrest : ∀ x ∈ codeTrace e c f.proto f.ctl q (b₁.pull sizeofPppoeCtl),
      Follows (b₁.pull sizeofPppoeCtl) x := by
    refine codeTrace_follows hok₂ hsize ?_
    simp only [PppoeBuf.pull, hdata₁, hend₁, hdata, hend, DEFAULT_BUF_SIZE, sizeofPppoeCtl,
      PPP_HEADER_LEN]
    omega
  have hlast : Follows (b₁.pull sizeofPppoeCtl) ((protoTrace e c f b).getLastD b) := by
    rw [htrace, List.getLastD_cons, List.getLastD_cons]
    cases hcode : codeTrace e c f.proto f.ctl q (b₁.pull sizeofPppoeCtl) with
    | nil => exact hself
    | cons x t =>
      rw [hcode] at hrest
      rw [List.getLastD_eq_getLast?, List.getLast?_eq_some_getLast (by simp), Option.getD_some]
      exact hrest _ (List.getLast_mem _)
  constructor
  · intro x hx
    rw [htrace] at hx
    rcases List.mem_cons.mp hx with rfl | hx
    · exact hok
    rcases List.mem_cons.mp hx with rfl | hx
    · exact hok₂
    · exact (hrest x hx).ok
  · refine hlast.ok.push ?_ ?_
    · have := hlast.data_le
      rw [hlast.head_eq]
      simp only [PppoeBuf.pull, hdata₁, hdata, hhead₁, sizeofPppoeCtl, PPP_HEADER_LEN] at this ⊢
      omega
    · rw [hlast.head_eq, hlast.end_eq]
      exact hsize

/-- What `control_process` does to its buffer is in order, but for a packet that is taken and is
shorter than its header. -/
theorem controlTrace_ok_iff {found : Option (Env × Ctx)}
    (hb : b.end_ = b.head + DEFAULT_BUF_SIZE) (hf : f.bytes.length ≤ DEFAULT_BUF_SIZE) :
    (∀ x ∈ controlTrace found f b, x.Ok) ↔
      ∀ e c, found = some (e, c) → reachesHeader c.sess f → sizeofPppoeCtl ≤ f.ctl.length := by
  have hinit : b.init.Ok := by
    refine ⟨Int.le_refl _, Int.le_refl _, ?_, ?_⟩
    all_goals
      simp only [PppoeBuf.init, hb]
      omega
  have hrecv := received_ok hb hf
  have hfirst : ∀ x ∈ [b.init, b.init.recv f.bytes.length], x.Ok := by
    intro x hx
    simp only [List.mem_cons, List.not_mem_nil, or_false] at hx
    rcases hx with rfl | rfl
    · exact hinit
    · exact hrecv
  cases found with
  | none =>
    refine ⟨fun _ e c h => ?_, fun _ => hfirst⟩
    exact nomatch h
  | some p =>
    obtain ⟨e, c⟩ := p
    by_cases h6 : PPP_HEADER_LEN + sizeofPppoeCtl ≤ f.bytes.length
    · have hmay : (b.init.recv f.bytes.length).mayPull (PPP_HEADER_LEN + sizeofPppoeCtl) :=
        decide_eq_true h6
      have hsize : b.head + (DEFAULT_BUF_SIZE : Int) - b.head ≤ 65535 := by
        simp only [DEFAULT_BUF_SIZE]
        omega
      generalize hb₂ : (b.init.recv f.bytes.length).pull PPP_HEADER_LEN = b₂
      have hok₂ : b₂.Ok := by
        rw [← hb₂]
        refine (hrecv.pull_iff ?_ (by decide)).mpr ?_
        · simp only [PppoeBuf.recv, PppoeBuf.init, hb]
          exact hsize
        · simp only [PppoeBuf.recv]
          omega
      have hdata : b₂.data = b₂.head + PPP_HEADER_LEN := by rw [← hb₂]; rfl
      have hend : b₂.end_ = b₂.head + DEFAULT_BUF_SIZE := by rw [← hb₂]; exact hb
      have hlen : b₂.len = f.bytes.length - PPP_HEADER_LEN := by
        rw [← hb₂]
        simp only [PppoeBuf.pull, PppoeBuf.recv, PPP_HEADER_LEN, sizeofPppoeCtl,
          DEFAULT_BUF_SIZE] at h6 hf ⊢
        omega
      have htrace : controlTrace (some (e, c)) f b = [b.init, b.init.recv f.bytes.length, b₂] ++
          protoTrace e c f b₂ ++ (if 0 < (pppProtoProcess e f c).1.1 then
            [((protoTrace e c f b₂).getLastD b₂).push (PPP_HEADER_LEN + sizeofPppoeCtl)] else []) := by
        simp only [controlTrace, hmay, if_true, hb₂]
      have hmem : ∀ x, x ∈ controlTrace (some (e, c)) f b ↔
          (x ∈ [b.init, b.init.recv f.bytes.length] ∨ x = b₂) ∨ x ∈ protoTrace e c f b₂ ∨
          (0 < (pppProtoProcess e f c).1.1 ∧
            x = ((protoTrace e c f b₂).getLastD b₂).push (PPP_HEADER_LEN + sizeofPppoeCtl)) := by
        intro x
        rw [htrace, List.mem_append, List.mem_append, or_assoc]
        refine or_congr (by simp [or_assoc]) (or_congr Iff.rfl ?_)
        by_cases hpos : 0 < (pppProtoProcess e f c).1.1 <;> simp [hpos]
      by_cases hreach : protoState f.proto c.sess.state ∧
          f.ctl.length ≤ f.bytes.length - PPP_HEADER_LEN
      · constructor
        · rintro hall e' c' he -
          obtain ⟨rfl, rfl⟩ := Prod.mk.inj (Option.some.inj he)
          by_contra hshort
          obtain ⟨x, hx, hbad⟩ := protoTrace_short (e := e) (c := c) hok₂ hend hlen hreach.1 hreach.2
            (by omega)
          exact hbad (hall x ((hmem x).mpr (.inr (.inl hx))))
        · intro hcond x hx
          obtain ⟨hproto, hpush⟩ := protoTrace_whole (e := e) (c := c) hok₂ hdata hend hlen hreach.1
            hreach.2 (hcond e c rfl ⟨h6, hreach⟩)
          rcases (hmem x).mp hx with (hx | rfl) | hx | ⟨-, rfl⟩
          · exact hfirst x hx
          · exact hok₂
          · exact hproto x hx
          · exact hpush
      · refine ⟨fun _ e' c' he hr => ?_, fun _ x hx => ?_⟩
        · obtain ⟨rfl, rfl⟩ := Prod.mk.inj (Option.some.inj he)
          exact absurd hr.2 hreach
        · have hneg := pppProtoProcess_early (e := e) hreach
          rcases (hmem x).mp hx with (hx | rfl) | hx | ⟨hpos, -⟩
          · exact hfirst x hx
          · exact hok₂
          · rw [protoTrace_early hlen hreach] at hx
            exact nomatch hx
          · omega
    · have hmay : ¬(b.init.recv f.bytes.length).mayPull (PPP_HEADER_LEN + sizeofPppoeCtl) :=
        fun hmay => h6 (of_decide_eq_true hmay)
      have htrace : controlTrace (some (e, c)) f b = [b.init, b.init.recv f.bytes.length] := by
        simp only [controlTrace, hmay]
        rfl
      rw [htrace]
      refine ⟨fun _ e' c' he hr => ?_, fun _ => hfirst⟩
      obtain ⟨rfl, rfl⟩ := Prod.mk.inj (Option.some.inj he)
      exact absurd hr.1 h6

/-- What `rdc_recvfrom` does to its buffer is in order, but for a datagram that says to be no longer
than what was received and to be shorter than its header. -/
theorem rdcTrace_ok_iff {bytes : Bytes} (hb : b.Ok) (hsize : b.end_ - b.head ≤ 65535)
    (hf : (bytes.length : Int) ≤ b.end_ - b.data) :
    (∀ x ∈ rdcTrace bytes b, x.Ok) ↔
      (sizeofRdcPacket < bytes.length → getShort bytes 6 ≤ bytes.length →
        sizeofRdcPacket ≤ getShort bytes 6) := by
  have hrecv : (b.recv bytes.length).Ok := by
    obtain ⟨h1, h2, h3, h4⟩ := hb
    refine ⟨h1, ?_, ?_, ?_⟩
    all_goals
      simp only [PppoeBuf.recv]
      omega
  unfold rdcTrace
  by_cases hlen : bytes.length ≤ sizeofRdcPacket
  · rw [if_pos hlen]
    exact ⟨fun _ h => absurd hlen (by omega), fun _ x hx => nomatch hx⟩
  · rw [if_neg hlen]
    dsimp only
    cases htrim : (b.recv bytes.length).trim (getShort bytes 6) with
    | none =>
      have hgt : ¬getShort bytes 6 ≤ bytes.length := by
        intro hle
        rw [PppoeBuf.trim, if_neg (by simp only [PppoeBuf.recv]; omega)] at htrim
        exact nomatch htrim
      refine ⟨fun _ _ hle => absurd hle hgt, fun _ x hx => ?_⟩
      obtain rfl := List.mem_singleton.mp hx
      exact hrecv
    | some b₂ =>
      obtain ⟨hok, hlen₂, hdata, hhead, hend⟩ := hrecv.trim htrim
      have hpull := hok.pull_iff (n := sizeofRdcPacket)
        (by rw [hend, hhead]; simp only [PppoeBuf.recv]; exact hsize) (by decide)
      rw [hlen₂] at hpull
      constructor
      · intro hall _ _
        exact hpull.mp (hall _ (by simp))
      · intro hcond x hx
        have hle : getShort bytes 6 ≤ bytes.length := by
          by_contra hgt
          rw [PppoeBuf.trim, if_pos (by simp only [PppoeBuf.recv]; omega)] at htrim
          exact nomatch htrim
        simp only [List.mem_cons, List.not_mem_nil, or_false] at hx
        rcases hx with rfl | rfl | rfl
        · exact hrecv
        · exact hok
        · exact hpull.mpr (hcond (by omega) hle)

end

end

/-- The buffer stays in order while a packet is parsed if and only if the packet, where its length is
no more than what was received, is as long as its header: for a frame of a session in a state its
protocol takes packets in, and for a datagram of the RADIUS distributor. -/
theorem buffers_in_order (found : Option (Env × Ctx)) (f : Frame) (b : PppoeBuf) (bytes : Bytes)
    (r : PppoeBuf) (hb : b.end_ = b.head + DEFAULT_BUF_SIZE)
    (hf : f.bytes.length ≤ DEFAULT_BUF_SIZE) (hr : r.Ok) (hsize : r.end_ - r.head ≤ 65535)
    (hlen : (bytes.length : Int) ≤ r.end_ - r.data) :
    ((∀ x ∈ controlTrace found f b, x.Ok) ↔
      ∀ e c, found = some (e, c) → reachesHeader c.sess f → sizeofPppoeCtl ≤ f.ctl.length) ∧
    ((∀ x ∈ rdcTrace bytes r, x.Ok) ↔
      (sizeofRdcPacket < bytes.length → getShort bytes 6 ≤ bytes.length →
        sizeofRdcPacket ≤ getShort bytes 6)) :=
  ⟨controlTrace_ok_iff hb hf, rdcTrace_ok_iff hr hsize hlen⟩

/-- An LCP Terminate-Request of four octets, and a datagram of the distributor too short to be
looked at. -/
theorem buffers_in_order_sample :
    (∀ x ∈ controlTrace (some ({}, { sess := { state := .LCPPOSTOPEN } }))
      { bytes := [0xc0, 0x21, 5, 1, 0, 4] } (pbufAlloc 0 DEFAULT_BUF_SIZE), x.Ok) ∧
    ∀ x ∈ rdcTrace (List.replicate 12 0) (pbufAlloc 0 DEFAULT_BUF_SIZE), x.Ok := by
  have hok : (pbufAlloc 0 DEFAULT_BUF_SIZE).Ok := ⟨by decide, by decide, by decide, by decide⟩
  have h := buffers_in_order (some ({}, { sess := { state := .LCPPOSTOPEN } }))
    { bytes := [0xc0, 0x21, 5, 1, 0, 4] } (pbufAlloc 0 DEFAULT_BUF_SIZE) (List.replicate 12 0)
    (pbufAlloc 0 DEFAULT_BUF_SIZE) rfl (by decide) hok (by decide) (by decide)
  exact ⟨h.1.mpr fun e c _ _ => by decide, h.2.mpr fun hlt => absurd hlt (by decide)⟩

/-- An LCP Configure-Request with length 0, and a datagram of the distributor with length 0. -/
theorem buffers_wrap :
    (¬∀ x ∈ controlTrace (some ({}, { sess := { state := .INIT } }))
      { bytes := [0xc0, 0x21, 1, 1, 0, 0] } (pbufAlloc 0 DEFAULT_BUF_SIZE), x.Ok) ∧
    ¬∀ x ∈ rdcTrace (List.replicate 49 0) (pbufAlloc 0 DEFAULT_BUF_SIZE), x.Ok := by
  constructor
  · intro h
    have hlen := (controlTrace_ok_iff rfl (by decide)).mp h {} { sess := { state := .INIT } } rfl
      ⟨by decide, by decide, by decide⟩
    exact absurd hlen (by decide)
  · intro h
    have hok : (pbufAlloc 0 DEFAULT_BUF_SIZE).Ok := ⟨by decide, by decide, by decide, by decide⟩
    have hlen := (rdcTrace_ok_iff hok (by decide) (by decide)).mp h (by decide) (by decide)
    exact absurd hlen (by decide)

end Pppoe
end DaemonGroup
