import DaemonGroup.Pppoe.RadiusPacket
import Mathlib.Algebra.Order.Ring.Nat

/-!
# DaemonGroup.Pppoe.RadiusReq

The requests of `pppoe_radius.c`: which identifier a request gets, how it is tied to its session,
and the retransmission timer.
-/

namespace DaemonGroup
namespace Pppoe

def Radius.setId (r : Radius) (p : RadPtr) (v : RadiusId) : Radius :=
  { r with id := fun q => if q = p then v else r.id q }

@[simp] theorem Radius.setId_same {r : Radius} {p : RadPtr} {v : RadiusId} :
    (r.setId p v).id p = v := by
  simp [Radius.setId]

@[simp] theorem Radius.setId_other {r : Radius} {p q : RadPtr} {v : RadiusId} (h : q ≠ p) :
    (r.setId p v).id q = r.id q := by
  simp [Radius.setId, h]

/-! ## Identifiers -/

/-- `radius_sock_create` and `radius_sock_init`: a socket with all its identifiers free. -/
def radiusSockCreate (r : Radius) : Radius :=
  { r with
    socks := r.socks + 1
    curr_id := fun k => if k = r.socks then 0 else r.curr_id k
    id := fun p => if p.sock = r.socks then {} else r.id p }

/-- The identifier at the head of the free list, if its time has come. -/
def radiusFreeHead (e : Env) (r : Radius) : Option RadPtr :=
  match r.free_list with
  | p :: _ => if e.now ≥ (r.id p).freetime then some p else none
  | [] => none

/-- The choice that `radius_get_free_id` makes, before it notes the time: the identifier at the
head of the free list, whatever its status; else the next one of the newest socket; else the first
one of a new socket. -/
def radiusPickId (e : Env) (r : Radius) : Option (RadPtr × Radius) :=
  match radiusFreeHead e r with
  | some p => some (p, { r with free_list := r.free_list.tail })
  | none =>
    if r.socks ≠ 0 ∧ r.curr_id (r.socks - 1) ≠ 0xff then
      let k := r.socks - 1
      let i := r.curr_id k + 1
      some (⟨k, i⟩, { r with curr_id := fun j => if j = k then i else r.curr_id j })
    else if e.fail .radiusSock then
      none
    else
      some (⟨r.socks, 0⟩, radiusSockCreate r)

def radiusGetFreeId (e : Env) (r : Radius) : Option (RadPtr × Radius) :=
  (radiusPickId e r).map fun q =>
    (q.1, { q.2.setId q.1 { q.2.id q.1 with freetime := e.now + 24 } with
      free_list := q.2.free_list ++ [q.1] })

/-! ## A session and its identifier -/

/-- `_radius_sess_check`. -/
def _radiusSessCheck (e : Env) : M Int := do
  let c ← get
  match c.sess.priv_data with
  | none => return PPPOEERR_EINVAL
  | some p =>
    if (c.rad.id p).status ≠ .USED ∨ (c.rad.id p).sess ≠ some e.self then
      update fun s => { s with priv_data := none }
      return PPPOEERR_EINVAL
    else
      return PPPOEERR_SUCCESS

/-- `_radius_sess_setup`. -/
def _radiusSessSetup (e : Env) (k : ReqKind) (p : RadPtr) (pack : RadiusPacket) : M Unit :=
  modify fun c =>
    { c with
      sess := { c.sess with priv_data := some p }
      rad := c.rad.setId p
        { c.rad.id p with status := .USED, sess := some e.self, req_pack := pack, kind := k } }

/-- `_radius_sess_clean`: it follows `priv_data` without looking at it. -/
def _radiusSessClean : M Unit :=
  modify fun c =>
    match c.sess.priv_data with
    | none => { c with fault := true }
    | some p =>
      { c with
        sess := { c.sess with priv_data := none }
        rad := c.rad.setId p { c.rad.id p with status := .FREE, sess := none } }

/-- The server a request goes to: the backup one when it is configured and the session has used up
more than half of its retries. -/
def reqServer (e : Env) (s : Session) (code : Nat) : RadiusServer :=
  let late := s.retryTimes ≥ s.retryMaxTimes / 2 + 1
  if code = RADIUS_CODE_ACCESS_REQUEST then
    if e.cfg.srv.backup_auth.ip ≠ 0 ∧ late then e.cfg.srv.backup_auth else e.cfg.srv.auth
  else
    if e.cfg.srv.backup_acct.ip ≠ 0 ∧ late then e.cfg.srv.backup_acct else e.cfg.srv.acct

/-- The packet as it is sent. -/
def reqPacket (e : Env) (s : Session) (p : RadPtr) (b : RadiusBuf) : RadiusBuf :=
  let b := { b with pack := { b.pack with id := p.id } }
  if b.pack.code = RADIUS_CODE_ACCESS_REQUEST then b
  else radiusAcctreqAuthenticator b (reqServer e s b.pack.code).secret

def _radiusSessReq (e : Env) (k : ReqKind) (p : RadPtr) (b : RadiusBuf) : M Int := do
  let s := (← get).sess
  let pkt := reqPacket e s p b
  _radiusSessSetup e k p pkt.pack
  emit e .radiusSend (.radius (reqServer e s b.pack.code) p.sock pkt.bytes)

def radiusReq (e : Env) (k : ReqKind) (b : RadiusBuf) : M Int := do
  let c ← get
  match radiusGetFreeId e c.rad with
  | none => return PPPOEERR_ENOMEM
  | some (p, r) =>
    set { c with rad := r }
    let ret ← _radiusSessReq e k p b
    if ret = PPPOEERR_SUCCESS then
      mark (.request k)
    return ret

def radiusSessRetransportSetup (e : Env) : M Int := do
  if (← get).sess.retrans ≠ .none then
    sessionTimerUpdate .RETRANS
  else
    sessionTimerInit e .RETRANS

/-! ## The requests -/

/-- A request that is retransmitted until it is answered: prepare the session, build the packet,
send it, start the timer. -/
def radiusRequest (e : Env) (k : ReqKind) (code : Nat) (prep : Session → Session)
    (pack : Session → RadiusBuf → RadiusBuf) : M Int := do
  update fun s => prep { s with retryTimes := 0, retryMaxTimes := 3 }
  let ret ← radiusReq e k (pack (← get).sess (radiusPacketInit code e.rand))
  if ret ≠ PPPOEERR_SUCCESS then
    return ret
  radiusSessRetransportSetup e

def hexDigit (n : Nat) : Byte := UInt8.ofNat (if n < 10 then 48 + n else 87 + n)

/-- `"%08x"`. -/
def hex8 (n : Nat) : Bytes :=
  (List.range 8).map fun i => hexDigit (n / 16 ^ (7 - i) % 16)

/-- `_radius_acctSessID_init`. -/
def _radiusAcctSessIDInit (e : Env) (s : Session) : Session :=
  { s with
    acctSessID := hex8 (e.time % 4294967296) ++
      hex8 (s.sid % 65536 + e.cfg.pid % 65536 * 65536) }

def radiusAuthReq (e : Env) : M Int :=
  radiusRequest e .auth RADIUS_CODE_ACCESS_REQUEST id (packetAuthReq e.cfg)

def radiusAcctStart (e : Env) : M Int :=
  radiusRequest e .start RADIUS_CODE_ACCOUNTING_REQUEST
    (fun s => _radiusAcctSessIDInit e { s with onlineTime := e.now }) (packetAcctStartReq e.cfg)

def radiusAcctStop (e : Env) : M Int :=
  radiusRequest e .stop RADIUS_CODE_ACCOUNTING_REQUEST
    (fun s => { s with offlineTime := e.now }) (packetAcctStopReq e.cfg)

def radiusAcctUpdate (e : Env) : M Int :=
  radiusRequest e .update RADIUS_CODE_ACCOUNTING_REQUEST id (packetAcctUpdateReq e.cfg e.now)

/-- `radius_acct_stop_without_retransport`. -/
def radiusAcctStopWithoutRetransport (e : Env) : M Int := do
  update fun s => { s with retryTimes := 0, retryMaxTimes := 3, offlineTime := e.now }
  radiusReq e .stop
    (packetAcctStopReq e.cfg (← get).sess (radiusPacketInit RADIUS_CODE_ACCOUNTING_REQUEST e.rand))

/-- The kind of request that `_radius_sess_retransport` builds anew, from the session's state. -/
def retransportKind : SessState → ReqKind
  | .AUTHPOST => .auth
  | .ONLINE => .update
  | .ONLINEPOST => .start
  | _ => .stop

/-- `_radius_sess_retransport`: the saved header with the attributes of the session as it is now. -/
def _radiusSessRetransport (e : Env) (p : RadPtr) : M Int := do
  let c ← get
  let b : RadiusBuf := { pack := (c.rad.id p).req_pack, attrs := [] }
  let k := retransportKind c.sess.state
  match k with
  | .auth => _radiusSessReq e k p (packetAuthReq e.cfg c.sess b)
  | .update => _radiusSessReq e k p (packetAcctUpdateReq e.cfg e.now c.sess b)
  | .start => _radiusSessReq e k p (packetAcctStartReq e.cfg c.sess b)
  | .stop => _radiusSessReq e k p (packetAcctStopReq e.cfg c.sess b)

end Pppoe
end DaemonGroup
