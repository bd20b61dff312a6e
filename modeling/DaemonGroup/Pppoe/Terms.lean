import DaemonGroup.Lib.State
import DaemonGroup.Pppoe.System

/-!
# DaemonGroup.Pppoe.Terms

What a session negotiates by: the options of the instance, and what the session has recorded of its
peer. Only the handlers of LCP that take the peer's options apart change any of it; what
`control_process` does once a handler has returned, sending its answer and acting on the state it
left, leaves it alone (`spares_controlReply`, `spares_stateCheck`).
-/

namespace DaemonGroup
namespace Pppoe

open Lib

/-- The values that the negotiation of a session goes by. -/
structure Terms where
  options : SessionOptions
  auth_type : Nat
  chap_mdtype : Nat
  magic : Bytes
  peermagic : Bytes
deriving DecidableEq

def Session.terms (s : Session) (o : SessionOptions) : Terms :=
  { options := o
    auth_type := s.auth_type
    chap_mdtype := s.chap_mdtype
    magic := s.magic
    peermagic := s.peermagic }

/-- The terms, and whether a fault has happened. -/
def Ctx.agreed (c : Ctx) : Terms × Bool := (c.sess.terms c.options, c.fault)

/-- The program leaves the terms and the fault flag alone. -/
def Spares {α : Type} (m : M α) : Prop := ∀ x, Stable (fun c => c.agreed = x) m

section
variable {α β : Type} {e : Env}

namespace Spares

theorem bind {m : M α} {f : α → M β} (hm : Spares m) (hf : ∀ a, Spares (f a)) : Spares (m >>= f) :=
  fun x => .bind (hm x) fun a => hf a x

theorem pure {a : α} : Spares (pure a : M α) := fun _ => .pure

theorem get : Spares (get : M Ctx) := fun _ => .get

theorem modify {f : Ctx → Ctx} (hf : ∀ c, (f c).agreed = c.agreed) : Spares (modify f : M PUnit) :=
  fun _ => .modify fun c hc => (hf c).trans hc

theorem update {f : Session → Session} (hf : ∀ s o, (f s).terms o = s.terms o) :
    Spares (update f) :=
  modify fun c => congrArg (·, c.fault) (hf c.sess c.options)

theorem ite {p : Prop} [Decidable p] {m n : M α} (hm : Spares m) (hn : Spares n) :
    Spares (if p then m else n) :=
  fun x => .ite (hm x) (hn x)

/-- A program that begins by reading the state may use what it has read. -/
theorem read {f : Ctx → M α} (hf : ∀ c, (f c c).2.agreed = c.agreed) : Spares (MonadState.get >>= f) :=
  fun _ c hc => (hf c).trans hc

end Spares

/-- The program leaves the reference count alone. -/
def Uncounted {α : Type} (m : M α) : Prop := ∀ n, Stable (fun c => c.sess.refcnt = n) m

/-! ## The session -/

theorem setTimer_terms (s : Session) (o : SessionOptions) (v : Timer) (t : SessionTimerType) :
    (s.setTimer v t).terms o = s.terms o := by
  cases t <;> rfl

theorem spares_setTimer {v : Timer} {t : SessionTimerType} :
    Spares (update fun s => s.setTimer v t) :=
  .update fun s o => setTimer_terms s o v t

theorem spares_state {st : SessState} : Spares (update fun s => { s with state := st }) :=
  .update fun _ _ => rfl

theorem spares_timerInit {t : SessionTimerType} : Spares (sessionTimerInit e t) :=
  .bind .get fun _ => .ite .pure (.ite .pure (.bind spares_setTimer fun _ => .pure))

theorem spares_timerUpdate {t : SessionTimerType} : Spares (sessionTimerUpdate t) :=
  .bind .get fun _ => .ite .pure (.bind spares_setTimer fun _ => .pure)

theorem spares_perform {o : SessionOptType} {f : M Int} (hf : Spares f) :
    Spares (sessionOptPerform o f) :=
  .bind .get fun _ => .ite hf .pure

theorem spares_optRegister {o : SessionOptType} : Spares (sessionOptRegister o) :=
  .bind .get fun _ => .ite .pure (.bind (.update fun _ _ => rfl) fun _ => .pure)

theorem spares_optUnregister {o : SessionOptType} : Spares (sessionOptUnregister o) :=
  .bind .get fun _ => .ite .pure (.bind (.update fun _ _ => rfl) fun _ => .pure)

theorem spares_mark {m : Mark} : Spares (mark m) := .update fun _ _ => rfl

/-! ## What is sent -/

theorem spares_emit {call : Call} {p : Packet} : Spares (emit e call p) :=
  .ite .pure (.bind (.modify fun _ => rfl) fun _ => .pure)

theorem spares_send {call : Call} {bs : Bytes} : Spares (pppSendPacket e call bs) :=
  .bind .get fun _ => spares_emit

theorem spares_lcpConfReq : Spares (sendLcpConfReq e) :=
  .bind (.update fun _ _ => rfl) fun _ => .bind .get fun _ => spares_send

theorem spares_lcpTermReqError {ret : Int} : Spares (lcpTermReqError ret) :=
  .bind spares_optUnregister fun _ => .bind spares_state fun _ => .pure

theorem spares_lcpTermReq : Spares (sendLcpTermReq e) :=
  .bind (.update fun _ _ => rfl) fun _ => .bind .get fun _ => .ite spares_lcpTermReqError
    (.bind spares_send fun _ => .ite spares_lcpTermReqError (.bind spares_state fun _ => .pure))

theorem spares_chapChallenge : Spares (sendChapChallenge e) := by
  refine .bind (.update fun _ _ => rfl) fun _ => .bind .get fun _ => .bind spares_send fun _ => ?_
  exact .ite (.bind spares_mark fun _ => .pure) .pure

theorem spares_PADT : Spares (sendPADT e) := .bind .get fun _ => spares_emit

theorem spares_discoverSessionExit : Spares (discoverSessionExit e) :=
  .bind spares_PADT fun _ => .bind spares_state fun _ => .pure

/-! ## RADIUS -/

theorem spares_radiusSessReq {k : ReqKind} {p : RadPtr} {b : RadiusBuf} :
    Spares (_radiusSessReq e k p b) :=
  .bind .get fun _ => .bind (.modify fun _ => rfl) fun _ => spares_emit

theorem spares_radiusReq {k : ReqKind} {b : RadiusBuf} : Spares (radiusReq e k b) := by
  refine .read fun c => ?_
  cases radiusGetFreeId e c.rad with
  | none => rfl
  | some q =>
    have hrest : Spares (do
        let ret ← _radiusSessReq e k q.1 b
        if ret = PPPOEERR_SUCCESS then
          mark (.request k)
        return ret) :=
      .bind spares_radiusSessReq fun _ => .ite (.bind spares_mark fun _ => .pure) .pure
    exact hrest c.agreed { c with rad := q.2 } rfl

theorem spares_retransportSetup : Spares (radiusSessRetransportSetup e) :=
  .bind .get fun _ => .ite spares_timerUpdate spares_timerInit

theorem spares_radiusRequest {k : ReqKind} {code : Nat} {prep : Session → Session}
    {pack : Session → RadiusBuf → RadiusBuf} (hp : ∀ s o, (prep s).terms o = s.terms o) :
    Spares (radiusRequest e k code prep pack) :=
  .bind (.update fun _ o => hp _ o) fun _ => .bind .get fun _ => .bind spares_radiusReq fun _ =>
    .ite .pure spares_retransportSetup

theorem spares_authReq : Spares (radiusAuthReq e) := spares_radiusRequest fun _ _ => rfl

/-! ## Ending a session -/

theorem spares_sessoptExit : Spares (sessoptExit e) :=
  .bind .get fun _ => .bind spares_emit fun _ => .bind (.modify fun _ => rfl) fun _ => .pure

theorem spares_ipregister : Spares (sessoptIpregister e) :=
  .bind .get fun _ => .ite .pure spares_emit

theorem spares_exit : Spares (_manageSessExit e) :=
  .bind (spares_perform spares_lcpTermReq) fun _ =>
    .ite (.bind spares_timerUpdate fun _ => .pure)
      (.bind (spares_perform spares_discoverSessionExit) fun _ =>
        .bind (spares_perform spares_sessoptExit) fun _ => .pure)

/-! ## Frames -/

theorem spares_controlReply {f : Frame} {code : Nat} {bs : Bytes} :
    Spares (controlReply e f code bs) := by
  have hsend : Spares (do
      let s := (← get).sess
      let ident := if code = CONFREQ then s.ident else f.ctl.ident
      let _ ← pppSendPacket e .pppReply (pppFrame f.proto code ident bs)) :=
    .bind .get fun _ => .bind spares_send fun _ => .pure
  exact .ite (.bind (.update fun _ _ => rfl) fun _ => hsend) hsend

theorem spares_controlSessSetup : Spares controlSessSetup :=
  .bind spares_optRegister fun _ => .bind .get fun _ => .ite (.bind spares_optRegister fun _ =>
    .bind spares_optRegister fun _ => .bind spares_optRegister fun _ => .pure) .pure

theorem spares_stateCheck : Spares (stateCheck e) := by
  refine .bind .get fun c => ?_
  cases c.sess.state with
  | LCPPREOPEN =>
    exact .bind (spares_perform spares_lcpConfReq) fun _ => .ite spares_exit
      (.bind spares_timerUpdate fun _ => spares_state)
  | LCPOPEN =>
    exact .bind spares_controlSessSetup fun _ => .bind (spares_perform spares_chapChallenge)
      fun _ => .bind spares_timerUpdate fun _ => spares_state
  | AUTH =>
    exact .bind (spares_perform spares_authReq) fun _ => .ite spares_exit spares_state
  | IPCPOPEN =>
    exact .bind (spares_perform spares_ipregister) fun _ => .bind spares_timerUpdate fun _ =>
      spares_state
  | IPCPCLOSE => exact spares_exit
  | LCPPRECLOSE => exact spares_exit
  | LCPCLOSE => exact spares_exit
  | _ => exact .pure

end

end Pppoe
end DaemonGroup
