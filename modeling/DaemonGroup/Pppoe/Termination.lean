import DaemonGroup.Lib.State
import DaemonGroup.Pppoe.Proto
import DaemonGroup.Pppoe.Steps

/-!
# DaemonGroup.Pppoe.Termination

How a session that has opened LCP is ended. `send_lcpTermReq` counts its tries against `termMaxTimes`,
which nothing sets, and the Terminate-Ack is tested against the state that IPCP waits in, not the one
that `send_lcpTermReq` leaves. So no Terminate-Request is sent and none would be seen answered:
`never_asked`.

`Tame S m` says of a program that it leaves `termMaxTimes` zero and sends only packets in `S`. Every
handler is tame for the packets that are no Terminate-Request of LCP, but for the answers to a peer that
still negotiates.
-/

namespace DaemonGroup
namespace Pppoe

open Lib

def Packet.isLcpTermReq : Packet → Bool
  | .ppp _ _ bs => getShort bs 0 = PPP_LCP ∧ getChar bs 2 = TERMREQ
  | _ => false

/-- The session has no try for a Terminate-Request, and what was sent after `out` is in `S`. -/
structure Mild (S : Packet → Prop) (out : List Packet) (c : Ctx) : Prop where
  terms : c.sess.termMaxTimes = 0
  sent : ∃ l, c.out = out ++ l ∧ ∀ p ∈ l, S p

def Tame {α : Type} (S : Packet → Prop) (m : M α) : Prop := ∀ out, Stable (Mild S out) m

section
variable {α β : Type} {S : Packet → Prop} {e : Env}

namespace Tame

theorem bind {m : M α} {f : α → M β} (hm : Tame S m) (hf : ∀ a, Tame S (f a)) : Tame S (m >>= f) :=
  fun out => .bind (hm out) fun a => hf a out

theorem pure {a : α} : Tame S (pure a : M α) := fun _ => .pure

theorem get : Tame S (get : M Ctx) := fun _ => .get

theorem modify {f : Ctx → Ctx}
    (hf : ∀ c, (f c).sess.termMaxTimes = c.sess.termMaxTimes ∧ (f c).out = c.out) :
    Tame S (modify f : M PUnit) :=
  fun _ => .modify fun c hc => ⟨(hf c).1.trans hc.terms, (hf c).2 ▸ hc.sent⟩

theorem update {f : Session → Session} (hf : ∀ s, (f s).termMaxTimes = s.termMaxTimes) :
    Tame S (update f) :=
  modify fun c => ⟨hf c.sess, rfl⟩

theorem ite {p : Prop} [Decidable p] {m n : M α} (hm : Tame S m) (hn : Tame S n) :
    Tame S (if p then m else n) :=
  fun out => .ite (hm out) (hn out)

/-- A program that begins by reading the state may use what it has read. -/
theorem read {f : Ctx → M α} (hf : ∀ out c, Mild S out c → Mild S out (f c c).2) :
    Tame S (MonadState.get >>= f) :=
  fun out c hc => hf out c hc

end Tame

/-! ## The session -/

theorem setTimer_termMax (s : Session) (v : Timer) (t : SessionTimerType) :
    (s.setTimer v t).termMaxTimes = s.termMaxTimes := by
  cases t <;> rfl

theorem tame_setTimer {v : Timer} {t : SessionTimerType} : Tame S (update fun s => s.setTimer v t) :=
  .update fun s => setTimer_termMax s v t

theorem tame_state {st : SessState} : Tame S (update fun s => { s with state := st }) :=
  .update fun _ => rfl

theorem tame_timerInit {t : SessionTimerType} : Tame S (sessionTimerInit e t) :=
  .bind .get fun _ => .ite .pure (.ite .pure (.bind tame_setTimer fun _ => .pure))

theorem tame_timerUpdate {t : SessionTimerType} : Tame S (sessionTimerUpdate t) :=
  .bind .get fun _ => .ite .pure (.bind tame_setTimer fun _ => .pure)

theorem tame_timerPause {t : SessionTimerType} : Tame S (sessionTimerPause t) :=
  .bind .get fun _ => .ite .pure (.bind .get fun _ => .ite .pure (.bind tame_setTimer fun _ => .pure))

theorem tame_termcause {n : Nat} : Tame S (sessionTermcauseSetup n) :=
  .update fun s => by split <;> rfl

theorem tame_perform {o : SessionOptType} {f : M Int} (hf : Tame S f) : Tame S (sessionOptPerform o f) :=
  .bind .get fun _ => .ite hf .pure

theorem tame_optRegister {o : SessionOptType} : Tame S (sessionOptRegister o) :=
  .bind .get fun _ => .ite .pure (.bind (.update fun _ => rfl) fun _ => .pure)

theorem tame_optUnregister {o : SessionOptType} : Tame S (sessionOptUnregister o) :=
  .bind .get fun _ => .ite .pure (.bind (.update fun _ => rfl) fun _ => .pure)

theorem tame_mark {m : Mark} : Tame S (mark m) := .update fun _ => rfl

theorem tame_exited : Tame S sessExit := .modify fun _ => ⟨rfl, rfl⟩

theorem tame_backupSync {m : Sync} : Tame S (sessBackupSync e m) :=
  .ite .pure (.ite .pure (.ite .pure (.bind (.modify fun _ => ⟨rfl, rfl⟩) fun _ => .pure)))

theorem tame_sync {msg : Session → Sync} : Tame S (sessoptSync e msg) :=
  .ite .pure (.bind .get fun _ => tame_backupSync)

theorem tame_confReqOpen {st : SessState} : Tame S (confReqOpen st) :=
  .update fun s => by split <;> rfl

theorem tame_confAckOpen {st : SessState} : Tame S (confAckOpen st) :=
  .update fun s => by split <;> rfl

/-! ## What is sent -/

theorem tame_emit {call : Call} {p : Packet} (hp : S p) : Tame S (emit e call p) := by
  refine .ite .pure (.bind (fun out => .modify fun c hc => ⟨hc.terms, ?_⟩) fun _ => .pure)
  obtain ⟨l, hout, hl⟩ := hc.sent
  refine ⟨l ++ [p], by simp [hout], fun q hq => ?_⟩
  rcases List.mem_append.mp hq with hq | hq
  · exact hl q hq
  · exact List.mem_singleton.mp hq ▸ hp

/-- A frame is a Terminate-Request of LCP by its protocol and its code. -/
theorem frame_termReq {sid : Nat} {mac : Mac} {proto code ident : Nat} {bs : Bytes} :
    (Packet.ppp sid mac (pppFrame proto code ident bs)).isLcpTermReq =
      decide (proto % 65536 = PPP_LCP ∧ code % 256 = TERMREQ) := by
  have hproto : getShort (pppFrame proto code ident bs) 0 = proto % 65536 := by
    simp [getShort, getChar, pppFrame, putShort, putChar]
    omega
  have hcode : getChar (pppFrame proto code ident bs) 2 = code % 256 := by
    simp [getChar, pppFrame, putShort, putChar]
  rw [Packet.isLcpTermReq, hproto, hcode]

variable (hS : ∀ p : Packet, p.isLcpTermReq = false → S p)
include hS

theorem tame_send {call : Call} {proto code ident : Nat} {bs : Bytes}
    (h : ¬ (proto % 65536 = PPP_LCP ∧ code % 256 = TERMREQ)) :
    Tame S (pppSendPacket e call (pppFrame proto code ident bs)) :=
  .bind .get fun _ => tame_emit (hS _ (frame_termReq.trans (decide_eq_false h)))

theorem tame_lcpConfReq : Tame S (sendLcpConfReq e) :=
  .bind (.update fun _ => rfl) fun _ => .bind .get fun _ => tame_send hS (by decide)

theorem tame_lcpEchoReq : Tame S (sendLcpEchoReq e) :=
  .bind .get fun _ => tame_send hS (by decide)

theorem tame_ipcpConfReq : Tame S (sendIpcpConfReq e) :=
  .bind (.update fun _ => rfl) fun _ => .bind .get fun _ => tame_send hS (by decide)

theorem tame_chapChallenge : Tame S (sendChapChallenge e) := by
  refine .bind (.update fun _ => rfl) fun _ => .bind .get fun _ => .bind (tame_send hS (by decide)) fun _ => ?_
  exact .ite (.bind tame_mark fun _ => .pure) .pure

theorem tame_chapSuccess : Tame S (sendChapSuccess e) :=
  .bind .get fun _ => tame_send hS (by decide)

theorem tame_chapFail : Tame S (sendChapFail e) :=
  .bind .get fun _ => tame_send hS (by decide)

theorem tame_PADT : Tame S (sendPADT e) := .bind .get fun _ => tame_emit (hS _ rfl)

theorem tame_discoverSessionExit : Tame S (discoverSessionExit e) :=
  .bind (tame_PADT hS) fun _ => .bind tame_state fun _ => .pure

theorem tame_sessoptExit : Tame S (sessoptExit e) :=
  .bind .get fun _ => .bind (tame_emit (hS _ rfl)) fun _ => .bind (.modify fun _ => ⟨rfl, rfl⟩) fun _ => .pure

theorem tame_ipregister : Tame S (sessoptIpregister e) :=
  .bind .get fun _ => .ite .pure (tame_emit (hS _ rfl))

omit hS in
/-- Without a try there is no Terminate-Request. -/
theorem tame_lcpTermReq : Tame S (sendLcpTermReq e) := by
  intro out c hc
  have hover : c.sess.termTimes + 1 > c.sess.termMaxTimes := hc.terms ▸ Nat.succ_pos _
  have herror : Tame S (lcpTermReqError PPPOEERR_ETIMEOUT) :=
    .bind tame_optUnregister fun _ => .bind tame_state fun _ => .pure
  have hrun : sendLcpTermReq e c = lcpTermReqError PPPOEERR_ETIMEOUT
      { c with sess := { c.sess with termTimes := c.sess.termTimes + 1 } } := by
    show (if c.sess.termTimes + 1 > c.sess.termMaxTimes then lcpTermReqError PPPOEERR_ETIMEOUT else _) _ = _
    rw [if_pos hover]
  rw [hrun]
  exact herror out _ ⟨hc.terms, hc.sent⟩

/-! ## RADIUS -/

omit hS in
theorem tame_radiusSessCheck : Tame S (_radiusSessCheck e) := by
  refine .bind .get fun c => ?_
  split
  · exact .pure
  · exact .ite (.bind (.update fun _ => rfl) fun _ => .pure) .pure

omit hS in
theorem tame_radiusSessClean : Tame S _radiusSessClean :=
  .modify fun c => by split <;> exact ⟨rfl, rfl⟩

theorem tame_radiusSessReq {k : ReqKind} {p : RadPtr} {b : RadiusBuf} : Tame S (_radiusSessReq e k p b) :=
  .bind .get fun _ => .bind (.modify fun _ => ⟨rfl, rfl⟩) fun _ => tame_emit (hS _ rfl)

theorem tame_radiusReq {k : ReqKind} {b : RadiusBuf} : Tame S (radiusReq e k b) := by
  refine .read fun out c hc => ?_
  cases radiusGetFreeId e c.rad with
  | none => exact hc
  | some q =>
    have hrest : Tame S (do
        let ret ← _radiusSessReq e k q.1 b
        if ret = PPPOEERR_SUCCESS then
          mark (.request k)
        return ret) :=
      .bind (tame_radiusSessReq hS) fun _ => .ite (.bind tame_mark fun _ => .pure) .pure
    exact hrest out { c with rad := q.2 } ⟨hc.terms, hc.sent⟩

omit hS in
theorem tame_retransportSetup : Tame S (radiusSessRetransportSetup e) :=
  .bind .get fun _ => .ite tame_timerUpdate tame_timerInit

theorem tame_radiusRequest {k : ReqKind} {code : Nat} {prep : Session → Session}
    {pack : Session → RadiusBuf → RadiusBuf} (hp : ∀ s, (prep s).termMaxTimes = s.termMaxTimes) :
    Tame S (radiusRequest e k code prep pack) :=
  .bind (.update fun _ => hp _) fun _ => .bind .get fun _ => .bind (tame_radiusReq hS) fun _ =>
    .ite .pure tame_retransportSetup

theorem tame_stopWithoutRetransport : Tame S (radiusAcctStopWithoutRetransport e) :=
  .bind (.update fun _ => rfl) fun _ => .bind .get fun _ => tame_radiusReq hS

theorem tame_retransport {p : RadPtr} : Tame S (_radiusSessRetransport e p) := by
  refine .bind .get fun c => ?_
  dsimp only
  split <;> exact tame_radiusSessReq hS

/-! ## Going online and offline -/

theorem tame_online : Tame S (sessOnline e) := by
  refine .bind tame_timerPause fun _ => .bind tame_timerInit fun _ => .ite .pure ?_
  refine .bind tame_timerInit fun _ => .ite (.bind tame_setTimer fun _ => .pure) ?_
  refine .bind (tame_perform (tame_radiusRequest hS fun _ => rfl)) fun _ => ?_
  exact .ite (.bind tame_setTimer fun _ => .bind tame_setTimer fun _ => .pure) (.bind tame_state fun _ => .pure)

theorem tame_offline : Tame S (sessOffline e) := by
  refine .bind tame_setTimer fun _ => .bind tame_setTimer fun _ => ?_
  refine .bind (tame_perform (tame_radiusRequest hS fun _ => rfl)) fun _ => ?_
  have hrest : ∀ ret : Int,
      Tame S (do let _ ← sessionOptPerform .OFFLINESYNC (sessoptOfflinesync e); return ret) :=
    fun _ => .bind (tame_perform tame_sync) fun _ => .pure
  exact .ite (.bind tame_state fun _ => hrest _) (.bind tame_state fun _ => hrest _)

theorem tame_exit : Tame S (_manageSessExit e) :=
  .bind (tame_perform tame_lcpTermReq) fun _ =>
    .ite (.bind tame_timerUpdate fun _ => .pure)
      (.bind (tame_perform (tame_discoverSessionExit hS)) fun _ =>
        .bind (tame_perform (tame_sessoptExit hS)) fun _ => .pure)

theorem tame_manageSessExit : Tame S (manageSessExit e) := by
  refine .bind .get fun c => ?_
  split
  · exact .bind (tame_offline hS) fun _ => .ite .pure (tame_exit hS)
  · exact .pure
  · exact .pure
  · exact tame_exit hS

/-! ## Timers -/

theorem tame_echoFunc : Tame S (sessEchoFunc e) :=
  .bind .get fun _ => .ite (.bind tame_termcause fun _ => .bind (tame_manageSessExit hS) fun _ => .pure)
    (.bind (.update fun _ => rfl) fun _ => .bind (tame_perform (tame_lcpEchoReq hS)) fun _ =>
      .bind tame_timerUpdate fun _ => .pure)

theorem tame_acctUpdateFunc : Tame S (sessAcctUpdateFunc e) :=
  .bind tame_timerUpdate fun _ => .bind (tame_perform tame_sync) fun _ =>
    tame_perform (tame_radiusRequest hS fun _ => rfl)

theorem tame_authFail : Tame S (_radiusSessAuthFail e) :=
  .bind (tame_perform (tame_chapFail hS)) fun _ => .bind tame_setTimer fun _ => tame_exit hS

theorem tame_authSuccess : Tame S (_radiusSessAuthSuccess e) := by
  have hsend : Tame S (authSuccessSend e) :=
    .bind (tame_perform (tame_chapSuccess hS)) fun _ => .ite .pure (tame_perform (tame_ipcpConfReq hS))
  exact .bind hsend fun _ => .ite (.bind tame_setTimer fun _ => tame_exit hS)
    (.bind tame_timerPause fun _ => .bind tame_timerUpdate fun _ => tame_state)

theorem tame_giveUp : Tame S (radiusSessGiveUp e) := by
  refine .bind tame_radiusSessClean fun _ => .bind tame_timerPause fun _ => .bind .get fun c => ?_
  split
  · exact .bind (tame_authFail hS) fun _ => .pure
  · exact .bind (tame_perform tame_sync) fun _ => .bind tame_state fun _ => .pure
  · exact .bind tame_state fun _ => .bind (tame_exit hS) fun _ => .pure
  · exact .pure
  · exact .pure

theorem tame_retransportFunc : Tame S (radiusSessRetransportFunc e) := by
  refine .bind tame_radiusSessCheck fun _ => .ite (.bind tame_timerPause fun _ => .pure) ?_
  refine .bind .get fun c => .ite (tame_giveUp hS) (.bind (.update fun _ => rfl) fun _ => ?_)
  refine .bind tame_timerUpdate fun _ => ?_
  split
  · exact tame_retransport hS
  · exact .pure

theorem tame_timerFunc {t : SessionTimerType} : Tame S (timerFunc e t) := by
  cases t with
  | TIMEOUT => exact .bind (tame_exit hS) fun _ => .pure
  | ECHO => exact tame_echoFunc hS
  | RETRANS => exact tame_retransportFunc hS
  | UPDATE => exact tame_acctUpdateFunc hS

/-! ## Replies -/

omit hS in
theorem tame_attrDiffers {d : Bytes} {type : Nat} {l : Bytes} : Tame S (attrDiffers d type l) := by
  unfold attrDiffers
  split
  · exact .pure
  · exact .pure
  · exact .bind (.modify fun _ => ⟨rfl, rfl⟩) fun _ => .pure

theorem tame_acctResponse {d : Bytes} : Tame S (processAcctResponse e d) := by
  refine .bind .get fun _ => .bind tame_attrDiffers fun _ => .ite .pure ?_
  refine .bind tame_attrDiffers fun _ => .ite .pure (.bind tame_radiusSessClean fun _ => ?_)
  refine .bind tame_timerPause fun _ => .bind .get fun c => ?_
  split
  · exact .bind (tame_perform tame_sync) fun _ => .bind tame_state fun _ => .pure
  · exact .bind tame_state fun _ => .bind (tame_exit hS) fun _ => .pure
  · exact .pure

omit hS in
theorem tame_radidFree {p : RadPtr} : Tame S (radidFree p) := .modify fun _ => ⟨rfl, rfl⟩

theorem tame_radiusSock {p : RadPtr} {d : Datagram} : Tame S (radiusSockProcess e p d) := by
  refine .bind .get fun c => .ite ?_ (.ite ?_ .pure)
  · refine .ite (.bind tame_radidFree fun _ => .pure) (.ite .pure ?_)
    split
    · exact .pure
    · exact .ite .pure (.bind tame_radiusSessClean fun _ =>
        .ite (.bind (tame_authFail hS) fun _ => .pure) (.bind (tame_authSuccess hS) fun _ => .pure))
  · refine .ite (.bind tame_radidFree fun _ => .pure) (.ite .pure ?_)
    split
    · exact .pure
    · exact .ite .pure (tame_acctResponse hS)

/-! ## Management -/

theorem tame_disconnect : Tame S (coaSessionDisconnnect e) :=
  .bind (.update fun _ => rfl) fun _ => .bind tame_setTimer fun _ => .bind tame_setTimer fun _ =>
    .bind tame_setTimer fun _ => .bind (tame_perform tame_sync) fun _ => tame_exit hS

theorem tame_kick : Tame S (manageSessKick e) :=
  .bind .get fun _ => .ite .pure (.bind tame_termcause fun _ => .bind (tame_manageSessExit hS) fun _ => .pure)

theorem tame_clear : Tame S (clearSess e) := by
  have hrest : Tame S (do
      let _ ← sessionOptPerform .LCPTERMREQ (sendLcpTermReq e)
      let _ ← sessionOptPerform .DISTREM (discoverSessionExit e)
      sessExit
      return PPPOEERR_SUCCESS) :=
    .bind (tame_perform tame_lcpTermReq) fun _ => .bind (tame_perform (tame_discoverSessionExit hS)) fun _ =>
      .bind tame_exited fun _ => .pure
  exact .bind .get fun _ => .ite (.bind tame_termcause fun _ =>
    .bind (tame_perform (tame_stopWithoutRetransport hS)) fun _ => hrest) hrest

theorem tame_PADTprocess : Tame S (processPADT e) :=
  .bind (tame_PADT hS) fun _ => .bind tame_termcause fun _ => .bind tame_optUnregister fun _ =>
    .bind tame_optUnregister fun _ => .bind (tame_manageSessExit hS) fun _ => .pure

theorem tame_register {err : Int} : Tame S (processRegister e err) :=
  .ite (.bind (tame_perform (tame_discoverSessionExit hS)) fun _ => .bind tame_exited fun _ => .pure) .pure

theorem tame_authorize {ip : UInt32} {err : Int} : Tame S (processAuthorize e ip err) :=
  .bind .get fun _ => .ite .pure (.ite (.bind (tame_exit hS) fun _ => .pure)
    (.bind (tame_online hS) fun _ => .ite (.bind (tame_exit hS) fun _ => .pure) .pure))

theorem tame_unauthorize {ip : UInt32} : Tame S (processUnauthorize e ip) :=
  .bind .get fun _ => .ite .pure (.bind (tame_manageSessExit hS) fun _ => .pure)

omit hS in
theorem tame_standbyRegister {err : Int} : Tame S (standbyRegister err) :=
  .ite (.bind tame_exited fun _ => .pure) .pure

omit hS in
theorem tame_standbyAuthorize {ip : UInt32} {err : Int} : Tame S (standbyAuthorize ip err) :=
  .bind .get fun _ => .ite .pure (.ite (.bind tame_exited fun _ => .pure)
    (.bind tame_timerPause fun _ => .bind tame_state fun _ => .pure))

omit hS in
theorem tame_wakeup : Tame S wakeupSess :=
  .bind .get fun _ => .ite .pure (.bind tame_timerUpdate fun _ => tame_timerUpdate)

omit hS in
theorem tame_syncSess : Tame S (syncSess e) :=
  .bind .get fun _ => .ite (tame_perform tame_sync) .pure

theorem tame_updateSync {m : UpdateSync} : Tame S (manageSessUpdateSync e m) :=
  .bind .get fun _ => .ite (tame_perform (tame_sessoptExit hS)) (.bind (.update fun _ => rfl) fun _ => .pure)

/-! ## Frames -/

omit hS in
theorem tame_confReq {p : Pbuf} : Tame S (lcpProcessConfReq p) := by
  have hanswer : Tame S (lcpConfReqAnswer p) := by
    refine .bind .get fun c => ?_
    split
    · exact .bind (.modify fun _ => ⟨rfl, rfl⟩) fun _ => .pure
    · exact .bind (.modify fun _ => ⟨rfl, rfl⟩) fun _ => .ite .pure (.ite .pure
        (.bind (.update fun s => (lcpReqRecord_frame _ s).2.1) fun _ => .bind tame_confReqOpen fun _ => .pure))
  exact .bind (.update fun s => by split <;> rfl) fun _ => hanswer

omit hS in
theorem tame_confAck {p : Pbuf} : Tame S (lcpProcessConfAck p) := by
  refine .read fun out c hc => ?_
  have hwalk : (∀ s, ciWalk id (lcpAckOption c.options) p c.sess = .inl s → SameBut c.sess s) ∧
      (∀ s, ciWalk id (lcpAckOption c.options) p c.sess = .inr s → SameBut c.sess s) :=
    ciWalk_rule (fun _ h => h) (fun _ _ _ hs => lcpAckOption_same hs) ⟨rfl, rfl, rfl, rfl⟩
  cases hw : ciWalk id (lcpAckOption c.options) p c.sess with
  | inr s => exact ⟨(hwalk.2 s hw).2.1.trans hc.terms, hc.sent⟩
  | inl s =>
    have hopen : Tame S (do confAckOpen .LCPOPEN; return (PPPOEERR_SUCCESS, []) : M Reply) :=
      .bind tame_confAckOpen fun _ => .pure
    exact hopen out { c with sess := s } ⟨(hwalk.1 s hw).2.1.trans hc.terms, hc.sent⟩

omit hS in
theorem tame_confNak {p : Pbuf} : Tame S (lcpProcessConfNak p) := by
  refine .bind .get fun c => ?_
  split
  · exact .bind (.modify fun _ => ⟨rfl, rfl⟩) fun _ => .pure
  · exact .bind (.modify fun _ => ⟨rfl, rfl⟩) fun _ => .pure

theorem tame_termReq : Tame S (lcpProcessTermReq e) :=
  .bind tame_termcause fun _ => .bind tame_optUnregister fun _ => .bind .get fun _ =>
    .ite (.bind (tame_offline hS) fun _ => .pure) (.ite (.bind tame_state fun _ => .pure) .pure)

theorem tame_lcp {p : Pbuf} : Tame S (lcpProcess e p) := by
  refine .bind .get fun c => .ite .pure ?_
  split
  · exact .pure
  · refine .ite .pure (.ite (.ite .pure tame_confReq) ?_)
    refine .ite (.ite .pure (.ite .pure ?_)) (.ite (tame_termReq hS) ?_)
    · exact .ite tame_confAck (.ite tame_confNak .pure)
    · refine .ite (.ite .pure (.bind tame_optUnregister fun _ => .bind tame_state fun _ => .pure)) ?_
      refine .ite (.ite .pure (.ite .pure .pure)) (.ite (.ite .pure (.bind .get fun _ => ?_)) .pure)
      exact .ite .pure (.bind (.update fun _ => rfl) fun _ => .pure)

omit hS in
theorem tame_chap {p : Pbuf} : Tame S (chapProcess p) := by
  refine .bind .get fun c => .ite .pure ?_
  split
  · exact .pure
  · refine .ite (.ite .pure (.ite .pure (.bind (.update fun _ => rfl) fun _ => ?_))) .pure
    exact .bind tame_timerPause fun _ => .bind tame_state fun _ => .bind tame_mark fun _ => .pure

omit hS in
theorem ipcpApply_mild {out : List Packet} {c : Ctx} (h : Mild S out c) : Mild S out (ipcpApply e c).2 := by
  have hipapply : Tame S (sessoptIpapply e) := .read fun _ _ hc => ⟨hc.terms, hc.sent⟩
  rw [ipcpApply]
  split
  · exact tame_perform hipapply out c h
  · exact h

omit hS in
theorem ipcpAddrOption_mild {out : List Packet} {neg : Bool} {code : Nat} {want : IpaddrStruct → Nat}
    {cur : Bytes} {n : Nat} {a : IpcpReqAcc} (h : Mild S out a.ctx) :
    (∀ a', ipcpAddrOption e neg code want cur n a = .inl a' → Mild S out a'.ctx) ∧
      (∀ a', ipcpAddrOption e neg code want cur n a = .inr a' → Mild S out a'.1.ctx) := by
  have happ : Mild S out (ipcpApply e a.ctx).2 := ipcpApply_mild h
  constructor <;> intro a' hb <;> simp only [ipcpAddrOption, ipcpAddr] at hb <;>
    split_ifs at hb <;> cases hb
  · exact h
  · exact happ
  · exact happ
  · exact happ
  · exact happ

omit hS in
theorem ipcpReqOption_mild {out : List Packet} {cur : Bytes} {n : Nat} {a : IpcpReqAcc} (h : Mild S out a.ctx) :
    (∀ a', ipcpReqOption e cur n a = .inl a' → Mild S out a'.ctx) ∧
      (∀ a', ipcpReqOption e cur n a = .inr a' → Mild S out a'.1.ctx) := by
  simp only [ipcpReqOption]
  split
  · exact ipcpAddrOption_mild h
  split
  · exact ipcpAddrOption_mild h
  split
  · exact ipcpAddrOption_mild h
  · constructor <;> intro a' hb <;> cases hb
    exact h

omit hS in
theorem tame_ipcpConfReqProcess {p : Pbuf} : Tame S (ipcpProcessConfReq e p) := by
  refine .read fun out c hc => ?_
  have hwalk : (∀ a, ciWalk (fun a => (a, IpcpStop.coderej)) (ipcpReqOption e) p { ctx := c } =
        .inl a → Mild S out a.ctx) ∧
      (∀ a, ciWalk (fun a => (a, IpcpStop.coderej)) (ipcpReqOption e) p { ctx := c } =
        .inr a → Mild S out a.1.ctx) :=
    ciWalk_rule (I := fun a : IpcpReqAcc => Mild S out a.ctx)
      (R := fun a : IpcpReqAcc × IpcpStop => Mild S out a.1.ctx)
      (fun _ h => h) (fun _ _ _ ha => ipcpReqOption_mild ha) hc
  cases hw : ciWalk (fun a => (a, IpcpStop.coderej)) (ipcpReqOption e) p { ctx := c } with
  | inr r =>
    obtain ⟨a, stop⟩ := r
    cases stop with
    | coderej => exact hwalk.2 _ hw
    | noipaddr =>
      have hclose : Tame S (do
          update fun s => { s with state := .LCPPRECLOSE }
          return (PPPOEERR_SUCCESS, []) : M Reply) :=
        .bind tame_state fun _ => .pure
      exact hclose out a.ctx (hwalk.2 _ hw)
  | inl a =>
    have hrest : Tame S (do
        if a.rej ≠ [] then
          return confReply CONFREJ a.rej
        if a.nak ≠ [] then
          return confReply CONFNAK a.nak
        confReqOpen .IPCPOPEN
        return (CONFACK, p.bytes) : M Reply) :=
      .ite .pure (.ite .pure (.bind tame_confReqOpen fun _ => .pure))
    exact hrest out a.ctx (hwalk.1 _ hw)

theorem tame_ipcp {p : Pbuf} : Tame S (ipcpProcess e p) := by
  have hack : ∀ q : Pbuf, Tame S (ipcpProcessConfAck q) := by
    refine fun q => .bind .get fun c => ?_
    split
    · exact .pure
    · exact .bind tame_confAckOpen fun _ => .pure
  have hnak : ∀ q : Pbuf, Tame S (ipcpProcessConfNak q) := by
    refine fun q => .bind .get fun c => ?_
    split
    · exact .bind tame_state fun _ => .pure
    · exact .pure
  have hrej : ∀ q : Pbuf, Tame S (ipcpProcessConfRej q) := by
    refine fun q => .bind .get fun c => ?_
    split <;> exact .pure
  have hterm : Tame S (ipcpProcessTermReq e) :=
    .bind tame_termcause fun _ => .bind .get fun _ => .ite (.bind (tame_offline hS) fun _ => .pure)
      (.ite (.bind tame_state fun _ => .pure) .pure)
  refine .bind .get fun c => .ite .pure ?_
  split
  · exact .pure
  · refine .ite .pure (.ite (.ite .pure tame_ipcpConfReqProcess) (.ite (.ite .pure (.ite .pure ?_)) (.ite hterm ?_)))
    · exact .ite (hack _) (.ite (hnak _) (hrej _))
    · exact .ite (.ite .pure (.bind tame_state fun _ => .pure)) .pure

omit hS in
theorem tame_ccp {p : Pbuf} : Tame S (ccpProcess p) := by
  refine .bind .get fun c => .ite .pure ?_
  split
  · exact .pure
  · exact .ite .pure (.ite .pure (.ite .pure (.ite (.bind tame_state fun _ => .pure) (.ite .pure .pure))))

theorem tame_proto {f : Frame} : Tame S (pppProtoProcess e f) :=
  .ite (tame_lcp hS) (.ite tame_chap (.ite (tame_ipcp hS) (.ite tame_ccp .pure)))

omit hS in
theorem tame_controlSessSetup : Tame S controlSessSetup :=
  .bind tame_optRegister fun _ => .bind .get fun _ => .ite (.bind tame_optRegister fun _ =>
    .bind tame_optRegister fun _ => .bind tame_optRegister fun _ => .pure) .pure

theorem tame_stateCheck : Tame S (stateCheck e) := by
  refine .bind .get fun c => ?_
  cases c.sess.state with
  | LCPPREOPEN =>
    exact .bind (tame_perform (tame_lcpConfReq hS)) fun _ => .ite (tame_exit hS)
      (.bind tame_timerUpdate fun _ => tame_state)
  | LCPOPEN =>
    exact .bind tame_controlSessSetup fun _ => .bind (tame_perform (tame_chapChallenge hS)) fun _ =>
      .bind tame_timerUpdate fun _ => tame_state
  | AUTH =>
    exact .bind (tame_perform (tame_radiusRequest hS fun _ => rfl)) fun _ => .ite (tame_exit hS) tame_state
  | IPCPOPEN =>
    exact .bind (tame_perform (tame_ipregister hS)) fun _ => .bind tame_timerUpdate fun _ => tame_state
  | IPCPCLOSE => exact tame_exit hS
  | LCPPRECLOSE => exact tame_exit hS
  | LCPCLOSE => exact tame_exit hS
  | _ => exact .pure

/-- A frame, if its answer is in `S`. -/
theorem control_mild {f : Frame} {out : List Packet} {c : Ctx} (hc : Mild S out c)
    (hr : ∀ sid mac ident bs,
      S (.ppp sid mac (pppFrame f.proto (pppProtoProcess e f c).1.1.toNat ident bs))) :
    Mild S out (controlProcess e f c).2 := by
  have hp : Mild S out (pppProtoProcess e f c).2 := tame_proto hS out c hc
  have hreply : ∀ code payload, (∀ sid mac ident bs, S (.ppp sid mac (pppFrame f.proto code ident bs))) →
      Tame S (controlReply e f code payload) := by
    intro code payload hcode
    have hsend : Tame S (do
        let s := (← get).sess
        let ident := if code = CONFREQ then s.ident else f.ctl.ident
        let _ ← pppSendPacket e .pppReply (pppFrame f.proto code ident payload)) :=
      .bind .get fun _ => .bind (.bind .get fun _ => tame_emit (hcode _ _ _ _)) fun _ => .pure
    exact .ite (.bind (.update fun _ => rfl) fun _ => hsend) hsend
  rw [controlProcess]
  split
  · exact hc
  rw [bind_run]
  generalize hrun : pppProtoProcess e f c = r at hp hr
  split
  · exact hp
  split
  · exact (Tame.bind (hreply _ _ hr) fun _ => tame_stateCheck hS) out r.2 hp
  · exact tame_stateCheck hS out r.2 hp

/-- Every handler but that of a frame. -/
theorem tame_handle {t : Trigger} (ht : ∀ f, t ≠ .frame f) : Tame S (handle e t) := by
  cases t with
  | frame f => exact absurd rfl (ht f)
  | padt => exact .bind (tame_PADTprocess hS) fun _ => .pure
  | padsRoom => exact .bind (tame_perform (tame_sessoptExit hS)) fun _ => .pure
  | timer t => exact .bind (tame_timerFunc hS) fun _ => .pure
  | register err => exact .bind (tame_register hS) fun _ => .pure
  | authorize ip err => exact .bind (tame_authorize hS) fun _ => .pure
  | unauthorize ip => exact .bind (tame_unauthorize hS) fun _ => .pure
  | standbyRegister err => exact .bind tame_standbyRegister fun _ => .pure
  | standbyAuthorize ip err => exact .bind tame_standbyAuthorize fun _ => .pure
  | reply p d => exact .bind (tame_radiusSock hS) fun _ => .pure
  | disconnect => exact tame_disconnect hS
  | kick => exact .bind (tame_kick hS) fun _ => .pure
  | clear => exact .bind (tame_clear hS) fun _ => .pure
  | clearV2 => exact tame_exited
  | sync => exact .bind tame_syncSess fun _ => .pure
  | wakeup => exact .bind tame_wakeup fun _ => .pure
  | offlineSync => exact .bind (tame_perform (tame_sessoptExit hS)) fun _ => .pure
  | updateSync m => exact .bind (tame_updateSync hS) fun _ => .pure

end

/-! ## Sessions past LCP -/

/-- LCP has opened. -/
def Session.pastLcp (s : Session) : Prop := SessState.LCPOPEN.num ≤ s.state.num

instance (s : Session) : Decidable s.pastLcp := inferInstanceAs (Decidable (_ ≤ _))

section
variable {e : Env} {f : Frame} {c : Ctx} {t : Trigger} {out : List Packet}

theorem getShort_lt {bs : Bytes} {i : Nat} : getShort bs i < 65536 := by
  have h₁ := (bs.getD i 0).toNat_lt
  have h₂ := (bs.getD (i + 1) 0).toNat_lt
  unfold getShort getChar
  omega

/-- The code that the program answers with is in `R`. -/
def Answers (R : Int → Prop) (m : M Reply) : Prop := ∀ c, R (m c).1.1

section
variable {R : Int → Prop} {α : Type}

theorem Answers.bind {m : M α} {k : α → M Reply} (hk : ∀ a, Answers R (k a)) : Answers R (m >>= k) :=
  fun c => hk (m c).1 (m c).2

theorem Answers.pure {r : Reply} (hr : R r.1) : Answers R (pure r) := fun _ => hr

theorem Answers.ite {p : Prop} [Decidable p] {m n : M Reply} (hm : p → Answers R m) (hn : ¬ p → Answers R n) :
    Answers R (if p then m else n) := by
  split
  · exact hm ‹_›
  · exact hn ‹_›

end

/-- Neither a Terminate-Request nor a code that does not fit an octet. -/
def Harmless (i : Int) : Prop := i ≤ 7 ∧ i ≠ 5

instance (i : Int) : Decidable (Harmless i) := inferInstanceAs (Decidable (_ ∧ _))

/-- LCP that is open does not ask the peer to terminate. -/
theorem lcp_harmless {p : Pbuf} (h : c.sess.pastLcp) : Harmless (lcpProcess e p c).1.1 := by
  have hnum : 4 ≤ c.sess.state.num := h
  have hopen : c.sess.state ≠ .LCPPOSTOPEN := by
    intro hst
    rw [hst] at hnum
    exact absurd hnum (by decide)
  have hterm : Answers Harmless (lcpProcessTermReq e) :=
    .bind fun _ => .bind fun _ => .bind fun _ => .ite (fun _ => .bind fun _ => .pure (by decide))
      fun _ => .ite (fun _ => .bind fun _ => .pure (by decide)) fun _ => .pure (by decide)
  have hack : Answers Harmless lcpProcessTermAck := .bind fun _ => .bind fun _ => .pure (by decide)
  have hecho : ∀ q, Answers Harmless (lcpProcessEchoRep q) := fun q =>
    .ite (fun _ => .pure (by decide)) fun _ => .bind fun _ => .ite (fun _ => .pure (by decide))
      fun _ => .bind fun _ => .pure (by decide)
  rw [lcpProcess, bind_run]
  refine Answers.ite (fun _ => .pure (by decide)) (fun _ => ?_) c
  dsimp only [get_run]
  split
  · exact .pure (by decide)
  have hrej : Harmless CODEREJ := by decide
  refine .ite (fun _ => .pure hrej) fun _ => .ite (fun _ => ?_) fun _ => .ite (fun _ => ?_) fun _ => ?_
  · exact .ite (fun _ => .pure (by decide)) fun hle => absurd (show 3 < c.sess.state.num by omega) hle
  · exact .ite (fun _ => .pure (by decide)) fun hst => absurd hopen hst
  · refine .ite (fun _ => hterm) fun _ => .ite (fun _ => .ite (fun _ => .pure (by decide)) fun _ => hack) fun _ => ?_
    refine .ite (fun _ => .ite (fun _ => .pure (by decide)) fun hlt => absurd hnum hlt) fun _ => ?_
    exact .ite (fun _ => hecho _) fun _ => .pure (by decide)

/-- The answer to a frame of a session past LCP is no Terminate-Request of LCP. -/
theorem reply_silent (h : c.sess.pastLcp) {sid : Nat} {mac : Mac} {ident : Nat} {bs : Bytes} :
    (Packet.ppp sid mac (pppFrame f.proto (pppProtoProcess e f c).1.1.toNat ident bs)).isLcpTermReq = false := by
  rw [frame_termReq, decide_eq_false_iff_not]
  rintro ⟨hproto, hcode⟩
  have hlcp : f.proto = PPP_LCP := (Nat.mod_eq_of_lt getShort_lt).symm.trans hproto
  rw [pppProtoProcess, if_pos hlcp] at hcode
  obtain ⟨hle, hne⟩ := lcp_harmless (e := e) (p := f.pbuf) h
  have hfive : TERMREQ = 5 := rfl
  omega

/-- The packets that are no Terminate-Requests of LCP. -/
def Silent (p : Packet) : Prop := p.isLcpTermReq = false

/-- No handler asks the client of a session past LCP to terminate. -/
theorem handle_silent (hc : Mild Silent out c) (hpast : c.sess.pastLcp) :
    Mild Silent out (handle e t c).2 := by
  by_cases ht : ∃ f, t = .frame f
  · obtain ⟨f, rfl⟩ := ht
    exact control_mild (fun _ h => h) hc fun _ _ _ _ => reply_silent hpast
  · exact tame_handle (fun _ h => h) (fun f hf => ht ⟨f, hf⟩) out c hc

/-- A Terminate-Ack is dropped in the state in which a session waits for it. -/
theorem termAck_dropped (hst : c.sess.state = .LCPPOSTCLOSE) (hf : f.proto = PPP_LCP) (hack : f.ctl.code = TERMACK) :
    (controlProcess e f c).2 = c := by
  have hdrop : wp (lcpProcess e f.pbuf) (fun r c' => r.1 < 0 ∧ c' = c) c := by
    have hctl : (ctlOf f.pbuf.data).code = TERMACK := hack
    have hopen : ¬ (c.sess.state.num < SessState.INIT.num ∨ c.sess.state.num ≥ SessState.LCPCLOSE.num) := by
      rw [hst]
      decide
    have hother : c.sess.state ≠ .IPCPPOSTCLOSE := by
      rw [hst]
      decide
    rw [lcpProcess, wp_bind, wp_get]
    dsimp only
    rw [if_neg hopen]
    split
    · exact ⟨show PPPOEERR_ELENGTH < 0 by decide, rfl⟩
    · rw [hctl, if_neg (by decide), if_neg (by decide), if_neg (by decide), if_neg (by decide), if_pos rfl,
        if_pos hother]
      exact ⟨show PPPOEERR_ESTATE < 0 by decide, rfl⟩
  obtain ⟨hneg, hsame⟩ := hdrop
  rw [controlProcess]
  split
  · rfl
  · rw [bind_run, pppProtoProcess, if_pos hf, if_pos hneg]
    exact hsame

end

/-! ## Runs -/

/-- What is sent on the way from one instance to a later one. -/
def World.sentTo (w w' : World) : List Packet := w'.out.drop w.out.length

/-- A client is asked to terminate. -/
def World.Asks (w w' : World) : Prop := ∃ p ∈ w.sentTo w', p.isLcpTermReq = true

instance (w w' : World) : Decidable (w.Asks w') := inferInstanceAs (Decidable (∃ p ∈ _, _ = true))

theorem not_asks {w w' : World} {l : List Packet} (h : w'.out = w.out ++ l) (hl : ∀ p ∈ l, Silent p) :
    ¬ w.Asks w' := by
  rintro ⟨p, hp, hreq⟩
  rw [World.sentTo, h, List.drop_left] at hp
  exact Bool.false_ne_true ((hl p hp).symm.trans hreq)

theorem Run.Sound.silent {r : Run} {o : Oracle} (hr : r.Sound) (hp : (r.w.mem r.a).pastLcp) :
    ¬ r.w.Asks (r.w.runOn o r.a r.t) := by
  obtain ⟨hs, hlisted⟩ := hr
  have hsame : ∀ {w : World}, w.out = r.w.out → ¬ r.w.Asks w := fun h =>
    not_asks (h.trans (List.append_nil _).symm) (List.forall_mem_nil _)
  by_cases ha : r.a ∈ r.w.tables.sess_list
  · have hstart : Mild Silent r.w.out (r.w.ctx r.a) :=
      ⟨(hs.fit r.a ha).terms, [], (List.append_nil _).symm, List.forall_mem_nil _⟩
    obtain ⟨l, hout, hl⟩ := (handle_silent (e := r.w.env o r.a) (t := r.t) hstart hp).sent
    rw [World.runOn]
    split
    · exact hsame rfl
    split
    · exact hsame rfl
    split
    · exact not_asks ((sessExit_read World.out).trans hout) hl
    · exact not_asks hout hl
  · obtain ⟨p, d, ht⟩ := hlisted.resolve_left ha
    rw [ht]
    rcases stray_effect (o := o) (p := p) (d := d) hs ha with h | h
    · exact hsame (by rw [h])
    · exact hsame (by rw [h])

/-- No session past LCP is asked to terminate, whichever way it is ended, and the answer would not be taken. -/
theorem never_asked (cfg : Config) (pool : Ippool) (status : BackupStatus) :
    (∀ (xs : List (Event × Oracle)) (x : Event × Oracle),
      ∀ r ∈ (runEvents (World.init cfg pool status) xs).runs x,
        (r.w.mem r.a).pastLcp → ¬ r.w.Asks (r.w.runOn x.2 r.a r.t)) ∧
    ∀ (e : Env) (f : Frame) (c : Ctx), c.sess.state = .LCPPOSTCLOSE → f.proto = PPP_LCP →
      f.ctl.code = TERMACK → (handle e (.frame f) c).2 = c := by
  refine ⟨fun xs x r hr hp => ?_, fun e f c hst hf hack => termAck_dropped hst hf hack⟩
  exact (runs_sound runEvents_sound hr).silent hp

/-- A session is online. -/
def onlineWorld : World := runEvents (World.init sampleCfg samplePool .NONE) sampleLogin

/-- A session that waits for the answer to a Terminate-Request. -/
def waitingCtx : Ctx := { sess := { state := .LCPPOSTCLOSE } }

def ackFrame : Frame := { bytes := [0xc0, 0x21, 6, 0, 0, 4] }

/-- The sessions are cleared and no client is asked, and the answer of a client leaves its session waiting. -/
theorem left_unasked :
    (1 ∈ onlineWorld.tables.sess_list ∧ (onlineWorld.mem 1).pastLcp) ∧
      ¬ (1 ∉ (step onlineWorld (.clear, sampleOracle)).tables.sess_list →
        onlineWorld.Asks (step onlineWorld (.clear, sampleOracle))) ∧
      ¬ (ackFrame.proto = PPP_LCP ∧ ackFrame.ctl.code = TERMACK →
        (handle {} (.frame ackFrame) waitingCtx).2.sess.state ≠ .LCPPOSTCLOSE) := by
  decide +kernel

end Pppoe
end DaemonGroup
