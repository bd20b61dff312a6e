import DaemonGroup.Pppoe.Steps

/-!
# DaemonGroup.Pppoe.Forgery

What a datagram that does not verify under the shared secret can do. A reply is checked once it suits
the session's state, and releases the identifier it names if it does not; a Disconnect-Request is
never checked, `radius_request_check` has no caller. `forged_untouched` says exactly which datagrams
that leaves harmless, for every state of the instance.
-/

namespace DaemonGroup
namespace Pppoe

open Lib

/-! ## Authenticators -/

/-- The server whose secret a reply is checked with. -/
def replyServer (cfg : Config) (d : Datagram) : Option RadiusServer :=
  let code := (packOf d.bytes).code
  if code = RADIUS_CODE_ACCESS_ACCEPT ∨ code = RADIUS_CODE_ACCESS_REJECT then
    fromServer d cfg.srv.auth cfg.srv.backup_auth
  else if code = RADIUS_CODE_ACCOUNTING_RESPONSE then
    fromServer d cfg.srv.acct cfg.srv.backup_acct
  else
    none

/-- The response authenticator is right for the request that the reply names. -/
def World.replyVerifies (w : World) (sock : Nat) (d : Datagram) : Bool :=
  match replyServer w.cfg d with
  | none => false
  | some server =>
    radiusReplyCheck d.bytes (w.rad.id ⟨sock, (packOf d.bytes).id⟩).req_pack server.secret

/-- The request authenticator of a Disconnect-Request is right. -/
def World.coaVerifies (w : World) (d : Datagram) : Bool :=
  match w.coaFrom d with
  | none => false
  | some server => radiusRequestCheck d.bytes server.secret

/-- A datagram that does not verify. -/
def World.forged (w : World) : Event → Bool
  | .radius sock d => ¬ w.replyVerifies sock d
  | .coa d => ¬ w.coaVerifies d
  | _ => false

/-- Nothing that a datagram may change has changed. -/
structure Untouched (w w' : World) : Prop where
  rad : w'.rad = w.rad
  state : ∀ a, (w'.mem a).state = (w.mem a).state
  timer : ∀ a t, (w'.mem a).timer t = (w.mem a).timer t
  priv_data : ∀ a, (w'.mem a).priv_data = (w.mem a).priv_data
  tables : w'.tables = w.tables
  fault : w'.fault = w.fault

theorem Untouched.refl {w : World} : Untouched w w :=
  ⟨rfl, fun _ => rfl, fun _ _ => rfl, fun _ => rfl, rfl, rfl⟩

/-- The code acts on the datagram without having looked at its authenticator: a reply names an
identifier in use whose session is not in a state that waits for it (or is not there at all), a
Disconnect-Request from the address of a server finds a session that is online (or has an attribute
on which the search does not end). -/
def World.trusts (w : World) : Event → Bool
  | .radius sock d =>
    match w.radidOf sock d with
    | none => false
    | some p =>
      match (w.rad.id p).sess with
      | none => true
      | some a => ReplyMisfit (packOf d.bytes).code (w.mem a).state
  | .coa d =>
    match w.coaFrom d, coaKey d.bytes with
    | none, _ => false
    | some _, none => true
    | some _, some k => (w.coaSession k).isSome
  | _ => false

/-! ## Replies -/

section
variable {w : World} {o : Oracle} {a : Addr} {sock : Nat} {d : Datagram} {p : RadPtr} {e : Env}
  {c : Ctx}

/-- A reply that suits the session's state and does not verify is dropped. -/
theorem reply_drops (hm : ReplyMisfit (packOf d.bytes).code c.sess.state = false)
    (hv : ∀ server, replyServer e.cfg d = some server →
      radiusReplyCheck d.bytes (c.rad.id p).req_pack server.secret = false) :
    wp (radiusSockProcess e p d) (fun _ c' => c' = c) c := by
  have hfit := of_decide_eq_false hm
  rw [replyServer] at hv
  rw [radiusSockProcess, wp_bind, wp_get]
  dsimp only at hv ⊢
  split
  · rename_i hcode
    rw [if_pos hcode] at hv
    split
    · rename_i hst
      exact absurd (.inl ⟨hcode, hst⟩) hfit
    split
    · rfl
    split
    · rfl
    · rename_i server hs
      rw [if_pos (by rw [hv server hs]; decide)]
      rfl
  rename_i hcode
  rw [if_neg hcode] at hv
  split
  · rename_i hacct
    rw [if_pos hacct] at hv
    split
    · rename_i hst
      exact absurd (.inr ⟨hacct, hst⟩) hfit
    split
    · rfl
    split
    · rfl
    · rename_i server hs
      rw [if_pos (by rw [hv server hs]; decide)]
      rfl
  · rfl

/-- A reply that does not suit the session's state releases the identifier. -/
theorem reply_frees (hm : ReplyMisfit (packOf d.bytes).code c.sess.state = true) :
    wp (radiusSockProcess e p d) (fun _ c' => c' = { c with rad := c.rad.free p }) c := by
  rw [radiusSockProcess, wp_bind, wp_get]
  dsimp only
  rcases of_decide_eq_true hm with ⟨hcode, hst⟩ | ⟨hcode, hst⟩
  · rw [if_pos hcode, if_pos hst]
    rfl
  · have hno : ¬ ((packOf d.bytes).code = RADIUS_CODE_ACCESS_ACCEPT ∨
        (packOf d.bytes).code = RADIUS_CODE_ACCESS_REJECT) := by
      rw [hcode]
      decide
    rw [if_neg hno, if_pos hcode, if_pos hst]
    rfl

theorem radidOf_eq (h : w.radidOf sock d = some p) : p = ⟨sock, (packOf d.bytes).id⟩ := by
  rw [World.radidOf] at h
  split at h
  · cases h
  split at h
  · cases h
  · cases h
    rfl

theorem radius_untouched (hw : w.fault = false) (hf : w.forged (.radius sock d)) :
    Untouched w (w.radiusSock o sock d) ↔ w.trusts (.radius sock d) = false := by
  rw [World.radiusSock, World.trusts]
  cases hp : w.radidOf sock d with
  | none => exact iff_of_true .refl rfl
  | some p =>
    have hu := radidOf_used hp
    obtain rfl := radidOf_eq hp
    dsimp only
    cases hs : (w.rad.id ⟨sock, (packOf d.bytes).id⟩).sess with
    | none =>
      refine iff_of_false (fun h => ?_) Bool.noConfusion
      have := h.fault
      rw [hw] at this
      cases this
    | some a =>
      dsimp only
      cases hm : ReplyMisfit (packOf d.bytes).code (w.mem a).state with
      | false =>
        refine iff_of_true ?_ rfl
        have hrun : (handle (w.env o a) (.reply ⟨sock, (packOf d.bytes).id⟩ d) (w.ctx a)).2 = w.ctx a := by
          refine reply_drops (c := w.ctx a) hm fun server hserver => ?_
          have hv := of_decide_eq_true hf
          rw [World.replyVerifies, show replyServer w.cfg d = some server from hserver] at hv
          exact Bool.eq_false_iff.mpr hv
        rw [World.runOn, hrun, store_ctx]
        simp [hw, World.ctx, Untouched.refl]
      | true =>
        refine iff_of_false (fun h => ?_) Bool.noConfusion
        have hrun : (handle (w.env o a) (.reply ⟨sock, (packOf d.bytes).id⟩ d) (w.ctx a)).2 =
            { w.ctx a with rad := w.rad.free ⟨sock, (packOf d.bytes).id⟩ } :=
          reply_frees (c := w.ctx a) hm
        have hrad := h.rad
        rw [World.runOn, hrun] at hrad
        simp [hw, World.ctx, World.store] at hrad
        rw [← hrad, free_same] at hu
        cases hu

/-! ## Disconnect-Requests -/

/-- The session is not online. -/
def Ctx.away (c : Ctx) : Prop := c.sess.state ≠ .ONLINE

theorem emit_away {call : Call} {x : Packet} : Stable Ctx.away (emit e call x) :=
  .ite .pure (.bind (.modify fun _ h => h) fun _ => .pure)

theorem perform_away {op : SessionOptType} {f : M Int} (hf : Stable Ctx.away f) :
    Stable Ctx.away (sessionOptPerform op f) :=
  .bind .get fun _ => .ite hf .pure

theorem update_away {f : Session → Session} (hf : ∀ s, s.state ≠ .ONLINE → (f s).state ≠ .ONLINE) :
    Stable Ctx.away (update f) :=
  .modify fun c hc => hf c.sess hc

theorem setTimer_away {x : Timer} {t : SessionTimerType} :
    Stable Ctx.away (update fun s => s.setTimer x t) :=
  update_away fun s hs => by cases t <;> exact hs

theorem offlinesync_away : Stable Ctx.away (sessoptOfflinesync e) :=
  .ite .pure (.bind .get fun _ => .ite .pure (.ite .pure (.ite .pure (.bind (.modify fun _ h => h)
    fun _ => .pure))))

theorem _manageSessExit_away : Stable Ctx.away (_manageSessExit e) := by
  have hto : ∀ {st : SessState}, st ≠ .ONLINE →
      Stable Ctx.away (update fun s => { s with state := st }) :=
    fun h => update_away fun _ _ => h
  have herror : ∀ ret, Stable Ctx.away (lcpTermReqError ret) := fun ret =>
    .bind (.bind .get fun _ => .ite .pure (.bind (update_away fun _ h => h) fun _ => .pure)) fun _ =>
      .bind (hto (by decide)) fun _ => .pure
  have hsend : Stable Ctx.away (sendLcpTermReq e) :=
    .bind (update_away fun _ h => h) fun _ => .bind .get fun _ => .ite (herror _)
      (.bind (.bind .get fun _ => emit_away) fun _ => .ite (herror _)
        (.bind (hto (by decide)) fun _ => .pure))
  have hdist : Stable Ctx.away (discoverSessionExit e) :=
    .bind (.bind .get fun _ => emit_away) fun _ => .bind (hto (by decide)) fun _ => .pure
  have hexit : Stable Ctx.away (sessoptExit e) :=
    .bind .get fun _ => .bind emit_away fun _ => .bind (.modify fun _ h => h) fun _ => .pure
  have htimer : Stable Ctx.away (sessionTimerUpdate .TIMEOUT) :=
    .bind .get fun _ => .ite .pure (.bind setTimer_away fun _ => .pure)
  exact .bind (perform_away hsend) fun _ => .ite (.bind htimer fun _ => .pure)
    (.bind (perform_away hdist) fun _ => .bind (perform_away hexit) fun _ => .pure)

theorem disconnect_away : (coaSessionDisconnnect e c).2.away := by
  have hrest : Stable Ctx.away (do
      sessionTimerDestroy .RETRANS
      sessionTimerDestroy .UPDATE
      sessionTimerDestroy .ECHO
      let _ ← sessionOptPerform .OFFLINESYNC (sessoptOfflinesync e)
      _manageSessExit e) :=
    .bind setTimer_away fun _ => .bind setTimer_away fun _ => .bind setTimer_away fun _ =>
      .bind (perform_away offlinesync_away) fun _ => _manageSessExit_away
  exact hrest _ (by simp [Ctx.away])

/-- The session that a Disconnect-Request finds is registered and online. -/
theorem coaSession_online {k : CoaKey} (h : w.coaSession k = some a) :
    a ∈ w.tables.sess_list ∧ (w.mem a).state = .ONLINE := by
  rw [World.coaSession, coaSessionLookup] at h
  split at h
  · cases h
  · have hk := List.find?_some h
    exact ⟨List.mem_of_find?_eq_some h, (of_decide_eq_true hk).1⟩

/-- A session that is disconnected is not what it was. -/
theorem disconnect_touches (hw : w.fault = false) (ha : a ∈ w.tables.sess_list)
    (hst : (w.mem a).state = .ONLINE) : ¬ Untouched w (w.runOn o a .disconnect) := by
  intro h
  have haway : (handle (w.env o a) .disconnect (w.ctx a)).2.sess.state ≠ .ONLINE := disconnect_away
  rw [World.runOn, hw] at h
  split at h
  · rename_i hf
    cases hf
  split at h
  · have hf := h.fault
    rw [hw] at hf
    cases hf
  split at h
  · have hlist := congrArg Tables.sess_list h.tables
    rw [sessExit_list] at hlist
    have hlen : (w.tables.sess_list.erase a).length = w.tables.sess_list.length :=
      congrArg List.length hlist
    rw [List.length_erase_of_mem ha] at hlen
    have hpos := List.length_pos_of_mem ha
    omega
  · have hs := h.state a
    rw [hst, show (World.mem _ a) = _ from Mem.set_same] at hs
    exact haway hs

theorem coa_untouched (hw : w.fault = false) :
    Untouched w (w.coa o d) ↔ w.trusts (.coa d) = false := by
  rw [World.coa, World.trusts]
  cases w.coaFrom d with
  | none => exact iff_of_true .refl rfl
  | some server =>
    cases coaKey d.bytes with
    | none =>
      refine iff_of_false (fun h => ?_) Bool.noConfusion
      have hf := h.fault
      rw [hw] at hf
      cases hf
    | some k =>
      dsimp only
      cases hs : w.coaSession k with
      | none => exact iff_of_true ⟨rfl, fun _ => rfl, fun _ _ => rfl, fun _ => rfl, rfl, rfl⟩ rfl
      | some a =>
        obtain ⟨ha, hst⟩ := coaSession_online hs
        refine iff_of_false (fun h => ?_) Bool.noConfusion
        exact disconnect_touches (o := o) hw ha hst
          ⟨h.rad, h.state, h.timer, h.priv_data, h.tables, h.fault⟩

end

/-! ## The exact condition -/

/-- A datagram that does not verify leaves everything as it was if and only if the code does not act
on it before it looks at the authenticator. -/
theorem forged_untouched {w : World} {ev : Event} {o : Oracle} (hw : w.fault = false)
    (ht : w.takes ev) (hf : w.forged ev) :
    Untouched w (step w (ev, o)) ↔ w.trusts ev = false := by
  rw [step, if_neg (by simp [hw, ht])]
  cases ev with
  | radius sock d => exact radius_untouched hw hf
  | coa d => exact coa_untouched hw
  | _ => cases hf

/-- A reply of the attacker's making to the Access-Request of a client. -/
def forgedReply : Datagram := ⟨1, 1812, [2, 0, 0, 20] ++ List.replicate 16 0⟩

theorem forged_untouched_reply :
    Untouched (runEvents (World.init sampleCfg samplePool .NONE) sampleAuth)
      (step (runEvents (World.init sampleCfg samplePool .NONE) sampleAuth)
        (.radius 0 forgedReply, sampleOracle)) :=
  (forged_untouched (by decide +kernel) (by decide +kernel) (by decide +kernel)).mpr
    (by decide +kernel)

/-- An Accounting-Response to the Access-Request, and a Disconnect-Request for the address of a
client that is online, neither with a right authenticator. -/
def forgedResponse : Datagram := ⟨7, 9, [5, 0, 0, 20] ++ List.replicate 16 0⟩

def forgedDisconnect : Datagram :=
  ⟨1, 9, [40, 0, 0, 26] ++ List.replicate 16 0 ++ [8, 6, 10, 1, 1, 1]⟩

theorem forged_touches :
    ¬ (World.forged (runEvents (World.init sampleCfg samplePool .NONE) sampleAuth)
        (.radius 0 forgedResponse) → Untouched
          (runEvents (World.init sampleCfg samplePool .NONE) sampleAuth)
          (step (runEvents (World.init sampleCfg samplePool .NONE) sampleAuth)
            (.radius 0 forgedResponse, sampleOracle))) ∧
    ¬ (World.forged (runEvents (World.init sampleCfg samplePool .NONE) sampleLogin)
        (.coa forgedDisconnect) → Untouched
          (runEvents (World.init sampleCfg samplePool .NONE) sampleLogin)
          (step (runEvents (World.init sampleCfg samplePool .NONE) sampleLogin)
            (.coa forgedDisconnect, sampleOracle))) := by
  constructor
  · intro h
    have hrad := (h (by decide +kernel)).rad
    have hused : ((runEvents (World.init sampleCfg samplePool .NONE) sampleAuth).rad.id ⟨0, 0⟩).status =
        .USED := by
      decide +kernel
    rw [← hrad] at hused
    exact absurd hused (by decide +kernel)
  · intro h
    have htables := (h (by decide +kernel)).tables
    have hlist : (runEvents (World.init sampleCfg samplePool .NONE) sampleLogin).tables.sess_list = [1] := by
      decide +kernel
    rw [← htables] at hlist
    exact absurd hlist (by decide +kernel)

end Pppoe
end DaemonGroup
