import DaemonGroup.Pppoe.Proto

/-!
# DaemonGroup.Pppoe.Move

Everything that can happen to a session: `Move t e c v` says that the trigger `t` can take the
session of `c` to the view `v`, one constructor for each kind of transition, with the state it
starts from and what is asked, released or told on the way. `handle_move` is the inversion of the
handlers: there is no other transition. The invariants of the instance are proved by cases on it.
-/

namespace DaemonGroup
namespace Pppoe

open Lib

/-! ## Triggers -/

/-- The trigger may end the session at once, whatever the session waits for. -/
def Trigger.mayEnd (t : Trigger) (s : Session) : Bool :=
  match t with
  | .frame f => f.mayEnd s.state
  | .padt => s.state.plain
  | .timer .ECHO => 3 ≤ s.echoLoseTimes ∧ s.state.plain
  | .timer .TIMEOUT => true
  | .timer _ => false
  | .register err => err ≠ 0
  | .standbyRegister err => err ≠ 0
  | .authorize ip _ => s.ipaddr.ip = ip
  | .standbyAuthorize ip err => s.ipaddr.ip = ip ∧ err ≠ 0
  | .unauthorize ip => s.ipaddr.ip = ip ∧ s.state.plain
  | .updateSync m => s.mac ≠ m.mac
  | .clear => s.state ≠ .ONLINE
  | .padsRoom | .disconnect | .clearV2 | .offlineSync => true
  | .reply .. | .kick | .sync | .wakeup => false

/-- The trigger makes a session that is online send its Accounting-Stop. -/
def Trigger.stops (t : Trigger) (s : Session) : Bool :=
  match t with
  | .frame f => f.isTermReq
  | .padt => true
  | .timer .ECHO => 3 ≤ s.echoLoseTimes
  | .unauthorize ip => s.ipaddr.ip = ip
  | .kick => true
  | .timer _ | .padsRoom | .register _ | .authorize .. | .standbyRegister _ | .standbyAuthorize ..
  | .reply .. | .disconnect | .clear | .clearV2 | .sync | .wakeup | .offlineSync
  | .updateSync _ => false

/-- The trigger can answer the request the session waits for, or give it up. -/
def Trigger.settles : Trigger → Bool
  | .reply .. => true
  | .timer .RETRANS => true
  | _ => false

/-- A reply of this code does not suit a session in this state. -/
def ReplyMisfit (code : Nat) (st : SessState) : Bool :=
  (code = RADIUS_CODE_ACCESS_ACCEPT ∨ code = RADIUS_CODE_ACCESS_REJECT) ∧ st ≠ .AUTHPOST ∨
    code = RADIUS_CODE_ACCOUNTING_RESPONSE ∧ st ≠ .ONLINEPOST ∧ st ≠ .ONLINE ∧ st ≠ .OFFLINEPOST

/-- The session owns the identifier it names. -/
def View.owns (v : View) (a : Addr) : Prop :=
  ∃ p, v.life.priv_data = some p ∧ (v.rad.id p).status = .USED ∧ (v.rad.id p).sess = some a

/-- The request that the session waits for has been answered or given up. -/
def View.settle (v : View) : View := v.clean.onTimer .RETRANS Timer.pause

/-! ## Transitions -/

inductive Move (t : Trigger) (e : Env) (c : Ctx) : View → Prop
  | idle {i : Nat} (hi : c.sess.state = .AUTHPRE → i = c.sess.ident) : Move t e c (c.view.setIdent i)
  | preopen (hst : c.sess.state = .INIT) : Move t e c (c.view.goto .LCPPREOPEN)
  | postopen (hst : c.sess.state = .INIT ∨ c.sess.state = .LCPPREOPEN) :
      Move t e c (((c.view.setIdent 1).onTimer .TIMEOUT Timer.rearm).goto .LCPPOSTOPEN)
  | authpre {f : Frame} {i : Nat} {ms : List Mark} (ht : t = .frame f)
      (hopen : f.opens c.options c.sess)
      (hms : ms = [.challenge i] ∨ ms = [] ∧ (c.options.neg_upap = false →
        c.options.neg_eap = false → c.sess.auth_type = AUTH_CHAP ∨ f.namesAuth →
        e.fail .chapChallenge = true)) :
      Move t e c ((((c.view.setIdent i).mark ms).onTimer .TIMEOUT Timer.rearm).goto .AUTHPRE)
  | authpost {f : Frame} {v : View} (ht : t = .frame f) (hresp : f.isResponse)
      (hst : c.sess.state = .AUTHPRE) (ha : Asked e .auth
        (((c.view.onTimer .TIMEOUT Timer.pause).goto .AUTH).mark [.response f.ctl.ident]) v) :
      Move t e c (v.goto .AUTHPOST)
  | exitAuth {f : Frame} {v : View} {st : SessState} (ht : t = .frame f) (hresp : f.isResponse)
      (hst : c.sess.state = .AUTHPRE)
      (ha : AskFailed e .auth
        (((c.view.onTimer .TIMEOUT Timer.pause).goto .AUTH).mark [.response f.ctl.ident]) v) :
      Move t e c (v.leave st)
  | opened {p : RadPtr} {d : Datagram} (ht : t = .reply p d) (hst : c.sess.state = .AUTHPOST) :
      Move t e c (((c.view.settle.setIdent 1).onTimer .TIMEOUT Timer.rearm).goto .IPCPPOSTOPEN)
  | exitOpened {i : Nat} {st : SessState} (ht : t.settles) (hst : c.sess.state = .AUTHPOST) :
      Move t e c (((c.view.clean.setIdent i).onTimer .RETRANS fun _ => .none).leave st)
  | address {i : Nat} {v : View} (hst : c.sess.state = .IPCPPOSTOPEN) (ha : Applies e c.view v) :
      Move t e c (v.setIdent i)
  | onlinepre {v : View} (hst : c.sess.state = .IPCPPOSTOPEN) (ha : Applies e c.view v) :
      Move t e c ((v.onTimer .TIMEOUT Timer.rearm).goto .ONLINEPRE)
  | onlinepost {ip : UInt32} {v : View} (ht : t = .authorize ip 0) (hip : c.sess.ipaddr.ip = ip)
      (ha : Asked e .start (c.view.onTimer .TIMEOUT Timer.pause) v) :
      Move t e c (v.goto .ONLINEPOST)
  | exitOnline {ip : UInt32} {v : View} {st : SessState} (ht : t = .authorize ip 0)
      (hip : c.sess.ipaddr.ip = ip)
      (ha : AskFailed e .start (c.view.onTimer .TIMEOUT Timer.pause) v) : Move t e c (v.leave st)
  | online {m : OnlineSync} (ht : t.settles) (hst : c.sess.state = .ONLINEPOST)
      (hm : Tells m c.sess.toLife) :
      Move t e c ((c.view.settle.post e (.SESSONLINE m)).goto .ONLINE)
  | standby {ip : UInt32} (ht : t = .standbyAuthorize ip 0) (hip : c.sess.ipaddr.ip = ip) :
      Move t e c ((c.view.onTimer .TIMEOUT Timer.pause).goto .ONLINE)
  | update {m : UpdateSync} {v : View} (ht : t = .timer .UPDATE)
      (ha : Asked e .update (c.view.post e (.SESSUPDATE m)) v ∨
        AskFailed e .update (c.view.post e (.SESSUPDATE m)) v)
      (hm : m.sid = c.sess.sid ∧ m.mac = c.sess.mac) : Move t e c v
  | sync {m : OnlineSync} (ht : t = .sync) (hst : c.sess.state = .ONLINE)
      (hm : Tells m c.sess.toLife) : Move t e c (c.view.post e (.SESSONLINE m))
  | offlinepost {v : View} (ht : t.stops c.sess) (hst : c.sess.state = .ONLINE)
      (ha : Asked e .stop c.view v) :
      Move t e c ((v.goto .OFFLINEPOST).post e v.life.offlineSync)
  /-- a Terminate-Request is acknowledged and the Stop could not be sent: nothing ends the session -/
  | stuck {f : Frame} {v : View} (ht : t = .frame f) (hterm : f.isTermReq)
      (hst : c.sess.state = .ONLINE) (ha : AskFailed e .stop c.view v) :
      Move t e c ((v.goto .OFFLINE).post e v.life.offlineSync)
  | exitOffline {v : View} {st : SessState} (ht : t.stops c.sess) (hterm : ∀ f, t ≠ .frame f)
      (hst : c.sess.state = .ONLINE) (ha : AskFailed e .stop c.view v) :
      Move t e c ((v.post e v.life.offlineSync).leave st)
  | exitStopped {st : SessState} (ht : t.settles) (hst : c.sess.state = .OFFLINEPOST) :
      Move t e c (c.view.settle.leave st)
  /-- the request was one that the session's state does not wait for -/
  | settled (ht : t.settles) (hst : c.sess.state ≠ .AUTHPOST ∧ c.sess.state ≠ .ONLINEPOST ∧
      c.sess.state ≠ .OFFLINEPOST) : Move t e c c.view.settle
  | retransmit {p : RadPtr} {pack : RadiusPacket} (ht : t = .timer .RETRANS)
      (hp : c.sess.priv_data = some p) (ho : c.view.owns e.self) :
      Move t e c ((c.view.onTimer .RETRANS Timer.rearm).ask c.rad p e.self
        (retransportKind c.sess.state) pack)
  /-- the identifier was taken from the session behind its back -/
  | lost (ht : t = .timer .RETRANS) (ho : ¬ c.view.owns e.self) :
      Move t e c { c.view.onTimer .RETRANS Timer.pause with
        life := { (c.view.onTimer .RETRANS Timer.pause).life with priv_data := none } }
  | misfit {p : RadPtr} {d : Datagram} (ht : t = .reply p d)
      (hm : ReplyMisfit (packOf d.bytes).code c.sess.state) :
      Move t e c { c.view with rad := c.rad.free p }
  | exit {v : View} {i : Nat} {g : Timer → Timer} {st : SessState} (ht : t.mayEnd c.sess)
      (hd : t ≠ .disconnect) (ha : Applies e c.view v) : Move t e c (((v.setIdent i).onTimer .TIMEOUT g).leave st)
  | disconnect {st : SessState} (ht : t = .disconnect) :
      Move t e c (((c.view.onTimer .RETRANS fun _ => .none).post e c.sess.offlineSync).leave st)
  | clear {v : View} {st : SessState} (ht : t = .clear) (hst : c.sess.state = .ONLINE)
      (ha : AskedOnce e .stop c.view v ∨ AskFailed e .stop c.view v) : Move t e c (v.leave st)
  | faulty {v : View} (hv : v.fault = true) : Move t e c v

/-- What a program of a trigger is to leave. -/
def MoveAfter (t : Trigger) (e : Env) (c : Ctx) (c' : Ctx) : Prop :=
  Move t e c c'.view ∧ Fit c'.sess

section
variable {t : Trigger} {e : Env} {c : Ctx}

theorem View.setIdent_self (v : View) : v.setIdent v.life.ident = v := rfl

theorem Move.keep : Move t e c c.view := View.setIdent_self c.view ▸ .idle fun _ => rfl

theorem View.onTimer_id (v : View) (s : SessionTimerType) : v.onTimer s id = v := by cases s <;> rfl

/-- The session is ended as it stands. -/
theorem Move.leave {st : SessState} (ht : t.mayEnd c.sess) (hd : t ≠ .disconnect) :
    Move t e c (c.view.leave st) := by
  have h : Move t e c (((c.view.setIdent c.view.life.ident).onTimer .TIMEOUT id).leave st) :=
    .exit ht hd .refl
  rwa [View.onTimer_id, View.setIdent_self] at h

/-! ## Frames -/

/-- The identifier after a reply. -/
def replyIdent (r : Int) (i : Nat) : Nat := if r = CONFREQ then i + 1 else i

theorem controlReply_wp {f : Frame} {r : Int} {d : Bytes} {Q : Unit → Ctx → Prop} (hf : Fit c.sess)
    (h0 : 0 ≤ r)
    (h : ∀ c', c'.view = c.view.setIdent (replyIdent r c.sess.ident) →
      c'.sess.auth_type = c.sess.auth_type → Fit c'.sess → Q () c') :
    wp (controlReply e f r.toNat d) Q c := by
  have hr : r.toNat = CONFREQ ↔ r = CONFREQ := by
    rw [← Int.toNat_of_nonneg h0]
    exact_mod_cast Iff.rfl
  have hsend : ∀ c₁ : Ctx, c₁.view = c.view.setIdent (replyIdent r c.sess.ident) →
      c₁.sess.auth_type = c.sess.auth_type → Fit c₁.sess → ∀ k p, wp (emit e k p) (fun _ => Q ()) c₁ := by
    intro c₁ hv ha hf₁ k p
    simp only [emit, wp_bind, wp_ite, wp_modify, wp_pure]
    exact ⟨fun _ => h c₁ hv ha hf₁, fun _ => h _ hv ha hf₁⟩
  simp only [controlReply, pppSendPacket, wp_bind, wp_ite, update_wp, wp_get, wp_pure]
  constructor
  · intro hc
    refine hsend _ ?_ ?_ ?_ _ _
    · simp [replyIdent, hr.mp hc, Ctx.view, View.setIdent]
    · rfl
    · exact hf.keep rfl rfl
  · intro hc
    refine hsend c ?_ rfl hf _ _
    rw [hr] at hc
    simp [replyIdent, hc, Ctx.view, View.setIdent]

theorem controlTail_wp {f : Frame} {r : Int} {d : Bytes} {Q : Unit → Ctx → Prop} (hf : Fit c.sess)
    (hneg : r < 0 → Q () c)
    (hpos : 0 ≤ r → ∀ c', c'.view = c.view.setIdent (replyIdent r c.sess.ident) →
      c'.sess.auth_type = c.sess.auth_type → Fit c'.sess → wp (stateCheck e) Q c') :
    wp (do
      if r < 0 then
        return ()
      if r ≠ 0 then
        controlReply e f r.toNat d
      stateCheck e) Q c := by
  simp only [wp_bind, wp_ite, wp_pure]
  refine ⟨hneg, fun h0 => ⟨fun _ => ?_, fun hz => ?_⟩⟩
  · exact controlReply_wp hf (by omega) fun c' hv ha hf' => hpos (by omega) c' hv ha hf'
  · refine hpos (by omega) c ?_ rfl hf
    have : ¬ r = CONFREQ := by
      rintro rfl
      exact hz (by decide)
    simp [replyIdent, this, Ctx.view, View.setIdent]

/-- The states that `state_check` acts on. -/
def SessState.acts : SessState → Bool
  | .LCPPREOPEN | .LCPOPEN | .AUTH | .IPCPOPEN | .IPCPCLOSE | .LCPPRECLOSE | .LCPCLOSE => true
  | _ => false

theorem stateCheck_rest {Q : Unit → Ctx → Prop} (hst : c.sess.state.acts = false) (h : Q () c) :
    wp (stateCheck e) Q c := by
  rw [stateCheck, wp_bind, wp_get]
  split <;> first | exact h | (rename_i hs; rw [hs] at hst; exact absurd hst (by decide))

theorem stateCheck_preopen {Q : Unit → Ctx → Prop} (hf : Fit c.sess)
    (hst : c.sess.state = .LCPPREOPEN)
    (hs : After (((c.view.setIdent 1).onTimer .TIMEOUT Timer.rearm).goto .LCPPOSTOPEN) (Q ()))
    (hx : ∀ st, After ((c.view.setIdent 1).leave st) (Q ())) : wp (stateCheck e) Q c := by
  rw [stateCheck, wp_bind, wp_get, hst]
  simp only [wp_bind, wp_ite]
  rw [perform_wp hf (by decide)]
  simp only [sendLcpConfReq, wp_bind, update_wp, wp_get]
  refine send_wp (hf.keep rfl rfl) (fun _ c₁ hv₁ hf₁ => ?_) (fun _ c₁ hv₁ hf₁ => ?_)
  · refine ⟨fun h => absurd rfl h, fun _ => timerUpdate_wp hf₁ fun _ c₂ hv₂ hf₂ => goto_wp hf₂ ?_⟩
    rw [hv₂, hv₁]
    exact hs
  · refine ⟨fun _ => exit_wp hf₁ fun st => ?_, fun h => absurd (by decide) h⟩
    rw [hv₁]
    exact hx st

theorem stateCheck_close {Q : Unit → Ctx → Prop} (hf : Fit c.sess)
    (hst : c.sess.state = .IPCPCLOSE ∨ c.sess.state = .LCPPRECLOSE ∨ c.sess.state = .LCPCLOSE)
    (hx : ∀ st, After (c.view.leave st) (Q ())) : wp (stateCheck e) Q c := by
  rw [stateCheck, wp_bind, wp_get]
  rcases hst with h | h | h <;> rw [h] <;> exact exit_wp hf hx

theorem stateCheck_auth {Q : Unit → Ctx → Prop} (hf : Fit c.sess) (hst : c.sess.state = .AUTH)
    (hs : ∀ v, Asked e .auth c.view v → After (v.goto .AUTHPOST) (Q ()))
    (hx : ∀ v st, AskFailed e .auth c.view v → After (v.leave st) (Q ())) :
    wp (stateCheck e) Q c := by
  rw [stateCheck, wp_bind, wp_get, hst]
  simp only [wp_bind, wp_ite]
  refine request_wp hf (by decide) ⟨fun _ => rfl, fun _ => rfl, fun _ => rfl⟩ ?_ ?_
  · intro v ha c₁ hv₁ hf₁
    refine ⟨fun h => absurd rfl h, fun _ => goto_wp hf₁ ?_⟩
    rw [hv₁]
    exact hs v ha
  · intro r v hr ha c₁ hv₁ hf₁
    refine ⟨fun _ => exit_wp hf₁ fun st => ?_, fun h => absurd hr h⟩
    rw [hv₁]
    exact hx v st ha

theorem stateCheck_ipcpopen {Q : Unit → Ctx → Prop} (hf : Fit c.sess)
    (hst : c.sess.state = .IPCPOPEN)
    (hs : After ((c.view.onTimer .TIMEOUT Timer.rearm).goto .ONLINEPRE) (Q ())) :
    wp (stateCheck e) Q c := by
  rw [stateCheck, wp_bind, wp_get, hst]
  simp only [wp_bind]
  have hrest : ∀ r : Int, After c.view fun c₁ => wp (sessionTimerUpdate .TIMEOUT)
      (fun _ c₂ => wp (update fun s => { s with state := .ONLINEPRE }) Q c₂) c₁ := by
    intro _ c₁ hv₁ hf₁
    refine timerUpdate_wp hf₁ fun _ c₂ hv₂ hf₂ => goto_wp hf₂ ?_
    rw [hv₂, hv₁]
    exact hs
  rw [perform_wp hf (by decide)]
  simp only [sessoptIpregister, wp_bind, wp_get, wp_ite, wp_pure]
  exact ⟨fun _ => hrest 0 c rfl hf, fun _ => emit_wp hf (fun _ => hrest 0) (fun _ => hrest 0)⟩

theorem controlSessSetup_wp {Q : Unit → Ctx → Prop} (hf : Fit c.sess)
    (h : ∀ c', c'.view = c.view → Fit c'.sess →
      (c.sess.auth_type = AUTH_CHAP → .AUTHPRE ∈ c'.sess.opt) → Q () c') :
    wp controlSessSetup Q c := by
  simp only [controlSessSetup, wp_bind, wp_get, wp_ite, wp_pure]
  refine register_wp hf fun _ c₁ hv₁ hf₁ ha₁ _ => ⟨fun _ => ?_, fun hno => ?_⟩
  · refine register_wp hf₁ fun _ c₂ hv₂ hf₂ _ ho₂ => ?_
    refine register_wp hf₂ fun _ c₃ hv₃ hf₃ _ ho₃ => ?_
    refine register_wp hf₃ fun _ c₄ hv₄ hf₄ _ ho₄ => h c₄ ?_ hf₄ fun _ => ?_
    · rw [hv₄, hv₃, hv₂, hv₁]
    · exact ho₄ _ (.inr (ho₃ _ (.inr (ho₂ _ (.inl rfl)))))
  · exact h c₁ hv₁ hf₁ fun hc => absurd (ha₁ ▸ hc) hno

theorem sendChapChallenge_wp {Q : Int → Ctx → Prop} (hf : Fit c.sess)
    (hs : ∀ r i, After ((c.view.setIdent i).mark [.challenge i]) (Q r))
    (hx : ∀ r i, e.fail .chapChallenge = true → After (c.view.setIdent i) (Q r)) :
    wp (sendChapChallenge e) Q c := by
  simp only [sendChapChallenge, wp_bind, update_wp, wp_get, wp_ite]
  refine send_wp (hf.keep rfl rfl) (fun _ c₁ hv₁ hf₁ => ?_) (fun hk c₁ hv₁ hf₁ => ?_)
  · refine ⟨fun _ => ?_, fun h => absurd rfl h⟩
    refine hs _ (getChar e.rand 0) _ ?_ (hf₁.keep rfl rfl)
    exact congrArg (View.mark · [.challenge (getChar e.rand 0)]) hv₁
  · exact ⟨fun h => absurd h (by decide), fun _ => hx _ (getChar e.rand 0) hk c₁ hv₁ hf₁⟩

/-- LCP is open: a challenge is sent if CHAP was agreed on. -/
theorem stateCheck_lcpopen {Q : Unit → Ctx → Prop} (hf : Fit c.sess) (hst : c.sess.state = .LCPOPEN)
    (h : ∀ i ms, (ms = [.challenge i] ∨ ms = [] ∧ (c.sess.auth_type = AUTH_CHAP →
      e.fail .chapChallenge = true)) →
      After ((((c.view.setIdent i).mark ms).onTimer .TIMEOUT Timer.rearm).goto .AUTHPRE) (Q ())) :
    wp (stateCheck e) Q c := by
  rw [stateCheck, wp_bind, wp_get, hst]
  simp only [wp_bind]
  refine controlSessSetup_wp hf fun c₁ hv₁ hf₁ ho₁ => ?_
  have hrest : ∀ i ms, (ms = [.challenge i] ∨ ms = [] ∧ (c.sess.auth_type = AUTH_CHAP →
      e.fail .chapChallenge = true)) → ∀ c₂, c₂.view = (c.view.setIdent i).mark ms → Fit c₂.sess →
      wp (sessionTimerUpdate .TIMEOUT)
        (fun _ c₃ => wp (update fun s => { s with state := .AUTHPRE }) Q c₃) c₂ := by
    intro i ms hms c₂ hv₂ hf₂
    refine timerUpdate_wp hf₂ fun _ c₃ hv₃ hf₃ => goto_wp hf₃ ?_
    rw [hv₃, hv₂]
    exact h i ms hms
  simp only [sessionOptPerform, wp_bind, wp_get, wp_ite, wp_pure]
  constructor
  · intro _
    refine sendChapChallenge_wp hf₁ (fun _ i c₂ hv₂ hf₂ => ?_) (fun _ i hk c₂ hv₂ hf₂ => ?_)
    · exact hrest i _ (.inl rfl) c₂ (by rw [hv₂, hv₁]) hf₂
    · refine hrest i [] (.inr ⟨rfl, fun _ => hk⟩) c₂ ?_ hf₂
      rw [hv₂, hv₁]
      simp [View.mark, View.setIdent]
  · intro hno
    refine hrest c.sess.ident [] (.inr ⟨rfl, fun hc => absurd (ho₁ hc) hno⟩) c₁ ?_ hf₁
    rw [hv₁]
    simp [View.mark, View.setIdent, Ctx.view]

theorem SessState.rests_not_acts {st : SessState} (h : st.rests) (h' : st ≠ .LCPPREOPEN) :
    st.acts = false := by
  revert h h'
  cases st <;> decide

/-- What a protocol leaves when it answers with an error. -/
theorem Proto.refused {f : Frame} {r : Int} {v : View} {a : Nat} (hp : Proto e f c r v a)
    (hneg : r < 0) : Move (.frame f) e c v := by
  cases hp with
  | keep => exact .keep
  | preopen hst => exact .preopen hst
  | lcpopen _ _ _ h0 => omega
  | response => exact absurd hneg (by decide)
  | address hst ha => exact View.setIdent_self v ▸ .address hst ha
  | ipcpopen _ _ h0 => omega
  | close _ _ h0 => omega
  | offline => exact absurd hneg (by decide)
  | stuck => exact absurd hneg (by decide)

/-- What is left when its reply has been sent and the state acted on. -/
theorem Proto.answered {f : Frame} {r : Int} {v : View} {a : Nat} (hp : Proto e f c r v a)
    (hr : c.sess.state.rests) {c₁ : Ctx} (hv : c₁.view = v.setIdent (replyIdent r v.life.ident))
    (ha : c₁.sess.auth_type = a) (hf : Fit c₁.sess) :
    wp (stateCheck e) (fun _ => MoveAfter (.frame f) e c) c₁ := by
  have hst₁ : c₁.sess.state = v.life.state := congrArg (fun v : View => v.life.state) hv
  cases hp with
  | keep hident =>
    by_cases hpre : c.sess.state = .LCPPREOPEN
    · have hend : Trigger.mayEnd (.frame f) c.sess := by simp [Trigger.mayEnd, Frame.mayEnd, hpre]
      refine stateCheck_preopen hf (hst₁.trans hpre) (fun c₂ hv₂ hf₂ => ?_) (fun st c₂ hv₂ hf₂ => ?_)
      · rw [MoveAfter, hv₂, hv]
        exact ⟨.postopen (.inr hpre), hf₂⟩
      · rw [MoveAfter, hv₂, hv]
        exact ⟨.exit (i := 1) (g := id) hend (by simp) .refl, hf₂⟩
    · refine stateCheck_rest (hst₁ ▸ SessState.rests_not_acts hr hpre) ?_
      rw [MoveAfter, hv]
      refine ⟨.idle fun hauth => ?_, hf⟩
      have : ¬ r = CONFREQ := fun h => hident h hauth
      simp [replyIdent, this, Ctx.view]
  | preopen hst =>
    have hend : Trigger.mayEnd (.frame f) c.sess := by simp [Trigger.mayEnd, Frame.mayEnd, hst]
    refine stateCheck_preopen hf hst₁ (fun c₂ hv₂ hf₂ => ?_) (fun st c₂ hv₂ hf₂ => ?_)
    · rw [MoveAfter, hv₂, hv]
      exact ⟨.postopen (.inl hst), hf₂⟩
    · rw [MoveAfter, hv₂, hv]
      exact ⟨.exit (v := c.view) (i := 1) (g := id) hend (by simp) .refl, hf₂⟩
  | lcpopen _ hopen hne h0 hauth =>
    refine stateCheck_lcpopen hf hst₁ fun i ms hms c₂ hv₂ hf₂ => ?_
    rw [MoveAfter, hv₂, hv]
    refine ⟨.authpre rfl hopen (hms.imp_right fun h => ⟨h.1, fun h₁ h₂ hn => h.2 ?_⟩), hf₂⟩
    rw [ha]
    exact hauth h₁ h₂ hn
  | response hst hresp =>
    refine stateCheck_auth hf hst₁ (fun v ha c₂ hv₂ hf₂ => ?_) (fun v st ha c₂ hv₂ hf₂ => ?_)
    · rw [MoveAfter, hv₂]
      exact ⟨.authpost rfl hresp hst (by rw [hv] at ha; exact ha), hf₂⟩
    · rw [MoveAfter, hv₂]
      exact ⟨.exitAuth rfl hresp hst (by rw [hv] at ha; exact ha), hf₂⟩
  | address hst happ =>
    obtain ⟨y, hy, rfl⟩ := happ
    refine stateCheck_rest (by rw [hst₁, View.address]; simp [Ctx.view, hst]; decide) ?_
    rw [MoveAfter, hv]
    exact ⟨.address hst ⟨y, hy, rfl⟩, hf⟩
  | ipcpopen hst hne h0 happ =>
    refine stateCheck_ipcpopen hf hst₁ fun c₂ hv₂ hf₂ => ?_
    rw [MoveAfter, hv₂, hv, replyIdent, if_neg hne]
    have hm : Move (.frame f) e c _ := .onlinepre hst happ
    exact ⟨hm, hf₂⟩
  | close hend hne h0 _ happ hst =>
    refine stateCheck_close hf (by rw [hst₁]; exact hst) fun st c₂ hv₂ hf₂ => ?_
    rw [MoveAfter, hv₂, hv]
    exact ⟨.exit (g := id) hend (by simp) happ, hf₂⟩
  | offline hterm hst happ =>
    refine stateCheck_rest (by rw [hst₁]; rfl) ?_
    rw [MoveAfter, hv, replyIdent, if_neg (by decide)]
    exact ⟨.offlinepost (by simp [Trigger.stops, hterm]) hst happ, hf⟩
  | stuck hterm hst happ =>
    refine stateCheck_rest (by rw [hst₁]; rfl) ?_
    rw [MoveAfter, hv, replyIdent, if_neg (by decide)]
    exact ⟨.stuck rfl hterm hst happ, hf⟩

theorem frame_move {f : Frame} (hf : Fit c.sess) (hr : c.sess.state.rests) :
    wp (controlProcess e f) (fun _ => MoveAfter (.frame f) e c) c := by
  rw [controlProcess]
  split
  · exact ⟨.keep, hf⟩
  rename_i h6
  rw [wp_bind]
  refine pppProtoProcess_wp (fun r d c₁ hp hf₁ => ?_) hf hr (by omega)
  generalize hv : c₁.view = v, ha : c₁.sess.auth_type = a at hp
  refine controlTail_wp hf₁ ?_ ?_
  · intro hneg
    rw [MoveAfter, hv]
    exact ⟨hp.refused hneg, hf₁⟩
  · intro h0 c₂ hv₂ ha₂ hf₂
    rw [hv] at hv₂
    have hi : c₁.sess.ident = v.life.ident := congrArg (fun v : View => v.life.ident) hv
    rw [hi] at hv₂
    exact hp.answered hr hv₂ (ha₂.trans ha) hf₂

/-! ## Ending a session -/

theorem manageExit_move {c₁ : Ctx} (hv : c₁.view = c.view) (hf₁ : Fit c₁.sess)
    (hend : c.sess.state.plain → t.mayEnd c.sess) (hd : t ≠ .disconnect) (hstop : t.stops c.sess)
    (hframe : ∀ f, t ≠ .frame f) : wp (manageSessExit e) (fun _ => MoveAfter t e c) c₁ := by
  have hst : c₁.view.life.state = c.sess.state := congrArg (fun v : View => v.life.state) hv
  refine manageSessExit_wp hf₁ ?_ ?_ ?_ ?_ <;> rw [hst]
  · intro hp st c₂ hv₂ hf₂
    rw [MoveAfter, hv₂, hv]
    exact ⟨.leave (hend hp) hd, hf₂⟩
  · intro _ c₂ hv₂ hf₂
    rw [MoveAfter, hv₂, hv]
    exact ⟨.keep, hf₂⟩
  · intro hon v ha c₂ hv₂ hf₂
    rw [MoveAfter, hv₂]
    exact ⟨.offlinepost hstop hon (hv ▸ ha), hf₂⟩
  · intro hon v ha st c₂ hv₂ hf₂
    rw [MoveAfter, hv₂]
    exact ⟨.exitOffline hstop hframe hon (hv ▸ ha), hf₂⟩

theorem exit_move {c₁ : Ctx} (hv : c₁.view = c.view) (hf₁ : Fit c₁.sess) (hend : t.mayEnd c.sess)
    (hd : t ≠ .disconnect) : wp (_manageSessExit e) (fun _ => MoveAfter t e c) c₁ := by
  refine exit_wp hf₁ fun st c₂ hv₂ hf₂ => ?_
  rw [MoveAfter, hv₂, hv]
  exact ⟨.leave hend hd, hf₂⟩

/-- `sess_exit` and `sessopt_exit` leave the state as it is. -/
theorem exited_move {c₁ : Ctx} (st : SessState) (hv : c₁.view = c.view.leave st)
    (hf₁ : Fit c₁.sess) (hend : t.mayEnd c.sess) (hd : t ≠ .disconnect) : MoveAfter t e c c₁ := by
  rw [MoveAfter, hv]
  exact ⟨.leave hend hd, hf₁⟩

theorem padt_move (hf : Fit c.sess) :
    wp (processPADT e) (fun _ => MoveAfter .padt e c) c := by
  simp only [processPADT, sendPADT, wp_bind, wp_get, wp_pure]
  have hrest : ∀ r : Int, After c.view fun c₁ => wp (sessionTermcauseSetup
      RADIUS_TERMINATE_CAUSE_USER_REQUEST) (fun _ c₂ => wp (sessionOptUnregister .LCPTERMREQ)
      (fun _ c₃ => wp (sessionOptUnregister .DISTREM) (fun _ c₄ => wp (manageSessExit e)
      (fun _ => MoveAfter .padt e c) c₄) c₃) c₂) c₁ := by
    intro _ c₁ hv₁ hf₁
    refine termcause_wp hf₁ fun c₂ hv₂ hf₂ => unregister_wp hf₂ (by decide) fun _ c₃ hv₃ hf₃ => ?_
    refine unregister_wp hf₃ (by decide) fun _ c₄ hv₄ hf₄ => ?_
    exact manageExit_move (by rw [hv₄, hv₃, hv₂, hv₁]) hf₄ id (by simp) rfl (by simp)
  exact emit_wp hf (fun _ => hrest 0) (fun _ => hrest 0)

theorem echo_move (hf : Fit c.sess) :
    wp (sessEchoFunc e) (fun _ => MoveAfter (.timer .ECHO) e c) c := by
  simp only [sessEchoFunc, wp_bind, wp_get, wp_ite, wp_pure, update_wp]
  constructor
  · intro h3
    refine termcause_wp hf fun c₁ hv₁ hf₁ => manageExit_move hv₁ hf₁ ?_ (by simp) ?_ (by simp)
    · intro hp
      simp [Trigger.mayEnd, hp, h3]
    · simp [Trigger.stops, h3]
  · intro _
    have hfit : Fit { c.sess with echoLoseTimes := c.sess.echoLoseTimes + 1 } := hf.keep rfl rfl
    rw [perform_wp hfit (by decide)]
    simp only [sendLcpEchoReq, wp_bind, wp_get]
    have hrest : After c.view fun c₁ => wp (sessionTimerUpdate .ECHO)
        (fun _ => MoveAfter (.timer .ECHO) e c) c₁ := by
      intro c₁ hv₁ hf₁
      refine timerUpdate_wp hf₁ fun _ c₂ hv₂ hf₂ => ?_
      rw [MoveAfter, hv₂, hv₁]
      exact ⟨.keep, hf₂⟩
    exact send_wp hfit (fun _ => hrest) (fun _ => hrest)

theorem update_move (hf : Fit c.sess) :
    wp (sessAcctUpdateFunc e) (fun _ => MoveAfter (.timer .UPDATE) e c) c := by
  simp only [sessAcctUpdateFunc, wp_bind]
  refine timerUpdate_wp hf fun _ c₁ hv₁ hf₁ => updatesync_wp hf₁ fun _ m hm c₂ hv₂ hf₂ => ?_
  rw [hv₁] at hv₂ hm
  refine request_wp hf₂ (by decide) ⟨fun _ => rfl, fun _ => rfl, fun _ => rfl⟩ ?_ ?_
  · intro v ha c₃ hv₃ hf₃
    rw [MoveAfter, hv₃]
    exact ⟨.update rfl (.inl (hv₂ ▸ ha)) hm, hf₃⟩
  · intro r v _ ha c₃ hv₃ hf₃
    rw [MoveAfter, hv₃]
    exact ⟨.update rfl (.inr (hv₂ ▸ ha)) hm, hf₃⟩

theorem authorize_move {ip : UInt32} {err : Int} (hf : Fit c.sess) :
    wp (processAuthorize e ip err) (fun _ => MoveAfter (.authorize ip err) e c) c := by
  simp only [processAuthorize, wp_bind, wp_get, wp_ite, wp_pure]
  refine ⟨fun _ => ⟨.keep, hf⟩, fun hip => ?_⟩
  simp only [ne_eq, not_not] at hip
  have hend : Trigger.mayEnd (.authorize ip err) c.sess := by simp [Trigger.mayEnd, hip]
  refine ⟨fun _ => exit_move rfl hf hend (by simp), fun herr => ?_⟩
  simp only [ne_eq, not_not] at herr
  subst herr
  refine sessOnline_wp hf (fun v ha c₁ hv₁ hf₁ => ?_) (fun r hr c₁ hv₁ hf₁ => ?_)
    (fun r v hr ha c₁ hv₁ hf₁ => ?_)
  · refine ⟨fun h => absurd rfl h, fun _ => ?_⟩
    rw [MoveAfter, hv₁]
    exact ⟨.onlinepost rfl hip ha, hf₁⟩
  · refine ⟨fun _ => exit_wp hf₁ fun st c₂ hv₂ hf₂ => ?_, fun h => absurd hr h⟩
    rw [MoveAfter, hv₂, hv₁]
    exact ⟨.exit (v := c.view) (i := c.view.life.ident) (g := Timer.pause) hend (by simp) .refl, hf₂⟩
  · refine ⟨fun _ => exit_wp hf₁ fun st c₂ hv₂ hf₂ => ?_, fun h => absurd hr h⟩
    rw [MoveAfter, hv₂, hv₁]
    exact ⟨.exitOnline rfl hip ha, hf₂⟩

theorem register_move {err : Int} (hf : Fit c.sess) :
    wp (processRegister e err) (fun _ => MoveAfter (.register err) e c) c := by
  simp only [processRegister, sessExit, wp_bind, wp_ite, wp_pure, wp_modify]
  refine ⟨fun herr => ?_, fun _ => ⟨.keep, hf⟩⟩
  refine distrem_wp hf fun _ st c₁ hv₁ hf₁ => exited_move st ?_ hf₁ (by simp [Trigger.mayEnd, herr]) (by simp)
  rw [View.leave, ← hv₁]
  rfl

theorem unauthorize_move {ip : UInt32} (hf : Fit c.sess) :
    wp (processUnauthorize e ip) (fun _ => MoveAfter (.unauthorize ip) e c) c := by
  simp only [processUnauthorize, wp_bind, wp_get, wp_ite, wp_pure]
  refine ⟨fun _ => ⟨.keep, hf⟩, fun hip => ?_⟩
  simp only [ne_eq, not_not] at hip
  refine manageExit_move rfl hf ?_ (by simp) ?_ (by simp)
  · intro hp
    simp [Trigger.mayEnd, hip, hp]
  · simp [Trigger.stops, hip]

theorem standbyRegister_move {err : Int} (hf : Fit c.sess) :
    wp (standbyRegister err) (fun _ => MoveAfter (.standbyRegister err) e c) c := by
  simp only [standbyRegister, sessExit, wp_bind, wp_ite, wp_pure, wp_modify]
  refine ⟨fun herr => ?_, fun _ => ⟨.keep, hf⟩⟩
  exact exited_move c.sess.state rfl hf (by simp [Trigger.mayEnd, herr]) (by simp)

theorem standbyAuthorize_move {ip : UInt32} {err : Int} (hf : Fit c.sess) :
    wp (standbyAuthorize ip err) (fun _ => MoveAfter (.standbyAuthorize ip err) e c) c := by
  simp only [standbyAuthorize, sessExit, wp_bind, wp_get, wp_ite, wp_pure, wp_modify]
  refine ⟨fun _ => ⟨.keep, hf⟩, fun hip => ?_⟩
  simp only [ne_eq, not_not] at hip
  refine ⟨fun herr => ?_, fun herr => ?_⟩
  · exact exited_move c.sess.state rfl hf (by simp [Trigger.mayEnd, hip, herr]) (by simp)
  · simp only [ne_eq, not_not] at herr
    subst herr
    refine timerPause_wp hf fun _ c₁ hv₁ hf₁ => goto_wp hf₁ fun c₂ hv₂ hf₂ => ?_
    rw [MoveAfter, hv₂, hv₁]
    exact ⟨.standby rfl hip, hf₂⟩

theorem kick_move (hf : Fit c.sess) :
    wp (manageSessKick e) (fun _ => MoveAfter .kick e c) c := by
  simp only [manageSessKick, wp_bind, wp_get, wp_ite, wp_pure]
  refine ⟨fun _ => ⟨.keep, hf⟩, fun hon => ?_⟩
  simp only [ne_eq, not_not] at hon
  refine termcause_wp hf fun c₁ hv₁ hf₁ => manageExit_move hv₁ hf₁ ?_ (by simp) rfl (by simp)
  intro hp
  rw [hon] at hp
  exact absurd hp (by decide)

theorem disconnect_move (hf : Fit c.sess) :
    wp (coaSessionDisconnnect e) (fun _ => MoveAfter .disconnect e c) c := by
  simp only [coaSessionDisconnnect, wp_bind, update_wp]
  refine timerDestroy_wp (hf.keep rfl rfl) fun c₁ hv₁ hf₁ => timerDestroy_wp hf₁ fun c₂ hv₂ hf₂ => ?_
  refine timerDestroy_wp hf₂ fun c₃ hv₃ hf₃ => offlinesync_wp hf₃ fun _ c₄ hv₄ hf₄ => ?_
  refine exit_wp hf₄ fun st c₅ hv₅ hf₅ => ?_
  rw [MoveAfter, hv₅, hv₄, hv₃, hv₂, hv₁]
  exact ⟨.disconnect rfl, hf₅⟩

/-- Clearing ends a session whatever it does; one that is online sends its Accounting-Stop. -/
theorem clear_wp {Q : Int → Ctx → Prop} (hf : Fit c.sess)
    (hon : ∀ v st, c.sess.state = .ONLINE →
      AskedOnce e .stop c.view v ∨ AskFailed e .stop c.view v → After (v.leave st) (Q PPPOEERR_SUCCESS))
    (hoff : ∀ st, c.sess.state ≠ .ONLINE → After (c.view.leave st) (Q PPPOEERR_SUCCESS)) :
    wp (clearSess e) Q c := by
  have hrest : ∀ v, (∀ st, After (v.leave st) (Q PPPOEERR_SUCCESS)) → After v fun c₁ =>
      wp (sessionOptPerform .LCPTERMREQ (sendLcpTermReq e)) (fun _ c₂ =>
        wp (sessionOptPerform .DISTREM (discoverSessionExit e)) (fun _ c₃ =>
          Q PPPOEERR_SUCCESS { c₃ with exited := true }) c₂) c₁ := by
    intro v hQ c₁ hv₁ hf₁
    refine lcpTermReq_wp hf₁ fun _ st _ c₂ hv₂ hf₂ => distrem_wp hf₂ fun _ st₃ c₃ hv₃ hf₃ => ?_
    refine hQ st₃ _ ?_ hf₃
    rw [← hv₁, View.leave, ← show c₃.view = c₁.view.goto st₃ by rw [hv₃, hv₂]; rfl]
    rfl
  simp only [clearSess, sessExit, wp_bind, wp_get, wp_ite, wp_pure, wp_modify]
  constructor
  · intro hst
    refine termcause_wp hf fun c₁ hv₁ hf₁ => acctStopV2_wp hf₁ ?_ ?_ <;> rw [hv₁]
    · intro v ha
      exact hrest v fun st => hon v st hst (.inl ha)
    · intro _ v _ ha
      exact hrest v fun st => hon v st hst (.inr ha)
  · intro hst
    exact hrest c.view (fun st => hoff st hst) c rfl hf

theorem clear_move (hf : Fit c.sess) : wp (clearSess e) (fun _ => MoveAfter .clear e c) c := by
  refine clear_wp hf (fun v st hst ha c₁ hv₁ hf₁ => ?_) fun st hst c₁ hv₁ hf₁ => ?_
  · rw [MoveAfter, hv₁]
    exact ⟨.clear rfl hst ha, hf₁⟩
  · rw [MoveAfter, hv₁]
    exact ⟨.leave (decide_eq_true hst) (by simp), hf₁⟩

theorem syncSess_wp {Q : Int → Ctx → Prop} (hf : Fit c.sess)
    (hon : ∀ r m, c.sess.state = .ONLINE → Tells m c.sess.toLife →
      After (c.view.post e (.SESSONLINE m)) (Q r))
    (hoff : c.sess.state ≠ .ONLINE → Q PPPOEERR_SUCCESS c) : wp (syncSess e) Q c := by
  simp only [syncSess, wp_bind, wp_get, wp_ite, wp_pure]
  exact ⟨fun hst => onlinesync_wp hf fun r m hm => hon r m hst hm, hoff⟩

theorem sync_move (hf : Fit c.sess) : wp (syncSess e) (fun _ => MoveAfter .sync e c) c := by
  refine syncSess_wp hf (fun _ m hst hm c₁ hv₁ hf₁ => ?_) fun _ => ⟨.keep, hf⟩
  rw [MoveAfter, hv₁]
  exact ⟨.sync rfl hst hm, hf₁⟩

theorem wakeup_move (hf : Fit c.sess) : wp wakeupSess (fun _ => MoveAfter .wakeup e c) c := by
  simp only [wakeupSess, wp_bind, wp_get, wp_ite, wp_pure]
  refine ⟨fun _ => ⟨.keep, hf⟩, fun _ => timerUpdate_wp hf fun _ c₁ hv₁ hf₁ => ?_⟩
  refine timerUpdate_wp hf₁ fun _ c₂ hv₂ hf₂ => ?_
  rw [MoveAfter, hv₂, hv₁]
  exact ⟨.keep, hf₂⟩

theorem updateSync_move {m : UpdateSync} (hf : Fit c.sess) :
    wp (manageSessUpdateSync e m) (fun _ => MoveAfter (.updateSync m) e c) c := by
  simp only [manageSessUpdateSync, wp_bind, wp_get, wp_ite, wp_pure, update_wp]
  refine ⟨fun hm => sessoptExit_wp hf fun _ c₁ hv₁ hf₁ => ?_, fun _ => ⟨?_, hf.keep rfl rfl⟩⟩
  · exact exited_move c.sess.state hv₁ hf₁ (by simp [Trigger.mayEnd, hm]) (by simp)
  · exact .keep

/-! ## Identifiers -/

theorem sessCheck_wp {Q : Int → Ctx → Prop} (hf : Fit c.sess)
    (hs : c.view.owns e.self → Q PPPOEERR_SUCCESS c)
    (hx : ¬ c.view.owns e.self →
      After { c.view with life := { c.view.life with priv_data := none } } (Q PPPOEERR_EINVAL)) :
    wp (_radiusSessCheck e) Q c := by
  rw [_radiusSessCheck, wp_bind, wp_get]
  split
  · rename_i hp
    refine hx ?_ c ?_ hf
    · rintro ⟨p, h, -⟩
      cases hp.symm.trans h
    · simp [Ctx.view, ← hp]
  · rename_i p hp
    simp only [wp_bind, wp_ite, update_wp, wp_pure]
    constructor
    · intro hno
      refine hx ?_ _ rfl (hf.keep rfl rfl)
      rintro ⟨q, h, hu, hs⟩
      cases hp.symm.trans h
      exact hno.elim (absurd hu) (absurd hs)
    · intro hyes
      exact hs ⟨p, hp, by by_contra h; exact hyes (.inl h), by by_contra h; exact hyes (.inr h)⟩

theorem clean_none {v : View} (h : v.life.priv_data = none) : v.clean = { v with fault := true } := by
  simp only [View.clean, h]

theorem clean_some {v : View} {p : RadPtr} (h : v.life.priv_data = some p) :
    v.clean = { v with rad := v.rad.free p, life := { v.life with priv_data := none } } := by
  simp only [View.clean, h]

theorem clean_life (v : View) : ∃ q, v.clean.life = { v.life with priv_data := q } := by
  cases hp : v.life.priv_data with
  | none => exact ⟨v.life.priv_data, by rw [clean_none hp]⟩
  | some p => exact ⟨none, by rw [clean_some hp]⟩

theorem clean_exited (v : View) : v.clean.exited = v.exited := by
  cases hp : v.life.priv_data with
  | none => rw [clean_none hp]
  | some p => rw [clean_some hp]

theorem clean_state (v : View) : v.clean.life.state = v.life.state := by
  obtain ⟨q, hq⟩ := clean_life v
  rw [hq]

theorem settle_life (v : View) :
    ∃ q, v.settle.life = { v.life with priv_data := q, retrans := v.life.retrans.pause } := by
  obtain ⟨q, hq⟩ := clean_life v
  have hs : v.settle.life = { v.clean.life with retrans := v.clean.life.retrans.pause } := rfl
  refine ⟨q, ?_⟩
  rw [hs, hq]

theorem settle_tells {m : OnlineSync} {v : View} (h : Tells m v.settle.life) : Tells m v.life := by
  obtain ⟨q, hq⟩ := settle_life v
  rw [hq] at h
  exact ⟨h.sid, h.mac, h.ipaddr⟩

theorem authFail_move {c₁ : Ctx} (hv : ∃ g, c₁.view = c.view.clean.onTimer .RETRANS g)
    (hf₁ : Fit c₁.sess) (ht : t.settles) (hst : c.sess.state = .AUTHPOST) :
    wp (_radiusSessAuthFail e) (fun _ => MoveAfter t e c) c₁ := by
  obtain ⟨g, hv⟩ := hv
  have hrest : After c₁.view fun c₂ => wp (sessionTimerDestroy .RETRANS)
      (fun _ c₃ => wp (_manageSessExit e) (fun _ => MoveAfter t e c) c₃) c₂ := by
    intro c₂ hv₂ hf₂
    refine timerDestroy_wp hf₂ fun c₃ hv₃ hf₃ => exit_wp hf₃ fun st c₄ hv₄ hf₄ => ?_
    rw [MoveAfter, hv₄, hv₃, hv₂, hv]
    exact ⟨.exitOpened (i := c.view.clean.life.ident) ht hst, hf₄⟩
  simp only [_radiusSessAuthFail, sessionOptPerform, wp_bind, wp_get, wp_ite, wp_pure, sendChapFail,
    sendChapResult]
  exact ⟨fun _ => send_wp hf₁ (fun _ => hrest) (fun _ => hrest), fun _ => hrest c₁ rfl hf₁⟩

theorem authSuccessSend_wp {Q : Int → Ctx → Prop} (hf : Fit c.sess)
    (hs : After (c.view.setIdent 1) (Q PPPOEERR_SUCCESS))
    (hx : ∀ r i, r ≠ PPPOEERR_SUCCESS → After (c.view.setIdent i) (Q r)) :
    wp (authSuccessSend e) Q c := by
  simp only [authSuccessSend, sendChapSuccess, sendChapResult, wp_bind, wp_ite, wp_pure]
  rw [sessionOptPerform, wp_bind, wp_get]
  split
  · rw [wp_bind, wp_get]
    refine send_wp hf (fun _ c₁ hv₁ hf₁ => ?_) (fun _ c₁ hv₁ hf₁ => ?_)
    · refine ⟨fun h => absurd rfl h, fun _ => ?_⟩
      rw [perform_wp hf₁ (by decide)]
      simp only [sendIpcpConfReq, wp_bind, update_wp, wp_get]
      have hv : Ctx.view { c₁ with sess := { c₁.sess with ident := 1 } } = c.view.setIdent 1 := by
        rw [← hv₁]
        rfl
      refine send_wp (hf₁.keep rfl rfl) (fun _ => ?_) (fun _ => ?_) <;> rw [hv]
      · exact hs
      · exact hx _ 1 (by decide)
    · refine ⟨fun h => hx _ c.sess.ident h c₁ hv₁ hf₁, fun h => absurd (by decide) h⟩
  · have hne : PPPOEERR_ENOEXIST ≠ PPPOEERR_SUCCESS := by decide
    exact ⟨fun _ => hx _ c.sess.ident hne c rfl hf, fun h => absurd hne h⟩

theorem authSuccess_move {c₁ : Ctx} {p : RadPtr} {d : Datagram} (hv : c₁.view = c.view.clean)
    (hf₁ : Fit c₁.sess) (hst : c.sess.state = .AUTHPOST) :
    wp (_radiusSessAuthSuccess e) (fun _ => MoveAfter (.reply p d) e c) c₁ := by
  simp only [_radiusSessAuthSuccess, wp_bind, wp_ite]
  refine authSuccessSend_wp hf₁ (fun c₂ hv₂ hf₂ => ?_) (fun r i hr c₂ hv₂ hf₂ => ?_)
  · refine ⟨fun h => absurd rfl h, fun _ => timerPause_wp hf₂ fun _ c₃ hv₃ hf₃ => ?_⟩
    refine timerUpdate_wp hf₃ fun _ c₄ hv₄ hf₄ => goto_wp hf₄ fun c₅ hv₅ hf₅ => ?_
    rw [MoveAfter, hv₅, hv₄, hv₃, hv₂, hv]
    exact ⟨.opened rfl hst, hf₅⟩
  · refine ⟨fun _ => timerDestroy_wp hf₂ fun c₃ hv₃ hf₃ => ?_, fun h => absurd hr h⟩
    refine exit_wp hf₃ fun st c₄ hv₄ hf₄ => ?_
    rw [MoveAfter, hv₄, hv₃, hv₂, hv]
    exact ⟨.exitOpened rfl hst, hf₄⟩

/-- What follows in a session whose accounting request was answered or given up, by its state. -/
theorem online_move {c₁ : Ctx} {α : Type} {r : α} (hv : c₁.view = c.view.settle) (hf₁ : Fit c₁.sess)
    (ht : t.settles) (hst : c.sess.state = .ONLINEPOST) :
    wp (do
      let _ ← sessionOptPerform .ONLINESYNC (sessoptOnlinesync e)
      update fun s => { s with state := .ONLINE }
      return r) (fun _ => MoveAfter t e c) c₁ := by
  simp only [wp_bind, wp_pure]
  refine onlinesync_wp hf₁ fun _ m hm c₂ hv₂ hf₂ => goto_wp hf₂ fun c₃ hv₃ hf₃ => ?_
  rw [MoveAfter, hv₃, hv₂, hv]
  exact ⟨.online ht hst (settle_tells (hv ▸ hm)), hf₃⟩

theorem stopped_move {c₁ : Ctx} {α : Type} {r : α} (hv : c₁.view = c.view.settle) (hf₁ : Fit c₁.sess)
    (ht : t.settles) (hst : c.sess.state = .OFFLINEPOST) :
    wp (do
      update fun s => { s with state := .OFFLINE }
      _manageSessExit e
      return r) (fun _ => MoveAfter t e c) c₁ := by
  simp only [wp_bind, wp_pure]
  refine goto_wp hf₁ fun c₂ hv₂ hf₂ => exit_wp hf₂ fun st c₃ hv₃ hf₃ => ?_
  rw [MoveAfter, hv₃, hv₂, hv]
  exact ⟨.exitStopped ht hst, hf₃⟩

theorem giveUp_move (hf : Fit c.sess) :
    wp (radiusSessGiveUp e) (fun _ => MoveAfter (.timer .RETRANS) e c) c := by
  simp only [radiusSessGiveUp, wp_bind, wp_get]
  refine clean_wp hf fun c₁ hv₁ hf₁ => timerPause_wp hf₁ fun _ c₂ hv₂ hf₂ => ?_
  have hv : c₂.view = c.view.settle := by rw [hv₂, hv₁]; rfl
  have hst : c₂.sess.state = c.sess.state :=
    (congrArg (fun v : View => v.life.state) hv).trans (clean_state c.view)
  split
  · rename_i h
    exact authFail_move ⟨_, hv⟩ hf₂ rfl (hst ▸ h)
  · rename_i h
    exact online_move hv hf₂ rfl (hst ▸ h)
  · rename_i h
    exact stopped_move hv hf₂ rfl (hst ▸ h)
  · rename_i h
    refine ⟨hv ▸ .settled rfl ?_, hf₂⟩
    rw [← hst, h]
    decide
  · rename_i h₁ h₂ h₃ h₄
    refine ⟨hv ▸ .settled rfl ?_, hf₂⟩
    rw [← hst]
    exact ⟨h₁, h₂, h₃⟩

theorem retransport_wp {p : RadPtr} {Q : Int → Ctx → Prop} (hf : Fit c.sess)
    (h : ∀ r pack, After (c.view.ask c.rad p e.self (retransportKind c.sess.state) pack) (Q r)) :
    wp (_radiusSessRetransport e p) Q c := by
  have hreq : ∀ b, wp (_radiusSessReq e (retransportKind c.sess.state) p b) Q c := by
    intro b
    simp only [_radiusSessReq, _radiusSessSetup, wp_bind, wp_get, wp_modify]
    exact emit_wp (hf.keep rfl rfl) (fun _ => h _ _) (fun _ => h _ _)
  rw [_radiusSessRetransport, wp_bind, wp_get]
  dsimp only
  split <;> exact hreq _

theorem retrans_move (hf : Fit c.sess) :
    wp (radiusSessRetransportFunc e) (fun _ => MoveAfter (.timer .RETRANS) e c) c := by
  rw [radiusSessRetransportFunc, wp_bind]
  refine sessCheck_wp hf (fun ho => ?_) (fun ho c₁ hv₁ hf₁ => ?_)
  · rw [if_neg (fun h => absurd rfl h)]
    simp only [wp_bind, wp_get, wp_ite]
    refine ⟨fun _ => giveUp_move hf, fun _ => ?_⟩
    simp only [update_wp]
    refine timerUpdate_wp (hf.keep rfl rfl) fun _ c₂ hv₂ hf₂ => ?_
    obtain ⟨p, hp, hu⟩ := ho
    rw [show c.sess.priv_data = some p from hp]
    refine retransport_wp hf₂ fun _ pack c₃ hv₃ hf₃ => ?_
    have hrad : c₂.rad = c.rad := congrArg View.rad hv₂
    have hst : c₂.sess.state = c.sess.state := congrArg (fun v : View => v.life.state) hv₂
    rw [MoveAfter, hv₃, hv₂, hrad, hst]
    exact ⟨.retransmit rfl hp ⟨p, hp, hu⟩, hf₃⟩
  · rw [if_pos (by decide)]
    simp only [wp_bind, wp_pure]
    refine timerPause_wp hf₁ fun _ c₂ hv₂ hf₂ => ?_
    rw [MoveAfter, hv₂, hv₁]
    exact ⟨.lost rfl ho, hf₂⟩

theorem attrDiffers_wp {d : Bytes} {type : Nat} {x : Bytes} {Q : Bool → Ctx → Prop} (hf : Fit c.sess)
    (h : ∀ b, Q b c) (hx : ∀ c', c'.view.fault = true → Fit c'.sess → Q true c') :
    wp (attrDiffers d type x) Q c := by
  unfold attrDiffers
  generalize radiusGetattr _ _ _ = g
  cases g with
  | found l v => exact wp_pure.mpr (h _)
  | missing => exact wp_pure.mpr (h _)
  | loops => exact hx _ rfl hf

theorem acctResponse_move {p : RadPtr} {d : Datagram} (hf : Fit c.sess)
    (hne : c.sess.state ≠ .AUTHPOST) :
    wp (processAcctResponse e d.bytes) (fun _ => MoveAfter (.reply p d) e c) c := by
  simp only [processAcctResponse, wp_bind, wp_get, wp_ite, wp_pure]
  refine attrDiffers_wp hf (fun b => ?_) (fun c' hv' hf' => ?_)
  · refine ⟨fun _ => ⟨.keep, hf⟩, fun _ => attrDiffers_wp hf (fun b => ?_) (fun c' hv' hf' => ?_)⟩
    · refine ⟨fun _ => ⟨.keep, hf⟩, fun _ => clean_wp hf fun c₁ hv₁ hf₁ => ?_⟩
      refine timerPause_wp hf₁ fun _ c₂ hv₂ hf₂ => ?_
      have hv : c₂.view = c.view.settle := by rw [hv₂, hv₁]; rfl
      have hst : c₂.sess.state = c.sess.state :=
        (congrArg (fun v : View => v.life.state) hv).trans (clean_state c.view)
      split
      · rename_i h
        exact online_move hv hf₂ rfl (hst ▸ h)
      · rename_i h
        exact stopped_move hv hf₂ rfl (hst ▸ h)
      · rename_i h₁ h₂
        rw [hst] at h₁ h₂
        exact ⟨hv ▸ .settled rfl ⟨hne, h₁, h₂⟩, hf₂⟩
    · exact ⟨fun _ => ⟨.faulty hv', hf'⟩, fun h => absurd rfl h⟩
  · exact ⟨fun _ => ⟨.faulty hv', hf'⟩, fun h => absurd rfl h⟩

theorem reply_move {p : RadPtr} {d : Datagram} (hf : Fit c.sess) :
    wp (radiusSockProcess e p d) (fun _ => MoveAfter (.reply p d) e c) c := by
  have hkeep : ∀ r : Int, wp (pure r) (fun _ => MoveAfter (.reply p d) e c) c := fun _ => ⟨.keep, hf⟩
  rw [radiusSockProcess, wp_bind, wp_get]
  dsimp only
  split
  · rename_i hcode
    split
    · rename_i hst
      exact ⟨.misfit rfl (by simp [ReplyMisfit, hcode, hst]), hf⟩
    rename_i hst
    simp only [ne_eq, not_not] at hst
    split
    · exact hkeep _
    split
    · exact hkeep _
    split
    · exact hkeep _
    simp only [wp_bind, wp_ite, wp_pure]
    refine clean_wp hf fun c₁ hv₁ hf₁ => ⟨fun _ => ?_, fun _ => authSuccess_move hv₁ hf₁ hst⟩
    exact authFail_move ⟨id, by rw [hv₁, View.onTimer_id]⟩ hf₁ rfl hst
  split
  · rename_i hcode
    split
    · rename_i hst
      exact ⟨.misfit rfl (by simp [ReplyMisfit, hcode, hst]), hf⟩
    rename_i hst
    split
    · exact hkeep _
    split
    · exact hkeep _
    split
    · exact hkeep _
    refine acctResponse_move hf ?_
    rintro h
    exact hst (by rw [h]; decide)
  · exact hkeep _

/-! ## The inversion -/

/-- Whatever happens to a session is one of the transitions, and the session stays fit. -/
theorem handle_move (hf : Fit c.sess) (hr : c.sess.state.rests) :
    MoveAfter t e c (handle e t c).2 := by
  cases t with
  | frame f => exact frame_move hf hr
  | padt => exact padt_move hf
  | padsRoom =>
    exact sessoptExit_wp (Q := fun _ => MoveAfter .padsRoom e c) hf fun _ c₁ hv₁ hf₁ =>
      exited_move c.sess.state hv₁ hf₁ rfl (by simp)
  | timer t =>
    cases t with
    | TIMEOUT => exact exit_move rfl hf rfl (by simp)
    | ECHO => exact echo_move hf
    | RETRANS => exact retrans_move hf
    | UPDATE => exact update_move hf
  | register err => exact register_move hf
  | authorize ip err => exact authorize_move hf
  | unauthorize ip => exact unauthorize_move hf
  | standbyRegister err => exact standbyRegister_move hf
  | standbyAuthorize ip err => exact standbyAuthorize_move hf
  | reply p d => exact reply_move hf
  | disconnect => exact disconnect_move hf
  | kick => exact kick_move hf
  | clear => exact clear_move hf
  | clearV2 => exact exited_move c.sess.state rfl hf rfl (by simp)
  | sync => exact sync_move hf
  | wakeup => exact wakeup_move hf
  | offlineSync =>
    exact sessoptExit_wp (Q := fun _ => MoveAfter .offlineSync e c) hf fun _ c₁ hv₁ hf₁ =>
      exited_move c.sess.state hv₁ hf₁ rfl (by simp)
  | updateSync m => exact updateSync_move hf

/-- A session that is not in the tables only gets replies, and none of them suits it. -/
theorem reply_dead {p : RadPtr} {d : Datagram} (hst : c.sess.state = .NONE ∨ c.sess.state = .DEAD) :
    (handle e (.reply p d) c).2 = c ∨ (handle e (.reply p d) c).2 = { c with rad := c.rad.free p } := by
  have hne : c.sess.state ≠ .AUTHPOST ∧ c.sess.state ≠ .ONLINEPOST ∧ c.sess.state ≠ .ONLINE ∧
      c.sess.state ≠ .OFFLINEPOST := by
    rcases hst with h | h <;> rw [h] <;> decide
  have hrun : wp (radiusSockProcess e p d)
      (fun _ c' => c' = c ∨ c' = { c with rad := c.rad.free p }) c := by
    rw [radiusSockProcess, wp_bind, wp_get]
    dsimp only
    rw [if_pos hne.1, if_pos hne.2]
    split
    · exact .inr rfl
    split
    · exact .inr rfl
    · exact .inl rfl
  exact hrun

/-! ## What no transition changes -/

variable {v : View}

theorem Move.ids (h : Move t e c v) (hv : v.fault = false) :
    v.life.sid = c.sess.sid ∧ v.life.mac = c.sess.mac := by
  have hclean : c.view.clean.life.sid = c.sess.sid ∧ c.view.clean.life.mac = c.sess.mac := by
    obtain ⟨q, hq⟩ := clean_life c.view
    rw [hq]
    exact ⟨rfl, rfl⟩
  cases h with
  | idle | preopen | postopen | authpre | standby | sync | retransmit | lost | misfit | disconnect =>
    exact ⟨rfl, rfl⟩
  | opened | exitOpened | online | exitStopped | settled => exact hclean
  | authpost _ _ _ ha | onlinepost _ _ ha | offlinepost _ _ ha => exact ⟨ha.frame.sid, ha.frame.mac⟩
  | exitAuth _ _ _ ha | exitOnline _ _ ha | stuck _ _ _ ha | exitOffline _ _ _ ha =>
    exact ⟨ha.frame.sid, ha.frame.mac⟩
  | update _ ha => rcases ha with ha | ha <;> exact ⟨ha.frame.sid, ha.frame.mac⟩
  | clear _ _ ha => rcases ha with ha | ha <;> exact ⟨ha.frame.sid, ha.frame.mac⟩
  | address _ ha | onlinepre _ ha | exit _ _ ha =>
    obtain ⟨y, -, rfl⟩ := ha
    exact ⟨rfl, rfl⟩
  | faulty h => rw [h] at hv; cases hv

theorem Move.refcnt (h : Move t e c v) (hv : v.fault = false) : v.life.refcnt = c.sess.refcnt := by
  have hclean : c.view.clean.life.refcnt = c.sess.refcnt := by
    obtain ⟨q, hq⟩ := clean_life c.view
    rw [hq]
    rfl
  cases h with
  | idle | preopen | postopen | authpre | standby | sync | retransmit | lost | misfit | disconnect =>
    rfl
  | opened | exitOpened | online | exitStopped | settled => exact hclean
  | authpost _ _ _ ha | onlinepost _ _ ha | offlinepost _ _ ha => exact ha.refcnt
  | exitAuth _ _ _ ha | exitOnline _ _ ha | stuck _ _ _ ha | exitOffline _ _ _ ha =>
    exact ha.refcnt
  | update _ ha => rcases ha with ha | ha <;> exact ha.refcnt
  | clear _ _ ha => rcases ha with ha | ha <;> exact ha.refcnt
  | address _ ha | onlinepre _ ha | exit _ _ ha =>
    obtain ⟨y, -, rfl⟩ := ha
    rfl
  | faulty h => rw [h] at hv; cases hv

theorem Move.options (h : Move t e c v) (hv : v.fault = false) : v.options = c.options.fixed := by
  have hclean : c.view.clean.options = c.options.fixed := by
    rw [View.clean]
    split <;> rfl
  cases h with
  | idle | preopen | postopen | authpre | standby | sync | retransmit | lost | misfit | disconnect =>
    rfl
  | opened | exitOpened | online | exitStopped | settled => exact hclean
  | authpost _ _ _ ha | onlinepost _ _ ha | offlinepost _ _ ha => exact ha.frame.options
  | exitAuth _ _ _ ha | exitOnline _ _ ha | stuck _ _ _ ha | exitOffline _ _ _ ha =>
    exact ha.frame.options
  | update _ ha => rcases ha with ha | ha <;> exact ha.frame.options
  | clear _ _ ha => rcases ha with ha | ha <;> exact ha.frame.options
  | address _ ha | onlinepre _ ha | exit _ _ ha =>
    obtain ⟨y, -, rfl⟩ := ha
    rfl
  | faulty h => rw [h] at hv; cases hv

/-- A session that is not ended comes to rest. -/
theorem Move.rests (h : Move t e c v) (hr : c.sess.state.rests) (hv : v.fault = false)
    (hx : v.exited = false) : v.life.state.rests := by
  cases h with
  | idle | sync | retransmit | lost | misfit => exact hr
  | preopen | postopen | authpre | authpost | opened | onlinepre | onlinepost | online | standby
  | offlinepost | stuck => rfl
  | exitAuth | exitOpened | exitOnline | exitOffline | exitStopped | exit | disconnect | clear =>
    cases hx
  | address _ ha =>
    obtain ⟨y, -, rfl⟩ := ha
    exact hr
  | update _ ha =>
    rcases ha with ha | ha
    · rw [ha.frame.state]
      exact hr
    · rw [ha.frame.state]
      exact hr
  | settled =>
    rw [show c.view.settle.life.state = c.sess.state from clean_state c.view]
    exact hr
  | faulty h => rw [h] at hv; cases hv

/-- Telling the peer and waking up end no session. -/
theorem Move.stays (h : Move t e c v) (ht : t = .sync ∨ t = .wakeup) (hv : v.fault = false) :
    v.exited = c.exited := by
  have hno : t.mayEnd c.sess = false ∧ t.stops c.sess = false ∧ t.settles = false ∧
      t ≠ .disconnect ∧ t ≠ .clear ∧ (∀ f, t ≠ .frame f) ∧ (∀ ip err, t ≠ .authorize ip err) ∧
      (∀ k, t ≠ .timer k) ∧ (∀ p d, t ≠ .reply p d) := by
    rcases ht with rfl | rfl <;> simp [Trigger.mayEnd, Trigger.stops, Trigger.settles]
  obtain ⟨h₁, h₂, h₃, h₄, h₅, h₆, h₇, h₈, h₉⟩ := hno
  cases h with
  | idle | preopen | postopen | standby | sync | misfit => rfl
  | authpre h | authpost h | exitAuth h | stuck h => exact absurd h (h₆ _)
  | opened h => exact absurd h (h₉ _ _)
  | exitOpened h | online h | exitStopped h | settled h => rw [h₃] at h; cases h
  | onlinepost h | exitOnline h => exact absurd h (h₇ _ _)
  | update h | retransmit h | lost h => exact absurd h (h₈ _)
  | offlinepost h | exitOffline h => rw [h₂] at h; cases h
  | address _ ha | onlinepre _ ha =>
    obtain ⟨y, -, rfl⟩ := ha
    rfl
  | exit h => rw [h₁] at h; cases h
  | disconnect h => exact absurd h h₄
  | clear h => exact absurd h h₅
  | faulty h => rw [h] at hv; cases hv

end

end Pppoe
end DaemonGroup
