import DaemonGroup.Eag.PortalTimers

/-!
# DaemonGroup.Eag.PortalKeeps

What the handlers of the portal keep, said once for every property that does not look at the details
(`Stable`): it is kept by all handlers but those that let a user in, that acknowledge something with success, or
that terminate a connection whatever its state is. What a login does is said by `wlp_startLogin`.

The tables of the portal are kept by all of them (`wf_step`), so that in every run its searches for an address end,
and miss nothing (`lookups_answer`).
-/

namespace DaemonGroup
namespace Eag

open Lib Bytes

/-- The acknowledgement does not tell the portal server that a challenge, a login or a logout has been
successful. -/
def Ack.Mute (ack : Ack) : Prop :=
  ack.err_code = 0 → ack.type ≠ ACK_CHALLENGE ∧ ack.type ≠ ACK_AUTH ∧ ack.type ≠ ACK_LOGOUT

theorem Ack.mute_of_ne {ack : Ack} (h : ack.err_code ≠ 0) : ack.Mute := fun h0 => absurd h0 h

namespace Portal

/-- Nothing differs but the parameters, the RADIUS requests, and what an account has beside the state of its
user. -/
structure Alike (P P' : Portal) : Prop where
  table : P'.table = P.table
  db : P'.db = P.db
  authed_user_num : P'.authed_user_num = P.authed_user_num
  acct : P'.acct = P.acct
  sent : P'.sent = P.sent
  authed : ∀ a, (P'.account a).authed = (P.account a).authed

/-- The names of the users are the same, too. -/
structure Same (P P' : Portal) : Prop extends Alike P P' where
  username : ∀ a, (P'.account a).username = (P.account a).username

/-- The property is kept by what is done on the way to a connection, and by changes of sessions that leave their
address and their packet. -/
structure Stable (env : PortalEnv) (ans : PortalAnswers) (I : Portal → Prop) : Prop where
  wf : ∀ {P}, I P → P.Wf env.host
  quiet : ∀ {P P'}, I P → Quiet env.host ans P P' → I P'
  same : ∀ {P P'}, I P → Same P P' → I P'
  set : ∀ {P n s t}, I P → P.table.sess n = some s → (t.user_addr, t.rcvpkt) = (s.user_addr, s.rcvpkt) →
    I { P with table := P.table.setSess n t }
  new : ∀ {P u}, I P → (∀ m s, P.table.sess m = some s → ¬ u.Meets s.user_addr) →
    I { P with table := P.table.portalSessNew u }
  send : ∀ {P ack}, I P → ack.Mute → I { P with sent := ack :: P.sent }

section
variable {env : PortalEnv} {ans : PortalAnswers} {I : Portal → Prop} {P P' : Portal} {a n : Nat}
  {s t : PortalSess} {u : UserAddr} {ack : Ack} {pkt : Packet}

theorem Stable.fewer (h : Stable env ans I) {T : SessTable} (hI : I P) (hT : T.Sound) (hsub : T.Sub P.table) :
    I { P with table := T } := h.quiet hI (Quiet.refl.fewer hT hsub)

theorem Stable.aside (h : Stable env ans I) {radius : Radius} {conf : PortalConf} {prev_reqid : UInt16}
    {started : Bool} {logins : Nat} {log : List Authed} (hI : I P) :
    I { P with
      radius := radius, conf := conf, prev_reqid := prev_reqid, started := started, logins := logins, log := log } :=
  h.same hI ⟨⟨rfl, rfl, rfl, rfl, rfl, fun _ => rfl⟩, fun _ => rfl⟩

/-! ## The parts of a handler -/

theorem Stable.free (h : Stable env ans I) : Keeps I (portalSessFree n) := fun _ hI =>
  (wlp_portalSessFree (h.wf hI).table).mpr fun _ _ =>
    h.fewer hI (h.wf hI).table.without SessTable.without_sub

theorem Stable.sendMute (h : Stable env ans I) (hm : ack.Mute) : Keeps I (Portal.send ack) := fun _ hI =>
  wlp_send.mpr (h.send hI hm)

theorem Stable.sendErr (h : Stable env ans I) {err_code : UInt8} (herr : err_code ≠ 0) (ack : Ack) :
    Keeps I (Portal.send { ack with err_code := err_code }) := h.sendMute (Ack.mute_of_ne herr)

theorem Stable.account (h : Stable env ans I) {f : Account → Account}
    (hf : ∀ x, ((f x).authed, (f x).username) = (x.authed, x.username)) : Keeps I (setAccount a f) := by
  intro P hI
  refine wlp_setAccount.mpr fun c _ => h.same hI ⟨⟨rfl, rfl, rfl, rfl, rfl, fun b => ?_⟩, fun b => ?_⟩
  · by_cases hb : b = a
    · subst hb
      simpa using (Prod.mk.inj (hf (P.account b))).1
    · simp [hb]
  · by_cases hb : b = a
    · subst hb
      simpa using (Prod.mk.inj (hf (P.account b))).2
    · simp [hb]

theorem Stable.find (h : Stable env ans I) : Keeps I (appconnFindByUseripx ans u) := fun _ hI =>
  wlp_appconnFindByUseripx (h.wf hI) fun _ _ hq _ => h.quiet hI hq

theorem Stable.findSess (h : Stable env ans I) : Keeps I (portalSessFindByUseripx u) := fun _ hI =>
  wlp_findSess (h.wf hI).table fun _ _ hf => h.fewer hI hf.sound hf.sub

theorem Stable.reachSess (h : Stable env ans I) {mem : Bool} : Keeps I (reachSess u mem) := fun _ hI =>
  wlp_reachSess (h.wf hI).table (fun _ _ => hI) (fun _ _ hf => h.fewer hI hf.sound hf.sub) fun _ hno =>
    h.new hI hno

theorem Stable.setSess (h : Stable env ans I) (hI : I P) (hs : P.table.sess n = some s)
    (hsame : (t.user_addr, t.rcvpkt) = (s.user_addr, s.rcvpkt)) : wlp (setSess n t) (fun _ => I) P :=
  wlp_setSess.mpr fun _ _ => h.set hI hs hsame

theorem Stable.initRsp (h : Stable env ans I) : Keeps I (portalPacketInitRsp env pkt) := fun _ hI =>
  wlp_portalPacketInitRsp fun _ _ _ _ _ => h.aside hI

theorem Stable.endAuth (h : Stable env ans I) : Keeps I (endAuth ans u) := by
  refine h.find.bind fun r => ?_
  cases r with
  | none => exact Keeps.pure
  | some a => exact h.account fun _ => rfl

theorem Stable.configNas (h : Stable env ans I) : Keeps I (configNas a) :=
  Keeps.ask.bind fun _ => h.account fun _ => rfl

theorem Stable.configPortalsrv (h : Stable env ans I) {srv : PortalSrv} :
    Keeps I (appconnConfigPortalsrv a srv) := h.account fun _ => rfl

/-! ## Replies and acknowledgements -/

theorem Stable.authFailure (h : Stable env ans I) {err_code : UInt8}
    (hsend : ∀ ack : Ack, Keeps I (Portal.send { ack with err_code := err_code })) :
    Keeps I (authFailure env ans u err_code) := by
  refine h.findSess.bind fun r => ?_
  cases r with
  | none => exact Keeps.pure
  | some n =>
    refine h.find.bind fun _ => Keeps.ask.bind fun s => Keeps.ite (fun _ => ?_) fun _ => Keeps.pure
    exact h.initRsp.bind fun rsppkt => (hsend rsppkt).bind fun _ => h.free

theorem Stable.accessRejectProc (h : Stable env ans I) {err_code : UInt8}
    (hsend : ∀ ack : Ack, Keeps I (Portal.send { ack with err_code := err_code })) :
    Keeps I (accessRejectProc env ans u err_code) := h.endAuth.bind fun _ => h.authFailure hsend

/-- A request gets to a connection, if it passes. -/
theorem Stable.serve (h : Stable env ans I) {auto : Bool} {reject : PortalM Unit} {body : Nat → PortalM Unit}
    {J : Portal → Prop} (hJ : ∀ {P'}, I P' → J P') (hreject : Keeps I reject)
    (hbody : ∀ a P', I P' → wlp (body a) (fun _ => J) P') (hI : I P) :
    wlp (serve env ans auto u pkt reject body) (fun _ => J) P := by
  refine wlp_serve (h.wf hI) (fun a P' hq _ _ _ => hbody a P' (h.quiet hI hq)) (fun P' hq => hJ (h.quiet hI hq))
    fun P' hq => ?_
  refine wlp_mono (fun _ P'' h'' => ?_) (hreject P' (h.quiet hI hq))
  exact ⟨h.wf h'', fun P₃ h₃ => hJ (h.quiet h'' h₃)⟩

/-- An ACK_LOGOUT frees the session, and the user is terminated if it is authenticated. -/
theorem keeps_ackLogoutSess {h : Host} (hwf : ∀ {P}, I P → P.Wf h) (hfree : Keeps I (portalSessFree n))
    (haccount : Keeps I (setAccount a fun x => { x with on_ntf_logout := false }))
    (hend : ∀ {P c}, I P → P.db.conns a = some c → (P.account a).authed = true → I (P.terminated ans a true c)) :
    Keeps I (ackLogoutSess ans a n) := by
  intro P hI
  simp only [Portal.ackLogoutSess, wlp_bind, wlp_sessOf, wlp_accountOf]
  intro s _ c _
  have hleave : wlp (if (P.account a).authed = true then do
        setAccount a fun x => { x with on_ntf_logout := false }
        terminateAppconn ans a
        portalSessFree n
      else portalSessFree n) (fun _ => I) P := by
    simp only [wlp_ite, wlp_bind, wlp_setAccount]
    refine ⟨fun hauth d hd => ?_, fun _ => hfree P hI⟩
    have hacc := wlp_setAccount.mp (haccount P hI) d hd
    exact (wlp_terminateAppconn (hwf hacc).db).mpr fun e he => hfree _ (hend hacc he (by simpa using hauth))
  cases s.status with
  | SESS_STATUS_NONE => exact hfree P hI
  | SESS_STATUS_NTF_LOGOUT_WAIT => exact hleave
  | SESS_STATUS_ON_MACBIND | SESS_STATUS_MACBOUND | SESS_STATUS_CHALLENGED | SESS_STATUS_ON_CHAPAUTH
  | SESS_STATUS_ON_PAPAUTH | SESS_STATUS_AFF_WAIT | SESS_STATUS_LOGOUT_WAIT => exact wlp_pure.mpr hI

theorem Stable.ackLogoutSess (h : Stable env ans I) : Keeps I (ackLogoutSess ans a n) :=
  keeps_ackLogoutSess h.wf h.free (h.account fun _ => rfl) fun hI hc hauth =>
    h.quiet hI (Quiet.refl.terminate hc hauth)

theorem keeps_affAckAuthSess (hfree : Keeps I (portalSessFree n)) : Keeps I (affAckAuthSess n) := by
  refine Keeps.ask.bind fun s => ?_
  cases s.status with
  | SESS_STATUS_NONE | SESS_STATUS_AFF_WAIT => exact hfree
  | SESS_STATUS_ON_MACBIND | SESS_STATUS_MACBOUND | SESS_STATUS_CHALLENGED | SESS_STATUS_ON_CHAPAUTH
  | SESS_STATUS_ON_PAPAUTH | SESS_STATUS_LOGOUT_WAIT | SESS_STATUS_NTF_LOGOUT_WAIT => exact Keeps.pure

theorem keeps_ackMacbindSess (hfree : Keeps I (portalSessFree n))
    (hset : ∀ {P s t}, I P → P.table.sess n = some s → (t.user_addr, t.rcvpkt) = (s.user_addr, s.rcvpkt) →
      I { P with table := P.table.setSess n t }) : Keeps I (ackMacbindSess pkt n) := by
  intro P hI
  simp only [Portal.ackMacbindSess, wlp_bind, wlp_sessOf, wlp_get]
  intro s hs
  cases s.status with
  | SESS_STATUS_NONE => exact hfree P hI
  | SESS_STATUS_ON_MACBIND =>
    exact wlp_ite.mpr ⟨fun _ => hfree P hI, fun _ => wlp_setSess.mpr fun _ _ => hset hI hs rfl⟩
  | SESS_STATUS_MACBOUND | SESS_STATUS_CHALLENGED | SESS_STATUS_ON_CHAPAUTH | SESS_STATUS_ON_PAPAUTH
  | SESS_STATUS_AFF_WAIT | SESS_STATUS_LOGOUT_WAIT | SESS_STATUS_NTF_LOGOUT_WAIT => exact wlp_pure.mpr hI

theorem Stable.affAckAuthSess (h : Stable env ans I) : Keeps I (affAckAuthSess n) := keeps_affAckAuthSess h.free

theorem Stable.ackMacbindSess (h : Stable env ans I) : Keeps I (ackMacbindSess pkt n) :=
  keeps_ackMacbindSess h.free h.set

theorem Stable.acknowledged (h : Stable env ans I) {check : Bool} {sess : Nat → Nat → PortalM Unit}
    (hsess : ∀ a n, Keeps I (sess a n)) : Keeps I (acknowledged env ans pkt check sess) := fun _ hI =>
  wlp_acknowledged (h.wf hI) (fun _ hq => h.quiet hI hq) fun a n P' hq => hsess a n P' (h.quiet hI hq)

theorem Stable.reqinfoProc (h : Stable env ans I) (hinfo : packetType pkt = REQ_INFO) :
    Keeps I (reqinfoProc env ans pkt) := by
  intro P hI
  rw [Portal.reqinfoProc, wlp_bind, wlp_ask]
  intro u _
  rw [wlp_bind]
  refine wlp_portalPacketInitRsp fun rsppkt reqid _ ht _ => ?_
  have htype : rsppkt.type = ACK_INFO := by rw [ht, rspType, hinfo]; decide
  have hmute : ∀ err_code, Ack.Mute { rsppkt with err_code := err_code } := by
    intro err_code _
    dsimp only
    rw [htype]
    decide
  have hI₁ : I { P with prev_reqid := reqid } := h.aside hI
  rw [wlp_bind]
  refine wlp_reach (h.wf hI₁) fun r P' hq _ => ?_
  have hI' := h.quiet hI₁ hq
  have hfail : wlp (if env.protocol = .PORTAL_PROTOCOL_TELECOM then pure ()
      else Portal.send { rsppkt with err_code := EC_ACK_INFO_FAILED }) (fun _ => I) P' :=
    wlp_ite.mpr ⟨fun _ => wlp_pure.mpr hI', fun _ => h.sendMute (hmute _) P' hI'⟩
  obtain ⟨ra, rc⟩ := r
  cases ra with
  | none => exact hfail
  | some a =>
    cases rc with
    | some b => exact hfail
    | none =>
      simp only [wlp_bind, wlp_requestCheck, wlp_ite, wlp_accountOf, wlp_pure]
      refine fun c _ => ⟨fun _ d _ => ?_, fun _ => hI'⟩
      refine h.sendMute ?_ P' hI'
      split
      · exact hmute rsppkt.err_code
      · exact hmute _

/-! ## Sessions -/

/-- The property is kept by what goes on in a session. -/
structure Inert (h : Host) (I : Portal → Prop) : Prop where
  wf : ∀ {P}, I P → P.Wf h
  fewer : ∀ {P T}, I P → T.Sound → T.Sub P.table → I { P with table := T }
  set : ∀ {P n s t}, I P → P.table.sess n = some s → t.user_addr = s.user_addr →
    I { P with table := P.table.setSess n t }
  send : ∀ {P ack}, I P → I { P with sent := ack :: P.sent }

section
variable {h : Host} {rsppkt : Ack}

theorem Inert.sends (hi : Inert h I) : Keeps I (Portal.send ack) := fun _ hI => wlp_send.mpr (hi.send hI)

theorem Inert.free (hi : Inert h I) : Keeps I (portalSessFree n) := fun _ hI =>
  (wlp_portalSessFree (hi.wf hI).table).mpr fun _ _ =>
    hi.fewer hI (hi.wf hI).table.without SessTable.without_sub

theorem Inert.findSess (hi : Inert h I) : Keeps I (portalSessFindByUseripx u) := fun _ hI =>
  wlp_findSess (hi.wf hI).table fun _ _ hf => hi.fewer hI hf.sound hf.sub

theorem Inert.challengeSess (hi : Inert h I) : Keeps I (challengeSess ans pkt rsppkt a n) := by
  intro P hI
  simp only [Portal.challengeSess, wlp_bind, wlp_sessOf, wlp_accountOf, wlp_get, wlp_ite]
  intro s hs c _
  refine ⟨fun _ => hi.sends P hI, fun _ => ?_⟩
  have hfresh : wlp (if (P.account a).authed = true then do
        Portal.setSess n { s with t_timeout := none }
        Portal.send { rsppkt with err_code := CHALLENGE_CONNECTED }
      else do
        Portal.setSess n (P.armed .SESS_CHALLENGED_TIMEOUT P.conf.challenged_timeout
          { s with status := .SESS_STATUS_CHALLENGED, challenge := ans.challenge, reqid := rsppkt.req_id })
        Portal.send { rsppkt with challenge := ans.challenge }) (fun _ => I) P := by
    simp only [wlp_ite, wlp_bind, wlp_setSess]
    exact ⟨fun _ s₀ _ => hi.sends _ (hi.set hI hs rfl), fun _ s₀ _ => hi.sends _ (hi.set hI hs rfl)⟩
  cases hst : s.status with
  | SESS_STATUS_NONE | SESS_STATUS_ON_MACBIND | SESS_STATUS_MACBOUND | SESS_STATUS_LOGOUT_WAIT =>
    rw [hst] at hfresh
    exact hfresh
  | SESS_STATUS_CHALLENGED | SESS_STATUS_ON_CHAPAUTH | SESS_STATUS_ON_PAPAUTH | SESS_STATUS_AFF_WAIT
  | SESS_STATUS_NTF_LOGOUT_WAIT => exact hi.sends P hI

theorem Inert.ackMacbindSess (hi : Inert h I) : Keeps I (ackMacbindSess pkt n) :=
  keeps_ackMacbindSess hi.free fun hI hs hsame => hi.set hI hs (Prod.mk.inj hsame).1

/-- A logout terminates the user if it is authenticated. -/
theorem Inert.logoutSess (hi : Inert h I) (hI : I P)
    (hend : ∀ {P' c}, I P' → P'.db.conns a = some c → P'.account = P.account → (P.account a).authed = true →
      I (P'.terminated ans a true c)) : wlp (logoutSess ans pkt rsppkt a n) (fun _ => I) P := by
  simp only [Portal.logoutSess, wlp_bind, wlp_sessOf, wlp_accountOf, wlp_ite]
  intro s hs c _
  refine ⟨fun _ => hi.sends P hI, fun _ => ?_⟩
  have hleave : wlp (if (P.account a).authed = true then do
        Portal.send rsppkt
        terminateAppconn ans a
        let P ← get
        Portal.setSess n (P.armed .SESS_LOGOUT_WAIT_TIMEOUT P.conf.logout_wait_timeout
          { s with status := .SESS_STATUS_LOGOUT_WAIT })
      else do
        portalSessFree n
        Portal.send { rsppkt with err_code := EC_ACK_LOGOUT_REJECT } : PortalM Unit) (fun _ => I) P := by
    simp only [wlp_ite, wlp_bind, wlp_send]
    refine ⟨fun hauth => ?_, fun _ => ?_⟩
    · have h₁ : I { P with sent := rsppkt :: P.sent } := hi.send hI
      refine (wlp_terminateAppconn (hi.wf h₁).db).mpr fun d hd => ?_
      simp only [wlp_get, wlp_setSess]
      intro s₀ hs₀
      have hold : s₀ = s := by simpa [terminated, hs] using hs₀.symm
      subst hold
      exact hi.set (hend h₁ hd rfl hauth) hs₀ rfl
    · exact wlp_mono (fun _ P' h' => hi.send h') (hi.free P hI)
  cases hst : s.status with
  | SESS_STATUS_NONE => exact hleave
  | SESS_STATUS_AFF_WAIT => exact hleave
  | SESS_STATUS_LOGOUT_WAIT | SESS_STATUS_ON_MACBIND | SESS_STATUS_MACBOUND | SESS_STATUS_ON_CHAPAUTH
  | SESS_STATUS_ON_PAPAUTH | SESS_STATUS_NTF_LOGOUT_WAIT | SESS_STATUS_CHALLENGED => exact hi.sends P hI

end

/-! ## Timers -/

theorem Stable.onmacbindTimeout (h : Stable env ans I) : Keeps I (onmacbindTimeout ans n) := by
  intro P hI
  simp only [Portal.onmacbindTimeout, wlp_bind, wlp_sessOf, wlp_setSess]
  intro s hs s₀ _
  have hI₁ := h.set (t := fired s) hI hs rfl
  refine wlp_appconnFindByUseripx (h.wf hI₁) fun r P' hq _ => ?_
  have hI' := h.quiet hI₁ hq
  cases r with
  | none => exact h.free P' hI'
  | some a =>
    simp only [wlp_bind, wlp_get, wlp_ite, wlp_setSess]
    refine ⟨fun _ s₁ hs₁ => h.set hI' hs₁ ?_, fun _ => h.free P' hI'⟩
    have hold : s₁ = fired s := by simpa [SessTable.setSess] using (hq.calm.sub n s₁ hs₁).symm
    rw [hold]
    rfl

theorem Stable.onauthTimeout (h : Stable env ans I) : Keeps I (onauthTimeout env ans n) := by
  intro P hI
  simp only [Portal.onauthTimeout, wlp_bind, wlp_sessOf, wlp_setSess]
  intro s hs s₀ _
  have hrej : PORTAL_AUTH_REJECT ≠ 0 := by decide
  have hrest : Keeps I (do
      let rsppkt ← portalPacketInitRsp env s.rcvpkt
      Portal.send { rsppkt with err_code := PORTAL_AUTH_REJECT }
      Portal.endAuth ans s.user_addr
      portalSessFree n) := h.initRsp.bind fun rsppkt => (h.sendMute (Ack.mute_of_ne hrej)).bind fun _ =>
    h.endAuth.bind fun _ => h.free
  have hrest := hrest _ (h.set (t := fired s) hI hs rfl)
  simpa only [wlp_bind] using hrest

theorem Stable.idTimeout (h : Stable env ans I) {k : Nat} {i : UInt8} : Keeps I (idTimeout ans k i) := by
  intro P hI
  rw [Portal.idTimeout, wlp_bind, wlp_get]
  cases P.radius.dueId k i with
  | none => exact wlp_pure.mpr hI
  | some r =>
    obtain ⟨r, timer⟩ := r
    cases timer with
    | RADIUS_ID_STATUS_TIMEOUT => exact wlp_modify.mpr (h.aside hI)
    | RADIUS_ID_RETRY_TIMEOUT =>
      refine h.find.bind (fun _ => Keeps.ask.bind fun s => ?_) P hI
      exact Keeps.modify fun _ hI => h.aside hI

/-! ## Logouts and what else there is -/

theorem Stable.notifyLogout (h : Stable env ans I) : Keeps I (notifyLogout ans a) := by
  refine Keeps.ask.bind fun c => h.reachSess.bind fun r => ?_
  cases r with
  | none => exact Keeps.pure
  | some n =>
    intro P hI
    simp only [wlp_bind, wlp_sessOf, wlp_get, wlp_ite, wlp_pure]
    exact fun s hs => ⟨fun _ => hI, fun _ => h.setSess hI hs rfl⟩

theorem Stable.logoutUser {again : Bool} (h : Stable env ans I) : Keeps I (logoutUser ans a again) :=
  Keeps.ask.bind fun _ => Keeps.ite
    (fun _ => h.notifyLogout.bind fun _ => h.account fun _ => rfl) fun _ => Keeps.pure

theorem Stable.procDmRequest (h : Stable env ans I) : Keeps I (procDmRequest ans a) := by
  refine Keeps.ask.bind fun x => Keeps.ite (fun _ => ?_) fun _ => Keeps.pure
  refine Keeps.ask.bind fun c => h.reachSess.bind fun r => ?_
  cases r with
  | none => exact Keeps.pure
  | some n =>
    intro P hI
    simp only [wlp_bind, wlp_sessOf]
    intro s hs
    have hend : ∀ t : PortalSess, (t.user_addr, t.rcvpkt) = (s.user_addr, s.rcvpkt) → wlp (do
        Portal.setSess n t
        setAccount a fun x => { x with on_ntf_logout := true }
        Portal.notifyLogout ans a) (fun _ => I) P := by
      intro t hsame
      rw [wlp_bind]
      refine wlp_mono (fun _ P' hI' => ?_) (h.setSess hI hs hsame)
      exact (h.account (f := fun x => { x with on_ntf_logout := true }) fun _ => rfl).bind
        (fun _ => h.notifyLogout) P' hI'
    cases s.status with
    | SESS_STATUS_AFF_WAIT => exact hend _ rfl
    | SESS_STATUS_NONE => exact hend _ rfl
    | SESS_STATUS_ON_MACBIND | SESS_STATUS_MACBOUND | SESS_STATUS_CHALLENGED | SESS_STATUS_ON_CHAPAUTH
    | SESS_STATUS_ON_PAPAUTH | SESS_STATUS_LOGOUT_WAIT | SESS_STATUS_NTF_LOGOUT_WAIT => exact wlp_pure.mpr hI

theorem Stable.macbindReq (h : Stable env ans I) : Keeps I (macbindReq ans a) := by
  refine Keeps.ask.bind fun c => h.reachSess.bind fun r => ?_
  cases r with
  | none => exact Keeps.pure
  | some n =>
    intro P hI
    simp only [wlp_bind, wlp_sessOf, wlp_get]
    intro s hs
    cases s.status with
    | SESS_STATUS_NONE => exact h.setSess hI hs rfl
    | SESS_STATUS_LOGOUT_WAIT => exact h.setSess hI hs rfl
    | SESS_STATUS_ON_MACBIND | SESS_STATUS_MACBOUND | SESS_STATUS_CHALLENGED | SESS_STATUS_ON_CHAPAUTH
    | SESS_STATUS_ON_PAPAUTH | SESS_STATUS_AFF_WAIT | SESS_STATUS_NTF_LOGOUT_WAIT => exact wlp_pure.mpr hI

theorem Stable.insStop (h : Stable env ans I) : Keeps I (insStop ans) := by
  intro P hI
  simp only [Portal.insStop, wlp_bind, wlp_get, wlp_ite, wlp_pure]
  refine ⟨fun _ => wlp_terminateAppconnAll (h.wf hI) fun P' hq => ?_, fun _ => hI⟩
  have hstop : Keeps I (P'.table.sess_head.forM portalSessFree) := Keeps.forM fun n _ => h.free
  simp only [portalStop, wlp_bind, wlp_get, wlp_modify]
  exact wlp_mono (fun _ P'' hI'' => h.aside hI'') (hstop P' (h.quiet hI hq))

theorem Stable.createBySta (h : Stable env ans I) : Keeps I (appconnCreateByStaV2 env ans u) := fun _ hI =>
  wlp_appconnCreateByStaV2 fun _ hq => ⟨h.quiet hI hq, fun _ _ _ _ => h.configPortalsrv _ (h.quiet hI hq)⟩

/-! ## Logins -/

theorem Alike.refl (P : Portal) : Alike P P := ⟨rfl, rfl, rfl, rfl, rfl, fun _ => rfl⟩

theorem Alike.setAccount (h : Alike P P') {f : Account → Account}
    (hf : (f (P'.account a)).authed = (P'.account a).authed) :
    Alike P { P' with account := Function.update P'.account a (f (P'.account a)) } := by
  refine ⟨h.table, h.db, h.authed_user_num, h.acct, h.sent, fun b => ?_⟩
  rw [← h.authed b]
  by_cases hb : b = a
  · subst hb
    simpa using hf
  · simp [hb]

theorem wlp_nas {nas : Bool} : wlp (if nas then configNas a else pure ()) (fun _ => Alike P) P :=
  wlp_ite.mpr ⟨fun _ => wlp_configNas.mpr fun _ _ => ⟨rfl, rfl, rfl, rfl, rfl, fun _ => nasConfigured_authed⟩,
    fun _ => wlp_pure.mpr (Alike.refl P)⟩

section
variable {Q : Unit → Portal → Prop} {rsppkt : Ack} {username : List UInt8} {status : SessStatus}

theorem wlp_refuse (hT : P.table.Sound)
    (hq : Q ⟨⟩ { P with
      table := P.table.without n, sent := { rsppkt with err_code := PORTAL_AUTH_REJECT } :: P.sent }) :
    wlp (refuse rsppkt n) Q P := by
  rw [refuse, wlp_bind, wlp_portalSessFree hT]
  exact fun _ _ => wlp_send.mpr hq

theorem wlp_sendLogin (hs : P.table.sess n = some s)
    (hq : ∀ P' t, Alike { P with table := P.table.setSess n t } P' → t.user_addr = s.user_addr →
      t.rcvpkt = pkt → t.status = status → Q ⟨⟩ P') : wlp (sendLogin ans pkt username status a n) Q P := by
  simp only [Portal.sendLogin, wlp_bind, wlp_ask, wlp_modify, Option.some.injEq, forall_eq', wlp_setAccount,
    wlp_configNas, wlp_radiusAuth, wlp_sessOf, wlp_get, wlp_setSess]
  intro c _ c' _ d _
  have hlogin := (Alike.refl P).setAccount (a := a)
    (f := fun x => { x with on_auth := true, login := P.logins }) rfl
  have halike : Alike P (Portal.nasConfigured a { P with
      logins := P.logins + 1
      account := Function.update P.account a { P.account a with on_auth := true, login := P.logins } }) :=
    ⟨rfl, rfl, rfl, rfl, rfl, fun b => nasConfigured_authed.trans (hlogin.authed b)⟩
  split
  · intro r hr _ _
    obtain rfl : s = r := Option.some.inj (hs.symm.trans hr)
    exact hq _ _ ⟨rfl, rfl, rfl, rfl, rfl, halike.authed⟩ rfl rfl rfl
  · intro r hr _ _
    obtain rfl : s = r := Option.some.inj (hs.symm.trans hr)
    exact hq _ _ ⟨rfl, rfl, rfl, rfl, rfl, halike.authed⟩ rfl rfl rfl

/-- A login is refused, and its session is freed; or it goes on, and the session keeps the packet. -/
theorem wlp_startLogin {passwd : Bool} (hT : P.table.Sound) (hs : P.table.sess n = some s)
    (hrefuse : ∀ P', Alike { P with
      table := P.table.without n, sent := { rsppkt with err_code := PORTAL_AUTH_REJECT } :: P.sent } P' → Q ⟨⟩ P')
    (hask : ∀ P' t, Alike { P with table := P.table.setSess n t } P' → t.user_addr = s.user_addr →
      t.rcvpkt = pkt → t.status = status → Q ⟨⟩ P') :
    wlp (startLogin env ans pkt rsppkt username passwd status a n) Q P := by
  have hend : ∀ P', Alike P P' → wlp (refuse rsppkt n) Q P' := fun P' h => by
    refine wlp_refuse (h.table ▸ hT) (hrefuse _ ⟨?_, h.db, h.authed_user_num, h.acct, ?_, h.authed⟩)
    · rw [h.table]
    · rw [h.sent]
  simp only [Portal.startLogin, wlp_bind, wlp_setAccount, wlp_ite, wlp_ask, Option.some.injEq, forall_eq',
    wlp_accountOf]
  intro c _
  have h₁ := (Alike.refl P).setAccount (a := a) (f := fun x => { x with username := username }) rfl
  refine ⟨fun _ => hend _ h₁, fun _ d _ e _ => ?_⟩
  have h₂ := h₁.setAccount (a := a) (f := fun x =>
    { x with
      username := (divUsernameAndDomain P.conf.radiusconf x.username x.domain_name).1
      domain_name := (divUsernameAndDomain P.conf.radiusconf x.username x.domain_name).2 }) rfl
  refine ⟨fun _ => hend _ h₂, fun _ => ?_⟩
  split
  · exact hend _ h₂
  · rename_i srv _
    simp only [wlp_bind, wlp_setAccount, wlp_ite]
    intro f _
    have h₃ := h₂.setAccount (a := a) (f := fun x => { x with radius_srv := srv }) rfl
    refine ⟨fun _ => wlp_sendLogin hs fun P' t h => hask P' t ?_, fun _ => hend _ h₃⟩
    exact ⟨h.table, h.db, h.authed_user_num, h.acct, h.sent, fun b => (h.authed b).trans (h₃.authed b)⟩

theorem Inert.refuse {h : Host} (hi : Inert h I) : Keeps I (refuse rsppkt n) := hi.free.bind fun _ => hi.sends

/-- The property is kept by a login as well, which leaves the secret of the connection alone. -/
structure Steady (h : Host) (I : Portal → Prop) : Prop extends Inert h I where
  account : ∀ {P a x}, I P → x.secret = (P.account a).secret →
    I { P with account := Function.update P.account a x }
  aside : ∀ {P radius logins}, I P → I { P with radius := radius, logins := logins }

section
variable {h : Host} {passwd : Bool}

theorem Steady.setAccount (hi : Steady h I) {f : Account → Account} (hf : ∀ x, (f x).secret = x.secret) :
    Keeps I (setAccount a f) := fun _ hI => wlp_setAccount.mpr fun _ _ => hi.account hI (hf _)

theorem Steady.configNas (hi : Steady h I) : Keeps I (configNas a) :=
  Keeps.ask.bind fun _ => hi.setAccount fun _ => rfl

theorem Steady.radiusAuth (hi : Steady h I) : Keeps I (radiusAuth ans a) := by
  intro P hI
  refine wlp_radiusAuth.mpr fun c _ => ?_
  split
  · exact hi.aside hI
  · exact hI

theorem Steady.sendLogin (hi : Steady h I) : Keeps I (sendLogin ans pkt username status a n) := by
  refine Keeps.ask.bind fun login => (Keeps.modify fun _ hI => hi.aside hI).bind fun _ => ?_
  refine (hi.setAccount (by simp)).bind fun _ => hi.configNas.bind fun _ => hi.radiusAuth.bind fun _ P hI => ?_
  simp only [wlp_bind, wlp_sessOf, wlp_get, wlp_setSess]
  exact fun s hs _ _ => hi.set hI hs rfl

theorem Steady.startLogin (hi : Steady h I) :
    Keeps I (startLogin env ans pkt rsppkt username passwd status a n) := by
  refine (hi.setAccount (by simp)).bind fun _ => Keeps.ite (fun _ => hi.refuse) fun _ => ?_
  refine Keeps.ask.bind fun conf => (hi.setAccount (by simp)).bind fun _ => Keeps.ask.bind fun x => ?_
  refine Keeps.ite (fun _ => hi.refuse) fun _ => ?_
  split
  · exact hi.refuse
  · exact (hi.setAccount (by simp)).bind fun _ => Keeps.ite (fun _ => hi.sendLogin) fun _ => hi.refuse

theorem Steady.chapauthSess (hi : Steady h I) : Keeps I (chapauthSess env ans pkt rsppkt username a n) := by
  refine Keeps.ask.bind fun s => Keeps.ask.bind fun x => ?_
  cases s.status with
  | SESS_STATUS_NONE => exact hi.free.bind fun _ => hi.sends
  | SESS_STATUS_CHALLENGED => exact Keeps.ite (fun _ => hi.refuse) fun _ => hi.startLogin
  | SESS_STATUS_ON_MACBIND | SESS_STATUS_MACBOUND | SESS_STATUS_LOGOUT_WAIT | SESS_STATUS_AFF_WAIT
  | SESS_STATUS_ON_CHAPAUTH | SESS_STATUS_ON_PAPAUTH | SESS_STATUS_NTF_LOGOUT_WAIT => exact hi.sends

theorem Steady.papauthSess (hi : Steady h I) : Keeps I (papauthSess env ans pkt rsppkt username a n) := by
  refine Keeps.ask.bind fun s => Keeps.ask.bind fun x => ?_
  have hlogin : Keeps I (if x.authed then do
        portalSessFree n
        Portal.send { rsppkt with err_code := PORTAL_AUTH_CONNECTED }
      else Portal.startLogin env ans pkt rsppkt username (papPasswd env pkt) .SESS_STATUS_ON_PAPAUTH a n) :=
    Keeps.ite (fun _ => hi.free.bind fun _ => hi.sends) fun _ => hi.startLogin
  cases s.status with
  | SESS_STATUS_NONE | SESS_STATUS_ON_MACBIND | SESS_STATUS_MACBOUND | SESS_STATUS_CHALLENGED
  | SESS_STATUS_LOGOUT_WAIT => exact hlogin
  | SESS_STATUS_AFF_WAIT | SESS_STATUS_ON_CHAPAUTH | SESS_STATUS_ON_PAPAUTH | SESS_STATUS_NTF_LOGOUT_WAIT =>
    exact hi.sends

end

end

end

/-! ## Tables -/

section
variable {env : PortalEnv} {ans : PortalAnswers} {P : Portal} {h : Host} {a n : Nat} {c : AppConn} {wait : Bool}
  {u : UserAddr} {pkt : Packet}

theorem Wf.terminated (hw : P.Wf h) : (P.terminated ans a wait c).Wf h :=
  ⟨hw.db.without, by simpa [Portal.terminated] using hw.table⟩

theorem steady_wf : Steady h (Wf h) where
  wf hw := hw
  fewer hw hT _ := ⟨hw.db, hT⟩
  set hw hs haddr := ⟨hw.db, hw.table.setSess hs haddr⟩
  send hw := ⟨hw.db, hw.table⟩
  account hw _ := ⟨hw.db, hw.table⟩
  aside hw := ⟨hw.db, hw.table⟩

theorem stable_wf : Stable env ans (Wf env.host) where
  wf hw := hw
  quiet hw hq := hq.wf hw
  same hw hs := ⟨hs.db ▸ hw.db, hs.table ▸ hw.table⟩
  set hw hs hsame := ⟨hw.db, hw.table.setSess hs (Prod.mk.inj hsame).1⟩
  new hw hno := ⟨hw.db, hw.table.new hno⟩
  send hw _ := ⟨hw.db, hw.table⟩

theorem wf_send {ack : Ack} : Keeps (Wf h) (Portal.send ack) := steady_wf.sends

theorem wf_challengeProc : Keeps (Wf env.host) (challengeProc env ans pkt) := by
  have hstable := @stable_wf env ans
  refine Keeps.ask.bind fun u => hstable.initRsp.bind fun rsppkt => Keeps.ask.bind fun conf => ?_
  refine Keeps.ite (fun _ => wf_send) fun _ _ hw => ?_
  refine hstable.serve id wf_send (fun a P' hw' => ?_) hw
  refine (hstable.configNas.bind fun _ => hstable.reachSess.bind fun r => ?_) P' hw'
  cases r with
  | none => exact wf_send
  | some n => exact steady_wf.challengeSess

theorem wf_logoutProc : Keeps (Wf env.host) (logoutProc env ans pkt) := by
  have hstable := @stable_wf env ans
  refine Keeps.ask.bind fun u => hstable.initRsp.bind fun rsppkt _ hw => ?_
  refine hstable.serve id wf_send (fun a P' hw' => ?_) hw
  refine (hstable.reachSess.bind fun r => ?_) P' hw'
  cases r with
  | none => exact wf_send
  | some n => exact fun _ hw => steady_wf.logoutSess hw fun hw' _ _ _ => hw'.terminated

theorem wf_authProc {nas : Bool} {sess : Ack → List UInt8 → Nat → Nat → PortalM Unit}
    (hsess : ∀ rsppkt username a n, Keeps (Wf env.host) (sess rsppkt username a n)) :
    Keeps (Wf env.host) (authProc env ans pkt nas sess) := by
  have hstable := @stable_wf env ans
  refine Keeps.ask.bind fun u => hstable.initRsp.bind fun rsppkt => Keeps.ask.bind fun username => ?_
  refine Keeps.ask.bind fun conf _ hw => hstable.serve id wf_send (fun a P' hw' => ?_) hw
  refine (Keeps.bind (Keeps.ite (fun _ => hstable.configNas) fun _ => Keeps.pure) fun _ => ?_) P' hw'
  cases ans.portal_srv with
  | none => exact wf_send
  | some srv =>
    refine hstable.configPortalsrv.bind fun _ => hstable.reachSess.bind fun r => ?_
    cases r with
    | none => exact wf_send
    | some n =>
      intro P₂ hw₂
      simp only [wlp_bind, wlp_sessOf, wlp_setSess]
      exact fun s hs _ _ => hsess _ _ _ _ _ (steady_wf.set hw₂ hs rfl)

theorem wf_portalProcPacket : Keeps (Wf env.host) (portalProcPacket env ans pkt) := by
  have hstable := @stable_wf env ans
  refine Keeps.ask.bind fun _ => Keeps.ite (fun _ => wf_challengeProc) fun _ => Keeps.ite (fun _ => ?_) fun _ =>
    Keeps.ite (fun _ => ?_) fun _ => Keeps.ite (fun _ => ?_) fun _ => Keeps.ite (fun _ => ?_) fun _ =>
    Keeps.ite (fun hinfo => hstable.reqinfoProc hinfo) fun _ => Keeps.ite (fun _ => ?_) fun _ =>
    Keeps.ite (fun _ P hw => ?_) fun _ => Keeps.pure
  · refine Keeps.ite (fun _ => ?_) fun _ => Keeps.ite (fun _ => ?_) fun _ => Keeps.pure
    · exact wf_authProc fun _ _ _ _ => steady_wf.chapauthSess
    · exact wf_authProc fun _ _ _ _ => steady_wf.papauthSess
  · refine Keeps.ite (fun _ => wf_logoutProc) fun _ => Keeps.ite (fun _ => ?_) fun _ => Keeps.pure
    exact Keeps.ask.bind fun _ => hstable.find.bind fun _ => Keeps.pure
  · exact hstable.acknowledged fun _ _ => hstable.ackLogoutSess
  · exact hstable.acknowledged fun _ _ => hstable.affAckAuthSess
  · exact hstable.acknowledged fun _ _ => hstable.ackMacbindSess
  · exact wlp_userOfflineProc hw fun P' hq => hq.wf hw

theorem wf_accessAcceptProc {req : RadiusReq} : Keeps (Wf env.host) (accessAcceptProc env ans u req) := by
  have hstable := @stable_wf env ans
  have hfail : Keeps (Wf env.host) (authFailure env ans u PORTAL_AUTH_REJECT) :=
    hstable.authFailure fun _ => wf_send
  refine hstable.find.bind fun r => ?_
  cases r with
  | none => exact hfail
  | some a =>
    refine Keeps.ask.bind fun x => Keeps.ite (fun _ => ?_) fun _ => hfail
    refine (hstable.account (by simp)).bind fun _ => Keeps.ask.bind fun c => hstable.findSess.bind fun r => ?_
    cases r with
    | none => exact Keeps.pure
    | some n =>
      intro P hw
      simp only [wlp_bind, wlp_sessOf, wlp_ite, wlp_pure]
      refine fun s hs => ⟨fun _ => wlp_authorize fun _ _ _ _ _ _ _ => ⟨?_, ?_⟩, fun _ => hw⟩
      · simpa [admitted] using hw.db
      · rw [admitted, acctAsked_table]
        exact hw.table.setSess hs rfl

theorem wf_sockradiusReceive {k nbyte : Nat} {packet : Packet} {radius_ip : UInt32} {radius_port : UInt16}
    {err_code : UInt8} : Keeps (Wf env.host)
      (sockradiusReceive env ans k packet nbyte radius_ip radius_port err_code) := by
  have hstable := @stable_wf env ans
  intro P hw
  rw [Portal.sockradiusReceive, wlp_bind, wlp_get]
  cases P.radius.answeredId env.md5 k packet nbyte radius_ip radius_port with
  | none => exact wlp_pure.mpr hw
  | some r =>
    refine ((Keeps.modify fun _ hw => hstable.aside hw).bind fun _ => ?_) P hw
    refine Keeps.ite (fun _ => wf_accessAcceptProc) fun _ => Keeps.ite (fun _ => ?_) fun _ => ?_
    · exact hstable.accessRejectProc fun _ => wf_send
    · exact hstable.find.bind fun _ => Keeps.pure

theorem wf_affWaitTimeout : Keeps (Wf env.host) (affWaitTimeout env ans n) := by
  have hstable := @stable_wf env ans
  intro P hw
  simp only [Portal.affWaitTimeout, wlp_bind, wlp_sessOf, wlp_setSess, wlp_get, wlp_ite]
  intro s hs _ _
  have hw₁ := hstable.set hw hs (t := fired s) rfl
  refine ⟨fun _ => ?_, fun _ => hstable.free _ hw₁⟩
  refine wlp_portalPacketInitRsp fun rsppkt reqid _ _ _ => ?_
  have hw₂ : Wf env.host { P with table := P.table.setSess n (fired s), prev_reqid := reqid } :=
    ⟨hw₁.db, hw₁.table⟩
  refine wlp_appconnFindByUseripx hw₂ fun r P' hq _ => ?_
  have hw' := hq.wf hw₂
  simp only [wlp_send]
  intro s₀ hs₀
  have hold : s₀ = fired s := by simpa [SessTable.setSess] using (hq.calm.sub n s₀ hs₀).symm
  exact ⟨hw'.db, hw'.table.setSess hs₀ (by rw [hold]; rfl)⟩

theorem wf_ntfLogoutWaitTimeout : Keeps (Wf env.host) (ntfLogoutWaitTimeout ans n) := by
  have hstable := @stable_wf env ans
  intro P hw
  simp only [Portal.ntfLogoutWaitTimeout, wlp_bind, wlp_sessOf, wlp_setSess]
  intro s hs _ _
  have hw₁ := hstable.set hw hs (t := fired s) rfl
  refine wlp_appconnFindByUseripx hw₁ fun r P' hq _ => ?_
  have hw' := hq.wf hw₁
  cases r with
  | none => exact hstable.free P' hw'
  | some a =>
    simp only [wlp_bind, wlp_get, wlp_ite, wlp_setSess]
    refine ⟨fun _ s₀ hs₀ => ⟨hw'.db, hw'.table.setSess hs₀ ?_⟩, fun _ => ?_⟩
    · have hold : s₀ = fired s := by simpa [SessTable.setSess] using (hq.calm.sub n s₀ hs₀).symm
      rw [hold]
      rfl
    · have hacc : Keeps (Wf env.host) (setAccount a fun x => { x with on_ntf_logout := false }) :=
        hstable.account fun _ => rfl
      refine wlp_mono (fun _ P₂ hw₂ => ?_) (hacc P' hw')
      exact (wlp_terminateAppconn hw₂.db).mpr fun d hd => hstable.free _ hw₂.terminated

theorem wf_sessTimeout : Keeps (Wf env.host) (sessTimeout env ans n) := by
  have hstable := @stable_wf env ans
  intro P hw
  rw [Portal.sessTimeout, wlp_bind, wlp_get]
  split
  · exact wlp_pure.mpr hw
  · rename_i timer due _
    refine wlp_ite.mpr ⟨fun _ => wlp_pure.mpr hw, fun _ => ?_⟩
    cases timer with
    | SESS_ONMACBIND_TIMEOUT => exact hstable.onmacbindTimeout P hw
    | SESS_MACBOUND_TIMEOUT | SESS_CHALLENGED_TIMEOUT | SESS_LOGOUT_WAIT_TIMEOUT => exact hstable.free P hw
    | SESS_ONAUTH_TIMEOUT => exact hstable.onauthTimeout P hw
    | SESS_AFF_WAIT_TIMEOUT => exact wf_affWaitTimeout P hw
    | SESS_NTF_LOGOUT_WAIT_TIMEOUT => exact wf_ntfLogoutWaitTimeout P hw

end

end Portal

namespace PortalOp

open Portal

section
variable {env : PortalEnv} {P P' : Portal} {op : PortalOp}

theorem wf_step (hw : P.Wf env.host) (hstep : op.step env P = some P') : P'.Wf env.host := by
  have hw₀ : Portal.Wf env.host { P with sent := [] } := ⟨hw.db, hw.table⟩
  refine step_eq (Q := fun _ => Portal.Wf env.host) hstep ?_
  cases op with
  | receive ans pkt nbyte =>
    simp only [prog, portalReceive, wlp_bind, wlp_ask, wlp_ite, wlp_pure]
    exact fun _ _ => ⟨fun _ => wf_portalProcPacket _ hw₀, fun _ => hw₀⟩
  | reply ans k packet nbyte radius_ip radius_port err_code => exact wf_sockradiusReceive _ hw₀
  | sessTimer ans n => exact wf_sessTimeout _ hw₀
  | idTimer ans k i => exact (@stable_wf env ans).idTimeout _ hw₀
  | dmRequest ans a => exact (@stable_wf env ans).procDmRequest _ hw₀
  | logoutUser ans a again => exact (@stable_wf env ans).logoutUser _ hw₀
  | macbindReq ans a => exact (@stable_wf env ans).macbindReq _ hw₀
  | createBySta ans u => exact (@stable_wf env ans).createBySta _ hw₀
  | ipxUpdate a u => exact wlp_modify.mpr ⟨hw₀.db.ipxUpdate, hw₀.table⟩
  | cleanConflict ans a => exact wlp_appconnCleanConflict hw₀ fun P' hq _ _ => hq.wf hw₀
  | leave ans a => exact wlp_leave hw₀ fun P' hq => hq.wf hw₀
  | idle a => exact @Portal.wlp_idle _ _ default _ hw₀ _ fun P' hq => hq.wf hw₀
  | interfaceDown ans p => exact wlp_terminateAppconnAll hw₀ fun P' hq => hq.wf hw₀
  | stop ans => exact (@stable_wf env ans).insStop _ hw₀
  | configPortalsrv a srv => exact (@stable_wf env default).configPortalsrv _ hw₀
  | start | setRetryParams | configure | tick => exact wlp_modify.mpr ⟨hw₀.db, hw₀.table⟩

/-- In every state that the portal comes to, the tables are in order. -/
theorem wf_reached {hash_num : UInt32} {retry_interval retry_times vice_retry_times now : Int} {ops : List PortalOp}
    (hrun : tryRun (step env) (Portal.create hash_num retry_interval retry_times vice_retry_times now) ops = some P) :
    P.Wf env.host :=
  tryRun_inv (fun _ _ _ => wf_step) ⟨AppDb.indexed_create _ _, SessTable.sound_empty⟩ hrun

end

/-- The search ends; what it finds has the property, and if it finds nothing then nothing has it. -/
def Answers (found : Option (Option Nat)) (K : Nat → Prop) : Prop :=
  ∃ r, found = some r ∧ (∀ a, r = some a → K a) ∧ (r = none → ∀ a, ¬ K a)

/-- `Answers`, for a search of which at most one thing has the property. -/
theorem answers_of_iff {found : Option (Option Nat)} {K : Nat → Prop}
    (h : ∃ r, found = some r ∧ ∀ n, r = some n ↔ K n) : Answers found K := by
  obtain ⟨r, hr, hiff⟩ := h
  refine ⟨r, hr, fun a ha => (hiff a).mp ha, fun hnone a hK => ?_⟩
  have ha := (hiff a).mpr hK
  rw [hnone] at ha
  cases ha

/-- In every state that the portal comes to, the searches for a connection by its IPv4 address and by its IPv6
address, and those for a portal session, follow no freed node and find what there is; and no two sessions have an
address in common. -/
theorem lookups_answer (env : PortalEnv) (hash_num : UInt32)
    (retry_interval retry_times vice_retry_times now : Int) (ops : List PortalOp) (P : Portal)
    (hrun : tryRun (step env) (Portal.create hash_num retry_interval retry_times vice_retry_times now) ops = some P)
    (ip : UInt32) (ipv6 : In6Addr) :
    Answers (P.db.appconnFindByUserip ip)
        (fun a => ∃ c, P.db.conns a = some c ∧ c.user_addr.hasV4 ∧ c.user_addr.user_ip = ip) ∧
      Answers (P.db.appconnFindByUseripv6 ipv6)
        (fun a => ∃ c, P.db.conns a = some c ∧ c.user_addr.hasV6 ∧ c.user_addr.user_ipv6 = ipv6) ∧
      Answers (P.table.portalSessFindByUserip ip)
        (fun n => ∃ s, P.table.sess n = some s ∧ s.user_addr.hasV4 ∧ s.user_addr.user_ip = ip) ∧
      Answers (P.table.portalSessFindByUseripv6 ipv6)
        (fun n => ∃ s, P.table.sess n = some s ∧ s.user_addr.hasV6 ∧ s.user_addr.user_ipv6 = ipv6) ∧
      ∀ m n s t, P.table.sess m = some s → P.table.sess n = some t → s.user_addr.Meets t.user_addr → m = n := by
  have hw := wf_reached hrun
  refine ⟨⟨_, hw.db.userip, fun a ha => ?_, fun hnone a hK => ?_⟩,
    ⟨_, hw.db.useripv6, fun a ha => ?_, fun hnone a hK => ?_⟩, answers_of_iff hw.table.userip,
    answers_of_iff hw.table.useripv6, hw.table.one⟩
  · exact hw.db.userip_some (hw.db.userip.trans (congrArg some ha))
  · obtain ⟨c, hc, hv4, hip⟩ := hK
    exact hw.db.userip_none (hw.db.userip.trans (congrArg some hnone)) hc hv4 hip
  · exact hw.db.useripv6_some (hw.db.useripv6.trans (congrArg some ha))
  · obtain ⟨c, hc, hv6, hip⟩ := hK
    exact hw.db.useripv6_none (hw.db.useripv6.trans (congrArg some hnone)) hc hv6 hip

/-- The user 0.0.0.5 asks for a challenge; the searches find its connection and its session. -/
theorem challenged_found : ∃ P, tryRun (step sampleEnv) (Portal.create 4 3 0 0 0)
    [.receive sampleAnswers (sampleChallenge 0) 16] = some P ∧
    (∃ a, P.db.appconnFindByUserip 5 = some (some a)) ∧ ∃ n, P.table.portalSessFindByUserip 5 = some (some n) := by
  have hsome : (tryRun (step sampleEnv) (Portal.create 4 3 0 0 0)
      [.receive sampleAnswers (sampleChallenge 0) 16]).any (fun P =>
        (P.db.conns 0).any (fun c => c.user_addr.hasV4 ∧ c.user_addr.user_ip = 5) ∧
          (P.table.sess 0).any fun s => s.user_addr.hasV4 ∧ s.user_addr.user_ip = 5) = true := by decide +kernel
  obtain ⟨P, hrun, hfacts⟩ := (Option.any_eq_true _ _).mp hsome
  obtain ⟨hconn, hsess⟩ := of_decide_eq_true hfacts
  obtain ⟨c, hc, hc5⟩ := (Option.any_eq_true _ _).mp hconn
  obtain ⟨s, hs, hs5⟩ := (Option.any_eq_true _ _).mp hsess
  obtain ⟨⟨r, hr, -, hnone⟩, -, ⟨r', hr', -, hnone'⟩, -⟩ := lookups_answer sampleEnv 4 3 0 0 0 _ P hrun 5 .zero
  refine ⟨P, hrun, ?_, ?_⟩
  · cases r with
    | some a => exact ⟨a, hr⟩
    | none => exact absurd ⟨c, hc, of_decide_eq_true hc5⟩ (hnone rfl 0)
  · cases r' with
    | some n => exact ⟨n, hr'⟩
    | none => exact absurd ⟨s, hs, of_decide_eq_true hs5⟩ (hnone' rfl 0)

end PortalOp

end Eag
end DaemonGroup
