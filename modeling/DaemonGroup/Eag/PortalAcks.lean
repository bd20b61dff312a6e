import DaemonGroup.Eag.PortalKeeps

/-!
# DaemonGroup.Eag.PortalAcks

What the portal server is told is true at the end of the handler that tells it, in every run in which each
request, reply and retry finds what it takes for granted (`PortalOp.Honest`): a repeated login and a retry take
it that the session's user is authenticated, a logout request with `rsv` and a repeated one that it is not.

* `Plain env P` — what has been sent so far is no success. Most handlers keep it.
-/

namespace DaemonGroup
namespace Eag

open Lib Bytes

namespace Portal

/-- What an acknowledgement with error code 0 says of the user. A challenge may be for an address of no known
kind, and is found in the session that has been made for it then. -/
structure Tells (P : Portal) (ack : Ack) : Prop where
  login : ack.type = ACK_AUTH →
    ∃ a c, P.db.conns a = some c ∧ ack.user_addr.Meets c.user_addr ∧ (P.account a).authed = true
  logout : ack.type = ACK_LOGOUT →
    ∀ a c, P.db.conns a = some c → ack.user_addr.Meets c.user_addr → (P.account a).authed = false
  challenge : ack.type = ACK_CHALLENGE →
    ∃ n s, P.table.sess n = some s ∧ (ack.user_addr.Meets s.user_addr ∨ s.user_addr = ack.user_addr) ∧
      s.status = .SESS_STATUS_CHALLENGED ∧ s.reqid = ack.req_id ∧ s.challenge = ack.challenge

/-- What has been sent in the last step is true. -/
def Truthful (P : Portal) : Prop := ∀ ack ∈ P.sent, ack.err_code = 0 → P.Tells ack

/-- The tables are in order, and the packet that a session keeps is a REQ_AUTH, or there is none. -/
structure Keyed (env : PortalEnv) (P : Portal) : Prop where
  wf : P.Wf env.host
  rcvpkt : ∀ n s, P.table.sess n = some s → rspType s.rcvpkt = ACK_AUTH ∨ rspType s.rcvpkt = 0

/-- Nothing has been acknowledged with success. -/
structure Plain (env : PortalEnv) (P : Portal) : Prop extends Keyed env P where
  mute : ∀ ack ∈ P.sent, ack.Mute

/-- What has been sent is true. -/
structure Fair (env : PortalEnv) (P : Portal) : Prop extends Keyed env P where
  truthful : P.Truthful

section
variable {env : PortalEnv} {ans : PortalAnswers} {P P' : Portal} {a n : Nat} {s t : PortalSess} {u : UserAddr}
  {ack rsppkt : Ack} {pkt : Packet} {c : AppConn}

theorem tells_of_mute (hm : ack.Mute) (h0 : ack.err_code = 0) : P.Tells ack :=
  ⟨fun ht => absurd ht (hm h0).2.1, fun ht => absurd ht (hm h0).2.2, fun ht => absurd ht (hm h0).1⟩

theorem Plain.fair (h : Plain env P) : Fair env P :=
  ⟨h.toKeyed, fun ack hack h0 => tells_of_mute (h.mute ack hack) h0⟩

/-- One acknowledgement has been sent after what is no success. -/
theorem Plain.fair_send (h : Plain env P') (ack : Ack) (hsent : P.sent = ack :: P'.sent) (hk : Keyed env P)
    (ht : ack.err_code = 0 → P.Tells ack) : Fair env P := by
  refine ⟨hk, fun b hb h0 => ?_⟩
  rw [hsent] at hb
  obtain rfl | hb := List.mem_cons.mp hb
  · exact ht h0
  · exact tells_of_mute (h.mute b hb) h0

theorem Keyed.sub {T : SessTable} (h : Keyed env P) (hT : T.Sound) (hsub : T.Sub P.table) (hdb : P'.db = P.db)
    (htable : P'.table = T) : Keyed env P' :=
  ⟨⟨hdb ▸ h.wf.db, htable ▸ hT⟩, fun n s hs => h.rcvpkt n s (hsub n s (htable ▸ hs))⟩

theorem Keyed.set (h : Keyed env P) (hs : P.table.sess n = some s) (haddr : t.user_addr = s.user_addr)
    (hrcv : t.rcvpkt = s.rcvpkt ∨ rspType t.rcvpkt = ACK_AUTH) :
    Keyed env { P with table := P.table.setSess n t } := by
  refine ⟨⟨h.wf.db, h.wf.table.setSess hs haddr⟩, fun m r hr => ?_⟩
  by_cases hm : m = n
  · subst hm
    simp only [SessTable.setSess, Function.update_self, Option.some.injEq] at hr
    subst hr
    obtain hrcv | hrcv := hrcv
    · exact hrcv ▸ h.rcvpkt m s hs
    · exact .inl hrcv
  · exact h.rcvpkt m r (by simpa [SessTable.setSess, hm] using hr)

theorem Keyed.quiet (h : Keyed env P) (hq : Quiet env.host ans P P') : Keyed env P' :=
  ⟨hq.wf h.wf, fun n s hs => h.rcvpkt n s (hq.calm.sub n s hs)⟩

theorem Plain.quiet (h : Plain env P) (hq : Quiet env.host ans P P') : Plain env P' :=
  ⟨h.toKeyed.quiet hq, fun ack hack => h.mute ack (hq.calm.sent ▸ hack)⟩

theorem Keyed.alike (h : Keyed env P) (ha : Alike P P') : Keyed env P' :=
  h.sub h.wf.table (.refl _) ha.db ha.table

theorem Plain.alike (h : Plain env P) (ha : Alike P P') : Plain env P' :=
  ⟨h.toKeyed.alike ha, fun ack hack => h.mute ack (ha.sent ▸ hack)⟩

theorem Plain.set (h : Plain env P) (hs : P.table.sess n = some s) (haddr : t.user_addr = s.user_addr)
    (hrcv : t.rcvpkt = s.rcvpkt ∨ rspType t.rcvpkt = ACK_AUTH) :
    Plain env { P with table := P.table.setSess n t } := ⟨h.toKeyed.set hs haddr hrcv, h.mute⟩

theorem Plain.new (h : Plain env P) (hno : ∀ m s, P.table.sess m = some s → ¬ u.Meets s.user_addr) :
    Plain env { P with table := P.table.portalSessNew u } := by
  refine ⟨⟨⟨h.wf.db, h.wf.table.new hno⟩, fun m s hs => ?_⟩, h.mute⟩
  rw [SessTable.portalSessNew_eq] at hs
  by_cases hm : m = P.table.brk
  · simp only [hm, Function.update_self, Option.some.injEq] at hs
    exact hs ▸ .inr (show rspType (fun _ => 0) = 0 by decide)
  · exact h.rcvpkt m s (by simpa [hm] using hs)

theorem Plain.send (h : Plain env P) (hm : ack.Mute) : Plain env { P with sent := ack :: P.sent } := by
  refine ⟨h.toKeyed.sub h.wf.table (.refl _) rfl rfl, fun b hb => ?_⟩
  obtain rfl | hb := List.mem_cons.mp hb
  · exact hm
  · exact h.mute b hb

theorem stable_plain (ans : PortalAnswers) : Stable env ans (Plain env) where
  wf h := h.wf
  quiet h hq := h.quiet hq
  same h hs := h.alike hs.toAlike
  set h hs hsame := by
    obtain ⟨haddr, hrcv⟩ := Prod.mk.inj hsame
    exact h.set hs haddr (.inl hrcv)
  new h hno := h.new hno
  send h hm := h.send hm

/-! ## Challenges -/

theorem Plain.fair_mute (h : Plain env P) (hm : ack.Mute) : wlp (Portal.send ack) (fun _ => Fair env) P :=
  wlp_send.mpr (h.send hm).fair

/-- What a rejected request does. -/
theorem Plain.reject (h : Plain env P) (hm : ack.Mute) : ∀ P', Quiet env.host ans P P' →
    wlp (Portal.send ack) (fun _ P'' => P''.Wf env.host ∧ ∀ P₃, Quiet env.host ans P'' P₃ → Fair env P₃) P' := by
  intro P' hq
  have h' := (h.quiet hq).send hm
  exact wlp_send.mpr ⟨h'.wf, fun P₃ h₃ => (h'.quiet h₃).fair⟩

theorem Plain.challengeSess (h : Plain env P) (hs : P.table.sess n = some s)
    (hu : rsppkt.user_addr.Meets s.user_addr ∨ s.user_addr = rsppkt.user_addr)
    (htype : rsppkt.type = ACK_CHALLENGE) :
    wlp (challengeSess ans pkt rsppkt a n) (fun _ => Fair env) P := by
  simp only [Portal.challengeSess, wlp_bind, wlp_sessOf, wlp_accountOf, wlp_get, wlp_ite, hs, Option.some.injEq,
    forall_eq']
  intro c _
  refine ⟨fun _ => h.fair_mute (Ack.mute_of_ne (show CHALLENGE_FAILED ≠ 0 by decide)), fun _ => ?_⟩
  -- what is told is what the session has, or gets
  have htell : ∀ {P' : Portal} {ack : Ack} {t : PortalSess}, P'.table.sess n = some t →
      t.user_addr = s.user_addr → t.status = .SESS_STATUS_CHALLENGED →
      (t.reqid, t.challenge) = (ack.req_id, ack.challenge) →
      (ack.type, ack.user_addr) = (rsppkt.type, rsppkt.user_addr) → P'.Tells ack := by
    intro P' ack t ht haddr hst hsame hack
    obtain ⟨hreqid, hchal⟩ := Prod.mk.inj hsame
    obtain ⟨hat, hau⟩ := Prod.mk.inj hack
    rw [htype] at hat
    refine ⟨fun h1 => ?_, fun h1 => ?_, fun _ => ⟨n, t, ht, ?_, hst, hreqid, hchal⟩⟩
    · rw [hat] at h1
      exact absurd h1 (by decide)
    · rw [hat] at h1
      exact absurd h1 (by decide)
    · rw [hau, haddr]
      exact hu
  have hfresh : wlp (if (P.account a).authed = true then do
        setSess n { s with t_timeout := none }
        Portal.send { rsppkt with err_code := CHALLENGE_CONNECTED }
      else do
        setSess n (P.armed .SESS_CHALLENGED_TIMEOUT P.conf.challenged_timeout
          { s with status := .SESS_STATUS_CHALLENGED, challenge := ans.challenge, reqid := rsppkt.req_id })
        Portal.send { rsppkt with challenge := ans.challenge }) (fun _ => Fair env) P := by
    simp only [wlp_ite, wlp_bind, wlp_setSess]
    have hset : ∀ t : PortalSess, t.user_addr = s.user_addr → t.rcvpkt = s.rcvpkt →
        Plain env { P with table := P.table.setSess n t } := fun t haddr hrcv =>
      h.set hs haddr (.inl hrcv)
    refine ⟨fun _ s₀ _ => ?_, fun _ s₀ _ => ?_⟩
    · have hmute : Ack.Mute { rsppkt with err_code := CHALLENGE_CONNECTED } :=
        Ack.mute_of_ne (show CHALLENGE_CONNECTED ≠ 0 by decide)
      exact (hset { s with t_timeout := none } rfl rfl).fair_mute hmute
    · have h' := hset (P.armed .SESS_CHALLENGED_TIMEOUT P.conf.challenged_timeout
        { s with status := .SESS_STATUS_CHALLENGED, challenge := ans.challenge, reqid := rsppkt.req_id }) rfl rfl
      refine wlp_send.mpr (h'.fair_send _ rfl (h'.toKeyed.sub h'.wf.table (.refl _) rfl rfl) fun _ => ?_)
      exact htell setSess_sess rfl rfl rfl rfl
  have honauth : CHALLENGE_ONAUTH ≠ 0 := by decide
  have hwait : (if (P.account a).authed = true then CHALLENGE_CONNECTED else CHALLENGE_REJECT) ≠ 0 := by
    split <;> decide
  cases hst : s.status with
  | SESS_STATUS_NONE | SESS_STATUS_ON_MACBIND | SESS_STATUS_MACBOUND | SESS_STATUS_LOGOUT_WAIT =>
    rw [hst] at hfresh
    exact hfresh
  | SESS_STATUS_CHALLENGED =>
    refine wlp_send.mpr (h.fair_send _ rfl (h.toKeyed.sub h.wf.table (.refl _) rfl rfl) fun _ => ?_)
    exact htell hs rfl hst rfl rfl
  | SESS_STATUS_ON_CHAPAUTH | SESS_STATUS_ON_PAPAUTH => exact h.fair_mute (Ack.mute_of_ne honauth)
  | SESS_STATUS_AFF_WAIT | SESS_STATUS_NTF_LOGOUT_WAIT => exact h.fair_mute (Ack.mute_of_ne hwait)

/-- The session that a request works in has its address. -/
theorem Plain.reachSess {Q : Option Nat → Portal → Prop} {mem : Bool} (h : Plain env P) (hnone : Q none P)
    (hfound : ∀ n s P', Plain env P' → Alike { P with table := P'.table } P' → P'.table.Sub P.table →
      P'.table.sess n = some s → u.Meets s.user_addr → Q (some n) P')
    (hnew : ∀ n P', Plain env P' → Alike { P with table := P'.table } P' → P'.table.sess n = some { user_addr := u } →
      Q (some n) P') : wlp (reachSess u mem) Q P := by
  refine wlp_reachSess h.wf.table (fun _ _ => hnone) (fun n T hf => ?_) fun _ hno => ?_
  · obtain ⟨⟨s, hs, hm⟩, -⟩ := hf.some n rfl
    exact hfound n s _ ((stable_plain default).fewer h hf.sound hf.sub) (.refl _) hf.sub hs hm
  · exact hnew _ _ (h.new hno) (.refl _) portalSessNew_sess

theorem Plain.challengeProc (h : Plain env P) (hpkt : packetType pkt = REQ_CHALLENGE) :
    wlp (challengeProc env ans pkt) (fun _ => Fair env) P := by
  rw [Portal.challengeProc, wlp_bind, wlp_ask]
  intro u hu
  rw [wlp_bind]
  refine wlp_portalPacketInitRsp fun rsppkt reqid haddr htype _ => ?_
  have h₁ : Plain env { P with prev_reqid := reqid } := (stable_plain ans).aside h
  obtain rfl : u = rsppkt.user_addr := Option.some.inj (hu.symm.trans haddr)
  have htype : rsppkt.type = ACK_CHALLENGE := by rw [htype, rspType, if_pos hpkt]
  have hrej : ∀ ack : Ack, Ack.Mute { ack with err_code := CHALLENGE_REJECT } := fun _ =>
    Ack.mute_of_ne (show CHALLENGE_REJECT ≠ 0 by decide)
  simp only [wlp_bind, wlp_ask, Option.some.injEq, forall_eq']
  rw [wlp_ite]
  refine ⟨fun _ => h₁.fair_mute (hrej _), fun _ => ?_⟩
  refine wlp_serve h₁.wf (fun a P' hq _ _ _ => ?_) (fun P' hq => (h₁.quiet hq).fair) (h₁.reject (hrej _))
  rw [wlp_bind]
  refine wlp_mono (fun _ P' h' => ?_) ((stable_plain ans).configNas P' (h₁.quiet hq))
  rw [wlp_bind]
  refine h'.reachSess (h'.fair_mute (hrej _)) (fun n s P'' h'' _ _ hs hm => ?_) fun n P'' h'' _ hs => ?_
  · exact h''.challengeSess hs (.inl hm) htype
  · exact h''.challengeSess hs (.inr rfl) htype

/-! ## Logins -/

/-- A REQ_AUTH for `u` finds the user authenticated if a session for it waits for an acknowledgement. -/
def LoginHonest (P : Portal) (u : UserAddr) : Prop :=
  ∀ n s, P.table.sess n = some s → u.Meets s.user_addr → s.status = .SESS_STATUS_AFF_WAIT →
    (∃ a c, P.db.conns a = some c ∧ u.Meets c.user_addr) ∧
      ∀ a c, P.db.conns a = some c → u.Meets c.user_addr → (P.account a).authed = true

/-- The user of the address is authenticated. -/
def Present (P : Portal) (u : UserAddr) : Prop :=
  ∃ a c, P.db.conns a = some c ∧ u.Meets c.user_addr ∧ (P.account a).authed = true

theorem Present.tells (h : P.Present ack.user_addr) (ht : ack.type = ACK_AUTH) : P.Tells ack := by
  refine ⟨fun _ => h, fun h1 => ?_, fun h1 => ?_⟩
  · rw [ht] at h1
    exact absurd h1 (by decide)
  · rw [ht] at h1
    exact absurd h1 (by decide)

theorem Plain.refuse (h : Plain env P) : wlp (refuse rsppkt n) (fun _ => Fair env) P := by
  rw [Portal.refuse, wlp_bind, wlp_portalSessFree h.wf.table]
  intro _ _
  have h' := (stable_plain default).fewer h h.wf.table.without (SessTable.without_sub (n := n))
  exact h'.fair_mute (Ack.mute_of_ne (show PORTAL_AUTH_REJECT ≠ 0 by decide))

theorem Plain.startLogin {username : List UInt8} {passwd : Bool} {status : SessStatus} (h : Plain env P)
    (hs : P.table.sess n = some s) (hpkt : packetType pkt = REQ_AUTH) :
    wlp (startLogin env ans pkt rsppkt username passwd status a n) (fun _ => Fair env) P := by
  have hrsp : rspType pkt = ACK_AUTH := by
    rw [rspType, hpkt]
    decide
  refine wlp_startLogin h.wf.table hs (fun P' ha => ?_) fun P' t ha haddr hrcv _ => ?_
  · have h' := (stable_plain default).fewer h h.wf.table.without (SessTable.without_sub (n := n))
    exact ((h'.send (Ack.mute_of_ne (show PORTAL_AUTH_REJECT ≠ 0 by decide))).alike ha).fair
  · exact ((h.set hs haddr (.inr (hrcv ▸ hrsp))).alike ha).fair

/-- A session that waits for an acknowledgement is told that the user is authenticated, which it is. -/
theorem Plain.tell_login (h : Plain env P) (htype : rsppkt.type = ACK_AUTH)
    (hp : P.Present rsppkt.user_addr) : wlp (Portal.send rsppkt) (fun _ => Fair env) P :=
  wlp_send.mpr (h.fair_send _ rfl (h.toKeyed.sub h.wf.table (.refl _) rfl rfl) fun _ =>
    Present.tells hp htype)

theorem Plain.chapauthSess {username : List UInt8} (h : Plain env P) (hs : P.table.sess n = some s)
    (hpkt : packetType pkt = REQ_AUTH) (htype : rsppkt.type = ACK_AUTH)
    (hp : s.status = .SESS_STATUS_AFF_WAIT → P.Present rsppkt.user_addr) :
    wlp (chapauthSess env ans pkt rsppkt username a n) (fun _ => Fair env) P := by
  simp only [Portal.chapauthSess, wlp_bind, wlp_sessOf, wlp_accountOf, hs, Option.some.injEq, forall_eq']
  intro c _
  have hreject : PORTAL_AUTH_REJECT ≠ 0 := by decide
  have honauth : PORTAL_AUTH_ONAUTH ≠ 0 := by decide
  have hif : (if (P.account a).authed = true then PORTAL_AUTH_CONNECTED else PORTAL_AUTH_REJECT) ≠ 0 := by
    split <;> decide
  cases hst : s.status with
  | SESS_STATUS_NONE =>
    dsimp only
    rw [wlp_bind, wlp_portalSessFree h.wf.table]
    intro _ _
    have h' := (stable_plain default).fewer h h.wf.table.without (SessTable.without_sub (n := n))
    exact h'.fair_mute (Ack.mute_of_ne hif)
  | SESS_STATUS_CHALLENGED => exact wlp_ite.mpr ⟨fun _ => h.refuse, fun _ => h.startLogin hs hpkt⟩
  | SESS_STATUS_AFF_WAIT => exact h.tell_login htype (hp hst)
  | SESS_STATUS_ON_MACBIND | SESS_STATUS_MACBOUND | SESS_STATUS_LOGOUT_WAIT =>
    exact h.fair_mute (Ack.mute_of_ne hreject)
  | SESS_STATUS_ON_CHAPAUTH | SESS_STATUS_ON_PAPAUTH => exact h.fair_mute (Ack.mute_of_ne honauth)
  | SESS_STATUS_NTF_LOGOUT_WAIT => exact h.fair_mute (Ack.mute_of_ne hif)

theorem Plain.papauthSess {username : List UInt8} (h : Plain env P) (hs : P.table.sess n = some s)
    (hpkt : packetType pkt = REQ_AUTH) (htype : rsppkt.type = ACK_AUTH)
    (hp : s.status = .SESS_STATUS_AFF_WAIT → P.Present rsppkt.user_addr) :
    wlp (papauthSess env ans pkt rsppkt username a n) (fun _ => Fair env) P := by
  simp only [Portal.papauthSess, wlp_bind, wlp_sessOf, wlp_accountOf, hs, Option.some.injEq, forall_eq']
  intro c _
  have honauth : PORTAL_AUTH_ONAUTH ≠ 0 := by decide
  have hif : (if (P.account a).authed = true then PORTAL_AUTH_CONNECTED else PORTAL_AUTH_REJECT) ≠ 0 := by
    split <;> decide
  have hlogin : wlp (if (P.account a).authed = true then do
        portalSessFree n
        Portal.send { rsppkt with err_code := PORTAL_AUTH_CONNECTED }
      else Portal.startLogin env ans pkt rsppkt username (papPasswd env pkt) .SESS_STATUS_ON_PAPAUTH a n)
      (fun _ => Fair env) P := by
    rw [wlp_ite, wlp_bind, wlp_portalSessFree h.wf.table]
    refine ⟨fun _ _ _ => ?_, fun _ => h.startLogin hs hpkt⟩
    have h' := (stable_plain default).fewer h h.wf.table.without (SessTable.without_sub (n := n))
    exact h'.fair_mute (Ack.mute_of_ne (show PORTAL_AUTH_CONNECTED ≠ 0 by decide))
  cases hst : s.status with
  | SESS_STATUS_NONE | SESS_STATUS_ON_MACBIND | SESS_STATUS_MACBOUND | SESS_STATUS_CHALLENGED
  | SESS_STATUS_LOGOUT_WAIT => exact hlogin
  | SESS_STATUS_AFF_WAIT => exact h.tell_login htype (hp hst)
  | SESS_STATUS_ON_CHAPAUTH | SESS_STATUS_ON_PAPAUTH => exact h.fair_mute (Ack.mute_of_ne honauth)
  | SESS_STATUS_NTF_LOGOUT_WAIT => exact h.fair_mute (Ack.mute_of_ne hif)

/-- A login gets to a session that waits for an acknowledgement only if its user is authenticated. -/
theorem Plain.authProc {nas : Bool} {sess : Ack → List UInt8 → Nat → Nat → PortalM Unit} (h : Plain env P)
    (hpkt : packetType pkt = REQ_AUTH)
    (hok : ∀ u, portalPacketInitIpx env pkt = some u → Passes env P u pkt → LoginHonest P u)
    (hsess : ∀ rsppkt username a n s P', Plain env P' → P'.table.sess n = some s → rsppkt.type = ACK_AUTH →
      (s.status = .SESS_STATUS_AFF_WAIT → P'.Present rsppkt.user_addr) →
      wlp (sess rsppkt username a n) (fun _ => Fair env) P') :
    wlp (authProc env ans pkt nas sess) (fun _ => Fair env) P := by
  rw [Portal.authProc, wlp_bind, wlp_ask]
  intro u hu
  rw [wlp_bind]
  refine wlp_portalPacketInitRsp fun rsppkt reqid haddr htype _ => ?_
  have h₁ : Plain env { P with prev_reqid := reqid } := (stable_plain ans).aside h
  obtain rfl : u = rsppkt.user_addr := Option.some.inj (hu.symm.trans haddr)
  have htype : rsppkt.type = ACK_AUTH := by
    rw [htype, rspType, hpkt]
    decide
  have hrej : ∀ ack : Ack, Ack.Mute { ack with err_code := PORTAL_AUTH_REJECT } := fun _ =>
    Ack.mute_of_ne (show PORTAL_AUTH_REJECT ≠ 0 by decide)
  simp only [wlp_bind, wlp_ask, Option.some.injEq, forall_eq']
  intro username _
  refine wlp_serve h₁.wf (fun a P' hq hr hpass _ => ?_) (fun P' hq => (h₁.quiet hq).fair) (h₁.reject (hrej _))
  -- the user of a session that waits was authenticated before, and still is
  have hpresent : ∀ n s, P'.table.sess n = some s → rsppkt.user_addr.Meets s.user_addr →
      s.status = .SESS_STATUS_AFF_WAIT → P'.Present rsppkt.user_addr := by
    intro n s hs hm hst
    obtain ⟨⟨b, d, hd, hmd⟩, hall⟩ := hok _ hu hpass n s (hq.calm.sub n s hs) hm hst
    obtain ⟨c, hc, hmc, hc', hacc⟩ | ⟨-, -, hno⟩ := hr.conn
    · exact ⟨a, c, hc', hmc, by rw [hacc]; exact hall a c hc hmc⟩
    · exact absurd hmd (hno b d hd)
  rw [wlp_bind]
  refine wlp_mono (fun _ P₂ hnas => ?_) wlp_nas
  have h' := (h₁.quiet hq).alike hnas
  have hpresent : ∀ n s, P₂.table.sess n = some s → rsppkt.user_addr.Meets s.user_addr →
      s.status = .SESS_STATUS_AFF_WAIT → P₂.Present rsppkt.user_addr := by
    intro n s hs hm hst
    obtain ⟨b, d, hd, hmd, hauth⟩ := hpresent n s (by rwa [← hnas.table]) hm hst
    exact ⟨b, d, by rwa [hnas.db], hmd, (hnas.authed b).trans hauth⟩
  cases ans.portal_srv with
  | none => exact h'.fair_mute (hrej _)
  | some srv =>
    simp only [appconnConfigPortalsrv, wlp_bind, wlp_setAccount]
    intro c _
    have halike := (Alike.refl P₂).setAccount (a := a)
      (f := fun x => { x with secret := srv.secret, domain_name := srv.domain }) rfl
    have h₂ := h'.alike halike
    refine h₂.reachSess (h₂.fair_mute (hrej _)) (fun n s P₃ h₃ ha hsub hs hm => ?_) fun n P₃ h₃ _ hs => ?_
    · simp only [wlp_bind, wlp_sessOf, wlp_setSess, hs, Option.some.injEq, forall_eq']
      have h₄ := h₃.set hs (t := { s with username := username }) rfl (.inl rfl)
      refine hsess _ _ _ n { s with username := username } _ h₄ setSess_sess htype fun hst => ?_
      obtain ⟨b, d, hd, hmd, hauth⟩ := hpresent n s (hsub n s hs) hm hst
      refine ⟨b, d, ?_, hmd, ?_⟩
      · rw [show P₃.db = P₂.db from ha.db]
        exact hd
      · rw [show (P₃.account b).authed = _ from (ha.authed b).trans (halike.authed b)]
        exact hauth
    · simp only [wlp_bind, wlp_sessOf, wlp_setSess, hs, Option.some.injEq, forall_eq']
      have h₄ := h₃.set hs (t := { user_addr := rsppkt.user_addr, username := username }) rfl (.inl rfl)
      exact hsess _ _ _ n _ _ h₄ setSess_sess htype fun hst => by cases hst

/-! ## Logouts -/

/-- A REQ_LOGOUT for `u` finds nobody who is authenticated, or it finds the one user of the address: it has no
`rsv`, and it is not a repeated one. -/
def LogoutHonest (P : Portal) (u : UserAddr) (rsv : UInt8) : Prop :=
  (∀ a c, P.db.conns a = some c → u.Meets c.user_addr → (P.account a).authed = false) ∨
    (rsv = 0 ∧ P.OneEach u ∧
      ∀ n s, P.table.sess n = some s → u.Meets s.user_addr → s.status ≠ .SESS_STATUS_LOGOUT_WAIT)

/-- No user of the address is authenticated but the one of the connection `x`. -/
def AbsentBut (x : Option Nat) (P : Portal) (u : UserAddr) : Prop :=
  ∀ a c, P.db.conns a = some c → u.Meets c.user_addr → x ≠ some a → (P.account a).authed = false

theorem AbsentBut.tells (h : AbsentBut none P ack.user_addr) (ht : ack.type = ACK_LOGOUT) : P.Tells ack := by
  refine ⟨fun h1 => ?_, fun _ a c hc hm => h a c hc hm (by simp), fun h1 => ?_⟩
  · rw [ht] at h1
    exact absurd h1 (by decide)
  · rw [ht] at h1
    exact absurd h1 (by decide)

theorem Plain.logoutSess (h : Plain env P) (hs : P.table.sess n = some s) (htype : rsppkt.type = ACK_LOGOUT)
    (habsent : AbsentBut (some a) P rsppkt.user_addr)
    (hok : packetRsv pkt ≠ 0 ∨ s.status = .SESS_STATUS_LOGOUT_WAIT → AbsentBut none P rsppkt.user_addr) :
    wlp (logoutSess ans pkt rsppkt a n) (fun _ => Fair env) P := by
  simp only [Portal.logoutSess, wlp_bind, wlp_sessOf, wlp_accountOf, wlp_ite, hs, Option.some.injEq, forall_eq']
  intro c hc
  have htell : AbsentBut none P rsppkt.user_addr → wlp (Portal.send rsppkt) (fun _ => Fair env) P := fun hno =>
    wlp_send.mpr (h.fair_send _ rfl (h.toKeyed.sub h.wf.table (.refl _) rfl rfl) fun _ =>
      AbsentBut.tells hno htype)
  refine ⟨fun hrsv => htell (hok (.inl (by simpa using hrsv))), fun _ => ?_⟩
  have hreject : EC_ACK_LOGOUT_REJECT ≠ 0 := by decide
  have hfailed : EC_ACK_LOGOUT_FAILED ≠ 0 := by decide
  have hend : wlp (if (P.account a).authed = true then do
        Portal.send rsppkt
        terminateAppconn ans a
        let P ← get
        setSess n (P.armed .SESS_LOGOUT_WAIT_TIMEOUT P.conf.logout_wait_timeout
          { s with status := .SESS_STATUS_LOGOUT_WAIT })
      else do
        portalSessFree n
        Portal.send { rsppkt with err_code := EC_ACK_LOGOUT_REJECT } : PortalM Unit) (fun _ => Fair env) P := by
    simp only [wlp_ite, wlp_bind, wlp_send]
    refine ⟨fun hauth => ?_, fun _ => ?_⟩
    · have hsent : Keyed env { P with sent := rsppkt :: P.sent } := h.toKeyed.sub h.wf.table (.refl _) rfl rfl
      refine (wlp_terminateAppconn hsent.wf.db).mpr fun d hd => ?_
      simp only [wlp_get, wlp_setSess]
      intro s₀ hs₀
      have hk := hsent.quiet (@Quiet.terminate _ ans _ _ _ _ true .refl hd hauth)
      have hold : s₀ = s := by simpa [terminated, hs] using hs₀.symm
      subst hold
      refine h.fair_send rsppkt (acctAsked_rest (P := { P with sent := rsppkt :: P.sent })).1
        (hk.set hs₀ rfl (.inl rfl)) fun _ => AbsentBut.tells (fun b e he hm _ => ?_) htype
      -- the connection is gone, and nobody else was authenticated
      have hba : b ≠ a := by
        rintro rfl
        simp [terminated, AppDb.without] at he
      have hb := habsent b e (by simpa [terminated, AppDb.without, hba] using he) hm
        fun hab => hba (Option.some.inj hab).symm
      simpa [terminated, hba] using hb
    · refine (wlp_portalSessFree h.wf.table).mpr fun _ _ => ?_
      have h' := (stable_plain default).fewer h h.wf.table.without (SessTable.without_sub (n := n))
      exact (h'.send (Ack.mute_of_ne hreject)).fair
  cases hst : s.status with
  | SESS_STATUS_NONE => exact hend
  | SESS_STATUS_AFF_WAIT => exact hend
  | SESS_STATUS_LOGOUT_WAIT => exact htell (hok (.inr hst))
  | SESS_STATUS_ON_MACBIND | SESS_STATUS_MACBOUND | SESS_STATUS_ON_CHAPAUTH | SESS_STATUS_ON_PAPAUTH
  | SESS_STATUS_NTF_LOGOUT_WAIT => exact h.fair_mute (Ack.mute_of_ne hreject)
  | SESS_STATUS_CHALLENGED => exact h.fair_mute (Ack.mute_of_ne hfailed)

theorem AbsentBut.alike {x : Option Nat} (h : AbsentBut x P u) (hdb : P'.db = P.db)
    (hauth : ∀ a, (P'.account a).authed = (P.account a).authed) : AbsentBut x P' u :=
  fun b c hc hm hx => (hauth b).trans (h b c (hdb ▸ hc) hm hx)

/-- Who is not authenticated is not on the way to a connection either. -/
theorem Quiet.absent (hq : Quiet env.host ans P P')
    (h : ∀ a c, P.db.conns a = some c → u.Meets c.user_addr → (P.account a).authed = false) :
    AbsentBut none P' u := by
  intro b c hc hm _
  obtain ⟨hold, hacc⟩ | ⟨-, hacc⟩ := hq.calm.conn b c hc
  · rw [hacc]
    exact h b c hold hm
  · rw [hacc]

theorem Plain.logoutProc (h : Plain env P) (hpkt : packetType pkt = REQ_LOGOUT)
    (hok : ∀ u, portalPacketInitIpx env pkt = some u → Passes env P u pkt → LogoutHonest P u (packetRsv pkt)) :
    wlp (logoutProc env ans pkt) (fun _ => Fair env) P := by
  rw [Portal.logoutProc, wlp_bind, wlp_ask]
  intro u hu
  rw [wlp_bind]
  refine wlp_portalPacketInitRsp fun rsppkt reqid haddr htype _ => ?_
  have h₁ : Plain env { P with prev_reqid := reqid } := (stable_plain ans).aside h
  obtain rfl : u = rsppkt.user_addr := Option.some.inj (hu.symm.trans haddr)
  have htype : rsppkt.type = ACK_LOGOUT := by
    rw [htype, rspType, hpkt]
    decide
  have hrej : Ack.Mute { rsppkt with err_code := EC_ACK_LOGOUT_REJECT } :=
    Ack.mute_of_ne (show EC_ACK_LOGOUT_REJECT ≠ 0 by decide)
  refine wlp_serve h₁.wf (fun a P' hq hr hpass _ => ?_) (fun P' hq => (h₁.quiet hq).fair) (h₁.reject hrej)
  have h' := h₁.quiet hq
  have habsent : AbsentBut (some a) P' rsppkt.user_addr := by
    obtain hno | ⟨-, hone, -⟩ := hok _ hu hpass
    · exact fun b c hc hm _ => hq.absent hno b c hc hm (by simp)
    · exact fun b c hc hm hb => absurd (congrArg some (hr.rest hone b c hc hm).symm) hb
  rw [wlp_bind]
  refine h'.reachSess (h'.fair_mute hrej) (fun n s P₃ h₃ ha hsub hs hm => ?_) fun n P₃ h₃ ha hs => ?_
  · refine h₃.logoutSess hs htype (habsent.alike ha.db ha.authed) fun hbad => ?_
    obtain hno | ⟨hrsv, -, hwait⟩ := hok _ hu hpass
    · exact (hq.absent hno).alike ha.db ha.authed
    · exact hbad.elim (fun hne => absurd hrsv hne) fun hst =>
        absurd hst (hwait n s (hq.calm.sub n s (hsub n s hs)) hm)
  · refine h₃.logoutSess hs htype (habsent.alike ha.db ha.authed) fun hbad => ?_
    obtain hno | ⟨hrsv, -, -⟩ := hok _ hu hpass
    · exact (hq.absent hno).alike ha.db ha.authed
    · exact hbad.elim (fun hne => absurd hrsv hne) fun hst => by cases hst

/-! ## Replies and timers -/

/-- What the session of a user that waits for the RADIUS server keeps is a request for an address of the user. -/
def AcceptHonest (env : PortalEnv) (P : Portal) (u : UserAddr) : Prop :=
  ∀ a c n s, P.db.conns a = some c → u.Meets c.user_addr → P.table.sess n = some s →
    c.user_addr.Meets s.user_addr → s.onAuth → packetType s.rcvpkt = REQ_AUTH →
    ∀ v, portalPacketInitIpx env s.rcvpkt = some v → v.Meets c.user_addr

theorem Plain.authSuccess {req : RadiusReq} (h : Plain env P) (hc : P.db.conns a = some c)
    (hok : ∀ n s, P.table.sess n = some s → c.user_addr.Meets s.user_addr → s.onAuth →
      packetType s.rcvpkt = REQ_AUTH → ∀ v, portalPacketInitIpx env s.rcvpkt = some v → v.Meets c.user_addr) :
    wlp (authSuccess env ans req a) (fun _ => Fair env) P := by
  simp only [Portal.authSuccess, wlp_bind, wlp_connOf, hc, Option.some.injEq, forall_eq']
  refine wlp_findSess h.wf.table fun r T hf => ?_
  have h₁ := (stable_plain default).fewer h hf.sound hf.sub
  cases r with
  | none => exact wlp_pure.mpr h₁.fair
  | some n =>
    obtain ⟨⟨s, hs, hm⟩, -⟩ := hf.some n rfl
    simp only [wlp_bind, wlp_sessOf, wlp_ite, wlp_pure, hs, Option.some.injEq, forall_eq']
    refine ⟨fun hauth => ?_, fun _ => h₁.fair⟩
    refine wlp_authorize fun rsppkt reqid d hu ht _ hd => ?_
    have htype : rsppkt.type = ACK_AUTH := by
      rw [ht, rspType, hauth.2]
      decide
    refine h₁.fair_send rsppkt acctAsked_rest.1 ?_ fun _ => Present.tells ?_ htype
    · have hk := h₁.toKeyed.set hs (t := P.armed .SESS_AFF_WAIT_TIMEOUT P.conf.retry_interval
        { s with status := .SESS_STATUS_AFF_WAIT, retry_count := 0 }) rfl (.inl rfl)
      exact hk.sub hk.wf.table (.refl _) acctAsked_db acctAsked_table
    · refine ⟨a, c, ?_, hok n s (hf.sub n s hs) hm hauth.1 hauth.2 _ hu, ?_⟩
      · rw [admitted, acctAsked_db]
        exact hc
      · rw [admitted, acctAsked_account]
        simp

theorem Plain.accessAcceptProc {req : RadiusReq} (h : Plain env P) (hok : AcceptHonest env P u) :
    wlp (accessAcceptProc env ans u req) (fun _ => Fair env) P := by
  have hreject : PORTAL_AUTH_REJECT ≠ 0 := by decide
  have hfail : ∀ {P'}, Plain env P' →
      wlp (authFailure env ans u PORTAL_AUTH_REJECT) (fun _ => Fair env) P' := fun h' =>
    wlp_mono (fun _ _ => Plain.fair) ((stable_plain _).authFailure ((stable_plain ans).sendErr hreject) _ h')
  rw [Portal.accessAcceptProc, wlp_bind]
  refine wlp_appconnFindByUseripx h.wf fun r P' hq hsought => ?_
  have h' := h.quiet hq
  cases r with
  | none => exact hfail h'
  | some a =>
    obtain ⟨c, hc, hm, hc', -⟩ := hsought.found a rfl
    simp only [wlp_bind, wlp_accountOf, wlp_ite, wlp_setAccount]
    refine fun d _ => ⟨fun _ e _ => ?_, fun _ => hfail h'⟩
    have halike := (Alike.refl P').setAccount (a := a) (f := fun x => { x with on_auth := false }) rfl
    exact (h'.alike halike).authSuccess hc' fun n s hs => hok a c n s hc hm (hq.calm.sub n s hs)

theorem Plain.sockradiusReceive {k nbyte : Nat} {packet : Packet} {radius_ip : UInt32} {radius_port : UInt16}
    {err_code : UInt8} (h : Plain env P)
    (hok : ∀ r, P.radius.answeredId env.md5 k packet nbyte radius_ip radius_port = some r →
      (packet 0 = RADIUS_CODE_ACCESS_ACCEPT → AcceptHonest env P r.user_addr) ∧
      (packet 0 = RADIUS_CODE_ACCESS_REJECT → err_code ≠ 0)) :
    wlp (sockradiusReceive env ans k packet nbyte radius_ip radius_port err_code) (fun _ => Fair env) P := by
  rw [Portal.sockradiusReceive, wlp_bind, wlp_get]
  cases hr : P.radius.answeredId env.md5 k packet nbyte radius_ip radius_port with
  | none => exact wlp_pure.mpr h.fair
  | some r =>
    simp only [wlp_bind, wlp_modify, wlp_ite, wlp_pure]
    have h₁ : Plain env { P with radius := P.radius.answer env.md5 k packet r } :=
      (stable_plain ans).aside h
    refine ⟨fun hacc => h₁.accessAcceptProc ((hok r hr).1 hacc), fun _ => ⟨fun hrej => ?_, fun _ => ?_⟩⟩
    · have hsend : ∀ ack : Ack, Keeps (Plain env) (Portal.send { ack with err_code := err_code }) :=
        (stable_plain ans).sendErr ((hok r hr).2 hrej)
      exact wlp_mono (fun _ _ => Plain.fair) ((stable_plain ans).accessRejectProc hsend _ h₁)
    · exact wlp_appconnFindByUseripx h₁.wf fun _ P' hq _ => (h₁.quiet hq).fair

/-- The user whose session tells once more that he is authenticated is so, and nobody else has an address of
the session. -/
def RetryHonest (env : PortalEnv) (P : Portal) (s : PortalSess) : Prop :=
  packetType s.rcvpkt = REQ_AUTH → P.Alone s.user_addr ∧
    ∀ v, portalPacketInitIpx env s.rcvpkt = some v → P.Present v

theorem rspType_auth (h : rspType pkt = ACK_AUTH) : packetType pkt = REQ_AUTH := by
  unfold rspType at h
  split at h
  · exact absurd h (by decide)
  · split at h
    · assumption
    · split at h
      · exact absurd h (by decide)
      · split at h
        · exact absurd h (by decide)
        · exact absurd h (by decide)

theorem Plain.affWaitTimeout (h : Plain env P) (hs : P.table.sess n = some s)
    (hok : s.retry_count < P.conf.retry_times → RetryHonest env P s) :
    wlp (affWaitTimeout env ans n) (fun _ => Fair env) P := by
  simp only [Portal.affWaitTimeout, wlp_bind, wlp_sessOf, wlp_setSess, wlp_get, wlp_ite, hs, Option.some.injEq,
    forall_eq']
  have h₁ := h.set hs (t := fired s) rfl (.inl rfl)
  refine ⟨fun hlt => ?_, fun _ => wlp_mono (fun _ _ => Plain.fair) ((stable_plain ans).free _ h₁)⟩
  refine wlp_portalPacketInitRsp fun rsppkt reqid hu ht _ => ?_
  have h₂ : Plain env { P with table := P.table.setSess n (fired s), prev_reqid := reqid } :=
    (stable_plain ans).aside h₁
  refine wlp_appconnFindByUseripx h₂.wf fun r P' hq hsought => ?_
  have h' := h₂.quiet hq
  simp only [wlp_send]
  intro s₀ hs₀
  have hold : s₀ = fired s := by simpa [SessTable.setSess] using (hq.calm.sub n s₀ hs₀).symm
  have hk : Keyed env { P' with sent := rsppkt :: P'.sent } := h'.toKeyed.sub h'.wf.table (.refl _) rfl rfl
  refine h'.fair_send rsppkt rfl (hk.set hs₀ (by rw [hold]; rfl) (.inl (by rw [hold]; rfl))) fun h0 => ?_
  have htype : rsppkt.type = rspType s.rcvpkt := ht
  obtain hauth | hzero := h.rcvpkt n s hs
  · obtain ⟨halone, hpresent⟩ := hok hlt (rspType_auth hauth)
    have hp := hpresent _ hu
    obtain rfl := hsought.alone halone
    exact Present.tells hp (htype.trans hauth)
  · refine tells_of_mute (fun _ => ?_) h0
    rw [htype, hzero]
    decide

/-- A connection is terminated, whatever its state is. -/
theorem Keyed.terminate (h : Keyed env P) : Keyed env (P.terminated ans a true c) := by
  refine ⟨⟨h.wf.db.without, ?_⟩, ?_⟩
  · simpa [terminated] using h.wf.table
  · simpa [terminated] using h.rcvpkt

theorem Plain.ntfLogoutWaitTimeout (h : Plain env P) :
    wlp (ntfLogoutWaitTimeout ans n) (fun _ => Fair env) P := by
  simp only [Portal.ntfLogoutWaitTimeout, wlp_bind, wlp_sessOf, wlp_setSess]
  intro s hs _ _
  have h₁ := h.set hs (t := fired s) rfl (.inl rfl)
  have hfree : ∀ {P'}, Plain env P' → wlp (portalSessFree n) (fun _ => Fair env) P' := fun h' =>
    wlp_mono (fun _ _ => Plain.fair) ((stable_plain ans).free _ h')
  refine wlp_appconnFindByUseripx h₁.wf fun r P' hq _ => ?_
  have h' := h₁.quiet hq
  cases r with
  | none => exact hfree h'
  | some a =>
    simp only [wlp_bind, wlp_get, wlp_ite, wlp_setSess, wlp_setAccount]
    refine ⟨fun _ s₀ hs₀ => ?_, fun _ c _ => ?_⟩
    · have hold : s₀ = fired s := by simpa [SessTable.setSess] using (hq.calm.sub n s₀ hs₀).symm
      exact (h'.set hs₀ (by rw [hold]; rfl) (.inl (by rw [hold]; rfl))).fair
    · have halike := (Alike.refl P').setAccount (a := a) (f := fun x => { x with on_ntf_logout := false }) rfl
      have h₂ := h'.alike halike
      refine (wlp_terminateAppconn h₂.wf.db).mpr fun e _ => hfree ⟨h₂.toKeyed.terminate, ?_⟩
      intro ack hack
      exact h₂.mute ack (acctAsked_rest.1 ▸ hack)

/-- The timer of a session fires. -/
theorem Plain.sessTimeout (h : Plain env P)
    (hok : ∀ s due, P.table.sess n = some s → s.t_timeout = some (.SESS_AFF_WAIT_TIMEOUT, due) →
      due ≤ P.radius.now → s.retry_count < P.conf.retry_times → RetryHonest env P s) :
    wlp (sessTimeout env ans n) (fun _ => Fair env) P := by
  have hfair : ∀ {m : PortalM Unit}, Keeps (Plain env) m → wlp m (fun _ => Fair env) P := fun hm =>
    wlp_mono (fun _ _ => Plain.fair) (hm P h)
  rw [Portal.sessTimeout, wlp_bind, wlp_get]
  cases hs : P.table.sess n with
  | none => exact wlp_pure.mpr h.fair
  | some s =>
    cases htime : s.t_timeout with
    | none =>
      simp only [Option.bind_some, htime]
      exact wlp_pure.mpr h.fair
    | some x =>
      obtain ⟨timer, due⟩ := x
      simp only [Option.bind_some, htime, wlp_ite]
      refine ⟨fun _ => wlp_pure.mpr h.fair, fun hdue => ?_⟩
      cases timer with
      | SESS_ONMACBIND_TIMEOUT => exact hfair (stable_plain _).onmacbindTimeout
      | SESS_MACBOUND_TIMEOUT | SESS_CHALLENGED_TIMEOUT | SESS_LOGOUT_WAIT_TIMEOUT =>
        exact hfair ((stable_plain ans).free)
      | SESS_ONAUTH_TIMEOUT => exact hfair (stable_plain _).onauthTimeout
      | SESS_AFF_WAIT_TIMEOUT => exact h.affWaitTimeout hs (hok s due hs htime (Int.not_lt.mp hdue))
      | SESS_NTF_LOGOUT_WAIT_TIMEOUT => exact h.ntfLogoutWaitTimeout

/-- The packets of the portal server. -/
theorem Plain.portalProcPacket (h : Plain env P)
    (hlogin : packetType pkt = REQ_AUTH → ∀ u, portalPacketInitIpx env pkt = some u → Passes env P u pkt →
      LoginHonest P u)
    (hlogout : packetType pkt = REQ_LOGOUT → packetErrCode pkt = 0 → ∀ u, portalPacketInitIpx env pkt = some u →
      Passes env P u pkt → LogoutHonest P u (packetRsv pkt)) :
    wlp (portalProcPacket env ans pkt) (fun _ => Fair env) P := by
  have hfair : ∀ {m : PortalM Unit}, Keeps (Plain env) m → wlp m (fun _ => Fair env) P := fun hm =>
    wlp_mono (fun _ _ => Plain.fair) (hm P h)
  simp only [Portal.portalProcPacket, wlp_bind, wlp_ask, wlp_ite, wlp_pure]
  intro _ _
  refine ⟨fun h1 => h.challengeProc h1, fun _ => ⟨fun h3 => ⟨fun _ => ?_, fun _ => ⟨fun _ => ?_, fun _ => h.fair⟩⟩,
    fun _ => ⟨fun h5 => ⟨fun he => h.logoutProc h5 (hlogout h5 he), fun _ => ⟨fun _ => ?_, fun _ => h.fair⟩⟩,
    fun _ => ⟨fun _ => ?_, fun _ => ⟨fun _ => ?_, fun _ => ⟨fun h9 => hfair ((stable_plain ans).reqinfoProc h9),
    fun _ => ⟨fun _ => ?_, fun _ => ⟨fun _ => ?_, fun _ => h.fair⟩⟩⟩⟩⟩⟩⟩⟩
  · exact h.authProc h3 (hlogin h3) fun _ _ _ _ _ _ h' hs ht hp => h'.chapauthSess hs h3 ht hp
  · exact h.authProc h3 (hlogin h3) fun _ _ _ _ _ _ h' hs ht hp => h'.papauthSess hs h3 ht hp
  · exact hfair (Keeps.ask.bind fun _ => ((stable_plain ans).find).bind fun _ => Keeps.pure)
  · exact hfair ((stable_plain ans).acknowledged fun _ _ => (stable_plain _).ackLogoutSess)
  · exact hfair ((stable_plain ans).acknowledged fun _ _ => (stable_plain ans).affAckAuthSess)
  · exact hfair ((stable_plain ans).acknowledged fun _ _ => (stable_plain ans).ackMacbindSess)
  · exact wlp_userOfflineProc h.wf fun P' hq => (h.quiet hq).fair

end

end Portal

namespace PortalOp

open Portal

/-- What the step tells the portal server is true. -/
def Honest (env : PortalEnv) (P : Portal) : PortalOp → Prop
  | receive _ pkt nbyte => P.started = true → portalAccepts env pkt nbyte →
    ∀ u, portalPacketInitIpx env pkt = some u → Passes env P u pkt →
      (packetType pkt = REQ_AUTH → LoginHonest P u) ∧
      (packetType pkt = REQ_LOGOUT → packetErrCode pkt = 0 → LogoutHonest P u (packetRsv pkt))
  | reply _ k packet nbyte radius_ip radius_port err_code =>
    ∀ r, P.radius.answeredId env.md5 k packet nbyte radius_ip radius_port = some r →
      (packet 0 = RADIUS_CODE_ACCESS_ACCEPT → AcceptHonest env P r.user_addr) ∧
      (packet 0 = RADIUS_CODE_ACCESS_REJECT → err_code ≠ 0)
  | sessTimer _ n => ∀ s due, P.table.sess n = some s → s.t_timeout = some (.SESS_AFF_WAIT_TIMEOUT, due) →
    due ≤ P.radius.now → s.retry_count < P.conf.retry_times → RetryHonest env P s
  | _ => True

section
variable {env : PortalEnv} {P P' : Portal} {op : PortalOp}

theorem honest_step (h : Fair env P) (hc : op.Honest env P) (hstep : op.step env P = some P') : Fair env P' := by
  have h₀ : Plain env { P with sent := [] } :=
    ⟨h.toKeyed.sub h.wf.table (.refl _) rfl rfl, fun ack hack => by cases hack⟩
  have hfair : ∀ {m : PortalM Unit}, Keeps (Plain env) m → wlp m (fun _ => Fair env) { P with sent := [] } :=
    fun hm => wlp_mono (fun _ _ => Plain.fair) (hm _ h₀)
  refine step_eq (Q := fun _ => Fair env) hstep ?_
  cases op with
  | receive ans pkt nbyte =>
    simp only [prog, portalReceive, wlp_bind, wlp_ask, wlp_ite, wlp_pure, Option.some.injEq, forall_eq']
    refine ⟨fun hacc => ?_, fun _ => h₀.fair⟩
    have hc := hc (by simpa using hacc.1) hacc.2.1
    exact h₀.portalProcPacket (fun ht u hu hp => (hc u hu hp).1 ht) fun ht he u hu hp => (hc u hu hp).2 ht he
  | reply ans k packet nbyte radius_ip radius_port err_code => exact h₀.sockradiusReceive hc
  | sessTimer ans n => exact h₀.sessTimeout hc
  | idTimer ans k i => exact hfair ((stable_plain ans).idTimeout)
  | dmRequest ans a => exact hfair ((stable_plain ans).procDmRequest)
  | logoutUser ans a again => exact hfair ((stable_plain ans).logoutUser)
  | macbindReq ans a => exact hfair ((stable_plain ans).macbindReq)
  | createBySta ans u => exact hfair ((stable_plain ans).createBySta)
  | ipxUpdate a u =>
    exact wlp_modify.mpr (Plain.fair ⟨⟨⟨h₀.wf.db.ipxUpdate, h₀.wf.table⟩, h₀.rcvpkt⟩, h₀.mute⟩)
  | cleanConflict ans a => exact wlp_appconnCleanConflict h₀.wf fun P' hq _ _ => (h₀.quiet hq).fair
  | leave ans a => exact wlp_leave h₀.wf fun P' hq => (h₀.quiet hq).fair
  | idle a => exact @Portal.wlp_idle _ _ default _ h₀.wf _ fun P' hq => (h₀.quiet hq).fair
  | interfaceDown ans p => exact wlp_terminateAppconnAll h₀.wf fun P' hq => (h₀.quiet hq).fair
  | stop ans => exact hfair ((stable_plain ans).insStop)
  | configPortalsrv a srv => exact hfair ((stable_plain default).configPortalsrv)
  | start | setRetryParams | configure | tick =>
    exact wlp_modify.mpr ((stable_plain default).aside h₀).fair

/-- In every run whose steps are honest, what the portal server is told is true. -/
theorem acks_truthful (env : PortalEnv) (hash_num : UInt32) (retry_interval retry_times vice_retry_times now : Int)
    (ops : List PortalOp) (P : Portal)
    (hobeys : TryObeys (step env) (fun P op => op.Honest env P)
      (Portal.create hash_num retry_interval retry_times vice_retry_times now) ops)
    (hrun : tryRun (step env) (Portal.create hash_num retry_interval retry_times vice_retry_times now) ops =
      some P) : P.Truthful := by
  have hstart : Fair env (Portal.create hash_num retry_interval retry_times vice_retry_times now) := by
    refine ⟨⟨⟨AppDb.indexed_create _ _, SessTable.sound_empty⟩, fun n s hs => ?_⟩, fun ack hack => ?_⟩
    · cases hs
    · cases hack
  exact (hobeys.reach_inv (I := Fair env) (fun P op P' h hc hstep => honest_step h hc hstep) hstart hrun).truthful

end

/-! ## Runs -/

/-- REQ_AUTH of the user 0.0.0.5, with a name and a password for PAP. -/
def sampleLogin : Packet := octets [1, 3, 1, 0, 0, 0, 0, 0, 0, 0, 0, 5, 0, 0, 0, 2, 1, 3, 97, 2, 3, 112]

/-- The Access-Accept that answers the first request. -/
def sampleAccept : Packet := octets [2, 0, 0, 20]

/-- REQ_LOGOUT of the user 0.0.0.5. -/
def sampleLogout (rsv : UInt8) : Packet := octets [1, 5, 0, rsv, 0, 0, 0, 0, 0, 0, 0, 5, 0, 0, 0, 0]

/-- The user is let in. -/
def sampleAccepted : List PortalOp :=
  [.configure { radiusconf := [⟨[], false, {}⟩] }, .receive sampleAnswers sampleLogin 22,
    .reply sampleAnswers 0 sampleAccept 20 0 0 1]

theorem acks_truthful_challenge : ∃ P, tryRun (step sampleEnv) (Portal.create 4 3 0 0 0)
    [.receive sampleAnswers (sampleChallenge 0) 16] = some P ∧
    (P.sent.map fun ack => (ack.type, ack.err_code)) = [(ACK_CHALLENGE, 0)] ∧ P.Truthful := by
  have hsome : (tryRun (step sampleEnv) (Portal.create 4 3 0 0 0)
      [.receive sampleAnswers (sampleChallenge 0) 16]).any (fun P =>
        (P.sent.map fun ack => (ack.type, ack.err_code)) = [(ACK_CHALLENGE, 0)]) = true := by
    decide +kernel
  obtain ⟨P, hrun, hsent⟩ := (Option.any_eq_true _ _).mp hsome
  have hobeys : TryObeys (step sampleEnv) (fun P op => op.Honest sampleEnv P) (Portal.create 4 3 0 0 0)
      [.receive sampleAnswers (sampleChallenge 0) 16] :=
    ⟨fun _ _ u _ _ => ⟨fun ht => absurd ht (by decide), fun ht => absurd ht (by decide)⟩, fun _ _ => trivial⟩
  exact ⟨P, hrun, of_decide_eq_true hsent, acks_truthful sampleEnv 4 3 0 0 0 _ P hobeys hrun⟩

/-- A REQ_LOGOUT with `rsv` is told that the user is logged out, and nothing else is done. -/
theorem logout_rsv_untrue : ¬ ∀ ops P, tryRun (step sampleEnv) (Portal.create 4 3 0 0 0) ops = some P →
    P.Truthful := by
  intro h
  have hbad : (tryRun (step sampleEnv) (Portal.create 4 3 0 0 0)
      (sampleAccepted ++ [.receive sampleAnswers (sampleLogout 1) 16])).any (fun P =>
        P.sent.any fun ack => ack.type = ACK_LOGOUT ∧ ack.err_code = 0 ∧ (P.account 0).authed = true ∧
          (P.db.conns 0).any fun c => ack.user_addr.Meets c.user_addr) = true := by
    decide +kernel
  obtain ⟨P, hrun, hany⟩ := (Option.any_eq_true _ _).mp hbad
  obtain ⟨ack, hack, hsays⟩ := List.any_eq_true.mp hany
  obtain ⟨htype, herr, hauth, hconn⟩ := of_decide_eq_true hsays
  obtain ⟨c, hc, hm⟩ := (Option.any_eq_true _ _).mp hconn
  have hno := (h _ P hrun ack hack herr).logout htype 0 c hc (of_decide_eq_true hm)
  rw [hauth] at hno
  cases hno

end PortalOp

end Eag
end DaemonGroup
