import DaemonGroup.Eag.PortalSpec

/-!
# DaemonGroup.Eag.PortalTimers

Every session of the portal has the timer of its status armed, the tables of the sessions are in order, and
so every session is freed by its own timer, in every run in which each challenge and each logout request
finds what it needs (`PortalOp.Settles`). A REQ_CHALLENGE or a REQ_LOGOUT with `rsv` that makes a session leaves
it without a timer, and so does a REQ_CHALLENGE of a user who is authenticated.

* `Timed env x P` — all sessions but `x` have their timer. A handler works on one session at a time; the others
  stay as they are or are freed.
-/

namespace DaemonGroup
namespace Eag

open Lib Bytes

namespace UserAddr

theorem Meets.known {u v : UserAddr} (hm : u.Meets v) : u.Known := by
  obtain ⟨h4 | hmix, -, -⟩ | ⟨h6 | hmix, -, -⟩ := hm
  · exact .inl h4
  · exact .inr (.inr hmix)
  · exact .inr (.inl h6)
  · exact .inr (.inr hmix)

theorem Known.meets_self {u : UserAddr} (hu : u.Known) : u.Meets u := by
  obtain h4 | h6 | hmix := hu
  · exact .inl ⟨.inl h4, .inl h4, rfl⟩
  · exact .inr ⟨.inl h6, .inl h6, rfl⟩
  · exact .inl ⟨.inr hmix, .inr hmix, rfl⟩

end UserAddr

namespace PortalSess

theorem Armed.status {s : PortalSess} (ha : s.Armed) : s.status ≠ .SESS_STATUS_NONE := by
  intro hs
  have hnone := ha.1
  rw [hs] at hnone
  exact ha.2 (Option.map_eq_none_iff.mp hnone)

end PortalSess

namespace Portal

/-- The tables are in order, all sessions but `x` have the timer of their status, the address of the packet
that a session keeps can be read, and an authenticated user has an address of one of the three kinds. -/
structure Timed (env : PortalEnv) (x : Option Nat) (P : Portal) : Prop where
  wf : P.Wf env.host
  armed : ∀ n s, P.table.sess n = some s → x ≠ some n → s.Armed
  read : ∀ n s, P.table.sess n = some s → portalPacketInitIpx env s.rcvpkt ≠ none
  known : ∀ a c, P.db.conns a = some c → (P.account a).authed = true → c.user_addr.Known

section
variable {env : PortalEnv} {ans : PortalAnswers} {h : Host} {x : Option Nat} {P P' : Portal} {a n : Nat}
  {s t : PortalSess} {c : AppConn} {u : UserAddr} {Q : Unit → Portal → Prop}

/-- What has nothing to do with sessions and authentication. -/
theorem Timed.same (ht : Timed env x P) (htable : P'.table = P.table) (hdb : P'.db = P.db)
    (hacc : ∀ a, (P'.account a).authed = (P.account a).authed) : Timed env x P' := by
  refine ⟨⟨hdb ▸ ht.wf.db, htable ▸ ht.wf.table⟩, fun n s hs => ht.armed n s (htable ▸ hs),
    fun n s hs => ht.read n s (htable ▸ hs), fun a c hc ha => ?_⟩
  exact ht.known a c (hdb ▸ hc) (hacc a ▸ ha)

theorem Timed.quiet (ht : Timed env x P) (hq : Quiet env.host ans P P') : Timed env x P' := by
  have hcalm := hq.calm
  refine ⟨hq.wf ht.wf, fun n s hs hx => ht.armed n s (hcalm.sub n s hs) hx,
    fun n s hs => ht.read n s (hcalm.sub n s hs), fun a c hc ha => ?_⟩
  obtain ⟨hold, hacc⟩ | ⟨-, hacc⟩ := hcalm.conn a c hc
  · exact ht.known a c hold (hacc ▸ ha)
  · rw [hacc] at ha
    cases ha

theorem Timed.fewer {T : SessTable} (ht : Timed env x P) (hT : T.Sound) (hsub : T.Sub P.table) :
    Timed env x { P with table := T } :=
  ⟨⟨ht.wf.db, hT⟩, fun n s hs => ht.armed n s (hsub n s hs), fun n s hs => ht.read n s (hsub n s hs), ht.known⟩

theorem Timed.weaken (ht : Timed env none P) : Timed env x P :=
  ⟨ht.wf, fun n s hs _ => ht.armed n s hs (by simp), ht.read, ht.known⟩

/-- The session that was worked on has its timer. -/
theorem Timed.back (ht : Timed env (some n) P) (hn : ∀ s, P.table.sess n = some s → s.Armed) :
    Timed env none P := by
  refine ⟨ht.wf, fun m s hs _ => ?_, ht.read, ht.known⟩
  by_cases hm : m = n
  · exact hn s (hm ▸ hs)
  · exact ht.armed m s hs fun he => hm (Option.some.inj he).symm

theorem Timed.free (ht : Timed env (some n) P) : Timed env none { P with table := P.table.without n } := by
  refine ⟨⟨ht.wf.db, ht.wf.table.without⟩, fun m s hs _ => ?_,
    fun m s hs => ht.read m s (SessTable.without_sub m s hs), ht.known⟩
  by_cases hm : m = n
  · subst hm
    simp [SessTable.without] at hs
  · exact ht.armed m s (SessTable.without_sub m s hs) fun he => hm (Option.some.inj he).symm

/-- The session `n` is changed; `y` says whether it may be without its timer. -/
theorem Timed.set {y : Option Nat} (ht : Timed env (some n) P) (hs : P.table.sess n = some s)
    (haddr : t.user_addr = s.user_addr) (hread : portalPacketInitIpx env t.rcvpkt ≠ none)
    (hy : y ≠ some n → t.Armed) : Timed env y { P with table := P.table.setSess n t } := by
  have hcases : ∀ {m r}, (P.table.setSess n t).sess m = some r →
      (m = n ∧ t = r) ∨ (m ≠ n ∧ P.table.sess m = some r) := by
    intro m r hr
    by_cases hm : m = n
    · subst hm
      simp only [SessTable.setSess, Function.update_self, Option.some.injEq] at hr
      exact .inl ⟨rfl, hr⟩
    · exact .inr ⟨hm, by simpa [SessTable.setSess, hm] using hr⟩
  refine ⟨⟨ht.wf.db, ht.wf.table.setSess hs haddr⟩, fun m r hr hym => ?_, fun m r hr => ?_, ht.known⟩
  · obtain ⟨rfl, rfl⟩ | ⟨hm, hr⟩ := hcases hr
    · exact hy hym
    · exact ht.armed m r hr fun he => hm (Option.some.inj he).symm
  · obtain ⟨rfl, rfl⟩ | ⟨-, hr⟩ := hcases hr
    · exact hread
    · exact ht.read m r hr

/-- The session `n` gets its timer; it keeps its address and its packet. -/
theorem Timed.arm (ht : Timed env (some n) P) (hs : P.table.sess n = some s)
    (hsame : (t.user_addr, t.rcvpkt) = (s.user_addr, s.rcvpkt)) (ha : t.Armed) :
    Timed env none { P with table := P.table.setSess n t } := by
  obtain ⟨haddr, hrcv⟩ := Prod.mk.inj hsame
  exact ht.set hs haddr (hrcv ▸ ht.read n s hs) fun _ => ha

theorem Timed.loose (ht : Timed env (some n) P) (hs : P.table.sess n = some s)
    (hsame : (t.user_addr, t.rcvpkt) = (s.user_addr, s.rcvpkt)) :
    Timed env (some n) { P with table := P.table.setSess n t } := by
  obtain ⟨haddr, hrcv⟩ := Prod.mk.inj hsame
  exact ht.set hs haddr (hrcv ▸ ht.read n s hs) fun hne => absurd rfl hne

/-- The packet of a session that is new. -/
theorem read_zero : portalPacketInitIpx env (fun _ => 0) ≠ none := by
  have hnum : ∀ pkt : Packet, (pkt = fun _ => 0) → attrNum pkt = 0 := by
    rintro pkt rfl
    rfl
  simp [portalPacketInitIpx, portalPacketGetAttr, hnum, getAttrLoop]

theorem Timed.new (ht : Timed env none P) (hno : ∀ m s, P.table.sess m = some s → ¬ u.Meets s.user_addr) :
    Timed env (some P.table.brk) { P with table := P.table.portalSessNew u } := by
  have hold : ∀ {m s}, m ≠ P.table.brk → (P.table.portalSessNew u).sess m = some s →
      P.table.sess m = some s := by
    intro m s hne hs
    rw [SessTable.portalSessNew_eq] at hs
    simpa [hne] using hs
  refine ⟨⟨ht.wf.db, ht.wf.table.new hno⟩, fun m s hs hm => ?_, fun m s hs => ?_, ht.known⟩
  · exact ht.armed m s (hold (fun he => hm (by rw [he])) hs) (by simp)
  · by_cases hm : m = P.table.brk
    · rw [SessTable.portalSessNew_eq] at hs
      simp only [hm, Function.update_self, Option.some.injEq] at hs
      exact hs ▸ read_zero
    · exact ht.read m s (hold hm hs)

theorem portalSessNew_sess {T : SessTable} : (T.portalSessNew u).sess T.brk = some { user_addr := u } := by
  rw [SessTable.portalSessNew_eq]
  simp

theorem armed_armed {timer : SessTimer} {timeout : Int} (ht : s.status.timer = some timer) :
    (P.armed timer timeout s).Armed := by
  refine ⟨?_, by simp [Portal.armed]⟩
  simpa [Portal.armed] using ht.symm

/-- A session that is found has its timer; one that is made has none and is in no state. -/
theorem Timed.reachSess {Q : Option Nat → Portal → Prop} {mem : Bool} (ht : Timed env none P)
    (hnone : mem = false → Q none P)
    (hsome : ∀ n s P', Timed env (some n) P' → P'.table.sess n = some s →
      s.status = .SESS_STATUS_NONE ∨ s.Armed → Q (some n) P') : wlp (reachSess u mem) Q P := by
  refine wlp_reachSess ht.wf.table (fun hm _ => hnone hm) (fun n T hf => ?_) fun _ hno => ?_
  · obtain ⟨⟨s, hs, -⟩, -⟩ := hf.some n rfl
    have ht' := ht.fewer hf.sound hf.sub
    exact hsome n s _ ht'.weaken hs (.inr (ht'.armed n s hs (by simp)))
  · exact hsome _ _ _ (ht.new hno) portalSessNew_sess (.inl rfl)

/-! ## Challenges and logouts -/

/-- The session whose timer a challenge of an authenticated user cancels. -/
def Cancelled (s : PortalSess) : Prop :=
  s.status = .SESS_STATUS_ON_MACBIND ∨ s.status = .SESS_STATUS_MACBOUND ∨ s.status = .SESS_STATUS_LOGOUT_WAIT

theorem Timed.challengeSess {pkt : Packet} {rsppkt : Ack} (ht : Timed env (some n) P)
    (hs : P.table.sess n = some s)
    (hok : (packetRsv pkt = 0 ∧ (P.account a).authed = false ∧ (s.status = .SESS_STATUS_NONE ∨ s.Armed)) ∨
      (s.Armed ∧ (packetRsv pkt ≠ 0 ∨ ¬ Cancelled s))) :
    wlp (challengeSess ans pkt rsppkt a n) (fun _ => Timed env none) P := by
  simp only [Portal.challengeSess, wlp_bind, wlp_sessOf, wlp_accountOf, wlp_get, wlp_ite, hs, Option.some.injEq,
    forall_eq', wlp_send]
  intro c hc
  have hback : ∀ {P' : Portal}, P'.table = P.table → P'.db = P.db → P'.account = P.account → s.Armed →
      Timed env none P' := by
    intro P' htable hdb hacc ha
    have ht' : Timed env none P := ht.back fun s' hs' => by
      rw [hs, Option.some.injEq] at hs'
      exact hs' ▸ ha
    exact ht'.same htable hdb fun a => by rw [hacc]
  have harmed : packetRsv pkt ≠ 0 ∨ (s.status ≠ .SESS_STATUS_NONE ∧ ¬ Cancelled s) → s.Armed := by
    intro hne
    obtain ⟨hrsv, -, hnone | ha⟩ | ⟨ha, -⟩ := hok
    · obtain hrsv' | ⟨hst, -⟩ := hne
      · exact absurd hrsv hrsv'
      · exact absurd hnone hst
    · exact ha
    · exact ha
  -- a session that is not in use yet, or no longer, gets a challenge if the user is not authenticated
  have hfresh : packetRsv pkt = 0 → s.status = .SESS_STATUS_NONE ∨ Cancelled s →
      (P.account a).authed = false := by
    intro hrsv hst
    obtain ⟨-, hauth, -⟩ | ⟨ha, hrsv' | hnc⟩ := hok
    · exact hauth
    · exact absurd hrsv hrsv'
    · obtain hst | hst := hst
      · exact absurd hst ha.status
      · exact absurd hst hnc
  refine ⟨fun hrsv => hback rfl rfl rfl (harmed (.inl hrsv)), fun hrsv => ?_⟩
  have hrsv : packetRsv pkt = 0 := by simpa using hrsv
  have hchallenge : ∀ m : PortalM Unit, (P.account a).authed = false → wlp (if (P.account a).authed = true then m
      else do
        setSess n (P.armed .SESS_CHALLENGED_TIMEOUT P.conf.challenged_timeout
          { s with status := .SESS_STATUS_CHALLENGED, challenge := ans.challenge, reqid := rsppkt.req_id })
        send { rsppkt with challenge := ans.challenge }) (fun _ => Timed env none) P := by
    intro m hauth
    simp only [hauth, Bool.false_eq_true, if_false, wlp_bind, wlp_setSess, wlp_send]
    intro s₀ _
    have ht' := ht.arm hs (t := P.armed .SESS_CHALLENGED_TIMEOUT P.conf.challenged_timeout
      { s with status := .SESS_STATUS_CHALLENGED, challenge := ans.challenge, reqid := rsppkt.req_id }) rfl
      (armed_armed rfl)
    exact ht'.same rfl rfl fun _ => rfl
  cases hst : s.status with
  | SESS_STATUS_NONE => exact hchallenge _ (hfresh hrsv (.inl hst))
  | SESS_STATUS_ON_MACBIND => exact hchallenge _ (hfresh hrsv (.inr (.inl hst)))
  | SESS_STATUS_MACBOUND => exact hchallenge _ (hfresh hrsv (.inr (.inr (.inl hst))))
  | SESS_STATUS_LOGOUT_WAIT => exact hchallenge _ (hfresh hrsv (.inr (.inr (.inr hst))))
  | SESS_STATUS_CHALLENGED | SESS_STATUS_ON_CHAPAUTH | SESS_STATUS_ON_PAPAUTH | SESS_STATUS_AFF_WAIT
  | SESS_STATUS_NTF_LOGOUT_WAIT =>
    exact wlp_send.mpr (hback rfl rfl rfl (harmed (.inr (by simp [Cancelled, hst]))))

/-- A REQ_CHALLENGE for `u` leaves no session without a timer: `rsv` is not set and no user with the address is
authenticated; or there is a session for it, or no memory for one, and it is not a session whose timer is
cancelled. -/
def ChallengeSettles (ans : PortalAnswers) (P : Portal) (u : UserAddr) (rsv : UInt8) : Prop :=
  (rsv = 0 ∧ ∀ a c, P.db.conns a = some c → u.Meets c.user_addr → (P.account a).authed = false) ∨
    (P.Alone u ∧ ((∃ n s, P.table.sess n = some s ∧ u.Meets s.user_addr) ∨ ans.sess_mem = false) ∧
      ∀ n s, P.table.sess n = some s → u.Meets s.user_addr → rsv ≠ 0 ∨ ¬ Cancelled s)

/-- A REQ_LOGOUT for `u` leaves no session without a timer: `rsv` is not set, or there is a session for it, or no
memory for one. -/
def LogoutSettles (ans : PortalAnswers) (P : Portal) (u : UserAddr) (rsv : UInt8) : Prop :=
  rsv = 0 ∨ (P.Alone u ∧ ((∃ n s, P.table.sess n = some s ∧ u.Meets s.user_addr) ∨ ans.sess_mem = false))

theorem Timed.send {ack : Ack} (ht : Timed env x P) : wlp (send ack) (fun _ => Timed env x) P :=
  wlp_send.mpr (ht.same rfl rfl fun _ => rfl)

/-- What a rejected request does. -/
theorem Timed.reject {ack : Ack} (ht : Timed env none P) : ∀ P', Quiet env.host ans P P' →
    wlp (Portal.send ack) (fun _ P'' => P''.Wf env.host ∧ ∀ P₃, Quiet env.host ans P'' P₃ → Timed env none P₃) P' := by
  intro P' hq
  refine wlp_send.mpr ?_
  have ht' : Timed env none { P' with sent := ack :: P'.sent } := (ht.quiet hq).same rfl rfl fun _ => rfl
  exact ⟨ht'.wf, fun P₃ h₃ => ht'.quiet h₃⟩

theorem Timed.challengeProc {pkt : Packet} (ht : Timed env none P)
    (hok : ∀ u, portalPacketInitIpx env pkt = some u → Passes env P u pkt →
      ChallengeSettles ans P u (packetRsv pkt)) :
    wlp (challengeProc env ans pkt) (fun _ => Timed env none) P := by
  rw [Portal.challengeProc, wlp_bind, wlp_ask]
  intro u hu
  rw [wlp_bind]
  refine wlp_portalPacketInitRsp fun rsppkt reqid _ _ _ => ?_
  have ht₁ : Timed env none { P with prev_reqid := reqid } := ht.same rfl rfl fun _ => rfl
  simp only [wlp_bind, wlp_ask, Option.some.injEq, forall_eq']
  rw [wlp_ite]
  refine ⟨fun _ => ht₁.send, fun _ => ?_⟩
  refine wlp_serve ht₁.wf (fun a P' hq hr hpass _ => ?_) (fun P' hq => ht₁.quiet hq) ht₁.reject
  have ht' := ht₁.quiet hq
  have hold : ∀ n s, P'.table.sess n = some s → P.table.sess n = some s := hq.calm.sub
  have hauth : (∀ b c, P.db.conns b = some c → u.Meets c.user_addr → (P.account b).authed = false) →
      (P'.account a).authed = false := by
    intro hno
    obtain ⟨c, hc, hm, -, hacc⟩ | ⟨-, hacc, -⟩ := hr.conn
    · rw [hacc]
      exact hno a c hc hm
    · rw [hacc]
  rw [wlp_bind, wlp_configNas]
  intro c _
  have ht₂ : Timed env none (P'.nasConfigured a) := ht'.same rfl rfl fun _ => nasConfigured_authed
  have hauth₂ : (∀ b c, P.db.conns b = some c → u.Meets c.user_addr → (P.account b).authed = false) →
      ((P'.nasConfigured a).account a).authed = false := fun hno => nasConfigured_authed.trans (hauth hno)
  rw [wlp_bind]
  refine wlp_reachSess ht₂.wf.table (fun _ _ => ht₂.send) (fun n T hf => ?_) fun hmem hno => ?_
  · obtain ⟨⟨s, hs, hm⟩, -⟩ := hf.some n rfl
    have ht'' := ht₂.fewer hf.sound hf.sub
    have ha : s.Armed := ht''.armed n s hs (by simp)
    refine ht''.weaken.challengeSess hs ?_
    obtain ⟨hrsv, hno⟩ | ⟨-, -, hcan⟩ := hok u hu hpass
    · exact .inl ⟨hrsv, hauth₂ hno, .inr ha⟩
    · exact .inr ⟨ha, hcan n s (hold n s (hf.sub n s hs)) hm⟩
  · refine (ht₂.new hno).challengeSess portalSessNew_sess (.inl ?_)
    obtain ⟨hrsv, hnone⟩ | ⟨halone, ⟨n, s, hs, hm⟩ | hmem', -⟩ := hok u hu hpass
    · exact ⟨hrsv, hauth₂ hnone, .inl rfl⟩
    · have htable : P'.table = P.table := hr.table halone
      exact absurd hm (hno n s (htable ▸ hs))
    · rw [hmem] at hmem'
      cases hmem'

theorem Timed.logoutSess {pkt : Packet} {rsppkt : Ack} (ht : Timed env (some n) P) (hs : P.table.sess n = some s)
    (hcase : s.status = .SESS_STATUS_NONE ∨ s.Armed) (hok : packetRsv pkt = 0 ∨ s.Armed) :
    wlp (logoutSess ans pkt rsppkt a n) (fun _ => Timed env none) P := by
  simp only [Portal.logoutSess, wlp_bind, wlp_sessOf, wlp_accountOf, wlp_ite, hs, Option.some.injEq, forall_eq']
  intro c hc
  have hback : s.Armed → Timed env none P := fun ha => ht.back fun s' hs' => by
    rw [hs, Option.some.injEq] at hs'
    exact hs' ▸ ha
  refine ⟨fun hrsv => (hback (hok.resolve_left hrsv)).send, fun _ => ?_⟩
  have hend : wlp (if (P.account a).authed = true then do
        Portal.send rsppkt
        terminateAppconn ans a
        let P ← get
        setSess n (P.armed .SESS_LOGOUT_WAIT_TIMEOUT P.conf.logout_wait_timeout
          { s with status := .SESS_STATUS_LOGOUT_WAIT })
      else do
        portalSessFree n
        Portal.send { rsppkt with err_code := EC_ACK_LOGOUT_REJECT } : PortalM Unit)
      (fun _ => Timed env none) P := by
    simp only [wlp_ite, wlp_bind, wlp_send]
    refine ⟨fun hauth => ?_, fun _ => ?_⟩
    · have hsent : Timed env (some n) { P with sent := rsppkt :: P.sent } := ht.same rfl rfl fun _ => rfl
      refine (wlp_terminateAppconn hsent.wf.db).mpr fun d hd => ?_
      have hend := hsent.quiet (@Quiet.terminate _ ans _ _ _ _ true .refl hd hauth)
      simp only [wlp_get, wlp_setSess]
      intro s₀ hs₀
      refine hend.arm hs₀ ?_ (armed_armed rfl)
      have : s₀ = s := by simpa [terminated, hs] using hs₀.symm
      rw [this]
      rfl
    · refine (wlp_portalSessFree ht.wf.table).mpr fun s₀ _ => ?_
      exact ht.free.same rfl rfl fun _ => rfl
  cases hst : s.status with
  | SESS_STATUS_NONE => exact hend
  | SESS_STATUS_AFF_WAIT => exact hend
  | SESS_STATUS_LOGOUT_WAIT | SESS_STATUS_ON_MACBIND | SESS_STATUS_MACBOUND | SESS_STATUS_ON_CHAPAUTH
  | SESS_STATUS_ON_PAPAUTH | SESS_STATUS_NTF_LOGOUT_WAIT | SESS_STATUS_CHALLENGED =>
    exact (hback (hcase.resolve_left (by simp [hst]))).send

theorem Timed.logoutProc {pkt : Packet} (ht : Timed env none P)
    (hok : ∀ u, portalPacketInitIpx env pkt = some u → Passes env P u pkt → LogoutSettles ans P u (packetRsv pkt)) :
    wlp (logoutProc env ans pkt) (fun _ => Timed env none) P := by
  rw [Portal.logoutProc, wlp_bind, wlp_ask]
  intro u hu
  rw [wlp_bind]
  refine wlp_portalPacketInitRsp fun rsppkt reqid _ _ _ => ?_
  have ht₁ : Timed env none { P with prev_reqid := reqid } := ht.same rfl rfl fun _ => rfl
  refine wlp_serve ht₁.wf (fun a P' hq hr hpass _ => ?_) (fun P' hq => ht₁.quiet hq) ht₁.reject
  have ht' := ht₁.quiet hq
  rw [wlp_bind]
  refine wlp_reachSess ht'.wf.table (fun _ _ => ht'.send) (fun n T hf => ?_) fun hmem hno => ?_
  · obtain ⟨⟨s, hs, -⟩, -⟩ := hf.some n rfl
    have ht'' := ht'.fewer hf.sound hf.sub
    have ha : s.Armed := ht''.armed n s hs (by simp)
    exact ht''.weaken.logoutSess hs (.inr ha) (.inr ha)
  · refine (ht'.new hno).logoutSess portalSessNew_sess (.inl rfl) (.inl ?_)
    obtain hrsv | ⟨halone, ⟨n, s, hs, hm⟩ | hmem'⟩ := hok u hu hpass
    · exact hrsv
    · have htable : P'.table = P.table := hr.table halone
      exact absurd hm (hno n s (htable ▸ hs))
    · rw [hmem] at hmem'
      cases hmem'

/-! ## Logins -/

theorem Timed.setAccount {f : Account → Account} (ht : Timed env x P)
    (hf : (f (P.account a)).authed = (P.account a).authed) :
    Timed env x { P with account := Function.update P.account a (f (P.account a)) } := by
  refine ht.same rfl rfl fun b => ?_
  by_cases hb : b = a
  · subst hb
    simpa using hf
  · simp [hb]

theorem Timed.refuse {rsppkt : Ack} (ht : Timed env (some n) P) :
    wlp (refuse rsppkt n) (fun _ => Timed env none) P := by
  simp only [Portal.refuse, wlp_bind]
  refine (wlp_portalSessFree ht.wf.table).mpr fun s _ => ?_
  exact ht.free.send

theorem wlp_radiusAuth : wlp (radiusAuth ans a) Q P ↔ ∀ c, P.db.conns a = some c →
    if validName (P.account a).username then
      Q ⟨⟩ (P.asked ans c.user_addr
        { code := RADIUS_CODE_ACCESS_REQUEST, user_name := (P.account a).username,
          login := some (P.account a).login } (P.account a).radius_srv true)
    else Q ⟨⟩ P := by
  rw [radiusAuth, wlp_bind, wlp_connOf]
  refine forall_congr' fun c => imp_congr_right fun hc => ?_
  simp only [wlp_bind, wlp_accountOf, hc, Option.some.injEq, forall_eq', wlp_ite, wlp_radiusReq, wlp_pure]
  split
  · rename_i hv
    simp [hv]
  · rename_i hv
    simp [hv]

theorem Timed.sendLogin {pkt : Packet} {username : List UInt8} {status : SessStatus} (ht : Timed env (some n) P)
    (hst : status.timer = some .SESS_ONAUTH_TIMEOUT) (hread : portalPacketInitIpx env pkt ≠ none) :
    wlp (sendLogin ans pkt username status a n) (fun _ => Timed env none) P := by
  simp only [Portal.sendLogin, wlp_bind, wlp_ask, wlp_modify, Option.some.injEq, forall_eq', wlp_setAccount,
    wlp_configNas, wlp_radiusAuth, wlp_sessOf, wlp_get, wlp_setSess]
  intro c hc c' _ d hd
  have hlogin := (ht.setAccount (a := a) (f := fun x => { x with on_auth := true, login := P.logins }) rfl)
  have ht' : Timed env (some n) (Portal.nasConfigured a { P with
      logins := P.logins + 1
      account := Function.update P.account a { P.account a with on_auth := true, login := P.logins } }) :=
    hlogin.same rfl rfl fun _ => nasConfigured_authed
  split
  · intro s hs s₀ _
    refine Timed.set (s := s) ?_ hs rfl hread fun _ => armed_armed hst
    exact ht'.same rfl rfl fun _ => rfl
  · intro s hs s₀ _
    exact ht'.set hs rfl hread fun _ => armed_armed hst

theorem Timed.startLogin {pkt : Packet} {rsppkt : Ack} {username : List UInt8} {passwd : Bool}
    {status : SessStatus} (ht : Timed env (some n) P) (hst : status.timer = some .SESS_ONAUTH_TIMEOUT)
    (hread : portalPacketInitIpx env pkt ≠ none) :
    wlp (startLogin env ans pkt rsppkt username passwd status a n) (fun _ => Timed env none) P := by
  simp only [Portal.startLogin, wlp_bind, wlp_setAccount, wlp_ite, wlp_ask, Option.some.injEq, forall_eq',
    wlp_accountOf]
  intro c _
  have ht₁ := ht.setAccount (a := a) (f := fun x => { x with username := username }) rfl
  refine ⟨fun _ => ht₁.refuse, fun _ d _ e _ => ?_⟩
  have ht₂ := ht₁.setAccount (a := a) (f := fun x =>
    { x with
      username := (divUsernameAndDomain P.conf.radiusconf x.username x.domain_name).1
      domain_name := (divUsernameAndDomain P.conf.radiusconf x.username x.domain_name).2 }) rfl
  refine ⟨fun _ => ht₂.refuse, fun _ => ?_⟩
  split
  · exact ht₂.refuse
  · rename_i srv _
    simp only [wlp_bind, wlp_setAccount, wlp_ite]
    intro f _
    have ht₃ := ht₂.setAccount (a := a) (f := fun x => { x with radius_srv := srv }) rfl
    exact ⟨fun _ => ht₃.sendLogin hst hread, fun _ => ht₃.refuse⟩

theorem Timed.armed_back (ht : Timed env (some n) P) (hs : P.table.sess n = some s) (ha : s.Armed) :
    Timed env none P := by
  refine ht.back fun s' hs' => ?_
  rw [hs, Option.some.injEq] at hs'
  exact hs' ▸ ha

theorem Timed.chapauthSess {pkt : Packet} {rsppkt : Ack} {username : List UInt8} (ht : Timed env (some n) P)
    (hs : P.table.sess n = some s) (hcase : s.status = .SESS_STATUS_NONE ∨ s.Armed)
    (hread : portalPacketInitIpx env pkt ≠ none) :
    wlp (chapauthSess env ans pkt rsppkt username a n) (fun _ => Timed env none) P := by
  simp only [Portal.chapauthSess, wlp_bind, wlp_sessOf, wlp_accountOf, hs, Option.some.injEq, forall_eq']
  intro c _
  have hback : s.status ≠ .SESS_STATUS_NONE → Timed env none P := fun hne =>
    ht.armed_back hs (hcase.resolve_left hne)
  cases hst : s.status with
  | SESS_STATUS_NONE =>
    dsimp only
    rw [wlp_bind, wlp_portalSessFree ht.wf.table]
    intro s₀ _
    exact ht.free.send
  | SESS_STATUS_CHALLENGED =>
    dsimp only
    rw [wlp_ite]
    exact ⟨fun _ => ht.refuse, fun _ => ht.startLogin rfl hread⟩
  | SESS_STATUS_ON_MACBIND | SESS_STATUS_MACBOUND | SESS_STATUS_LOGOUT_WAIT | SESS_STATUS_ON_CHAPAUTH
  | SESS_STATUS_ON_PAPAUTH | SESS_STATUS_AFF_WAIT | SESS_STATUS_NTF_LOGOUT_WAIT =>
    exact (hback (by simp [hst])).send

theorem Timed.papauthSess {pkt : Packet} {rsppkt : Ack} {username : List UInt8} (ht : Timed env (some n) P)
    (hs : P.table.sess n = some s) (hcase : s.status = .SESS_STATUS_NONE ∨ s.Armed)
    (hread : portalPacketInitIpx env pkt ≠ none) :
    wlp (papauthSess env ans pkt rsppkt username a n) (fun _ => Timed env none) P := by
  simp only [Portal.papauthSess, wlp_bind, wlp_sessOf, wlp_accountOf, hs, Option.some.injEq, forall_eq']
  intro c _
  have hback : s.status ≠ .SESS_STATUS_NONE → Timed env none P := fun hne =>
    ht.armed_back hs (hcase.resolve_left hne)
  have hlogin : wlp (if (P.account a).authed = true then do
        portalSessFree n
        Portal.send { rsppkt with err_code := PORTAL_AUTH_CONNECTED }
      else Portal.startLogin env ans pkt rsppkt username (papPasswd env pkt) .SESS_STATUS_ON_PAPAUTH a n)
      (fun _ => Timed env none) P := by
    rw [wlp_ite, wlp_bind, wlp_portalSessFree ht.wf.table]
    exact ⟨fun _ s₀ _ => ht.free.send, fun _ => ht.startLogin rfl hread⟩
  cases hst : s.status with
  | SESS_STATUS_NONE | SESS_STATUS_ON_MACBIND | SESS_STATUS_MACBOUND | SESS_STATUS_CHALLENGED
  | SESS_STATUS_LOGOUT_WAIT => exact hlogin
  | SESS_STATUS_ON_CHAPAUTH | SESS_STATUS_ON_PAPAUTH | SESS_STATUS_AFF_WAIT | SESS_STATUS_NTF_LOGOUT_WAIT =>
    exact (hback (by simp [hst])).send

theorem Timed.authProc {pkt : Packet} {nas : Bool} {sess : Ack → List UInt8 → Nat → Nat → PortalM Unit}
    (ht : Timed env none P)
    (hsess : ∀ rsppkt username a n s P', Timed env (some n) P' → P'.table.sess n = some s →
      s.status = .SESS_STATUS_NONE ∨ s.Armed → portalPacketInitIpx env pkt ≠ none →
      wlp (sess rsppkt username a n) (fun _ => Timed env none) P') :
    wlp (authProc env ans pkt nas sess) (fun _ => Timed env none) P := by
  rw [Portal.authProc, wlp_bind, wlp_ask]
  intro u hu
  rw [wlp_bind]
  refine wlp_portalPacketInitRsp fun rsppkt reqid _ _ _ => ?_
  have ht₁ : Timed env none { P with prev_reqid := reqid } := ht.same rfl rfl fun _ => rfl
  simp only [wlp_bind, wlp_ask, Option.some.injEq, forall_eq']
  intro username _
  refine wlp_serve ht₁.wf (fun a P' hq _ _ _ => ?_) (fun P' hq => ht₁.quiet hq) ht₁.reject
  have hnas : wlp (if nas then configNas a else pure ()) (fun _ => Timed env none) P' :=
    wlp_ite.mpr ⟨fun _ => wlp_configNas.mpr fun _ _ =>
      (ht₁.quiet hq).same rfl rfl fun _ => nasConfigured_authed, fun _ => wlp_pure.mpr (ht₁.quiet hq)⟩
  rw [wlp_bind]
  refine wlp_mono (fun _ P' ht' => ?_) hnas
  cases ans.portal_srv with
  | none => exact ht'.send
  | some srv =>
    simp only [appconnConfigPortalsrv, wlp_bind, wlp_setAccount]
    intro c _
    have ht₂ := ht'.setAccount (a := a)
      (f := fun x => { x with secret := srv.secret, domain_name := srv.domain }) rfl
    refine ht₂.reachSess (fun _ => ht₂.send) fun n s P'' ht'' hs hcase => ?_
    simp only [wlp_bind, wlp_sessOf, wlp_setSess, hs, Option.some.injEq, forall_eq']
    refine hsess _ _ _ n { s with username := username } _ (ht''.loose hs rfl) ?_ hcase (by simp [hu])
    simp [SessTable.setSess]

/-! ## Replies of the RADIUS server -/

theorem Timed.authFailure {err_code : UInt8} (ht : Timed env none P) :
    wlp (authFailure env ans u err_code) (fun _ => Timed env none) P := by
  rw [Portal.authFailure, wlp_bind]
  refine wlp_findSess ht.wf.table fun r T hf => ?_
  have ht₁ := ht.fewer hf.sound hf.sub
  cases r with
  | none => exact wlp_pure.mpr ht₁
  | some n =>
    dsimp only
    rw [wlp_bind]
    refine wlp_appconnFindByUseripx ht₁.wf fun r P' hq _ => ?_
    have ht' := ht₁.quiet hq
    simp only [wlp_bind, wlp_sessOf, wlp_ite, wlp_pure]
    refine fun s hs => ⟨fun _ => ?_, fun _ => ht'⟩
    refine wlp_portalPacketInitRsp fun rsppkt reqid _ _ _ => ?_
    have ht₂ : Timed env (some n) { P' with
        prev_reqid := reqid, sent := { rsppkt with err_code := err_code } :: P'.sent } :=
      ht'.weaken.same rfl rfl fun _ => rfl
    rw [wlp_send, wlp_portalSessFree ht₂.wf.table]
    exact fun s₀ _ => ht₂.free

theorem Timed.authSuccess {req : RadiusReq} (ht : Timed env none P) :
    wlp (authSuccess env ans req a) (fun _ => Timed env none) P := by
  rw [Portal.authSuccess, wlp_bind, wlp_connOf]
  intro c hc
  rw [wlp_bind]
  refine wlp_findSess ht.wf.table fun r T hf => ?_
  have ht₁ := ht.fewer hf.sound hf.sub
  cases r with
  | none => exact wlp_pure.mpr ht₁
  | some n =>
    obtain ⟨⟨s, hs, hm⟩, -⟩ := hf.some n rfl
    simp only [wlp_bind, wlp_sessOf, wlp_ite, wlp_pure, hs, Option.some.injEq, forall_eq']
    refine ⟨fun _ => ?_, fun _ => ht₁⟩
    refine wlp_authorize fun rsppkt reqid d _ _ _ hd => ?_
    have ht₂ := ht₁.weaken.arm hs (t := P.armed .SESS_AFF_WAIT_TIMEOUT P.conf.retry_interval
      { s with status := .SESS_STATUS_AFF_WAIT, retry_count := 0 }) rfl (armed_armed rfl)
    refine ⟨⟨?_, ?_⟩, ?_, ?_, ?_⟩
    · rw [admitted, acctAsked_db]
      exact ht₂.wf.db
    · rw [admitted, acctAsked_table]
      exact ht₂.wf.table
    · rw [admitted, acctAsked_table]
      exact ht₂.armed
    · rw [admitted, acctAsked_table]
      exact ht₂.read
    · intro b g hg hb
      rw [admitted, acctAsked_db] at hg
      rw [admitted, acctAsked_account] at hb
      by_cases hba : b = a
      · -- the user is known by the address of the session
        subst hba
        have hcg : c = g := Option.some.inj (hc.symm.trans hg)
        exact hcg ▸ hm.known
      · exact ht₂.known b g hg (by simpa [hba] using hb)

theorem Timed.accessAcceptProc {req : RadiusReq} (ht : Timed env none P) :
    wlp (accessAcceptProc env ans u req) (fun _ => Timed env none) P := by
  rw [Portal.accessAcceptProc, wlp_bind]
  refine wlp_appconnFindByUseripx ht.wf fun r P' hq _ => ?_
  have ht' := ht.quiet hq
  cases r with
  | none => exact ht'.authFailure
  | some a =>
    simp only [wlp_bind, wlp_accountOf, wlp_ite, wlp_setAccount]
    refine fun c _ => ⟨fun _ d _ => ?_, fun _ => ht'.authFailure⟩
    exact (ht'.setAccount (a := a) (f := fun x => { x with on_auth := false }) rfl).authSuccess

theorem Timed.endAuth (ht : Timed env x P) : wlp (endAuth ans u) (fun _ => Timed env x) P :=
  wlp_endAuth ht.wf fun _ hq =>
    ⟨ht.quiet hq, fun a _ _ _ => (ht.quiet hq).setAccount (a := a) (f := fun x => { x with on_auth := false }) rfl⟩

theorem Timed.sockradiusReceive {k nbyte : Nat} {packet : Packet} {radius_ip : UInt32} {radius_port : UInt16}
    {err_code : UInt8} (ht : Timed env none P) :
    wlp (sockradiusReceive env ans k packet nbyte radius_ip radius_port err_code)
      (fun _ => Timed env none) P := by
  rw [Portal.sockradiusReceive, wlp_bind, wlp_get]
  cases P.radius.answeredId env.md5 k packet nbyte radius_ip radius_port with
  | none => exact wlp_pure.mpr ht
  | some r =>
    simp only [wlp_bind, wlp_modify, wlp_ite, wlp_pure]
    have ht₁ : Timed env none { P with radius := P.radius.answer env.md5 k packet r } :=
      ht.same rfl rfl fun _ => rfl
    refine ⟨fun _ => ht₁.accessAcceptProc, fun _ => ⟨fun _ => ?_, fun _ => ?_⟩⟩
    · rw [accessRejectProc, wlp_bind]
      exact wlp_mono (fun _ P' ht' => ht'.authFailure) ht₁.endAuth
    · exact wlp_appconnFindByUseripx ht₁.wf fun r P' hq _ => ht₁.quiet hq

/-! ## Acknowledgements of the portal server -/

theorem Timed.freeSess (ht : Timed env (some n) P) : wlp (portalSessFree n) (fun _ => Timed env none) P :=
  (wlp_portalSessFree ht.wf.table).mpr fun _ _ => ht.free

theorem Timed.ackLogoutSess (ht : Timed env none P) : wlp (ackLogoutSess ans a n) (fun _ => Timed env none) P := by
  simp only [Portal.ackLogoutSess, wlp_bind, wlp_sessOf, wlp_accountOf]
  intro s _ c _
  have hend : wlp (if (P.account a).authed = true then do
        Portal.setAccount a fun x => { x with on_ntf_logout := false }
        terminateAppconn ans a
        portalSessFree n
      else portalSessFree n) (fun _ => Timed env none) P := by
    simp only [wlp_ite, wlp_bind, wlp_setAccount]
    refine ⟨fun hauth d _ => ?_, fun _ => ht.weaken.freeSess⟩
    have ht₁ := ht.setAccount (a := a) (f := fun x => { x with on_ntf_logout := false }) rfl
    refine (wlp_terminateAppconn ht₁.wf.db).mpr fun e he => ?_
    have ht₂ := ht₁.quiet (@Quiet.terminate _ ans _ _ _ _ true .refl he (by simpa using hauth))
    exact ht₂.weaken.freeSess
  cases s.status with
  | SESS_STATUS_NONE => exact ht.weaken.freeSess
  | SESS_STATUS_NTF_LOGOUT_WAIT => exact hend
  | SESS_STATUS_ON_MACBIND | SESS_STATUS_MACBOUND | SESS_STATUS_CHALLENGED | SESS_STATUS_ON_CHAPAUTH
  | SESS_STATUS_ON_PAPAUTH | SESS_STATUS_AFF_WAIT | SESS_STATUS_LOGOUT_WAIT => exact wlp_pure.mpr ht

theorem Timed.affAckAuthSess (ht : Timed env none P) : wlp (affAckAuthSess n) (fun _ => Timed env none) P := by
  simp only [Portal.affAckAuthSess, wlp_bind, wlp_sessOf]
  intro s _
  cases s.status with
  | SESS_STATUS_NONE | SESS_STATUS_AFF_WAIT => exact ht.weaken.freeSess
  | SESS_STATUS_ON_MACBIND | SESS_STATUS_MACBOUND | SESS_STATUS_CHALLENGED | SESS_STATUS_ON_CHAPAUTH
  | SESS_STATUS_ON_PAPAUTH | SESS_STATUS_LOGOUT_WAIT | SESS_STATUS_NTF_LOGOUT_WAIT => exact wlp_pure.mpr ht

theorem Timed.ackMacbindSess {pkt : Packet} (ht : Timed env none P) :
    wlp (ackMacbindSess pkt n) (fun _ => Timed env none) P := by
  simp only [Portal.ackMacbindSess, wlp_bind, wlp_sessOf, wlp_get]
  intro s hs
  cases s.status with
  | SESS_STATUS_NONE => exact ht.weaken.freeSess
  | SESS_STATUS_ON_MACBIND =>
    simp only [wlp_ite, wlp_setSess]
    exact ⟨fun _ => ht.weaken.freeSess, fun _ s₀ _ => ht.weaken.arm hs rfl (armed_armed rfl)⟩
  | SESS_STATUS_MACBOUND | SESS_STATUS_CHALLENGED | SESS_STATUS_ON_CHAPAUTH | SESS_STATUS_ON_PAPAUTH
  | SESS_STATUS_AFF_WAIT | SESS_STATUS_LOGOUT_WAIT | SESS_STATUS_NTF_LOGOUT_WAIT => exact wlp_pure.mpr ht

theorem Timed.acknowledged {pkt : Packet} {check : Bool} {sess : Nat → Nat → PortalM Unit}
    (ht : Timed env none P)
    (hsess : ∀ a n P', Timed env none P' → wlp (sess a n) (fun _ => Timed env none) P') :
    wlp (acknowledged env ans pkt check sess) (fun _ => Timed env none) P :=
  wlp_acknowledged ht.wf (fun _ hq => ht.quiet hq) fun a n P' hq => hsess a n P' (ht.quiet hq)

theorem Timed.reqinfoProc {pkt : Packet} (ht : Timed env none P) :
    wlp (reqinfoProc env ans pkt) (fun _ => Timed env none) P := by
  rw [Portal.reqinfoProc, wlp_bind, wlp_ask]
  intro u _
  rw [wlp_bind]
  refine wlp_portalPacketInitRsp fun rsppkt reqid _ _ _ => ?_
  have ht₁ : Timed env none { P with prev_reqid := reqid } := ht.same rfl rfl fun _ => rfl
  rw [wlp_bind]
  refine wlp_reach ht₁.wf fun r P' hq _ => ?_
  have ht' := ht₁.quiet hq
  have hfail : wlp (if env.protocol = .PORTAL_PROTOCOL_TELECOM then pure ()
      else Portal.send { rsppkt with err_code := EC_ACK_INFO_FAILED }) (fun _ => Timed env none) P' := by
    rw [wlp_ite]
    exact ⟨fun _ => wlp_pure.mpr ht', fun _ => ht'.send⟩
  obtain ⟨ra, rc⟩ := r
  cases ra with
  | none => exact hfail
  | some a =>
    cases rc with
    | some b => exact hfail
    | none =>
      simp only [wlp_bind, wlp_requestCheck, wlp_ite, wlp_accountOf, wlp_pure]
      exact fun c _ => ⟨fun _ d _ => ht'.send, fun _ => ht'⟩

/-- What the packets of the portal server may do; of challenges and logout requests it is asked that they
leave no session without a timer. -/
theorem Timed.portalProcPacket {pkt : Packet} (ht : Timed env none P)
    (hchallenge : packetType pkt = REQ_CHALLENGE → ∀ u, portalPacketInitIpx env pkt = some u →
      Passes env P u pkt → ChallengeSettles ans P u (packetRsv pkt))
    (hlogout : packetType pkt = REQ_LOGOUT → packetErrCode pkt = 0 → ∀ u,
      portalPacketInitIpx env pkt = some u → Passes env P u pkt → LogoutSettles ans P u (packetRsv pkt)) :
    wlp (portalProcPacket env ans pkt) (fun _ => Timed env none) P := by
  simp only [Portal.portalProcPacket, wlp_bind, wlp_ask, wlp_ite, wlp_pure]
  intro _ _
  refine ⟨fun h1 => ht.challengeProc (hchallenge h1), fun _ => ⟨fun _ => ⟨fun _ => ?_, fun _ => ⟨fun _ => ?_,
    fun _ => ht⟩⟩, fun _ => ⟨fun h5 => ⟨fun he => ht.logoutProc (hlogout h5 he), fun _ => ⟨fun _ => ?_, fun _ => ht⟩⟩,
    fun _ => ⟨fun _ => ?_, fun _ => ⟨fun _ => ?_, fun _ => ⟨fun _ => ht.reqinfoProc, fun _ => ⟨fun _ => ?_,
    fun _ => ⟨fun _ => ?_, fun _ => ht⟩⟩⟩⟩⟩⟩⟩⟩
  · exact ht.authProc fun _ _ _ _ _ _ ht' hs hcase hread => ht'.chapauthSess hs hcase hread
  · exact ht.authProc fun _ _ _ _ _ _ ht' hs hcase hread => ht'.papauthSess hs hcase hread
  · simp only [logoutErrcode1Proc, wlp_bind, wlp_ask, wlp_pure]
    exact fun u _ => wlp_appconnFindByUseripx ht.wf fun r P' hq _ => ht.quiet hq
  · exact ht.acknowledged fun _ _ _ ht' => ht'.ackLogoutSess
  · exact ht.acknowledged fun _ _ _ ht' => ht'.affAckAuthSess
  · exact ht.acknowledged fun _ _ _ ht' => ht'.ackMacbindSess
  · exact wlp_userOfflineProc ht.wf fun P' hq => ht.quiet hq

/-! ## Timers -/

theorem Timed.onmacbindTimeout (ht : Timed env none P) (hs : P.table.sess n = some s)
    (hst : s.status = .SESS_STATUS_ON_MACBIND) :
    wlp (onmacbindTimeout ans n) (fun _ => Timed env none) P := by
  simp only [Portal.onmacbindTimeout, wlp_bind, wlp_sessOf, wlp_setSess, hs, Option.some.injEq, forall_eq']
  have ht₁ := ht.weaken.loose hs (t := fired s) rfl
  refine wlp_appconnFindByUseripx ht₁.wf fun r P' hq _ => ?_
  have ht' := ht₁.quiet hq
  cases r with
  | none => exact ht'.freeSess
  | some a =>
    simp only [wlp_bind, wlp_get, wlp_ite, wlp_setSess]
    refine ⟨fun _ s₀ hs₀ => ?_, fun _ => ht'.freeSess⟩
    have hold : s₀ = fired s := by simpa [SessTable.setSess] using (hq.calm.sub n s₀ hs₀).symm
    exact ht'.arm hs₀ (by rw [hold]; rfl) (armed_armed (by rw [hst]; rfl))

theorem Timed.onauthTimeout (ht : Timed env none P) :
    wlp (onauthTimeout env ans n) (fun _ => Timed env none) P := by
  simp only [Portal.onauthTimeout, wlp_bind, wlp_sessOf, wlp_setSess]
  intro s hs s₀ _
  refine wlp_portalPacketInitRsp fun rsppkt reqid _ _ _ => ?_
  rw [wlp_send]
  have ht₁ : Timed env (some n) { P with
      table := P.table.setSess n (fired s), prev_reqid := reqid
      sent := { rsppkt with err_code := PORTAL_AUTH_REJECT } :: P.sent } :=
    (ht.weaken.loose hs (t := fired s) rfl).same rfl rfl fun _ => rfl
  exact wlp_mono (fun _ P' ht' => ht'.freeSess) ht₁.endAuth

theorem Timed.affWaitTimeout (ht : Timed env none P) (hs : P.table.sess n = some s)
    (hst : s.status = .SESS_STATUS_AFF_WAIT) :
    wlp (affWaitTimeout env ans n) (fun _ => Timed env none) P := by
  simp only [Portal.affWaitTimeout, wlp_bind, wlp_sessOf, wlp_setSess, wlp_get, wlp_ite, hs, Option.some.injEq,
    forall_eq']
  have ht₁ := ht.weaken.loose hs (t := fired s) rfl
  refine ⟨fun _ => ?_, fun _ => ht₁.freeSess⟩
  refine wlp_portalPacketInitRsp fun rsppkt reqid _ _ _ => ?_
  have ht₂ : Timed env (some n) { P with table := P.table.setSess n (fired s), prev_reqid := reqid } :=
    ht₁.same rfl rfl fun _ => rfl
  refine wlp_appconnFindByUseripx ht₂.wf fun r P' hq _ => ?_
  simp only [wlp_send]
  intro s₀ hs₀
  have hold : s₀ = fired s := by simpa [SessTable.setSess] using (hq.calm.sub n s₀ hs₀).symm
  have ht₃ : Timed env (some n) { P' with sent := rsppkt :: P'.sent } :=
    (ht₂.quiet hq).same rfl rfl fun _ => rfl
  refine ht₃.arm hs₀ ?_ (armed_armed ?_)
  · rw [hold]
    rfl
  · rw [hst]
    rfl

theorem Timed.terminate (ht : Timed env x P) (hc : P.db.conns a = some c) :
    Timed env x (P.terminated ans a true c) := by
  refine ⟨⟨ht.wf.db.without, ?_⟩, ?_, ?_, fun b d hd hb => ?_⟩
  · simpa [terminated] using ht.wf.table
  · simpa [terminated] using ht.armed
  · simpa [terminated] using ht.read
  · have hba : b ≠ a := by
      rintro rfl
      simp [terminated, AppDb.without] at hd
    refine ht.known b d ?_ ?_
    · simpa [terminated, AppDb.without, hba] using hd
    · simpa [terminated, hba] using hb

theorem Timed.ntfLogoutWaitTimeout (ht : Timed env none P) (hs : P.table.sess n = some s)
    (hst : s.status = .SESS_STATUS_NTF_LOGOUT_WAIT) :
    wlp (ntfLogoutWaitTimeout ans n) (fun _ => Timed env none) P := by
  simp only [Portal.ntfLogoutWaitTimeout, wlp_bind, wlp_sessOf, wlp_setSess, hs, Option.some.injEq, forall_eq']
  have ht₁ := ht.weaken.loose hs (t := fired s) rfl
  refine wlp_appconnFindByUseripx ht₁.wf fun r P' hq _ => ?_
  have ht' := ht₁.quiet hq
  cases r with
  | none => exact ht'.freeSess
  | some a =>
    simp only [wlp_bind, wlp_get, wlp_ite, wlp_setSess, wlp_setAccount]
    refine ⟨fun _ s₀ hs₀ => ?_, fun _ c _ => ?_⟩
    · have hold : s₀ = fired s := by simpa [SessTable.setSess] using (hq.calm.sub n s₀ hs₀).symm
      exact ht'.arm hs₀ (by rw [hold]; rfl) (armed_armed (by rw [hst]; rfl))
    · have ht₂ := ht'.setAccount (a := a) (f := fun x => { x with on_ntf_logout := false }) rfl
      refine (wlp_terminateAppconn ht₂.wf.db).mpr fun e he => ?_
      exact (ht₂.terminate he).freeSess

theorem timer_status {status : SessStatus} {timer : SessTimer} (ht : status.timer = some timer) :
    (timer = .SESS_ONMACBIND_TIMEOUT → status = .SESS_STATUS_ON_MACBIND) ∧
    (timer = .SESS_AFF_WAIT_TIMEOUT → status = .SESS_STATUS_AFF_WAIT) ∧
    (timer = .SESS_NTF_LOGOUT_WAIT_TIMEOUT → status = .SESS_STATUS_NTF_LOGOUT_WAIT) := by
  cases status <;> simp_all [SessStatus.timer] <;> subst ht <;> simp

theorem Timed.sessTimeout (ht : Timed env none P) :
    wlp (sessTimeout env ans n) (fun _ => Timed env none) P := by
  rw [Portal.sessTimeout, wlp_bind, wlp_get]
  cases hs : P.table.sess n with
  | none => exact wlp_pure.mpr ht
  | some s =>
    have ha := ht.armed n s hs (by simp)
    cases htime : s.t_timeout with
    | none => exact absurd htime ha.2
    | some x =>
      obtain ⟨timer, due⟩ := x
      have htimer : s.status.timer = some timer := by simpa [htime] using ha.1.symm
      obtain ⟨hmac, haff, hntf⟩ := timer_status htimer
      simp only [Option.bind_some, htime, wlp_ite]
      refine ⟨fun _ => wlp_pure.mpr ht, fun _ => ?_⟩
      cases timer with
      | SESS_ONMACBIND_TIMEOUT => exact ht.onmacbindTimeout hs (hmac rfl)
      | SESS_MACBOUND_TIMEOUT | SESS_CHALLENGED_TIMEOUT | SESS_LOGOUT_WAIT_TIMEOUT =>
        exact ht.weaken.freeSess
      | SESS_ONAUTH_TIMEOUT => exact ht.onauthTimeout
      | SESS_AFF_WAIT_TIMEOUT => exact ht.affWaitTimeout hs (haff rfl)
      | SESS_NTF_LOGOUT_WAIT_TIMEOUT => exact ht.ntfLogoutWaitTimeout hs (hntf rfl)

/-! ## Logouts that the portal server is told of -/

/-- The portal server is told of a logout in the session `n`. -/
theorem Timed.notifyIn (ht : Timed env (some n) P) (hs : P.table.sess n = some s)
    (hcase : s.status = .SESS_STATUS_NTF_LOGOUT_WAIT → s.Armed) : wlp (do
      let s ← sessOf n
      let P ← get
      if s.status = .SESS_STATUS_NTF_LOGOUT_WAIT then pure ()
      else setSess n (P.armed .SESS_NTF_LOGOUT_WAIT_TIMEOUT P.conf.retry_interval
        { s with status := .SESS_STATUS_NTF_LOGOUT_WAIT, retry_count := 0 }) : PortalM Unit)
      (fun _ => Timed env none) P := by
  simp only [wlp_bind, wlp_sessOf, wlp_get, wlp_ite, wlp_setSess, wlp_pure, hs, Option.some.injEq, forall_eq']
  exact ⟨fun hst => ht.armed_back hs (hcase hst), fun _ => ht.arm hs rfl (armed_armed rfl)⟩

theorem Timed.notifyLogout (ht : Timed env none P) : wlp (notifyLogout ans a) (fun _ => Timed env none) P := by
  rw [Portal.notifyLogout, wlp_bind, wlp_connOf]
  intro c _
  rw [wlp_bind]
  refine ht.reachSess (fun _ => wlp_pure.mpr ht) fun n s P' ht' hs hcase => ht'.notifyIn hs fun hst => ?_
  exact hcase.resolve_left (by simp [hst])

theorem Timed.logoutUser {again : Bool} (ht : Timed env none P) :
    wlp (logoutUser ans a again) (fun _ => Timed env none) P := by
  simp only [Portal.logoutUser, wlp_bind, wlp_accountOf, wlp_ite, wlp_pure, wlp_setAccount]
  refine fun c _ => ⟨fun _ => wlp_mono (fun _ P' ht' d _ => ?_) ht.notifyLogout, fun _ => ht⟩
  exact ht'.setAccount (a := a) (f := fun x => { x with on_ntf_logout := true }) rfl

/-- A search that finds the session `n` and changes nothing. -/
theorem wlp_reachSess_only {Q : Option Nat → Portal → Prop} {mem : Bool}
    (hfind : P.table.portalSessFindByUseripx u = some (some n, P.table)) (hq : Q (some n) P) :
    wlp (reachSess u mem) Q P := by
  simp only [reachSess, Portal.portalSessFindByUseripx, wlp_bind, wlp_ask, hfind, Option.some.injEq, forall_eq',
    wlp_modify, wlp_pure]
  exact hq

/-- A Disconnect-Request in the session `n`, which is the only one with an address of the user. -/
theorem Timed.dmSess (ht : Timed env (some n) P) (hs : P.table.sess n = some s)
    (hcase : s.status = .SESS_STATUS_NONE ∨ s.Armed) (hc : P.db.conns a = some c)
    (hmeet : c.user_addr.Meets s.user_addr)
    (hone : ∀ m t, P.table.sess m = some t → c.user_addr.Meets t.user_addr → m = n) : wlp (do
      let s ← sessOf n
      match s.status with
      | .SESS_STATUS_AFF_WAIT | .SESS_STATUS_NONE => do
        setSess n { s with t_timeout := none, is_dm_logout := true }
        Portal.setAccount a fun x => { x with on_ntf_logout := true }
        Portal.notifyLogout ans a
      | _ => pure () : PortalM Unit) (fun _ => Timed env none) P := by
  simp only [wlp_bind, wlp_sessOf, hs, Option.some.injEq, forall_eq']
  have hend : ∀ t : PortalSess, (t.user_addr, t.rcvpkt) = (s.user_addr, s.rcvpkt) → t.status ≠ .SESS_STATUS_NTF_LOGOUT_WAIT → wlp (do
      setSess n t
      Portal.setAccount a fun x => { x with on_ntf_logout := true }
      Portal.notifyLogout ans a : PortalM Unit) (fun _ => Timed env none) P := by
    intro t hsame hst
    simp only [wlp_bind, wlp_setSess, wlp_setAccount, Portal.notifyLogout, wlp_connOf, hc, Option.some.injEq,
      forall_eq']
    intro s₀ _
    have ht₁ := (ht.loose hs hsame).setAccount (a := a) (f := fun x => { x with on_ntf_logout := true }) rfl
    have hn : (P.table.setSess n t).sess n = some t := by simp [SessTable.setSess]
    refine wlp_reachSess_only (n := n) ?_ (ht₁.notifyIn hn fun hntf => absurd hntf hst)
    have haddr : t.user_addr = s.user_addr := (Prod.mk.inj hsame).1
    refine ht₁.wf.table.find_only hn (haddr ▸ hmeet) fun m r hr hm => ?_
    by_cases hmn : m = n
    · exact hmn
    · exact hone m r (by simpa [SessTable.setSess, hmn] using hr) hm
  have hback : s.status ≠ .SESS_STATUS_NONE → Timed env none P := fun hne =>
    ht.armed_back hs (hcase.resolve_left hne)
  cases hst : s.status with
  | SESS_STATUS_AFF_WAIT => exact hend _ rfl (by simp)
  | SESS_STATUS_NONE => exact hend _ rfl (by simp)
  | SESS_STATUS_ON_MACBIND | SESS_STATUS_MACBOUND | SESS_STATUS_CHALLENGED | SESS_STATUS_ON_CHAPAUTH
  | SESS_STATUS_ON_PAPAUTH | SESS_STATUS_LOGOUT_WAIT | SESS_STATUS_NTF_LOGOUT_WAIT =>
    exact wlp_pure.mpr (hback (by simp [hst]))

theorem Timed.procDmRequest (ht : Timed env none P) : wlp (procDmRequest ans a) (fun _ => Timed env none) P := by
  simp only [Portal.procDmRequest, wlp_bind, wlp_accountOf, wlp_ite, wlp_pure, wlp_connOf]
  refine fun d _ => ⟨fun hauth c hc => ?_, fun _ => ht⟩
  have hknown : c.user_addr.Known := ht.known a c hc (by simpa using hauth.1)
  refine wlp_reachSess ht.wf.table (fun _ _ => wlp_pure.mpr ht) (fun n T hf => ?_) fun _ hno => ?_
  · obtain ⟨⟨s, hs, hm⟩, hone⟩ := hf.some n rfl
    have ht' := ht.fewer hf.sound hf.sub
    exact ht'.weaken.dmSess hs (.inr (ht'.armed n s hs (by simp))) hc hm hone
  · refine (ht.new hno).dmSess portalSessNew_sess (.inl rfl) hc hknown.meets_self fun m t htm hm => ?_
    by_cases hb : m = P.table.brk
    · exact hb
    · rw [SessTable.portalSessNew_eq] at htm
      exact absurd hm (hno m t (by simpa [hb] using htm))

theorem Timed.macbindReq (ht : Timed env none P) : wlp (macbindReq ans a) (fun _ => Timed env none) P := by
  rw [Portal.macbindReq, wlp_bind, wlp_connOf]
  intro c _
  rw [wlp_bind]
  refine ht.reachSess (fun _ => wlp_pure.mpr ht) fun n s P' ht' hs hcase => ?_
  simp only [wlp_bind, wlp_sessOf, wlp_get, hs, Option.some.injEq, forall_eq']
  have hback : s.status ≠ .SESS_STATUS_NONE → Timed env none P' := fun hne =>
    ht'.armed_back hs (hcase.resolve_left hne)
  have harm : wlp (setSess n (P'.armed .SESS_ONMACBIND_TIMEOUT P'.conf.retry_interval
      { s with status := .SESS_STATUS_ON_MACBIND, retry_count := 0 })) (fun _ => Timed env none) P' :=
    wlp_setSess.mpr fun _ _ => ht'.arm hs rfl (armed_armed rfl)
  cases hst : s.status with
  | SESS_STATUS_NONE => exact harm
  | SESS_STATUS_LOGOUT_WAIT => exact harm
  | SESS_STATUS_ON_MACBIND | SESS_STATUS_MACBOUND | SESS_STATUS_CHALLENGED | SESS_STATUS_ON_CHAPAUTH
  | SESS_STATUS_ON_PAPAUTH | SESS_STATUS_AFF_WAIT | SESS_STATUS_NTF_LOGOUT_WAIT =>
    exact wlp_pure.mpr (hback (by simp [hst]))

/-! ## The rest -/

theorem Timed.idTimeout {k : Nat} {i : UInt8} (ht : Timed env none P) :
    wlp (idTimeout ans k i) (fun _ => Timed env none) P := by
  rw [Portal.idTimeout, wlp_bind, wlp_get]
  cases P.radius.dueId k i with
  | none => exact wlp_pure.mpr ht
  | some r =>
    obtain ⟨r, timer⟩ := r
    cases timer with
    | RADIUS_ID_STATUS_TIMEOUT => exact wlp_modify.mpr (ht.same rfl rfl fun _ => rfl)
    | RADIUS_ID_RETRY_TIMEOUT =>
      dsimp only
      rw [wlp_bind]
      refine wlp_appconnFindByUseripx ht.wf fun r P' hq _ => ?_
      simp only [wlp_bind, wlp_ask, wlp_modify]
      exact fun s _ => (ht.quiet hq).same rfl rfl fun _ => rfl

theorem Timed.insStop (ht : Timed env none P) : wlp (insStop ans) (fun _ => Timed env none) P := by
  simp only [Portal.insStop, wlp_bind, wlp_get, wlp_ite, wlp_pure]
  refine ⟨fun _ => wlp_terminateAppconnAll ht.wf fun P' hq => ?_, fun _ => ht⟩
  have hstop : Keeps (Timed env none) (P'.table.sess_head.forM portalSessFree) :=
    Keeps.forM fun n _ P'' ht'' => ht''.weaken.freeSess
  simp only [portalStop, wlp_bind, wlp_get, wlp_modify]
  exact wlp_mono (fun _ P'' ht'' => ht''.same rfl rfl fun _ => rfl) (hstop P' (ht.quiet hq))

theorem Timed.configPortalsrv {srv : PortalSrv} (ht : Timed env x P) :
    wlp (appconnConfigPortalsrv a srv) (fun _ => Timed env x) P := by
  rw [appconnConfigPortalsrv, wlp_setAccount]
  exact fun c _ => ht.setAccount (a := a)
    (f := fun x => { x with secret := srv.secret, domain_name := srv.domain }) rfl

theorem Timed.ipxUpdate (ht : Timed env none P) : Timed env none { P with db := P.db.appconnIpxUpdate a u } := by
  refine ⟨⟨ht.wf.db.ipxUpdate, ht.wf.table⟩, ht.armed, ht.read, fun b c hc hb => ?_⟩
  simp only [AppDb.appconnIpxUpdate] at hc
  cases ha : P.db.conns a with
  | none =>
    simp only [ha] at hc
    exact ht.known b c hc hb
  | some d =>
    simp only [ha] at hc
    by_cases hba : b = a
    · subst hba
      have hd := ht.known b d ha hb
      split at hc
      · simp only [Function.update_self, Option.some.injEq] at hc
        exact hc ▸ .inr (.inr rfl)
      · split at hc
        · simp only [Function.update_self, Option.some.injEq] at hc
          exact hc ▸ .inr (.inr rfl)
        · rw [ha, Option.some.injEq] at hc
          exact hc ▸ hd
    · refine ht.known b c ?_ hb
      split at hc
      · simpa [hba] using hc
      · split at hc
        · simpa [hba] using hc
        · exact hc

/-! ## Every session goes -/

theorem twp_initRsp {pkt : Packet} (hread : portalPacketInitIpx env pkt ≠ none) {Q : Ack → Portal → Prop}
    (hq : ∀ ack reqid, Q ack { P with prev_reqid := reqid }) : twp (portalPacketInitRsp env pkt) Q P := by
  obtain ⟨v, hv⟩ := Option.ne_none_iff_exists'.mp hread
  refine twp_of_wlp (R := fun _ _ => True) ?_ (wlp_portalPacketInitRsp fun ack reqid _ _ _ => hq ack reqid)
  rw [portalPacketInitRsp, twp_bind]
  refine twp_ask hv ?_
  split
  · rw [twp_bind, detectUniqueReqid, twp_bind]
    exact twp_get (twp_bind.mpr (twp_modify (twp_pure (twp_pure trivial))))
  · split
    · exact twp_pure trivial
    · split
      · exact twp_pure trivial
      · split <;> exact twp_pure trivial

theorem setSess_sess {T : SessTable} : (T.setSess n t).sess n = some t := by simp [SessTable.setSess]

end

end Portal

namespace PortalOp

open Portal

/-- The step leaves no session without a timer. -/
def Settles (env : PortalEnv) (P : Portal) : PortalOp → Prop
  | receive ans pkt nbyte => P.started = true → portalAccepts env pkt nbyte →
    ∀ u, portalPacketInitIpx env pkt = some u → Passes env P u pkt →
      (packetType pkt = REQ_CHALLENGE → ChallengeSettles ans P u (packetRsv pkt)) ∧
      (packetType pkt = REQ_LOGOUT → packetErrCode pkt = 0 → LogoutSettles ans P u (packetRsv pkt))
  | _ => True

section
variable {env : PortalEnv} {P P' : Portal} {op : PortalOp}

theorem step_eq {P' : Portal} {Q : Unit → Portal → Prop} (hstep : op.step env P = some P')
    (hq : wlp (op.prog env) Q { P with sent := [] }) : Q ⟨⟩ P' := by
  rw [step] at hstep
  obtain ⟨⟨x, t⟩, ht, rfl⟩ := Option.map_eq_some_iff.mp hstep
  exact hq x t ht

end

/-! ## Runs -/

/-- A packet of the octets `l`. -/
def octets (l : List UInt8) : Packet := fun i => l.getD i 0

/-- A portal of the mobile protocol, on a host with pointers of eight octets. -/
def sampleEnv : PortalEnv := ⟨AppOp.lp64Host, fun _ => Vector.replicate 16 0, .PORTAL_PROTOCOL_MOBILE⟩

/-- The user 0.0.0.5 is a station, and there is memory for everything. -/
def sampleAnswers : PortalAnswers :=
  { make := ⟨true, ⟨0, 0, 0, 0, 0, 5⟩, true, some ⟨5, .zero, 1⟩, true⟩, sess_mem := true, sock_mem := fun _ => true
    challenge := [7], authenticator := fun _ => [], portal_srv := some ⟨[], []⟩, dhcp := true }

/-- REQ_CHALLENGE of the user 0.0.0.5. -/
def sampleChallenge (rsv : UInt8) : Packet := octets [1, 1, 0, rsv, 0, 0, 0, 0, 0, 0, 0, 5, 0, 0, 0, 0]

instance (s : PortalSess) : Decidable s.Armed := inferInstanceAs (Decidable (_ ∧ _))

end PortalOp

end Eag
end DaemonGroup
