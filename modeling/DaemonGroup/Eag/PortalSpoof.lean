import DaemonGroup.Eag.PortalMarks

/-!
# DaemonGroup.Eag.PortalSpoof

What a packet does that was not made with the secret of the portal server, in the telecom protocol.

The check of the authenticator uses the secret that the connection has. A connection has it only after a login,
and one that is made for a packet has the empty one; three of the handlers make no check at all; and a connection
can be made, or removed as a second one or as a conflict, before there is a check. `Portal.Harmless` says when
none of this matters, packet by packet (`PortalOp.spoofed_iff`).
-/

namespace DaemonGroup
namespace Eag

open Lib Bytes

namespace SessTable

/-- A session that is made and freed leaves nothing but its number. -/
theorem Sound.new_without {T : SessTable} (h : T.Sound) {u : UserAddr} :
    (T.portalSessNew u).without T.brk = { T with brk := T.brk + 1 } := by
  have hadd : ∀ {H : Nat → List Nat} {place : Nat → Option Nat} {p : Prop} [Decidable p] {i : Nat},
      Files H place → place T.brk = none →
      (fun j => ((if p then AppDb.hashtableCheckAddNode H i T.brk else H) j).erase T.brk) = H := by
    intro H place p _ i hf hnone
    have hout : ∀ j, T.brk ∉ H j := fun j hj => by
      rw [hf.mem.mp hj] at hnone
      cases hnone
    funext j
    by_cases hp : p
    · by_cases hj : j = i
      · subst hj
        simp [hp, AppDb.hashtableCheckAddNode, hout]
      · simp [hp, AppDb.hashtableCheckAddNode, hout, hj]
    · simp [hp, hout]
  have hip := hadd (p := u.hasV4) (i := ipHash u.user_ip) h.ip (by simp [ipPlace, h.next])
  have hipv6 := hadd (p := u.hasV6) (i := ipv6Hash u.user_ipv6) h.ipv6 (by simp [ipv6Place, h.next])
  rw [portalSessNew_eq]
  simp only [SessTable.without, hip, hipv6, List.erase_cons_head, Function.update_idem, SessTable.mk.injEq,
    true_and, and_true]
  rw [Function.update_eq_self_iff, h.next]

end SessTable

namespace Portal

/-! ## What a packet finds -/

/-- The packet passes `portal_request_check` with the secret of the connection `a`. -/
def Admits (env : PortalEnv) (P : Portal) (a : Nat) (pkt : Packet) : Prop :=
  (portalRequestCheck env.protocol env.md5 pkt (P.account a).secret).2 = 0

instance (env : PortalEnv) (P : Portal) (a : Nat) (pkt : Packet) : Decidable (Admits env P a pkt) :=
  inferInstanceAs (Decidable (_ = _))

/-- A challenge can begin in a session with the status. -/
def Fresh (status : SessStatus) : Prop :=
  status = .SESS_STATUS_NONE ∨ status = .SESS_STATUS_ON_MACBIND ∨ status = .SESS_STATUS_MACBOUND ∨
    status = .SESS_STATUS_LOGOUT_WAIT

/-- A REQ_CHALLENGE that the connection `a` admits leaves everything as it was: the addresses of the service are
those that the connection has, there is one session, or none and no memory for one, and in the session no challenge
begins and no timer is cancelled. -/
def SparesChallenge (ans : PortalAnswers) (P : Portal) (u : UserAddr) (rsv : UInt8) (a : Nat) : Prop :=
  (P.account a).nasip = P.conf.nasip ∧ (P.account a).nasipv6 = P.conf.nasipv6 ∧ ¬ P.SplitSess u ∧
    (P.userSess u = none → ans.sess_mem = false) ∧
    ∀ n s, P.userSess u = some n → P.table.sess n = some s → rsv = 0 → Fresh s.status →
      (P.account a).authed = true ∧ s.t_timeout = none

/-- A REQ_LOGOUT that the connection `a` admits leaves everything as it was. -/
def SparesLogout (ans : PortalAnswers) (P : Portal) (u : UserAddr) (rsv : UInt8) (a : Nat) : Prop :=
  ¬ P.SplitSess u ∧
    (P.userSess u = none → ans.sess_mem = true → rsv = 0 ∧ (P.account a).authed = false) ∧
    ∀ n s, P.userSess u = some n → P.table.sess n = some s → rsv = 0 →
      s.status ≠ .SESS_STATUS_NONE ∧ s.status ≠ .SESS_STATUS_AFF_WAIT

/-- An acknowledgement leaves everything as it was: it does not find one of two sessions, and the one that it
finds does not wait for it and is not new. -/
def SparesAck (P : Portal) (u : UserAddr) (status : SessStatus) : Prop :=
  ¬ P.SplitSess u ∧
    ∀ n s, P.userSess u = some n → P.table.sess n = some s → s.status ≠ .SESS_STATUS_NONE ∧ s.status ≠ status

/-- A request leaves everything as it was: the connection that is found admits it only where `spares` holds, and if
none is found, none can be made and there is no conflict to remove. -/
def SparesServed (env : PortalEnv) (ans : PortalAnswers) (P : Portal) (u : UserAddr) (pkt : Packet) (auto : Bool)
    (spares : Nat → Prop) : Prop :=
  ¬ P.SplitConn u ∧ (∀ a, P.userConn u = some a → Admits env P a pkt → spares a) ∧
    (P.userConn u = none → auto = true → ¬ P.db.CanMake ans.make u ∧ conflictOf env P u ans.make.usermac = none)

/-- The packet leaves everything as it was, although it was not made with the secret of the portal server. -/
def Harmless (env : PortalEnv) (ans : PortalAnswers) (P : Portal) (pkt : Packet) : Prop :=
  packetType pkt ∈ portalTypes → ∃ u, portalPacketInitIpx env pkt = some u ∧
    if packetType pkt = REQ_CHALLENGE then
      SparesServed env ans P u pkt P.conf.auto_session (SparesChallenge ans P u (packetRsv pkt))
    else if packetType pkt = REQ_AUTH then
      packetAuthType pkt = AUTH_CHAP ∨ packetAuthType pkt = AUTH_PAP →
        packetUsername env pkt ≠ none ∧ SparesServed env ans P u pkt P.conf.auto_session fun _ => False
    else if packetType pkt = REQ_LOGOUT then
      (packetErrCode pkt = 0 → SparesServed env ans P u pkt true (SparesLogout ans P u (packetRsv pkt))) ∧
        (packetErrCode pkt = 1 → ¬ P.SplitConn u)
    else if packetType pkt = ACK_LOGOUT then
      ¬ P.SplitConn u ∧ (P.userConn u ≠ none → SparesAck P u .SESS_STATUS_NTF_LOGOUT_WAIT)
    else if packetType pkt = AFF_ACK_AUTH then
      ¬ P.SplitConn u ∧ ∀ a, P.userConn u = some a → Admits env P a pkt → SparesAck P u .SESS_STATUS_AFF_WAIT
    else if packetType pkt = REQ_INFO then
      ¬ P.SplitConn u ∧ (P.userConn u = none → ¬ P.db.CanMake ans.make u)
    else if packetType pkt = ACK_MACBINDING_INFO then
      ¬ P.SplitConn u ∧ (P.userConn u ≠ none → SparesAck P u .SESS_STATUS_ON_MACBIND)
    else if packetType pkt = REQ_USER_OFFLINE then
      ∀ usermac, packetUsermac env pkt = some usermac → ¬ P.SplitConn u ∧
        ∀ a c, P.userConn u = some a → P.db.conns a = some c → c.usermac ≠ usermac
    else True

/-- The portal after a connection has been asked for. -/
def attempted (env : PortalEnv) (ans : PortalAnswers) (u : UserAddr) (P : Portal) : Portal :=
  { P with
    db := (P.db.appconnCreateNoArp env.host u ans.make).2
    account := Function.update P.account P.db.brk {} }

section
variable {P P₀ P' : Portal} {h : Host} {env : PortalEnv} {ans : PortalAnswers} {a b n m : Nat} {c : AppConn}
  {s t : PortalSess} {u : UserAddr} {pkt : Packet} {ack rsppkt : Ack}

/-! ## The parts of a program -/

theorem sessOf_eq (hs : P.table.sess n = some s) : sessOf n P = some (s, P) := by simp [sessOf, ask, hs]

theorem setSess_eq (hs : P.table.sess n = some s) :
    setSess n t P = some (⟨⟩, { P with table := P.table.setSess n t }) := by simp [setSess, change, hs]

theorem askIpx_eq (hu : portalPacketInitIpx env pkt = some u) :
    ask (fun _ => portalPacketInitIpx env pkt) P = some (u, P) := ask_some hu

theorem connOf_eq (hc : P.db.conns a = some c) : connOf a P = some (c, P) := by simp [connOf, ask, hc]

theorem accountOf_eq (hc : P.db.conns a = some c) : accountOf a P = some (P.account a, P) := by
  simp [accountOf, ask, hc]

theorem requestCheck_eq (hc : P.db.conns a = some c) :
    requestCheck env a pkt P = some (decide (Admits env P a pkt), P) := by
  change (accountOf a P).bind _ = _
  rw [accountOf_eq hc]
  rfl

theorem configNas_eq (hc : P.db.conns a = some c) : configNas a P = some (⟨⟩, P.nasConfigured a) := by
  change (setAccount a fun x => { x with nasip := P.conf.nasip, nasipv6 := P.conf.nasipv6 }) P = _
  simp [setAccount, change, hc, nasConfigured]

theorem initRsp_eq (hu : portalPacketInitIpx env pkt = some u) :
    ∃ ack reqid, portalPacketInitRsp env pkt P = some (ack, { P with prev_reqid := reqid }) := by
  obtain ⟨ack, P', hrsp, reqid, rfl⟩ := @twp_initRsp env P pkt (by simp [hu])
    (fun _ P' => ∃ reqid, P' = { P with prev_reqid := reqid }) fun _ reqid => ⟨reqid, rfl⟩
  exact ⟨ack, reqid, hrsp⟩

theorem twp_sends : twp (Portal.send ack) (fun _ => Untouched P₀) P ↔ Untouched P₀ P :=
  (twp_some (t := { P with sent := ack :: P.sent }) rfl).trans
    ⟨fun hu => ⟨hu.db, hu.account, hu.table, hu.authed_user_num, hu.radius⟩,
      fun hu => ⟨hu.db, hu.account, hu.table, hu.authed_user_num, hu.radius⟩⟩

theorem twp_nothing : twp (pure () : PortalM Unit) (fun _ => Untouched P₀) P ↔ Untouched P₀ P := twp_some rfl

/-- A change of a session is seen. -/
theorem set_touched (hs : P.table.sess n = some s) (hne : t ≠ s) :
    ¬ Untouched P { P with table := P.table.setSess n t } := by
  intro hu
  have hsess := congrFun hu.sess n
  simp only [SessTable.setSess, Function.update_self, hs, Option.some.injEq] at hsess
  exact hne hsess

/-! ## Searches -/

theorem twp_findConn {f : Option Nat → PortalM Unit} (hw : P.Wf h)
    (hf : ∀ a b, Keeps (OfDb h (Gone b)) (f (some a))) :
    twp (appconnFindByUseripx ans u >>= f) (fun _ => Untouched P) P ↔
      ¬ P.SplitConn u ∧ twp (f (P.userConn u)) (fun _ => Untouched P) P := by
  by_cases hs : P.SplitConn u
  · obtain ⟨b, c, hb, hlost⟩ := @find_split _ _ ans _ hw hs
    refine ⟨fun ht => absurd ht (not_twp (wlp_bind.mpr (wlp_mono (fun r P' h' => ?_) hlost))), fun ht => absurd hs ht.1⟩
    obtain ⟨⟨a, rfl⟩, hgone⟩ := h'
    exact wlp_mono (fun _ _ hl => lost_touched hl.db.1 hb) (hf a b P' hgone)
  · rw [twp_first (find_apart hw hs)]
    exact ⟨fun ht => ⟨hs, ht⟩, fun ht => ht.2⟩

theorem twp_findSess {f : Option Nat → PortalM Unit} (hw : P.Wf h)
    (hf : ∀ n m, Keeps (LostSess h m) (f (some n))) :
    twp (portalSessFindByUseripx u >>= f) (fun _ => Untouched P) P ↔
      ¬ P.SplitSess u ∧ twp (f (P.userSess u)) (fun _ => Untouched P) P := by
  by_cases hs : P.SplitSess u
  · obtain ⟨m, s, hm, hlost⟩ := findSess_split hw hs
    refine ⟨fun ht => absurd ht (not_twp (wlp_bind.mpr (wlp_mono (fun r P' h' => ?_) hlost))), fun ht => absurd hs ht.1⟩
    obtain ⟨⟨n, rfl⟩, hgone⟩ := h'
    exact wlp_mono (fun _ _ hl => hl.touched hm) (hf n m P' hgone)
  · rw [twp_first (findSess_apart hw.table hs)]
    exact ⟨fun ht => ⟨hs, ht⟩, fun ht => ht.2⟩

/-- What is said of the session that is found. -/
theorem all_found {φ : PortalSess → Prop} (hn : P.userSess u = some n) (hs : P.table.sess n = some s) :
    (∀ n s, P.userSess u = some n → P.table.sess n = some s → φ s) ↔ φ s := by
  refine ⟨fun hall => hall n s hn hs, fun hφ k t hk ht => ?_⟩
  rw [hn, Option.some.injEq] at hk
  rw [← hk, hs, Option.some.injEq] at ht
  exact ht ▸ hφ

/-- What is done with the session of `u`, which may be a new one. -/
theorem twp_reachSess {f : Option Nat → PortalM Unit} {mem : Bool} (hw : P.Wf h)
    (hf : ∀ n m, Keeps (LostSess h m) (f (some n))) :
    twp (reachSess u mem >>= f) (fun _ => Untouched P) P ↔ ¬ P.SplitSess u ∧
      (∀ n, P.userSess u = some n → twp (f (some n)) (fun _ => Untouched P) P) ∧
      (P.userSess u = none → mem = false → twp (f none) (fun _ => Untouched P) P) ∧
      (P.userSess u = none → mem = true →
        twp (f (some P.table.brk)) (fun _ => Untouched P) { P with table := P.table.portalSessNew u }) := by
  rw [Portal.reachSess, bind_assoc]
  refine (twp_findSess hw fun n m => by simpa using hf n m).trans (and_congr_right fun _ => ?_)
  cases hu : P.userSess u with
  | some n =>
    rw [twp_first (a := some n) (t := P) rfl]
    simp
  | none =>
    cases mem with
    | false =>
      rw [twp_first (a := none) (t := P) rfl]
      simp
    | true =>
      rw [twp_first (a := some P.table.brk) (t := { P with table := P.table.portalSessNew u }) rfl]
      simp

/-! ## Sessions -/

theorem setSess_same (hs : P.table.sess n = some s) : P.table.setSess n s = P.table := by
  rw [SessTable.setSess, Function.update_eq_self_iff.mpr hs.symm]

theorem twp_challengeSess (hs : P.table.sess n = some s) (hc : P.db.conns a = some c) :
    twp (challengeSess ans pkt rsppkt a n) (fun _ => Untouched P) P ↔
      (packetRsv pkt = 0 → Fresh s.status → (P.account a).authed = true ∧ s.t_timeout = none) := by
  have hfresh : Fresh s.status → (twp (if (P.account a).authed = true then do
        setSess n { s with t_timeout := none }
        Portal.send { rsppkt with err_code := CHALLENGE_CONNECTED }
      else do
        setSess n (P.armed .SESS_CHALLENGED_TIMEOUT P.conf.challenged_timeout
          { s with status := .SESS_STATUS_CHALLENGED, challenge := ans.challenge, reqid := rsppkt.req_id })
        Portal.send { rsppkt with challenge := ans.challenge }) (fun _ => Untouched P) P ↔
      (P.account a).authed = true ∧ s.t_timeout = none) := by
    intro hst
    by_cases hauth : (P.account a).authed = true
    · rw [if_pos hauth, twp_first (setSess_eq hs), twp_sends]
      constructor
      · intro hu
        refine ⟨hauth, Classical.byContradiction fun hne => set_touched hs (fun he => hne ?_) hu⟩
        rw [← he]
      · rintro ⟨-, htime⟩
        have hsame : { s with t_timeout := none } = s := by rw [← htime]
        rw [hsame, setSess_same hs]
        exact .refl P
    · rw [if_neg hauth, twp_first (setSess_eq hs), twp_sends]
      refine ⟨fun hu => absurd hu (set_touched hs fun he => ?_), fun h => absurd h.1 hauth⟩
      rw [← he] at hst
      obtain h | h | h | h := hst <;> cases h
  rw [challengeSess, twp_first (sessOf_eq hs), twp_first (accountOf_eq hc), twp_first (a := P) (t := P) rfl]
  by_cases hrsv : packetRsv pkt = 0
  · rw [if_neg (not_not.mpr hrsv)]
    cases hst : s.status with
    | SESS_STATUS_NONE | SESS_STATUS_ON_MACBIND | SESS_STATUS_MACBOUND | SESS_STATUS_LOGOUT_WAIT =>
      rw [hst] at hfresh
      have hst : Fresh s.status := by simp [Fresh, hst]
      simpa [hrsv, Fresh] using hfresh
    | SESS_STATUS_CHALLENGED | SESS_STATUS_ON_CHAPAUTH | SESS_STATUS_ON_PAPAUTH | SESS_STATUS_AFF_WAIT
    | SESS_STATUS_NTF_LOGOUT_WAIT =>
      simp [Fresh, twp_sends, Untouched.refl]
  · rw [if_pos hrsv, twp_sends]
    simp [hrsv, Untouched.refl]

/-- A session that is freed is gone. -/
theorem free_gone (hw : P.Wf h) : wlp (portalSessFree n) (fun _ => LostSess h n) P :=
  (wlp_portalSessFree hw.table).mpr fun _ _ => ⟨⟨hw.db, hw.table.without⟩, SessTable.without_self⟩

/-- A user that is terminated is gone. -/
theorem terminate_gone (hw : P.Wf h) : wlp (terminateAppconn ans a) (fun _ => OfDb h (Gone a)) P := by
  refine (wlp_terminateAppconn hw.db).mpr fun c hc => ⟨hw.terminated, ?_, ?_⟩
  · simp [terminated, AppDb.without]
  · simpa [terminated, AppDb.without] using hw.db.fresh a (by simp [hc])

/-- A session that is freed at the end is seen. -/
theorem free_touched (hw : P.Wf h) (hs : P.table.sess n = some s) {m : PortalM Unit}
    (hm : Keeps (LostSess h n) m) : ¬ twp (do portalSessFree n; m) (fun _ => Untouched P) P :=
  not_twp (wlp_bind.mpr (wlp_mono (fun _ P' hl => wlp_mono (fun _ _ hl => hl.touched hs) (hm P' hl)) (free_gone hw)))

theorem twp_logoutSess (hw : P.Wf h) (hs : P.table.sess n = some s) (hc : P.db.conns a = some c) :
    twp (logoutSess ans pkt rsppkt a n) (fun _ => Untouched P) P ↔
      (packetRsv pkt = 0 → s.status ≠ .SESS_STATUS_NONE ∧ s.status ≠ .SESS_STATUS_AFF_WAIT) := by
  have hend : ¬ twp (if (P.account a).authed = true then do
        Portal.send rsppkt
        terminateAppconn ans a
        let P ← get
        setSess n (P.armed .SESS_LOGOUT_WAIT_TIMEOUT P.conf.logout_wait_timeout
          { s with status := .SESS_STATUS_LOGOUT_WAIT })
      else do
        portalSessFree n
        Portal.send { rsppkt with err_code := EC_ACK_LOGOUT_REJECT } : PortalM Unit) (fun _ => Untouched P) P := by
    by_cases hauth : (P.account a).authed = true
    · rw [if_pos hauth]
      refine not_twp ?_
      simp only [wlp_bind, wlp_send]
      refine wlp_mono (fun _ P' hl => ?_) (terminate_gone (h := h) ⟨hw.db, hw.table⟩)
      simp only [wlp_get, wlp_setSess]
      exact fun _ _ => lost_touched hl.db.1 hc
    · rw [if_neg hauth]
      exact free_touched hw hs inert_lostSess.sends
  rw [logoutSess, twp_first (sessOf_eq hs), twp_first (accountOf_eq hc)]
  by_cases hrsv : packetRsv pkt = 0
  · rw [if_neg (not_not.mpr hrsv)]
    cases hst : s.status with
    | SESS_STATUS_NONE => exact ⟨fun ht => absurd ht hend, fun ht => absurd rfl (ht hrsv).1⟩
    | SESS_STATUS_AFF_WAIT => exact ⟨fun ht => absurd ht hend, fun ht => absurd rfl (ht hrsv).2⟩
    | SESS_STATUS_LOGOUT_WAIT | SESS_STATUS_ON_MACBIND | SESS_STATUS_MACBOUND | SESS_STATUS_ON_CHAPAUTH
    | SESS_STATUS_ON_PAPAUTH | SESS_STATUS_NTF_LOGOUT_WAIT | SESS_STATUS_CHALLENGED =>
      simp [twp_sends, Untouched.refl]
  · rw [if_pos hrsv, twp_sends]
    simp [hrsv, Untouched.refl]

/-- A session that has been made is seen. -/
theorem made_touched (hnone : P.table.sess n = none) (hs : P'.table.sess n = some s) : ¬ Untouched P P' := by
  intro hu
  rw [hu.sess, hnone] at hs
  cases hs

theorem challengeSess_new (hnone : P.table.sess n = none) (hs : P'.table.sess n = some s)
    (hst : s.status = .SESS_STATUS_NONE) :
    ¬ twp (challengeSess ans pkt rsppkt a n) (fun _ => Untouched P) P' := by
  refine not_twp ?_
  simp only [Portal.challengeSess, wlp_bind, wlp_sessOf, wlp_accountOf, wlp_get, hs, Option.some.injEq, forall_eq']
  intro c _
  rw [hst]
  simp only [wlp_ite, wlp_bind, wlp_setSess, wlp_send, hs, Option.some.injEq, forall_eq']
  refine ⟨fun _ => made_touched hnone hs, fun _ => ⟨fun _ => ?_, fun _ => ?_⟩⟩
  · exact made_touched hnone setSess_sess
  · exact made_touched hnone setSess_sess

theorem twp_logoutSess_new (hw : P.Wf h) (hnew : (P.table.portalSessNew u).Sound) (hc : P.db.conns a = some c) :
    twp (logoutSess ans pkt rsppkt a P.table.brk) (fun _ => Untouched P)
      { P with table := P.table.portalSessNew u } ↔ packetRsv pkt = 0 ∧ (P.account a).authed = false := by
  have hs : (P.table.portalSessNew u).sess P.table.brk = some { user_addr := u } := portalSessNew_sess
  have hnone := hw.table.next
  rw [logoutSess, twp_first (sessOf_eq (P := { P with table := P.table.portalSessNew u }) hs),
    twp_first (accountOf_eq (P := { P with table := P.table.portalSessNew u }) hc)]
  by_cases hrsv : packetRsv pkt = 0
  · rw [if_neg (not_not.mpr hrsv)]
    by_cases hauth : (P.account a).authed = true
    · rw [if_pos hauth]
      refine ⟨fun ht => absurd ht (not_twp ?_), fun ht => by simp [hauth] at ht⟩
      simp only [wlp_bind, wlp_send]
      refine wlp_mono (fun _ P' hl => ?_) (terminate_gone (h := h) ⟨hw.db, hnew⟩)
      simp only [wlp_get, wlp_setSess]
      exact fun _ _ => lost_touched hl.db.1 hc
    · have hfree : portalSessFree P.table.brk { P with table := P.table.portalSessNew u } =
          some (⟨⟩, { P with table := (P.table.portalSessNew u).without P.table.brk }) := by
        simp [portalSessFree, change, hnew.free hs]
      rw [if_neg hauth, twp_first hfree, twp_sends, hw.table.new_without]
      simp only [hrsv, true_and, Bool.not_eq_true] at hauth ⊢
      exact iff_of_true ⟨rfl, fun _ _ _ => rfl, rfl, rfl, rfl⟩ hauth
  · rw [if_pos hrsv, twp_sends]
    exact iff_of_false (made_touched hnone hs) fun ht => hrsv ht.1

/-! ## Acknowledgements -/

theorem free_only (hw : P.Wf h) (hs : P.table.sess n = some s) :
    ¬ twp (portalSessFree n) (fun _ => Untouched P) P :=
  not_twp (wlp_mono (fun _ _ hl => hl.touched hs) (free_gone hw))

theorem twp_ackLogoutSess (hw : P.Wf h) (hs : P.table.sess n = some s) (hc : P.db.conns a = some c) :
    twp (ackLogoutSess ans a n) (fun _ => Untouched P) P ↔
      s.status ≠ .SESS_STATUS_NONE ∧ s.status ≠ .SESS_STATUS_NTF_LOGOUT_WAIT := by
  have hend : ¬ twp (if (P.account a).authed = true then do
        setAccount a fun x => { x with on_ntf_logout := false }
        terminateAppconn ans a
        portalSessFree n
      else portalSessFree n) (fun _ => Untouched P) P := by
    by_cases hauth : (P.account a).authed = true
    · rw [if_pos hauth]
      refine not_twp ?_
      simp only [wlp_bind, wlp_setAccount]
      intro d _
      refine wlp_mono (fun _ P' hl => ?_) (terminate_gone (h := h) ⟨hw.db, hw.table⟩)
      exact wlp_mono (fun _ _ hl => hl.touched hs) (free_gone hl.wf)
    · rw [if_neg hauth]
      exact free_only hw hs
  rw [ackLogoutSess, twp_first (sessOf_eq hs), twp_first (accountOf_eq hc)]
  cases hst : s.status with
  | SESS_STATUS_NONE => exact ⟨fun ht => absurd ht (free_only hw hs), fun ht => absurd rfl ht.1⟩
  | SESS_STATUS_NTF_LOGOUT_WAIT => exact ⟨fun ht => absurd ht hend, fun ht => absurd rfl ht.2⟩
  | SESS_STATUS_ON_MACBIND | SESS_STATUS_MACBOUND | SESS_STATUS_CHALLENGED | SESS_STATUS_ON_CHAPAUTH
  | SESS_STATUS_ON_PAPAUTH | SESS_STATUS_AFF_WAIT | SESS_STATUS_LOGOUT_WAIT =>
    simp [twp_nothing, Untouched.refl]

theorem twp_affAckAuthSess (hw : P.Wf h) (hs : P.table.sess n = some s) :
    twp (affAckAuthSess n) (fun _ => Untouched P) P ↔
      s.status ≠ .SESS_STATUS_NONE ∧ s.status ≠ .SESS_STATUS_AFF_WAIT := by
  rw [affAckAuthSess, twp_first (sessOf_eq hs)]
  cases hst : s.status with
  | SESS_STATUS_NONE => exact ⟨fun ht => absurd ht (free_only hw hs), fun ht => absurd rfl ht.1⟩
  | SESS_STATUS_AFF_WAIT => exact ⟨fun ht => absurd ht (free_only hw hs), fun ht => absurd rfl ht.2⟩
  | SESS_STATUS_ON_MACBIND | SESS_STATUS_MACBOUND | SESS_STATUS_CHALLENGED | SESS_STATUS_ON_CHAPAUTH
  | SESS_STATUS_ON_PAPAUTH | SESS_STATUS_LOGOUT_WAIT | SESS_STATUS_NTF_LOGOUT_WAIT =>
    simp [twp_nothing, Untouched.refl]

theorem twp_ackMacbindSess (hw : P.Wf h) (hs : P.table.sess n = some s) :
    twp (ackMacbindSess pkt n) (fun _ => Untouched P) P ↔
      s.status ≠ .SESS_STATUS_NONE ∧ s.status ≠ .SESS_STATUS_ON_MACBIND := by
  rw [ackMacbindSess, twp_first (sessOf_eq hs), twp_first (a := P) (t := P) rfl]
  cases hst : s.status with
  | SESS_STATUS_NONE => exact ⟨fun ht => absurd ht (free_only hw hs), fun ht => absurd rfl ht.1⟩
  | SESS_STATUS_ON_MACBIND =>
    refine ⟨fun ht => ?_, fun ht => absurd rfl ht.2⟩
    by_cases herr : packetErrCode pkt = 1
    · rw [if_pos herr] at ht
      exact absurd ht (free_only hw hs)
    · rw [if_neg herr, twp_some (setSess_eq hs)] at ht
      refine absurd ht (set_touched hs fun he => ?_)
      rw [← he] at hst
      cases hst
  | SESS_STATUS_MACBOUND | SESS_STATUS_CHALLENGED | SESS_STATUS_ON_CHAPAUTH | SESS_STATUS_ON_PAPAUTH
  | SESS_STATUS_AFF_WAIT | SESS_STATUS_LOGOUT_WAIT | SESS_STATUS_NTF_LOGOUT_WAIT =>
    simp [twp_nothing, Untouched.refl]

theorem twp_acknowledged {check : Bool} {sess : Nat → Nat → PortalM Unit} {status : SessStatus}
    (hw : P.Wf env.host) (hu : portalPacketInitIpx env pkt = some u)
    (hlost : ∀ a n b, Keeps (OfDb env.host (Gone b)) (sess a n))
    (hfreed : ∀ a n m, Keeps (LostSess env.host m) (sess a n))
    (hsess : ∀ a n s c, P.db.conns a = some c → P.table.sess n = some s →
      (twp (sess a n) (fun _ => Untouched P) P ↔ s.status ≠ .SESS_STATUS_NONE ∧ s.status ≠ status)) :
    twp (acknowledged env ans pkt check sess) (fun _ => Untouched P) P ↔ ¬ P.SplitConn u ∧
      ∀ a, P.userConn u = some a → (check = true → Admits env P a pkt) → SparesAck P u status := by
  rw [acknowledged, twp_first (askIpx_eq hu)]
  refine (twp_findConn hw fun a b => ?_).trans (and_congr_right fun hone => ?_)
  · refine (Keeps.ask.bind fun _ => Keeps.pure).bind fun passed => Keeps.ite (fun _ => Keeps.pure) fun _ => ?_
    refine steady_ofDb.findSess.bind fun r => ?_
    cases r with
    | none => exact Keeps.pure
    | some n => exact hlost a n b
  · cases ha : P.userConn u with
    | none => simp [twp_nothing, Untouched.refl]
    | some a =>
      obtain ⟨c, hc⟩ := userConn_some hw hone ha
      simp only [Option.some.injEq, forall_eq']
      rw [twp_first (requestCheck_eq hc)]
      by_cases hstop : check = true ∧ ¬ Admits env P a pkt
      · rw [if_pos (by simp [hstop]), twp_nothing]
        exact iff_of_true (.refl P) fun hadmits => absurd (hadmits hstop.1) hstop.2
      · have hgo : check = true → Admits env P a pkt := fun hcheck =>
          Classical.byContradiction fun hno => hstop ⟨hcheck, hno⟩
        rw [if_neg (by simpa using hgo)]
        refine (twp_findSess hw fun n m => hfreed a n m).trans ?_
        rw [forall_prop_of_true hgo, SparesAck]
        refine and_congr_right fun _ => ?_
        cases hn : P.userSess u with
        | none => simp [twp_nothing, Untouched.refl]
        | some n =>
          obtain ⟨s, hs⟩ := userSess_some hw.table hn
          rw [← hn, all_found hn hs]
          exact hn ▸ hsess a n s c hc hs

/-! ## Requests -/

theorem createNoArp_eq : appconnCreateNoArp env ans u P =
    some ((P.db.appconnCreateNoArp env.host u ans.make).1, P.attempted env ans u) := rfl

theorem attempted_wf (hw : P.Wf env.host) : (P.attempted env ans u).Wf env.host :=
  have hm := AppDb.made_make P.db env.host u ans.make.usermac ans.make.mem ans.make.intf ans.make.nasportid
    (P.db.askWireless ans.make.usermac ans.make.sta)
  (@Quiet.create _ ans _ _ _ .refl hm.1).wf hw

/-- A connection is made, or nothing is changed. -/
theorem attempted_cases (hw : P.Wf env.host) :
    (P.db.CanMake ans.make u ∧ (P.db.appconnCreateNoArp env.host u ans.make).1 = some P.db.brk ∧
      OfDb env.host (There P.db.brk) (P.attempted env ans u) ∧
      ((P.attempted env ans u).account P.db.brk).authed = false) ∨
    (¬ P.db.CanMake ans.make u ∧ (P.db.appconnCreateNoArp env.host u ans.make).1 = none ∧
      Untouched P (P.attempted env ans u)) := by
  have hm := AppDb.made_make P.db env.host u ans.make.usermac ans.make.mem ans.make.intf ans.make.nasportid
    (P.db.askWireless ans.make.usermac ans.make.sta)
  obtain ⟨hcan, hr⟩ | ⟨hcan, hr, hdb⟩ := P.db.createNoArp_cases env.host u ans.make
  · exact .inl ⟨hcan, hr, ⟨attempted_wf hw, (hm.2 _ hr).2⟩, by simp [attempted]⟩
  · refine .inr ⟨hcan, hr, hdb, fun a c hc => ?_, rfl, rfl, rfl⟩
    have hne : a ≠ P.db.brk := fun he => by simp [he, hw.db.next] at hc
    simp [attempted, hne]

/-- A conflict that is removed is seen. -/
theorem conflict_touched (hw : P'.Wf h) (hc : P.db.conns b = some c) :
    ¬ twp (appconnCleanConflict ans b) (fun _ => Untouched P) P' := by
  refine not_twp (wlp_appconnCleanConflict hw fun P'' _ hdb _ => lost_touched ?_ hc)
  simp [hdb, AppDb.without]

/-- What is done to the connection of `u`, which may be a new one. -/
theorem twp_serve {auto : Bool} {reject : PortalM Unit} {body : Nat → PortalM Unit} {spares : Nat → Prop}
    (hw : P.Wf env.host) (htel : env.protocol = .PORTAL_PROTOCOL_TELECOM)
    (hlost : ∀ a b, Keeps (OfDb env.host (Gone b)) (body a))
    (hmade : ∀ {a P'}, OfDb env.host (There a) P' → (P'.account a).authed = false →
      wlp (body a) (fun _ => OfDb env.host (There a)) P')
    (hbody : ∀ a c, P.db.conns a = some c → Admits env P a pkt →
      (twp (body a) (fun _ => Untouched P) P ↔ spares a)) :
    twp (serve env ans auto u pkt reject body) (fun _ => Untouched P) P ↔
      SparesServed env ans P u pkt auto spares := by
  rw [serve, reach, bind_assoc]
  refine (twp_findConn hw fun a b => ?_).trans (and_congr_right fun hone => ?_)
  · change Keeps _ (requestCheck env a pkt >>= fun passed => if passed = true then body a else pure ())
    refine (Keeps.ask.bind fun _ => Keeps.pure).bind fun passed => ?_
    exact Keeps.ite (fun _ => hlost a b) fun _ => Keeps.pure
  cases ha : P.userConn u with
  | some a =>
    obtain ⟨c, hc⟩ := userConn_some hw hone ha
    change twp (requestCheck env a pkt >>= fun passed => if passed = true then body a else pure ()) _ P ↔ _
    rw [twp_first (requestCheck_eq hc)]
    by_cases hadmits : Admits env P a pkt
    · rw [if_pos (by simpa using hadmits), hbody a c hc hadmits]
      simp [hadmits]
    · rw [if_neg (by simpa using hadmits), twp_nothing]
      simp [hadmits, Untouched.refl]
  | none =>
    cases auto with
    | false =>
      simp only [Bool.false_eq_true, if_false, pure_bind, htel, if_true]
      rw [twp_nothing]
      simp [Untouched.refl]
    | true =>
      simp only [if_true, bind_assoc, pure_bind, htel]
      rw [twp_first (checkIsConflict_eq hw), twp_first createNoArp_eq]
      cases hb : conflictOf env P u ans.make.usermac with
      | some b =>
        obtain ⟨c, hc⟩ := conflictOf_some hb
        refine iff_of_false ?_ (by simp)
        cases (P.db.appconnCreateNoArp env.host u ans.make).1 with
        | none => exact conflict_touched (attempted_wf hw) hc
        | some a => exact conflict_touched (attempted_wf hw) hc
      | none =>
        obtain ⟨hcan, hr, hd, hfalse⟩ | ⟨hcan, hr, hsame⟩ := @attempted_cases _ env ans u hw
        · -- the new connection stays
          refine iff_of_false (not_twp (wlp_mono (fun _ _ (hd' : OfDb env.host (There P.db.brk) _) =>
        hd'.made hw.db.next) ?_)) ?_
          · rw [hr]
            simp only [wlp_bind, wlp_requestCheck, wlp_ite, wlp_pure]
            exact fun _ _ => ⟨fun _ => hmade hd hfalse, fun _ => hd⟩
          · simp [hcan]
        · rw [hr, twp_nothing]
          exact iff_of_true hsame (by simp [hcan])

/-- A request whose handler leaves the connections alone once it has got to one. -/
theorem twp_serve_kept {auto : Bool} {reject : PortalM Unit} {body : Nat → PortalM Unit} {spares : Nat → Prop}
    (hw : P.Wf env.host) (htel : env.protocol = .PORTAL_PROTOCOL_TELECOM)
    (hkeep : ∀ p a, Keeps (OfDb env.host p) (body a))
    (hbody : ∀ a c, P.db.conns a = some c → Admits env P a pkt →
      (twp (body a) (fun _ => Untouched P) P ↔ spares a)) :
    twp (serve env ans auto u pkt reject body) (fun _ => Untouched P) P ↔
      SparesServed env ans P u pkt auto spares :=
  twp_serve hw htel (fun a _ => hkeep _ a) (fun hd _ => hkeep _ _ _ hd) hbody

theorem untouched_reqid (reqid : UInt16) : Untouched { P with prev_reqid := reqid } = Untouched P := by
  funext P'
  exact propext ⟨fun hu => ⟨hu.db, hu.account, hu.table, hu.authed_user_num, hu.radius⟩,
    fun hu => ⟨hu.db, hu.account, hu.table, hu.authed_user_num, hu.radius⟩⟩

theorem nas_same (hip : (P.account a).nasip = P.conf.nasip) (hipv6 : (P.account a).nasipv6 = P.conf.nasipv6) :
    P.nasConfigured a = P := by
  rw [nasConfigured, ← hip, ← hipv6, Function.update_eq_self]

/-- The addresses of the service are seen in the connection. -/
theorem nas_touched {m : PortalM Unit} (hw : P.Wf h) (hc : P.db.conns a = some c)
    (hne : ¬ ((P.account a).nasip = P.conf.nasip ∧ (P.account a).nasipv6 = P.conf.nasipv6))
    (hm : Keeps (Marked h (fun x => (x.nasip, x.nasipv6)) a (P.conf.nasip, P.conf.nasipv6)) m) :
    ¬ twp m (fun _ => Untouched P) (P.nasConfigured a) := by
  have hmarked : Marked h (fun x => (x.nasip, x.nasipv6)) a (P.conf.nasip, P.conf.nasipv6) (P.nasConfigured a) :=
    ⟨⟨hw.db, hw.table⟩, by simp [nasConfigured]⟩
  refine not_twp (wlp_mono (fun _ _ hm => hm.touched hc fun he => hne ?_) (hm _ hmarked))
  obtain ⟨hip, hipv6⟩ := Prod.mk.inj he
  exact ⟨hip.symm, hipv6.symm⟩

theorem twp_challengeBody {f : Option Nat → PortalM Unit} (hw : P.Wf h) (hc : P.db.conns a = some c)
    (hnone : f none = Portal.send ack) (hsome : ∀ n, f (some n) = challengeSess ans pkt rsppkt a n) :
    twp (configNas a >>= fun _ => reachSess u ans.sess_mem >>= f) (fun _ => Untouched P) P ↔
      SparesChallenge ans P u (packetRsv pkt) a := by
  by_cases hnas : (P.account a).nasip = P.conf.nasip ∧ (P.account a).nasipv6 = P.conf.nasipv6
  · rw [twp_first (configNas_eq hc), nas_same hnas.1 hnas.2,
      twp_reachSess hw fun n m => by rw [hsome]; exact inert_lostSess.challengeSess]
    simp only [SparesChallenge, hnas, true_and, hnone, hsome, twp_sends]
    refine and_congr_right fun _ => ?_
    cases hn : P.userSess u with
    | some n =>
      obtain ⟨s, hs⟩ := userSess_some hw.table hn
      rw [← hn, all_found hn hs]
      simp [hn, twp_challengeSess hs hc]
    | none =>
      have hnew := @challengeSess_new P { P with table := P.table.portalSessNew u } ans a P.table.brk _ pkt rsppkt
        hw.table.next portalSessNew_sess rfl
      cases ans.sess_mem with
      | false => simp [Untouched.refl]
      | true => simp [hnew]
  · rw [twp_first (configNas_eq hc)]
    refine iff_of_false (nas_touched hw hc hnas ?_) fun hs => hnas ⟨hs.1, hs.2.1⟩
    refine (inert_marked.reachSess fun hm hT => hm.tables hT).bind fun r => ?_
    cases r with
    | none =>
      rw [hnone]
      exact inert_marked.sends
    | some n =>
      rw [hsome]
      exact inert_marked.challengeSess

theorem twp_challengeProc (hw : P.Wf env.host) (htel : env.protocol = .PORTAL_PROTOCOL_TELECOM)
    (hu : portalPacketInitIpx env pkt = some u) :
    twp (challengeProc env ans pkt) (fun _ => Untouched P) P ↔
      SparesServed env ans P u pkt P.conf.auto_session (SparesChallenge ans P u (packetRsv pkt)) := by
  obtain ⟨rsppkt, reqid, hrsp⟩ := initRsp_eq (P := P) hu
  have hmobile : env.protocol ≠ .PORTAL_PROTOCOL_MOBILE := by simp [htel]
  rw [challengeProc, twp_first (askIpx_eq hu), twp_first hrsp, ← untouched_reqid reqid]
  rw [twp_first (a := P.conf) (t := { P with prev_reqid := reqid }) rfl]
  rw [if_neg (by simp [hmobile])]
  refine twp_serve_kept (P := { P with prev_reqid := reqid }) ⟨hw.db, hw.table⟩ htel (fun p a => ?_) fun a c hc _ => ?_
  · refine steady_ofDb.configNas.bind fun _ => (steady_ofDb.toInert.reachSess fun hd hT => hd.tables hT).bind fun r => ?_
    cases r with
    | none => exact steady_ofDb.sends
    | some n => exact steady_ofDb.challengeSess
  · exact twp_challengeBody (P := { P with prev_reqid := reqid }) ⟨hw.db, hw.table⟩ hc rfl fun _ => rfl

theorem twp_logoutBody {f : Option Nat → PortalM Unit} (hw : P.Wf h) (hc : P.db.conns a = some c)
    (hnone : f none = Portal.send ack) (hsome : ∀ n, f (some n) = logoutSess ans pkt rsppkt a n) :
    twp (reachSess u ans.sess_mem >>= f) (fun _ => Untouched P) P ↔ SparesLogout ans P u (packetRsv pkt) a := by
  have hkeep : ∀ n m, Keeps (LostSess h m) (f (some n)) := by
    intro n m P' hl
    rw [hsome]
    exact inert_lostSess.logoutSess hl fun hl' hd hacc hauth =>
      hl'.quiet ((@Quiet.refl _ ans _).terminate hd (hacc ▸ hauth))
  refine (twp_reachSess hw hkeep).trans (and_congr_right fun _ => ?_)
  simp only [hnone, hsome, twp_sends]
  cases hn : P.userSess u with
  | some n =>
    obtain ⟨s, hs⟩ := userSess_some hw.table hn
    rw [← hn, all_found hn hs]
    simp [hn, twp_logoutSess hw hs hc]
  | none =>
    have hnew := hw.table.new (userSess_none hw.table hn)
    cases ans.sess_mem with
    | false => simp [Untouched.refl]
    | true => simp [twp_logoutSess_new hw hnew hc]

theorem twp_logoutProc (hw : P.Wf env.host) (htel : env.protocol = .PORTAL_PROTOCOL_TELECOM)
    (hu : portalPacketInitIpx env pkt = some u) :
    twp (logoutProc env ans pkt) (fun _ => Untouched P) P ↔
      SparesServed env ans P u pkt true (SparesLogout ans P u (packetRsv pkt)) := by
  obtain ⟨rsppkt, reqid, hrsp⟩ := initRsp_eq (P := P) hu
  rw [logoutProc, twp_first (askIpx_eq hu), twp_first hrsp, ← untouched_reqid reqid]
  refine twp_serve (P := { P with prev_reqid := reqid }) ⟨hw.db, hw.table⟩ htel (fun a b => ?_) (fun {a P'} hd hfalse => ?_)
    fun a c hc _ => ?_
  · refine (steady_ofDb.toInert.reachSess fun hd hT => hd.tables hT).bind fun r => ?_
    cases r with
    | none => exact steady_ofDb.sends
    | some n =>
      exact fun P' hl => steady_ofDb.logoutSess hl fun hl' hd hacc hauth =>
        hl'.quiet ((@Quiet.refl _ ans _).terminate hd (hacc ▸ hauth))
  · -- a connection that has just been made is not authenticated
    have hlogout : ∀ n T, SessTable.Sound T → wlp (logoutSess ans pkt rsppkt a n)
        (fun _ => OfDb env.host (There a)) { P' with table := T } := fun n T hT =>
      steady_ofDb.logoutSess (hd.tables hT) fun _ _ _ hauth => absurd hauth (by simp [hfalse])
    refine wlp_bind.mpr (wlp_reachSess hd.wf.table (fun _ _ => ?_) (fun n T hf => ?_) fun _ hno => ?_)
    · exact steady_ofDb.sends P' hd
    · exact hlogout n T hf.sound
    · exact hlogout _ _ (hd.wf.table.new hno)
  · exact twp_logoutBody (P := { P with prev_reqid := reqid }) ⟨hw.db, hw.table⟩ hc rfl fun _ => rfl

/-- What a login does once the portal server is configured. -/
theorem Steady.loginBody {I : Portal → Prop} {f : Option Nat → PortalM Unit} {mem : Bool} {username : List UInt8}
    {sess : Nat → PortalM Unit} (hi : Steady h I) (hnew : ∀ {P T}, I P → T.Sound → I { P with table := T })
    (hsess : ∀ n, Keeps I (sess n)) (hnone : f none = Portal.send ack)
    (hsome : ∀ n, f (some n) = (do
      let s ← sessOf n
      setSess n { s with username := username }
      sess n)) : Keeps I (reachSess u mem >>= f) := by
  refine (hi.reachSess hnew).bind fun r => ?_
  cases r with
  | none =>
    rw [hnone]
    exact hi.sends
  | some n =>
    intro P hI
    rw [hsome]
    simp only [wlp_bind, wlp_sessOf, wlp_setSess]
    exact fun s hs _ _ => hsess n _ (hi.set hI hs rfl)

theorem config_marked {srv : PortalSrv} (hw : P.Wf h) :
    wlp (appconnConfigPortalsrv a srv) (fun _ => Marked h Account.secret a srv.secret) P :=
  wlp_setAccount.mpr fun _ _ => ⟨⟨hw.db, hw.table⟩, by simp⟩

/-- A login that is admitted with another secret than the one of the portal server leaves that one in the
connection. -/
theorem twp_authProc {nas : Bool} {sess : Ack → List UInt8 → Nat → Nat → PortalM Unit} {srv : PortalSrv}
    (hw : P.Wf env.host) (htel : env.protocol = .PORTAL_PROTOCOL_TELECOM) (hsrv : ans.portal_srv = some srv)
    (hfail : (portalRequestCheck env.protocol env.md5 pkt srv.secret).2 ≠ 0)
    (hu : portalPacketInitIpx env pkt = some u)
    (hsess : ∀ {I}, Steady env.host I → ∀ rsppkt username a n, Keeps I (sess rsppkt username a n)) :
    twp (authProc env ans pkt nas sess) (fun _ => Untouched P) P ↔
      packetUsername env pkt ≠ none ∧ SparesServed env ans P u pkt P.conf.auto_session fun _ => False := by
  obtain ⟨rsppkt, reqid, hrsp⟩ := initRsp_eq (P := P) hu
  rw [authProc, twp_first (askIpx_eq hu), twp_first hrsp, ← untouched_reqid reqid]
  cases hname : packetUsername env pkt with
  | none =>
    refine iff_of_false ?_ fun ht => ht.1 rfl
    rw [twp_bind]
    rintro ⟨x, P', hx, -⟩
    simp [ask] at hx
  | some username =>
    rw [twp_first (a := username) (t := { P with prev_reqid := reqid }) rfl,
      twp_first (a := P.conf) (t := { P with prev_reqid := reqid }) rfl, hsrv]
    refine (twp_serve_kept (P := { P with prev_reqid := reqid }) ⟨hw.db, hw.table⟩ htel (fun p a => ?_)
      fun a c hc hadmits => ?_).trans ⟨fun ht => ⟨by simp, ht⟩, fun ht => ht.2⟩
    · refine Keeps.bind (Keeps.ite (fun _ => steady_ofDb.configNas) fun _ => Keeps.pure) fun _ => ?_
      refine ofDb_setAccount.bind fun _ => ?_
      exact steady_ofDb.loginBody (fun hd hT => hd.tables hT) (fun n => hsess steady_ofDb _ _ _ n) rfl fun _ => rfl
    · refine iff_of_false (not_twp (wlp_bind.mpr (wlp_mono (fun _ P₂ hnas => ?_) wlp_nas))) not_false
      dsimp only
      rw [wlp_bind]
      refine wlp_mono (fun _ P₃ hm => ?_) (config_marked ⟨hnas.db ▸ hw.db, hnas.table ▸ hw.table⟩)
      have hne : srv.secret ≠ (P.account a).secret := fun he => hfail (by rw [he]; exact hadmits)
      refine wlp_mono (fun _ _ (hm' : Marked env.host Account.secret a srv.secret _) => hm'.touched hc hne) ?_
      exact steady_marked.loginBody (fun hm hT => hm.tables hT) (fun n => hsess steady_marked _ _ _ n) rfl
        (fun _ => rfl) P₃ hm

theorem twp_reqinfoProc (hw : P.Wf env.host) (htel : env.protocol = .PORTAL_PROTOCOL_TELECOM)
    (hu : portalPacketInitIpx env pkt = some u) :
    twp (reqinfoProc env ans pkt) (fun _ => Untouched P) P ↔
      ¬ P.SplitConn u ∧ (P.userConn u = none → ¬ P.db.CanMake ans.make u) := by
  obtain ⟨rsppkt, reqid, hrsp⟩ := initRsp_eq (P := P) hu
  rw [reqinfoProc, twp_first (askIpx_eq hu), twp_first hrsp, ← untouched_reqid reqid, reach, bind_assoc]
  refine (twp_findConn (P := { P with prev_reqid := reqid }) ⟨hw.db, hw.table⟩ fun a b => ?_).trans
    (and_congr_right fun hone => ?_)
  · simp only [pure_bind]
    refine (Keeps.ask.bind fun _ => Keeps.pure).bind fun passed => ?_
    exact Keeps.ite (fun _ => Keeps.ask.bind fun _ => steady_ofDb.sends) fun _ => Keeps.pure
  · rw [show Portal.userConn { P with prev_reqid := reqid } u = P.userConn u from rfl]
    cases ha : P.userConn u with
    | some a =>
      obtain ⟨c, hc⟩ := userConn_some hw hone ha
      simp only [pure_bind]
      rw [twp_first (requestCheck_eq (P := { P with prev_reqid := reqid }) hc)]
      refine iff_of_true ?_ (by simp)
      split
      · rw [twp_first (accountOf_eq (P := { P with prev_reqid := reqid }) hc), twp_sends]
        exact .refl _
      · exact twp_nothing.mpr (.refl _)
    | none =>
      have hw : Portal.Wf env.host { P with prev_reqid := reqid } := ⟨hw.db, hw.table⟩
      simp only [if_true, bind_assoc, pure_bind, htel]
      rw [twp_first (checkIsConflict_eq hw), twp_first createNoArp_eq]
      obtain ⟨hcan, hr, hd, -⟩ | ⟨hcan, hr, hsame⟩ := @attempted_cases _ env ans u hw
      · refine iff_of_false (not_twp (wlp_mono (fun _ _ (hd' : OfDb env.host (There P.db.brk) _) => hd'.made hw.db.next) ?_)) ?_
        · rw [hr]
          cases conflictOf env { P with prev_reqid := reqid } u ans.make.usermac with
          | none =>
            simp only [wlp_bind, wlp_requestCheck, wlp_ite, wlp_pure, wlp_accountOf, wlp_send]
            exact fun _ _ => ⟨fun _ _ _ => steady_ofDb.send hd, fun _ => hd⟩
          | some b => exact wlp_pure.mpr hd
        · simp [hcan]
      · rw [hr, twp_nothing]
        exact iff_of_true hsame (by simpa using hcan)

theorem twp_userOfflineProc (hw : P.Wf env.host) (hu : portalPacketInitIpx env pkt = some u) :
    twp (userOfflineProc env ans pkt) (fun _ => Untouched P) P ↔
      ∀ usermac, packetUsermac env pkt = some usermac → ¬ P.SplitConn u ∧
        ∀ a c, P.userConn u = some a → P.db.conns a = some c → c.usermac ≠ usermac := by
  rw [userOfflineProc, twp_first (askIpx_eq hu)]
  cases packetUsermac env pkt with
  | none => exact iff_of_true (twp_nothing.mpr (.refl P)) (by simp)
  | some usermac =>
    simp only [Option.some.injEq, forall_eq']
    refine (twp_findConn hw fun a b P' hl => ?_).trans (and_congr_right fun hone => ?_)
    · simp only [wlp_bind, wlp_connOf, wlp_accountOf]
      intro d hd e _
      have hleave : wlp (leave ans a) (fun _ => OfDb env.host (Gone b)) P' :=
        wlp_leave hl.wf fun P'' hq => hl.quiet hq
      rw [leave, wlp_bind, wlp_accountOf] at hleave
      exact wlp_ite.mpr ⟨fun _ => wlp_pure.mpr hl, fun _ => hleave d hd⟩
    · cases ha : P.userConn u with
      | none => exact iff_of_true (twp_nothing.mpr (.refl P)) (by simp)
      | some a =>
        obtain ⟨c, hc⟩ := userConn_some hw hone ha
        dsimp only
        rw [twp_first (connOf_eq hc), twp_first (accountOf_eq hc)]
        by_cases hmac : c.usermac = usermac
        · refine iff_of_false ?_ fun hall => hall a c rfl hc hmac
          rw [if_neg (not_not.mpr hmac)]
          by_cases hauth : (P.account a).authed = true
          · rw [if_pos hauth]
            refine not_twp (wlp_bind.mpr (wlp_notifyLogoutNowait hw.table fun T hT _ => ?_))
            exact wlp_mono (fun _ _ hl => lost_touched hl.db.1 hc) (terminate_gone (h := env.host) ⟨hw.db, hT⟩)
          · rw [if_neg hauth]
            refine not_twp ((wlp_dropAppconn hw.db).mpr fun _ _ => lost_touched ?_ hc)
            simp [AppDb.without]
        · rw [if_pos hmac, twp_nothing]
          refine iff_of_true (.refl P) fun b d hb hd => ?_
          obtain rfl := Option.some.inj hb
          rw [hc, Option.some.injEq] at hd
          exact hd ▸ hmac

theorem twp_logoutErrcode1Proc (hw : P.Wf env.host) (hu : portalPacketInitIpx env pkt = some u) :
    twp (logoutErrcode1Proc env ans pkt) (fun _ => Untouched P) P ↔ ¬ P.SplitConn u := by
  rw [logoutErrcode1Proc, twp_first (askIpx_eq hu), twp_findConn hw fun _ _ => Keeps.pure, twp_nothing]
  exact and_iff_left (.refl P)

theorem acked_unchecked {φ : Prop} :
    (∀ a, P.userConn u = some a → (false = true → Admits env P a pkt) → φ) ↔ (P.userConn u ≠ none → φ) := by
  cases P.userConn u <;> simp

/-- What each packet comes to that was not made with the secret of the portal server. -/
theorem twp_portalProcPacket {srv : PortalSrv} (hw : P.Wf env.host)
    (htel : env.protocol = .PORTAL_PROTOCOL_TELECOM) (hsrv : ans.portal_srv = some srv)
    (hfail : (portalRequestCheck env.protocol env.md5 pkt srv.secret).2 ≠ 0)
    (hknown : packetType pkt ∈ portalTypes) :
    twp (portalProcPacket env ans pkt) (fun _ => Untouched P) P ↔ Harmless env ans P pkt := by
  rw [Portal.portalProcPacket, Harmless, forall_prop_of_true hknown]
  cases hu : portalPacketInitIpx env pkt with
  | none =>
    refine iff_of_false ?_ (by simp)
    rw [twp_bind]
    rintro ⟨v, P', hv, -⟩
    simp [ask] at hv
  | some u =>
    simp only [Option.some.injEq, exists_eq_left']
    rw [twp_first (a := u) (t := P) rfl]
    refine twp_ite (fun _ => twp_challengeProc hw htel hu) fun _ => twp_ite (fun _ => ?_) fun _ =>
      twp_ite (fun _ => ?_) fun _ => twp_ite (fun _ => ?_) fun _ => twp_ite (fun _ => ?_) fun _ =>
      twp_ite (fun _ => twp_reqinfoProc hw htel hu) fun _ => twp_ite (fun _ => ?_) fun _ =>
      twp_ite (fun _ => twp_userOfflineProc hw hu) fun _ => iff_of_true (twp_nothing.mpr (.refl P)) trivial
    · have hlogin : ∀ {nas : Bool} {sess : Ack → List UInt8 → Nat → Nat → PortalM Unit},
          (∀ {I}, Steady env.host I → ∀ rsppkt username a n, Keeps I (sess rsppkt username a n)) →
          (twp (authProc env ans pkt nas sess) (fun _ => Untouched P) P ↔ packetUsername env pkt ≠ none ∧
            SparesServed env ans P u pkt P.conf.auto_session fun _ => False) :=
        twp_authProc hw htel hsrv hfail hu
      by_cases hchap : packetAuthType pkt = AUTH_CHAP
      · rw [if_pos hchap, forall_prop_of_true (.inl hchap)]
        exact hlogin fun hi _ _ _ _ => hi.chapauthSess
      · rw [if_neg hchap]
        by_cases hpap : packetAuthType pkt = AUTH_PAP
        · rw [if_pos hpap, forall_prop_of_true (.inr hpap)]
          exact hlogin fun hi _ _ _ _ => hi.papauthSess
        · rw [if_neg hpap, twp_nothing]
          exact iff_of_true (.refl P) fun h => absurd h (not_or.mpr ⟨hchap, hpap⟩)
    · by_cases hzero : packetErrCode pkt = 0
      · rw [if_pos hzero, twp_logoutProc hw htel hu]
        simp [hzero]
      · rw [if_neg hzero]
        by_cases hone : packetErrCode pkt = 1
        · rw [if_pos hone, twp_logoutErrcode1Proc hw hu]
          simp [hone]
        · rw [if_neg hone, twp_nothing]
          simp [hzero, hone, Untouched.refl]
    · refine (twp_acknowledged hw hu (fun a n b => stable_gone.ackLogoutSess) (fun a n m => .ackLogoutSess)
        fun a n s c hc hs => twp_ackLogoutSess hw hs hc).trans (and_congr_right fun _ => acked_unchecked)
    · refine (twp_acknowledged hw hu (fun a n b => keeps_affAckAuthSess steady_ofDb.free)
        (fun a n m => keeps_affAckAuthSess inert_lostSess.free)
        fun a n s c _ hs => twp_affAckAuthSess hw hs).trans (and_congr_right fun _ => ?_)
      simp
    · refine (twp_acknowledged hw hu (fun a n b => steady_ofDb.ackMacbindSess)
        (fun a n m => inert_lostSess.ackMacbindSess)
        fun a n s c _ hs => twp_ackMacbindSess hw hs).trans (and_congr_right fun _ => acked_unchecked)

end

end Portal

namespace PortalOp

open Portal

/-- In every state that the portal comes to, a packet that the check with the secret of the portal server refuses
leaves everything as it was exactly if it is harmless. -/
theorem spoofed_iff (env : PortalEnv) (hash_num : UInt32) (retry_interval retry_times vice_retry_times now : Int)
    (ops : List PortalOp) (P : Portal) (ans : PortalAnswers) (pkt : Packet) (nbyte : Nat) (srv : PortalSrv)
    (hrun : tryRun (step env) (Portal.create hash_num retry_interval retry_times vice_retry_times now) ops =
      some P)
    (htel : env.protocol = .PORTAL_PROTOCOL_TELECOM) (hstarted : P.started = true)
    (haccepts : portalAccepts env pkt nbyte) (hsrv : ans.portal_srv = some srv)
    (hfail : (portalRequestCheck env.protocol env.md5 pkt srv.secret).2 ≠ 0) :
    twp (portalReceive env ans pkt nbyte) (fun _ => Untouched P) P ↔ Harmless env ans P pkt := by
  rw [portalReceive, twp_first (a := P.started) (t := P) rfl]
  by_cases hknown : packetType pkt ∈ portalTypes
  · rw [if_pos ⟨hstarted, haccepts, hknown⟩]
    exact twp_portalProcPacket (wf_reached hrun) htel hsrv hfail hknown
  · rw [if_neg fun h => hknown h.2.2, twp_nothing]
    exact iff_of_true (.refl P) fun h => absurd h hknown

/-! ## Runs -/

/-- A portal of the telecom protocol. -/
def telecomEnv : PortalEnv := { sampleEnv with protocol := .PORTAL_PROTOCOL_TELECOM }

/-- A packet of the user 0.0.0.5, with an authenticator that no secret gives. -/
def spoofed (type : UInt8) (attr : List UInt8) : Packet :=
  octets ([1, type, 0, 0, 0, 0, 0, 1, 0, 0, 0, 5, 0, 0, 0, if attr = [] then 0 else 1] ++ List.replicate 16 1 ++ attr)

/-- The station is known, and its portal server is. -/
def stationKnown : List PortalOp :=
  [.createBySta { sampleAnswers with portal_srv := some ⟨[115], []⟩ } ⟨EAG_IPV4, 5, .zero⟩]

/-- A REQ_CHALLENGE that the connection of the station does not admit. -/
theorem challenge_untouched : ∃ P, tryRun (step telecomEnv) (Portal.create 4 3 0 0 0) stationKnown = some P ∧
    P.db.head = [0] ∧
    twp (portalReceive telecomEnv { sampleAnswers with portal_srv := some ⟨[115], []⟩ } (spoofed REQ_CHALLENGE []) 32)
      (fun _ => Untouched P) P := by
  have hsome : (tryRun (step telecomEnv) (Portal.create 4 3 0 0 0) stationKnown).any (fun P =>
      P.started = true ∧ P.db.head = [0] ∧ P.userConn ⟨EAG_IPV4, 5, .zero⟩ = some 0 ∧
        ¬ Admits telecomEnv P 0 (spoofed REQ_CHALLENGE [])) = true := by decide +kernel
  obtain ⟨P, hrun, hfacts⟩ := (Option.any_eq_true _ _).mp hsome
  obtain ⟨hstarted, hhead, hconn, hno⟩ := of_decide_eq_true hfacts
  refine ⟨P, hrun, hhead, (spoofed_iff telecomEnv 4 3 0 0 0 _ P _ _ 32 ⟨[115], []⟩ hrun rfl hstarted (by decide) rfl
    (by decide)).mpr fun _ => ⟨⟨EAG_IPV4, 5, .zero⟩, by decide, ?_⟩⟩
  rw [if_pos (by decide)]
  refine ⟨fun hsplit => absurd hsplit.1 (by decide), fun a ha hadmits => ?_, fun hnone => ?_⟩
  · rw [hconn, Option.some.injEq] at ha
    exact absurd (ha ▸ hadmits) hno
  · rw [hconn] at hnone
    cases hnone

/-- REQ_USER_OFFLINE of the station, with its MAC address: the connection goes. -/
theorem spoofed_offline : ¬ ∀ ops P ans pkt nbyte srv,
    tryRun (step telecomEnv) (Portal.create 4 3 0 0 0) ops = some P → P.started = true →
    portalAccepts telecomEnv pkt nbyte → ans.portal_srv = some srv →
    (portalRequestCheck telecomEnv.protocol telecomEnv.md5 pkt srv.secret).2 ≠ 0 →
    twp (portalReceive telecomEnv ans pkt nbyte) (fun _ => Untouched P) P := by
  intro hall
  have hsome : (tryRun (step telecomEnv) (Portal.create 4 3 0 0 0) stationKnown).any (fun P =>
      P.started = true ∧ (P.db.conns 0).isSome ∧
        (portalReceive telecomEnv sampleAnswers (spoofed REQ_USER_OFFLINE [ATTR_USERMAC, 8, 0, 0, 0, 0, 0, 5]) 40 P).all
          fun x => (x.2.db.conns 0).isNone) = true := by decide +kernel
  obtain ⟨P, hrun, hfacts⟩ := (Option.any_eq_true _ _).mp hsome
  obtain ⟨hstarted, hconn, hgone⟩ := of_decide_eq_true hfacts
  obtain ⟨v, P', hrec, hu⟩ := hall _ P sampleAnswers (spoofed REQ_USER_OFFLINE [ATTR_USERMAC, 8, 0, 0, 0, 0, 0, 5]) 40
    ⟨[], []⟩ hrun hstarted (by decide) rfl (by decide)
  rw [hrec, Option.all_some, hu.conns, Option.isNone_iff_eq_none] at hgone
  rw [hgone] at hconn
  cases hconn

end PortalOp

end Eag
end DaemonGroup
