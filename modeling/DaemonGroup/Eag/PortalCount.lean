import DaemonGroup.Eag.PortalAcks
import Mathlib.Data.List.Count
import Mathlib.Data.List.Perm.Basic

/-!
# DaemonGroup.Eag.PortalCount

The users that are counted, and the accounting of each of them (`Booked`), in every run in which memory is
never short and each step finds the connection that it counts or terminates as it takes it to be
(`PortalOp.Orderly`).

* `Counted env P` — the tables are in order and the books are right.
* `Ready env P` — each authenticated user has a name, too. Most handlers keep it.
-/

namespace DaemonGroup
namespace Eag

open Lib Bytes

namespace Portal

/-- The state of a connection is APPCONN_STATUS_AUTHED. -/
def isAuthed (P : Portal) (a : Nat) : Bool := (P.db.conns a).isSome && (P.account a).authed

/-- Accounting-Start requests less Accounting-Stop requests of a connection. -/
def acctBalance (P : Portal) (a : Nat) : Int :=
  (P.acct.count (a, .RADIUS_STATUS_TYPE_START) : Int) - P.acct.count (a, .RADIUS_STATUS_TYPE_STOP)

/-- The count of the users is the number of connections that are authenticated, and for each of them accounting
has been started once more than it has been stopped. -/
structure Booked (P : Portal) : Prop where
  num : P.authed_user_num = P.db.head.countP P.isAuthed
  acct : ∀ a, P.acctBalance a = if P.isAuthed a then 1 else 0

/-- The tables are in order and the books are right. -/
structure Counted (env : PortalEnv) (P : Portal) : Prop where
  wf : P.Wf env.host
  booked : P.Booked

/-- Each authenticated user has a name that accounting can send. -/
def Named (P : Portal) : Prop :=
  ∀ a, P.isAuthed a = true → validName (P.account a).username = true

structure Ready (env : PortalEnv) (P : Portal) : Prop extends Counted env P where
  named : P.Named

section
variable {env : PortalEnv} {ans : PortalAnswers} {P P' : Portal} {a b n : Nat} {s t : PortalSess} {u : UserAddr}
  {ack rsppkt : Ack} {pkt : Packet} {c : AppConn} {wait : Bool} {status_type : AcctStatus}

theorem isAuthed_of (hc : P.db.conns a = some c) : P.isAuthed a = (P.account a).authed := by
  simp [isAuthed, hc]

theorem Wf.mem_head (h : P.Wf env.host) (hc : P.db.conns a = some c) : a ∈ P.db.head :=
  (h.db.listed.2 a).mpr (by simp [hc])

/-- The one connection at which two counts differ is taken out of them. -/
theorem countP_at {l : List Nat} {p q : Nat → Bool} (hl : l.Nodup) (ha : a ∈ l) (hpq : ∀ b, b ≠ a → q b = p b) :
    l.countP p = (l.erase a).countP q + if p a then 1 else 0 := by
  rw [(List.perm_cons_erase ha).countP_eq p, List.countP_cons]
  congr 1
  refine List.countP_congr fun b hb => ?_
  rw [hpq b (hl.mem_erase_iff.mp hb).1]

/-- A connection that is not authenticated is dropped. -/
theorem Booked.drop (h : P.Booked) (hw : P.Wf env.host) (hc : P.db.conns a = some c)
    (hauth : (P.account a).authed = false) : Booked { P with db := P.db.without a } := by
  have hat : P.isAuthed a = false := by rw [isAuthed_of hc, hauth]
  have hoff : ∀ b, b ≠ a → isAuthed { P with db := P.db.without a } b = P.isAuthed b := fun b hb => by
    simp [isAuthed, AppDb.without, hb]
  refine ⟨?_, fun b => ?_⟩
  · have hcount := countP_at hw.db.listed.1 (hw.mem_head hc) hoff
    rw [hat] at hcount
    rw [show Portal.authed_user_num { P with db := P.db.without a } = P.authed_user_num from rfl, h.num, hcount]
    rfl
  · rw [show acctBalance { P with db := P.db.without a } b = P.acctBalance b from rfl, h.acct b]
    by_cases hb : b = a
    · subst hb
      rw [hat]
      simp [isAuthed, AppDb.without]
    · rw [hoff b hb]

theorem acctAsked_acct (hname : validName (P.account a).username = true) (hmem : ∀ k, ans.sock_mem k = true) :
    (P.acctAsked ans a status_type wait c).acct = (a, status_type) :: P.acct := by
  simp [acctAsked, hname, canAsk, hmem]

/-- An authenticated connection is terminated. -/
theorem Booked.terminate (h : P.Booked) (hw : P.Wf env.host) (hmem : ∀ k, ans.sock_mem k = true)
    (hc : P.db.conns a = some c) (hauth : (P.account a).authed = true)
    (hname : validName (P.account a).username = true) : Booked (P.terminated ans a wait c) := by
  have hat : P.isAuthed a = true := by rw [isAuthed_of hc, hauth]
  have hoff : ∀ b, b ≠ a → (P.terminated ans a wait c).isAuthed b = P.isAuthed b := fun b hb => by
    simp [isAuthed, terminated, AppDb.without, hb]
  refine ⟨?_, fun b => ?_⟩
  · have hcount := countP_at hw.db.listed.1 (hw.mem_head hc) hoff
    have hnum := h.num
    simp only [hat, if_true] at hcount
    rw [hcount] at hnum
    change (if P.authed_user_num ≤ 0 then P.authed_user_num else P.authed_user_num - 1) =
      ((P.db.head.erase a).countP (P.terminated ans a wait c).isAuthed : Int)
    rw [if_neg (by omega)]
    omega
  · have hacct : (P.terminated ans a wait c).acct = (a, .RADIUS_STATUS_TYPE_STOP) :: P.acct :=
      acctAsked_acct hname hmem
    have hold := h.acct b
    rw [acctBalance] at hold
    rw [acctBalance, hacct]
    by_cases hb : b = a
    · subst hb
      rw [hat] at hold
      simp [isAuthed, terminated, AppDb.without] at hold ⊢
      omega
    · rw [hoff b hb]
      simpa [List.count_cons, Ne.symm hb] using hold

/-- A connection that is new is not authenticated. -/
theorem Booked.create {db : AppDb} (h : P.Booked) (hw : P.Wf env.host) (hm : AppDb.Made env.host P.db db) :
    Booked { P with db := db, account := Function.update P.account P.db.brk {} } := by
  have hnew : P.db.conns P.db.brk = none := hw.db.next
  have hauth : ∀ b, isAuthed { P with db := db, account := Function.update P.account P.db.brk {} } b =
      P.isAuthed b := by
    intro b
    by_cases hb : b = P.db.brk
    · simp [isAuthed, hb, hnew]
    · have hconns : db.conns b = P.db.conns b := by
        obtain rfl | rfl | ⟨d, rfl⟩ := hm
        · rfl
        · rfl
        · rw [AppDb.addToDb_eq]
          simp [hb]
      simp [isAuthed, hb, hconns]
  refine ⟨?_, fun b => by rw [hauth b]; exact h.acct b⟩
  rw [funext hauth]
  refine h.num.trans ?_
  obtain rfl | rfl | ⟨d, rfl⟩ := hm
  · rfl
  · rfl
  · rw [AppDb.addToDb_eq]
    simp [isAuthed, hnew]

theorem Booked.alike (h : P.Booked) (hdb : P'.db = P.db) (hnum : P'.authed_user_num = P.authed_user_num)
    (hacct : P'.acct = P.acct) (hauth : ∀ a, (P'.account a).authed = (P.account a).authed) : P'.Booked := by
  have hsame : ∀ b, P'.isAuthed b = P.isAuthed b := fun b => by rw [isAuthed, isAuthed, hdb, hauth b]
  refine ⟨?_, fun b => ?_⟩
  · rw [hnum, hdb, funext hsame]
    exact h.num
  · rw [hsame b, acctBalance, hacct]
    exact h.acct b

/-- A connection gets another address. -/
theorem Booked.ipxUpdate (h : P.Booked) : Booked { P with db := P.db.appconnIpxUpdate a u } := by
  have hhead : (P.db.appconnIpxUpdate a u).head = P.db.head := by
    unfold AppDb.appconnIpxUpdate
    repeat' split
    all_goals rfl
  have hsame : ∀ b, isAuthed { P with db := P.db.appconnIpxUpdate a u } b = P.isAuthed b := by
    intro b
    have hconns : ((P.db.appconnIpxUpdate a u).conns b).isSome = (P.db.conns b).isSome := by
      unfold AppDb.appconnIpxUpdate
      by_cases hb : b = a
      · subst hb
        repeat' split
        all_goals simp [*]
      · repeat' split
        all_goals simp [hb]
    rw [isAuthed, isAuthed, hconns]
  refine ⟨?_, fun b => ?_⟩
  · rw [funext hsame, hhead]
    exact h.num
  · rw [hsame b]
    exact h.acct b

theorem Counted.alike (h : Counted env P) (ha : Alike P P') : Counted env P' :=
  ⟨⟨ha.db ▸ h.wf.db, ha.table ▸ h.wf.table⟩, h.booked.alike ha.db ha.authed_user_num ha.acct ha.authed⟩

/-- The sessions do not matter. -/
theorem Counted.table {T : SessTable} (h : Counted env P) (sent : List Ack) (hT : T.Sound) :
    Counted env { P with table := T, sent := sent } :=
  ⟨⟨h.wf.db, hT⟩, h.booked.alike rfl rfl rfl fun _ => rfl⟩

theorem Ready.table {T : SessTable} (h : Ready env P) (sent : List Ack) (hT : T.Sound) :
    Ready env { P with table := T, sent := sent } := ⟨h.toCounted.table sent hT, h.named⟩

theorem Ready.quiet (hmem : ∀ k, ans.sock_mem k = true) (h : Ready env P) (hq : Quiet env.host ans P P') :
    Ready env P' := by
  induction hq with
  | refl => exact h
  | fewer _ hT _ ih => exact ih.table _ hT
  | @drop P' a c _ hc hauth ih =>
    refine ⟨⟨⟨ih.wf.db.without, ih.wf.table⟩, ih.booked.drop ih.wf hc hauth⟩, fun b hb => ih.named b ?_⟩
    by_cases hba : b = a
    · simp [isAuthed, AppDb.without, hba] at hb
    · simpa [isAuthed, AppDb.without, hba] using hb
  | @terminate P' a c wait hq hc hauth ih =>
    have hname := ih.named a (by rw [isAuthed_of hc, hauth])
    refine ⟨⟨(Quiet.refl.terminate hc hauth).wf ih.wf, ih.booked.terminate ih.wf hmem hc hauth hname⟩,
      fun b hb => ?_⟩
    by_cases hba : b = a
    · simp [isAuthed, terminated, AppDb.without, hba] at hb
    · have hold := ih.named b (by simpa [isAuthed, terminated, AppDb.without, hba] using hb)
      simpa [terminated, hba] using hold
  | @create P' db _ hm ih =>
    refine ⟨⟨⟨ih.wf.db.made hm, ih.wf.table⟩, ih.booked.create ih.wf hm⟩, fun b hb => ?_⟩
    by_cases hbrk : b = P'.db.brk
    · simp [isAuthed, hbrk] at hb
    · have hold : P'.isAuthed b = true := by
        simp only [isAuthed, Function.update_of_ne hbrk, Bool.and_eq_true] at hb ⊢
        obtain ⟨c, hc⟩ := Option.isSome_iff_exists.mp hb.1
        exact ⟨by simp [(hm.conn hc).resolve_right hbrk], hb.2⟩
      simpa [hbrk] using ih.named b hold

theorem stable_ready (hmem : ∀ k, ans.sock_mem k = true) : Stable env ans (Ready env) where
  wf h := h.wf
  quiet h hq := h.quiet hmem hq
  same h hs := by
    refine ⟨h.toCounted.alike hs.toAlike, fun a ha => ?_⟩
    rw [hs.username a]
    exact h.named a (by simpa [isAuthed, hs.db, hs.authed a] using ha)
  set h hs hsame := h.table _ (h.wf.table.setSess hs (Prod.mk.inj hsame).1)
  new h hno := h.table _ (h.wf.table.new hno)
  send h _ := h.table _ h.wf.table

/-! ## Handlers -/

theorem ready_send : Keeps (Ready env) (Portal.send ack) := fun _ h => wlp_send.mpr (h.table _ h.wf.table)

theorem counted_of {m : PortalM Unit} (hm : Keeps (Ready env) m) (h : Ready env P) :
    wlp m (fun _ => Counted env) P := wlp_mono (fun _ _ => Ready.toCounted) (hm P h)

theorem inert_ready : Inert env.host (Ready env) where
  wf h := h.wf
  fewer h hT _ := h.table _ hT
  set h hs haddr := h.table _ (h.wf.table.setSess hs haddr)
  send h := h.table _ h.wf.table

theorem Ready.challengeProc (hmem : ∀ k, ans.sock_mem k = true) :
    Keeps (Ready env) (challengeProc env ans pkt) := by
  refine Keeps.ask.bind fun u => (stable_ready hmem).initRsp.bind fun rsppkt => Keeps.ask.bind fun conf => ?_
  refine Keeps.ite (fun _ => ready_send) fun _ _ h => ?_
  refine (stable_ready hmem).serve id ready_send (fun a P' h' => ?_) h
  refine ((stable_ready hmem).configNas.bind fun _ => (stable_ready hmem).reachSess.bind fun r => ?_) P' h'
  cases r with
  | none => exact ready_send
  | some n => exact inert_ready.challengeSess

theorem Ready.logoutSess (hmem : ∀ k, ans.sock_mem k = true) :
    Keeps (Ready env) (logoutSess ans pkt rsppkt a n) := fun _ h =>
  inert_ready.logoutSess h fun h' hc hacc hauth => h'.quiet hmem (Quiet.refl.terminate hc (hacc ▸ hauth))

theorem Ready.logoutProc (hmem : ∀ k, ans.sock_mem k = true) : Keeps (Ready env) (logoutProc env ans pkt) := by
  refine Keeps.ask.bind fun u => (stable_ready hmem).initRsp.bind fun rsppkt _ h => ?_
  refine (stable_ready hmem).serve id ready_send (fun a P' h' => ?_) h
  refine ((stable_ready hmem).reachSess.bind fun r => ?_) P' h'
  cases r with
  | none => exact ready_send
  | some n => exact Ready.logoutSess hmem

/-! ## Logins -/

/-- A login changes the name of the user, and nothing that is counted. -/
theorem Ready.startLogin {username : List UInt8} {passwd : Bool} {status : SessStatus} (h : Ready env P)
    (hs : P.table.sess n = some s) :
    wlp (startLogin env ans pkt rsppkt username passwd status a n) (fun _ => Counted env) P := by
  refine wlp_startLogin h.wf.table hs (fun P' ha => ?_) fun P' t ha haddr _ _ => ?_
  · exact (h.toCounted.table _ h.wf.table.without).alike ha
  · exact (h.toCounted.table P.sent (h.wf.table.setSess hs haddr)).alike ha

theorem Ready.refuse (h : Ready env P) : wlp (refuse rsppkt n) (fun _ => Counted env) P :=
  wlp_refuse h.wf.table (h.toCounted.table _ h.wf.table.without)

theorem Ready.chapauthSess {username : List UInt8} (h : Ready env P) :
    wlp (chapauthSess env ans pkt rsppkt username a n) (fun _ => Counted env) P := by
  simp only [Portal.chapauthSess, wlp_bind, wlp_sessOf, wlp_accountOf]
  intro s hs c _
  cases hst : s.status with
  | SESS_STATUS_NONE =>
    dsimp only
    rw [wlp_bind, wlp_portalSessFree h.wf.table]
    exact fun _ _ => counted_of ready_send (h.table P.sent h.wf.table.without)
  | SESS_STATUS_CHALLENGED => exact wlp_ite.mpr ⟨fun _ => h.refuse, fun _ => h.startLogin hs⟩
  | SESS_STATUS_ON_MACBIND | SESS_STATUS_MACBOUND | SESS_STATUS_LOGOUT_WAIT | SESS_STATUS_AFF_WAIT
  | SESS_STATUS_ON_CHAPAUTH | SESS_STATUS_ON_PAPAUTH | SESS_STATUS_NTF_LOGOUT_WAIT =>
    exact counted_of ready_send h

theorem Ready.papauthSess {username : List UInt8} (h : Ready env P) :
    wlp (papauthSess env ans pkt rsppkt username a n) (fun _ => Counted env) P := by
  simp only [Portal.papauthSess, wlp_bind, wlp_sessOf, wlp_accountOf]
  intro s hs c _
  have hlogin : wlp (if (P.account a).authed = true then do
        portalSessFree n
        Portal.send { rsppkt with err_code := PORTAL_AUTH_CONNECTED }
      else Portal.startLogin env ans pkt rsppkt username (papPasswd env pkt) .SESS_STATUS_ON_PAPAUTH a n)
      (fun _ => Counted env) P := by
    rw [wlp_ite, wlp_bind, wlp_portalSessFree h.wf.table]
    exact ⟨fun _ _ _ => counted_of ready_send (h.table P.sent h.wf.table.without), fun _ => h.startLogin hs⟩
  cases hst : s.status with
  | SESS_STATUS_NONE | SESS_STATUS_ON_MACBIND | SESS_STATUS_MACBOUND | SESS_STATUS_CHALLENGED
  | SESS_STATUS_LOGOUT_WAIT => exact hlogin
  | SESS_STATUS_AFF_WAIT | SESS_STATUS_ON_CHAPAUTH | SESS_STATUS_ON_PAPAUTH | SESS_STATUS_NTF_LOGOUT_WAIT =>
    exact counted_of ready_send h

theorem Ready.authProc {nas : Bool} {sess : Ack → List UInt8 → Nat → Nat → PortalM Unit} (hmem : ∀ k, ans.sock_mem k = true)
    (h : Ready env P) (hsess : ∀ rsppkt username a n P', Ready env P' →
      wlp (sess rsppkt username a n) (fun _ => Counted env) P') :
    wlp (authProc env ans pkt nas sess) (fun _ => Counted env) P := by
  have hstable := @stable_ready env ans hmem
  rw [Portal.authProc, wlp_bind, wlp_ask]
  intro u _
  rw [wlp_bind]
  refine wlp_portalPacketInitRsp fun rsppkt reqid _ _ _ => ?_
  have h₁ : Ready env { P with prev_reqid := reqid } := hstable.aside h
  simp only [wlp_bind, wlp_ask, Option.some.injEq, forall_eq']
  intro username _
  refine hstable.serve Ready.toCounted ready_send (fun a P' h' => ?_) h₁
  have hnas : Keeps (Ready env) (if nas then configNas a else pure ()) :=
    Keeps.ite (fun _ => hstable.configNas) fun _ => Keeps.pure
  rw [wlp_bind]
  refine wlp_mono (fun _ P' h' => ?_) (hnas P' h')
  cases ans.portal_srv with
  | none => exact counted_of ready_send h'
  | some srv =>
    dsimp only
    rw [wlp_bind]
    refine wlp_mono (fun _ P₂ h₂ => ?_) (hstable.configPortalsrv P' h')
    rw [wlp_bind]
    refine wlp_mono (fun r P₃ h₃ => ?_) (hstable.reachSess P₂ h₂)
    cases r with
    | none => exact counted_of ready_send h₃
    | some n =>
      simp only [wlp_bind, wlp_sessOf, wlp_setSess]
      exact fun s hs _ _ => hsess _ _ _ _ _ (hstable.set h₃ hs rfl)

/-! ## Users who are let in -/

/-- A connection that an Access-Accept is for, and that a session waits for, is not authenticated, and it has a
name that accounting can send. -/
def AcceptOrderly (P : Portal) (u : UserAddr) : Prop :=
  ∀ a c n s, (P.db.appconnFindByUseripx u).map Prod.fst = some (some a) → P.db.conns a = some c →
    (P.account a).on_auth = true → P.table.sess n = some s → c.user_addr.Meets s.user_addr → s.onAuth →
    packetType s.rcvpkt = REQ_AUTH →
    (P.account a).authed = false ∧ validName (P.account a).username = true

/-- A user who is not authenticated is let in. -/
theorem Booked.admit {req : RadiusReq} {reqid : UInt16} (h : P.Booked) (hw : P.Wf env.host)
    (hmem : ∀ k, ans.sock_mem k = true) (hc : P.db.conns a = some c) (hauth : (P.account a).authed = false)
    (hname : validName (P.account a).username = true) : Booked (P.admitted ans req a n s rsppkt reqid c) := by
  have hat : P.isAuthed a = false := by rw [isAuthed_of hc, hauth]
  have hoff : ∀ b, b ≠ a → (P.admitted ans req a n s rsppkt reqid c).isAuthed b = P.isAuthed b := fun b hb => by
    simp [isAuthed, admitted, hb]
  have hnow : (P.admitted ans req a n s rsppkt reqid c).isAuthed a = true := by simp [isAuthed, admitted, hc]
  refine ⟨?_, fun b => ?_⟩
  · have hcount := countP_at hw.db.listed.1 (hw.mem_head hc) fun b hb => (hoff b hb).symm
    have hold := countP_at hw.db.listed.1 (hw.mem_head hc) (p := P.isAuthed) fun b _ => rfl
    have hnum := h.num
    simp only [hnow, hat, if_true] at hcount hold
    simp only [admitted, acctAsked_authed_user_num, acctAsked_db] at hcount ⊢
    rw [hcount, hnum, hold]
    simp
  · have hacct : (P.admitted ans req a n s rsppkt reqid c).acct = (a, .RADIUS_STATUS_TYPE_START) :: P.acct :=
      acctAsked_acct (by simpa using hname) hmem
    have hold := h.acct b
    rw [acctBalance] at hold
    rw [acctBalance, hacct]
    by_cases hb : b = a
    · subst hb
      rw [hat] at hold
      rw [hnow]
      simp at hold ⊢
      omega
    · rw [hoff b hb]
      simpa [List.count_cons, Ne.symm hb] using hold

theorem Ready.authSuccess {req : RadiusReq} (hmem : ∀ k, ans.sock_mem k = true) (h : Ready env P)
    (hc : P.db.conns a = some c)
    (hok : ∀ n s, P.table.sess n = some s → c.user_addr.Meets s.user_addr → s.onAuth →
      packetType s.rcvpkt = REQ_AUTH →
      (P.account a).authed = false ∧ validName (P.account a).username = true) :
    wlp (authSuccess env ans req a) (fun _ => Counted env) P := by
  simp only [Portal.authSuccess, wlp_bind, wlp_connOf, hc, Option.some.injEq, forall_eq']
  refine wlp_findSess h.wf.table fun r T hf => ?_
  have h₁ : Ready env { P with table := T } := (stable_ready hmem).fewer h hf.sound hf.sub
  cases r with
  | none => exact wlp_pure.mpr h₁.toCounted
  | some n =>
    obtain ⟨⟨s, hs, hm⟩, -⟩ := hf.some n rfl
    simp only [wlp_bind, wlp_sessOf, wlp_ite, wlp_pure, hs, Option.some.injEq, forall_eq']
    refine ⟨fun hwait => ?_, fun _ => h₁.toCounted⟩
    obtain ⟨hauth, hname⟩ := hok n s (hf.sub n s hs) hm hwait.1 hwait.2
    refine wlp_authorize fun rsppkt reqid d _ _ _ hd => ⟨⟨?_, ?_⟩, h₁.booked.admit h₁.wf hmem hd hauth hname⟩
    · simpa [admitted] using h₁.wf.db
    · rw [admitted, acctAsked_table]
      exact h₁.wf.table.setSess hs rfl

theorem Ready.accessAcceptProc {req : RadiusReq} (hmem : ∀ k, ans.sock_mem k = true) (h : Ready env P)
    (hok : P.AcceptOrderly u) : wlp (accessAcceptProc env ans u req) (fun _ => Counted env) P := by
  rw [Portal.accessAcceptProc, wlp_bind]
  refine wlp_find h.wf fun r P' hq hsought hfirst => ?_
  have h' := h.quiet hmem hq
  have hfail : wlp (authFailure env ans u PORTAL_AUTH_REJECT) (fun _ => Counted env) P' :=
    counted_of ((stable_ready hmem).authFailure fun _ => ready_send) h'
  cases r with
  | none => exact hfail
  | some a =>
    obtain ⟨c, hc, hm, hc', hacc⟩ := hsought.found a rfl
    simp only [wlp_bind, wlp_accountOf, wlp_ite, wlp_setAccount]
    refine fun d _ => ⟨fun hon e _ => ?_, fun _ => hfail⟩
    have h₁ := wlp_setAccount.mp ((stable_ready hmem).account (a := a)
      (f := fun x => { x with on_auth := false }) (fun _ => rfl) P' h') e ‹_›
    refine h₁.authSuccess hmem hc' fun n s hs hmeet hst hauth => ?_
    have hcond := hok a c n s hfirst hc (hacc ▸ hon) (hq.calm.sub n s hs) hmeet hst hauth
    simpa [hacc] using hcond

theorem Ready.sockradiusReceive {k nbyte : Nat} {packet : Packet} {radius_ip : UInt32} {radius_port : UInt16}
    {err_code : UInt8} (hmem : ∀ k, ans.sock_mem k = true) (h : Ready env P)
    (hok : ∀ r, P.radius.answeredId env.md5 k packet nbyte radius_ip radius_port = some r →
      packet 0 = RADIUS_CODE_ACCESS_ACCEPT → P.AcceptOrderly r.user_addr) :
    wlp (sockradiusReceive env ans k packet nbyte radius_ip radius_port err_code) (fun _ => Counted env) P := by
  have hstable := @stable_ready env ans hmem
  rw [Portal.sockradiusReceive, wlp_bind, wlp_get]
  cases hr : P.radius.answeredId env.md5 k packet nbyte radius_ip radius_port with
  | none => exact wlp_pure.mpr h.toCounted
  | some r =>
    simp only [wlp_bind, wlp_modify, wlp_ite, wlp_pure]
    have h₁ : Ready env { P with radius := P.radius.answer env.md5 k packet r } := hstable.aside h
    refine ⟨fun hacc => h₁.accessAcceptProc hmem (hok r hr hacc), fun _ => ⟨fun _ => ?_, fun _ => ?_⟩⟩
    · exact counted_of (hstable.accessRejectProc fun _ => ready_send) h₁
    · exact wlp_mono (fun _ _ => Ready.toCounted) (hstable.find _ h₁)

/-! ## Timers -/

theorem Ready.affWaitTimeout (hmem : ∀ k, ans.sock_mem k = true) : Keeps (Ready env) (affWaitTimeout env ans n) := by
  intro P h
  have hstable := @stable_ready env ans hmem
  simp only [Portal.affWaitTimeout, wlp_bind, wlp_sessOf, wlp_setSess, wlp_get, wlp_ite]
  intro s hs _ _
  have h₁ := hstable.set h hs (t := fired s) rfl
  refine ⟨fun _ => ?_, fun _ => hstable.free _ h₁⟩
  refine wlp_portalPacketInitRsp fun rsppkt reqid _ _ _ => ?_
  have h₂ : Ready env { P with table := P.table.setSess n (fired s), prev_reqid := reqid } := hstable.aside h₁
  refine wlp_appconnFindByUseripx h₂.wf fun r P' hq _ => ?_
  have h' := h₂.quiet hmem hq
  simp only [wlp_send]
  intro s₀ hs₀
  have hold : s₀ = fired s := by simpa [SessTable.setSess] using (hq.calm.sub n s₀ hs₀).symm
  exact h'.table _ (h'.wf.table.setSess hs₀ (by rw [hold]; rfl))

/-- The user whom a session without retries logs out is authenticated. -/
theorem Ready.ntfLogoutWaitTimeout (hmem : ∀ k, ans.sock_mem k = true) (h : Ready env P)
    (hs : P.table.sess n = some s)
    (hok : ∀ a, ¬ s.retry_count < P.conf.retry_times →
      (P.db.appconnFindByUseripx s.user_addr).map Prod.fst = some (some a) → (P.account a).authed = true) :
    wlp (ntfLogoutWaitTimeout ans n) (fun _ => Ready env) P := by
  have hstable := @stable_ready env ans hmem
  simp only [Portal.ntfLogoutWaitTimeout, wlp_bind, wlp_sessOf, wlp_setSess, hs, Option.some.injEq, forall_eq']
  have h₁ := hstable.set h hs (t := fired s) rfl
  refine wlp_find h₁.wf fun r P' hq hsought hfirst => ?_
  have h' := h₁.quiet hmem hq
  cases r with
  | none => exact hstable.free P' h'
  | some a =>
    simp only [wlp_bind, wlp_get, wlp_ite, wlp_setSess]
    refine ⟨fun _ s₀ hs₀ => ?_, fun hno => ?_⟩
    · have hold : s₀ = fired s := by simpa [SessTable.setSess] using (hq.calm.sub n s₀ hs₀).symm
      exact hstable.set h' hs₀ (by rw [hold]; rfl)
    · obtain ⟨-, -, -, -, hacc⟩ := hsought.found a rfl
      have hauth : (P'.account a).authed = true := by
        rw [hacc]
        exact hok a (by rwa [hq.calm.conf] at hno) hfirst
      refine wlp_setAccount.mpr fun c hc => ?_
      have h₂ := wlp_setAccount.mp (hstable.account (a := a)
        (f := fun x => { x with on_ntf_logout := false }) (fun _ => rfl) P' h') c hc
      refine (wlp_terminateAppconn h₂.wf.db).mpr fun d hd => hstable.free _ ?_
      exact h₂.quiet hmem (Quiet.refl.terminate hd (by simpa using hauth))

/-- The timer of a session fires. -/
theorem Ready.sessTimeout (hmem : ∀ k, ans.sock_mem k = true) (h : Ready env P)
    (hok : ∀ s due a, P.table.sess n = some s → s.t_timeout = some (.SESS_NTF_LOGOUT_WAIT_TIMEOUT, due) →
      due ≤ P.radius.now → P.conf.retry_times ≤ s.retry_count →
      (P.db.appconnFindByUseripx s.user_addr).map Prod.fst = some (some a) → (P.account a).authed = true) :
    wlp (sessTimeout env ans n) (fun _ => Counted env) P := by
  have hstable := @stable_ready env ans hmem
  rw [Portal.sessTimeout, wlp_bind, wlp_get]
  cases hs : P.table.sess n with
  | none => exact wlp_pure.mpr h.toCounted
  | some s =>
    cases htime : s.t_timeout with
    | none =>
      simp only [Option.bind_some, htime]
      exact wlp_pure.mpr h.toCounted
    | some x =>
      obtain ⟨timer, due⟩ := x
      simp only [Option.bind_some, htime, wlp_ite]
      refine ⟨fun _ => wlp_pure.mpr h.toCounted, fun hdue => ?_⟩
      cases timer with
      | SESS_ONMACBIND_TIMEOUT => exact counted_of hstable.onmacbindTimeout h
      | SESS_MACBOUND_TIMEOUT | SESS_CHALLENGED_TIMEOUT | SESS_LOGOUT_WAIT_TIMEOUT => exact counted_of hstable.free h
      | SESS_ONAUTH_TIMEOUT => exact counted_of hstable.onauthTimeout h
      | SESS_AFF_WAIT_TIMEOUT => exact counted_of (Ready.affWaitTimeout hmem) h
      | SESS_NTF_LOGOUT_WAIT_TIMEOUT =>
        refine wlp_mono (fun _ _ => Ready.toCounted) (h.ntfLogoutWaitTimeout hmem hs fun a hno => ?_)
        exact hok s due a hs htime (Int.not_lt.mp hdue) (Int.not_lt.mp hno)

/-- The packets of the portal server. -/
theorem Ready.portalProcPacket (hmem : ∀ k, ans.sock_mem k = true) (h : Ready env P) :
    wlp (portalProcPacket env ans pkt) (fun _ => Counted env) P := by
  have hstable := @stable_ready env ans hmem
  simp only [Portal.portalProcPacket, wlp_bind, wlp_ask, wlp_ite, wlp_pure]
  intro _ _
  refine ⟨fun _ => counted_of (Ready.challengeProc hmem) h, fun _ => ⟨fun _ => ⟨fun _ => ?_, fun _ => ⟨fun _ => ?_,
    fun _ => h.toCounted⟩⟩, fun _ => ⟨fun _ => ⟨fun _ => ?_, fun _ => ⟨fun _ => ?_, fun _ => h.toCounted⟩⟩,
    fun _ => ⟨fun _ => ?_, fun _ => ⟨fun _ => ?_, fun _ => ⟨fun hinfo => ?_, fun _ => ⟨fun _ => ?_,
    fun _ => ⟨fun _ => ?_, fun _ => h.toCounted⟩⟩⟩⟩⟩⟩⟩⟩
  · exact h.authProc hmem fun _ _ _ _ _ h' => h'.chapauthSess
  · exact h.authProc hmem fun _ _ _ _ _ h' => h'.papauthSess
  · exact counted_of (Ready.logoutProc hmem) h
  · exact counted_of (Keeps.ask.bind fun _ => hstable.find.bind fun _ => Keeps.pure) h
  · exact counted_of (hstable.acknowledged fun _ _ => hstable.ackLogoutSess) h
  · exact counted_of (hstable.acknowledged fun _ _ => hstable.affAckAuthSess) h
  · exact counted_of (hstable.reqinfoProc hinfo) h
  · exact counted_of (hstable.acknowledged fun _ _ => hstable.ackMacbindSess) h
  · exact wlp_userOfflineProc h.wf fun P' hq => (h.quiet hmem hq).toCounted

end

end Portal

namespace PortalOp

open Portal

/-- What the rest of the system answers in a step. -/
def answers : PortalOp → Option PortalAnswers
  | receive ans _ _ | reply ans _ _ _ _ _ _ | sessTimer ans _ | idTimer ans _ _ | dmRequest ans _ | logoutUser ans _ _
  | macbindReq ans _ | createBySta ans _ | cleanConflict ans _ | leave ans _ | interfaceDown ans _ | stop ans =>
    some ans
  | ipxUpdate _ _ | idle _ | start | configPortalsrv _ _ | setRetryParams _ _ _ | configure _ | tick _ => none

/-- There is memory for every RADIUS request of the step, each authenticated user has a name, who is let in is not
authenticated before, and who is logged out by a timer is. -/
def Orderly (env : PortalEnv) (P : Portal) (op : PortalOp) : Prop :=
  (∀ ans, op.answers = some ans → ∀ k, ans.sock_mem k = true) ∧ P.Named ∧
  match op with
  | reply _ k packet nbyte radius_ip radius_port _ =>
    ∀ r, P.radius.answeredId env.md5 k packet nbyte radius_ip radius_port = some r →
      packet 0 = RADIUS_CODE_ACCESS_ACCEPT → P.AcceptOrderly r.user_addr
  | sessTimer _ n => ∀ s due a, P.table.sess n = some s →
    s.t_timeout = some (.SESS_NTF_LOGOUT_WAIT_TIMEOUT, due) → due ≤ P.radius.now →
    P.conf.retry_times ≤ s.retry_count →
    (P.db.appconnFindByUseripx s.user_addr).map Prod.fst = some (some a) → (P.account a).authed = true
  | _ => True

section
variable {env : PortalEnv} {P P' : Portal} {op : PortalOp}

theorem orderly_step (h : Counted env P) (hc : op.Orderly env P) (hstep : op.step env P = some P') :
    Counted env P' := by
  obtain ⟨hmem, hnamed, hc⟩ := hc
  have h₀ : Ready env { P with sent := [] } := ⟨h.table _ h.wf.table, hnamed⟩
  have hquiet : ∀ {ans}, (∀ k, ans.sock_mem k = true) → ∀ P', Quiet env.host ans { P with sent := [] } P' →
      Counted env P' := fun hmem P' hq => (h₀.quiet hmem hq).toCounted
  refine step_eq (Q := fun _ => Counted env) hstep ?_
  cases op with
  | receive ans pkt nbyte =>
    simp only [prog, portalReceive, wlp_bind, wlp_ask, wlp_ite, wlp_pure]
    exact fun _ _ => ⟨fun _ => h₀.portalProcPacket (hmem ans rfl), fun _ => h₀.toCounted⟩
  | reply ans k packet nbyte radius_ip radius_port err_code => exact h₀.sockradiusReceive (hmem ans rfl) hc
  | sessTimer ans n => exact h₀.sessTimeout (hmem ans rfl) hc
  | idTimer ans k i => exact counted_of (stable_ready (hmem ans rfl)).idTimeout h₀
  | dmRequest ans a => exact counted_of (stable_ready (hmem ans rfl)).procDmRequest h₀
  | logoutUser ans a again => exact counted_of (stable_ready (hmem ans rfl)).logoutUser h₀
  | macbindReq ans a => exact counted_of (stable_ready (hmem ans rfl)).macbindReq h₀
  | createBySta ans u => exact counted_of (stable_ready (hmem ans rfl)).createBySta h₀
  | ipxUpdate a u => exact wlp_modify.mpr ⟨⟨h₀.wf.db.ipxUpdate, h₀.wf.table⟩, h₀.booked.ipxUpdate⟩
  | cleanConflict ans a => exact wlp_appconnCleanConflict h₀.wf fun P' hq _ _ => hquiet (hmem ans rfl) P' hq
  | leave ans a => exact wlp_leave h₀.wf (hquiet (hmem ans rfl))
  | idle a => exact @Portal.wlp_idle _ _ sampleAnswers _ h₀.wf _ (hquiet fun _ => rfl)
  | interfaceDown ans p => exact wlp_terminateAppconnAll h₀.wf (hquiet (hmem ans rfl))
  | stop ans => exact counted_of (stable_ready (hmem ans rfl)).insStop h₀
  | configPortalsrv a srv => exact counted_of (@stable_ready env sampleAnswers fun _ => rfl).configPortalsrv h₀
  | start | setRetryParams | configure | tick =>
    exact wlp_modify.mpr ((@stable_ready env sampleAnswers fun _ => rfl).aside h₀).toCounted

theorem counted_create {hash_num : UInt32} {retry_interval retry_times vice_retry_times now : Int} :
    Counted env (Portal.create hash_num retry_interval retry_times vice_retry_times now) := by
  refine ⟨⟨AppDb.indexed_create _ _, SessTable.sound_empty⟩, rfl, fun a => ?_⟩
  simp [acctBalance, isAuthed, Portal.create, AppDb.create]

/-- In every run whose steps are orderly, the count of the users and their accounting are right in every state. -/
theorem users_booked (env : PortalEnv) (hash_num : UInt32) (retry_interval retry_times vice_retry_times now : Int)
    (ops : List PortalOp) (P : Portal)
    (hobeys : TryObeys (step env) (fun P op => op.Orderly env P)
      (Portal.create hash_num retry_interval retry_times vice_retry_times now) ops)
    (hrun : tryRun (step env) (Portal.create hash_num retry_interval retry_times vice_retry_times now) ops =
      some P) : P.Booked :=
  (hobeys.reach_inv (I := Counted env) (fun _ _ _ h hc hstep => orderly_step h hc hstep) counted_create hrun).booked

end

/-! ## Runs -/

theorem users_booked_accepted : ∃ P, tryRun (step sampleEnv) (Portal.create 4 3 0 0 0) sampleAccepted = some P ∧
    P.authed_user_num = 1 ∧ P.acct = [(0, .RADIUS_STATUS_TYPE_START)] ∧ P.Booked := by
  have hsome : (tryRun (step sampleEnv) (Portal.create 4 3 0 0 0) sampleAccepted).any (fun P =>
      P.authed_user_num = 1 ∧ P.acct = [(0, .RADIUS_STATUS_TYPE_START)]) = true := by decide +kernel
  obtain ⟨P, hrun, hfacts⟩ := (Option.any_eq_true _ _).mp hsome
  obtain ⟨hnum, hacct⟩ := of_decide_eq_true hfacts
  -- the user who has asked to be let in is the only one, and is not authenticated yet
  have hasked : (tryRun (step sampleEnv) (Portal.create 4 3 0 0 0) (sampleAccepted.take 2)).all (fun P =>
      P.db.head = [0] ∧ (P.account 0).authed = false ∧ validName (P.account 0).username = true) = true := by
    decide +kernel
  have hobeys : TryObeys (step sampleEnv) (fun P op => op.Orderly sampleEnv P) (Portal.create 4 3 0 0 0)
      sampleAccepted := by
    have hempty : Counted sampleEnv (Portal.create 4 3 0 0 0) := counted_create
    have hnobody : ∀ {P : Portal}, (∀ a, P.db.conns a = none) → P.Named := fun hno a ha => by
      simp [isAuthed, hno a] at ha
    have hc₀ : Orderly sampleEnv (Portal.create 4 3 0 0 0) (.configure { radiusconf := [⟨[], false, {}⟩] }) :=
      ⟨fun _ h => by simp [answers] at h, hnobody fun _ => rfl, trivial⟩
    refine ⟨hc₀, fun P₁ h₁ => ?_⟩
    have hconns : ∀ a, P₁.db.conns a = none := by
      cases h₁
      exact fun _ => rfl
    have hc₁ : Orderly sampleEnv P₁ (.receive sampleAnswers sampleLogin 22) := by
      refine ⟨fun _ h k => ?_, hnobody hconns, trivial⟩
      cases h
      rfl
    refine ⟨hc₁, fun P₂ h₂ => ⟨?_, fun _ _ => trivial⟩⟩
    have hcounted := orderly_step (orderly_step hempty hc₀ h₁) hc₁ h₂
    have hfacts : P₂.db.head = [0] ∧ (P₂.account 0).authed = false ∧ validName (P₂.account 0).username = true := by
      have hreach : tryRun (step sampleEnv) (Portal.create 4 3 0 0 0) (sampleAccepted.take 2) = some P₂ := by
        simp only [sampleAccepted, List.take, tryRun, h₁, h₂, Option.bind_some]
      rw [hreach] at hasked
      exact of_decide_eq_true hasked
    have hzero : ∀ {a c}, P₂.db.conns a = some c → a = 0 := fun hc => by
      simpa [hfacts.1] using hcounted.wf.mem_head hc
    refine ⟨fun _ h k => ?_, fun a ha => ?_, fun r _ _ a c n s _ hc _ _ _ _ _ => hzero hc ▸ hfacts.2⟩
    · cases h
      rfl
    · obtain ⟨c, hc⟩ := Option.isSome_iff_exists.mp (Bool.and_eq_true .. ▸ ha).1
      exact hzero hc ▸ hfacts.2.2
  exact ⟨P, hrun, hnum, hacct, users_booked sampleEnv 4 3 0 0 0 _ P hobeys hrun⟩

/-- What the wireless side says of the user when it asks with its IPv6 address. -/
def sampleAnswers6 : PortalAnswers :=
  { sampleAnswers with
    make := ⟨true, ⟨0, 0, 0, 0, 0, 5⟩, true, some ⟨0, In6Addr.ofOctets AppOp.lp64Host [9], 1⟩, true⟩ }

/-- REQ_CHALLENGE of the IPv6 address of the user. -/
def sampleChallenge6 : Packet := octets [1, 1, 0, 0, 0, 0, 0, 0, 0, 0, 0, 0, 0, 0, 0, 1, 0xf1, 18, 9]

/-- REQ_AUTH of the IPv6 address of the user, for the first challenge. -/
def sampleLogin6 : Packet :=
  octets ([1, 3, 0, 0, 0, 0, 0, 1, 0, 0, 0, 0, 0, 0, 0, 3, 1, 3, 97, 4, 18] ++ List.replicate 16 0 ++ [0xf1, 18, 9])

/-- A user asks for a challenge with its IPv6 address, and is let in through its IPv4 address; when its connection
has got both addresses, it answers the challenge. -/
def sampleDualStack : List PortalOp :=
  [.configure { radiusconf := [⟨[], false, {}⟩] }, .receive sampleAnswers6 sampleChallenge6 34,
    .receive sampleAnswers sampleLogin 22, .receive sampleAnswers sampleLogin 22,
    .reply sampleAnswers 0 sampleAccept 20 0 0 1, .tick 2, .sessTimer sampleAnswers 1,
    .ipxUpdate 1 ⟨EAG_IPV6, 0, In6Addr.ofOctets AppOp.lp64Host [9]⟩, .receive sampleAnswers6 sampleLogin6 55,
    .reply sampleAnswers 0 (octets [2, 2, 0, 20]) 20 0 0 1]

/-- The user is counted twice, and accounting is started twice for it. -/
theorem dual_stack_started_twice : ¬ ∀ ops P, tryRun (step sampleEnv) (Portal.create 4 3 0 0 0) ops = some P →
    P.authed_user_num = P.db.head.countP P.isAuthed ∧ ∀ a, P.acctBalance a = if P.isAuthed a then 1 else 0 := by
  intro h
  have hbad : (tryRun (step sampleEnv) (Portal.create 4 3 0 0 0) sampleDualStack).any (fun P =>
      P.authed_user_num ≠ P.db.head.countP P.isAuthed ∧ P.isAuthed 1 = true ∧ P.acctBalance 1 = 2) = true := by
    decide +kernel
  obtain ⟨P, hrun, hfacts⟩ := (Option.any_eq_true _ _).mp hbad
  exact (of_decide_eq_true hfacts).1 (h _ P hrun).1

end PortalOp

end Eag
end DaemonGroup
