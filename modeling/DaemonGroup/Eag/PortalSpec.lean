import DaemonGroup.Eag.PortalProc

/-!
# DaemonGroup.Eag.PortalSpec

What the parts of the portal do, said once: for each of them a rule that takes it apart (`wlp_…`).

What is done on the way to a connection, and to connections that are to go, is said by `Quiet`: sessions are
freed, connections are made, those that are not authenticated are dropped and those that are authenticated are
terminated. `Calm` is what all of that leaves alone.
-/

namespace DaemonGroup
namespace Eag

open Lib Bytes

namespace AppDb

section
variable {db : AppDb} {h : Host} {a : Nat} {c : AppConn}

theorem Indexed.userip_some (hi : Indexed h db) {ip : UInt32}
    (hf : db.appconnFindByUserip ip = some (some a)) :
    ∃ c, db.conns a = some c ∧ c.user_addr.hasV4 ∧ c.user_addr.user_ip = ip := by
  rw [hi.userip, Option.some.injEq] at hf
  have hmem := hi.ip.mem.mp (List.mem_of_find?_eq_some hf)
  have hp := List.find?_some hf
  cases hc : db.conns a with
  | none => simp [hc] at hp
  | some c =>
    simp only [hc, Option.any_some, decide_eq_true_eq] at hp
    refine ⟨c, rfl, ?_, hp⟩
    by_cases hv : c.user_addr.hasV4
    · exact hv
    · simp [ipPlace, hc, hv] at hmem

theorem Indexed.useripv6_some (hi : Indexed h db) {ip : In6Addr}
    (hf : db.appconnFindByUseripv6 ip = some (some a)) :
    ∃ c, db.conns a = some c ∧ c.user_addr.hasV6 ∧ c.user_addr.user_ipv6 = ip := by
  rw [hi.useripv6, Option.some.injEq] at hf
  have hmem := hi.ipv6.mem.mp (List.mem_of_find?_eq_some hf)
  have hp := List.find?_some hf
  cases hc : db.conns a with
  | none => simp [hc] at hp
  | some c =>
    simp only [hc, Option.any_some, decide_eq_true_eq] at hp
    refine ⟨c, rfl, ?_, hp⟩
    by_cases hv : c.user_addr.hasV6
    · exact hv
    · simp [ipv6Place, hc, hv] at hmem

theorem Indexed.userip_none (hi : Indexed h db) {ip : UInt32} (hf : db.appconnFindByUserip ip = some none)
    (hc : db.conns a = some c) (hv : c.user_addr.hasV4) : c.user_addr.user_ip ≠ ip := by
  rintro rfl
  rw [hi.userip, Option.some.injEq, List.find?_eq_none] at hf
  have := hf a (hi.ip.mem.mpr (by simp [ipPlace, hc, hv]))
  simp [hc] at this

theorem Indexed.useripv6_none (hi : Indexed h db) {ip : In6Addr}
    (hf : db.appconnFindByUseripv6 ip = some none) (hc : db.conns a = some c) (hv : c.user_addr.hasV6) :
    c.user_addr.user_ipv6 ≠ ip := by
  rintro rfl
  rw [hi.useripv6, Option.some.injEq, List.find?_eq_none] at hf
  have := hf a (hi.ipv6.mem.mpr (by simp [ipv6Place, hc, hv]))
  simp [hc] at this

/-- What making a connection leaves: the tables as they were, or a new connection in them. -/
def Made (h : Host) (db db' : AppDb) : Prop :=
  db' = db ∨ db' = { db with brk := db.brk + 1 } ∨
    ∃ c, db' = ({ db with brk := db.brk + 1 } : AppDb).appconnAddToDb h db.brk c

theorem Indexed.made {db' : AppDb} (hi : Indexed h db) (hm : Made h db db') : Indexed h db' := by
  obtain rfl | rfl | ⟨c, rfl⟩ := hm
  · exact hi
  · exact hi.brk
  · exact hi.brk.add hi.next (Nat.lt_succ_self _)

theorem Made.brk {db' : AppDb} (hm : Made h db db') : db.brk ≤ db'.brk := by
  obtain rfl | rfl | ⟨c, rfl⟩ := hm
  · exact Nat.le_refl _
  · exact Nat.le_succ _
  · rw [addToDb_eq]
    exact Nat.le_succ _

/-- A connection that is there then was there before, or it is the new one. -/
theorem Made.conn {db' : AppDb} (hm : Made h db db') (hc : db'.conns a = some c) :
    db.conns a = some c ∨ a = db.brk := by
  obtain rfl | rfl | ⟨d, rfl⟩ := hm
  · exact .inl hc
  · exact .inl hc
  · rw [addToDb_eq] at hc
    by_cases ha : a = db.brk
    · exact .inr ha
    · exact .inl (by simpa [ha] using hc)

theorem made_make (db : AppDb) (h : Host) (u : UserAddr) (usermac : Mac) (mem intf nasportid : Bool)
    (ask : UserAddr → Option UserAddr) :
    Made h db (db.make h u usermac mem intf nasportid ask).2 ∧
      ∀ a, (db.make h u usermac mem intf nasportid ask).1 = some a →
        a = db.brk ∧ ∃ c, (db.make h u usermac mem intf nasportid ask).2.conns a = some c := by
  obtain ⟨hnone, hsame | hbrk⟩ | ⟨u', -, hmade⟩ := make_cases db h u usermac mem intf nasportid ask
  · exact ⟨.inl hsame, by simp [hnone]⟩
  · exact ⟨.inr (.inl hbrk), by simp [hnone]⟩
  · rw [hmade]
    refine ⟨.inr (.inr ⟨_, rfl⟩), fun a ha => ?_⟩
    obtain rfl := Option.some.inj ha
    exact ⟨rfl, ⟨u', usermac⟩, by simp [addToDb_eq]⟩

end

end AppDb

namespace Portal

/-! ## The parts of a program -/

section
variable {P : Portal} {Q : Unit → Portal → Prop} {ans : PortalAnswers} {a n : Nat} {u : UserAddr} {h : Host}

theorem wlp_sessOf {Q : PortalSess → Portal → Prop} :
    wlp (sessOf n) Q P ↔ ∀ s, P.table.sess n = some s → Q s P := wlp_ask

theorem wlp_setSess {s : PortalSess} :
    wlp (setSess n s) Q P ↔
      ∀ s₀, P.table.sess n = some s₀ → Q ⟨⟩ { P with table := P.table.setSess n s } := by
  rw [setSess, wlp_change]
  cases P.table.sess n <;> simp

theorem wlp_send {ack : Ack} : wlp (send ack) Q P ↔ Q ⟨⟩ { P with sent := ack :: P.sent } := wlp_modify

theorem wlp_connOf {Q : AppConn → Portal → Prop} :
    wlp (connOf a) Q P ↔ ∀ c, P.db.conns a = some c → Q c P := wlp_ask

theorem wlp_accountOf {Q : Account → Portal → Prop} :
    wlp (accountOf a) Q P ↔ ∀ c, P.db.conns a = some c → Q (P.account a) P := by
  rw [accountOf, wlp_ask]
  cases P.db.conns a <;> simp

theorem wlp_setAccount {f : Account → Account} :
    wlp (setAccount a f) Q P ↔ ∀ c, P.db.conns a = some c →
      Q ⟨⟩ { P with account := Function.update P.account a (f (P.account a)) } := by
  rw [setAccount, wlp_change]
  cases P.db.conns a <;> simp

/-- The connection `a` has got the addresses of the service. -/
def nasConfigured (a : Nat) (P : Portal) : Portal :=
  { P with
    account := Function.update P.account a { P.account a with nasip := P.conf.nasip, nasipv6 := P.conf.nasipv6 } }

theorem wlp_configNas :
    wlp (configNas a) Q P ↔ ∀ c, P.db.conns a = some c → Q ⟨⟩ (P.nasConfigured a) := by
  rw [configNas, wlp_bind, wlp_ask]
  simp only [Option.some.injEq, forall_eq']
  exact wlp_setAccount

theorem nasConfigured_authed {b : Nat} :
    ((P.nasConfigured a).account b).authed = (P.account b).authed := by
  by_cases hb : b = a
  · subst hb
    simp [nasConfigured]
  · simp [nasConfigured, hb]

theorem wlp_portalSessFree (hs : P.table.Sound) :
    wlp (portalSessFree n) Q P ↔
      ∀ s, P.table.sess n = some s → Q ⟨⟩ { P with table := P.table.without n } := by
  rw [portalSessFree, wlp_change]
  constructor
  · intro hq s hn
    exact hq _ (by simp [hs.free hn])
  · intro hq T hT
    cases hf : P.table.portalSessFree n with
    | none => simp [hf] at hT
    | some T' =>
      obtain ⟨rfl, s, hn⟩ := hs.free_eq hf
      simp only [hf, Option.map_some, Option.some.injEq] at hT
      subst hT
      exact hq s hn

theorem wlp_findSess {Q : Option Nat → Portal → Prop} (hs : P.table.Sound)
    (hq : ∀ r T, P.table.Found u r T → Q r { P with table := T }) :
    wlp (portalSessFindByUseripx u) Q P := by
  rw [portalSessFindByUseripx, wlp_bind, wlp_ask]
  intro x hx
  rw [wlp_bind, wlp_modify, wlp_pure]
  exact hq x.1 x.2 (hs.found hx)

/-- The session of an address is found, or it is made. -/
theorem wlp_reachSess {Q : Option Nat → Portal → Prop} {mem : Bool} (hs : P.table.Sound)
    (hnone : mem = false → (∀ m s, P.table.sess m = some s → ¬ u.Meets s.user_addr) → Q none P)
    (hfound : ∀ n T, P.table.Found u (some n) T → Q (some n) { P with table := T })
    (hnew : mem = true → (∀ m s, P.table.sess m = some s → ¬ u.Meets s.user_addr) →
      Q (some P.table.brk) { P with table := P.table.portalSessNew u }) :
    wlp (reachSess u mem) Q P := by
  rw [reachSess, wlp_bind]
  refine wlp_findSess hs fun r T hf => ?_
  cases r with
  | some n => exact wlp_pure.mpr (hfound n T hf)
  | none =>
    obtain ⟨rfl, hno⟩ := hf.none rfl
    cases mem with
    | false => exact wlp_pure.mpr (hnone rfl hno)
    | true =>
      simp only [if_true, wlp_bind, wlp_ask, wlp_modify, wlp_pure, Option.some.injEq]
      rintro m rfl
      exact hnew rfl hno

/-! ## Accounting -/

/-- A request can be made: an id is free, or there is memory for another socket. -/
def canAsk (ans : PortalAnswers) (P : Portal) : Bool :=
  (Radius.freeId P.radius.sockradius_list).isSome || ans.sock_mem P.radius.requests

/-- `radius_req` has been called with `req`. -/
def asked (ans : PortalAnswers) (u : UserAddr) (req : RadiusReq) (radius_srv : RadiusSrv) (wait : Bool)
    (P : Portal) : Portal :=
  let req := { req with authenticator := ans.authenticator P.radius.requests }
  { P with radius := P.radius.radiusReq u req radius_srv wait (ans.sock_mem P.radius.requests) }

theorem wlp_radiusReq {Q : Bool → Portal → Prop} {req : RadiusReq} {radius_srv : RadiusSrv} {wait : Bool} :
    wlp (radiusReq ans u req radius_srv wait) Q P ↔
      Q (P.canAsk ans) (P.asked ans u req radius_srv wait) := by
  simp only [radiusReq, wlp_bind, wlp_ask, wlp_modify, wlp_pure, canAsk, asked, Option.some.injEq, forall_eq']

/-- `radius_acct_req` has been called for the connection `c` at `a`. -/
def acctAsked (ans : PortalAnswers) (a : Nat) (status_type : AcctStatus) (wait : Bool) (c : AppConn)
    (P : Portal) : Portal :=
  if validName (P.account a).username then
    { P.asked ans c.user_addr
        { code := RADIUS_CODE_ACCOUNTING_REQUEST, user_name := (P.account a).username }
        (P.account a).radius_srv wait with
      acct := if P.canAsk ans then (a, status_type) :: P.acct else P.acct }
  else P

theorem wlp_radiusAcctReq {status_type : AcctStatus} {wait : Bool} :
    wlp (radiusAcctReq ans a status_type wait) Q P ↔
      ∀ c, P.db.conns a = some c → Q ⟨⟩ (P.acctAsked ans a status_type wait c) := by
  rw [radiusAcctReq, wlp_bind, wlp_connOf]
  refine forall_congr' fun c => imp_congr_right fun hc => ?_
  rw [wlp_bind, wlp_accountOf]
  simp only [hc, Option.some.injEq, forall_eq', acctAsked, wlp_ite, wlp_bind, wlp_radiusReq, wlp_modify,
    wlp_pure]
  by_cases hv : validName (P.account a).username
  · by_cases hm : P.canAsk ans
    · simp [hv, hm, asked]
    · simp [hv, hm, asked]
  · simp [hv]

/-! ## The end of a connection -/

/-- The tables of the connections and those of the sessions are in order. -/
structure Wf (h : Host) (P : Portal) : Prop where
  db : P.db.Indexed h
  table : P.table.Sound

theorem wlp_dropAppconn (hi : P.db.Indexed h) :
    wlp (dropAppconn a) Q P ↔ ∀ c, P.db.conns a = some c → Q ⟨⟩ { P with db := P.db.without a } := by
  rw [dropAppconn, wlp_change]
  cases hc : P.db.conns a with
  | none => simp [AppDb.appconnDelFromDb, hc]
  | some c => simp [hi.del hc]

/-- An authenticated connection has been terminated. -/
def terminated (ans : PortalAnswers) (a : Nat) (wait : Bool) (c : AppConn) (P : Portal) : Portal :=
  { P.acctAsked ans a .RADIUS_STATUS_TYPE_STOP wait c with
    account := Function.update P.account a { P.account a with authed := false }
    authed_user_num := if P.authed_user_num ≤ 0 then P.authed_user_num else P.authed_user_num - 1
    db := P.db.without a }

section
variable {c : AppConn} {status_type : AcctStatus} {wait : Bool}

@[simp] theorem acctAsked_db : (P.acctAsked ans a status_type wait c).db = P.db := by
  unfold acctAsked asked
  split <;> rfl

@[simp] theorem acctAsked_account : (P.acctAsked ans a status_type wait c).account = P.account := by
  unfold acctAsked asked
  split <;> rfl

@[simp] theorem acctAsked_authed_user_num :
    (P.acctAsked ans a status_type wait c).authed_user_num = P.authed_user_num := by
  unfold acctAsked asked
  split <;> rfl

@[simp] theorem acctAsked_table : (P.acctAsked ans a status_type wait c).table = P.table := by
  unfold acctAsked asked
  split <;> rfl

end

/-- The last part of every termination. -/
theorem wlp_terminate (hi : P.db.Indexed h) (wait : Bool) :
    wlp (do
      radiusAcctReq ans a .RADIUS_STATUS_TYPE_STOP wait
      setAccount a fun x => { x with authed := false }
      authedUserNumDecrease
      dropAppconn a) Q P ↔ ∀ c, P.db.conns a = some c → Q ⟨⟩ (P.terminated ans a wait c) := by
  rw [wlp_bind, wlp_radiusAcctReq]
  refine forall_congr' fun c => imp_congr_right fun hc => ?_
  rw [wlp_bind, wlp_setAccount]
  simp only [acctAsked_db, hc, Option.some.injEq, forall_eq', authedUserNumDecrease, wlp_bind, wlp_modify]
  rw [wlp_dropAppconn (h := h) (by simpa using hi)]
  simp [hc, terminated]

theorem wlp_terminateAppconn (hi : P.db.Indexed h) :
    wlp (terminateAppconn ans a) Q P ↔
      ∀ c, P.db.conns a = some c → Q ⟨⟩ (P.terminated ans a true c) := wlp_terminate hi true

/-- Sessions of the user are freed. -/
theorem wlp_notifyLogoutNowait (hs : P.table.Sound)
    (hq : ∀ T : SessTable, T.Sound → T.Sub P.table → Q ⟨⟩ { P with table := T }) :
    wlp (notifyLogoutNowait a) Q P := by
  rw [notifyLogoutNowait, wlp_bind, wlp_connOf]
  intro c _
  rw [wlp_bind]
  refine wlp_findSess hs fun r T hf => ?_
  cases r with
  | none => exact wlp_pure.mpr (hq T hf.sound hf.sub)
  | some n =>
    refine (wlp_portalSessFree hf.sound).mpr fun s _ => ?_
    exact hq _ hf.sound.without (SessTable.without_sub.trans hf.sub)

end

/-! ## What is done to connections on the way -/

instance : Inhabited PortalAnswers :=
  ⟨{ make := ⟨false, .zero, false, none, false⟩, sess_mem := false, sock_mem := fun _ => false, challenge := []
     authenticator := fun _ => [], portal_srv := none, dhcp := false }⟩

/-- From `P` to the last state sessions are freed, connections are made, and connections go: those that are
authenticated are terminated, the others are dropped. -/
inductive Quiet (h : Host) (ans : PortalAnswers) (P : Portal) : Portal → Prop
  | refl : Quiet h ans P P
  | fewer {P' : Portal} {T : SessTable} : Quiet h ans P P' → T.Sound → T.Sub P'.table →
      Quiet h ans P { P' with table := T }
  | drop {P' : Portal} {a : Nat} {c : AppConn} : Quiet h ans P P' → P'.db.conns a = some c →
      (P'.account a).authed = false → Quiet h ans P { P' with db := P'.db.without a }
  | terminate {P' : Portal} {a : Nat} {c : AppConn} {wait : Bool} : Quiet h ans P P' →
      P'.db.conns a = some c → (P'.account a).authed = true → Quiet h ans P (P'.terminated ans a wait c)
  | create {P' : Portal} {db : AppDb} : Quiet h ans P P' → AppDb.Made h P'.db db →
      Quiet h ans P { P' with db := db, account := Function.update P'.account P'.db.brk {} }

/-- What `Quiet` leaves alone. -/
structure Calm (P P' : Portal) : Prop where
  sub : P'.table.Sub P.table
  conn : ∀ a c, P'.db.conns a = some c →
    (P.db.conns a = some c ∧ P'.account a = P.account a) ∨ (P.db.brk ≤ a ∧ P'.account a = {})
  brk : P.db.brk ≤ P'.db.brk
  sent : P'.sent = P.sent
  conf : P'.conf = P.conf
  prev_reqid : P'.prev_reqid = P.prev_reqid
  started : P'.started = P.started
  logins : P'.logins = P.logins
  log : P'.log = P.log

section
variable {P P' P'' : Portal} {h : Host} {env : PortalEnv} {ans : PortalAnswers} {a : Nat} {c : AppConn}

theorem Quiet.trans (hq : Quiet h ans P P') (hq' : Quiet h ans P' P'') : Quiet h ans P P'' := by
  induction hq' with
  | refl => exact hq
  | fewer _ hs hsub ih => exact ih.fewer hs hsub
  | drop _ hc ha ih => exact ih.drop hc ha
  | terminate _ hc ha ih => exact ih.terminate hc ha
  | create _ hm ih => exact ih.create hm

theorem Quiet.wf (hq : Quiet h ans P P') (hw : P.Wf h) : P'.Wf h := by
  induction hq with
  | refl => exact hw
  | fewer _ hs _ ih => exact ⟨ih.db, hs⟩
  | drop _ _ _ ih => exact ⟨ih.db.without, ih.table⟩
  | terminate _ _ _ ih =>
    refine ⟨ih.db.without, ?_⟩
    simpa [terminated] using ih.table
  | create _ hm ih => exact ⟨ih.db.made hm, ih.table⟩

theorem acctAsked_rest {status_type : AcctStatus} {wait : Bool} :
    (P.acctAsked ans a status_type wait c).sent = P.sent ∧
    (P.acctAsked ans a status_type wait c).conf = P.conf ∧
    (P.acctAsked ans a status_type wait c).prev_reqid = P.prev_reqid ∧
    (P.acctAsked ans a status_type wait c).started = P.started ∧
    (P.acctAsked ans a status_type wait c).logins = P.logins ∧
    (P.acctAsked ans a status_type wait c).log = P.log := by
  unfold acctAsked asked
  split <;> simp

theorem Quiet.calm (hq : Quiet h ans P P') : Calm P P' := by
  induction hq with
  | refl => exact ⟨.refl _, fun a c hc => .inl ⟨hc, rfl⟩, Nat.le_refl _, rfl, rfl, rfl, rfl, rfl, rfl⟩
  | fewer _ _ hsub ih => exact { ih with sub := hsub.trans ih.sub }
  | @drop P' b d _ _ _ ih =>
    refine { ih with conn := fun a c hc => ih.conn a c ?_, brk := ih.brk }
    by_cases hab : a = b
    · simp [AppDb.without, hab] at hc
    · simpa [AppDb.without, hab] using hc
  | @terminate P' b d wait _ _ _ ih =>
    obtain ⟨hsent, hconf, hreqid, hstarted, hlogins, hlog⟩ :=
      @Portal.acctAsked_rest P' ans b d .RADIUS_STATUS_TYPE_STOP wait
    refine ⟨?_, fun a c hc => ?_, ih.brk, hsent.trans ih.sent, hconf.trans ih.conf, hreqid.trans ih.prev_reqid,
      hstarted.trans ih.started, hlogins.trans ih.logins, hlog.trans ih.log⟩
    · simpa [terminated] using ih.sub
    · by_cases hab : a = b
      · simp [terminated, AppDb.without, hab] at hc
      · have hold := ih.conn a c (by simpa [terminated, AppDb.without, hab] using hc)
        simpa [terminated, hab] using hold
  | @create P' db hq hm ih =>
    refine { ih with conn := fun a c hc => ?_, brk := Nat.le_trans ih.brk hm.brk }
    by_cases hab : a = P'.db.brk
    · exact .inr ⟨hab ▸ ih.brk, by simp [hab]⟩
    · obtain hc | hc := hm.conn hc
      · simpa [hab] using ih.conn a c hc
      · exact absurd hc hab

theorem wlp_appconnCleanConflict (hw : P.Wf h) {Q : Unit → Portal → Prop} (hq : ∀ P', Quiet h ans P P' →
      P'.db = P.db.without a → (∀ b, b ≠ a → P'.account b = P.account b) → Q ⟨⟩ P') :
    wlp (appconnCleanConflict ans a) Q P := by
  rw [appconnCleanConflict, wlp_bind, wlp_accountOf]
  intro c hc
  rw [wlp_ite]
  constructor
  · intro ha
    rw [terminateAppconnNowait, wlp_bind]
    refine wlp_notifyLogoutNowait hw.table fun T hT hsub => ?_
    refine (wlp_terminate (P := { P with table := T }) (h := h) hw.db false).mpr fun d hd => ?_
    refine hq _ ((Quiet.refl.fewer hT hsub).terminate hd ha) rfl fun b hb => ?_
    simp [terminated, hb]
  · intro ha
    refine (wlp_dropAppconn hw.db).mpr fun d hd => ?_
    exact hq _ (Quiet.refl.drop hd (by simpa using ha)) rfl fun b _ => rfl

/-! ## The connection of an address -/

/-- At most one connection has one of the addresses. -/
def Alone (P : Portal) (u : UserAddr) : Prop :=
  ∀ a b c d, P.db.conns a = some c → P.db.conns b = some d → u.Meets c.user_addr → u.Meets d.user_addr → a = b

/-- No address of `u` is one of two connections. -/
def OneEach (P : Portal) (u : UserAddr) : Prop :=
  ∀ a b c d, P.db.conns a = some c → P.db.conns b = some d →
    (u.hasV4 → c.user_addr.hasV4 → u.user_ip = c.user_addr.user_ip → d.user_addr.hasV4 →
      u.user_ip = d.user_addr.user_ip → a = b) ∧
    (u.hasV6 → c.user_addr.hasV6 → u.user_ipv6 = c.user_addr.user_ipv6 → d.user_addr.hasV6 →
      u.user_ipv6 = d.user_addr.user_ipv6 → a = b)

/-- What `appconn_find_by_useripx` gives. -/
structure Sought (P : Portal) (u : UserAddr) (r : Option Nat) (P' : Portal) : Prop where
  absent : r = none → P' = P ∧ ∀ a c, P.db.conns a = some c → ¬ u.Meets c.user_addr
  found : ∀ a, r = some a → ∃ c, P.db.conns a = some c ∧ u.Meets c.user_addr ∧ P'.db.conns a = some c ∧
    P'.account a = P.account a
  alone : P.Alone u → P' = P
  rest : P.OneEach u → ∀ a c, P'.db.conns a = some c → u.Meets c.user_addr → r = some a

/-- A search that removes nothing. -/
theorem sought_same {u : UserAddr} {r : Option Nat}
    (hsome : ∀ a, r = some a → ∃ c, P.db.conns a = some c ∧ u.Meets c.user_addr)
    (hnone : r = none → ∀ a c, P.db.conns a = some c → ¬ u.Meets c.user_addr)
    (hrest : P.OneEach u → ∀ a c, P.db.conns a = some c → u.Meets c.user_addr → r = some a) :
    Sought P u r P := by
  refine ⟨fun hr => ⟨rfl, hnone hr⟩, fun a ha => ?_, fun _ => rfl, hrest⟩
  obtain ⟨c, hc, hm⟩ := hsome a ha
  exact ⟨c, hc, hm, hc, rfl⟩

/-- `r` is what a search for a connection with an address in `K` gives. -/
structure Searched (P : Portal) (K : UserAddr → Prop) (r : Option Nat) : Prop where
  found : ∀ a, r = some a → ∃ c, P.db.conns a = some c ∧ K c.user_addr
  absent : r = none → ∀ a c, P.db.conns a = some c → ¬ K c.user_addr

theorem searched_userip (hw : P.Wf h) {u : UserAddr} {r : Option Nat}
    (hr : P.db.appconnFindByUserip u.user_ip = some r) :
    P.Searched (fun v => v.hasV4 ∧ u.user_ip = v.user_ip) r := by
  refine ⟨fun a ha => ?_, fun hn a c hc hk => hw.db.userip_none (hn ▸ hr) hc hk.1 hk.2.symm⟩
  obtain ⟨c, hc, hv, hip⟩ := hw.db.userip_some (ha ▸ hr)
  exact ⟨c, hc, hv, hip.symm⟩

theorem searched_useripv6 (hw : P.Wf h) {u : UserAddr} {r : Option Nat}
    (hr : P.db.appconnFindByUseripv6 u.user_ipv6 = some r) :
    P.Searched (fun v => v.hasV6 ∧ u.user_ipv6 = v.user_ipv6) r := by
  refine ⟨fun a ha => ?_, fun hn a c hc hk => hw.db.useripv6_none (hn ▸ hr) hc hk.1 hk.2.symm⟩
  obtain ⟨c, hc, hv, hip⟩ := hw.db.useripv6_some (ha ▸ hr)
  exact ⟨c, hc, hv, hip.symm⟩

/-- If there is one such connection only, the search gives it. -/
theorem Searched.only {K : UserAddr → Prop} {r : Option Nat} (hs : P.Searched K r)
    (hone : ∀ b d, P.db.conns b = some d → K d.user_addr → b = a) (hc : P.db.conns a = some c)
    (hk : K c.user_addr) : r = some a := by
  cases r with
  | none => exact absurd hk (hs.absent rfl a c hc)
  | some b =>
    obtain ⟨d, hd, hkd⟩ := hs.found b rfl
    rw [hone b d hd hkd]

/-- What a search by one address finds is a connection that has it. -/
theorem sought_one {u : UserAddr} {r : Option Nat} {K : UserAddr → Prop} (hK : ∀ v, u.Meets v ↔ K v)
    (hs : P.Searched K r)
    (hone : P.OneEach u → ∀ a b c d, P.db.conns a = some c → P.db.conns b = some d → K c.user_addr →
      K d.user_addr → a = b) : Sought P u r P := by
  refine sought_same (fun a ha => ?_) (fun hr a c hc hm => hs.absent hr a c hc ((hK _).mp hm)) fun h1 a c hc hm => ?_
  · obtain ⟨c, hc, hk⟩ := hs.found a ha
    exact ⟨c, hc, (hK _).mpr hk⟩
  · have hk := (hK _).mp hm
    exact hs.only (fun b d hd hkd => hone h1 b a d c hd hc hkd hk) hc hk

/-- A user with both addresses is sought by either, and of two connections the second is taken out. -/
theorem wlp_find_mix (hw : P.Wf h) {u : UserAddr} (hmix : u.family = EAG_MIX) {Q : Option Nat → Portal → Prop}
    (hq : ∀ r P', Quiet h ans P P' → Sought P u r P' → Q r P') :
    wlp (appconnFindByUseripx ans u) Q P := by
  have hne4 : u.family ≠ EAG_IPV4 := hmix ▸ by decide
  have hne6 : u.family ≠ EAG_IPV6 := hmix ▸ by decide
  rw [appconnFindByUseripx, if_neg hne4, if_neg hne6, if_pos hmix, wlp_bind, wlp_ask]
  intro r₄ hr₄
  rw [wlp_bind, wlp_ask]
  intro r₆ hr₆
  have hs₄ := searched_userip hw hr₄
  have hs₆ := searched_useripv6 hw hr₆
  have hmeet : ∀ v, u.Meets v ↔ (v.hasV4 ∧ u.user_ip = v.user_ip) ∨ (v.hasV6 ∧ u.user_ipv6 = v.user_ipv6) := by
    intro v
    simp [UserAddr.Meets, UserAddr.hasV4, UserAddr.hasV6, hmix]
  -- with one connection for each address, the searches give all there are
  have hone₄ : P.OneEach u → ∀ a c, P.db.conns a = some c → c.user_addr.hasV4 →
      u.user_ip = c.user_addr.user_ip → r₄ = some a := fun h1 a c hc hv hip =>
    hs₄.only (fun b d hd hk => (h1 b a d c hd hc).1 (.inr hmix) hk.1 hk.2 hv hip) hc ⟨hv, hip⟩
  have hone₆ : P.OneEach u → ∀ a c, P.db.conns a = some c → c.user_addr.hasV6 →
      u.user_ipv6 = c.user_addr.user_ipv6 → r₆ = some a := fun h1 a c hc hv hip =>
    hs₆.only (fun b d hd hk => (h1 b a d c hd hc).2 (.inr hmix) hk.1 hk.2 hv hip) hc ⟨hv, hip⟩
  cases r₄ with
  | none =>
    refine wlp_pure.mpr (hq r₆ P .refl (sought_same (fun a ha => ?_) (fun hn a c hc hm => ?_)
      fun h1 a c hc hm => ?_))
    · obtain ⟨c, hc, hk⟩ := hs₆.found a ha
      exact ⟨c, hc, (hmeet _).mpr (.inr hk)⟩
    · rcases (hmeet _).mp hm with hk | hk
      · exact hs₄.absent rfl a c hc hk
      · exact hs₆.absent hn a c hc hk
    · rcases (hmeet _).mp hm with hk | hk
      · exact absurd hk (hs₄.absent rfl a c hc)
      · exact hone₆ h1 a c hc hk.1 hk.2
  | some v4 =>
    obtain ⟨c₄, hc₄, hk₄⟩ := hs₄.found v4 rfl
    have hm₄ : u.Meets c₄.user_addr := (hmeet _).mpr (.inl hk₄)
    have hstay : (∀ b, r₆ = some b → v4 = b) → Sought P u (some v4) P := by
      intro hsame
      refine sought_same (fun a ha => ?_) (by simp) fun h1 a c hc hm => ?_
      · obtain rfl := Option.some.inj ha
        exact ⟨c₄, hc₄, hm₄⟩
      · rcases (hmeet _).mp hm with hk | hk
        · exact hone₄ h1 a c hc hk.1 hk.2
        · rw [hsame a (hone₆ h1 a c hc hk.1 hk.2)]
    cases r₆ with
    | none => exact wlp_pure.mpr (hq _ P .refl (hstay (by simp)))
    | some v6 =>
      obtain ⟨c₆, hc₆, hk₆⟩ := hs₆.found v6 rfl
      have hm₆ : u.Meets c₆.user_addr := (hmeet _).mpr (.inr hk₆)
      by_cases hne : v4 = v6
      · simp only [hne, ne_eq, not_true_eq_false, if_false, wlp_pure]
        exact hne ▸ hq _ P .refl (hstay fun b hb => hne.trans (Option.some.inj hb))
      · simp only [ne_eq, hne, not_false_eq_true, if_true, wlp_bind, wlp_pure]
        refine wlp_appconnCleanConflict hw fun P' hquiet hdb hacc => hq _ P' hquiet ⟨by simp, fun a ha => ?_,
          fun ha => absurd (ha v4 v6 c₄ c₆ hc₄ hc₆ hm₄ hm₆) hne, fun h1 a c hc hm => ?_⟩
        · obtain rfl := Option.some.inj ha
          exact ⟨c₄, hc₄, hm₄, by simp [hdb, AppDb.without, hne, hc₄], hacc _ hne⟩
        · have ha6 : a ≠ v6 := by
            rintro rfl
            simp [hdb, AppDb.without] at hc
          have hold : P.db.conns a = some c := by simpa [hdb, AppDb.without, ha6] using hc
          rcases (hmeet _).mp hm with hk | hk
          · exact hone₄ h1 a c hold hk.1 hk.2
          · exact absurd (Option.some.inj (hone₆ h1 a c hold hk.1 hk.2)).symm ha6

theorem wlp_appconnFindByUseripx (hw : P.Wf h) {u : UserAddr} {Q : Option Nat → Portal → Prop}
    (hq : ∀ r P', Quiet h ans P P' → Sought P u r P' → Q r P') :
    wlp (appconnFindByUseripx ans u) Q P := by
  have h64 : EAG_IPV6 ≠ EAG_IPV4 := by decide
  have h46 : EAG_IPV4 ≠ EAG_IPV6 := by decide
  have h4m : EAG_IPV4 ≠ EAG_MIX := by decide
  have h6m : EAG_IPV6 ≠ EAG_MIX := by decide
  by_cases hf4 : u.family = EAG_IPV4
  · rw [appconnFindByUseripx, if_pos hf4, wlp_ask]
    intro r hr
    refine hq r P .refl (sought_one (fun v => ?_) (searched_userip hw hr) fun h1 a b c d hc hd hk hk' => ?_)
    · simp [UserAddr.Meets, UserAddr.hasV4, UserAddr.hasV6, hf4, h46, h4m]
    · exact (h1 a b c d hc hd).1 (.inl hf4) hk.1 hk.2 hk'.1 hk'.2
  by_cases hf6 : u.family = EAG_IPV6
  · rw [appconnFindByUseripx, if_neg hf4, if_pos hf6, wlp_ask]
    intro r hr
    refine hq r P .refl (sought_one (fun v => ?_) (searched_useripv6 hw hr) fun h1 a b c d hc hd hk hk' => ?_)
    · simp [UserAddr.Meets, UserAddr.hasV4, UserAddr.hasV6, hf6, h64, h6m]
    · exact (h1 a b c d hc hd).2 (.inl hf6) hk.1 hk.2 hk'.1 hk'.2
  by_cases hfm : u.family = EAG_MIX
  · exact wlp_find_mix hw hfm hq
  · rw [appconnFindByUseripx, if_neg hf4, if_neg hf6, if_neg hfm, wlp_pure]
    have hno : ∀ v, ¬ u.Meets v := by
      intro v
      simp [UserAddr.Meets, UserAddr.hasV4, UserAddr.hasV6, hf4, hf6, hfm]
    exact hq none P .refl (sought_same (by simp) (fun _ a c _ => hno _) fun _ a c _ hm => absurd hm (hno _))

/-- The connection that is found is the one that the tables give for the address. -/
theorem wlp_find_first (hw : P.Wf h) {u : UserAddr} : wlp (appconnFindByUseripx ans u)
    (fun r _ => (P.db.appconnFindByUseripx u).map Prod.fst = some r) P := by
  rw [appconnFindByUseripx, AppDb.appconnFindByUseripx]
  by_cases hf4 : u.family = EAG_IPV4
  · rw [if_pos hf4, if_pos hf4, wlp_ask]
    intro r hr
    simp [hr]
  rw [if_neg hf4, if_neg hf4]
  by_cases hf6 : u.family = EAG_IPV6
  · rw [if_pos hf6, if_pos hf6, wlp_ask]
    intro r hr
    simp [hr]
  rw [if_neg hf6, if_neg hf6]
  by_cases hfm : u.family = EAG_MIX
  · rw [if_pos hfm, if_pos hfm]
    simp only [wlp_bind, wlp_ask]
    intro r₄ hr₄ r₆ hr₆
    rw [hr₄, hr₆]
    cases r₄ with
    | none => exact wlp_pure.mpr rfl
    | some v4 =>
      cases r₆ with
      | none => exact wlp_pure.mpr rfl
      | some v6 =>
        obtain ⟨c, hc, -⟩ := hw.db.useripv6_some hr₆
        simp only [wlp_ite, wlp_bind, wlp_pure]
        refine ⟨fun hne _ _ _ => ?_, fun heq => ?_⟩
        · simp [hne, AppDb.appconnCleanConflict, hc, hw.db.del hc]
        · obtain rfl := not_not.mp heq
          simp
  · rw [if_neg hfm, if_neg hfm]
    exact wlp_pure.mpr rfl

/-- A search, with what it finds in the tables as they are before. -/
theorem wlp_find (hw : P.Wf h) {u : UserAddr} {Q : Option Nat → Portal → Prop}
    (hq : ∀ r P', Quiet h ans P P' → Sought P u r P' → (P.db.appconnFindByUseripx u).map Prod.fst = some r →
      Q r P') : wlp (appconnFindByUseripx ans u) Q P := by
  have hfind : wlp (appconnFindByUseripx ans u) (fun r P' => Quiet h ans P P' ∧ Sought P u r P') P :=
    wlp_appconnFindByUseripx hw fun _ _ hquiet hs => ⟨hquiet, hs⟩
  exact wlp_mono (fun r P' hr => hq r P' hr.1.1 hr.1.2 hr.2) (wlp_and hfind (wlp_find_first hw))

/-- The connection that a request gets to: one that has an address of the request, or a new one if there was
none. -/
structure Reached (P : Portal) (u : UserAddr) (a : Nat) (P' : Portal) : Prop where
  conn : (∃ c, P.db.conns a = some c ∧ u.Meets c.user_addr ∧ P'.db.conns a = some c ∧
      P'.account a = P.account a) ∨
    ((∃ c, P'.db.conns a = some c) ∧ P'.account a = {} ∧ ∀ b c, P.db.conns b = some c → ¬ u.Meets c.user_addr)
  table : P.Alone u → P'.table = P.table
  rest : P.OneEach u → ∀ b c, P'.db.conns b = some c → u.Meets c.user_addr → b = a

theorem wlp_appconnCreateNoArp {u : UserAddr} {Q : Option Nat → Portal → Prop}
    (hq : ∀ r db, AppDb.Made env.host P.db db → (∀ a, r = some a → a = P.db.brk ∧ ∃ c, db.conns a = some c) →
      Q r { P with db := db, account := Function.update P.account P.db.brk {} }) :
    wlp (appconnCreateNoArp env ans u) Q P := by
  simp only [appconnCreateNoArp, wlp_bind, wlp_ask, wlp_modify, wlp_pure, Option.some.injEq, forall_eq']
  have hm := AppDb.made_make P.db env.host u ans.make.usermac ans.make.mem ans.make.intf ans.make.nasportid
    (P.db.askWireless ans.make.usermac ans.make.sta)
  exact hq _ _ hm.1 hm.2

theorem wlp_reach (hw : P.Wf env.host) {auto : Bool} {u : UserAddr} {Q : Option Nat × Option Nat → Portal → Prop}
    (hq : ∀ r P', Quiet env.host ans P P' → (∀ a, r.1 = some a → Reached P u a P') → Q r P') :
    wlp (reach env ans auto u) Q P := by
  rw [reach, wlp_bind]
  refine wlp_appconnFindByUseripx hw fun r P' hquiet hs => ?_
  cases r with
  | some a =>
    refine wlp_pure.mpr (hq _ P' hquiet fun b hb => ?_)
    obtain rfl := Option.some.inj hb
    refine ⟨.inl (hs.found a rfl), fun ha => by rw [hs.alone ha], fun h1 b c hc hm => ?_⟩
    exact (Option.some.inj (hs.rest h1 b c hc hm)).symm
  | none =>
    obtain ⟨rfl, hno⟩ := hs.absent rfl
    simp only [wlp_ite, wlp_bind, wlp_pure]
    refine ⟨fun _ => ?_, fun _ => hq _ P' .refl (by simp)⟩
    rw [appconnCheckIsConflict, wlp_ask]
    intro conflict _
    refine wlp_appconnCreateNoArp fun r db hm hr => hq _ _ (.create .refl hm) fun a ha => ?_
    obtain ⟨rfl, c, hc⟩ := hr a ha
    refine ⟨.inr ⟨⟨c, hc⟩, by simp, hno⟩, fun _ => rfl, fun _ b d hd hmeet => ?_⟩
    obtain hold | hnew := hm.conn hd
    · exact absurd hmeet (hno b d hold)
    · exact hnew

theorem wlp_requestCheck {pkt : Packet} {Q : Bool → Portal → Prop} :
    wlp (requestCheck env a pkt) Q P ↔ ∀ c, P.db.conns a = some c →
      Q ((portalRequestCheck env.protocol env.md5 pkt (P.account a).secret).2 = 0) P := by
  simp only [requestCheck, wlp_bind, wlp_accountOf, wlp_pure]

/-- The packet passes `portal_request_check` with the secret of a connection of the address; if there is none,
with the empty one of a connection that is new. -/
def Passes (env : PortalEnv) (P : Portal) (u : UserAddr) (pkt : Packet) : Prop :=
  ∃ secret, (portalRequestCheck env.protocol env.md5 pkt secret).2 = 0 ∧
    ((∃ a c, P.db.conns a = some c ∧ u.Meets c.user_addr ∧ (P.account a).secret = secret) ∨
      (secret = [] ∧ ∀ a c, P.db.conns a = some c → ¬ u.Meets c.user_addr))

theorem wlp_serve (hw : P.Wf env.host) {auto : Bool} {u : UserAddr} {pkt : Packet} {reject : PortalM Unit}
    {body : Nat → PortalM Unit} {Q : Unit → Portal → Prop}
    (hbody : ∀ a P', Quiet env.host ans P P' → Reached P u a P' → Passes env P u pkt →
      (portalRequestCheck env.protocol env.md5 pkt (P'.account a).secret).2 = 0 → wlp (body a) Q P')
    (hstop : ∀ P', Quiet env.host ans P P' → Q ⟨⟩ P')
    (hreject : ∀ P', Quiet env.host ans P P' →
      wlp reject (fun _ P'' => P''.Wf env.host ∧ ∀ P₃, Quiet env.host ans P'' P₃ → Q ⟨⟩ P₃) P') :
    wlp (serve env ans auto u pkt reject body) Q P := by
  have hfail : ∀ P' (conflict : Option Nat), Quiet env.host ans P P' → wlp (do
      if env.protocol = .PORTAL_PROTOCOL_TELECOM then pure () else reject
      conflict.elim (pure ()) (appconnCleanConflict ans)) Q P' := by
    intro P' conflict hquiet
    have hlast : ∀ P'', P''.Wf env.host → (∀ P₃, Quiet env.host ans P'' P₃ → Q ⟨⟩ P₃) →
        wlp (conflict.elim (pure ()) (appconnCleanConflict ans)) Q P'' := by
      intro P'' hw'' hq
      cases conflict with
      | none => exact wlp_pure.mpr (hq P'' .refl)
      | some b => exact wlp_appconnCleanConflict hw'' fun P₃ h₃ _ _ => hq P₃ h₃
    dsimp only
    rw [wlp_ite]
    constructor
    · intro _
      exact hlast P' (hquiet.wf hw) fun P₃ h₃ => hstop P₃ (hquiet.trans h₃)
    · intro _
      rw [wlp_bind]
      exact wlp_mono (fun _ P'' h'' => hlast P'' h''.1 h''.2) (hreject P' hquiet)
  rw [serve, wlp_bind]
  refine wlp_reach hw fun r P' hquiet hreached => ?_
  obtain ⟨ra, rc⟩ := r
  cases ra with
  | none =>
    cases rc with
    | none => exact hfail P' none hquiet
    | some b => exact hfail P' (some b) hquiet
  | some a =>
    cases rc with
    | some b => exact hfail P' (some b) hquiet
    | none =>
      have hr := hreached a rfl
      simp only [wlp_bind, wlp_requestCheck, wlp_ite, wlp_pure, decide_eq_true_eq]
      intro c hc
      refine ⟨fun hpass => hbody a P' hquiet hr ⟨_, hpass, ?_⟩ hpass, fun _ => hstop P' hquiet⟩
      obtain ⟨d, hd, hm, -, hacc⟩ | ⟨-, hacc, hno⟩ := hr.conn
      · exact .inl ⟨a, d, hd, hm, by rw [hacc]⟩
      · exact .inr ⟨by rw [hacc], hno⟩

/-! ## Acknowledgements -/

/-- The type of the acknowledgement of a request. -/
def rspType (pkt : Packet) : UInt8 :=
  if packetType pkt = REQ_CHALLENGE then ACK_CHALLENGE
  else if packetType pkt = REQ_AUTH then ACK_AUTH
  else if packetType pkt = REQ_LOGOUT then ACK_LOGOUT
  else if packetType pkt = REQ_INFO then ACK_INFO
  else 0

theorem wlp_portalPacketInitRsp {pkt : Packet} {Q : Ack → Portal → Prop}
    (hq : ∀ ack reqid, portalPacketInitIpx env pkt = some ack.user_addr → ack.type = rspType pkt →
      ack.err_code = 0 → Q ack { P with prev_reqid := reqid }) :
    wlp (portalPacketInitRsp env pkt) Q P := by
  rw [portalPacketInitRsp, wlp_bind, wlp_ask]
  intro u hu
  have hsame : ∀ ack : Ack, ack.user_addr = u → ack.type = rspType pkt → ack.err_code = 0 → Q ack P :=
    fun ack ha ht he => hq ack P.prev_reqid (ha ▸ hu) ht he
  simp only [wlp_ite, wlp_bind, detectUniqueReqid, wlp_get, wlp_modify, wlp_pure]
  refine ⟨fun h1 => ?_, fun h1 => ⟨fun h2 => ?_, fun h2 => ⟨fun h3 => ?_, fun h3 => ⟨fun h4 => ?_, fun h4 => ?_⟩⟩⟩⟩
  · exact hq _ _ hu (by rw [rspType, if_pos h1]) rfl
  · exact hsame _ rfl (by rw [rspType, if_neg h1, if_pos h2]) rfl
  · exact hsame _ rfl (by rw [rspType, if_neg h1, if_neg h2, if_pos h3]) rfl
  · exact hsame _ rfl (by rw [rspType, if_neg h1, if_neg h2, if_neg h3, if_pos h4]) rfl
  · exact hsame _ rfl (by rw [rspType, if_neg h1, if_neg h2, if_neg h3, if_neg h4]) rfl

/-! ## A user who is let in -/

/-- What `authorize` leaves. -/
def admitted (ans : PortalAnswers) (req : RadiusReq) (a n : Nat) (s : PortalSess) (rsppkt : Ack) (reqid : UInt16)
    (c : AppConn) (P : Portal) : Portal :=
  acctAsked ans a .RADIUS_STATUS_TYPE_START true c { P with
    authed_user_num := P.authed_user_num + 1
    prev_reqid := reqid
    sent := rsppkt :: P.sent
    table := P.table.setSess n (P.armed .SESS_AFF_WAIT_TIMEOUT P.conf.retry_interval
      { s with status := .SESS_STATUS_AFF_WAIT, retry_count := 0 })
    account := Function.update P.account a { P.account a with authed := true }
    log := ⟨(P.account a).username, (P.account a).login, req, s.login⟩ :: P.log }

theorem wlp_authorize {req : RadiusReq} {n : Nat} {s : PortalSess} {Q : Unit → Portal → Prop}
    (hq : ∀ rsppkt reqid c, portalPacketInitIpx env s.rcvpkt = some rsppkt.user_addr →
      rsppkt.type = rspType s.rcvpkt → rsppkt.err_code = 0 → P.db.conns a = some c →
      Q ⟨⟩ (P.admitted ans req a n s rsppkt reqid c)) : wlp (authorize env ans req a n s) Q P := by
  rw [authorize, wlp_bind, wlp_modify, wlp_bind]
  refine wlp_portalPacketInitRsp fun rsppkt reqid hu ht he => ?_
  simp only [wlp_bind, wlp_send, wlp_get, wlp_setSess, wlp_accountOf, wlp_setAccount, wlp_modify,
    wlp_radiusAcctReq]
  intro s₀ _ c hc d _ e he'
  exact hq rsppkt reqid e hu ht he he'

/-! ## Users who go -/

/-- A user whose connection is authenticated is logged out; otherwise the connection is dropped. -/
theorem wlp_leave (hw : P.Wf h) {Q : Unit → Portal → Prop} (hq : ∀ P', Quiet h ans P P' → Q ⟨⟩ P') :
    wlp (leave ans a) Q P := by
  rw [leave, wlp_bind, wlp_accountOf]
  intro c _
  rw [wlp_ite]
  constructor
  · intro ha
    rw [wlp_bind]
    refine wlp_notifyLogoutNowait hw.table fun T hT hsub => ?_
    refine (wlp_terminateAppconn (P := { P with table := T }) (h := h) hw.db).mpr fun d hd => ?_
    exact hq _ ((Quiet.refl.fewer hT hsub).terminate hd ha)
  · intro ha
    exact (wlp_dropAppconn hw.db).mpr fun d hd => hq _ (Quiet.refl.drop hd (by simpa using ha))

theorem wlp_idle (hw : P.Wf h) {Q : Unit → Portal → Prop} (hq : ∀ P', Quiet h ans P P' → Q ⟨⟩ P') :
    wlp (idle a) Q P := by
  rw [idle, wlp_bind, wlp_accountOf]
  intro c _
  rw [wlp_ite]
  constructor
  · intro _
    exact wlp_pure.mpr (hq P .refl)
  · intro ha
    exact (wlp_dropAppconn hw.db).mpr fun d hd => hq _ (Quiet.refl.drop hd (by simpa using ha))

theorem wlp_userOfflineProc (hw : P.Wf env.host) {pkt : Packet} {Q : Unit → Portal → Prop}
    (hq : ∀ P', Quiet env.host ans P P' → Q ⟨⟩ P') : wlp (userOfflineProc env ans pkt) Q P := by
  rw [userOfflineProc, wlp_bind, wlp_ask]
  intro u _
  cases packetUsermac env pkt with
  | none => exact wlp_pure.mpr (hq P .refl)
  | some usermac =>
    dsimp only
    rw [wlp_bind]
    refine wlp_appconnFindByUseripx hw fun r P' hquiet _ => ?_
    cases r with
    | none => exact wlp_pure.mpr (hq P' hquiet)
    | some a =>
      have hw' := hquiet.wf hw
      simp only [wlp_bind, wlp_connOf, wlp_accountOf]
      intro c hc d _
      rw [wlp_ite, wlp_ite]
      refine ⟨fun _ => wlp_pure.mpr (hq P' hquiet), fun _ => ?_⟩
      have hleave := wlp_leave (a := a) hw' (Q := Q) fun P'' h'' => hq P'' (hquiet.trans h'')
      rw [leave, wlp_bind, wlp_accountOf] at hleave
      exact wlp_ite.mp (hleave c hc)

theorem wlp_terminateAppconnAll (hw : P.Wf h) {p : Nat → Bool} {Q : Unit → Portal → Prop}
    (hq : ∀ P', Quiet h ans P P' → Q ⟨⟩ P') : wlp (terminateAppconnAll ans p) Q P := by
  rw [terminateAppconnAll, wlp_bind, wlp_get]
  have hkeeps : Keeps (fun P' => Quiet h ans P P') (P.db.head.forM fun a =>
      if p a then appconnCleanConflict ans a else pure () : PortalM Unit) := by
    refine Keeps.forM fun a _ => Keeps.ite (fun _ P' hquiet => ?_) fun _ => Keeps.pure
    exact wlp_appconnCleanConflict (hquiet.wf hw) fun P'' h'' _ _ => hquiet.trans h''
  exact wlp_mono (fun _ P' hquiet => hq P' hquiet) (hkeeps P .refl)

theorem wlp_appconnCreateByStaV2 {u : UserAddr} {Q : Unit → Portal → Prop}
    (hq : ∀ P', Quiet env.host ans P P' → Q ⟨⟩ P' ∧ ∀ a c srv, P'.db.conns a = some c →
      wlp (appconnConfigPortalsrv a srv) Q P') : wlp (appconnCreateByStaV2 env ans u) Q P := by
  simp only [appconnCreateByStaV2, wlp_bind, wlp_ask, wlp_modify, Option.some.injEq, forall_eq']
  have hm := AppDb.made_make P.db env.host u ans.make.usermac ans.make.mem ans.make.intf ans.make.nasportid some
  obtain ⟨hq, hconf⟩ := hq _ (.create .refl hm.1)
  obtain ⟨-, hconn⟩ := hm
  rw [AppDb.appconnCreateByStaV2]
  generalize P.db.make env.host u ans.make.usermac ans.make.mem ans.make.intf ans.make.nasportid some = made
    at hconn hq hconf ⊢
  obtain ⟨r, db⟩ := made
  cases r with
  | none => exact wlp_pure.mpr hq
  | some a =>
    cases ans.portal_srv with
    | none => exact wlp_pure.mpr hq
    | some srv =>
      obtain ⟨-, c, hc⟩ := hconn a rfl
      exact hconf a c srv hc

/-- What the handlers of acknowledgements come to. -/
theorem wlp_acknowledged (hw : P.Wf env.host) {pkt : Packet} {check : Bool} {sess : Nat → Nat → PortalM Unit}
    {Q : Unit → Portal → Prop} (hstop : ∀ P', Quiet env.host ans P P' → Q ⟨⟩ P')
    (hsess : ∀ a n P', Quiet env.host ans P P' → wlp (sess a n) Q P') :
    wlp (acknowledged env ans pkt check sess) Q P := by
  rw [acknowledged, wlp_bind, wlp_ask]
  intro u _
  rw [wlp_bind]
  refine wlp_appconnFindByUseripx hw fun r P' hquiet _ => ?_
  cases r with
  | none => exact wlp_pure.mpr (hstop P' hquiet)
  | some a =>
    simp only [wlp_bind, wlp_requestCheck, wlp_ite, wlp_pure]
    intro c _
    refine ⟨fun _ => hstop P' hquiet, fun _ => ?_⟩
    refine wlp_findSess (hquiet.wf hw).table fun r T hf => ?_
    have hq' := hquiet.fewer hf.sound hf.sub
    cases r with
    | none => exact wlp_pure.mpr (hstop _ hq')
    | some n => exact hsess a n _ hq'

theorem wlp_endAuth (hw : P.Wf h) {u : UserAddr} {Q : Unit → Portal → Prop}
    (hq : ∀ P', Quiet h ans P P' → Q ⟨⟩ P' ∧ ∀ a c, P'.db.conns a = some c → u.Meets c.user_addr →
      Q ⟨⟩ { P' with account := Function.update P'.account a { P'.account a with on_auth := false } }) :
    wlp (endAuth ans u) Q P := by
  rw [endAuth, wlp_bind]
  refine wlp_appconnFindByUseripx hw fun r P' hquiet hs => ?_
  cases r with
  | none => exact wlp_pure.mpr (hq P' hquiet).1
  | some a =>
    refine wlp_setAccount.mpr fun c _ => ?_
    obtain ⟨d, -, hm, hd, -⟩ := hs.found a rfl
    exact (hq P' hquiet).2 a d hd hm

end

end Portal

end Eag
end DaemonGroup
