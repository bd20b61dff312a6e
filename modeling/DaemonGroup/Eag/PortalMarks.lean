import DaemonGroup.Eag.PortalKeeps

/-!
# DaemonGroup.Eag.PortalMarks

When something is as it was before a packet (`Portal.Untouched`), and the marks that cannot be taken away while
the packet is processed: a connection or a session that is gone, a connection that has been made, and an account
that has been changed. A packet that leaves one of them leaves the portal touched.

The searches for the connection and for the session of a user leave one if the two addresses of the user belong
to two of them.
-/

namespace DaemonGroup
namespace Eag

open Lib Bytes

namespace AppDb

/-- A connection can be made for `u`. -/
def CanMake (db : AppDb) (ans : Answers) (u : UserAddr) : Prop :=
  ans.mem = true ∧ ¬ ((ans.usermac = .zero ∧ db.force_wireless = true) ∨ ans.intf = false) ∧
    db.askWireless ans.usermac ans.sta u ≠ none ∧ ¬ (ans.nasportid = false ∧ db.check_nasportid = true)

/-- A connection is made if it can be. -/
theorem createNoArp_cases (db : AppDb) (h : Host) (u : UserAddr) (ans : Answers) :
    (db.CanMake ans u ∧ (db.appconnCreateNoArp h u ans).1 = some db.brk) ∨
      (¬ db.CanMake ans u ∧ (db.appconnCreateNoArp h u ans).1 = none ∧
        (db.appconnCreateNoArp h u ans).2 = { db with brk := (db.appconnCreateNoArp h u ans).2.brk }) := by
  rw [appconnCreateNoArp, make, CanMake]
  cases ans.mem with
  | false => simp
  | true =>
    by_cases hmac : (ans.usermac = .zero ∧ db.force_wireless = true) ∨ ans.intf = false
    · simp [hmac]
    · cases hask : db.askWireless ans.usermac ans.sta u with
      | none => simp [hmac]
      | some v =>
        by_cases hport : ans.nasportid = false ∧ db.check_nasportid = true
        · simp [hmac, hport]
        · simp [hmac, hport]

end AppDb

namespace Portal

/-- The connections, the sessions, the number of users and the RADIUS requests are as they were. Allocations
that have come to nothing do not count. -/
structure Untouched (P P' : Portal) : Prop where
  db : P'.db = { P.db with brk := P'.db.brk }
  account : ∀ a c, P.db.conns a = some c → P'.account a = P.account a
  table : P'.table = { P.table with brk := P'.table.brk }
  authed_user_num : P'.authed_user_num = P.authed_user_num
  radius : P'.radius = P.radius

/-- The connection `b` was there, and it is gone. -/
def Gone (b : Nat) (db : AppDb) : Prop := db.conns b = none ∧ b < db.brk

/-- The connection `b` is there. -/
def There (b : Nat) (db : AppDb) : Prop := ∃ c, db.conns b = some c

/-- `p` holds of the connections. -/
structure OfDb (h : Host) (p : AppDb → Prop) (P : Portal) : Prop where
  wf : P.Wf h
  db : p P.db

/-- The session `m` is gone. -/
structure LostSess (h : Host) (m : Nat) (P : Portal) : Prop where
  wf : P.Wf h
  gone : P.table.sess m = none

/-- What `g` says of the account of `a` is `k`. -/
structure Marked {β : Type} (h : Host) (g : Account → β) (a : Nat) (k : β) (P : Portal) : Prop where
  wf : P.Wf h
  mark : g (P.account a) = k

section
variable {P P' : Portal} {h : Host} {ans : PortalAnswers} {a b n m : Nat} {c : AppConn} {s : PortalSess}
  {u : UserAddr} {p : AppDb → Prop} {β : Type} {g : Account → β} {k : β}

/-! ## Marks -/

theorem Untouched.refl (P : Portal) : Untouched P P := ⟨rfl, fun _ _ _ => rfl, rfl, rfl, rfl⟩

theorem Untouched.conns (hu : Untouched P P') : P'.db.conns = P.db.conns := by rw [hu.db]

theorem Untouched.sess (hu : Untouched P P') : P'.table.sess = P.table.sess := by rw [hu.table]

theorem lost_touched (hgone : P'.db.conns b = none) (hb : P.db.conns b = some c) : ¬ Untouched P P' := by
  intro hu
  rw [hu.conns, hb] at hgone
  cases hgone

theorem OfDb.made (hd : OfDb h (There b) P') (hnone : P.db.conns b = none) : ¬ Untouched P P' := by
  intro hu
  obtain ⟨c, hc⟩ := hd.db
  rw [hu.conns, hnone] at hc
  cases hc

theorem LostSess.touched (hl : LostSess h m P') (hm : P.table.sess m = some s) : ¬ Untouched P P' := by
  intro hu
  have hgone := hl.gone
  rw [hu.sess, hm] at hgone
  cases hgone

theorem Marked.touched (hm : Marked h g a k P') (hc : P.db.conns a = some c) (hk : k ≠ g (P.account a)) :
    ¬ Untouched P P' := by
  intro hu
  have hmark := hm.mark
  rw [hu.account a c hc] at hmark
  exact hk hmark.symm

theorem OfDb.quiet (hl : OfDb h (Gone b) P) (hq : Quiet h ans P P') : OfDb h (Gone b) P' := by
  refine ⟨hq.wf hl.wf, ?_, Nat.lt_of_lt_of_le hl.db.2 hq.calm.brk⟩
  cases hb : P'.db.conns b with
  | none => rfl
  | some c =>
    obtain ⟨hold, -⟩ | ⟨hnew, -⟩ := hq.calm.conn b c hb
    · rw [hl.db.1] at hold
      cases hold
    · exact absurd hl.db.2 (Nat.not_lt.mpr hnew)

theorem LostSess.quiet (hl : LostSess h m P) (hq : Quiet h ans P P') : LostSess h m P' := by
  refine ⟨hq.wf hl.wf, ?_⟩
  cases hm : P'.table.sess m with
  | none => rfl
  | some s =>
    have hold := hq.calm.sub m s hm
    rw [hl.gone] at hold
    cases hold

theorem OfDb.tables (hd : OfDb h p P) {T : SessTable} (hT : T.Sound) : OfDb h p { P with table := T } :=
  ⟨⟨hd.wf.db, hT⟩, hd.db⟩

theorem Marked.tables (hm : Marked h g a k P) {T : SessTable} (hT : T.Sound) :
    Marked h g a k { P with table := T } := ⟨⟨hm.wf.db, hT⟩, hm.mark⟩

theorem steady_ofDb : Steady h (OfDb h p) where
  wf hd := hd.wf
  fewer hd hT _ := hd.tables hT
  set hd hs haddr := hd.tables (hd.wf.table.setSess hs haddr)
  send hd := ⟨⟨hd.wf.db, hd.wf.table⟩, hd.db⟩
  account hd _ := ⟨⟨hd.wf.db, hd.wf.table⟩, hd.db⟩
  aside hd := ⟨⟨hd.wf.db, hd.wf.table⟩, hd.db⟩

theorem ofDb_setAccount {f : Account → Account} : Keeps (OfDb h p) (setAccount a f) := fun _ hd =>
  wlp_setAccount.mpr fun _ _ => ⟨⟨hd.wf.db, hd.wf.table⟩, hd.db⟩

theorem inert_marked : Inert h (Marked h g a k) where
  wf hm := hm.wf
  fewer hm hT _ := hm.tables hT
  set hm hs haddr := hm.tables (hm.wf.table.setSess hs haddr)
  send hm := ⟨⟨hm.wf.db, hm.wf.table⟩, hm.mark⟩

/-- A login leaves the secret of every connection alone. -/
theorem steady_marked {k : List UInt8} : Steady h (Marked h Account.secret a k) where
  toInert := inert_marked
  account {P b x} hm hsecret := by
    refine ⟨⟨hm.wf.db, hm.wf.table⟩, ?_⟩
    by_cases hab : a = b
    · subst hab
      simpa [hsecret] using hm.mark
    · simpa [hab] using hm.mark
  aside hm := ⟨⟨hm.wf.db, hm.wf.table⟩, hm.mark⟩

theorem inert_lostSess : Inert h (LostSess h m) where
  wf hl := hl.wf
  fewer {P T} hl hT hsub := by
    refine ⟨⟨hl.wf.db, hT⟩, ?_⟩
    cases hm : T.sess m with
    | none => rfl
    | some s =>
      have hold := hsub m s hm
      rw [hl.gone] at hold
      cases hold
  set {P n s t} hl hs haddr := by
    refine ⟨⟨hl.wf.db, hl.wf.table.setSess hs haddr⟩, ?_⟩
    have hne : m ≠ n := by
      rintro rfl
      rw [hl.gone] at hs
      cases hs
    simpa [SessTable.setSess, hne] using hl.gone
  send hl := ⟨⟨hl.wf.db, hl.wf.table⟩, hl.gone⟩

theorem LostSess.ackLogoutSess : Keeps (LostSess h m) (ackLogoutSess ans a n) := by
  refine keeps_ackLogoutSess LostSess.wf inert_lostSess.free (fun P hl => wlp_setAccount.mpr fun _ _ => ?_)
    fun hl hc hauth => hl.quiet ((@Quiet.refl _ ans _).terminate hc hauth)
  exact ⟨⟨hl.wf.db, hl.wf.table⟩, hl.gone⟩

theorem stable_gone {env : PortalEnv} : Stable env ans (OfDb env.host (Gone b)) where
  wf hl := hl.wf
  quiet hl hq := hl.quiet hq
  same hl hs := ⟨⟨hs.db ▸ hl.wf.db, hs.table ▸ hl.wf.table⟩, hs.db ▸ hl.db⟩
  set hl hs hsame := steady_ofDb.set hl hs (Prod.mk.inj hsame).1
  new hl hno := hl.tables (hl.wf.table.new hno)
  send hl _ := steady_ofDb.send hl

/-- A session that is not there is made. -/
theorem Inert.reachSess {I : Portal → Prop} {mem : Bool} (hi : Inert h I)
    (hnew : ∀ {P T}, I P → T.Sound → I { P with table := T }) : Keeps I (reachSess u mem) := fun _ hI =>
  wlp_reachSess (hi.wf hI).table (fun _ _ => hI) (fun _ _ hf => hi.fewer hI hf.sound hf.sub) fun _ hno =>
    hnew hI ((hi.wf hI).table.new hno)

end

/-! ## Searches -/

/-- The connection that the tables give for the addresses of `u`. -/
def userConn (P : Portal) (u : UserAddr) : Option Nat := (P.db.appconnFindByUseripx u).bind Prod.fst

/-- The session that the tables give for the addresses of `u`. -/
def userSess (P : Portal) (u : UserAddr) : Option Nat := (P.table.portalSessFindByUseripx u).bind Prod.fst

/-- The two addresses of `u` belong to two connections. -/
def SplitConn (P : Portal) (u : UserAddr) : Prop :=
  u.family = EAG_MIX ∧ ∃ a b, a ≠ b ∧ P.db.appconnFindByUserip u.user_ip = some (some a) ∧
    P.db.appconnFindByUseripv6 u.user_ipv6 = some (some b)

/-- The two addresses of `u` belong to two sessions. -/
def SplitSess (P : Portal) (u : UserAddr) : Prop :=
  u.family = EAG_MIX ∧ ∃ m n, m ≠ n ∧ P.table.portalSessFindByUserip u.user_ip = some (some m) ∧
    P.table.portalSessFindByUseripv6 u.user_ipv6 = some (some n)

/-- A connection of another address has the MAC address of `u`. -/
def conflictOf (env : PortalEnv) (P : Portal) (u : UserAddr) (usermac : Mac) : Option Nat :=
  if usermac = .zero then none
  else ((P.db.appconnFindByUsermac env.host usermac).bind id).filter fun a =>
    (P.db.conns a).any fun c => !ipxEq u c.user_addr

section
variable {P : Portal} {h : Host} {env : PortalEnv} {ans : PortalAnswers} {u : UserAddr} {usermac : Mac}

theorem pure_run_some {α : Type} (r : α) : (pure r : PortalM α) P = some (r, P) := rfl

/-- Without a second connection, the search changes nothing. -/
theorem find_apart (hw : P.Wf h) (hone : ¬ P.SplitConn u) :
    appconnFindByUseripx ans u P = some (P.userConn u, P) := by
  obtain ⟨r₄, h₄⟩ : ∃ r, P.db.appconnFindByUserip u.user_ip = some r := ⟨_, hw.db.userip⟩
  obtain ⟨r₆, h₆⟩ : ∃ r, P.db.appconnFindByUseripv6 u.user_ipv6 = some r := ⟨_, hw.db.useripv6⟩
  have h64 : EAG_IPV6 ≠ EAG_IPV4 := by decide
  have hm4 : EAG_MIX ≠ EAG_IPV4 := by decide
  have hm6 : EAG_MIX ≠ EAG_IPV6 := by decide
  by_cases hf4 : u.family = EAG_IPV4
  · simp [appconnFindByUseripx, userConn, AppDb.appconnFindByUseripx, ask, hf4, h₄]
  by_cases hf6 : u.family = EAG_IPV6
  · simp [appconnFindByUseripx, userConn, AppDb.appconnFindByUseripx, ask, hf6, h64, h₆]
  by_cases hfm : u.family = EAG_MIX
  · have hrun : ∀ f : Option Nat → Option Nat → PortalM (Option Nat), (do
          let v4 ← ask fun P => P.db.appconnFindByUserip u.user_ip
          let v6 ← ask fun P => P.db.appconnFindByUseripv6 u.user_ipv6
          f v4 v6 : PortalM (Option Nat)) P = f r₄ r₆ P := by
      intro f
      change ((ask fun P => P.db.appconnFindByUserip u.user_ip) P).bind _ = _
      simp only [ask, h₄, Option.map_some, Option.bind_some]
      change ((ask fun P => P.db.appconnFindByUseripv6 u.user_ipv6) P).bind _ = _
      simp only [ask, h₆, Option.map_some, Option.bind_some]
    rw [appconnFindByUseripx, if_neg hf4, if_neg hf6, if_pos hfm, hrun]
    cases r₄ with
    | none => simp [userConn, AppDb.appconnFindByUseripx, hfm, hm4, hm6, h₄, h₆, pure_run_some]
    | some v4 =>
      cases r₆ with
      | none => simp [userConn, AppDb.appconnFindByUseripx, hfm, hm4, hm6, h₄, h₆, pure_run_some]
      | some v6 =>
        obtain rfl : v4 = v6 := Classical.byContradiction fun hne => hone ⟨hfm, v4, v6, hne, h₄, h₆⟩
        simp [userConn, AppDb.appconnFindByUseripx, hfm, hm4, hm6, h₄, h₆, pure_run_some]
  · simp [appconnFindByUseripx, userConn, AppDb.appconnFindByUseripx, hf4, hf6, hfm, pure_run_some]

/-- With a second connection, that one goes. -/
theorem find_split (hw : P.Wf h) (hs : P.SplitConn u) : ∃ b c, P.db.conns b = some c ∧
    wlp (appconnFindByUseripx ans u) (fun r P' => (∃ a, r = some a) ∧ OfDb h (Gone b) P') P := by
  obtain ⟨hfm, a, b, hab, h₄, h₆⟩ := hs
  obtain ⟨c, hc, -⟩ := hw.db.useripv6_some h₆
  refine ⟨b, c, hc, ?_⟩
  have hf4 : u.family ≠ EAG_IPV4 := hfm ▸ by decide
  have hf6 : u.family ≠ EAG_IPV6 := hfm ▸ by decide
  rw [appconnFindByUseripx, if_neg hf4, if_neg hf6, if_pos hfm]
  simp only [wlp_bind, wlp_ask, h₄, h₆, Option.some.injEq, forall_eq', ne_eq, hab, not_false_eq_true, if_true,
    wlp_pure]
  refine wlp_appconnCleanConflict hw fun P' hq hdb _ => ⟨⟨a, rfl⟩, hq.wf hw, ?_, ?_⟩
  · simp [hdb, AppDb.without]
  · simpa [hdb, AppDb.without] using hw.db.fresh b (by simp [hc])

/-- The connection of `u` is one that there is. -/
theorem userConn_some (hw : P.Wf h) (hone : ¬ P.SplitConn u) {a : Nat} (ha : P.userConn u = some a) :
    ∃ c, P.db.conns a = some c := by
  have hsought : wlp (appconnFindByUseripx default u) (fun r P' => Sought P u r P') P :=
    wlp_appconnFindByUseripx hw fun _ _ _ hs => hs
  obtain ⟨c, hc, -⟩ := (hsought _ _ (find_apart hw hone)).found a ha
  exact ⟨c, hc⟩

/-- Without a second session, the search changes nothing. -/
theorem findSess_apart (hT : P.table.Sound) (hone : ¬ P.SplitSess u) :
    portalSessFindByUseripx u P = some (P.userSess u, P) := by
  obtain ⟨r₄, h₄, -⟩ := @SessTable.Sound.userip _ hT u.user_ip
  obtain ⟨r₆, h₆, -⟩ := @SessTable.Sound.useripv6 _ hT u.user_ipv6
  have h64 : EAG_IPV6 ≠ EAG_IPV4 := by decide
  have hm4 : EAG_MIX ≠ EAG_IPV4 := by decide
  have hm6 : EAG_MIX ≠ EAG_IPV6 := by decide
  have hfound : ∃ r, P.table.portalSessFindByUseripx u = some (r, P.table) := by
    by_cases hf4 : u.family = EAG_IPV4
    · exact ⟨r₄, by simp [SessTable.portalSessFindByUseripx, hf4, h₄]⟩
    by_cases hf6 : u.family = EAG_IPV6
    · exact ⟨r₆, by simp [SessTable.portalSessFindByUseripx, hf6, h64, h₆]⟩
    by_cases hfm : u.family = EAG_MIX
    · cases r₄ with
      | none => exact ⟨r₆, by simp [SessTable.portalSessFindByUseripx, hfm, hm4, hm6, h₄, h₆]⟩
      | some m =>
        refine ⟨some m, ?_⟩
        cases r₆ with
        | none => simp [SessTable.portalSessFindByUseripx, hfm, hm4, hm6, h₄, h₆]
        | some n =>
          obtain rfl : m = n := Classical.byContradiction fun hne => hone ⟨hfm, m, n, hne, h₄, h₆⟩
          simp [SessTable.portalSessFindByUseripx, hfm, hm4, hm6, h₄, h₆]
    · exact ⟨none, by simp [SessTable.portalSessFindByUseripx, hf4, hf6, hfm]⟩
  obtain ⟨r, hr⟩ := hfound
  have huser : P.userSess u = r := by simp [userSess, hr]
  rw [huser]
  change ((ask fun P => P.table.portalSessFindByUseripx u) P).bind _ = _
  simp only [ask, hr, Option.map_some, Option.bind_some]
  rfl

/-- With a second session, that one goes. -/
theorem findSess_split (hw : P.Wf h) (hs : P.SplitSess u) : ∃ m s, P.table.sess m = some s ∧
    wlp (portalSessFindByUseripx u) (fun r P' => (∃ n, r = some n) ∧ LostSess h m P') P := by
  obtain ⟨hfm, m, n, hmn, h₄, h₆⟩ := hs
  have hm4 : EAG_MIX ≠ EAG_IPV4 := by decide
  have hm6 : EAG_MIX ≠ EAG_IPV6 := by decide
  obtain ⟨r, hr, hiff⟩ := @SessTable.Sound.useripv6 _ hw.table u.user_ipv6
  obtain ⟨s, hs, -⟩ := (hiff n).mp (Option.some.inj (hr.symm.trans h₆))
  have hfind : P.table.portalSessFindByUseripx u = some (some m, P.table.without n) := by
    simp [SessTable.portalSessFindByUseripx, hfm, hm4, hm6, h₄, h₆, hmn, hw.table.free hs]
  refine ⟨n, s, hs, ?_⟩
  simp only [portalSessFindByUseripx, wlp_bind, wlp_ask, wlp_modify, wlp_pure, hfind, Option.some.injEq, forall_eq']
  exact ⟨⟨m, rfl⟩, ⟨hw.db, hw.table.without⟩, SessTable.without_self⟩

/-- The session of `u` is one that there is. -/
theorem userSess_some (hT : P.table.Sound) {n : Nat} (hn : P.userSess u = some n) :
    ∃ s, P.table.sess n = some s := by
  obtain ⟨r, T, hr, hf⟩ := hT.find u
  have hsame : P.userSess u = r := by simp [userSess, hr]
  obtain ⟨⟨s, hs, -⟩, -⟩ := hf.some n (hsame.symm.trans hn)
  exact ⟨s, hf.sub n s hs⟩

theorem checkIsConflict_eq (hw : P.Wf env.host) :
    appconnCheckIsConflict env u usermac P = some (conflictOf env P u usermac, P) := by
  by_cases hmac : usermac = .zero
  · simp [appconnCheckIsConflict, conflictOf, ask, hmac]
  · obtain ⟨r, hr⟩ : ∃ r, P.db.appconnFindByUsermac env.host usermac = some r :=
      ⟨_, AppDb.search_live fun a ha => by
        have hplace := hw.db.mac.mem.mp ha
        intro hnone
        simp [AppDb.macPlace, hnone] at hplace⟩
    simp [appconnCheckIsConflict, conflictOf, ask, hmac, hr]

/-- A connection that is in conflict is one that there is. -/
theorem conflictOf_some {b : Nat} (hb : conflictOf env P u usermac = some b) : ∃ c, P.db.conns b = some c := by
  rw [conflictOf] at hb
  split at hb
  · cases hb
  · have hany := (Option.filter_eq_some_iff.mp hb).2
    cases hc : P.db.conns b with
    | none => simp [hc] at hany
    | some c => exact ⟨c, rfl⟩

/-- Without a session for `u`, none has one of its addresses. -/
theorem userSess_none (hT : P.table.Sound) (hn : P.userSess u = none) :
    ∀ n s, P.table.sess n = some s → ¬ u.Meets s.user_addr := by
  obtain ⟨r, T, hr, hf⟩ := hT.find u
  have hsame : P.userSess u = r := by simp [userSess, hr]
  exact (hf.none (hsame.symm.trans hn)).2

end

end Portal

end Eag
end DaemonGroup
