import DaemonGroup.Eag.Sync
import Mathlib.Data.List.Nodup

/-!
# DaemonGroup.Eag.SyncRuns

The backup has the users of the master after each message, if the users that are logged in have different MAC
addresses and no message is about a user with two addresses that the backup knows already. The messages that are
sent when the backup connects count as one.
-/

namespace DaemonGroup
namespace Eag

open Lib

/-- The user that a message is about. -/
def Usersession.user (m : Usersession) : User := (m.usermac, m.user_addr, m.username)

/-- The search by MAC address finds a connection with it if there is one. -/
theorem AppDb.Indexed.usermac {h : Host} {db : AppDb} (hi : db.Indexed h) (m : Mac) :
    (∃ a c, db.appconnFindByUsermac h m = some (some a) ∧ db.conns a = some c ∧ c.usermac = m) ∨
      db.appconnFindByUsermac h m = some none ∧ ∀ a c, db.conns a = some c → c.usermac ≠ m := by
  have hsearch : db.appconnFindByUsermac h m =
      some ((db.mac_htable (db.macHash h m)).find? fun a => (db.conns a).any (·.usermac = m)) := by
    refine search_live fun a ha hn => ?_
    have := hi.mac.mem.mp ha
    simp [macPlace, hn] at this
  rw [hsearch]
  cases hfind : (db.mac_htable (db.macHash h m)).find? fun a => (db.conns a).any (·.usermac = m) with
  | some a =>
    have hany := List.find?_some hfind
    cases hc : db.conns a with
    | none => simp [hc] at hany
    | some c => exact .inl ⟨a, c, rfl, hc, by simpa [hc] using hany⟩
  | none =>
    refine .inr ⟨rfl, fun a c hc hm => ?_⟩
    have hin : a ∈ db.mac_htable (db.macHash h m) := hi.mac.mem.mpr (by simp [macPlace, hc, hm])
    have := List.find?_eq_none.mp hfind a hin
    simp [hc, hm] at this

namespace EagIns

section
variable {h : Host} {e : EagIns} {a b : Nat} {c : AppConn} {u : User} {m : Usersession} {ans : SynAnswers}

theorem user?_eq_some : e.user? a = some u ↔ ∃ c, e.db.conns a = some c ∧ (e.info a).authed = true ∧
    u = (c.usermac, c.user_addr, (e.info a).username) := by
  unfold user?
  cases e.db.conns a with
  | none => simp
  | some c =>
    cases hb : (e.info a).authed with
    | false => simp
    | true =>
      simp only [Option.bind_some, if_true, Option.some.injEq, true_and]
      constructor
      · rintro rfl
        exact ⟨c, rfl, rfl⟩
      · rintro ⟨_, rfl, rfl⟩
        rfl

theorem mem_users (hi : e.db.Indexed h) : u ∈ e.users ↔ ∃ a, e.user? a = some u := by
  unfold users
  rw [List.mem_filterMap]
  constructor
  · rintro ⟨a, -, hu⟩
    exact ⟨a, hu⟩
  · rintro ⟨a, hu⟩
    obtain ⟨c, hc, -⟩ := user?_eq_some.mp hu
    exact ⟨a, (hi.listed.2 a).mpr (by simp [hc]), hu⟩

/-- What is true of the backup by itself: its users are logged in, have different MAC addresses and are counted. -/
structure Mirror (h : Host) (e : EagIns) : Prop where
  indexed : e.db.Indexed h
  authed : ∀ a c, e.db.conns a = some c → (e.info a).authed = true
  macs : ∀ a b c d, e.db.conns a = some c → e.db.conns b = some d → c.usermac = d.usermac → a = b
  num : e.authed_user_num = e.db.head.length

theorem Mirror.nodup (hm : Mirror h e) : e.users.Nodup := by
  refine List.Nodup.filterMap (fun a b u ha hb => ?_) hm.indexed.listed.1
  obtain ⟨c, hc, -, rfl⟩ := user?_eq_some.mp ha
  obtain ⟨d, hd, -, heq⟩ := user?_eq_some.mp hb
  exact hm.macs a b c d hc hd (congrArg Prod.fst heq)

theorem Mirror.size (hm : Mirror h e) : e.authed_user_num = e.users.length := by
  rw [hm.num, users, List.length_filterMap_eq_countP, eq_comm, List.countP_eq_length]
  intro a ha
  obtain ⟨c, hc⟩ := Option.ne_none_iff_exists'.mp ((hm.indexed.listed.2 a).mp ha)
  simp [user?, hc, hm.authed a c hc]

theorem mirror_create {hash_num : UInt32} : Mirror h (create hash_num) :=
  ⟨AppDb.indexed_create h hash_num, nofun, nofun, rfl⟩

/-- A user that the backup does not know comes in. -/
theorem Mirror.online (hm : Mirror h e) (hnew : ∀ a c, e.db.conns a = some c → c.usermac ≠ m.usermac)
    (hauthed : m.authed = true) (hmem : ans.mem = true) (hintf : ans.intf = true) (hok : ans.authorize = true) :
    Mirror h (e.doSynUserDataOnline h m ans) ∧
      ∀ u, u ∈ (e.doSynUserDataOnline h m ans).users ↔ u ∈ e.users ∨ u = m.user := by
  have heq : e.doSynUserDataOnline h m ans =
      { db := ({ e.db with brk := e.db.brk + 1 } : AppDb).appconnAddToDb h e.db.brk m.toAppConn
        info := Function.update e.info e.db.brk m.toSessInfo
        authed_user_num := e.authed_user_num + 1 } := by
    simp [doSynUserDataOnline, hmem, hintf, hok]
  have hfree : e.db.conns e.db.brk = none := hm.indexed.next
  have hi : (({ e.db with brk := e.db.brk + 1 } : AppDb).appconnAddToDb h e.db.brk m.toAppConn).Indexed h :=
    hm.indexed.brk.add hfree (Nat.lt_succ_self _)
  have hconns : (({ e.db with brk := e.db.brk + 1 } : AppDb).appconnAddToDb h e.db.brk m.toAppConn).conns =
      Function.update e.db.conns e.db.brk (some m.toAppConn) := by
    rw [AppDb.addToDb_eq]
  have hhead : (({ e.db with brk := e.db.brk + 1 } : AppDb).appconnAddToDb h e.db.brk m.toAppConn).head =
      e.db.head ++ [e.db.brk] := by
    rw [AppDb.addToDb_eq]
  rw [heq]
  refine ⟨⟨hi, ?_, ?_, ?_⟩, fun u => ?_⟩
  · intro a c hc
    rw [hconns] at hc
    by_cases ha : a = e.db.brk
    · simp [ha, hauthed]
    · simp only [Function.update_of_ne ha] at hc ⊢
      exact hm.authed a c hc
  · intro a b c d hc hd hcd
    rw [hconns] at hc hd
    by_cases ha : a = e.db.brk <;> by_cases hb : b = e.db.brk
    · rw [ha, hb]
    · rw [ha, Function.update_self, Option.some.injEq] at hc
      rw [Function.update_of_ne hb] at hd
      exact absurd (hcd.symm.trans (congrArg AppConn.usermac hc.symm)) (hnew b d hd)
    · rw [Function.update_of_ne ha] at hc
      rw [hb, Function.update_self, Option.some.injEq] at hd
      exact absurd (hcd.trans (congrArg AppConn.usermac hd.symm)) (hnew a c hc)
    · rw [Function.update_of_ne ha] at hc
      rw [Function.update_of_ne hb] at hd
      exact hm.macs a b c d hc hd hcd
  · show e.authed_user_num + 1 = _
    rw [hhead, List.length_append, hm.num]
    rfl
  · rw [mem_users hi, mem_users hm.indexed]
    constructor
    · rintro ⟨a, ha⟩
      obtain ⟨c, hc, hau, rfl⟩ := user?_eq_some.mp ha
      rw [hconns] at hc
      by_cases hab : a = e.db.brk
      · subst hab
        rw [Function.update_self, Option.some.injEq] at hc
        subst hc
        right
        simp [Usersession.user]
      · simp only [Function.update_of_ne hab] at hc hau ⊢
        exact .inl ⟨a, user?_eq_some.mpr ⟨c, hc, hau, rfl⟩⟩
    · rintro (⟨a, ha⟩ | rfl)
      · obtain ⟨c, hc, hau, rfl⟩ := user?_eq_some.mp ha
        have hab : a ≠ e.db.brk := by
          rintro rfl
          rw [hfree] at hc
          cases hc
        refine ⟨a, user?_eq_some.mpr ⟨c, ?_, ?_, ?_⟩⟩
        · rw [hconns, Function.update_of_ne hab]
          exact hc
        · simpa [Function.update_of_ne hab] using hau
        · simp [Function.update_of_ne hab]
      · refine ⟨e.db.brk, user?_eq_some.mpr ⟨m.toAppConn, ?_, ?_, ?_⟩⟩
        · rw [hconns, Function.update_self]
        · simpa using hauthed
        · simp [Usersession.user]

/-- A user of the backup goes; what its session says does not matter. -/
theorem Mirror.offline (hm : Mirror h e) (hc : e.db.conns a = some c) {e₁ : EagIns} (hdb : e₁.db = e.db)
    (hnum : e₁.authed_user_num = e.authed_user_num) (hinfo : ∀ b, b ≠ a → e₁.info b = e.info b) :
    ∃ e', e₁.doSynUserDataOffline a = some e' ∧ Mirror h e' ∧
      ∀ u, u ∈ e'.users ↔ u ∈ e.users ∧ u.1 ≠ c.usermac := by
  have hmem : a ∈ e.db.head := (hm.indexed.listed.2 a).mpr (by simp [hc])
  have hi : (e.db.without a).Indexed h := hm.indexed.without
  have hsub : ∀ b d, (e.db.without a).conns b = some d → b ≠ a ∧ e.db.conns b = some d := by
    intro b d hd
    by_cases hba : b = a
    · simp [AppDb.without, hba] at hd
    · simp only [AppDb.without, Function.update_of_ne hba] at hd
      exact ⟨hba, hd⟩
  refine ⟨{ e₁ with db := e.db.without a, authed_user_num := e₁.authed_user_num - 1 }, ?_, ⟨hi, ?_, ?_, ?_⟩,
    fun u => ?_⟩
  · rw [doSynUserDataOffline, hdb, hm.indexed.del hc]
    rfl
  · intro b d hd
    obtain ⟨hba, hd⟩ := hsub b d hd
    rw [hinfo b hba]
    exact hm.authed b d hd
  · intro b b' d d' hd hd' hdd
    exact hm.macs b b' d d' (hsub b d hd).2 (hsub b' d' hd').2 hdd
  · show e₁.authed_user_num - 1 = (e.db.head.erase a).length
    rw [hnum, hm.num, List.length_erase_of_mem hmem]
  · rw [mem_users hi, mem_users hm.indexed]
    constructor
    · rintro ⟨b, hb⟩
      obtain ⟨d, hd, hau, rfl⟩ := user?_eq_some.mp hb
      obtain ⟨hba, hd⟩ := hsub b d hd
      rw [hinfo b hba] at hau ⊢
      exact ⟨⟨b, user?_eq_some.mpr ⟨d, hd, hau, rfl⟩⟩, fun hmac => hba (hm.macs b a d c hd hc hmac)⟩
    · rintro ⟨⟨b, hb⟩, hmac⟩
      obtain ⟨d, hd, hau, rfl⟩ := user?_eq_some.mp hb
      have hba : b ≠ a := by
        rintro rfl
        rw [hc] at hd
        cases hd
        exact hmac rfl
      refine ⟨b, user?_eq_some.mpr ⟨d, by simpa [AppDb.without, hba] using hd, ?_, ?_⟩⟩
      · rw [hinfo b hba]
        exact hau
      · rw [hinfo b hba]

/-- The session of a user is copied over one with the same addresses. -/
theorem Mirror.copied (hm : Mirror h e) (hc : e.db.conns a = some c) (hauthed : m.authed = true)
    (hsame : c = m.toAppConn) (hname : (e.info a).username = m.username) :
    Mirror h (e.appsessionCopy a m) ∧ ∀ u, u ∈ (e.appsessionCopy a m).users ↔ u ∈ e.users := by
  have hdb : (e.appsessionCopy a m).db = e.db := by
    have hconns : Function.update e.db.conns a (some m.toAppConn) = e.db.conns := by
      rw [← hsame, ← hc, Function.update_eq_self]
    simp [appsessionCopy, hconns]
  have hau : ∀ b, b ≠ a → (e.appsessionCopy a m).info b = e.info b := fun b hb => by
    simp [appsessionCopy, Function.update_of_ne hb]
  have hself : (e.appsessionCopy a m).info a = m.toSessInfo := by simp [appsessionCopy]
  have huser : (e.appsessionCopy a m).user? = e.user? := by
    funext b
    by_cases hb : b = a
    · subst hb
      simp [user?, hdb, hself, hauthed, hc, hm.authed b c hc, hname]
    · simp [user?, hdb, hau b hb]
  refine ⟨⟨hdb ▸ hm.indexed, ?_, ?_, ?_⟩, fun u => ?_⟩
  · intro b d hd
    rw [hdb] at hd
    by_cases hb : b = a
    · rw [hb, hself]
      exact hauthed
    · rw [hau b hb]
      exact hm.authed b d hd
  · rw [hdb]
    exact hm.macs
  · rw [hdb]
    exact hm.num
  · rw [mem_users (h := h) (hdb ▸ hm.indexed), mem_users hm.indexed, huser]

/-- A message about a user that the backup knows with the same name and addresses, of which there is one: the
session is brought up to date, and the user goes if it has logged out. -/
theorem Mirror.known (hm : Mirror h e) (hfind : e.db.appconnFindByUsermac h m.usermac = some (some a))
    (hc : e.db.conns a = some c) (hsame : c = m.toAppConn) (hname : (e.info a).username = m.username)
    (hvip : (e.info a).virtual_ip = m.virtual_ip) (hone : c.user_addr.family ≠ EAG_MIX) :
    ∃ e', e.doSynUserData h m ans = some e' ∧ Mirror h e' ∧
      ∀ u, u ∈ e'.users ↔ u ∈ e.users ∧ (m.authed = false → u.1 ≠ m.usermac) := by
  have haddr : c.user_addr = m.user_addr := by rw [hsame]
  have hmac : c.usermac = m.usermac := by rw [hsame]
  have hrefreshed : e.refreshed a c m ans.stack = some (e.appsessionCopy a m) ∨
      e.refreshed a c m ans.stack = some e := by
    unfold refreshed
    rw [if_neg (not_not.mpr hvip)]
    by_cases h4 : c.user_addr.family = EAG_IPV4
    · have h4' : m.user_addr.family = EAG_IPV4 := haddr ▸ h4
      simp [haddr, h4']
    · by_cases h6 : c.user_addr.family = EAG_IPV6
      · have h6' : m.user_addr.family = EAG_IPV6 := haddr ▸ h6
        have h46 : EAG_IPV6 ≠ EAG_IPV4 := by decide
        have h6m : EAG_IPV6 ≠ EAG_MIX := by decide
        simp [haddr, h6', h46, h6m]
      · simp [h4, h6, hone]
  cases hauthed : m.authed with
  | true =>
    obtain ⟨hcopied, husers⟩ := hm.copied hc hauthed hsame hname
    obtain hr | hr := hrefreshed
    · exact ⟨_, by simp [doSynUserData, hfind, hc, hr, hauthed], hcopied, fun u => by simp [husers u]⟩
    · exact ⟨_, by simp [doSynUserData, hfind, hc, hr, hauthed], hm, fun u => by simp⟩
  | false =>
    -- The copy only changes what is thrown away next.
    have hgone : ∀ e₁ : EagIns, e₁.db = e.db → e₁.authed_user_num = e.authed_user_num →
        (∀ b, b ≠ a → e₁.info b = e.info b) → e.refreshed a c m ans.stack = some e₁ →
        ∃ e', e.doSynUserData h m ans = some e' ∧ Mirror h e' ∧
          ∀ u, u ∈ e'.users ↔ u ∈ e.users ∧ (false = false → u.1 ≠ m.usermac) := by
      intro e₁ hdb hnum hinfo hr
      obtain ⟨e', he', hm', husers⟩ := hm.offline hc hdb hnum hinfo
      refine ⟨e', by simp [doSynUserData, hfind, hc, hr, hauthed, he'], hm', fun u => ?_⟩
      rw [husers u, hmac]
      simp
    obtain hr | hr := hrefreshed
    · refine hgone (e.appsessionCopy a m) ?_ rfl (fun b hb => by simp [appsessionCopy, Function.update_of_ne hb]) hr
      have hconns : Function.update e.db.conns a (some m.toAppConn) = e.db.conns := by
        rw [← hsame, ← hc, Function.update_eq_self]
      simp [appsessionCopy, hconns]
    · exact hgone e rfl rfl (fun _ _ => rfl) hr

end

section
variable {h : Host} {e : EagIns} {a : Nat} {c : AppConn} {m : Usersession} {ans : SynAnswers}

/-- The system of the backup plays along. -/
structure Works (e : EagIns) (m : Usersession) (ans : SynAnswers) : Prop where
  mem : ans.mem = true
  intf : ans.intf = true
  authorize : ans.authorize = true
  virtual_ip : ∀ a c, e.db.conns a = some c → c.usermac = m.usermac → (e.info a).virtual_ip = m.virtual_ip

/-- Of the users of the backup only the one that a message is about changes: `was` is whether the backup has it,
in which case it has one address. -/
theorem Mirror.message (hm : Mirror h e) {O : User → Prop} {was : Prop}
    (hbefore : ∀ u, u ∈ e.users ↔ O u ∨ was ∧ u = m.user) (hO : ∀ u, O u → u.1 ≠ m.usermac)
    (hone : was → m.user_addr.family ≠ EAG_MIX) (hw : Works e m ans) :
    ∃ e', e.doSynUserData h m ans = some e' ∧ Mirror h e' ∧
      ∀ u, u ∈ e'.users ↔ O u ∨ m.authed = true ∧ u = m.user := by
  obtain ⟨a, c, hfind, hc, hmac⟩ | ⟨hfind, hnew⟩ := hm.indexed.usermac m.usermac
  · have hin : (c.usermac, c.user_addr, (e.info a).username) ∈ e.users :=
      (mem_users hm.indexed).mpr ⟨a, user?_eq_some.mpr ⟨c, hc, hm.authed a c hc, rfl⟩⟩
    obtain hother | ⟨hwas, hself⟩ := (hbefore _).mp hin
    · exact absurd hmac (hO _ hother)
    · have haddr : c.user_addr = m.user_addr := congrArg (·.2.1) hself
      have hname : (e.info a).username = m.username := congrArg (·.2.2) hself
      have hsame : c = m.toAppConn := by
        cases c
        simp only at hmac haddr
        rw [hmac, haddr]
      obtain ⟨e', he', hm', husers⟩ := @EagIns.Mirror.known _ _ _ _ _ ans hm hfind hc hsame hname
          (hw.virtual_ip a c hc hmac) (haddr ▸ hone hwas)
      refine ⟨e', he', hm', fun u => ?_⟩
      rw [husers u, hbefore u]
      constructor
      · rintro ⟨hu | ⟨-, rfl⟩, hout⟩
        · exact .inl hu
        · cases hauthed : m.authed with
          | true => exact .inr ⟨rfl, rfl⟩
          | false => exact absurd rfl (hout hauthed)
      · rintro (hu | ⟨hauthed, rfl⟩)
        · exact ⟨.inl hu, fun _ => hO u hu⟩
        · refine ⟨.inr ⟨hwas, rfl⟩, fun hout => ?_⟩
          rw [hauthed] at hout
          cases hout
  · have hnot : ¬ was := by
      intro hwas
      obtain ⟨a, ha⟩ := (mem_users hm.indexed).mp ((hbefore m.user).mpr (.inr ⟨hwas, rfl⟩))
      obtain ⟨c, hc, -, heq⟩ := user?_eq_some.mp ha
      exact hnew a c hc (congrArg Prod.fst heq).symm
    have husers : ∀ u, u ∈ e.users ↔ O u := by simp [hbefore, hnot]
    cases hauthed : m.authed with
    | false =>
      exact ⟨e, by simp [doSynUserData, hfind, hauthed], hm, fun u => by simp [husers u]⟩
    | true =>
      obtain ⟨hm', husers'⟩ := hm.online hnew hauthed hw.mem hw.intf hw.authorize
      exact ⟨_, by simp [doSynUserData, hfind, hauthed], hm', fun u => by simp [husers' u, husers u]⟩

end

end EagIns

/-! ## The two instances -/

/-- Both ends have the same users, and the backup counts them right. -/
def SyncLog.Agrees (l : SyncLog) : Prop :=
  (∀ u, u ∈ l.backup ↔ u ∈ l.master) ∧ l.backup.Nodup ∧ l.authed_user_num = l.backup.length

namespace SyncLink

open EagIns

/-- The message about the user of a connection, if the interface has a virtual address. -/
def message (s : SyncLink) (a : Nat) (c : AppConn) (virtual_ip : UInt32) : Usersession :=
  ⟨c, { s.master.info a with virtual_ip := virtual_ip }⟩

structure InSync (h : Host) (s : SyncLink) : Prop where
  indexed : s.master.db.Indexed h
  live : ∀ a, (s.master.info a).authed = true → s.master.db.conns a ≠ none
  mirror : Mirror h s.backup
  idle : s.connected = false → ∀ u, u ∉ s.backup.users
  same : s.connected = true → ∀ u, u ∈ s.backup.users ↔ u ∈ s.master.users
  apart : s.connected = true → ∀ a b u v, s.master.user? a = some u → s.master.user? b = some v → u.1 = v.1 → a = b
  log : ∀ l ∈ s.log, l.more = false → l.Agrees

/-- A message about the connection `a` gets through: the interface has a virtual address, and the system of the
backup plays along. -/
def Heard (s : SyncLink) (a : Nat) (ans : SynAnswers) : Prop :=
  ∀ c, s.master.db.conns a = some c → ∃ v, ans.virtual_ip = some v ∧ Works s.backup (s.message a c v) ans

/-- No other user that is logged in has the MAC address of the connection `a`. -/
def Alone (s : SyncLink) (a : Nat) : Prop :=
  ∀ c b u, s.master.db.conns a = some c → b ≠ a → s.master.user? b = some u → u.1 ≠ c.usermac

/-- The connection `a` is not logged in, or has one address. -/
def OneAddress (s : SyncLink) (a : Nat) : Prop :=
  ∀ u, s.master.user? a = some u → u.2.1.family ≠ EAG_MIX

section
variable {h : Host} {s : SyncLink} {a : Nat} {c : AppConn} {ans : SynAnswers}

/-- What `eag_ins_syn_user` does on a connection that is up. -/
theorem synUser_eq (hconn : s.connected = true) (hc : s.master.db.conns a = some c) {v : UInt32}
    (hv : ans.virtual_ip = some v) {b : EagIns} (hb : s.backup.doSynUserData h (s.message a c v) ans = some b)
    {more : Bool} : s.synUser h a ans more = some { s with
      backup := b, log := s.log ++ [⟨more, s.master.users, b.users, b.authed_user_num⟩] } := by
  unfold synUser
  simp only [hconn, hc, hv]
  rw [show (⟨c, { s.master.info a with virtual_ip := v }⟩ : Usersession) = s.message a c v from rfl, hb]
  rfl

/-- While there is no backup, the master may do what it likes. -/
theorem InSync.unheard (hs : InSync h s) (hconn : s.connected = false) {e : EagIns} (hidx : e.db.Indexed h)
    (hlive : ∀ a, (e.info a).authed = true → e.db.conns a ≠ none) : InSync h { s with master := e } where
  indexed := hidx
  live := hlive
  mirror := hs.mirror
  idle := hs.idle
  same hc := absurd (hconn.symm.trans hc) (by simp)
  apart hc := absurd (hconn.symm.trans hc) (by simp)
  log := hs.log

/-- A change that the users do not notice. -/
theorem InSync.quiet (hs : InSync h s) {e : EagIns} (hidx : e.db.Indexed h)
    (hlive : ∀ a, (e.info a).authed = true → e.db.conns a ≠ none) (huser : e.user? = s.master.user?) :
    InSync h { s with master := e } where
  indexed := hidx
  live := hlive
  mirror := hs.mirror
  idle := hs.idle
  same hc u := by
    rw [hs.same hc u, mem_users hs.indexed, mem_users (show e.db.Indexed h from hidx), huser]
  apart hc a b u v ha hb := by
    rw [huser] at ha hb
    exact hs.apart hc a b u v ha hb
  log := hs.log

/-- The user of the connection `a` changes on the master, and the backup is told. -/
theorem InSync.told (hs : InSync h s) {e : EagIns} (hidx : e.db.Indexed h)
    (hlive : ∀ a, (e.info a).authed = true → e.db.conns a ≠ none) (hc : e.db.conns a = some c)
    (hothers : ∀ b, b ≠ a → e.user? b = s.master.user? b)
    (hold : ∀ u, s.master.user? a = some u → u = (c.usermac, c.user_addr, (e.info a).username))
    (hheard : s.connected = true → Heard { s with master := e } a ans)
    (halone : s.connected = true → Alone { s with master := e } a) (hone : s.connected = true → OneAddress s a) :
    ∃ s', SyncLink.synUser h { s with master := e } a ans false = some s' ∧ InSync h s' ∧ s'.master = e := by
  by_cases hconn : s.connected = false
  · refine ⟨{ s with master := e }, ?_, hs.unheard hconn hidx hlive, rfl⟩
    simp [synUser, hconn]
  · have hconn : s.connected = true := by simpa using hconn
    obtain ⟨v, hv, hworks⟩ := hheard hconn c hc
    -- The users that the message is not about.
    let O : User → Prop := fun u => ∃ b, b ≠ a ∧ e.user? b = some u
    have hbefore : ∀ u, u ∈ s.backup.users ↔
        O u ∨ (s.master.user? a ≠ none) ∧ u = (message { s with master := e } a c v).user := by
      intro u
      rw [hs.same hconn, mem_users hs.indexed]
      constructor
      · rintro ⟨b, hb⟩
        by_cases hba : b = a
        · subst hba
          exact .inr ⟨by simp [hb], hold u hb⟩
        · exact .inl ⟨b, hba, by rw [hothers b hba, hb]⟩
      · rintro (⟨b, hba, hb⟩ | ⟨hwas, rfl⟩)
        · exact ⟨b, by rw [← hothers b hba, hb]⟩
        · obtain ⟨u, hu⟩ := Option.ne_none_iff_exists'.mp hwas
          exact ⟨a, by rw [hu, hold u hu]; rfl⟩
    have hO : ∀ u, O u → u.1 ≠ c.usermac := by
      rintro u ⟨b, hba, hb⟩
      exact halone hconn c b u hc hba hb
    have hsingle : s.master.user? a ≠ none → c.user_addr.family ≠ EAG_MIX := by
      intro hwas
      obtain ⟨u, hu⟩ := Option.ne_none_iff_exists'.mp hwas
      have := hone hconn u hu
      rw [hold u hu] at this
      exact this
    obtain ⟨e', he', hmirror, husers⟩ := hs.mirror.message hbefore hO hsingle hworks
    have hafter : ∀ u, u ∈ e'.users ↔ u ∈ e.users := by
      intro u
      rw [husers u, mem_users hidx]
      constructor
      · rintro (⟨b, -, hb⟩ | ⟨hauthed, rfl⟩)
        · exact ⟨b, hb⟩
        · exact ⟨a, user?_eq_some.mpr ⟨c, hc, hauthed, rfl⟩⟩
      · rintro ⟨b, hb⟩
        by_cases hba : b = a
        · subst hba
          obtain ⟨d, hd, hauthed, rfl⟩ := user?_eq_some.mp hb
          rw [hc] at hd
          cases hd
          exact .inr ⟨hauthed, rfl⟩
        · exact .inl ⟨b, hba, hb⟩
    refine ⟨_, synUser_eq (s := { s with master := e }) hconn hc hv he',
      ⟨hidx, hlive, hmirror, fun hno => absurd (hconn.symm.trans hno) (by simp), fun _ => hafter, fun _ => ?_, ?_⟩,
      rfl⟩
    · intro x y u w hx hy huw
      by_cases hxa : x = a <;> by_cases hya : y = a
      · rw [hxa, hya]
      · obtain ⟨d, hd, -, rfl⟩ := user?_eq_some.mp (hxa ▸ hx)
        rw [show e.db.conns a = some c from hc] at hd
        cases hd
        exact absurd huw.symm (halone hconn c y w hc hya hy)
      · obtain ⟨d, hd, -, rfl⟩ := user?_eq_some.mp (hya ▸ hy)
        rw [show e.db.conns a = some c from hc] at hd
        cases hd
        exact absurd huw (halone hconn c x u hc hxa hx)
      · exact hs.apart hconn x y u w (hothers x hxa ▸ hx) (hothers y hya ▸ hy) huw
    · intro l hl hmore
      obtain hl | hl := List.mem_append.mp hl
      · exact hs.log l hl hmore
      · obtain rfl := List.mem_singleton.mp hl
        exact ⟨hafter, hmirror.nodup, hmirror.size⟩

/-- A user after the other is sent to a backup that is empty at first. -/
theorem backupAll_spec {answers : Nat → SynAnswers} (hi : s.master.db.Indexed h) (hconn : s.connected = true)
    (hmirror : Mirror h s.backup) (hlog : ∀ l ∈ s.log, l.more = false → l.Agrees) (todo done : List Nat)
    (hnodup : (todo ++ done).Nodup) (hall : ∀ b, b ∈ todo ++ done ↔ s.master.user? b ≠ none)
    (hbefore : ∀ u, u ∈ s.backup.users ↔ ∃ b ∈ done, s.master.user? b = some u)
    (hapart : ∀ a b u v, s.master.user? a = some u → s.master.user? b = some v → u.1 = v.1 → a = b)
    (hworks : ∀ a ∈ todo, ∃ v, (answers a).virtual_ip = some v ∧ (answers a).mem = true ∧
      (answers a).intf = true ∧ (answers a).authorize = true) :
    ∃ s', SyncLink.backupAllUserData h answers todo s = some s' ∧ s'.master = s.master ∧ s'.connected = true ∧
      Mirror h s'.backup ∧ (∀ u, u ∈ s'.backup.users ↔ u ∈ s.master.users) ∧
      ∀ l ∈ s'.log, l.more = false → l.Agrees := by
  induction todo generalizing s done with
  | nil =>
    refine ⟨s, rfl, rfl, hconn, hmirror, fun u => ?_, hlog⟩
    rw [hbefore u, mem_users hi]
    constructor
    · rintro ⟨b, -, hb⟩
      exact ⟨b, hb⟩
    · rintro ⟨b, hb⟩
      exact ⟨b, (hall b).mpr (by simp [hb]), hb⟩
  | cons a rest ih =>
    obtain ⟨v, hv, hmem, hintf, hok⟩ := hworks a (List.mem_cons_self ..)
    obtain ⟨u, hu⟩ := Option.ne_none_iff_exists'.mp ((hall a).mp (by simp))
    obtain ⟨c, hc, hauthed, rfl⟩ := user?_eq_some.mp hu
    have hO : ∀ u, (∃ b ∈ done, s.master.user? b = some u) → u.1 ≠ c.usermac := by
      rintro w ⟨b, hb, hw⟩ hmac
      have hab : b = a := hapart b a w _ hw hu hmac
      rw [List.cons_append, List.nodup_cons] at hnodup
      exact hnodup.1 (List.mem_append_right _ (hab ▸ hb))
    have hbefore' : ∀ w, w ∈ s.backup.users ↔
        (∃ b ∈ done, s.master.user? b = some w) ∨ False ∧ w = (s.message a c v).user := by simp [hbefore]
    have hnone : ∀ b d, s.backup.db.conns b = some d → d.usermac ≠ c.usermac := by
      intro b d hd hmac
      have hin : (d.usermac, d.user_addr, (s.backup.info b).username) ∈ s.backup.users :=
        (mem_users hmirror.indexed).mpr ⟨b, user?_eq_some.mpr ⟨d, hd, hmirror.authed b d hd, rfl⟩⟩
      exact hO _ ((hbefore _).mp hin) hmac
    obtain ⟨b, hb, hmirror', husers⟩ := @EagIns.Mirror.message _ _ (s.message a c v) (answers a) hmirror _ _
        hbefore' hO (fun hno => hno.elim) ⟨hmem, hintf, hok, fun b d hd hmac => absurd hmac (hnone b d hd)⟩
    have husers' : ∀ w, w ∈ b.users ↔ ∃ b ∈ a :: done, s.master.user? b = some w := by
      intro w
      rw [husers w]
      constructor
      · rintro (⟨b, hb, hw⟩ | ⟨-, rfl⟩)
        · exact ⟨b, List.mem_cons_of_mem _ hb, hw⟩
        · exact ⟨a, List.mem_cons_self .., hu⟩
      · rintro ⟨b, hb, hw⟩
        obtain rfl | hb := List.mem_cons.mp hb
        · rw [hu] at hw
          cases hw
          exact .inr ⟨hauthed, rfl⟩
        · exact .inl ⟨b, hb, hw⟩
    have hperm : (a :: rest ++ done).Perm (rest ++ a :: done) := List.perm_middle.symm
    obtain ⟨s', hs', hrest⟩ := ih (s := { s with
      backup := b, log := s.log ++ [⟨!rest.isEmpty, s.master.users, b.users, b.authed_user_num⟩] }) hi hconn hmirror'
      (by
        intro l hl hmore
        obtain hl | hl := List.mem_append.mp hl
        · exact hlog l hl hmore
        · -- This is the last user.
          obtain rfl := List.mem_singleton.mp hl
          have hlast : rest = [] := by simpa using hmore
          subst hlast
          refine ⟨fun w => ?_, hmirror'.nodup, hmirror'.size⟩
          rw [husers' w, mem_users hi]
          constructor
          · rintro ⟨b, -, hw⟩
            exact ⟨b, hw⟩
          · rintro ⟨b, hw⟩
            exact ⟨b, (hall b).mpr (by simp [hw]), hw⟩)
      (a :: done) (hperm.nodup hnodup) (fun b => by rw [← hall b, hperm.mem_iff]) husers' hapart
      (fun b hb => hworks b (List.mem_cons_of_mem _ hb))
    refine ⟨s', ?_, hrest⟩
    simp only [backupAllUserData, synUser_eq hconn hc hv hb, Option.bind_eq_bind, Option.bind_some]
    exact hs'

end

end SyncLink

namespace SyncOp

open EagIns

/-- The users that are logged in have different MAC addresses, a message is about a user that the backup does not
know yet or that has one address, and the messages get through. The name of a user that is logged in does not
change. -/
def Plain (s : SyncLink) : SyncOp → Prop
  | table _ => True
  | setName a _ => s.connected = true → (s.master.info a).authed = false
  | authSuccess a ans => s.connected = true → s.Heard a ans ∧ s.Alone a ∧ s.OneAddress a
  | authUpdate a user_addr ans => s.connected = true → s.Heard a ans ∧ s.Alone a ∧ s.OneAddress a ∧
    (s.master.db.appconnIpxUpdate a user_addr).conns a = s.master.db.conns a
  | refresh a ans => s.connected = true → s.Heard a ans ∧ s.Alone a ∧ s.OneAddress a
  | terminate a ans => s.connected = true → s.Heard a ans ∧ s.Alone a ∧ s.OneAddress a
  | connect ans => s.connected = false →
    (∀ a, s.master.user? a ≠ none → ∃ v, (ans a).virtual_ip = some v ∧ (ans a).mem = true ∧ (ans a).intf = true ∧
      (ans a).authorize = true) ∧
    ∀ a b u v, s.master.user? a = some u → s.master.user? b = some v → u.1 = v.1 → a = b

section
variable {h : Host} {s : SyncLink}

theorem spared_user {e : EagIns} {db : AppDb} (hi : e.db.Indexed h)
    (hlive : ∀ a, (e.info a).authed = true → e.db.conns a ≠ none) (hs : spared e db = true) {a : Nat}
    (ha : (e.info a).authed = true) : db.conns a = e.db.conns a := by
  have hmem : a ∈ e.db.head := (hi.listed.2 a).mpr (hlive a ha)
  have := List.all_eq_true.mp hs a hmem
  simpa [ha] using this

/-- An update that does not change the connection does nothing. -/
theorem ipxUpdate_same {db : AppDb} {a : Nat} {u : UserAddr} (h : (db.appconnIpxUpdate a u).conns a = db.conns a) :
    db.appconnIpxUpdate a u = db := by
  unfold AppDb.appconnIpxUpdate at h ⊢
  split
  · rfl
  · rename_i c hc
    rw [hc] at h
    dsimp only at h
    split
    · rename_i hf
      rw [if_pos hf] at h
      dsimp only at h
      rw [Function.update_self, Option.some.injEq] at h
      have hfamily : EAG_MIX = c.user_addr.family := congrArg (·.user_addr.family) h
      rw [hf.1] at hfamily
      exact absurd hfamily (by decide)
    · rename_i hf
      rw [if_neg hf] at h
      split
      · rename_i hf'
        rw [if_pos hf'] at h
        dsimp only at h
        rw [Function.update_self, Option.some.injEq] at h
        have hfamily : EAG_MIX = c.user_addr.family := congrArg (·.user_addr.family) h
        rw [hf'.1] at hfamily
        exact absurd hfamily (by decide)
      · rfl

/-- The backup is told of a connection whose user has logged in or out, or has not changed. -/
theorem told_info (hs : s.InSync h) {a : Nat} {c : AppConn} {ans : SynAnswers} (hc : s.master.db.conns a = some c)
    {authed : Bool} {num : Nat} (hp : s.connected = true → s.Heard a ans ∧ s.Alone a ∧ s.OneAddress a) :
    ∃ s', SyncLink.synUser h { s with master := { s.master with
        info := Function.update s.master.info a { s.master.info a with authed := authed }, authed_user_num := num } }
        a ans false = some s' ∧ s'.InSync h ∧ s'.master = { s.master with
        info := Function.update s.master.info a { s.master.info a with authed := authed }, authed_user_num := num } := by
  have hothers : ∀ b, b ≠ a → EagIns.user? { s.master with
      info := Function.update s.master.info a { s.master.info a with authed := authed }, authed_user_num := num } b =
      s.master.user? b := by
    intro b hb
    simp [user?, Function.update_of_ne hb]
  refine hs.told (s := s) hs.indexed (fun b hb => ?_) hc hothers (fun u hu => ?_) (fun hconn => ?_) (fun hconn => ?_)
    fun hconn => (hp hconn).2.2
  · by_cases hba : b = a
    · rw [hba, hc]
      simp
    · simp only [Function.update_of_ne hba] at hb
      exact hs.live b hb
  · obtain ⟨d, hd, -, rfl⟩ := user?_eq_some.mp hu
    rw [hc] at hd
    cases hd
    simp
  · intro d hd
    obtain ⟨v, hv, hw⟩ := (hp hconn).1 d hd
    exact ⟨v, hv, hw.mem, hw.intf, hw.authorize, hw.virtual_ip⟩
  · intro d b u hd hb hu
    rw [show EagIns.user? _ b = _ from hothers b hb] at hu
    exact (hp hconn).2.1 d b u hd hb hu

theorem told_same (hs : s.InSync h) {a : Nat} {u : User} {ans : SynAnswers} (hu : s.master.user? a = some u)
    (hp : s.connected = true → s.Heard a ans ∧ s.Alone a ∧ s.OneAddress a) :
    ∃ s', s.synUser h a ans false = some s' ∧ s'.InSync h := by
  obtain ⟨c, hc, -, rfl⟩ := user?_eq_some.mp hu
  obtain ⟨s', hs', hin, -⟩ := hs.told (e := s.master) hs.indexed hs.live hc (fun _ _ => rfl)
    (fun u' hu' => by rw [hu] at hu'; exact (Option.some.inj hu').symm) (fun hconn => (hp hconn).1)
    (fun hconn => (hp hconn).2.1) fun hconn => (hp hconn).2.2
  exact ⟨s', hs', hin⟩

theorem ipxUpdate_live {db : AppDb} {a b : Nat} {u : UserAddr} (hb : db.conns b ≠ none) :
    (db.appconnIpxUpdate a u).conns b ≠ none := by
  unfold AppDb.appconnIpxUpdate
  split
  · exact hb
  · split
    · by_cases hba : b = a <;> simp [hba, hb]
    · split
      · by_cases hba : b = a <;> simp [hba, hb]
      · exact hb

theorem step_inSync {op : SyncOp} (hs : s.InSync h) (hp : op.Plain s) : ∃ s', op.step h s = some s' ∧ s'.InSync h := by
  cases op with
  | table op =>
    obtain ⟨db, hdb, hi⟩ := op.step_indexed h s.master.db hs.indexed
    by_cases hspared : spared s.master db = true
    · refine ⟨{ s with master := { s.master with db := db } }, by simp [step, hdb, hspared],
        hs.quiet hi (fun a ha => ?_) ?_⟩
      · show db.conns a ≠ none
        rw [spared_user hs.indexed hs.live hspared ha]
        exact hs.live a ha
      · funext a
        cases ha : (s.master.info a).authed with
        | false => cases hc : db.conns a <;> cases hc' : s.master.db.conns a <;> simp [user?, ha, hc, hc']
        | true => simp [user?, ha, spared_user hs.indexed hs.live hspared ha]
    · exact ⟨s, by simp [step, hdb, hspared], hs⟩
  | setName a username =>
    by_cases hc : s.master.db.conns a = none
    · exact ⟨s, by simp [step, hc], hs⟩
    · refine ⟨s.setInfo a { s.master.info a with username := username }, by simp [step, hc], ?_⟩
      have hlive : ∀ b, (Function.update s.master.info a { s.master.info a with username := username } b).authed = true →
          s.master.db.conns b ≠ none := by
        intro b hb
        by_cases hba : b = a
        · rw [hba]
          exact hc
        · rw [Function.update_of_ne hba] at hb
          exact hs.live b hb
      by_cases hconn : s.connected = false
      · exact hs.unheard hconn hs.indexed hlive
      · refine hs.quiet hs.indexed hlive ?_
        have hnot := hp (by simpa using hconn)
        funext b
        by_cases hba : b = a
        · subst hba
          cases hd : s.master.db.conns b <;> simp [user?, hnot, hd]
        · simp [user?, Function.update_of_ne hba]
  | authSuccess a ans =>
    cases hc : s.master.db.conns a with
    | none => exact ⟨s, by simp [step, hc], hs⟩
    | some c =>
      obtain ⟨s', hs', hin, -⟩ := @SyncOp.told_info _ _ hs _ _ _ hc true (s.master.authed_user_num + 1) hp
      exact ⟨s', by simpa [step, hc, SyncLink.setInfo] using hs', hin⟩
  | authUpdate a user_addr ans =>
    cases hu : s.master.user? a with
    | none => exact ⟨s, by simp [step, hu], hs⟩
    | some u =>
      by_cases hconn : s.connected = false
      · refine ⟨{ s with master := { s.master with db := s.master.db.appconnIpxUpdate a user_addr } },
          by simp [step, hu, SyncLink.synUser, hconn], hs.unheard hconn hs.indexed.ipxUpdate fun b hb => ?_⟩
        exact ipxUpdate_live (hs.live b hb)
      · have hconn : s.connected = true := by simpa using hconn
        obtain ⟨hheard, halone, hone, hsame⟩ := hp hconn
        obtain ⟨s', hs', hin⟩ := told_same hs hu fun _ => ⟨hheard, halone, hone⟩
        exact ⟨s', by simpa [step, hu, ipxUpdate_same hsame] using hs', hin⟩
  | refresh a ans =>
    cases hu : s.master.user? a with
    | none => exact ⟨s, by simp [step, hu], hs⟩
    | some u =>
      obtain ⟨s', hs', hin⟩ := told_same hs hu hp
      exact ⟨s', by simpa [step, hu] using hs', hin⟩
  | terminate a ans =>
    cases hc : s.master.db.conns a with
    | none => exact ⟨s, by simp [step, hc], hs⟩
    | some c =>
      obtain ⟨s', hs', hin, hmaster⟩ := @SyncOp.told_info _ _ hs _ _ _ hc false s.master.authed_user_num hp
      have hself : (s'.master.info a).authed = false := by simp [hmaster]
      have hdel : s'.master.db.appconnDelFromDb a = some (s'.master.db.without a) :=
        hin.indexed.del (by rw [hmaster]; exact hc)
      have hstep : step h s (terminate a ans) = some { s' with master := { s'.master with
          db := s'.master.db.without a, authed_user_num := s'.master.authed_user_num - 1 } } := by
        simp only [step, hc, SyncLink.setInfo]
        rw [if_neg (by simp), show SyncLink.synUser h _ a ans false = some s' from hs']
        simp [hdel]
      refine ⟨_, hstep, hin.quiet hin.indexed.without (fun b hb => ?_) ?_⟩
      · have hba : b ≠ a := by
          rintro rfl
          exact absurd (hself.symm.trans hb) (by simp)
        simpa [AppDb.without, hba] using hin.live b hb
      · funext b
        by_cases hba : b = a
        · subst hba
          cases hd : s'.master.db.conns b <;> simp [user?, AppDb.without, hself, hd]
        · simp [user?, AppDb.without, hba]
  | connect ans =>
    by_cases hconn : s.connected = false
    · obtain ⟨hworks, hapart⟩ := hp hconn
      have hmem : ∀ b, b ∈ s.master.db.head.filter (fun a => (s.master.user? a).isSome) ++ [] ↔
          s.master.user? b ≠ none := by
        intro b
        rw [List.append_nil, List.mem_filter, Option.isSome_iff_ne_none, and_iff_right_iff_imp]
        intro hb
        obtain ⟨u, hu⟩ := Option.ne_none_iff_exists'.mp hb
        obtain ⟨c, hc, -⟩ := user?_eq_some.mp hu
        exact (hs.indexed.listed.2 b).mpr (by simp [hc])
      obtain ⟨s', hs', hmaster, hconn', hmirror, hsame, hlog⟩ := SyncLink.backupAll_spec
        (s := { s with connected := true }) hs.indexed rfl hs.mirror hs.log
        (s.master.db.head.filter fun a => (s.master.user? a).isSome) []
        (by rw [List.append_nil]; exact hs.indexed.listed.1.filter _) hmem
        (fun u => by simp [hs.idle hconn u]) hapart
        (fun a ha => hworks a ((hmem a).mp (List.mem_append_left _ ha)))
      refine ⟨s', by simpa [step, hconn] using hs', ?_⟩
      refine ⟨hmaster ▸ hs.indexed, hmaster ▸ hs.live, hmirror, fun hno => absurd (hconn'.symm.trans hno) (by simp),
        fun _ u => ?_, fun _ => hmaster ▸ hapart, hlog⟩
      rw [hmaster]
      exact hsame u
    · exact ⟨s, by simp [step, hconn], hs⟩

/-- After each message, those that are sent when the backup connects counting as one, the backup has the users of
the master. -/
theorem users_agree (h : Host) (hash_num hash_num' : UInt32) {ops : List SyncOp}
    (ho : TryObeys (step h) Plain (SyncLink.create hash_num hash_num') ops) :
    ∃ s, tryRun (step h) (SyncLink.create hash_num hash_num') ops = some s ∧
      ∀ l ∈ s.log, l.more = false → l.Agrees := by
  have hinit : (SyncLink.create hash_num hash_num').InSync h :=
    ⟨AppDb.indexed_create h hash_num, nofun, mirror_create, nofun, nofun, nofun, nofun⟩
  obtain ⟨s, hs, hin⟩ := ho.run_inv (I := SyncLink.InSync h) (fun _ _ hs hp => step_inSync hs hp) hinit
  exact ⟨s, hs, hin.log⟩

/-- A system where everything works. -/
def fine : SynAnswers := ⟨some 1, true, true, true, ⟨0, 0, .zero⟩⟩

/-- A wired user comes. -/
def wiredUser (user_addr : UserAddr) (usermac : Mac) : SyncOp :=
  .table (.createBySta user_addr ⟨true, usermac, true, none, true⟩)

def mac1 : Mac := ⟨0, 0, 0, 0, 0, 1⟩
def mac2 : Mac := ⟨0, 0, 0, 0, 0, 2⟩
def addr1 : UserAddr := ⟨EAG_IPV4, 1, .zero⟩
def addr2 : UserAddr := ⟨EAG_IPV4, 2, .zero⟩
def addr3 : UserAddr := ⟨EAG_MIX, 1, ⟨1, 0, 0, 1⟩⟩

/-- Two users log in, and the first logs out. -/
def twoLogins : List SyncOp :=
  [.connect fun _ => fine, wiredUser addr1 mac1, .setName 0 [97], .authSuccess 0 fine, wiredUser addr2 mac2,
    .authSuccess 1 fine, .terminate 0 fine]

/-- A message about `a` gets through where everything works. -/
theorem heard_fine {s : SyncLink} {a : Nat} {c : AppConn} (hc : s.master.db.conns a = some c)
    (hone : c.user_addr.family ≠ EAG_MIX)
    (hmac : ∀ b, b ≠ a → (s.master.db.conns b).map AppConn.usermac ≠ some c.usermac)
    (hvip : ∀ b d, s.backup.db.conns b = some d → (s.backup.info b).virtual_ip = 1) :
    s.Heard a fine ∧ s.Alone a ∧ s.OneAddress a := by
  refine ⟨fun d _ => ⟨1, rfl, rfl, rfl, rfl, fun b e he _ => hvip b e he⟩, fun d b u hd hb hu => ?_, fun u hu => ?_⟩
  · rw [hc] at hd
    obtain rfl := Option.some.inj hd
    obtain ⟨e, he, -, rfl⟩ := EagIns.user?_eq_some.mp hu
    intro hsame
    have hsame : e.usermac = c.usermac := hsame
    exact hmac b hb (by rw [he, Option.map_some, hsame])
  · obtain ⟨d, hd, -, rfl⟩ := EagIns.user?_eq_some.mp hu
    rw [hc] at hd
    obtain rfl := Option.some.inj hd
    exact hone

set_option maxRecDepth 4000 in
theorem users_agree_first : TryObeys (step AppOp.lp64Host) Plain (SyncLink.create 8 8) twoLogins ∧
    ∃ s, tryRun (step AppOp.lp64Host) (SyncLink.create 8 8) twoLogins = some s ∧
      ∀ l ∈ s.log, l.more = false → l.Agrees := by
  have ho : TryObeys (step AppOp.lp64Host) Plain (SyncLink.create 8 8) twoLogins := by
    refine ⟨fun _ => ⟨nofun, nofun⟩, fun s₁ h₁ => ?_⟩
    cases h₁
    refine ⟨trivial, fun s₂ h₂ => ?_⟩
    cases h₂
    refine ⟨fun _ => rfl, fun s₃ h₃ => ?_⟩
    cases h₃
    -- the first login
    refine ⟨fun _ => heard_fine rfl (by decide) ?_ nofun, fun s₄ h₄ => ?_⟩
    · intro b hb
      match b with
      | 0 => exact absurd rfl hb
      | b + 1 => nofun
    cases h₄
    refine ⟨trivial, fun s₅ h₅ => ?_⟩
    cases h₅
    -- the second login, with the first user on the backup
    refine ⟨fun _ => heard_fine rfl (by decide) ?_ ?_, fun s₆ h₆ => ?_⟩
    · intro b hb
      match b with
      | 0 => decide
      | 1 => exact absurd rfl hb
      | b + 2 => nofun
    · intro b d hd
      match b with
      | 0 => rfl
      | b + 1 => cases hd
    cases h₆
    -- the logout
    refine ⟨fun _ => heard_fine rfl (by decide) ?_ ?_, fun _ _ => trivial⟩
    · intro b hb
      match b with
      | 0 => exact absurd rfl hb
      | 1 => decide
      | b + 2 => nofun
    · intro b d hd
      match b with
      | 0 => rfl
      | 1 => rfl
      | b + 2 => cases hd
  exact ⟨ho, users_agree AppOp.lp64Host 8 8 ho⟩

example : (tryRun (step AppOp.lp64Host) (SyncLink.create 8 8) twoLogins).map
    (fun s => s.log.map fun l => l.backup.length) = some [1, 2, 1] := by decide +kernel

/-- Two users are logged in when the backup connects. -/
def lateBackup : List SyncOp :=
  [wiredUser addr1 mac1, .authSuccess 0 fine, wiredUser addr2 mac2, .authSuccess 1 fine, .connect fun _ => fine]

/-- Two users log in whose MAC addresses are not known. -/
def sharedMac : List SyncOp :=
  [.connect fun _ => fine, .table (.configure false false), wiredUser addr1 .zero, .authSuccess 0 fine,
    wiredUser addr2 .zero, .authSuccess 1 fine]

/-- A user with two addresses logs in through one and asks to be logged in under another name through the other. -/
def renamedUser : List SyncOp :=
  [.connect fun _ => fine, wiredUser addr3 mac1, .setName 0 [97], .authSuccess 0 fine, .setName 0 [98],
    wiredUser addr2 mac2, .authSuccess 1 fine]

theorem disagrees {r : Option SyncLink} {L : List SyncLog} (hr : r.map SyncLink.log = some L) {l : SyncLog}
    (hl : l ∈ L) {u : User} (hu : u ∈ l.master) (hn : u ∉ l.backup) : ∃ s, r = some s ∧ ∃ l ∈ s.log, ¬ l.Agrees := by
  obtain ⟨s, rfl, rfl⟩ := Option.map_eq_some_iff.mp hr
  exact ⟨s, rfl, l, hl, fun ha => hn ((ha.1 u).mpr hu)⟩

theorem users_behind :
    (∃ s, tryRun (step AppOp.lp64Host) (SyncLink.create 8 8) lateBackup = some s ∧ ∃ l ∈ s.log, ¬ l.Agrees) ∧
    (∃ s, tryRun (step AppOp.lp64Host) (SyncLink.create 8 8) sharedMac = some s ∧ ∃ l ∈ s.log, ¬ l.Agrees) ∧
    (∃ s, tryRun (step AppOp.lp64Host) (SyncLink.create 8 8) renamedUser = some s ∧ ∃ l ∈ s.log, ¬ l.Agrees) := by
  have hlate : (tryRun (step AppOp.lp64Host) (SyncLink.create 8 8) lateBackup).map SyncLink.log =
      some [⟨true, [(mac1, addr1, []), (mac2, addr2, [])], [(mac1, addr1, [])], 1⟩,
        ⟨false, [(mac1, addr1, []), (mac2, addr2, [])], [(mac1, addr1, []), (mac2, addr2, [])], 2⟩] := by decide
  have hshared : (tryRun (step AppOp.lp64Host) (SyncLink.create 8 8) sharedMac).map SyncLink.log =
      some [⟨false, [(.zero, addr1, [])], [(.zero, addr1, [])], 1⟩,
        ⟨false, [(.zero, addr1, []), (.zero, addr2, [])], [], 0⟩] := by decide
  have hrenamed : (tryRun (step AppOp.lp64Host) (SyncLink.create 8 8) renamedUser).map SyncLink.log =
      some [⟨false, [(mac1, addr3, [97])], [(mac1, addr3, [97])], 1⟩,
        ⟨false, [(mac1, addr3, [98]), (mac2, addr2, [])], [(mac1, addr3, [97]), (mac2, addr2, [])], 2⟩] := by decide
  refine ⟨?_, ?_, ?_⟩
  · exact disagrees hlate (List.mem_cons_self ..) (u := (mac2, addr2, [])) (by decide) (by decide)
  · exact disagrees hshared (List.mem_cons_of_mem _ (List.mem_cons_self ..)) (u := (.zero, addr2, [])) (by decide)
      (by decide)
  · exact disagrees hrenamed (List.mem_cons_of_mem _ (List.mem_cons_self ..)) (u := (mac1, addr3, [98])) (by decide)
      (by decide)

end

end SyncOp

end Eag
end DaemonGroup
