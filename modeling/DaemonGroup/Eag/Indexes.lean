import DaemonGroup.Eag.Appconn
import DaemonGroup.Lib.Run
import Mathlib.Data.List.Find

/-!
# DaemonGroup.Eag.Indexes

The list of the connections and the three hash tables are indexes of the connections there are, in every
run (`Indexed`). A connection that has been made for an address is found by that address again only if
the address has got into the connection, which depends on what the wireless side says
(`find_after_autocreate`).
-/

namespace DaemonGroup
namespace Eag

open Lib

namespace UserAddr

theorem Known.v4 {u : UserAddr} (hu : u.Known) : u.hasV4 ↔ u.family ≠ EAG_IPV6 := by
  obtain hf | hf | hf := hu <;> simp [hasV4, hf] <;> decide

theorem Known.v6 {u : UserAddr} (hu : u.Known) : u.hasV6 ↔ u.family ≠ EAG_IPV4 := by
  obtain hf | hf | hf := hu <;> simp [hasV6, hf] <;> decide

end UserAddr

namespace AppDb

/-- The bucket of `ip_htable` that a connection belongs to. -/
def ipPlace (db : AppDb) (a : Nat) : Option Nat :=
  (db.conns a).bind fun c => if c.user_addr.hasV4 then some (db.ipHash c.user_addr.user_ip) else none

/-- The bucket of `ipv6_htable` that a connection belongs to. -/
def ipv6Place (db : AppDb) (a : Nat) : Option Nat :=
  (db.conns a).bind fun c => if c.user_addr.hasV6 then some (db.ipv6Hash c.user_addr.user_ipv6) else none

/-- The bucket of `mac_htable` that a connection belongs to. -/
def macPlace (h : Host) (db : AppDb) (a : Nat) : Option Nat :=
  (db.conns a).map fun c => db.macHash h c.usermac

/-- The list has the connections there are; so has `mac_htable`, each under the hash of its MAC address;
`ip_htable` has those with an IPv4 address and `ipv6_htable` those with an IPv6 address, each under the
hash of the address. -/
structure Indexed (h : Host) (db : AppDb) : Prop where
  listed : Lists db.head fun a => db.conns a ≠ none
  ip : Files db.ip_htable db.ipPlace
  ipv6 : Files db.ipv6_htable db.ipv6Place
  mac : Files db.mac_htable (db.macPlace h)
  fresh : ∀ a, db.conns a ≠ none → a < db.brk

section
variable {db db' : AppDb} {h : Host} {a b i : Nat} {c : AppConn} {T : Nat → List Nat}
  {place : Nat → Option Nat} {u addr : UserAddr}

theorem hashValueCount_le {words : List UInt32} {rest : List UInt8} {n : UInt32} :
    hashValueCount words rest n ≤ n.toNat := by
  rw [hashValueCount]
  split
  · exact Nat.zero_le _
  · rename_i hne
    have hn : 0 < n.toNat := by
      rw [not_or] at hne
      exact Nat.pos_of_ne_zero fun hz => hne.2 (UInt32.toNat_inj.mp hz)
    rw [UInt32.toNat_mod]
    exact Nat.le_of_lt (Nat.mod_lt _ hn)

/-- A node that is in no list is added. -/
theorem files_checkAdd (hf : Files T place) (ha : place a = none) :
    Files (hashtableCheckAddNode T i a) (Function.update place a (some i)) := by
  have hnot : a ∉ T i := by
    rw [hf.mem, ha]
    simp
  rw [hashtableCheckAddNode, if_neg hnot]
  exact hf.put ha

/-- A connection gets a place in a table, or none. -/
theorem files_add (hf : Files T place) (ha : place a = none) {p : Prop} [Decidable p] :
    Files (if p then hashtableCheckAddNode T i a else T)
      (Function.update place a (if p then some i else none)) := by
  by_cases hp : p
  · simp only [hp, if_true]
    exact files_checkAdd hf ha
  · simp only [hp, if_false]
    rw [← ha, Function.update_eq_self]
    exact hf

theorem hlistDel_files (hf : Files T place) (ha : place a = some i) (hle : i ≤ db.hash_num.toNat) :
    db.hlistDel T a = some fun i => (T i).erase a := by
  rw [hlistDel, if_pos ⟨i, hle, hf.mem.mpr ha⟩]

theorem erase_absent (hf : Files T place) (ha : place a = none) : (fun i => (T i).erase a) = T := by
  funext i
  refine List.erase_of_not_mem ?_
  rw [hf.mem, ha]
  simp

theorem hlistDelIf_files {p : Prop} [Decidable p] (hf : Files T place)
    (ha : place a = if p then some i else none) (hle : i ≤ db.hash_num.toNat) :
    db.hlistDelIf p T a = some fun i => (T i).erase a := by
  rw [hlistDelIf]
  by_cases hp : p
  · rw [if_pos hp] at ha ⊢
    exact hlistDel_files hf ha hle
  · rw [if_neg hp] at ha ⊢
    rw [erase_absent hf ha]

/-- What `appconn_add_to_db` does, table by table. -/
theorem addToDb_eq : db.appconnAddToDb h a c =
    { db with
      head := db.head ++ [a]
      conns := Function.update db.conns a (some c)
      ip_htable := if c.user_addr.hasV4 then
        hashtableCheckAddNode db.ip_htable (db.ipHash c.user_addr.user_ip) a else db.ip_htable
      ipv6_htable := if c.user_addr.hasV6 then
        hashtableCheckAddNode db.ipv6_htable (db.ipv6Hash c.user_addr.user_ipv6) a else db.ipv6_htable
      mac_htable := hashtableCheckAddNode db.mac_htable (db.macHash h c.usermac) a } := by
  have h46 : EAG_IPV4 ≠ EAG_IPV6 := by decide
  have h4m : EAG_IPV4 ≠ EAG_MIX := by decide
  have h6m : EAG_IPV6 ≠ EAG_MIX := by decide
  by_cases h4 : c.user_addr.family = EAG_IPV4
  · simp [appconnAddToDb, appconnUpdateIpHtable, UserAddr.hasV4, UserAddr.hasV6, h4, h46, h4m]
    exact ⟨rfl, rfl⟩
  · by_cases hm : c.user_addr.family = EAG_MIX
    · simp [appconnAddToDb, appconnUpdateIpHtable, UserAddr.hasV4, UserAddr.hasV6, hm, Ne.symm h4m]
      exact ⟨rfl, rfl, rfl⟩
    · by_cases h6 : c.user_addr.family = EAG_IPV6
      · simp [appconnAddToDb, appconnUpdateIpHtable, UserAddr.hasV4, UserAddr.hasV6, h6, Ne.symm h46, h6m]
        exact ⟨rfl, rfl⟩
      · simp [appconnAddToDb, appconnUpdateIpHtable, UserAddr.hasV4, UserAddr.hasV6, h4, hm, h6]
        rfl

/-- A new connection is put into the tables. -/
theorem Indexed.add (hi : Indexed h db) (ha : db.conns a = none) (hlt : a < db.brk) :
    Indexed h (db.appconnAddToDb h a c) := by
  have hne : ∀ {b}, b ≠ a → Function.update db.conns a (some c) b = db.conns b := fun hb =>
    Function.update_of_ne hb ..
  rw [addToDb_eq]
  refine ⟨?_, ?_, ?_, ?_, fun b hb => ?_⟩
  · refine (by simpa using hi.listed : Lists (db.head ++ []) _).insert (by simp [ha]) fun b => ?_
    by_cases hb : b = a
    · simp [hb]
    · simp [hb]
  · have hplace : ∀ b, ipPlace (db.appconnAddToDb h a c) b = Function.update db.ipPlace a
        (if c.user_addr.hasV4 then some (db.ipHash c.user_addr.user_ip) else none) b := by
      intro b
      rw [addToDb_eq]
      by_cases hb : b = a
      · subst hb
        simp [ipPlace, ipHash]
      · simp [ipPlace, hb, ipHash]
    rw [addToDb_eq] at hplace
    rw [funext hplace]
    exact files_add hi.ip (by simp [ipPlace, ha])
  · have hplace : ∀ b, ipv6Place (db.appconnAddToDb h a c) b = Function.update db.ipv6Place a
        (if c.user_addr.hasV6 then some (db.ipv6Hash c.user_addr.user_ipv6) else none) b := by
      intro b
      rw [addToDb_eq]
      by_cases hb : b = a
      · subst hb
        simp [ipv6Place, ipv6Hash]
      · simp [ipv6Place, hb, ipv6Hash]
    rw [addToDb_eq] at hplace
    rw [funext hplace]
    exact files_add hi.ipv6 (by simp [ipv6Place, ha])
  · have hplace : ∀ b, macPlace h (db.appconnAddToDb h a c) b = Function.update (db.macPlace h) a
        (some (db.macHash h c.usermac)) b := by
      intro b
      rw [addToDb_eq]
      by_cases hb : b = a
      · subst hb
        simp [macPlace, macHash]
      · simp [macPlace, hb, macHash]
    rw [addToDb_eq] at hplace
    rw [funext hplace]
    exact files_checkAdd hi.mac (by simp [macPlace, ha])
  · by_cases hba : b = a
    · exact hba ▸ hlt
    · exact hi.fresh b (by simpa [hne hba] using hb)

/-- The tables without the connection at `a`. -/
def without (db : AppDb) (a : Nat) : AppDb :=
  { db with
    head := db.head.erase a
    conns := Function.update db.conns a none
    ip_htable := fun i => (db.ip_htable i).erase a
    ipv6_htable := fun i => (db.ipv6_htable i).erase a
    mac_htable := fun i => (db.mac_htable i).erase a }

theorem Indexed.del (hi : Indexed h db) (hc : db.conns a = some c) :
    db.appconnDelFromDb a = some (db.without a) := by
  have hmem : a ∈ db.head := (hi.listed.2 a).mpr (by simp [hc])
  have hip := @AppDb.hlistDelIf_files db a (db.ipHash c.user_addr.user_ip) _ _ c.user_addr.hasV4 _ hi.ip
      (by simp [ipPlace, hc]) hashValueCount_le
  have hipv6 := @AppDb.hlistDelIf_files db a (db.ipv6Hash c.user_addr.user_ipv6) _ _ c.user_addr.hasV6 _ hi.ipv6
      (by simp [ipv6Place, hc]) hashValueCount_le
  have hmac : db.hlistDel db.mac_htable a = some fun i => (db.mac_htable i).erase a :=
    hlistDel_files hi.mac (i := db.macHash h c.usermac) (by simp [macPlace, hc]) hashValueCount_le
  simp only [appconnDelFromDb, hc, Option.bind_eq_bind, Option.bind_some, hmem, not_true_eq_false, if_false]
  rw [show db.hlistDelIf (c.user_addr.family = EAG_IPV4 ∨ c.user_addr.family = EAG_MIX) db.ip_htable a = _ from
    hip, show db.hlistDelIf (c.user_addr.family = EAG_IPV6 ∨ c.user_addr.family = EAG_MIX) db.ipv6_htable a = _
    from hipv6, hmac]
  rfl

theorem Indexed.without (hi : Indexed h db) : Indexed h (db.without a) := by
  have hne : ∀ {b}, b ≠ a → Function.update db.conns a none b = db.conns b := fun hb =>
    Function.update_of_ne hb ..
  refine ⟨hi.listed.erase fun b => ?_, ?_, ?_, ?_, fun b hb => ?_⟩
  · by_cases hb : b = a
    · simp [AppDb.without, hb]
    · simp [AppDb.without, hb]
  · have hplace : (db.without a).ipPlace = Function.update db.ipPlace a none := by
      funext b
      by_cases hb : b = a
      · simp [ipPlace, AppDb.without, hb]
      · simp [ipPlace, AppDb.without, hb, ipHash]
    rw [hplace]
    exact hi.ip.out
  · have hplace : (db.without a).ipv6Place = Function.update db.ipv6Place a none := by
      funext b
      by_cases hb : b = a
      · simp [ipv6Place, AppDb.without, hb]
      · simp [ipv6Place, AppDb.without, hb, ipv6Hash]
    rw [hplace]
    exact hi.ipv6.out
  · have hplace : macPlace h (db.without a) = Function.update (db.macPlace h) a none := by
      funext b
      by_cases hb : b = a
      · simp [macPlace, AppDb.without, hb]
      · simp [macPlace, AppDb.without, hb, macHash]
    rw [hplace]
    exact hi.mac.out
  · by_cases hba : b = a
    · simp [AppDb.without, hba] at hb
    · exact hi.fresh b (by simpa [AppDb.without, hba] using hb)

/-- A user gets the other kind of address, too. -/
theorem Indexed.ipxUpdate (hi : Indexed h db) : Indexed h (db.appconnIpxUpdate a addr) := by
  rw [appconnIpxUpdate]
  cases hc : db.conns a with
  | none => exact hi
  | some c =>
    have hlist : ∀ c' b, Function.update db.conns a (some c') b ≠ none ↔ db.conns b ≠ none := by
      intro c' b
      by_cases hb : b = a
      · simp [hb, hc]
      · simp [hb]
    have h46 : EAG_IPV4 ≠ EAG_IPV6 := by decide
    have h4m : EAG_IPV4 ≠ EAG_MIX := by decide
    have h6m : EAG_IPV6 ≠ EAG_MIX := by decide
    dsimp only
    split
    · rename_i hfam
      refine ⟨hi.listed.congr fun b => (hlist _ b).symm, ?_, ?_, ?_, fun b hb => hi.fresh b ((hlist _ b).mp hb)⟩
      · refine fun i => (hi.ip i).congr fun b => ?_
        by_cases hb : b = a
        · subst hb
          simp [ipPlace, hc, UserAddr.hasV4, hfam.1, ipHash]
        · simp [ipPlace, hb, ipHash]
      · have hnone : db.ipv6Place a = none := by
          simp [ipv6Place, hc, UserAddr.hasV6, hfam.1, h46, h4m]
        refine fun i => (files_checkAdd hi.ipv6 hnone i).congr fun b => ?_
        by_cases hb : b = a
        · subst hb
          simp [ipv6Place, UserAddr.hasV6, ipv6Hash]
        · simp [ipv6Place, hb, ipv6Hash]
      · refine fun i => (hi.mac i).congr fun b => ?_
        by_cases hb : b = a
        · subst hb
          simp [macPlace, hc, macHash]
        · simp [macPlace, hb, macHash]
    · split
      · rename_i hfam
        refine ⟨hi.listed.congr fun b => (hlist _ b).symm, ?_, ?_, ?_, fun b hb => hi.fresh b ((hlist _ b).mp hb)⟩
        · have hnone : db.ipPlace a = none := by
            simp [ipPlace, hc, UserAddr.hasV4, hfam.1, Ne.symm h46, h6m]
          refine fun i => (files_checkAdd hi.ip hnone i).congr fun b => ?_
          by_cases hb : b = a
          · subst hb
            simp [ipPlace, UserAddr.hasV4, ipHash]
          · simp [ipPlace, hb, ipHash]
        · refine fun i => (hi.ipv6 i).congr fun b => ?_
          by_cases hb : b = a
          · subst hb
            simp [ipv6Place, hc, UserAddr.hasV6, hfam.1, ipv6Hash]
          · simp [ipv6Place, hb, ipv6Hash]
        · refine fun i => (hi.mac i).congr fun b => ?_
          by_cases hb : b = a
          · subst hb
            simp [macPlace, hc, macHash]
          · simp [macPlace, hb, macHash]
      · exact hi

/-! ## Searches -/

/-- The search through a bucket of connections that there are. -/
theorem search_live {p : AppConn → Bool} {l : List Nat} (hl : ∀ a ∈ l, db.conns a ≠ none) :
    db.searchBucket p l = some (l.find? fun a => (db.conns a).any p) := by
  refine findM?_total fun a ha => ?_
  obtain ⟨c, hc⟩ := Option.ne_none_iff_exists'.mp (hl a ha)
  simp [hc]

theorem Indexed.userip (hi : Indexed h db) {ip : UInt32} : db.appconnFindByUserip ip =
    some ((db.ip_htable (db.ipHash ip)).find? fun a => (db.conns a).any (·.user_addr.user_ip = ip)) := by
  refine search_live fun a ha hn => ?_
  have := hi.ip.mem.mp ha
  simp [ipPlace, hn] at this

theorem Indexed.useripv6 (hi : Indexed h db) {ip : In6Addr} : db.appconnFindByUseripv6 ip =
    some ((db.ipv6_htable (db.ipv6Hash ip)).find? fun a => (db.conns a).any (·.user_addr.user_ipv6 = ip)) := by
  refine search_live fun a ha hn => ?_
  have := hi.ipv6.mem.mp ha
  simp [ipv6Place, hn] at this

/-- An element that is not what is searched for may go. -/
theorem find?_erase {p p' : Nat → Bool} {l : List Nat} {x y : Nat} (hf : l.find? p = some x) (hxy : x ≠ y)
    (hp : ∀ b, b ≠ y → p' b = p b) (hy : p' y = false) : (l.erase y).find? p' = some x := by
  have hstay : ∀ l : List Nat, l.find? p = some x → l.find? p' = some x := by
    intro l hf
    induction l with
    | nil => cases hf
    | cons b l ih =>
      by_cases hb : b = y
      · subst hb
        cases hpb : p b with
        | true =>
          rw [List.find?_cons_of_pos hpb] at hf
          exact absurd (Option.some.inj hf).symm hxy
        | false =>
          rw [List.find?_cons_of_neg (by simp [hpb])] at hf
          rw [List.find?_cons_of_neg (by simp [hy])]
          exact ih hf
      · cases hpb : p b with
        | true =>
          rw [List.find?_cons_of_pos hpb] at hf
          rw [List.find?_cons_of_pos (by rw [hp b hb, hpb])]
          exact hf
        | false =>
          rw [List.find?_cons_of_neg (by simp [hpb])] at hf
          rw [List.find?_cons_of_neg (by simp [hp b hb, hpb])]
          exact ih hf
  induction l with
  | nil => cases hf
  | cons b l ih =>
    by_cases hb : b = y
    · subst hb
      have := hstay _ hf
      rw [List.find?_cons_of_neg (by simp [hy])] at this
      rwa [List.erase_cons_head]
    · rw [List.erase_cons_tail (by simpa using hb)]
      cases hpb : p b with
      | true =>
        rw [List.find?_cons_of_pos hpb] at hf
        rw [List.find?_cons_of_pos (by rw [hp b hb, hpb])]
        exact hf
      | false =>
        rw [List.find?_cons_of_neg (by simp [hpb])] at hf
        rw [List.find?_cons_of_neg (by simp [hp b hb, hpb])]
        exact ih hf

/-- The search by IPv4 address does not depend on other connections. -/
theorem Indexed.userip_without (hi : Indexed h db) {ip : UInt32} (hab : a ≠ b)
    (hf : db.appconnFindByUserip ip = some (some a)) :
    (db.without b).appconnFindByUserip ip = some (some a) := by
  rw [hi.userip, Option.some.injEq] at hf
  rw [hi.without.userip, Option.some.injEq]
  refine find?_erase hf hab (fun x hx => ?_) ?_
  · simp [AppDb.without, hx]
  · simp [AppDb.without]

theorem Indexed.cleanConflict (hi : Indexed h db) : ∃ db', db.appconnCleanConflict a = some db' ∧
    Indexed h db' ∧ (db.conns a ≠ none → db' = db.without a) := by
  rw [appconnCleanConflict]
  cases hc : db.conns a with
  | none => exact ⟨db, by simp, hi, by simp⟩
  | some c => exact ⟨db.without a, by simpa using hi.del hc, hi.without, fun _ => rfl⟩

/-- A connection with the IPv4 address is what the search by both addresses gives. -/
theorem Indexed.useripx_v4 (hi : Indexed h db) (hm : addr.family = EAG_MIX)
    (h4 : db.appconnFindByUserip addr.user_ip = some (some a)) : ∃ db',
    db.appconnFindByUseripx addr = some (some a, db') ∧ Indexed h db' ∧
      db'.appconnFindByUserip addr.user_ip = some (some a) := by
  obtain ⟨v6, h6⟩ : ∃ v6, db.appconnFindByUseripv6 addr.user_ipv6 = some v6 := ⟨_, hi.useripv6⟩
  have hm4 : EAG_MIX ≠ EAG_IPV4 := by decide
  have hm6 : EAG_MIX ≠ EAG_IPV6 := by decide
  cases v6 with
  | none => exact ⟨db, by simp [appconnFindByUseripx, hm, hm4, hm6, h4, h6], hi, h4⟩
  | some b =>
    by_cases hab : a = b
    · exact ⟨db, by simp [appconnFindByUseripx, hm, hm4, hm6, h4, h6, hab], hi, h4⟩
    · obtain ⟨db', hdb', hi', hwithout⟩ := hi.cleanConflict (a := b)
      refine ⟨db', by simp [appconnFindByUseripx, hm, hm4, hm6, h4, h6, hab, hdb'], hi', ?_⟩
      by_cases hb : db.conns b = none
      · rw [appconnCleanConflict, if_pos hb] at hdb'
        exact Option.some.inj hdb' ▸ h4
      · rw [hwithout hb]
        exact hi.userip_without hab h4

/-- The search by both addresses if there is no connection with the IPv4 address. -/
theorem useripx_v6 (hm : addr.family = EAG_MIX) (h4 : db.appconnFindByUserip addr.user_ip = some none) :
    db.appconnFindByUseripx addr = (db.appconnFindByUseripv6 addr.user_ipv6).map (·, db) := by
  have hm4 : EAG_MIX ≠ EAG_IPV4 := by decide
  have hm6 : EAG_MIX ≠ EAG_IPV6 := by decide
  cases h6 : db.appconnFindByUseripv6 addr.user_ipv6 with
  | none => simp [appconnFindByUseripx, hm, hm4, hm6, h4, h6]
  | some v6 => simp [appconnFindByUseripx, hm, hm4, hm6, h4, h6]

theorem Indexed.useripx_mix (hi : Indexed h db) (hm : addr.family = EAG_MIX) {v4 v6 : Option Nat}
    (h4 : db.appconnFindByUserip addr.user_ip = some v4)
    (h6 : db.appconnFindByUseripv6 addr.user_ipv6 = some v6) :
    ∃ r db', db.appconnFindByUseripx addr = some (r, db') ∧ Indexed h db' ∧ (r = none → db' = db) ∧
      ∀ a, r = some a → ∃ db'', db'.appconnFindByUseripx addr = some (some a, db'') := by
  cases v4 with
  | none =>
    have hfind : db.appconnFindByUseripx addr = some (v6, db) := by rw [useripx_v6 hm h4, h6, Option.map_some]
    exact ⟨v6, db, hfind, hi, fun _ => rfl, fun a ha => ⟨db, ha ▸ hfind⟩⟩
  | some a =>
    obtain ⟨db', hfind, hi', h4'⟩ := hi.useripx_v4 hm h4
    refine ⟨some a, db', hfind, hi', by simp, fun b hb => ?_⟩
    obtain ⟨db'', hagain, -, -⟩ := hi'.useripx_v4 hm h4'
    exact ⟨db'', Option.some.inj hb ▸ hagain⟩

/-- A search by both addresses that finds nothing has found neither. -/
theorem Indexed.useripx_mix_none (hi : Indexed h db) (hm : addr.family = EAG_MIX)
    (hfind : db.appconnFindByUseripx addr = some (none, db')) :
    db.appconnFindByUserip addr.user_ip = some none ∧
      db.appconnFindByUseripv6 addr.user_ipv6 = some none := by
  obtain ⟨v4, h4⟩ : ∃ v4, db.appconnFindByUserip addr.user_ip = some v4 := ⟨_, hi.userip⟩
  cases v4 with
  | none =>
    obtain ⟨v6, h6⟩ : ∃ v6, db.appconnFindByUseripv6 addr.user_ipv6 = some v6 := ⟨_, hi.useripv6⟩
    rw [useripx_v6 hm h4, h6] at hfind
    cases hfind
    exact ⟨h4, h6⟩
  | some a =>
    obtain ⟨db'', hsome, -, -⟩ := hi.useripx_v4 hm h4
    rw [hsome] at hfind
    cases hfind

theorem useripx_ipv4 (h4 : addr.family = EAG_IPV4) :
    db.appconnFindByUseripx addr = (db.appconnFindByUserip addr.user_ip).map (·, db) := by
  rw [appconnFindByUseripx, if_pos h4]
  cases db.appconnFindByUserip addr.user_ip <;> rfl

theorem useripx_ipv6 (h6 : addr.family = EAG_IPV6) :
    db.appconnFindByUseripx addr = (db.appconnFindByUseripv6 addr.user_ipv6).map (·, db) := by
  have h64 : EAG_IPV6 ≠ EAG_IPV4 := by decide
  rw [appconnFindByUseripx, h6, if_neg h64, if_pos rfl]
  cases db.appconnFindByUseripv6 addr.user_ipv6 <;> rfl

/-- The search by whatever address there is: it has a result, and what it has found it finds again. If
it finds nothing it has changed nothing. -/
theorem Indexed.useripx (hi : Indexed h db) : ∃ r db', db.appconnFindByUseripx addr = some (r, db') ∧
    Indexed h db' ∧ (r = none → db' = db) ∧
    ∀ a, r = some a → ∃ db'', db'.appconnFindByUseripx addr = some (some a, db'') := by
  obtain ⟨v4, h4⟩ : ∃ v4, db.appconnFindByUserip addr.user_ip = some v4 := ⟨_, hi.userip⟩
  obtain ⟨v6, h6⟩ : ∃ v6, db.appconnFindByUseripv6 addr.user_ipv6 = some v6 := ⟨_, hi.useripv6⟩
  by_cases hf4 : addr.family = EAG_IPV4
  · refine ⟨v4, db, by simp [useripx_ipv4 hf4, h4], hi, fun _ => rfl, fun a ha => ⟨db, ?_⟩⟩
    simp [useripx_ipv4 hf4, h4, ha]
  by_cases hf6 : addr.family = EAG_IPV6
  · refine ⟨v6, db, by simp [useripx_ipv6 hf6, h6], hi, fun _ => rfl, fun a ha => ⟨db, ?_⟩⟩
    simp [useripx_ipv6 hf6, h6, ha]
  by_cases hfm : addr.family = EAG_MIX
  · exact hi.useripx_mix hfm h4 h6
  · exact ⟨none, db, by simp [appconnFindByUseripx, hf4, hf6, hfm], hi, fun _ => rfl, by simp⟩

/-! ## What a new connection changes -/

/-- The search through a bucket after `a` has got its place, or none. -/
theorem find?_add (hf : Files T place) (ha : place a = none) {q : Prop} [Decidable q] {p p' : Nat → Bool}
    (hp : ∀ b, b ≠ a → p' b = p b) {j : Nat} :
    ((if q then hashtableCheckAddNode T i a else T) j).find? p' =
      if q ∧ i = j ∧ p' a then some a else (T j).find? p := by
  have hnot : ∀ j, a ∉ T j := by
    intro j
    rw [hf.mem, ha]
    simp
  have hold : (T j).find? p' = (T j).find? p :=
    List.find?_congr fun b hb => hp b fun hba => hnot j (hba ▸ hb)
  by_cases hq : q
  · simp only [hq, if_true, true_and, hashtableCheckAddNode, if_neg (hnot i)]
    by_cases hij : i = j
    · subst hij
      rw [Function.update_self, List.find?_cons, hold]
      cases hpa : p' a <;> simp
    · simp only [hij, false_and, if_false]
      rw [Function.update_of_ne (Ne.symm hij), hold]
  · simp only [hq, if_false, false_and]
    exact hold

theorem Indexed.userip_add (hi : Indexed h db) (ha : db.conns a = none) (hlt : a < db.brk) {ip : UInt32} :
    (db.appconnAddToDb h a c).appconnFindByUserip ip =
      if c.user_addr.hasV4 ∧ c.user_addr.user_ip = ip then some (some a) else db.appconnFindByUserip ip := by
  have hnone : db.ipPlace a = none := by simp [ipPlace, ha]
  rw [(hi.add ha hlt).userip, hi.userip, addToDb_eq]
  refine (congrArg some (find?_add hi.ip hnone (p := fun b => (db.conns b).any (·.user_addr.user_ip = ip))
    fun b hb => by simp [hb])).trans ?_
  by_cases hv4 : c.user_addr.hasV4 <;> by_cases hip : c.user_addr.user_ip = ip <;> simp [hv4, hip, ipHash]

theorem Indexed.useripv6_add (hi : Indexed h db) (ha : db.conns a = none) (hlt : a < db.brk) {ip : In6Addr} :
    (db.appconnAddToDb h a c).appconnFindByUseripv6 ip =
      if c.user_addr.hasV6 ∧ c.user_addr.user_ipv6 = ip then some (some a)
      else db.appconnFindByUseripv6 ip := by
  have hnone : db.ipv6Place a = none := by simp [ipv6Place, ha]
  rw [(hi.add ha hlt).useripv6, hi.useripv6, addToDb_eq]
  refine (congrArg some (find?_add hi.ipv6 hnone
    (p := fun b => (db.conns b).any (·.user_addr.user_ipv6 = ip)) fun b hb => by simp [hb])).trans ?_
  by_cases hv6 : c.user_addr.hasV6 <;> by_cases hip : c.user_addr.user_ipv6 = ip <;> simp [hv6, hip, ipv6Hash]

/-- The next allocation. -/
theorem Indexed.brk (hi : Indexed h db) : Indexed h { db with brk := db.brk + 1 } :=
  ⟨hi.listed, hi.ip, hi.ipv6, hi.mac, fun a ha => Nat.lt_succ_of_lt (hi.fresh a ha)⟩

theorem Indexed.next (hi : Indexed h db) : db.conns db.brk = none := by
  cases hc : db.conns db.brk with
  | none => rfl
  | some c => exact absurd (hi.fresh db.brk (by simp [hc])) (Nat.lt_irrefl _)

/-- What making a connection comes to: no connection, or a new one with the address that was asked
for. -/
theorem make_cases (db : AppDb) (h : Host) (u : UserAddr) (usermac : Mac) (mem intf nasportid : Bool)
    (ask : UserAddr → Option UserAddr) :
    ((db.make h u usermac mem intf nasportid ask).1 = none ∧
      ((db.make h u usermac mem intf nasportid ask).2 = db ∨
        (db.make h u usermac mem intf nasportid ask).2 = { db with brk := db.brk + 1 })) ∨
    ∃ u', ask u = some u' ∧ db.make h u usermac mem intf nasportid ask =
      (some db.brk, ({ db with brk := db.brk + 1 } : AppDb).appconnAddToDb h db.brk ⟨u', usermac⟩) := by
  rw [make]
  split
  · exact .inl ⟨rfl, .inl rfl⟩
  · dsimp only
    split
    · exact .inl ⟨rfl, .inr rfl⟩
    · cases hask : ask u with
      | none => exact .inl ⟨rfl, .inr rfl⟩
      | some u' =>
        dsimp only
        split
        · exact .inl ⟨rfl, .inr rfl⟩
        · exact .inr ⟨u', rfl, rfl⟩

theorem Indexed.make (hi : Indexed h db) (u : UserAddr) (usermac : Mac) (mem intf nasportid : Bool)
    (ask : UserAddr → Option UserAddr) : Indexed h (db.make h u usermac mem intf nasportid ask).2 := by
  obtain ⟨-, hsame | hbrk⟩ | ⟨u', -, hmade⟩ := make_cases db h u usermac mem intf nasportid ask
  · rw [hsame]
    exact hi
  · rw [hbrk]
    exact hi.brk
  · rw [hmade]
    exact hi.brk.add hi.next (Nat.lt_succ_self _)

theorem Indexed.autocreate (hi : Indexed h db) (ans : Answers) : ∃ r db',
    db.appconnFindByIpAutocreate h addr ans = some (r, db') ∧ Indexed h db' := by
  obtain ⟨r, db', hfind, hi', -, -⟩ := @AppDb.Indexed.useripx _ _ addr hi
  cases r with
  | some a => exact ⟨some a, db', by simp [appconnFindByIpAutocreate, hfind], hi'⟩
  | none => exact ⟨_, _, by simp [appconnFindByIpAutocreate, hfind]; rfl, hi'.make ..⟩

/-- A connection with the address `u` is one that a search by `addr` is after. -/
def Answering (u addr : UserAddr) : Prop :=
  (addr.hasV4 ∧ u.hasV4 ∧ u.user_ip = addr.user_ip) ∨ (addr.hasV6 ∧ u.hasV6 ∧ u.user_ipv6 = addr.user_ipv6)

/-- A search that finds nothing has found nothing by any of the addresses. -/
theorem Indexed.useripx_none (hi : Indexed h db) (hknown : addr.Known)
    (hfind : db.appconnFindByUseripx addr = some (none, db')) :
    (addr.hasV4 → db.appconnFindByUserip addr.user_ip = some none) ∧
      (addr.hasV6 → db.appconnFindByUseripv6 addr.user_ipv6 = some none) := by
  have hold : ∀ {x : Option (Option Nat)}, x.map (·, db) = some (none, db') → x = some none := by
    intro x hx
    cases x with
    | none => cases hx
    | some r => exact congrArg some (congrArg Prod.fst (Option.some.inj hx))
  rw [hknown.v4, hknown.v6]
  obtain hf4 | hf6 | hm := hknown
  · rw [useripx_ipv4 hf4] at hfind
    exact ⟨fun _ => hold hfind, fun hne => absurd hf4 hne⟩
  · rw [useripx_ipv6 hf6] at hfind
    exact ⟨fun hne => absurd hf6 hne, fun _ => hold hfind⟩
  · obtain ⟨h4, h6⟩ := hi.useripx_mix_none hm hfind
    exact ⟨fun _ => h4, fun _ => h6⟩

/-- A new connection is found by the address `addr` if it has it. -/
theorem Indexed.useripx_add (hi : Indexed h db) (ha : db.conns a = none) (hlt : a < db.brk)
    (hknown : addr.Known) (h4 : addr.hasV4 → db.appconnFindByUserip addr.user_ip = some none)
    (h6 : addr.hasV6 → db.appconnFindByUseripv6 addr.user_ipv6 = some none) :
    (∃ db'', (db.appconnAddToDb h a c).appconnFindByUseripx addr = some (some a, db'')) ↔
      Answering c.user_addr addr := by
  have hv4 := hknown.v4
  have hv6 := hknown.v6
  rw [Answering]
  obtain hf4 | hf6 | hm := hknown
  · have h46 : EAG_IPV4 ≠ EAG_IPV6 := by decide
    simp only [hf4, ne_eq, h46, not_false_eq_true, not_true_eq_false, iff_true, iff_false] at hv4 hv6
    rw [useripx_ipv4 hf4, hi.userip_add ha hlt, h4 hv4]
    simp only [hv4, hv6, true_and, false_and, or_false]
    split
    · rename_i hc
      simp [hc]
    · rename_i hc
      simp [hc]
  · have h64 : EAG_IPV6 ≠ EAG_IPV4 := by decide
    simp only [hf6, ne_eq, h64, not_false_eq_true, not_true_eq_false, iff_true, iff_false] at hv4 hv6
    rw [useripx_ipv6 hf6, hi.useripv6_add ha hlt, h6 hv6]
    simp only [hv4, hv6, true_and, false_and, false_or]
    split
    · rename_i hc
      simp [hc]
    · rename_i hc
      simp [hc]
  · have hv4 : addr.hasV4 := .inr hm
    have hv6 : addr.hasV6 := .inr hm
    simp only [hv4, hv6, true_and]
    have h4' := @AppDb.Indexed.userip_add _ _ _ c hi ha hlt addr.user_ip
    by_cases hc : c.user_addr.hasV4 ∧ c.user_addr.user_ip = addr.user_ip
    · rw [if_pos hc] at h4'
      obtain ⟨db'', hagain, -, -⟩ := (hi.add ha hlt).useripx_v4 hm h4'
      exact ⟨fun _ => .inl hc, fun _ => ⟨db'', hagain⟩⟩
    · rw [if_neg hc, h4 hv4] at h4'
      rw [useripx_v6 hm h4', hi.useripv6_add ha hlt, h6 hv6]
      split
      · rename_i hc6
        simp [hc6]
      · rename_i hc6
        simp [hc, hc6]

/-- The connection that is made for the address gets the address: what the wireless side says of the
station, if it knows one, or else what is copied. -/
def Reaches (h : Host) (addr : UserAddr) (ans : Answers) : Prop :=
  match if ans.usermac = .zero then none else ans.sta with
  | none =>
    (addr.family ≠ EAG_IPV6 ∧ (h.lp64 ∨ addr.user_ip = 0)) ∨
      (addr.family ≠ EAG_IPV4 ∧ addr.user_ipv6 = .zero)
  | some sta =>
    (addr.family ≠ EAG_IPV6 ∧ sta.ip_addr = addr.user_ip ∧ (sta.ip_addr ≠ 0 ∨ sta.ip6_addr = .zero)) ∨
      (addr.family ≠ EAG_IPV4 ∧ sta.ip6_addr = addr.user_ipv6 ∧ (sta.ip6_addr ≠ .zero ∨ sta.ip_addr = 0))

theorem staAddr_v4 {sta : Sta} (hv4 : addr.hasV4) :
    (staAddr addr sta).hasV4 ↔ sta.ip_addr ≠ 0 ∨ sta.ip6_addr = .zero := by
  by_cases hip : sta.ip_addr = 0 <;> by_cases hip6 : sta.ip6_addr = .zero <;>
    simp [UserAddr.hasV4, staAddr, hip, hip6]
  · exact hv4
  · decide

theorem staAddr_v6 {sta : Sta} (hv6 : addr.hasV6) :
    (staAddr addr sta).hasV6 ↔ sta.ip6_addr ≠ .zero ∨ sta.ip_addr = 0 := by
  by_cases hip : sta.ip_addr = 0 <;> by_cases hip6 : sta.ip6_addr = .zero <;>
    simp [UserAddr.hasV6, staAddr, hip, hip6]
  · exact hv6
  · decide

theorem answering_iff_reaches {ans : Answers} (hknown : addr.Known)
    (hask : db.askWireless ans.usermac ans.sta (copyAddr h addr) = some u) :
    Answering u addr ↔ Reaches h addr ans := by
  have hv4 : (copyAddr h addr).hasV4 ↔ addr.hasV4 := Iff.rfl
  have hv6 : (copyAddr h addr).hasV6 ↔ addr.hasV6 := Iff.rfl
  rw [askWireless] at hask
  rw [Reaches, Answering, ← hknown.v4, ← hknown.v6]
  cases hsta : (if ans.usermac = .zero then none else ans.sta) with
  | none =>
    rw [hsta] at hask
    dsimp only at hask ⊢
    split at hask
    · cases hask
    · cases hask
      have hip : (copyAddr h addr).user_ip = addr.user_ip ↔ h.lp64 ∨ addr.user_ip = 0 := by
        cases hl : h.lp64 <;> simp [copyAddr, hl, eq_comm]
      have hip6 : (copyAddr h addr).user_ipv6 = addr.user_ipv6 ↔ addr.user_ipv6 = .zero := eq_comm
      rw [hv4, hv6, hip, hip6, and_self_left, and_self_left]
  | some sta =>
    rw [hsta] at hask
    dsimp only at hask ⊢
    split at hask
    · cases hask
    · cases hask
      refine or_congr (and_congr_right fun h4 => ?_) (and_congr_right fun h6 => ?_)
      · rw [staAddr_v4 (hv4.mpr h4), and_comm]
        rfl
      · rw [staAddr_v6 (hv6.mpr h6), and_comm]
        rfl

/-- A connection that is given for an address, and whether the search by that address gives it next. -/
theorem Indexed.found_again (hi : Indexed h db) {ans : Answers} (hknown : addr.Known)
    (hauto : db.appconnFindByIpAutocreate h addr ans = some (some a, db')) :
    (∃ db'', db'.appconnFindByUseripx addr = some (some a, db'')) ↔
      (∃ b db'', db.appconnFindByUseripx addr = some (some b, db'')) ∨ Reaches h addr ans := by
  obtain ⟨r, dbf, hfind, hif, hsame, hagain⟩ := @AppDb.Indexed.useripx _ _ addr hi
  rw [appconnFindByIpAutocreate, hfind] at hauto
  cases r with
  | some b =>
    obtain ⟨rfl, rfl⟩ : b = a ∧ dbf = db' := by simpa using hauto
    exact ⟨fun _ => .inl ⟨b, dbf, hfind⟩, fun _ => hagain b rfl⟩
  | none =>
    cases hsame rfl
    have hnot : ¬ ∃ b db'', db.appconnFindByUseripx addr = some (some b, db'') := by
      rintro ⟨b, db'', hb⟩
      rw [hfind] at hb
      cases hb
    obtain ⟨hnone, -⟩ | ⟨u', hask, hmade⟩ := make_cases db h (copyAddr h addr) ans.usermac ans.mem ans.intf
      ans.nasportid (db.askWireless ans.usermac ans.sta)
    · have hfst := congrArg Prod.fst (Option.some.inj hauto)
      rw [hnone] at hfst
      cases hfst
    · have hpair := (Option.some.inj hauto).symm.trans hmade
      cases hpair
      rw [or_iff_right hnot, ← answering_iff_reaches hknown hask]
      obtain ⟨h4, h6⟩ := hi.useripx_none hknown hfind
      exact hi.brk.useripx_add hi.next (Nat.lt_succ_self _) hknown h4 h6

theorem indexed_create (h : Host) (hash_num : UInt32) : Indexed h (create hash_num) :=
  ⟨Lists.nil fun _ hne => hne rfl, Files.empty fun _ => rfl, Files.empty fun _ => rfl, Files.empty fun _ => rfl,
    fun _ hne => absurd rfl hne⟩

end

end AppDb

namespace AppOp

/-- Every operation has a result and keeps the indexes. -/
theorem step_indexed (h : Host) (db : AppDb) (op : AppOp) (hi : db.Indexed h) :
    ∃ db', step h db op = some db' ∧ db'.Indexed h := by
  cases op with
  | autocreate addr ans =>
    obtain ⟨r, db', hdb', hi'⟩ := @AppDb.Indexed.autocreate _ _ addr hi ans
    exact ⟨db', by simp [step, hdb'], hi'⟩
  | createNoArp addr ans => exact ⟨_, rfl, hi.make ..⟩
  | createBySta addr ans => exact ⟨_, rfl, hi.make ..⟩
  | ipxUpdate a addr => exact ⟨_, rfl, hi.ipxUpdate⟩
  | cleanConflict a =>
    obtain ⟨db', hdb', hi', -⟩ := hi.cleanConflict (a := a)
    exact ⟨db', hdb', hi'⟩
  | delete a =>
    obtain ⟨db', hdb', hi', -⟩ := hi.cleanConflict (a := a)
    exact ⟨db', hdb', hi'⟩
  | find addr =>
    obtain ⟨r, db', hdb', hi', -, -⟩ := @AppDb.Indexed.useripx _ _ addr hi
    exact ⟨db', by simp [step, hdb'], hi'⟩
  | configure force_wireless check_nasportid =>
    exact ⟨_, rfl, hi.listed, hi.ip, hi.ipv6, hi.mac, hi.fresh⟩

/-- After any operations the list and the tables are indexes of the connections; and a connection that
is given for an address is found by that address next exactly if it was found by it before, or if the
address gets into the connection. -/
theorem indexes_iff (h : Host) (hash_num : UInt32) (ops : List AppOp) :
    ∃ db, tryRun (step h) (AppDb.create hash_num) ops = some db ∧ db.Indexed h ∧
      ∀ addr ans a db', addr.Known → db.appconnFindByIpAutocreate h addr ans = some (some a, db') →
        ((∃ db'', db'.appconnFindByUseripx addr = some (some a, db'')) ↔
          (∃ b db'', db.appconnFindByUseripx addr = some (some b, db'')) ∨ AppDb.Reaches h addr ans) := by
  have hobeys : TryObeys (step h) (fun _ _ => True) (AppDb.create hash_num) ops :=
    tryObeys_of_forall fun _ _ _ => trivial
  obtain ⟨db, hrun, hi⟩ := hobeys.run_inv (I := fun db => db.Indexed h)
    (fun db op hi _ => step_indexed h db op hi) (AppDb.indexed_create h hash_num)
  exact ⟨db, hrun, hi, fun addr ans a db' hknown hauto => hi.found_again hknown hauto⟩

/-- A host with pointers of eight octets. -/
def lp64Host : Host :=
  { lp64 := true
    word := fun b0 b1 b2 b3 => b0.toUInt32 <<< 24 + b1.toUInt32 <<< 16 + b2.toUInt32 <<< 8 + b3.toUInt32 }

/-- A wired user whose MAC address is not known. -/
def wired : AppDb.Answers := ⟨true, .zero, true, none, true⟩

theorem indexes_ipv4 : ∃ db db' db'',
    tryRun (step lp64Host) (AppDb.create 16) [configure false false] = some db ∧ db.Indexed lp64Host ∧
    db.appconnFindByIpAutocreate lp64Host ⟨EAG_IPV4, 0xc0a80001, .zero⟩ wired = some (some 0, db') ∧
    db'.appconnFindByUseripx ⟨EAG_IPV4, 0xc0a80001, .zero⟩ = some (some 0, db'') := by
  obtain ⟨db, hrun, hi, hiff⟩ := indexes_iff lp64Host 16 [configure false false]
  cases hrun
  obtain ⟨db'', hfound⟩ := (hiff ⟨EAG_IPV4, 0xc0a80001, .zero⟩ wired 0 _ (.inl rfl) rfl).mpr
    (.inr (.inl ⟨by decide, .inl rfl⟩))
  exact ⟨_, _, db'', rfl, hi, rfl, hfound⟩

/-- Of an IPv6 address only the family is copied. -/
theorem indexes_ipv6 : ¬ ∀ (h : Host) (hash_num : UInt32) (ops : List AppOp) (db : AppDb) (addr : UserAddr)
    (ans : AppDb.Answers) (a : Nat) (db' : AppDb),
    tryRun (step h) (AppDb.create hash_num) ops = some db → addr.Known →
    db.appconnFindByIpAutocreate h addr ans = some (some a, db') →
    ∃ db'', db'.appconnFindByUseripx addr = some (some a, db'') := by
  intro hall
  obtain ⟨db'', hfound⟩ := hall lp64Host 16 [configure false false] _ ⟨EAG_IPV6, 0, 0x20010db8, 0, 0, 1⟩ wired 0 _
    rfl (.inr (.inl rfl)) rfl
  have hfst := congrArg (Option.map Prod.fst) hfound
  rw [Option.map_some] at hfst
  dsimp only at hfst
  clear hfound
  revert hfst
  decide

end AppOp

end Eag
end DaemonGroup
