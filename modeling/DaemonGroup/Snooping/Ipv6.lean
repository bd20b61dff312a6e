import DaemonGroup.Snooping.Tables

/-!
# DaemonGroup.Snooping.Ipv6

The IP hash of DHCPv6 snooping. Addresses of sixteen bytes are tested and compared with `strlen` and
`strcmp`, so that nothing behind the first zero byte counts, and an address without a zero byte is read
beyond its end.

The search is exact for an address, and the refresh of a client is harmless, exactly if the addresses have
a zero byte and no other address of the chain is the same up to the first zero byte (`exact_iff`). The other
addresses in the table need no zero byte for that.
-/

namespace DaemonGroup
namespace Snooping

open Lib

abbrev Addr6 := Vector UInt8 16

def Addr6.zero : Addr6 := Vector.replicate 16 0

/-- `strlen` of an address, which may not end in it. -/
def strlen (a : Addr6) : Option Nat := a.toList.findIdx? (· == 0)

/-- `strcmp` finds no difference. -/
def strcmpSame : List UInt8 → List UInt8 → Option Bool
  | x :: xs, y :: ys => if x ≠ y then some false else if x = 0 then some true else strcmpSame xs ys
  | _, _ => none

/-- The last four bytes of an address as an `unsigned int` of the host. -/
def keyIpaddr (big : Bool) (a : Addr6) : Nat :=
  let b (i : Fin 16) := (a.get i).toNat
  if big then ((b 12 * 256 + b 13) * 256 + b 14) * 256 + b 15
  else ((b 15 * 256 + b 14) * 256 + b 13) * 256 + b 12

/-- What the DHCPv6 functions do with addresses. -/
def v6 (big : Bool) : AddrFns Addr6 where
  empty a := (strlen a).map (· == 0)
  same a b := strcmpSame a.toList b.toList
  key a := keyIpaddr big a % NPD_DHCP_SNP_HASH_TABLE_SIZE
  key_lt _ := Nat.mod_lt _ (by decide)

namespace Tbl

section
variable (big : Bool) (T : Tbl Addr6)

/-- `dhcpv6_snp_tbl_item_find_by_ip`. -/
def itemFindByIp6 (ipaddr : Addr6) : Option (Option Nat) := T.itemFindByIp (v6 big) ipaddr

/-- `dhcpv6_snp_tbl_item_delete_iphash`. -/
def itemDeleteIphash6 (p : Nat) : Option (Tbl Addr6) := T.itemDeleteIphash (v6 big) p

/-- `dhcp_snp_ipv6_tbl_item_insert_ip_hash`. -/
def itemInsertIpHash6 (p : Nat) : Option (Tbl Addr6) := T.itemInsertIpHash (v6 big) p

/-- `dhcpv6_snp_tbl_refresh_bind`. The text of an address always fits, so that `check_ipv6_address` does
not fail. -/
def refreshBind6 (user : User Addr6) (p : Nat) (uptime time : UInt32) : Option (Tbl Addr6) := do
  let T ← T.unlessEmpty (v6 big) user.ip_addr (clearIp (v6 big) user.ip_addr (T.rounds (v6 big) user.ip_addr))
  let i ← T.item p
  let T ← T.unlessEmpty (v6 big) i.ip_addr (itemDeleteIphash6 big · p)
  let i ← T.item p
  let i := fillBind uptime time user i
  let T := { T with item := Function.update T.item p (some i) }
  T.unlessEmpty (v6 big) i.ip_addr (itemInsertIpHash6 big · p)

end

end Tbl

/-! ## The string functions -/

/-- The address has a zero byte. -/
def Terminated (a : Addr6) : Prop := 0 ∈ a.toList

instance (a : Addr6) : Decidable (Terminated a) := inferInstanceAs (Decidable (0 ∈ a.toList))

/-- The address is the same as `a` up to the first zero byte of `a`. -/
def Alike (x a : Addr6) : Prop :=
  ∃ n : Nat, a.toList[n]? = some 0 ∧ ∀ m, m ≤ n → x.toList[m]? = a.toList[m]?

theorem strcmpSame_some : ∀ xs ys : List UInt8, xs.length = ys.length → 0 ∈ ys →
    ∃ b, strcmpSame xs ys = some b ∧
      (b = true ↔ ∃ n : Nat, ys[n]? = some 0 ∧ ∀ m, m ≤ n → xs[m]? = ys[m]?) := by
  intro xs
  induction xs with
  | nil =>
    intro ys hlen h0
    obtain rfl : ys = [] := List.length_eq_zero_iff.mp hlen.symm
    cases h0
  | cons x xs ih =>
    intro ys hlen h0
    cases ys with
    | nil => cases h0
    | cons y ys =>
      by_cases hxy : x = y
      · subst hxy
        by_cases hx : x = 0
        · subst hx
          have hfirst : ∃ n : Nat, (0 :: ys)[n]? = some 0 ∧ ∀ m, m ≤ n → (0 :: xs)[m]? = (0 :: ys)[m]? := by
            refine ⟨0, rfl, fun m hm => ?_⟩
            obtain rfl : m = 0 := by omega
            rfl
          exact ⟨true, by simp [strcmpSame], fun _ => hfirst, fun _ => rfl⟩
        · have h0' : 0 ∈ ys := by
            rcases List.mem_cons.mp h0 with h | h
            · exact absurd h.symm hx
            · exact h
          obtain ⟨b, hb, hiff⟩ := ih ys (by simpa using hlen) h0'
          refine ⟨b, by simp [strcmpSame, hx, hb], hiff.trans ⟨?_, ?_⟩⟩
          · rintro ⟨n, hn, hm⟩
            refine ⟨n + 1, by simpa using hn, fun m hle => ?_⟩
            cases m with
            | zero => rfl
            | succ m => simpa using hm m (by omega)
          · rintro ⟨n, hn, hm⟩
            cases n with
            | zero => exact absurd (by simpa using hn) hx
            | succ n => exact ⟨n, by simpa using hn, fun m hle => by simpa using hm (m + 1) (by omega)⟩
      · refine ⟨false, by simp [strcmpSame, hxy], by simp, ?_⟩
        rintro ⟨n, -, hm⟩
        exact absurd (by simpa using hm 0 (by omega)) hxy

section
variable {big : Bool} {a x : Addr6}

theorem same_some (h : Terminated a) : ∃ b, (v6 big).same x a = some b ∧ (b = true ↔ Alike x a) :=
  strcmpSame_some x.toList a.toList (by simp) h

theorem Alike.terminated (h : Alike x a) : Terminated x := by
  obtain ⟨n, hn, hm⟩ := h
  exact List.mem_of_getElem? ((hm n le_rfl).trans hn)

theorem Alike.refl (h : Terminated a) : Alike a a := by
  obtain ⟨n, hn, h0⟩ := List.getElem_of_mem h
  exact ⟨n, by rw [List.getElem?_eq_getElem hn, h0], fun _ _ => rfl⟩

theorem empty_none (h : ¬ Terminated a) : (v6 big).empty a = none := by
  have hnone : strlen a = none := by
    refine List.findIdx?_eq_none_iff.mpr fun y hy => ?_
    have hne : y ≠ 0 := by
      rintro rfl
      exact h hy
    simpa using hne
  simp [v6, hnone]

/-- An address with a zero byte is empty exactly if its first byte is zero. -/
theorem empty_some (h : Terminated a) :
    ∃ b, (v6 big).empty a = some b ∧ (b = true ↔ a.toList[0]? = some 0) := by
  have hsome : (strlen a).isSome := by
    rw [strlen, List.findIdx?_isSome]
    exact List.any_eq_true.mpr ⟨0, h, by simp⟩
  obtain ⟨n, hn⟩ := Option.isSome_iff_exists.mp hsome
  refine ⟨n == 0, by simp [v6, hn], ?_⟩
  obtain ⟨hlt, hzero, hbefore⟩ := List.findIdx?_eq_some_iff_getElem.mp hn
  have hfirst : (0 : Nat) < a.toList.length := by omega
  rw [List.getElem?_eq_getElem hfirst]
  constructor
  · intro h0
    obtain rfl : n = 0 := by simpa using h0
    simpa using hzero
  · intro h0
    have hn0 : ¬ 0 < n := fun hpos => hbefore 0 hpos (by simpa using h0)
    simp
    omega

/-- What looks like an address that is not empty is not empty. -/
theorem Alike.empty (h : Alike x a) (he : (v6 big).empty a = some false) : (v6 big).empty x = some false := by
  obtain ⟨b, hb, hiff⟩ := @empty_some big _ h.terminated
  cases b with
  | false => exact hb
  | true =>
    obtain ⟨n, hn, hm⟩ := h
    have h0 : a.toList[0]? = some 0 := (hm 0 (Nat.zero_le n)).symm.trans (hiff.mp rfl)
    obtain ⟨c, hc, hc'⟩ := @empty_some big _ (List.mem_of_getElem? h0)
    rw [hc'.mpr h0, he] at hc
    cases hc

end

/-! ## What is exact -/

namespace Tbl

section
variable (big : Bool) (T : Tbl Addr6)

/-- The item has the address. -/
def HasAddr (p : Nat) (a : Addr6) : Prop := ∃ i, T.item p = some i ∧ i.ip_addr = a

/-- The item is in the IP hash and has the address. -/
def Held (p : Nat) (a : Addr6) : Prop := (∃ k, p ∈ T.ip k) ∧ T.HasAddr p a

/-- The address of the item is the same as `a` up to the first zero byte. -/
def LooksLike (p : Nat) (a : Addr6) : Prop := ∃ i, T.item p = some i ∧ Alike i.ip_addr a

/-- The search for `a` stays within the addresses and finds an item with `a` if there is one. -/
def FindExact (a : Addr6) : Prop :=
  ∃ r, T.itemFindByIp6 big a = some r ∧ (∀ p, r = some p → T.Held p a) ∧ (r = none → ∀ p, ¬ T.Held p a)

/-- The refresh of the client `p` stays within the addresses, keeps the other items with other addresses
in the IP hash, and `p` is found by its address. -/
def RefreshExact (user : User Addr6) (p : Nat) (uptime time : UInt32) : Prop :=
  ∃ T', T.refreshBind6 big user p uptime time = some T' ∧
    (∀ q b, q ≠ p → b ≠ user.ip_addr → T.Held q b → T'.Held q b) ∧
    (user.ip_addr ≠ Addr6.zero → T'.itemFindByIp6 big user.ip_addr = some (some p))

/-- Items in the chain of `a` that look like `a` have the address `a`, or come after one that has. -/
def Plain (a : Addr6) : Prop :=
  ∀ l p m, T.ip ((v6 big).key a) = l ++ p :: m → T.LooksLike p a → T.HasAddr p a ∨ ∃ q ∈ l, T.HasAddr q a

end

section
variable {big : Bool} {T : Tbl Addr6} {a : Addr6} {p : Nat}

/-- The test that the search for `a` makes. -/
def looks (T : Tbl Addr6) (a : Addr6) (p : Nat) : Bool :=
  ((T.item p).bind fun i => strcmpSame i.ip_addr.toList a.toList).getD false

theorem looks_iff (ha : Terminated a) : T.looks a p = true ↔ T.LooksLike p a := by
  cases hi : T.item p with
  | none => simp [looks, LooksLike, hi]
  | some i =>
    obtain ⟨b, hb, hiff⟩ := strcmpSame_some i.ip_addr.toList a.toList (by simp) ha
    simp only [looks, LooksLike, hi, Option.bind_some, hb, Option.getD_some]
    exact hiff.trans ⟨fun h => ⟨i, rfl, h⟩, fun h => by
      obtain ⟨j, hj, h⟩ := h
      obtain rfl := Option.some.inj hj
      exact h⟩

theorem tests6 (ha : Terminated a) (he : (v6 big).empty a = some false) : Tests (v6 big) T a (T.looks a) := by
  refine ⟨he, fun p _ i hi => ?_⟩
  obtain ⟨b, hb, hiff⟩ := @same_some big _ i.ip_addr ha
  have hb' : strcmpSame i.ip_addr.toList a.toList = some b := hb
  refine ⟨by simp [hb, looks, hi, hb'], fun hlooks => ?_⟩
  obtain rfl : b = true := by simpa [looks, hi, hb'] using hlooks
  exact (hiff.mp rfl).empty he

/-- An item in the IP hash does not look like an address whose first byte is zero. -/
theorem not_looksLike (h : Hashed (v6 big) T) {k : Nat} (hp : p ∈ T.ip k) (ha : a.toList[0]? = some 0) :
    ¬ T.LooksLike p a := by
  rintro ⟨i, hi, n, -, hm⟩
  obtain ⟨j, hj, he, -⟩ := h.home k p hp
  rw [hi] at hj
  obtain rfl := Option.some.inj hj
  have h0 : i.ip_addr.toList[0]? = some 0 := (hm 0 (Nat.zero_le n)).trans ha
  have ht : Terminated i.ip_addr := List.mem_of_getElem? h0
  obtain ⟨b, hb, hiff⟩ := @empty_some big _ ht
  rw [hiff.mpr h0] at hb
  exact he hb

theorem HasAddr.looksLike (h : T.HasAddr p a) (ha : Terminated a) : T.LooksLike p a := by
  obtain ⟨i, hi, rfl⟩ := h
  exact ⟨i, hi, Alike.refl ha⟩

theorem Held.mem (h : T.Held p a) (hh : Hashed (v6 big) T) : p ∈ T.ip ((v6 big).key a) := by
  obtain ⟨⟨k, hk⟩, i, hi, rfl⟩ := h
  obtain ⟨j, hj, -, rfl⟩ := hh.home k p hk
  rw [hi] at hj
  obtain rfl := Option.some.inj hj
  exact hk

theorem findExact_iff (h : Hashed (v6 big) T) : T.FindExact big a ↔ Terminated a ∧ T.Plain big a := by
  by_cases ha : Terminated a
  · obtain ⟨b, hb, hiff⟩ := @empty_some big _ ha
    cases b with
    | true =>
      -- nothing is found, and nothing is there
      have h0 := hiff.mp rfl
      refine ⟨fun _ => ⟨ha, fun l p m hl hlook => ?_⟩, fun _ => ⟨none, ?_, by simp, fun _ p hp => ?_⟩⟩
      · exact absurd hlook (not_looksLike h (k := (v6 big).key a) (by rw [hl]; simp) h0)
      · simp [itemFindByIp6, itemFindByIp, hb]
      · exact not_looksLike h (hp.mem h) h0 (hp.2.looksLike ha)
    | false =>
      have hfind : T.itemFindByIp6 big a = some ((T.ip ((v6 big).key a)).find? (T.looks a)) :=
        itemFindByIp_eq h (tests6 ha hb)
      constructor
      · rintro ⟨r, hr, hsome, -⟩
        refine ⟨ha, fun l p m hl hlook => ?_⟩
        rw [hfind, Option.some.injEq, hl] at hr
        have hlooks := (looks_iff ha).mpr hlook
        cases hl' : l.find? (T.looks a) with
        | some q =>
          rw [List.find?_append, hl', Option.some_or] at hr
          exact .inr ⟨q, List.mem_of_find?_eq_some hl', (hsome q hr.symm).2⟩
        | none =>
          rw [List.find?_append, hl', Option.none_or, List.find?_cons_of_pos hlooks] at hr
          exact .inl (hsome p hr.symm).2
      · rintro ⟨-, hplain⟩
        refine ⟨_, hfind, fun p hp => ?_, fun hnone p hp => ?_⟩
        · obtain ⟨hlook, l, m, hl, hbefore⟩ := List.find?_eq_some_iff_append.mp hp
          have hmem : ∃ k, p ∈ T.ip k := ⟨_, List.mem_of_find?_eq_some hp⟩
          rcases hplain l p m hl ((looks_iff ha).mp hlook) with haddr | ⟨q, hq, haddr⟩
          · exact ⟨hmem, haddr⟩
          · have := hbefore q hq
            rw [(looks_iff ha).mpr (haddr.looksLike ha)] at this
            cases this
        · have := List.find?_eq_none.mp hnone p (hp.mem h)
          exact this ((looks_iff ha).mpr (hp.2.looksLike ha))
  · constructor
    · rintro ⟨r, hr, -⟩
      simp [itemFindByIp6, itemFindByIp, empty_none ha] at hr
    · rintro ⟨ht, -⟩
      exact absurd ht ha

/-! ## The refresh -/

/-- Nothing in the chain of `a` looks like `a` any more. -/
theorem clear6 (h : Hashed (v6 big) T) (ha : Terminated a) : ∃ T₁,
    T.unlessEmpty (v6 big) a (clearIp (v6 big) a (T.rounds (v6 big) a)) = some T₁ ∧
    Hashed (v6 big) T₁ ∧ T₁.item = T.item ∧
    ∀ q k, q ∈ T₁.ip k ↔ q ∈ T.ip k ∧ ¬ (k = (v6 big).key a ∧ T.LooksLike q a) := by
  obtain ⟨b, hb, hiff⟩ := @empty_some big _ ha
  cases b with
  | true =>
    refine ⟨T, by simp [unlessEmpty, hb], h, rfl, fun q k => ⟨fun hq => ⟨hq, ?_⟩, And.left⟩⟩
    rintro ⟨-, hlook⟩
    exact not_looksLike h hq (hiff.mp rfl) hlook
  | false =>
    have hclear := clearIp_eq (T.rounds (v6 big) a) T h (tests6 ha hb) (Nat.lt_succ_self _)
    refine ⟨_, by simpa [unlessEmpty, hb] using hclear, h.shrink List.filter_sublist, rfl, fun q k => ?_⟩
    by_cases hk : k = (v6 big).key a
    · subst hk
      have hlook : T.looks a q = false ↔ ¬ T.LooksLike q a := by
        rw [← looks_iff ha]
        simp
      simp [withIp, hlook]
    · simp [withIp, hk]

/-- The item is put into the chain of its address, and found there. -/
theorem hook6 {i : Item Addr6} (h : Hashed (v6 big) T) (hi : T.item p = some i) (ht : Terminated i.ip_addr)
    (hp : ∀ k, p ∉ T.ip k) :
    ∃ T₁, T.unlessEmpty (v6 big) i.ip_addr (itemInsertIpHash6 big · p) = some T₁ ∧
    Hashed (v6 big) T₁ ∧ T₁.item = T.item ∧
    (∀ q k, q ≠ p → (q ∈ T₁.ip k ↔ q ∈ T.ip k ∧ ¬ (k = (v6 big).key i.ip_addr ∧ T.LooksLike q i.ip_addr))) ∧
    T₁.itemFindByIp6 big i.ip_addr = some (if i.ip_addr.toList[0]? = some 0 then none else some p) := by
  obtain ⟨b, hb, hiff⟩ := @empty_some big _ ht
  cases b with
  | true =>
    have h0 := hiff.mp rfl
    refine ⟨T, by simp [unlessEmpty, hb], h, rfl, fun q k _ => ⟨fun hq => ⟨hq, ?_⟩, And.left⟩, ?_⟩
    · rintro ⟨-, hlook⟩
      exact not_looksLike h hq h0 hlook
    · rw [if_pos h0]
      simp [itemFindByIp6, itemFindByIp, hb]
  | false =>
    have hinsert : T.itemInsertIpHash6 big p = _ := itemInsertIpHash_eq h hi (tests6 ht hb) hp
    set l := (T.ip ((v6 big).key i.ip_addr)).filter fun q => !T.looks i.ip_addr q with hl
    have hput : Hashed (v6 big) (T.withIp ((v6 big).key i.ip_addr) (p :: l)) := by
      have hcut : Hashed (v6 big) (T.withIp ((v6 big).key i.ip_addr) l) := h.shrink List.filter_sublist
      have hout : ∀ k, p ∉ (T.withIp ((v6 big).key i.ip_addr) l).ip k := by
        intro k hk
        by_cases hkey : k = (v6 big).key i.ip_addr
        · subst hkey
          have hpl : p ∈ l := by simpa [withIp] using hk
          exact hp _ (List.mem_of_mem_filter hpl)
        · exact hp k (by simpa [withIp, hkey] using hk)
      simpa [withIp] using hcut.put hi hb hout
    refine ⟨T.withIp ((v6 big).key i.ip_addr) (p :: l), by simpa [unlessEmpty, hb] using hinsert, hput, rfl,
      fun q k hq => ?_, ?_⟩
    · by_cases hk : k = (v6 big).key i.ip_addr
      · subst hk
        have hlook : T.looks i.ip_addr q = false ↔ ¬ T.LooksLike q i.ip_addr := by
          rw [← looks_iff ht]
          simp
        simp [withIp, hq, hl, hlook]
      · simp [withIp, hk]
    · have hfirst : (T.withIp ((v6 big).key i.ip_addr) (p :: l)).looks i.ip_addr p = true :=
        (looks_iff ht).mpr ⟨i, hi, Alike.refl ht⟩
      have h0 : ¬ i.ip_addr.toList[0]? = some 0 := fun h0 => absurd (hiff.mpr h0) (by simp)
      rw [if_neg h0, itemFindByIp6, itemFindByIp_eq hput (tests6 ht hb)]
      simp [withIp] at hfirst ⊢
      simp [hfirst]

/-- What the refresh does: the client is in the chain of its address and all that looks like it is not. -/
theorem refreshBind6_spec {i : Item Addr6} {user : User Addr6} {uptime time : UInt32}
    (h : Hashed (v6 big) T) (hi : T.item p = some i) (hu : Terminated user.ip_addr)
    (ht : Terminated i.ip_addr) : ∃ T', T.refreshBind6 big user p uptime time = some T' ∧ Hashed (v6 big) T' ∧
    (∀ q, q ≠ p → T'.item q = T.item q) ∧
    (∀ q k, q ≠ p → (q ∈ T'.ip k ↔
      q ∈ T.ip k ∧ ¬ (k = (v6 big).key user.ip_addr ∧ T.LooksLike q user.ip_addr))) ∧
    T'.itemFindByIp6 big user.ip_addr =
      some (if user.ip_addr.toList[0]? = some 0 then none else some p) := by
  obtain ⟨T₁, h₁, hh₁, hitem₁, hip₁⟩ := clear6 h hu
  have hi₁ : T₁.item p = some i := by rw [hitem₁, hi]
  obtain ⟨c, hc, -⟩ := @empty_some big _ ht
  obtain ⟨T₂, h₂, hh₂, hitem₂, -, hout₂, hip₂⟩ := unhook hh₁ hi₁ hc
  have hi₂ : T₂.item p = some i := by rw [hitem₂, hi₁]
  set T₃ : Tbl Addr6 :=
    { T₂ with item := Function.update T₂.item p (some (fillBind uptime time user i)) } with hT₃
  have hh₃ : Hashed (v6 big) T₃ := by
    refine hh₂.frame rfl fun k q j hq hj => ?_
    have hqp : q ≠ p := by
      rintro rfl
      exact hout₂ k hq
    exact ⟨j, by simpa [hT₃, hqp] using hj, rfl⟩
  have hi₃ : T₃.item p = some (fillBind uptime time user i) := by simp [hT₃]
  obtain ⟨T₄, h₄, hh₄, hitem₄, hip₄, hfind₄⟩ := hook6 hh₃ hi₃ (by exact hu) hout₂
  refine ⟨T₄, ?_, hh₄, fun q hq => ?_, fun q k hq => ?_, hfind₄⟩
  · simp only [itemDeleteIphash6, refreshBind6, Option.bind_eq_bind, Option.bind_some, h₁, hi₁, h₂, hi₂]
    exact h₄
  · rw [hitem₄, hT₃]
    simp [hq, hitem₂, hitem₁]
  · have hlook : T₃.LooksLike q user.ip_addr ↔ T.LooksLike q user.ip_addr := by
      simp [LooksLike, hT₃, hq, hitem₂, hitem₁]
    rw [hip₄ q k hq]
    change q ∈ T₂.ip k ∧ ¬ (k = (v6 big).key user.ip_addr ∧ T₃.LooksLike q user.ip_addr) ↔ _
    rw [hlook, hip₂ q k hq, hip₁]
    tauto

theorem refreshExact_iff {i : Item Addr6} {user : User Addr6} {uptime time : UInt32}
    (h : Hashed (v6 big) T) (hi : T.item p = some i) : T.RefreshExact big user p uptime time ↔
      Terminated user.ip_addr ∧ Terminated i.ip_addr ∧
      (user.ip_addr.toList[0]? = some 0 → user.ip_addr = Addr6.zero) ∧
      ∀ q ∈ T.ip ((v6 big).key user.ip_addr), q ≠ p → T.LooksLike q user.ip_addr → T.HasAddr q user.ip_addr := by
  by_cases hu : Terminated user.ip_addr
  · by_cases ht : Terminated i.ip_addr
    · obtain ⟨T', hT', -, hitem, hip, hfind⟩ := @Tbl.refreshBind6_spec _ _ _ _ _ uptime time h hi hu ht
      constructor
      · rintro ⟨T'', hT'', hkeep, hfound⟩
        rw [hT'] at hT''
        obtain rfl := Option.some.inj hT''
        refine ⟨hu, ht, fun h0 => ?_, fun q hq hqp hlook => ?_⟩
        · by_contra hne
          have := hfound hne
          rw [hfind, if_pos h0] at this
          cases this
        · obtain ⟨j, hj, hlike⟩ := hlook
          by_contra hno
          have hne : j.ip_addr ≠ user.ip_addr := fun he => hno ⟨j, hj, he⟩
          obtain ⟨⟨k, hk⟩, -⟩ := hkeep q j.ip_addr hqp hne ⟨⟨_, hq⟩, j, hj, rfl⟩
          obtain ⟨hk', hout⟩ := (hip q k hqp).mp hk
          obtain ⟨j', hj', -, hhome⟩ := h.home k q hk'
          obtain ⟨j'', hj'', -, hhome'⟩ := h.home _ q hq
          rw [hj'] at hj''
          obtain rfl := Option.some.inj hj''
          exact hout ⟨hhome.symm.trans hhome', j, hj, hlike⟩
      · rintro ⟨-, -, hzero, hplain⟩
        refine ⟨T', hT', fun q b hqp hb hq => ?_, fun hne => ?_⟩
        · obtain ⟨⟨k, hk⟩, j, hj, rfl⟩ := hq
          refine ⟨⟨k, (hip q k hqp).mpr ⟨hk, ?_⟩⟩, j, by rw [hitem q hqp, hj], rfl⟩
          rintro ⟨rfl, hlook⟩
          obtain ⟨j', hj', he⟩ := hplain q hk hqp hlook
          rw [hj] at hj'
          obtain rfl := Option.some.inj hj'
          exact hb he
        · rw [hfind, if_neg fun h0 => hne (hzero h0)]
    · constructor
      · rintro ⟨T', hT', -⟩
        obtain ⟨T₁, h₁, -, hitem₁, -⟩ := clear6 h hu
        have hi₁ : T₁.item p = some i := by rw [hitem₁, hi]
        simp [refreshBind6, h₁, hi₁, unlessEmpty_none (empty_none ht)] at hT'
      · rintro ⟨-, ht', -⟩
        exact absurd ht' ht
  · constructor
    · rintro ⟨T', hT', -⟩
      simp [refreshBind6, unlessEmpty_none (empty_none hu)] at hT'
    · rintro ⟨hu', -⟩
      exact absurd hu' hu

end

/-- When the search and the refresh of a client are exact, in any table whose items are in the chains of
their addresses. -/
theorem exact_iff (big : Bool) (T : Tbl Addr6) (h : Hashed (v6 big) T) (a : Addr6) (user : User Addr6)
    (p : Nat) (i : Item Addr6) (hi : T.item p = some i) (uptime time : UInt32) :
    (T.FindExact big a ↔ Terminated a ∧ T.Plain big a) ∧
    (T.RefreshExact big user p uptime time ↔
      Terminated user.ip_addr ∧ Terminated i.ip_addr ∧
      (user.ip_addr.toList[0]? = some 0 → user.ip_addr = Addr6.zero) ∧
      ∀ q ∈ T.ip ((v6 big).key user.ip_addr), q ≠ p → T.LooksLike q user.ip_addr → T.HasAddr q user.ip_addr) :=
  ⟨findExact_iff h, refreshExact_iff h hi⟩

/-- The addresses `2001:db8::1`, `2001:db8:5::1` and `2002::1`. -/
def sampleA : Addr6 := ⟨#[0x20, 0x01, 0x0d, 0xb8, 0, 0, 0, 0, 0, 0, 0, 0, 0, 0, 0, 1], rfl⟩
def sampleB : Addr6 := ⟨#[0x20, 0x01, 0x0d, 0xb8, 0, 5, 0, 0, 0, 0, 0, 0, 0, 0, 0, 1], rfl⟩
def sampleC : Addr6 := ⟨#[0x20, 0x02, 0, 0, 0, 0, 0, 0, 0, 0, 0, 0, 0, 0, 0, 1], rfl⟩

def sampleUser (n : UInt8) (state : BindState) (a : Addr6) : User Addr6 :=
  { state := state, haddr_len := 6, chaddr := Vector.replicate 6 n, vlanId := 1, ip_addr := a
    lease_time := 3600, ifindex := 1 }

/-- One client has the address `2001:db8::1`, another one has none yet. -/
def sampleTbl : Tbl Addr6 where
  item p := if p = 1 then some (fillItem 0 0 (sampleUser 1 .BOUND sampleA))
    else if p = 2 then some (fillItem 0 0 (sampleUser 2 .REQUEST Addr6.zero)) else none
  mac k := if k = tblHash (Vector.replicate 6 1) then [1]
    else if k = tblHash (Vector.replicate 6 2) then [2] else []
  ip k := if k = (v6 true).key sampleA then [1] else []

theorem sampleTbl_hashed : Hashed (v6 true) sampleTbl := by
  refine ⟨fun k p hp => ?_, fun k => ?_⟩
  · by_cases hk : k = (v6 true).key sampleA
    · obtain rfl : p = 1 := by simpa [sampleTbl, hk] using hp
      exact ⟨_, rfl, by decide, hk.symm⟩
    · simp [sampleTbl, hk] at hp
  · by_cases hk : k = (v6 true).key sampleA <;> simp [sampleTbl, hk]

theorem sampleTbl_looksLike : sampleTbl.LooksLike 1 sampleB :=
  ⟨_, rfl, 4, by decide, by decide⟩

theorem sampleTbl_not_hasAddr : ¬ sampleTbl.HasAddr 1 sampleB := by
  rintro ⟨i, hi, he⟩
  obtain rfl := Option.some.inj hi
  exact absurd he (by decide)

/-- The client with `2001:db8::1` is found by `2001:db8:5::1`, and loses its place to it. -/
theorem exact_fails : ¬ sampleTbl.FindExact true sampleB ∧
    ¬ sampleTbl.RefreshExact true (sampleUser 2 .BOUND sampleB) 2 0 0 := by
  refine ⟨fun hfind => ?_, fun hrefresh => ?_⟩
  · obtain ⟨-, hplain⟩ := (findExact_iff sampleTbl_hashed).mp hfind
    rcases hplain [] 1 [] (by decide) sampleTbl_looksLike with haddr | ⟨q, hq, -⟩
    · exact sampleTbl_not_hasAddr haddr
    · cases hq
  · obtain ⟨-, -, -, hplain⟩ := (refreshExact_iff sampleTbl_hashed rfl).mp hrefresh
    exact sampleTbl_not_hasAddr (hplain 1 (by decide) (by decide) sampleTbl_looksLike)

/-- Nothing goes wrong with `2002::1`. -/
theorem exact_holds : sampleTbl.FindExact true sampleC ∧
    sampleTbl.RefreshExact true (sampleUser 2 .BOUND sampleC) 2 0 0 := by
  have hlook : ¬ sampleTbl.LooksLike 1 sampleC := by
    rw [← looks_iff (List.mem_of_getElem? (show sampleC.toList[2]? = some 0 by decide))]
    decide
  have hone (q : Nat) (hq : q ∈ sampleTbl.ip ((v6 true).key sampleC)) : q = 1 := by
    simpa [show sampleTbl.ip ((v6 true).key sampleC) = [1] by decide] using hq
  obtain ⟨hfind, hrefresh⟩ := exact_iff true sampleTbl sampleTbl_hashed sampleC
    (sampleUser 2 .BOUND sampleC) 2 (fillItem 0 0 (sampleUser 2 .REQUEST Addr6.zero)) rfl 0 0
  refine ⟨hfind.mpr ⟨by decide, fun l q m hl hq => ?_⟩, hrefresh.mpr ⟨by decide, by decide, by decide, ?_⟩⟩
  · obtain rfl := hone q (by rw [hl]; simp)
    exact absurd hq hlook
  · intro q hq _ hq'
    obtain rfl := hone q hq
    exact absurd hq' hlook

end Tbl

end Snooping
end DaemonGroup
