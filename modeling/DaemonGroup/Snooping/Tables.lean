import DaemonGroup.Lib.Listing
import Mathlib.Algebra.Order.Ring.Nat

/-!
# DaemonGroup.Snooping.Tables

The binding tables of DHCP snooping (`dhcp_snp_tbl.c`): a hash table of items by MAC address and one by
IP address. The source has every function twice, for IPv4 and for IPv6; they differ in how an address is
tested, compared and hashed (`AddrFns`).

A chain is the list of its items. What has no meaning in C gives `none`: an item is read after it was
freed, a string function reads on behind an address, an item is linked while it is in a chain, or a loop
does not end.
-/

namespace DaemonGroup
namespace Snooping

open Lib

def NPD_DHCP_SNP_HASH_TABLE_SIZE : Nat := 1024
def NPD_DHCP_SNP_REQUEST_TIMEOUT : UInt32 := 60

inductive BindState
  | REQUEST
  | BOUND
deriving DecidableEq, Repr

inductive BindType
  | DYNAMIC
  | STATIC
deriving DecidableEq, Repr

abbrev Mac := Vector UInt8 6

/-- `NPD_DHCP_SNP_USER_ITEM_T` and `NPD_DHCPv6_SNP_USER_ITEM_T`. -/
structure User (α : Type) where
  bind_type : BindType := .DYNAMIC
  state : BindState := .REQUEST
  haddr_len : UInt8
  chaddr : Mac
  vlanId : UInt16
  ip_addr : α
  lease_time : UInt32
  ifindex : UInt32

/-- `NPD_DHCP_SNP_TBL_ITEM_T` and `NPD_DHCPv6_SNP_TBL_ITEM_T`, without their links. -/
structure Item (α : Type) where
  bind_type : BindType
  state : BindState
  haddr_len : UInt8
  chaddr : Mac
  vlanId : UInt16
  ip_addr : α
  lease_time : UInt32
  sys_escape : UInt32
  cur_expire : UInt32
  ifindex : UInt32
deriving DecidableEq, Repr

/-- What the source does with addresses. A test is `none` if it reads on behind the address. -/
structure AddrFns (α : Type) where
  empty : α → Option Bool
  same : α → α → Option Bool
  key : α → Nat
  key_lt : ∀ a, key a < NPD_DHCP_SNP_HASH_TABLE_SIZE

/-- The items in memory and the chains of the two hash tables. -/
structure Tbl (α : Type) where
  item : Nat → Option (Item α)
  mac : Nat → List Nat
  ip : Nat → List Nat

/-- `dhcp_snp_tbl_hash`. -/
def tblHash (mac : Mac) : Nat :=
  let s (i : Fin 6) : UInt32 := (mac.get i).toUInt32
  (s 0 <<< 16 ^^^ s 1 <<< 8 ^^^ s 2 ^^^ s 3 <<< 16 ^^^ s 4 <<< 8 ^^^ s 5).toNat %
    NPD_DHCP_SNP_HASH_TABLE_SIZE

section
variable {α : Type} (uptime time : UInt32)

/-- `dhcp_snp_tbl_fill_item`. -/
def fillItem (user : User α) : Item α :=
  { user with sys_escape := time, cur_expire := uptime + user.lease_time }

/-- `dhcp_snp_tbl_fill_bind`. -/
def fillBind (user : User α) (item : Item α) : Item α :=
  let item := if NPD_DHCP_SNP_REQUEST_TIMEOUT ≠ user.lease_time then
      { item with cur_expire := uptime + user.lease_time, lease_time := user.lease_time }
    else item
  { item with ifindex := user.ifindex, state := user.state, ip_addr := user.ip_addr, sys_escape := time }

variable {uptime time} {user : User α} {item : Item α}

@[simp] theorem fillBind_ifindex : (fillBind uptime time user item).ifindex = user.ifindex := rfl
@[simp] theorem fillBind_state : (fillBind uptime time user item).state = user.state := rfl
@[simp] theorem fillBind_ip_addr : (fillBind uptime time user item).ip_addr = user.ip_addr := rfl

@[simp] theorem fillBind_chaddr : (fillBind uptime time user item).chaddr = item.chaddr := by
  rw [fillBind]
  split <;> rfl

@[simp] theorem fillBind_bind_type : (fillBind uptime time user item).bind_type = item.bind_type := by
  rw [fillBind]
  split <;> rfl

@[simp] theorem fillBind_vlanId : (fillBind uptime time user item).vlanId = item.vlanId := by
  rw [fillBind]
  split <;> rfl

end

namespace Tbl

section
variable {α : Type} (F : AddrFns α) (T : Tbl α)

def empty : Tbl α := ⟨fun _ => none, fun _ => [], fun _ => []⟩

/-- The statement is run unless the address is empty. -/
def unlessEmpty (a : α) (f : Tbl α → Option (Tbl α)) : Option (Tbl α) := do
  if ← F.empty a then some T else f T

/-- A chain without the item, which is looked for item by item. -/
def unlink (p : Nat) : List Nat → Option (List Nat)
  | [] => some []
  | q :: l =>
    if q = p then some l
    else do
      let _ ← T.item q
      let l ← unlink p l
      some (q :: l)

/-- `dhcp_snp_tbl_item_find`. -/
def itemFind (chaddr : Mac) : Option (Option Nat) :=
  (T.mac (tblHash chaddr)).findM? fun p => do
    let i ← T.item p
    some (decide (i.chaddr = chaddr))

/-- `dhcp_snp_tbl_item_find_by_ip`. -/
def itemFindByIp (ipaddr : α) : Option (Option Nat) := do
  if ← F.empty ipaddr then some none
  else (T.ip (F.key ipaddr)).findM? fun p => do
    let i ← T.item p
    F.same i.ip_addr ipaddr

/-- `dhcp_snp_tbl_item_insert`. The memory that `malloc` gives was not in use. -/
def itemInsert (user : User α) (uptime time : UInt32) (malloc : Option Nat) : Tbl α × Option Nat :=
  match malloc with
  | none => (T, none)
  | some p =>
    if (T.item p).isSome then (T, none)
    else
      ({ T with
        item := Function.update T.item p (some (fillItem uptime time user))
        mac := Function.update T.mac (tblHash user.chaddr) (p :: T.mac (tblHash user.chaddr)) }, some p)

/-- `dhcp_snp_tbl_item_delete_iphash`. -/
def itemDeleteIphash (p : Nat) : Option (Tbl α) := do
  let i ← T.item p
  if ← F.empty i.ip_addr then some T
  else
    let l ← T.unlink p (T.ip (F.key i.ip_addr))
    some { T with ip := Function.update T.ip (F.key i.ip_addr) l }

/-- The loop that takes out of the IP hash what has the address. -/
def clearIp (ipaddr : α) : Nat → Tbl α → Option (Tbl α)
  | 0, _ => none
  | n + 1, T => do
    match ← T.itemFindByIp F ipaddr with
    | none => some T
    | some p =>
      let T ← T.itemDeleteIphash F p
      clearIp ipaddr n T

/-- The item is in a chain of the IP hash. -/
def ipLinked (p : Nat) : Bool :=
  (List.range NPD_DHCP_SNP_HASH_TABLE_SIZE).any fun k => p ∈ T.ip k

/-- More rounds than there are items with the key of the address. -/
def rounds (ipaddr : α) : Nat := (T.ip (F.key ipaddr)).length + 1

/-- `dhcp_snp_tbl_item_insert_ip_hash`. -/
def itemInsertIpHash (p : Nat) : Option (Tbl α) := do
  let i ← T.item p
  if ← F.empty i.ip_addr then some T
  else
    let T ← clearIp F i.ip_addr (T.rounds F i.ip_addr) T
    if T.ipLinked p then none
    else some { T with ip := Function.update T.ip (F.key i.ip_addr) (p :: T.ip (F.key i.ip_addr)) }

/-- `dhcp_snp_tbl_item_delete`. If the database fails the item is not freed. -/
def itemDelete (p : Nat) (db_delete : Bool) : Option (Tbl α) := do
  let i ← T.item p
  let T ← T.unlessEmpty F i.ip_addr (itemDeleteIphash F · p)
  let l ← T.unlink p (T.mac (tblHash i.chaddr))
  if p ∈ T.mac (tblHash i.chaddr) then
    some { T with
      mac := Function.update T.mac (tblHash i.chaddr) l
      item := if db_delete then Function.update T.item p none else T.item }
  else some T

end

/-! ## The chains of the IP hash -/

section
variable {α : Type} {F : AddrFns α} {T : Tbl α} {p q k n : Nat} {a : α} {i : Item α} {l : List Nat}
  {g : Nat → Bool}

/-- The table with another chain for one key. -/
def withIp (T : Tbl α) (k : Nat) (l : List Nat) : Tbl α := { T with ip := Function.update T.ip k l }

/-- The items in the IP hash are in memory, are not without an address, and are in the chain of its key, once. The
test of an address may have no result. -/
structure Hashed (F : AddrFns α) (T : Tbl α) : Prop where
  home : ∀ k p, p ∈ T.ip k → ∃ i, T.item p = some i ∧ F.empty i.ip_addr ≠ some true ∧ F.key i.ip_addr = k
  nodup : ∀ k, (T.ip k).Nodup

/-- `g` says which items of the chain have the address; and these can be taken out. -/
def Tests (F : AddrFns α) (T : Tbl α) (a : α) (g : Nat → Bool) : Prop :=
  F.empty a = some false ∧ ∀ p ∈ T.ip (F.key a), ∀ i, T.item p = some i →
    F.same i.ip_addr a = some (g p) ∧ (g p = true → F.empty i.ip_addr = some false)

theorem unlessEmpty_none {f : Tbl α → Option (Tbl α)} (h : F.empty a = none) : T.unlessEmpty F a f = none := by
  simp [unlessEmpty, h]

theorem unlink_eq (h : ∀ q ∈ l, ∃ i, T.item q = some i) : T.unlink p l = some (l.erase p) := by
  induction l with
  | nil => rfl
  | cons q l ih =>
    by_cases hq : q = p
    · subst hq
      simp [unlink]
    · obtain ⟨i, hi⟩ := h q (by simp)
      have hl := ih fun r hr => h r (by simp [hr])
      rw [List.erase_cons_tail (by simpa using hq)]
      simp [unlink, hq, hi, hl]

theorem Hashed.live (h : Hashed F T) : ∀ q ∈ T.ip k, ∃ i, T.item q = some i := by
  intro q hq
  obtain ⟨i, hi, -⟩ := h.home k q hq
  exact ⟨i, hi⟩

theorem Hashed.ipLinked (h : Hashed F T) : T.ipLinked p = true ↔ ∃ k, p ∈ T.ip k := by
  constructor
  · intro hp
    obtain ⟨k, -, hk⟩ := List.any_eq_true.mp hp
    exact ⟨k, by simpa using hk⟩
  · rintro ⟨k, hk⟩
    obtain ⟨i, -, -, rfl⟩ := h.home k p hk
    exact List.any_eq_true.mpr ⟨_, List.mem_range.mpr (F.key_lt _), by simpa using hk⟩

/-- Items may leave a chain. -/
theorem Hashed.shrink (h : Hashed F T) (hl : l.Sublist (T.ip k)) : Hashed F (T.withIp k l) := by
  refine ⟨fun j p hp => ?_, fun j => ?_⟩
  · by_cases hj : j = k
    · subst hj
      exact h.home j p (hl.subset (by simpa [withIp] using hp))
    · exact h.home j p (by simpa [withIp, hj] using hp)
  · by_cases hj : j = k
    · subst hj
      simpa [withIp] using (h.nodup j).sublist hl
    · simpa [withIp, hj] using h.nodup j

/-- An item that is in no chain is put at the head of its chain. -/
theorem Hashed.put (h : Hashed F T) (hi : T.item p = some i) (ha : F.empty i.ip_addr = some false)
    (hp : ∀ j, p ∉ T.ip j) : Hashed F (T.withIp (F.key i.ip_addr) (p :: T.ip (F.key i.ip_addr))) := by
  refine ⟨fun j q hq => ?_, fun j => ?_⟩
  · by_cases hj : j = F.key i.ip_addr
    · subst hj
      have hq' : q = p ∨ q ∈ T.ip (F.key i.ip_addr) := by simpa [withIp] using hq
      rcases hq' with rfl | hq'
      · exact ⟨i, hi, by simp [ha], rfl⟩
      · exact h.home _ q hq'
    · exact h.home j q (by simpa [withIp, hj] using hq)
  · by_cases hj : j = F.key i.ip_addr
    · subst hj
      simpa [withIp] using ⟨hp _, h.nodup _⟩
    · simpa [withIp, hj] using h.nodup j

/-- What is in memory may change as long as the items in the chains keep their addresses. -/
theorem Hashed.frame {T' : Tbl α} (h : Hashed F T) (hip : T'.ip = T.ip)
    (hitem : ∀ k p i, p ∈ T.ip k → T.item p = some i → ∃ j, T'.item p = some j ∧ j.ip_addr = i.ip_addr) :
    Hashed F T' := by
  refine ⟨fun k p hp => ?_, fun k => hip ▸ h.nodup k⟩
  rw [hip] at hp
  obtain ⟨i, hi, he, hk⟩ := h.home k p hp
  obtain ⟨j, hj, hij⟩ := hitem k p i hp hi
  exact ⟨j, hj, by rwa [hij], by rwa [hij]⟩

theorem itemFindByIp_eq (h : Hashed F T) (ht : Tests F T a g) :
    T.itemFindByIp F a = some ((T.ip (F.key a)).find? g) := by
  have hfind := findM?_total (l := T.ip (F.key a)) (g := g)
    (f := fun p => do let i ← T.item p; F.same i.ip_addr a) fun p hp => by
      obtain ⟨i, hi, -⟩ := h.home _ p hp
      simp [hi, (ht.2 p hp i hi).1]
  rw [itemFindByIp, ht.1]
  exact hfind

theorem itemDeleteIphash_eq (h : Hashed F T) (hi : T.item p = some i) (he : F.empty i.ip_addr = some false) :
    T.itemDeleteIphash F p =
      some (T.withIp (F.key i.ip_addr) ((T.ip (F.key i.ip_addr)).erase p)) := by
  simp [itemDeleteIphash, hi, he, unlink_eq h.live, withIp]

theorem itemDeleteIphash_found (h : Hashed F T) (ht : Tests F T a g) (hp : p ∈ T.ip (F.key a)) (hg : g p = true) :
    T.itemDeleteIphash F p = some (T.withIp (F.key a) ((T.ip (F.key a)).erase p)) := by
  obtain ⟨i, hi, -, hk⟩ := h.home _ p hp
  rw [← hk]
  exact itemDeleteIphash_eq h hi ((ht.2 p hp i hi).2 hg)

/-- An item that has left its chain is in no chain. -/
theorem Hashed.not_mem_erase (h : Hashed F T) (hi : T.item p = some i) (j : Nat) :
    p ∉ (T.withIp (F.key i.ip_addr) ((T.ip (F.key i.ip_addr)).erase p)).ip j := by
  intro hp
  by_cases hj : j = F.key i.ip_addr
  · subst hj
    have hp' : p ∈ (T.ip (F.key i.ip_addr)).erase p := by simpa [withIp] using hp
    exact ((h.nodup _).mem_erase_iff.mp hp').1 rfl
  · obtain ⟨i', hi', -, hk⟩ := h.home j p (by simpa [withIp, hj] using hp)
    rw [hi] at hi'
    obtain rfl := Option.some.inj hi'
    exact hj hk.symm

/-- An item is taken out of its chain, if it is in one. -/
theorem unhook {b : Bool} (h : Hashed F T) (hi : T.item p = some i) (hb : F.empty i.ip_addr = some b) :
    ∃ T₁, T.unlessEmpty F i.ip_addr (itemDeleteIphash F · p) = some T₁ ∧ Hashed F T₁ ∧ T₁.item = T.item ∧
    T₁.mac = T.mac ∧ (∀ k, p ∉ T₁.ip k) ∧ ∀ q k, q ≠ p → (q ∈ T₁.ip k ↔ q ∈ T.ip k) := by
  cases b with
  | true =>
    refine ⟨T, by simp [unlessEmpty, hb], h, rfl, rfl, fun k hk => ?_, fun _ _ _ => Iff.rfl⟩
    obtain ⟨j, hj, he, -⟩ := h.home k p hk
    rw [hi] at hj
    obtain rfl := Option.some.inj hj
    exact absurd hb he
  | false =>
    refine ⟨_, by simpa [unlessEmpty, hb] using itemDeleteIphash_eq h hi hb, h.shrink List.erase_sublist, rfl,
      rfl, h.not_mem_erase hi, fun q k hq => ?_⟩
    by_cases hk : k = F.key i.ip_addr
    · subst hk
      simp [withIp, List.mem_erase_of_ne hq]
    · simp [withIp, hk]

theorem filter_erase_of_neg {f : Nat → Bool} (hp : f p = false) : (l.erase p).filter f = l.filter f := by
  induction l with
  | nil => rfl
  | cons q l ih =>
    by_cases hq : q = p
    · subst hq
      simp [hp]
    · rw [List.erase_cons_tail (by simpa using hq)]
      simp [List.filter_cons, ih]

/-- The loop ends and has taken all items with the address out of the chain. -/
theorem clearIp_eq (n : Nat) : ∀ T : Tbl α, Hashed F T → Tests F T a g → (T.ip (F.key a)).length < n →
    clearIp F a n T = some (T.withIp (F.key a) ((T.ip (F.key a)).filter fun p => !g p)) := by
  induction n with
  | zero => intro T _ _ hn; omega
  | succ n ih =>
    intro T h ht hn
    rw [clearIp, itemFindByIp_eq h ht]
    cases hf : (T.ip (F.key a)).find? g with
    | none =>
      have hall : (T.ip (F.key a)).filter (fun p => !g p) = T.ip (F.key a) :=
        List.filter_eq_self.mpr fun p hp => by simpa using List.find?_eq_none.mp hf p hp
      simp [hall, withIp]
    | some p =>
      have hp := List.mem_of_find?_eq_some hf
      have hg := List.find?_some hf
      set l := (T.ip (F.key a)).erase p with hl
      have hlen : l.length + 1 = (T.ip (F.key a)).length := by
        rw [hl, List.length_erase_of_mem hp]
        have := List.length_pos_of_mem hp
        omega
      have ht' : Tests F (T.withIp (F.key a) l) a g :=
        ⟨ht.1, fun q hq => ht.2 q (List.mem_of_mem_erase (by simpa [withIp] using hq))⟩
      have hn' : ((T.withIp (F.key a) l).ip (F.key a)).length < n := by
        simp only [withIp, Function.update_self]
        omega
      have hrest := ih (T.withIp (F.key a) l) (h.shrink List.erase_sublist) ht' hn'
      have hfilter : l.filter (fun p => !g p) = (T.ip (F.key a)).filter fun p => !g p :=
        filter_erase_of_neg (by simp [hg])
      simp only [Option.bind_eq_bind, Option.bind_some, itemDeleteIphash_found h ht hp hg]
      rw [hrest]
      simp [withIp, hfilter]

theorem itemInsertIpHash_eq (h : Hashed F T) (hi : T.item p = some i) (ht : Tests F T i.ip_addr g)
    (hp : ∀ j, p ∉ T.ip j) : T.itemInsertIpHash F p =
      some (T.withIp (F.key i.ip_addr) (p :: (T.ip (F.key i.ip_addr)).filter fun p => !g p)) := by
  have hclear := clearIp_eq (T.rounds F i.ip_addr) T h ht (Nat.lt_succ_self _)
  have hlinked : (T.withIp (F.key i.ip_addr)
      ((T.ip (F.key i.ip_addr)).filter fun p => !g p)).ipLinked p = false := by
    rw [Bool.eq_false_iff, Ne, (h.shrink List.filter_sublist).ipLinked]
    rintro ⟨j, hj⟩
    by_cases hk : j = F.key i.ip_addr
    · subst hk
      have hj' : p ∈ T.ip (F.key i.ip_addr) ∧ g p = false := by simpa [withIp] using hj
      exact hp _ hj'.1
    · exact hp j (by simpa [withIp, hk] using hj)
  simp [itemInsertIpHash, hi, ht.1, hclear, hlinked]
  simp [withIp]

end

end Tbl

end Snooping
end DaemonGroup
