import DaemonGroup.Snooping.Bindings

/-!
# DaemonGroup.Snooping.Ageing

Which bindings a pass of `dhcp_snp_aging_mechanism` removes, and which it is to remove.

* `Leased i t lease` — the item was given a lease of `lease` seconds when the system was up for `t`.
* `Aged` — what the pass does to the tables, when it has come to the items of a list.
* `AgesExactly` — the pass removes the dynamic bindings whose lease has run out, and no others.
-/

namespace DaemonGroup
namespace Snooping

open Lib Buckets

/-- The lease time that never runs out. -/
def INFINITE_LEASE : UInt32 := 0xffffffff

/-- The item was filled for a lease that began at `t`. A client that announces its address keeps the lease. -/
inductive Leased : Item UInt32 → UInt32 → UInt32 → Prop
  | insert {user : User UInt32} {t time : UInt32} : Leased (fillItem t time user) t user.lease_time
  | ack {user : User UInt32} {i : Item UInt32} {t time : UInt32} : Leased (fillBind t time user i) t user.lease_time
  | keep {user : User UInt32} {i : Item UInt32} {t lease uptime time : UInt32} : Leased i t lease →
      user.lease_time = NPD_DHCP_SNP_REQUEST_TIMEOUT → Leased (fillBind uptime time user i) t lease

/-- The lease of `lease` seconds from `t` on is over. -/
def RunOut (uptime t lease : UInt32) : Prop := lease ≠ INFINITE_LEASE ∧ t.toNat + lease.toNat < uptime.toNat

/-- The expiry in the item and the lease agree on whether it is over. -/
def Timely (i : Item UInt32) (uptime t lease : UInt32) : Prop :=
  if lease = NPD_DHCP_SNP_REQUEST_TIMEOUT then i.cur_expire < uptime ↔ RunOut uptime t lease
  else (lease ≠ INFINITE_LEASE ∧ t.toNat + lease.toNat < 2 ^ 32) ∨ uptime ≤ t + lease

section
variable {i : Item UInt32} {t lease uptime : UInt32}

/-- A lease time that is not taken for the timeout of a request is in the expiry. -/
theorem Leased.cur_expire (h : Leased i t lease) (hne : lease ≠ NPD_DHCP_SNP_REQUEST_TIMEOUT) :
    i.cur_expire = t + lease := by
  induction h with
  | insert => rfl
  | ack =>
    rw [fillBind, if_pos hne.symm]
  | keep _ hmark ih =>
    rw [fillBind, if_neg (not_not.mpr hmark.symm)]
    exact ih hne

theorem Leased.timely_iff (h : Leased i t lease) : Timely i uptime t lease ↔
    (i.cur_expire < uptime ↔ RunOut uptime t lease) := by
  by_cases hmark : lease = NPD_DHCP_SNP_REQUEST_TIMEOUT
  · rw [Timely, if_pos hmark]
  rw [Timely, if_neg hmark, h.cur_expire hmark, UInt32.lt_iff_toNat_lt, UInt32.le_iff_toNat_le, UInt32.toNat_add, RunOut]
  have ht := t.toNat_lt
  have hl := lease.toNat_lt
  have hu := uptime.toNat_lt
  by_cases hinf : lease = INFINITE_LEASE
  · simp only [hinf, ne_eq, not_true_eq_false, false_and, false_or, iff_false, not_lt]
  · simp only [ne_eq, hinf, not_false_eq_true, true_and]
    omega

end

namespace Tbl

/-- The pass takes the item for expired. -/
def expired (ans : Answers) (T : Tbl UInt32) (p : Nat) : Bool :=
  (T.item p).any fun i => i.bind_type = .DYNAMIC ∧ i.cur_expire < ans.uptime

/-- The pass ends at the item: it is expired and its interface is gone. -/
def gone (ans : Answers) (T : Tbl UInt32) (p : Nat) : Bool :=
  T.expired ans p && (T.item p).any (fun i => i.ip_addr ≠ 0 ∧ i.special) && !ans.ifname p

/-- The tables without the expired items of the list, and otherwise the same. -/
structure Aged (ans : Answers) (l : List Nat) (T T' : Tbl UInt32) : Prop where
  kept : KeptBut none T'
  mac : ∀ k, T'.mac k = (T.mac k).filter fun q => !(decide (q ∈ l) && T.expired ans q)
  item : ∀ q, ¬ (q ∈ l ∧ T.expired ans q = true) → T'.item q = T.item q

section
variable {ans : Answers} {T T' : Tbl UInt32} {p q : Nat} {l : List Nat}

theorem Aged.nil (h : KeptBut none T) : Aged ans [] T T :=
  ⟨h, fun k => (List.filter_eq_self.mpr fun q _ => by simp).symm, fun _ _ => rfl⟩

theorem expired_congr (h : T'.item q = T.item q) : T'.expired ans q = T.expired ans q := by
  rw [expired, expired, h]

theorem gone_congr (h : T'.item q = T.item q) : T'.gone ans q = T.gone ans q := by
  rw [gone, gone, expired_congr h, h]

/-- An expired item has been removed before the items of the list. -/
theorem Aged.cons_expired {T₁ : Tbl UInt32} (hk : KeptBut none T) (hp : T.expired ans p = true) (hpl : p ∉ l)
    (hw : Without p T T₁) (h : Aged ans l T₁ T') : Aged ans (p :: l) T T' := by
  refine ⟨h.kept, fun k => ?_, fun q hq => ?_⟩
  · rw [h.mac k, hw.mac k, (hk.macNodup k).erase_eq_filter, List.filter_filter]
    refine List.filter_congr fun q _ => ?_
    by_cases hqp : q = p
    · subst hqp
      simp [hp]
    · simp [expired_congr (hw.item q hqp), hqp]
  · have hqp : q ≠ p := by
      rintro rfl
      exact hq ⟨by simp, hp⟩
    rw [h.item q, hw.item q hqp]
    rintro ⟨hql, he⟩
    rw [expired_congr (hw.item q hqp)] at he
    exact hq ⟨by simp [hql], he⟩

/-- An item that is not expired stays. -/
theorem Aged.cons_fresh (hp : T.expired ans p = false) (h : Aged ans l T T') : Aged ans (p :: l) T T' := by
  refine ⟨h.kept, fun k => ?_, fun q hq => h.item q fun hql => hq ⟨by simp [hql.1], hql.2⟩⟩
  rw [h.mac k]
  refine List.filter_congr fun q _ => ?_
  by_cases hqp : q = p
  · subst hqp
    simp [hp]
  · simp [hqp]

theorem expired_iff {i : Item UInt32} (hi : T.item p = some i) :
    T.expired ans p = true ↔ i.bind_type = .DYNAMIC ∧ i.cur_expire < ans.uptime := by
  simp [expired, hi]

theorem gone_iff {i : Item UInt32} (hi : T.item p = some i) : T.gone ans p = true ↔
    (i.bind_type = .DYNAMIC ∧ i.cur_expire < ans.uptime) ∧ i.ip_addr ≠ 0 ∧ i.special ∧ ans.ifname p = false := by
  rw [gone, Bool.and_eq_true, Bool.and_eq_true, expired_iff hi, hi, Option.any_some, decide_eq_true_eq,
    Bool.not_eq_true']
  simp only [and_assoc]

theorem takeWhile_congr {f g : Nat → Bool} (h : ∀ q ∈ l, f q = g q) : l.takeWhile f = l.takeWhile g := by
  induction l with
  | nil => rfl
  | cons p l ih =>
    rw [List.takeWhile_cons, List.takeWhile_cons, h p (by simp), ih fun q hq => h q (by simp [hq])]

/-- The items of a list, up to the one at which the pass ends. -/
theorem agingChain_aged (l : List Nat) : ∀ T : Tbl UInt32, KeptBut none T → l.Nodup → (∀ q ∈ l, Mem T.mac q) →
    ∃ T', agingChain ans l T = some (T', l.all fun q => !T.gone ans q) ∧
      Aged ans (l.takeWhile fun q => !T.gone ans q) T T' := by
  induction l with
  | nil => exact fun T h _ _ => ⟨T, rfl, .nil h⟩
  | cons p l ih =>
    intro T h hn hl
    have hp := hl p (by simp)
    obtain ⟨i, hi, -⟩ := h.live hp
    obtain ⟨hpl, hn⟩ := List.nodup_cons.mp hn
    by_cases hgone : T.gone ans p = true
    · obtain ⟨hexp, hname⟩ := (gone_iff hi).mp hgone
      exact ⟨T, by simp [agingChain, hi, hexp, hname, hgone], by simpa [hgone] using Aged.nil h⟩
    have hgo : T.gone ans p = false := Bool.eq_false_iff.mpr hgone
    rw [List.all_cons, List.takeWhile_cons, hgo, Bool.not_false, Bool.true_and, if_pos rfl]
    by_cases hexp : i.bind_type = .DYNAMIC ∧ i.cur_expire < ans.uptime
    · have hname : ¬ (i.ip_addr ≠ 0 ∧ i.special ∧ ¬ ans.ifname p = true) := by
        rw [Bool.not_eq_true]
        exact fun hname => hgone ((gone_iff hi).mpr ⟨hexp, hname⟩)
      obtain ⟨T₁, h₁, hw⟩ := itemDelete_spec h hp (ans.db_delete p)
      have hother : ∀ q ∈ l, q ≠ p := by
        rintro q hq rfl
        exact hpl hq
      have hsame : ∀ q ∈ l, T₁.gone ans q = T.gone ans q := fun q hq => gone_congr (hw.item q (hother q hq))
      obtain ⟨T', hr, haged⟩ := ih T₁ (h.without hw) hn fun q hq =>
        (hw.mem_mac h).mpr ⟨hl q (by simp [hq]), hother q hq⟩
      have hall : (l.all fun q => !T₁.gone ans q) = l.all fun q => !T.gone ans q := by
        rw [Bool.eq_iff_iff, List.all_eq_true, List.all_eq_true]
        exact forall₂_congr fun q hq => by rw [hsame q hq]
      have htake : (l.takeWhile fun q => !T₁.gone ans q) = l.takeWhile fun q => !T.gone ans q :=
        takeWhile_congr fun q hq => by rw [hsame q hq]
      rw [hall] at hr
      rw [htake] at haged
      refine ⟨T', ?_, haged.cons_expired h ((expired_iff hi).mpr hexp) (fun hmem => hpl ?_) hw⟩
      · rw [agingChain, hi]
        simp only [Option.bind_eq_bind, Option.bind_some, if_pos hexp, if_neg hname, h₁, hr]
      · exact (List.takeWhile_sublist _).subset hmem
    · obtain ⟨T', hr, haged⟩ := ih T h hn fun q hq => hl q (by simp [hq])
      refine ⟨T', ?_, haged.cons_fresh (Bool.eq_false_iff.mpr fun he => hexp ((expired_iff hi).mp he))⟩
      rw [agingChain, hi]
      simp only [Option.bind_eq_bind, Option.bind_some, if_neg hexp, hr]

theorem agingChain_append (l m : List Nat) : ∀ T : Tbl UInt32, agingChain ans (l ++ m) T = (do
    let r ← agingChain ans l T
    if r.2 then agingChain ans m r.1 else some r) := by
  induction l with
  | nil => exact fun T => rfl
  | cons p l ih =>
    intro T
    rw [List.cons_append, agingChain, agingChain]
    cases T.item p with
    | none => rfl
    | some i =>
      simp only [Option.bind_eq_bind, Option.bind_some]
      by_cases hexp : i.bind_type = .DYNAMIC ∧ i.cur_expire < ans.uptime
      · rw [if_pos hexp, if_pos hexp]
        by_cases hname : i.ip_addr ≠ 0 ∧ i.special ∧ ¬ ans.ifname p = true
        · rw [if_pos hname, if_pos hname]
          rfl
        · rw [if_neg hname, if_neg hname]
          cases T.itemDelete v4 p (ans.db_delete p) with
          | none => rfl
          | some T₁ => exact ih T₁
      · rw [if_neg hexp, if_neg hexp]
        exact ih T

/-- The items in the order of the pass. -/
def order (T : Tbl UInt32) : List Nat := (List.range NPD_DHCP_SNP_HASH_TABLE_SIZE).flatMap T.mac

theorem mem_order (h : KeptBut none T) : p ∈ T.order ↔ Mem T.mac p := by
  rw [order, List.mem_flatMap]
  constructor
  · rintro ⟨k, -, hk⟩
    exact ⟨k, hk⟩
  · intro hp
    obtain ⟨i, -, hk⟩ := h.live hp
    exact ⟨_, List.mem_range.mpr (Nat.mod_lt _ (by decide)), hk⟩

theorem disjoint_chains (h : KeptBut none T) {j k : Nat} (hj : p ∈ T.mac j) (hk : p ∈ T.mac k) : j = k := by
  obtain ⟨i, hi, rfl⟩ := h.macHome j p hj
  obtain ⟨i', hi', rfl⟩ := h.macHome k p hk
  rw [hi] at hi'
  rw [Option.some.inj hi']

/-- The chains one after the other are one list: what is removed from a chain is in no other. -/
theorem agingChains_eq (ks : List Nat) (S : Nat → List Nat) : ∀ T : Tbl UInt32, KeptBut none T → ks.Nodup →
    (∀ k ∈ ks, T.mac k = S k) → agingChains ans ks T = (agingChain ans (ks.flatMap S) T).map (·.1) := by
  induction ks with
  | nil => exact fun T _ _ _ => rfl
  | cons k ks ih =>
    intro T h hn hS
    obtain ⟨hk, hn⟩ := List.nodup_cons.mp hn
    obtain ⟨T₁, h₁, haged⟩ := @agingChain_aged ans (T.mac k) T h (h.macNodup k) fun q hq => ⟨k, hq⟩
    rw [agingChains, List.flatMap_cons, agingChain_append, ← hS k (by simp), h₁]
    simp only [Option.bind_eq_bind, Option.bind_some]
    by_cases hgo : ((T.mac k).all fun q => !T.gone ans q) = true
    · rw [if_pos hgo, if_pos hgo]
      refine ih T₁ haged.kept hn fun j hj => ?_
      rw [haged.mac j, ← hS j (by simp [hj])]
      refine List.filter_eq_self.mpr fun q hq => ?_
      have hout : q ∉ (T.mac k).takeWhile fun q => !T.gone ans q := by
        intro hmem
        have hqk : q ∈ T.mac k := (List.takeWhile_sublist _).subset hmem
        exact hk (disjoint_chains h hqk hq ▸ hj)
      simp [hout]
    · rw [if_neg hgo, if_neg hgo]
      rfl

theorem order_nodup (h : KeptBut none T) : T.order.Nodup := by
  refine List.nodup_flatMap.mpr ⟨fun k _ => h.macNodup k, ?_⟩
  exact List.nodup_range.imp fun hne q hj hk => hne (disjoint_chains h hj hk)

/-- What a pass does. -/
theorem agingMechanism_aged (h : KeptBut none T) : ∃ T', T.agingMechanism ans = some T' ∧
    Aged ans (T.order.takeWhile fun q => !T.gone ans q) T T' := by
  obtain ⟨T', hT', haged⟩ := @agingChain_aged ans T.order T h (order_nodup h) fun q hq => (mem_order h).mp hq
  refine ⟨T', ?_, haged⟩
  rw [agingMechanism, agingChains_eq _ T.mac T h List.nodup_range fun _ _ => rfl, ← order, hT']
  rfl

/-- The pass removes the dynamic bindings whose lease has run out, and no others; it changes none that stays. -/
def AgesExactly (ans : Answers) (T : Tbl UInt32) (lease : Nat → UInt32 × UInt32) : Prop :=
  ∃ T', T.agingMechanism ans = some T' ∧
    (∀ p i, Mem T.mac p → T.item p = some i → (¬ Mem T'.mac p ↔
      i.bind_type = .DYNAMIC ∧ RunOut ans.uptime (lease p).1 (lease p).2)) ∧
    ∀ p, Mem T'.mac p → Mem T.mac p ∧ T'.item p = T.item p

/-- Up to the first expired binding whose interface is gone the expiries agree with the leases, and from there on
no lease has run out. -/
def ExpiriesHold (ans : Answers) (T : Tbl UInt32) (lease : Nat → UInt32 × UInt32) : Prop :=
  (∀ p ∈ T.order.takeWhile fun q => !T.gone ans q, ∀ i, T.item p = some i → i.bind_type = .DYNAMIC →
    Timely i ans.uptime (lease p).1 (lease p).2) ∧
  ∀ p ∈ T.order.dropWhile fun q => !T.gone ans q, ∀ i, T.item p = some i → i.bind_type = .DYNAMIC →
    ¬ RunOut ans.uptime (lease p).1 (lease p).2

theorem Aged.mem_mac (h : Aged ans l T T') : Mem T'.mac p ↔ Mem T.mac p ∧ ¬ (p ∈ l ∧ T.expired ans p = true) := by
  have hstays : (!(decide (p ∈ l) && T.expired ans p)) = true ↔ ¬ (p ∈ l ∧ T.expired ans p = true) := by
    rw [Bool.not_eq_true', Bool.eq_false_iff, Ne, Bool.and_eq_true, decide_eq_true_eq]
  constructor
  · rintro ⟨k, hk⟩
    rw [h.mac k, List.mem_filter] at hk
    exact ⟨⟨k, hk.1⟩, hstays.mp hk.2⟩
  · rintro ⟨⟨k, hk⟩, hstay⟩
    exact ⟨k, by rw [h.mac k, List.mem_filter]; exact ⟨hk, hstays.mpr hstay⟩⟩

theorem Aged.removed_iff {i : Item UInt32} (h : Aged ans l T T') (hp : Mem T.mac p) (hi : T.item p = some i) :
    ¬ Mem T'.mac p ↔ p ∈ l ∧ i.bind_type = .DYNAMIC ∧ i.cur_expire < ans.uptime := by
  rw [h.mem_mac, and_iff_right hp, not_not, expired_iff hi]

/-- When a pass removes what it is to remove. -/
theorem ages_exactly_iff {lease : Nat → UInt32 × UInt32} (h : KeptBut none T)
    (hlease : ∀ p i, Mem T.mac p → T.item p = some i → Leased i (lease p).1 (lease p).2) :
    AgesExactly ans T lease ↔ ExpiriesHold ans T lease := by
  obtain ⟨T', hT', haged⟩ := @agingMechanism_aged ans T h
  have hdrop : ∀ p ∈ T.order.dropWhile fun q => !T.gone ans q, p ∉ T.order.takeWhile fun q => !T.gone ans q := by
    intro p hp hp'
    have hsplit := order_nodup h
    rw [← List.takeWhile_append_dropWhile (p := fun q => !T.gone ans q) (l := T.order)] at hsplit
    exact (List.nodup_append.mp hsplit).2.2 p hp' p hp rfl
  constructor
  · rintro ⟨T'', hT'', hexact, -⟩
    obtain rfl := Option.some.inj (hT'.symm.trans hT'')
    refine ⟨fun p hp i hi hdyn => ?_, fun p hp i hi hdyn hrun => ?_⟩
    · have hmem := (mem_order h).mp ((List.takeWhile_sublist _).subset hp)
      rw [(hlease p i hmem hi).timely_iff]
      have hremoved := hexact p i hmem hi
      rw [haged.removed_iff hmem hi, and_iff_right hp, and_iff_right hdyn, and_iff_right hdyn] at hremoved
      exact hremoved
    · have hmem := (mem_order h).mp ((List.dropWhile_sublist _).subset hp)
      have hremoved := (hexact p i hmem hi).mpr ⟨hdyn, hrun⟩
      exact hdrop p hp ((haged.removed_iff hmem hi).mp hremoved).1
  · rintro ⟨hbefore, hafter⟩
    refine ⟨T', hT', fun p i hmem hi => ?_, fun p hp => ?_⟩
    · rw [haged.removed_iff hmem hi]
      have hwhere := (mem_order h).mpr hmem
      rw [← List.takeWhile_append_dropWhile (p := fun q => !T.gone ans q) (l := T.order), List.mem_append] at hwhere
      rcases hwhere with hin | hout
      · rw [and_iff_right hin]
        exact and_congr_right fun hdyn => (hlease p i hmem hi).timely_iff.mp (hbefore p hin i hi hdyn)
      · exact iff_of_false (fun hin => hdrop p hout hin.1) fun hrun => hafter p hout i hi hrun.1 hrun.2
    · obtain ⟨hmem, hstay⟩ := haged.mem_mac.mp hp
      exact ⟨hmem, haged.item p hstay⟩

end

def sampleMessage (op : UInt8) (lease : Option UInt32) : DhcpMessage :=
  { op := op, hlen := 6, chaddr := #v[0, 1, 2, 3, 4, 5], ciaddr := 0, yiaddr := 0x0a000001, lease := lease }

/-- A client asks at 10, and is given an address at 12. -/
def leasedAt12 (lease : UInt32) : Tbl UInt32 := ran
  [(.discover 5 7 (sampleMessage NPD_DHCP_BOOTREQUEST none), answersAt 10),
    (.ack 5 7 (sampleMessage NPD_DHCP_BOOTREPLY (some lease)) { no_arp := true, add_router := true }, answersAt 12)]

theorem keptBut_leasedAt12 (lease : UInt32) : KeptBut none (leasedAt12 lease) := keptBut_ran _

/-- The item of the client. -/
def itemAt12 (lease : UInt32) : Item UInt32 :=
  { bind_type := .DYNAMIC, state := .BOUND, haddr_len := 6, chaddr := #v[0, 1, 2, 3, 4, 5], vlanId := 5
    ip_addr := 0x0a000001, lease_time := lease, sys_escape := 0, cur_expire := 12 + lease, ifindex := 7 }

theorem leased_itemAt12 {lease : UInt32} (h : lease ≠ NPD_DHCP_SNP_REQUEST_TIMEOUT) : Leased (itemAt12 lease) 12 lease := by
  let user : User UInt32 :=
    { state := .BOUND, haddr_len := 6, chaddr := #v[0, 1, 2, 3, 4, 5], vlanId := 5, ip_addr := 0x0a000001
      lease_time := lease, ifindex := 7 }
  have hack := @Leased.ack user (itemAt12 lease) 12 0
  rw [fillBind, if_pos h.symm] at hack
  exact hack

theorem ages_exactly_hour : AgesExactly (answersAt 4000) (leasedAt12 3600) fun _ => (12, 3600) := by
  have hitem : (leasedAt12 3600).item 1 = some (itemAt12 3600) := by decide +kernel
  have horder : (leasedAt12 3600).order = [1] := by decide +kernel
  have htake : ((leasedAt12 3600).order.takeWhile fun q => !(leasedAt12 3600).gone (answersAt 4000) q) = [1] := by
    decide +kernel
  have hdrop : ((leasedAt12 3600).order.dropWhile fun q => !(leasedAt12 3600).gone (answersAt 4000) q) = [] := by
    decide +kernel
  refine (ages_exactly_iff (keptBut_leasedAt12 3600) fun p i hp hi => ?_).mpr ⟨fun p hp i hi _ => ?_, fun p hp => ?_⟩
  · have hmem := (mem_order (keptBut_leasedAt12 3600)).mpr hp
    obtain rfl : p = 1 := List.mem_singleton.mp (horder ▸ hmem)
    obtain rfl := Option.some.inj (hitem.symm.trans hi)
    exact leased_itemAt12 (by decide)
  · rw [htake] at hp
    obtain rfl := List.mem_singleton.mp hp
    rw [Timely, if_neg (by decide)]
    exact .inl (by decide)
  · rw [hdrop] at hp
    cases hp

/-- A lease without an end is over at once: the sum is below the uptime. -/
theorem infinite_lease_ages : ¬ AgesExactly (answersAt 100) (leasedAt12 INFINITE_LEASE) fun _ => (12, INFINITE_LEASE) := by
  rintro ⟨T', hT', hexact, -⟩
  have hitem : (leasedAt12 INFINITE_LEASE).item 1 = some (itemAt12 INFINITE_LEASE) := by decide +kernel
  have htake : ((leasedAt12 INFINITE_LEASE).order.takeWhile fun q =>
    !(leasedAt12 INFINITE_LEASE).gone (answersAt 100) q) = [1] := by decide +kernel
  obtain ⟨T'', hT'', haged⟩ := @agingMechanism_aged (answersAt 100) _ (keptBut_leasedAt12 _)
  obtain rfl := Option.some.inj (hT'.symm.trans hT'')
  have hmem : Mem (leasedAt12 INFINITE_LEASE).mac 1 := ⟨tblHash #v[0, 1, 2, 3, 4, 5], by decide +kernel⟩
  have hgone := (haged.removed_iff hmem hitem).mpr ⟨by rw [htake]; decide, by decide⟩
  exact ((hexact 1 _ hmem hitem).mp hgone).2.1 rfl

end Tbl

end Snooping
end DaemonGroup
