import DaemonGroup.Snooping.Packets
import DaemonGroup.Lib.Buckets
import DaemonGroup.Lib.Run

/-!
# DaemonGroup.Snooping.Bindings

The IPv4 binding tables in every run: there is one item for a MAC address and one for an IP address, items
are where they are looked for, bound clients are found by their addresses, nothing that was freed is in a
chain, and all loops end (`Op.bindings_sound`).

While one client is refreshed its item may be bound and out of the IP hash (`KeptBut`); at the end of each
operation there is no such item.
-/

namespace DaemonGroup
namespace Snooping

open Lib Buckets

namespace Tbl

/-- What the tables are to be. -/
structure Sound (T : Tbl UInt32) : Prop where
  mac : ∀ p q i j, Mem T.mac p → Mem T.mac q → T.item p = some i → T.item q = some j → i.chaddr = j.chaddr → p = q
  once : ∀ k, (T.mac k).Nodup ∧ (T.ip k).Nodup
  ip_mac : ∀ k p, p ∈ T.ip k → Mem T.mac p ∧ ∃ i, T.item p = some i ∧ v4.key i.ip_addr = k
  ip : ∀ p q i j, Mem T.ip p → Mem T.ip q → T.item p = some i → T.item q = some j → i.ip_addr = j.ip_addr → p = q
  bound : ∀ p i, Mem T.mac p → T.item p = some i → i.state = .BOUND →
    T.itemFindByIp v4 i.ip_addr = some (some p)
  freed : ∀ p, T.item p = none → ¬ Mem T.mac p ∧ ¬ Mem T.ip p

/-- The invariant; the item `x`, if there is one, may be bound without being in the IP hash. -/
structure KeptBut (x : Option Nat) (T : Tbl UInt32) : Prop where
  hashed : Hashed v4 T
  ipInj : ∀ p q i j, Mem T.ip p → Mem T.ip q → T.item p = some i → T.item q = some j → i.ip_addr = j.ip_addr → p = q
  macHome : ∀ k p, p ∈ T.mac k → ∃ i, T.item p = some i ∧ tblHash i.chaddr = k
  macNodup : ∀ k, (T.mac k).Nodup
  macInj : ∀ p q i j, Mem T.mac p → Mem T.mac q → T.item p = some i → T.item q = some j → i.chaddr = j.chaddr → p = q
  ipMac : ∀ p, Mem T.ip p → Mem T.mac p
  bound : ∀ p i, x ≠ some p → Mem T.mac p → T.item p = some i → i.state = .BOUND → Mem T.ip p

/-- No item in the IP hash has the address. -/
def Vacant (T : Tbl UInt32) (a : UInt32) : Prop := ∀ q j, Mem T.ip q → T.item q = some j → j.ip_addr ≠ a

/-- The tables are without the item and are otherwise the same. -/
structure Without (p : Nat) (T T' : Tbl UInt32) : Prop where
  hashed : Hashed v4 T'
  item : ∀ q, q ≠ p → T'.item q = T.item q
  mac : ∀ k, T'.mac k = (T.mac k).erase p
  ip : ∀ q k, q ≠ p → (q ∈ T'.ip k ↔ q ∈ T.ip k)
  out : ∀ k, p ∉ T'.ip k

section
variable {T T' : Tbl UInt32} {x : Option Nat} {p q : Nat} {i : Item UInt32} {a : UInt32}

/-! ## Searches -/

theorem KeptBut.live (h : KeptBut x T) (hp : Mem T.mac p) : ∃ i, T.item p = some i ∧ p ∈ T.mac (tblHash i.chaddr) := by
  obtain ⟨k, hk⟩ := hp
  obtain ⟨i, hi, rfl⟩ := h.macHome k p hk
  exact ⟨i, hi, hk⟩

/-- The test that the search for `a` makes. -/
def hasIp (T : Tbl UInt32) (a : UInt32) (q : Nat) : Bool := (T.item q).any fun j => j.ip_addr == a

theorem tests4 (ha : a ≠ 0) : Tests v4 T a (T.hasIp a) := by
  refine ⟨by simp [v4, ha], fun q _ j hj => ⟨by simp [v4, hasIp, hj], fun hq => ?_⟩⟩
  obtain rfl : j.ip_addr = a := by simpa [hasIp, hj] using hq
  simp [v4, ha]

theorem hasIp_iff : T.hasIp a q = true ↔ ∃ j, T.item q = some j ∧ j.ip_addr = a := by
  cases hj : T.item q <;> simp [hasIp, hj]

theorem mem_key (h : Hashed v4 T) (hq : Mem T.ip q) (hj : T.item q = some i) : q ∈ T.ip (v4.key i.ip_addr) := by
  obtain ⟨k, hk⟩ := hq
  obtain ⟨j, hj', -, rfl⟩ := h.home k q hk
  rw [hj] at hj'
  obtain rfl := Option.some.inj hj'
  exact hk

theorem itemFindByIp_spec (h : Hashed v4 T) (ha : a ≠ 0) : ∃ r, T.itemFindByIp v4 a = some r ∧
    (∀ q, r = some q → q ∈ T.ip (v4.key a) ∧ ∃ j, T.item q = some j ∧ j.ip_addr = a) ∧ (r = none → T.Vacant a) := by
  refine ⟨_, itemFindByIp_eq h (tests4 ha), fun q hq => ⟨List.mem_of_find?_eq_some hq, ?_⟩, fun hnone q j hq hj => ?_⟩
  · exact hasIp_iff.mp (List.find?_some hq)
  · rintro rfl
    exact List.find?_eq_none.mp hnone q (mem_key h hq hj) (hasIp_iff.mpr ⟨j, hj, rfl⟩)

theorem itemFindByIp_vacant (h : Hashed v4 T) (ha : a ≠ 0) (hv : T.Vacant a) : T.itemFindByIp v4 a = some none := by
  obtain ⟨r, hr, hsome, -⟩ := itemFindByIp_spec h ha
  cases r with
  | none => exact hr
  | some q =>
    obtain ⟨hq, j, hj, he⟩ := hsome q rfl
    exact absurd he (hv q j ⟨_, hq⟩ hj)

theorem itemFind_spec (h : KeptBut x T) (chaddr : Mac) : ∃ r, T.itemFind chaddr = some r ∧
    (∀ p, r = some p → Mem T.mac p ∧ ∃ i, T.item p = some i ∧ i.chaddr = chaddr) ∧
    (r = none → ∀ p i, Mem T.mac p → T.item p = some i → i.chaddr ≠ chaddr) := by
  have hfind := findM?_total (l := T.mac (tblHash chaddr))
    (g := fun p => (T.item p).any fun i => decide (i.chaddr = chaddr))
    (f := fun p => do let i ← T.item p; some (decide (i.chaddr = chaddr))) fun p hp => by
      obtain ⟨i, hi, -⟩ := h.macHome _ p hp
      simp [hi]
  refine ⟨_, hfind, fun p hp => ⟨⟨_, List.mem_of_find?_eq_some hp⟩, ?_⟩, fun hnone p i hp hi => ?_⟩
  · have hfound := List.find?_some hp
    cases hi : T.item p with
    | none => simp [hi] at hfound
    | some i => exact ⟨i, rfl, by simpa [hi] using hfound⟩
  · rintro rfl
    obtain ⟨j, hj, hk⟩ := h.live hp
    rw [hi] at hj
    obtain rfl := Option.some.inj hj
    exact List.find?_eq_none.mp hnone p hk (by simp [hi])

/-- The invariant gives what the tables are to be. -/
theorem KeptBut.sound (h : KeptBut none T) : T.Sound := by
  refine ⟨h.macInj, fun k => ⟨h.macNodup k, h.hashed.nodup k⟩, fun k p hp => ⟨h.ipMac p ⟨k, hp⟩, ?_⟩, h.ipInj,
    fun p i hp hi hb => ?_, fun p hp => ⟨?_, ?_⟩⟩
  · obtain ⟨i, hi, -, hk⟩ := h.hashed.home k p hp
    exact ⟨i, hi, hk⟩
  · have hmem := h.bound p i (by simp) hp hi hb
    have hne : i.ip_addr ≠ 0 := by
      obtain ⟨j, hj, he, -⟩ := h.hashed.home _ p (mem_key h.hashed hmem hi)
      rw [hi] at hj
      obtain rfl := Option.some.inj hj
      simpa [v4] using he
    obtain ⟨r, hr, hsome, hnone⟩ := itemFindByIp_spec h.hashed hne
    cases r with
    | none => exact absurd rfl (hnone rfl p i hmem hi)
    | some q =>
      obtain ⟨hq, j, hj, he⟩ := hsome q rfl
      rw [hr, h.ipInj q p j i ⟨_, hq⟩ hmem hj hi he]
  · intro hmem
    obtain ⟨i, hi, -⟩ := h.live hmem
    rw [hp] at hi
    cases hi
  · rintro ⟨k, hk⟩
    obtain ⟨i, hi⟩ := h.hashed.live p hk
    rw [hp] at hi
    cases hi

theorem keptBut_empty : KeptBut none (empty : Tbl UInt32) := by
  have hashed : Hashed v4 (empty : Tbl UInt32) :=
    ⟨fun _ _ hp => absurd hp List.not_mem_nil, fun _ => List.nodup_nil⟩
  refine ⟨hashed, fun _ _ _ _ hp => ?_, fun _ _ hp => absurd hp List.not_mem_nil, fun _ => List.nodup_nil,
    fun _ _ _ _ hp => ?_, fun _ hp => ?_, fun _ _ _ hp => ?_⟩ <;> exact absurd hp not_mem_empty

/-! ## One item goes -/

theorem Without.mem_mac (h : Without p T T') (hk : KeptBut x T) : Mem T'.mac q ↔ Mem T.mac q ∧ q ≠ p := by
  constructor
  · rintro ⟨k, hq⟩
    rw [h.mac k, (hk.macNodup k).mem_erase_iff] at hq
    exact ⟨⟨k, hq.2⟩, hq.1⟩
  · rintro ⟨⟨k, hq⟩, hne⟩
    exact ⟨k, by rw [h.mac k, (hk.macNodup k).mem_erase_iff]; exact ⟨hne, hq⟩⟩

theorem Without.mem_ip (h : Without p T T') : Mem T'.ip q ↔ Mem T.ip q ∧ q ≠ p := by
  constructor
  · rintro ⟨k, hq⟩
    have hne : q ≠ p := by
      rintro rfl
      exact h.out k hq
    exact ⟨⟨k, (h.ip q k hne).mp hq⟩, hne⟩
  · rintro ⟨⟨k, hq⟩, hne⟩
    exact ⟨k, (h.ip q k hne).mpr hq⟩

theorem KeptBut.without (h : KeptBut x T) (hw : Without p T T') : KeptBut x T' := by
  refine ⟨hw.hashed, fun q r i j hq hr hi hj he => ?_, fun k q hq => ?_, fun k => ?_,
    fun q r i j hq hr hi hj he => ?_, fun q hq => ?_, fun q i hx hq hi hb => ?_⟩
  · rw [hw.mem_ip] at hq hr
    rw [hw.item q hq.2] at hi
    rw [hw.item r hr.2] at hj
    exact h.ipInj q r i j hq.1 hr.1 hi hj he
  · rw [hw.mac k, (h.macNodup k).mem_erase_iff] at hq
    rw [hw.item q hq.1]
    exact h.macHome k q hq.2
  · rw [hw.mac k]
    exact (h.macNodup k).erase p
  · rw [hw.mem_mac h] at hq hr
    rw [hw.item q hq.2] at hi
    rw [hw.item r hr.2] at hj
    exact h.macInj q r i j hq.1 hr.1 hi hj he
  · rw [hw.mem_ip] at hq
    exact (hw.mem_mac h).mpr ⟨h.ipMac q hq.1, hq.2⟩
  · rw [hw.mem_mac h] at hq
    rw [hw.item q hq.2] at hi
    exact hw.mem_ip.mpr ⟨h.bound q i hx hq.1 hi hb, hq.2⟩

/-- The deletion of an item, whatever the database says. -/
theorem itemDelete_spec (h : KeptBut x T) (hp : Mem T.mac p) (db : Bool) :
    ∃ T', T.itemDelete v4 p db = some T' ∧ Without p T T' := by
  obtain ⟨i, hi, hmac⟩ := h.live hp
  obtain ⟨T₁, h₁, hh₁, hitem₁, hmac₁, hout₁, hip₁⟩ := unhook (b := i.ip_addr == 0) h.hashed hi rfl
  have hlive : ∀ q ∈ T₁.mac (tblHash i.chaddr), ∃ j, T₁.item q = some j := by
    intro q hq
    rw [hmac₁] at hq
    obtain ⟨j, hj, -⟩ := h.macHome _ q hq
    exact ⟨j, by rw [hitem₁, hj]⟩
  have hmem : p ∈ T₁.mac (tblHash i.chaddr) := by rw [hmac₁]; exact hmac
  have hitem : ∀ q, q ≠ p → (if db then Function.update T₁.item p none else T₁.item) q = T.item q := by
    intro q hq
    cases db <;> simp [hq, hitem₁]
  refine ⟨{ T₁ with
    mac := Function.update T₁.mac (tblHash i.chaddr) ((T₁.mac (tblHash i.chaddr)).erase p)
    item := if db then Function.update T₁.item p none else T₁.item }, ?_, ?_, hitem, fun k => ?_, hip₁, hout₁⟩
  · simp [itemDelete, hi, h₁, unlink_eq hlive, hmem]
  · refine hh₁.frame rfl fun k q j hq hj => ⟨j, ?_, rfl⟩
    have hne : q ≠ p := by
      rintro rfl
      exact hout₁ k hq
    exact (hitem q hne).trans (by rw [← hitem₁, hj])
  · by_cases hk : k = tblHash i.chaddr
    · subst hk
      simp [hmac₁]
    · have hnot : p ∉ T.mac k := by
        intro hpk
        obtain ⟨j, hj, hjk⟩ := h.macHome k p hpk
        rw [hi] at hj
        obtain rfl := Option.some.inj hj
        exact hk hjk.symm
      simp [hk, hmac₁, List.erase_of_not_mem hnot]

theorem KeptBut.weaken (h : KeptBut none T) : KeptBut x T :=
  ⟨h.hashed, h.ipInj, h.macHome, h.macNodup, h.macInj, h.ipMac, fun p i _ => h.bound p i (by simp)⟩

/-- One item leaves the IP hash and stays in the other table. -/
theorem KeptBut.unhooked (h : KeptBut (some p) T) (hh : Hashed v4 T') (hitem : T'.item = T.item)
    (hmac : T'.mac = T.mac) (hout : ∀ k, p ∉ T'.ip k) (hip : ∀ q k, q ≠ p → (q ∈ T'.ip k ↔ q ∈ T.ip k)) :
    KeptBut (some p) T' := by
  have hmem : ∀ q, Mem T'.ip q → Mem T.ip q ∧ q ≠ p := by
    rintro q ⟨k, hq⟩
    have hne : q ≠ p := by
      rintro rfl
      exact hout k hq
    exact ⟨⟨k, (hip q k hne).mp hq⟩, hne⟩
  refine ⟨hh, fun q r i j hq hr hi hj he => ?_, ?_, ?_, ?_, fun q hq => ?_, fun q i hx hq hi hb => ?_⟩
  · rw [hitem] at hi hj
    exact h.ipInj q r i j (hmem q hq).1 (hmem r hr).1 hi hj he
  · rw [hitem, hmac]
    exact h.macHome
  · rw [hmac]
    exact h.macNodup
  · rw [hitem, hmac]
    exact h.macInj
  · rw [hmac]
    exact h.ipMac q (hmem q hq).1
  · rw [hmac] at hq
    rw [hitem] at hi
    obtain ⟨k, hk⟩ := h.bound q i hx hq hi hb
    have hne : q ≠ p := fun he => hx (by rw [he])
    exact ⟨k, (hip q k hne).mpr hk⟩

/-! ## The refresh of a client -/

/-- The item is what it was, and is where it was. -/
def SameAt (q : Nat) (T T' : Tbl UInt32) : Prop :=
  T'.item q = T.item q ∧ (∀ k, q ∈ T'.mac k ↔ q ∈ T.mac k) ∧ ∀ k, q ∈ T'.ip k ↔ q ∈ T.ip k

theorem SameAt.refl : SameAt q T T := ⟨rfl, fun _ => Iff.rfl, fun _ => Iff.rfl⟩

theorem SameAt.trans {T₁ : Tbl UInt32} (h : SameAt q T T₁) (h' : SameAt q T₁ T') : SameAt q T T' :=
  ⟨h'.1.trans h.1, fun k => (h'.2.1 k).trans (h.2.1 k), fun k => (h'.2.2 k).trans (h.2.2 k)⟩

theorem SameAt.mem_mac (h : SameAt q T T') : Mem T'.mac q ↔ Mem T.mac q := exists_congr h.2.1

theorem Without.sameAt (h : Without p T T') (hq : q ≠ p) : SameAt q T T' :=
  ⟨h.item q hq, fun k => by rw [h.mac k, List.mem_erase_of_ne hq], fun k => h.ip q k hq⟩

/-- The item is of another client, and is found by the address. -/
def Holder (T : Tbl UInt32) (user : User UInt32) (q : Nat) : Prop :=
  Mem T.ip q ∧ ∃ j, T.item q = some j ∧ j.ip_addr = user.ip_addr ∧ j.chaddr ≠ user.chaddr

/-- The route to the client that has the address cannot be taken away: the interface has no name. -/
def Barred (ans : Answers) (node : Listener) (T : Tbl UInt32) (user : User UInt32) : Prop :=
  ∃ q j, Holder T user q ∧ T.item q = some j ∧ node.add_router = true ∧ j.special ∧ ans.ifname q = false

/-- Nobody has the address any more; the item `p` of the client may have left the IP hash. -/
structure Cleared (user : User UInt32) (p : Nat) (T T' : Tbl UInt32) : Prop where
  kept : KeptBut (some p) T'
  vacant : T'.Vacant user.ip_addr
  item : T'.item p = T.item p
  mac : ∀ k, p ∈ T'.mac k ↔ p ∈ T.mac k
  same : ∀ q, q ≠ p → ¬ Holder T user q → SameAt q T T'
  gone : ∀ q, Holder T user q → ¬ Mem T'.mac q ∧ ¬ Mem T'.ip q

/-- Who is found by the address: nobody, the client itself, or one other client. In each case nobody is found when
the item has been dealt with. -/
theorem conflict_cases {user : User UInt32} (h : KeptBut none T) (hp : Mem T.mac p) (hi : T.item p = some i)
    (hc : i.chaddr = user.chaddr) (ha : user.ip_addr ≠ 0) :
    (T.itemFindByIp v4 user.ip_addr = some none ∧ (∀ q, ¬ Holder T user q) ∧ Cleared user p T T) ∨
    (∃ j T₁, T.itemFindByIp v4 user.ip_addr = some (some p) ∧ T.item p = some j ∧ j.chaddr = user.chaddr ∧
      T.itemDeleteIphash v4 p = some T₁ ∧ T₁.itemFindByIp v4 user.ip_addr = some none ∧
      (∀ q, ¬ Holder T user q) ∧ Cleared user p T T₁) ∨
    (∃ q j, T.itemFindByIp v4 user.ip_addr = some (some q) ∧ T.item q = some j ∧ j.chaddr ≠ user.chaddr ∧
      Holder T user q ∧ (∀ s, Holder T user s → s = q) ∧ ∀ db, ∃ T₁, T.itemDelete v4 q db = some T₁ ∧
        T₁.itemFindByIp v4 user.ip_addr = some none ∧ Cleared user p T T₁) := by
  obtain ⟨r, hr, hsome, hnone⟩ := itemFindByIp_spec h.hashed ha
  cases r with
  | none =>
    have hvacant := hnone rfl
    have hno : ∀ q, ¬ Holder T user q := by
      rintro q ⟨hq, j, hj, he, -⟩
      exact hvacant q j hq hj he
    exact .inl ⟨hr, hno, h.weaken, hvacant, rfl, fun _ => Iff.rfl, fun _ _ _ => .refl, fun q hq => absurd hq (hno q)⟩
  | some q =>
    obtain ⟨hq, j, hj, hja⟩ := hsome q rfl
    -- who has the address is the item that was found
    have honly : ∀ s, Holder T user s → s = q := by
      rintro s ⟨hs, js, hjs, he, -⟩
      exact h.ipInj s q js j hs ⟨_, hq⟩ hjs hj (he.trans hja.symm)
    by_cases hcj : j.chaddr = user.chaddr
    · -- it is the client itself
      obtain rfl : q = p := h.macInj q p j i (h.ipMac q ⟨_, hq⟩) hp hj hi (hcj.trans hc.symm)
      have hno : ∀ s, ¬ Holder T user s := by
        intro s hs
        obtain rfl := honly s hs
        obtain ⟨-, js, hjs, -, hne⟩ := hs
        rw [hj] at hjs
        obtain rfl := Option.some.inj hjs
        exact hne hcj
      have hne : v4.empty j.ip_addr = some false := by simp [v4, hja, ha]
      obtain ⟨T₁, h₁, hh₁, hitem₁, hmac₁, hout₁, hip₁⟩ := unhook h.hashed hj hne
      have hdelete : T.itemDeleteIphash v4 q = some T₁ := by simpa [unlessEmpty, hne] using h₁
      have hkept : KeptBut (some q) T₁ := h.weaken.unhooked hh₁ hitem₁ hmac₁ hout₁ hip₁
      have hvacant : T₁.Vacant user.ip_addr := by
        rintro s js ⟨k, hs⟩ hjs he
        have hsq : s ≠ q := by
          rintro rfl
          exact hout₁ k hs
        rw [hitem₁] at hjs
        exact hsq (h.ipInj s q js j ⟨k, (hip₁ s k hsq).mp hs⟩ ⟨_, hq⟩ hjs hj (he.trans hja.symm))
      exact .inr (.inl ⟨j, T₁, hr, hj, hcj, hdelete, itemFindByIp_vacant hh₁ ha hvacant, hno, hkept, hvacant,
        by rw [hitem₁], fun k => by rw [hmac₁],
        fun s hs _ => ⟨by rw [hitem₁], fun k => by rw [hmac₁], fun k => hip₁ s k hs⟩, fun s hs => absurd hs (hno s)⟩)
    · have hholder : Holder T user q := ⟨⟨_, hq⟩, j, hj, hja, hcj⟩
      have hqp : q ≠ p := by
        rintro rfl
        rw [hi] at hj
        obtain rfl := Option.some.inj hj
        exact hcj hc
      refine .inr (.inr ⟨q, j, hr, hj, hcj, hholder, honly, fun db => ?_⟩)
      obtain ⟨T₁, h₁, hw⟩ := itemDelete_spec h (h.ipMac q ⟨_, hq⟩) db
      have hvacant : T₁.Vacant user.ip_addr := by
        intro s js hs hjs he
        rw [hw.mem_ip] at hs
        rw [hw.item s hs.2] at hjs
        exact hs.2 (h.ipInj s q js j hs.1 ⟨_, hq⟩ hjs hj (he.trans hja.symm))
      have hsame : ∀ s, s ≠ p → ¬ Holder T user s → SameAt s T T₁ := by
        intro s _ hs
        refine hw.sameAt ?_
        rintro rfl
        exact hs hholder
      refine ⟨T₁, h₁, itemFindByIp_vacant hw.hashed ha hvacant, (h.without hw).weaken, hvacant, hw.item p hqp.symm,
        (hw.sameAt hqp.symm).2.1, hsame, fun s hs => ?_⟩
      obtain rfl := honly s hs
      exact ⟨fun hmem => ((hw.mem_mac h).mp hmem).2 rfl, fun hmem => (hw.mem_ip.mp hmem).2 rfl⟩

/-- The loop has turns for what it finds. -/
theorem rounds_eq (h : Hashed v4 T) (ha : a ≠ 0) (hq : T.itemFindByIp v4 a = some (some q)) :
    ∃ n, T.rounds v4 a = n + 2 := by
  obtain ⟨r, hr, hsome, -⟩ := itemFindByIp_spec h ha
  obtain rfl := Option.some.inj (hr.symm.trans hq)
  have hpos := List.length_pos_of_mem (hsome q rfl).1
  exact ⟨(T.ip (v4.key a)).length - 1, by rw [rounds]; omega⟩

/-- One round of the loop is enough: then nobody has the address. -/
theorem conflictLoop_spec {ans : Answers} {node : Listener} {user : User UInt32} (h : KeptBut none T)
    (hp : Mem T.mac p) (hi : T.item p = some i) (hc : i.chaddr = user.chaddr) (ha : user.ip_addr ≠ 0) :
    ∃ r, conflictLoop ans node user (T.rounds v4 user.ip_addr) T = some r ∧
      (r.2 = false → r.1 = T ∧ Barred ans node T user) ∧
      (r.2 = true → Cleared user p T r.1 ∧ ¬ Barred ans node T user) := by
  obtain ⟨hr, hno, hcleared⟩ | ⟨j, T₁, hr, hj, hcj, h₁, hr₁, hno, hcleared⟩ |
    ⟨q, j, hr, hj, hcj, hholder, honly, hdelete⟩ := conflict_cases h hp hi hc ha
  · refine ⟨(T, true), by simp [rounds, conflictLoop, hr], by simp, fun _ => ⟨hcleared, ?_⟩⟩
    rintro ⟨q, -, hq, -⟩
    exact hno q hq
  · obtain ⟨n, hn⟩ := rounds_eq h.hashed ha hr
    refine ⟨(T₁, true), by simp [hn, conflictLoop, hr, hj, hcj, h₁, hr₁], by simp, fun _ => ⟨hcleared, ?_⟩⟩
    rintro ⟨q, -, hq, -⟩
    exact hno q hq
  · obtain ⟨n, hn⟩ := rounds_eq h.hashed ha hr
    by_cases hname : node.add_router = true ∧ j.special ∧ ans.ifname q = false
    · refine ⟨(T, false), ?_, fun _ => ⟨rfl, q, j, hholder, hj, hname⟩, by simp⟩
      simp [hn, conflictLoop, hr, hj, hcj, hname]
    · obtain ⟨T₁, h₁, hr₁, hcleared⟩ := hdelete (ans.db_delete q)
      refine ⟨(T₁, true), by simp [hn, conflictLoop, hr, hj, hcj, hname, h₁, hr₁], by simp,
        fun _ => ⟨hcleared, ?_⟩⟩
      rintro ⟨s, js, hs, hjs, hbar⟩
      obtain rfl := honly s hs
      rw [hj] at hjs
      obtain rfl := Option.some.inj hjs
      exact hname hbar

/-- An item that is out of the IP hash gets an address that nobody has, and goes into the chain of it. -/
theorem KeptBut.hooked {j : Item UInt32} (h : KeptBut (some p) T) (hi : T.item p = some i)
    (hv : T.Vacant j.ip_addr) (hc : j.chaddr = i.chaddr) (hp : Mem T.mac p) (hh : Hashed v4 T')
    (hmac : T'.mac = T.mac) (hitem : T'.item = Function.update T.item p (some j))
    (hip : ∀ q, Mem T'.ip q ↔ q = p ∨ Mem T.ip q) (hout : ∀ k, p ∉ T.ip k) : KeptBut none T' := by
  have hother : ∀ q i', Mem T.ip q → T'.item q = some i' → T.item q = some i' := by
    rintro q i' ⟨k, hq⟩ hi'
    have hne : q ≠ p := by
      rintro rfl
      exact hout k hq
    simpa [hitem, hne] using hi'
  have hself : ∀ i', T'.item p = some i' → i' = j := by
    intro i' hi'
    simpa [hitem, eq_comm] using hi'
  -- MAC addresses are the same as before
  have hchaddr : ∀ q i', T'.item q = some i' → ∃ i'', T.item q = some i'' ∧ i''.chaddr = i'.chaddr := by
    intro q i' hi'
    by_cases hq : q = p
    · subst hq
      rw [hself i' hi']
      exact ⟨i, hi, hc.symm⟩
    · exact ⟨i', by simpa [hitem, hq] using hi', rfl⟩
  refine ⟨hh, ?_, ?_, by rw [hmac]; exact h.macNodup, ?_, ?_, ?_⟩
  · intro q r i' j' hq hr hi' hj' he
    rw [hip] at hq hr
    rcases hq with rfl | hq <;> rcases hr with rfl | hr
    · rfl
    · rw [hself i' hi'] at he
      exact absurd he.symm (hv r j' hr (hother r j' hr hj'))
    · rw [hself j' hj'] at he
      exact absurd he (hv q i' hq (hother q i' hq hi'))
    · exact h.ipInj q r i' j' hq hr (hother q i' hq hi') (hother r j' hr hj') he
  · intro k q hq
    rw [hmac] at hq
    obtain ⟨i', hi', rfl⟩ := h.macHome k q hq
    by_cases hqp : q = p
    · subst hqp
      rw [hi] at hi'
      obtain rfl := Option.some.inj hi'
      exact ⟨j, by simp [hitem], by rw [hc]⟩
    · exact ⟨i', by simp [hitem, hqp, hi'], rfl⟩
  · intro q r i' j' hq hr hi' hj' he
    rw [hmac] at hq hr
    obtain ⟨i'', hi'', hci⟩ := hchaddr q i' hi'
    obtain ⟨j'', hj'', hcj⟩ := hchaddr r j' hj'
    exact h.macInj q r i'' j'' hq hr hi'' hj'' (by rw [hci, hcj, he])
  · intro q hq
    rw [hmac]
    rcases (hip q).mp hq with rfl | hq
    · exact hp
    · exact h.ipMac q hq
  · intro q i' _ hq hi' hb
    rw [hmac] at hq
    by_cases hqp : q = p
    · exact (hip q).mpr (.inl hqp)
    · have hi'' : T.item q = some i' := by simpa [hitem, hqp] using hi'
      exact (hip q).mpr (.inr (h.bound q i' (fun he => hqp (Option.some.inj he).symm) hq hi'' hb))

/-- The client is put where it is looked for. -/
theorem rebind_spec {ans : Answers} {user : User UInt32} (h : KeptBut (some p) T) (hp : Mem T.mac p)
    (hi : T.item p = some i) (ha : user.ip_addr ≠ 0) (hv : T.Vacant user.ip_addr) :
    ∃ T', T.rebind ans user p = some T' ∧ KeptBut none T' ∧
      T'.item p = some (fillBind ans.uptime ans.time user i) ∧ T'.mac = T.mac ∧ ∀ q, q ≠ p → SameAt q T T' := by
  obtain ⟨T₁, h₁, hh₁, hitem₁, hmac₁, hout₁, hip₁⟩ := unhook (b := i.ip_addr == 0) h.hashed hi rfl
  have hk₁ : KeptBut (some p) T₁ := h.unhooked hh₁ hitem₁ hmac₁ hout₁ hip₁
  have hi₁ : T₁.item p = some i := by rw [hitem₁, hi]
  have hmem₁ : ∀ q, Mem T₁.ip q → q ≠ p := by
    rintro q ⟨k, hq⟩ rfl
    exact hout₁ k hq
  have hv₁ : T₁.Vacant user.ip_addr := by
    rintro q j ⟨k, hq⟩ hj
    rw [hitem₁] at hj
    exact hv q j ⟨k, (hip₁ q k (hmem₁ q ⟨k, hq⟩)).mp hq⟩ hj
  obtain ⟨j, hj⟩ : ∃ j, j = fillBind ans.uptime ans.time user i := ⟨_, rfl⟩
  have hjip : j.ip_addr = user.ip_addr := by rw [hj, fillBind_ip_addr]
  have hjmac : j.chaddr = i.chaddr := by rw [hj, fillBind_chaddr]
  rw [← hjip] at ha hv₁
  obtain ⟨T₂, hT₂⟩ : ∃ T₂ : Tbl UInt32, T₂ = { T₁ with item := Function.update T₁.item p (some j) } := ⟨_, rfl⟩
  have hip₂ : T₂.ip = T₁.ip := by rw [hT₂]
  have hitem₂ : ∀ q, q ≠ p → T₂.item q = T₁.item q := fun q hq => by simp [hT₂, hq]
  have hh₂ : Hashed v4 T₂ := hh₁.frame hip₂ fun k q j' hq hj' =>
    ⟨j', by rw [hitem₂ q (hmem₁ q ⟨k, hq⟩), hj'], rfl⟩
  have hj₂ : T₂.item p = some j := by simp [hT₂]
  have hout₂ : ∀ k, p ∉ T₂.ip k := by rw [hip₂]; exact hout₁
  have hfilter : (T₂.ip (v4.key j.ip_addr)).filter (fun q => !T₂.hasIp j.ip_addr q) =
      T₂.ip (v4.key j.ip_addr) := by
    refine List.filter_eq_self.mpr fun q hq => ?_
    have hq' : Mem T₁.ip q := ⟨_, by rw [← hip₂]; exact hq⟩
    cases hhas : T₂.hasIp j.ip_addr q with
    | false => rfl
    | true =>
      obtain ⟨j', hj', he⟩ := hasIp_iff.mp hhas
      rw [hitem₂ q (hmem₁ q hq')] at hj'
      exact absurd he (hv₁ q j' hq' hj')
  have hinsert := itemInsertIpHash_eq hh₂ hj₂ (tests4 ha) hout₂
  rw [hfilter] at hinsert
  have hne : v4.empty j.ip_addr = some false := by simp [v4, ha]
  refine ⟨_, ?_, hk₁.hooked hi₁ hv₁ hjmac (by rw [hmac₁]; exact hp) (hh₂.put hj₂ hne hout₂) (by rw [hT₂]; rfl)
    (by rw [hT₂]; rfl) (fun q => ?_) hout₁, by rw [← hj]; exact hj₂, by rw [← hmac₁, hT₂]; rfl, fun q hq => ?_⟩
  · simp only [rebind, Option.bind_eq_bind, Option.bind_some, hi, h₁, hi₁, ← hj, ← hT₂]
    simpa [unlessEmpty, hne] using hinsert
  · rw [← hip₂]
    exact @Buckets.mem_insert _ _ _ v4.key (fun _ => j.ip_addr) _ _ _ _
  · refine ⟨(hitem₂ q hq).trans (by rw [hitem₁]), fun k => by rw [← hmac₁, hT₂]; rfl, fun k => ?_⟩
    rw [← hip₁ q k hq, ← hip₂]
    by_cases hk : k = v4.key j.ip_addr
    · subst hk
      simp [withIp, hq]
    · simp [withIp, hk]

/-- The refresh is given up before anything is done. -/
def Refused (ans : Answers) (node : Listener) (T : Tbl UInt32) (user : User UInt32) (p : Nat) (i : Item UInt32) : Prop :=
  u32ipCheck user.ip_addr = false ∨ (node.no_arp = true ∧ i.special ∧ ans.neigh_del p = false) ∨
    (node.add_router = true ∧ i.special ∧ ans.ifname p = false) ∨ Barred ans node T user

/-- The client has the address, and who had it is gone. -/
structure Refreshed (ans : Answers) (user : User UInt32) (p : Nat) (i : Item UInt32) (T T' : Tbl UInt32) : Prop where
  kept : KeptBut none T'
  item : T'.item p = some (fillBind ans.uptime ans.time user i)
  mac : ∀ k, p ∈ T'.mac k ↔ p ∈ T.mac k
  same : ∀ q, q ≠ p → ¬ Holder T user q → SameAt q T T'
  gone : ∀ q, Holder T user q → ¬ Mem T'.mac q

/-- The client itself does not hold the address against itself. -/
theorem not_holder {user : User UInt32} (hi : T.item p = some i) (hc : i.chaddr = user.chaddr) : ¬ Holder T user p := by
  rintro ⟨-, j, hj, -, hne⟩
  rw [hi] at hj
  obtain rfl := Option.some.inj hj
  exact hne hc

/-- When nobody has the address any more the client is given it. -/
theorem Cleared.rebind {ans : Answers} {user : User UInt32} (h : Cleared user p T T') (hp : Mem T.mac p)
    (hi : T.item p = some i) (ha : user.ip_addr ≠ 0) :
    ∃ T₂, T'.rebind ans user p = some T₂ ∧ Refreshed ans user p i T T₂ := by
  obtain ⟨T₂, h₂, hk₂, hj, hmac, hsame⟩ := @Tbl.rebind_spec _ _ _ ans _ h.kept ((exists_congr h.mac).mpr hp)
    (h.item.trans hi) ha h.vacant
  refine ⟨T₂, h₂, hk₂, hj, fun k => by rw [hmac]; exact h.mac k,
    fun q hq hno => (h.same q hq hno).trans (hsame q hq), fun q hq hmem => ?_⟩
  rw [hmac] at hmem
  exact (h.gone q hq).1 hmem

theorem refreshBind_cases {ans : Answers} {node : Listener} {user : User UInt32} (h : KeptBut none T)
    (hp : Mem T.mac p) (hi : T.item p = some i) (hc : i.chaddr = user.chaddr) :
    (Refused ans node T user p i ∧ T.refreshBind ans user p node = some (T, false)) ∨
    (¬ Refused ans node T user p i ∧ ∃ T', T.refreshBind ans user p node =
      some (T', ans.told node (fillBind ans.uptime ans.time user i)) ∧ Refreshed ans user p i T T') := by
  by_cases hcheck : u32ipCheck user.ip_addr = true
  swap
  · exact .inl ⟨.inl (Bool.eq_false_iff.mpr hcheck), by simp [refreshBind, hcheck]⟩
  have ha : user.ip_addr ≠ 0 := by
    intro h0
    rw [h0] at hcheck
    exact absurd hcheck (by decide)
  by_cases hneigh : node.no_arp = true ∧ i.special ∧ ans.neigh_del p = false
  · exact .inl ⟨.inr (.inl hneigh), by simp [refreshBind, hcheck, hi, hneigh]⟩
  by_cases hname : node.add_router = true ∧ i.special ∧ ans.ifname p = false
  · exact .inl ⟨.inr (.inr (.inl hname)), by simp [refreshBind, hcheck, hi, hname]⟩
  obtain ⟨⟨T₁, ok⟩, h₁, hfail, hgood⟩ := @Tbl.conflictLoop_spec _ _ _ ans node _ h hp hi hc ha
  cases ok with
  | false =>
    obtain ⟨hsame, hbarred⟩ := hfail rfl
    have hT : T₁ = T := hsame
    rw [hT] at h₁
    exact .inl ⟨.inr (.inr (.inr hbarred)), by simp [refreshBind, hcheck, hi, ha, h₁]⟩
  | true =>
    obtain ⟨hcleared, hbarred⟩ := hgood rfl
    obtain ⟨T₂, h₂, hrefreshed⟩ := @Cleared.rebind _ _ _ _ ans _ hcleared hp hi ha
    refine .inr ⟨?_, T₂, by simp [refreshBind, hcheck, hi, hneigh, hname, ha, h₁, h₂, hrefreshed.item], hrefreshed⟩
    rintro (hbad | hbad | hbad | hbad)
    · rw [hcheck] at hbad
      cases hbad
    · exact hneigh hbad
    · exact hname hbad
    · exact hbarred hbad

theorem refreshBind_spec {ans : Answers} {node : Listener} {user : User UInt32} (h : KeptBut none T)
    (hp : Mem T.mac p) (hi : T.item p = some i) (hc : i.chaddr = user.chaddr) :
    ∃ r, T.refreshBind ans user p node = some r ∧ KeptBut none r.1 ∧ ∃ j, r.1.item p = some j := by
  obtain ⟨-, hr⟩ | ⟨-, T', hr, hrefreshed⟩ := @Tbl.refreshBind_cases _ _ _ ans node _ h hp hi hc
  · exact ⟨_, hr, h, i, hi⟩
  · exact ⟨_, hr, hrefreshed.kept, _, hrefreshed.item⟩

/-! ## The operations -/

/-- A new client has an item that is not bound. -/
theorem KeptBut.itemInsert {user : User UInt32} {uptime time : UInt32} {malloc : Option Nat}
    (h : KeptBut none T) (hnew : ∀ p i, Mem T.mac p → T.item p = some i → i.chaddr ≠ user.chaddr)
    (hs : user.state = .REQUEST) : KeptBut none (T.itemInsert user uptime time malloc).1 := by
  cases malloc with
  | none => exact h
  | some p =>
    cases hp : T.item p with
    | some i => simpa [Tbl.itemInsert, hp] using h
    | none =>
      have hresult : (T.itemInsert user uptime time (some p)).1 =
          { T with
            item := Function.update T.item p (some (fillItem uptime time user))
            mac := Function.update T.mac (tblHash user.chaddr) (p :: T.mac (tblHash user.chaddr)) } := by
        simp [Tbl.itemInsert, hp]
      rw [hresult]
      -- what is in a chain is not the new memory
      have hmac : ∀ q, Mem T.mac q → q ≠ p := by
        rintro q hq rfl
        obtain ⟨i, hi, -⟩ := h.live hq
        rw [hp] at hi
        cases hi
      have hip : ∀ q, Mem T.ip q → q ≠ p := fun q hq => hmac q (h.ipMac q hq)
      have hmem : ∀ q, Mem (Function.update T.mac (tblHash user.chaddr) (p :: T.mac (tblHash user.chaddr))) q ↔
          q = p ∨ Mem T.mac q := fun q => @Buckets.mem_insert _ _ _ tblHash (fun _ => user.chaddr) _ _ _ _
      have hold : ∀ q i, q ≠ p → Function.update T.item p (some (fillItem uptime time user)) q = some i →
          T.item q = some i := by
        intro q i hq hi
        simpa [hq] using hi
      refine ⟨h.hashed.frame rfl fun k q i hq hi => ⟨i, ?_, rfl⟩, ?_, ?_, ?_, ?_, ?_, ?_⟩
      · have hqp := hip q ⟨k, hq⟩
        simpa [hqp] using hi
      · intro q r i j hq hr hi hj
        exact h.ipInj q r i j hq hr (hold q i (hip q hq) hi) (hold r j (hip r hr) hj)
      · intro k q hq
        by_cases hk : k = tblHash user.chaddr
        · subst hk
          have hq' : q = p ∨ q ∈ T.mac (tblHash user.chaddr) := by simpa using hq
          rcases hq' with rfl | hq'
          · exact ⟨fillItem uptime time user, by simp, rfl⟩
          · obtain ⟨i, hi, hik⟩ := h.macHome _ q hq'
            exact ⟨i, by simpa [hmac q ⟨_, hq'⟩] using hi, hik⟩
        · have hq' : q ∈ T.mac k := by simpa [hk] using hq
          obtain ⟨i, hi, hik⟩ := h.macHome k q hq'
          exact ⟨i, by simpa [hmac q ⟨k, hq'⟩] using hi, hik⟩
      · intro k
        by_cases hk : k = tblHash user.chaddr
        · subst hk
          have hnot : p ∉ T.mac (tblHash user.chaddr) := fun hpk => hmac p ⟨_, hpk⟩ rfl
          simpa using ⟨hnot, h.macNodup _⟩
        · simpa [hk] using h.macNodup k
      · intro q r i j hq hr hi hj he
        rcases (hmem q).mp hq with rfl | hq' <;> rcases (hmem r).mp hr with rfl | hr'
        · rfl
        · obtain rfl : fillItem uptime time user = i := by simpa using hi
          exact absurd he.symm (hnew r j hr' (hold r j (hmac r hr') hj))
        · obtain rfl : fillItem uptime time user = j := by simpa using hj
          exact absurd he (hnew q i hq' (hold q i (hmac q hq') hi))
        · exact h.macInj q r i j hq' hr' (hold q i (hmac q hq') hi) (hold r j (hmac r hr') hj) he
      · intro q hq
        exact (hmem q).mpr (.inr (h.ipMac q hq))
      · intro q i hx hq hi hb
        rcases (hmem q).mp hq with rfl | hq'
        · obtain rfl : fillItem uptime time user = i := by simpa using hi
          have hreq : user.state = .BOUND := hb
          rw [hs] at hreq
          cases hreq
        · exact h.bound q i hx hq' (hold q i (hmac q hq') hi) hb

/-- A new client gets memory that nobody had. -/
theorem sameAt_itemInsert {user : User UInt32} {uptime time : UInt32} {malloc : Option Nat} (hi : T.item q = some i) :
    SameAt q T (T.itemInsert user uptime time malloc).1 := by
  cases malloc with
  | none => exact .refl
  | some p =>
    cases hp : T.item p with
    | some i => simpa [Tbl.itemInsert, hp] using SameAt.refl
    | none =>
      have hqp : q ≠ p := by
        rintro rfl
        rw [hp] at hi
        cases hi
      refine ⟨by simp [Tbl.itemInsert, hp, hqp], fun k => ?_, fun k => by simp [Tbl.itemInsert, hp]⟩
      by_cases hk : k = tblHash user.chaddr
      · subst hk
        simp [Tbl.itemInsert, hp, hqp]
      · simp [Tbl.itemInsert, hp, hk]

/-- What is in memory afterwards was there before, or is the new item. -/
theorem item_itemInsert {user : User UInt32} {uptime time : UInt32} {malloc : Option Nat}
    (hi : (T.itemInsert user uptime time malloc).1.item q = some i) :
    T.item q = some i ∨ i = fillItem uptime time user := by
  cases malloc with
  | none => exact .inl hi
  | some p =>
    cases hp : T.item p with
    | some _ => exact .inl (by simpa [Tbl.itemInsert, hp] using hi)
    | none =>
      by_cases hq : q = p
      · subst hq
        exact .inr (by simpa [Tbl.itemInsert, hp, eq_comm] using hi)
      · exact .inl (by simpa [Tbl.itemInsert, hp, hq] using hi)

theorem agingChain_spec {ans : Answers} (l : List Nat) : ∀ T : Tbl UInt32, KeptBut none T → l.Nodup →
    (∀ q ∈ l, Mem T.mac q) → ∃ r, agingChain ans l T = some r ∧ KeptBut none r.1 := by
  induction l with
  | nil => exact fun T h _ _ => ⟨(T, true), rfl, h⟩
  | cons p l ih =>
    intro T h hn hl
    have hp := hl p (by simp)
    obtain ⟨i, hi, -⟩ := h.live hp
    have hn' := List.nodup_cons.mp hn
    by_cases hold : i.bind_type = .DYNAMIC ∧ i.cur_expire < ans.uptime
    · by_cases hname : i.ip_addr ≠ 0 ∧ i.special ∧ ans.ifname p = false
      · exact ⟨(T, false), by simp [agingChain, hi, hold, hname], h⟩
      · obtain ⟨T₁, h₁, hw⟩ := itemDelete_spec h hp (ans.db_delete p)
        obtain ⟨r, hr, hk⟩ := ih T₁ (h.without hw) hn'.2 fun q hq => by
          refine (hw.mem_mac h).mpr ⟨hl q (by simp [hq]), ?_⟩
          rintro rfl
          exact hn'.1 hq
        have hname' : ¬ (¬ i.ip_addr = 0 ∧ i.special ∧ ans.ifname p = false) := hname
        exact ⟨r, by simp [agingChain, hi, hold, hname', h₁, hr], hk⟩
    · obtain ⟨r, hr, hk⟩ := ih T h hn'.2 fun q hq => hl q (by simp [hq])
      exact ⟨r, by simp [agingChain, hi, hold, hr], hk⟩

theorem agingChains_spec {ans : Answers} (ks : List Nat) : ∀ T : Tbl UInt32, KeptBut none T →
    ∃ T', agingChains ans ks T = some T' ∧ KeptBut none T' := by
  induction ks with
  | nil => exact fun T h => ⟨T, rfl, h⟩
  | cons k ks ih =>
    intro T h
    obtain ⟨⟨T₁, go⟩, h₁, hk₁⟩ := @Tbl.agingChain_spec ans (T.mac k) T h (h.macNodup k) fun q hq => ⟨k, hq⟩
    cases go with
    | false => exact ⟨T₁, by simp [agingChains, h₁], hk₁⟩
    | true =>
      obtain ⟨T', hT', hk'⟩ := ih T₁ hk₁
      exact ⟨T', by simp [agingChains, h₁, hT'], hk'⟩

/-- The processing of a message of a known client. -/
theorem known_spec {chaddr : Mac} {f : Nat → Option (Tbl UInt32)} (h : KeptBut none T)
    (hf : ∀ p i, Mem T.mac p → T.item p = some i → i.chaddr = chaddr → ∃ T', f p = some T' ∧ KeptBut none T') :
    ∃ T', (do match ← T.itemFind chaddr with | none => some T | some p => f p) = some T' ∧ KeptBut none T' := by
  obtain ⟨r, hr, hsome, -⟩ := itemFind_spec h chaddr
  cases r with
  | none => exact ⟨T, by simp [hr], h⟩
  | some p =>
    obtain ⟨hp, i, hi, hc⟩ := hsome p rfl
    obtain ⟨T', hT', hk⟩ := hf p i hp hi hc
    exact ⟨T', by simp [hr, hT'], hk⟩

theorem requestProcess_spec (ans : Answers) (vlanid : UInt16) (ifindex : UInt32) (dhcp : DhcpMessage)
    (h : KeptBut none T) : ∃ T', T.requestProcess ans vlanid ifindex dhcp = some T' ∧ KeptBut none T' := by
  rw [requestProcess]
  cases getItemFromPkt vlanid ifindex false dhcp with
  | none => exact ⟨T, rfl, h⟩
  | some user =>
    obtain ⟨r, hr, -, hnone⟩ := itemFind_spec h user.chaddr
    cases r with
    | some p => exact ⟨T, by simp [hr], h⟩
    | none =>
      have hk := @Tbl.KeptBut.itemInsert _ { user with state := .REQUEST } ans.uptime ans.time ans.malloc h
          (hnone rfl) rfl
      exact ⟨_, by simp [hr], hk⟩

theorem ackProcess_spec (ans : Answers) (vlanid : UInt16) (ifindex : UInt32) (dhcp : DhcpMessage) (node : Listener)
    (h : KeptBut none T) : ∃ T', T.ackProcess ans vlanid ifindex dhcp node = some T' ∧ KeptBut none T' := by
  rw [ackProcess]
  cases getItemFromPkt vlanid ifindex false dhcp with
  | none => exact ⟨T, rfl, h⟩
  | some user =>
    refine known_spec h fun p i hp hi hc => ?_
    by_cases hstatic : i.bind_type = .STATIC
    · exact ⟨T, by simp [hi, hstatic], h⟩
    obtain ⟨⟨T₁, ok⟩, h₁, hk, j, hj⟩ := @Tbl.refreshBind_spec _ _ _ ans node { user with state := .BOUND } h hp hi
        hc
    have hj₁ : T₁.item p = some j := hj
    cases ok <;> exact ⟨T₁, by simp [hi, hstatic, h₁, hj₁], hk⟩

theorem nackProcess_spec (ans : Answers) (vlanid : UInt16) (ifindex : UInt32) (dhcp : DhcpMessage)
    (h : KeptBut none T) : ∃ T', T.nackProcess ans vlanid ifindex dhcp = some T' ∧ KeptBut none T' := by
  rw [nackProcess]
  cases getItemFromPkt vlanid ifindex false dhcp with
  | none => exact ⟨T, rfl, h⟩
  | some user =>
    refine known_spec h fun p i hp hi _ => ?_
    by_cases hstop : i.bind_type = .STATIC ∨ identityItem ans.beyond i user = false
    · exact ⟨T, by simp [hi, hstop], h⟩
    obtain ⟨T₁, h₁, hw⟩ := itemDelete_spec h hp (ans.db_delete p)
    exact ⟨T₁, by simp [hi, hstop, h₁], h.without hw⟩

theorem releaseProcess_spec (ans : Answers) (vlanid : UInt16) (ifindex : UInt32) (dhcp : DhcpMessage)
    (node : Listener) (h : KeptBut none T) :
    ∃ T', T.releaseProcess ans vlanid ifindex dhcp node = some T' ∧ KeptBut none T' := by
  rw [releaseProcess]
  cases getItemFromPkt vlanid ifindex false dhcp with
  | none => exact ⟨T, rfl, h⟩
  | some user =>
    refine known_spec h fun p i hp hi _ => ?_
    by_cases hstop : i.bind_type = .STATIC ∨ identityItem ans.beyond i user = false
    · exact ⟨T, by simp [hi, hstop], h⟩
    by_cases hname : node.add_router = true ∧ i.special ∧ ans.ifname p = false
    · exact ⟨T, by simp [hi, hstop, hname], h⟩
    obtain ⟨T₁, h₁, hw⟩ := itemDelete_spec h hp (ans.db_delete p)
    exact ⟨T₁, by simp [hi, hstop, hname, h₁], h.without hw⟩

theorem informProcess_spec (ans : Answers) (vlanid : UInt16) (ifindex : UInt32) (dhcp : DhcpMessage)
    (node : Listener) (h : KeptBut none T) :
    ∃ T', T.informProcess ans vlanid ifindex dhcp node = some T' ∧ KeptBut none T' := by
  rw [informProcess]
  cases getItemFromPkt vlanid ifindex true dhcp with
  | none => exact ⟨T, rfl, h⟩
  | some user =>
    refine known_spec h fun p i hp hi hc => ?_
    by_cases hstop : i.bind_type = .STATIC ∨ i.state = .BOUND
    · exact ⟨T, by simp [hi, hstop], h⟩
    obtain ⟨r, hr, hk, -⟩ := @Tbl.refreshBind_spec _ _ _ ans node { user with state := .BOUND } h hp hi hc
    exact ⟨r.1, by simp [hi, hstop, hr], hk⟩

theorem gratuitousArpProcess_spec (ans : Answers) (vlanid : UInt16) (ifindex : UInt32) (arp : ArpPacket)
    (node : Listener) (h : KeptBut none T) :
    ∃ T', T.gratuitousArpProcess ans vlanid ifindex arp node = some T' ∧ KeptBut none T' := by
  rw [gratuitousArpProcess]
  set user := userOfArp vlanid ifindex arp
  by_cases hcheck : u32ipCheck user.ip_addr = true
  · simp only [hcheck, not_true_eq_false, if_false]
    refine known_spec h fun p i hp hi hc => ?_
    by_cases hstop : i.bind_type = .STATIC ∨ i.state = .BOUND ∨ i.ip_addr ≠ user.ip_addr
    · exact ⟨T, by simp only [hi, Option.bind_eq_bind, Option.bind_some, hstop, if_true], h⟩
    obtain ⟨r, hr, hk, -⟩ := @Tbl.refreshBind_spec _ _ _ ans node { user with state := .BOUND } h hp hi hc
    exact ⟨r.1, by simp only [hi, Option.bind_eq_bind, Option.bind_some, hstop, if_false, hr], hk⟩
  · exact ⟨T, by simp [hcheck], h⟩

end

end Tbl

namespace Op

/-- One operation. -/
theorem step_spec (T : Tbl UInt32) (op : Op × Answers) (h : T.KeptBut none) :
    ∃ T', step T op = some T' ∧ T'.KeptBut none := by
  obtain ⟨op, ans⟩ := op
  cases op with
  | discover vlanid ifindex dhcp => exact Tbl.requestProcess_spec ans vlanid ifindex dhcp h
  | request vlanid ifindex dhcp => exact Tbl.requestProcess_spec ans vlanid ifindex dhcp h
  | ack vlanid ifindex dhcp node => exact Tbl.ackProcess_spec ans vlanid ifindex dhcp node h
  | nak vlanid ifindex dhcp => exact Tbl.nackProcess_spec ans vlanid ifindex dhcp h
  | release vlanid ifindex dhcp node => exact Tbl.releaseProcess_spec ans vlanid ifindex dhcp node h
  | inform vlanid ifindex dhcp node => exact Tbl.informProcess_spec ans vlanid ifindex dhcp node h
  | arp vlanid ifindex packet node => exact Tbl.gratuitousArpProcess_spec ans vlanid ifindex packet node h
  | aging => exact Tbl.agingChains_spec _ T h

/-- Every run comes to its end, with the invariant. -/
theorem run_spec (ops : List (Op × Answers)) : ∃ T, tryRun step Tbl.empty ops = some T ∧ T.KeptBut none := by
  have hobeys : TryObeys step (fun _ _ => True) Tbl.empty ops := tryObeys_of_forall fun _ _ _ => trivial
  exact hobeys.run_inv (fun T op h _ => step_spec T op h) Tbl.keptBut_empty

/-- Every run comes to its end, and the tables are then as they are to be. -/
theorem bindings_sound (ops : List (Op × Answers)) :
    ∃ T, tryRun step Tbl.empty ops = some T ∧ T.Sound := by
  obtain ⟨T, hT, hk⟩ := run_spec ops
  exact ⟨T, hT, hk.sound⟩

/-- A message of a client with the MAC address `#v[0, 0, 0, 0, 0, n]`. -/
def messageOf (n : UInt8) (op : UInt8) (ciaddr yiaddr : UInt32) (lease : Option UInt32) : DhcpMessage :=
  { op := op, hlen := 6, chaddr := #v[0, 0, 0, 0, 0, n], ciaddr := ciaddr, yiaddr := yiaddr, lease := lease }

end Op

namespace Tbl

/-- The tables after a run. -/
def ran (ops : List (Op × Answers)) : Tbl UInt32 := (tryRun Op.step empty ops).getD empty

theorem keptBut_ran (ops : List (Op × Answers)) : KeptBut none (ran ops) := by
  obtain ⟨T, hT, hk⟩ := Op.run_spec ops
  rw [ran, hT]
  exact hk

/-- The rest of the system does all it is asked to, and has been up for `uptime`. -/
def answersAt (uptime : UInt32) : Answers :=
  { uptime := uptime, time := 0, malloc := some 1, beyond := true, neigh_del := fun _ => true, neigh_add := true
    ifname := fun _ => true, ifname_add := true, db_delete := fun _ => true }

end Tbl

end Snooping
end DaemonGroup
