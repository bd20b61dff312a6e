import DaemonGroup.Snooping.Hosts

/-!
# DaemonGroup.Snooping.Mirrors

Whether the installed neighbours and host routes are those of the bound clients of VLAN 0xFFFF, on listeners with
`no_arp` and `add_router`, when the kernel does what it is asked to.

* `Mirrors` — they are.
* `Op.Strands` — the operation removes a binding and its neighbour stays: a bound client gets a DHCPNAK, or its
  address is given to a client of another VLAN or on another interface.
* `mirrors_iff` — the first holds in all states of a run exactly if no operation of it is the second.
-/

namespace DaemonGroup
namespace Snooping

open Lib Buckets

namespace Tbl

/-- The entries of the bound client are at `x`. -/
def Installs (T : Tbl UInt32) (x : UInt32 × UInt32) (p : Nat) (i : Item UInt32) : Prop :=
  Mem T.mac p ∧ T.item p = some i ∧ i.special ∧ i.place = x

/-- The neighbour of who has the address is not replaced by one for the client `i`. -/
def Stranded (T : Tbl UInt32) (user : User UInt32) (i : Item UInt32) : Prop :=
  ∃ q j, Holder T user q ∧ T.item q = some j ∧ j.special ∧ ¬ (i.vlanId = 0xFFFF ∧ j.ifindex = user.ifindex)

/-- A known client is given the address of another one, and the neighbour of that one stays. -/
def Strands (T : Tbl UInt32) (user : User UInt32) (ok : Item UInt32 → Prop) : Prop :=
  u32ipCheck user.ip_addr = true ∧ ∃ p i, Mem T.mac p ∧ T.item p = some i ∧ i.chaddr = user.chaddr ∧ ok i ∧
    T.Stranded user i

end Tbl

/-- What is installed is what is bound. -/
structure Host.Mirrors (s : Host) : Prop where
  neigh : ∀ x mac, s.neigh x = some mac ↔ ∃ p i, s.tbl.Installs x p i ∧ i.chaddr = mac
  route : ∀ x, s.route x = true ↔ ∃ p i, s.tbl.Installs x p i

/-- The kernel does what it is asked to. -/
structure Answers.Serve (ans : Answers) : Prop where
  neigh_del : ∀ p, ans.neigh_del p = true
  neigh_add : ans.neigh_add = true
  ifname : ∀ p, ans.ifname p = true
  ifname_add : ans.ifname_add = true

/-- The listener that takes the message, if that matters. -/
def Op.listener : Op → Option Listener
  | ack _ _ _ node | release _ _ _ node | inform _ _ _ node | arp _ _ _ node => some node
  | _ => none

/-- An operation on a listener that manages the entries. -/
structure ServedOp where
  op : Op × Answers
  listener : ∀ node ∈ op.1.listener, node.no_arp = true ∧ node.add_router = true
  serve : op.2.Serve

def ServedOp.step (s : Host) (op : ServedOp) : Option Host := Op.hostStep s op.op

/-- The operation removes a binding, and the neighbour of it stays. -/
def Op.Strands (T : Tbl UInt32) (op : Op × Answers) : Prop :=
  match op.1 with
  | ack vlanid ifindex dhcp _ => ∃ user, getItemFromPkt vlanid ifindex false dhcp = some user ∧
    T.Strands user fun i => i.bind_type = .DYNAMIC
  | nak vlanid ifindex dhcp => ∃ user p i, getItemFromPkt vlanid ifindex false dhcp = some user ∧ Mem T.mac p ∧
    T.item p = some i ∧ i.chaddr = user.chaddr ∧ i.bind_type = .DYNAMIC ∧ identityItem op.2.beyond i user = true ∧
    i.special
  | inform vlanid ifindex dhcp _ => ∃ user, getItemFromPkt vlanid ifindex true dhcp = some user ∧
    T.Strands user fun i => i.bind_type = .DYNAMIC ∧ i.state = .REQUEST
  | arp vlanid ifindex packet _ => T.Strands (userOfArp vlanid ifindex packet) fun i =>
    i.bind_type = .DYNAMIC ∧ i.state = .REQUEST ∧ i.ip_addr = packet.sip
  | _ => False

namespace Tbl

section
variable {T T' : Tbl UInt32} {p q : Nat} {i j : Item UInt32} {x y : UInt32 × UInt32}

/-- A bound client is found by its address. -/
theorem Installs.mem_ip (h : T.Installs x p i) (hk : KeptBut none T) : Mem T.ip p :=
  hk.bound p i (by simp) h.1 h.2.1 h.2.2.1.2

theorem Installs.ip_addr (h : T.Installs x p i) : i.ip_addr = x.2 := congrArg Prod.snd h.2.2.2

theorem Installs.ne_zero (h : T.Installs x p i) (hk : KeptBut none T) : i.ip_addr ≠ 0 := by
  obtain ⟨j, hj, he, -⟩ := hk.hashed.home _ p (mem_key hk.hashed (h.mem_ip hk) h.2.1)
  obtain rfl := Option.some.inj (h.2.1.symm.trans hj)
  simpa [v4] using he

/-- An address has one binding. -/
theorem Installs.unique (h : T.Installs x p i) (h' : T.Installs y q j) (hk : KeptBut none T) (he : x.2 = y.2) :
    p = q :=
  hk.ipInj p q i j (h.mem_ip hk) (h'.mem_ip hk) h.2.1 h'.2.1 (by rw [h.ip_addr, h'.ip_addr, he])

theorem Without.installs (hw : Without p T T') (hk : KeptBut none T) :
    T'.Installs x q j ↔ T.Installs x q j ∧ q ≠ p := by
  rw [Installs, Installs, hw.mem_mac hk]
  constructor
  · rintro ⟨⟨hq, hne⟩, hj, hrest⟩
    rw [hw.item q hne] at hj
    exact ⟨⟨hq, hj, hrest⟩, hne⟩
  · rintro ⟨⟨hq, hj, hrest⟩, hne⟩
    rw [← hw.item q hne] at hj
    exact ⟨⟨hq, hne⟩, hj, hrest⟩

/-- A new client is not bound. -/
theorem installs_itemInsert {user : User UInt32} {uptime time : UInt32} {malloc : Option Nat}
    (hs : user.state = .REQUEST) :
    Installs (T.itemInsert user uptime time malloc).1 x q j ↔ T.Installs x q j := by
  constructor
  · rintro ⟨hq, hj, hspecial, hx⟩
    rcases item_itemInsert hj with hj' | rfl
    · exact ⟨(sameAt_itemInsert hj').mem_mac.mp hq, hj', hspecial, hx⟩
    · have hb : user.state = .BOUND := hspecial.2
      rw [hs] at hb
      cases hb
  · rintro ⟨hq, hj, hrest⟩
    have hsame := @sameAt_itemInsert T q j user uptime time malloc hj
    exact ⟨hsame.mem_mac.mpr hq, hsame.1.trans hj, hrest⟩

theorem SameAt.installs (h : SameAt q T T') : T'.Installs x q j ↔ T.Installs x q j := by
  rw [Installs, Installs, h.mem_mac, h.1]

/-- Who is bound at the address of the user and is not the client holds the address. -/
theorem Installs.holder {user : User UInt32} (h : T.Installs x q j) (hk : KeptBut none T) (hp : Mem T.mac p)
    (hi : T.item p = some i) (hc : i.chaddr = user.chaddr) (hx : x.2 = user.ip_addr) (hne : q ≠ p) :
    Holder T user q := by
  refine ⟨h.mem_ip hk, j, h.2.1, h.ip_addr.trans hx, fun hcj => hne ?_⟩
  exact hk.macInj q p j i h.1 hp h.2.1 hi (hcj.trans hc.symm)

theorem Holder.installs {user : User UInt32} (h : Holder T user q) (hk : KeptBut none T) (hj : T.item q = some j)
    (hs : j.special) : T.Installs j.place q j ∧ j.ip_addr = user.ip_addr := by
  obtain ⟨hq, j', hj', he, -⟩ := h
  obtain rfl := Option.some.inj (hj.symm.trans hj')
  exact ⟨⟨hk.ipMac q hq, hj, hs, rfl⟩, he⟩

section
variable {ans : Answers} {user : User UInt32}

/-- Who is bound after a refresh: the client, and who was bound before and does not have the address. -/
theorem Refreshed.installs {k : Item UInt32} (hr : Refreshed ans user p i T T') (hp : Mem T.mac p)
    (hj : T'.item p = some j) : T'.Installs x q k ↔ (q = p ∧ k = j ∧ j.special ∧ x = j.place) ∨
      (q ≠ p ∧ ¬ Holder T user q ∧ T.Installs x q k) := by
  by_cases hqp : q = p
  · subst hqp
    constructor
    · rintro ⟨-, hk, hs, rfl⟩
      obtain rfl := Option.some.inj (hj.symm.trans hk)
      exact .inl ⟨rfl, rfl, hs, rfl⟩
    · rintro (⟨-, rfl, hs, rfl⟩ | hbad)
      · exact ⟨(exists_congr hr.mac).mpr hp, hj, hs, rfl⟩
      · exact absurd rfl hbad.1
  · by_cases hh : Holder T user q
    · refine iff_of_false (fun hq => hr.gone q hh hq.1) ?_
      rintro (hbad | hbad)
      · exact hqp hbad.1
      · exact hbad.2.1 hh
    · rw [(hr.same q hqp hh).installs]
      exact ⟨fun hq => .inr ⟨hqp, hh, hq⟩, fun hq => hq.elim (fun hbad => absurd hbad.1 hqp) fun hq => hq.2.2⟩

theorem Refreshed.place (hr : Refreshed ans user p i T T') (hj : T'.item p = some j) :
    j.place = (user.ifindex, user.ip_addr) := by
  rw [← Option.some.inj (hr.item.symm.trans hj)]
  rfl

theorem Refreshed.special (hr : Refreshed ans user p i T T') (hj : T'.item p = some j) (hb : user.state = .BOUND) :
    j.special ↔ i.vlanId = 0xFFFF := by
  rw [← Option.some.inj (hr.item.symm.trans hj), Item.special, fillBind_vlanId, fillBind_state, and_iff_left hb]

/-- An entry stays if it is at neither of the places of the client. -/
theorem Refreshed.stays_iff {k : Item UInt32} (hr : Refreshed ans user p i T T') (hk : KeptBut none T)
    (hp : Mem T.mac p) (hi : T.item p = some i) (hc : i.chaddr = user.chaddr) (hb : user.state = .BOUND)
    (hj : T'.item p = some j) (hno : ¬ T.Stranded user i) (hq : T.Installs x q k) :
    q ≠ p ∧ ¬ Holder T user q ↔ ¬ (j.special ∧ x = j.place) ∧ ¬ (i.special ∧ x = i.place) := by
  constructor
  · rintro ⟨hqp, hh⟩
    refine ⟨?_, ?_⟩
    · rintro ⟨-, rfl⟩
      exact hh (hq.holder hk hp hi hc (by rw [hr.place hj]) hqp)
    · rintro ⟨his, rfl⟩
      have hpi : T.Installs i.place p i := ⟨hp, hi, his, rfl⟩
      exact hqp (hq.unique hpi hk rfl)
  · rintro ⟨hnew, hold⟩
    refine ⟨?_, fun hh => ?_⟩
    · rintro rfl
      obtain ⟨-, hk', hs, rfl⟩ := hq
      obtain rfl := Option.some.inj (hi.symm.trans hk')
      exact hold ⟨hs, rfl⟩
    · obtain ⟨-, hk', hs, hx⟩ := hq
      have hsame : i.vlanId = 0xFFFF ∧ k.ifindex = user.ifindex := by
        by_contra hother
        exact hno ⟨q, k, hh, hk', hs, hother⟩
      refine hnew ⟨(hr.special hj hb).mpr hsame.1, ?_⟩
      rw [← hx, hr.place hj, Item.place, hsame.2, (hh.installs hk hk' hs).2]

end

end

end Tbl

namespace Host

section
variable {ans : Answers} {node : Listener} {user : User UInt32} {s s' : Host} {i j : Item UInt32} {p q : Nat}
  {x : UInt32 × UInt32} {c : Prop} [Decidable c]

/-! ## What is installed after a request -/

theorem routeDel_neigh : (s.when c (routeDel i)).neigh = s.neigh := by
  rw [when]
  split <;> rfl

theorem routeAdd_neigh : (s.when c (routeAdd i)).neigh = s.neigh := by
  rw [when]
  split <;> rfl

theorem neighDel_route {sent : Bool} : (s.when c (neighDel sent i)).route = s.route := by
  rw [when, neighDel]
  split
  · split <;> rfl
  · rfl

theorem neighAdd_route {sent : Bool} : (s.when c (neighAdd sent i)).route = s.route := by
  rw [when, neighAdd]
  split
  · split <;> rfl
  · rfl

theorem neighDel_iff {mac : Mac} :
    (s.when c (neighDel true i)).neigh x = some mac ↔ s.neigh x = some mac ∧ ¬ (c ∧ x = i.place) := by
  by_cases hc : c <;> by_cases hx : x = i.place <;> simp [when, neighDel, hc, hx]

theorem neighAdd_iff {mac : Mac} : (s.when c (neighAdd true i)).neigh x = some mac ↔
    (c ∧ x = i.place ∧ mac = i.chaddr) ∨ (¬ (c ∧ x = i.place) ∧ s.neigh x = some mac) := by
  by_cases hc : c <;> by_cases hx : x = i.place <;> simp [when, neighAdd, hc, hx, eq_comm]

theorem routeDel_iff : (s.when c (routeDel i)).route x = true ↔ s.route x = true ∧ ¬ (c ∧ x = i.place) := by
  by_cases hc : c <;> by_cases hx : x = i.place <;> simp [when, routeDel, hc, hx]

theorem routeAdd_iff : (s.when c (routeAdd i)).route x = true ↔
    (c ∧ x = i.place) ∨ (¬ (c ∧ x = i.place) ∧ s.route x = true) := by
  by_cases hc : c <;> by_cases hx : x = i.place <;> simp [when, routeAdd, hc, hx]

/-! ## One binding goes -/

/-- A binding is removed, and its entries are. -/
theorem Mirrors.removed (hm : Mirrors s) (hk : s.tbl.KeptBut none) (hp : Mem s.tbl.mac p)
    (hi : s.tbl.item p = some i) (hw : Tbl.Without p s.tbl s'.tbl)
    (hneigh : ∀ x mac, s'.neigh x = some mac ↔ s.neigh x = some mac ∧ ¬ (i.special ∧ x = i.place))
    (hroute : ∀ x, s'.route x = true ↔ s.route x = true ∧ ¬ (i.special ∧ x = i.place)) : Mirrors s' := by
  -- what is at the place of the item is the item
  have hplace : ∀ x q j, s.tbl.Installs x q j → (¬ (i.special ∧ x = i.place) ↔ q ≠ p) := by
    intro x q j hq
    refine not_congr ⟨fun hx => ?_, ?_⟩
    · have hinst : s.tbl.Installs i.place p i := ⟨hp, hi, hx.1, rfl⟩
      exact hq.unique hinst hk (by rw [hx.2])
    · rintro rfl
      obtain ⟨-, hj, hspecial, rfl⟩ := hq
      obtain rfl := Option.some.inj (hi.symm.trans hj)
      exact ⟨hspecial, rfl⟩
  constructor
  · intro x mac
    rw [hneigh, hm.neigh]
    constructor
    · rintro ⟨⟨q, j, hq, hmac⟩, hx⟩
      exact ⟨q, j, (hw.installs hk).mpr ⟨hq, (hplace x q j hq).mp hx⟩, hmac⟩
    · rintro ⟨q, j, hq, hmac⟩
      obtain ⟨hq, hne⟩ := (hw.installs hk).mp hq
      exact ⟨⟨q, j, hq, hmac⟩, (hplace x q j hq).mpr hne⟩
  · intro x
    rw [hroute, hm.route]
    constructor
    · rintro ⟨⟨q, j, hq⟩, hx⟩
      exact ⟨q, j, (hw.installs hk).mpr ⟨hq, (hplace x q j hq).mp hx⟩⟩
    · rintro ⟨q, j, hq⟩
      obtain ⟨hq, hne⟩ := (hw.installs hk).mp hq
      exact ⟨⟨q, j, hq⟩, (hplace x q j hq).mpr hne⟩

/-- A binding is removed and its entries stay: then there must have been none. -/
theorem Mirrors.dropped_iff (hm : Mirrors s) (hk : s.tbl.KeptBut none) (hp : Mem s.tbl.mac p)
    (hi : s.tbl.item p = some i) (hw : Tbl.Without p s.tbl s'.tbl) (hneigh : s'.neigh = s.neigh)
    (hroute : s'.route = s.route) : Mirrors s' ↔ ¬ i.special := by
  constructor
  · intro hm' hspecial
    have hinst : s.tbl.Installs i.place p i := ⟨hp, hi, hspecial, rfl⟩
    have hthere := (hm.route i.place).mpr ⟨p, i, hinst⟩
    rw [← hroute] at hthere
    obtain ⟨q, j, hq⟩ := (hm'.route i.place).mp hthere
    obtain ⟨hq, hne⟩ := (hw.installs hk).mp hq
    exact hne (hq.unique hinst hk rfl)
  · intro hspecial
    refine hm.removed hk hp hi hw (fun x mac => ?_) fun x => ?_
    · rw [hneigh, and_iff_left fun hx => hspecial hx.1]
    · rw [hroute, and_iff_left fun hx => hspecial hx.1]


/-! ## A client is refreshed -/

/-- What is installed after a refresh: the old entries of the client have gone and the new ones come, and the route
of who had the address has gone. -/
structure Moved (user : User UInt32) (i j : Item UInt32) (s s' : Host) : Prop where
  neigh : ∀ x mac, s'.neigh x = some mac ↔ (j.special ∧ x = j.place ∧ mac = j.chaddr) ∨
    (¬ (j.special ∧ x = j.place) ∧ s.neigh x = some mac ∧ ¬ (i.special ∧ x = i.place))
  route : ∀ x, s'.route x = true ↔ (j.special ∧ x = j.place) ∨
    (¬ (j.special ∧ x = j.place) ∧ (s.route x = true ∧ ¬ (i.special ∧ x = i.place)) ∧
      ¬ ∃ q k, Tbl.Holder s.tbl user q ∧ s.tbl.item q = some k ∧ k.special ∧ k.place = x)

theorem Mirrors.refreshed (hm : Mirrors s) (hk : s.tbl.KeptBut none) (hp : Mem s.tbl.mac p)
    (hi : s.tbl.item p = some i) (hc : i.chaddr = user.chaddr) (hb : user.state = .BOUND)
    (hr : Tbl.Refreshed ans user p i s.tbl s'.tbl) (hj : s'.tbl.item p = some j) (hmoved : Moved user i j s s')
    (hno : ¬ s.tbl.Stranded user i) : Mirrors s' := by
  constructor
  · intro x mac
    rw [hmoved.neigh, hm.neigh]
    constructor
    · rintro (⟨hs, hx, hmac⟩ | ⟨hnew, ⟨q, k, hq, hmac⟩, hold⟩)
      · exact ⟨p, j, (hr.installs hp hj).mpr (.inl ⟨rfl, rfl, hs, hx⟩), hmac.symm⟩
      · obtain ⟨hqp, hh⟩ := (hr.stays_iff hk hp hi hc hb hj hno hq).mpr ⟨hnew, hold⟩
        exact ⟨q, k, (hr.installs hp hj).mpr (.inr ⟨hqp, hh, hq⟩), hmac⟩
    · rintro ⟨q, k, hq, hmac⟩
      rcases (hr.installs hp hj).mp hq with ⟨-, rfl, hs, hx⟩ | ⟨hqp, hh, hq⟩
      · exact .inl ⟨hs, hx, hmac.symm⟩
      · obtain ⟨hnew, hold⟩ := (hr.stays_iff hk hp hi hc hb hj hno hq).mp ⟨hqp, hh⟩
        exact .inr ⟨hnew, ⟨q, k, hq, hmac⟩, hold⟩
  · intro x
    rw [hmoved.route, hm.route]
    constructor
    · rintro (⟨hs, hx⟩ | ⟨hnew, ⟨⟨q, k, hq⟩, hold⟩, -⟩)
      · exact ⟨p, j, (hr.installs hp hj).mpr (.inl ⟨rfl, rfl, hs, hx⟩)⟩
      · obtain ⟨hqp, hh⟩ := (hr.stays_iff hk hp hi hc hb hj hno hq).mpr ⟨hnew, hold⟩
        exact ⟨q, k, (hr.installs hp hj).mpr (.inr ⟨hqp, hh, hq⟩)⟩
    · rintro ⟨q, k, hq⟩
      rcases (hr.installs hp hj).mp hq with ⟨-, rfl, hs, hx⟩ | ⟨hqp, hh, hq⟩
      · exact .inl ⟨hs, hx⟩
      · obtain ⟨hnew, hold⟩ := (hr.stays_iff hk hp hi hc hb hj hno hq).mp ⟨hqp, hh⟩
        refine .inr ⟨hnew, ⟨⟨q, k, hq⟩, hold⟩, ?_⟩
        rintro ⟨r, l, hr', hl, hs, rfl⟩
        exact hh ((hr'.installs hk hl hs).1.unique hq hk rfl ▸ hr')

/-- The neighbour of who had the address is still there. -/
theorem Mirrors.not_stranded (hm : Mirrors s) (hk : s.tbl.KeptBut none) (hp : Mem s.tbl.mac p)
    (hi : s.tbl.item p = some i) (hc : i.chaddr = user.chaddr) (hb : user.state = .BOUND)
    (hr : Tbl.Refreshed ans user p i s.tbl s'.tbl) (hj : s'.tbl.item p = some j) (hmoved : Moved user i j s s')
    (hm' : Mirrors s') : ¬ s.tbl.Stranded user i := by
  rintro ⟨q, k, hh, hk', hs, hother⟩
  obtain ⟨hq, hip⟩ := hh.installs hk hk' hs
  have hnew : ¬ (j.special ∧ k.place = j.place) := by
    rintro ⟨hjs, he⟩
    rw [hr.place hj] at he
    exact hother ⟨(hr.special hj hb).mp hjs, congrArg Prod.fst he⟩
  have hold : ¬ (i.special ∧ k.place = i.place) := by
    rintro ⟨his, he⟩
    have hpi : s.tbl.Installs i.place p i := ⟨hp, hi, his, rfl⟩
    obtain rfl := hq.unique hpi hk (by rw [he])
    exact Tbl.not_holder hi hc hh
  have hstays := (hmoved.neigh k.place k.chaddr).mpr (.inr ⟨hnew, (hm.neigh _ _).mpr ⟨q, k, hq, rfl⟩, hold⟩)
  obtain ⟨r, l, hl, -⟩ := (hm'.neigh _ _).mp hstays
  rcases (hr.installs hp hj).mp hl with ⟨-, -, hjs, he⟩ | ⟨hrp, hno, hl⟩
  · exact hnew ⟨hjs, he⟩
  · exact hno (hl.holder hk hp hi hc hip hrp)


/-- The loop takes the route of who has the address. -/
theorem conflictLoop_route (hk : s.tbl.KeptBut none) (hp : Mem s.tbl.mac p) (hi : s.tbl.item p = some i)
    (hc : i.chaddr = user.chaddr) (ha : user.ip_addr ≠ 0) (hnode : node.add_router = true) (hserve : ans.Serve) :
    ∃ s₁, conflictLoop ans node user (s.tbl.rounds v4 user.ip_addr) s = some (s₁, true) ∧
      Tbl.Cleared user p s.tbl s₁.tbl ∧ s₁.neigh = s.neigh ∧ ∀ x, s₁.route x = true ↔ s.route x = true ∧
        ¬ ∃ q k, Tbl.Holder s.tbl user q ∧ s.tbl.item q = some k ∧ k.special ∧ k.place = x := by
  obtain ⟨hr, hno, hcleared⟩ | ⟨j, T₁, hr, hj, hcj, h₁, hr₁, hno, hcleared⟩ |
    ⟨q, j, hr, hj, hcj, hholder, honly, hdelete⟩ := Tbl.conflict_cases hk hp hi hc ha
  · refine ⟨s, by simp [Tbl.rounds, conflictLoop, hr], hcleared, rfl, fun x => (and_iff_left ?_).symm⟩
    rintro ⟨q, -, hq, -⟩
    exact hno q hq
  · obtain ⟨n, hn⟩ := Tbl.rounds_eq hk.hashed ha hr
    refine ⟨{ s with tbl := T₁ }, by simp [hn, conflictLoop, hr, hj, hcj, h₁, hr₁], hcleared, rfl,
      fun x => (and_iff_left ?_).symm⟩
    rintro ⟨q, -, hq, -⟩
    exact hno q hq
  · obtain ⟨n, hn⟩ := Tbl.rounds_eq hk.hashed ha hr
    obtain ⟨T₁, h₁, hr₁, hcleared⟩ := hdelete (ans.db_delete q)
    have htbl : (s.when (node.add_router = true ∧ j.special) (routeDel j)).tbl = s.tbl := when_tbl fun s => routeDel_tbl
    refine ⟨{ s.when (node.add_router = true ∧ j.special) (routeDel j) with tbl := T₁ }, ?_, hcleared,
      routeDel_neigh, fun x => ?_⟩
    · simp [hn, conflictLoop, hr, hj, hcj, hserve.ifname, htbl, h₁, hr₁]
    · rw [routeDel_iff, and_congr_right_iff]
      intro _
      refine not_congr ⟨fun h => ⟨q, j, hholder, hj, h.1.2, h.2.symm⟩, ?_⟩
      rintro ⟨r, k, hh, hk', hs, hx⟩
      obtain rfl := honly r hh
      obtain rfl := Option.some.inj (hj.symm.trans hk')
      exact ⟨⟨hnode, hs⟩, hx.symm⟩

/-- The refresh of a client. -/
theorem refreshBind_moved (hk : s.tbl.KeptBut none) (hp : Mem s.tbl.mac p) (hi : s.tbl.item p = some i)
    (hc : i.chaddr = user.chaddr) (hcheck : u32ipCheck user.ip_addr = true) (hb : user.state = .BOUND)
    (hnode : node.no_arp = true ∧ node.add_router = true) (hserve : ans.Serve) :
    ∃ s' j, s.refreshBind ans user p node = some (s', true) ∧ Tbl.Refreshed ans user p i s.tbl s'.tbl ∧
      s'.tbl.item p = some j ∧ Moved user i j s s' := by
  have ha : user.ip_addr ≠ 0 := by
    intro h0
    rw [h0] at hcheck
    exact absurd hcheck (by decide)
  -- the old entries of the client
  obtain ⟨s₀, hs₀⟩ : ∃ s₀, s₀ = (s.when (node.no_arp = true ∧ i.special) (neighDel true i)).when
      (node.add_router = true ∧ i.special) (routeDel i) := ⟨_, rfl⟩
  have htbl₀ : s₀.tbl = s.tbl := by rw [hs₀, when_tbl fun s => routeDel_tbl, when_tbl fun s => neighDel_tbl]
  have hneigh₀ : ∀ x mac, s₀.neigh x = some mac ↔ s.neigh x = some mac ∧ ¬ (i.special ∧ x = i.place) := by
    intro x mac
    rw [hs₀, routeDel_neigh, neighDel_iff, and_iff_right hnode.1]
  have hroute₀ : ∀ x, s₀.route x = true ↔ s.route x = true ∧ ¬ (i.special ∧ x = i.place) := by
    intro x
    rw [hs₀, routeDel_iff, neighDel_route, and_iff_right hnode.2]
  obtain ⟨s₁, h₁, hcleared, hneigh₁, hroute₁⟩ := @conflictLoop_route ans node user s₀ i p (htbl₀ ▸ hk) (htbl₀ ▸ hp)
    (htbl₀ ▸ hi) hc ha hnode.2 hserve
  rw [htbl₀] at hcleared hroute₁
  obtain ⟨T₂, h₂, hrefreshed⟩ := @Tbl.Cleared.rebind _ _ _ _ ans _ hcleared hp hi ha
  -- the new ones
  obtain ⟨j, hj⟩ : ∃ j, j = fillBind ans.uptime ans.time user i := ⟨_, rfl⟩
  have hjT : T₂.item p = some j := by rw [hj]; exact hrefreshed.item
  have hspecial : j.vlanId = 0xFFFF ↔ j.special := by rw [Item.special, hj, fillBind_state, and_iff_left hb]
  obtain ⟨s₂, hs₂⟩ : ∃ s₂, s₂ = ((⟨T₂, s₁.neigh, s₁.route⟩ : Host).when (node.no_arp = true ∧ j.vlanId = 0xFFFF)
      (neighAdd true j)).when (node.add_router = true ∧ j.special) (routeAdd j) := ⟨_, rfl⟩
  have htbl₂ : s₂.tbl = T₂ := by rw [hs₂, when_tbl fun s => routeAdd_tbl, when_tbl fun s => neighAdd_tbl]
  refine ⟨s₂, j, ?_, htbl₂ ▸ hrefreshed, htbl₂ ▸ hjT, fun x mac => ?_, fun x => ?_⟩
  · rw [htbl₀] at h₁
    simp only [refreshBind, hcheck, not_true_eq_false, if_false, hi, Option.bind_eq_bind, Option.bind_some,
      hserve.neigh_del, and_false, hserve.ifname, ha]
    rw [← hs₀, htbl₀, h₁]
    simp only [Option.bind_some, if_true, h₂, hjT, install, hserve.neigh_add, hserve.ifname_add, not_true_eq_false,
      and_false, if_false, hs₂]
  · rw [hs₂, routeAdd_neigh, neighAdd_iff, and_iff_right hnode.1, hspecial, hneigh₁, hneigh₀]
  · rw [hs₂, routeAdd_iff, and_iff_right hnode.2, neighAdd_route, hroute₁, hroute₀]


theorem mirrors_refresh_iff (hm : Mirrors s) (hk : s.tbl.KeptBut none) (hp : Mem s.tbl.mac p)
    (hi : s.tbl.item p = some i) (hc : i.chaddr = user.chaddr) (hb : user.state = .BOUND)
    (hnode : node.no_arp = true ∧ node.add_router = true) (hserve : ans.Serve) :
    ∃ r, s.refreshBind ans user p node = some r ∧ (∃ j, r.1.tbl.item p = some j) ∧
      (Mirrors r.1 ↔ ¬ (u32ipCheck user.ip_addr = true ∧ s.tbl.Stranded user i)) := by
  by_cases hcheck : u32ipCheck user.ip_addr = true
  · obtain ⟨s', j, hs', hr, hj, hmoved⟩ := @Host.refreshBind_moved ans node user s i p hk hp hi hc hcheck hb hnode hserve
    refine ⟨(s', true), hs', ⟨j, hj⟩, ?_⟩
    rw [and_iff_right hcheck]
    exact ⟨hm.not_stranded hk hp hi hc hb hr hj hmoved, hm.refreshed hk hp hi hc hb hr hj hmoved⟩
  · exact ⟨(s, false), by simp [refreshBind, hcheck], ⟨i, hi⟩, iff_of_true hm fun hbad => hcheck hbad.1⟩

/-! ## The operations -/

/-- A message of a client that is not known is passed over. -/
theorem known_cases {f : Nat → Option Host} (hk : s.tbl.KeptBut none) (chaddr : Mac) :
    ((∀ p i, Mem s.tbl.mac p → s.tbl.item p = some i → i.chaddr ≠ chaddr) ∧ s.known chaddr f = some s) ∨
    ∃ p i, Mem s.tbl.mac p ∧ s.tbl.item p = some i ∧ i.chaddr = chaddr ∧ s.known chaddr f = f p := by
  obtain ⟨r, hr, hsome, hnone⟩ := Tbl.itemFind_spec hk chaddr
  cases r with
  | none => exact .inl ⟨hnone rfl, by simp [known, hr]⟩
  | some p =>
    obtain ⟨hp, i, hi, hc⟩ := hsome p rfl
    exact .inr ⟨p, i, hp, hi, hc, by simp [known, hr]⟩

/-- Whether the known client strands who has the address. -/
theorem strands_iff {ok : Item UInt32 → Prop} (hk : s.tbl.KeptBut none) (hp : Mem s.tbl.mac p)
    (hi : s.tbl.item p = some i) (hc : i.chaddr = user.chaddr) : s.tbl.Strands user ok ↔
      ok i ∧ u32ipCheck user.ip_addr = true ∧ s.tbl.Stranded user i := by
  constructor
  · rintro ⟨hcheck, q, j, hq, hj, hcj, hok, hst⟩
    obtain rfl := hk.macInj p q i j hp hq hi hj (hc.trans hcj.symm)
    obtain rfl := Option.some.inj (hi.symm.trans hj)
    exact ⟨hok, hcheck, hst⟩
  · rintro ⟨hok, hcheck, hst⟩
    exact ⟨hcheck, p, i, hp, hi, hc, hok, hst⟩

theorem not_strands {ok : Item UInt32 → Prop} (hno : ∀ p i, Mem s.tbl.mac p → s.tbl.item p = some i →
    i.chaddr ≠ user.chaddr) : ¬ s.tbl.Strands user ok := by
  rintro ⟨-, p, i, hp, hi, hc, -⟩
  exact hno p i hp hi hc


section
variable {vlanid : UInt16} {ifindex : UInt32} {dhcp : DhcpMessage} {packet : ArpPacket}
  (hm : Mirrors s) (hk : s.tbl.KeptBut none) (hserve : ans.Serve)
include hm hk

theorem mirrors_request : ∃ s', s.requestProcess ans vlanid ifindex dhcp = some s' ∧ Mirrors s' := by
  rw [requestProcess, Tbl.requestProcess]
  cases getItemFromPkt vlanid ifindex false dhcp with
  | none => exact ⟨s, rfl, hm⟩
  | some user =>
    obtain ⟨r, hr, -⟩ := Tbl.itemFind_spec hk user.chaddr
    cases r with
    | some p => exact ⟨s, by simp [hr], hm⟩
    | none =>
      refine ⟨{ s with tbl := (s.tbl.itemInsert { user with state := .REQUEST } ans.uptime ans.time ans.malloc).1 },
        by simp [hr], fun x mac => ?_, fun x => ?_⟩
      · simp only [Tbl.installs_itemInsert, hm.neigh]
      · simp only [Tbl.installs_itemInsert, hm.route]

include hserve

theorem mirrors_ack_iff (hnode : node.no_arp = true ∧ node.add_router = true) :
    ∃ s', s.ackProcess ans vlanid ifindex dhcp node = some s' ∧ (Mirrors s' ↔
      ¬ ∃ user, getItemFromPkt vlanid ifindex false dhcp = some user ∧
        s.tbl.Strands user fun i => i.bind_type = .DYNAMIC) := by
  rw [ackProcess]
  cases getItemFromPkt vlanid ifindex false dhcp with
  | none => exact ⟨s, rfl, iff_of_true hm (by simp)⟩
  | some user =>
    simp only [Option.some.injEq, exists_eq_left']
    obtain ⟨hno, hs⟩ | ⟨p, i, hp, hi, hc, hf⟩ := @Host.known_cases s _ hk user.chaddr
    · exact ⟨s, hs, iff_of_true hm (not_strands hno)⟩
    rw [strands_iff hk hp hi hc]
    by_cases hstatic : i.bind_type = .STATIC
    · exact ⟨s, hf.trans (by simp [hi, hstatic]), iff_of_true hm (by simp [hstatic])⟩
    have hdyn : i.bind_type = .DYNAMIC := by
      cases hb : i.bind_type with
      | DYNAMIC => rfl
      | STATIC => exact absurd hb hstatic
    obtain ⟨⟨s₁, ok⟩, hr, ⟨j, hj⟩, hiff⟩ := @Host.mirrors_refresh_iff ans node { user with state := .BOUND } s i p hm hk
      hp hi hc rfl hnode hserve
    rw [and_iff_right hdyn]
    refine ⟨s₁, hf.trans ?_, hiff⟩
    have hj₁ : s₁.tbl.item p = some j := hj
    cases ok <;> simp [hi, hstatic, hr, hj₁]

/-- The two messages that bind a client to an address of its own choice, where `stop` passes over them. -/
theorem mirrors_bind_iff {ok stop : Item UInt32 → Prop} [DecidablePred stop]
    (hnode : node.no_arp = true ∧ node.add_router = true) (hstop : ∀ i, stop i ↔ ¬ ok i) :
    ∃ s', s.known user.chaddr (fun p => do
        let i ← s.tbl.item p
        if stop i then some s else do
          let r ← s.refreshBind ans { user with state := .BOUND } p node
          some r.1) = some s' ∧ (Mirrors s' ↔ ¬ s.tbl.Strands user ok) := by
  obtain ⟨hno, hs⟩ | ⟨p, i, hp, hi, hc, hf⟩ := @Host.known_cases s _ hk user.chaddr
  · exact ⟨s, hs, iff_of_true hm (not_strands hno)⟩
  rw [strands_iff hk hp hi hc]
  by_cases hst : stop i
  · exact ⟨s, hf.trans (by simp [hi, hst]), iff_of_true hm fun hbad => (hstop i).mp hst hbad.1⟩
  · obtain ⟨r, hr, -, hiff⟩ := @Host.mirrors_refresh_iff ans node { user with state := .BOUND } s i p hm hk hp hi hc rfl
      hnode hserve
    rw [and_iff_right (not_not.mp (mt (hstop i).mpr hst))]
    exact ⟨r.1, hf.trans (by simp [hi, hst, hr]), hiff⟩

theorem mirrors_inform_iff (hnode : node.no_arp = true ∧ node.add_router = true) :
    ∃ s', s.informProcess ans vlanid ifindex dhcp node = some s' ∧ (Mirrors s' ↔
      ¬ ∃ user, getItemFromPkt vlanid ifindex true dhcp = some user ∧
        s.tbl.Strands user fun i => i.bind_type = .DYNAMIC ∧ i.state = .REQUEST) := by
  rw [informProcess]
  cases getItemFromPkt vlanid ifindex true dhcp with
  | none => exact ⟨s, rfl, iff_of_true hm (by simp)⟩
  | some user =>
    simp only [Option.some.injEq, exists_eq_left']
    refine mirrors_bind_iff hm hk hserve hnode fun i => ?_
    cases i.bind_type <;> cases i.state <;> decide

theorem mirrors_arp_iff (hnode : node.no_arp = true ∧ node.add_router = true) :
    ∃ s', s.gratuitousArpProcess ans vlanid ifindex packet node = some s' ∧ (Mirrors s' ↔
      ¬ s.tbl.Strands (userOfArp vlanid ifindex packet) fun i =>
        i.bind_type = .DYNAMIC ∧ i.state = .REQUEST ∧ i.ip_addr = packet.sip) := by
  rw [gratuitousArpProcess]
  by_cases hcheck : u32ipCheck (userOfArp vlanid ifindex packet).ip_addr = true
  · simp only [hcheck, not_true_eq_false, if_false]
    refine mirrors_bind_iff hm hk hserve hnode fun i => ?_
    have hip : (userOfArp vlanid ifindex packet).ip_addr = packet.sip := rfl
    cases i.bind_type <;> cases i.state <;> simp [hip]
  · exact ⟨s, by simp [hcheck], iff_of_true hm fun hbad => hcheck hbad.1⟩

omit hserve in
/-- Nothing is asked of the kernel for a DHCPNAK. -/
theorem mirrors_nack_iff : ∃ s', s.nackProcess ans vlanid ifindex dhcp = some s' ∧ (Mirrors s' ↔
    ¬ ∃ user p i, getItemFromPkt vlanid ifindex false dhcp = some user ∧ Mem s.tbl.mac p ∧ s.tbl.item p = some i ∧
      i.chaddr = user.chaddr ∧ i.bind_type = .DYNAMIC ∧ identityItem ans.beyond i user = true ∧ i.special) := by
  rw [nackProcess]
  cases getItemFromPkt vlanid ifindex false dhcp with
  | none => exact ⟨s, rfl, iff_of_true hm (by simp)⟩
  | some user =>
    obtain ⟨hno, hs⟩ | ⟨p, i, hp, hi, hc, hf⟩ := @Host.known_cases s _ hk user.chaddr
    · refine ⟨s, hs, iff_of_true hm ?_⟩
      rintro ⟨_, p, i, hu, hp, hi, hc, -⟩
      exact hno p i hp hi (Option.some.inj hu ▸ hc)
    -- the client is the one that is known
    have hone : (∃ user' p i, some user = some user' ∧ Mem s.tbl.mac p ∧ s.tbl.item p = some i ∧
        i.chaddr = user'.chaddr ∧ i.bind_type = .DYNAMIC ∧ identityItem ans.beyond i user' = true ∧ i.special) ↔
        i.bind_type = .DYNAMIC ∧ identityItem ans.beyond i user = true ∧ i.special := by
      constructor
      · rintro ⟨_, q, j, hu, hq, hj, hcj, hrest⟩
        obtain rfl := Option.some.inj hu
        obtain rfl := hk.macInj p q i j hp hq hi hj (hc.trans hcj.symm)
        obtain rfl := Option.some.inj (hi.symm.trans hj)
        exact hrest
      · exact fun hrest => ⟨user, p, i, rfl, hp, hi, hc, hrest⟩
    rw [hone]
    by_cases hstop : i.bind_type = .STATIC ∨ identityItem ans.beyond i user = false
    · refine ⟨s, hf.trans (by simp [hi, hstop]), iff_of_true hm ?_⟩
      rintro ⟨hdyn, hid, -⟩
      simp [hdyn, hid] at hstop
    obtain ⟨T₁, h₁, hw⟩ := Tbl.itemDelete_spec hk hp (ans.db_delete p)
    refine ⟨{ s with tbl := T₁ }, hf.trans (by simp [hi, hstop, h₁]), ?_⟩
    have hgo : i.bind_type = .DYNAMIC ∧ identityItem ans.beyond i user = true := by
      rw [not_or, Bool.not_eq_false] at hstop
      refine ⟨?_, hstop.2⟩
      cases hb : i.bind_type with
      | DYNAMIC => rfl
      | STATIC => exact absurd hb hstop.1
    rw [← and_assoc, and_iff_right hgo]
    exact hm.dropped_iff hk hp hi hw rfl rfl

theorem mirrors_release (hnode : node.no_arp = true ∧ node.add_router = true) :
    ∃ s', s.releaseProcess ans vlanid ifindex dhcp node = some s' ∧ Mirrors s' := by
  rw [releaseProcess]
  cases getItemFromPkt vlanid ifindex false dhcp with
  | none => exact ⟨s, rfl, hm⟩
  | some user =>
    obtain ⟨-, hs⟩ | ⟨p, i, hp, hi, hc, hf⟩ := @Host.known_cases s _ hk user.chaddr
    · exact ⟨s, hs, hm⟩
    by_cases hstop : i.bind_type = .STATIC ∨ identityItem ans.beyond i user = false
    · exact ⟨s, hf.trans (by simp [hi, hstop]), hm⟩
    obtain ⟨T₁, h₁, hw⟩ := Tbl.itemDelete_spec hk hp (ans.db_delete p)
    have htbl : ((s.when i.special (neighDel true i)).when i.special (routeDel i)).tbl = s.tbl := by
      rw [when_tbl fun s => routeDel_tbl, when_tbl fun s => neighDel_tbl]
    refine ⟨{ (s.when i.special (neighDel true i)).when i.special (routeDel i) with tbl := T₁ }, hf.trans ?_,
      hm.removed hk hp hi hw (fun x mac => ?_) fun x => ?_⟩
    · simp [hi, hstop, hnode.1, hnode.2, hserve.neigh_del, hserve.ifname, htbl, h₁]
    · rw [routeDel_neigh, neighDel_iff]
    · rw [routeDel_iff, neighDel_route]

end

/-- The items of one chain. -/
theorem mirrors_agingChain (hserve : ans.Serve) (l : List Nat) : ∀ s : Host, Mirrors s → s.tbl.KeptBut none → l.Nodup →
    (∀ q ∈ l, Mem s.tbl.mac q) → ∃ r, agingChain ans l s = some r ∧ Mirrors r.1 ∧ r.1.tbl.KeptBut none := by
  induction l with
  | nil => exact fun s hm hk _ _ => ⟨(s, true), rfl, hm, hk⟩
  | cons p l ih =>
    intro s hm hk hn hl
    have hp := hl p (by simp)
    obtain ⟨i, hi, -⟩ := hk.live hp
    obtain ⟨hpl, hn⟩ := List.nodup_cons.mp hn
    by_cases hexp : i.bind_type = .DYNAMIC ∧ i.cur_expire < ans.uptime
    · obtain ⟨T₁, h₁, hw⟩ := Tbl.itemDelete_spec hk hp (ans.db_delete p)
      obtain ⟨s₁, hs₁⟩ : ∃ s₁ : Host, s₁ = { (s.when (i.ip_addr ≠ 0 ∧ i.special) (neighDel true i)).when
        (i.ip_addr ≠ 0 ∧ i.special) (routeDel i) with tbl := T₁ } := ⟨_, rfl⟩
      -- who is bound has an address
      have haddr : i.ip_addr ≠ 0 ∧ i.special ↔ i.special :=
        and_iff_right_of_imp fun hs => Tbl.Installs.ne_zero ⟨hp, hi, hs, rfl⟩ hk
      have hw₁ : Tbl.Without p s.tbl s₁.tbl := by rw [hs₁]; exact hw
      have hm₁ : Mirrors s₁ := by
        have hneigh : s₁.neigh = (s.when (i.ip_addr ≠ 0 ∧ i.special) (neighDel true i)).neigh := by
          rw [hs₁]
          exact routeDel_neigh
        refine hm.removed hk hp hi hw₁ (fun x mac => ?_) fun x => ?_
        · rw [hneigh, neighDel_iff, haddr]
        · have hroute : s₁.route x = true ↔ s.route x = true ∧ ¬ ((i.ip_addr ≠ 0 ∧ i.special) ∧ x = i.place) := by
            rw [hs₁]
            exact routeDel_iff.trans (by rw [neighDel_route])
          rw [hroute, haddr]
      obtain ⟨r, hr, hrest⟩ := ih s₁ hm₁ (hk.without hw₁) hn fun q hq => by
        refine (hw₁.mem_mac hk).mpr ⟨hl q (by simp [hq]), ?_⟩
        rintro rfl
        exact hpl hq
      refine ⟨r, ?_, hrest⟩
      rw [agingChain, hi]
      simp only [Option.bind_eq_bind, Option.bind_some, if_pos hexp, hserve.neigh_del, hserve.ifname, Bool.and_self,
        not_true_eq_false, and_false, if_false]
      rw [when_tbl fun s => routeDel_tbl, when_tbl fun s => neighDel_tbl, h₁, ← hr, hs₁]
      rfl
    · obtain ⟨r, hr, hrest⟩ := ih s hm hk hn fun q hq => hl q (by simp [hq])
      refine ⟨r, ?_, hrest⟩
      rw [agingChain, hi]
      simp only [Option.bind_eq_bind, Option.bind_some, if_neg hexp, hr]

theorem mirrors_agingChains (hserve : ans.Serve) (ks : List Nat) : ∀ s : Host, Mirrors s → s.tbl.KeptBut none →
    ∃ s', agingChains ans ks s = some s' ∧ Mirrors s' := by
  induction ks with
  | nil => exact fun s hm _ => ⟨s, rfl, hm⟩
  | cons k ks ih =>
    intro s hm hk
    obtain ⟨⟨s₁, go⟩, h₁, hm₁, hk₁⟩ := mirrors_agingChain hserve (s.tbl.mac k) s hm hk (hk.macNodup k) fun q hq => ⟨k, hq⟩
    cases go with
    | false => exact ⟨s₁, by simp [agingChains, h₁], hm₁⟩
    | true =>
      obtain ⟨s', hs', hm'⟩ := ih s₁ hm₁ hk₁
      exact ⟨s', by simp [agingChains, h₁, hs'], hm'⟩

end

end Host

namespace ServedOp

/-- The tables keep their invariant. -/
theorem step_kept (s : Host) (op : ServedOp) (hk : s.tbl.KeptBut none) :
    ∃ s', step s op = some s' ∧ s'.tbl.KeptBut none := by
  obtain ⟨T', hT', hk'⟩ := Op.step_spec s.tbl op.op hk
  rw [← Op.hostStep_tbl] at hT'
  obtain ⟨s', hs', rfl⟩ := Option.map_eq_some_iff.mp hT'
  exact ⟨s', hs', hk'⟩

theorem run_kept (ops : List ServedOp) : ∃ s, tryRun step Host.empty ops = some s ∧ s.tbl.KeptBut none := by
  have hobeys : TryObeys step (fun _ _ => True) Host.empty ops := tryObeys_of_forall fun _ _ _ => trivial
  exact hobeys.run_inv (fun s op hk _ => step_kept s op hk) Tbl.keptBut_empty

/-- One operation. -/
theorem mirrors_step {s : Host} (op : ServedOp) (hm : s.Mirrors) (hk : s.tbl.KeptBut none) :
    ∃ s', step s op = some s' ∧ s'.tbl.KeptBut none ∧ (s'.Mirrors ↔ ¬ Op.Strands s.tbl op.op) := by
  have hone : ∃ s', Op.hostStep s op.op = some s' ∧ (s'.Mirrors ↔ ¬ Op.Strands s.tbl op.op) := by
    obtain ⟨⟨op, ans⟩, hnode, hserve⟩ := op
    cases op with
    | discover vlanid ifindex dhcp =>
      obtain ⟨s', hs', hm'⟩ := @Host.mirrors_request ans s vlanid ifindex dhcp hm hk
      exact ⟨s', hs', iff_of_true hm' id⟩
    | request vlanid ifindex dhcp =>
      obtain ⟨s', hs', hm'⟩ := @Host.mirrors_request ans s vlanid ifindex dhcp hm hk
      exact ⟨s', hs', iff_of_true hm' id⟩
    | ack vlanid ifindex dhcp node => exact Host.mirrors_ack_iff hm hk hserve (hnode node rfl)
    | nak vlanid ifindex dhcp => exact Host.mirrors_nack_iff hm hk
    | release vlanid ifindex dhcp node =>
      obtain ⟨s', hs', hm'⟩ := @Host.mirrors_release ans node s vlanid ifindex dhcp hm hk hserve (hnode node rfl)
      exact ⟨s', hs', iff_of_true hm' id⟩
    | inform vlanid ifindex dhcp node => exact Host.mirrors_inform_iff hm hk hserve (hnode node rfl)
    | arp vlanid ifindex packet node => exact Host.mirrors_arp_iff hm hk hserve (hnode node rfl)
    | aging =>
      obtain ⟨s', hs', hm'⟩ := Host.mirrors_agingChains hserve _ s hm hk
      exact ⟨s', hs', iff_of_true hm' id⟩
  obtain ⟨s', hs', hiff⟩ := hone
  obtain ⟨s'', hs'', hk'⟩ := step_kept s op hk
  obtain rfl := Option.some.inj (hs''.symm.trans hs')
  exact ⟨_, hs'', hk', hiff⟩

/-- In every state of a run what is installed is what is bound, if and only if no operation strands a neighbour. -/
theorem mirrors_iff (ops : List ServedOp) :
    TryObeys step (fun s op => ¬ Op.Strands s.tbl op.op) Host.empty ops ↔
      ∀ pre suf, ops = pre ++ suf → ∃ s, tryRun step Host.empty pre = some s ∧ s.Mirrors := by
  refine @tryObeys_iff _ _ _ _ (fun s => s.Mirrors ∧ s.tbl.KeptBut none) _ _ _ (fun s op hI hC => ?_)
    (fun s hI => hI.1) (fun s op s' hI hC hs' hm' => ?_) ⟨⟨fun x mac => ?_, fun x => ?_⟩, Tbl.keptBut_empty⟩
  · obtain ⟨s', hs', hk', hiff⟩ := op.mirrors_step hI.1 hI.2
    exact ⟨s', hs', hiff.mpr hC, hk'⟩
  · obtain ⟨s'', hs'', -, hiff⟩ := op.mirrors_step hI.1 hI.2
    obtain rfl := Option.some.inj (hs''.symm.trans hs')
    exact hC (hiff.mp hm')
  · refine iff_of_false (by simp [Host.empty]) ?_
    rintro ⟨p, i, ⟨hp, -⟩, -⟩
    exact not_mem_empty hp
  · refine iff_of_false (by simp [Host.empty]) ?_
    rintro ⟨p, i, hp, -⟩
    exact not_mem_empty hp

/-- The operation is done at `uptime`, with the memory `p` and a listener that manages the entries. -/
def servedAt (uptime : UInt32) (p : Nat) (op : Listener → Op)
    (h : ((op ⟨true, true⟩).listener.all fun node => node.no_arp && node.add_router) = true) : ServedOp where
  op := (op ⟨true, true⟩, { Tbl.answersAt uptime with malloc := some p })
  listener node hn := by
    rw [Option.mem_def.mp hn, Option.all_some, Bool.and_eq_true] at h
    exact h
  serve := ⟨fun _ => rfl, rfl, fun _ => rfl, rfl⟩

/-- The address 10.0.0.1 is given to a client on the interface 7, and then to one on the interface 8. -/
def addressMoves : List ServedOp :=
  [servedAt 10 1 (fun _ => .discover 0xFFFF 7 (Op.messageOf 1 NPD_DHCP_BOOTREQUEST 0 0 none)) (by decide),
    servedAt 11 1 (.ack 0xFFFF 7 (Op.messageOf 1 NPD_DHCP_BOOTREPLY 0 0x0a000001 (some 3600))) (by decide),
    servedAt 12 2 (fun _ => .discover 0xFFFF 8 (Op.messageOf 2 NPD_DHCP_BOOTREQUEST 0 0 none)) (by decide),
    servedAt 13 2 (.ack 0xFFFF 8 (Op.messageOf 2 NPD_DHCP_BOOTREPLY 0 0x0a000001 (some 3600))) (by decide)]

/-- The neighbour of the first client is still installed. -/
theorem address_moves_stranded : ¬ ∃ s, tryRun step Host.empty addressMoves = some s ∧ s.Mirrors := by
  rintro ⟨s, hs, hm⟩
  obtain ⟨s', hs', hk⟩ := run_kept addressMoves
  obtain rfl := Option.some.inj (hs'.symm.trans hs)
  have hneigh : (tryRun step Host.empty addressMoves).map (fun s => s.neigh (7, 0x0a000001)) =
      some (some #v[0, 0, 0, 0, 0, 1]) := by decide +kernel
  have horder : (tryRun step Host.empty addressMoves).map (fun s => s.tbl.order) = some [2] := by decide +kernel
  have hitem : (tryRun step Host.empty addressMoves).map (fun s => (s.tbl.item 2).map (·.chaddr)) =
      some (some #v[0, 0, 0, 0, 0, 2]) := by decide +kernel
  rw [hs] at hneigh horder hitem
  obtain ⟨p, i, ⟨hp, hi, -⟩, hc⟩ := (hm.neigh _ _).mp (Option.some.inj hneigh)
  have horder' : s'.tbl.order = [2] := Option.some.inj horder
  have hp' := (Tbl.mem_order hk).mpr hp
  rw [horder'] at hp'
  obtain rfl := List.mem_singleton.mp hp'
  obtain ⟨j, hj, hcj⟩ := Option.map_eq_some_iff.mp (Option.some.inj hitem)
  obtain rfl := Option.some.inj (hi.symm.trans hj)
  rw [hc] at hcj
  exact absurd hcj (by decide)

end ServedOp

end Snooping
end DaemonGroup
