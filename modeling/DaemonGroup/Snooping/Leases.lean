import DaemonGroup.Snooping.Ageing
import DaemonGroup.Snooping.Isolation
import Mathlib.Data.List.Induction

/-!
# DaemonGroup.Snooping.Leases

One client and its server on one VLAN and interface, and the binding of the client.

* `Op.hold` — what the messages say that the client has. `hold_iff` reads it off a run: the latest DHCPACK, if no
  DHCPNAK, no DHCPRELEASE and no ageing pass after its lease has ended it.
* `Exchange` — the client and its server keep to their VLAN and interface, and the others to their addresses.
* `Heeded` — what the operation does to the binding is what it says.
* `lease_followed_iff` — in all states of a run the client is bound as the messages say, exactly if all operations of
  the run are heeded.
-/

namespace DaemonGroup
namespace Snooping

open Lib Buckets

/-- An address that the client was given, and for how long. -/
structure Grant where
  address : UInt32
  since : UInt32
  lease : UInt32

instance (uptime t lease : UInt32) : Decidable (RunOut uptime t lease) := inferInstanceAs (Decidable (_ ∧ _))

/-- What the client `M` has after the operation. -/
def Op.hold (M : Mac) (held : Option Grant) (op : Op × Answers) : Option Grant :=
  match op.1 with
  | ack _ _ dhcp _ =>
    if dhcp.chaddr = M then dhcp.lease.map fun lease => ⟨dhcp.yiaddr, op.2.uptime, lease⟩ else held
  | nak _ _ dhcp | release _ _ dhcp _ => if dhcp.chaddr = M then none else held
  | aging => held.filter fun g => ¬ RunOut op.2.uptime g.since g.lease
  | _ => held

/-- The address that the operation gives to the client. -/
def Op.grants (M : Mac) (op : Op × Answers) : Option Grant :=
  match op.1 with
  | ack _ _ dhcp _ =>
    if dhcp.chaddr = M then dhcp.lease.map fun lease => ⟨dhcp.yiaddr, op.2.uptime, lease⟩ else none
  | _ => none

/-- It is a DHCPACK, a DHCPNAK or a DHCPRELEASE of the client. -/
def Op.speaks (M : Mac) : Op → Prop
  | ack _ _ dhcp _ | nak _ _ dhcp | release _ _ dhcp _ => dhcp.chaddr = M
  | _ => False

/-- The latest DHCPACK, DHCPNAK or DHCPRELEASE of the client gives it `g`, and the lease was not over at an ageing
pass since. -/
def Latest (M : Mac) (ops : List (Op × Answers)) (g : Grant) : Prop :=
  ∃ pre op suf, ops = pre ++ op :: suf ∧ Op.grants M op = some g ∧
    ∀ e ∈ suf, ¬ Op.speaks M e.1 ∧ (e.1 = .aging → ¬ RunOut e.2.uptime g.since g.lease)

/-- The tables, and what the client is said to have. -/
structure Watched where
  tbl : Tbl UInt32
  held : Option Grant

namespace Tbl

/-- The item is that of the client. -/
def Client (T : Tbl UInt32) (M : Mac) (p : Nat) (i : Item UInt32) : Prop :=
  Mem T.mac p ∧ T.item p = some i ∧ i.chaddr = M

def BoundTo (T : Tbl UInt32) (M : Mac) (a : UInt32) : Prop :=
  ∃ p i, T.Client M p i ∧ i.state = .BOUND ∧ i.ip_addr = a

/-- The address is not the one of the client. -/
def Elsewhere (T : Tbl UInt32) (M : Mac) (a : UInt32) : Prop := ∀ p i, T.Client M p i → i.ip_addr ≠ a

end Tbl

namespace Watched

def empty : Watched := ⟨.empty, none⟩

def step (M : Mac) (s : Watched) (op : Op × Answers) : Option Watched := do
  let T ← Op.step s.tbl op
  some ⟨T, Op.hold M s.held op⟩

/-- The client is bound to the address that it is said to have, and to no other. -/
def Follows (M : Mac) (s : Watched) : Prop := ∀ a, s.tbl.BoundTo M a ↔ s.held.map (·.address) = some a

end Watched

/-- The client and its server send what DHCP has them send, on one VLAN and one interface; another client does not
use the address of the client. -/
def Exchange (M : Mac) (V : UInt16) (I : UInt32) (s : Watched) (op : Op × Answers) : Prop :=
  match op.1 with
  | .discover vlanid ifindex dhcp | .request vlanid ifindex dhcp =>
    dhcp.chaddr = M → vlanid = V ∧ ifindex = I ∧ dhcp.op = NPD_DHCP_BOOTREQUEST
  | .ack vlanid ifindex dhcp _ =>
    if dhcp.chaddr = M then vlanid = V ∧ ifindex = I ∧ dhcp.op = NPD_DHCP_BOOTREPLY ∧ dhcp.lease.isSome = true ∧
      u32ipCheck dhcp.yiaddr = true
    else ∀ user, getItemFromPkt vlanid ifindex false dhcp = some user → s.tbl.Elsewhere M user.ip_addr
  | .nak vlanid ifindex dhcp => dhcp.chaddr = M → vlanid = V ∧ ifindex = I ∧ dhcp.op = NPD_DHCP_BOOTREPLY
  | .release vlanid ifindex dhcp _ => dhcp.chaddr = M → vlanid = V ∧ ifindex = I ∧ dhcp.op = NPD_DHCP_BOOTREQUEST
  | .inform vlanid ifindex dhcp _ => dhcp.chaddr ≠ M ∧
    ∀ user, getItemFromPkt vlanid ifindex true dhcp = some user → s.tbl.Elsewhere M user.ip_addr
  | .arp _ _ packet _ => packet.smac ≠ M ∧ s.tbl.Elsewhere M packet.sip
  | .aging => True

/-- The hardware address of the message is as long as that of the item. -/
def SameLength (ans : Answers) (i : Item UInt32) (dhcp : DhcpMessage) : Prop :=
  i.haddr_len = dhcp.hlen ∧ (i.haddr_len ≤ 6 ∨ ans.beyond = true)

/-- The operation does to the binding of the client what it says. A DHCPACK is for a known client and is not refused,
unless the client has the address already; a DHCPNAK for a bound client has a lease time; the ageing pass comes to the
client and finds its expiry in the past exactly if the lease is over. -/
def Heeded (M : Mac) (s : Watched) (op : Op × Answers) : Prop :=
  match op.1 with
  | .ack vlanid ifindex dhcp node => dhcp.chaddr = M → ∃ user p i, getItemFromPkt vlanid ifindex false dhcp = some user ∧
    s.tbl.Client M p i ∧ (¬ Tbl.Refused op.2 node s.tbl user p i ∨ (i.state = .BOUND ∧ i.ip_addr = dhcp.yiaddr))
  | .nak _ _ dhcp => dhcp.chaddr = M → ∀ p i, s.tbl.Client M p i → i.state = .BOUND →
    dhcp.lease.isSome = true ∧ SameLength op.2 i dhcp
  | .release _ _ dhcp node => dhcp.chaddr = M → ∀ p i, s.tbl.Client M p i → i.state = .BOUND →
    SameLength op.2 i dhcp ∧ ¬ (node.add_router = true ∧ i.special ∧ op.2.ifname p = false)
  | .aging => ∀ p i g, s.tbl.Client M p i → i.state = .BOUND → s.held = some g →
    ((p ∈ s.tbl.order.takeWhile fun q => !s.tbl.gone op.2 q) ∧ i.cur_expire < op.2.uptime ↔
      RunOut op.2.uptime g.since g.lease)
  | _ => True

/-! ## What the messages say -/

section
variable {M : Mac} {op : Op × Answers} {ops : List (Op × Answers)} {held : Option Grant} {g : Grant}

/-- What the client has after an operation, it is given then, or has had before. -/
theorem hold_eq_some : Op.hold M held op = some g ↔ Op.grants M op = some g ∨
    (held = some g ∧ ¬ Op.speaks M op.1 ∧ (op.1 = .aging → ¬ RunOut op.2.uptime g.since g.lease)) := by
  obtain ⟨op, ans⟩ := op
  cases op with
  | discover vlanid ifindex dhcp => simp [Op.hold, Op.grants, Op.speaks]
  | request vlanid ifindex dhcp => simp [Op.hold, Op.grants, Op.speaks]
  | ack vlanid ifindex dhcp node => by_cases hM : dhcp.chaddr = M <;> simp [Op.hold, Op.grants, Op.speaks, hM]
  | nak vlanid ifindex dhcp => by_cases hM : dhcp.chaddr = M <;> simp [Op.hold, Op.grants, Op.speaks, hM]
  | release vlanid ifindex dhcp node => by_cases hM : dhcp.chaddr = M <;> simp [Op.hold, Op.grants, Op.speaks, hM]
  | inform vlanid ifindex dhcp node => simp [Op.hold, Op.grants, Op.speaks]
  | arp vlanid ifindex packet node => simp [Op.hold, Op.grants, Op.speaks]
  | aging => simp [Op.hold, Op.grants, Op.speaks, Option.filter_eq_some_iff]

theorem latest_snoc : Latest M (ops ++ [op]) g ↔ Op.grants M op = some g ∨
    (Latest M ops g ∧ ¬ Op.speaks M op.1 ∧ (op.1 = .aging → ¬ RunOut op.2.uptime g.since g.lease)) := by
  constructor
  · rintro ⟨pre, x, suf, heq, hx, hsuf⟩
    rcases List.eq_nil_or_concat suf with rfl | ⟨suf', y, rfl⟩
    · obtain ⟨-, rfl⟩ : ops = pre ∧ op = x := by simpa using List.append_inj' heq rfl
      exact .inl hx
    · rw [List.concat_eq_append, ← List.cons_append, ← List.append_assoc] at heq
      obtain ⟨rfl, rfl⟩ : ops = pre ++ x :: suf' ∧ op = y := by simpa using List.append_inj' heq rfl
      exact .inr ⟨⟨pre, x, suf', rfl, hx, fun e he => hsuf e (by simp [he])⟩, hsuf op (by simp)⟩
  · rintro (hop | ⟨⟨pre, x, suf, rfl, hx, hsuf⟩, hop⟩)
    · exact ⟨ops, op, [], rfl, hop, by simp⟩
    · refine ⟨pre, x, suf ++ [op], by simp, hx, fun e he => ?_⟩
      rcases List.mem_append.mp he with he | he
      · exact hsuf e he
      · obtain rfl := List.mem_singleton.mp he
        exact hop

/-- What the client has by the operations of a run. -/
theorem hold_iff (ops : List (Op × Answers)) : ops.foldl (Op.hold M) none = some g ↔ Latest M ops g := by
  induction ops using List.reverseRecOn with
  | nil =>
    refine iff_of_false (by simp) ?_
    rintro ⟨pre, op, suf, h, -⟩
    simp at h
  | append_singleton ops op ih => rw [List.foldl_concat, hold_eq_some, latest_snoc, ih]

end

namespace Tbl

section
variable {T T' : Tbl UInt32} {M : Mac} {p q : Nat} {i j : Item UInt32} {a : UInt32} {ans : Answers} {node : Listener}
  {user : User UInt32}

/-! ## The item of the client -/

theorem Client.unique (h : T.Client M p i) (h' : T.Client M q j) (hk : KeptBut none T) : p = q ∧ i = j :=
  hk.unique h.1 h.2.1 h'.1 h'.2.1 (h.2.2.trans h'.2.2.symm)

theorem Client.boundTo_iff (h : T.Client M p i) (hk : KeptBut none T) :
    T.BoundTo M a ↔ i.state = .BOUND ∧ i.ip_addr = a := by
  constructor
  · rintro ⟨q, j, hj, hb⟩
    obtain ⟨-, rfl⟩ := h.unique hj hk
    exact hb
  · exact fun hb => ⟨p, i, h, hb⟩

theorem boundTo_congr (h : ∀ p i, T'.Client M p i ↔ T.Client M p i) : T'.BoundTo M a ↔ T.BoundTo M a := by
  simp only [BoundTo, h]

theorem Without.client (hw : Without p T T') (hk : KeptBut none T) : T'.Client M q j ↔ T.Client M q j ∧ q ≠ p := by
  rw [Client, Client, hw.mem_mac hk]
  constructor
  · rintro ⟨⟨hq, hne⟩, hj, hc⟩
    rw [hw.item q hne] at hj
    exact ⟨⟨hq, hj, hc⟩, hne⟩
  · rintro ⟨⟨hq, hj, hc⟩, hne⟩
    rw [← hw.item q hne] at hj
    exact ⟨⟨hq, hne⟩, hj, hc⟩

/-- Another client goes. -/
theorem Without.client_other (hw : Without p T T') (hk : KeptBut none T) (hi : T.item p = some i)
    (hne : i.chaddr ≠ M) : T'.Client M q j ↔ T.Client M q j := by
  rw [hw.client hk]
  refine and_iff_left_of_imp fun hq => ?_
  rintro rfl
  obtain rfl := Option.some.inj (hi.symm.trans hq.2.1)
  exact hne hq.2.2

/-- What there is after the insertion: the clients of before, and the new one. -/
theorem client_itemInsert {uptime time : UInt32} {malloc : Option Nat}
    (h : Client (T.itemInsert user uptime time malloc).1 M q j) :
    T.Client M q j ∨ (j = fillItem uptime time user ∧ user.chaddr = M) := by
  obtain ⟨hq, hj, hc⟩ := h
  rcases item_itemInsert hj with hj' | rfl
  · exact .inl ⟨(sameAt_itemInsert hj').mem_mac.mp hq, hj', hc⟩
  · exact .inr ⟨rfl, hc⟩

theorem Client.itemInsert {uptime time : UInt32} {malloc : Option Nat} (h : T.Client M q j) :
    Client (T.itemInsert user uptime time malloc).1 M q j := by
  have hsame := @sameAt_itemInsert T q j user uptime time malloc h.2.1
  exact ⟨hsame.mem_mac.mpr h.1, hsame.1.trans h.2.1, h.2.2⟩

/-- Another client is given an address that the client does not have. -/
theorem Refreshed.client_other (hr : Refreshed ans user p i T T') (hi : T.item p = some i)
    (hne : i.chaddr ≠ M) (helse : T.Elsewhere M user.ip_addr) : T'.Client M q j ↔ T.Client M q j := by
  have hself : ∀ T'' : Tbl UInt32, ∀ k, T''.item p = some k → k.chaddr = i.chaddr → ¬ T''.Client M p j := by
    rintro T'' k hk' hc ⟨-, hj, hM⟩
    obtain rfl := Option.some.inj (hk'.symm.trans hj)
    exact hne (hc.symm.trans hM)
  by_cases hq : q = p
  · subst hq
    exact iff_of_false (hself T' _ hr.item fillBind_chaddr) (hself T i hi rfl)
  by_cases hh : Holder T user q
  · refine iff_of_false (fun hbad => hr.gone q hh hbad.1) fun hbad => ?_
    obtain ⟨-, k, hk', he, -⟩ := hh
    obtain rfl := Option.some.inj (hbad.2.1.symm.trans hk')
    exact helse q _ hbad he
  · have hsame := hr.same q hq hh
    rw [Client, Client, hsame.mem_mac, hsame.1]

/-! ## The messages of other clients -/

theorem other_refresh (hk : KeptBut none T) (hp : Mem T.mac p) (hi : T.item p = some i) (hc : i.chaddr = user.chaddr)
    (hne : user.chaddr ≠ M) (helse : T.Elsewhere M user.ip_addr) : ∃ r, T.refreshBind ans user p node = some r ∧
      (∃ j, r.1.item p = some j) ∧ ∀ q j, r.1.Client M q j ↔ T.Client M q j := by
  obtain ⟨-, hr⟩ | ⟨-, T', hr, hrefreshed⟩ := @refreshBind_cases _ _ _ ans node _ hk hp hi hc
  · exact ⟨_, hr, ⟨i, hi⟩, fun _ _ => Iff.rfl⟩
  · exact ⟨_, hr, ⟨_, hrefreshed.item⟩, fun _ _ => hrefreshed.client_other hi (hc ▸ hne) helse⟩

variable {vlanid : UInt16} {ifindex : UInt32} {dhcp : DhcpMessage} {packet : ArpPacket}

theorem other_request (hk : KeptBut none T) (hne : dhcp.chaddr ≠ M) :
    ∃ T', T.requestProcess ans vlanid ifindex dhcp = some T' ∧ ∀ q j, T'.Client M q j ↔ T.Client M q j := by
  rw [requestProcess]
  cases hu : getItemFromPkt vlanid ifindex false dhcp with
  | none => exact ⟨T, rfl, fun _ _ => Iff.rfl⟩
  | some user =>
    rw [← getItemFromPkt_chaddr hu] at hne
    obtain ⟨r, hr, -⟩ := itemFind_spec hk user.chaddr
    cases r with
    | some p => exact ⟨T, by simp [hr], fun _ _ => Iff.rfl⟩
    | none =>
      refine ⟨_, by simp [hr]; rfl, fun q j => ⟨fun h => ?_, Client.itemInsert⟩⟩
      rcases client_itemInsert h with h | ⟨-, hM⟩
      · exact h
      · exact absurd hM hne

theorem other_ack (hk : KeptBut none T) (hne : dhcp.chaddr ≠ M)
    (helse : ∀ user, getItemFromPkt vlanid ifindex false dhcp = some user → T.Elsewhere M user.ip_addr) :
    ∃ T', T.ackProcess ans vlanid ifindex dhcp node = some T' ∧ ∀ q j, T'.Client M q j ↔ T.Client M q j := by
  rw [ackProcess]
  cases hu : getItemFromPkt vlanid ifindex false dhcp with
  | none => exact ⟨T, rfl, fun _ _ => Iff.rfl⟩
  | some user =>
    rw [← getItemFromPkt_chaddr hu] at hne
    obtain ⟨-, hT⟩ | ⟨p, i, hp, hi, hc, hf⟩ := known_cases hk user.chaddr
    · exact ⟨T, hT, fun _ _ => Iff.rfl⟩
    by_cases hstatic : i.bind_type = .STATIC
    · exact ⟨T, hf.trans (by simp [hi, hstatic]), fun _ _ => Iff.rfl⟩
    obtain ⟨⟨T₁, ok⟩, h₁, ⟨j, hj⟩, hsame⟩ := @other_refresh _ M _ _ ans node { user with state := .BOUND } hk hp hi hc hne
      (helse user hu)
    have hj₁ : T₁.item p = some j := hj
    exact ⟨T₁, hf.trans (by cases ok <;> simp [hi, hstatic, h₁, hj₁]), hsame⟩

theorem other_nack (hk : KeptBut none T) (hne : dhcp.chaddr ≠ M) :
    ∃ T', T.nackProcess ans vlanid ifindex dhcp = some T' ∧ ∀ q j, T'.Client M q j ↔ T.Client M q j := by
  rw [nackProcess]
  cases hu : getItemFromPkt vlanid ifindex false dhcp with
  | none => exact ⟨T, rfl, fun _ _ => Iff.rfl⟩
  | some user =>
    rw [← getItemFromPkt_chaddr hu] at hne
    obtain ⟨-, hT⟩ | ⟨p, i, hp, hi, hc, hf⟩ := known_cases hk user.chaddr
    · exact ⟨T, hT, fun _ _ => Iff.rfl⟩
    by_cases hstop : i.bind_type = .STATIC ∨ identityItem ans.beyond i user = false
    · exact ⟨T, hf.trans (by simp [hi, hstop]), fun _ _ => Iff.rfl⟩
    obtain ⟨T₁, h₁, hw⟩ := itemDelete_spec hk hp (ans.db_delete p)
    exact ⟨T₁, hf.trans (by simp [hi, hstop, h₁]), fun _ _ => hw.client_other hk hi (hc ▸ hne)⟩

theorem other_release (hk : KeptBut none T) (hne : dhcp.chaddr ≠ M) :
    ∃ T', T.releaseProcess ans vlanid ifindex dhcp node = some T' ∧ ∀ q j, T'.Client M q j ↔ T.Client M q j := by
  rw [releaseProcess]
  cases hu : getItemFromPkt vlanid ifindex false dhcp with
  | none => exact ⟨T, rfl, fun _ _ => Iff.rfl⟩
  | some user =>
    rw [← getItemFromPkt_chaddr hu] at hne
    obtain ⟨-, hT⟩ | ⟨p, i, hp, hi, hc, hf⟩ := known_cases hk user.chaddr
    · exact ⟨T, hT, fun _ _ => Iff.rfl⟩
    by_cases hstop : i.bind_type = .STATIC ∨ identityItem ans.beyond i user = false
    · exact ⟨T, hf.trans (by simp [hi, hstop]), fun _ _ => Iff.rfl⟩
    by_cases hname : node.add_router = true ∧ i.special ∧ ans.ifname p = false
    · exact ⟨T, hf.trans (by simp [hi, hstop, hname]), fun _ _ => Iff.rfl⟩
    obtain ⟨T₁, h₁, hw⟩ := itemDelete_spec hk hp (ans.db_delete p)
    exact ⟨T₁, hf.trans (by simp [hi, hstop, hname, h₁]), fun _ _ => hw.client_other hk hi (hc ▸ hne)⟩

/-- The two messages that bind a client to an address of its own choice. -/
theorem other_bind {stop : Item UInt32 → Prop} [DecidablePred stop] (hk : KeptBut none T) (hne : user.chaddr ≠ M)
    (helse : T.Elsewhere M user.ip_addr) : ∃ T', (do match ← T.itemFind user.chaddr with
      | none => some T
      | some p => do
        let i ← T.item p
        if stop i then some T else do
          let r ← T.refreshBind ans { user with state := .BOUND } p node
          some r.1) = some T' ∧ ∀ q j, T'.Client M q j ↔ T.Client M q j := by
  obtain ⟨-, hT⟩ | ⟨p, i, hp, hi, hc, hf⟩ := @known_cases T (fun p => do
    let i ← T.item p
    if stop i then some T else do
      let r ← T.refreshBind ans { user with state := .BOUND } p node
      some r.1) hk user.chaddr
  · exact ⟨T, hT, fun _ _ => Iff.rfl⟩
  by_cases hs : stop i
  · exact ⟨T, hf.trans (by simp [hi, hs]), fun _ _ => Iff.rfl⟩
  obtain ⟨r, hr, -, hsame⟩ := @other_refresh _ M _ _ ans node { user with state := .BOUND } hk hp hi hc hne helse
  exact ⟨r.1, hf.trans (by simp [hi, hs, hr]), hsame⟩

theorem other_inform (hk : KeptBut none T) (hne : dhcp.chaddr ≠ M)
    (helse : ∀ user, getItemFromPkt vlanid ifindex true dhcp = some user → T.Elsewhere M user.ip_addr) :
    ∃ T', T.informProcess ans vlanid ifindex dhcp node = some T' ∧ ∀ q j, T'.Client M q j ↔ T.Client M q j := by
  rw [informProcess]
  cases hu : getItemFromPkt vlanid ifindex true dhcp with
  | none => exact ⟨T, rfl, fun _ _ => Iff.rfl⟩
  | some user =>
    rw [← getItemFromPkt_chaddr hu] at hne
    exact other_bind hk hne (helse user hu)

theorem other_arp (hk : KeptBut none T) (hne : packet.smac ≠ M) (helse : T.Elsewhere M packet.sip) :
    ∃ T', T.gratuitousArpProcess ans vlanid ifindex packet node = some T' ∧
      ∀ q j, T'.Client M q j ↔ T.Client M q j := by
  rw [gratuitousArpProcess]
  by_cases hcheck : u32ipCheck (userOfArp vlanid ifindex packet).ip_addr = true
  · rw [if_neg (not_not.mpr hcheck)]
    exact @other_bind _ M ans node (userOfArp vlanid ifindex packet) _ _ hk hne helse
  · exact ⟨T, by simp [hcheck], fun _ _ => Iff.rfl⟩

/-! ## The messages of the client and its server -/

/-- What the handlers take from a message. -/
def userOfPkt (vlanid : UInt16) (ifindex : UInt32) (dhcp : DhcpMessage) (ip_addr lease_time : UInt32) : User UInt32 :=
  { haddr_len := dhcp.hlen, chaddr := dhcp.chaddr, vlanId := vlanid, ip_addr := ip_addr, lease_time := lease_time
    ifindex := ifindex }

theorem getItemFromPkt_request (h : dhcp.op = NPD_DHCP_BOOTREQUEST) : getItemFromPkt vlanid ifindex false dhcp =
    some (userOfPkt vlanid ifindex dhcp 0 NPD_DHCP_SNP_REQUEST_TIMEOUT) := by
  simp only [getItemFromPkt, h, Bool.false_eq_true, and_false, if_false]
  rfl

theorem getItemFromPkt_reply (h : dhcp.op = NPD_DHCP_BOOTREPLY) : getItemFromPkt vlanid ifindex false dhcp =
    dhcp.lease.map (userOfPkt vlanid ifindex dhcp dhcp.yiaddr) := by
  simp only [getItemFromPkt, h, if_true]
  rfl

/-- The item of the client was made for it on its VLAN and interface. -/
def Sits (T : Tbl UInt32) (M : Mac) (V : UInt16) (I : UInt32) : Prop :=
  ∀ p i, T.Client M p i → i.bind_type = .DYNAMIC ∧ i.vlanId = V ∧ i.ifindex = I

variable {V : UInt16} {I : UInt32}

theorem Sits.mono (h : T.Sits M V I) (hsub : ∀ p i, T'.Client M p i → T.Client M p i) : T'.Sits M V I :=
  fun p i hi => h p i (hsub p i hi)

/-- The identity of the item comes down to the length of the hardware address. -/
theorem identityItem_iff {lease : UInt32} (hs : T.Sits M V I) (hi : T.Client M p i) (hM : dhcp.chaddr = M) :
    identityItem ans.beyond i (userOfPkt V I dhcp a lease) = true ↔ SameLength ans i dhcp := by
  obtain ⟨-, hvlan, hif⟩ := hs p i hi
  have hc : i.chaddr = dhcp.chaddr := hi.2.2.trans hM.symm
  simp only [identityItem, userOfPkt, SameLength, hvlan, hif, hc, decide_eq_true_eq, true_and, or_true]

theorem own_request (hk : KeptBut none T) (hs : T.Sits M V I) (hM : dhcp.chaddr = M)
    (hop : dhcp.op = NPD_DHCP_BOOTREQUEST) : ∃ T', T.requestProcess ans V I dhcp = some T' ∧ T'.Sits M V I ∧
      ∀ a, T'.BoundTo M a ↔ T.BoundTo M a := by
  rw [requestProcess, getItemFromPkt_request hop]
  obtain ⟨r, hr, -, hnone⟩ := itemFind_spec hk (userOfPkt V I dhcp 0 NPD_DHCP_SNP_REQUEST_TIMEOUT).chaddr
  cases r with
  | some p => exact ⟨T, by simp [hr], hs, fun _ => Iff.rfl⟩
  | none =>
    have hno : ∀ p i, ¬ T.Client M p i := fun p i hi => hnone rfl p i hi.1 hi.2.1 (hi.2.2.trans hM.symm)
    obtain ⟨T', hT'⟩ : ∃ T', T' = (T.itemInsert { userOfPkt V I dhcp 0 NPD_DHCP_SNP_REQUEST_TIMEOUT with
      state := .REQUEST } ans.uptime ans.time ans.malloc).1 := ⟨_, rfl⟩
    have hnew : ∀ p i, T'.Client M p i → i = fillItem ans.uptime ans.time
        { userOfPkt V I dhcp 0 NPD_DHCP_SNP_REQUEST_TIMEOUT with state := .REQUEST } := by
      intro p i hi
      rw [hT'] at hi
      rcases client_itemInsert hi with hi | ⟨he, -⟩
      · exact absurd hi (hno p i)
      · exact he
    refine ⟨T', by rw [hT']; simp [hr], fun p i hi => ?_, fun a => ?_⟩
    · rw [hnew p i hi]
      exact ⟨rfl, rfl, rfl⟩
    · refine iff_of_false ?_ ?_
      · rintro ⟨p, i, hi, hb, -⟩
        rw [hnew p i hi] at hb
        cases hb
      · rintro ⟨p, i, hi, -⟩
        exact hno p i hi

theorem own_ack {lease : UInt32} (hk : KeptBut none T) (hs : T.Sits M V I) (hM : dhcp.chaddr = M)
    (hop : dhcp.op = NPD_DHCP_BOOTREPLY) (hlease : dhcp.lease = some lease) :
    ∃ T', T.ackProcess ans V I dhcp node = some T' ∧ T'.Sits M V I ∧
      ((∀ a, T'.BoundTo M a ↔ dhcp.yiaddr = a) ↔ ∃ p i, T.Client M p i ∧
        (¬ Refused ans node T (userOfPkt V I dhcp dhcp.yiaddr lease) p i ∨
          (i.state = .BOUND ∧ i.ip_addr = dhcp.yiaddr))) := by
  rw [ackProcess, getItemFromPkt_reply hop, hlease, Option.map_some]
  obtain ⟨user, huser⟩ : ∃ user, user = userOfPkt V I dhcp dhcp.yiaddr lease := ⟨_, rfl⟩
  rw [← huser]
  have hchaddr : user.chaddr = M := by rw [huser, userOfPkt, hM]
  obtain ⟨hno, hT⟩ | ⟨p, i, hp, hi, hc, hf⟩ := known_cases hk user.chaddr
  · refine ⟨T, hT, hs, iff_of_false (fun hall => ?_) ?_⟩
    · obtain ⟨p, i, hi, -⟩ := (hall dhcp.yiaddr).mpr rfl
      exact hno p i hi.1 hi.2.1 (hi.2.2.trans hchaddr.symm)
    · rintro ⟨p, i, hi, -⟩
      exact hno p i hi.1 hi.2.1 (hi.2.2.trans hchaddr.symm)
  have hclient : T.Client M p i := ⟨hp, hi, hc.trans hchaddr⟩
  have hdyn : i.bind_type ≠ .STATIC := by
    rw [(hs p i hclient).1]
    decide
  have hone : (∃ q j, T.Client M q j ∧ (¬ Refused ans node T user q j ∨ (j.state = .BOUND ∧ j.ip_addr = dhcp.yiaddr))) ↔
      (¬ Refused ans node T user p i ∨ (i.state = .BOUND ∧ i.ip_addr = dhcp.yiaddr)) := by
    constructor
    · rintro ⟨q, j, hj, hrest⟩
      obtain ⟨rfl, rfl⟩ := hclient.unique hj hk
      exact hrest
    · exact fun hrest => ⟨p, i, hclient, hrest⟩
  rw [hone]
  obtain ⟨hrefused, hr⟩ | ⟨hgo, T', hr, hrefreshed⟩ :=
    @refreshBind_cases _ _ _ ans node { user with state := .BOUND } hk hp hi hc
  · -- nothing is done: then the client must have had the address
    have hrefused' : Refused ans node T user p i := hrefused
    refine ⟨T, hf.trans (by simp [hi, hr]), hs, ?_⟩
    rw [or_iff_right (not_not.mpr hrefused')]
    simp only [hclient.boundTo_iff hk]
    constructor
    · exact fun hall => (hall dhcp.yiaddr).mpr rfl
    · rintro ⟨hb, he⟩ a
      rw [and_iff_right hb, he]
  · have hgo' : ¬ Refused ans node T user p i := hgo
    have hclient' : T'.Client M p (fillBind ans.uptime ans.time { user with state := .BOUND } i) :=
      ⟨(exists_congr hrefreshed.mac).mpr hp, hrefreshed.item, by rw [fillBind_chaddr]; exact hclient.2.2⟩
    refine ⟨T', hf.trans ?_, fun q j hj => ?_, iff_of_true (fun a => ?_) (.inl hgo')⟩
    · cases htold : ans.told node (fillBind ans.uptime ans.time { user with state := .BOUND } i) <;>
        simp [hi, hdyn, hr, htold, hrefreshed.item]
    · obtain ⟨rfl, rfl⟩ := hclient'.unique hj hrefreshed.kept
      obtain ⟨-, hvlan, -⟩ := hs p i hclient
      refine ⟨?_, by rw [fillBind_vlanId, hvlan], by rw [fillBind_ifindex, huser]; rfl⟩
      rw [fillBind_bind_type]
      exact (hs p i hclient).1
    · rw [hclient'.boundTo_iff hrefreshed.kept, fillBind_state, fillBind_ip_addr, and_iff_right rfl, huser]
      rfl

/-- An operation that is to end the binding: it does unless it passes a bound client over. -/
theorem ended_iff {pass : Nat → Item UInt32 → Prop} (hk : KeptBut none T) (hs : T.Sits M V I)
    (h : (∀ p i, ¬ T.Client M p i) ∧ T' = T ∨ ∃ p i, T.Client M p i ∧
      (pass p i ∧ T' = T ∨ ¬ pass p i ∧ Without p T T')) :
    T'.Sits M V I ∧ ((∀ a, ¬ T'.BoundTo M a) ↔ ∀ p i, T.Client M p i → i.state = .BOUND → ¬ pass p i) := by
  obtain ⟨hno, rfl⟩ | ⟨p, i, hi, ⟨hpass, rfl⟩ | ⟨hpass, hw⟩⟩ := h
  · refine ⟨hs, iff_of_true ?_ fun p i hi => absurd hi (hno p i)⟩
    rintro a ⟨p, i, hi, -⟩
    exact hno p i hi
  · refine ⟨hs, ?_⟩
    simp only [hi.boundTo_iff hk]
    constructor
    · intro hall q j hj hb
      obtain ⟨rfl, rfl⟩ := hi.unique hj hk
      exact absurd ⟨hb, rfl⟩ (hall i.ip_addr)
    · rintro hall a ⟨hb, -⟩
      exact hall p i hi hb hpass
  · refine ⟨hs.mono fun q j hj => ((hw.client hk).mp hj).1, iff_of_true ?_ ?_⟩
    · rintro a ⟨q, j, hj, -⟩
      obtain ⟨hj, hne⟩ := (hw.client hk).mp hj
      exact hne (hi.unique hj hk).1.symm
    · intro q j hj _
      obtain ⟨rfl, rfl⟩ := hi.unique hj hk
      exact hpass

theorem own_nack (hk : KeptBut none T) (hs : T.Sits M V I) (hM : dhcp.chaddr = M) (hop : dhcp.op = NPD_DHCP_BOOTREPLY) :
    ∃ T', T.nackProcess ans V I dhcp = some T' ∧ T'.Sits M V I ∧ ((∀ a, ¬ T'.BoundTo M a) ↔
      ∀ p i, T.Client M p i → i.state = .BOUND → dhcp.lease.isSome = true ∧ SameLength ans i dhcp) := by
  have hended : ∃ T', T.nackProcess ans V I dhcp = some T' ∧
      ((∀ p i, ¬ T.Client M p i) ∧ T' = T ∨ ∃ p i, T.Client M p i ∧
        (¬ (dhcp.lease.isSome = true ∧ SameLength ans i dhcp) ∧ T' = T ∨
          ¬ ¬ (dhcp.lease.isSome = true ∧ SameLength ans i dhcp) ∧ Without p T T')) := by
    rw [nackProcess, getItemFromPkt_reply hop]
    cases hl : dhcp.lease with
    | none =>
      -- what is common to all replies is looked for first
      refine ⟨T, rfl, ?_⟩
      by_cases hknown : ∃ p i, T.Client M p i
      · obtain ⟨p, i, hi⟩ := hknown
        exact .inr ⟨p, i, hi, .inl ⟨fun hbad => by simp at hbad, rfl⟩⟩
      · exact .inl ⟨fun p i hi => hknown ⟨p, i, hi⟩, rfl⟩
    | some lease =>
      rw [Option.map_some]
      obtain ⟨hno, hT⟩ | ⟨p, i, hp, hi, hc, hf⟩ := known_cases hk (userOfPkt V I dhcp dhcp.yiaddr lease).chaddr
      · exact ⟨T, hT, .inl ⟨fun p i hi => hno p i hi.1 hi.2.1 (hi.2.2.trans hM.symm), rfl⟩⟩
      have hclient : T.Client M p i := ⟨hp, hi, hc.trans hM⟩
      have hdyn : i.bind_type ≠ .STATIC := by
        rw [(hs p i hclient).1]
        decide
      have hid := @identityItem_iff T M p i dhcp.yiaddr ans dhcp V I lease hs hclient hM
      by_cases halike : SameLength ans i dhcp
      · obtain ⟨T₁, h₁, hw⟩ := itemDelete_spec hk hp (ans.db_delete p)
        refine ⟨T₁, hf.trans ?_, .inr ⟨p, i, hclient, .inr ⟨not_not.mpr ⟨rfl, halike⟩, hw⟩⟩⟩
        simp [hi, hdyn, hid.mpr halike, h₁]
      · refine ⟨T, hf.trans ?_, .inr ⟨p, i, hclient, .inl ⟨fun hbad => halike hbad.2, rfl⟩⟩⟩
        simp [hi, Bool.eq_false_iff.mpr (mt hid.mp halike)]
  obtain ⟨T', hT', hcases⟩ := hended
  obtain ⟨hs', hiff⟩ := ended_iff hk hs hcases
  refine ⟨T', hT', hs', hiff.trans ?_⟩
  simp only [not_not]

theorem own_release (hk : KeptBut none T) (hs : T.Sits M V I) (hM : dhcp.chaddr = M)
    (hop : dhcp.op = NPD_DHCP_BOOTREQUEST) : ∃ T', T.releaseProcess ans V I dhcp node = some T' ∧ T'.Sits M V I ∧
      ((∀ a, ¬ T'.BoundTo M a) ↔ ∀ p i, T.Client M p i → i.state = .BOUND →
        SameLength ans i dhcp ∧ ¬ (node.add_router = true ∧ i.special ∧ ans.ifname p = false)) := by
  have hended : ∃ T', T.releaseProcess ans V I dhcp node = some T' ∧
      ((∀ p i, ¬ T.Client M p i) ∧ T' = T ∨ ∃ p i, T.Client M p i ∧
        (¬ (SameLength ans i dhcp ∧ ¬ (node.add_router = true ∧ i.special ∧ ans.ifname p = false)) ∧ T' = T ∨
        ¬ ¬ (SameLength ans i dhcp ∧ ¬ (node.add_router = true ∧ i.special ∧ ans.ifname p = false)) ∧ Without p T T')) := by
    rw [releaseProcess, getItemFromPkt_request hop]
    obtain ⟨hno, hT⟩ | ⟨p, i, hp, hi, hc, hf⟩ :=
      known_cases hk (userOfPkt V I dhcp 0 NPD_DHCP_SNP_REQUEST_TIMEOUT).chaddr
    · exact ⟨T, hT, .inl ⟨fun p i hi => hno p i hi.1 hi.2.1 (hi.2.2.trans hM.symm), rfl⟩⟩
    have hclient : T.Client M p i := ⟨hp, hi, hc.trans hM⟩
    have hdyn : i.bind_type ≠ .STATIC := by
      rw [(hs p i hclient).1]
      decide
    have hid := @identityItem_iff T M p i 0 ans dhcp V I NPD_DHCP_SNP_REQUEST_TIMEOUT hs hclient hM
    by_cases halike : SameLength ans i dhcp
    swap
    · refine ⟨T, hf.trans ?_, .inr ⟨p, i, hclient, .inl ⟨fun hbad => halike hbad.1, rfl⟩⟩⟩
      simp [hi, Bool.eq_false_iff.mpr (mt hid.mp halike)]
    by_cases hname : node.add_router = true ∧ i.special ∧ ans.ifname p = false
    · refine ⟨T, hf.trans ?_, .inr ⟨p, i, hclient, .inl ⟨fun hbad => hbad.2 hname, rfl⟩⟩⟩
      simp [hi, hname]
    · obtain ⟨T₁, h₁, hw⟩ := itemDelete_spec hk hp (ans.db_delete p)
      refine ⟨T₁, hf.trans ?_, .inr ⟨p, i, hclient, .inr ⟨not_not.mpr ⟨halike, hname⟩, hw⟩⟩⟩
      simp [hi, hdyn, hid.mpr halike, hname, h₁]
  obtain ⟨T', hT', hcases⟩ := hended
  obtain ⟨hs', hiff⟩ := ended_iff hk hs hcases
  refine ⟨T', hT', hs', hiff.trans ?_⟩
  simp only [not_not]

/-! ## The ageing pass -/

theorem aged_client (hk : KeptBut none T) (hs : T.Sits M V I) :
    ∃ T', T.agingMechanism ans = some T' ∧ ∀ p i, T'.Client M p i ↔ T.Client M p i ∧
      ¬ ((p ∈ T.order.takeWhile fun q => !T.gone ans q) ∧ i.cur_expire < ans.uptime) := by
  obtain ⟨T', hT', haged⟩ := @agingMechanism_aged ans T hk
  refine ⟨T', hT', fun p i => ?_⟩
  constructor
  · rintro ⟨hp, hi, hc⟩
    obtain ⟨hp, hstay⟩ := haged.mem_mac.mp hp
    rw [haged.item p hstay] at hi
    have hclient : T.Client M p i := ⟨hp, hi, hc⟩
    rw [expired_iff hi, and_iff_right (hs p i hclient).1] at hstay
    exact ⟨hclient, hstay⟩
  · rintro ⟨hclient, hstay⟩
    obtain ⟨hp, hi, hc⟩ := id hclient
    rw [← and_iff_right (a := i.bind_type = .DYNAMIC) (b := i.cur_expire < ans.uptime) (hs p i hclient).1,
      ← expired_iff hi] at hstay
    exact ⟨haged.mem_mac.mpr ⟨hp, hstay⟩, (haged.item p hstay).trans hi, hc⟩

end

end Tbl

namespace Watched

section
variable {M : Mac} {V : UInt16} {I : UInt32} {s : Watched}

/-- An operation of another client changes nothing. -/
theorem follows_other {s' : Watched} (h : ∀ p i, s'.tbl.Client M p i ↔ s.tbl.Client M p i) (hheld : s'.held = s.held)
    (hf : Follows M s) : Follows M s' := by
  intro a
  rw [Tbl.boundTo_congr h, hheld]
  exact hf a

theorem follows_none {T : Tbl UInt32} : Follows M ⟨T, none⟩ ↔ ∀ a, ¬ T.BoundTo M a := by
  simp [Follows]

theorem follows_some {T : Tbl UInt32} {g : Grant} : Follows M ⟨T, some g⟩ ↔ ∀ a, T.BoundTo M a ↔ g.address = a := by
  simp [Follows]

/-- The ageing pass ends the binding exactly if the lease is over. -/
theorem follows_aging {ans : Answers} (hk : s.tbl.KeptBut none) (hs : s.tbl.Sits M V I) (hf : Follows M s) :
    ∃ s', step M s (.aging, ans) = some s' ∧ s'.tbl.Sits M V I ∧ (Follows M s' ↔ Heeded M s (.aging, ans)) := by
  obtain ⟨T', hT', hclient⟩ := @Tbl.aged_client _ _ ans _ _ hk hs
  refine ⟨⟨T', Op.hold M s.held (.aging, ans)⟩, ?_, hs.mono fun p i hi => ((hclient p i).mp hi).1, ?_⟩
  · have hrun : Op.step s.tbl (.aging, ans) = some T' := hT'
    simp [step, hrun]
  obtain ⟨T, held⟩ := s
  cases held with
  | none =>
    refine iff_of_true (follows_none.mpr fun a => ?_) fun p i g _ _ hg => by cases hg
    rintro ⟨p, i, hi, hb⟩
    exact follows_none.mp hf a ⟨p, i, ((hclient p i).mp hi).1, hb⟩
  | some g =>
    obtain ⟨p, i, hi, hb, ha⟩ := (follows_some.mp hf g.address).mpr rfl
    have hheeded : Heeded M ⟨T, some g⟩ (.aging, ans) ↔ ((p ∈ T.order.takeWhile fun q => !T.gone ans q) ∧
        i.cur_expire < ans.uptime ↔ RunOut ans.uptime g.since g.lease) := by
      constructor
      · exact fun h => h p i g hi hb rfl
      · intro h q j g' hj _ hg
        obtain rfl := Option.some.inj hg
        obtain ⟨rfl, rfl⟩ := hi.unique hj hk
        exact h
    have hbound : ∀ a, T'.BoundTo M a ↔ ¬ ((p ∈ T.order.takeWhile fun q => !T.gone ans q) ∧
        i.cur_expire < ans.uptime) ∧ g.address = a := by
      intro a
      constructor
      · rintro ⟨q, j, hj, hbj, haj⟩
        obtain ⟨hj, hstay⟩ := (hclient q j).mp hj
        obtain ⟨rfl, rfl⟩ := hi.unique hj hk
        exact ⟨hstay, ha.symm.trans haj⟩
      · rintro ⟨hstay, rfl⟩
        exact ⟨p, i, (hclient p i).mpr ⟨hi, hstay⟩, hb, ha⟩
    rw [hheeded]
    by_cases hrun : RunOut ans.uptime g.since g.lease
    · have hheld : Op.hold M (some g) (.aging, ans) = none := by simp [Op.hold, Option.filter, hrun]
      rw [hheld, follows_none, iff_true_right hrun]
      simp only [hbound]
      exact ⟨fun hall => not_not.mp fun hstay => hall g.address ⟨hstay, rfl⟩, fun hout a hb => hb.1 hout⟩
    · have hheld : Op.hold M (some g) (.aging, ans) = some g := by simp [Op.hold, Option.filter, hrun]
      rw [hheld, follows_some, iff_false_right hrun]
      simp only [hbound]
      exact ⟨fun hall => ((hall g.address).mpr rfl).1, fun hstay a => and_iff_right hstay⟩

/-- One operation. -/
theorem follows_step (op : Op × Answers) (hk : s.tbl.KeptBut none) (hs : s.tbl.Sits M V I) (hf : Follows M s)
    (hD : Exchange M V I s op) : ∃ s', step M s op = some s' ∧ s'.tbl.Sits M V I ∧ (Follows M s' ↔ Heeded M s op) := by
  obtain ⟨op, ans⟩ := op
  -- what the tables are after the operation is all there is to find
  have hstep : ∀ T' : Tbl UInt32, Op.step s.tbl (op, ans) = some T' →
      step M s (op, ans) = some ⟨T', Op.hold M s.held (op, ans)⟩ := by
    intro T' hT'
    rw [step, hT']
    rfl
  have hother : (∃ T', Op.step s.tbl (op, ans) = some T' ∧ ∀ p i, T'.Client M p i ↔ s.tbl.Client M p i) →
      Op.hold M s.held (op, ans) = s.held → Heeded M s (op, ans) →
      ∃ s', step M s (op, ans) = some s' ∧ s'.tbl.Sits M V I ∧ (Follows M s' ↔ Heeded M s (op, ans)) := by
    rintro ⟨T', hT', hsame⟩ hheld hh
    exact ⟨_, hstep T' hT', hs.mono fun p i => (hsame p i).mp, iff_of_true (follows_other hsame hheld hf) hh⟩
  cases op with
  | discover vlanid ifindex dhcp =>
    by_cases hM : dhcp.chaddr = M
    · obtain ⟨rfl, rfl, hop⟩ := hD hM
      obtain ⟨T', hT', hs', hsame⟩ := @Tbl.own_request _ M ans dhcp _ _ hk hs hM hop
      exact ⟨_, hstep T' hT', hs', iff_of_true (fun a => (hsame a).trans (hf a)) trivial⟩
    · exact hother (Tbl.other_request hk hM) rfl trivial
  | request vlanid ifindex dhcp =>
    by_cases hM : dhcp.chaddr = M
    · obtain ⟨rfl, rfl, hop⟩ := hD hM
      obtain ⟨T', hT', hs', hsame⟩ := @Tbl.own_request _ M ans dhcp _ _ hk hs hM hop
      exact ⟨_, hstep T' hT', hs', iff_of_true (fun a => (hsame a).trans (hf a)) trivial⟩
    · exact hother (Tbl.other_request hk hM) rfl trivial
  | ack vlanid ifindex dhcp node =>
    by_cases hM : dhcp.chaddr = M
    · obtain ⟨rfl, rfl, hop, hlease, -⟩ := (if_pos hM).mp hD
      obtain ⟨lease, hlease⟩ := Option.isSome_iff_exists.mp hlease
      obtain ⟨T', hT', hs', hiff⟩ := @Tbl.own_ack _ M ans node dhcp _ _ lease hk hs hM hop hlease
      refine ⟨_, hstep T' hT', hs', ?_⟩
      have hheld : Op.hold M s.held (.ack vlanid ifindex dhcp node, ans) = some ⟨dhcp.yiaddr, ans.uptime, lease⟩ := by
        simp [Op.hold, hM, hlease]
      have hheeded : Heeded M s (.ack vlanid ifindex dhcp node, ans) ↔ ∃ p i, s.tbl.Client M p i ∧
          (¬ Tbl.Refused ans node s.tbl (Tbl.userOfPkt vlanid ifindex dhcp dhcp.yiaddr lease) p i ∨
            (i.state = .BOUND ∧ i.ip_addr = dhcp.yiaddr)) := by
        simp [Heeded, hM, Tbl.getItemFromPkt_reply hop, hlease]
      rw [hheld, follows_some, hheeded]
      exact hiff
    · exact hother (Tbl.other_ack hk hM ((if_neg hM).mp hD)) (if_neg hM) fun hbad => absurd hbad hM
  | nak vlanid ifindex dhcp =>
    by_cases hM : dhcp.chaddr = M
    · obtain ⟨rfl, rfl, hop⟩ := hD hM
      obtain ⟨T', hT', hs', hiff⟩ := @Tbl.own_nack _ M ans dhcp _ _ hk hs hM hop
      refine ⟨_, hstep T' hT', hs', ?_⟩
      have hheld : Op.hold M s.held (.nak vlanid ifindex dhcp, ans) = none := if_pos hM
      rw [hheld, follows_none, hiff]
      exact ⟨fun h _ => h, fun h => h hM⟩
    · exact hother (Tbl.other_nack hk hM) (if_neg hM) fun hbad => absurd hbad hM
  | release vlanid ifindex dhcp node =>
    by_cases hM : dhcp.chaddr = M
    · obtain ⟨rfl, rfl, hop⟩ := hD hM
      obtain ⟨T', hT', hs', hiff⟩ := @Tbl.own_release _ M ans node dhcp _ _ hk hs hM hop
      refine ⟨_, hstep T' hT', hs', ?_⟩
      have hheld : Op.hold M s.held (.release vlanid ifindex dhcp node, ans) = none := if_pos hM
      rw [hheld, follows_none, hiff]
      exact ⟨fun h _ => h, fun h => h hM⟩
    · exact hother (Tbl.other_release hk hM) (if_neg hM) fun hbad => absurd hbad hM
  | inform vlanid ifindex dhcp node => exact hother (Tbl.other_inform hk hD.1 hD.2) rfl trivial
  | arp vlanid ifindex packet node => exact hother (Tbl.other_arp hk hD.1 hD.2) rfl trivial
  | aging => exact follows_aging hk hs hf

/-- The tables of a run are those without what the client is said to have. -/
theorem tryRun_step (M : Mac) (ops : List (Op × Answers)) : ∀ s : Watched,
    tryRun (step M) s ops = (tryRun Op.step s.tbl ops).map fun T => ⟨T, ops.foldl (Op.hold M) s.held⟩ := by
  induction ops with
  | nil => exact fun s => rfl
  | cons op ops ih =>
    intro s
    rw [tryRun, tryRun, step]
    cases Op.step s.tbl op with
    | none => rfl
    | some T => exact ih _

end

/-- The client is bound as the messages say in all states of a run, if and only if all operations are heeded. -/
theorem lease_followed_iff {M : Mac} {V : UInt16} {I : UInt32} (ops : List (Op × Answers))
    (h : TryObeys (step M) (Exchange M V I) empty ops) : TryObeys (step M) (Heeded M) empty ops ↔
      ∀ pre suf, ops = pre ++ suf → ∃ T, tryRun Op.step Tbl.empty pre = some T ∧
        ∀ a, T.BoundTo M a ↔ ∃ g, Latest M pre g ∧ g.address = a := by
  have hone : ∀ (s : Watched) (op : Op × Answers), (s.tbl.KeptBut none ∧ s.tbl.Sits M V I ∧ Follows M s) →
      Exchange M V I s op → ∃ s', step M s op = some s' ∧ s'.tbl.KeptBut none ∧ s'.tbl.Sits M V I ∧
        (Follows M s' ↔ Heeded M s op) := by
    rintro s op ⟨hk, hs, hf⟩ hD
    obtain ⟨s', hs', hsits, hiff⟩ := follows_step op hk hs hf hD
    obtain ⟨T', hT', hk'⟩ := Op.step_spec s.tbl op hk
    rw [step, hT'] at hs'
    obtain rfl := Option.some.inj hs'
    exact ⟨_, by rw [step, hT']; rfl, hk', hsits, hiff⟩
  have hinit : ∀ p i, ¬ Tbl.Client Tbl.empty M p i := fun p i hi => not_mem_empty hi.1
  have hfollows : Follows M empty := by
    refine follows_none.mpr fun a => ?_
    rintro ⟨p, i, hi, -⟩
    exact hinit p i hi
  rw [@TryObeys.iff_within _ _ _ _ (fun s => s.tbl.KeptBut none ∧ s.tbl.Sits M V I ∧ Follows M s) (Follows M) _ _ _ h
    (fun s op hI hD hC => ?_) (fun s hI => hI.2.2) (fun s op s' hI hD hC hs' hf' => ?_) ⟨Tbl.keptBut_empty,
      fun p i hi => absurd hi (hinit p i), hfollows⟩]
  · refine forall₃_congr fun pre suf _ => ?_
    have htbl : empty.tbl = Tbl.empty := rfl
    rw [tryRun_step, htbl]
    cases tryRun Op.step Tbl.empty pre with
    | none => simp
    | some T => simp only [Option.map_some, Option.some.injEq, exists_eq_left', Follows, Option.map_eq_some_iff, empty, hold_iff]
  · obtain ⟨s', hs', hk', hsits, hiff⟩ := hone s op hI hD
    exact ⟨s', hs', hk', hsits, hiff.mpr hC⟩
  · obtain ⟨s'', hs'', -, -, hiff⟩ := hone s op hI hD
    obtain rfl := Option.some.inj (hs''.symm.trans hs')
    exact hC (hiff.mp hf')

/-- A client is bound to 10.0.0.1, and gets a DHCPNAK then. -/
def refusedLater (lease : Option UInt32) : List (Op × Answers) :=
  [(.discover 5 7 (Op.messageOf 1 NPD_DHCP_BOOTREQUEST 0 0 none), Tbl.answersAt 10),
    (.ack 5 7 (Op.messageOf 1 NPD_DHCP_BOOTREPLY 0 0x0a000001 (some 3600)) ⟨false, false⟩, Tbl.answersAt 11),
    (.nak 5 7 (Op.messageOf 1 NPD_DHCP_BOOTREPLY 0 0 lease), Tbl.answersAt 1800)]

theorem exchange_refusedLater (lease : Option UInt32) :
    TryObeys (step #v[0, 0, 0, 0, 0, 1]) (Exchange #v[0, 0, 0, 0, 0, 1] 5 7) empty (refusedLater lease) := by
  have hdiscover : ∀ s, Exchange #v[0, 0, 0, 0, 0, 1] 5 7 s
      (.discover 5 7 (Op.messageOf 1 NPD_DHCP_BOOTREQUEST 0 0 none), Tbl.answersAt 10) := fun s _ => ⟨rfl, rfl, rfl⟩
  have hack : ∀ s, Exchange #v[0, 0, 0, 0, 0, 1] 5 7 s (.ack 5 7 (Op.messageOf 1 NPD_DHCP_BOOTREPLY 0 0x0a000001
      (some 3600)) ⟨false, false⟩, Tbl.answersAt 11) := by
    intro s
    rw [Exchange]
    dsimp only [Op.messageOf]
    rw [if_pos rfl]
    exact ⟨rfl, rfl, rfl, rfl, by decide⟩
  have hnak : ∀ s, Exchange #v[0, 0, 0, 0, 0, 1] 5 7 s
      (.nak 5 7 (Op.messageOf 1 NPD_DHCP_BOOTREPLY 0 0 lease), Tbl.answersAt 1800) := fun s _ => ⟨rfl, rfl, rfl⟩
  exact ⟨hdiscover _, fun _ _ => ⟨hack _, fun _ _ => ⟨hnak _, fun _ _ => trivial⟩⟩⟩

theorem lease_followed_iff_refused :
    TryObeys (step #v[0, 0, 0, 0, 0, 1]) (Heeded #v[0, 0, 0, 0, 0, 1]) empty (refusedLater (some 3600)) ↔
      ∀ pre suf, refusedLater (some 3600) = pre ++ suf → ∃ T, tryRun Op.step Tbl.empty pre = some T ∧
        ∀ a, T.BoundTo #v[0, 0, 0, 0, 0, 1] a ↔ ∃ g, Latest #v[0, 0, 0, 0, 0, 1] pre g ∧ g.address = a :=
  lease_followed_iff (refusedLater (some 3600)) (exchange_refusedLater (some 3600))

/-- A DHCPNAK has no lease time: the client stays bound. -/
theorem nak_without_lease :
    TryObeys (step #v[0, 0, 0, 0, 0, 1]) (Exchange #v[0, 0, 0, 0, 0, 1] 5 7) empty (refusedLater none) ∧
      ¬ ∃ T, tryRun Op.step Tbl.empty (refusedLater none) = some T ∧ ∀ a, T.BoundTo #v[0, 0, 0, 0, 0, 1] a ↔
        ∃ g, Latest #v[0, 0, 0, 0, 0, 1] (refusedLater none) g ∧ g.address = a := by
  refine ⟨exchange_refusedLater none, ?_⟩
  rintro ⟨T, hT, hall⟩
  obtain ⟨T', hT', hk⟩ := Op.run_spec (refusedLater none)
  obtain rfl := Option.some.inj (hT'.symm.trans hT)
  have horder : (tryRun Op.step Tbl.empty (refusedLater none)).map (fun T => T.order) = some [1] := by decide +kernel
  have hitem : (tryRun Op.step Tbl.empty (refusedLater none)).map
      (fun T => (T.item 1).map fun i => (i.chaddr, i.state, i.ip_addr)) =
        some (some (#v[0, 0, 0, 0, 0, 1], .BOUND, 0x0a000001)) := by decide +kernel
  rw [hT] at horder hitem
  have horder' : T'.order = [1] := Option.some.inj horder
  obtain ⟨i, hi, hfields⟩ := Option.map_eq_some_iff.mp (Option.some.inj hitem)
  obtain ⟨hc, hb, ha⟩ : i.chaddr = #v[0, 0, 0, 0, 0, 1] ∧ i.state = .BOUND ∧ i.ip_addr = 0x0a000001 := by
    simpa using hfields
  have hmem : Mem T'.mac 1 := (Tbl.mem_order hk).mp (by rw [horder']; decide)
  obtain ⟨g, hg, -⟩ := (hall 0x0a000001).mp ⟨1, i, ⟨hmem, hi, hc⟩, hb, ha⟩
  have hheld : (refusedLater none).foldl (Op.hold #v[0, 0, 0, 0, 0, 1]) none = some g := (hold_iff _).mpr hg
  have hnone : (refusedLater none).foldl (Op.hold #v[0, 0, 0, 0, 0, 1]) none = none := rfl
  rw [hnone] at hheld
  cases hheld

end Watched

end Snooping
end DaemonGroup
