import DaemonGroup.Snooping.Ageing

/-!
# DaemonGroup.Snooping.Hosts

The permanent neighbours and the host routes that are installed for bound clients: the functions of `Packets` once
more, with what they ask of the kernel. `Op.hostStep_tbl` says that the tables are those of `Packets`.

The kernel has one neighbour for an interface and an address; `RTM_NEWNEIGH` with `NLM_F_REPLACE` puts another one in
its place. A request for a neighbour reaches the kernel if the interface has a name and the message is sent; one for
a route is made only when the interface has a name.

`Snooping.Mirrors` says when what is installed is what is bound.
-/

namespace DaemonGroup
namespace Snooping

open Lib Buckets

/-- The tables and what is installed, by interface and address. -/
structure Host where
  tbl : Tbl UInt32
  neigh : UInt32 × UInt32 → Option Mac
  route : UInt32 × UInt32 → Bool

/-- Where the entries of the item are. -/
def Item.place (i : Item UInt32) : UInt32 × UInt32 := (i.ifindex, i.ip_addr)

namespace Host

def empty : Host := ⟨.empty, fun _ => none, fun _ => false⟩

/-- `dhcp_snp_netlink_do_ipneigh` with `DHCPSNP_RTNL_IPNEIGH_ADD_E`, if it reaches the kernel. -/
def neighAdd (sent : Bool) (i : Item UInt32) (s : Host) : Host :=
  if sent then { s with neigh := Function.update s.neigh i.place (some i.chaddr) } else s

def neighDel (sent : Bool) (i : Item UInt32) (s : Host) : Host :=
  if sent then { s with neigh := Function.update s.neigh i.place none } else s

/-- `dhcp_snp_netlink_add_static_route` with `DHCPSNP_RTNL_STATIC_ROUTE_ADD_E`. -/
def routeAdd (i : Item UInt32) (s : Host) : Host := { s with route := Function.update s.route i.place true }

def routeDel (i : Item UInt32) (s : Host) : Host := { s with route := Function.update s.route i.place false }

/-- The statement is run under a condition. -/
def when (p : Prop) [Decidable p] (f : Host → Host) (s : Host) : Host := if p then f s else s

section
variable (ans : Answers)

/-- The loop of `dhcp_snp_tbl_refresh_bind`. The neighbour of the client that is deleted stays. -/
def conflictLoop (node : Listener) (user : User UInt32) : Nat → Host → Option (Host × Bool)
  | 0, _ => none
  | n + 1, s => do
    match ← s.tbl.itemFindByIp v4 user.ip_addr with
    | none => some (s, true)
    | some q =>
      let tmp ← s.tbl.item q
      if tmp.chaddr ≠ user.chaddr then
        if node.add_router ∧ tmp.special ∧ ¬ ans.ifname q then some (s, false)
        else
          let s := s.when (node.add_router ∧ tmp.special) (routeDel tmp)
          let T ← s.tbl.itemDelete v4 q (ans.db_delete q)
          conflictLoop node user n { s with tbl := T }
      else
        let T ← s.tbl.itemDeleteIphash v4 q
        conflictLoop node user n { s with tbl := T }

/-- The end of `dhcp_snp_tbl_refresh_bind`: the client is installed. -/
def install (node : Listener) (i : Item UInt32) (s : Host) : Host × Bool :=
  if node.no_arp ∧ i.vlanId = 0xFFFF ∧ ¬ ans.neigh_add then (s, false)
  else
    let s := s.when (node.no_arp ∧ i.vlanId = 0xFFFF) (neighAdd ans.ifname_add i)
    if node.add_router ∧ i.special ∧ ¬ ans.ifname_add then (s, false)
    else (s.when (node.add_router ∧ i.special) (routeAdd i), true)

/-- `dhcp_snp_tbl_refresh_bind`, and if it succeeds. -/
def refreshBind (user : User UInt32) (p : Nat) (node : Listener) (s : Host) : Option (Host × Bool) := do
  if ¬ u32ipCheck user.ip_addr then some (s, false)
  else
    let i ← s.tbl.item p
    if node.no_arp ∧ i.special ∧ ¬ ans.neigh_del p then some (s, false)
    else
      let s := s.when (node.no_arp ∧ i.special) (neighDel (ans.ifname p) i)
      if node.add_router ∧ i.special ∧ ¬ ans.ifname p then some (s, false)
      else
        let s := s.when (node.add_router ∧ i.special) (routeDel i)
        let r ← if user.ip_addr = 0 then some (s, true)
          else conflictLoop ans node user (s.tbl.rounds v4 user.ip_addr) s
        if r.2 then
          let T ← r.1.tbl.rebind ans user p
          let i ← T.item p
          some (install ans node i { r.1 with tbl := T })
        else some (r.1, false)

/-- The processing of a message of a known client. -/
def known (chaddr : Mac) (f : Nat → Option Host) (s : Host) : Option Host := do
  match ← s.tbl.itemFind chaddr with
  | none => some s
  | some p => f p

/-- `dhcp_snp_discovery_process` and `dhcp_snp_request_process`. -/
def requestProcess (vlanid : UInt16) (ifindex : UInt32) (dhcp : DhcpMessage) (s : Host) : Option Host := do
  let T ← s.tbl.requestProcess ans vlanid ifindex dhcp
  some { s with tbl := T }

/-- `dhcp_snp_ack_process`. -/
def ackProcess (vlanid : UInt16) (ifindex : UInt32) (dhcp : DhcpMessage) (node : Listener) (s : Host) : Option Host :=
  match getItemFromPkt vlanid ifindex false dhcp with
  | none => some s
  | some user => s.known user.chaddr fun p => do
    let i ← s.tbl.item p
    if i.bind_type = .STATIC then some s
    else
      let r ← s.refreshBind ans { user with state := .BOUND } p node
      if r.2 then
        let _ ← r.1.tbl.item p
        some r.1
      else some r.1

/-- `dhcp_snp_nack_process`: nothing is asked of the kernel. -/
def nackProcess (vlanid : UInt16) (ifindex : UInt32) (dhcp : DhcpMessage) (s : Host) : Option Host :=
  match getItemFromPkt vlanid ifindex false dhcp with
  | none => some s
  | some user => s.known user.chaddr fun p => do
    let i ← s.tbl.item p
    if i.bind_type = .STATIC ∨ ¬ identityItem ans.beyond i user then some s
    else
      let T ← s.tbl.itemDelete v4 p (ans.db_delete p)
      some { s with tbl := T }

/-- `dhcp_snp_release_process`. -/
def releaseProcess (vlanid : UInt16) (ifindex : UInt32) (dhcp : DhcpMessage) (node : Listener) (s : Host) :
    Option Host :=
  match getItemFromPkt vlanid ifindex false dhcp with
  | none => some s
  | some user => s.known user.chaddr fun p => do
    let i ← s.tbl.item p
    if i.bind_type = .STATIC ∨ ¬ identityItem ans.beyond i user then some s
    else
      let s := s.when (node.no_arp ∧ i.special) (neighDel (ans.neigh_del p && ans.ifname p) i)
      if node.add_router ∧ i.special ∧ ¬ ans.ifname p then some s
      else
        let s := s.when (node.add_router ∧ i.special) (routeDel i)
        let T ← s.tbl.itemDelete v4 p (ans.db_delete p)
        some { s with tbl := T }

/-- `dhcp_snp_inform_process`. -/
def informProcess (vlanid : UInt16) (ifindex : UInt32) (dhcp : DhcpMessage) (node : Listener) (s : Host) :
    Option Host :=
  match getItemFromPkt vlanid ifindex true dhcp with
  | none => some s
  | some user => s.known user.chaddr fun p => do
    let i ← s.tbl.item p
    if i.bind_type = .STATIC ∨ i.state = .BOUND then some s
    else
      let r ← s.refreshBind ans { user with state := .BOUND } p node
      some r.1

/-- `dhcp_snp_gratuitous_arp_process`. -/
def gratuitousArpProcess (vlanid : UInt16) (ifindex : UInt32) (arp : ArpPacket) (node : Listener) (s : Host) :
    Option Host :=
  let user := userOfArp vlanid ifindex arp
  if ¬ u32ipCheck user.ip_addr then some s
  else s.known user.chaddr fun p => do
    let i ← s.tbl.item p
    if i.bind_type = .STATIC ∨ i.state = .BOUND ∨ i.ip_addr ≠ user.ip_addr then some s
    else
      let r ← s.refreshBind ans { user with state := .BOUND } p node
      some r.1

/-- The items of one chain are aged. -/
def agingChain : List Nat → Host → Option (Host × Bool)
  | [], s => some (s, true)
  | p :: l, s => do
    let i ← s.tbl.item p
    if i.bind_type = .DYNAMIC ∧ i.cur_expire < ans.uptime then
      let s := s.when (i.ip_addr ≠ 0 ∧ i.special) (neighDel (ans.neigh_del p && ans.ifname p) i)
      if i.ip_addr ≠ 0 ∧ i.special ∧ ¬ ans.ifname p then some (s, false)
      else
        let s := s.when (i.ip_addr ≠ 0 ∧ i.special) (routeDel i)
        let T ← s.tbl.itemDelete v4 p (ans.db_delete p)
        agingChain l { s with tbl := T }
    else agingChain l s

def agingChains : List Nat → Host → Option Host
  | [], s => some s
  | k :: ks, s => do
    let r ← agingChain ans (s.tbl.mac k) s
    if r.2 then agingChains ks r.1 else some r.1

/-- `dhcp_snp_aging_mechanism`. -/
def agingMechanism (s : Host) : Option Host := agingChains ans (List.range NPD_DHCP_SNP_HASH_TABLE_SIZE) s

end

end Host

def Op.hostStep (s : Host) (op : Op × Answers) : Option Host :=
  match op.1 with
  | discover vlanid ifindex dhcp | request vlanid ifindex dhcp => s.requestProcess op.2 vlanid ifindex dhcp
  | ack vlanid ifindex dhcp node => s.ackProcess op.2 vlanid ifindex dhcp node
  | nak vlanid ifindex dhcp => s.nackProcess op.2 vlanid ifindex dhcp
  | release vlanid ifindex dhcp node => s.releaseProcess op.2 vlanid ifindex dhcp node
  | inform vlanid ifindex dhcp node => s.informProcess op.2 vlanid ifindex dhcp node
  | arp vlanid ifindex packet node => s.gratuitousArpProcess op.2 vlanid ifindex packet node
  | aging => s.agingMechanism op.2

/-! ## The tables are those without the kernel -/

namespace Host

section
variable {ans : Answers} {node : Listener} {user : User UInt32} {s : Host} {i : Item UInt32} {sent : Bool} {p : Nat}

@[simp] theorem neighAdd_tbl : (s.neighAdd sent i).tbl = s.tbl := by cases sent <;> rfl
@[simp] theorem neighDel_tbl : (s.neighDel sent i).tbl = s.tbl := by cases sent <;> rfl
@[simp] theorem routeAdd_tbl : (s.routeAdd i).tbl = s.tbl := rfl
@[simp] theorem routeDel_tbl : (s.routeDel i).tbl = s.tbl := rfl

@[simp] theorem when_tbl {c : Prop} [Decidable c] {f : Host → Host} (hf : ∀ s, (f s).tbl = s.tbl) :
    (s.when c f).tbl = s.tbl := by
  rw [when]
  split
  · exact hf s
  · rfl

/-- What is left of a result without the kernel. -/
def strip (r : Host × Bool) : Tbl UInt32 × Bool := (r.1.tbl, r.2)

theorem conflictLoop_tbl (n : Nat) : ∀ s : Host,
    (conflictLoop ans node user n s).map strip = s.tbl.conflictLoop ans node user n := by
  induction n with
  | zero => exact fun s => rfl
  | succ n ih =>
    intro s
    rw [conflictLoop, Tbl.conflictLoop]
    cases s.tbl.itemFindByIp v4 user.ip_addr with
    | none => rfl
    | some r =>
      cases r with
      | none => rfl
      | some q =>
        simp only [Option.bind_eq_bind, Option.bind_some]
        cases s.tbl.item q with
        | none => rfl
        | some tmp =>
          simp only [Option.bind_some]
          by_cases hc : tmp.chaddr ≠ user.chaddr
          · rw [if_pos hc, if_pos hc]
            by_cases hname : node.add_router = true ∧ tmp.special ∧ ¬ ans.ifname q = true
            · rw [if_pos hname, if_pos hname]
              rfl
            · rw [if_neg hname, if_neg hname, when_tbl fun s => routeDel_tbl]
              cases s.tbl.itemDelete v4 q (ans.db_delete q) with
              | none => rfl
              | some T => exact ih { s.when (node.add_router = true ∧ tmp.special) (routeDel tmp) with tbl := T }
          · rw [if_neg hc, if_neg hc]
            cases s.tbl.itemDeleteIphash v4 q with
            | none => rfl
            | some T => exact ih { s with tbl := T }

theorem install_tbl : strip (install ans node i s) = (s.tbl, ans.told node i) := by
  rw [install]
  by_cases hneigh : node.no_arp = true ∧ i.vlanId = 0xFFFF ∧ ¬ ans.neigh_add = true
  · rw [if_pos hneigh, strip, Answers.told, decide_eq_false fun h => h.1 hneigh]
  rw [if_neg hneigh]
  by_cases hname : node.add_router = true ∧ i.special ∧ ¬ ans.ifname_add = true
  · simp only [if_pos hname, strip, when_tbl fun s => neighAdd_tbl, Answers.told]
    rw [decide_eq_false fun h => h.2 hname]
  · simp only [if_neg hname, strip, when_tbl fun s => neighAdd_tbl, when_tbl fun s => routeAdd_tbl, Answers.told]
    rw [decide_eq_true ⟨hneigh, hname⟩]

theorem refreshBind_tbl :
    (s.refreshBind ans user p node).map strip = s.tbl.refreshBind ans user p node := by
  rw [refreshBind, Tbl.refreshBind]
  by_cases hcheck : u32ipCheck user.ip_addr = true
  swap
  · rw [if_pos hcheck, if_pos hcheck]
    rfl
  rw [if_neg (not_not.mpr hcheck), if_neg (not_not.mpr hcheck)]
  cases s.tbl.item p with
  | none => rfl
  | some i =>
    simp only [Option.bind_eq_bind, Option.bind_some]
    by_cases hneigh : node.no_arp = true ∧ i.special ∧ ¬ ans.neigh_del p = true
    · rw [if_pos hneigh, if_pos hneigh]
      rfl
    rw [if_neg hneigh, if_neg hneigh]
    by_cases hname : node.add_router = true ∧ i.special ∧ ¬ ans.ifname p = true
    · rw [if_pos hname, if_pos hname, Option.map_some, strip, when_tbl fun s => neighDel_tbl]
    rw [if_neg hname, if_neg hname]
    obtain ⟨s', hs', htbl⟩ : ∃ s', s' = (s.when (node.no_arp = true ∧ i.special) (neighDel (ans.ifname p) i)).when
        (node.add_router = true ∧ i.special) (routeDel i) ∧ s'.tbl = s.tbl :=
      ⟨_, rfl, (when_tbl fun s => routeDel_tbl).trans (when_tbl fun s => neighDel_tbl)⟩
    rw [← hs', ← htbl]
    have ha : user.ip_addr ≠ 0 := by
      intro h0
      rw [h0] at hcheck
      exact absurd hcheck (by decide)
    rw [if_neg ha, if_neg ha, ← conflictLoop_tbl _ s']
    cases conflictLoop ans node user (s'.tbl.rounds v4 user.ip_addr) s' with
    | none => rfl
    | some r =>
      obtain ⟨s₁, ok⟩ := r
      cases ok with
      | false => rfl
      | true =>
        simp only [Option.bind_some, Option.map_some, strip, if_true]
        cases s₁.tbl.rebind ans user p with
        | none => rfl
        | some T =>
          simp only [Option.bind_some]
          cases hj : T.item p with
          | none => rfl
          | some j => exact congrArg some install_tbl

theorem known_tbl {chaddr : Mac} {f : Nat → Option Host} {g : Nat → Option (Tbl UInt32)}
    (h : ∀ p, (f p).map tbl = g p) : (s.known chaddr f).map tbl =
      (do match ← s.tbl.itemFind chaddr with | none => some s.tbl | some p => g p) := by
  rw [known]
  cases s.tbl.itemFind chaddr with
  | none => rfl
  | some r =>
    cases r with
    | none => rfl
    | some p => exact h p

/-- A client is refreshed unless it is passed over. -/
theorem bind_tbl {stop : Item UInt32 → Prop} [DecidablePred stop] (p : Nat) : (do
      let i ← s.tbl.item p
      if stop i then some s else do
        let r ← s.refreshBind ans user p node
        some r.1).map tbl = (do
      let i ← s.tbl.item p
      if stop i then some s.tbl else do
        let r ← s.tbl.refreshBind ans user p node
        some r.1) := by
  cases s.tbl.item p with
  | none => rfl
  | some i =>
    simp only [Option.bind_eq_bind, Option.bind_some]
    by_cases hs : stop i
    · rw [if_pos hs, if_pos hs]
      rfl
    · rw [if_neg hs, if_neg hs, ← refreshBind_tbl]
      cases s.refreshBind ans user p node <;> rfl

theorem requestProcess_tbl {vlanid : UInt16} {ifindex : UInt32} {dhcp : DhcpMessage} :
    (s.requestProcess ans vlanid ifindex dhcp).map tbl = s.tbl.requestProcess ans vlanid ifindex dhcp := by
  rw [requestProcess]
  cases s.tbl.requestProcess ans vlanid ifindex dhcp <;> rfl

theorem ackProcess_tbl {vlanid : UInt16} {ifindex : UInt32} {dhcp : DhcpMessage} :
    (s.ackProcess ans vlanid ifindex dhcp node).map tbl = s.tbl.ackProcess ans vlanid ifindex dhcp node := by
  rw [ackProcess, Tbl.ackProcess]
  cases getItemFromPkt vlanid ifindex false dhcp with
  | none => rfl
  | some user =>
    refine known_tbl fun p => ?_
    cases s.tbl.item p with
    | none => rfl
    | some i =>
      simp only [Option.bind_eq_bind, Option.bind_some]
      by_cases hs : i.bind_type = .STATIC
      · rw [if_pos hs, if_pos hs]
        rfl
      · rw [if_neg hs, if_neg hs, ← refreshBind_tbl]
        cases s.refreshBind ans { user with state := .BOUND } p node with
        | none => rfl
        | some r =>
          obtain ⟨s₁, ok⟩ := r
          cases ok with
          | false => rfl
          | true =>
            simp only [Option.bind_some, Option.map_some, strip, if_true]
            cases s₁.tbl.item p <;> rfl

theorem nackProcess_tbl {vlanid : UInt16} {ifindex : UInt32} {dhcp : DhcpMessage} :
    (s.nackProcess ans vlanid ifindex dhcp).map tbl = s.tbl.nackProcess ans vlanid ifindex dhcp := by
  rw [nackProcess, Tbl.nackProcess]
  cases getItemFromPkt vlanid ifindex false dhcp with
  | none => rfl
  | some user =>
    refine known_tbl fun p => ?_
    cases s.tbl.item p with
    | none => rfl
    | some i =>
      simp only [Option.bind_eq_bind, Option.bind_some]
      by_cases hs : i.bind_type = .STATIC ∨ ¬ identityItem ans.beyond i user = true
      · rw [if_pos hs, if_pos hs]
        rfl
      · rw [if_neg hs, if_neg hs]
        cases s.tbl.itemDelete v4 p (ans.db_delete p) <;> rfl

theorem releaseProcess_tbl {vlanid : UInt16} {ifindex : UInt32} {dhcp : DhcpMessage} :
    (s.releaseProcess ans vlanid ifindex dhcp node).map tbl = s.tbl.releaseProcess ans vlanid ifindex dhcp node := by
  rw [releaseProcess, Tbl.releaseProcess]
  cases getItemFromPkt vlanid ifindex false dhcp with
  | none => rfl
  | some user =>
    refine known_tbl fun p => ?_
    cases s.tbl.item p with
    | none => rfl
    | some i =>
      simp only [Option.bind_eq_bind, Option.bind_some]
      by_cases hs : i.bind_type = .STATIC ∨ ¬ identityItem ans.beyond i user = true
      · rw [if_pos hs, if_pos hs]
        rfl
      rw [if_neg hs, if_neg hs]
      by_cases hname : node.add_router = true ∧ i.special ∧ ¬ ans.ifname p = true
      · rw [if_pos hname, if_pos hname, Option.map_some, when_tbl fun s => neighDel_tbl]
      · rw [if_neg hname, if_neg hname, when_tbl fun s => routeDel_tbl, when_tbl fun s => neighDel_tbl]
        cases s.tbl.itemDelete v4 p (ans.db_delete p) <;> rfl

theorem informProcess_tbl {vlanid : UInt16} {ifindex : UInt32} {dhcp : DhcpMessage} :
    (s.informProcess ans vlanid ifindex dhcp node).map tbl = s.tbl.informProcess ans vlanid ifindex dhcp node := by
  rw [informProcess, Tbl.informProcess]
  cases getItemFromPkt vlanid ifindex true dhcp with
  | none => rfl
  | some user =>
    exact known_tbl fun p =>
      @bind_tbl ans node { user with state := .BOUND } s (fun i => i.bind_type = .STATIC ∨ i.state = .BOUND) _ p

theorem gratuitousArpProcess_tbl {vlanid : UInt16} {ifindex : UInt32} {arp : ArpPacket} :
    (s.gratuitousArpProcess ans vlanid ifindex arp node).map tbl =
      s.tbl.gratuitousArpProcess ans vlanid ifindex arp node := by
  rw [gratuitousArpProcess, Tbl.gratuitousArpProcess]
  by_cases hcheck : u32ipCheck (userOfArp vlanid ifindex arp).ip_addr = true
  · rw [if_neg (not_not.mpr hcheck), if_neg (not_not.mpr hcheck)]
    exact known_tbl fun p => @bind_tbl ans node { userOfArp vlanid ifindex arp with state := .BOUND } s (fun i =>
      i.bind_type = .STATIC ∨ i.state = .BOUND ∨ i.ip_addr ≠ (userOfArp vlanid ifindex arp).ip_addr) _ p
  · rw [if_pos hcheck, if_pos hcheck]
    rfl

theorem agingChain_tbl (l : List Nat) : ∀ s : Host,
    (agingChain ans l s).map strip = s.tbl.agingChain ans l := by
  induction l with
  | nil => exact fun s => rfl
  | cons p l ih =>
    intro s
    rw [agingChain, Tbl.agingChain]
    cases s.tbl.item p with
    | none => rfl
    | some i =>
      simp only [Option.bind_eq_bind, Option.bind_some]
      by_cases hexp : i.bind_type = .DYNAMIC ∧ i.cur_expire < ans.uptime
      · rw [if_pos hexp, if_pos hexp]
        by_cases hname : i.ip_addr ≠ 0 ∧ i.special ∧ ¬ ans.ifname p = true
        · rw [if_pos hname, if_pos hname, Option.map_some, strip, when_tbl fun s => neighDel_tbl]
        · rw [if_neg hname, if_neg hname, when_tbl fun s => routeDel_tbl, when_tbl fun s => neighDel_tbl]
          cases s.tbl.itemDelete v4 p (ans.db_delete p) with
          | none => rfl
          | some T => exact ih { (s.when (i.ip_addr ≠ 0 ∧ i.special) (neighDel (ans.neigh_del p && ans.ifname p) i)).when
              (i.ip_addr ≠ 0 ∧ i.special) (routeDel i) with tbl := T }
      · rw [if_neg hexp, if_neg hexp]
        exact ih s

theorem agingChains_tbl (ks : List Nat) : ∀ s : Host,
    (agingChains ans ks s).map tbl = s.tbl.agingChains ans ks := by
  induction ks with
  | nil => exact fun s => rfl
  | cons k ks ih =>
    intro s
    rw [agingChains, Tbl.agingChains, ← agingChain_tbl]
    cases agingChain ans (s.tbl.mac k) s with
    | none => rfl
    | some r =>
      obtain ⟨s₁, go⟩ := r
      cases go with
      | false => rfl
      | true => exact ih s₁

end

end Host

/-- The tables are what they are without the kernel. -/
theorem Op.hostStep_tbl (s : Host) (op : Op × Answers) : (hostStep s op).map Host.tbl = step s.tbl op := by
  obtain ⟨op, ans⟩ := op
  cases op with
  | discover vlanid ifindex dhcp => exact Host.requestProcess_tbl
  | request vlanid ifindex dhcp => exact Host.requestProcess_tbl
  | ack vlanid ifindex dhcp node => exact Host.ackProcess_tbl
  | nak vlanid ifindex dhcp => exact Host.nackProcess_tbl
  | release vlanid ifindex dhcp node => exact Host.releaseProcess_tbl
  | inform vlanid ifindex dhcp node => exact Host.informProcess_tbl
  | arp vlanid ifindex packet node => exact Host.gratuitousArpProcess_tbl
  | aging => exact Host.agingChains_tbl _ s

end Snooping
end DaemonGroup
