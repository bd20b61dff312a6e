import DaemonGroup.Snooping.Tables

/-!
# DaemonGroup.Snooping.Packets

What DHCP messages, gratuitous ARP packets and the ageing pass do to the IPv4 tables (`dhcp_snp_pkt.c`,
`dhcp_snp_tbl_refresh_bind`, `dhcp_snp_aging_mechanism`).

The answers of the rest of the system are inputs: memory, netlink, interface names, the database, and what
`memcmp` finds behind a MAC address. Where a function is called for several items there is an answer for
each.
-/

namespace DaemonGroup
namespace Snooping

open Lib

/-- What the IPv4 functions do with addresses. -/
def v4 : AddrFns UInt32 where
  empty a := some (a == 0)
  same a b := some (a == b)
  key a := a.toNat % NPD_DHCP_SNP_HASH_TABLE_SIZE
  key_lt _ := Nat.mod_lt _ (by decide)

def NPD_DHCP_BOOTREQUEST : UInt8 := 1
def NPD_DHCP_BOOTREPLY : UInt8 := 2

/-- The fields of `NPD_DHCP_MESSAGE_T` that are read, and the lease time option if there is one. -/
structure DhcpMessage where
  op : UInt8
  hlen : UInt8
  chaddr : Mac
  ciaddr : UInt32
  yiaddr : UInt32
  lease : Option UInt32

/-- The fields of `arp_packet_t` that are read. -/
structure ArpPacket where
  hwSize : UInt8
  smac : Mac
  sip : UInt32

/-- What of `struct dhcp_snp_listener` is read. -/
structure Listener where
  no_arp : Bool
  add_router : Bool

/-- The answers of the rest of the system. -/
structure Answers where
  uptime : UInt32
  time : UInt32
  malloc : Option Nat
  beyond : Bool
  neigh_del : Nat → Bool
  neigh_add : Bool
  ifname : Nat → Bool
  ifname_add : Bool
  db_delete : Nat → Bool

/-- `dhcp_snp_u32ip_check`: 169.254/16, 127/8, 224/4, 240/4 and 0/8 are no addresses of clients. -/
def u32ipCheck (ipaddr : UInt32) : Bool :=
  ¬ (ipaddr &&& 0xFFFF0000 = 0xA9FE0000 ∨ ipaddr &&& 0xff000000 = 0x7f000000 ∨
    ipaddr &&& 0xf0000000 = 0xe0000000 ∨ ipaddr &&& 0xf0000000 = 0xf0000000 ∨
    ipaddr &&& 0xff000000 = 0x00000000)

/-- `dhcp_snp_get_item_from_pkt`; `inform` is set for DHCPINFORM. -/
def getItemFromPkt (vlanid : UInt16) (ifindex : UInt32) (inform : Bool) (packet : DhcpMessage) :
    Option (User UInt32) :=
  let user (ip_addr lease_time : UInt32) : User UInt32 :=
    { haddr_len := packet.hlen, chaddr := packet.chaddr, vlanId := vlanid, ip_addr := ip_addr
      lease_time := lease_time, ifindex := ifindex }
  if packet.op = NPD_DHCP_BOOTREPLY then packet.lease.map (user packet.yiaddr)
  else if packet.op = NPD_DHCP_BOOTREQUEST ∧ inform then some (user packet.ciaddr NPD_DHCP_SNP_REQUEST_TIMEOUT)
  else some (user 0 NPD_DHCP_SNP_REQUEST_TIMEOUT)

/-- What `dhcp_snp_gratuitous_arp_process` takes from the packet. -/
def userOfArp (vlanid : UInt16) (ifindex : UInt32) (arp : ArpPacket) : User UInt32 :=
  { haddr_len := arp.hwSize, chaddr := arp.smac, vlanId := vlanid, ip_addr := arp.sip
    lease_time := NPD_DHCP_SNP_REQUEST_TIMEOUT, ifindex := ifindex }

/-- The entries of the item in the kernel are managed here. -/
def Item.special (i : Item UInt32) : Prop := i.vlanId = 0xFFFF ∧ i.state = .BOUND

instance (i : Item UInt32) : Decidable i.special := inferInstanceAs (Decidable (_ ∧ _))

/-- `dhcp_snp_tbl_identity_item`. A hardware address of more than six bytes is compared beyond the field. -/
def identityItem (beyond : Bool) (item : Item UInt32) (user : User UInt32) : Bool :=
  item.vlanId = user.vlanId ∧ item.haddr_len = user.haddr_len ∧
    (user.ifindex = 0 ∨ item.ifindex = user.ifindex) ∧
    item.chaddr.toList.take item.haddr_len.toNat = user.chaddr.toList.take item.haddr_len.toNat ∧
    (item.haddr_len ≤ 6 ∨ beyond)

/-- The kernel is told about the client and takes it. -/
def Answers.told (ans : Answers) (node : Listener) (item : Item UInt32) : Bool :=
  ¬ (node.no_arp ∧ item.vlanId = 0xFFFF ∧ ¬ ans.neigh_add) ∧
    ¬ (node.add_router ∧ item.special ∧ ¬ ans.ifname_add)

namespace Tbl

section
variable (ans : Answers) (T : Tbl UInt32)

/-- The loop of `dhcp_snp_tbl_refresh_bind`: other clients with the address are deleted. It is left early
if an interface has no name. -/
def conflictLoop (node : Listener) (user : User UInt32) : Nat → Tbl UInt32 → Option (Tbl UInt32 × Bool)
  | 0, _ => none
  | n + 1, T => do
    match ← T.itemFindByIp v4 user.ip_addr with
    | none => some (T, true)
    | some q =>
      let tmp ← T.item q
      if tmp.chaddr ≠ user.chaddr then
        if node.add_router ∧ tmp.special ∧ ¬ ans.ifname q then some (T, false)
        else
          let T ← T.itemDelete v4 q (ans.db_delete q)
          conflictLoop node user n T
      else
        let T ← T.itemDeleteIphash v4 q
        conflictLoop node user n T

/-- What `dhcp_snp_tbl_refresh_bind` does to the item when there are no conflicts any more. -/
def rebind (user : User UInt32) (p : Nat) : Option (Tbl UInt32) := do
  let i ← T.item p
  let T ← T.unlessEmpty v4 i.ip_addr (itemDeleteIphash v4 · p)
  let i ← T.item p
  let i := fillBind ans.uptime ans.time user i
  let T := { T with item := Function.update T.item p (some i) }
  T.unlessEmpty v4 i.ip_addr (itemInsertIpHash v4 · p)

/-- `dhcp_snp_tbl_refresh_bind`, and if it succeeds. -/
def refreshBind (user : User UInt32) (p : Nat) (node : Listener) : Option (Tbl UInt32 × Bool) := do
  if ¬ u32ipCheck user.ip_addr then some (T, false)
  else
    let i ← T.item p
    if node.no_arp ∧ i.special ∧ ¬ ans.neigh_del p then some (T, false)
    else if node.add_router ∧ i.special ∧ ¬ ans.ifname p then some (T, false)
    else
      let r ← if user.ip_addr = 0 then some (T, true)
        else conflictLoop ans node user (T.rounds v4 user.ip_addr) T
      if r.2 then
        let T ← r.1.rebind ans user p
        let i ← T.item p
        some (T, ans.told node i)
      else some (r.1, false)

/-- `dhcp_snp_discovery_process` and `dhcp_snp_request_process`: a new client has an item. -/
def requestProcess (vlanid : UInt16) (ifindex : UInt32) (dhcp : DhcpMessage) : Option (Tbl UInt32) :=
  match getItemFromPkt vlanid ifindex false dhcp with
  | none => some T
  | some user => do
    match ← T.itemFind user.chaddr with
    | some _ => some T
    | none => some (T.itemInsert { user with state := .REQUEST } ans.uptime ans.time ans.malloc).1

/-- `dhcp_snp_ack_process`. -/
def ackProcess (vlanid : UInt16) (ifindex : UInt32) (dhcp : DhcpMessage) (node : Listener) :
    Option (Tbl UInt32) :=
  match getItemFromPkt vlanid ifindex false dhcp with
  | none => some T
  | some user => do
    match ← T.itemFind user.chaddr with
    | none => some T
    | some p =>
      let i ← T.item p
      if i.bind_type = .STATIC then some T
      else
        let r ← T.refreshBind ans { user with state := .BOUND } p node
        -- what is told about the client is read from the item
        if r.2 then
          let _ ← r.1.item p
          some r.1
        else some r.1

/-- `dhcp_snp_nack_process`. -/
def nackProcess (vlanid : UInt16) (ifindex : UInt32) (dhcp : DhcpMessage) : Option (Tbl UInt32) :=
  match getItemFromPkt vlanid ifindex false dhcp with
  | none => some T
  | some user => do
    match ← T.itemFind user.chaddr with
    | none => some T
    | some p =>
      let i ← T.item p
      if i.bind_type = .STATIC ∨ ¬ identityItem ans.beyond i user then some T
      else T.itemDelete v4 p (ans.db_delete p)

/-- `dhcp_snp_release_process`. -/
def releaseProcess (vlanid : UInt16) (ifindex : UInt32) (dhcp : DhcpMessage) (node : Listener) :
    Option (Tbl UInt32) :=
  match getItemFromPkt vlanid ifindex false dhcp with
  | none => some T
  | some user => do
    match ← T.itemFind user.chaddr with
    | none => some T
    | some p =>
      let i ← T.item p
      if i.bind_type = .STATIC ∨ ¬ identityItem ans.beyond i user then some T
      else if node.add_router ∧ i.special ∧ ¬ ans.ifname p then some T
      else T.itemDelete v4 p (ans.db_delete p)

/-- `dhcp_snp_inform_process`. -/
def informProcess (vlanid : UInt16) (ifindex : UInt32) (dhcp : DhcpMessage) (node : Listener) :
    Option (Tbl UInt32) :=
  match getItemFromPkt vlanid ifindex true dhcp with
  | none => some T
  | some user => do
    match ← T.itemFind user.chaddr with
    | none => some T
    | some p =>
      let i ← T.item p
      if i.bind_type = .STATIC ∨ i.state = .BOUND then some T
      else
        let r ← T.refreshBind ans { user with state := .BOUND } p node
        some r.1

/-- `dhcp_snp_gratuitous_arp_process`. -/
def gratuitousArpProcess (vlanid : UInt16) (ifindex : UInt32) (arp : ArpPacket) (node : Listener) :
    Option (Tbl UInt32) :=
  let user := userOfArp vlanid ifindex arp
  if ¬ u32ipCheck user.ip_addr then some T
  else do
    match ← T.itemFind user.chaddr with
    | none => some T
    | some p =>
      let i ← T.item p
      if i.bind_type = .STATIC ∨ i.state = .BOUND ∨ i.ip_addr ≠ user.ip_addr then some T
      else
        let r ← T.refreshBind ans { user with state := .BOUND } p node
        some r.1

/-- The items of one chain are aged. The pass ends if an interface has no name. -/
def agingChain : List Nat → Tbl UInt32 → Option (Tbl UInt32 × Bool)
  | [], T => some (T, true)
  | p :: l, T => do
    let i ← T.item p
    if i.bind_type = .DYNAMIC ∧ i.cur_expire < ans.uptime then
      if i.ip_addr ≠ 0 ∧ i.special ∧ ¬ ans.ifname p then some (T, false)
      else
        let T ← T.itemDelete v4 p (ans.db_delete p)
        agingChain l T
    else agingChain l T

def agingChains : List Nat → Tbl UInt32 → Option (Tbl UInt32)
  | [], T => some T
  | k :: ks, T => do
    let r ← agingChain ans (T.mac k) T
    if r.2 then agingChains ks r.1 else some r.1

/-- `dhcp_snp_aging_mechanism`. -/
def agingMechanism : Option (Tbl UInt32) := agingChains ans (List.range NPD_DHCP_SNP_HASH_TABLE_SIZE) T

end

end Tbl

/-- What is processed. -/
inductive Op
  | discover (vlanid : UInt16) (ifindex : UInt32) (dhcp : DhcpMessage)
  | request (vlanid : UInt16) (ifindex : UInt32) (dhcp : DhcpMessage)
  | ack (vlanid : UInt16) (ifindex : UInt32) (dhcp : DhcpMessage) (node : Listener)
  | nak (vlanid : UInt16) (ifindex : UInt32) (dhcp : DhcpMessage)
  | release (vlanid : UInt16) (ifindex : UInt32) (dhcp : DhcpMessage) (node : Listener)
  | inform (vlanid : UInt16) (ifindex : UInt32) (dhcp : DhcpMessage) (node : Listener)
  | arp (vlanid : UInt16) (ifindex : UInt32) (packet : ArpPacket) (node : Listener)
  | aging

def Op.step (T : Tbl UInt32) (op : Op × Answers) : Option (Tbl UInt32) :=
  match op.1 with
  | discover vlanid ifindex dhcp | request vlanid ifindex dhcp => T.requestProcess op.2 vlanid ifindex dhcp
  | ack vlanid ifindex dhcp node => T.ackProcess op.2 vlanid ifindex dhcp node
  | nak vlanid ifindex dhcp => T.nackProcess op.2 vlanid ifindex dhcp
  | release vlanid ifindex dhcp node => T.releaseProcess op.2 vlanid ifindex dhcp node
  | inform vlanid ifindex dhcp node => T.informProcess op.2 vlanid ifindex dhcp node
  | arp vlanid ifindex packet node => T.gratuitousArpProcess op.2 vlanid ifindex packet node
  | aging => T.agingMechanism op.2

end Snooping
end DaemonGroup
