import DaemonGroup.Kernel.Channels
import DaemonGroup.Lib.Acts

/-!
# DaemonGroup.Kernel.Packets

The packet paths of the kernel module: `pppoe_packet_filter` for the session packets that come in,
`pppoe_sock_sendmsg` for the control frames of the daemon and `pppoe_start_xmit` for the data of the
interface.

A path is a program that leaves the calls it makes on the RCU lock and on the buffers. What the
kernel itself decides (whether a page is there, whether a queue has room) is the parameter `Kern`.
Bytes of two octets are read as on the big-endian boards. The statistics and the times of the last
packets are left out.
-/

namespace DaemonGroup
namespace Kernel

open Lib Acts

def ETH_ALEN : Nat := 6
def PPPOE_MTU : Nat := 1492
def PPP_HEADER_LEN : Nat := 2
def MAGIC_LEN : Nat := 4

/-- `sizeof(struct pppoe_hdr)`. -/
def PPPOE_HDR : Nat := 6

/-- `sizeof(struct pppoe_ctl)`. -/
def PPPOE_CTL : Nat := 4

/-- `sizeof(struct sockaddr_pppoe)`. -/
def SOCKADDR_PPPOE : Nat := 30

def PPP_ECHO_REQUEST : UInt8 := 0x09
def PPP_LCP : Nat := 0xc021
def PPP_IP : Nat := 0x21
def PPP_AT : Nat := 0x29
def PPP_IPX : Nat := 0x2b
def PPP_IPV6 : Nat := 0x57
def PPP_MPLS_UC : Nat := 0x0281
def PPP_MPLS_MC : Nat := 0x0283

def NP_IPV6 : Nat := 1
def NP_IPX : Nat := 2
def NP_AT : Nat := 3
def NP_MPLS_UC : Nat := 4
def NP_MPLS_MC : Nat := 5

def ETH_P_PPPTALK : Nat := 0x0010
def ETH_P_IP : Nat := 0x0800
def ETH_P_ATALK : Nat := 0x809b
def ETH_P_IPX : Nat := 0x8137
def ETH_P_IPV6 : Nat := 0x86dd
def ETH_P_MPLS_UC : Nat := 0x8847
def ETH_P_MPLS_MC : Nat := 0x8848
def ETH_P_PPP_SES : Nat := 0x8864

def NET_RX_SUCCESS : Int := 0
def NET_RX_DROP : Int := 1
def NETDEV_TX_OK : Int := 0

def ENOMEM : Int := 12
def EMSGSIZE : Int := 90
def ENOTCONN : Int := 107

/-- The buffers a path deals with: the one it was called with, the clone of it, and the one that it
allocates. -/
inductive Skb where
  | arg
  | clone
  | wmem
deriving Repr, DecidableEq

/-- What a packet buffer holds: the bytes before `data` and those from there on, and the link
header. -/
structure SkBuff where
  head : List UInt8
  data : List UInt8
  h_dest : List UInt8
  h_source : List UInt8
  protocol : Nat
  shared : Bool
deriving Repr, DecidableEq

/-- The calls on the RCU lock and on the buffers. -/
inductive Call where
  | rcu_read_lock
  | rcu_read_unlock
  | skb_clone
  | sock_wmalloc
  | kfree_skb (b : Skb)
  | netif_rx (b : Skb) (skb : SkBuff)
  | dev_queue_xmit (b : Skb) (skb : SkBuff)
  | sock_queue_rcv_skb (b : Skb) (skb : SkBuff)
deriving Repr, DecidableEq

/-- The socket of the daemon; `dead` is `SOCK_DEAD`. -/
structure Sock where
  dead : Bool
deriving Repr, DecidableEq

/-- The Ethernet interface below a pppoe interface; `up` is `IFF_UP`. -/
structure BaseDevice where
  up : Bool
  hard_header_len : Nat
deriving Repr, DecidableEq

/-- What the paths read of `struct pppoe_struct`. -/
structure Pppoe where
  tables : PppoeStruct
  sk : Option Sock
  base_dev : Option BaseDevice

/-- The pppoe interface that `pppoe_ptr` of a device points to. -/
structure PppoeDevice where
  up : Bool
  priv : Pppoe

/-- `struct pppoe_sock`; it has its `pppoe` while `PPPOE_BIND` is set. -/
structure PppoeSock where
  dead : Bool
  pppoe : Option Pppoe

/-- `struct msghdr` with the address that it names. -/
structure Msghdr where
  msg_namelen : Nat
  sid : UInt16
  mac : List UInt8
  msg_iov : List UInt8
deriving Repr, DecidableEq

/-- What the kernel answers. `pull_tail` is whether that many bytes can be brought together,
`skb_clone`, `sock_wmalloc` and `skb_cow_head` are whether there is memory. -/
structure Kern where
  skb_clone : SkBuff → Bool
  pull_tail : SkBuff → Nat → Bool
  skb_trim : SkBuff → Nat → Bool
  sock_queue_rcv_skb : Sock → SkBuff → Bool
  netif_rx : SkBuff → Int
  sock_wmalloc : Nat → Bool
  memcpy_fromiovec : Msghdr → Nat → Int
  skb_cow_head : SkBuff → Nat → Bool

/-- The byte at `i` from `data` on. -/
def SkBuff.byte (skb : SkBuff) (i : Nat) : UInt8 := skb.data.getD i 0

/-- The two bytes at `i` from `data` on. -/
def SkBuff.short (skb : SkBuff) (i : Nat) : Nat :=
  (skb.byte i).toNat * 256 + (skb.byte (i + 1)).toNat

def SkBuff.len (skb : SkBuff) : Nat := skb.data.length

def be16 (n : Nat) : List UInt8 := [UInt8.ofNat (n / 256), UInt8.ofNat n]

/-- `skb_pull` and `skb_pull_rcsum`. -/
def skbPull (skb : SkBuff) (n : Nat) : SkBuff :=
  { skb with head := skb.head ++ skb.data.take n, data := skb.data.drop n }

/-- `skb_push`: the bytes before `data` come back as they are. -/
def skbPush (skb : SkBuff) (n : Nat) : SkBuff :=
  { skb with
    head := skb.head.take (skb.head.length - n)
    data := skb.head.drop (skb.head.length - n) ++ skb.data }

/-- The bytes `bs` over those at `i`. -/
def SkBuff.put (skb : SkBuff) (i : Nat) (bs : List UInt8) : SkBuff :=
  { skb with data := skb.data.take i ++ bs ++ skb.data.drop (i + bs.length) }

/-- `dev_hard_header`. -/
def devHardHeader (skb : SkBuff) (type : Nat) (daddr saddr : List UInt8) : SkBuff :=
  { skb with h_dest := daddr, h_source := saddr, protocol := type }

/-- `pskb_may_pull`. -/
def pskbMayPull (K : Kern) (skb : SkBuff) (n : Nat) : Bool :=
  decide (n ≤ skb.len) && K.pull_tail skb n

/-- `pskb_trim_rcsum`; `none` is its error. -/
def pskbTrimRcsum (K : Kern) (skb : SkBuff) (n : Nat) : Option SkBuff :=
  if skb.len ≤ n then some skb
  else if K.skb_trim skb n then some { skb with data := skb.data.take n }
  else none

/-- `skb_share_check`: a shared buffer is cloned and given back, whether or not there is a clone. -/
def skbShareCheck (K : Kern) (skb : SkBuff) : Acts Call (Option Skb) :=
  if skb.shared then
    if K.skb_clone skb then do
      act .skb_clone
      act (.kfree_skb .arg)
      pure (some .clone)
    else do
      act (.kfree_skb .arg)
      pure none
  else pure (some .arg)

/-- `PPP_PROTO`. -/
def pppProto (skb : SkBuff) : Nat := skb.short 0

def protoToNpindex (proto : Nat) : Option Nat :=
  if proto = PPP_IP then some NP_IP
  else if proto = PPP_IPV6 then some NP_IPV6
  else if proto = PPP_IPX then some NP_IPX
  else if proto = PPP_AT then some NP_AT
  else if proto = PPP_MPLS_UC then some NP_MPLS_UC
  else if proto = PPP_MPLS_MC then some NP_MPLS_MC
  else none

def npindexToProto : List Nat := [PPP_IP, PPP_IPV6, PPP_IPX, PPP_AT, PPP_MPLS_UC, PPP_MPLS_MC]

def ethertypeToNpindex (type : Nat) : Option Nat :=
  if type = ETH_P_IP then some NP_IP
  else if type = ETH_P_IPV6 then some NP_IPV6
  else if type = ETH_P_IPX then some NP_IPX
  else if type = ETH_P_PPPTALK ∨ type = ETH_P_ATALK then some NP_AT
  else if type = ETH_P_MPLS_UC then some NP_MPLS_UC
  else if type = ETH_P_MPLS_MC then some NP_MPLS_MC
  else none

def npindexToEthertype : List Nat :=
  [ETH_P_IP, ETH_P_IPV6, ETH_P_IPX, ETH_P_PPPTALK, ETH_P_MPLS_UC, ETH_P_MPLS_MC]

/-- The way out at the label `drop` or `error` of the receive functions. -/
def rxDrop (b : Skb) : Acts Call Int := do
  act (.kfree_skb b)
  pure NET_RX_DROP

/-- `pppoe_receive_control_frame`. -/
def pppoeReceiveControlFrame (K : Kern) (sk : Option Sock) (b : Skb) (skb : SkBuff) :
    Acts Call Int :=
  match sk with
  | none => rxDrop b
  | some sk =>
    if sk.dead then rxDrop b
    else if K.sock_queue_rcv_skb sk skb then do
      act (.sock_queue_rcv_skb b skb)
      pure NET_RX_SUCCESS
    else rxDrop b

/-- `pppoe_echo_reply`. -/
def pppoeEchoReply (b : Skb) (skb : SkBuff) (channel : PppoeChannel) : Acts Call Int :=
  let skb := skbPull skb PPP_HEADER_LEN
  let length := skb.short 2
  if length < PPPOE_CTL + MAGIC_LEN ∨ skb.len < length then rxDrop b
  else do
    -- echo reply, identifier zero
    let skb := skb.put 0 ([0x0a, 0x00] ++ be16 length ++ channel.magic)
    let skb := skbPush skb (PPPOE_HDR + PPP_HEADER_LEN)
    let skb := skb.put 4 (be16 (length + PPP_HEADER_LEN))
    let skb := devHardHeader skb ETH_P_PPP_SES channel.mac channel.serverMac
    act (.dev_queue_xmit b skb)
    pure NET_RX_SUCCESS

/-- `pppoe_receive_frame`. -/
def pppoeReceiveFrame (K : Kern) (pppoe : Pppoe) (channel : PppoeChannel) (b : Skb)
    (skb : SkBuff) : Acts Call Int :=
  if !pskbMayPull K skb PPP_HEADER_LEN then rxDrop b
  else
    let proto := pppProto skb
    if proto ≥ 0x8000 then
      if !pskbMayPull K skb (PPPOE_CTL + PPP_HEADER_LEN) then rxDrop b
      else if proto = PPP_LCP ∧ skb.byte 2 = PPP_ECHO_REQUEST then pppoeEchoReply b skb channel
      else pppoeReceiveControlFrame K pppoe.sk b skb
    else if proto = PPP_IP ∨ proto = PPP_IPV6 ∨ proto = PPP_IPX then
      match protoToNpindex proto with
      | none => rxDrop b
      | some npi =>
        if channel.npmode npi ≠ .NPMODE_PASS then rxDrop b
        else do
          let skb := { skbPull skb PPP_HEADER_LEN with protocol := npindexToEthertype.getD npi 0 }
          act (.netif_rx b skb)
          pure (K.netif_rx skb)
    else rxDrop b

/-- The channel with the session identifier `sid`, if the addresses pass the test `ok`. -/
def channelMatch (s : State) (p : PppoeStruct) (sid : UInt16) (ok : PppoeChannel → Bool) :
    Option PppoeChannel :=
  ((channelGetBySid s p sid).map s.channel).filter ok

/-- The addresses of a channel are those of the Ethernet header. -/
def addrsMatch (skb : SkBuff) (channel : PppoeChannel) : Bool :=
  channel.mac = skb.h_source ∧ channel.serverMac = skb.h_dest

/-- `pppoe_do_rcv`. -/
def pppoeDoRcv (K : Kern) (s : State) (pppoe : Pppoe) (skb : SkBuff) : Acts Call Int := do
  let b ← skbShareCheck K skb
  match b with
  | none => pure NET_RX_DROP
  | some b =>
    if !pskbMayPull K skb PPPOE_HDR then rxDrop b
    else
      let sid := UInt16.ofNat (skb.short 2)
      let len := skb.short 4
      let skb := skbPull skb PPPOE_HDR
      if skb.len < len then rxDrop b
      else
        match pskbTrimRcsum K skb len with
        | none => rxDrop b
        | some skb =>
          match channelMatch s pppoe.tables sid (addrsMatch skb) with
          | none => do
            act .rcu_read_unlock
            rxDrop b
          | some channel => pppoeReceiveFrame K pppoe channel b skb

/-- `pppoe_packet_filter`; `dev` is the `pppoe_ptr` of the device the packet came in on. -/
def pppoePacketFilter (K : Kern) (s : State) (dev : Option PppoeDevice) (skb : SkBuff) :
    Acts Call Int := do
  act .rcu_read_lock
  match dev.filter (·.up) with
  | none => do
    act .rcu_read_unlock
    rxDrop .arg
  | some dev => do
    let ret ← pppoeDoRcv K s dev.priv skb
    act .rcu_read_unlock
    pure ret

/-- `pppoe_sock_sendmsg`. -/
def pppoeSockSendmsg (K : Kern) (s : State) (sk : PppoeSock) (m : Msghdr) (total_len : Nat) :
    Acts Call Int :=
  match sk.dead, sk.pppoe with
  | true, _ | _, none => pure (-ENOTCONN)
  | false, some pppoe =>
    if m.msg_namelen < SOCKADDR_PPPOE then pure (-EMSGSIZE)
    else if total_len > PPPOE_MTU + PPP_HEADER_LEN then pure (-EMSGSIZE)
    else do
      act .rcu_read_lock
      match pppoe.base_dev.filter (·.up) with
      | none => pure (-ENOTCONN)
      | some dev =>
        match channelMatch s pppoe.tables m.sid (·.mac = m.mac) with
        | none => do
          act .rcu_read_unlock
          pure (-ENOTCONN)
        | some channel =>
          if !K.sock_wmalloc (total_len + PPPOE_HDR + dev.hard_header_len + 32) then
            pure (-ENOMEM)
          else do
            act .sock_wmalloc
            let error := K.memcpy_fromiovec m total_len
            if error < 0 then do
              act (.kfree_skb .wmem)
              pure error
            else do
              let hdr := [0x11, 0x00] ++ be16 m.sid.toNat ++ be16 total_len
              let skb : SkBuff :=
                { head := [], data := hdr ++ m.msg_iov.take total_len, h_dest := [], h_source := []
                  protocol := 0, shared := false }
              act (.dev_queue_xmit .wmem (devHardHeader skb ETH_P_PPP_SES m.mac channel.serverMac))
              act .rcu_read_unlock
              pure total_len

/-- The way out at the label `drop` or `error` of the transmit functions. -/
def txDrop : Acts Call Unit := act (.kfree_skb .arg)

/-- `pppoe_send_frame`. -/
def pppoeSendFrame (K : Kern) (pppoe : Pppoe) (channel : PppoeChannel) (skb : SkBuff) :
    Acts Call Unit :=
  match pppoe.base_dev, ethertypeToNpindex skb.protocol with
  | none, _ | some _, none => txDrop
  | some dev, some npi =>
    if channel.npmode npi ≠ .NPMODE_PASS then txDrop
    else if !K.skb_cow_head skb (dev.hard_header_len + PPPOE_HDR + PPP_HEADER_LEN) then txDrop
    else
      let data := be16 (npindexToProto.getD npi 0) ++ skb.data
      let hdr := [0x11, 0x00] ++ be16 channel.sid.toNat ++ be16 data.length
      act (.dev_queue_xmit .arg
        (devHardHeader { skb with data := hdr ++ data } ETH_P_PPP_SES channel.mac
          channel.serverMac))

/-- `pppoe_start_xmit`; the destination is read from the IP header. -/
def pppoeStartXmit (K : Kern) (s : State) (pppoe : Pppoe) (skb : SkBuff) : Acts Call Int := do
  act .rcu_read_lock
  match channelGetByIp s pppoe.tables (UInt32.ofNat (skb.short 16 * 65536 + skb.short 18)) with
  | none => do
    act .rcu_read_unlock
    txDrop
    pure NETDEV_TX_OK
  | some a => do
    pppoeSendFrame K pppoe (s.channel a) skb
    act .rcu_read_unlock
    pure NETDEV_TX_OK

end Kernel
end DaemonGroup
