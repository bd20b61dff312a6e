import DaemonGroup.Lib.Buckets
import DaemonGroup.Lib.Run

/-!
# DaemonGroup.Kernel.Channels

The channel tables of the kernel module `kpppoe.c` and the requests on them that the daemon sends
over netlink: register, unregister, authorize, unauthorize and clear. One kernel thread takes the
requests from the socket and handles them one after the other.

A table is an array of `CHANNEL_HASHSIZE` chains; a chain is a list of channel addresses, first
element first (`hlist_add_head_rcu`, `hlist_del_rcu`). `kmem` are the channels that are allocated;
the release that `call_rcu` puts off is immediate here, so that an address may come back at any
later allocation.
-/

namespace DaemonGroup
namespace Kernel

open Lib

def CHANNEL_HASHBITS : Nat := 16
def CHANNEL_HASHSIZE : Nat := 1 <<< CHANNEL_HASHBITS

def NP_IP : Nat := 0

/-- `enum NPmode`. -/
inductive NPmode where
  | NPMODE_PASS
  | NPMODE_DROP
  | NPMODE_ERROR
  | NPMODE_QUEUE
deriving Repr, DecidableEq

/-- The error codes of the requests. -/
inductive Errno where
  | ENODEV
  | EINVAL
  | ENOMEM
  | EEXIST
  | ENOENT
deriving Repr, DecidableEq

/-- `struct pppoe_channel`, without its chain links, statistics and unused `state`. -/
structure PppoeChannel where
  sid : UInt16
  ip : UInt32
  magic : List UInt8
  mac : List UInt8
  serverMac : List UInt8
  npmode : Nat → NPmode

/-- The tables of `struct pppoe_struct`. -/
structure PppoeStruct where
  sid_head : Nat → List Nat
  ip_head : Nat → List Nat

/-- A net device: whether its name starts with `pppoe`, whether it is up, and its private part. -/
structure NetDevice where
  isPppoe : Bool
  up : Bool
  priv : PppoeStruct

/-- The devices by `ifindex`, the memory of the channels and those that are allocated. -/
structure State where
  dev : Nat → Option NetDevice
  channel : Nat → PppoeChannel
  kmem : List Nat

/-- `struct pppoe_register_msg`. -/
structure RegisterMsg where
  ifindex : Nat
  sid : UInt16
  magic : List UInt8
  mac : List UInt8
  serverMac : List UInt8
deriving Repr, DecidableEq

/-- `struct pppoe_authorize_msg`. -/
structure AuthorizeMsg where
  ifindex : Nat
  sid : UInt16
  ip : UInt32
deriving Repr, DecidableEq

/-- The bucket that `channel_sid_hash` selects. -/
def sidHash (sid : UInt16) : Nat := sid.toNat &&& (CHANNEL_HASHSIZE - 1)

/-- The bucket that `channel_ip_hash` selects. -/
def ipHash (ip : UInt32) : Nat := ip.toNat &&& (CHANNEL_HASHSIZE - 1)

def sidOf (s : State) (a : Nat) : UInt16 := (s.channel a).sid

def ipOf (s : State) (a : Nat) : UInt32 := (s.channel a).ip

/-- `channel_get_by_sid`. -/
def channelGetBySid (s : State) (p : PppoeStruct) (sid : UInt16) : Option Nat :=
  Buckets.find (sidOf s) sid (p.sid_head (sidHash sid))

/-- `channel_get_by_ip`. -/
def channelGetByIp (s : State) (p : PppoeStruct) (ip : UInt32) : Option Nat :=
  Buckets.find (ipOf s) ip (p.ip_head (ipHash ip))

/-- `channel_alloc` when `kmem_cache_alloc` returned `a`; `channel_setup` drops all protocols. -/
def channelAlloc (s : State) (m : RegisterMsg) (a : Nat) : State :=
  { s with
    kmem := a :: s.kmem
    channel := Function.update s.channel a
      { sid := m.sid
        ip := 0
        magic := m.magic
        mac := m.mac
        serverMac := m.serverMac
        npmode := fun _ => .NPMODE_DROP } }

/-- `channel_free` and `__channel_free`. -/
def channelFree (s : State) (a : Nat) : State := { s with kmem := s.kmem.erase a }

/-- The private part of device `i` becomes `p`. -/
def setPriv (s : State) (i : Nat) (d : NetDevice) (p : PppoeStruct) : State :=
  { s with dev := Function.update s.dev i (some { d with priv := p }) }

/-- `channel->npmode[NP_IP] = mode`. -/
def setMode (s : State) (a : Nat) (mode : NPmode) : State :=
  { s with
    channel := Function.update s.channel a
      { s.channel a with npmode := Function.update (s.channel a).npmode NP_IP mode } }

/-- `channel->ip = ip`. -/
def setIp (s : State) (a : Nat) (ip : UInt32) : State :=
  { s with channel := Function.update s.channel a { s.channel a with ip := ip } }

/-- `channel_sid_insert`; `none` is `-EEXIST`. -/
def channelSidInsert (s : State) (p : PppoeStruct) (a : Nat) : Option PppoeStruct :=
  match channelGetBySid s p (sidOf s a) with
  | some _ => none
  | none => some { p with sid_head := Buckets.insert sidHash (sidOf s) p.sid_head a }

/-- `channel_sid_remove`. -/
def channelSidRemove (s : State) (p : PppoeStruct) (sid : UInt16) : Option (PppoeStruct × Nat) :=
  match channelGetBySid s p sid with
  | none => none
  | some a => some ({ p with sid_head := Buckets.erase p.sid_head (sidHash sid) a }, a)

/-- `channel_ip_insert`; `none` is `-EEXIST`. -/
def channelIpInsert (s : State) (p : PppoeStruct) (a : Nat) : Option PppoeStruct :=
  match channelGetByIp s p (ipOf s a) with
  | some _ => none
  | none => some { p with ip_head := Buckets.insert ipHash (ipOf s) p.ip_head a }

/-- `channel_ip_remove`. -/
def channelIpRemove (s : State) (p : PppoeStruct) (ip : UInt32) : Option (PppoeStruct × Nat) :=
  match channelGetByIp s p ip with
  | none => none
  | some a => some ({ p with ip_head := Buckets.erase p.ip_head (ipHash ip) a }, a)

/-- The channels that `channel_hash_exit` frees: those of all chains of the sid table. -/
def sidChannels (p : PppoeStruct) : List Nat := (List.range CHANNEL_HASHSIZE).flatMap p.sid_head

/-- `channel_hash_exit` on device `i`. -/
def channelHashExit (s : State) (i : Nat) (d : NetDevice) : State :=
  let s' := setPriv s i d { sid_head := fun _ => [], ip_head := fun _ => [] }
  { s' with kmem := s.kmem.filter (· ∉ sidChannels d.priv) }

/-- The device of a request, which must be a pppoe interface. -/
def getDev (s : State) (ifindex : Nat) : Except Errno NetDevice :=
  match s.dev ifindex with
  | none => .error .ENODEV
  | some d => if d.isPppoe then .ok d else .error .EINVAL

/-- `pppoe_channel_register`; `mem` is the result of `kmem_cache_alloc`. -/
def pppoeChannelRegister (s : State) (m : RegisterMsg) (mem : Option Nat) :
    State × Except Errno Unit :=
  match getDev s m.ifindex with
  | .error e => (s, .error e)
  | .ok d =>
    if !d.up then (s, .error .EINVAL)
    else
      match mem with
      | none => (s, .error .ENOMEM)
      | some a =>
        let s := channelAlloc s m a
        match channelSidInsert s d.priv a with
        | none => (channelFree s a, .error .EEXIST)
        | some p => (setPriv s m.ifindex d p, .ok ())

/-- `pppoe_channel_unregister`. -/
def pppoeChannelUnregister (s : State) (m : RegisterMsg) : State × Except Errno Unit :=
  match getDev s m.ifindex with
  | .error e => (s, .error e)
  | .ok d =>
    match channelSidRemove s d.priv m.sid with
    | none => (s, .error .ENOENT)
    | some (p, a) =>
      let p :=
        if (s.channel a).npmode NP_IP = .NPMODE_PASS then
          match channelIpRemove s p (ipOf s a) with
          | none => p
          | some (p, _) => p
        else p
      (channelFree (setPriv s m.ifindex d p) a, .ok ())

/-- `pppoe_channel_authorize`. The address of the channel is set before the insertion that may
fail. -/
def pppoeChannelAuthorize (s : State) (m : AuthorizeMsg) : State × Except Errno Unit :=
  match getDev s m.ifindex with
  | .error e => (s, .error e)
  | .ok d =>
    if !d.up then (s, .error .EINVAL)
    else
      match channelGetBySid s d.priv m.sid with
      | none => (s, .error .ENOENT)
      | some a =>
        if (s.channel a).npmode NP_IP = .NPMODE_PASS then (s, .error .EEXIST)
        else
          let s := setIp s a m.ip
          match channelIpInsert s d.priv a with
          | none => (s, .error .EEXIST)
          | some p => (setMode (setPriv s m.ifindex d p) a .NPMODE_PASS, .ok ())

/-- `pppoe_channel_unauthorize`; the channel is found by its address. -/
def pppoeChannelUnauthorize (s : State) (m : AuthorizeMsg) : State × Except Errno Unit :=
  match getDev s m.ifindex with
  | .error e => (s, .error e)
  | .ok d =>
    match channelIpRemove s d.priv m.ip with
    | none => (s, .error .ENOENT)
    | some (p, a) => (setMode (setPriv s m.ifindex d p) a .NPMODE_DROP, .ok ())

/-- `pppoe_channel_clear`. -/
def pppoeChannelClear (s : State) (ifindex : Nat) : State × Except Errno Unit :=
  match getDev s ifindex with
  | .error e => (s, .error e)
  | .ok d => (channelHashExit s ifindex d, .ok ())

/-- The requests, and interfaces going up and down between them. -/
inductive Event where
  | register (m : RegisterMsg) (mem : Option Nat)
  | unregister (m : RegisterMsg)
  | authorize (m : AuthorizeMsg)
  | unauthorize (m : AuthorizeMsg)
  | clear (ifindex : Nat)
  | flags (ifindex : Nat) (up : Bool)
deriving Repr, DecidableEq

def step (s : State) : Event → State
  | .register m mem => (pppoeChannelRegister s m mem).1
  | .unregister m => (pppoeChannelUnregister s m).1
  | .authorize m => (pppoeChannelAuthorize s m).1
  | .unauthorize m => (pppoeChannelUnauthorize s m).1
  | .clear i => (pppoeChannelClear s i).1
  | .flags i up =>
    match s.dev i with
    | none => s
    | some d => { s with dev := Function.update s.dev i (some { d with up := up }) }

/-- What `kmem_cache_alloc` promises: an address that is not in use. -/
def Legal (s : State) : Event → Prop
  | .register _ mem => ∀ a ∈ mem, a ∉ s.kmem
  | _ => True

instance {s : State} : (e : Event) → Decidable (Legal s e)
  | .register _ mem => inferInstanceAs (Decidable (∀ a ∈ mem, a ∉ s.kmem))
  | .unregister .. | .authorize .. | .unauthorize .. | .clear .. | .flags .. =>
    inferInstanceAs (Decidable True)

/-- The interfaces `devs`, each with its name test and its state, and no channel. -/
def init (devs : List (Nat × Bool × Bool)) : State where
  dev i := (devs.lookup i).map fun d =>
    { isPppoe := d.1, up := d.2, priv := { sid_head := fun _ => [], ip_head := fun _ => [] } }
  channel _ :=
    { sid := 0, ip := 0, magic := [], mac := [], serverMac := [], npmode := fun _ => .NPMODE_PASS }
  kmem := []

/-- The channel at `a` is in the sid table of device `i`. -/
def InSid (s : State) (i a : Nat) : Prop := ∃ d, s.dev i = some d ∧ Buckets.Mem d.priv.sid_head a

/-- The channel at `a` is in the IP table of device `i`. -/
def InIp (s : State) (i a : Nat) : Prop := ∃ d, s.dev i = some d ∧ Buckets.Mem d.priv.ip_head a

end Kernel
end DaemonGroup
