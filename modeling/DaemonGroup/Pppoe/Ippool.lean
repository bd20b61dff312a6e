import DaemonGroup.Pppoe.Session
import Mathlib.Data.List.Basic

/-!
# DaemonGroup.Pppoe.Ippool

`pppoe_ippool.c`: the pool of client addresses. Addresses whose last octet is 0 or 255 have no
slot, so an address and its slot are related by `ipaddrToIndex` and `indexToIpaddr`. Arithmetic is
that of `uint32`.
-/

namespace DaemonGroup
namespace Pppoe

def ipaddrToIndex (startIP ip : UInt32) : UInt32 :=
  ip - startIP - ((ip >>> 8) - (startIP >>> 8)) * 2

def indexToIpaddr (startIP index : UInt32) : UInt32 :=
  let num := index / 0xfe
  let remain := index - num * 0xfe
  if remain + (startIP &&& 0xff) ≥ 0xff then
    startIP + (num <<< 8) + remain + 2
  else
    startIP + (num <<< 8) + remain

/-- `ippool_get_free_index`: the first empty slot, `totalNUM` if there is none. -/
def ippoolGetFreeIndex (p : Ippool) : UInt32 :=
  match (List.range p.totalNUM.toNat).find? fun i => p.pool i = none with
  | some i => UInt32.ofNat i
  | none => p.totalNUM

def ippoolTotal (minIP maxIP : UInt32) : UInt32 :=
  maxIP - minIP + (1 : UInt32) - ((maxIP >>> 8) - (minIP >>> 8)) * 2

/-- `ippool_create`; `none` when the range is empty. There is always memory for the slots. -/
def ippoolCreate (minIP maxIP : UInt32) (dns1 dns2 : Nat) : Option Ippool :=
  let minIP : UInt32 := if minIP &&& 0xff = 0 then minIP + 1
    else if minIP &&& 0xff = 0xff then minIP + 2 else minIP
  let maxIP : UInt32 := if maxIP &&& 0xff = 0 then maxIP - 2
    else if maxIP &&& 0xff = 0xff then maxIP - 1 else maxIP
  if minIP > maxIP then
    none
  else
    some
      { startIP := minIP
        totalNUM := ippoolTotal minIP maxIP
        dns1 := dns1
        dns2 := dns2 }

def Ippool.setSlot (p : Ippool) (i : Nat) (v : Option Addr) : Ippool :=
  { p with pool := fun j => if j = i then v else p.pool j }

/-- `ipaddr_apply` on the address record of the session at `self`. -/
def ipaddrApply (p : Ippool) (self : Addr) (ipaddr : IpaddrStruct) :
    Int × Ippool × IpaddrStruct :=
  let index := if ipaddr.ip ≠ 0 then ipaddrToIndex p.startIP ipaddr.ip
    else ippoolGetFreeIndex p
  if index ≥ p.totalNUM then
    (PPPOEERR_ENOMEM, p, ipaddr)
  else
    let ip := if ipaddr.ip ≠ 0 then ipaddr.ip else indexToIpaddr p.startIP index
    (PPPOEERR_SUCCESS, p.setSlot index.toNat (some self),
      { ip := ip, dns1 := p.dns1, dns2 := p.dns2 })

/-- `ipaddr_recover` on the address record of the session at `self`. -/
def ipaddrRecover (p : Ippool) (self : Addr) (ipaddr : IpaddrStruct) :
    Int × Ippool × IpaddrStruct :=
  if ipaddr.ip = 0 then
    (PPPOEERR_EINVAL, p, ipaddr)
  else
    let index := ipaddrToIndex p.startIP ipaddr.ip
    if index ≥ p.totalNUM ∨ p.pool index.toNat ≠ some self then
      (PPPOEERR_ENOEXIST, p, ipaddr)
    else
      (PPPOEERR_SUCCESS, p.setSlot index.toNat none, {})

/-- `sessopt_ipapply`. -/
def sessoptIpapply (e : Env) : M Int := do
  let c ← get
  let r := ipaddrApply c.pool e.self c.sess.ipaddr
  set { c with pool := r.2.1, sess := { c.sess with ipaddr := r.2.2 } }
  return r.1

end Pppoe
end DaemonGroup
