import DaemonGroup.Lib.Listing
import Mathlib.Data.List.Basic

/-!
# DaemonGroup.Eag.Appconn

The table of portal users (`appconn.c`, `hashtable.c`): the list of the connections and their three hash
tables, by IPv4 address, by IPv6 address and by MAC address.

A pointer to a connection is the number of its allocation; allocations are never used again, and a
number that no connection has stands for `NULL`. What follows a pointer to a connection that has been
freed, or takes a node out of a list it is not in, has no result. What the rest of the system says while
a connection is made is an input.
-/

namespace DaemonGroup
namespace Eag

open Lib

def EAG_IPV4 : UInt8 := 4
def EAG_IPV6 : UInt8 := 6
def EAG_MIX : UInt8 := 10

def NO_NEED_AUTH : UInt32 := 11

/-- What of the machine matters: the size of a pointer, and how four octets are read as an
`unsigned int`. -/
structure Host where
  lp64 : Bool
  word : UInt8 → UInt8 → UInt8 → UInt8 → UInt32

/-- `struct in6_addr`, as four words. -/
structure In6Addr where
  w0 : UInt32
  w1 : UInt32
  w2 : UInt32
  w3 : UInt32
deriving DecidableEq, Repr

def In6Addr.zero : In6Addr := ⟨0, 0, 0, 0⟩

/-- `user_addr_t`. -/
structure UserAddr where
  family : UInt8
  user_ip : UInt32
  user_ipv6 : In6Addr
deriving DecidableEq, Repr

namespace UserAddr

/-- The user has an IPv4 address. -/
def hasV4 (u : UserAddr) : Prop := u.family = EAG_IPV4 ∨ u.family = EAG_MIX

/-- The user has an IPv6 address. -/
def hasV6 (u : UserAddr) : Prop := u.family = EAG_IPV6 ∨ u.family = EAG_MIX

/-- The address is of one of the three kinds. -/
def Known (u : UserAddr) : Prop := u.family = EAG_IPV4 ∨ u.family = EAG_IPV6 ∨ u.family = EAG_MIX

instance (u : UserAddr) : Decidable u.hasV4 := inferInstanceAs (Decidable (_ ∨ _))

instance (u : UserAddr) : Decidable u.hasV6 := inferInstanceAs (Decidable (_ ∨ _))

end UserAddr

structure Mac where
  b0 : UInt8
  b1 : UInt8
  b2 : UInt8
  b3 : UInt8
  b4 : UInt8
  b5 : UInt8
deriving DecidableEq, Repr

def Mac.zero : Mac := ⟨0, 0, 0, 0, 0, 0⟩

/-- The part of `struct app_conn_t` that the tables are made of. -/
structure AppConn where
  user_addr : UserAddr
  usermac : Mac
deriving DecidableEq, Repr

/-- The octets that are left over, as `char`s. -/
def hashRest : List UInt8 → UInt32
  | [] => 0
  | b :: l => UInt32.ofInt (b.toInt8.toInt * 2 ^ (l.length * 8)) + hashRest l

/-- `hash_value_count`, for a key of the words `words` and the octets `rest`. -/
def hashValueCount (words : List UInt32) (rest : List UInt8) (hash_size : UInt32) : Nat :=
  if (words = [] ∧ rest = []) ∨ hash_size = 0 then 0
  else ((words.foldl (· + ·) 0 + hashRest rest) % hash_size).toNat

structure AppDb where
  head : List Nat
  conns : Nat → Option AppConn
  ip_htable : Nat → List Nat
  ipv6_htable : Nat → List Nat
  mac_htable : Nat → List Nat
  hash_num : UInt32
  brk : Nat
  force_wireless : Bool
  check_nasportid : Bool

/-- What the wireless side says about a station (`struct dcli_sta_info_v2`). -/
structure Sta where
  ip_addr : UInt32
  ip6_addr : In6Addr
  auth_type : UInt32

namespace AppDb

section
variable (db : AppDb) (h : Host)

/-- `appconn_db_create`. -/
def create (hash_num : UInt32) : AppDb :=
  { head := [], conns := fun _ => none, ip_htable := fun _ => [], ipv6_htable := fun _ => []
    mac_htable := fun _ => [], hash_num := hash_num, brk := 0, force_wireless := true
    check_nasportid := false }

def ipHash (user_ip : UInt32) : Nat := hashValueCount [user_ip] [] db.hash_num

def ipv6Hash (u : In6Addr) : Nat := hashValueCount [u.w0, u.w1, u.w2, u.w3] [] db.hash_num

def macHash (m : Mac) : Nat :=
  hashValueCount [h.word m.b0 m.b1 m.b2 m.b3] [m.b4, m.b5] db.hash_num

/-- `hashtable_check_add_node`. -/
def hashtableCheckAddNode (T : Nat → List Nat) (hash_value a : Nat) : Nat → List Nat :=
  if a ∈ T hash_value then T else Function.update T hash_value (a :: T hash_value)

/-- `hlist_del`, for a node of one of the lists. -/
def hlistDel (T : Nat → List Nat) (a : Nat) : Option (Nat → List Nat) :=
  if ∃ i ≤ db.hash_num.toNat, a ∈ T i then some fun i => (T i).erase a else none

/-- `hlist_del` for the connections of some families. -/
def hlistDelIf (p : Prop) [Decidable p] (T : Nat → List Nat) (a : Nat) : Option (Nat → List Nat) :=
  if p then db.hlistDel T a else some T

/-- `appconn_update_ip_htable`. -/
def appconnUpdateIpHtable (a : Nat) (c : AppConn) : AppDb :=
  if c.user_addr.family = EAG_IPV4 then
    { db with ip_htable := hashtableCheckAddNode db.ip_htable (db.ipHash c.user_addr.user_ip) a }
  else if c.user_addr.family = EAG_MIX then
    { db with
      ip_htable := hashtableCheckAddNode db.ip_htable (db.ipHash c.user_addr.user_ip) a
      ipv6_htable := hashtableCheckAddNode db.ipv6_htable (db.ipv6Hash c.user_addr.user_ipv6) a }
  else if c.user_addr.family = EAG_IPV6 then
    { db with ipv6_htable := hashtableCheckAddNode db.ipv6_htable (db.ipv6Hash c.user_addr.user_ipv6) a }
  else db

/-- `appconn_add_to_db`, for the connection `c` at `a`. -/
def appconnAddToDb (a : Nat) (c : AppConn) : AppDb :=
  let db := { db with head := db.head ++ [a], conns := Function.update db.conns a (some c) }
  let db := db.appconnUpdateIpHtable a c
  { db with mac_htable := hashtableCheckAddNode db.mac_htable (db.macHash h c.usermac) a }

/-- `appconn_del_from_db` and `appconn_free`. -/
def appconnDelFromDb (a : Nat) : Option AppDb := do
  let c ← db.conns a
  if a ∉ db.head then none
  let ip_htable ←
    db.hlistDelIf (c.user_addr.family = EAG_IPV4 ∨ c.user_addr.family = EAG_MIX) db.ip_htable a
  let ipv6_htable ←
    db.hlistDelIf (c.user_addr.family = EAG_IPV6 ∨ c.user_addr.family = EAG_MIX) db.ipv6_htable a
  let mac_htable ← db.hlistDel db.mac_htable a
  pure { db with
    head := db.head.erase a, conns := Function.update db.conns a none, ip_htable := ip_htable
    ipv6_htable := ipv6_htable, mac_htable := mac_htable }

/-- `appconn_clean_conflict`. A user who is logged in is logged out before, which ends in the same
way. -/
def appconnCleanConflict (a : Nat) : Option AppDb :=
  if db.conns a = none then some db else db.appconnDelFromDb a

/-- `appconn_ipx_update`. -/
def appconnIpxUpdate (a : Nat) (user_addr : UserAddr) : AppDb :=
  match db.conns a with
  | none => db
  | some c =>
    if c.user_addr.family = EAG_IPV4 ∧ user_addr.family ≠ EAG_IPV4 then
      { db with
        conns := Function.update db.conns a (some { c with user_addr :=
          { c.user_addr with family := EAG_MIX, user_ipv6 := user_addr.user_ipv6 } })
        ipv6_htable := hashtableCheckAddNode db.ipv6_htable (db.ipv6Hash user_addr.user_ipv6) a }
    else if c.user_addr.family = EAG_IPV6 ∧ user_addr.family ≠ EAG_IPV6 then
      { db with
        conns := Function.update db.conns a (some { c with user_addr :=
          { c.user_addr with family := EAG_MIX, user_ip := user_addr.user_ip } })
        ip_htable := hashtableCheckAddNode db.ip_htable (db.ipHash user_addr.user_ip) a }
    else db

/-- The first connection of a bucket with `p`. -/
def searchBucket (p : AppConn → Bool) (l : List Nat) : Option (Option Nat) :=
  l.findM? fun a => (db.conns a).map p

/-- `appconn_find_by_userip`. -/
def appconnFindByUserip (userip : UInt32) : Option (Option Nat) :=
  db.searchBucket (·.user_addr.user_ip = userip) (db.ip_htable (db.ipHash userip))

/-- `appconn_find_by_useripv6`. -/
def appconnFindByUseripv6 (useripv6 : In6Addr) : Option (Option Nat) :=
  db.searchBucket (·.user_addr.user_ipv6 = useripv6) (db.ipv6_htable (db.ipv6Hash useripv6))

/-- `appconn_find_by_usermac`. -/
def appconnFindByUsermac (usermac : Mac) : Option (Option Nat) :=
  db.searchBucket (·.usermac = usermac) (db.mac_htable (db.macHash h usermac))

/-- `appconn_find_by_useripx`. Two connections for the two addresses of one user are a conflict. -/
def appconnFindByUseripx (user_addr : UserAddr) : Option (Option Nat × AppDb) :=
  if user_addr.family = EAG_IPV4 then do
    pure (← db.appconnFindByUserip user_addr.user_ip, db)
  else if user_addr.family = EAG_IPV6 then do
    pure (← db.appconnFindByUseripv6 user_addr.user_ipv6, db)
  else if user_addr.family = EAG_MIX then do
    let appconn_v4 ← db.appconnFindByUserip user_addr.user_ip
    let appconn_v6 ← db.appconnFindByUseripv6 user_addr.user_ipv6
    match appconn_v4, appconn_v6 with
    | some v4, some v6 =>
      let db ← if v4 ≠ v6 then db.appconnCleanConflict v6 else pure db
      pure (some v4, db)
    | some v4, none => pure (some v4, db)
    | none, v6 => pure (v6, db)
  else some (none, db)

/-- The addresses of a station that `eag_get_sta_info_by_mac_v2` puts into the session. -/
def staAddr (u : UserAddr) (sta : Sta) : UserAddr :=
  { family :=
      if sta.ip_addr ≠ 0 ∧ sta.ip6_addr ≠ .zero then EAG_MIX
      else if sta.ip_addr ≠ 0 then EAG_IPV4
      else if sta.ip6_addr ≠ .zero then EAG_IPV6
      else u.family
    user_ip := sta.ip_addr
    user_ipv6 := sta.ip6_addr }

/-- The address of the session after the wireless side has been asked, if the connection is not given
up. A station without MAC address is not asked for. -/
def askWireless (usermac : Mac) (sta : Option Sta) (u : UserAddr) : Option UserAddr :=
  match if usermac = .zero then none else sta with
  | none => if db.force_wireless then none else some u
  | some sta => if sta.auth_type = NO_NEED_AUTH then none else some (staAddr u sta)

/-- A connection is made for the address `u`: `mem` says whether there is memory, `intf` whether an
interface is known, `ask` what becomes of the address, and `nasportid` whether the port has a number. -/
def make (u : UserAddr) (usermac : Mac) (mem intf nasportid : Bool) (ask : UserAddr → Option UserAddr) :
    Option Nat × AppDb :=
  if !mem then (none, db)
  else
    let a := db.brk
    let db := { db with brk := a + 1 }
    if (usermac = .zero ∧ db.force_wireless) ∨ !intf then (none, db)
    else match ask u with
      | none => (none, db)
      | some u =>
        if !nasportid ∧ db.check_nasportid then (none, db)
        else (some a, db.appconnAddToDb h a ⟨u, usermac⟩)

/-- What the system says while a connection is made. -/
structure Answers where
  mem : Bool
  usermac : Mac
  intf : Bool
  sta : Option Sta
  nasportid : Bool

/-- `memcpy(&(appconn->session.user_addr), user_addr, sizeof(user_addr))`: as many octets as a pointer
has are copied, into a session that is all zero. -/
def copyAddr (user_addr : UserAddr) : UserAddr :=
  { family := user_addr.family, user_ip := if h.lp64 then user_addr.user_ip else 0, user_ipv6 := .zero }

/-- `appconn_find_by_ip_autocreate`. -/
def appconnFindByIpAutocreate (user_addr : UserAddr) (ans : Answers) : Option (Option Nat × AppDb) := do
  let x ← db.appconnFindByUseripx user_addr
  match x.1 with
  | some a => pure (some a, x.2)
  | none =>
    pure (x.2.make h (copyAddr h user_addr) ans.usermac ans.mem ans.intf ans.nasportid
      (x.2.askWireless ans.usermac ans.sta))

/-- `appconn_create_no_arp`. -/
def appconnCreateNoArp (user_addr : UserAddr) (ans : Answers) : Option Nat × AppDb :=
  db.make h user_addr ans.usermac ans.mem ans.intf ans.nasportid (db.askWireless ans.usermac ans.sta)

/-- `appconn_create_by_sta_v2`. -/
def appconnCreateByStaV2 (user_addr : UserAddr) (ans : Answers) : Option Nat × AppDb :=
  db.make h user_addr ans.usermac ans.mem ans.intf ans.nasportid some

end

end AppDb

/-- The operations on the table; the switches may be set at any time. -/
inductive AppOp
  | autocreate (user_addr : UserAddr) (ans : AppDb.Answers)
  | createNoArp (user_addr : UserAddr) (ans : AppDb.Answers)
  | createBySta (user_addr : UserAddr) (ans : AppDb.Answers)
  | ipxUpdate (a : Nat) (user_addr : UserAddr)
  | cleanConflict (a : Nat)
  | delete (a : Nat)
  | find (user_addr : UserAddr)
  | configure (force_wireless check_nasportid : Bool)

/-- A connection that is deleted is one that there is. -/
def AppOp.step (h : Host) (db : AppDb) : AppOp → Option AppDb
  | autocreate user_addr ans => (db.appconnFindByIpAutocreate h user_addr ans).map Prod.snd
  | createNoArp user_addr ans => some (db.appconnCreateNoArp h user_addr ans).2
  | createBySta user_addr ans => some (db.appconnCreateByStaV2 h user_addr ans).2
  | ipxUpdate a user_addr => some (db.appconnIpxUpdate a user_addr)
  | cleanConflict a => db.appconnCleanConflict a
  | delete a => if db.conns a = none then some db else db.appconnDelFromDb a
  | find user_addr => (db.appconnFindByUseripx user_addr).map Prod.snd
  | configure force_wireless check_nasportid =>
    some { db with force_wireless := force_wireless, check_nasportid := check_nasportid }

end Eag
end DaemonGroup
