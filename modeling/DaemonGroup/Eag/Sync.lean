import DaemonGroup.Eag.Indexes

/-!
# DaemonGroup.Eag.Sync

The users that a master instance sends to its backup (`eag_ins.c`). The master sends the session of a user at
login, when an address is added, at interim accounting and at logout, and those of all users when the backup
connects; the backup looks each up by its MAC address and brings its own table up to date. Messages are not lost
or reordered, so each is applied when it is queued.

What a function of the operating system says is an input. So is `stack`: what a `memcpy` from the address of a
pointer variable finds there.

The log has the users of both ends after each message.
-/

namespace DaemonGroup
namespace Eag

/-- The rest of `struct appsession` that a message is about: whether `state` is `APPCONN_STATUS_AUTHED`, the name
of the user and the virtual address of the interface. -/
structure SessInfo where
  authed : Bool := false
  username : List UInt8 := []
  virtual_ip : UInt32 := 0
deriving DecidableEq, Repr

/-- `struct appsession`, as a message has it. -/
structure Usersession extends AppConn, SessInfo
deriving DecidableEq, Repr

/-- MAC address, addresses and name of a user. -/
abbrev User := Mac × UserAddr × List UInt8

/-- What of an instance is concerned: the connections and what their sessions say, and the number of users. -/
structure EagIns where
  db : AppDb
  info : Nat → SessInfo
  authed_user_num : Nat

/-- What the backup is told by its system while it handles a message, and what of the master: the virtual address
of the interface (`get_virtual_ip_by_down_interface`). -/
structure SynAnswers where
  virtual_ip : Option UInt32
  mem : Bool
  intf : Bool
  authorize : Bool
  stack : UserAddr
deriving DecidableEq, Repr

namespace EagIns

/-- An instance without users. -/
def create (hash_num : UInt32) : EagIns where
  db := AppDb.create hash_num
  info := fun _ => {}
  authed_user_num := 0

section
variable (h : Host) (e : EagIns)

/-- The user of a connection, if it is logged in. -/
def user? (a : Nat) : Option User :=
  (e.db.conns a).bind fun c =>
    if (e.info a).authed then some (c.usermac, c.user_addr, (e.info a).username) else none

/-- The users that are logged in. -/
def users : List User := e.db.head.filterMap e.user?

/-- `appsession_copy` into the session of a connection. -/
def appsessionCopy (a : Nat) (m : Usersession) : EagIns :=
  { e with
    db := { e.db with conns := Function.update e.db.conns a (some m.toAppConn) }
    info := Function.update e.info a m.toSessInfo }

/-- `memcpy(user_addr_a, …, sizeof(user_addr_t))`. -/
def setAddr (a : Nat) (u : UserAddr) : EagIns :=
  { e with db := { e.db with
    conns := Function.update e.db.conns a ((e.db.conns a).map fun c => { c with user_addr := u }) } }

/-- The connection that `eag_ins_do_syn_user_data` makes, and `eag_ins_do_syn_user_data_online`. -/
def doSynUserDataOnline (m : Usersession) (ans : SynAnswers) : EagIns :=
  if ans.mem = false then e
  else
    let a := e.db.brk
    let db := { e.db with brk := a + 1 }
    if ans.intf = false ∨ ans.authorize = false then { e with db := db }
    else
      { db := db.appconnAddToDb h a m.toAppConn
        info := Function.update e.info a m.toSessInfo
        authed_user_num := e.authed_user_num + 1 }

/-- `eag_ins_do_syn_user_data_offline`. -/
def doSynUserDataOffline (a : Nat) : Option EagIns :=
  (e.db.appconnDelFromDb a).map fun db => { e with db := db, authed_user_num := e.authed_user_num - 1 }

/-- `eag_ins_do_syn_user_data_update`. The addresses are saved with `memcpy(&user_addr, &user_addr_a, …)`. -/
def doSynUserDataUpdate (a : Nat) (c : AppConn) (m : Usersession) (stack : UserAddr) : EagIns :=
  if (c.user_addr.family = EAG_IPV4 ∧ m.user_addr.family ≠ EAG_IPV4) ∨
      (c.user_addr.family = EAG_IPV6 ∧ m.user_addr.family ≠ EAG_IPV6) then
    let e := (e.appsessionCopy a m).setAddr a stack
    { e with db := e.db.appconnIpxUpdate a m.user_addr }
  else e

/-- `0 == ipxcmp(…)`, where the first has both addresses. -/
def mixEq (u v : UserAddr) : Prop :=
  (v.family = EAG_IPV4 ∧ u.user_ip = v.user_ip) ∨ (v.family = EAG_MIX ∧ u = v) ∨
    (v.family = EAG_IPV6 ∧ u.user_ipv6 = v.user_ipv6)

instance (u v : UserAddr) : Decidable (mixEq u v) := inferInstanceAs (Decidable (_ ∨ _ ∨ _))

/-- The connection that the backup has is brought up to date, unless its address is another one. With both
addresses, they are saved with `memcpy(&user_addr_tmp, &user_addr_a, …)`. -/
def refreshed (a : Nat) (c : AppConn) (m : Usersession) (stack : UserAddr) : Option EagIns :=
  if (e.info a).virtual_ip ≠ m.virtual_ip then some e
  else if c.user_addr.family = EAG_IPV4 then
    if m.user_addr.family ≠ EAG_IPV6 ∧ c.user_addr.user_ip ≠ m.user_addr.user_ip then none
    else if m.user_addr.family ≠ EAG_IPV4 then some (e.doSynUserDataUpdate a c m stack)
    else some (e.appsessionCopy a m)
  else if c.user_addr.family = EAG_MIX then
    if ¬ mixEq c.user_addr m.user_addr then none
    else some ((e.appsessionCopy a m).setAddr a stack)
  else if c.user_addr.family = EAG_IPV6 then
    if m.user_addr.family ≠ EAG_IPV4 ∧ c.user_addr.user_ipv6 ≠ m.user_addr.user_ipv6 then none
    else if m.user_addr.family ≠ EAG_IPV6 then some (e.doSynUserDataUpdate a c m stack)
    else some (e.appsessionCopy a m)
  else some e

/-- `eag_ins_do_syn_user_data`. -/
def doSynUserData (m : Usersession) (ans : SynAnswers) : Option EagIns := do
  match ← e.db.appconnFindByUsermac h m.usermac with
  | none => if m.authed = false then pure e else pure (e.doSynUserDataOnline h m ans)
  | some a =>
    let c ← e.db.conns a
    match e.refreshed a c m ans.stack with
    | none => e.doSynUserDataOffline a
    | some e => if m.authed = false then e.doSynUserDataOffline a else pure e

end

end EagIns

/-! ## The two instances -/

/-- After one message: whether more are to follow for the same connecting of the backup, the users of the master
when it was queued, and the users of the backup and their number. -/
structure SyncLog where
  more : Bool
  master : List User
  backup : List User
  authed_user_num : Nat
deriving DecidableEq, Repr

structure SyncLink where
  master : EagIns
  backup : EagIns
  connected : Bool
  log : List SyncLog

namespace SyncLink

/-- Two instances without users. -/
def create (hash_num hash_num' : UInt32) : SyncLink where
  master := EagIns.create hash_num
  backup := EagIns.create hash_num'
  connected := false
  log := []

section
variable (h : Host) (s : SyncLink)

def setInfo (a : Nat) (i : SessInfo) : SyncLink :=
  { s with master := { s.master with info := Function.update s.master.info a i } }

/-- `eag_ins_syn_user`, and what the backup makes of the message. -/
def synUser (a : Nat) (ans : SynAnswers) (more : Bool) : Option SyncLink :=
  match s.connected, s.master.db.conns a, ans.virtual_ip with
  | true, some c, some virtual_ip =>
    (s.backup.doSynUserData h ⟨c, { s.master.info a with virtual_ip := virtual_ip }⟩ ans).map fun b =>
      { s with backup := b, log := s.log ++ [⟨more, s.master.users, b.users, b.authed_user_num⟩] }
  | _, _, _ => some s

/-- `master_backup_all_user_data`. -/
def backupAllUserData (ans : Nat → SynAnswers) : List Nat → SyncLink → Option SyncLink
  | [], s => some s
  | a :: rest, s => do
    let s ← s.synUser h a (ans a) !rest.isEmpty
    backupAllUserData ans rest s

end

end SyncLink

/-- What can happen on the master. `table` is what is done to connections that are not logged in; that a
connection which is logged in is cleaned away is a `terminate`. -/
inductive SyncOp
  | table (op : AppOp)
  | setName (a : Nat) (username : List UInt8)
  | authSuccess (a : Nat) (ans : SynAnswers)
  | authUpdate (a : Nat) (user_addr : UserAddr) (ans : SynAnswers)
  | refresh (a : Nat) (ans : SynAnswers)
  | terminate (a : Nat) (ans : SynAnswers)
  | connect (ans : Nat → SynAnswers)

namespace SyncOp

/-- No connection that is logged in differs. -/
def spared (e : EagIns) (db : AppDb) : Bool :=
  e.db.head.all fun a => !(e.info a).authed || decide (db.conns a = e.db.conns a)

/-- An operation on a connection that there is not is none, and so is one of the table that would change a
connection that is logged in. -/
def step (h : Host) (s : SyncLink) : SyncOp → Option SyncLink
  | table op => do
    let db ← op.step h s.master.db
    pure (if spared s.master db then { s with master := { s.master with db := db } } else s)
  | setName a username =>
    if s.master.db.conns a = none then some s
    else some (s.setInfo a { s.master.info a with username := username })
  | authSuccess a ans =>
    if s.master.db.conns a = none then some s
    else
      let s := s.setInfo a { s.master.info a with authed := true }
      SyncLink.synUser h { s with master := { s.master with authed_user_num := s.master.authed_user_num + 1 } } a ans false
  | authUpdate a user_addr ans =>
    if (s.master.user? a).isNone then some s
    else
      SyncLink.synUser h { s with master := { s.master with db := s.master.db.appconnIpxUpdate a user_addr } } a ans false
  | refresh a ans => if (s.master.user? a).isNone then some s else s.synUser h a ans false
  | terminate a ans =>
    if s.master.db.conns a = none then some s
    else do
      let s ← (s.setInfo a { s.master.info a with authed := false }).synUser h a ans false
      let db ← s.master.db.appconnDelFromDb a
      pure { s with master := { s.master with db := db, authed_user_num := s.master.authed_user_num - 1 } }
  | connect ans =>
    if s.connected then some s
    else
      SyncLink.backupAllUserData h ans (s.master.db.head.filter fun a => (s.master.user? a).isSome)
        { s with connected := true }

end SyncOp

end Eag
end DaemonGroup
