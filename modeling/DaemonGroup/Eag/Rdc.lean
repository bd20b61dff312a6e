import Mathlib.Data.List.Nodup
import Mathlib.Logic.Function.Basic

/-!
# DaemonGroup.Eag.Rdc

The RADIUS proxy (`rdc_client.c`, `rdc_pktconn.c`, `rdc_server.c`, `rdc_ins.c`). A packet connection stands
for the requests of one NAS client with one id; it holds the entry of that id in one of the sockets to the
servers.

Packet connections are in memory by their addresses, sockets by their places in the list, which they never
leave. The database is searched by key in one chain of a hash table and keys never change, so it is the list
of its packet connections. Which calls of the system succeed, and what `eag_blkmem_malloc_item` returns, are
inputs. A packet connection that is read after it was freed gives `none`.

The log has what was forwarded, with the packet connections that hold the id of the socket at that time, and
which entries were taken.
-/

namespace DaemonGroup
namespace Eag

inductive RdcIdStatus
  | RDC_ID_FREE
  | RDC_ID_USED
  | RDC_ID_WAIT
deriving DecidableEq, Repr

/-- An address and a port. -/
abbrev Endpoint := UInt32 × UInt16

/-- `struct rdc_id`. The timer has the time when it is due. It is remembered until when the entry last had
to wait. -/
structure RdcId where
  status : RdcIdStatus := .RDC_ID_FREE
  pktconn : Option Nat := none
  t_timeout : Option Int := none
  timeout : Int := 0
  waited : Option Int := none
deriving DecidableEq, Repr

/-- `struct rdc_sockclient`; the socket is open if `sockfd` is not negative. -/
structure Sockclient where
  opened : Bool := false
  id : UInt8 → RdcId := fun _ => {}

/-- `struct rdc_pktconn`. The servers that its requests named are remembered. -/
structure Pktconn where
  sockclient : Option Nat
  client : Endpoint
  id : UInt8
  t_timeout : Option Int
  timeout : Int
  named : List Endpoint
deriving DecidableEq, Repr

inductive RdcLog
  | forwarded (client server : Endpoint) (owners : List Pktconn)
  | taken (waited : Option Int) (now : Int)
deriving DecidableEq, Repr

/-- `struct rdc_ins` with its client and its database. -/
structure Rdc where
  status : Bool
  serving : Bool
  timeout : Int
  sockcli_list : List Sockclient
  conn : Nat → Option Pktconn
  db : List Nat
  now : Int
  log : List RdcLog

namespace Rdc

section
variable (R : Rdc)

/-- The entry of an id in a socket. -/
def entry (s : Nat) (i : UInt8) : Option RdcId := R.sockcli_list[s]?.map (·.id i)

def setEntry (s : Nat) (i : UInt8) (e : RdcId) : Rdc :=
  { R with sockcli_list := R.sockcli_list.modify s fun c => { c with id := Function.update c.id i e } }

/-- The packet connections in the database that have the id and the socket. -/
def owners (s : Nat) (i : UInt8) : List Pktconn :=
  (R.db.filterMap R.conn).filter fun c => c.sockclient = some s ∧ c.id = i

/-! ## Packet connections -/

/-- `rdc_pktconn_db_lookup`. -/
def pktconnDbLookup (client : Endpoint) (i : UInt8) : Option (Option Nat) :=
  if R.db.all fun p => (R.conn p).isSome then
    some (R.db.find? fun p => (R.conn p).any fun c => c.client = client ∧ c.id = i)
  else none

/-- `rdc_pktconn_new`, `rdc_pktconn_db_add` and `rdc_pktconn_wait`. -/
def pktconnNew (p : Nat) (client : Endpoint) (i : UInt8) : Rdc :=
  { R with
    conn := Function.update R.conn p (some ⟨none, client, i, some (R.now + R.timeout), R.timeout, []⟩)
    db := p :: R.db }

/-- `rdc_sockclient_id_wait`. -/
def sockclientIdWait (s : Nat) (i : UInt8) : Rdc :=
  match R.entry s i with
  | none => R
  | some e =>
    let due := R.now + e.timeout
    R.setEntry s i { e with status := .RDC_ID_WAIT, pktconn := none, t_timeout := some due, waited := some due }

/-- `pktconn_timeout`. -/
def pktconnTimeout (p : Nat) (c : Pktconn) : Rdc :=
  let R := match c.sockclient with
    | some s => R.sockclientIdWait s c.id
    | none => R
  { R with db := R.db.erase p, conn := Function.update R.conn p none }

/-- `rdc_pktconn_db_clear`. -/
def pktconnDbClear : Rdc :=
  { R with db := [], conn := fun p => if p ∈ R.db then none else R.conn p }

/-! ## Sockets -/

/-- `rdc_sockclient_stop`. -/
def sockclientStop : Sockclient := { opened := false, id := fun _ => {} }

/-- `rdc_client_stop`. -/
def clientStop : Rdc := { R with sockcli_list := R.sockcli_list.map fun _ => sockclientStop }

/-- `rdc_client_start`: if a socket cannot be opened all are stopped. -/
def clientStart (sockets : List Bool) : Rdc × Bool :=
  if (R.sockcli_list.zip sockets).all fun x => x.1.opened || x.2 then
    ({ R with sockcli_list := R.sockcli_list.map fun c => { c with opened := true } }, true)
  else (R.clientStop, false)

/-- The entry of the id in a socket is taken for a packet connection. -/
def take (s : Nat) (i : UInt8) (p : Nat) (c : Pktconn) (e : RdcId) : Rdc :=
  { R.setEntry s i { e with status := .RDC_ID_USED, pktconn := some p, timeout := c.timeout } with
    conn := Function.update R.conn p (some { c with sockclient := some s })
    log := .taken e.waited R.now :: R.log }

/-- The first socket whose entry of the id is free. -/
def freeSocket (i : UInt8) : Option Nat :=
  R.sockcli_list.findIdx? fun c => (c.id i).status = .RDC_ID_FREE

/-- `rdc_client_send_request`. -/
def clientSendRequest (p : Nat) (c : Pktconn) (mem socket : Bool) : Rdc :=
  match c.sockclient with
  | some _ => R
  | none =>
    match R.freeSocket c.id with
    | some s => R.take s c.id p c ((R.entry s c.id).getD {})
    | none =>
      if mem then
        ({ R with sockcli_list := R.sockcli_list ++ [({ opened := socket } : Sockclient)] }).take
          R.sockcli_list.length c.id p c {}
      else R

/-! ## Packets -/

/-- `server_process_request`. -/
def serverProcessRequest (client : Endpoint) (i : UInt8) (server : Endpoint) (malloc : Option Nat)
    (mem socket : Bool) : Option Rdc := do
  let found ← R.pktconnDbLookup client i
  let x := match found with
    | some p => some (R, p)
    | none => match malloc with
      | some p => if (R.conn p).isSome then none else some (R.pktconnNew p client i, p)
      | none => none
  match x with
  | none => some R
  | some (R, p) =>
    let c ← R.conn p
    let c := { c with named := server :: c.named }
    some (({ R with conn := Function.update R.conn p (some c) }).clientSendRequest p c mem socket)

/-- `sockclient_receive` and `sockclient_process_response`. -/
def sockclientProcessResponse (s : Nat) (server : Endpoint) (i : UInt8) : Option Rdc :=
  match R.sockcli_list[s]? with
  | none => some R
  | some sock =>
    if sock.opened then
      match (sock.id i).pktconn with
      | none => some R
      | some p => do
        let c ← R.conn p
        some { R with log := .forwarded c.client server (R.owners s i) :: R.log }
    else some R

/-! ## Timers and the instance -/

/-- The timer of a packet connection, if it is due. -/
def connTimer (p : Nat) : Rdc :=
  match R.conn p with
  | some c => if p ∈ R.db ∧ c.t_timeout.any (· ≤ R.now) then R.pktconnTimeout p c else R
  | none => R

/-- `id_status_timeout`, if the timer is due. -/
def idStatusTimeout (s : Nat) (i : UInt8) : Rdc :=
  match R.entry s i with
  | some e =>
    if e.t_timeout.any (· ≤ R.now) then
      R.setEntry s i { e with status := .RDC_ID_FREE, pktconn := none, t_timeout := none, timeout := 0 }
    else R
  | none => R

/-- What the start of the instance and the change to master have in common. -/
def serve (server : Bool) (sockets : List Bool) (coa : Bool) : Rdc × Bool :=
  if server then
    let (R, ok) := R.clientStart sockets
    if ok then
      if coa then ({ R with serving := true }, true) else (R.clientStop, false)
    else (R, false)
  else (R, false)

/-- `rdc_ins_start`. -/
def insStart (master server : Bool) (sockets : List Bool) (coa : Bool) : Rdc :=
  if R.status then R
  else if master then
    let (R, ok) := R.serve server sockets coa
    if ok then { R with status := true } else R
  else { R with status := true }

/-- `rdc_ins_stop`. -/
def insStop : Rdc :=
  if R.status then { R.clientStop.pktconnDbClear with status := false, serving := false }
  else R

/-- `rdc_vrrp_status_switch_proc`. -/
def vrrpStatusSwitchProc (master server : Bool) (sockets : List Bool) (coa : Bool) : Rdc :=
  if R.status then
    let R := { R.clientStop.pktconnDbClear with serving := false }
    if master then (R.serve server sockets coa).1 else R
  else R

/-- `rdc_ins_set_timeout`. -/
def insSetTimeout (timeout : Int) : Rdc := { R with timeout := timeout }

end

/-- `rdc_ins_new`. -/
def new (timeout now : Int) : Rdc := ⟨false, false, timeout, [], fun _ => none, [], now, []⟩

end Rdc

/-- What happens to the proxy. -/
inductive RdcOp
  | request (client : Endpoint) (i : UInt8) (server : Endpoint) (malloc : Option Nat) (mem socket : Bool)
  | response (s : Nat) (server : Endpoint) (i : UInt8)
  | connTimer (p : Nat)
  | idTimer (s : Nat) (i : UInt8)
  | setTimeout (timeout : Int)
  | start (master server : Bool) (sockets : List Bool) (coa : Bool)
  | stop
  | switch (master server : Bool) (sockets : List Bool) (coa : Bool)
  | tick

def RdcOp.step (R : Rdc) : RdcOp → Option Rdc
  | request client i server malloc mem socket =>
    if R.serving then R.serverProcessRequest client i server malloc mem socket else some R
  | response s server i => R.sockclientProcessResponse s server i
  | connTimer p => some (R.connTimer p)
  | idTimer s i => some (R.idStatusTimeout s i)
  | setTimeout timeout => some (R.insSetTimeout timeout)
  | start master server sockets coa => some (R.insStart master server sockets coa)
  | stop => some R.insStop
  | switch master server sockets coa => some (R.vrrpStatusSwitchProc master server sockets coa)
  | tick => some { R with now := R.now + 1 }

end Eag
end DaemonGroup
