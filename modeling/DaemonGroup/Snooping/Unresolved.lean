import DaemonGroup.Lib.Dictionary
import DaemonGroup.Lib.Run
import DaemonGroup.Snooping.Ipv6

/-!
# DaemonGroup.Snooping.Unresolved

The clients whose address the access daemon `asd` has asked for (`dhcp_snp_tbl.c`). A question is kept in a
hash table by MAC address until the address is known and `asd` was told, or five minutes have gone by. The
source has every function twice, for IPv4 and for IPv6; both keep every question.
-/

namespace DaemonGroup
namespace Snooping
namespace Asd

open Lib

def MAX_HANSI_PROFILE : UInt32 := 17
def TBL_EXPIRED_TIME : UInt32 := 300

/-- `unresolved_table` and `unresolved_ipv6_table`, without their links. -/
structure Unresolved (α : Type) where
  bssindex : UInt32
  vrrpid : UInt32
  local_flag : UInt32
  ipaddr : α
  ifindex : UInt32
  expired : UInt32
  chaddr : Mac
deriving DecidableEq

/-- The part of a `TableMsg` that a question of `asd` is read from. -/
structure Question where
  BSSIndex : UInt32
  vrrid : UInt32
  local_flag : UInt32
  STAMAC : Mac
deriving DecidableEq

inductive Operate
  | DHCP_IP
  | DHCP_IPv6
deriving DecidableEq, Repr

/-- The part of a `TableMsg` that is filled in for `asd`. -/
structure Reply (α : Type) where
  Op : Operate
  BSSIndex : UInt32
  local_flag : UInt32
  ipAddress : α
  STAMAC : Mac
  arpifname : Option String
deriving DecidableEq

/-- What the system answers: the uptime, whether there is memory, whether a socket can be made, whether the
message is sent, and the names of the interfaces. -/
structure Env where
  uptime : UInt32
  malloc : Bool
  sock : Bool
  sent : Bool
  ifname : UInt32 → Option String

/-- `TBL_INDEX`. -/
def tblIndex (vrrpid local_flag : UInt32) : Nat := (vrrpid + local_flag * MAX_HANSI_PROFILE).toNat

/-- Whether there is a socket in `fd_table`. Behind its end there is nothing to read. -/
def fdTable (fd : Nat → Bool) (i : Nat) : Option Bool :=
  if i < MAX_HANSI_PROFILE.toNat * 2 then some (fd i) else none

/-- `init_sock_unix_client_asd`. -/
def initSockUnixClientAsd (sock : Bool) (vrrpid local_flag : UInt32) (fd : Nat → Bool) :
    Option (Nat → Bool) := do
  let i := tblIndex vrrpid (if local_flag ≠ 0 then 1 else 0)
  if ← fdTable fd i then some fd
  else some (if sock then Function.update fd i true else fd)

/-- The first part of `dhcp_snp_notify_asd`: the socket is made if there is none, and looked at again. -/
def asdSocket (sock : Bool) (vrrpid local_flag : UInt32) (fd : Nat → Bool) :
    Option ((Nat → Bool) × Bool) := do
  let i := tblIndex vrrpid local_flag
  if ← fdTable fd i then some (fd, true)
  else
    let fd ← initSockUnixClientAsd sock vrrpid local_flag fd
    some (fd, ← fdTable fd i)

/-- The questions that are kept, and what was sent, with the place of the socket, the last first. -/
structure Family (α : Type) where
  hash : Nat → List (Unresolved α)
  sent : List (Nat × Reply α)

section
variable {α : Type}

/-- `dhcp_snp_find_from_unresolved_table` -/
def findFromUnresolvedTable (T : Nat → List (Unresolved α)) (haddr : Mac) : Option (Unresolved α) :=
  (T (tblHash haddr)).find? fun table => table.chaddr = haddr

/-- What `dhcp_snp_add_unresolved_node` does to a node of the client. -/
def Unresolved.renew (env : Env) (table tmp : Unresolved α) : Unresolved α :=
  { tmp with
    bssindex := table.bssindex
    ipaddr := table.ipaddr
    vrrpid := table.vrrpid
    local_flag := table.local_flag
    chaddr := table.chaddr
    expired := env.uptime + TBL_EXPIRED_TIME }

/-- `dhcp_snp_add_unresolved_node`: the new table, and the return value. -/
def addUnresolvedNode (env : Env) (table : Unresolved α) (T : Nat → List (Unresolved α)) :
    (Nat → List (Unresolved α)) × Int :=
  let key := tblHash table.chaddr
  if (findFromUnresolvedTable T table.chaddr).isSome then
    (Function.update T key (Dictionary.amend Unresolved.chaddr table.chaddr (table.renew env) (T key)), 0)
  else if ¬ env.malloc then (T, -1)
  else (Function.update T key ({ table with expired := env.uptime + TBL_EXPIRED_TIME } :: T key), 0)

/-- `dhcp_snp_del_unresolved_node`. The first node is taken out by another branch than those behind it. -/
def delUnresolvedNode (table : Unresolved α) (T : Nat → List (Unresolved α)) :
    (Nat → List (Unresolved α)) × Int :=
  let key := tblHash table.chaddr
  match T key with
  | [] => (T, 0)
  | tmp :: l =>
    if tmp.chaddr = table.chaddr then (Function.update T key l, 0)
    else if l.any fun next => next.chaddr = table.chaddr then
      (Function.update T key (tmp :: Dictionary.takeOut Unresolved.chaddr table.chaddr l), 0)
    else (T, -1)

/-- The first loop of `dhcp_snp_asd_table_aging_mechanism`. -/
def agingFront (cur_time : UInt32) : List (Unresolved α) → List (Unresolved α)
  | [] => []
  | tmp :: l => if tmp.expired < cur_time then agingFront cur_time l else tmp :: l

/-- The second loop, over the nodes behind one that stays. -/
def agingBehind (cur_time : UInt32) : List (Unresolved α) → List (Unresolved α)
  | [] => []
  | next :: l =>
    if next.expired < cur_time then agingBehind cur_time l else next :: agingBehind cur_time l

/-- What `dhcp_snp_asd_table_aging_mechanism` does to a chain. -/
def agingChain (cur_time : UInt32) (l : List (Unresolved α)) : List (Unresolved α) :=
  match agingFront cur_time l with
  | [] => []
  | tmp :: l => tmp :: agingBehind cur_time l

/-- `dhcp_snp_asd_table_aging_mechanism` -/
def asdTableAgingMechanism (cur_time : UInt32) (T : Nat → List (Unresolved α)) : Nat → List (Unresolved α) :=
  fun key => if key < NPD_DHCP_SNP_HASH_TABLE_SIZE then agingChain cur_time (T key) else T key

/-- `__fill_tablemsg` and `__fill_tablemsg_ipv6` -/
def fillTablemsg (op : Operate) (env : Env) (table : Unresolved α) : Reply α :=
  { Op := op, BSSIndex := table.bssindex, local_flag := table.local_flag, ipAddress := table.ipaddr
    STAMAC := table.chaddr, arpifname := env.ifname table.ifindex }

/-- `dhcp_snp_notify_asd` -/
def notifyAsd (op : Operate) (env : Env) (table : Unresolved α) (fd : Nat → Bool) (s : Family α) :
    Option ((Nat → Bool) × Family α) := do
  let (fd, socket) ← asdSocket env.sock table.vrrpid table.local_flag fd
  if ¬ socket then return (fd, s)
  let msg := fillTablemsg op env table
  if ¬ env.sent then return (fd, s)
  return (fd,
    { hash := (delUnresolvedNode table s.hash).1
      sent := (tblIndex table.vrrpid table.local_flag, msg) :: s.sent })

/-- The address is noted in the node. -/
def Unresolved.note (ipaddr : α) (table : Unresolved α) : Unresolved α := { table with ipaddr := ipaddr }

def Family.note (haddr : Mac) (ipaddr : α) (s : Family α) : Family α :=
  let key := tblHash haddr
  { s with
    hash := Function.update s.hash key (Dictionary.amend Unresolved.chaddr haddr (.note ipaddr) (s.hash key)) }

/-- `dhcp_snp_initiative_notify_asd` -/
def initiativeNotifyAsd (op : Operate) (env : Env) (haddr : Mac) (ipaddr : α) (fd : Nat → Bool)
    (s : Family α) : Option ((Nat → Bool) × Family α) :=
  match findFromUnresolvedTable s.hash haddr with
  | some table =>
    notifyAsd op env (table.note ipaddr) fd (s.note haddr ipaddr)
  | none => some (fd, s)

/-- `fill_unresolved_table_from_tableMsg` on a node that was filled with zeros. -/
def fillUnresolvedTable (zero : α) (msg : Question) : Unresolved α :=
  { bssindex := msg.BSSIndex, vrrpid := msg.vrrid, local_flag := msg.local_flag, ipaddr := zero, ifindex := 0
    expired := 0, chaddr := msg.STAMAC }

/-- `dhcp_snp_process_asd_interactive` -/
def processAsdInteractive (env : Env) (table : Unresolved α) (s : Family α) : Family α :=
  { s with hash := (addUnresolvedNode env table s.hash).1 }

end

/-- `__check_msg` -/
def checkMsg (msg : Question) : Int := if msg.vrrid > MAX_HANSI_PROFILE - 1 then -1 else 0

/-- The sockets to `asd` and the questions for both kinds of addresses. -/
structure Desk where
  fd_table : Nat → Bool
  v4 : Family UInt32
  v6 : Family Addr6

inductive Event
  | ask (msg : Question) (enabled : Bool) (env env6 : Env)
  | ack (haddr : Mac) (ipaddr : UInt32) (env : Env)
  | reply (haddr : Mac) (ipaddr : Addr6) (env : Env)
  | aging (uptime : UInt32)
  | aging6 (uptime : UInt32)

namespace Desk

def empty : Desk := ⟨fun _ => false, ⟨fun _ => [], []⟩, ⟨fun _ => [], []⟩⟩

/-- The loop of `dhcp_snp_asd_interactive`. -/
def asdInteractive (msg : Question) (enabled : Bool) (env env6 : Env) (s : Desk) : Desk :=
  if checkMsg msg ≠ 0 then s
  else if ¬ enabled then s
  else { s with
    v4 := processAsdInteractive env (fillUnresolvedTable 0 msg) s.v4
    v6 := processAsdInteractive env6 (fillUnresolvedTable .zero msg) s.v6 }

def step (s : Desk) : Event → Option Desk
  | .ask msg enabled env env6 => some (s.asdInteractive msg enabled env env6)
  | .ack haddr ipaddr env =>
    (initiativeNotifyAsd .DHCP_IP env haddr ipaddr s.fd_table s.v4).map fun r =>
      { s with fd_table := r.1, v4 := r.2 }
  | .reply haddr ipaddr env =>
    (initiativeNotifyAsd .DHCP_IPv6 env haddr ipaddr s.fd_table s.v6).map fun r =>
      { s with fd_table := r.1, v6 := r.2 }
  | .aging uptime => some { s with v4 := { s.v4 with hash := asdTableAgingMechanism uptime s.v4.hash } }
  | .aging6 uptime => some { s with v6 := { s.v6 with hash := asdTableAgingMechanism uptime s.v6.hash } }

end Desk

/-! ## What it is for -/

/-- A question that waits for the address of its client. -/
structure Waiting where
  bssindex : UInt32
  vrrpid : UInt32
  local_flag : UInt32
  expired : UInt32
deriving DecidableEq

/-- The questions that wait, and what was sent. -/
structure Counter (α : Type) where
  waiting : Mac → Option Waiting
  sent : List (Nat × Reply α)

namespace Counter

variable {α : Type}

/-- The latest question for a client waits five minutes. -/
def ask (env : Env) (msg : Question) (c : Counter α) : Counter α :=
  if (c.waiting msg.STAMAC).isSome ∨ env.malloc then
    { c with
      waiting := Function.update c.waiting msg.STAMAC
        (some ⟨msg.BSSIndex, msg.vrrid, msg.local_flag, env.uptime + TBL_EXPIRED_TIME⟩) }
  else c

/-- The address of a client is known: it is told if there is a question for it. -/
def know (op : Operate) (env : Env) (haddr : Mac) (ipaddr : α) (fd : Nat → Bool) (c : Counter α) :
    Option ((Nat → Bool) × Counter α) :=
  match c.waiting haddr with
  | some w => (asdSocket env.sock w.vrrpid w.local_flag fd).map fun r =>
    if r.2 ∧ env.sent then
      (r.1,
        { waiting := Function.update c.waiting haddr none
          sent := (tblIndex w.vrrpid w.local_flag,
            ⟨op, w.bssindex, w.local_flag, ipaddr, haddr, env.ifname 0⟩) :: c.sent })
    else (r.1, c)
  | none => some (fd, c)

def age (cur_time : UInt32) (c : Counter α) : Counter α :=
  { c with waiting := fun haddr => (c.waiting haddr).filter fun w => ¬ w.expired < cur_time }

end Counter

/-- The sockets and the two counters. -/
structure Office where
  fd_table : Nat → Bool
  v4 : Counter UInt32
  v6 : Counter Addr6

namespace Office

def empty : Office := ⟨fun _ => false, ⟨fun _ => none, []⟩, ⟨fun _ => none, []⟩⟩

def step (s : Office) : Event → Option Office
  | .ask msg enabled env env6 => some (
    if checkMsg msg ≠ 0 ∨ ¬ enabled then s
    else { s with v4 := s.v4.ask env msg, v6 := s.v6.ask env6 msg })
  | .ack haddr ipaddr env =>
    (s.v4.know .DHCP_IP env haddr ipaddr s.fd_table).map fun r => { s with fd_table := r.1, v4 := r.2 }
  | .reply haddr ipaddr env =>
    (s.v6.know .DHCP_IPv6 env haddr ipaddr s.fd_table).map fun r => { s with fd_table := r.1, v6 := r.2 }
  | .aging uptime => some { s with v4 := s.v4.age uptime }
  | .aging6 uptime => some { s with v6 := s.v6.age uptime }

end Office

/-! ## The tables are the questions that wait -/

def Unresolved.waiting {α : Type} (table : Unresolved α) : Waiting :=
  ⟨table.bssindex, table.vrrpid, table.local_flag, table.expired⟩

def Family.view {α : Type} (s : Family α) : Counter α :=
  ⟨fun haddr => (findFromUnresolvedTable s.hash haddr).map Unresolved.waiting, s.sent⟩

/-- The table is a dictionary, and no interface is ever noted. -/
structure Family.Safe {α : Type} (s : Family α) : Prop where
  neat : Dictionary.Neat tblHash Unresolved.chaddr s.hash
  ifindex : ∀ haddr table, findFromUnresolvedTable s.hash haddr = some table → table.ifindex = 0

def Desk.view (s : Desk) : Office := ⟨s.fd_table, s.v4.view, s.v6.view⟩

structure Desk.Safe (s : Desk) : Prop where
  v4 : s.v4.Safe
  v6 : s.v6.Safe

section
variable {α : Type} {T : Nat → List (Unresolved α)} {table : Unresolved α} {env : Env} {haddr : Mac}
  {s : Family α} {l : List (Unresolved α)} {cur_time : UInt32}

theorem find_eq_lookup : findFromUnresolvedTable T haddr =
    Dictionary.lookup tblHash Unresolved.chaddr T haddr := rfl

theorem find_chaddr (h : findFromUnresolvedTable T haddr = some table) : table.chaddr = haddr :=
  Dictionary.lookup_key h

/-! ### The functions of the table -/

theorem agingBehind_eq : agingBehind cur_time l = l.filter fun table => ¬ table.expired < cur_time := by
  induction l with
  | nil => rfl
  | cons t l ih =>
    rw [agingBehind, List.filter_cons]
    by_cases h : t.expired < cur_time <;> simp [h, ih]

theorem agingChain_eq : agingChain cur_time l = l.filter fun table => ¬ table.expired < cur_time := by
  induction l with
  | nil => rfl
  | cons t l ih =>
    rw [agingChain, agingFront, List.filter_cons]
    by_cases h : t.expired < cur_time
    · simpa [h, agingChain] using ih
    · simp [h, agingBehind_eq]

theorem asdTableAging_eq (h : Dictionary.Neat tblHash Unresolved.chaddr T) :
    asdTableAgingMechanism cur_time T = fun key => (T key).filter fun table => ¬ table.expired < cur_time := by
  funext key
  rw [asdTableAgingMechanism]
  split
  · rw [agingChain_eq]
  · rename_i hkey
    -- no MAC address has the hash value of such a chain
    have hnil : T key = [] := by
      refine List.eq_nil_iff_forall_not_mem.mpr fun t ht => hkey ?_
      rw [← h.home key t ht]
      exact Nat.mod_lt _ (by decide)
    rw [hnil]
    rfl

theorem takeOut_of_forall_ne (h : ∀ t ∈ l, t.chaddr ≠ haddr) :
    Dictionary.takeOut Unresolved.chaddr haddr l = l := by
  induction l with
  | nil => rfl
  | cons t l ih =>
    rw [Dictionary.takeOut, if_neg (h t List.mem_cons_self), ih fun u hu => h u (List.mem_cons_of_mem _ hu)]

theorem delUnresolvedNode_eq : (delUnresolvedNode table T).1 =
    Function.update T (tblHash table.chaddr)
      (Dictionary.takeOut Unresolved.chaddr table.chaddr (T (tblHash table.chaddr))) := by
  rw [delUnresolvedNode]
  cases hl : T (tblHash table.chaddr) with
  | nil => simp [Dictionary.takeOut, ← hl]
  | cons t l =>
    by_cases ht : t.chaddr = table.chaddr
    · simp [Dictionary.takeOut, ht]
    · by_cases hany : l.any fun next => next.chaddr = table.chaddr
      · simp [Dictionary.takeOut, ht, hany]
      · have hout : ∀ u ∈ l, u.chaddr ≠ table.chaddr := by simpa using hany
        simp [Dictionary.takeOut, ht, hany, takeOut_of_forall_ne hout, ← hl]

/-! ### One family of addresses -/

/-- A node is added, or the one of the client is changed. -/
theorem addUnresolvedNode_spec (env : Env) (table : Unresolved α) (h : Dictionary.Neat tblHash Unresolved.chaddr T) :
    Dictionary.Neat tblHash Unresolved.chaddr (addUnresolvedNode env table T).1 ∧
      ∀ haddr, findFromUnresolvedTable (addUnresolvedNode env table T).1 haddr =
        if haddr = table.chaddr ∧ ((findFromUnresolvedTable T haddr).isSome ∨ env.malloc) then
          some { table with
            ifindex := ((findFromUnresolvedTable T haddr).map Unresolved.ifindex).getD table.ifindex
            expired := env.uptime + TBL_EXPIRED_TIME }
        else findFromUnresolvedTable T haddr := by
  cases hf : findFromUnresolvedTable T table.chaddr with
  | some old =>
    have hadd : (addUnresolvedNode env table T).1 = Function.update T (tblHash table.chaddr)
        (Dictionary.amend Unresolved.chaddr table.chaddr (table.renew env) (T (tblHash table.chaddr))) := by
      simp [addUnresolvedNode, hf]
    have hlook : ∀ haddr, findFromUnresolvedTable (addUnresolvedNode env table T).1 haddr =
        if haddr = table.chaddr then some (table.renew env old) else findFromUnresolvedTable T haddr := by
      intro haddr
      rw [hadd, ← Option.map_some (f := table.renew env), ← hf]
      exact Dictionary.lookup_amend fun _ _ => rfl
    refine ⟨hadd ▸ h.amend fun _ _ => rfl, fun haddr => ?_⟩
    rw [hlook]
    by_cases hh : haddr = table.chaddr
    · subst hh
      simp [hf, Unresolved.renew]
    · simp [hh]
  | none =>
    cases hm : env.malloc with
    | false =>
      have hadd : (addUnresolvedNode env table T).1 = T := by simp [addUnresolvedNode, hf, hm]
      rw [hadd]
      refine ⟨h, fun haddr => (if_neg ?_).symm⟩
      rintro ⟨rfl, hc⟩
      simp [hf] at hc
    | true =>
      have hadd : (addUnresolvedNode env table T).1 = Function.update T (tblHash table.chaddr)
          ({ table with expired := env.uptime + TBL_EXPIRED_TIME } :: T (tblHash table.chaddr)) := by
        simp [addUnresolvedNode, hf, hm]
      have hlook : ∀ haddr, findFromUnresolvedTable (addUnresolvedNode env table T).1 haddr =
          if haddr = table.chaddr then some { table with expired := env.uptime + TBL_EXPIRED_TIME }
          else findFromUnresolvedTable T haddr := by
        intro haddr
        rw [hadd]
        exact Dictionary.lookup_cons rfl
      refine ⟨?_, fun haddr => ?_⟩
      · rw [hadd]
        exact h.cons rfl hf
      · rw [hlook]
        by_cases hh : haddr = table.chaddr
        · subst hh
          simp [hf]
        · simp [hh]

theorem Family.Safe.ask {zero : α} {msg : Question} (hs : s.Safe) :
    (processAsdInteractive env (fillUnresolvedTable zero msg) s).Safe ∧
      (processAsdInteractive env (fillUnresolvedTable zero msg) s).view = s.view.ask env msg := by
  obtain ⟨hneat, hfind⟩ := addUnresolvedNode_spec env (fillUnresolvedTable zero msg) hs.neat
  refine ⟨⟨hneat, fun haddr table h => ?_⟩, ?_⟩
  · rw [processAsdInteractive, hfind] at h
    split_ifs at h with hc
    · cases h
      cases hf : findFromUnresolvedTable s.hash haddr with
      | none => rfl
      | some old => exact hs.ifindex haddr old hf
    · exact hs.ifindex haddr table h
  · rw [Counter.ask]
    by_cases hc : (findFromUnresolvedTable s.hash msg.STAMAC).isSome ∨ env.malloc
    · rw [if_pos (by simpa [Family.view] using hc)]
      simp only [Family.view, processAsdInteractive, hfind]
      congr 1
      funext haddr
      by_cases hh : haddr = msg.STAMAC
      · subst hh
        rw [if_pos ⟨rfl, hc⟩, Function.update_self]
        rfl
      · rw [if_neg fun h => hh h.1, Function.update_of_ne hh]
    · rw [if_neg (by simpa [Family.view] using hc)]
      simp only [Family.view, processAsdInteractive, hfind]
      congr 1
      funext haddr
      rw [if_neg]
      rintro ⟨rfl, h⟩
      exact hc h

/-- The node that was found is told and taken out. -/
theorem notifyAsd_eq {op : Operate} {fd : Nat → Bool} : notifyAsd op env table fd s =
    (asdSocket env.sock table.vrrpid table.local_flag fd).map fun r =>
      if r.2 ∧ env.sent then
        (r.1,
          { hash := (delUnresolvedNode table s.hash).1
            sent := (tblIndex table.vrrpid table.local_flag, fillTablemsg op env table) :: s.sent })
      else (r.1, s) := by
  rw [notifyAsd]
  cases asdSocket env.sock table.vrrpid table.local_flag fd with
  | none => rfl
  | some r => cases hr : r.2 <;> cases hsent : env.sent <;> simp [hr]

theorem find_note (ipaddr : α) (hf : findFromUnresolvedTable s.hash haddr = some table) (j : Mac) :
    findFromUnresolvedTable (s.note haddr ipaddr).hash j =
      if j = haddr then some (table.note ipaddr) else findFromUnresolvedTable s.hash j := by
  have hkey : ∀ t : Unresolved α, t.chaddr = haddr → (t.note ipaddr).chaddr = haddr := fun _ h => h
  have hlook : Dictionary.lookup tblHash Unresolved.chaddr (s.note haddr ipaddr).hash j = _ :=
    Dictionary.lookup_amend hkey
  rw [find_eq_lookup, hlook, ← find_eq_lookup, ← find_eq_lookup, hf, Option.map_some]

/-- The address is noted in the node. -/
theorem Family.Safe.noted (ipaddr : α) (hs : s.Safe)
    (hf : findFromUnresolvedTable s.hash haddr = some table) :
    (s.note haddr ipaddr).Safe ∧ (s.note haddr ipaddr).view = s.view := by
  have hkey : ∀ t : Unresolved α, t.chaddr = haddr → (t.note ipaddr).chaddr = haddr := fun _ h => h
  refine ⟨⟨hs.neat.amend hkey, fun j t ht => ?_⟩, ?_⟩
  · rw [find_note ipaddr hf] at ht
    split_ifs at ht
    · cases ht
      exact hs.ifindex haddr table hf
    · exact hs.ifindex j t ht
  · rw [Family.view, Family.view]
    congr 1
    funext j
    rw [find_note ipaddr hf]
    by_cases hj : j = haddr
    · subst hj
      simp [hf, Unresolved.waiting, Unresolved.note]
    · simp [hj]

/-- The node is taken out. -/
theorem Family.Safe.taken (sent : List (Nat × Reply α)) (hs : s.Safe) :
    let left : Family α := ⟨(delUnresolvedNode table s.hash).1, sent⟩
    left.Safe ∧ left.view = ⟨Function.update s.view.waiting table.chaddr none, sent⟩ := by
  intro left
  have hlook : ∀ j, findFromUnresolvedTable left.hash j =
      if j = table.chaddr then none else findFromUnresolvedTable s.hash j := by
    intro j
    show findFromUnresolvedTable (delUnresolvedNode table s.hash).1 j = _
    rw [delUnresolvedNode_eq]
    exact Dictionary.lookup_takeOut hs.neat
  refine ⟨⟨?_, fun j t ht => ?_⟩, ?_⟩
  · show Dictionary.Neat _ _ (delUnresolvedNode table s.hash).1
    rw [delUnresolvedNode_eq]
    exact hs.neat.takeOut
  · rw [hlook] at ht
    split_ifs at ht
    exact hs.ifindex j t ht
  · simp only [Family.view, hlook]
    congr 1
    funext j
    by_cases hj : j = table.chaddr
    · subst hj
      simp
    · simp [hj]

theorem Family.Safe.know {op : Operate} {ipaddr : α} {fd : Nat → Bool} (hs : s.Safe) :
    (∀ r, initiativeNotifyAsd op env haddr ipaddr fd s = some r → r.2.Safe) ∧
      (initiativeNotifyAsd op env haddr ipaddr fd s).map (fun r => (r.1, r.2.view)) =
        s.view.know op env haddr ipaddr fd := by
  cases hf : findFromUnresolvedTable s.hash haddr with
  | none =>
    have hno : initiativeNotifyAsd op env haddr ipaddr fd s = some (fd, s) := by
      simp [initiativeNotifyAsd, hf]
    have hview : s.view.know op env haddr ipaddr fd = some (fd, s.view) := by
      simp [Counter.know, Family.view, hf]
    rw [hno, hview]
    refine ⟨fun r hr => ?_, rfl⟩
    cases hr
    exact hs
  | some table =>
    obtain rfl := find_chaddr hf
    obtain ⟨hsafe, hview⟩ := hs.noted ipaddr hf
    have hw : s.view.waiting table.chaddr = some table.waiting := by simp [Family.view, hf]
    simp only [initiativeNotifyAsd, hf, notifyAsd_eq, Counter.know, hw]
    refine ⟨fun r hr => ?_, ?_⟩
    · obtain ⟨c, -, rfl⟩ := Option.map_eq_some_iff.mp hr
      split
      · exact (hsafe.taken _).1
      · exact hsafe
    · rw [Option.map_map]
      refine Option.map_congr fun r _ => ?_
      by_cases hc : r.2 ∧ env.sent
      · simp only [Function.comp, if_pos hc, (hsafe.taken _).2, hview]
        simp only [fillTablemsg, Unresolved.note, Unresolved.waiting, hs.ifindex _ table hf]
        rfl
      · simp only [Function.comp, if_neg hc, hview]

theorem Family.Safe.age (hs : s.Safe) :
    Family.Safe { s with hash := asdTableAgingMechanism cur_time s.hash } ∧
      Family.view { s with hash := asdTableAgingMechanism cur_time s.hash } = s.view.age cur_time := by
  rw [asdTableAging_eq hs.neat]
  have hfind : ∀ haddr, findFromUnresolvedTable
      (fun key => (s.hash key).filter fun table => ¬ table.expired < cur_time) haddr =
        (findFromUnresolvedTable s.hash haddr).filter fun table => ¬ table.expired < cur_time :=
    fun _ => Dictionary.lookup_sweep hs.neat
  refine ⟨⟨hs.neat.sweep, fun haddr table h => ?_⟩, ?_⟩
  · rw [hfind] at h
    exact hs.ifindex haddr table (Option.filter_eq_some_iff.mp h).1
  · simp only [Family.view, Counter.age, hfind]
    congr 1
    funext haddr
    cases findFromUnresolvedTable s.hash haddr with
    | none => rfl
    | some table => by_cases h : table.expired < cur_time <;> simp [Option.filter, Unresolved.waiting, h]

end

/-! ### The daemon -/

namespace Desk

variable {s : Desk} {e : Event}

theorem Safe.step (hs : s.Safe) (s' : Desk) (h : s.step e = some s') : s'.Safe := by
  cases e with
  | ask msg enabled env env6 =>
    cases h
    rw [asdInteractive]
    split_ifs
    · exact hs
    · exact ⟨(hs.v4.ask).1, (hs.v6.ask).1⟩
    · exact hs
  | ack haddr ipaddr env =>
    obtain ⟨r, hr, rfl⟩ := Option.map_eq_some_iff.mp h
    exact ⟨hs.v4.know.1 r hr, hs.v6⟩
  | reply haddr ipaddr env =>
    obtain ⟨r, hr, rfl⟩ := Option.map_eq_some_iff.mp h
    exact ⟨hs.v4, hs.v6.know.1 r hr⟩
  | aging uptime =>
    cases h
    exact ⟨hs.v4.age.1, hs.v6⟩
  | aging6 uptime =>
    cases h
    exact ⟨hs.v4, hs.v6.age.1⟩

theorem view_step (hs : s.Safe) : (s.step e).map view = s.view.step e := by
  cases e with
  | ask msg enabled env env6 =>
    simp only [step, asdInteractive, Office.step, Option.map_some]
    by_cases hc : checkMsg msg ≠ 0
    · simp [hc]
    · by_cases hen : enabled
      · simp [hc, hen, view, hs.v4.ask.2, hs.v6.ask.2]
      · simp [hc, hen]
  | ack haddr ipaddr env =>
    simp only [step, Office.step, view, ← hs.v4.know.2, Option.map_map]
    rfl
  | reply haddr ipaddr env =>
    simp only [step, Office.step, view, ← hs.v6.know.2, Option.map_map]
    rfl
  | aging uptime =>
    simp only [step, Office.step, Option.map_some, view, hs.v4.age.2]
  | aging6 uptime =>
    simp only [step, Office.step, Option.map_some, view, hs.v6.age.2]

theorem safe_empty : empty.Safe := by
  refine ⟨⟨.empty, ?_⟩, ⟨.empty, ?_⟩⟩ <;>
  · intro haddr table h
    cases h

end Desk

/-- Whatever the order of the messages, the two hash tables are what they are for: the question that waits for
each client, until it is answered or has expired; and what is sent to `asd` is the answer to it. -/
theorem unresolved_refines (es : List Event) :
    (tryRun Desk.step .empty es).map Desk.view = tryRun Office.step .empty es :=
  tryRun_map (fun _ _ s' hs h => hs.step s' h) (fun _ _ hs => Desk.view_step hs) Desk.safe_empty

end Asd
end Snooping
end DaemonGroup
