import DaemonGroup.Pppoe.Steps

/-!
# DaemonGroup.Pppoe.Creation

What a session that could not be set up leaves behind. `session_alloc`, `manage_sess_init` and
`manage_sess_online_sync` take a record from the cache, then a session id, timers and a channel in
the kernel; on an error the record should be back in the cache.

`session_alloc` returns without the record when there is no session id left, and
`manage_sess_online_sync` gives it to `free` instead of the cache: `creation_iff`.
-/

namespace DaemonGroup
namespace Pppoe

/-! ## What the calls return -/

/-- `manage_sess_init`: the session, or `none` for `NULL`. -/
def World.sessInit (w : World) (o : Oracle) (mac serverMac : Mac) : Option Addr × World :=
  let r := w.alloc o 0 mac
  let w' := { w with tables := r.tables, mem := r.mem }
  match r.sess with
  | none => (none, w')
  | some a =>
    let s := { r.mem a with
      serverIP := w.cfg.ipaddr, serverMac := serverMac, magic := charArray 4 o.rand }
    let free := { w' with
      mem := w'.mem.set a s, tables := { w'.tables with cache := w'.tables.cache.erase a } }
    if (w.env o a).fail (.timer .TIMEOUT) then (none, free)
    else if (w.env o a).fail .channelRegister then (none, free)
    else
      let s := { s with timeout := .armed, startTime := w.now, sname := w.cfg.sname }
      (some a, World.register { w' with out := w'.out ++ [.register s.sid mac serverMac s.magic] } a s)

/-- `manage_sess_online_sync` with what it returns. A message that is shorter than the structure is
`none`. -/
def World.sessOnlineSync (w : World) (o : Oracle) (sync : Option OnlineSync) : Int × World :=
  match sync with
  | none => (PPPOEERR_ELENGTH, w)
  | some m =>
    let r := w.alloc o m.sid m.mac
    let w' := { w with tables := r.tables, mem := r.mem }
    match r.sess with
    | none => (PPPOEERR_ENOMEM, w')
    | some a =>
      let e := w.env o a
      let s := onlineSyncSess w.now (r.mem a) m
      let error := { w' with mem := w'.mem.set a s }
      if e.fail (.timer .TIMEOUT) ∨ e.fail (.timer .ECHO) ∨ e.fail (.timer .UPDATE) then
        (PPPOEERR_ENOMEM, error)
      else if e.fail .channelRegister then (PPPOEERR_ESEND, error)
      else
        let reg := Packet.register s.sid s.mac s.serverMac s.magic
        if e.fail .channelAuthorize then
          (PPPOEERR_ESEND, { error with out := w'.out ++ [reg, .unregister s.sid s.mac] })
        else
          (PPPOEERR_SUCCESS,
            World.register { w' with out := w'.out ++ [reg, .authorize s.sid s.ipaddr.ip] } a
              { s with timeout := .armed, echo := .paused, update := .paused })

/-! ## Before and after -/

/-- The tables and the pool are the old ones, and so are the records that are taken from the cache. -/
structure Restored (w w' : World) : Prop where
  sid : w'.tables.sess_sid = w.tables.sess_sid
  mac : w'.tables.sess_mac = w.tables.sess_mac
  list : w'.tables.sess_list = w.tables.sess_list
  count : w'.tables.count = w.tables.count
  dead : w'.tables.sess_dead = w.tables.sess_dead
  pool : w'.pool = w.pool
  cache : ∀ a, a ∈ w'.tables.cache ↔ a ∈ w.tables.cache

/-- `session_alloc` takes a record: neither the id nor the client is in use, and there is one. -/
def World.Takes (w : World) (o : Oracle) (sid : Nat) (mac : Mac) : Prop :=
  (sid = 0 ∨ w.bySid sid = none) ∧ w.byMac mac = none ∧ .memCache ∉ o.fails o.addr ∧
    o.addr ∉ w.tables.cache

/-- Every session id is in use. -/
def World.Full (w : World) : Prop := ∀ i, 1 ≤ i → i ≤ w.cfg.max_sid → w.tables.sess_sid i ≠ none

/-- The calls that set up a session of the peer. -/
def setupCalls : List Call :=
  [.timer .TIMEOUT, .timer .ECHO, .timer .UPDATE, .channelRegister, .channelAuthorize]

def Oracle.Refuses (o : Oracle) : Prop := ∃ c ∈ o.fails o.addr, c ∈ setupCalls

section
variable {w w' : World} {o : Oracle} {sid : Nat} {mac serverMac : Mac} {sync : Option OnlineSync} {m : OnlineSync}

/-! ## The model of the whole instance -/

theorem sessInit_world : (w.sessInit o mac serverMac).2 = w.manageSessInit o mac serverMac := by
  unfold World.sessInit World.manageSessInit
  dsimp only
  cases (w.alloc o 0 mac).sess with
  | none => rfl
  | some a =>
    dsimp only
    split_ifs <;> rfl

theorem sessOnlineSync_world : (w.sessOnlineSync o (some m)).2 = w.manageSessOnlineSync o m := by
  unfold World.sessOnlineSync World.manageSessOnlineSync
  dsimp only
  cases (w.alloc o m.sid m.mac).sess with
  | none => rfl
  | some a =>
    dsimp only
    split_ifs <;> rfl

/-! ## The record -/

theorem Restored.refl : Restored w w := ⟨rfl, rfl, rfl, rfl, rfl, rfl, fun _ => Iff.rfl⟩

/-- A record that is left out of the cache is missed. -/
theorem not_restored {a : Addr} (hold : a ∉ w.tables.cache) (hnew : a ∈ w'.tables.cache) : ¬ Restored w w' :=
  fun h => hold ((h.cache a).mp hnew)

theorem allocId_zero : sessionAllocId w.cfg w.tables = 0 ↔ w.Full := by
  rw [sessionAllocId]
  cases hf : (List.range' 1 w.cfg.max_sid).find? fun i => w.tables.sess_sid i = none with
  | none =>
    refine ⟨fun _ i h₁ h₂ hi => ?_, fun _ => rfl⟩
    have hin : i ∈ List.range' 1 w.cfg.max_sid := List.mem_range'_1.mpr ⟨h₁, by omega⟩
    exact List.find?_eq_none.mp hf i hin (decide_eq_true hi)
  | some i =>
    have hin := List.mem_range'_1.mp (List.mem_of_find?_eq_some hf)
    have hi : w.tables.sess_sid i = none := by simpa using List.find?_some hf
    refine ⟨fun h => ?_, fun h => absurd hi (h i hin.1 (by omega))⟩
    rw [Option.getD_some] at h
    omega

/-- No record is taken. -/
theorem alloc_not (h : ¬ w.Takes o sid mac) : w.alloc o sid mac = ⟨w.tables, w.mem, none⟩ := by
  rw [World.alloc, sessionAlloc]
  by_cases hsid : sid ≠ 0 ∧ (_sessionGetBySid w.cfg w.tables sid).isSome
  · rw [if_pos hsid]
  · by_cases hmac : (_sessionGetByMac w.tables w.mem mac).isSome
    · rw [if_neg hsid, if_pos hmac]
    · rw [if_neg hsid, if_neg hmac, if_pos]
      by_contra hfail
      refine h ⟨?_, ?_, ?_, ?_⟩
      · by_cases h0 : sid = 0
        · exact .inl h0
        · exact .inr (Option.not_isSome_iff_eq_none.mp fun hs => hsid ⟨h0, hs⟩)
      · exact Option.not_isSome_iff_eq_none.mp hmac
      · exact fun hc => hfail (decide_eq_true (.inl (List.contains_iff_mem.mpr hc)))
      · exact fun hc => hfail (decide_eq_true (.inr hc))

/-- A record is taken; there is no session if there is no session id. -/
theorem alloc_takes (h : w.Takes o sid mac) :
    (w.alloc o sid mac).tables = { w.tables with cache := o.addr :: w.tables.cache } ∧
      (w.alloc o sid mac).sess = if sid = 0 ∧ sessionAllocId w.cfg w.tables = 0 then none else some o.addr := by
  obtain ⟨hsid, hmac, hmem, hrec⟩ := h
  have hnosid : ¬ (sid ≠ 0 ∧ (_sessionGetBySid w.cfg w.tables sid).isSome) := by
    rintro ⟨h0, hs⟩
    rcases hsid with h | h
    · exact h0 h
    · rw [World.bySid] at h
      rw [h] at hs
      cases hs
  have hnomac : ¬ (_sessionGetByMac w.tables w.mem mac).isSome := by
    rw [World.byMac] at hmac
    rw [hmac]
    exact Bool.false_ne_true
  have hnofail : ¬ ((o.fails o.addr).contains .memCache ∨ o.addr ∈ w.tables.cache) := by
    rintro (hc | hc)
    · exact hmem (List.contains_iff_mem.mp hc)
    · exact hrec hc
  rw [World.alloc, sessionAlloc, if_neg hnosid, if_neg hnomac, if_neg (by simpa using hnofail)]
  dsimp only
  by_cases h0 : sid = 0
  · rw [if_neg (not_not.mpr h0)]
    by_cases hid : sessionAllocId w.cfg w.tables = 0
    · rw [if_pos hid, if_pos ⟨h0, hid⟩]
      exact ⟨rfl, rfl⟩
    · rw [if_neg hid, if_neg fun h => hid h.2]
      exact ⟨rfl, rfl⟩
  · rw [if_pos h0, if_neg h0, if_neg fun h => h0 h.1]
    exact ⟨rfl, rfl⟩

/-! ## The three calls -/

theorem alloc_restored : ((w.alloc o sid mac).sess = none → Restored w (w.alloced o sid mac)) ↔
    ¬ (w.Takes o sid mac ∧ sid = 0 ∧ w.Full) := by
  by_cases ht : w.Takes o sid mac
  · obtain ⟨htab, hsess⟩ := alloc_takes ht
    rw [hsess]
    by_cases hid : sid = 0 ∧ sessionAllocId w.cfg w.tables = 0
    · have hfull : w.Full := allocId_zero.mp hid.2
      have hnew : o.addr ∈ (w.alloced o sid mac).tables.cache := by
        show o.addr ∈ (w.alloc o sid mac).tables.cache
        rw [htab]
        exact List.mem_cons_self
      rw [if_pos hid]
      exact iff_of_false (fun h => not_restored ht.2.2.2 hnew (h rfl)) fun h => h ⟨ht, hid.1, hfull⟩
    · rw [if_neg hid]
      exact iff_of_true (fun h => absurd h (Option.some_ne_none _)) fun h => hid ⟨h.2.1, allocId_zero.mpr h.2.2⟩
  · refine iff_of_true (fun _ => ?_) fun h => ht h.1
    rw [World.alloced, alloc_not ht]
    exact .refl

/-- Beside a record that is not put back by `session_alloc`, `manage_sess_init` leaves nothing behind. -/
theorem sessInit_restored : ((w.sessInit o mac serverMac).1 = none → Restored w (w.sessInit o mac serverMac).2) ↔
    ¬ (w.Takes o 0 mac ∧ w.Full) := by
  have halloc := @alloc_restored w o 0 mac
  rw [and_iff_right (rfl : 0 = 0)] at halloc
  rw [← halloc, World.sessInit, World.alloced]
  dsimp only
  cases hsess : (w.alloc o 0 mac).sess with
  | none => rfl
  | some a =>
    have ht : w.Takes o 0 mac := by
      by_contra hnot
      rw [alloc_not hnot] at hsess
      cases hsess
    obtain ⟨htab, hif⟩ := alloc_takes ht
    rw [hsess] at hif
    split at hif
    · cases hif
    obtain rfl := Option.some.inj hif
    refine iff_of_true ?_ fun h => absurd h (Option.some_ne_none _)
    dsimp only
    rw [htab]
    split_ifs
    · exact fun _ => ⟨rfl, rfl, rfl, rfl, rfl, rfl, fun b => by simp⟩
    · exact fun _ => ⟨rfl, rfl, rfl, rfl, rfl, rfl, fun b => by simp⟩
    · exact False.elim

theorem fail_iff {c : Call} : (w.env o o.addr).fail c = true ↔ c ∈ o.fails o.addr := List.contains_iff_mem

/-- Whatever fails behind `session_alloc`, `manage_sess_online_sync` leaves the record. -/
theorem sessOnlineSync_restored :
    ((w.sessOnlineSync o (some m)).1 ≠ PPPOEERR_SUCCESS → Restored w (w.sessOnlineSync o (some m)).2) ↔
      ¬ (w.Takes o m.sid m.mac ∧ (m.sid = 0 ∧ w.Full ∨ o.Refuses)) := by
  by_cases ht : w.Takes o m.sid m.mac
  swap
  · refine iff_of_true (fun _ => ?_) fun h => ht h.1
    rw [World.sessOnlineSync]
    dsimp only
    rw [alloc_not ht]
    exact .refl
  obtain ⟨htab, hsess⟩ := alloc_takes ht
  have hnew : ∀ w' : World, w'.tables = (w.alloc o m.sid m.mac).tables → ¬ Restored w w' := by
    intro w' hw'
    refine not_restored ht.2.2.2 ?_
    rw [hw', htab]
    exact List.mem_cons_self
  have hnomem : PPPOEERR_ENOMEM ≠ PPPOEERR_SUCCESS := by decide
  have hsend : PPPOEERR_ESEND ≠ PPPOEERR_SUCCESS := by decide
  rw [World.sessOnlineSync]
  dsimp only
  rw [hsess]
  by_cases hid : m.sid = 0 ∧ sessionAllocId w.cfg w.tables = 0
  · rw [if_pos hid]
    refine iff_of_false (fun h => hnew _ ?_ (h hnomem)) fun h =>
      h ⟨ht, .inl ⟨hid.1, allocId_zero.mp hid.2⟩⟩
    rfl
  · have hnofull : ¬ (m.sid = 0 ∧ w.Full) := fun h => hid ⟨h.1, allocId_zero.mpr h.2⟩
    rw [if_neg hid]
    dsimp only
    simp only [fail_iff]
    have hleft : ∀ {ret : Int} {w' : World}, o.Refuses → ret ≠ PPPOEERR_SUCCESS →
        w'.tables = (w.alloc o m.sid m.mac).tables → ((ret ≠ PPPOEERR_SUCCESS → Restored w w') ↔
          ¬ (w.Takes o m.sid m.mac ∧ (m.sid = 0 ∧ w.Full ∨ o.Refuses))) :=
      fun hr hret htabs => iff_of_false (fun h => hnew _ htabs (h hret)) fun h => h ⟨ht, .inr hr⟩
    split_ifs with htimer hreg hauth
    · refine hleft ?_ hnomem rfl
      rcases htimer with h | h | h
      · exact ⟨_, h, by decide⟩
      · exact ⟨_, h, by decide⟩
      · exact ⟨_, h, by decide⟩
    · exact hleft ⟨_, hreg, by decide⟩ hsend rfl
    · exact hleft ⟨_, hauth, by decide⟩ hsend rfl
    · refine iff_of_true (fun h => absurd rfl h) ?_
      rintro ⟨-, h | ⟨c, hc, hin⟩⟩
      · exact hnofull h
      · simp only [setupCalls, List.mem_cons, List.not_mem_nil, or_false] at hin
        rcases hin with rfl | rfl | rfl | rfl | rfl
        · exact htimer (.inl hc)
        · exact htimer (.inr (.inl hc))
        · exact htimer (.inr (.inr hc))
        · exact hreg hc
        · exact hauth hc

end

/-- A session that is not set up leaves nothing behind, unless a record was taken from the cache and then there was
no session id left, or a call failed for a session of the peer. -/
theorem creation_iff (w : World) (o : Oracle) :
    (∀ sid mac, ((w.alloc o sid mac).sess = none → Restored w (w.alloced o sid mac)) ↔
      ¬ (w.Takes o sid mac ∧ sid = 0 ∧ w.Full)) ∧
    (∀ mac serverMac, ((w.sessInit o mac serverMac).1 = none → Restored w (w.sessInit o mac serverMac).2) ↔
      ¬ (w.Takes o 0 mac ∧ w.Full)) ∧
    ∀ sync, ((w.sessOnlineSync o sync).1 ≠ PPPOEERR_SUCCESS → Restored w (w.sessOnlineSync o sync).2) ↔
      ∀ m, sync = some m → ¬ (w.Takes o m.sid m.mac ∧ (m.sid = 0 ∧ w.Full ∨ o.Refuses)) := by
  refine ⟨fun _ _ => alloc_restored, fun _ _ => sessInit_restored, fun sync => ?_⟩
  cases sync with
  | none => exact iff_of_true (fun _ => .refl) fun _ h => absurd h.symm (Option.some_ne_none _)
  | some m =>
    rw [sessOnlineSync_restored]
    refine ⟨fun h m' hm => Option.some.inj hm ▸ h, fun h => h m rfl⟩

/-- The kernel does not take a new channel. -/
def deafKernel : Oracle := { addr := 5, fails := fun _ => [.channelRegister] }

/-- An instance with one session id, which is in use. -/
def oneSession : World :=
  (World.init { max_sid := 1 } {} .NONE).manageSessInit { addr := 1 } ⟨0, 0, 0, 0, 0, 1⟩ default

/-- The record of a session of the peer is lost, and the one of a client for which there is no session id. -/
theorem record_lost :
    ¬ (((World.init {} {} .STANDBY).sessOnlineSync deafKernel (some { sid := 7 })).1 ≠ PPPOEERR_SUCCESS →
        Restored (World.init {} {} .STANDBY)
          ((World.init {} {} .STANDBY).sessOnlineSync deafKernel (some { sid := 7 })).2) ∧
      ¬ ((oneSession.sessInit { addr := 2 } ⟨0, 0, 0, 0, 0, 2⟩ default).1 = none →
        Restored oneSession (oneSession.sessInit { addr := 2 } ⟨0, 0, 0, 0, 0, 2⟩ default).2) := by
  refine ⟨fun h => ?_, fun h => ?_⟩
  · have hcache := ((h (by decide +kernel)).cache 5).mp (by decide +kernel)
    exact absurd hcache (by decide +kernel)
  · have hcache := ((h (by decide +kernel)).cache 2).mp (by decide +kernel)
    exact absurd hcache (by decide +kernel)

end Pppoe
end DaemonGroup
