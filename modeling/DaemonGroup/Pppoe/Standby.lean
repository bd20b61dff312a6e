import DaemonGroup.Pppoe.Active

/-!
# DaemonGroup.Pppoe.Standby

The standby instance: what it does with the messages of the active one. `World.shadow` are the
sessions it holds, taken as online, and `Shadowed.deliver` says that a message changes them as its
note says. A session that was just registered is online once the kernel has answered; `Standing`
says that the answer is still to come for each one that is not online.
-/

namespace DaemonGroup
namespace Pppoe

open Lib

def Life.shadow (l : Life) : SessTuple := { l.tuple with state := .ONLINE }

def World.shadow (w : World) : Set SessTuple :=
  {x | ∃ a ∈ w.tables.sess_list, x = (w.mem a).toLife.shadow}

/-- The call that a message of the active makes here (`instance_standby_sync_process`). -/
def Sync.event : Sync → Event
  | .SESSONLINE m => .onlineSync m
  | .SESSOFFLINE m => .offlineSync m
  | .SESSUPDATE m => .updateSync m
  | .SESSCLEAR => .clearV2
  | .SYNCFINISHED => .syncFinished

/-- The session of the message lies within the table, and it is accepted unless its id or its client
is in use. -/
def World.Room (w : World) (o : Oracle) : Sync → Prop
  | .SESSONLINE m => m.sid ≤ w.cfg.max_sid ∧
      ((w.bySid m.sid).isSome ∨ (w.byMac m.mac).isSome ∨ w.accepts o m)
  | _ => True

instance (w : World) (o : Oracle) (m : Sync) : Decidable (w.Room o m) :=
  match m with
  | .SESSONLINE m => inferInstanceAs (Decidable (m.sid ≤ w.cfg.max_sid ∧
      ((w.bySid m.sid).isSome ∨ (w.byMac m.mac).isSome ∨ w.accepts o m)))
  | .SESSOFFLINE _ | .SESSUPDATE _ | .SESSCLEAR | .SYNCFINISHED => inferInstanceAs (Decidable True)

/-- The kernel has answered the first `k` requests. A session is online, or the kernel will answer
that its address is authorized, and only its timeout can run. -/
structure Standing (k : Nat) (w : World) : Prop where
  le : k ≤ w.out.length
  waits : ∀ a ∈ w.tables.sess_list, (w.mem a).state = .ONLINE ∨
    Packet.authorize (w.mem a).sid (w.mem a).ipaddr.ip ∈ w.out.drop k
  echo : ∀ a ∈ w.tables.sess_list, (w.mem a).echo ≠ .armed
  update : ∀ a ∈ w.tables.sess_list, (w.mem a).update ≠ .armed
  retrans : ∀ a ∈ w.tables.sess_list, (w.mem a).retrans ≠ .armed

/-- The sessions are those of `S`, and they stand. -/
structure Shadowed (S : Set SessTuple) (k : Nat) (w : World) : Prop where
  shadow : ∀ y, y ∈ w.shadow ↔ y ∈ S
  stands : Standing k w

section
variable {w w' : World} {o : Oracle} {a : Addr} {t : Trigger} {S : Set SessTuple} {k : Nat}

/-! ## Changes -/

theorem mem_drop_append {α : Type} {x : α} {l m : List α} (h : x ∈ l.drop k) : x ∈ (l ++ m).drop k := by
  rw [List.drop_append]
  exact List.mem_append_left _ h

/-- What a session of the standby shows. -/
structure Alike (s s' : Session) : Prop where
  shadow : s'.toLife.shadow = s.toLife.shadow
  state : s.state = .ONLINE → s'.state = .ONLINE
  echo : s'.echo = s.echo
  update : s'.update = s.update
  retrans : s'.retrans = s.retrans

theorem Alike.refl {s : Session} : Alike s s := ⟨rfl, id, rfl, rfl, rfl⟩

/-- Some sessions may have been taken out; the others are alike, and messages for the kernel may have
been added. -/
theorem Standing.keep (h : Standing k w)
    (hmem : ∀ b ∈ w'.tables.sess_list, b ∈ w.tables.sess_list ∧ Alike (w.mem b) (w'.mem b))
    (hout : ∃ l, w'.out = w.out ++ l) : Standing k w' := by
  obtain ⟨l, hout⟩ := hout
  constructor
  · rw [hout, List.length_append]
    exact Nat.le_add_right_of_le h.le
  · intro b hb
    obtain ⟨hb, hal⟩ := hmem b hb
    rcases h.waits b hb with hst | hw
    · exact .inl (hal.state hst)
    · right
      have hsid : (w'.mem b).sid = (w.mem b).sid := congrArg SessTuple.sid hal.shadow
      have hip : (w'.mem b).ipaddr.ip = (w.mem b).ipaddr.ip := congrArg SessTuple.ip hal.shadow
      rw [hsid, hip, hout]
      exact mem_drop_append hw
  · intro b hb
    obtain ⟨hb, hal⟩ := hmem b hb
    exact hal.echo ▸ h.echo b hb
  · intro b hb
    obtain ⟨hb, hal⟩ := hmem b hb
    exact hal.update ▸ h.update b hb
  · intro b hb
    obtain ⟨hb, hal⟩ := hmem b hb
    exact hal.retrans ▸ h.retrans b hb

/-- The sessions stay, alike. -/
theorem Shadowed.same (h : Shadowed S k w) (hlist : w'.tables.sess_list = w.tables.sess_list)
    (hmem : ∀ b ∈ w.tables.sess_list, Alike (w.mem b) (w'.mem b))
    (hout : ∃ l, w'.out = w.out ++ l) : Shadowed S k w' := by
  refine ⟨fun y => (?_ : _ ↔ _).trans (h.shadow y), h.stands.keep (fun b hb => ?_) hout⟩
  · constructor
    · rintro ⟨b, hb, rfl⟩
      rw [hlist] at hb
      exact ⟨b, hb, (hmem b hb).shadow⟩
    · rintro ⟨b, hb, rfl⟩
      exact ⟨b, hlist.symm ▸ hb, (hmem b hb).shadow.symm⟩
  · rw [hlist] at hb
    exact ⟨hb, hmem b hb⟩

/-- The session at `a` changes, alike. -/
theorem Shadowed.set (h : Shadowed S k w) {s : Session} (hal : Alike (w.mem a) s)
    (hm : w'.mem = w.mem.set a s) (ht : w'.tables = w.tables) (hout : w'.out = w.out) :
    Shadowed S k w' := by
  refine h.same (by rw [ht]) (fun b _ => ?_) ⟨[], by rw [hout, List.append_nil]⟩
  rw [hm]
  by_cases hb : b = a
  · subst hb
    rwa [Mem.set_same]
  · rw [Mem.set_other hb]
    exact .refl

/-- The session with the id `i` is taken out. -/
theorem Shadowed.drop {i : Nat} (h : Shadowed S k w) (hc : Cleared w [i] w')
    (hout : ∃ l, w'.out = w.out ++ l) : Shadowed (sessKeys.apply S (.drop i)) k w' := by
  have hin : ∀ b, b ∈ w'.tables.sess_list ↔ b ∈ w.tables.sess_list ∧ (w.mem b).sid ≠ i := by
    intro b
    rw [hc.list, List.mem_singleton]
  refine ⟨fun y => ?_, h.stands.keep (fun b hb => ?_) hout⟩
  · constructor
    · rintro ⟨b, hb, rfl⟩
      obtain ⟨hb', hne⟩ := (hin b).mp hb
      rw [hc.mem b hb]
      exact ⟨(h.shadow _).mp ⟨b, hb', rfl⟩, hne⟩
    · rintro ⟨hy, hk⟩
      obtain ⟨b, hb, rfl⟩ := (h.shadow y).mpr hy
      have hb' := (hin b).mpr ⟨hb, hk⟩
      exact ⟨b, hb', by rw [hc.mem b hb']⟩
  · rw [hc.mem b hb]
    exact ⟨((hin b).mp hb).1, .refl⟩

/-! ## Messages -/

theorem exit_ended (hs : Sound w) (hf : w.fault = false) (ha : a ∈ w.tables.sess_list) :
    Ended w a (w.runOn o a .offlineSync) := by
  have hend : wp (manageSessOfflineSync (w.env o a))
      (fun _ c => c.exited = true ∧ c.fault = false ∧ c.queue = w.queue) (w.ctx a) :=
    sessoptExit_wp (hs.fit a ha) fun _ c hv _ =>
      ⟨congrArg View.exited hv, congrArg View.fault hv, congrArg View.queue hv⟩
  exact runOn_ended hs hf hend

/-- Ending a session adds at most one message for the kernel. -/
theorem exit_out : ∃ l, (w.runOn o a .offlineSync).out = w.out ++ l := by
  have hhandle : ∃ l, (handle (w.env o a) .offlineSync (w.ctx a)).2.out = w.out ++ l := by
    have hwp : wp (sessionOptPerform .EXIT (sessoptExit (w.env o a)))
        (fun _ c => ∃ l, c.out = w.out ++ l) (w.ctx a) := by
      simp only [sessionOptPerform, sessoptExit, emit, wp_bind, wp_get, wp_ite, wp_pure, wp_modify]
      refine ⟨fun _ => ⟨fun _ => ⟨[], ?_⟩, fun _ => ⟨_, rfl⟩⟩, fun _ => ⟨[], ?_⟩⟩ <;>
        exact (List.append_nil _).symm
    exact hwp
  rw [World.runOn]
  split
  · exact ⟨[], (List.append_nil _).symm⟩
  split
  · exact ⟨[], (List.append_nil _).symm⟩
  split
  · obtain ⟨l, hl⟩ := hhandle
    exact ⟨l, (sessExit_read World.out).trans hl⟩
  · exact hhandle

theorem Shadowed.offline {i : Nat} (h : Shadowed S k w) (hs : Sound w) (hl : Listed w)
    (hf : w.fault = false) :
    Shadowed (sessKeys.apply S (.drop i)) k
      (w.runIf o (w.bySid i) (fun _ => true) .offlineSync) := by
  refine h.drop (runIf_cleared hs hl hf (fun _ => trivial) fun a ha => exit_ended hs hf ha) ?_
  cases w.bySid i with
  | none => exact ⟨[], (List.append_nil _).symm⟩
  | some a => exact exit_out

/-- A message about another client ends the session, one about its own leaves it alike. -/
theorem Shadowed.updateSync {m : UpdateSync} (h : Shadowed S k w) (hs : Sound w) (hl : Listed w)
    (hf : w.fault = false) :
    Shadowed (sessKeys.apply S (.confirm m.sid m.mac)) k
      (w.runIf o (w.bySid m.sid) (fun _ => true) (.updateSync m)) := by
  -- the entries that the note leaves are those of the others, and of the session if it is the client's
  have hkeep : (∀ y ∈ S, y.sid = m.sid → y.mac = m.mac) → ∀ {w' : World}, Shadowed S k w' →
      Shadowed (sessKeys.apply S (.confirm m.sid m.mac)) k w' := by
    intro hall w' h'
    exact ⟨fun y => (h'.shadow y).trans ⟨fun hy => ⟨hy, hall y hy⟩, fun hy => hy.1⟩, h'.stands⟩
  have hin : ∀ y ∈ S, ∃ b ∈ w.tables.sess_list, y = (w.mem b).toLife.shadow :=
    fun y hy => (h.shadow y).mpr hy
  cases hi : w.bySid m.sid with
  | none =>
    refine hkeep (fun y hy hk => ?_) h
    obtain ⟨b, hb, rfl⟩ := hin y hy
    rw [← show (w.mem b).sid = m.sid from hk, hl.bySid hb] at hi
    cases hi
  | some a =>
    have hown : ∀ y ∈ S, y.sid = m.sid → y = (w.mem a).toLife.shadow := by
      intro y hy hk
      obtain ⟨b, hb, rfl⟩ := hin y hy
      rw [← show (w.mem b).sid = m.sid from hk, hl.bySid hb] at hi
      rw [Option.some.inj hi]
    by_cases hmac : (w.mem a).mac = m.mac
    · refine hkeep (fun y hy hk => ?_) ?_
      · rw [hown y hy hk]
        exact hmac
      · have hw : w.runOn o a (.updateSync m) = w.store a
            { w.ctx a with sess := { w.mem a with stat := m.stat, bk_stat := m.stat } } := by
          simp [World.runOn, handle, manageSessUpdateSync, World.ctx, hmac, hf, update]
        rw [World.runIf, if_pos rfl, hw]
        exact h.set (a := a) (s := { w.mem a with stat := m.stat, bk_stat := m.stat })
          ⟨rfl, id, rfl, rfl, rfl⟩ rfl rfl rfl
    · have hhandle : handle (w.env o a) (.updateSync m) (w.ctx a) =
          handle (w.env o a) .offlineSync (w.ctx a) := by
        simp [handle, manageSessUpdateSync, manageSessOfflineSync, World.ctx, hmac]
      have hw : w.runOn o a (.updateSync m) = w.runOn o a .offlineSync := by
        simp only [World.runOn, hhandle]
      have hoff := h.offline (o := o) (i := m.sid) hs hl hf
      rw [hi, World.runIf, if_pos rfl] at hoff
      rw [World.runIf, if_pos rfl, hw]
      refine ⟨fun y => (hoff.shadow y).trans ?_, hoff.stands⟩
      refine and_congr_right fun hy => not_iff_not.mp ?_
      rw [not_not, Classical.not_imp]
      constructor
      · intro hk
        refine ⟨hk, ?_⟩
        rw [hown y hy hk]
        exact hmac
      · exact fun hk => hk.1

theorem alloc_refused {sid : Nat} {mac : Mac} (hsid : sid ≠ 0)
    (h : (w.bySid sid).isSome ∨ (w.byMac mac).isSome) :
    w.alloc o sid mac = ⟨w.tables, w.mem, none⟩ := by
  rw [World.alloc, sessionAlloc]
  split
  · rfl
  rename_i hno
  rcases h with h | h
  · exact absurd ⟨hsid, h⟩ hno
  · rw [if_pos (show (_sessionGetByMac w.tables w.mem mac).isSome from h)]

/-- What is registered when a session of the peer is accepted. -/
theorem onlineSync_accepted {m : OnlineSync} (hm : m.sid ≠ 0) (hacc : w.accepts o m) :
    ∃ s, Newcomer w o.addr s ∧ s.sid = m.sid ∧ s.mac = m.mac ∧ s.ipaddr = m.ipaddr ∧
      s.echo = .paused ∧ s.update = .paused ∧ s.retrans = .none ∧
      w.manageSessOnlineSync o m = w.enrol o.addr s (w.out ++
        [.register s.sid s.mac s.serverMac s.magic, .authorize s.sid s.ipaddr.ip]) := by
  rw [World.accepts, decide_eq_true_iff] at hacc
  obtain ⟨hsome, ht, hc, ha⟩ := hacc
  rcases alloc_cases (w := w) o m.sid m.mac with ⟨hn, -⟩ | ⟨id, h⟩
  · rw [hn] at hsome
    cases hsome
  have hself : (w.alloc o m.sid m.mac).mem o.addr =
      { sid := id, mac := m.mac, opt := sessionsOpt } := by
    rw [h.mem, Mem.set_same]
  refine ⟨_, h.newcomer (s := { onlineSyncSess w.now
    { sid := id, mac := m.mac, opt := sessionsOpt } m with
      timeout := .armed, echo := .paused, update := .paused }) rfl rfl rfl, h.named hm, rfl, rfl, rfl,
    rfl, rfl, ?_⟩
  rw [World.manageSessOnlineSync]
  dsimp only
  rw [h.sess]
  dsimp only
  rw [hself, h.tables, h.mem, if_neg ht, if_neg hc, if_neg ha, register_handOut]

theorem Shadowed.enrol {s : Session} {out : List Packet} (h : Shadowed S k w) (hs : Sound w)
    (hnew : Newcomer w a s) (hecho : s.echo = .paused) (hupdate : s.update = .paused)
    (hretrans : s.retrans = .none)
    (hout : Packet.authorize s.sid s.ipaddr.ip ∈ out) :
    Shadowed {y | y ∈ S ∨ y = s.toLife.shadow} k (w.enrol a s (w.out ++ out)) := by
  have hent : Enters w a s.entry (w.enrol a s (w.out ++ out)) := hnew.enters hs
  have hself : (w.enrol a s (w.out ++ out)).mem a = { s with state := .INIT } := Mem.set_same
  have hcases : ∀ b ∈ (w.enrol a s (w.out ++ out)).tables.sess_list,
      b ∈ w.tables.sess_list ∨ b = a := by
    intro b hb
    rw [hent.list] at hb
    simpa using hb
  refine ⟨fun y => ?_, ⟨?_, fun b hb => ?_, fun b hb => ?_, fun b hb => ?_, fun b hb => ?_⟩⟩
  · constructor
    · rintro ⟨b, hb, rfl⟩
      rcases hcases b hb with hb | rfl
      · rw [hent.mem b hb]
        exact .inl ((h.shadow _).mp ⟨b, hb, rfl⟩)
      · rw [hself]
        exact .inr rfl
    · rintro (hy | rfl)
      · obtain ⟨b, hb, rfl⟩ := (h.shadow y).mpr hy
        exact ⟨b, hent.list.symm ▸ List.mem_append_left _ hb, by rw [hent.mem b hb]⟩
      · refine ⟨a, hent.list.symm ▸ List.mem_append_right _ List.mem_cons_self, ?_⟩
        rw [hself]
        rfl
  · rw [show (w.enrol a s (w.out ++ out)).out = w.out ++ out from rfl, List.length_append]
    exact Nat.le_add_right_of_le h.stands.le
  · rcases hcases b hb with hb | rfl
    · rw [hent.mem b hb]
      exact (h.stands.waits b hb).imp_right mem_drop_append
    · rw [hself]
      right
      rw [show (w.enrol b s (w.out ++ out)).out = w.out ++ out from rfl,
        List.drop_append_of_le_length h.stands.le]
      exact List.mem_append_right _ hout
  · rcases hcases b hb with hb | rfl
    · rw [hent.mem b hb]
      exact h.stands.echo b hb
    · rw [hself, show ({ s with state := .INIT } : Session).echo = s.echo from rfl, hecho]
      decide
  · rcases hcases b hb with hb | rfl
    · rw [hent.mem b hb]
      exact h.stands.update b hb
    · rw [hself, show ({ s with state := .INIT } : Session).update = s.update from rfl, hupdate]
      decide
  · rcases hcases b hb with hb | rfl
    · rw [hent.mem b hb]
      exact h.stands.retrans b hb
    · rw [hself, show ({ s with state := .INIT } : Session).retrans = s.retrans from rfl, hretrans]
      decide

theorem Shadowed.onlineSync {m : OnlineSync} (h : Shadowed S k w) (hs : Sound w) (hl : Listed w)
    (hm : m.sid ≠ 0) (hroom : w.Room o (.SESSONLINE m)) :
    Shadowed (sessKeys.apply S (Sync.SESSONLINE m).note) k (w.manageSessOnlineSync o m) := by
  by_cases hused : (w.bySid m.sid).isSome ∨ (w.byMac m.mac).isSome
  · have hw : w.manageSessOnlineSync o m = w := by
      rw [World.manageSessOnlineSync]
      dsimp only
      rw [alloc_refused hm hused]
    rw [hw]
    refine ⟨fun y => (h.shadow y).trans ⟨.inl, ?_⟩, h.stands⟩
    rintro (hy | ⟨-, hfresh⟩)
    · exact hy
    · exfalso
      rcases hused with hu | hu
      · obtain ⟨b, hb⟩ := Option.isSome_iff_exists.mp hu
        refine (hfresh (w.mem b).toLife.shadow ((h.shadow _).mp ⟨b, hs.bySid hb, rfl⟩)).1 ?_
        rw [World.bySid, _sessionGetBySid] at hb
        split at hb
        · cases hb
        · exact (hs.sid _ _ hb).2
      · obtain ⟨b, hb⟩ := Option.isSome_iff_exists.mp hu
        refine (hfresh (w.mem b).toLife.shadow ((h.shadow _).mp ⟨b, hs.byMac hb, rfl⟩)).2 ?_
        have := List.find?_some hb
        exact of_decide_eq_true this
  · obtain ⟨hnosid, hnomac⟩ := not_or.mp hused
    have hacc := (hroom.2.resolve_left hnosid).resolve_left hnomac
    obtain ⟨s, hnew, hsid, hmac, hip, hecho, hupdate, hretrans, hw⟩ := onlineSync_accepted hm hacc
    have htuple : s.toLife.shadow = ⟨m.sid, m.mac, m.ipaddr.ip, .ONLINE⟩ := by
      rw [Life.shadow, Life.tuple, hsid, hmac, hip]
    have hfresh : sessKeys.Fresh S ⟨m.sid, m.mac, m.ipaddr.ip, .ONLINE⟩ := by
      intro y hy
      obtain ⟨b, hb, rfl⟩ := (h.shadow y).mpr hy
      constructor
      · intro heq
        refine hnosid ?_
        rw [← show (w.mem b).sid = m.sid from heq, hl.bySid hb]
        rfl
      · intro heq
        refine hnomac ?_
        rw [← show (w.mem b).mac = m.mac from heq, World.byMac, _sessionGetByMac,
          List.find?_isSome]
        exact ⟨b, hl.mac b hb, decide_eq_true rfl⟩
    have hout : Packet.authorize s.sid s.ipaddr.ip ∈
        [.register s.sid s.mac s.serverMac s.magic, .authorize s.sid s.ipaddr.ip] :=
      List.mem_cons_of_mem _ List.mem_cons_self
    have hen := h.enrol hs hnew hecho hupdate hretrans hout
    rw [hw]
    refine ⟨fun y => (hen.shadow y).trans (or_congr_right ?_), hen.stands⟩
    rw [htuple]
    exact ⟨fun hy => ⟨hy, hfresh⟩, fun hy => hy.1⟩

/-- All sessions are taken out. -/
theorem cleared_v2 (hs : Sound w) (hl : Listed w) (hf : w.fault = false) :
    Cleared w.clearV2Start w.allSids (w.manageSessionsClearV2 o) := by
  have hmisc : Turns sidGuard w w.clearV2Start := misc_turns ⟨rfl, rfl, rfl, rfl, rfl, rfl, rfl⟩
  obtain ⟨hs', hl'⟩ := hl.changes hs hmisc.changes
  exact runSids_cleared hs' hl' hf (fun _ _ => trivial) fun _ _ hs hf _ => clearV2_ended hs hf

theorem clearV2_empty (hs : Sound w) (hl : Listed w) (hf : w.fault = false) :
    (w.manageSessionsClearV2 o).tables.sess_list = [] := by
  have hmisc : Turns sidGuard w w.clearV2Start := misc_turns ⟨rfl, rfl, rfl, rfl, rfl, rfl, rfl⟩
  exact (cleared_v2 hs hl hf).empty (hl.changes hs hmisc.changes).2

theorem clearV2_out : ∃ l, (w.manageSessionsClearV2 o).out = w.out ++ l := by
  have hrun : ∀ (w : World) a, (w.runOn o a .clearV2).out = w.out := by
    intro w a
    rw [World.runOn]
    split
    · rfl
    split
    · rfl
    split
    · exact (sessExit_read World.out).trans rfl
    · rfl
  have hone : ∀ (w : World) i, (w.runIf o (w.bySid i) (fun _ => true) .clearV2).out = w.out := by
    intro w i
    cases w.bySid i with
    | none => rfl
    | some a => exact hrun w a
  have hall : ∀ (l : List Nat) (w : World), (l.foldl
      (fun w i => w.runIf o (w.bySid i) (fun _ => true) .clearV2) w).out = w.out := by
    intro l
    induction l with
    | nil => exact fun _ => rfl
    | cons i l ih => exact fun w => (ih _).trans (hone w i)
  exact ⟨[.clear], hall w.allSids w.clearV2Start⟩

/-- An instance without sessions. -/
theorem Shadowed.empty (h : w.tables.sess_list = []) (hk : k ≤ w.out.length) : Shadowed ∅ k w := by
  refine ⟨fun y => ⟨?_, fun hy => absurd hy (Set.notMem_empty y)⟩, hk, ?_, ?_, ?_, ?_⟩
  · rintro ⟨b, hb, -⟩
    rw [h] at hb
    cases hb
  all_goals
    rw [h]
    exact fun a ha => absurd ha List.not_mem_nil

/-- A message of the active changes what the standby holds as its note says. -/
theorem Shadowed.deliver {m : Sync} (h : Shadowed S k w) (hs : Sound w) (hl : Listed w)
    (hf : w.fault = false) (hst : w.status = .STANDBY) (hm : m.Names)
    (hroom : w.Room o m) : Shadowed (sessKeys.apply S m.note) k (step w (m.event, o)) := by
  have htakes : w.takes m.event = true := by
    cases m <;> simp [Sync.event, World.takes, hst]
  have hstep : step w (m.event, o) = w.dispatch (m.event, o) := by
    simp [step, hf, htakes]
  rw [hstep]
  cases m with
  | SESSONLINE m => exact h.onlineSync hs hl hm hroom
  | SESSOFFLINE m => exact h.offline hs hl hf
  | SESSUPDATE m => exact h.updateSync hs hl hf
  | SESSCLEAR =>
    obtain ⟨l, hl'⟩ := clearV2_out (w := w) (o := o)
    have hle : k ≤ (w.manageSessionsClearV2 o).out.length := by
      rw [hl', List.length_append]
      exact Nat.le_add_right_of_le h.stands.le
    exact .empty (clearV2_empty hs hl hf) hle
  | SYNCFINISHED => exact h.same rfl (fun _ _ => .refl) ⟨[], (List.append_nil _).symm⟩

/-! ## Answers of the kernel -/

/-- What the kernel answers to a request, with an error code or zero. -/
def Packet.answer (err : Int) : Packet → Option KernelMsg
  | .register sid mac _ _ => some (.register sid mac err)
  | .authorize sid ip => some (.authorize sid ip err)
  | .ppp .. | .padt .. | .unregister .. | .clear | .radius .. | .coa _ => none

/-- No handler of the standby's own events ends a session: the kernel refuses none of its requests,
none waits for the answer until it times out, and no server has one disconnected here. -/
def standGuard : Guard where
  run w _ a t := ¬ t.mayEnd (w.mem a)

instance : standGuard.Checks where
  run w _ a t := inferInstanceAs (Decidable (¬ t.mayEnd (w.mem a)))
  record _ _ := inferInstanceAs (Decidable True)
  online _ _ := inferInstanceAs (Decidable True)
  start _ := inferInstanceAs (Decidable True)

/-- The session as the answer that its address is authorized leaves it. -/
def Session.authorized (s : Session) : Session :=
  { s with
    state := .ONLINE
    timeout := if s.timeout = .armed then .paused else s.timeout }

theorem authorized_run {ip : UInt32} (hf : w.fault = false) (hip : (w.mem a).ipaddr.ip = ip) :
    w.runOn o a (.standbyAuthorize ip 0) =
      { w with mem := w.mem.set a (w.mem a).authorized } := by
  have hhandle : (handle (w.env o a) (.standbyAuthorize ip 0) (w.ctx a)).2 =
      { w.ctx a with sess := (w.mem a).authorized } := by
    by_cases h0 : (w.mem a).timeout = .none <;> by_cases h1 : (w.mem a).timeout = .armed <;>
      simp [handle, standbyAuthorize, World.ctx, hip, sessionTimerPause, Session.timer,
        Session.setTimer, update, Session.authorized, h0, h1]
  rw [World.runOn, hhandle]
  simp [World.ctx, World.store, hf]

theorem ignored_run {t : Trigger} (hh : (handle (w.env o a) t (w.ctx a)).2 = w.ctx a) :
    w.runOn o a t = w := by
  rw [World.runOn, hh]
  simp only [World.ctx, Bool.false_eq_true, if_false]
  split
  · rfl
  · exact store_ctx

/-- The answer of the kernel is ignored, or the session it is about is online then. -/
inductive Answered (w : World) : KernelMsg → World → Prop
  | ignored {m : KernelMsg}
      (hno : ∀ sid ip err a, m = .authorize sid ip err → w.bySid sid = some a →
        (w.mem a).ipaddr.ip ≠ ip) : Answered w m w
  | authorized {sid : Nat} {ip : UInt32} {a : Addr} (hsid : w.bySid sid = some a) :
      Answered w (.authorize sid ip 0) { w with mem := w.mem.set a (w.mem a).authorized }

theorem kernel_answered {m : KernelMsg} (hst : w.status = .STANDBY) (hf : w.fault = false)
    (hg : ∀ r ∈ w.kernelRuns m, standGuard.run r.w o r.a r.t) : Answered w m (w.kernel o m) := by
  have hserv : w.status.serving = false := by rw [hst]; rfl
  cases m with
  | register sid mac err =>
    have hno : Answered w (.register sid mac err) w := .ignored fun _ _ _ _ h => by cases h
    rw [World.kernelRuns, hserv] at hg
    rw [World.kernel, hserv]
    cases hi : w.bySid sid with
    | none => exact hno
    | some a =>
      rw [hi, World.runOf] at hg
      rw [World.runIf]
      split
      · rename_i htest
        rw [if_pos htest] at hg
        have herr : err = 0 := by simpa [standGuard, Trigger.mayEnd] using hg _ List.mem_cons_self
        subst herr
        rw [if_neg Bool.false_ne_true, ignored_run (by rfl)]
        exact hno
      · exact hno
  | authorize sid ip err =>
    rw [World.kernelRuns, hserv] at hg
    rw [World.kernel, hserv]
    cases hi : w.bySid sid with
    | none =>
      refine .ignored fun _ _ _ _ h hb => ?_
      cases h
      rw [hi] at hb
      cases hb
    | some a =>
      rw [hi, World.runOf, if_pos rfl] at hg
      rw [World.runIf, if_pos rfl, if_neg Bool.false_ne_true]
      by_cases hip : (w.mem a).ipaddr.ip = ip
      · have herr : err = 0 := by
          simpa [standGuard, Trigger.mayEnd, hip] using hg _ List.mem_cons_self
        subst herr
        rw [authorized_run hf hip]
        exact .authorized hi
      · rw [ignored_run (by simp [handle, standbyAuthorize, World.ctx, hip])]
        refine .ignored fun _ _ _ _ h hb => ?_
        cases h
        rw [hi] at hb
        cases hb
        exact hip
  | unauthorize sid ip =>
    rw [World.kernel, hserv]
    exact .ignored fun _ _ _ _ h => by cases h

theorem Shadowed.answered {m : KernelMsg} (h : Shadowed S k w) (ha : Answered w m w') :
    Shadowed S k w' := by
  cases ha with
  | ignored => exact h
  | @authorized _ _ a =>
    exact h.set (a := a) (s := (w.mem a).authorized) ⟨rfl, fun _ => rfl, rfl, rfl, rfl⟩ rfl rfl rfl

/-- The next answer is there: a session that waited for it is online. -/
theorem Shadowed.next {p : Packet} (h : Shadowed S k w) (hp : w.out.drop k = p :: w.out.drop (k + 1))
    (hdone : ∀ a ∈ w.tables.sess_list,
      p = .authorize (w.mem a).sid (w.mem a).ipaddr.ip → (w.mem a).state = .ONLINE) :
    Shadowed S (k + 1) w := by
  have hle : k + 1 ≤ w.out.length := by
    by_contra hlt
    rw [List.drop_eq_nil_of_le (by omega)] at hp
    cases hp
  refine ⟨h.shadow, hle, fun a ha => ?_, h.stands.echo, h.stands.update, h.stands.retrans⟩
  rcases h.stands.waits a ha with hon | hw
  · exact .inl hon
  · rw [hp] at hw
    rcases List.mem_cons.mp hw with heq | hw
    · exact .inl (hdone a ha heq.symm)
    · exact .inr hw

/-- The session that waits for this answer is the one that it is about. -/
theorem Answered.online {sid : Nat} {ip : UInt32} {err : Int}
    (ha : Answered w (.authorize sid ip err) w') (hl : Listed w) {b : Addr}
    (hb : b ∈ w.tables.sess_list) (hsid : (w'.mem b).sid = sid) (hip : (w'.mem b).ipaddr.ip = ip) :
    (w'.mem b).state = .ONLINE := by
  cases ha with
  | ignored hno =>
    subst hsid hip
    exact absurd rfl (hno _ _ _ b rfl (hl.bySid hb))
  | @authorized _ _ a hi =>
    by_cases hba : b = a
    · subst hba
      have hself : (w.mem.set b (w.mem b).authorized) b = (w.mem b).authorized := Mem.set_same
      exact congrArg (fun s => s.state) hself
    · dsimp only at hsid
      rw [Mem.set_other hba] at hsid
      rw [← hsid, hl.bySid hb] at hi
      exact absurd (Option.some.inj hi) hba

theorem Answered.same {m : KernelMsg} (ha : Answered w m w') :
    w'.out = w.out ∧ w'.tables = w.tables := by
  cases ha <;> exact ⟨rfl, rfl⟩

/-- The kernel answers the next request. -/
theorem Shadowed.answer {p : Packet} {m : KernelMsg} {err : Int} (h : Shadowed S k w)
    (hl : Listed w) (hp : w.out.drop k = p :: w.out.drop (k + 1)) (hm : p.answer err = some m)
    (ha : Answered w m w') : Shadowed S (k + 1) w' := by
  obtain ⟨hout, htables⟩ := ha.same
  refine (h.answered ha).next (hout.symm ▸ hp) fun b hb heq => ?_
  subst heq
  obtain rfl := Option.some.inj hm
  exact ha.online hl (htables ▸ hb) rfl rfl

/-! ## Events -/

/-- What a standby instance does by itself. -/
def Event.stands : Event → Bool
  | .timer .. | .kernel _ | .coa _ | .clock _ | .stat .. | .hold _ | .put _ => true
  | .frame .. | .padr .. | .padt .. | .radius .. | .kickBySid _ | .kickByMac _ | .clear | .clearV2
  | .onlineSync _ | .offlineSync _ | .updateSync _ | .sync | .syncFinished | .restart _
  | .channel _ => false

theorem Shadowed.refer {f : Nat → Nat} (h : Shadowed S k w) : Shadowed S k (w.refer a f) :=
  h.set (a := a) (s := { w.mem a with refcnt := f (w.mem a).refcnt })
    ⟨rfl, id, rfl, rfl, rfl⟩ rfl rfl rfl

theorem Shadowed.stat {sid : Nat} {st : SessionStat} (h : Shadowed S k w) :
    Shadowed S k (w.stat sid st) := by
  rw [World.stat]
  split
  · exact h
  rename_i a _
  dsimp only
  split
  · exact h
  · refine h.same rfl (fun b _ => ?_) ⟨[], (List.append_nil _).symm⟩
    dsimp only
    by_cases hb : b = a
    · subst hb
      rw [Mem.set_same]
      exact ⟨rfl, id, rfl, rfl, rfl⟩
    · rw [Mem.set_other hb]
      exact .refl

theorem Shadowed.coa {d : Datagram} (h : Shadowed S k w)
    (hg : ∀ r ∈ w.coaRuns d, standGuard.run r.w o r.a r.t) : Shadowed S k (w.coa o d) := by
  rw [World.coaRuns] at hg
  rw [World.coa]
  split
  · exact h
  · exact h.same rfl (fun _ _ => .refl) ⟨[], (List.append_nil _).symm⟩
  · rename_i server key hfrom hkey
    rw [hfrom, hkey] at hg
    dsimp only at hg
    cases hlook : w.coaSession key with
    | none => exact h.same rfl (fun _ _ => .refl) ⟨_, rfl⟩
    | some a =>
      rw [hlook, World.runOf, if_pos rfl] at hg
      exact absurd rfl (hg _ List.mem_cons_self)

theorem Shadowed.timer {t : SessionTimerType} (h : Shadowed S k w) (ha : a ∈ w.tables.sess_list)
    (ht : (w.mem a).timer t = .armed) (hg : standGuard.run w o a (.timer t)) :
    Shadowed S k (w.runOn o a (.timer t)) := by
  exfalso
  cases t with
  | TIMEOUT => exact hg rfl
  | ECHO => exact h.stands.echo a ha ht
  | UPDATE => exact h.stands.update a ha ht
  | RETRANS => exact h.stands.retrans a ha ht

theorem Shadowed.step {x : Event × Oracle} (h : Shadowed S k w) (hst : w.status = .STANDBY)
    (hx : x.1.stands) (hg : standGuard.Meets w x) : Shadowed S k (step w x) := by
  rw [Pppoe.step]
  split
  · exact h
  rename_i htake
  obtain ⟨hf, htake⟩ := not_or.mp htake
  obtain ⟨hrun, -⟩ := hg (not_not.mp htake)
  obtain ⟨ev, o⟩ := x
  cases ev with
  | timer a t =>
    simp only [World.dispatch, World.runs] at hrun ⊢
    split
    · rename_i hin
      rw [if_pos hin] at hrun
      exact h.timer hin.1 hin.2 (hrun _ List.mem_cons_self)
    · exact h
  | kernel m => exact h.answered (kernel_answered hst (by simpa using hf) hrun)
  | coa d => exact h.coa hrun
  | clock n => exact h.same rfl (fun _ _ => .refl) ⟨[], (List.append_nil _).symm⟩
  | stat sid st => exact h.stat
  | hold sid =>
    simp only [World.dispatch]
    cases w.bySid sid with
    | none => exact h
    | some a => exact h.refer
  | put a =>
    simp only [World.dispatch]
    split
    · exact h.refer
    · exact h
  | frame | padr | padt | radius | kickBySid | kickByMac | clear | clearV2 | onlineSync | offlineSync
  | updateSync | sync | syncFinished | restart | channel => cases hx

end

end Pppoe
end DaemonGroup
