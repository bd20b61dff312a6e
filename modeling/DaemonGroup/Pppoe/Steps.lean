import DaemonGroup.Pppoe.Change

/-!
# DaemonGroup.Pppoe.Steps

Every event is a sequence of changes. `World.runs` lists the handlers that an event runs, each with
the instance it starts in, and `Guard.Meets g w x` says that all of them, and the records handed out
and the messages taken, pass the guard `g`. Then `step_changes` cuts the event into changes that
pass `g`, and `runEvents_inv` is the rule for invariants: what every change keeps holds at the end
of a run whose events all meet the guard.
-/

namespace DaemonGroup
namespace Pppoe

open Lib

/-! ## The handlers of an event -/

/-- A handler and where it starts. -/
structure Run where
  w : World
  a : Addr
  t : Trigger

def World.runOf (w : World) (x : Option Addr) (test : Session → Bool) (t : Trigger) : List Run :=
  match x with
  | none => []
  | some a => if test (w.mem a) then [⟨w, a, t⟩] else []

def World.eachRuns (w : World) (o : Oracle) (t : Trigger) : List Addr → List Run
  | [] => []
  | a :: l => ⟨w, a, t⟩ :: World.eachRuns (w.runOn o a t) o t l

def World.sidRuns (w : World) (o : Oracle) (t : Trigger) : List Nat → List Run
  | [] => []
  | i :: l => w.runOf (w.bySid i) (fun _ => true) t ++
      World.sidRuns (w.runIf o (w.bySid i) (fun _ => true) t) o t l

def World.padrRuns (w : World) (o : Oracle) (mac serverMac : Mac) (room : Bool) : List Run :=
  match w.byMac mac with
  | some a =>
    if (w.mem a).state.num > SessState.INIT.num ∨ room then [] else [⟨w, a, .padsRoom⟩]
  | none =>
    let w' := w.manageSessInit o mac serverMac
    if room then [] else w'.runOf (w'.byMac mac) (fun _ => true) .padsRoom

def World.radiusRuns (w : World) (sock : Nat) (d : Datagram) : List Run :=
  match w.radidOf sock d with
  | none => []
  | some p => w.runOf (w.rad.id p).sess (fun _ => true) (.reply p d)

def World.coaRuns (w : World) (d : Datagram) : List Run :=
  match w.coaFrom d, coaKey d.bytes with
  | some _, some k => w.runOf (w.coaSession k) (fun _ => true) .disconnect
  | _, _ => []

def World.kernelRuns (w : World) : KernelMsg → List Run
  | .register sid mac err =>
    w.runOf (w.bySid sid) (·.mac = mac)
      (if w.status.serving then .register err else .standbyRegister err)
  | .authorize sid ip err =>
    w.runOf (w.bySid sid) (fun _ => true)
      (if w.status.serving then .authorize ip err else .standbyAuthorize ip err)
  | .unauthorize sid ip =>
    if w.status.serving then w.runOf (w.bySid sid) (fun _ => true) (.unauthorize ip) else []

/-- The instance when `manage_sessions_clear` and `manage_sessions_clear_v2` come to the sessions. -/
def World.clearStart (w : World) (o : Oracle) : World :=
  let q := if w.status = .ACTIVE ∧ w.channel ∧ ¬ o.syncFails then [Sync.SESSCLEAR] else []
  { w with out := w.out ++ [.clear], queue := w.queue ++ q }

def World.clearV2Start (w : World) : World := { w with out := w.out ++ [.clear], sync_flag := false }

def World.allSids (w : World) : List Nat := List.range' 1 w.cfg.max_sid

def World.restartRuns (w : World) (o : Oracle) (status : BackupStatus) : List Run :=
  let w := w.switch status
  let w' := if w.clears then w.manageSessionsClearV2 o else w
  (if w.clears then w.clearV2Start.sidRuns o .clearV2 w.allSids else []) ++
    (if w'.status.serving then w'.eachRuns o .wakeup w'.tables.sess_list else [])

def World.runs (w : World) (x : Event × Oracle) : List Run :=
  let o := x.2
  match x.1 with
  | .frame sid mac f => w.runOf (w.bySid sid) (·.mac = mac) (.frame f)
  | .padr mac serverMac room => w.padrRuns o mac serverMac room
  | .padt sid mac => w.runOf (w.bySid sid) (·.mac = mac) .padt
  | .timer a t =>
    if a ∈ w.tables.sess_list ∧ (w.mem a).timer t = .armed then [⟨w, a, .timer t⟩] else []
  | .kernel m => w.kernelRuns m
  | .radius sock d => w.radiusRuns sock d
  | .coa d => w.coaRuns d
  | .kickBySid sid => w.runOf (w.bySid sid) (fun _ => true) .kick
  | .kickByMac mac => (w.hold (w.byMac mac)).runOf (w.byMac mac) (fun _ => true) .kick
  | .clear => (w.clearStart o).sidRuns o .clear w.allSids
  | .clearV2 => w.clearV2Start.sidRuns o .clearV2 w.allSids
  | .offlineSync m => w.runOf (w.bySid m.sid) (fun _ => true) .offlineSync
  | .updateSync m => w.runOf (w.bySid m.sid) (fun _ => true) (.updateSync m)
  | .sync => w.eachRuns o .sync w.tables.sess_list
  | .restart status => w.restartRuns o status
  | _ => []

/-- A client without a session is given one. -/
def World.admits (w : World) (o : Oracle) (mac : Mac) : Bool :=
  w.byMac mac = none ∧ (w.alloc o 0 mac).sess.isSome ∧
    ¬ (w.env o o.addr).fail (.timer .TIMEOUT) ∧ ¬ (w.env o o.addr).fail .channelRegister

/-- A session of the peer is registered. -/
def World.accepts (w : World) (o : Oracle) (m : OnlineSync) : Bool :=
  let e := w.env o o.addr
  (w.alloc o m.sid m.mac).sess.isSome ∧
    ¬ (e.fail (.timer .TIMEOUT) ∨ e.fail (.timer .ECHO) ∨ e.fail (.timer .UPDATE)) ∧
    ¬ e.fail .channelRegister ∧ ¬ e.fail .channelAuthorize

/-- What the guard has to say of an event besides the handlers it runs. -/
def Guard.Admits (g : Guard) (w : World) : Event × Oracle → Prop
  | (.padr mac _ _, o) => w.admits o mac → g.record w o.addr
  | (.onlineSync m, o) => w.accepts o m → g.record w o.addr ∧ g.online w m
  | (.restart status, o) => g.start ((w.switch status).manageRestart o)
  | _ => True

/-- The event passes the guard, if it is dispatched. -/
def Guard.Meets (g : Guard) (w : World) (x : Event × Oracle) : Prop :=
  w.takes x.1 → (∀ r ∈ w.runs x, g.run r.w x.2 r.a r.t) ∧ g.Admits w x

/-- A guard that can be evaluated. -/
class Guard.Checks (g : Guard) where
  run : ∀ w o a t, Decidable (g.run w o a t)
  record : ∀ w a, Decidable (g.record w a)
  online : ∀ w m, Decidable (g.online w m)
  start : ∀ w, Decidable (g.start w)

instance (g : Guard) [c : g.Checks] (w : World) (o : Oracle) (a : Addr) (t : Trigger) :
    Decidable (g.run w o a t) := c.run w o a t

instance (g : Guard) [c : g.Checks] (w : World) (a : Addr) : Decidable (g.record w a) :=
  c.record w a

instance (g : Guard) [c : g.Checks] (w : World) (m : OnlineSync) : Decidable (g.online w m) :=
  c.online w m

instance (g : Guard) [c : g.Checks] (w : World) : Decidable (g.start w) := c.start w

instance (g : Guard) [g.Checks] (w : World) (x : Event × Oracle) : Decidable (g.Admits w x) :=
  match x with
  | (.padr mac _ _, o) => inferInstanceAs (Decidable (w.admits o mac → g.record w o.addr))
  | (.onlineSync m, o) =>
    inferInstanceAs (Decidable (w.accepts o m → g.record w o.addr ∧ g.online w m))
  | (.restart status, o) =>
    inferInstanceAs (Decidable (g.start ((w.switch status).manageRestart o)))
  | (.frame .., _) | (.padt .., _) | (.timer .., _) | (.kernel _, _) | (.radius .., _)
  | (.coa _, _) | (.kickBySid _, _) | (.kickByMac _, _) | (.clear, _) | (.clearV2, _)
  | (.offlineSync _, _) | (.updateSync _, _) | (.sync, _) | (.syncFinished, _) | (.channel _, _)
  | (.clock _, _) | (.stat .., _) | (.hold _, _) | (.put _, _) => inferInstanceAs (Decidable True)

instance (g : Guard) [g.Checks] (w : World) (x : Event × Oracle) : Decidable (g.Meets w x) :=
  inferInstanceAs (Decidable (w.takes x.1 →
    (∀ r ∈ w.runs x, g.run r.w x.2 r.a r.t) ∧ g.Admits w x))

/-! ## Sequences of changes -/

/-- A sequence of changes that pass the guard. -/
def Changes (g : Guard) : World → World → Prop := Relation.ReflTransGen (Change g)

/-- The records keep their references, and one that is handed out has none. -/
structure Tidy (w w' : World) : Prop where
  kept : ∀ a ∈ w.tables.cache, (w'.mem a).refcnt = (w.mem a).refcnt
  fresh : ∀ a ∈ w'.tables.cache, a ∉ w.tables.cache →
    (w'.mem a).refcnt = 0 ∧ (w'.mem a).state ≠ .DEAD
  nodup : w.tables.cache.Nodup → w'.tables.cache.Nodup

/-- A sequence of changes that pass the guard and leave the references alone. -/
def Turns (g : Guard) : World → World → Prop :=
  Relation.ReflTransGen fun w w' => Change g w w' ∧ Tidy w w'

section
variable {g : Guard} {w w' : World} {o : Oracle} {a : Addr} {t : Trigger}

theorem Changes.refl : Changes g w w := Relation.ReflTransGen.refl

theorem Changes.trans {w'' : World} (h₁ : Changes g w w') (h₂ : Changes g w' w'') :
    Changes g w w'' :=
  Relation.ReflTransGen.trans h₁ h₂

/-- The rule for invariants: what every change keeps is kept. -/
theorem Changes.inv {I : World → Prop}
    (hI : ∀ w w', Sound w → I w → Change g w w' → I w') (h : Changes g w w') (hs : Sound w)
    (hi : I w) : Sound w' ∧ I w' := by
  induction h with
  | refl => exact ⟨hs, hi⟩
  | tail _ hc ih => exact ⟨hc.sound ih.1, hI _ _ ih.1 ih.2 hc⟩

theorem Changes.sound (h : Changes g w w') (hs : Sound w) : Sound w' :=
  (h.inv (I := fun _ => True) (fun _ _ _ _ _ => trivial) hs trivial).1

theorem Turns.refl : Turns g w w := Relation.ReflTransGen.refl

theorem Turns.trans {w'' : World} (h₁ : Turns g w w') (h₂ : Turns g w' w'') : Turns g w w'' :=
  Relation.ReflTransGen.trans h₁ h₂

theorem Change.turn (h : Change g w w') (ht : Tidy w w') : Turns g w w' := .single ⟨h, ht⟩

theorem Turns.changes (h : Turns g w w') : Changes g w w' :=
  Relation.ReflTransGen.mono (fun _ _ hc => hc.1) w w' h

theorem Turns.sound (h : Turns g w w') (hs : Sound w) : Sound w' := h.changes.sound hs

/-- The same rule for changes that leave the references alone. -/
theorem Turns.inv {I : World → Prop}
    (hI : ∀ w w', Sound w → I w → Change g w w' → Tidy w w' → I w') (h : Turns g w w')
    (hs : Sound w) (hi : I w) : I w' := by
  have hboth : Sound w' ∧ I w' := by
    induction h with
    | refl => exact ⟨hs, hi⟩
    | tail _ hc ih => exact ⟨hc.1.sound ih.1, hI _ _ ih.1 ih.2 hc.1 hc.2⟩
  exact hboth.2

/-! ## References -/

theorem Tidy.same (hm : w'.mem = w.mem) (hc : w'.tables.cache = w.tables.cache) : Tidy w w' where
  kept := fun _ _ => by rw [hm]
  fresh := fun b hb hn => absurd (hc ▸ hb) hn
  nodup := fun h => hc ▸ h

theorem Tidy.set {s : Session} (hm : w'.mem = w.mem.set a s)
    (hc : w'.tables.cache = w.tables.cache) (hr : s.refcnt = (w.mem a).refcnt) : Tidy w w' where
  kept := by
    intro b _
    rw [hm]
    by_cases hb : b = a
    · rw [hb, Mem.set_same, hr]
    · rw [Mem.set_other hb]
  fresh := fun b hb hn => absurd (hc ▸ hb) hn
  nodup := fun h => hc ▸ h

theorem Tidy.handOut {s : Session} {l : List Addr} (ha : a ∉ w.tables.cache) (hs : s.state = .NONE)
    (hr : s.refcnt = 0) (hl : l = w.tables.cache ∨ l = a :: w.tables.cache) :
    Tidy w (w.handOut a s l) where
  kept := by
    intro b hb
    have hba : b ≠ a := fun h => ha (h ▸ hb)
    exact congrArg (fun s : Session => s.refcnt) (Mem.set_other hba)
  fresh := by
    intro b hb hn
    have hba : b = a := by
      rcases hl with rfl | rfl
      · exact absurd hb hn
      · exact (List.mem_cons.mp hb).resolve_right hn
    have hself : (w.handOut a s l).mem a = s := Mem.set_same
    rw [hba, hself, hs]
    exact ⟨hr, by decide⟩
  nodup := by
    intro h
    rcases hl with rfl | rfl
    · exact h
    · exact List.nodup_cons.mpr ⟨ha, h⟩

theorem Tidy.enrol {s : Session} {out : List Packet} (hn : Newcomer w a s) :
    Tidy w (w.enrol a s out) where
  kept := by
    intro b hb
    have hba : b ≠ a := fun h => hn.record (h ▸ hb)
    exact congrArg (fun s : Session => s.refcnt) (Mem.set_other hba)
  fresh := by
    intro b hb hnew
    have hself : (w.enrol a s out).mem a = { s with state := .INIT } := Mem.set_same
    rw [(List.mem_cons.mp hb).resolve_right hnew, hself]
    exact ⟨congrArg Life.refcnt hn.life, SessState.noConfusion⟩
  nodup := fun h => List.nodup_cons.mpr ⟨hn.record, h⟩

theorem sessExit_cache : (w.sessExit a).tables.cache.Sublist w.tables.cache := by
  have hfold : ∀ (l : List Addr) (w : World),
      (l.foldl World.deadFreeAt w).tables.cache.Sublist w.tables.cache := by
    intro l
    induction l with
    | nil => exact fun _ => .refl _
    | cons b l ih =>
      intro w
      refine (ih (w.deadFreeAt b)).trans ?_
      rw [World.deadFreeAt]
      split
      · exact List.erase_sublist
      · exact .refl _
  refine (hfold _ _).trans ?_
  split
  · exact .refl _
  · exact List.erase_sublist

theorem unregister_refcnt (b : Addr) : ((w.unregister a).mem b).refcnt = (w.mem b).refcnt := by
  rw [World.unregister]
  by_cases hb : b = a
  · simp [hb, Session.timerClear]
  · simp [Mem.set_other hb]

theorem Tidy.sessExit : Tidy w (w.sessExit a) where
  kept := by
    intro b _
    obtain ⟨ip, h⟩ := sessExit_mem (w := w) (a := a) b
    rw [h]
    exact unregister_refcnt b
  fresh := fun b hb hn => absurd (sessExit_cache.subset hb) hn
  nodup := fun h => sessExit_cache.nodup h

theorem Tidy.exit (ht : Tidy w w') (hc : w'.tables.cache = w.tables.cache) :
    Tidy w (w'.sessExit a) where
  kept := fun b hb => (Tidy.sessExit.kept b (hc ▸ hb)).trans (ht.kept b hb)
  fresh := fun _ hb hn => absurd (hc ▸ sessExit_cache.subset hb) hn
  nodup := fun h => Tidy.sessExit.nodup (ht.nodup h)

/-! ## Handlers -/

theorem misc_turns (h : Misc w w') : Turns g w w' :=
  (Change.misc h).turn (.same h.mem (by rw [h.tables]))

theorem runOn_turns (hs : Sound w) (ha : a ∈ w.tables.sess_list) (hn : w.Names a t)
    (hg : g.run w o a t) : Turns g w (w.runOn o a t) := by
  obtain ⟨hm, hf⟩ := handle_move (t := t) (e := w.env o a) (c := w.ctx a) (hs.fit a ha)
    (hs.rests a ha)
  rw [World.runOn]
  split
  · exact .refl
  split
  · exact misc_turns ⟨rfl, rfl, rfl, rfl, rfl, rfl, rfl⟩
  rename_i hft
  have hr : Ran g w a t o (handle (w.env o a) t (w.ctx a)).2 :=
    ⟨ha, hg, hn, hm, hf, by simpa using hft⟩
  have hstore : Tidy w (w.store a (handle (w.env o a) t (w.ctx a)).2) :=
    .set rfl rfl (hm.refcnt hr.fault)
  split
  · exact (Change.exit hr ‹_›).turn (hstore.exit rfl)
  · rename_i hx
    exact (Change.move hr (Bool.eq_false_iff.mpr hx)).turn hstore

theorem runIf_turns {x : Option Addr} {test : Session → Bool} (hs : Sound w)
    (hx : ∀ a, x = some a → a ∈ w.tables.sess_list) (hn : ∀ a, w.Names a t)
    (hg : ∀ r ∈ w.runOf x test t, g.run r.w o r.a r.t) : Turns g w (w.runIf o x test t) := by
  cases x with
  | none => exact .refl
  | some a =>
    rw [World.runOf] at hg
    rw [World.runIf]
    split
    · rename_i htest
      rw [if_pos htest] at hg
      exact runOn_turns hs (hx a rfl) (hn a) (hg _ List.mem_cons_self)
    · exact .refl

theorem Sound.bySid (hs : Sound w) {i : Nat} (h : w.bySid i = some a) : a ∈ w.tables.sess_list := by
  rw [World.bySid, _sessionGetBySid] at h
  split at h
  · cases h
  · exact (hs.sid i a h).1

theorem Sound.byMac (hs : Sound w) {mac : Mac} (h : w.byMac mac = some a) :
    a ∈ w.tables.sess_list :=
  (hs.mac _ a (List.mem_of_find?_eq_some h)).1

theorem runSids_turns {l : List Nat} (hs : Sound w) (hn : ∀ (w : World) a, w.Names a t)
    (hg : ∀ r ∈ w.sidRuns o t l, g.run r.w o r.a r.t) :
    Turns g w (l.foldl (fun w i => w.runIf o (w.bySid i) (fun _ => true) t) w) := by
  induction l generalizing w with
  | nil => exact .refl
  | cons i l ih =>
    rw [World.sidRuns] at hg
    have hone : Turns g w (w.runIf o (w.bySid i) (fun _ => true) t) :=
      runIf_turns hs (fun _ h => hs.bySid h) (hn w) fun r hr => hg r (List.mem_append_left _ hr)
    exact hone.trans (ih (hone.sound hs) fun r hr => hg r (List.mem_append_right _ hr))

/-- A handler that ends no session leaves the tables as they are. -/
theorem runOn_stays (hs : Sound w) (ha : a ∈ w.tables.sess_list) (ht : t = .sync ∨ t = .wakeup) :
    (w.runOn o a t).tables = w.tables := by
  obtain ⟨hm, -⟩ := handle_move (t := t) (e := w.env o a) (c := w.ctx a) (hs.fit a ha)
    (hs.rests a ha)
  rw [World.runOn]
  split
  · rfl
  split
  · rfl
  rename_i hft
  split
  · rename_i hx
    have := hm.stays ht (Bool.eq_false_iff.mpr hft)
    cases hx.symm.trans this
  · rfl

theorem runEach_turns {l : List Addr} (hs : Sound w) (hl : ∀ a ∈ l, a ∈ w.tables.sess_list)
    (ht : t = .sync ∨ t = .wakeup) (hg : ∀ r ∈ w.eachRuns o t l, g.run r.w o r.a r.t) :
    Turns g w (w.runEach o t l) := by
  induction l generalizing w with
  | nil => exact .refl
  | cons a l ih =>
    rw [World.eachRuns] at hg
    have ha := hl a List.mem_cons_self
    have hn : w.Names a t := by rcases ht with rfl | rfl <;> trivial
    have hone : Turns g w (w.runOn o a t) := runOn_turns hs ha hn (hg _ List.mem_cons_self)
    refine hone.trans (ih (hone.sound hs) (fun b hb => ?_) fun r hr => hg r (List.mem_cons_of_mem _ hr))
    rw [runOn_stays hs ha ht]
    exact hl b (List.mem_cons_of_mem _ hb)

/-! ## Registration -/

/-- What `session_alloc` hands out: a record that was free, with a session id that is free unless it
lies beyond the table, for a client that has no session. -/
structure Alloced (w : World) (o : Oracle) (sid : Nat) (mac : Mac) (id : Nat) : Prop where
  sess : (w.alloc o sid mac).sess = some o.addr
  tables : (w.alloc o sid mac).tables = { w.tables with cache := o.addr :: w.tables.cache }
  mem : (w.alloc o sid mac).mem = w.mem.set o.addr { sid := id, mac := mac, opt := sessionsOpt }
  record : o.addr ∉ w.tables.cache
  pos : id ≠ 0
  range : id = sid ∨ id ≤ w.cfg.max_sid
  own : sid = 0 → id ≤ w.cfg.max_sid
  named : sid ≠ 0 → id = sid
  slot : id ≤ w.cfg.max_sid → w.tables.sess_sid id = none
  unknown : _sessionGetByMac w.tables w.mem mac = none

theorem sessionAllocId_spec {cfg : Config} {t : Tables} (h : sessionAllocId cfg t ≠ 0) :
    sessionAllocId cfg t ≤ cfg.max_sid ∧ t.sess_sid (sessionAllocId cfg t) = none := by
  rw [sessionAllocId] at h ⊢
  cases hf : (List.range' 1 cfg.max_sid).find? fun i => t.sess_sid i = none with
  | none => rw [hf] at h; exact absurd rfl h
  | some i =>
    have hm := List.mem_of_find?_eq_some hf
    have hn := List.find?_some hf
    rw [List.mem_range'_1] at hm
    exact ⟨by simp only [Option.getD_some]; omega, by simpa using hn⟩

/-- The instance with what `session_alloc` did to it. -/
def World.alloced (w : World) (o : Oracle) (sid : Nat) (mac : Mac) : World :=
  { w with tables := (w.alloc o sid mac).tables, mem := (w.alloc o sid mac).mem }

/-- A record may have been taken from the cache and filled, but no session is registered. -/
inductive Unlisted (w : World) (o : Oracle) : World → Prop
  | none : Unlisted w o w
  | record {s : Session} {l : List Addr} (ha : o.addr ∉ w.tables.cache) (hs : s.state = .NONE)
      (hr : s.refcnt = 0) (hl : l = w.tables.cache ∨ l = o.addr :: w.tables.cache) :
      Unlisted w o (w.handOut o.addr s l)

theorem Unlisted.turns (h : Unlisted w o w') : Turns g w w' := by
  cases h with
  | none => exact .refl
  | record ha hs hr hl =>
    refine (Change.record ha hs fun b hb => ?_).turn (.handOut ha hs hr hl)
    rcases hl with rfl | rfl
    · exact hb
    · exact List.mem_cons_of_mem _ hb

theorem alloc_cases (o : Oracle) (sid : Nat) (mac : Mac) :
    ((w.alloc o sid mac).sess = none ∧ Unlisted w o (w.alloced o sid mac)) ∨
      ∃ id, Alloced w o sid mac id := by
  have hsame : ∀ {r : Alloc}, r = ⟨w.tables, w.mem, none⟩ →
      r.sess = none ∧ Unlisted w o { w with tables := r.tables, mem := r.mem } := by
    rintro _ rfl
    exact ⟨rfl, .none⟩
  unfold World.alloced
  generalize hr : w.alloc o sid mac = r
  rw [World.alloc, sessionAlloc] at hr
  split at hr
  · exact .inl (hsame hr.symm)
  rename_i hsid
  split at hr
  · exact .inl (hsame hr.symm)
  rename_i hmac
  split at hr
  · exact .inl (hsame hr.symm)
  rename_i hfail
  have hrec : o.addr ∉ w.tables.cache := fun h => hfail (decide_eq_true (.inr h))
  dsimp only at hr
  by_cases hid : (if sid ≠ 0 then sid else sessionAllocId w.cfg w.tables) = 0
  · rw [if_pos hid] at hr
    subst hr
    exact .inl ⟨rfl, .record hrec rfl rfl (.inr rfl)⟩
  · rw [if_neg hid] at hr
    have hmac' : _sessionGetByMac w.tables w.mem mac = none := by simpa using hmac
    refine .inr ⟨if sid ≠ 0 then sid else sessionAllocId w.cfg w.tables, ?_⟩
    have hr' : w.alloc o sid mac = r := by
      rw [World.alloc, sessionAlloc, if_neg hsid, if_neg hmac, if_neg hfail]
      dsimp only
      rw [if_neg hid]
      exact hr
    by_cases h0 : sid = 0
    · have hz : ¬ sid ≠ 0 := fun h => h h0
      rw [if_neg hz] at hid hr ⊢
      obtain ⟨hle, hfree⟩ := sessionAllocId_spec hid
      exact ⟨by rw [hr', ← hr], by rw [hr', ← hr], by rw [hr', ← hr], hrec, hid, .inr hle,
        fun _ => hle, fun h => absurd h0 h, fun _ => hfree, hmac'⟩
    · rw [if_pos h0] at hid hr ⊢
      refine ⟨by rw [hr', ← hr], by rw [hr', ← hr], by rw [hr', ← hr], hrec, hid, .inl rfl,
        fun h => absurd h h0, fun _ => rfl, fun hle => ?_, hmac'⟩
      have hnone : _sessionGetBySid w.cfg w.tables sid = none := by
        by_contra h
        exact hsid ⟨h0, Option.isSome_iff_ne_none.mpr h⟩
      rw [_sessionGetBySid, if_neg (by omega)] at hnone
      exact hnone

/-- The session that is registered from a record that `session_alloc` handed out. -/
theorem Alloced.newcomer {sid : Nat} {mac : Mac} {id : Nat} (h : Alloced w o sid mac id)
    {s : Session} (hl : s.toLife = { sid := id, mac := mac, ipaddr := s.ipaddr, timeout := .armed })
    (ht : s.termMaxTimes = 0) (ho : s.opt = sessionsOpt) : Newcomer w o.addr s := by
  have hsid : s.sid = id := by rw [hl]
  have hmac : s.mac = mac := by rw [hl]
  refine ⟨h.record, ?_, ⟨ht, fun o ho' => ?_⟩, hsid ▸ h.pos, hsid ▸ h.slot, hmac ▸ h.unknown⟩
  · rw [hsid, hmac]
    exact hl
  · rw [ho]
    exact List.mem_of_mem_filter ho'

theorem register_handOut {s s' : Session} {out : List Packet} :
    World.register { w with
      tables := { w.tables with cache := a :: w.tables.cache }
      mem := w.mem.set a s'
      out := out } a s = w.enrol a s out := by
  simp [World.register, World.enrol]

/-- A client without a session is given one, or it is not. -/
theorem manageSessInit_cases {mac serverMac : Mac} (hmac : w.byMac mac = none) :
    Unlisted w o (w.manageSessInit o mac serverMac) ∨
      ∃ s out, Newcomer w o.addr s ∧ s.sid ≤ w.cfg.max_sid ∧ s.ipaddr = {} ∧ w.admits o mac ∧
        w.manageSessInit o mac serverMac = w.enrol o.addr s out := by
  rcases alloc_cases (w := w) o 0 mac with ⟨hn, hc⟩ | ⟨id, h⟩
  · rw [World.manageSessInit]
    dsimp only
    rw [hn]
    exact .inl hc
  · have hself : (w.alloc o 0 mac).mem o.addr = { sid := id, mac := mac, opt := sessionsOpt } := by
      rw [h.mem, Mem.set_same]
    rw [World.manageSessInit]
    dsimp only
    rw [h.sess]
    dsimp only
    rw [hself, h.tables, h.mem]
    simp only [List.erase_cons_head, Mem.set_set]
    split
    · exact .inl (.record h.record rfl rfl (.inl rfl))
    rename_i ht
    split
    · exact .inl (.record h.record rfl rfl (.inl rfl))
    · rename_i hc
      rw [register_handOut]
      exact .inr ⟨_, _, h.newcomer rfl rfl rfl, h.own rfl, rfl,
        decide_eq_true ⟨hmac, by rw [h.sess]; rfl, ht, hc⟩, rfl⟩

theorem manageSessInit_turns {mac serverMac : Mac} (hmac : w.byMac mac = none)
    (hg : w.admits o mac → g.record w o.addr) : Turns g w (w.manageSessInit o mac serverMac) := by
  rcases manageSessInit_cases hmac with h | ⟨s, out, hnew, hsid, hip, hadm, heq⟩
  · exact h.turns
  · rw [heq]
    exact (Change.enrol hnew (.client hsid hip) (hg hadm)).turn (.enrol hnew)

theorem onlineSync_turns {m : OnlineSync}
    (hg : w.accepts o m → g.record w o.addr ∧ g.online w m) :
    Turns g w (w.manageSessOnlineSync o m) := by
  rcases alloc_cases (w := w) o m.sid m.mac with ⟨hn, hc⟩ | ⟨id, h⟩
  · rw [World.manageSessOnlineSync]
    dsimp only
    rw [hn]
    exact hc.turns
  · have hself : (w.alloc o m.sid m.mac).mem o.addr =
        { sid := id, mac := m.mac, opt := sessionsOpt } := by
      rw [h.mem, Mem.set_same]
    rw [World.manageSessOnlineSync]
    dsimp only
    rw [h.sess]
    dsimp only
    rw [hself, h.tables, h.mem]
    simp only [Mem.set_set]
    have hleft : Turns g w (w.handOut o.addr
        (onlineSyncSess w.now { sid := id, mac := m.mac, opt := sessionsOpt } m)
        (o.addr :: w.tables.cache)) :=
      Unlisted.turns (.record h.record rfl rfl (.inr rfl))
    split
    · exact hleft
    rename_i ht
    split
    · exact hleft
    rename_i hc
    split
    · exact hleft.trans (misc_turns ⟨rfl, rfl, rfl, rfl, rfl, rfl, rfl⟩)
    · rename_i ha
      obtain ⟨hrec, hm⟩ := hg (decide_eq_true ⟨by rw [h.sess]; rfl, ht, hc, ha⟩)
      rw [register_handOut]
      exact (Change.enrol (h.newcomer rfl rfl rfl) (.peer m hm h.range rfl rfl) hrec).turn
        (.enrol (h.newcomer rfl rfl rfl))

theorem padr_turns {mac serverMac : Mac} {room : Bool} (hs : Sound w)
    (hrec : w.admits o mac → g.record w o.addr)
    (hg : ∀ r ∈ w.padrRuns o mac serverMac room, g.run r.w o r.a r.t) :
    Turns g w (w.processPADR o mac serverMac room) := by
  rw [World.padrRuns] at hg
  rw [World.processPADR]
  cases hm : w.byMac mac with
  | some a =>
    simp only [hm] at hg ⊢
    split
    · exact .refl
    · rename_i hno
      rw [if_neg hno] at hg
      exact runOn_turns hs (hs.byMac hm) trivial (hg _ List.mem_cons_self)
  | none =>
    simp only [hm] at hg ⊢
    have hinit : Turns g w (w.manageSessInit o mac serverMac) :=
      manageSessInit_turns hm hrec
    split
    · exact hinit
    · rename_i hno
      rw [if_neg hno] at hg
      have hs' := hinit.sound hs
      exact hinit.trans (runIf_turns hs' (fun _ h => hs'.byMac h) (fun _ => trivial) hg)

/-! ## The other events -/

theorem kernel_turns {m : KernelMsg} (hs : Sound w)
    (hg : ∀ r ∈ w.kernelRuns m, g.run r.w o r.a r.t) : Turns g w (w.kernel o m) := by
  cases m with
  | register sid mac err =>
    rw [World.kernelRuns] at hg
    rw [World.kernel]
    refine runIf_turns hs (fun _ h => hs.bySid h) (fun _ => ?_) hg
    split <;> trivial
  | authorize sid ip err =>
    rw [World.kernelRuns] at hg
    rw [World.kernel]
    refine runIf_turns hs (fun _ h => hs.bySid h) (fun _ => ?_) hg
    split <;> trivial
  | unauthorize sid ip =>
    rw [World.kernelRuns] at hg
    rw [World.kernel]
    split
    · rename_i hserv
      rw [if_pos hserv] at hg
      exact runIf_turns hs (fun _ h => hs.bySid h) (fun _ => trivial) hg
    · exact .refl

theorem radidOf_used {sock : Nat} {d : Datagram} {p : RadPtr} (h : w.radidOf sock d = some p) :
    (w.rad.id p).status = .USED := by
  rw [World.radidOf] at h
  split at h
  · cases h
  split at h
  · cases h
  · rename_i hu
    cases h
    exact not_not.mp hu

theorem store_ctx : w.store a (w.ctx a) = w := by
  have : w.mem.set a (w.mem a) = w.mem := by
    funext x
    by_cases h : x = a <;> simp [Mem.set, h]
  simp [World.store, World.ctx, this]

/-- A reply to a session that is gone at most releases the identifier. -/
theorem stray_effect {p : RadPtr} {d : Datagram} (hs : Sound w) (ha : a ∉ w.tables.sess_list) :
    w.runOn o a (.reply p d) = w ∨ w.runOn o a (.reply p d) = { w with rad := w.rad.free p } := by
  have hst := hs.gone a ha
  rw [World.runOn]
  rcases reply_dead (e := w.env o a) (c := w.ctx a) (p := p) (d := d) hst with h | h <;> rw [h]
  · simp only [World.ctx, Bool.false_eq_true, if_false]
    split
    · exact .inl rfl
    · have hw := store_ctx (w := w) (a := a)
      rw [World.ctx] at hw
      exact .inl hw
  · simp only [World.ctx, Bool.false_eq_true, if_false]
    split
    · exact .inl rfl
    · have hw : w.store a { w.ctx a with rad := w.rad.free p } = { w with rad := w.rad.free p } := by
        conv_rhs => rw [← store_ctx (w := w) (a := a)]
        rfl
      rw [World.ctx] at hw
      exact .inr hw

theorem stray_turns {p : RadPtr} {d : Datagram} (hs : Sound w) (ha : a ∉ w.tables.sess_list)
    (hu : (w.rad.id p).status = .USED) (hp : (w.rad.id p).sess = some a) :
    Turns g w (w.runOn o a (.reply p d)) := by
  rcases stray_effect hs ha with h | h <;> rw [h]
  · exact .refl
  · exact (Change.stray ha hu hp).turn (.same rfl rfl)

theorem radius_turns {sock : Nat} {d : Datagram} (hs : Sound w)
    (hg : ∀ r ∈ w.radiusRuns sock d, g.run r.w o r.a r.t) : Turns g w (w.radiusSock o sock d) := by
  rw [World.radiusRuns] at hg
  rw [World.radiusSock]
  cases hp : w.radidOf sock d with
  | none => exact .refl
  | some p =>
    rw [hp] at hg
    dsimp only at hg ⊢
    cases hsess : (w.rad.id p).sess with
    | none => exact misc_turns ⟨rfl, rfl, rfl, rfl, rfl, rfl, rfl⟩
    | some a =>
      rw [hsess, World.runOf, if_pos rfl] at hg
      by_cases ha : a ∈ w.tables.sess_list
      · exact runOn_turns hs ha ⟨radidOf_used hp, hsess⟩ (hg _ List.mem_cons_self)
      · exact stray_turns hs ha (radidOf_used hp) hsess

theorem coaSession_listed {k : CoaKey} (h : w.coaSession k = some a) : a ∈ w.tables.sess_list := by
  rw [World.coaSession, coaSessionLookup] at h
  split at h
  · cases h
  · exact List.mem_of_find?_eq_some h

theorem coa_turns {d : Datagram} (hs : Sound w) (hg : ∀ r ∈ w.coaRuns d, g.run r.w o r.a r.t) :
    Turns g w (w.coa o d) := by
  rw [World.coaRuns] at hg
  rw [World.coa]
  split
  · exact .refl
  · exact misc_turns ⟨rfl, rfl, rfl, rfl, rfl, rfl, rfl⟩
  · rename_i server k hfrom hkey
    rw [hfrom, hkey] at hg
    dsimp only at hg
    cases hl : w.coaSession k with
    | none => exact misc_turns ⟨rfl, rfl, rfl, rfl, rfl, rfl, rfl⟩
    | some a =>
      rw [hl, World.runOf, if_pos rfl] at hg
      have ha := coaSession_listed hl
      exact (runOn_turns (t := .disconnect) hs ha trivial (hg _ List.mem_cons_self)).trans
        (misc_turns ⟨rfl, rfl, rfl, rfl, rfl, rfl, rfl⟩)

theorem refer_changes {f : Nat → Nat} : Changes g w (w.refer a f) :=
  .single (Change.touch rfl fun h => h.keep rfl rfl)

theorem hold_tables {x : Option Addr} : (w.hold x).tables = w.tables := by
  cases x <;> rfl

theorem hold_changes {x : Option Addr} : Changes g w (w.hold x) := by
  cases x with
  | none => exact .refl
  | some a => exact refer_changes

theorem kickByMac_changes {mac : Mac} (hs : Sound w)
    (hg : ∀ r ∈ (w.hold (w.byMac mac)).runOf (w.byMac mac) (fun _ => true) .kick,
      g.run r.w o r.a r.t) : Changes g w (w.kickByMac o mac) := by
  have hh : Changes g w (w.hold (w.byMac mac)) := hold_changes
  have hfound : ∀ a, w.byMac mac = some a → a ∈ (w.hold (w.byMac mac)).tables.sess_list := by
    intro a h
    rw [hold_tables]
    exact hs.byMac h
  have hrun : Turns g (w.hold (w.byMac mac)) (w.kickByMac o mac) :=
    runIf_turns (hh.sound hs) hfound (fun _ => trivial) hg
  exact hh.trans hrun.changes

theorem stat_turns {sid : Nat} {st : SessionStat} : Turns g w (w.stat sid st) := by
  rw [World.stat]
  split
  · exact .refl
  dsimp only
  split
  · exact .refl
  · exact Change.turn (.touch rfl fun h => h.keep rfl rfl) (.set rfl rfl rfl)

theorem clear_turns (hs : Sound w)
    (hg : ∀ r ∈ (w.clearStart o).sidRuns o .clear w.allSids, g.run r.w o r.a r.t) :
    Turns g w (w.manageSessionsClear o) := by
  have h : Turns g w (w.clearStart o) := misc_turns ⟨rfl, rfl, rfl, rfl, rfl, rfl, rfl⟩
  exact h.trans (runSids_turns (h.sound hs) (fun _ _ => trivial) hg)

theorem clearV2_turns (hs : Sound w)
    (hg : ∀ r ∈ w.clearV2Start.sidRuns o .clearV2 w.allSids, g.run r.w o r.a r.t) :
    Turns g w (w.manageSessionsClearV2 o) := by
  have h : Turns g w w.clearV2Start := misc_turns ⟨rfl, rfl, rfl, rfl, rfl, rfl, rfl⟩
  exact h.trans (runSids_turns (h.sound hs) (fun _ _ => trivial) hg)

theorem sync_turns (hs : Sound w)
    (hg : ∀ r ∈ w.eachRuns o .sync w.tables.sess_list, g.run r.w o r.a r.t) :
    Turns g w (w.manageSessionsSync o) := by
  have h : Turns g w (w.runEach o .sync w.tables.sess_list) :=
    runEach_turns hs (fun _ h => h) (.inl rfl) hg
  rw [World.manageSessionsSync]
  split
  · exact h.trans (misc_turns ⟨rfl, rfl, rfl, rfl, rfl, rfl, rfl⟩)
  · exact h

theorem switch_turns {status : BackupStatus} : Turns g w (w.switch status) := by
  have h : Turns g w { w with prev := w.status, status := status } :=
    misc_turns ⟨rfl, rfl, rfl, rfl, rfl, rfl, rfl⟩
  rw [World.switch]
  split
  · exact h.trans (Change.stop.turn (.same rfl rfl))
  · exact h

/-- What is cleared when the role changes. -/
theorem cleared_turns (hs : Sound w)
    (hg : w.clears → ∀ r ∈ w.clearV2Start.sidRuns o .clearV2 w.allSids, g.run r.w o r.a r.t) :
    Turns g w (if w.clears then w.manageSessionsClearV2 o else w) := by
  split
  · rename_i hc
    exact clearV2_turns hs (hg hc)
  · exact .refl

theorem restart_turns {status : BackupStatus} (hs : Sound w)
    (hg : ∀ r ∈ w.restartRuns o status, g.run r.w o r.a r.t)
    (hst : g.start ((w.switch status).manageRestart o)) : Turns g w (w.restart o status) := by
  have h₁ : Turns g w (w.switch status) := switch_turns
  have hs₁ := h₁.sound hs
  rw [World.restartRuns] at hg
  have h₂ : Turns g w ((w.switch status).manageRestart o) := by
    rw [World.manageRestart]
    have hclear : Turns g (w.switch status) (if (w.switch status).clears then
        (w.switch status).manageSessionsClearV2 o else w.switch status) := by
      refine cleared_turns hs₁ fun hc r hr => hg r (List.mem_append_left _ ?_)
      rw [if_pos hc]
      exact hr
    refine h₁.trans (hclear.trans ?_)
    generalize hw' : (if (w.switch status).clears then (w.switch status).manageSessionsClearV2 o
      else w.switch status) = w' at hg hclear ⊢
    split
    · rename_i hserv
      refine runEach_turns (hclear.sound hs₁) (fun _ h => h) (.inr rfl) fun r hr =>
        hg r (List.mem_append_right _ ?_)
      rw [if_pos hserv]
      exact hr
    · exact .refl
  rw [World.restart]
  split
  · exact h₂.trans ((Change.start hst).turn (.same rfl rfl))
  · exact h₂

/-! ## Events and runs -/

/-- The event takes a reference, or gives one back, and is not done with it when it ends. -/
def World.refers (w : World) : Event → Bool
  | .hold _ | .put _ => true
  | .kickByMac mac => (w.byMac mac).isSome
  | _ => false

theorem step_turns {x : Event × Oracle} (hs : Sound w) (hg : g.Meets w x) (hx : ¬ w.refers x.1) :
    Turns g w (step w x) := by
  rw [step]
  split
  · exact .refl
  rename_i htake
  have htake' : w.takes x.1 := by
    by_contra h
    exact htake (.inr h)
  obtain ⟨hrun, hmore⟩ := hg htake'
  obtain ⟨ev, o⟩ := x
  have hmisc : ∀ {w' : World}, Misc w w' → Turns g w w' := misc_turns
  have hlook : ∀ (i : Nat) (test : Session → Bool) (t : Trigger), (∀ a, w.Names a t) →
      (∀ r ∈ w.runOf (w.bySid i) test t, g.run r.w o r.a r.t) →
      Turns g w (w.runIf o (w.bySid i) test t) :=
    fun _ _ _ hn h => runIf_turns hs (fun _ h => hs.bySid h) hn h
  cases ev with
  | frame sid mac f => exact hlook sid (·.mac = mac) (.frame f) (fun _ => trivial) hrun
  | padr mac serverMac room => exact padr_turns hs hmore hrun
  | padt sid mac => exact hlook sid (·.mac = mac) .padt (fun _ => trivial) hrun
  | timer a t =>
    simp only [World.dispatch, World.runs] at hrun ⊢
    split
    · rename_i h
      rw [if_pos h] at hrun
      exact runOn_turns hs h.1 trivial (hrun _ List.mem_cons_self)
    · exact .refl
  | kernel m => exact kernel_turns hs hrun
  | radius sock d => exact radius_turns hs hrun
  | coa d => exact coa_turns hs hrun
  | kickBySid sid => exact hlook sid (fun _ => true) .kick (fun _ => trivial) hrun
  | kickByMac mac =>
    have hnone : w.byMac mac = none := by simpa [World.refers] using hx
    simp only [World.dispatch, World.kickByMac, hnone]
    exact .refl
  | clear => exact clear_turns hs hrun
  | clearV2 => exact clearV2_turns hs hrun
  | onlineSync m => exact onlineSync_turns hmore
  | offlineSync m => exact hlook m.sid (fun _ => true) .offlineSync (fun _ => trivial) hrun
  | updateSync m => exact hlook m.sid (fun _ => true) (.updateSync m) (fun _ => trivial) hrun
  | sync => exact sync_turns hs hrun
  | syncFinished => exact hmisc ⟨rfl, rfl, rfl, rfl, rfl, rfl, rfl⟩
  | restart status => exact restart_turns hs hrun hmore
  | channel b => exact hmisc ⟨rfl, rfl, rfl, rfl, rfl, rfl, rfl⟩
  | clock n => exact hmisc ⟨rfl, rfl, rfl, rfl, rfl, rfl, rfl⟩
  | stat sid st => exact stat_turns
  | hold sid => exact absurd rfl hx
  | put a => exact absurd rfl hx

theorem step_changes {x : Event × Oracle} (hs : Sound w) (hg : g.Meets w x) :
    Changes g w (step w x) := by
  by_cases hx : w.refers x.1
  · rw [step]
    split
    · exact .refl
    rename_i htake
    have htake' : w.takes x.1 := by
      by_contra h
      exact htake (.inr h)
    obtain ⟨hrun, -⟩ := hg htake'
    obtain ⟨ev, o⟩ := x
    cases ev with
    | kickByMac mac => exact kickByMac_changes hs hrun
    | hold sid => exact hold_changes
    | put a =>
      simp only [World.dispatch]
      split
      · exact refer_changes
      · exact .refl
    | _ => cases hx
  · exact (step_turns hs hg hx).changes

/-- The rule for invariants of the instance: what holds when it is set up and is kept by every change
that passes the guard holds after every run whose events all pass it. -/
theorem runEvents_inv {I : World → Prop} {cfg : Config} {pool : Ippool} {status : BackupStatus}
    {xs : List (Event × Oracle)} (h0 : I (World.init cfg pool status))
    (hI : ∀ w w', Sound w → I w → Change g w w' → I w')
    (ho : Obeys step g.Meets (World.init cfg pool status) xs) :
    Sound (runEvents (World.init cfg pool status) xs) ∧
      I (runEvents (World.init cfg pool status) xs) := by
  refine ho.run_inv (I := fun w => Sound w ∧ I w) ?_ ⟨Sound.init cfg pool status, h0⟩
  intro w x hw hm
  exact (step_changes hw.1 hm).inv hI hw.1 hw.2

end

/-! ## Where the handlers of an event run -/

/-- Every event passes the guard that lets everything happen. -/
theorem meets_all (w : World) (x : Event × Oracle) : Guard.Meets {} w x := by
  refine fun _ => ⟨fun _ _ => trivial, ?_⟩
  obtain ⟨ev, o⟩ := x
  cases ev with
  | padr mac serverMac room => exact fun _ => trivial
  | onlineSync m => exact fun _ => ⟨trivial, trivial⟩
  | _ => trivial

/-- Every instance that is reached is sound. -/
theorem runEvents_sound {cfg : Config} {pool : Ippool} {status : BackupStatus} {xs : List (Event × Oracle)} :
    Sound (runEvents (World.init cfg pool status) xs) :=
  run_inv (fun w x hs => (step_changes hs (meets_all w x)).sound hs) (Sound.init cfg pool status)

section
variable {w : World} {o : Oracle} {a : Addr} {t : Trigger} {r : Run}

theorem runOf_mem {x : Option Addr} {test : Session → Bool} (h : r ∈ w.runOf x test t) :
    ∃ a, x = some a ∧ r = ⟨w, a, t⟩ := by
  cases x with
  | none => cases h
  | some a =>
    rw [World.runOf] at h
    split at h
    · exact ⟨a, rfl, List.mem_singleton.mp h⟩
    · cases h

/-- The handler runs in a sound instance, on a registered session or for a reply. -/
def Run.Sound (r : Run) : Prop :=
  Pppoe.Sound r.w ∧ (r.a ∈ r.w.tables.sess_list ∨ ∃ p d, r.t = .reply p d)

theorem runOf_sound {x : Option Addr} {test : Session → Bool} (hs : Sound w)
    (hx : ∀ a, x = some a → a ∈ w.tables.sess_list) (h : r ∈ w.runOf x test t) : r.Sound := by
  obtain ⟨a, ha, rfl⟩ := runOf_mem h
  exact ⟨hs, .inl (hx a ha)⟩

theorem eachRuns_sound {l : List Addr} (hs : Sound w) (hl : ∀ a ∈ l, a ∈ w.tables.sess_list)
    (ht : t = .sync ∨ t = .wakeup) (h : r ∈ w.eachRuns o t l) : r.Sound := by
  induction l generalizing w with
  | nil => cases h
  | cons a l ih =>
    have ha := hl a List.mem_cons_self
    have hn : w.Names a t := by rcases ht with rfl | rfl <;> trivial
    rcases List.mem_cons.mp h with rfl | h
    · exact ⟨hs, .inl ha⟩
    · refine ih ((runOn_turns (g := {}) hs ha hn trivial).sound hs) (fun b hb => ?_) h
      rw [runOn_stays hs ha ht]
      exact hl b (List.mem_cons_of_mem _ hb)

theorem sidRuns_sound {l : List Nat} (hs : Sound w) (hn : ∀ (w : World) a, w.Names a t)
    (h : r ∈ w.sidRuns o t l) : r.Sound := by
  induction l generalizing w with
  | nil => cases h
  | cons i l ih =>
    rcases List.mem_append.mp h with h | h
    · exact runOf_sound hs (fun _ hi => hs.bySid hi) h
    · have hone : Turns {} w (w.runIf o (w.bySid i) (fun _ => true) t) :=
        runIf_turns hs (fun _ hi => hs.bySid hi) (hn w) fun _ _ => trivial
      exact ih (hone.sound hs) h

theorem padrRuns_sound {mac serverMac : Mac} {room : Bool} (hs : Sound w)
    (h : r ∈ w.padrRuns o mac serverMac room) : r.Sound := by
  rw [World.padrRuns] at h
  cases hm : w.byMac mac with
  | some a =>
    rw [hm] at h
    dsimp only at h
    split at h
    · cases h
    · rw [List.mem_singleton] at h
      exact h ▸ ⟨hs, .inl (hs.byMac hm)⟩
  | none =>
    rw [hm] at h
    dsimp only at h
    have hs' : Sound (w.manageSessInit o mac serverMac) :=
      (manageSessInit_turns (g := {}) hm fun _ => trivial).sound hs
    split at h
    · cases h
    · exact runOf_sound hs' (fun _ hi => hs'.byMac hi) h

theorem restartRuns_sound {status : BackupStatus} (hs : Sound w) (h : r ∈ w.restartRuns o status) :
    r.Sound := by
  have hs₁ : Sound (w.switch status) := (switch_turns (g := {})).sound hs
  have hclear : Turns {} (w.switch status) (if (w.switch status).clears then
      (w.switch status).manageSessionsClearV2 o else w.switch status) := cleared_turns hs₁ fun _ _ _ => trivial
  rw [World.restartRuns] at h
  generalize (if (w.switch status).clears then (w.switch status).manageSessionsClearV2 o
    else w.switch status) = w' at hclear h
  rcases List.mem_append.mp h with h | h
  · split at h
    · have hstart : Turns {} (w.switch status) (w.switch status).clearV2Start :=
        misc_turns ⟨rfl, rfl, rfl, rfl, rfl, rfl, rfl⟩
      exact sidRuns_sound (t := .clearV2) (hstart.sound hs₁) (fun _ _ => trivial) h
    · cases h
  · split at h
    · exact eachRuns_sound (hclear.sound hs₁) (fun _ h => h) (.inr rfl) h
    · cases h

theorem kernelRuns_sound {m : KernelMsg} (hs : Sound w) (h : r ∈ w.kernelRuns m) : r.Sound := by
  cases m <;> rw [World.kernelRuns] at h
  case register => exact runOf_sound hs (fun _ hi => hs.bySid hi) h
  case authorize => exact runOf_sound hs (fun _ hi => hs.bySid hi) h
  case unauthorize =>
    split at h
    · exact runOf_sound hs (fun _ hi => hs.bySid hi) h
    · cases h

/-- Every handler that an event runs begins in a sound instance. -/
theorem runs_sound {x : Event × Oracle} (hs : Sound w) (h : r ∈ w.runs x) : r.Sound := by
  have hlook : ∀ (i : Nat) (test : Session → Bool) (t : Trigger), r ∈ w.runOf (w.bySid i) test t → r.Sound :=
    fun _ _ _ h => runOf_sound hs (fun _ hi => hs.bySid hi) h
  obtain ⟨ev, o⟩ := x
  rw [World.runs] at h
  cases ev with
  | frame sid mac f => exact hlook sid _ _ h
  | padr mac serverMac room => exact padrRuns_sound hs h
  | padt sid mac => exact hlook _ _ _ h
  | timer a t =>
    dsimp only at h
    split at h
    · rw [List.mem_singleton] at h
      exact h ▸ ⟨hs, .inl (by simp_all)⟩
    · cases h
  | kernel m => exact kernelRuns_sound hs h
  | radius sock d =>
    dsimp only [World.radiusRuns] at h
    split at h
    · cases h
    · obtain ⟨a, -, rfl⟩ := runOf_mem h
      exact ⟨hs, .inr ⟨_, _, rfl⟩⟩
  | coa d =>
    dsimp only [World.coaRuns] at h
    split at h
    · exact runOf_sound hs (fun _ hi => coaSession_listed hi) h
    · cases h
  | kickBySid sid => exact hlook _ _ _ h
  | kickByMac mac =>
    refine runOf_sound ((hold_changes (g := {})).sound hs) (fun a ha => ?_) h
    rw [hold_tables]
    exact hs.byMac ha
  | clear =>
    have hstart : Sound (w.clearStart o) := hs.misc ⟨rfl, rfl, rfl, rfl, rfl, rfl, rfl⟩
    exact sidRuns_sound (t := .clear) hstart (fun _ _ => trivial) h
  | clearV2 =>
    have hstart : Sound w.clearV2Start := hs.misc ⟨rfl, rfl, rfl, rfl, rfl, rfl, rfl⟩
    exact sidRuns_sound (t := .clearV2) hstart (fun _ _ => trivial) h
  | offlineSync m => exact hlook _ _ _ h
  | updateSync m => exact hlook _ _ _ h
  | sync => exact eachRuns_sound hs (fun _ h => h) (.inl rfl) h
  | restart status => exact restartRuns_sound hs h
  | onlineSync _ | syncFinished | channel _ | clock _ | stat _ _ | hold _ | put _ => cases h

end

/-! ## A client logs in -/

def sampleCfg : Config :=
  { max_sid := 4
    ipaddr := 0x0a000001
    srv :=
      { auth := { ip := 1, port := 1812, secret := [115] }
        acct := { ip := 1, port := 1813, secret := [115] } } }

def samplePool : Ippool := (ippoolCreate 0x0a010101 0x0a0101fe 0 0).getD {}

def sampleMac : Mac := ⟨2, 0, 0, 0, 0, 1⟩

/-- Nothing fails, and the record 1 is the one that is handed out. -/
def sampleOracle : Oracle :=
  { addr := 1, rand := [7, 1, 2, 3, 4, 5, 6, 7, 8, 9, 10, 11, 12, 13, 14, 15] }

def sampleFrame (bs : Bytes) : Event × Oracle := (.frame 1 sampleMac { bytes := bs }, sampleOracle)

/-- Up to the CHAP Response. -/
def sampleAuth : List (Event × Oracle) :=
  [(.padr sampleMac default true, sampleOracle),
    sampleFrame [0xc0, 0x21, 1, 1, 0, 4],
    sampleFrame [0xc0, 0x21, 2, 1, 0, 9, 3, 5, 0xc2, 0x23, 5],
    sampleFrame ([0xc2, 0x23, 2, 7, 0, 22, 16] ++ List.replicate 16 1 ++ [97])]

/-- Up to the Accounting-Start. -/
def sampleStart : List (Event × Oracle) :=
  sampleAuth ++
    [(.radius 0 ⟨1, 1812, [2, 0, 0, 20, 29, 212, 84, 131, 126, 143, 84, 53, 201, 157, 173, 57, 120,
        184, 153, 48]⟩, sampleOracle),
      sampleFrame [0x80, 0x21, 1, 1, 0, 10, 3, 6, 0, 0, 0, 0],
      sampleFrame [0x80, 0x21, 1, 2, 0, 10, 3, 6, 10, 1, 1, 1],
      sampleFrame [0x80, 0x21, 2, 1, 0, 10, 3, 6, 10, 0, 0, 1],
      (.kernel (.authorize 1 0x0a010101 0), sampleOracle)]

/-- The answer to the Accounting-Start. -/
def sampleStarted : Datagram :=
  ⟨1, 1813, [5, 1, 0, 20, 30, 13, 122, 20, 113, 93, 97, 110, 121, 241, 141, 239, 108, 125, 46, 30]⟩

def sampleLogin : List (Event × Oracle) := sampleStart ++ [(.radius 0 sampleStarted, sampleOracle)]

example : ((runEvents (World.init sampleCfg samplePool .NONE) sampleLogin).mem 1).state = .ONLINE := by
  decide +kernel

end Pppoe
end DaemonGroup
