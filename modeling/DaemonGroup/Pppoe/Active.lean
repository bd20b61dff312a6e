import DaemonGroup.Pppoe.Reports

/-!
# DaemonGroup.Pppoe.Active

The active instance and what its peer will know. `Reported whole R n w` says that a peer which holds
the sessions `R` and takes the messages of `w` from the `n`-th on will then hold no session that is
not online here, and all of them if `whole`. `Reported.step` is kept by every event of an active
instance that is connected, if its handlers pass `tellGuard`: none but that of a Disconnect-Request,
which tells of it, ends a session that is online at once, and no message that tells of a session that
goes online or offline is refused.
-/

namespace DaemonGroup
namespace Pppoe

open Lib

/-- The sessions that are online. -/
def World.online (w : World) : Set SessTuple :=
  {x | ∃ a ∈ w.tables.sess_list, (w.mem a).toLife.online = some x}

/-- The sessions that are online, but for the one at `a`. -/
def World.others (w : World) (a : Addr) : Set SessTuple :=
  {x | ∃ b ∈ w.tables.sess_list, b ≠ a ∧ (w.mem b).toLife.online = some x}

/-- What a peer holds that had the sessions `R` and has taken the messages from the `n`-th on. -/
def World.told (w : World) (R : Set SessTuple) (n : Nat) : Set SessTuple :=
  sessKeys.replay R ((w.queue.drop n).map Sync.note)

/-- A message that tells of a session names it. -/
def Sync.Names : Sync → Prop
  | .SESSONLINE m => m.sid ≠ 0
  | _ => True

structure Reported (whole : Prop) (R : Set SessTuple) (n : Nat) (w : World) : Prop where
  le : n ≤ w.queue.length
  names : ∀ m ∈ w.queue.drop n, m.Names
  follows : Tracks whole (w.told R n) w.online

def tellGuard : Guard where
  run w o a t := ((w.mem a).state = .ONLINE → t.mayEnd (w.mem a) → t = .disconnect) ∧
    (w.channel → t.reports (w.mem a) → (w.env o a).posts)

instance : tellGuard.Checks where
  run w o a t := inferInstanceAs (Decidable (
    ((w.mem a).state = .ONLINE → t.mayEnd (w.mem a) → t = .disconnect) ∧
    (w.channel → t.reports (w.mem a) → (w.env o a).posts)))
  record _ _ := inferInstanceAs (Decidable True)
  online _ _ := inferInstanceAs (Decidable True)
  start _ := inferInstanceAs (Decidable True)

section
variable {w w' : World} {o : Oracle} {a : Addr} {t : Trigger} {whole : Prop} {R : Set SessTuple}
  {n : Nat} {v : View}

/-! ## The role of the instance -/

/-- What only the management of the pair changes. -/
def World.role (w : World) : BackupStatus × Bool := (w.status, w.channel)

theorem runOn_role : (w.runOn o a t).role = w.role := by
  rw [World.runOn]
  split
  · rfl
  split
  · rfl
  split
  · exact sessExit_read World.role
  · rfl

theorem runOn_channel : (w.runOn o a t).channel = w.channel := congrArg Prod.snd runOn_role

theorem runIf_role {x : Option Addr} {test : Session → Bool} : (w.runIf o x test t).role = w.role := by
  cases x with
  | none => rfl
  | some a =>
    rw [World.runIf]
    split
    · exact runOn_role
    · rfl

theorem runSids_role : (w.runSids o t).role = w.role := by
  rw [World.runSids]
  generalize List.range' 1 w.cfg.max_sid = l
  induction l generalizing w with
  | nil => rfl
  | cons i l ih => exact ih.trans runIf_role

theorem runEach_role {l : List Addr} : (w.runEach o t l).role = w.role := by
  rw [World.runEach]
  induction l generalizing w with
  | nil => rfl
  | cons a l ih => exact ih.trans runOn_role

theorem manageSessInit_role {mac serverMac : Mac} :
    (w.manageSessInit o mac serverMac).role = w.role := by
  rw [World.manageSessInit]
  dsimp only
  split
  · rfl
  split
  · rfl
  split <;> rfl

theorem onlineSync_role {m : OnlineSync} : (w.manageSessOnlineSync o m).role = w.role := by
  rw [World.manageSessOnlineSync]
  dsimp only
  split
  · rfl
  split
  · rfl
  split
  · rfl
  split <;> rfl

theorem padr_role {mac serverMac : Mac} {room : Bool} :
    (w.processPADR o mac serverMac room).role = w.role := by
  rw [World.processPADR]
  cases w.byMac mac with
  | some a =>
    dsimp only
    split
    · rfl
    · exact runOn_role
  | none =>
    dsimp only
    split
    · exact manageSessInit_role
    · exact runIf_role.trans manageSessInit_role

theorem step_role {x : Event × Oracle} (hr : ∀ s, x.1 ≠ .restart s) (hc : ∀ b, x.1 ≠ .channel b) :
    (step w x).role = w.role := by
  rw [step]
  split
  · rfl
  obtain ⟨ev, o⟩ := x
  cases ev with
  | frame | padt | kickBySid | offlineSync | updateSync => exact runIf_role
  | padr => exact padr_role
  | timer a t =>
    simp only [World.dispatch]
    split
    · exact runOn_role
    · rfl
  | kernel m =>
    cases m with
    | register | authorize => exact runIf_role
    | unauthorize sid ip =>
      simp only [World.dispatch, World.kernel]
      split
      · exact runIf_role
      · rfl
  | radius sock d =>
    simp only [World.dispatch, World.radiusSock]
    split
    · rfl
    split
    · rfl
    · exact runOn_role
  | coa d =>
    simp only [World.dispatch, World.coa]
    split
    · rfl
    · rfl
    split
    · rfl
    · exact runOn_role
  | kickByMac mac =>
    have hhold : (w.hold (w.byMac mac)).role = w.role := by cases w.byMac mac <;> rfl
    exact runIf_role.trans hhold
  | clear => exact runSids_role
  | clearV2 => exact runSids_role
  | onlineSync => exact onlineSync_role
  | sync =>
    simp only [World.dispatch, World.manageSessionsSync]
    split <;> exact runEach_role
  | syncFinished | clock => rfl
  | restart s => exact absurd rfl (hr s)
  | channel b => exact absurd rfl (hc b)
  | stat sid st =>
    simp only [World.dispatch, World.stat]
    split
    · rfl
    split <;> rfl
  | hold sid =>
    simp only [World.dispatch]
    cases w.bySid sid <;> rfl
  | put a =>
    simp only [World.dispatch]
    split <;> rfl

/-! ## One session among the others -/

theorem online_split (ha : a ∈ w.tables.sess_list) (y : SessTuple) :
    y ∈ w.online ↔ y ∈ w.others a ∨ (w.mem a).toLife.online = some y := by
  constructor
  · rintro ⟨b, hb, hy⟩
    by_cases hba : b = a
    · subst hba
      exact .inr hy
    · exact .inl ⟨b, hb, hba, hy⟩
  · rintro (⟨b, hb, -, hy⟩ | hy)
    · exact ⟨b, hb, hy⟩
    · exact ⟨a, ha, hy⟩

theorem Moves.online (h : Moves w a v w') (ha : a ∈ w.tables.sess_list) (hx : v.exited = false)
    (y : SessTuple) : y ∈ w'.online ↔ y ∈ w.others a ∨ v.online = some y := by
  have hothers : y ∈ w'.others a ↔ y ∈ w.others a := by
    constructor
    · rintro ⟨b, hb, hne, hy⟩
      rw [h.mem b hne] at hy
      exact ⟨b, h.list ▸ hb, hne, hy⟩
    · rintro ⟨b, hb, hne, hy⟩
      refine ⟨b, h.list.symm ▸ hb, hne, ?_⟩
      rw [h.mem b hne]
      exact hy
  rw [online_split (h.list.symm ▸ ha), hothers, h.life, View.online_stays hx]

theorem Leaves.online (h : Leaves w a v w') (hx : v.exited = true) (y : SessTuple) :
    y ∈ w'.online ↔ y ∈ w.others a ∨ v.online = some y := by
  rw [View.online_left hx]
  constructor
  · rintro ⟨b, hb, hy⟩
    obtain ⟨hb, hne⟩ := (h.list b).mp hb
    rw [h.mem b hb hne] at hy
    exact .inl ⟨b, hb, hne, hy⟩
  · rintro (⟨b, hb, hne, hy⟩ | hy)
    · refine ⟨b, (h.list b).mpr ⟨hb, hne⟩, ?_⟩
      rw [h.mem b hb hne]
      exact hy
    · cases hy

/-- The other sessions have other ids and other clients. -/
theorem Listed.others (hl : Listed w) (ha : a ∈ w.tables.sess_list) {y : SessTuple}
    (hy : y ∈ w.others a) : y.sid ≠ (w.mem a).sid ∧ y.mac ≠ (w.mem a).mac := by
  obtain ⟨b, hb, hne, hy⟩ := hy
  obtain ⟨-, rfl⟩ := Life.online_some hy
  constructor
  · intro heq
    have hab := hl.sid b hb
    rw [show (w.mem b).sid = (w.mem a).sid from heq, hl.sid a ha] at hab
    exact hne (Option.some.inj hab).symm
  · exact fun heq => hne (hl.macs b hb a ha heq)

/-! ## Handlers -/

theorem Reported.same (h : Reported whole R n w) (hq : w'.queue = w.queue)
    (ho : ∀ y, y ∈ w'.online ↔ y ∈ w.online) : Reported whole R n w' := by
  refine ⟨hq ▸ h.le, hq ▸ h.names, ?_⟩
  rw [World.told, hq]
  exact h.follows.of_eq ho

/-- More messages are taken after the others. -/
theorem told_append {ms : List Sync} (hn : n ≤ w.queue.length) (hq : w'.queue = w.queue ++ ms) :
    w'.told R n = sessKeys.replay (w.told R n) (ms.map Sync.note) := by
  rw [World.told, hq, List.drop_append_of_le_length hn, List.map_append, Keys.replay_append]
  rfl

/-- More messages have been queued, and the peer will follow. -/
theorem Reported.append {whole' : Prop} {ms : List Sync} (h : Reported whole R n w)
    (hq : w'.queue = w.queue ++ ms) (hn : ∀ m ∈ ms, m.Names)
    (hf : Tracks whole' (sessKeys.replay (w.told R n) (ms.map Sync.note)) w'.online) :
    Reported whole' R n w' := by
  refine ⟨?_, fun m hm => ?_, ?_⟩
  · rw [hq, List.length_append]
    exact Nat.le_add_right_of_le h.le
  · rw [hq, List.drop_append_of_le_length h.le, List.mem_append] at hm
    exact hm.elim (h.names m) (hn m)
  · rw [told_append h.le hq]
    exact hf

theorem Told.names {s : Session} {x : Option SessTuple} {m : Option Sync} {p : Bool}
    (h : Told t s x m) (hs : s.sid ≠ 0) : ∀ y ∈ (if p then m.toList else []), y.Names := by
  intro y hy
  have hy : y ∈ m.toList := by
    cases p with
    | false => cases hy
    | true => exact hy
  cases h with
  | quiet => cases hy
  | update | offline =>
    obtain rfl := List.mem_singleton.mp hy
    exact trivial
  | again _ _ hm | online _ _ _ hm =>
    obtain rfl := List.mem_singleton.mp hy
    rw [Sync.Names, hm.sid]
    exact hs

theorem Listed.sid_ne (hl : Listed w) (ha : a ∈ w.tables.sess_list) : (w.mem a).sid ≠ 0 :=
  Nat.one_le_iff_ne_zero.mp (hl.range a ha).1

theorem Reported.runOn (h : Reported whole R n w) (hs : Sound w) (hl : Listed w)
    (hup : w.channel = true) (ha : a ∈ w.tables.sess_list) (hg : tellGuard.run w o a t)
    (hserves : t.serves) : Reported whole R n (w.runOn o a t) := by
  rcases runOn_effect hs ha o t with heq | heq | ⟨v, hm, hf, hq, hv⟩
  · rw [heq]
    exact h
  · rw [heq]
    exact h.same rfl fun _ => Iff.rfl
  obtain ⟨m, htold, hqueue⟩ := hm.told hf rfl hg.1 hserves
  have hon : ∀ y, y ∈ (w.runOn o a t).online ↔ y ∈ w.others a ∨ v.online = some y := by
    rcases hv with ⟨hx, hmv⟩ | ⟨hx, hlv⟩
    · exact hmv.online ha hx
    · exact hlv.online hx
  have hq' : (w.runOn o a t).queue =
      w.queue ++ if (w.env o a).posts then m.toList else [] := hq.trans hqueue
  exact h.append hq' (htold.names (hl.sid_ne ha))
    (htold.follows (hg.2 hup) (fun y hy => hl.others ha hy) (online_split ha) hon h.follows)

theorem Reported.runIf {x : Option Addr} {test : Session → Bool} (h : Reported whole R n w)
    (hs : Sound w) (hl : Listed w) (hup : w.channel = true)
    (hx : ∀ a, x = some a → a ∈ w.tables.sess_list)
    (hg : ∀ r ∈ w.runOf x test t, tellGuard.run r.w o r.a r.t) (hserves : t.serves) :
    Reported whole R n (w.runIf o x test t) := by
  cases x with
  | none => exact h
  | some a =>
    rw [World.runOf] at hg
    rw [World.runIf]
    split
    · rename_i htest
      rw [if_pos htest] at hg
      exact h.runOn hs hl hup (hx a rfl) (hg _ List.mem_cons_self) hserves
    · exact h

/-! ## Events that leave the sessions that are online alone -/

theorem tuple_refcnt {l : Life} {k : Nat} : ({ l with refcnt := k } : Life).online = l.online := rfl

theorem Kept.online (h : Kept w w') (y : SessTuple) : y ∈ w'.online ↔ y ∈ w.online := by
  have hone : ∀ a ∈ w.tables.sess_list, (w'.mem a).toLife.online = (w.mem a).toLife.online := by
    intro a ha
    rw [h.life a ha, tuple_refcnt]
  constructor
  · rintro ⟨a, ha, hy⟩
    rw [h.list] at ha
    exact ⟨a, ha, hone a ha ▸ hy⟩
  · rintro ⟨a, ha, hy⟩
    refine ⟨a, h.list.symm ▸ ha, ?_⟩
    rw [hone a ha]
    exact hy

theorem Enters.online {s : Session} (h : Enters w a s.entry w') (y : SessTuple) :
    y ∈ w'.online ↔ y ∈ w.online := by
  constructor
  · rintro ⟨b, hb, hy⟩
    rw [h.list, List.mem_append, List.mem_singleton] at hb
    rcases hb with hb | rfl
    · rw [h.mem b hb] at hy
      exact ⟨b, hb, hy⟩
    · rw [h.life] at hy
      cases hy
  · rintro ⟨b, hb, hy⟩
    refine ⟨b, h.list.symm ▸ List.mem_append_left _ hb, ?_⟩
    rw [h.mem b hb]
    exact hy

theorem Unlisted.online (h : Unlisted w o w') (hs : Sound w) (y : SessTuple) :
    y ∈ w'.online ↔ y ∈ w.online := by
  cases h with
  | none => exact Iff.rfl
  | record ha => exact (record_kept hs ha).online y

theorem Unlisted.same (h : Unlisted w o w') : w'.queue = w.queue ∧ w'.channel = w.channel := by
  cases h <;> exact ⟨rfl, rfl⟩

theorem refer_kept {f : Nat → Nat} : Kept w (w.refer a f) := touch_kept rfl

theorem manageSessInit_same {mac serverMac : Mac} (hs : Sound w) (hmac : w.byMac mac = none) :
    (w.manageSessInit o mac serverMac).queue = w.queue ∧
      (w.manageSessInit o mac serverMac).channel = w.channel ∧
      ∀ y, y ∈ (w.manageSessInit o mac serverMac).online ↔ y ∈ w.online := by
  have hcases : Unlisted w o (w.manageSessInit o mac serverMac) ∨ _ := manageSessInit_cases hmac
  rcases hcases with h | ⟨s, out, hnew, -, -, -, heq⟩
  · exact ⟨h.same.1, h.same.2, h.online hs⟩
  · rw [heq]
    exact ⟨rfl, rfl, (hnew.enters hs).online⟩

theorem Listed.changes (hl : Listed w) (hs : Sound w) (h : Changes sidGuard w w') :
    Sound w' ∧ Listed w' :=
  h.inv (fun _ _ hs h hc => listed_change hs h hc) hs hl

theorem Reported.padr {mac serverMac : Mac} {room : Bool} (h : Reported whole R n w) (hs : Sound w)
    (hl : Listed w) (hup : w.channel = true)
    (hg : ∀ r ∈ w.padrRuns o mac serverMac room, tellGuard.run r.w o r.a r.t) :
    Reported whole R n (w.processPADR o mac serverMac room) := by
  rw [World.padrRuns] at hg
  rw [World.processPADR]
  cases hm : w.byMac mac with
  | some a =>
    simp only [hm] at hg ⊢
    split
    · exact h
    · rename_i hno
      rw [if_neg hno] at hg
      exact h.runOn hs hl hup (hs.byMac hm) (hg _ List.mem_cons_self) rfl
  | none =>
    simp only [hm] at hg ⊢
    have hinit : Turns sidGuard w (w.manageSessInit o mac serverMac) :=
      manageSessInit_turns hm fun _ => trivial
    obtain ⟨hs', hl'⟩ := hl.changes hs hinit.changes
    have hsame : (w.manageSessInit o mac serverMac).queue = w.queue ∧ _ := manageSessInit_same hs hm
    obtain ⟨hq, hch, hon⟩ := hsame
    have h' := h.same hq hon
    split
    · exact h'
    · rename_i hno
      rw [if_neg hno] at hg
      exact h'.runIf hs' hl' (hch.trans hup) (fun _ h => hs'.byMac h) hg rfl

theorem Reported.kernel {m : KernelMsg} (h : Reported whole R n w) (hs : Sound w) (hl : Listed w)
    (hup : w.channel = true) (hact : w.status = .ACTIVE)
    (hg : ∀ r ∈ w.kernelRuns m, tellGuard.run r.w o r.a r.t) :
    Reported whole R n (w.kernel o m) := by
  have hserv : w.status.serving = true := by rw [hact]; rfl
  cases m with
  | register sid mac err =>
    rw [World.kernelRuns, if_pos hserv] at hg
    rw [World.kernel, if_pos hserv]
    exact h.runIf hs hl hup (fun _ h => hs.bySid h) hg rfl
  | authorize sid ip err =>
    rw [World.kernelRuns, if_pos hserv] at hg
    rw [World.kernel, if_pos hserv]
    exact h.runIf hs hl hup (fun _ h => hs.bySid h) hg rfl
  | unauthorize sid ip =>
    rw [World.kernelRuns, if_pos hserv] at hg
    rw [World.kernel, if_pos hserv]
    exact h.runIf hs hl hup (fun _ h => hs.bySid h) hg rfl

theorem Reported.radius {sock : Nat} {d : Datagram} (h : Reported whole R n w) (hs : Sound w)
    (hl : Listed w) (hup : w.channel = true)
    (hg : ∀ r ∈ w.radiusRuns sock d, tellGuard.run r.w o r.a r.t) :
    Reported whole R n (w.radiusSock o sock d) := by
  rw [World.radiusRuns] at hg
  rw [World.radiusSock]
  cases hp : w.radidOf sock d with
  | none => exact h
  | some p =>
    rw [hp] at hg
    dsimp only at hg ⊢
    cases hsess : (w.rad.id p).sess with
    | none => exact h.same rfl fun _ => Iff.rfl
    | some a =>
      rw [hsess, World.runOf, if_pos rfl] at hg
      by_cases ha : a ∈ w.tables.sess_list
      · exact h.runOn hs hl hup ha (hg _ List.mem_cons_self) rfl
      · dsimp only
        rcases stray_effect (o := o) (p := p) (d := d) hs ha with heq | heq <;> rw [heq]
        · exact h
        · exact h.same rfl fun _ => Iff.rfl

theorem Reported.coa {d : Datagram} (h : Reported whole R n w) (hs : Sound w) (hl : Listed w)
    (hup : w.channel = true) (hg : ∀ r ∈ w.coaRuns d, tellGuard.run r.w o r.a r.t) :
    Reported whole R n (w.coa o d) := by
  rw [World.coaRuns] at hg
  rw [World.coa]
  split
  · exact h
  · exact h.same rfl fun _ => Iff.rfl
  · rename_i server k hfrom hkey
    rw [hfrom, hkey] at hg
    dsimp only at hg
    cases hlook : w.coaSession k with
    | none => exact h.same rfl fun _ => Iff.rfl
    | some a =>
      rw [hlook, World.runOf, if_pos rfl] at hg
      have hrun := h.runOn hs hl hup (coaSession_listed hlook) (hg _ List.mem_cons_self) rfl
      exact hrun.same rfl fun _ => Iff.rfl

theorem Reported.kickByMac {mac : Mac} (h : Reported whole R n w) (hs : Sound w) (hl : Listed w)
    (hup : w.channel = true)
    (hg : ∀ r ∈ (w.hold (w.byMac mac)).runOf (w.byMac mac) (fun _ => true) .kick,
      tellGuard.run r.w o r.a r.t) : Reported whole R n (w.kickByMac o mac) := by
  obtain ⟨hs', hl'⟩ := hl.changes hs (hold_changes (x := w.byMac mac))
  rw [World.kickByMac]
  cases hm : w.byMac mac with
  | none => exact h
  | some a =>
    rw [hm] at hg hs' hl'
    have h' : Reported whole R n (w.hold (some a)) := h.same rfl refer_kept.online
    refine h'.runIf hs' hl' hup (fun b hb => ?_) hg rfl
    cases hb
    exact hs.byMac hm

/-! ## Clearing -/

/-- The session at `a` is taken out, and nothing is told. -/
structure Ended (w : World) (a : Addr) (w' : World) : Prop where
  list : ∀ b, b ∈ w'.tables.sess_list ↔ b ∈ w.tables.sess_list ∧ b ≠ a
  mem : ∀ b ∈ w.tables.sess_list, b ≠ a → w'.mem b = w.mem b
  queue : w'.queue = w.queue
  fault : w'.fault = false

theorem runOn_ended (hs : Sound w) (hf : w.fault = false)
    (hend : wp (handle (w.env o a) t)
      (fun _ c => c.exited = true ∧ c.fault = false ∧ c.queue = w.queue) (w.ctx a)) :
    Ended w a (w.runOn o a t) := by
  obtain ⟨hx, hft, hq⟩ := hend
  have hw : w.runOn o a t = (w.store a (handle (w.env o a) t (w.ctx a)).2).sessExit a := by
    simp only [World.runOn, hf, hft, hx, Bool.false_eq_true, if_false, if_true]
  have hleaves := exit_leaves (a := a) (c := (handle (w.env o a) t (w.ctx a)).2) hs
  rw [hw]
  exact ⟨hleaves.list, hleaves.mem, sessExit_queue.trans hq, (sessExit_read World.fault).trans hf⟩

theorem clear_ended (hs : Sound w) (hf : w.fault = false) (ha : a ∈ w.tables.sess_list) :
    Ended w a (w.runOn o a .clear) := by
  have hend : wp (clearSess (w.env o a))
      (fun _ c => c.exited = true ∧ c.fault = false ∧ c.queue = w.queue) (w.ctx a) := by
    refine clear_wp (hs.fit a ha) (fun v st _ ha c hv _ => ?_) fun st _ c hv _ => ?_
    · have hframe := ha.elim AskedOnce.frame AskFailed.frame
      exact ⟨congrArg View.exited hv, (congrArg View.fault hv).trans hframe.fault,
        (congrArg View.queue hv).trans hframe.queue⟩
    · exact ⟨congrArg View.exited hv, congrArg View.fault hv, congrArg View.queue hv⟩
  exact runOn_ended hs hf hend

theorem clearV2_ended (hs : Sound w) (hf : w.fault = false) : Ended w a (w.runOn o a .clearV2) :=
  runOn_ended hs hf ⟨rfl, rfl, rfl⟩

/-- What is left when the sessions with the ids of a list have been ended. -/
structure Cleared (w : World) (l : List Nat) (w' : World) : Prop where
  sound : Sound w'
  listed : Listed w'
  list : ∀ b, b ∈ w'.tables.sess_list ↔ b ∈ w.tables.sess_list ∧ (w.mem b).sid ∉ l
  mem : ∀ b ∈ w'.tables.sess_list, w'.mem b = w.mem b
  queue : w'.queue = w.queue
  fault : w'.fault = false

theorem Listed.bySid (hl : Listed w) {b : Addr} (hb : b ∈ w.tables.sess_list) :
    w.bySid (w.mem b).sid = some b := by
  rw [World.bySid, _sessionGetBySid, if_neg (Nat.not_lt.mpr (hl.range b hb).2)]
  exact hl.sid b hb

/-- One id: the session that has it is ended, if there is one. -/
theorem runIf_cleared {i : Nat} (hs : Sound w) (hl : Listed w) (hf : w.fault = false)
    (hn : ∀ a, w.Names a t)
    (hend : ∀ a ∈ w.tables.sess_list, Ended w a (w.runOn o a t)) :
    Cleared w [i] (w.runIf o (w.bySid i) (fun _ => true) t) := by
  have hturn : Turns sidGuard w (w.runIf o (w.bySid i) (fun _ => true) t) :=
    runIf_turns hs (fun _ h => hs.bySid h) hn fun _ _ => trivial
  obtain ⟨hs', hl'⟩ := hl.changes hs hturn.changes
  cases hi : w.bySid i with
  | none =>
    rw [hi] at hs' hl'
    refine ⟨hs', hl', fun b => ⟨fun hb => ⟨hb, ?_⟩, fun h => h.1⟩, fun _ _ => rfl, rfl, hf⟩
    rw [List.mem_singleton]
    rintro rfl
    rw [hl.bySid hb] at hi
    cases hi
  | some a =>
    rw [hi] at hs' hl'
    have ha := hs.bySid hi
    have he := hend a ha
    have hsid : ∀ b ∈ w.tables.sess_list, b ≠ a ↔ (w.mem b).sid ∉ [i] := by
      intro b hb
      rw [List.mem_singleton, not_iff_not]
      constructor
      · rintro rfl
        rw [World.bySid, _sessionGetBySid] at hi
        split at hi
        · cases hi
        · exact (hs.sid i b hi).2
      · rintro rfl
        exact Option.some.inj ((hl.bySid hb).symm.trans hi)
    refine ⟨hs', hl', fun b => ?_, fun b hb => ?_, he.queue, he.fault⟩
    · rw [show w.runIf o (some a) (fun _ => true) t = w.runOn o a t from rfl, he.list]
      exact and_congr_right fun hb => hsid b hb
    · obtain ⟨hb, hne⟩ := (he.list b).mp hb
      exact he.mem b hb hne

theorem runSids_cleared {l : List Nat} (hs : Sound w) (hl : Listed w) (hf : w.fault = false)
    (hn : ∀ (w : World) a, w.Names a t)
    (hend : ∀ w a, Sound w → w.fault = false → a ∈ w.tables.sess_list →
      Ended w a (w.runOn o a t)) :
    Cleared w l (l.foldl (fun w i => w.runIf o (w.bySid i) (fun _ => true) t) w) := by
  induction l generalizing w with
  | nil => exact ⟨hs, hl, fun b => by simp, fun _ _ => rfl, rfl, hf⟩
  | cons i l ih =>
    have hone := runIf_cleared (i := i) hs hl hf (hn w) fun a ha => hend w a hs hf ha
    have hrest := ih hone.sound hone.listed hone.fault
    refine ⟨hrest.sound, hrest.listed, fun b => ?_, fun b hb => ?_, hrest.queue.trans hone.queue,
      hrest.fault⟩
    · rw [List.foldl_cons, hrest.list, hone.list]
      simp only [List.mem_cons, List.not_mem_nil, or_false, not_or, and_assoc]
      refine and_congr_right fun hb => and_congr_right fun hne => ?_
      rw [hone.mem b ((hone.list b).mpr ⟨hb, by rwa [List.mem_singleton]⟩)]
    · rw [List.foldl_cons] at hb ⊢
      rw [hrest.mem b hb]
      exact hone.mem b ((hrest.list b).mp hb).1

/-- No session is left when all ids have been gone through. -/
theorem Cleared.empty (h : Cleared w w.allSids w') (hl : Listed w) : w'.tables.sess_list = [] := by
  refine List.eq_nil_iff_forall_not_mem.mpr fun b hb => ?_
  obtain ⟨hb, hno⟩ := (h.list b).mp hb
  have hrange := hl.range b hb
  refine hno ?_
  rw [World.allSids, List.mem_range'_1]
  omega

theorem Reported.clear (h : Reported whole R n w) (hs : Sound w) (hl : Listed w)
    (hf : w.fault = false) (hup : w.channel = true) (hact : w.status = .ACTIVE)
    (ho : o.syncFails = false) : Reported whole R n (w.manageSessionsClear o) := by
  have hstart : (w.clearStart o).queue = w.queue ++ [.SESSCLEAR] := by
    simp [World.clearStart, hup, hact, ho]
  have hmisc : Turns sidGuard w (w.clearStart o) := misc_turns ⟨rfl, rfl, rfl, rfl, rfl, rfl, rfl⟩
  obtain ⟨hs', hl'⟩ := hl.changes hs hmisc.changes
  have hc : Cleared (w.clearStart o) w.allSids (w.manageSessionsClear o) :=
    runSids_cleared hs' hl' hf (fun _ _ => trivial) fun _ _ hs hf ha => clear_ended hs hf ha
  have hnone : ∀ y, y ∉ (w.manageSessionsClear o).online := by
    rintro y ⟨b, hb, -⟩
    rw [hc.empty hl'] at hb
    cases hb
  refine h.append (hc.queue.trans hstart) (fun m hm => ?_) (Tracks.clear hnone)
  obtain rfl := List.mem_singleton.mp hm
  exact trivial

/-! ## The sessions told all at once -/

/-- The online session is told again, and nothing else happens. -/
theorem runOn_sync (hs : Sound w) (hf : w.fault = false) (ha : a ∈ w.tables.sess_list) :
    (w.runOn o a .sync).fault = false ∧ (w.runOn o a .sync).tables = w.tables ∧
      (∀ b, ((w.runOn o a .sync).mem b).toLife = (w.mem b).toLife) ∧
      ((w.mem a).state ≠ .ONLINE → (w.runOn o a .sync).queue = w.queue) ∧
      ((w.mem a).state = .ONLINE → (w.env o a).posts → ∃ m, Tells m (w.mem a).toLife ∧
        (w.runOn o a .sync).queue = w.queue ++ [.SESSONLINE m]) := by
  have hwp : wp (syncSess (w.env o a)) (fun _ c => c.exited = false ∧ c.fault = false ∧
      c.sess.toLife = (w.mem a).toLife ∧ ((w.mem a).state ≠ .ONLINE → c.queue = w.queue) ∧
      ((w.mem a).state = .ONLINE → (w.env o a).posts → ∃ m, Tells m (w.mem a).toLife ∧
        c.queue = w.queue ++ [.SESSONLINE m])) (w.ctx a) := by
    refine syncSess_wp (hs.fit a ha) (fun _ m hst hm c hv _ => ?_) fun hst =>
      ⟨rfl, rfl, rfl, fun _ => rfl, fun h => absurd h hst⟩
    refine ⟨congrArg View.exited hv, congrArg View.fault hv, congrArg View.life hv,
      fun h => absurd hst h, fun _ hp => ⟨m, hm, ?_⟩⟩
    have hq := (congrArg View.queue hv).trans post_queue
    rwa [if_pos hp] at hq
  obtain ⟨hx, hft, hlife, hq⟩ := hwp
  have hw : w.runOn o a .sync = w.store a (syncSess (w.env o a) (w.ctx a)).2 := by
    have hx' : (handle (w.env o a) .sync (w.ctx a)).2.exited = false := hx
    have hft' : (handle (w.env o a) .sync (w.ctx a)).2.fault = false := hft
    simp only [World.runOn, hf, hft', hx', Bool.false_eq_true, if_false]
    rfl
  rw [hw]
  refine ⟨hf, rfl, fun b => ?_, hq⟩
  by_cases hb : b = a
  · subst hb
    have hself : (w.store b (syncSess (w.env o b) (w.ctx b)).2).mem b =
        (syncSess (w.env o b) (w.ctx b)).2.sess := Mem.set_same
    rw [hself]
    exact hlife
  · exact congrArg Session.toLife (Mem.set_other hb)

/-- An online session has its keys to itself. -/
theorem Listed.unique (hl : Listed w) (ha : a ∈ w.tables.sess_list) :
    sessKeys.Unique w.online (w.mem a).toLife.tuple := by
  intro y hy hk
  rcases (online_split ha y).mp hy with hy | hy
  · exact absurd hk (not_or.mpr (hl.others ha hy))
  · exact (Life.online_some hy).2

/-- Telling of one session: the peer knows it then, and forgets nothing. -/
theorem Reported.sync_one (h : Reported whole R n w) (hs : Sound w) (hl : Listed w)
    (hf : w.fault = false) (hup : w.channel = true) (ha : a ∈ w.tables.sess_list)
    (hg : tellGuard.run w o a .sync) :
    Reported whole R n (w.runOn o a .sync) ∧ w.told R n ⊆ (w.runOn o a .sync).told R n ∧
      ∀ y, (w.mem a).toLife.online = some y → y ∈ (w.runOn o a .sync).told R n := by
  obtain ⟨-, htables, hlife, hoff, hon⟩ := runOn_sync (o := o) hs hf ha
  have hsame : ∀ y, y ∈ (w.runOn o a .sync).online ↔ y ∈ w.online := by
    intro y
    simp only [World.online, htables, hlife]
  by_cases hst : (w.mem a).state = .ONLINE
  · have hpost := hg.2 hup (by simp [Trigger.reports, hst])
    obtain ⟨m, hm, hq⟩ := hon hst hpost
    have htuple : SessTuple.mk m.sid m.mac m.ipaddr.ip .ONLINE = (w.mem a).toLife.tuple := by
      rw [hm.sid, hm.mac, hm.ipaddr, Life.tuple, hst]
    have htold : (w.runOn o a .sync).told R n =
        sessKeys.apply (w.told R n) (.add (w.mem a).toLife.tuple) := by
      rw [told_append h.le hq, ← htuple]
      rfl
    have hx : (w.mem a).toLife.tuple ∈ w.online := ⟨a, ha, if_pos hst⟩
    obtain ⟨hfol, hin⟩ := h.follows.again (hl.unique ha) hx
    rw [htold]
    refine ⟨h.append hq (fun x hx => ?_) ?_, fun y hy => .inl hy, fun y hy => ?_⟩
    · obtain rfl := List.mem_singleton.mp hx
      rw [Sync.Names, hm.sid]
      exact hl.sid_ne ha
    · rw [← told_append h.le hq, htold]
      exact hfol.of_eq hsame
    · rw [(Life.online_some hy).2]
      exact hin
  · have hq := hoff hst
    refine ⟨h.same hq hsame, ?_, fun y hy => absurd (Life.online_some hy).1 hst⟩
    rw [World.told, World.told, hq]

theorem Reported.sync_each {l : List Addr} (h : Reported whole R n w) (hs : Sound w) (hl : Listed w)
    (hf : w.fault = false) (hup : w.channel = true) (hmem : ∀ a ∈ l, a ∈ w.tables.sess_list)
    (hg : ∀ r ∈ w.eachRuns o .sync l, tellGuard.run r.w o r.a r.t) :
    Reported whole R n (w.runEach o .sync l) ∧ w.told R n ⊆ (w.runEach o .sync l).told R n ∧
      (∀ y, y ∈ (w.runEach o .sync l).online ↔ y ∈ w.online) ∧
      ∀ a ∈ l, ∀ y, (w.mem a).toLife.online = some y → y ∈ (w.runEach o .sync l).told R n := by
  induction l generalizing w with
  | nil => exact ⟨h, Set.Subset.refl _, fun _ => Iff.rfl, fun a ha => absurd ha List.not_mem_nil⟩
  | cons a l ih =>
    rw [World.eachRuns] at hg
    have ha := hmem a List.mem_cons_self
    obtain ⟨h₁, hgrow, hknown⟩ := h.sync_one (o := o) hs hl hf hup ha (hg _ List.mem_cons_self)
    obtain ⟨hf₁, htables, hlife, -, -⟩ := runOn_sync (o := o) hs hf ha
    have hturn : Turns sidGuard w (w.runOn o a .sync) := runOn_turns hs ha trivial trivial
    obtain ⟨hs₁, hl₁⟩ := hl.changes hs hturn.changes
    have hmem₁ : ∀ b ∈ l, b ∈ (w.runOn o a .sync).tables.sess_list := by
      intro b hb
      rw [htables]
      exact hmem b (List.mem_cons_of_mem _ hb)
    have hup₁ : (w.runOn o a .sync).channel = true := by rw [runOn_channel, hup]
    obtain ⟨h₂, hgrow₂, hon₂, hall₂⟩ := ih h₁ hs₁ hl₁ hf₁ hup₁ hmem₁
      fun r hr => hg r (List.mem_cons_of_mem _ hr)
    refine ⟨h₂, fun y hy => hgrow₂ (hgrow hy), fun y => (hon₂ y).trans ?_, fun b hb y hy => ?_⟩
    · simp only [World.online, htables, hlife]
    · rcases List.mem_cons.mp hb with rfl | hb
      · exact hgrow₂ (hknown y hy)
      · exact hall₂ b hb y (by rw [hlife]; exact hy)

/-- All sessions told: the peer will hold them all. -/
theorem Reported.sync (h : Reported whole R n w) (hs : Sound w) (hl : Listed w) (hf : w.fault = false)
    (hup : w.channel = true)
    (hg : ∀ r ∈ w.eachRuns o .sync w.tables.sess_list, tellGuard.run r.w o r.a r.t) :
    Reported True R n (w.manageSessionsSync o) := by
  obtain ⟨h₁, -, hon, hall⟩ := h.sync_each hs hl hf hup (fun _ h => h) hg
  have hwhole : Reported True R n (w.runEach o .sync w.tables.sess_list) := by
    refine ⟨h₁.le, h₁.names, h₁.follows.mono fun _ y hy => ?_⟩
    obtain ⟨a, ha, hy⟩ := (hon y).mp hy
    exact hall a ha y hy
  rw [World.manageSessionsSync]
  split
  · refine hwhole.append rfl (fun m hm => ?_) hwhole.follows
    obtain rfl := List.mem_singleton.mp hm
    exact trivial
  · exact hwhole

/-! ## Events -/

/-- The events of an active instance, but for the request of its peer to tell of all sessions. -/
def Event.serves : Event → Bool
  | .frame .. | .padr .. | .padt .. | .timer .. | .kernel _ | .radius .. | .coa _ | .kickBySid _
  | .kickByMac _ | .clear | .clock _ | .stat .. | .hold _ | .put _ => true
  | .clearV2 | .onlineSync _ | .offlineSync _ | .updateSync _ | .sync | .syncFinished | .restart _
  | .channel _ => false

/-- The handlers of the event pass the guard, and a message that all sessions are cleared is not
refused. -/
def World.Tells (w : World) (x : Event × Oracle) : Prop :=
  tellGuard.Meets w x ∧ (x.1 = .clear → w.channel → ¬ x.2.syncFails)

instance (w : World) (x : Event × Oracle) : Decidable (w.Tells x) :=
  inferInstanceAs (Decidable (tellGuard.Meets w x ∧ (x.1 = .clear → w.channel → ¬ x.2.syncFails)))

theorem stat_kept {sid : Nat} {st : SessionStat} : Kept w (w.stat sid st) := by
  have hrefl : Kept w w := Misc.kept ⟨rfl, rfl, rfl, rfl, rfl, rfl, rfl⟩
  rw [World.stat]
  split
  · exact hrefl
  dsimp only
  split
  · exact hrefl
  · exact touch_kept rfl

theorem stat_queue {sid : Nat} {st : SessionStat} : (w.stat sid st).queue = w.queue := by
  rw [World.stat]
  split
  · rfl
  dsimp only
  split <;> rfl

theorem Reported.step {x : Event × Oracle} (h : Reported whole R n w) (hs : Sound w) (hl : Listed w)
    (hact : w.status = .ACTIVE) (hup : w.channel = true) (hx : x.1.serves) (hg : w.Tells x) :
    Reported whole R n (step w x) := by
  rw [Pppoe.step]
  split
  · exact h
  rename_i htake
  obtain ⟨hf, htake⟩ := not_or.mp htake
  obtain ⟨⟨hrun, -⟩, hclear⟩ := And.imp_left (fun hm => hm (not_not.mp htake)) hg
  obtain ⟨ev, o⟩ := x
  have hlook : ∀ (i : Nat) (test : Session → Bool) (t : Trigger), t.serves →
      (∀ r ∈ w.runOf (w.bySid i) test t, tellGuard.run r.w o r.a r.t) →
      Reported whole R n (w.runIf o (w.bySid i) test t) :=
    fun _ _ _ ht hg => h.runIf hs hl hup (fun _ h => hs.bySid h) hg ht
  cases ev with
  | frame sid mac f => exact hlook sid (·.mac = mac) (.frame f) rfl hrun
  | padr mac serverMac room => exact h.padr hs hl hup hrun
  | padt sid mac => exact hlook sid (·.mac = mac) .padt rfl hrun
  | timer a t =>
    simp only [World.dispatch, World.runs] at hrun ⊢
    split
    · rename_i hin
      rw [if_pos hin] at hrun
      exact h.runOn hs hl hup hin.1 (hrun _ List.mem_cons_self) rfl
    · exact h
  | kernel m => exact h.kernel hs hl hup hact hrun
  | radius sock d => exact h.radius hs hl hup hrun
  | coa d => exact h.coa hs hl hup hrun
  | kickBySid sid => exact hlook sid (fun _ => true) .kick rfl hrun
  | kickByMac mac => exact h.kickByMac hs hl hup hrun
  | clear =>
    exact h.clear hs hl (by simpa using hf) hup hact (by simpa using hclear rfl hup)
  | clock k => exact h.same rfl fun _ => Iff.rfl
  | stat sid st => exact h.same stat_queue stat_kept.online
  | hold sid =>
    simp only [World.dispatch]
    cases w.bySid sid with
    | none => exact h
    | some a => exact h.same rfl refer_kept.online
  | put a =>
    simp only [World.dispatch]
    split
    · exact h.same rfl refer_kept.online
    · exact h
  | clearV2 | onlineSync | offlineSync | updateSync | sync | syncFinished | restart | channel =>
    cases hx

end

end Pppoe
end DaemonGroup
