import DaemonGroup.Pppoe.Standby

/-!
# DaemonGroup.Pppoe.Agreement

The active instance, its standby and the channel between them. The standby clears its sessions when
the channel comes up and asks for all of the active's; from then on it takes the messages of the
active in order, and the kernel answers its requests in order. Whatever else happens in between,
once nothing is on its way the two agree (`ha_agreement`).
-/

namespace DaemonGroup
namespace Pppoe

open Lib

/-- The pair: how many messages of the active were taken or got lost with a channel, how many
requests of the standby its kernel has answered since the channel is up, and whether the request for
all sessions is on its way. -/
structure Ha where
  active : World
  standby : World
  taken : Nat := 0
  answered : Nat := 0
  asked : Bool := false

inductive HaAct where
  | active (e : Event) (o : Oracle)
  | standby (e : Event) (o : Oracle)
  | deliver (o : Oracle)
  | answer (err : Int) (o : Oracle)
  | connect (o : Oracle)
  | request (o : Oracle)
  | disconnect

/-- The channel comes up (`backup_connect_event`): the standby clears its sessions and sends its
request. -/
def Ha.connect (h : Ha) (o : Oracle) : Ha :=
  let standby := step (step h.standby (.channel true, o)) (.clearV2, o)
  { active := step h.active (.channel true, o)
    standby := standby
    taken := h.active.queue.length
    answered := standby.out.length
    asked := true }

/-- The channel goes down: what was on its way is lost. -/
def Ha.disconnect (h : Ha) : Ha :=
  { active := step h.active (.channel false, {})
    standby := step h.standby (.channel false, {})
    taken := h.active.queue.length
    answered := h.answered
    asked := false }

/-- The message that the standby takes next. -/
def Ha.next (h : Ha) : Option Sync := if h.active.channel then h.active.queue[h.taken]? else none

/-- The next answer of the standby's kernel. -/
def Ha.reply (h : Ha) (err : Int) : Option KernelMsg :=
  h.standby.out[h.answered]?.bind fun p => p.answer err

def Ha.crashed (h : Ha) : Bool := h.active.fault ∨ h.standby.fault

def Ha.step (h : Ha) : HaAct → Ha
  | .active e o => if e.serves then { h with active := Pppoe.step h.active (e, o) } else h
  | .standby e o => if e.stands then { h with standby := Pppoe.step h.standby (e, o) } else h
  | .deliver o =>
    match h.next with
    | none => h
    | some m =>
      if h.standby.fault then h
      else { h with standby := Pppoe.step h.standby (m.event, o), taken := h.taken + 1 }
  | .answer err o =>
    if h.standby.fault ∨ h.standby.out.length ≤ h.answered then h
    else
      match h.reply err with
      | none => { h with answered := h.answered + 1 }
      | some m =>
        { h with standby := Pppoe.step h.standby (.kernel m, o), answered := h.answered + 1 }
  | .connect o => if h.crashed ∨ h.active.channel then h else h.connect o
  | .request o =>
    if h.asked ∧ ¬ h.active.fault then
      { h with active := Pppoe.step h.active (.sync, o), asked := false }
    else h
  | .disconnect => if h.active.fault then h else h.disconnect

/-- While the channel is up, no handler of the active ends an online session at once and no message
that the active has to send is refused; the standby has room for the sessions it is told of, and its
own handlers end none. -/
def Ha.Meets (h : Ha) (x : HaAct) : Prop :=
  h.active.channel →
    match x with
    | .active e o => h.active.Tells (e, o)
    | .standby e o => standGuard.Meets h.standby (e, o)
    | .deliver o => ∀ m ∈ h.next, h.standby.Room o m
    | .answer err o => ∀ m ∈ h.reply err, standGuard.Meets h.standby (.kernel m, o)
    | .request o => tellGuard.Meets h.active (.sync, o)
    | .connect _ | .disconnect => True

instance (h : Ha) (x : HaAct) : Decidable (h.Meets x) :=
  match x with
  | .active e o => inferInstanceAs (Decidable (h.active.channel → h.active.Tells (e, o)))
  | .standby e o => inferInstanceAs (Decidable (h.active.channel → standGuard.Meets h.standby (e, o)))
  | .deliver o => inferInstanceAs (Decidable (h.active.channel → ∀ m ∈ h.next, h.standby.Room o m))
  | .answer err o => inferInstanceAs (Decidable (h.active.channel →
      ∀ m ∈ h.reply err, standGuard.Meets h.standby (.kernel m, o)))
  | .request o =>
    inferInstanceAs (Decidable (h.active.channel → tellGuard.Meets h.active (.sync, o)))
  | .connect _ | .disconnect => inferInstanceAs (Decidable (h.active.channel → True))

/-- The id, the client, the address and the state of each session. -/
def World.tuples (w : World) : Set SessTuple :=
  {x | ∃ a ∈ w.tables.sess_list, x = (w.mem a).toLife.tuple}

/-- Nothing is on its way: the standby has been told of all sessions, has taken every message, and
its kernel has answered every request. -/
def Ha.Quiescent (h : Ha) : Prop :=
  h.active.channel ∧ ¬ h.asked ∧ h.taken = h.active.queue.length ∧
    h.answered = h.standby.out.length

instance (h : Ha) : Decidable h.Quiescent :=
  inferInstanceAs (Decidable (_ ∧ _ ∧ _ ∧ _))

def Ha.Agree (h : Ha) : Prop :=
  h.Quiescent → h.standby.tuples = {x | x ∈ h.active.tuples ∧ x.state = .ONLINE}

/-- Two instances in their roles, with no channel between them yet. -/
structure Ha.Ready (h : Ha) : Prop where
  active : h.active.status = .ACTIVE
  standby : h.standby.status = .STANDBY
  down : h.active.channel = false
  asked : h.asked = false

/-- What the active is, whatever the channel does. -/
structure Ha.Inv (h : Ha) : Prop where
  sound : Sound h.active
  listed : Listed h.active
  active : h.active.status = .ACTIVE
  standbySound : Sound h.standby
  standbyListed : Listed h.standby
  standby : h.standby.status = .STANDBY
  asked : h.asked → h.active.channel
  follows : h.active.channel → ∃ S, Shadowed S h.answered h.standby ∧
    Reported (h.asked = false) S h.taken h.active

section
variable {h : Ha} {w w' : World} {o : Oracle} {S R : Set SessTuple} {n k : Nat} {whole : Prop}

/-! ## Nothing on its way -/

theorem mem_online {x : SessTuple} : x ∈ w.online ↔ x ∈ w.tuples ∧ x.state = .ONLINE := by
  constructor
  · rintro ⟨a, ha, hx⟩
    obtain ⟨hon, rfl⟩ := Life.online_some hx
    exact ⟨⟨a, ha, rfl⟩, hon⟩
  · rintro ⟨⟨a, ha, rfl⟩, hon⟩
    exact ⟨a, ha, if_pos hon⟩

/-- All answers are there, so all sessions are online. -/
theorem Shadowed.tuples (h : Shadowed S w.out.length w) : w.tuples = S := by
  ext x
  rw [← h.shadow x]
  have hon : ∀ a ∈ w.tables.sess_list, (w.mem a).toLife.shadow = (w.mem a).toLife.tuple := by
    intro a ha
    rcases h.stands.waits a ha with hst | hw
    · rw [Life.shadow, ← hst]
      rfl
    · rw [List.drop_length] at hw
      cases hw
  constructor
  · rintro ⟨a, ha, rfl⟩
    exact ⟨a, ha, (hon a ha).symm⟩
  · rintro ⟨a, ha, rfl⟩
    exact ⟨a, ha, hon a ha⟩

theorem Reported.taken_all (h : Reported True R w.queue.length w) : R = w.online := by
  have hfol := h.follows
  rw [World.told, List.drop_length] at hfol
  exact hfol.eq trivial

theorem Ha.Inv.agree (hi : h.Inv) : h.Agree := by
  rintro ⟨hup, hask, htaken, hans⟩
  obtain ⟨S, hsh, hrep⟩ := hi.follows hup
  rw [hans] at hsh
  rw [htaken, show (h.asked = false) = True by simpa using hask] at hrep
  rw [hsh.tuples, hrep.taken_all]
  ext x
  exact mem_online

/-! ## One act -/

/-- A message is taken. -/
theorem Reported.take {m : Sync} (h : Reported whole R n w) (hm : w.queue[n]? = some m) :
    Reported whole (sessKeys.apply R m.note) (n + 1) w ∧ m.Names := by
  obtain ⟨hlt, rfl⟩ := List.getElem?_eq_some_iff.mp hm
  have hdrop : w.queue.drop n = w.queue[n] :: w.queue.drop (n + 1) := List.drop_eq_getElem_cons hlt
  refine ⟨⟨hlt, fun x hx => h.names x ?_, ?_⟩, h.names _ ?_⟩
  · rw [hdrop]
    exact List.mem_cons_of_mem _ hx
  · have htold : w.told R n = w.told (sessKeys.apply R w.queue[n].note) (n + 1) := by
      rw [World.told, hdrop]
      rfl
    exact htold ▸ h.follows
  · rw [hdrop]
    exact List.mem_cons_self

/-- Only a session of the peer can be one too many. -/
theorem Listed.step {x : Event × Oracle} (hl : Listed w) (hs : Sound w)
    (hx : ∀ m, x.1 = .onlineSync m → w.accepts x.2 m → m.sid ≤ w.cfg.max_sid) :
    Sound (step w x) ∧ Listed (step w x) := by
  refine hl.changes hs (step_changes hs fun _ => ⟨fun _ _ => trivial, ?_⟩)
  obtain ⟨ev, o⟩ := x
  cases ev with
  | onlineSync m => exact fun hacc => ⟨trivial, hx m rfl hacc⟩
  | padr => exact fun _ => trivial
  | restart => exact trivial
  | _ => exact trivial

theorem Event.serves_role {e : Event} (he : e.serves) :
    (∀ s, e ≠ .restart s) ∧ (∀ b, e ≠ .channel b) ∧ ∀ m, e ≠ .onlineSync m := by
  refine ⟨fun _ h => ?_, fun _ h => ?_, fun _ h => ?_⟩ <;> rw [h] at he <;> cases he

theorem Event.stands_role {e : Event} (he : e.stands) :
    (∀ s, e ≠ .restart s) ∧ (∀ b, e ≠ .channel b) ∧ ∀ m, e ≠ .onlineSync m := by
  refine ⟨fun _ h => ?_, fun _ h => ?_, fun _ h => ?_⟩ <;> rw [h] at he <;> cases he

theorem Ha.Inv.actActive {e : Event} (hi : h.Inv) (he : e.serves)
    (hg : h.active.channel → h.active.Tells (e, o)) :
    Ha.Inv { h with active := Pppoe.step h.active (e, o) } := by
  obtain ⟨hr, hc, hm⟩ := Event.serves_role he
  have hrole : (Pppoe.step h.active (e, o)).role = h.active.role := step_role hr hc
  have hup : (Pppoe.step h.active (e, o)).channel = h.active.channel := congrArg Prod.snd hrole
  obtain ⟨hs, hl⟩ := hi.listed.step (x := (e, o)) hi.sound fun m heq => absurd heq (hm m)
  refine ⟨hs, hl, (congrArg Prod.fst hrole).trans hi.active, hi.standbySound, hi.standbyListed,
    hi.standby, fun ha => hup.trans (hi.asked ha), fun hch => ?_⟩
  have hch := hup.symm.trans hch
  obtain ⟨S, hsh, hrep⟩ := hi.follows hch
  exact ⟨S, hsh, hrep.step hi.sound hi.listed hi.active hch he (hg hch)⟩

/-- The standby changes, and still holds what it was told. -/
theorem Ha.Inv.actStandby {w : World} {k n : Nat} (hi : h.Inv) (hw : Sound w ∧ Listed w)
    (hst : w.status = .STANDBY)
    (hsh : h.active.channel → ∀ S, Shadowed S h.answered h.standby →
      Reported (h.asked = false) S h.taken h.active →
      ∃ S', Shadowed S' k w ∧ Reported (h.asked = false) S' n h.active) :
    Ha.Inv { h with standby := w, answered := k, taken := n } := by
  refine ⟨hi.sound, hi.listed, hi.active, hw.1, hw.2, hst, hi.asked, fun hup => ?_⟩
  obtain ⟨S, hS, hrep⟩ := hi.follows hup
  exact hsh hup S hS hrep

theorem Ha.Inv.standbyEvent {e : Event} (hi : h.Inv) (he : e.stands)
    (hg : h.active.channel → standGuard.Meets h.standby (e, o)) :
    Ha.Inv { h with standby := Pppoe.step h.standby (e, o) } := by
  obtain ⟨hr, hc, hm⟩ := Event.stands_role he
  have hrole : (Pppoe.step h.standby (e, o)).role = h.standby.role := step_role hr hc
  refine hi.actStandby (hi.standbyListed.step (x := (e, o)) hi.standbySound
    fun m heq => absurd heq (hm m)) ((congrArg Prod.fst hrole).trans hi.standby) ?_
  exact fun hup S hS hrep => ⟨S, hS.step hi.standby he (hg hup), hrep⟩

theorem Sync.event_role {m : Sync} :
    (∀ s, m.event ≠ .restart s) ∧ ∀ b, m.event ≠ .channel b := by
  constructor
  all_goals
    intro s h
    cases m <;> cases h

theorem Ha.Inv.deliver {m : Sync} (hi : h.Inv) (hm : h.next = some m)
    (hf : h.standby.fault = false) (hroom : h.standby.Room o m) :
    Ha.Inv { h with standby := Pppoe.step h.standby (m.event, o), taken := h.taken + 1 } := by
  rw [Ha.next] at hm
  split at hm
  case isFalse => cases hm
  rename_i hup
  have hrole : (Pppoe.step h.standby (m.event, o)).role = h.standby.role :=
    step_role Sync.event_role.1 Sync.event_role.2
  refine hi.actStandby (hi.standbyListed.step (x := (m.event, o)) hi.standbySound fun x heq _ => ?_)
    ((congrArg Prod.fst hrole).trans hi.standby) fun _ S hS hrep => ?_
  · cases m with
    | SESSONLINE y =>
      cases heq
      exact hroom.1
    | SESSOFFLINE | SESSUPDATE | SESSCLEAR | SYNCFINISHED => cases heq
  · obtain ⟨hrep, hname⟩ := hrep.take hm
    exact ⟨_, hS.deliver hi.standbySound hi.standbyListed hf hi.standby hname hroom, hrep⟩

/-- The kernel answers, and a session that waited is online. -/
theorem Ha.Inv.answer {p : Packet} {m : KernelMsg} {err : Int} (hi : h.Inv)
    (hp : h.standby.out[h.answered]? = some p) (hm : p.answer err = some m)
    (hf : h.standby.fault = false)
    (hg : h.active.channel → standGuard.Meets h.standby (.kernel m, o)) :
    Ha.Inv { h with
      standby := Pppoe.step h.standby (.kernel m, o), answered := h.answered + 1 } := by
  have hrole : (Pppoe.step h.standby (.kernel m, o)).role = h.standby.role :=
    step_role (fun _ h => by cases h) fun _ h => by cases h
  have htakes : h.standby.takes (.kernel m) = true := by
    simp [World.takes, hi.standby]
  refine hi.actStandby (hi.standbyListed.step (x := (.kernel m, o)) hi.standbySound
    fun _ heq => by cases heq) ((congrArg Prod.fst hrole).trans hi.standby) fun hup S hS hrep => ?_
  obtain ⟨hlt, rfl⟩ := List.getElem?_eq_some_iff.mp hp
  have hans := kernel_answered hi.standby hf (hg hup htakes).1
  have hstep : Pppoe.step h.standby (.kernel m, o) = h.standby.kernel o m := by
    simp [Pppoe.step, hf, htakes, World.dispatch]
  rw [hstep]
  exact ⟨S, hS.answer hi.standbyListed (List.drop_eq_getElem_cons hlt) hm hans, hrep⟩

/-- A packet that asks for nothing has no answer to wait for. -/
theorem Ha.Inv.skip {err : Int} (hi : h.Inv) (hlt : h.answered < h.standby.out.length)
    (hm : h.reply err = none) : Ha.Inv { h with answered := h.answered + 1 } := by
  refine hi.actStandby ⟨hi.standbySound, hi.standbyListed⟩ hi.standby fun _ S hS hrep =>
    ⟨S, hS.next (List.drop_eq_getElem_cons hlt) fun a _ heq => ?_, hrep⟩
  rw [Ha.reply, List.getElem?_eq_getElem hlt, heq] at hm
  cases hm

/-- The standby has been cleared, and asks. -/
theorem Ha.Inv.connect (hi : h.Inv) (hf : h.standby.fault = false) (hf' : h.active.fault = false) :
    Ha.Inv (h.connect o) := by
  have hactive : Pppoe.step h.active (.channel true, o) = { h.active with channel := true } := by
    simp [Pppoe.step, hf', World.takes, World.dispatch]
  have hup : Pppoe.step h.standby (.channel true, o) = { h.standby with channel := true } := by
    simp [Pppoe.step, hf, World.takes, World.dispatch]
  obtain ⟨hs, hl⟩ := hi.listed.step (x := (.channel true, o)) hi.sound fun _ heq => by cases heq
  obtain ⟨hs₁, hl₁⟩ := hi.standbyListed.step (x := (.channel true, o)) hi.standbySound
    fun _ heq => by cases heq
  obtain ⟨hs₂, hl₂⟩ := hl₁.step (x := (.clearV2, o)) hs₁ fun _ heq => by cases heq
  have hrole : (Pppoe.step (Pppoe.step h.standby (.channel true, o)) (.clearV2, o)).role =
      (Pppoe.step h.standby (.channel true, o)).role :=
    step_role (fun _ h => by cases h) fun _ h => by cases h
  have hst : (Pppoe.step h.standby (.channel true, o)).status = .STANDBY := by
    rw [hup]
    exact hi.standby
  refine ⟨hs, hl, ?_, hs₂, hl₂, (congrArg Prod.fst hrole).trans hst, fun _ => ?_, fun _ =>
    ⟨∅, .empty ?_ (Nat.le_refl _), ?_⟩⟩
  · rw [Ha.connect, hactive]
    exact hi.active
  · rw [Ha.connect, hactive]
  · rw [Ha.connect]
    dsimp only
    have hclear : Pppoe.step (Pppoe.step h.standby (.channel true, o)) (.clearV2, o) =
        (Pppoe.step h.standby (.channel true, o)).manageSessionsClearV2 o := by
      rw [hup]
      simp [Pppoe.step, hf, World.takes, World.dispatch, hi.standby]
    rw [hclear]
    exact clearV2_empty hs₁ hl₁ (by rw [hup]; exact hf)
  · rw [Ha.connect, hactive]
    refine ⟨Nat.le_refl _, fun m hm => ?_, ?_⟩
    · rw [List.drop_length] at hm
      cases hm
    · rw [World.told, List.drop_length]
      exact .empty fun hno => absurd hno Bool.noConfusion

/-- All sessions are told, before whatever is told from then on. -/
theorem Ha.Inv.request (hi : h.Inv) (hask : h.asked) (hf : h.active.fault = false)
    (hg : tellGuard.Meets h.active (.sync, o)) :
    Ha.Inv { h with active := Pppoe.step h.active (.sync, o), asked := false } := by
  have hrole : (Pppoe.step h.active (.sync, o)).role = h.active.role :=
    step_role (fun _ h => by cases h) fun _ h => by cases h
  have hup := hi.asked hask
  have htakes : h.active.takes .sync = true := by simp [World.takes, hi.active]
  obtain ⟨hs, hl⟩ := hi.listed.step (x := (.sync, o)) hi.sound fun _ heq => by cases heq
  refine ⟨hs, hl, (congrArg Prod.fst hrole).trans hi.active, hi.standbySound, hi.standbyListed,
    hi.standby, fun ha => absurd ha Bool.false_ne_true, fun _ => ?_⟩
  obtain ⟨S, hsh, hrep⟩ := hi.follows hup
  have hstep : Pppoe.step h.active (.sync, o) = h.active.manageSessionsSync o := by
    simp [Pppoe.step, hf, htakes, World.dispatch]
  refine ⟨S, hsh, ?_⟩
  have hsync := hrep.sync hi.sound hi.listed hf hup (hg htakes).1
  rw [hstep]
  exact ⟨hsync.le, hsync.names, hsync.follows.sub, fun _ => hsync.follows.all trivial⟩

theorem Ha.Inv.disconnect (hi : h.Inv) (hf : h.active.fault = false) : Ha.Inv h.disconnect := by
  have hdown : Pppoe.step h.active (.channel false, {}) = { h.active with channel := false } := by
    simp [Pppoe.step, hf, World.takes, World.dispatch]
  obtain ⟨hs, hl⟩ := hi.listed.step (x := (.channel false, {})) hi.sound fun _ heq => by cases heq
  obtain ⟨hs₁, hl₁⟩ := hi.standbyListed.step (x := (.channel false, {})) hi.standbySound
    fun _ heq => by cases heq
  refine ⟨hs, hl, ?_, hs₁, hl₁, ?_, fun ha => absurd ha Bool.false_ne_true, fun hup => ?_⟩
  · rw [Ha.disconnect, hdown]
    exact hi.active
  · rw [Ha.disconnect]
    dsimp only
    rw [Pppoe.step]
    split
    · exact hi.standby
    · exact hi.standby
  · rw [Ha.disconnect, hdown] at hup
    cases hup

theorem Ha.Inv.step {x : HaAct} (hi : h.Inv) (hg : h.Meets x) : Ha.Inv (h.step x) := by
  cases x with
  | active e o =>
    rw [Ha.step]
    split
    · rename_i he
      exact hi.actActive he hg
    · exact hi
  | standby e o =>
    rw [Ha.step]
    split
    · rename_i he
      exact hi.standbyEvent he hg
    · exact hi
  | deliver o =>
    rw [Ha.step]
    cases hm : h.next with
    | none => exact hi
    | some m =>
      dsimp only
      split
      · exact hi
      · rename_i hf
        have hup : h.active.channel = true := by
          rw [Ha.next] at hm
          split at hm
          · assumption
          · cases hm
        exact hi.deliver hm (by simpa using hf) (hg hup m hm)
  | answer err o =>
    rw [Ha.step]
    split
    · exact hi
    rename_i hno
    obtain ⟨hf, hlt⟩ := not_or.mp hno
    rw [Nat.not_le] at hlt
    cases hm : h.reply err with
    | none => exact hi.skip hlt hm
    | some m =>
      obtain ⟨p, hp, hpm⟩ := Option.bind_eq_some_iff.mp hm
      exact hi.answer hp hpm (by simpa using hf) fun hup => hg hup m hm
  | connect o =>
    rw [Ha.step]
    split
    · exact hi
    · rename_i hno
      have hfault : h.active.fault = false ∧ h.standby.fault = false := by
        simpa [Ha.crashed] using (not_or.mp hno).1
      exact hi.connect hfault.2 hfault.1
  | request o =>
    rw [Ha.step]
    split
    · rename_i hask
      exact hi.request hask.1 (by simpa using hask.2) (hg (hi.asked hask.1))
    · exact hi
  | disconnect =>
    rw [Ha.step]
    split
    · exact hi
    · rename_i hf
      exact hi.disconnect (by simpa using hf)

end

section
variable {cfg cfg' : Config} {pool pool' : Ippool} {status status' : BackupStatus}
  {xs ys : List (Event × Oracle)} {acts : List HaAct}

/-- An active and a standby instance that have come up, with no channel between them yet. -/
def haStart (w w' : World) : Ha := { active := w, standby := w' }

/-- Whatever the two instances did before, they agree at every quiescent point of a run whose acts
all meet the condition. -/
theorem ha_agreement (hxs : Obeys step sidGuard.Meets (World.init cfg pool status) xs)
    (hys : Obeys step sidGuard.Meets (World.init cfg' pool' status') ys)
    (hready : Ha.Ready (haStart (runEvents (World.init cfg pool status) xs)
      (runEvents (World.init cfg' pool' status') ys)))
    (ho : Obeys Ha.step Ha.Meets (haStart (runEvents (World.init cfg pool status) xs)
      (runEvents (World.init cfg' pool' status') ys)) acts) :
    Ha.Agree (Lib.run Ha.step (haStart (runEvents (World.init cfg pool status) xs)
      (runEvents (World.init cfg' pool' status') ys)) acts) := by
  obtain ⟨hs, hl⟩ := run_listed hxs
  obtain ⟨hs', hl'⟩ := run_listed hys
  have h0 : Ha.Inv (haStart (runEvents (World.init cfg pool status) xs)
      (runEvents (World.init cfg' pool' status') ys)) := by
    refine ⟨hs, hl, hready.active, hs', hl', hready.standby, fun ha => absurd ha Bool.false_ne_true,
      fun hup => ?_⟩
    rw [hready.down] at hup
    cases hup
  exact (ho.run_inv (fun _ _ hi hg => hi.step hg) h0).agree

end

/-- A client is online when the channel comes up, and the standby is told. -/
def haLogin : List HaAct :=
  [.connect sampleOracle, .request sampleOracle, .deliver sampleOracle, .deliver sampleOracle,
    .answer 0 sampleOracle, .answer 0 sampleOracle]

def haSample : Ha :=
  haStart (runEvents (World.init sampleCfg samplePool .ACTIVE) sampleLogin)
    (runEvents (World.init sampleCfg samplePool .STANDBY) [])

theorem ha_agreement_haLogin : Ha.Agree (Lib.run Ha.step haSample haLogin) :=
  ha_agreement (by decide +kernel) trivial
    ⟨by decide +kernel, by decide +kernel, by decide +kernel, rfl⟩ (by decide +kernel)

example : Ha.Quiescent (Lib.run Ha.step haSample haLogin) ∧
    ((Lib.run Ha.step haSample haLogin).standby.mem 1).state = .ONLINE := by decide +kernel

/-- The client sends a CCP Configure-Nak. -/
def haNak : List HaAct :=
  haLogin ++ [.active (.frame 1 sampleMac { bytes := [0x80, 0xfd, 3, 1, 0, 4] }) sampleOracle]

theorem ha_disagreement : ¬ Ha.Agree (Lib.run Ha.step haSample haNak) := by
  intro h
  have hq : Ha.Quiescent (Lib.run Ha.step haSample haNak) := by decide +kernel
  have hlist : (Lib.run Ha.step haSample haNak).active.tables.sess_list = [] := by decide +kernel
  have hstandby : 1 ∈ (Lib.run Ha.step haSample haNak).standby.tables.sess_list := by
    decide +kernel
  have hin : ((Lib.run Ha.step haSample haNak).standby.mem 1).toLife.tuple ∈
      (Lib.run Ha.step haSample haNak).standby.tuples := ⟨1, hstandby, rfl⟩
  rw [h hq] at hin
  obtain ⟨⟨a, ha, -⟩, -⟩ := hin
  rw [hlist] at ha
  cases ha

end Pppoe
end DaemonGroup
