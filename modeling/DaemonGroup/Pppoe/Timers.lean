import DaemonGroup.Pppoe.Invariant

/-!
# DaemonGroup.Pppoe.Timers

A session that is not online is watched by a timer. The session either negotiates, and its timeout
is armed, or waits for a RADIUS server, and then it owns the identifier of its request and the
retransmission timer is armed.

Three things break this in the code. A Terminate-Request whose Accounting-Stop cannot be sent takes
the session to `OFFLINE` and stops there. A reply that does not suit the state of the session
releases the identifier it names, and the retransmission timer of a session that does not own its
identifier is paused for good. So it is when the identifier is given to another session.
-/

namespace DaemonGroup
namespace Pppoe

open Lib

/-- Every session that is not online has an armed timer. -/
def NoneStranded (w : World) : Prop :=
  ∀ a ∈ w.tables.sess_list, (w.mem a).state ≠ .ONLINE →
    (w.mem a).timeout = .armed ∨ (w.mem a).retrans = .armed

/-! ## What is let happen -/

/-- The next identifier is not one that another session names. -/
def World.spares (w : World) (o : Oracle) (a : Addr) : Bool :=
  w.tables.sess_list.all fun b =>
    b = a ∨ (w.mem b).priv_data = none ∨ (w.mem b).priv_data ≠ (w.env o a).nextId w.rad

/-- A Terminate-Request that no Accounting-Stop can follow, or a reply that makes the session lose
its identifier. -/
def Trigger.strands (t : Trigger) (e : Env) (r : Radius) (s : Session) : Bool :=
  match t with
  | .frame f => f.isTermReq ∧ s.state = .ONLINE ∧ ¬ e.sends r s.toLife
  | .reply p d => ReplyMisfit (packOf d.bytes).code s.state ∧ s.priv_data = some p
  | _ => false

def timerGuard : Guard where
  run w o a t := (t.asks (w.mem a) → w.spares o a) ∧ ¬ t.strands (w.env o a) w.rad (w.mem a)
  start w := ∀ a ∈ w.tables.sess_list, (w.mem a).priv_data = none

instance : timerGuard.Checks where
  run w o a t := inferInstanceAs (Decidable ((t.asks (w.mem a) → w.spares o a) ∧
    ¬ t.strands (w.env o a) w.rad (w.mem a)))
  record _ _ := inferInstanceAs (Decidable True)
  online _ _ := inferInstanceAs (Decidable True)
  start w := inferInstanceAs (Decidable (∀ a ∈ w.tables.sess_list, (w.mem a).priv_data = none))

/-! ## The timers of one session -/

/-- The state of the session says which timer watches it. -/
def Life.Timed (l : Life) : Prop :=
  l.timeout ≠ .none ∧
    match l.state with
    | .INIT | .LCPPREOPEN | .LCPPOSTOPEN | .AUTHPRE | .IPCPPOSTOPEN | .ONLINEPRE => l.timeout = .armed
    | .AUTHPOST | .ONLINEPOST | .OFFLINEPOST => l.retrans = .armed ∧ l.priv_data ≠ none
    | .ONLINE => True
    | _ => False

section
variable {l l' : Life}

theorem Life.Timed.watched (h : l.Timed) (hst : l.state ≠ .ONLINE) :
    l.timeout = .armed ∨ l.retrans = .armed := by
  obtain ⟨-, h⟩ := h
  revert h hst
  cases l.state <;> simp_all

/-- Only the timers and the identifier matter. -/
theorem Life.Timed.keep (h : l.Timed) (hs : l'.state = l.state) (ht : l'.timeout = l.timeout)
    (hr : l.retrans = .armed → l'.retrans = .armed) (hp : l.priv_data ≠ none → l'.priv_data ≠ none) :
    l'.Timed := by
  refine ⟨ht ▸ h.1, ?_⟩
  have h₂ := h.2
  rw [hs, ht]
  revert h₂
  cases l.state <;> simp_all

/-- A session that waits for no server does without its retransmission timer. -/
theorem Life.Timed.settle (h : l.Timed) (hs : l'.state = l.state) (ht : l'.timeout = l.timeout)
    (hst : l.state ≠ .AUTHPOST ∧ l.state ≠ .ONLINEPOST ∧ l.state ≠ .OFFLINEPOST) : l'.Timed := by
  refine ⟨ht ▸ h.1, ?_⟩
  have h₂ := h.2
  rw [hs, ht]
  revert h₂ hst
  cases l.state <;> simp_all

theorem Timer.rearm_armed {x : Timer} (h : x ≠ .none) : x.rearm = .armed := by
  cases x <;> simp_all [Timer.rearm]

theorem Timer.pause_ne {x : Timer} (h : x ≠ .none) : x.pause ≠ .none := by
  cases x <;> simp_all [Timer.pause]

end

section
variable {t : Trigger} {e : Env} {c : Ctx} {k : ReqKind} {v v' : View}

theorem Asked.armed (h : Asked e k v v') :
    v'.life.retrans = .armed ∧ v'.life.priv_data ≠ none ∧ v'.life.timeout = v.life.timeout := by
  cases h with
  | mk => exact ⟨rfl, Option.some_ne_none _, rfl⟩

/-- The session waits for the answer to the request it has sent. -/
theorem Asked.timed {st : SessState} (h : Asked e k v v') (ht : v.life.timeout ≠ .none)
    (hst : st = .AUTHPOST ∨ st = .ONLINEPOST ∨ st = .OFFLINEPOST) : (v'.goto st).life.Timed := by
  obtain ⟨hr, hp, htime⟩ := h.armed
  refine ⟨htime ▸ ht, ?_⟩
  rcases hst with rfl | rfl | rfl <;> exact ⟨hr, hp⟩

/-- A transition keeps the session watched. -/
theorem Move.timed (h : Move t e c v) (hv : v.fault = false) (hx : v.exited = false)
    (ht : c.sess.toLife.Timed) (hown : ∀ p, c.sess.priv_data = some p → c.view.owns e.self)
    (hno : t.strands e c.rad c.sess = false) : v.life.Timed := by
  have h0 : c.sess.timeout ≠ .none := ht.1
  have hpause : c.sess.timeout.pause ≠ .none := Timer.pause_ne h0
  have hrearm : c.sess.timeout.rearm = .armed := Timer.rearm_armed h0
  have harmed : c.sess.timeout.rearm ≠ .none := by rw [hrearm]; decide
  cases h with
  | idle | sync | misfit => exact ht
  | preopen hst =>
    have hinit := ht.2
    rw [hst] at hinit
    exact ⟨h0, hinit⟩
  | postopen => exact ⟨harmed, hrearm⟩
  | authpre => exact ⟨harmed, hrearm⟩
  | authpost _ _ _ ha => exact ha.timed hpause (.inl rfl)
  | opened =>
    obtain ⟨q, hq⟩ := settle_life c.view
    refine ⟨?_, ?_⟩
    · show c.view.settle.life.timeout.rearm ≠ .none
      rw [hq]
      exact harmed
    · show c.view.settle.life.timeout.rearm = .armed
      rw [hq]
      exact hrearm
  | address _ ha =>
    obtain ⟨y, -, rfl⟩ := ha
    exact ht
  | onlinepre _ ha =>
    obtain ⟨y, -, rfl⟩ := ha
    exact ⟨harmed, hrearm⟩
  | onlinepost _ _ ha => exact ha.timed hpause (.inr (.inl rfl))
  | online =>
    obtain ⟨q, hq⟩ := settle_life c.view
    refine ⟨?_, trivial⟩
    show c.view.settle.life.timeout ≠ .none
    rw [hq]
    exact h0
  | standby => exact ⟨hpause, trivial⟩
  | update _ ha =>
    rcases ha with ha | ha
    · obtain ⟨hr, hp, htime⟩ := ha.armed
      exact ht.keep ha.frame.state htime (fun _ => hr) (fun _ => hp)
    · cases ha with
      | noId => exact ht
      | notSent => exact ht.keep rfl rfl id fun _ => Option.some_ne_none _
      | noTimer => exact ht.keep rfl rfl id fun _ => Option.some_ne_none _
  | offlinepost _ _ ha => exact ha.timed h0 (.inr (.inr rfl))
  | stuck heq hterm hst ha =>
    subst heq
    simp [Trigger.strands, hterm, hst, show e.sends c.rad c.sess.toLife = false from ha.not_sends]
      at hno
  | settled _ hst =>
    obtain ⟨q, hq⟩ := settle_life c.view
    exact ht.settle (by rw [hq]; rfl) (by rw [hq]; rfl) hst
  | retransmit _ _ ho =>
    refine ht.keep rfl rfl (fun hr => ?_) (fun _ => Option.some_ne_none _)
    show c.sess.retrans.rearm = .armed
    rw [hr]
    rfl
  | lost _ ho =>
    -- a session that waits owns its identifier
    have hnone : c.sess.priv_data = none := by
      cases hp : c.sess.priv_data with
      | none => rfl
      | some p => exact absurd (hown p hp) ho
    refine ht.settle rfl rfl ?_
    have h₂ := ht.2
    refine ⟨fun hst => ?_, fun hst => ?_, fun hst => ?_⟩ <;> rw [hst] at h₂ <;> exact h₂.2 hnone
  | exitAuth | exitOpened | exitOnline | exitOffline | exitStopped | exit | disconnect | clear =>
    cases hx
  | faulty h => rw [h] at hv; cases hv

end

/-! ## The invariant -/

/-- Sessions own the identifiers they name, and each is watched. -/
structure Watched (w : World) : Prop where
  own : ∀ b ∈ w.tables.sess_list, ∀ p, (w.mem b).priv_data = some p →
    (w.rad.id p).status = .USED ∧ (w.rad.id p).sess = some b
  timed : ∀ b ∈ w.tables.sess_list, (w.mem b).toLife.Timed

section
variable {w w' : World} {a : Addr} {t : Trigger} {o : Oracle} {r : Radius} {x : Option RadPtr}

/-- Two sessions do not name the same identifier. -/
theorem Watched.apart (h : Watched w) {b : Addr} (hb : b ∈ w.tables.sess_list) (hne : b ≠ a)
    {p q : RadPtr} (hp : (w.rad.id p).sess = some a)
    (hq : (w.mem b).priv_data = some q) : q ≠ p := by
  rintro rfl
  have := (h.own b hb q hq).2
  rw [hp] at this
  exact hne (Option.some.inj this).symm

theorem World.spares_spec (h : w.spares o a) {b : Addr} (hb : b ∈ w.tables.sess_list) (hne : b ≠ a)
    {p q : RadPtr} {r : Radius} (hp : radiusGetFreeId (w.env o a) w.rad = some (p, r))
    (hq : (w.mem b).priv_data = some q) : q ≠ p := by
  rw [World.spares, List.all_eq_true] at h
  have := h b hb
  rintro rfl
  simp [hne, hq, Env.nextId, hp] at this

/-- The other sessions keep their identifiers. -/
theorem Watched.own_other (hs : Sound w) (h : Watched w) (ha : a ∈ w.tables.sess_list)
    (hm : IdMove t (w.env o a) (w.ctx a) r x) (hspare : t.asks (w.mem a) → w.spares o a)
    (hn : w.Names a t) {b : Addr} (hb : b ∈ w.tables.sess_list) (hne : b ≠ a) {q : RadPtr}
    (hq : (w.mem b).priv_data = some q) : (r.id q).status = .USED ∧ (r.id q).sess = some b := by
  have hold := h.own b hb q hq
  cases hm with
  | same | lost => exact hold
  | asked ht hp =>
    have hqp := World.spares_spec (hspare ht) hb hne hp hq
    rw [assign_other hqp, (radiusGetFreeId_gives hs.bounded hp).other q hqp (.inl hold.1)]
    exact hold
  | @released p hp =>
    have hqp : q ≠ p := h.apart hb hne (h.own a ha p hp).2 hq
    rw [free_other hqp]
    exact hold
  | @again p _ _ hp =>
    have hqp : q ≠ p := h.apart hb hne (h.own a ha p hp).2 hq
    rw [assign_other hqp]
    exact hold
  | @misfit p d ht =>
    subst ht
    rw [free_other (h.apart hb hne hn.2 hq)]
    exact hold

theorem Watched.own_self (h : Watched w) (ha : a ∈ w.tables.sess_list)
    (hm : IdMove t (w.env o a) (w.ctx a) r x) (hno : t.strands (w.env o a) w.rad (w.mem a) = false)
    {q : RadPtr} (hq : x = some q) : (r.id q).status = .USED ∧ (r.id q).sess = some a := by
  cases hm with
  | same => exact h.own a ha q hq
  | asked | again =>
    cases hq
    rw [assign_same]
    exact ⟨rfl, rfl⟩
  | released | lost => cases hq
  | @misfit p d ht hmis =>
    subst ht
    have hqp : q ≠ p := by
      rintro rfl
      have hpriv : (w.mem a).priv_data = some q := hq
      have hmis' : ReplyMisfit (packOf d.bytes).code (w.mem a).state := hmis
      simp [Trigger.strands, hpriv, hmis'] at hno
    rw [free_other hqp]
    exact h.own a ha q hq

theorem Watched.stranded (h : Watched w) : NoneStranded w :=
  fun a ha hst => (h.timed a ha).watched hst

theorem watched : Invariant timerGuard Watched where
  kept := by
    intro w w' _ h hk
    constructor
    · intro b hb p hp
      rw [hk.list] at hb
      rw [hk.life b hb] at hp
      rw [hk.id]
      exact h.own b hb p hp
    · intro b hb
      rw [hk.list] at hb
      rw [hk.life b hb]
      exact h.timed b hb
  enters := by
    intro w w' a s _ h _ _ _ he
    constructor
    · intro b hb p hp
      rw [he.list, List.mem_append, List.mem_singleton] at hb
      rcases hb with hb | rfl
      · rw [he.mem b hb] at hp
        rw [he.rad]
        exact h.own b hb p hp
      · rw [he.life] at hp
        cases hp
    · intro b hb
      rw [he.list, List.mem_append, List.mem_singleton] at hb
      rcases hb with hb | rfl
      · rw [he.mem b hb]
        exact h.timed b hb
      · rw [he.life]
        exact ⟨by simp [Session.entry], rfl⟩
  moves := by
    intro w w' a t o v hs h ha hg hn hm hf hx hmv
    obtain ⟨hspare, hno⟩ := hg
    have hno : t.strands (w.env o a) w.rad (w.mem a) = false := Bool.eq_false_iff.mpr hno
    have hids := hm.ids_move hf
    constructor
    · intro b hb q hq
      rw [hmv.list] at hb
      rw [hmv.rad]
      by_cases hba : b = a
      · rw [hba, hmv.life] at hq
        rw [hba]
        exact h.own_self ha hids hno hq
      · rw [hmv.mem b hba] at hq
        exact h.own_other hs ha hids hspare hn hb hba hq
    · intro b hb
      rw [hmv.list] at hb
      by_cases hba : b = a
      · rw [hba, hmv.life]
        exact hm.timed hf hx (h.timed a ha)
          (fun p hp => ⟨p, hp, (h.own a ha p hp).1, (h.own a ha p hp).2⟩) hno
      · rw [hmv.mem b hba]
        exact h.timed b hb
  leaves := by
    intro w w' a t o v hs h ha hg hn hm hf _ hlv
    constructor
    · intro b hb q hq
      obtain ⟨hb', hne⟩ := (hlv.list b).mp hb
      rw [hlv.mem b hb' hne] at hq
      rw [hlv.rad]
      exact h.own_other hs ha (hm.ids_move hf) hg.1 hn hb' hne hq
    · intro b hb
      obtain ⟨hb', hne⟩ := (hlv.list b).mp hb
      rw [hlv.mem b hb' hne]
      exact h.timed b hb'
  stray := by
    intro w p a _ h ha _ hp
    refine ⟨fun b hb q hq => ?_, h.timed⟩
    have hold := h.own b hb q hq
    have hqp : q ≠ p := by
      rintro rfl
      have := hold.2
      rw [hp] at this
      cases this
      exact ha hb
    rw [free_other hqp]
    exact hold
  start := by
    intro w _ h hg
    refine ⟨fun b hb q hq => ?_, h.timed⟩
    rw [hg b hb] at hq
    cases hq

end

/-- In every run in which no Terminate-Request finds its Accounting-Stop refused, no reply makes a
session lose its identifier and no session is given the identifier of another, no session is
stranded. -/
theorem none_stranded {cfg : Config} {pool : Ippool} {status : BackupStatus}
    {xs : List (Event × Oracle)} (ho : Obeys step timerGuard.Meets (World.init cfg pool status) xs) :
    NoneStranded (runEvents (World.init cfg pool status) xs) := by
  have h0 : Watched (World.init cfg pool status) := by
    constructor <;> intro b hb <;> cases hb
  exact (watched.run h0 ho).2.stranded

theorem none_stranded_login :
    NoneStranded (runEvents (World.init sampleCfg samplePool .NONE) sampleLogin) :=
  none_stranded (by decide +kernel)

/-- The client that is online asks to terminate, and the Accounting-Stop cannot be sent. -/
def stuckRun : List (Event × Oracle) :=
  sampleLogin ++ [(.frame 1 sampleMac { bytes := [0xc0, 0x21, 5, 9, 0, 4] },
    { sampleOracle with fails := fun _ => [.radiusSend] })]

theorem stuck_stranded :
    ¬ NoneStranded (runEvents (World.init sampleCfg samplePool .NONE) stuckRun) := by
  intro h
  have hin : 1 ∈ (runEvents (World.init sampleCfg samplePool .NONE) stuckRun).tables.sess_list := by
    decide +kernel
  exact absurd (h 1 hin (by decide +kernel)) (by decide +kernel)

end Pppoe
end DaemonGroup
