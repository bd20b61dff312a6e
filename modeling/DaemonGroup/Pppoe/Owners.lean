import DaemonGroup.Pppoe.Invariant

/-!
# DaemonGroup.Pppoe.Owners

RADIUS identifiers and the sessions they are in use for. A session remembers one identifier. It
does not release that one when it sends another request, nor when it ends, so an identifier can be
in use for a session that has forgotten it or is gone, and the answer to an interim update is taken
for the answer to the request that the session remembers.
-/

namespace DaemonGroup
namespace Pppoe

open Lib

/-- Every identifier in use is the one that a registered session remembers. -/
def IdsCoherent (w : World) : Prop :=
  ∀ p, (w.rad.id p).status = .USED →
    ∃ a ∈ w.tables.sess_list, (w.rad.id p).sess = some a ∧ (w.mem a).priv_data = some p

/-! ## What is let happen -/

/-- The identifier that the session remembers is in use for it. -/
def World.owned (w : World) (a : Addr) : Bool :=
  match (w.mem a).priv_data with
  | some p => (w.rad.id p).status = .USED ∧ (w.rad.id p).sess = some a
  | none => false

/-- No request is sent while another of the session is outstanding. -/
def World.single (w : World) (o : Oracle) (a : Addr) (t : Trigger) : Bool :=
  t.asks (w.mem a) → w.owned a → (w.env o a).nextId w.rad = (w.mem a).priv_data

def idGuard : Guard where
  run w o a t := w.single o a t ∧ (t.mayEnd (w.mem a) → ¬ w.owned a) ∧
    ¬ t.abandons (w.env o a) w.rad (w.mem a)

instance : idGuard.Checks where
  run w o a t := inferInstanceAs (Decidable (w.single o a t ∧ (t.mayEnd (w.mem a) → ¬ w.owned a) ∧
    ¬ t.abandons (w.env o a) w.rad (w.mem a)))
  record _ _ := inferInstanceAs (Decidable True)
  online _ _ := inferInstanceAs (Decidable True)
  start _ := inferInstanceAs (Decidable True)

/-! ## Back-pointers -/

/-- The registered session that an identifier is in use for remembers it. -/
def Points (w : World) : Prop :=
  ∀ p, (w.rad.id p).status = .USED → ∀ a ∈ w.tables.sess_list, (w.rad.id p).sess = some a →
    (w.mem a).priv_data = some p

section
variable {w w' : World} {a b : Addr} {t : Trigger} {o : Oracle} {r : Radius} {x : Option RadPtr}
  {p q : RadPtr}

theorem World.owned_iff :
    w.owned a ↔ ∃ p, (w.mem a).priv_data = some p ∧ (w.rad.id p).status = .USED ∧
      (w.rad.id p).sess = some a := by
  rw [World.owned]
  cases hp : (w.mem a).priv_data with
  | none => simp
  | some p => simp

/-- An identifier that is in use after a transition of the session at `a`: it is now in use for
that session, which remembers it, or nothing about it has changed. -/
theorem IdMove.used (hs : Sound w) (hm : IdMove t (w.env o a) (w.ctx a) r x)
    (hu : (r.id q).status = .USED) :
    ((r.id q).sess = some a ∧ x = some q) ∨
      (r.id q = w.rad.id q ∧ ((w.rad.id q).sess = some a → x = some q ∨
        (w.mem a).priv_data ≠ some q ∨ t.asks (w.mem a) ∧ (w.env o a).nextId w.rad ≠ some q)) := by
  cases hm with
  | same =>
    refine .inr ⟨rfl, fun _ => ?_⟩
    by_cases hp : (w.mem a).priv_data = some q
    · exact .inl hp
    · exact .inr (.inl hp)
  | @asked p r k pack ht hp =>
    by_cases hqp : q = p
    · subst hqp
      rw [assign_same]
      exact .inl ⟨rfl, rfl⟩
    · rw [assign_other hqp] at hu
      refine .inr ⟨?_, fun _ => .inr (.inr ⟨ht, ?_⟩)⟩
      · rw [assign_other hqp]
        exact (radiusGetFreeId_gives hs.bounded hp).other q hqp (.inr hu)
      · have hp' : radiusGetFreeId (w.env o a) w.rad = some (p, r) := hp
        simp only [Env.nextId, hp', Option.map_some, ne_eq, Option.some.injEq]
        exact fun h => hqp h.symm
  | @released p hp =>
    obtain ⟨hqp, -⟩ := free_used hu
    refine .inr ⟨free_other hqp, fun _ => .inr (.inl ?_)⟩
    have hp' : (w.mem a).priv_data = some p := hp
    rw [hp']
    exact fun h => hqp (Option.some.inj h).symm
  | @again p k pack hp ho =>
    by_cases hqp : q = p
    · subst hqp
      rw [assign_same]
      exact .inl ⟨rfl, rfl⟩
    · refine .inr ⟨assign_other hqp, fun _ => .inr (.inl ?_)⟩
      have hp' : (w.mem a).priv_data = some p := hp
      rw [hp']
      exact fun h => hqp (Option.some.inj h).symm
  | lost ho =>
    refine .inr ⟨rfl, fun hsess => .inr (.inl fun hp => ho ⟨q, hp, hu, hsess⟩)⟩
  | @misfit p d ht hmis =>
    obtain ⟨hqp, -⟩ := free_used hu
    refine .inr ⟨free_other hqp, fun _ => ?_⟩
    by_cases hp : (w.mem a).priv_data = some q
    · exact .inl hp
    · exact .inr (.inl hp)

/-- A transition of a session that has no other request outstanding keeps the back-pointers. -/
theorem Points.step (hs : Sound w) (h : Points w) (ha : a ∈ w.tables.sess_list)
    (hg : w.single o a t) (hm : IdMove t (w.env o a) (w.ctx a) r x)
    (hu : (r.id q).status = .USED) (hsess : (r.id q).sess = some a) : x = some q := by
  rcases hm.used hs hu with ⟨-, hx⟩ | ⟨hsame, hrest⟩
  · exact hx
  · rw [hsame] at hu hsess
    have hp := h q hu a ha hsess
    rcases hrest hsess with hx | hx | ⟨hasks, hnext⟩
    · exact hx
    · exact absurd hp hx
    · have hown : w.owned a := World.owned_iff.mpr ⟨q, hp, hu, hsess⟩
      have := of_decide_eq_true hg hasks hown
      exact absurd (this.trans hp) hnext

/-- Likewise for the other sessions. -/
theorem Points.step_other (hs : Sound w) (h : Points w) (hm : IdMove t (w.env o a) (w.ctx a) r x)
    (hb : b ∈ w.tables.sess_list) (hne : b ≠ a) (hu : (r.id q).status = .USED)
    (hsess : (r.id q).sess = some b) :
    r.id q = w.rad.id q ∧ (w.mem b).priv_data = some q := by
  rcases hm.used hs hu with ⟨ha, -⟩ | ⟨hsame, -⟩
  · rw [ha] at hsess
    exact absurd (Option.some.inj hsess).symm hne
  · rw [hsame] at hu hsess
    exact ⟨hsame, h q hu b hb hsess⟩

theorem Points.kept (h : Points w) (hk : Kept w w') : Points w' := by
  intro p hu b hb hsess
  rw [hk.id] at hu hsess
  rw [hk.list] at hb
  rw [hk.life b hb]
  exact h p hu b hb hsess

theorem Points.moves (hs : Sound w) (h : Points w) (ha : a ∈ w.tables.sess_list)
    (hg : w.single o a t) {v : View} (hm : IdMove t (w.env o a) (w.ctx a) v.rad v.life.priv_data)
    (hmv : Moves w a v w') : Points w' := by
  intro q hu b hb hsess
  rw [hmv.rad] at hu hsess
  rw [hmv.list] at hb
  by_cases hba : b = a
  · rw [hba] at hsess
    rw [hba, hmv.life]
    exact h.step hs ha hg hm hu hsess
  · rw [hmv.mem b hba]
    exact (h.step_other hs hm hb hba hu hsess).2

theorem Points.leaves (hs : Sound w) (h : Points w) {v : View}
    (hm : IdMove t (w.env o a) (w.ctx a) v.rad v.life.priv_data) (hlv : Leaves w a v w') :
    Points w' := by
  intro q hu b hb hsess
  rw [hlv.rad] at hu hsess
  obtain ⟨hb', hne⟩ := (hlv.list b).mp hb
  rw [hlv.mem b hb' hne]
  exact (h.step_other hs hm hb' hne hu hsess).2

theorem Points.stray (h : Points w) : Points { w with rad := w.rad.free p } := by
  intro q hu b hb hsess
  obtain ⟨hqp, hu'⟩ := free_used hu
  rw [free_other hqp] at hsess
  exact h q hu' b hb hsess

theorem Points.start (hs : Sound w) : Points { w with rad := w.rad.start } :=
  fun _ hu => absurd hu (start_used hs.bounded)

theorem IdsCoherent.points (h : IdsCoherent w) : Points w := by
  intro p hu a _ hsess
  obtain ⟨b, -, hsess', hp⟩ := h p hu
  rw [hsess] at hsess'
  cases hsess'
  exact hp

theorem IdsCoherent.alive_step (hs : Sound w) (h : IdsCoherent w) (ha : a ∈ w.tables.sess_list)
    (hm : IdMove t (w.env o a) (w.ctx a) r x) (hu : (r.id q).status = .USED) :
    ∃ b ∈ w.tables.sess_list, (r.id q).sess = some b := by
  rcases hm.used hs hu with ⟨hsess, -⟩ | ⟨hsame, -⟩
  · exact ⟨a, ha, hsess⟩
  · rw [hsame] at hu ⊢
    obtain ⟨b, hb, hsess, -⟩ := h q hu
    exact ⟨b, hb, hsess⟩

/-! ## Sessions that end -/

/-- A request that was refused for want of an identifier finds the session without one. -/
theorem not_owned_of_refused (hg : w.single o a t) (hasks : t.asks (w.mem a))
    (hnext : (w.env o a).nextId w.rad = none) : w.owned a = false := by
  by_contra hown
  rw [Bool.not_eq_false] at hown
  have := of_decide_eq_true hg hasks hown
  obtain ⟨p, hp, -⟩ := World.owned_iff.mp hown
  rw [hnext, hp] at this
  cases this

/-- A session that ends leaves no identifier in use that it remembers. -/
theorem IdEnd.none (hm : IdEnd t (w.env o a) (w.ctx a) r x) (hg : idGuard.run w o a t)
    (hx : x = some p) (hu : (r.id p).status = .USED) : (r.id p).sess ≠ some a := by
  obtain ⟨hone, hend, hab⟩ := hg
  have hfree : w.owned a = false → (w.mem a).priv_data = some p → (w.rad.id p).status = .USED →
      (w.rad.id p).sess ≠ some a := by
    intro hown hp hu hsess
    rw [World.owned_iff.mpr ⟨p, hp, hu, hsess⟩] at hown
    cases hown
  cases hm with
  | plain ht => exact hfree (Bool.eq_false_iff.mpr (hend ht)) hx hu
  | released => cases hx
  | noId ht hid => exact hfree (not_owned_of_refused hone ht hid) hx hu
  | taken h => exact absurd h hab

/-! ## Coherence -/

theorem ids_coherent_inv : Invariant idGuard IdsCoherent where
  kept := by
    intro w w' _ h hk p hu
    rw [hk.id] at hu
    obtain ⟨a, ha, hsess, hp⟩ := h p hu
    refine ⟨a, hk.list ▸ ha, hk.id ▸ hsess, ?_⟩
    rw [hk.life a ha]
    exact hp
  enters := by
    intro w w' a s _ h _ _ _ he p hu
    rw [he.rad] at hu
    obtain ⟨b, hb, hsess, hp⟩ := h p hu
    refine ⟨b, ?_, he.rad ▸ hsess, ?_⟩
    · rw [he.list]
      exact List.mem_append_left _ hb
    · rw [he.mem b hb]
      exact hp
  moves := by
    intro w w' a t o v hs h ha hg _ hm hf _ hmv p hu
    have hids := hm.ids_move hf
    obtain ⟨b, hb, hsess⟩ := h.alive_step hs ha hids (hmv.rad ▸ hu)
    have hpts := h.points.moves hs ha hg.1 hids hmv
    have hb' : b ∈ w'.tables.sess_list := hmv.list ▸ hb
    have hsess' : (w'.rad.id p).sess = some b := hmv.rad ▸ hsess
    exact ⟨b, hb', hsess', hpts p hu b hb' hsess'⟩
  leaves := by
    intro w w' a t o v hs h ha hg _ hm hf hx hlv p hu
    have hids := hm.ids_move hf
    have hu' : (v.rad.id p).status = .USED := hlv.rad ▸ hu
    obtain ⟨b, hb, hsess⟩ := h.alive_step hs ha hids hu'
    have hne : b ≠ a := by
      rintro rfl
      have hp := h.points.step hs ha hg.1 hids hu' hsess
      exact (hm.ids_end hf hx rfl).none hg hp hu' hsess
    have hpts := h.points.leaves hs hids hlv
    have hb' : b ∈ w'.tables.sess_list := (hlv.list b).mpr ⟨hb, hne⟩
    have hsess' : (w'.rad.id p).sess = some b := hlv.rad ▸ hsess
    exact ⟨b, hb', hsess', hpts p hu b hb' hsess'⟩
  stray := by
    intro w p a _ h _ _ _ q hu
    obtain ⟨hqp, hu'⟩ := free_used hu
    obtain ⟨b, hb, hsess, hp⟩ := h q hu'
    exact ⟨b, hb, by rw [free_other hqp]; exact hsess, hp⟩
  start := by
    intro w hs _ _ p hu
    exact absurd hu (start_used hs.bounded)

/-- In every run in which no session sends a request while it has another outstanding, and none ends
while it owns an identifier or with an identifier it has just taken, the identifiers in use and the
sessions point to each other. -/
theorem ids_coherent {cfg : Config} {pool : Ippool} {status : BackupStatus}
    {xs : List (Event × Oracle)} (ho : Obeys step idGuard.Meets (World.init cfg pool status) xs) :
    IdsCoherent (runEvents (World.init cfg pool status) xs) := by
  refine (ids_coherent_inv.run ?_ ho).2
  intro p hu
  cases hu

theorem ids_coherent_login :
    IdsCoherent (runEvents (World.init sampleCfg samplePool .NONE) sampleLogin) :=
  ids_coherent (by decide +kernel)

/-- The client terminates while its Access-Request is outstanding. -/
def padtRun : List (Event × Oracle) := sampleAuth ++ [(.padt 1 sampleMac, sampleOracle)]

theorem ids_dangling : ¬ IdsCoherent (runEvents (World.init sampleCfg samplePool .NONE) padtRun) := by
  intro h
  obtain ⟨a, ha, -⟩ := h ⟨0, 0⟩ (by decide +kernel)
  have hnil : (runEvents (World.init sampleCfg samplePool .NONE) padtRun).tables.sess_list = [] := by
    decide +kernel
  rw [hnil] at ha
  cases ha

/-! ## Answers and requests -/

/-- The session at `a` is no longer in the state `st`. -/
def World.outOf (w : World) (a : Addr) (st : SessState) : Prop :=
  a ∉ w.tables.sess_list ∨ (w.mem a).state ≠ st

/-- The request that the datagram answers is the one of this kind that the session waits for. -/
def World.Answers (w : World) (sock : Nat) (d : Datagram) (a : Addr) (k : ReqKind) : Prop :=
  ∃ p, w.radidOf sock d = some p ∧ (w.rad.id p).sess = some a ∧ (w.mem a).priv_data = some p ∧
    (w.rad.id p).kind = k

/-- A datagram on a RADIUS socket completes a Start or a Stop only if it answers it, and releases
no identifier but the one it names. -/
structure AnswersMatch (w : World) (o : Oracle) (sock : Nat) (d : Datagram) : Prop where
  started : ∀ a ∈ w.tables.sess_list, (w.mem a).state = .ONLINEPOST →
    (step w (.radius sock d, o)).outOf a .ONLINEPOST → w.Answers sock d a .start
  stopped : ∀ a ∈ w.tables.sess_list, (w.mem a).state = .OFFLINEPOST →
    (step w (.radius sock d, o)).outOf a .OFFLINEPOST → w.Answers sock d a .stop
  released : ∀ q, (w.rad.id q).status = .USED →
    ((step w (.radius sock d, o)).rad.id q).status ≠ .USED → w.radidOf sock d = some q

def Radius.ids (r : Radius) : List RadPtr :=
  (List.range r.socks).flatMap fun k => (List.range 256).map fun i => ⟨k, UInt8.ofNat i⟩

/-- No request is sent while another of the session is outstanding, no interim update while a Start
or a Stop is pending, and no session is set up in a record that an identifier is in use for. -/
def answerGuard : Guard where
  run w o a t := w.single o a t ∧ (t = .timer .UPDATE →
    (w.mem a).state ≠ .ONLINEPOST ∧ (w.mem a).state ≠ .OFFLINEPOST)
  record w a := ∀ p ∈ w.rad.ids, (w.rad.id p).status = .USED → (w.rad.id p).sess ≠ some a

instance : answerGuard.Checks where
  run w o a t := inferInstanceAs (Decidable (w.single o a t ∧ (t = .timer .UPDATE →
    (w.mem a).state ≠ .ONLINEPOST ∧ (w.mem a).state ≠ .OFFLINEPOST)))
  record w a := inferInstanceAs (Decidable (∀ p ∈ w.rad.ids, (w.rad.id p).status = .USED →
    (w.rad.id p).sess ≠ some a))
  online _ _ := inferInstanceAs (Decidable True)
  start _ := inferInstanceAs (Decidable True)

/-- A session that waits for an accounting request waits for one of the right kind. -/
structure Suits (k : ReqKind) (st : SessState) : Prop where
  start : st = .ONLINEPOST → k = .start
  stop : st = .OFFLINEPOST → k = .stop

theorem Suits.of_ne {k : ReqKind} {st : SessState} (h₁ : st ≠ .ONLINEPOST) (h₂ : st ≠ .OFFLINEPOST) :
    Suits k st :=
  ⟨fun h => absurd h h₁, fun h => absurd h h₂⟩

theorem suits_retransport (st : SessState) : Suits (retransportKind st) st := by
  constructor <;> rintro rfl <;> rfl

theorem mem_ids {r : Radius} (hb : r.Bounded) (hu : (r.id p).status = .USED) : p ∈ r.ids := by
  obtain ⟨k, i⟩ := p
  refine List.mem_flatMap.mpr ⟨k, List.mem_range.mpr (hb.used _ hu), ?_⟩
  exact List.mem_map.mpr ⟨i.toNat, List.mem_range.mpr i.toNat_lt, by simp⟩

theorem Move.suits {e : Env} {c : Ctx} {v : View} (h : Move t e c v) (hv : v.fault = false)
    (hx : v.exited = false)
    (hupd : t = .timer .UPDATE → c.sess.state ≠ .ONLINEPOST ∧ c.sess.state ≠ .OFFLINEPOST)
    (hold : (c.rad.id q).status = .USED → (c.rad.id q).sess = some e.self →
      Suits (c.rad.id q).kind c.sess.state)
    (hq : v.life.priv_data = some q) (hu : (v.rad.id q).status = .USED)
    (hsess : (v.rad.id q).sess = some e.self) : Suits (v.rad.id q).kind v.life.state := by
  have hnot : ∀ {k : ReqKind} {st : SessState}, st ≠ .ONLINEPOST ∧ st ≠ .OFFLINEPOST → Suits k st :=
    fun h => .of_ne h.1 h.2
  cases h with
  | idle | sync => exact hold hu hsess
  | address _ ha =>
    obtain ⟨y, -, rfl⟩ := ha
    exact hold hu hsess
  | preopen | postopen | authpre | authpost | opened | onlinepre | online | standby | stuck =>
    exact hnot (by constructor <;> exact fun h => by cases h)
  | onlinepost _ _ ha =>
    cases ha with
    | mk =>
      cases hq
      refine ⟨fun _ => ?_, fun h => by cases h⟩
      exact congrArg RadiusId.kind assign_same
  | offlinepost _ _ ha =>
    cases ha with
    | mk =>
      cases hq
      refine ⟨(fun h => by cases h), fun _ => ?_⟩
      exact congrArg RadiusId.kind assign_same
  | update ht ha =>
    have hst : v.life.state = c.sess.state := by
      rcases ha with ha | ha <;> exact ha.frame.state
    rw [hst]
    exact hnot (hupd ht)
  | settled _ hst =>
    rw [show c.view.settle.life.state = c.sess.state from clean_state c.view]
    exact hnot hst.2
  | retransmit _ hp _ =>
    cases hq
    show Suits ((c.rad.assign q e.self (retransportKind c.sess.state) _).id q).kind c.sess.state
    rw [assign_same]
    exact suits_retransport c.sess.state
  | lost => cases hq
  | @misfit p _ _ _ =>
    obtain ⟨hqp, hu'⟩ := free_used hu
    have hsess' : ((c.rad.free p).id q).sess = some e.self := hsess
    show Suits ((c.rad.free p).id q).kind c.sess.state
    rw [free_other hqp] at hsess' ⊢
    exact hold hu' hsess'
  | exitAuth | exitOpened | exitOnline | exitOffline | exitStopped | exit | disconnect | clear =>
    cases hx
  | faulty h => rw [h] at hv; cases hv

/-- Back-pointers, and requests of the right kind. -/
structure Expects (w : World) : Prop where
  points : Points w
  suits : ∀ p, (w.rad.id p).status = .USED → ∀ a ∈ w.tables.sess_list,
    (w.rad.id p).sess = some a → Suits (w.rad.id p).kind (w.mem a).state

theorem expects : Invariant answerGuard Expects where
  kept := by
    intro w w' _ h hk
    refine ⟨h.points.kept hk, fun p hu b hb hsess => ?_⟩
    rw [hk.id] at hu hsess ⊢
    rw [hk.list] at hb
    rw [hk.life b hb]
    exact h.suits p hu b hb hsess
  enters := by
    intro w w' a s hs h _ _ hg he
    -- an identifier that named the record before would be one of the identifiers in use
    have hfresh : ∀ p, (w.rad.id p).status = .USED → (w.rad.id p).sess ≠ some a :=
      fun p hu => hg p (mem_ids hs.bounded hu) hu
    have hold : ∀ b, b ∈ w'.tables.sess_list → ∀ p, (w.rad.id p).status = .USED →
        (w.rad.id p).sess = some b → b ∈ w.tables.sess_list := by
      intro b hb p hu hsess
      rw [he.list, List.mem_append, List.mem_singleton] at hb
      rcases hb with hb | rfl
      · exact hb
      · exact absurd hsess (hfresh p hu)
    constructor
    · intro p hu b hb hsess
      rw [he.rad] at hu hsess
      have hb' := hold b hb p hu hsess
      rw [he.mem b hb']
      exact h.points p hu b hb' hsess
    · intro p hu b hb hsess
      rw [he.rad] at hu hsess ⊢
      have hb' := hold b hb p hu hsess
      rw [he.mem b hb']
      exact h.suits p hu b hb' hsess
  moves := by
    intro w w' a t o v hs h ha hg _ hm hf hx hmv
    have hids := hm.ids_move hf
    refine ⟨h.points.moves hs ha hg.1 hids hmv, fun q hu b hb hsess => ?_⟩
    rw [hmv.rad] at hu hsess ⊢
    rw [hmv.list] at hb
    by_cases hba : b = a
    · rw [hba] at hsess
      have hx' := h.points.step hs ha hg.1 hids hu hsess
      rw [hba, hmv.life]
      exact hm.suits hf hx hg.2 (fun hu' hsess' => h.suits q hu' a ha hsess') hx' hu hsess
    · obtain ⟨hsame, -⟩ := h.points.step_other hs hids hb hba hu hsess
      rw [hsame] at hu hsess ⊢
      rw [hmv.mem b hba]
      exact h.suits q hu b hb hsess
  leaves := by
    intro w w' a t o v hs h ha hg _ hm hf _ hlv
    have hids := hm.ids_move hf
    refine ⟨h.points.leaves hs hids hlv, fun q hu b hb hsess => ?_⟩
    rw [hlv.rad] at hu hsess ⊢
    obtain ⟨hb', hne⟩ := (hlv.list b).mp hb
    obtain ⟨hsame, -⟩ := h.points.step_other hs hids hb' hne hu hsess
    rw [hsame] at hu hsess ⊢
    rw [hlv.mem b hb' hne]
    exact h.suits q hu b hb' hsess
  stray := by
    intro w p a _ h _ _ _
    refine ⟨h.points.stray, fun q hu b hb hsess => ?_⟩
    obtain ⟨hqp, hu'⟩ := free_used hu
    simp only [free_other hqp] at hsess ⊢
    exact h.suits q hu' b hb hsess
  start := by
    intro w hs _ _
    exact ⟨Points.start hs, fun p hu => absurd hu (start_used hs.bounded)⟩

/-- A reply releases at most the identifier it names. -/
theorem reply_releases (hs : Sound w) (h : Points w) {d : Datagram}
    (hu : (w.rad.id p).status = .USED) (hsess : (w.rad.id p).sess = some a)
    (hq : (w.rad.id q).status = .USED)
    (hgone : ((w.runOn o a (.reply p d)).rad.id q).status ≠ .USED) : q = p := by
  by_contra hqp
  by_cases ha : a ∈ w.tables.sess_list
  · have hp := h p hu a ha hsess
    have hkeep : ∀ {v : View}, Move (.reply p d) (w.env o a) (w.ctx a) v → v.fault = false →
        (v.rad.id q).status = .USED := by
      intro v hm hf
      have hids := hm.ids_move hf
      generalize v.rad = r, v.life.priv_data = x at hids
      cases hids with
      | same | lost => exact hq
      | asked ht => simp [Trigger.asks, Trigger.stops] at ht
      | released hp' =>
        have : (w.mem a).priv_data = _ := hp'
        rw [hp] at this
        cases this
        rw [free_other hqp]
        exact hq
      | again hp' =>
        have : (w.mem a).priv_data = _ := hp'
        rw [hp] at this
        cases this
        rw [assign_other hqp]
        exact hq
      | misfit ht =>
        cases ht
        rw [free_other hqp]
        exact hq
    rcases runOn_effect hs ha o (.reply p d) with heq | heq | ⟨v, hm, hf, -, ⟨-, hmv⟩ | ⟨-, hlv⟩⟩
    · rw [heq] at hgone
      exact hgone hq
    · rw [heq] at hgone
      exact hgone hq
    · rw [hmv.rad] at hgone
      exact hgone (hkeep hm hf)
    · rw [hlv.rad] at hgone
      exact hgone (hkeep hm hf)
  · rcases stray_effect (o := o) (p := p) (d := d) hs ha with heq | heq <;> rw [heq] at hgone
    · exact hgone hq
    · simp only [free_other hqp] at hgone
      exact hgone hq

/-- A reply leaves the sessions that it is not for alone. -/
theorem reply_other (hs : Sound w) {d : Datagram} (hb : b ∈ w.tables.sess_list) (hne : b ≠ a) {st : SessState}
    (hst : (w.mem b).state = st) : ¬ (w.runOn o a (.reply p d)).outOf b st := by
  have hsame : ∀ {w' : World}, b ∈ w'.tables.sess_list → w'.mem b = w.mem b → ¬ w'.outOf b st := by
    rintro w' hin hmem (hout | hout)
    · exact hout hin
    · rw [hmem] at hout
      exact hout hst
  by_cases ha : a ∈ w.tables.sess_list
  · rcases runOn_effect hs ha o (.reply p d) with heq | heq | ⟨v, hm, hf, -, ⟨-, hmv⟩ | ⟨-, hlv⟩⟩
    · rw [heq]
      exact hsame hb rfl
    · rw [heq]
      exact hsame hb rfl
    · exact hsame (hmv.list ▸ hb) (hmv.mem b hne)
    · exact hsame ((hlv.list b).mpr ⟨hb, hne⟩) (hlv.mem b hb hne)
  · rcases stray_effect (o := o) (p := p) (d := d) hs ha with heq | heq <;> rw [heq] <;>
      exact hsame hb rfl

theorem Expects.match (hs : Sound w) (h : Expects w) (o : Oracle) (sock : Nat) (d : Datagram) :
    AnswersMatch w o sock d := by
  have hstay : ∀ {b : Addr} {st : SessState}, b ∈ w.tables.sess_list → (w.mem b).state = st →
      ¬ w.outOf b st := by
    rintro b st hb hst (hout | hout)
    · exact hout hb
    · exact hout hst
  -- a datagram that changes anything names an identifier in use, and its session takes it
  have hstep : step w (.radius sock d, o) = w ∨ step w (.radius sock d, o) = { w with fault := true } ∨
      ∃ p a, w.radidOf sock d = some p ∧ (w.rad.id p).sess = some a ∧
        step w (.radius sock d, o) = w.runOn o a (.reply p d) := by
    rw [step]
    split
    · exact .inl rfl
    · simp only [World.dispatch, World.radiusSock]
      cases hp : w.radidOf sock d with
      | none => exact .inl rfl
      | some p =>
        cases hsess : (w.rad.id p).sess with
        | none => exact .inr (.inl (by simp [hsess]))
        | some a => exact .inr (.inr ⟨p, a, rfl, hsess, by simp [hsess]⟩)
  have hanswers : ∀ a ∈ w.tables.sess_list, ∀ st,
      (w.mem a).state = st → (step w (.radius sock d, o)).outOf a st →
      ∃ p, w.radidOf sock d = some p ∧ (w.rad.id p).status = .USED ∧ (w.rad.id p).sess = some a := by
    intro a ha st hst hout
    rcases hstep with heq | heq | ⟨p, b, hp, hsess, heq⟩
    · rw [heq] at hout
      exact absurd hout (hstay ha hst)
    · rw [heq] at hout
      exact absurd hout (hstay ha hst)
    · by_cases hab : a = b
      · exact ⟨p, hp, radidOf_used hp, hab ▸ hsess⟩
      · rw [heq] at hout
        exact absurd hout (reply_other hs ha hab hst)
  constructor
  · intro a ha hst hout
    obtain ⟨p, hp, hu, hsess⟩ := hanswers a ha _ hst hout
    exact ⟨p, hp, hsess, h.points p hu a ha hsess, (h.suits p hu a ha hsess).start hst⟩
  · intro a ha hst hout
    obtain ⟨p, hp, hu, hsess⟩ := hanswers a ha _ hst hout
    exact ⟨p, hp, hsess, h.points p hu a ha hsess, (h.suits p hu a ha hsess).stop hst⟩
  · intro q hq hgone
    rcases hstep with heq | heq | ⟨p, a, hp, hsess, heq⟩
    · rw [heq] at hgone
      exact absurd hq hgone
    · rw [heq] at hgone
      exact absurd hq hgone
    · rw [heq] at hgone
      rw [reply_releases hs h.points (radidOf_used hp) hsess hq hgone]
      exact hp

/-- After every run in which no session sends a request while another of it is outstanding, none
sends an interim update while a Start or a Stop is pending, and no record that an identifier is in
use for is handed out, a datagram completes a Start or a Stop only if it answers it. -/
theorem answers_match {cfg : Config} {pool : Ippool} {status : BackupStatus}
    {xs : List (Event × Oracle)}
    (ho : Obeys step answerGuard.Meets (World.init cfg pool status) xs) (o : Oracle) (sock : Nat)
    (d : Datagram) : AnswersMatch (runEvents (World.init cfg pool status) xs) o sock d := by
  have h0 : Expects (World.init cfg pool status) := by
    constructor <;> intro p hu <;> cases hu
  obtain ⟨hs, h⟩ := expects.run h0 ho
  exact h.match hs o sock d

theorem answers_match_start :
    AnswersMatch (runEvents (World.init sampleCfg samplePool .NONE) sampleStart) sampleOracle 0
      sampleStarted :=
  answers_match (by decide +kernel) sampleOracle 0 sampleStarted

/-- A client that is online sends an interim update, and terminates before it is answered. -/
def lateRun : List (Event × Oracle) :=
  sampleLogin ++ [(.timer 1 .UPDATE, sampleOracle), (.padt 1 sampleMac, sampleOracle)]

/-- The answer to the interim update. -/
def lateAnswer : Datagram :=
  ⟨1, 1813, [5, 2, 0, 20, 18, 240, 24, 205, 25, 231, 2, 138, 101, 132, 47, 79, 67, 213, 146, 65]⟩

/-- The late answer is taken for the answer to the Accounting-Stop. -/
theorem late_answer_stops :
    ¬ AnswersMatch (runEvents (World.init sampleCfg samplePool .NONE) lateRun) sampleOracle 0
      lateAnswer := by
  intro h
  obtain ⟨p, hp, -, hpriv, -⟩ := h.stopped 1 (by decide +kernel) (by decide +kernel)
    (.inl (by decide +kernel))
  have hnamed : (runEvents (World.init sampleCfg samplePool .NONE) lateRun).radidOf 0 lateAnswer =
      some ⟨0, 2⟩ := by
    decide +kernel
  have hpriv' : ((runEvents (World.init sampleCfg samplePool .NONE) lateRun).mem 1).priv_data =
      some ⟨0, 3⟩ := by
    decide +kernel
  rw [hnamed] at hp
  rw [hpriv'] at hpriv
  cases hp
  cases hpriv

end

end Pppoe
end DaemonGroup
