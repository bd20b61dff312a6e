import DaemonGroup.Pppoe.Invariant

/-!
# DaemonGroup.Pppoe.Accounting

A session that has told the RADIUS server of its start tells it of its stop before it is freed, and
tells it of each once. The Accounting-Stop is sent by `sess_offline`, and only a session that is
`ONLINE` goes through it: a session that ends while its Accounting-Start is unanswered sends none,
nor does one that is ended behind its back.
-/

namespace DaemonGroup
namespace Pppoe

open Lib

/-- The starts and stops among what was done in a session, in order. -/
def acct (ms : List Mark) : List ReqKind :=
  ms.filterMap fun m => match m with
    | .request .start => some .start
    | .request .stop => some .stop
    | _ => none

/-- A session that was started has been stopped. -/
def Settled (ms : List Mark) : Prop := .start ∈ acct ms → .stop ∈ acct ms

/-- At most one start and one stop, in this order. -/
def OnePair (ms : List Mark) : Prop := (acct ms).Sublist [.start, .stop]

/-- No session opens a second pair, and none is freed with its pair open. -/
structure Balanced (w : World) : Prop where
  sessions : ∀ a ∈ w.tables.sess_list, OnePair (w.mem a).marks
  ended : ∀ ms ∈ w.ended, OnePair ms ∧ Settled ms

/-- The session has been started and not stopped. -/
def owesStop (ms : List Mark) : Bool := .start ∈ acct ms ∧ .stop ∉ acct ms

/-- A request gets an identifier and is sent. -/
def Env.transmits (e : Env) (r : Radius) : Bool := (e.nextId r).isSome ∧ ¬ e.fail .radiusSend

/-- A session that owes its stop is not ended at once, and the stop that it sends is sent. -/
def Trigger.paysStop (t : Trigger) (e : Env) (r : Radius) (s : Session) : Bool :=
  owesStop s.marks → ¬ t.mayEnd s ∧ (s.state = .ONLINE → t = .clear ∨ t.stops s → e.transmits r)

/-- The kernel's word that the client is authorised reaches a session that has neither started nor
stopped, and its Accounting-Start will be repeated; to a standby, one that has not stopped. -/
def Trigger.startsOnce (t : Trigger) (e : Env) (r : Radius) (s : Session) : Bool :=
  match t with
  | .authorize ip err => err = 0 → s.ipaddr.ip = ip → e.transmits r →
    acct s.marks = [] ∧ (s.retrans = .none → ¬ e.fail (.timer .RETRANS))
  | .standbyAuthorize ip err => err = 0 → s.ipaddr.ip = ip → .stop ∉ acct s.marks
  | _ => true

def Trigger.balances (t : Trigger) (e : Env) (r : Radius) (s : Session) : Bool :=
  t.paysStop e r s ∧ t.startsOnce e r s

def balanceGuard : Guard where
  run w o a t := t.balances (w.env o a) w.rad (w.mem a)

instance : balanceGuard.Checks where
  run w o a t := inferInstanceAs (Decidable (t.balances (w.env o a) w.rad (w.mem a)))
  record _ _ := inferInstanceAs (Decidable True)
  online _ _ := inferInstanceAs (Decidable True)
  start _ := inferInstanceAs (Decidable True)

/-! ## Starts and stops -/

section
variable {ms : List Mark} {m : Mark} {k : ReqKind} {e : Env} {v v' : View}

theorem acct_snoc (ms : List Mark) (m : Mark) : acct (ms ++ [m]) = acct ms ++ acct [m] :=
  List.filterMap_append

theorem acct_silent (hm : acct [m] = []) : acct (ms ++ [m]) = acct ms := by
  rw [acct_snoc, hm, List.append_nil]

theorem OnePair.stop (h : OnePair ms) (hno : .stop ∉ acct ms) : OnePair (ms ++ [.request .stop]) := by
  have hsub : (acct ms).Sublist ([.start] ++ [.stop]) := h
  obtain ⟨l₁, l₂, hl, h₁, h₂⟩ := List.sublist_append_iff.mp hsub
  have hnil : l₂ = [] := by
    rcases List.sublist_singleton.mp h₂ with rfl | rfl
    · rfl
    · rw [hl] at hno
      simp at hno
  rw [hnil, List.append_nil] at hl
  rw [OnePair, acct_snoc, hl]
  exact h₁.append (List.Sublist.refl [ReqKind.stop])

theorem OnePair.start (h : acct ms = []) : OnePair (ms ++ [.request .start]) := by
  rw [OnePair, acct_snoc, h]
  decide

theorem settled_iff : Settled ms ↔ owesStop ms = false := by
  simp [Settled, owesStop]

theorem Settled.stop : Settled (ms ++ [.request .stop]) := by
  intro _
  rw [acct_snoc]
  exact List.mem_append_right _ (List.mem_singleton_self _)

theorem AskFailed.sent (h : AskFailed e k v v') (ht : e.transmits v.rad) :
    v'.life.marks = v.life.marks ++ [.request k] := by
  have hsent := of_decide_eq_true ht
  cases h with
  | noId hid => simp [Env.nextId, hid] at hsent
  | notSent _ hf => exact absurd hf hsent.2
  | noTimer => rfl

theorem Asked.transmits (h : Asked e k v v') : e.transmits v.rad := by
  cases h with
  | mk hid hsend => simp [Env.transmits, Env.nextId, hid, hsend]

end

/-! ## One session -/

/-- The states between the Accounting-Start and the Accounting-Stop. -/
def SessState.accounted (st : SessState) : Bool := st = .ONLINEPOST ∨ st = .ONLINE

/-- A session owes its stop only while it is accounted, and has not stopped while it is. -/
structure Life.Billed (l : Life) : Prop where
  pair : OnePair l.marks
  settled : l.state.accounted = false → Settled l.marks
  unpaid : l.state.accounted = true → .stop ∉ acct l.marks

section
variable {t : Trigger} {e : Env} {c : Ctx} {k : ReqKind} {v v' : View} {l l' : Life}

theorem Life.Billed.keep (h : l.Billed) (hm : acct l'.marks = acct l.marks)
    (hs : l'.state = l.state) : l'.Billed := by
  refine ⟨?_, ?_, ?_⟩
  · rw [OnePair, hm]
    exact h.pair
  · rw [Settled, hm, hs]
    exact h.settled
  · rw [hm, hs]
    exact h.unpaid

/-- A session that is not accounted any more: it has been stopped, or was never started. -/
theorem Life.Billed.away (hp : OnePair l.marks) (hs : Settled l.marks)
    (hst : l.state.accounted = false) : l.Billed :=
  ⟨hp, fun _ => hs, fun ha => by rw [hst] at ha; cases ha⟩

/-- An Accounting-Stop that could not be sent, or is not repeated, is not owed. -/
theorem AskFailed.stopped (h : AskFailed e .stop c.view v) (hb : c.sess.toLife.Billed)
    (hst : c.sess.state = .ONLINE) (hpay : owesStop c.sess.marks → e.transmits c.rad) :
    OnePair v.life.marks ∧ Settled v.life.marks := by
  have hno : .stop ∉ acct c.sess.marks := hb.unpaid (by rw [hst]; rfl)
  have hsent : v.life.marks = c.sess.marks ++ [.request .stop] →
      OnePair v.life.marks ∧ Settled v.life.marks := by
    intro hm
    rw [hm]
    exact ⟨hb.pair.stop hno, .stop⟩
  cases howe : owesStop c.sess.marks with
  | true => exact hsent (h.sent (hpay howe))
  | false =>
    rcases h.marks with hm | hm
    · rw [hm]
      exact ⟨hb.pair, settled_iff.mpr howe⟩
    · exact hsent hm

theorem SessState.lcp_accounted {st : SessState} (h : st.lcp) : st.accounted = false := by
  cases st <;> first | rfl | cases h

/-- A session that goes on is billed. -/
theorem Move.billed (h : Move t e c v) (hv : v.fault = false) (hx : v.exited = false)
    (hb : c.sess.toLife.Billed) (hg : t.balances e c.rad c.sess) : v.life.Billed := by
  obtain ⟨hpay, hstart⟩ := of_decide_eq_true hg
  have hearly : ∀ {l : Life}, c.sess.state.accounted = false →
      acct l.marks = acct c.sess.marks → l.state.accounted = false → l.Billed := by
    intro l hst hm hst'
    refine .away ?_ ?_ hst'
    · rw [OnePair, hm]
      exact hb.pair
    · rw [Settled, hm]
      exact hb.settled hst
  cases h with
  | idle | sync | retransmit | lost | misfit => exact hb.keep rfl rfl
  | settled =>
    obtain ⟨q, hq⟩ := settle_life c.view
    rw [hq]
    exact hb.keep rfl rfl
  | address _ ha =>
    obtain ⟨y, -, rfl⟩ := ha
    exact hb.keep rfl rfl
  | preopen hst => exact hearly (by rw [hst]; rfl) rfl rfl
  | postopen hst => exact hearly (by rcases hst with hst | hst <;> rw [hst] <;> rfl) rfl rfl
  | authpre _ hopen hms =>
    refine hearly (SessState.lcp_accounted (Frame.opens_lcp hopen)) ?_ rfl
    rcases hms with rfl | ⟨rfl, -⟩
    · exact acct_silent rfl
    · exact congrArg acct (List.append_nil _)
  | @authpost f y _ _ hst ha =>
    refine hearly (by rw [hst]; rfl) ?_ rfl
    show acct y.life.marks = _
    rw [ha.marks, acct_silent rfl]
    exact acct_silent rfl
  | opened _ hst =>
    refine hearly (by rw [hst]; rfl) ?_ rfl
    obtain ⟨q, hq⟩ := settle_life c.view
    show acct c.view.settle.life.marks = _
    rw [hq]
    rfl
  | onlinepre hst ha =>
    obtain ⟨y, -, rfl⟩ := ha
    exact hearly (by rw [hst]; rfl) rfl rfl
  | @onlinepost ip y ht hip ha =>
    subst ht
    have hnil := (of_decide_eq_true hstart rfl hip ha.transmits).1
    have hm : y.life.marks = c.sess.marks ++ [.request .start] := ha.marks
    refine ⟨?_, nofun, fun _ => ?_⟩
    · show OnePair y.life.marks
      rw [hm]
      exact .start hnil
    · show .stop ∉ acct y.life.marks
      rw [hm, acct_snoc, hnil]
      decide
  | online _ hst =>
    obtain ⟨q, hq⟩ := settle_life c.view
    have hm : c.view.settle.life.marks = c.sess.marks := by rw [hq]; rfl
    refine ⟨?_, nofun, fun _ => ?_⟩
    · show OnePair c.view.settle.life.marks
      rw [hm]
      exact hb.pair
    · show .stop ∉ acct c.view.settle.life.marks
      rw [hm]
      exact hb.unpaid (by rw [hst]; rfl)
  | standby ht hip =>
    subst ht
    exact ⟨hb.pair, nofun, fun _ => of_decide_eq_true hstart rfl hip⟩
  | update _ ha =>
    have hm : acct v.life.marks = acct c.sess.marks := by
      rcases ha with ha | ha
      · rw [ha.marks]
        exact acct_silent rfl
      · rcases ha.marks with h | h <;> rw [h]
        · rfl
        · exact acct_silent rfl
    have hst : v.life.state = c.sess.state := by
      rcases ha with ha | ha
      · exact ha.frame.state
      · exact ha.frame.state
    exact hb.keep hm hst
  | @offlinepost y _ hst ha =>
    have hm : y.life.marks = c.sess.marks ++ [.request .stop] := ha.marks
    refine .away ?_ ?_ rfl
    · show OnePair y.life.marks
      rw [hm]
      exact hb.pair.stop (hb.unpaid (by rw [hst]; rfl))
    · show Settled y.life.marks
      rw [hm]
      exact .stop
  | @stuck f y ht hterm hst ha =>
    subst ht
    obtain ⟨hp, hs⟩ := ha.stopped hb hst fun ho => (of_decide_eq_true hpay ho).2 hst (.inr hterm)
    exact .away hp hs rfl
  | exitAuth | exitOpened | exitOnline | exitOffline | exitStopped | exit | disconnect | clear =>
    cases hx
  | faulty h => rw [h] at hv; cases hv

/-- A session that leaves owes nothing. -/
theorem Move.paid (h : Move t e c v) (hv : v.fault = false) (hx : v.exited = true)
    (hx₀ : c.exited = false) (hb : c.sess.toLife.Billed) (hg : t.balances e c.rad c.sess) :
    OnePair v.life.marks ∧ Settled v.life.marks := by
  obtain ⟨hpay, hstart⟩ := of_decide_eq_true hg
  have hplain : ∀ {ms : List Mark}, c.sess.state.accounted = false →
      acct ms = acct c.sess.marks → OnePair ms ∧ Settled ms := by
    intro ms hst hm
    rw [OnePair, Settled, hm]
    exact ⟨hb.pair, hb.settled hst⟩
  have hend : t.mayEnd c.sess → OnePair c.sess.marks ∧ Settled c.sess.marks := by
    intro ht
    refine ⟨hb.pair, settled_iff.mpr (Bool.eq_false_iff.mpr fun ho => ?_)⟩
    exact (of_decide_eq_true hpay ho).1 ht
  have hstop : c.sess.state = .ONLINE → (t = .clear ∨ t.stops c.sess) → ∀ {y : View},
      AskFailed e .stop c.view y → OnePair y.life.marks ∧ Settled y.life.marks :=
    fun hst ht _ ha => ha.stopped hb hst fun ho => (of_decide_eq_true hpay ho).2 hst ht
  have hstay : ∀ {v : View}, v.exited = true → v.exited = c.exited → False := by
    intro v hx heq
    rw [heq, hx₀] at hx
    cases hx
  cases h with
  | @exitAuth f y _ _ _ hst ha =>
    refine hplain (by rw [hst]; rfl) ?_
    show acct y.life.marks = _
    rcases ha.marks with hm | hm <;> rw [hm]
    · exact acct_silent rfl
    · rw [acct_silent rfl]
      exact acct_silent rfl
  | exitOpened _ hst =>
    obtain ⟨q, hq⟩ := clean_life c.view
    refine hplain (by rw [hst]; rfl) ?_
    show acct c.view.clean.life.marks = _
    rw [hq]
    rfl
  | exitStopped _ hst =>
    obtain ⟨q, hq⟩ := settle_life c.view
    refine hplain (by rw [hst]; rfl) ?_
    show acct c.view.settle.life.marks = _
    rw [hq]
    rfl
  | @exitOnline ip y _ ht hip ha =>
    subst ht
    have hone := hend (decide_eq_true hip)
    cases ha with
    | noId => exact hone
    | notSent => exact hone
    | noTimer hid hsend htimer hfail =>
      -- the start was sent, and the session would end without its stop
      have hsent : e.transmits (c.view.onTimer .TIMEOUT Timer.pause).rad := by
        simp [Env.transmits, Env.nextId, hid, hsend]
      exact absurd hfail ((of_decide_eq_true hstart rfl hip hsent).2 htimer)
  | @exitOffline y _ ht _ hst ha => exact hstop hst (.inr ht) (y := y) ha
  | exit ht _ ha =>
    obtain ⟨y, -, rfl⟩ := ha
    exact hend ht
  | disconnect ht =>
    subst ht
    exact hend rfl
  | @clear y _ ht hst ha =>
    rcases ha with ha | ha
    · have hm : y.life.marks = c.sess.marks ++ [.request .stop] := ha.marks
      show OnePair y.life.marks ∧ Settled y.life.marks
      rw [hm]
      exact ⟨hb.pair.stop (hb.unpaid (by rw [hst]; rfl)), .stop⟩
    · exact hstop hst (.inl ht) (y := y) ha
  | faulty h => rw [h] at hv; cases hv
  | idle | preopen | postopen | authpre | standby | sync | retransmit | lost | misfit =>
    exact (hstay hx rfl).elim
  | opened | online | settled => exact (hstay hx (clean_exited c.view)).elim
  | authpost _ _ _ ha | onlinepost _ _ ha | offlinepost _ _ ha =>
    exact (hstay hx ha.frame.exited).elim
  | stuck _ _ _ ha => exact (hstay hx ha.frame.exited).elim
  | update _ ha => rcases ha with ha | ha <;> exact (hstay hx ha.frame.exited).elim
  | address _ ha | onlinepre _ ha =>
    obtain ⟨y, -, rfl⟩ := ha
    exact (hstay hx rfl).elim

end

/-! ## The invariant -/

structure BalanceInv (w : World) : Prop where
  sessions : ∀ a ∈ w.tables.sess_list, (w.mem a).toLife.Billed
  ended : ∀ ms ∈ w.ended, OnePair ms ∧ Settled ms

theorem balanceInv : Invariant balanceGuard BalanceInv where
  kept := by
    intro w w' _ h hk
    refine ⟨fun a ha => ?_, hk.ended ▸ h.ended⟩
    rw [hk.list] at ha
    rw [hk.life a ha]
    exact (h.sessions a ha).keep rfl rfl
  enters := by
    intro w w' a s _ h _ _ _ he
    refine ⟨fun b hb => ?_, he.ended ▸ h.ended⟩
    rw [he.list, List.mem_append, List.mem_singleton] at hb
    rcases hb with hb | rfl
    · rw [he.mem b hb]
      exact h.sessions b hb
    · rw [he.life]
      exact .away (List.nil_sublist _) (fun hm => by cases hm) rfl
  moves := by
    intro w w' a t o v _ h ha hg _ hm hf hx hmv
    refine ⟨fun b hb => ?_, hmv.ended ▸ h.ended⟩
    rw [hmv.list] at hb
    by_cases hba : b = a
    · rw [hba, hmv.life]
      exact hm.billed hf hx (h.sessions a ha) hg
    · rw [hmv.mem b hba]
      exact h.sessions b hb
  leaves := by
    intro w w' a t o v _ h ha hg _ hm hf hx hlv
    refine ⟨fun b hb => ?_, fun ms hms => ?_⟩
    · obtain ⟨hb', hne⟩ := (hlv.list b).mp hb
      rw [hlv.mem b hb' hne]
      exact h.sessions b hb'
    · rw [hlv.ended, List.mem_append, List.mem_singleton] at hms
      rcases hms with hms | rfl
      · exact h.ended ms hms
      · exact hm.paid hf hx rfl (h.sessions a ha) hg
  stray := fun _ h _ _ _ => ⟨h.sessions, h.ended⟩
  start := fun _ h _ => ⟨h.sessions, h.ended⟩

/-- In every run in which a session that owes its stop is ended only by way of a stop that is sent,
and the kernel authorises a client once, the accounts balance. -/
theorem accounts_balance {cfg : Config} {pool : Ippool} {status : BackupStatus}
    {xs : List (Event × Oracle)}
    (ho : Obeys step balanceGuard.Meets (World.init cfg pool status) xs) :
    Balanced (runEvents (World.init cfg pool status) xs) := by
  have h0 : BalanceInv (World.init cfg pool status) := by
    refine ⟨fun a ha => ?_, fun ms hms => ?_⟩
    · cases ha
    · cases hms
  obtain ⟨-, h⟩ := balanceInv.run h0 ho
  exact ⟨fun a ha => (h.sessions a ha).pair, h.ended⟩

/-- A client that logs in and takes its leave once it is online; its Accounting-Stop is answered. -/
def sampleLogout : List (Event × Oracle) :=
  sampleLogin ++
    [(.padt 1 sampleMac, sampleOracle),
      (.radius 0 ⟨1, 1813, [5, 2, 0, 20, 9, 224, 239, 238, 85, 166, 185, 76, 188, 10, 192, 98, 9, 72,
        231, 217]⟩, sampleOracle)]

theorem accounts_balance_logout :
    Balanced (runEvents (World.init sampleCfg samplePool .NONE) sampleLogout) :=
  accounts_balance (by decide +kernel)

/-- A client that takes its leave while its Accounting-Start is unanswered. -/
theorem start_without_stop :
    ¬ Balanced (runEvents (World.init sampleCfg samplePool .NONE)
      (sampleStart ++ [(.padt 1 sampleMac, sampleOracle)])) := by
  intro h
  have hend : [Mark.challenge 7, .response 7, .request .auth, .request .start] ∈
      (runEvents (World.init sampleCfg samplePool .NONE)
        (sampleStart ++ [(.padt 1 sampleMac, sampleOracle)])).ended := by
    decide +kernel
  exact absurd ((h.ended _ hend).2 (by decide)) (by decide)

end Pppoe
end DaemonGroup
