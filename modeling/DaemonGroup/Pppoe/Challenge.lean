import DaemonGroup.Pppoe.Invariant

/-!
# DaemonGroup.Pppoe.Challenge

A CHAP Response is handed to the RADIUS server only if it answers the Challenge that was sent last.
The code sends the Challenge when LCP opens and only if CHAP has been recorded by then, which it is
when the client names the option, and it does not look at the identifier of the Response. So a client
that acknowledges without naming the option is never challenged, and its Response is taken all the
same.
-/

namespace DaemonGroup
namespace Pppoe

open Lib

/-- The identifier of the last Challenge. -/
def lastChallenge (ms : List Mark) : Option Nat :=
  ms.foldl (fun x m => match m with
    | .challenge i => some i
    | _ => x) none

/-- Every Response that was accepted carries the identifier of the last Challenge before it. -/
def Ordered (ms : List Mark) : Prop :=
  ∀ pre i post, ms = pre ++ .response i :: post → lastChallenge pre = some i

/-- Responses follow Challenges, in the sessions that are registered and in those that have ended,
and LCP is left behind only with a Challenge. -/
structure ChallengeFirst (w : World) : Prop where
  order : ∀ a ∈ w.tables.sess_list, Ordered (w.mem a).marks
  ended : ∀ ms ∈ w.ended, Ordered ms
  challenged : ∀ a ∈ w.tables.sess_list, (w.mem a).state = .AUTHPRE →
    (lastChallenge (w.mem a).marks).isSome

/-- A frame that completes LCP finds CHAP recorded, or names it, and the Challenge can be sent; a
Response carries the identifier of the Challenge. -/
def Trigger.challenged (t : Trigger) (e : Env) (o : SessionOptions) (s : Session) : Bool :=
  match t with
  | .frame f =>
    (f.opens o s → (s.auth_type = AUTH_CHAP ∨ f.namesAuth) ∧ ¬ e.fail .chapChallenge) ∧
      (s.state = .AUTHPRE → f.isResponse → f.ctl.ident = s.ident)
  | _ => true

def challengeGuard : Guard where
  run w o a t := t.challenged (w.env o a) w.options (w.mem a)

instance : challengeGuard.Checks where
  run w o a t := inferInstanceAs (Decidable (t.challenged (w.env o a) w.options (w.mem a)))
  record _ _ := inferInstanceAs (Decidable True)
  online _ _ := inferInstanceAs (Decidable True)
  start _ := inferInstanceAs (Decidable True)

/-! ## Marks -/

section
variable {ms : List Mark} {i : Nat}

theorem lastChallenge_snoc (ms : List Mark) (m : Mark) :
    lastChallenge (ms ++ [m]) = match m with
      | .challenge i => some i
      | _ => lastChallenge ms := by
  rw [lastChallenge, List.foldl_append]
  rfl

theorem Ordered.nil : Ordered [] := by
  intro pre i post h
  simp at h

theorem Ordered.snoc {m : Mark} (h : Ordered ms) (hm : ∀ i, m = .response i → lastChallenge ms = some i) :
    Ordered (ms ++ [m]) := by
  intro pre i post heq
  rcases List.eq_nil_or_concat post with rfl | ⟨post', m', rfl⟩
  · obtain ⟨rfl, hm'⟩ := List.append_inj' heq rfl
    exact hm i (List.cons.inj hm').1
  · have heq' : ms ++ [m] = (pre ++ .response i :: post') ++ [m'] := by simpa using heq
    exact h pre i post' (List.append_inj' heq' rfl).1

theorem Ordered.request {k : ReqKind} (h : Ordered ms) : Ordered (ms ++ [.request k]) :=
  h.snoc fun _ hm => by cases hm

theorem Ordered.challenge (h : Ordered ms) : Ordered (ms ++ [.challenge i]) :=
  h.snoc fun _ hm => by cases hm

theorem Ordered.response (h : Ordered ms) (hi : lastChallenge ms = some i) :
    Ordered (ms ++ [.response i]) :=
  h.snoc fun _ hm => by cases hm; exact hi

end

/-! ## One session -/

/-- A session that waits for a Response remembers the identifier of the Challenge. -/
structure Life.Challenged (l : Life) : Prop where
  order : Ordered l.marks
  ident : l.state = .AUTHPRE → lastChallenge l.marks = some l.ident

section
variable {t : Trigger} {e : Env} {c : Ctx} {k : ReqKind} {v v' : View}

theorem Life.Challenged.keep {l l' : Life} (h : l.Challenged) (hm : l'.marks = l.marks)
    (hs : l'.state = .AUTHPRE → l.state = .AUTHPRE ∧ l'.ident = l.ident) : l'.Challenged := by
  refine ⟨hm ▸ h.order, fun hst => ?_⟩
  obtain ⟨hst', hid⟩ := hs hst
  rw [hm, hid]
  exact h.ident hst'

theorem Life.Challenged.request {l l' : Life} (h : l.Challenged) (hm : l'.marks = l.marks ++ [.request k])
    (hs : l'.state = .AUTHPRE → l.state = .AUTHPRE ∧ l'.ident = l.ident) : l'.Challenged := by
  refine ⟨hm ▸ h.order.request, fun hst => ?_⟩
  obtain ⟨hst', hid⟩ := hs hst
  rw [hm, lastChallenge_snoc, hid]
  exact h.ident hst'

/-- The life of a session whose last state is of no interest, because it is not `AUTHPRE` or because
the session is gone. -/
theorem Ordered.away {l : Life} (h : Ordered l.marks) (hs : l.state ≠ .AUTHPRE) : l.Challenged :=
  ⟨h, fun hst => absurd hst hs⟩

/-- The marks stay in order whatever happens. -/
theorem Move.order (h : Move t e c v) (hv : v.fault = false) (ho : c.sess.toLife.Challenged)
    (hg : t.challenged e c.options c.sess) : Ordered v.life.marks := by
  have hord : Ordered c.sess.marks := ho.order
  have hask : ∀ {k : ReqKind} {x y : View}, Ordered x.life.marks → Asked e k x y →
      Ordered y.life.marks := by
    intro k x y hm ha
    rw [ha.marks]
    exact hm.request
  have hfail : ∀ {k : ReqKind} {x y : View}, Ordered x.life.marks → AskFailed e k x y →
      Ordered y.life.marks := by
    intro k x y hm ha
    rcases ha.marks with h | h <;> rw [h]
    · exact hm
    · exact hm.request
  have hresp : ∀ {f : Frame}, t = .frame f → f.isResponse → c.sess.state = .AUTHPRE →
      Ordered (c.sess.marks ++ [.response f.ctl.ident]) := by
    intro f ht hr hst
    subst ht
    refine hord.response ?_
    rw [(of_decide_eq_true hg).2 hst hr]
    exact ho.ident hst
  cases h with
  | idle | preopen | postopen | standby | sync | retransmit | lost | misfit | disconnect => exact hord
  | authpre _ _ hms =>
    rcases hms with rfl | ⟨rfl, -⟩
    · exact hord.challenge
    · show Ordered (c.sess.marks ++ [])
      rw [List.append_nil]
      exact hord
  | @authpost f y ht hr hst ha => exact hask (y := y) (hresp ht hr hst) ha
  | @exitAuth f y _ ht hr hst ha => exact hfail (y := y) (hresp ht hr hst) ha
  | opened | online | exitStopped | settled =>
    obtain ⟨q, hq⟩ := settle_life c.view
    have : Ordered c.view.settle.life.marks := by
      rw [hq]
      exact hord
    exact this
  | exitOpened =>
    obtain ⟨q, hq⟩ := clean_life c.view
    have : Ordered c.view.clean.life.marks := by
      rw [hq]
      exact hord
    exact this
  | address _ ha | onlinepre _ ha | exit _ _ ha =>
    obtain ⟨y, -, rfl⟩ := ha
    exact hord
  | @onlinepost _ y _ _ ha =>
    exact hask (x := c.view.onTimer .TIMEOUT Timer.pause) (y := y) hord ha
  | @exitOnline _ y _ _ _ ha =>
    exact hfail (x := c.view.onTimer .TIMEOUT Timer.pause) (y := y) hord ha
  | @update m y _ ha =>
    rcases ha with ha | ha
    · exact hask (x := c.view.post e (.SESSUPDATE m)) hord ha
    · exact hfail (x := c.view.post e (.SESSUPDATE m)) hord ha
  | @offlinepost y _ _ ha => exact hask (x := c.view) (y := y) hord ha
  | @stuck _ y _ _ _ ha => exact hfail (x := c.view) (y := y) hord ha
  | @exitOffline y _ _ _ _ ha => exact hfail (x := c.view) (y := y) hord ha
  | @clear y _ _ _ ha =>
    rcases ha with ha | ha
    · have hm : Ordered y.life.marks := by
        rw [ha.marks]
        exact hord.request
      exact hm
    · exact hfail (x := c.view) (y := y) hord ha
  | faulty h => rw [h] at hv; cases hv

/-- A session that comes to wait for a Response has been challenged. -/
theorem Move.challenged (h : Move t e c v) (hv : v.fault = false) (hx : v.exited = false)
    (ho : c.sess.toLife.Challenged) (hopt : OnlyChap c.options)
    (hg : t.challenged e c.options c.sess) : v.life.Challenged := by
  refine ⟨h.order hv ho hg, ?_⟩
  have hkeep : ∀ {l : Life}, l.marks = c.sess.marks →
      (l.state = .AUTHPRE → c.sess.state = .AUTHPRE ∧ l.ident = c.sess.ident) →
      l.state = .AUTHPRE → lastChallenge l.marks = some l.ident :=
    fun hm hs => (ho.keep hm hs).ident
  have haway : ∀ {st : SessState} {P : Prop}, st ≠ .AUTHPRE → st = .AUTHPRE → P :=
    fun hne h => absurd h hne
  cases h with
  | idle hi => exact hkeep rfl fun hst => ⟨hst, hi hst⟩
  | sync | retransmit | lost | misfit => exact hkeep rfl fun hst => ⟨hst, rfl⟩
  | preopen | postopen | authpost | opened | onlinepre | onlinepost | online | standby | offlinepost
  | stuck => exact haway (fun h => by cases h)
  | @authpre f i ms ht hopen hms =>
    subst ht
    obtain ⟨hchap, hsend⟩ := (of_decide_eq_true hg).1 hopen
    rcases hms with rfl | ⟨-, hno⟩
    · intro _
      exact lastChallenge_snoc c.sess.marks (.challenge i)
    · exact absurd (hno hopt.upap hopt.eap hchap) hsend
  | address _ ha =>
    obtain ⟨y, -, rfl⟩ := ha
    rename_i hst
    intro h
    have hst' : c.sess.state = .AUTHPRE := h
    rw [hst] at hst'
    cases hst'
  | @update m y _ ha =>
    rcases ha with ha | ha
    · exact (ho.request ha.marks fun hst => ⟨ha.frame.state ▸ hst, ha.frame.ident⟩).ident
    · rcases ha.marks with hm | hm
      · exact (ho.keep hm fun hst => ⟨ha.frame.state ▸ hst, ha.frame.ident⟩).ident
      · exact (ho.request hm fun hst => ⟨ha.frame.state ▸ hst, ha.frame.ident⟩).ident
  | settled =>
    obtain ⟨q, hq⟩ := settle_life c.view
    rw [hq]
    exact hkeep rfl fun hst => ⟨hst, rfl⟩
  | exitAuth | exitOpened | exitOnline | exitOffline | exitStopped | exit | disconnect | clear =>
    cases hx
  | faulty h => rw [h] at hv; cases hv

end

/-! ## The invariant -/

structure ChallengeInv (w : World) : Prop where
  options : OnlyChap w.options
  sessions : ∀ a ∈ w.tables.sess_list, (w.mem a).toLife.Challenged
  ended : ∀ ms ∈ w.ended, Ordered ms

theorem OnlyChap.fixed {o : SessionOptions} : OnlyChap o.fixed ↔ OnlyChap o :=
  ⟨fun h => ⟨h.upap, h.eap⟩, fun h => ⟨h.upap, h.eap⟩⟩

theorem ChallengeInv.first {w : World} (h : ChallengeInv w) : ChallengeFirst w where
  order := fun a ha => (h.sessions a ha).order
  ended := h.ended
  challenged := by
    intro a ha hst
    rw [(h.sessions a ha).ident hst]
    rfl

theorem challengeInv : Invariant challengeGuard ChallengeInv where
  kept := by
    intro w w' _ h hk
    refine ⟨hk.options ▸ h.options, fun a ha => ?_, hk.ended ▸ h.ended⟩
    rw [hk.list] at ha
    rw [hk.life a ha]
    exact ⟨(h.sessions a ha).order, (h.sessions a ha).ident⟩
  enters := by
    intro w w' a s _ h _ _ _ he
    refine ⟨he.options ▸ h.options, fun b hb => ?_, he.ended ▸ h.ended⟩
    rw [he.list, List.mem_append, List.mem_singleton] at hb
    rcases hb with hb | rfl
    · rw [he.mem b hb]
      exact h.sessions b hb
    · rw [he.life]
      exact Ordered.nil.away (by simp [Session.entry])
  moves := by
    intro w w' a t o v _ h ha hg _ hm hf hx hmv
    refine ⟨?_, fun b hb => ?_, hmv.ended ▸ h.ended⟩
    · rw [← OnlyChap.fixed, hmv.options, hm.options hf]
      exact OnlyChap.fixed.mpr h.options
    · rw [hmv.list] at hb
      by_cases hba : b = a
      · rw [hba, hmv.life]
        exact hm.challenged hf hx (h.sessions a ha) h.options hg
      · rw [hmv.mem b hba]
        exact h.sessions b hb
  leaves := by
    intro w w' a t o v _ h ha hg _ hm hf _ hlv
    refine ⟨?_, fun b hb => ?_, fun ms hms => ?_⟩
    · rw [← OnlyChap.fixed, hlv.options, hm.options hf]
      exact OnlyChap.fixed.mpr h.options
    · obtain ⟨hb', hne⟩ := (hlv.list b).mp hb
      rw [hlv.mem b hb' hne]
      exact h.sessions b hb'
    · rw [hlv.ended, List.mem_append, List.mem_singleton] at hms
      rcases hms with hms | rfl
      · exact h.ended ms hms
      · exact hm.order hf (h.sessions a ha) hg
  stray := fun _ h _ _ _ => ⟨h.options, h.sessions, h.ended⟩
  start := fun _ h _ => ⟨h.options, h.sessions, h.ended⟩

/-- In every run in which the frame that completes LCP finds CHAP recorded or names it and the
Challenge is sent, and a Response carries the identifier of the Challenge, Responses follow
Challenges. -/
theorem challenge_first {cfg : Config} {pool : Ippool} {status : BackupStatus}
    {xs : List (Event × Oracle)}
    (ho : Obeys step challengeGuard.Meets (World.init cfg pool status) xs) :
    ChallengeFirst (runEvents (World.init cfg pool status) xs) := by
  have h0 : ChallengeInv (World.init cfg pool status) := by
    refine ⟨⟨rfl, rfl⟩, fun a ha => ?_, fun ms hms => ?_⟩
    · cases ha
    · cases hms
  exact (challengeInv.run h0 ho).2.first

theorem challenge_first_login :
    ChallengeFirst (runEvents (World.init sampleCfg samplePool .NONE) sampleLogin) :=
  challenge_first (by decide +kernel)

/-- A client that acknowledges the Configure-Request without repeating its options, and then sends a
Response of its own making. -/
def unchallengedRun : List (Event × Oracle) :=
  [(.padr sampleMac default true, sampleOracle),
    sampleFrame [0xc0, 0x21, 1, 1, 0, 4],
    sampleFrame [0xc0, 0x21, 2, 1, 0, 4],
    sampleFrame ([0xc2, 0x23, 2, 7, 0, 22, 16] ++ List.replicate 16 1 ++ [97])]

theorem unchallenged :
    ¬ ChallengeFirst (runEvents (World.init sampleCfg samplePool .NONE) unchallengedRun) := by
  intro h
  have hin : 1 ∈ (runEvents (World.init sampleCfg samplePool .NONE) unchallengedRun).tables.sess_list := by
    decide +kernel
  have hmarks : ((runEvents (World.init sampleCfg samplePool .NONE) unchallengedRun).mem 1).marks =
      [] ++ .response 7 :: [.request .auth] := by
    decide +kernel
  cases h.order 1 hin _ _ _ hmarks

end Pppoe
end DaemonGroup
