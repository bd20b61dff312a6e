import DaemonGroup.Pppoe.System

/-!
# DaemonGroup.Pppoe.View

What a handler does to the part of the instance that the life of a session is about. `Ctx.view`
forgets the packets that were sent and the fields of a session that only fill packets, and every
function that the handlers call has a rule: what it returns and which views it can leave.

`Fit s` is what every session has from its allocation on: the operations that are never
unregistered, and no Terminate-Request of its own to wait for. So a session that is ended is taken
out of the tables at once (`exit_wp`).
-/

namespace DaemonGroup
namespace Pppoe

open Lib

/-! ## Views -/

/-- The options without the MRU, the only one that is ever changed. -/
def SessionOptions.fixed (o : SessionOptions) : SessionOptions := { o with mru := 0 }

structure View where
  life : Life
  rad : Radius
  pool : Ippool
  options : SessionOptions
  queue : List Sync
  exited : Bool
  fault : Bool

def Ctx.view (c : Ctx) : View :=
  { life := c.sess.toLife
    rad := c.rad
    pool := c.pool
    options := c.options.fixed
    queue := c.queue
    exited := c.exited
    fault := c.fault }

/-- The operations that stay registered from allocation on. -/
def keptOps : List SessionOptType :=
  sessionsOpt.filter fun o => o ≠ .LCPTERMREQ ∧ o ≠ .DISTREM

structure Fit (s : Session) : Prop where
  terms : s.termMaxTimes = 0
  ops : ∀ o ∈ keptOps, o ∈ s.opt

/-- `Q` of every state with the view `v` whose session is fit. -/
def After (v : View) (Q : Ctx → Prop) : Prop := ∀ c, c.view = v → Fit c.sess → Q c

/-- The session in another state. -/
def View.goto (v : View) (st : SessState) : View := { v with life := { v.life with state := st } }

/-- The session ended, in whatever state that left it. -/
def View.leave (v : View) (st : SessState) : View := { v.goto st with exited := true }

def Timer.pause : Timer → Timer
  | .armed => .paused
  | t => t

def Timer.rearm : Timer → Timer
  | .none => .none
  | _ => .armed

/-- A timer of the session changed; the echo and the update timer are not part of a view. -/
def View.onTimer (v : View) (t : SessionTimerType) (f : Timer → Timer) : View :=
  match t with
  | .TIMEOUT => { v with life := { v.life with timeout := f v.life.timeout } }
  | .RETRANS => { v with life := { v.life with retrans := f v.life.retrans } }
  | _ => v

def View.setIdent (v : View) (i : Nat) : View := { v with life := { v.life with ident := i } }

def View.mark (v : View) (ms : List Mark) : View :=
  { v with life := { v.life with marks := v.life.marks ++ ms } }

/-! ## Changes of the session -/

section
variable {e : Env} {c : Ctx}

theorem update_wp {f : Session → Session} {Q : Unit → Ctx → Prop} :
    wp (update f) Q c ↔ Q () { c with sess := f c.sess } := Iff.rfl

theorem Fit.keep {s s' : Session} (h : Fit s) (ht : s'.termMaxTimes = s.termMaxTimes)
    (ho : s'.opt = s.opt) : Fit s' :=
  ⟨ht.trans h.terms, fun o hm => ho ▸ h.ops o hm⟩

theorem Fit.register {s : Session} (h : Fit s) (o : SessionOptType) :
    Fit { s with opt := o :: s.opt } :=
  ⟨h.terms, fun x hx => List.mem_cons_of_mem _ (h.ops x hx)⟩

theorem Fit.unregister {s : Session} (h : Fit s) {o : SessionOptType} (ho : o ∉ keptOps) :
    Fit { s with opt := s.opt.filter (· ≠ o) } := by
  refine ⟨h.terms, fun x hx => List.mem_filter.mpr ⟨h.ops x hx, ?_⟩⟩
  simp only [ne_eq, decide_eq_true_eq]
  rintro rfl
  exact ho hx

theorem after_self {Q : Ctx → Prop} (hf : Fit c.sess) (h : After c.view Q) : Q c := h c rfl hf

/-- A change of the session that keeps its operations. -/
theorem update_after {f : Session → Session} {Q : Unit → Ctx → Prop} {v : View} (hf : Fit c.sess)
    (hv : Ctx.view { c with sess := f c.sess } = v)
    (ht : (f c.sess).termMaxTimes = c.sess.termMaxTimes) (ho : (f c.sess).opt = c.sess.opt)
    (h : After v (Q ())) : wp (update f) Q c :=
  h _ hv (hf.keep ht ho)

theorem unregister_wp {o : SessionOptType} {Q : Int → Ctx → Prop} (hf : Fit c.sess)
    (ho : o ∉ keptOps) (h : ∀ r, After c.view (Q r)) : wp (sessionOptUnregister o) Q c := by
  simp only [sessionOptUnregister, wp_bind, wp_get, wp_ite, update_wp, wp_pure]
  constructor
  · intro _
    exact after_self hf (h _)
  · intro _
    exact h _ _ rfl (hf.unregister ho)

/-- A registered operation stays registered, and the authentication type is not touched. -/
theorem register_wp {o : SessionOptType} {Q : Int → Ctx → Prop} (hf : Fit c.sess)
    (h : ∀ r c', c'.view = c.view → Fit c'.sess → c'.sess.auth_type = c.sess.auth_type →
      (∀ x, x = o ∨ x ∈ c.sess.opt → x ∈ c'.sess.opt) → Q r c') :
    wp (sessionOptRegister o) Q c := by
  simp only [sessionOptRegister, wp_bind, wp_get, wp_ite, update_wp, wp_pure]
  constructor
  · intro ho
    exact h _ c rfl hf rfl fun x hx => hx.elim (fun h => h ▸ ho) id
  · intro _
    exact h _ _ rfl (hf.register o) rfl fun x hx => List.mem_cons.mpr hx

theorem perform_wp {o : SessionOptType} {f : M Int} {Q : Int → Ctx → Prop} (hf : Fit c.sess)
    (ho : o ∈ keptOps) : wp (sessionOptPerform o f) Q c ↔ wp f Q c := by
  simp [sessionOptPerform, wp_bind, wp_get, hf.ops o ho]

theorem termcause_wp {n : Nat} {Q : Unit → Ctx → Prop} (hf : Fit c.sess) (h : After c.view (Q ())) :
    wp (sessionTermcauseSetup n) Q c := by
  rw [sessionTermcauseSetup, update_wp]
  split
  · exact h _ rfl (hf.keep rfl rfl)
  · exact h _ rfl hf

/-! ## Packets -/

theorem emit_wp {k : Call} {p : Packet} {Q : Int → Ctx → Prop} (hf : Fit c.sess)
    (hs : e.fail k = false → After c.view (Q PPPOEERR_SUCCESS))
    (hx : e.fail k = true → After c.view (Q PPPOEERR_ESEND)) : wp (emit e k p) Q c := by
  simp only [emit, wp_bind, wp_ite, wp_modify, wp_pure]
  constructor
  · intro hk
    exact after_self hf (hx hk)
  · intro hk
    exact hs (by simpa using hk) _ rfl hf

theorem send_wp {k : Call} {bs : Bytes} {Q : Int → Ctx → Prop} (hf : Fit c.sess)
    (hs : e.fail k = false → After c.view (Q PPPOEERR_SUCCESS))
    (hx : e.fail k = true → After c.view (Q PPPOEERR_ESEND)) : wp (pppSendPacket e k bs) Q c := by
  rw [pppSendPacket, wp_bind, wp_get]
  exact emit_wp hf hs hx

/-! ## Timers -/

theorem setTimer_view {t : SessionTimerType} {x : Timer} {f : Timer → Timer}
    (h : f (c.sess.timer t) = x) :
    Ctx.view { c with sess := c.sess.setTimer x t } = c.view.onTimer t f := by
  subst h
  cases t <;> rfl

theorem onTimer_same {t : SessionTimerType} {f : Timer → Timer}
    (h : f (c.sess.timer t) = c.sess.timer t) : c.view = c.view.onTimer t f := by
  refine Eq.trans ?_ (setTimer_view h)
  cases t <;> rfl

theorem Fit.setTimer {s : Session} (h : Fit s) (x : Timer) (t : SessionTimerType) :
    Fit (s.setTimer x t) := by
  cases t <;> exact h.keep rfl rfl

theorem timerUpdate_wp {t : SessionTimerType} {Q : Int → Ctx → Prop} (hf : Fit c.sess)
    (h : ∀ r, After (c.view.onTimer t Timer.rearm) (Q r)) : wp (sessionTimerUpdate t) Q c := by
  simp only [sessionTimerUpdate, wp_bind, wp_get, wp_ite, update_wp, wp_pure]
  constructor
  · intro ht
    exact h _ _ (onTimer_same (by simp [ht, Timer.rearm])) hf
  · intro ht
    refine h _ _ (setTimer_view ?_) (hf.setTimer _ _)
    cases hc : c.sess.timer t <;> simp_all [Timer.rearm]

theorem timerPause_wp {t : SessionTimerType} {Q : Int → Ctx → Prop} (hf : Fit c.sess)
    (h : ∀ r, After (c.view.onTimer t Timer.pause) (Q r)) : wp (sessionTimerPause t) Q c := by
  simp only [sessionTimerPause, wp_bind, wp_get, wp_ite, update_wp, wp_pure]
  refine ⟨fun ht => ?_, fun _ => ⟨fun ht => ?_, fun ht => ?_⟩⟩
  · exact h _ _ (onTimer_same (by simp [ht, Timer.pause])) hf
  · refine h _ _ (onTimer_same ?_) hf
    cases hc : c.sess.timer t <;> simp_all [Timer.pause]
  · refine h _ _ (setTimer_view ?_) (hf.setTimer _ _)
    simp only [ne_eq, not_not] at ht
    rw [ht, Timer.pause]

theorem timerDestroy_wp {t : SessionTimerType} {Q : Unit → Ctx → Prop} (hf : Fit c.sess)
    (h : After (c.view.onTimer t fun _ => .none) (Q ())) : wp (sessionTimerDestroy t) Q c := by
  rw [sessionTimerDestroy, update_wp]
  exact h _ (setTimer_view rfl) (hf.setTimer _ _)

theorem timerInit_wp {t : SessionTimerType} {Q : Int → Ctx → Prop} (hf : Fit c.sess)
    (hs : (c.sess.timer t = .none → e.fail (.timer t) = false) →
      After (c.view.onTimer t fun _ => .armed) (Q PPPOEERR_SUCCESS))
    (hx : ∀ r, r ≠ PPPOEERR_SUCCESS → (c.sess.timer t = .none → e.fail (.timer t) = true) →
      After c.view (Q r)) : wp (sessionTimerInit e t) Q c := by
  simp only [sessionTimerInit, wp_bind, wp_get, wp_ite, update_wp, wp_pure]
  refine ⟨fun ht => ?_, fun ht => ⟨fun hk => ?_, fun hk => ?_⟩⟩
  · exact hx _ (by decide) (fun h => absurd h ht) _ rfl hf
  · exact hx _ (by decide) (fun _ => hk) _ rfl hf
  · exact hs (fun _ => by simpa using hk) _ (setTimer_view rfl) (hf.setTimer _ _)

/-! ## Ending the session -/

/-- A session whose Terminate-Request has no try is never asked to terminate. -/
theorem lcpTermReq_wp {Q : Int → Ctx → Prop} (hf : Fit c.sess)
    (h : ∀ r st, r ≠ PPPOEERR_SUCCESS → After (c.view.goto st) (Q r)) :
    wp (sessionOptPerform .LCPTERMREQ (sendLcpTermReq e)) Q c := by
  simp only [sessionOptPerform, wp_bind, wp_get, wp_ite, wp_pure, sendLcpTermReq, update_wp]
  refine ⟨fun _ => ⟨fun _ => ?_, fun ht => ?_⟩, fun _ => ?_⟩
  · simp only [lcpTermReqError, wp_bind, update_wp, wp_pure]
    refine unregister_wp (hf.keep rfl rfl) (by decide) fun r c' hv hf' => ?_
    refine h PPPOEERR_ETIMEOUT .LCPCLOSE (by decide) _ ?_ (hf'.keep rfl rfl)
    rw [View.goto, ← show c'.view = c.view from hv]
    rfl
  · exact absurd (hf.terms ▸ Nat.succ_pos _) ht
  · exact h _ c.view.life.state (by decide) _ rfl hf

theorem distrem_wp {Q : Int → Ctx → Prop} (hf : Fit c.sess)
    (h : ∀ r st, After (c.view.goto st) (Q r)) :
    wp (sessionOptPerform .DISTREM (discoverSessionExit e)) Q c := by
  simp only [sessionOptPerform, wp_bind, wp_get, wp_ite, wp_pure, discoverSessionExit, sendPADT,
    update_wp]
  refine ⟨fun _ => ?_, fun _ => h _ c.view.life.state _ rfl hf⟩
  have hstep : After c.view fun c' =>
      Q PPPOEERR_SUCCESS { c' with sess := { c'.sess with state := .DISTERM } } := by
    intro c' hv hf'
    refine h _ .DISTERM _ ?_ (hf'.keep rfl rfl)
    rw [← hv]
    rfl
  exact emit_wp hf (fun _ => hstep) (fun _ => hstep)

theorem sessoptExit_wp {Q : Int → Ctx → Prop} (hf : Fit c.sess)
    (h : ∀ r, After { c.view with exited := true } (Q r)) :
    wp (sessionOptPerform .EXIT (sessoptExit e)) Q c := by
  rw [perform_wp hf (by decide)]
  simp only [sessoptExit, wp_bind, wp_get, wp_modify, wp_pure]
  have hstep : After c.view fun c' => Q PPPOEERR_SUCCESS { c' with exited := true } := by
    intro c' hv hf'
    refine h _ _ ?_ hf'
    rw [← hv]
    rfl
  exact emit_wp hf (fun _ => hstep) (fun _ => hstep)

theorem exit_wp {Q : Unit → Ctx → Prop} (hf : Fit c.sess)
    (h : ∀ st, After (c.view.leave st) (Q ())) : wp (_manageSessExit e) Q c := by
  rw [_manageSessExit]
  simp only [wp_bind, wp_ite, wp_pure]
  refine lcpTermReq_wp hf fun r st hr c₁ hv₁ hf₁ => ⟨fun h0 => absurd h0 hr, fun _ => ?_⟩
  refine distrem_wp hf₁ fun r₂ st₂ c₂ hv₂ hf₂ => ?_
  refine sessoptExit_wp hf₂ fun r₃ c₃ hv₃ hf₃ => ?_
  refine h st₂ c₃ ?_ hf₃
  rw [hv₃, hv₂, hv₁]
  rfl

end

end Pppoe
end DaemonGroup
