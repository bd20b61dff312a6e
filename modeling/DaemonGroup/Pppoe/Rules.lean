import DaemonGroup.Pppoe.View

/-!
# DaemonGroup.Pppoe.Rules

The rules of the functions that the handlers share: RADIUS requests, messages for the peer, going
online and offline, ending a session.

A request succeeds (`Asked`) or fails (`AskFailed`), and the ways it fails differ in what they leave
behind: no identifier was to be had, or the session owns an identifier although its request was
never sent or is never repeated.
-/

namespace DaemonGroup
namespace Pppoe

open Lib

/-! ## What the functions leave -/

/-- The identifier `p` given to a request of the session at `a`. -/
def Radius.assign (r : Radius) (p : RadPtr) (a : Addr) (k : ReqKind) (pack : RadiusPacket) :
    Radius :=
  r.setId p { r.id p with status := .USED, sess := some a, req_pack := pack, kind := k }

/-- The identifier `p` released. -/
def Radius.free (r : Radius) (p : RadPtr) : Radius :=
  r.setId p { r.id p with status := .FREE, sess := none }

/-- The session at `a` owns `p`, taken from the table `r`. -/
def View.ask (v : View) (r : Radius) (p : RadPtr) (a : Addr) (k : ReqKind) (pack : RadiusPacket) :
    View :=
  { v with rad := r.assign p a k pack, life := { v.life with priv_data := some p } }

/-- `_radius_sess_clean`. -/
def View.clean (v : View) : View :=
  match v.life.priv_data with
  | none => { v with fault := true }
  | some p => { v with rad := v.rad.free p, life := { v.life with priv_data := none } }

/-- A request was sent and will be repeated. -/
inductive Asked (e : Env) (k : ReqKind) (v : View) : View → Prop
  | mk {p : RadPtr} {r : Radius} {pack : RadiusPacket} (hid : radiusGetFreeId e v.rad = some (p, r))
      (hsend : e.fail .radiusSend = false)
      (htimer : v.life.retrans = .none → e.fail (.timer .RETRANS) = false) :
      Asked e k v (((v.ask r p e.self k pack).mark [.request k]).onTimer .RETRANS fun _ => .armed)

/-- A request was not sent, or will not be repeated. -/
inductive AskFailed (e : Env) (k : ReqKind) (v : View) : View → Prop
  | noId (hid : radiusGetFreeId e v.rad = none) : AskFailed e k v v
  | notSent {p : RadPtr} {r : Radius} {pack : RadiusPacket}
      (hid : radiusGetFreeId e v.rad = some (p, r)) (hsend : e.fail .radiusSend = true) :
      AskFailed e k v (v.ask r p e.self k pack)
  | noTimer {p : RadPtr} {r : Radius} {pack : RadiusPacket}
      (hid : radiusGetFreeId e v.rad = some (p, r)) (hsend : e.fail .radiusSend = false)
      (htimer : v.life.retrans = .none) (hfail : e.fail (.timer .RETRANS) = true) :
      AskFailed e k v ((v.ask r p e.self k pack).mark [.request k])

/-- A request that is not repeated was sent. -/
inductive AskedOnce (e : Env) (k : ReqKind) (v : View) : View → Prop
  | mk {p : RadPtr} {r : Radius} {pack : RadiusPacket} (hid : radiusGetFreeId e v.rad = some (p, r))
      (hsend : e.fail .radiusSend = false) :
      AskedOnce e k v ((v.ask r p e.self k pack).mark [.request k])

/-- Is a message for the peer queued? -/
def Env.posts (e : Env) : Bool :=
  e.status = .ACTIVE ∧ e.channel ∧ ¬ e.fail .pbuf ∧ ¬ e.fail .backupTask

def View.post (v : View) (e : Env) (m : Sync) : View :=
  { v with queue := if e.posts then v.queue ++ [m] else v.queue }

/-- The message tells of the session: its id, its client and its address. -/
structure Tells (m : OnlineSync) (l : Life) : Prop where
  sid : m.sid = l.sid
  mac : m.mac = l.mac
  ipaddr : m.ipaddr = l.ipaddr

def Life.offlineSync (l : Life) : Sync := .SESSOFFLINE { sid := l.sid, mac := l.mac }

section
variable {e : Env} {c : Ctx}

/-! ## Requests -/

theorem radiusReq_wp {k : ReqKind} {b : RadiusBuf} {Q : Int → Ctx → Prop} (hf : Fit c.sess)
    (hn : radiusGetFreeId e c.view.rad = none → After c.view (Q PPPOEERR_ENOMEM))
    (hx : ∀ p r pack, radiusGetFreeId e c.view.rad = some (p, r) → e.fail .radiusSend = true →
      After (c.view.ask r p e.self k pack) (Q PPPOEERR_ESEND))
    (hs : ∀ p r pack, radiusGetFreeId e c.view.rad = some (p, r) → e.fail .radiusSend = false →
      After ((c.view.ask r p e.self k pack).mark [.request k]) (Q PPPOEERR_SUCCESS)) :
    wp (radiusReq e k b) Q c := by
  rw [radiusReq, wp_bind, wp_get]
  split
  · rename_i hid
    exact hn hid _ rfl hf
  · rename_i p r hid
    simp only [_radiusSessReq, _radiusSessSetup, wp_bind, wp_set, wp_get, wp_modify]
    refine emit_wp ?_ (fun hk c' hv hf' => ?_) (fun hk c' hv hf' => ?_)
    · exact hf.keep rfl rfl
    · simp only [if_true, mark, wp_bind, update_wp, wp_pure]
      refine hs p r (reqPacket e c.sess p b).pack hid hk _ ?_ (hf'.keep rfl rfl)
      exact congrArg (View.mark · [.request k]) hv
    · rw [if_neg (by decide), wp_pure]
      exact hx p r (reqPacket e c.sess p b).pack hid hk _ hv hf'

theorem retransportSetup_wp {Q : Int → Ctx → Prop} (hf : Fit c.sess)
    (hs : (c.view.life.retrans = .none → e.fail (.timer .RETRANS) = false) →
      After (c.view.onTimer .RETRANS fun _ => .armed) (Q PPPOEERR_SUCCESS))
    (hx : ∀ r, r ≠ PPPOEERR_SUCCESS → c.view.life.retrans = .none →
      e.fail (.timer .RETRANS) = true → After c.view (Q r)) :
    wp (radiusSessRetransportSetup e) Q c := by
  simp only [radiusSessRetransportSetup, wp_bind, wp_get, wp_ite]
  constructor
  · intro ht
    simp only [sessionTimerUpdate, wp_bind, wp_get, wp_ite, update_wp, wp_pure]
    refine ⟨fun h => absurd h ht, fun _ => ?_⟩
    exact hs (fun h => absurd h ht) _ rfl (hf.keep rfl rfl)
  · intro ht
    simp only [ne_eq, not_not] at ht
    refine timerInit_wp hf (fun hk => hs hk) (fun r hr hk => hx r hr ht (hk ht))

/-- What a request prepares in the session is not part of its life. -/
structure Prepares (f : Session → Session) : Prop where
  life : ∀ s, (f s).toLife = s.toLife
  terms : ∀ s, (f s).termMaxTimes = s.termMaxTimes
  opt : ∀ s, (f s).opt = s.opt

theorem radiusRequest_wp {k : ReqKind} {code : Nat} {prep : Session → Session}
    {pack : Session → RadiusBuf → RadiusBuf} {Q : Int → Ctx → Prop} (hf : Fit c.sess)
    (hp : Prepares prep) (hs : ∀ v, Asked e k c.view v → After v (Q PPPOEERR_SUCCESS))
    (hx : ∀ r v, r ≠ PPPOEERR_SUCCESS → AskFailed e k c.view v → After v (Q r)) :
    wp (radiusRequest e k code prep pack) Q c := by
  simp only [radiusRequest, wp_bind, update_wp, wp_get, wp_ite, wp_pure]
  have hv : Ctx.view { c with sess := prep { c.sess with retryTimes := 0, retryMaxTimes := 3 } } =
      c.view := by
    simp [Ctx.view, hp.life]
  refine radiusReq_wp (hf.keep (hp.terms _) (hp.opt _)) ?_ ?_ ?_ <;> rw [hv]
  · intro hid c' hv' hf'
    exact ⟨fun h => hx _ _ h (.noId hid) c' hv' hf', fun h => absurd (by decide) h⟩
  · intro p r pack hid hsend c' hv' hf'
    exact ⟨fun h => hx _ _ h (.notSent hid hsend) c' hv' hf', fun h => absurd (by decide) h⟩
  · intro p r pack hid hsend c' hv' hf'
    refine ⟨fun h => absurd rfl h, fun _ => retransportSetup_wp hf' ?_ ?_⟩ <;> rw [hv']
    · intro htimer
      exact hs _ (.mk hid hsend htimer)
    · intro ret hret htimer hfail
      exact hx ret _ hret (.noTimer hid hsend htimer hfail)

theorem request_wp {o : SessionOptType} {k : ReqKind} {code : Nat} {prep : Session → Session}
    {pack : Session → RadiusBuf → RadiusBuf} {Q : Int → Ctx → Prop} (hf : Fit c.sess)
    (ho : o ∈ keptOps) (hp : Prepares prep)
    (hs : ∀ v, Asked e k c.view v → After v (Q PPPOEERR_SUCCESS))
    (hx : ∀ r v, r ≠ PPPOEERR_SUCCESS → AskFailed e k c.view v → After v (Q r)) :
    wp (sessionOptPerform o (radiusRequest e k code prep pack)) Q c := by
  rw [perform_wp hf ho]
  exact radiusRequest_wp hf hp hs hx

theorem acctStopV2_wp {Q : Int → Ctx → Prop} (hf : Fit c.sess)
    (hs : ∀ v, AskedOnce e .stop c.view v → After v (Q PPPOEERR_SUCCESS))
    (hx : ∀ r v, r ≠ PPPOEERR_SUCCESS → AskFailed e .stop c.view v → After v (Q r)) :
    wp (sessionOptPerform .ACCTSTOPV2 (radiusAcctStopWithoutRetransport e)) Q c := by
  rw [perform_wp hf (by decide)]
  simp only [radiusAcctStopWithoutRetransport, wp_bind, update_wp, wp_get]
  refine radiusReq_wp (hf.keep rfl rfl) ?_ ?_ ?_
  · intro hid
    exact hx _ _ (by decide) (.noId hid)
  · intro p r pack hid hsend
    exact hx _ _ (by decide) (.notSent hid hsend)
  · intro p r pack hid hsend
    exact hs _ (.mk hid hsend)

/-- A request changes the identifier of the session, its marks and its retransmission timer. -/
structure AskFrame (v v' : View) : Prop where
  state : v'.life.state = v.life.state
  sid : v'.life.sid = v.life.sid
  mac : v'.life.mac = v.life.mac
  ipaddr : v'.life.ipaddr = v.life.ipaddr
  ident : v'.life.ident = v.life.ident
  timeout : v'.life.timeout = v.life.timeout
  pool : v'.pool = v.pool
  options : v'.options = v.options
  queue : v'.queue = v.queue
  exited : v'.exited = v.exited
  fault : v'.fault = v.fault

theorem Asked.frame {k : ReqKind} {v v' : View} (h : Asked e k v v') : AskFrame v v' := by
  cases h; exact ⟨rfl, rfl, rfl, rfl, rfl, rfl, rfl, rfl, rfl, rfl, rfl⟩

theorem AskFailed.frame {k : ReqKind} {v v' : View} (h : AskFailed e k v v') : AskFrame v v' := by
  cases h <;> exact ⟨rfl, rfl, rfl, rfl, rfl, rfl, rfl, rfl, rfl, rfl, rfl⟩

theorem AskedOnce.frame {k : ReqKind} {v v' : View} (h : AskedOnce e k v v') : AskFrame v v' := by
  cases h; exact ⟨rfl, rfl, rfl, rfl, rfl, rfl, rfl, rfl, rfl, rfl, rfl⟩

theorem Asked.refcnt {k : ReqKind} {v v' : View} (h : Asked e k v v') :
    v'.life.refcnt = v.life.refcnt := by
  cases h; rfl

theorem AskFailed.refcnt {k : ReqKind} {v v' : View} (h : AskFailed e k v v') :
    v'.life.refcnt = v.life.refcnt := by
  cases h <;> rfl

theorem AskedOnce.refcnt {k : ReqKind} {v v' : View} (h : AskedOnce e k v v') :
    v'.life.refcnt = v.life.refcnt := by
  cases h; rfl

theorem Asked.marks {k : ReqKind} {v v' : View} (h : Asked e k v v') :
    v'.life.marks = v.life.marks ++ [.request k] := by
  cases h; rfl

theorem AskFailed.marks {k : ReqKind} {v v' : View} (h : AskFailed e k v v') :
    v'.life.marks = v.life.marks ∨ v'.life.marks = v.life.marks ++ [.request k] := by
  cases h with
  | noId => exact .inl rfl
  | notSent => exact .inl rfl
  | noTimer => exact .inr rfl

theorem AskedOnce.marks {k : ReqKind} {v v' : View} (h : AskedOnce e k v v') :
    v'.life.marks = v.life.marks ++ [.request k] := by
  cases h; rfl

/-! ## Messages for the peer -/

theorem sync_wp {msg : Session → Sync} {Q : Int → Ctx → Prop} (hf : Fit c.sess)
    (h : ∀ r, After (c.view.post e (msg c.sess)) (Q r)) : wp (sessoptSync e msg) Q c := by
  simp only [sessoptSync, sessBackupSync, wp_bind, wp_get, wp_ite, wp_modify, wp_pure]
  refine ⟨fun hst => ?_, fun hst => ⟨fun hc => ?_, fun hc => ⟨fun hp => ?_, fun hp =>
    ⟨fun ht => ?_, fun ht => ?_⟩⟩⟩⟩
  · exact h _ _ (by simp_all [View.post, Env.posts]) hf
  · exact h _ _ (by simp_all [View.post, Env.posts]) hf
  · exact h _ _ (by simp_all [View.post, Env.posts]) hf
  · exact h _ _ (by simp_all [View.post, Env.posts]) hf
  · exact h _ _ (by simp_all [View.post, Env.posts, Ctx.view]) hf

theorem onlinesync_wp {Q : Int → Ctx → Prop} (hf : Fit c.sess)
    (h : ∀ r m, Tells m c.view.life → After (c.view.post e (.SESSONLINE m)) (Q r)) :
    wp (sessionOptPerform .ONLINESYNC (sessoptOnlinesync e)) Q c := by
  rw [perform_wp hf (by decide)]
  exact sync_wp hf fun r => h r _ ⟨rfl, rfl, rfl⟩

theorem offlinesync_wp {Q : Int → Ctx → Prop} (hf : Fit c.sess)
    (h : ∀ r, After (c.view.post e c.view.life.offlineSync) (Q r)) :
    wp (sessionOptPerform .OFFLINESYNC (sessoptOfflinesync e)) Q c := by
  rw [perform_wp hf (by decide)]
  exact sync_wp hf h

theorem updatesync_wp {Q : Int → Ctx → Prop} (hf : Fit c.sess)
    (h : ∀ r m, m.sid = c.view.life.sid ∧ m.mac = c.view.life.mac →
      After (c.view.post e (.SESSUPDATE m)) (Q r)) :
    wp (sessionOptPerform .UPDATESYNC (sessoptUpdatesync e)) Q c := by
  rw [perform_wp hf (by decide)]
  exact sync_wp hf fun r => h r _ ⟨rfl, rfl⟩

/-! ## Online and offline -/

theorem goto_wp {st : SessState} {Q : Unit → Ctx → Prop} (hf : Fit c.sess)
    (h : After (c.view.goto st) (Q ())) : wp (update fun s => { s with state := st }) Q c :=
  update_after hf rfl rfl rfl h

theorem sessOffline_wp {Q : Int → Ctx → Prop} (hf : Fit c.sess)
    (hs : ∀ v, Asked e .stop c.view v →
      After ((v.goto .OFFLINEPOST).post e v.life.offlineSync) (Q PPPOEERR_SUCCESS))
    (hx : ∀ r v, r ≠ PPPOEERR_SUCCESS → AskFailed e .stop c.view v →
      After ((v.goto .OFFLINE).post e v.life.offlineSync) (Q r)) :
    wp (sessOffline e) Q c := by
  simp only [sessOffline, wp_bind, wp_ite, wp_pure]
  refine timerDestroy_wp hf fun c₁ hv₁ hf₁ => timerDestroy_wp hf₁ fun c₂ hv₂ hf₂ => ?_
  have hv : c₂.view = c.view := by rw [hv₂, hv₁]; rfl
  refine request_wp hf₂ (by decide) ⟨fun _ => rfl, fun _ => rfl, fun _ => rfl⟩ ?_ ?_ <;> rw [hv]
  · intro v ha c₃ hv₃ hf₃
    refine ⟨fun h => absurd rfl h, fun _ => goto_wp hf₃ fun c₄ hv₄ hf₄ => ?_⟩
    refine offlinesync_wp hf₄ fun r => ?_
    rw [hv₄, hv₃]
    exact hs v ha
  · intro r v hr ha c₃ hv₃ hf₃
    refine ⟨fun _ => goto_wp hf₃ fun c₄ hv₄ hf₄ => ?_, fun h => absurd hr h⟩
    refine offlinesync_wp hf₄ fun _ => ?_
    rw [hv₄, hv₃]
    exact hx r v hr ha

theorem sessOnline_wp {Q : Int → Ctx → Prop} (hf : Fit c.sess)
    (hs : ∀ v, Asked e .start (c.view.onTimer .TIMEOUT Timer.pause) v →
      After (v.goto .ONLINEPOST) (Q PPPOEERR_SUCCESS))
    (hn : ∀ r, r ≠ PPPOEERR_SUCCESS → After (c.view.onTimer .TIMEOUT Timer.pause) (Q r))
    (hx : ∀ r v, r ≠ PPPOEERR_SUCCESS →
      AskFailed e .start (c.view.onTimer .TIMEOUT Timer.pause) v → After v (Q r)) :
    wp (sessOnline e) Q c := by
  simp only [sessOnline, wp_bind, wp_ite, wp_pure]
  refine timerPause_wp hf fun _ c₁ hv₁ hf₁ => timerInit_wp hf₁ (fun _ c₂ hv₂ hf₂ => ?_) ?_
  · refine ⟨fun h => absurd rfl h, fun _ => timerInit_wp hf₂ (fun _ c₃ hv₃ hf₃ => ?_) ?_⟩
    · refine ⟨fun h => absurd rfl h, fun _ => ?_⟩
      have hv : c₃.view = c.view.onTimer .TIMEOUT Timer.pause := by rw [hv₃, hv₂, hv₁]; rfl
      refine request_wp hf₃ (by decide) ⟨fun _ => rfl, fun _ => rfl, fun _ => rfl⟩ ?_ ?_ <;> rw [hv]
      · intro v ha c₄ hv₄ hf₄
        refine ⟨fun h => absurd rfl h, fun _ => goto_wp hf₄ ?_⟩
        rw [hv₄]
        exact hs v ha
      · intro r v hr ha c₄ hv₄ hf₄
        refine ⟨fun _ => ?_, fun h => absurd hr h⟩
        refine timerDestroy_wp hf₄ fun c₅ hv₅ hf₅ => timerDestroy_wp hf₅ fun c₆ hv₆ hf₆ => ?_
        exact hx r v hr ha c₆ (by rw [hv₆, hv₅, hv₄]; rfl) hf₆
    · intro r hr _ c₃ hv₃ hf₃
      refine ⟨fun _ => timerDestroy_wp hf₃ fun c₄ hv₄ hf₄ => ?_, fun h => absurd hr h⟩
      exact hn r hr c₄ (by rw [hv₄, hv₃, hv₂, hv₁]; rfl) hf₄
  · intro r hr _ c₂ hv₂ hf₂
    exact ⟨fun _ => hn r hr c₂ (by rw [hv₂, hv₁]) hf₂, fun h => absurd hr h⟩

/-! ## Ending a session -/

/-- The states in which `manage_sess_exit` ends a session at once. -/
def SessState.plain (st : SessState) : Bool :=
  st ≠ .ONLINE ∧ st ≠ .OFFLINEPRE ∧ st ≠ .OFFLINEPOST

theorem manageSessExit_wp {Q : Unit → Ctx → Prop} (hf : Fit c.sess)
    (hp : c.view.life.state.plain → ∀ st, After (c.view.leave st) (Q ()))
    (hw : c.view.life.state = .OFFLINEPRE ∨ c.view.life.state = .OFFLINEPOST →
      After c.view (Q ()))
    (hs : c.view.life.state = .ONLINE → ∀ v, Asked e .stop c.view v →
      After ((v.goto .OFFLINEPOST).post e v.life.offlineSync) (Q ()))
    (hx : c.view.life.state = .ONLINE → ∀ v, AskFailed e .stop c.view v → ∀ st,
      After ((v.post e v.life.offlineSync).leave st) (Q ())) :
    wp (manageSessExit e) Q c := by
  rw [manageSessExit, wp_bind, wp_get]
  split
  · rename_i hst
    simp only [wp_bind, wp_ite, wp_pure]
    refine sessOffline_wp hf (fun v ha c' hv hf' => ?_) (fun r v hr ha c' hv hf' => ?_)
    · exact ⟨fun _ => hs hst v ha c' hv hf', fun h => absurd rfl h⟩
    · refine ⟨fun h => absurd h hr, fun _ => exit_wp hf' fun st => ?_⟩
      rw [hv]
      exact hx hst v ha st
  · rename_i hst
    exact hw (.inl hst) c rfl hf
  · rename_i hst
    exact hw (.inr hst) c rfl hf
  · rename_i h₁ h₂ h₃
    exact exit_wp hf (hp (decide_eq_true ⟨h₁, h₂, h₃⟩))

/-! ## Identifiers -/

theorem clean_wp {Q : Unit → Ctx → Prop} (hf : Fit c.sess) (h : After c.view.clean (Q ())) :
    wp _radiusSessClean Q c := by
  rw [_radiusSessClean, wp_modify]
  cases hp : c.sess.priv_data with
  | none => exact h _ (by simp [View.clean, Ctx.view, hp]) hf
  | some p => exact h _ (by simp [View.clean, Ctx.view, hp, Radius.free]) (hf.keep rfl rfl)

end

end Pppoe
end DaemonGroup
