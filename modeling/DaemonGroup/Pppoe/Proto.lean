import DaemonGroup.Pppoe.Rules
import Mathlib.Logic.Relation

/-!
# DaemonGroup.Pppoe.Proto

What the four protocols do to a session that gets one of their frames: `Proto e f c r v a` lists
the cases, with the reply `r`, the view `v` and the authentication type `a` that are left. The rule
`pppProtoProcess_wp` says there is no other.
-/

namespace DaemonGroup
namespace Pppoe

open Lib

/-! ## Frames -/

/-- The frame passes the length checks of its protocol. -/
def Frame.whole (f : Frame) : Bool := 6 ≤ f.bytes.length ∧ f.ctl.length ≤ f.pbuf.len

def Frame.is (f : Frame) (proto code : Nat) : Bool :=
  f.whole ∧ f.proto = proto ∧ f.ctl.code = code

/-- The options of a frame, behind the control header. -/
def Frame.body (f : Frame) : Pbuf := Pbuf.pull { f.pbuf with len := f.ctl.length } 4

/-- One of the options is an Authentication-Protocol option. -/
def Frame.namesAuth (f : Frame) : Bool :=
  (tlvList f.body.len f.body.data f.body.len).any fun o => getChar o 0 = CI_AUTHTYPE

/-- A CHAP Response of the right size, for a user whose name fits. -/
def Frame.isResponse (f : Frame) : Bool :=
  f.is PPP_CHAP CHAP_RESPONSE ∧
    ¬ (f.body.len < RADIUS_PASSWORD_LEN + 1 ∨ getChar f.body.data 0 ≠ RADIUS_PASSWORD_LEN) ∧
    ¬ (f.body.pull (RADIUS_PASSWORD_LEN + 1)).len > USERNAMESIZE - 1

def Frame.isTermReq (f : Frame) : Bool := f.is PPP_LCP TERMREQ ∨ f.is PPP_IPCP TERMREQ

/-- The states of a session between two events. -/
def SessState.rests : SessState → Bool
  | .NONE | .INIT | .LCPPREOPEN | .LCPPOSTOPEN | .AUTHPRE | .AUTHPOST | .IPCPPOSTOPEN | .ONLINEPRE
  | .ONLINEPOST | .ONLINE | .OFFLINEPOST | .OFFLINE | .DEAD => true
  | _ => false

def SessState.lcp (st : SessState) : Bool := st = .INIT ∨ st = .LCPPREOPEN ∨ st = .LCPPOSTOPEN

/-- The Configure-Request is acknowledged. -/
def lcpReqTaken (o : SessionOptions) (s : Session) (p : Pbuf) : Bool :=
  match ciWalk id (lcpReqOption s) p { options := o } with
  | .inl a => a.rej = [] ∧ a.nak = []
  | .inr _ => false

/-- The frame completes the LCP negotiation. -/
def Frame.opens (f : Frame) (o : SessionOptions) (s : Session) : Bool :=
  s.state.lcp ∧ f.is PPP_LCP CONFREQ ∧ s.configState &&& STATE_RECVACK ≠ 0 ∧
      lcpReqTaken o s f.body ∨
    s.state = .LCPPOSTOPEN ∧ f.is PPP_LCP CONFACK ∧ f.ctl.ident = s.ident ∧
      s.configState &&& STATE_SENDACK ≠ 0 ∧ (ciWalk id (lcpAckOption o) f.body s).isLeft

/-- A frame that may end a session which is in the state `st`. -/
def Frame.mayEnd (f : Frame) (st : SessState) : Bool :=
  st = .INIT ∨ st = .LCPPREOPEN ∨ st = .IPCPPOSTOPEN ∨ f.isTermReq ∧ st.plain ∨
    f.is PPP_CCP CONFNAK ∨ f.is PPP_CCP CONFREJ

theorem Frame.opens_lcp {f : Frame} {o : SessionOptions} {s : Session} (h : f.opens o s) :
    s.state.lcp := by
  rcases of_decide_eq_true h with h | h
  · exact h.1
  · rw [h.1]
    rfl

/-! ## Addresses -/

/-- An address is given to a session that has none. -/
def ApplyStep (a : Addr) (x y : Ippool × IpaddrStruct) : Prop :=
  x.2.ip = 0 ∧ ipaddrApply x.1 a x.2 = (PPPOEERR_SUCCESS, y.1, y.2)

def View.address (v : View) (y : Ippool × IpaddrStruct) : View :=
  { v with pool := y.1, life := { v.life with ipaddr := y.2 } }

/-- Between `v` and `v'` the session has applied for its address, as often as it had none. -/
def Applies (e : Env) (v v' : View) : Prop :=
  ∃ y, Relation.ReflTransGen (ApplyStep e.self) (v.pool, v.life.ipaddr) y ∧ v' = v.address y

theorem Applies.refl {e : Env} {v : View} : Applies e v v := ⟨_, .refl, rfl⟩

/-- The address is the one the session had, or the one it has applied for. -/
theorem Applies.step {e : Env} {v v' : View} {y : Ippool × IpaddrStruct} (h : Applies e v v')
    (hy : ApplyStep e.self (v'.pool, v'.life.ipaddr) y) : Applies e v (v'.address y) := by
  obtain ⟨x, hx, rfl⟩ := h
  exact ⟨y, hx.tail hy, rfl⟩

/-! ## The cases -/

inductive Proto (e : Env) (f : Frame) (c : Ctx) : Int → View → Nat → Prop
  /-- nothing, but a reply -/
  | keep {r : Int} {a : Nat} (hr : r = CONFREQ → c.sess.state ≠ .AUTHPRE) : Proto e f c r c.view a
  | preopen {r : Int} {a : Nat} (hst : c.sess.state = .INIT) (hr : r ≠ CONFREQ) :
      Proto e f c r (c.view.goto .LCPPREOPEN) a
  | lcpopen {r : Int} {a : Nat} (hst : c.sess.state.lcp) (hopen : f.opens c.options c.sess)
      (hr : r ≠ CONFREQ) (h0 : 0 ≤ r)
      (ha : c.options.neg_upap = false → c.options.neg_eap = false →
        c.sess.auth_type = AUTH_CHAP ∨ f.namesAuth → a = AUTH_CHAP) :
      Proto e f c r (c.view.goto .LCPOPEN) a
  | response {a : Nat} (hst : c.sess.state = .AUTHPRE) (hresp : f.isResponse) :
      Proto e f c PPPOEERR_SUCCESS
        (((c.view.onTimer .TIMEOUT Timer.pause).goto .AUTH).mark [.response f.ctl.ident]) a
  | address {r : Int} {a : Nat} {v : View} (hst : c.sess.state = .IPCPPOSTOPEN)
      (ha : Applies e c.view v) : Proto e f c r v a
  | ipcpopen {r : Int} {a : Nat} {v : View} (hst : c.sess.state = .IPCPPOSTOPEN) (hr : r ≠ CONFREQ)
      (h0 : 0 ≤ r) (ha : Applies e c.view v) : Proto e f c r (v.goto .IPCPOPEN) a
  | close {r : Int} {a : Nat} {v : View} {st : SessState} (hend : f.mayEnd c.sess.state)
      (hr : r ≠ CONFREQ) (h0 : 0 ≤ r) (hv : v = c.view ∨ c.sess.state = .IPCPPOSTOPEN)
      (ha : Applies e c.view v) (hst : st = .IPCPCLOSE ∨ st = .LCPPRECLOSE ∨ st = .LCPCLOSE) :
      Proto e f c r (v.goto st) a
  | offline {a : Nat} {v : View} (hterm : f.isTermReq) (hst : c.sess.state = .ONLINE)
      (ha : Asked e .stop c.view v) :
      Proto e f c TERMACK ((v.goto .OFFLINEPOST).post e v.life.offlineSync) a
  | stuck {a : Nat} {v : View} (hterm : f.isTermReq) (hst : c.sess.state = .ONLINE)
      (ha : AskFailed e .stop c.view v) :
      Proto e f c TERMACK ((v.goto .OFFLINE).post e v.life.offlineSync) a

/-- `Q` of every reply and state that a frame can leave. -/
def ProtoAfter (e : Env) (f : Frame) (c : Ctx) (Q : Reply → Ctx → Prop) : Prop :=
  ∀ (r : Int) (d : Bytes) (c' : Ctx), Proto e f c r c'.view c'.sess.auth_type → Fit c'.sess →
    Q (r, d) c'

section
variable {e : Env} {f : Frame} {c : Ctx} {Q : Reply → Ctx → Prop}

theorem ProtoAfter.keep (h : ProtoAfter e f c Q) (hf : Fit c.sess) {r : Int} {d : Bytes}
    (hr : r = CONFREQ → c.sess.state ≠ .AUTHPRE) : Q (r, d) c :=
  h r d c (.keep hr) hf

/-- A reply that is no Configure-Request. -/
theorem ProtoAfter.reply (h : ProtoAfter e f c Q) (hf : Fit c.sess) {r : Int} {d : Bytes}
    (hr : r ≠ CONFREQ) : Q (r, d) c :=
  h.keep hf fun h1 => absurd h1 hr

/-! ## LCP -/

/-- Only CHAP is negotiated. -/
structure OnlyChap (o : SessionOptions) : Prop where
  upap : o.neg_upap = false
  eap : o.neg_eap = false

/-- A Configure-Request that is gone through has recorded CHAP, or is refused. -/
def LcpReqAcc.settled (a : LcpReqAcc) : Prop := a.auth_type = AUTH_CHAP ∨ a.rej ≠ [] ∨ a.nak ≠ []

theorem lcpReqAuth_only {s : Session} {cur : Bytes} {n : Nat} {a : LcpReqAcc}
    (ho : OnlyChap a.options) (ha : a.auth_type = 0 ∨ a.auth_type = AUTH_CHAP) :
    (lcpReqAuth s cur n a).options = a.options ∧
      ((lcpReqAuth s cur n a).auth_type = 0 ∨ (lcpReqAuth s cur n a).auth_type = AUTH_CHAP) := by
  have h₁ := ho.upap
  have h₂ := ho.eap
  unfold lcpReqAuth LcpReqAcc.reject LcpReqAcc.addNak
  grind

theorem chapOption_ne_nil (d : Nat) : chapOption d ≠ [] := by simp [chapOption, putChar]

theorem authOption_ne_nil (d : Nat) : authOption d ≠ [] := by simp [authOption, putChar]

theorem LcpReqAcc.reject_settled {a : LcpReqAcc} {cur : Bytes} {n : Nat} (hn : 2 ≤ n)
    (hc : cur ≠ []) : (a.reject cur n).settled := by
  refine .inr (.inl ?_)
  have : cur.take n ≠ [] := by
    rw [ne_eq, List.take_eq_nil_iff]
    rintro (h | h)
    · omega
    · exact hc h
  simp [LcpReqAcc.reject, this]

theorem LcpReqAcc.addNak_settled {a : LcpReqAcc} {o : Bytes} (ho : o ≠ []) :
    (a.addNak o).settled := .inr (.inr (by simp [LcpReqAcc.addNak, ho]))

theorem LcpReqAcc.reject_keeps {a : LcpReqAcc} {cur : Bytes} {n : Nat} (h : a.settled) :
    (a.reject cur n).settled := by
  rcases h with h | h | h
  · exact .inl h
  · exact .inr (.inl (by simp [LcpReqAcc.reject, h]))
  · exact .inr (.inr h)

theorem lcpReqAuth_settled {s : Session} {cur : Bytes} {n : Nat} {a : LcpReqAcc}
    (ho : OnlyChap a.options) (hn : 2 ≤ n) (hc : cur ≠ []) : (lcpReqAuth s cur n a).settled := by
  have hrej : (a.reject cur n).settled := LcpReqAcc.reject_settled hn hc
  have hchap : ∀ d, (a.addNak (chapOption d)).settled := fun d =>
    LcpReqAcc.addNak_settled (chapOption_ne_nil d)
  have hauth : ∀ d, (a.addNak (authOption d)).settled := fun d =>
    LcpReqAcc.addNak_settled (authOption_ne_nil d)
  have hset : ∀ d, LcpReqAcc.settled { a with auth_type := AUTH_CHAP, chap_mdtype := d } :=
    fun _ => .inl rfl
  have h₁ := ho.upap
  have h₂ := ho.eap
  unfold lcpReqAuth
  grind

/-- What one option of a Configure-Request can do. -/
inductive LcpReqStep (s : Session) (cur : Bytes) (n : Nat) (a : LcpReqAcc) : LcpReqAcc → Prop
  | reject (hc : getChar cur 0 ≠ CI_AUTHTYPE) : LcpReqStep s cur n a (a.reject cur n)
  | nak (m : Nat) (hc : getChar cur 0 ≠ CI_AUTHTYPE) :
      LcpReqStep s cur n a (a.addNak (mruOption m))
  | mru (m : Nat) (hc : getChar cur 0 ≠ CI_AUTHTYPE) :
      LcpReqStep s cur n a { a with options := { a.options with mru := m } }
  | magic (m : Bytes) (hc : getChar cur 0 ≠ CI_AUTHTYPE) :
      LcpReqStep s cur n a { a with magic := some m }
  | auth (hc : getChar cur 0 = CI_AUTHTYPE) : LcpReqStep s cur n a (lcpReqAuth s cur n a)

theorem lcpReqOption_step {s : Session} {cur : Bytes} {n : Nat} {a a' : LcpReqAcc}
    (hb : lcpReqOption s cur n a = .inl a') : LcpReqStep s cur n a a' := by
  have hmru : getChar cur 0 = CI_MRU → getChar cur 0 ≠ CI_AUTHTYPE := by rintro h; simp [h]; decide
  have hends : (∀ a', lcpReqOption s cur n a = .inl a' → LcpReqStep s cur n a a') ∧
      ∀ r, lcpReqOption s cur n a = .inr r → True := by
    unfold lcpReqOption
    refine body_ite (fun _ => body_inr trivial) fun _ => ?_
    refine body_ite (fun hcode => ?_) fun _ => ?_
    · have hnot := hmru hcode
      refine body_ite (fun _ => body_inl (.reject hnot)) fun _ => ?_
      exact body_ite (fun _ => body_inl (.nak _ hnot)) fun _ => body_inl (.mru _ hnot)
    refine body_ite (fun hcode => body_inl (.auth hcode)) fun hnot => ?_
    refine body_ite (fun _ => ?_) fun _ => body_inl (.reject hnot)
    refine body_ite (fun _ => body_inl (.reject hnot)) fun _ => ?_
    exact body_ite (fun _ => body_inr trivial) fun _ => body_inl (.magic _ hnot)
  exact hends.1 a' hb

theorem lcpReqAuth_options (s : Session) (cur : Bytes) (n : Nat) (a : LcpReqAcc) :
    (lcpReqAuth s cur n a).options = a.options := by
  unfold lcpReqAuth LcpReqAcc.reject LcpReqAcc.addNak
  grind

theorem lcpReqOption_fixed {s : Session} {cur : Bytes} {n : Nat} {o : SessionOptions} {a : LcpReqAcc}
    (h : a.options.fixed = o) :
    (∀ a', lcpReqOption s cur n a = .inl a' → a'.options.fixed = o) ∧
      (∀ a', lcpReqOption s cur n a = .inr a' → a'.options.fixed = o) := by
  have hauth : (lcpReqAuth s cur n a).options.fixed = o := by rw [lcpReqAuth_options, h]
  unfold lcpReqOption
  repeat' refine body_ite (fun _ => ?_) fun _ => ?_
  all_goals first | exact body_inl h | exact body_inl hauth | exact body_inr h

/-- The walk over a Configure-Request records CHAP or nothing. -/
theorem lcpReqOption_only {s : Session} {cur : Bytes} {n : Nat} {a a' : LcpReqAcc}
    (h : OnlyChap a.options ∧ (a.auth_type = 0 ∨ a.auth_type = AUTH_CHAP))
    (hb : lcpReqOption s cur n a = .inl a') :
    OnlyChap a'.options ∧ (a'.auth_type = 0 ∨ a'.auth_type = AUTH_CHAP) := by
  obtain ⟨ho, ha⟩ := h
  cases lcpReqOption_step hb with
  | reject => exact ⟨ho, ha⟩
  | nak => exact ⟨ho, ha⟩
  | mru => exact ⟨⟨ho.upap, ho.eap⟩, ha⟩
  | magic => exact ⟨ho, ha⟩
  | auth =>
    obtain ⟨h₁, h₂⟩ := lcpReqAuth_only ho ha
    exact ⟨h₁ ▸ ho, h₂⟩

theorem lcpReqOption_settled {s : Session} {cur : Bytes} {n : Nat} {a a' : LcpReqAcc} (hn : 2 ≤ n)
    (ho : OnlyChap a.options) (h : a.settled ∨ getChar cur 0 = CI_AUTHTYPE)
    (hb : lcpReqOption s cur n a = .inl a') : a'.settled := by
  cases lcpReqOption_step hb with
  | reject hc => exact LcpReqAcc.reject_keeps (h.resolve_right hc)
  | nak m hc => exact LcpReqAcc.addNak_settled (by simp [mruOption, putChar])
  | mru m hc => exact h.resolve_right hc
  | magic m hc => exact h.resolve_right hc
  | auth hc =>
    refine lcpReqAuth_settled ho hn ?_
    rintro rfl
    exact absurd hc (by decide)

end

section
variable {e : Env} {f : Frame} {c : Ctx} {Q : Reply → Ctx → Prop}

/-- The rule of the walk over the options of a packet. -/
theorem ciWalk_rule {σ ρ : Type} {bad : σ → ρ} {body : Bytes → Nat → σ → σ ⊕ ρ} {I : σ → Prop}
    {R : ρ → Prop} (hbad : ∀ s, I s → R (bad s))
    (hbody : ∀ cur n s, I s →
      (∀ s', body cur n s = .inl s' → I s') ∧ (∀ r, body cur n s = .inr r → R r))
    {p : Pbuf} {s : σ} (hs : I s) :
    (∀ s', ciWalk bad body p s = .inl s' → I s') ∧ (∀ r, ciWalk bad body p s = .inr r → R r) := by
  rw [ciWalk]
  split
  · constructor
    · intro s' h; cases h
    · intro r h; cases h; exact hbad s hs
  · exact tlvWalk_rule hbad hbody hs

theorem ciWalk_inl {σ ρ : Type} {bad : σ → ρ} {body : Bytes → Nat → σ → σ ⊕ ρ} {p : Pbuf} {s s' : σ}
    (h : ciWalk bad body p s = .inl s') : tlvWalk bad body p.len p.data p.len s = .inl s' := by
  rw [ciWalk] at h
  split at h
  · cases h
  · exact h

theorem confReply_ne {n : Nat} (hn : n ≠ CONFREQ) (d : Bytes) : (confReply n d).1 ≠ CONFREQ := by
  rw [confReply]
  split
  · decide
  · show (n : Int) ≠ CONFREQ
    exact_mod_cast hn

/-- The authentication type after a Configure-Request that was acknowledged. -/
theorem lcpReq_auth {a : LcpReqAcc} (ho : OnlyChap c.options)
    (hw : ciWalk id (lcpReqOption c.sess) f.body { options := c.options } = .inl a)
    (hrej : a.rej = []) (hnak : a.nak = []) (h : c.sess.auth_type = AUTH_CHAP ∨ f.namesAuth) :
    (lcpReqRecord a c.sess).auth_type = AUTH_CHAP := by
  have honly : ∀ cur n a a', OnlyChap a.options ∧ (a.auth_type = 0 ∨ a.auth_type = AUTH_CHAP) →
      lcpReqOption c.sess cur n a = .inl a' →
      OnlyChap a'.options ∧ (a'.auth_type = 0 ∨ a'.auth_type = AUTH_CHAP) :=
    fun _ _ _ _ h hb => lcpReqOption_only h hb
  have hstart : OnlyChap c.options ∧ (0 = 0 ∨ 0 = AUTH_CHAP) := ⟨ho, .inl rfl⟩
  have ha : a.auth_type = 0 ∨ a.auth_type = AUTH_CHAP :=
    ((tlvWalk_meets (H := fun _ => True) honly (fun cur n _ _ _ hI _ hb => honly cur n _ _ hI hb)
      hstart (.inl hstart) (ciWalk_inl hw))).2
  have hrec : (lcpReqRecord a c.sess).auth_type =
      if a.auth_type ≠ 0 then a.auth_type else c.sess.auth_type := by
    rw [lcpReqRecord]
    cases a.magic <;> dsimp only <;> split <;> rfl
  rw [hrec]
  rcases h with h | h
  · rcases ha with ha | ha <;> simp [ha, h]
  · have hset : a.settled := by
      refine tlvWalk_meets (H := fun o => getChar o 0 = CI_AUTHTYPE) honly
        (fun cur n _ _ h2 hI hP hb => lcpReqOption_settled h2 hI.1 hP hb) hstart (.inr ?_)
        (ciWalk_inl hw)
      simpa [Frame.namesAuth] using h
    rw [LcpReqAcc.settled, hrej, hnak] at hset
    simp only [ne_eq, not_true_eq_false, or_false] at hset
    simp [hset, show AUTH_CHAP ≠ 0 by decide]

theorem lcpReqRecord_frame (a : LcpReqAcc) (s : Session) :
    (lcpReqRecord a s).toLife = s.toLife ∧ (lcpReqRecord a s).termMaxTimes = s.termMaxTimes ∧
      (lcpReqRecord a s).opt = s.opt ∧ (lcpReqRecord a s).configState = s.configState := by
  rw [lcpReqRecord]
  cases a.magic <;> dsimp only <;> split <;> exact ⟨rfl, rfl, rfl, rfl⟩

/-- The end of a negotiation: it opens, or an acknowledgement is noted. -/
theorem confOpen_wp {Q : Unit → Ctx → Prop} {bit other : Nat} {st : SessState} (hf : Fit c.sess)
    (ho : c.sess.configState &&& bit ≠ 0 → ∀ c', c'.view = c.view.goto st →
      c'.sess.auth_type = c.sess.auth_type → Fit c'.sess → Q () c')
    (hk : After c.view (Q ())) :
    wp (update fun s =>
      if s.configState &&& bit ≠ 0 then { s with state := st, configState := 0 }
      else { s with configState := s.configState ||| other }) Q c := by
  rw [update_wp]
  split
  · rename_i hbit
    exact ho hbit _ rfl rfl (hf.keep rfl rfl)
  · exact hk _ rfl (hf.keep rfl rfl)

theorem lcpConfReqAnswer_wp (hf : Fit c.sess)
    (hk : ∀ (r : Int) (d : Bytes), r ≠ CONFREQ → After c.view (Q (r, d)))
    (ho : ∀ (r : Int) (d : Bytes) (c' : Ctx), r ≠ CONFREQ → 0 ≤ r →
      c.sess.configState &&& STATE_RECVACK ≠ 0 → lcpReqTaken c.options c.sess f.body →
      c'.view = c.view.goto .LCPOPEN → Fit c'.sess →
      (OnlyChap c.options → c.sess.auth_type = AUTH_CHAP ∨ f.namesAuth →
        c'.sess.auth_type = AUTH_CHAP) → Q (r, d) c') :
    wp (lcpConfReqAnswer f.body) Q c := by
  have hwalk :
      (∀ a, ciWalk id (lcpReqOption c.sess) f.body { options := c.options } = .inl a →
        a.options.fixed = c.options.fixed) ∧
      (∀ a, ciWalk id (lcpReqOption c.sess) f.body { options := c.options } = .inr a →
        a.options.fixed = c.options.fixed) :=
    ciWalk_rule (I := fun a : LcpReqAcc => a.options.fixed = c.options.fixed) (fun _ h => h)
      (fun _ _ _ h => lcpReqOption_fixed h) rfl
  have hopts : ∀ {a : LcpReqAcc}, a.options.fixed = c.options.fixed →
      Ctx.view { c with options := a.options } = c.view := by
    intro a h
    simp [Ctx.view, h]
  simp only [lcpConfReqAnswer, wp_bind, wp_get]
  split
  · rename_i a hw
    exact hk CODEREJ _ (by decide) _ (hopts (hwalk.2 a hw)) hf
  · rename_i a hw
    have hopt := hopts (hwalk.1 a hw)
    simp only [wp_bind, wp_modify, wp_ite, wp_pure, update_wp]
    refine ⟨fun _ => hk _ _ (confReply_ne (by decide) _) _ hopt hf, fun hrej => ⟨fun _ =>
      hk _ _ (confReply_ne (by decide) _) _ hopt hf, fun hnak => ?_⟩⟩
    obtain ⟨hl, ht, hop, hcs⟩ := lcpReqRecord_frame a c.sess
    have hrej : a.rej = [] := by simpa using hrej
    have hnak : a.nak = [] := by simpa using hnak
    have htaken : lcpReqTaken c.options c.sess f.body := by
      rw [lcpReqTaken, hw]
      exact decide_eq_true ⟨hrej, hnak⟩
    have hv : Ctx.view { c with sess := lcpReqRecord a c.sess, options := a.options } = c.view := by
      rw [← hopt]
      simp [Ctx.view, hl]
    refine confOpen_wp (hf.keep ht hop) (fun hbit c' hv' ha' hf' => ?_) (fun c' hv' hf' => ?_)
    · refine ho CONFACK _ c' (by decide) (by decide) (by rw [← hcs]; exact hbit) htaken (by rw [hv', hv]) hf'
        fun hopt hn => ?_
      rw [ha']
      exact lcpReq_auth hopt hw hrej hnak hn
    · exact hk CONFACK _ (by decide) c' (by rw [hv', hv]) hf'

theorem lcpReqTaken_state {o : SessionOptions} {s : Session} {p : Pbuf} {st : SessState} :
    lcpReqTaken o { s with state := st } p = lcpReqTaken o s p := by
  have hopt : lcpReqOption { s with state := st } = lcpReqOption s := rfl
  rw [lcpReqTaken, lcpReqTaken, hopt]

theorem lcpProcessConfReq_wp (h : ProtoAfter e f c Q) (hf : Fit c.sess) (hst : c.sess.state.lcp)
    (hreq : f.is PPP_LCP CONFREQ) : wp (lcpProcessConfReq f.body) Q c := by
  rw [lcpProcessConfReq, wp_bind, update_wp]
  split
  · rename_i hi
    refine lcpConfReqAnswer_wp (hf.keep rfl rfl) (fun r d hr c' hv hf' => ?_)
      (fun r d c' hr h0 hbit htaken hv hf' ha => ?_)
    · exact h r d c' (hv ▸ .preopen hi hr) hf'
    · rw [lcpReqTaken_state] at htaken
      have hopen : f.opens c.options c.sess := decide_eq_true (.inl ⟨hst, hreq, hbit, htaken⟩)
      exact h r d c' (hv ▸ .lcpopen hst hopen hr h0 fun h₁ h₂ => ha ⟨h₁, h₂⟩) hf'
  · refine lcpConfReqAnswer_wp hf (fun r d hr c' hv hf' => ?_)
      (fun r d c' hr h0 hbit htaken hv hf' ha => ?_)
    · exact h r d c' (hv ▸ .keep fun h1 => absurd h1 hr) hf'
    · have hopen : f.opens c.options c.sess := decide_eq_true (.inl ⟨hst, hreq, hbit, htaken⟩)
      exact h r d c' (hv ▸ .lcpopen hst hopen hr h0 fun h₁ h₂ => ha ⟨h₁, h₂⟩) hf'

/-- A session with another authentication type. -/
def SameBut (s s' : Session) : Prop :=
  s'.toLife = s.toLife ∧ s'.termMaxTimes = s.termMaxTimes ∧ s'.opt = s.opt ∧
    s'.configState = s.configState

theorem lcpAckOption_same {o : SessionOptions} {s₀ s : Session} {cur : Bytes} {n : Nat}
    (h : SameBut s₀ s) :
    (∀ s', lcpAckOption o cur n s = .inl s' → SameBut s₀ s') ∧
      (∀ s', lcpAckOption o cur n s = .inr s' → SameBut s₀ s') := by
  unfold lcpAckOption
  repeat' refine body_ite (fun _ => ?_) fun _ => ?_
  all_goals first | exact body_inl h | exact body_inr h

theorem lcpAckOption_chap {o : SessionOptions} {s s' : Session} {cur : Bytes} {n : Nat}
    (ho : OnlyChap o) (h : s.auth_type = AUTH_CHAP ∨ getChar cur 0 = CI_AUTHTYPE)
    (hb : lcpAckOption o cur n s = .inl s') : s'.auth_type = AUTH_CHAP := by
  have hother : getChar cur 0 ≠ CI_AUTHTYPE → s.auth_type = AUTH_CHAP := h.resolve_right
  have hends : (∀ s', lcpAckOption o cur n s = .inl s' → s'.auth_type = AUTH_CHAP) ∧
      ∀ r, lcpAckOption o cur n s = .inr r → True := by
    unfold lcpAckOption
    refine body_ite (fun hmru => ?_) fun _ => ?_
    · have hs := hother (by rw [hmru]; decide)
      exact body_ite (fun _ => body_inr trivial) fun _ => body_inl hs
    refine body_ite (fun _ => ?_) fun hnot => ?_
    · refine body_ite (fun _ => body_inr trivial) fun _ => ?_
      refine body_ite (fun _ => ?_) fun _ => ?_
      · -- PAP is not negotiated
        refine body_ite (fun _ => body_inr trivial) fun hpap => ?_
        simp [ho.upap] at hpap
      refine body_ite (fun _ => ?_) fun _ => ?_
      · refine body_ite (fun _ => body_inr trivial) fun _ => ?_
        exact body_ite (fun _ => body_inr trivial) fun _ => body_inl rfl
      · refine body_ite (fun _ => ?_) fun _ => body_inr trivial
        refine body_ite (fun _ => body_inr trivial) fun heap => ?_
        simp [ho.eap] at heap
    · refine body_ite (fun _ => ?_) fun _ => body_inr trivial
      exact body_ite (fun _ => body_inr trivial) fun _ => body_inl (hother hnot)
  exact hends.1 s' hb

theorem lcpProcessConfAck_wp (h : ProtoAfter e f c Q) (hf : Fit c.sess)
    (hst : c.sess.state = .LCPPOSTOPEN) (hack : f.is PPP_LCP CONFACK)
    (hid : f.ctl.ident = c.sess.ident) : wp (lcpProcessConfAck f.body) Q c := by
  have hwalk :
      (∀ s, ciWalk id (lcpAckOption c.options) f.body c.sess = .inl s → SameBut c.sess s) ∧
        (∀ s, ciWalk id (lcpAckOption c.options) f.body c.sess = .inr s → SameBut c.sess s) :=
    ciWalk_rule (fun _ h => h) (fun _ _ _ hs => lcpAckOption_same hs) ⟨rfl, rfl, rfl, rfl⟩
  simp only [lcpProcessConfAck, wp_bind, wp_get]
  split
  · rename_i s hw
    obtain ⟨hl, ht, ho, -⟩ := hwalk.2 s hw
    have hv : Ctx.view { c with sess := s } = c.view := by simp [Ctx.view, hl]
    simp only [wp_bind, update_wp, wp_pure]
    refine h CODEREJ _ _ ?_ (hf.keep ht ho)
    rw [hv]
    exact .keep fun h1 => absurd h1 (by decide)
  · rename_i s hw
    obtain ⟨hl, ht, ho, hcs⟩ := hwalk.1 s hw
    have hv : Ctx.view { c with sess := s } = c.view := by simp [Ctx.view, hl]
    simp only [wp_bind, update_wp, wp_pure]
    refine confOpen_wp (hf.keep ht ho) (fun hbit c' hv' ha' hf' => ?_) (fun c' hv' hf' => ?_)
    · refine h _ _ c' ?_ hf'
      rw [hv', hv]
      have hopen : f.opens c.options c.sess :=
        decide_eq_true (.inr ⟨hst, hack, hid, hcs ▸ hbit, by rw [hw]; rfl⟩)
      refine .lcpopen (by rw [hst]; decide) hopen (by decide) (by decide) fun h₁ h₂ hn => ?_
      rw [ha']
      refine tlvWalk_meets (I := fun _ => True) (H := fun o => getChar o 0 = CI_AUTHTYPE)
        (P := fun s => s.auth_type = AUTH_CHAP) (fun _ _ _ _ _ _ => trivial)
        (fun cur n _ _ _ _ hP hb => lcpAckOption_chap ⟨h₁, h₂⟩ hP hb) trivial ?_ (ciWalk_inl hw)
      simpa [Frame.namesAuth] using hn
    · refine h _ _ c' ?_ hf'
      rw [hv', hv]
      exact .keep fun h1 => absurd h1 (by decide)

theorem lcpNakOption_fixed {s : Session} {cur : Bytes} {n : Nat} {o : SessionOptions} {a : LcpNakAcc}
    (h : a.options.fixed = o) :
    (∀ a', lcpNakOption s cur n a = .inl a' → a'.options.fixed = o) ∧
      (∀ r, lcpNakOption s cur n a = .inr r → r.1.options.fixed = o) := by
  unfold lcpNakOption
  repeat' refine body_ite (fun _ => ?_) fun _ => ?_
  all_goals first | exact body_inl h | exact body_inr h

theorem lcpProcessConfNak_wp (h : ProtoAfter e f c Q) (hf : Fit c.sess)
    (hst : c.sess.state = .LCPPOSTOPEN) : wp (lcpProcessConfNak f.body) Q c := by
  have hne : c.sess.state ≠ .AUTHPRE := by rw [hst]; decide
  have hwalk :
      (∀ a, ciWalk (fun a => (a, CODEREJ)) (lcpNakOption c.sess) f.body { options := c.options } =
        .inl a → a.options.fixed = c.options.fixed) ∧
      (∀ r, ciWalk (fun a => (a, CODEREJ)) (lcpNakOption c.sess) f.body { options := c.options } =
        .inr r → r.1.options.fixed = c.options.fixed) :=
    ciWalk_rule (I := fun a : LcpNakAcc => a.options.fixed = c.options.fixed) (fun _ h => h)
      (fun _ _ _ h => lcpNakOption_fixed h) rfl
  have hkeep : ∀ (o : SessionOptions) (r : Int) (d : Bytes), o.fixed = c.options.fixed →
      Q (r, d) { c with options := o } := by
    intro o r d ho
    have hv : Ctx.view { c with options := o } = c.view := by simp [Ctx.view, ho]
    refine h r d _ ?_ hf
    rw [hv]
    exact .keep fun _ => hne
  simp only [lcpProcessConfNak, wp_bind, wp_get]
  split
  · rename_i a code hw
    exact hkeep a.options _ _ (hwalk.2 (a, code) hw)
  · rename_i a hw
    exact hkeep a.options _ _ (hwalk.1 a hw)

/-- What both protocols do with a Terminate-Request, once the view is as before it. -/
theorem ProtoAfter.terminate (h : ProtoAfter e f c Q) (hterm : f.isTermReq) {st : SessState}
    (hend : st = .IPCPCLOSE ∨ st = .LCPPRECLOSE ∨ st = .LCPCLOSE) {c₂ : Ctx}
    (hv : c₂.view = c.view) (hf : Fit c₂.sess) :
    (c₂.sess.state = .ONLINE → wp (sessOffline e) (fun _ => Q (TERMACK, [])) c₂) ∧
      (¬ c₂.sess.state = .ONLINE →
        (c₂.sess.state ≠ .OFFLINEPRE ∧ c₂.sess.state ≠ .OFFLINEPOST →
          wp (update fun s => { s with state := st }) (fun _ => Q (TERMACK, [])) c₂) ∧
        (¬ (c₂.sess.state ≠ .OFFLINEPRE ∧ c₂.sess.state ≠ .OFFLINEPOST) → Q (TERMACK, []) c₂)) := by
  have hst : c₂.sess.state = c.sess.state := congrArg (fun v : View => v.life.state) hv
  refine ⟨fun hon => ?_, fun hoff => ⟨fun hne => ?_, fun _ => ?_⟩⟩
  · refine sessOffline_wp hf ?_ ?_ <;> rw [hv]
    · intro v ha c₃ hv₃ hf₃
      exact h _ _ c₃ (hv₃ ▸ .offline hterm (hst ▸ hon) ha) hf₃
    · intro r v _ ha c₃ hv₃ hf₃
      exact h _ _ c₃ (hv₃ ▸ .stuck hterm (hst ▸ hon) ha) hf₃
  · refine goto_wp hf fun c₃ hv₃ hf₃ => h _ _ c₃ ?_ hf₃
    rw [hv₃, hv]
    have hp : c.sess.state.plain := by
      rw [hst] at hoff hne
      simp [SessState.plain, hoff, hne]
    exact .close (by simp [Frame.mayEnd, hterm, hp]) (by decide) (by decide) (.inl rfl) .refl hend
  · exact h _ _ c₂ (hv ▸ .keep fun h1 => absurd h1 (by decide)) hf

theorem lcpProcessTermReq_wp (h : ProtoAfter e f c Q) (hf : Fit c.sess) (hterm : f.isTermReq) :
    wp (lcpProcessTermReq e) Q c := by
  simp only [lcpProcessTermReq, wp_bind, wp_get, wp_ite, wp_pure]
  refine termcause_wp hf fun c₁ hv₁ hf₁ => unregister_wp hf₁ (by decide) fun _ c₂ hv₂ hf₂ => ?_
  exact h.terminate hterm (.inr (.inr rfl)) (hv₂.trans hv₁) hf₂

theorem SessState.lcp_of_num {st : SessState} (h₁ : ¬ (st.num < SessState.INIT.num))
    (h₂ : ¬ (st.num > SessState.LCPPOSTOPEN.num)) : st.lcp := by
  revert h₁ h₂
  cases st <;> decide

theorem Frame.trim_eq {q : Pbuf} (h : f.pbuf.trim f.ctl.length = some q) :
    f.ctl.length ≤ f.pbuf.len ∧ q.pull 4 = f.body := by
  rw [Pbuf.trim] at h
  split at h
  · cases h
  · cases h
    exact ⟨by omega, rfl⟩

theorem Frame.is_intro {proto code : Nat} (h6 : 6 ≤ f.bytes.length)
    (hl : f.ctl.length ≤ f.pbuf.len) (hp : f.proto = proto) (hc : f.ctl.code = code) :
    f.is proto code := by
  simp [Frame.is, Frame.whole, h6, hl, hp, hc]

theorem lcpProcess_wp (h : ProtoAfter e f c Q) (hf : Fit c.sess) (hr : c.sess.state.rests)
    (h6 : 6 ≤ f.bytes.length) (hp : f.proto = PPP_LCP) : wp (lcpProcess e f.pbuf) Q c := by
  have hno : ∀ {r : Int} {d : Bytes}, r ≠ CONFREQ → wp (pure (r, d)) Q c := fun hr => h.reply hf hr
  rw [lcpProcess, wp_bind, wp_get]
  dsimp only
  refine wp_ite.mpr ⟨fun _ => hno (by decide), fun hnum => ?_⟩
  cases ht : f.pbuf.trim (ctlOf f.pbuf.data).length with
  | none => exact hno (by decide)
  | some q =>
    obtain ⟨hl, hq⟩ := Frame.trim_eq ht
    dsimp only
    rw [hq]
    refine wp_ite.mpr ⟨fun _ => hno (by decide), fun _ => ?_⟩
    refine wp_ite.mpr ⟨fun hreq => ?_, fun _ => ?_⟩
    · refine wp_ite.mpr ⟨fun _ => hno (by decide), fun hst => ?_⟩
      exact lcpProcessConfReq_wp h hf (SessState.lcp_of_num (fun h => hnum (.inl h)) hst)
        (Frame.is_intro h6 hl hp hreq)
    refine wp_ite.mpr ⟨fun _ => ?_, fun _ => ?_⟩
    · refine wp_ite.mpr ⟨fun _ => hno (by decide), fun hst => ?_⟩
      refine wp_ite.mpr ⟨fun _ => hno (by decide), fun hid => ?_⟩
      refine wp_ite.mpr ⟨fun hack => ?_, fun _ => wp_ite.mpr ⟨fun _ => ?_, fun _ => hno (by decide)⟩⟩
      · exact lcpProcessConfAck_wp h hf (not_not.mp hst) (Frame.is_intro h6 hl hp hack) (not_not.mp hid)
      · exact lcpProcessConfNak_wp h hf (not_not.mp hst)
    refine wp_ite.mpr ⟨fun hterm => ?_, fun _ => ?_⟩
    · have hreq : f.isTermReq := by simp [Frame.isTermReq, Frame.is_intro h6 hl hp hterm]
      exact lcpProcessTermReq_wp h hf hreq
    refine wp_ite.mpr ⟨fun _ => ?_, fun _ => ?_⟩
    · refine wp_ite.mpr ⟨fun _ => hno (by decide), fun hst => ?_⟩
      rw [not_not.mp hst] at hr
      exact absurd hr (by decide)
    refine wp_ite.mpr ⟨fun _ => ?_, fun _ => ?_⟩
    · refine wp_ite.mpr ⟨fun _ => hno (by decide), fun _ => ?_⟩
      exact wp_ite.mpr ⟨fun _ => hno (by decide), fun _ => hno (by decide)⟩
    refine wp_ite.mpr ⟨fun _ => ?_, fun _ => hno (by decide)⟩
    simp only [lcpProcessEchoRep, wp_bind, wp_get, wp_ite, wp_pure, update_wp]
    refine ⟨fun _ => h.reply hf (by decide), fun _ => ⟨fun _ => h.reply hf (by decide), fun _ => ?_⟩⟩
    exact h _ _ _ (.keep fun h1 => absurd h1 (by decide)) (hf.keep rfl rfl)

/-! ## CHAP -/

theorem chapProcess_wp (h : ProtoAfter e f c Q) (hf : Fit c.sess) (h6 : 6 ≤ f.bytes.length)
    (hp : f.proto = PPP_CHAP) : wp (chapProcess f.pbuf) Q c := by
  have hno : ∀ {r : Int} {d : Bytes}, r ≠ CONFREQ → wp (pure (r, d)) Q c := fun hr => h.reply hf hr
  rw [chapProcess, wp_bind, wp_get]
  split
  · exact hno (by decide)
  rename_i hst
  simp only [ne_eq, not_not] at hst
  split
  · exact hno (by decide)
  rename_i q ht
  obtain ⟨hl, hq⟩ := Frame.trim_eq ht
  rw [hq]
  split
  · rename_i hcode
    simp only [chapResponseProcess, wp_bind, wp_ite, wp_pure, update_wp]
    refine ⟨fun _ => h.reply hf (by decide), fun hsize => ⟨fun _ => h.reply hf (by decide),
      fun hname => ?_⟩⟩
    refine timerPause_wp (hf.keep rfl rfl) fun _ c₁ hv₁ hf₁ => ?_
    refine h _ _ _ ?_ (hf₁.keep rfl rfl)
    have hv : Ctx.view { c₁ with sess :=
        { c₁.sess with state := .AUTH, marks := c₁.sess.marks ++ [.response f.ctl.ident] } } =
        ((c.view.onTimer .TIMEOUT Timer.pause).goto .AUTH).mark [.response f.ctl.ident] := by
      rw [← show c₁.view = c.view.onTimer .TIMEOUT Timer.pause from hv₁]
      rfl
    have hresp : f.isResponse :=
      decide_eq_true ⟨Frame.is_intro h6 hl hp hcode, hsize, hname⟩
    exact hv ▸ .response hst hresp
  · exact hno (by decide)

/-! ## IPCP -/

/-- The address has been applied for, as often as there was none. -/
def Addressed (e : Env) (c c' : Ctx) : Prop := Applies e c.view c'.view ∧ Fit c'.sess

theorem ipcpApply_addressed {c₀ : Ctx} (h : Addressed e c₀ c) : Addressed e c₀ (ipcpApply e c).2 := by
  obtain ⟨ha, hf⟩ := h
  rw [ipcpApply]
  split
  · rename_i hip
    have hrun : sessionOptPerform .IPAPPLY (sessoptIpapply e) c = sessoptIpapply e c := by
      simp [sessionOptPerform, hf.ops .IPAPPLY (by decide)]
    rw [hrun]
    have hfit : Fit (sessoptIpapply e c).2.sess := hf.keep rfl rfl
    refine ⟨?_, hfit⟩
    rcases hr : ipaddrApply c.pool e.self c.sess.ipaddr with ⟨r, y⟩
    have hv : (sessoptIpapply e c).2.view = c.view.address y := by
      simp [sessoptIpapply, hr, Ctx.view, View.address]
    rw [hv]
    by_cases hs : r = PPPOEERR_SUCCESS
    · exact ha.step ⟨hip, hs ▸ hr⟩
    · have hy : y = (c.pool, c.sess.ipaddr) := by
        simp only [ipaddrApply] at hr
        split_ifs at hr <;> cases hr
        · rfl
        · exact absurd rfl hs
        · rfl
        · exact absurd rfl hs
      rw [hy]
      exact ha
  · exact ⟨ha, hf⟩

theorem ipcpAddrOption_addressed {c₀ : Ctx} {neg : Bool} {code : Nat} {want : IpaddrStruct → Nat}
    {cur : Bytes} {n : Nat} {a : IpcpReqAcc} (h : Addressed e c₀ a.ctx) :
    (∀ a', ipcpAddrOption e neg code want cur n a = .inl a' → Addressed e c₀ a'.ctx) ∧
      (∀ a', ipcpAddrOption e neg code want cur n a = .inr a' → Addressed e c₀ a'.1.ctx) := by
  have happ : Addressed e c₀ (ipcpApply e a.ctx).2 := ipcpApply_addressed h
  constructor <;> intro a' hb <;> simp only [ipcpAddrOption, ipcpAddr] at hb <;>
    split_ifs at hb <;> cases hb
  · exact h
  · exact happ
  · exact happ
  · exact happ
  · exact happ

theorem ipcpReqOption_addressed {c₀ : Ctx} {cur : Bytes} {n : Nat} {a : IpcpReqAcc}
    (h : Addressed e c₀ a.ctx) :
    (∀ a', ipcpReqOption e cur n a = .inl a' → Addressed e c₀ a'.ctx) ∧
      (∀ a', ipcpReqOption e cur n a = .inr a' → Addressed e c₀ a'.1.ctx) := by
  simp only [ipcpReqOption]
  split
  · exact ipcpAddrOption_addressed h
  split
  · exact ipcpAddrOption_addressed h
  split
  · exact ipcpAddrOption_addressed h
  · constructor <;> intro a' hb <;> cases hb
    exact h

theorem ipcpProcessConfReq_wp (h : ProtoAfter e f c Q) (hf : Fit c.sess)
    (hst : c.sess.state = .IPCPPOSTOPEN) : wp (ipcpProcessConfReq e f.body) Q c := by
  have hwalk : (∀ a, ciWalk (fun a => (a, IpcpStop.coderej)) (ipcpReqOption e) f.body { ctx := c } =
        .inl a → Addressed e c a.ctx) ∧
      (∀ a, ciWalk (fun a => (a, IpcpStop.coderej)) (ipcpReqOption e) f.body { ctx := c } =
        .inr a → Addressed e c a.1.ctx) :=
    ciWalk_rule (I := fun a : IpcpReqAcc => Addressed e c a.ctx)
      (R := fun a : IpcpReqAcc × IpcpStop => Addressed e c a.1.ctx)
      (fun _ h => h) (fun _ _ _ ha => ipcpReqOption_addressed ha) ⟨.refl, hf⟩
  rw [ipcpProcessConfReq, wp_bind, wp_get]
  split
  · rename_i a hw
    obtain ⟨ha, hfa⟩ := hwalk.2 _ hw
    exact h _ _ _ (.address hst ha) hfa
  · rename_i a hw
    obtain ⟨ha, hfa⟩ := hwalk.2 _ hw
    simp only [wp_bind, wp_set, wp_pure]
    refine goto_wp hfa fun c' hv hf' => h _ _ c' ?_ hf'
    exact hv ▸ .close (by simp [Frame.mayEnd, hst]) (by decide) (by decide) (.inr hst) ha
      (.inr (.inl rfl))
  · rename_i a hw
    obtain ⟨ha, hfa⟩ := hwalk.1 _ hw
    simp only [wp_bind, wp_set, wp_ite, wp_pure]
    refine ⟨fun _ => h _ _ _ (.address hst ha) hfa, fun _ => ⟨fun _ =>
      h _ _ _ (.address hst ha) hfa, fun _ => ?_⟩⟩
    refine confOpen_wp hfa (fun _ c' hv' _ hf' => ?_) (fun c' hv' hf' => ?_)
    · exact h _ _ c' (hv' ▸ .ipcpopen hst (by decide) (by decide) ha) hf'
    · exact h _ _ c' (.address hst (hv' ▸ ha)) hf'

theorem ipcpProcessConfAck_wp (h : ProtoAfter e f c Q) (hf : Fit c.sess)
    (hst : c.sess.state = .IPCPPOSTOPEN) : wp (ipcpProcessConfAck f.body) Q c := by
  rw [ipcpProcessConfAck, wp_bind, wp_get]
  split
  · exact h.reply hf (by decide)
  · simp only [wp_bind, wp_pure]
    refine confOpen_wp hf (fun _ c' hv' _ hf' => ?_) (fun c' hv' hf' => ?_)
    · exact h _ _ c' (hv' ▸ .ipcpopen hst (by decide) (by decide) .refl) hf'
    · exact h _ _ c' (hv' ▸ .keep fun h1 => absurd h1 (by decide)) hf'

theorem ipcpProcessConfNak_wp (h : ProtoAfter e f c Q) (hf : Fit c.sess)
    (hst : c.sess.state = .IPCPPOSTOPEN) : wp (ipcpProcessConfNak f.body) Q c := by
  rw [ipcpProcessConfNak, wp_bind, wp_get]
  split
  · simp only [wp_bind, wp_pure]
    refine goto_wp hf fun c' hv hf' => h _ _ c' ?_ hf'
    exact hv ▸ .close (by simp [Frame.mayEnd, hst]) (by decide) (by decide) (.inl rfl) .refl
      (.inl rfl)
  · exact h.reply hf (by decide)

theorem ipcpProcessTermReq_wp (h : ProtoAfter e f c Q) (hf : Fit c.sess) (hterm : f.isTermReq) :
    wp (ipcpProcessTermReq e) Q c := by
  simp only [ipcpProcessTermReq, wp_bind, wp_get, wp_ite, wp_pure]
  exact termcause_wp hf fun c₂ hv hf₂ => h.terminate hterm (.inl rfl) hv hf₂

theorem ipcpProcess_wp (h : ProtoAfter e f c Q) (hf : Fit c.sess) (hr : c.sess.state.rests)
    (h6 : 6 ≤ f.bytes.length) (hp : f.proto = PPP_IPCP) : wp (ipcpProcess e f.pbuf) Q c := by
  have hno : ∀ {r : Int} {d : Bytes}, r ≠ CONFREQ → wp (pure (r, d)) Q c := fun hr => h.reply hf hr
  rw [ipcpProcess, wp_bind, wp_get]
  dsimp only
  split
  · exact hno (by decide)
  split
  · exact hno (by decide)
  rename_i q ht
  obtain ⟨hl, hq⟩ := Frame.trim_eq ht
  rw [hq]
  split
  · exact hno (by decide)
  split
  · split
    · exact hno (by decide)
    · rename_i hst
      exact ipcpProcessConfReq_wp h hf (not_not.mp hst)
  split
  · split
    · exact hno (by decide)
    rename_i hst
    simp only [ne_eq, not_not] at hst
    split
    · exact hno (by decide)
    split
    · exact ipcpProcessConfAck_wp h hf hst
    split
    · exact ipcpProcessConfNak_wp h hf hst
    · rw [ipcpProcessConfRej, wp_bind, wp_get]
      split
      · exact hno (by decide)
      · exact h.keep hf fun _ => by rw [hst]; decide
  split
  · rename_i hterm
    have : f.isTermReq := by simp [Frame.isTermReq, Frame.is_intro h6 hl hp hterm]
    exact ipcpProcessTermReq_wp h hf this
  split
  · split
    · exact hno (by decide)
    · rename_i hst
      simp only [ne_eq, not_not] at hst
      rw [hst] at hr
      exact absurd hr (by decide)
  · exact hno (by decide)

/-! ## CCP -/

theorem ccpProcess_wp (h : ProtoAfter e f c Q) (hf : Fit c.sess) (h6 : 6 ≤ f.bytes.length)
    (hp : f.proto = PPP_CCP) : wp (ccpProcess f.pbuf) Q c := by
  have hno : ∀ {r : Int} {d : Bytes}, r ≠ CONFREQ → wp (pure (r, d)) Q c := fun hr => h.reply hf hr
  rw [ccpProcess, wp_bind, wp_get]
  dsimp only
  split
  · exact hno (by decide)
  split
  · exact hno (by decide)
  rename_i q ht
  obtain ⟨hl, hq⟩ := Frame.trim_eq ht
  split
  · exact hno (by decide)
  split
  · exact hno (by decide)
  split
  · exact hno (by decide)
  split
  · rename_i hcode
    have hend : f.mayEnd c.sess.state := by
      rcases hcode with hc | hc <;> simp [Frame.mayEnd, Frame.is_intro h6 hl hp hc]
    simp only [wp_bind, wp_pure]
    refine goto_wp hf fun c' hv hf' => h _ _ c' ?_ hf'
    exact hv ▸ .close hend (by decide) (by decide) (.inl rfl) .refl (.inr (.inl rfl))
  split
  · exact hno (by decide)
  · exact hno (by decide)

/-! ## Dispatch -/

theorem pppProtoProcess_wp (h : ProtoAfter e f c Q) (hf : Fit c.sess) (hr : c.sess.state.rests)
    (h6 : 6 ≤ f.bytes.length) : wp (pppProtoProcess e f) Q c := by
  rw [pppProtoProcess]
  split
  · exact lcpProcess_wp h hf hr h6 ‹_›
  split
  · exact chapProcess_wp h hf h6 ‹_›
  split
  · exact ipcpProcess_wp h hf hr h6 ‹_›
  split
  · exact ccpProcess_wp h hf h6 ‹_›
  · exact h.reply hf (by decide)

end

end Pppoe
end DaemonGroup
