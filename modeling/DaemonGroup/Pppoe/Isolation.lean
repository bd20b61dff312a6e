import DaemonGroup.Pppoe.Change
import DaemonGroup.Pppoe.Terms
import Mathlib.Order.MinMax

/-!
# DaemonGroup.Pppoe.Isolation

The sessions of an instance negotiate by one `struct session_options`, to which `session_alloc`
gives each of them a pointer, and `processConfReq` of LCP notes an MRU there as soon as it has read
it. `lcpProcessConfReq_options` says what a Configure-Request leaves in it, whatever its answer: the
least of the MRUs it offers and the one that was there.

So the terms of the other sessions stay what they were exactly if no Configure-Request offers less.
-/

namespace DaemonGroup
namespace Pppoe

open Lib

/-! ## Offers -/

/-- An option of a Configure-Request, read for its MRU only. The packet is read up to an option
that is malformed or unknown, or to a magic number of zero. -/
def offerOption (o : SessionOptions) (cur : Bytes) (cilen : Nat) (l : List Nat) :
    List Nat ⊕ List Nat :=
  if getChar cur 0 ≥ lcpCinames then
    .inr l
  else if getChar cur 0 = CI_MRU ∧ cilen = CILEN_SHORT then
    .inl (getShort cur 2 :: l)
  else if getChar cur 0 = CI_MAGICNUMBER ∧ o.neg_magicnumber ∧ cilen = CILEN_LONG ∧
      getLong cur 2 = 0 then
    .inr l
  else
    .inl l

/-- The MRUs that a Configure-Request offers. -/
def mruOffers (o : SessionOptions) (p : Pbuf) : List Nat :=
  (ciWalk id (offerOption o) p []).elim id id

/-- The options with the least MRU among theirs and those offered. -/
def SessionOptions.lower (o : SessionOptions) (l : List Nat) : SessionOptions :=
  if o.neg_mru then { o with mru := l.foldr min o.mru } else o

theorem lower_nil (o : SessionOptions) : o.lower [] = o := by
  simp [SessionOptions.lower]

theorem lower_neg_mru (o : SessionOptions) (l : List Nat) : (o.lower l).neg_mru = o.neg_mru := by
  rw [SessionOptions.lower]
  split <;> rfl

theorem lower_neg_magicnumber (o : SessionOptions) (l : List Nat) :
    (o.lower l).neg_magicnumber = o.neg_magicnumber := by
  rw [SessionOptions.lower]
  split <;> rfl

theorem foldr_min_le (l : List Nat) (n : Nat) : l.foldr min n ≤ n := by
  induction l with
  | nil => exact le_rfl
  | cons v l ih => exact (min_le_right v _).trans ih

theorem foldr_min_eq {l : List Nat} {n : Nat} : l.foldr min n = n ↔ ∀ v ∈ l, n ≤ v := by
  induction l with
  | nil => simp
  | cons v l ih =>
    have hle := foldr_min_le l n
    rw [List.forall_mem_cons, ← ih, List.foldr_cons]
    omega

theorem lower_mru_le (o : SessionOptions) (l : List Nat) : (o.lower l).mru ≤ o.mru := by
  rw [SessionOptions.lower]
  split
  · exact foldr_min_le l o.mru
  · exact le_rfl

theorem lower_mru_eq {o : SessionOptions} {l : List Nat} :
    (o.lower l).mru = o.mru ↔ (o.neg_mru → ∀ v ∈ l, o.mru ≤ v) := by
  rw [SessionOptions.lower]
  split
  · rename_i h
    simp [h, foldr_min_eq]
  · rename_i h
    simp [h]

/-- The options are those that were there exactly if their MRU is. -/
theorem lower_eq {o : SessionOptions} {l : List Nat} : o.lower l = o ↔ (o.lower l).mru = o.mru := by
  constructor
  · exact congrArg SessionOptions.mru
  · intro h
    rw [SessionOptions.lower] at h ⊢
    split
    · rename_i hn
      rw [if_pos hn] at h
      simp only at h
      rw [h]
    · rfl

/-- One more offer. -/
theorem lower_cons (o : SessionOptions) (v : Nat) (l : List Nat) :
    o.lower (v :: l) =
      if o.neg_mru ∧ v ≤ (o.lower l).mru then { o.lower l with mru := v } else o.lower l := by
  by_cases hn : o.neg_mru
  · simp only [SessionOptions.lower, hn, if_true, List.foldr_cons, true_and]
    split
    · rename_i h
      rw [min_eq_left h]
    · rename_i h
      rw [min_eq_right (by omega)]
  · simp [SessionOptions.lower, hn]

/-! ## One option -/

/-- The options hold what was offered so far. -/
def Noted (o : SessionOptions) (a : LcpReqAcc) (l : List Nat) : Prop := a.options = o.lower l

/-- One option of a Configure-Request leaves in the options what it offers. -/
theorem lcpReqOption_offer {s : Session} {o : SessionOptions} {cur : Bytes} {n : Nat} {a : LcpReqAcc}
    {l : List Nat} (h : Noted o a l) :
    Sum.LiftRel (Noted o) (Noted o) (lcpReqOption s cur n a) (offerOption o cur n l) := by
  rw [Noted] at h
  have hneg : a.options.neg_mru = o.neg_mru := by rw [h, lower_neg_mru]
  have hmagic : a.options.neg_magicnumber = o.neg_magicnumber := by rw [h, lower_neg_magicnumber]
  simp only [lcpReqOption, offerOption]
  by_cases hcode : getChar cur 0 ≥ lcpCinames
  · rw [if_pos hcode, if_pos hcode]
    exact .inr h
  rw [if_neg hcode, if_neg hcode]
  by_cases hmru : getChar cur 0 = CI_MRU
  · have hnot : getChar cur 0 ≠ CI_MAGICNUMBER := by
      rw [hmru]
      decide
    rw [if_pos hmru]
    by_cases hlen : n = CILEN_SHORT
    · rw [if_pos (And.intro hmru hlen)]
      split_ifs with h₁ h₂
      · refine .inl ?_
        have hn : ¬ o.neg_mru := by
          rw [← hneg]
          exact h₁.resolve_right (not_not_intro hlen)
        rw [Noted, lower_cons, if_neg fun hc => hn hc.1]
        exact h
      · refine .inl ?_
        rw [h] at h₂
        rw [Noted, lower_cons, if_neg fun hc => absurd hc.2 (by omega)]
        exact h
      · refine .inl ?_
        have hn : o.neg_mru := by
          rw [← hneg]
          exact not_not.mp fun hc => h₁ (.inl hc)
        rw [h] at h₂
        rw [Noted, lower_cons, if_pos ⟨hn, by omega⟩, ← h]
    · rw [if_pos (.inr hlen), if_neg fun hc => hlen hc.2, if_neg fun hc => hnot hc.1]
      exact .inl h
  simp only [hmru, if_false, false_and]
  by_cases hauth : getChar cur 0 = CI_AUTHTYPE
  · have hnot : getChar cur 0 ≠ CI_MAGICNUMBER := by
      rw [hauth]
      decide
    rw [if_pos hauth, if_neg fun hc => hnot hc.1]
    exact .inl ((lcpReqAuth_options s cur n a).trans h)
  rw [if_neg hauth]
  by_cases hnum : getChar cur 0 = CI_MAGICNUMBER
  · rw [if_pos hnum, hmagic]
    by_cases hrej : ¬ o.neg_magicnumber ∨ n ≠ CILEN_LONG
    · rw [if_pos hrej, if_neg fun hc => hrej.elim (· hc.2.1) (· hc.2.2.1)]
      exact .inl h
    · obtain ⟨hm, hl⟩ := not_or.mp hrej
      rw [if_neg hrej]
      by_cases hzero : getLong cur 2 = 0
      · rw [if_pos hzero, if_pos ⟨hnum, not_not.mp hm, not_not.mp hl, hzero⟩]
        exact .inr h
      · rw [if_neg hzero, if_neg fun hc => hzero hc.2.2.2]
        exact .inl h
  · rw [if_neg hnum, if_neg fun hc => hnum hc.1]
    exact .inl h

/-! ## A Configure-Request -/

theorem ciWalk_offer {s : Session} {o : SessionOptions} {p : Pbuf} :
    Sum.LiftRel (Noted o) (Noted o) (ciWalk id (lcpReqOption s) p { options := o })
      (ciWalk id (offerOption o) p []) := by
  have hstart : Noted o { options := o } [] := (lower_nil o).symm
  have hbody : ∀ cur n a l, Noted o a l →
      Sum.LiftRel (Noted o) (Noted o) (lcpReqOption s cur n a) (offerOption o cur n l) :=
    fun _ _ _ _ h => lcpReqOption_offer h
  rw [ciWalk, ciWalk]
  split
  · exact .inr hstart
  · have hbad : ∀ a l, Noted o a l → Noted o (id a) (id l) := fun _ _ h => h
    exact tlvWalk_sim hbad hbody hstart

/-- What a Configure-Request leaves in the options of the instance, whatever is answered. -/
theorem lcpConfReqAnswer_options (p : Pbuf) (c : Ctx) :
    (lcpConfReqAnswer p c).2.options = c.options.lower (mruOffers c.options p) := by
  have hwalk := ciWalk_offer (s := c.sess) (o := c.options) (p := p)
  rw [lcpConfReqAnswer, bind_run, get_run, mruOffers]
  cases hreq : ciWalk id (lcpReqOption c.sess) p { options := c.options } with
  | inr a =>
    cases hoff : ciWalk id (offerOption c.options) p [] with
    | inr l =>
      rw [hreq, hoff] at hwalk
      have ha := Sum.liftRel_inr_inr.mp hwalk
      exact ha
    | inl l =>
      rw [hreq, hoff] at hwalk
      cases hwalk
  | inl a =>
    cases hoff : ciWalk id (offerOption c.options) p [] with
    | inr l =>
      rw [hreq, hoff] at hwalk
      cases hwalk
    | inl l =>
      rw [hreq, hoff] at hwalk
      have ha := Sum.liftRel_inl_inl.mp hwalk
      simp only [bind_run, ite_run, modify_run, pure_run]
      split_ifs <;> exact ha

theorem lcpConfReqAnswer_fault (p : Pbuf) (c : Ctx) :
    (lcpConfReqAnswer p c).2.fault = c.fault := by
  rw [lcpConfReqAnswer, bind_run, get_run]
  cases ciWalk id (lcpReqOption c.sess) p { options := c.options } with
  | inr a => rfl
  | inl a =>
    simp only [bind_run, ite_run, modify_run, pure_run]
    split_ifs <;> rfl

/-- A Configure-Request that is not acknowledged leaves nothing in the session's record. -/
theorem lcpConfReqAnswer_refused (p : Pbuf) (c : Ctx)
    (h : (lcpConfReqAnswer p c).1.1 ≠ CONFACK) : (lcpConfReqAnswer p c).2.sess = c.sess := by
  rw [lcpConfReqAnswer, bind_run, get_run] at h ⊢
  cases hreq : ciWalk id (lcpReqOption c.sess) p { options := c.options } with
  | inr a => rfl
  | inl a =>
    rw [hreq] at h
    simp only [bind_run, ite_run, modify_run, pure_run] at h ⊢
    split_ifs at h ⊢
    · rfl
    · rfl
    · exact absurd rfl h

/-- The session with which a Configure-Request is gone through. -/
def Ctx.preopen (c : Ctx) : Ctx :=
  { c with sess := if c.sess.state = .INIT then { c.sess with state := .LCPPREOPEN } else c.sess }

theorem lcpProcessConfReq_eq (p : Pbuf) (c : Ctx) :
    lcpProcessConfReq p c = lcpConfReqAnswer p c.preopen := rfl

theorem preopen_terms (c : Ctx) (o : SessionOptions) :
    c.preopen.sess.terms o = c.sess.terms o := by
  rw [Ctx.preopen]
  dsimp only
  split <;> rfl

/-! ## A frame -/

def Frame.isConfReq (f : Frame) : Bool := f.proto = PPP_LCP ∧ f.ctl.code = CONFREQ

/-- A Configure-Request that is answered by a session in the state `st`. -/
def Frame.reqTaken (f : Frame) (st : SessState) : Bool := f.whole ∧ st.lcp

section
variable {e : Env} {f : Frame} {c : Ctx}

theorem controlProcess_agreed : (controlProcess e f c).2.agreed =
    if f.bytes.length < 6 then c.agreed else (pppProtoProcess e f c).2.agreed := by
  have hrest : ∀ r : Reply, Spares (do
      if r.1 < 0 then
        return ()
      if r.1 ≠ 0 then
        controlReply e f r.1.toNat r.2
      stateCheck e) := fun r =>
    .ite .pure (.ite (.bind spares_controlReply fun _ => spares_stateCheck) spares_stateCheck)
  rw [controlProcess]
  split
  · rfl
  · exact hrest _ _ _ rfl

theorem lcp_num {st : SessState} (h : st.lcp) :
    ¬ (st.num < SessState.INIT.num ∨ st.num ≥ SessState.LCPCLOSE.num) ∧
      ¬ st.num > SessState.LCPPOSTOPEN.num := by
  cases st <;> revert h <;> decide

theorem confReq_taken (hf : f.isConfReq) (ht : f.reqTaken c.sess.state) :
    pppProtoProcess e f c = lcpProcessConfReq f.body c := by
  obtain ⟨hproto, hcode⟩ := of_decide_eq_true hf
  obtain ⟨hwhole, hst⟩ := of_decide_eq_true ht
  obtain ⟨-, hlen⟩ := of_decide_eq_true hwhole
  obtain ⟨h₁, h₂⟩ := lcp_num hst
  have htrim : f.pbuf.trim (ctlOf f.pbuf.data).length =
      some { f.pbuf with len := f.ctl.length } :=
    if_neg (Nat.not_lt.mpr hlen)
  have hcode' : (ctlOf f.pbuf.data).code = CONFREQ := hcode
  have hknown : ¬ (CONFREQ = 0 ∨ CONFREQ > lcpCodenames) := by decide
  rw [pppProtoProcess, if_pos hproto, lcpProcess, bind_run, get_run]
  simp only [if_neg h₁, htrim, hcode', if_neg hknown, if_pos, if_neg h₂]
  rfl

theorem confReq_dropped (hf : f.isConfReq) (h6 : ¬ f.bytes.length < 6)
    (ht : ¬ f.reqTaken c.sess.state) : (pppProtoProcess e f c).2 = c := by
  obtain ⟨hproto, hcode⟩ := of_decide_eq_true hf
  have hcode' : (ctlOf f.pbuf.data).code = CONFREQ := hcode
  rw [pppProtoProcess, if_pos hproto, lcpProcess, bind_run, get_run]
  dsimp only
  split
  · rfl
  rename_i hnum
  cases hq : f.pbuf.trim (ctlOf f.pbuf.data).length with
  | none => rfl
  | some q =>
    obtain ⟨hlen, -⟩ := Frame.trim_eq hq
    dsimp only
    split
    · rfl
    split
    · rfl
    rename_i hst
    have hlcp : c.sess.state.lcp := SessState.lcp_of_num (fun h => hnum (.inl h)) hst
    exact absurd (decide_eq_true ⟨decide_eq_true ⟨Nat.not_lt.mp h6, hlen⟩, hlcp⟩) ht

theorem confReq_long (ht : f.reqTaken c.sess.state) : ¬ f.bytes.length < 6 :=
  Nat.not_lt.mpr (of_decide_eq_true (of_decide_eq_true ht).1).1

/-- A Configure-Request that is answered leaves what `lcpConfReqAnswer` does. -/
theorem confReq_agreed_taken (hf : f.isConfReq) (ht : f.reqTaken c.sess.state) :
    (controlProcess e f c).2.agreed = (lcpConfReqAnswer f.body c.preopen).2.agreed := by
  rw [controlProcess_agreed, if_neg (confReq_long ht), confReq_taken hf ht, lcpProcessConfReq_eq]

theorem confReq_agreed_dropped (hf : f.isConfReq) (ht : ¬ f.reqTaken c.sess.state) :
    (controlProcess e f c).2.agreed = c.agreed := by
  rw [controlProcess_agreed]
  split
  · rfl
  · rename_i h6
    rw [confReq_dropped hf h6 ht]

theorem agreed_options {x y : Ctx} (h : x.agreed = y.agreed) : x.options = y.options :=
  congrArg (fun t : Terms × Bool => t.1.options) h

theorem agreed_fault {x y : Ctx} (h : x.agreed = y.agreed) : x.fault = y.fault :=
  congrArg (fun t : Terms × Bool => t.2) h

theorem agreed_terms {x y : Ctx} (h : x.agreed = y.agreed) (o : SessionOptions) :
    x.sess.terms o = y.sess.terms o :=
  congrArg (fun t : Terms × Bool => { t.1 with options := o }) h

theorem confReq_options (hf : f.isConfReq) : (controlProcess e f c).2.options =
    if f.reqTaken c.sess.state then c.options.lower (mruOffers c.options f.body)
    else c.options := by
  split
  · rename_i ht
    rw [agreed_options (confReq_agreed_taken hf ht), lcpConfReqAnswer_options]
    rfl
  · rename_i ht
    exact agreed_options (confReq_agreed_dropped hf ht)

theorem confReq_fault (hf : f.isConfReq) : (controlProcess e f c).2.fault = c.fault := by
  by_cases ht : f.reqTaken c.sess.state
  · rw [agreed_fault (confReq_agreed_taken hf ht), lcpConfReqAnswer_fault]
    rfl
  · exact agreed_fault (confReq_agreed_dropped hf ht)

/-- A Configure-Request that is not acknowledged leaves the session's own terms alone. -/
theorem confReq_refused (hf : f.isConfReq) (h : (pppProtoProcess e f c).1.1 ≠ CONFACK)
    (o : SessionOptions) : (controlProcess e f c).2.sess.terms o = c.sess.terms o := by
  by_cases ht : f.reqTaken c.sess.state
  · rw [confReq_taken hf ht, lcpProcessConfReq_eq] at h
    rw [agreed_terms (confReq_agreed_taken hf ht), lcpConfReqAnswer_refused _ _ h, preopen_terms]
  · exact agreed_terms (confReq_agreed_dropped hf ht) o

end

/-! ## A session -/

/-- The terms of the session at `b`. -/
def World.terms (w : World) (b : Addr) : Terms := (w.mem b).terms w.options

/-- A Configure-Request that its session answers, and that offers less than the MRU of the
options. -/
def World.lowers (w : World) : Event → Bool
  | .frame sid mac f =>
    match w.bySid sid with
    | none => false
    | some a =>
      ¬ w.fault ∧ w.status.serving ∧ (w.mem a).mac = mac ∧ f.reqTaken (w.mem a).state ∧
        w.options.neg_mru ∧ ∃ v ∈ mruOffers w.options f.body, v < w.options.mru
  | _ => false

/-- A Configure-Request for the session id `sid`. -/
def Event.isConfReq (sid : Nat) : Event → Bool
  | .frame i _ f => i = sid ∧ f.isConfReq
  | _ => false

section
variable {w : World} {o : Oracle} {a b : Addr} {f : Frame} {t : Trigger}

theorem sessExit_terms (b : Addr) (s : SessionOptions) :
    ((w.sessExit a).mem b).terms s = (w.mem b).terms s := by
  obtain ⟨ip, h⟩ := sessExit_mem (w := w) (a := a) b
  rw [h]
  by_cases hb : b = a
  · subst hb
    simp [World.unregister, Session.terms, Session.timerClear]
  · simp [World.unregister, Session.terms, Mem.set_other hb]

theorem runOn_terms_other (hb : b ≠ a) (s : SessionOptions) :
    ((w.runOn o a t).mem b).terms s = (w.mem b).terms s := by
  have hstore : ∀ c : Ctx, (w.store a c).mem b = w.mem b := fun c => Mem.set_other hb
  rw [World.runOn]
  split
  · rfl
  split
  · rfl
  split
  · rw [sessExit_terms, hstore]
  · rw [hstore]

/-- The instance after a Configure-Request on the session at `a`. -/
theorem runOn_confReq (hw : w.fault = false) (hf : f.isConfReq) :
    w.runOn o a (.frame f) =
      let c := (controlProcess (w.env o a) f (w.ctx a)).2
      if c.exited then (w.store a c).sessExit a else w.store a c := by
  have hfault : (handle (w.env o a) (.frame f) (w.ctx a)).2.fault = false := confReq_fault hf
  rw [World.runOn]
  simp only [hw, hfault]
  rfl

theorem runOn_confReq_options (hw : w.fault = false) (hf : f.isConfReq) :
    (w.runOn o a (.frame f)).options =
      if f.reqTaken (w.mem a).state then w.options.lower (mruOffers w.options f.body)
      else w.options := by
  have hopt := confReq_options (e := w.env o a) (c := w.ctx a) hf
  rw [runOn_confReq hw hf]
  dsimp only
  split
  · exact (sessExit_read (w := w.store a _) World.options).trans hopt
  · exact hopt

theorem runOn_confReq_terms (hw : w.fault = false) (hf : f.isConfReq) (s : SessionOptions) :
    ((w.runOn o a (.frame f)).mem a).terms s =
      (controlProcess (w.env o a) f (w.ctx a)).2.sess.terms s := by
  rw [runOn_confReq hw hf]
  dsimp only
  have hstore : ∀ c : Ctx, (w.store a c).mem a = c.sess := fun _ => Mem.set_same
  split
  · rw [sessExit_terms, hstore]
  · rw [hstore]

theorem sessExit_bySid {sid : Nat} {x : Addr} (h : (w.sessExit a).bySid sid = some x) :
    w.bySid sid = some x := by
  have hread : (w.sessExit a).bySid sid = (w.unregister a).bySid sid :=
    sessExit_read fun w => w.bySid sid
  rw [hread] at h
  change (if sid > w.cfg.max_sid then none
    else if sid = (w.mem a).sid then none else w.tables.sess_sid sid) = some x at h
  rw [World.bySid, _sessionGetBySid]
  by_cases hmax : sid > w.cfg.max_sid
  · rw [if_pos hmax] at h
    cases h
  · rw [if_neg hmax] at h ⊢
    by_cases hself : sid = (w.mem a).sid
    · rw [if_pos hself] at h
      cases h
    · rwa [if_neg hself] at h

/-- No session gets an id while a handler runs. -/
theorem runOn_bySid {sid : Nat} {x : Addr} (h : (w.runOn o a t).bySid sid = some x) :
    w.bySid sid = some x := by
  rw [World.runOn] at h
  split at h
  · exact h
  split at h
  · exact h
  split at h
  · exact sessExit_bySid (w := w.store a _) h
  · exact h

/-! ## Steps -/

/-- One Configure-Request: the MRU does not grow, and the options are what they were exactly if it
was not lowered. -/
structure ReqStep (sid : Nat) (a : Addr) (w : World) (x : Event) (w' : World) : Prop where
  mru : w'.options.mru ≤ w.options.mru
  options : w'.options = w.options ↔ ¬ w.lowers x
  same : w'.options.mru = w.options.mru → w'.options = w.options
  other : ∀ b, b ≠ a → ∀ s, (w'.mem b).terms s = (w.mem b).terms s
  sid : ∀ b, w'.bySid sid = some b → b = a

theorem reqStep_idle {sid : Nat} {x : Event} (ha : ∀ b, w.bySid sid = some b → b = a)
    (h : ¬ w.lowers x) : ReqStep sid a w x w where
  mru := le_rfl
  options := iff_of_true rfl h
  same := fun _ => rfl
  other := fun _ _ _ => rfl
  sid := ha

theorem lowers_none {sid : Nat} {mac : Mac} (h : w.bySid sid = none) :
    ¬ w.lowers (.frame sid mac f) := by
  simp [World.lowers, h]

theorem lowers_some {sid : Nat} {mac : Mac} (h : w.bySid sid = some a) :
    w.lowers (.frame sid mac f) ↔ ¬ w.fault ∧ w.status.serving ∧ (w.mem a).mac = mac ∧
      f.reqTaken (w.mem a).state ∧ w.options.neg_mru ∧
        ∃ v ∈ mruOffers w.options f.body, v < w.options.mru := by
  simp only [World.lowers, h, decide_eq_true_eq]

/-- The Configure-Request reaches its session. -/
theorem runOn_reqStep {sid : Nat} {mac : Mac} (hsid : w.bySid sid = some a) (hw : w.fault = false)
    (hserve : w.status.serving) (hmac : (w.mem a).mac = mac) (hf : f.isConfReq) :
    ReqStep sid a w (.frame sid mac f) (w.runOn o a (.frame f)) := by
  have hopt := runOn_confReq_options (o := o) (a := a) hw hf
  have hsid' : ∀ b, (w.runOn o a (.frame f)).bySid sid = some b → b = a := fun b hb =>
    Option.some.inj ((runOn_bySid hb).symm.trans hsid)
  by_cases ht : f.reqTaken (w.mem a).state
  · rw [if_pos ht] at hopt
    refine ⟨?_, ?_, ?_, fun b hb s => runOn_terms_other hb s, hsid'⟩
    · rw [hopt]
      exact lower_mru_le _ _
    · rw [hopt, lower_eq, lower_mru_eq, lowers_some hsid]
      simp [hw, hserve, hmac, ht]
    · rw [hopt]
      exact lower_eq.mpr
  · rw [if_neg ht] at hopt
    refine ⟨hopt ▸ le_rfl, iff_of_true hopt ?_, fun _ => hopt, fun b hb s => runOn_terms_other hb s,
      hsid'⟩
    rw [lowers_some hsid]
    exact fun h => ht h.2.2.2.1

theorem reqStep {sid : Nat} {x : Event × Oracle} (ha : ∀ b, w.bySid sid = some b → b = a)
    (hx : x.1.isConfReq sid) : ReqStep sid a w x.1 (step w x) := by
  obtain ⟨ev, o⟩ := x
  cases ev with
  | frame i mac f =>
    obtain ⟨rfl, hf⟩ := of_decide_eq_true hx
    rw [step]
    cases hsid : w.bySid i with
    | none =>
      have hidle : (if w.fault ∨ ¬ w.takes (.frame i mac f) then w
          else w.dispatch (.frame i mac f, o)) = w := by
        simp [World.dispatch, World.runIf, hsid]
      rw [hidle]
      exact reqStep_idle ha (lowers_none hsid)
    | some b =>
      obtain rfl := ha b hsid
      split
      · rename_i hno
        refine reqStep_idle ha fun hl => ?_
        obtain ⟨hw, hserve, -⟩ := (lowers_some hsid).mp hl
        exact hno.elim hw (· hserve)
      · rename_i hyes
        obtain ⟨hw, hserve⟩ := not_or.mp hyes
        simp only [World.dispatch, hsid, World.runIf]
        by_cases hmac : (w.mem b).mac = mac
        · rw [if_pos (decide_eq_true hmac)]
          exact runOn_reqStep hsid (Bool.eq_false_iff.mpr hw) (not_not.mp hserve) hmac hf
        · rw [if_neg (by simpa using hmac)]
          refine reqStep_idle ha fun hl => ?_
          obtain ⟨-, -, hm, -⟩ := (lowers_some hsid).mp hl
          exact hmac hm
  | _ => cases hx

/-! ## Runs -/

/-- A run of Configure-Requests leaves the options alone exactly if none of them lowers the MRU. -/
theorem run_options {sid : Nat} {xs : List (Event × Oracle)}
    (ha : ∀ b, w.bySid sid = some b → b = a) (hx : ∀ x ∈ xs, x.1.isConfReq sid) :
    (runEvents w xs).options.mru ≤ w.options.mru ∧
      ((runEvents w xs).options = w.options ↔ Obeys step (fun w x => ¬ w.lowers x.1) w xs) ∧
      ∀ b, b ≠ a → ∀ s, ((runEvents w xs).mem b).terms s = (w.mem b).terms s := by
  induction xs generalizing w with
  | nil => exact ⟨le_rfl, iff_of_true rfl trivial, fun _ _ _ => rfl⟩
  | cons x xs ih =>
    have hs := reqStep ha (hx x List.mem_cons_self)
    obtain ⟨hle, hiff, hother⟩ := ih hs.sid fun y hy => hx y (List.mem_cons_of_mem x hy)
    refine ⟨hle.trans hs.mru, ⟨fun h => ?_, fun h => ?_⟩, fun b hb s => ?_⟩
    · -- the MRU has come back to where it started, so it never went below
      have hmru : (step w x).options.mru = w.options.mru :=
        le_antisymm hs.mru (congrArg SessionOptions.mru h ▸ hle)
      have hfirst := hs.same hmru
      exact ⟨hs.options.mp hfirst, hiff.mp (h.trans hfirst.symm)⟩
    · exact (hiff.mpr h.2).trans (hs.options.mpr h.1)
    · exact (hother b hb s).trans (hs.other b hb s)

/-- The code of the answer that the session at `a` gives to a frame. -/
def World.answer (w : World) (o : Oracle) (a : Addr) (f : Frame) : Int :=
  (pppProtoProcess (w.env o a) f (w.ctx a)).1.1

theorem terms_eq {w' : World} (h : ∀ s, (w'.mem b).terms s = (w.mem b).terms s) :
    w'.terms b = w.terms b ↔ w'.options = w.options := by
  rw [World.terms, World.terms, h]
  exact ⟨congrArg Terms.options, congrArg _⟩

/-- A Configure-Request that is not acknowledged leaves the record of its session alone. -/
theorem step_refused {sid : Nat} {mac : Mac} (ha : w.bySid sid = some a) (hf : f.isConfReq)
    (hans : w.answer o a f ≠ CONFACK) (s : SessionOptions) :
    ((step w (.frame sid mac f, o)).mem a).terms s = (w.mem a).terms s := by
  rw [step]
  split
  · rfl
  · rename_i hyes
    obtain ⟨hw, -⟩ := not_or.mp hyes
    simp only [World.dispatch, ha, World.runIf]
    split
    · rw [runOn_confReq_terms (Bool.eq_false_iff.mpr hw) hf]
      exact confReq_refused hf hans s
    · rfl

/-- Two sessions of an instance and a sequence of Configure-Requests on the one at `a`: the terms of
the other stay what they were exactly if none of the requests lowers the MRU. A Configure-Request
that is answered with a Nak or a Reject leaves the terms of its own session alone exactly if it does
not lower the MRU either. -/
theorem negotiation_isolated {sid : Nat} (ha : w.bySid sid = some a) :
    (∀ xs : List (Event × Oracle), (∀ x ∈ xs, x.1.isConfReq sid) → ∀ b, b ≠ a →
      ((runEvents w xs).terms b = w.terms b ↔ Obeys step (fun w x => ¬ w.lowers x.1) w xs)) ∧
    ∀ (mac : Mac) (f : Frame) (o : Oracle), f.isConfReq →
      w.answer o a f = CONFNAK ∨ w.answer o a f = CONFREJ →
      ((step w (.frame sid mac f, o)).terms a = w.terms a ↔ ¬ w.lowers (.frame sid mac f)) := by
  have honly : ∀ b, w.bySid sid = some b → b = a := fun b hb => Option.some.inj (hb.symm.trans ha)
  refine ⟨fun xs hx b hb => ?_, fun mac f o hf hans => ?_⟩
  · obtain ⟨-, hiff, hother⟩ := run_options honly hx
    exact (terms_eq (hother b hb)).trans hiff
  · have hnack : w.answer o a f ≠ CONFACK := by
      rcases hans with h | h <;> rw [h] <;> decide
    have hreq : Event.isConfReq sid (.frame sid mac f) := decide_eq_true ⟨rfl, hf⟩
    have hstep := reqStep (x := (.frame sid mac f, o)) honly hreq
    exact (terms_eq (step_refused ha hf hnack)).trans hstep.options

end

/-! ## Two clients -/

/-- Two clients have been given a session each. -/
def twoClients : World :=
  runEvents (World.init { max_sid := 4 } {} .NONE)
    [(.padr ⟨2, 0, 0, 0, 0, 1⟩ default true, { addr := 1 }),
      (.padr ⟨2, 0, 0, 0, 0, 2⟩ default true, { addr := 2 })]

/-- A Configure-Request of the first one for the MRU `lo`, with an option that is rejected. -/
def mruRequest (lo : Byte) : Frame :=
  { bytes := [0xc0, 0x21, 1, 1, 0, 10, 1, 4, 5, lo, 7, 2] }

/-- The MRU asked for is the one of the instance, 1492. -/
theorem negotiation_isolated_twoClients :
    twoClients.bySid 1 = some 1 ∧
      (runEvents twoClients [(.frame 1 ⟨2, 0, 0, 0, 0, 1⟩ (mruRequest 0xd4), {})]).terms 2 =
        twoClients.terms 2 ∧
      (step twoClients (.frame 1 ⟨2, 0, 0, 0, 0, 1⟩ (mruRequest 0xd4), {})).terms 1 =
        twoClients.terms 1 := by
  have ha : twoClients.bySid 1 = some 1 := by decide +kernel
  obtain ⟨hother, hown⟩ := negotiation_isolated ha
  refine ⟨ha, (hother _ ?_ 2 (by decide)).mpr ?_, (hown _ _ _ ?_ (.inr ?_)).mpr ?_⟩
  · decide +kernel
  · decide +kernel
  · decide +kernel
  · decide +kernel
  · decide +kernel

/-- An MRU of 1280: the request is rejected, and both sessions negotiate by 1280 from then on. -/
theorem negotiation_shared :
    twoClients.bySid 1 = some 1 ∧ twoClients.bySid 2 = some 2 ∧
      twoClients.answer {} 1 (mruRequest 0) = CONFREJ ∧
      (step twoClients (.frame 1 ⟨2, 0, 0, 0, 0, 1⟩ (mruRequest 0), {})).terms 1 ≠
        twoClients.terms 1 ∧
      (step twoClients (.frame 1 ⟨2, 0, 0, 0, 0, 1⟩ (mruRequest 0), {})).terms 2 ≠
        twoClients.terms 2 := by
  decide +kernel

end Pppoe
end DaemonGroup
