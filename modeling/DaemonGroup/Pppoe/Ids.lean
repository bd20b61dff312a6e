import DaemonGroup.Pppoe.Move

/-!
# DaemonGroup.Pppoe.Ids

What a transition of a session does to the table of RADIUS identifiers: `IdMove` has six cases, and
`Move.ids_move` says there is no other. The session asks for an identifier, releases the one it
names, uses it again, forgets it, or releases one that a reply named.
-/

namespace DaemonGroup
namespace Pppoe

open Lib

/-! ## Identifiers within the sockets -/

/-- Identifiers that are in use or listed belong to sockets that exist. -/
structure Radius.Bounded (r : Radius) : Prop where
  used : ∀ p, (r.id p).status = .USED → p.sock < r.socks
  free : ∀ p ∈ r.free_list, p.sock < r.socks

/-- What `radius_get_free_id` gives: an identifier of a socket; what is in use elsewhere stays. -/
structure Gives (r : Radius) (p : RadPtr) (r' : Radius) : Prop where
  sock : p.sock < r'.socks
  socks : r.socks ≤ r'.socks
  other : ∀ q, q ≠ p → (r.id q).status = .USED ∨ (r'.id q).status = .USED → r'.id q = r.id q
  free : ∀ q ∈ r'.free_list, q = p ∨ q ∈ r.free_list

section
variable {e : Env} {r r' : Radius} {p : RadPtr} {a : Addr} {k : ReqKind} {pack : RadiusPacket}

theorem radiusPickId_gives (hb : r.Bounded) (h : radiusPickId e r = some (p, r')) : Gives r p r' := by
  rw [radiusPickId] at h
  split at h
  · rename_i q hq
    cases h
    rw [radiusFreeHead] at hq
    have hmem : p ∈ r.free_list := by
      cases hl : r.free_list with
      | nil => rw [hl] at hq; cases hq
      | cons x l =>
        rw [hl] at hq
        dsimp only at hq
        split at hq
        · cases hq
          exact List.mem_cons_self
        · cases hq
    exact ⟨hb.free p hmem, Nat.le_refl _, fun _ _ _ => rfl,
      fun q hq => .inr (List.mem_of_mem_tail hq)⟩
  · split at h
    · rename_i hsock
      cases h
      exact ⟨Nat.sub_one_lt hsock.1, Nat.le_refl _, fun _ _ _ => rfl, fun q hq => .inr hq⟩
    split at h
    · cases h
    · cases h
      refine ⟨Nat.lt_succ_self _, Nat.le_succ _, fun q _ hu => ?_, fun q hq => .inr hq⟩
      simp only [radiusSockCreate]
      rw [if_neg]
      rintro hsock
      rcases hu with hu | hu
      · have := hb.used q hu
        omega
      · simp [radiusSockCreate, hsock] at hu

theorem radiusGetFreeId_gives (hb : r.Bounded) (h : radiusGetFreeId e r = some (p, r')) :
    Gives r p r' := by
  rw [radiusGetFreeId] at h
  cases hq : radiusPickId e r with
  | none => rw [hq] at h; cases h
  | some q =>
    rw [hq] at h
    obtain ⟨q₁, q₂⟩ := q
    cases h
    have hg := radiusPickId_gives hb hq
    refine ⟨hg.sock, hg.socks, fun x hx hu => ?_, fun x hx => ?_⟩
    · simp only [Radius.setId_other hx] at hu ⊢
      exact hg.other x hx hu
    · rcases List.mem_append.mp hx with hx | hx
      · exact hg.free x hx
      · exact .inl (List.mem_singleton.mp hx)

@[simp] theorem assign_same : (r.assign p a k pack).id p =
    { r.id p with status := .USED, sess := some a, req_pack := pack, kind := k } := by
  simp [Radius.assign]

@[simp] theorem assign_other {q : RadPtr} (h : q ≠ p) : (r.assign p a k pack).id q = r.id q := by
  simp [Radius.assign, h]

@[simp] theorem free_same : (r.free p).id p = { r.id p with status := .FREE, sess := none } := by
  simp [Radius.free]

@[simp] theorem free_other {q : RadPtr} (h : q ≠ p) : (r.free p).id q = r.id q := by
  simp [Radius.free, h]

/-- An identifier that is in use after a release was in use before, and is not the one released. -/
theorem free_used {q : RadPtr} (h : ((r.free p).id q).status = .USED) :
    q ≠ p ∧ (r.id q).status = .USED := by
  by_cases hq : q = p
  · subst hq
    rw [free_same] at h
    cases h
  · rw [free_other hq] at h
    exact ⟨hq, h⟩

theorem Gives.assigned (hb : r.Bounded) (h : Gives r p r') : (r'.assign p a k pack).Bounded := by
  have hsock : (r'.assign p a k pack).socks = r'.socks := rfl
  constructor
  · intro q hq
    by_cases hqp : q = p
    · rw [hqp]
      exact h.sock
    · rw [assign_other hqp] at hq
      have hlt : q.sock < r.socks := hb.used q (h.other q hqp (.inr hq) ▸ hq)
      exact Nat.lt_of_lt_of_le hlt h.socks
  · intro q hq
    rcases h.free q hq with rfl | hq
    · exact h.sock
    · exact Nat.lt_of_lt_of_le (hb.free q hq) h.socks

theorem Radius.Bounded.freed (hb : r.Bounded) : (r.free p).Bounded :=
  ⟨fun q hq => hb.used q (free_used hq).2, hb.free⟩

theorem Radius.Bounded.stop (hb : r.Bounded) : r.stop.Bounded :=
  ⟨hb.used, fun _ h => by cases h⟩

/-- Nothing is in use after a start. -/
theorem start_used (hb : r.Bounded) : (r.start.id p).status ≠ .USED := by
  intro h
  simp only [Radius.start] at h
  split at h
  · cases h
  · rename_i hn
    exact hn (hb.used p h)

theorem Radius.Bounded.start (hb : r.Bounded) : r.start.Bounded :=
  ⟨fun _ h => absurd h (start_used hb), fun _ h => by cases h⟩

end

/-! ## Requests -/

/-- The trigger makes the session send a request. -/
def Trigger.asks (t : Trigger) (s : Session) : Bool :=
  match t with
  | .frame f => s.state = .AUTHPRE ∧ f.isResponse ∨ s.state = .ONLINE ∧ f.isTermReq
  | .authorize ip err => err = 0 ∧ s.ipaddr.ip = ip
  | .timer .UPDATE => true
  | .clear => s.state = .ONLINE
  | t => s.state = .ONLINE ∧ t.stops s

/-- The identifier that the next request gets. -/
def Env.nextId (e : Env) (r : Radius) : Option RadPtr := (radiusGetFreeId e r).map Prod.fst

/-- A request can be sent and will be repeated. -/
def Env.sends (e : Env) (r : Radius) (l : Life) : Bool :=
  (e.nextId r).isSome ∧ ¬ e.fail .radiusSend ∧ (l.retrans = .none → ¬ e.fail (.timer .RETRANS))

/-- The session ends with its request, which was sent or refused. -/
def Trigger.endsWith (t : Trigger) (s : Session) (sent : Bool) : Bool :=
  match t with
  | .clear => true
  | .timer .UPDATE => false
  | .frame _ => s.state = .AUTHPRE ∧ ¬ sent
  | _ => ¬ sent

/-- The session takes an identifier for a request and ends with it. -/
def Trigger.abandons (t : Trigger) (e : Env) (r : Radius) (s : Session) : Bool :=
  t.asks s ∧ (e.nextId r).isSome ∧ t.endsWith s (e.sends r s.toLife)

/-! ## What a transition does -/

inductive IdMove (t : Trigger) (e : Env) (c : Ctx) : Radius → Option RadPtr → Prop
  | same : IdMove t e c c.rad c.sess.priv_data
  | asked {p : RadPtr} {r : Radius} {k : ReqKind} {pack : RadiusPacket} (ht : t.asks c.sess)
      (hp : radiusGetFreeId e c.rad = some (p, r)) :
      IdMove t e c (r.assign p e.self k pack) (some p)
  | released {p : RadPtr} (hp : c.sess.priv_data = some p) : IdMove t e c (c.rad.free p) none
  | again {p : RadPtr} {k : ReqKind} {pack : RadiusPacket} (hp : c.sess.priv_data = some p)
      (ho : c.view.owns e.self) : IdMove t e c (c.rad.assign p e.self k pack) (some p)
  | lost (ho : ¬ c.view.owns e.self) : IdMove t e c c.rad none
  | misfit {p : RadPtr} {d : Datagram} (ht : t = .reply p d)
      (hm : ReplyMisfit (packOf d.bytes).code c.sess.state) :
      IdMove t e c (c.rad.free p) c.sess.priv_data

/-- What a session that ends leaves behind. -/
inductive IdEnd (t : Trigger) (e : Env) (c : Ctx) : Radius → Option RadPtr → Prop
  | plain (ht : t.mayEnd c.sess) : IdEnd t e c c.rad c.sess.priv_data
  | released {p : RadPtr} : IdEnd t e c (c.rad.free p) none
  | noId (ht : t.asks c.sess) (hid : e.nextId c.rad = none) : IdEnd t e c c.rad c.sess.priv_data
  | taken {r : Radius} {x : Option RadPtr} (h : t.abandons e c.rad c.sess) : IdEnd t e c r x

section
variable {t : Trigger} {e : Env} {c : Ctx} {k : ReqKind} {v v' : View}

theorem Asked.ids (h : Asked e k v v') (ht : t.asks c.sess) (hr : v.rad = c.rad) :
    IdMove t e c v'.rad v'.life.priv_data := by
  cases h with
  | mk hid => exact .asked ht (hr ▸ hid)

theorem AskFailed.ids (h : AskFailed e k v v') (ht : t.asks c.sess) (hr : v.rad = c.rad)
    (hp : v.life.priv_data = c.sess.priv_data) : IdMove t e c v'.rad v'.life.priv_data := by
  cases h with
  | noId =>
    rw [hr, hp]
    exact .same
  | notSent hid => exact .asked ht (hr ▸ hid)
  | noTimer hid => exact .asked ht (hr ▸ hid)

theorem AskedOnce.ids (h : AskedOnce e k v v') (ht : t.asks c.sess) (hr : v.rad = c.rad) :
    IdMove t e c v'.rad v'.life.priv_data := by
  cases h with
  | mk hid => exact .asked ht (hr ▸ hid)

theorem Trigger.asks_of_stops {s : Session} (ht : t.stops s) (hst : s.state = .ONLINE) :
    t.asks s := by
  cases t with
  | timer t => cases t <;> simp_all [Trigger.stops, Trigger.asks]
  | _ => simp_all [Trigger.stops, Trigger.asks]

theorem clean_ids (hv : c.view.clean.fault = false) :
    IdMove t e c c.view.clean.rad c.view.clean.life.priv_data := by
  cases hp : c.sess.priv_data with
  | none =>
    rw [clean_none hp] at hv
    cases hv
  | some p =>
    rw [clean_some hp]
    exact .released hp

theorem Move.ids_move (h : Move t e c v) (hv : v.fault = false) :
    IdMove t e c v.rad v.life.priv_data := by
  cases h with
  | idle | preopen | postopen | authpre | standby | sync | disconnect => exact .same
  | opened | exitOpened | online | exitStopped | settled => exact clean_ids hv
  | authpost ht hresp hst ha =>
    subst ht
    exact ha.ids (decide_eq_true (.inl ⟨hst, hresp⟩)) rfl
  | exitAuth ht hresp hst ha =>
    subst ht
    exact ha.ids (decide_eq_true (.inl ⟨hst, hresp⟩)) rfl rfl
  | onlinepost ht hip ha =>
    subst ht
    exact ha.ids (by simp [Trigger.asks, hip]) rfl
  | exitOnline ht hip ha =>
    subst ht
    exact ha.ids (by simp [Trigger.asks, hip]) rfl rfl
  | update ht ha =>
    subst ht
    rcases ha with ha | ha
    · exact ha.ids rfl rfl
    · exact ha.ids rfl rfl rfl
  | offlinepost ht hst ha => exact ha.ids (Trigger.asks_of_stops ht hst) rfl
  | stuck ht hterm hst ha =>
    subst ht
    exact ha.ids (decide_eq_true (.inr ⟨hst, hterm⟩)) rfl rfl
  | exitOffline ht _ hst ha => exact ha.ids (Trigger.asks_of_stops ht hst) rfl rfl
  | clear ht hst ha =>
    subst ht
    have hasks : Trigger.asks .clear c.sess := decide_eq_true hst
    rcases ha with ha | ha
    · exact ha.ids hasks rfl
    · exact ha.ids hasks rfl rfl
  | address _ ha | onlinepre _ ha | exit _ _ ha =>
    obtain ⟨y, -, rfl⟩ := ha
    exact .same
  | retransmit _ hp ho => exact .again hp ho
  | lost _ ho => exact .lost ho
  | misfit ht hm => exact .misfit ht hm
  | faulty h => rw [h] at hv; cases hv

theorem AskFailed.not_sends (h : AskFailed e k v v') : e.sends v.rad v.life = false := by
  cases h with
  | noId hid => simp [Env.sends, Env.nextId, hid]
  | notSent _ hsend => simp [Env.sends, hsend]
  | noTimer _ _ htimer hfail => simp [Env.sends, htimer, hfail]

/-- A request that was refused and ends the session. -/
theorem AskFailed.ids_end (h : AskFailed e k v v') (ht : t.asks c.sess) (hr : v.rad = c.rad)
    (hp : v.life.priv_data = c.sess.priv_data) (hret : v.life.retrans = c.sess.retrans)
    (hab : (e.nextId c.rad).isSome → e.sends c.rad c.sess.toLife = false →
      t.abandons e c.rad c.sess) : IdEnd t e c v'.rad v'.life.priv_data := by
  have hsend : e.sends c.rad c.sess.toLife = false := by
    rw [← h.not_sends]
    simp only [Env.sends, hr, hret]
  cases h with
  | noId hid =>
    rw [hr, hp]
    exact .noId ht (by simp [Env.nextId, ← hr, hid])
  | notSent hid => exact .taken (hab (by simp [Env.nextId, ← hr, hid]) hsend)
  | noTimer hid => exact .taken (hab (by simp [Env.nextId, ← hr, hid]) hsend)

theorem clean_end (hv : c.view.clean.fault = false) :
    IdEnd t e c c.view.clean.rad c.view.clean.life.priv_data := by
  cases hp : c.sess.priv_data with
  | none =>
    rw [clean_none hp] at hv
    cases hv
  | some p =>
    rw [clean_some hp]
    exact .released

theorem Move.ids_end (h : Move t e c v) (hv : v.fault = false) (hx : v.exited = true)
    (hc : c.exited = false) : IdEnd t e c v.rad v.life.priv_data := by
  have hstay : ∀ {v : View}, v.exited = true → v.exited = c.exited → False := by
    intro v hx heq
    rw [heq, hc] at hx
    cases hx
  cases h with
  | idle | preopen | postopen | authpre | standby | sync | retransmit | lost | misfit =>
    exact (hstay hx rfl).elim
  | opened | online | settled =>
    refine (hstay hx ?_).elim
    exact clean_exited c.view
  | authpost _ _ _ ha | onlinepost _ _ ha | offlinepost _ _ ha =>
    exact (hstay hx ha.frame.exited).elim
  | stuck _ _ _ ha => exact (hstay hx ha.frame.exited).elim
  | update _ ha => rcases ha with ha | ha <;> exact (hstay hx ha.frame.exited).elim
  | address _ ha | onlinepre _ ha =>
    obtain ⟨y, -, rfl⟩ := ha
    exact (hstay hx rfl).elim
  | exitAuth ht hresp hst ha =>
    subst ht
    have hasks : Trigger.asks (.frame _) c.sess := decide_eq_true (.inl ⟨hst, hresp⟩)
    refine ha.ids_end hasks rfl rfl rfl fun hsome hsend => ?_
    exact decide_eq_true ⟨hasks, hsome, by simp [Trigger.endsWith, hst, hsend]⟩
  | @exitOnline ip _ _ ht hip ha =>
    subst ht
    have hasks : Trigger.asks (.authorize ip 0) c.sess := by simp [Trigger.asks, hip]
    refine ha.ids_end hasks rfl rfl rfl fun hsome hsend => ?_
    exact decide_eq_true ⟨hasks, hsome, by simp [Trigger.endsWith, hsend]⟩
  | exitOffline ht hterm hst ha =>
    have hasks := Trigger.asks_of_stops ht hst
    refine ha.ids_end hasks rfl rfl rfl fun hsome hsend => ?_
    have hends : t.endsWith c.sess (e.sends c.rad c.sess.toLife) := by
      rw [hsend]
      cases t with
      | frame f => exact absurd rfl (hterm f)
      | timer t => cases t <;> simp_all [Trigger.stops, Trigger.endsWith]
      | _ => simp_all [Trigger.stops, Trigger.endsWith]
    exact decide_eq_true ⟨hasks, hsome, hends⟩
  | exitOpened | exitStopped => exact clean_end hv
  | exit ht _ ha =>
    obtain ⟨y, -, rfl⟩ := ha
    exact .plain ht
  | disconnect ht => exact .plain (by rw [ht]; rfl)
  | clear ht hst ha =>
    subst ht
    have hasks : Trigger.asks .clear c.sess := decide_eq_true hst
    rcases ha with ha | ha
    · cases ha with
      | mk hid =>
        have hsome : (e.nextId c.view.rad).isSome := by simp [Env.nextId, hid]
        exact .taken (decide_eq_true ⟨hasks, hsome, rfl⟩)
    · exact ha.ids_end hasks rfl rfl rfl fun hsome _ => decide_eq_true ⟨hasks, hsome, rfl⟩
  | faulty h => rw [h] at hv; cases hv

theorem IdMove.bounded {r : Radius} {x : Option RadPtr} (h : IdMove t e c r x)
    (hb : c.rad.Bounded) : r.Bounded := by
  cases h with
  | same | lost => exact hb
  | asked _ hp => exact (radiusGetFreeId_gives hb hp).assigned hb
  | released | misfit => exact hb.freed
  | again _ ho =>
    obtain ⟨q, hq, hu, -⟩ := ho
    rename_i p k pack hp
    have hqp : q = p := Option.some.inj (hq.symm.trans hp)
    subst hqp
    have hg : Gives c.rad q c.rad :=
      ⟨hb.used q hu, Nat.le_refl _, fun _ _ _ => rfl, fun _ h => .inr h⟩
    exact hg.assigned hb

end

end Pppoe
end DaemonGroup
