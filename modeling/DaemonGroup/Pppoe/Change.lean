import DaemonGroup.Pppoe.Ids

/-!
# DaemonGroup.Pppoe.Change

The instance changes by a few kinds of steps, listed in `Change`: a handler of a registered session
runs and the session moves on or is ended, a session is registered, a stray reply releases an
identifier, the identifier table is stopped or started, and changes that no invariant speaks of.

A `Guard` restricts what is let happen: `Change g` is a change that the guard `g` lets pass.
`Sound w` is what holds of every reachable instance without any guard, and `Change.sound` says that
every change keeps it.
-/

namespace DaemonGroup
namespace Pppoe

/-! ## Sound instances -/

structure Sound (w : World) : Prop where
  sid : ∀ i a, w.tables.sess_sid i = some a → a ∈ w.tables.sess_list ∧ (w.mem a).sid = i
  mac : ∀ h a, a ∈ w.tables.sess_mac h →
    a ∈ w.tables.sess_list ∧ sessionMacHash (w.mem a).mac = h
  nodup : w.tables.sess_list.Nodup
  macNodup : ∀ h, (w.tables.sess_mac h).Nodup
  cache : ∀ a ∈ w.tables.sess_list, a ∈ w.tables.cache
  dead : ∀ a ∈ w.tables.sess_dead, a ∉ w.tables.sess_list ∧ a ∈ w.tables.cache
  deadNodup : w.tables.sess_dead.Nodup
  fit : ∀ a ∈ w.tables.sess_list, Fit (w.mem a)
  rests : ∀ a ∈ w.tables.sess_list, (w.mem a).state.rests
  gone : ∀ a, a ∉ w.tables.sess_list → (w.mem a).state = .NONE ∨ (w.mem a).state = .DEAD
  bounded : w.rad.Bounded

theorem Sound.init (cfg : Config) (pool : Ippool) (status : BackupStatus) :
    Sound (World.init cfg pool status) where
  sid := by intro i a h; cases h
  mac := by intro h a ha; cases ha
  nodup := List.nodup_nil
  macNodup := fun _ => List.nodup_nil
  cache := by intro a ha; cases ha
  dead := by intro a ha; cases ha
  deadNodup := List.nodup_nil
  fit := by intro a ha; cases ha
  rests := by intro a ha; cases ha
  gone := fun _ _ => .inl rfl
  bounded := ⟨(by intro p h; cases h), (by intro p h; cases h)⟩

/-! ## Freeing records -/

/-- Everything but the pool, the records and who holds them. -/
def World.bare (w : World) : World :=
  { w with
    pool := {}
    mem := fun _ => {}
    tables := { w.tables with cache := [], sess_dead := [] } }

section
variable {w : World} {a b : Addr}

theorem deadFreeAt_bare : (w.deadFreeAt a).bare = w.bare := by
  rw [World.deadFreeAt]
  split <;> rfl

theorem deadFold_bare (l : List Addr) : (l.foldl World.deadFreeAt w).bare = w.bare := by
  induction l generalizing w with
  | nil => rfl
  | cons a l ih => exact (ih (w := w.deadFreeAt a)).trans deadFreeAt_bare

theorem sessFree_bare : (w.sessFree a).bare = w.bare := by
  rw [World.sessFree, World.sessDeadFree, deadFold_bare]
  split <;> rfl

theorem sessFreeAt_mem_self :
    ∃ ip, (w.sessFreeAt a).mem a = { w.mem a with ipaddr := ip } :=
  ⟨_, Mem.set_same⟩

theorem sessFreeAt_mem_other (h : b ≠ a) : (w.sessFreeAt a).mem b = w.mem b := Mem.set_other h

theorem deadFreeAt_mem_other (h : b ≠ a) : (w.deadFreeAt a).mem b = w.mem b := by
  rw [World.deadFreeAt]
  split
  · exact sessFreeAt_mem_other h
  · rfl

theorem deadFreeAt_mem (b : Addr) : ∃ ip, (w.deadFreeAt a).mem b = { w.mem b with ipaddr := ip } := by
  by_cases h : b = a
  · subst h
    rw [World.deadFreeAt]
    split
    · exact sessFreeAt_mem_self
    · exact ⟨(w.mem b).ipaddr, rfl⟩
  · exact ⟨(w.mem b).ipaddr, deadFreeAt_mem_other h⟩

theorem deadFold_mem (l : List Addr) (b : Addr) :
    ∃ ip, (l.foldl World.deadFreeAt w).mem b = { w.mem b with ipaddr := ip } := by
  induction l generalizing w with
  | nil => exact ⟨(w.mem b).ipaddr, rfl⟩
  | cons a l ih =>
    obtain ⟨ip₁, h₁⟩ := deadFreeAt_mem (w := w) (a := a) b
    obtain ⟨ip₂, h₂⟩ := ih (w := w.deadFreeAt a)
    exact ⟨ip₂, by rw [List.foldl_cons, h₂, h₁]⟩

theorem deadFold_mem_other {l : List Addr} (h : b ∉ l) :
    (l.foldl World.deadFreeAt w).mem b = w.mem b := by
  induction l generalizing w with
  | nil => rfl
  | cons a l ih =>
    rw [List.mem_cons, not_or] at h
    rw [List.foldl_cons, ih h.2, deadFreeAt_mem_other h.1]

/-- Freeing takes from the list of dead records and gives back to the cache what it takes. -/
structure FreesDead (w w' : World) : Prop where
  dead : ∀ a ∈ w'.tables.sess_dead, a ∈ w.tables.sess_dead
  nodup : w.tables.sess_dead.Nodup → w'.tables.sess_dead.Nodup
  cache : w.tables.sess_dead.Nodup → ∀ a ∈ w.tables.cache,
    a ∈ w'.tables.cache ∨ a ∈ w.tables.sess_dead ∧ a ∉ w'.tables.sess_dead

theorem FreesDead.refl : FreesDead w w := ⟨fun _ h => h, id, fun _ _ h => .inl h⟩

theorem FreesDead.trans {w w' w'' : World} (h₁ : FreesDead w w') (h₂ : FreesDead w' w'') :
    FreesDead w w'' where
  dead := fun a h => h₁.dead a (h₂.dead a h)
  nodup := fun h => h₂.nodup (h₁.nodup h)
  cache := by
    intro hn a ha
    rcases h₁.cache hn a ha with h | ⟨h, h'⟩
    · rcases h₂.cache (h₁.nodup hn) a h with h | ⟨h, h'⟩
      · exact .inl h
      · exact .inr ⟨h₁.dead a h, h'⟩
    · exact .inr ⟨h, fun h'' => h' (h₂.dead a h'')⟩

theorem deadFreeAt_frees (ha : a ∈ w.tables.sess_dead) : FreesDead w (w.deadFreeAt a) := by
  rw [World.deadFreeAt]
  split
  · refine ⟨fun b hb => List.mem_of_mem_erase hb, fun hn => hn.erase a, fun hn b hb => ?_⟩
    by_cases h : b = a
    · subst h
      exact .inr ⟨ha, hn.not_mem_erase⟩
    · exact .inl ((List.mem_erase_of_ne h).mpr hb)
  · exact .refl

theorem deadFreeAt_keeps (hb : b ∈ w.tables.sess_dead) (h : b ≠ a) :
    b ∈ (w.deadFreeAt a).tables.sess_dead := by
  rw [World.deadFreeAt]
  split
  · exact (List.mem_erase_of_ne h).mpr hb
  · exact hb

theorem deadFold_frees {l : List Addr} (hl : l.Nodup) (hd : ∀ a ∈ l, a ∈ w.tables.sess_dead) :
    FreesDead w (l.foldl World.deadFreeAt w) := by
  induction l generalizing w with
  | nil => exact .refl
  | cons a l ih =>
    rw [List.nodup_cons] at hl
    refine (deadFreeAt_frees (hd a List.mem_cons_self)).trans (ih hl.2 fun b hb => ?_)
    refine deadFreeAt_keeps (hd b (List.mem_cons_of_mem _ hb)) ?_
    rintro rfl
    exact hl.1 hb

/-! ## Taking a session out of the tables -/

theorem sessExit_bare : (w.sessExit a).bare = (w.unregister a).bare := sessFree_bare

/-- What is read off everything but the records is read off right after the unregistration. -/
theorem sessExit_read {α : Type} (f : World → α) :
    f (w.sessExit a).bare = f (w.unregister a).bare := by
  rw [sessExit_bare]

theorem sessExit_list : (w.sessExit a).tables.sess_list = w.tables.sess_list.erase a :=
  sessExit_read fun w => w.tables.sess_list

theorem sessExit_rad : (w.sessExit a).rad = w.rad := sessExit_read World.rad

theorem sessExit_queue : (w.sessExit a).queue = w.queue := sessExit_read World.queue

theorem sessExit_ended : (w.sessExit a).ended = w.ended ++ [(w.mem a).marks] :=
  sessExit_read World.ended

theorem sessExit_sess_sid : (w.sessExit a).tables.sess_sid =
    (w.tables.unregister a (w.mem a).sid (w.mem a).mac).sess_sid :=
  sessExit_read fun w => w.tables.sess_sid

theorem sessExit_sess_mac : (w.sessExit a).tables.sess_mac =
    (w.tables.unregister a (w.mem a).sid (w.mem a).mac).sess_mac :=
  sessExit_read fun w => w.tables.sess_mac

/-- The list of dead records when `sess_free` comes to free them. -/
def World.sessFreeDead (w : World) (a : Addr) : World :=
  if (w.mem a).refcnt ≠ 0 then
    { w with tables := { w.tables with sess_dead := a :: w.tables.sess_dead } }
  else w.sessFreeAt a

theorem sessFree_eq : w.sessFree a = (w.sessFreeDead a).sessDeadFree := rfl

theorem sessFreeDead_mem_other (h : b ≠ a) : (w.sessFreeDead a).mem b = w.mem b := by
  rw [World.sessFreeDead]
  split
  · rfl
  · exact sessFreeAt_mem_other h

theorem sessFreeDead_mem (b : Addr) :
    ∃ ip, (w.sessFreeDead a).mem b = { w.mem b with ipaddr := ip } := by
  by_cases h : b = a
  · subst h
    rw [World.sessFreeDead]
    split
    · exact ⟨(w.mem b).ipaddr, rfl⟩
    · exact sessFreeAt_mem_self
  · exact ⟨(w.mem b).ipaddr, sessFreeDead_mem_other h⟩

/-- Whatever is freed on the way, a record keeps all but its address. -/
theorem sessExit_mem (b : Addr) :
    ∃ ip, (w.sessExit a).mem b = { (w.unregister a).mem b with ipaddr := ip } := by
  obtain ⟨ip₁, h₁⟩ := sessFreeDead_mem (w := w.unregister a) (a := a) b
  obtain ⟨ip₂, h₂⟩ := deadFold_mem (w := (w.unregister a).sessFreeDead a)
    ((w.unregister a).sessFreeDead a).tables.sess_dead b
  exact ⟨ip₂, by rw [World.sessExit, sessFree_eq, World.sessDeadFree, h₂, h₁]⟩

theorem sessFreeDead_dead (h : b ≠ a) :
    b ∈ (w.sessFreeDead a).tables.sess_dead ↔ b ∈ w.tables.sess_dead := by
  rw [World.sessFreeDead]
  split
  · simp [h]
  · exact Iff.rfl

/-- A session that stays registered keeps its record. -/
theorem sessExit_mem_other (hb : b ≠ a) (hd : b ∉ w.tables.sess_dead) :
    (w.sessExit a).mem b = w.mem b := by
  have hn : b ∉ ((w.unregister a).sessFreeDead a).tables.sess_dead := by
    rw [sessFreeDead_dead hb]
    exact hd
  rw [World.sessExit, sessFree_eq, World.sessDeadFree, deadFold_mem_other hn,
    sessFreeDead_mem_other hb]
  exact Mem.set_other hb

theorem sessFreeDead_nodup (ha : a ∉ w.tables.sess_dead) (h : w.tables.sess_dead.Nodup) :
    (w.sessFreeDead a).tables.sess_dead.Nodup := by
  rw [World.sessFreeDead]
  split
  · exact List.nodup_cons.mpr ⟨ha, h⟩
  · exact h

theorem sessFreeDead_cache (h : b ≠ a) (hb : b ∈ w.tables.cache) :
    b ∈ (w.sessFreeDead a).tables.cache := by
  rw [World.sessFreeDead]
  split
  · exact hb
  · exact (List.mem_erase_of_ne h).mpr hb

theorem sessFreeDead_self (hb : a ∈ w.tables.cache)
    (hd : a ∈ (w.sessFreeDead a).tables.sess_dead) (ha : a ∉ w.tables.sess_dead) :
    a ∈ (w.sessFreeDead a).tables.cache := by
  rw [World.sessFreeDead] at hd ⊢
  split at hd
  · rw [if_pos ‹_›]
    exact hb
  · exact absurd hd ha

theorem Sound.sessExit (h : Sound w) (ha : a ∈ w.tables.sess_list) : Sound (w.sessExit a) := by
  have hself : a ∉ w.tables.sess_dead := fun hd => (h.dead a hd).1 ha
  have hmem : ∀ b, b ∈ w.tables.sess_list.erase a → b ≠ a ∧ b ∈ w.tables.sess_list :=
    fun b hb => h.nodup.mem_erase_iff.mp hb
  have hkeep : ∀ b, b ∈ w.tables.sess_list.erase a → (w.sessExit a).mem b = w.mem b :=
    fun b hb => sessExit_mem_other (hmem b hb).1 fun hd => (h.dead b hd).1 (hmem b hb).2
  have hfree : FreesDead ((w.unregister a).sessFreeDead a) (w.sessExit a) :=
    deadFold_frees (sessFreeDead_nodup hself h.deadNodup) fun _ hb => hb
  have hnodup : ((w.unregister a).sessFreeDead a).tables.sess_dead.Nodup :=
    sessFreeDead_nodup hself h.deadNodup
  have hcache : ∀ b, b ∈ ((w.unregister a).sessFreeDead a).tables.cache →
      b ∉ ((w.unregister a).sessFreeDead a).tables.sess_dead ∨ b ∈ (w.sessExit a).tables.sess_dead →
      b ∈ (w.sessExit a).tables.cache := by
    intro b hb hd
    rcases hfree.cache hnodup b hb with hc | ⟨h₁, h₂⟩
    · exact hc
    · exact hd.elim (absurd h₁) (fun h => absurd h h₂)
  constructor
  · intro i b hi
    rw [sessExit_sess_sid] at hi
    rw [sessExit_list]
    simp only [Tables.unregister] at hi
    split at hi
    · cases hi
    · rename_i hne
      obtain ⟨hb, hsid⟩ := h.sid i b hi
      have hba : b ≠ a := by rintro rfl; exact hne hsid.symm
      have hbl := (List.mem_erase_of_ne hba).mpr hb
      exact ⟨hbl, by rw [hkeep b hbl]; exact hsid⟩
  · intro k b hb
    rw [sessExit_sess_mac] at hb
    rw [sessExit_list]
    have hb' : b ≠ a ∧ b ∈ w.tables.sess_mac k := by
      simp only [Tables.unregister] at hb
      split at hb
      · exact (h.macNodup k).mem_erase_iff.mp hb
      · rename_i hne
        refine ⟨?_, hb⟩
        rintro rfl
        exact hne (h.mac k b hb).2.symm
    obtain ⟨hl, hk⟩ := h.mac k b hb'.2
    have hbl := (List.mem_erase_of_ne hb'.1).mpr hl
    exact ⟨hbl, by rw [hkeep b hbl]; exact hk⟩
  · rw [sessExit_list]
    exact h.nodup.erase a
  · intro k
    rw [sessExit_sess_mac]
    simp only [Tables.unregister]
    split
    · exact (h.macNodup k).erase a
    · exact h.macNodup k
  · intro b hb
    rw [sessExit_list] at hb
    obtain ⟨hne, hl⟩ := hmem b hb
    refine hcache b (sessFreeDead_cache hne (h.cache b hl)) (.inl ?_)
    rw [sessFreeDead_dead hne]
    exact fun hd => (h.dead b hd).1 hl
  · intro b hb
    have hb' := hfree.dead b hb
    rw [sessExit_list]
    by_cases hba : b = a
    · subst hba
      exact ⟨h.nodup.not_mem_erase,
        hcache b (sessFreeDead_self (h.cache b ha) hb' hself) (.inr hb)⟩
    · rw [sessFreeDead_dead hba] at hb'
      obtain ⟨hl, hc⟩ := h.dead b hb'
      exact ⟨fun hm => hl (List.mem_of_mem_erase hm),
        hcache b (sessFreeDead_cache hba hc) (.inr hb)⟩
  · exact hfree.nodup hnodup
  · intro b hb
    rw [sessExit_list] at hb
    rw [hkeep b hb]
    exact h.fit b (hmem b hb).2
  · intro b hb
    rw [sessExit_list] at hb
    rw [hkeep b hb]
    exact h.rests b (hmem b hb).2
  · intro b hb
    rw [sessExit_list] at hb
    obtain ⟨ip, hm⟩ := sessExit_mem (w := w) (a := a) b
    rw [hm]
    by_cases hba : b = a
    · subst hba
      exact .inr (congrArg (fun s : Session => s.state) (Mem.set_same (s := _)))
    · have : (w.unregister a).mem b = w.mem b := Mem.set_other hba
      rw [this]
      exact h.gone b fun hl => hb ((List.mem_erase_of_ne hba).mpr hl)
  · rw [sessExit_rad]
    exact h.bounded

end

/-! ## Changes -/

/-- What is let happen: which handlers may run, which records may be handed out, which sessions of
the peer may be registered, and when the identifier table may be started. -/
structure Guard where
  run : World → Oracle → Addr → Trigger → Prop := fun _ _ _ _ => True
  record : World → Addr → Prop := fun _ _ => True
  online : World → OnlineSync → Prop := fun _ _ => True
  start : World → Prop := fun _ => True

/-- Nothing that an invariant speaks of. -/
structure Misc (w w' : World) : Prop where
  cfg : w'.cfg = w.cfg
  tables : w'.tables = w.tables
  pool : w'.pool = w.pool
  rad : w'.rad = w.rad
  options : w'.options = w.options
  mem : w'.mem = w.mem
  ended : w'.ended = w.ended

/-- A session that is registered for the first time. -/
structure Newcomer (w : World) (a : Addr) (s : Session) : Prop where
  record : a ∉ w.tables.cache
  life : s.toLife = { sid := s.sid, mac := s.mac, ipaddr := s.ipaddr, timeout := .armed }
  fit : Fit s
  sid : s.sid ≠ 0
  slot : s.sid ≤ w.cfg.max_sid → w.tables.sess_sid s.sid = none
  mac : _sessionGetByMac w.tables w.mem s.mac = none

/-- Where a newcomer comes from: a client, or the peer. -/
inductive Origin (g : Guard) (w : World) (s : Session) : Prop
  | client (hsid : s.sid ≤ w.cfg.max_sid) (hip : s.ipaddr = {})
  | peer (m : OnlineSync) (hg : g.online w m) (hsid : s.sid = m.sid ∨ s.sid ≤ w.cfg.max_sid)
      (hmac : s.mac = m.mac) (hip : s.ipaddr = m.ipaddr)

/-- A record of the cache, filled but not registered. -/
def World.handOut (w : World) (a : Addr) (s : Session) (l : List Addr) : World :=
  { w with mem := w.mem.set a s, tables := { w.tables with cache := l } }

def World.enrol (w : World) (a : Addr) (s : Session) (out : List Packet) : World :=
  World.register
    { w with tables := { w.tables with cache := a :: w.tables.cache }, out := out } a s

/-- A reply is for the session that the identifier it names is in use for. -/
def World.Names (w : World) (a : Addr) : Trigger → Prop
  | .reply p _ => (w.rad.id p).status = .USED ∧ (w.rad.id p).sess = some a
  | _ => True

/-- The handler of a trigger has run on the session at `a` and left `c`. -/
structure Ran (g : Guard) (w : World) (a : Addr) (t : Trigger) (o : Oracle) (c : Ctx) : Prop where
  mem : a ∈ w.tables.sess_list
  guard : g.run w o a t
  named : w.Names a t
  move : Move t (w.env o a) (w.ctx a) c.view
  fit : Fit c.sess
  fault : c.fault = false

inductive Change (g : Guard) : World → World → Prop
  | misc {w w' : World} (h : Misc w w') : Change g w w'
  | touch {w : World} {a : Addr} {s : Session}
      (hl : s.toLife = { (w.mem a).toLife with refcnt := s.refcnt }) (hf : Fit (w.mem a) → Fit s) :
      Change g w { w with mem := w.mem.set a s }
  | record {w : World} {a : Addr} {s : Session} {l : List Addr} (ha : a ∉ w.tables.cache)
      (hs : s.state = .NONE) (hl : ∀ b ∈ w.tables.cache, b ∈ l) :
      Change g w (w.handOut a s l)
  | enrol {w : World} {a : Addr} {s : Session} {out : List Packet} (hn : Newcomer w a s)
      (ho : Origin g w s) (hg : g.record w a) : Change g w (w.enrol a s out)
  | move {w : World} {a : Addr} {t : Trigger} {o : Oracle} {c : Ctx} (hr : Ran g w a t o c)
      (hx : c.exited = false) : Change g w (w.store a c)
  | exit {w : World} {a : Addr} {t : Trigger} {o : Oracle} {c : Ctx} (hr : Ran g w a t o c)
      (hx : c.exited = true) : Change g w ((w.store a c).sessExit a)
  | stray {w : World} {p : RadPtr} {a : Addr} (ha : a ∉ w.tables.sess_list)
      (hu : (w.rad.id p).status = .USED) (hs : (w.rad.id p).sess = some a) :
      Change g w { w with rad := w.rad.free p }
  | stop {w : World} : Change g w { w with rad := w.rad.stop }
  | start {w : World} (hg : g.start w) : Change g w { w with rad := w.rad.start }

section
variable {g : Guard} {w w' : World} {a : Addr}

/-! ## Soundness is kept -/

theorem Sound.misc (h : Sound w) (hm : Misc w w') : Sound w' := by
  constructor <;> (first | rw [hm.tables, hm.mem] | rw [hm.tables] | rw [hm.rad])
  · exact h.sid
  · exact h.mac
  · exact h.nodup
  · exact h.macNodup
  · exact h.cache
  · exact h.dead
  · exact h.deadNodup
  · exact h.fit
  · exact h.rests
  · exact h.gone
  · exact h.bounded

/-- A record may change as long as the session stays who it is. -/
theorem Sound.set (h : Sound w) {s : Session} (hsid : s.sid = (w.mem a).sid)
    (hmac : s.mac = (w.mem a).mac) (hf : a ∈ w.tables.sess_list → Fit s)
    (hr : a ∈ w.tables.sess_list → s.state.rests)
    (hg : a ∉ w.tables.sess_list → s.state = .NONE ∨ s.state = .DEAD) :
    Sound { w with mem := w.mem.set a s } := by
  have hset : ∀ (P : Addr → Session → Prop) b, (b = a → P a s) → P b (w.mem b) →
      P b (w.mem.set a s b) := by
    intro P b h₁ h₂
    by_cases hb : b = a
    · subst hb
      rw [Mem.set_same]
      exact h₁ rfl
    · rw [Mem.set_other hb]
      exact h₂
  constructor
  · intro i b hi
    obtain ⟨hl, hs⟩ := h.sid i b hi
    refine ⟨hl, hset (fun _ s => s.sid = i) b (fun hb => ?_) hs⟩
    rw [hsid, ← hb]
    exact hs
  · intro k b hb
    obtain ⟨hl, hs⟩ := h.mac k b hb
    refine ⟨hl, hset (fun _ s => sessionMacHash s.mac = k) b (fun hb => ?_) hs⟩
    rw [hmac, ← hb]
    exact hs
  · exact h.nodup
  · exact h.macNodup
  · exact h.cache
  · exact h.dead
  · exact h.deadNodup
  · intro b hb
    exact hset (fun _ s => Fit s) b (fun hba => hf (hba ▸ hb)) (h.fit b hb)
  · intro b hb
    exact hset (fun _ s => s.state.rests) b (fun hba => hr (hba ▸ hb)) (h.rests b hb)
  · intro b hb
    exact hset (fun _ s => s.state = .NONE ∨ s.state = .DEAD) b (fun hba => hg (hba ▸ hb))
      (h.gone b hb)
  · exact h.bounded

/-- A record that no session uses may become anything that is no session. -/
theorem Sound.record (h : Sound w) {s : Session} {l : List Addr} (ha : a ∉ w.tables.cache)
    (hs : s.state = .NONE) (hl : ∀ b ∈ w.tables.cache, b ∈ l) : Sound (w.handOut a s l) := by
  have hother : ∀ b, b ∈ w.tables.sess_list → (w.handOut a s l).mem b = w.mem b := by
    intro b hb
    refine Mem.set_other ?_
    rintro rfl
    exact ha (h.cache b hb)
  constructor
  · intro i b hi
    obtain ⟨hb, hsid⟩ := h.sid i b hi
    exact ⟨hb, by rw [hother b hb]; exact hsid⟩
  · intro k b hb
    obtain ⟨hl, hk⟩ := h.mac k b hb
    exact ⟨hl, by rw [hother b hl]; exact hk⟩
  · exact h.nodup
  · exact h.macNodup
  · exact fun b hb => hl b (h.cache b hb)
  · exact fun b hb => ⟨(h.dead b hb).1, hl b (h.dead b hb).2⟩
  · exact h.deadNodup
  · intro b hb
    rw [hother b hb]
    exact h.fit b hb
  · intro b hb
    rw [hother b hb]
    exact h.rests b hb
  · intro b hb
    by_cases hba : b = a
    · subst hba
      exact .inl ((congrArg (fun s : Session => s.state) Mem.set_same).trans hs)
    · have : (w.handOut a s l).mem b = w.mem b := Mem.set_other hba
      rw [this]
      exact h.gone b hb
  · exact h.bounded

theorem Sound.enrol (h : Sound w) {s : Session} {out : List Packet} (hn : Newcomer w a s) :
    Sound (w.enrol a s out) := by
  have hlist : a ∉ w.tables.sess_list := fun ha => hn.record (h.cache a ha)
  have hself : (w.enrol a s out).mem a = { s with state := .INIT } := Mem.set_same
  have hother : ∀ b, b ∈ w.tables.sess_list → (w.enrol a s out).mem b = w.mem b := by
    intro b hb
    refine Mem.set_other ?_
    rintro rfl
    exact hlist hb
  have hcases : ∀ b, b ∈ w.tables.sess_list ++ [a] → b ∈ w.tables.sess_list ∨ b = a := by
    intro b hb
    simpa using hb
  constructor
  · intro i b hi
    simp only [World.enrol, World.register, Tables.register] at hi
    split at hi
    · rename_i his
      cases hi
      exact ⟨List.mem_append_right _ List.mem_cons_self, by rw [hself]; exact his.symm⟩
    · obtain ⟨hb, hsid⟩ := h.sid i b hi
      exact ⟨List.mem_append_left _ hb, by rw [hother b hb]; exact hsid⟩
  · intro k b hb
    simp only [World.enrol, World.register, Tables.register] at hb
    have : (b = a ∧ k = sessionMacHash s.mac) ∨ b ∈ w.tables.sess_mac k := by
      split at hb
      · rename_i hk
        rcases List.mem_cons.mp hb with hb | hb
        · exact .inl ⟨hb, hk⟩
        · exact .inr hb
      · exact .inr hb
    rcases this with ⟨rfl, hk⟩ | hb
    · exact ⟨List.mem_append_right _ List.mem_cons_self, by rw [hself]; exact hk.symm⟩
    · obtain ⟨hl, hk⟩ := h.mac k b hb
      exact ⟨List.mem_append_left _ hl, by rw [hother b hl]; exact hk⟩
  · refine List.nodup_append.mpr ⟨h.nodup, List.pairwise_singleton _ a, ?_⟩
    rintro b hb c hc rfl
    rw [List.mem_singleton] at hc
    exact hlist (hc ▸ hb)
  · intro k
    simp only [World.enrol, World.register, Tables.register]
    split
    · exact List.nodup_cons.mpr ⟨fun hb => hlist (h.mac k a hb).1, h.macNodup k⟩
    · exact h.macNodup k
  · intro b hb
    rcases hcases b hb with hb | rfl
    · exact List.mem_cons_of_mem _ (h.cache b hb)
    · exact List.mem_cons_self
  · intro b hb
    obtain ⟨h₁, h₂⟩ := h.dead b hb
    refine ⟨fun hl => ?_, List.mem_cons_of_mem _ h₂⟩
    rcases hcases b hl with hl | rfl
    · exact h₁ hl
    · exact hn.record h₂
  · exact h.deadNodup
  · intro b hb
    rcases hcases b hb with hb | rfl
    · rw [hother b hb]
      exact h.fit b hb
    · rw [hself]
      exact hn.fit.keep rfl rfl
  · intro b hb
    rcases hcases b hb with hb | rfl
    · rw [hother b hb]
      exact h.rests b hb
    · rw [hself]
      rfl
  · intro b hb
    have hb' : b ∉ w.tables.sess_list ∧ b ≠ a := by
      constructor
      · exact fun hl => hb (List.mem_append_left _ hl)
      · rintro rfl
        exact hb (List.mem_append_right _ List.mem_cons_self)
    have : (w.enrol a s out).mem b = w.mem b := Mem.set_other hb'.2
    rw [this]
    exact h.gone b hb'.1
  · exact h.bounded

theorem Ran.bounded {t : Trigger} {o : Oracle} {c : Ctx} (h : Sound w) (hr : Ran g w a t o c) :
    c.rad.Bounded :=
  (hr.move.ids_move hr.fault).bounded h.bounded

theorem Ran.sound {t : Trigger} {o : Oracle} {c : Ctx} (h : Sound w) (hr : Ran g w a t o c)
    (hx : c.exited = false) : Sound (w.store a c) := by
  obtain ⟨hsid, hmac⟩ := hr.move.ids hr.fault
  have hs : Sound { w with mem := w.mem.set a c.sess } :=
    h.set hsid hmac (fun _ => hr.fit) (fun _ => hr.move.rests (h.rests a hr.mem) hr.fault hx)
      (fun hn => absurd hr.mem hn)
  exact ⟨hs.sid, hs.mac, hs.nodup, hs.macNodup, hs.cache, hs.dead, hs.deadNodup, hs.fit, hs.rests,
    hs.gone, hr.bounded h⟩

/-- A session that is ended is taken out whatever state it was left in. -/
theorem exit_dead {c : Ctx} : (w.store a c).sessExit a =
    (w.store a { c with sess := { c.sess with state := .DEAD } }).sessExit a := by
  have heq : (w.store a c).unregister a =
      (w.store a { c with sess := { c.sess with state := .DEAD } }).unregister a := by
    simp [World.unregister, World.store, Session.timerClear]
  rw [World.sessExit, heq]
  rfl

theorem Ran.sound_dead {t : Trigger} {o : Oracle} {c : Ctx} (h : Sound w) (hr : Ran g w a t o c) :
    Sound (w.store a { c with sess := { c.sess with state := .DEAD } }) := by
  obtain ⟨hsid, hmac⟩ := hr.move.ids hr.fault
  have hs : Sound { w with mem := w.mem.set a { c.sess with state := .DEAD } } :=
    h.set hsid hmac (fun _ => hr.fit.keep rfl rfl) (fun _ => rfl) (fun hn => absurd hr.mem hn)
  exact ⟨hs.sid, hs.mac, hs.nodup, hs.macNodup, hs.cache, hs.dead, hs.deadNodup, hs.fit, hs.rests,
    hs.gone, hr.bounded h⟩

theorem Ran.sound_exit {t : Trigger} {o : Oracle} {c : Ctx} (h : Sound w) (hr : Ran g w a t o c) :
    Sound ((w.store a c).sessExit a) := by
  rw [exit_dead]
  exact (hr.sound_dead h).sessExit hr.mem

theorem Sound.withRad (h : Sound w) {r : Radius} (hr : r.Bounded) : Sound { w with rad := r } :=
  ⟨h.sid, h.mac, h.nodup, h.macNodup, h.cache, h.dead, h.deadNodup, h.fit, h.rests, h.gone, hr⟩

theorem Change.sound (h : Sound w) (hc : Change g w w') : Sound w' := by
  cases hc with
  | misc hm => exact h.misc hm
  | @touch a s hl hf =>
    have hst : s.state = (w.mem a).state := by rw [hl]
    refine h.set (by rw [hl]) (by rw [hl]) (fun ha => hf (h.fit a ha)) (fun ha => ?_) (fun ha => ?_)
    · rw [hst]
      exact h.rests a ha
    · rw [hst]
      exact h.gone a ha
  | record ha hs hl => exact h.record ha hs hl
  | enrol hn => exact h.enrol hn
  | move hr hx => exact hr.sound h hx
  | exit hr => exact hr.sound_exit h
  | stray => exact h.withRad h.bounded.freed
  | stop => exact h.withRad h.bounded.stop
  | start => exact h.withRad h.bounded.start

end

end Pppoe
end DaemonGroup
