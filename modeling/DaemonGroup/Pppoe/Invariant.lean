import DaemonGroup.Pppoe.Steps

/-!
# DaemonGroup.Pppoe.Invariant

The rule by which every invariant of the instance is proved. Seen through the lives of the
registered sessions, the identifier table and the pool, a change is one of six: nothing, a session
enters, a session moves, a session leaves, a stray reply, a start of the identifier table.
`Change.rule` asks for the invariant after each, `runEvents_rule` gives it after every run.
-/

namespace DaemonGroup
namespace Pppoe

open Lib

/-! ## The pool and a record that is freed -/

/-- The slots of the record `b` are kept. -/
structure Ippool.Keeps (b : Addr) (p p' : Ippool) : Prop where
  startIP : p'.startIP = p.startIP
  totalNUM : p'.totalNUM = p.totalNUM
  slot : ∀ i, p.pool i = some b → p'.pool i = some b

theorem Ippool.Keeps.refl {b : Addr} {p : Ippool} : Ippool.Keeps b p p := ⟨rfl, rfl, fun _ h => h⟩

theorem Ippool.Keeps.trans {b : Addr} {p p' p'' : Ippool} (h₁ : Ippool.Keeps b p p')
    (h₂ : Ippool.Keeps b p' p'') : Ippool.Keeps b p p'' :=
  ⟨h₂.startIP.trans h₁.startIP, h₂.totalNUM.trans h₁.totalNUM,
    fun i h => h₂.slot i (h₁.slot i h)⟩

theorem ipaddrRecover_keeps {p : Ippool} {a b : Addr} {ip : IpaddrStruct} (h : b ≠ a) :
    Ippool.Keeps b p (ipaddrRecover p a ip).2.1 := by
  rw [ipaddrRecover]
  split
  · exact .refl
  dsimp only
  split
  · exact .refl
  · rename_i hne
    rw [not_or, not_not] at hne
    refine ⟨rfl, rfl, fun i hi => ?_⟩
    have : i ≠ (ipaddrToIndex p.startIP ip.ip).toNat := by
      rintro rfl
      rw [hne.2] at hi
      exact h (Option.some.inj hi).symm
    simpa [Ippool.setSlot, this] using hi

section
variable {w : World} {a b : Addr}

theorem deadFreeAt_pool (h : b ≠ a) : Ippool.Keeps b w.pool (w.deadFreeAt a).pool := by
  rw [World.deadFreeAt]
  split
  · exact ipaddrRecover_keeps h
  · exact .refl

theorem deadFold_pool {l : List Addr} (h : b ∉ l) :
    Ippool.Keeps b w.pool (l.foldl World.deadFreeAt w).pool := by
  induction l generalizing w with
  | nil => exact .refl
  | cons a l ih =>
    rw [List.mem_cons, not_or] at h
    exact (deadFreeAt_pool h.1).trans (ih h.2)

theorem sessFreeDead_pool (h : b ≠ a) : Ippool.Keeps b w.pool (w.sessFreeDead a).pool := by
  rw [World.sessFreeDead]
  split
  · exact .refl
  · exact ipaddrRecover_keeps h

theorem sessExit_pool (hb : b ≠ a) (hd : b ∉ w.tables.sess_dead) :
    Ippool.Keeps b w.pool (w.sessExit a).pool := by
  have hn : b ∉ ((w.unregister a).sessFreeDead a).tables.sess_dead := by
    rw [sessFreeDead_dead hb]
    exact hd
  exact (sessFreeDead_pool (w := w.unregister a) hb).trans (deadFold_pool hn)

theorem ipaddrRecover_range {p : Ippool} {ip : IpaddrStruct} :
    (ipaddrRecover p a ip).2.1.startIP = p.startIP ∧
      (ipaddrRecover p a ip).2.1.totalNUM = p.totalNUM := by
  rw [ipaddrRecover]
  split
  · exact ⟨rfl, rfl⟩
  dsimp only
  split <;> exact ⟨rfl, rfl⟩

theorem deadFold_range {l : List Addr} :
    (l.foldl World.deadFreeAt w).pool.startIP = w.pool.startIP ∧
      (l.foldl World.deadFreeAt w).pool.totalNUM = w.pool.totalNUM := by
  induction l generalizing w with
  | nil => exact ⟨rfl, rfl⟩
  | cons a l ih =>
    have hone : (w.deadFreeAt a).pool.startIP = w.pool.startIP ∧
        (w.deadFreeAt a).pool.totalNUM = w.pool.totalNUM := by
      rw [World.deadFreeAt]
      split
      · exact ipaddrRecover_range
      · exact ⟨rfl, rfl⟩
    obtain ⟨h₁, h₂⟩ := ih (w := w.deadFreeAt a)
    exact ⟨h₁.trans hone.1, h₂.trans hone.2⟩

theorem sessExit_range : (w.sessExit a).pool.startIP = w.pool.startIP ∧
    (w.sessExit a).pool.totalNUM = w.pool.totalNUM := by
  have hone : ((w.unregister a).sessFreeDead a).pool.startIP = w.pool.startIP ∧
      ((w.unregister a).sessFreeDead a).pool.totalNUM = w.pool.totalNUM := by
    rw [World.sessFreeDead]
    split
    · exact ⟨rfl, rfl⟩
    · exact ipaddrRecover_range
  obtain ⟨h₁, h₂⟩ := deadFold_range (w := (w.unregister a).sessFreeDead a)
    (l := ((w.unregister a).sessFreeDead a).tables.sess_dead)
  exact ⟨h₁.trans hone.1, h₂.trans hone.2⟩

end

/-! ## Changes, seen through the lives of the sessions -/

/-- No registered session, no identifier and no slot changes. -/
structure Kept (w w' : World) : Prop where
  cfg : w'.cfg = w.cfg
  list : w'.tables.sess_list = w.tables.sess_list
  life : ∀ a ∈ w.tables.sess_list,
    (w'.mem a).toLife = { (w.mem a).toLife with refcnt := (w'.mem a).refcnt }
  id : w'.rad.id = w.rad.id
  socks : w'.rad.socks = w.rad.socks
  curr : w'.rad.curr_id = w.rad.curr_id
  pool : w'.pool = w.pool
  options : w'.options = w.options
  ended : w'.ended = w.ended

/-- The session of the record `a` enters, with the life `l`. -/
structure Enters (w : World) (a : Addr) (l : Life) (w' : World) : Prop where
  new : a ∉ w.tables.sess_list
  cfg : w'.cfg = w.cfg
  list : w'.tables.sess_list = w.tables.sess_list ++ [a]
  life : (w'.mem a).toLife = l
  mem : ∀ b ∈ w.tables.sess_list, w'.mem b = w.mem b
  rad : w'.rad = w.rad
  pool : w'.pool = w.pool
  options : w'.options = w.options
  ended : w'.ended = w.ended

/-- The session at `a` moves on to the view `v`. -/
structure Moves (w : World) (a : Addr) (v : View) (w' : World) : Prop where
  cfg : w'.cfg = w.cfg
  list : w'.tables.sess_list = w.tables.sess_list
  life : (w'.mem a).toLife = v.life
  mem : ∀ b, b ≠ a → w'.mem b = w.mem b
  rad : w'.rad = v.rad
  pool : w'.pool = v.pool
  options : w'.options.fixed = v.options
  ended : w'.ended = w.ended

/-- The session at `a` leaves, with the view `v`. -/
structure Leaves (w : World) (a : Addr) (v : View) (w' : World) : Prop where
  cfg : w'.cfg = w.cfg
  list : ∀ b, b ∈ w'.tables.sess_list ↔ b ∈ w.tables.sess_list ∧ b ≠ a
  mem : ∀ b ∈ w.tables.sess_list, b ≠ a → w'.mem b = w.mem b
  rad : w'.rad = v.rad
  pool : ∀ b ∈ w.tables.sess_list, b ≠ a → Ippool.Keeps b v.pool w'.pool
  startIP : w'.pool.startIP = v.pool.startIP
  totalNUM : w'.pool.totalNUM = v.pool.totalNUM
  options : w'.options.fixed = v.options
  ended : w'.ended = w.ended ++ [v.life.marks]

/-- The life of a session that was just registered. -/
def Session.entry (s : Session) : Life :=
  { state := .INIT, sid := s.sid, mac := s.mac, ipaddr := s.ipaddr, timeout := .armed }

section
variable {g : Guard} {w w' : World} {a : Addr}

theorem Misc.kept (h : Misc w w') : Kept w w' := by
  refine ⟨h.cfg, by rw [h.tables], fun a _ => ?_, by rw [h.rad], by rw [h.rad], by rw [h.rad],
    h.pool, h.options, h.ended⟩
  rw [h.mem]

theorem touch_kept {s : Session} (hl : s.toLife = { (w.mem a).toLife with refcnt := s.refcnt }) :
    Kept w { w with mem := w.mem.set a s } := by
  refine ⟨rfl, rfl, fun b _ => ?_, rfl, rfl, rfl, rfl, rfl, rfl⟩
  by_cases h : b = a
  · subst h
    have hself : w.mem.set b s b = s := Mem.set_same
    simpa only [hself] using hl
  · have hother : w.mem.set a s b = w.mem b := Mem.set_other h
    simp only [hother]

theorem record_kept (hs : Sound w) {s : Session} {l : List Addr} (ha : a ∉ w.tables.cache) :
    Kept w (w.handOut a s l) := by
  refine ⟨rfl, rfl, fun b hb => ?_, rfl, rfl, rfl, rfl, rfl, rfl⟩
  have : (w.handOut a s l).mem b = w.mem b := by
    refine Mem.set_other ?_
    rintro rfl
    exact ha (hs.cache b hb)
  rw [this]

theorem stop_kept : Kept w { w with rad := w.rad.stop } :=
  ⟨rfl, rfl, fun _ _ => rfl, rfl, rfl, rfl, rfl, rfl, rfl⟩

theorem Newcomer.enters (hs : Sound w) {s : Session} {out : List Packet} (h : Newcomer w a s) :
    Enters w a s.entry (w.enrol a s out) := by
  have hnew : a ∉ w.tables.sess_list := fun ha => h.record (hs.cache a ha)
  refine ⟨hnew, rfl, rfl, ?_, fun b hb => ?_, rfl, rfl, rfl, rfl⟩
  · have hself : (w.enrol a s out).mem a = { s with state := .INIT } := Mem.set_same
    rw [hself]
    change ({ s.toLife with state := SessState.INIT } : Life) = s.entry
    rw [h.life]
    rfl
  · refine Mem.set_other ?_
    rintro rfl
    exact hnew hb

theorem store_moves {c : Ctx} : Moves w a c.view (w.store a c) := by
  refine ⟨rfl, rfl, ?_, fun b hb => Mem.set_other hb, rfl, rfl, rfl, rfl⟩
  exact congrArg Session.toLife Mem.set_same

theorem exit_leaves (hs : Sound w) {c : Ctx} :
    Leaves w a c.view ((w.store a c).sessExit a) := by
  have hself : (w.store a c).mem a = c.sess := Mem.set_same
  refine ⟨sessExit_read (w := w.store a c) World.cfg, fun b => ?_, fun b hb hne => ?_, sessExit_rad,
    fun b hb hne => ?_, sessExit_range.1, sessExit_range.2, ?_, ?_⟩
  · rw [sessExit_list, and_comm]
    exact hs.nodup.mem_erase_iff
  · have hd : b ∉ (w.store a c).tables.sess_dead := fun hd => (hs.dead b hd).1 hb
    rw [sessExit_mem_other hne hd]
    exact Mem.set_other hne
  · exact sessExit_pool (w := w.store a c) hne fun hd => (hs.dead b hd).1 hb
  · exact congrArg SessionOptions.fixed (sessExit_read (w := w.store a c) World.options)
  · rw [sessExit_ended, hself]
    rfl

/-- What a handler does to the instance: nothing that can be told, or its session moves or
leaves. -/
theorem runOn_effect (hs : Sound w) (ha : a ∈ w.tables.sess_list) (o : Oracle) (t : Trigger) :
    w.runOn o a t = w ∨ w.runOn o a t = { w with fault := true } ∨
      ∃ v, Move t (w.env o a) (w.ctx a) v ∧ v.fault = false ∧ (w.runOn o a t).queue = v.queue ∧
        (v.exited = false ∧ Moves w a v (w.runOn o a t) ∨
          v.exited = true ∧ Leaves w a v (w.runOn o a t)) := by
  obtain ⟨hm, -⟩ := handle_move (t := t) (e := w.env o a) (c := w.ctx a) (hs.fit a ha)
    (hs.rests a ha)
  rw [World.runOn]
  split
  · exact .inl rfl
  split
  · exact .inr (.inl rfl)
  rename_i hft
  refine .inr (.inr ⟨_, hm, Bool.eq_false_iff.mpr hft, ?_⟩)
  split
  · rename_i hx
    exact ⟨sessExit_queue, .inr ⟨hx, exit_leaves hs⟩⟩
  · rename_i hx
    exact ⟨rfl, .inl ⟨Bool.eq_false_iff.mpr hx, store_moves⟩⟩

/-! ## The rule -/

/-- What is asked of an invariant: it is kept by each kind of change. -/
structure Invariant (g : Guard) (I : World → Prop) : Prop where
  kept : ∀ {w w'}, Sound w → I w → Kept w w' → I w'
  enters : ∀ {w w' a s}, Sound w → I w → Newcomer w a s → Origin g w s → g.record w a →
    Enters w a s.entry w' → I w'
  moves : ∀ {w w' a t o v}, Sound w → I w → a ∈ w.tables.sess_list → g.run w o a t → w.Names a t →
    Move t (w.env o a) (w.ctx a) v → v.fault = false → v.exited = false → Moves w a v w' → I w'
  leaves : ∀ {w w' a t o v}, Sound w → I w → a ∈ w.tables.sess_list → g.run w o a t → w.Names a t →
    Move t (w.env o a) (w.ctx a) v → v.fault = false → v.exited = true → Leaves w a v w' → I w'
  stray : ∀ {w p a}, Sound w → I w → a ∉ w.tables.sess_list → (w.rad.id p).status = .USED →
    (w.rad.id p).sess = some a → I { w with rad := w.rad.free p }
  start : ∀ {w}, Sound w → I w → g.start w → I { w with rad := w.rad.start }

theorem Invariant.change {I : World → Prop} (hI : Invariant g I) (hs : Sound w) (hi : I w)
    (hc : Change g w w') : I w' := by
  cases hc with
  | misc h => exact hI.kept hs hi h.kept
  | touch hl _ => exact hI.kept hs hi (touch_kept hl)
  | record ha _ _ => exact hI.kept hs hi (record_kept hs ha)
  | enrol hn ho hg => exact hI.enters hs hi hn ho hg (hn.enters hs)
  | move hr hx => exact hI.moves hs hi hr.mem hr.guard hr.named hr.move hr.fault hx store_moves
  | exit hr hx => exact hI.leaves hs hi hr.mem hr.guard hr.named hr.move hr.fault hx (exit_leaves hs)
  | stray ha hu hp => exact hI.stray hs hi ha hu hp
  | stop => exact hI.kept hs hi stop_kept
  | start hg => exact hI.start hs hi hg

/-- The rule for runs: what holds when the instance is set up and is an invariant under the guard
holds after every run whose events all pass it. -/
theorem Invariant.run {I : World → Prop} (hI : Invariant g I) {cfg : Config} {pool : Ippool}
    {status : BackupStatus} {xs : List (Event × Oracle)} (h0 : I (World.init cfg pool status))
    (ho : Obeys step g.Meets (World.init cfg pool status) xs) :
    Sound (runEvents (World.init cfg pool status) xs) ∧
      I (runEvents (World.init cfg pool status) xs) :=
  runEvents_inv h0 (fun _ _ hs hi hc => hI.change hs hi hc) ho

end

end Pppoe
end DaemonGroup
