import DaemonGroup.Pppoe.Addresses
import Mathlib.Data.List.Perm.Basic

/-!
# DaemonGroup.Pppoe.References

The reference count of a session. Registration takes no reference: the count is the number of
operations of other threads that have looked the session up and work on it. A session that ends
while it is held waits on the list of dead sessions, which is gone through whenever a session ends.

* `Held` — the instance together with the operations in progress.
* `Referenced` — the counts, and what they are for: no record is freed while it is held, and a record
  that was freed has no slot of the address pool.
-/

namespace DaemonGroup
namespace Pppoe

open Lib

/-! ## Operations in progress -/

/-- An operation on a session that it has looked up by id: `method_session_stat_update` with one
line of the kernel's table, or `session_wireless_info_set`, which sets fields that are not part of
the model. -/
inductive Op where
  | stat (st : SessionStat)
  | wireless
deriving DecidableEq, Repr

def statUpdate (st : SessionStat) (s : Session) : Session :=
  if s.state.num > SessState.ONLINE.num then s
  else
    { s with
      stat :=
        { rx_bytes := s.bk_stat.rx_bytes + st.rx_bytes
          tx_bytes := s.bk_stat.tx_bytes + st.tx_bytes
          rx_packets := s.bk_stat.rx_packets + st.rx_packets
          tx_packets := s.bk_stat.tx_packets + st.tx_packets } }

def Op.body : Op → Session → Session
  | .stat st => statUpdate st
  | .wireless => id

/-- The instance, and the operations that hold a session. -/
structure Held where
  world : World
  ops : List (Addr × Op) := []

def Held.init (cfg : Config) (pool : Ippool) (status : BackupStatus) : Held :=
  { world := World.init cfg pool status }

/-- The number of operations that hold the session at `a`. -/
def Held.holders (h : Held) (a : Addr) : Nat := (h.ops.map Prod.fst).count a

/-- An event of the device thread; the lookups of other threads are acts of their own. -/
def Event.device : Event → Bool
  | .hold _ | .put _ => false
  | _ => true

inductive Act where
  | device (ev : Event) (o : Oracle) (h : ev.device)
  /-- an operation looks a session up, with `manage_sess_get_by_sid` -/
  | get (sid : Nat) (op : Op)
  /-- an operation does its work and puts the session -/
  | finish (i : Nat)

def Held.act (h : Held) : Act → Held
  | .device ev o _ => { h with world := step h.world (ev, o) }
  | .get sid op =>
    match h.world.bySid sid with
    | none => h
    | some a => { world := h.world.hold (some a), ops := (a, op) :: h.ops }
  | .finish i =>
    match h.ops[i]? with
    | none => h
    | some (a, op) =>
      { world :=
          World.refer { h.world with mem := h.world.mem.set a (op.body (h.world.mem a)) } a (· - 1)
        ops := h.ops.eraseIdx i }

/-- `manage_sess_kick_by_mac`, which takes a reference and does not give it back, finds no
session. -/
def Act.puts (h : Held) : Act → Prop
  | .device (.kickByMac mac) _ _ => h.world.byMac mac = none
  | _ => True

structure Referenced (h : Held) : Prop where
  count : ∀ a ∈ h.world.tables.cache, (h.world.mem a).refcnt = h.holders a
  held : ∀ a, h.holders a ≠ 0 → a ∈ h.world.tables.cache
  dead : ∀ a ∈ h.world.tables.cache, (h.world.mem a).state = .DEAD → a ∈ h.world.tables.sess_dead
  slot : ∀ i a, h.world.pool.pool i = some a → a ∈ h.world.tables.cache

/-- When a session has ended, every record of an ended session that is not back in the cache is
held. -/
def Swept (h h' : Held) : Prop :=
  (∃ a ∈ h.world.tables.sess_list, a ∉ h'.world.tables.sess_list) →
    ∀ a ∈ h'.world.tables.cache, (h'.world.mem a).state = .DEAD → h'.holders a ≠ 0

/-! ## Slots -/

/-- The slots of the pool belong to the records in `l`, and each is the slot of the address that
`f` says the record has. -/
def Ippool.Slotted (p : Ippool) (f : Addr → UInt32) (l : List Addr) : Prop :=
  ∀ i a, p.pool i = some a → i < p.totalNUM.toNat ∧ a ∈ l ∧ f a ≠ 0 ∧
    (ipaddrToIndex p.startIP (f a)).toNat = i

def World.ip (w : World) (a : Addr) : UInt32 := (w.mem a).ipaddr.ip

section
variable {p p' : Ippool} {f g : Addr → UInt32} {l : List Addr} {a : Addr} {m : UInt32}

theorem Ippool.Slotted.mono {l' : List Addr} (h : p.Slotted f l)
    (hf : ∀ i a, p.pool i = some a → g a = f a ∧ a ∈ l') : p.Slotted g l' := by
  intro i a hi
  obtain ⟨h₁, -, h₃, h₄⟩ := h i a hi
  obtain ⟨hg, hl⟩ := hf i a hi
  rw [hg]
  exact ⟨h₁, hl, h₃, h₄⟩

theorem ApplyStep.slotted {x y : Ippool × IpaddrStruct} (h : ApplyStep a x y) (hr : x.1.Range m)
    (hf : f a = x.2.ip) (ha : a ∈ l) (hs : x.1.Slotted f l) (hg : g a = y.2.ip)
    (hfg : ∀ b, b ≠ a → g b = f b) : y.1.Slotted g l := by
  obtain ⟨h0, happ⟩ := h
  rw [ipaddrApply] at happ
  simp only [h0, ne_eq, not_true_eq_false, if_false] at happ
  split at happ
  · cases congrArg Prod.fst happ
  rename_i hlt
  have hlt : ippoolGetFreeIndex x.1 < x.1.totalNUM := UInt32.not_le.mp hlt
  obtain ⟨hne, hidx⟩ := hr.index hlt
  obtain ⟨y₁, y₂⟩ := y
  simp only [Prod.mk.injEq, true_and] at happ
  obtain ⟨rfl, rfl⟩ := happ
  intro i b hi
  by_cases h : i = (ippoolGetFreeIndex x.1).toNat
  · have hba : b = a := by simpa [Ippool.setSlot, h] using hi.symm
    rw [hba, hg, h]
    refine ⟨UInt32.lt_iff_toNat_lt.mp hlt, ha, hne, ?_⟩
    exact congrArg UInt32.toNat hidx
  · have hi' : x.1.pool i = some b := by simpa [Ippool.setSlot, h] using hi
    obtain ⟨h₁, h₂, h₃, h₄⟩ := hs i b hi'
    have hba : b ≠ a := by
      rintro rfl
      rw [hf, h0] at h₃
      exact h₃ rfl
    rw [hfg b hba]
    exact ⟨h₁, h₂, h₃, h₄⟩

theorem applies_slotted {x y : Ippool × IpaddrStruct}
    (h : Relation.ReflTransGen (ApplyStep a) x y) (hr : x.1.Range m) (hf : f a = x.2.ip)
    (ha : a ∈ l) (hs : x.1.Slotted f l) (hg : g a = y.2.ip) (hfg : ∀ b, b ≠ a → g b = f b) :
    y.1.Range m ∧ y.1.Slotted g l := by
  induction h generalizing g with
  | refl =>
    refine ⟨hr, hs.mono fun i b hi => ⟨?_, (hs i b hi).2.1⟩⟩
    by_cases hba : b = a
    · rw [hba, hg, hf]
    · exact hfg b hba
  | @tail y z hy hstep ih =>
    obtain ⟨hr', hs'⟩ := ih (g := fun b => if b = a then y.2.ip else f b) (if_pos rfl)
      fun b hb => if_neg hb
    refine ⟨(hstep.spec hr').1, hstep.slotted hr' (if_pos rfl) ha hs' hg fun b hb => ?_⟩
    rw [if_neg hb]
    exact hfg b hb

/-- The address of a record that is given back leaves the record without a slot. -/
theorem recover_slotted (hs : p.Slotted f l) {ip : IpaddrStruct} (hf : f a = ip.ip) (i : Nat)
    (b : Addr) (hi : (ipaddrRecover p a ip).2.1.pool i = some b) : b ≠ a ∧ p.pool i = some b := by
  rw [ipaddrRecover] at hi
  split at hi
  · rename_i h0
    refine ⟨?_, hi⟩
    rintro rfl
    exact (hs i b hi).2.2.1 (hf.trans h0)
  dsimp only at hi
  split at hi
  · rename_i hno
    refine ⟨?_, hi⟩
    rintro rfl
    obtain ⟨h₁, -, -, h₄⟩ := hs i b hi
    rw [hf] at h₄
    rcases hno with hno | hno
    · have := UInt32.le_iff_toNat_le.mp hno
      omega
    · rw [h₄] at hno
      exact hno hi
  · rename_i hyes
    by_cases h : i = (ipaddrToIndex p.startIP ip.ip).toNat
    · simp [Ippool.setSlot, h] at hi
    · have hi' : p.pool i = some b := by simpa [Ippool.setSlot, h] using hi
      refine ⟨?_, hi'⟩
      rintro rfl
      obtain ⟨-, -, -, h₄⟩ := hs i b hi'
      rw [hf] at h₄
      exact h h₄.symm

end

/-! ## Freeing -/

/-- What is counted, `k` being the number of holders of each record. -/
structure Counted (k : Addr → Nat) (m : UInt32) (w : World) : Prop where
  refs : ∀ a ∈ w.tables.cache, (w.mem a).refcnt = k a
  held : ∀ a, k a ≠ 0 → a ∈ w.tables.cache
  nodup : w.tables.cache.Nodup
  range : w.pool.Range m
  slotted : w.pool.Slotted w.ip w.tables.cache

section
variable {k : Addr → Nat} {m : UInt32} {w : World} {a b : Addr}

theorem Counted.sessFreeAt (h : Counted k m w) (ha : k a = 0) : Counted k m (w.sessFreeAt a) where
  refs := by
    intro b hb
    have hb' : b ∈ w.tables.cache := List.mem_of_mem_erase hb
    by_cases hba : b = a
    · subst hba
      obtain ⟨ip, hself⟩ := sessFreeAt_mem_self (w := w) (a := b)
      rw [hself]
      exact h.refs b hb'
    · rw [sessFreeAt_mem_other hba]
      exact h.refs b hb'
  held := by
    intro b hb
    have hba : b ≠ a := by
      rintro rfl
      exact hb ha
    exact (List.mem_erase_of_ne hba).mpr (h.held b hb)
  nodup := h.nodup.erase a
  range := h.range.keep ipaddrRecover_range.1 ipaddrRecover_range.2
  slotted := by
    intro i b hi
    obtain ⟨hba, hi'⟩ := recover_slotted h.slotted rfl i b hi
    obtain ⟨h₁, h₂, h₃, h₄⟩ := h.slotted i b hi'
    have hip : (w.sessFreeAt a).ip b = w.ip b := by
      rw [World.ip, sessFreeAt_mem_other hba]
      rfl
    have hstart : (w.sessFreeAt a).pool.startIP = w.pool.startIP := ipaddrRecover_range.1
    have htotal : (w.sessFreeAt a).pool.totalNUM = w.pool.totalNUM := ipaddrRecover_range.2
    rw [hip, hstart, htotal]
    exact ⟨h₁, (List.mem_erase_of_ne hba).mpr h₂, h₃, h₄⟩

theorem Counted.deadFreeAt (h : Counted k m w) (ha : a ∈ w.tables.cache) :
    Counted k m (w.deadFreeAt a) := by
  rw [World.deadFreeAt]
  split
  · rename_i h0
    have hw : Counted k m
        { w with tables := { w.tables with sess_dead := w.tables.sess_dead.erase a } } :=
      ⟨h.refs, h.held, h.nodup, h.range, h.slotted⟩
    exact hw.sessFreeAt ((h.refs a ha).symm.trans h0)
  · exact h

theorem deadFreeAt_refcnt (b : Addr) : ((w.deadFreeAt a).mem b).refcnt = (w.mem b).refcnt := by
  obtain ⟨ip, h⟩ := deadFreeAt_mem (w := w) (a := a) b
  rw [h]

theorem deadFreeAt_cache (hn : w.tables.cache.Nodup) :
    b ∈ (w.deadFreeAt a).tables.cache ↔
      b ∈ w.tables.cache ∧ (b = a → (w.mem b).refcnt ≠ 0) := by
  rw [World.deadFreeAt]
  split
  · rename_i h0
    show b ∈ w.tables.cache.erase a ↔ _
    rw [hn.mem_erase_iff]
    constructor
    · rintro ⟨hb, hc⟩
      exact ⟨hc, fun h => absurd h hb⟩
    · rintro ⟨hc, hb⟩
      exact ⟨fun h => hb h (h ▸ h0), hc⟩
  · rename_i h0
    exact ⟨fun hc => ⟨hc, fun h => h ▸ h0⟩, And.left⟩

theorem deadFreeAt_dead (hn : w.tables.sess_dead.Nodup) :
    b ∈ (w.deadFreeAt a).tables.sess_dead ↔
      b ∈ w.tables.sess_dead ∧ (b = a → (w.mem b).refcnt ≠ 0) := by
  rw [World.deadFreeAt]
  split
  · rename_i h0
    show b ∈ w.tables.sess_dead.erase a ↔ _
    rw [hn.mem_erase_iff]
    constructor
    · rintro ⟨hb, hc⟩
      exact ⟨hc, fun h => absurd h hb⟩
    · rintro ⟨hc, hb⟩
      exact ⟨fun h => hb h (h ▸ h0), hc⟩
  · rename_i h0
    exact ⟨fun hc => ⟨hc, fun h => h ▸ h0⟩, And.left⟩

theorem deadFreeAt_nodup (hc : w.tables.cache.Nodup) (hd : w.tables.sess_dead.Nodup) :
    (w.deadFreeAt a).tables.cache.Nodup ∧ (w.deadFreeAt a).tables.sess_dead.Nodup := by
  rw [World.deadFreeAt]
  split
  · exact ⟨hc.erase a, hd.erase a⟩
  · exact ⟨hc, hd⟩

/-- Going through the dead sessions frees those without a reference. -/
theorem deadFold_spec {l : List Addr} (hc : w.tables.cache.Nodup) (hd : w.tables.sess_dead.Nodup) :
    (b ∈ (l.foldl World.deadFreeAt w).tables.cache ↔
      b ∈ w.tables.cache ∧ (b ∈ l → (w.mem b).refcnt ≠ 0)) ∧
    (b ∈ (l.foldl World.deadFreeAt w).tables.sess_dead ↔
      b ∈ w.tables.sess_dead ∧ (b ∈ l → (w.mem b).refcnt ≠ 0)) := by
  induction l generalizing w with
  | nil => simp
  | cons a l ih =>
    obtain ⟨hc', hd'⟩ := deadFreeAt_nodup (a := a) hc hd
    obtain ⟨h₁, h₂⟩ := ih hc' hd'
    rw [List.foldl_cons, h₁, h₂, deadFreeAt_cache hc, deadFreeAt_dead hd, deadFreeAt_refcnt,
      List.mem_cons, or_imp, and_assoc, and_assoc]
    exact ⟨Iff.rfl, Iff.rfl⟩

theorem Counted.deadFold (h : Counted k m w) {l : List Addr} (hl : l.Nodup)
    (hd : ∀ a ∈ l, a ∈ w.tables.cache) : Counted k m (l.foldl World.deadFreeAt w) := by
  induction l generalizing w with
  | nil => exact h
  | cons a l ih =>
    rw [List.nodup_cons] at hl
    refine ih (h.deadFreeAt (hd a List.mem_cons_self)) hl.2 fun b hb => ?_
    rw [deadFreeAt_cache h.nodup]
    refine ⟨hd b (List.mem_cons_of_mem a hb), ?_⟩
    rintro rfl
    exact absurd hb hl.1

/-! ## The end of a session -/

/-- What is in the cache and on the list of dead sessions when a session has ended. -/
theorem sessExit_spec (ha : a ∉ w.tables.sess_dead) (hc : w.tables.cache.Nodup)
    (hd : w.tables.sess_dead.Nodup) :
    (b ∈ (w.sessExit a).tables.cache ↔
      b ∈ w.tables.cache ∧ (b = a ∨ b ∈ w.tables.sess_dead → (w.mem b).refcnt ≠ 0)) ∧
    (b ∈ (w.sessExit a).tables.sess_dead ↔
      (b = a ∨ b ∈ w.tables.sess_dead) ∧ (w.mem b).refcnt ≠ 0) := by
  have hself : ((w.unregister a).mem a).refcnt = (w.mem a).refcnt := unregister_refcnt a
  by_cases h0 : (w.mem a).refcnt = 0
  · have hexit : w.sessExit a =
        w.tables.sess_dead.foldl World.deadFreeAt ((w.unregister a).sessFreeAt a) := by
      rw [World.sessExit, World.sessFree, if_neg (not_not_intro (hself.trans h0))]
      rfl
    have href : (((w.unregister a).sessFreeAt a).mem b).refcnt = (w.mem b).refcnt := by
      rw [← unregister_refcnt (w := w) (a := a) b]
      by_cases hb : b = a
      · rw [hb]
        obtain ⟨ip, h⟩ := sessFreeAt_mem_self (w := w.unregister a) (a := a)
        rw [h]
      · rw [sessFreeAt_mem_other hb]
    have hcache : ((w.unregister a).sessFreeAt a).tables.cache = w.tables.cache.erase a := rfl
    have hdead : ((w.unregister a).sessFreeAt a).tables.sess_dead = w.tables.sess_dead := rfl
    obtain ⟨h₁, h₂⟩ := deadFold_spec (w := (w.unregister a).sessFreeAt a) (b := b)
      (l := w.tables.sess_dead) (hc.erase a) hd
    rw [hexit, h₁, h₂, href, hcache, hdead, hc.mem_erase_iff]
    constructor
    · constructor
      · rintro ⟨⟨hba, hb⟩, hr⟩
        exact ⟨hb, fun h => h.elim (absurd · hba) hr⟩
      · rintro ⟨hb, hr⟩
        exact ⟨⟨fun h => hr (.inl h) (h ▸ h0), hb⟩, fun h => hr (.inr h)⟩
    · constructor
      · rintro ⟨hb, hr⟩
        exact ⟨.inr hb, hr hb⟩
      · rintro ⟨hb, hr⟩
        exact ⟨hb.resolve_left fun h => hr (h ▸ h0), fun _ => hr⟩
  · have hexit : w.sessExit a = (a :: w.tables.sess_dead).foldl World.deadFreeAt
        { w.unregister a with
          tables := { (w.unregister a).tables with sess_dead := a :: w.tables.sess_dead } } := by
      have hne : ((w.unregister a).mem a).refcnt ≠ 0 := fun h => h0 (hself.symm.trans h)
      rw [World.sessExit, World.sessFree, if_pos hne]
      rfl
    obtain ⟨h₁, h₂⟩ := deadFold_spec (w := { w.unregister a with
        tables := { (w.unregister a).tables with sess_dead := a :: w.tables.sess_dead } }) (b := b)
      (l := a :: w.tables.sess_dead) hc (List.nodup_cons.mpr ⟨ha, hd⟩)
    rw [hexit, h₁, h₂]
    simp only [unregister_refcnt, List.mem_cons]
    exact ⟨Iff.rfl, ⟨fun h => ⟨h.1, h.2 h.1⟩, fun h => ⟨h.1, fun _ => h.2⟩⟩⟩

theorem unregister_ip (b : Addr) : (w.unregister a).ip b = w.ip b := by
  rw [World.ip, World.ip, World.unregister]
  by_cases hb : b = a
  · simp [hb, Session.timerClear]
  · simp [Mem.set_other hb]

theorem Counted.unregister (h : Counted k m w) : Counted k m (w.unregister a) where
  refs := by
    intro b hb
    rw [unregister_refcnt]
    exact h.refs b hb
  held := h.held
  nodup := h.nodup
  range := h.range
  slotted := h.slotted.mono fun i b hi => ⟨unregister_ip b, (h.slotted i b hi).2.1⟩

theorem Counted.sessExit (h : Counted k m w) (ha : a ∈ w.tables.cache)
    (hself : a ∉ w.tables.sess_dead) (hn : w.tables.sess_dead.Nodup)
    (hd : ∀ b ∈ w.tables.sess_dead, b ∈ w.tables.cache) : Counted k m (w.sessExit a) := by
  have hun : Counted k m (w.unregister a) := h.unregister
  have href : ((w.unregister a).mem a).refcnt = k a := hun.refs a ha
  rw [World.sessExit, World.sessFree]
  split
  · -- held: it joins the dead sessions
    refine Counted.deadFold (w := World.mk ..) ?_ (List.nodup_cons.mpr ⟨hself, hn⟩) ?_
    · exact ⟨hun.refs, hun.held, hun.nodup, hun.range, hun.slotted⟩
    · intro b hb
      rcases List.mem_cons.mp hb with rfl | hb
      · exact ha
      · exact hd b hb
  · rename_i h0
    have hfree := hun.sessFreeAt (href.symm.trans (not_not.mp h0))
    refine hfree.deadFold hn fun b hb => ?_
    have hba : b ≠ a := by
      rintro rfl
      exact hself hb
    exact (List.mem_erase_of_ne hba).mpr (hd b hb)

/-! ## Changes -/

theorem Counted.store (h : Counted k m w) (hs : Sound w) {g : Guard} {t : Trigger} {o : Oracle}
    {c : Ctx} (hr : Ran g w a t o c) : Counted k m (w.store a c) := by
  obtain ⟨y, hy, hp, hi⟩ := hr.move.applies hr.fault
  have hself : (w.store a c).mem a = c.sess := Mem.set_same
  have hother : ∀ b, b ≠ a → (w.store a c).mem b = w.mem b := fun b hb => Mem.set_other hb
  have hip : (w.store a c).ip a = y.2.ip := by
    rw [World.ip, hself]
    exact congrArg IpaddrStruct.ip hi
  have hips : ∀ b, b ≠ a → (w.store a c).ip b = w.ip b := by
    intro b hb
    rw [World.ip, hother b hb]
    rfl
  obtain ⟨hrange, hslots⟩ := applies_slotted hy h.range rfl (hs.cache a hr.mem) h.slotted hip hips
  have hpool : (w.store a c).pool = y.1 := hp
  refine ⟨fun b hb => ?_, h.held, h.nodup, hpool ▸ hrange, hpool ▸ hslots⟩
  by_cases hba : b = a
  · rw [hba, hself]
    exact (hr.move.refcnt hr.fault).trans (h.refs a (hs.cache a hr.mem))
  · rw [hother b hba]
    exact h.refs b hb

/-- Under a change that leaves the references alone, the counts follow from who has a record and
from the slots. -/
theorem Counted.tidy {w' : World} (h : Counted k m w) (ht : Tidy w w')
    (hc : ∀ b ∈ w.tables.cache, b ∈ w'.tables.cache) (hp : w'.pool = w.pool)
    (hip : ∀ b ∈ w.tables.cache, w'.ip b = w.ip b) : Counted k m w' where
  refs := by
    intro b hb
    by_cases hold : b ∈ w.tables.cache
    · rw [ht.kept b hold]
      exact h.refs b hold
    · rw [(ht.fresh b hb hold).1]
      exact not_not.mp fun hk => hold (h.held b (Ne.symm hk))
  held := fun b hb => hc b (h.held b hb)
  nodup := ht.nodup h.nodup
  range := hp ▸ h.range
  slotted := by
    rw [hp]
    refine h.slotted.mono fun i b hi => ?_
    have hb := (h.slotted i b hi).2.1
    exact ⟨hip b hb, hc b hb⟩

theorem Counted.change {g : Guard} {w' : World} (h : Counted k m w) (hs : Sound w)
    (hc : Change g w w') (ht : Tidy w w') : Counted k m w' := by
  cases hc with
  | misc hm =>
    refine h.tidy ht (fun b hb => by rw [hm.tables]; exact hb) hm.pool fun b _ => ?_
    rw [World.ip, hm.mem]
    rfl
  | @touch a s hl hf =>
    refine h.tidy ht (fun _ hb => hb) rfl fun b _ => ?_
    by_cases hba : b = a
    · subst hba
      have hs : s.ipaddr = (w.mem b).ipaddr := by rw [hl]
      simp [World.ip, hs]
    · simp [World.ip, Mem.set_other hba]
  | @record a s l ha hst hl =>
    refine h.tidy ht hl rfl fun b hb => ?_
    have hba : b ≠ a := fun hba => ha (hba ▸ hb)
    simp [World.ip, World.handOut, Mem.set_other hba]
  | @enrol a s out hn =>
    refine h.tidy ht (fun b hb => List.mem_cons_of_mem a hb) rfl fun b hb => ?_
    have hba : b ≠ a := fun hba => hn.record (hba ▸ hb)
    simp [World.ip, World.enrol, World.register, Mem.set_other hba]
  | move hr hx => exact h.store hs hr
  | exit hr hx =>
    exact (h.store hs hr).sessExit (hs.cache _ hr.mem) (fun hd => (hs.dead _ hd).1 hr.mem)
      hs.deadNodup fun b hb => (hs.dead b hb).2
  | stray => exact ⟨h.refs, h.held, h.nodup, h.range, h.slotted⟩
  | stop => exact ⟨h.refs, h.held, h.nodup, h.range, h.slotted⟩
  | start => exact ⟨h.refs, h.held, h.nodup, h.range, h.slotted⟩

/-- A session that is not ended does not become a dead one. -/
theorem Move.alive {t : Trigger} {e : Env} {c : Ctx} {v : View} (h : Move t e c v)
    (hst : c.sess.state ≠ .DEAD) (hv : v.fault = false) (hx : v.exited = false) :
    v.life.state ≠ .DEAD := by
  cases h with
  | idle | sync | retransmit | lost | misfit => exact hst
  | preopen | postopen | authpre | authpost | opened | onlinepre | onlinepost | online | standby
  | offlinepost | stuck => exact SessState.noConfusion
  | exitAuth | exitOpened | exitOnline | exitOffline | exitStopped | exit | disconnect | clear =>
    cases hx
  | address _ ha =>
    obtain ⟨y, -, rfl⟩ := ha
    exact hst
  | update _ ha =>
    rcases ha with ha | ha
    · rw [ha.frame.state]
      exact hst
    · rw [ha.frame.state]
      exact hst
  | settled =>
    rw [show c.view.settle.life.state = c.sess.state from clean_state c.view]
    exact hst
  | faulty h => rw [h] at hv; cases hv

/-- A record that is out is that of a session, of a dead one, or of one that never came about. -/
structure Placed (w : World) : Prop where
  left : ∀ a ∈ w.tables.cache,
    a ∈ w.tables.sess_list ∨ a ∈ w.tables.sess_dead ∨ (w.mem a).state = .NONE
  alive : ∀ a ∈ w.tables.sess_list, (w.mem a).state ≠ .DEAD

theorem Placed.dead (h : Placed w) (ha : a ∈ w.tables.cache) (hst : (w.mem a).state = .DEAD) :
    a ∈ w.tables.sess_dead := by
  rcases h.left a ha with hl | hd | hn
  · exact absurd hst (h.alive a hl)
  · exact hd
  · rw [hst] at hn
    cases hn

theorem Placed.same {w' : World} (h : Placed w) (ht : w'.tables = w.tables)
    (hm : ∀ b ∈ w.tables.cache, (w'.mem b).state = (w.mem b).state) (hs : Sound w) : Placed w' where
  left := by
    intro b hb
    rw [ht] at hb ⊢
    rw [hm b hb]
    exact h.left b hb
  alive := by
    intro b hb
    rw [ht] at hb
    rw [hm b (hs.cache b hb)]
    exact h.alive b hb

theorem Placed.store (h : Placed w) {c : Ctx} (ha : a ∈ w.tables.sess_list)
    (hc : c.sess.state ≠ .DEAD) : Placed (w.store a c) where
  left := by
    intro b hb
    by_cases hba : b = a
    · exact .inl (hba ▸ ha)
    · have hmem : (w.store a c).mem b = w.mem b := Mem.set_other hba
      rw [hmem]
      exact h.left b hb
  alive := by
    intro b hb
    by_cases hba : b = a
    · have hmem : (w.store a c).mem a = c.sess := Mem.set_same
      rw [hba, hmem]
      exact hc
    · have hmem : (w.store a c).mem b = w.mem b := Mem.set_other hba
      rw [hmem]
      exact h.alive b hb

theorem exit_state {c : Ctx} (hba : b ≠ a) :
    (((w.store a c).sessExit a).mem b).state = (w.mem b).state := by
  obtain ⟨ip, h⟩ := sessExit_mem (w := w.store a c) (a := a) b
  have hun : ((w.store a c).unregister a).mem b = w.mem b :=
    (Mem.set_other hba).trans (Mem.set_other hba)
  rw [h, hun]

theorem Placed.exit (h : Placed w) (hs : Sound w) (hn : w.tables.cache.Nodup) {c : Ctx}
    (ha : a ∈ w.tables.sess_list) : Placed ((w.store a c).sessExit a) := by
  have hdead : a ∉ w.tables.sess_dead := fun hd => (hs.dead a hd).1 ha
  have hlist : ((w.store a c).sessExit a).tables.sess_list = w.tables.sess_list.erase a :=
    sessExit_list
  constructor
  · intro b hb
    obtain ⟨hcache, hd⟩ := sessExit_spec (w := w.store a c) (b := b) hdead hn hs.deadNodup
    obtain ⟨hb', hr⟩ := hcache.mp hb
    by_cases hx : b = a ∨ b ∈ w.tables.sess_dead
    · exact .inr (.inl (hd.mpr ⟨hx, hr hx⟩))
    · obtain ⟨hba, hbd⟩ := not_or.mp hx
      rw [exit_state hba, hlist]
      rcases h.left b hb' with hl | hd' | hnone
      · exact .inl ((List.mem_erase_of_ne hba).mpr hl)
      · exact absurd hd' hbd
      · exact .inr (.inr hnone)
  · intro b hb
    rw [hlist, hs.nodup.mem_erase_iff] at hb
    rw [exit_state hb.1]
    exact h.alive b hb.2

theorem Placed.change {g : Guard} {w' : World} (h : Placed w) (hn : w.tables.cache.Nodup)
    (hs : Sound w) (hc : Change g w w') (ht : Tidy w w') : Placed w' := by
  have hs' := hc.sound hs
  cases hc with
  | misc hm => exact h.same hm.tables (fun b _ => by rw [hm.mem]) hs
  | @touch a s hl hf =>
    refine h.same rfl (fun b _ => ?_) hs
    by_cases hba : b = a
    · subst hba
      have hst : s.state = (w.mem b).state := by rw [hl]
      simp [hst]
    · simp [Mem.set_other hba]
  | @record a s l ha hst hl =>
    have hold : ∀ b ∈ w.tables.cache, (w.handOut a s l).mem b = w.mem b := fun b hb =>
      Mem.set_other fun hba => ha (hba ▸ hb)
    constructor
    · intro b hb
      by_cases hb' : b ∈ w.tables.cache
      · rw [hold b hb']
        exact h.left b hb'
      · -- one more record is out, and no session has been registered in it
        have hnew := (ht.fresh b hb hb').2
        exact .inr (.inr ((hs'.gone b fun hb'' => hb' (hs.cache b hb'')).resolve_right hnew))
    · intro b hb
      rw [hold b (hs.cache b hb)]
      exact h.alive b hb
  | @enrol a s out hnc =>
    have hold : ∀ b ∈ w.tables.cache, (w.enrol a s out).mem b = w.mem b := fun b hb =>
      Mem.set_other fun hba => hnc.record (hba ▸ hb)
    have hself : (w.enrol a s out).mem a = { s with state := .INIT } := Mem.set_same
    constructor
    · intro b hb
      rcases List.mem_cons.mp hb with rfl | hb
      · exact .inl (List.mem_append_right _ List.mem_cons_self)
      · rw [hold b hb]
        exact (h.left b hb).imp_left (List.mem_append_left _)
    · intro b hb
      rcases List.mem_append.mp hb with hb | hb
      · rw [hold b (hs.cache b hb)]
        exact h.alive b hb
      · rw [List.mem_singleton.mp hb, hself]
        exact SessState.noConfusion
  | move hr hx => exact h.store hr.mem (hr.move.alive (h.alive _ hr.mem) hr.fault hx)
  | exit hr hx => exact h.exit hs hn hr.mem
  | stray => exact ⟨h.left, h.alive⟩
  | stop => exact ⟨h.left, h.alive⟩
  | start => exact ⟨h.left, h.alive⟩

/-- Since the sessions were those in `l`, either none of them has ended, or every dead session that
is left has a reference. -/
def Sweeps (l : List Addr) (w : World) : Prop :=
  (∀ a ∈ l, a ∈ w.tables.sess_list) ∨ ∀ a ∈ w.tables.sess_dead, (w.mem a).refcnt ≠ 0

theorem Sweeps.tidy {l : List Addr} {w' : World} (h : Sweeps l w) (hs : Sound w) (ht : Tidy w w')
    (hl : ∀ a ∈ w.tables.sess_list, a ∈ w'.tables.sess_list)
    (hd : w'.tables.sess_dead = w.tables.sess_dead) : Sweeps l w' := by
  rcases h with h | h
  · exact .inl fun a ha => hl a (h a ha)
  · refine .inr fun a ha => ?_
    rw [hd] at ha
    rw [ht.kept a (hs.dead a ha).2]
    exact h a ha

theorem Sweeps.change {g : Guard} {l : List Addr} {w' : World} (h : Sweeps l w)
    (hn : w.tables.cache.Nodup) (hs : Sound w) (hc : Change g w w') (ht : Tidy w w') :
    Sweeps l w' := by
  cases hc with
  | misc hm => exact h.tidy hs ht (fun a ha => by rw [hm.tables]; exact ha) (by rw [hm.tables])
  | enrol => exact h.tidy hs ht (fun a ha => List.mem_append_left _ ha) rfl
  | @exit a t o c hr hx =>
    refine .inr fun b hb => ?_
    have hdead : a ∉ w.tables.sess_dead := fun hd => (hs.dead a hd).1 hr.mem
    obtain ⟨hb', hr'⟩ := (sessExit_spec (w := w.store a c) (b := b) hdead hn hs.deadNodup).2.mp hb
    have hcache : b ∈ w.tables.cache :=
      hb'.elim (fun h => h ▸ hs.cache a hr.mem) fun h => (hs.dead b h).2
    have hkept := (Tidy.sessExit (w := w.store a c) (a := a)).kept b hcache
    rw [hkept]
    exact hr'
  | touch | record | move | stray | stop | start => exact h.tidy hs ht (fun _ ha => ha) rfl

/-! ## Acts -/

/-- An operation takes a reference to the record at `a` or gives one back. -/
theorem Counted.touch {k' : Addr → Nat} {s : Session} (h : Counted k m w)
    (ha : a ∈ w.tables.cache) (hr : s.refcnt = k' a) (hip : s.ipaddr = (w.mem a).ipaddr)
    (hk : ∀ b, b ≠ a → k' b = k b) : Counted k' m { w with mem := w.mem.set a s } where
  refs := by
    intro b hb
    by_cases hba : b = a
    · simp [hba, hr]
    · simp only [Mem.set_other hba]
      rw [hk b hba]
      exact h.refs b hb
  held := by
    intro b hb
    by_cases hba : b = a
    · exact hba ▸ ha
    · rw [hk b hba] at hb
      exact h.held b hb
  nodup := h.nodup
  range := h.range
  slotted := by
    refine h.slotted.mono fun i b hi => ⟨?_, (h.slotted i b hi).2.1⟩
    by_cases hba : b = a
    · simp [World.ip, hba, hip]
    · simp [World.ip, Mem.set_other hba]

theorem Placed.touch {s : Session} (h : Placed w) (hs : Sound w)
    (hst : s.state = (w.mem a).state) : Placed { w with mem := w.mem.set a s } := by
  refine h.same rfl (fun b _ => ?_) hs
  by_cases hba : b = a
  · simp [hba, hst]
  · simp [Mem.set_other hba]

theorem body_life (op : Op) (s : Session) :
    (op.body s).toLife = s.toLife ∧ (Fit s → Fit (op.body s)) := by
  cases op with
  | stat st =>
    simp only [Op.body, statUpdate]
    split
    · exact ⟨rfl, id⟩
    · exact ⟨rfl, fun h => h.keep rfl rfl⟩
  | wireless => exact ⟨rfl, id⟩

/-- What holds of the instance and the operations in progress. -/
structure HeldInv (m : UInt32) (h : Held) : Prop where
  sound : Sound h.world
  counted : Counted h.holders m h.world
  placed : Placed h.world

/-- Everything may happen. -/
def anyGuard : Guard := {}

theorem device_turns {h : Held} {ev : Event} {o : Oracle} {hd : ev.device} (hs : Sound h.world)
    (hp : (Act.device ev o hd).puts h) : Turns anyGuard h.world (step h.world (ev, o)) := by
  have hmeets : anyGuard.Meets h.world (ev, o) := by
    refine fun _ => ⟨fun _ _ => trivial, ?_⟩
    cases ev with
    | padr => exact fun _ => trivial
    | onlineSync => exact fun _ => ⟨trivial, trivial⟩
    | _ => trivial
  refine step_turns hs hmeets ?_
  cases ev with
  | kickByMac mac =>
    have hnone : h.world.byMac mac = none := hp
    simp [World.refers, hnone]
  | hold | put => cases hd
  | _ => exact Bool.false_ne_true

/-- The operation that finishes was one of the holders. -/
theorem holders_finish {ops : List (Addr × Op)} {i : Nat} {a : Addr} {op : Op}
    (h : ops[i]? = some (a, op)) (b : Addr) :
    (ops.map Prod.fst).count b = ((ops.eraseIdx i).map Prod.fst).count b + if b = a then 1 else 0 := by
  obtain ⟨hi, hget⟩ := List.getElem?_eq_some_iff.mp h
  have hperm := (List.getElem_cons_eraseIdx_perm hi).map Prod.fst
  rw [hget] at hperm
  rw [← hperm.count_eq b, List.map_cons, List.count_cons]
  by_cases hba : b = a
  · simp [hba]
  · simp [hba, Ne.symm hba]

/-- The record when an operation is done with it. -/
def Op.done (op : Op) (s : Session) : Session :=
  { op.body s with refcnt := (op.body s).refcnt - 1 }

theorem finish_world (op : Op) :
    World.refer { w with mem := w.mem.set a (op.body (w.mem a)) } a (· - 1) =
      { w with mem := w.mem.set a (op.done (w.mem a)) } := by
  simp [World.refer, Op.done]

theorem done_life (op : Op) (s : Session) :
    (op.done s).toLife = { s.toLife with refcnt := (op.done s).refcnt } := by
  have h := (body_life op s).1
  rw [← h]
  rfl

theorem done_refcnt (op : Op) (s : Session) : (op.done s).refcnt = s.refcnt - 1 :=
  congrArg (fun l : Life => l.refcnt - 1) (body_life op s).1

theorem HeldInv.act {h : Held} {x : Act} (hi : HeldInv m h) (hx : x.puts h) :
    HeldInv m (h.act x) := by
  cases x with
  | device ev o hd =>
    have hturns := device_turns hi.sound hx
    have hboth := hturns.inv (I := fun w => Counted h.holders m w ∧ Placed w)
      (fun w w' hs hI hc ht => ⟨hI.1.change hs hc ht, hI.2.change hI.1.nodup hs hc ht⟩) hi.sound
      ⟨hi.counted, hi.placed⟩
    exact ⟨hturns.sound hi.sound, hboth.1, hboth.2⟩
  | get sid op =>
    simp only [Held.act]
    cases hsid : h.world.bySid sid with
    | none => exact hi
    | some a =>
      have ha := hi.sound.cache a (hi.sound.bySid hsid)
      show HeldInv m { world := h.world.hold (some a), ops := (a, op) :: h.ops }
      have hold : Changes anyGuard h.world (h.world.hold (some a)) := hold_changes
      refine ⟨hold.sound hi.sound, hi.counted.touch ha ?_ rfl fun b hba => ?_,
        hi.placed.touch hi.sound rfl⟩
      · show (h.world.mem a).refcnt + 1 = _
        rw [hi.counted.refs a ha]
        simp [Held.holders]
      · simp [Held.holders, Ne.symm hba]
  | finish i =>
    simp only [Held.act]
    cases hop : h.ops[i]? with
    | none => exact hi
    | some x =>
      obtain ⟨a, op⟩ := x
      have hcount := holders_finish hop
      have ha : a ∈ h.world.tables.cache := by
        refine hi.counted.held a ?_
        rw [Held.holders, hcount a, if_pos rfl]
        omega
      show HeldInv m ⟨World.refer _ a _, h.ops.eraseIdx i⟩
      rw [finish_world]
      have hlife := done_life op (h.world.mem a)
      have hchange : Change anyGuard h.world
          { h.world with mem := h.world.mem.set a (op.done (h.world.mem a)) } :=
        .touch hlife fun hf => ((body_life op _).2 hf).keep rfl rfl
      refine ⟨hchange.sound hi.sound, hi.counted.touch ha ?_ ?_ fun b hba => ?_,
        hi.placed.touch hi.sound ?_⟩
      · rw [done_refcnt, hi.counted.refs a ha, Held.holders, hcount a, if_pos rfl]
        rfl
      · rw [hlife]
      · show _ = (h.ops.map Prod.fst).count b
        rw [hcount b, if_neg hba]
        rfl
      · rw [hlife]

/-- What the next act does to the sessions that have ended. -/
theorem HeldInv.swept {h : Held} {x : Act} (hi : HeldInv m h) (hx : x.puts h) :
    Swept h (h.act x) := by
  have hi' := hi.act hx
  rintro ⟨a, ha, hgone⟩ b hb hst
  cases x with
  | device ev o hd =>
    have hsweep := (device_turns hi.sound hx).inv
      (I := fun w => Counted h.holders m w ∧ Sweeps h.world.tables.sess_list w)
      (fun w w' hs hI hc ht => ⟨hI.1.change hs hc ht, hI.2.change hI.1.nodup hs hc ht⟩) hi.sound
      ⟨hi.counted, .inl fun _ h => h⟩
    rcases hsweep.2 with hsame | hdead
    · exact absurd (hsame a ha) hgone
    · have href := hdead b (hi'.placed.dead hb hst)
      exact fun h0 => href ((hi'.counted.refs b hb).trans h0)
  | get sid op =>
    refine absurd ?_ hgone
    simp only [Held.act]
    split
    · exact ha
    · exact ha
  | finish i =>
    refine absurd ?_ hgone
    simp only [Held.act]
    split
    · exact ha
    · exact ha

/-- For every run of the instance and of the operations that hold its sessions, in which
`manage_sess_kick_by_mac` finds no session: the reference count of each record that is out is the
number of its holders, no record is freed while it is held, and when a session ends the records of
all the ended sessions that are not held are freed, with their addresses. -/
theorem references_balanced {minIP maxIP : UInt32} {dns1 dns2 : Nat} {cfg : Config} {pool : Ippool}
    {status : BackupStatus} {xs : List Act} (hp : ippoolCreate minIP maxIP dns1 dns2 = some pool)
    (ho : Obeys Held.act (fun h x => x.puts h) (Held.init cfg pool status) xs) :
    Referenced (run Held.act (Held.init cfg pool status) xs) ∧
      ∀ x : Act, x.puts (run Held.act (Held.init cfg pool status) xs) →
        Swept (run Held.act (Held.init cfg pool status) xs)
          ((run Held.act (Held.init cfg pool status) xs).act x) := by
  obtain ⟨-, hr⟩ := ippoolCreate_range hp
  have h0 : HeldInv (upperIP maxIP) (Held.init cfg pool status) := by
    refine ⟨Sound.init cfg pool status, ⟨?_, ?_, List.nodup_nil, hr, ?_⟩, ⟨?_, ?_⟩⟩
    · intro a ha
      cases ha
    · intro a ha
      exact absurd rfl ha
    · intro i a hi
      rw [show (Held.init cfg pool status).world.pool = pool from rfl, ippoolCreate_empty hp] at hi
      cases hi
    · intro a ha
      cases ha
    · intro a ha
      cases ha
  have hi := ho.run_inv (I := HeldInv _) (fun _ _ hi hx => hi.act hx) h0
  refine ⟨⟨hi.counted.refs, hi.counted.held, fun a ha => hi.placed.dead ha, fun i a ha => ?_⟩,
    fun x hx => hi.swept hx⟩
  exact (hi.counted.slotted i a ha).2.1

end

/-! ## A client leaves while it is held -/

/-- A client is given a session. -/
def arrives : List Act := [.device (.padr sampleMac default true) sampleOracle rfl]

/-- An operation looks the session up, the client leaves, the operation finishes. -/
def leavesHeld : List Act :=
  arrives ++ [.get 1 .wireless, .device (.padt 1 sampleMac) sampleOracle rfl, .finish 0]

/-- Another client comes and leaves. -/
def nextLeaves : List Act :=
  leavesHeld ++
    [.device (.padr ⟨2, 0, 0, 0, 0, 2⟩ default true) { sampleOracle with addr := 2 } rfl,
      .device (.padt 1 ⟨2, 0, 0, 0, 0, 2⟩) sampleOracle rfl]

theorem references_balanced_nextLeaves :
    (run Held.act (Held.init sampleCfg samplePool .NONE) nextLeaves).world.tables.cache = [] ∧
      Referenced (run Held.act (Held.init sampleCfg samplePool .NONE) nextLeaves) := by
  have hp : ippoolCreate 0x0a010101 0x0a0101fe 0 0 = some samplePool := rfl
  have ho : Obeys Held.act (fun h x => x.puts h) (Held.init sampleCfg samplePool .NONE) nextLeaves :=
    ⟨trivial, trivial, trivial, trivial, trivial, trivial, trivial⟩
  exact ⟨by decide +kernel, (references_balanced hp ho).1⟩

/-- Registration takes no reference. And when a session has ended and the operation that held it has
returned, its record is still out. -/
theorem registered_uncounted :
    (1 ∈ (run Held.act (Held.init sampleCfg samplePool .NONE) arrives).world.tables.sess_list ∧
      ((run Held.act (Held.init sampleCfg samplePool .NONE) arrives).world.mem 1).refcnt ≠
        1 + (run Held.act (Held.init sampleCfg samplePool .NONE) arrives).holders 1) ∧
    ((run Held.act (Held.init sampleCfg samplePool .NONE) leavesHeld).world.mem 1).state = .DEAD ∧
      (run Held.act (Held.init sampleCfg samplePool .NONE) leavesHeld).holders 1 = 0 ∧
      1 ∈ (run Held.act (Held.init sampleCfg samplePool .NONE) leavesHeld).world.tables.cache := by
  decide +kernel

end Pppoe
end DaemonGroup
