import DaemonGroup.Pppoe.Invariant

/-!
# DaemonGroup.Pppoe.Sessions

The three indexes of the session table describe the same set of sessions, as long as no session of
the peer is registered under a session id beyond the table. The code takes such an id as it stands:
neither `session_alloc` nor `session_register` compares it with `max_sid`.
-/

namespace DaemonGroup
namespace Pppoe

open Lib

/-- The session table of an instance: the array, the hash and the list hold the same sessions, each
under its own id and address, and the ids index the array within its bounds. -/
structure TablesAgree (w : World) : Prop where
  sid : ∀ i a, w.tables.sess_sid i = some a ↔ a ∈ w.tables.sess_list ∧ (w.mem a).sid = i
  mac : ∀ h a, a ∈ w.tables.sess_mac h ↔
    a ∈ w.tables.sess_list ∧ sessionMacHash (w.mem a).mac = h
  nodup : w.tables.sess_list.Nodup
  macNodup : ∀ h, (w.tables.sess_mac h).Nodup
  count : w.tables.count = w.tables.sess_list.length
  sids : ∀ a ∈ w.tables.sess_list, ∀ b ∈ w.tables.sess_list, (w.mem a).sid = (w.mem b).sid → a = b
  macs : ∀ a ∈ w.tables.sess_list, ∀ b ∈ w.tables.sess_list, (w.mem a).mac = (w.mem b).mac → a = b
  range : ∀ a ∈ w.tables.sess_list, 1 ≤ (w.mem a).sid ∧ (w.mem a).sid ≤ w.cfg.max_sid

/-- The sessions of the peer lie within the table. -/
def sidGuard : Guard where
  online w m := m.sid ≤ w.cfg.max_sid

instance : sidGuard.Checks where
  run _ _ _ _ := inferInstanceAs (Decidable True)
  record _ _ := inferInstanceAs (Decidable True)
  online w m := inferInstanceAs (Decidable (m.sid ≤ w.cfg.max_sid))
  start _ := inferInstanceAs (Decidable True)

/-- What the indexes lack beside what holds anyway: nothing that is listed is missing from them. -/
structure Listed (w : World) : Prop where
  sid : ∀ a ∈ w.tables.sess_list, w.tables.sess_sid (w.mem a).sid = some a
  mac : ∀ a ∈ w.tables.sess_list, a ∈ w.tables.sess_mac (sessionMacHash (w.mem a).mac)
  count : w.tables.count = w.tables.sess_list.length
  macs : ∀ a ∈ w.tables.sess_list, ∀ b ∈ w.tables.sess_list, (w.mem a).mac = (w.mem b).mac → a = b
  range : ∀ a ∈ w.tables.sess_list, 1 ≤ (w.mem a).sid ∧ (w.mem a).sid ≤ w.cfg.max_sid

section
variable {w w' : World} {a : Addr}

theorem Listed.agree (h : Listed w) (hs : Sound w) : TablesAgree w where
  sid := by
    refine fun i a => ⟨hs.sid i a, ?_⟩
    rintro ⟨ha, rfl⟩
    exact h.sid a ha
  mac := by
    refine fun k a => ⟨hs.mac k a, ?_⟩
    rintro ⟨ha, rfl⟩
    exact h.mac a ha
  nodup := hs.nodup
  macNodup := hs.macNodup
  count := h.count
  sids := by
    intro a ha b hb heq
    have hab := h.sid a ha
    rw [heq, h.sid b hb] at hab
    exact (Option.some.inj hab).symm
  macs := h.macs
  range := h.range

/-- The indexes are read through the ids and addresses of the sessions, which stay. -/
theorem Listed.same (h : Listed w) (hc : w'.cfg = w.cfg) (hsid : w'.tables.sess_sid = w.tables.sess_sid)
    (hmac : w'.tables.sess_mac = w.tables.sess_mac)
    (hlist : w'.tables.sess_list = w.tables.sess_list) (hcount : w'.tables.count = w.tables.count)
    (hm : ∀ a ∈ w.tables.sess_list, (w'.mem a).sid = (w.mem a).sid ∧ (w'.mem a).mac = (w.mem a).mac) :
    Listed w' := by
  constructor
  · intro a ha
    rw [hlist] at ha
    rw [(hm a ha).1, hsid]
    exact h.sid a ha
  · intro a ha
    rw [hlist] at ha
    rw [(hm a ha).2, hmac]
    exact h.mac a ha
  · rw [hcount, hlist]
    exact h.count
  · intro a ha b hb
    rw [hlist] at ha hb
    rw [(hm a ha).2, (hm b hb).2]
    exact h.macs a ha b hb
  · intro a ha
    rw [hlist] at ha
    rw [(hm a ha).1, hc]
    exact h.range a ha

theorem Listed.enrol (h : Listed w) (hs : Sound w) {s : Session} {out : List Packet}
    (hn : Newcomer w a s) (hle : s.sid ≤ w.cfg.max_sid) : Listed (w.enrol a s out) := by
  have hent : Enters w a s.entry (w.enrol a s out) := hn.enters hs
  have hsid : ((w.enrol a s out).mem a).sid = s.sid := by rw [hent.life]; rfl
  have hmac : ((w.enrol a s out).mem a).mac = s.mac := by rw [hent.life]; rfl
  have hcases : ∀ b, b ∈ (w.enrol a s out).tables.sess_list → b ∈ w.tables.sess_list ∨ b = a := by
    intro b hb
    rw [hent.list] at hb
    simpa using hb
  -- a client that had no session is in none of the entries of its bucket
  have hfresh : ∀ b ∈ w.tables.sess_list, (w.mem b).mac ≠ s.mac := by
    intro b hb heq
    have hbucket := h.mac b hb
    rw [heq] at hbucket
    have := List.find?_eq_none.mp hn.mac b hbucket
    exact this (decide_eq_true heq)
  constructor
  · intro b hb
    simp only [World.enrol, World.register, Tables.register]
    rcases hcases b hb with hb | rfl
    · have hmem := hent.mem b hb
      simp only [World.enrol, World.register] at hmem
      rw [hmem, if_neg]
      · exact h.sid b hb
      · intro heq
        have hslot := hn.slot hle
        rw [← heq, h.sid b hb] at hslot
        cases hslot
    · exact if_pos hsid
  · intro b hb
    simp only [World.enrol, World.register, Tables.register]
    rcases hcases b hb with hb | rfl
    · have hmem := hent.mem b hb
      simp only [World.enrol, World.register] at hmem
      rw [hmem]
      split
      · exact List.mem_cons_of_mem _ (h.mac b hb)
      · exact h.mac b hb
    · simp
  · simp [World.enrol, World.register, Tables.register, h.count]
  · intro b hb c hc heq
    rcases hcases b hb with hb' | hba <;> rcases hcases c hc with hc' | hca
    · rw [hent.mem b hb', hent.mem c hc'] at heq
      exact h.macs b hb' c hc' heq
    · rw [hent.mem b hb', hca, hmac] at heq
      exact absurd heq (hfresh b hb')
    · rw [hent.mem c hc', hba, hmac] at heq
      exact absurd heq.symm (hfresh c hc')
    · rw [hba, hca]
  · intro b hb
    rw [show (w.enrol a s out).cfg = w.cfg from rfl]
    rcases hcases b hb with hb | rfl
    · rw [hent.mem b hb]
      exact h.range b hb
    · rw [hsid]
      exact ⟨Nat.one_le_iff_ne_zero.mpr hn.sid, hle⟩

theorem Listed.sessExit (h : Listed w) (hs : Sound w) (ha : a ∈ w.tables.sess_list) :
    Listed (w.sessExit a) := by
  have hmem : ∀ b, b ∈ w.tables.sess_list.erase a → b ≠ a ∧ b ∈ w.tables.sess_list :=
    fun b hb => hs.nodup.mem_erase_iff.mp hb
  have hkeep : ∀ b, b ∈ w.tables.sess_list.erase a → (w.sessExit a).mem b = w.mem b :=
    fun b hb => sessExit_mem_other (hmem b hb).1 fun hd => (hs.dead b hd).1 (hmem b hb).2
  have hcount : (w.sessExit a).tables.count = w.tables.count - 1 :=
    sessExit_read fun w => w.tables.count
  constructor
  · intro b hb
    rw [sessExit_list] at hb
    obtain ⟨hne, hb'⟩ := hmem b hb
    rw [hkeep b hb, sessExit_sess_sid]
    simp only [Tables.unregister]
    rw [if_neg]
    · exact h.sid b hb'
    · intro heq
      have hba := h.sid b hb'
      rw [heq, h.sid a ha] at hba
      exact hne (Option.some.inj hba).symm
  · intro b hb
    rw [sessExit_list] at hb
    obtain ⟨hne, hb'⟩ := hmem b hb
    rw [hkeep b hb, sessExit_sess_mac]
    simp only [Tables.unregister]
    split
    · exact (List.mem_erase_of_ne hne).mpr (h.mac b hb')
    · exact h.mac b hb'
  · rw [hcount, sessExit_list, h.count, List.length_erase_of_mem ha]
    have := List.length_pos_of_mem ha
    omega
  · intro b hb c hc
    rw [sessExit_list] at hb hc
    rw [hkeep b hb, hkeep c hc]
    exact h.macs b (hmem b hb).2 c (hmem c hc).2
  · intro b hb
    rw [sessExit_list] at hb
    rw [hkeep b hb, show (w.sessExit a).cfg = w.cfg from sessExit_read World.cfg]
    exact h.range b (hmem b hb).2

/-- A handler leaves the session who it is. -/
theorem Listed.store (h : Listed w) {g : Guard} {t : Trigger} {o : Oracle} {c : Ctx}
    (hr : Ran g w a t o c) : Listed (w.store a c) := by
  obtain ⟨hsid, hmac⟩ := hr.move.ids hr.fault
  refine h.same rfl rfl rfl rfl rfl fun b _ => ?_
  by_cases hb : b = a
  · subst hb
    have hself : (w.store b c).mem b = c.sess := Mem.set_same
    rw [hself]
    exact ⟨hsid, hmac⟩
  · have hother : (w.store a c).mem b = w.mem b := Mem.set_other hb
    rw [hother]
    exact ⟨rfl, rfl⟩

theorem listed_change (hs : Sound w) (h : Listed w) (hc : Change sidGuard w w') : Listed w' := by
  cases hc with
  | misc hm =>
    refine h.same hm.cfg ?_ ?_ ?_ ?_ fun b _ => ?_
    · rw [hm.tables]
    · rw [hm.tables]
    · rw [hm.tables]
    · rw [hm.tables]
    · rw [hm.mem]
      exact ⟨rfl, rfl⟩
  | @touch a s hl _ =>
    have hk := touch_kept hl
    exact h.same rfl rfl rfl rfl rfl fun b hb => ⟨by rw [hk.life b hb], by rw [hk.life b hb]⟩
  | @record a s l ha _ _ =>
    have hk := record_kept hs (s := s) (l := l) ha
    exact h.same rfl rfl rfl rfl rfl fun b hb => ⟨by rw [hk.life b hb], by rw [hk.life b hb]⟩
  | enrol hn ho _ =>
    refine h.enrol hs hn ?_
    cases ho with
    | client hsid => exact hsid
    | peer m hg hsid => exact hsid.elim (fun h => h ▸ hg) id
  | move hr _ => exact h.store hr
  | @exit a t o c hr _ =>
    -- the session is taken out whatever state it was left in
    have hs' : Sound (w.store a { c with sess := { c.sess with state := .DEAD } }) :=
      hr.sound_dead hs
    have h' : Listed (w.store a { c with sess := { c.sess with state := .DEAD } }) := by
      refine (h.store hr).same rfl rfl rfl rfl rfl fun b _ => ?_
      by_cases hb : b = a
      · subst hb
        simp [World.store]
      · simp [World.store, hb]
    rw [exit_dead]
    exact h'.sessExit hs' hr.mem
  | stray => exact h.same rfl rfl rfl rfl rfl fun _ _ => ⟨rfl, rfl⟩
  | stop => exact h.same rfl rfl rfl rfl rfl fun _ _ => ⟨rfl, rfl⟩
  | start => exact h.same rfl rfl rfl rfl rfl fun _ _ => ⟨rfl, rfl⟩

theorem run_listed {cfg : Config} {pool : Ippool} {status : BackupStatus}
    {xs : List (Event × Oracle)} (ho : Obeys step sidGuard.Meets (World.init cfg pool status) xs) :
    Sound (runEvents (World.init cfg pool status) xs) ∧
      Listed (runEvents (World.init cfg pool status) xs) := by
  have h0 : Listed (World.init cfg pool status) := by
    constructor <;> simp [World.init]
  exact runEvents_inv h0 (fun _ _ hs h hc => listed_change hs h hc) ho

/-- In every run in which the sessions that are registered from messages of the peer have ids
within the table, the indexes agree. -/
theorem tables_agree {cfg : Config} {pool : Ippool} {status : BackupStatus}
    {xs : List (Event × Oracle)} (ho : Obeys step sidGuard.Meets (World.init cfg pool status) xs) :
    TablesAgree (runEvents (World.init cfg pool status) xs) := by
  obtain ⟨hs, h⟩ := run_listed ho
  exact h.agree hs

end

/-- A client is set up, a session of the peer is taken over, the client leaves. -/
def tablesRun : List (Event × Oracle) :=
  [(.padr ⟨2, 0, 0, 0, 0, 1⟩ default true, { addr := 1 }),
    (.onlineSync { sid := 2, mac := ⟨2, 0, 0, 0, 0, 2⟩ }, { addr := 2 }),
    (.padt 1 ⟨2, 0, 0, 0, 0, 1⟩, {})]

theorem tables_agree_tablesRun : TablesAgree (runEvents (World.init { max_sid := 4 } {} .NONE) tablesRun) :=
  tables_agree (by decide +kernel)

/-- A peer with a larger table has a session beyond the end of this one. -/
theorem tables_beyond : ¬ TablesAgree (runEvents (World.init { max_sid := 100 } {} .STANDBY)
    [(.onlineSync { sid := 101, mac := ⟨2, 0, 0, 0, 0, 1⟩ }, { addr := 1 })]) := by
  intro h
  have hin : 1 ∈ (runEvents (World.init { max_sid := 100 } {} .STANDBY)
      [(.onlineSync { sid := 101, mac := ⟨2, 0, 0, 0, 0, 1⟩ }, { addr := 1 })]).tables.sess_list := by
    decide +kernel
  exact absurd (h.range 1 hin).2 (by decide +kernel)

end Pppoe
end DaemonGroup
