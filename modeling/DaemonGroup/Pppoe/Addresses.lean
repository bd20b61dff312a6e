import DaemonGroup.Lib.Hosts
import DaemonGroup.Pppoe.Invariant

/-!
# DaemonGroup.Pppoe.Addresses

Every client address is in use once. An address that IPCP takes from the pool has its slot and the
slot is given back when the session is freed. An address that comes from the peer is copied into
the session and takes no slot, so the pool can hand it out a second time.
-/

namespace DaemonGroup
namespace Pppoe

open Lib

/-- A session with an address has its slot in the pool, and no other session has the address. -/
structure AddressesHeld (w : World) : Prop where
  used : ∀ a ∈ w.tables.sess_list, (w.mem a).ipaddr.ip ≠ 0 →
    (w.pool.pool (ipaddrToIndex w.pool.startIP (w.mem a).ipaddr.ip).toNat).isSome
  unique : ∀ a ∈ w.tables.sess_list, ∀ b ∈ w.tables.sess_list, (w.mem a).ipaddr.ip ≠ 0 →
    (w.mem a).ipaddr.ip = (w.mem b).ipaddr.ip → a = b

/-- The sessions of the peer bring no address. -/
def addressGuard : Guard where
  online _ m := m.ipaddr.ip = 0

instance : addressGuard.Checks where
  run _ _ _ _ := inferInstanceAs (Decidable True)
  record _ _ := inferInstanceAs (Decidable True)
  online _ m := inferInstanceAs (Decidable (m.ipaddr.ip = 0))
  start _ := inferInstanceAs (Decidable True)

/-! ## The range of a pool -/

/-- The pool reaches from its first address to `maxIP`, both host addresses. -/
structure Ippool.Range (p : Ippool) (maxIP : UInt32) : Prop where
  start : IsHost p.startIP.toNat
  last : IsHost maxIP.toNat
  le : p.startIP ≤ maxIP
  total : p.totalNUM.toNat = hosts p.startIP.toNat maxIP.toNat + 1

/-- The bounds as `ippool_create` adjusts them. -/
def lowerIP (minIP : UInt32) : UInt32 :=
  if minIP &&& 0xff = 0 then minIP + 1 else if minIP &&& 0xff = 0xff then minIP + 2 else minIP

def upperIP (maxIP : UInt32) : UInt32 :=
  if maxIP &&& 0xff = 0 then maxIP - 2 else if maxIP &&& 0xff = 0xff then maxIP - 1 else maxIP

theorem low_eq {x n : UInt32} : x &&& 0xff = n ↔ x.toNat % 256 = n.toNat := by
  rw [← UInt32.toNat_inj, toNat_low]

theorem host_lowerIP (x : UInt32) : IsHost (lowerIP x).toNat := by
  have hlt := x.toNat_lt
  simp only [lowerIP, low_eq, IsHost]
  simp only [UInt32.reduceToNat]
  split_ifs
  · simp only [UInt32.toNat_add, UInt32.reduceToNat]
    omega
  · simp only [UInt32.toNat_add, UInt32.reduceToNat]
    omega
  · omega

theorem host_upperIP (x : UInt32) : IsHost (upperIP x).toNat := by
  have hlt := x.toNat_lt
  simp only [upperIP, low_eq, IsHost]
  simp only [UInt32.reduceToNat]
  split_ifs
  · simp only [UInt32.toNat_sub, UInt32.reduceToNat]
    omega
  · simp only [UInt32.toNat_sub, UInt32.reduceToNat]
    omega
  · omega

theorem ippoolCreate_eq (minIP maxIP : UInt32) (dns1 dns2 : Nat) :
    ippoolCreate minIP maxIP dns1 dns2 =
      if lowerIP minIP > upperIP maxIP then none
      else some
        { startIP := lowerIP minIP
          totalNUM := ippoolTotal (lowerIP minIP) (upperIP maxIP)
          dns1 := dns1
          dns2 := dns2 } := rfl

theorem ippoolCreate_empty {minIP maxIP : UInt32} {dns1 dns2 : Nat} {p : Ippool}
    (h : ippoolCreate minIP maxIP dns1 dns2 = some p) (i : Nat) : p.pool i = none := by
  rw [ippoolCreate_eq] at h
  split at h
  · cases h
  · cases h
    rfl

theorem ippoolCreate_range {minIP maxIP : UInt32} {dns1 dns2 : Nat} {p : Ippool}
    (h : ippoolCreate minIP maxIP dns1 dns2 = some p) :
    p.startIP = lowerIP minIP ∧ p.Range (upperIP maxIP) := by
  have hlo := host_lowerIP minIP
  have hup := host_upperIP maxIP
  rw [ippoolCreate_eq] at h
  generalize lowerIP minIP = lo at h hlo
  generalize upperIP maxIP = up at h hup
  split at h
  · cases h
  rename_i hle
  have hle : lo ≤ up := UInt32.not_lt.mp hle
  cases h
  refine ⟨rfl, hlo, hup, hle, ?_⟩
  have hcount := hosts_toNat hlo hup hle
  have hbound : hosts lo.toNat up.toNat < 4294967295 := by
    have := up.toNat_lt
    have := hlo.1
    unfold hosts
    omega
  have hcomm : ippoolTotal lo up = up - lo - ((up >>> 8) - (lo >>> 8)) * 2 + 1 := by
    rw [ippoolTotal]
    grind
  rw [hcomm, UInt32.toNat_add, hcount]
  simp only [UInt32.reduceToNat]
  omega

theorem indexToIpaddr_toNat {lo i : UInt32} {up : Nat} (hl : IsHost lo.toNat) (hu : IsHost up)
    (hle : lo.toNat ≤ up) (hlt : up < 4294967296) (hi : i.toNat ≤ hosts lo.toNat up) :
    (indexToIpaddr lo i).toNat = hostAt lo.toNat i.toNat := by
  obtain ⟨hle', -⟩ := hostAt_spec hl hu hle hi
  have hn : (i / 0xfe).toNat = i.toNat / 254 := by rw [UInt32.toNat_div]; rfl
  have hr : (i - i / 0xfe * 0xfe).toNat = i.toNat % 254 := by
    have hm : (i / 0xfe * 0xfe).toNat = i.toNat / 254 * 254 := by
      rw [UInt32.toNat_mul, hn]
      simp only [UInt32.reduceToNat]
      have := i.toNat_lt
      omega
    rw [UInt32.toNat_sub_of_le, hm]
    · omega
    · rw [UInt32.le_iff_toNat_le, hm]
      omega
  have hc : (i - i / 0xfe * 0xfe + (lo &&& 0xff) ≥ 0xff) ↔
      255 ≤ i.toNat % 254 + lo.toNat % 256 := by
    rw [ge_iff_le, UInt32.le_iff_toNat_le, UInt32.toNat_add, hr, toNat_low]
    simp only [UInt32.reduceToNat]
    omega
  rw [hostAt] at hle' ⊢
  rw [indexToIpaddr]
  split_ifs with h₁ h₂ h₂
  · rw [if_pos h₂] at hle'
    simp only [UInt32.toNat_add, toNat_up, hn, hr, UInt32.reduceToNat]
    omega
  · exact absurd (hc.mp h₁) h₂
  · exact absurd (hc.mpr h₂) h₁
  · rw [if_neg h₂] at hle'
    simp only [UInt32.toNat_add, toNat_up, hn, hr]
    omega

/-- The address of a slot is not zero, and its slot is that slot. -/
theorem Ippool.Range.index {p : Ippool} {m i : UInt32} (h : p.Range m) (hi : i < p.totalNUM) :
    indexToIpaddr p.startIP i ≠ 0 ∧
      ipaddrToIndex p.startIP (indexToIpaddr p.startIP i) = i := by
  have hi' : i.toNat ≤ hosts p.startIP.toNat m.toNat := by
    have := UInt32.lt_iff_toNat_lt.mp hi
    rw [h.total] at this
    omega
  have hle := UInt32.le_iff_toNat_le.mp h.le
  have hip := indexToIpaddr_toNat h.start h.last hle m.toNat_lt hi'
  obtain ⟨-, hhost, hge, hsteps⟩ := hostAt_spec h.start h.last hle hi'
  rw [← hip] at hhost hge hsteps
  constructor
  · intro h0
    rw [h0] at hhost
    exact absurd hhost.1 (by decide)
  · rw [← UInt32.toNat_inj, ipaddrToIndex,
      hosts_toNat h.start hhost (UInt32.le_iff_toNat_le.mpr hge), hsteps]

/-! ## Applying for an address -/

theorem ippoolGetFreeIndex_free {p : Ippool} (h : ippoolGetFreeIndex p < p.totalNUM) :
    p.pool (ippoolGetFreeIndex p).toNat = none := by
  rw [ippoolGetFreeIndex] at h ⊢
  cases hf : (List.range p.totalNUM.toNat).find? fun i => p.pool i = none with
  | none =>
    rw [hf] at h
    exact absurd h (UInt32.lt_irrefl _)
  | some i =>
    have hm := List.mem_of_find?_eq_some hf
    have hn := List.find?_some hf
    have hlt := p.totalNUM.toNat_lt
    rw [List.mem_range] at hm
    have hi : (UInt32.ofNat i).toNat = i := by
      rw [UInt32.toNat_ofNat']
      omega
    simp only [hi]
    simpa using hn

/-- The session at `a` has the slot of the address it has. -/
def Ippool.Holds (p : Ippool) (a : Addr) (ip : UInt32) : Prop :=
  ip ≠ 0 → p.pool (ipaddrToIndex p.startIP ip).toNat = some a

theorem Ippool.Keeps.holds {p p' : Ippool} {b : Addr} {ip : UInt32} (h : Ippool.Keeps b p p')
    (hh : p.Holds b ip) : p'.Holds b ip := by
  intro h0
  rw [h.startIP]
  exact h.slot _ (hh h0)

theorem Ippool.Range.keep {p p' : Ippool} {m : UInt32} (h : p.Range m)
    (hs : p'.startIP = p.startIP) (ht : p'.totalNUM = p.totalNUM) : p'.Range m :=
  ⟨hs ▸ h.start, h.last, hs ▸ h.le, by rw [hs, ht]; exact h.total⟩

theorem ApplyStep.spec {a : Addr} {x y : Ippool × IpaddrStruct} {m : UInt32}
    (h : ApplyStep a x y) (hr : x.1.Range m) :
    y.1.Range m ∧ y.1.Holds a y.2.ip ∧ ∀ b, b ≠ a → Ippool.Keeps b x.1 y.1 := by
  obtain ⟨h0, happ⟩ := h
  rw [ipaddrApply] at happ
  simp only [h0, ne_eq, not_true_eq_false, if_false] at happ
  split at happ
  · cases congrArg Prod.fst happ
  rename_i hlt
  have hlt : ippoolGetFreeIndex x.1 < x.1.totalNUM := UInt32.not_le.mp hlt
  obtain ⟨hne, hidx⟩ := hr.index hlt
  obtain ⟨y₁, y₂⟩ := y
  simp only [Prod.mk.injEq, true_and] at happ
  obtain ⟨rfl, rfl⟩ := happ
  refine ⟨hr.keep rfl rfl, fun _ => ?_, fun b hb => ⟨rfl, rfl, fun i hi => ?_⟩⟩
  · show Ippool.pool (x.1.setSlot _ _) _ = _
    rw [show (x.1.setSlot (ippoolGetFreeIndex x.1).toNat (some a)).startIP = x.1.startIP from rfl,
      hidx]
    simp [Ippool.setSlot]
  · have hi' : i ≠ (ippoolGetFreeIndex x.1).toNat := by
      rintro rfl
      rw [ippoolGetFreeIndex_free hlt] at hi
      cases hi
    simpa [Ippool.setSlot, hi'] using hi

theorem applies_spec {a : Addr} {x y : Ippool × IpaddrStruct} {m : UInt32}
    (h : Relation.ReflTransGen (ApplyStep a) x y) (hr : x.1.Range m) (hh : x.1.Holds a x.2.ip) :
    y.1.Range m ∧ y.1.Holds a y.2.ip ∧ ∀ b, b ≠ a → Ippool.Keeps b x.1 y.1 := by
  induction h with
  | refl => exact ⟨hr, hh, fun _ _ => .refl⟩
  | tail _ hstep ih =>
    obtain ⟨hr', -, hk⟩ := ih
    obtain ⟨hr'', hh'', hk'⟩ := hstep.spec hr'
    exact ⟨hr'', hh'', fun b hb => (hk b hb).trans (hk' b hb)⟩

/-- Whatever happens to a session, its address changes only when it applies for one. -/
theorem Move.applies {t : Trigger} {e : Env} {c : Ctx} {v : View} (h : Move t e c v)
    (hv : v.fault = false) :
    ∃ y, Relation.ReflTransGen (ApplyStep e.self) (c.pool, c.sess.ipaddr) y ∧ v.pool = y.1 ∧
      v.life.ipaddr = y.2 := by
  have hsame : ∀ {v : View}, v.pool = c.pool → v.life.ipaddr = c.sess.ipaddr →
      ∃ y, Relation.ReflTransGen (ApplyStep e.self) (c.pool, c.sess.ipaddr) y ∧ v.pool = y.1 ∧
        v.life.ipaddr = y.2 :=
    fun hp hi => ⟨_, .refl, hp, hi⟩
  have hclean : c.view.clean.pool = c.pool ∧ c.view.clean.life.ipaddr = c.sess.ipaddr := by
    rw [View.clean]
    split <;> exact ⟨rfl, rfl⟩
  cases h with
  | idle | preopen | postopen | authpre | standby | sync | retransmit | lost | misfit | disconnect =>
    exact hsame rfl rfl
  | opened | exitOpened | online | exitStopped | settled => exact hsame hclean.1 hclean.2
  | authpost _ _ _ ha | onlinepost _ _ ha | offlinepost _ _ ha =>
    exact hsame ha.frame.pool ha.frame.ipaddr
  | exitAuth _ _ _ ha | exitOnline _ _ ha | stuck _ _ _ ha | exitOffline _ _ _ ha =>
    exact hsame ha.frame.pool ha.frame.ipaddr
  | update _ ha => rcases ha with ha | ha <;> exact hsame ha.frame.pool ha.frame.ipaddr
  | clear _ _ ha => rcases ha with ha | ha <;> exact hsame ha.frame.pool ha.frame.ipaddr
  | address _ ha | onlinepre _ ha | exit _ _ ha =>
    obtain ⟨y, hy, rfl⟩ := ha
    exact ⟨y, hy, rfl, rfl⟩
  | faulty h => rw [h] at hv; cases hv

/-! ## The invariant -/

/-- The pool as it was set up, and every session with the slot of its address. -/
def PoolInv (m : UInt32) (w : World) : Prop :=
  w.pool.Range m ∧ ∀ a ∈ w.tables.sess_list, w.pool.Holds a (w.mem a).ipaddr.ip

theorem PoolInv.held {m : UInt32} {w : World} (h : PoolInv m w) : AddressesHeld w where
  used := by
    intro a ha h0
    rw [h.2 a ha h0]
    rfl
  unique := by
    intro a ha b hb h0 heq
    have hslot := h.2 a ha h0
    rw [heq, h.2 b hb (heq ▸ h0)] at hslot
    exact (Option.some.inj hslot).symm

theorem poolInv (m : UInt32) : Invariant addressGuard (PoolInv m) where
  kept := by
    intro w w' _ h hk
    refine ⟨hk.pool ▸ h.1, fun a ha => ?_⟩
    rw [hk.list] at ha
    rw [hk.pool, hk.life a ha]
    exact h.2 a ha
  enters := by
    intro w w' a s _ h _ ho _ he
    refine ⟨he.pool ▸ h.1, fun b hb => ?_⟩
    rw [he.list, List.mem_append, List.mem_singleton] at hb
    rw [he.pool]
    rcases hb with hb | rfl
    · rw [he.mem b hb]
      exact h.2 b hb
    · rw [he.life]
      refine fun h0 => absurd ?_ h0
      cases ho with
      | client _ hip => exact congrArg IpaddrStruct.ip hip
      | peer m hg _ _ hip => exact (congrArg IpaddrStruct.ip hip).trans hg
  moves := by
    intro w w' a t o v _ h ha _ _ hm hf _ hmv
    obtain ⟨y, hy, hp, hi⟩ := hm.applies hf
    obtain ⟨hr, hh, hk⟩ := applies_spec hy h.1 (h.2 a ha)
    refine ⟨hmv.pool ▸ hp ▸ hr, fun b hb => ?_⟩
    rw [hmv.list] at hb
    rw [hmv.pool, hp]
    by_cases hba : b = a
    · rw [hba, hmv.life, hi]
      exact hh
    · rw [hmv.mem b hba]
      exact (hk b hba).holds (h.2 b hb)
  leaves := by
    intro w w' a t o v hs h ha _ _ hm hf _ hlv
    obtain ⟨y, hy, hp, hi⟩ := hm.applies hf
    obtain ⟨hr, hh, hk⟩ := applies_spec hy h.1 (h.2 a ha)
    refine ⟨?_, fun b hb => ?_⟩
    · exact hr.keep (hp ▸ hlv.startIP) (hp ▸ hlv.totalNUM)
    · obtain ⟨hb', hne⟩ := (hlv.list b).mp hb
      rw [hlv.mem b hb' hne]
      refine (hlv.pool b hb' hne).holds ?_
      rw [hp]
      exact (hk b hne).holds (h.2 b hb')
  stray := fun _ h _ _ _ => h
  start := fun _ h _ => h

/-- In every run in which the sessions registered from messages of the peer bring no address,
every address is held once. -/
theorem addresses_held {minIP maxIP : UInt32} {dns1 dns2 : Nat} {cfg : Config} {pool : Ippool}
    {status : BackupStatus} {xs : List (Event × Oracle)}
    (hp : ippoolCreate minIP maxIP dns1 dns2 = some pool)
    (ho : Obeys step addressGuard.Meets (World.init cfg pool status) xs) :
    AddressesHeld (runEvents (World.init cfg pool status) xs) := by
  obtain ⟨-, hr⟩ := ippoolCreate_range hp
  have h0 : PoolInv (upperIP maxIP) (World.init cfg pool status) := ⟨hr, fun a ha => by cases ha⟩
  exact ((poolInv _).run h0 ho).2.held

theorem addresses_held_login :
    AddressesHeld (runEvents (World.init sampleCfg samplePool .NONE) sampleLogin) :=
  have hp : ippoolCreate 0x0a010101 0x0a0101fe 0 0 = some samplePool := rfl
  addresses_held hp (by decide +kernel)

/-- A standby learns of a session that is online, takes over, and gives the session's address to the
next client. -/
def takeoverRun : List (Event × Oracle) :=
  [(.onlineSync { sid := 2, mac := ⟨2, 0, 0, 0, 0, 2⟩, ipaddr := { ip := 0x0a010101 } }, { addr := 2 }),
    (.kernel (.authorize 2 0x0a010101 0), sampleOracle),
    (.restart .ACTIVE, sampleOracle)] ++ sampleLogin

theorem address_held_twice :
    ¬ AddressesHeld (runEvents (World.init sampleCfg samplePool .STANDBY) takeoverRun) := by
  intro h
  have h1 : 1 ∈ (runEvents (World.init sampleCfg samplePool .STANDBY) takeoverRun).tables.sess_list := by
    decide +kernel
  have h2 : 2 ∈ (runEvents (World.init sampleCfg samplePool .STANDBY) takeoverRun).tables.sess_list := by
    decide +kernel
  exact absurd (h.unique 1 h1 2 h2 (by decide +kernel) (by decide +kernel)) (by decide)

end Pppoe
end DaemonGroup
