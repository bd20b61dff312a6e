import DaemonGroup.Eag.PortalProc
import Mathlib.Algebra.Order.Ring.Nat

/-!
# DaemonGroup.Eag.PortalIds

The request ids that `portal_detect_unique_reqid` hands out with challenges. The search starts behind the id
that was handed out last and ends before it, so that this id is never tried: the result is free exactly if some
id other than the last one is free (`Portal.reqid_free_iff`).

* `searchReqid` — the loop with the end condition of the source. It comes to an end, and it is the search
  through all ids but the last one (`searchReqid_eq`).
-/

namespace DaemonGroup
namespace Eag

open Lib

namespace Portal

section
variable {P : Portal} {mask x y id : UInt16} {n : Nat}

/-- The bits of an id that count. -/
def reqidMask (P : Portal) : UInt16 := if P.conf.pdc_distributed then 0xfff else 0xffff

/-- The loop of `portal_detect_unique_reqid` with its own end condition; `none` is a loop that has not ended
after `fuel` rounds. -/
def searchReqid (P : Portal) (mask prev : UInt16) : Nat → UInt16 → Option (Option UInt16)
  | 0, _ => none
  | fuel + 1, reqid =>
    if reqid &&& mask = prev &&& mask then some none
    else if reqid ≠ 0 ∧ !P.reqidIsUsed mask reqid then some (some reqid)
    else P.searchReqid mask prev fuel ((reqid + 1) &&& mask)

/-- An id that is not zero and that no session with a challenge has. -/
def FreeId (P : Portal) (mask id : UInt16) : Prop := id &&& mask ≠ 0 ∧ P.reqidIsUsed mask id = false

/-- The mask is that of the low bits: 12 of them or all. -/
def LowBits (mask : UInt16) : Prop := mask = 0xfff ∨ mask = 0xffff

theorem lowBits_reqidMask : LowBits P.reqidMask := by
  rw [reqidMask]
  split
  · exact .inl rfl
  · exact .inr rfl

theorem LowBits.size (hm : LowBits mask) : mask.toNat + 1 = 4096 ∨ mask.toNat + 1 = 65536 := by
  obtain rfl | rfl := hm
  · exact .inl rfl
  · exact .inr rfl

theorem LowBits.toNat_and (hm : LowBits mask) : (x &&& mask).toNat = x.toNat % (mask.toNat + 1) := by
  rw [UInt16.toNat_and]
  obtain rfl | rfl := hm
  · exact Nat.and_two_pow_sub_one_eq_mod x.toNat 12
  · exact Nat.and_two_pow_sub_one_eq_mod x.toNat 16

theorem LowBits.and_eq_iff (hm : LowBits mask) :
    x &&& mask = y &&& mask ↔ x.toNat % (mask.toNat + 1) = y.toNat % (mask.toNat + 1) := by
  rw [← UInt16.toNat_inj, hm.toNat_and, hm.toNat_and]

theorem LowBits.and_and (hm : LowBits mask) : x &&& mask &&& mask = x &&& mask := by
  rw [hm.and_eq_iff, hm.toNat_and, Nat.mod_mod]

/-- The id that is `k` places behind `x`. -/
theorem LowBits.add_and (hm : LowBits mask) (k : Nat) :
    ((x &&& mask) + UInt16.ofNat k) &&& mask = (x + UInt16.ofNat k) &&& mask := by
  rw [hm.and_eq_iff]
  simp only [UInt16.toNat_add, hm.toNat_and, UInt16.toNat_ofNat']
  obtain hs | hs := hm.size <;> rw [hs] <;> omega

theorem reqidIsUsed_congr (h : x &&& mask = y &&& mask) : P.reqidIsUsed mask x = P.reqidIsUsed mask y := by
  simp only [reqidIsUsed, h]

theorem FreeId.congr (h : x &&& mask = y &&& mask) : P.FreeId mask x ↔ P.FreeId mask y := by
  rw [FreeId, FreeId, h, reqidIsUsed_congr h]

theorem LowBits.succ_and (hm : LowBits mask) (k : Nat) :
    (((x + 1) &&& mask) + UInt16.ofNat k) &&& mask = (x + UInt16.ofNat (k + 1)) &&& mask := by
  rw [hm.add_and, UInt16.ofNat_add, UInt16.add_comm (UInt16.ofNat k), ← UInt16.add_assoc]
  rfl

/-- What the search gives is free, and it is one of the ids that the search goes through. -/
theorem detectReqid_some (hm : LowBits mask) (hx : x &&& mask = x) (hd : P.detectReqid mask n x = some id) :
    P.FreeId mask id ∧ id &&& mask = id ∧ ∃ k < n, id &&& mask = (x + UInt16.ofNat k) &&& mask := by
  induction n generalizing x with
  | zero => cases hd
  | succ n ih =>
    rw [detectReqid] at hd
    split at hd
    · rename_i hfree
      cases hd
      exact ⟨⟨by rw [hx]; exact hfree.1, by simpa using hfree.2⟩, hx, 0, Nat.succ_pos n, by simp⟩
    · obtain ⟨hfree, hid, k, hk, hsame⟩ := ih hm.and_and hd
      exact ⟨hfree, hid, k + 1, Nat.succ_lt_succ hk, by rw [hsame, hm.succ_and]⟩

/-- If the search gives nothing, none of the ids it goes through is free. -/
theorem detectReqid_none (hm : LowBits mask) (hx : x &&& mask = x) (hd : P.detectReqid mask n x = none)
    {k : Nat} (hk : k < n) : ¬ P.FreeId mask (x + UInt16.ofNat k) := by
  induction n generalizing x k with
  | zero => cases hk
  | succ n ih =>
    rw [detectReqid] at hd
    split at hd
    · cases hd
    · rename_i hnot
      cases k with
      | zero =>
        intro hfree
        have hzero : x + UInt16.ofNat 0 = x := by simp
        rw [hzero] at hfree
        exact hnot ⟨by rw [← hx]; exact hfree.1, by simpa using hfree.2⟩
      | succ k =>
        rw [FreeId.congr (hm.succ_and k).symm]
        exact ih hm.and_and hd (Nat.lt_of_succ_lt_succ hk)

/-- Every id but the last one is one of those the search goes through. -/
theorem LowBits.reached (hm : LowBits mask) {prev : UInt16} (hne : id &&& mask ≠ prev &&& mask) :
    ∃ k < mask.toNat, (((prev + 1) &&& mask) + UInt16.ofNat k) &&& mask = id &&& mask := by
  have hne' : id.toNat % (mask.toNat + 1) ≠ prev.toNat % (mask.toNat + 1) := fun h =>
    hne (hm.and_eq_iff.mpr h)
  refine ⟨(id.toNat + 65536 - (prev.toNat + 1)) % (mask.toNat + 1), ?_, ?_⟩
  · have hi := id.toNat_lt
    have hp := prev.toNat_lt
    obtain hs | hs := hm.size <;> rw [hs] at hne' ⊢ <;> omega
  · rw [hm.add_and, hm.and_eq_iff]
    simp only [UInt16.toNat_add, UInt16.toNat_ofNat', UInt16.toNat_one]
    have hi := id.toNat_lt
    have hp := prev.toNat_lt
    obtain hs | hs := hm.size <;> rw [hs] <;> omega

/-- The loop comes to an end, with what the search through all ids but the last one gives. -/
theorem searchReqid_eq (hm : LowBits mask) {prev : UInt16} (hx : x &&& mask = x) (hn : n ≤ mask.toNat)
    (hend : (x + UInt16.ofNat n) &&& mask = prev &&& mask)
    (hpath : ∀ k < n, (x + UInt16.ofNat k) &&& mask ≠ prev &&& mask) {fuel : Nat} (hfuel : n < fuel) :
    P.searchReqid mask prev fuel x = some (P.detectReqid mask n x) := by
  induction n generalizing x fuel with
  | zero =>
    obtain ⟨fuel, rfl⟩ : ∃ f, fuel = f + 1 := ⟨fuel - 1, by omega⟩
    have hzero : x + UInt16.ofNat 0 = x := by simp
    rw [hzero] at hend
    rw [searchReqid, if_pos hend, detectReqid]
  | succ n ih =>
    obtain ⟨fuel, rfl⟩ : ∃ f, fuel = f + 1 := ⟨fuel - 1, by omega⟩
    have hfirst : ¬ x &&& mask = prev &&& mask := by
      have := hpath 0 (Nat.succ_pos n)
      simpa using this
    rw [searchReqid, if_neg hfirst, detectReqid]
    split
    · rfl
    · refine ih hm.and_and (Nat.le_of_succ_le hn) ?_ (fun k hk => ?_) (Nat.lt_of_succ_lt_succ hfuel)
      · rw [hm.succ_and]
        exact hend
      · rw [hm.succ_and]
        exact hpath (k + 1) (Nat.succ_lt_succ hk)

/-- The id that is kept as the last one. -/
def nextReqid (P : Portal) : UInt16 :=
  let next := (P.prev_reqid + 1) &&& P.reqidMask
  (P.detectReqid P.reqidMask P.reqidMask.toNat next).getD (if next = 0 then 1 else next)

/-- The id that is handed out. -/
def givenReqid (P : Portal) : UInt16 :=
  if P.conf.pdc_distributed then P.conf.hansi_id <<< 12 ||| P.nextReqid else P.nextReqid

theorem detectUniqueReqid_eq : detectUniqueReqid P = some (P.givenReqid, { P with prev_reqid := P.nextReqid }) := rfl

theorem nextReqid_and : P.nextReqid &&& P.reqidMask = P.nextReqid := by
  have hm := lowBits_reqidMask (P := P)
  rw [nextReqid]
  cases hd : P.detectReqid P.reqidMask P.reqidMask.toNat ((P.prev_reqid + 1) &&& P.reqidMask) with
  | some id => exact (detectReqid_some hm hm.and_and hd).2.1
  | none =>
    simp only [Option.getD_none]
    split
    · obtain hm | hm := hm <;> rw [hm] <;> rfl
    · exact hm.and_and

/-- The id of the instance stands in front of the twelve bits. -/
theorem hansi_toNat {hansi r : UInt16} (hh : hansi.toNat < 16) (hr : r.toNat < 4096) :
    (hansi <<< 12 ||| r).toNat = hansi.toNat * 4096 + r.toNat := by
  rw [UInt16.toNat_or, UInt16.toNat_shiftLeft]
  have hshift : hansi.toNat <<< ((12 : UInt16).toNat % 16) % 2 ^ 16 = 2 ^ 12 * hansi.toNat := by
    rw [show (12 : UInt16).toNat % 16 = 12 from rfl, Nat.shiftLeft_eq]
    omega
  rw [hshift, ← Nat.two_pow_add_eq_or_of_lt (by omega)]
  omega

theorem hansi_and {hansi r : UInt16} : (hansi <<< 12 ||| r) &&& 0xfff = r &&& 0xfff := by
  have hm : LowBits 0xfff := .inl rfl
  rw [hm.and_eq_iff, UInt16.toNat_or, UInt16.toNat_shiftLeft,
    show (0xfff : UInt16).toNat + 1 = 2 ^ 12 from rfl, Nat.or_mod_two_pow]
  have hzero : hansi.toNat <<< ((12 : UInt16).toNat % 16) % 2 ^ 16 % 2 ^ 12 = 0 := by
    rw [show (12 : UInt16).toNat % 16 = 12 from rfl, Nat.shiftLeft_eq]
    omega
  rw [hzero, Nat.zero_or]

theorem givenReqid_and : P.givenReqid &&& P.reqidMask = P.nextReqid &&& P.reqidMask := by
  rw [givenReqid, reqidMask]
  split
  · exact hansi_and
  · rfl

/-- Instances with different ids hand out different request ids. -/
theorem givenReqid_ne {Q : Portal} (hP : P.conf.pdc_distributed = true) (hQ : Q.conf.pdc_distributed = true)
    (hp : P.conf.hansi_id.toNat < 16) (hq : Q.conf.hansi_id.toNat < 16)
    (hne : P.conf.hansi_id ≠ Q.conf.hansi_id) : P.givenReqid ≠ Q.givenReqid := by
  have hlow : ∀ R : Portal, R.conf.pdc_distributed = true → R.nextReqid.toNat < 4096 := by
    intro R hR
    have hand := congrArg UInt16.toNat (nextReqid_and (P := R))
    rw [lowBits_reqidMask.toNat_and, reqidMask, if_pos hR, show (0xfff : UInt16).toNat + 1 = 4096 from rfl] at hand
    omega
  intro heq
  have hnat := congrArg UInt16.toNat heq
  rw [givenReqid, givenReqid, if_pos hP, if_pos hQ, hansi_toNat hp (hlow P hP), hansi_toNat hq (hlow Q hQ)] at hnat
  have hlp := hlow P hP
  have hlq := hlow Q hQ
  exact hne (UInt16.toNat_inj.mp (by omega))

/-- What is said of the ids: the search ends and gives a free id if there is one, and instances with different
ids hand out different ones. -/
def HandsOut (P : Portal) : Prop :=
  (∃ fuel r, P.searchReqid P.reqidMask P.prev_reqid fuel ((P.prev_reqid + 1) &&& P.reqidMask) = some r) ∧
  ∃ reqid P', detectUniqueReqid P = some (reqid, P') ∧
    ((∃ id, P.FreeId P.reqidMask id) → P.FreeId P.reqidMask reqid) ∧
    ∀ Q reqid' Q', detectUniqueReqid Q = some (reqid', Q') → P.conf.pdc_distributed = true →
      Q.conf.pdc_distributed = true → P.conf.hansi_id.toNat < 16 → Q.conf.hansi_id.toNat < 16 →
      P.conf.hansi_id ≠ Q.conf.hansi_id → reqid ≠ reqid'

/-- The search ends at the last id, and not before. -/
theorem LowBits.path_end (hm : LowBits mask) {prev : UInt16} :
    (((prev + 1) &&& mask) + UInt16.ofNat mask.toNat) &&& mask = prev &&& mask := by
  rw [hm.add_and, hm.and_eq_iff]
  simp only [UInt16.toNat_add, UInt16.toNat_ofNat', UInt16.toNat_one]
  obtain hs | hs := hm.size <;> rw [hs] <;> omega

theorem LowBits.path_ne (hm : LowBits mask) {prev : UInt16} {k : Nat} (hk : k < mask.toNat) :
    (((prev + 1) &&& mask) + UInt16.ofNat k) &&& mask ≠ prev &&& mask := by
  rw [hm.add_and, ne_eq, hm.and_eq_iff]
  simp only [UInt16.toNat_add, UInt16.toNat_ofNat', UInt16.toNat_one]
  obtain hs | hs := hm.size <;> rw [hs] <;> omega

theorem searchReqid_ends : ∃ fuel r,
    P.searchReqid P.reqidMask P.prev_reqid fuel ((P.prev_reqid + 1) &&& P.reqidMask) = some r := by
  have hm := lowBits_reqidMask (P := P)
  exact ⟨P.reqidMask.toNat + 1, _, searchReqid_eq hm hm.and_and (Nat.le_refl _) hm.path_end
    (fun k hk => hm.path_ne hk) (Nat.lt_succ_self _)⟩

/-- What is handed out is free exactly if an id other than the last one is. -/
theorem givenReqid_free : P.FreeId P.reqidMask P.givenReqid ↔
    ∃ id, P.FreeId P.reqidMask id ∧ id &&& P.reqidMask ≠ P.prev_reqid &&& P.reqidMask := by
  have hm := lowBits_reqidMask (P := P)
  rw [FreeId.congr givenReqid_and]
  cases hd : P.detectReqid P.reqidMask P.reqidMask.toNat ((P.prev_reqid + 1) &&& P.reqidMask) with
  | some id =>
    have hnext : P.nextReqid = id := by simp [nextReqid, hd]
    obtain ⟨hfree, -, k, hk, hsame⟩ := detectReqid_some hm hm.and_and hd
    rw [hnext]
    exact ⟨fun _ => ⟨id, hfree, hsame ▸ hm.path_ne hk⟩, fun _ => hfree⟩
  | none =>
    have hnone := fun k (hk : k < P.reqidMask.toNat) => detectReqid_none hm hm.and_and hd hk
    have hsize : 2 ≤ P.reqidMask.toNat := by
      obtain hs | hs := hm.size <;> omega
    constructor
    · -- without a free id the next one is taken, which the search has gone through
      intro hfree
      have hnext : P.nextReqid = if (P.prev_reqid + 1) &&& P.reqidMask = 0 then 1
          else (P.prev_reqid + 1) &&& P.reqidMask := by simp [nextReqid, hd]
      rw [hnext] at hfree
      split at hfree
      · rename_i hzero
        refine absurd ?_ (hnone 1 (by omega))
        rw [hzero]
        exact hfree
      · refine absurd ?_ (hnone 0 (by omega))
        simpa using hfree
    · rintro ⟨id, hfree, hne⟩
      obtain ⟨k, hk, hsame⟩ := hm.reached hne
      exact absurd ((FreeId.congr hsame).mpr hfree) (hnone k hk)

/-- The ids that are handed out are as they should be exactly if the last one is not the only one that is
free. -/
theorem reqid_free_iff (P : Portal) : P.HandsOut ↔ ((∃ id, P.FreeId P.reqidMask id) →
    ∃ id, P.FreeId P.reqidMask id ∧ id &&& P.reqidMask ≠ P.prev_reqid &&& P.reqidMask) := by
  constructor
  · rintro ⟨-, reqid, P', hgiven, hfree, -⟩ hsome
    rw [detectUniqueReqid_eq] at hgiven
    cases hgiven
    exact givenReqid_free.mp (hfree hsome)
  · intro hother
    refine ⟨searchReqid_ends, P.givenReqid, _, detectUniqueReqid_eq, fun hsome => ?_, ?_⟩
    · exact givenReqid_free.mpr (hother hsome)
    · intro Q reqid' Q' hQ hdp hdq hp hq hne
      rw [detectUniqueReqid_eq] at hQ
      cases hQ
      exact givenReqid_ne hdp hdq hp hq hne

/-- The session of the user `k`, who has got the challenge with the id `k`. -/
def crowdSess (k : Nat) : PortalSess :=
  { user_addr := ⟨EAG_IPV4, UInt32.ofNat k, .zero⟩, status := .SESS_STATUS_CHALLENGED, reqid := UInt16.ofNat k
    t_timeout := some (.SESS_CHALLENGED_TIMEOUT, 15) }

/-- Each of the users has asked for a challenge. -/
def crowd : List Nat → SessTable
  | [] => {}
  | k :: l => ((crowd l).portalSessNew (crowdSess k).user_addr).setSess (crowd l).brk (crowdSess k)

/-- The tables have a session for each of the users, and no others. -/
theorem crowd_spec {l : List Nat} (hl : l.Nodup) (hlt : ∀ k ∈ l, k < 4294967296) :
    (crowd l).Sound ∧ (∀ m s, (crowd l).sess m = some s → ∃ k ∈ l, s = crowdSess k) ∧
      ∀ k ∈ l, ∃ m ∈ (crowd l).sess_head, (crowd l).sess m = some (crowdSess k) := by
  induction l with
  | nil => exact ⟨SessTable.sound_empty, by simp [crowd], by simp⟩
  | cons k l ih =>
    obtain ⟨hsound, hall, hhas⟩ := ih (List.nodup_cons.mp hl).2 fun j hj => hlt j (List.mem_cons_of_mem k hj)
    have hno : ∀ m s, (crowd l).sess m = some s → ¬ (crowdSess k).user_addr.Meets s.user_addr := by
      intro m s hs hmeet
      obtain ⟨j, hj, rfl⟩ := hall m s hs
      obtain ⟨-, -, heq⟩ | ⟨h6, -, -⟩ := hmeet
      · have hnat := congrArg UInt32.toNat heq
        simp only [crowdSess, UInt32.toNat_ofNat'] at hnat
        rw [Nat.mod_eq_of_lt (hlt k List.mem_cons_self),
          Nat.mod_eq_of_lt (hlt j (List.mem_cons_of_mem k hj))] at hnat
        exact (List.nodup_cons.mp hl).1 (hnat ▸ hj)
      · exact absurd h6 (by simp [crowdSess, UserAddr.hasV6, EAG_IPV4, EAG_IPV6, EAG_MIX])
    have hnew : ((crowd l).portalSessNew (crowdSess k).user_addr).sess (crowd l).brk =
        some { user_addr := (crowdSess k).user_addr } := by
      rw [SessTable.portalSessNew_eq]
      simp
    have hother : ∀ m, m ≠ (crowd l).brk → (crowd (k :: l)).sess m = (crowd l).sess m := by
      intro m hm
      simp [crowd, SessTable.setSess, SessTable.portalSessNew_eq, hm]
    have hself : (crowd (k :: l)).sess (crowd l).brk = some (crowdSess k) := by simp [crowd, SessTable.setSess]
    refine ⟨(hsound.new hno).setSess hnew rfl, fun m s hs => ?_, fun j hj => ?_⟩
    · by_cases hm : m = (crowd l).brk
      · rw [hm, hself] at hs
        exact ⟨k, List.mem_cons_self, (Option.some.inj hs).symm⟩
      · rw [hother m hm] at hs
        obtain ⟨j, hj, hsj⟩ := hall m s hs
        exact ⟨j, List.mem_cons_of_mem k hj, hsj⟩
    · have hhead : (crowd (k :: l)).sess_head = (crowd l).brk :: (crowd l).sess_head := by
        simp [crowd, SessTable.setSess, SessTable.portalSessNew_eq]
      rw [hhead]
      obtain rfl | hj := List.mem_cons.mp hj
      · exact ⟨(crowd l).brk, List.mem_cons_self, hself⟩
      · obtain ⟨m, hm, hsm⟩ := hhas j hj
        refine ⟨m, List.mem_cons_of_mem _ hm, ?_⟩
        rw [hother m (Nat.ne_of_lt (hsound.fresh m (by simp [hsm])))]
        exact hsm

/-- A distributed portal with a session for each id but 5, which was handed out last, does not give the one
id that is free. -/
theorem misses_last (hmask : P.reqidMask = 0xfff) (hprev : P.prev_reqid = 5)
    (hall : ∀ m s, P.table.sess m = some s → ∃ k, (k < 4096 ∧ k ≠ 0 ∧ k ≠ 5) ∧ s = crowdSess k)
    (hhas : ∀ k, k < 4096 ∧ k ≠ 0 ∧ k ≠ 5 →
      ∃ m ∈ P.table.sess_head, P.table.sess m = some (crowdSess k)) :
    P.FreeId P.reqidMask 5 ∧ ¬ P.HandsOut := by
  have hm : LowBits 0xfff := .inl rfl
  have hsize : (0xfff : UInt16).toNat + 1 = 4096 := rfl
  have hlow : ∀ k < 4096, (UInt16.ofNat k &&& 0xfff).toNat = k := by
    intro k hk
    rw [hm.toNat_and, UInt16.toNat_ofNat', hsize]
    omega
  have hfree : P.FreeId P.reqidMask 5 := by
    rw [hmask]
    refine ⟨by decide, ?_⟩
    rw [reqidIsUsed, List.any_eq_false]
    intro n _ hany
    obtain ⟨s, hs, hp⟩ := (Option.any_eq_true _ _).mp hany
    obtain ⟨k, ⟨hlt, -, hne⟩, rfl⟩ := hall n s hs
    have hsame := congrArg UInt16.toNat (of_decide_eq_true hp).2
    rw [show (crowdSess k).reqid = UInt16.ofNat k from rfl, hlow k hlt,
      show ((5 : UInt16) &&& 0xfff).toNat = 5 from rfl] at hsame
    exact hne hsame.symm
  have hused : ∀ id : UInt16, id &&& 0xfff ≠ 0 → id &&& 0xfff ≠ 5 &&& 0xfff →
      P.reqidIsUsed 0xfff id = true := by
    intro id h0 h5
    have hlt : (id &&& 0xfff).toNat < 4096 := by
      rw [hm.toNat_and, hsize]
      exact Nat.mod_lt _ (by omega)
    have h0' : (id &&& 0xfff).toNat ≠ 0 := fun h => h0 (UInt16.toNat_inj.mp h)
    have h5' : (id &&& 0xfff).toNat ≠ 5 := fun h => h5 (UInt16.toNat_inj.mp h)
    obtain ⟨n, hn, hs⟩ := hhas _ ⟨hlt, h0', h5'⟩
    rw [reqidIsUsed, List.any_eq_true]
    refine ⟨n, hn, (Option.any_eq_true _ _).mpr ⟨_, hs, decide_eq_true ⟨.inl rfl, ?_⟩⟩⟩
    exact UInt16.toNat_inj.mp (hlow _ hlt).symm
  refine ⟨hfree, ?_⟩
  rintro ⟨-, reqid, P', hgiven, hgood, -⟩
  rw [detectUniqueReqid_eq] at hgiven
  cases hgiven
  obtain ⟨id, ⟨h0, hunused⟩, hne⟩ := givenReqid_free.mp (hgood ⟨5, hfree⟩)
  rw [hmask] at h0 hunused hne
  rw [hused id h0 (hprev ▸ hne)] at hunused
  cases hunused

/-- A distributed portal with the sessions `T`, which has handed out the id 5 last. -/
def distributed (T : SessTable) : Portal :=
  { Portal.create 4 3 0 0 0 with conf := { pdc_distributed := true }, prev_reqid := 5, table := T }

/-- The users of a portal that is full: each id but 0 and 5. -/
def crowdIds : List Nat := (List.range 4096).filter fun k => k ≠ 0 ∧ k ≠ 5

theorem distributed_misses {T : SessTable} (hsound : T.Sound)
    (hall : ∀ m s, T.sess m = some s → ∃ k, (k < 4096 ∧ k ≠ 0 ∧ k ≠ 5) ∧ s = crowdSess k)
    (hhas : ∀ k, k < 4096 ∧ k ≠ 0 ∧ k ≠ 5 → ∃ m ∈ T.sess_head, T.sess m = some (crowdSess k)) :
    (distributed T).table.Sound ∧ (distributed T).FreeId (distributed T).reqidMask 5 ∧
      ¬ (distributed T).HandsOut := ⟨hsound, misses_last rfl rfl hall hhas⟩

/-- With a session for each id but 5, the one id that is free is not given. -/
theorem crowded_misses : (distributed (crowd crowdIds)).table.Sound ∧
    (distributed (crowd crowdIds)).FreeId (distributed (crowd crowdIds)).reqidMask 5 ∧
    ¬ (distributed (crowd crowdIds)).HandsOut := by
  have hmem : ∀ k, k ∈ crowdIds ↔ k < 4096 ∧ k ≠ 0 ∧ k ≠ 5 := by
    intro k
    rw [crowdIds, List.mem_filter, List.mem_range, decide_eq_true_eq]
  have hnodup : crowdIds.Nodup := List.nodup_range.filter _
  obtain ⟨hsound, hall, hhas⟩ := crowd_spec hnodup fun k hk => Nat.lt_trans ((hmem k).mp hk).1 (by decide)
  refine distributed_misses hsound (fun m s hs => ?_) fun k hk => hhas k ((hmem k).mpr hk)
  obtain ⟨k, hk, hsk⟩ := hall m s hs
  exact ⟨k, (hmem k).mp hk, hsk⟩

end

end Portal

end Eag
end DaemonGroup
