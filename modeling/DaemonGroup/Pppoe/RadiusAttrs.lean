import DaemonGroup.Lib.Hops
import DaemonGroup.Lib.Reads
import Mathlib.Tactic.Common

/-!
# DaemonGroup.Pppoe.RadiusAttrs

The search for an attribute in a received packet (`radius_getattr`), with the octets that it reads.

* `getattr_iff` — the packets in which an attribute is searched for as it should be.
-/

namespace DaemonGroup
namespace Pppoe
namespace RadiusAttrs

open Lib Bytes Reads

def sizeofRadiusPacket : Nat := 20
def RADIUS_ATTR_VENDOR_SPECIFIC : UInt8 := 26

/-! ## Buffers -/

/-- A `pppoe_buf` with what is in memory from `data` on. The tail is at `len` and the end at
`size`. -/
structure DataBuf where
  mem : Nat → UInt8
  len : Nat
  size : Nat

/-- `pbuf_may_pull`; true if there are `n` octets. -/
def DataBuf.mayPull (b : DataBuf) (n : Nat) : Bool := n ≤ b.len

/-- `pbuf_pull` -/
def DataBuf.pull (b : DataBuf) (n : Nat) : DataBuf where
  mem i := b.mem (n + i)
  len := (b.len + 4294967296 - n) % 4294967296
  size := b.size - n

/-- `pbuf_trim`; `none` is the length error. -/
def DataBuf.trim (b : DataBuf) (n : Nat) : Option DataBuf :=
  if n > b.len then none else some { b with len := n }

/-- `ntohs` of the two octets at `a`. -/
def ntohsAt (m : Nat → UInt8) (a : Nat) : Nat := (m a).toNat * 256 + (m (a + 1)).toNat

/-- `ntohl` of the four octets at `a`. -/
def ntohlAt (m : Nat → UInt8) (a : Nat) : UInt32 :=
  ((((m a).toUInt32 * 256) + (m (a + 1)).toUInt32) * 256 + (m (a + 2)).toUInt32) * 256 +
    (m (a + 3)).toUInt32

/-- The length checks of `radius_sock_process`: what is left of the buffer is the attributes. -/
def radiusSockAttrs (b : DataBuf) : Option DataBuf :=
  if b.mayPull sizeofRadiusPacket then
    (b.pull sizeofRadiusPacket).trim
      ((ntohsAt b.mem 2 + 4294967296 - sizeofRadiusPacket) % 4294967296)
  else none

/-! ## The search -/

/-- What is searched for. -/
structure Sought where
  type : UInt8
  vendor_id : UInt32
  vendor_type : UInt8

/-- The variables of the loop. -/
structure Scan where
  cursor : Nat
  len : Nat
  count : Int
deriving DecidableEq

/-- What `radius_getattr` returns. An attribute is given by its place. -/
inductive Getattr where
  | found (attr : Nat)
  | PPPOEERR_EINVAL
  | PPPOEERR_ENOEXIST
deriving DecidableEq

section
variable (m : Nat → UInt8) (q : Sought)

/-- The attribute at `t` is of another vendor or of another type of the vendor. -/
def otherVendor (t : Nat) : Reads Bool := do
  let i : UInt32 ← ⟨ntohlAt m (t + 2), (load m (t + 2) 4).log⟩
  if i ≠ q.vendor_id then pure true
  else do
    let vt ← peek m (t + 6)
    pure (vt ≠ q.vendor_type)

/-- An attribute of the type `t`, which is the right one, is passed over. -/
def passesOver (t : UInt8) (cursor : Nat) : Reads Bool :=
  if t = RADIUS_ATTR_VENDOR_SPECIFIC then otherVendor m q cursor else pure false

/-- One round of the loop of `radius_getattr`. -/
def getattrRound (inst : Int) (s : Scan) : Reads (Getattr ⊕ Scan) :=
  if s.len = 0 then pure (.inl .PPPOEERR_ENOEXIST)
  else if s.len < 2 then pure (.inl .PPPOEERR_EINVAL)
  else do
    let alen ← peek m (s.cursor + 1)
    if alen.toNat > s.len then pure (.inl .PPPOEERR_EINVAL)
    else do
      let next : Scan := { s with len := s.len - alen.toNat, cursor := s.cursor + alen.toNat }
      let t ← peek m s.cursor
      if t ≠ q.type then pure (.inr next)
      else do
        let other ← passesOver m q t s.cursor
        if other then pure (.inr next)
        else if s.count = inst then
          pure (.inl (.found (if q.type = RADIUS_ATTR_VENDOR_SPECIFIC then s.cursor + 6 else s.cursor)))
        else pure (.inr { next with count := s.count + 1 })

/-- `fuel` rounds at most. Without fuel the loop has not ended. -/
def getattrLoop (inst : Int) : Nat → Scan → Reads (Option Getattr)
  | 0, _ => pure none
  | fuel + 1, s => do
    match ← getattrRound m q inst s with
    | .inl r => pure (some r)
    | .inr s => getattrLoop inst fuel s

end

/-- `radius_getattr` -/
def radiusGetattr (p : DataBuf) (q : Sought) (inst : Int) (fuel : Nat) : Reads (Option Getattr) :=
  getattrLoop p.mem q inst fuel ⟨0, p.len, 0⟩

/-! ## What it is for -/

section
variable (p : DataBuf) (q : Sought)

/-- The length octet of the attribute at `a`. -/
def alen (a : Nat) : Nat := (p.mem (a + 1)).toNat

/-- The place of the attribute number `i`. -/
def place (i : Nat) : Nat := hop (alen p) 0 i

/-- An attribute with its type and its length lies in the packet. -/
def Proper (a : Nat) : Prop := 2 ≤ alen p a ∧ a + 2 ≤ p.len ∧ a + alen p a ≤ p.len

/-- The attribute is of the type that is searched for, and holds the vendor and its type. -/
def Matches (a : Nat) : Prop :=
  p.mem a = q.type ∧ (q.type = RADIUS_ATTR_VENDOR_SPECIFIC →
    7 ≤ alen p a ∧ ntohlAt p.mem (a + 2) = q.vendor_id ∧ p.mem (a + 6) = q.vendor_type)

/-- The list of the attributes goes on to the place number `i`, and none of those before it matches. -/
def Reaches (i : Nat) : Prop := ∀ j < i, Proper p (place p j) ∧ ¬ Matches p q (place p j)

/-- The attribute number `i` is the first one that matches. -/
def First (i : Nat) : Prop := Reaches p q i ∧ Proper p (place p i) ∧ Matches p q (place p i)

/-- What is to be returned for the attribute at `a`. -/
def handed (a : Nat) : Nat := if q.type = RADIUS_ATTR_VENDOR_SPECIFIC then a + 6 else a

/-- The state of the loop at the place number `i`. -/
def scanAt (i : Nat) : Scan := ⟨place p i, p.len - place p i, 0⟩

/-- The search ends, does not read behind the packet, finds the first attribute that matches and no
other one, and stops at what is no attribute. -/
structure Searches : Prop where
  ends : ∃ fuel, (radiusGetattr p q 0 fuel).val ≠ none
  within : ∀ fuel, Within p.len (radiusGetattr p q 0 fuel)
  finds : ∀ fuel r, (radiusGetattr p q 0 fuel).val = some r →
    ∀ a, r = .found a ↔ ∃ i, First p q i ∧ a = handed q (place p i)
  stops : ∀ i, Reaches p q i → ¬ Proper p (place p i) →
    ∃ r, (getattrRound p.mem q 0 (scanAt p i)).val = .inl r ∧ ∀ a, r ≠ .found a

/-- The attribute at `a` has a length that counts its own two octets, if it has one. -/
def Counts (a : Nat) : Prop := a + 2 ≤ p.len → 2 ≤ alen p a

/-- A vendor attribute at `a` that is too short for a vendor and its type, if that is looked for, has
enough of the packet behind it, and what is there is not what is searched for. -/
def Harmless (a : Nat) : Prop :=
  Proper p a → p.mem a = q.type → q.type = RADIUS_ATTR_VENDOR_SPECIFIC → alen p a < 7 →
    a + 6 ≤ p.len ∧
      (ntohlAt p.mem (a + 2) = q.vendor_id → a + 7 ≤ p.len ∧ p.mem (a + 6) ≠ q.vendor_type)

/-- Up to the first attribute that matches, every length counts its own two octets, and the short
vendor attributes do no harm. -/
def Searchable : Prop := ∀ i, Reaches p q i → Counts p (place p i) ∧ Harmless p q (place p i)

end

section
variable {p : DataBuf} {q : Sought} {a i n fuel : Nat} {count : Int}

/-! ## One round -/

/-- What the code takes for a match, whatever the length is. -/
def Hits (p : DataBuf) (q : Sought) (a : Nat) : Prop :=
  p.mem a = q.type ∧ (q.type = RADIUS_ATTR_VENDOR_SPECIFIC →
    ntohlAt p.mem (a + 2) = q.vendor_id ∧ p.mem (a + 6) = q.vendor_type)

instance : Decidable (Hits p q a) := inferInstanceAs (Decidable (_ ∧ (_ → _)))

theorem otherVendor_val :
    (otherVendor p.mem q a).val = true ↔
      ¬ (ntohlAt p.mem (a + 2) = q.vendor_id ∧ p.mem (a + 6) = q.vendor_type) := by
  unfold otherVendor
  by_cases hid : ntohlAt p.mem (a + 2) = q.vendor_id
  · by_cases hvt : p.mem (a + 6) = q.vendor_type
    · simp [hid, hvt]
    · simp [hid, hvt]
  · simp [hid]

theorem passesOver_val : (passesOver p.mem q q.type a).val = true ↔ ¬ (q.type = RADIUS_ATTR_VENDOR_SPECIFIC →
    ntohlAt p.mem (a + 2) = q.vendor_id ∧ p.mem (a + 6) = q.vendor_type) := by
  unfold passesOver
  by_cases hv : q.type = RADIUS_ATTR_VENDOR_SPECIFIC
  · rw [if_pos hv, otherVendor_val, forall_prop_of_true hv]
  · rw [if_neg hv]
    simp [hv]

theorem within_passesOver : Within n (passesOver p.mem q q.type a) ↔
    (q.type = RADIUS_ATTR_VENDOR_SPECIFIC →
      a + 6 ≤ n ∧ (ntohlAt p.mem (a + 2) = q.vendor_id → a + 7 ≤ n)) := by
  have hload : Within n (⟨ntohlAt p.mem (a + 2), (load p.mem (a + 2) 4).log⟩ : Reads UInt32) ↔
      a + 6 ≤ n := by
    show Within n (load p.mem (a + 2) 4) ↔ _
    rw [within_load]
    omega
  unfold passesOver
  rw [within_ite, and_iff_left fun _ => (within_pure _).mpr trivial]
  refine forall_congr' fun _ => ?_
  unfold otherVendor
  rw [within_bind, hload, within_ite, within_bind, within_peek]
  refine and_congr_right fun _ => ?_
  by_cases hid : ntohlAt p.mem (a + 2) = q.vendor_id
  · simp [hid]
    omega
  · simp [hid]

/-- Where an attribute fits, it is found or passed over. -/
theorem round_fits (h2 : 2 ≤ n) (hfit : alen p a ≤ n) : (getattrRound p.mem q 0 ⟨a, n, count⟩).val =
    if Hits p q a then
      if count = 0 then .inl (.found (handed q a))
      else .inr ⟨a + alen p a, n - alen p a, count + 1⟩
    else .inr ⟨a + alen p a, n - alen p a, count⟩ := by
  have h0 : ¬ n = 0 := by omega
  have hlt : ¬ n < 2 := by omega
  have hlen : ¬ (p.mem (a + 1)).toNat > n := Nat.not_lt.mpr hfit
  unfold getattrRound
  dsimp only
  rw [if_neg h0, if_neg hlt, bind_val, peek_val, if_neg hlen, bind_val, peek_val]
  by_cases ht : p.mem a = q.type
  · rw [if_neg (Classical.not_not.mpr ht), ht, bind_val]
    by_cases hhit : Hits p q a
    · have hpass : ¬ (passesOver p.mem q q.type a).val = true := fun h => passesOver_val.mp h hhit.2
      rw [if_pos hhit, if_neg hpass]
      by_cases hcount : count = 0
      · rw [if_pos hcount, if_pos hcount]
        rfl
      · rw [if_neg hcount, if_neg hcount]
        rfl
    · have hpass : (passesOver p.mem q q.type a).val = true :=
        passesOver_val.mpr fun h => hhit ⟨ht, h⟩
      rw [if_neg hhit, if_pos hpass]
      rfl
  · have hhit : ¬ Hits p q a := fun h => ht h.1
    rw [if_neg hhit, if_pos ht]
    rfl

/-- Where there is none, the search ends. -/
theorem round_ends (h : n < 2 ∨ alen p a > n) :
    ∃ r, (getattrRound p.mem q 0 ⟨a, n, count⟩).val = .inl r ∧ ∀ b, r ≠ .found b := by
  unfold getattrRound
  dsimp only
  by_cases h0 : n = 0
  · rw [if_pos h0]
    exact ⟨_, rfl, fun b hb => nomatch hb⟩
  · rw [if_neg h0]
    by_cases h2 : n < 2
    · rw [if_pos h2]
      exact ⟨_, rfl, fun b hb => nomatch hb⟩
    · have hlen : (p.mem (a + 1)).toNat > n := h.resolve_left h2
      rw [if_neg h2, bind_val, peek_val, if_pos hlen]
      exact ⟨_, rfl, fun b hb => nomatch hb⟩

/-- A round reads the head of the attribute, and what tells the vendor if that is looked for. -/
theorem within_round {k : Nat} : Within k (getattrRound p.mem q 0 ⟨a, n, count⟩) ↔
    (2 ≤ n → a + 2 ≤ k ∧ (alen p a ≤ n → p.mem a = q.type →
      Within k (passesOver p.mem q q.type a))) := by
  unfold getattrRound
  dsimp only
  by_cases h2 : 2 ≤ n
  · have h0 : ¬ n = 0 := by omega
    have hlt : ¬ n < 2 := by omega
    rw [if_neg h0, if_neg hlt, within_bind, within_peek, peek_val, forall_prop_of_true h2]
    refine and_congr_right fun hhead => ?_
    by_cases hfit : alen p a ≤ n
    · have hlen : ¬ (p.mem (a + 1)).toNat > n := Nat.not_lt.mpr hfit
      rw [if_neg hlen, within_bind, within_peek, peek_val, forall_prop_of_true hfit,
        and_iff_right (by omega)]
      by_cases ht : p.mem a = q.type
      · rw [if_neg (Classical.not_not.mpr ht), forall_prop_of_true ht, ht, within_bind]
        refine and_iff_left ?_
        split
        · exact (within_pure _).mpr trivial
        · split <;> exact (within_pure _).mpr trivial
      · rw [if_pos ht, forall_prop_of_false ht]
        exact within_pure _
    · have hlen : (p.mem (a + 1)).toNat > n := Nat.not_le.mp hfit
      rw [if_pos hlen, forall_prop_of_false hfit]
      exact within_pure _
  · have hsmall : n = 0 ∨ n = 1 := by omega
    rw [forall_prop_of_false h2]
    rcases hsmall with rfl | rfl
    · exact within_pure _
    · exact within_pure _

theorem Matches.hits (h : Matches p q a) : Hits p q a := ⟨h.1, fun hv => (h.2 hv).2⟩

theorem Hits.matches (h : Hits p q a) (hp : Proper p a) (hh : Harmless p q a) : Matches p q a := by
  refine ⟨h.1, fun hv => ⟨?_, h.2 hv⟩⟩
  by_contra hshort
  obtain ⟨-, hother⟩ := hh hp h.1 hv (Nat.not_le.mp hshort)
  exact (hother (h.2 hv).1).2 (h.2 hv).2

theorem place_succ : place p (i + 1) = place p i + alen p (place p i) := hop_succ

/-- The places that are reached are in the packet or at its end. -/
theorem Reaches.le (h : Reaches p q i) : place p i ≤ p.len := by
  cases i with
  | zero => exact Nat.zero_le _
  | succ i =>
    rw [place_succ]
    exact (h i (Nat.lt_succ_self i)).1.2.2

theorem Reaches.next (h : Reaches p q i) (hp : Proper p (place p i)) (hm : ¬ Matches p q (place p i)) :
    Reaches p q (i + 1) := by
  intro j hj
  rcases Nat.lt_succ_iff_lt_or_eq.mp hj with hj | rfl
  · exact h j hj
  · exact ⟨hp, hm⟩

theorem Reaches.of_le {k : Nat} (h : Reaches p q k) (hik : i ≤ k) : Reaches p q i :=
  fun j hj => h j (Nat.lt_of_lt_of_le hj hik)

theorem First.unique {k : Nat} (hi : First p q i) (hk : First p q k) : i = k := by
  rcases Nat.lt_trichotomy i k with hlt | heq | hlt
  · exact absurd hi.2.2 (hk.1 i hlt).2
  · exact heq
  · exact absurd hk.2.2 (hi.1 k hlt).2

theorem handed_inj {b : Nat} (h : handed q a = handed q b) : a = b := by
  unfold handed at h
  split at h
  · exact Nat.add_right_cancel h
  · exact h

theorem round_found (hp : Proper p (place p i)) (hh : Hits p q (place p i)) :
    (getattrRound p.mem q 0 (scanAt p i)).val = .inl (.found (handed q (place p i))) := by
  obtain ⟨h2, hhead, hfit⟩ := hp
  rw [scanAt, round_fits (by omega) (by omega), if_pos hh, if_pos rfl]

theorem round_next (hp : Proper p (place p i)) (hh : ¬ Hits p q (place p i)) :
    (getattrRound p.mem q 0 (scanAt p i)).val = .inr (scanAt p (i + 1)) := by
  obtain ⟨h2, hhead, hfit⟩ := hp
  rw [scanAt, round_fits (by omega) (by omega), if_neg hh, scanAt, place_succ, Nat.sub_sub]

theorem round_stops (hc : Counts p (place p i)) (hp : ¬ Proper p (place p i)) :
    ∃ r, (getattrRound p.mem q 0 (scanAt p i)).val = .inl r ∧ ∀ b, r ≠ .found b := by
  refine round_ends ?_
  by_contra h
  obtain ⟨h2, hfit⟩ := not_or.mp h
  exact hp ⟨hc (by omega), by omega, by omega⟩

/-- The round at a place that is reached. -/
theorem round_cases (hr : Reaches p q i) (hc : Counts p (place p i)) (hh : Harmless p q (place p i)) :
    (¬ Proper p (place p i) ∧
      ∃ r, (getattrRound p.mem q 0 (scanAt p i)).val = .inl r ∧ ∀ b, r ≠ .found b) ∨
    (First p q i ∧
      (getattrRound p.mem q 0 (scanAt p i)).val = .inl (.found (handed q (place p i)))) ∨
    (Reaches p q (i + 1) ∧ (getattrRound p.mem q 0 (scanAt p i)).val = .inr (scanAt p (i + 1))) := by
  by_cases hp : Proper p (place p i)
  · by_cases hm : Matches p q (place p i)
    · exact .inr (.inl ⟨⟨hr, hp, hm⟩, round_found hp hm.hits⟩)
    · exact .inr (.inr ⟨hr.next hp hm, round_next hp fun h => hm (h.matches hp hh)⟩)
  · exact .inl ⟨hp, round_stops hc hp⟩

/-- The round at a place that is reached reads nothing behind the packet. -/
theorem round_within (hr : Reaches p q i) (hc : Counts p (place p i))
    (hh : Harmless p q (place p i)) : Within p.len (getattrRound p.mem q 0 (scanAt p i)) := by
  rw [scanAt, within_round]
  intro h2
  have hle := hr.le
  refine ⟨by omega, fun hfit ht => within_passesOver.mpr fun hv => ?_⟩
  have hp : Proper p (place p i) := ⟨hc (by omega), by omega, by omega⟩
  by_cases hshort : alen p (place p i) < 7
  · obtain ⟨h6, h7⟩ := hh hp ht hv hshort
    exact ⟨h6, fun hid => (h7 hid).1⟩
  · exact ⟨by omega, fun _ => by omega⟩

/-! ## The loop -/

section
variable {m : Nat → UInt8} {s s' : Scan} {r : Getattr}

theorem loop_inl (h : (getattrRound m q 0 s).val = .inl r) :
    (getattrLoop m q 0 (fuel + 1) s).val = some r := by
  rw [getattrLoop, bind_val, h]
  rfl

theorem loop_inr (h : (getattrRound m q 0 s).val = .inr s') :
    (getattrLoop m q 0 (fuel + 1) s).val = (getattrLoop m q 0 fuel s').val := by
  rw [getattrLoop, bind_val, h]

theorem within_loop_inl (h : (getattrRound m q 0 s).val = .inl r) :
    Within n (getattrLoop m q 0 (fuel + 1) s) ↔ Within n (getattrRound m q 0 s) := by
  rw [getattrLoop, within_bind, h]
  exact and_iff_left ((within_pure _).mpr trivial)

theorem within_loop_inr (h : (getattrRound m q 0 s).val = .inr s') :
    Within n (getattrLoop m q 0 (fuel + 1) s) ↔
      Within n (getattrRound m q 0 s) ∧ Within n (getattrLoop m q 0 fuel s') := by
  rw [getattrLoop, within_bind, h]

end

theorem loop_ends (h : Searchable p q) (hr : Reaches p q i) (hfuel : p.len - place p i < fuel) :
    (getattrLoop p.mem q 0 fuel (scanAt p i)).val ≠ none := by
  induction fuel generalizing i with
  | zero => exact absurd hfuel (Nat.not_lt_zero _)
  | succ fuel ih =>
    rcases round_cases hr (h i hr).1 (h i hr).2 with ⟨-, r, hval, -⟩ | ⟨-, hval⟩ | ⟨hnext, hval⟩
    · rw [loop_inl hval]
      exact Option.some_ne_none _
    · rw [loop_inl hval]
      exact Option.some_ne_none _
    · rw [loop_inr hval]
      -- an attribute has two octets at least
      have hp := (hnext i (Nat.lt_succ_self i)).1
      have hlen := hp.2.2
      have htwo := hp.1
      exact ih hnext (by rw [place_succ]; omega)

theorem loop_within (h : Searchable p q) (hr : Reaches p q i) :
    Within p.len (getattrLoop p.mem q 0 fuel (scanAt p i)) := by
  induction fuel generalizing i with
  | zero => exact (within_pure _).mpr trivial
  | succ fuel ih =>
    have hround := round_within hr (h i hr).1 (h i hr).2
    rcases round_cases hr (h i hr).1 (h i hr).2 with ⟨-, r, hval, -⟩ | ⟨-, hval⟩ | ⟨hnext, hval⟩
    · exact (within_loop_inl hval).mpr hround
    · exact (within_loop_inl hval).mpr hround
    · exact (within_loop_inr hval).mpr ⟨hround, ih hnext⟩

/-- What is found is the first attribute that matches. -/
theorem loop_finds {r : Getattr} (h : Searchable p q) (hr : Reaches p q i)
    (hval : (getattrLoop p.mem q 0 fuel (scanAt p i)).val = some r) :
    r = .found a ↔ ∃ k, First p q k ∧ a = handed q (place p k) := by
  induction fuel generalizing i with
  | zero => cases hval
  | succ fuel ih =>
    rcases round_cases hr (h i hr).1 (h i hr).2 with ⟨hp, r', hround, hnone⟩ | ⟨hfirst, hround⟩ |
      ⟨hnext, hround⟩
    · rw [loop_inl hround] at hval
      obtain rfl := Option.some.inj hval
      refine iff_of_false (hnone a) ?_
      rintro ⟨k, hk, -⟩
      rcases Nat.lt_trichotomy i k with hlt | rfl | hlt
      · exact hp (hk.1 i hlt).1
      · exact hp hk.2.1
      · exact (hr k hlt).2 hk.2.2
    · rw [loop_inl hround] at hval
      obtain rfl := Option.some.inj hval
      constructor
      · intro heq
        exact ⟨i, hfirst, (Getattr.found.inj heq).symm⟩
      · rintro ⟨k, hk, rfl⟩
        rw [hfirst.unique hk]
    · rw [loop_inr hround] at hval
      exact ih hnext hval

theorem searches_of (h : Searchable p q) : Searches p q := by
  have hstart : Reaches p q 0 := fun j hj => absurd hj (Nat.not_lt_zero j)
  refine ⟨⟨p.len + 1, ?_⟩, fun fuel => ?_, fun fuel r hval a => ?_, fun i hr hp => ?_⟩
  · exact loop_ends h hstart (Nat.lt_succ_of_le (Nat.sub_le _ _))
  · exact loop_within h hstart
  · exact loop_finds h hstart hval
  · exact round_stops (h i hr).1 hp

/-- The loop gets past `i` attributes. -/
theorem loop_skip (h : ∀ j < i, (getattrRound p.mem q 0 (scanAt p j)).val = .inr (scanAt p (j + 1))) :
    (getattrLoop p.mem q 0 (i + fuel) (scanAt p 0)).val =
        (getattrLoop p.mem q 0 fuel (scanAt p i)).val ∧
      (Within n (getattrLoop p.mem q 0 (i + fuel) (scanAt p 0)) →
        Within n (getattrLoop p.mem q 0 fuel (scanAt p i))) := by
  induction i generalizing fuel with
  | zero => rw [Nat.zero_add]; exact ⟨rfl, id⟩
  | succ i ih =>
    obtain ⟨hval, hwithin⟩ := @ih (fuel + 1) fun j hj => h j (Nat.lt_succ_of_lt hj)
    have hround := h i (Nat.lt_succ_self i)
    rw [Nat.add_assoc, Nat.add_comm 1 fuel, hval, loop_inr hround]
    exact ⟨rfl, fun hw => ((within_loop_inr hround).mp (hwithin hw)).2⟩

/-- A length that does not count its own octets does not stop the search. -/
theorem counts_of (h : Searches p q) (hr : Reaches p q i) : Counts p (place p i) := by
  intro hhead
  by_contra hshort
  have hp : ¬ Proper p (place p i) := fun hp => hshort hp.1
  obtain ⟨r, hround, hnone⟩ := h.stops i hr hp
  rw [scanAt, round_fits (by omega) (by omega)] at hround
  split at hround
  · rw [if_pos rfl] at hround
    exact hnone _ (Sum.inl.inj hround).symm
  · cases hround

theorem harmless_of (h : Searches p q)
    (hskip : ∀ j < i, (getattrRound p.mem q 0 (scanAt p j)).val = .inr (scanAt p (j + 1))) :
    Harmless p q (place p i) := by
  intro hp ht hv hshort
  obtain ⟨hval, hwithin⟩ := @loop_skip p q i p.len 1 hskip
  have hround : Within p.len (getattrRound p.mem q 0 (scanAt p i)) := by
    have hloop := hwithin (h.within (i + 1))
    rw [getattrLoop, within_bind] at hloop
    exact hloop.1
  obtain ⟨h2, hhead, hfit⟩ := hp
  rw [scanAt, within_round] at hround
  obtain ⟨h6, h7⟩ := within_passesOver.mp ((hround (by omega)).2 (by omega) ht) hv
  refine ⟨h6, fun hid => ⟨h7 hid, fun hvt => ?_⟩⟩
  have hfound := @round_found p q i ⟨h2, hhead, hfit⟩ ⟨ht, fun _ => ⟨hid, hvt⟩⟩
  rw [loop_inl hfound] at hval
  obtain ⟨k, hk, heq⟩ := (h.finds (i + 1) _ hval _).mp rfl
  have hmatch := hk.2.2
  rw [← handed_inj heq] at hmatch
  exact absurd (hmatch.2 hv).1 (Nat.not_le.mpr hshort)

theorem searchable_of (h : Searches p q) : Searchable p q := by
  intro i
  induction i using Nat.strongRecOn with
  | ind i ih =>
    intro hr
    have hskip : ∀ j < i,
        (getattrRound p.mem q 0 (scanAt p j)).val = .inr (scanAt p (j + 1)) := by
      intro j hj
      obtain ⟨hp, hm⟩ := hr j hj
      have hharm := (ih j hj (hr.of_le (Nat.le_of_lt hj))).2
      exact round_next hp fun hh => hm (hh.matches hp hharm)
    exact ⟨counts_of h hr, harmless_of h hskip⟩

theorem searches_iff : Searches p q ↔ Searchable p q := ⟨searchable_of, searches_of⟩

/-- A length of zero is passed over for ever. -/
theorem loop_stuck (h2 : 2 ≤ n) (hzero : alen p a = 0) (hhit : ¬ Hits p q a) :
    (getattrLoop p.mem q 0 fuel ⟨a, n, count⟩).val = none := by
  induction fuel with
  | zero => rfl
  | succ fuel ih =>
    have hround := @round_fits p q a n count h2 (by omega)
    rw [if_neg hhit, hzero] at hround
    rw [loop_inr hround]
    exact ih

end

/-- The received packets in which an attribute is found as it should be. -/
theorem getattr_iff : ∀ (b : DataBuf) (q : Sought),
    (∀ p, radiusSockAttrs b = some p → Searches p q) ↔
      ∀ p, radiusSockAttrs b = some p → Searchable p q :=
  fun _ _ => forall₂_congr fun _ _ => searches_iff

/-- An Access-Accept whose only attribute has the length zero. -/
def zeroLength : DataBuf where
  mem i := [2, 0, 0, 22, 0, 0, 0, 0, 0, 0, 0, 0, 0, 0, 0, 0, 0, 0, 0, 0, 1, 0].getD i 0
  len := 22
  size := 4096

/-- A search for another type in it does not end. -/
theorem zeroLength_stuck : ∃ p, radiusSockAttrs zeroLength = some p ∧
    (∀ fuel, (radiusGetattr p ⟨18, 0, 0⟩ 0 fuel).val = none) ∧ ¬ Searches p ⟨18, 0, 0⟩ := by
  have hstuck : ∀ fuel,
      (radiusGetattr { zeroLength.pull 20 with len := 2 } ⟨18, 0, 0⟩ 0 fuel).val = none :=
    fun fuel => loop_stuck (by decide) (by decide) (by decide)
  have hlen : (ntohsAt zeroLength.mem 2 + 4294967296 - sizeofRadiusPacket) % 4294967296 = 2 := by
    decide +kernel
  have hattrs : radiusSockAttrs zeroLength = some { zeroLength.pull 20 with len := 2 } := by
    rw [radiusSockAttrs, hlen]
    rfl
  refine ⟨{ zeroLength.pull 20 with len := 2 }, hattrs, hstuck, fun h => ?_⟩
  obtain ⟨fuel, hends⟩ := h.ends
  exact hends (hstuck fuel)

end RadiusAttrs
end Pppoe
end DaemonGroup
