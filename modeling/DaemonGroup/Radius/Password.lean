import DaemonGroup.Lib.Hiding
import DaemonGroup.Eag.RadiusAdditions
import DaemonGroup.Pppoe.RadiusAdd
import DaemonGroup.Pppoe.Defs

/-!
# DaemonGroup.Radius.Password

The password of an access request (`radius_pwencode`, `radius_add_userpasswd`). Two daemons have this code, each
with its own packets; what they share is stated once, over a `Carrier`.

The length is padded in eight bits, the test of the size refuses a password that just fits, the loop behind the
first block counts from a length that may be less than one block, and nobody looks at the error: `hidden_iff`.
-/

namespace DaemonGroup
namespace Radius

open Lib Bytes

def RADIUS_AUTHLEN : Nat := 16
def RADIUS_PWSIZE : Nat := 128
def RADIUS_ATTR_USER_PASSWORD : UInt8 := 2

/-! ## The encoding -/

section
variable (md5 : Eag.Digest) (secret : List UInt8)

/-- What the block behind `v` is combined with. -/
def mask (v : List UInt8) : List UInt8 := (md5 (secret ++ v)).toList

/-- The loop of `radius_pwencode` and the places it writes to. It has no more than eight rounds. -/
def pwBlocks (dstlen : Nat) : Nat → Nat → (Nat → UInt8) → (Nat → UInt8) × List (Nat × Nat)
  | 0, _, dst => (dst, [])
  | rounds + 1, n, dst =>
    if n < 128 ∧ n < Eag.sizeT (dstlen - RADIUS_AUTHLEN) then
      let r := pwBlocks dstlen rounds (n + RADIUS_AUTHLEN)
        (xorAt dst (n + RADIUS_AUTHLEN) (mask md5 secret (read dst n RADIUS_AUTHLEN)))
      (r.1, (n + RADIUS_AUTHLEN, RADIUS_AUTHLEN) :: r.2)
    else (dst, [])

/-- `dstlen`, a multiple of 16. -/
def paddedLen (srclen : Nat) : Nat :=
  if srclen &&& 0x0f ≠ 0 then (srclen &&& 0xf0) + 0x10 else srclen

/-- What `radius_pwencode` returns and leaves at `dst`, and the places in it that it has written to. -/
structure Pwencode where
  ret : Int
  dstlen : Nat
  dst : Nat → UInt8
  wrote : List (Nat × Nat)

/-- `radius_pwencode`; `error` is what it returns if `dstsize` is too small. -/
def radiusPwencode (error : Int) (dst : Nat → UInt8) (dstsize : Nat) (src authenticator : List UInt8) : Pwencode :=
  let dst := write dst 0 (List.replicate dstsize 0)
  let dstlen := paddedLen src.length
  if dstsize ≤ dstlen then ⟨error, 0, dst, [(0, dstsize)]⟩
  else
    let first := if src.length > 128 then src.take 128 else src
    let dst := xorAt (write dst 0 first) 0 (mask md5 secret authenticator)
    let r := pwBlocks md5 secret dstlen 8 0 dst
    ⟨0, dstlen, r.1, (0, dstsize) :: (0, first.length) :: (0, RADIUS_AUTHLEN) :: r.2⟩

end

section
variable {md5 : Eag.Digest} {secret src auth : List UInt8} {error : Int} {dst : Nat → UInt8}
  {dstlen rounds n b j : Nat}

theorem length_mask {v : List UInt8} : (mask md5 secret v).length = 16 := by simp [mask]

theorem and_f : n &&& 0x0f = n % 16 := Nat.and_two_pow_sub_one_eq_mod n 4

/-- The mask of the padding has eight bits. -/
theorem and_f0 : n &&& 0xf0 = n % 256 / 16 * 16 := by
  have h : n &&& 0xf0 = (n % 2 ^ 8) >>> 4 <<< 4 := by
    apply Nat.eq_of_testBit_eq
    intro i
    rw [Nat.testBit_and, show (0xf0 : Nat) = (2 ^ 4 - 1) <<< 4 from rfl, Nat.testBit_shiftLeft,
      Nat.testBit_shiftLeft, Nat.testBit_two_pow_sub_one, Nat.testBit_shiftRight, Nat.testBit_mod_two_pow]
    by_cases hi : 4 ≤ i
    · have hsub : 4 + (i - 4) = i := by omega
      have hiff : i - 4 < 4 ↔ i < 8 := by omega
      simp [hi, hsub, hiff, Bool.and_comm]
    · simp [hi]
  rw [h, Nat.shiftLeft_eq, Nat.shiftRight_eq_div_pow]
  rfl

theorem paddedLen_eq : paddedLen n = if n % 16 ≠ 0 then n % 256 / 16 * 16 + 16 else n := by
  rw [paddedLen, and_f, and_f0]

/-- Up to 128 octets the length is the one it should be. -/
theorem paddedLen_short (h : src.length ≤ 128) : paddedLen src.length = (padded 16 src).length := by
  rw [paddedLen_eq, length_padded]
  split <;> omega

theorem sizeT_short (h : dstlen < 16) : 2 ^ 63 < Eag.sizeT (dstlen - RADIUS_AUTHLEN) := by
  unfold Eag.sizeT RADIUS_AUTHLEN
  omega

theorem sizeT_blocks (h : dstlen = 16 * (b + 1)) (hle : dstlen ≤ 128) :
    Eag.sizeT (dstlen - RADIUS_AUTHLEN) = 16 * b := by
  unfold Eag.sizeT RADIUS_AUTHLEN
  omega

/-- The loop hides the blocks behind the one at `16 * j`, and writes to no others. -/
theorem pwBlocks_hideAt (h : dstlen = 16 * (j + b + 1)) (hle : dstlen ≤ 128) (hrounds : b ≤ rounds) :
    (pwBlocks md5 secret dstlen rounds (16 * j) dst).1 =
        hideAt (mask md5 secret) 16 b (read dst (16 * j) 16) dst (16 * j + 16) ∧
      ∀ w ∈ (pwBlocks md5 secret dstlen rounds (16 * j) dst).2, w.1 + w.2 ≤ dstlen := by
  induction rounds generalizing j b dst with
  | zero =>
    obtain rfl : b = 0 := by omega
    exact ⟨rfl, fun w hw => by cases hw⟩
  | succ rounds ih =>
    have hsize := @sizeT_blocks dstlen (j + b) h hle
    rw [pwBlocks, hsize]
    cases b with
    | zero =>
      rw [if_neg (by omega)]
      exact ⟨rfl, fun w hw => by cases hw⟩
    | succ b =>
      have hlen : RADIUS_AUTHLEN = 16 := rfl
      obtain ⟨hblocks, hwithin⟩ := @ih (xorAt dst (16 * j + 16) (mask md5 secret (read dst (16 * j) 16)))
        b (j + 1) (by omega) (by omega)
      rw [if_pos (by omega), hlen]
      refine ⟨hblocks, ?_⟩
      intro w hw
      rcases List.mem_cons.mp hw with rfl | hw
      · dsimp only
        omega
      · exact hwithin w hw

end

/-! ## What is encoded -/

section
variable {md5 : Eag.Digest} {secret src auth : List UInt8} {error : Int} {dst : Nat → UInt8} {n : Nat}

/-- What a password that has been copied over zeros looks like. -/
theorem read_padded (h : src.length ≤ 128) :
    read (write (write dst 0 (List.replicate RADIUS_PWSIZE 0)) 0 src) 0 (padded 16 src).length = padded 16 src := by
  have hsize : RADIUS_PWSIZE = 128 := rfl
  have hle : (padded 16 src).length ≤ 128 := by
    rw [length_padded]
    omega
  have hzeros : read (write dst 0 (List.replicate RADIUS_PWSIZE 0)) 0 (padded 16 src).length =
      List.replicate (padded 16 src).length 0 := by
    rw [read_write, List.take_replicate, List.length_replicate, hsize, Nat.min_eq_left hle,
      List.drop_eq_nil_of_le (by rw [length_read]; exact hle), List.append_nil]
  rw [read_write, hzeros, length_padded, List.take_of_length_le (by omega), List.drop_replicate,
    Nat.add_sub_cancel_left]
  rfl

/-- The places of a password that is not refused. -/
theorem wrote_within {k dstlen : Nat} {l : List (Nat × Nat)} (hk : k ≤ 128) (hle : dstlen ≤ 128)
    (hl : ∀ w ∈ l, w.1 + w.2 ≤ dstlen) :
    ∀ w ∈ (0, RADIUS_PWSIZE) :: (0, k) :: (0, RADIUS_AUTHLEN) :: l, w.1 + w.2 ≤ RADIUS_PWSIZE := by
  have hsize : RADIUS_PWSIZE = 128 := rfl
  have hauth : RADIUS_AUTHLEN = 16 := rfl
  intro w hw
  simp only [List.mem_cons] at hw
  rcases hw with rfl | rfl | rfl | hw
  · exact Nat.le_of_eq (Nat.zero_add _)
  · dsimp only
    omega
  · decide
  · have := hl w hw
    omega

/-- A password that the code encodes as it should. -/
theorem pwencode_short (hpos : src.length ≠ 0) (h : src.length ≤ 112) :
    (radiusPwencode md5 secret error dst RADIUS_PWSIZE src auth).dstlen = (padded 16 src).length ∧
      read (radiusPwencode md5 secret error dst RADIUS_PWSIZE src auth).dst 0 (padded 16 src).length =
        hide (mask md5 secret) 16 ((padded 16 src).length / 16) auth (padded 16 src) ∧
      ∀ w ∈ (radiusPwencode md5 secret error dst RADIUS_PWSIZE src auth).wrote, w.1 + w.2 ≤ RADIUS_PWSIZE := by
  have hsize : RADIUS_PWSIZE = 128 := rfl
  have hauth : RADIUS_AUTHLEN = 16 := rfl
  have hlen := @length_padded 16 src
  obtain ⟨b, hb⟩ : ∃ b, (padded 16 src).length = 16 * (b + 1) := ⟨(padded 16 src).length / 16 - 1, by omega⟩
  have hdstlen := @paddedLen_short src (by omega)
  have hfirst : (if src.length > 128 then src.take 128 else src) = src := if_neg (by omega)
  obtain ⟨hblocks, hwithin⟩ := @pwBlocks_hideAt md5 secret
    (xorAt (write (write dst 0 (List.replicate RADIUS_PWSIZE 0)) 0 src) 0 (mask md5 secret auth))
    (padded 16 src).length 8 b 0 (by omega) (by omega) (by omega)
  have hpadded := @read_padded src dst (by omega)
  unfold radiusPwencode
  dsimp only
  rw [hdstlen, hfirst, if_neg (by omega)]
  refine ⟨rfl, ?_, ?_⟩
  · have hhide := @read_hideAt (mask md5 secret) 16 (b + 1) 0 auth
      (write (write dst 0 (List.replicate RADIUS_PWSIZE 0)) 0 src) (fun _ => length_mask)
    rw [← hb, hpadded, hideAt] at hhide
    rw [hb, Nat.mul_div_cancel_left _ (by decide), ← hhide, ← hb]
    exact congrArg (read · 0 _) hblocks
  · exact wrote_within (by omega) (by omega) hwithin

/-- The loop of an empty password writes behind the end. -/
theorem pwencode_empty :
    (128, 16) ∈ (radiusPwencode md5 secret error dst RADIUS_PWSIZE [] auth).wrote := by
  have hbig := @sizeT_short 0 (by decide)
  have hblocks : ∀ rounds n m, n = 128 - 16 * (rounds + 1) → rounds < 8 →
      (128, 16) ∈ (pwBlocks md5 secret 0 (rounds + 1) n m).2 := by
    intro rounds
    induction rounds with
    | zero =>
      intro n m hn hlt
      obtain rfl : n = 112 := by omega
      rw [pwBlocks, if_pos (by omega)]
      exact List.mem_cons_self
    | succ rounds ih =>
      intro n m hn hlt
      rw [pwBlocks, if_pos (by omega)]
      exact List.mem_cons_of_mem _ (ih _ _ (by unfold RADIUS_AUTHLEN; omega) (by omega))
  exact List.mem_cons_of_mem _ (List.mem_cons_of_mem _ (List.mem_cons_of_mem _
    (hblocks 7 0 _ (by decide) (by decide))))

/-- How many octets are added for a password of `n` octets that is longer than 112. -/
def addedLen (n : Nat) : Nat := if n % 16 ≠ 0 ∧ n % 256 ≤ 111 then (n % 256 / 16 + 1) * 16 else 4

theorem addedLen_le : addedLen n ≤ 112 := by
  unfold addedLen
  split <;> omega

/-- What is left of the length of a password that the code does not encode as it should. -/
theorem pwencode_long (h : 112 < src.length) :
    ((radiusPwencode md5 secret error dst RADIUS_PWSIZE src auth).dstlen = 0 ∧ addedLen src.length = 4 ∨
      0 < (radiusPwencode md5 secret error dst RADIUS_PWSIZE src auth).dstlen ∧
      (radiusPwencode md5 secret error dst RADIUS_PWSIZE src auth).dstlen = addedLen src.length) ∧
    ∀ w ∈ (radiusPwencode md5 secret error dst RADIUS_PWSIZE src auth).wrote, w.1 + w.2 ≤ RADIUS_PWSIZE := by
  have hsize : RADIUS_PWSIZE = 128 := rfl
  have heq := @paddedLen_eq src.length
  unfold radiusPwencode
  dsimp only
  by_cases hrefused : RADIUS_PWSIZE ≤ paddedLen src.length
  · rw [if_pos hrefused]
    refine ⟨.inl ⟨rfl, if_neg ?_⟩, ?_⟩
    · rintro ⟨hmod, hlow⟩
      rw [if_pos hmod] at heq
      omega
    · intro w hw
      obtain rfl := List.mem_singleton.mp hw
      exact Nat.le_refl _
  · rw [if_neg hrefused]
    have hmod : src.length % 16 ≠ 0 := by
      intro hzero
      rw [if_neg (not_not.mpr hzero)] at heq
      omega
    rw [if_pos hmod] at heq
    have hadded : addedLen src.length = (src.length % 256 / 16 + 1) * 16 := if_pos ⟨hmod, by omega⟩
    refine ⟨.inr ⟨by dsimp only; omega, by dsimp only; omega⟩, ?_⟩
    obtain ⟨b, hb⟩ : ∃ b, paddedLen src.length = 16 * (0 + b + 1) := ⟨src.length % 256 / 16, by omega⟩
    have hwithin := (@pwBlocks_hideAt md5 secret
      (xorAt (write (write dst 0 (List.replicate RADIUS_PWSIZE 0)) 0
        (if src.length > 128 then src.take 128 else src)) 0 (mask md5 secret auth))
      (paddedLen src.length) 8 b 0 hb (by omega) (by omega)).2
    refine wrote_within ?_ (by omega) hwithin
    split
    · exact List.length_take_le ..
    · omega

end

/-! ## Packets -/

/-- How much of the data of a length is added. -/
def valueLen (dlen : UInt16) : Nat := min (if dlen ≠ 0 then dlen.toNat else 4) 253

/-- Memory with a packet at its front, and the octets that can still be put behind the packet. -/
structure View (P : Type) where
  mem : P → Nat → UInt8
  len : P → Nat
  left : P → Nat

/-- What adding the password has come to: an error and the old packet, or the attribute with the value `v` behind
the old packet. -/
def View.Added {P : Type} (V : View P) (p : P) (r : Int × P) : Option (List UInt8) → Prop
  | none => r.1 ≠ 0 ∧ r.2 = p
  | some v => r.1 = 0 ∧ V.len r.2 = V.len p + (2 + v.length) ∧
      read (V.mem r.2) (V.len p) (2 + v.length) = [RADIUS_ATTR_USER_PASSWORD, UInt8.ofNat (v.length + 2)] ++ v ∧
      ∀ i, 4 ≤ i → i < V.len p → V.mem r.2 i = V.mem p i

/-- The packets of a daemon, with `radius_addattr` for attributes of the type of the password. -/
structure Carrier (P : Type) extends View P where
  addattr : P → (Nat → UInt8) → UInt16 → Int × P
  Valid : P → Prop
  added : ∀ p data dlen, Valid p → toView.Added p (addattr p data dlen)
    (if valueLen dlen + 2 ≤ left p then some (read data 0 (valueLen dlen)) else none)

section
variable {P : Type} (C : Carrier P) (md5 : Eag.Digest)

/-- `radius_add_userpasswd`, with the places in the 128 octets of `passwd` that are written to. The length is put
into sixteen bits. -/
def Carrier.addUserpasswd (error : Int) (passwd : Nat → UInt8) (p : P) (pwd secret : List UInt8) :
    (Int × P) × List (Nat × Nat) :=
  let e := radiusPwencode md5 secret error passwd RADIUS_PWSIZE pwd (read (C.mem p) 4 RADIUS_AUTHLEN)
  (C.addattr p e.dst (UInt16.ofNat e.dstlen), e.wrote)

/-- The value that is to be added: none if the padded password does not fit. -/
def Carrier.wanted (p : P) (pwd secret : List UInt8) : Option (List UInt8) :=
  if (padded 16 pwd).length ≤ RADIUS_PWSIZE ∧ (padded 16 pwd).length + 2 ≤ C.left p then
    some (hide (mask md5 secret) 16 ((padded 16 pwd).length / 16) (read (C.mem p) 4 RADIUS_AUTHLEN) (padded 16 pwd))
  else none

/-- What a call that hides the password does. -/
structure Carrier.Hides (p : P) (pwd secret : List UInt8) (r : (Int × P) × List (Nat × Nat)) : Prop where
  within : ∀ w ∈ r.2, w.1 + w.2 ≤ RADIUS_PWSIZE
  attr : C.Added p r.1 (C.wanted md5 p pwd secret)
  revealed : ∀ v, C.Added p r.1 (some v) →
    reveal (mask md5 secret) 16 (v.length / 16) (read (C.mem p) 4 RADIUS_AUTHLEN) v = padded 16 pwd

end

section
variable {P : Type} {C : Carrier P} {md5 : Eag.Digest} {error : Int} {passwd : Nat → UInt8} {p : P}
  {r : Int × P} {pwd secret : List UInt8} {u v : Option (List UInt8)} {n : Nat}

theorem View.Added.unique {V : View P} (hu : V.Added p r u) (hv : V.Added p r v) : u = v := by
  rcases u with _ | u <;> rcases v with _ | v
  · rfl
  · exact absurd hv.1 hu.1
  · exact absurd hu.1 hv.1
  · have hlen : v.length = u.length := by
      have := hu.2.1.symm.trans hv.2.1
      omega
    have hread := hu.2.2.1.symm.trans (hlen ▸ hv.2.2.1)
    exact congrArg some (List.append_cancel_left hread)

theorem valueLen_ofNat (h : n ≤ 112) : valueLen (UInt16.ofNat n) = if n = 0 then 4 else n := by
  by_cases hzero : n = 0
  · subst hzero
    rfl
  · have hn : (UInt16.ofNat n).toNat = n := by
      rw [UInt16.toNat_ofNat']
      omega
    have hne : UInt16.ofNat n ≠ 0 := by
      intro h0
      rw [h0] at hn
      exact hzero hn.symm
    rw [valueLen, if_pos hne, hn, if_neg hzero, Nat.min_eq_left (by omega)]

theorem mod_padded : (padded 16 pwd).length = 16 * ((padded 16 pwd).length / 16) := by
  rw [length_padded]
  omega

/-- What has been hidden can be revealed. -/
theorem Carrier.wanted_reveals {v : List UInt8} (h : C.wanted md5 p pwd secret = some v) :
    reveal (mask md5 secret) 16 (v.length / 16) (read (C.mem p) 4 RADIUS_AUTHLEN) v = padded 16 pwd := by
  unfold Carrier.wanted at h
  split at h
  · obtain rfl := Option.some.inj h
    rw [length_hide (fun _ => length_mask) mod_padded, Nat.mul_div_cancel_left _ (by decide)]
    exact reveal_hide (fun _ => length_mask) mod_padded
  · cases h

theorem Carrier.hides_short (hp : C.Valid p) (hpos : pwd.length ≠ 0) (h : pwd.length ≤ 112) :
    C.Hides md5 p pwd secret (C.addUserpasswd md5 error passwd p pwd secret) := by
  have hsize : RADIUS_PWSIZE = 128 := rfl
  have hlen := @length_padded 16 pwd
  obtain ⟨hdstlen, hread, hwithin⟩ :=
    @pwencode_short md5 secret pwd (read (C.mem p) 4 RADIUS_AUTHLEN) error passwd hpos h
  have hvalue : valueLen (UInt16.ofNat (padded 16 pwd).length) = (padded 16 pwd).length := by
    rw [valueLen_ofNat (by omega), if_neg (by omega)]
  have hadded : C.Added p (C.addUserpasswd md5 error passwd p pwd secret).1 (C.wanted md5 p pwd secret) := by
    have hspec := C.added p (radiusPwencode md5 secret error passwd RADIUS_PWSIZE pwd
      (read (C.mem p) 4 RADIUS_AUTHLEN)).dst (UInt16.ofNat (padded 16 pwd).length) hp
    rw [hvalue, hread] at hspec
    have hwanted : C.wanted md5 p pwd secret = if (padded 16 pwd).length + 2 ≤ C.left p then
        some (hide (mask md5 secret) 16 ((padded 16 pwd).length / 16) (read (C.mem p) 4 RADIUS_AUTHLEN)
          (padded 16 pwd)) else none := by
      unfold Carrier.wanted
      have hfits : (padded 16 pwd).length ≤ RADIUS_PWSIZE := by omega
      simp only [hfits, true_and]
    rw [hwanted, Carrier.addUserpasswd, hdstlen]
    exact hspec
  exact ⟨hwithin, hadded, fun v hv => Carrier.wanted_reveals (hadded.unique hv)⟩

/-- A longer password: the attribute that the code adds has another value. -/
theorem Carrier.hides_long (hp : C.Valid p) (h : 112 < pwd.length) :
    C.Hides md5 p pwd secret (C.addUserpasswd md5 error passwd p pwd secret) ↔
      C.left p < addedLen pwd.length + 2 := by
  have hsize : RADIUS_PWSIZE = 128 := rfl
  have hlen := @length_padded 16 pwd
  have hadded := @addedLen_le pwd.length
  obtain ⟨hdstlen, hwithin⟩ := @pwencode_long md5 secret pwd (read (C.mem p) 4 RADIUS_AUTHLEN) error passwd h
  have hspec := C.added p (radiusPwencode md5 secret error passwd RADIUS_PWSIZE pwd
    (read (C.mem p) 4 RADIUS_AUTHLEN)).dst (UInt16.ofNat (radiusPwencode md5 secret error passwd RADIUS_PWSIZE pwd
    (read (C.mem p) 4 RADIUS_AUTHLEN)).dstlen) hp
  have hvalue : valueLen (UInt16.ofNat (radiusPwencode md5 secret error passwd RADIUS_PWSIZE pwd
      (read (C.mem p) 4 RADIUS_AUTHLEN)).dstlen) = addedLen pwd.length := by
    rw [valueLen_ofNat (by omega)]
    split <;> omega
  rw [hvalue] at hspec
  constructor
  · intro hhides
    by_contra hroom
    rw [if_pos (by omega)] at hspec
    have heq := hspec.unique hhides.attr
    unfold Carrier.wanted at heq
    split at heq
    · have hlens := congrArg List.length (Option.some.inj heq)
      rw [length_read, length_hide (fun _ => length_mask) mod_padded, ← mod_padded] at hlens
      omega
    · cases heq
  · intro hroom
    rw [if_neg (by omega)] at hspec
    have hwanted : C.wanted md5 p pwd secret = none := by
      refine if_neg ?_
      rintro ⟨-, hfit⟩
      omega
    refine ⟨hwithin, ?_, fun v hv => ?_⟩
    · rw [hwanted]
      exact hspec
    · cases hspec.unique hv

theorem Carrier.hides_iff (hp : C.Valid p) :
    C.Hides md5 p pwd secret (C.addUserpasswd md5 error passwd p pwd secret) ↔
      pwd.length ≠ 0 ∧ (pwd.length ≤ 112 ∨ C.left p < addedLen pwd.length + 2) := by
  by_cases hempty : pwd.length = 0
  · refine ⟨fun h => ?_, fun h => absurd hempty h.1⟩
    obtain rfl := List.eq_nil_of_length_eq_zero hempty
    exact absurd (h.within (128, 16) (@pwencode_empty md5 secret _ error passwd)) (by decide)
  · by_cases hshort : pwd.length ≤ 112
    · exact ⟨fun _ => ⟨hempty, .inl hshort⟩, fun _ => Carrier.hides_short hp hempty hshort⟩
    · rw [Carrier.hides_long hp (by omega)]
      exact ⟨fun h => ⟨hempty, .inr h⟩, fun h => h.2.resolve_left hshort⟩

end

/-! ## The two daemons -/

def EAG_ERR_RADIUS_PKG_OUTOFF_SIZE : Int := -4006

/-- The attribute of the password in the arguments of `radius_addattr`. -/
def eagPassword (data : Nat → UInt8) (dlen : UInt16) : Eag.Addition :=
  { type := RADIUS_ATTR_USER_PASSWORD, data := some data, dlen := dlen }

def pppoePassword (data : Nat → UInt8) (dlen : UInt16) : Pppoe.RadiusAttrs.Addition :=
  { type := RADIUS_ATTR_USER_PASSWORD, data := some data, dlen := dlen }

def eagView : View Eag.Packet where
  mem pack := pack
  len := Eag.radiusLength
  left pack := Eag.RADIUS_PACKET_SIZE - Eag.radiusLength pack

def pppoeView : View Pppoe.RadiusAttrs.DataBuf where
  mem b := b.mem
  len b := b.len
  left b := b.size - b.len

/-- `radius_addattr` with what it returns. -/
def eagAddattr (pack : Eag.Packet) (data : Nat → UInt8) (dlen : UInt16) : Int × Eag.Packet :=
  (if Eag.HasSpace pack (eagPassword data dlen) then 0 else EAG_ERR_RADIUS_PKG_OUTOFF_SIZE,
    Eag.radiusAddattr pack (eagPassword data dlen))

def pppoeAddattr (b : Pppoe.RadiusAttrs.DataBuf) (data : Nat → UInt8) (dlen : UInt16) :
    Int × Pppoe.RadiusAttrs.DataBuf :=
  match Pppoe.RadiusAttrs.radiusAddattr b (pppoePassword data dlen) with
  | some b' => (Pppoe.PPPOEERR_SUCCESS, b')
  | none => (Pppoe.PPPOEERR_ENOMEM, b)

theorem eag_added {pack : Eag.Packet} {data : Nat → UInt8} {dlen : UInt16}
    (h : Eag.RADIUS_PACKET_HEADSIZE ≤ Eag.radiusLength pack) :
    eagView.Added pack (eagAddattr pack data dlen)
      (if valueLen dlen + 2 ≤ eagView.left pack then some (read data 0 (valueLen dlen)) else none) := by
  have hhead : Eag.RADIUS_PACKET_HEADSIZE = 20 := rfl
  have hsize : (eagPassword data dlen).size = valueLen dlen := rfl
  have hspace : Eag.HasSpace pack (eagPassword data dlen) ↔ valueLen dlen + 2 ≤ eagView.left pack := by
    unfold Eag.HasSpace eagView
    rw [hsize]
    dsimp only
    omega
  unfold eagAddattr
  by_cases hroom : Eag.HasSpace pack (eagPassword data dlen)
  · rw [if_pos hroom, if_pos (hspace.mp hroom)]
    obtain ⟨hlen, hplaced⟩ := Eag.addattr_placed hroom (by omega)
    have hvalue : Eag.valueLeft pack (eagPassword data dlen) = read data 0 (valueLen dlen) :=
      Eag.valueLeft_octets rfl rfl
    have hext := @Eag.addattr_extends pack (eagPassword data dlen) (by omega)
    refine ⟨rfl, ?_, ?_, hext.same⟩
    · rw [length_read]
      exact hlen.trans (Nat.add_assoc _ _ _ |>.trans (by rw [hsize, Nat.add_comm (valueLen dlen)]; rfl))
    · rw [length_read, read_add]
      exact congrArg₂ (· ++ ·) hplaced.head (hplaced.value.trans hvalue)
  · rw [if_neg hroom, if_neg fun h => hroom (hspace.mpr h), Eag.addattr_full hroom]
    exact ⟨show EAG_ERR_RADIUS_PKG_OUTOFF_SIZE ≠ 0 by decide, rfl⟩

theorem pppoe_added {b : Pppoe.RadiusAttrs.DataBuf} {data : Nat → UInt8} {dlen : UInt16}
    (h : Pppoe.RadiusAttrs.Framed b) :
    pppoeView.Added b (pppoeAddattr b data dlen)
      (if valueLen dlen + 2 ≤ pppoeView.left b then some (read data 0 (valueLen dlen)) else none) := by
  have hroom := h.room
  have hsize := h.size
  have hlen : min (pppoePassword data dlen).givenLen Pppoe.RadiusAttrs.RADIUS_ATTR_VLEN = valueLen dlen := rfl
  have hleft : pppoeView.left b = b.size - b.len := rfl
  unfold pppoeAddattr Pppoe.RadiusAttrs.radiusAddattr Pppoe.RadiusAttrs.DataBuf.tailroom
  dsimp only
  have htype : (pppoePassword data dlen).type ≠ Pppoe.RadiusAttrs.RADIUS_ATTR_VENDOR_SPECIFIC :=
    show RADIUS_ATTR_USER_PASSWORD ≠ 26 by decide
  rw [if_pos htype, hlen]
  by_cases hfull : ((b.size : Int) - b.len) < (valueLen dlen + 2 : Nat)
  · rw [if_pos hfull, if_neg (by omega)]
    exact ⟨show Pppoe.PPPOEERR_ENOMEM ≠ 0 by decide, rfl⟩
  · rw [if_neg hfull, if_pos (by omega)]
    have hput := @Pppoe.RadiusAttrs.put_len b (valueLen dlen + 2) (by omega)
    have hhead := h.head
    have h20 : Pppoe.RadiusAttrs.sizeofRadiusPacket = 20 := rfl
    refine ⟨rfl, ?_, ?_, ?_⟩
    · rw [length_read, Nat.add_comm 2]
      exact hput
    · refine (read_write_of_disjoint (.inr (by show 4 ≤ b.len; omega))).trans ?_
      have hwritten := @Pppoe.RadiusAttrs.read_written b.mem b.len
        [RADIUS_ATTR_USER_PASSWORD, UInt8.ofNat (valueLen dlen + 2)] (read data 0 (valueLen dlen))
      rw [length_read] at hwritten ⊢
      exact hwritten
    · intro i hi hlt
      have hlt : i < b.len := hlt
      refine (write_of_ge hi).trans ?_
      exact (write_of_lt (Nat.lt_add_right 2 hlt)).trans (write_of_lt hlt)

def eagPackets : Carrier Eag.Packet where
  toView := eagView
  addattr := eagAddattr
  Valid pack := Eag.RADIUS_PACKET_HEADSIZE ≤ Eag.radiusLength pack
  added _ _ _ h := eag_added h

def pppoePackets : Carrier Pppoe.RadiusAttrs.DataBuf where
  toView := pppoeView
  addattr := pppoeAddattr
  Valid := Pppoe.RadiusAttrs.Framed
  added _ _ _ h := pppoe_added h

end Radius

namespace Eag

/-- `radius_add_userpasswd` of the portal. -/
def radiusAddUserpasswd (md5 : Digest) (passwd : Nat → UInt8) (pack : Packet) (pwd secret : List UInt8) :
    (Int × Packet) × List (Nat × Nat) :=
  Radius.eagPackets.addUserpasswd md5 (-1) passwd pack pwd secret

end Eag

namespace Pppoe

/-- `radius_add_userpasswd` of the PPPoE server. -/
def radiusAddUserpasswd (md5 : Eag.Digest) (passwd : Nat → UInt8) (b : RadiusAttrs.DataBuf)
    (pwd secret : List UInt8) : (Int × RadiusAttrs.DataBuf) × List (Nat × Nat) :=
  Radius.pppoePackets.addUserpasswd md5 PPPOEERR_EINVAL passwd b pwd secret

end Pppoe

namespace Radius

/-- Both daemons hide the passwords of 1 to 112 octets, and the longer ones for which there is no room in the
packet. -/
theorem hidden_iff (md5 : Eag.Digest) (passwd : Nat → UInt8) (pwd secret : List UInt8) :
    (∀ pack, Eag.RADIUS_PACKET_HEADSIZE ≤ Eag.radiusLength pack →
      (eagPackets.Hides md5 pack pwd secret (Eag.radiusAddUserpasswd md5 passwd pack pwd secret) ↔
        pwd.length ≠ 0 ∧
          (pwd.length ≤ 112 ∨ Eag.RADIUS_PACKET_SIZE - Eag.radiusLength pack < addedLen pwd.length + 2))) ∧
    (∀ b, Pppoe.RadiusAttrs.Framed b →
      (pppoePackets.Hides md5 b pwd secret (Pppoe.radiusAddUserpasswd md5 passwd b pwd secret) ↔
        pwd.length ≠ 0 ∧ (pwd.length ≤ 112 ∨ b.size - b.len < addedLen pwd.length + 2))) :=
  ⟨fun _ h => Carrier.hides_iff h, fun _ h => Carrier.hides_iff h⟩

theorem size_md5 (bs : List UInt8) : (Pppoe.Md5.md5 bs).toArray.size = 16 := by
  simp [Pppoe.Md5.md5, Pppoe.Md5.leBytes]

/-- The digest of `md5.c`. -/
def md5 : Eag.Digest := fun bs => ⟨(Pppoe.Md5.md5 bs).toArray, size_md5 bs⟩

/-- An access request without attributes. -/
def requestHead : Eag.Packet := fun i => ([1, 7, 0, 20] : List UInt8).getD i 0

def requestBuf : Pppoe.RadiusAttrs.DataBuf := ⟨requestHead, 20, 4096⟩

theorem requestHead_valid : Eag.RADIUS_PACKET_HEADSIZE ≤ Eag.radiusLength requestHead := by decide

theorem requestBuf_framed : Pppoe.RadiusAttrs.Framed requestBuf :=
  ⟨by decide, by decide, by decide, by decide⟩

theorem hidden_iff_short :
    eagPackets.Hides md5 requestHead [117, 115, 101] [107]
        (Eag.radiusAddUserpasswd md5 (fun _ => 0) requestHead [117, 115, 101] [107]) ∧
      pppoePackets.Hides md5 requestBuf [117, 115, 101] [107]
        (Pppoe.radiusAddUserpasswd md5 (fun _ => 0) requestBuf [117, 115, 101] [107]) := by
  obtain ⟨heag, hpppoe⟩ := hidden_iff md5 (fun _ => 0) [117, 115, 101] [107]
  exact ⟨(heag requestHead requestHead_valid).mpr ⟨by decide, .inl (by decide)⟩,
    (hpppoe requestBuf requestBuf_framed).mpr ⟨by decide, .inl (by decide)⟩⟩

/-- A password of 120 octets, 128 with its zeros, is replaced by four zeros. -/
theorem long_password_lost :
    ¬ eagPackets.Hides md5 requestHead (List.replicate 120 97) [107]
        (Eag.radiusAddUserpasswd md5 (fun _ => 0) requestHead (List.replicate 120 97) [107]) ∧
      ¬ pppoePackets.Hides md5 requestBuf (List.replicate 120 97) [107]
        (Pppoe.radiusAddUserpasswd md5 (fun _ => 0) requestBuf (List.replicate 120 97) [107]) := by
  have hlen : (List.replicate 120 (97 : UInt8)).length = 120 := List.length_replicate
  have hadded : addedLen 120 = 4 := by decide
  refine ⟨fun h => ?_, fun h => ?_⟩
  · obtain ⟨-, hshort | hfull⟩ := (Carrier.hides_iff (C := eagPackets) requestHead_valid).mp h
    · omega
    · rw [hlen, hadded] at hfull
      exact absurd hfull (by decide)
  · obtain ⟨-, hshort | hfull⟩ := (Carrier.hides_iff (C := pppoePackets) requestBuf_framed).mp h
    · omega
    · rw [hlen, hadded] at hfull
      exact absurd hfull (by decide)

end Radius
end DaemonGroup
