import DaemonGroup.Eag.Packets

/-!
# DaemonGroup.Eag.Authenticators

Each function that stamps a packet agrees with the function that checks it.

Both sides digest the same bytes: the stamping side the whole packet with a value in the place of
the authenticator, the checking side the head before it, the value, and the packet after it
(`read_spliced`). What the length of the packet is read from lies outside the authenticator, so
that stamping does not change it.
-/

namespace DaemonGroup
namespace Eag

open Lib Bytes

theorem memcmp_self (l : List UInt8) : memcmp l l = 0 := by
  induction l with
  | nil => rfl
  | cons x l ih => simp [memcmp, ih]

theorem sizeT_sub {n k : Nat} (h : k ≤ n) (hn : n < 2 ^ 64) : sizeT ((n : Int) - k) = n - k := by
  unfold sizeT
  omega

section
variable {auth new : List UInt8} {n : Nat}

/-- A packet with `auth` at `a`, read from its start: the bytes before `a`, `auth`, and the bytes
from `h`, the end of the head, on. -/
theorem read_spliced (pack : Packet) (a h : Nat) (hl : auth.length = h - a) (ha : a ≤ h)
    (hn : h ≤ n) :
    read (write pack a auth) 0 n = read pack 0 a ++ auth ++ read pack h (n - h) := by
  have e1 : n = a + ((h - a) + (n - h)) := by omega
  have h1 : read (write pack a auth) 0 a = read pack 0 a := read_write_of_disjoint (.inl (by omega))
  have h2 : read (write pack a auth) (0 + a) (h - a) = auth := by
    rw [Nat.zero_add, ← hl]
    exact read_write_self
  have h3 : read (write pack a auth) (0 + a + (h - a)) (n - h) = read pack h (n - h) := by
    rw [show 0 + a + (h - a) = h by omega]
    exact read_write_of_disjoint (.inr (by omega))
  conv_lhs => rw [e1]
  rw [read_add, read_add, h1, h2, h3, List.append_assoc]

/-- What a check reads of a packet around its authenticator is not the authenticator. -/
theorem read_around (pack : Packet) (a h n : Nat) (hl : new.length = h - a) (ha : a ≤ h) :
    read (write pack a new) 0 a = read pack 0 a ∧
      read (write pack a new) h n = read pack h n ∧
      read (write pack a new) a (h - a) = new := by
  refine ⟨read_write_of_disjoint (.inl (by omega)), read_write_of_disjoint (.inr (by omega)), ?_⟩
  rw [← hl]
  exact read_write_self

end

/-! ## RADIUS -/

section
variable {md5 : Digest} {pack : Packet} {auth secret : List UInt8}

theorem radiusLength_write :
    radiusLength (write pack radiusAuth auth) = radiusLength pack := by
  simp [radiusLength, write, radiusAuth]

theorem radiusLength_lt : radiusLength pack < 2 ^ 64 := by
  have h1 := (pack 2).toNat_lt
  have h2 := (pack 3).toNat_lt
  unfold radiusLength
  omega

/-- A RADIUS packet stamped with `auth` in the place of its authenticator passes the check with
`auth`. -/
theorem radiusCheck_stamped (hl : auth.length = RADIUS_AUTHLEN)
    (hp : RADIUS_PACKET_HEADSIZE ≤ radiusLength pack) :
    (radiusCheck md5
      (write (write pack radiusAuth auth) radiusAuth
        (md5 (read (write pack radiusAuth auth) 0 (radiusLength (write pack radiusAuth auth)) ++
          secret)).toList) auth secret).2 = 0 := by
  rw [radiusLength_write]
  set digest := (md5 (read (write pack radiusAuth auth) 0 (radiusLength pack) ++ secret)).toList
    with hdigest
  have hlen : digest.length = RADIUS_AUTHLEN := by simp [hdigest, RADIUS_AUTHLEN]
  obtain ⟨r1, r2, r3⟩ := read_around (write pack radiusAuth auth) radiusAuth
    RADIUS_PACKET_HEADSIZE (radiusLength pack - RADIUS_PACKET_HEADSIZE) hlen (by decide)
  obtain ⟨q1, q2, -⟩ := read_around pack radiusAuth RADIUS_PACKET_HEADSIZE
    (radiusLength pack - RADIUS_PACKET_HEADSIZE) hl (by decide)
  have hctx := read_spliced pack radiusAuth RADIUS_PACKET_HEADSIZE hl (by decide) hp
  unfold radiusCheck
  dsimp only
  rw [radiusLength_write, radiusLength_write, sizeT_sub hp radiusLength_lt, r2, q2]
  rw [show RADIUS_PACKET_HEADSIZE - RADIUS_AUTHLEN = radiusAuth from rfl, r1, q1, ← hctx]
  rw [show RADIUS_AUTHLEN = RADIUS_PACKET_HEADSIZE - radiusAuth from rfl, r3, ← hdigest]
  exact memcmp_self digest

end

/-! ## Portal -/

section
variable {p : Protocol} {md5 : Digest} {pack pack' : Packet} {auth secret : List UInt8}

/-- The length of the attributes from `attr` on does not depend on the bytes before them. -/
theorem lengthLoop_congr {k : Nat} (h : ∀ i, k ≤ i → pack' i = pack i) :
    ∀ n length attr, k ≤ attr → lengthLoop pack' n length attr = lengthLoop pack n length attr := by
  intro n
  induction n with
  | zero => intro length attr _; rfl
  | succ n ih =>
    intro length attr hk
    unfold lengthLoop
    rw [h (attr + 1) (by omega)]
    dsimp only
    split
    · rfl
    · exact ih _ _ (by omega)

/-- Unless it gives up, the loop does not lose what it has added. -/
theorem lengthLoop_le : ∀ n length attr, length ≤ PORTAL_PACKET_SIZE →
    lengthLoop pack n length attr = 0 ∨
      (length ≤ lengthLoop pack n length attr ∧
        lengthLoop pack n length attr ≤ PORTAL_PACKET_SIZE) := by
  intro n
  induction n with
  | zero =>
    intro length attr hl
    right
    exact ⟨Nat.le_refl _, hl⟩
  | succ n ih =>
    intro length attr hl
    unfold lengthLoop
    dsimp only
    split
    · left; rfl
    · rcases ih (length + (pack (attr + 1)).toNat) (attr + (pack (attr + 1)).toNat) (by omega) with
        h0 | ⟨h1, h2⟩
      · exact .inl h0
      · exact .inr ⟨by omega, h2⟩

theorem telecomLength_write (hl : auth.length = PORTAL_AUTHLEN) :
    portalPacketGetLength .PORTAL_PROTOCOL_TELECOM (write pack portalAuth auth) =
      portalPacketGetLength .PORTAL_PROTOCOL_TELECOM pack := by
  have hnum : attrNum (write pack portalAuth auth) = attrNum pack := by
    simp [attrNum, write, portalAuth]
  unfold portalPacketGetLength
  rw [hnum]
  refine lengthLoop_congr (k := PORTAL_PACKET_TELECOM_HEADSIZE) (fun i hi => ?_) _ _ _
    (Nat.le_refl _)
  refine write_of_ge ?_
  rw [hl]
  exact hi

/-- A portal packet stamped with `auth` in the place of its authenticator passes the check with
`auth`. -/
theorem portalCheck_stamped (hl : auth.length = PORTAL_AUTHLEN)
    (hp : portalPacketGetLength p pack ≠ 0) :
    (portalCheck p md5 (portalStamp p md5 pack auth secret) auth secret).2 = 0 := by
  cases p with
  | PORTAL_PROTOCOL_MOBILE => rfl
  | PORTAL_PROTOCOL_TELECOM =>
    obtain ⟨hlo, hhi⟩ := (lengthLoop_le (attrNum pack)
      PORTAL_PACKET_TELECOM_HEADSIZE PORTAL_PACKET_TELECOM_HEADSIZE (by decide)).resolve_left hp
    change PORTAL_PACKET_TELECOM_HEADSIZE ≤ portalPacketGetLength .PORTAL_PROTOCOL_TELECOM pack
      at hlo
    change portalPacketGetLength .PORTAL_PROTOCOL_TELECOM pack ≤ PORTAL_PACKET_SIZE at hhi
    unfold portalStamp
    dsimp only
    rw [telecomLength_write hl]
    set n := portalPacketGetLength .PORTAL_PROTOCOL_TELECOM pack with hn
    set digest := (md5 (read (write pack portalAuth auth) 0 n ++ secret)).toList with hdigest
    have hlen : digest.length = PORTAL_AUTHLEN := by simp [hdigest, PORTAL_AUTHLEN]
    obtain ⟨r1, r2, r3⟩ := read_around (write pack portalAuth auth) portalAuth
      PORTAL_PACKET_TELECOM_HEADSIZE (n - PORTAL_PACKET_TELECOM_HEADSIZE) hlen (by decide)
    obtain ⟨q1, q2, -⟩ := read_around pack portalAuth PORTAL_PACKET_TELECOM_HEADSIZE
      (n - PORTAL_PACKET_TELECOM_HEADSIZE) hl (by decide)
    have hctx := read_spliced pack portalAuth PORTAL_PACKET_TELECOM_HEADSIZE hl (by decide) hlo
    have hlt : n < 2 ^ 64 := Nat.lt_of_le_of_lt hhi (by decide)
    unfold portalCheck
    dsimp only
    rw [telecomLength_write hlen, telecomLength_write hl, ← hn, sizeT_sub hlo hlt, r2, q2]
    rw [show PORTAL_PACKET_TELECOM_HEADSIZE - PORTAL_AUTHLEN = portalAuth from rfl, r1, q1, ← hctx]
    rw [show PORTAL_AUTHLEN = PORTAL_PACKET_TELECOM_HEADSIZE - portalAuth from rfl, r3, ← hdigest]
    exact memcmp_self digest

/-- A check leaves the packet as it is. -/
theorem portalCheck_fst : (portalCheck p md5 pack auth secret).1 = pack := by
  cases p <;> rfl

end

/-- Generators and checks agree, for every digest function and secret, on every RADIUS packet whose
length field covers its head and every portal packet whose attributes fit; and every check leaves
its packet, the authenticator included, as it was received. -/
theorem authenticators_agree (md5 : Digest) (p : Protocol) (secret : List UInt8)
    (rad req por preq : Packet) (hr : RADIUS_PACKET_HEADSIZE ≤ radiusLength rad)
    (hp : portalPacketGetLength p por ≠ 0) :
    (radiusRequestCheck md5 (radiusAcctreqAuthenticator md5 rad secret) secret).2 = 0 ∧
    (radiusReplyCheck md5
      (radiusAuthrespAuthenticator md5 rad (read req radiusAuth RADIUS_AUTHLEN) secret) req
      secret).2 = 0 ∧
    (portalRequestCheck p md5 (portalReqAuthenticator p md5 por secret) secret).2 = 0 ∧
    (portalResponseCheck p md5 (portalRespAuthenticator p md5 por preq secret) preq secret).2 = 0 ∧
    (∀ pack, (radiusRequestCheck md5 pack secret).1 = pack) ∧
    (∀ pack, (radiusReplyCheck md5 pack req secret).1 = pack) ∧
    (∀ pack, (portalRequestCheck p md5 pack secret).1 = pack) ∧
    (∀ pack, (portalResponseCheck p md5 pack preq secret).1 = pack) :=
  ⟨radiusCheck_stamped (by simp) hr, radiusCheck_stamped (by simp) hr,
    portalCheck_stamped (by simp) hp, portalCheck_stamped (by simp) hp,
    fun _ => rfl, fun _ => rfl, fun _ => portalCheck_fst, fun _ => portalCheck_fst⟩

/-- An accounting request of 23 bytes with one attribute, and a portal request with one attribute
of six bytes. -/
def sampleRadius : Packet := fun i => ([4, 7, 0, 23] : List UInt8).getD i 1

def samplePortal : Packet := fun i => if i = 15 then 1 else if i = 33 then 6 else 2

theorem authenticators_agree_sample :
    RADIUS_PACKET_HEADSIZE ≤ radiusLength sampleRadius ∧
    portalPacketGetLength .PORTAL_PROTOCOL_TELECOM samplePortal = 38 ∧
    ∀ md5 secret,
      (radiusRequestCheck md5 (radiusAcctreqAuthenticator md5 sampleRadius secret) secret).2 = 0 ∧
      (portalRequestCheck .PORTAL_PROTOCOL_TELECOM md5
        (portalReqAuthenticator .PORTAL_PROTOCOL_TELECOM md5 samplePortal secret) secret).2 = 0 := by
  refine ⟨by decide, by decide, fun md5 secret => ?_⟩
  have h := authenticators_agree md5 .PORTAL_PROTOCOL_TELECOM secret sampleRadius sampleRadius
    samplePortal samplePortal (by decide) (by decide)
  exact ⟨h.1, h.2.2.1⟩

end Eag
end DaemonGroup
