import DaemonGroup.Eag.PortalTimers
import DaemonGroup.Lib.Hops

/-!
# DaemonGroup.Eag.PortalBounds

What the walks through the attributes of a portal packet visit, and what is copied out of them before the
authenticator is looked at. `portal_receive` knows the sum of the length octets only: an attribute may be
shorter than its head, and a value longer than what it is copied to (`Portal.bounded_iff`).
-/

namespace DaemonGroup
namespace Eag

open Lib Bytes

def MAX_ATTR_VALUE_LEN : Nat := 253

namespace Portal

/-! ## What is visited -/

/-- `attr->len`. -/
def attrLen (pkt : Packet) (attr : Nat) : Nat := (pkt (attr + 1)).toNat

/-- The attribute number `i`. -/
def attrAt (p : Protocol) (pkt : Packet) (i : Nat) : Nat := hop (attrLen pkt) (portalPacketMinsize p) i

/-- The attributes that `portal_packet_get_length` visits. -/
def lengthVisits (pkt : Packet) : Nat → Nat → Nat → List Nat
  | 0, _, _ => []
  | n + 1, length, attr =>
    attr :: if length + attrLen pkt attr > PORTAL_PACKET_SIZE then []
      else lengthVisits pkt n (length + attrLen pkt attr) (attr + attrLen pkt attr)

/-- The attributes that `portal_packet_get_attr` visits. -/
def getAttrVisits (pkt : Packet) (type : UInt8) : Nat → Nat → List Nat
  | 0, _ => []
  | n + 1, attr =>
    attr :: if pkt attr = type then [] else getAttrVisits pkt type n (attr + attrLen pkt attr)

/-- `portal_packet_get_next_attr`. -/
def portalPacketGetNextAttr (p : Protocol) (pkt : Packet) (attr : Option Nat) : Option Nat :=
  if attrNum pkt = 0 then none
  else match attr with
    | none => some (portalPacketMinsize p)
    | some attr =>
      if portalPacketGetLength p pkt ≤ attr + attrLen pkt attr then none else some (attr + attrLen pkt attr)

/-- The attributes of an iteration with `portal_packet_get_next_attr`, from `attr` on; `none` is an iteration
that has not ended after `fuel` rounds. -/
def nextVisits (p : Protocol) (pkt : Packet) : Nat → Option Nat → Option (List Nat)
  | 0, _ => none
  | fuel + 1, attr =>
    match portalPacketGetNextAttr p pkt attr with
    | none => some []
    | some attr => (nextVisits p pkt fuel (some attr)).map (attr :: ·)

/-- The attribute is one of the octets that were received: its head and its length. -/
def Inside (pkt : Packet) (nbyte attr : Nat) : Prop := attr + 2 ≤ nbyte ∧ attr + attrLen pkt attr ≤ nbyte

/-! ## What is copied -/

/-- `count` octets of the value of an attribute are copied to a field of `size` octets. -/
structure Copy where
  attr : Nat
  count : Int
  size : Nat

/-- A number of octets, of the attribute and of the field. -/
def Copy.Fits (pkt : Packet) (c : Copy) : Prop :=
  0 ≤ c.count ∧ c.count ≤ attrLen pkt c.attr - 2 ∧ c.count ≤ c.size

/-- `memcpy` of `attr->len - 2` octets of the attribute of a type. -/
def copyValue (env : PortalEnv) (pkt : Packet) (type : UInt8) (size : Nat) : List Copy :=
  (portalPacketGetAttr env.protocol pkt type).toList.map fun attr => ⟨attr, attrLen pkt attr - 2, size⟩

/-- The copy of `portal_packet_init_ipx`. -/
def ipxCopies (env : PortalEnv) (pkt : Packet) : List Copy := copyValue env pkt ATTR_USER_IPV6 16

/-- The copy of `portal_packet_init_rsp`: `portal_packet_add_attr` gets `attr->len - 2` as a `size_t`, and what
is too long it does not copy. -/
def rspCopies (env : PortalEnv) (pkt : Packet) : List Copy :=
  (copyValue env pkt ATTR_USER_IPV6 (PORTAL_PACKET_SIZE - portalPacketMinsize env.protocol - 2)).filter fun c =>
    sizeT c.count ≤ MAX_ATTR_VALUE_LEN

/-- The copies of `eag_portal_chapauth_proc`. -/
def chapCopies (env : PortalEnv) (pkt : Packet) : List Copy :=
  copyValue env pkt ATTR_USERNAME USERNAMESIZE ++
    ((copyValue env pkt ATTR_CHAPPASSWORD RADIUS_PASSWORD_LEN.toNat).filter fun c =>
      pkt (c.attr + 1) = RADIUS_PASSWORD_LEN + 2)

/-- The copies of `eag_portal_papauth_proc`. -/
def papCopies (env : PortalEnv) (pkt : Packet) : List Copy :=
  copyValue env pkt ATTR_USERNAME USERNAMESIZE ++
    ((copyValue env pkt ATTR_PASSWORD USERNAMESIZE).filter fun c => ¬ pkt (c.attr + 1) < 3)

/-- What the handler of the packet copies out of it, at most. -/
def handlerCopies (env : PortalEnv) (pkt : Packet) : List Copy :=
  let rsp := ipxCopies env pkt ++ rspCopies env pkt
  if packetType pkt = REQ_CHALLENGE then rsp
  else if packetType pkt = REQ_AUTH then
    if packetAuthType pkt = AUTH_CHAP then rsp ++ chapCopies env pkt
    else if packetAuthType pkt = AUTH_PAP then rsp ++ papCopies env pkt
    else []
  else if packetType pkt = REQ_LOGOUT then
    if packetErrCode pkt = 0 then rsp
    else if packetErrCode pkt = 1 then ipxCopies env pkt
    else []
  else if packetType pkt = REQ_INFO then rsp
  else if packetType pkt = ACK_LOGOUT ∨ packetType pkt = AFF_ACK_AUTH ∨ packetType pkt = ACK_MACBINDING_INFO ∨
      packetType pkt = REQ_USER_OFFLINE then ipxCopies env pkt
  else []

/-- What is copied out of a packet: `portal_proc_packet` copies the address before it looks for a handler. -/
def copies (env : PortalEnv) (pkt : Packet) : List Copy :=
  if packetType pkt ∈ portalTypes then ipxCopies env pkt ++ handlerCopies env pkt else []

/-- Everything that is visited is inside what was received, the iteration ends, and every copy fits. -/
structure Bounded (env : PortalEnv) (pkt : Packet) (nbyte : Nat) : Prop where
  length : ∀ attr ∈ lengthVisits pkt (attrNum pkt) (portalPacketMinsize env.protocol)
    (portalPacketMinsize env.protocol), Inside pkt nbyte attr
  get : ∀ type, ∀ attr ∈ getAttrVisits pkt type (attrNum pkt) (portalPacketMinsize env.protocol),
    Inside pkt nbyte attr
  next : ∃ fuel visits, nextVisits env.protocol pkt fuel none = some visits ∧
    ∀ attr ∈ visits, Inside pkt nbyte attr
  copies : ∀ c ∈ copies env pkt, c.Fits pkt

/-- The last attribute has a head; the first IPv6 attribute, if `portal_receive` lets the packet through, has an
address of at most 16 octets, and the first name, if the packet is a login, has a head. -/
structure WellSized (env : PortalEnv) (pkt : Packet) : Prop where
  last : attrNum pkt ≠ 0 → 2 ≤ attrLen pkt (attrAt env.protocol pkt (attrNum pkt - 1))
  ipv6 : packetType pkt ∈ portalTypes → ∀ attr, portalPacketGetAttr env.protocol pkt ATTR_USER_IPV6 = some attr →
    2 ≤ attrLen pkt attr ∧ attrLen pkt attr ≤ 18
  username : packetType pkt = REQ_AUTH → packetAuthType pkt = AUTH_CHAP ∨ packetAuthType pkt = AUTH_PAP → ∀ attr,
    portalPacketGetAttr env.protocol pkt ATTR_USERNAME = some attr → 2 ≤ attrLen pkt attr

/-! ## The walks -/

section
variable {env : PortalEnv} {pkt : Packet} {nbyte : Nat}

theorem attrLen_le (attr : Nat) : attrLen pkt attr ≤ 255 := by
  have := (pkt (attr + 1)).toNat_lt
  unfold attrLen
  omega

/-- A length that is not refused is the end of the last attribute, and every attribute was visited. -/
theorem lengthLoop_hop {n length attr : Nat} (hne : lengthLoop pkt n length attr ≠ 0) :
    lengthLoop pkt n length attr + attr = hop (attrLen pkt) attr n + length ∧
      lengthVisits pkt n length attr = (List.range n).map (hop (attrLen pkt) attr) := by
  induction n generalizing length attr with
  | zero =>
    constructor
    · exact Nat.add_comm _ _
    · rfl
  | succ n ih =>
    rw [lengthLoop] at hne ⊢
    rw [lengthVisits]
    by_cases hbig : length + attrLen pkt attr > PORTAL_PACKET_SIZE
    · exact absurd (if_pos hbig) hne
    · have hrest : lengthLoop pkt n (length + attrLen pkt attr) (attr + attrLen pkt attr) ≠ 0 := by
        intro hz
        exact hne ((if_neg hbig).trans hz)
      obtain ⟨hend, hvisits⟩ := ih hrest
      constructor
      · have hval : (if length + (pkt (attr + 1)).toNat > PORTAL_PACKET_SIZE then 0
            else lengthLoop pkt n (length + (pkt (attr + 1)).toNat) (attr + (pkt (attr + 1)).toNat)) =
            lengthLoop pkt n (length + attrLen pkt attr) (attr + attrLen pkt attr) := if_neg hbig
        simp only [hop]
        rw [hval]
        omega
      · rw [if_neg hbig, hvisits, List.range_succ_eq_map, List.map_cons, List.map_map]
        rfl

theorem getAttrVisits_hop {type : UInt8} {n a attr : Nat} (hmem : attr ∈ getAttrVisits pkt type n a) :
    ∃ i < n, attr = hop (attrLen pkt) a i := by
  induction n generalizing a with
  | zero => exact absurd hmem List.not_mem_nil
  | succ n ih =>
    rw [getAttrVisits] at hmem
    rcases List.mem_cons.mp hmem with rfl | hrest
    · exact ⟨0, Nat.succ_pos n, rfl⟩
    · split at hrest
      · exact absurd hrest List.not_mem_nil
      · obtain ⟨i, hi, rfl⟩ := ih hrest
        exact ⟨i + 1, Nat.succ_lt_succ hi, rfl⟩

/-- The iteration from the attribute number `i` ends at the first one that is behind the packet. -/
theorem nextVisits_from (hnum : attrNum pkt ≠ 0) (hlen : portalPacketGetLength env.protocol pkt = nbyte)
    {k i : Nat} (hfar : nbyte ≤ attrAt env.protocol pkt (i + k + 1)) :
    ∃ visits, nextVisits env.protocol pkt (k + 1) (some (attrAt env.protocol pkt i)) = some visits ∧
      ∀ attr ∈ visits, ∃ j, attr = attrAt env.protocol pkt j ∧ attr < nbyte := by
  have hnext : ∀ i, portalPacketGetNextAttr env.protocol pkt (some (attrAt env.protocol pkt i)) =
      if nbyte ≤ attrAt env.protocol pkt (i + 1) then none else some (attrAt env.protocol pkt (i + 1)) := by
    intro i
    simp only [portalPacketGetNextAttr, if_neg hnum, hlen, attrAt, hop_succ]
  induction k generalizing i with
  | zero =>
    refine ⟨[], ?_, fun attr hmem => absurd hmem List.not_mem_nil⟩
    rw [nextVisits, hnext, if_pos hfar]
  | succ k ih =>
    by_cases hend : nbyte ≤ attrAt env.protocol pkt (i + 1)
    · refine ⟨[], ?_, fun attr hmem => absurd hmem List.not_mem_nil⟩
      rw [nextVisits, hnext, if_pos hend]
    · obtain ⟨visits, hrun, hall⟩ := ih (i := i + 1) (by rwa [Nat.add_right_comm i 1 k])
      refine ⟨attrAt env.protocol pkt (i + 1) :: visits, ?_, ?_⟩
      · rw [nextVisits, hnext, if_neg hend]
        simp only [hrun, Option.map_some]
      · intro attr hmem
        rcases List.mem_cons.mp hmem with rfl | hrest
        · exact ⟨i + 1, rfl, Nat.lt_of_not_le hend⟩
        · exact hall attr hrest

/-- In a packet that is accepted the attributes fill the octets behind the head. -/
theorem accepted_end (h : portalAccepts env pkt nbyte) :
    attrAt env.protocol pkt (attrNum pkt) = nbyte ∧
      lengthVisits pkt (attrNum pkt) (portalPacketMinsize env.protocol) (portalPacketMinsize env.protocol) =
        (List.range (attrNum pkt)).map (attrAt env.protocol pkt) := by
  obtain ⟨hmin, -, hlen⟩ := h
  have hloop : portalPacketGetLength env.protocol pkt = lengthLoop pkt (attrNum pkt)
      (portalPacketMinsize env.protocol) (portalPacketMinsize env.protocol) := by
    cases hp : env.protocol <;> rfl
  have hpos : 0 < portalPacketMinsize env.protocol := by
    cases hp : env.protocol <;> decide
  obtain ⟨hend, hvisits⟩ := @Portal.lengthLoop_hop pkt (attrNum pkt) (portalPacketMinsize env.protocol)
      (portalPacketMinsize env.protocol) (by rw [← hloop, ← hlen]; omega)
  refine ⟨?_, hvisits⟩
  rw [← hloop, ← hlen] at hend
  exact (Nat.add_right_cancel hend).symm

theorem next_ends (h : portalAccepts env pkt nbyte) :
    ∃ fuel visits, nextVisits env.protocol pkt fuel none = some visits ∧
      ∀ attr ∈ visits, ∃ i < attrNum pkt, attr = attrAt env.protocol pkt i := by
  by_cases hnum : attrNum pkt = 0
  · refine ⟨1, [], ?_, fun attr hmem => absurd hmem List.not_mem_nil⟩
    rw [nextVisits, portalPacketGetNextAttr, if_pos hnum]
  obtain ⟨hend, -⟩ := accepted_end h
  obtain ⟨n, hn⟩ := Nat.exists_eq_succ_of_ne_zero hnum
  obtain ⟨visits, hrun, hall⟩ := @Portal.nextVisits_from _ _ nbyte hnum h.2.2.symm n 0
      (by rw [Nat.zero_add, ← Nat.succ_eq_add_one, ← hn, hend])
  refine ⟨n + 2, attrAt env.protocol pkt 0 :: visits, ?_, ?_⟩
  · rw [nextVisits, portalPacketGetNextAttr, if_neg hnum]
    change (nextVisits env.protocol pkt (n + 1) (some (attrAt env.protocol pkt 0))).map _ = _
    rw [hrun]
    rfl
  · intro attr hmem
    rcases List.mem_cons.mp hmem with rfl | hrest
    · exact ⟨0, Nat.pos_of_ne_zero hnum, rfl⟩
    · obtain ⟨j, rfl, hlt⟩ := hall attr hrest
      refine ⟨j, ?_, rfl⟩
      by_contra hge
      have := @hop_mono (attrLen pkt) (portalPacketMinsize env.protocol) _ _ (Nat.le_of_not_lt hge)
      rw [attrAt] at hend hlt
      omega

/-- All attributes are inside exactly if the last one has a head: behind an attribute of length zero, every one is
at the same place. -/
theorem inside_iff (h : portalAccepts env pkt nbyte) :
    (∀ i < attrNum pkt, Inside pkt nbyte (attrAt env.protocol pkt i)) ↔
      (attrNum pkt ≠ 0 → 2 ≤ attrLen pkt (attrAt env.protocol pkt (attrNum pkt - 1))) := by
  obtain ⟨hend, -⟩ := accepted_end h
  have hlast : attrNum pkt ≠ 0 → attrAt env.protocol pkt (attrNum pkt - 1) +
      attrLen pkt (attrAt env.protocol pkt (attrNum pkt - 1)) = nbyte := by
    intro hnum
    obtain ⟨n, hn⟩ := Nat.exists_eq_succ_of_ne_zero hnum
    rw [← hend, hn, Nat.succ_sub_one]
    exact hop_succ.symm
  constructor
  · intro hall hnum
    have hin := (hall (attrNum pkt - 1) (by omega)).1
    have := hlast hnum
    omega
  · intro htwo i hi
    have hnum : attrNum pkt ≠ 0 := by omega
    have hbefore : attrAt env.protocol pkt i ≤ attrAt env.protocol pkt (attrNum pkt - 1) :=
      hop_mono (by omega)
    have hnext : attrAt env.protocol pkt i + attrLen pkt (attrAt env.protocol pkt i) ≤
        attrAt env.protocol pkt (attrNum pkt) := by
      rw [attrAt, ← hop_succ]
      exact hop_mono hi
    have := hlast hnum
    have := htwo hnum
    exact ⟨by omega, by omega⟩

/-! ## The copies -/

/-- The copy of a value fits exactly if the attribute has a head and no more than `size` octets behind it. -/
theorem fits_copyValue {type : UInt8} {size : Nat} :
    (∀ c ∈ copyValue env pkt type size, c.Fits pkt) ↔
      ∀ attr, portalPacketGetAttr env.protocol pkt type = some attr →
        2 ≤ attrLen pkt attr ∧ attrLen pkt attr ≤ size + 2 := by
  unfold copyValue
  cases hget : portalPacketGetAttr env.protocol pkt type with
  | none =>
    constructor
    · intro _ attr hnone
      cases hnone
    · intro _ c hmem
      exact absurd hmem List.not_mem_nil
  | some attr =>
    simp only [Option.toList_some, List.map_cons, List.map_nil, List.mem_singleton, forall_eq, Copy.Fits,
      Option.some.injEq, forall_eq']
    omega

/-- What `portal_packet_add_attr` takes fits: a length below the head is no `size_t` that it takes. -/
theorem fits_rsp : ∀ c ∈ rspCopies env pkt, c.Fits pkt := by
  intro c hmem
  obtain ⟨hvalue, htaken⟩ := List.mem_filter.mp hmem
  obtain ⟨attr, -, rfl⟩ := List.mem_map.mp hvalue
  have hle := @Portal.attrLen_le pkt attr
  have hsize : 253 ≤ PORTAL_PACKET_SIZE - portalPacketMinsize env.protocol - 2 := by
    cases hp : env.protocol <;> decide
  have hint : sizeT ((attrLen pkt attr : Int) - 2) ≤ 253 := of_decide_eq_true htaken
  have hpos : 2 ≤ attrLen pkt attr := by
    by_contra hneg
    unfold sizeT at hint
    omega
  unfold Copy.Fits
  dsimp only
  omega

/-- Any name fits that has a head. -/
theorem fits_login {password : List Copy} (hpassword : ∀ c ∈ password, c.Fits pkt) :
    (∀ c ∈ copyValue env pkt ATTR_USERNAME USERNAMESIZE ++ password, c.Fits pkt) ↔
      ∀ attr, portalPacketGetAttr env.protocol pkt ATTR_USERNAME = some attr → 2 ≤ attrLen pkt attr := by
  rw [List.forall_mem_append, fits_copyValue]
  constructor
  · intro hfits attr hget
    exact (hfits.1 attr hget).1
  · intro hhead
    refine ⟨fun attr hget => ⟨hhead attr hget, ?_⟩, hpassword⟩
    exact Nat.le_trans (attrLen_le attr) (by decide)

theorem fits_chap : (∀ c ∈ chapCopies env pkt, c.Fits pkt) ↔
    ∀ attr, portalPacketGetAttr env.protocol pkt ATTR_USERNAME = some attr → 2 ≤ attrLen pkt attr := by
  have hpassword : ∀ c ∈ (copyValue env pkt ATTR_CHAPPASSWORD RADIUS_PASSWORD_LEN.toNat).filter fun c =>
      pkt (c.attr + 1) = RADIUS_PASSWORD_LEN + 2, c.Fits pkt := by
    intro c hmem
    obtain ⟨hvalue, hlen⟩ := List.mem_filter.mp hmem
    obtain ⟨attr, -, rfl⟩ := List.mem_map.mp hvalue
    have hoctet : pkt (attr + 1) = RADIUS_PASSWORD_LEN + 2 := of_decide_eq_true hlen
    have heq : attrLen pkt attr = 18 := by
      unfold attrLen
      rw [hoctet]
      rfl
    have hsize : RADIUS_PASSWORD_LEN.toNat = 16 := rfl
    unfold Copy.Fits
    dsimp only
    omega
  exact fits_login hpassword

theorem fits_pap : (∀ c ∈ papCopies env pkt, c.Fits pkt) ↔
    ∀ attr, portalPacketGetAttr env.protocol pkt ATTR_USERNAME = some attr → 2 ≤ attrLen pkt attr := by
  have hpassword : ∀ c ∈ (copyValue env pkt ATTR_PASSWORD USERNAMESIZE).filter fun c =>
      ¬ pkt (c.attr + 1) < 3, c.Fits pkt := by
    intro c hmem
    obtain ⟨hvalue, hlen⟩ := List.mem_filter.mp hmem
    obtain ⟨attr, -, rfl⟩ := List.mem_map.mp hvalue
    have hoctet : ¬ pkt (attr + 1) < 3 := of_decide_eq_true hlen
    have hge : 3 ≤ attrLen pkt attr := UInt8.le_iff_toNat_le.mp (UInt8.not_lt.mp hoctet)
    have hle := @Portal.attrLen_le pkt attr
    have hsize : USERNAMESIZE = 256 := rfl
    unfold Copy.Fits
    dsimp only
    omega
  exact fits_login hpassword

theorem fits_ipx : (∀ c ∈ ipxCopies env pkt, c.Fits pkt) ↔
    ∀ attr, portalPacketGetAttr env.protocol pkt ATTR_USER_IPV6 = some attr →
      2 ≤ attrLen pkt attr ∧ attrLen pkt attr ≤ 18 := fits_copyValue

/-- When the address fits, what the handlers copy fits as well, but for the name of a login. -/
theorem fits_handler (hipx : ∀ c ∈ ipxCopies env pkt, c.Fits pkt) :
    (∀ c ∈ handlerCopies env pkt, c.Fits pkt) ↔
      (packetType pkt = REQ_AUTH → packetAuthType pkt = AUTH_CHAP ∨ packetAuthType pkt = AUTH_PAP → ∀ attr,
        portalPacketGetAttr env.protocol pkt ATTR_USERNAME = some attr → 2 ≤ attrLen pkt attr) := by
  have hrsp : ∀ c ∈ ipxCopies env pkt ++ rspCopies env pkt, c.Fits pkt :=
    List.forall_mem_append.mpr ⟨hipx, fits_rsp⟩
  have hnil : ∀ c ∈ ([] : List Copy), c.Fits pkt := fun c hc => absurd hc List.not_mem_nil
  have hother : packetType pkt ≠ REQ_AUTH → ∀ l : List Copy, (∀ c ∈ l, c.Fits pkt) →
      ((∀ c ∈ l, c.Fits pkt) ↔ (packetType pkt = REQ_AUTH →
        packetAuthType pkt = AUTH_CHAP ∨ packetAuthType pkt = AUTH_PAP → ∀ attr,
          portalPacketGetAttr env.protocol pkt ATTR_USERNAME = some attr → 2 ≤ attrLen pkt attr)) :=
    fun hne l hl => ⟨fun _ ht => absurd ht hne, fun _ => hl⟩
  unfold handlerCopies
  dsimp only
  split
  · rename_i ht
    exact hother (by rw [ht]; decide) _ hrsp
  split
  · rename_i ht
    split
    · rename_i hchap
      rw [List.forall_mem_append, fits_chap, and_iff_right hrsp]
      exact ⟨fun h _ _ => h, fun h => h ht (.inl hchap)⟩
    · split
      · rename_i hpap
        rw [List.forall_mem_append, fits_pap, and_iff_right hrsp]
        exact ⟨fun h _ _ => h, fun h => h ht (.inr hpap)⟩
      · rename_i hchap hpap
        exact ⟨fun _ _ hauth => absurd hauth (not_or.mpr ⟨hchap, hpap⟩), fun _ => hnil⟩
  rename_i hauth
  split
  · split
    · exact hother hauth _ hrsp
    · split
      · exact hother hauth _ hipx
      · exact hother hauth _ hnil
  split
  · exact hother hauth _ hrsp
  split
  · exact hother hauth _ hipx
  · exact hother hauth _ hnil

theorem fits_copies : (∀ c ∈ copies env pkt, c.Fits pkt) ↔
    (packetType pkt ∈ portalTypes → ∀ attr, portalPacketGetAttr env.protocol pkt ATTR_USER_IPV6 = some attr →
      2 ≤ attrLen pkt attr ∧ attrLen pkt attr ≤ 18) ∧
    (packetType pkt = REQ_AUTH → packetAuthType pkt = AUTH_CHAP ∨ packetAuthType pkt = AUTH_PAP → ∀ attr,
      portalPacketGetAttr env.protocol pkt ATTR_USERNAME = some attr → 2 ≤ attrLen pkt attr) := by
  unfold copies
  by_cases hknown : packetType pkt ∈ portalTypes
  · rw [if_pos hknown, List.forall_mem_append, ← fits_ipx]
    constructor
    · rintro ⟨hipx, hhandler⟩
      exact ⟨fun _ => hipx, (fits_handler hipx).mp hhandler⟩
    · rintro ⟨hipx, hname⟩
      exact ⟨hipx hknown, (fits_handler (hipx hknown)).mpr hname⟩
  · rw [if_neg hknown]
    refine ⟨fun _ => ⟨fun h => absurd h hknown, fun ht => ?_⟩, fun _ c hc => absurd hc List.not_mem_nil⟩
    rw [ht] at hknown
    exact absurd (by decide : REQ_AUTH ∈ portalTypes) hknown

end

/-! ## The bounds -/

/-- A packet that `portal_receive` accepts is walked and copied within its bounds exactly if it is well sized. -/
theorem bounded_iff {env : PortalEnv} {pkt : Packet} {nbyte : Nat} (h : portalAccepts env pkt nbyte) :
    Bounded env pkt nbyte ↔ WellSized env pkt := by
  obtain ⟨-, hvisits⟩ := accepted_end h
  constructor
  · intro hb
    obtain ⟨hipv6, husername⟩ := fits_copies.mp hb.copies
    refine ⟨(inside_iff h).mp ?_, hipv6, husername⟩
    intro i hi
    apply hb.length
    rw [hvisits]
    exact List.mem_map_of_mem (List.mem_range.mpr hi)
  · intro hw
    have hin := (inside_iff h).mpr hw.last
    refine ⟨?_, ?_, ?_, fits_copies.mpr ⟨hw.ipv6, hw.username⟩⟩
    · intro attr hmem
      rw [hvisits] at hmem
      obtain ⟨i, hi, rfl⟩ := List.mem_map.mp hmem
      exact hin i (List.mem_range.mp hi)
    · intro type attr hmem
      obtain ⟨i, hi, rfl⟩ := getAttrVisits_hop hmem
      exact hin i hi
    · obtain ⟨fuel, visits, hrun, hall⟩ := next_ends h
      refine ⟨fuel, visits, hrun, ?_⟩
      intro attr hmem
      obtain ⟨i, hi, rfl⟩ := hall attr hmem
      exact hin i hi


open PortalOp in
/-- A login of the user "alice". -/
theorem bounded_iff_alice :
    portalAccepts sampleEnv (octets [1, 3, 1, 0, 0, 0, 0, 0, 0, 0, 0, 5, 0, 0, 0, 1, 1, 7, 97, 108, 105, 99, 101]) 23 ∧
      Bounded sampleEnv (octets [1, 3, 1, 0, 0, 0, 0, 0, 0, 0, 0, 5, 0, 0, 0, 1, 1, 7, 97, 108, 105, 99, 101]) 23 := by
  have haccepts : portalAccepts sampleEnv
      (octets [1, 3, 1, 0, 0, 0, 0, 0, 0, 0, 0, 5, 0, 0, 0, 1, 1, 7, 97, 108, 105, 99, 101]) 23 := by decide
  refine ⟨haccepts, (bounded_iff haccepts).mpr ⟨fun _ => by decide, ?_, ?_⟩⟩
  · intro _ attr hget
    cases hget
  · intro _ _ attr hget
    obtain rfl : 16 = attr := Option.some.inj hget
    decide

open PortalOp in
/-- An IPv6 attribute of 40 octets. -/
theorem ipv6_overflows : ¬ ∀ env pkt nbyte, portalAccepts env pkt nbyte → Bounded env pkt nbyte := by
  intro h
  have hb := h sampleEnv (octets ([1, 1, 0, 0, 0, 0, 0, 0, 0, 0, 0, 5, 0, 0, 0, 1, 0xf1, 40] ++ List.replicate 38 1)) 56
    (by decide)
  have hfits := (hb.copies ⟨16, 38, 16⟩ (by
    rw [Portal.copies, if_pos (by decide)]
    refine List.mem_append_left _ ?_
    exact List.mem_singleton.mpr rfl)).2.2
  exact absurd hfits (by decide)

end Portal

end Eag
end DaemonGroup
