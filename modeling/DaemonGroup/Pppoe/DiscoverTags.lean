import DaemonGroup.Lib.Tags
import DaemonGroup.Pppoe.Discover
import Mathlib.Data.List.Induction

/-!
# DaemonGroup.Pppoe.DiscoverTags

The parser of discovery tags and the cookie.

* `parseTags_split` — the loop goes through the tags of the only split of the payload, in their order,
  and fails where a tag overruns what is left; `parsePacket_within` — it reads the payload alone.
* `recvTags_last` — of each kind the last tag is kept.
* `processPADR_cookie` — a PADR passes with the cookie of its PADO and with no other.
-/

namespace DaemonGroup
namespace Pppoe

open Lib Reads Tags

/-- The calls of the body for the tags `ts`, the first one at `a`. -/
def tagCalls : Nat → List Tag → List (Nat × Nat × Nat)
  | _, [] => []
  | a, t :: ts => (t.type.toNat, a, t.value.length) :: tagCalls (a + t.size) ts

section
variable {σ : Type} {handle : Nat → Nat → Nat → σ → Reads σ} {m : Nat → UInt8} {a len n : Nat} {s : σ}
  {ts us : List Tag} {t u : Tag} {rest p q : List UInt8}

/-- A short inside a read. -/
theorem readShort_read {i : Nat} (h : i + 2 ≤ n) :
    (readShort m (a + i)).val = shortAt (Bytes.read m a n) i := by
  have hget : ∀ j, j < n → (Bytes.read m a n).getD j 0 = m (a + j) := by
    intro j hj
    simp [Bytes.read, List.getD_eq_getElem?_getD, hj]
  rw [shortAt, hget i (by omega), hget (i + 1) (by omega)]
  rfl

/-- Octets in front of a read are a read of their own. -/
theorem read_front (h : Bytes.read m a len = p ++ q) :
    p.length + q.length = len ∧ Bytes.read m a p.length = p ∧ Bytes.read m (a + p.length) q.length = q := by
  have hlen : len = p.length + q.length := by
    simpa using congrArg List.length h
  rw [hlen, Bytes.read_add] at h
  obtain ⟨hp, hq⟩ := List.append_inj h (by simp)
  exact ⟨hlen.symm, hp, hq⟩

/-- Where the list ends or breaks off the loop stops. -/
theorem parseTags_stop (h : Bytes.read m a len = rest) (hs : Ended 0 rest ∨ Overrun 0 rest) :
    (parseTags handle m a len s).val =
      (if Overrun 0 rest then PPPOEERR_ELENGTH else PPPOEERR_SUCCESS, s) := by
  have hlen : rest.length = len := by rw [← h, Bytes.length_read]
  rw [parseTags]
  by_cases h0 : len = 0
  · obtain rfl : rest = [] := List.eq_nil_of_length_eq_zero (hlen.trans h0)
    rw [if_pos h0, if_neg (Ended.not_overrun (.inl rfl))]
    rfl
  rw [if_neg h0]
  have hne : rest ≠ [] := fun h => h0 (by rw [← hlen, h]; rfl)
  by_cases h4 : len < TAG_HDR_SIZE
  · rw [if_pos h4, if_pos ⟨hne, .inl (hlen ▸ h4)⟩]
    rfl
  rw [if_neg h4]
  have h4' : 4 ≤ len := Nat.not_lt.mp h4
  have htype : (readShort m a).val = shortAt rest 0 := by
    rw [← h]
    exact readShort_read (i := 0) (by omega)
  have htlen : (readShort m (a + 2)).val = shortAt rest 2 := by
    rw [← h]
    exact readShort_read (by omega)
  simp only [bind_val, htype, htlen, ite_val]
  by_cases hend : shortAt rest 0 = TAG_END_OF_LIST
  · have hended : Ended 0 rest := .inr ⟨by omega, hend⟩
    rw [if_pos hend, if_neg hended.not_overrun]
    rfl
  · have hover : Overrun 0 rest := by
      rcases hs with (hnil | ⟨-, hend'⟩) | hover
      · exact absurd hnil hne
      · exact absurd hend' hend
      · exact hover
    have hlt : shortAt rest 2 + TAG_HDR_SIZE > len := by
      rcases hover with ⟨-, hlt | ⟨-, hlt⟩⟩
      · omega
      · rw [← hlen]
        exact hlt
    rw [if_neg hend, if_pos hlt, if_pos hover]
    rfl

/-- One round of the loop: the tag in front is handled, and the loop goes on behind it. -/
theorem parseTags_tag (h : Bytes.read m a len = t.octets ++ q) (ht : t.type ≠ 0) :
    parseTags handle m a len s = (do
      let _ ← readShort m a
      let _ ← readShort m (a + 2)
      let s ← handle t.type.toNat a t.value.length s
      parseTags handle m (a + t.size) q.length s) := by
  obtain ⟨hlen, -, -⟩ := read_front h
  have hsize : t.octets.length = t.value.length + 4 := Tag.length_octets
  have hty : t.type.toNat ≠ TAG_END_OF_LIST := fun h => ht (UInt16.toNat_inj.mp h)
  have htype : (readShort m a).val = t.type.toNat := by
    rw [← octets_type (q := q), ← h]
    exact readShort_read (i := 0) (by omega)
  have htlen : (readShort m (a + 2)).val = t.value.length := by
    rw [← octets_len (q := q), ← h]
    exact readShort_read (by omega)
  have h0 : len ≠ 0 := by omega
  have h4 : ¬ len < TAG_HDR_SIZE := by
    show ¬ len < 4
    omega
  have hfit : ¬ t.value.length + TAG_HDR_SIZE > len := by
    show ¬ t.value.length + 4 > len
    omega
  have hstep : TAG_HDR_SIZE + t.value.length = t.size := Nat.add_comm _ _
  have hrest : len - t.size = q.length := by
    rw [Tag.size]
    omega
  rw [parseTags, if_neg h0, if_neg h4, bind_at (readShort m a), htype]
  congr 1
  funext _
  rw [bind_at (readShort m (a + 2)), htlen, if_neg hty, if_neg hfit, hstep, hrest]

/-- The loop handles the tags of the split, in their order, and fails if the rest overruns. -/
theorem parseTags_split (h : Split 0 (Bytes.read m a len) ts rest) :
    (parseTags handle m a len s).val =
      (if Overrun 0 rest then PPPOEERR_ELENGTH else PPPOEERR_SUCCESS,
        (tagCalls a ts).foldl (fun s c => (handle c.1 c.2.1 c.2.2 s).val) s) := by
  induction ts generalizing a len s with
  | nil => exact parseTags_stop h.eq h.stop
  | cons t ts ih =>
    have heq := h.eq
    rw [List.flatMap_cons, List.append_assoc] at heq
    obtain ⟨-, -, hq⟩ := read_front heq
    rw [Tag.length_octets] at hq
    have htail : Split 0 (Bytes.read m (a + t.size) (ts.flatMap Tag.octets ++ rest).length) ts rest :=
      ⟨hq, fun u hu => h.real u (List.mem_cons_of_mem t hu), h.stop⟩
    rw [parseTags_tag heq (h.real t List.mem_cons_self)]
    exact ih htail

/-- The loop reads no more than it was given, if the body does not. -/
theorem parseTags_within (hh : ∀ type cur n' s, cur + (n' + TAG_HDR_SIZE) ≤ n → Within n (handle type cur n' s))
    (ha : a + len ≤ n) : Within n (parseTags handle m a len s) := by
  induction len using Nat.strongRecOn generalizing a s with
  | ind len ih =>
    have h4 : TAG_HDR_SIZE = 4 := rfl
    rw [parseTags]
    simp only [within_ite, within_pure, within_bind, implies_true, true_and]
    intro h0 hlen
    have hshort : ∀ i, i + 2 ≤ n → Within n (readShort m i) := by
      intro i hi
      simp only [readShort, within_bind, within_pure, and_true]
      exact within_load.mpr (.inr hi)
    refine ⟨hshort a (by omega), hshort (a + 2) (by omega), fun _ hfit => ?_⟩
    refine ⟨hh _ _ _ _ (by omega), ih _ (by omega) (by omega)⟩

theorem switchTag_within {type cur : Nat} {tag : RecvTags} (h : cur + (len + TAG_HDR_SIZE) ≤ n) :
    Within n (switchTag m type cur len tag) := by
  have hcopy : ∀ k, Within n (copyTag m k cur len tag) := by
    intro k
    simp only [copyTag, within_bind, within_pure, and_true]
    exact within_load.mpr (.inr h)
  simp [switchTag, hcopy]

/-- The parser looks at nothing behind the length that the PPPoE header names. -/
theorem parsePacket_within {tag : RecvTags} : Within len (parsePacket m len tag) := by
  rw [parsePacket, parseWith, within_ite]
  refine ⟨fun _ => by simp, fun _ => parseTags_within (fun _ _ _ _ => switchTag_within) ?_⟩
  omega

/-! ## The tags that are kept -/

/-- Where a tag is kept. -/
def recvTag (type : UInt16) : Option RecvTag :=
  if type.toNat = TAG_SERVICE_NAME then some .DIS_SERVICE
  else if type.toNat = TAG_RELAY_SESSION_ID then some .DIS_RALAYID
  else if type.toNat = TAG_HOST_UNIQ then some .DIS_HOSTUNIQ
  else if type.toNat = TAG_AC_COOKIE then some .DIS_ACCOOKIE
  else none

/-- The tag `t` is received. -/
def store (tag : RecvTags) (t : Tag) : RecvTags :=
  match recvTag t.type with
  | none => tag
  | some k => Function.update tag k (Bytes.write (tag k) 0 t.octets)

/-- What the tags `ts` leave. -/
def recvTags (ts : List Tag) : RecvTags := ts.foldl store zeroTags

theorem switchTag_store {tag : RecvTags} (h : Bytes.read m a t.size = t.octets) :
    (switchTag m t.type.toNat a t.value.length tag).val = store tag t := by
  have hcopy : ∀ k, (copyTag m k a t.value.length tag).val =
      Function.update tag k (Bytes.write (tag k) 0 t.octets) := by
    intro k
    rw [← h]
    rfl
  unfold switchTag store recvTag
  split_ifs <;> first | exact hcopy _ | rfl

theorem calls_store {tag : RecvTags} (h : Bytes.read m a len = ts.flatMap Tag.octets ++ rest) :
    (tagCalls a ts).foldl (fun s c => (switchTag m c.1 c.2.1 c.2.2 s).val) tag = ts.foldl store tag := by
  induction ts generalizing a len tag with
  | nil => rfl
  | cons t ts ih =>
    rw [List.flatMap_cons, List.append_assoc] at h
    obtain ⟨-, ht, hq⟩ := read_front h
    rw [Tag.length_octets] at ht hq
    rw [tagCalls, List.foldl_cons, List.foldl_cons, switchTag_store ht]
    exact ih hq

/-- What the parser returns and leaves. -/
theorem parsePacket_val (h : Split 0 (Bytes.read m 0 len) ts rest) (hlen : len ≤ PPPOE_MTU - 6) :
    (parsePacket m len zeroTags).val =
      (if Overrun 0 rest then PPPOEERR_ELENGTH else PPPOEERR_SUCCESS, recvTags ts) := by
  rw [parsePacket, parseWith, if_neg (Nat.not_lt.mpr hlen), parseTags_split h, calls_store h.eq]
  rfl

/-- What a success of the parser says. -/
theorem parsePacket_ok (h : (parsePacket m len zeroTags).val.1 = PPPOEERR_SUCCESS) :
    len ≤ PPPOE_MTU - 6 ∧ ∃ ts rest, Split 0 (Bytes.read m 0 len) ts rest ∧ Ended 0 rest ∧
      (parsePacket m len zeroTags).val = (PPPOEERR_SUCCESS, recvTags ts) := by
  have hlen : len ≤ PPPOE_MTU - 6 := by
    refine Nat.not_lt.mp fun hlt => ?_
    rw [parsePacket, parseWith, if_pos hlt] at h
    exact absurd h (by decide)
  obtain ⟨ts, rest, hs⟩ := exists_split 0 (Bytes.read m 0 len)
  rw [parsePacket_val hs hlen] at h ⊢
  refine ⟨hlen, ts, rest, hs, hs.stop.resolve_right fun hover => ?_, Prod.ext h rfl⟩
  rw [if_pos hover] at h
  exact absurd h (by decide : PPPOEERR_ELENGTH ≠ PPPOEERR_SUCCESS)

/-- The last tag of a type. -/
def lastTag (type : Nat) (ts : List Tag) : Option Tag := (ts.filter (·.type.toNat = type)).getLast?

/-- The type of the tags that are kept in `k`. -/
def RecvTag.type : RecvTag → Nat
  | .DIS_SERVICE => TAG_SERVICE_NAME
  | .DIS_RALAYID => TAG_RELAY_SESSION_ID
  | .DIS_HOSTUNIQ => TAG_HOST_UNIQ
  | .DIS_ACCOOKIE => TAG_AC_COOKIE

variable {k : RecvTag}

theorem recvTag_eq_some {type : UInt16} : recvTag type = some k ↔ type.toNat = k.type := by
  unfold recvTag
  cases k <;> simp only [RecvTag.type] <;> split_ifs <;> simp_all <;> decide

theorem store_self {tag : RecvTags} (h : t.type.toNat = k.type) :
    store tag t k = Bytes.write (tag k) 0 t.octets := by
  rw [store, recvTag_eq_some.mpr h]
  simp

theorem store_other {tag : RecvTags} (h : t.type.toNat ≠ k.type) : store tag t k = tag k := by
  rw [store]
  cases hk : recvTag t.type with
  | none => rfl
  | some k' =>
    refine Function.update_of_ne ?_ _ _
    rintro rfl
    exact h (recvTag_eq_some.mp hk)

theorem lastTag_concat {type : Nat} :
    lastTag type (ts ++ [t]) = if t.type.toNat = type then some t else lastTag type ts := by
  unfold lastTag
  rw [List.filter_append]
  split
  · rename_i h
    simp [h]
  · rename_i h
    simp [h]

/-- Of the tags of a kind the last one is kept. -/
theorem recvTags_last (h : lastTag k.type ts = some t) :
    Bytes.read (recvTags ts k) 0 t.size = t.octets := by
  induction ts using List.reverseRecOn with
  | nil => cases h
  | append_singleton ts u ih =>
    rw [lastTag_concat] at h
    rw [recvTags, List.foldl_concat]
    split at h
    · rename_i hu
      cases h
      rw [store_self hu, ← Tag.length_octets]
      exact Bytes.read_write_self
    · rename_i hu
      rw [store_other hu]
      exact ih h

theorem recvTags_none (h : lastTag k.type ts = none) : recvTags ts k = fun _ => 0 := by
  induction ts using List.reverseRecOn with
  | nil => rfl
  | append_singleton ts u ih =>
    rw [lastTag_concat] at h
    rw [recvTags, List.foldl_concat]
    split at h
    · cases h
    · rename_i hu
      rw [store_other hu]
      exact ih h

/-- The fields of a slot that a tag was copied into. -/
theorem slot_type {slot : Nat → UInt8} (h : Bytes.read slot 0 t.size = t.octets) :
    tagType slot = t.type.toNat := by
  have htype := octets_type (t := t) (q := [])
  rw [List.append_nil, ← h] at htype
  rw [← htype]
  exact readShort_read (a := 0) (i := 0) (by simp [Tag.size])

theorem slot_length {slot : Nat → UInt8} (h : Bytes.read slot 0 t.size = t.octets) :
    tagLength slot = t.value.length := by
  have hlen := octets_len (t := t) (q := [])
  rw [List.append_nil, ← h] at hlen
  rw [← hlen]
  exact readShort_read (a := 0) (i := 2) (by simp [Tag.size])

theorem slot_payload {slot : Nat → UInt8} (h : Bytes.read slot 0 t.size = t.octets) :
    tagPayload slot t.value.length = t.value := by
  obtain ⟨-, -, hvalue⟩ := read_front (p := octets16 t.type.toNat ++ octets16 t.value.length) h
  rw [← hvalue]
  simp [tagPayload, TAG_HDR_SIZE, octets16]

theorem slot_octets {slot : Nat → UInt8} (h : Bytes.read slot 0 t.size = t.octets) :
    recvOctets slot = t.octets := by
  rw [recvOctets, slot_length h]
  exact h

/-! ## The cookie -/

theorem length_genCookie {d : Discover} {mac : Mac} : (genCookie d mac).length = COOKIE_LEN := by
  simp [genCookie, Md5.md5, Md5.leBytes, putLong, COOKIE_LEN]

theorem pbufPut_some {tags bs r : Bytes} (h : pbufPut tags bs = some r) :
    r = tags ++ bs ∧ bs.length ≤ DISCOVER_BUF_SIZE := by
  unfold pbufPut at h
  split at h
  · cases h
  · rename_i hroom
    cases h
    exact ⟨rfl, by omega⟩

/-- A tag of the daemon, when it fits into the buffer. -/
theorem exists_ownTag {type : Nat} {value : Bytes} (ht : type < 65536)
    (h : (tagOctets type value).length ≤ DISCOVER_BUF_SIZE) :
    ∃ t : Tag, tagOctets type value = t.octets ∧ t.type.toNat = type ∧ t.value = value := by
  have hlen : value.length < 65536 := by
    simp only [tagOctets, putShort, List.length_append, DISCOVER_BUF_SIZE] at h
    omega
  have htype : (UInt16.ofNat type).toNat = type := UInt16.toNat_ofNat_of_lt' ht
  refine ⟨⟨UInt16.ofNat type, value, hlen⟩, ?_, htype, rfl⟩
  rw [Tag.octets, htype]
  rfl

theorem lastTag_mem {type : Nat} (h : lastTag type ts = some t) : t ∈ ts :=
  (List.mem_filter.mp (List.mem_of_getLast? h)).1

theorem lastTag_none {type : Nat} (h : lastTag type ts = none) : ∀ t ∈ ts, t.type.toNat ≠ type := by
  have hnil := List.getLast?_eq_none_iff.mp h
  intro t ht
  simpa using List.filter_eq_nil_iff.mp hnil t ht

theorem lastTag_type {type : Nat} (h : lastTag type ts = some t) : t.type.toNat = type := by
  simpa using (List.mem_filter.mp (List.mem_of_getLast? h)).2

/-- The Host-Uniq of the client is given back as a tag. -/
theorem putHostUniq_some {tags r : Bytes} (h : putHostUniq tags (recvTags ts .DIS_HOSTUNIQ) = some r) :
    ∃ us : List Tag, r = tags ++ us.flatMap Tag.octets ∧ ∀ u ∈ us, u.type.toNat = TAG_HOST_UNIQ := by
  unfold putHostUniq at h
  split at h
  · rename_i htype
    cases hl : lastTag RecvTag.DIS_HOSTUNIQ.type ts with
    | none =>
      rw [recvTags_none hl] at htype
      exact absurd rfl htype
    | some t =>
      obtain ⟨rfl, -⟩ := pbufPut_some h
      refine ⟨[t], ?_, fun u hu => ?_⟩
      · rw [slot_octets (recvTags_last hl)]
        simp
      · rw [List.mem_singleton.mp hu]
        exact lastTag_type hl
  · cases h
    exact ⟨[], by simp, by simp⟩

/-- The tags of a PADO, and the cookie among them. -/
theorem padoTags_split {d : Discover} {mac : Mac} {tags : Bytes}
    (h : padoTags d mac (recvTags ts) = some tags) :
    ∃ us, Split 0 tags us [] ∧ (lastTag TAG_AC_COOKIE us).map Tag.value = some (genCookie d mac) := by
  unfold padoTags at h
  obtain ⟨p₁, h₁, h⟩ := Option.bind_eq_some_iff.mp h
  obtain ⟨p₂, h₂, h⟩ := Option.bind_eq_some_iff.mp h
  obtain ⟨p₃, h₃, h⟩ := Option.bind_eq_some_iff.mp h
  obtain ⟨rfl, hroom₁⟩ := pbufPut_some h₁
  obtain ⟨rfl, hroom₂⟩ := pbufPut_some h₂
  obtain ⟨rfl, hroom₃⟩ := pbufPut_some h₃
  obtain ⟨t₁, ho₁, ht₁, -⟩ := exists_ownTag (by decide) hroom₁
  obtain ⟨t₂, ho₂, ht₂, -⟩ := exists_ownTag (by decide) hroom₂
  obtain ⟨t₃, ho₃, ht₃, hv₃⟩ := exists_ownTag (by decide) hroom₃
  obtain ⟨us, rfl, hus⟩ := putHostUniq_some h
  have hreal : ∀ u : Tag, u.type.toNat ≠ 0 → u.type ≠ 0 := by
    intro u hu h0
    exact hu (by rw [h0]; rfl)
  refine ⟨[t₁, t₂, t₃] ++ us, ⟨?_, ?_, .inl (.inl rfl)⟩, ?_⟩
  · rw [ho₁, ho₂, ho₃]
    simp
  · intro u hu
    refine hreal u ?_
    rcases List.mem_append.mp hu with hu | hu
    · simp only [List.mem_cons, List.not_mem_nil, or_false] at hu
      rcases hu with rfl | rfl | rfl
      · rw [ht₁]; decide
      · rw [ht₂]; decide
      · rw [ht₃]; decide
    · rw [hus u hu]
      decide
  · have hnone : us.filter (·.type.toNat = TAG_AC_COOKIE) = [] := by
      refine List.filter_eq_nil_iff.mpr fun u hu => ?_
      simp only [hus u hu, decide_eq_true_eq]
      decide
    have hown : [t₁, t₂, t₃].filter (·.type.toNat = TAG_AC_COOKIE) = [t₃] := by
      simp [ht₁, ht₂, ht₃, TAG_AC_NAME, TAG_SERVICE_NAME, TAG_AC_COOKIE]
    rw [lastTag, List.filter_append, hnone, hown]
    simp [hv₃]

/-- The tags of a frame of the daemon. -/
theorem discFrame_tags {dest source : Mac} {code sid : Nat} {tags : Bytes} :
    (discFrame dest source code sid tags).drop PPPOE_PACKET = tags := by
  simp [discFrame, Mac.octets, putShort, PPPOE_PACKET]

/-- A PADI is answered to its sender, with a cookie for it. -/
theorem processPADI_cookie {d : Discover} {send : Bytes → Int} {session : Bool} {pack : PppoePacket}
    {f : Bytes} (h : (processPADI d send session pack).2 = some f) :
    f.take 6 = pack.h_source.octets ∧ ∃ us, Split 0 (f.drop PPPOE_PACKET) us [] ∧
      (lastTag TAG_AC_COOKIE us).map Tag.value = some (genCookie d pack.h_source) := by
  unfold processPADI at h
  dsimp only at h
  split at h
  · cases h
  split at h
  · cases h
  split at h
  · cases h
  rename_i hret
  obtain ⟨-, ts, -, -, -, hval⟩ := parsePacket_ok (not_not.mp hret)
  rw [hval] at h
  split at h
  · cases h
  split at h
  · cases h
  split at h
  · cases h
  · rename_i tags htags
    cases h
    refine ⟨by simp [discFrame, Mac.octets], ?_⟩
    rw [discFrame_tags]
    exact padoTags_split htags

/-- A PADR with the tags `us` that comes up to the check of its cookie: it is for the daemon, from a
client without an open session, and is parsed. -/
structure AsksWith (d : Discover) (session : Option SessState) (pack : PppoePacket) (us : List Tag) :
    Prop where
  dest : pack.h_dest = d.hwaddr
  source : pack.h_source.notUnicast = false
  session : ∀ st ∈ session, st.num ≤ SessState.INIT.num
  len : pack.len ≤ PPPOE_MTU - 6
  tags : ∃ rest, Split 0 (Bytes.read pack.data 0 pack.len) us rest ∧ Ended 0 rest
  relay : ∀ t ∈ us, t.type.toNat ≠ TAG_RELAY_SESSION_ID

/-- The cookie of a client lets it pass, and nothing else does. -/
theorem processPADR_cookie {d : Discover} {session : Option SessState} {pack : PppoePacket}
    (h : AsksWith d session pack us) :
    processPADR d session pack =
      if (lastTag TAG_AC_COOKIE us).map Tag.value = some (genCookie d pack.h_source) then
        padrService d pack.h_source (recvTags us)
      else .refused PPPOEERR_EINVAL none := by
  obtain ⟨rest, hs, hend⟩ := h.tags
  have hsession : ¬ (session.any fun st => decide (st.num > SessState.INIT.num)) = true := by
    cases session with
    | none => simp
    | some st => simpa using h.session st rfl
  have hval := parsePacket_val hs h.len
  rw [if_neg hend.not_overrun] at hval
  have hrelay : tagType (recvTags us .DIS_RALAYID) = 0 := by
    cases hl : lastTag RecvTag.DIS_RALAYID.type us with
    | none => rw [recvTags_none hl]; rfl
    | some t => exact absurd (lastTag_type hl) (h.relay t (lastTag_mem hl))
  unfold processPADR
  rw [if_neg (not_not.mpr h.dest), h.source, if_neg Bool.false_ne_true, if_neg hsession]
  simp only [hval, hrelay, ne_eq, not_true_eq_false, if_false]
  cases hl : lastTag TAG_AC_COOKIE us with
  | none =>
    have hslot : recvTags us .DIS_ACCOOKIE = fun _ => 0 := recvTags_none hl
    rw [hslot, if_pos (.inl rfl), Option.map_none, if_neg (by simp)]
  | some t =>
    have hslot : Bytes.read (recvTags us .DIS_ACCOOKIE) 0 t.size = t.octets := recvTags_last hl
    have htype : tagType (recvTags us .DIS_ACCOOKIE) ≠ 0 := by
      rw [slot_type hslot, lastTag_type hl]
      decide
    rw [slot_length hslot, Option.map_some]
    by_cases hlen : t.value.length = COOKIE_LEN
    · have hpayload : tagPayload (recvTags us .DIS_ACCOOKIE) COOKIE_LEN = t.value := by
        rw [← hlen]
        exact slot_payload hslot
      rw [if_neg (by simp [htype, hlen]), hpayload]
      by_cases hcookie : t.value = genCookie d pack.h_source
      · rw [if_neg (not_not.mpr hcookie), if_pos (congrArg some hcookie)]
      · rw [if_pos hcookie, if_neg fun h => hcookie (Option.some_inj.mp h)]
    · have hne : t.value ≠ genCookie d pack.h_source := by
        intro hv
        exact hlen (by rw [hv, length_genCookie])
      rw [if_pos (.inr hlen), if_neg fun h => hne (Option.some_inj.mp h)]

/-- A PADR that is admitted has come up to the check of its cookie. -/
theorem asksWith_of_admitted {d : Discover} {session : Option SessState} {pack : PppoePacket}
    {recv_tag : RecvTags} (h : processPADR d session pack = .admitted recv_tag) :
    ∃ us, AsksWith d session pack us := by
  unfold processPADR at h
  split at h
  · cases h
  rename_i hdest
  split at h
  · cases h
  rename_i hsource
  split at h
  · cases h
  rename_i hsession
  dsimp only at h
  split at h
  · cases h
  rename_i hret
  obtain ⟨hlen, us, rest, hs, hend, hval⟩ := parsePacket_ok (not_not.mp hret)
  rw [hval] at h
  split at h
  · cases h
  rename_i hrelay
  refine ⟨us, not_not.mp hdest, by simpa using hsource, fun st hst => ?_, hlen, ⟨rest, hs, hend⟩, fun t ht htype => hrelay ?_⟩
  · rw [hst] at hsession
    simpa using hsession
  · cases hl : lastTag RecvTag.DIS_RALAYID.type us with
    | none => exact absurd htype (lastTag_none hl t ht)
    | some u =>
      rw [slot_type (recvTags_last hl), lastTag_type hl]
      decide

end

/-- The parser looks at the payload alone, handles the tags of its only split, in their order, and fails
if the payload is longer than a frame may be or a tag overruns it. The cookie that a client gets in a
PADO lets it pass in a PADR, and nothing else does. -/
theorem discover_tags (d : Discover) (send : Bytes → Int) :
    (∀ (m : Nat → UInt8) (len : Nat),
      (∀ tag, Within len (parsePacket m len tag)) ∧
      ∃ ts rest, Split 0 (Bytes.read m 0 len) ts rest ∧
        (∀ us rest', Split 0 (Bytes.read m 0 len) us rest' → us = ts ∧ rest' = rest) ∧
        ∀ (σ : Type) (handle : Nat → Nat → Nat → σ → Reads σ) (s : σ),
          (parseWith handle m len s).val =
            if len > PPPOE_MTU - 6 then (PPPOEERR_ELENGTH, s)
            else
              (if Overrun 0 rest then PPPOEERR_ELENGTH else PPPOEERR_SUCCESS,
                (tagCalls 0 ts).foldl (fun s c => (handle c.1 c.2.1 c.2.2 s).val) s)) ∧
    ∀ (session : Bool) (padi : PppoePacket) (f : Bytes),
      (processPADI d send session padi).2 = some f →
      f.take 6 = padi.h_source.octets ∧
      ∃ ts cookie, Split 0 (f.drop PPPOE_PACKET) ts [] ∧ lastTag TAG_AC_COOKIE ts = some cookie ∧
        cookie.value.length = COOKIE_LEN ∧
        ∀ (st : Option SessState) (padr : PppoePacket) (us : List Tag),
          padr.h_source = padi.h_source → AsksWith d st padr us →
          processPADR d st padr =
            if (lastTag TAG_AC_COOKIE us).map Tag.value = some cookie.value then
              padrService d padr.h_source (recvTags us)
            else .refused PPPOEERR_EINVAL none := by
  constructor
  · intro m len
    obtain ⟨ts, rest, hs⟩ := exists_split 0 (Bytes.read m 0 len)
    refine ⟨fun _ => parsePacket_within, ts, rest, hs, fun _ _ hs' => hs'.unique hs, fun σ handle s => ?_⟩
    rw [parseWith]
    split
    · rfl
    · exact parseTags_split hs
  · intro session padi f hf
    obtain ⟨hdest, us, hs, hcookie⟩ := processPADI_cookie hf
    obtain ⟨cookie, hlast, hvalue⟩ := Option.map_eq_some_iff.mp hcookie
    refine ⟨hdest, us, cookie, hs, hlast, ?_, fun st padr us' hsrc hasks => ?_⟩
    · rw [hvalue, length_genCookie]
    · rw [processPADR_cookie hasks, hvalue, hsrc]

/-- A payload of one tag that fills 1487 bytes. -/
def longTag : Tag := ⟨0x0105, List.replicate 1483 0, by rw [List.length_replicate]; decide⟩

theorem read_octets {l : List UInt8} : Bytes.read (fun i => l.getD i 0) 0 l.length = l := by
  refine List.ext_getElem (by simp) fun i h₁ h₂ => ?_
  simp [Bytes.read, List.getD_eq_getElem?_getD, h₂]

/-- It is refused, although its tag is all there. -/
theorem long_refused :
    ¬ ((parsePacket (fun i => longTag.octets.getD i 0) 1487 zeroTags).val.1 ≠ PPPOEERR_SUCCESS ↔
      ∃ ts rest, Split 0 (Bytes.read (fun i => longTag.octets.getD i 0) 0 1487) ts rest ∧
        Overrun 0 rest) := by
  have hsize : longTag.octets.length = 1487 := by
    rw [Tag.length_octets, Tag.size, longTag, List.length_replicate]
  have hread : Bytes.read (fun i => longTag.octets.getD i 0) 0 1487 = longTag.octets := by
    rw [← hsize]
    exact read_octets
  have hsplit : Split 0 longTag.octets [longTag] [] :=
    ⟨by simp, fun t ht => by rw [List.mem_singleton.mp ht]; exact (by decide : (0x0105 : UInt16) ≠ 0),
      .inl (.inl rfl)⟩
  rw [hread, parsePacket, parseWith, if_pos (by decide)]
  intro h
  obtain ⟨ts, rest, hs, hover⟩ := h.mp (by decide)
  obtain ⟨-, rfl⟩ := hs.unique hsplit
  exact hover.1 rfl

/-- A client that asks for nothing in particular. -/
def sampleDiscover : Discover where
  sname := []
  hwaddr := ⟨0, 1, 2, 3, 4, 5⟩
  cookie_seed := List.replicate 16 7
  hname := []
  pid := 4321

def sampleClient : Mac := ⟨0, 6, 7, 8, 9, 10⟩

def samplePadi : PppoePacket :=
  { h_dest := ⟨255, 255, 255, 255, 255, 255⟩, h_source := sampleClient, code := CODE_PADI
    data := fun _ => 0, len := 0 }

/-- A PADR of the client with the tags `us`. -/
def samplePadr (us : List Tag) : PppoePacket :=
  { h_dest := sampleDiscover.hwaddr, h_source := sampleClient, code := CODE_PADR
    data := fun i => (us.flatMap Tag.octets).getD i 0, len := (us.flatMap Tag.octets).length }

def sampleService : Tag := ⟨0x0101, [], by decide⟩

theorem sample_pado : ∃ f, (processPADI sampleDiscover (fun _ => 0) false samplePadi).2 = some f := by
  have hparse : (parsePacket samplePadi.data samplePadi.len zeroTags).val =
      (PPPOEERR_SUCCESS, zeroTags) := by
    rw [parsePacket, parseWith, if_neg (by decide), parseTags]
    rfl
  have hroom : ∃ tags, padoTags sampleDiscover samplePadi.h_source zeroTags = some tags := by
    simp [padoTags, pbufPut, tagOctets, putShort, length_genCookie, COOKIE_LEN, sampleDiscover, putHostUniq,
      tagType, zeroTags, getShort, getChar, Bytes.read, PPPOE_PACKET, DISCOVER_BUF_SIZE]
  obtain ⟨tags, htags⟩ := hroom
  unfold processPADI
  rw [hparse, if_neg (by decide), if_neg (by decide)]
  dsimp only
  rw [if_neg (by decide), if_neg (by decide), if_neg (by decide), htags]
  exact ⟨_, rfl⟩

/-- The client comes back with a cookie and asks for any service. -/
theorem sample_asks {cookie : Tag} (htype : cookie.type.toNat = TAG_AC_COOKIE)
    (hlen : cookie.value.length = COOKIE_LEN) :
    AsksWith sampleDiscover none (samplePadr [cookie, sampleService]) [cookie, sampleService] where
  dest := rfl
  source := (by decide : sampleClient.notUnicast = false)
  session := by simp
  len := by simp [samplePadr, Tag.size, hlen, sampleService, COOKIE_LEN, PPPOE_MTU]
  tags := by
    refine ⟨[], ⟨read_octets.trans (List.append_nil _).symm, fun t ht h0 => ?_, .inl (.inl rfl)⟩, .inl rfl⟩
    rcases List.mem_pair.mp ht with rfl | rfl
    · rw [h0] at htype
      exact absurd htype (by decide)
    · exact absurd h0 (by decide)
  relay := by
    intro t ht
    rcases List.mem_pair.mp ht with rfl | rfl
    · rw [htype]
      decide
    · decide

/-- The client of a PADO gets a session with the cookie in it, and none with another one. -/
theorem discover_tags_sample :
    ∃ cookie other : Tag, (∃ t, processPADR sampleDiscover none (samplePadr [cookie, sampleService]) = .admitted t) ∧
      processPADR sampleDiscover none (samplePadr [other, sampleService]) = .refused PPPOEERR_EINVAL none := by
  obtain ⟨f, hf⟩ := sample_pado
  obtain ⟨-, ts, cookie, -, hlast, hlen, hpadr⟩ :=
    (discover_tags sampleDiscover fun _ => 0).2 false samplePadi f hf
  have htype : cookie.type.toNat = TAG_AC_COOKIE := lastTag_type hlast
  have hlastOf : ∀ t : Tag, t.type.toNat = TAG_AC_COOKIE →
      lastTag TAG_AC_COOKIE [t, sampleService] = some t := by
    intro t ht
    have hservice : sampleService.type.toNat ≠ TAG_AC_COOKIE := by decide
    simp [lastTag, ht, hservice]
  have hservice : Bytes.read (recvTags [cookie, sampleService] .DIS_SERVICE) 0 sampleService.size =
      sampleService.octets := by
    refine recvTags_last ?_
    have hcookie : cookie.type.toNat ≠ RecvTag.DIS_SERVICE.type := by
      rw [htype]
      decide
    rw [lastTag, List.filter_cons_of_neg (by simpa using hcookie)]
    rfl
  -- the value of another cookie, of the same length
  have hother : cookie.value.map (· + 1) ≠ cookie.value := by
    intro h
    cases hv : cookie.value with
    | nil =>
      rw [hv] at hlen
      cases hlen
    | cons b l =>
      rw [hv, List.map_cons] at h
      exact absurd (List.cons.inj h).1 (by simp)
  have hadmit : padrService sampleDiscover sampleClient (recvTags [cookie, sampleService]) =
      .admitted (recvTags [cookie, sampleService]) := by
    have hlength : tagLength (recvTags [cookie, sampleService] .DIS_SERVICE) = 0 := slot_length hservice
    rw [padrService, slot_type hservice, if_neg (by decide), otherService, hlength]
    rfl
  have hfits : (cookie.value.map (· + 1)).length < 65536 := by
    rw [List.length_map]
    exact cookie.fits
  have hanswer : ∀ t : Tag, t.type.toNat = TAG_AC_COOKIE → t.value.length = COOKIE_LEN →
      processPADR sampleDiscover none (samplePadr [t, sampleService]) =
        if some t.value = some cookie.value then
          padrService sampleDiscover sampleClient (recvTags [t, sampleService])
        else .refused PPPOEERR_EINVAL none := by
    intro t ht hl
    rw [hpadr none (samplePadr [t, sampleService]) _ rfl (sample_asks ht hl), hlastOf t ht]
    rfl
  refine ⟨cookie, ⟨0x0104, cookie.value.map (· + 1), hfits⟩, ⟨recvTags [cookie, sampleService], ?_⟩, ?_⟩
  · rw [hanswer cookie htype hlen, if_pos rfl]
    exact hadmit
  · have hl : (cookie.value.map (· + 1)).length = COOKIE_LEN := by
      rw [List.length_map, hlen]
    rw [hanswer _ rfl hl, if_neg fun h => hother (Option.some_inj.mp h)]

end Pppoe
end DaemonGroup
