import DaemonGroup.Eag.RadiusAttr
import Mathlib.Data.Nat.Notation

/-!
# DaemonGroup.Eag.RadiusSession

What an Access-Accept grants (`config_radius_session` of `eag_radius.c`) and what accounting requests say of it.
About a dozen attributes of four vendors are looked for one after the other, and a later one overwrites what an
earlier one has set. Products are formed in 32 bits.

Of `radius_acct_req` the attributes up to the Class are modelled; what is appended behind it is an input.
-/

namespace DaemonGroup
namespace Eag

open Lib Bytes Reads

def RADIUS_ATTR_NAS_IP_ADDRESS : UInt8 := 4
def RADIUS_ATTR_CLASS : UInt8 := 25
def RADIUS_ATTR_SESSION_TIMEOUT : UInt8 := 27
def RADIUS_ATTR_IDLE_TIMEOUT : UInt8 := 28
def RADIUS_ATTR_ACCT_INTERIM_INTERVAL : UInt8 := 85
def RADIUS_VENDOR_WISPR : UInt32 := 14122
def RADIUS_ATTR_WISPR_BANDWIDTH_MAX_UP : UInt8 := 7
def RADIUS_ATTR_WISPR_BANDWIDTH_MAX_DOWN : UInt8 := 8
def RADIUS_VENDOR_HUAWEI : UInt32 := 2011
def RADIUS_ATTR_HUAWEI_AVE_BANDWIDTH_MAX_DOWN : UInt8 := 2
def RADIUS_ATTR_HUAWEI_AVE_BANDWIDTH_MAX_UP : UInt8 := 5
def RADIUS_VENDOR_AUTELAN : UInt32 := 31656
def RADIUS_ATTR_AUTELAN_SESSION_FLOWOUT_MB : UInt8 := 51
def RADIUS_ATTR_AUTELAN_SESSION_FLOWOUT_KB : UInt8 := 52
def RADIUS_ATTR_AUTELAN_INPUT_AVERAGE_RATE : UInt8 := 62
def RADIUS_ATTR_AUTELAN_OUTPUT_AVERAGE_RATE : UInt8 := 65
def RADIUS_ATTR_AUTELAN_BANDWIDTH_MAX_UP : UInt8 := 245
def RADIUS_ATTR_AUTELAN_BANDWIDTH_MAX_DOWN : UInt8 := 246
def RADIUS_CLASS_ATTR_SIZE : Nat := 256

/-- The fields of `struct appsession` that an Access-Accept sets; `class_attr` is the memory of the field. -/
structure RadiusSession where
  sessiontimeout : UInt64
  idle_timeout : UInt64
  interim_interval : UInt64
  bandwidthmaxup : UInt32
  bandwidthmaxdown : UInt32
  maxtotaloctets : UInt64
  class_to_bandwidth : Bool
  class_attr : Packet
  class_attr_len : UInt8

/-- `strtoul` of at most eight characters, with base ten: blanks, a sign and digits. A number that has a minus is
negated as an `unsigned long` of 64 bits. -/
def strtoul (s : List UInt8) : Nat :=
  let s := s.dropWhile fun c => c = 32 ∨ (9 ≤ c ∧ c ≤ 13)
  let digits := fun (s : List UInt8) => (s.takeWhile fun c => 48 ≤ c ∧ c ≤ 57).foldl (fun v c => v * 10 + (c.toNat - 48)) 0
  match s with
  | 45 :: s => (2 ^ 64 - digits s) % 2 ^ 64
  | 43 :: s => digits s
  | s => digits s

section
variable (pack : Packet)

/-- `if (!radius_getattr(..)) ..`. -/
def onAttr (type : UInt8) (vendor_id : UInt32) (vendor_type : UInt8) (f : Nat → RadiusSession → Option RadiusSession)
    (S : RadiusSession) : Option RadiusSession :=
  (findAttr pack type vendor_id vendor_type).bind fun found =>
    match found with
    | none => some S
    | some t => f t S

/-- The word of the attribute at `t` is used. -/
def onWord (type : UInt8) (f : UInt32 → RadiusSession → RadiusSession) : RadiusSession → Option RadiusSession :=
  onAttr pack type 0 0 fun t S => some (f (ntohlAt pack (t + 2)) S)

/-- The same for the attribute of a vendor. -/
def onVendorWord (vendor_id : UInt32) (vendor_type : UInt8) (f : UInt32 → RadiusSession → RadiusSession) :
    RadiusSession → Option RadiusSession :=
  onAttr pack RADIUS_ATTR_VENDOR_SPECIFIC vendor_id vendor_type fun t S => some (f (ntohlAt pack (t + 2)) S)

/-- The Class is copied, if it is not used for the bandwidth. `attr->l - 2` octets of an attribute that is shorter
than its head have no copy. -/
def configClass (S : RadiusSession) : Option RadiusSession :=
  (findAttr pack RADIUS_ATTR_CLASS 0 0).bind fun found =>
    match found with
    | none =>
      some { S with class_attr := write S.class_attr 0 (List.replicate (RADIUS_CLASS_ATTR_SIZE - 1) 0), class_attr_len := 0 }
    | some t =>
      if pack (t + 1) < 2 then none
      else
        some { S with
          class_attr := write S.class_attr 0 (read pack (t + 2) ((pack (t + 1)).toNat - 2))
          class_attr_len := pack (t + 1) - 2 }

/-- The Class has the bandwidths, as four numbers of eight digits. -/
def configClassBandwidth : RadiusSession → Option RadiusSession :=
  onAttr pack RADIUS_ATTR_CLASS 0 0 fun t S =>
    let class_str := (read pack (t + 2) (min (sizeT ((pack (t + 1)).toNat - 2)) 127)).takeWhile (· ≠ 0)
    some (if class_str.length = 32 then
        { S with
          bandwidthmaxup := UInt32.ofNat (strtoul ((class_str.drop 8).take 8) / 1024)
          bandwidthmaxdown := UInt32.ofNat (strtoul ((class_str.drop 24).take 8) / 1024) }
      else S)

/-- What is done with the Class. -/
def configClassAttr (S : RadiusSession) : Option RadiusSession :=
  if S.class_to_bandwidth then configClassBandwidth pack S else configClass pack S

/-- The timeouts; with `idletime_valuecheck` the idle timeout only gets shorter. -/
def configTimes (idletime_valuecheck : Bool) (S : RadiusSession) : Option RadiusSession := do
  let S ← onWord pack RADIUS_ATTR_SESSION_TIMEOUT (fun v S => { S with sessiontimeout := v.toUInt64 }) S
  let S ← onWord pack RADIUS_ATTR_IDLE_TIMEOUT (fun v S =>
    if idletime_valuecheck ∧ ¬ v.toUInt64 < S.idle_timeout then S else { S with idle_timeout := v.toUInt64 }) S
  onWord pack RADIUS_ATTR_ACCT_INTERIM_INTERVAL (fun v S =>
    if 60 ≤ v.toUInt64 then { S with interim_interval := v.toUInt64 } else S) S

/-- The bandwidth attributes behind the Class. -/
def configBandwidth (S : RadiusSession) : Option RadiusSession := do
  let S ← onVendorWord pack RADIUS_VENDOR_HUAWEI RADIUS_ATTR_HUAWEI_AVE_BANDWIDTH_MAX_UP
    (fun v S => { S with bandwidthmaxup := v / 1024 }) S
  let S ← onVendorWord pack RADIUS_VENDOR_HUAWEI RADIUS_ATTR_HUAWEI_AVE_BANDWIDTH_MAX_DOWN
    (fun v S => { S with bandwidthmaxdown := v / 1024 }) S
  let S ← onVendorWord pack RADIUS_VENDOR_AUTELAN RADIUS_ATTR_AUTELAN_INPUT_AVERAGE_RATE
    (fun v S => { S with bandwidthmaxup := v / 1024 }) S
  let S ← onVendorWord pack RADIUS_VENDOR_AUTELAN RADIUS_ATTR_AUTELAN_OUTPUT_AVERAGE_RATE
    (fun v S => { S with bandwidthmaxdown := v / 1024 }) S
  let S ← onVendorWord pack RADIUS_VENDOR_AUTELAN RADIUS_ATTR_AUTELAN_BANDWIDTH_MAX_UP
    (fun v S => { S with bandwidthmaxup := v }) S
  onVendorWord pack RADIUS_VENDOR_AUTELAN RADIUS_ATTR_AUTELAN_BANDWIDTH_MAX_DOWN
    (fun v S => { S with bandwidthmaxdown := v }) S

/-- The volume: the product is one of 32 bits. -/
def configVolume (S : RadiusSession) : Option RadiusSession := do
  let S ← onVendorWord pack RADIUS_VENDOR_AUTELAN RADIUS_ATTR_AUTELAN_SESSION_FLOWOUT_KB
    (fun v S => { S with maxtotaloctets := (v * 1024).toUInt64 }) S
  onVendorWord pack RADIUS_VENDOR_AUTELAN RADIUS_ATTR_AUTELAN_SESSION_FLOWOUT_MB
    (fun v S => { S with maxtotaloctets := (v * 1024 * 1024).toUInt64 }) S

/-- `config_radius_session`. -/
def configRadiusSession (idletime_valuecheck : Bool) (S : RadiusSession) : Option RadiusSession := do
  let S ← configTimes pack idletime_valuecheck S
  let S ← onVendorWord pack RADIUS_VENDOR_WISPR RADIUS_ATTR_WISPR_BANDWIDTH_MAX_UP
    (fun v S => { S with bandwidthmaxup := v / 1024 }) S
  let S ← onVendorWord pack RADIUS_VENDOR_WISPR RADIUS_ATTR_WISPR_BANDWIDTH_MAX_DOWN
    (fun v S => { S with bandwidthmaxdown := v / 1024 }) S
  let S ← configClassAttr pack S
  let S ← configBandwidth pack S
  configVolume pack S

end

/-- What `radius_acct_req` uses of the session before the Class, and of the configuration. -/
structure AcctReq where
  status_type : UInt32
  username : Packet
  username_len : Nat
  sessionid : Packet
  sessionid_len : UInt16
  nasip : UInt32
  vendor_id : UInt32
  audit_ip_type : UInt8
  audit_ip : Packet

/-- `radius_acct_req`: the packet, in memory that holds `mem`; `rest` is appended behind the Class. -/
def radiusAcctReq (mem : Packet) (a : AcctReq) (S : RadiusSession) (rest : List Addition) : Option Packet :=
  let pack := radiusPacketInit mem 4
  let pack := radiusAddattr pack { type := RADIUS_ATTR_ACCT_STATUS_TYPE, value := a.status_type }
  if a.username_len = 0 ∨ RADIUS_ATTR_VLEN < a.username_len then none
  else
    let pack := radiusAddattr pack
      { type := RADIUS_ATTR_USER_NAME, data := some a.username, dlen := UInt16.ofNat a.username_len }
    let pack := radiusAddattr pack
      { type := RADIUS_ATTR_ACCT_SESSION_ID, data := some a.sessionid, dlen := a.sessionid_len }
    let pack := radiusAddattr pack { type := RADIUS_ATTR_NAS_IP_ADDRESS, value := a.nasip }
    let pack := if a.vendor_id ≠ 0 ∧ a.audit_ip_type ≠ 0 then
        radiusAddattr pack
          { type := RADIUS_ATTR_VENDOR_SPECIFIC
            vendor_id := a.vendor_id
            vendor_type := a.audit_ip_type
            data := some a.audit_ip
            dlen := 4 }
      else pack
    let pack := if ¬ S.class_to_bandwidth ∧ 0 < S.class_attr_len then
        radiusAddattr pack
          { type := RADIUS_ATTR_CLASS, data := some S.class_attr, dlen := S.class_attr_len.toUInt16 }
      else pack
    some (rest.foldl radiusAddattr pack)


/-! ## What is set and what is kept -/

/-- Every attribute has a head and a value, inside the packet. -/
structure WellFormed (pack : Packet) : Prop where
  head : RADIUS_PACKET_HEADSIZE ≤ radiusLength pack
  attr : ∀ i, hop (attrL pack) 0 i < payloadLen pack → 3 ≤ attrL pack (hop (attrL pack) 0 i) ∧
    hop (attrL pack) 0 i + attrL pack (hop (attrL pack) 0 i) ≤ payloadLen pack

section
variable {pack : Packet} {type vendor_type : UInt8} {vendor_id : UInt32} {S S' : RadiusSession} {check : Bool}
  {γ : Type} {g : RadiusSession → γ}

theorem WellFormed.find (h : WellFormed pack) : ∃ found, findAttr pack type vendor_id vendor_type = some found := by
  have hpos : ∀ i, Seen pack type vendor_id vendor_type 0 i →
      ¬ Wanted pack type vendor_id vendor_type (hop (attrL pack) 0 i) → attrL pack (hop (attrL pack) 0 i) ≠ 0 := by
    intro i hi _ hzero
    have := (h.attr i hi.1).1
    omega
  obtain ⟨r, hend⟩ := getnextattr_ends hpos (Nat.lt_succ_self (payloadLen pack))
  exact ⟨r.map Prod.fst, by rw [findAttr, radiusGetattr, map_val, hend]; rfl⟩

/-- An attribute that is found is one of the packet. -/
theorem find_attr {t : Nat} (hv : type ≠ RADIUS_ATTR_VENDOR_SPECIFIC) (h : findAttr pack type 0 0 = some (some t)) :
    ∃ i, hop (attrL pack) 0 i < payloadLen pack ∧ t = RADIUS_PACKET_HEADSIZE + hop (attrL pack) 0 i := by
  obtain ⟨r, hend, hr⟩ := Option.map_eq_some_iff.mp h
  rcases getnextattr_result hend with ⟨rfl, -⟩ | ⟨i, hi, -, hfound⟩
  · cases hr
  · refine ⟨i, hi.1, ?_⟩
    rw [hr, if_neg hv, Nat.add_zero] at hfound
    exact Option.some.inj hfound

theorem defined_bind {α β : Type} {x : Option α} {f : α → Option β} (hx : ∃ a, x = some a)
    (hf : ∀ a, ∃ b, f a = some b) : ∃ b, (x >>= f) = some b := by
  obtain ⟨a, rfl⟩ := hx
  exact hf a

theorem onAttr_defined (h : WellFormed pack) {f : Nat → RadiusSession → Option RadiusSession}
    (hf : ∀ t, findAttr pack type vendor_id vendor_type = some (some t) → ∃ S', f t S = some S') :
    ∃ S', onAttr pack type vendor_id vendor_type f S = some S' := by
  obtain ⟨found, hfind⟩ := @WellFormed.find _ type vendor_type vendor_id h
  rw [onAttr, hfind]
  cases found with
  | none => exact ⟨S, rfl⟩
  | some t => exact hf t hfind

theorem onWord_defined (h : WellFormed pack) {f : UInt32 → RadiusSession → RadiusSession} :
    ∃ S', onWord pack type f S = some S' := onAttr_defined h fun _ _ => ⟨_, rfl⟩

theorem onVendorWord_defined (h : WellFormed pack) {f : UInt32 → RadiusSession → RadiusSession} :
    ∃ S', onVendorWord pack vendor_id vendor_type f S = some S' := onAttr_defined h fun _ _ => ⟨_, rfl⟩

/-- What an attribute does not set, or what an absent one would set, is kept. -/
theorem onAttr_keeps {f : Nat → RadiusSession → Option RadiusSession}
    (h : onAttr pack type vendor_id vendor_type f S = some S')
    (hf : findAttr pack type vendor_id vendor_type = some none ∨ ∀ t S', f t S = some S' → g S' = g S) :
    g S' = g S := by
  obtain ⟨found, hfind, hS'⟩ := Option.bind_eq_some_iff.mp h
  cases found with
  | none =>
    obtain rfl := Option.some.inj hS'
    rfl
  | some t =>
    rcases hf with hnone | hf
    · rw [hnone] at hfind
      cases hfind
    · exact hf t S' hS'

theorem onWord_keeps {f : UInt32 → RadiusSession → RadiusSession} (h : onWord pack type f S = some S')
    (hf : findAttr pack type 0 0 = some none ∨ ∀ v, g (f v S) = g S) : g S' = g S := by
  refine onAttr_keeps h (hf.imp_right fun hf t S' hS' => ?_)
  rw [← Option.some.inj hS']
  exact hf _

theorem onVendorWord_keeps {f : UInt32 → RadiusSession → RadiusSession}
    (h : onVendorWord pack vendor_id vendor_type f S = some S')
    (hf : findAttr pack RADIUS_ATTR_VENDOR_SPECIFIC vendor_id vendor_type = some none ∨ ∀ v, g (f v S) = g S) :
    g S' = g S := by
  refine onAttr_keeps h (hf.imp_right fun hf t S' hS' => ?_)
  rw [← Option.some.inj hS']
  exact hf _

theorem onVendorWord_sets {f : UInt32 → RadiusSession → RadiusSession} {t : Nat}
    (h : onVendorWord pack vendor_id vendor_type f S = some S')
    (ht : findAttr pack RADIUS_ATTR_VENDOR_SPECIFIC vendor_id vendor_type = some (some t)) :
    S' = f (ntohlAt pack (t + 2)) S := by
  rw [onVendorWord, onAttr, ht] at h
  exact (Option.some.inj h).symm

/-! ## The parts -/

theorem configTimes_keeps (h : configTimes pack check S = some S')
    (hs : findAttr pack RADIUS_ATTR_SESSION_TIMEOUT 0 0 = some none ∨ ∀ S v, g { S with sessiontimeout := v } = g S)
    (hi : findAttr pack RADIUS_ATTR_IDLE_TIMEOUT 0 0 = some none ∨ ∀ S v, g { S with idle_timeout := v } = g S)
    (hp : findAttr pack RADIUS_ATTR_ACCT_INTERIM_INTERVAL 0 0 = some none ∨
      ∀ S v, g { S with interim_interval := v } = g S) : g S' = g S := by
  obtain ⟨S₁, h₁, h⟩ := Option.bind_eq_some_iff.mp h
  obtain ⟨S₂, h₂, h₃⟩ := Option.bind_eq_some_iff.mp h
  have e₁ : g S₁ = g S := onWord_keeps h₁ (hs.imp_right fun hg v => hg S _)
  have e₂ : g S₂ = g S₁ := by
    refine onWord_keeps h₂ (hi.imp_right fun hg v => ?_)
    split
    · rfl
    · exact hg S₁ _
  have e₃ : g S' = g S₂ := by
    refine onWord_keeps h₃ (hp.imp_right fun hg v => ?_)
    split
    · exact hg S₂ _
    · rfl
  rw [e₃, e₂, e₁]

/-- The attributes that set the bandwidth up, and those that set the bandwidth down, without the Class. -/
def upAttrs : List (UInt32 × UInt8) :=
  [(RADIUS_VENDOR_WISPR, RADIUS_ATTR_WISPR_BANDWIDTH_MAX_UP),
    (RADIUS_VENDOR_HUAWEI, RADIUS_ATTR_HUAWEI_AVE_BANDWIDTH_MAX_UP),
    (RADIUS_VENDOR_AUTELAN, RADIUS_ATTR_AUTELAN_INPUT_AVERAGE_RATE),
    (RADIUS_VENDOR_AUTELAN, RADIUS_ATTR_AUTELAN_BANDWIDTH_MAX_UP)]

def downAttrs : List (UInt32 × UInt8) :=
  [(RADIUS_VENDOR_WISPR, RADIUS_ATTR_WISPR_BANDWIDTH_MAX_DOWN),
    (RADIUS_VENDOR_HUAWEI, RADIUS_ATTR_HUAWEI_AVE_BANDWIDTH_MAX_DOWN),
    (RADIUS_VENDOR_AUTELAN, RADIUS_ATTR_AUTELAN_OUTPUT_AVERAGE_RATE),
    (RADIUS_VENDOR_AUTELAN, RADIUS_ATTR_AUTELAN_BANDWIDTH_MAX_DOWN)]

/-- None of these attributes of vendors is in the packet. -/
def Absent (pack : Packet) (attrs : List (UInt32 × UInt8)) : Prop :=
  ∀ a ∈ attrs, findAttr pack RADIUS_ATTR_VENDOR_SPECIFIC a.1 a.2 = some none

theorem Absent.at {attrs : List (UInt32 × UInt8)} (h : Absent pack attrs) (hmem : (vendor_id, vendor_type) ∈ attrs) :
    findAttr pack RADIUS_ATTR_VENDOR_SPECIFIC vendor_id vendor_type = some none :=
  h (vendor_id, vendor_type) hmem

theorem configBandwidth_keeps (h : configBandwidth pack S = some S')
    (hu : Absent pack upAttrs ∨ ∀ S v, g { S with bandwidthmaxup := v } = g S)
    (hd : Absent pack downAttrs ∨ ∀ S v, g { S with bandwidthmaxdown := v } = g S) : g S' = g S := by
  obtain ⟨S₁, h₁, h⟩ := Option.bind_eq_some_iff.mp h
  obtain ⟨S₂, h₂, h⟩ := Option.bind_eq_some_iff.mp h
  obtain ⟨S₃, h₃, h⟩ := Option.bind_eq_some_iff.mp h
  obtain ⟨S₄, h₄, h⟩ := Option.bind_eq_some_iff.mp h
  obtain ⟨S₅, h₅, h₆⟩ := Option.bind_eq_some_iff.mp h
  have e₁ : g S₁ = g S := onVendorWord_keeps h₁ (hu.imp (fun ha => ha.at (by decide)) fun hg v => hg S _)
  have e₂ : g S₂ = g S₁ := onVendorWord_keeps h₂ (hd.imp (fun ha => ha.at (by decide)) fun hg v => hg S₁ _)
  have e₃ : g S₃ = g S₂ := onVendorWord_keeps h₃ (hu.imp (fun ha => ha.at (by decide)) fun hg v => hg S₂ _)
  have e₄ : g S₄ = g S₃ := onVendorWord_keeps h₄ (hd.imp (fun ha => ha.at (by decide)) fun hg v => hg S₃ _)
  have e₅ : g S₅ = g S₄ := onVendorWord_keeps h₅ (hu.imp (fun ha => ha.at (by decide)) fun hg v => hg S₄ _)
  have e₆ : g S' = g S₅ := onVendorWord_keeps h₆ (hd.imp (fun ha => ha.at (by decide)) fun hg v => hg S₅ _)
  rw [e₆, e₅, e₄, e₃, e₂, e₁]

/-- The attributes of the volume. -/
def volumeAttrs : List (UInt32 × UInt8) :=
  [(RADIUS_VENDOR_AUTELAN, RADIUS_ATTR_AUTELAN_SESSION_FLOWOUT_KB),
    (RADIUS_VENDOR_AUTELAN, RADIUS_ATTR_AUTELAN_SESSION_FLOWOUT_MB)]

theorem configVolume_keeps (h : configVolume pack S = some S')
    (hv : Absent pack volumeAttrs ∨ ∀ S v, g { S with maxtotaloctets := v } = g S) : g S' = g S := by
  obtain ⟨S₁, h₁, h₂⟩ := Option.bind_eq_some_iff.mp h
  have e₁ : g S₁ = g S := onVendorWord_keeps h₁ (hv.imp (fun ha => ha.at (by decide)) fun hg v => hg S _)
  have e₂ : g S' = g S₁ := onVendorWord_keeps h₂ (hv.imp (fun ha => ha.at (by decide)) fun hg v => hg S₁ _)
  rw [e₂, e₁]

theorem configClassBandwidth_keeps (h : configClassBandwidth pack S = some S')
    (hc : findAttr pack RADIUS_ATTR_CLASS 0 0 = some none ∨
      ∀ S up down, g { S with bandwidthmaxup := up, bandwidthmaxdown := down } = g S) : g S' = g S := by
  refine onAttr_keeps h (hc.imp_right fun hg t S' hS' => ?_)
  rw [← Option.some.inj hS']
  split
  · exact hg S _ _
  · rfl

theorem configClass_keeps (h : configClass pack S = some S')
    (hc : ∀ S attr len, g { S with class_attr := attr, class_attr_len := len } = g S) : g S' = g S := by
  obtain ⟨found, hfind, hS'⟩ := Option.bind_eq_some_iff.mp h
  cases found with
  | none =>
    obtain rfl := Option.some.inj hS'
    exact hc S _ _
  | some t =>
    dsimp only at hS'
    split at hS'
    · cases hS'
    · obtain rfl := Option.some.inj hS'
      exact hc S _ _

/-- A volume whose product does not pass 32 bits is the product. -/
theorem configVolume_sets (h : configVolume pack S = some S') :
    (∀ t, findAttr pack RADIUS_ATTR_VENDOR_SPECIFIC RADIUS_VENDOR_AUTELAN RADIUS_ATTR_AUTELAN_SESSION_FLOWOUT_MB =
        some (some t) → (ntohlAt pack (t + 2)).toNat < 2 ^ 12 →
      S'.maxtotaloctets.toNat = (ntohlAt pack (t + 2)).toNat * 1048576) ∧
    (findAttr pack RADIUS_ATTR_VENDOR_SPECIFIC RADIUS_VENDOR_AUTELAN RADIUS_ATTR_AUTELAN_SESSION_FLOWOUT_MB =
        some none → ∀ t,
      findAttr pack RADIUS_ATTR_VENDOR_SPECIFIC RADIUS_VENDOR_AUTELAN RADIUS_ATTR_AUTELAN_SESSION_FLOWOUT_KB =
        some (some t) → (ntohlAt pack (t + 2)).toNat < 2 ^ 22 →
      S'.maxtotaloctets.toNat = (ntohlAt pack (t + 2)).toNat * 1024) := by
  obtain ⟨S₁, h₁, h₂⟩ := Option.bind_eq_some_iff.mp h
  constructor
  · intro t ht hlt
    rw [onVendorWord_sets h₂ ht]
    simp only [UInt32.toNat_toUInt64, UInt32.toNat_mul, UInt32.reduceToNat]
    omega
  · intro hmb t ht hlt
    have e₂ : S'.maxtotaloctets = S₁.maxtotaloctets :=
      onVendorWord_keeps (g := RadiusSession.maxtotaloctets) h₂ (.inl hmb)
    rw [e₂, onVendorWord_sets h₁ ht]
    simp only [UInt32.toNat_toUInt64, UInt32.toNat_mul, UInt32.reduceToNat]
    omega

theorem configClass_sets (h : configClass pack S = some S') {t : Nat}
    (ht : findAttr pack RADIUS_ATTR_CLASS 0 0 = some (some t)) :
    S'.class_attr = write S.class_attr 0 (read pack (t + 2) ((pack (t + 1)).toNat - 2)) ∧
      S'.class_attr_len = pack (t + 1) - 2 := by
  rw [configClass, ht] at h
  dsimp only [Option.bind_some] at h
  split at h
  · cases h
  · rw [← Option.some.inj h]
    exact ⟨rfl, rfl⟩

theorem configClass_defined (h : WellFormed pack) : ∃ S', configClass pack S = some S' := by
  obtain ⟨found, hfind⟩ := @WellFormed.find _ RADIUS_ATTR_CLASS 0 0 h
  rw [configClass, hfind]
  cases found with
  | none => exact ⟨_, rfl⟩
  | some t =>
    obtain ⟨i, hi, rfl⟩ := find_attr (by decide) hfind
    have hlen := (h.attr i hi).1
    unfold attrL at hlen
    refine ⟨_, if_neg ?_⟩
    intro hlt
    have hshort : (pack (RADIUS_PACKET_HEADSIZE + hop (attrL pack) 0 i + 1)).toNat < 2 := UInt8.lt_iff_toNat_lt.mp hlt
    unfold attrL at hshort
    omega

end


/-! ## The Class in accounting requests -/

theorem acctReq_class {mem : Packet} {a : AcctReq} {S : RadiusSession} {rest : List Addition} {acct : Packet}
    (h : radiusAcctReq mem a S rest = some acct) (hoff : S.class_to_bandwidth = false) (hpos : 0 < S.class_attr_len)
    (hle : S.class_attr_len.toNat ≤ RADIUS_ATTR_VLEN) :
    ∃ t, findAttr acct RADIUS_ATTR_CLASS 0 0 = some (some t) ∧
      (acct (t + 1)).toNat = S.class_attr_len.toNat + 2 ∧
      read acct (t + 2) S.class_attr_len.toNat = read S.class_attr 0 S.class_attr_len.toNat := by
  unfold radiusAcctReq at h
  dsimp only at h
  split at h
  · cases h
  -- the packet in front of the Class
  generalize hpack : (if a.vendor_id ≠ 0 ∧ a.audit_ip_type ≠ 0 then _ else _ : Packet) = pack at h
  obtain ⟨n, hn, hbuilt⟩ : ∃ n ≤ 5, Built RADIUS_ATTR_CLASS pack n := by
    have hfour := ((((@Built.init mem RADIUS_ATTR_CLASS 4).add (by omega)
      (x := { type := RADIUS_ATTR_ACCT_STATUS_TYPE, value := a.status_type })
      (show RADIUS_ATTR_ACCT_STATUS_TYPE ≠ RADIUS_ATTR_CLASS by decide)).add (by omega)
      (x := { type := RADIUS_ATTR_USER_NAME, data := some a.username, dlen := UInt16.ofNat a.username_len })
      (show RADIUS_ATTR_USER_NAME ≠ RADIUS_ATTR_CLASS by decide)).add (by omega)
      (x := { type := RADIUS_ATTR_ACCT_SESSION_ID, data := some a.sessionid, dlen := a.sessionid_len })
      (show RADIUS_ATTR_ACCT_SESSION_ID ≠ RADIUS_ATTR_CLASS by decide)).add (by omega)
      (x := { type := RADIUS_ATTR_NAS_IP_ADDRESS, value := a.nasip })
      (show RADIUS_ATTR_NAS_IP_ADDRESS ≠ RADIUS_ATTR_CLASS by decide)
    rw [← hpack]
    split
    · exact ⟨5, Nat.le_refl _, hfour.add (by omega)
        (show RADIUS_ATTR_VENDOR_SPECIFIC ≠ RADIUS_ATTR_CLASS by decide)⟩
    · exact ⟨4, by omega, hfour⟩
  rw [if_pos ⟨by simp [hoff], hpos⟩] at h
  obtain rfl := Option.some.inj h
  have hhead := hbuilt.head
  have hsize := hbuilt.size
  have hHEAD : RADIUS_PACKET_HEADSIZE = 20 := rfl
  have hVLEN : RADIUS_ATTR_VLEN = 253 := rfl
  have hroom : radiusLength pack + 255 ≤ RADIUS_PACKET_SIZE := by
    have : RADIUS_PACKET_SIZE = 4096 := rfl
    omega
  have hdlen : S.class_attr_len.toUInt16.toNat = S.class_attr_len.toNat := UInt8.toNat_toUInt16 _
  have hne : S.class_attr_len.toUInt16 ≠ 0 := by
    intro hzero
    have hpos' : 0 < S.class_attr_len.toNat := UInt8.lt_iff_toNat_lt.mp hpos
    rw [hzero] at hdlen
    simp only [UInt16.reduceToNat] at hdlen
    omega
  obtain ⟨x, hx⟩ : ∃ x : Addition, x =
    { type := RADIUS_ATTR_CLASS, data := some S.class_attr, dlen := S.class_attr_len.toUInt16 } := ⟨_, rfl⟩
  rw [← hx]
  have hxlen : x.dlen.toNat = S.class_attr_len.toNat := by
    rw [hx]
    exact hdlen
  obtain ⟨hL, hvalue⟩ := @addattr_value pack x S.class_attr hroom
      (by rw [hx]; exact (by decide : RADIUS_ATTR_CLASS ≠ RADIUS_ATTR_VENDOR_SPECIFIC)) (by rw [hx])
      (by rw [hx]; exact hne) (by rw [hxlen]; exact hle)
  rw [hxlen] at hL hvalue
  obtain ⟨-, -, hlen⟩ := @addattr_head pack x (by omega) hroom
  have hext : Extends (radiusAddattr pack x) (rest.foldl radiusAddattr (radiusAddattr pack x)) :=
    foldl_extends (by omega)
  refine ⟨radiusLength pack, hbuilt.find (by omega) (by rw [hx]) (by decide) hext, ?_, ?_⟩
  · rw [hext.same _ (by omega) (by omega), hL]
  · rw [← hvalue]
    refine read_congr fun i hi hlt => ?_
    exact hext.same i (by omega) (by omega)


/-! ## What an Access-Accept grants -/

section
variable {pack : Packet} {S S' : RadiusSession} {check : Bool} {γ : Type} {g : RadiusSession → γ}

/-- The order in which the parts are configured. -/
theorem config_parts (h : configRadiusSession pack check S = some S') :
    ∃ S₁ S₂ S₃ S₄ S₅, configTimes pack check S = some S₁ ∧
      onVendorWord pack RADIUS_VENDOR_WISPR RADIUS_ATTR_WISPR_BANDWIDTH_MAX_UP
        (fun v S => { S with bandwidthmaxup := v / 1024 }) S₁ = some S₂ ∧
      onVendorWord pack RADIUS_VENDOR_WISPR RADIUS_ATTR_WISPR_BANDWIDTH_MAX_DOWN
        (fun v S => { S with bandwidthmaxdown := v / 1024 }) S₂ = some S₃ ∧
      configClassAttr pack S₃ = some S₄ ∧
      configBandwidth pack S₄ = some S₅ ∧ configVolume pack S₅ = some S' := by
  obtain ⟨S₁, h₁, h⟩ := Option.bind_eq_some_iff.mp h
  obtain ⟨S₂, h₂, h⟩ := Option.bind_eq_some_iff.mp h
  obtain ⟨S₃, h₃, h⟩ := Option.bind_eq_some_iff.mp h
  obtain ⟨S₄, h₄, h⟩ := Option.bind_eq_some_iff.mp h
  obtain ⟨S₅, h₅, h₆⟩ := Option.bind_eq_some_iff.mp h
  exact ⟨S₁, S₂, S₃, S₄, S₅, h₁, h₂, h₃, h₄, h₅, h₆⟩

theorem config_defined (h : WellFormed pack) : ∃ S', configRadiusSession pack check S = some S' := by
  refine defined_bind ?_ fun _ => defined_bind (onVendorWord_defined h) fun _ =>
    defined_bind (onVendorWord_defined h) fun S₃ => defined_bind ?_ fun _ => defined_bind ?_ fun _ => ?_
  · exact defined_bind (onWord_defined h) fun _ => defined_bind (onWord_defined h) fun _ => onWord_defined h
  · unfold configClassAttr
    split
    · exact onAttr_defined h fun _ _ => ⟨_, rfl⟩
    · exact configClass_defined h
  · exact defined_bind (onVendorWord_defined h) fun _ => defined_bind (onVendorWord_defined h) fun _ =>
      defined_bind (onVendorWord_defined h) fun _ => defined_bind (onVendorWord_defined h) fun _ =>
        defined_bind (onVendorWord_defined h) fun _ => onVendorWord_defined h
  · exact defined_bind (onVendorWord_defined h) fun _ => onVendorWord_defined h

/-- What no attribute of the packet sets is kept, over all the parts. -/
theorem config_keeps (h : configRadiusSession pack check S = some S')
    (hs : findAttr pack RADIUS_ATTR_SESSION_TIMEOUT 0 0 = some none ∨ ∀ S v, g { S with sessiontimeout := v } = g S)
    (hi : findAttr pack RADIUS_ATTR_IDLE_TIMEOUT 0 0 = some none ∨ ∀ S v, g { S with idle_timeout := v } = g S)
    (hp : findAttr pack RADIUS_ATTR_ACCT_INTERIM_INTERVAL 0 0 = some none ∨
      ∀ S v, g { S with interim_interval := v } = g S)
    (hu : Absent pack upAttrs ∨ ∀ S v, g { S with bandwidthmaxup := v } = g S)
    (hd : Absent pack downAttrs ∨ ∀ S v, g { S with bandwidthmaxdown := v } = g S)
    (hv : Absent pack volumeAttrs ∨ ∀ S v, g { S with maxtotaloctets := v } = g S)
    (hon : S.class_to_bandwidth = true → findAttr pack RADIUS_ATTR_CLASS 0 0 = some none ∨
      ∀ S up down, g { S with bandwidthmaxup := up, bandwidthmaxdown := down } = g S)
    (hoff : S.class_to_bandwidth = false →
      ∀ S attr len, g { S with class_attr := attr, class_attr_len := len } = g S) : g S' = g S := by
  obtain ⟨S₁, S₂, S₃, S₄, S₅, h₁, h₂, h₃, h₄, h₅, h₆⟩ := config_parts h
  have hswitch : S₃.class_to_bandwidth = S.class_to_bandwidth := by
    have k₁ : S₁.class_to_bandwidth = S.class_to_bandwidth :=
      configTimes_keeps (g := RadiusSession.class_to_bandwidth) h₁ (.inr fun _ _ => rfl) (.inr fun _ _ => rfl)
        (.inr fun _ _ => rfl)
    have k₂ : S₂.class_to_bandwidth = S₁.class_to_bandwidth :=
      onVendorWord_keeps (g := RadiusSession.class_to_bandwidth) h₂ (.inr fun _ => rfl)
    have k₃ : S₃.class_to_bandwidth = S₂.class_to_bandwidth :=
      onVendorWord_keeps (g := RadiusSession.class_to_bandwidth) h₃ (.inr fun _ => rfl)
    rw [k₃, k₂, k₁]
  have e₁ : g S₁ = g S := configTimes_keeps h₁ hs hi hp
  have e₂ : g S₂ = g S₁ := onVendorWord_keeps h₂ (hu.imp (fun ha => ha.at (by decide)) fun hg v => hg S₁ _)
  have e₃ : g S₃ = g S₂ := onVendorWord_keeps h₃ (hd.imp (fun ha => ha.at (by decide)) fun hg v => hg S₂ _)
  have e₄ : g S₄ = g S₃ := by
    rw [configClassAttr, hswitch] at h₄
    cases hc : S.class_to_bandwidth with
    | true =>
      rw [hc, if_pos rfl] at h₄
      exact configClassBandwidth_keeps h₄ (hon hc)
    | false =>
      rw [hc, if_neg (by decide)] at h₄
      exact configClass_keeps h₄ (hoff hc)
  have e₅ : g S₅ = g S₄ := configBandwidth_keeps h₅ hu hd
  have e₆ : g S' = g S₅ := configVolume_keeps h₆ hv
  rw [e₆, e₅, e₄, e₃, e₂, e₁]

/-- If the Class is not used for the bandwidth, what is stored of it stays until the end. -/
theorem config_class (h : configRadiusSession pack check S = some S') (hoff : S.class_to_bandwidth = false) :
    ∃ S₃ S₄, configClass pack S₃ = some S₄ ∧ S'.class_attr = S₄.class_attr ∧
      S'.class_attr_len = S₄.class_attr_len := by
  have hswitch := config_keeps (g := RadiusSession.class_to_bandwidth) h (.inr fun _ _ => rfl) (.inr fun _ _ => rfl)
    (.inr fun _ _ => rfl) (.inr fun _ _ => rfl) (.inr fun _ _ => rfl) (.inr fun _ _ => rfl)
    (fun _ => .inr fun _ _ _ => rfl) (fun _ _ _ _ => rfl)
  obtain ⟨S₁, S₂, S₃, S₄, S₅, h₁, h₂, h₃, h₄, h₅, h₆⟩ := config_parts h
  have hafter : (S'.class_to_bandwidth, S'.class_attr, S'.class_attr_len) =
      (S₄.class_to_bandwidth, S₄.class_attr, S₄.class_attr_len) := by
    have e₅ := configBandwidth_keeps (g := fun S => (S.class_to_bandwidth, S.class_attr, S.class_attr_len)) h₅
      (.inr fun _ _ => rfl) (.inr fun _ _ => rfl)
    have e₆ := configVolume_keeps (g := fun S => (S.class_to_bandwidth, S.class_attr, S.class_attr_len)) h₆
      (.inr fun _ _ => rfl)
    exact e₆.trans e₅
  simp only [Prod.mk.injEq] at hafter
  obtain ⟨hb, hattr, hlen⟩ := hafter
  unfold configClassAttr at h₄
  split at h₄
  · rename_i hon
    have e₄ := configClassBandwidth_keeps (g := RadiusSession.class_to_bandwidth) h₄ (.inr fun _ _ _ => rfl)
    rw [← hb, hswitch, hoff, hon] at e₄
    cases e₄
  · exact ⟨S₃, S₄, h₄, hattr, hlen⟩

end

/-- After an Access-Accept with well-formed attributes: the volume is the one that was granted, if its product does not
pass 32 bits; the Class fits and comes back as it was in every accounting request; a parameter whose attributes
are absent is kept, but for the Class, which is then empty. -/
theorem session_granted (pack : Packet) (check : Bool) (S : RadiusSession) (hwf : WellFormed pack) :
    ∃ S', configRadiusSession pack check S = some S' ∧
    (∀ t, findAttr pack RADIUS_ATTR_VENDOR_SPECIFIC RADIUS_VENDOR_AUTELAN RADIUS_ATTR_AUTELAN_SESSION_FLOWOUT_MB =
        some (some t) → (ntohlAt pack (t + 2)).toNat < 2 ^ 12 →
      S'.maxtotaloctets.toNat = (ntohlAt pack (t + 2)).toNat * 1048576) ∧
    (findAttr pack RADIUS_ATTR_VENDOR_SPECIFIC RADIUS_VENDOR_AUTELAN RADIUS_ATTR_AUTELAN_SESSION_FLOWOUT_MB =
        some none → ∀ t,
      findAttr pack RADIUS_ATTR_VENDOR_SPECIFIC RADIUS_VENDOR_AUTELAN RADIUS_ATTR_AUTELAN_SESSION_FLOWOUT_KB =
        some (some t) → (ntohlAt pack (t + 2)).toNat < 2 ^ 22 →
      S'.maxtotaloctets.toNat = (ntohlAt pack (t + 2)).toNat * 1024) ∧
    (S.class_to_bandwidth = false → ∀ t, findAttr pack RADIUS_ATTR_CLASS 0 0 = some (some t) →
      2 ≤ (pack (t + 1)).toNat ∧ (pack (t + 1)).toNat - 2 ≤ RADIUS_CLASS_ATTR_SIZE ∧
      t + (pack (t + 1)).toNat ≤ radiusLength pack ∧
      ∀ S'' mem a rest acct, S''.class_attr = S'.class_attr → S''.class_attr_len = S'.class_attr_len →
        S''.class_to_bandwidth = false → radiusAcctReq mem a S'' rest = some acct →
        ∃ t', findAttr acct RADIUS_ATTR_CLASS 0 0 = some (some t') ∧ acct (t' + 1) = pack (t + 1) ∧
          read acct (t' + 2) ((pack (t + 1)).toNat - 2) = read pack (t + 2) ((pack (t + 1)).toNat - 2)) ∧
    (findAttr pack RADIUS_ATTR_SESSION_TIMEOUT 0 0 = some none → S'.sessiontimeout = S.sessiontimeout) ∧
    (findAttr pack RADIUS_ATTR_IDLE_TIMEOUT 0 0 = some none → S'.idle_timeout = S.idle_timeout) ∧
    (findAttr pack RADIUS_ATTR_ACCT_INTERIM_INTERVAL 0 0 = some none → S'.interim_interval = S.interim_interval) ∧
    (Absent pack upAttrs → (S.class_to_bandwidth = true → findAttr pack RADIUS_ATTR_CLASS 0 0 = some none) →
      S'.bandwidthmaxup = S.bandwidthmaxup) ∧
    (Absent pack downAttrs → (S.class_to_bandwidth = true → findAttr pack RADIUS_ATTR_CLASS 0 0 = some none) →
      S'.bandwidthmaxdown = S.bandwidthmaxdown) ∧
    (Absent pack volumeAttrs → S'.maxtotaloctets = S.maxtotaloctets) ∧
    (S.class_to_bandwidth = true → S'.class_attr = S.class_attr ∧ S'.class_attr_len = S.class_attr_len) ∧
    (S.class_to_bandwidth = false → findAttr pack RADIUS_ATTR_CLASS 0 0 = some none → S'.class_attr_len = 0) := by
  obtain ⟨S', h⟩ := @config_defined _ S check hwf
  obtain ⟨-, -, -, -, S₅, -, -, -, -, -, hvolume⟩ := config_parts h
  obtain ⟨hmb, hkb⟩ := configVolume_sets hvolume
  refine ⟨S', h, hmb, hkb, ?_, ?_, ?_, ?_, ?_, ?_, ?_, ?_, ?_⟩
  · intro hoff t ht
    obtain ⟨i, hi, hti⟩ := find_attr (by decide) ht
    obtain ⟨hthree, hin⟩ := hwf.attr i hi
    have hoctet := (pack (t + 1)).toNat_lt
    have hL : attrL pack (hop (attrL pack) 0 i) = (pack (t + 1)).toNat := by
      rw [hti]
      rfl
    rw [hL] at hthree hin
    obtain ⟨S₃, S₄, hclass, hattr', hlen'⟩ := config_class h hoff
    obtain ⟨hset, hsetlen⟩ := configClass_sets hclass ht
    have hread : read S'.class_attr 0 ((pack (t + 1)).toNat - 2) = read pack (t + 2) ((pack (t + 1)).toNat - 2) := by
      rw [hattr', hset]
      have hself := read_write_self (m := S₃.class_attr) (a := 0)
        (l := read pack (t + 2) ((pack (t + 1)).toNat - 2))
      rwa [length_read] at hself
    have hlenNat : S'.class_attr_len.toNat = (pack (t + 1)).toNat - 2 := by
      rw [hlen', hsetlen, UInt8.toNat_sub_of_le _ _ (UInt8.le_iff_toNat_le.mpr (by simp only [UInt8.reduceToNat]; omega))]
      rfl
    have hCLASS : RADIUS_CLASS_ATTR_SIZE = 256 := rfl
    have hVLEN : RADIUS_ATTR_VLEN = 253 := rfl
    have hhead := hwf.head
    have hpayload := payloadLen_eq hhead
    refine ⟨by omega, by omega, by omega, ?_⟩
    intro S'' mem a rest acct hattr hattrlen hswitch hacct
    obtain ⟨t', hfind, ht', hvalue⟩ := acctReq_class hacct hswitch
      (by rw [hattrlen, UInt8.lt_iff_toNat_lt, hlenNat]; simp only [UInt8.reduceToNat]; omega)
      (by rw [hattrlen, hlenNat]; omega)
    rw [hattrlen, hlenNat] at ht' hvalue
    rw [hattr, hread] at hvalue
    exact ⟨t', hfind, UInt8.toNat_inj.mp (by omega), hvalue⟩
  · intro ha
    exact config_keeps (g := RadiusSession.sessiontimeout) h (.inl ha) (.inr fun _ _ => rfl) (.inr fun _ _ => rfl)
      (.inr fun _ _ => rfl) (.inr fun _ _ => rfl) (.inr fun _ _ => rfl) (fun _ => .inr fun _ _ _ => rfl)
      (fun _ _ _ _ => rfl)
  · intro ha
    exact config_keeps (g := RadiusSession.idle_timeout) h (.inr fun _ _ => rfl) (.inl ha) (.inr fun _ _ => rfl)
      (.inr fun _ _ => rfl) (.inr fun _ _ => rfl) (.inr fun _ _ => rfl) (fun _ => .inr fun _ _ _ => rfl)
      (fun _ _ _ _ => rfl)
  · intro ha
    exact config_keeps (g := RadiusSession.interim_interval) h (.inr fun _ _ => rfl) (.inr fun _ _ => rfl) (.inl ha)
      (.inr fun _ _ => rfl) (.inr fun _ _ => rfl) (.inr fun _ _ => rfl) (fun _ => .inr fun _ _ _ => rfl)
      (fun _ _ _ _ => rfl)
  · intro ha hclass
    exact config_keeps (g := RadiusSession.bandwidthmaxup) h (.inr fun _ _ => rfl) (.inr fun _ _ => rfl)
      (.inr fun _ _ => rfl) (.inl ha) (.inr fun _ _ => rfl) (.inr fun _ _ => rfl) (fun hon => .inl (hclass hon))
      (fun _ _ _ _ => rfl)
  · intro ha hclass
    exact config_keeps (g := RadiusSession.bandwidthmaxdown) h (.inr fun _ _ => rfl) (.inr fun _ _ => rfl)
      (.inr fun _ _ => rfl) (.inr fun _ _ => rfl) (.inl ha) (.inr fun _ _ => rfl) (fun hon => .inl (hclass hon))
      (fun _ _ _ _ => rfl)
  · intro ha
    exact config_keeps (g := RadiusSession.maxtotaloctets) h (.inr fun _ _ => rfl) (.inr fun _ _ => rfl)
      (.inr fun _ _ => rfl) (.inr fun _ _ => rfl) (.inr fun _ _ => rfl) (.inl ha) (fun _ => .inr fun _ _ _ => rfl)
      (fun _ _ _ _ => rfl)
  · intro hon
    have hkept := config_keeps (g := fun S => (S.class_attr, S.class_attr_len)) h (.inr fun _ _ => rfl)
      (.inr fun _ _ => rfl) (.inr fun _ _ => rfl) (.inr fun _ _ => rfl) (.inr fun _ _ => rfl) (.inr fun _ _ => rfl)
      (fun _ => .inr fun _ _ _ => rfl) (fun hoff => absurd hon (by rw [hoff]; decide))
    simpa only [Prod.mk.injEq] using hkept
  · intro hoff hnone
    obtain ⟨S₃, S₄, hclass, -, hlen'⟩ := config_class h hoff
    rw [configClass, hnone] at hclass
    rw [hlen', ← Option.some.inj hclass]


/-- An Access-Accept with the octets `attrs` behind its head. -/
def acceptPacket (attrs : List UInt8) : Packet := fun i =>
  ([2, 0, 0, UInt8.ofNat (20 + attrs.length)] ++ List.replicate 16 0 ++ attrs).getD i 0

/-- A session with the Class "A". -/
def sampleSession : RadiusSession :=
  { sessiontimeout := 0, idle_timeout := 0, interim_interval := 60, bandwidthmaxup := 0, bandwidthmaxdown := 0
    maxtotaloctets := 0, class_to_bandwidth := false, class_attr := fun i => if i = 0 then 65 else 0
    class_attr_len := 1 }

/-- The Class "AB" and a volume of 5 KB. -/
theorem session_granted_volume : ∃ S',
    configRadiusSession (acceptPacket [25, 4, 65, 66, 26, 12, 0, 0, 0x7b, 0xa8, 52, 6, 0, 0, 0, 5]) false
      sampleSession = some S' ∧ S'.maxtotaloctets.toNat = 5120 ∧ S'.sessiontimeout = 0 := by
  have hwf : WellFormed (acceptPacket [25, 4, 65, 66, 26, 12, 0, 0, 0x7b, 0xa8, 52, 6, 0, 0, 0, 5]) := by
    refine ⟨by decide, ?_⟩
    intro i hi
    match i with
    | 0 => decide
    | 1 => decide
    | i + 2 =>
      exfalso
      have hfar := @hop_mono (attrL (acceptPacket [25, 4, 65, 66, 26, 12, 0, 0, 0x7b, 0xa8, 52, 6, 0, 0, 0, 5])) 0 _
          _ (show 2 ≤ i + 2 by omega)
      exact absurd (Nat.lt_of_le_of_lt hfar hi) (by decide)
  obtain ⟨S', hS', -, hkb, -, hst, -⟩ := session_granted _ false sampleSession hwf
  exact ⟨S', hS', hkb (by decide +kernel) 30 (by decide +kernel) (by decide), hst (by decide +kernel)⟩

/-- Without a Class in the Access-Accept the one of the session is lost. -/
theorem class_cleared : ¬ ∀ pack check S S', WellFormed pack → configRadiusSession pack check S = some S' →
    findAttr pack RADIUS_ATTR_CLASS 0 0 = some none → S'.class_attr_len = S.class_attr_len := by
  intro h
  have hwf : WellFormed (acceptPacket []) := by
    refine ⟨by decide, ?_⟩
    intro i hi
    exact absurd (Nat.lt_of_le_of_lt (Nat.zero_le _) hi) (by decide)
  obtain ⟨S', hS'⟩ := @config_defined _ sampleSession false hwf
  have hnone : findAttr (acceptPacket []) RADIUS_ATTR_CLASS 0 0 = some none := by decide +kernel
  have hkept := h _ false sampleSession S' hwf hS' hnone
  obtain ⟨S₃, S₄, hclass, -, hlen⟩ := config_class hS' rfl
  rw [configClass, hnone] at hclass
  rw [hlen, ← Option.some.inj hclass] at hkept
  exact absurd hkept (show (0 : UInt8) ≠ 1 by decide)

end Eag
end DaemonGroup
