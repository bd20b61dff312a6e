import DaemonGroup.Kernel.Channels
import Mathlib.Data.Nat.Bitwise

/-!
# DaemonGroup.Kernel.Tables

The channel tables of the kernel module stay in step with each other and with the channels.

* `TabInv` — one device: two keyed tables, a channel of the sid table is in the IP table exactly
  when its IP traffic passes.
* `register_inv`, `unregister_inv`, `authorize_inv`, `unauthorize_inv`, `clear_inv` — the requests.
* `channel_tables_agree` — every run of requests.
-/

namespace DaemonGroup
namespace Kernel

open Lib Buckets

/-- The IP traffic of the channel at `a` passes. -/
def Passes (s : State) (a : Nat) : Prop := (s.channel a).npmode NP_IP = .NPMODE_PASS

structure TabInv (s : State) (p : PppoeStruct) : Prop where
  sid : Keyed sidHash (sidOf s) p.sid_head
  ip : Keyed ipHash (ipOf s) p.ip_head
  pass : ∀ a, Mem p.ip_head a ↔ Mem p.sid_head a ∧ Passes s a
  alloc : ∀ a, Mem p.sid_head a → a ∈ s.kmem

structure Inv (s : State) : Prop where
  tab : ∀ i d, s.dev i = some d → TabInv s d.priv
  apart : ∀ i j d e a, s.dev i = some d → s.dev j = some e → Mem d.priv.sid_head a →
    Mem e.priv.sid_head a → i = j
  owned : ∀ a ∈ s.kmem, ∃ i d, s.dev i = some d ∧ Mem d.priv.sid_head a
  nodup : s.kmem.Nodup

section
variable {s t : State} {p : PppoeStruct} {d : NetDevice} {i a : Nat}

/-- What the tables of a device depend on. -/
theorem TabInv.frame (h : TabInv s p) (hc : ∀ a, Mem p.sid_head a → t.channel a = s.channel a)
    (hk : ∀ a, Mem p.sid_head a → a ∈ t.kmem) : TabInv t p := by
  have hip : ∀ a, Mem p.ip_head a → t.channel a = s.channel a :=
    fun a ha => hc a ((h.pass a).mp ha).1
  refine ⟨h.sid.congr fun a ha => ?_, h.ip.congr fun a ha => ?_, fun a => ?_, hk⟩
  · simp only [sidOf, hc a ha]
  · simp only [ipOf, hip a ha]
  · rw [h.pass a]
    exact and_congr_right fun ha => by rw [Passes, Passes, hc a ha]

theorem getDev_ok (h : getDev s i = .ok d) : s.dev i = some d := by
  unfold getDev at h
  split at h
  · cases h
  · split at h
    · cases h
      assumption
    · cases h

/-- A channel of the IP table is in the sid table. -/
theorem TabInv.sid_of_ip (h : TabInv s p) (ha : Mem p.ip_head a) : Mem p.sid_head a :=
  ((h.pass a).mp ha).1

/-- Device `i` becomes `d'`; the tables of the other devices stay in order. -/
theorem Inv.setDev (h : Inv s) {d' : NetDevice}
    (hdev : t.dev = Function.update s.dev i (some d')) (hp : TabInv t d'.priv)
    (hother : ∀ j e, j ≠ i → s.dev j = some e → TabInv t e.priv)
    (hnew : ∀ j e a, j ≠ i → s.dev j = some e → Mem d'.priv.sid_head a → ¬ Mem e.priv.sid_head a)
    (howned : ∀ a ∈ t.kmem, Mem d'.priv.sid_head a ∨
      ∃ j e, j ≠ i ∧ s.dev j = some e ∧ Mem e.priv.sid_head a)
    (hnodup : t.kmem.Nodup) : Inv t := by
  have hi : t.dev i = some d' := by rw [hdev, Function.update_self]
  have hj : ∀ j, j ≠ i → t.dev j = s.dev j := fun j hne => by rw [hdev, Function.update_of_ne hne]
  refine ⟨fun j e he => ?_, fun j k e f a he hf hea hfa => ?_, fun a ha => ?_, hnodup⟩
  · by_cases hji : j = i
    · subst hji
      rw [hi] at he
      cases he
      exact hp
    · exact hother j e hji (hj j hji ▸ he)
  · by_cases hji : j = i <;> by_cases hki : k = i
    · rw [hji, hki]
    · subst hji
      rw [hi] at he
      cases he
      exact absurd hfa (hnew k f a hki (hj k hki ▸ hf) hea)
    · subst hki
      rw [hi] at hf
      cases hf
      exact absurd hea (hnew j e a hji (hj j hji ▸ he) hfa)
    · exact h.apart j k e f a (hj j hji ▸ he) (hj k hki ▸ hf) hea hfa
  · rcases howned a ha with hm | ⟨j, e, hji, he, hm⟩
    · exact ⟨i, _, hi, hm⟩
    · exact ⟨j, e, (hj j hji).trans he, hm⟩

/-- A channel that is not allocated is in no table. -/
theorem Inv.not_mem (h : Inv s) (ha : a ∉ s.kmem) (hd : s.dev i = some d) :
    ¬ Mem d.priv.sid_head a := fun hm => ha ((h.tab i d hd).alloc a hm)

/-- A channel of device `i` is on no other device. -/
theorem Inv.not_mem_other (h : Inv s) (hd : s.dev i = some d) (ha : Mem d.priv.sid_head a)
    {j : Nat} {e : NetDevice} (hji : j ≠ i) (he : s.dev j = some e) :
    ¬ Mem e.priv.sid_head a := fun hm => hji (h.apart j i e d a he hd hm ha)

/-- Where an allocated channel is, seen from device `i`. -/
theorem Inv.owned_here (h : Inv s) (hd : s.dev i = some d) (ha : a ∈ s.kmem) :
    Mem d.priv.sid_head a ∨ ∃ j e, j ≠ i ∧ s.dev j = some e ∧ Mem e.priv.sid_head a := by
  obtain ⟨j, e, he, hae⟩ := h.owned a ha
  by_cases hji : j = i
  · subst hji
    rw [hd] at he
    cases he
    exact .inl hae
  · exact .inr ⟨j, e, hji, he, hae⟩

theorem register_inv (h : Inv s) {m : RegisterMsg} {mem : Option Nat}
    (hm : ∀ a ∈ mem, a ∉ s.kmem) : Inv (pppoeChannelRegister s m mem).1 := by
  unfold pppoeChannelRegister
  cases hg : getDev s m.ifindex with
  | error e => exact h
  | ok d =>
    have hd := getDev_ok hg
    dsimp only
    split
    · exact h
    · cases mem with
      | none => exact h
      | some a =>
        have hfresh := hm a rfl
        -- no table holds the new channel, so the old tables do not see it
        have hframe : ∀ j e, s.dev j = some e → ∀ b, Mem e.priv.sid_head b →
            (channelAlloc s m a).channel b = s.channel b := by
          intro j e he b hb
          have hba : b ≠ a := fun hba => h.not_mem hfresh he (hba ▸ hb)
          simp [channelAlloc, hba]
        have hself : (channelAlloc s m a).channel a =
            { sid := m.sid, ip := 0, magic := m.magic, mac := m.mac, serverMac := m.serverMac,
              npmode := fun _ => .NPMODE_DROP } := by simp [channelAlloc]
        dsimp only
        cases hins : channelSidInsert (channelAlloc s m a) d.priv a with
        | none =>
          have hk : (channelFree (channelAlloc s m a) a).kmem = s.kmem := by
            simp [channelFree, channelAlloc]
          refine ⟨fun j e he => (h.tab j e he).frame (hframe j e he) fun b hb => ?_, h.apart,
            fun b hb => h.owned b (hk ▸ hb), hk ▸ h.nodup⟩
          rw [hk]
          exact (h.tab j e he).alloc b hb
        | some p =>
          have htab : TabInv (channelAlloc s m a) d.priv :=
            (h.tab _ d hd).frame (hframe _ d hd) fun b hb =>
              List.mem_cons_of_mem _ ((h.tab _ d hd).alloc b hb)
          unfold channelSidInsert at hins
          split at hins
          · cases hins
          case h_2 hnone =>
            cases hins
            have hkeyed := htab.sid.insert fun b hb => htab.sid.find_none hnone hb
            refine h.setDev rfl ⟨hkeyed, htab.ip, fun b => ?_, fun b hb => ?_⟩
              (fun j e _ he => ?_) (fun j e b hji he hb hbe => ?_) (fun b hb => ?_)
              (List.nodup_cons.mpr ⟨hfresh, h.nodup⟩)
            · rw [mem_insert]
              refine (htab.pass b).trans ?_
              by_cases hba : b = a
              · subst hba
                have hnp : ¬ Passes (channelAlloc s m b) b := by
                  rw [Passes, hself]
                  exact NPmode.noConfusion
                exact iff_of_false (fun hx => hnp hx.2) (fun hx => hnp hx.2)
              · simp only [hba, false_or]
                rfl
            · rcases mem_insert.mp hb with rfl | hb
              · exact List.mem_cons_self
              · exact htab.alloc b hb
            · exact (h.tab j e he).frame (hframe j e he) fun b hb =>
                List.mem_cons_of_mem _ ((h.tab j e he).alloc b hb)
            · rcases mem_insert.mp hb with rfl | hb
              · exact h.not_mem hfresh he hbe
              · exact h.not_mem_other hd hb hji he hbe
            · rcases List.mem_cons.mp hb with rfl | hb
              · exact .inl (mem_insert.mpr (.inl rfl))
              · exact (h.owned_here hd hb).imp (fun hm => mem_insert.mpr (.inr hm)) id

/-- The tables after `pppoe_channel_unregister` has taken channel `a` out of the IP table, if its
traffic passes. -/
def withoutIp (s : State) (p : PppoeStruct) (a : Nat) : PppoeStruct :=
  if (s.channel a).npmode NP_IP = .NPMODE_PASS then
    match channelIpRemove s p (ipOf s a) with
    | none => p
    | some (p, _) => p
  else p

theorem withoutIp_spec (hip : Keyed ipHash (ipOf s) p.ip_head)
    (ha : Mem p.ip_head a ↔ Passes s a) :
    (withoutIp s p a).sid_head = p.sid_head ∧ Keyed ipHash (ipOf s) (withoutIp s p a).ip_head ∧
      ∀ b, Mem (withoutIp s p a).ip_head b ↔ Mem p.ip_head b ∧ b ≠ a := by
  unfold withoutIp
  split
  case isTrue hpass =>
    have hfind := hip.find_eq (ha.mpr hpass)
    simp only [channelIpRemove, channelGetByIp, hfind]
    exact ⟨trivial, hip.erase a, fun b => hip.mem_erase⟩
  case isFalse hpass =>
    refine ⟨rfl, hip, fun b => (and_iff_left_of_imp fun hb => ?_).symm⟩
    rintro rfl
    exact hpass (ha.mp hb)

theorem unregister_inv (h : Inv s) {m : RegisterMsg} : Inv (pppoeChannelUnregister s m).1 := by
  unfold pppoeChannelUnregister
  cases hg : getDev s m.ifindex with
  | error e => exact h
  | ok d =>
    have hd := getDev_ok hg
    have htab := h.tab _ d hd
    dsimp only
    cases hrem : channelSidRemove s d.priv m.sid with
    | none => exact h
    | some r =>
      obtain ⟨p, a⟩ := r
      unfold channelSidRemove at hrem
      split at hrem
      · cases hrem
      case h_2 hfind =>
        cases hrem
        obtain ⟨ha, hsid⟩ := find_some hfind
        change sidOf s a = m.sid at hsid
        have hsidmem : ∀ b, Mem (erase d.priv.sid_head (sidHash m.sid) a) b ↔
            Mem d.priv.sid_head b ∧ b ≠ a := fun b => by rw [← hsid]; exact htab.sid.mem_erase
        have hkeyed : Keyed sidHash (sidOf s) (erase d.priv.sid_head (sidHash m.sid) a) := by
          rw [← hsid]
          exact htab.sid.erase a
        obtain ⟨hsame, hT, hTmem⟩ := withoutIp_spec (a := a)
          (p := { d.priv with sid_head := erase d.priv.sid_head (sidHash m.sid) a }) htab.ip
          ((htab.pass a).trans (and_iff_right ha))
        change Inv (channelFree (setPriv s m.ifindex d (withoutIp s _ a)) a)
        have hkm : ∀ b, b ∈ s.kmem.erase a ↔ b ≠ a ∧ b ∈ s.kmem := fun b => h.nodup.mem_erase_iff
        refine h.setDev rfl ⟨hsame ▸ hkeyed, hT, fun b => ?_, fun b hb => ?_⟩
          (fun j e hji he => ?_) (fun j e b hji he hb hbe => ?_) (fun b hb => ?_)
          (h.nodup.erase a)
        · rw [hTmem, hsame, hsidmem, htab.pass]
          exact and_right_comm
        · rw [hsame] at hb
          exact (hkm b).mpr ⟨((hsidmem b).mp hb).2, htab.alloc b ((hsidmem b).mp hb).1⟩
        · refine (h.tab j e he).frame (fun _ _ => rfl) fun b hb => (hkm b).mpr ⟨?_, ?_⟩
          · rintro rfl
            exact h.not_mem_other hd ha hji he hb
          · exact (h.tab j e he).alloc b hb
        · rw [hsame] at hb
          exact h.not_mem_other hd ((hsidmem b).mp hb).1 hji he hbe
        · rw [hsame]
          obtain ⟨hba, hb⟩ := (hkm b).mp hb
          exact (h.owned_here hd hb).imp (fun hm => (hsidmem b).mpr ⟨hm, hba⟩) id

/-- The address of a channel whose traffic does not pass is of no table. -/
theorem setIp_inv (h : Inv s) {ip : UInt32} (hnp : ¬ Passes s a) : Inv (setIp s a ip) := by
  refine ⟨fun i d hd => ?_, h.apart, h.owned, h.nodup⟩
  have htab := h.tab i d hd
  refine ⟨htab.sid.congr fun b _ => ?_, htab.ip.congr fun b hb => ?_, fun b => ?_, htab.alloc⟩
  · by_cases hba : b = a
    · simp [sidOf, setIp, hba]
    · simp [sidOf, setIp, hba]
  · have hba : b ≠ a := by
      rintro rfl
      exact hnp ((htab.pass b).mp hb).2
    simp [ipOf, setIp, hba]
  · rw [htab.pass b]
    refine and_congr_right fun _ => ?_
    by_cases hba : b = a
    · simp [Passes, setIp, hba]
    · simp [Passes, setIp, hba]

/-- A change of the mode of channel `a` together with the IP table it is or is not in. -/
theorem setMode_inv (h : Inv s) (hd : s.dev i = some d) (ha : Mem d.priv.sid_head a)
    {T : Nat → List Nat} {mode : NPmode} (hT : Keyed ipHash (ipOf s) T)
    (hmem : ∀ b, Mem T b ↔ (Mem d.priv.ip_head b ∧ b ≠ a) ∨ (b = a ∧ mode = .NPMODE_PASS)) :
    Inv (setMode (setPriv s i d { d.priv with ip_head := T }) a mode) := by
  have htab := h.tab i d hd
  have hsid : ∀ b, sidOf (setMode (setPriv s i d { d.priv with ip_head := T }) a mode) b =
      sidOf s b := by
    intro b
    by_cases hba : b = a
    · simp [sidOf, setMode, setPriv, hba]
    · simp [sidOf, setMode, setPriv, hba]
  have hip : ∀ b, ipOf (setMode (setPriv s i d { d.priv with ip_head := T }) a mode) b =
      ipOf s b := by
    intro b
    by_cases hba : b = a
    · simp [ipOf, setMode, setPriv, hba]
    · simp [ipOf, setMode, setPriv, hba]
  refine h.setDev rfl ⟨htab.sid.congr fun b _ => hsid b, hT.congr fun b _ => hip b, fun b => ?_,
    htab.alloc⟩ (fun j e hji he => ?_) (fun j e b hji he hb => h.not_mem_other hd hb hji he)
    (fun b hb => (h.owned_here hd hb :)) h.nodup
  · rw [hmem]
    by_cases hba : b = a
    · subst hba
      simp [Passes, setMode, setPriv, ha]
    · rw [htab.pass b]
      simp [Passes, setMode, setPriv, hba]
  · refine (h.tab j e he).frame (fun b hb => ?_) (h.tab j e he).alloc
    have hba : b ≠ a := by
      rintro rfl
      exact h.not_mem_other hd ha hji he hb
    simp [setMode, setPriv, hba]

theorem authorize_inv (h : Inv s) {m : AuthorizeMsg} : Inv (pppoeChannelAuthorize s m).1 := by
  unfold pppoeChannelAuthorize
  cases hg : getDev s m.ifindex with
  | error e => exact h
  | ok d =>
    have hd := getDev_ok hg
    dsimp only
    split
    · exact h
    · cases hf : channelGetBySid s d.priv m.sid with
      | none => exact h
      | some a =>
        obtain ⟨ha, -⟩ := find_some hf
        dsimp only
        split
        · exact h
        case isFalse hnp =>
          have h' : Inv (setIp s a m.ip) := setIp_inv h hnp
          have htab := h'.tab _ d hd
          cases hins : channelIpInsert (setIp s a m.ip) d.priv a with
          | none => exact h'
          | some p =>
            unfold channelIpInsert at hins
            split at hins
            · cases hins
            case h_2 hnone =>
              cases hins
              have hout : ¬ Mem d.priv.ip_head a := fun hm => htab.ip.find_none hnone hm rfl
              refine setMode_inv h' hd ha
                (htab.ip.insert fun b hb => htab.ip.find_none hnone hb) fun b => ?_
              rw [mem_insert]
              by_cases hba : b = a
              · simp [hba]
              · simp [hba]

theorem unauthorize_inv (h : Inv s) {m : AuthorizeMsg} : Inv (pppoeChannelUnauthorize s m).1 := by
  unfold pppoeChannelUnauthorize
  cases hg : getDev s m.ifindex with
  | error e => exact h
  | ok d =>
    have hd := getDev_ok hg
    have htab := h.tab _ d hd
    dsimp only
    cases hrem : channelIpRemove s d.priv m.ip with
    | none => exact h
    | some r =>
      obtain ⟨p, a⟩ := r
      unfold channelIpRemove at hrem
      split at hrem
      · cases hrem
      case h_2 hfind =>
        cases hrem
        obtain ⟨ha, hip⟩ := find_some hfind
        change ipOf s a = m.ip at hip
        refine setMode_inv h hd (htab.sid_of_ip ha) ?_ fun b => ?_
        · rw [← hip]
          exact htab.ip.erase a
        · rw [← hip, htab.ip.mem_erase]
          simp

theorem sidHash_lt (sid : UInt16) : sidHash sid < CHANNEL_HASHSIZE := by
  have h : sidHash sid ≤ CHANNEL_HASHSIZE - 1 := Nat.and_le_right
  exact h.trans_lt (by decide)

/-- The chains of the sid table hold its channels and no others. -/
theorem TabInv.mem_sidChannels (h : TabInv s p) : a ∈ sidChannels p ↔ Mem p.sid_head a := by
  unfold sidChannels
  rw [List.mem_flatMap]
  constructor
  · rintro ⟨i, -, ha⟩
    exact ⟨i, ha⟩
  · rintro ⟨i, ha⟩
    refine ⟨i, List.mem_range.mpr ?_, ha⟩
    rw [← h.sid.home i a ha]
    exact sidHash_lt _

theorem clear_inv (h : Inv s) : Inv (pppoeChannelClear s i).1 := by
  unfold pppoeChannelClear
  cases hg : getDev s i with
  | error e => exact h
  | ok d =>
    have hd := getDev_ok hg
    have htab := h.tab i d hd
    have hkm : ∀ b, b ∈ s.kmem.filter (· ∉ sidChannels d.priv) ↔
        b ∈ s.kmem ∧ ¬ Mem d.priv.sid_head b := by
      intro b
      simp [List.mem_filter, htab.mem_sidChannels]
    refine h.setDev rfl ⟨.empty, .empty, fun b => iff_of_false not_mem_empty
      fun hb => not_mem_empty hb.1, fun b hb => absurd hb not_mem_empty⟩ (fun j e hji he => ?_)
      (fun j e b _ _ hb => absurd hb not_mem_empty) (fun b hb => ?_) (h.nodup.filter _)
    · refine (h.tab j e he).frame (fun _ _ => rfl) fun b hb => (hkm b).mpr ⟨?_, ?_⟩
      · exact (h.tab j e he).alloc b hb
      · exact fun hbd => h.not_mem_other hd hbd hji he hb
    · obtain ⟨hb, hnot⟩ := (hkm b).mp hb
      exact .inr ((h.owned_here hd hb).resolve_left hnot)

theorem flags_inv (h : Inv s) {up : Bool} : Inv (step s (.flags i up)) := by
  unfold step
  dsimp only
  split
  · exact h
  case h_2 d hd =>
    refine h.setDev rfl ((h.tab i d hd).frame (fun _ _ => rfl) (h.tab i d hd).alloc)
      (fun j e _ he => (h.tab j e he).frame (fun _ _ => rfl) (h.tab j e he).alloc)
      (fun j e b hji he hb => h.not_mem_other hd hb hji he)
      (fun b hb => (h.owned_here hd hb :)) h.nodup

theorem step_inv {e : Event} (h : Inv s) (hl : Legal s e) : Inv (step s e) := by
  cases e with
  | register m mem => exact register_inv h hl
  | unregister m => exact unregister_inv h
  | authorize m => exact authorize_inv h
  | unauthorize m => exact unauthorize_inv h
  | clear i => exact clear_inv h
  | flags i up => exact flags_inv h

theorem init_inv (devs : List (Nat × Bool × Bool)) : Inv (init devs) := by
  have hempty : ∀ i d, (init devs).dev i = some d → d.priv = ⟨fun _ => [], fun _ => []⟩ := by
    intro i d hd
    obtain ⟨x, -, rfl⟩ := Option.map_eq_some_iff.mp hd
    rfl
  refine ⟨fun i d hd => ?_, fun i j d e a hd _ ha => ?_, fun a ha => ?_, List.nodup_nil⟩
  · rw [hempty i d hd]
    exact ⟨.empty, .empty, fun a => iff_of_false not_mem_empty fun ha => not_mem_empty ha.1,
      fun a ha => absurd ha not_mem_empty⟩
  · rw [hempty i d hd] at ha
    exact absurd ha not_mem_empty
  · cases ha

end

/-- The sid tables, the IP tables and the modes of the channels agree. -/
structure Agree (s : State) : Prop where
  sid : ∀ i a b, InSid s i a → InSid s i b → sidOf s a = sidOf s b → a = b
  ip : ∀ i a b, InIp s i a → InIp s i b → ipOf s a = ipOf s b → a = b
  pass : ∀ a ∈ s.kmem, (∃ i, InIp s i a) ↔ (s.channel a).npmode NP_IP = .NPMODE_PASS
  freed : ∀ a, a ∉ s.kmem → ∀ i, ¬ InSid s i a ∧ ¬ InIp s i a

theorem Inv.agree {s : State} (h : Inv s) : Agree s := by
  refine ⟨?_, ?_, fun a ha => ?_, fun a ha i => ?_⟩
  · rintro i a b ⟨d, hd, ha⟩ ⟨e, he, hb⟩ hab
    rw [hd] at he
    cases he
    exact (h.tab i d hd).sid.inj a b ha hb hab
  · rintro i a b ⟨d, hd, ha⟩ ⟨e, he, hb⟩ hab
    rw [hd] at he
    cases he
    exact (h.tab i d hd).ip.inj a b ha hb hab
  · constructor
    · rintro ⟨i, d, hd, hm⟩
      exact (((h.tab i d hd).pass a).mp hm).2
    · intro hpass
      obtain ⟨i, d, hd, hm⟩ := h.owned a ha
      exact ⟨i, d, hd, ((h.tab i d hd).pass a).mpr ⟨hm, hpass⟩⟩
  · constructor
    · rintro ⟨d, hd, hm⟩
      exact h.not_mem ha hd hm
    · rintro ⟨d, hd, hm⟩
      exact h.not_mem ha hd ((h.tab i d hd).sid_of_ip hm)

/-- After every run of requests the tables agree: no two channels of a table share a key, a channel
is in an IP table exactly when its IP traffic passes, and a freed channel is in no table. -/
theorem channel_tables_agree {devs : List (Nat × Bool × Bool)} {es : List Event}
    (h : Obeys step Legal (init devs) es) : Agree (run step (init devs) es) :=
  Inv.agree (h.run_inv (fun _ _ => step_inv) (init_inv devs))

/-- Two channels on interface 7; both ask for one address, the second one gets it after the first
has given it up, and the first one is unregistered. -/
def sampleRun : List Event :=
  [.register ⟨7, 1, [], [], []⟩ (some 100), .register ⟨7, 2, [], [], []⟩ (some 200),
    .authorize ⟨7, 1, 0x0a000001⟩, .authorize ⟨7, 2, 0x0a000001⟩,
    .unauthorize ⟨7, 1, 0x0a000001⟩, .authorize ⟨7, 2, 0x0a000001⟩,
    .unregister ⟨7, 1, [], [], []⟩]

theorem channel_tables_agree_sample :
    (run step (init [(7, true, true)]) sampleRun).kmem = [200] ∧
      Agree (run step (init [(7, true, true)]) sampleRun) :=
  ⟨by decide, channel_tables_agree (by decide)⟩

end Kernel
end DaemonGroup
