import DaemonGroup.Pppoe.DiscoverTags
import DaemonGroup.Pppoe.System

/-!
# DaemonGroup.Pppoe.Admission

From the frames of a client to its session: a PADR that passes its checks is the event `padr` of the
instance.

* `padoTags_room`, `padsTags_room` — the answers fit into the buffer, whatever the client sends.
* `padrEvent_cookie` — the instance is told of a client only if that has answered with its cookie.
-/

namespace DaemonGroup
namespace Pppoe

open Lib Reads Tags

/-- The tags of a PADS; `none` is the label `room_err`. -/
def padsTags (d : Discover) (recv_tag : RecvTags) : Option Bytes := do
  let tags ← if d.sname = [] then some [] else pbufPut [] (tagOctets TAG_SERVICE_NAME d.sname)
  putHostUniq tags (recv_tag .DIS_HOSTUNIQ)

/-- What a PADR is to the instance: nothing, or the event of a client that gets a session. -/
def padrEvent (d : Discover) (w : World) (pack : PppoePacket) : Option Event :=
  match processPADR d ((w.byMac pack.h_source).map fun a => (w.mem a).state) pack with
  | .refused .. => none
  | .admitted recv_tag => some (.padr pack.h_source d.hwaddr (padsTags d recv_tag).isSome)

/-- The names are `char` arrays of `PPPOE_NAMELEN`. -/
structure Discover.Named (d : Discover) : Prop where
  sname : d.sname.length < 64
  hname : d.hname.length < 64

section
variable {d : Discover} {mac : Mac} {m : Nat → UInt8} {len : Nat} {ts : List Tag} {t : Tag}
  {rest tags bs : Bytes}

theorem length_tagOctets {type : Nat} : (tagOctets type bs).length = bs.length + 4 := by
  simp [tagOctets, putShort]

theorem pbufPut_room (h : tags.length + bs.length + PPPOE_PACKET ≤ DISCOVER_BUF_SIZE) :
    pbufPut tags bs = some (tags ++ bs) := by
  rw [pbufPut, if_neg]
  omega

/-- There is room for the Host-Uniq of the client. -/
theorem putHostUniq_room (h : Split 0 (Bytes.read m 0 len) ts rest) (hlen : len ≤ PPPOE_MTU - 6)
    (htags : tags.length + PPPOE_MTU + PPPOE_PACKET ≤ DISCOVER_BUF_SIZE) :
    (putHostUniq tags (recvTags ts .DIS_HOSTUNIQ)).isSome := by
  unfold putHostUniq
  split
  · cases hl : lastTag RecvTag.DIS_HOSTUNIQ.type ts with
    | none =>
      rename_i htype
      rw [recvTags_none hl] at htype
      exact absurd rfl htype
    | some t =>
      have hsize := h.size_le (lastTag_mem hl)
      rw [Bytes.length_read] at hsize
      rw [slot_octets (recvTags_last hl), pbufPut_room]
      · rfl
      · rw [Tag.length_octets]
        omega
  · rfl

/-- The answer to a PADI always fits. -/
theorem padoTags_room (hd : d.Named) (h : Split 0 (Bytes.read m 0 len) ts rest)
    (hlen : len ≤ PPPOE_MTU - 6) : (padoTags d mac (recvTags ts)).isSome := by
  have hs := hd.sname
  have hn := hd.hname
  have hc : (genCookie d mac).length = 20 := length_genCookie
  have hbuf : DISCOVER_BUF_SIZE = 4096 := rfl
  have hpack : PPPOE_PACKET = 20 := rfl
  have hmtu : PPPOE_MTU = 1492 := rfl
  have h₁ : pbufPut [] (tagOctets TAG_AC_NAME d.hname) = some (tagOctets TAG_AC_NAME d.hname) :=
    pbufPut_room (by rw [length_tagOctets, List.length_nil]; omega)
  have h₂ := @pbufPut_room (tagOctets TAG_AC_NAME d.hname) (tagOctets TAG_SERVICE_NAME d.sname)
    (by rw [length_tagOctets, length_tagOctets]; omega)
  have h₃ := @pbufPut_room (tagOctets TAG_AC_NAME d.hname ++ tagOctets TAG_SERVICE_NAME d.sname)
    (tagOctets TAG_AC_COOKIE (genCookie d mac))
    (by rw [List.length_append, length_tagOctets, length_tagOctets, length_tagOctets]; omega)
  simp only [padoTags, h₁, h₂, h₃, Option.bind_eq_bind, Option.bind_some]
  refine putHostUniq_room h hlen ?_
  simp only [List.length_append, length_tagOctets]
  omega

theorem padsTags_room (hd : d.Named) (h : Split 0 (Bytes.read m 0 len) ts rest)
    (hlen : len ≤ PPPOE_MTU - 6) : (padsTags d (recvTags ts)).isSome := by
  have hs := hd.sname
  have hbuf : DISCOVER_BUF_SIZE = 4096 := rfl
  have hpack : PPPOE_PACKET = 20 := rfl
  have hmtu : PPPOE_MTU = 1492 := rfl
  unfold padsTags
  split
  · exact putHostUniq_room h hlen (by decide)
  · have h₁ : pbufPut [] (tagOctets TAG_SERVICE_NAME d.sname) = some (tagOctets TAG_SERVICE_NAME d.sname) :=
      pbufPut_room (by rw [length_tagOctets, List.length_nil]; omega)
    rw [h₁]
    refine putHostUniq_room h hlen ?_
    rw [length_tagOctets]
    omega

end

/-- A client that gets a session has answered with the cookie that was made for it, and the answer to it
fits into the buffer. -/
theorem padrEvent_cookie {d : Discover} {w : World} {pack : PppoePacket} {x : Event} (hd : d.Named)
    (h : padrEvent d w pack = some x) :
    x = .padr pack.h_source d.hwaddr true ∧ ∃ ts rest,
      Split 0 (Bytes.read pack.data 0 pack.len) ts rest ∧
      (lastTag TAG_AC_COOKIE ts).map Tag.value = some (genCookie d pack.h_source) := by
  unfold padrEvent at h
  split at h
  · cases h
  rename_i recv_tag hadmit
  cases h
  obtain ⟨ts, hasks⟩ := asksWith_of_admitted hadmit
  obtain ⟨rest, hs, -⟩ := hasks.tags
  rw [processPADR_cookie hasks] at hadmit
  split at hadmit
  · rename_i hcookie
    have htags : recv_tag = recvTags ts := by
      unfold padrService at hadmit
      split at hadmit
      · cases hadmit
      split at hadmit
      · cases hadmit
      · cases hadmit
        rfl
    rw [htags, padsTags_room hd hs hasks.len]
    exact ⟨rfl, ts, rest, hs, hcookie⟩
  · cases hadmit

end Pppoe
end DaemonGroup
