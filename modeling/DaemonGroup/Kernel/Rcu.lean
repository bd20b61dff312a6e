import DaemonGroup.Kernel.Packets

/-!
# DaemonGroup.Kernel.Rcu

The RCU read lock and the buffers on the packet paths of the kernel module.

* `Sound` — a path leaves the lock as it found it, never gives back what it has not taken, and frees or
  hands on every buffer once.
* `Stray` — the packet of no channel; `pppoe_do_rcv` gives the lock of its caller back for it.
* `Sendable` — what a control frame meets on the ways out of `pppoe_sock_sendmsg` that give the lock
  back.
* `rcu_balanced` — when the two paths are sound; `startXmit_sound` — the transmit path always is.
-/

namespace DaemonGroup
namespace Kernel

open Lib Acts

/-- How a call changes the depth of the read lock. -/
def Call.rcu : Call → Int
  | .rcu_read_lock => 1
  | .rcu_read_unlock => -1
  | _ => 0

/-- The buffer that a call brings. -/
def Call.gets : Call → Option Skb
  | .skb_clone => some .clone
  | .sock_wmalloc => some .wmem
  | _ => none

/-- The buffer that a call frees or hands on. -/
def Call.gives : Call → Option Skb
  | .kfree_skb b | .netif_rx b _ | .dev_queue_xmit b _ | .sock_queue_rcv_skb b _ => some b
  | _ => none

/-- A path that was called with the buffers `held`. -/
structure Sound (held : List Skb) (l : List Call) : Prop where
  rcu : Balanced Call.rcu l
  skb : Settled Call.gets Call.gives held l

/-- The packet gets as far as the search for its channel, and there is none with its session
identifier and its addresses. -/
structure Stray (K : Kern) (s : State) (p : PppoeStruct) (skb : SkBuff) : Prop where
  share : skb.shared = true → K.skb_clone skb = true
  pull : pskbMayPull K skb PPPOE_HDR = true
  len : skb.short 4 ≤ (skbPull skb PPPOE_HDR).len
  trim : (pskbTrimRcsum K (skbPull skb PPPOE_HDR) (skb.short 4)).isSome
  channel : channelMatch s p (UInt16.ofNat (skb.short 2)) (addrsMatch skb) = none

/-- The frame is refused before the lock is taken or for want of a channel, or it is sent. -/
def Sendable (K : Kern) (s : State) (sk : PppoeSock) (m : Msghdr) (total_len : Nat) : Prop :=
  ∀ pppoe, sk.dead = false → sk.pppoe = some pppoe → SOCKADDR_PPPOE ≤ m.msg_namelen →
    total_len ≤ PPPOE_MTU + PPP_HEADER_LEN → ∃ dev, pppoe.base_dev.filter (·.up) = some dev ∧
      (channelMatch s pppoe.tables m.sid (·.mac = m.mac) = none ∨
        K.sock_wmalloc (total_len + PPPOE_HDR + dev.hard_header_len + 32) = true ∧
          0 ≤ K.memcpy_fromiovec m total_len)

section
variable {K : Kern} {s : State} {p : PppoeStruct} {pppoe : Pppoe} {channel : PppoeChannel}
  {skb skb' : SkBuff} {b : Skb} {c : Call} {l : List Call} {n : Nat}

/-- A call that gives a buffer away does nothing else. -/
theorem rcu_of_gives (h : c.gives = some b) : c.rcu = 0 := by
  cases c <;> first | rfl | cases h

theorem gets_of_gives (h : c.gives = some b) : c.gets = none := by
  cases c <;> first | rfl | cases h

/-- The program gives `b` away and does nothing else. -/
def GivesUp {α : Type} (r : Acts Call α) (b : Skb) : Prop := ∃ c, r.log = [c] ∧ c.gives = some b

theorem rxDrop_gives : GivesUp (rxDrop b) b := ⟨.kfree_skb b, rfl, rfl⟩

theorem controlFrame_gives {sk : Option Sock} : GivesUp (pppoeReceiveControlFrame K sk b skb) b := by
  unfold pppoeReceiveControlFrame
  split
  · exact rxDrop_gives
  · split
    · exact rxDrop_gives
    · split
      · exact ⟨_, rfl, rfl⟩
      · exact rxDrop_gives

theorem echoReply_gives : GivesUp (pppoeEchoReply b skb channel) b := by
  unfold pppoeEchoReply
  dsimp only
  split
  · exact rxDrop_gives
  · exact ⟨_, rfl, rfl⟩

/-- Whatever the frame is, it is freed or handed on once. -/
theorem receiveFrame_gives : GivesUp (pppoeReceiveFrame K pppoe channel b skb) b := by
  unfold pppoeReceiveFrame
  dsimp only
  split
  · exact rxDrop_gives
  split
  · split
    · exact rxDrop_gives
    split
    · exact echoReply_gives
    · exact controlFrame_gives
  split
  · split
    · exact rxDrop_gives
    split
    · exact rxDrop_gives
    · exact ⟨_, rfl, rfl⟩
  · exact rxDrop_gives

/-- After the share check one buffer is in hand, unless there is no memory for a clone. -/
theorem shareCheck_some (h : (skbShareCheck K skb).val = some b) :
    (skb.shared = true → K.skb_clone skb = true) ∧
      (∀ c ∈ (skbShareCheck K skb).log, c.rcu = 0) ∧
      Holding Call.gets Call.gives [.arg] (skbShareCheck K skb).log b := by
  unfold skbShareCheck at h ⊢
  split at h
  · rename_i hs
    split at h
    · rename_i hc
      cases h
      rw [if_pos hs, if_pos hc]
      refine ⟨fun _ => hc, by simp [Call.rcu], fun x => ?_⟩
      cases x <;> decide
    · cases h
  · rename_i hs
    cases h
    rw [if_neg hs]
    refine ⟨fun h => absurd h hs, by simp, fun x => ?_⟩
    cases x <;> decide

theorem shareCheck_none (h : (skbShareCheck K skb).val = none) :
    (skb.shared = true ∧ K.skb_clone skb = false) ∧
      (skbShareCheck K skb).log = [.kfree_skb .arg] := by
  unfold skbShareCheck at h ⊢
  split at h
  · rename_i hs
    split at h
    · cases h
    · rename_i hc
      rw [if_pos hs, if_neg hc]
      exact ⟨⟨hs, by simpa using hc⟩, rfl⟩
  · cases h

/-- The link header stays in place. -/
theorem addrsMatch_trim (h : pskbTrimRcsum K skb n = some skb') :
    addrsMatch skb' = addrsMatch skb := by
  unfold pskbTrimRcsum at h
  split at h
  · cases h
    rfl
  · split at h
    · cases h
      rfl
    · cases h

/-- What `pppoe_do_rcv` does once the buffer is its own. -/
theorem doRcv_rest (hv : (skbShareCheck K skb).val = some b) :
    ∃ r, (pppoeDoRcv K s pppoe skb).log = (skbShareCheck K skb).log ++ r ∧
      ((¬ Stray K s pppoe.tables skb ∧ ∃ c, r = [c] ∧ c.gives = some b) ∨
        Stray K s pppoe.tables skb ∧ r = [.rcu_read_unlock, .kfree_skb b]) := by
  have hshare := (shareCheck_some hv).1
  unfold pppoeDoRcv
  simp only [bind_log, hv]
  refine ⟨_, rfl, ?_⟩
  split
  · rename_i hpull
    exact .inl ⟨fun h => by simp [h.pull] at hpull, rxDrop_gives⟩
  rename_i hpull
  split
  · rename_i hlen
    exact .inl ⟨fun h => absurd h.len (Nat.not_le.mpr hlen), rxDrop_gives⟩
  rename_i hlen
  split
  · rename_i htrim
    exact .inl ⟨fun h => by simpa [htrim] using h.trim, rxDrop_gives⟩
  rename_i f htrim
  have haddrs : addrsMatch f = addrsMatch skb := (addrsMatch_trim htrim :)
  rw [haddrs]
  split
  · rename_i hch
    refine .inr ⟨⟨hshare, by simpa using hpull, Nat.not_lt.mp hlen, by simp [htrim], hch⟩, rfl⟩
  · rename_i hch
    exact .inl ⟨fun h => by simp [h.channel] at hch, receiveFrame_gives⟩

theorem doRcv_none (hv : (skbShareCheck K skb).val = none) :
    (pppoeDoRcv K s pppoe skb).log = [.kfree_skb .arg] := by
  rw [pppoeDoRcv, bind_log, hv, (shareCheck_none hv).2]
  rfl

/-- A call that gives `b` away, made with `b` in hand. -/
theorem gives_settled (h : Holding Call.gets Call.gives [.arg] l b) (hc : c.gives = some b) :
    Settled Call.gets Call.gives [.arg] (l ++ [c]) := by
  refine h.settled (fun x => ?_) (fun x => ?_)
  · simp [gets_of_gives hc]
  · simp [hc]

/-- Whatever the packet is, `pppoe_do_rcv` frees it or hands it on once. -/
theorem doRcv_settled : Settled Call.gets Call.gives [.arg] (pppoeDoRcv K s pppoe skb).log := by
  cases hv : (skbShareCheck K skb).val with
  | none =>
    rw [doRcv_none hv]
    intro x
    cases x <;> decide
  | some b =>
    obtain ⟨-, -, hhold⟩ := shareCheck_some hv
    obtain ⟨r, hlog, ⟨-, c, rfl, hc⟩ | ⟨-, rfl⟩⟩ := @doRcv_rest _ s pppoe _ _ hv
    · rw [hlog]
      exact gives_settled hhold hc
    · rw [hlog]
      refine hhold.settled (fun x => ?_) (fun x => ?_)
      · simp [Call.gets]
      · simp [Call.gives]

/-- A packet that is not astray leaves the lock alone. -/
theorem doRcv_quiet (h : ¬ Stray K s pppoe.tables skb) :
    ∀ c ∈ (pppoeDoRcv K s pppoe skb).log, c.rcu = 0 := by
  cases hv : (skbShareCheck K skb).val with
  | none =>
    rw [doRcv_none hv]
    simp [Call.rcu]
  | some b =>
    obtain ⟨-, hquiet, -⟩ := shareCheck_some hv
    obtain ⟨r, hlog, ⟨-, c, rfl, hc⟩ | ⟨hs, -⟩⟩ := @doRcv_rest _ s pppoe _ _ hv
    · rw [hlog]
      intro c' hc'
      rcases List.mem_append.mp hc' with hc' | hc'
      · exact hquiet c' hc'
      · rw [List.mem_singleton.mp hc']
        exact rcu_of_gives hc
    · exact absurd hs h

/-- A stray packet gives the lock back. -/
theorem doRcv_stray (h : Stray K s pppoe.tables skb) :
    depth Call.rcu (pppoeDoRcv K s pppoe skb).log = -1 := by
  cases hv : (skbShareCheck K skb).val with
  | none =>
    obtain ⟨⟨hs, hc⟩, -⟩ := shareCheck_none hv
    rw [h.share hs] at hc
    cases hc
  | some b =>
    obtain ⟨-, hquiet, -⟩ := shareCheck_some hv
    obtain ⟨r, hlog, ⟨hs, -⟩ | ⟨-, rfl⟩⟩ := @doRcv_rest _ s pppoe _ _ hv
    · exact absurd h hs
    · rw [hlog, depth_append, depth_quiet hquiet]
      rfl

/-- The lock taken and given back around calls that settle the buffers. -/
theorem locked_settled {held : List Skb} (h : Settled Call.gets Call.gives held l) :
    Settled Call.gets Call.gives held (.rcu_read_lock :: (l ++ [.rcu_read_unlock])) := by
  intro x
  simpa [Call.gets, Call.gives] using h x

theorem locked_sound {held : List Skb} (hs : Settled Call.gets Call.gives held l)
    (hq : ∀ c ∈ l, c.rcu = 0) : Sound held (.rcu_read_lock :: (l ++ [.rcu_read_unlock])) :=
  ⟨(balanced_quiet hq).wrap rfl rfl, locked_settled hs⟩

theorem GivesUp.settled {α : Type} {r : Acts Call α} (h : GivesUp r .arg) :
    Settled Call.gets Call.gives [.arg] r.log ∧ ∀ c ∈ r.log, c.rcu = 0 := by
  obtain ⟨c, hlog, hc⟩ := h
  rw [hlog]
  refine ⟨gives_settled (l := []) (fun x => ?_) hc, by simpa using rcu_of_gives hc⟩
  cases x <;> decide

/-- The filter is sound unless the interface is up and the packet astray. -/
theorem packetFilter_sound {dev : Option PppoeDevice} :
    Sound [.arg] (pppoePacketFilter K s dev skb).log ↔
      ¬ ∃ d, dev.filter (·.up) = some d ∧ Stray K s d.priv.tables skb := by
  cases hd : dev.filter (·.up) with
  | none =>
    have hlog : (pppoePacketFilter K s dev skb).log =
        [.rcu_read_lock, .rcu_read_unlock, .kfree_skb .arg] := by
      rw [pppoePacketFilter, bind_log, hd]
      rfl
    rw [hlog]
    refine iff_of_true ⟨by decide, fun x => ?_⟩ (by simp)
    cases x <;> decide
  | some d =>
    have hlog : (pppoePacketFilter K s dev skb).log =
        .rcu_read_lock :: ((pppoeDoRcv K s d.priv skb).log ++ [.rcu_read_unlock]) := by
      rw [pppoePacketFilter, bind_log, hd]
      simp
    rw [hlog]
    by_cases hs : Stray K s d.priv.tables skb
    · refine iff_of_false (fun h => ?_) fun hn => hn ⟨d, rfl, hs⟩
      have hclosed := h.rcu.closed
      rw [depth_cons, depth_append, doRcv_stray hs] at hclosed
      simp [Call.rcu] at hclosed
    · refine iff_of_true (locked_sound doRcv_settled (doRcv_quiet hs)) ?_
      rintro ⟨d', hd', hs'⟩
      cases hd'
      exact hs hs'

/-- What is left of `Sendable` once the first checks have passed. -/
theorem sendable_iff {sk : PppoeSock} {m : Msghdr} (hd : sk.dead = false)
    (hp : sk.pppoe = some pppoe) (hm : SOCKADDR_PPPOE ≤ m.msg_namelen)
    (hn : n ≤ PPPOE_MTU + PPP_HEADER_LEN) :
    Sendable K s sk m n ↔ ∃ dev, pppoe.base_dev.filter (·.up) = some dev ∧
      (channelMatch s pppoe.tables m.sid (·.mac = m.mac) = none ∨
        K.sock_wmalloc (n + PPPOE_HDR + dev.hard_header_len + 32) = true ∧
          0 ≤ K.memcpy_fromiovec m n) := by
  constructor
  · exact fun h => h pppoe hd hp hm hn
  · intro h q _ hq _ _
    rw [hp] at hq
    cases hq
    exact h

/-- Nothing but the lock taken. -/
theorem not_sound_of_depth {held : List Skb} (h : depth Call.rcu l ≠ 0) : ¬ Sound held l :=
  fun hs => h hs.rcu.closed

theorem sound_nil : Sound [] [] := ⟨balanced_quiet (by simp), fun x => by simp⟩

/-- The send path is sound when the frame is refused before the lock is taken or for want of a
channel, or when it is sent. -/
theorem sockSendmsg_sound {sk : PppoeSock} {m : Msghdr} :
    Sound [] (pppoeSockSendmsg K s sk m n).log ↔ Sendable K s sk m n := by
  unfold pppoeSockSendmsg
  split
  · rename_i hd
    exact iff_of_true sound_nil fun q hq => by rw [hd] at hq; cases hq
  · rename_i hp _
    exact iff_of_true sound_nil fun q _ hq => by rw [hp] at hq; cases hq
  rename_i pppoe hd hp
  split
  · rename_i hm
    exact iff_of_true sound_nil fun q _ _ hq => absurd hm (Nat.not_lt.mpr hq)
  rename_i hm
  split
  · rename_i hn
    exact iff_of_true sound_nil fun q _ _ _ hq => absurd hn (Nat.not_lt.mpr hq)
  rename_i hn
  rw [sendable_iff hd hp (Nat.not_lt.mp hm) (Nat.not_lt.mp hn)]
  simp only [bind_log, act_log]
  cases hb : pppoe.base_dev.filter (·.up) with
  | none =>
    refine iff_of_false (not_sound_of_depth (by simp [Call.rcu])) ?_
    rintro ⟨dev, hdev, -⟩
    cases hdev
  | some dev =>
    cases hc : channelMatch s pppoe.tables m.sid (·.mac = m.mac) with
    | none =>
      have hsound : Sound [] [.rcu_read_lock, .rcu_read_unlock] :=
        @locked_sound [] [] (fun x => by simp) (by simp)
      exact iff_of_true hsound ⟨dev, rfl, .inl rfl⟩
    | some channel =>
      dsimp only
      split
      · rename_i hmem
        refine iff_of_false (not_sound_of_depth (by simp [Call.rcu])) ?_
        rintro ⟨dev', hdev, hno | ⟨hyes, -⟩⟩
        · cases hno
        · cases hdev
          simp [hyes] at hmem
      rename_i hmem
      simp only [bind_log, act_log]
      split
      · rename_i herr
        refine iff_of_false (not_sound_of_depth (by simp [Call.rcu])) ?_
        rintro ⟨dev', hdev, hno | ⟨-, hok⟩⟩
        · cases hno
        · omega
      · rename_i herr
        refine iff_of_true ?_ ⟨dev, rfl, .inr ⟨by simpa using hmem, by omega⟩⟩
        refine @locked_sound [.sock_wmalloc, .dev_queue_xmit .wmem _] [] (fun x => ?_) (by simp [Call.rcu])
        cases x <;> simp [Call.gets, Call.gives]

theorem txDrop_gives : GivesUp txDrop .arg := ⟨.kfree_skb .arg, rfl, rfl⟩

theorem sendFrame_gives : GivesUp (pppoeSendFrame K pppoe channel skb) .arg := by
  unfold pppoeSendFrame
  split
  · exact txDrop_gives
  · exact txDrop_gives
  · split
    · exact txDrop_gives
    split
    · exact txDrop_gives
    · exact ⟨_, rfl, rfl⟩

/-- The transmit path gives the lock back on every way out. -/
theorem startXmit_sound : Sound [.arg] (pppoeStartXmit K s pppoe skb).log := by
  unfold pppoeStartXmit
  simp only [bind_log, act_log]
  split
  · refine ⟨by simp [txDrop]; decide, fun x => ?_⟩
    cases x <;> simp [txDrop, Call.gets, Call.gives]
  · obtain ⟨hs, hq⟩ := GivesUp.settled (@sendFrame_gives K pppoe (s.channel _) skb)
    simpa using locked_sound hs hq

end

/-- On the two paths the lock is given back as often as it is taken and every buffer is freed or handed
on once, except for a stray packet on an interface that is up, and for a frame that is neither
refused in time nor sent. -/
theorem rcu_balanced (K : Kern) (s : State) :
    (∀ (dev : Option PppoeDevice) (skb : SkBuff),
      Sound [.arg] (pppoePacketFilter K s dev skb).log ↔
        ¬ ∃ d, dev.filter (·.up) = some d ∧ Stray K s d.priv.tables skb) ∧
    ∀ (sk : PppoeSock) (m : Msghdr) (total_len : Nat),
      Sound [] (pppoeSockSendmsg K s sk m total_len).log ↔ Sendable K s sk m total_len :=
  ⟨fun _ _ => packetFilter_sound, fun _ _ _ => sockSendmsg_sound⟩

/-- A kernel that has what it is asked for. -/
def sampleKern : Kern where
  skb_clone _ := true
  pull_tail _ _ := true
  skb_trim _ _ := true
  sock_queue_rcv_skb _ _ := true
  netif_rx _ := NET_RX_SUCCESS
  sock_wmalloc _ := true
  memcpy_fromiovec _ _ := 0
  skb_cow_head _ _ := true

/-- An interface with no channel, on a device that is up or not. -/
def samplePppoe (up : Bool) : Pppoe where
  tables := { sid_head := fun _ => [], ip_head := fun _ => [] }
  sk := none
  base_dev := some { up := up, hard_header_len := 14 }

/-- An echo request of session 5. -/
def samplePacket : SkBuff where
  head := []
  data := [0x11, 0x00, 0x00, 0x05, 0x00, 0x0a, 0xc0, 0x21, 0x09, 0x01, 0x00, 0x08, 1, 2, 3, 4]
  h_dest := [0, 1, 2, 3, 4, 5]
  h_source := [0, 6, 7, 8, 9, 10]
  protocol := ETH_P_PPP_SES
  shared := false

/-- The packet of no channel gives the lock back twice; with the device below down, the lock is never
given back to the sender. -/
theorem rcu_unbalanced :
    ¬ Sound [.arg] (pppoePacketFilter sampleKern (init [])
        (some { up := true, priv := samplePppoe true }) samplePacket).log ∧
      ¬ Sound [] (pppoeSockSendmsg sampleKern (init [])
        { dead := false, pppoe := some (samplePppoe false) }
        { msg_namelen := SOCKADDR_PPPOE, sid := 5, mac := [0, 6, 7, 8, 9, 10], msg_iov := [0xc0, 0x21] }
        2).log :=
  ⟨fun h => absurd h.rcu.closed (by decide), fun h => absurd h.rcu.closed (by decide)⟩

end Kernel
end DaemonGroup
