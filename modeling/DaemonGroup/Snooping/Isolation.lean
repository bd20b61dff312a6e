import DaemonGroup.Snooping.Bindings

/-!
# DaemonGroup.Snooping.Isolation

What the message of one client does to the bindings of the others.

* `Isolated` — the bindings of the other clients are as they were.
* `Op.Takes` — the message is one of the two that bind a client to the address it names itself, and another
  client has that address.
* `isolated_iff` — in every run, the first unless the second.
-/

namespace DaemonGroup
namespace Snooping

open Lib Buckets

/-- The hardware address of the client that has sent the message. -/
def Op.client : Op → Option Mac
  | discover _ _ dhcp | request _ _ dhcp | release _ _ dhcp _ | inform _ _ dhcp _ => some dhcp.chaddr
  | arp _ _ packet _ => some packet.smac
  | _ => none

namespace Tbl

/-- The bindings of all clients but one are what they were, and are where they were. -/
def Isolated (M : Mac) (T T' : Tbl UInt32) : Prop :=
  ∀ q j, Mem T.mac q → T.item q = some j → j.chaddr ≠ M → SameAt q T T'

/-- A client that is not bound takes the address of the user from another one. -/
def TakesAddr (ans : Answers) (node : Listener) (T : Tbl UInt32) (user : User UInt32) (ok : Item UInt32 → Prop) : Prop :=
  u32ipCheck user.ip_addr = true ∧ (∃ q, Holder T user q) ∧ ¬ Barred ans node T user ∧
    ∃ p i, Mem T.mac p ∧ T.item p = some i ∧ i.chaddr = user.chaddr ∧ i.bind_type = .DYNAMIC ∧ i.state = .REQUEST ∧ ok i

end Tbl

/-- The message takes the address that it names from another client. -/
def Op.Takes (T : Tbl UInt32) (op : Op × Answers) : Prop :=
  match op.1 with
  | inform vlanid ifindex dhcp node =>
    ∃ user, getItemFromPkt vlanid ifindex true dhcp = some user ∧ T.TakesAddr op.2 node user fun _ => True
  | arp vlanid ifindex packet node =>
    T.TakesAddr op.2 node (userOfArp vlanid ifindex packet) fun i => i.ip_addr = packet.sip
  | _ => False

namespace Tbl

section
variable {T T' : Tbl UInt32} {p q : Nat} {i : Item UInt32} {M : Mac} {ans : Answers} {node : Listener}
  {user : User UInt32}

theorem Isolated.refl : Isolated M T T := fun _ _ _ _ _ => .refl

theorem Without.isolated (h : Without p T T') (hi : T.item p = some i) (hM : i.chaddr = M) : Isolated M T T' := by
  intro q j _ hj hne
  refine h.sameAt ?_
  rintro rfl
  rw [hi] at hj
  obtain rfl := Option.some.inj hj
  exact hne hM

/-- A message of a client that is not known is passed over. -/
theorem known_cases {f : Nat → Option (Tbl UInt32)} (h : KeptBut none T) (chaddr : Mac) :
    ((∀ p i, Mem T.mac p → T.item p = some i → i.chaddr ≠ chaddr) ∧
      (do match ← T.itemFind chaddr with | none => some T | some p => f p) = some T) ∨
    ∃ p i, Mem T.mac p ∧ T.item p = some i ∧ i.chaddr = chaddr ∧
      (do match ← T.itemFind chaddr with | none => some T | some p => f p) = f p := by
  obtain ⟨r, hr, hsome, hnone⟩ := itemFind_spec h chaddr
  cases r with
  | none => exact .inl ⟨hnone rfl, by simp [hr]⟩
  | some p =>
    obtain ⟨hp, i, hi, hc⟩ := hsome p rfl
    exact .inr ⟨p, i, hp, hi, hc, by simp [hr]⟩

/-- The item of a client is one. -/
theorem KeptBut.unique {j : Item UInt32} (h : KeptBut none T) (hp : Mem T.mac p) (hi : T.item p = some i)
    (hq : Mem T.mac q) (hj : T.item q = some j) (hc : i.chaddr = j.chaddr) : p = q ∧ i = j := by
  obtain rfl := h.macInj p q i j hp hq hi hj hc
  rw [hi] at hj
  exact ⟨rfl, Option.some.inj hj⟩

theorem getItemFromPkt_chaddr {vlanid : UInt16} {ifindex : UInt32} {inform : Bool} {dhcp : DhcpMessage}
    (h : getItemFromPkt vlanid ifindex inform dhcp = some user) : user.chaddr = dhcp.chaddr := by
  simp only [getItemFromPkt] at h
  split at h
  · obtain ⟨lease, -, rfl⟩ := Option.map_eq_some_iff.mp h
    rfl
  · split at h <;> · obtain rfl := Option.some.inj h; rfl

/-- The refresh of a client leaves the others alone unless one of them has the address. -/
theorem isolated_refresh_iff (h : KeptBut none T) (hp : Mem T.mac p) (hi : T.item p = some i)
    (hc : i.chaddr = user.chaddr) (hnew : i.state = .REQUEST) : ∃ r, T.refreshBind ans user p node = some r ∧
    (Isolated user.chaddr T r.1 ↔ ¬ (u32ipCheck user.ip_addr = true ∧ (∃ q, Holder T user q) ∧ ¬ Barred ans node T user)) := by
  have hspecial : ¬ i.special := by
    rintro ⟨-, hb⟩
    rw [hnew] at hb
    cases hb
  obtain ⟨hrefused, hr⟩ | ⟨hgo, T', hr, hrefreshed⟩ := @refreshBind_cases _ _ _ ans node _ h hp hi hc
  · refine ⟨_, hr, iff_of_true .refl ?_⟩
    rintro ⟨hcheck, -, hbarred⟩
    obtain hbad | hbad | hbad | hbad := hrefused
    · rw [hcheck] at hbad
      cases hbad
    · exact hspecial hbad.2.1
    · exact hspecial hbad.2.1
    · exact hbarred hbad
  · refine ⟨_, hr, ?_⟩
    have hcheck : u32ipCheck user.ip_addr = true := by
      by_contra hcheck
      exact hgo (.inl (Bool.eq_false_iff.mpr hcheck))
    have hbarred : ¬ Barred ans node T user := fun hb => hgo (.inr (.inr (.inr hb)))
    constructor
    · rintro hsame ⟨-, ⟨q, hq⟩, -⟩
      obtain ⟨hmem, j, hj, -, hne⟩ := id hq
      have hmac := h.ipMac q hmem
      exact hrefreshed.gone q hq ((hsame q j hmac hj hne).mem_mac.mpr hmac)
    · intro hno q j hq hj hne
      refine hrefreshed.same q ?_ fun hholder => hno ⟨hcheck, ⟨q, hholder⟩, hbarred⟩
      rintro rfl
      rw [hi] at hj
      obtain rfl := Option.some.inj hj
      exact hne hc

/-- Whether the known client takes the address. -/
theorem takesAddr_iff {ok : Item UInt32 → Prop} (h : KeptBut none T) (hp : Mem T.mac p) (hi : T.item p = some i)
    (hc : i.chaddr = user.chaddr) : TakesAddr ans node T user ok ↔
      (u32ipCheck user.ip_addr = true ∧ (∃ q, Holder T user q) ∧ ¬ Barred ans node T user) ∧
        i.bind_type = .DYNAMIC ∧ i.state = .REQUEST ∧ ok i := by
  constructor
  · rintro ⟨hcheck, hholder, hbarred, q, j, hq, hj, hcj, hrest⟩
    obtain ⟨rfl, rfl⟩ := h.unique hp hi hq hj (hc.trans hcj.symm)
    exact ⟨⟨hcheck, hholder, hbarred⟩, hrest⟩
  · rintro ⟨⟨hcheck, hholder, hbarred⟩, hrest⟩
    exact ⟨hcheck, hholder, hbarred, p, i, hp, hi, hc, hrest⟩

/-- The two messages that bind a client to an address of its own choice, where `stop` passes over them. -/
theorem isolated_bind_iff {ok stop : Item UInt32 → Prop} [DecidablePred stop] (h : KeptBut none T)
    (hstop : ∀ i, stop i ↔ ¬ (i.bind_type = .DYNAMIC ∧ i.state = .REQUEST ∧ ok i)) :
    ∃ T', (do match ← T.itemFind user.chaddr with
      | none => some T
      | some p => do
        let i ← T.item p
        if stop i then some T else do
          let r ← T.refreshBind ans { user with state := .BOUND } p node
          some r.1) = some T' ∧ (Isolated user.chaddr T T' ↔ ¬ TakesAddr ans node T user ok) := by
  obtain ⟨hnone, hT⟩ | ⟨p, i, hp, hi, hc, hf⟩ := @known_cases T (fun p => do
    let i ← T.item p
    if stop i then some T else do
      let r ← T.refreshBind ans { user with state := .BOUND } p node
      some r.1) h user.chaddr
  · refine ⟨T, hT, iff_of_true .refl ?_⟩
    rintro ⟨-, -, -, q, j, hq, hj, hcj, -⟩
    exact hnone q j hq hj hcj
  · rw [hf, takesAddr_iff h hp hi hc]
    by_cases hs : stop i
    · exact ⟨T, by simp [hi, hs], iff_of_true .refl fun htakes => (hstop i).mp hs htakes.2⟩
    · have hok := not_not.mp (mt (hstop i).mpr hs)
      obtain ⟨r, hr, hiff⟩ := @isolated_refresh_iff T p i ans node { user with state := .BOUND } h hp hi hc hok.2.1
      refine ⟨r.1, by simp [hi, hs, hr], hiff.trans (not_congr (and_iff_left hok).symm)⟩

theorem isolated_request {vlanid : UInt16} {ifindex : UInt32} {dhcp : DhcpMessage} (h : KeptBut none T) :
    ∃ T', T.requestProcess ans vlanid ifindex dhcp = some T' ∧ Isolated dhcp.chaddr T T' := by
  rw [requestProcess]
  cases getItemFromPkt vlanid ifindex false dhcp with
  | none => exact ⟨T, rfl, .refl⟩
  | some user =>
    obtain ⟨r, hr, -⟩ := itemFind_spec h user.chaddr
    cases r with
    | some p => exact ⟨T, by simp [hr], .refl⟩
    | none =>
      exact ⟨(T.itemInsert { user with state := .REQUEST } ans.uptime ans.time ans.malloc).1, by simp [hr],
        fun q j _ hj _ => sameAt_itemInsert hj⟩

theorem isolated_release {vlanid : UInt16} {ifindex : UInt32} {dhcp : DhcpMessage} (h : KeptBut none T) :
    ∃ T', T.releaseProcess ans vlanid ifindex dhcp node = some T' ∧ Isolated dhcp.chaddr T T' := by
  rw [releaseProcess]
  cases hu : getItemFromPkt vlanid ifindex false dhcp with
  | none => exact ⟨T, rfl, .refl⟩
  | some user =>
    obtain ⟨-, hT⟩ | ⟨p, i, hp, hi, hc, hf⟩ := known_cases h user.chaddr
    · exact ⟨T, hT, .refl⟩
    · by_cases hstop : i.bind_type = .STATIC ∨ identityItem ans.beyond i user = false
      · exact ⟨T, hf.trans (by simp [hi, hstop]), .refl⟩
      by_cases hname : node.add_router = true ∧ i.special ∧ ans.ifname p = false
      · exact ⟨T, hf.trans (by simp [hi, hstop, hname]), .refl⟩
      obtain ⟨T₁, h₁, hw⟩ := itemDelete_spec h hp (ans.db_delete p)
      exact ⟨T₁, hf.trans (by simp [hi, hstop, hname, h₁]), hw.isolated hi (hc.trans (getItemFromPkt_chaddr hu))⟩

theorem isolated_inform {vlanid : UInt16} {ifindex : UInt32} {dhcp : DhcpMessage} (h : KeptBut none T) :
    ∃ T', T.informProcess ans vlanid ifindex dhcp node = some T' ∧ (Isolated dhcp.chaddr T T' ↔
      ¬ ∃ user, getItemFromPkt vlanid ifindex true dhcp = some user ∧ TakesAddr ans node T user fun _ => True) := by
  rw [informProcess]
  cases hu : getItemFromPkt vlanid ifindex true dhcp with
  | none => exact ⟨T, rfl, iff_of_true .refl (by simp)⟩
  | some user =>
    have hstop : ∀ i : Item UInt32, (i.bind_type = .STATIC ∨ i.state = .BOUND) ↔
        ¬ (i.bind_type = .DYNAMIC ∧ i.state = .REQUEST ∧ True) := by
      intro i
      cases i.bind_type <;> cases i.state <;> decide
    obtain ⟨T', hT', hiff⟩ := @isolated_bind_iff T ans node user _ _ _ h hstop
    rw [getItemFromPkt_chaddr hu] at hiff
    refine ⟨T', hT', hiff.trans (not_congr ⟨fun htakes => ⟨user, rfl, htakes⟩, ?_⟩)⟩
    rintro ⟨user', hu', htakes⟩
    rwa [Option.some.inj hu']

theorem isolated_arp {vlanid : UInt16} {ifindex : UInt32} {packet : ArpPacket} (h : KeptBut none T) :
    ∃ T', T.gratuitousArpProcess ans vlanid ifindex packet node = some T' ∧ (Isolated packet.smac T T' ↔
      ¬ TakesAddr ans node T (userOfArp vlanid ifindex packet) fun i => i.ip_addr = packet.sip) := by
  rw [gratuitousArpProcess]
  by_cases hcheck : u32ipCheck (userOfArp vlanid ifindex packet).ip_addr = true
  · simp only [hcheck, not_true_eq_false, if_false]
    have hstop : ∀ i : Item UInt32, (i.bind_type = .STATIC ∨ i.state = .BOUND ∨
        i.ip_addr ≠ (userOfArp vlanid ifindex packet).ip_addr) ↔
        ¬ (i.bind_type = .DYNAMIC ∧ i.state = .REQUEST ∧ i.ip_addr = packet.sip) := by
      intro i
      have hip : (userOfArp vlanid ifindex packet).ip_addr = packet.sip := rfl
      cases i.bind_type <;> cases i.state <;> simp [hip]
    exact @isolated_bind_iff T ans node (userOfArp vlanid ifindex packet) _ _ _ h hstop
  · exact ⟨T, by simp [hcheck], iff_of_true .refl fun htakes => hcheck htakes.1⟩

end

end Tbl

namespace Op

/-- One message of a client. -/
theorem isolated_step {T : Tbl UInt32} {op : Op × Answers} {M : Mac} (h : T.KeptBut none)
    (hM : op.1.client = some M) : ∃ T', step T op = some T' ∧ (T.Isolated M T' ↔ ¬ Takes T op) := by
  obtain ⟨op, ans⟩ := op
  cases op with
  | discover vlanid ifindex dhcp =>
    obtain ⟨T', hT', hsame⟩ := @Tbl.isolated_request T ans vlanid ifindex dhcp h
    exact ⟨T', hT', iff_of_true (Option.some.inj hM ▸ hsame) id⟩
  | request vlanid ifindex dhcp =>
    obtain ⟨T', hT', hsame⟩ := @Tbl.isolated_request T ans vlanid ifindex dhcp h
    exact ⟨T', hT', iff_of_true (Option.some.inj hM ▸ hsame) id⟩
  | release vlanid ifindex dhcp node =>
    obtain ⟨T', hT', hsame⟩ := @Tbl.isolated_release T ans node vlanid ifindex dhcp h
    exact ⟨T', hT', iff_of_true (Option.some.inj hM ▸ hsame) id⟩
  | inform vlanid ifindex dhcp node =>
    obtain rfl := Option.some.inj hM
    exact Tbl.isolated_inform h
  | arp vlanid ifindex packet node =>
    obtain rfl := Option.some.inj hM
    exact Tbl.isolated_arp h
  | ack vlanid ifindex dhcp node => cases hM
  | nak vlanid ifindex dhcp => cases hM
  | aging => cases hM

/-- After every run, the message of a client leaves the bindings of the others alone unless it takes the address of
one of them. -/
theorem isolated_iff (ops : List (Op × Answers)) (op : Op × Answers) (M : Mac) (hM : op.1.client = some M) :
    ∃ T T', tryRun step Tbl.empty ops = some T ∧ step T op = some T' ∧ (T.Isolated M T' ↔ ¬ Takes T op) := by
  obtain ⟨T, hT, hk⟩ := run_spec ops
  obtain ⟨T', hT', hiff⟩ := isolated_step hk hM
  exact ⟨T, T', hT, hT', hiff⟩

/-- Two clients are known, and the first is bound to 10.0.0.1. -/
def twoClients : List (Op × Answers) :=
  [(.discover 5 7 (messageOf 1 NPD_DHCP_BOOTREQUEST 0 0 none), Tbl.answersAt 10),
    (.ack 5 7 (messageOf 1 NPD_DHCP_BOOTREPLY 0 0x0a000001 (some 3600)) ⟨false, false⟩, Tbl.answersAt 11),
    (.discover 5 7 (messageOf 2 NPD_DHCP_BOOTREQUEST 0 0 none), { Tbl.answersAt 12 with malloc := some 2 })]

theorem isolated_iff_release : ∃ T T', tryRun step Tbl.empty twoClients = some T ∧
    step T (.release 5 7 (messageOf 2 NPD_DHCP_BOOTREQUEST 0 0 none) ⟨false, false⟩, Tbl.answersAt 13) = some T' ∧
    T.Isolated #v[0, 0, 0, 0, 0, 2] T' := by
  obtain ⟨T, T', hT, hT', hiff⟩ := isolated_iff twoClients
    (.release 5 7 (messageOf 2 NPD_DHCP_BOOTREQUEST 0 0 none) ⟨false, false⟩, Tbl.answersAt 13) #v[0, 0, 0, 0, 0, 2] rfl
  exact ⟨T, T', hT, hT', hiff.mpr id⟩

/-- The second client says that it has the address of the first. -/
theorem inform_takes_address : ∃ T T', tryRun step Tbl.empty twoClients = some T ∧
    step T (.inform 5 7 (messageOf 2 NPD_DHCP_BOOTREQUEST 0x0a000001 0 none) ⟨false, false⟩, Tbl.answersAt 13) = some T' ∧
    ¬ T.Isolated #v[0, 0, 0, 0, 0, 2] T' := by
  obtain ⟨T, hT, hk⟩ := run_spec twoClients
  obtain ⟨T', hT', -⟩ := step_spec T
    (.inform 5 7 (messageOf 2 NPD_DHCP_BOOTREQUEST 0x0a000001 0 none) ⟨false, false⟩, Tbl.answersAt 13) hk
  refine ⟨T, T', hT, hT', fun hsame => ?_⟩
  have hbefore : (tryRun step Tbl.empty twoClients).map (fun T => (T.item 1).map (·.chaddr)) =
      some (some #v[0, 0, 0, 0, 0, 1]) := by decide +kernel
  have hchain : (tryRun step Tbl.empty twoClients).map (fun T => T.mac (tblHash #v[0, 0, 0, 0, 0, 1])) =
      some [1] := by decide +kernel
  have hafter : ((tryRun step Tbl.empty twoClients).bind fun T => (step T (.inform 5 7
      (messageOf 2 NPD_DHCP_BOOTREQUEST 0x0a000001 0 none) ⟨false, false⟩, Tbl.answersAt 13)).map
        fun T => T.mac (tblHash #v[0, 0, 0, 0, 0, 1])) = some [] := by decide +kernel
  rw [hT] at hbefore hchain hafter
  rw [Option.bind_some, hT'] at hafter
  obtain ⟨j, hj, hc⟩ := Option.map_eq_some_iff.mp (Option.some.inj hbefore)
  have hmac : T.mac (tblHash #v[0, 0, 0, 0, 0, 1]) = [1] := Option.some.inj hchain
  have hmac' : T'.mac (tblHash #v[0, 0, 0, 0, 0, 1]) = [] := Option.some.inj hafter
  have hstay := (hsame 1 j ⟨_, by rw [hmac]; decide⟩ hj (by rw [hc]; decide)).2.1 (tblHash #v[0, 0, 0, 0, 0, 1])
  rw [hmac, hmac'] at hstay
  exact absurd (hstay.mpr (by decide)) (by decide)

end Op

end Snooping
end DaemonGroup
