import DaemonGroup.Stp.PortInfo

/-!
# DaemonGroup.Stp.Messages

What the information machine does with a message.

* `agreement_recorded_iff` — for which messages the recorded agreement is right.
* `older_iff` — for which messages the kept times are older than the received ones.
* `relays_length` — a message that is kept and sent on is not sent on for ever.
* `repeated_message` — the message that a port holds already is kept without a new election.
-/

namespace DaemonGroup
namespace Stp

open Lib

/-! ## Agreements -/

/-- The port role in the flags of a message. -/
def XstPort.flagsRole (p : XstPort) : UInt8 := (p.msgFlags &&& PORT_ROLE_MASK) >>> PORT_ROLE_OFFS

/-- The message of a root port is not better than what the port has, that of a designated port is
not worse. -/
def XstPort.Matches (p : XstPort) : Prop :=
  p.flagsRole = RSTP_PORT_ROLE_ROOT ∧ p.portPrio.rank ≤ p.msgPrio.rank ∨
    p.flagsRole = RSTP_PORT_ROLE_DESGN ∧ p.msgPrio.rank ≤ p.portPrio.rank

/-- The message of a port is an agreement with what the port has. -/
def XstPort.Agrees (p : XstPort) : Prop :=
  p.operPointToPointMac ∧ AGREEMENT_BIT &&& p.msgFlags ≠ 0 ∧ p.Matches

/-- The flags say that the message of a port with a role agrees, but the vectors do not match. -/
def XstPort.Mistaken (p : XstPort) : Prop :=
  p.operPointToPointMac ∧ AGREEMENT_BIT &&& p.msgFlags ≠ 0 ∧ p.flagsRole ≠ RSTP_PORT_ROLE_UNKN ∧
    ¬ p.Matches

/-- The message and the port have the same root and region root at the same external and internal
costs. -/
def XstPort.SameRegionRoot (c : XstPort) : Prop :=
  c.msgPrio.root_bridge = c.portPrio.root_bridge ∧
    c.msgPrio.root_path_cost = c.portPrio.root_path_cost ∧
    c.msgPrio.region_root_bridge = c.portPrio.region_root_bridge ∧
    c.msgPrio.region_root_path_cost = c.portPrio.region_root_path_cost

/-- The port role of a message is a root's or a designated port's. -/
theorem role_bits (b : BitVec 8) :
    ((RSTP_PORT_ROLE_ROOT <<< PORT_ROLE_OFFS) &&& UInt8.ofBitVec b ≠ 0 →
      (UInt8.ofBitVec b &&& PORT_ROLE_MASK) >>> PORT_ROLE_OFFS ≠ RSTP_PORT_ROLE_UNKN) ∧
    ((RSTP_PORT_ROLE_DESGN <<< PORT_ROLE_OFFS) &&& UInt8.ofBitVec b ≠ 0 ↔
      (UInt8.ofBitVec b &&& PORT_ROLE_MASK) >>> PORT_ROLE_OFFS ≠ RSTP_PORT_ROLE_UNKN) := by
  revert b
  decide +kernel

/-- The truth value that the comparison is turned into is not negative, so that the mask of the
designated role decides, and every role but none has a bit of it. -/
theorem agreement_eq {p : XstPort} : agreement p = true ↔
    p.operPointToPointMac ∧ AGREEMENT_BIT &&& p.msgFlags ≠ 0 ∧
      p.flagsRole ≠ RSTP_PORT_ROLE_UNKN := by
  obtain ⟨hroot, hdesgn⟩ := role_bits p.msgFlags.toBitVec
  unfold agreement XstPort.flagsRole
  split
  · next h =>
    have hbridcmp : (0 : Int) ≤ if stpVectorCompare p.msgPrio p.portPrio ≤ 0 then 1 else 0 := by
      split <;> decide
    rw [decide_eq_true_eq]
    constructor
    · rintro (⟨hr, -⟩ | ⟨hd, -⟩)
      · exact ⟨h.2, h.1, hroot hr⟩
      · exact ⟨h.2, h.1, hdesgn.mp hd⟩
    · rintro ⟨-, -, hrole⟩
      exact Or.inr ⟨hdesgn.mpr hrole, hbridcmp⟩
  · next h =>
    constructor
    · intro hf
      exact absurd hf Bool.false_ne_true
    · rintro ⟨hp2p, hbit, -⟩
      exact absurd ⟨hbit, hp2p⟩ h

theorem XstPort.Matches.role {p : XstPort} (h : p.Matches) : p.flagsRole ≠ RSTP_PORT_ROLE_UNKN := by
  rcases h with ⟨h, -⟩ | ⟨h, -⟩
  · rw [h]
    decide
  · rw [h]
    decide

theorem agreement_right {p : XstPort} : (agreement p = true ↔ p.Agrees) ↔ ¬ p.Mistaken := by
  rw [agreement_eq, XstPort.Agrees, XstPort.Mistaken]
  constructor
  · rintro h ⟨hp2p, hbit, hrole, hm⟩
    exact hm (h.mp ⟨hp2p, hbit, hrole⟩).2.2
  · intro h
    constructor
    · rintro ⟨hp2p, hbit, hrole⟩
      exact ⟨hp2p, hbit, by_contra fun hm => h ⟨hp2p, hbit, hrole, hm⟩⟩
    · rintro ⟨hp2p, hbit, hm⟩
      exact ⟨hp2p, hbit, hm.role⟩

instance (p : XstPort) : Decidable p.Matches := inferInstanceAs (Decidable (_ ∧ _ ∨ _ ∧ _))
instance (p : XstPort) : Decidable p.Agrees := inferInstanceAs (Decidable (_ ∧ _ ∧ _))

/-- A result of the comparison that does not tell a difference up to the internal cost. -/
def Beyond (c : Int) : Prop := c = 0 ∨ c < -4 ∨ 4 < c

theorem beyond_level {c k r : Int} (hk : 0 < k) (hk4 : k ≤ 4) :
    Beyond (level c k r) ↔ c = 0 ∧ Beyond r := by
  unfold Beyond level
  split
  · omega
  · split <;> omega

theorem beyond_level_of_gt {c k r : Int} (hk : 4 < k) (h : Beyond r) : Beyond (level c k r) := by
  unfold Beyond level at *
  split
  · omega
  · split <;> omega

theorem beyond_compare {v w : PrioVector} : Beyond (stpVectorCompare v w) ↔
    v.root_bridge = w.root_bridge ∧ v.root_path_cost = w.root_path_cost ∧
      v.region_root_bridge = w.region_root_bridge ∧
      v.region_root_path_cost = w.region_root_path_cost := by
  have hlow : Beyond (level (stpVectorCompareBridgeId v.design_bridge w.design_bridge) 5 <|
      level (portDiff v.design_port w.design_port) 6 <|
      level (portDiff v.bridge_port w.bridge_port) 7 0) := by
    refine beyond_level_of_gt (by decide) (beyond_level_of_gt (by decide) ?_)
    exact beyond_level_of_gt (by decide) (Or.inl rfl)
  have hcost : ∀ {a b : UInt32}, costDiff a b = 0 ↔ a = b := by
    intro a b
    rw [costDiff_zero, UInt32.toNat_inj]
  unfold stpVectorCompare
  rw [beyond_level (by decide) (by decide), beyond_level (by decide) (by decide),
    beyond_level (by decide) (by decide), beyond_level (by decide) (by decide),
    compareBridgeId_zero, compareBridgeId_zero, hcost, hcost]
  simp [hlow]

/-- An MST port has a port of the CIST whose vectors agree up to the internal cost. -/
def Info.CistAgrees (i : Info) : Prop := ∃ c, i.cist = some c ∧ c.SameRegionRoot

/-- The agreement is recorded as the message has it unless the flags of the message alone say so; an
MST port without a port of the CIST keeps what it has. -/
theorem agreement_recorded_iff (i : Info) :
    (((stpPortinfoRecordAgreementcist i).port.agreed = true ↔ i.port.Agrees) ↔
      ¬ i.port.Mistaken) ∧
    (((stpPortinfoRecordAgreementmsti i).port.agreed = true ↔ i.CistAgrees ∧ i.port.Agrees) ↔
      (i.CistAgrees → ¬ i.port.Mistaken) ∧ (i.cist = none → i.port.agreed = false)) := by
  refine ⟨agreement_right, ?_⟩
  have hright := @agreement_right i.port
  cases hcist : i.cist with
  | none => simp [stpPortinfoRecordAgreementmsti, Info.CistAgrees, hcist]
  | some c =>
    have hsame : i.CistAgrees ↔ c.SameRegionRoot := by simp [Info.CistAgrees, hcist]
    have hbeyond : Beyond (stpVectorCompare c.msgPrio c.portPrio) ↔ c.SameRegionRoot :=
      beyond_compare
    unfold Beyond at hbeyond
    simp only [stpPortinfoRecordAgreementmsti, hcist, hsame, decide_eq_true_eq, hbeyond,
      reduceCtorEq, false_implies, and_true]
    by_cases hs : c.SameRegionRoot
    · simpa only [hs, true_and, true_implies] using hright
    · simp only [hs, false_and, false_implies]

/-- A port of the CIST that has just been created. -/
def freshXstPort : XstPort :=
  { vlan_id := 0, port_id := 0, port_index := 0, portEnabled := true, admin_non_stp := false
    operPointToPointMac := true, operPCost := 0, sendRSTP := true, infoIs := .Disabled
    infoInternal := false, rcvdInternal := false, rcvdMsg := false, rcvdInfo := .OtherMsg
    rcvdInfoWhile := 0, msgBpduType := 0, msgPortRole := 0, msgFlags := 0, msgPrio := zeroPrio
    msgTimes := zeroTimes, portPrio := zeroPrio, portTimes := zeroTimes, designPrio := zeroPrio
    designTimes := zeroTimes, role := .DisabledPort, selectedRole := .DisabledPort
    selected := false, reselect := false, updtInfo := false, newInfo := false, newInfoCist := false
    newInfoMsti := false, proposing := false, proposed := false, agree := false, agreed := false
    sync := false, synced := false, forward := false, learn := false, changedMaster := false
    mstiMastered := false, rx_cfg_bpdu_cnt := 0, rx_rstp_bpdu_cnt := 0, rx_tcn_bpdu_cnt := 0 }

/-- The message of a root port with a better root than the port has, and the bit of an agreement. -/
def betterRoot : Info :=
  { port := { freshXstPort with
      msgBpduType := BPDU_RSTP
      msgFlags := AGREEMENT_BIT ||| RSTP_PORT_ROLE_ROOT <<< PORT_ROLE_OFFS
      msgPrio := { zeroPrio with root_bridge := ⟨0x1000, zeroMac⟩ }
      portPrio := { zeroPrio with root_bridge := ⟨0x8000, zeroMac⟩ } }
    nextMst := []
    cist := none
    BrTimes := zeroTimes }

theorem better_root_agreed : (stpPortinfoRecordAgreementcist betterRoot).port.agreed = true ∧
    ¬ betterRoot.port.Agrees := by
  decide +kernel

/-! ## Ages -/

/-- The message comes from the region of the bridge. -/
def XstPort.Inside (p : XstPort) : Prop := p.vlan_id = STP_CIST_ID → p.rcvdInternal

instance (p : XstPort) : Decidable p.Inside := inferInstanceAs (Decidable (_ → _))

/-- The times of a message behind this bridge, if the age is measured by `maxAge`. -/
def Info.behind (i : Info) (maxAge : UInt16) : TimeValues :=
  if i.port.Inside then
    { i.port.msgTimes with RemainingHops := i.port.msgTimes.RemainingHops - 1 }
  else
    { i.port.msgTimes with
      MessageAge := UInt16.ofNat (effAge maxAge i.port.msgTimes.MessageAge)
      RemainingHops := i.BrTimes.RemainingHops }

/-- The times that a port has once it has kept its message. -/
def Info.storedTimes (i : Info) : TimeValues := i.behind i.port.msgTimes.MaxAge

/-- The hello time that a port goes by. -/
def Info.helloTime (i : Info) : Nat :=
  if i.port.vlan_id = STP_CIST_ID then i.port.msgTimes.HelloTime.toNat
  else
    match i.cist with
    | some cistport => cistport.portTimes.HelloTime.toNat
    | none => DEF_BR_HELLOT

/-- How long a port keeps its message. -/
def Info.storedWhile (i : Info) : Nat :=
  if i.port.vlan_id ≠ STP_CIST_ID then
    if i.storedTimes.RemainingHops ≤ (0 : UInt8) then 0 else 3 * i.helloTime
  else if i.port.rcvdInternal then
    if i.storedTimes.MessageAge > i.storedTimes.MaxAge ∨ i.storedTimes.RemainingHops ≤ 0 then 0
    else 3 * i.helloTime
  else
    let eff_age := effAge i.port.msgTimes.MaxAge i.port.msgTimes.MessageAge
    if eff_age ≤ i.port.msgTimes.MaxAge.toNat then
      min (i.port.msgTimes.MaxAge.toNat - eff_age) (3 * i.helloTime)
    else 0

/-- What the message of a port is. -/
def Info.kind (i : Info) : RcvdMsg := (stpPortinfoXstRcvinfo i).1

/-- The port keeps its message. -/
def Info.Keeps (i : Info) : Prop :=
  i.kind = .SuperiorDesignateMsg ∨ i.kind = .RepeatedDesignateMsg

@[simp] theorem behind_MaxAge {i : Info} {m : UInt16} :
    (i.behind m).MaxAge = i.port.msgTimes.MaxAge := by
  unfold Info.behind
  split <;> rfl

theorem timer_eq {i : Info} :
    stpPortinfoUpdtRecvmsgTimer i = i.behind i.port.portTimes.MaxAge := by
  unfold stpPortinfoUpdtRecvmsgTimer Info.behind XstPort.Inside
  by_cases hv : i.port.vlan_id = STP_CIST_ID
  · by_cases hr : i.port.rcvdInternal = false
    · simp only [hv, hr, true_implies, Bool.false_eq_true, if_true, if_false]
    · have hr' : i.port.rcvdInternal = true := Bool.eq_true_of_not_eq_false hr
      simp only [hv, hr', Bool.true_eq_false, true_implies, if_true, if_false]
  · simp only [hv, false_implies, if_true, if_false]

/-- The classification compares with the times that a port would keep, if the port has those. -/
theorem timer_eq_iff {i : Info} :
    stpPortinfoUpdtRecvmsgTimer i = i.port.portTimes ↔ i.port.portTimes = i.storedTimes := by
  rw [timer_eq, Info.storedTimes]
  constructor
  · intro h
    have hmax : i.port.portTimes.MaxAge = i.port.msgTimes.MaxAge := by rw [← h, behind_MaxAge]
    rw [← hmax, h]
  · intro h
    have hmax : i.port.portTimes.MaxAge = i.port.msgTimes.MaxAge := by rw [h, behind_MaxAge]
    rw [hmax, h]

theorem behind_inside {i : Info} {m : UInt16} (h : i.port.Inside) : i.behind m =
    { i.port.msgTimes with RemainingHops := i.port.msgTimes.RemainingHops - 1 } := if_pos h

theorem behind_outside {i : Info} {m : UInt16} (h : ¬ i.port.Inside) : i.behind m =
    { i.port.msgTimes with
      MessageAge := UInt16.ofNat (effAge m i.port.msgTimes.MessageAge)
      RemainingHops := i.BrTimes.RemainingHops } := if_neg h

/-- What the port keeps, if its times are the message's already or those that it would keep. -/
theorem updt_stored {i : Info}
    (h : i.port.portTimes = i.port.msgTimes ∨ i.port.portTimes = i.storedTimes) :
    (stpPortinfoUpdtRcvdInfoWhileXst i).port = { i.port with
      portTimes := i.storedTimes
      rcvdInfoWhile := i.storedWhile } := by
  by_cases hv : i.port.vlan_id = STP_CIST_ID
  · have hupd : stpPortinfoUpdtRcvdInfoWhileXst i = stpPortinfoUpdtRcvdInfoWhileCist i := if_pos hv
    by_cases hr : i.port.rcvdInternal = false
    · have hin : ¬ i.port.Inside := fun hin => Bool.false_ne_true (hr.symm.trans (hin hv))
      have hkeep : i.port.portTimes.MaxAge = i.port.msgTimes.MaxAge ∧
          i.port.portTimes.ForwardDelay = i.port.msgTimes.ForwardDelay ∧
          i.port.portTimes.HelloTime = i.port.msgTimes.HelloTime := by
        rcases h with h | h
        · simp [h]
        · simp [h, Info.storedTimes, behind_outside hin]
      simp [hupd, stpPortinfoUpdtRcvdInfoWhileCist, hr, hkeep, Info.storedTimes,
        behind_outside hin, Info.storedWhile, hv, Info.helloTime]
      split
      · split <;> omega
      · rfl
    · have hr' : i.port.rcvdInternal = true := Bool.eq_true_of_not_eq_false hr
      have hin : i.port.Inside := fun _ => hr'
      have hkeep : i.port.portTimes.MaxAge = i.port.msgTimes.MaxAge ∧
          i.port.portTimes.ForwardDelay = i.port.msgTimes.ForwardDelay ∧
          i.port.portTimes.HelloTime = i.port.msgTimes.HelloTime := by
        rcases h with h | h
        · simp [h]
        · simp [h, Info.storedTimes, behind_inside hin]
      simp [hupd, stpPortinfoUpdtRcvdInfoWhileCist, hr', hkeep, Info.storedTimes,
        behind_inside hin, Info.storedWhile, hv, Info.helloTime]
  · have hupd : stpPortinfoUpdtRcvdInfoWhileXst i = stpPortinfoUpdtRcvdInfoWhileMsti i := if_neg hv
    have hin : i.port.Inside := fun h => absurd h hv
    have hkeep : i.port.portTimes.MessageAge = i.port.msgTimes.MessageAge ∧
        i.port.portTimes.MaxAge = i.port.msgTimes.MaxAge ∧
        i.port.portTimes.ForwardDelay = i.port.msgTimes.ForwardDelay ∧
        i.port.portTimes.HelloTime = i.port.msgTimes.HelloTime := by
      rcases h with h | h
      · simp [h]
      · simp [h, Info.storedTimes, behind_inside hin]
    cases hc : i.cist with
    | none =>
      simp [hupd, stpPortinfoUpdtRcvdInfoWhileMsti, hkeep, hc, Info.storedTimes,
        behind_inside hin, Info.storedWhile, hv, Info.helloTime]
    | some c =>
      simp [hupd, stpPortinfoUpdtRcvdInfoWhileMsti, hkeep, hc, Info.storedTimes,
        behind_inside hin, Info.storedWhile, hv, Info.helloTime]

/-! ## The states that keep a message -/

section
variable {i j : Info}

theorem recordProposal_port : (stpPortinfoRecordProposalxst i).port =
    { i.port with proposed := (stpPortinfoRecordProposalxst i).port.proposed } := by
  unfold stpPortinfoRecordProposalxst
  split <;> rfl

theorem recordAgreement_port : (stpPortinfoRecordAgreementxst i).port =
    { i.port with agreed := (stpPortinfoRecordAgreementxst i).port.agreed } := by
  unfold stpPortinfoRecordAgreementxst
  split
  · rfl
  · unfold stpPortinfoRecordAgreementmsti
    split <;> rfl

theorem recordMastered_port : (stpPortinfoRecordMasteredxst i).port =
    { i.port with mstiMastered := (stpPortinfoRecordMasteredxst i).port.mstiMastered } := by
  unfold stpPortinfoRecordMasteredxst
  split
  · unfold stpPortinfoRecordMasteredcist
    split <;> rfl
  · rfl

/-- What is kept besides the port and the ports on its chain. -/
theorem recordProposal_rest : (stpPortinfoRecordProposalxst i).cist = i.cist ∧
    (stpPortinfoRecordProposalxst i).BrTimes = i.BrTimes := by
  unfold stpPortinfoRecordProposalxst
  split <;> exact ⟨rfl, rfl⟩

theorem recordAgreement_rest : (stpPortinfoRecordAgreementxst i).cist = i.cist ∧
    (stpPortinfoRecordAgreementxst i).BrTimes = i.BrTimes := by
  unfold stpPortinfoRecordAgreementxst
  split
  · exact ⟨rfl, rfl⟩
  · unfold stpPortinfoRecordAgreementmsti
    split <;> exact ⟨rfl, rfl⟩

theorem recordMastered_rest : (stpPortinfoRecordMasteredxst i).cist = i.cist ∧
    (stpPortinfoRecordMasteredxst i).BrTimes = i.BrTimes := by
  unfold stpPortinfoRecordMasteredxst
  split
  · unfold stpPortinfoRecordMasteredcist
    split <;> exact ⟨rfl, rfl⟩
  · exact ⟨rfl, rfl⟩

/-- Two ports have the same message and the same times to measure it by. -/
structure Info.Like (j i : Info) : Prop where
  vlan_id : j.port.vlan_id = i.port.vlan_id
  rcvdInternal : j.port.rcvdInternal = i.port.rcvdInternal
  msgTimes : j.port.msgTimes = i.port.msgTimes
  BrTimes : j.BrTimes = i.BrTimes

theorem Info.Like.behind {m : UInt16} (h : j.Like i) : j.behind m = i.behind m := by
  have hin : j.port.Inside ↔ i.port.Inside := by
    simp only [XstPort.Inside, h.vlan_id, h.rcvdInternal]
  by_cases hi : i.port.Inside
  · rw [behind_inside hi, behind_inside (hin.mpr hi), h.msgTimes]
  · rw [behind_outside hi, behind_outside (fun hj => hi (hin.mp hj)), h.msgTimes, h.BrTimes]

theorem Info.Like.storedTimes (h : j.Like i) : j.storedTimes = i.storedTimes := by
  rw [Info.storedTimes, Info.storedTimes, h.behind, h.msgTimes]

theorem Info.Like.helloTime (h : j.Like i) (hc : j.cist = i.cist) : j.helloTime = i.helloTime := by
  simp only [Info.helloTime, h.vlan_id, h.msgTimes, hc]

theorem Info.Like.storedWhile (h : j.Like i) (hh : j.helloTime = i.helloTime) :
    j.storedWhile = i.storedWhile := by
  simp only [Info.storedWhile, h.vlan_id, h.rcvdInternal, h.msgTimes, h.storedTimes, hh]

/-- RECEIVE classifies the message and records its bit of a master port. -/
theorem receive_port : (mstpInfoEnterState .RECEIVE i).port = { i.port with
    msgPortRole := (stpPortinfoXstRcvinfo i).2.port.msgPortRole
    rcvdInfo := i.kind
    mstiMastered := (mstpInfoEnterState .RECEIVE i).port.mstiMastered } := by
  have hrcv : (stpPortinfoXstRcvinfo i).2.port = { i.port with
      msgPortRole := (stpPortinfoXstRcvinfo i).2.port.msgPortRole } := by
    unfold stpPortinfoXstRcvinfo stpPortinfoCistRcvinfo stpPortinfoMstiRcvinfo rcvinfo
    split <;> split <;> rfl
  rw [mstpInfoEnterState, recordMastered_port]
  dsimp only
  rw [hrcv]
  rfl

theorem receive_rest : (mstpInfoEnterState .RECEIVE i).cist = i.cist ∧
    (mstpInfoEnterState .RECEIVE i).BrTimes = i.BrTimes := by
  have hrcv : (stpPortinfoXstRcvinfo i).2.cist = i.cist ∧
      (stpPortinfoXstRcvinfo i).2.BrTimes = i.BrTimes := by
    unfold stpPortinfoXstRcvinfo stpPortinfoCistRcvinfo stpPortinfoMstiRcvinfo rcvinfo
    split <;> split <;> exact ⟨rfl, rfl⟩
  rw [mstpInfoEnterState, recordMastered_rest.1, recordMastered_rest.2]
  exact hrcv

theorem receive_like : (mstpInfoEnterState .RECEIVE i).Like i := by
  have h := @receive_port i
  exact ⟨by rw [h], by rw [h], by rw [h], receive_rest.2⟩

/-- The port before SUPERIOR_DESIGNATED measures the message. -/
def superiorBefore (i : Info) : Info :=
  let i := stpPortinfoRecordProposalxst { i with
    port := { i.port with infoInternal := i.port.rcvdInternal, proposing := false } }
  let i := stpPortinfoRecordAgreementxst { i with
    port := { i.port with agree := i.port.agree ∧ stpPortinfoXstinfoCheck i } }
  { i with
    port := { i.port with
      synced := i.port.synced ∧ i.port.agreed
      portPrio := i.port.msgPrio
      portTimes := i.port.msgTimes } }

theorem superiorBefore_port : (superiorBefore i).port = { i.port with
    infoInternal := i.port.rcvdInternal
    proposing := false
    proposed := (superiorBefore i).port.proposed
    agree := (superiorBefore i).port.agree
    agreed := (superiorBefore i).port.agreed
    synced := (superiorBefore i).port.synced
    portPrio := i.port.msgPrio
    portTimes := i.port.msgTimes } := by
  unfold superiorBefore
  dsimp only
  rw [recordAgreement_port]
  dsimp only
  rw [recordProposal_port]

theorem superiorBefore_rest :
    (superiorBefore i).cist = i.cist ∧ (superiorBefore i).BrTimes = i.BrTimes := by
  unfold superiorBefore
  exact ⟨recordAgreement_rest.1.trans recordProposal_rest.1,
    recordAgreement_rest.2.trans recordProposal_rest.2⟩

theorem superior_eq : mstpInfoEnterState .SUPERIOR_DESIGNATED i =
    { stpPortinfoUpdtRcvdInfoWhileXst (superiorBefore i) with
      port := { (stpPortinfoUpdtRcvdInfoWhileXst (superiorBefore i)).port with
        infoIs := .Received
        reselect := true
        selected := false
        rcvdMsg := false } } := by
  rw [mstpInfoEnterState, superiorBefore]

/-- A message that is taken for a better one is stored. -/
theorem superior_port : (mstpInfoEnterState .SUPERIOR_DESIGNATED i).port =
    { (superiorBefore i).port with
      portTimes := i.storedTimes
      rcvdInfoWhile := i.storedWhile
      infoIs := .Received
      reselect := true
      selected := false
      rcvdMsg := false } := by
  have hport := @superiorBefore_port i
  have hlike : (superiorBefore i).Like i :=
    ⟨by rw [hport], by rw [hport], by rw [hport], superiorBefore_rest.2⟩
  have hstored := @updt_stored (superiorBefore i) (Or.inl (by rw [hport]))
  rw [hlike.storedTimes, hlike.storedWhile (hlike.helloTime superiorBefore_rest.1)] at hstored
  rw [superior_eq, hstored]

/-- The port before REPEATED_DESIGNATED measures the message. -/
def repeatedBefore (i : Info) : Info :=
  stpPortinfoRecordAgreementxst (stpPortinfoRecordProposalxst { i with
    port := { i.port with infoInternal := i.port.rcvdInternal } })

theorem repeatedBefore_port : (repeatedBefore i).port = { i.port with
    infoInternal := i.port.rcvdInternal
    proposed := (repeatedBefore i).port.proposed
    agreed := (repeatedBefore i).port.agreed } := by
  unfold repeatedBefore
  rw [recordAgreement_port]
  dsimp only
  rw [recordProposal_port]

theorem repeatedBefore_rest :
    (repeatedBefore i).cist = i.cist ∧ (repeatedBefore i).BrTimes = i.BrTimes := by
  unfold repeatedBefore
  exact ⟨recordAgreement_rest.1.trans recordProposal_rest.1,
    recordAgreement_rest.2.trans recordProposal_rest.2⟩

theorem repeated_eq : mstpInfoEnterState .REPEATED_DESIGNATED i =
    { stpPortinfoUpdtRcvdInfoWhileXst (repeatedBefore i) with
      port := { (stpPortinfoUpdtRcvdInfoWhileXst (repeatedBefore i)).port with
        rcvdMsg := false } } := by
  rw [mstpInfoEnterState, repeatedBefore]

/-- A message that the port holds already is measured again. -/
theorem repeated_port (h : i.port.portTimes = i.storedTimes) :
    (mstpInfoEnterState .REPEATED_DESIGNATED i).port =
      { (repeatedBefore i).port with
        portTimes := i.storedTimes
        rcvdInfoWhile := i.storedWhile
        rcvdMsg := false } := by
  have hport := @repeatedBefore_port i
  have hlike : (repeatedBefore i).Like i :=
    ⟨by rw [hport], by rw [hport], by rw [hport], repeatedBefore_rest.2⟩
  have htimes : (repeatedBefore i).port.portTimes = (repeatedBefore i).storedTimes := by
    rw [hlike.storedTimes, ← h, hport]
  have hstored := updt_stored (Or.inr htimes)
  rw [hlike.storedTimes, hlike.storedWhile (hlike.helloTime repeatedBefore_rest.1)] at hstored
  rw [repeated_eq, hstored]

/-! ## The message that is taken -/

/-- The port knows the role that its message tells. -/
def Info.told (i : Info) : Info :=
  { i with port := { i.port with msgPortRole := rcvdPortRole i.port } }

theorem kind_eq : i.kind =
    if i.port.msgBpduType = BPDU_TOPO_CHANGE_TYPE then .OtherMsg
    else classify (i.port.vlan_id = STP_CIST_ID) i.told := by
  unfold Info.kind stpPortinfoXstRcvinfo stpPortinfoCistRcvinfo stpPortinfoMstiRcvinfo rcvinfo
  by_cases hv : i.port.vlan_id = STP_CIST_ID
  · rw [if_pos hv, decide_eq_true hv]
    split <;> rfl
  · rw [if_neg hv, decide_eq_false hv]
    split <;> rfl

/-- The message is one of a designated port. -/
def Info.Designated (i : Info) : Prop :=
  i.port.msgBpduType ≠ BPDU_TOPO_CHANGE_TYPE ∧
    i.told.port.isDesignated (i.port.vlan_id = STP_CIST_ID) = true

theorem designated_of_superior (h : i.kind = .SuperiorDesignateMsg) : i.Designated := by
  rw [kind_eq] at h
  split at h
  · cases h
  · next htcn =>
    unfold classify at h
    dsimp only at h
    split at h
    · next hsup => exact ⟨htcn, hsup.1⟩
    · split at h
      · cases h
      · split at h <;> cases h

theorem told_storedTimes : i.told.storedTimes = i.storedTimes :=
  Info.Like.storedTimes ⟨rfl, rfl, rfl, rfl⟩

/-- A message is taken for a repeated one exactly if it is what the port holds. -/
theorem kind_repeated_iff : i.kind = .RepeatedDesignateMsg ↔ i.Designated ∧
    i.port.portPrio = i.port.msgPrio ∧ i.port.portTimes = i.storedTimes := by
  have hprio : stpVectorCompare i.told.port.msgPrio i.told.port.portPrio = 0 ↔
      i.port.portPrio = i.port.msgPrio := by
    rw [compare_zero]
    exact eq_comm
  have htimes : stpTimesCompare (stpPortinfoUpdtRecvmsgTimer i.told) i.told.port.portTimes = 0 ↔
      i.port.portTimes = i.storedTimes := by
    rw [timesCompare_zero, timer_eq_iff, told_storedTimes]
    rfl
  rw [kind_eq, Info.Designated]
  split
  · next htcn => simp [htcn]
  · next htcn =>
    unfold classify
    constructor
    · intro h
      dsimp only at h
      split at h
      · cases h
      · split at h
        · next hrep => exact ⟨⟨htcn, hrep.1⟩, hprio.mp hrep.2.1, htimes.mp hrep.2.2⟩
        · split at h <;> cases h
    · rintro ⟨⟨-, hdes⟩, hp, ht⟩
      have hp' := hprio.mpr hp
      have ht' := htimes.mpr ht
      rw [if_neg, if_pos ⟨hdes, hp', ht'⟩]
      rintro ⟨-, hlt | ⟨-, -, hne⟩⟩
      · omega
      · exact hne ht'

theorem takeMessage_eq (k : RcvdMsg) (h : i.kind = k) :
    takeMessage i = mstpInfoEnterState (rcvdState k) (mstpInfoEnterState .RECEIVE i) := by
  have hk : (mstpInfoEnterState .RECEIVE i).port.rcvdInfo = k := by rw [receive_port, h]
  rw [takeMessage, hk]

theorem takeMessage_superior (h : i.kind = .SuperiorDesignateMsg) : (takeMessage i).port =
    { (superiorBefore (mstpInfoEnterState .RECEIVE i)).port with
      portTimes := i.storedTimes
      rcvdInfoWhile := i.storedWhile
      infoIs := .Received
      reselect := true
      selected := false
      rcvdMsg := false } := by
  have hlike := @receive_like i
  rw [takeMessage_eq _ h, rcvdState, superior_port, hlike.storedTimes,
    hlike.storedWhile (hlike.helloTime receive_rest.1)]

theorem takeMessage_repeated (h : i.kind = .RepeatedDesignateMsg) : (takeMessage i).port =
    { (repeatedBefore (mstpInfoEnterState .RECEIVE i)).port with
      portTimes := i.storedTimes
      rcvdInfoWhile := i.storedWhile
      rcvdMsg := false } := by
  have hlike := @receive_like i
  have hheld := (kind_repeated_iff.mp h).2.2
  have htimes : (mstpInfoEnterState .RECEIVE i).port.portTimes =
      (mstpInfoEnterState .RECEIVE i).storedTimes := by
    rw [hlike.storedTimes, ← hheld, receive_port]
  rw [takeMessage_eq _ h, rcvdState, repeated_port htimes, hlike.storedTimes,
    hlike.storedWhile (hlike.helloTime receive_rest.1)]

/-- A message is measured in the same way whether it is new or known. -/
theorem takeMessage_stored (h : i.Keeps) : (takeMessage i).port.portTimes = i.storedTimes ∧
    (takeMessage i).port.rcvdInfoWhile = i.storedWhile := by
  rcases h with h | h
  · rw [takeMessage_superior h]
    exact ⟨rfl, rfl⟩
  · rw [takeMessage_repeated h]
    exact ⟨rfl, rfl⟩

/-- The message age that is kept is greater than the received one, the hops that remain are fewer,
and the message is not kept if it has become too old. -/
structure Older (p kept : XstPort) : Prop where
  inside : p.Inside → kept.portTimes.RemainingHops < p.msgTimes.RemainingHops ∧
    (kept.rcvdInfoWhile ≠ 0 → 1 ≤ kept.portTimes.RemainingHops)
  outside : ¬ p.Inside → p.msgTimes.MessageAge < kept.portTimes.MessageAge ∧
    (kept.rcvdInfoWhile ≠ 0 → kept.portTimes.MessageAge ≤ kept.portTimes.MaxAge)

/-- A message from the region has hops left, the age of another one can be counted on. -/
def Info.Countable (i : Info) : Prop :=
  (i.port.Inside → i.port.msgTimes.RemainingHops ≠ 0) ∧
    (¬ i.port.Inside → effAge i.port.msgTimes.MaxAge i.port.msgTimes.MessageAge < 2 ^ 16)

theorem hops_lt_iff {h : UInt8} : h - 1 < h ↔ h ≠ 0 := by
  have hlt := h.toNat_lt
  rw [UInt8.lt_iff_toNat_lt, UInt8.toNat_sub, ne_eq, ← UInt8.toNat_inj]
  simp only [UInt8.reduceToNat, UInt8.toNat_zero]
  omega

theorem one_le_effAge_sub {m a : UInt16} : a.toNat + 1 ≤ effAge m a ∧ effAge m a ≤ a.toNat + 4096 := by
  have hm := m.toNat_lt
  unfold effAge
  dsimp only
  split <;> omega

/-- The greater age is not stored as a smaller one, unless it does not fit. -/
theorem age_lt_iff {m a : UInt16} : a < UInt16.ofNat (effAge m a) ↔ effAge m a < 2 ^ 16 := by
  have ha := a.toNat_lt
  have hinc := @one_le_effAge_sub m a
  rw [UInt16.lt_iff_toNat_lt, UInt16.toNat_ofNat']
  omega

/-- A message that is kept from the region has hops left. -/
theorem kept_inside (hin : i.port.Inside) (hw : i.storedWhile ≠ 0) :
    i.storedTimes.RemainingHops ≠ 0 := by
  intro h0
  unfold Info.storedWhile at hw
  split at hw
  · simp [h0] at hw
  · next hv =>
    have hr : i.port.rcvdInternal = true := hin (Classical.not_not.mp hv)
    simp [hr, h0] at hw

/-- A message that is kept from elsewhere has not become too old. -/
theorem kept_outside (hin : ¬ i.port.Inside) (hw : i.storedWhile ≠ 0) :
    effAge i.port.msgTimes.MaxAge i.port.msgTimes.MessageAge ≤ i.port.msgTimes.MaxAge.toNat := by
  obtain ⟨hv, hr⟩ := Classical.not_imp.mp hin
  by_contra hgt
  exact hw (by simp [Info.storedWhile, hv, hr, hgt])

/-- A port keeps its message as an older one exactly if the message is countable. -/
theorem older_iff : (i.Keeps → Older i.port (takeMessage i).port) ↔ (i.Keeps → i.Countable) := by
  refine forall_congr' fun hk => ?_
  obtain ⟨htimes, hwhile⟩ := takeMessage_stored hk
  constructor
  · intro h
    constructor
    · intro hin
      have hlt := (h.inside hin).1
      rw [htimes, Info.storedTimes, behind_inside hin] at hlt
      exact hops_lt_iff.mp hlt
    · intro hout
      have hlt := (h.outside hout).1
      rw [htimes, Info.storedTimes, behind_outside hout] at hlt
      exact age_lt_iff.mp hlt
  · intro h
    constructor
    · intro hin
      rw [htimes, hwhile]
      constructor
      · rw [Info.storedTimes, behind_inside hin]
        exact hops_lt_iff.mpr (h.1 hin)
      · intro hw
        have hne := kept_inside hin hw
        rw [ne_eq, ← UInt8.toNat_inj] at hne
        exact UInt8.le_iff_toNat_le.mpr (Nat.one_le_iff_ne_zero.mpr hne)
    · intro hout
      rw [htimes, hwhile]
      have hlt := age_lt_iff.mpr (h.2 hout)
      constructor
      · rw [Info.storedTimes, behind_outside hout]
        exact hlt
      · intro hw
        have hle := kept_outside hout hw
        rw [Info.storedTimes, behind_outside hout, UInt16.le_iff_toNat_le, UInt16.toNat_ofNat']
        exact Nat.le_trans (Nat.mod_le _ _) hle

/-! ## Paths -/

/-- A time goes into a frame as the first of two octets, and comes out of it as that octet. -/
def onWire (t : UInt16) : UInt16 := (t <<< 8) >>> 8

/-- The times of the message that a bridge sends on. What its root port has kept are the times of the
bridge, and with them those of its designated ports. -/
def XstPort.sentTimes (p : XstPort) : TimeValues :=
  if p.vlan_id = STP_CIST_ID then
    { MessageAge := onWire p.portTimes.MessageAge
      MaxAge := onWire p.portTimes.MaxAge
      ForwardDelay := onWire p.portTimes.ForwardDelay
      HelloTime := onWire p.portTimes.HelloTime
      RemainingHops := p.portTimes.RemainingHops }
  else
    { zeroTimes with RemainingHops := p.portTimes.RemainingHops }

/-- The port of the bridge `i` keeps its message, and the bridge `j` receives it then. -/
def Relays (i j : Info) : Prop :=
  i.Keeps ∧ (takeMessage i).port.rcvdInfoWhile ≠ 0 ∧
    j.port.msgTimes = (takeMessage i).port.sentTimes

/-- The hops that are left to a message; none is as one more than the greatest number of them. -/
def hopsLeft (h : UInt8) : Nat := if h = 0 then 256 else h.toNat

/-- A bound on how often a message can be sent on. -/
def TimeValues.life (t : TimeValues) : Nat :=
  (t.MaxAge.toNat - t.MessageAge.toNat) * 257 + hopsLeft t.RemainingHops

@[simp] theorem toNat_onWire {t : UInt16} : (onWire t).toNat = t.toNat % 256 := by
  have ht := t.toNat_lt
  have hl : (t <<< 8).toNat = t.toNat * 256 % 65536 := by
    rw [UInt16.toNat_shiftLeft, Nat.shiftLeft_eq]
    rfl
  have hr : (onWire t).toNat = (t <<< 8).toNat / 256 := by
    rw [onWire, UInt16.toNat_shiftRight, Nat.shiftRight_eq_div_pow]
    rfl
  omega

theorem hopsLeft_pos {h : UInt8} : 1 ≤ hopsLeft h := by
  unfold hopsLeft
  split
  · decide
  · next hne =>
    rw [← UInt8.toNat_inj] at hne
    exact Nat.one_le_iff_ne_zero.mpr hne

theorem hopsLeft_le {h : UInt8} : hopsLeft h ≤ 256 := by
  have hlt := h.toNat_lt
  unfold hopsLeft
  split <;> omega

theorem hopsLeft_sub {h : UInt8} (h0 : h - 1 ≠ 0) : hopsLeft (h - 1) < hopsLeft h := by
  have hlt := h.toNat_lt
  have hsub : (h - 1).toNat = (2 ^ 8 - 1 + h.toNat) % 2 ^ 8 := UInt8.toNat_sub h 1
  have hpos : (h - 1).toNat ≠ 0 := fun hz => h0 (UInt8.toNat_inj.mp hz)
  rw [hopsLeft, if_neg h0, hopsLeft]
  split
  · have hlt' := (h - 1).toNat_lt
    omega
  · next hne =>
    have hh : h.toNat ≠ 0 := fun hz => hne (UInt8.toNat_inj.mp hz)
    omega

theorem takeMessage_vlan (h : i.Keeps) : (takeMessage i).port.vlan_id = i.port.vlan_id := by
  rcases h with h | h
  · rw [takeMessage_superior h, superiorBefore_port]
    exact receive_like.vlan_id
  · rw [takeMessage_repeated h, repeatedBefore_port]
    exact receive_like.vlan_id

theorem kept_age (hv : i.port.vlan_id = STP_CIST_ID) (hin : i.port.Inside)
    (hw : i.storedWhile ≠ 0) :
    i.port.msgTimes.MessageAge.toNat ≤ i.port.msgTimes.MaxAge.toNat := by
  by_contra hgt
  have hgt' : i.port.msgTimes.MessageAge > i.port.msgTimes.MaxAge := Nat.not_le.mp hgt
  exact hw (by simp [Info.storedWhile, hv, hin hv, Info.storedTimes, behind_inside hin, hgt'])

/-- A message that is sent on has less life. -/
theorem relays_life (h : Relays i j) (hmax : i.port.msgTimes.MaxAge.toNat < 256) :
    j.port.msgTimes.life < i.port.msgTimes.life := by
  obtain ⟨hk, hw, hj⟩ := h
  obtain ⟨htimes, hwhile⟩ := takeMessage_stored hk
  rw [hwhile] at hw
  rw [hj, XstPort.sentTimes, takeMessage_vlan hk, htimes, TimeValues.life, TimeValues.life]
  by_cases hin : i.port.Inside
  · have hne := kept_inside hin hw
    rw [Info.storedTimes, behind_inside hin] at hne ⊢
    have hhops := hopsLeft_sub hne
    split
    · next hv =>
      have hage := kept_age hv hin hw
      simp only [toNat_onWire]
      omega
    · simp only [zeroTimes, UInt16.toNat_zero]
      omega
  · obtain ⟨hv, -⟩ := Classical.not_imp.mp hin
    have hle := kept_outside hin hw
    have hinc := @one_le_effAge_sub i.port.msgTimes.MaxAge i.port.msgTimes.MessageAge
    have hbr := @hopsLeft_le i.BrTimes.RemainingHops
    have hpos := @hopsLeft_pos i.port.msgTimes.RemainingHops
    rw [if_pos hv, Info.storedTimes, behind_outside hin]
    simp only [toNat_onWire, UInt16.toNat_ofNat']
    omega

theorem relays_onWire (h : Relays i j) : j.port.msgTimes.MaxAge.toNat < 256 := by
  obtain ⟨-, -, hj⟩ := h
  rw [hj, XstPort.sentTimes]
  split
  · rw [toNat_onWire]
    exact Nat.mod_lt _ (by decide)
  · exact Nat.zero_lt_succ 255

theorem chain_life {l : List Info} (h : List.IsChain Relays (i :: l))
    (hmax : i.port.msgTimes.MaxAge.toNat < 256) : l.length ≤ i.port.msgTimes.life := by
  induction l generalizing i with
  | nil => exact Nat.zero_le _
  | cons j l ih =>
    obtain ⟨hrel, hrest⟩ := List.isChain_cons_cons.mp h
    have hlife := relays_life hrel hmax
    have hlen := ih hrest (relays_onWire hrel)
    rw [List.length_cons]
    omega

/-- A message is not sent on for ever: the first bridge need not receive what can be on a wire, all
others do. -/
theorem relays_length {l : List Info} (h : List.IsChain Relays l) : l.length ≤ 2 + 257 * 256 := by
  cases l with
  | nil => simp
  | cons i l =>
    cases l with
    | nil => simp
    | cons j l =>
      obtain ⟨hrel, hrest⟩ := List.isChain_cons_cons.mp h
      have hmax := relays_onWire hrel
      have hlen := chain_life hrest hmax
      have hhops := @hopsLeft_le j.port.msgTimes.RemainingHops
      unfold TimeValues.life at hlen
      simp only [List.length_cons]
      omega

/-- What a port keeps of a message is older than the message exactly if the message is countable,
and in any case a message is sent on a bounded number of times only. -/
theorem ageing_iff (i : Info) (l : List Info) :
    ((i.Keeps → Older i.port (takeMessage i).port) ↔ (i.Keeps → i.Countable)) ∧
    (List.IsChain Relays l → l.length ≤ 2 + 257 * 256) :=
  ⟨older_iff, relays_length⟩

/-- A message from the region with no hops left. -/
def noHops : Info :=
  { port := { freshXstPort with
      rcvdInternal := true
      msgBpduType := BPDU_RSTP
      msgFlags := RSTP_PORT_ROLE_DESGN <<< PORT_ROLE_OFFS
      msgPrio := { zeroPrio with root_bridge := ⟨0x1000, zeroMac⟩ }
      msgTimes :=
        { MessageAge := 1, MaxAge := 20, ForwardDelay := 15, HelloTime := 2, RemainingHops := 0 }
      portPrio := { zeroPrio with root_bridge := ⟨0x8000, zeroMac⟩ } }
    nextMst := []
    cist := none
    BrTimes := zeroTimes }

theorem noHops_kept : noHops.Keeps ∧ (takeMessage noHops).port.rcvdInfoWhile = 6 ∧
    (takeMessage noHops).port.portTimes.RemainingHops = 255 ∧
    ¬ Older noHops.port (takeMessage noHops).port := by
  have hkind : noHops.kind = .SuperiorDesignateMsg := by decide +kernel
  have hhops : (takeMessage noHops).port.portTimes.RemainingHops = 255 := by decide +kernel
  refine ⟨Or.inl hkind, by decide +kernel, hhops, fun h => ?_⟩
  have hlt := (h.inside fun _ => rfl).1
  rw [hhops] at hlt
  exact absurd hlt (by decide)

/-! ## Repeated messages -/

/-- The same message arrives at both ports, and their bridges have the same times. -/
structure Info.SameMessage (j i : Info) : Prop extends j.Like i where
  msgBpduType : j.port.msgBpduType = i.port.msgBpduType
  msgFlags : j.port.msgFlags = i.port.msgFlags
  msgPrio : j.port.msgPrio = i.port.msgPrio

/-- The message makes MST ports on the chain record what it says. -/
def Info.Spreads (j : Info) : Prop := j.port.vlan_id = STP_CIST_ID ∧ j.port.rcvdInternal = false

/-- The port `k` is the port `j` with its message recorded and its timer restarted. -/
structure Refreshed (j k : Info) : Prop where
  port : k.port = { j.port with
    rcvdInfoWhile := j.storedWhile
    rcvdInfo := .RepeatedDesignateMsg
    msgPortRole := rcvdPortRole j.port
    rcvdMsg := false
    infoInternal := j.port.rcvdInternal
    proposed := k.port.proposed
    agreed := k.port.agreed
    mstiMastered := k.port.mstiMastered }
  spread : j.Spreads → k.nextMst = j.nextMst.map fun m => { m with
    mstiMastered := false
    proposed := k.port.proposed
    agreed := k.port.agreed }
  others : ¬ j.Spreads → k.nextMst = j.nextMst
  cist : k.cist = j.cist
  BrTimes : k.BrTimes = j.BrTimes

theorem Info.SameMessage.designated (h : j.SameMessage i) (hd : i.Designated) : j.Designated := by
  have hrole : rcvdPortRole j.port = rcvdPortRole i.port := by
    rw [rcvdPortRole, rcvdPortRole, h.msgBpduType, h.msgFlags]
  unfold Info.Designated Info.told XstPort.isDesignated at *
  rw [hrole, h.msgBpduType, h.vlan_id]
  exact hd

theorem Info.Like.spreads (h : j.Like i) : j.Spreads ↔ i.Spreads := by
  rw [Info.Spreads, Info.Spreads, h.vlan_id, h.rcvdInternal]

theorem recordProposal_spread (h : i.Spreads) : (stpPortinfoRecordProposalxst i).nextMst =
    i.nextMst.map fun m => { m with
      proposed := (stpPortinfoRecordProposalxst i).port.proposed } := by
  simp [stpPortinfoRecordProposalxst, stpPortinfoRecordProposalcist, h.1, h.2]

theorem recordProposal_others (h : ¬ i.Spreads) :
    (stpPortinfoRecordProposalxst i).nextMst = i.nextMst := by
  unfold stpPortinfoRecordProposalxst
  split
  · next hv =>
    have hr : i.port.rcvdInternal = true := Bool.eq_true_of_not_eq_false fun hr => h ⟨hv, hr⟩
    simp [stpPortinfoRecordProposalcist, hr]
  · rfl

theorem recordAgreement_spread (h : i.Spreads) : (stpPortinfoRecordAgreementxst i).nextMst =
    i.nextMst.map fun m => { m with
      agreed := (stpPortinfoRecordAgreementxst i).port.agreed } := by
  simp [stpPortinfoRecordAgreementxst, stpPortinfoRecordAgreementcist, h.1, h.2]

theorem recordAgreement_others (h : ¬ i.Spreads) :
    (stpPortinfoRecordAgreementxst i).nextMst = i.nextMst := by
  unfold stpPortinfoRecordAgreementxst
  split
  · next hv =>
    have hr : i.port.rcvdInternal = true := Bool.eq_true_of_not_eq_false fun hr => h ⟨hv, hr⟩
    simp [stpPortinfoRecordAgreementcist, hr]
  · unfold stpPortinfoRecordAgreementmsti
    split <;> rfl

theorem recordMastered_spread (h : i.Spreads) : (stpPortinfoRecordMasteredxst i).nextMst =
    i.nextMst.map fun m => { m with mstiMastered := false } := by
  simp [stpPortinfoRecordMasteredxst, stpPortinfoRecordMasteredcist, h.1, h.2]

theorem recordMastered_others (h : ¬ i.Spreads) :
    (stpPortinfoRecordMasteredxst i).nextMst = i.nextMst := by
  unfold stpPortinfoRecordMasteredxst
  split
  · next hv =>
    have hr : i.port.rcvdInternal = true := Bool.eq_true_of_not_eq_false fun hr => h ⟨hv, hr⟩
    simp [stpPortinfoRecordMasteredcist, hr]
  · rfl

/-- The port with its message classified. -/
def classified (i : Info) : Info :=
  { (stpPortinfoXstRcvinfo i).2 with
    port := { (stpPortinfoXstRcvinfo i).2.port with rcvdInfo := i.kind } }

theorem receive_eq :
    mstpInfoEnterState .RECEIVE i = stpPortinfoRecordMasteredxst (classified i) := rfl

theorem classified_like : (classified i).Like i ∧ (classified i).nextMst = i.nextMst := by
  unfold classified stpPortinfoXstRcvinfo stpPortinfoCistRcvinfo stpPortinfoMstiRcvinfo rcvinfo
  split <;> split <;> exact ⟨⟨rfl, rfl, rfl, rfl⟩, rfl⟩

theorem receive_spread (h : i.Spreads) : (mstpInfoEnterState .RECEIVE i).nextMst =
    i.nextMst.map fun m => { m with mstiMastered := false } := by
  obtain ⟨hlike, hmst⟩ := @classified_like i
  rw [receive_eq, recordMastered_spread (hlike.spreads.mpr h), hmst]

theorem receive_others (h : ¬ i.Spreads) :
    (mstpInfoEnterState .RECEIVE i).nextMst = i.nextMst := by
  obtain ⟨hlike, hmst⟩ := @classified_like i
  rw [receive_eq, recordMastered_others fun hs => h (hlike.spreads.mp hs), hmst]

/-- The port on which REPEATED_DESIGNATED records the agreement. -/
def repeatedProposal (i : Info) : Info :=
  stpPortinfoRecordProposalxst { i with
    port := { i.port with infoInternal := i.port.rcvdInternal } }

theorem repeatedBefore_eq : repeatedBefore i = stpPortinfoRecordAgreementxst (repeatedProposal i) :=
  rfl

theorem repeatedProposal_spreads : (repeatedProposal i).Spreads ↔ i.Spreads := by
  unfold Info.Spreads repeatedProposal
  rw [recordProposal_port]

theorem repeatedBefore_spread (h : i.Spreads) : (repeatedBefore i).nextMst =
    i.nextMst.map fun m => { m with
      proposed := (repeatedBefore i).port.proposed
      agreed := (repeatedBefore i).port.agreed } := by
  have hprop : (repeatedBefore i).port.proposed = (repeatedProposal i).port.proposed := by
    rw [repeatedBefore_eq, recordAgreement_port]
  have hmst : (repeatedProposal i).nextMst =
      i.nextMst.map fun m => { m with proposed := (repeatedProposal i).port.proposed } :=
    @recordProposal_spread
      { i with port := { i.port with infoInternal := i.port.rcvdInternal } } h
  rw [hprop, repeatedBefore_eq, recordAgreement_spread (repeatedProposal_spreads.mpr h), hmst,
    List.map_map]
  rfl

theorem repeatedBefore_others (h : ¬ i.Spreads) : (repeatedBefore i).nextMst = i.nextMst := by
  rw [repeatedBefore_eq, recordAgreement_others fun hs => h (repeatedProposal_spreads.mp hs)]
  exact @recordProposal_others
    { i with port := { i.port with infoInternal := i.port.rcvdInternal } } h

theorem updt_rest : (stpPortinfoUpdtRcvdInfoWhileXst i).nextMst = i.nextMst ∧
    (stpPortinfoUpdtRcvdInfoWhileXst i).cist = i.cist ∧
    (stpPortinfoUpdtRcvdInfoWhileXst i).BrTimes = i.BrTimes := by
  unfold stpPortinfoUpdtRcvdInfoWhileXst
  split
  · unfold stpPortinfoUpdtRcvdInfoWhileCist
    dsimp only
    split <;> exact ⟨rfl, rfl, rfl⟩
  · exact ⟨rfl, rfl, rfl⟩

/-- What REPEATED_DESIGNATED leaves besides the port. -/
theorem takeMessage_rest (h : i.kind = .RepeatedDesignateMsg) :
    (takeMessage i).nextMst = (repeatedBefore (mstpInfoEnterState .RECEIVE i)).nextMst ∧
    (takeMessage i).cist = i.cist ∧ (takeMessage i).BrTimes = i.BrTimes := by
  obtain ⟨hmst, hcist, hbr⟩ := @updt_rest (repeatedBefore (mstpInfoEnterState .RECEIVE i))
  obtain ⟨hcist', hbr'⟩ := @repeatedBefore_rest (mstpInfoEnterState .RECEIVE i)
  rw [hcist', (@receive_rest i).1] at hcist
  rw [hbr', (@receive_rest i).2] at hbr
  rw [takeMessage_eq _ h, rcvdState, repeated_eq]
  dsimp only
  exact ⟨hmst, hcist, hbr⟩

theorem refreshed (h : j.kind = .RepeatedDesignateMsg) : Refreshed j (takeMessage j) := by
  obtain ⟨hmst, hcist, hbr⟩ := takeMessage_rest h
  obtain ⟨hdes, hprio, hheld⟩ := kind_repeated_iff.mp h
  have hrole : (stpPortinfoXstRcvinfo j).2.port.msgPortRole = rcvdPortRole j.port := by
    unfold stpPortinfoXstRcvinfo stpPortinfoCistRcvinfo stpPortinfoMstiRcvinfo rcvinfo
    split <;> rw [if_neg hdes.1]
  have hlike := @receive_like j
  constructor
  · rw [takeMessage_repeated h, repeatedBefore_port, receive_port, hrole, h, ← hheld]
  · intro hs
    rw [hmst, repeatedBefore_spread (hlike.spreads.mpr hs), receive_spread hs, List.map_map,
      takeMessage_repeated h]
    rfl
  · intro hs
    rw [hmst, repeatedBefore_others fun h => hs (hlike.spreads.mp h), receive_others hs]
  · exact hcist
  · exact hbr

/-- A message that a port has taken for a better one is a repeated one when it arrives again at a
port that holds it still. The port records what it says and restarts its timer; nothing else
changes, so that the roles are not selected anew. -/
theorem repeated_message (hsup : i.kind = .SuperiorDesignateMsg) (hsame : j.SameMessage i)
    (hprio : j.port.portPrio = (takeMessage i).port.portPrio)
    (htimes : j.port.portTimes = (takeMessage i).port.portTimes) :
    j.kind = .RepeatedDesignateMsg ∧ Refreshed j (takeMessage j) ∧
      (j.helloTime = i.helloTime →
        (takeMessage j).port.rcvdInfoWhile = (takeMessage i).port.rcvdInfoWhile) := by
  have hrep : j.kind = .RepeatedDesignateMsg := by
    refine kind_repeated_iff.mpr ⟨hsame.designated (designated_of_superior hsup), ?_, ?_⟩
    · rw [hprio, takeMessage_superior hsup, superiorBefore_port, receive_port, hsame.msgPrio]
    · rw [htimes, (takeMessage_stored (Or.inl hsup)).1, hsame.toLike.storedTimes]
  refine ⟨hrep, refreshed hrep, fun hh => ?_⟩
  rw [(takeMessage_stored (Or.inr hrep)).2, (takeMessage_stored (Or.inl hsup)).2,
    hsame.toLike.storedWhile hh]

/-- A proposal from another region, at a port that knows a worse root only. -/
def proposal : Info :=
  { port := { freshXstPort with
      msgBpduType := BPDU_RSTP
      msgFlags := PROPOSAL_BIT ||| RSTP_PORT_ROLE_DESGN <<< PORT_ROLE_OFFS
      msgPrio := { zeroPrio with root_bridge := ⟨0x1000, zeroMac⟩ }
      msgTimes :=
        { MessageAge := 1, MaxAge := 20, ForwardDelay := 15, HelloTime := 2, RemainingHops := 0 }
      portPrio := { zeroPrio with root_bridge := ⟨0x8000, zeroMac⟩ } }
    nextMst := []
    cist := none
    BrTimes := { zeroTimes with RemainingHops := 20 } }

/-- The port has kept the proposal and answered it, and the message arrives again. -/
def proposedAgain : Info :=
  { takeMessage proposal with
    port := { (takeMessage proposal).port with
      proposed := false
      agree := true
      rcvdMsg := true
      reselect := false
      selected := true
      rcvdInfoWhile := 3 } }

theorem proposedAgain_same : proposedAgain.SameMessage proposal := by
  constructor
  · exact ⟨by decide +kernel, by decide +kernel, by decide +kernel, by decide +kernel⟩
  · decide +kernel
  · decide +kernel
  · decide +kernel

theorem proposal_repeated : proposedAgain.kind = .RepeatedDesignateMsg ∧
    Refreshed proposedAgain (takeMessage proposedAgain) ∧
    (proposedAgain.helloTime = proposal.helloTime →
      (takeMessage proposedAgain).port.rcvdInfoWhile = (takeMessage proposal).port.rcvdInfoWhile) :=
  repeated_message (by decide +kernel) proposedAgain_same (by decide +kernel) (by decide +kernel)

/-- The message restarts the timer, and the port is proposed to again. -/
theorem proposal_recorded_again : proposal.kind = .SuperiorDesignateMsg ∧
    proposedAgain.SameMessage proposal ∧ proposedAgain.port.infoIs = .Received ∧
    proposedAgain.port.portPrio = (takeMessage proposal).port.portPrio ∧
    proposedAgain.port.portTimes = (takeMessage proposal).port.portTimes ∧
    (takeMessage proposedAgain).port ≠
      { proposedAgain.port with
        rcvdInfoWhile := (takeMessage proposedAgain).port.rcvdInfoWhile
        rcvdInfo := .RepeatedDesignateMsg
        rcvdMsg := false } ∧
    proposedAgain.port.proposed = false ∧ (takeMessage proposedAgain).port.proposed = true := by
  refine ⟨by decide +kernel, proposedAgain_same, ?_⟩
  decide +kernel

end

end Stp
end DaemonGroup
