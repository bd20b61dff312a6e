import DaemonGroup.Stp.Receive
import DaemonGroup.Stp.Vector

/-!
# DaemonGroup.Stp.PortInfo

The port information machine (`stp_portinfo.c`): how the message that a port has received is
classified, and what of it the port keeps.

`Info` is what the machine of one port works on. A port of the CIST sees the MST ports behind it on
the `nextMst` chain; an MST port sees the CIST port with its index, if `g_CISTPORT` has one.
-/

namespace DaemonGroup
namespace Stp

open Lib

/-! ## Ports -/

/-- `INFO_IS_T` -/
inductive InfoIs where
  | Mine
  | Aged
  | Received
  | Disabled
deriving DecidableEq, Repr

/-- `RCVD_MSG_T` -/
inductive RcvdMsg where
  | SuperiorDesignateMsg
  | RepeatedDesignateMsg
  | ConfirmedRootMsg
  | OtherMsg
deriving DecidableEq, Repr

/-- `PORT_ROLE_T` -/
inductive PortRole where
  | DisabledPort
  | AlternatePort
  | BackupPort
  | RootPort
  | DesignatedPort
  | MasterPort
  | NonStpPort
deriving DecidableEq, Repr

def DEF_BR_HELLOT : Nat := 2

/-! The bits of the flags. -/
def PROPOSAL_BIT : UInt8 := 0x02
def PORT_ROLE_OFFS : UInt8 := 2
def PORT_ROLE_MASK : UInt8 := 0x03 <<< PORT_ROLE_OFFS
def AGREEMENT_BIT : UInt8 := 0x40
def MASTER_BIT : UInt8 := 0x80

def RSTP_PORT_ROLE_UNKN : UInt8 := 0x00
def RSTP_PORT_ROLE_ROOT : UInt8 := 0x02
def RSTP_PORT_ROLE_DESGN : UInt8 := 0x03

/-- The part of `PORT_T` that the information machine and the selection of roles work on. -/
structure XstPort where
  vlan_id : UInt16
  port_id : UInt16
  port_index : Nat
  portEnabled : Bool
  admin_non_stp : Bool
  operPointToPointMac : Bool
  operPCost : UInt32
  sendRSTP : Bool
  infoIs : InfoIs
  infoInternal : Bool
  rcvdInternal : Bool
  rcvdMsg : Bool
  rcvdInfo : RcvdMsg
  rcvdInfoWhile : Nat
  msgBpduType : UInt8
  msgPortRole : UInt8
  msgFlags : UInt8
  msgPrio : PrioVector
  msgTimes : TimeValues
  portPrio : PrioVector
  portTimes : TimeValues
  designPrio : PrioVector
  designTimes : TimeValues
  role : PortRole
  selectedRole : PortRole
  selected : Bool
  reselect : Bool
  updtInfo : Bool
  newInfo : Bool
  newInfoCist : Bool
  newInfoMsti : Bool
  proposing : Bool
  proposed : Bool
  agree : Bool
  agreed : Bool
  sync : Bool
  synced : Bool
  forward : Bool
  learn : Bool
  changedMaster : Bool
  mstiMastered : Bool
  rx_cfg_bpdu_cnt : Nat
  rx_rstp_bpdu_cnt : Nat
  rx_tcn_bpdu_cnt : Nat
deriving DecidableEq

/-- What the information machine of a port can reach: the port, the ports behind it on the `nextMst`
chain, the port of the CIST with its index, and the times of the owner. -/
structure Info where
  port : XstPort
  nextMst : List XstPort
  cist : Option XstPort
  BrTimes : TimeValues
deriving DecidableEq

/-! ## The message -/

/-- The message age behind this bridge. -/
def effAge (MaxAge MessageAge : UInt16) : Nat :=
  let eff_age := (8 + MaxAge.toNat) / 16
  let eff_age := if eff_age < 1 then 1 else eff_age
  eff_age + MessageAge.toNat

/-- `stp_portinfo_updt_recvmsg_timer` -/
def stpPortinfoUpdtRecvmsgTimer (i : Info) : TimeValues :=
  let p := i.port
  if p.vlan_id = STP_CIST_ID then
    if p.rcvdInternal = false then
      { p.msgTimes with
        MessageAge := UInt16.ofNat (effAge p.portTimes.MaxAge p.msgTimes.MessageAge)
        RemainingHops := i.BrTimes.RemainingHops }
    else
      { p.msgTimes with RemainingHops := p.msgTimes.RemainingHops - 1 }
  else
    { p.msgTimes with RemainingHops := p.msgTimes.RemainingHops - 1 }

/-- The port role that a message tells. -/
def rcvdPortRole (p : XstPort) : UInt8 :=
  if p.msgBpduType = BPDU_RSTP then (p.msgFlags &&& PORT_ROLE_MASK) >>> PORT_ROLE_OFFS
  else RSTP_PORT_ROLE_UNKN

/-- The message is one of a designated port; a configuration message is, if `config` says so. -/
def XstPort.isDesignated (config : Bool) (p : XstPort) : Bool :=
  p.msgPortRole = RSTP_PORT_ROLE_DESGN ∨ config ∧ p.msgBpduType = BPDU_CONFIG_TYPE

/-- What a message is, for a port with `msgPortRole`. -/
def classify (config : Bool) (i : Info) : RcvdMsg :=
  let p := i.port
  let bridcmp := stpVectorCompare p.msgPrio p.portPrio
  let timecmp := stpTimesCompare (stpPortinfoUpdtRecvmsgTimer i) p.portTimes
  if p.isDesignated config ∧
      (bridcmp < 0 ∨
        stpVectorCompareBridgeId p.msgPrio.design_bridge p.portPrio.design_bridge = 0 ∧
          p.msgPrio.design_port = p.portPrio.design_port ∧ timecmp ≠ 0) then
    .SuperiorDesignateMsg
  else if p.isDesignated config ∧ bridcmp = 0 ∧ timecmp = 0 then
    .RepeatedDesignateMsg
  else if p.msgPortRole = RSTP_PORT_ROLE_ROOT ∧ 0 ≤ bridcmp then
    .ConfirmedRootMsg
  else
    .OtherMsg

/-- A port gets its `msgPortRole` and its message is classified. -/
def rcvinfo (config : Bool) (i : Info) : RcvdMsg × Info :=
  if i.port.msgBpduType = BPDU_TOPO_CHANGE_TYPE then
    (.OtherMsg, i)
  else
    let i := { i with port := { i.port with msgPortRole := rcvdPortRole i.port } }
    (classify config i, i)

/-- `stp_portinfo_cist_rcvinfo` -/
def stpPortinfoCistRcvinfo (i : Info) : RcvdMsg × Info := rcvinfo true i

/-- `stp_portinfo_msti_rcvinfo` -/
def stpPortinfoMstiRcvinfo (i : Info) : RcvdMsg × Info := rcvinfo false i

/-- `stp_portinfo_xst_rcvinfo` -/
def stpPortinfoXstRcvinfo (i : Info) : RcvdMsg × Info :=
  if i.port.vlan_id = STP_CIST_ID then stpPortinfoCistRcvinfo i else stpPortinfoMstiRcvinfo i

/-! ## What is recorded -/

/-- `stp_portinfo_record_masteredcist` -/
def stpPortinfoRecordMasteredcist (i : Info) : Info :=
  if i.port.rcvdInternal then i
  else { i with nextMst := i.nextMst.map fun m => { m with mstiMastered := false } }

/-- `stp_portinfo_record_masteredmsti` -/
def stpPortinfoRecordMasteredmsti (i : Info) : Info :=
  { i with
    port := { i.port with
      mstiMastered := i.port.operPointToPointMac ∧ i.port.msgFlags &&& MASTER_BIT ≠ 0 } }

/-- `stp_portinfo_record_masteredxst` -/
def stpPortinfoRecordMasteredxst (i : Info) : Info :=
  if i.port.vlan_id = STP_CIST_ID then stpPortinfoRecordMasteredcist i
  else stpPortinfoRecordMasteredmsti i

/-- `stp_portinfo_record_proposalcist` -/
def stpPortinfoRecordProposalcist (i : Info) : Info :=
  let p := i.port
  let proposed : Bool := p.msgPortRole = RSTP_PORT_ROLE_DESGN ∧ PROPOSAL_BIT &&& p.msgFlags ≠ 0 ∧
    p.operPointToPointMac
  { i with
    port := { p with proposed := proposed }
    nextMst :=
      if p.rcvdInternal then i.nextMst
      else i.nextMst.map fun m => { m with proposed := proposed } }

/-- `stp_portinfo_record_proposalmsti` -/
def stpPortinfoRecordProposalmsti (i : Info) : Info :=
  { i with
    port := { i.port with
      proposed := PROPOSAL_BIT &&& i.port.msgFlags ≠ 0 ∧ i.port.operPointToPointMac } }

/-- `stp_portinfo_record_proposalxst` -/
def stpPortinfoRecordProposalxst (i : Info) : Info :=
  if i.port.vlan_id = STP_CIST_ID then stpPortinfoRecordProposalcist i
  else stpPortinfoRecordProposalmsti i

/-- `stp_portinfo_xstinfo_check` -/
def stpPortinfoXstinfoCheck (i : Info) : Bool := stpVectorCompare i.port.msgPrio i.port.portPrio ≤ 0

/-- The test of an agreement. The result of the comparison is first turned into a truth value. -/
def agreement (p : XstPort) : Bool :=
  if AGREEMENT_BIT &&& p.msgFlags ≠ 0 ∧ p.operPointToPointMac then
    let bridcmp : Int := if stpVectorCompare p.msgPrio p.portPrio ≤ 0 then 1 else 0
    (RSTP_PORT_ROLE_ROOT <<< PORT_ROLE_OFFS) &&& p.msgFlags ≠ 0 ∧ bridcmp ≤ 0 ∨
      (RSTP_PORT_ROLE_DESGN <<< PORT_ROLE_OFFS) &&& p.msgFlags ≠ 0 ∧ 0 ≤ bridcmp
  else
    false

/-- `stp_portinfo_record_agreementcist` -/
def stpPortinfoRecordAgreementcist (i : Info) : Info :=
  let agreed := agreement i.port
  { i with
    port := { i.port with agreed := agreed }
    nextMst :=
      if i.port.rcvdInternal = false then i.nextMst.map fun m => { m with agreed := agreed }
      else i.nextMst }

/-- `stp_portinfo_record_agreementmsti` -/
def stpPortinfoRecordAgreementmsti (i : Info) : Info :=
  match i.cist with
  | none => i
  | some cist_port =>
    let bridcmp := stpVectorCompare cist_port.msgPrio cist_port.portPrio
    { i with
      port := { i.port with
        agreed := (bridcmp = 0 ∨ bridcmp < -4 ∨ 4 < bridcmp) ∧ agreement i.port } }

/-- `stp_portinfo_record_agreementxst` -/
def stpPortinfoRecordAgreementxst (i : Info) : Info :=
  if i.port.vlan_id = STP_CIST_ID then stpPortinfoRecordAgreementcist i
  else stpPortinfoRecordAgreementmsti i

/-! ## How long it is kept -/

/-- `stp_portinfo_updtRcvdInfoWhileCist` -/
def stpPortinfoUpdtRcvdInfoWhileCist (i : Info) : Info :=
  let p := i.port
  if p.rcvdInternal = false then
    let eff_age := effAge p.portTimes.MaxAge p.msgTimes.MessageAge
    let hello3 := 3 * p.portTimes.HelloTime.toNat
    let dm := p.portTimes.MaxAge.toNat - eff_age
    { i with
      port := { p with
        rcvdInfoWhile :=
          if eff_age ≤ p.portTimes.MaxAge.toNat then (if dm > hello3 then hello3 else dm) else 0
        portTimes := { p.portTimes with
          MessageAge := UInt16.ofNat eff_age
          RemainingHops := i.BrTimes.RemainingHops } } }
  else
    let portTimes := { p.portTimes with
      MessageAge := p.msgTimes.MessageAge
      RemainingHops := p.msgTimes.RemainingHops - 1 }
    { i with
      port := { p with
        rcvdInfoWhile :=
          if portTimes.MessageAge > portTimes.MaxAge ∨ portTimes.RemainingHops ≤ 0 then 0
          else 3 * portTimes.HelloTime.toNat
        portTimes := portTimes } }

/-- `stp_portinfo_updtRcvdInfoWhileMsti` -/
def stpPortinfoUpdtRcvdInfoWhileMsti (i : Info) : Info :=
  let p := i.port
  let portTimes := { p.portTimes with RemainingHops := p.msgTimes.RemainingHops - 1 }
  { i with
    port := { p with
      rcvdInfoWhile :=
        if portTimes.RemainingHops ≤ (0 : UInt8) then 0
        else
          match i.cist with
          | some cistport => 3 * cistport.portTimes.HelloTime.toNat
          | none => 3 * DEF_BR_HELLOT
      portTimes := portTimes } }

/-- `stp_portinfo_updtRcvdInfoWhileXst` -/
def stpPortinfoUpdtRcvdInfoWhileXst (i : Info) : Info :=
  if i.port.vlan_id = STP_CIST_ID then stpPortinfoUpdtRcvdInfoWhileCist i
  else stpPortinfoUpdtRcvdInfoWhileMsti i

/-! ## The machine -/

/-- The states of the machine. -/
inductive InfoState where
  | BEGIN
  | DISABLED
  | ENABLED
  | AGED
  | UPDATE
  | CURRENT
  | RECEIVE
  | SUPERIOR_DESIGNATED
  | REPEATED_DESIGNATED
  | ROOT
  | OTHER
deriving DecidableEq, Repr

/-- `stp_portinfo_rcvd_xstinfo` -/
def stpPortinfoRcvdXstinfo (i : Info) : Bool :=
  if i.port.vlan_id = STP_CIST_ID then i.port.rcvdMsg
  else
    match i.cist with
    | some port => ¬ port.rcvdMsg ∧ i.port.rcvdMsg
    | none => false

/-- `stp_portinfo_updt_xstinfo` -/
def stpPortinfoUpdtXstinfo (i : Info) : Bool :=
  if i.port.vlan_id = STP_CIST_ID then i.port.updtInfo
  else
    i.port.updtInfo ||
      match i.cist with
      | some port => port.updtInfo ∨ port.reselect
      | none => false

/-- `stp_roletrns_setnewinfoXst` -/
def stpRoletrnsSetnewinfoXst (i : Info) : Info :=
  if i.port.vlan_id = STP_CIST_ID then { i with port := { i.port with newInfoCist := true } }
  else { i with cist := i.cist.map fun c => { c with newInfoMsti := true } }

/-- The state DISABLED. -/
def disabled (p : XstPort) : XstPort :=
  { p with
    rcvdMsg := false
    proposing := false
    proposed := false
    agree := false
    agreed := false
    rcvdInfoWhile := 0
    infoIs := .Disabled
    updtInfo := false
    reselect := true
    selected := false }

/-- `MSTP_info_enter_state` -/
def mstpInfoEnterState (s : InfoState) (i : Info) : Info :=
  match s with
  | .BEGIN =>
    { i with
      port := disabled { i.port with
        msgBpduType := 0xff
        msgPortRole := RSTP_PORT_ROLE_UNKN
        msgFlags := 0
        rx_cfg_bpdu_cnt := 0
        rx_rstp_bpdu_cnt := 0
        rx_tcn_bpdu_cnt := 0 } }
  | .DISABLED => { i with port := disabled i.port }
  | .ENABLED =>
    { i with
      port := { i.port with portPrio := i.port.designPrio, portTimes := i.port.designTimes } }
  | .AGED => { i with port := { i.port with infoIs := .Aged, reselect := true, selected := false } }
  | .UPDATE =>
    let p := i.port
    stpRoletrnsSetnewinfoXst { i with
      port := { p with
        proposing := false
        proposed := false
        synced := false
        sync := p.changedMaster
        agreed := p.agreed ∧ stpPortinfoXstinfoCheck i ∧ ¬ p.changedMaster
        portPrio := p.designPrio
        portTimes := p.designTimes
        changedMaster := false
        updtInfo := false
        infoIs := .Mine
        newInfo := true } }
  | .CURRENT => i
  | .RECEIVE =>
    let (info, i) := stpPortinfoXstRcvinfo i
    stpPortinfoRecordMasteredxst { i with port := { i.port with rcvdInfo := info } }
  | .SUPERIOR_DESIGNATED =>
    let i := stpPortinfoRecordProposalxst { i with
      port := { i.port with infoInternal := i.port.rcvdInternal, proposing := false } }
    let i := stpPortinfoRecordAgreementxst { i with
      port := { i.port with agree := i.port.agree ∧ stpPortinfoXstinfoCheck i } }
    let i := stpPortinfoUpdtRcvdInfoWhileXst { i with
      port := { i.port with
        synced := i.port.synced ∧ i.port.agreed
        portPrio := i.port.msgPrio
        portTimes := i.port.msgTimes } }
    { i with
      port := { i.port with
        infoIs := .Received
        reselect := true
        selected := false
        rcvdMsg := false } }
  | .REPEATED_DESIGNATED =>
    let i := stpPortinfoRecordProposalxst { i with
      port := { i.port with infoInternal := i.port.rcvdInternal } }
    let i := stpPortinfoUpdtRcvdInfoWhileXst (stpPortinfoRecordAgreementxst i)
    { i with port := { i.port with rcvdMsg := false } }
  | .ROOT =>
    let i := stpPortinfoRecordAgreementxst i
    { i with port := { i.port with rcvdMsg := false } }
  | .OTHER => { i with port := { i.port with rcvdMsg := false } }

/-- The state that follows RECEIVE. -/
def rcvdState : RcvdMsg → InfoState
  | .SuperiorDesignateMsg => .SUPERIOR_DESIGNATED
  | .RepeatedDesignateMsg => .REPEATED_DESIGNATED
  | .ConfirmedRootMsg => .ROOT
  | .OtherMsg => .OTHER

/-- `MSTP_info_check_conditions`: the state that the machine changes to. -/
def mstpInfoCheckConditions (s : InfoState) (i : Info) : Option InfoState :=
  let p := i.port
  if ¬ p.portEnabled ∧ p.infoIs ≠ .Disabled ∨ s = .BEGIN then some .DISABLED
  else
    match s with
    | .BEGIN => some .DISABLED
    | .DISABLED =>
      if p.portEnabled then some .AGED
      else if p.rcvdMsg then some .DISABLED
      else if p.updtInfo then some .DISABLED
      else none
    | .ENABLED => some .AGED
    | .AGED => if p.selected ∧ p.updtInfo then some .UPDATE else none
    | .UPDATE => some .CURRENT
    | .CURRENT =>
      if p.selected ∧ p.updtInfo then some .UPDATE
      else if p.infoIs = .Received ∧ p.rcvdInfoWhile = 0 ∧ ¬ p.updtInfo ∧
          ¬ stpPortinfoRcvdXstinfo i then some .AGED
      else if p.rcvdMsg ∧ ¬ stpPortinfoUpdtXstinfo i then some .RECEIVE
      else none
    | .RECEIVE => some (rcvdState p.rcvdInfo)
    | .SUPERIOR_DESIGNATED => some .CURRENT
    | .REPEATED_DESIGNATED => some .CURRENT
    | .ROOT => some .CURRENT
    | .OTHER => some .CURRENT

/-- The machine takes the message of the port: RECEIVE and the state that follows. -/
def takeMessage (i : Info) : Info :=
  let i := mstpInfoEnterState .RECEIVE i
  mstpInfoEnterState (rcvdState i.port.rcvdInfo) i

end Stp
end DaemonGroup
