import DaemonGroup.Pppoe.Lcp

/-!
# DaemonGroup.Pppoe.Ncp

The protocols that follow LCP: `pppoe_chap.c`, `pppoe_ipcp.c` and `pppoe_ccp.c`.
-/

namespace DaemonGroup
namespace Pppoe

open Lib

/-! ## CHAP -/

def USERNAMESIZE : Nat := 256
def RADIUS_PASSWORD_LEN : Nat := 16

/-- `chapResponse_process`; `ident` is the identifier of the packet, which the code does not look
at. -/
def chapResponseProcess (ident : Nat) (p : Pbuf) : M Reply := do
  if p.len < RADIUS_PASSWORD_LEN + 1 ∨ getChar p.data 0 ≠ RADIUS_PASSWORD_LEN then
    return (PPPOEERR_ELENGTH, [])
  let q := p.pull (RADIUS_PASSWORD_LEN + 1)
  if q.len > USERNAMESIZE - 1 then
    return (PPPOEERR_ELENGTH, [])
  update fun s =>
    { s with
      passwd := (p.data.drop 1).take RADIUS_PASSWORD_LEN
      username := q.bytes ++ s.username.drop q.len }
  let _ ← sessionTimerPause .TIMEOUT
  update fun s => { s with state := .AUTH }
  mark (.response ident)
  return (PPPOEERR_SUCCESS, [])

/-- `chap_process`: of the four codes only a Response is taken. -/
def chapProcess (p : Pbuf) : M Reply := do
  let ctl := ctlOf p.data
  if (← get).sess.state ≠ .AUTHPRE then
    return (PPPOEERR_ESTATE, [])
  match p.trim ctl.length with
  | none => return (PPPOEERR_ELENGTH, [])
  | some q =>
    if ctl.code = CHAP_RESPONSE then
      chapResponseProcess ctl.ident (q.pull 4)
    else
      return (PPPOEERR_EINVAL, [])

/-! ## IPCP -/

/-- What `processConfReq` accumulates; applying for an address changes the session and the pool. -/
structure IpcpReqAcc where
  ctx : Ctx
  nak : Bytes := []
  rej : Bytes := []

def IpcpReqAcc.reject (a : IpcpReqAcc) (cur : Bytes) (cilen : Nat) : IpcpReqAcc :=
  { a with rej := a.rej ++ cur.take cilen }

/-- How the walk over a Configure-Request ends early. -/
inductive IpcpStop where
  | coderej
  | noipaddr
deriving DecidableEq, Repr

/-- An address is applied for when the session has none. -/
def ipcpApply (e : Env) (c : Ctx) : Int × Ctx :=
  if c.sess.ipaddr.ip = 0 then sessionOptPerform .IPAPPLY (sessoptIpapply e) c
  else (PPPOEERR_SUCCESS, c)

/-- The answer to an address option whose right value is `want`. -/
def ipcpAddr (code : Nat) (cur : Bytes) (want : Nat) (a : IpcpReqAcc) : IpcpReqAcc :=
  if getLong cur 2 = want then a else { a with nak := a.nak ++ addrOption code want }

/-- The three address options: `want` is the value the session has been given for it, and a zero is
an option that the server does not offer. -/
def ipcpAddrOption (e : Env) (neg : Bool) (code : Nat) (want : IpaddrStruct → Nat) (cur : Bytes)
    (cilen : Nat) (a : IpcpReqAcc) : IpcpReqAcc ⊕ (IpcpReqAcc × IpcpStop) :=
  if ¬ neg ∨ cilen ≠ CILEN_ADDR then
    .inl (a.reject cur cilen)
  else
    let r := ipcpApply e a.ctx
    let a := { a with ctx := r.2 }
    if r.1 ≠ PPPOEERR_SUCCESS then
      .inr (a, .noipaddr)
    else if code ≠ CI_ADDR ∧ want r.2.sess.ipaddr = 0 then
      .inl (a.reject cur cilen)
    else
      .inl (ipcpAddr code cur (want r.2.sess.ipaddr) a)

/-- One option of a Configure-Request. -/
def ipcpReqOption (e : Env) (cur : Bytes) (cilen : Nat) (a : IpcpReqAcc) :
    IpcpReqAcc ⊕ (IpcpReqAcc × IpcpStop) :=
  let o := a.ctx.options
  let cicode := getChar cur 0
  if cicode = CI_ADDR then
    ipcpAddrOption e o.neg_ipaddr CI_ADDR (·.ip.toNat) cur cilen a
  else if cicode = CI_MS_DNS1 then
    ipcpAddrOption e o.neg_ipmsdns CI_MS_DNS1 (·.dns1) cur cilen a
  else if cicode = CI_MS_DNS2 then
    ipcpAddrOption e o.neg_ipmsdns CI_MS_DNS2 (·.dns2) cur cilen a
  else
    .inl (a.reject cur cilen)

def ipcpProcessConfReq (e : Env) (p : Pbuf) : M Reply := do
  match ciWalk (fun a => (a, IpcpStop.coderej)) (ipcpReqOption e) p { ctx := ← get } with
  | .inr (a, .coderej) =>
    set a.ctx
    return (CODEREJ, p.bytes)
  | .inr (a, .noipaddr) =>
    set a.ctx
    update fun s => { s with state := .LCPPRECLOSE }
    return (PPPOEERR_SUCCESS, [])
  | .inl a =>
    set a.ctx
    if a.rej ≠ [] then
      return confReply CONFREJ a.rej
    if a.nak ≠ [] then
      return confReply CONFNAK a.nak
    confReqOpen .IPCPOPEN
    return (CONFACK, p.bytes)

/-- One option of a Configure-Ack: the server's own address, nothing else. -/
def ipcpAckOption (o : SessionOptions) (serverIP : Nat) (cur : Bytes) (cilen : Nat) (u : Unit) :
    Unit ⊕ Unit :=
  if getChar cur 0 = CI_ADDR ∧ o.neg_ipaddr ∧ cilen = CILEN_ADDR ∧ getLong cur 2 = serverIP then
    .inl u
  else
    .inr u

def ipcpProcessConfAck (p : Pbuf) : M Reply := do
  let c ← get
  match ciWalk id (ipcpAckOption c.options c.sess.serverIP) p () with
  | .inr _ => return (CODEREJ, p.bytes)
  | .inl _ =>
    confAckOpen .IPCPOPEN
    return (PPPOEERR_SUCCESS, [])

/-- One option of a Configure-Nak: the first address option ends the negotiation (`true`). -/
def ipcpNakOption (o : SessionOptions) (cur : Bytes) (cilen : Nat) (u : Unit) : Unit ⊕ Bool :=
  if getChar cur 0 = CI_ADDR then .inr (o.neg_ipaddr ∧ cilen = CILEN_ADDR) else .inl u

def ipcpProcessConfNak (p : Pbuf) : M Reply := do
  match ciWalk (fun _ => false) (ipcpNakOption (← get).options) p () with
  | .inr true =>
    update fun s => { s with state := .IPCPCLOSE }
    return (TERMREQ, [])
  | _ => return (CODEREJ, p.bytes)

/-- One option of a Configure-Reject. -/
def ipcpRejOption (o : SessionOptions) (cur : Bytes) (cilen : Nat) (u : Unit) : Unit ⊕ Unit :=
  if getChar cur 0 = CI_ADDR ∧ o.neg_ipaddr ∧ cilen = CILEN_ADDR then .inl u else .inr u

def ipcpProcessConfRej (p : Pbuf) : M Reply := do
  match ciWalk id (ipcpRejOption (← get).options) p () with
  | .inr _ => return (CODEREJ, p.bytes)
  | .inl _ => return (CONFREQ, [])

def ipcpProcessTermReq (e : Env) : M Reply := do
  sessionTermcauseSetup RADIUS_TERMINATE_CAUSE_USER_REQUEST
  let st := (← get).sess.state
  if st = .ONLINE then
    let _ ← sessOffline e
  else if st ≠ .OFFLINEPRE ∧ st ≠ .OFFLINEPOST then
    update fun s => { s with state := .IPCPCLOSE }
  return (TERMACK, [])

def ipcpProcessTermAck : M Reply := do
  update fun s => { s with state := .IPCPCLOSE }
  return (PPPOEERR_SUCCESS, [])

/-- The length of `ipcp_codenames`. -/
def ipcpCodenames : Nat := 7

def ipcpProcess (e : Env) (p : Pbuf) : M Reply := do
  let s := (← get).sess
  let ctl := ctlOf p.data
  if s.state.num < SessState.IPCPPOSTOPEN.num ∨ s.state.num ≥ SessState.IPCPCLOSE.num then
    return (PPPOEERR_ESTATE, [])
  match p.trim ctl.length with
  | none => return (PPPOEERR_ELENGTH, [])
  | some q =>
    let q := q.pull 4
    if ctl.code = 0 ∨ ctl.code > ipcpCodenames then
      return (CODEREJ, q.bytes)
    if ctl.code = CONFREQ then
      if s.state ≠ .IPCPPOSTOPEN then
        return (PPPOEERR_ESTATE, [])
      ipcpProcessConfReq e q
    else if ctl.code = CONFACK ∨ ctl.code = CONFNAK ∨ ctl.code = CONFREJ then
      if s.state ≠ .IPCPPOSTOPEN then
        return (PPPOEERR_ESTATE, [])
      if ctl.ident ≠ s.ident then
        return (PPPOEERR_EINVAL, [])
      if ctl.code = CONFACK then
        ipcpProcessConfAck q
      else if ctl.code = CONFNAK then
        ipcpProcessConfNak q
      else
        ipcpProcessConfRej q
    else if ctl.code = TERMREQ then
      ipcpProcessTermReq e
    else if ctl.code = TERMACK then
      if s.state ≠ .IPCPPOSTCLOSE then
        return (PPPOEERR_ESTATE, [])
      ipcpProcessTermAck
    else
      return (PPPOEERR_EINVAL, [])

/-! ## CCP -/

/-- The length of `ccp_codenames`. -/
def ccpCodenames : Nat := 15

/-- `ccp_process`: compression is refused, and a peer that Naks or Rejects loses its session. -/
def ccpProcess (p : Pbuf) : M Reply := do
  let s := (← get).sess
  let ctl := ctlOf p.data
  if s.state.num < SessState.LCPOPEN.num ∨ s.state.num ≥ SessState.LCPCLOSE.num then
    return (PPPOEERR_ESTATE, [])
  match p.trim ctl.length with
  | none => return (PPPOEERR_ELENGTH, [])
  | some q =>
    let q := q.pull 4
    if ctl.code = 0 ∨ ctl.code > ccpCodenames then
      return (CODEREJ, q.bytes)
    if ctl.code = CONFREQ ∨ ctl.code = CODEREJ then
      return (TERMREQ, [])
    else if ctl.code = CONFACK ∨ ctl.code = TERMACK then
      return (PPPOEERR_SUCCESS, [])
    else if ctl.code = CONFNAK ∨ ctl.code = CONFREJ then
      update fun s => { s with state := .LCPPRECLOSE }
      return (PPPOEERR_SUCCESS, [])
    else if ctl.code = TERMREQ then
      return (TERMACK, [])
    else
      return (PPPOEERR_EINVAL, [])

end Pppoe
end DaemonGroup
