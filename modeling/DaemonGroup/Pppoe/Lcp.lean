import DaemonGroup.Lib.Tlv
import DaemonGroup.Pppoe.Manage

/-!
# DaemonGroup.Pppoe.Lcp

`pppoe_lcp.c`, and the packet buffer as the protocol handlers use it. A handler returns the code of
the reply (or an error) with the data of the reply; the header is put in front by the caller.
-/

namespace DaemonGroup
namespace Pppoe

open Lib

def STATE_RECVACK : Nat := 1
def STATE_SENDACK : Nat := 2

/-! ## The buffer -/

/-- A packet buffer from its data pointer on: the bytes up to the end of the buffer, with what an
earlier packet left behind the received ones, and the length, which is a `uint32`. -/
structure Pbuf where
  data : Bytes
  len : Nat
deriving DecidableEq, Repr, Inhabited

/-- `pbuf_trim`; `none` stands for the length error. -/
def Pbuf.trim (p : Pbuf) (n : Nat) : Option Pbuf :=
  if n > p.len then none else some { p with len := n }

/-- `pbuf_pull`, which does not look whether there is that much. -/
def Pbuf.pull (p : Pbuf) (n : Nat) : Pbuf :=
  { data := p.data.drop n, len := (p.len + 4294967296 - n) % 4294967296 }

def Pbuf.bytes (p : Pbuf) : Bytes := p.data.take p.len

/-- The room for a reply behind the PPP header and the control header. -/
def replyRoom : Nat := 4096 - 6

abbrev Reply := Int × Bytes

/-- The walk over the options of a packet. The length is taken as an `int`; a negative one ends the
walk like a malformed option. -/
def ciWalk {σ ρ : Type} (bad : σ → ρ) (body : Bytes → Nat → σ → σ ⊕ ρ) (p : Pbuf) (s : σ) : σ ⊕ ρ :=
  if p.len ≥ 2147483648 then .inr (bad s) else tlvWalk bad body p.len p.data p.len s

/-! ## Configure-Request -/

/-- The length of `lcp_cinames`. -/
def lcpCinames : Nat := 23

/-- What `processConfReq` accumulates. -/
structure LcpReqAcc where
  options : SessionOptions
  nak : Bytes := []
  rej : Bytes := []
  auth_type : Nat := 0
  chap_mdtype : Nat := 0
  magic : Option Bytes := none

/-- Has the session recorded another authentication type than `t`? -/
def authClash (s : Session) (t : Nat) : Bool := s.auth_type ≠ 0 ∧ s.auth_type &&& t = 0

/-- The option is copied to the Configure-Reject. -/
def LcpReqAcc.reject (a : LcpReqAcc) (cur : Bytes) (cilen : Nat) : LcpReqAcc :=
  { a with rej := a.rej ++ cur.take cilen }

def LcpReqAcc.addNak (a : LcpReqAcc) (o : Bytes) : LcpReqAcc := { a with nak := a.nak ++ o }

def lcpReqAuth (s : Session) (cur : Bytes) (cilen : Nat) (a : LcpReqAcc) : LcpReqAcc :=
  let o := a.options
  let cishort := getShort cur 2
  if cilen < CILEN_SHORT ∨ ¬ (o.neg_upap ∨ o.neg_chap ∨ o.neg_eap) then
    a.reject cur cilen
  else if cishort = PPP_PAP then
    if cilen ≠ CILEN_SHORT ∨ authClash s AUTH_PAP then a.reject cur cilen
    else if ¬ o.neg_upap then
      a.addNak (if o.neg_chap then chapOption (chapDigest o.chap_mdtype) else authOption PPP_EAP)
    else { a with auth_type := AUTH_PAP }
  else if cishort = PPP_CHAP then
    if cilen ≠ CILEN_CHAP ∨ authClash s AUTH_CHAP then a.reject cur cilen
    else if ¬ o.neg_chap then
      a.addNak (authOption (if o.neg_eap then PPP_EAP else PPP_PAP))
    else if ¬ chapCandigest o.chap_mdtype (getChar cur 4) then
      a.addNak (chapOption (chapDigest o.chap_mdtype))
    else { a with auth_type := AUTH_CHAP, chap_mdtype := chapMdtypeD (getChar cur 4) }
  else if cishort = PPP_EAP then
    if cilen ≠ CILEN_SHORT ∨ authClash s AUTH_EAP then a.reject cur cilen
    else if ¬ o.neg_eap then
      a.addNak (if o.neg_chap then chapOption (chapDigest o.chap_mdtype) else authOption PPP_PAP)
    else { a with auth_type := AUTH_PAP }
  else
    a.addNak
      (if o.neg_eap then authOption PPP_EAP
        else if o.neg_chap then chapOption (chapDigest o.chap_mdtype)
        else authOption PPP_PAP)

/-- One option of a Configure-Request. The MRU is noted in the options shared by all sessions. -/
def lcpReqOption (s : Session) (cur : Bytes) (cilen : Nat) (a : LcpReqAcc) :
    LcpReqAcc ⊕ LcpReqAcc :=
  let cicode := getChar cur 0
  if cicode ≥ lcpCinames then
    .inr a
  else if cicode = CI_MRU then
    if ¬ a.options.neg_mru ∨ cilen ≠ CILEN_SHORT then .inl (a.reject cur cilen)
    else if getShort cur 2 > a.options.mru then .inl (a.addNak (mruOption a.options.mru))
    else .inl { a with options := { a.options with mru := getShort cur 2 } }
  else if cicode = CI_AUTHTYPE then
    .inl (lcpReqAuth s cur cilen a)
  else if cicode = CI_MAGICNUMBER then
    if ¬ a.options.neg_magicnumber ∨ cilen ≠ CILEN_LONG then .inl (a.reject cur cilen)
    else if getLong cur 2 = 0 then .inr a
    else .inl { a with magic := some ((cur.drop 2).take 4) }
  else
    .inl (a.reject cur cilen)

/-- The end of both `processConfReq` functions, once every option is acceptable: the negotiation
opens if our own request has been acknowledged, else the acknowledgement is noted. -/
def confReqOpen (open_ : SessState) : M Unit :=
  update fun s =>
    if s.configState &&& STATE_RECVACK ≠ 0 then { s with state := open_, configState := 0 }
    else { s with configState := s.configState ||| STATE_SENDACK }

/-- Likewise the end of both `processConfAck` functions. -/
def confAckOpen (open_ : SessState) : M Unit :=
  update fun s =>
    if s.configState &&& STATE_SENDACK ≠ 0 then { s with state := open_, configState := 0 }
    else { s with configState := s.configState ||| STATE_RECVACK }

/-- A Nak or a Reject built from the options gone through. -/
def confReply (ret : Nat) (data : Bytes) : Reply :=
  if replyRoom < data.length then (PPPOEERR_ENOMEM, []) else (ret, data)

/-- What a Configure-Request that is acknowledged leaves in the session. -/
def lcpReqRecord (a : LcpReqAcc) (s : Session) : Session :=
  let s := if a.auth_type ≠ 0 then
      { s with auth_type := a.auth_type, chap_mdtype := a.chap_mdtype }
    else s
  match a.magic with
  | some m => { s with peermagic := m }
  | none => s

/-- The answer to a Configure-Request. The buffers `nak_buf` and `rej_buf` are as long as they have to be here. In the
source each has `PPPOE_MTU` octets: the Naks for a long request can be more, five octets for an option of four, and
what is written behind the buffer then is left out. -/
def lcpConfReqAnswer (p : Pbuf) : M Reply := do
  let c ← get
  match ciWalk id (lcpReqOption c.sess) p { options := c.options } with
  | .inr a =>
    modify fun c => { c with options := a.options }
    return (CODEREJ, p.bytes)
  | .inl a =>
    modify fun c => { c with options := a.options }
    if a.rej ≠ [] then
      return confReply CONFREJ a.rej
    if a.nak ≠ [] then
      return confReply CONFNAK a.nak
    update (lcpReqRecord a)
    confReqOpen .LCPOPEN
    return (CONFACK, p.bytes)

def lcpProcessConfReq (p : Pbuf) : M Reply := do
  update fun s => if s.state = .INIT then { s with state := .LCPPREOPEN } else s
  lcpConfReqAnswer p

/-! ## Configure-Ack -/

/-- One option of a Configure-Ack. The authentication type is recorded as it is met. -/
def lcpAckOption (o : SessionOptions) (cur : Bytes) (cilen : Nat) (s : Session) :
    Session ⊕ Session :=
  let cicode := getChar cur 0
  let cishort := getShort cur 2
  if cicode = CI_MRU then
    if ¬ o.neg_mru ∨ cilen ≠ CILEN_SHORT ∨ cishort > o.mru then .inr s else .inl s
  else if cicode = CI_AUTHTYPE then
    if cilen < CILEN_SHORT ∨ ¬ (o.neg_upap ∨ o.neg_chap ∨ o.neg_eap) then .inr s
    else if cishort = PPP_PAP then
      if cilen ≠ CILEN_SHORT ∨ ¬ o.neg_upap ∨ authClash s AUTH_PAP then .inr s
      else .inl { s with auth_type := AUTH_PAP }
    else if cishort = PPP_CHAP then
      if cilen ≠ CILEN_CHAP ∨ ¬ o.neg_chap ∨ authClash s AUTH_CHAP then .inr s
      else if ¬ chapCandigest o.chap_mdtype (getChar cur 4) then .inr s
      else .inl { s with auth_type := AUTH_CHAP, chap_mdtype := chapMdtypeD (getChar cur 4) }
    else if cishort = PPP_EAP then
      if cilen ≠ CILEN_SHORT ∨ ¬ o.neg_eap ∨ authClash s AUTH_EAP then .inr s
      else .inl { s with auth_type := AUTH_EAP }
    else .inr s
  else if cicode = CI_MAGICNUMBER then
    if ¬ o.neg_magicnumber ∨ cilen ≠ CILEN_LONG ∨ (cur.drop 2).take 4 ≠ charArray 4 s.magic then
      .inr s
    else .inl s
  else
    .inr s

def lcpProcessConfAck (p : Pbuf) : M Reply := do
  let c ← get
  match ciWalk id (lcpAckOption c.options) p c.sess with
  | .inr s =>
    update fun _ => s
    return (CODEREJ, p.bytes)
  | .inl s =>
    update fun _ => s
    confAckOpen .LCPOPEN
    return (PPPOEERR_SUCCESS, [])

/-! ## Configure-Nak and the rest -/

/-- What `processConfNak` accumulates. -/
structure LcpNakAcc where
  options : SessionOptions
  auth_type : Nat := 0
  chap_mdtype : Nat := 0
  magic : Option Bytes := none

/-- One option of a Configure-Nak. The walk ends with the code to reply with. -/
def lcpNakOption (s : Session) (cur : Bytes) (cilen : Nat) (a : LcpNakAcc) :
    LcpNakAcc ⊕ (LcpNakAcc × Nat) :=
  let o := a.options
  let cicode := getChar cur 0
  let cishort := getShort cur 2
  if cicode = CI_MRU then
    if ¬ o.neg_mru ∨ cilen ≠ CILEN_SHORT then .inr (a, CODEREJ)
    else if cishort > o.mru then .inr (a, TERMREQ)
    else .inl { a with options := { o with mru := cishort } }
  else if cicode = CI_AUTHTYPE then
    if cilen < CILEN_SHORT ∨ ¬ (o.neg_upap ∨ o.neg_chap ∨ o.neg_eap) then .inr (a, CODEREJ)
    else if cishort = PPP_PAP then
      if ¬ o.neg_upap then .inr (a, TERMREQ)
      else if cilen ≠ CILEN_SHORT ∨ authClash s AUTH_PAP then .inr (a, CODEREJ)
      else .inl { a with auth_type := cishort }
    else if cishort = PPP_CHAP then
      if ¬ o.neg_chap then .inr (a, CODEREJ)
      else if cilen ≠ CILEN_CHAP ∨ authClash s AUTH_CHAP then .inr (a, CODEREJ)
      else if ¬ chapCandigest o.chap_mdtype (getChar cur 4) then .inr (a, TERMREQ)
      else .inl { a with auth_type := cishort, chap_mdtype := getChar cur 4 }
    else if cishort = PPP_EAP then
      if ¬ o.neg_eap then .inr (a, CODEREJ)
      else if cilen ≠ CILEN_CHAP ∨ authClash s AUTH_EAP then .inr (a, CODEREJ)
      else .inl { a with auth_type := cishort }
    else .inr (a, CODEREJ)
  else if cicode = CI_MAGICNUMBER then
    if ¬ o.neg_magicnumber ∨ cilen ≠ CILEN_LONG ∨ (cur.drop 2).take 4 = charArray 4 s.magic then
      .inr (a, CODEREJ)
    else .inl { a with magic := some ((cur.drop 2).take 4) }
  else
    .inr (a, CODEREJ)

/-- The Configure-Request that answers a Configure-Nak. -/
def lcpNakRequest (s : Session) (a : LcpNakAcc) : Bytes :=
  mruOption a.options.mru ++
    (if a.auth_type = 0 then chapOption (chapDigest a.options.chap_mdtype)
      else if a.auth_type = PPP_CHAP then chapOption a.chap_mdtype
      else authOption a.auth_type) ++
    magicOption (a.magic.getD s.magic)

def lcpProcessConfNak (p : Pbuf) : M Reply := do
  let c ← get
  match ciWalk (fun a => (a, CODEREJ)) (lcpNakOption c.sess) p { options := c.options } with
  | .inr (a, code) =>
    modify fun c => { c with options := a.options }
    return (code, if code = TERMREQ then [] else p.bytes)
  | .inl a =>
    modify fun c => { c with options := a.options }
    return (CONFREQ, lcpNakRequest c.sess a)

def lcpProcessConfRej : M Reply := return (TERMREQ, [])

def lcpProcessTermReq (e : Env) : M Reply := do
  sessionTermcauseSetup RADIUS_TERMINATE_CAUSE_USER_REQUEST
  let _ ← sessionOptUnregister .LCPTERMREQ
  let st := (← get).sess.state
  if st = .ONLINE then
    let _ ← sessOffline e
  else if st ≠ .OFFLINEPRE ∧ st ≠ .OFFLINEPOST then
    update fun s => { s with state := .LCPCLOSE }
  return (TERMACK, [])

def lcpProcessTermAck : M Reply := do
  let _ ← sessionOptUnregister .LCPTERMREQ
  update fun s => { s with state := .LCPCLOSE }
  return (PPPOEERR_SUCCESS, [])

def lcpProcessCodeRej : M Reply := return (TERMREQ, [])

def lcpProcessEchoRep (p : Pbuf) : M Reply := do
  if p.len < 4 then
    return (PPPOEERR_ELENGTH, [])
  if p.data.take 4 ≠ charArray 4 (← get).sess.peermagic then
    return (PPPOEERR_EINVAL, [])
  update fun s => { s with echoLoseTimes := 0 }
  return (PPPOEERR_SUCCESS, [])

/-! ## Dispatch -/

/-- The length of `lcp_codenames`. -/
def lcpCodenames : Nat := 13

/-- `struct pppoe_ctl` at the front of a buffer: code, identifier, length. -/
structure PppoeCtl where
  code : Nat
  ident : Nat
  length : Nat
deriving DecidableEq, Repr

def ctlOf (bs : Bytes) : PppoeCtl :=
  { code := getChar bs 0, ident := getChar bs 1, length := getShort bs 2 }

def lcpProcess (e : Env) (p : Pbuf) : M Reply := do
  let s := (← get).sess
  let ctl := ctlOf p.data
  if s.state.num < SessState.INIT.num ∨ s.state.num ≥ SessState.LCPCLOSE.num then
    return (PPPOEERR_ESTATE, [])
  match p.trim ctl.length with
  | none => return (PPPOEERR_ELENGTH, [])
  | some q =>
    let q := q.pull 4
    if ctl.code = 0 ∨ ctl.code > lcpCodenames then
      return (CODEREJ, q.bytes)
    if ctl.code = CONFREQ then
      if s.state.num > SessState.LCPPOSTOPEN.num then
        return (PPPOEERR_ESTATE, [])
      lcpProcessConfReq q
    else if ctl.code = CONFACK ∨ ctl.code = CONFNAK ∨ ctl.code = CONFREJ then
      if s.state ≠ .LCPPOSTOPEN then
        return (PPPOEERR_ESTATE, [])
      if ctl.ident ≠ s.ident then
        return (PPPOEERR_EINVAL, [])
      if ctl.code = CONFACK then
        lcpProcessConfAck q
      else if ctl.code = CONFNAK then
        lcpProcessConfNak q
      else
        lcpProcessConfRej
    else if ctl.code = TERMREQ then
      lcpProcessTermReq e
    else if ctl.code = TERMACK then
      if s.state ≠ .IPCPPOSTCLOSE then
        return (PPPOEERR_ESTATE, [])
      lcpProcessTermAck
    else if ctl.code = CODEREJ then
      if s.state.num ≥ SessState.LCPOPEN.num then
        return (PPPOEERR_ESTATE, [])
      if ctl.ident ≠ s.ident then
        return (PPPOEERR_EINVAL, [])
      lcpProcessCodeRej
    else if ctl.code = ECHOREP then
      lcpProcessEchoRep q
    else
      return (PPPOEERR_EINVAL, [])

end Pppoe
end DaemonGroup
