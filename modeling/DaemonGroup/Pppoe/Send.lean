import DaemonGroup.Pppoe.RadiusReq

/-!
# DaemonGroup.Pppoe.Send

The PPP packets that the server originates (the `send_` functions of `pppoe_control.c` with the
packets of `pppoe_lcp.c`, `pppoe_ipcp.c` and `pppoe_chap.c`) and the PADT of `pppoe_discover.c`.
-/

namespace DaemonGroup
namespace Pppoe

def PPP_IPCP : Nat := 0x8021
def PPP_CCP : Nat := 0x80fd
def PPP_LCP : Nat := 0xc021
def PPP_PAP : Nat := 0xc023
def PPP_CHAP : Nat := 0xc223
def PPP_EAP : Nat := 0xc227

def CONFREQ : Nat := 1
def CONFACK : Nat := 2
def CONFNAK : Nat := 3
def CONFREJ : Nat := 4
def TERMREQ : Nat := 5
def TERMACK : Nat := 6
def CODEREJ : Nat := 7
def ECHOREQ : Nat := 9
def ECHOREP : Nat := 10

def CHAP_CHALLENGE : Nat := 1
def CHAP_RESPONSE : Nat := 2
def CHAP_SUCCESS : Nat := 3
def CHAP_FAILURE : Nat := 4

def CI_MRU : Nat := 1
def CI_AUTHTYPE : Nat := 3
def CI_MAGICNUMBER : Nat := 5
def CI_ADDR : Nat := 3
def CI_MS_DNS1 : Nat := 129
def CI_MS_DNS2 : Nat := 131

def CILEN_SHORT : Nat := 4
def CILEN_CHAP : Nat := 5
def CILEN_LONG : Nat := 6
def CILEN_ADDR : Nat := 6

def AUTH_NONE : Nat := 0
def AUTH_PAP : Nat := 1
def AUTH_CHAP : Nat := 2
def AUTH_EAP : Nat := 4

def CHAP_MD5 : Nat := 5
def CHAP_MICROSOFT : Nat := 0x80
def CHAP_MICROSOFT_V2 : Nat := 0x81
def MDTYPE_MICROSOFT_V2 : Nat := 1
def MDTYPE_MICROSOFT : Nat := 2
def MDTYPE_MD5 : Nat := 4

/-- `CHAP_DIGEST`: the algorithm of the most preferred digest type. -/
def chapDigest (mdtype : Nat) : Nat :=
  if mdtype &&& MDTYPE_MD5 ≠ 0 then CHAP_MD5
  else if mdtype &&& MDTYPE_MICROSOFT_V2 ≠ 0 then CHAP_MICROSOFT_V2
  else if mdtype &&& MDTYPE_MICROSOFT ≠ 0 then CHAP_MICROSOFT
  else 0

/-- `CHAP_MDTYPE_D`: the bit of a digest algorithm. -/
def chapMdtypeD (digest : Nat) : Nat :=
  if digest = CHAP_MICROSOFT_V2 then MDTYPE_MICROSOFT_V2
  else if digest = CHAP_MICROSOFT then MDTYPE_MICROSOFT
  else if digest = CHAP_MD5 then MDTYPE_MD5
  else 0

/-- `CHAP_CANDIGEST`: is the requested digest among those of `mdtype`? -/
def chapCandigest (mdtype digest : Nat) : Bool := mdtype &&& chapMdtypeD digest ≠ 0

/-- A PPP packet: protocol, code, identifier, length, data. -/
def pppFrame (proto code ident : Nat) (payload : Bytes) : Bytes :=
  putShort proto ++ putChar code ++ putChar ident ++ putShort (4 + payload.length) ++ payload

/-- `ppp_send_packet` to the client of the session. -/
def pppSendPacket (e : Env) (call : Call) (bytes : Bytes) : M Int := do
  let s := (← get).sess
  emit e call (.ppp s.sid s.mac bytes)

/-! ## Options of the requests -/

def mruOption (mru : Nat) : Bytes := putChar CI_MRU ++ putChar CILEN_SHORT ++ putShort mru

def chapOption (digest : Nat) : Bytes :=
  putChar CI_AUTHTYPE ++ putChar CILEN_CHAP ++ putShort PPP_CHAP ++ putChar digest

def authOption (proto : Nat) : Bytes :=
  putChar CI_AUTHTYPE ++ putChar CILEN_SHORT ++ putShort proto

def magicOption (magic : Bytes) : Bytes :=
  putChar CI_MAGICNUMBER ++ putChar CILEN_LONG ++ charArray 4 magic

def addrOption (code ip : Nat) : Bytes := putChar code ++ putChar CILEN_ADDR ++ putLong ip

/-! ## LCP -/

/-- `send_lcpConfReq` with `lcpConfigReq_packet`: the authentication option is left out once an
authentication type has been recorded. -/
def sendLcpConfReq (e : Env) : M Int := do
  update fun s => { s with ident := 1 }
  let c ← get
  let auth := if c.sess.auth_type = AUTH_NONE then chapOption (chapDigest c.options.chap_mdtype)
    else []
  pppSendPacket e .lcpConfReq
    (pppFrame PPP_LCP CONFREQ 1 (mruOption c.options.mru ++ auth ++ magicOption c.sess.magic))

def sendLcpEchoReq (e : Env) : M Int := do
  pppSendPacket e .lcpEchoReq (pppFrame PPP_LCP ECHOREQ 0 (charArray 4 (← get).sess.magic))

/-- The error exit of `send_lcpTermReq`. -/
def lcpTermReqError (ret : Int) : M Int := do
  let _ ← sessionOptUnregister .LCPTERMREQ
  update fun s => { s with state := .LCPCLOSE }
  return ret

def sendLcpTermReq (e : Env) : M Int := do
  update fun s => { s with termTimes := s.termTimes + 1 }
  let s := (← get).sess
  if s.termTimes > s.termMaxTimes then
    lcpTermReqError PPPOEERR_ETIMEOUT
  else
    let ret ← pppSendPacket e .lcpTermReq (pppFrame PPP_LCP TERMREQ 0 [])
    if ret ≠ PPPOEERR_SUCCESS then
      lcpTermReqError ret
    else
      update fun s => { s with state := .LCPPOSTCLOSE }
      return PPPOEERR_SUCCESS

/-! ## IPCP -/

def sendIpcpConfReq (e : Env) : M Int := do
  update fun s => { s with ident := 1 }
  let c ← get
  let addr := if c.options.neg_ipaddr then addrOption CI_ADDR c.sess.serverIP else []
  pppSendPacket e .ipcpConfReq (pppFrame PPP_IPCP CONFREQ 1 addr)

/-! ## CHAP -/

/-- `send_chapChallenge` with `chapChallenge_packet`. The identifier and the challenge are drawn
from the session's random generator. -/
def sendChapChallenge (e : Env) : M Int := do
  let ident := getChar e.rand 0
  let challenge := charArray 16 (e.rand.drop 1)
  update fun s => { s with ident := ident, challenge := challenge }
  let s := (← get).sess
  let ret ← pppSendPacket e .chapChallenge
    (pppFrame PPP_CHAP CHAP_CHALLENGE ident (putChar 16 ++ challenge ++ cstring s.sname))
  if ret = PPPOEERR_SUCCESS then
    mark (.challenge ident)
  return ret

/-- `send_chapSuccess` and `send_chapFail` with `chapResult_packet`. -/
def sendChapResult (e : Env) (call : Call) (code : Nat) : M Int := do
  pppSendPacket e call (pppFrame PPP_CHAP code (← get).sess.ident [])

def sendChapSuccess (e : Env) : M Int := sendChapResult e .chapSuccess CHAP_SUCCESS

def sendChapFail (e : Env) : M Int := sendChapResult e .chapFail CHAP_FAILURE

/-! ## Discovery -/

/-- `sendPADT`. -/
def sendPADT (e : Env) : M Int := do
  let s := (← get).sess
  emit e .padt (.padt s.sid s.mac)

/-- `__discover_session_exit`. -/
def discoverSessionExit (e : Env) : M Int := do
  let _ ← sendPADT e
  update fun s => { s with state := .DISTERM }
  return PPPOEERR_SUCCESS

end Pppoe
end DaemonGroup
