import DaemonGroup.Pppoe.Ncp

/-!
# DaemonGroup.Pppoe.Control

`pppoe_control.c`: a PPP frame of a session is handed to its protocol, a reply is sent, and the
state that the protocol left the session in is acted on.
-/

namespace DaemonGroup
namespace Pppoe

/-- A PPP frame from the client of a session: the received bytes, and what an earlier packet left in
the buffer behind them. -/
structure Frame where
  bytes : Bytes
  stale : Bytes := []
deriving DecidableEq, Repr, Inhabited

def Frame.proto (f : Frame) : Nat := getShort f.bytes 0

/-- The buffer behind the protocol field. -/
def Frame.pbuf (f : Frame) : Pbuf :=
  { data := (f.bytes ++ f.stale).drop 2, len := f.bytes.length - 2 }

def Frame.ctl (f : Frame) : PppoeCtl := ctlOf f.pbuf.data

/-- `ppp_proto_process`, with the four protocols that are registered. -/
def pppProtoProcess (e : Env) (f : Frame) : M Reply := do
  if f.proto = PPP_LCP then
    lcpProcess e f.pbuf
  else if f.proto = PPP_CHAP then
    chapProcess f.pbuf
  else if f.proto = PPP_IPCP then
    ipcpProcess e f.pbuf
  else if f.proto = PPP_CCP then
    ccpProcess f.pbuf
  else
    return (PPPOEERR_ENOEXIST, [])

/-- The reply: a Configure-Request gets the session's next identifier, any other code the
identifier of the frame. -/
def controlReply (e : Env) (f : Frame) (code : Nat) (payload : Bytes) : M Unit := do
  if code = CONFREQ then
    update fun s => { s with ident := s.ident + 1 }
  let s := (← get).sess
  let ident := if code = CONFREQ then s.ident else f.ctl.ident
  let _ ← pppSendPacket e .pppReply (pppFrame f.proto code ident payload)

def controlSessSetup : M Unit := do
  let _ ← sessionOptRegister .LCPTERMREQ
  if (← get).sess.auth_type = AUTH_CHAP then
    let _ ← sessionOptRegister .AUTHPRE
    let _ ← sessionOptRegister .AUTHSUCCESS
    let _ ← sessionOptRegister .AUTHFAIL

/-- `state_check` of `control_process`. -/
def stateCheck (e : Env) : M Unit := do
  match (← get).sess.state with
  | .LCPPREOPEN =>
    let ret ← sessionOptPerform .LCPCONFREQ (sendLcpConfReq e)
    if ret ≠ PPPOEERR_SUCCESS then
      _manageSessExit e
    else
      let _ ← sessionTimerUpdate .TIMEOUT
      update fun s => { s with state := .LCPPOSTOPEN }
  | .LCPOPEN =>
    controlSessSetup
    let _ ← sessionOptPerform .AUTHPRE (sendChapChallenge e)
    let _ ← sessionTimerUpdate .TIMEOUT
    update fun s => { s with state := .AUTHPRE }
  | .AUTH =>
    let ret ← sessionOptPerform .AUTHREQ (radiusAuthReq e)
    if ret ≠ PPPOEERR_SUCCESS then
      _manageSessExit e
    else
      update fun s => { s with state := .AUTHPOST }
  | .IPCPOPEN =>
    let _ ← sessionOptPerform .IPREGISTER (sessoptIpregister e)
    let _ ← sessionTimerUpdate .TIMEOUT
    update fun s => { s with state := .ONLINEPRE }
  | .IPCPCLOSE => _manageSessExit e
  | .LCPPRECLOSE => _manageSessExit e
  | .LCPCLOSE => _manageSessExit e
  | _ => return ()

/-- `control_process` from the length check on, for a frame of this session. -/
def controlProcess (e : Env) (f : Frame) : M Unit := do
  if f.bytes.length < 6 then
    return ()
  let r ← pppProtoProcess e f
  if r.1 < 0 then
    return ()
  if r.1 ≠ 0 then
    controlReply e f r.1.toNat r.2
  stateCheck e

end Pppoe
end DaemonGroup
