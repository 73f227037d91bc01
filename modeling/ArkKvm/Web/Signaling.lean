import ArkKvm.Session.State
import ArkKvm.Web.Middleware

/-!
# Roles of signalling sessions

A WebRTC session is opened by one HTTP request, or by the offers of a signalling
WebSocket that an HTTP request opened.  In password mode that request carried the cookie
of a role.  The role of the session is chosen from the `clientType` of the request, of
the WebSocket query or of the offer.  This module follows the three choices and compares
every session that is registered with the cookie of the request that opened it.

One message is one step.  A choice looks only at the request or at the socket, so how the
handlers of several connections interleave inside a message makes no difference to it.
What the peer connection, the claim of the role slot and the socket answer are inputs.
-/

namespace ArkKvm.Web

open Lib

/-- `WebRTCSessionRequest`, without the address hints that a LAN session ignores. -/
structure SessionRequest where
  sd : String
  clientType : Option String
deriving DecidableEq

structure Registration where
  session : Session
  openedBy : Visit

/-- A signalling WebSocket: its bound role, `none` for a legacy client that gave no
`clientType` query, and the HTTP request that opened it. -/
structure Socket where
  wsRole : Option SessionRole
  openedBy : Visit

structure Signaling where
  app : AppState := {}
  sockets : Table String Socket := ∅
  registered : List Registration := []

structure OfferOutcome where
  peer : Nat
  created : Except String Unit
  answer : Except String String
  claim : Except String ClaimRoleResult
  sent : Bool

structure SessionCall where
  id : String
  body : Except String SessionRequest
  outcome : OfferOutcome

structure ConnectCall where
  id : String
  query : Option String
  upgraded : Bool

inductive WsMessage
  | ping (sent : Bool)
  | invalidJson (error : String)
  | offer (data : Option (Except String SessionRequest)) (outcome : OfferOutcome)
  | newIceCandidate
  | clientClosing
  | unknown

inductive Frame
  | pong
  | answer (sd : String)
  | error (code message : String)
deriving DecidableEq

/-! ## The choices of a role -/

def roleMismatch : StatusError := forbidden "clientType does not match auth cookie role"

def webrtcSessionRole (auth : Option SessionRole) (request : SessionRequest) :
    Except StatusError SessionRole :=
  match parseClientType request.clientType with
  | .error e => .error (badRequest e)
  | .ok role => if auth.all (· = role) then .ok role else .error roleMismatch

def queryRole : Option String → Except StatusError (Option SessionRole)
  | none => .ok none
  | some raw =>
      match SessionRole.parse raw with
      | some role => .ok (some role)
      | none => .error (badRequest ("Invalid clientType: " ++ raw))

/-- The role that `handle_webrtc_signaling_client` binds its WebSocket to.  A legacy
client counts as a user in the comparison with the cookie. -/
def signalingRole (auth : Option SessionRole) (query : Option String) :
    Except StatusError (Option SessionRole) :=
  match queryRole query with
  | .error e => .error e
  | .ok wsRole => if auth.all (· = wsRole.getD .user) then .ok wsRole else .error roleMismatch

/-- The role of an offer on a WebSocket; `ok none` is the mismatch that closes it. -/
def offerRole (wsRole : Option SessionRole) (request : SessionRequest) :
    Except String (Option SessionRole) :=
  match wsRole with
  | some bound =>
      match request.clientType.bind SessionRole.parse with
      | none => .error "offer clientType required and must match ws clientType"
      | some role => .ok (if role = bound then some bound else none)
  | none => (parseClientType request.clientType).map some

/-! ## The handlers -/

namespace Signaling

def newSession (openedBy : Visit) (id : String) (role : SessionRole) (outcome : OfferOutcome)
    (s : Signaling) : Signaling × Except String Unit :=
  match outcome.created with
  | .error e => (s, .error e)
  | .ok () =>
      let session := { id := id, role := role, peer := outcome.peer }
      ({ s with
          app := (s.app.addSession session).1
          registered := ⟨session, openedBy⟩ :: s.registered }, .ok ())

def removeAndCloseSession (id : String) (s : Signaling) : Signaling :=
  { s with app := (s.app.removeEntry id none).1.clearRoleSlots id }

def claimRefused : ClaimRoleResult → Option StatusError
  | .accepted _ => none
  | .rejectedOccupied => some { status := 409, brief := "Agent session slot is already occupied" }
  | .rejectedMcpDisabled =>
      some (forbidden "MCP is disabled on the device; enable MCP before agent control")
  | .notRegistered => some (internalServerError "Session is no longer registered")

def handleWebrtcSession (v : Visit) (r : SessionCall) : Action StatusError Signaling String := do
  let auth ← Action.ofExcept (protectedRoute v "POST" "/webrtc/session")
  let request ← Action.ofExcept (r.body.mapError fun e => badRequest ("Invalid JSON: " ++ e))
  let role ← Action.ofExcept (webrtcSessionRole auth request)
  Action.mapErr (fun e => internalServerError ("Failed to create session: " ++ e))
    (newSession v r.id role r.outcome)
  match r.outcome.answer with
  | .error e =>
      Action.modify (removeAndCloseSession r.id)
      Action.fail (internalServerError ("Failed to exchange offer: " ++ e))
  | .ok answer =>
      -- An error of the claim itself leaves the session registered.
      let claim ← Action.ofExcept (r.outcome.claim.mapError fun e =>
        internalServerError ("Failed to claim WebRTC session: " ++ e))
      match claimRefused claim with
      | some e =>
          Action.modify (removeAndCloseSession r.id)
          Action.fail e
      | none => pure answer

def handleWebrtcSignalingClient (v : Visit) (c : ConnectCall) :
    Action StatusError Signaling Unit := do
  let auth ← Action.ofExcept (protectedRoute v "GET" "/webrtc/signaling/client")
  let wsRole ← Action.ofExcept (signalingRole auth c.query)
  if c.upgraded then
    Action.modify fun s => { s with sockets := s.sockets.insert c.id ⟨wsRole, v⟩ }
  else pure ()

/-- The answer to a claim over the WebSocket: the frames, and whether it is closed. -/
def claimAnswer (sd : String) : ClaimRoleResult → Except String (List Frame × Bool)
  | .accepted _ => .ok ([.answer sd], false)
  | .rejectedOccupied =>
      .ok ([.error "agentSlotOccupied" "Agent session slot is already occupied"], true)
  | .rejectedMcpDisabled =>
      .ok ([.error "mcpDisabled"
        "MCP is disabled on the device; enable MCP before agent control"], true)
  | .notRegistered => .error "session is no longer registered"

def openOffer (id : String) (socket : Socket) (role : SessionRole) (outcome : OfferOutcome) :
    Action String Signaling (List Frame × Bool) := fun s =>
  match newSession socket.openedBy id role outcome s with
  | (s, .error _) => (s, .ok ([], false))
  | (s, .ok ()) =>
      match outcome.answer, outcome.claim with
      | .error _, _ => (removeAndCloseSession id s, .ok ([], false))
      | .ok _, .error e => (s, .error e)
      | .ok sd, .ok (.accepted previous) =>
          if outcome.sent then (s, claimAnswer sd (.accepted previous))
          else (removeAndCloseSession id s, .error "Failed to send answer")
      | .ok sd, .ok claim => (removeAndCloseSession id s, claimAnswer sd claim)

def handleWebrtcWebsocketMessage (id : String) (socket : Socket) :
    WsMessage → Action String Signaling (List Frame × Bool)
  | .ping sent => Action.ofExcept (if sent then .ok ([.pong], false) else .error "send failed")
  | .invalidJson e => Action.ofExcept (.error ("Invalid JSON: " ++ e))
  | .offer none _ => pure ([], false)
  | .offer (some data) outcome => do
      let request ← Action.ofExcept data
      let role ← Action.ofExcept (offerRole socket.wsRole request)
      match role with
      | none =>
          pure ([.error "clientTypeMismatch" "offer clientType must match WebSocket clientType"],
            true)
      | some role => openOffer id socket role outcome
  | .newIceCandidate => pure ([], false)
  | .clientClosing => pure ([], true)
  | .unknown => pure ([], false)

def closeSocket (id : String) (s : Signaling) : Signaling :=
  let s := removeAndCloseSession id s
  { s with sockets := s.sockets.erase id }

/-- The loop of the WebSocket on one message: an error is logged, `true` ends the loop. -/
def receive (id : String) (socket : Socket) (message : WsMessage) (s : Signaling) : Signaling :=
  match handleWebrtcWebsocketMessage id socket message s with
  | (s, .ok (_, true)) => closeSocket id s
  | (s, _) => s

inductive Event
  | session (v : Visit) (r : SessionCall)
  | connect (v : Visit) (c : ConnectCall)
  | message (id : String) (message : WsMessage)
  | close (id : String)

/-- A message needs an open WebSocket. -/
def step (s : Signaling) : Event → Option Signaling
  | .session v r => some (handleWebrtcSession v r s).1
  | .connect v c => some (handleWebrtcSignalingClient v c s).1
  | .message id message =>
      (s.sockets.lookup id).map fun socket => receive id socket message s
  | .close id => (s.sockets.lookup id).map fun _ => closeSocket id s

end Signaling

end ArkKvm.Web
