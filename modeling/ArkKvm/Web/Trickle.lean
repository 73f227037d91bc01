import ArkKvm.Lib.Relay
import ArkKvm.Lib.Text
import ArkKvm.Web.Signaling

/-!
# Candidates and answers on their way to the clients

Every WebRTC session has a peer connection whose handler reports ICE candidates while the
offer is still being answered.  A candidate of a LAN session waits in a queue until the
WebSocket loop of its connection flushes the queue; a candidate of a cloud session goes out
on the one WebSocket that all cloud clients share.  The model follows the WebSocket loop, the
session requests over HTTP, the cloud connection and any number of candidates under way at
the same time, each split where it waits for another task.

The texts in the queue do not name a session.  `Trickled.peer` and the peers in `Outgoing` are
history: they say which peer connection an item belongs to.
-/

namespace ArkKvm.Trickle

open Lib Web

structure RTCIceCandidateInit where
  candidate : String
  usernameFragment : Option String
deriving DecidableEq

structure RTCIceCandidate where
  address : String
  foundation : String
  json : Except String RTCIceCandidateInit

inductive Origin
  | lan (connection : String)
  | http (session : String)
  | cloud (session : String) (client : Option String)
deriving DecidableEq

/-- The session id that the handler of the peer connection works with. -/
def Origin.sessionId : Origin → String
  | .lan id => id
  | .http id => id
  | .cloud id _ => id

structure SignalSession where
  peer : Nat
  isCloud : Bool
  cloudClientId : Option String
deriving DecidableEq

structure Trickled where
  peer : Nat
  data : RTCIceCandidateInit
deriving DecidableEq

inductive Outgoing
  | deviceMetadata
  | reply (peer : Option Nat) (frame : Frame)
  | newIceCandidate (c : Trickled)
deriving DecidableEq

/-- The answers, errors and candidates that the server sends to the cloud.  The confirmation of a
`session_close`, which goes to the cloud itself and names no client, is none of them. -/
inductive CloudData
  | answer (sd : String) (clientType : SessionRole)
  | error (code message : String)
  | newIceCandidate (data : RTCIceCandidateInit)
deriving DecidableEq

structure CloudFrame where
  sessionId : String
  data : CloudData
  clientId : Option String
deriving DecidableEq

def parseClientId (raw : Option String) : Option String := raw.filter (· ≠ "")

def buildAnswerFrame (sd sessionId : String) (clientType : SessionRole)
    (clientId : Option String) : CloudFrame :=
  ⟨sessionId, .answer sd clientType, clientId.filter (· ≠ "")⟩

def buildAgentOccupiedError (sessionId : String) (clientId : Option String) : CloudFrame :=
  ⟨sessionId, .error "agentSlotOccupied" "Agent session slot is already occupied",
    clientId.filter (· ≠ "")⟩

def buildAgentMcpDisabledError (sessionId : String) (clientId : Option String) : CloudFrame :=
  ⟨sessionId, .error "mcpDisabled"
    "MCP is disabled on the device; enable MCP before agent control", clientId.filter (· ≠ "")⟩

def buildCloudIceFrame (sessionId : String) (data : RTCIceCandidateInit)
    (clientId : Option String) : CloudFrame :=
  ⟨sessionId, .newIceCandidate data, clientId.filter (· ≠ "")⟩

/-! ## The tasks -/

/-- `send_ice_candidate` after it looked up the session, and whether it has also looked for
the user name fragment. -/
structure Sending where
  peer : Nat
  data : RTCIceCandidateInit
  session : Option SignalSession
  filled : Bool
deriving DecidableEq

inductive Phase
  | receiving
  | building (peer : Nat)
  | exchanging (peer : Nat)
  | answering (peer : Nat) (sd : String)
  | taking
  | flushing (rest : List Trickled)
  | closing
  | clearing
deriving DecidableEq

structure Handler where
  wsRole : Option SessionRole
  phase : Phase
deriving DecidableEq

inductive HttpPhase
  | building (peer : Nat)
  | exchanging (peer : Nat)
  | answering (peer : Nat)
deriving DecidableEq

structure CloudOffer where
  session : String
  client : Option String
  role : SessionRole
  peer : Nat
deriving DecidableEq

inductive CloudPhase
  | idle
  | building (o : CloudOffer)
  | exchanging (o : CloudOffer)
  | answering (o : CloudOffer) (sd : String)
deriving DecidableEq

/-- The server.  `ids` are the identifiers drawn so far and `peers` the peer connections; the
fields from `queued` on are history. -/
structure Signals where
  ids : List String := []
  peers : List Origin := []
  sessions : Table String SignalSession := ∅
  usernameFragments : Table Nat String := ∅
  sending : List Sending := []
  websocketIceQueue : Table String (List Trickled) := ∅
  handlers : Table String Handler := ∅
  requests : Table String HttpPhase := ∅
  cloud : CloudPhase := .idle
  queued : List (String × Trickled) := []
  frames : List (String × Outgoing) := []
  cloudFrames : List CloudFrame := []
  added : List (String × Nat) := []
  refused : List Nat := []

def maxIceCandidates : Nat := 20

/-! ## Messages -/

inductive WsText
  | ping (sent : Bool)
  | invalidJson
  | offer (data : Option (Except String SessionRequest)) (sent : Bool)
  | newIceCandidate (hasData : Bool)
  | clientClosing
  | unknown

inductive Incoming
  | gone
  | ping (sent : Bool)
  | text (message : WsText)
  | other

namespace Signals

variable (s : Signals)

def say (id : String) (f : Outgoing) : Signals := { s with frames := s.frames ++ [(id, f)] }

def sayIf (sent : Bool) (id : String) (f : Outgoing) : Signals :=
  if sent then s.say id f else s

def goto (id : String) (h : Handler) (phase : Phase) : Signals :=
  { s with handlers := s.handlers.insert id { h with phase := phase } }

def refuse (peer : Nat) : Signals := { s with refused := peer :: s.refused }

def removeAndCloseSession (id : String) : Signals :=
  { s with sessions := s.sessions.erase id }

def openPeer (origin : Origin) : Signals := { s with peers := s.peers ++ [origin] }

/-- `add_session`; a session with the same id is replaced. -/
def addSession (id : String) (session : SignalSession) : Signals :=
  { s with sessions := s.sessions.insert id session }

/-- `exchange_offer` caches the user name fragment when the answer has one. -/
def cacheFragment (peer : Nat) : Option String → Signals
  | some fragment => { s with usernameFragments := s.usernameFragments.insert peer fragment }
  | none => s

def queueIceCandidate (id : String) (c : Trickled) : Signals :=
  { s with
    websocketIceQueue := s.websocketIceQueue.insert id
      (Relay.push maxIceCandidates ((s.websocketIceQueue.lookup id).getD []) c)
    queued := s.queued ++ [(id, c)] }

/-- A remote candidate goes to the session that the message names, if there is one. -/
def addIceCandidate (id : String) : Signals :=
  match s.sessions.lookup id with
  | none => s
  | some session => { s with added := (id, session.peer) :: s.added }

/-! ## The WebSocket loop -/

/-- `handle_webrtc_websocket` up to its loop. -/
def connect (id : String) (wsRole : Option SessionRole) (greeted : Bool) : Signals :=
  let s := { s with ids := id :: s.ids }
  if greeted then
    { s.say id .deviceMetadata with handlers := s.handlers.insert id ⟨wsRole, .receiving⟩ }
  else s

def receiveOffer (id : String) (h : Handler) (request : SessionRequest) (sent : Bool) : Signals :=
  match offerRole h.wsRole request with
  | .error _ => s.goto id h .taking
  | .ok none =>
      (s.sayIf sent id (.reply none (.error "clientTypeMismatch"
        "offer clientType must match WebSocket clientType"))).goto id h .closing
  | .ok (some _) => (s.openPeer (.lan id)).goto id h (.building s.peers.length)

def receiveText (id : String) (h : Handler) : WsText → Signals
  | .ping sent => (s.sayIf sent id (.reply none .pong)).goto id h .taking
  | .offer (some (.ok request)) sent => s.receiveOffer id h request sent
  | .newIceCandidate true => (s.addIceCandidate id).goto id h .taking
  | .clientClosing => s.goto id h .closing
  | _ => s.goto id h .taking

def receive (id : String) (h : Handler) : Incoming → Signals
  | .gone => s.goto id h .closing
  | .ping sent => s.goto id h (if sent then .taking else .closing)
  | .text message => s.receiveText id h message
  | .other => s.goto id h .taking

/-- `new_session` registers its session last. -/
def lanBuilt (id : String) (h : Handler) (peer : Nat) (ok : Bool) : Signals :=
  if ok then (s.addSession id ⟨peer, false, none⟩).goto id h (.exchanging peer)
  else (s.refuse peer).goto id h .taking

def lanExchanged (id : String) (h : Handler) (peer : Nat) :
    Except String (String × Option String) → Signals
  | .ok (sd, fragment) => (s.cacheFragment peer fragment).goto id h (.answering peer sd)
  | .error _ => ((s.removeAndCloseSession id).refuse peer).goto id h .taking

def lanAnswered (id : String) (h : Handler) (peer : Nat) (sd : String) (sent : Bool) :
    Except String ClaimRoleResult → Signals
  | .error _ => (s.refuse peer).goto id h .taking
  | .ok (.accepted _) =>
      if sent then (s.say id (.reply (some peer) (.answer sd))).goto id h .taking
      else ((s.removeAndCloseSession id).refuse peer).goto id h .taking
  | .ok .rejectedOccupied =>
      (((s.sayIf sent id (.reply (some peer) (.error "agentSlotOccupied"
        "Agent session slot is already occupied"))).removeAndCloseSession id).refuse peer).goto
        id h .closing
  | .ok .rejectedMcpDisabled =>
      (((s.sayIf sent id (.reply (some peer) (.error "mcpDisabled"
        "MCP is disabled on the device; enable MCP before agent control"))).removeAndCloseSession
        id).refuse peer).goto id h .closing
  | .ok .notRegistered => ((s.removeAndCloseSession id).refuse peer).goto id h .taking

/-- `get_ice_candidates`. -/
def takeCandidates (id : String) (h : Handler) : Signals :=
  { s with websocketIceQueue := s.websocketIceQueue.erase id }.goto id h
    (.flushing ((s.websocketIceQueue.lookup id).getD []))

/-- One round of the flush.  A candidate that cannot be sent ends it. -/
def flushOne (id : String) (h : Handler) (sent : Bool) : List Trickled → Signals
  | [] => s.goto id h .receiving
  | c :: rest =>
      if sent then (s.say id (.newIceCandidate c)).goto id h (.flushing rest)
      else s.goto id h .receiving

def clear (id : String) : Signals :=
  { s with
    websocketIceQueue := s.websocketIceQueue.erase id
    handlers := s.handlers.erase id }

/-! ## Session requests over HTTP -/

def httpBuilt (id : String) (peer : Nat) (ok : Bool) : Signals :=
  if ok then
    { s.addSession id ⟨peer, false, none⟩ with
      requests := s.requests.insert id (.exchanging peer) }
  else { s with requests := s.requests.erase id }

def httpExchanged (id : String) (peer : Nat) : Except String (Option String) → Signals
  | .ok fragment =>
      { s.cacheFragment peer fragment with
        requests := s.requests.insert id (.answering peer) }
  | .error _ => { s.removeAndCloseSession id with requests := s.requests.erase id }

def httpAnswered (id : String) : Except String ClaimRoleResult → Signals
  | .error _ => { s with requests := s.requests.erase id }
  | .ok (.accepted _) => { s with requests := s.requests.erase id }
  | .ok _ => { s.removeAndCloseSession id with requests := s.requests.erase id }

/-! ## The cloud connection -/

def cloudSend (sent : Bool) (f : CloudFrame) : Signals :=
  if sent then { s with cloudFrames := s.cloudFrames ++ [f] } else s

def cloudBuilt (o : CloudOffer) (ok : Bool) : Signals :=
  if ok then
    { s.addSession o.session ⟨o.peer, true, o.client⟩ with cloud := .exchanging o }
  else { s with cloud := .idle }

def cloudExchanged (o : CloudOffer) : Except String (String × Option String) → Signals
  | .ok (sd, fragment) => { s.cacheFragment o.peer fragment with cloud := .answering o sd }
  | .error _ => { s.removeAndCloseSession o.session with cloud := .idle }

def cloudAnswered (o : CloudOffer) (sd : String) (sent : Bool) :
    Except String ClaimRoleResult → Signals
  | .error _ => { s with cloud := .idle }
  | .ok (.accepted _) =>
      if sent then
        { s.cloudSend true (buildAnswerFrame sd o.session o.role o.client) with cloud := .idle }
      else { s.removeAndCloseSession o.session with cloud := .idle }
  | .ok .rejectedOccupied =>
      { (s.cloudSend sent (buildAgentOccupiedError o.session o.client)).removeAndCloseSession
          o.session with cloud := .idle }
  | .ok .rejectedMcpDisabled =>
      { (s.cloudSend sent (buildAgentMcpDisabledError o.session o.client)).removeAndCloseSession
          o.session with cloud := .idle }
  | .ok .notRegistered => { s.removeAndCloseSession o.session with cloud := .idle }

/-! ## Candidates of the peer connections -/

def isEndMarker (c : RTCIceCandidate) (data : RTCIceCandidateInit) : Bool :=
  let sdp := Text.trim data.candidate.toList
  (c.address.isEmpty && c.foundation.isEmpty) || sdp.isEmpty || sdp = "candidate:".toList

/-- `send_ice_candidate` up to its look at the session. -/
def foundCandidate (peer : Nat) (origin : Origin) (c : RTCIceCandidate) : Signals :=
  match c.json with
  | .error _ => s
  | .ok data =>
      if isEndMarker c data then s
      else
        { s with
          sending := s.sending ++
            [⟨peer, data, s.sessions.lookup origin.sessionId, false⟩] }

def fillFragment (t : Sending) : Sending :=
  let cached := t.session.bind fun session => s.usernameFragments.lookup session.peer
  { t with
    data := { t.data with usernameFragment := t.data.usernameFragment <|> cached }
    filled := true }

/-- The end of `send_ice_candidate`.  Nothing enters `AppState.sockets`, so that a LAN
candidate always goes to the queue. -/
def deliverCandidate (origin : Origin) (t : Sending) (cloudOpen : Bool) : Signals :=
  match t.session with
  | some ⟨_, true, clientId⟩ =>
      s.cloudSend cloudOpen (buildCloudIceFrame origin.sessionId t.data clientId)
  | _ => s.queueIceCandidate origin.sessionId ⟨t.peer, t.data⟩

end Signals

/-! ## Steps -/

inductive Event
  | connect (id : String) (wsRole : Option SessionRole) (greeted : Bool)
  | message (id : String) (m : Incoming)
  | lanBuilt (id : String) (ok : Bool)
  | lanExchanged (id : String) (result : Except String (String × Option String))
  | lanAnswered (id : String) (claim : Except String ClaimRoleResult) (sent : Bool)
  | take (id : String)
  | flush (id : String) (sent : Bool)
  | close (id : String)
  | clear (id : String)
  | httpOffer (id : String)
  | httpBuilt (id : String) (ok : Bool)
  | httpExchanged (id : String) (result : Except String (Option String))
  | httpAnswered (id : String) (claim : Except String ClaimRoleResult)
  | cloudOffer (id : String) (clientId : Option String) (role : SessionRole)
  | cloudBuilt (ok : Bool)
  | cloudExchanged (result : Except String (String × Option String))
  | cloudAnswered (claim : Except String ClaimRoleResult) (sent : Bool)
  | cloudCandidate (id : String)
  | cloudEnded
  | removed (id : String)
  | candidate (peer : Nat) (c : RTCIceCandidate)
  | fill (i : Nat)
  | deliver (i : Nat) (cloudOpen : Bool)

namespace Signals

/-- A step of the WebSocket loop of `id`, when it stands where `f` can go on. -/
def atHandler (s : Signals) (id : String) (f : Handler → Option Signals) : Option Signals :=
  (s.handlers.lookup id).bind f

def step (s : Signals) : Event → Option Signals
  | .connect id wsRole greeted => if id ∈ s.ids then none else some (s.connect id wsRole greeted)
  | .message id m => s.atHandler id fun h =>
      if h.phase = .receiving then some (s.receive id h m) else none
  | .lanBuilt id ok => s.atHandler id fun h =>
      match h.phase with
      | .building peer => some (s.lanBuilt id h peer ok)
      | _ => none
  | .lanExchanged id result => s.atHandler id fun h =>
      match h.phase with
      | .exchanging peer => some (s.lanExchanged id h peer result)
      | _ => none
  | .lanAnswered id claim sent => s.atHandler id fun h =>
      match h.phase with
      | .answering peer sd => some (s.lanAnswered id h peer sd sent claim)
      | _ => none
  | .take id => s.atHandler id fun h =>
      if h.phase = .taking then some (s.takeCandidates id h) else none
  | .flush id sent => s.atHandler id fun h =>
      match h.phase with
      | .flushing rest => some (s.flushOne id h sent rest)
      | _ => none
  | .close id => s.atHandler id fun h =>
      if h.phase = .closing then some ((s.removeAndCloseSession id).goto id h .clearing) else none
  | .clear id => s.atHandler id fun h =>
      if h.phase = .clearing then some (s.clear id) else none
  | .httpOffer id =>
      if id ∈ s.ids then none
      else
        let opened := s.openPeer (.http id)
        some { opened with
          ids := id :: s.ids
          requests := s.requests.insert id (.building s.peers.length) }
  | .httpBuilt id ok =>
      match s.requests.lookup id with
      | some (.building peer) => some (s.httpBuilt id peer ok)
      | _ => none
  | .httpExchanged id result =>
      match s.requests.lookup id with
      | some (.exchanging peer) => some (s.httpExchanged id peer result)
      | _ => none
  | .httpAnswered id claim =>
      match s.requests.lookup id with
      | some (.answering _) => some (s.httpAnswered id claim)
      | _ => none
  | .cloudOffer id clientId role =>
      if id ∈ s.ids ∨ s.cloud ≠ .idle then none
      else
        let opened := s.openPeer (.cloud id (parseClientId clientId))
        some { opened with
          ids := id :: s.ids
          cloud := .building ⟨id, parseClientId clientId, role, s.peers.length⟩ }
  | .cloudBuilt ok =>
      match s.cloud with
      | .building o => some (s.cloudBuilt o ok)
      | _ => none
  | .cloudExchanged result =>
      match s.cloud with
      | .exchanging o => some (s.cloudExchanged o result)
      | _ => none
  | .cloudAnswered claim sent =>
      match s.cloud with
      | .answering o sd => some (s.cloudAnswered o sd sent claim)
      | _ => none
  | .cloudCandidate id => if s.cloud = .idle then some (s.addIceCandidate id) else none
  -- The connection to the cloud ends, and with it the offer it was answering.
  | .cloudEnded => some { s with cloud := .idle }
  -- Any other end of a session: `session_close`, a takeover, a failed connection.
  | .removed id => some (s.removeAndCloseSession id)
  | .candidate peer c => (s.peers[peer]?).map fun origin => s.foundCandidate peer origin c
  | .fill i => (s.sending[i]?).bind fun t =>
      if t.filled then none
      else some { s with sending := s.sending.set i (s.fillFragment t) }
  | .deliver i cloudOpen => (s.sending[i]?).bind fun t =>
      if t.filled then
        (s.peers[t.peer]?).map fun origin =>
          { s with sending := s.sending.eraseIdx i }.deliverCandidate origin t cloudOpen
      else none

end Signals

end ArkKvm.Trickle
