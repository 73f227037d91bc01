import ArkKvm.Input.Report
import ArkKvm.Lib.Pool
import ArkKvm.Network.Migrate
import ArkKvm.Session.ControlCalls

/-!
# Replies on the `rpc` channel

Every message of the channel gets a task of its own, which runs `handle_message`: it
parses the request, asks the gate when the method carries input, looks the handler up,
waits for it and replies.  Nothing orders the tasks, so replies may come in any order and
the client tells them apart by their ids.

What a handler makes of its parameters is modelled elsewhere; here it may return anything
at any time, or panic.
-/

namespace ArkKvm.Replies

open Lib Lib.Run HidGate ControlLease Input

/-! ## Responses -/

def jsonrpcVersion : String := "2.0"

/-- What the `data` of an error is made of; the order of fields does not matter. -/
inductive ErrorData
  | string (text : String)
  | object (fields : List (String × ErrorData))

def ErrorData.asStr : ErrorData → Option String
  | .string text => some text
  | .object _ => none

def ErrorData.get (key : String) : ErrorData → Option ErrorData
  | .string _ => none
  | .object fields => fields.lookup key

structure JsonRpcError where
  code : Int32
  message : String
  data : Option ErrorData

structure JsonRpcResponse (Value : Type) where
  jsonrpc : String
  result : Option Value
  error : Option JsonRpcError
  id : Option Value

def parseError : JsonRpcError := ⟨-32700, "Parse error", none⟩

def methodNotFound : JsonRpcError := ⟨-32601, "Method not found", none⟩

def internalError (data : Option String) : JsonRpcError :=
  ⟨-32603, "Internal error", data.map .string⟩

def withCode (code : String) : Option ErrorData → ErrorData
  | some (.object fields) =>
      .object (("code", .string code) :: fields.filter fun field => field.1 ≠ "code")
  | some (.string text) => .object [("code", .string code), ("detail", .string text)]
  | none => .object [("code", .string code)]

def applicationError (code message : String) (data : Option ErrorData) : JsonRpcError :=
  ⟨-32001, message, some (withCode code data)⟩

def controlCodes : List String :=
  [controlDenied, controlBusy, controlStale, ControlCalls.mcpDisabled]

def controlErrorData (err : String) : Option ErrorData :=
  (controlCodes.find? (Migrate.contains err)).map fun code =>
    .object [("code", .string code), ("message", .string err)]

def handlerError (err : String) : JsonRpcError :=
  match controlErrorData err with
  | some data =>
      applicationError (((data.get "code").bind ErrorData.asStr).getD "controlError") err
        (some data)
  | none => internalError (some err)

/-- A control code in the text becomes the code of the error; `"controlError"` is never
used. -/
theorem handlerError_cases (err : String) :
    (∃ code ∈ controlCodes, Migrate.contains err code = true ∧
      handlerError err = applicationError code err (controlErrorData err)) ∨
    ((∀ code ∈ controlCodes, ¬ Migrate.contains err code = true) ∧
      handlerError err = internalError (some err)) := by
  unfold handlerError controlErrorData
  cases hfind : controlCodes.find? (Migrate.contains err) with
  | none => exact .inr ⟨List.find?_eq_none.mp hfind, rfl⟩
  | some code =>
      exact .inl ⟨code, List.mem_of_find?_eq_some hfind, List.find?_some hfind, rfl⟩

def hidBlocked : JsonRpcError :=
  applicationError controlDenied "HID blocked: session does not hold control" none

section

variable {Value : Type}

def errorResponse (error : JsonRpcError) (id : Option Value) : JsonRpcResponse Value :=
  ⟨jsonrpcVersion, none, some error, id⟩

def handlerResponse (result : Except String Value) (id : Option Value) :
    JsonRpcResponse Value :=
  match result with
  | .ok value => ⟨jsonrpcVersion, some value, none, id⟩
  | .error err => errorResponse (handlerError err) id

structure JsonRpcResponse.WellFormed (response : JsonRpcResponse Value) : Prop where
  version : response.jsonrpc = jsonrpcVersion
  either : response.result.isSome = !response.error.isSome

theorem errorResponse_wellFormed (error : JsonRpcError) (id : Option Value) :
    (errorResponse error id).WellFormed := ⟨rfl, rfl⟩

theorem handlerResponse_wellFormed (result : Except String Value) (id : Option Value) :
    (handlerResponse result id).WellFormed := by
  cases result with
  | ok value => exact ⟨rfl, rfl⟩
  | error err => exact errorResponse_wellFormed (handlerError err) id

theorem handlerResponse_id (result : Except String Value) (id : Option Value) :
    (handlerResponse result id).id = id := by
  cases result <;> rfl

/-! ## The tasks -/

/-- The parser of requests and the methods that have a handler. -/
structure Processor (Value : Type) where
  fromSlice : Data → Option (JsonRpcRequest Value)
  registered : String → Bool

inductive Stage (Value : Type)
  | spawned
  | received
  -- `allows_hid`
  | lookSession (req : JsonRpcRequest Value)
  | lookSlot (req : JsonRpcRequest Value) (session : Session)
  | lookMcp (req : JsonRpcRequest Value) (session : Session)
  | lockLease (req : JsonRpcRequest Value) (session : Session)
  | dispatch (req : JsonRpcRequest Value)
  | calling (req : JsonRpcRequest Value)
  | replying (response : JsonRpcResponse Value)

abbrev Outcome (Value : Type) := Option (Except String Value)

/-- Only a request with an id is replied to. -/
def reply (req : JsonRpcRequest Value) (response : Option Value → JsonRpcResponse Value) :
    Option (Stage Value) :=
  req.id.map fun id => .replying (response (some id))

/-- One stretch of the task of a message, for the session `id`; `none` is its end. -/
def Stage.run (processor : Processor Value) (id : String) (data : Data) (desk : Desk)
    (outcome : Outcome Value) : Stage Value → Option (Stage Value)
  | .spawned => some .received
  | .received =>
      match processor.fromSlice data with
      | none => some (.replying (errorResponse parseError none))
      | some req => some (if isHidMethod req.method then .lookSession req else .dispatch req)
  | .lookSession req =>
      match desk.app.sessions.lookup id with
      | none => reply req (errorResponse hidBlocked)
      | some session => some (.lookSlot req session)
  | .lookSlot req session =>
      if desk.app.isRoleSlotHolder id then
        some (if session.role = .agent then .lookMcp req session else .lockLease req session)
      else reply req (errorResponse hidBlocked)
  | .lookMcp req session =>
      if desk.mcpEnabled then some (.lockLease req session)
      else reply req (errorResponse hidBlocked)
  | .lockLease req session =>
      if desk.lease.owner = some session.role then some (.dispatch req)
      else reply req (errorResponse hidBlocked)
  | .dispatch req =>
      -- an unknown method is reported even when the request has no id
      some (if processor.registered req.method then .calling req
        else .replying (errorResponse methodNotFound req.id))
  | .calling req => outcome.bind fun result => reply req (handlerResponse result)
  | .replying _ => none

/-- What the handler came to in this stretch. -/
def Stage.returned (outcome : Outcome Value) : Stage Value → List (Outcome Value)
  | .calling _ => [outcome]
  | _ => []

/-- What is sent in this stretch, and whether the channel took it. -/
def Stage.sent (ok : Bool) : Stage Value → List (JsonRpcResponse Value × Bool)
  | .replying response => [(response, ok)]
  | _ => []

structure Task (Value : Type) where
  data : Data
  stage : Option (Stage Value)

/-- `tasks` has a task for each message, oldest first; `returned` and `sends` say what the
handlers came to and what was sent, with the numbers of the messages.  `earlier` are the
states of the server that the gate could read before `desk`. -/
structure State (Value : Type) where
  polling : Bool := true
  tasks : List (Task Value) := []
  desk : Desk := {}
  earlier : List Desk := []
  returned : List (Nat × Outcome Value) := []
  sends : List (Nat × JsonRpcResponse Value × Bool) := []

def State.desks (s : State Value) : List Desk := s.desk :: s.earlier

/-- `outcome` is used when the handler returns and `ok` when a reply is sent. -/
inductive Event (Value : Type)
  | arrive (data : Data)
  | close
  | server (desk : Desk)
  | run (n : Nat) (outcome : Outcome Value) (ok : Bool)

def runTask (processor : Processor Value) (id : String) (n : Nat) (outcome : Outcome Value)
    (ok : Bool) (data : Data) (stage : Stage Value) (s : State Value) : State Value :=
  { s with
    tasks := s.tasks.set n ⟨data, stage.run processor id data s.desk outcome⟩
    returned := s.returned ++ (stage.returned outcome).map (n, ·)
    sends := s.sends ++ (stage.sent ok).map (n, ·) }

def step (processor : Processor Value) (id : String) (s : State Value) :
    Event Value → Option (State Value)
  | .arrive data =>
      if s.polling then some { s with tasks := s.tasks ++ [⟨data, some .spawned⟩] } else none
  | .close => some { s with polling := false }
  | .server desk => some { s with desk := desk, earlier := s.desk :: s.earlier }
  | .run n outcome ok =>
      s.tasks[n]?.bind fun task => task.stage.map fun stage =>
        runTask processor id n outcome ok task.data stage s

/-! ## What a message comes to -/

/-- One of the checks of the gate failed; they read the server one after the other. -/
inductive Blocked (id : String) (desks : List Desk) : Prop
  | noSession {desk : Desk} (hdesk : desk ∈ desks) (hnone : desk.app.sessions.lookup id = none)
  | noSlot {desk : Desk} (hdesk : desk ∈ desks) (hslot : ¬ desk.app.isRoleSlotHolder id = true)
  | noMcp {before desk : Desk} {session : Session} (hbefore : before ∈ desks)
      (hsession : before.app.sessions.lookup id = some session) (hrole : session.role = .agent)
      (hdesk : desk ∈ desks) (hmcp : ¬ desk.mcpEnabled = true)
  | noLease {before desk : Desk} {session : Session} (hbefore : before ∈ desks)
      (hsession : before.app.sessions.lookup id = some session)
      (hdesk : desk ∈ desks) (howner : ¬ desk.lease.owner = some session.role)

inductive Handled (processor : Processor Value) (id : String) (desks : List Desk) (data : Data) :
    List (Outcome Value) → Option (JsonRpcResponse Value) → Prop
  | garbled (hparse : processor.fromSlice data = none) :
      Handled processor id desks data [] (some (errorResponse parseError none))
  | blocked {req : JsonRpcRequest Value} (hparse : processor.fromSlice data = some req)
      (hhid : isHidMethod req.method = true) (hblocked : Blocked id desks) :
      Handled processor id desks data []
        (req.id.map fun rid => errorResponse hidBlocked (some rid))
  | unknown {req : JsonRpcRequest Value} (hparse : processor.fromSlice data = some req)
      (hunknown : ¬ processor.registered req.method = true) :
      Handled processor id desks data [] (some (errorResponse methodNotFound req.id))
  | returned {req : JsonRpcRequest Value} {result : Except String Value}
      (hparse : processor.fromSlice data = some req)
      (hknown : processor.registered req.method = true) :
      Handled processor id desks data [some result]
        (req.id.map fun rid => handlerResponse result (some rid))
  | panicked {req : JsonRpcRequest Value} (hparse : processor.fromSlice data = some req)
      (hknown : processor.registered req.method = true) :
      Handled processor id desks data [none] none

variable {processor : Processor Value} {id : String} {desks desks' : List Desk} {data : Data}
  {returned : List (Outcome Value)} {sends : List (JsonRpcResponse Value × Bool)}

theorem Blocked.mono (h : Blocked id desks) (hsub : desks ⊆ desks') : Blocked id desks' := by
  cases h with
  | noSession hdesk hnone => exact .noSession (hsub hdesk) hnone
  | noSlot hdesk hslot => exact .noSlot (hsub hdesk) hslot
  | noMcp hbefore hsession hrole hdesk hmcp =>
      exact .noMcp (hsub hbefore) hsession hrole (hsub hdesk) hmcp
  | noLease hbefore hsession hdesk howner =>
      exact .noLease (hsub hbefore) hsession (hsub hdesk) howner

theorem Handled.mono {response : Option (JsonRpcResponse Value)}
    (h : Handled processor id desks data returned response) (hsub : desks ⊆ desks') :
    Handled processor id desks' data returned response := by
  cases h with
  | garbled hparse => exact .garbled hparse
  | blocked hparse hhid hblocked => exact .blocked hparse hhid (hblocked.mono hsub)
  | unknown hparse hunknown => exact .unknown hparse hunknown
  | returned hparse hknown => exact .returned hparse hknown
  | panicked hparse hknown => exact .panicked hparse hknown

theorem Handled.length_le {response : Option (JsonRpcResponse Value)}
    (h : Handled processor id desks data returned response) : returned.length ≤ 1 := by
  cases h <;> simp

theorem Handled.wellFormed {response : JsonRpcResponse Value}
    (h : Handled processor id desks data returned (some response)) : response.WellFormed := by
  generalize hreply : some response = r at h
  cases h with
  | garbled _ | unknown _ _ =>
      cases hreply
      exact errorResponse_wellFormed _ _
  | blocked _ _ _ =>
      obtain ⟨rid, -, rfl⟩ := Option.map_eq_some_iff.mp hreply.symm
      exact errorResponse_wellFormed _ _
  | returned _ _ =>
      obtain ⟨rid, -, rfl⟩ := Option.map_eq_some_iff.mp hreply.symm
      exact handlerResponse_wellFormed _ _
  | panicked _ _ => cases hreply

theorem Handled.id_eq {response : JsonRpcResponse Value} {req : JsonRpcRequest Value}
    (h : Handled processor id desks data returned (some response))
    (hparse : processor.fromSlice data = some req) : response.id = req.id := by
  generalize hreply : some response = r at h
  cases h with
  | garbled hnone =>
      rw [hparse] at hnone
      cases hnone
  | blocked hsame _ _ =>
      obtain rfl := Option.some.inj (hparse.symm.trans hsame)
      obtain ⟨rid, hid, rfl⟩ := Option.map_eq_some_iff.mp hreply.symm
      exact hid.symm
  | unknown hsame _ =>
      obtain rfl := Option.some.inj (hparse.symm.trans hsame)
      cases hreply
      rfl
  | returned hsame _ =>
      obtain rfl := Option.some.inj (hparse.symm.trans hsame)
      obtain ⟨rid, hid, rfl⟩ := Option.map_eq_some_iff.mp hreply.symm
      rw [handlerResponse_id]
      exact hid.symm
  | panicked _ _ => cases hreply

/-! ## One stretch -/

def Stage.Holds (processor : Processor Value) (id : String) (desks : List Desk) (data : Data)
    (returned : List (Outcome Value)) : Stage Value → Prop
  | .spawned | .received => returned = []
  | .lookSession req =>
      processor.fromSlice data = some req ∧ isHidMethod req.method = true ∧ returned = []
  | .lookSlot req session | .lockLease req session =>
      processor.fromSlice data = some req ∧ isHidMethod req.method = true ∧ returned = [] ∧
        ∃ desk ∈ desks, desk.app.sessions.lookup id = some session
  | .lookMcp req session =>
      processor.fromSlice data = some req ∧ isHidMethod req.method = true ∧ returned = [] ∧
        session.role = .agent ∧ ∃ desk ∈ desks, desk.app.sessions.lookup id = some session
  | .dispatch req => processor.fromSlice data = some req ∧ returned = []
  | .calling req =>
      processor.fromSlice data = some req ∧ processor.registered req.method = true ∧ returned = []
  | .replying response => Handled processor id desks data returned (some response)

/-- A task that goes on has sent nothing; one that is over has handled its message. -/
def Fits (processor : Processor Value) (id : String) (desks : List Desk) (data : Data)
    (returned : List (Outcome Value)) (sends : List (JsonRpcResponse Value × Bool)) :
    Option (Stage Value) → Prop
  | some stage => stage.Holds processor id desks data returned ∧ sends = []
  | none => ∃ response, Handled processor id desks data returned response ∧
      sends.map Prod.fst = response.toList

theorem Stage.Holds.mono {stage : Stage Value}
    (h : stage.Holds processor id desks data returned) (hsub : desks ⊆ desks') :
    stage.Holds processor id desks' data returned := by
  cases stage with
  | spawned | received | lookSession _ | dispatch _ | calling _ => exact h
  | lookSlot req session | lockLease req session =>
      obtain ⟨hparse, hhid, hreturned, desk, hdesk, hsession⟩ := h
      exact ⟨hparse, hhid, hreturned, desk, hsub hdesk, hsession⟩
  | lookMcp req session =>
      obtain ⟨hparse, hhid, hreturned, hrole, desk, hdesk, hsession⟩ := h
      exact ⟨hparse, hhid, hreturned, hrole, desk, hsub hdesk, hsession⟩
  | replying response => exact Handled.mono h hsub

theorem Fits.mono {stage : Option (Stage Value)}
    (h : Fits processor id desks data returned sends stage) (hsub : desks ⊆ desks') :
    Fits processor id desks' data returned sends stage := by
  cases stage with
  | some stage => exact ⟨h.1.mono hsub, h.2⟩
  | none =>
      obtain ⟨response, hhandled, hsends⟩ := h
      exact ⟨response, hhandled.mono hsub, hsends⟩

theorem reply_fits {req : JsonRpcRequest Value}
    {response : Option Value → JsonRpcResponse Value}
    (h : Handled processor id desks data returned
      (req.id.map fun rid => response (some rid))) :
    Fits processor id desks data returned [] (reply req response) := by
  unfold reply
  cases hid : req.id with
  | none =>
      rw [hid] at h
      exact ⟨none, h, rfl⟩
  | some rid =>
      rw [hid] at h
      exact ⟨h, rfl⟩

theorem Stage.run_fits {stage : Stage Value} (h : stage.Holds processor id desks data returned)
    {desk : Desk} (hdesk : desk ∈ desks) (outcome : Outcome Value) (ok : Bool) :
    Fits processor id desks data (returned ++ stage.returned outcome) (stage.sent ok)
      (stage.run processor id data desk outcome) := by
  cases stage with
  | spawned =>
      obtain rfl := h
      exact ⟨rfl, rfl⟩
  | received =>
      obtain rfl := h
      simp only [Stage.run]
      cases hparse : processor.fromSlice data with
      | none => exact ⟨.garbled hparse, rfl⟩
      | some req =>
          by_cases hhid : isHidMethod req.method = true
          · simp only [if_pos hhid]
            exact ⟨⟨hparse, hhid, rfl⟩, rfl⟩
          · simp only [if_neg hhid]
            exact ⟨⟨hparse, rfl⟩, rfl⟩
  | lookSession req =>
      obtain ⟨hparse, hhid, rfl⟩ := h
      simp only [Stage.run]
      cases hsession : desk.app.sessions.lookup id with
      | none => exact reply_fits (.blocked hparse hhid (.noSession hdesk hsession))
      | some session => exact ⟨⟨hparse, hhid, rfl, desk, hdesk, hsession⟩, rfl⟩
  | lookSlot req session =>
      obtain ⟨hparse, hhid, rfl, hseen⟩ := h
      simp only [Stage.run]
      by_cases hslot : desk.app.isRoleSlotHolder id = true
      · rw [if_pos hslot]
        by_cases hrole : session.role = .agent
        · rw [if_pos hrole]
          exact ⟨⟨hparse, hhid, rfl, hrole, hseen⟩, rfl⟩
        · rw [if_neg hrole]
          exact ⟨⟨hparse, hhid, rfl, hseen⟩, rfl⟩
      · rw [if_neg hslot]
        exact reply_fits (.blocked hparse hhid (.noSlot hdesk hslot))
  | lookMcp req session =>
      obtain ⟨hparse, hhid, rfl, hrole, before, hbefore, hsession⟩ := h
      simp only [Stage.run]
      by_cases hmcp : desk.mcpEnabled = true
      · rw [if_pos hmcp]
        exact ⟨⟨hparse, hhid, rfl, before, hbefore, hsession⟩, rfl⟩
      · rw [if_neg hmcp]
        exact reply_fits (.blocked hparse hhid (.noMcp hbefore hsession hrole hdesk hmcp))
  | lockLease req session =>
      obtain ⟨hparse, hhid, rfl, before, hbefore, hsession⟩ := h
      simp only [Stage.run]
      by_cases howner : desk.lease.owner = some session.role
      · rw [if_pos howner]
        exact ⟨⟨hparse, rfl⟩, rfl⟩
      · rw [if_neg howner]
        exact reply_fits (.blocked hparse hhid (.noLease hbefore hsession hdesk howner))
  | dispatch req =>
      obtain ⟨hparse, rfl⟩ := h
      simp only [Stage.run]
      by_cases hknown : processor.registered req.method = true
      · rw [if_pos hknown]
        exact ⟨⟨hparse, hknown, rfl⟩, rfl⟩
      · rw [if_neg hknown]
        exact ⟨.unknown hparse hknown, rfl⟩
  | calling req =>
      obtain ⟨hparse, hknown, rfl⟩ := h
      cases outcome with
      | none => exact ⟨none, .panicked hparse hknown, rfl⟩
      | some result => exact reply_fits (.returned hparse hknown)
  | replying response =>
      rw [show returned ++ (Stage.replying response).returned outcome = returned from
        List.append_nil returned]
      exact ⟨some response, h, rfl⟩

/-! ## Runs -/

variable {s s' : State Value}

/-- Every message is handled once: its task sends nothing before it is over, and then it has
sent what its message comes to and no more. -/
structure Answered (processor : Processor Value) (id : String) (s : State Value) : Prop where
  once : ∀ n, (Pool.tagged n s.returned).length ≤ 1 ∧ (Pool.tagged n s.sends).length ≤ 1
  replies : ∀ r ∈ s.sends, r.2.1.WellFormed ∧ ∃ task, s.tasks[r.1]? = some task ∧
    ∀ req, processor.fromSlice task.data = some req → r.2.1.id = req.id
  early : ∀ n task, s.tasks[n]? = some task → task.stage.isSome = true →
    Pool.tagged n s.sends = []
  finished : ∀ n task, s.tasks[n]? = some task → task.stage = none →
    ∃ response, Handled processor id s.desks task.data (Pool.tagged n s.returned) response ∧
      (Pool.tagged n s.sends).map Prod.fst = response.toList

/-- All tasks fit, and nothing is there for messages still to come. -/
structure Tracked (processor : Processor Value) (id : String) (s : State Value) : Prop where
  fits : ∀ n task, s.tasks[n]? = some task →
    Fits processor id s.desks task.data (Pool.tagged n s.returned) (Pool.tagged n s.sends)
      task.stage
  fresh : ∀ n, s.tasks.length ≤ n →
    Pool.tagged n s.returned = [] ∧ Pool.tagged n s.sends = []

theorem Fits.length_le {stage : Option (Stage Value)}
    (h : Fits processor id desks data returned sends stage) :
    returned.length ≤ 1 ∧ sends.length ≤ 1 := by
  cases stage with
  | none =>
      obtain ⟨response, hhandled, hsends⟩ := h
      refine ⟨hhandled.length_le, ?_⟩
      have hlen := congrArg List.length hsends
      rw [List.length_map] at hlen
      rw [hlen]
      cases response <;> simp
  | some stage =>
      obtain ⟨hholds, rfl⟩ := h
      refine ⟨?_, Nat.zero_le 1⟩
      cases stage with
      | spawned | received =>
          obtain rfl := hholds
          exact Nat.zero_le 1
      | lookSession _ | calling _ =>
          obtain ⟨-, -, rfl⟩ := hholds
          exact Nat.zero_le 1
      | lookSlot _ _ | lockLease _ _ | lookMcp _ _ =>
          obtain ⟨-, -, rfl, -⟩ := hholds
          exact Nat.zero_le 1
      | dispatch _ =>
          obtain ⟨-, rfl⟩ := hholds
          exact Nat.zero_le 1
      | replying _ => exact Handled.length_le hholds

theorem Fits.handled {stage : Option (Stage Value)}
    (h : Fits processor id desks data returned sends stage)
    {r : JsonRpcResponse Value × Bool} (hr : r ∈ sends) :
    Handled processor id desks data returned (some r.1) := by
  cases stage with
  | some stage =>
      rw [h.2] at hr
      cases hr
  | none =>
      obtain ⟨response, hhandled, hsends⟩ := h
      have hmem : r.1 ∈ response.toList := hsends ▸ List.mem_map_of_mem hr
      rw [Option.mem_toList] at hmem
      exact hmem ▸ hhandled

theorem Tracked.answered (h : Tracked processor id s) : Answered processor id s := by
  refine ⟨fun n => ?_, fun r hr => ?_, fun n task hn hrunning => ?_, fun n task hn hfinished => ?_⟩
  · rcases Nat.lt_or_ge n s.tasks.length with hlt | hge
    · exact (h.fits n s.tasks[n] (List.getElem?_eq_getElem hlt)).length_le
    · obtain ⟨hreturned, hsends⟩ := h.fresh n hge
      rw [hreturned, hsends]
      exact ⟨Nat.zero_le 1, Nat.zero_le 1⟩
  · have hmem : r.2 ∈ Pool.tagged r.1 s.sends := Pool.mem_tagged.mpr hr
    rcases Nat.lt_or_ge r.1 s.tasks.length with hlt | hge
    · have htask := List.getElem?_eq_getElem hlt
      have hhandled := (h.fits r.1 s.tasks[r.1] htask).handled hmem
      exact ⟨hhandled.wellFormed, s.tasks[r.1], htask, fun req hparse => hhandled.id_eq hparse⟩
    · rw [(h.fresh r.1 hge).2] at hmem
      cases hmem
  · obtain ⟨stage, hstage⟩ := Option.isSome_iff_exists.mp hrunning
    have hfits := h.fits n task hn
    rw [hstage] at hfits
    exact hfits.2
  · have hfits := h.fits n task hn
    rw [hfinished] at hfits
    exact hfits

theorem Tracked.arrive (h : Tracked processor id s) (data : Data) :
    Tracked processor id { s with tasks := s.tasks ++ [⟨data, some .spawned⟩] } := by
  refine ⟨fun n task hn => ?_, fun n hn => ?_⟩
  · rcases Nat.lt_trichotomy n s.tasks.length with hlt | rfl | hgt
    · rw [List.getElem?_append_left hlt] at hn
      exact h.fits n task hn
    · rw [List.getElem?_concat_length] at hn
      obtain rfl := Option.some.inj hn
      exact h.fresh s.tasks.length le_rfl
    · rw [List.getElem?_eq_none (by simpa using hgt)] at hn
      cases hn
  · rw [List.length_append] at hn
    exact h.fresh n (by omega)

theorem Tracked.run (h : Tracked processor id s) {n : Nat} {task : Task Value}
    {stage : Stage Value} (hn : s.tasks[n]? = some task) (hstage : task.stage = some stage)
    (outcome : Outcome Value) (ok : Bool) :
    Tracked processor id (runTask processor id n outcome ok task.data stage s) := by
  obtain ⟨hlt, -⟩ := List.getElem?_eq_some_iff.mp hn
  have hfits := h.fits n task hn
  rw [hstage] at hfits
  obtain ⟨hholds, hsends⟩ := hfits
  have hown := Stage.run_fits hholds (List.mem_cons_self : s.desk ∈ s.desks) outcome ok
  refine ⟨fun m other hm => ?_, fun m hm => ?_⟩
  · simp only [runTask] at hm ⊢
    rcases eq_or_ne n m with rfl | hne
    · rw [List.getElem?_set_self hlt] at hm
      obtain rfl := Option.some.inj hm
      rw [Pool.tagged_append, Pool.tagged_append, Pool.tagged_map_self, Pool.tagged_map_self,
        hsends, List.nil_append]
      exact hown
    · rw [List.getElem?_set_ne hne] at hm
      rw [Pool.tagged_append, Pool.tagged_append, Pool.tagged_map_of_ne hne,
        Pool.tagged_map_of_ne hne, List.append_nil, List.append_nil]
      exact h.fits m other hm
  · simp only [runTask, List.length_set] at hm ⊢
    have hne : n ≠ m := by omega
    rw [Pool.tagged_append, Pool.tagged_append, Pool.tagged_map_of_ne hne,
      Pool.tagged_map_of_ne hne, List.append_nil, List.append_nil]
    exact h.fresh m hm

theorem Tracked.step {e : Event Value} (h : Tracked processor id s)
    (hstep : step processor id s e = some s') : Tracked processor id s' := by
  cases e with
  | arrive data =>
      simp only [Replies.step] at hstep
      by_cases hpolling : s.polling = true
      · rw [if_pos hpolling] at hstep
        cases hstep
        exact h.arrive data
      · rw [if_neg hpolling] at hstep
        cases hstep
  | close =>
      cases hstep
      exact ⟨h.fits, h.fresh⟩
  | server desk =>
      cases hstep
      exact ⟨fun n task hn => (h.fits n task hn).mono (List.subset_cons_self desk s.desks),
        h.fresh⟩
  | run n outcome ok =>
      obtain ⟨task, hn, hrest⟩ := Option.bind_eq_some_iff.mp hstep
      obtain ⟨stage, hstage, rfl⟩ := Option.map_eq_some_iff.mp hrest
      exact h.run hn hstage outcome ok

end

/-- In every run, each message of the channel is handled by at most one call and replied to
at most once, and a task that is over has sent exactly the reply that its message asks
for. -/
theorem requests_answered {Value : Type} {processor : Processor Value} {id : String}
    {s : State Value} (h : Reach (step processor id) anyStep {} s) : Answered processor id s := by
  have htracked : Tracked processor id s := by
    refine Reach.invariant (P := Tracked processor id) ?_ (fun _ _ _ hs _ hstep => hs.step hstep) h
    exact ⟨fun n task hn => by simp at hn, fun n _ => ⟨rfl, rfl⟩⟩
  exact htracked.answered

def bytes (s : String) : Data := s.toList.map fun c => c.toNat.toUInt8

def pingText : Data := bytes "\x7b\"jsonrpc\":\"2.0\",\"method\":\"ping\",\"id\":1\x7d"

/-- A wheel report with an id. -/
def wheelText : Data := bytes "\x7b\"jsonrpc\":\"2.0\",\"method\":\"wheelReport\",\"id\":2\x7d"

/-- Two requests are known; values are texts. -/
def twoRequests : Processor String where
  fromSlice data :=
    if data = pingText then some ⟨"2.0", "ping", none, some "1"⟩
    else if data = wheelText then some ⟨"2.0", "wheelReport", none, some "2"⟩
    else none
  registered method := method = "ping" || isHidMethod method

/-- Input without a session is turned away before the older ping is answered. -/
theorem requests_answered_two :
    ∃ s, Reach (step twoRequests "user-1") anyStep {} s ∧
      (s.sends.map fun r => (r.1, r.2.1.id, r.2.1.error.map JsonRpcError.message)) =
        [(1, some "2", some "HID blocked: session does not hold control"), (0, some "1", none)] ∧
      Answered twoRequests "user-1" s := by
  have hexec : (exec (step twoRequests "user-1") (fun _ _ => true) {}
      ([.arrive pingText, .arrive wheelText] ++ List.replicate 4 (.run 1 none true) ++
        List.replicate 5 (.run 0 (some (.ok "pong")) true))).map
          (fun s => s.sends.map fun r => (r.1, r.2.1.id, r.2.1.error.map JsonRpcError.message)) =
      some [(1, some "2", some "HID blocked: session does not hold control"),
        (0, some "1", none)] := by
    decide +kernel
  obtain ⟨s, hs, hsends⟩ := exists_reach_of_exec (fun _ _ _ => trivial) hexec
  exact ⟨s, hs, hsends, requests_answered hs⟩

end ArkKvm.Replies
