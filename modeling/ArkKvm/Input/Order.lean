import ArkKvm.Input.Report
import ArkKvm.Lib.Pool
import ArkKvm.Lib.Run
import ArkKvm.Session.Gate

/-!
# The order of input reports

The poll loop of a data channel takes the messages in the order of their arrival and
spawns a task for each; on the `rpc` channel that task spawns the one that handles the
message.  From then on the tasks share nothing that orders them: each goes through the
gate, which takes one lock after the other, and puts its report when it gets there.

What the rest of the server does meanwhile is an event that replaces what the gate
reads.  Replies to the client are left out.
-/

namespace ArkKvm.Input

open Lib Lib.Run HidGate

/-- The channels with input, by the way in which their messages are handed to a task:
`rpc`, and `input` or `input_unstable`. -/
inductive Channel
  | rpc
  | input
deriving DecidableEq

section

variable {Value : Type}

inductive Stage (Value : Type)
  | spawned
  | received
  -- `allows_hid`
  | lookSession (req : JsonRpcRequest Value)
  | lookSlot (req : JsonRpcRequest Value) (session : Session)
  | lookMcp (req : JsonRpcRequest Value) (session : Session)
  | lockLease (req : JsonRpcRequest Value) (session : Session)
  -- the handler of the method
  | dispatch (req : JsonRpcRequest Value)
  | put (report : Report)

def Channel.firstStage : Channel → Stage Value
  | .rpc => .spawned
  | .input => .received

inductive Next (Value : Type)
  | next (stage : Stage Value)
  | put (report : Report)
  | done

/-- One stretch of the task of a message, for the session `id`; `usb` tells whether the
USB client is there. -/
def Stage.run (serde : Serde Value) (id : String) (data : Data) (desk : Desk) (usb : Bool) :
    Stage Value → Next Value
  | .spawned => .next .received
  | .received =>
      match serde.fromSlice data with
      | none => .done
      | some req => .next (if isHidMethod req.method then .lookSession req else .dispatch req)
  | .lookSession req =>
      match desk.app.sessions.lookup id with
      | none => .done
      | some session => .next (.lookSlot req session)
  | .lookSlot req session =>
      if desk.app.isRoleSlotHolder id then
        .next (if session.role = .agent then .lookMcp req session else .lockLease req session)
      else .done
  | .lookMcp req session => if desk.mcpEnabled then .next (.lockLease req session) else .done
  | .lockLease req session =>
      if desk.lease.owner = some session.role then .next (.dispatch req) else .done
  | .dispatch req =>
      match callAsync serde req with
      | some (.ok report) => if usb then .next (.put report) else .done
      | _ => .done
  | .put report => .put report

structure Task (Value : Type) where
  number : Nat
  data : Data
  stage : Stage Value

/-- `arrived` holds the messages of the channel and `delivered` the reports with the
numbers of their messages, both oldest first. -/
structure State (Value : Type) where
  polling : Bool := true
  arrived : List Data := []
  tasks : List (Task Value) := []
  desk : Desk := {}
  usb : Bool := false
  delivered : List (Nat × Report) := []

/-- `sent` is the outcome of the put when the task makes one. -/
inductive Event
  | arrive (data : Data)
  | close
  | server (desk : Desk)
  | usbReady
  | run (i : Nat) (sent : Bool)

def runTask (serde : Serde Value) (id : String) (i : Nat) (sent : Bool) (task : Task Value)
    (s : State Value) : State Value :=
  match task.stage.run serde id task.data s.desk s.usb with
  | .next stage => { s with tasks := s.tasks.set i { task with stage := stage } }
  | .put report =>
      { s with
        tasks := s.tasks.eraseIdx i
        delivered := if sent then s.delivered ++ [(task.number, report)] else s.delivered }
  | .done => { s with tasks := s.tasks.eraseIdx i }

def step (serde : Serde Value) (channel : Channel) (id : String) (s : State Value) :
    Event → Option (State Value)
  | .arrive data =>
      if s.polling then
        some { s with
          arrived := s.arrived ++ [data]
          tasks := s.tasks ++ [⟨s.arrived.length, data, channel.firstStage⟩] }
      else none
  | .close => some { s with polling := false }
  | .server desk => some { s with desk := desk }
  | .usbReady => some { s with usb := true }
  | .run i sent => s.tasks[i]?.map fun task => runTask serde id i sent task s

/-- A keyboard or mouse report is put when no older message with such a report is still
being processed. -/
def OldestFirst (serde : Serde Value) (s : State Value) : Event → Prop
  | .run i true => ∀ task ∈ s.tasks[i]?, ∀ report, task.stage = .put report →
      report.isInput = true →
      ∀ older ∈ s.tasks, older.number < task.number → carriesInput serde older.data = false
  | _ => True

def State.inputs (s : State Value) : List (Nat × Report) :=
  s.delivered.filter fun d => d.2.isInput

/-- The reports were delivered in the order of their messages, and each is the one that its
message carries. -/
structure InArrivalOrder (serde : Serde Value) (s : State Value) : Prop where
  order : s.inputs.Pairwise fun a b => a.1 < b.1
  derived : ∀ d ∈ s.inputs, ∃ data, s.arrived[d.1]? = some data ∧ reportOf serde data = some d.2

/-! ## What a task knows of its message -/

variable {serde : Serde Value} {s s' : State Value}

def Stage.Holds (serde : Serde Value) (data : Data) : Stage Value → Prop
  | .spawned | .received => True
  | .lookSession req | .lookSlot req _ | .lookMcp req _ | .lockLease req _ | .dispatch req =>
      serde.fromSlice data = some req
  | .put report => reportOf serde data = some report

theorem Stage.holds_first (channel : Channel) (data : Data) :
    channel.firstStage.Holds serde data := by
  cases channel <;> trivial

def Next.Follows (serde : Serde Value) (data : Data) (stage : Stage Value) : Next Value → Prop
  | .next stage' => stage'.Holds serde data
  | .put report => stage = .put report ∧ reportOf serde data = some report
  | .done => True

/-- A task carries what its message says from one stage to the next, and only the last one
puts a report. -/
theorem Stage.run_follows {stage : Stage Value} {data : Data} (h : stage.Holds serde data)
    (id : String) (desk : Desk) (usb : Bool) :
    (stage.run serde id data desk usb).Follows serde data stage := by
  cases stage with
  | spawned => exact trivial
  | received =>
      simp only [Stage.run]
      cases hparse : serde.fromSlice data with
      | none => exact trivial
      | some req =>
          by_cases hhid : isHidMethod req.method = true
          · simp only [if_pos hhid]
            exact hparse
          · simp only [if_neg hhid]
            exact hparse
  | lookSession req =>
      simp only [Stage.run]
      cases desk.app.sessions.lookup id with
      | none => exact trivial
      | some session => exact h
  | lookSlot req session =>
      simp only [Stage.run]
      by_cases hslot : desk.app.isRoleSlotHolder id = true
      · rw [if_pos hslot]
        by_cases hrole : session.role = .agent
        · rw [if_pos hrole]
          exact h
        · rw [if_neg hrole]
          exact h
      · rw [if_neg hslot]
        exact trivial
  | lookMcp req session =>
      simp only [Stage.run]
      by_cases hmcp : desk.mcpEnabled = true
      · rw [if_pos hmcp]
        exact h
      · rw [if_neg hmcp]
        exact trivial
  | lockLease req session =>
      simp only [Stage.run]
      by_cases howner : desk.lease.owner = some session.role
      · rw [if_pos howner]
        exact h
      · rw [if_neg howner]
        exact trivial
  | dispatch req =>
      have hparse : serde.fromSlice data = some req := h
      simp only [Stage.run]
      cases hcall : callAsync serde req with
      | none => exact trivial
      | some outcome =>
          cases outcome with
          | error e => exact trivial
          | ok report =>
              cases usb with
              | false => exact trivial
              | true => simp [Next.Follows, Stage.Holds, reportOf, requestReport, hparse, hcall,
                  Except.toOption]
  | put report => exact ⟨rfl, h⟩

/-! ## Runs -/

/-- The tasks stand in the order of their messages, and no delivered report is newer than
one that is still on its way. -/
structure Tracked (serde : Serde Value) (s : State Value) : Prop where
  message : ∀ t ∈ s.tasks, s.arrived[t.number]? = some t.data ∧ t.stage.Holds serde t.data
  numbers : (s.tasks.map Task.number).Pairwise (· < ·)
  behind : ∀ d ∈ s.inputs, ∀ t ∈ s.tasks, carriesInput serde t.data = true → d.1 < t.number
  delivered : InArrivalOrder serde s

theorem Tracked.number_lt (h : Tracked serde s) {t : Task Value} (ht : t ∈ s.tasks) :
    t.number < s.arrived.length :=
  (List.getElem?_eq_some_iff.mp (h.message t ht).1).1

theorem InArrivalOrder.number_lt (h : InArrivalOrder serde s) {d : Nat × Report}
    (hd : d ∈ s.inputs) : d.1 < s.arrived.length := by
  obtain ⟨data, hdata, -⟩ := h.derived d hd
  exact (List.getElem?_eq_some_iff.mp hdata).1

theorem Tracked.arrive (h : Tracked serde s) (channel : Channel) (data : Data) :
    Tracked serde { s with
      arrived := s.arrived ++ [data]
      tasks := s.tasks ++ [⟨s.arrived.length, data, channel.firstStage⟩] } := by
  refine ⟨fun t ht => ?_, ?_, fun d hd t ht hcarries => ?_, h.delivered.order, fun d hd => ?_⟩
  · rcases List.mem_append.mp ht with hold | hnew
    · obtain ⟨hdata, hholds⟩ := h.message t hold
      refine ⟨?_, hholds⟩
      rw [← hdata]
      exact List.getElem?_append_left (h.number_lt hold)
    · obtain rfl := List.mem_singleton.mp hnew
      exact ⟨List.getElem?_concat_length, Stage.holds_first channel data⟩
  · rw [List.map_append, List.pairwise_append]
    refine ⟨h.numbers, List.pairwise_singleton _ _, fun n hn m hm => ?_⟩
    obtain ⟨t, ht, rfl⟩ := List.mem_map.mp hn
    obtain rfl : m = s.arrived.length := by simpa using hm
    exact h.number_lt ht
  · rcases List.mem_append.mp ht with hold | hnew
    · exact h.behind d hd t hold hcarries
    · obtain rfl := List.mem_singleton.mp hnew
      exact h.delivered.number_lt hd
  · obtain ⟨data', hdata, hreport⟩ := h.delivered.derived d hd
    refine ⟨data', ?_, hreport⟩
    rw [← hdata]
    exact List.getElem?_append_left (h.delivered.number_lt hd)

theorem Tracked.erase (h : Tracked serde s) (i : Nat) :
    Tracked serde { s with tasks := s.tasks.eraseIdx i } := by
  have hmem : ∀ t ∈ s.tasks.eraseIdx i, t ∈ s.tasks := fun t ht => List.mem_of_mem_eraseIdx ht
  have hnumbers := h.numbers.sublist ((List.eraseIdx_sublist s.tasks i).map Task.number)
  exact ⟨fun t ht => h.message t (hmem t ht), hnumbers,
    fun d hd t ht => h.behind d hd t (hmem t ht), h.delivered.order, h.delivered.derived⟩

theorem Tracked.set (h : Tracked serde s) {i : Nat} {task : Task Value}
    (hi : s.tasks[i]? = some task) {stage : Stage Value} (hholds : stage.Holds serde task.data) :
    Tracked serde { s with tasks := s.tasks.set i { task with stage := stage } } := by
  have htask : task ∈ s.tasks := List.mem_of_getElem? hi
  obtain ⟨hlt, hget⟩ := List.getElem?_eq_some_iff.mp hi
  have hnumbers : (s.tasks.set i { task with stage := stage }).map Task.number =
      s.tasks.map Task.number := by
    rw [List.map_set]
    subst hget
    have hlt' : i < (s.tasks.map Task.number).length := by simpa using hlt
    have hsame := List.set_getElem_self hlt'
    rwa [List.getElem_map] at hsame
  refine ⟨fun t ht => ?_, ?_, fun d hd t ht hcarries => ?_, h.delivered.order,
    h.delivered.derived⟩
  · rcases List.mem_or_eq_of_mem_set ht with hold | rfl
    · exact h.message t hold
    · exact ⟨(h.message task htask).1, hholds⟩
  · rw [hnumbers]
    exact h.numbers
  · rcases List.mem_or_eq_of_mem_set ht with hold | rfl
    · exact h.behind d hd t hold hcarries
    · exact h.behind d hd task htask hcarries

theorem Tracked.ne_of_mem_eraseIdx (h : Tracked serde s) {i : Nat} {task t : Task Value}
    (hi : s.tasks[i]? = some task) (ht : t ∈ s.tasks.eraseIdx i) : t.number ≠ task.number := by
  have hpick : Pool.pick i s.tasks = some (task, s.tasks.eraseIdx i) := by
    rw [Pool.pick, hi]
    rfl
  obtain ⟨hpool, hrest⟩ := Pool.pick_split hpick
  have hnumbers := h.numbers
  rw [hpool, List.map_append, List.map_cons, List.pairwise_append] at hnumbers
  obtain ⟨-, hnewer, holder⟩ := hnumbers
  rw [hrest, List.mem_append] at ht
  rcases ht with ht | ht
  · have hlt := holder t.number (List.mem_map_of_mem ht) task.number List.mem_cons_self
    omega
  · have hlt := (List.pairwise_cons.mp hnewer).1 t.number (List.mem_map_of_mem ht)
    omega

theorem Tracked.put (h : Tracked serde s) {i : Nat} {task : Task Value} {report : Report}
    (hi : s.tasks[i]? = some task) (hreport : reportOf serde task.data = some report)
    (holdest : report.isInput = true → ∀ older ∈ s.tasks, older.number < task.number →
      carriesInput serde older.data = false) :
    Tracked serde { s with
      tasks := s.tasks.eraseIdx i
      delivered := s.delivered ++ [(task.number, report)] } := by
  have herase := h.erase i
  by_cases hinput : report.isInput = true
  · have htask : task ∈ s.tasks := List.mem_of_getElem? hi
    have hcarries : carriesInput serde task.data = true := by simp [carriesInput, hreport, hinput]
    have hinputs : State.inputs { s with
        tasks := s.tasks.eraseIdx i
        delivered := s.delivered ++ [(task.number, report)] } =
          s.inputs ++ [(task.number, report)] := by
      simp [State.inputs, hinput]
    refine ⟨herase.message, herase.numbers, fun d hd t ht hcarried => ?_, ?_, fun d hd => ?_⟩
    · rw [hinputs, List.mem_append, List.mem_singleton] at hd
      rcases hd with hold | rfl
      · exact herase.behind d hold t ht hcarried
      · -- what is left of the same kind is newer
        have hne := h.ne_of_mem_eraseIdx hi ht
        have hnewer : ¬ t.number < task.number := by
          intro holder
          have hnone := holdest hinput t (List.mem_of_mem_eraseIdx ht) holder
          rw [hcarried] at hnone
          cases hnone
        simp only
        omega
    · rw [hinputs, List.pairwise_append]
      refine ⟨h.delivered.order, List.pairwise_singleton _ _, fun d hd d' hd' => ?_⟩
      obtain rfl := List.mem_singleton.mp hd'
      exact h.behind d hd task htask hcarries
    · rw [hinputs, List.mem_append, List.mem_singleton] at hd
      rcases hd with hold | rfl
      · exact h.delivered.derived d hold
      · exact ⟨task.data, (h.message task htask).1, hreport⟩
  · have hinputs : State.inputs { s with
        tasks := s.tasks.eraseIdx i
        delivered := s.delivered ++ [(task.number, report)] } = s.inputs := by
      simp [State.inputs, hinput]
    refine ⟨herase.message, herase.numbers, ?_, ?_, ?_⟩
    · rw [hinputs]
      exact herase.behind
    · rw [hinputs]
      exact h.delivered.order
    · rw [hinputs]
      exact h.delivered.derived

theorem Tracked.step {channel : Channel} {id : String} {e : Event} (h : Tracked serde s)
    (hok : OldestFirst serde s e) (hstep : step serde channel id s e = some s') :
    Tracked serde s' := by
  cases e with
  | arrive data =>
      simp only [Input.step] at hstep
      by_cases hpolling : s.polling = true
      · rw [if_pos hpolling] at hstep
        cases hstep
        exact h.arrive channel data
      · rw [if_neg hpolling] at hstep
        cases hstep
  | close | server desk | usbReady =>
      cases hstep
      exact ⟨h.message, h.numbers, h.behind, h.delivered.order, h.delivered.derived⟩
  | run i sent =>
      obtain ⟨task, hi, rfl⟩ := Option.map_eq_some_iff.mp hstep
      have hholds := (h.message task (List.mem_of_getElem? hi)).2
      have hfollows := Stage.run_follows hholds id s.desk s.usb
      unfold runTask
      cases hrun : task.stage.run serde id task.data s.desk s.usb with
      | done => exact h.erase i
      | next stage =>
          rw [hrun] at hfollows
          exact h.set hi hfollows
      | put report =>
          rw [hrun] at hfollows
          obtain ⟨hstage, hreport⟩ := hfollows
          cases sent with
          | false => exact h.erase i
          | true => exact h.put hi hreport (hok task hi report hstage)

end

/-- In every run in which no report overtakes an older one that is still on its way, the
reports are delivered in the order of their messages. -/
theorem inputs_in_order {Value : Type} {serde : Serde Value} {channel : Channel} {id : String}
    {s : State Value} (h : Reach (step serde channel id) (OldestFirst serde) {} s) :
    InArrivalOrder serde s := by
  have htracked : Tracked serde s := by
    refine Reach.invariant ?_ (fun _ _ _ hs hok hstep => hs.step hok hstep) h
    exact ⟨by simp, by simp, by simp [State.inputs], by simp [State.inputs], by simp [State.inputs]⟩
  exact htracked.delivered

def ascii (s : String) : Data := s.toList.map fun c => c.toNat.toUInt8

def press : Data :=
  ascii ("\x7b\"jsonrpc\":\"2.0\",\"method\":\"keyboardReport\"," ++
    "\"params\":\x7b\"modifier\":0,\"keys\":[4]\x7d\x7d")

def release : Data :=
  ascii ("\x7b\"jsonrpc\":\"2.0\",\"method\":\"keyboardReport\"," ++
    "\"params\":\x7b\"modifier\":0,\"keys\":[]\x7d\x7d")

/-- The values are the keys in the parameters. -/
def keysOnly : Serde (List UInt8) where
  fromSlice data :=
    if data = press then some ⟨"2.0", "keyboardReport", some [4], none⟩
    else if data = release then some ⟨"2.0", "keyboardReport", some [], none⟩
    else none
  keyboard keys := .ok ⟨0, keys⟩
  absMouse _ := .error "missing field `x`"
  relMouse _ := .error "missing field `dx`"
  wheel _ := .error "missing field `wheelY`"

def userDesk : Desk where
  app :=
    { sessions := AList.insert "user-1" ⟨"user-1", .user, 0⟩ ∅
      roleSessions := AList.insert .user "user-1" ∅ }
  lease := { owner := some .user }

def tap : List Event := [.server userDesk, .usbReady, .arrive press, .arrive release]

/-- The condition on a step as a test. -/
def oldestFirst {Value : Type} (serde : Serde Value) (s : State Value) : Event → Bool
  | .run i true =>
      s.tasks[i]?.all fun task =>
        match task.stage with
        | .put _ => s.tasks.all fun older =>
            task.number ≤ older.number || !carriesInput serde older.data
        | _ => true
  | _ => true

theorem oldestFirst_sound {Value : Type} (serde : Serde Value) (s : State Value) (e : Event)
    (h : oldestFirst serde s e = true) : OldestFirst serde s e := by
  cases e with
  | arrive _ | close | server _ | usbReady => trivial
  | run i sent =>
      cases sent with
      | false => trivial
      | true =>
          intro task hi report hstage _ older holder hlt
          rw [Option.mem_def] at hi
          simp only [oldestFirst, hi, Option.all_some, hstage, List.all_eq_true] at h
          have hclear := h older holder
          have hnot : ¬ task.number ≤ older.number := by omega
          simpa [hnot] using hclear

/-- The release gets through the gate first and waits there. -/
theorem inputs_in_order_tap :
    ∃ s, Reach (step keysOnly .input "user-1") (OldestFirst keysOnly) {} s ∧
      s.delivered = [(0, .keyboard 0 [4]), (1, .keyboard 0 [])] ∧ InArrivalOrder keysOnly s := by
  have hexec : (exec (step keysOnly .input "user-1") (oldestFirst keysOnly) {}
      (tap ++ List.replicate 5 (.run 1 true) ++ List.replicate 7 (.run 0 true))).map
        State.delivered = some [(0, .keyboard 0 [4]), (1, .keyboard 0 [])] := by
    decide +kernel
  obtain ⟨s, hs, hdelivered⟩ := exists_reach_of_exec (oldestFirst_sound keysOnly) hexec
  exact ⟨s, hs, hdelivered, inputs_in_order hs⟩

/-- The task of the release runs to its end before that of the press. -/
theorem release_before_press :
    ¬ ∀ (Value : Type) (serde : Serde Value) (channel : Channel) (id : String) (s : State Value),
      Reach (step serde channel id) anyStep {} s → InArrivalOrder serde s := by
  intro hclaim
  have hexec : (exec (step keysOnly .input "user-1") (fun _ _ => true) {}
      (tap ++ List.replicate 6 (.run 1 true) ++ List.replicate 6 (.run 0 true))).map
        State.inputs = some [(1, .keyboard 0 []), (0, .keyboard 0 [4])] := by
    decide +kernel
  obtain ⟨s, hs, hinputs⟩ := exists_reach_of_exec (fun _ _ _ => trivial) hexec
  have horder := (hclaim _ keysOnly .input "user-1" s hs).order
  rw [hinputs] at horder
  have hlt := (List.pairwise_cons.mp horder).1 (0, .keyboard 0 [4]) List.mem_cons_self
  exact absurd hlt (by decide)

end ArkKvm.Input
