import ArkKvm.Lib.Pool
import ArkKvm.Lib.Run
import ArkKvm.Session.State

/-!
# The media lifecycle

The capture, the audio bridge, the sinks that frames are written to and a virtual medium
that a browser serves all live as long as some session does.  The first session starts a
task that brings the media up, the last one a task that takes them down, and every removal
ends with a cleanup of the sinks.  These tasks, the claim of a role and the ICE callbacks
share `MEDIA_LIFECYCLE_LOCK`; sessions come and go without it.

`Server.lock` is the critical section under the lock with the place where it stands, so at
most one is under way.  A task that takes the lock does its first action in the same step.
-/

namespace ArkKvm

def AppState.sessionCount (s : AppState) : Nat := s.sessions.entries.length

namespace MediaLifecycle

open Lib Lib.Run Lib.Pool

/-- `SinkEntry`: the session and the track that frames go to.  Every peer has tracks of its
own, so the number of the peer stands for the track. -/
structure Sink where
  sessionId : String
  peer : Nat
deriving DecidableEq

abbrev Sinks := Table SessionRole Sink

/-- `attach_webrtc_sink`. -/
def Sinks.attach (session : Session) (sinks : Sinks) : Sinks :=
  sinks.insert session.role ⟨session.id, session.peer⟩

def Sinks.detachIfSession (role : SessionRole) (id : String) (sinks : Sinks) : Sinks :=
  if (sinks.lookup role).any fun entry => entry.sessionId = id then sinks.erase role else sinks

/-- `remove_session_inner` after its first lock; `last` when no session was left. -/
inductive Removal
  | clearSlots (id : String) (last : Bool)
  | leaveLease (last : Bool)
deriving DecidableEq

inductive Section
  -- `claim_and_activate_session` and `attach_role_session_sinks_if_connected`
  | claimed (session : Session) (previous : Option Session)
  | attach (session : Session) (connected : Bool) (previous : Option Session)
  | attachVideo (session : Session) (previous : Option Session)
  | attachAudio (session : Session) (previous : Option Session)
  -- the callbacks of a connection that is up
  | fillSlot (session : Session)
  | checkHolder (id : String)
  | getSession (id : String) (connected : Bool)
  -- a connection that is interrupted, and one that has failed
  | detachVideo (role : SessionRole) (id : String)
  | detachAudio (role : SessionRole) (id : String)
  | removing (removal : Removal)
  -- `on_first_session_connected`
  | firstCount
  | startVideo
  | startAudio
  -- `on_last_session_disconnected`
  | lastCount
  | stopVideo
  | stopAudio
  -- `cleanup_last_session_resources`
  | cleanupCount
  | detachAllVideo
  | detachAllAudio
  | unmount
deriving DecidableEq

inductive Task
  | removeAndClose (id : String) (expectedPeer : Option Nat)
  | removing (removal : Removal)
  | cleanupLastSession
  | firstSession
  | lastSession
  | claim (session : Session)
  | claimSlot (session : Session)
  -- `on_ice_connection_state_change` and `on_connection_state_change`
  | iceConnected (session : Session)
  | iceDisconnected (session : Session)
  | iceFailed (session : Session)
  | peerConnected (session : Session)
deriving DecidableEq

structure Server where
  app : AppState := {}
  -- `VIDEO_SINK` and `AUDIO_SINK`
  videoSinks : Sinks := ∅
  audioSinks : Sinks := ∅
  -- `HDMI_CAPTURE` holds a capture
  capture : Bool := false
  -- `AUDIO_RUNNING`
  audioRunning : Bool := false
  -- the virtual medium is served by a browser
  webrtcMounted : Bool := false
  lock : Option Section := none
  tasks : List Task := []
  made : List Session := []
deriving DecidableEq

def Server.spawn (task : Task) (s : Server) : Server := { s with tasks := s.tasks ++ [task] }

def Server.goes (c : Section) (s : Server) : Server := { s with lock := some c }

def Server.release (s : Server) : Server := { s with lock := none }

def Server.removed (last : Bool) (s : Server) : Server :=
  if last then s.spawn .lastSession else s

/-- The end of a claim: the session that was taken over is closed some time later. -/
def Server.activated (session : Session) (previous : Option Session) (s : Server) : Server :=
  match previous with
  | some old =>
      if old = session then s.release
      else (s.spawn (.removeAndClose old.id (some old.peer))).release
  | none => s.release

/-- One step of the critical section.  `answer` is what the step learns from outside: that
the ICE connection is up, or that the media were started or stopped in time. -/
def Section.run (answer : Bool) (s : Server) : Section → Server
  | .claimed session previous =>
      let registered := (s.app.sessions.lookup session.id).isSome
      s.goes (.attach session (registered && answer) previous)
  | .attach session connected previous =>
      if s.app.isRoleSlotHolder session.id && connected then s.goes (.attachVideo session previous)
      else s.activated session previous
  | .attachVideo session previous =>
      { s with videoSinks := s.videoSinks.attach session }.goes (.attachAudio session previous)
  | .attachAudio session previous =>
      { s with audioSinks := s.audioSinks.attach session }.activated session previous
  | .fillSlot session =>
      { s with app := (s.app.setRoleSlotIfNone session.role session.id).1 }.goes
        (.checkHolder session.id)
  | .checkHolder id =>
      -- with the connection down one callback returns here and the other attaches nothing
      if s.app.isRoleSlotHolder id then s.goes (.getSession id answer) else s.release
  | .getSession id connected =>
      match s.app.sessions.lookup id with
      | some session => s.goes (.attach session connected none)
      | none => s.release
  | .detachVideo role id =>
      { s with videoSinks := s.videoSinks.detachIfSession role id }.goes (.detachAudio role id)
  | .detachAudio role id =>
      { s with audioSinks := s.audioSinks.detachIfSession role id }.release
  | .removing (.clearSlots id last) =>
      { s with app := s.app.clearRoleSlots id }.goes (.removing (.leaveLease last))
  | .removing (.leaveLease last) => ((s.removed last).spawn .cleanupLastSession).release
  | .firstCount => if s.app.sessionCount = 0 then s.release else s.goes .startVideo
  | .startVideo => { s with capture := s.capture || answer }.goes .startAudio
  | .startAudio => { s with audioRunning := s.audioRunning || answer }.release
  | .lastCount => if s.app.sessionCount > 0 then s.release else s.goes .stopVideo
  | .stopVideo => { s with capture := s.capture && !answer }.goes .stopAudio
  | .stopAudio => { s with audioRunning := false }.release
  | .cleanupCount => if s.app.sessionCount ≠ 0 then s.release else s.goes .detachAllVideo
  | .detachAllVideo => { s with videoSinks := ∅ }.goes .detachAllAudio
  | .detachAllAudio => { s with audioSinks := ∅ }.goes .unmount
  | .unmount => { s with webrtcMounted := s.webrtcMounted && !answer }.release

def Task.enter (s : Server) : Task → Server
  | .cleanupLastSession => s.goes .cleanupCount
  | .firstSession => s.goes .firstCount
  | .lastSession => s.goes .lastCount
  | .claimSlot session =>
      match s.app.claimRoleSlot session with
      | (app, .accepted previous) => { s with app := app }.goes (.claimed session previous)
      | (app, _) => { s with app := app }
  | .iceConnected session =>
      if s.app.sessionOwnsPeer session.id session.peer then s.goes (.fillSlot session) else s
  | .peerConnected session =>
      if s.app.sessionOwnsPeer session.id session.peer then s.goes (.checkHolder session.id) else s
  | .iceDisconnected session =>
      if s.app.sessionOwnsPeer session.id session.peer then
        s.goes (.detachVideo session.role session.id)
      else s
  | .iceFailed session =>
      match s.app.removeEntry session.id (some session.peer) with
      | (app, some _) =>
          { s with app := app }.goes
            (.removing (.clearSlots session.id (app.sessionCount = 0)))
      | (_, none) => s
  | .removeAndClose _ _ | .removing _ | .claim _ => s

/-- One step of a task that has been taken out of the pool; `none` while it waits for the
lock.  For a claim `answer` says that the MCP is enabled. -/
def Task.run (answer : Bool) (s : Server) : Task → Option Server
  | .removeAndClose id expectedPeer =>
      match s.app.removeEntry id expectedPeer with
      | (app, some _) =>
          some ({ s with app := app }.spawn (.removing (.clearSlots id (app.sessionCount = 0))))
      | (_, none) => some s
  | .removing (.clearSlots id last) =>
      some ({ s with app := s.app.clearRoleSlots id }.spawn (.removing (.leaveLease last)))
  | .removing (.leaveLease last) => some ((s.removed last).spawn .cleanupLastSession)
  | .claim session =>
      if session.role = .agent && !answer then some s else some (s.spawn (.claimSlot session))
  | task =>
      match s.lock with
      | none => some (task.enter s)
      | some _ => none

def Task.isEntry (made : List Session) : Task → Bool
  | .removeAndClose _ none => true
  | .claim session | .iceConnected session | .iceDisconnected session | .iceFailed session
  | .peerConnected session => session ∈ made
  | _ => false

inductive Media
  | video
  | audio
deriving DecidableEq

inductive Event
  | addSession (id : String) (role : SessionRole)
  | start (task : Task)
  -- a task that waits takes one step, and so does the critical section
  | run (i : Nat) (answer : Bool)
  | advance (answer : Bool)
  -- a frame could not be written to a sink
  | writeFailed (media : Media) (role : SessionRole) (id : String)
  -- a call has changed the virtual medium, or the audio playback
  | virtualMedia (webrtc : Bool)
  | audioPlayback (enabled : Bool)
deriving DecidableEq

def step (s : Server) : Event → Option Server
  | .addSession id role =>
      let session : Session := ⟨id, role, s.made.length⟩
      let r := s.app.addSession session
      let s' := { s with
        app := r.1
        made := s.made ++ [session] }
      some (if r.2.isNone && r.1.sessionCount = 1 then s'.spawn .firstSession else s')
  | .start task => if task.isEntry s.made then some (s.spawn task) else none
  | .run i answer =>
      (pick i s.tasks).bind fun (task, rest) => task.run answer { s with tasks := rest }
  | .advance answer => s.lock.map fun c => c.run answer s
  | .writeFailed .video role id =>
      some { s with videoSinks := s.videoSinks.detachIfSession role id }
  | .writeFailed .audio role id =>
      some { s with audioSinks := s.audioSinks.detachIfSession role id }
  | .virtualMedia webrtc => some { s with webrtcMounted := webrtc }
  | .audioPlayback enabled => some { s with audioRunning := enabled }

/-! ## Sessions that come and go -/

section

variable {app : AppState} {id : String} {session : Session}

theorem sessionCount_eq_zero : app.sessionCount = 0 ↔ app.sessions = ∅ := by
  unfold AppState.sessionCount
  rw [List.length_eq_zero_iff]
  constructor
  · exact fun h => AList.ext h
  · exact fun h => by rw [h]; rfl

theorem sessions_ne_empty_of_lookup (h : app.sessions.lookup id = some session) :
    app.sessions ≠ ∅ := by
  intro hempty
  rw [hempty] at h
  cases h

theorem addSession_sessions : (app.addSession session).1.sessions ≠ ∅ :=
  sessions_ne_empty_of_lookup (AList.lookup_insert _)

theorem addSession_first (session : Session) (h : app.sessions = ∅) :
    (app.addSession session).2 = none ∧ (app.addSession session).1.sessionCount = 1 := by
  unfold AppState.addSession AppState.sessionCount
  rw [h]
  exact ⟨rfl, rfl⟩

@[simp]
theorem setRoleSlotIfNone_sessions (role : SessionRole) :
    (app.setRoleSlotIfNone role id).1.sessions = app.sessions := by
  obtain hkept | ⟨-, hfilled⟩ := app.setRoleSlotIfNone_cases role id
  · rw [hkept]
  · rw [hfilled]

end

/-! ## What a task does -/

inductive Starts : Task → Section → Prop
  | cleanup : Starts .cleanupLastSession .cleanupCount
  | first : Starts .firstSession .firstCount
  | last : Starts .lastSession .lastCount
  | iceConnected {session : Session} : Starts (.iceConnected session) (.fillSlot session)
  | peerConnected {session : Session} : Starts (.peerConnected session) (.checkHolder session.id)
  | iceDisconnected {session : Session} :
      Starts (.iceDisconnected session) (.detachVideo session.role session.id)

def Task.mayEnd : Task → Bool
  | .cleanupLastSession | .firstSession | .lastSession | .removing _ => false
  | _ => true

/-- All that a step of a task can do; `s` is the server without that task. -/
inductive Ran (s : Server) : Task → Server → Prop
  | ended {task : Task} (h : task.mayEnd = true) : Ran s task s
  | starts {task : Task} {c : Section} (hlock : s.lock = none) (h : Starts task c) :
      Ran s task (s.goes c)
  | claims {session : Session} : Ran s (.claim session) (s.spawn (.claimSlot session))
  | claimed {session : Session} {app : AppState} {previous : Option Session}
      (hlock : s.lock = none) (hsessions : app.sessions = s.app.sessions)
      (hreg : app.sessions ≠ ∅) :
      Ran s (.claimSlot session) ({ s with app := app }.goes (.claimed session previous))
  | failed {session : Session} {app : AppState} (hlock : s.lock = none)
      (hreg : s.app.sessions ≠ ∅) :
      Ran s (.iceFailed session)
        ({ s with app := app }.goes
          (.removing (.clearSlots session.id (app.sessionCount = 0))))
  | removed {id : String} {expectedPeer : Option Nat} {app : AppState}
      (hreg : s.app.sessions ≠ ∅) :
      Ran s (.removeAndClose id expectedPeer)
        ({ s with app := app }.spawn (.removing (.clearSlots id (app.sessionCount = 0))))
  | cleared {id : String} {last : Bool} :
      Ran s (.removing (.clearSlots id last))
        ({ s with app := s.app.clearRoleSlots id }.spawn (.removing (.leaveLease last)))
  | left {last : Bool} :
      Ran s (.removing (.leaveLease last)) ((s.removed last).spawn .cleanupLastSession)

section

variable {s s' : Server} {answer : Bool}

theorem ran_claimSlot {session : Session} (hlock : s.lock = none) :
    Ran s (.claimSlot session) ((Task.claimSlot session).enter s) := by
  have hsessions := s.app.claimRoleSlot_sessions session
  simp only [Task.enter]
  cases hclaim : s.app.claimRoleSlot session with
  | mk app result =>
      rw [hclaim] at hsessions
      cases result with
      | accepted previous =>
          refine .claimed hlock hsessions ?_
          rw [hsessions]
          exact sessions_ne_empty_of_lookup
            (AppState.claimRoleSlot_accepted (by rw [hclaim])).1
      | rejectedOccupied | rejectedMcpDisabled | notRegistered =>
          have happ : app = s.app := by
            have hkept : (s.app.claimRoleSlot session).1 = s.app :=
              AppState.claimRoleSlot_not_accepted (by rw [hclaim]; nofun)
            rw [hclaim] at hkept
            exact hkept
          rw [happ]
          exact .ended rfl

theorem ran_iceFailed {session : Session} (hlock : s.lock = none) :
    Ran s (.iceFailed session) ((Task.iceFailed session).enter s) := by
  simp only [Task.enter]
  obtain hkept | ⟨old, hold, -, hremoved⟩ :=
    s.app.removeEntry_cases session.id (some session.peer)
  · rw [hkept]
    exact .ended rfl
  · rw [hremoved]
    exact .failed hlock (sessions_ne_empty_of_lookup hold)

theorem ran_callback {session : Session} {task : Task} {c : Section} (hlock : s.lock = none)
    (h : Starts task c) (hend : task.mayEnd = true) :
    Ran s task (if s.app.sessionOwnsPeer session.id session.peer then s.goes c else s) := by
  split
  · exact .starts hlock h
  · exact .ended hend

theorem Task.ran {task : Task} (h : task.run answer s = some s') : Ran s task s' := by
  have henter (hrun : (match s.lock with | none => some (task.enter s) | some _ => none) = some s')
      (hran : s.lock = none → Ran s task (task.enter s)) : Ran s task s' := by
    cases hlock : s.lock with
    | some c =>
        rw [hlock] at hrun
        cases hrun
    | none =>
        rw [hlock] at hrun
        cases hrun
        exact hran hlock
  cases task with
  | removeAndClose id expectedPeer =>
      simp only [Task.run] at h
      obtain hkept | ⟨old, hold, -, hremoved⟩ := s.app.removeEntry_cases id expectedPeer
      · rw [hkept] at h
        cases h
        exact .ended rfl
      · rw [hremoved] at h
        cases h
        exact .removed (sessions_ne_empty_of_lookup hold)
  | removing removal =>
      cases removal with
      | clearSlots id last =>
          cases h
          exact .cleared
      | leaveLease last =>
          cases h
          exact .left
  | claim session =>
      simp only [Task.run] at h
      split at h
      · cases h
        exact .ended rfl
      · cases h
        exact .claims
  | cleanupLastSession => exact henter h fun hlock => .starts hlock .cleanup
  | firstSession => exact henter h fun hlock => .starts hlock .first
  | lastSession => exact henter h fun hlock => .starts hlock .last
  | claimSlot session => exact henter h ran_claimSlot
  | iceFailed session => exact henter h ran_iceFailed
  | iceConnected session => exact henter h fun hlock => ran_callback hlock .iceConnected rfl
  | peerConnected session => exact henter h fun hlock => ran_callback hlock .peerConnected rfl
  | iceDisconnected session => exact henter h fun hlock => ran_callback hlock .iceDisconnected rfl

end

end MediaLifecycle

end ArkKvm
