import ArkKvm.Session.MediaTasks

/-!
# Media live as long as sessions do

While no session is left, whatever is still up is owed: the removal that took the last
session out is in progress, or the cleanup or the task that it has started.  While a session
is there, whatever is not up is promised by the task that the first session has started.
-/

namespace ArkKvm.MediaLifecycle

open Lib Lib.Run Lib.Pool

inductive Resource
  | videoSinks
  | audioSinks
  | medium
  | capture
  | audio
deriving DecidableEq

def Resource.ofCleanup : Resource → Bool
  | .videoSinks | .audioSinks | .medium => true
  | .capture | .audio => false

def Server.Has (s : Server) : Resource → Prop
  | .videoSinks => s.videoSinks ≠ ∅
  | .audioSinks => s.audioSinks ≠ ∅
  | .medium => s.webrtcMounted = true
  | .capture => s.capture = true
  | .audio => s.audioRunning = true

def Section.takes (r : Resource) : Section → Bool
  | .claimed _ _ | .attach _ _ _ | .attachVideo _ _ => r = .videoSinks || r = .audioSinks
  | .attachAudio _ _ => r = .audioSinks
  | .startVideo => r = .capture || r = .audio
  | .startAudio => r = .audio
  | _ => false

/-- With no session left, what is in progress is going to take the resource down. -/
def Removal.owes (r : Resource) : Removal → Bool
  | .clearSlots _ last | .leaveLease last => r.ofCleanup || last

def Task.owes (r : Resource) : Task → Bool
  | .removing removal => removal.owes r
  | .cleanupLastSession => r.ofCleanup
  | .lastSession => !r.ofCleanup
  | _ => false

def Section.owes (r : Resource) : Section → Bool
  | .removing removal => removal.owes r
  | .cleanupCount | .detachAllVideo => r.ofCleanup
  | .detachAllAudio => r = .audioSinks || r = .medium
  | .unmount => r = .medium
  | .lastCount | .stopVideo => !r.ofCleanup
  | .stopAudio => r = .audio
  | _ => false

def Server.MayHave (s : Server) (r : Resource) : Prop :=
  s.Has r ∨ ∃ c ∈ s.lock, c.takes r = true

def Server.Owed (s : Server) (r : Resource) : Prop :=
  (∃ t ∈ s.tasks, t.owes r = true) ∨ ∃ c ∈ s.lock, c.owes r = true

/-- Stopping the video and unmounting come to their ends, and no call brings a browser's
medium or the audio up after the last session has left. -/
def Completes (s : Server) : Event → Prop
  | .advance answer => s.lock = some .stopVideo ∨ s.lock = some .unmount → answer = true
  | .virtualMedia true | .audioPlayback true => s.app.sessions ≠ ∅
  | _ => True

def Covered (s : Server) : Prop := s.app.sessions = ∅ → ∀ r, s.MayHave r → s.Owed r

section

variable {s s' : Server} {r : Resource} {c : Section} {answer : Bool} {task : Task}

@[simp]
theorem mem_spawn {t : Task} : t ∈ (s.spawn task).tasks ↔ t ∈ s.tasks ∨ t = task := by
  simp [Server.spawn]

theorem owed_of_task {t : Task} (ht : t ∈ s.tasks) (howes : t.owes r = true) : s.Owed r :=
  .inl ⟨t, ht, howes⟩

theorem owed_of_lock (hlock : s.lock = some c) (howes : c.owes r = true) : s.Owed r :=
  .inr ⟨c, hlock, howes⟩

@[simp]
theorem mayHave_goes : (s.goes c).MayHave r ↔ s.Has r ∨ c.takes r = true := by
  have hhas : (s.goes c).Has r ↔ s.Has r := by cases r <;> rfl
  unfold Server.MayHave
  rw [hhas]
  simp [Server.goes]

@[simp]
theorem mayHave_release : s.release.MayHave r ↔ s.Has r := by
  have hhas : s.release.Has r ↔ s.Has r := by cases r <;> rfl
  unfold Server.MayHave
  rw [hhas]
  simp [Server.release]

@[simp]
theorem has_spawn : (s.spawn task).Has r ↔ s.Has r := by
  cases r <;> rfl

@[simp]
theorem has_removed {last : Bool} : (s.removed last).Has r ↔ s.Has r := by
  cases last
  · rfl
  · exact has_spawn

@[simp]
theorem mayHave_activated {session : Session} {previous : Option Session} :
    (s.activated session previous).MayHave r ↔ s.Has r := by
  unfold Server.activated
  cases previous with
  | none => exact mayHave_release
  | some old =>
      dsimp only
      split
      · exact mayHave_release
      · rw [mayHave_release, has_spawn]

theorem Sinks.detachIfSession_ne_empty {sinks : Sinks} {role : SessionRole} {id : String}
    (h : sinks.detachIfSession role id ≠ ∅) : sinks ≠ ∅ := by
  intro hempty
  rw [hempty] at h
  exact h rfl

/-! ### The critical section -/

theorem activated_app {session : Session} {previous : Option Session} :
    (s.activated session previous).app = s.app := by
  unfold Server.activated
  cases previous with
  | none => rfl
  | some old =>
      dsimp only
      split
      · rfl
      · rfl

theorem removed_app {last : Bool} : (s.removed last).app = s.app := by
  cases last <;> rfl

theorem activated_tasks {session : Session} {previous : Option Session} {t : Task}
    (ht : t ∈ s.tasks) : t ∈ (s.activated session previous).tasks := by
  unfold Server.activated
  cases previous with
  | none => exact ht
  | some old =>
      dsimp only
      split
      · exact ht
      · exact mem_spawn.mpr (.inl ht)

theorem removed_tasks {last : Bool} {t : Task} (ht : t ∈ s.tasks) :
    t ∈ (s.removed last).tasks := by
  cases last
  · exact ht
  · exact mem_spawn.mpr (.inl ht)

/-- A critical section takes no session out: the removal under the lock has done that in its
first step. -/
theorem run_sessions : (c.run answer s).app.sessions = s.app.sessions := by
  cases c with
  | attach session connected previous =>
      simp only [Section.run]
      split
      · rfl
      · rw [activated_app]
  | attachAudio session previous => exact congrArg AppState.sessions activated_app
  | fillSlot session => exact setRoleSlotIfNone_sessions session.role
  | removing removal =>
      cases removal with
      | clearSlots id last => rfl
      | leaveLease last => exact congrArg AppState.sessions removed_app
  | getSession id connected =>
      simp only [Section.run]
      split
      · rfl
      · rfl
  | checkHolder id =>
      simp only [Section.run]
      split
      · rfl
      · rfl
  | firstCount | lastCount | cleanupCount =>
      simp only [Section.run]
      split
      · rfl
      · rfl
  | _ => rfl

theorem run_tasks {t : Task} (ht : t ∈ s.tasks) : t ∈ (c.run answer s).tasks := by
  cases c with
  | attach session connected previous =>
      simp only [Section.run]
      split
      · exact ht
      · exact activated_tasks ht
  | attachAudio session previous => exact activated_tasks ht
  | removing removal =>
      cases removal with
      | clearSlots id last => exact ht
      | leaveLease last => exact mem_spawn.mpr (.inl (removed_tasks ht))
  | getSession id connected =>
      simp only [Section.run]
      split
      · exact ht
      · exact ht
  | checkHolder id =>
      simp only [Section.run]
      split
      · exact ht
      · exact ht
  | firstCount | lastCount | cleanupCount =>
      simp only [Section.run]
      split
      · exact ht
      · exact ht
  | _ => exact ht

theorem run_mayHave (hlock : s.lock = some c) (hempty : s.app.sessions = ∅)
    (h : (c.run answer s).MayHave r) : s.MayHave r := by
  have hcount : s.app.sessionCount = 0 := sessionCount_eq_zero.mpr hempty
  have hhas (hr : s.Has r) : s.MayHave r := .inl hr
  have htakes (hc : c.takes r = true) : s.MayHave r := .inr ⟨c, hlock, hc⟩
  cases c with
  | claimed session previous => exact (mayHave_goes.mp h).elim hhas htakes
  | attach session connected previous =>
      simp only [Section.run] at h
      split at h
      · exact (mayHave_goes.mp h).elim hhas htakes
      · exact hhas (mayHave_activated.mp h)
  | attachVideo session previous =>
      rcases mayHave_goes.mp h with hr | hc
      · cases r with
        | videoSinks => exact htakes rfl
        | audioSinks | medium | capture | audio => exact hhas hr
      · exact htakes (by cases r <;> first | rfl | cases hc)
  | attachAudio session previous =>
      have hr := mayHave_activated.mp h
      cases r with
      | audioSinks => exact htakes rfl
      | videoSinks | medium | capture | audio => exact hhas hr
  | fillSlot session =>
      rcases mayHave_goes.mp h with hr | hc
      · exact hhas (by cases r <;> exact hr)
      · cases hc
  | checkHolder id =>
      simp only [Section.run] at h
      split at h
      · exact (mayHave_goes.mp h).elim hhas nofun
      · exact hhas (mayHave_release.mp h)
  | getSession id connected =>
      simp only [Section.run] at h
      split at h
      · next session hsession => exact absurd hempty (sessions_ne_empty_of_lookup hsession)
      · exact hhas (mayHave_release.mp h)
  | detachVideo role id =>
      rcases mayHave_goes.mp h with hr | hc
      · cases r with
        | videoSinks => exact hhas (Sinks.detachIfSession_ne_empty hr)
        | audioSinks | medium | capture | audio => exact hhas hr
      · cases hc
  | detachAudio role id =>
      have hr := mayHave_release.mp h
      cases r with
      | audioSinks => exact hhas (Sinks.detachIfSession_ne_empty hr)
      | videoSinks | medium | capture | audio => exact hhas hr
  | removing removal =>
      cases removal with
      | clearSlots id last =>
          rcases mayHave_goes.mp h with hr | hc
          · exact hhas (by cases r <;> exact hr)
          · cases hc
      | leaveLease last => exact hhas (has_removed.mp (has_spawn.mp (mayHave_release.mp h)))
  | firstCount =>
      simp only [Section.run, if_pos hcount] at h
      exact hhas (mayHave_release.mp h)
  | startVideo =>
      rcases mayHave_goes.mp h with hr | hc
      · cases r with
        | capture => exact htakes rfl
        | videoSinks | audioSinks | medium | audio => exact hhas hr
      · exact htakes (by cases r <;> first | rfl | cases hc)
  | startAudio =>
      have hr := mayHave_release.mp h
      cases r with
      | audio => exact htakes rfl
      | videoSinks | audioSinks | medium | capture => exact hhas hr
  | lastCount =>
      simp only [Section.run] at h
      split at h
      · exact hhas (mayHave_release.mp h)
      · exact (mayHave_goes.mp h).elim hhas nofun
  | stopVideo =>
      rcases mayHave_goes.mp h with hr | hc
      · cases r with
        | capture => exact hhas (Bool.and_eq_true_iff.mp hr).1
        | videoSinks | audioSinks | medium | audio => exact hhas hr
      · cases hc
  | stopAudio =>
      have hr := mayHave_release.mp h
      cases r with
      | audio => cases hr
      | videoSinks | audioSinks | medium | capture => exact hhas hr
  | cleanupCount =>
      simp only [Section.run] at h
      split at h
      · exact hhas (mayHave_release.mp h)
      · exact (mayHave_goes.mp h).elim hhas nofun
  | detachAllVideo =>
      rcases mayHave_goes.mp h with hr | hc
      · cases r with
        | videoSinks => exact absurd rfl hr
        | audioSinks | medium | capture | audio => exact hhas hr
      · cases hc
  | detachAllAudio =>
      rcases mayHave_goes.mp h with hr | hc
      · cases r with
        | audioSinks => exact absurd rfl hr
        | videoSinks | medium | capture | audio => exact hhas hr
      · cases hc
  | unmount =>
      have hr := mayHave_release.mp h
      cases r with
      | medium => exact hhas (Bool.and_eq_true_iff.mp hr).1
      | videoSinks | audioSinks | capture | audio => exact hhas hr

theorem task_of_leaveLease {last : Bool} (howes : (Removal.leaveLease last).owes r = true) :
    ∃ t ∈ ((s.removed last).spawn .cleanupLastSession).tasks, t.owes r = true := by
  cases hr : r.ofCleanup with
  | true => exact ⟨.cleanupLastSession, mem_spawn.mpr (.inr rfl), hr⟩
  | false =>
      have hlast : last = true := by
        rw [Removal.owes, hr] at howes
        exact howes
      rw [hlast]
      have hmem : Task.lastSession ∈ (s.removed true).tasks := mem_spawn.mpr (.inr rfl)
      exact ⟨.lastSession, mem_spawn.mpr (.inl hmem), by rw [Task.owes, hr]; rfl⟩

theorem run_owed (hempty : s.app.sessions = ∅)
    (hok : c = .stopVideo ∨ c = .unmount → answer = true) (howes : c.owes r = true)
    (h : (c.run answer s).MayHave r) : (c.run answer s).Owed r := by
  have hcount : s.app.sessionCount = 0 := sessionCount_eq_zero.mpr hempty
  cases c with
  | removing removal =>
      cases removal with
      | clearSlots id last => exact owed_of_lock rfl howes
      | leaveLease last =>
          obtain ⟨t, ht, howes'⟩ := task_of_leaveLease howes
          exact owed_of_task ht howes'
  | cleanupCount =>
      have hrun : Section.cleanupCount.run answer s = s.goes .detachAllVideo := by
        simp [Section.run, hcount]
      rw [hrun]
      exact owed_of_lock rfl howes
  | lastCount =>
      have hrun : Section.lastCount.run answer s = s.goes .stopVideo := by
        simp [Section.run, hcount]
      rw [hrun]
      exact owed_of_lock rfl howes
  | detachAllVideo =>
      cases r with
      | videoSinks => exact absurd (mayHave_goes.mp h) (by simp [Server.Has, Section.takes])
      | audioSinks | medium => exact owed_of_lock rfl rfl
      | capture | audio => cases howes
  | detachAllAudio =>
      cases r with
      | audioSinks => exact absurd (mayHave_goes.mp h) (by simp [Server.Has, Section.takes])
      | medium => exact owed_of_lock rfl rfl
      | videoSinks | capture | audio => cases howes
  | unmount =>
      cases r with
      | medium =>
          have hr := mayHave_release.mp h
          rw [hok (.inr rfl)] at hr
          simp [Server.Has] at hr
      | videoSinks | audioSinks | capture | audio => cases howes
  | stopVideo =>
      cases r with
      | capture =>
          rw [hok (.inl rfl)] at h
          exact absurd (mayHave_goes.mp h) (by simp [Server.Has, Section.takes])
      | audio => exact owed_of_lock rfl rfl
      | videoSinks | audioSinks | medium => cases howes
  | stopAudio =>
      cases r with
      | audio => cases mayHave_release.mp h
      | videoSinks | audioSinks | medium | capture => cases howes
  | _ => cases howes

theorem Covered.advance (hs : Covered s) (hlock : s.lock = some c)
    (hok : c = .stopVideo ∨ c = .unmount → answer = true) : Covered (c.run answer s) := by
  intro hempty r hmay
  rw [run_sessions] at hempty
  rcases hs hempty r (run_mayHave hlock hempty hmay) with ⟨t, ht, howes⟩ | ⟨c', hc', howes⟩
  · exact owed_of_task (run_tasks ht) howes
  · rw [hlock] at hc'
    cases hc'
    exact run_owed hempty hok howes hmay

/-! ### The tasks that wait -/

theorem Server.Owed.spawn (h : s.Owed r) : (s.spawn task).Owed r := by
  rcases h with ⟨t, ht, howes⟩ | hlock
  · exact owed_of_task (mem_spawn.mpr (.inl ht)) howes
  · exact .inr hlock

theorem Covered.spawn (hs : Covered s) : Covered (s.spawn task) :=
  fun hempty r hmay => (hs hempty r (hmay.imp_left has_spawn.mp)).spawn

theorem owes_of_mayEnd (h : task.mayEnd = true) : task.owes r = false := by
  cases task <;> first | rfl | cases h

theorem Starts.owes (h : Starts task c) (howes : task.owes r = true) : c.owes r = true := by
  cases h with
  | cleanup | last => exact howes
  | first | iceConnected | peerConnected | iceDisconnected => cases howes

theorem Starts.takes (h : Starts task c) : c.takes r = false := by
  cases h <;> rfl

/-- One step of a task.  `s` is the server without the task, so what the task owes is said
apart. -/
theorem Covered.ran
    (hs : s.app.sessions = ∅ → ∀ r, s.MayHave r → s.Owed r ∨ task.owes r = true)
    (h : Ran s task s') : Covered s' := by
  intro hempty r hmay
  cases h with
  | ended hend =>
      rcases hs hempty r hmay with howed | howes
      · exact howed
      · rw [owes_of_mayEnd hend] at howes
        cases howes
  | @starts _ c hlock hstarts =>
      have hhas := (mayHave_goes.mp hmay).resolve_right (by rw [hstarts.takes]; nofun)
      rcases hs hempty r (.inl hhas) with (howed | ⟨c', hc', -⟩) | howes
      · exact .inl howed
      · rw [hlock] at hc'
        cases hc'
      · exact owed_of_lock rfl (hstarts.owes howes)
  | claims =>
      have hmay' : s.MayHave r := hmay.imp_left has_spawn.mp
      exact ((hs hempty r hmay').resolve_right nofun).spawn
  | claimed _ _ hreg => exact absurd hempty hreg
  | @failed session app _ _ =>
      have hlast : app.sessionCount = 0 := sessionCount_eq_zero.mpr hempty
      exact owed_of_lock rfl (by simp [Section.owes, Removal.owes, hlast])
  | @removed id expectedPeer app _ =>
      have hlast : app.sessionCount = 0 := sessionCount_eq_zero.mpr hempty
      exact owed_of_task (mem_spawn.mpr (.inr rfl)) (by simp [Task.owes, Removal.owes, hlast])
  | @cleared id last =>
      have hmay' : s.MayHave r := hmay.imp_left fun hhas => by cases r <;> exact hhas
      rcases hs hempty r hmay' with (⟨t, ht, howes⟩ | howed) | howes
      · exact owed_of_task (mem_spawn.mpr (.inl ht)) howes
      · exact .inr howed
      · exact owed_of_task (mem_spawn.mpr (.inr rfl)) howes
  | @left last =>
      have hempty' : s.app.sessions = ∅ := by
        have happ : ((s.removed last).spawn .cleanupLastSession).app = s.app := removed_app
        rwa [happ] at hempty
      have hmay' : s.MayHave r := by
        refine hmay.imp (fun hhas => has_removed.mp (has_spawn.mp hhas)) fun hlock => ?_
        cases last <;> exact hlock
      rcases hs hempty' r hmay' with (⟨t, ht, howes⟩ | howed) | howes
      · exact owed_of_task (mem_spawn.mpr (.inl (removed_tasks ht))) howes
      · refine .inr ?_
        cases last <;> exact howed
      · exact .inl (task_of_leaveLease howes)

theorem Covered.of_less (hs : Covered s) (happ : s'.app = s.app) (htasks : s'.tasks = s.tasks)
    (hlock : s'.lock = s.lock) (hhas : ∀ r, s'.Has r → s.Has r) : Covered s' := by
  intro hempty r hmay
  unfold Server.Owed
  rw [htasks, hlock]
  apply hs (happ ▸ hempty)
  unfold Server.MayHave at hmay ⊢
  rw [hlock] at hmay
  exact hmay.imp_left (hhas r)

theorem Covered.step {e : Event} (hs : Covered s) (hok : Completes s e)
    (h : step s e = some s') : Covered s' := by
  cases e with
  | addSession id role =>
      have hreg : s'.app.sessions ≠ ∅ := by
        simp only [MediaLifecycle.step] at h
        split at h
        · cases h
          exact addSession_sessions
        · cases h
          exact addSession_sessions
      exact fun hempty => absurd hempty hreg
  | start task =>
      simp only [MediaLifecycle.step] at h
      split at h
      · cases h
        exact hs.spawn
      · cases h
  | run i answer =>
      obtain ⟨⟨task, rest⟩, hpick, hrun⟩ := Option.bind_eq_some_iff.mp h
      refine Covered.ran (fun hempty r hmay => ?_) (task.ran hrun)
      have hmay' : s.MayHave r := hmay.imp_left fun hhas => by cases r <;> exact hhas
      rcases hs hempty r hmay' with ⟨t, ht, howes⟩ | howed
      · rcases (mem_iff_of_pick hpick).mp ht with rfl | ht
        · exact .inr howes
        · exact .inl (owed_of_task ht howes)
      · exact .inl (.inr howed)
  | advance answer =>
      obtain ⟨c, hlock, rfl⟩ := Option.map_eq_some_iff.mp h
      refine hs.advance hlock fun hc => hok ?_
      rw [hlock]
      exact hc.imp (congrArg some) (congrArg some)
  | writeFailed media role id =>
      cases media with
      | video =>
          cases h
          refine hs.of_less rfl rfl rfl fun r hhas => ?_
          cases r with
          | videoSinks => exact Sinks.detachIfSession_ne_empty hhas
          | audioSinks | medium | capture | audio => exact hhas
      | audio =>
          cases h
          refine hs.of_less rfl rfl rfl fun r hhas => ?_
          cases r with
          | audioSinks => exact Sinks.detachIfSession_ne_empty hhas
          | videoSinks | medium | capture | audio => exact hhas
  | virtualMedia webrtc =>
      cases h
      cases webrtc with
      | true => exact fun hempty => absurd hempty hok
      | false =>
          refine hs.of_less rfl rfl rfl fun r hhas => ?_
          cases r with
          | medium => cases hhas
          | videoSinks | audioSinks | capture | audio => exact hhas
  | audioPlayback enabled =>
      cases h
      cases enabled with
      | true => exact fun hempty => absurd hempty hok
      | false =>
          refine hs.of_less rfl rfl rfl fun r hhas => ?_
          cases r with
          | audio => cases hhas
          | videoSinks | audioSinks | medium | capture => exact hhas

end

/-! ## Without sessions -/

def Task.closes : Task → Bool
  | .removing _ | .cleanupLastSession | .lastSession => true
  | _ => false

def Section.closes : Section → Bool
  | .removing _ | .cleanupCount | .detachAllVideo | .detachAllAudio | .unmount | .lastCount
  | .stopVideo | .stopAudio => true
  | _ => false

def Server.Closing (s : Server) : Prop :=
  (∃ t ∈ s.tasks, t.closes = true) ∨ ∃ c ∈ s.lock, c.closes = true

structure Quiet (s : Server) : Prop where
  videoSinks : s.videoSinks = ∅
  audioSinks : s.audioSinks = ∅
  medium : s.webrtcMounted = false
  capture : s.capture = false
  audio : s.audioRunning = false

theorem Server.Owed.closing {s : Server} {r : Resource} (h : s.Owed r) : s.Closing := by
  rcases h with ⟨t, ht, howes⟩ | ⟨c, hc, howes⟩
  · refine .inl ⟨t, ht, ?_⟩
    cases t <;> first | rfl | cases howes
  · refine .inr ⟨c, hc, ?_⟩
    cases c <;> first | rfl | cases howes

/-- In every run of such steps, with no session registered and no removal or what comes of it
in progress, no sink is attached, nothing of a browser is mounted and the media are down. -/
theorem media_stop_with_last_session {s : Server} (h : Reach step Completes {} s)
    (hempty : s.app.sessions = ∅) (hdone : ¬ s.Closing) : Quiet s := by
  have hcovered : Covered s := by
    refine Reach.invariant ?_ (fun _ _ _ hs hok hstep => hs.step hok hstep) h
    intro _ r hmay
    rcases hmay with hhas | ⟨c, hc, -⟩
    · cases r with
      | videoSinks | audioSinks => exact absurd rfl hhas
      | medium | capture | audio => cases hhas
    · cases hc
  have hnot (r : Resource) : ¬ s.Has r := fun hhas =>
    hdone (hcovered hempty r (.inl hhas)).closing
  exact ⟨not_not.mp (hnot .videoSinks), not_not.mp (hnot .audioSinks),
    Bool.eq_false_iff.mpr (hnot .medium), Bool.eq_false_iff.mpr (hnot .capture),
    Bool.eq_false_iff.mpr (hnot .audio)⟩

/-- A user is registered, gets the role and the sinks, and the media come up. -/
def userArrives : List Event :=
  [.addSession "user-1" .user, .start (.claim ⟨"user-1", .user, 0⟩), .run 1 true, .run 1 true] ++
    List.replicate 4 (.advance true) ++ .run 0 true :: List.replicate 3 (.advance true)

def userLeaves : List Event :=
  [.virtualMedia true, .start (.removeAndClose "user-1" none)] ++
    List.replicate 4 (.run 0 true) ++ List.replicate 3 (.advance true) ++
    .run 0 true :: List.replicate 4 (.advance true)

def completes (s : Server) : Event → Bool
  | .advance answer => answer
  | .virtualMedia webrtc => !webrtc || s.app.sessionCount != 0
  | .audioPlayback enabled => !enabled
  | _ => true

theorem completes_sound (s : Server) (e : Event) (h : completes s e = true) : Completes s e := by
  cases e with
  | advance answer => exact fun _ => h
  | virtualMedia webrtc =>
      cases webrtc with
      | true =>
          intro hempty
          rw [completes, sessionCount_eq_zero.mpr hempty] at h
          cases h
      | false => trivial
  | audioPlayback enabled =>
      cases enabled with
      | true => cases h
      | false => trivial
  | _ => trivial

theorem media_stop_with_last_session_userLeaves :
    ∃ s, Reach step Completes {} s ∧ s.made = [⟨"user-1", .user, 0⟩] ∧ Quiet s := by
  have hexec : (exec step completes {} (userArrives ++ userLeaves)).map
      (fun s => (s.made, s.app.sessionCount, s.tasks, s.lock)) =
        some ([⟨"user-1", .user, 0⟩], 0, [], none) := by
    decide +kernel
  obtain ⟨s, hs, hobs⟩ := exists_reach_of_exec completes_sound hexec
  obtain ⟨hmade, hobs⟩ := Prod.mk.inj hobs
  obtain ⟨hcount, hobs⟩ := Prod.mk.inj hobs
  obtain ⟨htasks, hlock⟩ := Prod.mk.inj hobs
  refine ⟨s, hs, hmade, media_stop_with_last_session hs (sessionCount_eq_zero.mp hcount) ?_⟩
  rintro (⟨t, ht, -⟩ | ⟨c, hc, -⟩)
  · rw [htasks] at ht
    cases ht
  · rw [hlock] at hc
    cases hc

/-! ## With sessions -/

/-- The capture and the audio bridge are started when they should, and no call turns the
audio off. -/
def Succeeds (s : Server) : Event → Prop
  | .advance answer => s.lock = some .startVideo ∨ s.lock = some .startAudio → answer = true
  | .audioPlayback enabled => enabled = true
  | _ => True

def Server.Running (s : Server) : Resource → Bool
  | .capture => s.capture
  | .audio => s.audioRunning
  | _ => true

def Section.drops (r : Resource) : Section → Bool
  | .stopVideo => r = .capture || r = .audio
  | .stopAudio => r = .audio
  | _ => false

def Section.opens (r : Resource) : Section → Bool
  | .firstCount | .startVideo => r = .capture || r = .audio
  | .startAudio => r = .audio
  | _ => false

def Server.MayLack (s : Server) (r : Resource) : Prop :=
  s.Running r = false ∨ ∃ c ∈ s.lock, c.drops r = true

def Server.Promised (s : Server) (r : Resource) : Prop :=
  Task.firstSession ∈ s.tasks ∨ ∃ c ∈ s.lock, c.opens r = true

def Opened (s : Server) : Prop := s.app.sessions ≠ ∅ → ∀ r, s.MayLack r → s.Promised r

section

variable {s s' : Server} {r : Resource} {c : Section} {answer : Bool} {task : Task}

@[simp]
theorem mayLack_goes : (s.goes c).MayLack r ↔ s.Running r = false ∨ c.drops r = true := by
  have hrunning : (s.goes c).Running r = s.Running r := by cases r <;> rfl
  unfold Server.MayLack
  rw [hrunning]
  simp [Server.goes]

@[simp]
theorem mayLack_release : s.release.MayLack r ↔ s.Running r = false := by
  have hrunning : s.release.Running r = s.Running r := by cases r <;> rfl
  unfold Server.MayLack
  rw [hrunning]
  simp [Server.release]

@[simp]
theorem running_spawn : (s.spawn task).Running r = s.Running r := by
  cases r <;> rfl

@[simp]
theorem running_removed {last : Bool} : (s.removed last).Running r = s.Running r := by
  cases last
  · rfl
  · exact running_spawn

@[simp]
theorem mayLack_activated {session : Session} {previous : Option Session} :
    (s.activated session previous).MayLack r ↔ s.Running r = false := by
  unfold Server.activated
  cases previous with
  | none => exact mayLack_release
  | some old =>
      dsimp only
      split
      · exact mayLack_release
      · rw [mayLack_release, running_spawn]

theorem run_mayLack (hlock : s.lock = some c) (hreg : s.app.sessions ≠ ∅)
    (h : (c.run answer s).MayLack r) : s.MayLack r := by
  have hcount : s.app.sessionCount ≠ 0 := fun h => hreg (sessionCount_eq_zero.mp h)
  have hoff (hr : s.Running r = false) : s.MayLack r := .inl hr
  have hdrops (hc : c.drops r = true) : s.MayLack r := .inr ⟨c, hlock, hc⟩
  cases c with
  | attach session connected previous =>
      simp only [Section.run] at h
      split at h
      · exact (mayLack_goes.mp h).elim hoff nofun
      · exact hoff (mayLack_activated.mp h)
  | attachAudio session previous =>
      have hr := mayLack_activated.mp h
      exact hoff (by cases r <;> exact hr)
  | checkHolder id =>
      simp only [Section.run] at h
      split at h
      · exact (mayLack_goes.mp h).elim hoff nofun
      · exact hoff (mayLack_release.mp h)
  | getSession id connected =>
      simp only [Section.run] at h
      split at h
      · exact (mayLack_goes.mp h).elim hoff nofun
      · exact hoff (mayLack_release.mp h)
  | removing removal =>
      cases removal with
      | clearSlots id last =>
          exact (mayLack_goes.mp h).elim (fun hr => hoff (by cases r <;> exact hr)) nofun
      | leaveLease last =>
          have hr := mayLack_release.mp h
          rw [running_spawn, running_removed] at hr
          exact hoff hr
  | firstCount =>
      simp only [Section.run, if_neg hcount] at h
      exact (mayLack_goes.mp h).elim hoff nofun
  | cleanupCount =>
      have hrun : Section.cleanupCount.run answer s = s.release := if_pos hcount
      rw [hrun] at h
      exact hoff (mayLack_release.mp h)
  | lastCount =>
      have hrun : Section.lastCount.run answer s = s.release :=
        if_pos (Nat.pos_of_ne_zero hcount)
      rw [hrun] at h
      exact hoff (mayLack_release.mp h)
  | startVideo =>
      rcases mayLack_goes.mp h with hr | hc
      · cases r with
        | capture => exact hoff (Bool.or_eq_false_iff.mp hr).1
        | videoSinks | audioSinks | medium | audio => exact hoff hr
      · cases hc
  | startAudio =>
      have hr := mayLack_release.mp h
      cases r with
      | audio => exact hoff (Bool.or_eq_false_iff.mp hr).1
      | videoSinks | audioSinks | medium | capture => exact hoff hr
  | stopVideo =>
      rcases mayLack_goes.mp h with hr | hc
      · cases r with
        | capture => exact hdrops rfl
        | videoSinks | audioSinks | medium | audio => exact hoff hr
      · exact hdrops (by cases r <;> first | rfl | cases hc)
  | stopAudio =>
      have hr := mayLack_release.mp h
      cases r with
      | audio => exact hdrops rfl
      | videoSinks | audioSinks | medium | capture => exact hoff hr
  | claimed _ _ | attachVideo _ _ | fillSlot _ | detachVideo _ _ | detachAllVideo
  | detachAllAudio =>
      exact (mayLack_goes.mp h).elim (fun hr => hoff (by cases r <;> exact hr)) nofun
  | detachAudio _ _ | unmount => exact hoff (by cases r <;> exact mayLack_release.mp h)

theorem run_promised (hreg : s.app.sessions ≠ ∅)
    (hok : c = .startVideo ∨ c = .startAudio → answer = true) (hopens : c.opens r = true)
    (h : (c.run answer s).MayLack r) : (c.run answer s).Promised r := by
  cases c with
  | firstCount =>
      have hrun : Section.firstCount.run answer s = s.goes .startVideo :=
        if_neg fun h => hreg (sessionCount_eq_zero.mp h)
      rw [hrun]
      exact .inr ⟨_, rfl, hopens⟩
  | startVideo =>
      cases r with
      | capture =>
          rw [hok (.inl rfl)] at h
          simp [Section.run, Server.Running, Section.drops] at h
      | audio => exact .inr ⟨_, rfl, rfl⟩
      | videoSinks | audioSinks | medium => cases hopens
  | startAudio =>
      cases r with
      | audio =>
          rw [hok (.inr rfl)] at h
          simp [Section.run, Server.Running] at h
      | videoSinks | audioSinks | medium | capture => cases hopens
  | _ => cases hopens

theorem Opened.advance (hs : Opened s) (hlock : s.lock = some c)
    (hok : c = .startVideo ∨ c = .startAudio → answer = true) : Opened (c.run answer s) := by
  intro hreg r hlack
  rw [run_sessions] at hreg
  rcases hs hreg r (run_mayLack hlock hreg hlack) with hfirst | ⟨c', hc', hopens⟩
  · exact .inl (run_tasks hfirst)
  · rw [hlock] at hc'
    cases hc'
    exact run_promised hreg hok hopens hlack

theorem Starts.drops (h : Starts task c) : c.drops r = false := by
  cases h <;> rfl

/-- One step of a task.  `s` is the server without the task, which is the first session's or
has promised nothing. -/
theorem Opened.ran
    (hs : s.app.sessions ≠ ∅ → ∀ r, s.MayLack r → s.Promised r ∨ task = .firstSession)
    (h : Ran s task s') : Opened s' := by
  intro hreg r hlack
  -- sessions that were there before, and what they lacked
  have hkept (hreg : s.app.sessions ≠ ∅) (hlack : s.MayLack r) (hne : task ≠ .firstSession) :
      s.Promised r := (hs hreg r hlack).resolve_right hne
  cases h with
  | ended hend =>
      refine hkept hreg hlack ?_
      rintro rfl
      cases hend
  | @starts _ c hlock hstarts =>
      have hoff := (mayLack_goes.mp hlack).resolve_right (by rw [hstarts.drops]; nofun)
      rcases hs hreg r (.inl hoff) with (hfirst | ⟨c', hc', -⟩) | rfl
      · exact .inl hfirst
      · rw [hlock] at hc'
        cases hc'
      · cases hstarts
        refine .inr ⟨.firstCount, rfl, ?_⟩
        cases r <;> first | rfl | cases hoff
  | claims =>
      have hlack' : s.MayLack r := hlack.imp_left fun hoff => by rwa [running_spawn] at hoff
      exact (hkept hreg hlack' nofun).imp_left fun hfirst => mem_spawn.mpr (.inl hfirst)
  | @claimed session app previous hlock hsessions hnew =>
      have hoff := (mayLack_goes.mp hlack).resolve_right nofun
      have hoff' : s.Running r = false := by cases r <;> exact hoff
      rcases hkept (by rw [← hsessions]; exact hnew) (.inl hoff') nofun with hfirst | ⟨c', hc', -⟩
      · exact .inl hfirst
      · rw [hlock] at hc'
        cases hc'
  | @failed session app hlock hold =>
      have hoff := (mayLack_goes.mp hlack).resolve_right nofun
      have hoff' : s.Running r = false := by cases r <;> exact hoff
      rcases hkept hold (.inl hoff') nofun with hfirst | ⟨c', hc', -⟩
      · exact .inl hfirst
      · rw [hlock] at hc'
        cases hc'
  | removed hold =>
      have hlack' : s.MayLack r := hlack.imp_left fun hoff => by cases r <;> exact hoff
      exact (hkept hold hlack' nofun).imp_left fun hfirst => mem_spawn.mpr (.inl hfirst)
  | cleared =>
      have hlack' : s.MayLack r := hlack.imp_left fun hoff => by cases r <;> exact hoff
      exact (hkept hreg hlack' nofun).imp_left fun hfirst => mem_spawn.mpr (.inl hfirst)
  | @left last =>
      have hreg' : s.app.sessions ≠ ∅ := by
        have happ : ((s.removed last).spawn .cleanupLastSession).app = s.app := removed_app
        rwa [happ] at hreg
      have hlack' : s.MayLack r := by
        refine hlack.imp (fun hoff => ?_) fun hlock => by cases last <;> exact hlock
        rwa [running_spawn, running_removed] at hoff
      refine (hkept hreg' hlack' nofun).imp (fun hfirst => ?_) fun hlock => ?_
      · exact mem_spawn.mpr (.inl (removed_tasks hfirst))
      · cases last <;> exact hlock

theorem Opened.addSession {id : String} {role : SessionRole} (hs : Opened s)
    (h : step s (.addSession id role) = some s') : Opened s' := by
  simp only [MediaLifecycle.step] at h
  intro hreg r hlack
  by_cases hempty : s.app.sessions = ∅
  · obtain ⟨hnone, hcount⟩ := addSession_first ⟨id, role, s.made.length⟩ hempty
    rw [hnone, hcount, if_pos (by rfl)] at h
    cases h
    exact .inl (mem_spawn.mpr (.inr rfl))
  · split at h
    · cases h
      exact .inl (mem_spawn.mpr (.inr rfl))
    · cases h
      have hlack' : s.MayLack r := hlack.imp_left fun hoff => by cases r <;> exact hoff
      exact hs hempty r hlack'

theorem Opened.of_more (hs : Opened s) (happ : s'.app = s.app) (htasks : s'.tasks = s.tasks)
    (hlock : s'.lock = s.lock) (hrunning : ∀ r, s'.Running r = false → s.Running r = false) :
    Opened s' := by
  intro hreg r hlack
  unfold Server.Promised
  rw [htasks, hlock]
  apply hs (happ ▸ hreg)
  unfold Server.MayLack at hlack ⊢
  rw [hlock] at hlack
  exact hlack.imp_left (hrunning r)

theorem Opened.step {e : Event} (hs : Opened s) (hok : Succeeds s e)
    (h : step s e = some s') : Opened s' := by
  cases e with
  | addSession id role => exact hs.addSession h
  | start task =>
      simp only [MediaLifecycle.step] at h
      split at h
      · cases h
        intro hreg r hlack
        have hlack' : s.MayLack r := hlack.imp_left fun hoff => by rwa [running_spawn] at hoff
        exact (hs hreg r hlack').imp_left fun hfirst => mem_spawn.mpr (.inl hfirst)
      · cases h
  | run i answer =>
      obtain ⟨⟨task, rest⟩, hpick, hrun⟩ := Option.bind_eq_some_iff.mp h
      refine Opened.ran (fun hreg r hlack => ?_) (task.ran hrun)
      have hlack' : s.MayLack r := hlack.imp_left fun hoff => by cases r <;> exact hoff
      rcases hs hreg r hlack' with hfirst | hlock
      · rcases (mem_iff_of_pick hpick).mp hfirst with rfl | hfirst
        · exact .inr rfl
        · exact .inl (.inl hfirst)
      · exact .inl (.inr hlock)
  | advance answer =>
      obtain ⟨c, hlock, rfl⟩ := Option.map_eq_some_iff.mp h
      refine hs.advance hlock fun hc => hok ?_
      rw [hlock]
      exact hc.imp (congrArg some) (congrArg some)
  | writeFailed media role id =>
      cases media with
      | video =>
          cases h
          exact hs.of_more rfl rfl rfl fun r hoff => by cases r <;> exact hoff
      | audio =>
          cases h
          exact hs.of_more rfl rfl rfl fun r hoff => by cases r <;> exact hoff
  | virtualMedia webrtc =>
      cases h
      exact hs.of_more rfl rfl rfl fun r hoff => by cases r <;> exact hoff
  | audioPlayback enabled =>
      obtain rfl : enabled = true := hok
      cases h
      exact hs.of_more rfl rfl rfl fun r hoff => by cases r <;> first | exact hoff | cases hoff

end

def Section.startsMedia : Section → Bool
  | .firstCount | .startVideo | .startAudio => true
  | _ => false

def Server.Opening (s : Server) : Prop :=
  Task.firstSession ∈ s.tasks ∨ ∃ c ∈ s.lock, c.startsMedia = true

/-- In every run of such steps, while a session is registered and the task of the first one is
done, the capture and the audio bridge are up. -/
theorem media_run_with_first_session {s : Server} (h : Reach step Succeeds {} s)
    (hreg : s.app.sessions ≠ ∅) (hdone : ¬ s.Opening) :
    s.capture = true ∧ s.audioRunning = true := by
  have hopened : Opened s := by
    refine Reach.invariant ?_ (fun _ _ _ hs hok hstep => hs.step hok hstep) h
    exact fun hreg => absurd rfl hreg
  have hrunning (r : Resource) : s.Running r = true := by
    refine Bool.of_not_eq_false fun hoff => hdone ?_
    refine (hopened hreg r (.inl hoff)).imp_right fun ⟨c, hc, hopens⟩ => ⟨c, hc, ?_⟩
    cases c <;> first | rfl | cases hopens
  exact ⟨hrunning .capture, hrunning .audio⟩

theorem media_run_with_first_session_userArrives :
    ∃ s, Reach step Succeeds {} s ∧ s.app.sessions.lookup "user-1" = some ⟨"user-1", .user, 0⟩ ∧
      s.capture = true ∧ s.audioRunning = true := by
  have hexec : (exec step (fun _ e => e != .audioPlayback false && e != .advance false) {}
      userArrives).map (fun s => (s.app.sessions.lookup "user-1", s.tasks, s.lock)) =
        some (some ⟨"user-1", .user, 0⟩, [], none) := by
    decide +kernel
  have hsound : ∀ (s : Server) (e : Event),
      (e != .audioPlayback false && e != .advance false) = true → Succeeds s e := by
    intro s e he
    cases e with
    | advance answer =>
        cases answer with
        | true => exact fun _ => rfl
        | false => cases he
    | audioPlayback enabled =>
        cases enabled with
        | true => rfl
        | false => cases he
    | _ => trivial
  obtain ⟨s, hs, hobs⟩ := exists_reach_of_exec hsound hexec
  obtain ⟨huser, hobs⟩ := Prod.mk.inj hobs
  obtain ⟨htasks, hlock⟩ := Prod.mk.inj hobs
  refine ⟨s, hs, huser, media_run_with_first_session hs (sessions_ne_empty_of_lookup huser) ?_⟩
  rintro (hfirst | ⟨c, hc, -⟩)
  · rw [htasks] at hfirst
    cases hfirst
  · rw [hlock] at hc
    cases hc

end ArkKvm.MediaLifecycle
