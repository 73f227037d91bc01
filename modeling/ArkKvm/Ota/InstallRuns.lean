import ArkKvm.Lib.Run
import ArkKvm.Ota.Install

/-!
# When an install may start

An install starts for the user or at a quiet time, on a verified package that stays in place.
Between the decision of `ready_update` and the start of `rk_ota` lie several steps, and
`UPDATE_BY_USER` and `AUTO_UPDATE_WAITTING` outlive or underlive what they stand for.
-/

namespace ArkKvm.Ota

open Lib

/-- Auto-update is on, and nobody is at work. -/
def Quiet (switch session : Bool) (idle : Option Nat) : Prop :=
  switch = true ∧ (session = false ∨ otaWaitTime ≤ secondsSinceLastUserInput idle)

def InstallStart.Allowed (st : InstallStart) : Prop :=
  st.requested = true ∨ Quiet st.switch st.session st.idle

def Verified (v : Verifier) (signatures : List String) (package : Option Bytes) : Prop :=
  ∃ content ∈ package, ∃ signature ∈ signatures, Signed v signature content

def InstallPhase.IsRunning : InstallPhase → Bool
  | .running _ => true
  | _ => false

structure Gated (v : Verifier) (s : State) : Prop where
  starts : ∀ st ∈ s.starts, st.Allowed
  one : s.install.tasks.countP InstallPhase.IsRunning ≤ 1
  package : ∀ package, InstallPhase.running package ∈ s.install.tasks →
    s.package = package ∧ Verified v s.signatures package

/-! ## The condition on a step -/

def ReadyPhase.WritesPackage : ReadyPhase → Bool
  | .discardOld _ | .openFile _ | .download _ _ | .discardNew => true
  | _ => false

def ReadyPhase.Checked : ReadyPhase → Bool
  | .top | .polled | .session | .trigger _ => true
  | _ => false

def NoInstall (s : State) : Prop := s.install.starters = [] ∧ s.install.tasks = []

/-- An install has been decided on and not started. -/
def Pending (s : State) (byUser : Bool) : Prop :=
  (∃ t ∈ s.ready.tasks, t.phase = .trigger byUser) ∨ (∃ x ∈ s.install.starters, x.2 = byUser) ∨
    InstallPhase.createDir byUser ∈ s.install.tasks ∨ InstallPhase.run byUser ∈ s.install.tasks

def Deciding (s : State) : Prop :=
  ∃ t ∈ s.ready.tasks, t.phase = .polled ∨ t.phase = .session

/-- What a step needs.  A package is not touched while an install is triggered or runs; the
user flag is not older than the last attempt; while a decision waits for its install, nothing
takes its reason away; and no two starters pass a flag at once. -/
def Calm (s : State) : Event → Prop
  | .setSwitch enabled => enabled = true ∨ (¬ Deciding s ∧ ¬ Pending s false)
  | .userInput => Pending s false → s.session = false
  | .openSession => Pending s false → otaWaitTime ≤ secondsSinceLastUserInput s.idle
  | .startReady i => s.ready.PassesAlone i
  | .startInstall i => s.install.PassesAlone i
  | .ready i _ => ∀ x ∈ Pool.pick i s.ready.tasks,
      (x.1.phase.WritesPackage = true → NoInstall s) ∧
        (x.1.phase = .top → x.1.byUser = true ∨ s.updateByUser = true → s.requested = true)
  | .install i _ => ∀ x ∈ Pool.pick i s.install.tasks, x.1 = .ending → ¬ Pending s true
  | _ => True

instance (s : State) : Decidable (NoInstall s) := inferInstanceAs (Decidable (_ ∧ _))

instance (s : State) (byUser : Bool) : Decidable (Pending s byUser) :=
  inferInstanceAs (Decidable (_ ∨ _ ∨ _ ∨ _))

instance (s : State) : Decidable (Deciding s) :=
  inferInstanceAs (Decidable (∃ t ∈ s.ready.tasks, _))

instance (s : State) : (e : Event) → Decidable (Calm s e)
  | .setSwitch _ => inferInstanceAs (Decidable (_ ∨ _))
  | .userInput => inferInstanceAs (Decidable (_ → _))
  | .openSession => inferInstanceAs (Decidable (_ → _))
  | .startReady i => inferInstanceAs (Decidable (s.ready.PassesAlone i))
  | .startInstall i => inferInstanceAs (Decidable (s.install.PassesAlone i))
  | .ready i _ => inferInstanceAs (Decidable (∀ x ∈ Pool.pick i s.ready.tasks, _))
  | .install i _ => inferInstanceAs (Decidable (∀ x ∈ Pool.pick i s.install.tasks, _))
  | .checkUpdate _ _ | .tick _ | .closeSession | .tryUpdateByUser | .user _ =>
      inferInstanceAs (Decidable True)

/-! ## The invariant -/

def ReadyPhase.signature : ReadyPhase → Option String
  | .probe signature | .hashOld signature | .discardOld signature | .openFile signature
  | .download signature _ | .hashNew signature => some signature
  | _ => none

structure Inv (v : Verifier) (s : State) : Prop where
  ready : s.ready.AtMostOne
  install : s.install.AtMostOne
  infoSignature : ∀ info ∈ s.otaInfo, ∀ signature ∈ info.systemHashSignature,
    signature ∈ s.signatures
  taskSignature : ∀ t ∈ s.ready.tasks, ∀ signature ∈ t.phase.signature, signature ∈ s.signatures
  /-- from the wait loop on, the package is verified -/
  checked : (∃ t ∈ s.ready.tasks, t.phase.Checked = true) ∨ ¬ NoInstall s →
    Verified v s.signatures s.package
  running : ∀ package, InstallPhase.running package ∈ s.install.tasks → s.package = package
  deciding : Deciding s → s.switch = true
  auto : Pending s false → Quiet s.switch s.session s.idle
  user : Pending s true → s.requested = true
  starts : ∀ st ∈ s.starts, st.Allowed

variable {v : Verifier}

theorem Inv.gated {s : State} (h : Inv v s) : Gated v s where
  starts := h.starts
  one := Nat.le_trans List.countP_le_length h.install.length_tasks_le
  package package hmem := by
    have hpackage := h.running package hmem
    refine ⟨hpackage, ?_⟩
    rw [← hpackage]
    apply h.checked
    refine .inr fun hno => ?_
    rw [hno.2] at hmem
    cases hmem

theorem Inv.environment {s : State} (h : Inv v s) {switch requested session updateByUser : Bool}
    {idle : Option Nat} {users : List UserPhase} (hdeciding : Deciding s → switch = true)
    (hauto : Pending s false → Quiet switch session idle)
    (huser : s.requested = true → requested = true) :
    Inv v { s with
      switch := switch
      updateByUser := updateByUser
      requested := requested
      session := session
      idle := idle
      users := users } where
  ready := h.ready
  install := h.install
  infoSignature := h.infoSignature
  taskSignature := h.taskSignature
  checked := h.checked
  running := h.running
  deciding := hdeciding
  auto := hauto
  user hpending := huser (h.user hpending)
  starts := h.starts

theorem verified_mono {signatures signatures' : List String} {package : Option Bytes}
    (hsub : ∀ x ∈ signatures, x ∈ signatures') (h : Verified v signatures package) :
    Verified v signatures' package := by
  obtain ⟨content, hcontent, signature, hsignature, hsigned⟩ := h
  exact ⟨content, hcontent, signature, hsub signature hsignature, hsigned⟩

theorem Inv.learn {s : State} (h : Inv v s) (info : OtaInfo) :
    Inv v { s with
      otaInfo := some info
      signatures := info.systemHashSignature.toList ++ s.signatures } where
  ready := h.ready
  install := h.install
  infoSignature := by
    intro info' hinfo signature hsignature
    cases hinfo
    exact List.mem_append_left _ (Option.mem_toList.mpr hsignature)
  taskSignature t ht signature hsignature :=
    List.mem_append_right _ (h.taskSignature t ht signature hsignature)
  checked hchecked := verified_mono (fun _ hx => List.mem_append_right _ hx) (h.checked hchecked)
  running := h.running
  deciding := h.deciding
  auto := h.auto
  user := h.user
  starts := h.starts

theorem Inv.readyStarters {s : State} (h : Inv v s) {ready : StartFlag Bool ReadyTask}
    (hready : ready.AtMostOne)
    (htasks : ∀ t ∈ ready.tasks, t ∈ s.ready.tasks ∨ t.phase = .readInfo) :
    Inv v { s with ready := ready } where
  ready := hready
  install := h.install
  infoSignature := h.infoSignature
  taskSignature t ht signature hsignature := by
    rcases htasks t ht with hold | hnew
    · exact h.taskSignature t hold signature hsignature
    · rw [hnew] at hsignature
      cases hsignature
  checked := by
    rintro (⟨t, ht, hchecked⟩ | hno)
    · rcases htasks t ht with hold | hnew
      · exact h.checked (.inl ⟨t, hold, hchecked⟩)
      · rw [hnew] at hchecked
        cases hchecked
    · exact h.checked (.inr hno)
  running := h.running
  deciding := by
    rintro ⟨t, ht, hphase⟩
    rcases htasks t ht with hold | hnew
    · exact h.deciding ⟨t, hold, hphase⟩
    · rw [hnew] at hphase
      rcases hphase with hphase | hphase
      · cases hphase
      · cases hphase
  auto := by
    rintro (⟨t, ht, hphase⟩ | hrest)
    · rcases htasks t ht with hold | hnew
      · exact h.auto (.inl ⟨t, hold, hphase⟩)
      · rw [hnew] at hphase
        cases hphase
    · exact h.auto (.inr hrest)
  user := by
    rintro (⟨t, ht, hphase⟩ | hrest)
    · rcases htasks t ht with hold | hnew
      · exact h.user (.inl ⟨t, hold, hphase⟩)
      · rw [hnew] at hphase
        cases hphase
    · exact h.user (.inr hrest)
  starts := h.starts

theorem Inv.readyUpdate {s : State} (h : Inv v s) (byUser : Bool) : Inv v (s.readyUpdate byUser) :=
  h.readyStarters (h.ready.call byUser) fun _ ht => .inl ht

/-! ## Steps of the task that gets the package -/

theorem Inv.readyMove {s : State} (h : Inv v s) {i : Nat} {t : ReadyTask} {rest : List ReadyTask}
    (hpick : Pool.pick i s.ready.tasks = some (t, rest)) (package : Option Bytes)
    (next : ReadyPhase) (hpackage : package = s.package ∨ NoInstall s)
    (hsignature : ∀ signature ∈ next.signature, signature ∈ s.signatures)
    (hchecked : next.Checked = true → Verified v s.signatures package)
    (hdeciding : next = .polled ∨ next = .session → s.switch = true)
    (hauto : next = .trigger false → Quiet s.switch s.session s.idle)
    (huser : next = .trigger true → s.requested = true) :
    Inv v { s with
      package := package
      ready := { s.ready with tasks := ⟨t.byUser, next⟩ :: rest } } := by
  obtain ⟨htasks, rfl⟩ := h.ready.only hpick
  have hmem : ∀ {t' : ReadyTask}, t' ∈ [(⟨t.byUser, next⟩ : ReadyTask)] → t'.phase = next := by
    intro t' ht'
    rw [List.mem_singleton.mp ht']
  constructor
  · exact h.ready.tasks (by rw [htasks]; rfl)
  · exact h.install
  · exact h.infoSignature
  · intro t' ht' signature hsig
    rw [hmem ht'] at hsig
    exact hsignature signature hsig
  · rintro (⟨t', ht', hphase⟩ | hno)
    · rw [hmem ht'] at hphase
      exact hchecked hphase
    · rcases hpackage with rfl | hnone
      · exact h.checked (.inr hno)
      · exact absurd hnone hno
  · intro p hp
    rcases hpackage with rfl | hnone
    · exact h.running p hp
    · have hp' : InstallPhase.running p ∈ s.install.tasks := hp
      rw [hnone.2] at hp'
      cases hp'
  · rintro ⟨t', ht', hphase⟩
    rw [hmem ht'] at hphase
    exact hdeciding hphase
  · rintro (⟨t', ht', hphase⟩ | hrest)
    · rw [hmem ht'] at hphase
      exact hauto hphase
    · exact h.auto (.inr hrest)
  · rintro (⟨t', ht', hphase⟩ | hrest)
    · rw [hmem ht'] at hphase
      exact huser hphase
    · exact h.user (.inr hrest)
  · exact h.starts

theorem Inv.readyQuiet {s : State} (h : Inv v s) {i : Nat} {t : ReadyTask} {rest : List ReadyTask}
    (hpick : Pool.pick i s.ready.tasks = some (t, rest)) (package : Option Bytes)
    (next : ReadyPhase) (hpackage : package = s.package ∨ NoInstall s)
    (hsignature : ∀ signature ∈ next.signature, signature ∈ s.signatures)
    (hout : next.Checked = false) :
    Inv v { s with
      package := package
      ready := { s.ready with tasks := ⟨t.byUser, next⟩ :: rest } } := by
  apply h.readyMove hpick _ _ hpackage hsignature
  · intro hchecked
    rw [hout] at hchecked
    cases hchecked
  · rintro (rfl | rfl)
    · cases hout
    · cases hout
  · rintro rfl
    cases hout
  · rintro rfl
    cases hout

theorem Inv.callInstall {s : State} (h : Inv v s) {byUser : Bool}
    (hverified : Verified v s.signatures s.package)
    (hauto : byUser = false → Quiet s.switch s.session s.idle)
    (huser : byUser = true → s.requested = true) :
    Inv v { s with install := s.install.call byUser } where
  ready := h.ready
  install := h.install.call byUser
  infoSignature := h.infoSignature
  taskSignature := h.taskSignature
  checked _ := hverified
  running := h.running
  deciding := h.deciding
  auto := by
    rintro (hready | ⟨x, hx, hfalse⟩ | htask)
    · exact h.auto (.inl hready)
    · rcases List.mem_cons.mp hx with rfl | hx
      · exact hauto hfalse
      · exact h.auto (.inr (.inl ⟨x, hx, hfalse⟩))
    · exact h.auto (.inr (.inr htask))
  user := by
    rintro (hready | ⟨x, hx, htrue⟩ | htask)
    · exact h.user (.inl hready)
    · rcases List.mem_cons.mp hx with rfl | hx
      · exact huser htrue
      · exact h.user (.inr (.inl ⟨x, hx, htrue⟩))
    · exact h.user (.inr (.inr htask))
  starts := h.starts

theorem Inv.failures {s : State} (h : Inv v s) (n : Nat) :
    Inv v { s with downloadFailedTimes := n } where
  ready := h.ready
  install := h.install
  infoSignature := h.infoSignature
  taskSignature := h.taskSignature
  checked := h.checked
  running := h.running
  deciding := h.deciding
  auto := h.auto
  user := h.user
  starts := h.starts

theorem Inv.retryDownload {s : State} (h : Inv v s) (byUser : Bool) :
    Inv v (retryDownload s byUser) ∧ (Ota.retryDownload s byUser).ready.tasks = s.ready.tasks := by
  unfold Ota.retryDownload
  split
  · exact ⟨h, rfl⟩
  · split
    · exact ⟨(h.readyUpdate false).failures _, rfl⟩
    · exact ⟨h.failures 0, rfl⟩

theorem verified_of_passes {s : State} {signature : String} {o : Outcome}
    (h : passes v s signature o = true) (hsignature : signature ∈ s.signatures) :
    Verified v s.signatures s.package := by
  unfold passes at h
  rw [Bool.and_eq_true] at h
  cases hpackage : s.package with
  | none =>
      rw [hpackage] at h
      cases h.2
  | some content =>
      rw [hpackage] at h
      exact ⟨content, rfl, signature, hsignature, of_decide_eq_true h.2⟩

theorem Inv.readyTop {s : State} (h : Inv v s) {i : Nat} {byUser : Bool} {rest : List ReadyTask}
    (hpick : Pool.pick i s.ready.tasks = some (⟨byUser, .top⟩, rest)) (o : Outcome)
    (hfresh : byUser = true ∨ s.updateByUser = true → s.requested = true) :
    Inv v { s with
      ready := { s.ready with
        tasks := ⟨byUser, (readyNext v s o byUser .top).2⟩ :: rest } } := by
  have hverified := h.checked (.inl ⟨_, (Pool.mem_of_pick hpick).1, rfl⟩)
  show Inv v { s with ready := { s.ready with
    tasks := ⟨byUser, if byUser || s.updateByUser then .trigger true
      else if s.switch then .polled else .finish⟩ :: rest } }
  by_cases huser : (byUser || s.updateByUser) = true
  · rw [if_pos huser]
    have hrequested := hfresh (Bool.or_eq_true _ _ ▸ huser)
    exact h.readyMove hpick s.package _ (.inl rfl) nofun (fun _ => hverified) nofun nofun
      fun _ => hrequested
  · rw [if_neg huser]
    by_cases hswitch : s.switch = true
    · rw [if_pos hswitch]
      exact h.readyMove hpick s.package _ (.inl rfl) nofun (fun _ => hverified)
        (fun _ => hswitch) nofun nofun
    · rw [if_neg hswitch]
      exact h.readyQuiet hpick s.package .finish (.inl rfl) nofun rfl

theorem Inv.readyAsk {s : State} (h : Inv v s) {i : Nat} {byUser : Bool} {phase : ReadyPhase}
    {rest : List ReadyTask} (hpick : Pool.pick i s.ready.tasks = some (⟨byUser, phase⟩, rest))
    (hphase : phase = .polled ∨ phase = .session) (o : Outcome) :
    Inv v { s with
      ready := { s.ready with
        tasks := ⟨byUser, (readyNext v s o byUser phase).2⟩ :: rest } } := by
  have hmem := (Pool.mem_of_pick hpick).1
  have hswitch := h.deciding ⟨_, hmem, hphase⟩
  have hverified : Verified v s.signatures s.package := by
    apply h.checked
    refine .inl ⟨_, hmem, ?_⟩
    rcases hphase with rfl | rfl
    · rfl
    · rfl
  have htrigger : s.session = false ∨ otaWaitTime ≤ secondsSinceLastUserInput s.idle →
      Inv v { s with ready := { s.ready with tasks := ⟨byUser, .trigger false⟩ :: rest } } :=
    fun hquiet => h.readyMove hpick s.package _ (.inl rfl) nofun (fun _ => hverified)
      nofun (fun _ => ⟨hswitch, hquiet⟩) nofun
  rcases hphase with rfl | rfl
  · show Inv v { s with ready := { s.ready with
      tasks := ⟨byUser, if s.session then .session else .trigger false⟩ :: rest } }
    by_cases hsession : s.session = true
    · rw [if_pos hsession]
      exact h.readyMove hpick s.package _ (.inl rfl) nofun (fun _ => hverified)
        (fun _ => hswitch) nofun nofun
    · rw [if_neg hsession]
      exact htrigger (.inl (Bool.eq_false_iff.mpr hsession))
  · show Inv v { s with ready := { s.ready with
      tasks := ⟨byUser, if secondsSinceLastUserInput s.idle < otaWaitTime then .top
        else .trigger false⟩ :: rest } }
    by_cases hactive : secondsSinceLastUserInput s.idle < otaWaitTime
    · rw [if_pos hactive]
      exact h.readyMove hpick s.package _ (.inl rfl) nofun (fun _ => hverified) nofun
        nofun nofun
    · rw [if_neg hactive]
      exact htrigger (.inr (Nat.le_of_not_lt hactive))

theorem Inv.readyFetch {s : State} (h : Inv v s) {i : Nat} {byUser : Bool} {phase : ReadyPhase}
    {rest : List ReadyTask} (hpick : Pool.pick i s.ready.tasks = some (⟨byUser, phase⟩, rest))
    (hsig : phase.signature ≠ none) (o : Outcome)
    (hfile : phase.WritesPackage = true → NoInstall s) :
    Inv v (let next := readyNext v s o byUser phase
      { next.1 with ready := { next.1.ready with tasks := ⟨byUser, next.2⟩ :: rest } }) := by
  have hmem := (Pool.mem_of_pick hpick).1
  have hsignature := h.taskSignature _ hmem
  have hnone : ∀ {next : ReadyPhase}, next.signature = none →
      ∀ signature ∈ next.signature, signature ∈ s.signatures := by
    intro next hnext signature hmem'
    rw [hnext] at hmem'
    cases hmem'
  have hstay : ∀ {next : ReadyPhase}, next.Checked = false →
      (∀ signature ∈ next.signature, signature ∈ s.signatures) →
      Inv v { s with ready := { s.ready with tasks := ⟨byUser, next⟩ :: rest } } :=
    fun hout hnext => h.readyQuiet hpick s.package _ (.inl rfl) hnext hout
  have hpassed : ∀ {signature : String}, phase.signature = some signature →
      passes v s signature o = true →
      Inv v { s with ready := { s.ready with tasks := ⟨byUser, .top⟩ :: rest } } := by
    intro signature hphase hpasses
    have hverified := verified_of_passes hpasses (hsignature signature hphase)
    exact h.readyMove hpick s.package _ (.inl rfl) nofun (fun _ => hverified) nofun
      nofun nofun
  cases phase with
  | probe signature =>
      simp only [readyNext]
      split
      · exact hstay rfl hsignature
      · exact hstay rfl hsignature
  | hashOld signature =>
      simp only [readyNext]
      split
      · next hpasses => exact hpassed rfl hpasses
      · exact hstay rfl hsignature
  | discardOld signature =>
      simp only [readyNext]
      split
      · exact h.readyQuiet hpick none (.openFile signature) (.inr (hfile rfl))
          hsignature rfl
      · exact hstay rfl hsignature
  | openFile signature =>
      simp only [readyNext]
      split
      · exact h.readyQuiet hpick (some []) (.download signature 0) (.inr (hfile rfl))
          hsignature rfl
      · exact hstay rfl (hnone rfl)
  | download signature position =>
      simp only [readyNext]
      split
      · split
        · next bytes _ =>
            exact h.readyQuiet hpick _ (.download signature (position + bytes.length))
              (.inr (hfile rfl)) hsignature rfl
        · exact hstay rfl hsignature
      · exact hstay rfl (hnone rfl)
  | hashNew signature =>
      simp only [readyNext]
      split
      · next hpasses => exact hpassed rfl hpasses
      · split
        · exact hstay rfl (hnone rfl)
        · exact hstay rfl (hnone rfl)
  | readInfo => exact absurd rfl hsig
  | discardNew => exact absurd rfl hsig
  | failed => exact absurd rfl hsig
  | top => exact absurd rfl hsig
  | polled => exact absurd rfl hsig
  | session => exact absurd rfl hsig
  | trigger decided => exact absurd rfl hsig
  | finish => exact absurd rfl hsig

theorem Inv.readyStep {s : State} (h : Inv v s) {i : Nat} {t : ReadyTask} {rest : List ReadyTask}
    (hpick : Pool.pick i s.ready.tasks = some (t, rest)) (o : Outcome)
    (hfile : t.phase.WritesPackage = true → NoInstall s)
    (hfresh : t.phase = .top → t.byUser = true ∨ s.updateByUser = true → s.requested = true)
    (hlast : t.phase ≠ .finish) :
    Inv v (let next := readyNext v s o t.byUser t.phase
      { next.1 with ready := { next.1.ready with tasks := ⟨t.byUser, next.2⟩ :: rest } }) := by
  obtain ⟨byUser, phase⟩ := t
  have hmem := (Pool.mem_of_pick hpick).1
  cases phase with
  | readInfo =>
      simp only [readyNext]
      split
      · next url signature hinfo =>
          refine h.readyQuiet hpick s.package (.probe signature) (.inl rfl) ?_ rfl
          intro signature' hsignature
          cases hsignature
          exact h.infoSignature _ hinfo _ rfl
      · exact h.readyQuiet hpick s.package .finish (.inl rfl) nofun rfl
  | discardNew =>
      simp only [readyNext]
      split
      · exact h.readyQuiet hpick none .finish (.inr (hfile rfl)) nofun rfl
      · exact h.readyQuiet hpick s.package .finish (.inl rfl) nofun rfl
  | failed =>
      obtain ⟨hretry, htasks⟩ := h.retryDownload byUser
      rw [← htasks] at hpick
      exact hretry.readyQuiet hpick (Ota.retryDownload s byUser).package .finish (.inl rfl) nofun rfl
  | trigger decided =>
      have hverified := h.checked (.inl ⟨_, hmem, rfl⟩)
      have hcall : Inv v { s with install := s.install.call decided } := by
        apply h.callInstall hverified
        · rintro rfl
          exact h.auto (.inl ⟨_, hmem, rfl⟩)
        · rintro rfl
          exact h.user (.inl ⟨_, hmem, rfl⟩)
      exact hcall.readyQuiet hpick s.package .finish (.inl rfl) nofun rfl
  | top => exact h.readyTop hpick o (hfresh rfl)
  | polled => exact h.readyAsk hpick (.inl rfl) o
  | session => exact h.readyAsk hpick (.inr rfl) o
  | probe signature => exact h.readyFetch hpick nofun o hfile
  | hashOld signature => exact h.readyFetch hpick nofun o hfile
  | discardOld signature => exact h.readyFetch hpick nofun o hfile
  | openFile signature => exact h.readyFetch hpick nofun o hfile
  | download signature position => exact h.readyFetch hpick nofun o hfile
  | hashNew signature => exact h.readyFetch hpick nofun o hfile
  | finish => exact absurd rfl hlast

theorem Inv.readyFinish {s : State} (h : Inv v s) {i : Nat} {t : ReadyTask} {rest : List ReadyTask}
    (hpick : Pool.pick i s.ready.tasks = some (t, rest)) :
    Inv v { s with ready := { s.ready with
      flag := false
      tasks := rest } } := by
  apply h.readyStarters (h.ready.finish hpick)
  intro t' ht'
  exact .inl ((Pool.mem_of_pick hpick).2 t' ht')

/-! ## Steps of installs -/

theorem Inv.startInstall {s : State} (h : Inv v s) {i : Nat} {install : StartFlag Bool InstallPhase}
    (halone : s.install.PassesAlone i) (hs : s.install.start .createDir i = some install) :
    Inv v { s with install := install } := by
  obtain ⟨hne, hstarters, htasks⟩ := StartFlag.start_mem hs
  have hinstall : ¬ NoInstall s := fun hno => hne hno.1
  have hpending : ∀ {byUser : Bool}, Pending { s with install := install } byUser →
      Pending s byUser := by
    rintro byUser (hready | ⟨x, hx, hbyUser⟩ | htask)
    · exact .inl hready
    · obtain ⟨y, hy, hsame⟩ := hstarters x hx
      exact .inr (.inl ⟨y, hy, hsame.trans hbyUser⟩)
    · rcases htask with hcreate | hrun
      · rcases htasks _ hcreate with hold | ⟨y, hy, heq⟩
        · exact .inr (.inr (.inl hold))
        · exact .inr (.inl ⟨y, hy, (InstallPhase.createDir.inj heq).symm⟩)
      · rcases htasks _ hrun with hold | ⟨y, -, heq⟩
        · exact .inr (.inr (.inr hold))
        · cases heq
  constructor
  · exact h.ready
  · exact h.install.start halone hs
  · exact h.infoSignature
  · exact h.taskSignature
  · intro _
    exact h.checked (.inr hinstall)
  · intro package hpackage
    rcases htasks _ hpackage with hold | ⟨y, -, heq⟩
    · exact h.running package hold
    · cases heq
  · exact h.deciding
  · exact fun hp => h.auto (hpending hp)
  · exact fun hp => h.user (hpending hp)
  · exact h.starts

theorem Inv.installMove {s : State} (h : Inv v s) {i : Nat} {t : InstallPhase}
    {rest : List InstallPhase} (hpick : Pool.pick i s.install.tasks = some (t, rest))
    (next : InstallPhase) {starts : List InstallStart}
    (hcreate : ∀ byUser, next ≠ .createDir byUser)
    (hrun : ∀ byUser, next = .run byUser → Pending s byUser)
    (hrunning : ∀ package, next = .running package → s.package = package)
    (hstarts : ∀ st ∈ starts, st.Allowed) :
    Inv v { s with
      starts := starts
      install := { s.install with tasks := next :: rest } } := by
  obtain ⟨htasks, rfl⟩ := h.install.only hpick
  have hinstall : ¬ NoInstall s := fun hno => by
    have hempty := hno.2
    rw [htasks] at hempty
    cases hempty
  have hpending : ∀ {byUser : Bool}, Pending { s with
      starts := starts
      install := { s.install with tasks := [next] } } byUser → Pending s byUser := by
    rintro byUser (hready | hstarter | hnew | hnew)
    · exact .inl hready
    · exact .inr (.inl hstarter)
    · exact absurd (List.mem_singleton.mp hnew).symm (hcreate byUser)
    · exact hrun byUser (List.mem_singleton.mp hnew).symm
  constructor
  · exact h.ready
  · exact h.install.tasks (by rw [htasks]; rfl)
  · exact h.infoSignature
  · exact h.taskSignature
  · intro _
    exact h.checked (.inr hinstall)
  · intro package hpackage
    exact hrunning package (List.mem_singleton.mp hpackage).symm
  · exact h.deciding
  · exact fun hp => h.auto (hpending hp)
  · exact fun hp => h.user (hpending hp)
  · exact hstarts

theorem Inv.installStep {s : State} (h : Inv v s) {i : Nat} {t : InstallPhase}
    {rest : List InstallPhase} (hpick : Pool.pick i s.install.tasks = some (t, rest)) (ok : Bool)
    (hlast : t ≠ .ending) :
    Inv v (let next := installNext s ok t
      { next.1 with install := { next.1.install with tasks := next.2 :: rest } }) := by
  have hmem := (Pool.mem_of_pick hpick).1
  cases t with
  | createDir byUser =>
      cases ok with
      | true =>
          refine h.installMove hpick (.run byUser) nofun ?_ nofun h.starts
          rintro _ heq
          cases heq
          exact .inr (.inr (.inl hmem))
      | false => exact h.installMove hpick .ending nofun nofun nofun h.starts
  | run byUser =>
      have hpending : Pending s byUser := .inr (.inr (.inr hmem))
      refine h.installMove hpick (.running s.package) nofun nofun ?_ ?_
      · rintro _ heq
        cases heq
        rfl
      · intro st hst
        rcases List.mem_cons.mp hst with rfl | hst
        · cases byUser with
          | true => exact .inl (h.user hpending)
          | false => exact .inr (h.auto hpending)
        · exact h.starts st hst
  | running package => exact h.installMove hpick .ending nofun nofun nofun h.starts
  | ending => exact absurd rfl hlast

theorem Inv.installFinish {s : State} (h : Inv v s) {i : Nat} {t : InstallPhase}
    {rest : List InstallPhase} (hpick : Pool.pick i s.install.tasks = some (t, rest))
    (hnone : ¬ Pending s true) :
    Inv v { s with
      requested := false
      install := { s.install with
        flag := false
        tasks := rest } } := by
  obtain ⟨htasks, rfl⟩ := h.install.only hpick
  have hinstall : ¬ NoInstall s := fun hno => by
    have hempty := hno.2
    rw [htasks] at hempty
    cases hempty
  have hpending : ∀ {byUser : Bool}, Pending { s with
      requested := false
      install := { s.install with
        flag := false
        tasks := [] } } byUser → Pending s byUser := by
    rintro byUser (hready | hstarter | hnew | hnew)
    · exact .inl hready
    · exact .inr (.inl hstarter)
    · cases hnew
    · cases hnew
  constructor
  · exact h.ready
  · exact h.install.finish hpick
  · exact h.infoSignature
  · exact h.taskSignature
  · intro _
    exact h.checked (.inr hinstall)
  · nofun
  · exact h.deciding
  · exact fun hp => h.auto (hpending hp)
  · exact fun hp => absurd (hpending hp) hnone
  · exact h.starts

/-! ## Runs -/

theorem quiet_tick {switch session : Bool} {idle : Option Nat} (seconds : Nat)
    (h : Quiet switch session idle) : Quiet switch session (idle.map (· + seconds)) := by
  refine ⟨h.1, h.2.imp_right fun hidle => ?_⟩
  cases idle with
  | none => exact hidle
  | some n => exact Nat.le_trans hidle (Nat.le_add_right n seconds)

theorem step_inv {s s' : State} {e : Event} (h : Inv v s) (hok : Calm s e)
    (hs : step v s e = some s') : Inv v s' := by
  cases e with
  | setSwitch enabled =>
      cases hs
      rcases hok with rfl | ⟨hdeciding, hauto⟩
      · exact h.environment (fun _ => rfl) (fun hp => ⟨rfl, (h.auto hp).2⟩) id
      · exact h.environment (fun hd => absurd hd hdeciding) (fun hp => absurd hp hauto) id
  | checkUpdate auto info =>
      cases hs
      have hlearned := h.learn info
      split
      · exact hlearned.readyUpdate false
      · exact hlearned
  | tick seconds =>
      cases hs
      exact h.environment h.deciding (fun hp => quiet_tick seconds (h.auto hp)) id
  | userInput =>
      cases hs
      exact h.environment h.deciding (fun hp => ⟨(h.auto hp).1, .inl (hok hp)⟩) id
  | openSession =>
      cases hs
      exact h.environment h.deciding (fun hp => ⟨(h.auto hp).1, .inr (hok hp)⟩) id
  | closeSession =>
      cases hs
      exact h.environment h.deciding (fun hp => ⟨(h.auto hp).1, .inl rfl⟩) id
  | tryUpdateByUser =>
      cases hs
      exact h.environment h.deciding h.auto id
  | user i =>
      obtain ⟨⟨phase, rest⟩, hpick, rfl⟩ := Option.map_eq_some_iff.mp hs
      cases phase with
      | load => exact h.environment h.deciding h.auto id
      | store ready =>
          have hstored : Inv v { s with
              requested := true
              updateByUser := true
              users := rest } := h.environment h.deciding h.auto fun _ => rfl
          cases ready with
          | true => exact hstored.readyUpdate true
          | false => exact hstored
  | startReady i =>
      obtain ⟨ready, hready, rfl⟩ := Option.map_eq_some_iff.mp hs
      obtain ⟨-, -, htasks⟩ := StartFlag.start_mem hready
      apply h.readyStarters (h.ready.start hok hready)
      intro t ht
      rcases htasks t ht with hold | ⟨y, -, rfl⟩
      · exact .inl hold
      · exact .inr rfl
  | ready i o =>
      obtain ⟨⟨t, rest⟩, hpick, rfl⟩ := Option.map_eq_some_iff.mp hs
      obtain ⟨hfile, hfresh⟩ := hok _ hpick
      split
      · exact h.readyFinish hpick
      · next hlast => exact h.readyStep hpick o hfile hfresh hlast
  | startInstall i =>
      obtain ⟨install, hinstall, rfl⟩ := Option.map_eq_some_iff.mp hs
      exact h.startInstall hok hinstall
  | install i ok =>
      obtain ⟨⟨t, rest⟩, hpick, rfl⟩ := Option.map_eq_some_iff.mp hs
      split
      · next hlast => exact h.installFinish hpick (hok _ hpick hlast)
      · next hlast => exact h.installStep hpick ok hlast

/-- A device after its start, with any older package. -/
def started (package : Option Bytes) : State := { package := package }

theorem inv_started (package : Option Bytes) : Inv v (started package) where
  ready := StartFlag.atMostOne_clear
  install := StartFlag.atMostOne_clear
  infoSignature := nofun
  taskSignature := nofun
  checked := by
    rintro (⟨t, ht, -⟩ | hno)
    · cases ht
    · exact absurd ⟨rfl, rfl⟩ hno
  running := nofun
  deciding := by
    rintro ⟨t, ht, -⟩
    cases ht
  auto := by
    rintro (⟨t, ht, -⟩ | ⟨x, hx, -⟩ | hnew | hnew)
    · cases ht
    · cases hx
    · cases hnew
    · cases hnew
  user := by
    rintro (⟨t, ht, -⟩ | ⟨x, hx, -⟩ | hnew | hnew)
    · cases ht
    · cases hx
    · cases hnew
    · cases hnew
  starts := nofun

/-- In every calm run, installs are gated. -/
theorem installs_gated (v : Verifier) {package : Option Bytes} {s : State}
    (hrun : Run.Reach (step v) Calm (started package) s) : Gated v s := by
  have hinv : Inv v s :=
    hrun.invariant (inv_started package) fun _ _ _ h hok hs => step_inv h hok hs
  exact hinv.gated

/-! ## Two runs -/

/-- SHA-256 of one byte, and a signature of it. -/
private def oneByte : Verifier where
  sha256Hex content :=
    if content = [1] then "4bf5122f344554c53bde2ebb8cd2b7e3d1600ad631c385a5d7cce23c7785459a" else ""
  verifyPackage signature hash := decide (signature = "c2ln" ∧
    hash = "4bf5122f344554c53bde2ebb8cd2b7e3d1600ad631c385a5d7cce23c7785459a")

private def oneByteInfo : OtaInfo := ⟨some "https://ota/system.tar", some "c2ln"⟩

/-- From a call of `ready_update` to the head of the wait loop, with a download. -/
private def download : List Event :=
  [.startReady 0, .startReady 0, .startReady 0, .ready 0 {}, .ready 0 {}, .ready 0 {},
    .ready 0 { chunk := some [1] }, .ready 0 {}, .ready 0 {}]

private def install : List Event :=
  [.startInstall 0, .startInstall 0, .startInstall 0, .install 0 true, .install 0 true]

private def quietUpdate : List Event :=
  List.flatten [
    [.setSwitch true, .checkUpdate true oneByteInfo], download,
    [.ready 0 {}, .ready 0 {}, .ready 0 {}, .ready 0 {}], install]

theorem installs_gated_quiet :
    ∃ s, s.install.tasks = [.running (some [1])] ∧ s.starts.length = 1 ∧ Gated oneByte s := by
  have hexec : (Run.exec (step oneByte) (fun s e => decide (Calm s e)) (started none)
      quietUpdate).map (fun s => (s.install.tasks, s.starts.length)) =
        some ([.running (some [1])], 1) := by
    decide +kernel
  obtain ⟨s, hrun, hend⟩ := Run.exists_reach_of_exec (fun _ _ => of_decide_eq_true) hexec
  obtain ⟨htasks, hstarts⟩ := Prod.mk.inj hend
  exact ⟨s, htasks, hstarts, installs_gated oneByte hrun⟩

/-- The user asks for an update, which fails; later the package is found again while the user
is at work. -/
private def staleRequest : List Event :=
  List.flatten [
    [.checkUpdate false oneByteInfo, .tryUpdateByUser, .user 0, .user 0], download,
    [.ready 0 {}, .ready 0 {}, .ready 0 {}], install, [.install 0 false, .install 0 false],
    [.setSwitch true, .openSession, .userInput, .checkUpdate true oneByteInfo, .startReady 0,
      .startReady 0, .startReady 0, .ready 0 {}, .ready 0 {}, .ready 0 {}, .ready 0 {},
      .ready 0 {}], install]

/-- The request outlives its attempt: an install starts under an active user. -/
theorem stale_request_installs :
    ¬ ∀ (v : Verifier) (package : Option Bytes) (s : State),
      Run.Reach (step v) Run.anyStep (started package) s → Gated v s := by
  intro h
  have hexec : (Run.exec (step oneByte) (fun _ _ => true) (started none) staleRequest).map
      (fun s => s.starts.head?.map fun st => (st.requested, st.switch, st.session, st.idle)) =
        some (some (false, true, true, some 0)) := by
    decide +kernel
  obtain ⟨s, hrun, hend⟩ := Run.exists_reach_of_exec (fun _ _ _ => trivial) hexec
  obtain ⟨st, hst, hfields⟩ := Option.map_eq_some_iff.mp hend
  obtain ⟨hrequested, hrest⟩ := Prod.mk.inj hfields
  obtain ⟨-, hrest⟩ := Prod.mk.inj hrest
  obtain ⟨hsession, hidle⟩ := Prod.mk.inj hrest
  rcases (h oneByte none s hrun).starts st (List.mem_of_mem_head? hst) with hasked | ⟨-, hquiet⟩
  · rw [hrequested] at hasked
    cases hasked
  · rw [hsession, hidle] at hquiet
    rcases hquiet with hnone | hlong
    · cases hnone
    · exact absurd hlong (by decide)

end ArkKvm.Ota
