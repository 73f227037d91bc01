import ArkKvm.FtUpload.WriterSteps

/-!
# File transfer uploads are exclusive

As long as the steps keep apart, no start touches the cache file of an active session with
bytes, and the file is as long as the counter of its one owner says.
-/

namespace ArkKvm.FtUpload.Exclusive

open Lib
open Upload (Path UploadId StorageFileUpload)

variable {F C : Path} {sh : Shared}

/-! ## One step -/

theorem startNext_idle (o : StartOutcome) (size : Int) {phase : StartPhase}
    (hidle : phase.acts = true → phase = .take ∧ Claimed sh.store F C) :
    (startNext o F C size phase sh.store).1 = sh.store := by
  have hsame : Action.wp (startNext o F C size phase) (fun _ store => store = sh.store)
      sh.store := by
    cases phase with
    | checkFinal =>
        refine wp_fsExists_bind ?_ (fun _ => rfl)
        exact Action.wp_ensure_bind (fun _ => rfl) (fun _ => rfl)
    | checkCache => exact wp_fsExists_bind rfl (fun _ => rfl)
    | sizeCache =>
        refine Action.wp_bind (Q := fun _ store => store = sh.store) ?_ (fun _ _ hs => hs)
          (fun _ _ hs => hs)
        unfold Action.wp fileSize
        split <;> rfl
    | checkActive len =>
        refine Action.wp_bind (activeUpload_same true o.pickActive sh.store) ?_ (fun _ _ hs => hs)
        rintro found store rfl
        cases found <;> rfl
    | checkClosed len => rfl
    | take =>
        exact Action.wp_of_run_error (takeEntries_of_claimed (hidle rfl).2) rfl
    | _ => exact absurd (hidle rfl).1 nofun
  exact hsame

theorem sound_of_not_looked {phase : StartPhase} (h : phase.looked = false) :
    Sound F C sh phase := by
  cases phase with
  | checkFinal => trivial
  | checkCache => trivial
  | sizeCache => trivial
  | _ => cases h

/-! ## Runs -/

structure RunInv (F C : Path) (s : State) : Prop where
  inv : Inv F C s.shared
  sound : ∀ {n st}, s.starts.lookup n = some st → Sound F C s.shared st.phase

variable {s s' : State}

theorem startStep_cases {n : Nat} {o : StartOutcome}
    (hstep : step F C s (.startStep n o) = some s') :
    ∃ st, s.starts.lookup n = some st ∧
      (st.phase.locks = true → s.shared.appending = none) ∧
      s' = s.afterStart n st (startNext o F C st.size st.phase s.shared.store).1
        (startNext o F C st.size st.phase s.shared.store).2 := by
  obtain ⟨st, hst, hnext⟩ := Option.bind_eq_some_iff.mp hstep
  split at hnext
  · cases hnext
  · next hlocked =>
      cases hnext
      refine ⟨st, hst, fun hlocks => ?_, rfl⟩
      rw [hlocks, Bool.true_and, Option.not_isSome_iff_eq_none] at hlocked
      exact hlocked

theorem afterStart_shared (n : Nat) (st : Start) (store : Store)
    (r : Except String (StartPhase ⊕ StorageFileUpload)) :
    (s.afterStart n st store r).shared = s.shared.withStore store := by
  rcases r with e | phase | up
  · rfl
  · rfl
  · rfl

theorem lookup_afterStart {n n' : Nat} {st st' : Start} {store : Store}
    {r : Except String (StartPhase ⊕ StorageFileUpload)}
    (h : (s.afterStart n st store r).starts.lookup n' = some st') :
    (n' ≠ n ∧ s.starts.lookup n' = some st') ∨ r = .ok (.inl st'.phase) := by
  rcases r with e | phase | up
  · exact .inl (Table.lookup_erase_iff.mp h)
  · rcases Table.lookup_insert_iff.mp h with ⟨-, rfl⟩ | hold
    · exact .inr rfl
    · exact .inl hold
  · exact .inl (Table.lookup_erase_iff.mp h)

theorem startStep_keeps (h : RunInv F C s) {n : Nat} {o : StartOutcome}
    (hok : Apart F C s (.startStep n o)) (hstep : step F C s (.startStep n o) = some s') :
    RunInv F C s' ∧ Untouched C s.shared s'.shared.store := by
  obtain ⟨st, hst, hfree, rfl⟩ := startStep_cases hstep
  have hnext : StartStep F C s.shared (startNext o F C st.size st.phase s.shared.store).2
      (startNext o F C st.size st.phase s.shared.store).1 := by
    refine startNext_step h.inv hfree (h.sound hst) fun htake hunclaimed => ?_
    exact (hok st hst ⟨by rw [htake]; rfl, fun _ => hunclaimed⟩).2 htake
  refine ⟨⟨?_, ?_⟩, ?_⟩
  · rw [afterStart_shared]
    exact hnext.inv
  · intro n' st' hst'
    rw [afterStart_shared]
    rcases lookup_afterStart hst' with ⟨hne, hold⟩ | hgoes
    · -- another start: it has not looked, or this one changes nothing
      by_cases hacting : Acting F C s.shared st
      · exact sound_of_not_looked ((hok st hst hacting).1 n' st' hold hne)
      · have hidle : (startNext o F C st.size st.phase s.shared.store).1 = s.shared.store := by
          refine startNext_idle o st.size fun hacts => ?_
          by_contra hnot
          exact hacting ⟨hacts, fun htake hclaimed => hnot ⟨htake, hclaimed⟩⟩
        rw [hidle]
        exact h.sound hold
    · exact hnext.sound _ hgoes
  · rw [afterStart_shared]
    exact hnext.untouched

theorem step_keeps (s : State) (ev : Event) (s' : State) (h : RunInv F C s)
    (hok : Apart F C s ev) (hstep : step F C s ev = some s') : RunInv F C s' := by
  cases ev with
  | start size =>
      cases hstep
      refine ⟨h.inv, fun hst => ?_⟩
      rcases Table.lookup_insert_iff.mp hst with ⟨-, rfl⟩ | ⟨-, hold⟩
      · trivial
      · exact h.sound hold
  | startStep n o => exact (startStep_keeps h hok hstep).1
  | writer ev =>
      obtain ⟨sh, hsh, rfl⟩ := Option.map_eq_some_iff.mp hstep
      have hkeeps := writerStep_keeps h.inv hok hsh
      exact ⟨hkeeps.inv, fun hst => (h.sound hst).still hkeeps.still⟩

/-- Before the first call: no session, whatever is on disk. -/
def booted (disk : Disk Path) : State where
  shared :=
    { store := ⟨disk, ∅, ∅, 0⟩
      writers := ∅
      nextWriter := 0
      appending := none }
  starts := ∅
  nextStart := 0

theorem runInv_booted (disk : Disk Path) : RunInv F C (booted disk) := by
  have hpending : ∀ {id e}, (booted disk).shared.store.pending.lookup id ≠ some e := by
    simp [booted]
  have hclosed : ∀ {id e}, (booted disk).shared.store.closed.lookup id ≠ some e := by
    simp [booted]
  have hwriters : ∀ {w wr}, (booted disk).shared.writers.lookup w ≠ some wr := by simp [booted]
  have hstarts : ∀ {n st}, (booted disk).starts.lookup n ≠ some st := by simp [booted]
  have howner : ∀ {id e}, ¬ Owner (booted disk).shared id e := by
    rintro id e (⟨hlookup, -⟩ | hlookup)
    · exact hpending hlookup
    · exact hclosed hlookup
  refine ⟨?_, fun hst => absurd hst hstarts⟩
  constructor
  · rintro id e (hlookup | hlookup)
    · exact absurd hlookup hpending
    · exact absurd hlookup hclosed
  · exact fun hlookup => absurd hlookup hclosed
  · exact fun hown => absurd hown howner
  · exact fun hown => absurd hown howner
  · exact fun hlookup => absurd hlookup hpending
  · exact fun hw => absurd hw hwriters
  · exact fun hw => absurd hw hwriters
  · nofun
  · exact fun hlookup => absurd hlookup hpending
  · exact fun hlookup => absurd hlookup hclosed
  · exact fun hw => absurd hw hwriters

/-- In every run whose steps keep apart the cache file has one owner at most and is as long as
its counter says while no append is in progress, and no step of a start touches a session with
bytes or its cache file. -/
theorem ft_upload_exclusive (path name : String) {disk : Disk Path} {s : State}
    (hrun : Run.Reach (step (filePathOf path name) (fileCachePathOf path name))
      (Apart (filePathOf path name) (fileCachePathOf path name)) (booted disk) s) :
    Owned (fileCachePathOf path name) s.shared ∧
      ∀ n o s', Apart (filePathOf path name) (fileCachePathOf path name) s (.startStep n o) →
        step (filePathOf path name) (fileCachePathOf path name) s (.startStep n o) = some s' →
        Untouched (fileCachePathOf path name) s.shared s'.shared.store := by
  have hinv := hrun.invariant (runInv_booted disk) step_keeps
  exact ⟨hinv.inv.owned, fun n o s' hok hstep => (startStep_keeps hinv hok hstep).2⟩

def apart (s : State) : Event → Bool
  | .start _ => true
  | .startStep n _ =>
      match s.starts.lookup n with
      | none => true
      | some st => !st.phase.acts ||
          ((s.starts.entries.all fun x => x.1 = n || !x.2.phase.looked) &&
            (s.shared.store.pending.entries.all fun x => x.2.alreadyUploadedBytes = 0) &&
            s.shared.writers.entries.all fun x => !x.2.stage.finishing)
  | .writer (.complete w _) =>
      match s.shared.writers.lookup w with
      | none => true
      | some wr => s.shared.writers.entries.all fun x => x.1 = w || x.2.id ≠ wr.id
  | .writer .appendEnd =>
      match s.shared.appending with
      | none => true
      | some a => a.rest.isEmpty || s.shared.store.refuses a.id
  | .writer _ => true

theorem apart_sound (s : State) (ev : Event) (h : apart s ev = true) : Apart F C s ev := by
  cases ev with
  | start size => trivial
  | startStep n o =>
      intro st hst hacting
      unfold apart at h
      dsimp only at h
      rw [hst] at h
      dsimp only at h
      rw [hacting.1, Bool.not_true, Bool.false_or, Bool.and_eq_true, Bool.and_eq_true] at h
      obtain ⟨⟨hstarts, hpending⟩, hwriters⟩ := h
      refine ⟨?_, fun _ id e hlookup => ⟨?_, ?_⟩⟩
      · intro n' st' hst' hne
        have := List.all_eq_true.mp hstarts _ (Table.lookup_eq_some_iff.mp hst')
        simpa [hne] using this
      · have := List.all_eq_true.mp hpending _ (Table.lookup_eq_some_iff.mp hlookup)
        simpa using this
      · rintro ⟨w, wr, hw, -, hfinishing⟩
        have := List.all_eq_true.mp hwriters _ (Table.lookup_eq_some_iff.mp hw)
        simp [hfinishing] at this
  | writer ev =>
      cases ev with
      | complete w o =>
          intro wr e hw _ _ _ w' wr' hw' hid hne
          unfold apart at h
          dsimp only at h
          rw [hw] at h
          have := List.all_eq_true.mp h _ (Table.lookup_eq_some_iff.mp hw')
          simp [hne, hid] at this
      | appendEnd =>
          intro a ha
          unfold apart at h
          dsimp only at h
          rw [ha] at h
          simp only [Bool.or_eq_true, List.isEmpty_iff] at h
          exact h.imp_right .inl
      | _ => trivial

def steps (n k : Nat) : List Event := List.replicate k (.startStep n (.works 0 0))

/-- What a check of a writing session looks at. -/
def observed (s : State) : Option Int × Bool :=
  ((s.shared.store.pending.lookup 0).map (·.alreadyUploadedBytes),
    s.shared.writers.entries.all fun x => !x.2.stage.retires)

theorem writing_of_observed {s : State} {n : Int} (hpositive : 0 < n)
    (h : observed s = (some n, true)) : ∃ e, Writing s.shared 0 e := by
  unfold observed at h
  simp only [Prod.mk.injEq, Option.map_eq_some_iff] at h
  obtain ⟨⟨e, he, rfl⟩, hretires⟩ := h
  refine ⟨e, he, ?_, .inl hpositive⟩
  rintro ⟨w, wr, hw, -, hret⟩
  have := List.all_eq_true.mp hretires _ (Table.lookup_eq_some_iff.mp hw)
  simp [hret] at this

/-- A channel has sent three bytes of ten, and a start with another size has come to the
sessions that it would take. -/
def claimedRun : List Event :=
  .start 10 :: steps 0 6 ++
    [.writer (.claim 0), .writer (.append 0 [1, 2, 3]), .writer (.write 2), .writer (.write 1),
      .writer .appendEnd, .start 20] ++ steps 1 5

theorem ft_upload_exclusive_claimed :
    ∃ s, Run.Reach (step (filePathOf "/" "a") (fileCachePathOf "/" "a"))
        (Apart (filePathOf "/" "a") (fileCachePathOf "/" "a")) (booted .empty) s ∧
      ∃ e, Writing s.shared 0 e ∧
        ∃ xs, s.shared.store.disk.contents (fileCachePathOf "/" "a") = some xs ∧
          e.alreadyUploadedBytes = xs.length := by
  have hlast : (Run.exec (step (filePathOf "/" "a") (fileCachePathOf "/" "a")) apart
      (booted .empty) claimedRun).map (fun s =>
        (observed s, s.shared.appending.isNone)) = some ((some 3, true), true) := by decide +kernel
  obtain ⟨s, hrun, heq⟩ := Run.exists_reach_of_exec apart_sound hlast
  obtain ⟨hobserved, hfree⟩ := Prod.mk.inj heq
  obtain ⟨e, hwriting⟩ := writing_of_observed (by decide) hobserved
  exact ⟨s, hrun, e, hwriting,
    (ft_upload_exclusive "/" "a" hrun).1.2 (Option.isNone_iff_eq_none.mp hfree) 0 e
      (.inl ⟨hwriting.1, hwriting.2.1⟩)⟩

def OnlyStarts (_ : State) (ev : Event) : Prop := ∃ n o, ev = .startStep n o

def onlyStarts (_ : State) : Event → Bool
  | .startStep _ _ => true
  | _ => false

theorem onlyStarts_sound (s : State) (ev : Event) (h : onlyStarts s ev = true) :
    OnlyStarts s ev := by
  cases ev with
  | startStep n o => exact ⟨n, o, rfl⟩
  | start size => cases h
  | writer ev => cases h

/-- A session of ten bytes for which an HTTP request has sent three, and a start with another
size. -/
def httpRun : List Event :=
  .start 10 :: steps 0 6 ++
    [.writer (.httpOpen 0), .writer (.append 0 [1, 2, 3]), .writer (.write 3),
      .writer .appendEnd, .start 20]

/-- Two starts of one size look at the cache file before it is there; one of them answers, and
a channel sends three bytes. -/
def overlappingRun : List Event :=
  .start 10 :: .start 10 :: steps 1 3 ++ steps 0 6 ++
    [.writer (.claim 0), .writer (.append 0 [1, 2, 3]), .writer (.write 3), .writer .appendEnd]

/-- The start with another size deletes the cache file of the session, and the second one of
the two empties it. -/
theorem starts_touch_cache :
    (∃ s s' e, Run.Reach (step (filePathOf "/" "a") (fileCachePathOf "/" "a")) Run.anyStep
        (booted .empty) s ∧ Writing s.shared 0 e ∧
        Run.Reach (step (filePathOf "/" "a") (fileCachePathOf "/" "a")) OnlyStarts s s' ∧
        s'.shared.store.disk.contents (fileCachePathOf "/" "a") = none) ∧
      ∃ s s' e, Run.Reach (step (filePathOf "/" "a") (fileCachePathOf "/" "a")) Run.anyStep
        (booted .empty) s ∧ Writing s.shared 0 e ∧
        Run.Reach (step (filePathOf "/" "a") (fileCachePathOf "/" "a")) OnlyStarts s s' ∧
        s'.shared.store.disk.contents (fileCachePathOf "/" "a") = some [] := by
  have hany : ∀ (s : State) (ev : Event), true = true → Run.anyStep s ev := fun _ _ _ => trivial
  constructor
  · have hlast : ((Run.exec (step (filePathOf "/" "a") (fileCachePathOf "/" "a"))
        (fun _ _ => true) (booted .empty) httpRun).bind fun s =>
          (Run.exec (step (filePathOf "/" "a") (fileCachePathOf "/" "a")) onlyStarts s
            (steps 1 8)).map fun s' => (observed s,
              s'.shared.store.disk.contents (fileCachePathOf "/" "a"))) =
        some ((some 3, true), none) := by decide +kernel
    obtain ⟨s, hs, hrest⟩ := Option.bind_eq_some_iff.mp hlast
    obtain ⟨s', hs', heq⟩ := Option.map_eq_some_iff.mp hrest
    obtain ⟨hobserved, hcontents⟩ := Prod.mk.inj heq
    obtain ⟨e, hwriting⟩ := writing_of_observed (by decide) hobserved
    exact ⟨s, s', e, Run.reach_of_exec hany hs, hwriting, Run.reach_of_exec onlyStarts_sound hs',
      hcontents⟩
  · have hlast : ((Run.exec (step (filePathOf "/" "a") (fileCachePathOf "/" "a"))
        (fun _ _ => true) (booted .empty) overlappingRun).bind fun s =>
          (Run.exec (step (filePathOf "/" "a") (fileCachePathOf "/" "a")) onlyStarts s
            (steps 1 1)).map fun s' => (observed s,
              s'.shared.store.disk.contents (fileCachePathOf "/" "a"))) =
        some ((some 3, true), some []) := by decide +kernel
    obtain ⟨s, hs, hrest⟩ := Option.bind_eq_some_iff.mp hlast
    obtain ⟨s', hs', heq⟩ := Option.map_eq_some_iff.mp hrest
    obtain ⟨hobserved, hcontents⟩ := Prod.mk.inj heq
    obtain ⟨e, hwriting⟩ := writing_of_observed (by decide) hobserved
    exact ⟨s, s', e, Run.reach_of_exec hany hs, hwriting, Run.reach_of_exec onlyStarts_sound hs',
      hcontents⟩

end ArkKvm.FtUpload.Exclusive
