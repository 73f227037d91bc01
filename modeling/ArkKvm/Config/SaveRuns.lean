import ArkKvm.Config.Manager
import ArkKvm.Config.Recovery
import ArkKvm.Lib.Disk
import ArkKvm.Lib.Run
import ArkKvm.Lib.Table

/-!
# Concurrent configuration updates

`ConfigManager::update` changes the configuration under the write lock and saves it under the
read lock, so any number of saves run side by side.  They all write to `config.tmp` before
they rename it.
-/

namespace ArkKvm

namespace SaveRuns

open Lib

inductive FileName
  | config
  | backup
  | temp
deriving DecidableEq

inductive SavePhase
  /-- the read lock is not taken yet -/
  | waiting
  | locked
  | backedUp
  /-- `config.tmp` is open on an inode; `rest` is still to be written at `position` -/
  | writing (inode position : Nat) (rest : Bytes)
deriving DecidableEq

def SavePhase.IsWriting : SavePhase → Prop
  | .writing _ _ _ => True
  | _ => False

structure State where
  memory : Config
  disk : Disk FileName
  saves : Table Nat SavePhase
  nextSave : Nat
  /-- what the finished updates returned whose new value validated -/
  results : List (Except SaveError Unit)
  /-- every value that `memory` has had -/
  history : List Config

inductive Event
  | update (updater : Config → Config)
  | lock (t : Nat)
  | backup (t : Nat)
  | openTemp (t : Nat) (nonce : Nonce)
  | write (t n : Nat)
  | rename (t : Nat)

def State.Unlocked (s : State) : Prop := ∀ x ∈ s.saves.entries, x.2 = SavePhase.waiting

instance (s : State) : Decidable s.Unlocked :=
  inferInstanceAs (Decidable (∀ x ∈ s.saves.entries, x.2 = SavePhase.waiting))

def createBackup (d : Disk FileName) : Disk FileName :=
  match d.contents .config with
  | none => d
  | some contents =>
      (d.openTruncate .backup).1.modify (d.openTruncate .backup).2 fun _ => contents

def State.setPhase (s : State) (t : Nat) (phase : SavePhase) : State :=
  { s with saves := s.saves.insert t phase }

def State.finish (s : State) (t : Nat) (disk : Disk FileName) (result : Except SaveError Unit) :
    State :=
  { s with
    disk := disk
    saves := s.saves.erase t
    results := s.results ++ [result] }

def step (p : ConfigPersistence) (s : State) : Event → Option State
  | .update updater =>
      if s.Unlocked then
        match (updater s.memory).validate with
        | (c, .error _) => some { s with memory := c, history := c :: s.history }
        | (c, .ok _) => some { s with
            memory := c
            history := c :: s.history
            saves := s.saves.insert s.nextSave .waiting
            nextSave := s.nextSave + 1 }
      else none
  | .lock t =>
      match s.saves.lookup t with
      | some .waiting => some (s.setPhase t .locked)
      | _ => none
  | .backup t =>
      match s.saves.lookup t with
      | some .locked => some { s.setPhase t .backedUp with disk := createBackup s.disk }
      | _ => none
  | .openTemp t nonce =>
      match s.saves.lookup t with
      | some .backedUp => some {
          s.setPhase t (.writing (s.disk.openTruncate .temp).2 0
            (p.encode nonce (p.codec.toJson s.memory))) with
          disk := (s.disk.openTruncate .temp).1 }
      | _ => none
  | .write t n =>
      match s.saves.lookup t with
      | some (.writing inode position rest) =>
          if n = 0 ∨ rest.length < n then none
          else some {
            s.setPhase t (.writing inode (position + n) (rest.drop n)) with
            disk := s.disk.modify inode fun xs => writeAt xs position (rest.take n) }
      | _ => none
  | .rename t =>
      match s.saves.lookup t with
      | some (.writing _ _ []) =>
          match s.disk.names .temp with
          | none => some (s.finish t s.disk (.error .rename))
          | some _ => some (s.finish t (s.disk.rename .temp .config) (.ok ()))
      | _ => none

/-- The file opens to the configuration. -/
def Decodes (p : ConfigPersistence) (contents : Bytes) (c : Config) : Prop :=
  ∃ text, p.decode contents = .ok text ∧ p.codec.fromJson text = some c

/-- Every accepted update has returned `Ok`; the primary file is absent before the first save
and otherwise a complete configuration that was in memory; and it is the one in memory when no
update is in progress. -/
structure Durable (p : ConfigPersistence) (s : State) : Prop where
  results : ∀ r ∈ s.results, r = .ok ()
  absent : s.disk.contents .config = none → s.results = []
  complete : ∀ contents, s.disk.contents .config = some contents →
    ∃ c ∈ s.history, Decodes p contents c
  current : (∀ t, s.saves.lookup t = none) →
    ∀ contents, s.disk.contents .config = some contents → Decodes p contents s.memory

/-- A device after it has loaded its configuration. -/
structure Start (p : ConfigPersistence) (s : State) : Prop where
  saves : s.saves = ∅
  results : s.results = []
  history : s.history = [s.memory]
  config : ∀ contents, s.disk.contents .config = some contents → Decodes p contents s.memory

/-- What a step needs: an accepted value can be written as JSON, a rejected one is the value
that was in memory, and `config.tmp` is opened when no other save is writing it. -/
def Apart (s : State) : Event → Prop
  | .update updater =>
      ((updater s.memory).Valid → (updater s.memory).normalize.Finite) ∧
        (¬ (updater s.memory).Valid → (updater s.memory).normalize = s.memory)
  | .openTemp _ _ => ∀ {t phase}, s.saves.lookup t = some phase → ¬ phase.IsWriting
  | _ => True

/-! ## The invariant -/

structure Inv (p : ConfigPersistence) (s : State) : Prop extends Durable p s where
  ids : ∀ {t phase}, s.saves.lookup t = some phase → t < s.nextSave
  finite : ∀ {t phase}, s.saves.lookup t = some phase → s.memory.Finite
  remembered : s.memory ∈ s.history
  oneWriter : ∀ {t t' phase phase'}, s.saves.lookup t = some phase →
    s.saves.lookup t' = some phase' → phase.IsWriting → phase'.IsWriting → t = t'
  /-- what is written so far stands in `config.tmp` -/
  writing : ∀ {t inode position rest}, s.saves.lookup t = some (.writing inode position rest) →
    s.disk.names .temp = some inode ∧ position = (s.disk.data inode).length ∧
      ∃ nonce, s.disk.data inode ++ rest = p.encode nonce (p.codec.toJson s.memory)

variable {p : ConfigPersistence}

theorem inv_start {s : State} (h : Start p s) : Inv p s where
  results := by
    intro r hr
    rw [h.results] at hr
    cases hr
  absent _ := h.results
  complete contents hcontents :=
    ⟨s.memory, by rw [h.history]; exact List.mem_singleton_self _, h.config contents hcontents⟩
  current _ := h.config
  ids hlookup := by
    rw [h.saves] at hlookup
    cases hlookup
  finite hlookup := by
    rw [h.saves] at hlookup
    cases hlookup
  remembered := by
    rw [h.history]
    exact List.mem_singleton_self _
  oneWriter hlookup := by
    rw [h.saves] at hlookup
    cases hlookup
  writing hlookup := by
    rw [h.saves] at hlookup
    cases hlookup

theorem decodes_encode (h : p.codec.Lawful) {c : Config} (hfinite : c.Finite) (nonce : Nonce) :
    Decodes p (p.encode nonce (p.codec.toJson c)) c :=
  ⟨_, ConfigPersistence.decode_encode h nonce _, h.fromJson_toJson c hfinite⟩

theorem waiting_of_unlocked {s : State} (h : s.Unlocked) {t : Nat} {phase : SavePhase}
    (hlookup : s.saves.lookup t = some phase) : phase = .waiting :=
  h _ (Table.lookup_eq_some_iff.mp hlookup)

theorem lookup_ne_none_of_insert {m : Table Nat SavePhase} {t : Nat} {phase : SavePhase}
    (h : ∀ t', (m.insert t phase).lookup t' = none) : False := by
  have ht := h t
  rw [AList.lookup_insert] at ht
  cases ht

/-! ## Steps -/

theorem Inv.accept {s : State} (h : Inv p s) (hunlocked : s.Unlocked) {c : Config}
    (hfinite : c.Finite) : Inv p { s with
      memory := c
      history := c :: s.history
      saves := s.saves.insert s.nextSave .waiting
      nextSave := s.nextSave + 1 } := by
  have hphase : ∀ {t phase}, (s.saves.insert s.nextSave .waiting).lookup t = some phase →
      phase = .waiting ∧ t < s.nextSave + 1 := by
    intro t phase hlookup
    rcases Table.lookup_insert_iff.mp hlookup with ⟨rfl, rfl⟩ | ⟨-, hold⟩
    · exact ⟨rfl, Nat.lt_succ_self _⟩
    · exact ⟨waiting_of_unlocked hunlocked hold, Nat.lt_succ_of_lt (h.ids hold)⟩
  constructor
  · constructor
    · exact h.results
    · exact h.absent
    · intro contents hcontents
      obtain ⟨c', hc', hdecodes⟩ := h.complete contents hcontents
      exact ⟨c', List.mem_cons_of_mem c hc', hdecodes⟩
    · intro hidle
      exact (lookup_ne_none_of_insert hidle).elim
  · intro t phase hlookup
    exact (hphase hlookup).2
  · intro t phase _
    exact hfinite
  · exact List.mem_cons_self
  · intro t t' phase phase' hlookup _ hwriting
    rw [(hphase hlookup).1] at hwriting
    exact hwriting.elim
  · intro t inode position rest hlookup
    cases (hphase hlookup).1

theorem Inv.reject {s : State} (h : Inv p s) {c : Config} (hsame : c = s.memory) :
    Inv p { s with memory := c, history := c :: s.history } := by
  subst hsame
  constructor
  · constructor
    · exact h.results
    · exact h.absent
    · intro contents hcontents
      obtain ⟨c', hc', hdecodes⟩ := h.complete contents hcontents
      exact ⟨c', List.mem_cons_of_mem _ hc', hdecodes⟩
    · exact h.current
  · exact h.ids
  · exact h.finite
  · exact List.mem_cons_self
  · exact h.oneWriter
  · exact h.writing

theorem Inv.phase {s : State} (h : Inv p s) {t : Nat} {old : SavePhase} (phase : SavePhase)
    (disk : Disk FileName) (hlookup : s.saves.lookup t = some old) (hidle : ¬ phase.IsWriting)
    (htemp : disk.names .temp = s.disk.names .temp)
    (hdata : disk.contents .temp = s.disk.contents .temp)
    (hconfig : disk.contents .config = s.disk.contents .config) :
    Inv p { s.setPhase t phase with disk := disk } := by
  constructor
  · constructor
    · exact h.results
    · show disk.contents .config = none → s.results = []
      rw [hconfig]
      exact h.absent
    · show ∀ contents, disk.contents .config = some contents → _
      rw [hconfig]
      exact h.complete
    · intro hnone
      exact (lookup_ne_none_of_insert hnone).elim
  · intro t' phase' hlookup'
    rcases Table.lookup_insert_iff.mp hlookup' with ⟨rfl, -⟩ | ⟨-, hold⟩
    · exact h.ids hlookup
    · exact h.ids hold
  · intro t' phase' _
    exact h.finite hlookup
  · exact h.remembered
  · intro t₁ t₂ phase₁ phase₂ h₁ h₂ hw₁ hw₂
    rcases Table.lookup_insert_iff.mp h₁ with ⟨-, rfl⟩ | ⟨-, hold₁⟩
    · exact absurd hw₁ hidle
    · rcases Table.lookup_insert_iff.mp h₂ with ⟨-, rfl⟩ | ⟨-, hold₂⟩
      · exact absurd hw₂ hidle
      · exact h.oneWriter hold₁ hold₂ hw₁ hw₂
  · intro t' inode position rest hlookup'
    rcases Table.lookup_insert_iff.mp hlookup' with ⟨-, rfl⟩ | ⟨-, hold⟩
    · exact (hidle trivial).elim
    · obtain ⟨hname, hposition, nonce, hencoded⟩ := h.writing hold
      have hsame : disk.data inode = s.disk.data inode := by
        have hnew := Disk.contents_of_names (htemp.trans hname)
        rw [hdata, Disk.contents_of_names hname] at hnew
        exact (Option.some.inj hnew).symm
      refine ⟨htemp.trans hname, ?_, nonce, ?_⟩
      · show position = (disk.data inode).length
        rw [hsame]
        exact hposition
      · show disk.data inode ++ rest = _
        rw [hsame]
        exact hencoded

theorem createBackup_other (d : Disk FileName) {n : FileName} (hn : n ≠ .backup) :
    (createBackup d).names n = d.names n ∧ (createBackup d).contents n = d.contents n := by
  unfold createBackup
  cases d.contents .config with
  | none => exact ⟨rfl, rfl⟩
  | some contents =>
      have hne : (d.openTruncate .backup).1.names n ≠ some (d.openTruncate .backup).2 :=
        fun h => hn (Disk.names_inj _ h Disk.openTruncate_names_self)
      exact ⟨Disk.openTruncate_names_of_ne hn,
        (Disk.contents_modify_of_ne _ hne).trans (Disk.contents_openTruncate_of_ne hn)⟩

theorem Inv.write {s : State} (h : Inv p s) {t : Nat} {old : SavePhase}
    (hlookup : s.saves.lookup t = some old)
    (hothers : ∀ {t' phase}, s.saves.lookup t' = some phase → t' ≠ t → ¬ phase.IsWriting)
    {disk : Disk FileName} {inode position : Nat} {rest : Bytes}
    (hname : disk.names .temp = some inode) (hposition : position = (disk.data inode).length)
    (hencoded : ∃ nonce, disk.data inode ++ rest = p.encode nonce (p.codec.toJson s.memory))
    (hconfig : disk.contents .config = s.disk.contents .config) :
    Inv p { s.setPhase t (.writing inode position rest) with disk := disk } := by
  constructor
  · constructor
    · exact h.results
    · show disk.contents .config = none → s.results = []
      rw [hconfig]
      exact h.absent
    · show ∀ contents, disk.contents .config = some contents → _
      rw [hconfig]
      exact h.complete
    · intro hnone
      exact (lookup_ne_none_of_insert hnone).elim
  · intro t' phase' hlookup'
    rcases Table.lookup_insert_iff.mp hlookup' with ⟨rfl, -⟩ | ⟨-, hold⟩
    · exact h.ids hlookup
    · exact h.ids hold
  · intro t' phase' _
    exact h.finite hlookup
  · exact h.remembered
  · intro t₁ t₂ phase₁ phase₂ h₁ h₂ hw₁ hw₂
    rcases Table.lookup_insert_iff.mp h₁ with ⟨rfl, -⟩ | ⟨hne₁, hold₁⟩
    · rcases Table.lookup_insert_iff.mp h₂ with ⟨rfl, -⟩ | ⟨hne₂, hold₂⟩
      · rfl
      · exact absurd hw₂ (hothers hold₂ hne₂)
    · exact absurd hw₁ (hothers hold₁ hne₁)
  · intro t' inode' position' rest' hlookup'
    rcases Table.lookup_insert_iff.mp hlookup' with ⟨-, heq⟩ | ⟨hne, hold⟩
    · cases heq
      exact ⟨hname, hposition, hencoded⟩
    · exact absurd trivial (hothers hold hne)

theorem Inv.rename {s : State} (hlawful : p.codec.Lawful) (h : Inv p s) {t inode position : Nat}
    (hlookup : s.saves.lookup t = some (.writing inode position [])) :
    Inv p (s.finish t (s.disk.rename .temp .config) (.ok ())) := by
  obtain ⟨hname, -, nonce, hencoded⟩ := h.writing hlookup
  rw [List.append_nil] at hencoded
  have hcontents : (s.disk.rename .temp .config).contents .config =
      some (p.encode nonce (p.codec.toJson s.memory)) := by
    rw [Disk.contents_rename (by decide), Disk.contents_of_names hname, hencoded]
  have hdecodes : ∀ contents, (s.disk.rename .temp .config).contents .config = some contents →
      Decodes p contents s.memory := by
    intro contents h'
    rw [hcontents] at h'
    cases h'
    exact decodes_encode hlawful (h.finite hlookup) nonce
  constructor
  · constructor
    · intro r hr
      rcases List.mem_append.mp hr with hr | hr
      · exact h.results r hr
      · exact List.mem_singleton.mp hr
    · intro habsent
      cases hcontents.symm.trans habsent
    · intro contents h'
      exact ⟨s.memory, h.remembered, hdecodes contents h'⟩
    · intro _
      exact hdecodes
  · intro t' phase hlookup'
    exact h.ids (Table.lookup_erase_iff.mp hlookup').2
  · intro t' phase hlookup'
    exact h.finite (Table.lookup_erase_iff.mp hlookup').2
  · exact h.remembered
  · intro t₁ t₂ phase₁ phase₂ h₁ h₂
    exact h.oneWriter (Table.lookup_erase_iff.mp h₁).2 (Table.lookup_erase_iff.mp h₂).2
  · intro t' inode' position' rest hlookup'
    obtain ⟨hne, hold⟩ := Table.lookup_erase_iff.mp hlookup'
    exact absurd (h.oneWriter hold hlookup trivial trivial) hne

theorem step_inv (hlawful : p.codec.Lawful) {s s' : State} {a : Event} (h : Inv p s)
    (hok : Apart s a) (hs : step p s a = some s') : Inv p s' := by
  cases a with
  | update updater =>
      simp only [step] at hs
      split at hs
      · next hunlocked =>
          have hfst := Config.validate_fst (updater s.memory)
          have hvalid := Config.validate_ok_iff (updater s.memory)
          rcases hv : (updater s.memory).validate with ⟨c, errors | _⟩
          · rw [hv] at hs hfst hvalid
            cases hs
            have hnot : ¬ (updater s.memory).Valid := fun hval => by cases hvalid.mpr hval
            exact h.reject (hfst.trans (hok.2 hnot))
          · rw [hv] at hs hfst hvalid
            cases hs
            have hfinite := hok.1 (hvalid.mp rfl)
            rw [← hfst] at hfinite
            exact h.accept hunlocked hfinite
      · cases hs
  | lock t =>
      simp only [step] at hs
      split at hs
      · next hlookup =>
          cases hs
          exact h.phase .locked s.disk hlookup id rfl rfl rfl
      · cases hs
  | backup t =>
      simp only [step] at hs
      split at hs
      · next hlookup =>
          cases hs
          have htemp := createBackup_other s.disk (n := .temp) (by decide)
          have hconfig := createBackup_other s.disk (n := .config) (by decide)
          exact h.phase .backedUp _ hlookup id htemp.1 htemp.2 hconfig.2
      · cases hs
  | openTemp t nonce =>
      simp only [step] at hs
      split at hs
      · next hlookup =>
          cases hs
          have hdata : (s.disk.openTruncate .temp).1.data (s.disk.openTruncate .temp).2 = [] :=
            Disk.openTruncate_data
          apply h.write hlookup (fun hother _ => hok hother) Disk.openTruncate_names_self
          · rw [hdata]
            rfl
          · exact ⟨nonce, by rw [hdata, List.nil_append]⟩
          · exact Disk.contents_openTruncate_of_ne (by decide)
      · cases hs
  | write t n =>
      simp only [step] at hs
      split at hs
      · next inode position rest hlookup =>
          split at hs
          · cases hs
          · next hn =>
              cases hs
              obtain ⟨hname, hposition, nonce, hencoded⟩ := h.writing hlookup
              have hdata : (s.disk.modify inode fun xs =>
                  writeAt xs position (rest.take n)).data inode =
                    s.disk.data inode ++ rest.take n := by
                rw [Disk.modify_data_self, hposition, writeAt_length]
              apply h.write hlookup
              · intro t' phase hother hne hwriting
                exact hne (h.oneWriter hother hlookup hwriting trivial)
              · exact hname
              · rw [hdata, List.length_append, List.length_take, hposition]
                omega
              · exact ⟨nonce, by rw [hdata, List.append_assoc, List.take_append_drop, hencoded]⟩
              · apply Disk.contents_modify_of_ne
                intro hconfig
                cases Disk.names_inj _ hname hconfig
      · cases hs
  | rename t =>
      simp only [step] at hs
      split at hs
      · next inode position hlookup =>
          obtain ⟨hname, -⟩ := h.writing hlookup
          rw [hname] at hs
          cases hs
          exact h.rename hlawful hlookup
      · cases hs

/-- Updates whose saves do not overlap in `config.tmp` are durable. -/
theorem updates_durable (p : ConfigPersistence) (hlawful : p.codec.Lawful) {init s : State}
    (hstart : Start p init) (hrun : Run.Reach (step p) Apart init s) : Durable p s := by
  have hinv : Inv p s :=
    hrun.invariant (inv_start hstart) fun _ _ _ h hok hs => step_inv hlawful h hok hs
  exact hinv.toDurable

theorem reach_renamed {s : State} {t : Nat} (nonce : Nonce)
    (hlookup : s.saves.lookup t = some .backedUp)
    (halone : ∀ {t' phase}, s.saves.lookup t' = some phase → ¬ phase.IsWriting) :
    ∃ s', Run.Reach (step p) Apart s s' ∧ s'.memory = s.memory ∧
      s'.results = s.results ++ [.ok ()] ∧
      ∀ t', s'.saves.lookup t' = if t' = t then none else s.saves.lookup t' := by
  have hopen : step p s (.openTemp t nonce) = some {
      s.setPhase t (.writing (s.disk.openTruncate .temp).2 0
        (p.encode nonce (p.codec.toJson s.memory))) with
      disk := (s.disk.openTruncate .temp).1 } := by
    simp only [step, hlookup]
  set text := p.encode nonce (p.codec.toJson s.memory)
  set opened : State := {
    s.setPhase t (.writing (s.disk.openTruncate .temp).2 0 text) with
    disk := (s.disk.openTruncate .temp).1 }
  have hwriting : opened.saves.lookup t = some (.writing (s.disk.openTruncate .temp).2 0 text) :=
    AList.lookup_insert _
  have hlen : ¬ (text.length = 0 ∨ text.length < text.length) := by
    rintro (hzero | hlt)
    · exact ConfigPersistence.encode_ne_nil nonce _ (List.length_eq_zero_iff.mp hzero)
    · exact Nat.lt_irrefl _ hlt
  have hwrite : step p opened (.write t text.length) = some {
      opened.setPhase t (.writing (s.disk.openTruncate .temp).2 text.length []) with
      disk := opened.disk.modify (s.disk.openTruncate .temp).2 fun xs => writeAt xs 0 text } := by
    simp only [step, hwriting]
    rw [if_neg hlen, List.take_length, List.drop_length, Nat.zero_add]
  set written : State := {
    opened.setPhase t (.writing (s.disk.openTruncate .temp).2 text.length []) with
    disk := opened.disk.modify (s.disk.openTruncate .temp).2 fun xs => writeAt xs 0 text }
  have hdone : written.saves.lookup t =
      some (.writing (s.disk.openTruncate .temp).2 text.length []) := AList.lookup_insert _
  have hname : written.disk.names .temp = some (s.disk.openTruncate .temp).2 :=
    Disk.openTruncate_names_self
  have hrename : step p written (.rename t) =
      some (written.finish t (written.disk.rename .temp .config) (.ok ())) := by
    simp only [step, hdone, hname]
  refine ⟨_, ((Run.Reach.refl.tail @halone hopen).tail (by trivial) hwrite).tail
    (by trivial) hrename, rfl, rfl, fun t' => ?_⟩
  by_cases ht : t' = t
  · rw [if_pos ht, ht]
    exact AList.lookup_erase _ _
  · rw [if_neg ht]
    calc (written.finish t _ _).saves.lookup t'
        = written.saves.lookup t' := AList.lookup_erase_ne ht
      _ = opened.saves.lookup t' := AList.lookup_insert_ne ht
      _ = s.saves.lookup t' := AList.lookup_insert_ne ht

/-! ## Two runs -/

open ConfigPersistence (sampleBoard zeroNonce plainCodec_lawful)
open ConfigManager (setMcpEnabled setJigglerEnable)

private def fresh : State := ⟨Config.default "kvm", .empty, ∅, 0, [], [Config.default "kvm"]⟩

private def changed : Config := setMcpEnabled true (Config.default "kvm")

private noncomputable def sealedConfig : Bytes :=
  sampleBoard.encode zeroNonce (sampleBoard.codec.toJson changed)

theorem start_fresh : Start sampleBoard fresh :=
  ⟨rfl, rfl, rfl, fun _ h => by cases h⟩

private noncomputable def opened (saves : Table Nat SavePhase) (n : Nat) (history : List Config) :
    State where
  memory := changed
  disk := (Disk.empty.openTruncate .temp).1
  saves := saves.insert 0 (.writing 0 0 sealedConfig)
  nextSave := n
  results := []
  history := history

private noncomputable def filled (saves : Table Nat SavePhase) (n : Nat) (history : List Config) :
    State where
  memory := changed
  disk := (Disk.empty.openTruncate FileName.temp).1.modify 0 fun xs => writeAt xs 0 sealedConfig
  saves := (saves.insert 0 (.writing 0 0 sealedConfig)).insert 0
    (.writing 0 sealedConfig.length [])
  nextSave := n
  results := []
  history := history

theorem step_filled (saves : Table Nat SavePhase) (n : Nat) (history : List Config) :
    step sampleBoard (opened saves n history) (.write 0 sealedConfig.length) =
      some (filled saves n history) := by
  have hlookup : (opened saves n history).saves.lookup 0 = some (.writing 0 0 sealedConfig) :=
    AList.lookup_insert _
  have hlen : ¬ (sealedConfig.length = 0 ∨ sealedConfig.length < sealedConfig.length) := by
    rintro (hzero | hlt)
    · exact ConfigPersistence.encode_ne_nil (p := sampleBoard) zeroNonce _
        (List.length_eq_zero_iff.mp hzero)
    · exact Nat.lt_irrefl _ hlt
  simp only [step, hlookup]
  rw [if_neg hlen, List.take_length, List.drop_length, Nat.zero_add]
  rfl

theorem apart_mcp : Apart fresh (.update (setMcpEnabled true)) := by
  have hvalid : (setMcpEnabled true fresh.memory).Valid := by unfold fresh; decide
  have hfinite : (setMcpEnabled true fresh.memory).normalize.Finite := by unfold fresh; decide
  exact ⟨fun _ => hfinite, fun hnot => absurd hvalid hnot⟩

private def oneWaiting : Table Nat SavePhase := (∅ : Table Nat SavePhase).insert 0 .waiting

private def changedTwice : Config := setJigglerEnable true changed

theorem apart_jiggler (s : State) (hmemory : s.memory = changed) :
    Apart s (.update (setJigglerEnable true)) := by
  have hvalid : (setJigglerEnable true changed).Valid := by unfold changed; decide
  have hfinite : (setJigglerEnable true changed).normalize.Finite := by unfold changed; decide
  unfold Apart
  rw [hmemory]
  exact ⟨fun _ => hfinite, fun hnot => absurd hvalid hnot⟩

private def twoBackedUp : Table Nat SavePhase :=
  (((oneWaiting.insert 1 .waiting).insert 0 .locked).insert 1 .locked).insert 0 .backedUp
    |>.insert 1 .backedUp

/-- Two updates have run, hold the read lock together and have made their backups. -/
private def bothLocked : State where
  memory := changedTwice
  disk := .empty
  saves := twoBackedUp
  nextSave := 2
  results := []
  history := [changedTwice, changed, Config.default "kvm"]

theorem reach_bothLocked : Run.Reach (step sampleBoard) Apart fresh bothLocked := by
  have hone : Run.Reach (step sampleBoard) Apart fresh
      ⟨changed, .empty, oneWaiting, 1, [], [changed, Config.default "kvm"]⟩ :=
    Run.Reach.refl.tail apart_mcp rfl
  have htwo : Run.Reach (step sampleBoard) Apart fresh
      ⟨changedTwice, .empty, oneWaiting.insert 1 .waiting, 2, [],
        [changedTwice, changed, Config.default "kvm"]⟩ :=
    hone.tail (apart_jiggler _ rfl) rfl
  have hlocked := (htwo.tail (a := .lock 0) (by trivial) rfl).tail (a := .lock 1) (by trivial) rfl
  exact (hlocked.tail (a := .backup 0) (by trivial) rfl).tail (a := .backup 1) (by trivial) rfl

/-- The saves of two updates hold the read lock together; the second one opens `config.tmp` after
the first one has renamed it. -/
theorem updates_durable_two :
    ∃ s, Run.Reach (step sampleBoard) Apart bothLocked s ∧ s.memory = changedTwice ∧
      s.results = [.ok (), .ok ()] ∧ Durable sampleBoard s ∧
      ∃ contents, s.disk.contents .config = some contents ∧
        Decodes sampleBoard contents changedTwice := by
  have hbacked : ∀ {t phase}, bothLocked.saves.lookup t = some phase →
      (t = 1 ∧ phase = .backedUp) ∨ (t = 0 ∧ phase = .backedUp) := by
    intro t phase hlookup
    have hmem : (⟨t, phase⟩ : Sigma fun _ : Nat => SavePhase) ∈
        [⟨1, .backedUp⟩, ⟨0, .backedUp⟩] := Table.lookup_eq_some_iff.mp hlookup
    simpa only [List.mem_cons, Sigma.mk.injEq, heq_eq_eq, List.not_mem_nil, or_false] using hmem
  have hwriting : ∀ {t phase}, bothLocked.saves.lookup t = some phase → ¬ phase.IsWriting := by
    intro t phase hlookup
    obtain ⟨-, rfl⟩ | ⟨-, rfl⟩ := hbacked hlookup <;> exact id
  obtain ⟨s₁, hrun₁, hmemory₁, hresults₁, hlookup₁⟩ :=
    reach_renamed (p := sampleBoard) (t := 0) zeroNonce (by decide) hwriting
  have hone : s₁.saves.lookup 1 = some .backedUp := by
    rw [hlookup₁]
    decide
  have hwriting₁ : ∀ {t phase}, s₁.saves.lookup t = some phase → ¬ phase.IsWriting := by
    intro t phase hlookup
    rw [hlookup₁] at hlookup
    split at hlookup
    · cases hlookup
    · exact hwriting hlookup
  obtain ⟨s₂, hrun₂, hmemory₂, hresults₂, hlookup₂⟩ := reach_renamed zeroNonce hone hwriting₁
  have hidle : ∀ t, s₂.saves.lookup t = none := by
    intro t
    rw [hlookup₂, hlookup₁]
    by_cases h1 : t = 1
    · rw [if_pos h1]
    · by_cases h0 : t = 0
      · rw [if_neg h1, if_pos h0]
      · rw [if_neg h1, if_neg h0]
        by_contra hsome
        obtain ⟨phase, hphase⟩ := Option.ne_none_iff_exists'.mp hsome
        obtain ⟨ht, -⟩ | ⟨ht, -⟩ := hbacked hphase
        · exact h1 ht
        · exact h0 ht
  have hmemory : s₂.memory = changedTwice := hmemory₂.trans hmemory₁
  have hresults : s₂.results = [.ok (), .ok ()] := by rw [hresults₂, hresults₁]; rfl
  have hdurable : Durable sampleBoard s₂ := updates_durable sampleBoard plainCodec_lawful start_fresh
    ((reach_bothLocked.trans hrun₁).trans hrun₂)
  refine ⟨s₂, hrun₁.trans hrun₂, hmemory, hresults, hdurable, ?_⟩
  cases hcontents : s₂.disk.contents .config with
  | none =>
      rw [hdurable.absent hcontents] at hresults
      cases hresults
  | some contents => exact ⟨contents, rfl, hmemory ▸ hdurable.current hidle contents hcontents⟩

private noncomputable def firstFilled : State :=
  filled twoBackedUp 2 [changed, changed, Config.default "kvm"]

private noncomputable def emptied : State :=
  { firstFilled with
    disk := (firstFilled.disk.openTruncate .temp).1
    saves := firstFilled.saves.insert 1 (.writing 0 0 sealedConfig) }

private noncomputable def torn : State :=
  emptied.finish 0 (emptied.disk.rename .temp .config) (.ok ())

theorem reach_torn : Run.Reach (step sampleBoard) Run.anyStep fresh torn := by
  have hone : Run.Reach (step sampleBoard) Run.anyStep fresh
      ⟨changed, .empty, oneWaiting, 1, [], [changed, Config.default "kvm"]⟩ :=
    Run.Reach.refl.tail (a := .update (setMcpEnabled true)) trivial rfl
  have htwo : Run.Reach (step sampleBoard) Run.anyStep fresh
      ⟨changed, .empty, oneWaiting.insert 1 .waiting, 2, [],
        [changed, changed, Config.default "kvm"]⟩ :=
    hone.tail (a := .update (setMcpEnabled true)) trivial rfl
  have hlocked := (htwo.tail (a := .lock 0) trivial rfl).tail (a := .lock 1) trivial rfl
  have hbackedUp : Run.Reach (step sampleBoard) Run.anyStep fresh
      ⟨changed, .empty, twoBackedUp, 2, [], [changed, changed, Config.default "kvm"]⟩ :=
    (hlocked.tail (a := .backup 0) trivial rfl).tail (a := .backup 1) trivial rfl
  have hopened : Run.Reach (step sampleBoard) Run.anyStep fresh
      (opened twoBackedUp 2 [changed, changed, Config.default "kvm"]) :=
    hbackedUp.tail (a := .openTemp 0 zeroNonce) trivial rfl
  have hfilled := hopened.tail (a := .write 0 sealedConfig.length) trivial (step_filled ..)
  have hemptied : Run.Reach (step sampleBoard) Run.anyStep fresh emptied :=
    hfilled.tail (a := .openTemp 1 zeroNonce) trivial rfl
  exact hemptied.tail (a := .rename 0) trivial rfl

/-- Two overlapping saves leave an empty primary file. -/
theorem overlapping_saves_tear :
    ¬ ∀ (p : ConfigPersistence) (init s : State), p.codec.Lawful → Start p init →
      Run.Reach (step p) Run.anyStep init s → Durable p s := by
  intro h
  have hdurable := h sampleBoard fresh torn plainCodec_lawful start_fresh reach_torn
  obtain ⟨c, -, text, hdecode, -⟩ := hdurable.complete [] rfl
  cases hdecode

end SaveRuns

end ArkKvm
