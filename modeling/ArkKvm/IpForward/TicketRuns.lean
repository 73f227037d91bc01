import ArkKvm.IpForward.Ticket
import ArkKvm.Lib.Run

/-!
# Runs of the ticket desk

The critical sections of `start`, `consume` and `clear_session` in any order, with a clock
that never goes back and a log of what they answered.  The map drops expired tickets only
when it is touched, so it is compared with what the log says: `live` reads from the log
alone which ticket a label stands for, expiry left out.
-/

namespace ArkKvm.IpForward

open Lib Lib.Action

inductive Entry
  | issued (label : String) (ticket : PendingTicket)
  | consumed (label sessionId : String) (time : Nat) (result : Except String IpForwardParams)
  | cleared (sessionId : String)

/-- The tickets, the clock in milliseconds and the log, newest entry first. -/
structure Desk where
  tickets : Tickets := ∅
  clock : Nat := 0
  log : List Entry := []

/-- A critical section, or time passing.  `issued` is the reading of the clock that `start`
made before it waited for the lock; `took` is what passes between the two readings of
`consume`. -/
inductive Act
  | tick (ms : Nat)
  | start (sessionId : String) (params : StartIpForwardParams) (usbPeer : Except String String)
      (uuid : String) (issued : Nat)
  | consume (label sessionId : String) (took : Nat)
  | clearSession (sessionId : String)

def ticketFor (sessionId : String) (issued : Nat) (r : StartIpForwardResponse) : PendingTicket where
  sessionId := sessionId
  params :=
    { host := r.resolvedHost
      port := r.port
      protocol := if r.protocol = ForwardProtocol.udp.asStr then .udp else .tcp }
  expiresAt := issued + ticketTtl

namespace Desk

def step (s : Desk) : Act → Option Desk
  | .tick ms => some { s with clock := s.clock + ms }
  | .start sessionId params usbPeer uuid issued =>
      if issued ≤ s.clock then
        match start sessionId params usbPeer uuid issued s.clock s.tickets with
        | (m, .ok r) =>
            some { s with
              tickets := m
              log := .issued r.dataChannel (ticketFor sessionId issued r) :: s.log }
        | (m, .error _) => some { s with tickets := m }
      else none
  | .consume label sessionId took =>
      let result := consume label sessionId s.clock (s.clock + took) s.tickets
      some
        { tickets := result.1
          clock := s.clock + took
          log := .consumed label sessionId (s.clock + took) result.2 :: s.log }
  | .clearSession sessionId =>
      some { s with tickets := clearSession sessionId s.tickets, log := .cleared sessionId :: s.log }

def FreshLabel (s : Desk) : Act → Prop
  | .start _ _ _ uuid _ => ∀ ticket, Entry.issued (ipForwardPrefix ++ uuid) ticket ∉ s.log
  | _ => True

/-! ## What is asked of the tickets -/

def Consumes (label : String) : Entry → Prop
  | .consumed label' _ _ (.ok _) => label' = label
  | _ => False

instance (label : String) (e : Entry) : Decidable (Consumes label e) :=
  match e with
  | .consumed label' _ _ (.ok _) => inferInstanceAs (Decidable (label' = label))
  | .consumed _ _ _ (.error _) => inferInstanceAs (Decidable False)
  | .issued _ _ => inferInstanceAs (Decidable False)
  | .cleared _ => inferInstanceAs (Decidable False)

/-- The ticket was issued, and since then neither consumed nor cleared.  Attempts of other
sessions to consume it do not matter. -/
def Pending (s : Desk) (label : String) (ticket : PendingTicket) : Prop :=
  ∃ newer older, s.log = newer ++ .issued label ticket :: older ∧
    ∀ e ∈ newer, ¬ Consumes label e ∧ e ≠ .cleared ticket.sessionId

structure Guarantee (s : Desk) : Prop where
  /-- No label is consumed twice. -/
  once : ∀ label, s.log.countP (fun e => Consumes label e) ≤ 1
  /-- Who consumes a label is the session it was issued to, before the expiry, and nobody
  cleared that session in between. -/
  owner : ∀ newer label sessionId time params older,
    s.log = newer ++ .consumed label sessionId time (.ok params) :: older →
    ∃ mid ticket old, older = mid ++ .issued label ticket :: old ∧
      ticket.sessionId = sessionId ∧ ticket.params = params ∧ time < ticket.expiresAt ∧
      ∀ e ∈ mid, e ≠ .cleared sessionId
  /-- Another session gets an error. -/
  foreign : ∀ label ticket, Entry.issued label ticket ∈ s.log → ∀ sessionId ≠ ticket.sessionId,
    ∀ now later, ∃ e, (consume label sessionId now later s.tickets).2 = .error e
  /-- Until its expiry a pending ticket can be consumed by its owner. -/
  usable : ∀ label ticket, s.Pending label ticket → ∀ now later, s.clock ≤ now → now ≤ later →
    later < ticket.expiresAt →
    (consume label ticket.sessionId now later s.tickets).2 = .ok ticket.params
  /-- A session has at most four tickets that have not expired. -/
  quota : ∀ sessionId, s.tickets.entries.countP
    (fun t => t.2.sessionId = sessionId ∧ s.clock < t.2.expiresAt) ≤ maxPendingPerSession
  /-- Nothing issued to a session before it was cleared is consumed afterwards. -/
  cleared : ∀ newer sessionId older, s.log = newer ++ .cleared sessionId :: older →
    ∀ label ticket, Entry.issued label ticket ∈ older → ticket.sessionId = sessionId →
      (∀ e ∈ newer, ¬ Consumes label e) ∧
      ∀ sessionId' now later, ∃ e, (consume label sessionId' now later s.tickets).2 = .error e

/-! ## The log read as a map -/

def live (label : String) : List Entry → Option PendingTicket
  | [] => none
  | .issued label' ticket :: log => if label' = label then some ticket else live label log
  | .consumed label' _ _ (.ok _) :: log => if label' = label then none else live label log
  | .consumed _ _ _ (.error _) :: log => live label log
  | .cleared sessionId :: log => (live label log).filter fun t => t.sessionId ≠ sessionId

end Desk

/-! ## What one critical section does -/

variable {m : Tickets} {label sessionId : String} {now later : Nat}

theorem lookup_purgeExpired {ticket : PendingTicket} :
    (purgeExpired now m).lookup label = some ticket ↔
      m.lookup label = some ticket ∧ now < ticket.expiresAt := by
  unfold purgeExpired
  rw [Table.lookup_removeWhere, decide_eq_false_iff_not, Nat.not_le]

theorem lookup_clearSession {ticket : PendingTicket} :
    (clearSession sessionId m).lookup label = some ticket ↔
      m.lookup label = some ticket ∧ ticket.sessionId ≠ sessionId := by
  unfold clearSession
  rw [Table.lookup_removeWhere, decide_eq_false_iff_not]

/-- `start` either leaves the map alone up to expired tickets, or adds its own ticket to
less than four. -/
theorem start_cases (sessionId : String) (params : StartIpForwardParams)
    (usbPeer : Except String String) (uuid : String) (issued now : Nat) (m : Tickets) :
    (∃ e m', start sessionId params usbPeer uuid issued now m = (m', .error e) ∧
      (m' = m ∨ m' = purgeExpired now m)) ∨
    ∃ r, r.dataChannel = ipForwardPrefix ++ uuid ∧
      pendingFor sessionId (purgeExpired now m) < maxPendingPerSession ∧
      start sessionId params usbPeer uuid issued now m =
        ((purgeExpired now m).insert (ipForwardPrefix ++ uuid) (ticketFor sessionId issued r),
          .ok r) := by
  unfold start
  by_cases hport : params.port ≠ 0
  · rw [bind_of_ok (ensure_of_pos hport _ _)]
    cases hprotocol : ForwardProtocol.parse params.protocol with
    | error e => exact .inl ⟨e, m, rfl, .inl rfl⟩
    | ok protocol =>
    rw [bind_of_ok (a := protocol) (t := m) rfl]
    cases hhost : resolveForwardHost usbPeer params.target params.host with
    | error e => exact .inl ⟨e, m, rfl, .inl rfl⟩
    | ok host =>
    rw [bind_of_ok (a := host) (t := m) rfl, bind_of_ok (a := ()) (t := purgeExpired now m) rfl,
      bind_of_ok (a := purgeExpired now m) (t := purgeExpired now m) rfl]
    by_cases hquota : pendingFor sessionId (purgeExpired now m) < maxPendingPerSession
    · refine .inr ⟨⟨ipForwardPrefix ++ uuid, host, params.port, protocol.asStr⟩, rfl, hquota, ?_⟩
      rw [bind_of_ok (ensure_of_pos hquota _ _)]
      have hticket : ticketFor sessionId issued
          ⟨ipForwardPrefix ++ uuid, host, params.port, protocol.asStr⟩ =
          ⟨sessionId, ⟨host, params.port, protocol⟩, issued + ticketTtl⟩ := by
        cases protocol <;> rfl
      rw [hticket]
      rfl
    · exact .inl ⟨_, _, bind_of_error (ensure_of_neg hquota _ _), .inr rfl⟩
  · exact .inl ⟨_, _, bind_of_error (ensure_of_neg hport _ _), .inl rfl⟩

theorem consume_absent (sessionId : String) (later : Nat)
    (h : (purgeExpired now m).lookup label = none) :
    consume label sessionId now later m =
      (purgeExpired now m,
        .error "[ticket_invalid] ip forward ticket not found or already used") := by
  unfold consume
  rw [bind_of_ok (a := ()) (t := purgeExpired now m) rfl,
    bind_of_ok (a := purgeExpired now m) (t := purgeExpired now m) rfl]
  simp only [h]
  rfl

/-- A ticket is under the label: it is taken by its owner, dropped once expired, and put
back otherwise. -/
theorem consume_present {ticket : PendingTicket}
    (h : (purgeExpired now m).lookup label = some ticket) :
    consume label sessionId now later m =
      if later < ticket.expiresAt then
        if ticket.sessionId = sessionId then ((purgeExpired now m).erase label, .ok ticket.params)
        else (((purgeExpired now m).erase label).insert label ticket,
          .error "[ticket_invalid] ip forward ticket session mismatch")
      else ((purgeExpired now m).erase label, .error "[ticket_invalid] ip forward ticket expired") := by
  unfold consume
  rw [bind_of_ok (a := ()) (t := purgeExpired now m) rfl,
    bind_of_ok (a := purgeExpired now m) (t := purgeExpired now m) rfl]
  simp only [h]
  rw [bind_of_ok (a := ()) (t := (purgeExpired now m).erase label) rfl]
  by_cases hlater : later < ticket.expiresAt
  · rw [if_pos hlater, bind_of_ok (ensure_of_pos hlater _ _)]
    by_cases howner : ticket.sessionId = sessionId
    · rw [if_pos howner, if_neg (not_not.mpr howner)]
      rfl
    · rw [if_neg howner, if_pos howner]
      rfl
  · rw [if_neg hlater]
    exact bind_of_error (ensure_of_neg hlater _ _)

namespace Desk

/-! ## Lawful logs -/

/-- The logs that a run writes: labels are fresh, and only what is live is consumed. -/
inductive Lawful : List Entry → Prop
  | nil : Lawful []
  | issued {log : List Entry} {label : String} {ticket : PendingTicket} (h : Lawful log)
      (hfresh : ∀ t, Entry.issued label t ∉ log) : Lawful (.issued label ticket :: log)
  | refused {log : List Entry} {label sessionId e : String} {time : Nat} (h : Lawful log) :
      Lawful (.consumed label sessionId time (.error e) :: log)
  | consumed {log : List Entry} {label : String} {time : Nat} {ticket : PendingTicket}
      (h : Lawful log) (hlive : live label log = some ticket) (htime : time < ticket.expiresAt) :
      Lawful (.consumed label ticket.sessionId time (.ok ticket.params) :: log)
  | cleared {log : List Entry} {sessionId : String} (h : Lawful log) :
      Lawful (.cleared sessionId :: log)

theorem Lawful.tail {e : Entry} {log : List Entry} (h : Lawful (e :: log)) : Lawful log := by
  cases h <;> assumption

theorem Lawful.suffix {newer log : List Entry} (h : Lawful (newer ++ log)) : Lawful log := by
  induction newer with
  | nil => exact h
  | cons e newer ih => exact ih h.tail

theorem issued_of_live {log : List Entry} {ticket : PendingTicket}
    (h : live label log = some ticket) : .issued label ticket ∈ log := by
  induction log with
  | nil => cases h
  | cons e log ih =>
      apply List.mem_cons.mpr
      cases e with
      | issued label' ticket' =>
          simp only [live] at h
          by_cases hlabel : label' = label
          · rw [if_pos hlabel] at h
            exact .inl (by rw [hlabel, Option.some.inj h])
          · rw [if_neg hlabel] at h
            exact .inr (ih h)
      | consumed label' sessionId time result =>
          cases result with
          | error e => exact .inr (ih h)
          | ok params =>
              simp only [live] at h
              by_cases hlabel : label' = label
              · rw [if_pos hlabel] at h
                cases h
              · rw [if_neg hlabel] at h
                exact .inr (ih h)
      | cleared sessionId =>
          simp only [live] at h
          exact .inr (ih (Option.filter_eq_some_iff.mp h).1)

theorem Lawful.issued_of_consumes {log : List Entry} (h : Lawful log) :
    ∀ e ∈ log, Consumes label e → ∃ ticket, Entry.issued label ticket ∈ log := by
  induction h with
  | nil => exact fun e hmem => by cases hmem
  | @consumed log label' time ticket _ hlive _ ih =>
      intro e hmem hconsumes
      rcases List.mem_cons.mp hmem with rfl | hlog
      · obtain rfl : label' = label := hconsumes
        exact ⟨ticket, List.mem_cons_of_mem _ (issued_of_live hlive)⟩
      · obtain ⟨t, ht⟩ := ih e hlog hconsumes
        exact ⟨t, List.mem_cons_of_mem _ ht⟩
  | issued _ _ ih | refused _ ih | cleared _ ih =>
      intro e hmem hconsumes
      rcases List.mem_cons.mp hmem with rfl | hlog
      · exact hconsumes.elim
      · obtain ⟨t, ht⟩ := ih e hlog hconsumes
        exact ⟨t, List.mem_cons_of_mem _ ht⟩

theorem Lawful.unconsumed {log : List Entry} (h : Lawful log) {ticket : PendingTicket}
    (hlive : live label log = some ticket) : ∀ e ∈ log, ¬ Consumes label e := by
  induction h with
  | nil => cases hlive
  | @issued log label' ticket' h hfresh ih =>
      intro e hmem hconsumes
      rcases List.mem_cons.mp hmem with rfl | hmem
      · exact hconsumes
      · simp only [live] at hlive
        by_cases hlabel : label' = label
        · subst hlabel
          obtain ⟨t, ht⟩ := h.issued_of_consumes e hmem hconsumes
          exact hfresh t ht
        · rw [if_neg hlabel] at hlive
          exact ih hlive e hmem hconsumes
  | refused h ih =>
      intro e hmem hconsumes
      rcases List.mem_cons.mp hmem with rfl | hmem
      · exact hconsumes
      · exact ih hlive e hmem hconsumes
  | @consumed log label' time ticket' h _ _ ih =>
      intro e hmem hconsumes
      simp only [live] at hlive
      by_cases hlabel : label' = label
      · rw [if_pos hlabel] at hlive
        cases hlive
      · rw [if_neg hlabel] at hlive
        rcases List.mem_cons.mp hmem with rfl | hmem
        · exact hlabel hconsumes
        · exact ih hlive e hmem hconsumes
  | cleared h ih =>
      intro e hmem hconsumes
      simp only [live] at hlive
      rcases List.mem_cons.mp hmem with rfl | hmem
      · exact hconsumes
      · exact ih (Option.filter_eq_some_iff.mp hlive).1 e hmem hconsumes

theorem countP_consumes_cons {e : Entry} {log : List Entry} (h : ¬ Consumes label e) :
    (e :: log).countP (fun e => Consumes label e) = log.countP fun e => Consumes label e :=
  List.countP_cons_of_neg fun hconsumes => h (of_decide_eq_true hconsumes)

theorem Lawful.once {log : List Entry} (h : Lawful log) (label : String) :
    log.countP (fun e => Consumes label e) ≤ 1 := by
  induction h with
  | nil => exact Nat.zero_le _
  | @consumed log label' time ticket h hlive _ ih =>
      by_cases hlabel : label' = label
      · subst hlabel
        have hnone : log.countP (fun e => Consumes label' e) = 0 := by
          refine List.countP_eq_zero.mpr fun e hmem hconsumes => ?_
          exact h.unconsumed hlive e hmem (of_decide_eq_true hconsumes)
        rw [List.countP_cons, hnone]
        split <;> omega
      · exact le_of_eq_of_le (countP_consumes_cons hlabel) ih
  | issued _ _ ih | refused _ ih | cleared _ ih =>
      refine le_of_eq_of_le (countP_consumes_cons ?_) ih
      exact fun hconsumes => hconsumes

theorem Lawful.unique {log : List Entry} (h : Lawful log) {ticket ticket' : PendingTicket}
    (hmem : .issued label ticket ∈ log) (hmem' : .issued label ticket' ∈ log) :
    ticket = ticket' := by
  induction h with
  | nil => cases hmem
  | @issued log label' t h hfresh ih =>
      rcases List.mem_cons.mp hmem with heq | hlog
      · rcases List.mem_cons.mp hmem' with heq' | hlog'
        · rw [Entry.issued.injEq] at heq heq'
          exact heq.2.trans heq'.2.symm
        · rw [Entry.issued.injEq] at heq
          exact absurd (heq.1 ▸ hlog') (hfresh ticket')
      · rcases List.mem_cons.mp hmem' with heq' | hlog'
        · rw [Entry.issued.injEq] at heq'
          exact absurd (heq'.1 ▸ hlog) (hfresh ticket)
        · exact ih hlog hlog'
  | refused _ ih | consumed _ _ _ ih | cleared _ ih =>
      have hlog := (List.mem_cons.mp hmem).resolve_left nofun
      have hlog' := (List.mem_cons.mp hmem').resolve_left nofun
      exact ih hlog hlog'

theorem pending_of_live {log : List Entry} {ticket : PendingTicket}
    (h : live label log = some ticket) :
    ∃ newer older, log = newer ++ .issued label ticket :: older ∧
      ∀ e ∈ newer, ¬ Consumes label e ∧ e ≠ .cleared ticket.sessionId := by
  induction log with
  | nil => cases h
  | cons e log ih =>
      -- An entry that leaves the label live goes in front of what the rest gives.
      have hcons : live label log = some ticket → ¬ Consumes label e →
          e ≠ .cleared ticket.sessionId →
          ∃ newer older, e :: log = newer ++ .issued label ticket :: older ∧
            ∀ e' ∈ newer, ¬ Consumes label e' ∧ e' ≠ .cleared ticket.sessionId := by
        intro hlive hconsumes hcleared
        obtain ⟨newer, older, rfl, hnewer⟩ := ih hlive
        refine ⟨e :: newer, older, rfl, fun e' hmem => ?_⟩
        rcases List.mem_cons.mp hmem with rfl | hmem
        · exact ⟨hconsumes, hcleared⟩
        · exact hnewer e' hmem
      cases e with
      | issued label' ticket' =>
          simp only [live] at h
          by_cases hlabel : label' = label
          · rw [if_pos hlabel] at h
            refine ⟨[], log, ?_, fun e hmem => by cases hmem⟩
            rw [hlabel, Option.some.inj h]
            rfl
          · rw [if_neg hlabel] at h
            exact hcons h (fun hconsumes => hconsumes) nofun
      | consumed label' sessionId time result =>
          cases result with
          | error e => exact hcons h (fun hconsumes => hconsumes) nofun
          | ok params =>
              simp only [live] at h
              by_cases hlabel : label' = label
              · rw [if_pos hlabel] at h
                cases h
              · rw [if_neg hlabel] at h
                exact hcons h hlabel nofun
      | cleared sessionId =>
          simp only [live] at h
          obtain ⟨hlive, howner⟩ := Option.filter_eq_some_iff.mp h
          refine hcons hlive (fun hconsumes => hconsumes) ?_
          rintro ⟨⟩
          simp at howner

theorem Lawful.live_of_pending {newer older : List Entry} {ticket : PendingTicket}
    (h : Lawful (newer ++ .issued label ticket :: older))
    (hnewer : ∀ e ∈ newer, ¬ Consumes label e ∧ e ≠ .cleared ticket.sessionId) :
    live label (newer ++ .issued label ticket :: older) = some ticket := by
  induction newer with
  | nil => simp only [List.nil_append, live, if_pos]
  | cons e newer ih =>
      have hlive := ih h.tail fun e' hmem => hnewer e' (List.mem_cons_of_mem _ hmem)
      obtain ⟨hconsumes, hcleared⟩ := hnewer e List.mem_cons_self
      rw [List.cons_append] at h ⊢
      cases h with
      | @issued _ label' _ _ hfresh =>
          have hlabel : label' ≠ label := by
            rintro rfl
            exact hfresh ticket (List.mem_append_right _ List.mem_cons_self)
          rw [live, if_neg hlabel]
          exact hlive
      | refused => exact hlive
      | @consumed _ label' =>
          have hlabel : label' ≠ label := hconsumes
          rw [live, if_neg hlabel]
          exact hlive
      | @cleared _ sessionId =>
          rw [live, hlive]
          refine Option.filter_eq_some_iff.mpr ⟨rfl, ?_⟩
          have hother : ticket.sessionId ≠ sessionId := fun heq => hcleared (heq ▸ rfl)
          exact decide_eq_true hother

/-- A label that was issued and is no longer live stays so. -/
theorem Lawful.dead {newer log : List Entry} {ticket : PendingTicket}
    (h : Lawful (newer ++ log)) (hissued : .issued label ticket ∈ log)
    (hnone : live label log = none) :
    live label (newer ++ log) = none ∧ ∀ e ∈ newer, ¬ Consumes label e := by
  induction newer with
  | nil => exact ⟨hnone, fun e hmem => by cases hmem⟩
  | cons e newer ih =>
      obtain ⟨hdead, hnewer⟩ := ih h.tail
      have hcons : ¬ Consumes label e → ∀ e' ∈ e :: newer, ¬ Consumes label e' := by
        intro hconsumes e' hmem
        rcases List.mem_cons.mp hmem with rfl | hmem
        · exact hconsumes
        · exact hnewer e' hmem
      rw [List.cons_append] at h ⊢
      cases h with
      | @issued _ label' _ _ hfresh =>
          have hlabel : label' ≠ label := by
            rintro rfl
            exact hfresh ticket (List.mem_append_right _ hissued)
          rw [live, if_neg hlabel]
          exact ⟨hdead, hcons fun hconsumes => hconsumes⟩
      | refused => exact ⟨hdead, hcons fun hconsumes => hconsumes⟩
      | @consumed _ label' _ _ _ hlive =>
          have hlabel : label' ≠ label := by
            rintro rfl
            rw [hdead] at hlive
            cases hlive
          rw [live, if_neg hlabel]
          exact ⟨hdead, hcons hlabel⟩
      | cleared =>
          rw [live, hdead]
          exact ⟨rfl, hcons fun hconsumes => hconsumes⟩

/-! ## The map and the log -/

structure Agrees (clock : Nat) (m : Tickets) (log : List Entry) : Prop where
  sound : ∀ label ticket, m.lookup label = some ticket → live label log = some ticket
  complete : ∀ label ticket, live label log = some ticket → clock < ticket.expiresAt →
    m.lookup label = some ticket

structure DeskInv (s : Desk) : Prop where
  lawful : Lawful s.log
  agrees : Agrees s.clock s.tickets s.log
  quota : ∀ sessionId, pendingFor sessionId s.tickets ≤ maxPendingPerSession

variable {clock : Nat} {log : List Entry}

theorem Agrees.delay (h : Agrees clock m log) (hle : clock ≤ later) : Agrees later m log :=
  ⟨h.sound, fun label ticket hlive htime => h.complete label ticket hlive (by omega)⟩

theorem Agrees.purge (h : Agrees clock m log) : Agrees clock (purgeExpired clock m) log where
  sound label ticket hlookup := h.sound label ticket (lookup_purgeExpired.mp hlookup).1
  complete label ticket hlive htime :=
    lookup_purgeExpired.mpr ⟨h.complete label ticket hlive htime, htime⟩

theorem Agrees.insert (h : Agrees clock m log) (label : String) (ticket : PendingTicket) :
    Agrees clock (m.insert label ticket) (.issued label ticket :: log) := by
  constructor
  · intro label' ticket' hlookup
    rw [live]
    rcases Table.lookup_insert_iff.mp hlookup with ⟨rfl, rfl⟩ | ⟨hne, hlookup⟩
    · rw [if_pos rfl]
    · rw [if_neg (Ne.symm hne)]
      exact h.sound label' ticket' hlookup
  · intro label' ticket' hlive htime
    rw [live] at hlive
    by_cases hlabel : label = label'
    · rw [if_pos hlabel] at hlive
      exact Table.lookup_insert_iff.mpr (.inl ⟨hlabel.symm, (Option.some.inj hlive).symm⟩)
    · rw [if_neg hlabel] at hlive
      exact Table.lookup_insert_iff.mpr
        (.inr ⟨Ne.symm hlabel, h.complete label' ticket' hlive htime⟩)

theorem Agrees.consumed (h : Agrees clock m log) (label sessionId : String) (time : Nat)
    (params : IpForwardParams) :
    Agrees clock (m.erase label) (.consumed label sessionId time (.ok params) :: log) := by
  constructor
  · intro label' ticket' hlookup
    obtain ⟨hne, hlookup⟩ := Table.lookup_erase_iff.mp hlookup
    rw [live, if_neg (Ne.symm hne)]
    exact h.sound label' ticket' hlookup
  · intro label' ticket' hlive htime
    rw [live] at hlive
    by_cases hlabel : label = label'
    · rw [if_pos hlabel] at hlive
      cases hlive
    · rw [if_neg hlabel] at hlive
      exact Table.lookup_erase_iff.mpr ⟨Ne.symm hlabel, h.complete label' ticket' hlive htime⟩

theorem Agrees.clear (h : Agrees clock m log) (sessionId : String) :
    Agrees clock (clearSession sessionId m) (.cleared sessionId :: log) := by
  constructor
  · intro label ticket hlookup
    obtain ⟨hlookup, howner⟩ := lookup_clearSession.mp hlookup
    rw [live, h.sound label ticket hlookup]
    exact Option.filter_eq_some_iff.mpr ⟨rfl, decide_eq_true howner⟩
  · intro label ticket hlive htime
    rw [live] at hlive
    obtain ⟨hlive, howner⟩ := Option.filter_eq_some_iff.mp hlive
    exact lookup_clearSession.mpr ⟨h.complete label ticket hlive htime, of_decide_eq_true howner⟩

theorem pendingFor_purgeExpired_le (sessionId : String) (now : Nat) (m : Tickets) :
    pendingFor sessionId (purgeExpired now m) ≤ pendingFor sessionId m :=
  Table.countP_removeWhere_le _ m _

theorem consume_inv (hlawful : Lawful log) (h : Agrees clock m log)
    (hquota : ∀ sessionId, pendingFor sessionId m ≤ maxPendingPerSession)
    (label sessionId : String) (hlater : clock ≤ later) :
    Lawful (.consumed label sessionId later (consume label sessionId clock later m).2 :: log) ∧
      Agrees later (consume label sessionId clock later m).1
        (.consumed label sessionId later (consume label sessionId clock later m).2 :: log) ∧
      ∀ sessionId', pendingFor sessionId' (consume label sessionId clock later m).1 ≤
        maxPendingPerSession := by
  have hpurged := h.purge
  have hcount : ∀ sessionId', pendingFor sessionId' (purgeExpired clock m) ≤
      maxPendingPerSession := fun sessionId' =>
    (pendingFor_purgeExpired_le sessionId' clock m).trans (hquota sessionId')
  have herased : ∀ sessionId', pendingFor sessionId' ((purgeExpired clock m).erase label) ≤
      maxPendingPerSession := fun sessionId' =>
    (Table.countP_erase_le _ (purgeExpired clock m) label).trans (hcount sessionId')
  cases hlookup : (purgeExpired clock m).lookup label with
  | none =>
      rw [consume_absent sessionId later hlookup]
      have hsame := hpurged.delay hlater
      exact ⟨.refused hlawful, ⟨hsame.sound, hsame.complete⟩, hcount⟩
  | some ticket =>
      have hlive := hpurged.sound label ticket hlookup
      rw [consume_present hlookup]
      by_cases htime : later < ticket.expiresAt
      · rw [if_pos htime]
        by_cases howner : ticket.sessionId = sessionId
        · rw [if_pos howner]
          refine ⟨howner ▸ .consumed hlawful hlive htime, ?_, herased⟩
          exact (hpurged.consumed label sessionId later ticket.params).delay hlater
        · rw [if_neg howner]
          -- The ticket of somebody else goes back where it was.
          have hback : ∀ label', (((purgeExpired clock m).erase label).insert label ticket).lookup
              label' = (purgeExpired clock m).lookup label' := by
            intro label'
            by_cases hlabel : label' = label
            · rw [hlabel, AList.lookup_insert, hlookup]
            · rw [AList.lookup_insert_ne hlabel, AList.lookup_erase_ne hlabel]
          have hsame := hpurged.delay hlater
          refine ⟨.refused hlawful, ⟨?_, ?_⟩, fun sessionId' => ?_⟩
          · intro label' ticket' hlookup'
            exact hsame.sound label' ticket' ((hback label').symm.trans hlookup')
          · intro label' ticket' hlive' htime'
            exact (hback label').trans (hsame.complete label' ticket' hlive' htime')
          · exact (Table.countP_insert_erase _ hlookup).trans_le (hcount sessionId')
      · rw [if_neg htime]
        refine ⟨.refused hlawful, ⟨?_, ?_⟩, herased⟩
        · intro label' ticket' hlookup'
          exact hpurged.sound label' ticket' (Table.lookup_erase_iff.mp hlookup').2
        · intro label' ticket' hlive' htime'
          -- The label whose ticket was dropped has expired by now.
          have hlabel : label' ≠ label := by
            rintro rfl
            have hticket : ticket = ticket' := Option.some.inj (hlive.symm.trans hlive')
            exact htime (hticket ▸ htime')
          have hkept := (hpurged.delay hlater).complete label' ticket' hlive' htime'
          exact Table.lookup_erase_iff.mpr ⟨hlabel, hkept⟩

theorem step_deskInv {s s' : Desk} {a : Act} (hinv : DeskInv s) (hfresh : s.FreshLabel a)
    (hstep : s.step a = some s') : DeskInv s' := by
  cases a with
  | tick ms =>
      obtain rfl := Option.some.inj hstep
      exact ⟨hinv.lawful, hinv.agrees.delay (Nat.le_add_right _ _), hinv.quota⟩
  | start sessionId params usbPeer uuid issued =>
      simp only [step] at hstep
      by_cases hissued : issued ≤ s.clock
      swap
      · rw [if_neg hissued] at hstep
        cases hstep
      rw [if_pos hissued] at hstep
      rcases start_cases sessionId params usbPeer uuid issued s.clock s.tickets with
        ⟨e, m', hstart, hm'⟩ | ⟨r, hlabel, hroom, hstart⟩
      · rw [hstart] at hstep
        obtain rfl := Option.some.inj hstep
        rcases hm' with rfl | rfl
        · exact hinv
        · exact ⟨hinv.lawful, hinv.agrees.purge, fun sessionId' =>
            (pendingFor_purgeExpired_le sessionId' s.clock s.tickets).trans
              (hinv.quota sessionId')⟩
      · rw [hstart] at hstep
        obtain rfl := Option.some.inj hstep
        rw [hlabel]
        refine ⟨.issued hinv.lawful hfresh, hinv.agrees.purge.insert _ _, fun sessionId' => ?_⟩
        refine (Table.countP_insert_le _ (purgeExpired s.clock s.tickets) _ _).trans ?_
        by_cases hsession : sessionId = sessionId'
        · subst hsession
          have hroom' : (purgeExpired s.clock s.tickets).entries.countP
              (fun t => t.2.sessionId = sessionId) < maxPendingPerSession := hroom
          split <;> omega
        · have hother : ¬ (ticketFor sessionId issued r).sessionId = sessionId' := hsession
          rw [if_neg (by simpa using hother), Nat.add_zero]
          exact (pendingFor_purgeExpired_le sessionId' s.clock s.tickets).trans
            (hinv.quota sessionId')
  | consume label sessionId took =>
      obtain rfl := Option.some.inj hstep
      obtain ⟨hlawful, hagrees, hquota⟩ := consume_inv hinv.lawful hinv.agrees hinv.quota label
        sessionId (Nat.le_add_right s.clock took)
      exact ⟨hlawful, hagrees, hquota⟩
  | clearSession sessionId =>
      obtain rfl := Option.some.inj hstep
      refine ⟨.cleared hinv.lawful, hinv.agrees.clear sessionId, fun sessionId' => ?_⟩
      exact (Table.countP_removeWhere_le _ s.tickets _).trans (hinv.quota sessionId')

/-! ## The guarantee -/

theorem DeskInv.live_of_lookup {s : Desk} (h : DeskInv s) {ticket : PendingTicket}
    (hlookup : (purgeExpired now s.tickets).lookup label = some ticket) :
    live label s.log = some ticket :=
  h.agrees.sound label ticket (lookup_purgeExpired.mp hlookup).1

theorem DeskInv.foreign {s : Desk} (h : DeskInv s) {ticket : PendingTicket}
    (hissued : .issued label ticket ∈ s.log) (hsession : sessionId ≠ ticket.sessionId)
    (now later : Nat) : ∃ e, (consume label sessionId now later s.tickets).2 = .error e := by
  cases hlookup : (purgeExpired now s.tickets).lookup label with
  | none => exact ⟨_, congrArg Prod.snd (consume_absent sessionId later hlookup)⟩
  | some ticket' =>
      have hissued' := issued_of_live (h.live_of_lookup hlookup)
      obtain rfl := h.lawful.unique hissued hissued'
      rw [consume_present hlookup, if_neg (Ne.symm hsession)]
      split <;> exact ⟨_, rfl⟩

theorem DeskInv.usable {s : Desk} (h : DeskInv s) {ticket : PendingTicket}
    (hpending : s.Pending label ticket) (hnow : s.clock ≤ now) (hlater : now ≤ later)
    (htime : later < ticket.expiresAt) :
    (consume label ticket.sessionId now later s.tickets).2 = .ok ticket.params := by
  obtain ⟨newer, older, hlog, hnewer⟩ := hpending
  have hlawful := h.lawful
  rw [hlog] at hlawful
  have hlive : live label s.log = some ticket := by
    rw [hlog]
    exact hlawful.live_of_pending hnewer
  have hlookup := h.agrees.complete label ticket hlive (by omega)
  have hpurged : (purgeExpired now s.tickets).lookup label = some ticket :=
    lookup_purgeExpired.mpr ⟨hlookup, by omega⟩
  rw [consume_present hpurged, if_pos htime, if_pos rfl]

theorem DeskInv.cleared {s : Desk} (h : DeskInv s) {newer older : List Entry}
    (hlog : s.log = newer ++ .cleared sessionId :: older) {ticket : PendingTicket}
    (hissued : .issued label ticket ∈ older) (hsession : ticket.sessionId = sessionId) :
    (∀ e ∈ newer, ¬ Consumes label e) ∧
      ∀ sessionId' now later, ∃ e, (consume label sessionId' now later s.tickets).2 = .error e := by
  have hlawful := h.lawful
  rw [hlog] at hlawful
  have hnone : live label (.cleared sessionId :: older) = none := by
    rw [live]
    cases hlive : live label older with
    | none => rfl
    | some ticket' =>
        obtain rfl := hlawful.suffix.tail.unique hissued (issued_of_live hlive)
        exact Option.filter_some_neg (by simpa using hsession)
  obtain ⟨hdead, hnewer⟩ := hlawful.dead (List.mem_cons_of_mem _ hissued) hnone
  refine ⟨hnewer, fun sessionId' now later => ?_⟩
  cases hlookup : (purgeExpired now s.tickets).lookup label with
  | none => exact ⟨_, congrArg Prod.snd (consume_absent sessionId' later hlookup)⟩
  | some ticket' =>
      have hlive := h.live_of_lookup hlookup
      rw [hlog, hdead] at hlive
      cases hlive

theorem DeskInv.owner {s : Desk} (h : DeskInv s) {newer older : List Entry} {time : Nat}
    {params : IpForwardParams}
    (hlog : s.log = newer ++ .consumed label sessionId time (.ok params) :: older) :
    ∃ mid ticket old, older = mid ++ .issued label ticket :: old ∧
      ticket.sessionId = sessionId ∧ ticket.params = params ∧ time < ticket.expiresAt ∧
      ∀ e ∈ mid, e ≠ .cleared sessionId := by
  have hlawful := h.lawful
  rw [hlog] at hlawful
  cases hlawful.suffix with
  | @consumed _ _ _ ticket _ hlive htime =>
      obtain ⟨mid, old, hsplit, hmid⟩ := pending_of_live hlive
      exact ⟨mid, ticket, old, hsplit, rfl, rfl, htime, fun e hmem => (hmid e hmem).2⟩

theorem DeskInv.guarantee {s : Desk} (h : DeskInv s) : Guarantee s where
  once := h.lawful.once
  owner _ _ _ _ _ _ hlog := h.owner hlog
  foreign _ _ hissued _ hsession now later := h.foreign hissued hsession now later
  usable _ _ hpending _ _ hnow hlater htime := h.usable hpending hnow hlater htime
  quota sessionId := by
    refine (List.countP_mono_left fun t _ ht => ?_).trans (h.quota sessionId)
    exact decide_eq_true (of_decide_eq_true ht).1
  cleared _ _ _ hlog _ _ hissued hsession := h.cleared hlog hissued hsession

/-- In every interleaving of the critical sections with fresh labels the tickets are used
once, by their owner, in time, and never after their session was cleared. -/
theorem ticket_guarantee {s : Desk} (hrun : Run.Reach step FreshLabel {} s) : Guarantee s := by
  have hinit : DeskInv {} := by
    refine ⟨.nil, ⟨?_, ?_⟩, fun _ => Nat.zero_le _⟩
    · intro label ticket hlookup
      cases hlookup
    · intro label ticket hlive _
      cases hlive
  have hinv := hrun.invariant (P := DeskInv) hinit fun _ _ _ hinv hfresh hstep =>
    step_deskInv hinv hfresh hstep
  exact hinv.guarantee

/-- Two sessions have a ticket each.  The first one is tried by the other session in vain, used by
its owner and tried again; the second session is cleared before it uses its ticket; then the first
session asks for another one and uses it. -/
def threeTicketRun : List Act :=
  [.start "a" { host := some "10.0.0.2", port := 22 } (.error "no peer") "1" 0,
    .start "b" { host := some "10.0.0.3", port := 80 } (.error "no peer") "2" 0, .tick 10,
    .consume "ip_forward_1" "b" 0, .consume "ip_forward_1" "a" 0, .consume "ip_forward_1" "a" 0,
    .clearSession "b", .consume "ip_forward_2" "b" 0, .tick 10,
    .start "a" { host := some "10.0.0.2", port := 22 } (.error "no peer") "3" 20,
    .consume "ip_forward_3" "a" 0]

/-- Who tried which label and whether it was consumed, newest first. -/
def attempts (s : Desk) : List (String × String × Bool) :=
  s.log.filterMap fun e =>
    match e with
    | .consumed label sessionId _ result => some (label, sessionId, result.toBool)
    | _ => none

def issuedLabels (s : Desk) : List String :=
  s.log.filterMap fun e =>
    match e with
    | .issued label _ => some label
    | _ => none

def isFresh (s : Desk) : Act → Bool
  | .start _ _ _ uuid _ => ipForwardPrefix ++ uuid ∉ s.issuedLabels
  | _ => true

theorem isFresh_sound (s : Desk) (a : Act) (h : isFresh s a = true) : FreshLabel s a := by
  cases a with
  | start sessionId params usbPeer uuid issued =>
      intro ticket hmem
      exact of_decide_eq_true h (List.mem_filterMap.mpr ⟨_, hmem, rfl⟩)
  | _ => trivial

theorem ticket_guarantee_threeTicketRun :
    ∃ s, Run.Reach step FreshLabel {} s ∧
      s.attempts = [("ip_forward_3", "a", true), ("ip_forward_2", "b", false),
        ("ip_forward_1", "a", false), ("ip_forward_1", "a", true), ("ip_forward_1", "b", false)] ∧
      Guarantee s := by
  have hexec : (Run.exec step isFresh {} threeTicketRun).map attempts =
      some [("ip_forward_3", "a", true), ("ip_forward_2", "b", false),
        ("ip_forward_1", "a", false), ("ip_forward_1", "a", true),
        ("ip_forward_1", "b", false)] := by
    decide +kernel
  obtain ⟨s, hrun, hattempts⟩ := Run.exists_reach_of_exec isFresh_sound hexec
  exact ⟨s, hrun, hattempts, ticket_guarantee hrun⟩

end Desk

end ArkKvm.IpForward
