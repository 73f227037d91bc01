import ArkKvm.Web.TrickleClients

/-!
# Candidates reach a LAN client in order and after the answer

Seen from one connection the server is a relay of candidates: the handlers of the peer
connections produce them, the queue holds at most twenty, the WebSocket loop takes the queue
and sends it.  Each step of the server is one move of the relay of each connection, so the
results on relays apply.  That no candidate overtakes the answer comes from the loop: it
flushes only after a message, when no offer is open.
-/

namespace ArkKvm.Trickle

open Lib Lib.Run Web

def candidateOn (id : String) : String × Outgoing → Option Trickled
  | (id', .newIceCandidate c) => if id' = id then some c else none
  | _ => none

def queuedOn (id : String) (entry : String × Trickled) : Option Trickled :=
  if entry.1 = id then some entry.2 else none

namespace Signals

/-- The candidates on their way to the WebSocket of a connection. -/
def relay (s : Signals) (id : String) : Relay Trickled where
  produced := s.queued.filterMap (queuedOn id)
  sent := s.frames.filterMap (candidateOn id)
  flight := ((s.handlers.lookup id).map fun h => h.phase.flight).getD []
  waiting := (s.websocketIceQueue.lookup id).getD []

end Signals

/-- The step loses a candidate of the connection: the queue is full, the socket fails during
a flush, or the connection ends. -/
def Loses (id : String) (s : Signals) : Event → Prop
  | .deliver i _ => ∃ t origin, s.sending[i]? = some t ∧ s.peers[t.peer]? = some origin ∧
      origin.sessionId = id ∧ maxIceCandidates ≤ (s.relay id).waiting.length
  | .flush id' sent => id' = id ∧ sent = false ∧ (s.relay id).flight ≠ []
  | .clear id' => id' = id ∧ (s.relay id).waiting ≠ []
  | _ => False

/-! ## Steps as moves of a relay -/

section

variable {s t : Signals} {id k : String} {h : Handler} {phase : Phase} {origin : Origin}

theorem relay_say {f : Outgoing} (hf : ∀ c, f ≠ .newIceCandidate c) :
    (s.say id f).relay k = s.relay k := by
  have hnone : candidateOn k (id, f) = none := by
    cases f with
    | newIceCandidate c => exact absurd rfl (hf c)
    | _ => rfl
  unfold Signals.relay Signals.say
  simp [List.filterMap_append, hnone]

theorem relay_sayIf {sent : Bool} {peer : Option Nat} {frame : Frame} :
    (s.sayIf sent id (.reply peer frame)).relay k = s.relay k := by
  cases sent with
  | false => rfl
  | true =>
      apply relay_say
      intro c heq
      cases heq

theorem relay_goto_self :
    (s.goto id h phase).relay id = { s.relay id with flight := phase.flight } := by
  unfold Signals.relay Signals.goto
  simp

theorem relay_goto_other (hne : k ≠ id) : (s.goto id h phase).relay k = s.relay k := by
  unfold Signals.relay Signals.goto
  simp [AList.lookup_insert_ne hne]

theorem relay_flight (hh : s.handlers.lookup id = some h) :
    (s.relay id).flight = h.phase.flight := by
  unfold Signals.relay
  simp [hh]

theorem relay_goto (hh : s.handlers.lookup id = some h) (hold : h.phase.flight = [])
    (hnew : phase.flight = []) : (s.goto id h phase).relay k = s.relay k := by
  by_cases hk : k = id
  · subst hk
    rw [relay_goto_self, hnew, ← hold, ← relay_flight hh]
  · exact relay_goto_other hk

theorem relay_cacheFragment {peer : Nat} {fragment : Option String} :
    (s.cacheFragment peer fragment).relay k = s.relay k := by
  cases fragment <;> rfl

theorem relay_addIceCandidate : (s.addIceCandidate id).relay k = s.relay k := by
  unfold Signals.addIceCandidate
  split <;> rfl

theorem relay_cloudSend {sent : Bool} {f : CloudFrame} :
    (s.cloudSend sent f).relay k = s.relay k := by
  cases sent <;> rfl

/-! ### The WebSocket loop -/

theorem relay_connect {wsRole : Option SessionRole} {greeted : Bool}
    (hfresh : s.handlers.lookup id = none) :
    (s.connect id wsRole greeted).relay k = s.relay k := by
  cases greeted with
  | false => rfl
  | true =>
      have hsay : ({ s with ids := id :: s.ids }.say id .deviceMetadata).relay k =
          ({ s with ids := id :: s.ids } : Signals).relay k := by
        apply relay_say
        intro c heq
        cases heq
      by_cases hk : k = id
      · subst hk
        have hflight : (s.relay k).flight = [] := by
          unfold Signals.relay
          simp [hfresh]
        have hsame : (s.connect k wsRole true).relay k =
            { ({ s with ids := k :: s.ids }.say k .deviceMetadata).relay k with flight := [] } := by
          unfold Signals.relay Signals.connect
          simp [Phase.flight]
        rw [hsame, hsay, ← hflight]
        rfl
      · have hsame : (s.connect id wsRole true).relay k =
            ({ s with ids := id :: s.ids }.say id .deviceMetadata).relay k := by
          unfold Signals.relay Signals.connect
          simp [AList.lookup_insert_ne hk, Signals.say]
        rw [hsame, hsay]
        rfl

theorem relay_receive (hh : s.handlers.lookup id = some h) (hphase : h.phase = .receiving)
    (m : Incoming) : (s.receive id h m).relay k = s.relay k := by
  have hold : h.phase.flight = [] := by rw [hphase]; rfl
  have hidle : ∀ phase, phase.flight = [] → (s.goto id h phase).relay k = s.relay k :=
    fun phase hnew => relay_goto hh hold hnew
  have hreply : ∀ sent peer frame phase, phase.flight = [] →
      ((s.sayIf sent id (.reply peer frame)).goto id h phase).relay k = s.relay k := by
    intro sent peer frame phase hnew
    rw [relay_goto (by rw [sayIf_handlers]; exact hh) hold hnew, relay_sayIf]
  cases m with
  | gone => exact hidle _ rfl
  | ping sent => cases sent <;> exact hidle _ rfl
  | other => exact hidle _ rfl
  | text message =>
      cases message with
      | ping sent => exact hreply sent none .pong .taking rfl
      | invalidJson => exact hidle _ rfl
      | clientClosing => exact hidle _ rfl
      | unknown => exact hidle _ rfl
      | newIceCandidate hasData =>
          cases hasData with
          | false => exact hidle _ rfl
          | true =>
              have hlookup : (s.addIceCandidate id).handlers.lookup id = some h := by
                unfold Signals.addIceCandidate
                split <;> exact hh
              exact (relay_goto hlookup hold rfl).trans relay_addIceCandidate
      | offer data sent =>
          rcases data with _ | (e | request)
          · exact hidle _ rfl
          · exact hidle _ rfl
          · unfold Signals.receive Signals.receiveText Signals.receiveOffer
            dsimp only
            split
            · exact hidle _ rfl
            · exact hreply _ _ _ _ rfl
            · exact relay_goto (s := s.openPeer (.lan id)) hh hold rfl

section

variable {peer : Nat} {sd : String}

theorem relay_lanBuilt (hh : s.handlers.lookup id = some h) (hphase : h.phase = .building peer)
    (ok : Bool) : (s.lanBuilt id h peer ok).relay k = s.relay k := by
  have hold : h.phase.flight = [] := by rw [hphase]; rfl
  unfold Signals.lanBuilt
  split
  · exact relay_goto (s := s.addSession id _) hh hold rfl
  · exact relay_goto (s := s.refuse peer) hh hold rfl

theorem relay_lanExchanged (hh : s.handlers.lookup id = some h)
    (hphase : h.phase = .exchanging peer) (result : Except String (String × Option String)) :
    (s.lanExchanged id h peer result).relay k = s.relay k := by
  have hold : h.phase.flight = [] := by rw [hphase]; rfl
  unfold Signals.lanExchanged
  split
  · rw [relay_goto (by rw [cacheFragment_handlers]; exact hh) hold rfl, relay_cacheFragment]
  · exact relay_goto (s := (s.removeAndCloseSession id).refuse peer) hh hold rfl

theorem relay_lanAnswered (hh : s.handlers.lookup id = some h)
    (hphase : h.phase = .answering peer sd) (sent : Bool)
    (claim : Except String ClaimRoleResult) :
    (s.lanAnswered id h peer sd sent claim).relay k = s.relay k := by
  have hold : h.phase.flight = [] := by rw [hphase]; rfl
  have hremoved : ∀ phase, phase.flight = [] →
      (((s.removeAndCloseSession id).refuse peer).goto id h phase).relay k = s.relay k :=
    fun phase hnew => relay_goto (s := (s.removeAndCloseSession id).refuse peer) hh hold hnew
  have hrefused : ∀ f phase, phase.flight = [] →
      ((((s.sayIf sent id (.reply (some peer) f)).removeAndCloseSession id).refuse peer).goto
        id h phase).relay k = s.relay k := by
    intro f phase hnew
    cases sent with
    | false => exact hremoved phase hnew
    | true =>
        have hsaid : (s.sayIf true id (.reply (some peer) f)).relay k = s.relay k := relay_sayIf
        exact (relay_goto (s := ((s.say id (.reply (some peer) f)).removeAndCloseSession
          id).refuse peer) hh hold hnew).trans hsaid
  unfold Signals.lanAnswered
  split
  next => exact relay_goto (s := s.refuse peer) hh hold rfl
  next =>
    split
    · have hsaid : (s.sayIf true id (.reply (some peer) (.answer sd))).relay k = s.relay k :=
        relay_sayIf
      exact (relay_goto (s := s.say id _) hh hold rfl).trans hsaid
    · exact hremoved _ rfl
  next => exact hrefused _ _ rfl
  next => exact hrefused _ _ rfl
  next => exact hremoved _ rfl

end

/-! ### The moves -/

/-- The step of a server is a move of the relay of a connection, which loses a candidate only
in a step that says so. -/
def Moves (id : String) (s : Signals) (e : Event) (s' : Signals) : Prop :=
  Relay.Safe maxIceCandidates (s.relay id) (s'.relay id) ∨
    (Loses id s e ∧ Relay.Move maxIceCandidates (s.relay id) (s'.relay id))

theorem moves_of_eq {s' : Signals} {e : Event} (h : s'.relay k = s.relay k) : Moves k s e s' := by
  left
  rw [h]
  exact .stay _

theorem moves_take (hh : s.handlers.lookup id = some h) (hphase : h.phase = .taking) :
    Moves k s (.take id) (s.takeCandidates id h) := by
  by_cases hk : k = id
  · subst hk
    have hflight : (s.relay k).flight = [] := by rw [relay_flight hh, hphase]; rfl
    have hmove : (s.takeCandidates k h).relay k =
        { s.relay k with flight := (s.relay k).waiting, waiting := [] } := by
      unfold Signals.relay Signals.takeCandidates Signals.goto
      simp [Phase.flight]
    left
    rw [hmove]
    exact .take _ hflight
  · apply moves_of_eq
    unfold Signals.takeCandidates
    rw [relay_goto_other hk]
    unfold Signals.relay
    simp [AList.lookup_erase_ne hk]

theorem relay_sent (c : Trickled) (hk : k = id) :
    (s.say id (.newIceCandidate c)).relay k =
      { s.relay k with sent := (s.relay k).sent ++ [c] } := by
  unfold Signals.relay Signals.say
  simp [List.filterMap_append, candidateOn, hk]

theorem relay_sent_other (c : Trickled) (hk : k ≠ id) :
    (s.say id (.newIceCandidate c)).relay k = s.relay k := by
  unfold Signals.relay Signals.say
  simp [List.filterMap_append, candidateOn, Ne.symm hk]

theorem moves_flush {rest : List Trickled} (hh : s.handlers.lookup id = some h)
    (hphase : h.phase = .flushing rest) (sent : Bool) :
    Moves k s (.flush id sent) (s.flushOne id h sent rest) := by
  have hflight : (s.relay id).flight = rest := by rw [relay_flight hh, hphase]; rfl
  cases rest with
  | nil =>
      apply moves_of_eq
      exact relay_goto hh (by rw [hphase]; rfl) rfl
  | cons c rest =>
      rw [Signals.flushOne]
      by_cases hk : k = id
      · subst hk
        cases sent with
        | true =>
            left
            rw [if_pos rfl, relay_goto_self, relay_sent c rfl]
            exact .send _ hflight
        | false =>
            right
            refine ⟨⟨rfl, rfl, by rw [hflight]; exact List.cons_ne_nil c rest⟩, ?_⟩
            rw [if_neg Bool.false_ne_true, relay_goto_self]
            exact .lose _
      · apply moves_of_eq
        split
        · rw [relay_goto_other hk, relay_sent_other c hk]
        · exact relay_goto_other hk

theorem moves_clear (hh : s.handlers.lookup id = some h) (hphase : h.phase = .clearing) :
    Moves k s (.clear id) (s.clear id) := by
  by_cases hk : k = id
  · subst hk
    have hflight : (s.relay k).flight = [] := by rw [relay_flight hh, hphase]; rfl
    have hmove : (s.clear k).relay k = { s.relay k with waiting := [] } := by
      have hcleared : (s.clear k).relay k = { s.relay k with flight := [], waiting := [] } := by
        unfold Signals.relay Signals.clear
        simp
      rw [hcleared, ← hflight]
    unfold Moves
    rw [hmove]
    by_cases hempty : (s.relay k).waiting = []
    · left
      rw [← hempty]
      exact .stay _
    · right
      exact ⟨⟨rfl, hempty⟩, .clear _⟩
  · apply moves_of_eq
    unfold Signals.relay Signals.clear
    simp [AList.lookup_erase_ne hk]

theorem moves_queue {i : Nat} {t : Sending} {cloudOpen : Bool} (ht : s.sending[i]? = some t)
    (horigin : s.peers[t.peer]? = some origin) :
    Moves k s (.deliver i cloudOpen)
      ({ s with sending := s.sending.eraseIdx i }.queueIceCandidate origin.sessionId
        ⟨t.peer, t.data⟩) := by
  by_cases hk : k = origin.sessionId
  · have hmove : ({ s with sending := s.sending.eraseIdx i }.queueIceCandidate origin.sessionId
        ⟨t.peer, t.data⟩).relay k =
        { s.relay k with
          produced := (s.relay k).produced ++ [⟨t.peer, t.data⟩]
          waiting := Relay.push maxIceCandidates (s.relay k).waiting ⟨t.peer, t.data⟩ } := by
      rw [hk]
      unfold Signals.relay Signals.queueIceCandidate
      simp [List.filterMap_append, queuedOn]
    unfold Moves
    rw [hmove]
    by_cases hroom : (s.relay k).waiting.length < maxIceCandidates
    · left
      rw [Relay.push_of_lt hroom]
      exact .push _ _ hroom
    · right
      exact ⟨⟨t, origin, ht, horigin, hk.symm, Nat.le_of_not_lt hroom⟩, .push _ _⟩
  · apply moves_of_eq
    unfold Signals.relay Signals.queueIceCandidate
    simp [List.filterMap_append, queuedOn, AList.lookup_insert_ne hk, Ne.symm hk]

theorem moves_of_step {s' : Signals} {e : Event} (hw : Wired s) (hstep : s.step e = some s')
    (k : String) : Moves k s e s' := by
  cases ran_of_step hstep with
  | @connect id wsRole greeted hfresh =>
      apply moves_of_eq
      apply relay_connect
      exact Option.eq_none_iff_forall_ne_some.mpr fun h hh => hfresh (hw.handlerIds id h hh)
  | message hh hphase => exact moves_of_eq (relay_receive hh hphase _)
  | lanBuilt hh hphase => exact moves_of_eq (relay_lanBuilt hh hphase _)
  | lanExchanged hh hphase => exact moves_of_eq (relay_lanExchanged hh hphase _)
  | lanAnswered hh hphase => exact moves_of_eq (relay_lanAnswered hh hphase _ _)
  | take hh hphase => exact moves_take hh hphase
  | flush hh hphase => exact moves_flush hh hphase _
  | @close id h hh hphase =>
      exact moves_of_eq (relay_goto (s := s.removeAndCloseSession id) hh
        (by rw [hphase]; rfl) rfl)
  | clear hh hphase => exact moves_clear hh hphase
  | httpOffer => exact moves_of_eq rfl
  | @httpBuilt id peer ok => exact moves_of_eq (by cases ok <;> rfl)
  | @httpExchanged id peer result =>
      apply moves_of_eq
      unfold Signals.httpExchanged
      split
      · exact relay_cacheFragment
      · rfl
  | httpAnswered =>
      apply moves_of_eq
      unfold Signals.httpAnswered
      split <;> rfl
  | cloudOffer => exact moves_of_eq rfl
  | @cloudBuilt o ok => exact moves_of_eq (by cases ok <;> rfl)
  | cloudExchanged =>
      apply moves_of_eq
      unfold Signals.cloudExchanged
      split
      · exact relay_cacheFragment
      · rfl
  | cloudAnswered =>
      apply moves_of_eq
      unfold Signals.cloudAnswered
      split
      · rfl
      · split <;> rfl
      · exact relay_cloudSend
      · exact relay_cloudSend
      · rfl
  | cloudCandidate => exact moves_of_eq relay_addIceCandidate
  | cloudEnded => exact moves_of_eq rfl
  | removed => exact moves_of_eq rfl
  | candidate =>
      apply moves_of_eq
      unfold Signals.foundCandidate
      split
      · rfl
      · split <;> rfl
  | fill => exact moves_of_eq rfl
  | deliver ht horigin =>
      unfold Signals.deliverCandidate
      split
      · exact moves_of_eq relay_cloudSend
      · exact moves_queue ht horigin

theorem Moves.move {s' : Signals} {e : Event} (h : Moves k s e s') :
    Relay.Move maxIceCandidates (s.relay k) (s'.relay k) := by
  rcases h with hsafe | ⟨-, hmove⟩
  · exact hsafe.move
  · exact hmove

/-! ## Answers before candidates -/

def Answered (s : Signals) (id : String) (peer : Nat) : Prop :=
  ∃ sd, (id, .reply (some peer) (.answer sd)) ∈ s.frames

/-- Every peer connection of a LAN offer was refused, was answered or is being answered. -/
def Resolved (s : Signals) : Prop :=
  ∀ id peer, s.peers[peer]? = some (.lan id) → peer ∈ s.refused ∨ Answered s id peer ∨
    ∃ h, s.handlers.lookup id = some h ∧ h.phase.peer = some peer

/-- A candidate is sent after the answer of its offer, unless the offer was refused. -/
def AnsweredFirst (s : Signals) : Prop :=
  ∀ (n : Nat) (id : String) (c : Trickled), s.frames[n]? = some (id, .newIceCandidate c) →
    c.peer ∈ s.refused ∨ ∃ m < n, ∃ sd, s.frames[m]? = some (id, .reply (some c.peer) (.answer sd))

structure Ordered (s : Signals) : Prop where
  resolved : Resolved s
  answered : AnsweredFirst s

/-- What a step adds besides its move in the WebSocket loop and the candidates it sends. -/
structure Grows (s t : Signals) : Prop where
  peers : ∀ (id : String) (peer : Nat), t.peers[peer]? = some (.lan id) →
    s.peers[peer]? = some (.lan id)
  handlers : t.handlers = s.handlers
  refused : ∀ peer ∈ s.refused, peer ∈ t.refused
  frames : ∃ more, t.frames = s.frames ++ more ∧ ∀ x ∈ more, ∀ c, x.2 ≠ .newIceCandidate c

theorem Grows.ofEq (hpeers : t.peers = s.peers) (hhandlers : t.handlers = s.handlers)
    (hrefused : t.refused = s.refused) (hframes : t.frames = s.frames) : Grows s t where
  peers id peer hpeer := by
    rw [← hpeers]
    exact hpeer
  handlers := hhandlers
  refused peer hpeer := by
    rw [hrefused]
    exact hpeer
  frames := by
    refine ⟨[], ?_, ?_⟩
    · rw [hframes, List.append_nil]
    · intro x hx
      cases hx

theorem Grows.trans {u : Signals} (hst : Grows s t) (htu : Grows t u) : Grows s u where
  peers id peer hpeer := hst.peers id peer (htu.peers id peer hpeer)
  handlers := htu.handlers.trans hst.handlers
  refused peer hpeer := htu.refused peer (hst.refused peer hpeer)
  frames := by
    obtain ⟨first, hfirst, hplain⟩ := hst.frames
    obtain ⟨second, hsecond, hplain'⟩ := htu.frames
    refine ⟨first ++ second, ?_, ?_⟩
    · rw [hsecond, hfirst, List.append_assoc]
    · intro x hx
      rcases List.mem_append.mp hx with hx | hx
      · exact hplain x hx
      · exact hplain' x hx

theorem Grows.refuse (peer : Nat) : Grows s (s.refuse peer) where
  peers _ _ hpeer := hpeer
  handlers := rfl
  refused _ hpeer := List.mem_cons_of_mem peer hpeer
  frames := ⟨[], (List.append_nil _).symm, by intro x hx; cases hx⟩

theorem Grows.say {f : Outgoing} (hf : ∀ c, f ≠ .newIceCandidate c) : Grows s (s.say id f) where
  peers _ _ hpeer := hpeer
  handlers := rfl
  refused _ hpeer := hpeer
  frames := by
    refine ⟨[(id, f)], rfl, ?_⟩
    intro x hx
    rw [List.mem_singleton.mp hx]
    exact hf

theorem Grows.reply {sent : Bool} {peer : Option Nat} {frame : Frame} :
    Grows s (s.sayIf sent id (.reply peer frame)) := by
  cases sent with
  | false => exact .ofEq rfl rfl rfl rfl
  | true =>
      apply Grows.say
      intro c heq
      cases heq

theorem Grows.removed (id : String) : Grows s (s.removeAndCloseSession id) :=
  .ofEq rfl rfl rfl rfl

theorem Grows.addIceCandidate : Grows s (s.addIceCandidate id) := by
  unfold Signals.addIceCandidate
  split <;> exact .ofEq rfl rfl rfl rfl

theorem Grows.openPeer (hother : ∀ id, origin ≠ .lan id) : Grows s (s.openPeer origin) where
  peers id peer hpeer := by
    change (s.peers ++ [origin])[peer]? = some (.lan id) at hpeer
    rw [List.getElem?_append] at hpeer
    split at hpeer
    · exact hpeer
    · have hmem := List.mem_of_getElem? hpeer
      exact absurd (List.mem_singleton.mp hmem).symm (hother id)
  handlers := rfl
  refused _ hpeer := hpeer
  frames := ⟨[], (List.append_nil _).symm, by intro x hx; cases hx⟩

theorem Answered.grows {peer : Nat} (ha : Answered s id peer) (hg : Grows s t) :
    Answered t id peer := by
  obtain ⟨sd, hmem⟩ := ha
  obtain ⟨more, hframes, -⟩ := hg.frames
  refine ⟨sd, ?_⟩
  rw [hframes]
  exact List.mem_append_left more hmem

theorem Ordered.grows (ho : Ordered s) (hg : Grows s t) : Ordered t where
  resolved id peer hpeer := by
    rcases ho.resolved id peer (hg.peers id peer hpeer) with hrefused | hanswered | hopen
    · exact .inl (hg.refused peer hrefused)
    · exact .inr (.inl (hanswered.grows hg))
    · rw [← hg.handlers] at hopen
      exact .inr (.inr hopen)
  answered n id c hframe := by
    obtain ⟨more, hframes, hplain⟩ := hg.frames
    rw [hframes] at hframe
    by_cases hn : n < s.frames.length
    · rw [List.getElem?_append_left hn] at hframe
      rcases ho.answered n id c hframe with hrefused | ⟨m, hm, sd, hanswer⟩
      · exact .inl (hg.refused _ hrefused)
      · right
        refine ⟨m, hm, sd, ?_⟩
        rw [hframes, List.getElem?_append_left (by omega)]
        exact hanswer
    · rw [List.getElem?_append_right (by omega)] at hframe
      exact absurd rfl (hplain _ (List.mem_of_getElem? hframe) c)

theorem Ordered.goto (ho : Ordered s) (hh : s.handlers.lookup id = some h)
    (hnext : ∀ peer, h.phase.peer = some peer →
      peer ∈ s.refused ∨ Answered s id peer ∨ phase.peer = some peer) :
    Ordered (s.goto id h phase) where
  resolved id' peer hpeer := by
    rcases ho.resolved id' peer hpeer with hrefused | hanswered | ⟨h', hh', hphase⟩
    · exact .inl hrefused
    · exact .inr (.inl hanswered)
    · by_cases hid : id' = id
      · subst hid
        obtain rfl := Option.some.inj (hh.symm.trans hh')
        rcases hnext peer hphase with hrefused | hanswered | hsame
        · exact .inl hrefused
        · exact .inr (.inl hanswered)
        · exact .inr (.inr ⟨_, AList.lookup_insert _, hsame⟩)
      · exact .inr (.inr ⟨h', (AList.lookup_insert_ne hid).trans hh', hphase⟩)
  answered := ho.answered

theorem Ordered.gotoFrom (ho : Ordered s) (hh : s.handlers.lookup id = some h)
    (hnone : h.phase.peer = none) : Ordered (s.goto id h phase) := by
  apply ho.goto hh
  intro peer hpeer
  rw [hnone] at hpeer
  cases hpeer

/-! ### The steps -/

theorem Ordered.connect (ho : Ordered s) {wsRole : Option SessionRole} {greeted : Bool}
    (hfresh : s.handlers.lookup id = none) : Ordered (s.connect id wsRole greeted) := by
  have hdrawn : Ordered { s with ids := id :: s.ids } := ho.grows (.ofEq rfl rfl rfl rfl)
  cases greeted with
  | false => exact hdrawn
  | true =>
      have hsaid : Ordered ({ s with ids := id :: s.ids }.say id .deviceMetadata) := by
        apply hdrawn.grows
        apply Grows.say
        intro c heq
        cases heq
      refine ⟨?_, hsaid.answered⟩
      intro id' peer hpeer
      rcases hsaid.resolved id' peer hpeer with hrefused | hanswered | ⟨h', hh', hphase⟩
      · exact .inl hrefused
      · exact .inr (.inl hanswered)
      · have hne : id' ≠ id := by
          intro heq
          subst heq
          cases hfresh.symm.trans hh'
        exact .inr (.inr ⟨h', (AList.lookup_insert_ne hne).trans hh', hphase⟩)

theorem Ordered.openLan (ho : Ordered s) (hh : s.handlers.lookup id = some h)
    (hnone : h.phase.peer = none) :
    Ordered ((s.openPeer (.lan id)).goto id h (.building s.peers.length)) where
  resolved id' peer hpeer := by
    change (s.peers ++ [.lan id])[peer]? = some (.lan id') at hpeer
    by_cases hlt : peer < s.peers.length
    · rw [List.getElem?_append_left hlt] at hpeer
      rcases ho.resolved id' peer hpeer with hrefused | hanswered | ⟨h', hh', hphase⟩
      · exact .inl hrefused
      · exact .inr (.inl hanswered)
      · have hne : id' ≠ id := by
          intro heq
          subst heq
          obtain rfl := Option.some.inj (hh.symm.trans hh')
          rw [hnone] at hphase
          cases hphase
        exact .inr (.inr ⟨h', (AList.lookup_insert_ne hne).trans hh', hphase⟩)
    · rw [List.getElem?_append_right (by omega)] at hpeer
      have hlast := List.mem_singleton.mp (List.mem_of_getElem? hpeer)
      obtain rfl := Origin.lan.inj hlast
      have hpos : peer - s.peers.length = 0 := by
        obtain ⟨hbound, -⟩ := List.getElem?_eq_some_iff.mp hpeer
        rw [List.length_singleton] at hbound
        omega
      have hpeerEq : s.peers.length = peer := by omega
      refine .inr (.inr ⟨_, AList.lookup_insert _, ?_⟩)
      exact congrArg some hpeerEq
  answered := ho.answered

theorem Ordered.receive (ho : Ordered s) (hh : s.handlers.lookup id = some h)
    (hphase : h.phase = .receiving) (m : Incoming) : Ordered (s.receive id h m) := by
  have hnone : h.phase.peer = none := by rw [hphase]; rfl
  have hreply : ∀ sent peer frame phase,
      Ordered ((s.sayIf sent id (.reply peer frame)).goto id h phase) := by
    intro sent peer frame phase
    apply (ho.grows .reply).gotoFrom _ hnone
    rw [sayIf_handlers]
    exact hh
  cases m with
  | gone => exact ho.gotoFrom hh hnone
  | ping sent => exact ho.gotoFrom hh hnone
  | other => exact ho.gotoFrom hh hnone
  | text message =>
      cases message with
      | ping sent => exact hreply sent none .pong .taking
      | invalidJson => exact ho.gotoFrom hh hnone
      | clientClosing => exact ho.gotoFrom hh hnone
      | unknown => exact ho.gotoFrom hh hnone
      | newIceCandidate hasData =>
          cases hasData with
          | false => exact ho.gotoFrom hh hnone
          | true =>
              have hadded : Ordered (s.addIceCandidate id) := ho.grows .addIceCandidate
              apply hadded.gotoFrom _ hnone
              rw [Grows.addIceCandidate.handlers]
              exact hh
      | offer data sent =>
          rcases data with _ | (e | request)
          · exact ho.gotoFrom hh hnone
          · exact ho.gotoFrom hh hnone
          · unfold Signals.receive Signals.receiveText Signals.receiveOffer
            dsimp only
            split
            · exact ho.gotoFrom hh hnone
            · exact hreply _ _ _ _
            · exact ho.openLan hh hnone

section

variable {peer : Nat} {sd : String}

theorem Ordered.refused (ho : Ordered s) (hh : s.handlers.lookup id = some h)
    (hpeer : h.phase.peer = some peer) : Ordered ((s.refuse peer).goto id h phase) := by
  apply (ho.grows (.refuse peer)).goto hh
  intro p hp
  obtain rfl := Option.some.inj (hpeer.symm.trans hp)
  exact .inl List.mem_cons_self

theorem Ordered.lanBuilt (ho : Ordered s) (hh : s.handlers.lookup id = some h)
    (hphase : h.phase = .building peer) (ok : Bool) : Ordered (s.lanBuilt id h peer ok) := by
  have hpeer : h.phase.peer = some peer := by rw [hphase]; rfl
  unfold Signals.lanBuilt
  split
  · have hadded : Ordered (s.addSession id ⟨peer, false, none⟩) :=
      ho.grows (.ofEq rfl rfl rfl rfl)
    apply hadded.goto hh
    intro p hp
    exact .inr (.inr (hpeer.symm.trans hp))
  · exact ho.refused hh hpeer

theorem Ordered.lanExchanged (ho : Ordered s) (hh : s.handlers.lookup id = some h)
    (hphase : h.phase = .exchanging peer) (result : Except String (String × Option String)) :
    Ordered (s.lanExchanged id h peer result) := by
  have hpeer : h.phase.peer = some peer := by rw [hphase]; rfl
  unfold Signals.lanExchanged
  split
  next sd fragment =>
    have hcached : Ordered (s.cacheFragment peer fragment) := by
      apply ho.grows
      cases fragment <;> exact .ofEq rfl rfl rfl rfl
    apply hcached.goto
    · rw [cacheFragment_handlers]
      exact hh
    · intro p hp
      exact .inr (.inr (hpeer.symm.trans hp))
  next => exact (ho.grows (.removed id)).refused hh hpeer

theorem Ordered.lanAnswered (ho : Ordered s) (hh : s.handlers.lookup id = some h)
    (hphase : h.phase = .answering peer sd) (sent : Bool)
    (claim : Except String ClaimRoleResult) :
    Ordered (s.lanAnswered id h peer sd sent claim) := by
  have hpeer : h.phase.peer = some peer := by rw [hphase]; rfl
  have hremoved : ∀ phase, Ordered (((s.removeAndCloseSession id).refuse peer).goto id h phase) :=
    fun phase => (ho.grows (.removed id)).refused hh hpeer
  have hrefused : ∀ f phase,
      Ordered ((((s.sayIf sent id (.reply (some peer) f)).removeAndCloseSession id).refuse
        peer).goto id h phase) := by
    intro f phase
    apply Ordered.refused _ _ hpeer
    · exact ho.grows (Grows.reply.trans (.removed id))
    · change (s.sayIf sent id (.reply (some peer) f)).handlers.lookup id = some h
      rw [sayIf_handlers]
      exact hh
  unfold Signals.lanAnswered
  split
  next => exact ho.refused hh hpeer
  next =>
    split
    · have hsaid : Ordered (s.say id (.reply (some peer) (.answer sd))) :=
        ho.grows (.say (by intro c heq; cases heq))
      apply hsaid.goto hh
      intro p hp
      obtain rfl := Option.some.inj (hpeer.symm.trans hp)
      exact .inr (.inl ⟨sd, List.mem_append_right _ List.mem_cons_self⟩)
    · exact hremoved _
  next => exact hrefused _ _
  next => exact hrefused _ _
  next => exact hremoved _

end

theorem Ordered.sayCandidate (ho : Ordered s) (hh : s.handlers.lookup id = some h)
    (hnone : h.phase.peer = none) {c : Trickled} (hlan : s.peers[c.peer]? = some (.lan id)) :
    Ordered (s.say id (.newIceCandidate c)) where
  resolved id' peer hpeer := by
    rcases ho.resolved id' peer hpeer with hrefused | ⟨sd, hmem⟩ | hopen
    · exact .inl hrefused
    · exact .inr (.inl ⟨sd, List.mem_append_left _ hmem⟩)
    · exact .inr (.inr hopen)
  answered n id' c' hframe := by
    change (s.frames ++ [(id, .newIceCandidate c)])[n]? = some (id', .newIceCandidate c') at hframe
    by_cases hn : n < s.frames.length
    · rw [List.getElem?_append_left hn] at hframe
      rcases ho.answered n id' c' hframe with hrefused | ⟨m, hm, sd, hanswer⟩
      · exact .inl hrefused
      · exact .inr ⟨m, hm, sd, (List.getElem?_append_left (by omega)).trans hanswer⟩
    · rw [List.getElem?_append_right (by omega)] at hframe
      have hsame := List.mem_singleton.mp (List.mem_of_getElem? hframe)
      obtain ⟨rfl, heq⟩ := Prod.mk.inj hsame
      obtain rfl := Outgoing.newIceCandidate.inj heq
      rcases ho.resolved id' c'.peer hlan with hrefused | ⟨sd, hmem⟩ | ⟨h', hh', hphase⟩
      · exact .inl hrefused
      · obtain ⟨m, hanswer⟩ := List.mem_iff_getElem?.mp hmem
        obtain ⟨hm, -⟩ := List.getElem?_eq_some_iff.mp hanswer
        exact .inr ⟨m, by omega, sd, (List.getElem?_append_left hm).trans hanswer⟩
      · obtain rfl := Option.some.inj (hh.symm.trans hh')
        rw [hnone] at hphase
        cases hphase

theorem Ordered.flushOne (ho : Ordered s) (hw : Wired s) {rest : List Trickled}
    (hh : s.handlers.lookup id = some h) (hphase : h.phase = .flushing rest) (sent : Bool) :
    Ordered (s.flushOne id h sent rest) := by
  have hnone : h.phase.peer = none := by rw [hphase]; rfl
  cases rest with
  | nil => exact ho.gotoFrom hh hnone
  | cons c rest =>
      rw [Signals.flushOne]
      split
      · have hlan := hw.flushedPeer hh hphase
        exact (ho.sayCandidate hh hnone hlan).gotoFrom hh hnone
      · exact ho.gotoFrom hh hnone

theorem Ordered.clear (ho : Ordered s) (hh : s.handlers.lookup id = some h)
    (hnone : h.phase.peer = none) : Ordered (s.clear id) where
  resolved id' peer hpeer := by
    rcases ho.resolved id' peer hpeer with hrefused | hanswered | ⟨h', hh', hphase⟩
    · exact .inl hrefused
    · exact .inr (.inl hanswered)
    · have hne : id' ≠ id := by
        intro heq
        subst heq
        obtain rfl := Option.some.inj (hh.symm.trans hh')
        rw [hnone] at hphase
        cases hphase
      exact .inr (.inr ⟨h', (AList.lookup_erase_ne hne).trans hh', hphase⟩)
  answered := ho.answered

theorem ordered_step {s' : Signals} {e : Event} (hw : Wired s) (ho : Ordered s)
    (hstep : s.step e = some s') : Ordered s' := by
  cases ran_of_step hstep with
  | @connect id wsRole greeted hfresh =>
      apply ho.connect
      exact Option.eq_none_iff_forall_ne_some.mpr fun h hh => hfresh (hw.handlerIds id h hh)
  | message hh hphase => exact ho.receive hh hphase _
  | lanBuilt hh hphase => exact ho.lanBuilt hh hphase _
  | lanExchanged hh hphase => exact ho.lanExchanged hh hphase _
  | lanAnswered hh hphase => exact ho.lanAnswered hh hphase _ _
  | @take id h hh hphase =>
      have hless : Ordered { s with websocketIceQueue := s.websocketIceQueue.erase id } :=
        ho.grows (.ofEq rfl rfl rfl rfl)
      exact hless.gotoFrom hh (by rw [hphase]; rfl)
  | flush hh hphase => exact ho.flushOne hw hh hphase _
  | @close id h hh hphase =>
      exact (ho.grows (.removed id)).gotoFrom hh (by rw [hphase]; rfl)
  | clear hh hphase => exact ho.clear hh (by rw [hphase]; rfl)
  | @httpOffer id =>
      apply ho.grows
      have hopened : Grows s (s.openPeer (.http id)) := .openPeer (by intro id heq; cases heq)
      exact hopened.trans (.ofEq rfl rfl rfl rfl)
  | @httpBuilt id peer ok => exact ho.grows (by cases ok <;> exact .ofEq rfl rfl rfl rfl)
  | @httpExchanged id peer result =>
      apply ho.grows
      rcases result with e | (_ | fragment) <;> exact .ofEq rfl rfl rfl rfl
  | httpAnswered =>
      apply ho.grows
      unfold Signals.httpAnswered
      split <;> exact .ofEq rfl rfl rfl rfl
  | @cloudOffer id clientId =>
      apply ho.grows
      have hopened : Grows s (s.openPeer (.cloud id (parseClientId clientId))) :=
        .openPeer (by intro id heq; cases heq)
      exact hopened.trans (.ofEq rfl rfl rfl rfl)
  | @cloudBuilt o ok => exact ho.grows (by cases ok <;> exact .ofEq rfl rfl rfl rfl)
  | @cloudExchanged o result =>
      apply ho.grows
      rcases result with e | ⟨sd, _ | fragment⟩ <;> exact .ofEq rfl rfl rfl rfl
  | @cloudAnswered o sd claim sent =>
      apply ho.grows
      unfold Signals.cloudAnswered
      cases sent <;> split <;> exact .ofEq rfl rfl rfl rfl
  | cloudCandidate => exact ho.grows .addIceCandidate
  | cloudEnded => exact ho.grows (.ofEq rfl rfl rfl rfl)
  | removed => exact ho.grows (.removed _)
  | candidate =>
      apply ho.grows
      unfold Signals.foundCandidate
      split
      · exact .ofEq rfl rfl rfl rfl
      · split <;> exact .ofEq rfl rfl rfl rfl
  | fill => exact ho.grows (.ofEq rfl rfl rfl rfl)
  | @deliver i t origin cloudOpen =>
      apply ho.grows
      unfold Signals.deliverCandidate
      split
      · cases cloudOpen <;> exact .ofEq rfl rfl rfl rfl
      · exact .ofEq rfl rfl rfl rfl

end

/-! ## Results -/

/-- In every interleaving the candidates that a LAN client has got, followed by those of the
flush under way and those in the queue, are candidates that the peer connections have queued
for it, in that order and each once; at most twenty wait; and no candidate is sent before the
answer to its offer, unless the offer was refused. -/
theorem candidates_in_order {s : Signals} (hreach : Reach Signals.step anyStep {} s) :
    (∀ id, (s.relay id).InOrder ∧ (s.relay id).waiting.length ≤ maxIceCandidates) ∧
      AnsweredFirst s := by
  have hinv : Wired s ∧ Ordered s ∧
      ∀ id, (s.relay id).InOrder ∧ (s.relay id).Bounded maxIceCandidates := by
    refine Reach.invariant (P := fun s => Wired s ∧ Ordered s ∧
      ∀ id, (s.relay id).InOrder ∧ (s.relay id).Bounded maxIceCandidates) ?_ ?_ hreach
    · refine ⟨wired_init, ⟨?_, ?_⟩, ?_⟩
      · intro id peer hpeer
        simp at hpeer
      · intro n id c hframe
        simp at hframe
      · intro id
        exact ⟨List.Sublist.refl [], Nat.zero_le _, Nat.zero_le _⟩
    · intro s e s' ⟨hw, ho, hrelay⟩ _ hstep
      refine ⟨wired_step hw hstep, ordered_step hw ho hstep, ?_⟩
      intro id
      have hmove := (moves_of_step hw hstep id).move
      exact ⟨(hrelay id).1.move hmove, (hrelay id).2.move (by decide) hmove⟩
  exact ⟨fun id => ⟨(hinv.2.2 id).1, (hinv.2.2 id).2.1⟩, hinv.2.1.answered⟩

theorem candidates_in_order_afterAnswer :
    ∃ s, Reach Signals.step anyStep {} s ∧
      (s.relay "ws-1").sent = [⟨0, "candidate:1 1 udp", none⟩] ∧
      (s.relay "ws-1").InOrder ∧ AnsweredFirst s := by
  have hexec : (exec Signals.step (fun _ _ => true) {} lanTrickles).map
      (fun s => (s.relay "ws-1").sent) = some [⟨0, "candidate:1 1 udp", none⟩] := by
    decide +kernel
  obtain ⟨s, hs, hsent⟩ := exists_reach_of_exec (fun _ _ _ => trivial) hexec
  obtain ⟨hrelays, hanswered⟩ := candidates_in_order hs
  exact ⟨s, hs, hsent, (hrelays "ws-1").1, hanswered⟩

/-- While no step of a run loses a candidate of a connection, everything that was queued for it
was sent, is being sent or waits for the next flush. -/
theorem candidates_all_kept {s : Signals} {id : String}
    (hreach : Reach Signals.step (fun s e => ¬ Loses id s e) {} s) : (s.relay id).Complete := by
  have hinv : Wired s ∧ (s.relay id).Complete := by
    refine Reach.invariant (P := fun s => Wired s ∧ (s.relay id).Complete) ?_ ?_ hreach
    · exact ⟨wired_init, rfl⟩
    · intro s e s' ⟨hw, hcomplete⟩ hkeeps hstep
      refine ⟨wired_step hw hstep, ?_⟩
      rcases moves_of_step hw hstep id with hsafe | ⟨hloses, -⟩
      · exact hcomplete.safe hsafe
      · exact absurd hloses hkeeps
  exact hinv.2

def keeps (id : String) (s : Signals) : Event → Bool
  | .deliver _ _ => (s.relay id).waiting.length < maxIceCandidates
  | .flush _ sent => sent
  | .clear id' => id' ≠ id
  | _ => true

theorem keeps_sound {id : String} (s : Signals) (e : Event) (h : keeps id s e = true) :
    ¬ Loses id s e := by
  cases e with
  | deliver i cloudOpen =>
      rintro ⟨t, origin, -, -, -, hfull⟩
      have hroom : (s.relay id).waiting.length < maxIceCandidates := of_decide_eq_true h
      omega
  | flush id' sent =>
      rintro ⟨-, hsent, -⟩
      rw [hsent] at h
      cases h
  | clear id' =>
      rintro ⟨hid, -⟩
      exact of_decide_eq_true h hid
  | _ => exact fun hfalse => hfalse

def candidateLine (line : String) : RTCIceCandidate :=
  { hostCandidate with json := .ok ⟨line, none⟩ }

/-- Two candidates wait for the answer; a third one arrives when they have been taken to be sent. -/
def threeTrickle : List Event :=
  [.connect "ws-1" none true, .message "ws-1" (.text (.offer (some (.ok ⟨"sd", none⟩)) true)),
    .lanBuilt "ws-1" true, .candidate 0 (candidateLine "candidate:1"),
    .candidate 0 (candidateLine "candidate:2"), .fill 0, .fill 1,
    .lanExchanged "ws-1" (.ok ("sdp", some "ufrag")), .deliver 0 true, .deliver 0 true,
    .candidate 0 (candidateLine "candidate:3"), .lanAnswered "ws-1" (.ok (.accepted none)) true,
    .take "ws-1", .fill 0, .deliver 0 true, .flush "ws-1" true]

theorem candidates_all_kept_threeTrickle :
    ∃ s, Reach Signals.step (fun s e => ¬ Loses "ws-1" s e) {} s ∧
      (s.relay "ws-1").sent = [⟨0, "candidate:1", none⟩] ∧
      (s.relay "ws-1").flight = [⟨0, "candidate:2", none⟩] ∧
      (s.relay "ws-1").waiting = [⟨0, "candidate:3", some "ufrag"⟩] ∧
      (s.relay "ws-1").Complete := by
  have hexec : (exec Signals.step (keeps "ws-1") {} threeTrickle).map
      (fun s => ((s.relay "ws-1").sent, (s.relay "ws-1").flight, (s.relay "ws-1").waiting)) =
        some ([⟨0, "candidate:1", none⟩], [⟨0, "candidate:2", none⟩],
          [⟨0, "candidate:3", some "ufrag"⟩]) := by
    decide +kernel
  obtain ⟨s, hs, hobserved⟩ := exists_reach_of_exec keeps_sound hexec
  obtain ⟨hsent, hrest⟩ := Prod.mk.inj hobserved
  obtain ⟨hflight, hwaiting⟩ := Prod.mk.inj hrest
  exact ⟨s, hs, hsent, hflight, hwaiting, candidates_all_kept hs⟩

end ArkKvm.Trickle
