import ArkKvm.Lib.Run
import ArkKvm.Web.Trickle

/-!
# Signals stay with their client

A session id belongs to one client: to one WebSocket of a LAN client, to one request over
HTTP or to one offer of the cloud with its `client_id`.  Everything that is sent or under way
under an id comes from a peer connection that was opened under it, so that no client gets an
answer, an error or a candidate of another one.
-/

namespace ArkKvm.Trickle

open Lib Lib.Run Web

/-! ## What a step is -/

inductive Ran (s : Signals) : Event → Signals → Prop
  | connect {id wsRole greeted} (hfresh : id ∉ s.ids) :
      Ran s (.connect id wsRole greeted) (s.connect id wsRole greeted)
  | message {id h m} (hh : s.handlers.lookup id = some h) (hphase : h.phase = .receiving) :
      Ran s (.message id m) (s.receive id h m)
  | lanBuilt {id h peer ok} (hh : s.handlers.lookup id = some h)
      (hphase : h.phase = .building peer) : Ran s (.lanBuilt id ok) (s.lanBuilt id h peer ok)
  | lanExchanged {id h peer result} (hh : s.handlers.lookup id = some h)
      (hphase : h.phase = .exchanging peer) :
      Ran s (.lanExchanged id result) (s.lanExchanged id h peer result)
  | lanAnswered {id h peer sd claim sent} (hh : s.handlers.lookup id = some h)
      (hphase : h.phase = .answering peer sd) :
      Ran s (.lanAnswered id claim sent) (s.lanAnswered id h peer sd sent claim)
  | take {id h} (hh : s.handlers.lookup id = some h) (hphase : h.phase = .taking) :
      Ran s (.take id) (s.takeCandidates id h)
  | flush {id h sent rest} (hh : s.handlers.lookup id = some h)
      (hphase : h.phase = .flushing rest) : Ran s (.flush id sent) (s.flushOne id h sent rest)
  | close {id h} (hh : s.handlers.lookup id = some h) (hphase : h.phase = .closing) :
      Ran s (.close id) ((s.removeAndCloseSession id).goto id h .clearing)
  | clear {id h} (hh : s.handlers.lookup id = some h) (hphase : h.phase = .clearing) :
      Ran s (.clear id) (s.clear id)
  | httpOffer {id} (hfresh : id ∉ s.ids) :
      Ran s (.httpOffer id)
        { s.openPeer (.http id) with
          ids := id :: s.ids
          requests := s.requests.insert id (.building s.peers.length) }
  | httpBuilt {id peer ok} (hrequest : s.requests.lookup id = some (.building peer)) :
      Ran s (.httpBuilt id ok) (s.httpBuilt id peer ok)
  | httpExchanged {id peer result} (hrequest : s.requests.lookup id = some (.exchanging peer)) :
      Ran s (.httpExchanged id result) (s.httpExchanged id peer result)
  | httpAnswered {id peer claim} (hrequest : s.requests.lookup id = some (.answering peer)) :
      Ran s (.httpAnswered id claim) (s.httpAnswered id claim)
  | cloudOffer {id clientId role} (hfresh : id ∉ s.ids) (hidle : s.cloud = .idle) :
      Ran s (.cloudOffer id clientId role)
        { s.openPeer (.cloud id (parseClientId clientId)) with
          ids := id :: s.ids
          cloud := .building ⟨id, parseClientId clientId, role, s.peers.length⟩ }
  | cloudBuilt {o ok} (hcloud : s.cloud = .building o) : Ran s (.cloudBuilt ok) (s.cloudBuilt o ok)
  | cloudExchanged {o result} (hcloud : s.cloud = .exchanging o) :
      Ran s (.cloudExchanged result) (s.cloudExchanged o result)
  | cloudAnswered {o sd claim sent} (hcloud : s.cloud = .answering o sd) :
      Ran s (.cloudAnswered claim sent) (s.cloudAnswered o sd sent claim)
  | cloudCandidate {id} (hidle : s.cloud = .idle) :
      Ran s (.cloudCandidate id) (s.addIceCandidate id)
  | cloudEnded : Ran s .cloudEnded { s with cloud := .idle }
  | removed {id} : Ran s (.removed id) (s.removeAndCloseSession id)
  | candidate {peer origin c} (horigin : s.peers[peer]? = some origin) :
      Ran s (.candidate peer c) (s.foundCandidate peer origin c)
  | fill {i t} (ht : s.sending[i]? = some t) :
      Ran s (.fill i) { s with sending := s.sending.set i (s.fillFragment t) }
  | deliver {i t origin cloudOpen} (ht : s.sending[i]? = some t)
      (horigin : s.peers[t.peer]? = some origin) :
      Ran s (.deliver i cloudOpen)
        ({ s with sending := s.sending.eraseIdx i }.deliverCandidate origin t cloudOpen)

theorem ran_of_step {s s' : Signals} {e : Event} (hstep : s.step e = some s') : Ran s e s' := by
  cases e with
  | connect id wsRole greeted =>
      simp only [Signals.step, Option.ite_none_left_eq_some, Option.some.injEq] at hstep
      obtain ⟨hfresh, rfl⟩ := hstep
      exact .connect hfresh
  | httpOffer id =>
      simp only [Signals.step, Option.ite_none_left_eq_some, Option.some.injEq] at hstep
      obtain ⟨hfresh, rfl⟩ := hstep
      exact .httpOffer hfresh
  | cloudOffer id clientId role =>
      simp only [Signals.step, Option.ite_none_left_eq_some, Option.some.injEq, not_or,
        not_not] at hstep
      obtain ⟨⟨hfresh, hidle⟩, rfl⟩ := hstep
      exact .cloudOffer hfresh hidle
  | message id m =>
      obtain ⟨h, hh, hstep⟩ := Option.bind_eq_some_iff.mp hstep
      simp only [Option.ite_none_right_eq_some, Option.some.injEq] at hstep
      obtain ⟨hphase, rfl⟩ := hstep
      exact .message hh hphase
  | lanBuilt id ok =>
      obtain ⟨h, hh, hstep⟩ := Option.bind_eq_some_iff.mp hstep
      split at hstep
      next peer hphase => exact Option.some.inj hstep ▸ .lanBuilt hh hphase
      next => cases hstep
  | lanExchanged id result =>
      obtain ⟨h, hh, hstep⟩ := Option.bind_eq_some_iff.mp hstep
      split at hstep
      next peer hphase => exact Option.some.inj hstep ▸ .lanExchanged hh hphase
      next => cases hstep
  | lanAnswered id claim sent =>
      obtain ⟨h, hh, hstep⟩ := Option.bind_eq_some_iff.mp hstep
      split at hstep
      next peer sd hphase => exact Option.some.inj hstep ▸ .lanAnswered hh hphase
      next => cases hstep
  | take id =>
      obtain ⟨h, hh, hstep⟩ := Option.bind_eq_some_iff.mp hstep
      simp only [Option.ite_none_right_eq_some, Option.some.injEq] at hstep
      obtain ⟨hphase, rfl⟩ := hstep
      exact .take hh hphase
  | flush id sent =>
      obtain ⟨h, hh, hstep⟩ := Option.bind_eq_some_iff.mp hstep
      split at hstep
      next rest hphase => exact Option.some.inj hstep ▸ .flush hh hphase
      next => cases hstep
  | close id =>
      obtain ⟨h, hh, hstep⟩ := Option.bind_eq_some_iff.mp hstep
      simp only [Option.ite_none_right_eq_some, Option.some.injEq] at hstep
      obtain ⟨hphase, rfl⟩ := hstep
      exact .close hh hphase
  | clear id =>
      obtain ⟨h, hh, hstep⟩ := Option.bind_eq_some_iff.mp hstep
      simp only [Option.ite_none_right_eq_some, Option.some.injEq] at hstep
      obtain ⟨hphase, rfl⟩ := hstep
      exact .clear hh hphase
  | httpBuilt id ok =>
      unfold Signals.step at hstep
      dsimp only at hstep
      split at hstep
      next peer hrequest => exact Option.some.inj hstep ▸ .httpBuilt hrequest
      next => cases hstep
  | httpExchanged id result =>
      unfold Signals.step at hstep
      dsimp only at hstep
      split at hstep
      next peer hrequest => exact Option.some.inj hstep ▸ .httpExchanged hrequest
      next => cases hstep
  | httpAnswered id claim =>
      unfold Signals.step at hstep
      dsimp only at hstep
      split at hstep
      next peer hrequest => exact Option.some.inj hstep ▸ .httpAnswered hrequest
      next => cases hstep
  | cloudBuilt ok =>
      unfold Signals.step at hstep
      dsimp only at hstep
      split at hstep
      next o hcloud => exact Option.some.inj hstep ▸ .cloudBuilt hcloud
      next => cases hstep
  | cloudExchanged result =>
      unfold Signals.step at hstep
      dsimp only at hstep
      split at hstep
      next o hcloud => exact Option.some.inj hstep ▸ .cloudExchanged hcloud
      next => cases hstep
  | cloudAnswered claim sent =>
      unfold Signals.step at hstep
      dsimp only at hstep
      split at hstep
      next o sd hcloud => exact Option.some.inj hstep ▸ .cloudAnswered hcloud
      next => cases hstep
  | cloudCandidate id =>
      simp only [Signals.step, Option.ite_none_right_eq_some, Option.some.injEq] at hstep
      obtain ⟨hidle, rfl⟩ := hstep
      exact .cloudCandidate hidle
  | cloudEnded => exact Option.some.inj hstep ▸ .cloudEnded
  | removed id => exact Option.some.inj hstep ▸ .removed
  | candidate peer c =>
      obtain ⟨origin, horigin, rfl⟩ := Option.map_eq_some_iff.mp hstep
      exact .candidate horigin
  | fill i =>
      obtain ⟨t, ht, hstep⟩ := Option.bind_eq_some_iff.mp hstep
      simp only [Option.ite_none_left_eq_some, Option.some.injEq] at hstep
      obtain ⟨-, rfl⟩ := hstep
      exact .fill ht
  | deliver i cloudOpen =>
      obtain ⟨t, ht, hstep⟩ := Option.bind_eq_some_iff.mp hstep
      simp only [Option.ite_none_right_eq_some] at hstep
      obtain ⟨-, hstep⟩ := hstep
      obtain ⟨origin, horigin, rfl⟩ := Option.map_eq_some_iff.mp hstep
      exact .deliver ht horigin

/-! ## What belongs to whom -/

def OpenedAs (peers : List Origin) (id : String) (peer : Nat) : Prop :=
  ∃ origin, peers[peer]? = some origin ∧ origin.sessionId = id

/-- A session under an id: its peer connection was opened under it, and a cloud session has
the `client_id` of the offer. -/
def Fits (peers : List Origin) (id : String) (session : SignalSession) : Prop :=
  ∃ origin, peers[session.peer]? = some origin ∧ origin.sessionId = id ∧
    (session.isCloud = true → origin = .cloud id session.cloudClientId)

def Phase.peer : Phase → Option Nat
  | .building peer | .exchanging peer | .answering peer _ => some peer
  | _ => none

def Phase.flight : Phase → List Trickled
  | .flushing rest => rest
  | _ => []

def HttpPhase.peer : HttpPhase → Nat
  | .building peer | .exchanging peer | .answering peer => peer

def CloudPhase.offer : CloudPhase → Option CloudOffer
  | .idle => none
  | .building o | .exchanging o | .answering o _ => some o

structure HandlerFits (peers : List Origin) (id : String) (phase : Phase) : Prop where
  offer : ∀ peer, phase.peer = some peer → peers[peer]? = some (.lan id)
  flight : ∀ c ∈ phase.flight, OpenedAs peers id c.peer

structure Wired (s : Signals) : Prop where
  peerIds : ∀ origin ∈ s.peers, origin.sessionId ∈ s.ids
  handlerIds : ∀ id h, s.handlers.lookup id = some h → id ∈ s.ids
  sameId : ∀ o ∈ s.peers, ∀ o' ∈ s.peers, o.sessionId = o'.sessionId → o = o'
  lanId : ∀ id h, s.handlers.lookup id = some h →
    ∀ origin ∈ s.peers, origin.sessionId = id → origin = .lan id
  clientId : ∀ id client, .cloud id client ∈ s.peers → parseClientId client = client
  session : ∀ id session, s.sessions.lookup id = some session → Fits s.peers id session
  sending : ∀ t ∈ s.sending, ∃ origin, s.peers[t.peer]? = some origin ∧
    ∀ session, t.session = some session → Fits s.peers origin.sessionId session
  queue : ∀ id q, s.websocketIceQueue.lookup id = some q →
    ∀ c ∈ q, OpenedAs s.peers id c.peer
  handler : ∀ id h, s.handlers.lookup id = some h → HandlerFits s.peers id h.phase
  request : ∀ id phase, s.requests.lookup id = some phase →
    s.peers[phase.peer]? = some (.http id)
  cloud : ∀ o, s.cloud.offer = some o → s.peers[o.peer]? = some (.cloud o.session o.client)
  candidateFrame : ∀ id c, (id, .newIceCandidate c) ∈ s.frames → s.peers[c.peer]? = some (.lan id)
  replyFrame : ∀ id peer f, (id, .reply (some peer) f) ∈ s.frames →
    s.peers[peer]? = some (.lan id)
  cloudFrame : ∀ f ∈ s.cloudFrames, .cloud f.sessionId f.clientId ∈ s.peers
  added : ∀ id peer, (id, peer) ∈ s.added → OpenedAs s.peers id peer

theorem wired_init : Wired {} := by
  constructor <;> simp [CloudPhase.offer]

/-! ### Opening a peer connection -/

section

variable {peers : List Origin} {origin o : Origin} {id : String} {peer : Nat}

theorem getElem?_append_some (h : peers[peer]? = some o) :
    (peers ++ [origin])[peer]? = some o := by
  obtain ⟨hlt, -⟩ := List.getElem?_eq_some_iff.mp h
  rw [List.getElem?_append_left hlt]
  exact h

theorem OpenedAs.append (h : OpenedAs peers id peer) : OpenedAs (peers ++ [origin]) id peer := by
  obtain ⟨o, ho, hid⟩ := h
  exact ⟨o, getElem?_append_some ho, hid⟩

theorem Fits.append {session : SignalSession} (h : Fits peers id session) :
    Fits (peers ++ [origin]) id session := by
  obtain ⟨o, ho, hid, hcloud⟩ := h
  exact ⟨o, getElem?_append_some ho, hid, hcloud⟩

theorem HandlerFits.append {phase : Phase} (h : HandlerFits peers id phase) :
    HandlerFits (peers ++ [origin]) id phase where
  offer peer hpeer := getElem?_append_some (h.offer peer hpeer)
  flight c hc := (h.flight c hc).append

end

section

variable {s : Signals} {id : String} {h : Handler} {origin : Origin} {phase : Phase}

/-- A new peer connection under an id that is not drawn yet or that a WebSocket has. -/
theorem Wired.openPeer (hw : Wired s) (hid : origin.sessionId ∈ s.ids)
    (hsame : ∀ o ∈ s.peers, o.sessionId = origin.sessionId → o = origin)
    (hlan : ∀ id h, s.handlers.lookup id = some h → origin.sessionId = id → origin = .lan id)
    (hclient : ∀ id client, origin = .cloud id client → parseClientId client = client) :
    Wired (s.openPeer origin) where
  peerIds o ho := by
    rcases List.mem_append.mp ho with ho | ho
    · exact hw.peerIds o ho
    · rw [List.mem_singleton.mp ho]
      exact hid
  handlerIds := hw.handlerIds
  sameId o ho o' ho' heq := by
    rcases List.mem_append.mp ho with ho | ho <;> rcases List.mem_append.mp ho' with ho' | ho'
    · exact hw.sameId o ho o' ho' heq
    · rw [List.mem_singleton.mp ho'] at heq ⊢
      exact hsame o ho heq
    · rw [List.mem_singleton.mp ho] at heq ⊢
      exact (hsame o' ho' heq.symm).symm
    · rw [List.mem_singleton.mp ho, List.mem_singleton.mp ho']
  lanId id h hh o ho heq := by
    rcases List.mem_append.mp ho with ho | ho
    · exact hw.lanId id h hh o ho heq
    · rw [List.mem_singleton.mp ho] at heq ⊢
      exact hlan id h hh heq
  clientId id client hmem := by
    rcases List.mem_append.mp hmem with hmem | hmem
    · exact hw.clientId id client hmem
    · exact hclient id client (List.mem_singleton.mp hmem).symm
  session id session hsession := (hw.session id session hsession).append
  sending t ht := by
    obtain ⟨o, ho, hfits⟩ := hw.sending t ht
    exact ⟨o, getElem?_append_some ho, fun session hsession => (hfits session hsession).append⟩
  queue id q hq c hc := (hw.queue id q hq c hc).append
  handler id h hh := (hw.handler id h hh).append
  request id phase hphase := getElem?_append_some (hw.request id phase hphase)
  cloud o ho := getElem?_append_some (hw.cloud o ho)
  candidateFrame id c hc := getElem?_append_some (hw.candidateFrame id c hc)
  replyFrame id peer f hf := getElem?_append_some (hw.replyFrame id peer f hf)
  cloudFrame f hf := List.mem_append_left _ (hw.cloudFrame f hf)
  added id peer hmem := (hw.added id peer hmem).append

theorem Wired.openLan (hw : Wired s) (hh : s.handlers.lookup id = some h) :
    Wired (s.openPeer (.lan id)) := by
  apply hw.openPeer
  · exact hw.handlerIds id h hh
  · exact hw.lanId id h hh
  · intro id' h' hh' heq
    exact congrArg Origin.lan heq
  · intro id' client heq
    cases heq

/-! ### The other changes -/

theorem Wired.draw (hw : Wired s) : Wired { s with ids := id :: s.ids } :=
  { hw with
    peerIds := fun o ho => List.mem_cons_of_mem id (hw.peerIds o ho)
    handlerIds := fun id' h hh => List.mem_cons_of_mem id (hw.handlerIds id' h hh) }

theorem Wired.openFresh (hw : Wired s) (origin : Origin) (hfresh : origin.sessionId ∉ s.ids)
    (hclient : ∀ id client, origin = .cloud id client → parseClientId client = client) :
    Wired ({ s with ids := origin.sessionId :: s.ids }.openPeer origin) := by
  apply hw.draw.openPeer List.mem_cons_self
  · intro o ho heq
    exact absurd (heq ▸ hw.peerIds o ho) hfresh
  · intro id h hh heq
    exact absurd (heq ▸ hw.handlerIds id h hh) hfresh
  · exact hclient

theorem Wired.goto (hw : Wired s) (hh : s.handlers.lookup id = some h)
    (hphase : HandlerFits s.peers id phase) : Wired (s.goto id h phase) :=
  { hw with
    handlerIds := by
      intro id' h' hh'
      rcases Table.lookup_insert_iff.mp hh' with ⟨rfl, -⟩ | ⟨-, hold⟩
      · exact hw.handlerIds _ h hh
      · exact hw.handlerIds id' h' hold
    lanId := by
      intro id' h' hh'
      rcases Table.lookup_insert_iff.mp hh' with ⟨rfl, -⟩ | ⟨-, hold⟩
      · exact hw.lanId _ h hh
      · exact hw.lanId id' h' hold
    handler := by
      intro id' h' hh'
      rcases Table.lookup_insert_iff.mp hh' with ⟨rfl, rfl⟩ | ⟨-, hold⟩
      · exact hphase
      · exact hw.handler id' h' hold }

theorem HandlerFits.ofIdle (hpeer : phase.peer = none) (hflight : phase.flight = []) :
    HandlerFits s.peers id phase where
  offer peer heq := by
    rw [hpeer] at heq
    cases heq
  flight c hc := by
    rw [hflight] at hc
    cases hc

theorem Wired.say (hw : Wired s) {f : Outgoing}
    (hcandidate : ∀ c, f = .newIceCandidate c → s.peers[c.peer]? = some (.lan id))
    (hreply : ∀ peer frame, f = .reply (some peer) frame → s.peers[peer]? = some (.lan id)) :
    Wired (s.say id f) :=
  { hw with
    candidateFrame := by
      intro id' c hc
      rcases List.mem_append.mp hc with hc | hc
      · exact hw.candidateFrame id' c hc
      · obtain ⟨rfl, heq⟩ := Prod.mk.inj (List.mem_singleton.mp hc)
        exact hcandidate c heq.symm
    replyFrame := by
      intro id' peer frame hf
      rcases List.mem_append.mp hf with hf | hf
      · exact hw.replyFrame id' peer frame hf
      · obtain ⟨rfl, heq⟩ := Prod.mk.inj (List.mem_singleton.mp hf)
        exact hreply peer frame heq.symm }

theorem Wired.reply (hw : Wired s) {peer : Option Nat} {frame : Frame} {sent : Bool}
    (hpeer : ∀ p, peer = some p → s.peers[p]? = some (.lan id)) :
    Wired (s.sayIf sent id (.reply peer frame)) := by
  cases sent with
  | false => exact hw
  | true =>
      apply hw.say
      · intro c heq
        cases heq
      · intro p f heq
        cases heq
        exact hpeer p rfl

theorem Wired.refuse (hw : Wired s) (peer : Nat) : Wired (s.refuse peer) := { hw with }

theorem Wired.remove (hw : Wired s) (id : String) : Wired (s.removeAndCloseSession id) :=
  { hw with
    session := fun id' session hsession =>
      hw.session id' session (Table.lookup_erase_iff.mp hsession).2 }

theorem Wired.addSession (hw : Wired s) {session : SignalSession}
    (hfits : Fits s.peers id session) : Wired (s.addSession id session) :=
  { hw with
    session := by
      intro id' session' hsession
      rcases Table.lookup_insert_iff.mp hsession with ⟨rfl, rfl⟩ | ⟨-, hold⟩
      · exact hfits
      · exact hw.session id' session' hold }

theorem Wired.cacheFragment (hw : Wired s) (peer : Nat) (fragment : Option String) :
    Wired (s.cacheFragment peer fragment) := by
  cases fragment with
  | none => exact hw
  | some fragment => exact { hw with }

theorem Wired.setRequest (hw : Wired s) {phase : HttpPhase}
    (hpeer : s.peers[phase.peer]? = some (.http id)) :
    Wired { s with requests := s.requests.insert id phase } :=
  { hw with
    request := by
      intro id' phase' hphase
      rcases Table.lookup_insert_iff.mp hphase with ⟨rfl, rfl⟩ | ⟨-, hold⟩
      · exact hpeer
      · exact hw.request id' phase' hold }

theorem Wired.endRequest (hw : Wired s) : Wired { s with requests := s.requests.erase id } :=
  { hw with
    request := fun id' phase hphase =>
      hw.request id' phase (Table.lookup_erase_iff.mp hphase).2 }

theorem Wired.setCloud (hw : Wired s) {phase : CloudPhase}
    (hcloud : ∀ o, phase.offer = some o → s.peers[o.peer]? = some (.cloud o.session o.client)) :
    Wired { s with cloud := phase } :=
  { hw with cloud := hcloud }

theorem Wired.idleCloud (hw : Wired s) : Wired { s with cloud := .idle } := by
  apply hw.setCloud
  intro o ho
  cases ho

theorem Wired.cloudSend (hw : Wired s) {sent : Bool} {f : CloudFrame}
    (hf : .cloud f.sessionId f.clientId ∈ s.peers) : Wired (s.cloudSend sent f) := by
  cases sent with
  | false => exact hw
  | true =>
      exact { hw with
        cloudFrame := by
          intro f' hf'
          rcases List.mem_append.mp hf' with hf' | hf'
          · exact hw.cloudFrame f' hf'
          · rw [List.mem_singleton.mp hf']
            exact hf }

theorem Wired.addIceCandidate (hw : Wired s) (id : String) : Wired (s.addIceCandidate id) := by
  unfold Signals.addIceCandidate
  cases hsession : s.sessions.lookup id with
  | none => exact hw
  | some session =>
      obtain ⟨origin, horigin, hid, -⟩ := hw.session id session hsession
      exact { hw with
        added := by
          intro id' peer hmem
          rcases List.mem_cons.mp hmem with heq | hmem
          · obtain ⟨rfl, rfl⟩ := Prod.mk.inj heq
            exact ⟨origin, horigin, hid⟩
          · exact hw.added id' peer hmem }

theorem mem_of_mem_push {cap : Nat} {q : List Trickled} {c c' : Trickled}
    (h : c' ∈ Relay.push cap q c) : c' ∈ q ∨ c' = c := by
  have hmem := (Relay.push_sublist q c).subset h
  simpa using hmem

theorem Wired.queueIceCandidate (hw : Wired s) {c : Trickled}
    (hc : OpenedAs s.peers id c.peer) : Wired (s.queueIceCandidate id c) :=
  { hw with
    queue := by
      intro id' q hq c' hc'
      rcases Table.lookup_insert_iff.mp hq with ⟨rfl, rfl⟩ | ⟨-, hold⟩
      · rcases mem_of_mem_push hc' with hmem | rfl
        · cases hlookup : s.websocketIceQueue.lookup id' with
          | none =>
              rw [hlookup] at hmem
              cases hmem
          | some q =>
              rw [hlookup] at hmem
              exact hw.queue id' q hlookup c' hmem
        · exact hc
      · exact hw.queue id' q hold c' hc' }

theorem Wired.takeQueue (hw : Wired s) :
    Wired { s with websocketIceQueue := s.websocketIceQueue.erase id } :=
  { hw with
    queue := fun id' q hq => hw.queue id' q (Table.lookup_erase_iff.mp hq).2 }

theorem Wired.waiting (hw : Wired s) {c : Trickled}
    (hc : c ∈ (s.websocketIceQueue.lookup id).getD []) : OpenedAs s.peers id c.peer := by
  cases hlookup : s.websocketIceQueue.lookup id with
  | none =>
      rw [hlookup] at hc
      cases hc
  | some q =>
      rw [hlookup] at hc
      exact hw.queue id q hlookup c hc

theorem Wired.endHandler (hw : Wired s) : Wired { s with handlers := s.handlers.erase id } :=
  { hw with
    handlerIds := fun id' h hh => hw.handlerIds id' h (Table.lookup_erase_iff.mp hh).2
    lanId := fun id' h hh => hw.lanId id' h (Table.lookup_erase_iff.mp hh).2
    handler := fun id' h hh => hw.handler id' h (Table.lookup_erase_iff.mp hh).2 }

theorem Wired.gotoIdle (hw : Wired s) (hh : s.handlers.lookup id = some h)
    (hpeer : phase.peer = none) (hflight : phase.flight = []) : Wired (s.goto id h phase) :=
  hw.goto hh (.ofIdle hpeer hflight)

theorem sayIf_handlers {sent : Bool} {f : Outgoing} :
    (s.sayIf sent id f).handlers = s.handlers := by
  cases sent <;> rfl

/-! ### The WebSocket loop -/

theorem Wired.connect (hw : Wired s) (wsRole : Option SessionRole) (greeted : Bool)
    (hfresh : id ∉ s.ids) : Wired (s.connect id wsRole greeted) := by
  cases greeted with
  | false => exact hw.draw
  | true =>
      have hsaid : Wired ({ s with ids := id :: s.ids }.say id .deviceMetadata) := by
        apply hw.draw.say
        · intro c heq
          cases heq
        · intro peer f heq
          cases heq
      exact { hsaid with
        handlerIds := by
          intro id' h hh
          rcases Table.lookup_insert_iff.mp hh with ⟨rfl, -⟩ | ⟨-, hold⟩
          · exact List.mem_cons_self
          · exact hsaid.handlerIds id' h hold
        lanId := by
          intro id' h hh origin horigin heq
          rcases Table.lookup_insert_iff.mp hh with ⟨rfl, -⟩ | ⟨-, hold⟩
          · exact absurd (heq ▸ hw.peerIds origin horigin) hfresh
          · exact hsaid.lanId id' h hold origin horigin heq
        handler := by
          intro id' h hh
          rcases Table.lookup_insert_iff.mp hh with ⟨-, rfl⟩ | ⟨-, hold⟩
          · exact .ofIdle rfl rfl
          · exact hsaid.handler id' h hold }

theorem Wired.receiveOffer (hw : Wired s) (hh : s.handlers.lookup id = some h)
    (request : SessionRequest) (sent : Bool) : Wired (s.receiveOffer id h request sent) := by
  unfold Signals.receiveOffer
  split
  next => exact hw.gotoIdle hh rfl rfl
  next =>
    apply Wired.gotoIdle _ _ rfl rfl
    · apply hw.reply
      intro peer heq
      cases heq
    · rw [sayIf_handlers]
      exact hh
  next =>
    apply (hw.openLan hh).goto hh
    constructor
    · intro peer heq
      cases heq
      exact List.getElem?_concat_length
    · intro c hc
      cases hc

theorem Wired.receiveText (hw : Wired s) (hh : s.handlers.lookup id = some h)
    (message : WsText) : Wired (s.receiveText id h message) := by
  unfold Signals.receiveText
  split
  next sent =>
    apply Wired.gotoIdle _ _ rfl rfl
    · apply hw.reply
      intro peer heq
      cases heq
    · rw [sayIf_handlers]
      exact hh
  next request sent => exact hw.receiveOffer hh request sent
  next =>
    apply (hw.addIceCandidate id).gotoIdle _ rfl rfl
    unfold Signals.addIceCandidate
    split
    · exact hh
    · exact hh
  next => exact hw.gotoIdle hh rfl rfl
  next => exact hw.gotoIdle hh rfl rfl

theorem Wired.receive (hw : Wired s) (hh : s.handlers.lookup id = some h) (m : Incoming) :
    Wired (s.receive id h m) := by
  cases m with
  | gone => exact hw.gotoIdle hh rfl rfl
  | ping sent => cases sent <;> exact hw.gotoIdle hh rfl rfl
  | text message => exact hw.receiveText hh message
  | other => exact hw.gotoIdle hh rfl rfl

section

variable {peer : Nat} {sd : String}

theorem Wired.lanBuilt (hw : Wired s) (hh : s.handlers.lookup id = some h)
    (hphase : h.phase = .building peer) (ok : Bool) : Wired (s.lanBuilt id h peer ok) := by
  have hpeer := (hw.handler id h hh).offer peer (by rw [hphase]; rfl)
  unfold Signals.lanBuilt
  split
  · have hadded : Wired (s.addSession id ⟨peer, false, none⟩) :=
      hw.addSession ⟨.lan id, hpeer, rfl, by intro hcloud; cases hcloud⟩
    apply hadded.goto hh
    constructor
    · intro p heq
      cases heq
      exact hpeer
    · intro c hc
      cases hc
  · exact (hw.refuse peer).gotoIdle hh rfl rfl

theorem cacheFragment_handlers {fragment : Option String} :
    (s.cacheFragment peer fragment).handlers = s.handlers := by
  cases fragment <;> rfl

theorem cacheFragment_peers {fragment : Option String} :
    (s.cacheFragment peer fragment).peers = s.peers := by
  cases fragment <;> rfl

theorem Wired.lanExchanged (hw : Wired s) (hh : s.handlers.lookup id = some h)
    (hphase : h.phase = .exchanging peer) (result : Except String (String × Option String)) :
    Wired (s.lanExchanged id h peer result) := by
  have hpeer := (hw.handler id h hh).offer peer (by rw [hphase]; rfl)
  unfold Signals.lanExchanged
  split
  next sd fragment =>
    apply (hw.cacheFragment peer fragment).goto
    · rw [cacheFragment_handlers]
      exact hh
    · constructor
      · intro p heq
        cases heq
        rw [cacheFragment_peers]
        exact hpeer
      · intro c hc
        cases hc
  next => exact ((hw.remove id).refuse peer).gotoIdle hh rfl rfl

theorem Wired.lanAnswered (hw : Wired s) (hh : s.handlers.lookup id = some h)
    (hphase : h.phase = .answering peer sd) (sent : Bool)
    (claim : Except String ClaimRoleResult) : Wired (s.lanAnswered id h peer sd sent claim) := by
  have hpeer := (hw.handler id h hh).offer peer (by rw [hphase]; rfl)
  have hreply : ∀ (b : Bool) (f : Frame), Wired (s.sayIf b id (.reply (some peer) f)) := by
    intro b f
    apply hw.reply
    intro p heq
    cases heq
    exact hpeer
  have hrefused : ∀ f phase, phase.peer = none → phase.flight = [] →
      Wired ((((s.sayIf sent id (.reply (some peer) f)).removeAndCloseSession id).refuse
        peer).goto id h phase) := by
    intro f phase hnone hflight
    apply (((hreply sent f).remove id).refuse peer).gotoIdle _ hnone hflight
    change (s.sayIf sent id (.reply (some peer) f)).handlers.lookup id = some h
    rw [sayIf_handlers]
    exact hh
  unfold Signals.lanAnswered
  split
  next => exact (hw.refuse peer).gotoIdle hh rfl rfl
  next =>
    split
    · exact (hreply true (.answer sd)).gotoIdle hh rfl rfl
    · exact ((hw.remove id).refuse peer).gotoIdle hh rfl rfl
  next => exact hrefused _ _ rfl rfl
  next => exact hrefused _ _ rfl rfl
  next => exact ((hw.remove id).refuse peer).gotoIdle hh rfl rfl

theorem Wired.takeCandidates (hw : Wired s) (hh : s.handlers.lookup id = some h) :
    Wired (s.takeCandidates id h) := by
  apply hw.takeQueue.goto hh
  constructor
  · intro p heq
    cases heq
  · intro c hc
    exact hw.waiting hc

theorem Wired.flushedPeer (hw : Wired s) {c : Trickled} {rest : List Trickled}
    (hh : s.handlers.lookup id = some h) (hphase : h.phase = .flushing (c :: rest)) :
    s.peers[c.peer]? = some (.lan id) := by
  have hflight := (hw.handler id h hh).flight
  rw [hphase] at hflight
  obtain ⟨origin, horigin, hid⟩ := hflight c List.mem_cons_self
  rw [horigin, hw.lanId id h hh origin (List.mem_of_getElem? horigin) hid]

theorem Wired.flushOne (hw : Wired s) {rest : List Trickled} (hh : s.handlers.lookup id = some h)
    (hphase : h.phase = .flushing rest) (sent : Bool) : Wired (s.flushOne id h sent rest) := by
  have hflight := (hw.handler id h hh).flight
  rw [hphase] at hflight
  cases rest with
  | nil => exact hw.gotoIdle hh rfl rfl
  | cons c rest =>
      rw [Signals.flushOne]
      split
      · have hsaid : Wired (s.say id (.newIceCandidate c)) := by
          apply hw.say
          · intro c' heq
            cases heq
            exact hw.flushedPeer hh hphase
          · intro p f heq
            cases heq
        apply hsaid.goto hh
        constructor
        · intro p heq
          cases heq
        · intro c' hc'
          exact hflight c' (List.mem_cons_of_mem c hc')
      · exact hw.gotoIdle hh rfl rfl

end

/-! ### Session requests over HTTP -/

theorem Wired.httpBuilt (hw : Wired s) {peer : Nat}
    (hrequest : s.requests.lookup id = some (.building peer)) (ok : Bool) :
    Wired (s.httpBuilt id peer ok) := by
  have hpeer := hw.request id _ hrequest
  unfold Signals.httpBuilt
  split
  · have hadded : Wired (s.addSession id ⟨peer, false, none⟩) :=
      hw.addSession ⟨.http id, hpeer, rfl, by intro hcloud; cases hcloud⟩
    exact hadded.setRequest hpeer
  · exact hw.endRequest

theorem Wired.httpExchanged (hw : Wired s) {peer : Nat}
    (hrequest : s.requests.lookup id = some (.exchanging peer))
    (result : Except String (Option String)) : Wired (s.httpExchanged id peer result) := by
  have hpeer := hw.request id _ hrequest
  unfold Signals.httpExchanged
  split
  next fragment =>
    have hcached := hw.cacheFragment peer fragment
    cases fragment with
    | none => exact hcached.setRequest hpeer
    | some fragment => exact hcached.setRequest hpeer
  next => exact (hw.remove id).endRequest

theorem Wired.httpAnswered (hw : Wired s) (claim : Except String ClaimRoleResult) :
    Wired (s.httpAnswered id claim) := by
  unfold Signals.httpAnswered
  split
  next => exact hw.endRequest
  next => exact hw.endRequest
  next => exact (hw.remove id).endRequest

/-! ### The cloud connection -/

section

variable {o : CloudOffer}

theorem Wired.cloudPeer (hw : Wired s) (ho : s.cloud.offer = some o) :
    .cloud o.session o.client ∈ s.peers ∧ parseClientId o.client = o.client := by
  have hmem := List.mem_of_getElem? (hw.cloud o ho)
  exact ⟨hmem, hw.clientId _ _ hmem⟩

theorem Wired.cloudBuilt (hw : Wired s) (hcloud : s.cloud = .building o) (ok : Bool) :
    Wired (s.cloudBuilt o ok) := by
  have hpeer := hw.cloud o (by rw [hcloud]; rfl)
  unfold Signals.cloudBuilt
  split
  · have hadded : Wired (s.addSession o.session ⟨o.peer, true, o.client⟩) :=
      hw.addSession ⟨_, hpeer, rfl, fun _ => rfl⟩
    apply hadded.setCloud
    intro o' ho'
    cases ho'
    exact hpeer
  · exact hw.idleCloud

theorem Wired.cloudExchanged (hw : Wired s) (hcloud : s.cloud = .exchanging o)
    (result : Except String (String × Option String)) : Wired (s.cloudExchanged o result) := by
  have hpeer := hw.cloud o (by rw [hcloud]; rfl)
  unfold Signals.cloudExchanged
  split
  next sd fragment =>
    apply (hw.cacheFragment o.peer fragment).setCloud
    intro o' ho'
    cases ho'
    rw [cacheFragment_peers]
    exact hpeer
  next => exact (hw.remove o.session).idleCloud

theorem Wired.cloudAnswered (hw : Wired s) {sd : String} (hcloud : s.cloud = .answering o sd)
    (sent : Bool) (claim : Except String ClaimRoleResult) :
    Wired (s.cloudAnswered o sd sent claim) := by
  obtain ⟨hmem, hclient⟩ := hw.cloudPeer (o := o) (by rw [hcloud]; rfl)
  have hsent : ∀ (b : Bool) (data : CloudData),
      Wired (s.cloudSend b ⟨o.session, data, parseClientId o.client⟩) := by
    intro b data
    apply hw.cloudSend
    rw [hclient]
    exact hmem
  unfold Signals.cloudAnswered
  split
  next => exact hw.idleCloud
  next =>
    split
    · exact (hsent true _).idleCloud
    · exact (hw.remove o.session).idleCloud
  next => exact ((hsent sent _).remove o.session).idleCloud
  next => exact ((hsent sent _).remove o.session).idleCloud
  next => exact (hw.remove o.session).idleCloud

end

/-! ### Candidates -/

theorem Wired.foundCandidate (hw : Wired s) {peer : Nat}
    (horigin : s.peers[peer]? = some origin) (c : RTCIceCandidate) :
    Wired (s.foundCandidate peer origin c) := by
  unfold Signals.foundCandidate
  split
  · exact hw
  next data =>
    split
    · exact hw
    · exact { hw with
        sending := by
          intro t ht
          rcases List.mem_append.mp ht with ht | ht
          · exact hw.sending t ht
          · rw [List.mem_singleton.mp ht]
            exact ⟨origin, horigin, hw.session origin.sessionId⟩ }

theorem Wired.fillAt (hw : Wired s) {i : Nat} {t : Sending} (ht : s.sending[i]? = some t) :
    Wired { s with sending := s.sending.set i (s.fillFragment t) } :=
  { hw with
    sending := by
      intro t' ht'
      rcases List.mem_or_eq_of_mem_set ht' with hmem | rfl
      · exact hw.sending t' hmem
      · exact hw.sending t (List.mem_of_getElem? ht) }

theorem Wired.deliver (hw : Wired s) {i : Nat} {t : Sending} (ht : s.sending[i]? = some t)
    (horigin : s.peers[t.peer]? = some origin) (cloudOpen : Bool) :
    Wired ({ s with sending := s.sending.eraseIdx i }.deliverCandidate origin t cloudOpen) := by
  have hless : Wired { s with sending := s.sending.eraseIdx i } :=
    { hw with sending := fun t' ht' => hw.sending t' (List.mem_of_mem_eraseIdx ht') }
  unfold Signals.deliverCandidate
  split
  next peer clientId hsession =>
    obtain ⟨origin', horigin', hfits⟩ := hw.sending t (List.mem_of_getElem? ht)
    obtain rfl := Option.some.inj (horigin.symm.trans horigin')
    obtain ⟨o, ho, -, hcloud⟩ := hfits _ hsession
    have hmem := List.mem_of_getElem? ho
    rw [hcloud rfl] at hmem
    apply hless.cloudSend
    change Origin.cloud origin.sessionId (parseClientId clientId) ∈ s.peers
    rw [hw.clientId _ _ hmem]
    exact hmem
  next => exact hless.queueIceCandidate ⟨origin, horigin, rfl⟩

/-! ### Runs -/

theorem parseClientId_idem (raw : Option String) :
    parseClientId (parseClientId raw) = parseClientId raw := by
  unfold parseClientId
  rw [Option.filter_filter]
  simp

theorem wired_step {s' : Signals} {e : Event} (hw : Wired s) (hstep : s.step e = some s') :
    Wired s' := by
  cases ran_of_step hstep with
  | connect hfresh => exact hw.connect _ _ hfresh
  | message hh => exact hw.receive hh _
  | lanBuilt hh hphase => exact hw.lanBuilt hh hphase _
  | lanExchanged hh hphase => exact hw.lanExchanged hh hphase _
  | lanAnswered hh hphase => exact hw.lanAnswered hh hphase _ _
  | take hh => exact hw.takeCandidates hh
  | flush hh hphase => exact hw.flushOne hh hphase _
  | close hh => exact (hw.remove _).gotoIdle hh rfl rfl
  | clear => exact hw.takeQueue.endHandler
  | @httpOffer id hfresh =>
      have hopened := hw.openFresh (.http id) hfresh (by intro id client heq; cases heq)
      exact hopened.setRequest List.getElem?_concat_length
  | httpBuilt hrequest => exact hw.httpBuilt hrequest _
  | httpExchanged hrequest => exact hw.httpExchanged hrequest _
  | httpAnswered => exact hw.httpAnswered _
  | @cloudOffer id clientId role hfresh =>
      have hopened := hw.openFresh (.cloud id (parseClientId clientId)) hfresh (by
        intro id client heq
        cases heq
        exact parseClientId_idem clientId)
      apply hopened.setCloud
      intro o ho
      cases ho
      exact List.getElem?_concat_length
  | cloudBuilt hcloud => exact hw.cloudBuilt hcloud _
  | cloudExchanged hcloud => exact hw.cloudExchanged hcloud _
  | cloudAnswered hcloud => exact hw.cloudAnswered hcloud _ _
  | cloudCandidate => exact hw.addIceCandidate _
  | cloudEnded => exact hw.idleCloud
  | removed => exact hw.remove _
  | candidate horigin => exact hw.foundCandidate horigin _
  | fill ht => exact hw.fillAt ht
  | deliver ht horigin => exact hw.deliver ht horigin _

theorem wired_of_reach {s : Signals} {ok : Signals → Event → Prop}
    (hreach : Reach Signals.step ok {} s) : Wired s :=
  hreach.invariant wired_init fun _ _ _ hw _ hstep => wired_step hw hstep

end

/-- Every signal belongs to the client that it is sent to.  The peer connections that were
opened under the id of a WebSocket are those of its own offers, and the answers, errors and
candidates that it gets are theirs; the peer connections with the session id of a frame for
the cloud are those of the one offer that came with the `client_id` of the frame; and a
candidate of a client reaches a peer connection with the session id that it names. -/
theorem signals_stay_with_client {s : Signals} (hreach : Reach Signals.step anyStep {} s) :
    (∀ id c, (id, .newIceCandidate c) ∈ s.frames → s.peers[c.peer]? = some (.lan id)) ∧
    (∀ id peer f, (id, .reply (some peer) f) ∈ s.frames → s.peers[peer]? = some (.lan id)) ∧
    (∀ f ∈ s.cloudFrames, .cloud f.sessionId f.clientId ∈ s.peers ∧
      ∀ origin ∈ s.peers, origin.sessionId = f.sessionId →
        origin = .cloud f.sessionId f.clientId) ∧
    ∀ id peer, (id, peer) ∈ s.added →
      ∃ origin, s.peers[peer]? = some origin ∧ origin.sessionId = id := by
  have hw := wired_of_reach hreach
  refine ⟨hw.candidateFrame, hw.replyFrame, fun f hf => ?_, hw.added⟩
  have hmem := hw.cloudFrame f hf
  exact ⟨hmem, fun origin horigin hid => hw.sameId origin horigin _ hmem hid⟩

def hostCandidate : RTCIceCandidate :=
  { address := "192.168.1.5", foundation := "1", json := .ok ⟨"candidate:1 1 udp", none⟩ }

def lanTrickles : List Event :=
  [.connect "ws-1" none true, .message "ws-1" (.text (.offer (some (.ok ⟨"sd", none⟩)) true)),
    .lanBuilt "ws-1" true, .candidate 0 hostCandidate, .fill 0,
    .lanExchanged "ws-1" (.ok ("sdp", some "ufrag")), .deliver 0 true,
    .lanAnswered "ws-1" (.ok (.accepted none)) true, .take "ws-1", .flush "ws-1" true]

def cloudTrickles : List Event :=
  [.cloudOffer "cloud-1" (some "browser") .user, .cloudBuilt true,
    .cloudExchanged (.ok ("sdp", none)), .candidate 1 hostCandidate, .fill 0,
    .cloudAnswered (.ok (.accepted none)) true, .deliver 0 true]

theorem signals_stay_with_client_both :
    ∃ s, Reach Signals.step anyStep {} s ∧
      ("ws-1", .newIceCandidate ⟨0, "candidate:1 1 udp", none⟩) ∈ s.frames ∧
      s.peers[0]? = some (.lan "ws-1") ∧
      (∃ f ∈ s.cloudFrames, f.clientId = some "browser" ∧
        .cloud f.sessionId f.clientId ∈ s.peers) := by
  have hexec : (exec Signals.step (fun _ _ => true) {} (lanTrickles ++ cloudTrickles)).map
      (fun s => (s.frames.getLast?, s.cloudFrames.map (·.clientId))) =
        some (some ("ws-1", .newIceCandidate ⟨0, "candidate:1 1 udp", none⟩),
          [some "browser", some "browser"]) := by
    decide +kernel
  obtain ⟨s, hs, hobs⟩ := exists_reach_of_exec (fun _ _ _ => trivial) hexec
  obtain ⟨hframes, hcloud⟩ := Prod.mk.inj hobs
  obtain ⟨hcandidates, -, hcloudFrames, -⟩ := signals_stay_with_client hs
  have hframe := List.mem_of_getLast? hframes
  have hclient : some "browser" ∈ s.cloudFrames.map (·.clientId) := by
    rw [hcloud]
    exact List.mem_cons_self
  obtain ⟨f, hf, hid⟩ := List.mem_map.mp hclient
  exact ⟨s, hs, hframe, hcandidates _ _ hframe, f, hf, hid, (hcloudFrames f hf).1⟩

end ArkKvm.Trickle
