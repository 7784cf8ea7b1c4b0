import PyWebRTC.CandidatesSent
import PyWebRTC.SignalingOrder
import PyWebRTC.SignalingRoundTrip
import Mathlib.Data.List.Perm.Subperm

/-!
# What a whole session makes the other connection ask for

The two threads of a connection send numbers and candidates as texts. Whatever
the order of their steps, the other connection asks its WebRTC for what the
texts were made of: no description twice, and the candidates in the order of
their gathering.
-/

namespace PyWebRTC.SessionRelay

open ActionRuns SignalingThreads
open CandidatesSent (candidates candidates_step candidatesSent)
open IceCandidateObject (IceCandidate)
open IceInformation (CandidateFactory)
open JsonText (HasText Json)
open PicojsonValue (Bytes)
open PythonJson (Codec has_text_dict has_text_str)
open SessionDescription (sdpTypeOf)
open Signaling SignalingOrder SignalingRoundTrip
open Utf8 (IsUtf8)

set_option autoImplicit false

/-- What the numbers of a run stand for, and how the connection introduces
itself. -/
structure Session where
  signalingKind : List Char
  signalingId : Json
  sdp : Nat → Bytes

def kindValue (session : Session) : Json :=
  .dict [(typeName, .str "kind".toList), ("kind".toList, .str session.signalingKind),
    ("connection_id".toList, session.signalingId)]

def messageOf (json : Codec) (session : Session) : Outgoing IceCandidate → List Char
  | .kind => json.dumps (kindValue session)
  | .description kind number => sdpMessage json kind (session.sdp number)
  | .candidate gathered => candidateMessage json gathered.candidate

def askedFor (session : Session) : Outgoing IceCandidate → List NativeCall
  | .kind => []
  | .description kind number => [.createSessionDescription (sdpTypeOf kind) (session.sdp number)]
  | .candidate gathered => [.createIceCandidate gathered.candidate]

/-- What the message is made of can be spelled, and passes the binding. -/
def Spellable (session : Session) : Outgoing IceCandidate → Prop
  | .kind => HasText session.signalingId
  | .description _ number => IsUtf8 (session.sdp number) ∧ 0 ∉ session.sdp number
  | .candidate gathered => IceIsUtf8 gathered.candidate

/-! ## What has been made, and where it is -/

section Made

variable {Candidate : Type*}

def numbers (state : State Candidate) : List Nat :=
  descriptionsSent state.sent ++ ((heldOffer state.handler).toList ++
    (heldAnswer state.message).toList)

/-- A description is in one place only, and candidates may get lost, but neither
doubled nor moved. -/
structure RelayInvariant (state : State Candidate) : Prop where
  once : (numbers state).Nodup
  made : ∀ number ∈ numbers state, number < state.created
  inOrder : (candidates state).Sublist state.gathered

theorem relay_invariant_initial (useVideo : Bool) :
    RelayInvariant (initial useVideo : State Candidate) where
  once := List.nodup_nil
  made := by simp [numbers, initial, descriptionsSent, heldOffer, heldAnswer]
  inOrder := List.Sublist.refl _

theorem numbers_send_answer (state : State Candidate) {number : Nat}
    (stands : state.message = .sendAnswer number) :
    (numbers (state.sendOn (.description .answer number) .getIceInformation)).Subperm
      (numbers state) := by
  unfold State.sendOn
  split
  · apply List.Sublist.subperm
    simp [numbers, heldAnswer]
  · apply List.Perm.subperm
    simp only [numbers, descriptions_sent_append, stands, heldAnswer, Option.toList_some,
      Option.toList_none, List.append_nil, List.append_assoc]
    exact List.Perm.append_left _ List.perm_append_comm

theorem numbers_send_offer (state : State Candidate) {number : Nat}
    (stands : state.handler = .sendOffer number) :
    (numbers (state.sendFromHandler (.description .offer number) .settle)).Subperm
      (numbers state) := by
  apply List.Sublist.subperm
  unfold State.sendFromHandler
  split <;> simp [numbers, descriptionsSent, stands, heldOffer]

theorem numbers_kept {state next : State Candidate} (kept : numbers next = numbers state)
    (created : next.created = state.created) :
    (numbers next).Subperm (numbers state) ∧ next.created = state.created :=
  ⟨kept ▸ List.Subperm.refl _, created⟩

/-- A step moves numbers or loses them, or makes the next one. -/
theorem numbers_step {state next : State Candidate} {action : Action Candidate}
    (taken : step state action = some next) :
    ((numbers next).Subperm (numbers state) ∧ next.created = state.created) ∨
      ((numbers next).Perm (state.created :: numbers state) ∧
        next.created = state.created + 1) := by
  cases step_cases taken with
  | getSdp installs stands =>
      refine .inr ⟨?_, rfl⟩
      simp only [numbers, State.create, stands, heldOffer, Option.toList_some, Option.toList_none,
        List.nil_append]
      exact List.perm_middle
  | receiveOffer installs stands =>
      refine .inr ⟨?_, rfl⟩
      simp only [numbers, State.create, stands, heldAnswer, Option.toList_some, Option.toList_none,
        List.append_nil, ← List.append_assoc]
      exact List.perm_append_singleton _ _
  | sendOffer number stands =>
      refine .inl ⟨numbers_send_offer state stands, ?_⟩
      unfold State.sendFromHandler
      split <;> rfl
  | sendAnswer number stands =>
      refine .inl ⟨numbers_send_answer state stands, ?_⟩
      unfold State.sendOn
      split <;> rfl
  | sendCandidate first rest stands =>
      have held : heldAnswer state.message = none := by rw [stands]; rfl
      refine .inl (numbers_kept ?_ ?_) <;> unfold State.sendOn <;> split
      · simp [numbers, stands, heldAnswer]
      · simp [numbers, held, descriptions_sent_append, held_answer_candidate_loop]
        simp [descriptionsSent]
      · rfl
      · rfl
  | sendKind stands =>
      refine .inl (numbers_kept ?_ ?_) <;> unfold State.sendFromHandler <;> split
      · simp [numbers, stands, heldOffer]
      · simp [numbers, stands, descriptionsSent, heldOffer]
      · rfl
      · rfl
  | onMessage incoming stands connected =>
      refine .inl (numbers_kept ?_ rfl)
      cases incoming <;> simp [numbers, stands, messageStart, heldAnswer]
  | getIceInformation stands =>
      have held : heldAnswer state.message = none := by rw [stands]; rfl
      exact .inl (numbers_kept (by simp [numbers, held, held_answer_candidate_loop]) rfl)
  | channelFoundOpen stands channelOpen =>
      refine .inl (numbers_kept ?_ rfl)
      cases state.useVideo <;> simp [numbers, stands, heldOffer]
  | onOpen stands | channelNotOpen stands | timeoutNotExceeded stands | timeoutExceeded stands
  | addTracks stands | settle stands | close stands =>
      exact .inl (numbers_kept (by simp [numbers, stands, heldOffer]) rfl)
  | receiveAnswer stands | setIceInformation stands | undefinedMessage stands =>
      exact .inl (numbers_kept (by simp [numbers, stands, heldAnswer]) rfl)
  | onIceCandidate | onStateChange | connectionLost => exact .inl (numbers_kept rfl rfl)

theorem relay_invariant_step {state next : State Candidate} {action : Action Candidate}
    (invariant : RelayInvariant state) (taken : step state action = some next) :
    RelayInvariant next := by
  have fresh : state.created ∉ numbers state := fun member =>
    Nat.lt_irrefl _ (invariant.made _ member)
  refine ⟨?_, ?_, ?_⟩
  · rcases numbers_step taken with ⟨⟨kept, same, fewer⟩, -⟩ | ⟨more, -⟩
    · exact same.nodup_iff.mp (invariant.once.sublist fewer)
    · exact more.nodup_iff.mpr (List.nodup_cons.mpr ⟨fresh, invariant.once⟩)
  · rcases numbers_step taken with ⟨fewer, created⟩ | ⟨more, created⟩
    · rw [created]
      exact fun number member => invariant.made number (fewer.subset member)
    · rw [created]
      intro number member
      rcases List.mem_cons.mp (more.subset member) with rfl | earlier
      · exact Nat.lt_succ_self _
      · exact Nat.lt_succ_of_lt (invariant.made number earlier)
  · rcases candidates_step taken with ⟨-, new, placed, gathered⟩ | ⟨fewer, -, gathered⟩
    · rw [placed, gathered]
      exact invariant.inOrder.append (List.Sublist.refl _)
    · rw [gathered]
      exact fewer.trans invariant.inOrder

theorem relay_invariant_of_replay {useVideo : Bool} {actions : List (Action Candidate)}
    {last : State Candidate} (run : replay step (initial useVideo) actions = some last) :
    RelayInvariant last :=
  replay_invariant RelayInvariant (relay_invariant_initial useVideo)
    (fun _ _ _ => relay_invariant_step) run

end Made

/-! ## From the numbers to the texts and back -/

/-- A message that is no offer, answer or candidate, if it can be read at all. -/
def CarriesNothing (json : Codec) (data : List Char) : Prop :=
  ∀ parsedData messageType, json.loads data = some parsedData →
    parsedData.item typeName = some messageType →
      ∀ name ∈ [kindName .offer, kindName .answer, candidateName],
        isString name messageType = false

variable {Candidate : Type*}

theorem on_message_nothing {json : Codec} {data : List Char} (carries : CarriesNothing json data)
    (connection : Connection Candidate) : onMessage json connection data = Script.attempt none := by
  cases loaded : json.loads data with
  | none =>
      rw [onMessage, loaded]
      rfl
  | some parsedData =>
      cases isType : parsedData.item typeName with
      | none =>
          rw [onMessage, loaded, attempt_some_bind, isType]
          rfl
      | some messageType =>
          have unknown := carries parsedData messageType loaded isType
          have notOffer := unknown (kindName .offer) (by simp)
          have notAnswer := unknown (kindName .answer) (by simp)
          have notCandidate := unknown candidateName (by simp)
          simp only [onMessage, loaded, isType, attempt_some_bind, notOffer, notAnswer,
            notCandidate, Bool.false_eq_true, if_false]

theorem carries_nothing_kind (json : Codec) {session : Session}
    (signalingId : HasText session.signalingId) :
    CarriesNothing json (json.dumps (kindValue session)) := by
  have distinct : [typeName, "kind".toList, "connection_id".toList].Nodup := by decide
  have hasText : HasText (kindValue session) := by
    refine has_text_dict ?_ distinct
    simp [has_text_str, signalingId]
  intro parsedData messageType loaded isType
  obtain rfl := Option.some.inj (loaded.symm.trans (json.loads_dumps hasText))
  obtain rfl : .str "kind".toList = messageType := Option.some.inj isType
  decide

theorem calls_on_message_of (json : Codec) {session : Session} {outgoing : Outgoing IceCandidate}
    (spellable : Spellable session outgoing) (connection : Connection Candidate) :
    (onMessage json connection (messageOf json session outgoing)).calls =
      askedFor session outgoing := by
  cases outgoing with
  | kind =>
      rw [messageOf, on_message_nothing (carries_nothing_kind json spellable)]
      rfl
  | description kind number =>
      obtain ⟨isUtf8, nullFree⟩ := spellable
      have asked := calls_on_message_sdp (carries_sdp_message json kind isUtf8 nullFree) connection
      rw [Utf8.encode_text_of isUtf8] at asked
      exact asked
  | candidate gathered =>
      exact calls_on_message_candidate (carries_candidate_message json gathered.candidate)
        spellable connection

theorem received_messages (json : Codec) (receiver : Nat → Connection Candidate)
    {session : Session} {sent : List (Outgoing IceCandidate)}
    (spellable : ∀ outgoing ∈ sent, Spellable session outgoing) :
    received json receiver (sent.map (messageOf json session)) = sent.map (askedFor session) := by
  apply List.ext_getElem
  · simp [received]
  · intro place inReceived inSent
    have bound : place < sent.length := by simpa using inSent
    simp only [received, List.getElem_mapIdx, List.getElem_map]
    exact calls_on_message_of json (spellable _ (List.getElem_mem bound)) (receiver place)

/-- In every run, however the two threads and the callbacks interleave: the other
connection asks for what was sent, message by message, for no description twice,
and for the candidates in the order of their gathering. In a run whose steps
leave in turn it has asked for the description of a candidate before the
candidate. -/
theorem session_relayed (json : Codec) (receiver : Nat → Connection Candidate) (session : Session)
    (useVideo : Bool) (actions : List (Action IceCandidate)) (last : State IceCandidate)
    (run : replay step (initial useVideo) actions = some last)
    (spellable : ∀ outgoing ∈ last.sent, Spellable session outgoing) :
    received json receiver (last.sent.map (messageOf json session)) =
        last.sent.map (askedFor session) ∧
      ((descriptionsSent last.sent).Nodup ∧
        ∀ number ∈ descriptionsSent last.sent, number < last.created) ∧
      (candidatesSent last.sent).Sublist last.gathered ∧
      (MeetsAlong LeavesInTurn step (initial useVideo) actions →
        ∀ before gathered after, last.sent = before ++ Outgoing.candidate gathered :: after →
          ∃ kind, [NativeCall.createSessionDescription (sdpTypeOf kind)
              (session.sdp gathered.under)] ∈
            received json receiver (before.map (messageOf json session))) := by
  have invariant := relay_invariant_of_replay run
  refine ⟨received_messages json receiver spellable, ⟨?_, ?_⟩, ?_, ?_⟩
  · exact (List.nodup_append.mp invariant.once).1
  · exact fun number member => invariant.made number (List.mem_append_left _ member)
  · refine List.Sublist.trans ?_ invariant.inOrder
    rw [candidates, List.append_assoc]
    exact List.sublist_append_left _ _
  · intro leaves before gathered after split
    have causal : Causal last.sent :=
      holds_along_iff_prefixes.mp
        (holds_along_of_meets_along OrderInvariant (order_invariant_initial useVideo)
          (fun _ invariant => invariant.causal) (fun _ _ _ => order_invariant_step) leaves)
        actions [] last (List.append_nil _).symm run
    have described := causal.candidates before gathered after split
    obtain ⟨outgoing, member, isNumber⟩ := List.mem_filterMap.mp described
    have earlier : ∀ outgoing ∈ before, Spellable session outgoing := fun outgoing member =>
      spellable outgoing (by simp [split, member])
    rw [received_messages json receiver earlier]
    cases outgoing with
    | kind | candidate other => contradiction
    | description kind number =>
        obtain rfl := Option.some.inj isNumber
        exact ⟨kind, List.mem_map.mpr ⟨_, member, rfl⟩⟩

/-- Every description of this session has the same text. -/
def lineSession : Session where
  signalingKind := "server".toList
  signalingId := .str "1".toList
  sdp := fun _ => lineSdp

theorem line_session_spellable (outgoing : Outgoing IceCandidate)
    (candidate : ∀ gathered, outgoing = .candidate gathered → gathered.candidate = escapedIce) :
    Spellable lineSession outgoing := by
  cases outgoing with
  | kind => exact has_text_str _
  | description kind number =>
      have nullFree : 0 ∉ lineSdp := by decide
      exact ⟨Utf8.is_utf8_encode _, nullFree⟩
  | candidate gathered =>
      rw [Spellable, candidate gathered rfl]
      exact escaped_ice_is_utf8

def offerAndCandidate : List (Action IceCandidate) :=
  [.onOpen, .sendKind, .onStateChange true, .channelFoundOpen, .addTracks, .getSdp true,
    .onIceCandidate escapedIce, .sendOffer, .onMessage .answer, .receiveAnswer,
    .getIceInformation, .sendCandidate]

theorem offer_and_candidate_relayed :
    ∃ last, replay step (initial true) offerAndCandidate = some last ∧
      received PythonJsonLoads.standard (fun _ => describing IceInformation.acceptAll [] [])
          (last.sent.map (messageOf PythonJsonLoads.standard lineSession)) =
        [[], [.createSessionDescription (sdpTypeOf .offer) lineSdp],
          [.createIceCandidate escapedIce]] := by
  refine ⟨_, rfl, ?_⟩
  refine (session_relayed PythonJsonLoads.standard _ lineSession true offerAndCandidate _ rfl ?_).1
  intro outgoing member
  change outgoing ∈ [.kind, .description .offer 0, .candidate ⟨escapedIce, 0⟩] at member
  apply line_session_spellable
  rintro gathered rfl
  simp at member
  rw [member]

/-! ## A handler that is not interrupted -/

def Carries (json : Codec) (data : List Char) : Incoming → Prop
  | .offer => ∃ text, CarriesSdp json .offer data text
  | .answer => ∃ text, CarriesSdp json .answer data text
  | .candidate => ∃ candidate, CarriesCandidate json data candidate
  | .undefined => CarriesNothing json data

/-- The statements of `_on_message` in a row, with this many candidates waiting. -/
def handle (installs : Bool) (waiting : Nat) : Incoming → List (Action IceCandidate)
  | .offer => .onMessage .offer :: .receiveOffer installs :: .sendAnswer :: .getIceInformation ::
      List.replicate waiting .sendCandidate
  | .answer => .onMessage .answer :: .receiveAnswer :: .getIceInformation ::
      List.replicate waiting .sendCandidate
  | .candidate => [.onMessage .candidate, .setIceInformation]
  | .undefined => [.onMessage .undefined, .undefinedMessage]

theorem replay_candidate_loop {state : State IceCandidate}
    (connected : state.websocketClosed = false) (fetched : List (Gathered IceCandidate)) :
    replay step { state with message := candidateLoop fetched }
        (List.replicate fetched.length .sendCandidate) =
      some { state with message := .idle, sent := state.sent ++ fetched.map .candidate } := by
  induction fetched generalizing state with
  | nil => simp [replay, candidateLoop]
  | cons first rest ih =>
      have sends : step { state with message := candidateLoop (first :: rest) } .sendCandidate =
          some { state with
            sent := state.sent ++ [.candidate first], message := candidateLoop rest } := by
        simp [step, stepMessage, candidateLoop, State.sendOn, connected]
      rw [List.length_cons, List.replicate_succ, replay, sends, Option.bind_some]
      have others := @ih { state with sent := state.sent ++ [.candidate first] } connected
      simpa using others

theorem sent_on_rtc_candidate (connection : Connection Candidate) (text : List Char) :
    (onRtcCandidate connection text).sent = [] := by
  rw [onRtcCandidate]
  cases pyArgString (.str text) with
  | none => rfl
  | some iceInfo =>
      rw [attempt_some_bind]
      exact List.filterMap_eq_nil_iff.mpr (by simp)

theorem sent_on_message_candidate {json : Codec} {data : List Char} {candidate : Json}
    (carries : CarriesCandidate json data candidate) (connection : Connection Candidate) :
    (onMessage json connection data).sent = [] := by
  obtain ⟨parsedData, loaded, messageType, isCandidate⟩ := carries
  have notOffer : isString (kindName .offer) (.str candidateName) = false := by decide
  have notAnswer : isString (kindName .answer) (.str candidateName) = false := by decide
  simp only [onMessage, loaded, messageType, isCandidate, attempt_some_bind, notOffer, notAnswer,
    is_string_self, if_true, Bool.false_eq_true, if_false]
  exact sent_on_rtc_candidate connection _

/-- The connection as a handler finds it that no other thread interrupts. -/
def connectionOf (factory : CandidateFactory Candidate) (session : Session)
    (state : State IceCandidate) : Connection Candidate :=
  describing factory (session.sdp state.created) (state.iceArray.map Gathered.candidate)

def reply (state : State IceCandidate) : Incoming → List (Outgoing IceCandidate)
  | .offer => .description .answer state.created :: state.iceArray.map .candidate
  | .answer => state.iceArray.map .candidate
  | .candidate | .undefined => []

theorem replay_handle {state : State IceCandidate} (installs : Bool) (incoming : Incoming)
    (idle : state.message = .idle) (connected : state.websocketClosed = false) :
    ∃ next, replay step state (handle installs state.iceArray.length incoming) = some next ∧
      next.message = .idle ∧ next.sent = state.sent ++ reply state incoming := by
  cases incoming with
  | offer =>
      have loop := @replay_candidate_loop { state.create installs with
        iceArray := [], sent := state.sent ++ [.description .answer state.created] }
        connected state.iceArray
      refine ⟨{ state.create installs with
        iceArray := [], message := .idle
        sent := state.sent ++ [.description .answer state.created] ++
          state.iceArray.map .candidate }, ?_, rfl, by simp [reply]⟩
      rw [← loop]
      simp [handle, replay, step, stepMessage, idle, connected, messageStart, State.create,
        State.sendOn]
  | answer =>
      have loop := @replay_candidate_loop { state with iceArray := [] } connected state.iceArray
      refine ⟨{ state with
        iceArray := [], message := .idle, sent := state.sent ++ state.iceArray.map .candidate },
        ?_, rfl, rfl⟩
      rw [← loop]
      simp [handle, replay, step, stepMessage, idle, connected, messageStart]
  | candidate =>
      refine ⟨{ state with message := .idle }, ?_, rfl, (List.append_nil _).symm⟩
      simp [handle, replay, step, stepMessage, idle, connected, messageStart]
  | undefined =>
      refine ⟨{ state with message := .idle }, ?_, rfl, (List.append_nil _).symm⟩
      simp [handle, replay, step, stepMessage, idle, connected, messageStart]

theorem sent_on_message_reply {json : Codec} (factory : CandidateFactory Candidate)
    {session : Session} {state : State IceCandidate} {data : List Char} {incoming : Incoming}
    (carries : Carries json data incoming) (isUtf8 : IsUtf8 (session.sdp state.created))
    (areUtf8 : ∀ ice ∈ state.iceArray.map Gathered.candidate, IceIsUtf8 ice) :
    (onMessage json (connectionOf factory session state) data).sent =
      (reply state incoming).map (messageOf json session) := by
  cases incoming with
  | offer =>
      obtain ⟨text, carries⟩ := carries
      rw [connectionOf, sent_on_message_offer carries factory isUtf8 areUtf8]
      simp [reply, messageOf]
  | answer =>
      obtain ⟨text, carries⟩ := carries
      rw [connectionOf, sent_on_message_answer carries factory _ areUtf8]
      simp [reply, messageOf]
  | candidate =>
      obtain ⟨candidate, carries⟩ := carries
      exact sent_on_message_candidate carries _
  | undefined =>
      rw [on_message_nothing carries]
      rfl

/-- Not interrupted, the statements of the threads are the scripts: a whole
message, and the offer of the signalling thread, put the same texts on an open
websocket. -/
theorem uninterrupted_run_is_script (json : Codec) (factory : CandidateFactory Candidate)
    (session : Session) (state : State IceCandidate) (installs : Bool)
    (isUtf8 : IsUtf8 (session.sdp state.created))
    (areUtf8 : ∀ gathered ∈ state.iceArray, IceIsUtf8 gathered.candidate) :
    (∀ incoming data, Carries json data incoming → state.message = .idle →
      state.websocketClosed = false →
        ∃ next, replay step state (handle installs state.iceArray.length incoming) = some next ∧
          next.message = .idle ∧
          next.sent.map (messageOf json session) = state.sent.map (messageOf json session) ++
            (onMessage json (connectionOf factory session state) data).sent) ∧
      (state.handler = .getSdp →
        ∃ next, replay step state [.getSdp installs, .sendOffer] = some next ∧
          next.sent.map (messageOf json session) = state.sent.map (messageOf json session) ++
            if state.websocketClosed then []
            else (signalingHandler json (connectionOf factory session state)).sent) := by
  refine ⟨?_, ?_⟩
  · intro incoming data carries idle connected
    obtain ⟨next, run, ends, sent⟩ := replay_handle installs incoming idle connected
    refine ⟨next, run, ends, ?_⟩
    rw [sent, List.map_append,
      sent_on_message_reply factory carries isUtf8 (by simpa using areUtf8)]
  · intro stands
    refine ⟨({ state.create installs with handler := .sendOffer state.created }).sendFromHandler
      (.description .offer state.created) .settle, ?_, ?_⟩
    · simp [replay, step, stepHandler, stands]
    · cases closed : state.websocketClosed with
      | true => simp [State.sendFromHandler, State.create, closed]
      | false =>
          rw [connectionOf, sent_signaling_handler json factory isUtf8]
          simp [State.sendFromHandler, State.create, closed, messageOf]

def waitingForAnswer : State IceCandidate :=
  { (initial true) with
    dataChannelOpen := true, created := 1, localDescription := some 0
    iceArray := [⟨escapedIce, 0⟩], gathered := [⟨escapedIce, 0⟩]
    sent := [.kind, .description .offer 0], handler := .settle }

theorem answer_handled_in_a_row :
    ∃ next, replay step waitingForAnswer (handle true 1 .answer) = some next ∧
      next.message = .idle ∧
      next.sent.map (messageOf PythonJsonLoads.standard lineSession) =
        waitingForAnswer.sent.map (messageOf PythonJsonLoads.standard lineSession) ++
          (onMessage PythonJsonLoads.standard
            (connectionOf IceInformation.acceptAll lineSession waitingForAnswer)
            (sdpMessage PythonJsonLoads.standard .answer lineSdp)).sent := by
  have isUtf8 : IsUtf8 lineSdp := Utf8.is_utf8_encode _
  have areUtf8 : ∀ gathered ∈ waitingForAnswer.iceArray, IceIsUtf8 gathered.candidate := by
    simpa [waitingForAnswer] using escaped_ice_is_utf8
  exact (uninterrupted_run_is_script PythonJsonLoads.standard IceInformation.acceptAll lineSession
    waitingForAnswer true isUtf8 areUtf8).1 .answer _
    ⟨_, carries_sdp_message _ .answer isUtf8 (by decide)⟩ rfl rfl

end PyWebRTC.SessionRelay
