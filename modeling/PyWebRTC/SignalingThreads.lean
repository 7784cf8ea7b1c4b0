import PyWebRTC.ActionRuns
import PyWebRTC.SessionDescription
import Mathlib.Tactic.SplitIfs

/-!
# Two threads on one websocket

The signalling thread runs `_signaling_handler`; the websocket thread runs
`_on_message` for one incoming message after the other. Both make local
descriptions and send them, in separate steps, and only the websocket thread
fetches the candidates that `OnIceCandidate` pushes on a thread of WebRTC. A
native call is one step, since it holds the GIL. A request for a description
that fails leaves its caller spinning with the GIL held, and the run ends there.
The connection to the server may be lost at any time; from then on a send raises.
-/

namespace PyWebRTC.SignalingThreads

open SessionDescription (SdpKind)

set_option autoImplicit false

/-- A candidate on its way, with the number of the local description that was
the latest one set when it was gathered. The number is a record. -/
structure Gathered (Candidate : Type*) where
  candidate : Candidate
  under : Nat

/-- What the threads send. Local descriptions are numbered in the order in which
`sessionSuccess` is given them. -/
inductive Outgoing (Candidate : Type*) where
  | kind
  | description (kind : SdpKind) (number : Nat)
  | candidate (gathered : Gathered Candidate)

inductive Incoming where
  | offer
  | answer
  | candidate
  | undefined

inductive HandlerPoint where
  | unstarted
  | sendKind
  | dataChannelOpen
  | compareTimeout
  | addTracks
  | getSdp
  | sendOffer (number : Nat)
  | settle
  | close
  | finished
  | raised

/-- The statements of `_on_message`, with the candidates that its loop has yet to
send. -/
inductive MessagePoint (Candidate : Type*) where
  | idle
  | receiveOffer
  | sendAnswer (number : Nat)
  | receiveAnswer
  | setIceInformation
  | undefinedMessage
  | getIceInformation
  | sendCandidates (first : Gathered Candidate) (rest : List (Gathered Candidate))

/-- `created` counts the local descriptions, and `gathered` records what was
pushed onto `ice_array`. -/
structure State (Candidate : Type*) where
  useVideo : Bool
  handler : HandlerPoint
  timeoutOccurred : Bool
  message : MessagePoint Candidate
  websocketClosed : Bool
  dataChannelOpen : Bool
  created : Nat
  localDescription : Option Nat
  iceArray : List (Gathered Candidate)
  sent : List (Outgoing Candidate)
  gathered : List (Gathered Candidate)

/-- `installs` tells whether `SetLocalDescription` accepts the description that
`sessionSuccess` gives it. -/
inductive Action (Candidate : Type*) where
  | onOpen
  | sendKind
  | channelFoundOpen
  | channelNotOpen
  | timeoutNotExceeded
  | timeoutExceeded
  | addTracks
  | getSdp (installs : Bool)
  | sendOffer
  | settle
  | close
  | onMessage (incoming : Incoming)
  | receiveOffer (installs : Bool)
  | sendAnswer
  | receiveAnswer
  | setIceInformation
  | undefinedMessage
  | getIceInformation
  | sendCandidate
  | onIceCandidate (candidate : Candidate)
  | onStateChange (channelOpen : Bool)
  | connectionLost

variable {Candidate : Type*}

def initial (useVideo : Bool) : State Candidate where
  useVideo := useVideo
  handler := .unstarted
  timeoutOccurred := false
  message := .idle
  websocketClosed := false
  dataChannelOpen := false
  created := 0
  localDescription := none
  iceArray := []
  sent := []
  gathered := []

/-- `sessionSuccess` is given the next local description. -/
def State.create (state : State Candidate) (installs : Bool) : State Candidate :=
  { state with
    created := state.created + 1
    localDescription := if installs then some state.created else state.localDescription }

def messageStart : Incoming → MessagePoint Candidate
  | .offer => .receiveOffer
  | .answer => .receiveAnswer
  | .candidate => .setIceInformation
  | .undefined => .undefinedMessage

def candidateLoop : List (Gathered Candidate) → MessagePoint Candidate
  | [] => .idle
  | first :: rest => .sendCandidates first rest

/-- The candidates that a turn of `_send_candidate_information` has fetched and
not sent. -/
def unsent : MessagePoint Candidate → List (Gathered Candidate)
  | .sendCandidates first rest => first :: rest
  | _ => []

/-- `ws.send` in a handler of the websocket thread: on a closed websocket it
raises, which ends the handler. -/
def State.sendOn (state : State Candidate) (outgoing : Outgoing Candidate)
    (after : MessagePoint Candidate) : State Candidate :=
  if state.websocketClosed then { state with message := .idle }
  else { state with sent := state.sent ++ [outgoing], message := after }

/-- `ws.send` in the signalling thread, where an exception ends the thread. -/
def State.sendFromHandler (state : State Candidate) (outgoing : Outgoing Candidate)
    (after : HandlerPoint) : State Candidate :=
  if state.websocketClosed then { state with handler := .raised }
  else { state with sent := state.sent ++ [outgoing], handler := after }

def stepHandler (state : State Candidate) : Action Candidate → Option (State Candidate)
  | .onOpen =>
      match state.handler, state.websocketClosed with
      | .unstarted, false => some { state with handler := .sendKind }
      | _, _ => none
  | .sendKind =>
      match state.handler with
      | .sendKind => some (state.sendFromHandler .kind .dataChannelOpen)
      | _ => none
  | .channelFoundOpen =>
      match state.handler, state.dataChannelOpen with
      | .dataChannelOpen, true =>
          some { state with handler := if state.useVideo then .addTracks else .settle }
      | _, _ => none
  | .channelNotOpen =>
      match state.handler, state.dataChannelOpen with
      | .dataChannelOpen, false => some { state with handler := .compareTimeout }
      | _, _ => none
  | .timeoutNotExceeded =>
      match state.handler with
      | .compareTimeout => some { state with handler := .dataChannelOpen }
      | _ => none
  | .timeoutExceeded =>
      match state.handler with
      | .compareTimeout =>
          some { state with timeoutOccurred := true, websocketClosed := true, handler := .finished }
      | _ => none
  | .addTracks =>
      match state.handler with
      | .addTracks => some { state with handler := .getSdp }
      | _ => none
  | .getSdp installs =>
      match state.handler with
      | .getSdp => some { state.create installs with handler := .sendOffer state.created }
      | _ => none
  | .sendOffer =>
      match state.handler with
      | .sendOffer number => some (state.sendFromHandler (.description .offer number) .settle)
      | _ => none
  | .settle =>
      match state.handler with
      | .settle => some { state with handler := .close }
      | _ => none
  | .close =>
      match state.handler with
      | .close => some { state with websocketClosed := true, handler := .finished }
      | _ => none
  | _ => none

def stepMessage (state : State Candidate) : Action Candidate → Option (State Candidate)
  | .onMessage incoming =>
      match state.message, state.websocketClosed with
      | .idle, false => some { state with message := messageStart incoming }
      | _, _ => none
  | .receiveOffer installs =>
      match state.message with
      | .receiveOffer => some { state.create installs with message := .sendAnswer state.created }
      | _ => none
  | .sendAnswer =>
      match state.message with
      | .sendAnswer number => some (state.sendOn (.description .answer number) .getIceInformation)
      | _ => none
  | .receiveAnswer =>
      match state.message with
      | .receiveAnswer => some { state with message := .getIceInformation }
      | _ => none
  | .setIceInformation =>
      match state.message with
      | .setIceInformation => some { state with message := .idle }
      | _ => none
  | .undefinedMessage =>
      match state.message with
      | .undefinedMessage => some { state with message := .idle }
      | _ => none
  | .getIceInformation =>
      match state.message with
      | .getIceInformation =>
          some { state with iceArray := [], message := candidateLoop state.iceArray }
      | _ => none
  | .sendCandidate =>
      match state.message with
      | .sendCandidates first rest => some (state.sendOn (.candidate first) (candidateLoop rest))
      | _ => none
  | _ => none

def step (state : State Candidate) (action : Action Candidate) : Option (State Candidate) :=
  match action with
  | .onIceCandidate candidate =>
      -- WebRTC gathers once a local description is set
      state.localDescription.map fun under =>
        { state with
          iceArray := state.iceArray ++ [⟨candidate, under⟩]
          gathered := state.gathered ++ [⟨candidate, under⟩] }
  | .onStateChange channelOpen => some { state with dataChannelOpen := channelOpen }
  | .connectionLost =>
      if state.websocketClosed then none else some { state with websocketClosed := true }
  | .onOpen | .sendKind | .channelFoundOpen | .channelNotOpen | .timeoutNotExceeded
  | .timeoutExceeded | .addTracks | .getSdp _ | .sendOffer | .settle | .close =>
      stepHandler state action
  | .onMessage _ | .receiveOffer _ | .sendAnswer | .receiveAnswer | .setIceInformation
  | .undefinedMessage | .getIceInformation | .sendCandidate => stepMessage state action

theorem unsent_candidate_loop (fetched : List (Gathered Candidate)) :
    unsent (candidateLoop fetched) = fetched := by
  cases fetched <;> rfl

theorem send_on_gathered (state : State Candidate) (outgoing : Outgoing Candidate)
    (after : MessagePoint Candidate) :
    (state.sendOn outgoing after).gathered = state.gathered := by
  unfold State.sendOn
  split <;> rfl

theorem send_on_handler (state : State Candidate) (outgoing : Outgoing Candidate)
    (after : MessagePoint Candidate) :
    (state.sendOn outgoing after).handler = state.handler := by
  unfold State.sendOn
  split <;> rfl

theorem send_on_websocket (state : State Candidate) (outgoing : Outgoing Candidate)
    (after : MessagePoint Candidate) :
    (state.sendOn outgoing after).websocketClosed = state.websocketClosed := by
  unfold State.sendOn
  split <;> rfl

theorem send_on_connected {state : State Candidate} (connected : state.websocketClosed = false)
    (outgoing : Outgoing Candidate) (after : MessagePoint Candidate) :
    state.sendOn outgoing after =
      { state with sent := state.sent ++ [outgoing], message := after } := by
  rw [State.sendOn, if_neg (by simp [connected])]

theorem send_on_closed {state : State Candidate} (closed : state.websocketClosed = true)
    (outgoing : Outgoing Candidate) (after : MessagePoint Candidate) :
    state.sendOn outgoing after = { state with message := .idle } := by
  rw [State.sendOn, if_pos closed]

theorem send_from_handler_gathered (state : State Candidate) (outgoing : Outgoing Candidate)
    (after : HandlerPoint) :
    (state.sendFromHandler outgoing after).gathered = state.gathered := by
  unfold State.sendFromHandler
  split <;> rfl

theorem send_from_handler_connected {state : State Candidate}
    (connected : state.websocketClosed = false) (outgoing : Outgoing Candidate)
    (after : HandlerPoint) :
    state.sendFromHandler outgoing after =
      { state with sent := state.sent ++ [outgoing], handler := after } := by
  rw [State.sendFromHandler, if_neg (by simp [connected])]

/-- Everything a step can do, one case for each statement. -/
inductive Transition (state : State Candidate) : Action Candidate → State Candidate → Prop where
  | onOpen (stands : state.handler = .unstarted) (connected : state.websocketClosed = false) :
      Transition state .onOpen { state with handler := .sendKind }
  | sendKind (stands : state.handler = .sendKind) :
      Transition state .sendKind (state.sendFromHandler .kind .dataChannelOpen)
  | channelFoundOpen (stands : state.handler = .dataChannelOpen)
      (channelOpen : state.dataChannelOpen = true) :
      Transition state .channelFoundOpen
        { state with handler := if state.useVideo then .addTracks else .settle }
  | channelNotOpen (stands : state.handler = .dataChannelOpen)
      (channelClosed : state.dataChannelOpen = false) :
      Transition state .channelNotOpen { state with handler := .compareTimeout }
  | timeoutNotExceeded (stands : state.handler = .compareTimeout) :
      Transition state .timeoutNotExceeded { state with handler := .dataChannelOpen }
  | timeoutExceeded (stands : state.handler = .compareTimeout) :
      Transition state .timeoutExceeded
        { state with timeoutOccurred := true, websocketClosed := true, handler := .finished }
  | addTracks (stands : state.handler = .addTracks) :
      Transition state .addTracks { state with handler := .getSdp }
  | getSdp (installs : Bool) (stands : state.handler = .getSdp) :
      Transition state (.getSdp installs)
        { state.create installs with handler := .sendOffer state.created }
  | sendOffer (number : Nat) (stands : state.handler = .sendOffer number) :
      Transition state .sendOffer (state.sendFromHandler (.description .offer number) .settle)
  | settle (stands : state.handler = .settle) :
      Transition state .settle { state with handler := .close }
  | close (stands : state.handler = .close) :
      Transition state .close { state with websocketClosed := true, handler := .finished }
  | onMessage (incoming : Incoming) (stands : state.message = .idle)
      (connected : state.websocketClosed = false) :
      Transition state (.onMessage incoming) { state with message := messageStart incoming }
  | receiveOffer (installs : Bool) (stands : state.message = .receiveOffer) :
      Transition state (.receiveOffer installs)
        { state.create installs with message := .sendAnswer state.created }
  | sendAnswer (number : Nat) (stands : state.message = .sendAnswer number) :
      Transition state .sendAnswer
        (state.sendOn (.description .answer number) .getIceInformation)
  | receiveAnswer (stands : state.message = .receiveAnswer) :
      Transition state .receiveAnswer { state with message := .getIceInformation }
  | setIceInformation (stands : state.message = .setIceInformation) :
      Transition state .setIceInformation { state with message := .idle }
  | undefinedMessage (stands : state.message = .undefinedMessage) :
      Transition state .undefinedMessage { state with message := .idle }
  | getIceInformation (stands : state.message = .getIceInformation) :
      Transition state .getIceInformation
        { state with iceArray := [], message := candidateLoop state.iceArray }
  | sendCandidate (first : Gathered Candidate) (rest : List (Gathered Candidate))
      (stands : state.message = .sendCandidates first rest) :
      Transition state .sendCandidate (state.sendOn (.candidate first) (candidateLoop rest))
  | onIceCandidate (candidate : Candidate) (under : Nat)
      (installed : state.localDescription = some under) :
      Transition state (.onIceCandidate candidate)
        { state with
          iceArray := state.iceArray ++ [⟨candidate, under⟩]
          gathered := state.gathered ++ [⟨candidate, under⟩] }
  | onStateChange (channelOpen : Bool) :
      Transition state (.onStateChange channelOpen) { state with dataChannelOpen := channelOpen }
  | connectionLost (connected : state.websocketClosed = false) :
      Transition state .connectionLost { state with websocketClosed := true }

theorem step_handler_cases {state next : State Candidate} {action : Action Candidate}
    (taken : stepHandler state action = some next) : Transition state action next := by
  unfold stepHandler at taken
  split at taken
  case h_1 =>
      split at taken
      · next stands connected => exact Option.some.inj taken ▸ .onOpen stands connected
      · contradiction
  case h_2 =>
      split at taken
      · next stands => exact Option.some.inj taken ▸ .sendKind stands
      · contradiction
  case h_3 =>
      split at taken
      · next stands channelOpen => exact Option.some.inj taken ▸ .channelFoundOpen stands channelOpen
      · contradiction
  case h_4 =>
      split at taken
      · next stands channelClosed =>
          exact Option.some.inj taken ▸ .channelNotOpen stands channelClosed
      · contradiction
  case h_5 =>
      split at taken
      · next stands => exact Option.some.inj taken ▸ .timeoutNotExceeded stands
      · contradiction
  case h_6 =>
      split at taken
      · next stands => exact Option.some.inj taken ▸ .timeoutExceeded stands
      · contradiction
  case h_7 =>
      split at taken
      · next stands => exact Option.some.inj taken ▸ .addTracks stands
      · contradiction
  case h_8 installs =>
      split at taken
      · next stands => exact Option.some.inj taken ▸ .getSdp installs stands
      · contradiction
  case h_9 =>
      split at taken
      · next number stands => exact Option.some.inj taken ▸ .sendOffer number stands
      · contradiction
  case h_10 =>
      split at taken
      · next stands => exact Option.some.inj taken ▸ .settle stands
      · contradiction
  case h_11 =>
      split at taken
      · next stands => exact Option.some.inj taken ▸ .close stands
      · contradiction
  case h_12 => contradiction

theorem step_message_cases {state next : State Candidate} {action : Action Candidate}
    (taken : stepMessage state action = some next) : Transition state action next := by
  unfold stepMessage at taken
  split at taken
  case h_1 incoming =>
      split at taken
      · next stands connected => exact Option.some.inj taken ▸ .onMessage incoming stands connected
      · contradiction
  case h_2 installs =>
      split at taken
      · next stands => exact Option.some.inj taken ▸ .receiveOffer installs stands
      · contradiction
  case h_3 =>
      split at taken
      · next number stands => exact Option.some.inj taken ▸ .sendAnswer number stands
      · contradiction
  case h_4 =>
      split at taken
      · next stands => exact Option.some.inj taken ▸ .receiveAnswer stands
      · contradiction
  case h_5 =>
      split at taken
      · next stands => exact Option.some.inj taken ▸ .setIceInformation stands
      · contradiction
  case h_6 =>
      split at taken
      · next stands => exact Option.some.inj taken ▸ .undefinedMessage stands
      · contradiction
  case h_7 =>
      split at taken
      · next stands => exact Option.some.inj taken ▸ .getIceInformation stands
      · contradiction
  case h_8 =>
      split at taken
      · next first rest stands => exact Option.some.inj taken ▸ .sendCandidate first rest stands
      · contradiction
  case h_9 => contradiction

theorem step_cases {state next : State Candidate} {action : Action Candidate}
    (taken : step state action = some next) : Transition state action next := by
  cases action with
  | onIceCandidate candidate =>
      obtain ⟨under, installed, rfl⟩ := Option.map_eq_some_iff.mp taken
      exact .onIceCandidate candidate under installed
  | onStateChange channelOpen => exact Option.some.inj taken ▸ .onStateChange channelOpen
  | connectionLost =>
      simp only [step] at taken
      split_ifs at taken with closed
      exact Option.some.inj taken ▸ .connectionLost (by simpa using closed)
  | onOpen | sendKind | channelFoundOpen | channelNotOpen | timeoutNotExceeded | timeoutExceeded
  | addTracks | getSdp | sendOffer | settle | close => exact step_handler_cases taken
  | onMessage | receiveOffer | sendAnswer | receiveAnswer | setIceInformation | undefinedMessage
  | getIceInformation | sendCandidate => exact step_message_cases taken

end PyWebRTC.SignalingThreads
