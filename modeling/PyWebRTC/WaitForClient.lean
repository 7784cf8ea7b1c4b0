import PyWebRTC.DataChannelFlag

/-!
# `wait_for_client` and the signalling thread

One thread calls `wait_for_client`: it runs the websocket until it is closed,
joins the signalling thread, sets `rtc_connection_ready` and returns
`timeoutOccurred`. The signalling thread is started by the websocket's open
event and runs `_signaling_handler`. A statement of the handler that raises
ends the thread; nothing else notices. A request for a description that WebRTC
fails spins in `get_sdp` with the interpreter lock held, and Python stands still.
-/

namespace PyWebRTC.WaitForClient

set_option autoImplicit false

variable {Channel : Type*}

/-- `exceeds n` is the test `currentSleep > timeout` after `n` additions of
0.1 to `currentSleep`. -/
structure Settings where
  useVideo : Bool
  exceeds : Nat → Bool

/-- The statements of `_signaling_handler`, with the number of sleeps made so
far inside its loop. -/
inductive HandlerPoint where
  | unstarted
  | sendKind
  | dataChannelOpen (sleeps : Nat)
  | sleep (sleeps : Nat)
  | compareTimeout (sleeps : Nat)
  | timeoutOccurred
  | closeOnTimeout
  | addTracks
  | getSDP
  | sendOffer
  | settle
  | close
  | finished
  | raised
  deriving DecidableEq

inductive Websocket where
  | closed
  | connecting
  | connected
  deriving DecidableEq

inductive CallerPoint where
  | outside
  | runForever
  | join
  | assignReady
  | returnResult
  deriving DecidableEq

/-- `frozen` tells that a thread spins in `get_sdp`. The last three fields record
what happened: whether the handler saw the channel open, whether it sent the
offer, and what the calls returned. -/
structure State (Channel : Type*) where
  caller : CallerPoint
  websocket : Websocket
  handler : HandlerPoint
  frozen : Bool
  rtcConnectionReady : Bool
  timeoutOccurred : Bool
  native : DataChannelFlag.State Channel
  observedOpen : Bool
  offerSent : Bool
  results : List Bool

/-- `offerFails` and `answerFails` are `OnFailure` of the request that `getSDP`
makes, and of one for an answer to an incoming offer. -/
inductive Action (Channel : Type*) where
  | waitForClient
  | onOpen
  | onMessage
  | answerFails
  | connectionClosed
  | runForeverReturns
  | join
  | assignReady
  | returnResult
  | advanceHandler
  | raiseInHandler
  | offerFails
  | native (action : DataChannelFlag.Action Channel)

def initial : State Channel where
  caller := .outside
  websocket := .closed
  handler := .unstarted
  frozen := false
  rtcConnectionReady := false
  timeoutOccurred := false
  native := DataChannelFlag.initial
  observedOpen := false
  offerSent := false
  results := []

/-- The next statement of `_signaling_handler`, taken without an exception. A
send needs the websocket connected. -/
def advanceHandler (settings : Settings) (state : State Channel) : Option (State Channel) :=
  match state.handler with
  | .unstarted | .finished | .raised => none
  | .sendKind =>
      if state.websocket = .connected then some { state with handler := .dataChannelOpen 0 }
      else none
  | .dataChannelOpen sleeps =>
      if state.native.dataChannelOpen then
        some { state with
          handler := if settings.useVideo then .addTracks else .settle
          observedOpen := true }
      else some { state with handler := .sleep sleeps }
  | .sleep sleeps => some { state with handler := .compareTimeout (sleeps + 1) }
  | .compareTimeout sleeps =>
      if settings.exceeds sleeps then some { state with handler := .timeoutOccurred }
      else some { state with handler := .dataChannelOpen sleeps }
  | .timeoutOccurred => some { state with handler := .closeOnTimeout, timeoutOccurred := true }
  | .closeOnTimeout | .close => some { state with handler := .finished, websocket := .closed }
  | .addTracks => some { state with handler := .getSDP }
  | .getSDP => some { state with handler := .sendOffer }
  | .sendOffer =>
      if state.websocket = .connected then
        some { state with handler := .settle, offerSent := true }
      else none
  | .settle => some { state with handler := .close }

/-- The statements that may raise: a send, above all on a websocket that is not
connected, and the two native calls, with text Python cannot convert. -/
def raiseInHandler (state : State Channel) : Option (State Channel) :=
  match state.handler with
  | .sendKind | .addTracks | .getSDP | .sendOffer => some { state with handler := .raised }
  | _ => none

/-- The websocket's open event starts the thread. Starting it a second time
raises inside the websocket's callback, which reports it and goes on. -/
def onOpen (state : State Channel) : Option (State Channel) :=
  if state.websocket = .connecting then
    some { state with
      websocket := .connected
      handler := if state.handler = .unstarted then .sendKind else state.handler }
  else none

/-- Joining waits for the thread's end, and raises out of `wait_for_client` when
the thread was never started. -/
def join (state : State Channel) : Option (State Channel) :=
  if state.caller = .join then
    match state.handler with
    | .unstarted => some { state with caller := .outside }
    | .finished | .raised => some { state with caller := .assignReady }
    | _ => none
  else none

def Action.needsLock : Action Channel → Bool
  | .connectionClosed | .native _ => false
  | _ => true

def perform [DecidableEq Channel] (settings : Settings) (state : State Channel) :
    Action Channel → Option (State Channel)
  | .waitForClient =>
      if state.caller = .outside then
        some { state with caller := .runForever, websocket := .connecting }
      else none
  | .onOpen => onOpen state
  | .onMessage => if state.websocket = .connected then some state else none
  | .answerFails =>
      if state.websocket = .connected then some { state with frozen := true } else none
  | .connectionClosed =>
      if state.websocket = .closed then none else some { state with websocket := .closed }
  | .runForeverReturns =>
      if state.caller = .runForever ∧ state.websocket = .closed then
        some { state with caller := .join }
      else none
  | .join => join state
  | .assignReady =>
      if state.caller = .assignReady then
        some { state with caller := .returnResult, rtcConnectionReady := true }
      else none
  | .returnResult =>
      if state.caller = .returnResult then
        some { state with
          caller := .outside
          results := state.results ++ [state.timeoutOccurred] }
      else none
  | .advanceHandler => advanceHandler settings state
  | .raiseInHandler => raiseInHandler state
  | .offerFails =>
      if state.handler = .getSDP then some { state with frozen := true } else none
  | .native action =>
      (DataChannelFlag.step state.native action).map fun native => { state with native := native }

def step [DecidableEq Channel] (settings : Settings) (state : State Channel)
    (action : Action Channel) : Option (State Channel) :=
  if state.frozen && action.needsLock then none else perform settings state action

theorem perform_of_step [DecidableEq Channel] {settings : Settings} {state next : State Channel}
    {action : Action Channel} (taken : step settings state action = some next) :
    perform settings state action = some next := by
  unfold step at taken
  split at taken
  · contradiction
  · exact taken

inductive SendOutcome (Channel : Type*) where
  | raises
  | dereferencesNull
  | sends (channel : Channel)

/-- `send_message` up to the first use of the channel in `sendString`. -/
def sendMessage (state : State Channel) : SendOutcome Channel :=
  if state.rtcConnectionReady then
    match state.native.dataChannel with
    | some channel => .sends channel
    | none => .dereferencesNull
  else .raises

end PyWebRTC.WaitForClient
