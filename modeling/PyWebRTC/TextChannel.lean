import PyWebRTC.ReadFromDataChannel

/-!
# The text channel between two connections

One side sends Python strings with `send_message`, over a data channel that
moves through its states at any time; the other side reads them with
`receive_messages`. The channel takes a message exactly while it is open, keeps
the order of those it took, and hands them one by one to `OnMessage`. Whether a
call raises is decided in Python; whether the message was taken is decided in
`Send`, whose result `sendString` drops.
-/

namespace PyWebRTC.TextChannel

open DataBuffer ReadFromDataChannel
open DataChannelFlag (DataState)
open PicojsonValue (Bytes)
open Signaling (pyArgString)

set_option autoImplicit false

/-! ## Python strings -/

abbrev CodePoint := Fin 0x110000

/-- A Python string may hold surrogates, which are not characters. -/
abbrev PyStr := List CodePoint

def charOf (point : CodePoint) : Option Char :=
  if valid : point.val.isValidChar then some (Char.ofNatAux point.val valid) else none

def ofChar (c : Char) : CodePoint :=
  ⟨c.toNat, by
    have valid := c.valid
    simp only [UInt32.isValidChar, Nat.isValidChar] at valid
    change c.val.toNat < 0x110000
    omega⟩

def ofText (text : List Char) : PyStr := text.map ofChar

/-- The argument of `sendString`: no bytes where the conversion raises. -/
def sendArgument (message : PyStr) : Option Bytes :=
  (message.mapM charOf).bind fun text => pyArgString (.str text)

theorem char_of_eq_some_iff {point : CodePoint} {c : Char} :
    charOf point = some c ↔ point = ofChar c := by
  constructor
  · intro found
    by_cases valid : point.val.isValidChar
    · rw [charOf, dif_pos valid] at found
      obtain rfl := Option.some.inj found
      rfl
    · rw [charOf, dif_neg valid] at found
      contradiction
  · rintro rfl
    have valid : (ofChar c).val.isValidChar := c.valid
    rw [charOf, dif_pos valid]
    rfl

theorem map_char_of_eq_some_iff {message : PyStr} {text : List Char} :
    message.mapM charOf = some text ↔ message = ofText text := by
  induction message generalizing text with
  | nil => cases text <;> simp [ofText]
  | cons point message ih =>
      cases text with
      | nil => simp [ofText, List.mapM_cons, Option.bind_eq_some_iff]
      | cons c text =>
          simp [ofText, List.mapM_cons, Option.bind_eq_some_iff, char_of_eq_some_iff, ih]

theorem send_argument_eq_some_iff {message : PyStr} {bytes : Bytes} :
    sendArgument message = some bytes ↔
      ∃ text : List Char, '\x00' ∉ text ∧ message = ofText text ∧ bytes = Utf8.encode text := by
  simp only [sendArgument, Option.bind_eq_some_iff, map_char_of_eq_some_iff, pyArgString]
  constructor
  · rintro ⟨text, rfl, argument⟩
    split at argument
    · contradiction
    · next nullFree => exact ⟨text, nullFree, rfl, (Option.some.inj argument).symm⟩
  · rintro ⟨text, nullFree, rfl, rfl⟩
    exact ⟨text, rfl, if_neg nullFree⟩

/-! ## The two sides and the channel -/

structure SendCall where
  message : PyStr
  accepted : Bool
  raised : Bool

/-- `channelState` is the state of the channel on the side of the sender, and
`dataChannel` tells whether the sender has a handle on it. `calls` is a record,
no program state. -/
structure State (Reader : Type*) where
  rtcConnectionReady : Bool
  dataChannel : Bool
  channelState : DataState
  inFlight : List Bytes
  calls : List SendCall
  receiverReady : Bool
  receiver : DataBuffer.State Reader Bytes

inductive Action (Reader : Type*) where
  | waitForClient
  | onDataChannel
  | transition (target : DataState)
  | sendMessage (message : PyStr)
  | deliver
  | receiverWaitForClient
  | receiveMessages (reader : Reader)
  | advanceReader (reader : Reader)
  | spuriousWakeup (reader : Reader)
  | receiverStateChange (state : DataState)
  | advanceCallback

variable {Reader : Type*}

def initial : State Reader where
  rtcConnectionReady := false
  dataChannel := false
  channelState := .kConnecting
  inFlight := []
  calls := []
  receiverReady := false
  receiver := DataBuffer.initial

def send (state : State Reader) (buffer : Bytes) : Bool × State Reader :=
  if state.channelState = .kOpen then
    (true, { state with inFlight := state.inFlight ++ [buffer] })
  else (false, state)

def State.record (state : State Reader) (message : PyStr) (accepted raised : Bool) :
    State Reader :=
  { state with calls := state.calls ++ [⟨message, accepted, raised⟩] }

/-- `send_message`; it does not get past `sendString` without a handle. -/
def sendMessage (state : State Reader) (message : PyStr) : Option (State Reader) :=
  if state.rtcConnectionReady = false then some (state.record message false true)
  else
    match sendArgument message with
    | none => some (state.record message false true)
    | some parameter =>
        if state.dataChannel then
          let (accepted, next) := send state parameter
          some (next.record message accepted false)
        else none

variable [DecidableEq Reader]

def State.receive (state : State Reader) (action : DataBuffer.Action Reader Bytes) :
    Option (State Reader) :=
  (DataBuffer.step state.receiver action).map fun receiver => { state with receiver := receiver }

def step (state : State Reader) : Action Reader → Option (State Reader)
  | .waitForClient => some { state with rtcConnectionReady := true }
  | .onDataChannel => some { state with dataChannel := true }
  | .transition target =>
      if state.channelState.rank < target.rank then some { state with channelState := target }
      else none
  | .sendMessage message => sendMessage state message
  | .deliver =>
      match state.inFlight with
      | [] => none
      | message :: rest => { state with inFlight := rest }.receive (.onMessage message)
  | .receiverWaitForClient => some { state with receiverReady := true }
  | .receiveMessages reader =>
      -- not ready, `receive_messages` raises before it touches the buffer
      if state.receiverReady then state.receive (.getDataBuffer reader) else some state
  | .advanceReader reader => state.receive (.advanceReader reader)
  | .spuriousWakeup reader => state.receive (.spuriousWakeup reader)
  | .receiverStateChange channelState => state.receive (.onStateChange channelState)
  | .advanceCallback => state.receive .advanceCallback

/-! ## What has arrived -/

/-- The message that `OnMessage` has not pushed yet. -/
def pendingMessage {Message : Type*} : CallbackPoint Message → List Message
  | .messageLock message | .messagePush message => [message]
  | _ => []

def arrived {Message : Type*} (receiver : DataBuffer.State Reader Message) : List Message :=
  receiver.pushed ++ pendingMessage receiver.callback

def handedOver {Message : Type*} : DataBuffer.Action Reader Message → List Message
  | .onMessage message => [message]
  | _ => []

theorem arrived_step {Message : Type*} {receiver next : DataBuffer.State Reader Message}
    {action : DataBuffer.Action Reader Message}
    (taken : DataBuffer.step receiver action = some next) :
    arrived next = arrived receiver ++ handedOver action := by
  cases step_cases taken with
  | messageStart message stands => simp [arrived, pendingMessage, handedOver, stands]
  | messagePush message stands => simp [arrived, pendingMessage, handedOver, stands]
  | messageAcquire message stands | messageRelease stands | storeOpen stands
  | storeClosed stands | ignore channelState stands | stateStart channelState stands =>
      simp [arrived, pendingMessage, handedOver, stands]
  | notify stands =>
      rcases stands with stands | stands <;> simp [arrived, pendingMessage, handedOver, stands]
  | enter | acquire | pass | refuse | sleep | copyOne | copyEnd | drain | release | deliver
  | wake => simp [arrived, handedOver, DataBuffer.State.moveReader]

end PyWebRTC.TextChannel
