import PyWebRTC.DataChannelFlag
import Mathlib.Logic.Function.Basic
import Mathlib.Tactic.SplitIfs

/-!
# The receive buffer and its condition variable

`getDataBuffer` run by any number of reader threads, against the one WebRTC
thread that runs `OnMessage` and `OnStateChange`. Every statement that another
thread can observe is a step of its own: the lock, the evaluation of the wait
predicate, the sleep that releases the mutex, each turn of the copy loop, the
reset of the buffer, the unlock, and on the other side the push, the store to
`data_channel_open` and `notify_all`.

The three last fields of a state are not program state. They record what the
readers drained, what their calls returned, and what was pushed.
-/

namespace PyWebRTC.DataBuffer

open DataChannelFlag (DataState)

set_option autoImplicit false

variable {Reader Message : Type*}

/-- Where a reader stands inside `getDataBuffer`. `predicateOpen` is the value
of `data_channel_open` that the wait predicate loaded when it let the reader
through; `messages` is the local vector. -/
inductive ReaderPoint (Message : Type*) where
  | outside
  | lock
  | predicate
  | block
  | asleep
  | relock
  | copy (predicateOpen : Bool) (messages : List Message)
  | reset (predicateOpen : Bool) (messages : List Message)
  | unlock (messages : List Message)
  | finish (messages : List Message)
  deriving DecidableEq

/-- Where the WebRTC thread stands. `stateStore` is `OnStateChange` after it
read `data_channel->state()`. -/
inductive CallbackPoint (Message : Type*) where
  | idle
  | messageLock (message : Message)
  | messagePush (message : Message)
  | messageUnlock
  | messageNotify
  | stateStore (state : DataState)
  | stateNotify
  deriving DecidableEq

inductive Holder (Reader : Type*) where
  | reader (reader : Reader)
  | callback
  deriving DecidableEq

/-- One emptying of the buffer: who, what, and the value of the open flag that
let the reader through its wait. -/
structure Drain (Reader Message : Type*) where
  reader : Reader
  messages : List Message
  predicateOpen : Bool

structure State (Reader Message : Type*) where
  dataBuffer : List Message
  dataBufferMutex : Option (Holder Reader)
  dataChannelOpen : Bool
  readers : Reader → ReaderPoint Message
  callback : CallbackPoint Message
  drains : List (Drain Reader Message)
  returned : Reader → List (List Message)
  pushed : List Message

inductive Action (Reader Message : Type*) where
  | getDataBuffer (reader : Reader)
  | advanceReader (reader : Reader)
  | spuriousWakeup (reader : Reader)
  | onMessage (message : Message)
  | onStateChange (state : DataState)
  | advanceCallback

def initial : State Reader Message where
  dataBuffer := []
  dataBufferMutex := none
  dataChannelOpen := false
  readers := fun _ => .outside
  callback := .idle
  drains := []
  returned := fun _ => []
  pushed := []

def wakePredicate (state : State Reader Message) : Bool :=
  !state.dataChannelOpen || !state.dataBuffer.isEmpty

/-- `notify_all` wakes the readers that are asleep, and no others. -/
def notifyAll (readers : Reader → ReaderPoint Message) : Reader → ReaderPoint Message :=
  fun reader => match readers reader with
    | .asleep => .relock
    | point => point

variable [DecidableEq Reader]

def State.moveReader (state : State Reader Message) (reader : Reader)
    (point : ReaderPoint Message) : State Reader Message :=
  { state with readers := Function.update state.readers reader point }

def advanceReader (state : State Reader Message) (reader : Reader) :
    Option (State Reader Message) :=
  match state.readers reader with
  | .outside => none
  | .lock | .relock =>
      if state.dataBufferMutex = none then
        some ({ state with dataBufferMutex := some (.reader reader) }.moveReader reader .predicate)
      else none
  | .predicate =>
      if wakePredicate state then
        some (state.moveReader reader (.copy state.dataChannelOpen []))
      else some (state.moveReader reader .block)
  | .block => some ({ state with dataBufferMutex := none }.moveReader reader .asleep)
  | .asleep => none
  | .copy predicateOpen messages =>
      match state.dataBuffer[messages.length]? with
      | some message =>
          some (state.moveReader reader (.copy predicateOpen (messages ++ [message])))
      | none => some (state.moveReader reader (.reset predicateOpen messages))
  | .reset predicateOpen messages =>
      some ({ state with
        dataBuffer := []
        drains := state.drains ++ [Drain.mk reader messages predicateOpen] }.moveReader reader
          (.unlock messages))
  | .unlock messages =>
      some ({ state with dataBufferMutex := none }.moveReader reader (.finish messages))
  | .finish messages =>
      some ({ state with
        returned := Function.update state.returned reader
          (state.returned reader ++ [messages]) }.moveReader reader .outside)

/-- The next statement of the callback that the WebRTC thread is running. The
store to `data_channel_open` takes no lock. -/
def advanceCallback (state : State Reader Message) : Option (State Reader Message) :=
  match state.callback with
  | .idle => none
  | .messageLock message =>
      if state.dataBufferMutex = none then
        some { state with dataBufferMutex := some .callback, callback := .messagePush message }
      else none
  | .messagePush message =>
      some { state with
        dataBuffer := state.dataBuffer ++ [message]
        pushed := state.pushed ++ [message]
        callback := .messageUnlock }
  | .messageUnlock => some { state with dataBufferMutex := none, callback := .messageNotify }
  | .messageNotify => some { state with readers := notifyAll state.readers, callback := .idle }
  | .stateStore .kOpen => some { state with dataChannelOpen := true, callback := .idle }
  | .stateStore .kClosed => some { state with dataChannelOpen := false, callback := .stateNotify }
  | .stateStore .kConnecting | .stateStore .kClosing => some { state with callback := .idle }
  | .stateNotify => some { state with readers := notifyAll state.readers, callback := .idle }

def step (state : State Reader Message) : Action Reader Message → Option (State Reader Message)
  | .getDataBuffer reader =>
      match state.readers reader with
      | .outside => some (state.moveReader reader .lock)
      | _ => none
  | .advanceReader reader => advanceReader state reader
  | .spuriousWakeup reader =>
      match state.readers reader with
      | .asleep => some (state.moveReader reader .relock)
      | _ => none
  | .onMessage message =>
      match state.callback with
      | .idle => some { state with callback := .messageLock message }
      | _ => none
  | .onStateChange channelState =>
      match state.callback with
      | .idle => some { state with callback := .stateStore channelState }
      | _ => none
  | .advanceCallback => advanceCallback state

/-- Everything a step can do, one case for each statement of the source. -/
inductive Transition (state : State Reader Message) :
    Action Reader Message → State Reader Message → Prop where
  | enter (reader : Reader) (stands : state.readers reader = .outside) :
      Transition state (.getDataBuffer reader) (state.moveReader reader .lock)
  | acquire (reader : Reader)
      (stands : state.readers reader = .lock ∨ state.readers reader = .relock)
      (free : state.dataBufferMutex = none) :
      Transition state (.advanceReader reader)
        ({ state with dataBufferMutex := some (.reader reader) }.moveReader reader .predicate)
  | pass (reader : Reader) (stands : state.readers reader = .predicate)
      (wakes : wakePredicate state = true) :
      Transition state (.advanceReader reader)
        (state.moveReader reader (.copy state.dataChannelOpen []))
  | refuse (reader : Reader) (stands : state.readers reader = .predicate)
      (sleeps : wakePredicate state = false) :
      Transition state (.advanceReader reader) (state.moveReader reader .block)
  | sleep (reader : Reader) (stands : state.readers reader = .block) :
      Transition state (.advanceReader reader)
        ({ state with dataBufferMutex := none }.moveReader reader .asleep)
  | copyOne (reader : Reader) (predicateOpen : Bool) (messages : List Message) (message : Message)
      (stands : state.readers reader = .copy predicateOpen messages)
      (next : state.dataBuffer[messages.length]? = some message) :
      Transition state (.advanceReader reader)
        (state.moveReader reader (.copy predicateOpen (messages ++ [message])))
  | copyEnd (reader : Reader) (predicateOpen : Bool) (messages : List Message)
      (stands : state.readers reader = .copy predicateOpen messages)
      (next : state.dataBuffer[messages.length]? = none) :
      Transition state (.advanceReader reader)
        (state.moveReader reader (.reset predicateOpen messages))
  | drain (reader : Reader) (predicateOpen : Bool) (messages : List Message)
      (stands : state.readers reader = .reset predicateOpen messages) :
      Transition state (.advanceReader reader)
        ({ state with
          dataBuffer := []
          drains := state.drains ++ [Drain.mk reader messages predicateOpen] }.moveReader reader
            (.unlock messages))
  | release (reader : Reader) (messages : List Message)
      (stands : state.readers reader = .unlock messages) :
      Transition state (.advanceReader reader)
        ({ state with dataBufferMutex := none }.moveReader reader (.finish messages))
  | deliver (reader : Reader) (messages : List Message)
      (stands : state.readers reader = .finish messages) :
      Transition state (.advanceReader reader)
        ({ state with
          returned := Function.update state.returned reader
            (state.returned reader ++ [messages]) }.moveReader reader .outside)
  | wake (reader : Reader) (stands : state.readers reader = .asleep) :
      Transition state (.spuriousWakeup reader) (state.moveReader reader .relock)
  | messageStart (message : Message) (stands : state.callback = .idle) :
      Transition state (.onMessage message) { state with callback := .messageLock message }
  | messageAcquire (message : Message) (stands : state.callback = .messageLock message)
      (free : state.dataBufferMutex = none) :
      Transition state .advanceCallback
        { state with dataBufferMutex := some .callback, callback := .messagePush message }
  | messagePush (message : Message) (stands : state.callback = .messagePush message) :
      Transition state .advanceCallback
        { state with
          dataBuffer := state.dataBuffer ++ [message]
          pushed := state.pushed ++ [message]
          callback := .messageUnlock }
  | messageRelease (stands : state.callback = .messageUnlock) :
      Transition state .advanceCallback
        { state with dataBufferMutex := none, callback := .messageNotify }
  | notify (stands : state.callback = .messageNotify ∨ state.callback = .stateNotify) :
      Transition state .advanceCallback
        { state with readers := notifyAll state.readers, callback := .idle }
  | stateStart (channelState : DataState) (stands : state.callback = .idle) :
      Transition state (.onStateChange channelState)
        { state with callback := .stateStore channelState }
  | storeOpen (stands : state.callback = .stateStore .kOpen) :
      Transition state .advanceCallback { state with dataChannelOpen := true, callback := .idle }
  | storeClosed (stands : state.callback = .stateStore .kClosed) :
      Transition state .advanceCallback
        { state with dataChannelOpen := false, callback := .stateNotify }
  | ignore (channelState : DataState) (stands : state.callback = .stateStore channelState)
      (other : channelState = .kConnecting ∨ channelState = .kClosing) :
      Transition state .advanceCallback { state with callback := .idle }

theorem advance_reader_cases {state next : State Reader Message} {reader : Reader}
    (taken : advanceReader state reader = some next) :
    Transition state (.advanceReader reader) next := by
  unfold advanceReader at taken
  split at taken
  case h_1 => contradiction
  case h_2 stands =>
      split_ifs at taken with free
      exact Option.some.inj taken ▸ .acquire reader (.inl stands) free
  case h_3 stands =>
      split_ifs at taken with free
      exact Option.some.inj taken ▸ .acquire reader (.inr stands) free
  case h_4 stands =>
      split_ifs at taken with wakes
      · exact Option.some.inj taken ▸ .pass reader stands wakes
      · exact Option.some.inj taken ▸ .refuse reader stands (by simpa using wakes)
  case h_5 stands => exact Option.some.inj taken ▸ .sleep reader stands
  case h_6 => contradiction
  case h_7 predicateOpen messages stands =>
      split at taken
      · next message found =>
          exact Option.some.inj taken ▸ .copyOne reader predicateOpen messages message stands found
      · next ended =>
          exact Option.some.inj taken ▸ .copyEnd reader predicateOpen messages stands ended
  case h_8 predicateOpen messages stands =>
      exact Option.some.inj taken ▸ .drain reader predicateOpen messages stands
  case h_9 messages stands => exact Option.some.inj taken ▸ .release reader messages stands
  case h_10 messages stands => exact Option.some.inj taken ▸ .deliver reader messages stands

theorem advance_callback_cases {state next : State Reader Message}
    (taken : advanceCallback state = some next) : Transition state .advanceCallback next := by
  unfold advanceCallback at taken
  split at taken
  case h_1 => contradiction
  case h_2 message stands =>
      split_ifs at taken with free
      exact Option.some.inj taken ▸ .messageAcquire message stands free
  case h_3 message stands => exact Option.some.inj taken ▸ .messagePush message stands
  case h_4 stands => exact Option.some.inj taken ▸ .messageRelease stands
  case h_5 stands => exact Option.some.inj taken ▸ .notify (.inl stands)
  case h_6 stands => exact Option.some.inj taken ▸ .storeOpen stands
  case h_7 stands => exact Option.some.inj taken ▸ .storeClosed stands
  case h_8 stands => exact Option.some.inj taken ▸ .ignore .kConnecting stands (.inl rfl)
  case h_9 stands => exact Option.some.inj taken ▸ .ignore .kClosing stands (.inr rfl)
  case h_10 stands => exact Option.some.inj taken ▸ .notify (.inr stands)

theorem step_cases {state next : State Reader Message} {action : Action Reader Message}
    (taken : step state action = some next) : Transition state action next := by
  cases action with
  | getDataBuffer reader =>
      simp only [step] at taken
      split at taken
      · next stands => exact Option.some.inj taken ▸ .enter reader stands
      · contradiction
  | advanceReader reader => exact advance_reader_cases taken
  | spuriousWakeup reader =>
      simp only [step] at taken
      split at taken
      · next stands => exact Option.some.inj taken ▸ .wake reader stands
      · contradiction
  | onMessage message =>
      simp only [step] at taken
      split at taken
      · next stands => exact Option.some.inj taken ▸ .messageStart message stands
      · contradiction
  | onStateChange channelState =>
      simp only [step] at taken
      split at taken
      · next stands => exact Option.some.inj taken ▸ .stateStart channelState stands
      · contradiction
  | advanceCallback => exact advance_callback_cases taken

end PyWebRTC.DataBuffer
