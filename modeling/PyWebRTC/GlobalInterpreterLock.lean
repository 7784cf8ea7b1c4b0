import PyWebRTC.DataBufferProgress
import PyWebRTC.ForwardSimulation
import PyWebRTC.SessionDescriptionHandOff

/-!
# The binding under the global interpreter lock

Any number of Python threads use one connection. A thread runs Python code only
while it owns the lock. `getSDP` and `receiveOffer` keep the lock for the whole
call; `readFromDataChannel` gives it up around `dataBuffer` and takes it again
before it builds its list. The other methods end without waiting and are part
of running Python code here. The callbacks of WebRTC take no part in the lock.
-/

namespace PyWebRTC.GlobalInterpreterLock

open ActionRuns ForwardSimulation PicojsonValue

set_option autoImplicit false

variable {Thread Message : Type*}

/-- Where a thread is: in Python code, in `get_offer` or `receiveOffer`, in
`dataBuffer`, or at `Py_END_ALLOW_THREADS` behind it. -/
inductive Place where
  | python
  | describing
  | reading
  | restoring
  deriving DecidableEq

structure State (Thread Message : Type*) where
  gil : Option Thread
  place : Thread → Place
  session : SessionDescription.State
  buffer : DataBuffer.State Thread Message

inductive Action (Thread Message : Type*) where
  | acquire (thread : Thread)
  | release (thread : Thread)
  | getSDP (thread : Thread)
  | receiveOffer (thread : Thread)
  | advanceCall (thread : Thread)
  | readFromDataChannel (thread : Thread)
  | advanceReader (thread : Thread)
  | endAllowThreads (thread : Thread)
  | sessionCallback (action : SessionDescription.Action)
  | bufferCallback (action : DataBuffer.Action Thread Message)

def initial : State Thread Message where
  gil := none
  place := fun _ => .python
  session := SessionDescription.initial
  buffer := DataBuffer.initial

def isSessionCallback : SessionDescription.Action → Bool
  | .onSuccess _ _ | .onFailure _ | .advanceCallback | .setDescriptionFailed => true
  | .getOffer | .receiveOffer | .advanceCaller => false

def isBufferCallback : DataBuffer.Action Thread Message → Bool
  | .onMessage _ | .onStateChange _ | .advanceCallback | .spuriousWakeup _ => true
  | .getDataBuffer _ | .advanceReader _ => false

def callReturned (session : SessionDescription.State) : Bool :=
  match session.caller with
  | .idle => true
  | _ => false

def readReturned (buffer : DataBuffer.State Thread Message) (thread : Thread) : Bool :=
  match buffer.readers thread with
  | .outside => true
  | _ => false

/-! ## What the components do -/

theorem caller_of_callback {session next : SessionDescription.State}
    {action : SessionDescription.Action} (isCallback : isSessionCallback action = true)
    (taken : SessionDescription.step session action = some next) :
    next.caller = session.caller := by
  cases action with
  | getOffer | receiveOffer | advanceCaller => simp [isSessionCallback] at isCallback
  | onSuccess number description | onFailure number =>
      simp only [SessionDescription.step] at taken
      split at taken
      case h_2 => contradiction
      case h_1 =>
        split at taken
        case isFalse => contradiction
        case isTrue => exact Option.some.inj taken ▸ rfl
  | advanceCallback =>
      simp only [SessionDescription.step, SessionDescription.advanceCallback] at taken
      split at taken
      case h_1 => contradiction
      all_goals exact Option.some.inj taken ▸ rfl
  | setDescriptionFailed => exact Option.some.inj taken ▸ rfl

theorem request_taken {session next : SessionDescription.State}
    {request : SessionDescription.Action} (isRequest : request = .getOffer ∨ request = .receiveOffer)
    (taken : SessionDescription.step session request = some next) :
    callReturned session = true ∧ callReturned next = false := by
  rcases isRequest with rfl | rfl
  all_goals
    simp only [SessionDescription.step] at taken
    split at taken
    case h_1 idle =>
      obtain rfl := Option.some.inj taken
      exact ⟨by simp [callReturned, idle], rfl⟩
    case h_2 => contradiction

theorem request_possible {session : SessionDescription.State}
    {request : SessionDescription.Action} (isRequest : request = .getOffer ∨ request = .receiveOffer)
    (returned : callReturned session = true) :
    (SessionDescription.step session request).isSome = true := by
  unfold callReturned at returned
  split at returned
  case h_1 idle => rcases isRequest with rfl | rfl <;> simp [SessionDescription.step, idle]
  case h_2 => contradiction

theorem read_returned_of_readers {left right : DataBuffer.State Thread Message} {thread : Thread}
    (same : left.readers thread = right.readers thread) :
    readReturned left thread = readReturned right thread := by
  rw [readReturned, same, readReturned]

theorem read_returned_notify (readers : Thread → DataBuffer.ReaderPoint Message) (thread : Thread)
    {buffer : DataBuffer.State Thread Message} (same : buffer.readers = readers) :
    readReturned { buffer with readers := DataBuffer.notifyAll readers } thread =
      readReturned buffer thread := by
  unfold readReturned
  rw [same]
  cases stands : readers thread <;> simp [DataBuffer.notifyAll, stands]

/-! ## Who is where -/

structure Consistent (state : State Thread Message) : Prop where
  describing : ∀ thread, state.place thread = .describing → state.gil = some thread
  owner : ∀ thread, state.gil = some thread →
    state.place thread = .python ∨ state.place thread = .describing
  caller : callReturned state.session = false ↔ ∃ thread, state.place thread = .describing
  reading : ∀ thread, readReturned state.buffer thread = false ↔ state.place thread = .reading

theorem consistent_initial : Consistent (initial : State Thread Message) where
  describing := by simp [initial]
  owner := by simp [initial]
  caller := by simp [initial, callReturned, SessionDescription.initial]
  reading := by simp [initial, readReturned, DataBuffer.initial]

/-- The owner of the lock that runs Python code finds both components idle for
it. -/
theorem idle_of_python {state : State Thread Message} (consistent : Consistent state)
    {thread : Thread} (owns : state.gil = some thread) (python : state.place thread = .python) :
    callReturned state.session = true ∧ readReturned state.buffer thread = true := by
  constructor
  · by_contra running
    obtain ⟨other, describing⟩ := consistent.caller.mp (by simpa using running)
    obtain rfl : other = thread := by
      simpa [owns] using (consistent.describing other describing).symm
    rw [python] at describing
    contradiction
  · by_contra running
    have reading := (consistent.reading thread).mp (by simpa using running)
    rw [python] at reading
    contradiction

theorem no_other_describes {state : State Thread Message} (consistent : Consistent state)
    {thread : Thread} (owned : state.gil = some thread ∨ state.gil = none) :
    ¬∃ other, other ≠ thread ∧ state.place other = .describing := by
  rintro ⟨other, different, describing⟩
  have owner := consistent.describing other describing
  rcases owned with owned | free
  · exact different (by simpa [owned] using owner.symm)
  · simp [free] at owner

variable [DecidableEq Thread]

theorem outside_of_callback {buffer next : DataBuffer.State Thread Message}
    {action : DataBuffer.Action Thread Message} (isCallback : isBufferCallback action = true)
    (taken : DataBuffer.step buffer action = some next) (thread : Thread) :
    readReturned next thread = readReturned buffer thread := by
  cases DataBuffer.step_cases taken with
  | enter | acquire | pass | refuse | sleep | copyOne | copyEnd | drain | release | deliver =>
      simp [isBufferCallback] at isCallback
  | wake reader stands =>
      by_cases same : thread = reader
      · subst same
        simp [readReturned, DataBuffer.State.moveReader, stands]
      · exact read_returned_of_readers (Function.update_of_ne same _ _)
  | notify stands => exact read_returned_notify buffer.readers thread rfl
  | messageStart | messageAcquire | messagePush | messageRelease | stateStart | storeOpen
  | storeClosed | ignore => rfl

theorem outside_of_other {buffer next : DataBuffer.State Thread Message} {thread other : Thread}
    (different : other ≠ thread) {action : DataBuffer.Action Thread Message}
    (own : action = .getDataBuffer thread ∨ action = .advanceReader thread)
    (taken : DataBuffer.step buffer action = some next) :
    readReturned next other = readReturned buffer other := by
  cases DataBuffer.step_cases taken with
  | enter reader | acquire reader | pass reader | refuse reader | sleep reader | copyOne reader
  | copyEnd reader | drain reader | release reader | deliver reader =>
      obtain rfl : reader = thread := by simpa using own
      exact read_returned_of_readers (Function.update_of_ne different _ _)
  | wake | notify | messageStart | messageAcquire | messagePush | messageRelease | stateStart
  | storeOpen | storeClosed | ignore => simp at own

theorem read_started {buffer next : DataBuffer.State Thread Message} {thread : Thread}
    (taken : DataBuffer.step buffer (.getDataBuffer thread) = some next) :
    readReturned next thread = false := by
  cases DataBuffer.step_cases taken with
  | enter reader stands => simp [readReturned, DataBuffer.State.moveReader]

theorem read_possible {buffer : DataBuffer.State Thread Message} {thread : Thread}
    (returned : readReturned buffer thread = true) :
    (DataBuffer.step buffer (.getDataBuffer thread)).isSome = true := by
  unfold readReturned at returned
  split at returned
  case h_1 outside => simp [DataBuffer.step, outside]
  case h_2 => contradiction

/-! ## Steps -/

def State.moveThread (state : State Thread Message) (thread : Thread) (place : Place) :
    State Thread Message :=
  { state with place := Function.update state.place thread place }

/-- A thread that owns the lock and runs Python code makes a native call that
keeps the lock. -/
def describe (state : State Thread Message) (thread : Thread)
    (request : SessionDescription.Action) : Option (State Thread Message) :=
  if state.gil = some thread ∧ state.place thread = .python then
    (SessionDescription.step state.session request).map fun session =>
      { state with session := session }.moveThread thread .describing
  else none

def step (state : State Thread Message) : Action Thread Message → Option (State Thread Message)
  | .acquire thread =>
      if state.gil = none ∧ state.place thread = .python then
        some { state with gil := some thread }
      else none
  | .release thread =>
      if state.gil = some thread ∧ state.place thread = .python then
        some { state with gil := none }
      else none
  | .getSDP thread => describe state thread .getOffer
  | .receiveOffer thread => describe state thread .receiveOffer
  | .advanceCall thread =>
      if state.place thread = .describing then
        (SessionDescription.step state.session .advanceCaller).map fun session =>
          { state with session := session }.moveThread thread
            (if callReturned session then .python else .describing)
      else none
  | .readFromDataChannel thread =>
      if state.gil = some thread ∧ state.place thread = .python then
        (DataBuffer.step state.buffer (.getDataBuffer thread)).map fun buffer =>
          { state with gil := none, buffer := buffer }.moveThread thread .reading
      else none
  | .advanceReader thread =>
      if state.place thread = .reading then
        (DataBuffer.step state.buffer (.advanceReader thread)).map fun buffer =>
          { state with buffer := buffer }.moveThread thread
            (if readReturned buffer thread then .restoring else .reading)
      else none
  | .endAllowThreads thread =>
      if state.gil = none ∧ state.place thread = .restoring then
        some ({ state with gil := some thread }.moveThread thread .python)
      else none
  | .sessionCallback action =>
      if isSessionCallback action then
        (SessionDescription.step state.session action).map fun session =>
          { state with session := session }
      else none
  | .bufferCallback action =>
      if isBufferCallback action then
        (DataBuffer.step state.buffer action).map fun buffer => { state with buffer := buffer }
      else none

/-- A step that moves one thread and may hand the lock to or from it. -/
theorem consistent_move {state next : State Thread Message} (consistent : Consistent state)
    {thread : Thread} {place : Place}
    (places : next.place = Function.update state.place thread place)
    (kept : ∀ other, other ≠ thread → (next.gil = some other ↔ state.gil = some other))
    (held : place = .describing → next.gil = some thread)
    (owns : next.gil = some thread → place = .python ∨ place = .describing)
    (caller : callReturned next.session = false ↔
      place = .describing ∨ ∃ other, other ≠ thread ∧ state.place other = .describing)
    (reading : readReturned next.buffer thread = false ↔ place = .reading)
    (readers : ∀ other, other ≠ thread →
      readReturned next.buffer other = readReturned state.buffer other) : Consistent next where
  describing := by
    intro other describing
    by_cases same : other = thread
    · subst same
      exact held (by simpa [places] using describing)
    · rw [kept other same]
      exact consistent.describing other (by simpa [places, same] using describing)
  owner := by
    intro other owned
    by_cases same : other = thread
    · subst same
      simpa [places] using owns owned
    · simpa [places, same] using consistent.owner other ((kept other same).mp owned)
  caller := by
    rw [caller]
    constructor
    · rintro (own | ⟨other, different, describing⟩)
      · exact ⟨thread, by simpa [places] using own⟩
      · exact ⟨other, by simpa [places, different] using describing⟩
    · rintro ⟨other, describing⟩
      by_cases same : other = thread
      · subst same
        exact .inl (by simpa [places] using describing)
      · exact .inr ⟨other, same, by simpa [places, same] using describing⟩
  reading := by
    intro other
    by_cases same : other = thread
    · subst same
      simpa [places] using reading
    · rw [readers other same, consistent.reading other, places, Function.update_of_ne same]

theorem consistent_describe {state next : State Thread Message} (consistent : Consistent state)
    {thread : Thread} {request : SessionDescription.Action}
    (isRequest : request = .getOffer ∨ request = .receiveOffer)
    (taken : describe state thread request = some next) : Consistent next := by
  unfold describe at taken
  split at taken
  case isFalse => contradiction
  case isTrue owns =>
    obtain ⟨session, requested, rfl⟩ := Option.map_eq_some_iff.mp taken
    obtain ⟨-, running⟩ := request_taken isRequest requested
    obtain ⟨-, outside⟩ := idle_of_python consistent owns.1 owns.2
    refine consistent_move consistent rfl (fun _ _ => Iff.rfl) (fun _ => owns.1)
      (fun _ => .inr rfl) ?_ ?_ (fun _ _ => rfl)
    · exact iff_of_true running (.inl rfl)
    · exact iff_of_false (by simp [State.moveThread, outside]) (by simp)

theorem consistent_step {state next : State Thread Message} {action : Action Thread Message}
    (consistent : Consistent state) (taken : step state action = some next) :
    Consistent next := by
  cases action with
  | acquire thread =>
      simp only [step] at taken
      split at taken
      case isFalse => contradiction
      case isTrue free =>
        obtain rfl := Option.some.inj taken
        refine ⟨fun other describing => ?_, fun other owned => ?_, consistent.caller,
          consistent.reading⟩
        · have owner := consistent.describing other describing
          simp [free.1] at owner
        · obtain rfl := Option.some.inj owned
          exact .inl free.2
  | release thread =>
      simp only [step] at taken
      split at taken
      case isFalse => contradiction
      case isTrue owns =>
        obtain rfl := Option.some.inj taken
        refine ⟨fun other describing => ?_, fun other owned => by simp at owned,
          consistent.caller, consistent.reading⟩
        have owner := consistent.describing other describing
        obtain rfl : thread = other := by simpa [owns.1] using owner
        simp [owns.2] at describing
  | getSDP thread => exact consistent_describe consistent (.inl rfl) taken
  | receiveOffer thread => exact consistent_describe consistent (.inr rfl) taken
  | advanceCall thread =>
      simp only [step] at taken
      split at taken
      case isFalse => contradiction
      case isTrue describing =>
        obtain ⟨session, -, rfl⟩ := Option.map_eq_some_iff.mp taken
        have owner := consistent.describing thread describing
        have alone := no_other_describes consistent (.inl owner)
        have notReading := (not_congr (consistent.reading thread)).mpr (by simp [describing])
        refine consistent_move consistent rfl (fun _ _ => Iff.rfl) (fun _ => owner) (fun _ => ?_)
          ?_ ?_ (fun _ _ => rfl)
        · split <;> simp
        · rw [or_iff_left alone]
          cases returned : callReturned session <;> simp [State.moveThread, returned]
        · refine iff_of_false notReading ?_
          split <;> simp
  | readFromDataChannel thread =>
      simp only [step] at taken
      split at taken
      case isFalse => contradiction
      case isTrue owns =>
        obtain ⟨buffer, started, rfl⟩ := Option.map_eq_some_iff.mp taken
        obtain ⟨idle, -⟩ := idle_of_python consistent owns.1 owns.2
        have alone := no_other_describes consistent (.inl owns.1)
        refine consistent_move consistent rfl (fun other different => ?_) (by simp)
          (fun owned => by simp [State.moveThread] at owned) ?_ ?_
          (fun other different => outside_of_other different (.inl rfl) started)
        · simpa [State.moveThread, owns.1] using Ne.symm different
        · exact iff_of_false (by simp [State.moveThread, idle]) (by simpa using alone)
        · exact iff_of_true (read_started started) rfl
  | advanceReader thread =>
      simp only [step] at taken
      split at taken
      case isFalse => contradiction
      case isTrue reading =>
        obtain ⟨buffer, advanced, rfl⟩ := Option.map_eq_some_iff.mp taken
        have notOwner : state.gil ≠ some thread := by
          intro owned
          have places := consistent.owner thread owned
          simp [reading] at places
        refine consistent_move consistent rfl (fun _ _ => Iff.rfl) (fun describing => ?_)
          (fun owned => absurd owned notOwner) ?_ ?_
          (fun other different => outside_of_other different (.inr rfl) advanced)
        · split at describing <;> contradiction
        · change callReturned state.session = false ↔ _
          rw [consistent.caller]
          constructor
          · rintro ⟨other, describing⟩
            refine .inr ⟨other, ?_, describing⟩
            rintro rfl
            simp [reading] at describing
          · rintro (own | ⟨other, -, describing⟩)
            · split at own <;> contradiction
            · exact ⟨other, describing⟩
        · cases returned : readReturned buffer thread <;> simp [State.moveThread, returned]
  | endAllowThreads thread =>
      simp only [step] at taken
      split at taken
      case isFalse => contradiction
      case isTrue free =>
        obtain rfl := Option.some.inj taken
        have alone : ¬∃ other, other ≠ thread ∧ state.place other = .describing :=
          no_other_describes consistent (.inr free.1)
        have idle := (not_congr consistent.caller).mpr (fun ⟨other, describing⟩ => by
          have owner := consistent.describing other describing
          simp [free.1] at owner)
        have notReading := (not_congr (consistent.reading thread)).mpr (by simp [free.2])
        refine consistent_move consistent rfl (fun other different => ?_) (by simp)
          (fun _ => .inl rfl) ?_ ?_ (fun _ _ => rfl)
        · simpa [State.moveThread, free.1] using Ne.symm different
        · exact iff_of_false idle (by simpa using alone)
        · exact iff_of_false notReading (by simp)
  | sessionCallback action =>
      simp only [step] at taken
      split at taken
      case isFalse => contradiction
      case isTrue isCallback =>
        obtain ⟨session, called, rfl⟩ := Option.map_eq_some_iff.mp taken
        have same : callReturned session = callReturned state.session := by
          rw [callReturned, caller_of_callback isCallback called, callReturned]
        exact ⟨consistent.describing, consistent.owner, by simpa only [same] using consistent.caller,
          consistent.reading⟩
  | bufferCallback action =>
      simp only [step] at taken
      split at taken
      case isFalse => contradiction
      case isTrue isCallback =>
        obtain ⟨buffer, called, rfl⟩ := Option.map_eq_some_iff.mp taken
        refine ⟨consistent.describing, consistent.owner, consistent.caller, fun thread => ?_⟩
        rw [← consistent.reading thread, outside_of_callback isCallback called thread]

theorem consistent_of_replay {actions : List (Action Thread Message)}
    {last : State Thread Message} (run : replay step initial actions = some last) :
    Consistent last :=
  replay_invariant Consistent consistent_initial (fun _ _ _ => consistent_step) run

/-! ## The hand-off of descriptions on its own -/

def sessionPart (_ : State Thread Message) :
    Action Thread Message → List SessionDescription.Action
  | .getSDP _ => [.getOffer]
  | .receiveOffer _ => [.receiveOffer]
  | .advanceCall _ => [.advanceCaller]
  | .sessionCallback action => [action]
  | _ => []

theorem replay_single {Part Operation : Type*} {step : Part → Operation → Option Part}
    {part next : Part} {operation : Operation} (taken : step part operation = some next) :
    replay step part [operation] = some next := by
  simp [replay, taken]

theorem session_step {state next : State Thread Message} {action : Action Thread Message}
    (taken : step state action = some next) :
    replay SessionDescription.step state.session (sessionPart state action) =
      some next.session := by
  cases action with
  | acquire thread | release thread | endAllowThreads thread =>
      simp only [step] at taken
      split at taken
      case isFalse => contradiction
      case isTrue => exact Option.some.inj taken ▸ rfl
  | readFromDataChannel thread | advanceReader thread | bufferCallback action =>
      simp only [step] at taken
      split at taken
      case isFalse => contradiction
      case isTrue =>
        obtain ⟨buffer, -, rfl⟩ := Option.map_eq_some_iff.mp taken
        rfl
  | getSDP thread | receiveOffer thread =>
      simp only [step, describe] at taken
      split at taken
      case isFalse => contradiction
      case isTrue =>
        obtain ⟨session, requested, rfl⟩ := Option.map_eq_some_iff.mp taken
        exact replay_single requested
  | advanceCall thread | sessionCallback action =>
      simp only [step] at taken
      split at taken
      case isFalse => contradiction
      case isTrue =>
        obtain ⟨session, advanced, rfl⟩ := Option.map_eq_some_iff.mp taken
        exact replay_single advanced

/-- The calls for descriptions come one at a time, from whatever threads: what
happens to the hand-off is one of its own runs. -/
theorem session_of_replay {actions : List (Action Thread Message)} {last : State Thread Message}
    (run : replay step initial actions = some last) :
    replay SessionDescription.step SessionDescription.initial
      (operations sessionPart step initial actions) = some last.session := by
  obtain ⟨session, replayed, rfl⟩ := replay_operations
    (fun (state : State Thread Message) session => state.session = session)
    (fun state action next session same taken =>
      ⟨next.session, same ▸ session_step taken, rfl⟩) rfl run
  exact replayed

/-- The lock keeps the calls apart: at most one thread is in `getSDP` or
`receiveOffer`, and it owns the lock; a thread that reads the buffer does not own
it; and a thread that owns it in Python code finds every native call possible. -/
theorem calls_kept_apart {actions : List (Action Thread Message)} {last : State Thread Message}
    (run : replay step initial actions = some last) :
    (∀ thread, last.place thread = .describing → last.gil = some thread) ∧
      (∀ thread, last.buffer.readers thread ≠ .outside → last.gil ≠ some thread) ∧
      ∀ thread, last.gil = some thread → last.place thread = .python →
        (step last (.getSDP thread)).isSome = true ∧
          (step last (.receiveOffer thread)).isSome = true ∧
          (step last (.readFromDataChannel thread)).isSome = true := by
  have consistent := consistent_of_replay run
  refine ⟨consistent.describing, fun thread inside owned => ?_, fun thread owns python => ?_⟩
  · have reading : last.place thread = .reading := by
      rw [← consistent.reading]
      unfold readReturned
      split
      case h_1 outside => exact absurd outside inside
      case h_2 => rfl
    have places := consistent.owner thread owned
    simp [reading] at places
  · obtain ⟨idle, outside⟩ := idle_of_python consistent owns python
    refine ⟨?_, ?_, ?_⟩
    · simpa [step, describe, owns, python] using request_possible (.inl rfl) idle
    · simpa [step, describe, owns, python] using request_possible (.inr rfl) idle
    · simpa [step, owns, python] using read_possible outside

/-- One thread waits for a message without the lock, and another one for its
description with it. -/
def twoCallRun : List (Action Nat String) :=
  [.bufferCallback (.onStateChange .kOpen), .bufferCallback .advanceCallback,
    .acquire 0, .readFromDataChannel 0, .acquire 1, .getSDP 1, .advanceReader 0, .advanceReader 0,
    .advanceCall 1]

theorem two_call_run_kept_apart :
    ∃ last, replay step initial twoCallRun = some last ∧ last.gil = some 1 ∧
      (last.buffer.readers 0 ≠ .outside → last.gil ≠ some 0) :=
  ⟨_, rfl, rfl, (@calls_kept_apart _ _ _ twoCallRun _ rfl).2.1 0⟩

end PyWebRTC.GlobalInterpreterLock
