import PyWebRTC.DataBufferDelivery
import PyWebRTC.ForwardSimulation

/-!
# The receive buffer is an atomic mailbox

The purpose of the buffer in one sentence: `OnMessage` puts a message into a
mailbox, and `getDataBuffer` waits until the mailbox has a message or the
channel is not open, and takes all there is. Here each of these is one step.
The code with its lock, its waits and its copy loop behaves as if it were so:
a call takes effect at the moment its predicate lets it through.
-/

namespace PyWebRTC.DataBufferMailbox

open ActionRuns DataBuffer DataBufferMutex ForwardSimulation

set_option autoImplicit false

variable {Reader Message : Type*}

/-! ## The mailbox -/

structure Mailbox (Reader Message : Type*) where
  contents : List Message
  isOpen : Bool
  taken : Reader → List (List Message)

inductive Operation (Reader Message : Type*) where
  | put (message : Message)
  | setOpen (isOpen : Bool)
  | takeAll (reader : Reader)
  deriving DecidableEq

def empty : Mailbox Reader Message where
  contents := []
  isOpen := false
  taken := fun _ => []

def Mailbox.step [DecidableEq Reader] (mailbox : Mailbox Reader Message) :
    Operation Reader Message → Option (Mailbox Reader Message)
  | .put message => some { mailbox with contents := mailbox.contents ++ [message] }
  | .setOpen isOpen => some { mailbox with isOpen := isOpen }
  | .takeAll reader =>
      if mailbox.isOpen = true ∧ mailbox.contents.isEmpty = true then none
      else some { mailbox with
        contents := []
        taken := Function.update mailbox.taken reader
          (mailbox.taken reader ++ [mailbox.contents]) }

/-! ## What a step of the code stands for -/

/-- A call takes effect when its predicate holds, a message when it is pushed,
and a change of the channel when the flag is stored. -/
def takesEffect (state : State Reader Message) :
    Action Reader Message → List (Operation Reader Message)
  | .advanceReader reader =>
      match state.readers reader with
      | .predicate => if wakePredicate state then [.takeAll reader] else []
      | _ => []
  | .advanceCallback =>
      match state.callback with
      | .messagePush message => [.put message]
      | .stateStore .kOpen => [.setOpen true]
      | .stateStore .kClosed => [.setOpen false]
      | _ => []
  | _ => []

def ReaderPoint.Draining : ReaderPoint Message → Prop
  | .copy _ _ | .reset _ _ => True
  | _ => False

def owed (dataBuffer : List Message) : ReaderPoint Message → List (List Message)
  | .copy _ _ | .reset _ _ => [dataBuffer]
  | .unlock messages | .finish messages => [messages]
  | _ => []

/-- While a reader is draining, the mailbox is empty already. -/
structure Related (state : State Reader Message) (mailbox : Mailbox Reader Message) : Prop where
  mutex : MutexInvariant state
  isOpen : mailbox.isOpen = state.dataChannelOpen
  drained : ∀ reader, ReaderPoint.Draining (state.readers reader) → mailbox.contents = []
  contents : (∀ reader, ¬ReaderPoint.Draining (state.readers reader)) →
    mailbox.contents = state.dataBuffer
  taken : ∀ reader,
    mailbox.taken reader = state.returned reader ++ owed state.dataBuffer (state.readers reader)

theorem holds_mutex_of_draining {point : ReaderPoint Message}
    (draining : ReaderPoint.Draining point) : ReaderPoint.HoldsMutex point := by
  cases point <;> simp_all [ReaderPoint.Draining, ReaderPoint.HoldsMutex]

theorem owed_of_not_draining {point : ReaderPoint Message}
    (other : ¬ReaderPoint.Draining point) (left right : List Message) :
    owed left point = owed right point := by
  cases point <;> simp_all [ReaderPoint.Draining, owed]

theorem notify_draining (readers : Reader → ReaderPoint Message) (reader : Reader) :
    ReaderPoint.Draining (notifyAll readers reader) ↔ ReaderPoint.Draining (readers reader) := by
  cases point : readers reader <;> simp [notifyAll, point, ReaderPoint.Draining]

theorem notify_owed (dataBuffer : List Message) (readers : Reader → ReaderPoint Message)
    (reader : Reader) : owed dataBuffer (notifyAll readers reader) = owed dataBuffer (readers reader) := by
  cases point : readers reader <;> simp [notifyAll, point, owed]

theorem related_initial :
    Related (initial : State Reader Message) (empty : Mailbox Reader Message) where
  mutex := mutex_invariant_initial
  isOpen := rfl
  drained := fun _ draining => absurd draining not_false
  contents := fun _ => rfl
  taken := fun _ => rfl

theorem related_callback {state next : State Reader Message} {mailbox : Mailbox Reader Message}
    (related : Related state mailbox) (mutex : MutexInvariant next)
    (buffer : next.dataBuffer = state.dataBuffer)
    (flag : next.dataChannelOpen = state.dataChannelOpen) (readers : next.readers = state.readers)
    (returned : next.returned = state.returned) : Related next mailbox where
  mutex := mutex
  isOpen := related.isOpen.trans flag.symm
  drained := by simpa only [readers] using related.drained
  contents := by simpa only [readers, buffer] using related.contents
  taken := by simpa only [readers, buffer, returned] using related.taken

theorem not_draining_of_owner {state : State Reader Message} (mutex : MutexInvariant state)
    {owner : Option (Holder Reader)} (owned : state.dataBufferMutex = owner)
    {reader : Reader} (foreign : owner ≠ some (.reader reader)) :
    ¬ReaderPoint.Draining (state.readers reader) := by
  intro draining
  exact foreign (owned.symm.trans (mutex.reader reader (holds_mutex_of_draining draining)))

variable [DecidableEq Reader]

theorem related_move {state : State Reader Message} {mailbox : Mailbox Reader Message}
    (related : Related state mailbox) {next : State Reader Message} (mutex : MutexInvariant next)
    {reader : Reader} {point : ReaderPoint Message}
    (readers : next.readers = Function.update state.readers reader point)
    (buffer : next.dataBuffer = state.dataBuffer)
    (flag : next.dataChannelOpen = state.dataChannelOpen)
    (draining : ReaderPoint.Draining point ↔ ReaderPoint.Draining (state.readers reader))
    (others : ∀ other, other ≠ reader → next.returned other = state.returned other)
    (own : next.returned reader ++ owed state.dataBuffer point =
      state.returned reader ++ owed state.dataBuffer (state.readers reader)) :
    Related next mailbox := by
  have same (other : Reader) : ReaderPoint.Draining (next.readers other) ↔
      ReaderPoint.Draining (state.readers other) := by
    rw [readers, Function.update_apply]
    split
    case isTrue equal => rw [equal, draining]
    case isFalse => rfl
  refine ⟨mutex, related.isOpen.trans flag.symm, ?_, ?_, ?_⟩
  · exact fun other isDraining => related.drained other ((same other).mp isDraining)
  · intro noneDraining
    rw [buffer]
    exact related.contents fun other isDraining => noneDraining other ((same other).mpr isDraining)
  · intro other
    rw [related.taken, buffer, readers, Function.update_apply]
    split
    case isTrue equal => rw [equal, own]
    case isFalse different => rw [others other different]

theorem related_pass {state : State Reader Message} {mailbox : Mailbox Reader Message}
    (related : Related state mailbox) {reader : Reader}
    (stands : state.readers reader = .predicate) (wakes : wakePredicate state = true)
    (mutex : MutexInvariant (state.moveReader reader (.copy state.dataChannelOpen []))) :
    ∃ next, Mailbox.step mailbox (.takeAll reader) = some next ∧
      Related (state.moveReader reader (.copy state.dataChannelOpen [])) next := by
  have owner : state.dataBufferMutex = some (.reader reader) :=
    related.mutex.reader reader (by simp [stands, ReaderPoint.HoldsMutex])
  have noneDraining (other : Reader) : ¬ReaderPoint.Draining (state.readers other) := by
    by_cases same : other = reader
    · simp [same, stands, ReaderPoint.Draining]
    · exact not_draining_of_owner related.mutex owner (by simpa using Ne.symm same)
  have contents := related.contents noneDraining
  have enabled : ¬(mailbox.isOpen = true ∧ mailbox.contents.isEmpty = true) := by
    rw [related.isOpen, contents]
    rintro ⟨isOpen, isEmpty⟩
    simp [wakePredicate, isOpen, isEmpty] at wakes
  refine ⟨_, if_neg enabled, mutex, related.isOpen, fun _ _ => rfl, ?_, ?_⟩
  · intro allDone
    exact absurd trivial (by simpa [State.moveReader, ReaderPoint.Draining] using allDone reader)
  · intro other
    by_cases same : other = reader
    · subst same
      have before := related.taken other
      rw [stands] at before
      simpa [State.moveReader, owed, contents] using before
    · simpa [State.moveReader, same] using related.taken other

theorem related_drain {state : State Reader Message} {mailbox : Mailbox Reader Message}
    (related : Related state mailbox) {reader : Reader} {predicateOpen : Bool}
    {messages : List Message} (stands : state.readers reader = .reset predicateOpen messages)
    {next : State Reader Message} (mutex : MutexInvariant next)
    (readers : next.readers = Function.update state.readers reader (.unlock messages))
    (buffer : next.dataBuffer = []) (flag : next.dataChannelOpen = state.dataChannelOpen)
    (returned : next.returned = state.returned) : Related next mailbox := by
  have holds : ReaderPoint.HoldsMutex (state.readers reader) := by
    simp [stands, ReaderPoint.HoldsMutex]
  have others := (others_unlocked related.mutex holds).1
  have whole : messages = state.dataBuffer := by
    have view := related.mutex.view reader
    rw [stands] at view
    exact view.1
  have emptied := related.drained reader (by simp [stands, ReaderPoint.Draining])
  have before := related.taken reader
  rw [stands] at before
  refine ⟨mutex, related.isOpen.trans flag.symm, fun _ _ => emptied,
    fun _ => emptied.trans buffer.symm, ?_⟩
  intro other
  rw [returned, readers, Function.update_apply]
  split
  case isTrue same =>
    rw [same, before, whole]
    rfl
  case isFalse different =>
    rw [related.taken, owed_of_not_draining _ next.dataBuffer]
    exact fun draining => others other different (holds_mutex_of_draining draining)

theorem related_step {state next : State Reader Message} {action : Action Reader Message}
    {mailbox : Mailbox Reader Message} (related : Related state mailbox)
    (taken : step state action = some next) :
    ∃ mailboxNext, replay Mailbox.step mailbox (takesEffect state action) = some mailboxNext ∧
      Related next mailboxNext := by
  have mutex := mutex_invariant_step related.mutex taken
  cases step_cases taken with
  | enter reader stands | wake reader stands =>
      refine ⟨mailbox, rfl, related_move related mutex rfl rfl rfl ?_ (fun _ _ => rfl) ?_⟩
      · simp [stands, ReaderPoint.Draining]
      · simp [stands, owed, State.moveReader]
  | acquire reader stands free =>
      refine ⟨mailbox, ?_, related_move related mutex rfl rfl rfl ?_ (fun _ _ => rfl) ?_⟩
      · rcases stands with stands | stands <;> simp [takesEffect, stands, replay]
      · rcases stands with stands | stands <;> simp [stands, ReaderPoint.Draining]
      · rcases stands with stands | stands <;> simp [stands, owed, State.moveReader]
  | pass reader stands wakes =>
      obtain ⟨mailboxNext, takenAll, relatedNext⟩ := related_pass related stands wakes mutex
      refine ⟨mailboxNext, ?_, relatedNext⟩
      simp [takesEffect, stands, wakes, replay, takenAll]
  | refuse reader stands sleeps =>
      refine ⟨mailbox, ?_, related_move related mutex rfl rfl rfl ?_ (fun _ _ => rfl) ?_⟩
      · simp [takesEffect, stands, sleeps, replay]
      · simp [stands, ReaderPoint.Draining]
      · simp [stands, owed, State.moveReader]
  | sleep reader stands | release reader messages stands | deliver reader messages stands
  | copyOne reader predicateOpen messages message stands
  | copyEnd reader predicateOpen messages stands =>
      refine ⟨mailbox, ?_, related_move related mutex rfl rfl rfl ?_ ?_ ?_⟩
      · simp [takesEffect, stands, replay]
      · simp [stands, ReaderPoint.Draining]
      · intro other different
        simp [State.moveReader, different]
      · simp [stands, owed, State.moveReader]
  | drain reader predicateOpen messages stands =>
      refine ⟨mailbox, ?_, related_drain related stands mutex rfl rfl rfl rfl⟩
      simp [takesEffect, stands, replay]
  | messageStart message stands | stateStart channelState stands =>
      exact ⟨mailbox, rfl, related_callback related mutex rfl rfl rfl rfl⟩
  | messageAcquire message stands free | messageRelease stands =>
      refine ⟨mailbox, ?_, related_callback related mutex rfl rfl rfl rfl⟩
      simp [takesEffect, stands, replay]
  | messagePush message stands =>
      have owner := related.mutex.callback (by simp [stands, CallbackPoint.HoldsMutex])
      have noneDraining (reader : Reader) : ¬ReaderPoint.Draining (state.readers reader) :=
        not_draining_of_owner related.mutex owner (by simp)
      refine ⟨{ mailbox with contents := mailbox.contents ++ [message] }, ?_, mutex, related.isOpen,
        fun reader draining => absurd draining (noneDraining reader), ?_, ?_⟩
      · simp [takesEffect, stands, replay, Mailbox.step]
      · intro _
        simp only [related.contents noneDraining]
      · intro reader
        rw [related.taken, owed_of_not_draining (noneDraining reader) state.dataBuffer
          (state.dataBuffer ++ [message])]
  | notify stands =>
      refine ⟨mailbox, ?_, mutex, related.isOpen, ?_, ?_, ?_⟩
      · rcases stands with stands | stands <;> simp [takesEffect, stands, replay]
      · simpa only [notify_draining] using related.drained
      · simpa only [notify_draining] using related.contents
      · simpa only [notify_owed] using related.taken
  | storeOpen stands =>
      refine ⟨{ mailbox with isOpen := true }, ?_, mutex, rfl, related.drained, related.contents,
        related.taken⟩
      simp [takesEffect, stands, replay, Mailbox.step]
  | storeClosed stands =>
      refine ⟨{ mailbox with isOpen := false }, ?_, mutex, rfl, related.drained, related.contents,
        related.taken⟩
      simp [takesEffect, stands, replay, Mailbox.step]
  | ignore channelState stands other =>
      refine ⟨mailbox, ?_, related_callback related mutex rfl rfl rfl rfl⟩
      rcases other with rfl | rfl <;> simp [takesEffect, stands, replay]

/-- Every run of the code is a run of the mailbox: its operations, each at a
step of its own call, give every call the list that it returns, and leave in the
mailbox what no call has taken. -/
theorem get_data_buffer_is_atomic {actions : List (Action Reader Message)}
    {last : State Reader Message} (run : replay step initial actions = some last) :
    ∃ mailbox : Mailbox Reader Message,
      replay Mailbox.step empty (operations takesEffect step initial actions) = some mailbox ∧
      mailbox.isOpen = last.dataChannelOpen ∧
      (∀ reader, mailbox.taken reader =
        last.returned reader ++ owed last.dataBuffer (last.readers reader)) ∧
      ((∀ reader, ¬ReaderPoint.Draining (last.readers reader)) →
        mailbox.contents = last.dataBuffer) := by
  obtain ⟨mailbox, replayed, related⟩ :=
    replay_operations Related (fun _ _ _ _ => related_step) related_initial run
  exact ⟨mailbox, replayed, related.isOpen, related.taken, related.contents⟩

open DataBufferDelivery (twoReaderRun)

example : operations takesEffect step initial twoReaderRun =
    [.takeAll 0, .setOpen true, .put "first", .takeAll 1, .put "second"] := rfl

theorem two_reader_run_is_atomic :
    ∃ last, replay step initial twoReaderRun = some last ∧
      ∃ mailbox : Mailbox (Fin 2) String,
        replay Mailbox.step empty (operations takesEffect step initial twoReaderRun) =
            some mailbox ∧
          mailbox.isOpen = last.dataChannelOpen ∧
          (∀ reader, mailbox.taken reader =
            last.returned reader ++ owed last.dataBuffer (last.readers reader)) ∧
          ((∀ reader, ¬ReaderPoint.Draining (last.readers reader)) →
            mailbox.contents = last.dataBuffer) :=
  ⟨_, rfl, get_data_buffer_is_atomic rfl⟩

end PyWebRTC.DataBufferMailbox
