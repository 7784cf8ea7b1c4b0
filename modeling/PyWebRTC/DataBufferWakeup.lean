import PyWebRTC.ActionRuns
import PyWebRTC.DataBufferMutex

/-!
# Wake-ups on the receive buffer

`OnMessage` changes the buffer under the mutex, so it cannot fall between a
reader's predicate and its sleep. The kClosed path of `OnStateChange` stores
and notifies without the mutex and can fall there; the reader then sleeps on a
predicate that no longer holds, and no notification is left.
-/

namespace PyWebRTC.DataBufferWakeup

open ActionRuns DataBuffer DataBufferMutex

set_option autoImplicit false

variable {Reader Message : Type*}

/-- A callback that changed what the predicate reads and has not reached its
`notify_all`. -/
def CallbackPoint.OwesNotify : CallbackPoint Message → Prop
  | .messageUnlock | .messageNotify | .stateNotify => True
  | .idle | .messageLock _ | .messagePush _ | .stateStore _ => False

def NoLostWakeup (state : State Reader Message) : Prop :=
  ∀ reader, state.readers reader = .asleep → wakePredicate state = true →
    CallbackPoint.OwesNotify state.callback

/-- A reader that goes to sleep does so while the channel flag is still set, or
while a callback still owes its notification. -/
def SleepsInTime (state : State Reader Message) (action : Action Reader Message) : Prop :=
  ∀ reader, action = .advanceReader reader → state.readers reader = .block →
    state.dataChannelOpen = true ∨ CallbackPoint.OwesNotify state.callback

theorem notify_all_awakens (readers : Reader → ReaderPoint Message) (reader : Reader) :
    notifyAll readers reader ≠ .asleep := by
  cases point : readers reader <;> simp [notifyAll, point]

theorem no_lost_wakeup_initial : NoLostWakeup (initial : State Reader Message) := by
  simp [NoLostWakeup, initial]

variable [DecidableEq Reader]

theorem no_lost_wakeup_move {state : State Reader Message} (awake : NoLostWakeup state)
    {reader : Reader} {point : ReaderPoint Message} (moves : point ≠ .asleep) :
    NoLostWakeup (state.moveReader reader point) := by
  intro other asleep wakes
  by_cases same : other = reader
  · subst same
    exact absurd (by simpa [State.moveReader] using asleep) moves
  · exact awake other (by simpa [State.moveReader, same] using asleep) wakes

theorem no_lost_wakeup_step {state next : State Reader Message}
    {action : Action Reader Message} (mutex : MutexInvariant state) (awake : NoLostWakeup state)
    (timely : SleepsInTime state action) (taken : step state action = some next) :
    NoLostWakeup next := by
  cases step_cases taken with
  | enter reader stands | pass reader stands | refuse reader stands | wake reader stands
  | copyOne reader predicateOpen messages message stands
  | copyEnd reader predicateOpen messages stands =>
      exact no_lost_wakeup_move awake (by simp)
  | acquire reader stands | release reader messages stands | deliver reader messages stands =>
      intro other asleep wakes
      by_cases same : other = reader
      · subst same
        simp [State.moveReader] at asleep
      · exact awake other (by simpa [State.moveReader, same] using asleep) wakes
  | sleep reader stands =>
      have view := mutex.view reader
      rw [stands] at view
      have inTime := timely reader rfl stands
      intro other asleep wakes
      have bufferEmpty : state.dataBuffer = [] := view
      rcases inTime with channelOpen | owes
      · simp [wakePredicate, State.moveReader, channelOpen, bufferEmpty] at wakes
      · exact owes
  | drain reader predicateOpen messages stands =>
      intro other asleep wakes
      by_cases same : other = reader
      · subst same
        simp [State.moveReader] at asleep
      · have channelClosed : state.dataChannelOpen = false := by
          simpa [wakePredicate, State.moveReader] using wakes
        exact awake other (by simpa [State.moveReader, same] using asleep)
          (by simp [wakePredicate, channelClosed])
  | messageStart message stands | stateStart channelState stands | messageAcquire message stands =>
      intro reader asleep wakes
      have owes := awake reader asleep wakes
      simp [stands, CallbackPoint.OwesNotify] at owes
  | messagePush message stands | messageRelease stands | storeClosed stands =>
      intro reader asleep wakes
      trivial
  | notify stands =>
      intro reader asleep
      exact absurd asleep (notify_all_awakens state.readers reader)
  | storeOpen stands =>
      intro reader asleep wakes
      have nonempty : wakePredicate state = true := by
        simp only [wakePredicate, Bool.not_true, Bool.false_or] at wakes
        simp [wakePredicate, wakes]
      have owes := awake reader asleep nonempty
      simp [stands, CallbackPoint.OwesNotify] at owes
  | ignore channelState stands =>
      intro reader asleep wakes
      have owes := awake reader asleep wakes
      simp [stands, CallbackPoint.OwesNotify] at owes

theorem late_sleep_loses_wakeup {state next : State Reader Message}
    {action : Action Reader Message} (late : ¬SleepsInTime state action)
    (taken : step state action = some next) : ¬NoLostWakeup next := by
  simp only [SleepsInTime, not_forall, not_or] at late
  obtain ⟨reader, rfl, stands, notOpen, owesNothing⟩ := late
  have channelClosed : state.dataChannelOpen = false := by simpa using notOpen
  have result : { state with dataBufferMutex := none }.moveReader reader .asleep = next := by
    simpa [step, advanceReader, stands] using taken
  subst result
  intro awake
  exact owesNothing (awake reader (by simp [State.moveReader])
    (by simp [wakePredicate, State.moveReader, channelClosed]))

/-- What the exact condition is for: once the channel is closed and the close has
been notified, no reader sleeps. -/
theorem awake_once_closed {actions : List (Action Reader Message)} {last : State Reader Message}
    (run : replay step initial actions = some last)
    (meets : MeetsAlong SleepsInTime step initial actions)
    (closed : last.dataChannelOpen = false)
    (notified : ¬CallbackPoint.OwesNotify last.callback) (reader : Reader) :
    last.readers reader ≠ .asleep := by
  have along : HoldsAlong NoLostWakeup step initial actions :=
    holds_along_of_meets_along (fun state => MutexInvariant state ∧ NoLostWakeup state)
      ⟨mutex_invariant_initial, no_lost_wakeup_initial⟩ (fun _ both => both.2)
      (fun _ _ _ both timely taken =>
        ⟨mutex_invariant_step both.1 taken, no_lost_wakeup_step both.1 both.2 timely taken⟩) meets
  have awake : NoLostWakeup last :=
    holds_along_iff_prefixes.mp along actions [] last (List.append_nil _).symm run
  exact fun asleep => notified (awake reader asleep (by simp [wakePredicate, closed]))

/-- The two stores that the predicate reads differ in their locking; what a run
needs is exactly that no reader falls asleep after a close went by unseen. -/
theorem no_lost_wakeup_iff_sleeps_in_time (actions : List (Action Reader Message))
    (last : State Reader Message) (run : replay step initial actions = some last) :
    HoldsAlong NoLostWakeup step initial actions ↔
      MeetsAlong SleepsInTime step initial actions :=
  holds_along_iff_meets_along (fun state => MutexInvariant state ∧ NoLostWakeup state)
    ⟨mutex_invariant_initial, no_lost_wakeup_initial⟩ (fun _ both => both.2)
    (fun _ _ _ both timely taken =>
      ⟨mutex_invariant_step both.1 taken, no_lost_wakeup_step both.1 both.2 timely taken⟩)
    (fun _ _ _ _ late taken => late_sleep_loses_wakeup late taken) run

/-- The reader evaluates its predicate on the open channel; the close stores
and notifies; the reader goes to sleep. -/
def closeInTheWindow : List (Action (Fin 1) String) :=
  [.onStateChange .kOpen, .advanceCallback, .getDataBuffer 0, .advanceReader 0, .advanceReader 0,
    .onStateChange .kClosed, .advanceCallback, .advanceCallback, .advanceReader 0]

theorem close_in_the_window_loses_wakeup :
    ¬∀ (actions : List (Action (Fin 1) String)) (state : State (Fin 1) String),
      replay step initial actions = some state → NoLostWakeup state := by
  intro claimed
  have awake := claimed closeInTheWindow _ rfl
  exact awake 0 rfl rfl

/-- The same close, one step later: the reader is asleep when it is notified. -/
theorem close_after_the_window_wakes :
    HoldsAlong NoLostWakeup step (initial : State (Fin 1) String)
      [.onStateChange .kOpen, .advanceCallback, .getDataBuffer 0, .advanceReader 0,
        .advanceReader 0, .advanceReader 0, .onStateChange .kClosed, .advanceCallback,
        .advanceCallback] := by
  apply (no_lost_wakeup_iff_sleeps_in_time _ _ rfl).mpr
  simp [MeetsAlong, SleepsInTime, step, advanceReader, advanceCallback, initial, State.moveReader,
    wakePredicate]

end PyWebRTC.DataBufferWakeup
