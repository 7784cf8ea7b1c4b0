import PyWebRTC.DataBufferWakeup

/-!
# Progress on the receive buffer

`data_buffer_mutex` cannot deadlock: its holder always has a next statement. A
call that its predicate has let through is not held up by anything: it returns
after a number of its own steps that depends on the buffer it found.
-/

namespace PyWebRTC.DataBufferProgress

open ActionRuns DataBuffer DataBufferMutex
open DataBufferWakeup (SleepsInTime awake_once_closed)

set_option autoImplicit false

variable {Reader Message : Type*}

/-! ## The holder can go on -/

/-- The mutex is held by the thread that stands between a lock and an unlock. -/
structure OwnerInvariant (state : State Reader Message) : Prop where
  reader : ∀ reader, state.dataBufferMutex = some (.reader reader) →
    ReaderPoint.HoldsMutex (state.readers reader)
  callback : state.dataBufferMutex = some .callback → CallbackPoint.HoldsMutex state.callback

/-- Nothing is left to do but wait: no callback runs, and every reader is
outside or asleep. -/
def Quiescent (state : State Reader Message) : Prop :=
  state.callback = .idle ∧
    ∀ reader, state.readers reader = .outside ∨ state.readers reader = .asleep

theorem owner_invariant_initial : OwnerInvariant (initial : State Reader Message) where
  reader := by simp [initial]
  callback := by simp [initial]

theorem callback_holder_moves {state : State Reader Message}
    (holds : CallbackPoint.HoldsMutex state.callback) :
    (advanceCallback state).isSome = true := by
  unfold advanceCallback
  split <;> simp_all [CallbackPoint.HoldsMutex]

theorem callback_moves_when_free {state : State Reader Message}
    (free : state.dataBufferMutex = none) (running : state.callback ≠ .idle) :
    (advanceCallback state).isSome = true := by
  unfold advanceCallback
  split <;> simp_all

variable [DecidableEq Reader]

theorem owner_invariant_move {state : State Reader Message} (owner : OwnerInvariant state)
    {reader : Reader} {point : ReaderPoint Message}
    (keeps : ReaderPoint.HoldsMutex (state.readers reader) → ReaderPoint.HoldsMutex point) :
    OwnerInvariant (state.moveReader reader point) where
  reader := by
    intro other owned
    have holds := owner.reader other owned
    by_cases same : other = reader
    · subst same
      simpa [State.moveReader] using keeps holds
    · simpa [State.moveReader, same] using holds
  callback := owner.callback

theorem owner_invariant_step {state next : State Reader Message}
    {action : Action Reader Message} (owner : OwnerInvariant state)
    (taken : step state action = some next) : OwnerInvariant next := by
  cases step_cases taken with
  | enter reader stands | pass reader stands | refuse reader stands | wake reader stands
  | copyOne reader predicateOpen messages message stands
  | copyEnd reader predicateOpen messages stands =>
      exact owner_invariant_move owner (by simp [stands, ReaderPoint.HoldsMutex])
  | acquire reader stands free =>
      refine ⟨fun other owned => ?_, fun owned => by simp [State.moveReader] at owned⟩
      obtain rfl : reader = other := by simpa [State.moveReader] using owned
      simp [State.moveReader, ReaderPoint.HoldsMutex]
  | sleep reader stands | release reader messages stands =>
      exact ⟨fun other owned => by simp [State.moveReader] at owned,
        fun owned => by simp [State.moveReader] at owned⟩
  | drain reader predicateOpen messages stands =>
      have moved : OwnerInvariant (state.moveReader reader (.unlock messages)) :=
        owner_invariant_move owner (by simp [ReaderPoint.HoldsMutex])
      exact ⟨moved.reader, moved.callback⟩
  | deliver reader messages stands =>
      have moved : OwnerInvariant (state.moveReader reader .outside) :=
        owner_invariant_move owner (by simp [stands, ReaderPoint.HoldsMutex])
      exact ⟨moved.reader, moved.callback⟩
  | messageStart message stands | stateStart channelState stands | storeOpen stands
  | storeClosed stands | ignore channelState stands =>
      refine ⟨owner.reader, fun owned => ?_⟩
      have holds := owner.callback owned
      simp [stands, CallbackPoint.HoldsMutex] at holds
  | messageAcquire message stands free => exact ⟨fun _ owned => by simp at owned, fun _ => trivial⟩
  | messagePush message stands => exact ⟨owner.reader, fun _ => trivial⟩
  | messageRelease stands => exact ⟨fun _ owned => by simp at owned, fun owned => by simp at owned⟩
  | notify stands =>
      refine ⟨fun reader owned => ?_, fun owned => ?_⟩
      · exact (notify_holds_mutex state.readers reader).mpr (owner.reader reader owned)
      · have holds := owner.callback owned
        rcases stands with stands | stands <;> simp [stands, CallbackPoint.HoldsMutex] at holds

theorem owner_of_replay {actions : List (Action Reader Message)} {last : State Reader Message}
    (run : replay step initial actions = some last) : OwnerInvariant last :=
  replay_invariant OwnerInvariant owner_invariant_initial
    (fun _ _ _ => owner_invariant_step) run

def CanMove (state : State Reader Message) : Prop :=
  (∃ reader, (advanceReader state reader).isSome = true) ∨ (advanceCallback state).isSome = true

theorem holder_moves {state : State Reader Message} {reader : Reader}
    (holds : ReaderPoint.HoldsMutex (state.readers reader)) :
    (advanceReader state reader).isSome = true := by
  unfold advanceReader
  split <;> simp_all [ReaderPoint.HoldsMutex]
  · split <;> rfl
  · split <;> rfl

theorem can_move_of_locked {state : State Reader Message} (owner : OwnerInvariant state)
    (locked : state.dataBufferMutex ≠ none) : CanMove state := by
  obtain ⟨holder, held⟩ := Option.ne_none_iff_exists'.mp locked
  cases holder with
  | reader reader => exact .inl ⟨reader, holder_moves (owner.reader reader held)⟩
  | callback => exact .inr (callback_holder_moves (owner.callback held))

theorem reader_moves_when_free {state : State Reader Message}
    (free : state.dataBufferMutex = none) {reader : Reader}
    (inside : ¬(state.readers reader = .outside ∨ state.readers reader = .asleep)) :
    (advanceReader state reader).isSome = true := by
  by_cases holds : ReaderPoint.HoldsMutex (state.readers reader)
  · exact holder_moves holds
  · unfold advanceReader
    split <;> simp_all [ReaderPoint.HoldsMutex]

theorem not_can_move_of_quiescent {state : State Reader Message} (quiescent : Quiescent state) :
    ¬CanMove state := by
  obtain ⟨idle, waiting⟩ := quiescent
  rintro (⟨reader, moves⟩ | moves)
  · rcases waiting reader with stands | stands <;> simp [advanceReader, stands] at moves
  · simp [advanceCallback, idle] at moves

theorem quiescent_of_stuck {state : State Reader Message} (owner : OwnerInvariant state)
    (stuck : ¬CanMove state) : Quiescent state := by
  have free : state.dataBufferMutex = none := by
    by_contra locked
    exact stuck (can_move_of_locked owner locked)
  constructor
  · by_contra running
    exact stuck (.inr (callback_moves_when_free free running))
  · intro reader
    by_contra inside
    exact stuck (.inl ⟨reader, reader_moves_when_free free inside⟩)

/-- There is no deadlock: in every reachable state some thread can take its next
statement, unless no callback runs and all readers are outside or asleep. -/
theorem can_move_iff {actions : List (Action Reader Message)} {last : State Reader Message}
    (run : replay step initial actions = some last) : CanMove last ↔ ¬Quiescent last := by
  constructor
  · exact fun moves quiescent => not_can_move_of_quiescent quiescent moves
  · intro busy
    by_contra stuck
    exact busy (quiescent_of_stuck (owner_of_replay run) stuck)

/-- No reader stays blocked on a closed channel, if every sleep is in time: where
no thread can go on, all calls have returned. -/
theorem outside_once_closed {actions : List (Action Reader Message)}
    {last : State Reader Message} (run : replay step initial actions = some last)
    (meets : MeetsAlong SleepsInTime step initial actions)
    (closed : last.dataChannelOpen = false) (stuck : ¬CanMove last) (reader : Reader) :
    last.readers reader = .outside := by
  obtain ⟨idle, waiting⟩ := quiescent_of_stuck (owner_of_replay run) stuck
  have notified : ¬DataBufferWakeup.CallbackPoint.OwesNotify last.callback := by
    simp [idle, DataBufferWakeup.CallbackPoint.OwesNotify]
  exact (waiting reader).resolve_right (awake_once_closed run meets closed notified reader)

/-- A reader sleeps, and the callback that will wake it has not come yet. -/
def sleeperRun : List (Action Nat String) :=
  [.onStateChange .kOpen, .advanceCallback, .getDataBuffer 0, .advanceReader 0, .advanceReader 0,
    .advanceReader 0]

theorem sleeper_run_waits :
    ∃ last, replay step initial sleeperRun = some last ∧ last.readers 0 = .asleep ∧
      ¬CanMove last := by
  refine ⟨_, rfl, rfl, ?_⟩
  refine mt (@can_move_iff _ _ _ sleeperRun _ rfl).mp (not_not.mpr ⟨rfl, ?_⟩)
  intro reader
  by_cases sleeper : reader = 0
  · exact .inr (by simp [State.moveReader, sleeper])
  · exact .inl (by simp [State.moveReader, sleeper, initial])

/-! ## Calls that were let through -/

def ReaderPoint.Through : ReaderPoint Message → Prop
  | .copy _ _ | .reset _ _ | .unlock _ | .finish _ => True
  | _ => False

def remaining (dataBuffer : List Message) : ReaderPoint Message → Nat
  | .copy _ messages => dataBuffer.length - messages.length + 4
  | .reset _ _ => 3
  | .unlock _ => 2
  | .finish _ => 1
  | _ => 0

def isOwnStep (reader : Reader) : Action Reader Message → Bool
  | .advanceReader other => other = reader
  | _ => false

theorem through_moves {state : State Reader Message} {reader : Reader}
    (through : ReaderPoint.Through (state.readers reader)) :
    (advanceReader state reader).isSome = true := by
  unfold advanceReader
  split <;> simp_all [ReaderPoint.Through]
  split <;> rfl

theorem remaining_of_not_holding {point : ReaderPoint Message}
    (unlocked : ¬ReaderPoint.HoldsMutex point) (left right : List Message) :
    remaining left point = remaining right point := by
  cases point <;> simp_all [ReaderPoint.HoldsMutex, remaining]

/-- A step of another thread: it may change the buffer, but not while the reader
holds the mutex. -/
theorem remaining_frame {state next : State Reader Message} {action : Action Reader Message}
    {reader : Reader} (other : isOwnStep reader action = false)
    (stays : next.readers reader = state.readers reader)
    (buffer : next.dataBuffer = state.dataBuffer ∨
      ¬ReaderPoint.HoldsMutex (state.readers reader)) :
    remaining next.dataBuffer (next.readers reader) + (isOwnStep reader action).toNat ≤
      remaining state.dataBuffer (state.readers reader) := by
  rw [other, stays]
  rcases buffer with same | unlocked
  · rw [same]
    exact Nat.le_refl _
  · rw [remaining_of_not_holding unlocked next.dataBuffer state.dataBuffer]
    exact Nat.le_refl _

theorem remaining_other {state next : State Reader Message} {reader other : Reader}
    {point : ReaderPoint Message} (different : other ≠ reader)
    (readers : next.readers = Function.update state.readers other point)
    (buffer : next.dataBuffer = state.dataBuffer ∨
      ¬ReaderPoint.HoldsMutex (state.readers reader)) :
    remaining next.dataBuffer (next.readers reader) +
        (isOwnStep reader (.advanceReader other : Action Reader Message)).toNat ≤
      remaining state.dataBuffer (state.readers reader) := by
  apply remaining_frame (by simpa [isOwnStep] using different) _ buffer
  rw [readers, Function.update_of_ne different.symm]

theorem remaining_step {state next : State Reader Message} {action : Action Reader Message}
    {reader : Reader} (mutex : MutexInvariant state)
    (through : ReaderPoint.Through (state.readers reader))
    (taken : step state action = some next) :
    remaining next.dataBuffer (next.readers reader) + (isOwnStep reader action).toNat ≤
      remaining state.dataBuffer (state.readers reader) := by
  cases step_cases taken with
  | enter other stands | wake other stands =>
      have different : other ≠ reader := by
        rintro rfl
        simp [stands, ReaderPoint.Through] at through
      exact remaining_frame rfl (Function.update_of_ne different.symm _ _) (.inl rfl)
  | acquire other stands free =>
      have different : other ≠ reader := by
        rintro rfl
        rcases stands with stands | stands <;> simp [stands, ReaderPoint.Through] at through
      exact remaining_other different rfl (.inl rfl)
  | pass other stands | refuse other stands | sleep other stands =>
      have different : other ≠ reader := by
        rintro rfl
        simp [stands, ReaderPoint.Through] at through
      exact remaining_other different rfl (.inl rfl)
  | copyOne other predicateOpen messages message stands found =>
      by_cases same : other = reader
      · subst same
        obtain ⟨bound, -⟩ := List.getElem?_eq_some_iff.mp found
        simp only [State.moveReader, Function.update_self, stands, remaining, isOwnStep,
          decide_true, Bool.toNat_true, List.length_append, List.length_singleton]
        omega
      · exact remaining_other same rfl (.inl rfl)
  | copyEnd other predicateOpen messages stands ended =>
      by_cases same : other = reader
      · subst same
        simp only [State.moveReader, Function.update_self, stands, remaining, isOwnStep,
          decide_true, Bool.toNat_true]
        omega
      · exact remaining_other same rfl (.inl rfl)
  | drain other predicateOpen messages stands =>
      by_cases same : other = reader
      · subst same
        simp [State.moveReader, stands, remaining, isOwnStep]
      · refine remaining_other same rfl (.inr ?_)
        exact (others_unlocked mutex (by simp [stands, ReaderPoint.HoldsMutex])).1 reader
          (Ne.symm same)
  | release other messages stands | deliver other messages stands =>
      by_cases same : other = reader
      · subst same
        simp [State.moveReader, stands, remaining, isOwnStep]
      · exact remaining_other same rfl (.inl rfl)
  | messageStart message stands | stateStart channelState stands | storeOpen stands
  | storeClosed stands | ignore channelState stands | messageAcquire message stands
  | messageRelease stands => exact remaining_frame rfl rfl (.inl rfl)
  | messagePush message stands =>
      have owner := mutex.callback (by simp [stands, CallbackPoint.HoldsMutex])
      exact remaining_frame rfl rfl (.inr (readers_unlocked mutex (by simp [owner]) reader))
  | notify stands =>
      refine remaining_frame rfl ?_ (.inl rfl)
      dsimp only [notifyAll]
      split
      case h_1 asleep => simp [asleep, ReaderPoint.Through] at through
      case h_2 => rfl

theorem remaining_pos {point : ReaderPoint Message} (through : ReaderPoint.Through point)
    (dataBuffer : List Message) : 0 < remaining dataBuffer point := by
  cases point <;> simp_all [ReaderPoint.Through, remaining]

theorem remaining_run {actions : List (Action Reader Message)} {middle last : State Reader Message}
    {reader : Reader} (mutex : MutexInvariant middle)
    (run : replay step middle actions = some last)
    (along : HoldsAlong (fun state => ReaderPoint.Through (state.readers reader)) step middle
      actions) :
    ReaderPoint.Through (last.readers reader) ∧
      remaining last.dataBuffer (last.readers reader) + actions.countP (isOwnStep reader) ≤
        remaining middle.dataBuffer (middle.readers reader) := by
  induction actions generalizing middle with
  | nil =>
      obtain rfl := Option.some.inj run
      exact ⟨along, by simp⟩
  | cons action rest ih =>
      obtain ⟨next, taken, remains⟩ := replay_cons.mp run
      obtain ⟨through, later⟩ := along
      obtain ⟨throughLast, paid⟩ := ih (mutex_invariant_step mutex taken) remains (later next taken)
      have first := remaining_step mutex through taken
      refine ⟨throughLast, ?_⟩
      rw [List.countP_cons]
      cases own : isOwnStep reader action
      · simp only [own, Bool.toNat_false] at first
        simp
        omega
      · simp only [own, Bool.toNat_true] at first
        simp
        omega

/-- Once its predicate has let it through, a call can always take its next
statement, and it has returned before it takes as many as it had left. -/
theorem call_returns {before after : List (Action Reader Message)}
    {middle last : State Reader Message} {reader : Reader}
    (reached : replay step initial before = some middle)
    (run : replay step middle after = some last)
    (along : HoldsAlong (fun state => ReaderPoint.Through (state.readers reader)) step middle
      after) :
    (advanceReader last reader).isSome = true ∧
      after.countP (isOwnStep reader) < remaining middle.dataBuffer (middle.readers reader) := by
  have mutex := replay_invariant MutexInvariant mutex_invariant_initial
    (fun _ _ _ => mutex_invariant_step) reached
  obtain ⟨through, paid⟩ := remaining_run mutex run along
  have left := remaining_pos through last.dataBuffer
  exact ⟨through_moves through, by omega⟩

/-- The channel is not open, so the call is let through at once, with a message
to copy. -/
def closedChannelCall : List (Action Nat String) :=
  .onMessage "early" :: List.replicate 4 .advanceCallback ++
    [.getDataBuffer 0, .advanceReader 0, .advanceReader 0]

def lateMessage : List (Action Nat String) :=
  [.onMessage "late", .advanceReader 0, .advanceReader 0]

theorem closed_channel_call_returns :
    ∃ middle last, replay step initial closedChannelCall = some middle ∧
      middle.dataBuffer = ["early"] ∧ replay step middle lateMessage = some last ∧
      (advanceReader last 0).isSome = true ∧
      lateMessage.countP (isOwnStep 0) < remaining middle.dataBuffer (middle.readers 0) := by
  refine ⟨_, _, rfl, rfl, rfl,
    @call_returns _ _ _ closedChannelCall lateMessage _ _ 0 rfl rfl ?_⟩
  refine ⟨trivial, fun next taken => ?_⟩
  obtain rfl := Option.some.inj taken
  refine ⟨trivial, fun next taken => ?_⟩
  obtain rfl := Option.some.inj taken
  refine ⟨trivial, fun next taken => ?_⟩
  obtain rfl := Option.some.inj taken
  trivial

end PyWebRTC.DataBufferProgress
