import PyWebRTC.DataBuffer

/-!
# What the holder of the buffer mutex knows

At most one thread is between a lock and an unlock of `data_buffer_mutex`.
Every change of `data_buffer` is made there, so the view a reader gained of the
buffer stays true until it lets the mutex go.
-/

namespace PyWebRTC.DataBufferMutex

open DataBuffer

set_option autoImplicit false

variable {Reader Message : Type*}

def ReaderPoint.HoldsMutex : ReaderPoint Message → Prop
  | .predicate | .block | .copy _ _ | .reset _ _ | .unlock _ => True
  | .outside | .lock | .asleep | .relock | .finish _ => False

def CallbackPoint.HoldsMutex : CallbackPoint Message → Prop
  | .messagePush _ | .messageUnlock => True
  | .idle | .messageLock _ | .messageNotify | .stateStore _ | .stateNotify => False

/-- What a reader that holds the mutex knows of the buffer: it is empty when the
predicate refused, and it is what the local vector copies. -/
def LocalView (buffer : List Message) : ReaderPoint Message → Prop
  | .block => buffer = []
  | .copy predicateOpen messages =>
      messages = buffer.take messages.length ∧ (predicateOpen = true → buffer ≠ [])
  | .reset predicateOpen messages =>
      messages = buffer ∧ (predicateOpen = true → buffer ≠ [])
  | _ => True

structure MutexInvariant (state : State Reader Message) : Prop where
  reader : ∀ reader, ReaderPoint.HoldsMutex (state.readers reader) →
    state.dataBufferMutex = some (.reader reader)
  callback : CallbackPoint.HoldsMutex state.callback → state.dataBufferMutex = some .callback
  view : ∀ reader, LocalView state.dataBuffer (state.readers reader)

theorem notify_holds_mutex (readers : Reader → ReaderPoint Message) (reader : Reader) :
    ReaderPoint.HoldsMutex (notifyAll readers reader) ↔
      ReaderPoint.HoldsMutex (readers reader) := by
  cases point : readers reader <;> simp [notifyAll, point, ReaderPoint.HoldsMutex]

theorem notify_local_view (buffer : List Message) (readers : Reader → ReaderPoint Message)
    (reader : Reader) :
    LocalView buffer (notifyAll readers reader) ↔ LocalView buffer (readers reader) := by
  cases point : readers reader <;> simp [notifyAll, point, LocalView]

theorem local_view_of_unlocked {point : ReaderPoint Message}
    (unlocked : ¬ReaderPoint.HoldsMutex point) (buffer : List Message) :
    LocalView buffer point := by
  cases point <;> simp_all [ReaderPoint.HoldsMutex, LocalView]

theorem others_unlocked {state : State Reader Message} (invariant : MutexInvariant state)
    {reader : Reader} (holds : ReaderPoint.HoldsMutex (state.readers reader)) :
    (∀ other, other ≠ reader → ¬ReaderPoint.HoldsMutex (state.readers other)) ∧
      ¬CallbackPoint.HoldsMutex state.callback := by
  have owner := invariant.reader reader holds
  constructor
  · intro other different otherHolds
    have otherOwner := invariant.reader other otherHolds
    simp_all
  · intro callbackHolds
    have callbackOwner := invariant.callback callbackHolds
    simp_all

theorem mutex_invariant_callback {state next : State Reader Message}
    (invariant : MutexInvariant state)
    (keeps : CallbackPoint.HoldsMutex next.callback → CallbackPoint.HoldsMutex state.callback)
    (mutex : next.dataBufferMutex = state.dataBufferMutex)
    (buffer : next.dataBuffer = state.dataBuffer) (readers : next.readers = state.readers) :
    MutexInvariant next where
  reader := by simpa only [mutex, readers] using invariant.reader
  callback := by
    intro holds
    rw [mutex]
    exact invariant.callback (keeps holds)
  view := by simpa only [buffer, readers] using invariant.view

theorem readers_unlocked {state : State Reader Message} (invariant : MutexInvariant state)
    (foreign : ∀ reader, state.dataBufferMutex ≠ some (.reader reader)) (reader : Reader) :
    ¬ReaderPoint.HoldsMutex (state.readers reader) :=
  fun holds => foreign reader (invariant.reader reader holds)

theorem mutex_invariant_initial : MutexInvariant (initial : State Reader Message) where
  reader := by simp [initial, ReaderPoint.HoldsMutex]
  callback := by simp [initial, CallbackPoint.HoldsMutex]
  view := by simp [initial, LocalView]

variable [DecidableEq Reader]

theorem mutex_invariant_move {state : State Reader Message} (invariant : MutexInvariant state)
    {reader : Reader} {point : ReaderPoint Message}
    (keeps : ReaderPoint.HoldsMutex point → ReaderPoint.HoldsMutex (state.readers reader))
    (local_view : LocalView state.dataBuffer point) :
    MutexInvariant (state.moveReader reader point) where
  reader := (Function.forall_update_iff state.readers fun other current =>
      ReaderPoint.HoldsMutex current → state.dataBufferMutex = some (.reader other)).mpr
    ⟨fun holds => invariant.reader reader (keeps holds), fun other _ => invariant.reader other⟩
  callback := invariant.callback
  view := (Function.forall_update_iff state.readers fun _ current =>
      LocalView state.dataBuffer current).mpr ⟨local_view, fun other _ => invariant.view other⟩

theorem mutex_invariant_release {state : State Reader Message}
    (invariant : MutexInvariant state) {reader : Reader} {point : ReaderPoint Message}
    (holds : ReaderPoint.HoldsMutex (state.readers reader))
    (unlocks : ¬ReaderPoint.HoldsMutex point) :
    MutexInvariant ({ state with dataBufferMutex := none }.moveReader reader point) where
  reader := (Function.forall_update_iff state.readers fun other current =>
      ReaderPoint.HoldsMutex current → none = some (Holder.reader other)).mpr
    ⟨fun still => absurd still unlocks,
      fun other different still => absurd still ((others_unlocked invariant holds).1 other different)⟩
  callback := fun still => absurd still (others_unlocked invariant holds).2
  view := (Function.forall_update_iff state.readers fun _ current =>
      LocalView state.dataBuffer current).mpr
    ⟨local_view_of_unlocked unlocks _, fun other _ => invariant.view other⟩

theorem mutex_invariant_acquire {state : State Reader Message}
    (invariant : MutexInvariant state) (reader : Reader) (free : state.dataBufferMutex = none) :
    MutexInvariant
      ({ state with dataBufferMutex := some (.reader reader) }.moveReader reader .predicate) where
  reader := (Function.forall_update_iff state.readers fun other current =>
      ReaderPoint.HoldsMutex current → some (Holder.reader reader) = some (.reader other)).mpr
    ⟨fun _ => rfl, fun other _ holds => by simpa [free] using invariant.reader other holds⟩
  callback := fun holds => by simpa [free] using invariant.callback holds
  view := (Function.forall_update_iff state.readers fun _ current =>
      LocalView state.dataBuffer current).mpr ⟨trivial, fun other _ => invariant.view other⟩

theorem mutex_invariant_step {state next : State Reader Message}
    {action : Action Reader Message} (invariant : MutexInvariant state)
    (taken : step state action = some next) : MutexInvariant next := by
  cases step_cases taken with
  | enter reader stands =>
      exact mutex_invariant_move invariant (by simp [ReaderPoint.HoldsMutex]) trivial
  | acquire reader stands free => exact mutex_invariant_acquire invariant reader free
  | pass reader stands wakes =>
      apply mutex_invariant_move invariant
      · simp [stands, ReaderPoint.HoldsMutex]
      · refine ⟨rfl, ?_⟩
        intro channelOpen
        simpa [wakePredicate, channelOpen] using wakes
  | refuse reader stands sleeps =>
      apply mutex_invariant_move invariant
      · simp [stands, ReaderPoint.HoldsMutex]
      · simp only [wakePredicate, Bool.or_eq_false_iff, Bool.not_eq_false'] at sleeps
        exact List.isEmpty_iff.mp sleeps.2
  | sleep reader stands =>
      exact mutex_invariant_release invariant (by simp [stands, ReaderPoint.HoldsMutex])
        (by simp [ReaderPoint.HoldsMutex])
  | copyOne reader predicateOpen messages message stands found =>
      have copied := invariant.view reader
      rw [stands] at copied
      apply mutex_invariant_move invariant
      · simp [stands, ReaderPoint.HoldsMutex]
      · refine ⟨?_, copied.2⟩
        obtain ⟨bound, value⟩ := List.getElem?_eq_some_iff.mp found
        rw [List.length_append, List.length_singleton, List.take_succ_eq_append_getElem bound,
          value, ← copied.1]
  | copyEnd reader predicateOpen messages stands ended =>
      have copied := invariant.view reader
      rw [stands] at copied
      apply mutex_invariant_move invariant
      · simp [stands, ReaderPoint.HoldsMutex]
      · refine ⟨?_, copied.2⟩
        have whole : state.dataBuffer.length ≤ messages.length := List.getElem?_eq_none_iff.mp ended
        rw [copied.1, List.take_of_length_le whole]
  | drain reader predicateOpen messages stands =>
      have holds : ReaderPoint.HoldsMutex (state.readers reader) := by
        simp [stands, ReaderPoint.HoldsMutex]
      obtain ⟨others, callback⟩ := others_unlocked invariant holds
      refine ⟨?_, invariant.callback, ?_⟩
      · exact (Function.forall_update_iff state.readers fun other current =>
            ReaderPoint.HoldsMutex current → state.dataBufferMutex = some (.reader other)).mpr
          ⟨fun _ => invariant.reader reader holds, fun other _ => invariant.reader other⟩
      · exact (Function.forall_update_iff state.readers fun _ current => LocalView [] current).mpr
          ⟨trivial, fun other different => local_view_of_unlocked (others other different) _⟩
  | release reader messages stands =>
      exact mutex_invariant_release invariant (by simp [stands, ReaderPoint.HoldsMutex])
        (by simp [ReaderPoint.HoldsMutex])
  | deliver reader messages stands =>
      have moved : MutexInvariant (state.moveReader reader .outside) :=
        mutex_invariant_move invariant (by simp [ReaderPoint.HoldsMutex]) trivial
      exact ⟨moved.reader, moved.callback, moved.view⟩
  | wake reader stands =>
      exact mutex_invariant_move invariant (by simp [ReaderPoint.HoldsMutex]) trivial
  | messageStart message stands | stateStart channelState stands =>
      exact mutex_invariant_callback invariant (by simp [CallbackPoint.HoldsMutex]) rfl rfl rfl
  | storeOpen stands | storeClosed stands | ignore channelState stands other =>
      exact mutex_invariant_callback invariant (by simp [CallbackPoint.HoldsMutex]) rfl rfl rfl
  | messageAcquire message stands free =>
      have unlocked := readers_unlocked invariant (by simp [free])
      exact ⟨fun reader holds => absurd holds (unlocked reader), fun _ => rfl, invariant.view⟩
  | messagePush message stands =>
      have owner := invariant.callback (by simp [stands, CallbackPoint.HoldsMutex])
      have unlocked := readers_unlocked invariant (by simp [owner])
      exact ⟨invariant.reader, fun _ => owner,
        fun reader => local_view_of_unlocked (unlocked reader) _⟩
  | messageRelease stands =>
      have owner := invariant.callback (by simp [stands, CallbackPoint.HoldsMutex])
      have unlocked := readers_unlocked invariant (by simp [owner])
      exact ⟨fun reader holds => absurd holds (unlocked reader), by simp [CallbackPoint.HoldsMutex],
        invariant.view⟩
  | notify stands =>
      refine ⟨?_, by simp [CallbackPoint.HoldsMutex], ?_⟩
      · intro reader holds
        exact invariant.reader reader ((notify_holds_mutex state.readers reader).mp holds)
      · intro reader
        exact (notify_local_view state.dataBuffer state.readers reader).mpr
          (invariant.view reader)

end PyWebRTC.DataBufferMutex
