import PyWebRTC.GlobalInterpreterLock

/-!
# A failed description stops Python

`OnFailure` raises no flag that `get_sdp` looks at, and the call it belongs to
owns the interpreter lock. From that callback on no Python thread takes another
step: not the ones that wait for the lock, and not a reader whose messages have
arrived.
-/

namespace PyWebRTC.FrozenInterpreter

open ActionRuns ForwardSimulation GlobalInterpreterLock

set_option autoImplicit false

variable {Thread Message : Type*}

/-- The steps of Python code, and those that pass the lock on. -/
def needsTheLock : Action Thread Message → Bool
  | .acquire _ | .release _ | .getSDP _ | .receiveOffer _ | .readFromDataChannel _
  | .endAllowThreads _ => true
  | .advanceCall _ | .advanceReader _ | .sessionCallback _ | .bufferCallback _ => false

/-- The caller waits for a description that no callback will bring. -/
def Doomed (number : Nat) (session : SessionDescription.State) : Prop :=
  session.caller = .spinning number ∧ session.outstanding = [] ∧ session.offerSet = false ∧
    (session.callback = .idle ∨ session.callback = .failure number)

theorem doomed_of_failure {session next : SessionDescription.State} {number : Nat}
    (linked : SessionDescription.Linked session)
    (taken : SessionDescription.step session (.onFailure number) = some next) :
    Doomed number next := by
  simp only [SessionDescription.step] at taken
  split at taken
  case h_2 => contradiction
  case h_1 =>
    split at taken
    case isFalse => contradiction
    case isTrue member =>
      obtain ⟨spinning, outstanding, -, flag, -⟩ :=
        SessionDescription.spinning_of_outstanding linked member
      obtain rfl := Option.some.inj taken
      exact ⟨spinning, by simp [outstanding], flag, .inr rfl⟩

theorem doomed_step {session next : SessionDescription.State} {number : Nat}
    {action : SessionDescription.Action} (doomed : Doomed number session)
    (taken : SessionDescription.step session action = some next) : Doomed number next := by
  obtain ⟨spinning, outstanding, flag, callback⟩ := doomed
  cases action with
  | getOffer | receiveOffer => simp [SessionDescription.step, spinning] at taken
  | advanceCaller =>
      simp only [SessionDescription.step, SessionDescription.advanceCaller, spinning, flag] at taken
      obtain rfl := Option.some.inj taken
      exact ⟨spinning, outstanding, flag, callback⟩
  | onSuccess answered description | onFailure answered =>
      rcases callback with callback | callback
      · simp [SessionDescription.step, callback, outstanding] at taken
      · simp [SessionDescription.step, callback] at taken
  | advanceCallback =>
      rcases callback with callback | callback
      · simp [SessionDescription.step, SessionDescription.advanceCallback, callback] at taken
      · simp only [SessionDescription.step, SessionDescription.advanceCallback, callback] at taken
        obtain rfl := Option.some.inj taken
        exact ⟨spinning, outstanding, flag, .inl rfl⟩
  | setDescriptionFailed =>
      obtain rfl := Option.some.inj taken
      exact ⟨spinning, outstanding, flag, callback⟩

/-- The thread keeps the lock in a call that does not end. -/
structure Frozen (thread : Thread) (number : Nat) (state : State Thread Message) : Prop where
  owner : state.gil = some thread
  inside : state.place thread = .describing
  alone : ∀ other, state.place other = .describing → other = thread
  doomed : Doomed number state.session

theorem frozen_of_doomed {state : State Thread Message} {number : Nat}
    (consistent : Consistent state) (doomed : Doomed number state.session) :
    ∃ thread, Frozen thread number state := by
  have running : callReturned state.session = false := by simp [callReturned, doomed.1]
  obtain ⟨thread, inside⟩ := consistent.caller.mp running
  have owner := consistent.describing thread inside
  refine ⟨thread, owner, inside, fun other otherInside => ?_, doomed⟩
  simpa [owner] using (consistent.describing other otherInside).symm

variable [DecidableEq Thread]

theorem frozen_step {state next : State Thread Message} {action : Action Thread Message}
    {thread : Thread} {number : Nat} (frozen : Frozen thread number state)
    (taken : step state action = some next) :
    needsTheLock action = false ∧ Frozen thread number next := by
  obtain ⟨owner, inside, alone, doomed⟩ := frozen
  have notPython {other : Thread} (owns : state.gil = some other) :
      state.place other ≠ .python := by
    obtain rfl : thread = other := by simpa [owner] using owns
    simp [inside]
  cases action with
  | acquire other | endAllowThreads other => simp [step, owner] at taken
  | release other | readFromDataChannel other =>
      simp only [step] at taken
      split at taken
      case isFalse => contradiction
      case isTrue owns => exact absurd owns.2 (notPython owns.1)
  | getSDP other | receiveOffer other =>
      simp only [step, describe] at taken
      split at taken
      case isFalse => contradiction
      case isTrue owns => exact absurd owns.2 (notPython owns.1)
  | advanceCall other =>
      simp only [step] at taken
      split at taken
      case isFalse => contradiction
      case isTrue otherInside =>
        obtain rfl := alone other otherInside
        obtain ⟨session, advanced, rfl⟩ := Option.map_eq_some_iff.mp taken
        have doomedNext := doomed_step doomed advanced
        have running : callReturned session = false := by simp [callReturned, doomedNext.1]
        refine ⟨rfl, owner, by simp [State.moveThread, running], fun third thirdInside => ?_,
          doomedNext⟩
        by_contra different
        exact different (alone third (by simpa [State.moveThread, different] using thirdInside))
  | advanceReader other =>
      simp only [step] at taken
      split at taken
      case isFalse => contradiction
      case isTrue reading =>
        obtain ⟨buffer, -, rfl⟩ := Option.map_eq_some_iff.mp taken
        have different : thread ≠ other := by
          rintro rfl
          simp [inside] at reading
        refine ⟨rfl, owner, by simpa [State.moveThread, different] using inside,
          fun third thirdInside => ?_, doomed⟩
        by_cases same : third = other
        · subst same
          simp only [State.moveThread, Function.update_self] at thirdInside
          split at thirdInside <;> contradiction
        · exact alone third (by simpa [State.moveThread, same] using thirdInside)
  | sessionCallback action =>
      simp only [step] at taken
      split at taken
      case isFalse => contradiction
      case isTrue =>
        obtain ⟨session, called, rfl⟩ := Option.map_eq_some_iff.mp taken
        exact ⟨rfl, owner, inside, alone, doomed_step doomed called⟩
  | bufferCallback action =>
      simp only [step] at taken
      split at taken
      case isFalse => contradiction
      case isTrue =>
        obtain ⟨buffer, -, rfl⟩ := Option.map_eq_some_iff.mp taken
        exact ⟨rfl, owner, inside, alone, doomed⟩

theorem frozen_run {actions : List (Action Thread Message)} {state last : State Thread Message}
    {thread : Thread} {number : Nat} (frozen : Frozen thread number state)
    (run : replay step state actions = some last) :
    (∀ action ∈ actions, needsTheLock action = false) ∧ Frozen thread number last := by
  induction actions generalizing state with
  | nil => exact ⟨by simp, Option.some.inj run ▸ frozen⟩
  | cons action rest ih =>
      obtain ⟨next, taken, remaining⟩ := replay_cons.mp run
      obtain ⟨first, frozenNext⟩ := frozen_step frozen taken
      obtain ⟨others, frozenLast⟩ := ih frozenNext remaining
      exact ⟨List.forall_mem_cons.mpr ⟨first, others⟩, frozenLast⟩

/-- From the callback of a failed description on, one thread owns the lock and
spins in its call, and no step that needs the lock is taken. -/
theorem creation_failure_freezes_python {before after : List (Action Thread Message)}
    {number : Nat} {last : State Thread Message}
    (run : replay step initial (before ++ .sessionCallback (.onFailure number) :: after) =
      some last) :
    (∃ thread, last.gil = some thread ∧ last.place thread = .describing) ∧
      last.session.caller = .spinning number ∧
      ∀ action ∈ after, needsTheLock action = false := by
  obtain ⟨middle, reached, continued⟩ := replay_append.mp run
  obtain ⟨failing, taken, remaining⟩ := replay_cons.mp continued
  have linked := SessionDescriptionHandOff.linked_of_replay (session_of_replay reached)
  have doomed : Doomed number failing.session := by
    simp only [step, isSessionCallback, if_true] at taken
    obtain ⟨session, failed, rfl⟩ := Option.map_eq_some_iff.mp taken
    exact doomed_of_failure linked failed
  have consistent := consistent_step (consistent_of_replay reached) taken
  obtain ⟨thread, frozen⟩ := frozen_of_doomed consistent doomed
  obtain ⟨steps, frozenLast⟩ := frozen_run frozen remaining
  exact ⟨⟨thread, frozenLast.owner, frozenLast.inside⟩, frozenLast.doomed.1, steps⟩

def callsBeforeFailure : List (Action Nat String) :=
  [.acquire 0, .readFromDataChannel 0, .acquire 1, .getSDP 1, .advanceCall 1]

def stepsAfterFailure : List (Action Nat String) :=
  [.sessionCallback .advanceCallback, .advanceReader 0, .advanceCall 1,
    .bufferCallback (.onMessage "late")]

theorem failure_run_freezes :
    ∃ last, replay step initial (callsBeforeFailure ++ .sessionCallback (.onFailure 0) ::
        stepsAfterFailure) = some last ∧
      ∃ thread, last.gil = some thread ∧ last.place thread = .describing :=
  ⟨_, rfl, (@creation_failure_freezes_python _ _ _ callsBeforeFailure stepsAfterFailure 0 _ rfl).1⟩

end PyWebRTC.FrozenInterpreter
