import PyWebRTC.ActionRuns
import PyWebRTC.ConnectionHandles
import PyWebRTC.ForwardSimulation

/-!
# The constructor and its thread

The constructor of `WebRTCConnection` starts a thread that makes the factory,
and waits for it at `peer_connection_factory_mutex`: it locks the mutex before
the start, and the thread unlocks it once the factory is stored. The destructor
takes the handles away, tells the thread to quit and joins it.
-/

namespace PyWebRTC.FactoryHandshake

open ActionRuns ForwardSimulation
open ConnectionHandles (Handle Setup WebRTCConnection runnableRun construct construct_eq connectionOf
  deref Operation)

set_option autoImplicit false

/-- The two threads: the one that constructs and destroys, and the one that
runs `CustomRunnable::Run`. -/
inductive Party where
  | owner
  | runnable
  deriving DecidableEq

/-- The next statement of the constructor, then of the destructor. -/
inductive OwnerPoint where
  | lock
  | start
  | tryLock
  | unlock
  | createPeerConnection
  | testPeerConnection
  | constructed
  | close
  | resetHandles
  | quit
  | join
  | destroyed
  | crashed (handle : Handle)
  deriving DecidableEq

/-- The next statement of `CustomRunnable::Run`. It returns after its message
about the null pointer, or when the loop of `subthread->Run()` is told to quit. -/
inductive RunnablePoint where
  | unstarted
  | createPeerConnectionFactory
  | unlock
  | testFactory
  | running
  | returned
  | ended
  deriving DecidableEq

structure State (Factory PeerConnection : Type) where
  peerConnectionFactoryMutex : Option Party
  connection : WebRTCConnection Factory PeerConnection
  quitting : Bool
  owner : OwnerPoint
  runnable : RunnablePoint

inductive Action where
  | owner
  | runnable
  | destroy
  deriving DecidableEq

variable {Factory PeerConnection : Type}

def initial : State Factory PeerConnection where
  peerConnectionFactoryMutex := none
  connection := ⟨none, none⟩
  quitting := false
  owner := .lock
  runnable := .unstarted

/-- A `try_lock` on a mutex that is held fails, and the loop comes round to it
again. -/
def advanceOwner (setup : Setup Factory PeerConnection) (state : State Factory PeerConnection) :
    Option (State Factory PeerConnection) :=
  match state.owner with
  | .lock =>
      match state.peerConnectionFactoryMutex with
      | none => some { state with peerConnectionFactoryMutex := some .owner, owner := .start }
      | some _ => none
  | .start => some { state with runnable := .createPeerConnectionFactory, owner := .tryLock }
  | .tryLock =>
      match state.peerConnectionFactoryMutex with
      | none => some { state with peerConnectionFactoryMutex := some .owner, owner := .unlock }
      | some _ => some state
  | .unlock =>
      some { state with peerConnectionFactoryMutex := none, owner := .createPeerConnection }
  | .createPeerConnection =>
      match state.connection.peerConnectionFactory with
      | none => some { state with owner := .crashed .peerConnectionFactory }
      | some factory =>
          some { state with
            connection := ⟨some factory, setup.peerConnection⟩, owner := .testPeerConnection }
  | .testPeerConnection =>
      match state.connection.peerConnection with
      | none => some { state with connection := ⟨none, none⟩, owner := .constructed }
      | some _ => some { state with owner := .constructed }
  | .close =>
      match state.connection.peerConnection with
      | none => some { state with owner := .crashed .peerConnection }
      | some _ => some { state with owner := .resetHandles }
  | .resetHandles => some { state with connection := ⟨none, none⟩, owner := .quit }
  | .quit => some { state with quitting := true, owner := .join }
  | .join =>
      match state.runnable with
      | .returned | .ended => some { state with owner := .destroyed }
      | _ => none
  | .constructed | .destroyed | .crashed _ => none

/-- `std::mutex::unlock` asks for the thread that locked; what the mutex does here
is to become free whoever calls. -/
def advanceRunnable (setup : Setup Factory PeerConnection)
    (state : State Factory PeerConnection) : Option (State Factory PeerConnection) :=
  match state.runnable with
  | .createPeerConnectionFactory =>
      some { state with
        connection := runnableRun state.connection setup.factory, runnable := .unlock }
  | .unlock => some { state with peerConnectionFactoryMutex := none, runnable := .testFactory }
  | .testFactory =>
      match state.connection.peerConnectionFactory with
      | none => some { state with runnable := .returned }
      | some _ => some { state with runnable := .running }
  | .running => if state.quitting then some { state with runnable := .ended } else none
  | .unstarted | .returned | .ended => none

/-- A null dereference ends both threads. -/
def step (setup : Setup Factory PeerConnection) (state : State Factory PeerConnection)
    (action : Action) : Option (State Factory PeerConnection) :=
  match state.owner, action with
  | .crashed _, _ => none
  | _, .owner => advanceOwner setup state
  | _, .runnable => advanceRunnable setup state
  | .constructed, .destroy => some { state with owner := .close }
  | _, .destroy => none

/-! ## Where the two threads can be -/

def RunnablePoint.HasUnlocked : RunnablePoint → Prop
  | .testFactory | .running | .returned | .ended => True
  | .unstarted | .createPeerConnectionFactory | .unlock => False

/-- The mutex and the handles at each statement of the owner. While it tries to
lock, the mutex is its own until the thread has stored the factory. -/
def Stage (setup : Setup Factory PeerConnection) (state : State Factory PeerConnection) : Prop :=
  match state.owner with
  | .lock => state.runnable = .unstarted ∧ state.peerConnectionFactoryMutex = none ∧
      state.connection = ⟨none, none⟩
  | .start => state.runnable = .unstarted ∧ state.peerConnectionFactoryMutex = some .owner ∧
      state.connection = ⟨none, none⟩
  | .tryLock =>
      (state.runnable = .createPeerConnectionFactory ∧
        state.peerConnectionFactoryMutex = some .owner ∧ state.connection = ⟨none, none⟩) ∨
      (state.runnable = .unlock ∧ state.peerConnectionFactoryMutex = some .owner ∧
        state.connection = ⟨setup.factory, none⟩) ∨
      (state.runnable.HasUnlocked ∧ state.peerConnectionFactoryMutex = none ∧
        state.connection = ⟨setup.factory, none⟩)
  | .unlock => state.runnable.HasUnlocked ∧ state.peerConnectionFactoryMutex = some .owner ∧
      state.connection = ⟨setup.factory, none⟩
  | .createPeerConnection => state.runnable.HasUnlocked ∧
      state.peerConnectionFactoryMutex = none ∧ state.connection = ⟨setup.factory, none⟩
  | .testPeerConnection => state.runnable.HasUnlocked ∧
      state.peerConnectionFactoryMutex = none ∧ setup.factory.isSome ∧
      state.connection = ⟨setup.factory, setup.peerConnection⟩
  | .constructed | .close => state.runnable.HasUnlocked ∧
      state.peerConnectionFactoryMutex = none ∧ setup.factory.isSome ∧
      state.connection = connectionOf setup
  | .resetHandles | .quit | .join | .destroyed => state.runnable.HasUnlocked ∧
      state.peerConnectionFactoryMutex = none ∧ setup.factory.isSome ∧
      setup.peerConnection.isSome
  | .crashed handle => state.runnable.HasUnlocked ∧ state.peerConnectionFactoryMutex = none ∧
      match handle with
      | .peerConnectionFactory => setup.factory = none
      | .peerConnection => setup.factory.isSome ∧ setup.peerConnection = none
      | .connection => False

structure Consistent (setup : Setup Factory PeerConnection)
    (state : State Factory PeerConnection) : Prop where
  stage : Stage setup state
  quitting : state.quitting = true ↔ state.owner = .join ∨ state.owner = .destroyed
  ended : state.runnable = .ended → state.quitting = true
  returned : state.runnable = .returned → state.connection.peerConnectionFactory = none
  joined : state.owner = .destroyed → state.runnable = .returned ∨ state.runnable = .ended

variable {setup : Setup Factory PeerConnection} {state next : State Factory PeerConnection}

theorem consistent_initial : Consistent setup initial where
  stage := ⟨rfl, rfl, rfl⟩
  quitting := by simp [initial]
  ended := by simp [initial]
  returned := by simp [initial]
  joined := by simp [initial]

theorem consistent_owner (consistent : Consistent setup state)
    (taken : advanceOwner setup state = some next) : Consistent setup next := by
  obtain ⟨mutex, connection, quitting, owner, runnable⟩ := state
  obtain ⟨stage, quits, ended, returned, joined⟩ := consistent
  cases owner with
  | lock | start =>
      obtain ⟨rfl, rfl, rfl⟩ := stage
      obtain rfl := Option.some.inj taken
      exact ⟨by simp [Stage], by simpa using quits, by simp, by simp, by simp⟩
  | tryLock =>
      rcases stage with ⟨rfl, rfl, rfl⟩ | ⟨rfl, rfl, rfl⟩ | ⟨unlocked, rfl, rfl⟩
      · obtain rfl := Option.some.inj taken
        exact ⟨.inl ⟨rfl, rfl, rfl⟩, quits, ended, returned, joined⟩
      · obtain rfl := Option.some.inj taken
        exact ⟨.inr (.inl ⟨rfl, rfl, rfl⟩), quits, ended, returned, joined⟩
      · obtain rfl := Option.some.inj taken
        exact ⟨⟨unlocked, rfl, rfl⟩, by simpa using quits, ended, returned, by simp⟩
  | unlock =>
      obtain ⟨unlocked, rfl, rfl⟩ := stage
      obtain rfl := Option.some.inj taken
      exact ⟨⟨unlocked, rfl, rfl⟩, by simpa using quits, ended, returned, by simp⟩
  | createPeerConnection =>
      obtain ⟨unlocked, rfl, rfl⟩ := stage
      obtain ⟨_ | factory, peerConnection⟩ := setup
      · obtain rfl := Option.some.inj taken
        exact ⟨⟨unlocked, rfl, rfl⟩, by simpa using quits, ended, returned, by simp⟩
      · obtain rfl := Option.some.inj taken
        exact ⟨⟨unlocked, rfl, rfl, rfl⟩, by simpa using quits, ended, returned, by simp⟩
  | testPeerConnection =>
      obtain ⟨unlocked, rfl, made, rfl⟩ := stage
      obtain ⟨factory, _ | peerConnection⟩ := setup
      · obtain rfl := Option.some.inj taken
        exact ⟨⟨unlocked, rfl, made, rfl⟩, by simpa using quits, ended, by simp, by simp⟩
      · obtain rfl := Option.some.inj taken
        exact ⟨⟨unlocked, rfl, made, rfl⟩, by simpa using quits, ended, returned, by simp⟩
  | close =>
      obtain ⟨unlocked, rfl, made, rfl⟩ := stage
      obtain ⟨factory, _ | peerConnection⟩ := setup
      · obtain rfl := Option.some.inj taken
        exact ⟨⟨unlocked, rfl, made, rfl⟩, by simpa using quits, ended, returned, by simp⟩
      · obtain rfl := Option.some.inj taken
        exact ⟨⟨unlocked, rfl, made, rfl⟩, by simpa using quits, ended, returned, by simp⟩
  | resetHandles =>
      obtain rfl := Option.some.inj taken
      exact ⟨stage, by simpa using quits, ended, by simp, by simp⟩
  | quit =>
      obtain rfl := Option.some.inj taken
      exact ⟨stage, by simp, by simp, returned, by simp⟩
  | join =>
      have quitted : quitting = true := quits.mpr (.inl rfl)
      cases runnable with
      | returned =>
          obtain rfl := Option.some.inj taken
          exact ⟨stage, by simp [quitted], ended, returned, by simp⟩
      | ended =>
          obtain rfl := Option.some.inj taken
          exact ⟨stage, by simp [quitted], ended, returned, by simp⟩
      | _ => contradiction
  | constructed | destroyed | crashed => contradiction

theorem stage_of_unlocked (stage : Stage setup state) (unlocked : state.runnable.HasUnlocked)
    (point : RunnablePoint) (still : point.HasUnlocked) :
    Stage setup { state with runnable := point } := by
  obtain ⟨mutex, connection, quitting, owner, runnable⟩ := state
  cases owner with
  | lock | start =>
      obtain ⟨rfl, -⟩ := stage
      exact unlocked.elim
  | tryLock =>
      rcases stage with ⟨rfl, -⟩ | ⟨rfl, -⟩ | ⟨-, rest⟩
      · exact unlocked.elim
      · exact unlocked.elim
      · exact .inr (.inr ⟨still, rest⟩)
  | _ => exact ⟨still, stage.2⟩

theorem consistent_runnable (consistent : Consistent setup state)
    (taken : advanceRunnable setup state = some next) : Consistent setup next := by
  obtain ⟨mutex, connection, quitting, owner, runnable⟩ := state
  obtain ⟨stage, quits, ended, returned, joined⟩ := consistent
  cases runnable with
  | createPeerConnectionFactory =>
      obtain rfl := Option.some.inj taken
      cases owner with
      | tryLock =>
          rcases stage with ⟨-, rfl, rfl⟩ | ⟨impossible, -⟩ | ⟨impossible, -⟩
          · exact ⟨.inr (.inl ⟨rfl, rfl, rfl⟩), quits, by simp, by simp, by simp⟩
          · contradiction
          · exact impossible.elim
      | lock | start => exact absurd stage.1 (by simp)
      | _ => exact stage.1.elim
  | unlock =>
      obtain rfl := Option.some.inj taken
      cases owner with
      | tryLock =>
          rcases stage with ⟨impossible, -⟩ | ⟨-, rfl, rfl⟩ | ⟨impossible, -⟩
          · contradiction
          · exact ⟨.inr (.inr ⟨trivial, rfl, rfl⟩), quits, by simp, by simp, by simp⟩
          · exact impossible.elim
      | lock | start => exact absurd stage.1 (by simp)
      | _ => exact stage.1.elim
  | testFactory =>
      have unfinished : owner ≠ .destroyed := by
        rintro rfl
        simpa using joined rfl
      cases found : connection.peerConnectionFactory with
      | none =>
          obtain rfl : _ = next := by simpa [advanceRunnable, found] using taken
          exact ⟨stage_of_unlocked stage trivial .returned trivial, quits, by simp,
            fun _ => found, fun finished => absurd finished unfinished⟩
      | some factory =>
          obtain rfl : _ = next := by simpa [advanceRunnable, found] using taken
          exact ⟨stage_of_unlocked stage trivial .running trivial, quits, by simp,
            by simp, fun finished => absurd finished unfinished⟩
  | running =>
      have unfinished : owner ≠ .destroyed := by
        rintro rfl
        simpa using joined rfl
      cases quitting with
      | false => simp [advanceRunnable] at taken
      | true =>
          obtain rfl := Option.some.inj taken
          exact ⟨stage_of_unlocked stage trivial .ended trivial, quits, by simp,
            by simp, fun finished => absurd finished unfinished⟩
  | unstarted | returned | ended => contradiction

theorem step_cases {action : Action} (taken : step setup state action = some next) :
    (action = .owner ∧ advanceOwner setup state = some next) ∨
      (action = .runnable ∧ advanceRunnable setup state = some next) ∨
      (action = .destroy ∧ state.owner = .constructed ∧
        next = { state with owner := .close }) := by
  unfold step at taken
  split at taken
  · contradiction
  · exact .inl ⟨rfl, taken⟩
  · exact .inr (.inl ⟨rfl, taken⟩)
  · next constructed => exact .inr (.inr ⟨rfl, constructed, (Option.some.inj taken).symm⟩)
  · contradiction

theorem consistent_step {action : Action} (consistent : Consistent setup state)
    (taken : step setup state action = some next) : Consistent setup next := by
  obtain ⟨-, moved⟩ | ⟨-, moved⟩ | ⟨-, constructed, rfl⟩ := step_cases taken
  · exact consistent_owner consistent moved
  · exact consistent_runnable consistent moved
  · obtain ⟨mutex, connection, quitting, owner, runnable⟩ := state
    obtain rfl : owner = .constructed := constructed
    exact ⟨consistent.stage, by simpa using consistent.quitting, consistent.ended,
      consistent.returned, by simp⟩

theorem consistent_of_replay {actions : List Action}
    (run : replay (step setup) initial actions = some next) : Consistent setup next :=
  replay_invariant (Consistent setup) consistent_initial
    (fun _ _ _ consistent taken => consistent_step consistent taken) run

/-! ## The threads refine the sequential object -/

/-- The constructor has its outcome when it asks for the peer connection, the
destructor when it closes it. -/
def takesEffect (setup : Setup Factory PeerConnection) (state : State Factory PeerConnection) :
    Action → List (Operation Factory PeerConnection)
  | .owner =>
      match state.owner with
      | .createPeerConnection => [.init (some setup)]
      | .close => [.dealloc]
      | _ => []
  | .runnable | .destroy => []

def abstraction (setup : Setup Factory PeerConnection) :
    OwnerPoint → ConnectionHandles.State Factory PeerConnection
  | .lock | .start | .tryLock | .unlock | .createPeerConnection => .alive none
  | .testPeerConnection | .constructed | .close => .alive (some (connectionOf setup))
  | .resetHandles | .quit | .join | .destroyed => .freed
  | .crashed handle => .crashed handle

theorem construct_of_factory (made : setup.factory.isSome) :
    construct setup = .ok (connectionOf setup) := by
  obtain ⟨factory, found⟩ := Option.isSome_iff_exists.mp made
  simp [construct_eq, found, deref, Except.map]

theorem runnable_keeps_owner (taken : advanceRunnable setup state = some next) :
    next.owner = state.owner := by
  unfold advanceRunnable at taken
  split at taken
  · exact Option.some.inj taken ▸ rfl
  · exact Option.some.inj taken ▸ rfl
  · split at taken <;> exact Option.some.inj taken ▸ rfl
  · split at taken
    · exact Option.some.inj taken ▸ rfl
    · contradiction
  all_goals contradiction

theorem abstraction_owner (stage : Stage setup state)
    (taken : advanceOwner setup state = some next) :
    replay ConnectionHandles.step (abstraction setup state.owner)
      (takesEffect setup state .owner) = some (abstraction setup next.owner) := by
  obtain ⟨mutex, connection, quitting, owner, runnable⟩ := state
  cases owner with
  | lock | start =>
      obtain ⟨-, rfl, -⟩ := stage
      obtain rfl := Option.some.inj taken
      rfl
  | tryLock =>
      cases mutex <;> exact Option.some.inj taken ▸ rfl
  | createPeerConnection =>
      obtain ⟨-, -, rfl⟩ := stage
      obtain ⟨_ | factory, peerConnection⟩ := setup
      · obtain rfl := Option.some.inj taken
        rfl
      · obtain rfl := Option.some.inj taken
        cases peerConnection <;> rfl
  | testPeerConnection =>
      cases found : connection.peerConnection <;>
        · simp only [advanceOwner, found, Option.some.injEq] at taken
          exact taken ▸ rfl
  | close =>
      obtain ⟨-, -, -, rfl⟩ := stage
      obtain ⟨factory, _ | peerConnection⟩ := setup
      · obtain rfl := Option.some.inj taken
        rfl
      · obtain rfl := Option.some.inj taken
        rfl
  | unlock | resetHandles | quit => exact Option.some.inj taken ▸ rfl
  | join => cases runnable <;> first | contradiction | exact Option.some.inj taken ▸ rfl
  | constructed | destroyed | crashed => contradiction

theorem abstraction_step {action : Action} (consistent : Consistent setup state)
    (taken : step setup state action = some next) :
    replay ConnectionHandles.step (abstraction setup state.owner)
      (takesEffect setup state action) = some (abstraction setup next.owner) := by
  obtain ⟨rfl, moved⟩ | ⟨rfl, moved⟩ | ⟨rfl, constructed, rfl⟩ := step_cases taken
  · exact abstraction_owner consistent.stage moved
  · simp [takesEffect, replay, runnable_keeps_owner moved]
  · simp [takesEffect, replay, constructed, abstraction]

/-- Whatever WebRTC gives and however the threads take turns, the object goes
through the operations of the sequential one. Constructed, it has the handles
that the sequential constructor leaves; and with a peer connection, the thread is
in its loop or about to enter it. Destroyed, the thread is over. -/
theorem threads_refine_handles {actions : List Action} {last : State Factory PeerConnection}
    (run : replay (step setup) initial actions = some last) :
    replay ConnectionHandles.step (.alive none)
        (operations (takesEffect setup) (step setup) initial actions) =
      some (abstraction setup last.owner) ∧
    (last.owner = .constructed →
      construct setup = .ok last.connection ∧
        (last.connection.peerConnection.isSome →
          last.runnable = .testFactory ∨ last.runnable = .running)) ∧
    (last.owner = .destroyed → last.runnable = .returned ∨ last.runnable = .ended) := by
  have consistent := consistent_of_replay run
  refine ⟨?_, ?_, consistent.joined⟩
  · obtain ⟨abstract, replayed, -, rfl⟩ :=
      replay_operations (fun state abstract => Consistent setup state ∧
          abstract = abstraction setup state.owner)
        (fun state action next abstract related taken =>
          ⟨_, related.2 ▸ abstraction_step related.1 taken,
            consistent_step related.1 taken, rfl⟩)
        ⟨consistent_initial, rfl⟩ run
    exact replayed
  · intro constructed
    have stage := consistent.stage
    rw [Stage, constructed] at stage
    obtain ⟨unlocked, -, made, same⟩ := stage
    refine ⟨by rw [same]; exact construct_of_factory made, ?_⟩
    intro connected
    have kept : last.connection.peerConnectionFactory = setup.factory := by
      rw [same] at connected ⊢
      cases found : setup.peerConnection <;> simp_all [connectionOf]
    have running : last.quitting = false := by
      simpa [constructed] using consistent.quitting
    cases point : last.runnable with
    | testFactory => exact .inl rfl
    | running => exact .inr rfl
    | returned => simp [← kept, consistent.returned point] at made
    | ended => simp [consistent.ended point] at running
    | unstarted | createPeerConnectionFactory | unlock =>
        simp [point, RunnablePoint.HasUnlocked] at unlocked

/-- Two attempts come before the thread has unlocked; the destructor joins the
thread when it has left its loop. -/
def secondAttemptRun : List Action :=
  [.owner, .owner, .owner, .runnable, .owner, .runnable, .owner, .owner, .owner, .owner, .runnable,
    .destroy, .owner, .owner, .owner, .runnable, .owner]

def bothMade : Setup Nat Nat := ⟨some 0, some 1⟩

theorem second_attempt_run_refines :
    ∃ last, replay (step bothMade) initial secondAttemptRun = some last ∧
      last.owner = .destroyed ∧
      replay ConnectionHandles.step (.alive none)
          (operations (takesEffect bothMade) (step bothMade) initial secondAttemptRun) =
        some (abstraction bothMade last.owner) :=
  ⟨_, rfl, rfl, (threads_refine_handles rfl).1⟩

/-! ## The wait at the mutex ends -/

/-- Every step but a failing `try_lock`, after which the loop comes round once
more. -/
def progresses (state : State Factory PeerConnection) : Action → Bool
  | .owner => ¬(state.owner = .tryLock ∧ state.peerConnectionFactoryMutex.isSome)
  | .runnable | .destroy => true

def OwnerPoint.rank : OwnerPoint → Nat
  | .lock => 11
  | .start => 10
  | .tryLock => 9
  | .unlock => 8
  | .createPeerConnection => 7
  | .testPeerConnection => 6
  | .constructed => 5
  | .close => 4
  | .resetHandles => 3
  | .quit => 2
  | .join => 1
  | .destroyed | .crashed _ => 0

def RunnablePoint.rank : RunnablePoint → Nat
  | .unstarted | .createPeerConnectionFactory => 4
  | .unlock => 3
  | .testFactory => 2
  | .running => 1
  | .returned | .ended => 0

def rank (state : State Factory PeerConnection) : Nat :=
  state.owner.rank + state.runnable.rank

def OwnerPoint.Finished : OwnerPoint → Prop
  | .constructed | .destroyed | .crashed _ => True
  | _ => False

theorem rank_owner (stage : Stage setup state) (taken : advanceOwner setup state = some next)
    (progress : progresses state .owner = true) : rank next + 1 ≤ rank state := by
  obtain ⟨mutex, connection, quitting, owner, runnable⟩ := state
  cases owner with
  | lock | start =>
      obtain ⟨rfl, rfl, -⟩ := stage
      obtain rfl := Option.some.inj taken
      simp [rank, OwnerPoint.rank, RunnablePoint.rank]
  | tryLock =>
      cases mutex with
      | none =>
          obtain rfl := Option.some.inj taken
          simp only [rank, OwnerPoint.rank]
          omega
      | some party => simp [progresses] at progress
  | createPeerConnection =>
      cases found : connection.peerConnectionFactory <;>
        · simp only [advanceOwner, found, Option.some.injEq] at taken
          subst taken
          simp only [rank, OwnerPoint.rank]
          omega
  | testPeerConnection | close =>
      cases found : connection.peerConnection <;>
        · simp only [advanceOwner, found, Option.some.injEq] at taken
          subst taken
          simp only [rank, OwnerPoint.rank]
          omega
  | unlock | resetHandles | quit =>
      obtain rfl := Option.some.inj taken
      simp only [rank, OwnerPoint.rank]
      omega
  | join =>
      cases runnable with
      | returned | ended =>
          obtain rfl := Option.some.inj taken
          simp only [rank, OwnerPoint.rank]
          omega
      | _ => contradiction
  | constructed | destroyed | crashed => contradiction

theorem rank_runnable (taken : advanceRunnable setup state = some next) :
    rank next + 1 ≤ rank state := by
  have same := runnable_keeps_owner taken
  have lower : next.runnable.rank + 1 ≤ state.runnable.rank := by
    obtain ⟨mutex, connection, quitting, owner, runnable⟩ := state
    cases runnable with
    | createPeerConnectionFactory | unlock => exact Option.some.inj taken ▸ le_rfl
    | testFactory =>
        cases found : connection.peerConnectionFactory <;>
          · simp only [advanceRunnable, found, Option.some.injEq] at taken
            subst taken
            simp [RunnablePoint.rank]
    | running =>
        cases quitting with
        | false => simp [advanceRunnable] at taken
        | true => exact Option.some.inj taken ▸ le_rfl
    | unstarted | returned | ended => contradiction
  simp only [rank, same]
  omega

theorem eq_of_not_progresses (taken : advanceOwner setup state = some next)
    (failed : progresses state .owner = false) : next = state := by
  simp only [progresses, decide_eq_false_iff_not, not_not] at failed
  obtain ⟨trying, locked⟩ := failed
  obtain ⟨party, held⟩ := Option.isSome_iff_exists.mp locked
  simpa [advanceOwner, trying, held] using taken.symm

theorem rank_step {action : Action} (consistent : Consistent setup state)
    (taken : step setup state action = some next) :
    rank next + (progresses state action).toNat ≤ rank state := by
  obtain ⟨rfl, moved⟩ | ⟨rfl, moved⟩ | ⟨rfl, constructed, rfl⟩ := step_cases taken
  · cases progress : progresses state .owner with
    | false => simp [eq_of_not_progresses moved progress]
    | true => exact rank_owner consistent.stage moved progress
  · exact rank_runnable moved
  · simp only [rank, constructed, OwnerPoint.rank, progresses, Bool.toNat_true]
    omega

def Advances (setup : Setup Factory PeerConnection) (state : State Factory PeerConnection) :
    Prop :=
  ∃ action next, step setup state action = some next ∧ progresses state action = true

theorem advances_of_owner (alive : ∀ handle, state.owner ≠ .crashed handle)
    (moves : (advanceOwner setup state).isSome)
    (locked : state.owner = .tryLock → state.peerConnectionFactoryMutex = none) :
    Advances setup state := by
  obtain ⟨next, moved⟩ := Option.isSome_iff_exists.mp moves
  refine ⟨.owner, next, ?_, ?_⟩
  · unfold step
    split <;> simp_all
  · simpa [progresses, imp_iff_not_or] using locked

theorem advances_of_runnable (alive : ∀ handle, state.owner ≠ .crashed handle)
    (moves : (advanceRunnable setup state).isSome) : Advances setup state := by
  obtain ⟨next, moved⟩ := Option.isSome_iff_exists.mp moves
  refine ⟨.runnable, next, ?_, rfl⟩
  unfold step
  split <;> simp_all

theorem advances_unless_finished (consistent : Consistent setup state)
    (unfinished : ¬state.owner.Finished) : Advances setup state := by
  obtain ⟨mutex, connection, quitting, owner, runnable⟩ := state
  obtain ⟨stage, quits, -, -, -⟩ := consistent
  cases owner with
  | lock =>
      obtain ⟨-, rfl, -⟩ := stage
      exact advances_of_owner (by simp) rfl (by simp)
  | tryLock =>
      rcases stage with ⟨rfl, -⟩ | ⟨rfl, -⟩ | ⟨-, rfl, -⟩
      · exact advances_of_runnable (by simp) rfl
      · exact advances_of_runnable (by simp) rfl
      · exact advances_of_owner (by simp) rfl (by simp)
  | createPeerConnection =>
      refine advances_of_owner (by simp) ?_ (by simp)
      cases found : connection.peerConnectionFactory <;> simp [advanceOwner, found]
  | testPeerConnection | close =>
      refine advances_of_owner (by simp) ?_ (by simp)
      cases found : connection.peerConnection <;> simp [advanceOwner, found]
  | start | unlock | resetHandles | quit => exact advances_of_owner (by simp) rfl (by simp)
  | join =>
      have quitted : quitting = true := quits.mpr (.inl rfl)
      obtain ⟨unlocked, -⟩ := stage
      cases runnable with
      | testFactory =>
          refine advances_of_runnable (by simp) ?_
          cases found : connection.peerConnectionFactory <;> simp [advanceRunnable, found]
      | running => exact advances_of_runnable (by simp) (by simp [advanceRunnable, quitted])
      | returned | ended => exact advances_of_owner (by simp) rfl (by simp)
      | unstarted | createPeerConnectionFactory | unlock => exact unlocked.elim
  | constructed | destroyed | crashed => exact absurd trivial unfinished

theorem locked_by_owner (stage : Stage setup state)
    (unlocks : state.owner = .unlock ∨ state.runnable = .unlock) :
    state.peerConnectionFactoryMutex = some .owner := by
  obtain ⟨mutex, connection, quitting, owner, runnable⟩ := state
  rcases unlocks with rfl | rfl
  · exact stage.2.1
  · cases owner with
    | tryLock =>
        rcases stage with ⟨impossible, -⟩ | ⟨-, locked, -⟩ | ⟨impossible, -⟩
        · contradiction
        · exact locked
        · exact impossible.elim
    | lock | start => exact absurd stage.1 (by simp)
    | _ => exact stage.1.elim

theorem free_of_finished (stage : Stage setup state) (finished : state.owner.Finished) :
    state.peerConnectionFactoryMutex = none := by
  obtain ⟨mutex, connection, quitting, owner, runnable⟩ := state
  cases owner <;> first | exact stage.2.1 | exact finished.elim

/-- The mutex that a thread unlocks is the owner's, also where the other thread
unlocks it, and it is left free. Until the constructor has its outcome, and from
the destructor's call to its end, there is always a thread that can go on, and
but for failing `try_lock`s the two of them take no more than 15 steps. -/
theorem handshake_ends {actions : List Action} {last : State Factory PeerConnection}
    (run : replay (step setup) initial actions = some last) :
    (last.owner = .unlock ∨ last.runnable = .unlock →
      last.peerConnectionFactoryMutex = some .owner) ∧
    (last.owner.Finished → last.peerConnectionFactoryMutex = none) ∧
    (¬last.owner.Finished → Advances setup last) ∧
    countSteps progresses (step setup) initial actions + rank last ≤ 15 := by
  have consistent := consistent_of_replay run
  refine ⟨locked_by_owner consistent.stage, free_of_finished consistent.stage,
    advances_unless_finished consistent, ?_⟩
  exact count_steps_add_rank_le progresses rank (Consistent setup) consistent_initial
    (fun _ _ _ => consistent_step) (fun _ _ _ => rank_step) run

theorem second_attempt_run_ends :
    ∃ last, replay (step bothMade) initial secondAttemptRun = some last ∧
      countSteps progresses (step bothMade) initial secondAttemptRun + rank last ≤ 15 :=
  ⟨_, rfl, (handshake_ends rfl).2.2.2⟩

example : secondAttemptRun.length = 17 ∧
    countSteps progresses (step bothMade) initial secondAttemptRun = 15 := by decide

end PyWebRTC.FactoryHandshake
