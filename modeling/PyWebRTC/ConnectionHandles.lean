import PyWebRTC.ActionRuns
import PyWebRTC.IceInformation

/-!
# The handles of a connection object

A `PyWebRTCConnection` reaches WebRTC through three pointers, and each of them
can be null: `connection` until an `__init__` whose arguments parse, the factory
where WebRTC made none, and the peer connection where the factory made none.
The tests for null report and carry on.
-/

namespace PyWebRTC.ConnectionHandles

open ActionRuns (replay replay_cons)
open IceInformation (SdpParseError)

set_option autoImplicit false

inductive Handle where
  | connection
  | peerConnectionFactory
  | peerConnection
  deriving DecidableEq

structure WebRTCConnection (Factory PeerConnection : Type) where
  peerConnectionFactory : Option Factory
  peerConnection : Option PeerConnection

structure Setup (Factory PeerConnection : Type) where
  factory : Option Factory
  peerConnection : Option PeerConnection

/-- The operations on an object. Arguments are none where they do not parse; what
an operation needs of them is the outcome of the constructor, for each candidate
the error if `CreateIceCandidate` rejects it, and whether the peer connection has
no senders yet. -/
inductive Operation (Factory PeerConnection : Type) where
  | new
  | init (arguments : Option (Setup Factory PeerConnection))
  | getSdp
  | receiveOffer (parses : Bool)
  | receiveAnswer (parses : Bool)
  | getIceInformation
  | setIceInformation (arguments : Option (List (Option SdpParseError)))
  | addTracks (arguments : Option Bool)
  | dealloc

/-- The object, with `self->connection` while it lives; or the handle whose null
was dereferenced, which ends the process. -/
inductive State (Factory PeerConnection : Type) where
  | unborn
  | alive (connection : Option (WebRTCConnection Factory PeerConnection))
  | freed
  | crashed (handle : Handle)

variable {Factory PeerConnection : Type}

def deref {Object : Type} (handle : Handle) : Option Object → Except Handle Object
  | some object => .ok object
  | none => .error handle

/-- `CustomRunnable::Run` stores the factory, null or not. Its test of the pointer
decides whether the thread goes on, and nothing else. -/
def runnableRun (connection : WebRTCConnection Factory PeerConnection)
    (factory : Option Factory) : WebRTCConnection Factory PeerConnection :=
  { connection with peerConnectionFactory := factory }

def createPeerConnection (connection : WebRTCConnection Factory PeerConnection)
    (created : Option PeerConnection) :
    Except Handle (WebRTCConnection Factory PeerConnection) := do
  let _ ← deref .peerConnectionFactory connection.peerConnectionFactory
  let connection := { connection with peerConnection := created }
  match created with
  | none => return { connection with peerConnectionFactory := none }
  | some _ => return connection

def construct (setup : Setup Factory PeerConnection) :
    Except Handle (WebRTCConnection Factory PeerConnection) :=
  createPeerConnection (runnableRun ⟨none, none⟩ setup.factory) setup.peerConnection

def disconnectFromCurrentPeer (connection : WebRTCConnection Factory PeerConnection) :
    Except Handle (WebRTCConnection Factory PeerConnection) := do
  let _ ← deref .peerConnection connection.peerConnection
  return ⟨none, none⟩

/-- `get_offer`, `receiveOffer` and `receiveAnswer` go straight to the peer
connection. -/
def usePeerConnection (self : Option (WebRTCConnection Factory PeerConnection)) :
    Except Handle Unit := do
  let connection ← deref .connection self
  let _ ← deref .peerConnection connection.peerConnection
  return ()

def getIceInformation (self : Option (WebRTCConnection Factory PeerConnection)) :
    Except Handle Unit := do
  let _ ← deref .connection self
  return ()

/-- The loop of `setICEInformation` over candidates that are well formed. An
accepted one leaves the error of the rounds before. -/
def addIceCandidates (peerConnection : Option PeerConnection) (errSdp : SdpParseError) :
    List (Option SdpParseError) → Except Handle Unit
  | [] => .ok ()
  | rejection :: rest =>
      let errSdp := rejection.getD errSdp
      if errSdp.line ≠ [] ∧ errSdp.description ≠ [] then .ok ()
      else do
        let _ ← deref .peerConnection peerConnection
        addIceCandidates peerConnection errSdp rest

def setIceInformation (self : Option (WebRTCConnection Factory PeerConnection))
    (candidates : List (Option SdpParseError)) : Except Handle Unit := do
  let connection ← deref .connection self
  addIceCandidates connection.peerConnection ⟨[], []⟩ candidates

def addTracks (self : Option (WebRTCConnection Factory PeerConnection)) (noSenders : Bool) :
    Except Handle Unit := do
  let connection ← deref .connection self
  let _ ← deref .peerConnection connection.peerConnection
  if noSenders then
    let _ ← deref .peerConnectionFactory connection.peerConnectionFactory
    return ()
  else return ()

def dealloc : Option (WebRTCConnection Factory PeerConnection) → Except Handle Unit
  | none => .ok ()
  | some connection => do
      let _ ← disconnectFromCurrentPeer connection
      return ()

/-- An operation on a living object. An `__init__` that parses makes a new
`WebRTCConnection`, also where there is one already. -/
def perform (self : Option (WebRTCConnection Factory PeerConnection)) :
    Operation Factory PeerConnection → Except Handle (State Factory PeerConnection)
  | .new | .init none | .receiveOffer false | .receiveAnswer false | .setIceInformation none
  | .addTracks none => .ok (.alive self)
  | .init (some setup) => do
      let connection ← construct setup
      return .alive (some connection)
  | .getSdp | .receiveOffer true | .receiveAnswer true => do
      usePeerConnection self
      return .alive self
  | .getIceInformation => do
      getIceInformation self
      return .alive self
  | .setIceInformation (some candidates) => do
      setIceInformation self candidates
      return .alive self
  | .addTracks (some noSenders) => do
      addTracks self noSenders
      return .alive self
  | .dealloc => do
      dealloc self
      return .freed

def step (state : State Factory PeerConnection) (operation : Operation Factory PeerConnection) :
    Option (State Factory PeerConnection) :=
  match state, operation with
  | .unborn, .new => some (.alive none)
  | .alive _, .new => none
  | .alive self, operation =>
      match perform self operation with
      | .ok next => some next
      | .error handle => some (.crashed handle)
  | _, _ => none

/-! ## When nothing null is dereferenced -/

def latestSetup (latest : Option (Setup Factory PeerConnection)) :
    Operation Factory PeerConnection → Option (Setup Factory PeerConnection)
  | .init (some setup) => some setup
  | _ => latest

def HasPeerConnection (latest : Option (Setup Factory PeerConnection)) : Prop :=
  ∃ setup, latest = some setup ∧ setup.peerConnection.isSome

def RejectedAtLine : Option SdpParseError → Prop
  | some error => error.line ≠ [] ∧ error.description ≠ []
  | none => False

def Safe (latest : Option (Setup Factory PeerConnection)) :
    Operation Factory PeerConnection → Prop
  | .new | .init none | .receiveOffer false | .receiveAnswer false | .setIceInformation none
  | .addTracks none => True
  | .init (some setup) => setup.factory.isSome
  | .getSdp | .receiveOffer true | .receiveAnswer true | .addTracks (some _) =>
      HasPeerConnection latest
  | .getIceInformation => latest.isSome
  | .setIceInformation (some candidates) =>
      latest.isSome ∧
        ∀ first ∈ candidates.head?, ¬RejectedAtLine first → HasPeerConnection latest
  | .dealloc => latest.isSome → HasPeerConnection latest

def SafeFrom (latest : Option (Setup Factory PeerConnection)) :
    List (Operation Factory PeerConnection) → Prop
  | [] => True
  | operation :: rest => Safe latest operation ∧ SafeFrom (latestSetup latest operation) rest

def NoNullDereference (state : State Factory PeerConnection) : Prop :=
  ∀ handle, state ≠ .crashed handle

/-- The object that a constructor makes. Without a peer connection it has no
factory either. -/
def connectionOf (setup : Setup Factory PeerConnection) :
    WebRTCConnection Factory PeerConnection :=
  match setup.peerConnection with
  | some peerConnection => ⟨setup.factory, some peerConnection⟩
  | none => ⟨none, none⟩

def Tracks (latest : Option (Setup Factory PeerConnection)) :
    State Factory PeerConnection → Prop
  | .unborn => latest = none
  | .alive self => self = latest.map connectionOf ∧
      ∀ setup, latest = some setup → setup.factory.isSome
  | .freed => True
  | .crashed _ => False

def Succeeds {Result : Type} (computation : Except Handle Result) : Prop :=
  ∃ result, computation = .ok result

theorem succeeds_bind_iff {First Second : Type} {first : Except Handle First}
    {next : First → Except Handle Second} :
    Succeeds (first >>= next) ↔ ∃ value, first = .ok value ∧ Succeeds (next value) := by
  cases first with
  | ok value => simp [Bind.bind, Except.bind]
  | error handle => simp [Succeeds, Bind.bind, Except.bind]

theorem succeeds_pure {Result : Type} (result : Result) :
    Succeeds (pure result : Except Handle Result) := ⟨result, rfl⟩

theorem deref_eq_ok_iff {Object : Type} {handle : Handle} {pointer : Option Object}
    {object : Object} : deref handle pointer = .ok object ↔ pointer = some object := by
  cases pointer <;> simp [deref]

theorem construct_eq (setup : Setup Factory PeerConnection) :
    construct setup = (deref .peerConnectionFactory setup.factory).map
      fun _ => connectionOf setup := by
  obtain ⟨_ | factory, _ | peerConnection⟩ := setup <;> rfl

theorem construct_succeeds_iff {setup : Setup Factory PeerConnection} :
    Succeeds (construct setup) ↔ setup.factory.isSome := by
  cases factory : setup.factory <;> simp [construct_eq, factory, deref, Succeeds, Except.map]

theorem peer_connection_of_connection_of (setup : Setup Factory PeerConnection) :
    (connectionOf setup).peerConnection = setup.peerConnection := by
  cases made : setup.peerConnection <;> simp [connectionOf, made]

variable {latest : Option (Setup Factory PeerConnection)}

theorem use_peer_connection_succeeds_iff :
    Succeeds (usePeerConnection (latest.map connectionOf)) ↔ HasPeerConnection latest := by
  simp only [usePeerConnection, succeeds_bind_iff, deref_eq_ok_iff, succeeds_pure, and_true,
    Option.map_eq_some_iff, HasPeerConnection, Option.isSome_iff_exists]
  constructor
  · rintro ⟨-, ⟨setup, found, rfl⟩, made⟩
    exact ⟨setup, found, by rwa [peer_connection_of_connection_of] at made⟩
  · rintro ⟨setup, found, made⟩
    exact ⟨_, ⟨setup, found, rfl⟩, by rwa [peer_connection_of_connection_of]⟩

theorem get_ice_information_succeeds_iff :
    Succeeds (getIceInformation (latest.map connectionOf)) ↔ latest.isSome := by
  cases latest <;> simp [getIceInformation, deref, Succeeds, Bind.bind, Except.bind, Pure.pure,
    Except.pure]

theorem add_ice_candidates_succeed (peerConnection : PeerConnection) (errSdp : SdpParseError)
    (candidates : List (Option SdpParseError)) :
    Succeeds (addIceCandidates (some peerConnection) errSdp candidates) := by
  induction candidates generalizing errSdp with
  | nil => exact ⟨(), rfl⟩
  | cons rejection rest ih =>
      simp only [addIceCandidates]
      split
      · exact ⟨(), rfl⟩
      · exact ih _

/-- Without a peer connection the first candidate decides. -/
theorem add_ice_candidates_succeeds_iff (peerConnection : Option PeerConnection)
    (candidates : List (Option SdpParseError)) :
    Succeeds (addIceCandidates peerConnection ⟨[], []⟩ candidates) ↔
      ∀ first ∈ candidates.head?, ¬RejectedAtLine first → peerConnection.isSome := by
  cases peerConnection with
  | some peerConnection =>
      exact iff_of_true (add_ice_candidates_succeed peerConnection _ candidates) (by simp)
  | none =>
      cases candidates with
      | nil => simp [addIceCandidates, Succeeds]
      | cons rejection rest =>
          cases rejection with
          | none => simp [addIceCandidates, RejectedAtLine, deref, Succeeds, Bind.bind, Except.bind]
          | some error =>
              by_cases atLine : error.line ≠ [] ∧ error.description ≠ []
              · simp [addIceCandidates, RejectedAtLine, atLine, Succeeds]
              · simp [addIceCandidates, RejectedAtLine, atLine, deref, Succeeds, Bind.bind,
                  Except.bind]

theorem set_ice_information_succeeds_iff (candidates : List (Option SdpParseError)) :
    Succeeds (setIceInformation (latest.map connectionOf) candidates) ↔
      latest.isSome ∧
        ∀ first ∈ candidates.head?, ¬RejectedAtLine first → HasPeerConnection latest := by
  simp only [setIceInformation, succeeds_bind_iff, deref_eq_ok_iff,
    add_ice_candidates_succeeds_iff]
  cases latest with
  | none => simp
  | some setup => simp [HasPeerConnection, peer_connection_of_connection_of]

theorem add_tracks_succeeds_iff (noSenders : Bool)
    (factories : ∀ setup, latest = some setup → setup.factory.isSome) :
    Succeeds (addTracks (latest.map connectionOf) noSenders) ↔ HasPeerConnection latest := by
  cases latest with
  | none => simp [addTracks, deref, Succeeds, HasPeerConnection, Bind.bind, Except.bind]
  | some setup =>
      have made := factories setup rfl
      obtain ⟨_ | factory, _ | peerConnection⟩ := setup
      · contradiction
      · contradiction
      · simp [addTracks, connectionOf, deref, Succeeds, HasPeerConnection, Bind.bind, Except.bind]
      · cases noSenders <;>
          simp [addTracks, connectionOf, deref, Succeeds, HasPeerConnection, Bind.bind,
            Except.bind, Pure.pure, Except.pure]

theorem dealloc_succeeds_iff :
    Succeeds (dealloc (latest.map connectionOf)) ↔ (latest.isSome → HasPeerConnection latest) := by
  cases latest with
  | none => simp [dealloc, Succeeds]
  | some setup =>
      cases made : setup.peerConnection <;>
        simp [dealloc, disconnectFromCurrentPeer, HasPeerConnection, made,
          peer_connection_of_connection_of, deref, Succeeds, Bind.bind, Except.bind, Pure.pure,
          Except.pure]

theorem succeeds_then_iff {computation : Except Handle Unit} {state : State Factory PeerConnection} :
    Succeeds (do computation; return state) ↔ Succeeds computation := by
  cases computation <;> simp [Succeeds, Bind.bind, Except.bind, Pure.pure, Except.pure]

theorem eq_of_then_eq_ok {computation : Except Handle Unit}
    {state next : State Factory PeerConnection}
    (finished : (do computation; return state) = Except.ok next) : next = state := by
  cases computation with
  | ok value => exact (Except.ok.inj finished).symm
  | error handle => contradiction

theorem perform_succeeds_iff (operation : Operation Factory PeerConnection)
    (factories : ∀ setup, latest = some setup → setup.factory.isSome) :
    Succeeds (perform (latest.map connectionOf) operation) ↔ Safe latest operation := by
  cases operation with
  | new => exact iff_of_true ⟨_, rfl⟩ trivial
  | init arguments =>
      cases arguments with
      | none => exact iff_of_true ⟨_, rfl⟩ trivial
      | some setup =>
          simp only [perform, succeeds_bind_iff, succeeds_pure, and_true]
          exact construct_succeeds_iff
  | getSdp => exact succeeds_then_iff.trans use_peer_connection_succeeds_iff
  | receiveOffer parses | receiveAnswer parses =>
      cases parses with
      | false => exact iff_of_true ⟨_, rfl⟩ trivial
      | true => exact succeeds_then_iff.trans use_peer_connection_succeeds_iff
  | getIceInformation => exact succeeds_then_iff.trans get_ice_information_succeeds_iff
  | setIceInformation arguments =>
      cases arguments with
      | none => exact iff_of_true ⟨_, rfl⟩ trivial
      | some candidates =>
          exact succeeds_then_iff.trans (set_ice_information_succeeds_iff candidates)
  | addTracks arguments =>
      cases arguments with
      | none => exact iff_of_true ⟨_, rfl⟩ trivial
      | some noSenders => exact succeeds_then_iff.trans (add_tracks_succeeds_iff noSenders factories)
  | dealloc => exact succeeds_then_iff.trans dealloc_succeeds_iff

theorem perform_tracks {operation : Operation Factory PeerConnection}
    {next : State Factory PeerConnection}
    (factories : ∀ setup, latest = some setup → setup.factory.isSome)
    (performed : perform (latest.map connectionOf) operation = .ok next) :
    Tracks (latestSetup latest operation) next := by
  have unchanged : Tracks latest (.alive (latest.map connectionOf)) := ⟨rfl, factories⟩
  cases operation with
  | new => exact Except.ok.inj performed ▸ unchanged
  | init arguments =>
      cases arguments with
      | none => exact Except.ok.inj performed ▸ unchanged
      | some setup =>
          cases factory : setup.factory with
          | none => simp [perform, construct_eq, factory, deref, Except.map, Bind.bind,
              Except.bind] at performed
          | some made =>
              have finished : next = .alive (some (connectionOf setup)) := by
                simpa [perform, construct_eq, factory, deref, Except.map, Bind.bind, Except.bind,
                  Pure.pure, Except.pure] using performed.symm
              rw [finished]
              refine ⟨rfl, ?_⟩
              intro other same
              obtain rfl := Option.some.inj same
              simp [factory]
  | getSdp | getIceInformation => exact eq_of_then_eq_ok performed ▸ unchanged
  | receiveOffer parses | receiveAnswer parses =>
      cases parses with
      | false => exact Except.ok.inj performed ▸ unchanged
      | true => exact eq_of_then_eq_ok performed ▸ unchanged
  | setIceInformation arguments | addTracks arguments =>
      cases arguments with
      | none => exact Except.ok.inj performed ▸ unchanged
      | some => exact eq_of_then_eq_ok performed ▸ unchanged
  | dealloc =>
      rw [eq_of_then_eq_ok performed]
      trivial

theorem step_alive_cases {self : Option (WebRTCConnection Factory PeerConnection)}
    {operation : Operation Factory PeerConnection} {next : State Factory PeerConnection}
    (taken : step (.alive self) operation = some next) :
    perform self operation = .ok next ∨
      ∃ handle, perform self operation = .error handle ∧ next = .crashed handle := by
  cases operation with
  | new => contradiction
  | _ =>
      simp only [step] at taken
      split at taken
      · next performed => exact .inl (Option.some.inj taken ▸ performed)
      · next handle failed => exact .inr ⟨handle, failed, (Option.some.inj taken).symm⟩

theorem no_null_dereference_from {operations : List (Operation Factory PeerConnection)}
    {state last : State Factory PeerConnection} (tracks : Tracks latest state)
    (run : replay step state operations = some last) :
    NoNullDereference last ↔ SafeFrom latest operations := by
  induction operations generalizing latest state with
  | nil =>
      obtain rfl := Option.some.inj run
      refine iff_of_true ?_ trivial
      rintro handle rfl
      exact tracks
  | cons operation rest ih =>
      obtain ⟨next, taken, remaining⟩ := replay_cons.mp run
      cases state with
      | freed => simp [step] at taken
      | crashed handle => exact absurd tracks id
      | unborn =>
          cases operation with
          | new =>
              obtain rfl := Option.some.inj taken
              obtain rfl : latest = none := tracks
              have born : Tracks none (.alive none : State Factory PeerConnection) :=
                ⟨rfl, by simp⟩
              simpa [SafeFrom, Safe, latestSetup] using ih born remaining
          | _ => simp [step] at taken
      | alive self =>
          obtain ⟨rfl, factories⟩ := tracks
          have succeeds := perform_succeeds_iff operation factories
          rcases step_alive_cases taken with performed | ⟨handle, failed, rfl⟩
          · rw [SafeFrom, and_iff_right (succeeds.mp ⟨next, performed⟩)]
            exact ih (perform_tracks factories performed) remaining
          · have unsafe_operation : ¬Safe latest operation := by
              rw [← succeeds, Succeeds, failed]
              simp
            refine iff_of_false ?_ fun safe => unsafe_operation safe.1
            cases rest with
            | nil =>
                obtain rfl := Option.some.inj remaining
                exact fun intact => intact handle rfl
            | cons second rest => simp [replay_cons, step] at remaining

/-- For every outcome of the set-up and every sequence of operations. -/
theorem no_null_dereference_iff_safe (operations : List (Operation Factory PeerConnection))
    (last : State Factory PeerConnection)
    (run : replay step .unborn operations = some last) :
    NoNullDereference last ↔ SafeFrom none operations := by
  have unborn : Tracks none (.unborn : State Factory PeerConnection) := rfl
  exact no_null_dereference_from unborn run

/-- Without a peer connection the destructor is already too much. -/
theorem dealloc_after_failed_setup :
    ¬∀ (operations : List (Operation Nat Nat)) (state : State Nat Nat),
      replay step .unborn operations = some state → NoNullDereference state := by
  intro claimed
  exact claimed [.new, .init (some ⟨some 0, none⟩), .dealloc] _ rfl .peerConnection rfl

/-- A failed set-up is made good by another `__init__`. Before it a candidate that
is rejected at a line does no harm. -/
def setUpTwice : List (Operation Nat Nat) :=
  [.new, .init none, .init (some ⟨some 0, none⟩), .getIceInformation,
    .setIceInformation (some [some ⟨[97], [98]⟩, none]), .init (some ⟨some 1, some 2⟩), .getSdp, .addTracks (some true), .dealloc]

theorem second_set_up_is_safe :
    ∃ state, replay step .unborn setUpTwice = some state ∧ NoNullDereference state := by
  refine ⟨_, rfl, ?_⟩
  apply (no_null_dereference_iff_safe setUpTwice _ rfl).mpr
  simp [setUpTwice, SafeFrom, Safe, latestSetup, HasPeerConnection, RejectedAtLine]

end PyWebRTC.ConnectionHandles
