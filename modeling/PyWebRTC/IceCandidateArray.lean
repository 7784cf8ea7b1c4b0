import PyWebRTC.ActionRuns
import PyWebRTC.IceCandidateObject
import PyWebRTC.PicojsonSerialize

/-!
# `ice_array` between its two threads

`OnIceCandidate` pushes onto the array on the WebRTC thread. `getICEInformation`
serializes the array and clears it in two steps on a Python thread, one call at
a time, with nothing that keeps the other thread out between them.
-/

namespace PyWebRTC.IceCandidateArray

open ActionRuns IceCandidateObject PicojsonValue

set_option autoImplicit false

/-- Where a call of `getICEInformation` is. The array it has serialized stands
for its text, `connectionIceText`. -/
inductive Call where
  | idle
  | serialized (connectionIce : List Value)
  | cleared (connectionIce : List Value)

/-- `gathered` and `returned` record the candidates of all callbacks and the
arrays of all calls. -/
structure State where
  iceArray : List Value
  call : Call
  gathered : List IceCandidate
  returned : List (List Value)

inductive Action where
  | onIceCandidate (candidate : IceCandidate)
  | serialize
  | clear
  | finish

def initial : State where
  iceArray := []
  call := .idle
  gathered := []
  returned := []

/-- `picojson::value(connection.ice_array).serialize(true)`. -/
def connectionIceText (connectionIce : List Value) : Bytes :=
  PicojsonSerialize.serialize (.array connectionIce) true

def step (state : State) : Action → Option State
  | .onIceCandidate candidate =>
      some { state with
        iceArray := state.iceArray ++ [iceObject candidate]
        gathered := state.gathered ++ [candidate] }
  | .serialize =>
      match state.call with
      | .idle => some { state with call := .serialized state.iceArray }
      | _ => none
  | .clear =>
      match state.call with
      | .serialized connectionIce =>
          some { state with iceArray := [], call := .cleared connectionIce }
      | _ => none
  | .finish =>
      match state.call with
      | .cleared connectionIce =>
          some { state with call := .idle, returned := state.returned ++ [connectionIce] }
      | _ => none

/-- Every candidate gathered is in an array that was returned or still in the
current one, in order and once. -/
def HandedOutOnce (state : State) : Prop :=
  state.returned.flatten ++ state.iceArray = state.gathered.map iceObject

/-- No candidate arrives between the serialization of the array and its
clearing. -/
def OutsideTheWindow (state : State) : Action → Prop
  | .onIceCandidate _ => ∀ connectionIce, state.call ≠ .serialized connectionIce
  | _ => True

def onTheWay : Call → List Value
  | .cleared connectionIce => connectionIce
  | _ => []

def Sound (state : State) : Prop :=
  state.returned.flatten ++ onTheWay state.call ++ state.iceArray =
      state.gathered.map iceObject ∧
    ∀ connectionIce, state.call = .serialized connectionIce → connectionIce = state.iceArray

/-- What is accounted for when the array is cleared: until then a call that has
serialized it holds the candidates it will hand out. -/
def accounted (state : State) : Nat :=
  match state.call with
  | .serialized connectionIce => state.returned.flatten.length + connectionIce.length
  | _ => state.returned.flatten.length + (onTheWay state.call).length + state.iceArray.length

def Spoiled (state : State) : Prop := accounted state < state.gathered.length

theorem sound_kept {state next : State} {action : Action} (sound : Sound state)
    (outside : OutsideTheWindow state action) (taken : step state action = some next) :
    Sound next := by
  obtain ⟨equation, same⟩ := sound
  cases action with
  | onIceCandidate candidate =>
      obtain rfl := Option.some.inj taken
      refine ⟨?_, fun connectionIce serialized => absurd serialized (outside connectionIce)⟩
      simp only [← List.append_assoc, equation, List.map_append, List.map_cons, List.map_nil]
  | serialize =>
      simp only [step] at taken
      split at taken
      case h_2 => contradiction
      case h_1 idle =>
        obtain rfl := Option.some.inj taken
        refine ⟨by simpa [idle, onTheWay] using equation, ?_⟩
        intro connectionIce serialized
        exact (Call.serialized.inj serialized).symm
  | clear =>
      simp only [step] at taken
      split at taken
      case h_2 => contradiction
      case h_1 connectionIce serialized =>
        obtain rfl := Option.some.inj taken
        obtain rfl := same connectionIce serialized
        refine ⟨by simpa [serialized, onTheWay] using equation, ?_⟩
        intro other serializedAgain
        contradiction
  | finish =>
      simp only [step] at taken
      split at taken
      case h_2 => contradiction
      case h_1 connectionIce cleared =>
        obtain rfl := Option.some.inj taken
        refine ⟨by simpa [cleared, onTheWay] using equation, ?_⟩
        intro other serialized
        contradiction

theorem spoiled_in_the_window {state next : State} {action : Action} (sound : Sound state)
    (inside : ¬OutsideTheWindow state action) (taken : step state action = some next) :
    Spoiled next := by
  obtain ⟨equation, same⟩ := sound
  cases action with
  | onIceCandidate candidate =>
      obtain rfl := Option.some.inj taken
      simp only [OutsideTheWindow, not_forall, not_not] at inside
      obtain ⟨connectionIce, serialized⟩ := inside
      have counted := congrArg List.length equation
      simp only [serialized, onTheWay, List.length_append, List.length_map, List.length_nil] at counted
      simp only [Spoiled, accounted, serialized, same connectionIce serialized, List.length_append,
        List.length_singleton]
      omega
  | serialize | clear | finish => exact absurd trivial inside

theorem spoiled_stays {state next : State} {action : Action} (spoiled : Spoiled state)
    (taken : step state action = some next) : Spoiled next := by
  unfold Spoiled at spoiled ⊢
  cases action with
  | onIceCandidate candidate =>
      obtain rfl := Option.some.inj taken
      unfold accounted at spoiled ⊢
      cases at_ : state.call <;> simp_all <;> omega
  | serialize =>
      simp only [step] at taken
      split at taken
      case h_2 => contradiction
      case h_1 idle =>
        obtain rfl := Option.some.inj taken
        simpa [accounted, idle, onTheWay] using spoiled
  | clear =>
      simp only [step] at taken
      split at taken
      case h_2 => contradiction
      case h_1 connectionIce serialized =>
        obtain rfl := Option.some.inj taken
        simpa [accounted, serialized, onTheWay] using spoiled
  | finish =>
      simp only [step] at taken
      split at taken
      case h_2 => contradiction
      case h_1 connectionIce cleared =>
        obtain rfl := Option.some.inj taken
        simpa [accounted, cleared, onTheWay] using spoiled

/-- In every state reached with no call in progress, the candidates are handed
out once each if and only if none has arrived between the serialization and the
clearing of a call. -/
theorem handed_out_once_iff (actions : List Action) (last : State)
    (run : replay step initial actions = some last) (idle : last.call = .idle) :
    HandedOutOnce last ↔ MeetsAlong OutsideTheWindow step initial actions := by
  have initially : Sound initial := ⟨rfl, fun connectionIce serialized => by contradiction⟩
  rcases sound_or_spoiled Sound Spoiled initially (fun _ _ _ => sound_kept)
    (fun _ _ _ => spoiled_in_the_window) (fun _ _ _ => spoiled_stays) run with
    ⟨outside, equation, -⟩ | ⟨inside, spoiled⟩
  · refine iff_of_true ?_ outside
    simpa [HandedOutOnce, idle, onTheWay] using equation
  · refine iff_of_false (fun handedOut => ?_) inside
    have counted := congrArg List.length handedOut
    simp only [List.length_append, List.length_map] at counted
    simp only [Spoiled, accounted, idle, onTheWay, List.length_nil] at spoiled
    omega

def candidateOf (text : Bytes) : IceCandidate := ⟨[], ⟨0, by decide⟩, text⟩

/-- A candidate that arrives between the two statements is cleared unseen. -/
theorem candidate_in_the_window_is_lost :
    ¬∀ (actions : List Action) (last : State), replay step initial actions = some last →
      last.call = .idle → HandedOutOnce last := by
  intro claimed
  have lost := claimed [.serialize, .onIceCandidate (candidateOf []), .clear, .finish] _ rfl rfl
  exact absurd (congrArg List.length lost) (by decide)

theorem candidates_around_a_call_are_kept :
    HandedOutOnce ⟨[iceObject (candidateOf [0])], .idle, [candidateOf [], candidateOf [0]],
      [[iceObject (candidateOf [])]]⟩ := by
  refine (handed_out_once_iff [.onIceCandidate (candidateOf []), .serialize, .clear,
    .onIceCandidate (candidateOf [0]), .finish] _ rfl rfl).mpr ?_
  simp [MeetsAlong, OutsideTheWindow, step, initial]

end PyWebRTC.IceCandidateArray
