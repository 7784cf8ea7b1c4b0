import PyWebRTC.PicojsonSerialize

/-!
# The hand-off of session descriptions

`get_offer` and `receiveOffer` store `sdp_type`, ask WebRTC for a description
and spin in `get_sdp` until `offer_set`. WebRTC answers each request once, on
its own thread: `OnSuccess` runs `sessionSuccess`, `OnFailure` stores
`peer_connection_failed`. The binding holds the GIL for the whole of a call, so
one caller is modelled, with any number of calls one after the other. A
description is its text.
-/

namespace PyWebRTC.SessionDescription

open PicojsonValue

set_option autoImplicit false

inductive SdpKind where
  | offer
  | answer

def sdpTypeOf : SdpKind → Bytes
  | .offer => Utf8.encode "offer".toList
  | .answer => Utf8.encode "answer".toList

def sdpKey : Bytes := Utf8.encode "sdp".toList

def typeKey : Bytes := Utf8.encode "type".toList

def sessionInformation (sdp sdpType : Bytes) : Value :=
  .object (insert typeKey (.string sdpType) (insert sdpKey (.string sdp) []))

/-- The string that `sessionSuccess` stores in `offer`. -/
def sessionText (sdp sdpType : Bytes) : Bytes :=
  PicojsonSerialize.serialize (sessionInformation sdp sdpType) true

/-- What a call has to return for a description, member for member. -/
def descriptionObject : SdpKind → Bytes → Value
  | .offer, sdp => .object [(Utf8.encode "sdp".toList, .string sdp),
      (Utf8.encode "type".toList, .string (Utf8.encode "offer".toList))]
  | .answer, sdp => .object [(Utf8.encode "sdp".toList, .string sdp),
      (Utf8.encode "type".toList, .string (Utf8.encode "answer".toList))]

theorem session_information_eq (kind : SdpKind) (sdp : Bytes) :
    sessionInformation sdp (sdpTypeOf kind) = descriptionObject kind sdp := by
  cases kind <;> rfl

theorem session_text_eq (kind : SdpKind) (sdp : Bytes) :
    sessionText sdp (sdpTypeOf kind) =
      PicojsonSerialize.serialize (descriptionObject kind sdp) true := by
  rw [sessionText, session_information_eq]

/-- A request that was made, and the description created for it. -/
structure Call where
  kind : SdpKind
  description : Option Bytes

/-- Where the caller is. A number names its request: the place in `calls`. -/
inductive Caller where
  | idle
  | received
  | typed (kind : SdpKind)
  | spinning (number : Nat)
  | released (number : Nat)
  | flagReset (number : Nat)

inductive Stage where
  | entered
  | localSet
  | typeRead (sdpType : Bytes)
  | offerWritten

inductive Callback where
  | idle
  | success (number : Nat) (description : Bytes) (stage : Stage)
  | failure (number : Nat)

structure State where
  sdpType : Bytes
  offer : Bytes
  offerSet : Bool
  peerConnectionFailed : Bool
  caller : Caller
  outstanding : List Nat
  callback : Callback
  calls : List Call
  returned : List Bytes

/-- `setDescriptionFailed` is `OnFailure` of the observer of `SetLocalDescription`
and `SetRemoteDescription`. -/
inductive Action where
  | getOffer
  | receiveOffer
  | advanceCaller
  | onSuccess (number : Nat) (description : Bytes)
  | onFailure (number : Nat)
  | advanceCallback
  | setDescriptionFailed

def initial : State where
  sdpType := []
  offer := []
  offerSet := false
  peerConnectionFailed := false
  caller := .idle
  outstanding := []
  callback := .idle
  calls := []
  returned := []

def advanceCaller (state : State) : Option State :=
  match state.caller with
  | .idle => none
  | .received => some { state with sdpType := sdpTypeOf .answer, caller := .typed .answer }
  | .typed kind =>
      some { state with
        outstanding := state.outstanding ++ [state.calls.length]
        calls := state.calls ++ [⟨kind, none⟩]
        caller := .spinning state.calls.length }
  | .spinning number =>
      if state.offerSet then some { state with caller := .released number } else some state
  | .released number => some { state with offerSet := false, caller := .flagReset number }
  | .flagReset _ =>
      some { state with returned := state.returned ++ [state.offer], caller := .idle }

def advanceCallback (state : State) : Option State :=
  match state.callback with
  | .idle => none
  | .success number description .entered =>
      some { state with callback := .success number description .localSet }
  | .success number description .localSet =>
      some { state with callback := .success number description (.typeRead state.sdpType) }
  | .success number description (.typeRead sdpType) =>
      some { state with
        offer := sessionText description sdpType
        callback := .success number description .offerWritten }
  | .success _ _ .offerWritten => some { state with offerSet := true, callback := .idle }
  | .failure _ => some { state with peerConnectionFailed := true, callback := .idle }

def describe (description : Bytes) (call : Call) : Call :=
  { call with description := some description }

/-- A call of `receiveOffer` starts with setting the remote description,
whatever comes of it. A callback answers a request that is outstanding. -/
def step (state : State) : Action → Option State
  | .getOffer =>
      match state.caller with
      | .idle => some { state with sdpType := sdpTypeOf .offer, caller := .typed .offer }
      | _ => none
  | .receiveOffer =>
      match state.caller with
      | .idle => some { state with caller := .received }
      | _ => none
  | .advanceCaller => advanceCaller state
  | .onSuccess number description =>
      match state.callback with
      | .idle =>
          if number ∈ state.outstanding then
            some { state with
              outstanding := state.outstanding.erase number
              calls := state.calls.modify number (describe description)
              callback := .success number description .entered }
          else none
      | _ => none
  | .onFailure number =>
      match state.callback with
      | .idle =>
          if number ∈ state.outstanding then
            some { state with
              outstanding := state.outstanding.erase number
              callback := .failure number }
          else none
      | _ => none
  | .advanceCallback => advanceCallback state
  | .setDescriptionFailed => some { state with peerConnectionFailed := true }

/-- What the n-th call has to return, once a description was created for it. -/
def callText (call : Call) : Option Bytes :=
  call.description.map fun description => sessionText description (sdpTypeOf call.kind)

/-- Nothing is asked of WebRTC, no callback runs, and the flag is down. -/
def Quiet (state : State) : Prop :=
  state.outstanding = [] ∧ state.callback = .idle ∧ state.offerSet = false

/-- The calls of the list are all answered, and have returned their texts. -/
def Returned (calls : List Call) (returned : List Bytes) : Prop :=
  calls.map callText = returned.map some

def CallbackLinked (state : State) (number : Nat) (call : Call) : Callback → Prop
  | .idle => True
  | .success answered description stage =>
      answered = number ∧ call.description = some description ∧
        state.sdpType = sdpTypeOf call.kind ∧
        match stage with
        | .entered | .localSet => True
        | .typeRead sdpType => sdpType = sdpTypeOf call.kind
        | .offerWritten => callText call = some state.offer
  | .failure answered => answered = number

/-- While the caller spins: the request is outstanding, its callback runs, it
has written the offer and raised the flag, or it has failed. -/
def Awaited (state : State) (number : Nat) (call : Call) : Prop :=
  (state.outstanding = [number] ∧ state.callback = .idle ∧ state.offerSet = false ∧
      state.sdpType = sdpTypeOf call.kind) ∨
    (state.outstanding = [] ∧ state.offerSet = false ∧ CallbackLinked state number call state.callback) ∨
    (state.outstanding = [] ∧ state.callback = .idle ∧ state.offerSet = true ∧
      callText call = some state.offer)

def Linked (state : State) : Prop :=
  match state.caller with
  | .idle | .received => Quiet state ∧ Returned state.calls state.returned
  | .typed kind =>
      Quiet state ∧ Returned state.calls state.returned ∧ state.sdpType = sdpTypeOf kind
  | .spinning number => ∃ before call, state.calls = before ++ [call] ∧ before.length = number ∧
      Returned before state.returned ∧ Awaited state number call
  | .released number => ∃ before call, state.calls = before ++ [call] ∧ before.length = number ∧
      Returned before state.returned ∧ state.outstanding = [] ∧ state.callback = .idle ∧
      state.offerSet = true ∧ callText call = some state.offer
  | .flagReset number => ∃ before call, state.calls = before ++ [call] ∧ before.length = number ∧
      Returned before state.returned ∧ Quiet state ∧ callText call = some state.offer

theorem linked_initial : Linked initial := ⟨⟨rfl, rfl, rfl⟩, rfl⟩

theorem spinning_of_outstanding {state : State} (linked : Linked state) {number : Nat}
    (member : number ∈ state.outstanding) :
    state.caller = .spinning number ∧ state.outstanding = [number] ∧ state.callback = .idle ∧
      state.offerSet = false ∧ ∃ before call, state.calls = before ++ [call] ∧
        before.length = number ∧ Returned before state.returned ∧
        state.sdpType = sdpTypeOf call.kind := by
  have nonempty : state.outstanding ≠ [] := List.ne_nil_of_mem member
  unfold Linked at linked
  split at linked
  case h_1 => exact absurd linked.1.1 nonempty
  case h_2 => exact absurd linked.1.1 nonempty
  case h_3 => exact absurd linked.1.1 nonempty
  case h_5 =>
    obtain ⟨before, call, -, -, -, empty, -⟩ := linked
    exact absurd empty nonempty
  case h_6 =>
    obtain ⟨before, call, -, -, -, quiet, -⟩ := linked
    exact absurd quiet.1 nonempty
  case h_4 other spinning =>
    obtain ⟨before, call, calls, length, returned, awaited⟩ := linked
    obtain ⟨outstanding, callback, flag, sdpType⟩ | ⟨empty, -⟩ | ⟨empty, -⟩ := awaited
    · obtain rfl : number = other := by simpa [outstanding] using member
      exact ⟨spinning, outstanding, callback, flag, before, call, calls, length, returned, sdpType⟩
    · exact absurd empty nonempty
    · exact absurd empty nonempty

theorem spinning_of_callback {state : State} (linked : Linked state)
    (running : state.callback ≠ .idle) :
    ∃ number before call, state.caller = .spinning number ∧ state.calls = before ++ [call] ∧
      before.length = number ∧ Returned before state.returned ∧ state.outstanding = [] ∧
      state.offerSet = false ∧ CallbackLinked state number call state.callback := by
  unfold Linked at linked
  split at linked
  case h_1 => exact absurd linked.1.2.1 running
  case h_2 => exact absurd linked.1.2.1 running
  case h_3 => exact absurd linked.1.2.1 running
  case h_5 =>
    obtain ⟨before, call, -, -, -, -, idle, -⟩ := linked
    exact absurd idle running
  case h_6 =>
    obtain ⟨before, call, -, -, -, quiet, -⟩ := linked
    exact absurd quiet.2.1 running
  case h_4 number spinning =>
    obtain ⟨before, call, calls, length, returned, awaited⟩ := linked
    obtain ⟨-, idle, -⟩ | ⟨empty, flag, callback⟩ | ⟨-, idle, -⟩ := awaited
    · exact absurd idle running
    · exact ⟨number, before, call, spinning, calls, length, returned, empty, flag, callback⟩
    · exact absurd idle running

theorem modify_last (before : List Call) (call : Call) (change : Call → Call) :
    (before ++ [call]).modify before.length change = before ++ [change call] := by
  induction before with
  | nil => rfl
  | cons first rest ih => simpa using ih

theorem linked_advance_caller {state next : State} (linked : Linked state)
    (taken : advanceCaller state = some next) : Linked next := by
  unfold advanceCaller at taken
  unfold Linked at linked
  split at taken
  case h_1 => contradiction
  case h_2 received =>
    obtain rfl := Option.some.inj taken
    rw [received] at linked
    exact ⟨linked.1, linked.2, rfl⟩
  case h_3 kind typed =>
    obtain rfl := Option.some.inj taken
    rw [typed] at linked
    obtain ⟨⟨empty, callback, flag⟩, returned, sdpType⟩ := linked
    refine ⟨state.calls, ⟨kind, none⟩, rfl, rfl, returned, .inl ⟨?_, callback, flag, sdpType⟩⟩
    simp [empty]
  case h_4 number spinning =>
    split at taken
    case isFalse =>
      obtain rfl := Option.some.inj taken
      unfold Linked
      exact linked
    case isTrue raised =>
      obtain rfl := Option.some.inj taken
      rw [spinning] at linked
      obtain ⟨before, call, calls, length, returned, awaited⟩ := linked
      obtain ⟨-, -, down, -⟩ | ⟨-, down, -⟩ | ⟨empty, callback, flag, text⟩ := awaited
      · simp [down] at raised
      · simp [down] at raised
      · exact ⟨before, call, calls, length, returned, empty, callback, flag, text⟩
  case h_5 number released =>
    obtain rfl := Option.some.inj taken
    rw [released] at linked
    obtain ⟨before, call, calls, length, returned, empty, callback, -, text⟩ := linked
    exact ⟨before, call, calls, length, returned, ⟨empty, callback, rfl⟩, text⟩
  case h_6 number flagReset =>
    obtain rfl := Option.some.inj taken
    rw [flagReset] at linked
    obtain ⟨before, call, calls, length, returned, quiet, text⟩ := linked
    refine ⟨quiet, ?_⟩
    simp only [Returned] at returned ⊢
    rw [calls, List.map_append, List.map_append, returned, List.map_singleton, text,
      List.map_singleton]

theorem linked_on_success {state next : State} (linked : Linked state) {number : Nat}
    {description : Bytes} (taken : step state (.onSuccess number description) = some next) :
    Linked next := by
  simp only [step] at taken
  split at taken
  case h_2 => contradiction
  case h_1 =>
    split at taken
    case isFalse => contradiction
    case isTrue member =>
      obtain rfl := Option.some.inj taken
      obtain ⟨spinning, outstanding, -, flag, before, call, calls, length, returned, sdpType⟩ :=
        spinning_of_outstanding linked member
      simp only [Linked, spinning]
      refine ⟨before, describe description call, ?_, length, returned, .inr (.inl ?_)⟩
      · rw [calls, ← length, modify_last]
      · exact ⟨by simp [outstanding], flag, rfl, rfl, sdpType, trivial⟩

theorem linked_on_failure {state next : State} (linked : Linked state) {number : Nat}
    (taken : step state (.onFailure number) = some next) :
    Linked next ∧ next.caller = .spinning number ∧ next.outstanding = [] ∧
      next.offerSet = false ∧ next.callback = .failure number := by
  simp only [step] at taken
  split at taken
  case h_2 => contradiction
  case h_1 =>
    split at taken
    case isFalse => contradiction
    case isTrue member =>
      obtain rfl := Option.some.inj taken
      obtain ⟨spinning, outstanding, -, flag, before, call, calls, length, returned, -⟩ :=
        spinning_of_outstanding linked member
      have empty : state.outstanding.erase number = [] := by simp [outstanding]
      refine ⟨?_, spinning, empty, flag, rfl⟩
      simp only [Linked, spinning]
      exact ⟨before, call, calls, length, returned, .inr (.inl ⟨empty, flag, rfl⟩)⟩

theorem linked_advance_callback {state next : State} (linked : Linked state)
    (taken : advanceCallback state = some next) : Linked next := by
  have running : state.callback ≠ .idle := by
    intro idle
    simp [advanceCallback, idle] at taken
  obtain ⟨number, before, call, spinning, calls, length, returned, empty, flag, callback⟩ :=
    spinning_of_callback linked running
  unfold advanceCallback at taken
  split at taken
  case h_1 => contradiction
  case h_2 stands =>
    obtain rfl := Option.some.inj taken
    rw [stands] at callback
    simp only [Linked, spinning]
    exact ⟨before, call, calls, length, returned, .inr (.inl ⟨empty, flag, callback⟩)⟩
  case h_3 stands =>
    obtain rfl := Option.some.inj taken
    rw [stands] at callback
    obtain ⟨answered, described, sdpType, -⟩ := callback
    simp only [Linked, spinning]
    exact ⟨before, call, calls, length, returned,
      .inr (.inl ⟨empty, flag, answered, described, sdpType, sdpType⟩)⟩
  case h_4 description sdpTypeRead stands =>
    obtain rfl := Option.some.inj taken
    rw [stands] at callback
    obtain ⟨answered, described, sdpType, read⟩ := callback
    simp only [Linked, spinning]
    refine ⟨before, call, calls, length, returned,
      .inr (.inl ⟨empty, flag, answered, described, sdpType, ?_⟩)⟩
    simp only at read
    simp [callText, described, read]
  case h_5 stands =>
    obtain rfl := Option.some.inj taken
    rw [stands] at callback
    obtain ⟨-, -, -, text⟩ := callback
    simp only [Linked, spinning]
    exact ⟨before, call, calls, length, returned, .inr (.inr ⟨empty, rfl, rfl, text⟩)⟩
  case h_6 stands =>
    obtain rfl := Option.some.inj taken
    simp only [Linked, spinning]
    exact ⟨before, call, calls, length, returned, .inr (.inl ⟨empty, flag, trivial⟩)⟩

theorem linked_step {state next : State} {action : Action} (linked : Linked state)
    (taken : step state action = some next) : Linked next := by
  cases action with
  | getOffer =>
      simp only [step] at taken
      split at taken
      case h_2 => contradiction
      case h_1 idle =>
        obtain rfl := Option.some.inj taken
        simp only [Linked, idle] at linked
        exact ⟨linked.1, linked.2, rfl⟩
  | receiveOffer =>
      simp only [step] at taken
      split at taken
      case h_2 => contradiction
      case h_1 idle =>
        obtain rfl := Option.some.inj taken
        simp only [Linked, idle] at linked
        exact linked
  | advanceCaller => exact linked_advance_caller linked taken
  | onSuccess number description => exact linked_on_success linked taken
  | onFailure number => exact (linked_on_failure linked taken).1
  | advanceCallback => exact linked_advance_callback linked taken
  | setDescriptionFailed =>
      obtain rfl := Option.some.inj taken
      exact linked

end PyWebRTC.SessionDescription
