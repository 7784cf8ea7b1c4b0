import PyWebRTC.ActionRuns
import PyWebRTC.SessionDescription
import Mathlib.Tactic.SplitIfs

/-!
# Negotiations and the descriptions they install

`get_offer`, `receiveOffer` and `receiveAnswer` one after the other, with every
outcome of the native calls. A description that `SetRemoteDescription` or
`SetLocalDescription` refuses leaves the installed one where it is and is
reported to an observer, which stores a flag; the call goes on with whatever is
installed. `CreateAnswer` only asks that the installed remote description be an
offer, and does not care how old it is.
-/

namespace PyWebRTC.Negotiation

open ActionRuns
open PicojsonValue (Bytes)
open SessionDescription (SdpKind descriptionObject sdpTypeOf sessionText session_text_eq)

set_option autoImplicit false

structure Description where
  kind : SdpKind
  sdp : Bytes

inductive Call where
  | getOffer
  | receiveOffer (parameter : Bytes)
  | receiveAnswer (parameter : Bytes)

/-- How the native calls inside one call turn out: `created` is the text of the
description made by `CreateOffer` or `CreateAnswer`, none on failure. -/
structure Outcomes where
  setRemote : Bool
  created : Option Bytes
  setLocal : Bool

/-- A description that was created, and the remote description installed at that
time. -/
structure Creation where
  description : Description
  against : Option Description

/-- A text returned by `get_offer` or `receiveOffer`, with what it was made from
and the local description installed when it was returned. -/
structure Handover where
  call : Call
  text : Bytes
  creation : Option Creation
  installed : Option Description

/-- `creation` tells what the text in `offer` was made from; it and `returned`
are records, no program state. A call whose request fails spins in `get_sdp`. -/
structure State where
  sdpType : SdpKind
  offer : Bytes
  offerSet : Bool
  peerConnectionFailed : Bool
  remoteDescription : Option Description
  localDescription : Option Description
  spinning : Bool
  creation : Option Creation
  returned : List Handover

def initial : State where
  sdpType := .offer
  offer := []
  offerSet := false
  peerConnectionFailed := false
  remoteDescription := none
  localDescription := none
  spinning := false
  creation := none
  returned := []

/-- What `CreateSessionDescription` makes of a string, by the parser of WebRTC. -/
def createSessionDescription (parse : SdpKind → Bytes → Option Bytes) (kind : SdpKind)
    (parameter : Bytes) : Option Description :=
  (parse kind parameter).map fun sdp => ⟨kind, sdp⟩

def setRemoteDescription (state : State) (description : Option Description) (succeeds : Bool) :
    State :=
  if succeeds ∧ description.isSome then { state with remoteDescription := description }
  else { state with peerConnectionFailed := true }

def setLocalDescription (state : State) (description : Option Description) (succeeds : Bool) :
    State :=
  if succeeds ∧ description.isSome then { state with localDescription := description }
  else { state with peerConnectionFailed := true }

def sessionSuccess (state : State) (description : Description) (setLocal : Bool) : State :=
  { setLocalDescription state (some description) setLocal with
    offer := sessionText description.sdp (sdpTypeOf state.sdpType)
    offerSet := true
    creation := some ⟨description, state.remoteDescription⟩ }

def create (state : State) (kind : SdpKind) (outcomes : Outcomes) : State :=
  match outcomes.created with
  | some sdp => sessionSuccess state ⟨kind, sdp⟩ outcomes.setLocal
  | none => { state with peerConnectionFailed := true }

def getSdp (state : State) (call : Call) : State :=
  if state.offerSet then
    { state with
      offerSet := false
      returned := state.returned ++
        [⟨call, state.offer, state.creation, state.localDescription⟩] }
  else { state with spinning := true }

def getOffer (state : State) (outcomes : Outcomes) : State :=
  getSdp (create { state with sdpType := .offer } .offer outcomes) .getOffer

variable (parse : SdpKind → Bytes → Option Bytes)

def receiveAnswer (state : State) (parameter : Bytes) (outcomes : Outcomes) : State :=
  setRemoteDescription state (createSessionDescription parse .answer parameter)
    outcomes.setRemote

def installOffer (state : State) (parameter : Bytes) (outcomes : Outcomes) : State :=
  { setRemoteDescription state (createSessionDescription parse .offer parameter)
      outcomes.setRemote with
    sdpType := .answer }

def receiveOffer (state : State) (parameter : Bytes) (outcomes : Outcomes) : State :=
  getSdp (create (installOffer parse state parameter outcomes) .answer outcomes)
    (.receiveOffer parameter)

def hasRemoteOffer (state : State) : Bool :=
  match state.remoteDescription with
  | some ⟨.offer, _⟩ => true
  | _ => false

/-- One call after the other. No call follows one that spins, and `CreateAnswer`
does not fail where the installed remote description is an offer. -/
def step (state : State) (taken : Call × Outcomes) : Option State :=
  if state.spinning then none
  else
    match taken with
    | (.getOffer, outcomes) => some (getOffer state outcomes)
    | (.receiveOffer parameter, outcomes) =>
        if hasRemoteOffer (installOffer parse state parameter outcomes) &&
            outcomes.created.isNone then none
        else some (receiveOffer parse state parameter outcomes)
    | (.receiveAnswer parameter, outcomes) => some (receiveAnswer parse state parameter outcomes)

/-! ## Agreement -/

/-- The text is that of a description that is installed as the local one, and an
answer was created against the offer that the call was given. -/
def Agrees (handover : Handover) : Prop :=
  ∃ creation, handover.creation = some creation ∧
    handover.text = PicojsonSerialize.serialize
      (descriptionObject creation.description.kind creation.description.sdp) true ∧
    handover.installed = some creation.description ∧
    ∀ parameter, handover.call = .receiveOffer parameter →
      ∃ offer, createSessionDescription parse .offer parameter = some offer ∧
        creation.against = some offer

def AllAgree (state : State) : Prop := ∀ handover ∈ state.returned, Agrees parse handover

/-- The local description can be set, or it is the installed one already. -/
def InstallsLocal (state : State) (outcomes : Outcomes) (description : Description) : Prop :=
  outcomes.setLocal = true ∨ state.localDescription = some description

/-- The string is an offer, and it can be set as the remote description or is
the installed one already. -/
def InstallsRemote (state : State) (outcomes : Outcomes) (parameter : Bytes) : Prop :=
  ∃ offer, createSessionDescription parse .offer parameter = some offer ∧
    (outcomes.setRemote = true ∨ state.remoteDescription = some offer)

def SetsDescriptions (state : State) : Call × Outcomes → Prop
  | (.getOffer, outcomes) => ∀ sdp, outcomes.created = some sdp →
      InstallsLocal state outcomes ⟨.offer, sdp⟩
  | (.receiveOffer parameter, outcomes) => ∀ sdp, outcomes.created = some sdp →
      InstallsLocal state outcomes ⟨.answer, sdp⟩ ∧
        InstallsRemote parse state outcomes parameter
  | (.receiveAnswer _, _) => True

theorem set_local_description_local (state : State) (description : Description)
    (succeeds : Bool) :
    (setLocalDescription state (some description) succeeds).localDescription =
      if succeeds then some description else state.localDescription := by
  cases succeeds <;> rfl

theorem set_local_description_returned (state : State) (description : Option Description)
    (succeeds : Bool) :
    (setLocalDescription state description succeeds).returned = state.returned := by
  unfold setLocalDescription
  split <;> rfl

theorem set_remote_description_frame (state : State) (description : Option Description)
    (succeeds : Bool) :
    ∃ remote failed, setRemoteDescription state description succeeds =
      { state with remoteDescription := remote, peerConnectionFailed := failed } := by
  unfold setRemoteDescription
  split
  · exact ⟨description, state.peerConnectionFailed, rfl⟩
  · exact ⟨state.remoteDescription, true, rfl⟩

theorem install_offer_frame (state : State) (parameter : Bytes) (outcomes : Outcomes) :
    (installOffer parse state parameter outcomes).returned = state.returned ∧
      (installOffer parse state parameter outcomes).localDescription = state.localDescription ∧
      (installOffer parse state parameter outcomes).offerSet = state.offerSet := by
  obtain ⟨remote, failed, frame⟩ := set_remote_description_frame state
    (createSessionDescription parse .offer parameter) outcomes.setRemote
  simp [installOffer, frame]

theorem install_offer_remote_iff (state : State) (parameter : Bytes) (outcomes : Outcomes) :
    (∃ offer, createSessionDescription parse .offer parameter = some offer ∧
        (installOffer parse state parameter outcomes).remoteDescription = some offer) ↔
      InstallsRemote parse state outcomes parameter := by
  apply exists_congr
  intro offer
  apply and_congr_right
  intro parsed
  cases succeeds : outcomes.setRemote <;>
    simp [installOffer, setRemoteDescription, parsed, succeeds]

def handoverOf (state : State) (kind : SdpKind) (outcomes : Outcomes) (call : Call) :
    Option Handover :=
  outcomes.created.map fun sdp =>
    ⟨call, sessionText sdp (sdpTypeOf kind), some ⟨⟨kind, sdp⟩, state.remoteDescription⟩,
      if outcomes.setLocal then some ⟨kind, sdp⟩ else state.localDescription⟩

/-- With the flag down, a request that fails gives nothing back and one that
succeeds gives back its own text. -/
theorem get_sdp_create {state : State} (down : state.offerSet = false) (outcomes : Outcomes)
    (call : Call) :
    (getSdp (create state state.sdpType outcomes) call).offerSet = false ∧
      (getSdp (create state state.sdpType outcomes) call).returned =
        state.returned ++ (handoverOf state state.sdpType outcomes call).toList := by
  cases created : outcomes.created with
  | none => simp [create, created, getSdp, down, handoverOf]
  | some sdp =>
      simp [create, created, getSdp, sessionSuccess, handoverOf,
        set_local_description_local, set_local_description_returned]

theorem agrees_handover_iff {state : State} {kind : SdpKind} {outcomes : Outcomes} {call : Call} :
    (∀ handover ∈ handoverOf state kind outcomes call, Agrees parse handover) ↔
      ∀ sdp, outcomes.created = some sdp → InstallsLocal state outcomes ⟨kind, sdp⟩ ∧
        ∀ parameter, call = .receiveOffer parameter →
          ∃ offer, createSessionDescription parse .offer parameter = some offer ∧
            state.remoteDescription = some offer := by
  cases created : outcomes.created with
  | none => simp [handoverOf, created]
  | some sdp =>
      cases succeeds : outcomes.setLocal <;>
        simp [handoverOf, created, Agrees, InstallsLocal, succeeds, session_text_eq]

/-- A call returns at most one text, and it agrees when the call could set its
descriptions. -/
theorem step_returns {state next : State} {taken : Call × Outcomes}
    (down : state.offerSet = false) (stepped : step parse state taken = some next) :
    next.offerSet = false ∧ ∃ added : Option Handover,
      next.returned = state.returned ++ added.toList ∧
        ((∀ handover ∈ added, Agrees parse handover) ↔ SetsDescriptions parse state taken) := by
  obtain ⟨call, outcomes⟩ := taken
  simp only [step] at stepped
  split_ifs at stepped
  cases call with
  | getOffer =>
      obtain rfl := Option.some.inj stepped
      have requested : ({ state with sdpType := .offer } : State).offerSet = false := down
      obtain ⟨lowered, returned⟩ := get_sdp_create requested outcomes .getOffer
      refine ⟨lowered, _, returned, ?_⟩
      rw [agrees_handover_iff]
      simp [SetsDescriptions, InstallsLocal]
  | receiveOffer parameter =>
      simp only at stepped
      split_ifs at stepped
      obtain rfl := Option.some.inj stepped
      obtain ⟨kept, localKept, flagKept⟩ := install_offer_frame parse state parameter outcomes
      have requested : (installOffer parse state parameter outcomes).offerSet = false :=
        flagKept.trans down
      obtain ⟨lowered, returned⟩ := get_sdp_create requested outcomes (.receiveOffer parameter)
      rw [kept] at returned
      refine ⟨lowered, _, returned, ?_⟩
      rw [agrees_handover_iff]
      simp only [SetsDescriptions, InstallsLocal, localKept, Call.receiveOffer.injEq,
        forall_eq', install_offer_remote_iff]
      rfl
  | receiveAnswer parameter =>
      obtain rfl := Option.some.inj stepped
      obtain ⟨remote, failed, frame⟩ := set_remote_description_frame state
        (createSessionDescription parse .answer parameter) outcomes.setRemote
      rw [receiveAnswer, frame]
      exact ⟨down, none, by simp, by simp [SetsDescriptions]⟩

/-- In every sequence of calls, whatever the strings and the outcomes. -/
theorem descriptions_agree_iff (calls : List (Call × Outcomes)) (last : State)
    (run : replay (step parse) initial calls = some last) :
    HoldsAlong (AllAgree parse) (step parse) initial calls ↔
      MeetsAlong (SetsDescriptions parse) (step parse) initial calls := by
  refine holds_along_iff_meets_along
    (fun state : State => state.offerSet = false ∧ AllAgree parse state)
    ⟨rfl, by simp [AllAgree, initial]⟩ (fun _ both => both.2) ?_ ?_ run
  · intro state taken next both sets stepped
    obtain ⟨lowered, added, returned, agrees⟩ := step_returns parse both.1 stepped
    refine ⟨lowered, ?_⟩
    intro handover member
    rw [returned, List.mem_append, Option.mem_toList] at member
    rcases member with earlier | latest
    · exact both.2 handover earlier
    · exact agrees.mpr sets handover latest
  · intro state taken next both unset stepped allAgree
    obtain ⟨-, added, returned, agrees⟩ := step_returns parse both.1 stepped
    apply unset
    apply agrees.mp
    intro handover latest
    apply allAgree
    rw [returned, List.mem_append, Option.mem_toList]
    exact .inr latest

def rejectZero (_ : SdpKind) (parameter : Bytes) : Option Bytes :=
  if parameter.head? = some 0 then none else some parameter

def succeedWith (sdp : Bytes) : Outcomes := ⟨true, some sdp, true⟩

/-- An offer and then a string that is none: the second answer is made against
the first offer. -/
theorem answer_made_against_older_offer :
    ¬∀ (parse : SdpKind → Bytes → Option Bytes) (calls : List (Call × Outcomes)) (state : State),
      replay (step parse) initial calls = some state → AllAgree parse state := by
  intro claimed
  have allAgree := claimed rejectZero
    [(.receiveOffer [1], succeedWith [2]), (.receiveOffer [0], succeedWith [3])] _ rfl
  obtain ⟨creation, -, -, -, against⟩ := allAgree _ (List.mem_append_right _ (List.mem_singleton_self _))
  obtain ⟨offer, parsed, -⟩ := against [0] rfl
  contradiction

theorem renegotiation_agrees :
    HoldsAlong (AllAgree rejectZero) (step rejectZero) initial
      [(.receiveOffer [1], succeedWith [2]), (.getOffer, succeedWith [3]),
        (.receiveAnswer [4], ⟨false, none, false⟩)] := by
  apply (descriptions_agree_iff rejectZero _ _ rfl).mpr
  simp [MeetsAlong, SetsDescriptions, InstallsLocal, InstallsRemote, createSessionDescription,
    rejectZero, succeedWith]

end PyWebRTC.Negotiation
