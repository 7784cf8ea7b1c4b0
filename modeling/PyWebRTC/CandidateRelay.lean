import PyWebRTC.IceCandidateArray
import PyWebRTC.IceInformation
import PyWebRTC.PicojsonRoundTrip

/-!
# Candidates from one side to the other

Every text that `getICEInformation` returns is given to `setICEInformation` of
the other side. Whatever bytes the candidates hold and however they arrive
during the calls, the other side asks WebRTC for candidates that were gathered,
in their order and at most once each.
-/

namespace PyWebRTC.CandidateRelay

open ActionRuns IceCandidateArray IceCandidateObject IceInformation PicojsonRoundTrip PicojsonValue

set_option autoImplicit false

variable {Candidate : Type*}

/-! ## One text -/

theorem ordered_ice_object (ice : IceCandidate) : Ordered (iceObject ice) := by
  have keys : candidateKey < sdpMLineIndexKey ∧ candidateKey < sdpMidKey ∧
      sdpMLineIndexKey < sdpMidKey := by decide
  rw [ice_object_eq]
  refine ⟨?_, by simp only [OrderedEntries, OrderedEntry, Ordered, and_self]⟩
  simpa [Ascending] using ⟨⟨keys.1, keys.2.1⟩, keys.2.2⟩

theorem ordered_ice_objects (ices : List IceCandidate) :
    Ordered (.array (ices.map iceObject)) := by
  rw [Ordered, ordered_items_iff]
  intro item member
  obtain ⟨ice, -, rfl⟩ := List.mem_map.mp member
  exact ordered_ice_object ice

theorem set_ice_information_connection_ice (factory : CandidateFactory Candidate)
    (ices : List IceCandidate) :
    setIceInformation factory (connectionIceText (ices.map iceObject)) =
      addIceCandidates factory ⟨[], []⟩ (ices.map iceObject) := by
  rw [setIceInformation, connectionIceText, parse_serialize (ordered_ice_objects ices)]
  rfl

/-- The candidates asked for are the first ones, and all of them where none is
rejected with a line. -/
theorem add_ice_candidates_objects (factory : CandidateFactory Candidate)
    (errSdp : SdpParseError) (ices : List IceCandidate) :
    (addIceCandidates factory errSdp (ices.map iceObject)).ending = .ok () ∧
      (addIceCandidates factory errSdp (ices.map iceObject)).created <+: ices ∧
      (errSdp.line = [] → (∀ init error, factory.create init = .error error → error.line = []) →
        (addIceCandidates factory errSdp (ices.map iceObject)).created = ices) := by
  induction ices generalizing errSdp with
  | nil => exact ⟨rfl, List.prefix_refl _, fun _ _ => rfl⟩
  | cons ice rest ih =>
      simp only [List.map_cons, addIceCandidates, read_candidate_ice_object]
      obtain ⟨ending, first, whole⟩ := ih (createIceCandidate factory ice errSdp).2
      split
      case isTrue stops =>
        refine ⟨rfl, by simp, fun noLine lineless => absurd ?_ stops.1⟩
        unfold createIceCandidate
        split
        case h_1 => exact noLine
        case h_2 error rejected => exact lineless ice error rejected
      case isFalse =>
        refine ⟨ending, (List.prefix_cons_inj ice).mpr first, fun noLine lineless => ?_⟩
        refine congrArg (ice :: ·) (whole ?_ lineless)
        unfold createIceCandidate
        split
        case h_1 => exact noLine
        case h_2 error rejected => exact lineless ice error rejected

theorem ice_object_injective : Function.Injective iceObject := by
  intro left right same
  have read := read_candidate_ice_object left
  rw [same, read_candidate_ice_object] at read
  exact (Except.ok.inj read).symm

/-! ## All texts of a run -/

def relayed (factory : CandidateFactory Candidate) (returned : List (List Value)) :
    List (Run Candidate) :=
  returned.map fun connectionIce => setIceInformation factory (connectionIceText connectionIce)

/-- What was returned, is on its way or is still gathered was gathered, in this
order. -/
def InOrder (state : State) : Prop :=
  (state.returned.flatten ++ onTheWay state.call ++ state.iceArray).Sublist
      (state.gathered.map iceObject) ∧
    ∀ connectionIce, state.call = .serialized connectionIce → connectionIce <+: state.iceArray

theorem in_order_step {state next : State} {action : Action} (inOrder : InOrder state)
    (taken : step state action = some next) : InOrder next := by
  obtain ⟨sublist, first⟩ := inOrder
  cases action with
  | onIceCandidate candidate =>
      obtain rfl := Option.some.inj taken
      refine ⟨?_, fun connectionIce serialized =>
        (first connectionIce serialized).trans (List.prefix_append _ _)⟩
      rw [List.map_append, ← List.append_assoc]
      exact sublist.append (List.Sublist.refl _)
  | serialize =>
      simp only [step] at taken
      split at taken
      case h_2 => contradiction
      case h_1 idle =>
        obtain rfl := Option.some.inj taken
        refine ⟨by simpa [idle, onTheWay] using sublist, ?_⟩
        intro connectionIce serialized
        rw [Call.serialized.inj serialized]
  | clear =>
      simp only [step] at taken
      split at taken
      case h_2 => contradiction
      case h_1 connectionIce serialized =>
        obtain rfl := Option.some.inj taken
        refine ⟨?_, fun other serializedAgain => by contradiction⟩
        simp only [serialized, onTheWay, List.append_nil] at sublist ⊢
        exact ((List.Sublist.refl _).append (first connectionIce serialized).sublist).trans sublist
  | finish =>
      simp only [step] at taken
      split at taken
      case h_2 => contradiction
      case h_1 connectionIce cleared =>
        obtain rfl := Option.some.inj taken
        refine ⟨by simpa [cleared, onTheWay] using sublist, ?_⟩
        intro other serialized
        contradiction

theorem returned_in_order {actions : List Action} {last : State}
    (run : replay step initial actions = some last) :
    ∃ batches : List (List IceCandidate), last.returned = batches.map (List.map iceObject) ∧
      batches.flatten.Sublist last.gathered := by
  have initially : InOrder initial :=
    ⟨List.Sublist.refl _, fun connectionIce serialized => by contradiction⟩
  obtain ⟨sublist, -⟩ := replay_invariant InOrder initially (fun _ _ _ => in_order_step) run
  have returned : last.returned.flatten.Sublist (last.gathered.map iceObject) := by
    rw [List.append_assoc] at sublist
    exact (List.sublist_append_left _ _).trans sublist
  have objects : ∀ batch ∈ last.returned, ∃ ices : List IceCandidate, batch = ices.map iceObject := by
    intro batch member
    obtain ⟨ices, -, same⟩ := List.sublist_map_iff.mp
      ((List.sublist_flatten_of_mem member).trans returned)
    exact ⟨ices, same⟩
  obtain ⟨batches, split⟩ : ∃ batches : List (List IceCandidate),
      last.returned = batches.map (List.map iceObject) := by
    have range : last.returned ∈ Set.range (List.map (List.map iceObject)) := by
      rw [Set.range_list_map]
      intro batch member
      obtain ⟨ices, same⟩ := objects batch member
      exact ⟨ices, same.symm⟩
    obtain ⟨batches, same⟩ := range
    exact ⟨batches, same.symm⟩
  refine ⟨batches, split, ?_⟩
  rw [split, ← List.map_flatten] at returned
  obtain ⟨ices, within, same⟩ := List.sublist_map_iff.mp returned
  rwa [List.map_injective_iff.mpr ice_object_injective same]

/-- A rejected candidate leaves the line of its error empty. -/
def Lineless (factory : CandidateFactory Candidate) : Prop :=
  ∀ init error, factory.create init = .error error → error.line = []

theorem relayed_batches (factory : CandidateFactory Candidate)
    (batches : List (List IceCandidate)) :
    (∀ done ∈ relayed factory (batches.map (List.map iceObject)), done.ending = .ok ()) ∧
      ((relayed factory (batches.map (List.map iceObject))).flatMap Run.created).Sublist
        batches.flatten ∧
      (Lineless factory →
        (relayed factory (batches.map (List.map iceObject))).flatMap Run.created =
          batches.flatten) := by
  induction batches with
  | nil => simp [relayed]
  | cons batch rest ih =>
      obtain ⟨ending, first, whole⟩ := add_ice_candidates_objects factory ⟨[], []⟩ batch
      obtain ⟨endings, created, all⟩ := ih
      rw [← set_ice_information_connection_ice] at ending first whole
      refine ⟨List.forall_mem_cons.mpr ⟨ending, endings⟩, first.sublist.append created, ?_⟩
      intro lineless
      exact congrArg₂ (· ++ ·) (whole rfl lineless) (all lineless)

/-- However the calls and the candidates interleave, the other side returns from
every call and asks for gathered candidates only, in order and once each. It asks
for all of them when none arrives between the two statements of a call, the last
call has picked up the last one, and no rejection has a line. -/
theorem relayed_candidates (factory : CandidateFactory Candidate) {actions : List Action}
    {last : State} (run : replay step initial actions = some last) :
    (∀ done ∈ relayed factory last.returned, done.ending = .ok ()) ∧
      ((relayed factory last.returned).flatMap Run.created).Sublist last.gathered ∧
      (Lineless factory → MeetsAlong OutsideTheWindow step initial actions →
        last.call = .idle → last.iceArray = [] →
        (relayed factory last.returned).flatMap Run.created = last.gathered) := by
  obtain ⟨batches, split, sublist⟩ := returned_in_order run
  obtain ⟨endings, created, all⟩ := relayed_batches factory batches
  rw [split]
  refine ⟨endings, created.trans sublist, ?_⟩
  intro lineless outside idle noneLeft
  have initially : Sound initial := ⟨rfl, fun connectionIce serialized => by contradiction⟩
  rcases sound_or_spoiled Sound Spoiled initially (fun _ _ _ => sound_kept)
    (fun _ _ _ => spoiled_in_the_window) (fun _ _ _ => spoiled_stays) run with
    ⟨-, equation, -⟩ | ⟨inside, -⟩
  · rw [idle, noneLeft, split, ← List.map_flatten] at equation
    rw [all lineless]
    apply List.map_injective_iff.mpr ice_object_injective
    simpa [onTheWay] using equation
  · exact absurd outside inside

theorem relayed_two_candidates :
    (relayed acceptAll [[iceObject (candidateOf [0])], [iceObject (candidateOf [255])]]).flatMap
      Run.created = [candidateOf [0], candidateOf [255]] := by
  refine (@relayed_candidates Unit acceptAll [.onIceCandidate (candidateOf [0]), .serialize,
    .clear, .finish, .onIceCandidate (candidateOf [255]), .serialize, .clear, .finish]
    ⟨[], .idle, [candidateOf [0], candidateOf [255]], [[iceObject (candidateOf [0])],
      [iceObject (candidateOf [255])]]⟩ rfl).2.2 ?_ ?_ rfl rfl
  · intro init error rejected
    contradiction
  · simp [MeetsAlong, OutsideTheWindow, step, initial]

end PyWebRTC.CandidateRelay
