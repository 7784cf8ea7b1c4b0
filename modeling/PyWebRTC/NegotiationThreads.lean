import PyWebRTC.ForwardSimulation
import PyWebRTC.Negotiation
import PyWebRTC.SessionDescriptionHandOff
import PyWebRTC.SessionDescriptionWait

/-!
# The hand-off makes calls atomic

`get_offer` and `receiveOffer` run on one thread and `sessionSuccess` on
another, statement by statement. To their callers they are what the negotiation
takes them for: one step each, which returns the text of its own description or
spins for ever. What the threads leave open of a call is its argument and
whether descriptions can be set.
-/

namespace PyWebRTC.NegotiationThreads

open ActionRuns ForwardSimulation
open Negotiation (Outcomes)
open PicojsonValue (Bytes)
open SessionDescription SessionDescriptionWait

set_option autoImplicit false

/-- What the threads do not see of a call. -/
structure Environment where
  parameter : Bytes
  setRemote : Bool
  setLocal : Bool

variable (parse : SdpKind → Bytes → Option Bytes) (environment : Nat → Environment)

def Installs (number : Nat) : Prop :=
  (environment number).setRemote = true ∧
    (parse .offer (environment number).parameter).isSome

def callOf (number : Nat) : SdpKind → Negotiation.Call
  | .offer => .getOffer
  | .answer => .receiveOffer (environment number).parameter

def outcomesOf (number : Nat) (created : Option Bytes) : Outcomes :=
  ⟨(environment number).setRemote, created, (environment number).setLocal⟩

def callsOf (state : State) (number : Nat) (created : Call → Option Bytes) :
    List (Negotiation.Call × Outcomes) :=
  state.calls[number]?.toList.map fun call =>
    (callOf environment number call.kind, outcomesOf environment number (created call))

/-- A call takes effect when it returns, or when its request fails. -/
def takesEffect (state : State) : Action → List (Negotiation.Call × Outcomes)
  | .advanceCaller =>
      match state.caller with
      | .flagReset number => callsOf environment state number Call.description
      | _ => []
  | .onFailure number => callsOf environment state number fun _ => none
  | _ => []

/-- `CreateAnswer` fails only as long as no offer was installed. -/
def FailsForWantOfOffer (state : State) : Action → Prop
  | .onFailure number => ∀ call, state.calls[number]? = some call → call.kind = .answer →
      ∀ earlier, (state.calls.map Call.kind)[earlier]? = some .answer →
        ¬Installs parse environment earlier
  | _ => True

/-- The negotiation has handed over the same texts, and spins when the caller is
stuck. -/
structure Related (state : State) (abstract : Negotiation.State) : Prop where
  linked : Linked state
  down : abstract.offerSet = false
  texts : abstract.returned.map Negotiation.Handover.text = state.returned
  spins : (abstract.spinning = true ∧ Stuck state) ∨
    (abstract.spinning = false ∧ NeverStuck state)
  installed : Negotiation.hasRemoteOffer abstract = true →
    ∃ earlier, (state.calls.map Call.kind)[earlier]? = some .answer ∧
      Installs parse environment earlier

theorem related_initial : Related parse environment initial Negotiation.initial where
  linked := linked_initial
  down := rfl
  texts := rfl
  spins := .inr ⟨rfl, fun number spinning => by contradiction⟩
  installed := by simp [Negotiation.hasRemoteOffer, Negotiation.initial]

/-! ## A call of the negotiation -/

theorem get_sdp_create_frame {state : Negotiation.State} (down : state.offerSet = false)
    (kind : SdpKind) (outcomes : Outcomes) (call : Negotiation.Call) :
    (Negotiation.getSdp (Negotiation.create state kind outcomes) call).remoteDescription =
        state.remoteDescription ∧
      (Negotiation.getSdp (Negotiation.create state kind outcomes) call).spinning =
        (state.spinning || outcomes.created.isNone) := by
  cases created : outcomes.created with
  | none => simp [Negotiation.create, created, Negotiation.getSdp, down]
  | some sdp =>
      simp only [Negotiation.create, created, Negotiation.getSdp, Negotiation.sessionSuccess,
        Negotiation.setLocalDescription, if_true]
      split <;> simp

theorem has_remote_offer_congr {left right : Negotiation.State}
    (same : left.remoteDescription = right.remoteDescription) :
    Negotiation.hasRemoteOffer left = Negotiation.hasRemoteOffer right := by
  rw [Negotiation.hasRemoteOffer, same, Negotiation.hasRemoteOffer]

theorem installs_of_has_remote_offer {abstract : Negotiation.State} {number : Nat}
    {created : Option Bytes}
    (remote : Negotiation.hasRemoteOffer (Negotiation.installOffer parse abstract
      (environment number).parameter (outcomesOf environment number created)) = true) :
    Negotiation.hasRemoteOffer abstract = true ∨ Installs parse environment number := by
  by_cases installs : Installs parse environment number
  · exact .inr installs
  · left
    rw [← remote]
    apply has_remote_offer_congr
    simp only [Negotiation.installOffer, Negotiation.setRemoteDescription,
      Negotiation.createSessionDescription, Option.isSome_map, outcomesOf]
    unfold Installs at installs
    rw [if_neg installs]

theorem step_call {abstract : Negotiation.State} (free : abstract.spinning = false)
    (down : abstract.offerSet = false) (number : Nat) (kind : SdpKind) (created : Option Bytes)
    (possible : created = none → kind = .answer →
      Negotiation.hasRemoteOffer abstract = false ∧ ¬Installs parse environment number) :
    ∃ next, Negotiation.step parse abstract
        (callOf environment number kind, outcomesOf environment number created) = some next ∧
      next.offerSet = false ∧
      next.returned.map Negotiation.Handover.text =
        abstract.returned.map Negotiation.Handover.text ++
          (created.map fun sdp => sessionText sdp (sdpTypeOf kind)).toList ∧
      next.spinning = created.isNone ∧
      (Negotiation.hasRemoteOffer next = true → Negotiation.hasRemoteOffer abstract = true ∨
        kind = .answer ∧ Installs parse environment number) := by
  cases kind with
  | offer =>
      have requested : ({ abstract with sdpType := .offer } : Negotiation.State).offerSet = false :=
        down
      obtain ⟨lowered, returned⟩ :=
        Negotiation.get_sdp_create requested (outcomesOf environment number created) .getOffer
      obtain ⟨remote, spins⟩ := get_sdp_create_frame requested .offer
        (outcomesOf environment number created) .getOffer
      refine ⟨Negotiation.getOffer abstract (outcomesOf environment number created), ?_, lowered,
        ?_, ?_, ?_⟩
      · simp [Negotiation.step, free, callOf]
      · rw [Negotiation.getOffer, returned, List.map_append]
        cases created <;> rfl
      · rw [Negotiation.getOffer, spins, free, Bool.false_or]
        rfl
      · exact fun hasOffer => .inl ((has_remote_offer_congr remote).symm.trans hasOffer)
  | answer =>
      let outcomes := outcomesOf environment number created
      let parameter := (environment number).parameter
      obtain ⟨kept, -, flagKept⟩ :=
        Negotiation.install_offer_frame parse abstract parameter outcomes
      have requested : (Negotiation.installOffer parse abstract parameter outcomes).offerSet =
          false := flagKept.trans down
      obtain ⟨lowered, returned⟩ :=
        Negotiation.get_sdp_create requested outcomes (.receiveOffer parameter)
      obtain ⟨remote, spins⟩ := get_sdp_create_frame requested .answer outcomes
        (.receiveOffer parameter)
      have allowed : (Negotiation.hasRemoteOffer
          (Negotiation.installOffer parse abstract parameter outcomes) && created.isNone) =
            false := by
        cases created with
        | some sdp => simp
        | none =>
            obtain ⟨noOffer, notInstalled⟩ := possible rfl rfl
            rw [Option.isNone_none, Bool.and_true, ← Bool.not_eq_true]
            intro hasOffer
            rcases installs_of_has_remote_offer parse environment hasOffer with before | installs
            · simp [noOffer] at before
            · exact notInstalled installs
      refine ⟨Negotiation.receiveOffer parse abstract parameter outcomes, ?_, lowered, ?_, ?_, ?_⟩
      · change (if abstract.spinning = true then none
          else if (Negotiation.hasRemoteOffer (Negotiation.installOffer parse abstract parameter
            outcomes) && created.isNone) = true then none else some _) = _
        rw [free, allowed]
        rfl
      · refine (congrArg (List.map Negotiation.Handover.text) returned).trans ?_
        rw [kept, List.map_append]
        cases created <;> rfl
      · obtain ⟨remoteDescription, failed, frame⟩ :=
          Negotiation.set_remote_description_frame abstract
            (Negotiation.createSessionDescription parse .offer parameter) outcomes.setRemote
        refine spins.trans ?_
        rw [Negotiation.installOffer, frame]
        change (abstract.spinning || created.isNone) = created.isNone
        rw [free, Bool.false_or]
      · intro hasOffer
        have installed := (has_remote_offer_congr remote).symm.trans hasOffer
        rcases installs_of_has_remote_offer parse environment installed with before | installs
        · exact .inl before
        · exact .inr ⟨rfl, installs⟩

/-! ## A step of the threads -/

/-- Calls are added, and none changes its kind; a text is returned by the last
statement of the caller alone. -/
theorem records_step {state next : State} {action : Action}
    (taken : step state action = some next) :
    (∀ (earlier : Nat) (kind : SdpKind), (state.calls.map Call.kind)[earlier]? = some kind →
        (next.calls.map Call.kind)[earlier]? = some kind) ∧
      ((∃ number, action = .advanceCaller ∧ state.caller = .flagReset number) ∨
        next.returned = state.returned) := by
  cases action with
  | getOffer | receiveOffer =>
      simp only [step] at taken
      split at taken
      · exact Option.some.inj taken ▸ ⟨fun _ _ => id, .inr rfl⟩
      · contradiction
  | advanceCaller =>
      simp only [step, advanceCaller] at taken
      split at taken
      case h_1 => contradiction
      case h_3 =>
        obtain rfl := Option.some.inj taken
        refine ⟨fun earlier kind found => ?_, .inr rfl⟩
        rw [List.map_append, List.getElem?_append_left (List.getElem?_eq_some_iff.mp found).1]
        exact found
      case h_4 =>
        split at taken <;> exact Option.some.inj taken ▸ ⟨fun _ _ => id, .inr rfl⟩
      case h_6 number stands =>
        exact Option.some.inj taken ▸ ⟨fun _ _ => id, .inl ⟨number, rfl, stands⟩⟩
      all_goals exact Option.some.inj taken ▸ ⟨fun _ _ => id, .inr rfl⟩
  | onSuccess number description =>
      simp only [step] at taken
      split at taken
      case h_2 => contradiction
      case h_1 =>
        split at taken
        case isFalse => contradiction
        case isTrue =>
          obtain rfl := Option.some.inj taken
          refine ⟨fun earlier kind found => ?_, .inr rfl⟩
          rw [List.getElem?_map] at found ⊢
          obtain ⟨call, listed, rfl⟩ := Option.map_eq_some_iff.mp found
          rw [List.getElem?_modify, listed]
          by_cases same : number = earlier <;> simp [same, describe]
  | onFailure number =>
      simp only [step] at taken
      split at taken
      case h_2 => contradiction
      case h_1 =>
        split at taken
        case isFalse => contradiction
        case isTrue => exact Option.some.inj taken ▸ ⟨fun _ _ => id, .inr rfl⟩
  | advanceCallback =>
      simp only [step, advanceCallback] at taken
      split at taken
      case h_1 => contradiction
      all_goals exact Option.some.inj taken ▸ ⟨fun _ _ => id, .inr rfl⟩
  | setDescriptionFailed => exact Option.some.inj taken ▸ ⟨fun _ _ => id, .inr rfl⟩

theorem related_quiet {state next : State} {abstract : Negotiation.State} {action : Action}
    (related : Related parse environment state abstract) (taken : step state action = some next)
    (success : NotAFailure state action) (returned : next.returned = state.returned) :
    Related parse environment next abstract where
  linked := linked_step related.linked taken
  down := related.down
  texts := related.texts.trans returned.symm
  spins := by
    rcases related.spins with ⟨spinning, stuck⟩ | ⟨free, neverStuck⟩
    · exact .inl ⟨spinning, stuck_step stuck taken⟩
    · exact .inr ⟨free, never_stuck_step related.linked neverStuck success taken⟩
  installed := by
    intro hasOffer
    obtain ⟨earlier, answer, installs⟩ := related.installed hasOffer
    exact ⟨earlier, (records_step taken).1 earlier _ answer, installs⟩

theorem free_of_not_stuck {state : State} {abstract : Negotiation.State}
    (related : Related parse environment state abstract) (notStuck : ¬Stuck state) :
    abstract.spinning = false ∧ NeverStuck state := by
  rcases related.spins with ⟨-, stuck⟩ | free
  · exact absurd stuck notStuck
  · exact free

theorem related_failure {state next : State} {abstract : Negotiation.State} {number : Nat}
    (related : Related parse environment state abstract)
    (possible : FailsForWantOfOffer parse environment state (.onFailure number))
    (taken : step state (.onFailure number) = some next) :
    ∃ abstractNext, replay (Negotiation.step parse) abstract
        (takesEffect environment state (.onFailure number)) = some abstractNext ∧
      Related parse environment next abstractNext := by
  have stuck := stuck_of_failure related.linked taken
  have linked := (linked_on_failure related.linked taken).1
  have stays := (records_step taken).1
  have kept : next.returned = state.returned := (records_step taken).2.resolve_left (by simp)
  have member : number ∈ state.outstanding := by
    by_contra absent
    simp only [step, if_neg absent] at taken
    split at taken <;> contradiction
  obtain ⟨-, outstanding, -, -, before, call, calls, length, -, -⟩ :=
    spinning_of_outstanding related.linked member
  have found : state.calls[number]? = some call := by
    rw [calls, ← length]
    simp
  have refused : call.kind = .answer →
      Negotiation.hasRemoteOffer abstract = false ∧ ¬Installs parse environment number := by
    intro answer
    have none_installs := possible call found answer
    refine ⟨?_, none_installs number (by rw [List.getElem?_map, found, Option.map_some, answer])⟩
    by_contra hasOffer
    obtain ⟨earlier, wasAnswer, installs⟩ := related.installed (by simpa using hasOffer)
    exact none_installs earlier wasAnswer installs
  obtain ⟨free, -⟩ := free_of_not_stuck parse environment related fun stuck => by
    simp [stuck.2.2.1] at member
  obtain ⟨abstractNext, stepped, down, texts, spins, installed⟩ :=
    step_call parse environment free related.down number call.kind none fun _ => refused
  refine ⟨abstractNext, by simp [takesEffect, callsOf, found, replay, stepped], linked, down, ?_,
    .inl ⟨spins, stuck⟩, ?_⟩
  · rw [texts, kept, ← related.texts]
    exact List.append_nil _
  · intro hasOffer
    rcases installed hasOffer with before | ⟨answer, installs⟩
    · obtain ⟨earlier, wasAnswer, installs⟩ := related.installed before
      exact ⟨earlier, stays earlier _ wasAnswer, installs⟩
    · exact absurd installs (refused answer).2

theorem related_return {state next : State} {abstract : Negotiation.State} {number : Nat}
    (related : Related parse environment state abstract)
    (stands : state.caller = .flagReset number)
    (taken : step state .advanceCaller = some next) :
    ∃ abstractNext, replay (Negotiation.step parse) abstract
        (takesEffect environment state .advanceCaller) = some abstractNext ∧
      Related parse environment next abstractNext := by
  have stays := (records_step taken).1
  have linked := related.linked
  simp only [Linked, stands] at linked
  obtain ⟨before, call, calls, length, -, -, text⟩ := linked
  obtain ⟨sdp, described, sameText⟩ := Option.map_eq_some_iff.mp text
  have found : state.calls[number]? = some call := by
    rw [calls, ← length]
    simp
  obtain ⟨free, neverStuck⟩ := free_of_not_stuck parse environment related fun stuck => by
    obtain ⟨other, spinning⟩ := stuck.1
    rw [stands] at spinning
    contradiction
  obtain ⟨abstractNext, stepped, down, texts, spins, installed⟩ :=
    step_call parse environment free related.down number call.kind (some sdp) (by simp)
  refine ⟨abstractNext, by simp [takesEffect, callsOf, stands, found, described, replay, stepped],
    linked_step related.linked taken, down, ?_,
    .inr ⟨spins, @never_stuck_step _ _ .advanceCaller related.linked neverStuck trivial taken⟩, ?_⟩
  · simp only [step, advanceCaller, stands] at taken
    obtain rfl := Option.some.inj taken
    rw [texts, related.texts, ← sameText]
    rfl
  · intro hasOffer
    rcases installed hasOffer with before | ⟨answer, installs⟩
    · obtain ⟨earlier, wasAnswer, installs⟩ := related.installed before
      exact ⟨earlier, stays earlier _ wasAnswer, installs⟩
    · refine ⟨number, stays number _ ?_, installs⟩
      rw [List.getElem?_map, found, Option.map_some, answer]

theorem related_step {state next : State} {abstract : Negotiation.State} {action : Action}
    (related : Related parse environment state abstract)
    (possible : FailsForWantOfOffer parse environment state action)
    (taken : step state action = some next) :
    ∃ abstractNext, replay (Negotiation.step parse) abstract
        (takesEffect environment state action) = some abstractNext ∧
      Related parse environment next abstractNext := by
  have records := (records_step taken).2
  cases action with
  | onFailure number => exact related_failure parse environment related possible taken
  | advanceCaller =>
      cases stands : state.caller with
      | flagReset number => exact related_return parse environment related stands taken
      | idle | received | typed kind | spinning number | released number =>
          have kept := records.resolve_left (by simp [stands])
          refine ⟨abstract, ?_, related_quiet parse environment related taken trivial kept⟩
          simp [takesEffect, stands, replay]
  | getOffer | receiveOffer | onSuccess number description | advanceCallback
  | setDescriptionFailed =>
      have kept := records.resolve_left (by simp)
      exact ⟨abstract, rfl, related_quiet parse environment related taken trivial kept⟩

/-- In every run of the threads in which `CreateAnswer` fails for want of an
offer only: its calls, each in one step, are a run of the negotiation, which
hands over the same texts and ends up spinning exactly when the caller is
stuck. -/
theorem threads_refine_calls (actions : List Action) (last : State)
    (run : replay step initial actions = some last)
    (possible : MeetsAlong (FailsForWantOfOffer parse environment) step initial actions) :
    ∃ abstract, replay (Negotiation.step parse) Negotiation.initial
        (operations (takesEffect environment) step initial actions) = some abstract ∧
      abstract.returned.map Negotiation.Handover.text = last.returned ∧
      (abstract.spinning = true ↔ Stuck last) := by
  obtain ⟨abstract, abstractRun, related⟩ :=
    replay_operations_of_meets_along (Related parse environment)
      (fun _ _ _ _ held met taken => related_step parse environment held met taken)
      (related_initial parse environment) possible run
  refine ⟨abstract, abstractRun, related.texts, ?_⟩
  rcases related.spins with ⟨spinning, stuck⟩ | ⟨free, neverStuck⟩
  · exact iff_of_true spinning stuck
  · exact iff_of_false (by simp [free]) fun stuck => not_never_stuck stuck neverStuck

/-- An offer is made, and then a string comes in that is no offer. -/
def offerAndRefusal : List Action :=
  .getOffer :: .advanceCaller :: SessionDescriptionHandOff.answeredWith 0 [1] ++
    [.receiveOffer, .advanceCaller, .advanceCaller, .onFailure 1]

theorem refused_offer_spins :
    ∃ abstract, replay (Negotiation.step Negotiation.rejectZero) Negotiation.initial
        [(.getOffer, ⟨true, some [1], true⟩), (.receiveOffer [0], ⟨true, none, true⟩)] =
          some abstract ∧
      abstract.returned.map Negotiation.Handover.text = [sessionText [1] (sdpTypeOf .offer)] ∧
      abstract.spinning = true := by
  have refused : (Negotiation.rejectZero .offer [0]).isSome = false := rfl
  have possible : MeetsAlong (FailsForWantOfOffer Negotiation.rejectZero fun _ => ⟨[0], true, true⟩)
      step initial offerAndRefusal := by
    apply meets_along_of_forall
    intro state action
    cases action with
    | onFailure number =>
        exact fun _ _ _ _ _ installs => Bool.false_ne_true (refused.symm.trans installs.2)
    | getOffer | receiveOffer | advanceCaller | onSuccess | advanceCallback
    | setDescriptionFailed => trivial
  obtain ⟨abstract, run, texts, spins⟩ :=
    threads_refine_calls Negotiation.rejectZero (fun _ => ⟨[0], true, true⟩) offerAndRefusal _ rfl
      possible
  exact ⟨abstract, run, texts, spins.mpr ⟨⟨1, rfl⟩, rfl, rfl, by simp⟩⟩

end PyWebRTC.NegotiationThreads
