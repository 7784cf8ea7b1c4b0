import PyWebRTC.ActionRuns
import PyWebRTC.SessionDescription

/-!
# What the calls return

Each call returns the text of the description that was created for its own
request, with the type of its own kind, and leaves nothing behind.
-/

namespace PyWebRTC.SessionDescriptionHandOff

open ActionRuns PicojsonValue SessionDescription

set_option autoImplicit false

/-- The n-th text returned is the object of the description created for the n-th
call. -/
def HandedOff (state : State) : Prop :=
  ∀ (number : Nat) (text : Bytes), state.returned[number]? = some text →
    ∃ kind description, state.calls[number]? = some (Call.mk kind (some description)) ∧
      text = PicojsonSerialize.serialize (descriptionObject kind description) true

/-- Between calls every call has returned, the flag is down and no callback that
could raise it is left. -/
def SettledBetweenCalls (state : State) : Prop :=
  state.caller = .idle → state.returned.length = state.calls.length ∧ state.offerSet = false ∧
    state.outstanding = [] ∧ state.callback = .idle

theorem linked_of_replay {actions : List Action} {last : State}
    (run : replay step initial actions = some last) : Linked last :=
  replay_invariant Linked linked_initial (fun _ _ _ => linked_step) run

theorem returned_call {calls : List Call} {returned : List Bytes} {number : Nat} {text : Bytes}
    (all : Returned calls returned) (found : returned[number]? = some text) :
    ∃ kind description, calls[number]? = some (Call.mk kind (some description)) ∧
      text = PicojsonSerialize.serialize (descriptionObject kind description) true := by
  have read : (calls.map callText)[number]? = some (some text) := by
    rw [all, List.getElem?_map, found, Option.map_some]
  rw [List.getElem?_map, Option.map_eq_some_iff] at read
  obtain ⟨⟨kind, description⟩, listed, textOf⟩ := read
  obtain ⟨created, rfl, rfl⟩ := Option.map_eq_some_iff.mp textOf
  exact ⟨kind, created, listed, session_text_eq kind created⟩

theorem returned_before {before : List Call} {call : Call} {state : State}
    (calls : state.calls = before ++ [call]) (returned : Returned before state.returned) :
    HandedOff state := by
  intro number text found
  obtain ⟨kind, description, listed, same⟩ := returned_call returned found
  have bound : number < before.length := (List.getElem?_eq_some_iff.mp listed).1
  exact ⟨kind, description, by rw [calls, List.getElem?_append_left bound, listed], same⟩

theorem handed_off_of_linked {state : State} (linked : Linked state) : HandedOff state := by
  unfold Linked at linked
  split at linked
  case h_1 => exact fun _ _ => returned_call linked.2
  case h_2 => exact fun _ _ => returned_call linked.2
  case h_3 => exact fun _ _ => returned_call linked.2.1
  case h_4 =>
    obtain ⟨before, call, calls, -, returned, -⟩ := linked
    exact returned_before calls returned
  case h_5 =>
    obtain ⟨before, call, calls, -, returned, -⟩ := linked
    exact returned_before calls returned
  case h_6 =>
    obtain ⟨before, call, calls, -, returned, -⟩ := linked
    exact returned_before calls returned

theorem settled_of_linked {state : State} (linked : Linked state) :
    SettledBetweenCalls state := by
  intro idle
  simp only [Linked, idle] at linked
  obtain ⟨⟨empty, callback, flag⟩, returned⟩ := linked
  exact ⟨by simpa using (congrArg List.length returned).symm, flag, empty, callback⟩

/-- In every run, however the callbacks fall between the steps of the caller. -/
theorem hand_off_never_mixes_requests (actions : List Action) (last : State)
    (run : replay step initial actions = some last) :
    HandedOff last ∧ SettledBetweenCalls last :=
  ⟨handed_off_of_linked (linked_of_replay run), settled_of_linked (linked_of_replay run)⟩

def answeredWith (number : Nat) (description : Bytes) : List Action :=
  .onSuccess number description :: List.replicate 4 .advanceCallback ++
    List.replicate 3 .advanceCaller

def offerAndAnswer : List Action :=
  .getOffer :: .advanceCaller :: answeredWith 0 (Utf8.encode "v=0".toList) ++
    .receiveOffer :: .advanceCaller :: .advanceCaller ::
      answeredWith 1 (Utf8.encode "v=1".toList)

theorem offer_and_answer_are_handed_off :
    ∃ last, replay step initial offerAndAnswer = some last ∧
      last.returned =
        [Utf8.encode "\x7b\n  \"sdp\": \"v=0\",\n  \"type\": \"offer\"\n\x7d\n".toList,
          Utf8.encode "\x7b\n  \"sdp\": \"v=1\",\n  \"type\": \"answer\"\n\x7d\n".toList] ∧
      HandedOff last ∧ SettledBetweenCalls last := by
  refine ⟨_, rfl, ?_, hand_off_never_mixes_requests offerAndAnswer _ rfl⟩
  decide +kernel

end PyWebRTC.SessionDescriptionHandOff
