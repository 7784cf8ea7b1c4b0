import PyWebRTC.DataBufferDelivery
import PyWebRTC.ReadFromDataChannel

/-!
# Received text and null characters

Where the incoming messages are UTF-8, every call returns a list with a string
for each message it drained, in order; the string is the text of the message up
to its first null character. The text arrives unaltered when that is all of it.
-/

namespace PyWebRTC.ReceivedText

open ActionRuns DataBuffer DataBufferDelivery ReadFromDataChannel
open PicojsonValue (Bytes)
open Utf8 (IsUtf8 cText c_text_eq_iff textOf)

set_option autoImplicit false

variable {Reader : Type*}

/-- The lists given to Python, put together, and the text of what is still in
the buffer make up the text of all messages received. -/
def ReceivedUnaltered (state : State Reader Bytes) : Prop :=
  ∃ lists : List (List (List Char)), callOutcomes state = lists.map some ∧
    lists.flatten ++ state.dataBuffer.map textOf = state.pushed.map textOf

variable [DecidableEq Reader]

/-- For any number of readers, any interleaving and any messages that are
UTF-8. -/
theorem received_unaltered_iff_null_free (actions : List (Action Reader Bytes))
    (state : State Reader Bytes) (run : replay step initial actions = some state)
    (valid : ∀ message ∈ state.pushed, IsUtf8 message) :
    ReceivedUnaltered state ↔
      ∀ drain ∈ state.drains, ∀ message ∈ drain.messages, '\x00' ∉ textOf message := by
  have conserved := (ledger_of_replay run).2.conserved
  have drained : ∀ drain ∈ state.drains, ∀ message ∈ drain.messages, message ∈ state.pushed := by
    intro drain member message held
    rw [← conserved, List.mem_append, List.mem_flatten]
    exact .inl ⟨drain.messages, List.mem_map_of_mem member, held⟩
  have returned := calls_return_c_text fun drain member message held =>
    valid message (drained drain member message held)
  have pushed : state.pushed.map textOf =
      (state.drains.map Drain.messages).flatten.map textOf ++ state.dataBuffer.map textOf := by
    rw [← conserved, List.map_append]
  calc ReceivedUnaltered state
      ↔ (state.drains.map fun drain => drain.messages.map (cText ∘ textOf)).flatten ++
          state.dataBuffer.map textOf = state.pushed.map textOf := by
        simp only [ReceivedUnaltered, returned,
          (List.map_injective_iff.mpr (Option.some_injective _)).eq_iff, existsAndEq, true_and]
    _ ↔ (state.drains.map Drain.messages).flatten.map (cText ∘ textOf) =
          (state.drains.map Drain.messages).flatten.map textOf := by
        rw [flatten_map_messages, pushed, List.append_left_inj]
    _ ↔ ∀ drain ∈ state.drains, ∀ message ∈ drain.messages, '\x00' ∉ textOf message := by
        rw [List.map_inj_left]
        simp only [Function.comp_apply, c_text_eq_iff, List.mem_flatten, List.mem_map]
        constructor
        · intro whole drain member message held
          exact whole message ⟨drain.messages, ⟨drain, member, rfl⟩, held⟩
        · rintro whole message ⟨-, ⟨drain, member, rfl⟩, held⟩
          exact whole drain member message held

def readOne (message : Bytes) : List (Action Unit Bytes) :=
  .onMessage message :: List.replicate 4 .advanceCallback ++
    .getDataBuffer () :: List.replicate 7 (.advanceReader ())

theorem read_one_ends (message : Bytes) :
    ∃ state, replay step initial (readOne message) = some state ∧ state.pushed = [message] ∧
      state.dataBuffer = [] ∧ state.drains = [⟨(), [message], false⟩] :=
  ⟨_, rfl, rfl, rfl, rfl⟩

/-- Of two letters with a null character between them Python gets the first. -/
theorem text_after_null_is_lost :
    ¬∀ (actions : List (Action Unit Bytes)) (state : State Unit Bytes),
      replay step initial actions = some state →
        (∀ message ∈ state.pushed, IsUtf8 message) → ReceivedUnaltered state := by
  intro claimed
  obtain ⟨state, run, pushed, buffer, drains⟩ := read_one_ends [97, 0, 98]
  have valid : IsUtf8 [97, 0, 98] := by decide
  obtain ⟨lists, outcomes, whole⟩ := claimed _ state run (by simpa [pushed] using valid)
  have returned : callOutcomes state = [some [['a']]] := by
    rw [callOutcomes, drains]
    decide
  obtain ⟨list, rfl, same⟩ := List.map_eq_singleton_iff.mp (outcomes.symm.trans returned)
  obtain rfl := Option.some.inj same
  rw [pushed, buffer] at whole
  exact absurd whole (by decide)

theorem plain_text_received :
    ∃ state, replay step initial (readOne [104, 105]) = some state ∧ ReceivedUnaltered state := by
  obtain ⟨state, run, pushed, buffer, drains⟩ := read_one_ends [104, 105]
  refine ⟨state, run, (received_unaltered_iff_null_free _ state run ?_).mpr ?_⟩
  · have valid : IsUtf8 [104, 105] := by decide
    simpa [pushed] using valid
  · have nullFree : '\x00' ∉ textOf [104, 105] := by decide
    simpa [drains] using nullFree

end PyWebRTC.ReceivedText
