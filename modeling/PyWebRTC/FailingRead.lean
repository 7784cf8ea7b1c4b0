import Mathlib.Data.List.Flatten
import PyWebRTC.DataBufferDelivery
import PyWebRTC.ReadFromDataChannel

/-!
# What a failing read takes along

The buffer is emptied before the first message is converted. A call that raises
because one message does not convert has taken the others out as well, and
nothing puts them back.
-/

namespace PyWebRTC.FailingRead

open ActionRuns DataBuffer DataBufferDelivery ReadFromDataChannel
open PicojsonValue (Bytes)
open Signaling (pyUnicodeFromString)
open Utf8 (IsUtf8)

set_option autoImplicit false

variable {Reader : Type*}

def returnsNormally (drain : Drain Reader Bytes) : Bool :=
  (readFromDataChannel drain.messages).isSome

def returnedMessages (state : State Reader Bytes) : List Bytes :=
  ((state.drains.filter returnsNormally).map Drain.messages).flatten

/-- Every message received that is UTF-8 is in a list that was returned normally
or still in the buffer, as often and in the order in which it came. -/
def NothingLost (state : State Reader Bytes) : Prop :=
  state.pushed.filter (fun message => IsUtf8 message) =
    (returnedMessages state ++ state.dataBuffer).filter (fun message => IsUtf8 message)

def LosesNothing (messages : List Bytes) : Prop :=
  (∀ message ∈ messages, pyUnicodeFromString message ≠ none) ∨
    ∀ message ∈ messages, ¬IsUtf8 message

theorem filter_flatten_length_le {Item Part : Type*} (keep : Item → Bool)
    (parts : Item → List Part) (items : List Item) :
    (((items.filter keep).map parts).flatten).length ≤ ((items.map parts).flatten).length :=
  ((items.filter_sublist.map parts).flatten).length_le

/-- Leaving items out changes what their parts make up, unless they have none. -/
theorem flatten_eq_filter_flatten_iff {Item Part : Type*} (keep : Item → Bool)
    (parts : Item → List Part) (items : List Item) :
    (items.map parts).flatten = ((items.filter keep).map parts).flatten ↔
      ∀ item ∈ items, keep item = true ∨ parts item = [] := by
  induction items with
  | nil => simp
  | cons item items ih =>
      cases kept : keep item with
      | true => simp [kept, ih]
      | false =>
          have fewer := filter_flatten_length_le keep parts items
          simp only [List.map_cons, List.flatten_cons, List.filter_cons, kept,
            List.forall_mem_cons, ← ih, Bool.false_eq_true, if_false, false_or]
          constructor
          · intro same
            have lengths := congrArg List.length same
            rw [List.length_append] at lengths
            have none_there : parts item = [] := List.length_eq_zero_iff.mp (by omega)
            exact ⟨none_there, by simpa [none_there] using same⟩
          · rintro ⟨none_there, same⟩
            rw [none_there, List.nil_append, same]

theorem loses_nothing_iff {drain : Drain Reader Bytes} :
    returnsNormally drain = true ∨
        drain.messages.filter (fun message => IsUtf8 message) = [] ↔
      LosesNothing drain.messages := by
  apply or_congr
  · rw [returnsNormally, Option.isSome_iff_ne_none, Ne, read_eq_none_iff]
    simp
  · simp [List.filter_eq_nil_iff]

variable [DecidableEq Reader]

/-- For any number of readers, any interleaving and any messages. -/
theorem nothing_lost_iff_reads_lose_nothing (actions : List (Action Reader Bytes))
    (state : State Reader Bytes) (run : replay step initial actions = some state) :
    NothingLost state ↔ ∀ drain ∈ state.drains, LosesNothing drain.messages := by
  have conserved := (ledger_of_replay run).2.conserved
  calc NothingLost state
      ↔ (state.drains.map fun drain =>
            drain.messages.filter fun message => IsUtf8 message).flatten =
          ((state.drains.filter returnsNormally).map fun drain =>
            drain.messages.filter fun message => IsUtf8 message).flatten := by
        rw [NothingLost, ← conserved, List.filter_append, List.filter_append,
          List.append_left_inj, returnedMessages, List.filter_flatten, List.filter_flatten,
          List.map_map, List.map_map]
        rfl
    _ ↔ ∀ drain ∈ state.drains, LosesNothing drain.messages := by
        rw [flatten_eq_filter_flatten_iff]
        exact forall₂_congr fun drain _ => loses_nothing_iff

def readTwo (first second : Bytes) : List (Action Unit Bytes) :=
  .onMessage first :: List.replicate 4 .advanceCallback ++
    .onMessage second :: List.replicate 4 .advanceCallback ++
    .getDataBuffer () :: List.replicate 8 (.advanceReader ())

theorem read_two_ends (first second : Bytes) :
    ∃ state, replay step initial (readTwo first second) = some state ∧
      (∀ reader, state.readers reader = .outside) ∧ state.pushed = [first, second] ∧
      state.dataBuffer = [] ∧ state.drains = [⟨(), [first, second], false⟩] :=
  ⟨_, rfl, fun _ => rfl, rfl, rfl, rfl⟩

/-- One byte that is no text makes the call raise, and the text that came with
it is lost. -/
theorem failing_read_loses_text :
    ¬∀ (actions : List (Action Unit Bytes)) (state : State Unit Bytes),
      replay step initial actions = some state →
        (∀ reader, state.readers reader = .outside) → NothingLost state := by
  intro claimed
  obtain ⟨state, run, idle, pushed, buffer, drains⟩ := read_two_ends [104, 105] [255]
  have kept := claimed _ state run idle
  rw [NothingLost, returnedMessages, pushed, buffer, drains] at kept
  exact absurd kept (by decide)

/-- A call that raises and takes nothing of value along. -/
theorem failing_read_of_no_text :
    ∃ state, replay step initial (readTwo [255] [254]) = some state ∧ NothingLost state := by
  obtain ⟨state, run, -, -, -, drains⟩ := read_two_ends [255] [254]
  refine ⟨state, run, (nothing_lost_iff_reads_lose_nothing _ state run).mpr ?_⟩
  have worthless : LosesNothing [[255], [254]] := .inr (by decide)
  simpa [drains] using worthless

end PyWebRTC.FailingRead
