import PyWebRTC.DataBuffer
import PyWebRTC.Signaling

/-!
# From the receive buffer to Python lists

`PyWebRTCConnection_readFromDataChannel` drains the buffer and then turns each
message into a Python string by way of its `c_str`. The result of a conversion
is stored without a look at it; an error that was set makes the call raise, and
the list is gone.
-/

namespace PyWebRTC.ReadFromDataChannel

open DataBuffer
open PicojsonValue (Bytes)
open Signaling (pyUnicodeFromString py_unicode_of_is_utf8)
open Utf8 (IsUtf8 cText textOf)

set_option autoImplicit false

/-- The list that the binding fills, with null in the slots that hold no string,
and the error indicator of the interpreter. -/
structure ListBuild where
  items : List (Option (List Char))
  errorSet : Bool

def setItem (build : ListBuild) (entry : Bytes × Nat) : ListBuild :=
  let messageString := pyUnicodeFromString entry.1
  { items := build.items.set entry.2 messageString
    errorSet := build.errorSet || messageString.isNone }

def buildList (messages : List Bytes) : ListBuild :=
  messages.zipIdx.foldl setItem ⟨List.replicate messages.length none, false⟩

/-- What a call makes of the messages it drained; no list where it raises. -/
def readFromDataChannel (messages : List Bytes) : Option (List (List Char)) :=
  let build := buildList messages
  -- a slot can only be null when the error is set
  if build.errorSet then none else some (build.items.filterMap id)

theorem build_list_from (done rest : List Bytes) (errorSet : Bool) :
    (rest.zipIdx done.length).foldl setItem
        ⟨done.map pyUnicodeFromString ++ List.replicate rest.length none, errorSet⟩ =
      ⟨(done ++ rest).map pyUnicodeFromString,
        errorSet || rest.any fun message => (pyUnicodeFromString message).isNone⟩ := by
  induction rest generalizing done errorSet with
  | nil => simp
  | cons message rest ih =>
      have slot : (done.map pyUnicodeFromString ++
            List.replicate (message :: rest).length none).set done.length
              (pyUnicodeFromString message) =
          (done ++ [message]).map pyUnicodeFromString ++ List.replicate rest.length none := by
        simp [List.replicate_succ, List.set_append_right]
      have next := ih (done ++ [message]) (errorSet || (pyUnicodeFromString message).isNone)
      rw [List.length_append, List.length_singleton] at next
      rw [List.zipIdx_cons, List.foldl_cons, setItem, slot, next]
      simp [Bool.or_assoc]

theorem build_list_eq (messages : List Bytes) :
    buildList messages = ⟨messages.map pyUnicodeFromString,
      messages.any fun message => (pyUnicodeFromString message).isNone⟩ := by
  simpa [buildList] using build_list_from [] messages false

theorem filter_map_id_eq_iff {items : List (Option (List Char))} {strings : List (List Char)}
    (filled : ∀ item ∈ items, item ≠ none) :
    items.filterMap id = strings ↔ items = strings.map some := by
  constructor
  · rintro rfl
    induction items with
    | nil => rfl
    | cons item items ih =>
        obtain ⟨text, rfl⟩ := Option.ne_none_iff_exists'.mp (filled item (by simp))
        simpa using ih fun other member => filled other (by simp [member])
  · rintro rfl
    simp

/-- A call returns a list exactly when every message converts, and then the
list has the strings of the messages. -/
theorem read_eq_some_iff {messages : List Bytes} {strings : List (List Char)} :
    readFromDataChannel messages = some strings ↔
      messages.map pyUnicodeFromString = strings.map some := by
  simp only [readFromDataChannel, build_list_eq]
  by_cases failed : ∃ message ∈ messages, pyUnicodeFromString message = none
  · obtain ⟨message, member, null⟩ := failed
    rw [if_pos (List.any_eq_true.mpr ⟨message, member, by simp [null]⟩)]
    refine iff_of_false (by simp) ?_
    intro converted
    have listed : none ∈ strings.map some := by
      rw [← converted, ← null]
      exact List.mem_map_of_mem member
    simp at listed
  · rw [if_neg (by simpa using failed), Option.some.injEq]
    apply filter_map_id_eq_iff
    intro item member null
    obtain ⟨message, listed, rfl⟩ := List.mem_map.mp member
    exact failed ⟨message, listed, null⟩

theorem read_eq_none_iff {messages : List Bytes} :
    readFromDataChannel messages = none ↔
      ∃ message ∈ messages, pyUnicodeFromString message = none := by
  simp [readFromDataChannel, build_list_eq]

theorem read_of_is_utf8 {messages : List Bytes} (valid : ∀ message ∈ messages, IsUtf8 message) :
    readFromDataChannel messages = some (messages.map (cText ∘ textOf)) := by
  rw [read_eq_some_iff, List.map_map]
  apply List.map_congr_left
  intro message member
  exact py_unicode_of_is_utf8 (valid message member)

variable {Reader : Type*}

def callOutcomes (state : State Reader Bytes) : List (Option (List (List Char))) :=
  state.drains.map fun drain => readFromDataChannel drain.messages

theorem calls_return_c_text {state : State Reader Bytes}
    (valid : ∀ drain ∈ state.drains, ∀ message ∈ drain.messages, IsUtf8 message) :
    callOutcomes state =
      (state.drains.map fun drain => drain.messages.map (cText ∘ textOf)).map some := by
  rw [callOutcomes, List.map_map]
  apply List.map_congr_left
  intro drain member
  exact read_of_is_utf8 (valid drain member)

theorem flatten_map_messages (drains : List (Drain Reader Bytes)) (textOfMessage : Bytes → List Char) :
    (drains.map fun drain => drain.messages.map textOfMessage).flatten =
      (drains.map Drain.messages).flatten.map textOfMessage := by
  rw [List.map_flatten, List.map_map]
  rfl

end PyWebRTC.ReadFromDataChannel
