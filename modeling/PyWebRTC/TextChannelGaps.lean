import PyWebRTC.DataBufferDelivery
import PyWebRTC.TextChannel

/-!
# Gaps in the text channel

The receiver never gets anything but what the channel took, in order. Between
what the channel took and what the sender believes to have sent there is a gap
as soon as one call meets a channel that is not open: `Send` refuses, and the
call returns as if it had not.
-/

namespace PyWebRTC.TextChannelGaps

open ActionRuns ReadFromDataChannel TextChannel
open DataBuffer (Drain)
open DataChannelFlag (DataState)
open DataBufferDelivery (LedgerInvariant ledger_invariant_initial ledger_invariant_step)
open DataBufferMutex (MutexInvariant mutex_invariant_initial mutex_invariant_step)
open PicojsonValue (Bytes)
open Utf8 (IsUtf8 cText c_text_eq_iff textOf)

set_option autoImplicit false

variable {Reader : Type*}

def sentMessages (state : State Reader) : List PyStr :=
  (state.calls.filter fun call => !call.raised).map SendCall.message

def receivedMessages (state : State Reader) : List PyStr :=
  ((callOutcomes state.receiver).filterMap id).flatten.map ofText

structure Gapless (state : State Reader) : Prop where
  received : receivedMessages state <+: sentMessages state
  refused : ∀ call ∈ state.calls, call.accepted = false → call.raised = true

def SendsWhileOpen (state : State Reader) : Action Reader → Prop
  | .sendMessage message => state.rtcConnectionReady = true → sendArgument message ≠ none →
      state.channelState = .kOpen
  | _ => True

/-- The accepted texts, the messages they became and the calls that sent them
correspond one to one. -/
def Conveys (state : State Reader) (texts : List (List Char)) : Prop :=
  (∀ text ∈ texts, '\x00' ∉ text) ∧
    arrived state.receiver ++ state.inFlight = texts.map Utf8.encode ∧
    sentMessages state = texts.map ofText

structure ChannelInvariant [DecidableEq Reader] (state : State Reader) : Prop where
  mutex : MutexInvariant state.receiver
  ledger : LedgerInvariant state.receiver
  conveyed : ∃ texts, Conveys state texts
  refused : ∀ call ∈ state.calls, call.accepted = false → call.raised = true

theorem text_of_encode (text : List Char) : textOf (Utf8.encode text) = text := by
  rw [textOf, Utf8.decode_encode, Option.getD_some]

/-- Messages made from texts without null characters are read back as those
texts. -/
theorem read_back {texts : List (List Char)} (nullFree : ∀ text ∈ texts, '\x00' ∉ text) :
    (texts.map Utf8.encode).map (cText ∘ textOf) = texts := by
  rw [List.map_map]
  conv_rhs => rw [← List.map_id texts]
  apply List.map_congr_left
  intro text member
  simp only [Function.comp_apply, text_of_encode, id_eq]
  exact c_text_eq_iff.mpr (nullFree text member)

theorem sent_messages_record (state : State Reader) (message : PyStr) (accepted raised : Bool) :
    sentMessages (state.record message accepted raised) =
      sentMessages state ++ if raised then [] else [message] := by
  cases raised <;> simp [sentMessages, State.record]

inductive Sending (state : State Reader) (message : PyStr) : State Reader → Prop where
  | raise (notSent : state.rtcConnectionReady = false ∨ sendArgument message = none) :
      Sending state message (state.record message false true)
  | accept (parameter : Bytes) (argument : sendArgument message = some parameter)
      (channelOpen : state.channelState = .kOpen) :
      Sending state message
        ({ state with inFlight := state.inFlight ++ [parameter] }.record message true false)
  | drop (parameter : Bytes) (ready : state.rtcConnectionReady = true)
      (argument : sendArgument message = some parameter)
      (notOpen : state.channelState ≠ .kOpen) :
      Sending state message (state.record message false false)

theorem send_message_cases {state next : State Reader} {message : PyStr}
    (taken : sendMessage state message = some next) : Sending state message next := by
  unfold sendMessage at taken
  split at taken
  case isTrue notReady => exact Option.some.inj taken ▸ .raise (.inl notReady)
  case isFalse ready =>
      split at taken
      case h_1 refused => exact Option.some.inj taken ▸ .raise (.inr refused)
      case h_2 parameter argument =>
          split at taken
          · by_cases channelOpen : state.channelState = .kOpen
            · simp only [send, if_pos channelOpen] at taken
              exact Option.some.inj taken ▸ .accept parameter argument channelOpen
            · simp only [send, if_neg channelOpen] at taken
              exact Option.some.inj taken ▸
                .drop parameter (by simpa using ready) argument channelOpen
          · contradiction

variable [DecidableEq Reader]

theorem channel_invariant_initial : ChannelInvariant (initial : State Reader) where
  mutex := mutex_invariant_initial
  ledger := ledger_invariant_initial
  conveyed := ⟨[], by simp, rfl, rfl⟩
  refused := by simp [initial]

theorem channel_invariant_send {state next : State Reader} {message : PyStr}
    (invariant : ChannelInvariant state)
    (opened : SendsWhileOpen state (.sendMessage message))
    (taken : sendMessage state message = some next) : ChannelInvariant next := by
  obtain ⟨texts, nullFree, conveyed, sent⟩ := invariant.conveyed
  cases send_message_cases taken with
  | raise notSent =>
      refine ⟨invariant.mutex, invariant.ledger, ⟨texts, nullFree, conveyed, ?_⟩, ?_⟩
      · simp [sent_messages_record, sent]
      · simpa [State.record, or_imp, forall_and] using invariant.refused
  | accept parameter argument channelOpen =>
      obtain ⟨text, clean, rfl, rfl⟩ := send_argument_eq_some_iff.mp argument
      refine ⟨invariant.mutex, invariant.ledger, ⟨texts ++ [text], ?_, ?_, ?_⟩, ?_⟩
      · simpa [or_imp, forall_and] using ⟨nullFree, clean⟩
      · rw [List.map_append, ← conveyed, List.append_assoc]
        rfl
      · rw [sent_messages_record, List.map_append, ← sent]
        rfl
      · simpa [State.record, or_imp, forall_and] using invariant.refused
  | drop parameter ready argument notOpen =>
      exact absurd (opened ready (by simp [argument])) notOpen

/-- A step of the receiver, which may start with a message taken off the
channel. -/
theorem channel_invariant_receive {state before next : State Reader}
    {action : DataBuffer.Action Reader Bytes} (invariant : ChannelInvariant state)
    (receiver : before.receiver = state.receiver) (calls : before.calls = state.calls)
    (channel : handedOver action ++ before.inFlight = state.inFlight)
    (taken : before.receive action = some next) : ChannelInvariant next := by
  obtain ⟨texts, nullFree, conveyed, sent⟩ := invariant.conveyed
  obtain ⟨after, received, rfl⟩ := Option.map_eq_some_iff.mp taken
  rw [receiver] at received
  refine ⟨mutex_invariant_step invariant.mutex received,
    ledger_invariant_step invariant.mutex invariant.ledger received,
    ⟨texts, nullFree, ?_, ?_⟩, ?_⟩
  · rw [← conveyed, arrived_step received, ← channel, List.append_assoc]
  · rw [← sent, sentMessages, sentMessages, calls]
  · simpa only [calls] using invariant.refused

theorem channel_invariant_step {state next : State Reader} {action : Action Reader}
    (invariant : ChannelInvariant state) (opened : SendsWhileOpen state action)
    (taken : step state action = some next) : ChannelInvariant next := by
  cases action with
  | waitForClient | onDataChannel | receiverWaitForClient =>
      obtain rfl := Option.some.inj taken
      exact ⟨invariant.mutex, invariant.ledger, invariant.conveyed, invariant.refused⟩
  | transition target =>
      simp only [step] at taken
      split_ifs at taken
      obtain rfl := Option.some.inj taken
      exact ⟨invariant.mutex, invariant.ledger, invariant.conveyed, invariant.refused⟩
  | sendMessage message => exact channel_invariant_send invariant opened taken
  | deliver =>
      simp only [step] at taken
      split at taken
      · contradiction
      · next message rest queued =>
          refine channel_invariant_receive invariant ?_ ?_ ?_ taken
          · rfl
          · rfl
          · simp [handedOver, queued]
  | receiveMessages reader =>
      simp only [step] at taken
      split_ifs at taken
      · exact channel_invariant_receive invariant rfl rfl rfl taken
      · exact Option.some.inj taken ▸ invariant
  | advanceReader reader | spuriousWakeup reader | receiverStateChange channelState
  | advanceCallback => exact channel_invariant_receive invariant rfl rfl rfl taken

/-- What was drained is the beginning of what was accepted, and every call that
drained it returned the texts. -/
theorem received_of_conveyed {state : State Reader} {texts : List (List Char)}
    (ledger : LedgerInvariant state.receiver) (conveys : Conveys state texts) :
    ∃ read unread, texts = read ++ unread ∧ receivedMessages state = read.map ofText := by
  obtain ⟨nullFree, conveyed, -⟩ := conveys
  have drained : (state.receiver.drains.map Drain.messages).flatten ++
      (state.receiver.dataBuffer ++ pendingMessage state.receiver.callback ++ state.inFlight) =
        texts.map Utf8.encode := by
    rw [← conveyed, arrived, ← ledger.conserved]
    simp only [List.append_assoc]
  obtain ⟨read, unread, rfl, drainedTexts, -⟩ := List.map_eq_append_iff.mp drained.symm
  have valid : ∀ drain ∈ state.receiver.drains, ∀ message ∈ drain.messages, IsUtf8 message := by
    intro drain member message held
    have listed : message ∈ read.map Utf8.encode := by
      rw [drainedTexts, List.mem_flatten]
      exact ⟨drain.messages, List.mem_map_of_mem member, held⟩
    obtain ⟨text, -, rfl⟩ := List.mem_map.mp listed
    exact Utf8.is_utf8_encode text
  refine ⟨read, unread, rfl, ?_⟩
  rw [receivedMessages, calls_return_c_text valid, List.filterMap_map, Function.id_comp,
    List.filterMap_some, flatten_map_messages, ← drainedTexts,
    read_back fun text member => nullFree text (List.mem_append_left unread member)]

theorem gapless_of_channel_invariant {state : State Reader} (invariant : ChannelInvariant state) :
    Gapless state := by
  obtain ⟨texts, conveys⟩ := invariant.conveyed
  obtain ⟨read, unread, rfl, received⟩ := received_of_conveyed invariant.ledger conveys
  refine ⟨?_, invariant.refused⟩
  rw [received, conveys.2.2, List.map_append]
  exact List.prefix_append _ _

theorem dropped_send_breaks_gapless {state next : State Reader} {action : Action Reader}
    (notOpened : ¬SendsWhileOpen state action) (taken : step state action = some next) :
    ¬Gapless next := by
  cases action with
  | sendMessage message =>
      simp only [SendsWhileOpen, Classical.not_imp] at notOpened
      obtain ⟨ready, converts, notOpen⟩ := notOpened
      cases send_message_cases taken with
      | raise notSent => simp_all
      | accept parameter argument channelOpen => contradiction
      | drop parameter _ argument _ =>
          intro gapless
          have raised := gapless.refused ⟨message, false, false⟩ (by simp [State.record]) rfl
          contradiction
  | waitForClient | onDataChannel | transition | deliver | receiverWaitForClient
  | receiveMessages | advanceReader | spuriousWakeup | receiverStateChange | advanceCallback =>
      exact absurd trivial notOpened

/-- In every run, whatever is sent and however the channel moves. -/
theorem gapless_iff_sends_while_open (actions : List (Action Reader)) (last : State Reader)
    (run : replay step initial actions = some last) :
    HoldsAlong Gapless step initial actions ↔ MeetsAlong SendsWhileOpen step initial actions :=
  holds_along_iff_meets_along ChannelInvariant channel_invariant_initial
    (fun _ => gapless_of_channel_invariant) (fun _ _ _ => channel_invariant_step)
    (fun _ _ _ _ => dropped_send_breaks_gapless) run

/-- One string is sent before the channel opens and one after, and the receiver
reads what arrives. -/
def sendEarlyAndLate (early late : PyStr) : List (Action Unit) :=
  [.waitForClient, .onDataChannel, .sendMessage early, .transition .kOpen, .sendMessage late,
    .receiverWaitForClient, .deliver] ++ List.replicate 4 .advanceCallback ++
    .receiveMessages () :: List.replicate 7 (.advanceReader ())

theorem early_send_is_skipped :
    ¬∀ (actions : List (Action Unit)) (state : State Unit),
      replay step initial actions = some state → Gapless state := by
  intro claimed
  have gapless := claimed (sendEarlyAndLate [97] [98]) _ rfl
  have received := gapless.received
  exact absurd received (by decide)

theorem late_sends_arrive :
    HoldsAlong Gapless step (initial : State Unit) (sendEarlyAndLate [0xD800] [97]) ∧
      ∃ last, replay step (initial : State Unit) (sendEarlyAndLate [0xD800] [97]) = some last ∧
        receivedMessages last = [[97]] := by
  refine ⟨(gapless_iff_sends_while_open _ _ rfl).mpr ?_, _, rfl, by decide⟩
  have refused : sendArgument [0xD800] = none := by decide
  have converted : sendArgument [97] = some [97] := by decide
  simp [sendEarlyAndLate, MeetsAlong, SendsWhileOpen, step, initial, sendMessage, send, State.record,
    State.receive, refused, converted, DataState.rank, DataBuffer.step, DataBuffer.initial,
    DataBuffer.advanceCallback, DataBuffer.advanceReader, DataBuffer.State.moveReader,
    DataBuffer.wakePredicate]

end PyWebRTC.TextChannelGaps
