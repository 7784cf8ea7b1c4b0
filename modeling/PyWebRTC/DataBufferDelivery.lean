import PyWebRTC.ActionRuns
import PyWebRTC.DataBufferMutex

/-!
# Exactly-once delivery through the receive buffer

The copy and the reset are separate statements, so what a drain takes is not
the buffer by definition. It is the buffer because the mutex is held from the
copy to the reset and every push happens under the same mutex.
-/

namespace PyWebRTC.DataBufferDelivery

open ActionRuns DataBuffer DataBufferMutex

set_option autoImplicit false

variable {Reader Message : Type*}

def heldMessages : ReaderPoint Message → List (List Message)
  | .unlock messages | .finish messages => [messages]
  | _ => []

def drainsOf [DecidableEq Reader] (drains : List (Drain Reader Message)) (reader : Reader) :
    List (List Message) :=
  (drains.filter fun drain => drain.reader = reader).map Drain.messages

structure LedgerInvariant [DecidableEq Reader] (state : State Reader Message) : Prop where
  conserved : (state.drains.map Drain.messages).flatten ++ state.dataBuffer = state.pushed
  accounted : ∀ reader, drainsOf state.drains reader =
    state.returned reader ++ heldMessages (state.readers reader)
  empty : ∀ drain ∈ state.drains, drain.messages = [] → drain.predicateOpen = false

theorem notify_held_messages (readers : Reader → ReaderPoint Message) (reader : Reader) :
    heldMessages (notifyAll readers reader) = heldMessages (readers reader) := by
  cases point : readers reader <;> simp [notifyAll, point, heldMessages]

variable [DecidableEq Reader]

theorem ledger_invariant_move {state : State Reader Message} (ledger : LedgerInvariant state)
    {reader : Reader} {point : ReaderPoint Message} (mutex : Option (Holder Reader))
    (keeps : heldMessages point = heldMessages (state.readers reader)) :
    LedgerInvariant ({ state with dataBufferMutex := mutex }.moveReader reader point) where
  conserved := ledger.conserved
  accounted := (Function.forall_update_iff state.readers fun other current =>
      drainsOf state.drains other = state.returned other ++ heldMessages current).mpr
    ⟨keeps ▸ ledger.accounted reader, fun other _ => ledger.accounted other⟩
  empty := ledger.empty

theorem drains_of_append (drains : List (Drain Reader Message)) (drain : Drain Reader Message)
    (reader : Reader) :
    drainsOf (drains ++ [drain]) reader =
      drainsOf drains reader ++ if drain.reader = reader then [drain.messages] else [] := by
  by_cases same : drain.reader = reader <;> simp [drainsOf, same]

theorem ledger_invariant_drain {state : State Reader Message} (invariant : MutexInvariant state)
    (ledger : LedgerInvariant state) {reader : Reader} {predicateOpen : Bool}
    {messages : List Message} (stands : state.readers reader = .reset predicateOpen messages) :
    LedgerInvariant ({ state with
      dataBuffer := []
      drains := state.drains ++ [Drain.mk reader messages predicateOpen] }.moveReader reader
        (.unlock messages)) := by
  have copied := invariant.view reader
  rw [stands] at copied
  obtain ⟨whole, nonempty⟩ := copied
  refine ⟨?_, ?_, ?_⟩
  · simpa [State.moveReader, whole] using ledger.conserved
  · apply (Function.forall_update_iff state.readers fun other current =>
      drainsOf (state.drains ++ [Drain.mk reader messages predicateOpen]) other =
        state.returned other ++ heldMessages current).mpr
    refine ⟨?_, ?_⟩
    · have before := ledger.accounted reader
      rw [stands] at before
      rw [drains_of_append, before]
      simp [heldMessages]
    · intro other different
      rw [drains_of_append, if_neg (by simpa using different.symm), List.append_nil]
      exact ledger.accounted other
  · intro drain member
    rcases List.mem_append.mp member with earlier | latest
    · exact ledger.empty drain earlier
    · obtain rfl := List.mem_singleton.mp latest
      intro none_drained
      cases predicateOpen with
      | false => rfl
      | true => exact absurd (whole.symm.trans none_drained) (nonempty rfl)

theorem ledger_invariant_step {state next : State Reader Message}
    {action : Action Reader Message} (invariant : MutexInvariant state)
    (ledger : LedgerInvariant state) (taken : step state action = some next) :
    LedgerInvariant next := by
  cases step_cases taken with
  | enter reader stands | wake reader stands | refuse reader stands | pass reader stands =>
      exact ledger_invariant_move ledger _ (by simp [stands, heldMessages])
  | acquire reader stands free =>
      apply ledger_invariant_move ledger
      rcases stands with stands | stands <;> simp [stands, heldMessages]
  | sleep reader stands | copyOne reader predicateOpen messages message stands
  | copyEnd reader predicateOpen messages stands | release reader messages stands =>
      exact ledger_invariant_move ledger _ (by simp [stands, heldMessages])
  | drain reader predicateOpen messages stands =>
      exact ledger_invariant_drain invariant ledger stands
  | deliver reader messages stands =>
      refine ⟨ledger.conserved, ?_, ledger.empty⟩
      intro other
      have before := ledger.accounted other
      by_cases same : other = reader
      · subst same
        rw [stands] at before
        simpa [State.moveReader, heldMessages] using before
      · simpa [State.moveReader, same] using before
  | messagePush message stands =>
      refine ⟨?_, ledger.accounted, ledger.empty⟩
      simp only [← ledger.conserved, List.append_assoc]
  | notify stands =>
      refine ⟨ledger.conserved, ?_, ledger.empty⟩
      intro reader
      simpa only [notify_held_messages] using ledger.accounted reader
  | messageStart | stateStart | storeOpen | storeClosed | ignore | messageAcquire
  | messageRelease => exact ⟨ledger.conserved, ledger.accounted, ledger.empty⟩

theorem ledger_invariant_initial : LedgerInvariant (initial : State Reader Message) where
  conserved := rfl
  accounted := by simp [initial, drainsOf, heldMessages]
  empty := by simp [initial]

theorem ledger_of_replay {actions : List (Action Reader Message)}
    {state : State Reader Message} (run : replay step initial actions = some state) :
    MutexInvariant state ∧ LedgerInvariant state :=
  replay_invariant (fun state => MutexInvariant state ∧ LedgerInvariant state)
    ⟨mutex_invariant_initial, ledger_invariant_initial⟩
    (fun _ _ _ holds taken => ⟨mutex_invariant_step holds.1 taken,
      ledger_invariant_step holds.1 holds.2 taken⟩) run

/-- Whatever the interleaving, the drains in mutex order followed by the
buffer are the pushed messages; each drain was returned by its reader or is
still held by it; and a drain is empty only when the wait predicate had found
the channel not open. -/
theorem get_data_buffer_delivers_exactly_once (actions : List (Action Reader Message))
    (state : State Reader Message) (run : replay step initial actions = some state) :
    (state.drains.map Drain.messages).flatten ++ state.dataBuffer = state.pushed ∧
      (∀ reader, drainsOf state.drains reader =
        state.returned reader ++ heldMessages (state.readers reader)) ∧
      ∀ drain ∈ state.drains, drain.messages = [] → drain.predicateOpen = false := by
  have ledger := (ledger_of_replay run).2
  exact ⟨ledger.conserved, ledger.accounted, ledger.empty⟩

/-- Reader 0 calls before the channel opens and drains nothing. Reader 1 finds
one message, and a second one arrives while it still holds the list. -/
def twoReaderRun : List (Action (Fin 2) String) :=
  [.getDataBuffer 0, .advanceReader 0, .advanceReader 0, .advanceReader 0, .advanceReader 0,
    .advanceReader 0, .advanceReader 0,
    .onStateChange .kOpen, .advanceCallback, .onMessage "first",
    .advanceCallback, .advanceCallback, .advanceCallback, .advanceCallback,
    .getDataBuffer 1, .advanceReader 1, .advanceReader 1, .advanceReader 1, .advanceReader 1,
    .advanceReader 1, .advanceReader 1, .onMessage "second", .advanceCallback, .advanceCallback]

theorem two_reader_run_delivers :
    ∃ state, replay step initial twoReaderRun = some state ∧
      state.pushed = ["first", "second"] ∧ state.dataBuffer = ["second"] ∧
      (state.drains.map Drain.messages).flatten ++ state.dataBuffer = state.pushed :=
  ⟨_, rfl, rfl, rfl, (get_data_buffer_delivers_exactly_once twoReaderRun _ rfl).1⟩

end PyWebRTC.DataBufferDelivery
