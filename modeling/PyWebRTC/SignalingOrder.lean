import PyWebRTC.SignalingThreads

/-!
# The order in which descriptions and candidates leave

A local description is made in one step and leaves in another, and each of the
two threads can hold one in between. The websocket thread also sends candidates
of a description that the signalling thread has not sent yet.
-/

namespace PyWebRTC.SignalingOrder

open ActionRuns SignalingThreads
open SessionDescription (SdpKind)

set_option autoImplicit false

variable {Candidate : Type*}

def descriptionsSent (sent : List (Outgoing Candidate)) : List Nat :=
  sent.filterMap fun
    | .description _ number => some number
    | _ => none

/-- Descriptions leave in the order of their creation, none before one that was
created earlier, and a candidate leaves after the description under which it
was gathered. -/
structure Causal (sent : List (Outgoing Candidate)) : Prop where
  inOrder : descriptionsSent sent = List.range (descriptionsSent sent).length
  candidates : ∀ before gathered after, sent = before ++ .candidate gathered :: after →
    gathered.under ∈ descriptionsSent before

def heldOffer : HandlerPoint → Option Nat
  | .sendOffer number => some number
  | _ => none

def heldAnswer : MessagePoint Candidate → Option Nat
  | .sendAnswer number => some number
  | _ => none

/-- No thread sends a description while the other holds one that is older, and no
candidate is sent while the signalling thread holds the offer under which it was
gathered. A send on a lost connection raises, and does not matter. -/
def LeavesInTurn (state : State Candidate) : Action Candidate → Prop
  | .sendOffer => state.websocketClosed = false → ∀ offer answer,
      heldOffer state.handler = some offer → heldAnswer state.message = some answer →
        offer < answer
  | .sendAnswer => state.websocketClosed = false → ∀ offer answer,
      heldOffer state.handler = some offer → heldAnswer state.message = some answer →
        answer < offer
  | .sendCandidate => state.websocketClosed = false → ∀ offer first rest,
      heldOffer state.handler = some offer → state.message = .sendCandidates first rest →
        first.under ≠ offer
  | _ => True

/-! ## Numbers held by two threads -/

/-- The numbers below `created` are those below `left`, which have left, and those
that the two threads hold. -/
structure Accounting (left created : Nat) (one other : Option Nat) : Prop where
  accounted : ∀ number, number < created ↔
    number < left ∨ one = some number ∨ other = some number
  unsentOne : ∀ number, one = some number → left ≤ number
  unsentOther : ∀ number, other = some number → left ≤ number
  apart : ∀ number, one = some number → other ≠ some number

namespace Accounting

variable {left created number : Nat} {one other : Option Nat}

theorem symm (accounting : Accounting left created one other) :
    Accounting left created other one where
  accounted := fun number =>
    (accounting.accounted number).trans (or_congr_right or_comm)
  unsentOne := accounting.unsentOther
  unsentOther := accounting.unsentOne
  apart := fun number others ones => accounting.apart number ones others

theorem create (accounting : Accounting left created none other) :
    Accounting left (created + 1) (some created) other where
  accounted := by
    intro number
    have before := accounting.accounted number
    grind
  unsentOne := by
    have before := accounting.accounted created
    grind
  unsentOther := accounting.unsentOther
  apart := by
    have before := accounting.accounted created
    grind

theorem next_eq (accounting : Accounting left created (some number) other)
    (older : ∀ held, other = some held → number < held) : number = left := by
  have unsent := accounting.unsentOne number rfl
  have present := (accounting.accounted number).mpr (.inr (.inl rfl))
  rcases (accounting.accounted left).mp (by omega) with gone | same | held
  · omega
  · exact Option.some.inj same
  · have later := older left held
    omega

theorem send (accounting : Accounting left created (some left) other) :
    Accounting (left + 1) created none other where
  accounted := by
    intro number
    have before := accounting.accounted number
    grind
  unsentOne := by simp
  unsentOther := by
    intro number held
    have unsent := accounting.unsentOther number held
    have different := accounting.apart left rfl
    grind
  apart := by simp

theorem ne_next (accounting : Accounting left created (some number) other) {held : Nat}
    (others : other = some held) (younger : ¬number < held) : number ≠ left := by
  have unsent := accounting.unsentOther held others
  have different : number ≠ held := by
    rintro rfl
    exact accounting.apart number rfl others
  omega

end Accounting

/-! ## What has left -/

theorem descriptions_sent_append (before after : List (Outgoing Candidate)) :
    descriptionsSent (before ++ after) = descriptionsSent before ++ descriptionsSent after :=
  List.filterMap_append

theorem description_sent_length (sent : List (Outgoing Candidate)) (kind : SdpKind) (number : Nat) :
    (descriptionsSent (sent ++ [.description kind number])).length =
      (descriptionsSent sent).length + 1 := by
  rw [descriptions_sent_append, List.length_append]
  rfl

theorem held_answer_candidate_loop (fetched : List (Gathered Candidate)) :
    heldAnswer (candidateLoop fetched) = none := by
  cases fetched <;> rfl

theorem causal_nil : Causal ([] : List (Outgoing Candidate)) where
  inOrder := rfl
  candidates := by simp

theorem eq_range_append_iff {numbers : List Nat} {number : Nat} :
    numbers ++ [number] = List.range (numbers ++ [number]).length ↔
      numbers = List.range numbers.length ∧ number = numbers.length := by
  rw [List.length_append, List.length_singleton, List.range_succ]
  constructor
  · intro same
    obtain ⟨left, right⟩ := List.append_inj' same rfl
    exact ⟨left, List.singleton_inj.mp right⟩
  · rintro ⟨left, right⟩
    rw [← left, ← right]

def InTurn (sent : List (Outgoing Candidate)) : Outgoing Candidate → Prop
  | .kind => True
  | .description _ number => number = (descriptionsSent sent).length
  | .candidate gathered => gathered.under ∈ descriptionsSent sent

theorem causal_append {sent : List (Outgoing Candidate)} {outgoing : Outgoing Candidate}
    (causal : Causal sent) (inTurn : InTurn sent outgoing) : Causal (sent ++ [outgoing]) := by
  refine ⟨?_, ?_⟩
  · cases outgoing with
    | kind | candidate gathered => simpa [descriptionsSent] using causal.inOrder
    | description kind number =>
        rw [descriptions_sent_append]
        exact eq_range_append_iff.mpr ⟨causal.inOrder, inTurn⟩
  · intro before gathered after split
    rcases split_of_append_singleton split with ⟨rfl, rfl, -⟩ | ⟨rest, -, earlier⟩
    · exact inTurn
    · exact causal.candidates before gathered rest earlier

theorem in_turn_of_causal {sent : List (Outgoing Candidate)} {outgoing : Outgoing Candidate}
    (causal : Causal (sent ++ [outgoing])) : InTurn sent outgoing := by
  cases outgoing with
  | kind => trivial
  | description kind number =>
      have inOrder := causal.inOrder
      rw [descriptions_sent_append] at inOrder
      exact (eq_range_append_iff.mp inOrder).2
  | candidate gathered => exact causal.candidates sent gathered [] rfl

/-- As long as the websocket is open, what was made has left or is held by one of
the threads. -/
structure OrderInvariant (state : State Candidate) : Prop where
  causal : Causal state.sent
  accounting : state.websocketClosed = false →
    Accounting (descriptionsSent state.sent).length state.created (heldOffer state.handler)
      (heldAnswer state.message)
  installed : ∀ number, state.localDescription = some number → number < state.created
  gathered : ∀ candidate ∈ unsent state.message ++ state.iceArray,
    candidate.under < state.created

theorem order_invariant_initial (useVideo : Bool) :
    OrderInvariant (initial useVideo : State Candidate) where
  causal := causal_nil
  accounting := fun _ => ⟨by simp [initial, descriptionsSent, heldOffer, heldAnswer],
    by simp [initial, heldOffer], by simp [initial, heldAnswer], by simp [initial, heldOffer]⟩
  installed := by simp [initial]
  gathered := by simp [initial, unsent]

theorem order_invariant_handler {state : State Candidate} {handler : HandlerPoint}
    (invariant : OrderInvariant state) (held : heldOffer handler = heldOffer state.handler) :
    OrderInvariant { state with handler := handler } where
  causal := invariant.causal
  accounting := by
    intro connected
    rw [held]
    exact invariant.accounting connected
  installed := invariant.installed
  gathered := invariant.gathered

theorem order_invariant_closed {state : State Candidate} {handler : HandlerPoint}
    {timeoutOccurred : Bool} (invariant : OrderInvariant state) :
    OrderInvariant { state with
      timeoutOccurred := timeoutOccurred, websocketClosed := true, handler := handler } where
  causal := invariant.causal
  accounting := by simp
  installed := invariant.installed
  gathered := invariant.gathered

theorem order_invariant_message {state : State Candidate} {message : MessagePoint Candidate}
    {iceArray : List (Gathered Candidate)} (invariant : OrderInvariant state)
    (held : heldAnswer message = heldAnswer state.message)
    (waiting : ∀ candidate ∈ unsent message ++ iceArray,
      candidate ∈ unsent state.message ++ state.iceArray) :
    OrderInvariant { state with message := message, iceArray := iceArray } where
  causal := invariant.causal
  accounting := by
    intro connected
    rw [held]
    exact invariant.accounting connected
  installed := invariant.installed
  gathered := fun candidate member => invariant.gathered candidate (waiting candidate member)

theorem order_invariant_send {state : State Candidate} {outgoing : Outgoing Candidate}
    {after : MessagePoint Candidate} (invariant : OrderInvariant state)
    (inTurn : state.websocketClosed = false → InTurn state.sent outgoing)
    (accounting : state.websocketClosed = false →
      Accounting (descriptionsSent (state.sent ++ [outgoing])).length state.created
        (heldOffer state.handler) (heldAnswer after))
    (waiting : ∀ candidate ∈ unsent after, candidate ∈ unsent state.message) :
    OrderInvariant (state.sendOn outgoing after) := by
  unfold State.sendOn
  split
  · next closed =>
      refine ⟨invariant.causal, by simp [closed], invariant.installed, ?_⟩
      intro candidate member
      exact invariant.gathered candidate (List.mem_append_right _ (by simpa [unsent] using member))
  · next connected =>
      rw [Bool.not_eq_true] at connected
      refine ⟨causal_append invariant.causal (inTurn connected), accounting, invariant.installed,
        ?_⟩
      intro candidate member
      apply invariant.gathered
      rcases List.mem_append.mp member with fetched | inArray
      · exact List.mem_append_left _ (waiting candidate fetched)
      · exact List.mem_append_right _ inArray

theorem order_invariant_send_from_handler {state : State Candidate}
    {outgoing : Outgoing Candidate} {after : HandlerPoint} (invariant : OrderInvariant state)
    (inTurn : state.websocketClosed = false → InTurn state.sent outgoing)
    (accounting : state.websocketClosed = false →
      Accounting (descriptionsSent (state.sent ++ [outgoing])).length state.created
        (heldOffer after) (heldAnswer state.message)) :
    OrderInvariant (state.sendFromHandler outgoing after) := by
  unfold State.sendFromHandler
  split
  · next closed =>
      exact ⟨invariant.causal, by simp [closed], invariant.installed, invariant.gathered⟩
  · next connected =>
      rw [Bool.not_eq_true] at connected
      exact ⟨causal_append invariant.causal (inTurn connected), accounting, invariant.installed,
        invariant.gathered⟩

theorem created_bounds {state : State Candidate} (invariant : OrderInvariant state)
    (installs : Bool) :
    (∀ number, (state.create installs).localDescription = some number →
        number < state.created + 1) ∧
      ∀ candidate ∈ unsent state.message ++ state.iceArray,
        candidate.under < state.created + 1 := by
  constructor
  · intro number found
    cases installs with
    | true =>
        have same : state.created = number := Option.some.inj found
        omega
    | false => exact Nat.lt_succ_of_lt (invariant.installed number found)
  · exact fun candidate member => Nat.lt_succ_of_lt (invariant.gathered candidate member)

/-- An offer that leaves in turn is the oldest description that has not left. -/
theorem offer_in_turn {state : State Candidate} {number : Nat} (invariant : OrderInvariant state)
    (stands : state.handler = .sendOffer number) (leaves : LeavesInTurn state .sendOffer)
    (connected : state.websocketClosed = false) :
    number = (descriptionsSent state.sent).length := by
  have before := invariant.accounting connected
  rw [stands] at before
  apply before.next_eq
  exact fun answer held => leaves connected number answer (by rw [stands]; rfl) held

theorem answer_in_turn {state : State Candidate} {number : Nat} (invariant : OrderInvariant state)
    (stands : state.message = .sendAnswer number) (leaves : LeavesInTurn state .sendAnswer)
    (connected : state.websocketClosed = false) :
    number = (descriptionsSent state.sent).length := by
  have before := invariant.accounting connected
  rw [stands] at before
  apply before.symm.next_eq
  exact fun offer held => leaves connected offer number held (by rw [stands]; rfl)

theorem candidate_in_turn {state : State Candidate} {first : Gathered Candidate}
    {rest : List (Gathered Candidate)} (invariant : OrderInvariant state)
    (stands : state.message = .sendCandidates first rest)
    (leaves : LeavesInTurn state .sendCandidate) (connected : state.websocketClosed = false) :
    first.under ∈ descriptionsSent state.sent := by
  have before := invariant.accounting connected
  have bound := invariant.gathered first (by simp [stands, unsent])
  rw [invariant.causal.inOrder, List.mem_range]
  rcases (before.accounted first.under).mp bound with gone | offered | answered
  · exact gone
  · exact absurd rfl (leaves connected first.under first rest offered stands)
  · simp [stands, heldAnswer] at answered

theorem order_invariant_step {state next : State Candidate} {action : Action Candidate}
    (invariant : OrderInvariant state) (leaves : LeavesInTurn state action)
    (taken : step state action = some next) : OrderInvariant next := by
  cases step_cases taken with
  | onOpen stands connected | channelNotOpen stands | timeoutNotExceeded stands
  | addTracks stands | settle stands =>
      exact order_invariant_handler invariant (by rw [stands]; rfl)
  | channelFoundOpen stands channelOpen =>
      apply order_invariant_handler invariant
      rw [stands]
      split <;> rfl
  | timeoutExceeded | close | connectionLost => exact order_invariant_closed invariant
  | sendKind stands =>
      refine order_invariant_send_from_handler invariant (fun _ => trivial) ?_
      intro connected
      have before := invariant.accounting connected
      rw [stands] at before
      rw [descriptions_sent_append]
      exact (List.append_nil (descriptionsSent state.sent)).symm ▸ before
  | getSdp installs stands =>
      obtain ⟨installed, gathered⟩ := created_bounds invariant installs
      refine ⟨invariant.causal, ?_, installed, gathered⟩
      intro connected
      have before := invariant.accounting connected
      rw [stands] at before
      exact before.create
  | receiveOffer installs stands =>
      obtain ⟨installed, gathered⟩ := created_bounds invariant installs
      rw [stands] at gathered
      refine ⟨invariant.causal, ?_, installed, gathered⟩
      intro connected
      have before := invariant.accounting connected
      rw [stands] at before
      exact before.symm.create.symm
  | sendOffer number stands =>
      have oldest := offer_in_turn invariant stands leaves
      refine order_invariant_send_from_handler invariant oldest ?_
      intro connected
      have before := invariant.accounting connected
      rw [stands, oldest connected] at before
      rw [description_sent_length]
      exact before.send
  | sendAnswer number stands =>
      have oldest := answer_in_turn invariant stands leaves
      refine order_invariant_send invariant ?_ ?_ (by simp [unsent])
      · exact oldest
      · intro connected
        have before := invariant.accounting connected
        rw [stands, oldest connected] at before
        rw [description_sent_length]
        exact before.symm.send.symm
  | sendCandidate first rest stands =>
      refine order_invariant_send invariant ?_ ?_ ?_
      · exact candidate_in_turn invariant stands leaves
      · intro connected
        have before := invariant.accounting connected
        rw [stands] at before
        rw [descriptions_sent_append, held_answer_candidate_loop]
        exact (List.append_nil (descriptionsSent state.sent)).symm ▸ before
      · rw [stands, unsent_candidate_loop]
        exact fun _ member => List.mem_cons_of_mem _ member
  | onMessage incoming stands connected =>
      apply order_invariant_message invariant
      · rw [stands]
        cases incoming <;> rfl
      · rw [stands]
        cases incoming <;> exact fun _ member => member
  | receiveAnswer stands | setIceInformation stands | undefinedMessage stands =>
      apply order_invariant_message invariant
      · rw [stands]
        rfl
      · rw [stands]
        exact fun _ member => member
  | getIceInformation stands =>
      apply order_invariant_message invariant
      · rw [stands]
        cases state.iceArray <;> rfl
      · rw [stands, unsent_candidate_loop, List.append_nil]
        exact fun _ member => member
  | onIceCandidate candidate under installed =>
      refine ⟨invariant.causal, invariant.accounting, invariant.installed, ?_⟩
      intro gathered member
      rw [← List.append_assoc] at member
      rcases List.mem_append.mp member with earlier | latest
      · exact invariant.gathered gathered earlier
      · obtain rfl := List.mem_singleton.mp latest
        exact invariant.installed under installed
  | onStateChange channelOpen =>
      exact ⟨invariant.causal, invariant.accounting, invariant.installed, invariant.gathered⟩

theorem out_of_turn_breaks_order {state next : State Candidate} {action : Action Candidate}
    (invariant : OrderInvariant state) (outOfTurn : ¬LeavesInTurn state action)
    (taken : step state action = some next) : ¬Causal next.sent := by
  intro causal
  cases step_cases taken with
  | sendOffer number stands =>
      simp only [LeavesInTurn, not_forall] at outOfTurn
      obtain ⟨connected, offer, answer, isOffer, isAnswer, younger⟩ := outOfTurn
      have before := invariant.accounting connected
      rw [send_from_handler_connected connected] at causal
      rw [stands] at before isOffer
      obtain rfl : number = offer := Option.some.inj isOffer
      exact before.ne_next isAnswer younger (in_turn_of_causal causal)
  | sendAnswer number stands =>
      simp only [LeavesInTurn, not_forall] at outOfTurn
      obtain ⟨connected, offer, answer, isOffer, isAnswer, younger⟩ := outOfTurn
      have before := invariant.accounting connected
      rw [send_on_connected connected] at causal
      rw [stands] at before isAnswer
      obtain rfl : number = answer := Option.some.inj isAnswer
      exact before.symm.ne_next isOffer younger (in_turn_of_causal causal)
  | sendCandidate first rest stands =>
      simp only [LeavesInTurn, not_forall, not_not] at outOfTurn
      obtain ⟨connected, offer, candidate, others, isOffer, looping, same⟩ := outOfTurn
      obtain ⟨rfl, rfl⟩ := MessagePoint.sendCandidates.inj (stands.symm.trans looping)
      have before := invariant.accounting connected
      rw [send_on_connected connected] at causal
      have gone : first.under ∈ descriptionsSent state.sent := in_turn_of_causal causal
      rw [invariant.causal.inOrder, List.mem_range, same] at gone
      exact absurd (before.unsentOne offer isOffer) (Nat.not_le_of_lt gone)
  | onOpen | sendKind | channelFoundOpen | channelNotOpen | timeoutNotExceeded | timeoutExceeded
  | addTracks | getSdp | settle | close | onMessage | receiveOffer | receiveAnswer
  | setIceInformation | undefinedMessage | getIceInformation | onIceCandidate | onStateChange
  | connectionLost => exact outOfTurn trivial

/-- In every run, however the two threads and the callbacks interleave. -/
theorem causal_iff_leaves_in_turn (useVideo : Bool) (actions : List (Action Candidate))
    (last : State Candidate) (run : replay step (initial useVideo) actions = some last) :
    HoldsAlong (fun state => Causal state.sent) step (initial useVideo) actions ↔
      MeetsAlong LeavesInTurn step (initial useVideo) actions :=
  holds_along_iff_meets_along OrderInvariant (order_invariant_initial useVideo)
    (fun _ invariant => invariant.causal) (fun _ _ _ => order_invariant_step)
    (fun _ _ _ => out_of_turn_breaks_order) run

def makeOffer : List (Action Nat) :=
  [.onOpen, .sendKind, .onStateChange true, .channelFoundOpen, .addTracks, .getSdp true]

/-- An offer that comes in while the own one is held is answered first, and then
a candidate of the held offer leaves as well. -/
theorem held_offer_is_overtaken :
    ¬∀ (useVideo : Bool) (actions : List (Action Nat)) (state : State Nat),
      replay step (initial useVideo) actions = some state → Causal state.sent := by
  intro claimed
  have causal := claimed true (makeOffer ++ [.onIceCandidate 0, .onMessage .offer,
    .receiveOffer true, .sendAnswer, .getIceInformation, .sendCandidate, .sendOffer]) _ rfl
  exact absurd causal.inOrder (by decide)

theorem sent_offer_is_answered :
    HoldsAlong (fun state => Causal state.sent) step (initial true) (makeOffer ++
      [.onIceCandidate 0, .sendOffer, .onMessage .offer, .receiveOffer true, .sendAnswer,
        .getIceInformation, .sendCandidate]) := by
  apply (causal_iff_leaves_in_turn true _ _ rfl).mpr
  simp [makeOffer, MeetsAlong, LeavesInTurn, heldOffer, heldAnswer, step, stepHandler,
    stepMessage, initial, State.create, State.sendOn, State.sendFromHandler, messageStart,
    candidateLoop]

end PyWebRTC.SignalingOrder
