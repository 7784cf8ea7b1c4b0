import PyWebRTC.SignalingThreads

/-!
# The candidates at the end of signalling

Every gathered candidate is sent, or waits in the loop that fetched it, or is
still in `ice_array`, unless a turn of the loop finds the connection lost. The
signalling thread closes the websocket some time after its last step, whatever is
left in the two last places; nothing is fetched unless an offer or an answer comes
in after it was gathered.
-/

namespace PyWebRTC.CandidatesSent

open ActionRuns SignalingThreads

set_option autoImplicit false

variable {Candidate : Type*}

def candidatesSent (sent : List (Outgoing Candidate)) : List (Gathered Candidate) :=
  sent.filterMap fun
    | .candidate gathered => some gathered
    | _ => none

def AllCandidatesSent (state : State Candidate) : Prop :=
  candidatesSent state.sent = state.gathered

/-- What the events so far leave to do: the candidates gathered since the last
`getICEInformation`, and the turns that the loop over those it fetched has yet to
take. -/
structure Due where
  waiting : Nat
  turns : Nat

def Due.after (due : Due) : Action Candidate → Due
  | .onIceCandidate _ => { due with waiting := due.waiting + 1 }
  | .getIceInformation => ⟨0, due.waiting⟩
  | .sendCandidate => { due with turns := due.turns - 1 }
  | _ => due

/-- After the last candidate was gathered, an offer or an answer was handled to
the end of the loop. -/
def NothingDue (actions : List (Action Candidate)) : Prop :=
  actions.foldl Due.after ⟨0, 0⟩ = ⟨0, 0⟩

/-- The loop took no turn after the connection was lost. -/
def TurnsConnected (actions : List (Action Candidate)) : Prop :=
  ∀ before after, actions = before ++ .sendCandidate :: after → .connectionLost ∉ before

def candidates (state : State Candidate) : List (Gathered Candidate) :=
  candidatesSent state.sent ++ unsent state.message ++ state.iceArray

theorem candidates_sent_append (before after : List (Outgoing Candidate)) :
    candidatesSent (before ++ after) = candidatesSent before ++ candidatesSent after :=
  List.filterMap_append

/-! ## Where a step leaves the candidates -/

theorem candidates_send {state : State Candidate} {outgoing : Outgoing Candidate}
    {after : MessagePoint Candidate} (connected : state.websocketClosed = false)
    (kept : candidatesSent [outgoing] ++ unsent after = unsent state.message) :
    candidates (state.sendOn outgoing after) = candidates state := by
  rw [send_on_connected connected]
  simp only [candidates, candidates_sent_append, ← kept, List.append_assoc]

theorem candidates_send_from_handler (state : State Candidate) {outgoing : Outgoing Candidate}
    (after : HandlerPoint) (other : candidatesSent [outgoing] = []) :
    candidates (state.sendFromHandler outgoing after) = candidates state := by
  unfold State.sendFromHandler
  split
  · rfl
  · simp [candidates, candidates_sent_append, other]

theorem candidates_unchanged {state next : State Candidate}
    (kept : candidates next = candidates state) (gathered : next.gathered = state.gathered) :
    ∃ new, candidates next = candidates state ++ new ∧ next.gathered = state.gathered ++ new :=
  ⟨[], by rw [kept, List.append_nil], by rw [gathered, List.append_nil]⟩

/-- A step loses nothing, unless it is a turn of the loop on a closed websocket. -/
theorem candidates_kept {state next : State Candidate} {action : Action Candidate}
    (taken : step state action = some next)
    (turn : action = .sendCandidate → state.websocketClosed = false) :
    ∃ new, candidates next = candidates state ++ new ∧ next.gathered = state.gathered ++ new := by
  cases step_cases taken with
  | onIceCandidate candidate under installed =>
      exact ⟨[⟨candidate, under⟩], by simp [candidates], rfl⟩
  | sendAnswer number stands =>
      refine candidates_unchanged ?_ (send_on_gathered _ _ _)
      cases closed : state.websocketClosed with
      | true => simp [send_on_closed closed, candidates, stands, unsent]
      | false => exact candidates_send closed (by simp [candidatesSent, stands, unsent])
  | sendCandidate first rest stands =>
      refine candidates_unchanged (candidates_send (turn rfl) ?_) (send_on_gathered _ _ _)
      rw [stands, unsent_candidate_loop]
      rfl
  | sendKind | sendOffer =>
      exact candidates_unchanged (candidates_send_from_handler _ _ rfl)
        (send_from_handler_gathered _ _ _)
  | getIceInformation stands =>
      have fetched : unsent state.message = [] := by rw [stands]; rfl
      exact candidates_unchanged (by simp [candidates, unsent_candidate_loop, fetched]) rfl
  | onMessage incoming stands connected =>
      refine candidates_unchanged ?_ rfl
      cases incoming <;> simp [candidates, stands, messageStart, unsent]
  | receiveOffer installs stands =>
      exact candidates_unchanged (by simp [candidates, State.create, stands, unsent]) rfl
  | receiveAnswer stands | setIceInformation stands | undefinedMessage stands =>
      exact candidates_unchanged (by simp [candidates, stands, unsent]) rfl
  | onOpen | channelFoundOpen | channelNotOpen | timeoutNotExceeded | timeoutExceeded | addTracks
  | getSdp | settle | close | onStateChange | connectionLost => exact candidates_unchanged rfl rfl

/-- The exception ends the loop, and its candidates are in no list any more. -/
theorem candidates_lost {state next : State Candidate}
    (taken : step state .sendCandidate = some next) (closed : state.websocketClosed = true) :
    (candidates next).Sublist (candidates state) ∧
      (candidates next).length < (candidates state).length ∧ next.gathered = state.gathered := by
  cases step_cases taken with
  | sendCandidate first rest stands =>
      rw [send_on_closed closed]
      refine ⟨?_, ?_, rfl⟩
      · simp [candidates, unsent]
      · simp only [candidates, stands, unsent, List.length_append, List.length_cons,
          List.length_nil]
        omega

/-- Only a turn of the loop after the connection was lost loses candidates. -/
theorem candidates_step {state next : State Candidate} {action : Action Candidate}
    (taken : step state action = some next) :
    ((action = .sendCandidate → state.websocketClosed = false) ∧
      ∃ new, candidates next = candidates state ++ new ∧
        next.gathered = state.gathered ++ new) ∨
    ((candidates next).Sublist (candidates state) ∧
      (candidates next).length < (candidates state).length ∧
        next.gathered = state.gathered) := by
  by_cases turn : action = .sendCandidate → state.websocketClosed = false
  · exact .inl ⟨turn, candidates_kept taken turn⟩
  · obtain ⟨rfl, closed⟩ := Classical.not_imp.mp turn
    exact .inr (candidates_lost taken (eq_true_of_ne_false closed))

theorem due_step {state next : State Candidate} {action : Action Candidate}
    (taken : step state action = some next)
    (turn : action = .sendCandidate → state.websocketClosed = false) :
    (Due.mk state.iceArray.length (unsent state.message).length).after action =
      ⟨next.iceArray.length, (unsent next.message).length⟩ := by
  cases step_cases taken with
  | onIceCandidate candidate under installed => simp [Due.after]
  | getIceInformation stands => simp [Due.after, unsent_candidate_loop]
  | sendCandidate first rest stands =>
      have fetched : unsent state.message = first :: rest := by rw [stands]; rfl
      rw [send_on_connected (turn rfl)]
      simp [Due.after, fetched, unsent_candidate_loop]
  | sendAnswer number stands =>
      cases closed : state.websocketClosed with
      | true => simp [Due.after, send_on_closed closed, stands, unsent]
      | false => simp [Due.after, send_on_connected closed, stands, unsent]
  | sendKind | sendOffer =>
      unfold State.sendFromHandler
      split <;> rfl
  | onMessage incoming stands connected =>
      cases incoming <;> simp [Due.after, stands, messageStart, unsent]
  | receiveOffer installs stands | receiveAnswer stands | setIceInformation stands
  | undefinedMessage stands => simp [Due.after, State.create, stands, unsent]
  | onOpen | channelFoundOpen | channelNotOpen | timeoutNotExceeded | timeoutExceeded | addTracks
  | getSdp | settle | close | onStateChange | connectionLost => rfl

/-! ## Runs up to the close -/

theorem running_step {state next : State Candidate} {action : Action Candidate}
    (taken : step state action = some next) (running : next.handler ≠ .finished) :
    state.handler ≠ .finished ∧
      (next.websocketClosed = true ↔
        state.websocketClosed = true ∨ action = .connectionLost) := by
  cases step_cases taken with
  | connectionLost connected => exact ⟨running, by simp⟩
  | timeoutExceeded | close => exact absurd rfl running
  | sendKind stands | sendOffer number stands =>
      refine ⟨by simp [stands], ?_⟩
      unfold State.sendFromHandler
      split <;> simp
  | onOpen stands | channelFoundOpen stands | channelNotOpen stands | timeoutNotExceeded stands
  | addTracks stands | getSdp installs stands | settle stands =>
      exact ⟨by simp [stands], by simp [State.create]⟩
  | sendAnswer | sendCandidate =>
      rw [send_on_handler] at running
      rw [send_on_websocket]
      exact ⟨running, by simp⟩
  | onMessage | receiveOffer | receiveAnswer | setIceInformation | undefinedMessage
  | getIceInformation | onIceCandidate | onStateChange =>
      exact ⟨running, by simp [State.create]⟩

theorem turns_connected_append {past : List (Action Candidate)} {action : Action Candidate} :
    TurnsConnected (past ++ [action]) ↔
      TurnsConnected past ∧ (action = .sendCandidate → .connectionLost ∉ past) := by
  constructor
  · intro turns
    refine ⟨?_, ?_⟩
    · rintro before after rfl
      exact turns before (after ++ [action]) (by simp)
    · rintro rfl
      exact turns past [] rfl
  · rintro ⟨earlier, latest⟩ before after split
    rcases split_of_append_singleton split with ⟨same, rfl, -⟩ | ⟨rest, -, within⟩
    · exact latest same.symm
    · exact earlier before rest within

/-- What the events tell of the state before the signalling thread closes. -/
structure Tracked (past : List (Action Candidate)) (state : State Candidate) : Prop where
  lost : state.websocketClosed = true ↔ .connectionLost ∈ past
  kept : TurnsConnected past → candidates state = state.gathered ∧
    past.foldl Due.after ⟨0, 0⟩ = ⟨state.iceArray.length, (unsent state.message).length⟩
  short : ¬TurnsConnected past → (candidates state).length < state.gathered.length

theorem tracked_initial (useVideo : Bool) :
    Tracked [] (initial useVideo : State Candidate) where
  lost := by simp [initial]
  kept := fun _ => ⟨rfl, rfl⟩
  short := fun turns => absurd (fun before after split => by simp at split) turns

theorem tracked_step {past : List (Action Candidate)} {state next : State Candidate}
    {action : Action Candidate} (tracked : Tracked past state)
    (taken : step state action = some next) (running : next.handler ≠ .finished) :
    Tracked (past ++ [action]) next := by
  refine ⟨?_, ?_, ?_⟩
  · rw [(running_step taken running).2, tracked.lost, List.mem_append, List.mem_singleton,
      eq_comm (a := action)]
  · intro turns
    obtain ⟨earlier, latest⟩ := turns_connected_append.mp turns
    have turn : action = .sendCandidate → state.websocketClosed = false := fun sends =>
      eq_false_of_ne_true (mt tracked.lost.mp (latest sends))
    obtain ⟨conserved, due⟩ := tracked.kept earlier
    obtain ⟨new, placed, gathered⟩ := candidates_kept taken turn
    refine ⟨by rw [placed, gathered, conserved], ?_⟩
    rw [List.foldl_append, due]
    exact due_step taken turn
  · intro turns
    rcases candidates_step taken with ⟨turn, new, placed, gathered⟩ | ⟨-, fewer, gathered⟩
    · have earlier : ¬TurnsConnected past := fun earlier =>
        turns (turns_connected_append.mpr ⟨earlier, fun sends =>
          mt tracked.lost.mpr (by simp [turn sends])⟩)
      have short := tracked.short earlier
      rw [placed, gathered, List.length_append, List.length_append]
      omega
    · rw [gathered]
      by_cases earlier : TurnsConnected past
      · rwa [(tracked.kept earlier).1] at fewer
      · exact fewer.trans (tracked.short earlier)

theorem tracked_of_replay {useVideo : Bool} {actions : List (Action Candidate)}
    {last : State Candidate} (run : replay step (initial useVideo) actions = some last)
    (running : last.handler ≠ .finished) : Tracked actions last := by
  refine replay_history (fun past state => state.handler ≠ .finished → Tracked past state)
    (fun _ => tracked_initial useVideo) ?_ run running
  intro past state action next tracked taken running
  exact tracked_step (tracked (running_step taken running).1) taken running

/-- In every run that reaches the final `ws.close()`, whatever the order of its
steps. -/
theorem candidates_sent_iff_nothing_due (useVideo : Bool) (actions : List (Action Candidate))
    (before after : State Candidate)
    (run : replay step (initial useVideo) actions = some before)
    (closed : step before .close = some after) :
    AllCandidatesSent after ↔ NothingDue actions ∧ TurnsConnected actions := by
  cases step_cases closed with
  | close stands =>
      have tracked := tracked_of_replay run (by simp [stands])
      by_cases turns : TurnsConnected actions
      · obtain ⟨conserved, due⟩ := tracked.kept turns
        rw [and_iff_left turns]
        calc candidatesSent before.sent = before.gathered
            ↔ unsent before.message = [] ∧ before.iceArray = [] := by
              rw [← conserved, candidates, List.append_assoc, List.self_eq_append_right,
                List.append_eq_nil_iff]
          _ ↔ NothingDue actions := by
              rw [NothingDue, due, Due.mk.injEq, List.length_eq_zero_iff,
                List.length_eq_zero_iff, and_comm]
      · have short := tracked.short turns
        refine iff_of_false ?_ (fun both => turns both.2)
        intro sent
        have sentLength := congrArg List.length (show _ = before.gathered from sent)
        simp only [candidates, List.length_append] at short sentLength
        omega

/-- An offer is answered, and the one candidate gathered so far is sent. -/
def answerWithCandidate : List (Action Nat) :=
  [.onOpen, .sendKind, .onMessage .offer, .receiveOffer true, .onIceCandidate 0, .sendAnswer,
    .getIceInformation, .sendCandidate]

def openAndSettle : List (Action Nat) := [.onStateChange true, .channelFoundOpen, .settle]

/-- A candidate gathered after the answer was handled. -/
theorem late_candidate_is_left_behind :
    ¬∀ (useVideo : Bool) (actions : List (Action Nat)) (before after : State Nat),
      replay step (initial useVideo) actions = some before → step before .close = some after →
        AllCandidatesSent after := by
  intro claimed
  have sent := congrArg List.length
    (claimed false (answerWithCandidate ++ .onIceCandidate 1 :: openAndSettle) _ _ rfl rfl)
  exact absurd sent (by decide)

theorem early_candidate_is_sent :
    ∃ before after, replay step (initial false) (answerWithCandidate ++ openAndSettle) =
      some before ∧ step before .close = some after ∧ AllCandidatesSent after := by
  refine ⟨_, _, rfl, rfl, ?_⟩
  apply (candidates_sent_iff_nothing_due false (answerWithCandidate ++ openAndSettle) _ _
    rfl rfl).mpr
  refine ⟨rfl, ?_⟩
  intro before after split lost
  have inRun : .connectionLost ∈ answerWithCandidate ++ openAndSettle :=
    split ▸ List.mem_append_left _ lost
  simp [answerWithCandidate, openAndSettle] at inRun

end PyWebRTC.CandidatesSent
