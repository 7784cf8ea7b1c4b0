import PyWebRTC.WaitForClientResult

/-!
# A second call of `wait_for_client`

A connection has one signalling thread, which runs once. After the first call
has returned, a later one signals nothing: it waits until the websocket is
closed from outside, and returns what the first call returned.
-/

namespace PyWebRTC.WaitForClientAgain

open ActionRuns WaitForClient
open WaitForClientResult (History history_initial history_step)

set_option autoImplicit false

variable {Channel : Type*}

def isConnectionClosed : Action Channel → Bool
  | .connectionClosed => true
  | _ => false

/-- The calls, one at most, that wait for nothing any more and have not returned. -/
def pending (state : State Channel) : Nat :=
  match state.caller with
  | .outside => 0
  | .runForever => if state.websocket = .closed then 1 else 0
  | .join | .assignReady | .returnResult => 1

/-- What holds in every state behind one in which a call has returned. -/
structure Later (middle : State Channel) (past : List (Action Channel)) (state : State Channel) :
    Prop where
  handler : state.handler = middle.handler
  timeoutOccurred : state.timeoutOccurred = middle.timeoutOccurred
  observedOpen : state.observedOpen = middle.observedOpen
  offerSent : state.offerSent = middle.offerSent
  results : ∀ result ∈ state.results, result = middle.timeoutOccurred
  noStatement : .advanceHandler ∉ past ∧ .raiseInHandler ∉ past ∧ .offerFails ∉ past
  released : state.results.length + pending state ≤
    middle.results.length + pending middle + past.countP isConnectionClosed

theorem later_frame {middle state next : State Channel} {past : List (Action Channel)}
    {action : Action Channel} (later : Later middle past state)
    (notAdvance : action ≠ .advanceHandler) (notRaise : action ≠ .raiseInHandler)
    (notFail : action ≠ .offerFails)
    (handler : next.handler = state.handler)
    (timeout : next.timeoutOccurred = state.timeoutOccurred)
    (observed : next.observedOpen = state.observedOpen) (sent : next.offerSent = state.offerSent)
    (results : ∀ result ∈ next.results, result = middle.timeoutOccurred)
    (released : next.results.length + pending next ≤
      state.results.length + pending state + (isConnectionClosed action).toNat) :
    Later middle (past ++ [action]) next where
  handler := handler.trans later.handler
  timeoutOccurred := timeout.trans later.timeoutOccurred
  observedOpen := observed.trans later.observedOpen
  offerSent := sent.trans later.offerSent
  results := results
  noStatement := by
    simpa [notAdvance.symm, notRaise.symm, notFail.symm] using later.noStatement
  released := by
    have counted : (past ++ [action]).countP isConnectionClosed =
        past.countP isConnectionClosed + (isConnectionClosed action).toNat := by
      rw [List.countP_append, List.countP_singleton]
      cases isConnectionClosed action <;> rfl
    have before := later.released
    omega

theorem later_step [DecidableEq Channel] {settings : Settings} {middle state next : State Channel}
    {past : List (Action Channel)} {action : Action Channel}
    (ended : middle.handler = .finished ∨ middle.handler = .raised)
    (later : Later middle past state) (taken : step settings state action = some next) :
    Later middle (past ++ [action]) next := by
  rw [← later.handler] at ended
  replace taken := perform_of_step taken
  cases action with
  | advanceHandler =>
      rcases ended with stands | stands <;> simp [perform, advanceHandler, stands] at taken
  | raiseInHandler =>
      rcases ended with stands | stands <;> simp [perform, raiseInHandler, stands] at taken
  | offerFails =>
      rcases ended with stands | stands <;> simp [perform, stands] at taken
  | waitForClient =>
      simp only [perform] at taken
      split_ifs at taken with outside
      obtain rfl := Option.some.inj taken
      exact later_frame later (by simp) (by simp) (by simp) rfl rfl rfl rfl later.results
        (by simp [pending, outside])
  | onOpen =>
      have started : state.handler ≠ .unstarted := by
        rcases ended with stands | stands <;> simp [stands]
      simp only [perform, onOpen, if_neg started] at taken
      split_ifs at taken with connecting
      obtain rfl := Option.some.inj taken
      exact later_frame later (by simp) (by simp) (by simp) rfl rfl rfl rfl later.results
        (by simp [pending, connecting])
  | onMessage | answerFails =>
      simp only [perform] at taken
      split_ifs at taken
      obtain rfl := Option.some.inj taken
      exact later_frame later (by simp) (by simp) (by simp) rfl rfl rfl rfl later.results
        (by simp [pending])
  | connectionClosed =>
      simp only [perform] at taken
      split_ifs at taken with closed
      obtain rfl := Option.some.inj taken
      refine later_frame later (by simp) (by simp) (by simp) rfl rfl rfl rfl later.results ?_
      cases caller : state.caller <;> simp [pending, caller, closed, isConnectionClosed]
  | runForeverReturns =>
      simp only [perform] at taken
      split_ifs at taken with stands
      obtain rfl := Option.some.inj taken
      exact later_frame later (by simp) (by simp) (by simp) rfl rfl rfl rfl later.results
        (by simp [pending, stands])
  | join =>
      simp only [perform, join] at taken
      split_ifs at taken with joining
      rcases ended with stands | stands
      all_goals
        simp only [stands] at taken
        obtain rfl := Option.some.inj taken
        exact later_frame later (by simp) (by simp) (by simp) stands.symm rfl rfl rfl later.results
          (by simp [pending, joining])
  | assignReady =>
      simp only [perform] at taken
      split_ifs at taken with stands
      obtain rfl := Option.some.inj taken
      exact later_frame later (by simp) (by simp) (by simp) rfl rfl rfl rfl later.results
        (by simp [pending, stands])
  | returnResult =>
      simp only [perform] at taken
      split_ifs at taken with stands
      obtain rfl := Option.some.inj taken
      refine later_frame later (by simp) (by simp) (by simp) rfl rfl rfl rfl ?_ (by simp [pending, stands])
      intro result member
      rcases List.mem_append.mp member with earlier | latest
      · exact later.results result earlier
      · exact (List.mem_singleton.mp latest).trans later.timeoutOccurred
  | native action =>
      simp only [perform, Option.map_eq_some_iff] at taken
      obtain ⟨native, -, rfl⟩ := taken
      exact later_frame later (by simp) (by simp) (by simp) rfl rfl rfl rfl later.results (by simp [pending])

/-- In every run that goes on after a call has returned: no statement of the
handler is executed again, so that no later call offers anything; every result
is the first one; and every later return is paid for by a loss of the websocket
connection that the connection did not cause. -/
theorem later_calls_repeat_the_first [DecidableEq Channel] (settings : Settings)
    (before after : List (Action Channel)) (middle last : State Channel)
    (run : replay (step settings) initial before = some middle) (returned : middle.results ≠ [])
    (continued : replay (step settings) middle after = some last) :
    (.advanceHandler ∉ after ∧ .raiseInHandler ∉ after ∧ .offerFails ∉ after) ∧
      (last.observedOpen = middle.observedOpen ∧ last.offerSent = middle.offerSent) ∧
      (∀ result ∈ last.results, result = middle.timeoutOccurred) ∧
      last.results.length + pending last ≤
        middle.results.length + pending middle + after.countP isConnectionClosed := by
  have history : History settings before middle :=
    replay_history (History settings) (history_initial settings)
      (fun _ _ _ _ holds taken => history_step holds taken) run
  have ended := history.joined (.inr (.inr returned))
  have initially : Later middle [] middle :=
    ⟨rfl, rfl, rfl, rfl, history.results, by simp, Nat.le_refl _⟩
  have later : Later middle after last :=
    replay_history (Later middle) initially
      (fun _ _ _ _ holds taken => later_step ended holds taken) continued
  exact ⟨later.noStatement, ⟨later.observedOpen, later.offerSent⟩, later.results, later.released⟩

/-- A client waits at the second call, and the signalling server closes the
connection. -/
def secondCall : List (Action (Fin 1)) :=
  [.waitForClient, .onOpen, .native (.onDataChannel ⟨0, Nat.one_pos⟩),
    .native (.transition ⟨0, Nat.one_pos⟩ .kOpen), .native .onStateChange, .connectionClosed,
    .runForeverReturns, .join, .assignReady, .returnResult]

theorem second_call_repeats_timeout :
    ∃ middle last,
      replay (step WaitForClientResult.timeoutSettings) initial WaitForClientResult.timeoutRun =
        some middle ∧
      replay (step WaitForClientResult.timeoutSettings) middle secondCall = some last ∧
      last.native.dataChannelOpen = true ∧ last.results.length = 2 ∧
      ∀ result ∈ last.results, result = true := by
  refine ⟨_, _, rfl, rfl, rfl, rfl, ?_⟩
  exact (later_calls_repeat_the_first WaitForClientResult.timeoutSettings
    WaitForClientResult.timeoutRun secondCall _ _ rfl (by decide) rfl).2.2.1

end PyWebRTC.WaitForClientAgain
