import PyWebRTC.ActionRuns
import PyWebRTC.WaitForClient

/-!
# What the result of `wait_for_client` says

The result is one flag that only the timeout sets. It tells the truth exactly
as long as the handler ends in one of the two ways that the flag can tell
apart; an exception in the handler is a third way to end.
-/

namespace PyWebRTC.WaitForClientResult

open ActionRuns WaitForClient

set_option autoImplicit false

variable {Channel : Type*}

/-- The handler saw the channel open and, with video, sent the offer. -/
def SetUp (settings : Settings) (state : State Channel) : Prop :=
  state.observedOpen = true ∧ (settings.useVideo = true → state.offerSent = true)

def Truthful (settings : Settings) (state : State Channel) (result : Bool) : Prop :=
  (result = false → SetUp settings state) ∧ (result = true → state.observedOpen = false)

def HandlerFacts (settings : Settings) (state : State Channel) : Prop :=
  match state.handler with
  | .unstarted | .sendKind | .dataChannelOpen _ | .sleep _ | .compareTimeout _ | .timeoutOccurred =>
      state.timeoutOccurred = false ∧ state.observedOpen = false ∧ state.offerSent = false
  | .closeOnTimeout => state.timeoutOccurred = true ∧ state.observedOpen = false
  | .addTracks | .getSDP | .sendOffer =>
      state.timeoutOccurred = false ∧ state.observedOpen = true ∧ state.offerSent = false ∧
        settings.useVideo = true
  | .settle | .close => state.timeoutOccurred = false ∧ SetUp settings state
  | .finished => Truthful settings state state.timeoutOccurred
  | .raised => state.timeoutOccurred = false ∧ ¬SetUp settings state

structure History (settings : Settings) (past : List (Action Channel)) (state : State Channel) :
    Prop where
  facts : HandlerFacts settings state
  raised : state.handler = .raised ↔ .raiseInHandler ∈ past
  joined : state.caller = .assignReady ∨ state.caller = .returnResult ∨ state.results ≠ [] →
    state.handler = .finished ∨ state.handler = .raised
  results : ∀ result ∈ state.results, result = state.timeoutOccurred

theorem history_initial (settings : Settings) :
    History settings [] (initial : State Channel) := by
  constructor <;> simp [initial, HandlerFacts]

theorem history_frame {settings : Settings} {past : List (Action Channel)}
    {state next : State Channel} {action : Action Channel} (history : History settings past state)
    (other : action ≠ .raiseInHandler) (handler : next.handler = state.handler)
    (timeout : next.timeoutOccurred = state.timeoutOccurred)
    (observed : next.observedOpen = state.observedOpen) (sent : next.offerSent = state.offerSent)
    (joined : next.caller = .assignReady ∨ next.caller = .returnResult ∨ next.results ≠ [] →
      next.handler = .finished ∨ next.handler = .raised)
    (results : ∀ result ∈ next.results, result = next.timeoutOccurred) :
    History settings (past ++ [action]) next where
  facts := by
    simpa only [HandlerFacts, Truthful, SetUp, handler, timeout, observed, sent] using history.facts
  raised := by simpa [handler, other.symm] using history.raised
  joined := joined
  results := results

/-- While the handler runs, no call of `wait_for_client` is past its join. -/
theorem not_joined_of_running {settings : Settings} {past : List (Action Channel)}
    {state : State Channel} (history : History settings past state)
    (notFinished : state.handler ≠ .finished) (notRaised : state.handler ≠ .raised) :
    ¬(state.caller = .assignReady ∨ state.caller = .returnResult ∨ state.results ≠ []) := by
  intro past_join
  rcases history.joined past_join with finished | raised
  · exact notFinished finished
  · exact notRaised raised

theorem history_handler {settings : Settings} {past : List (Action Channel)}
    {state next : State Channel} {action : Action Channel} (history : History settings past state)
    (notFinished : state.handler ≠ .finished) (notRaised : state.handler ≠ .raised)
    (caller : next.caller = state.caller) (results : next.results = state.results)
    (raises : next.handler = .raised ↔ action = .raiseInHandler)
    (facts : HandlerFacts settings next) : History settings (past ++ [action]) next where
  facts := facts
  raised := by
    have before : .raiseInHandler ∉ past := fun member => notRaised (history.raised.mpr member)
    rw [raises]
    simp [before, eq_comm]
  joined := by
    rw [caller, results]
    exact fun past_join =>
      absurd past_join (not_joined_of_running history notFinished notRaised)
  results := by
    have none_returned : state.results = [] := by
      by_contra some_returned
      exact not_joined_of_running history notFinished notRaised (.inr (.inr some_returned))
    simp [results, none_returned]

/-- The timeout flag is set before the websocket is closed, so the handler can
only finish with the flag set or with the set-up complete. -/
theorem advance_handler_facts {settings : Settings} {state next : State Channel}
    (facts : HandlerFacts settings state) (taken : advanceHandler settings state = some next) :
    HandlerFacts settings next := by
  unfold advanceHandler at taken
  split at taken
  case h_1 | h_2 | h_3 => contradiction
  case h_4 stands =>
      split_ifs at taken
      obtain rfl := Option.some.inj taken
      simpa [HandlerFacts, stands] using facts
  case h_5 sleeps stands =>
      simp only [HandlerFacts, stands] at facts
      split_ifs at taken with channelOpen video
      · obtain rfl := Option.some.inj taken
        simp [HandlerFacts, video, facts]
      · obtain rfl := Option.some.inj taken
        simp [HandlerFacts, SetUp, video, facts]
      · obtain rfl := Option.some.inj taken
        simpa [HandlerFacts] using facts
  case h_6 sleeps stands =>
      obtain rfl := Option.some.inj taken
      simpa [HandlerFacts, stands] using facts
  case h_7 sleeps stands =>
      simp only [HandlerFacts, stands] at facts
      split_ifs at taken <;> obtain rfl := Option.some.inj taken <;>
        simpa [HandlerFacts] using facts
  case h_8 stands =>
      simp only [HandlerFacts, stands] at facts
      obtain rfl := Option.some.inj taken
      exact ⟨rfl, facts.2.1⟩
  case h_9 stands =>
      simp only [HandlerFacts, stands] at facts
      obtain rfl := Option.some.inj taken
      simp [HandlerFacts, Truthful, facts]
  case h_10 stands =>
      simp only [HandlerFacts, stands] at facts
      obtain rfl := Option.some.inj taken
      simpa [HandlerFacts, Truthful, SetUp, facts.1] using facts.2
  case h_11 stands | h_12 stands =>
      obtain rfl := Option.some.inj taken
      simpa [HandlerFacts, stands] using facts
  case h_13 stands =>
      simp only [HandlerFacts, stands] at facts
      split_ifs at taken
      obtain rfl := Option.some.inj taken
      simp [HandlerFacts, SetUp, facts]
  case h_14 stands =>
      obtain rfl := Option.some.inj taken
      simpa [HandlerFacts, SetUp, stands] using facts

theorem advance_handler_frame {settings : Settings} {state next : State Channel}
    (taken : advanceHandler settings state = some next) :
    state.handler ≠ .finished ∧ state.handler ≠ .raised ∧ next.handler ≠ .raised ∧
      next.caller = state.caller ∧ next.results = state.results := by
  unfold advanceHandler at taken
  split at taken <;> try split_ifs at taken
  all_goals first
    | contradiction
    | obtain rfl := Option.some.inj taken
      simp_all

theorem raise_in_handler_facts {settings : Settings} {state next : State Channel}
    (facts : HandlerFacts settings state) (taken : raiseInHandler state = some next) :
    HandlerFacts settings next := by
  unfold raiseInHandler at taken
  split at taken
  case h_1 stands | h_2 stands | h_3 stands | h_4 stands =>
      simp only [HandlerFacts, stands] at facts
      obtain rfl := Option.some.inj taken
      simp [HandlerFacts, SetUp, facts]
  case h_5 => contradiction

theorem raise_in_handler_frame {state next : State Channel}
    (taken : raiseInHandler state = some next) :
    state.handler ≠ .finished ∧ state.handler ≠ .raised ∧ next.handler = .raised ∧
      next.caller = state.caller ∧ next.results = state.results := by
  unfold raiseInHandler at taken
  split at taken
  case h_1 stands | h_2 stands | h_3 stands | h_4 stands =>
      obtain rfl := Option.some.inj taken
      simp [stands]
  case h_5 => contradiction

/-- The open event starts the thread once; on a later connection it changes
only the websocket. -/
theorem history_on_open {settings : Settings} {past : List (Action Channel)}
    {state next : State Channel} (history : History settings past state)
    (taken : onOpen state = some next) : History settings (past ++ [.onOpen]) next := by
  unfold onOpen at taken
  split_ifs at taken with connecting stands
  · obtain rfl := Option.some.inj taken
    apply history_handler history
    · simp [stands]
    · simp [stands]
    · rfl
    · rfl
    · simp
    · simpa [HandlerFacts, stands] using history.facts
  · obtain rfl := Option.some.inj taken
    exact history_frame history (by simp) rfl rfl rfl rfl history.joined history.results

theorem history_join {settings : Settings} {past : List (Action Channel)}
    {state next : State Channel} (history : History settings past state)
    (taken : join state = some next) : History settings (past ++ [.join]) next := by
  unfold join at taken
  split_ifs at taken with joining
  split at taken
  case h_1 stands =>
      obtain rfl := Option.some.inj taken
      refine history_frame history (by simp) rfl rfl rfl rfl ?_ history.results
      intro past_join
      exact history.joined (.inr (.inr (by simpa using past_join)))
  case h_2 stands =>
      obtain rfl := Option.some.inj taken
      exact history_frame history (by simp) rfl rfl rfl rfl (fun _ => .inl stands) history.results
  case h_3 stands =>
      obtain rfl := Option.some.inj taken
      exact history_frame history (by simp) rfl rfl rfl rfl (fun _ => .inr stands) history.results
  case h_4 => contradiction

theorem history_step [DecidableEq Channel] {settings : Settings} {past : List (Action Channel)}
    {state next : State Channel} {action : Action Channel} (history : History settings past state)
    (taken : step settings state action = some next) :
    History settings (past ++ [action]) next := by
  replace taken := perform_of_step taken
  cases action with
  | waitForClient =>
      simp only [perform] at taken
      split_ifs at taken with stands
      obtain rfl := Option.some.inj taken
      refine history_frame history (by simp) rfl rfl rfl rfl ?_ history.results
      intro past_join
      exact history.joined (.inr (.inr (by simpa using past_join)))
  | onOpen => exact history_on_open history taken
  | onMessage | answerFails =>
      simp only [perform] at taken
      split_ifs at taken
      obtain rfl := Option.some.inj taken
      exact history_frame history (by simp) rfl rfl rfl rfl history.joined history.results
  | connectionClosed =>
      simp only [perform] at taken
      split_ifs at taken
      obtain rfl := Option.some.inj taken
      exact history_frame history (by simp) rfl rfl rfl rfl history.joined history.results
  | runForeverReturns =>
      simp only [perform] at taken
      split_ifs at taken with stands
      obtain rfl := Option.some.inj taken
      refine history_frame history (by simp) rfl rfl rfl rfl ?_ history.results
      intro past_join
      exact history.joined (.inr (.inr (by simpa using past_join)))
  | join => exact history_join history taken
  | assignReady =>
      simp only [perform] at taken
      split_ifs at taken with stands
      obtain rfl := Option.some.inj taken
      exact history_frame history (by simp) rfl rfl rfl rfl
        (fun _ => history.joined (.inl stands)) history.results
  | returnResult =>
      simp only [perform] at taken
      split_ifs at taken with stands
      obtain rfl := Option.some.inj taken
      refine history_frame history (by simp) rfl rfl rfl rfl
        (fun _ => history.joined (.inr (.inl stands))) ?_
      intro result member
      rcases List.mem_append.mp member with earlier | latest
      · exact history.results result earlier
      · exact List.mem_singleton.mp latest
  | advanceHandler =>
      obtain ⟨notFinished, notRaised, raises, caller, results⟩ := advance_handler_frame taken
      exact history_handler history notFinished notRaised caller results (by simp [raises])
        (advance_handler_facts history.facts taken)
  | raiseInHandler =>
      obtain ⟨notFinished, notRaised, raises, caller, results⟩ := raise_in_handler_frame taken
      exact history_handler history notFinished notRaised caller results (by simp [raises])
        (raise_in_handler_facts history.facts taken)
  | offerFails =>
      simp only [perform] at taken
      split_ifs at taken
      obtain rfl := Option.some.inj taken
      exact history_frame history (by simp) rfl rfl rfl rfl history.joined history.results
  | native action =>
      simp only [perform, Option.map_eq_some_iff] at taken
      obtain ⟨native, -, rfl⟩ := taken
      exact history_frame history (by simp) rfl rfl rfl rfl history.joined history.results

/-- Once `wait_for_client` has returned, what it returned is true if and only
if no statement of the handler raised. -/
theorem wait_for_client_truthful_iff [DecidableEq Channel] (settings : Settings)
    (actions : List (Action Channel)) (state : State Channel)
    (run : replay (step settings) initial actions = some state) (returned : state.results ≠ []) :
    (∀ result ∈ state.results, Truthful settings state result) ↔
      Action.raiseInHandler ∉ actions := by
  have history : History settings actions state :=
    replay_history (History settings) (history_initial settings)
      (fun _ _ _ _ holds taken => history_step holds taken) run
  have facts := history.facts
  rw [← history.raised]
  rcases history.joined (.inr (.inr returned)) with finished | raised
  · simp only [HandlerFacts, finished] at facts
    refine ⟨fun _ => by simp [finished], fun _ result member => ?_⟩
    rw [history.results result member]
    exact facts
  · simp only [HandlerFacts, raised] at facts
    refine ⟨fun truthful => ?_, fun notRaised => absurd raised notRaised⟩
    obtain ⟨result, member⟩ := List.exists_mem_of_ne_nil _ returned
    have reported := history.results result member
    exact absurd ((truthful result member).1 (reported.trans facts.1)) facts.2

/-- The websocket is lost between its opening and the first send. -/
def connectionLostAtOnce : List (Action (Fin 1)) :=
  [.waitForClient, .onOpen, .connectionClosed, .raiseInHandler, .runForeverReturns, .join,
    .assignReady, .returnResult]

theorem lost_connection_reported_as_success :
    ¬∀ (settings : Settings) (actions : List (Action (Fin 1))) (state : State (Fin 1)),
      replay (step settings) initial actions = some state →
      ∀ result ∈ state.results, Truthful settings state result := by
  intro claimed
  have truthful := claimed ⟨false, fun _ => false⟩ connectionLostAtOnce _ rfl false
    (by simp [initial])
  exact absurd (truthful.1 rfl).1 (by decide)

def timeoutRun : List (Action (Fin 1)) :=
  [.waitForClient, .onOpen, .advanceHandler, .advanceHandler, .advanceHandler, .advanceHandler,
    .advanceHandler, .advanceHandler, .runForeverReturns, .join, .assignReady, .returnResult]

def timeoutSettings : Settings := ⟨true, fun sleeps => decide (0 < sleeps)⟩

theorem timeout_is_truthful :
    ∃ state, replay (step timeoutSettings) initial timeoutRun = some state ∧
      state.results = [true] ∧
      ∀ result ∈ state.results, Truthful timeoutSettings state result :=
  ⟨_, rfl, rfl, (wait_for_client_truthful_iff timeoutSettings timeoutRun _ rfl (by decide)).mpr
    (by simp [timeoutRun])⟩

end PyWebRTC.WaitForClientResult
