import PyWebRTC.WaitForClientResult

/-!
# Readiness and the data channel handle

`wait_for_client` sets `rtc_connection_ready` on every path on which it
returns. The handler that found the channel open leaves a handle behind: the
flag it looked at is raised by `OnStateChange` alone, which needs the handle. The
handler that gave up before, by the timeout or by an exception, may leave none.
-/

namespace PyWebRTC.WaitForClientReadiness

open ActionRuns WaitForClient

set_option autoImplicit false

variable {Channel : Type*}

def ReadyMeansChannel (state : State Channel) : Prop :=
  state.rtcConnectionReady = true → state.native.dataChannel ≠ none

theorem send_message_dereferences_null_iff (state : State Channel) :
    sendMessage state = .dereferencesNull ↔ ¬ReadyMeansChannel state := by
  cases ready : state.rtcConnectionReady <;> cases handle : state.native.dataChannel <;>
    simp [sendMessage, ReadyMeansChannel, ready, handle]

/-- The handler ended by the timeout, or by a statement that raised before it
found the channel open. -/
def GaveUp (state : State Channel) : Prop :=
  state.observedOpen = false ∧ (state.timeoutOccurred = true ∨ state.handler = .raised)

/-- What the past says of the flag and of the handle, and what the handle owes to
the flag of the channel. -/
structure History (past : List (Action Channel)) (state : State Channel) : Prop where
  ready : state.rtcConnectionReady = true ↔ .assignReady ∈ past
  announced : state.native.dataChannel ≠ none ↔
    ∃ channel, .native (.onDataChannel channel) ∈ past
  opened : state.native.dataChannelOpen = true → state.native.dataChannel ≠ none
  found : state.observedOpen = true → state.native.dataChannel ≠ none

theorem history_initial : History [] (initial : State Channel) := by
  constructor <;> simp [initial, DataChannelFlag.initial]

theorem history_frame {past : List (Action Channel)} {state next : State Channel}
    {action : Action Channel} (history : History past state) (notReady : action ≠ .assignReady)
    (notNative : ∀ call, action ≠ .native call)
    (ready : next.rtcConnectionReady = state.rtcConnectionReady)
    (native : next.native = state.native)
    (found : next.observedOpen = true →
      state.observedOpen = true ∨ state.native.dataChannelOpen = true) :
    History (past ++ [action]) next where
  ready := by simpa [ready, notReady.symm] using history.ready
  announced := by
    have absent : ∀ channel, Action.native (.onDataChannel channel) ≠ action :=
      fun channel => (notNative _).symm
    simpa [native, absent] using history.announced
  opened := by simpa [native] using history.opened
  found := by
    rw [native]
    exact fun observed => (found observed).elim history.found history.opened

theorem advance_handler_keeps {settings : Settings} {state next : State Channel}
    (taken : advanceHandler settings state = some next) :
    next.rtcConnectionReady = state.rtcConnectionReady ∧ next.native = state.native ∧
      (next.observedOpen = true →
        state.observedOpen = true ∨ state.native.dataChannelOpen = true) := by
  unfold advanceHandler at taken
  split at taken
  case h_1 | h_2 | h_3 => contradiction
  case h_5 =>
      split_ifs at taken with channelOpen
      · exact Option.some.inj taken ▸ ⟨rfl, rfl, fun _ => .inr channelOpen⟩
      · exact Option.some.inj taken ▸ ⟨rfl, rfl, fun _ => .inr channelOpen⟩
      · exact Option.some.inj taken ▸ ⟨rfl, rfl, .inl⟩
  case h_4 | h_7 | h_13 =>
      split_ifs at taken
      all_goals exact Option.some.inj taken ▸ ⟨rfl, rfl, .inl⟩
  all_goals exact Option.some.inj taken ▸ ⟨rfl, rfl, .inl⟩

variable [DecidableEq Channel]

/-- Only `OnDataChannel` writes the handle, it never writes null, and
`OnStateChange` needs it. -/
theorem native_step_data_channel {state next : DataChannelFlag.State Channel}
    {action : DataChannelFlag.Action Channel}
    (opened : state.dataChannelOpen = true → state.dataChannel ≠ none)
    (taken : DataChannelFlag.step state action = some next) :
    (next.dataChannelOpen = true → next.dataChannel ≠ none) ∧
      ((∃ channel, action = .onDataChannel channel ∧ next.dataChannel = some channel) ∨
        (∀ channel, action ≠ .onDataChannel channel) ∧
          next.dataChannel = state.dataChannel) := by
  cases action with
  | onDataChannel channel =>
      obtain rfl := Option.some.inj taken
      exact ⟨by simp, .inl ⟨channel, rfl, rfl⟩⟩
  | transition channel target =>
      simp only [DataChannelFlag.step] at taken
      split_ifs at taken
      obtain rfl := Option.some.inj taken
      exact ⟨opened, .inr ⟨by simp, rfl⟩⟩
  | onStateChange =>
      simp only [DataChannelFlag.step] at taken
      split at taken
      case h_1 channel pending isCurrent counted =>
          obtain rfl := Option.some.inj taken
          exact ⟨by simp [isCurrent], .inr ⟨by simp, rfl⟩⟩
      case h_2 => contradiction

theorem history_native {past : List (Action Channel)} {state : State Channel}
    {native : DataChannelFlag.State Channel} {action : DataChannelFlag.Action Channel}
    (history : History past state)
    (taken : DataChannelFlag.step state.native action = some native) :
    History (past ++ [.native action]) { state with native := native } := by
  obtain ⟨opened, ⟨channel, rfl, handle⟩ | ⟨other, handle⟩⟩ :=
    native_step_data_channel history.opened taken
  · refine ⟨by simpa using history.ready, ?_, opened, fun _ => by simp [handle]⟩
    simp only [handle, ne_eq, reduceCtorEq, not_false_eq_true, true_iff]
    exact ⟨channel, by simp⟩
  · have absent : ∀ channel, DataChannelFlag.Action.onDataChannel channel ≠ action :=
      fun channel => (other channel).symm
    refine ⟨by simpa using history.ready, by simpa [handle, absent] using history.announced, opened,
      ?_⟩
    exact fun observed => handle ▸ history.found observed

theorem history_step {settings : Settings} {past : List (Action Channel)}
    {state next : State Channel} {action : Action Channel} (history : History past state)
    (taken : step settings state action = some next) : History (past ++ [action]) next := by
  replace taken := perform_of_step taken
  cases action with
  | assignReady =>
      simp only [perform] at taken
      split_ifs at taken
      obtain rfl := Option.some.inj taken
      exact ⟨by simp, by simpa using history.announced, history.opened, history.found⟩
  | native action =>
      simp only [perform, Option.map_eq_some_iff] at taken
      obtain ⟨native, moved, rfl⟩ := taken
      exact history_native history moved
  | advanceHandler =>
      obtain ⟨ready, native, found⟩ := advance_handler_keeps taken
      exact history_frame history (by simp) (by simp) ready native found
  | raiseInHandler =>
      simp only [perform, raiseInHandler] at taken
      split at taken
      case h_5 => contradiction
      all_goals
        obtain rfl := Option.some.inj taken
        exact history_frame history (by simp) (by simp) rfl rfl .inl
  | join =>
      simp only [perform, join] at taken
      split_ifs at taken
      split at taken
      case h_4 => contradiction
      all_goals
        obtain rfl := Option.some.inj taken
        exact history_frame history (by simp) (by simp) rfl rfl .inl
  | waitForClient | onOpen | onMessage | answerFails | connectionClosed | runForeverReturns
  | returnResult | offerFails =>
      simp only [perform, onOpen] at taken
      split_ifs at taken
      all_goals
        obtain rfl := Option.some.inj taken
        exact history_frame history (by simp) (by simp) rfl rfl .inl

theorem history_reached {settings : Settings} {actions : List (Action Channel)}
    {state : State Channel} (run : replay (step settings) initial actions = some state) :
    History actions state :=
  replay_history History history_initial (fun _ _ _ _ holds taken => history_step holds taken) run

/-- Where readiness is declared the handler gave up, or it found the channel open
and there is a handle. -/
theorem gave_up_or_channel {settings : Settings} {actions : List (Action Channel)}
    {state next : State Channel} (run : replay (step settings) initial actions = some state)
    (taken : step settings state .assignReady = some next) :
    GaveUp state ∨ state.native.dataChannel ≠ none := by
  have result : WaitForClientResult.History settings actions state :=
    replay_history (WaitForClientResult.History settings)
      (WaitForClientResult.history_initial settings)
      (fun _ _ _ _ holds taken => WaitForClientResult.history_step holds taken) run
  have declaring : state.caller = .assignReady := by
    have performed := perform_of_step taken
    simp only [perform] at performed
    split_ifs at performed with stands
    exact stands
  cases observed : state.observedOpen with
  | true => exact .inr ((history_reached run).found observed)
  | false =>
      refine .inl ⟨observed, ?_⟩
      rcases result.joined (.inl declaring) with finished | raised
      · left
        have facts := result.facts
        simp only [WaitForClientResult.HandlerFacts, finished] at facts
        by_contra inTime
        have setUp := facts.1 (by simpa using inTime)
        simp [setUp.1] at observed
      · exact .inr raised

/-- Where a call declares readiness after the handler gave up, the remote side's
channel was announced before. -/
def AnnouncedWhereGivenUp (settings : Settings) (actions : List (Action Channel)) : Prop :=
  ∀ before after state, actions = before ++ .assignReady :: after →
    replay (step settings) initial before = some state → GaveUp state →
      ∃ channel, .native (.onDataChannel channel) ∈ before

theorem announced_where_given_up_append {settings : Settings} {first rest : List (Action Channel)}
    (announced : ∃ channel, .native (.onDataChannel channel) ∈ first)
    (notReady : .assignReady ∉ first) : AnnouncedWhereGivenUp settings (first ++ rest) := by
  obtain ⟨channel, member⟩ := announced
  intro before after state split _ _
  refine ⟨channel, ?_⟩
  rcases List.append_eq_append_iff.mp split with ⟨middle, rfl, -⟩ | ⟨middle, rfl, tail⟩
  · exact List.mem_append_left _ member
  · cases middle with
    | nil => simpa using member
    | cons action middle =>
        obtain ⟨rfl, -⟩ := List.cons.inj tail
        simp at notReady

/-- In every run, in every state passed through, readiness means a handle and
`send_message` finds one, if and only if each call that had to give up found the
channel announced. -/
theorem ready_means_channel_iff (settings : Settings) (actions : List (Action Channel))
    (last : State Channel) (run : replay (step settings) initial actions = some last) :
    HoldsAlong (fun state => ReadyMeansChannel state ∧ sendMessage state ≠ .dereferencesNull)
        (step settings) initial actions ↔
      AnnouncedWhereGivenUp settings actions := by
  have finds : (fun state : State Channel =>
      ReadyMeansChannel state ∧ sendMessage state ≠ .dereferencesNull) = ReadyMeansChannel := by
    funext state
    rw [Ne, send_message_dereferences_null_iff, not_not, and_self]
  rw [finds, holds_along_iff_prefixes]
  constructor
  · rintro holds before after middle rfl reached -
    obtain ⟨reachedMiddle, split, continued⟩ := replay_append.mp run
    obtain ⟨next, taken, -⟩ := replay_cons.mp continued
    have reachedNext : replay (step settings) initial (before ++ [.assignReady]) = some next :=
      replay_append.mpr ⟨reachedMiddle, split, replay_cons.mpr ⟨next, taken, rfl⟩⟩
    have history := history_reached reachedNext
    have means := holds (before ++ [.assignReady]) after next (by simp) reachedNext
    have handle := means (history.ready.mpr (by simp))
    simpa using history.announced.mp handle
  · rintro announced before after state rfl reached ready
    have history := history_reached reached
    obtain ⟨first, second, rfl⟩ := List.append_of_mem (history.ready.mp ready)
    obtain ⟨middle, reachedMiddle, continued⟩ := replay_append.mp reached
    obtain ⟨next, taken, -⟩ := replay_cons.mp continued
    have earlier : ∃ channel, .native (.onDataChannel channel) ∈ first := by
      rcases gave_up_or_channel reachedMiddle taken with gaveUp | handle
      · exact announced first (second ++ after) middle (by simp) reachedMiddle gaveUp
      · exact (history_reached reachedMiddle).announced.mp handle
    obtain ⟨channel, member⟩ := earlier
    exact history.announced.mpr ⟨channel, by simp [member]⟩

/-- The timeout fires and no channel was ever offered; the next message is sent
through a null handle. -/
def timeoutWithoutChannel : List (Action (Fin 1)) :=
  [.waitForClient, .onOpen, .advanceHandler, .advanceHandler, .advanceHandler, .advanceHandler,
    .advanceHandler, .advanceHandler, .runForeverReturns, .join, .assignReady]

theorem timeout_leaves_ready_without_channel :
    ¬∀ (settings : Settings) (actions : List (Action (Fin 1))) (state : State (Fin 1)),
      replay (step settings) initial actions = some state →
        ReadyMeansChannel state ∧ sendMessage state ≠ .dereferencesNull := by
  intro claimed
  have means := (claimed ⟨true, fun sleeps => decide (0 < sleeps)⟩ timeoutWithoutChannel _ rfl).1
  exact means rfl rfl

theorem announced_channel_is_ready :
    HoldsAlong (fun state => ReadyMeansChannel state ∧ sendMessage state ≠ .dereferencesNull)
      (step ⟨true, fun sleeps => decide (0 < sleeps)⟩) (initial : State (Fin 1))
      ([.waitForClient, .onOpen, .native (.onDataChannel ⟨0, Nat.one_pos⟩)] ++
        [.advanceHandler, .advanceHandler, .advanceHandler, .advanceHandler, .advanceHandler,
          .advanceHandler, .runForeverReturns, .join, .assignReady]) :=
  (ready_means_channel_iff _ _ _ rfl).mpr
    (announced_where_given_up_append ⟨⟨0, Nat.one_pos⟩, by simp⟩ (by simp))

end PyWebRTC.WaitForClientReadiness
