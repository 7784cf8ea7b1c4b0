import PyWebRTC.ActionRuns
import PyWebRTC.DoubleSum
import PyWebRTC.WaitForClient

/-!
# The timeout of `_signaling_handler`

The handler waits for the data channel in sleeps of a tenth of a second, and
adds 0.1 to `currentSleep` for each. Neither 0.1 nor the sums are exact; the
comparison with `timeout` is. The timeout comes at the right sleep all the same,
give or take one. With it the thread ends, unless a request for a description
failed before and Python stands still.
-/

namespace PyWebRTC.SignalingTimeout

open ActionRuns DoubleRounding DoubleNearest DoubleSum WaitForClient

set_option autoImplicit false

/-- The value of `currentSleep` after so many additions of the literal 0.1. -/
def currentSleep (sleeps : Nat) : Option Double :=
  (roundRatio false 1 10).bind fun tenth => repeatedSum tenth sleeps

/-- The test `currentSleep > timeout`. Python compares a float with a number of
another type by their exact values. -/
def exceeds (timeout : ℚ) (sleeps : Nat) : Bool :=
  match currentSleep sleeps with
  | some current => timeout < size current
  | none => true

/-- The longest timeout considered, about twelve days. -/
def longest : ℚ := 2 ^ 20

theorem current_sleep_close {sleeps : Nat} (few : sleeps ≤ 2 ^ 24) :
    ∃ current, currentSleep sleeps = some current ∧
      |size current - sleeps / 10| < 1 / 100 := by
  have bound : (sleeps : ℚ) ≤ 2 ^ 24 := by exact_mod_cast few
  have ten : 0 < 10 := by norm_num
  obtain ⟨tenth, rounded, -, close⟩ :=
    @round_ratio_close 1 10 ten false (-3) (by norm_num) (by norm_num) (by norm_num)
  obtain ⟨current, made, drift⟩ := repeated_sum_close 21 sleeps (by norm_num) close
    (by norm_num) (by norm_num) (by norm_num; linarith)
  refine ⟨current, by rw [currentSleep, rounded, Option.bind_some, made], ?_⟩
  have small : (sleeps : ℚ) * (2 ^ (-3 - 54 : Int) + 2 ^ (21 - 54 : Int)) < 1 / 100 := by
    norm_num
    linarith
  have exact : (sleeps : ℚ) * ((1 : Nat) / (10 : Nat)) = sleeps / 10 := by
    push_cast
    ring
  rw [exact] at drift
  exact lt_of_le_of_lt drift small

theorem not_exceeds_of_le {timeout : ℚ} {sleeps : Nat} (bounded : timeout ≤ longest)
    (before : (sleeps : ℚ) / 10 ≤ timeout - 1 / 100) : exceeds timeout sleeps = false := by
  have few : (sleeps : ℚ) ≤ (2 ^ 24 : Nat) := by
    unfold longest at bounded
    push_cast
    linarith
  obtain ⟨current, made, close⟩ := current_sleep_close (by exact_mod_cast few)
  have below := (abs_lt.mp close).2
  simp only [exceeds, made, decide_eq_false_iff_not, not_lt]
  linarith

theorem exceeds_of_le {timeout : ℚ} {sleeps : Nat} (few : sleeps ≤ 2 ^ 24)
    (after : timeout + 1 / 100 ≤ (sleeps : ℚ) / 10) : exceeds timeout sleeps = true := by
  obtain ⟨current, made, close⟩ := current_sleep_close few
  have above := (abs_lt.mp close).1
  simp only [exceeds, made, decide_eq_true_eq]
  linarith

/-- The first number of sleeps that is surely too many. -/
def lastSleep (timeout : ℚ) : Nat := ⌈10 * timeout + 1 / 10⌉₊

theorem last_sleep_lt {timeout : ℚ} (nonneg : 0 ≤ timeout) :
    (lastSleep timeout : ℚ) < 10 * timeout + 11 / 10 := by
  have upper := Nat.ceil_lt_add_one (show 0 ≤ 10 * timeout + 1 / 10 by linarith)
  unfold lastSleep
  linarith

theorem exceeds_last_sleep {timeout : ℚ} (nonneg : 0 ≤ timeout) (bounded : timeout ≤ longest) :
    exceeds timeout (lastSleep timeout) = true := by
  have upper := last_sleep_lt nonneg
  have few : (lastSleep timeout : ℚ) ≤ (2 ^ 24 : Nat) := by
    unfold longest at bounded
    push_cast
    linarith
  apply exceeds_of_le (by exact_mod_cast few)
  have lower := Nat.le_ceil (10 * timeout + 1 / 10)
  rw [← lastSleep] at lower
  linarith

/-! ## The handler's steps -/

variable {Channel : Type*}

def isHandlerStep : Action Channel → Bool
  | .advanceHandler | .raiseInHandler | .offerFails => true
  | _ => false

/-- A turn of the waiting loop; the five seconds after it are not counted. -/
def isSleep (state : State Channel) : Action Channel → Bool
  | .advanceHandler =>
      match state.handler with
      | .sleep _ => true
      | _ => false
  | _ => false

def HandlerPoint.Running : HandlerPoint → Prop
  | .unstarted | .finished | .raised => False
  | _ => True

theorem handler_moves (settings : Settings) {state : State Channel}
    (running : HandlerPoint.Running state.handler) :
    (advanceHandler settings state).isSome ∨ (raiseInHandler state).isSome := by
  cases stands : state.handler with
  | unstarted | finished | raised => simp [stands, HandlerPoint.Running] at running
  | sendKind | sendOffer => exact .inr (by simp [raiseInHandler, stands])
  | dataChannelOpen sleeps | compareTimeout sleeps =>
      left
      simp only [advanceHandler, stands]
      split <;> rfl
  | _ => exact .inl (by simp [advanceHandler, stands])

/-! ## How often it sleeps -/

/-- What is known after so many sleeps. The flag is set after the first number of
sleeps that the test found too many. -/
structure Slept (settings : Settings) (limit sleeps : Nat) (state : State Channel) : Prop where
  bounded : sleeps ≤ limit
  exceeded : state.timeoutOccurred = true → settings.exceeds sleeps = true
  stands : match state.handler with
    | .unstarted | .sendKind => sleeps = 0 ∧ 0 < limit ∧ state.timeoutOccurred = false
    | .dataChannelOpen made | .sleep made =>
        sleeps = made ∧ made < limit ∧ state.timeoutOccurred = false
    | .compareTimeout made => sleeps = made ∧ state.timeoutOccurred = false
    | .timeoutOccurred => settings.exceeds sleeps = true
    | _ => True

theorem slept_initial (settings : Settings) {limit : Nat} (positive : 0 < limit) :
    Slept settings limit 0 (initial : State Channel) where
  bounded := Nat.zero_le _
  exceeded := by simp [initial]
  stands := ⟨rfl, positive, rfl⟩

theorem slept_advance {settings : Settings} {limit sleeps : Nat} {state next : State Channel}
    (limiting : settings.exceeds limit = true) (slept : Slept settings limit sleeps state)
    (taken : advanceHandler settings state = some next) :
    Slept settings limit (sleeps + (isSleep state .advanceHandler).toNat) next := by
  obtain ⟨caller, websocket, handler, frozen, ready, timeoutOccurred, native, observed, sent,
    results⟩ := state
  obtain ⟨bounded, exceeded, stands⟩ := slept
  cases handler with
  | unstarted | finished | raised => contradiction
  | sendKind =>
      obtain ⟨rfl, positive, rfl⟩ := stands
      simp only [advanceHandler] at taken
      split_ifs at taken
      obtain rfl := Option.some.inj taken
      exact ⟨bounded, exceeded, rfl, positive, rfl⟩
  | dataChannelOpen made =>
      obtain ⟨rfl, before, rfl⟩ := stands
      simp only [advanceHandler] at taken
      split_ifs at taken with channelOpen video
      · exact Option.some.inj taken ▸ ⟨bounded, exceeded, trivial⟩
      · exact Option.some.inj taken ▸ ⟨bounded, exceeded, trivial⟩
      · exact Option.some.inj taken ▸ ⟨bounded, exceeded, rfl, before, rfl⟩
  | sleep made =>
      obtain ⟨rfl, before, rfl⟩ := stands
      obtain rfl := Option.some.inj taken
      exact ⟨before, by simp, rfl, rfl⟩
  | compareTimeout made =>
      obtain ⟨rfl, rfl⟩ := stands
      simp only [advanceHandler] at taken
      split_ifs at taken with late
      · obtain rfl := Option.some.inj taken
        exact ⟨bounded, exceeded, late⟩
      · obtain rfl := Option.some.inj taken
        have different : sleeps ≠ limit := by
          rintro rfl
          exact late limiting
        exact ⟨bounded, exceeded, rfl, lt_of_le_of_ne bounded different, rfl⟩
  | timeoutOccurred =>
      obtain rfl := Option.some.inj taken
      exact ⟨bounded, fun _ => stands, trivial⟩
  | sendOffer =>
      simp only [advanceHandler] at taken
      split_ifs at taken
      obtain rfl := Option.some.inj taken
      exact ⟨bounded, exceeded, trivial⟩
  | closeOnTimeout | close | addTracks | getSDP | settle =>
      obtain rfl := Option.some.inj taken
      exact ⟨bounded, exceeded, trivial⟩

theorem slept_raise {settings : Settings} {limit sleeps : Nat} {state next : State Channel}
    (slept : Slept settings limit sleeps state) (taken : raiseInHandler state = some next) :
    Slept settings limit sleeps next := by
  unfold raiseInHandler at taken
  split at taken
  case h_5 => contradiction
  all_goals
    obtain rfl := Option.some.inj taken
    exact ⟨slept.bounded, slept.exceeded, trivial⟩

/-! ## How long it runs -/

/-- The statements that the handler has left when it sleeps up to the limit. -/
def rank (limit : Nat) : HandlerPoint → Nat
  | .unstarted | .sendKind => 3 * limit + 4
  | .dataChannelOpen made => 3 * (limit - made) + 3
  | .sleep made => 3 * (limit - made) + 2
  | .compareTimeout made => 3 * (limit - made) + 4
  | .addTracks => 5
  | .getSDP => 4
  | .sendOffer => 3
  | .timeoutOccurred | .settle => 2
  | .closeOnTimeout | .close => 1
  | .finished | .raised => 0

theorem rank_advance {settings : Settings} {limit sleeps : Nat} {state next : State Channel}
    (slept : Slept settings limit sleeps state)
    (taken : advanceHandler settings state = some next) :
    rank limit next.handler + 1 ≤ rank limit state.handler := by
  obtain ⟨caller, websocket, handler, frozen, ready, timeoutOccurred, native, observed, sent,
    results⟩ := state
  obtain ⟨bounded, -, stands⟩ := slept
  cases handler with
  | unstarted | finished | raised => contradiction
  | dataChannelOpen made =>
      have before : made < limit := stands.2.1
      simp only [advanceHandler] at taken
      split_ifs at taken <;> obtain rfl := Option.some.inj taken <;> simp only [rank] <;> omega
  | sleep made =>
      have before : made < limit := stands.2.1
      obtain rfl := Option.some.inj taken
      simp only [rank]
      omega
  | sendKind | compareTimeout | sendOffer =>
      simp only [advanceHandler] at taken
      split_ifs at taken <;> obtain rfl := Option.some.inj taken <;> simp only [rank] <;> omega
  | _ =>
      obtain rfl := Option.some.inj taken
      simp [rank]

theorem rank_raise {limit : Nat} {state next : State Channel}
    (taken : raiseInHandler state = some next) :
    rank limit next.handler + 1 ≤ rank limit state.handler := by
  unfold raiseInHandler at taken
  split at taken
  case h_5 => contradiction
  all_goals
    next stands =>
      obtain rfl := Option.some.inj taken
      simp [rank, stands]

/-- The statements left, none when Python stands still. -/
def statementsLeft (limit : Nat) (state : State Channel) : Nat :=
  if state.frozen then 0 else rank limit state.handler

theorem advance_handler_frozen {settings : Settings} {state next : State Channel}
    (taken : advanceHandler settings state = some next) : next.frozen = state.frozen := by
  unfold advanceHandler at taken
  split at taken <;> try split_ifs at taken
  all_goals first
    | contradiction
    | exact Option.some.inj taken ▸ rfl

theorem raise_in_handler_frozen {state next : State Channel}
    (taken : raiseInHandler state = some next) : next.frozen = state.frozen := by
  unfold raiseInHandler at taken
  split at taken
  case h_5 => contradiction
  all_goals exact Option.some.inj taken ▸ rfl

variable [DecidableEq Channel]

theorem step_eq_none_of_frozen {settings : Settings} {state : State Channel}
    {action : Action Channel} (frozen : state.frozen = true) (needsLock : action.needsLock = true) :
    step settings state action = none := by
  simp [step, frozen, needsLock]

theorem not_frozen_of_step {settings : Settings} {state next : State Channel}
    {action : Action Channel} (taken : step settings state action = some next)
    (needsLock : action.needsLock = true) : state.frozen = false := by
  by_contra frozen
  rw [step_eq_none_of_frozen (by simpa using frozen) needsLock] at taken
  contradiction

/-- The other threads leave the handler alone, but for its start. -/
theorem perform_cases {settings : Settings} {state next : State Channel} {action : Action Channel}
    (taken : perform settings state action = some next) :
    (action = .advanceHandler ∧ advanceHandler settings state = some next) ∨
      (action = .raiseInHandler ∧ raiseInHandler state = some next) ∨
      (action = .offerFails ∧ state.handler = .getSDP ∧ next = { state with frozen := true }) ∨
      (isHandlerStep action = false ∧ next.timeoutOccurred = state.timeoutOccurred ∧
        (next.handler = state.handler ∨
          (state.handler = .unstarted ∧ next.handler = .sendKind))) := by
  cases action with
  | advanceHandler => exact .inl ⟨rfl, taken⟩
  | raiseInHandler => exact .inr (.inl ⟨rfl, taken⟩)
  | offerFails =>
      simp only [perform] at taken
      split_ifs at taken with stands
      exact .inr (.inr (.inl ⟨rfl, stands, (Option.some.inj taken).symm⟩))
  | onOpen =>
      simp only [perform, onOpen] at taken
      split_ifs at taken with connecting stands
      · obtain rfl := Option.some.inj taken
        exact .inr (.inr (.inr ⟨rfl, rfl, .inr ⟨stands, rfl⟩⟩))
      · obtain rfl := Option.some.inj taken
        exact .inr (.inr (.inr ⟨rfl, rfl, .inl rfl⟩))
  | join =>
      simp only [perform, join] at taken
      split_ifs at taken
      split at taken
      case h_4 => contradiction
      all_goals
        obtain rfl := Option.some.inj taken
        exact .inr (.inr (.inr ⟨rfl, rfl, .inl rfl⟩))
  | native action =>
      simp only [perform, Option.map_eq_some_iff] at taken
      obtain ⟨native, -, rfl⟩ := taken
      exact .inr (.inr (.inr ⟨rfl, rfl, .inl rfl⟩))
  | _ =>
      simp only [perform] at taken
      split_ifs at taken
      all_goals
        obtain rfl := Option.some.inj taken
        exact .inr (.inr (.inr ⟨rfl, rfl, .inl rfl⟩))

theorem frozen_perform {settings : Settings} {state next : State Channel} {action : Action Channel}
    (taken : perform settings state action = some next) :
    next.frozen = true ↔ state.frozen = true ∨ action = .offerFails ∨ action = .answerFails := by
  cases action with
  | advanceHandler => simp [advance_handler_frozen taken]
  | raiseInHandler => simp [raise_in_handler_frozen taken]
  | join =>
      simp only [perform, join] at taken
      split_ifs at taken
      split at taken
      case h_4 => contradiction
      all_goals
        obtain rfl := Option.some.inj taken
        simp
  | native action =>
      simp only [perform, Option.map_eq_some_iff] at taken
      obtain ⟨native, -, rfl⟩ := taken
      simp
  | _ =>
      simp only [perform, onOpen] at taken
      split_ifs at taken
      all_goals
        obtain rfl := Option.some.inj taken
        simp

theorem slept_step {settings : Settings} {limit sleeps : Nat} {state next : State Channel}
    {action : Action Channel} (limiting : settings.exceeds limit = true)
    (slept : Slept settings limit sleeps state) (taken : step settings state action = some next) :
    Slept settings limit (sleeps + (isSleep state action).toNat) next := by
  obtain ⟨rfl, moved⟩ | ⟨rfl, raised⟩ | ⟨rfl, -, rfl⟩ | ⟨other, timeoutOccurred, handler⟩ :=
    perform_cases (perform_of_step taken)
  · exact slept_advance limiting slept moved
  · exact slept_raise slept raised
  · exact ⟨slept.bounded, slept.exceeded, slept.stands⟩
  · have awake : isSleep state action = false := by
      cases action <;> first | rfl | contradiction
    rw [awake]
    refine ⟨slept.bounded, timeoutOccurred ▸ slept.exceeded, ?_⟩
    have stands := slept.stands
    rcases handler with same | ⟨unstarted, started⟩
    · rw [same, timeoutOccurred]
      exact stands
    · rw [unstarted] at stands
      rw [started, timeoutOccurred]
      exact stands

theorem statements_left_step {settings : Settings} {limit sleeps : Nat}
    {state next : State Channel} {action : Action Channel}
    (slept : Slept settings limit sleeps state) (taken : step settings state action = some next) :
    statementsLeft limit next + (isHandlerStep action).toNat ≤ statementsLeft limit state := by
  have frozen := frozen_perform (perform_of_step taken)
  obtain ⟨rfl, moved⟩ | ⟨rfl, raised⟩ | ⟨rfl, stands, rfl⟩ | ⟨other, -, handler⟩ :=
    perform_cases (perform_of_step taken)
  · have running := not_frozen_of_step taken rfl
    simpa [statementsLeft, advance_handler_frozen moved, running, isHandlerStep] using
      rank_advance slept moved
  · have running := not_frozen_of_step taken rfl
    simpa [statementsLeft, raise_in_handler_frozen raised, running, isHandlerStep] using
      rank_raise raised
  · have running := not_frozen_of_step taken rfl
    simp [statementsLeft, running, stands, rank, isHandlerStep]
  · have same : rank limit next.handler = rank limit state.handler := by
      rcases handler with same | ⟨unstarted, started⟩
      · rw [same]
      · rw [unstarted, started]
        rfl
    rw [other, statementsLeft, statementsLeft, same]
    by_cases stopped : state.frozen = true
    · simp [frozen.mpr (.inl stopped)]
    · rw [if_neg stopped]
      split <;> simp

/-! ## On every run -/

theorem last_sleep_pos {timeout : ℚ} (nonneg : 0 ≤ timeout) : 0 < lastSleep timeout :=
  Nat.ceil_pos.mpr (by linarith)

def sleepsTaken (settings : Settings) (actions : List (Action Channel)) : Nat :=
  countSteps isSleep (step settings) initial actions

theorem slept_of_replay {settings : Settings} {limit : Nat} {actions : List (Action Channel)}
    {last : State Channel} (positive : 0 < limit) (limiting : settings.exceeds limit = true)
    (run : replay (step settings) initial actions = some last) :
    Slept settings limit (sleepsTaken settings actions) last := by
  have slept := replay_count (Slept settings limit) (slept_initial settings positive)
    (fun _ _ _ _ slept taken => slept_step limiting slept taken) run
  rwa [Nat.zero_add] at slept

/-- Whatever the other threads and the network do, the waiting loop sleeps at most
a tenth of a second past the timeout, and gives up no sooner than at the timeout,
within a hundredth of a second in each case. -/
theorem timeout_on_time {timeout : ℚ} {useVideo : Bool} {actions : List (Action Channel)}
    {last : State Channel} (nonneg : 0 ≤ timeout) (bounded : timeout ≤ longest)
    (run : replay (step ⟨useVideo, exceeds timeout⟩) initial actions = some last) :
    (sleepsTaken ⟨useVideo, exceeds timeout⟩ actions : ℚ) / 10 < timeout + 1 / 10 + 1 / 100 ∧
      (last.timeoutOccurred = true →
        timeout - 1 / 100 < (sleepsTaken ⟨useVideo, exceeds timeout⟩ actions : ℚ) / 10) := by
  have slept := slept_of_replay (last_sleep_pos nonneg) (exceeds_last_sleep nonneg bounded) run
  constructor
  · have atMost : (sleepsTaken ⟨useVideo, exceeds timeout⟩ actions : ℚ) ≤ lastSleep timeout := by
      exact_mod_cast slept.bounded
    have upper := last_sleep_lt nonneg
    linarith
  · intro timedOut
    by_contra early
    have exceeded : exceeds timeout (sleepsTaken ⟨useVideo, exceeds timeout⟩ actions) = true :=
      slept.exceeded timedOut
    rw [not_exceeds_of_le bounded (not_lt.mp early)] at exceeded
    contradiction

/-- With no time to wait, the handler still sleeps once. -/
def oneSleepRun : List (Action (Fin 1)) :=
  [.waitForClient, .onOpen, .advanceHandler, .advanceHandler, .advanceHandler, .advanceHandler,
    .advanceHandler]

theorem exceeds_zero_one : exceeds 0 1 = true := by decide +kernel

theorem one_sleep_run_times_out :
    ∃ last, replay (step ⟨true, exceeds 0⟩) initial oneSleepRun = some last ∧
      (sleepsTaken ⟨true, exceeds 0⟩ oneSleepRun : ℚ) / 10 < 0 + 1 / 10 + 1 / 100 ∧
      0 - 1 / 100 < (sleepsTaken ⟨true, exceeds 0⟩ oneSleepRun : ℚ) / 10 := by
  have outcome : (replay (step ⟨true, exceeds 0⟩) initial oneSleepRun).map
      State.timeoutOccurred = some true := by
    simp [oneSleepRun, replay, step, perform, Action.needsLock, onOpen, advanceHandler, initial,
      DataChannelFlag.initial, exceeds_zero_one]
  obtain ⟨last, run, timedOut⟩ := Option.map_eq_some_iff.mp outcome
  have onTime := timeout_on_time le_rfl (by norm_num [longest]) run
  exact ⟨last, run, onTime.1, onTime.2 timedOut⟩

theorem frozen_of_replay {settings : Settings} {actions : List (Action Channel)}
    {last : State Channel} (run : replay (step settings) initial actions = some last) :
    last.frozen = true ↔ .offerFails ∈ actions ∨ .answerFails ∈ actions := by
  apply replay_history
    (fun past (state : State Channel) =>
      state.frozen = true ↔ .offerFails ∈ past ∨ .answerFails ∈ past)
    (by simp [initial]) _ run
  intro past state action next before taken
  rw [frozen_perform (perform_of_step taken), before]
  simp only [List.mem_append, List.mem_singleton, eq_comm]
  tauto

/-- The signalling thread takes no more than 30 statements for each second of the
timeout and seven others. As long as no request for a description fails there is
always one that it can take, or that raises, until its end; and from the first
that fails on it takes none. -/
theorem signaling_thread_ends {timeout : ℚ} {useVideo : Bool} {actions : List (Action Channel)}
    {last : State Channel} (nonneg : 0 ≤ timeout) (bounded : timeout ≤ longest)
    (run : replay (step ⟨useVideo, exceeds timeout⟩) initial actions = some last) :
    (actions.countP isHandlerStep : ℚ) < 30 * timeout + 73 / 10 ∧
      (.offerFails ∉ actions → .answerFails ∉ actions → HandlerPoint.Running last.handler →
        (step ⟨useVideo, exceeds timeout⟩ last .advanceHandler).isSome ∨
          (step ⟨useVideo, exceeds timeout⟩ last .raiseInHandler).isSome) ∧
      (.offerFails ∈ actions ∨ .answerFails ∈ actions → ∀ action, isHandlerStep action = true →
        step ⟨useVideo, exceeds timeout⟩ last action = none) := by
  have frozen := frozen_of_replay run
  refine ⟨?_, ?_, ?_⟩
  · have positive := last_sleep_pos nonneg
    have limiting := exceeds_last_sleep nonneg bounded
    have paid := count_steps_add_rank_le (fun _ action => isHandlerStep action)
      (statementsLeft (lastSleep timeout))
      (fun state => ∃ sleeps, Slept ⟨useVideo, exceeds timeout⟩ (lastSleep timeout) sleeps state)
      ⟨0, slept_initial _ positive⟩
      (fun _ _ _ ⟨_, slept⟩ taken => ⟨_, slept_step limiting slept taken⟩)
      (fun _ _ _ ⟨_, slept⟩ taken => statements_left_step slept taken) run
    rw [count_steps_eq_count_p isHandlerStep run] at paid
    have few : actions.countP isHandlerStep ≤ 3 * lastSleep timeout + 4 :=
      (Nat.le_add_right _ _).trans paid
    have few : (actions.countP isHandlerStep : ℚ) ≤ 3 * lastSleep timeout + 4 := by
      exact_mod_cast few
    have upper := last_sleep_lt nonneg
    linarith
  · intro noOffer noAnswer running
    have moving : last.frozen = false := by
      rw [Bool.eq_false_iff, Ne, frozen, not_or]
      exact ⟨noOffer, noAnswer⟩
    simpa [step, moving, perform] using handler_moves ⟨useVideo, exceeds timeout⟩ running
  · intro failed action isHandler
    apply step_eq_none_of_frozen (frozen.mpr failed)
    cases action <;> first | rfl | contradiction

/-- With video, the channel opens in time and WebRTC makes no offer. -/
def failingOfferRun : List (Action (Fin 1)) :=
  [.waitForClient, .onOpen, .advanceHandler, .native (.onDataChannel ⟨0, Nat.one_pos⟩),
    .native (.transition ⟨0, Nat.one_pos⟩ .kOpen), .native .onStateChange, .advanceHandler,
    .advanceHandler, .offerFails]

theorem failing_offer_stops_thread :
    ∃ last, replay (step ⟨true, exceeds 0⟩) initial failingOfferRun = some last ∧
      (failingOfferRun.countP isHandlerStep : ℚ) < 30 * 0 + 73 / 10 ∧
      ∀ action, isHandlerStep action = true → step ⟨true, exceeds 0⟩ last action = none := by
  refine ⟨_, rfl, ?_⟩
  have ends := @signaling_thread_ends _ _ 0 true failingOfferRun _ le_rfl
    (by norm_num [longest]) rfl
  exact ⟨ends.1, ends.2.2 (.inl (by simp [failingOfferRun]))⟩

/-- Fifty sleeps of a tenth do not exceed five seconds here: the sums fall short. -/
example : exceeds 5 50 = false ∧ exceeds 5 51 = true := by decide +kernel

end PyWebRTC.SignalingTimeout
