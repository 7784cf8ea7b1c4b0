import PyWebRTC.ActionRuns
import Mathlib.Logic.Function.Basic
import Mathlib.Tactic.SplitIfs

/-!
# `data_channel_open` and the current channel

`OnDataChannel` replaces the channel handle and registers the observer;
`OnStateChange` reads the state of whatever channel is then current and writes
the flag for kOpen and kClosed only. A channel moves forward through its
states by itself; a move is reported when the observer was registered before
it, also for a channel that has been replaced.
-/

namespace PyWebRTC.DataChannelFlag

open ActionRuns

set_option autoImplicit false

/-- `webrtc::DataChannelInterface::DataState`. A transition may skip forward and
never goes back. -/
inductive DataState where
  | kConnecting
  | kOpen
  | kClosing
  | kClosed
  deriving DecidableEq, Repr

def DataState.rank : DataState → Nat
  | .kConnecting => 0
  | .kOpen => 1
  | .kClosing => 2
  | .kClosed => 3

variable {Channel : Type*}

/-- `pending` counts the moves that are still to be reported through
`OnStateChange`. `reported` is a record: the states in which its calls found the
current channel, in order. -/
structure State (Channel : Type*) where
  dataChannel : Option Channel
  dataChannelOpen : Bool
  channelState : Channel → DataState
  observed : Channel → Bool
  pending : Nat
  reported : List DataState

inductive Action (Channel : Type*) where
  | onDataChannel (channel : Channel)
  | transition (channel : Channel) (target : DataState)
  | onStateChange

def initial : State Channel where
  dataChannel := none
  dataChannelOpen := false
  channelState := fun _ => .kConnecting
  observed := fun _ => false
  pending := 0
  reported := []

def flagAfter (channelOpen : Bool) : DataState → Bool
  | .kOpen => true
  | .kClosed => false
  | .kConnecting | .kClosing => channelOpen

variable [DecidableEq Channel]

def step (state : State Channel) : Action Channel → Option (State Channel)
  | .onDataChannel channel =>
      some { state with
        dataChannel := some channel
        observed := Function.update state.observed channel true }
  | .transition channel target =>
      if (state.channelState channel).rank < target.rank then
        some { state with
          channelState := Function.update state.channelState channel target
          pending := state.pending + (state.observed channel).toNat }
      else none
  | .onStateChange =>
      match state.dataChannel, state.pending with
      | some channel, pending + 1 =>
          some { state with
            dataChannelOpen := flagAfter state.dataChannelOpen (state.channelState channel)
            pending := pending
            reported := state.reported ++ [state.channelState channel] }
      | _, _ => none

omit [DecidableEq Channel] in
def FlagTruthful (state : State Channel) : Prop :=
  state.pending = 0 → (state.dataChannelOpen = true ↔
    ∃ channel, state.dataChannel = some channel ∧ state.channelState channel = .kOpen)

/-- An open channel was reported, and none that is closed since. -/
def OpenReported (reported : List DataState) : Prop :=
  ∃ before after, reported = before ++ .kOpen :: after ∧ .kClosed ∉ after

/-- A channel handed over with nothing left to report is open if and only if the
last report found an open one; and the last report owed finds the current
channel open or closed, unless no open channel was reported before. -/
def KeepsFlagTruthful (state : State Channel) : Action Channel → Prop
  | .onDataChannel channel => state.pending = 0 →
      (state.reported.getLast? = some .kOpen ↔ state.channelState channel = .kOpen)
  | .transition _ _ => True
  | .onStateChange => state.pending = 1 → OpenReported state.reported →
      ∀ channel, state.dataChannel = some channel →
        state.channelState channel = .kOpen ∨ state.channelState channel = .kClosed

/-- The observer is registered on the current channel, and the flag is what the
reports make it. -/
structure Informed (state : State Channel) : Prop where
  observed : ∀ channel, state.dataChannel = some channel → state.observed channel = true
  reported : state.dataChannelOpen = true ↔ OpenReported state.reported

/-- The flag tells the truth, and in the states in which it must, the last report
has decided it. -/
structure TruthInvariant (state : State Channel) : Prop where
  informed : Informed state
  truthful : FlagTruthful state
  last : state.pending = 0 →
    (state.dataChannelOpen = true ↔ state.reported.getLast? = some .kOpen)

theorem open_reported_append_iff (reported : List DataState) (found : DataState) :
    OpenReported (reported ++ [found]) ↔
      found = .kOpen ∨ found ≠ .kClosed ∧ OpenReported reported := by
  constructor
  · rintro ⟨before, after, split, notClosed⟩
    rcases split_of_append_singleton split with ⟨same, -, -⟩ | ⟨rest, rfl, earlier⟩
    · exact .inl same.symm
    · simp only [List.mem_append, List.mem_singleton, not_or] at notClosed
      exact .inr ⟨Ne.symm notClosed.2, before, rest, earlier, notClosed.1⟩
  · rintro (rfl | ⟨notClosed, before, after, rfl, noneClosed⟩)
    · exact ⟨reported, [], rfl, List.not_mem_nil⟩
    · refine ⟨before, after ++ [found], by simp, ?_⟩
      simpa [noneClosed] using Ne.symm notClosed

theorem flag_after_iff (channelOpen : Bool) (found : DataState) :
    flagAfter channelOpen found = true ↔
      found = .kOpen ∨ found ≠ .kClosed ∧ channelOpen = true := by
  cases found <;> simp [flagAfter]

theorem flag_after_open_iff (channelOpen : Bool) (channelState : DataState) :
    (flagAfter channelOpen channelState = true ↔ channelState = .kOpen) ↔
      (channelOpen = true → channelState = .kOpen ∨ channelState = .kClosed) := by
  cases channelState <;> simp [flagAfter]

theorem informed_step {state next : State Channel} {action : Action Channel}
    (informed : Informed state) (taken : step state action = some next) : Informed next := by
  cases action with
  | onDataChannel channel =>
      obtain rfl := Option.some.inj taken
      refine ⟨?_, informed.reported⟩
      intro current same
      simp_all
  | transition channel target =>
      simp only [step] at taken
      split_ifs at taken
      obtain rfl := Option.some.inj taken
      exact ⟨informed.observed, informed.reported⟩
  | onStateChange =>
      simp only [step] at taken
      split at taken
      · obtain rfl := Option.some.inj taken
        refine ⟨informed.observed, ?_⟩
        simp only [flag_after_iff, open_reported_append_iff, informed.reported]
      · contradiction

/-- A move of a channel nobody observes is not a move of the current one. -/
theorem transition_keeps_flag_truthful {state next : State Channel} {channel : Channel}
    {target : DataState} (informed : Informed state) (truthful : FlagTruthful state)
    (taken : step state (.transition channel target) = some next) : FlagTruthful next := by
  simp only [step] at taken
  split_ifs at taken
  obtain rfl := Option.some.inj taken
  intro quiet
  obtain ⟨wasQuiet, unreported⟩ := Nat.add_eq_zero_iff.mp quiet
  rw [truthful wasQuiet]
  refine exists_congr fun current => and_congr_right fun isCurrent => ?_
  have different : current ≠ channel := by
    rintro rfl
    simp [informed.observed current isCurrent] at unreported
  simp [different]

/-- A channel is handed over without a report: the last one has to fit it. -/
theorem on_data_channel_flag_truthful_iff {state next : State Channel} {channel : Channel}
    (invariant : TruthInvariant state)
    (taken : step state (.onDataChannel channel) = some next) :
    FlagTruthful next ↔ KeepsFlagTruthful state (.onDataChannel channel) := by
  obtain rfl := Option.some.inj taken
  apply imp_congr_right
  intro quiet
  rw [← invariant.last quiet]
  simp

theorem on_state_change_flag_truthful_iff {state next : State Channel}
    (informed : Informed state) (taken : step state .onStateChange = some next) :
    FlagTruthful next ↔ KeepsFlagTruthful state .onStateChange := by
  simp only [step] at taken
  split at taken
  case h_1 channel pending isCurrent counted =>
      obtain rfl := Option.some.inj taken
      simp only [FlagTruthful, KeepsFlagTruthful, ← informed.reported, isCurrent, counted,
        Option.some.injEq, existsAndEq, true_and, forall_eq', flag_after_open_iff, Nat.succ_inj,
        Nat.succ_eq_add_one]
  case h_2 => contradiction

theorem last_of_on_state_change {state next : State Channel} (truthful : FlagTruthful next)
    (taken : step state .onStateChange = some next) (quiet : next.pending = 0) :
    next.dataChannelOpen = true ↔ next.reported.getLast? = some .kOpen := by
  rw [truthful quiet]
  simp only [step] at taken
  split at taken
  case h_1 channel pending isCurrent counted =>
      obtain rfl := Option.some.inj taken
      simp [isCurrent]
  case h_2 => contradiction

theorem truth_invariant_step {state next : State Channel} {action : Action Channel}
    (invariant : TruthInvariant state) (keeps : KeepsFlagTruthful state action)
    (taken : step state action = some next) : TruthInvariant next := by
  have informed := informed_step invariant.informed taken
  cases action with
  | onDataChannel channel =>
      have truthful := (on_data_channel_flag_truthful_iff invariant taken).mpr keeps
      obtain rfl := Option.some.inj taken
      exact ⟨informed, truthful, invariant.last⟩
  | transition channel target =>
      have truthful := transition_keeps_flag_truthful invariant.informed invariant.truthful taken
      simp only [step] at taken
      split_ifs at taken
      obtain rfl := Option.some.inj taken
      exact ⟨informed, truthful, fun quiet => invariant.last (Nat.add_eq_zero_iff.mp quiet).1⟩
  | onStateChange =>
      have truthful := (on_state_change_flag_truthful_iff invariant.informed taken).mpr keeps
      exact ⟨informed, truthful, last_of_on_state_change truthful taken⟩

/-- In every run the flag is right whenever nothing is pending, if and only if
every event of the run is of a kind that keeps it so. -/
theorem data_channel_open_truthful_iff (actions : List (Action Channel)) (last : State Channel)
    (run : replay step initial actions = some last) :
    HoldsAlong FlagTruthful step initial actions ↔
      MeetsAlong KeepsFlagTruthful step initial actions := by
  have initially : TruthInvariant (initial : State Channel) :=
    ⟨⟨by simp [initial], by simp [initial, OpenReported]⟩, by simp [FlagTruthful, initial],
      by simp [initial]⟩
  refine holds_along_iff_meets_along TruthInvariant initially
    (fun _ invariant => invariant.truthful) (fun _ _ _ => truth_invariant_step) ?_ run
  intro state action next invariant breaks taken truthful
  cases action with
  | onDataChannel channel =>
      exact breaks ((on_data_channel_flag_truthful_iff invariant taken).mp truthful)
  | transition channel target => exact breaks trivial
  | onStateChange =>
      exact breaks ((on_state_change_flag_truthful_iff invariant.informed taken).mp truthful)

/-- A channel that opened before it was handed over is never reported open. -/
theorem open_channel_handed_over_unnoticed :
    ¬∀ (actions : List (Action (Fin 1))) (state : State (Fin 1)),
      replay step initial actions = some state → FlagTruthful state := by
  intro claimed
  have truthful := claimed [.transition 0 .kOpen, .onDataChannel 0] _ rfl rfl
  exact absurd (truthful.mpr ⟨0, rfl, rfl⟩) (by decide)

theorem channel_opens_and_closes_truthfully :
    HoldsAlong FlagTruthful step (initial : State (Fin 1))
      [.onDataChannel 0, .transition 0 .kOpen, .onStateChange, .transition 0 .kClosed,
        .onStateChange] := by
  apply (data_channel_open_truthful_iff _ _ rfl).mpr
  simp [MeetsAlong, KeepsFlagTruthful, step, initial, DataState.rank, flagAfter]

end PyWebRTC.DataChannelFlag
