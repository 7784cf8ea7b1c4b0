import PyWebRTC.ActionRuns
import PyWebRTC.SessionDescription

/-!
# Who releases the waiting caller

The caller leaves the loop of `get_sdp` through the callback of its own
request. `OnFailure` ends that callback without raising the flag.
-/

namespace PyWebRTC.SessionDescriptionWait

open ActionRuns PicojsonValue SessionDescription

set_option autoImplicit false

/-- The callback that will raise the flag is outstanding, or `sessionSuccess`
runs and has not raised it. -/
def Releasable (state : State) (number : Nat) : Prop :=
  number ∈ state.outstanding ∨
    ∃ description stage, state.callback = .success number description stage

def NeverStuck (state : State) : Prop :=
  ∀ number, state.caller = .spinning number → state.offerSet = false → Releasable state number

def NotAFailure (_ : State) : Action → Prop
  | .onFailure _ => False
  | _ => True

theorem never_stuck_advance_caller {state next : State} (neverStuck : NeverStuck state)
    (taken : advanceCaller state = some next) : NeverStuck next := by
  unfold advanceCaller at taken
  split at taken
  case h_1 => contradiction
  case h_3 =>
    obtain rfl := Option.some.inj taken
    intro number spinning down
    obtain rfl := Caller.spinning.inj spinning
    exact .inl (by simp)
  case h_4 =>
    split at taken
    case isTrue =>
      obtain rfl := Option.some.inj taken
      intro number spinning
      contradiction
    case isFalse => exact Option.some.inj taken ▸ neverStuck
  all_goals
    obtain rfl := Option.some.inj taken
    intro number spinning
    contradiction

theorem never_stuck_advance_callback {state next : State} (linked : Linked state)
    (neverStuck : NeverStuck state) (taken : advanceCallback state = some next) :
    NeverStuck next := by
  have running : state.callback ≠ .idle := by
    intro idle
    simp [advanceCallback, idle] at taken
  obtain ⟨number, before, call, spinning, -, -, -, empty, flag, callback⟩ :=
    spinning_of_callback linked running
  unfold advanceCallback at taken
  split at taken
  case h_1 => contradiction
  case h_5 =>
    obtain rfl := Option.some.inj taken
    intro other otherSpinning down
    contradiction
  case h_6 answered stands =>
    -- a failure has no one left to release the caller, so it was stuck before
    rcases neverStuck number spinning flag with outstanding | ⟨description, stage, success⟩
    · simp [empty] at outstanding
    · exact absurd (stands.symm.trans success) (by simp)
  all_goals
    rename_i answered description stands
    obtain rfl := Option.some.inj taken
    rw [stands] at callback
    obtain rfl := callback.1
    intro other otherSpinning down
    obtain rfl := Caller.spinning.inj (spinning.symm.trans otherSpinning)
    exact .inr ⟨_, _, rfl⟩

theorem never_stuck_step {state next : State} {action : Action} (linked : Linked state)
    (neverStuck : NeverStuck state) (success : NotAFailure state action)
    (taken : step state action = some next) : NeverStuck next := by
  cases action with
  | getOffer =>
      simp only [step] at taken
      split at taken
      · obtain rfl := Option.some.inj taken
        intro number spinning
        contradiction
      · contradiction
  | receiveOffer =>
      simp only [step] at taken
      split at taken
      · obtain rfl := Option.some.inj taken
        intro number spinning
        contradiction
      · contradiction
  | advanceCaller => exact never_stuck_advance_caller neverStuck taken
  | onSuccess number description =>
      simp only [step] at taken
      split at taken
      case h_2 => contradiction
      case h_1 =>
        split at taken
        case isFalse => contradiction
        case isTrue member =>
          obtain rfl := Option.some.inj taken
          have spinning := (spinning_of_outstanding linked member).1
          intro other otherSpinning down
          obtain rfl := Caller.spinning.inj (spinning.symm.trans otherSpinning)
          exact .inr ⟨description, .entered, rfl⟩
  | onFailure number => exact absurd success id
  | advanceCallback => exact never_stuck_advance_callback linked neverStuck taken
  | setDescriptionFailed =>
      obtain rfl := Option.some.inj taken
      exact neverStuck

def Stuck (state : State) : Prop :=
  (∃ number, state.caller = .spinning number) ∧ state.offerSet = false ∧
    state.outstanding = [] ∧ ∀ number description stage,
      state.callback ≠ .success number description stage

theorem stuck_step {state next : State} {action : Action} (stuck : Stuck state)
    (taken : step state action = some next) : Stuck next := by
  obtain ⟨⟨number, spinning⟩, down, empty, noSuccess⟩ := stuck
  cases action with
  | getOffer => simp [step, spinning] at taken
  | receiveOffer => simp [step, spinning] at taken
  | advanceCaller =>
      simp only [step, advanceCaller, spinning, down] at taken
      obtain rfl := Option.some.inj taken
      exact ⟨⟨number, spinning⟩, down, empty, noSuccess⟩
  | onSuccess number description =>
      simp only [step, empty, List.not_mem_nil] at taken
      split at taken <;> simp at taken
  | onFailure number =>
      simp only [step, empty, List.not_mem_nil] at taken
      split at taken <;> simp at taken
  | advanceCallback =>
      simp only [step, advanceCallback] at taken
      split at taken
      case h_1 => contradiction
      case h_6 =>
        obtain rfl := Option.some.inj taken
        exact ⟨⟨number, spinning⟩, down, empty, by simp⟩
      all_goals
        rename_i stands
        exact absurd stands (noSuccess _ _ _)
  | setDescriptionFailed =>
      obtain rfl := Option.some.inj taken
      exact ⟨⟨number, spinning⟩, down, empty, noSuccess⟩

theorem not_never_stuck {state : State} (stuck : Stuck state) : ¬NeverStuck state := by
  obtain ⟨⟨number, spinning⟩, down, empty, noSuccess⟩ := stuck
  intro neverStuck
  rcases neverStuck number spinning down with outstanding | ⟨description, stage, success⟩
  · simp [empty] at outstanding
  · exact noSuccess number description stage success

theorem stuck_of_failure {state next : State} {number : Nat} (linked : Linked state)
    (taken : step state (.onFailure number) = some next) : Stuck next := by
  obtain ⟨-, spinning, empty, down, failing⟩ := linked_on_failure linked taken
  exact ⟨⟨number, spinning⟩, down, empty, by simp [failing]⟩

/-- A stuck caller never returns. -/
theorem stuck_for_ever {actions : List Action} {state last : State} (stuck : Stuck state)
    (run : replay step state actions = some last) : Stuck last :=
  replay_invariant Stuck stuck (fun _ _ _ => stuck_step) run

/-- In every run the waiting caller can always be released if and only if no
request is answered by `OnFailure`. -/
theorem never_stuck_iff_no_failure (actions : List Action) (last : State)
    (run : replay step initial actions = some last) :
    HoldsAlong NeverStuck step initial actions ↔ MeetsAlong NotAFailure step initial actions := by
  refine holds_along_iff_meets_along (fun state => Linked state ∧ NeverStuck state)
    ⟨linked_initial, fun number spinning => by contradiction⟩ (fun _ both => both.2) ?_ ?_ run
  · intro state action next both success taken
    exact ⟨linked_step both.1 taken, never_stuck_step both.1 both.2 success taken⟩
  · intro state action next both failure taken
    cases action with
    | onFailure number => exact not_never_stuck (stuck_of_failure both.1 taken)
    | getOffer | receiveOffer | advanceCaller | onSuccess | advanceCallback
    | setDescriptionFailed => exact absurd trivial failure

/-- A request that fails leaves `get_offer` in its loop with nothing to release
it. -/
theorem failed_request_leaves_caller_spinning :
    ¬∀ (actions : List Action) (last : State), replay step initial actions = some last →
      NeverStuck last := by
  intro claimed
  have neverStuck := claimed [.getOffer, .advanceCaller, .onFailure 0] _ rfl
  rcases neverStuck 0 rfl rfl with outstanding | ⟨description, stage, success⟩
  · exact absurd outstanding (by decide)
  · contradiction

theorem answered_request_never_stuck :
    HoldsAlong NeverStuck step initial
      [.getOffer, .advanceCaller, .advanceCaller, .onSuccess 0 [], .advanceCallback,
        .advanceCallback, .advanceCallback, .advanceCallback, .advanceCaller] := by
  apply (never_stuck_iff_no_failure _ _ rfl).mpr
  simp [MeetsAlong, NotAFailure]

end PyWebRTC.SessionDescriptionWait
