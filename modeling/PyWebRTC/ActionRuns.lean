import Mathlib.Data.List.Basic

/-!
Runs of a partial transition function over a list of actions. Nothing here
names a program: `State` and `Action` are arbitrary, and an action that is not
enabled has no successor. Invariants are stated over whole runs, over the
history of actions, and over runs whose every step meets a side condition.
-/

namespace PyWebRTC.ActionRuns

set_option autoImplicit false

variable {State Action : Type*}

/-- The state in which the actions end, or `none` when one of them is not
enabled where it is taken. -/
def replay (step : State → Action → Option State) : State → List Action → Option State
  | state, [] => some state
  | state, action :: rest => (step state action).bind fun next => replay step next rest

/-- The property holds in every state the actions pass through, the first and
the last included. -/
def HoldsAlong (property : State → Prop) (step : State → Action → Option State) :
    State → List Action → Prop
  | state, [] => property state
  | state, action :: rest => property state ∧
      ∀ next, step state action = some next → HoldsAlong property step next rest

/-- Every action is taken in a state that meets the condition for it. -/
def MeetsAlong (condition : State → Action → Prop) (step : State → Action → Option State) :
    State → List Action → Prop
  | _, [] => True
  | state, action :: rest => condition state action ∧
      ∀ next, step state action = some next → MeetsAlong condition step next rest

variable {step : State → Action → Option State}

theorem replay_cons {state last : State} {action : Action} {rest : List Action} :
    replay step state (action :: rest) = some last ↔
      ∃ next, step state action = some next ∧ replay step next rest = some last := by
  simp [replay, Option.bind_eq_some_iff]

theorem replay_append {state last : State} {before after : List Action} :
    replay step state (before ++ after) = some last ↔
      ∃ middle, replay step state before = some middle ∧
        replay step middle after = some last := by
  induction before generalizing state with
  | nil => simp [replay]
  | cons action before ih =>
      simp only [List.cons_append, replay_cons, ih]
      constructor
      · rintro ⟨next, taken, middle, left, right⟩
        exact ⟨middle, ⟨next, taken, left⟩, right⟩
      · rintro ⟨middle, ⟨next, taken, left⟩, right⟩
        exact ⟨next, taken, middle, left, right⟩

/-- An invariant of the history: it relates the state reached to all the
actions that led there. -/
theorem replay_history {start last : State} {actions : List Action}
    (history : List Action → State → Prop) (initially : history [] start)
    (preserved : ∀ past state action next, history past state →
      step state action = some next → history (past ++ [action]) next)
    (run : replay step start actions = some last) : history actions last := by
  have extended : ∀ (future past : List Action) (state : State), history past state →
      replay step state future = some last → history (past ++ future) last := by
    intro future
    induction future with
    | nil =>
        intro past state holds finished
        simp only [replay, Option.some.injEq] at finished
        simpa [← finished] using holds
    | cons action future ih =>
        intro past state holds continued
        obtain ⟨next, taken, remaining⟩ := replay_cons.mp continued
        simpa using ih (past ++ [action]) next (preserved past state action next holds taken)
          remaining
  simpa using extended actions [] start initially run

theorem replay_invariant {start last : State} {actions : List Action}
    (invariant : State → Prop) (initially : invariant start)
    (preserved : ∀ state action next, invariant state →
      step state action = some next → invariant next)
    (run : replay step start actions = some last) : invariant last :=
  replay_history (fun _ state => invariant state) initially
    (fun _ state action next holds taken => preserved state action next holds taken) run

/-- A property of states that an invariant implies. The invariant need only
survive the steps that meet the condition. -/
theorem holds_along_of_meets_along {start : State} {actions : List Action}
    {property : State → Prop} {condition : State → Action → Prop}
    (invariant : State → Prop) (initially : invariant start)
    (implied : ∀ state, invariant state → property state)
    (preserved : ∀ state action next, invariant state → condition state action →
      step state action = some next → invariant next)
    (meets : MeetsAlong condition step start actions) :
    HoldsAlong property step start actions := by
  induction actions generalizing start with
  | nil => exact implied start initially
  | cons action rest ih =>
      refine ⟨implied start initially, ?_⟩
      intro next taken
      exact ih (preserved start action next initially meets.1 taken) (meets.2 next taken)

theorem holds_along_start {start : State} {actions : List Action} {property : State → Prop}
    (holds : HoldsAlong property step start actions) : property start := by
  cases actions with
  | nil => exact holds
  | cons action rest => exact holds.1

/-- The exact condition of a property: kept by every step that meets the
condition, and broken at once by every step that does not. -/
theorem holds_along_iff_meets_along {start last : State} {actions : List Action}
    {property : State → Prop} {condition : State → Action → Prop}
    (invariant : State → Prop) (initially : invariant start)
    (implied : ∀ state, invariant state → property state)
    (preserved : ∀ state action next, invariant state → condition state action →
      step state action = some next → invariant next)
    (broken : ∀ state action next, invariant state → ¬condition state action →
      step state action = some next → ¬property next)
    (run : replay step start actions = some last) :
    HoldsAlong property step start actions ↔ MeetsAlong condition step start actions := by
  refine ⟨?_, holds_along_of_meets_along invariant initially implied preserved⟩
  intro holds
  induction actions generalizing start with
  | nil => trivial
  | cons action rest ih =>
      obtain ⟨next, taken, remaining⟩ := replay_cons.mp run
      have nextHolds := holds.2 next taken
      have met : condition start action := by
        by_contra unmet
        exact broken start action next initially unmet taken (holds_along_start nextHolds)
      refine ⟨met, ?_⟩
      intro other otherTaken
      have same : other = next := Option.some.inj (otherTaken.symm.trans taken)
      subst other
      exact ih (preserved start action next initially met taken) remaining nextHolds

theorem meets_along_cons {start next : State} {action : Action} {rest : List Action}
    {condition : State → Action → Prop} (taken : step start action = some next) :
    MeetsAlong condition step start (action :: rest) ↔
      condition start action ∧ MeetsAlong condition step next rest := by
  simp [MeetsAlong, taken]

/-- A run keeps to the condition and ends sound, or leaves it and ends spoiled:
a spoiled state does not recover. -/
theorem sound_or_spoiled {start last : State} {actions : List Action}
    {condition : State → Action → Prop} (sound spoiled : State → Prop) (initially : sound start)
    (kept : ∀ state action next, sound state → condition state action →
      step state action = some next → sound next)
    (broken : ∀ state action next, sound state → ¬condition state action →
      step state action = some next → spoiled next)
    (stays : ∀ state action next, spoiled state → step state action = some next → spoiled next)
    (run : replay step start actions = some last) :
    (MeetsAlong condition step start actions ∧ sound last) ∨
      (¬MeetsAlong condition step start actions ∧ spoiled last) := by
  induction actions generalizing start with
  | nil => exact .inl ⟨trivial, Option.some.inj run ▸ initially⟩
  | cons action rest ih =>
      obtain ⟨next, taken, remaining⟩ := replay_cons.mp run
      by_cases met : condition start action
      · rw [meets_along_cons taken, and_iff_right met]
        exact ih (kept start action next initially met taken) remaining
      · exact .inr ⟨fun along => met along.1,
          replay_invariant spoiled (broken start action next initially met taken) stays remaining⟩

/-- Where an item stands in a history that has grown by one. -/
theorem split_of_append_singleton {Item : Type*} {past before after : List Item} {last item : Item}
    (split : past ++ [last] = before ++ item :: after) :
    (item = last ∧ before = past ∧ after = []) ∨
      ∃ rest, after = rest ++ [last] ∧ past = before ++ item :: rest := by
  rcases List.eq_nil_or_concat after with rfl | ⟨rest, final, rfl⟩
  · obtain ⟨same, sole⟩ := List.append_inj' split rfl
    exact .inl ⟨(List.singleton_inj.mp sole).symm, same.symm, rfl⟩
  · have regrouped : past ++ [last] = (before ++ item :: rest) ++ [final] := by
      simpa using split
    obtain ⟨earlier, sole⟩ := List.append_inj' regrouped rfl
    obtain rfl := List.singleton_inj.mp sole
    exact .inr ⟨rest, List.concat_eq_append, earlier⟩

/-- The states a run passes through are the ends of its prefixes. -/
theorem holds_along_iff_prefixes {start : State} {actions : List Action}
    {property : State → Prop} :
    HoldsAlong property step start actions ↔
      ∀ before after state, actions = before ++ after →
        replay step start before = some state → property state := by
  induction actions generalizing start with
  | nil =>
      simp only [HoldsAlong, List.nil_eq, List.append_eq_nil_iff]
      constructor
      · rintro holds before after state ⟨rfl, rfl⟩ run
        exact Option.some.inj run ▸ holds
      · exact fun reached => reached [] [] start ⟨rfl, rfl⟩ rfl
  | cons action rest ih =>
      simp only [HoldsAlong, ih]
      constructor
      · rintro ⟨here, later⟩ before after state split run
        cases before with
        | nil => exact Option.some.inj run ▸ here
        | cons first before =>
            obtain ⟨rfl, rfl⟩ := List.cons.inj split
            obtain ⟨next, taken, remaining⟩ := replay_cons.mp run
            exact later next taken before after state rfl remaining
      · intro reached
        refine ⟨reached [] _ start rfl rfl, ?_⟩
        intro next taken before after state split run
        exact reached (action :: before) after state (by rw [split]; rfl)
          (replay_cons.mpr ⟨next, taken, run⟩)

/-- The steps of a run that are marked where they are taken. -/
def countSteps (marked : State → Action → Bool) (step : State → Action → Option State) :
    State → List Action → Nat
  | _, [] => 0
  | state, action :: rest => (marked state action).toNat +
      match step state action with
      | some next => countSteps marked step next rest
      | none => 0

theorem count_steps_eq_count_p {start last : State} {actions : List Action} (marked : Action → Bool)
    (run : replay step start actions = some last) :
    countSteps (fun _ action => marked action) step start actions = actions.countP marked := by
  induction actions generalizing start with
  | nil => rfl
  | cons action rest ih =>
      obtain ⟨next, taken, remaining⟩ := replay_cons.mp run
      simp only [countSteps, taken, ih remaining, List.countP_cons]
      cases marked action <;> simp [Nat.add_comm]

/-- An invariant that counts: it relates the state to the marked steps so far. -/
theorem replay_count {start last : State} {actions : List Action} {count : Nat}
    {marked : State → Action → Bool} (invariant : Nat → State → Prop)
    (initially : invariant count start)
    (preserved : ∀ count state action next, invariant count state →
      step state action = some next → invariant (count + (marked state action).toNat) next)
    (run : replay step start actions = some last) :
    invariant (count + countSteps marked step start actions) last := by
  induction actions generalizing start count with
  | nil => exact Option.some.inj run ▸ initially
  | cons action rest ih =>
      obtain ⟨next, taken, remaining⟩ := replay_cons.mp run
      simp only [countSteps, taken, ← Nat.add_assoc]
      exact ih (preserved count start action next initially taken) remaining

/-- A rank that the marked steps lower, and the others do not raise, bounds their
number. -/
theorem count_steps_add_rank_le {start last : State} {actions : List Action}
    (marked : State → Action → Bool) (rank : State → Nat) (invariant : State → Prop)
    (initially : invariant start)
    (preserved : ∀ state action next, invariant state →
      step state action = some next → invariant next)
    (lowered : ∀ state action next, invariant state → step state action = some next →
      rank next + (marked state action).toNat ≤ rank state)
    (run : replay step start actions = some last) :
    countSteps marked step start actions + rank last ≤ rank start := by
  have kept : ∀ count state action next, invariant state ∧ count + rank state ≤ rank start →
      step state action = some next →
      invariant next ∧ count + (marked state action).toNat + rank next ≤ rank start := by
    rintro count state action next ⟨holds, paid⟩ taken
    have lower := lowered state action next holds taken
    exact ⟨preserved state action next holds taken, by omega⟩
  have counted := replay_count (fun count state => invariant state ∧ count + rank state ≤ rank start)
    ⟨initially, Nat.le_of_eq (Nat.zero_add _)⟩ kept run
  simpa using counted.2

end PyWebRTC.ActionRuns
