import PyWebRTC.ActionRuns

/-!
Forward simulation between two partial transition functions. Every step of the
first stands for a list of operations of the second, which may be empty, and a
relation between the states is kept. The operations of a whole run are then a
run of the second system.
-/

namespace PyWebRTC.ForwardSimulation

open ActionRuns

set_option autoImplicit false

variable {State Action Abstract Operation : Type*}

/-- The operations that a run stands for, in the order of its steps. -/
def operations (stands : State → Action → List Operation)
    (step : State → Action → Option State) : State → List Action → List Operation
  | _, [] => []
  | state, action :: rest => stands state action ++
      match step state action with
      | some next => operations stands step next rest
      | none => []

variable {stands : State → Action → List Operation} {step : State → Action → Option State}

theorem operations_cons {state next : State} {action : Action} {rest : List Action}
    (taken : step state action = some next) :
    operations stands step state (action :: rest) =
      stands state action ++ operations stands step next rest := by
  simp [operations, taken]

/-- What each step that meets the condition preserves, a run of such steps
preserves. -/
theorem replay_operations_of_meets_along {abstractStep : Abstract → Operation → Option Abstract}
    {condition : State → Action → Prop} (related : State → Abstract → Prop)
    (simulated : ∀ state action next abstract, related state abstract → condition state action →
      step state action = some next →
      ∃ abstractNext, replay abstractStep abstract (stands state action) = some abstractNext ∧
        related next abstractNext)
    {start last : State} {abstract : Abstract} {actions : List Action}
    (initially : related start abstract) (meets : MeetsAlong condition step start actions)
    (run : replay step start actions = some last) :
    ∃ abstractLast,
      replay abstractStep abstract (operations stands step start actions) = some abstractLast ∧
        related last abstractLast := by
  induction actions generalizing start abstract with
  | nil => exact ⟨abstract, rfl, Option.some.inj run ▸ initially⟩
  | cons action rest ih =>
      obtain ⟨next, taken, remaining⟩ := replay_cons.mp run
      obtain ⟨met, meetsNext⟩ := (meets_along_cons taken).mp meets
      obtain ⟨middle, first, relatedNext⟩ :=
        simulated start action next abstract initially met taken
      obtain ⟨abstractLast, others, relatedLast⟩ := ih relatedNext meetsNext remaining
      refine ⟨abstractLast, ?_, relatedLast⟩
      rw [operations_cons taken]
      exact replay_append.mpr ⟨middle, first, others⟩

theorem meets_along_of_forall {condition : State → Action → Prop}
    (always : ∀ state action, condition state action) (start : State) (actions : List Action) :
    MeetsAlong condition step start actions := by
  induction actions generalizing start with
  | nil => trivial
  | cons action rest ih => exact ⟨always start action, fun next _ => ih next⟩

/-- What each step preserves, a run preserves. -/
theorem replay_operations {abstractStep : Abstract → Operation → Option Abstract}
    (related : State → Abstract → Prop)
    (simulated : ∀ state action next abstract, related state abstract →
      step state action = some next →
      ∃ abstractNext, replay abstractStep abstract (stands state action) = some abstractNext ∧
        related next abstractNext)
    {start last : State} {abstract : Abstract} {actions : List Action}
    (initially : related start abstract) (run : replay step start actions = some last) :
    ∃ abstractLast,
      replay abstractStep abstract (operations stands step start actions) = some abstractLast ∧
        related last abstractLast :=
  replay_operations_of_meets_along related
    (fun state action next abstract held _ taken =>
      simulated state action next abstract held taken)
    initially (meets_along_of_forall (fun _ _ => trivial) start actions) run

end PyWebRTC.ForwardSimulation
