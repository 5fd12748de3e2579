import Mathlib

/-! Finite executions of a partial step function. A schedule is a list of
actions; an action that is not enabled makes the schedule undefined, so a
theorem about every defined schedule is a theorem about every interleaving. -/

namespace DatafusionRay.Foundation

universe u v

variable {σ : Type u} {α : Type v} {step : σ → α → Option σ}

def run (step : σ → α → Option σ) : σ → List α → Option σ
  | state, [] => some state
  | state, action :: rest => (step state action).bind fun next => run step next rest

theorem run_cons_eq_some {first last : σ} {action : α} {rest : List α} :
    run step first (action :: rest) = some last ↔
      ∃ next, step first action = some next ∧ run step next rest = some last := by
  simp only [run, Option.bind_eq_some_iff]

theorem run_append {first : σ} {before after : List α} :
    run step first (before ++ after) = (run step first before).bind fun middle => run step middle after := by
  induction before generalizing first with
  | nil => rfl
  | cons action rest ih =>
    simp only [List.cons_append, run, Option.bind_assoc]
    cases step first action with
    | none => rfl
    | some next => exact ih

theorem run_trans {first middle last : σ} {before after : List α}
    (started : run step first before = some middle) (finished : run step middle after = some last) :
    run step first (before ++ after) = some last := by
  rw [run_append, started]
  exact finished

/-- One step that keeps an assertion makes it an invariant of every run. -/
theorem run_preserves {assertion : σ → Prop}
    (kept : ∀ before action after, step before action = some after → assertion before → assertion after)
    {first last : σ} {actions : List α}
    (executed : run step first actions = some last) (initial : assertion first) : assertion last := by
  induction actions generalizing first with
  | nil =>
    cases executed
    exact initial
  | cons action rest ih =>
    obtain ⟨next, stepped, remaining⟩ := run_cons_eq_some.mp executed
    exact ih remaining (kept _ _ _ stepped initial)

/-- The same for an assertion that also speaks of the actions so far. -/
theorem run_traced {assertion : List α → σ → Prop}
    (kept : ∀ past before action after, step before action = some after → assertion past before →
      assertion (past ++ [action]) after)
    {first last : σ} {actions : List α} (executed : run step first actions = some last) (initial : assertion [] first) :
    assertion actions last := by
  suffices ∀ past, assertion past first → assertion (past ++ actions) last from this [] initial
  clear initial
  intro past holds
  induction actions generalizing first past with
  | nil =>
    cases executed
    rwa [List.append_nil]
  | cons action rest ih =>
    obtain ⟨next, stepped, remaining⟩ := run_cons_eq_some.mp executed
    rw [← List.singleton_append, ← List.append_assoc]
    exact ih remaining _ (kept past _ _ _ stepped holds)

/-- A system whose steps are steps of another one, or leave what it shows of it alone. -/
theorem run_projects {τ : Type*} {β : Type*} {inner : τ → β → Option τ} {view : σ → τ} {label : α → Option β}
    (moves : ∀ before action after part, step before action = some after → label action = some part →
      inner (view before) part = some (view after))
    (rests : ∀ before action after, step before action = some after → label action = none → view after = view before)
    {first last : σ} {actions : List α} (executed : run step first actions = some last) :
    run inner (view first) (actions.filterMap label) = some (view last) := by
  induction actions generalizing first with
  | nil =>
    cases executed
    rfl
  | cons action rest ih =>
    obtain ⟨next, stepped, remaining⟩ := run_cons_eq_some.mp executed
    cases shown : label action with
    | none =>
      rw [List.filterMap_cons_none shown, ← rests _ _ _ stepped shown]
      exact ih remaining
    | some part =>
      rw [List.filterMap_cons_some shown]
      exact run_cons_eq_some.mpr ⟨_, moves _ _ _ _ stepped shown, ih remaining⟩

/-- Every action of the schedule is taken in a state that meets the guard. -/
def Guarded (step : σ → α → Option σ) (guard : σ → α → Prop) : σ → List α → Prop
  | _, [] => True
  | state, action :: rest =>
    guard state action ∧ ∀ next, step state action = some next → Guarded step guard next rest

instance Guarded.decidable {guard : σ → α → Prop} [∀ state action, Decidable (guard state action)] :
    ∀ (state : σ) (actions : List α), Decidable (Guarded step guard state actions)
  | _, [] => .isTrue trivial
  | state, action :: rest =>
    match outcome : step state action with
    | none => decidable_of_iff (guard state action) (by simp [Guarded, outcome])
    | some next =>
      have : Decidable (Guarded step guard next rest) := Guarded.decidable next rest
      decidable_of_iff (guard state action ∧ Guarded step guard next rest) (by simp [Guarded, outcome])

theorem guarded_preserves {assertion : σ → Prop} {guard : σ → α → Prop}
    (kept : ∀ before action after, step before action = some after → guard before action →
      assertion before → assertion after)
    {first last : σ} {actions : List α} (executed : run step first actions = some last)
    (guarded : Guarded step guard first actions) (initial : assertion first) : assertion last := by
  induction actions generalizing first with
  | nil =>
    cases executed
    exact initial
  | cons action rest ih =>
    obtain ⟨next, stepped, remaining⟩ := run_cons_eq_some.mp executed
    exact ih remaining (guarded.2 next stepped) (kept _ _ _ stepped guarded.1 initial)

/-- A guarded run is no longer than the measure that each of its steps lowers. -/
theorem guarded_length {assertion : σ → Prop} {guard : σ → α → Prop} {measure : σ → Nat}
    (kept : ∀ before action after, step before action = some after → guard before action → assertion before →
      assertion after ∧ measure after < measure before)
    {first last : σ} {actions : List α} (executed : run step first actions = some last)
    (guarded : Guarded step guard first actions) (initial : assertion first) :
    assertion last ∧ measure last + actions.length ≤ measure first := by
  induction actions generalizing first with
  | nil =>
    cases executed
    exact ⟨initial, Nat.le_refl _⟩
  | cons action rest ih =>
    obtain ⟨next, stepped, remaining⟩ := run_cons_eq_some.mp executed
    obtain ⟨holds, lower⟩ := kept _ _ _ stepped guarded.1 initial
    obtain ⟨last, shorter⟩ := ih remaining (guarded.2 next stepped) holds
    refine ⟨last, ?_⟩
    rw [List.length_cons]
    omega

theorem guarded_of_forall {allowed : α → Prop} (first : σ) {actions : List α}
    (every : ∀ action ∈ actions, allowed action) : Guarded step (fun _ action => allowed action) first actions := by
  induction actions generalizing first with
  | nil => trivial
  | cons action rest ih =>
    rw [List.forall_mem_cons] at every
    exact ⟨every.1, fun next _ => ih next every.2⟩

/-- A guard on the actions alone is a condition on the schedule. -/
theorem guarded_iff_forall {allowed : α → Prop} {first last : σ} {actions : List α}
    (executed : run step first actions = some last) :
    Guarded step (fun _ action => allowed action) first actions ↔ ∀ action ∈ actions, allowed action := by
  refine ⟨fun guarded => ?_, guarded_of_forall first⟩
  induction actions generalizing first with
  | nil =>
    intro action member
    cases member
  | cons action rest ih =>
    obtain ⟨next, stepped, remaining⟩ := run_cons_eq_some.mp executed
    exact List.forall_mem_cons.mpr ⟨guarded.1, ih remaining (guarded.2 next stepped)⟩

/-- A run is guarded if breaking the guard would have left a mark for good. -/
theorem guarded_of_unmarked {marked : σ → Prop} {guard : σ → α → Prop}
    (marks : ∀ before action after, step before action = some after → ¬ guard before action → marked after)
    (stays : ∀ before action after, step before action = some after → marked before → marked after)
    {first last : σ} {actions : List α} (executed : run step first actions = some last) (unmarked : ¬ marked last) :
    Guarded step guard first actions := by
  induction actions generalizing first with
  | nil => trivial
  | cons action rest ih =>
    obtain ⟨next, stepped, remaining⟩ := run_cons_eq_some.mp executed
    refine ⟨?_, fun other same => ?_⟩
    · by_contra broken
      exact unmarked (run_preserves stays remaining (marks _ _ _ stepped broken))
    · cases stepped.symm.trans same
      exact ih remaining

/-- The property holds at first and after every action of the schedule. -/
def Always (step : σ → α → Option σ) (property : σ → Prop) : σ → List α → Prop
  | state, [] => property state
  | state, action :: rest => property state ∧ ∀ next, step state action = some next → Always step property next rest

theorem Always.first {property : σ → Prop} {state : σ} {actions : List α} (always : Always step property state actions) :
    property state := by
  cases actions with
  | nil => exact always
  | cons action rest => exact always.1

/-- A property that a step keeps exactly when the guard holds is true all along
the guarded runs and no others. -/
theorem always_iff_guarded {property support : σ → Prop} {guard : σ → α → Prop}
    (kept : ∀ before action after, step before action = some after → property before → support before →
      support after ∧ (property after ↔ guard before action))
    {first last : σ} {actions : List α} (executed : run step first actions = some last)
    (initial : property first) (supported : support first) :
    Always step property first actions ↔ Guarded step guard first actions := by
  induction actions generalizing first with
  | nil => exact iff_of_true initial trivial
  | cons action rest ih =>
    obtain ⟨next, stepped, remaining⟩ := run_cons_eq_some.mp executed
    obtain ⟨supportedNext, exactly⟩ := kept _ _ _ stepped initial supported
    simp only [Always, Guarded, stepped, Option.some.injEq, forall_eq', initial, true_and]
    constructor
    · intro always
      exact ⟨exactly.mp always.first, (ih remaining always.first supportedNext).mp always⟩
    · rintro ⟨guarded, rest⟩
      exact (ih remaining (exactly.mpr guarded) supportedNext).mpr rest

def Halted (step : σ → α → Option σ) (state : σ) : Prop := ∀ action, step state action = none

/-- A terminating system can always be scheduled until nothing is enabled. -/
theorem exists_halted {measure : σ → Nat}
    (lowers : ∀ before action after, step before action = some after → measure after < measure before)
    (first : σ) : ∃ actions last, run step first actions = some last ∧ Halted step last := by
  classical
  by_cases enabled : ∃ action next, step first action = some next
  · obtain ⟨action, next, stepped⟩ := enabled
    obtain ⟨rest, last, executed, halted⟩ := exists_halted lowers next
    exact ⟨action :: rest, last, run_cons_eq_some.mpr ⟨next, stepped, executed⟩, halted⟩
  · refine ⟨[], first, rfl, fun action => ?_⟩
    cases outcome : step first action with
    | none => rfl
    | some next => exact False.elim (enabled ⟨action, next, outcome⟩)
termination_by measure first
decreasing_by exact lowers _ _ _ stepped

/-- A guard that leaves something to do until nothing is enabled, and under which
the system terminates, can be kept to the end. -/
theorem exists_guarded_halted {assertion : σ → Prop} {guard : σ → α → Prop} {measure : σ → Nat}
    (kept : ∀ before action after, step before action = some after → guard before action → assertion before →
      assertion after ∧ measure after < measure before)
    (enabled : ∀ state, assertion state → ¬ Halted step state →
      ∃ action next, guard state action ∧ step state action = some next)
    {first : σ} (initial : assertion first) :
    ∃ actions last, run step first actions = some last ∧ Guarded step guard first actions ∧ Halted step last := by
  by_cases halted : Halted step first
  · exact ⟨[], first, rfl, trivial, halted⟩
  · obtain ⟨action, next, allowed, stepped⟩ := enabled first initial halted
    have smaller := kept _ _ _ stepped allowed initial
    obtain ⟨rest, last, executed, guarded, halts⟩ := exists_guarded_halted kept enabled smaller.1
    refine ⟨action :: rest, last, run_cons_eq_some.mpr ⟨next, stepped, executed⟩, ⟨allowed, ?_⟩, halts⟩
    intro other same
    cases stepped.symm.trans same
    exact guarded
termination_by measure first
decreasing_by exact smaller.2

end DatafusionRay.Foundation
