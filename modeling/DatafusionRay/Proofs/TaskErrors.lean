import DatafusionRay.Foundation.Execution
import DatafusionRay.Streaming.MainLoop

/-! Which errors of an operator function end its task. Every load error does, and
every run error that is not an external one; an external error other than the one
the loop looks for starts the operator again as if nothing had happened. -/

namespace DatafusionRay.Proofs.TaskErrors
open Streaming Foundation

/-- The error of a call, unless it is the one that the loop recovers from. -/
def otherError : OperatorCall → Option TaskError
  | .load _ (.error (.other error)) | .run (.error (.other error)) => some (.other error)
  | _ => none

def runOutcome : OperatorCall → Option (Except TaskError Nat)
  | .run outcome => some outcome
  | .load _ _ => none

def runs (loop : MainLoop) : List (Except TaskError Nat) := loop.calls.filterMap runOutcome

/-- The loop has returned the first other error that a call produced, and whatever
was run again had failed out of order. -/
structure Reported (loop : MainLoop) : Prop where
  first : ∀ error, loop.calls.findSome? otherError = some error → loop.phase = .returned (.error error)
  again : ∀ outcome ∈ (runs loop).dropLast, ∃ error, outcome = .error (.outOfOrderGenerations error)

/-- The call whose outcome this is does not fail with an external error that boxes anything else. -/
def Recoverable : CallOutcome → Prop
  | .run (.error error) _ => error.isExternal = true → error.downcastRef.isSome = true
  | _ => True

instance : DecidablePred Recoverable
  | .run (.error error) _ => inferInstanceAs (Decidable (error.isExternal = true → error.downcastRef.isSome = true))
  | .run (.ok _) _ | .init _ | .load _ => .isTrue trivial

/-- A loop that still goes on has not seen a run succeed. -/
def Unsuccessful (loop : MainLoop) : Prop :=
  loop.phase = .initialising ∨ loop.phase = .loading ∨ loop.phase = .running → ∀ count, .ok count ∉ runs loop

inductive Move (before : MainLoop) : CallOutcome → MainLoop → Prop where
  | initialised (at_ : before.phase = .initialising) : Move before (.init (.ok ())) { before with phase := .loading }
  | uninitialised {error} (at_ : before.phase = .initialising) :
      Move before (.init (.error error)) { before with phase := .returned (.error error) }
  | load {result} (at_ : before.phase = .loading) :
      Move before (.load result) ((before.record (.load before.checkpoint result)).onLoad result)
  | run {result lastCheckpoint} (at_ : before.phase = .running) :
      Move before (.run result lastCheckpoint) ((before.record (.run result)).onRun lastCheckpoint result)

theorem step_moves {before after : MainLoop} {outcome : CallOutcome} (stepped : before.step outcome = some after) :
    Move before outcome after := by
  unfold MainLoop.step at stepped
  split at stepped
  next at_ =>
    cases stepped
    exact .initialised at_
  next at_ =>
    cases stepped
    exact .uninitialised at_
  next at_ =>
    cases stepped
    exact .load at_
  next at_ =>
    cases stepped
    exact .run at_
  next => cases stepped

section Step
variable {loop : MainLoop}

@[simp] theorem calls_onLoad (loop : MainLoop) (result : Except TaskError Unit) : (loop.onLoad result).calls = loop.calls := by
  cases result <;> rfl

@[simp] theorem calls_onError (loop : MainLoop) (error : TaskError) (lastCheckpoint : Nat) :
    (loop.onError error lastCheckpoint).calls = loop.calls := by
  unfold MainLoop.onError
  split
  · split <;> rfl
  · rfl

@[simp] theorem calls_onRun (loop : MainLoop) (lastCheckpoint : Nat) (result : Except TaskError Nat) :
    (loop.onRun lastCheckpoint result).calls = loop.calls := by
  rcases result with error | count
  · exact calls_onError loop error lastCheckpoint
  · cases count <;> rfl

@[simp] theorem runs_load (loop : MainLoop) (checkpoint : Nat) (result : Except TaskError Unit) :
    runs ((loop.record (.load checkpoint result)).onLoad result) = runs loop := by
  simp [runs, MainLoop.record, runOutcome]

@[simp] theorem runs_run (loop : MainLoop) (lastCheckpoint : Nat) (result : Except TaskError Nat) :
    runs ((loop.record (.run result)).onRun lastCheckpoint result) = runs loop ++ [result] := by
  simp [runs, MainLoop.record, runOutcome]

/-- While the loop goes on, no call has produced another error. -/
theorem Reported.unfailed (reported : Reported loop) (going : ∀ result, loop.phase ≠ .returned result) :
    loop.calls.findSome? otherError = none := by
  cases found : loop.calls.findSome? otherError with
  | none => rfl
  | some error => exact False.elim (going _ (reported.first error found))

/-- So every run it has made failed out of order. -/
theorem Reported.runs_outOfOrder (reported : Reported loop) (unsuccessful : Unsuccessful loop)
    (running : loop.phase = .running) : ∀ outcome ∈ runs loop, ∃ error, outcome = .error (.outOfOrderGenerations error) := by
  have unfailed := reported.unfailed (by intro result returned; cases running.symm.trans returned)
  intro outcome member
  obtain ⟨call, listed, same⟩ := List.mem_filterMap.mp member
  have quiet : otherError call = none := List.findSome?_eq_none_iff.mp unfailed call listed
  cases call with
  | load checkpoint result => cases same
  | run result =>
    cases same
    rcases outcome with (error | error) | count
    · exact ⟨error, rfl⟩
    · cases quiet
    · exact False.elim (unsuccessful (.inr (.inr running)) count member)

end Step

theorem Unsuccessful.move {before after : MainLoop} {outcome : CallOutcome} (moved : Move before outcome after)
    (unsuccessful : Unsuccessful before) : Unsuccessful after := by
  cases moved with
  | initialised at_ =>
    intro _
    exact unsuccessful (.inl at_)
  | uninitialised at_ =>
    intro _
    exact unsuccessful (.inl at_)
  | load at_ =>
    intro _
    rw [runs_load]
    exact unsuccessful (.inr (.inl at_))
  | @run result lastCheckpoint at_ =>
    intro going count
    rw [runs_run, List.mem_append, List.mem_singleton, not_or]
    refine ⟨unsuccessful (.inr (.inr at_)) count, ?_⟩
    rintro rfl
    cases count <;> simp [MainLoop.onRun] at going

private theorem Reported.load {loop : MainLoop} {result : Except TaskError Unit} (reported : Reported loop)
    (loading : loop.phase = .loading) :
    Reported ((loop.record (.load loop.checkpoint result)).onLoad result) := by
  have unfailed := reported.unfailed (by intro other returned; cases loading.symm.trans returned)
  constructor
  · intro error found
    rw [calls_onLoad, MainLoop.record, List.findSome?_append, unfailed, Option.none_or, List.findSome?_singleton] at found
    rcases result with (error | error) | done
    · cases found
    · cases found
      rfl
    · cases found
  · rw [runs_load]
    exact reported.again

/-- A run is reported as it should be if its error can be recovered from or is returned. -/
private theorem Reported.run {loop : MainLoop} {result : Except TaskError Nat} {lastCheckpoint : Nat}
    (reported : Reported loop) (unsuccessful : Unsuccessful loop) (running : loop.phase = .running) :
    Reported ((loop.record (.run result)).onRun lastCheckpoint result) ↔
      ∀ error, otherError (.run result) = some error →
        ((loop.record (.run result)).onRun lastCheckpoint result).phase = .returned (.error error) := by
  have unfailed := reported.unfailed (by intro other returned; cases running.symm.trans returned)
  have found : ((loop.record (.run result)).onRun lastCheckpoint result).calls.findSome? otherError =
      otherError (.run result) := by
    rw [calls_onRun, MainLoop.record, List.findSome?_append, unfailed, Option.none_or, List.findSome?_singleton]
  constructor
  · intro after error other
    exact after.first error (found.trans other)
  · intro returned
    refine ⟨fun error other => returned error (found.symm.trans other), ?_⟩
    rw [runs_run, List.dropLast_concat]
    exact reported.runs_outOfOrder unsuccessful running

theorem Reported.move {before after : MainLoop} {outcome : CallOutcome} (moved : Move before outcome after)
    (reported : Reported before) (unsuccessful : Unsuccessful before) : Reported after ↔ Recoverable outcome := by
  cases moved with
  | initialised at_ | uninitialised at_ =>
    have unfailed := reported.unfailed (by intro other returned; cases at_.symm.trans returned)
    refine iff_of_true ⟨fun error found => ?_, reported.again⟩ trivial
    cases unfailed.symm.trans found
  | load at_ => exact iff_of_true (reported.load at_) trivial
  | @run result lastCheckpoint at_ =>
    rw [reported.run unsuccessful at_]
    rcases result with (error | error) | count
    · refine iff_of_true (fun other found => ?_) (fun _ => rfl)
      cases found
    · cases error with
      | external message =>
        refine iff_of_false (fun returned => ?_) (fun recoverable => ?_)
        · cases returned _ rfl
        · cases recoverable rfl
      | execution message | internal message | arrowError message =>
        refine iff_of_true (fun other found => ?_) (fun external => ?_)
        · cases found
          rfl
        · cases external
    · refine iff_of_true (fun other found => ?_) trivial
      cases found

theorem Reported.start (initialCheckpoint : Nat) : Reported (.start initialCheckpoint) := by
  constructor
  · intro error found
    cases found
  · intro outcome member
    cases member

/-- Errors are reported all along if and only if no run fails with an external error
other than the one that the loop recovers from. -/
theorem errors_reported_iff (initialCheckpoint : Nat) (outcomes : List CallOutcome) (loop : MainLoop)
    (executed : run MainLoop.step (.start initialCheckpoint) outcomes = some loop) :
    Always MainLoop.step Reported (.start initialCheckpoint) outcomes ↔ ∀ outcome ∈ outcomes, Recoverable outcome := by
  have kept (before : MainLoop) (outcome : CallOutcome) (after : MainLoop) (stepped : before.step outcome = some after)
      (reported : Reported before) (unsuccessful : Unsuccessful before) :
      Unsuccessful after ∧ (Reported after ↔ Recoverable outcome) := by
    have moved := step_moves stepped
    exact ⟨unsuccessful.move moved, reported.move moved unsuccessful⟩
  have fresh : Unsuccessful (.start initialCheckpoint) := by
    intro _ count member
    cases member
  rw [always_iff_guarded kept executed (.start initialCheckpoint) fresh]
  exact guarded_iff_forall executed

/-- Out of order once, and then done. -/
theorem out_of_order_reported :
    Always MainLoop.step Reported (.start 4) [.init (.ok ()), .load (.ok ()),
      .run (.error (.outOfOrderGenerations ⟨"generation-2"⟩)) 3, .load (.ok ()), .run (.ok 0) 0] :=
  (errors_reported_iff 4 _ _ rfl).mpr (by decide)

/-- The task of a run that failed with an external error is reported as completed. -/
theorem external_error_swallowed :
    run MainLoop.step (.start 4) [.init (.ok ()), .load (.ok ()), .run (.error (.other (.external "disk full"))) 0,
      .load (.ok ()), .run (.ok 0) 0] =
    some ⟨4, .returned (.ok ()), [.load 4 (.ok ()), .run (.error (.other (.external "disk full"))), .load 4 (.ok ()),
      .run (.ok 0)]⟩ := by decide

section Worker
variable {ρ : Type}

/-- The phase of the main loop that an operator task of a worker is in. -/
def loopPhase : TaskPhase → Option MainLoopPhase
  | .initialising _ => some .initialising
  | .loading => some .loading
  | .running => some .running
  | .ended (.ok ()) => some (.returned (.ok ()))
  | .ended (.error (.error error)) => some (.returned (.error (.other error)))
  | .ended (.error (.panicked message)) => some (.panicked message)
  | .aborted => none

/-- The outcome that the main loop sees; the operators of a worker never fail out of order. -/
def callOutcome : TaskStep → Option CallOutcome
  | .init _ _ => none
  | .load result => some (.load (result.mapError .other))
  | .run result => some (.run (result.mapError .other) 0)

private theorem step_load {loop : MainLoop} (loading : loop.phase = .loading) (result : Except TaskError Unit) :
    loop.step (.load result) = some ((loop.record (.load loop.checkpoint result)).onLoad result) := by
  simp only [MainLoop.step, loading]

private theorem step_run {loop : MainLoop} (running : loop.phase = .running) (result : Except TaskError Nat)
    (lastCheckpoint : Nat) :
    loop.step (.run result lastCheckpoint) = some ((loop.record (.run result)).onRun lastCheckpoint result) := by
  simp only [MainLoop.step, running]

/-- The loads and runs of an operator task of a worker are those of the main loop. -/
theorem operator_task_follows {task next : OperatorTask ρ} {exchange after : DataExchangeManager ρ} {step : TaskStep}
    (stepped : task.step exchange step = some (next, after)) {outcome : CallOutcome}
    (call : callOutcome step = some outcome) {loop : MainLoop} (same : loopPhase task.phase = some loop.phase) :
    ∃ target, loop.step outcome = some target ∧ loopPhase next.phase = some target.phase := by
  cases step with
  | init leaf opened => cases call
  | load result =>
    cases call
    cases at_ : task.phase with
    | loading =>
      rw [at_] at same
      refine ⟨_, step_load (Option.some.inj same).symm _, ?_⟩
      cases result <;> simp only [OperatorTask.step, at_] at stepped <;> cases stepped <;> rfl
    | _ => simp [OperatorTask.step, at_] at stepped
  | run result =>
    cases call
    cases at_ : task.phase with
    | running =>
      rw [at_] at same
      refine ⟨_, step_run (Option.some.inj same).symm _ _, ?_⟩
      rcases result with error | count
      · cases error <;> simp only [OperatorTask.step, at_] at stepped <;> cases stepped <;> rfl
      · cases count <;> simp only [OperatorTask.step, at_] at stepped <;> cases stepped <;> rfl
    | _ => simp [OperatorTask.step, at_] at stepped

end Worker

end DatafusionRay.Proofs.TaskErrors
