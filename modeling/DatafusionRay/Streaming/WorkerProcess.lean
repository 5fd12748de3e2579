import DatafusionRay.Streaming.RunningTask
import DatafusionRay.Streaming.Scheduler

/-! A worker with the operator tasks it has spawned and the exchange channels that
these publish. `start_task_from` spawns the operator task before it looks at the
running tasks, so the spawned task may take any number of steps in between. -/

namespace DatafusionRay.Streaming

/-- Channels are named by their order of creation. -/
structure DataExchangeManager (ρ : Type) where
  exchangeChannelStore : ExchangeChannelStore ρ
  created : Nat

def DataExchangeManager.start {ρ : Type} : DataExchangeManager ρ := ⟨∅, 0⟩

/-- The arguments of `start_task_from`. -/
structure StartTask (ρ : Type) where
  definition : TaskDefinition2 ρ
  details : InitialSchedulingDetails
  checkpoint : Nat

inductive TaskPhase where
  | initialising (pending : List Nat)
  | loading
  | running
  | ended (result : Except Failure Unit)
  | aborted
  deriving DecidableEq, Repr

/-- A step of an operator task. The `init` futures of the operators in a tree finish
in any order. What another crate or an operator's own work decides is given with
the step: whether a state directory opens, how a load ends, and with how many
output streams a run ends. -/
inductive TaskStep where
  | init (leaf : Nat) (opened : Except DataFusionError Unit)
  | load (result : Except DataFusionError Unit)
  | run (result : Except DataFusionError Nat)
  deriving DecidableEq, Repr

/-- An operator task, and what the call that spawned it has returned. -/
structure OperatorTask (ρ : Type) where
  definition : TaskDefinition2 ρ
  checkpoint : Nat
  runner : RunningTask
  phase : TaskPhase
  reply : Option (Except DataFusionError Unit)

section
variable {ρ : Type}

/-- `init` of an operator that is not nested. Only an exchange output changes
anything that other tasks can see. -/
def initOperator (exchange : DataExchangeManager ρ) (details : SchedulingDetails) (opened : Except DataFusionError Unit)
    (stateId : String) : RunningSpec ρ → Except Failure (DataExchangeManager ρ)
  | .identity | .source _ | .remoteExchangeInput _ | .nested _ => .ok exchange
  | .countStar | .countByKey _ =>
    match CountStarFunction.init stateId details.generations [], opened with
    | .error error, _ | .ok _, .error error => .error (.error error)
    | .ok _, .ok _ => .ok exchange
  | .remoteExchangeOutput operator =>
    match details.generations with
    | none => .error (.panicked "called `Option::unwrap()` on a `None` value")
    | some generations =>
      (operator.init exchange.exchangeChannelStore exchange.created generations).map fun store =>
        ⟨store, exchange.created + 1⟩

def TaskPhase.afterInit : List Nat → TaskPhase
  | [] => .loading
  | pending => .initialising pending

namespace OperatorTask

def spawn (request : StartTask ρ) : OperatorTask ρ where
  definition := request.definition
  checkpoint := request.checkpoint
  runner := .start request.details.inputLocations request.details.generations
  phase := .afterInit (List.range request.definition.operator.leaves.length)
  reply := none

/-- `operator_main_loop`. An error of the external kind starts the loop again from
the same checkpoint: the source never makes the one error of that kind that
would name another. -/
def step (task : OperatorTask ρ) (exchange : DataExchangeManager ρ) (step : TaskStep) :
    Option (OperatorTask ρ × DataExchangeManager ρ) :=
  match task.phase, step with
  | .initialising pending, .init leaf opened =>
    if leaf ∈ pending then
      task.definition.operator.leaves[leaf]?.map fun (stateId, spec) =>
        match initOperator exchange task.runner.schedulingDetails opened stateId spec with
        | .ok exchange => ({ task with phase := .afterInit (pending.erase leaf) }, exchange)
        | .error failure => ({ task with phase := .ended (.error failure) }, exchange)
    else none
  | .loading, .load (.ok ()) => some ({ task with phase := .running }, exchange)
  | .loading, .load (.error error) => some ({ task with phase := .ended (.error (.error error)) }, exchange)
  | .running, .run (.ok 0) => some ({ task with phase := .ended (.ok ()) }, exchange)
  | .running, .run (.ok _) =>
    some ({ task with phase := .ended (.error (.panicked "assertion `left == right` failed")) }, exchange)
  | .running, .run (.error (.external _)) => some ({ task with phase := .loading }, exchange)
  | .running, .run (.error error) => some ({ task with phase := .ended (.error (.error error)) }, exchange)
  | _, _ => none

/-- A task that has ended is not aborted any more. -/
def abort (task : OperatorTask ρ) : OperatorTask ρ :=
  match task.phase with
  | .ended _ => task
  | _ => { task with phase := .aborted }

end OperatorTask

end

/-- A running task is named by the position of its operator task. -/
structure WorkerProcess (ρ : Type) where
  exchange : DataExchangeManager ρ
  tasks : List (OperatorTask ρ)
  runningTasks : AList fun _ : String => Nat

inductive WorkerAction (ρ : Type) where
  | startTask (request : StartTask ρ)
  | register (position : Nat)
  | updateInput (taskId : String) (update : TaskSchedulingDetailsUpdate)
  | task (position : Nat) (step : TaskStep)
  | abort (position : Nat)

namespace WorkerProcess
variable {ρ : Type}

def start : WorkerProcess ρ := ⟨.start, [], ∅⟩

def alreadyRunning (taskId : String) : DataFusionError := .internal s!"Task with ID {taskId} is already running"

/-- The second half of `start_task_from`, under the lock of the running tasks. -/
def register (worker : WorkerProcess ρ) (position : Nat) (task : OperatorTask ρ) : WorkerProcess ρ :=
  match worker.runningTasks.lookup task.definition.taskId with
  | some _ =>
    { worker with tasks := worker.tasks.set position
                    { task with reply := some (.error (alreadyRunning task.definition.taskId)) } }
  | none =>
    { worker with tasks := worker.tasks.set position { task with reply := some (.ok ()) }
                  runningTasks := worker.runningTasks.insert task.definition.taskId position }

/-- A task whose root has streams of its own is refused before anything is
spawned, and an update for a task that is not running is refused as well. -/
def step (worker : WorkerProcess ρ) : WorkerAction ρ → Option (WorkerProcess ρ)
  | .startTask request =>
    if request.definition.operator.inputs ≠ [] ∨ request.definition.operator.outputs ≠ [] then some worker
    else some { worker with tasks := worker.tasks ++ [.spawn request] }
  | .register position =>
    worker.tasks[position]?.bind fun task => if task.reply = none then some (worker.register position task) else none
  | .updateInput taskId update =>
    match worker.runningTasks.lookup taskId with
    | none => some worker
    | some position =>
      worker.tasks[position]?.map fun task =>
        { worker with tasks := worker.tasks.set position
                        { task with runner := task.runner.updateSchedulingDetails update } }
  | .task position taskStep =>
    worker.tasks[position]?.bind fun task =>
      (task.step worker.exchange taskStep).map fun (next, exchange) =>
        { worker with exchange, tasks := worker.tasks.set position next }
  | .abort position =>
    worker.tasks[position]?.bind fun task =>
      match task.reply with
      | some (.error _) => some { worker with tasks := worker.tasks.set position task.abort }
      | _ => none

end WorkerProcess

end DatafusionRay.Streaming
