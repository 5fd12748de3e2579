import DatafusionRay.Streaming.Coordinator
import DatafusionRay.Streaming.RemoteSource
import DatafusionRay.Streaming.Scheduler

/-! The coordinator that starts one copy of every task and adds copies of one of them later.
Neither the copies it adds nor those that they replace are written down, so every call sees
the tasks as they were started. -/

namespace DatafusionRay.Streaming

/-- A copy of a task, by the address of the processor that runs it. -/
structure TaskCopy where
  address : String
  partitions : PartitionRange
  deriving DecidableEq, Repr

/-- A plan that a processor is sent, with the checkpoint that it starts from if one is named. -/
structure PlanUpdate (ρ : Type) where
  address : String
  task : TaskDefinition2 ρ
  details : InitialSchedulingDetails
  checkpoint : Option Nat

/-- Exceptions of the Python side are given by their texts. -/
inductive CoordinatorError where
  | scaleUp (error : ScaleUpError)
  | python (message : String)
  deriving DecidableEq, Repr

/-- What the cluster does in one call: the processors it starts and the plans they take. -/
structure ComputeEnv (ρ : Type) where
  startManyProcessors : Nat → Except String (List String)
  updatePlan : PlanUpdate ρ → Except String Unit

variable {ρ : Type}

/-- The plans are sent one after the other, up to the first one that is not taken. -/
def ComputeEnv.sendPlans (env : ComputeEnv ρ) : List (PlanUpdate ρ) → List (PlanUpdate ρ) × Except CoordinatorError Unit
  | [] => ([], .ok ())
  | update :: rest =>
    match env.updatePlan update with
    | .error message => ([], .error (.python message))
    | .ok () =>
      let later := env.sendPlans rest
      (update :: later.1, later.2)

structure ActiveCoordinator (ρ : Type) where
  tasks : List (TaskDefinition2 ρ × List TaskCopy)

namespace ActiveCoordinator

/-- Where the outputs of all tasks but one can be read. -/
def inputLocations (coordinator : ActiveCoordinator ρ) (taskId : String) : List GenerationInputDetail :=
  (coordinator.tasks.filter fun entry => entry.1.taskId ≠ taskId).flatMap fun (task, copies) =>
    task.exchangeOutputs.map fun streamId =>
      ⟨streamId, copies.map fun copy => ⟨copy.address, (0, 2 <<< 31), copy.partitions⟩⟩

/-- The plan of a new copy. -/
def scaledPlan (coordinator : ActiveCoordinator ρ) (task : TaskDefinition2 ρ) (taskId : String)
    (copy : (PartitionRange × Nat) × String) : PlanUpdate ρ :=
  let ((partition, checkpoint), address) := copy
  let id := task.taskId
  ⟨address, task, ⟨[⟨s!"{id}-{address}", partition, []⟩], coordinator.inputLocations taskId⟩, some checkpoint⟩

def scaleUp (coordinator : ActiveCoordinator ρ) (env : ComputeEnv ρ) (latestJson : String → Option LatestText)
    (taskId : String) (newNumber : Nat) : List (PlanUpdate ρ) × Except CoordinatorError Unit :=
  match coordinator.tasks.find? fun entry => entry.1.taskId = taskId with
  | none => ([], .error (.scaleUp (.value s!"Task with ID {taskId} not found")))
  | some (task, _) =>
    match scaleUpCheckpoints latestJson task newNumber with
    | .error error => ([], .error (.scaleUp error))
    | .ok partitions =>
      match env.startManyProcessors newNumber with
      | .error message => ([], .error (.python message))
      | .ok addresses => env.sendPlans ((partitions.zip addresses).map (coordinator.scaledPlan task taskId))

end ActiveCoordinator

/-- A coordinator with all plans that were sent. -/
structure CoordinatorRun (ρ : Type) where
  coordinator : ActiveCoordinator ρ
  sent : List (PlanUpdate ρ)

/-- A call of `scale_up`, with the cluster and the stored checkpoints at its time. -/
structure ScaleUpCall (ρ : Type) where
  taskId : String
  newNumber : Nat
  env : ComputeEnv ρ
  latestJson : String → Option LatestText

def CoordinatorRun.step (state : CoordinatorRun ρ) (call : ScaleUpCall ρ) : Option (CoordinatorRun ρ) :=
  let (sent, _) := state.coordinator.scaleUp call.env call.latestJson call.taskId call.newNumber
  some { state with sent := state.sent ++ sent }

end DatafusionRay.Streaming
