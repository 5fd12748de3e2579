import DatafusionRay.Streaming.Operator

/-! The first scheduling details of a set of tasks: one generation for all of
them, and for every exchange output the task that produces it. -/

namespace DatafusionRay.Streaming

structure InitialSchedulingDetails where
  generations : List GenerationSpec
  inputLocations : List GenerationInputDetail
  deriving DecidableEq, Repr

variable {ρ : Type}

/-- Both schedulers, by the partitions they give to all tasks. -/
def scheduleWith (partitions : PartitionRange) (assignedTasks : List (TaskDefinition2 ρ × String)) :
    InitialSchedulingDetails where
  generations := [⟨"initial_generation", partitions, []⟩]
  inputLocations := assignedTasks.flatMap fun (task, address) =>
    task.exchangeOutputs.map fun streamId => ⟨streamId, [⟨address, (0, 2 <<< 31), partitions⟩]⟩

def scheduleWithoutPartitionsInner (assignedTasks : List (TaskDefinition2 ρ × String)) : InitialSchedulingDetails :=
  scheduleWith .empty assignedTasks

def scheduleWithConstantPartitions (assignedTasks : List (TaskDefinition2 ρ × String)) (partition : PartitionRange) :
    InitialSchedulingDetails :=
  scheduleWith partition assignedTasks

end DatafusionRay.Streaming
