import DatafusionRay.Streaming.RemoteSource

/-! A running task under scheduling updates. The task runner keeps what it was told
so far; its operators read an observable that every update sets anew. -/

namespace DatafusionRay.Streaming

structure TaskSchedulingDetailsUpdate where
  generation : Option GenerationSpec
  inputDetails : Option (List GenerationInputDetail)
  deriving DecidableEq, Repr

structure RunningTask where
  generations : List GenerationSpec
  inputLocations : List GenerationInputDetail
  schedulingDetails : SchedulingDetails
  deriving DecidableEq, Repr

namespace RunningTask

def start (initialInputLocations : List GenerationInputDetail) (generations : List GenerationSpec) : RunningTask :=
  ⟨generations, initialInputLocations, ⟨some generations, some initialInputLocations⟩⟩

def updateSchedulingDetails (task : RunningTask) (details : TaskSchedulingDetailsUpdate) : RunningTask where
  generations := task.generations ++ details.generation.toList
  inputLocations := details.inputDetails.getD task.inputLocations
  schedulingDetails := ⟨details.generation.map fun generation => [generation], details.inputDetails⟩

def updateAll (task : RunningTask) (updates : List TaskSchedulingDetailsUpdate) : RunningTask :=
  updates.foldl updateSchedulingDetails task

end RunningTask

end DatafusionRay.Streaming
