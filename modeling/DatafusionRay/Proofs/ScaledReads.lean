import DatafusionRay.Foundation.Execution
import DatafusionRay.Foundation.FiniteMap
import DatafusionRay.Foundation.TryFilterMap
import DatafusionRay.Proofs.RangeSplit
import DatafusionRay.Proofs.RowPartition
import DatafusionRay.Proofs.StreamSections
import DatafusionRay.Streaming.ActiveCoordinator

/-! What the copies that `scale_up` adds read. They all read from the copies that the
coordinator started first, whatever was scaled up before, and share the rows of these among
themselves. -/

namespace DatafusionRay.Proofs.ScaledReads
open Streaming ActiveCoordinator Foundation StreamSections

variable {ρ : Type}

section Calls
variable {env : ComputeEnv ρ} {coordinator : ActiveCoordinator ρ} {sent : List (PlanUpdate ρ)}

end Calls

/-- An output of a task that reaches a reader over one channel of the processor that runs the task. -/
structure Feed (ρ : Type) where
  address : String
  streamId : String
  spec : RowHash ρ
  channel : Nat

/-- The partitions of one new copy. -/
structure Within (range : PartitionRange) : Prop where
  count : range.partitions = newPartitionCap
  ordered : range.start ≤ range.stop
  bounded : range.stop ≤ newPartitionCap

namespace Within
variable {range : PartitionRange} {checkpoint : Nat}

end Within

/-- What a copy receives of a feed that it reads. -/
def share (peers : Peers ρ) (range : PartitionRange) (feed : Feed ρ) : List (SResult ρ) :=
  peers.received feed.address feed.channel (some ⟨feed.spec, range⟩)

section Reads
variable {assigned : List (TaskDefinition2 ρ × String)} {taskId : String} {peers : Peers ρ} {feeds : List (Feed ρ)}
  {range : PartitionRange} {checkpoint : Nat}

end Reads

/-- One task counts the rows that another one sends. -/
def counting : List (TaskDefinition2 Nat) :=
  [⟨"numbers", .mk "1" "1" (.remoteExchangeOutput ⟨"rows", some UInt64.ofNat⟩) [] []⟩,
    ⟨"counts", .mk "2" "2" (.nested ⟨[], [
      .mk "3" "3" (.remoteExchangeInput ["rows"]) [] [⟨"read", 0⟩],
      .mk "4" "4" (.countByKey "number") [⟨"read", 0⟩] [⟨"counted", 0⟩]], [(0, "counted")]⟩) [] []⟩]

end DatafusionRay.Proofs.ScaledReads
