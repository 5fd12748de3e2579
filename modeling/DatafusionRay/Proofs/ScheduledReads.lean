import DatafusionRay.Foundation.FiniteMap
import DatafusionRay.Streaming.Scheduler

/-! The reads that the first scheduling details lead to. The address of a produced
stream is always found, but the range that goes with it fits only one of the two
kinds of outputs. -/

namespace DatafusionRay.Proofs.ScheduledReads
open Streaming Foundation

variable {ρ : Type} {tasks : List (TaskDefinition2 ρ × String)}

/-- One task reads a stream that an output of another, or the same, task produces. -/
structure Read (tasks : List (TaskDefinition2 ρ × String)) (address : String)
    (output : RemoteExchangeOperatorFunction ρ) : Prop where
  produced : ∃ producer, (producer, address) ∈ tasks ∧ output ∈ producer.outputOperators
  consumed : ∃ reader ∈ tasks, output.outputStreamId ∈ reader.1.exchangeInputs

/-- The reader gets the producer's address alone, and with the range that comes with
it the stream that the producer has published can be opened. -/
def Accepted (details : InitialSchedulingDetails) (address : String) (output : RemoteExchangeOperatorFunction ρ)
    (checkpoint : Nat) : Prop :=
  ∃ generation range,
    findCurrentGeneration [output.outputStreamId] details.generations checkpoint = .ok generation ∧
    getAddresses generation.partitions checkpoint [output.outputStreamId] details.inputLocations =
      .ok [(output.outputStreamId, address, range)] ∧
    ∀ store channel, ∃ published opened, output.init store channel details.generations = .ok published ∧
      published.stream output.outputStreamId range = .ok opened

section Scheduled
variable {partitions range : PartitionRange} {address : String} {output : RemoteExchangeOperatorFunction ρ} {checkpoint : Nat}

private theorem find_location (distinct : (tasks.flatMap fun task => task.1.exchangeOutputs).Nodup)
    (read : Read tasks address output) :
    (scheduleWith partitions tasks).inputLocations.find? (fun detail => detail.streamId == output.outputStreamId) =
      some ⟨output.outputStreamId, [⟨address, (0, 2 <<< 31), partitions⟩]⟩ := by
  obtain ⟨producer, assigned, member⟩ := read.produced
  have streams : (scheduleWith partitions tasks).inputLocations.map GenerationInputDetail.streamId =
      tasks.flatMap fun task => task.1.exchangeOutputs := by
    simp [scheduleWith, List.map_flatMap, Function.comp_def]
  have listed : (⟨output.outputStreamId, [⟨address, (0, 2 <<< 31), partitions⟩]⟩ : GenerationInputDetail) ∈
      (scheduleWith partitions tasks).inputLocations :=
    List.mem_flatMap.mpr ⟨_, assigned, List.mem_map_of_mem (List.mem_map_of_mem member)⟩
  exact FiniteMap.find_of_mem (streams ▸ distinct) listed

private theorem getAddresses_scheduled (distinct : (tasks.flatMap fun task => task.1.exchangeOutputs).Nodup)
    (read : Read tasks address output) :
    getAddresses partitions checkpoint [output.outputStreamId] (scheduleWith partitions tasks).inputLocations =
      (getAddressesForStream partitions checkpoint
        ⟨output.outputStreamId, [⟨address, (0, 2 <<< 31), partitions⟩]⟩) := by
  simp only [getAddresses, List.mapM_cons, List.mapM_nil, find_location distinct read, bind, Except.bind, pure, Except.pure]
  cases getAddressesForStream partitions checkpoint
    ⟨output.outputStreamId, [⟨address, (0, 2 <<< 31), partitions⟩]⟩ with
  | error error => rfl
  | ok found => simp

private theorem serve_same (open_ : checkpoint < 2 ^ 32) :
    (⟨address, (0, 2 <<< 31), partitions⟩ : GenerationInputLocation).serve partitions checkpoint =
      if partitions.isEmpty then some .empty
      else if partitions.start < partitions.stop then some partitions else none := by
  have inside : 0 ≤ checkpoint ∧ checkpoint < 2 <<< 31 := ⟨Nat.zero_le _, open_⟩
  rw [GenerationInputLocation.serve, if_pos inside, Bool.and_self]
  by_cases empty : partitions.isEmpty = true
  · rw [if_pos empty, if_pos empty]
  · rw [if_neg empty, if_neg empty]
    dsimp only
    rw [PartitionRange.intersection_isEmpty, Nat.max_self, Nat.min_self]
    by_cases ordered : partitions.start < partitions.stop
    · rw [if_neg (by simpa using ordered), if_pos ordered, PartitionRange.intersection_of_lt (by simpa using ordered),
        Nat.max_self, Nat.min_self]
    · rw [if_pos (by simpa using ordered), if_neg ordered]

private theorem accepted_iff (distinct : (tasks.flatMap fun task => task.1.exchangeOutputs).Nodup)
    (read : Read tasks address output) :
    Accepted (scheduleWith partitions tasks) address output checkpoint ↔
      ∃ range, getAddressesForStream partitions checkpoint
          ⟨output.outputStreamId, [⟨address, (0, 2 <<< 31), partitions⟩]⟩ =
            .ok [(output.outputStreamId, address, range)] ∧
        match output.partitioning with
        | none => range.isEmpty = true
        | some _ => (partitions.intersection range).isEmpty = false := by
  have current : findCurrentGeneration [output.outputStreamId] (scheduleWith partitions tasks).generations checkpoint =
      .ok ⟨"initial_generation", partitions, []⟩ := rfl
  have published (store : ExchangeChannelStore ρ) (channel : Nat) :
      output.init store channel (scheduleWith partitions tasks).generations =
        .ok (store.create output.outputStreamId
          (output.partitioning.map fun partitioningSpec => ⟨partitioningSpec, partitions⟩) channel) := rfl
  have opens (range : PartitionRange) : (∀ store channel, ∃ published opened,
      output.init store channel (scheduleWith partitions tasks).generations = .ok published ∧
        published.stream output.outputStreamId range = .ok opened) ↔
      match output.partitioning with
      | none => range.isEmpty = true
      | some _ => (partitions.intersection range).isEmpty = false := by
    simp only [published, Except.ok.injEq, exists_and_left, exists_eq_left', ExchangeChannelStore.stream,
      ExchangeChannelStore.create, AList.lookup_insert]
    cases output.partitioning with
    | none => cases range.isEmpty <;> simp
    | some spec => cases empty : (partitions.intersection range).isEmpty <;> simp [empty]
  constructor
  · rintro ⟨generation, range, found, addresses, accepted⟩
    cases current.symm.trans found
    rw [getAddresses_scheduled distinct read] at addresses
    exact ⟨range, addresses, (opens range).mp accepted⟩
  · rintro ⟨range, addresses, accepted⟩
    refine ⟨_, range, current, ?_, (opens range).mpr accepted⟩
    rw [← addresses]
    exact getAddresses_scheduled distinct read

private theorem getAddressesForStream_eq_ok (open_ : checkpoint < 2 ^ 32) (streamId : String) (range : PartitionRange) :
    getAddressesForStream partitions checkpoint ⟨streamId, [⟨address, (0, 2 <<< 31), partitions⟩]⟩ =
        .ok [(streamId, address, range)] ↔
      (partitions.isEmpty = true ∧ range = .empty) ∨ (partitions.start < partitions.stop ∧ range = partitions) := by
  simp only [getAddressesForStream, List.filterMap_cons, List.filterMap_nil, serve_same open_]
  by_cases empty : partitions.isEmpty = true
  · have same : partitions.start = partitions.stop := eq_of_beq empty
    have none_ : PartitionRange.empty.size = 0 := PartitionRange.size_of_isEmpty rfl
    simp [empty, PartitionRange.size_of_isEmpty empty, none_, same, eq_comm]
  · by_cases ordered : partitions.start < partitions.stop
    · simp [empty, ordered, eq_comm]
    · -- Nothing is found, whatever the count of the range is.
      simp only [empty, ordered, Bool.false_eq_true, if_false, Option.map_none, false_and, or_self, iff_false]
      split <;> simp

theorem accepted_without_partitions (distinct : (tasks.flatMap fun task => task.1.exchangeOutputs).Nodup)
    (read : Read tasks address output) (open_ : checkpoint < 2 ^ 32) :
    Accepted (scheduleWithoutPartitionsInner tasks) address output checkpoint ↔ output.partitioning.isNone = true := by
  rw [scheduleWithoutPartitionsInner, accepted_iff distinct read]
  simp only [getAddressesForStream_eq_ok open_]
  cases output.partitioning with
  | none => simp [PartitionRange.isEmpty, PartitionRange.empty]
  | some spec => simp [PartitionRange.isEmpty, PartitionRange.empty, PartitionRange.intersection]

theorem accepted_with_constant_partitions (distinct : (tasks.flatMap fun task => task.1.exchangeOutputs).Nodup)
    (read : Read tasks address output) (open_ : checkpoint < 2 ^ 32) (nonempty : partitions.isEmpty = false) :
    Accepted (scheduleWithConstantPartitions tasks partitions) address output checkpoint ↔
      output.partitioning.isSome = true ∧ partitions.start < partitions.stop := by
  rw [scheduleWithConstantPartitions, accepted_iff distinct read]
  simp only [getAddressesForStream_eq_ok open_]
  by_cases ordered : partitions.start < partitions.stop
  · cases output.partitioning with
    | none => simp [nonempty, ordered]
    | some spec => simp [nonempty, ordered, PartitionRange.intersection_isEmpty]
  · simp [nonempty, ordered]

end Scheduled

/-- Both schedulers, over all reads of a set of tasks and all checkpoints. -/
theorem scheduled_reads_accepted_iff (distinct : (tasks.flatMap fun task => task.1.exchangeOutputs).Nodup) :
    ((∀ address output, Read tasks address output → ∀ checkpoint < 2 ^ 32,
        Accepted (scheduleWithoutPartitionsInner tasks) address output checkpoint) ↔
      ∀ address output, Read tasks address output → output.partitioning.isNone = true) ∧
    ∀ partition : PartitionRange, partition.isEmpty = false →
      ((∀ address output, Read tasks address output → ∀ checkpoint < 2 ^ 32,
          Accepted (scheduleWithConstantPartitions tasks partition) address output checkpoint) ↔
        ∀ address output, Read tasks address output →
          output.partitioning.isSome = true ∧ partition.start < partition.stop) := by
  constructor
  · constructor
    · intro accepted address output read
      exact (accepted_without_partitions distinct read (by decide)).mp (accepted address output read 0 (by decide))
    · intro unpartitioned address output read checkpoint open_
      exact (accepted_without_partitions distinct read open_).mpr (unpartitioned address output read)
  · intro partition nonempty
    constructor
    · intro accepted address output read
      exact (accepted_with_constant_partitions distinct read (by decide) nonempty).mp
        (accepted address output read 0 (by decide))
    · intro partitioned address output read checkpoint open_
      exact (accepted_with_constant_partitions distinct read open_ nonempty).mpr (partitioned address output read)

def producerAndReader (partitioning : Option (RowHash Nat)) : List (TaskDefinition2 Nat × String) :=
  [(⟨"producer", .mk "a" "a" (.remoteExchangeOutput ⟨"stream", partitioning⟩) [] []⟩, "10.0.0.1"),
    (⟨"reader", .mk "b" "b" (.remoteExchangeInput ["stream"]) [] []⟩, "10.0.0.2")]

private theorem producerAndReader_output {partitioning : Option (RowHash Nat)} {address : String}
    {output : RemoteExchangeOperatorFunction Nat} (read : Read (producerAndReader partitioning) address output) :
    output = ⟨"stream", partitioning⟩ := by
  obtain ⟨producer, assigned, member⟩ := read.produced
  rcases List.mem_cons.mp assigned with same | later
  · cases same
    exact List.mem_singleton.mp member
  · cases List.mem_singleton.mp later
    cases member

theorem unpartitioned_read_accepted :
    (∀ address output, Read (producerAndReader none) address output → ∀ checkpoint < 2 ^ 32,
      Accepted (scheduleWithoutPartitionsInner (producerAndReader none)) address output checkpoint) ∧
      Read (producerAndReader none) "10.0.0.1" ⟨"stream", none⟩ := by
  constructor
  · refine (scheduled_reads_accepted_iff (by decide)).1.mpr fun address output read => ?_
    rw [producerAndReader_output read]
    rfl
  · exact ⟨⟨_, List.mem_cons_self, List.mem_singleton_self _⟩, _, List.mem_cons_of_mem _ List.mem_cons_self,
      List.mem_singleton_self _⟩

def answer (details : InitialSchedulingDetails) (output : RemoteExchangeOperatorFunction ρ) (range : PartitionRange) :
    Except Failure (Except DataFusionError Nat) :=
  (output.init ∅ 0 details.generations).map fun published => (published.stream output.outputStreamId range).map Prod.fst

/-- The same tasks under each scheduler, with the kind of output that it does not serve. -/
theorem unserved_outputs_refused :
    getAddresses .empty 0 ["stream"]
        (scheduleWithoutPartitionsInner (producerAndReader (some fun _ => 0))).inputLocations =
      .ok [("stream", "10.0.0.1", .empty)] ∧
    answer (scheduleWithoutPartitionsInner (producerAndReader (some fun _ => 0))) ⟨"stream", some fun (_ : Nat) => 0⟩ .empty =
      .ok (.error (.internal ("Requested partitions " ++ PartitionRange.empty.debug ++
        " do not intersect available partitions " ++ PartitionRange.empty.debug))) ∧
    getAddresses .unit 0 ["stream"] (scheduleWithConstantPartitions (producerAndReader none) .unit).inputLocations =
      .ok [("stream", "10.0.0.1", .unit)] ∧
    answer (scheduleWithConstantPartitions (producerAndReader none) .unit)
        (⟨"stream", none⟩ : RemoteExchangeOperatorFunction Nat) .unit =
      .ok (.error (.internal "A partitioned stream was requested for a non partitioned output: stream")) :=
  ⟨rfl, rfl, rfl, rfl⟩

end DatafusionRay.Proofs.ScheduledReads
