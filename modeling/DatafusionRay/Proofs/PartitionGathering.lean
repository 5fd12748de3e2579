import DatafusionRay.Batch.ProcessorPool
import DatafusionRay.Batch.ProcessorService
import DatafusionRay.Foundation.FiniteMap
import DatafusionRay.Foundation.TryFilterMap
import DatafusionRay.Proofs.StageReads

/-! A stage that runs on several workers. The supervisor tells each processor where the stages
below it are, the processor connects to them, and a reader of its plan then gathers a partition
from all workers that have a part of it. -/

namespace DatafusionRay.Proofs.PartitionGathering
open Batch StageReaderStream StageReads Foundation WireFormat
open Streaming (DataFusionError)

variable {ρ σ : Type}

section Ticket

theorem decode_encodeToVec (data : FlightTicketData) : FlightTicketData.decode data.encodeToVec = some data := by
  have valid : ∀ field ∈ data.fields, field.Valid := by
    rw [FlightTicketData.fields, List.forall_mem_append]
    exact ⟨boolField_valid (by decide) (by decide), uint64Field_valid (by decide) (by decide)⟩
  have first : (boolField 1 data.dummy).foldlM FlightTicketData.mergeField {} = some ⟨data.dummy, 0⟩ :=
    foldlM_boolField (FlightTicketData.mk · 0) rfl rfl
  rw [FlightTicketData.decode, FlightTicketData.encodeToVec, decodeMessage_encodeFields valid, FlightTicketData.fields,
    List.foldlM_append, first]
  exact foldlM_uint64Field (fun _ => rfl) rfl

/-- A worker answers a reader's ticket with the partition that the reader wants. -/
theorem getStream_ticket (environment : ProcessorEnvironment ρ σ) (handler : DFRayProcessorHandler σ) (partition : UInt64) :
    handler.getStream environment (DFRayStageReaderExec.ticket partition.toNat) =
      handler.servePartition environment partition.toNat := by
  rw [DFRayStageReaderExec.ticket, UInt64.ofNat_toNat, DFRayProcessorHandler.getStream, extractTicket, decode_encodeToVec]
  rfl

end Ticket

section Clients
variable {makeClient : String → Except DataFusionError Unit} {stages : StageAddrs} {before after : ClientMaps}

theorem insert_lookup (maps : ClientMaps) (key other : Nat × Nat) (addrs : List String) :
    (maps.insert key addrs).clientMap.lookup other =
      if other = key then some addrs else maps.clientMap.lookup other := by
  rw [ClientMaps.insert, List.lookup_cons]
  split
  · next same => rw [if_pos (beq_iff_eq.mp same)]
  · next different =>
    rw [if_neg (beq_eq_false_iff_ne.mp different)]
    exact FiniteMap.lookup_filter_ne (beq_eq_false_iff_ne.mp different) _

/-- Connections change nothing in the map. -/
theorem connect_clientMap {addrs : List String} (connected : addrs.foldlM (ClientMaps.connect makeClient) before = .ok after) :
    after.clientMap = before.clientMap := by
  refine foldlM_ok (fun _ maps => maps.clientMap = before.clientMap) ?_ rfl connected
  intro done addr middle next _ stepped kept
  rw [ClientMaps.connect] at stepped
  split at stepped
  · cases stepped
    exact kept
  · obtain ⟨-, -, same⟩ := bind_eq_ok.mp stepped
    cases same
    exact kept

theorem addPartition_lookup {stageId : Nat} {entry : Nat × List String}
    (added : ClientMaps.addPartition makeClient stageId before entry = .ok after) (key : Nat × Nat) :
    after.clientMap.lookup key =
      if key = (stageId, entry.1) then some entry.2 else before.clientMap.lookup key := by
  obtain ⟨connected, passed, same⟩ := bind_eq_ok.mp added
  cases same
  rw [insert_lookup, connect_clientMap passed]

/-- The clients of a stage that was looked up are those at its addresses. -/
structure Wired (stages : StageAddrs) (done : List Nat) (map : ServiceClients) : Prop where
  sound : ∀ stageId partition addrs, map.lookup (stageId, partition) = some addrs →
    ∃ parts, stages.lookup stageId = some parts ∧ (partition, addrs) ∈ parts
  present : ∀ stageId ∈ done, ∃ parts, stages.lookup stageId = some parts ∧
    ∀ entry ∈ parts, (map.lookup (stageId, entry.1)).isSome

namespace Wired
variable {done : List Nat} {stageId : Nat} {parts : List (Nat × List String)}

theorem addPartition {entry : Nat × List String} (wired : Wired stages done before.clientMap)
    (found : stages.lookup stageId = some parts) (member : entry ∈ parts)
    (added : ClientMaps.addPartition makeClient stageId before entry = .ok after) :
    Wired stages done after.clientMap := by
  constructor
  · intro other partition addrs listed
    rw [addPartition_lookup added] at listed
    split at listed
    · next same =>
      cases same
      cases listed
      exact ⟨parts, found, member⟩
    · exact wired.sound other partition addrs listed
  · intro other earlier
    obtain ⟨otherParts, otherFound, each⟩ := wired.present other earlier
    refine ⟨otherParts, otherFound, fun otherEntry listed => ?_⟩
    rw [addPartition_lookup added]
    split
    · rfl
    · exact each otherEntry listed

theorem addStage (wired : Wired stages done before.clientMap)
    (added : ClientMaps.addStage makeClient stages before stageId = .ok after) :
    Wired stages (done ++ [stageId]) after.clientMap := by
  rw [ClientMaps.addStage] at added
  cases found : stages.lookup stageId with
  | none =>
    rw [found] at added
    cases added
  | some parts =>
    rw [found] at added
    have all := foldlM_ok (fun taken maps => Wired stages done maps.clientMap ∧
        ∀ entry ∈ taken, (maps.clientMap.lookup (stageId, entry.1)).isSome) (by
      intro taken entry middle next member stepped held
      refine ⟨held.1.addPartition found member stepped, fun other listed => ?_⟩
      rw [addPartition_lookup stepped]
      split
      · rfl
      · next different =>
        rcases List.mem_append.mp listed with earlier | last
        · exact held.2 other earlier
        · exact absurd (congrArg (stageId, ·) (congrArg Prod.fst (List.mem_singleton.mp last))) different)
      ⟨wired, fun _ none => absurd none List.not_mem_nil⟩ added
    refine ⟨all.1.sound, fun other listed => ?_⟩
    rcases List.mem_append.mp listed with earlier | last
    · exact all.1.present other earlier
    · rw [List.mem_singleton.mp last]
      exact ⟨parts, found, all.2⟩

theorem start : Wired stages [] [] where
  sound _ _ _ none := absurd none.symm (Option.some_ne_none _)
  present _ none := absurd none List.not_mem_nil

end Wired

/-- Every stage that the plan reads has clients. -/
theorem configureCtx_wired {environment : ProcessorEnvironment ρ σ} {plan : ExecutionPlan σ} {partitionGroup : List Nat}
    {ctx : SessionContext}
    (configured : DFRayProcessorHandlerInner.configureCtx environment stages plan partitionGroup = .ok ctx) :
    Wired stages (inputStageIds plan) ctx.serviceClients := by
  obtain ⟨maps, folded, registered⟩ := bind_eq_ok.mp configured
  obtain ⟨-, -, same⟩ := bind_eq_ok.mp registered
  cases same
  exact foldlM_ok (fun done maps => Wired stages done maps.clientMap)
    (fun _ added wired => wired.addStage added) Wired.start folded

end Clients

section Addresses
variable {stages : List (String × InternalStageData)}

/-- The workers that run a stage. -/
def producers (stages : List (String × InternalStageData)) (stageId : Nat) : List InternalStageData :=
  (stages.map Prod.snd).filter fun stage => stage.stageId = stageId

/-- Those of them that a partition is read from: all, unless the last one has all of it. -/
def readFrom (children : List InternalStageData) : List InternalStageData :=
  match children.getLast? with
  | none => []
  | some last => if last.fullPartitions then [last] else children

theorem childAddrs_eq_ok {children : List InternalStageData} {parts : List (List String)}
    (found : childAddrs children = .ok parts) {child : InternalStageData} (member : child ∈ children) :
    parts = List.replicate child.numOutputPartitions ((readFrom children).map InternalStageData.remoteAddr) := by
  obtain ⟨first, rest, rfl⟩ := List.exists_cons_of_ne_nil (List.ne_nil_of_mem member)
  rw [childAddrs] at found
  split at found
  · next same =>
    have equal : child.numOutputPartitions = first.numOutputPartitions := by
      simpa using List.all_eq_true.mp same child member
    -- Only what the last child sets is left.
    obtain ⟨front, last, split⟩ := (List.eq_nil_or_concat' _).resolve_left (List.cons_ne_nil first rest)
    cases found
    rw [equal, readFrom, split, List.foldl_append, List.getLast?_concat]
    by_cases full : last.fullPartitions
    · simp [full]
    · simp [full]
  · cases found

/-- What a processor learns of a stage below it comes from the workers that run it. -/
theorem addresses_of_mem {sorted : List (String × List (Nat × List (List String)))}
    (sortedOut : DFRayContextSupervisor.sortOutAddresses stages = .ok sorted)
    {key : String} {addrs : List (Nat × List (List String))} (listed : (key, addrs) ∈ sorted)
    {stageId : Nat} {parts : List (List String)} (told : (stageId, parts) ∈ addrs) :
    childAddrs (producers stages stageId) = .ok parts := by
  obtain ⟨⟨other, stage⟩, -, computed⟩ := mapM_mem sortedOut listed
  obtain ⟨lists, inner, same⟩ := bind_eq_ok.mp computed
  cases same
  obtain ⟨child, -, found⟩ := mapM_mem inner told
  obtain ⟨childParts, found, same⟩ := bind_eq_ok.mp found
  cases same
  exact found

end Addresses

theorem mem_stageAddrs {addrs : List (Nat × List (List String))} {stageId : Nat} {parts : List (Nat × List String)}
    (found : (stageAddrs addrs).lookup stageId = some parts) :
    ∃ lists, (stageId, lists) ∈ addrs ∧ ∀ entry, entry ∈ parts ↔ lists[entry.1]? = some entry.2 := by
  obtain ⟨before, after, split, -⟩ := List.lookup_eq_some_iff.mp found
  have member : (stageId, parts) ∈ stageAddrs addrs := split ▸ List.mem_append_right _ List.mem_cons_self
  obtain ⟨⟨other, lists⟩, listed, same⟩ := List.mem_map.mp member
  cases same
  refine ⟨lists, listed, fun entry => ?_⟩
  rw [← List.mk_mem_zipIdx_iff_getElem?]
  constructor
  · intro swapped
    obtain ⟨pair, numbered, rfl⟩ := List.mem_map.mp swapped
    exact numbered
  · intro numbered
    exact List.mem_map.mpr ⟨_, numbered, rfl⟩

theorem updatePlan_eq_ok {environment : ProcessorEnvironment ρ σ} {handler after : DFRayProcessorHandler σ}
    {stageAddrs : StageAddrs} {plan : ExecutionPlan σ} {partitionGroup : List Nat}
    (updated : handler.updatePlan environment stageAddrs plan partitionGroup = (after, .ok ())) :
    ∃ ctx, DFRayProcessorHandlerInner.configureCtx environment stageAddrs plan partitionGroup = .ok ctx ∧
      after.inner = some ⟨plan, ctx⟩ ∧ ctx.partitionGroup = partitionGroup := by
  rw [DFRayProcessorHandler.updatePlan] at updated
  split at updated
  · next inner built =>
    obtain ⟨ctx, configured, same⟩ := bind_eq_ok.mp built
    cases same
    cases updated
    obtain ⟨maps, -, registered⟩ := bind_eq_ok.mp configured
    obtain ⟨-, -, same⟩ := bind_eq_ok.mp registered
    cases same
    exact ⟨_, configured, rfl, rfl⟩
  · cases updated

theorem execute_of_lookup {reader : DFRayStageReaderExec σ} {partition : Nat} {clientMap : ServiceClients}
    {addresses : List String} (found : clientMap.lookup (reader.stageId.toNat, partition) = some addresses)
    (doGet : String → Nat → DoGet ρ) :
    ∃ name, reader.execute partition (some clientMap) doGet =
      .ok ⟨name, .connecting (addresses.map (doGet · partition)) [] false, []⟩ := by
  unfold DFRayStageReaderExec.execute
  simp only [found]
  exact ⟨_, rfl⟩

/-- A stage that the plan reads has the workers of the stage as its clients. -/
theorem lookup_clients {stages : List (String × InternalStageData)}
    {sorted : List (String × List (Nat × List (List String)))}
    (sortedOut : DFRayContextSupervisor.sortOutAddresses stages = .ok sorted)
    {key : String} {addrs : List (Nat × List (List String))} (listed : (key, addrs) ∈ sorted)
    {done : List Nat} {map : ServiceClients} (wired : Wired (stageAddrs addrs) done map)
    {stageId : Nat} (reads : stageId ∈ done) {child : InternalStageData} (runs : child ∈ producers stages stageId)
    {partition : Nat} (below : partition < child.numOutputPartitions) :
    map.lookup (stageId, partition) = some ((readFrom (producers stages stageId)).map InternalStageData.remoteAddr) := by
  obtain ⟨parts, found, each⟩ := wired.present stageId reads
  obtain ⟨lists, told, entries⟩ := mem_stageAddrs found
  have all := childAddrs_eq_ok (addresses_of_mem sortedOut listed told) runs
  have here : lists[partition]? = some ((readFrom (producers stages stageId)).map InternalStageData.remoteAddr) := by
    rw [all, List.getElem?_replicate, if_pos below]
  obtain ⟨addresses, looked⟩ := Option.isSome_iff_exists.mp (each (partition, _) ((entries _).mpr here))
  obtain ⟨others, same, member⟩ := wired.sound stageId partition addresses looked
  cases found.symm.trans same
  rw [looked, ← here]
  exact ((entries _).mp member).symm

/-- A worker's answer for a partition, as its client receives it. -/
def served (workers : Workers ρ σ) (partition : Nat) (worker : InternalStageData) : DoGet ρ :=
  workers.receive
    ((workers.handler worker.remoteAddr).servePartition (workers.environment worker.remoteAddr) partition)

/-- A processor that has its plan can read every partition of a stage below, and gets it from
the workers that have a part of it, each asked once. -/
theorem partition_gathered {stages : List (String × InternalStageData)}
    {sorted : List (String × List (Nat × List (List String)))}
    (sortedOut : DFRayContextSupervisor.sortOutAddresses stages = .ok sorted)
    {key : String} {addrs : List (Nat × List (List String))} (listed : (key, addrs) ∈ sorted)
    {environment : ProcessorEnvironment ρ σ} {handler after : DFRayProcessorHandler σ} {plan : ExecutionPlan σ}
    {partitionGroup : List Nat}
    (updated : handler.updatePlan environment (stageAddrs addrs) plan partitionGroup = (after, .ok ()))
    {reader : DFRayStageReaderExec σ} (reads : reader.stageId.toNat ∈ inputStageIds plan)
    {child : InternalStageData} (runs : child ∈ producers stages reader.stageId.toNat)
    {partition : UInt64} (below : partition.toNat < child.numOutputPartitions) (workers : Workers ρ σ) :
    ∃ inner first, after.inner = some inner ∧ inner.plan = plan ∧ inner.ctx.partitionGroup = partitionGroup ∧
      reader.execute partition.toNat (some inner.ctx.serviceClients)
        (fun address partition => workers.doGet address (DFRayStageReaderExec.ticket partition)) = .ok first ∧
      ∀ actions last, run step first actions = some last →
        Reads first.name ((readFrom (producers stages reader.stageId.toNat)).map (served workers partition.toNat)) last ∧
        ∃ more final, run step last more = some final ∧ final.phase = .finished := by
  obtain ⟨ctx, configured, installed, group⟩ := updatePlan_eq_ok updated
  have found := lookup_clients sortedOut listed (configureCtx_wired configured) reads runs below
  obtain ⟨name, executes⟩ := execute_of_lookup found
    fun address partition => workers.doGet address (DFRayStageReaderExec.ticket partition)
  refine ⟨⟨plan, ctx⟩, _, installed, rfl, group, executes, fun actions last ran => ?_⟩
  have asked : ((readFrom (producers stages reader.stageId.toNat)).map InternalStageData.remoteAddr).map
      (fun address => workers.doGet address (DFRayStageReaderExec.ticket partition.toNat)) =
        (readFrom (producers stages reader.stageId.toNat)).map (served workers partition.toNat) := by
    rw [List.map_map]
    apply List.map_congr_left
    intro worker _
    rw [Function.comp_apply, Workers.doGet, getStream_ticket]
    rfl
  rw [asked] at ran
  have reading := run_preserves step_reading ran (.connecting [] _ rfl)
  exact ⟨reading.reads, exists_finish reading⟩

def producer (address : String) : InternalStageData := ⟨⟨1, [], 3, false⟩, address⟩

/-- A stage that reads one that runs on two workers. -/
def threeStages : List (String × InternalStageData) :=
  [("processor-0", ⟨⟨2, [1], 1, false⟩, "10.0.0.1:80"⟩), ("processor-1", producer "10.0.0.2:80"),
    ("processor-2", producer "10.0.0.3:80")]

def threeAddresses : List (Nat × List (List String)) := [(1, List.replicate 3 ["10.0.0.2:80", "10.0.0.3:80"])]

def gatherer : DFRayStageReaderExec Unit := ⟨3, (), 1⟩

def reachable : ProcessorEnvironment Nat Unit where
  makeClient _ := .ok ()
  registerObjectStore _ := .ok ()
  execute _ partition _ := .ok [.ok ⟨[partition]⟩]
  decodeError _ := "failed to decode Protobuf message"

/-- Workers that answer with the number of the partition. -/
def answering : Workers Nat Unit where
  handler address := ⟨address, some ⟨.other [], ⟨[], []⟩⟩⟩
  environment _ := reachable
  status := id
  transport := id

theorem last_partition_gathered :
    ∃ (inner : DFRayProcessorHandlerInner Unit) (first : StageReaderStream Nat),
      gatherer.execute 2 (some inner.ctx.serviceClients)
        (fun address partition => answering.doGet address (DFRayStageReaderExec.ticket partition)) = .ok first ∧
      ∀ actions last, run step first actions = some last →
        Reads first.name [.ok [.ok ⟨[2]⟩], .ok [.ok ⟨[2]⟩]] last := by
  have sortedOut : DFRayContextSupervisor.sortOutAddresses threeStages =
      .ok [("processor-0", threeAddresses), ("processor-1", []), ("processor-2", [])] := rfl
  have updated : (DFRayProcessorHandler.new "processor-0").updatePlan reachable (stageAddrs threeAddresses)
      (.stageReader gatherer) [] = (_, .ok ()) := rfl
  have reads : gatherer.stageId.toNat ∈ inputStageIds (.stageReader gatherer) := List.mem_cons_self
  have runs : producer "10.0.0.2:80" ∈ producers threeStages gatherer.stageId.toNat := by decide
  have below : (2 : UInt64).toNat < (producer "10.0.0.2:80").numOutputPartitions := by decide
  obtain ⟨inner, first, -, -, -, executes, gathered⟩ :=
    partition_gathered sortedOut List.mem_cons_self updated reads runs below answering
  exact ⟨inner, first, executes, fun actions last ran => (gathered actions last ran).1⟩

end DatafusionRay.Proofs.PartitionGathering
