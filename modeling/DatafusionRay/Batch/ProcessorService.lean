import DatafusionRay.Batch.Codec
import DatafusionRay.Batch.StageReader

/-! A processor of the batch engine. It connects to the workers of the stages that its plan
reads, and serves the partitions of the plan to whoever sends a ticket for one. How a plan is
executed, how connections are made and what the transport does to a stream are given. -/

namespace DatafusionRay.Batch
open Foundation.WireFormat
open Streaming (DataFusionError RecordBatch)

variable {ρ σ : Type}

structure FlightTicketData where
  dummy : Bool := false
  partition : UInt64 := 0
  deriving DecidableEq, Repr

namespace FlightTicketData

def fields (data : FlightTicketData) : List Field := boolField 1 data.dummy ++ uint64Field 2 data.partition

def encodeToVec (data : FlightTicketData) : Bytes := encodeFields data.fields

def mergeField (data : FlightTicketData) (field : Field) : Option FlightTicketData :=
  match field.number with
  | 1 => field.value.toBool.map fun dummy => { data with dummy }
  | 2 => field.value.toUInt64.map fun partition => { data with partition }
  | _ => some data

def decode (buf : Bytes) : Option FlightTicketData := decodeMessage {} mergeField buf

end FlightTicketData

/-- The ticket that a stage reader sends for a partition. -/
def DFRayStageReaderExec.ticket (partition : Nat) : Bytes :=
  FlightTicketData.encodeToVec ⟨false, UInt64.ofNat partition⟩

/-- Why bytes are no ticket is told by their text. -/
def extractTicket (decodeError : Bytes → String) (ticket : Bytes) : Except String Nat :=
  match FlightTicketData.decode ticket with
  | some data => .ok data.partition.toNat
  | none => .error (decodeError ticket)

mutual

/-- The stages that a plan reads, each reader after the nodes above it. -/
def inputStageIds : ExecutionPlan σ → List Nat
  | .stageReader reader => [reader.stageId.toNat]
  | .partitionIsolator input _ | .maxRows input _ | .prefetch input _ => inputStageIds input
  | .other children => childStageIds children

def childStageIds : List (ExecutionPlan σ) → List Nat
  | [] => []
  | child :: rest => inputStageIds child ++ childStageIds rest

end

/-- What the source adds to a session for the nodes of a plan. -/
structure SessionContext where
  serviceClients : ServiceClients
  partitionGroup : List Nat
  deriving DecidableEq, Repr

/-- The addresses by stage and partition, in the order of the maps. -/
abbrev StageAddrs := List (Nat × List (Nat × List String))

/-- The addresses as the supervisor hands them to a processor. -/
def stageAddrs (addrs : List (Nat × List (List String))) : StageAddrs :=
  addrs.map fun (stageId, partitionAddrs) => (stageId, partitionAddrs.zipIdx.map Prod.swap)

def debugMap (entries : List String) : String := "\x7b" ++ ", ".intercalate entries ++ "\x7d"

def StageAddrs.debug (stageAddrs : StageAddrs) : String :=
  debugMap (stageAddrs.map fun (stageId, partitionAddrs) =>
    s!"{stageId}: " ++ debugMap (partitionAddrs.map fun (partition, addrs) =>
      s!"{partition}: [" ++ ", ".intercalate (addrs.map String.quote) ++ "]"))

/-- The addresses to which there is a client already, and the clients by stage and partition.
A client is named by its address. -/
structure ClientMaps where
  clients : List String
  clientMap : ServiceClients
  deriving DecidableEq, Repr

namespace ClientMaps
variable (makeClient : String → Except DataFusionError Unit)

/-- No address is connected to twice. -/
def connect (maps : ClientMaps) (addr : String) : Except DataFusionError ClientMaps :=
  if addr ∈ maps.clients then .ok maps
  else do
    makeClient addr
    return { maps with clients := addr :: maps.clients }

/-- A partition that had clients gets the new ones in their place. -/
def insert (maps : ClientMaps) (key : Nat × Nat) (addrs : List String) : ClientMaps :=
  { maps with clientMap := (key, addrs) :: maps.clientMap.filter fun entry => entry.1 ≠ key }

def addPartition (stageId : Nat) (maps : ClientMaps) (entry : Nat × List String) :
    Except DataFusionError ClientMaps := do
  let connected ← entry.2.foldlM (connect makeClient) maps
  return connected.insert (stageId, entry.1) entry.2

def addStage (stageAddrs : StageAddrs) (maps : ClientMaps) (stageId : Nat) : Except DataFusionError ClientMaps :=
  match stageAddrs.lookup stageId with
  | some partitionAddrs => partitionAddrs.foldlM (addPartition makeClient stageId) maps
  | none =>
    let have_ := stageAddrs.debug
    .error (.internal s!"Cannot find stage addr {stageId} in {have_}")

end ClientMaps

/-- What a processor is given by its surroundings. -/
structure ProcessorEnvironment (ρ σ : Type) where
  makeClient : String → Except DataFusionError Unit
  registerObjectStore : ExecutionPlan σ → Except DataFusionError Unit
  execute : ExecutionPlan σ → Nat → SessionContext → Except DataFusionError (List (BatchResult ρ))
  decodeError : Bytes → String

/-- The plan of a stage with the session that it is executed in. -/
structure DFRayProcessorHandlerInner (σ : Type) where
  plan : ExecutionPlan σ
  ctx : SessionContext

namespace DFRayProcessorHandlerInner
variable (environment : ProcessorEnvironment ρ σ)

def configureCtx (stageAddrs : StageAddrs) (plan : ExecutionPlan σ) (partitionGroup : List Nat) :
    Except DataFusionError SessionContext := do
  let maps ← (inputStageIds plan).foldlM (ClientMaps.addStage environment.makeClient stageAddrs) ⟨[], []⟩
  environment.registerObjectStore plan
  return ⟨maps.clientMap, partitionGroup⟩

def new (stageAddrs : StageAddrs) (plan : ExecutionPlan σ) (partitionGroup : List Nat) :
    Except DataFusionError (DFRayProcessorHandlerInner σ) := do
  let ctx ← configureCtx environment stageAddrs plan partitionGroup
  return ⟨plan, ctx⟩

/-- A refusal is given by the message of its status. -/
def makeStream (inner : DFRayProcessorHandlerInner σ) (partition : Nat) : Except String (List (BatchResult ρ)) :=
  match environment.execute inner.plan partition inner.ctx with
  | .ok stream => .ok stream
  | .error error => .error s!"Could not get partition stream from plan {error.display}"

end DFRayProcessorHandlerInner

structure DFRayProcessorHandler (σ : Type) where
  name : String
  inner : Option (DFRayProcessorHandlerInner σ)

namespace DFRayProcessorHandler
variable (environment : ProcessorEnvironment ρ σ)

def new (name : String) : DFRayProcessorHandler σ := ⟨name, none⟩

/-- A plan that cannot be set up leaves the one before it in place. -/
def updatePlan (handler : DFRayProcessorHandler σ) (stageAddrs : StageAddrs) (plan : ExecutionPlan σ)
    (partitionGroup : List Nat) : DFRayProcessorHandler σ × Except DataFusionError Unit :=
  match DFRayProcessorHandlerInner.new environment stageAddrs plan partitionGroup with
  | .ok inner => ({ handler with inner := some inner }, .ok ())
  | .error error => (handler, .error error)

/-- `FlightError::from_external_error`, in the words of its status. -/
def streamError (name : String) (error : DataFusionError) : String :=
  s!"{name} Unexpected error building stream External error: {error.display}"

/-- The part of `get_stream` that comes after the ticket. -/
def servePartition (handler : DFRayProcessorHandler σ) (partition : Nat) :
    Except String (List (Except String (RecordBatch ρ))) := do
  let some inner := handler.inner | throw s!"{handler.name} No inner found"
  let stream ← inner.makeStream environment partition
  return stream.map (·.mapError (streamError handler.name))

def getStream (handler : DFRayProcessorHandler σ) (ticket : Bytes) :
    Except String (List (Except String (RecordBatch ρ))) := do
  let partition ← (extractTicket environment.decodeError ticket).mapError fun error =>
    s!"{handler.name}, Unexpected error extracting ticket {error}"
  handler.servePartition environment partition

end DFRayProcessorHandler

/-- The workers by their addresses, with what a client sees of a refused call and of a stream. -/
structure Workers (ρ σ : Type) where
  handler : String → DFRayProcessorHandler σ
  environment : String → ProcessorEnvironment ρ σ
  status : String → String
  transport : List (Except String (RecordBatch ρ)) → List (Except String (RecordBatch ρ))

namespace Workers

def receive (workers : Workers ρ σ) (answer : Except String (List (Except String (RecordBatch ρ)))) : DoGet ρ :=
  match answer with
  | .ok stream => .ok (workers.transport stream)
  | .error message => .error (workers.status message)

def doGet (workers : Workers ρ σ) (address : String) (ticket : Bytes) : DoGet ρ :=
  workers.receive ((workers.handler address).getStream (workers.environment address) ticket)

end Workers

namespace PartitionIsolatorExec

/-- A partition past the worker's group has no rows. The count itself is let through. -/
def execute (partitionCount : UInt64) (input : Nat → Except DataFusionError (List (BatchResult ρ)))
    (extension : Option (List Nat)) (partition : Nat) : Except DataFusionError (List (BatchResult ρ)) :=
  match extension with
  | none => .error (.internal "PartitionGroup not set in session config")
  | some partitionGroup =>
    if partitionCount.toNat < partition then
      .error (.internal s!"Invalid partition {partition} for PartitionIsolatorExec")
    else partitionGroup[partition]?.elim (.ok []) input

end PartitionIsolatorExec

end DatafusionRay.Batch
