import DatafusionRay.Batch.CombinedStream

/-! The stream of a stage reader: it asks one client after the other for its part of the
stage and then combines what they send. -/

namespace DatafusionRay.Batch
open Streaming (DataFusionError Failure RecordBatch)

variable {ρ : Type}

/-- What a client answers to `do_get`, with all that the sender will then send. The errors
of the transport are given by their texts. -/
abbrev DoGet (ρ : Type) := Except String (List (Except String (RecordBatch ρ)))

/-- The clients by stage and partition, in the order of the map. -/
abbrev ServiceClients := List ((Nat × Nat) × List String)

inductive ReaderPhase (ρ : Type) where
  | connecting (clients : List (DoGet ρ)) (streams : List (List (BatchResult ρ))) (error : Bool)
  | combining (combined : CombinedRecordBatchStream ρ)
  | finished
  | panicked (failure : Failure)
  deriving DecidableEq, Repr

/-- The stream with what it has yielded so far. -/
structure StageReaderStream (ρ : Type) where
  name : String
  phase : ReaderPhase ρ
  yielded : List (BatchResult ρ)
  deriving DecidableEq, Repr

namespace StageReaderStream

def consumeError (name error : String) : DataFusionError := .internal s!"{name} Error consuming flight stream: {error}"

def getError (name error : String) : DataFusionError := .internal s!"{name} Error getting flight stream: {error}"

/-- The stream of a client with its errors wrapped. -/
def adapt (name : String) (stream : List (Except String (RecordBatch ρ))) : List (BatchResult ρ) :=
  stream.map (·.mapError (consumeError name))

inductive Action where
  | doGet
  | combine
  | poll (choice : CombinedRecordBatchStream.Choice)
  deriving DecidableEq, Repr

/-- The stream runs from one point where it may have to wait to the next. -/
def step (stream : StageReaderStream ρ) : Action → Option (StageReaderStream ρ)
  | .doGet =>
    match stream.phase with
    | .connecting (.ok received :: clients) streams error =>
      some { stream with phase := .connecting clients (streams ++ [adapt stream.name received]) error }
    | .connecting (.error error :: clients) streams _ =>
      some { stream with
        phase := .connecting clients streams true
        yielded := stream.yielded ++ [.error (getError stream.name error)] }
    | _ => none
  | .combine =>
    match stream.phase with
    | .connecting [] streams error =>
      some { stream with phase := if error then .finished else .combining (.new streams) }
    | _ => none
  | .poll choice =>
    match stream.phase with
    | .combining combined =>
      (combined.pollNext choice).map fun
        | .error failure => { stream with phase := .panicked failure }
        | .ok ⟨.ready (some item), entries, _⟩ =>
          { stream with phase := .combining ⟨entries⟩, yielded := stream.yielded ++ [item] }
        | .ok ⟨.ready none, _, _⟩ => { stream with phase := .finished }
        | .ok ⟨.pending, entries, _⟩ => { stream with phase := .combining ⟨entries⟩ }
    | _ => none

end StageReaderStream

namespace DFRayStageReaderExec
variable {σ : Type}

/-- `client_map.keys()` in a message. -/
def debugKeys (clients : ServiceClients) : String :=
  let keys := ", ".intercalate (clients.map fun ((stageId, partition), _) => s!"({stageId}, {partition})")
  s!"[{keys}]"

/-- `execute`, where `doGet` tells what the worker at an address answers for a partition. -/
def execute (reader : DFRayStageReaderExec σ) (partition : Nat) (extension : Option ServiceClients)
    (doGet : String → Nat → DoGet ρ) : Except DataFusionError (StageReaderStream ρ) := do
  let stageId := reader.stageId.toNat
  let name := s!"RayStageReaderExec[{stageId}-{partition}]:"
  let some clientMap := extension | throw (.internal s!"{name} Flight Client not in context")
  let some clients := clientMap.lookup (stageId, partition)
    | let keys := debugKeys clientMap
      throw (.internal s!"{name} No flight clients found for {stageId}:{partition}, have {keys}")
  return ⟨name, .connecting (clients.map fun address => doGet address partition) [] false, []⟩

end DFRayStageReaderExec

end DatafusionRay.Batch
