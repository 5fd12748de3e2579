import DatafusionRay.Foundation.Execution
import DatafusionRay.Streaming.Item

/-! The clients that the tasks of a worker share. A call looks for a client under the read
lock, connects without any lock if there is none, and takes the write lock to enter what
it has made. -/

namespace DatafusionRay.Streaming

/-- Connections to one address are told apart by their numbers. -/
structure FlightClient where
  address : String
  connection : Nat
  deriving DecidableEq, Repr

namespace DataClientManager

/-- What a call of `get_client` does next. -/
inductive Phase where
  | searching
  | connecting
  | entering (newClient : FlightClient)
  | returned (result : Except DataFusionError FlightClient)
  deriving DecidableEq, Repr

inductive Action (ι : Type) where
  | search (call : ι)
  | connect (call : ι) (outcome : Except DataFusionError Unit)
  | enter (call : ι)

end DataClientManager

open DataClientManager

/-- The map, the calls under way, and the number of connections that have been made. -/
structure DataClientManager (ι : Type) where
  clientMap : String → Option FlightClient
  phases : ι → Phase
  connections : Nat

namespace DataClientManager
variable {ι : Type} [DecidableEq ι]

def new : DataClientManager ι := ⟨fun _ => none, fun _ => .searching, 0⟩

def proceed (manager : DataClientManager ι) (call : ι) (phase : Phase) : DataClientManager ι :=
  { manager with phases := Function.update manager.phases call phase }

/-- Each step is done under one lock, or without any. -/
def step (addresses : ι → String) (manager : DataClientManager ι) : Action ι → Option (DataClientManager ι)
  | .search call =>
    match manager.phases call with
    | .searching =>
      match manager.clientMap (addresses call) with
      | some client => some (manager.proceed call (.returned (.ok client)))
      | none => some (manager.proceed call .connecting)
    | _ => none
  | .connect call outcome =>
    match manager.phases call with
    | .connecting =>
      match outcome with
      | .error error => some (manager.proceed call (.returned (.error error)))
      | .ok () =>
        some { manager.proceed call (.entering ⟨addresses call, manager.connections⟩) with
          connections := manager.connections + 1 }
    | _ => none
  | .enter call =>
    match manager.phases call with
    | .entering newClient =>
      match manager.clientMap (addresses call) with
      | some occupied => some (manager.proceed call (.returned (.ok occupied)))
      | none =>
        some { manager.proceed call (.returned (.ok newClient)) with
          clientMap := Function.update manager.clientMap (addresses call) (some newClient) }
    | _ => none

end DataClientManager

end DatafusionRay.Streaming
