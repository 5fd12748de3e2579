import Mathlib

/-! The supervisor of the batch engine and its pool of processors. The methods are
coroutines that change one object after the other, so an exception leaves behind
what was changed before it was raised. -/

namespace DatafusionRay.Batch

inductive PyError where
  | exception (message : String)
  | keyError (key : String)
  | assertionError
  | valueError (message : String)
  deriving DecidableEq, Repr

/-- `asyncio.wait` refuses to wait for nothing. -/
def PyError.emptyWait : PyError := .valueError "Set of Tasks/Futures is empty."

/-- How far the processors that are not ready yet get while the pool waits for them. -/
inductive Startup where
  | served
  | notStarted (error : String)
  | noAddress (error : String)
  deriving DecidableEq, Repr

/-- Processors are named by their keys. -/
structure DFRayProcessorPool where
  maxWorkers : Nat
  pool : Finset String
  addrs : String → Option String
  processorsStarted : Finset String
  processorsReady : Bool
  needAddress : Finset String
  needServing : Finset String
  acquired : Finset String
  available : Finset String

namespace DFRayProcessorPool

def newProcessor (pool : DFRayProcessorPool) (key : String) : DFRayProcessorPool :=
  { pool with
    processorsReady := false
    pool := insert key pool.pool
    processorsStarted := insert key pool.processorsStarted
    available := insert key pool.available }

def newProcessors (pool : DFRayProcessorPool) (keys : List String) : DFRayProcessorPool := keys.foldl newProcessor pool

/-- `__init__`, with the names that its processors get. -/
def init (maxWorkers : Nat) (keys : List String) : DFRayProcessorPool :=
  newProcessors ⟨maxWorkers, ∅, fun _ => none, ∅, false, ∅, ∅, ∅, ∅⟩ keys

def waitForProcessorsStarted (pool : DFRayProcessorPool) : DFRayProcessorPool :=
  { pool with needAddress := pool.needAddress ∪ pool.processorsStarted, processorsStarted := ∅ }

def waitForGetAddrs (pool : DFRayProcessorPool) (addr : String → String) : DFRayProcessorPool :=
  { pool with
    addrs := fun key => if key ∈ pool.needAddress then some (addr key) else pool.addrs key
    needServing := pool.needServing ∪ pool.needAddress
    needAddress := ∅ }

def waitForServe (pool : DFRayProcessorPool) : DFRayProcessorPool := { pool with needServing := ∅ }

def start (pool : DFRayProcessorPool) (startup : Startup) (addr : String → String) :
    DFRayProcessorPool × Except PyError Unit :=
  if pool.processorsReady then (pool, .ok ())
  else if pool.processorsStarted = ∅ then (pool, .error .emptyWait)
  else
    match startup with
    | .notStarted error => (pool, .error (.exception error))
    | .noAddress error =>
      let started := pool.waitForProcessorsStarted
      ({ started with needServing := started.needServing ∪ started.needAddress }, .error (.exception error))
    | .served =>
      ({ ((pool.waitForProcessorsStarted.waitForGetAddrs addr).waitForServe) with processorsReady := true }, .ok ())

def release (pool : DFRayProcessorPool) : List String → DFRayProcessorPool × Except PyError Unit
  | [] => (pool, .ok ())
  | key :: rest =>
    if key ∈ pool.acquired then
      release { pool with acquired := pool.acquired.erase key, available := insert key pool.available } rest
    else (pool, .error (.keyError key))

def lookUp (find : String → Option String) (keys : List String) : Except PyError (List String) :=
  keys.mapM fun key =>
    match find key with
    | some value => .ok value
    | none => .error (.keyError key)

/-- What chance and the cluster decide in a call of `acquire`: the names of new
processors, how these start, and which processors `set.pop` returns. -/
structure Choices where
  names : List String
  startup : Startup
  addr : String → String
  picks : List String

def take (pool : DFRayProcessorPool) (keys : List String) : DFRayProcessorPool :=
  { pool with available := pool.available \ keys.toFinset, acquired := pool.acquired ∪ keys.toFinset }

/-- The end of `acquire`. The processors come back as their keys. Picks that are not
available are no run of the source. -/
def popProcessors (pool : DFRayProcessorPool) (need : Nat) (picks : List String) :
    Option (DFRayProcessorPool × Except PyError (List String × List String)) :=
  if pool.available.card < need then some (pool, .error .assertionError)
  else if picks.length = need ∧ picks.Nodup ∧ ∀ pick ∈ picks, pick ∈ pool.available then
    some (pool.take picks, do
      let processors ← lookUp (fun key => if key ∈ pool.pool then some key else none) picks
      let addrs ← lookUp pool.addrs picks
      return (processors, addrs))
  else none

/-- Names that are not new are no run of the source either. -/
def acquire (pool : DFRayProcessorPool) (need : Nat) (choices : Choices) :
    Option (DFRayProcessorPool × Except PyError (List String × List String)) :=
  let total := pool.available.card + pool.acquired.card
  let canMake : Int := pool.maxWorkers - total
  let needToMake : Int := need - pool.available.card
  if canMake < needToMake then
    some (pool, .error (.exception s!"Cannot allocate workers above {pool.maxWorkers}"))
  else if 0 < needToMake then
    if choices.names.length = needToMake ∧ choices.names.Nodup ∧ ∀ name ∈ choices.names, name ∉ pool.pool then
      match (pool.newProcessors choices.names).start choices.startup choices.addr with
      | (started, .error error) => some (started, .error error)
      | (started, .ok ()) => started.popProcessors need choices.picks
    else none
  else pool.popProcessors need choices.picks

end DFRayProcessorPool

structure StageData where
  stageId : Nat
  childStageIds : List Nat
  numOutputPartitions : Nat
  fullPartitions : Bool
  deriving DecidableEq, Repr

structure InternalStageData extends StageData where
  remoteAddr : String
  deriving DecidableEq, Repr

/-- The addresses for each output partition of a child stage. Every stage with the
child's id sets all of them anew. -/
def childAddrs (children : List InternalStageData) : Except PyError (List (List String)) :=
  match children with
  | [] => .error (.valueError "not enough values to unpack (expected 2, got 0)")
  | first :: _ =>
    if children.all fun child => child.numOutputPartitions = first.numOutputPartitions then
      .ok (children.foldl (fun _ child => List.replicate first.numOutputPartitions
        (if child.fullPartitions then [child.remoteAddr] else children.map InternalStageData.remoteAddr)) [])
    else .error .assertionError

structure DFRayContextSupervisor where
  pool : DFRayProcessorPool
  stages : List (String × InternalStageData)

structure NewQuery where
  stageDatas : List StageData
  choices : DFRayProcessorPool.Choices
  updated : Except PyError Unit

inductive SupervisorAction where
  | start (startup : Startup) (addr : String → String)
  | newQuery (query : NewQuery)

namespace DFRayContextSupervisor

def init (workerPoolMax : Nat) (keys : List String) : DFRayContextSupervisor := ⟨.init workerPoolMax keys, []⟩

def sortOutAddresses (stages : List (String × InternalStageData)) :
    Except PyError (List (String × List (Nat × List (List String)))) :=
  stages.mapM fun (key, stage) => do
    let addrs ← stage.childStageIds.mapM fun childStageId => do
      let addrs ← childAddrs ((stages.map Prod.snd).filter fun other => other.stageId = childStageId)
      return (childStageId, addrs)
    return (key, addrs)

/-- The end of `new_query`, which changes nothing in the supervisor. -/
def updatePlans (stages : List (String × InternalStageData)) (updated : Except PyError Unit) : Except PyError Unit := do
  let _ ← sortOutAddresses stages
  if stages = [] then throw .emptyWait
  updated

def newQuery (supervisor : DFRayContextSupervisor) (query : NewQuery) :
    Option (DFRayContextSupervisor × Except PyError Unit) :=
  let (released, result) := supervisor.pool.release (supervisor.stages.map Prod.fst)
  match result with
  | .error error => some ({ supervisor with pool := released }, .error error)
  | .ok () =>
    (released.acquire query.stageDatas.length query.choices).map fun (acquired, result) =>
      match result with
      | .error error => ({ supervisor with pool := acquired }, .error error)
      | .ok (processorKeys, addrs) =>
        let stages := List.zipWith (fun key (stage, addr) => (key, ⟨stage, addr⟩)) processorKeys
          (query.stageDatas.zip addrs)
        (⟨acquired, stages⟩, updatePlans stages query.updated)

def step (supervisor : DFRayContextSupervisor) : SupervisorAction → Option DFRayContextSupervisor
  | .start startup addr => some { supervisor with pool := (supervisor.pool.start startup addr).1 }
  | .newQuery query => (supervisor.newQuery query).map Prod.fst

end DFRayContextSupervisor

end DatafusionRay.Batch
