import DatafusionRay.Streaming.Barrier
import DatafusionRay.Streaming.Item

/-! The fibers of one remote source. Each forwards the items of one remote
stream and stops after every marker until all fibers have reached it; their
outputs are merged in the order in which the fibers happen to be polled. -/

namespace DatafusionRay.Streaming

inductive FiberState where
  | «continue»
  | pause
  deriving DecidableEq, Repr

inductive RunningFiberCheckMarker (α : Type) where
  | item (item : α)
  | check (marker : Marker)
  | finished
  deriving DecidableEq, Repr

/-- A check follows every marker, and the end of the stream is reported. -/
def insertStreamInstructions {ρ : Type} : List (SResult ρ) → List (RunningFiberCheckMarker (SResult ρ))
  | [] => [.finished]
  | .ok (.marker marker) :: rest =>
    .item (.ok (.marker marker)) :: .check marker :: insertStreamInstructions rest
  | other :: rest => .item other :: insertStreamInstructions rest

/-- `SharedFiberState`. A stored computation is known by the marker it was
created for. The results are those sent on the barrier's channels so far. -/
structure SharedFiberState where
  sharedTriggerState : InnerQueueState Nat
  lastCompletedMarker : Nat
  currentlyWaitingOnMarker : Option Nat
  results : List (Nat × Except String FiberState)
  deriving Repr

/-- Where a fiber stands between two critical sections. -/
inductive FiberPhase where
  | streaming
  | polling (marker : Nat)
  | waiting (channel : Nat)
  | paused
  | finished
  deriving DecidableEq, Repr

structure RunningFiber (ρ : Type) where
  remaining : List (RunningFiberCheckMarker (SResult ρ))
  phase : FiberPhase
  deriving Repr

structure RunningFibers (ρ : Type) where
  fibers : List (RunningFiber ρ)
  shared : SharedFiberState
  output : List (Nat × SResult ρ)
  panicked : Bool
  deriving Repr

namespace SharedFiberState

def new (lastCompletedMarker count : Nat) : SharedFiberState := ⟨.opened count, lastCompletedMarker, none, []⟩

/-- Runs the stored computation. `check` is what `check_generation_and_addresses` answers for a marker. -/
def runComputation (check : Nat → Except DataFusionError FiberState) (shared : SharedFiberState) :
    Option Nat → SharedFiberState × Except DataFusionError FiberState
  | some marker =>
    ({ shared with lastCompletedMarker := marker, currentlyWaitingOnMarker := none }, check marker)
  | none => (shared, .error allFinished)

end SharedFiberState

namespace RunningFibers
variable {ρ : Type}

def start (lastCompletedMarker : Nat) (streams : List (List (SResult ρ))) : RunningFibers ρ :=
  ⟨streams.map fun items => ⟨insertStreamInstructions items, .streaming⟩,
    .new lastCompletedMarker streams.length, [], false⟩

def setFiber (running : RunningFibers ρ) (position : Nat) (fiber : RunningFiber ρ) : RunningFibers ρ :=
  { running with fibers := running.fibers.set position fiber }

def emit (running : RunningFibers ρ) (position : Nat) (result : SResult ρ) : RunningFibers ρ :=
  { running with output := running.output ++ [(position, result)] }

/-- What a fiber does with the answer at a marker. An error becomes an item, and
the fiber goes on behind the marker. -/
def settle (running : RunningFibers ρ) (position : Nat) (fiber : RunningFiber ρ) :
    Except DataFusionError FiberState → RunningFibers ρ
  | .ok .«continue» => running.setFiber position { fiber with phase := .streaming }
  | .ok .pause => running.setFiber position { fiber with phase := .paused }
  | .error error => (running.setFiber position { fiber with phase := .streaming }).emit position (.error error)

def hasReceiver (running : RunningFibers ρ) (channel : Nat) : Bool :=
  running.fibers.any fun fiber => fiber.phase = .waiting channel

/-- The last participant's share of a round: compute the result and send it. A
result that nobody receives turns into an error for its sender. -/
def computeAndSend (check : Nat → Except DataFusionError FiberState) (running : RunningFibers ρ)
    (function : Option Nat) (sender : Option Nat) : RunningFibers ρ × Except DataFusionError FiberState :=
  let computed := running.shared.runComputation check function
  match sender with
  | none => ({ running with shared := computed.1 }, computed.2)
  | some channel =>
    if running.hasReceiver channel then
      ({ running with shared :=
          { computed.1 with results := computed.1.results ++ [(channel, sendableResult computed.2)] } }, computed.2)
    else ({ running with shared := computed.1 }, .error receiverDropped)

def setTrigger (running : RunningFibers ρ) (trigger : InnerQueueState Nat) : RunningFibers ρ :=
  { running with shared := { running.shared with sharedTriggerState := trigger } }

/-- The first half of `poll_fiber_state`, under the lock of the awaited marker. -/
def beginPoll (running : RunningFibers ρ) (position : Nat) (fiber : RunningFiber ρ) (marker : Nat) : RunningFibers ρ :=
  match running.shared.currentlyWaitingOnMarker with
  | none =>
    { running with shared := { running.shared with currentlyWaitingOnMarker := some marker } }.setFiber position
      { fiber with phase := .polling marker }
  | some existing =>
    if existing = marker then running.setFiber position { fiber with phase := .polling marker }
    else running.settle position fiber
      (.error (.internal s!"Already waiting on a different marker: {existing}. Current marker: {marker}"))

/-- The second half of `poll_fiber_state`, under the lock of the barrier. -/
def compute (check : Nat → Except DataFusionError FiberState) (running : RunningFibers ρ) (position : Nat)
    (fiber : RunningFiber ρ) (marker : Nat) : RunningFibers ρ :=
  match running.shared.sharedTriggerState.computeResult marker with
  | .error _ => { running with panicked := true }
  | .ok (trigger, .wait channel) =>
    (running.setTrigger trigger).setFiber position { fiber with phase := .waiting channel }
  | .ok (trigger, .compute function sender) =>
    let sent := (running.setTrigger trigger).computeAndSend check function sender
    sent.1.settle position fiber sent.2

/-- `report_finished`. Its own result is dropped. -/
def finish (check : Nat → Except DataFusionError FiberState) (running : RunningFibers ρ) (position : Nat)
    (fiber : RunningFiber ρ) : RunningFibers ρ :=
  match running.shared.sharedTriggerState.removeParticipant with
  | .error _ => { running with panicked := true }
  | .ok (trigger, .wait _) => (running.setTrigger trigger).setFiber position { fiber with phase := .finished }
  | .ok (trigger, .compute function sender) =>
    ((running.setTrigger trigger).computeAndSend check function sender).1.setFiber position
      { fiber with phase := .finished }

def receive (running : RunningFibers ρ) (position : Nat) (fiber : RunningFiber ρ) (sent : Except String FiberState) :
    RunningFibers ρ :=
  running.settle position fiber (receivedResult sent)

def step (check : Nat → Except DataFusionError FiberState) (running : RunningFibers ρ) (position : Nat) :
    Option (RunningFibers ρ) :=
  if running.panicked then none
  else
    match running.fibers[position]? with
    | none => none
    | some fiber =>
      match fiber.phase, fiber.remaining with
      | .streaming, .item result :: rest =>
        some ((running.setFiber position { fiber with remaining := rest }).emit position result)
      | .streaming, .check marker :: rest =>
        some (running.beginPoll position { fiber with remaining := rest } marker.checkpointNumber)
      | .streaming, .finished :: rest => some (running.finish check position { fiber with remaining := rest })
      | .streaming, [] => none
      | .polling marker, _ => some (running.compute check position fiber marker)
      | .waiting channel, _ => (running.shared.results.lookup channel).map (running.receive position fiber)
      | .paused, _ => none
      | .finished, _ => none

end RunningFibers

end DatafusionRay.Streaming
