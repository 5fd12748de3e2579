import DatafusionRay.Streaming.RunningTask

/-! The combined stream of a remote source, from its first pull to its end, while
scheduling updates arrive. Its loop pulls fibers, merges them until all have ended
and pulls again; the source answers the first pull only. -/

namespace DatafusionRay.Streaming

/-- Where the loop of `combined` stands. An error of a pull is unwrapped. -/
inductive CombinedPhase where
  | pulling
  | merging
  | ended
  | panicked
  deriving DecidableEq, Repr

structure RunningStream (ρ : Type) where
  task : RunningTask
  source : RemoteSourceFunction
  pullCalled : Bool
  fibers : Option (PulledFibers ρ)
  phase : CombinedPhase

namespace RunningStream
variable {ρ : Type}

def start (task : RunningTask) (source : RemoteSourceFunction) : RunningStream ρ :=
  ⟨task, source, false, none, .pulling⟩

/-- The fibers write the marker that a pull starts from. -/
def currentMarker (stream : RunningStream ρ) : Nat :=
  match stream.fibers with
  | none => stream.source.loadedCheckpoint
  | some fibers => fibers.running.shared.lastCompletedMarker

/-- The fibers of a pull; none if it was called before. -/
def pull (peers : Peers ρ) (stream : RunningStream ρ) : Except DataFusionError (Option (PulledFibers ρ)) :=
  -- A second pull ends here, so fibers are never taken over from an earlier one.
  if stream.pullCalled then .ok none
  else (stream.source.pull peers stream.task.schedulingDetails stream.currentMarker).map some

inductive Action where
  | update (details : TaskSchedulingDetailsUpdate)
  | pull
  | poll (position : Nat)
  | drained
  deriving DecidableEq, Repr

/-- The merged stream of the fibers has ended: each has paused or finished. -/
def isDrained (running : RunningFibers ρ) : Bool :=
  !running.panicked && running.fibers.all fun fiber => fiber.phase = .paused || fiber.phase = .finished

/-- A check reads the scheduling details as they are at its marker. -/
def check (stream : RunningStream ρ) (fibers : PulledFibers ρ) : Nat → Except DataFusionError FiberState :=
  fibers.check stream.source stream.task.schedulingDetails

def step (peers : Peers ρ) (stream : RunningStream ρ) : Action → Option (RunningStream ρ)
  | .update details => some { stream with task := stream.task.updateSchedulingDetails details }
  | .pull =>
    match stream.phase with
    | .pulling =>
      match stream.pull peers with
      | .error _ => some { stream with pullCalled := true, phase := .panicked }
      | .ok none => some { stream with pullCalled := true, phase := .ended }
      | .ok (some fibers) =>
        some { stream with
          pullCalled := true, fibers := some fibers, phase := if fibers.streams.isEmpty then .ended else .merging }
    | _ => none
  | .poll position =>
    match stream.phase, stream.fibers with
    | .merging, some fibers =>
      (fibers.running.step (stream.check fibers) position).map fun running =>
        { stream with fibers := some { fibers with running } }
    | _, _ => none
  | .drained =>
    match stream.phase, stream.fibers with
    | .merging, some fibers => if isDrained fibers.running then some { stream with phase := .pulling } else none
    | _, _ => none

end RunningStream

end DatafusionRay.Streaming
