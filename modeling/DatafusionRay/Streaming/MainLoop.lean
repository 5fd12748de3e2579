import DatafusionRay.Streaming.WorkerProcess

/-! The main loop of one task: initialise the operator, then load a checkpoint and
run until the run ends. What the operator function answers to a call is given with
the step that makes the call, so a schedule is one sequence of outcomes. -/

namespace DatafusionRay.Streaming

structure OutOfOrderGenerationsError where
  generationId : String
  deriving DecidableEq, Repr

/-- An error by what the loop can tell of it. The external ones box another error,
which may be the one kind that the loop recovers from. -/
inductive TaskError where
  | outOfOrderGenerations (error : OutOfOrderGenerationsError)
  | other (error : DataFusionError)
  deriving DecidableEq, Repr

namespace TaskError

def isExternal : TaskError → Bool
  | .outOfOrderGenerations _ | .other (.external _) => true
  | .other _ => false

/-- `downcast_ref` on the box of an external error. -/
def downcastRef : TaskError → Option OutOfOrderGenerationsError
  | .outOfOrderGenerations error => some error
  | .other _ => none

end TaskError

inductive MainLoopPhase where
  | initialising
  | loading
  | running
  | returned (result : Except TaskError Unit)
  | panicked (message : String)
  deriving DecidableEq, Repr

/-- A call the loop has made and how it ended. A run ends with its output streams,
of which only the number matters. -/
inductive OperatorCall where
  | load (checkpoint : Nat) (outcome : Except TaskError Unit)
  | run (outcome : Except TaskError Nat)
  deriving DecidableEq, Repr

structure MainLoop where
  checkpoint : Nat
  phase : MainLoopPhase
  calls : List OperatorCall
  deriving DecidableEq, Repr

/-- The outcome of the call that is due. `lastCheckpoint` is what the function would
answer if it were asked after the run. -/
inductive CallOutcome where
  | init (result : Except TaskError Unit)
  | load (result : Except TaskError Unit)
  | run (result : Except TaskError Nat) (lastCheckpoint : Nat)
  deriving DecidableEq, Repr

/-- Neither the generations nor the error are looked at. -/
def handleOutOfOrderError (lastCheckpoint : Nat) (_error : OutOfOrderGenerationsError) : Nat := lastCheckpoint

namespace MainLoop

def start (initialCheckpoint : Nat) : MainLoop := ⟨initialCheckpoint, .initialising, []⟩

def record (loop : MainLoop) (call : OperatorCall) : MainLoop := { loop with calls := loop.calls ++ [call] }

/-- What the match behind a failed run does. -/
def onError (loop : MainLoop) (error : TaskError) (lastCheckpoint : Nat) : MainLoop :=
  if error.isExternal then
    match error.downcastRef with
    | some outOfOrder => { loop with checkpoint := handleOutOfOrderError lastCheckpoint outOfOrder, phase := .loading }
    -- The match falls through for any other boxed error, and the loop begins again.
    | none => { loop with phase := .loading }
  else { loop with phase := .returned (.error error) }

def onLoad (loop : MainLoop) : Except TaskError Unit → MainLoop
  | .ok () => { loop with phase := .running }
  | .error error => { loop with phase := .returned (.error error) }

def onRun (loop : MainLoop) (lastCheckpoint : Nat) : Except TaskError Nat → MainLoop
  | .ok 0 => { loop with phase := .returned (.ok ()) }
  | .ok _ => { loop with phase := .panicked "assertion `left == right` failed" }
  | .error error => loop.onError error lastCheckpoint

def step (loop : MainLoop) (outcome : CallOutcome) : Option MainLoop :=
  match loop.phase, outcome with
  | .initialising, .init (.ok ()) => some { loop with phase := .loading }
  | .initialising, .init (.error error) => some { loop with phase := .returned (.error error) }
  | .loading, .load result => some ((loop.record (.load loop.checkpoint result)).onLoad result)
  | .running, .run result lastCheckpoint => some ((loop.record (.run result)).onRun lastCheckpoint result)
  | _, _ => none

end MainLoop

end DatafusionRay.Streaming
