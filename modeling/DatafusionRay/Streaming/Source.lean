import DatafusionRay.Streaming.Item

/-! The source operator: a fixed list of items that is emitted once for every
iteration. A checkpoint is loaded by moving to the marker that stands for it. -/

namespace DatafusionRay.Streaming

def StreamItem.marker? {ρ : Type} : StreamItem ρ → Option Nat
  | .marker cut => some cut.checkpointNumber
  | .recordBatch _ => none

structure SourceOperator (ρ : Type) where
  items : List (StreamItem ρ)
  numIterations : Nat
  deriving DecidableEq, Repr

structure SourceOperatorFunction (ρ : Type) where
  items : List (StreamItem ρ)
  offset : Nat
  currentIteration : Nat
  numIterations : Nat
  deriving DecidableEq, Repr

def SourceOperator.createOperatorFunction {ρ : Type} (operator : SourceOperator ρ) : SourceOperatorFunction ρ :=
  ⟨operator.items, 0, 0, operator.numIterations⟩

namespace SourceOperatorFunction
variable {ρ : Type}

def maxMarker (items : List (StreamItem ρ)) : Except Failure Nat :=
  match (items.filterMap StreamItem.marker?).max? with
  | some number => .ok number
  | none => .error (.error (.internal "No markers found in source operator items"))

/-- Moves the offset to the matching marker of the list. -/
def load (source : SourceOperatorFunction ρ) (checkpoint : Nat) : Except Failure (SourceOperatorFunction ρ) :=
  if 0 < checkpoint then do
    let maxMarker ← maxMarker source.items
    if maxMarker = 0 then throw (.panicked "attempt to calculate the remainder with a divisor of zero")
    let searchMarker := 1 + (checkpoint - 1) % maxMarker
    match source.items.findIdx? fun item => item.marker? = some searchMarker with
    | none => throw (.error (.execution s!"No marker found for checkpoint {checkpoint}"))
    | some index => return { source with offset := index, currentIteration := (checkpoint - 1) / maxMarker }
  else return { source with offset := 0, currentIteration := 0 }

/-- The item as a later iteration emits it. The product and the sum are `usize` ones. -/
def renumber (maxMarker iteration : Nat) : StreamItem ρ → StreamItem ρ
  | .marker cut => .marker ⟨(iteration * maxMarker + cut.checkpointNumber) % 2 ^ 64⟩
  | .recordBatch batch => .recordBatch batch

def iterationItems (items : List (StreamItem ρ)) (maxMarker iteration : Nat) : List (StreamItem ρ) :=
  items.map (renumber maxMarker iteration)

/-- The first iteration may be partial, and it is emitted as the list has it. -/
def run (source : SourceOperatorFunction ρ) : Except Failure (List (SItem ρ)) := do
  let maxMarker ← maxMarker source.items
  let next := source.currentIteration + 1
  let later := (List.range' next (source.numIterations - next)).map (iterationItems source.items maxMarker)
  return ((source.items.drop source.offset :: later).flatten).map .ofStreamItem

end SourceOperatorFunction

end DatafusionRay.Streaming
