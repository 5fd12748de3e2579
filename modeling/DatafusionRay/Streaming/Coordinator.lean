import DatafusionRay.Streaming.Operator

/-! The partition ranges that `scale_up` gives to the copies of a task, and the
checkpoints that it starts them from. -/

namespace DatafusionRay.Streaming

/-- `2usize^32` in the source is an exclusive or. -/
def newPartitionCap : Nat := 2 ^^^ 32

/-- The range of copy `i`: the copies before the remainder take one partition more. -/
def scaleUpPartition (newNumber i : Nat) : PartitionRange :=
  let floor := newPartitionCap / newNumber
  let remaining := newPartitionCap % newNumber
  let size := floor + if i < remaining then 1 else 0
  let start := i * floor + if i < remaining then i else remaining
  ⟨start, start + size, newPartitionCap⟩

def scaleUpPartitions (newNumber : Nat) : List PartitionRange := (List.range newNumber).map (scaleUpPartition newNumber)

/-- `parse::<usize>`: digits behind an optional plus sign. -/
def parseUsize (text : String) : Except String Nat :=
  match text.toList with
  | [] => .error "cannot parse integer from empty string"
  | '+' :: [] => .error "invalid digit found in string"
  | first :: rest =>
    let digits := if first = '+' then rest else first :: rest
    if digits.all Char.isDigit then
      let value := Nat.ofDigitChars 10 digits 0
      if value < 2 ^ 64 then .ok value else .error "number too large to fit in target type"
    else .error "invalid digit found in string"

inductive ScaleUpError where
  | value (message : String)
  | failed (failure : Failure)
  deriving DecidableEq, Repr

def latestCheckpoint (latestJson : String → Option LatestText) (stateId : String) (partition : PartitionRange) :
    Except Failure (PartitionRange × Nat) := do
  let (checkpointId, _) ← getLatestOperatorCheckpoints (latestJson stateId) stateId partition
  match parseUsize checkpointId with
  | .ok checkpoint => return (partition, checkpoint)
  | .error error => throw (.error (.internal s!"Failed to parse checkpoint ID: {error}"))

/-- What the new copies of a task load, by the state ids that the task definition gives. -/
def scaleUpCheckpoints {ρ : Type} (latestJson : String → Option LatestText) (task : TaskDefinition2 ρ)
    (newNumber : Nat) : Except ScaleUpError (List (PartitionRange × Nat)) :=
  if newNumber = 0 then .error (.failed (.panicked "attempt to divide by zero"))
  else
    match task.usedStateIds with
    | [taskStateId] =>
      ((scaleUpPartitions newNumber).mapM (latestCheckpoint latestJson taskStateId)).mapError .failed
    | _ => .error (.value "Scaling up is only supported for tasks with a single state ID")

end DatafusionRay.Streaming
