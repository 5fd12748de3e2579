import DatafusionRay.Streaming.Item

/-! The merge of an operator's inputs. An input that has come to a marker is blocked until
all the others have come to one; the marker is then passed on once and all are released. -/

namespace DatafusionRay.Streaming

inductive Poll (α : Type) where
  | ready (value : α)
  | pending
  deriving DecidableEq, Repr

inductive OrdinalStreamItem (ρ : Type) where
  | marker (marker : Marker)
  | recordBatch (ordinal : Nat) (batch : RecordBatch ρ)
  deriving DecidableEq, Repr

abbrev OrdinalStreamResult (ρ : Type) := Except DataFusionError (OrdinalStreamItem ρ)

variable {ρ : Type}

/-- An input with what it has still to give. It is fused: once it has answered with its end
it is `done` and is not asked again. -/
structure InputStream (ρ : Type) where
  ordinal : Nat
  blocked : Bool
  remaining : List (StreamResult ρ)
  done : Bool
  deriving Repr

/-- A poll of the fused stream. Whether the stream below has something ready is up to its
source. -/
def InputStream.pollNext (isPending : Bool) (input : InputStream ρ) :
    Poll (Option (StreamResult ρ)) × InputStream ρ :=
  if input.done then (.ready none, input)
  else if isPending then (.pending, input)
  else
    match input.remaining with
    | [] => (.ready none, { input with done := true })
    | item :: rest => (.ready (some item), { input with remaining := rest })

structure MergedActionStream (ρ : Type) where
  inputs : List (InputStream ρ)
  currentCheckpoint : Option Nat
  deriving Repr

namespace MergedActionStream

def mergeInputs (inputs : List (Nat × List (StreamResult ρ))) : MergedActionStream ρ :=
  ⟨inputs.map fun (ordinal, stream) => ⟨ordinal, false, stream, false⟩, none⟩

def setInput (merged : MergedActionStream ρ) (position : Nat) (input : InputStream ρ) : MergedActionStream ρ :=
  { merged with inputs := merged.inputs.set position input }

/-- An input has come to a marker. One with another number than that of the current
checkpoint is only complained about on the console. -/
def block (merged : MergedActionStream ρ) (position : Nat) (input : InputStream ρ) (marker : Marker) :
    MergedActionStream ρ :=
  { merged.setInput position { input with blocked := true } with
    currentCheckpoint := some (merged.currentCheckpoint.getD marker.checkpointNumber) }

/-- What follows the loop over the inputs. -/
def finishPoll (merged : MergedActionStream ρ) (somePending : Bool) :
    Poll (Option (OrdinalStreamResult ρ)) × MergedActionStream ρ :=
  if somePending then (.pending, merged)
  else if merged.inputs.any InputStream.blocked then
    match merged.currentCheckpoint with
    | some checkpointNumber =>
      (.ready (some (.ok (.marker ⟨checkpointNumber⟩))),
        ⟨merged.inputs.map fun input => { input with blocked := false }, none⟩)
    | none => (.ready none, merged)
  else (.ready none, merged)

/-- The loop over the shuffled inputs, given by their positions. -/
def pollInputs (isPending : Nat → Bool) : MergedActionStream ρ → Bool → List Nat →
    Poll (Option (OrdinalStreamResult ρ)) × MergedActionStream ρ
  | merged, somePending, [] => merged.finishPoll somePending
  | merged, somePending, position :: rest =>
    match merged.inputs[position]? with
    | none => pollInputs isPending merged somePending rest
    | some input =>
      match input.pollNext (isPending position) with
      | (.ready (some (.ok (.recordBatch batch))), polled) =>
        (.ready (some (.ok (.recordBatch input.ordinal batch))), merged.setInput position polled)
      | (.ready (some (.ok (.marker marker))), polled) =>
        pollInputs isPending (merged.block position polled marker) somePending rest
      | (.ready (some (.error error)), polled) => (.ready (some (.error error)), merged.setInput position polled)
      | (.pending, polled) => pollInputs isPending (merged.setInput position polled) true rest
      | (.ready none, polled) => pollInputs isPending (merged.setInput position polled) somePending rest

/-- The positions of the inputs that are not blocked. -/
def unblocked (merged : MergedActionStream ρ) : List Nat :=
  (List.range merged.inputs.length).filter fun position =>
    merged.inputs[position]?.any fun input => !input.blocked

/-- What a poll depends on: the order of the shuffle, and the inputs that have nothing
ready. -/
structure Choice where
  order : List Nat
  pending : List Nat
  deriving DecidableEq, Repr

def pollNext (merged : MergedActionStream ρ) (choice : Choice) :
    Option (Poll (Option (OrdinalStreamResult ρ)) × MergedActionStream ρ) :=
  if choice.order.Perm merged.unblocked then
    some (merged.pollInputs (fun position => position ∈ choice.pending) false choice.order)
  else none

end MergedActionStream

/-- A merged stream with the answers it has given so far. -/
structure MergedRun (ρ : Type) where
  stream : MergedActionStream ρ
  answers : List (Poll (Option (OrdinalStreamResult ρ)))

namespace MergedRun

def start (inputs : List (Nat × List (StreamResult ρ))) : MergedRun ρ := ⟨.mergeInputs inputs, []⟩

def step (run : MergedRun ρ) (choice : MergedActionStream.Choice) : Option (MergedRun ρ) :=
  (run.stream.pollNext choice).map fun (answer, stream) => ⟨stream, run.answers ++ [answer]⟩

/-- The items of the answers. -/
def output (run : MergedRun ρ) : List (OrdinalStreamResult ρ) :=
  run.answers.filterMap fun
    | .ready item => item
    | .pending => none

end MergedRun

end DatafusionRay.Streaming
