import Mathlib

/-! The values that travel between operators: record batches, the checkpoint
markers that cut a stream into segments, and the errors either may become. -/

namespace DatafusionRay.Streaming

inductive DataFusionError where
  | execution (message : String)
  | internal (message : String)
  | external (message : String)
  | arrowError (message : String)
  deriving DecidableEq, Repr

namespace DataFusionError

/-- The text a formatted error contributes to a message built around it. -/
def display : DataFusionError → String
  | .execution message => s!"Execution error: {message}"
  | .internal message => s!"Internal error: {message}.\nThis was likely caused by a bug in DataFusion's code " ++
      "and we would welcome that you file an bug report in our issue tracker"
  | .external message => s!"External error: {message}"
  | .arrowError message => s!"Arrow error: {message}"

end DataFusionError

inductive Failure where
  | error (error : DataFusionError)
  | panicked (message : String)
  deriving DecidableEq, Repr

/-- A batch is its rows. Operators of this engine look at a row count, at a
hash of some columns or at a key column, so the row type stays a parameter. -/
structure RecordBatch (ρ : Type) where
  rows : List ρ
  deriving DecidableEq, Repr

def RecordBatch.numRows {ρ : Type} (batch : RecordBatch ρ) : Nat := batch.rows.length

structure Marker where
  checkpointNumber : Nat
  deriving DecidableEq, Repr

inductive StreamItem (ρ : Type) where
  | marker (marker : Marker)
  | recordBatch (batch : RecordBatch ρ)
  deriving DecidableEq, Repr

inductive SItem (ρ : Type) where
  | recordBatch (batch : RecordBatch ρ)
  | marker (marker : Marker)
  | generation (generation : Nat)
  deriving DecidableEq, Repr

namespace SItem
variable {ρ : Type}

def ofStreamItem : StreamItem ρ → SItem ρ
  | .recordBatch batch => .recordBatch batch
  | .marker cut => .marker cut

/-- The checkpoint number a marker carries; other items carry none. -/
def marker? : SItem ρ → Option Nat
  | .marker cut => some cut.checkpointNumber
  | _ => none

theorem marker?_eq_some {item : SItem ρ} {number : Nat} : item.marker? = some number ↔ item = .marker ⟨number⟩ := by
  cases item with
  | marker cut => cases cut; simp [marker?]
  | recordBatch batch => simp [marker?]
  | generation generation => simp [marker?]

def numRows : SItem ρ → Nat
  | .recordBatch batch => batch.numRows
  | _ => 0

end SItem

abbrev StreamResult (ρ : Type) := Except DataFusionError (StreamItem ρ)

abbrev SResult (ρ : Type) := Except DataFusionError (SItem ρ)

end DatafusionRay.Streaming
