import DatafusionRay.Streaming.Partitioning

/-! Generations say which partitions a task copy owns and from when; input
details say where each input stream can be read. A remote source derives the
addresses it reads from both. -/

namespace DatafusionRay.Streaming

structure GenerationInputLocation where
  address : String
  offsetRange : Nat × Nat
  partitions : PartitionRange
  deriving DecidableEq, Repr

structure GenerationInputDetail where
  streamId : String
  locations : List GenerationInputLocation
  deriving DecidableEq, Repr

inductive GenerationStartOffset where
  | anyTimeAfter (minimumCheckpoint : Nat)
  deriving DecidableEq, Repr

structure GenerationSpec where
  id : String
  partitions : PartitionRange
  startConditions : List (String × GenerationStartOffset)
  deriving DecidableEq, Repr

def GenerationSpec.canStart (generation : GenerationSpec) (streamIds : List String) (currentMarker : Nat) : Bool :=
  (generation.startConditions.filter fun condition => condition.1 ∈ streamIds).all fun condition =>
    match condition.2 with
    | .anyTimeAfter minimumCheckpoint => minimumCheckpoint ≤ currentMarker

def findCurrentGeneration (streamIds : List String) (generations : List GenerationSpec) (currentMarker : Nat) :
    Except DataFusionError GenerationSpec :=
  match generations.reverse.find? fun generation => generation.canStart streamIds currentMarker with
  | some generation => .ok generation
  | none => .error (.execution "No generation found for the current marker")

/-- A location that serves the checkpoint, with the part of the requested partitions to read from it. -/
def GenerationInputLocation.serve (location : GenerationInputLocation) (partitions : PartitionRange)
    (checkpoint : Nat) : Option PartitionRange :=
  if location.offsetRange.1 ≤ checkpoint ∧ checkpoint < location.offsetRange.2 then
    if location.partitions.isEmpty && partitions.isEmpty then some .empty
    else
      let overlapping := partitions.intersection location.partitions
      if overlapping.isEmpty then none else some overlapping
  else none

theorem GenerationInputLocation.serve_cases (location : GenerationInputLocation) (partitions : PartitionRange)
    {checkpoint : Nat} (open_ : location.offsetRange.1 ≤ checkpoint ∧ checkpoint < location.offsetRange.2) :
    (location.serve partitions checkpoint = some .empty ∧ partitions.isEmpty = true) ∨
      (location.serve partitions checkpoint = none ∧ (partitions.intersection location.partitions).isEmpty = true) ∨
      (location.serve partitions checkpoint = some (partitions.intersection location.partitions) ∧
        (partitions.intersection location.partitions).isEmpty = false) := by
  rw [serve, if_pos open_]
  by_cases both : (location.partitions.isEmpty && partitions.isEmpty) = true
  · rw [if_pos both]
    exact .inl ⟨rfl, (Bool.and_eq_true_iff.mp both).2⟩
  · rw [if_neg both]
    cases empty : (partitions.intersection location.partitions).isEmpty with
    | true => exact .inr (.inl ⟨if_pos empty, rfl⟩)
    | false => exact .inr (.inr ⟨if_neg (by simp [empty]), rfl⟩)

theorem GenerationInputLocation.serve_size (location : GenerationInputLocation) (partitions : PartitionRange)
    {checkpoint : Nat} (open_ : location.offsetRange.1 ≤ checkpoint ∧ checkpoint < location.offsetRange.2) :
    ((location.serve partitions checkpoint).map PartitionRange.size).getD 0 =
      min partitions.stop location.partitions.stop - max partitions.start location.partitions.start := by
  rcases location.serve_cases partitions open_ with ⟨whole, empty⟩ | ⟨missing, empty⟩ | ⟨found, _⟩
  · have same : partitions.start = partitions.stop := by simpa [PartitionRange.isEmpty] using empty
    have nothing : PartitionRange.empty.size = 0 := PartitionRange.size_of_isEmpty rfl
    simp only [whole, Option.map_some, Option.getD_some, nothing]
    omega
  · rw [PartitionRange.intersection_isEmpty, decide_eq_true_eq] at empty
    simp only [missing, Option.map_none, Option.getD_none]
    omega
  · simp only [found, Option.map_some, Option.getD_some, PartitionRange.intersection_size]

/-- The locations of a stream that can be read at the checkpoint. -/
def GenerationInputDetail.openAt (inputDetail : GenerationInputDetail) (checkpoint : Nat) : List GenerationInputLocation :=
  inputDetail.locations.filter fun location =>
    location.offsetRange.1 ≤ checkpoint && checkpoint < location.offsetRange.2

/-- The sum counts what was found; a location without partitions adds nothing to it.
Sums of the `usize` sizes wrap around. -/
def getAddressesForStream (partitions : PartitionRange) (checkpoint : Nat) (inputDetail : GenerationInputDetail) :
    Except DataFusionError (List (String × String × PartitionRange)) :=
  let addresses := inputDetail.locations.filterMap fun location =>
    (location.serve partitions checkpoint).map fun part => (inputDetail.streamId, location.address, part)
  let foundPartitionCount := (addresses.map fun address => address.2.2.size).sum % 2 ^ 64
  if foundPartitionCount = partitions.size % 2 ^ 64 then .ok addresses
  else
    let streamId := inputDetail.streamId
    let expected := partitions.debug
    .error (.execution (s!"Missing partitions for stream {streamId} at checkpoint {checkpoint}. " ++
      s!"Expected: {expected}, Found: {foundPartitionCount}"))

/-- The sizes of the parts found are those of the overlaps with the open locations. -/
theorem sum_found_sizes (partitions : PartitionRange) (checkpoint : Nat) (inputDetail : GenerationInputDetail) :
    ((inputDetail.locations.filterMap fun location => (location.serve partitions checkpoint).map fun part =>
        (inputDetail.streamId, location.address, part)).map fun address => address.2.2.size).sum =
      ((inputDetail.openAt checkpoint).map fun location =>
        min partitions.stop location.partitions.stop - max partitions.start location.partitions.start).sum := by
  rw [GenerationInputDetail.openAt]
  induction inputDetail.locations with
  | nil => rfl
  | cons location rest ih =>
    by_cases open_ : location.offsetRange.1 ≤ checkpoint ∧ checkpoint < location.offsetRange.2
    · have here := location.serve_size partitions open_
      rw [List.filter_cons_of_pos (by simpa using open_), List.map_cons, List.sum_cons, ← ih, ← here]
      cases served : location.serve partitions checkpoint with
      | none => simp [served]
      | some part => simp [served]
    · have closed : location.serve partitions checkpoint = none := if_neg open_
      rw [List.filter_cons_of_neg (by simpa using open_), ← ih]
      simp [closed]

def getAddresses (partitions : PartitionRange) (checkpoint : Nat) (streamIds : List String)
    (inputDetails : List GenerationInputDetail) : Except DataFusionError (List (String × String × PartitionRange)) := do
  let found ← streamIds.mapM fun streamId =>
    match inputDetails.find? fun inputDetail => inputDetail.streamId == streamId with
    | some inputDetail => .ok inputDetail
    | none => .error (.execution s!"No input detail found for stream ID: {streamId}")
  let addresses ← found.mapM (getAddressesForStream partitions checkpoint)
  return addresses.flatten

end DatafusionRay.Streaming
