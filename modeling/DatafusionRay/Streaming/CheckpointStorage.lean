import DatafusionRay.Foundation.ReadModifyWrite
import DatafusionRay.Streaming.Partitioning
import Mathlib

/-! The `latest.json` file of an operator: which partition ranges have been
stored under which checkpoint id, and how a search range is put together again
from them. -/

namespace DatafusionRay.Streaming
open Foundation

structure PartitionInfo where
  partitionRange : PartitionRange
  timestamp : Nat
  checkpointDir : String
  deriving DecidableEq, Repr

structure CheckpointEntry where
  id : String
  partitions : List PartitionInfo
  deriving DecidableEq, Repr

structure LatestCheckpoints where
  completedCheckpoints : List CheckpointEntry
  deriving DecidableEq, Repr

/-- What the parser makes of a text: the checkpoints in it, or why it has none. -/
abbrev LatestText := Except String LatestCheckpoints

/-- A file that cannot be read counts as an empty one; a text that does not parse is an error. -/
def readLatestJson (read : Option LatestText) : Except DataFusionError LatestCheckpoints :=
  match read with
  | none => .ok ⟨[]⟩
  | some text => text.mapError .internal

/-- The checkpoints that a file lists, if it is there. -/
def checkpointsIn (file : Option LatestCheckpoints) : LatestCheckpoints := file.getD ⟨[]⟩

theorem readLatestJson_eq_ok {read : Option LatestText} {latest : LatestCheckpoints} :
    readLatestJson read = .ok latest ↔ (read = none ∧ latest = ⟨[]⟩) ∨ read = some (.ok latest) := by
  rcases read with _ | (message | stored) <;> simp [readLatestJson, Except.mapError, eq_comm]

theorem readLatestJson_map_ok (file : Option LatestCheckpoints) :
    readLatestJson (file.map .ok) = .ok (checkpointsIn file) := by
  cases file <;> rfl

/-- One `complete_checkpoint` call, after it has asked the clock for the timestamp. -/
structure CompleteCheckpoint where
  checkpointId : String
  partitionInfo : PartitionInfo
  deriving DecidableEq, Repr

namespace CompleteCheckpoint

/-- The first entry of the call's checkpoint id takes its info; without one a new entry is appended. -/
def insert (call : CompleteCheckpoint) : List CheckpointEntry → List CheckpointEntry
  | [] => [⟨call.checkpointId, [call.partitionInfo]⟩]
  | entry :: rest =>
    if entry.id = call.checkpointId then { entry with partitions := entry.partitions ++ [call.partitionInfo] } :: rest
    else entry :: call.insert rest

def update (call : CompleteCheckpoint) (latest : LatestCheckpoints) : LatestCheckpoints :=
  ⟨call.insert latest.completedCheckpoints⟩

def ListedIn (call : CompleteCheckpoint) (latest : LatestCheckpoints) : Prop :=
  ∃ entry ∈ latest.completedCheckpoints, entry.id = call.checkpointId ∧ call.partitionInfo ∈ entry.partitions

instance (call : CompleteCheckpoint) (latest : LatestCheckpoints) : Decidable (call.ListedIn latest) :=
  inferInstanceAs (Decidable (∃ entry ∈ latest.completedCheckpoints, _ ∧ _))

private theorem mem_insert_self (call : CompleteCheckpoint) (entries : List CheckpointEntry) :
    ∃ entry ∈ call.insert entries, entry.id = call.checkpointId ∧ call.partitionInfo ∈ entry.partitions := by
  induction entries with
  | nil => exact ⟨_, List.mem_singleton_self _, rfl, List.mem_singleton_self _⟩
  | cons entry rest ih =>
    simp only [insert]
    split
    next same => exact ⟨_, List.mem_cons_self, same, by simp⟩
    next =>
      obtain ⟨found, member, listed⟩ := ih
      exact ⟨found, List.mem_cons_of_mem _ member, listed⟩

private theorem insert_keeps (call : CompleteCheckpoint) {entries : List CheckpointEntry} {entry : CheckpointEntry}
    (member : entry ∈ entries) :
    ∃ kept ∈ call.insert entries, kept.id = entry.id ∧ ∀ info ∈ entry.partitions, info ∈ kept.partitions := by
  induction entries with
  | nil => cases member
  | cons head rest ih =>
    simp only [insert]
    split
    next same =>
      rcases List.mem_cons.mp member with rfl | later
      · exact ⟨_, List.mem_cons_self, rfl, fun info old => List.mem_append_left _ old⟩
      · exact ⟨entry, List.mem_cons_of_mem _ later, rfl, fun _ old => old⟩
    next =>
      rcases List.mem_cons.mp member with rfl | later
      · exact ⟨entry, List.mem_cons_self, rfl, fun _ old => old⟩
      · obtain ⟨kept, inside, same⟩ := ih later
        exact ⟨kept, List.mem_cons_of_mem _ inside, same⟩

private theorem mem_insert {call : CompleteCheckpoint} {entries : List CheckpointEntry} {entry : CheckpointEntry}
    {info : PartitionInfo} (member : entry ∈ call.insert entries) (listed : info ∈ entry.partitions) :
    (entry.id = call.checkpointId ∧ info = call.partitionInfo) ∨
      ∃ old ∈ entries, old.id = entry.id ∧ info ∈ old.partitions := by
  induction entries with
  | nil =>
    cases List.mem_singleton.mp member
    exact .inl ⟨rfl, List.mem_singleton.mp listed⟩
  | cons head rest ih =>
    simp only [insert] at member
    split at member
    next same =>
      rcases List.mem_cons.mp member with rfl | later
      · rcases List.mem_append.mp listed with old | new
        · exact .inr ⟨head, List.mem_cons_self, rfl, old⟩
        · exact .inl ⟨same, List.mem_singleton.mp new⟩
      · exact .inr ⟨entry, List.mem_cons_of_mem _ later, rfl, listed⟩
    next =>
      rcases List.mem_cons.mp member with rfl | later
      · exact .inr ⟨entry, List.mem_cons_self, rfl, listed⟩
      · exact (ih later).imp_right fun ⟨old, inside, same⟩ => ⟨old, List.mem_cons_of_mem _ inside, same⟩

theorem listedIn_update_iff {call other : CompleteCheckpoint} {latest : LatestCheckpoints} :
    call.ListedIn (other.update latest) ↔ call = other ∨ call.ListedIn latest := by
  constructor
  · rintro ⟨entry, member, id, listed⟩
    rcases mem_insert member listed with ⟨same, info⟩ | ⟨old, inside, same, earlier⟩
    · left
      cases call
      cases other
      simp only at id same info
      rw [← id, same, info]
    · exact .inr ⟨old, inside, same.trans id, earlier⟩
  · rintro (rfl | ⟨entry, member, id, listed⟩)
    · exact mem_insert_self call latest.completedCheckpoints
    · obtain ⟨kept, inside, same, infos⟩ := insert_keeps other member
      exact ⟨kept, inside, same.trans id, infos _ listed⟩

end CompleteCheckpoint

/-- What the clock and the accesses to the storage do during one call. A write that
fails may have cut off the file, and it leaves anything behind. -/
structure StorageOutcomes where
  clock : Except String Nat
  readFault : Option DataFusionError
  serializeFault : Option String
  mkdirFault : Option DataFusionError
  writeFault : Option (DataFusionError × Option LatestText)
  deriving DecidableEq

/-- A call that meets no fault. -/
def StorageOutcomes.intact (timestamp : Nat) : StorageOutcomes := ⟨.ok timestamp, none, none, none, none⟩

/-- The read of `latest.json`: its contents, its absence or any other failure. -/
def StorageOutcomes.readFile (outcomes : StorageOutcomes) (file : Option LatestText) : Except DataFusionError LatestText :=
  match outcomes.readFault, file with
  | some fault, _ => .error fault
  | none, some text => .ok text
  | none, none => .error (.external "No such file or directory (os error 2)")

/-- The call that one with these arguments becomes at a timestamp. -/
def CompleteCheckpoint.timed (checkpointId checkpointDir : String) (partitionRange : PartitionRange) (timestamp : Nat) :
    CompleteCheckpoint :=
  ⟨checkpointId, ⟨partitionRange, timestamp % 2 ^ 64, checkpointDir⟩⟩

/-- `complete_checkpoint` with its result and the file behind it. The directory of
the file is made before the file is written. -/
def completeCheckpoint (outcomes : StorageOutcomes) (checkpointId checkpointDir : String)
    (partitionRange : PartitionRange) (file : Option LatestText) : Except DataFusionError Unit × Option LatestText :=
  match outcomes.clock with
  | .error error => (.error (.internal s!"Failed to get current time: {error}"), file)
  | .ok timestamp =>
    match readLatestJson (outcomes.readFile file).toOption with
    | .error error => (.error error, file)
    | .ok latest =>
      match outcomes.serializeFault, outcomes.mkdirFault, outcomes.writeFault with
      | some message, _, _ => (.error (.internal s!"Failed to serialize JSON: {message}"), file)
      | none, some fault, _ => (.error fault, file)
      | none, none, some (fault, left) => (.error fault, left)
      | none, none, none =>
        (.ok (), some (.ok ((CompleteCheckpoint.timed checkpointId checkpointDir partitionRange timestamp).update latest)))

/-- Without a fault, the call adds its info to those that the file lists. -/
theorem completeCheckpoint_intact (timestamp : Nat) (checkpointId checkpointDir : String) (partitionRange : PartitionRange)
    (file : Option LatestCheckpoints) :
    completeCheckpoint (.intact timestamp) checkpointId checkpointDir partitionRange (file.map .ok) =
      (.ok (), some (.ok ((CompleteCheckpoint.timed checkpointId checkpointDir partitionRange timestamp).update
        (checkpointsIn file)))) := by
  cases file <;> rfl

section Storage
variable {ι : Type} [DecidableEq ι]

/-- The shared file of one operator and the `complete_checkpoint` calls under way on it. -/
abbrev LatestJson (ι : Type) := ReadModifyWrite.Session ι (Option LatestCheckpoints) LatestCheckpoints

/-- One storage access of one call: its read of the file, then its write. -/
def completeStep (calls : ι → CompleteCheckpoint) : LatestJson ι → ι → Option (LatestJson ι) :=
  ReadModifyWrite.advance checkpointsIn fun caller latest => some ((calls caller).update latest)

/-- A call that nobody disturbs does what `complete_checkpoint` does without a fault. -/
theorem completeStep_undisturbed {calls : ι → CompleteCheckpoint} {caller : ι} {checkpointId checkpointDir : String}
    {partitionRange : PartitionRange} {timestamp : Nat}
    (call : calls caller = .timed checkpointId checkpointDir partitionRange timestamp) (file : Option LatestCheckpoints) :
    (run (completeStep calls) (ReadModifyWrite.start file) [caller, caller]).map (fun session => session.register.map .ok) =
      some (completeCheckpoint (.intact timestamp) checkpointId checkpointDir partitionRange (file.map .ok)).2 := by
  rw [completeCheckpoint_intact, ← call]
  simp [run, completeStep, ReadModifyWrite.advance, ReadModifyWrite.start]

end Storage

structure OverlappingPartition where
  index : Nat
  selectedPartitionRange : PartitionRange
  deriving DecidableEq, Repr

/-- The products are `usize` products. -/
def PartitionRange.normalise (target : Nat) (range : PartitionRange) : Nat × Nat :=
  (range.start * target % 2 ^ 64 / range.partitions, range.stop * target % 2 ^ 64 / range.partitions)

theorem PartitionRange.normalise_self {range : PartitionRange} (positive : 0 < range.partitions)
    (ordered : range.start ≤ range.stop) (bounded : range.stop * range.partitions < 2 ^ 64) :
    range.normalise range.partitions = (range.start, range.stop) := by
  have below : range.start * range.partitions ≤ range.stop * range.partitions := Nat.mul_le_mul_right _ ordered
  rw [normalise, Nat.mod_eq_of_lt bounded, Nat.mod_eq_of_lt (Nat.lt_of_le_of_lt below bounded),
    Nat.mul_div_cancel _ positive, Nat.mul_div_cancel _ positive]

def targetPartitions (searchRange : PartitionRange) (available : List PartitionRange) : Nat :=
  available.foldl (fun largest range => max largest range.partitions) searchRange.partitions

/-- Extends the covered part of the search range by one partition after the other. -/
def coverSearch (target searchEnd : Nat) :
    Nat → List OverlappingPartition → List (Nat × Nat × Nat) → Except Failure (Option (List OverlappingPartition))
  | currentSearchStart, _, [] =>
    if currentSearchStart < searchEnd then .ok none
    else .error (.panicked "Search algorithm finished without returning the success case")
  | currentSearchStart, found, (index, start, stop) :: rest =>
    if currentSearchStart < stop then
      if currentSearchStart < start then .ok none
      else
        let overlapEnd := min searchEnd stop
        let found := found ++ [⟨index, ⟨currentSearchStart, overlapEnd, target⟩⟩]
        if searchEnd ≤ overlapEnd then .ok (some found) else coverSearch target searchEnd overlapEnd found rest
    else coverSearch target searchEnd currentSearchStart found rest

/-- The sort is by the first component, which is the original index. -/
def getNonOverlappingPartitions (searchRange : PartitionRange) (available : List PartitionRange) :
    Except Failure (Option (List OverlappingPartition)) :=
  if searchRange.partitions = 0 ∨ ∃ range ∈ available, range.partitions = 0 then
    .error (.panicked "attempt to divide by zero")
  else
    let target := targetPartitions searchRange available
    let (searchStart, searchEnd) := searchRange.normalise target
    let normalized := available.zipIdx.map fun (range, index) => (index, range.normalise target)
    let overlapping := normalized.filter fun (_, start, stop) => start < searchEnd && searchStart < stop
    coverSearch target searchEnd searchStart [] (overlapping.insertionSort fun left right => left.1 ≤ right.1)

/-- The directories and ranges an entry offers for the search range, if it covers it. -/
def CheckpointEntry.cover (entry : CheckpointEntry) (searchRange : PartitionRange) :
    Except Failure (Option (List (String × PartitionRange))) := do
  match ← getNonOverlappingPartitions searchRange (entry.partitions.map PartitionInfo.partitionRange) with
  | none => return none
  | some overlaps =>
    let infos ← overlaps.mapM fun overlap =>
      match entry.partitions[overlap.index]? with
      | some info => .ok (info.checkpointDir, overlap.selectedPartitionRange)
      | none => .error (.panicked "index out of bounds")
    return some infos

def findCover (searchRange : PartitionRange) :
    List CheckpointEntry → Except Failure (Option (String × List (String × PartitionRange)))
  | [] => .ok none
  | entry :: rest => do
    match ← entry.cover searchRange with
    | some infos => return some (entry.id, infos)
    | none => findCover searchRange rest

def noViableCheckpoints (operatorId : String) (searchRange : PartitionRange) : Failure :=
  let range := searchRange.debug
  .error (.internal s!"No viable checkpoints found for operator {operatorId} in range {range}")

def getLatestOperatorCheckpoints (file : Option LatestText) (operatorId : String)
    (searchRange : PartitionRange) : Except Failure (String × List (String × PartitionRange)) := do
  let latest ← (readLatestJson file).mapError .error
  match ← findCover searchRange latest.completedCheckpoints with
  | some found => return found
  | none => throw (noViableCheckpoints operatorId searchRange)

def getOperatorCheckpoints (file : Option LatestText) (operatorId : String)
    (searchRange : PartitionRange) (checkpointId : String) : Except Failure (List (String × PartitionRange)) := do
  let latest ← (readLatestJson file).mapError .error
  let entries := latest.completedCheckpoints.filter fun entry => entry.id == checkpointId
  match ← findCover searchRange entries with
  | some found => return found.2
  | none => throw (noViableCheckpoints operatorId searchRange)

/-- A file that can be parsed is searched for the entries with the id. -/
theorem getOperatorCheckpoints_map_ok (file : Option LatestCheckpoints) (operatorId : String) (searchRange : PartitionRange)
    (checkpointId : String) :
    getOperatorCheckpoints (file.map .ok) operatorId searchRange checkpointId =
      (findCover searchRange ((checkpointsIn file).completedCheckpoints.filter fun entry => entry.id == checkpointId) >>=
        fun found => match found with
          | some found => .ok found.2
          | none => .error (noViableCheckpoints operatorId searchRange)) := by
  rw [getOperatorCheckpoints, readLatestJson_map_ok]
  rfl

end DatafusionRay.Streaming
