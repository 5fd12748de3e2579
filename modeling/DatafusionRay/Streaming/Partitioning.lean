import DatafusionRay.Streaming.Item

/-! Half-open ranges of hash partitions, and the row filter that routes by them. -/

namespace DatafusionRay.Streaming

/-- The partitions from `start` up to, not including, `stop` (`end` in the source) out of `partitions`. -/
structure PartitionRange where
  start : Nat
  stop : Nat
  partitions : Nat
  deriving DecidableEq, Repr

namespace PartitionRange

def empty : PartitionRange := ⟨0, 0, 0⟩

def unit : PartitionRange := ⟨0, 1, 1⟩

/-- `2^32` in the source is an exclusive or. -/
def full : PartitionRange := ⟨0, 2 ^^^ 32, 2 ^^^ 32⟩

def intersection (range other : PartitionRange) : PartitionRange :=
  let start := max range.start other.start
  let stop := min range.stop other.stop
  if start < stop then ⟨start, stop, range.partitions⟩ else empty

def isEmpty (range : PartitionRange) : Bool := range.start == range.stop

/-- A difference of two `usize`, which wraps around where the range ends before it starts. -/
def size (range : PartitionRange) : Nat :=
  if range.start ≤ range.stop then range.stop - range.start else range.stop + 2 ^ 64 - range.start

/-- Total here; the source's remainder panics on a range of zero partitions. -/
def containsHash (range : PartitionRange) (hash : UInt64) : Bool :=
  let partition := hash.toNat % range.partitions
  range.start ≤ partition && partition < range.stop

/-- The derived `Debug` output. -/
def debug (range : PartitionRange) : String :=
  let start := range.start
  let stop := range.stop
  let partitions := range.partitions
  s!"PartitionRange \x7b start: {start}, end: {stop}, partitions: {partitions} \x7d"

structure Valid (range : PartitionRange) : Prop where
  nonempty : range.start < range.stop
  within : range.stop ≤ range.partitions

instance : DecidablePred Valid := fun range =>
  decidable_of_iff (range.start < range.stop ∧ range.stop ≤ range.partitions)
    ⟨fun valid => ⟨valid.1, valid.2⟩, fun valid => ⟨valid.1, valid.2⟩⟩

theorem Valid.partitions_pos {range : PartitionRange} (valid : range.Valid) : 0 < range.partitions := by
  have := valid.nonempty
  have := valid.within
  omega

theorem size_of_le {range : PartitionRange} (ordered : range.start ≤ range.stop) :
    range.size = range.stop - range.start := if_pos ordered

theorem size_of_isEmpty {range : PartitionRange} (empty : range.isEmpty = true) : range.size = 0 := by
  have same : range.start = range.stop := eq_of_beq empty
  rw [size_of_le (Nat.le_of_eq same), same, Nat.sub_self]

theorem containsHash_iff {range : PartitionRange} {hash : UInt64} :
    range.containsHash hash = true ↔
      range.start ≤ hash.toNat % range.partitions ∧ hash.toNat % range.partitions < range.stop := by
  simp [containsHash]

section Intersection
variable {left right : PartitionRange}

theorem intersection_of_lt (overlap : max left.start right.start < min left.stop right.stop) :
    left.intersection right = ⟨max left.start right.start, min left.stop right.stop, left.partitions⟩ := by
  simp [intersection, overlap]

theorem intersection_of_le (apart : min left.stop right.stop ≤ max left.start right.start) :
    left.intersection right = .empty := by
  simp [intersection, Nat.not_lt_of_le apart]

theorem intersection_size :
    (left.intersection right).size = min left.stop right.stop - max left.start right.start := by
  rcases Nat.lt_or_ge (max left.start right.start) (min left.stop right.stop) with overlap | apart
  · rw [intersection_of_lt overlap, size_of_le (Nat.le_of_lt overlap)]
  · rw [intersection_of_le apart, size_of_isEmpty rfl, Nat.sub_eq_zero_of_le apart]

theorem intersection_isEmpty :
    (left.intersection right).isEmpty = decide (min left.stop right.stop ≤ max left.start right.start) := by
  rcases Nat.lt_or_ge (max left.start right.start) (min left.stop right.stop) with overlap | apart
  · rw [intersection_of_lt overlap]
    simp [isEmpty, Nat.ne_of_lt overlap, Nat.not_le_of_lt overlap]
  · rw [intersection_of_le apart]
    simp [isEmpty, empty, apart]

theorem containsHash_intersection (same : left.partitions = right.partitions) (hash : UInt64) :
    (left.intersection right).containsHash hash = (left.containsHash hash && right.containsHash hash) := by
  rw [Bool.eq_iff_iff, Bool.and_eq_true, containsHash_iff, containsHash_iff,
    containsHash_iff, same]
  rcases Nat.lt_or_ge (max left.start right.start) (min left.stop right.stop) with overlap | apart
  · rw [intersection_of_lt overlap, same]
    dsimp only
    omega
  · rw [intersection_of_le apart]
    simp only [empty]
    omega

end Intersection

end PartitionRange

def filterByPartitionRange {ρ : Type} (hash : ρ → UInt64) (range : PartitionRange) (batch : RecordBatch ρ) :
    RecordBatch ρ :=
  ⟨batch.rows.filter fun row => range.containsHash (hash row)⟩

end DatafusionRay.Streaming
