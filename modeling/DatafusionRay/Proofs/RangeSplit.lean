import DatafusionRay.Foundation.Interval
import DatafusionRay.Streaming.Coordinator

/-! The ranges that `scale_up` cuts for the copies of a task. They always follow
one another up to the cap, but the cap is an exclusive or, so there are only
thirty-four partitions to go round. -/

namespace DatafusionRay.Proofs.RangeSplit
open Streaming Foundation

/-- Ranges with something in each, from 0 to the cap without a gap, as equal as can
be, and with every hash in one of them. -/
structure EvenSplit (cap : Nat) (ranges : List PartitionRange) : Prop where
  nonempty : ∀ range ∈ ranges, range.isEmpty = false
  chained : Chain PartitionRange.start PartitionRange.stop 0 ranges cap
  balanced : ∀ left ∈ ranges, ∀ right ∈ ranges, left.size ≤ right.size + 1
  once : ∀ hash, (ranges.countP fun range => range.containsHash hash) = 1

variable {newNumber : Nat}

/-- Where copy `i` starts, and the copy before it stops. -/
def bound (newNumber i : Nat) : Nat := i * (newPartitionCap / newNumber) + min i (newPartitionCap % newNumber)

theorem scaleUpPartition_eq (newNumber i : Nat) :
    scaleUpPartition newNumber i = ⟨bound newNumber i, bound newNumber (i + 1), newPartitionCap⟩ := by
  simp only [scaleUpPartition, bound, Nat.succ_mul, PartitionRange.mk.injEq, and_true]
  constructor
  · split <;> omega
  · split <;> omega

theorem bound_succ (newNumber i : Nat) :
    bound newNumber i + newPartitionCap / newNumber ≤ bound newNumber (i + 1) ∧
      bound newNumber (i + 1) ≤ bound newNumber i + newPartitionCap / newNumber + 1 := by
  simp only [bound, Nat.succ_mul]
  omega

theorem bound_last (copies : 1 ≤ newNumber) : bound newNumber newNumber = newPartitionCap := by
  have division := Nat.div_add_mod newPartitionCap newNumber
  have remainder : newPartitionCap % newNumber < newNumber := Nat.mod_lt _ copies
  rw [bound, Nat.min_eq_right (Nat.le_of_lt remainder)]
  exact division

theorem bound_le {i : Nat} (copies : 1 ≤ newNumber) (copy : i ≤ newNumber) : bound newNumber i ≤ newPartitionCap := by
  have blocks : i * (newPartitionCap / newNumber) ≤ newNumber * (newPartitionCap / newNumber) := Nat.mul_le_mul_right _ copy
  have last := bound_last copies
  simp only [bound] at last ⊢
  omega

theorem scaleUpPartition_nonempty {i : Nat} (small : newNumber ≤ newPartitionCap) (copy : i < newNumber) :
    bound newNumber i < bound newNumber (i + 1) := by
  have floor : 1 ≤ newPartitionCap / newNumber := (Nat.le_div_iff_mul_le (by omega)).mpr (by omega)
  have grows := bound_succ newNumber i
  omega

/-- With more copies than partitions the copies behind the last partition get nothing. -/
theorem scaleUpPartition_cap (large : newPartitionCap < newNumber) :
    scaleUpPartition newNumber newPartitionCap = ⟨newPartitionCap, newPartitionCap, newPartitionCap⟩ := by
  have none : newPartitionCap / newNumber = 0 := Nat.div_eq_of_lt large
  have all : newPartitionCap % newNumber = newPartitionCap := Nat.mod_eq_of_lt large
  simp [scaleUpPartition_eq, bound, none, all]

private theorem mem_scaleUpPartitions {range : PartitionRange} :
    range ∈ scaleUpPartitions newNumber ↔ ∃ i < newNumber, scaleUpPartition newNumber i = range := by
  simp [scaleUpPartitions]

private theorem chained_from (newNumber first count : Nat) :
    Chain PartitionRange.start PartitionRange.stop (bound newNumber first)
      ((List.range' first count).map (scaleUpPartition newNumber)) (bound newNumber (first + count)) := by
  induction count generalizing first with
  | zero => rfl
  | succ count ih =>
    have later := ih (first + 1)
    have grows := bound_succ newNumber first
    rw [Nat.add_right_comm, Nat.add_assoc] at later
    rw [List.range'_succ, List.map_cons]
    refine ⟨by rw [scaleUpPartition_eq], ?_, ?_⟩
    · rw [scaleUpPartition_eq]
      exact Nat.le_trans (Nat.le_add_right _ _) grows.1
    · rw [scaleUpPartition_eq]
      exact later

theorem scaleUpPartitions_chained (copies : 1 ≤ newNumber) :
    Chain PartitionRange.start PartitionRange.stop 0 (scaleUpPartitions newNumber) newPartitionCap := by
  have whole := chained_from newNumber 0 newNumber
  rw [Nat.zero_add, bound_last copies, ← List.range_eq_range'] at whole
  have first : bound newNumber 0 = 0 := by simp [bound]
  rwa [first] at whole

private theorem scaleUpPartitions_balanced :
    ∀ left ∈ scaleUpPartitions newNumber, ∀ right ∈ scaleUpPartitions newNumber, left.size ≤ right.size + 1 := by
  intro left leftMember right rightMember
  obtain ⟨i, -, rfl⟩ := mem_scaleUpPartitions.mp leftMember
  obtain ⟨j, -, rfl⟩ := mem_scaleUpPartitions.mp rightMember
  have first := bound_succ newNumber i
  have second := bound_succ newNumber j
  simp only [scaleUpPartition_eq]
  rw [PartitionRange.size_of_le (Nat.le_trans (Nat.le_add_right _ _) first.1),
    PartitionRange.size_of_le (Nat.le_trans (Nat.le_add_right _ _) second.1)]
  dsimp only
  omega

theorem scaleUpPartitions_once (copies : 1 ≤ newNumber) (hash : UInt64) :
    ((scaleUpPartitions newNumber).countP fun range => range.containsHash hash) = 1 := by
  have below : hash.toNat % newPartitionCap < newPartitionCap := Nat.mod_lt _ (by decide)
  obtain ⟨range, -, -, -, only⟩ := (scaleUpPartitions_chained copies).filter_eq_singleton (Nat.zero_le _) below
  have same : ∀ range ∈ scaleUpPartitions newNumber, range.containsHash hash =
      (decide (range.start ≤ hash.toNat % newPartitionCap) && decide (hash.toNat % newPartitionCap < range.stop)) := by
    intro range member
    obtain ⟨i, -, rfl⟩ := mem_scaleUpPartitions.mp member
    rw [scaleUpPartition_eq]
    rfl
  rw [List.countP_eq_length_filter, List.filter_congr same, only, List.length_singleton]

/-- The split is an even one if and only if there is a partition for every copy. -/
theorem scale_up_splits_evenly_iff (newNumber : Nat) (copies : 1 ≤ newNumber) :
    EvenSplit newPartitionCap (scaleUpPartitions newNumber) ↔ newNumber ≤ 34 := by
  constructor
  · intro even
    by_contra large
    have copy : newPartitionCap < newNumber := Nat.lt_of_not_le large
    have empty := even.nonempty _ (mem_scaleUpPartitions.mpr ⟨newPartitionCap, copy, rfl⟩)
    rw [scaleUpPartition_cap copy] at empty
    cases empty
  · intro small
    refine ⟨fun range member => ?_, scaleUpPartitions_chained copies, scaleUpPartitions_balanced,
      scaleUpPartitions_once copies⟩
    obtain ⟨i, copy, rfl⟩ := mem_scaleUpPartitions.mp member
    have grows := scaleUpPartition_nonempty small copy
    rw [scaleUpPartition_eq, PartitionRange.isEmpty, beq_eq_false_iff_ne]
    exact Nat.ne_of_lt grows

theorem three_copies_split_evenly : EvenSplit newPartitionCap (scaleUpPartitions 3) :=
  (scale_up_splits_evenly_iff 3 (by decide)).mpr (by decide)

/-- The last of thirty-five copies owns no partition. -/
theorem thirty_fifth_copy_is_empty :
    (scaleUpPartitions 35)[34]? = some ⟨34, 34, 34⟩ ∧ (⟨34, 34, 34⟩ : PartitionRange).isEmpty = true ∧ 35 ≤ 2 ^ 32 := by
  decide

end DatafusionRay.Proofs.RangeSplit
