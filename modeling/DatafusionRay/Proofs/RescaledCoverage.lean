import DatafusionRay.Proofs.CoverageSweep

/-! The coverage search compares positions that were rescaled to the largest
partition count and rounded down. Here the selected ranges are compared with the
search range as exact parts of the unit interval. -/

namespace DatafusionRay.Proofs.RescaledCoverage
open Streaming Foundation CheckpointSelection CoverageSweep

def lowerEnd (range : PartitionRange) : ℚ := (range.start : ℚ) / range.partitions

def upperEnd (range : PartitionRange) : ℚ := (range.stop : ℚ) / range.partitions

def Spans (range : PartitionRange) (point : ℚ) : Prop := lowerEnd range ≤ point ∧ point < upperEnd range

/-- Every point of the search range lies in a stored range that was selected. -/
def Contained (searchRange : PartitionRange) (available : List PartitionRange)
    (selection : List OverlappingPartition) : Prop :=
  ∀ point, Spans searchRange point →
    ∃ overlap ∈ selection, ∃ range, available[overlap.index]? = some range ∧ Spans range point

section Exact
variable {target : Nat} {range : PartitionRange} {point : ℚ}

/-- A count that divides the target loses nothing to rounding. -/
private theorem spans_iff_floor (valid : range.Valid) (divides : range.partitions ∣ target)
    (larger : range.partitions ≤ target) (bounded : range.stop * target < 2 ^ 64) (nonneg : 0 ≤ point) :
    Spans range point ↔
      (range.normalise target).1 ≤ ⌊point * target⌋₊ ∧ ⌊point * target⌋₊ < (range.normalise target).2 := by
  have positive := valid.partitions_pos
  obtain ⟨factor, rfl⟩ := divides
  have scaled (position : Nat) : position * (range.partitions * factor) / range.partitions = position * factor := by
    rw [Nat.mul_left_comm, Nat.mul_div_cancel_left _ positive]
  have large : 0 < factor := by
    rcases Nat.eq_zero_or_pos factor with rfl | large
    · omega
    · exact large
  have count : (0 : ℚ) < range.partitions := by exact_mod_cast positive
  have scale : (0 : ℚ) < factor := by exact_mod_cast large
  have grown : 0 ≤ point * (range.partitions * factor : Nat) := mul_nonneg nonneg (Nat.cast_nonneg _)
  rw [normalise_eq valid bounded, scaled, scaled, Nat.le_floor_iff grown, Nat.floor_lt grown, Spans, lowerEnd, upperEnd,
    div_le_iff₀ count, lt_div_iff₀ count]
  push_cast
  rw [← mul_assoc, mul_le_mul_iff_left₀ scale, mul_lt_mul_iff_left₀ scale]

end Exact

variable {searchRange : PartitionRange} {available : List PartitionRange} {selection : List OverlappingPartition}

/-- Nothing is claimed too much when all partition counts divide the largest one. -/
theorem contained_of_divides (valid : searchRange.Valid) (ranges : ∀ range ∈ available, range.Valid)
    (divides : ∀ range ∈ searchRange :: available, range.partitions ∣ targetPartitions searchRange available)
    (bounded : ∀ range ∈ searchRange :: available, range.stop * targetPartitions searchRange available < 2 ^ 64)
    (selected : getNonOverlappingPartitions searchRange available = .ok (some selection)) :
    Contained searchRange available selection := by
  intro point spans
  have nonneg : 0 ≤ point := le_trans (div_nonneg (Nat.cast_nonneg _) (Nat.cast_nonneg _)) spans.1
  have own := bounded searchRange List.mem_cons_self
  obtain ⟨tiles, pieces⟩ := selection_tiles selected (normalise_lt valid search_le_target own)
  obtain ⟨above, below⟩ := (spans_iff_floor valid (divides _ List.mem_cons_self) search_le_target own nonneg).mp spans
  obtain ⟨overlap, member, starts, stops, _⟩ := tiles.filter_eq_singleton above below
  obtain ⟨_, range, found, _, lower, upper⟩ := pieces overlap member
  have stored := List.mem_of_getElem? found
  have inside := List.mem_cons_of_mem searchRange stored
  refine ⟨overlap, member, range, found, ?_⟩
  exact (spans_iff_floor (ranges range stored) (divides range inside) (available_le_target stored)
    (bounded range inside) nonneg).mpr ⟨Nat.le_trans lower starts, Nat.lt_of_lt_of_le stops upper⟩

/-- A selection misses a point of the search range that no picked range holds. -/
private theorem not_contained (valid : searchRange.Valid) (ranges : ∀ range ∈ available, range.Valid)
    (swept : SweptInOrder searchRange available) {point : ℚ} (spans : Spans searchRange point)
    (missed : ∀ range, PickedInOrder searchRange available range → ¬ Spans range point) :
    ∃ selection, getNonOverlappingPartitions searchRange available = .ok (some selection) ∧
      ¬ Contained searchRange available selection := by
  have answer := @getNonOverlappingPartitions_answers searchRange available
  generalize getNonOverlappingPartitions searchRange available = result at answer
  cases answer with
  | zeroCount zero =>
    rcases zero with zero | ⟨range, member, zero⟩
    · exact absurd zero valid.partitions_pos.ne'
    · exact absurd zero (ranges range member).partitions_pos.ne'
  | gap _ _ unswept => exact absurd swept unswept
  | stuck _ _ none => exact absurd none (candidates_of_swept swept)
  | covered _ _ _ picked =>
    refine ⟨_, rfl, fun contained => ?_⟩
    obtain ⟨overlap, member, range, found, inside⟩ := contained point spans
    exact missed range ((picked range).mp ⟨overlap, member, found⟩) inside

/-- A first range that holds the search range, as rounded, is the only one picked. -/
private theorem first_suffices {range : PartitionRange} {others : List PartitionRange} {target : Nat}
    (scaled : targetPartitions searchRange (range :: others) = target)
    (starts : (range.normalise target).1 ≤ (searchRange.normalise target).1)
    (nonempty : (searchRange.normalise target).1 < (searchRange.normalise target).2)
    (stops : (searchRange.normalise target).2 ≤ (range.normalise target).2) :
    SweptInOrder searchRange (range :: others) ∧
      ∀ picked, PickedInOrder searchRange (range :: others) picked → picked = range := by
  obtain ⟨rest, kept⟩ : ∃ rest, candidates searchRange (range :: others) = range :: rest := by
    rw [candidates, scaled]
    exact ⟨_, List.filter_cons_of_pos (decide_eq_true ⟨starts.trans_lt nonempty, nonempty.trans_le stops⟩)⟩
  constructor
  · rw [SweptInOrder, kept, scaled, sweeps_cons]
    exact ⟨fun _ => starts, .inl (le_max_of_le_right stops)⟩
  · intro picked picks
    rw [PickedInOrder, kept, scaled, picks_cons] at picks
    rcases picks with ⟨same, _⟩ | ⟨unfinished, _⟩
    · exact same
    · exact absurd stops (not_le_of_gt unfinished)

/-- On these partition counts, no selection claims more than its ranges hold. -/
def NeverOverClaims (partitions : Nat) (counts : List Nat) : Prop :=
  ∀ searchRange available selection, searchRange.Valid → (∀ range ∈ available, range.Valid) →
    searchRange.partitions = partitions → (available.map PartitionRange.partitions).Perm counts →
    getNonOverlappingPartitions searchRange available = .ok (some selection) →
    Contained searchRange available selection

/-- The largest of the counts, to which all positions are rescaled. -/
def largest (partitions : Nat) (counts : List Nat) : Nat := counts.foldl max partitions

section Largest
variable {partitions : Nat} {counts : List Nat}

private theorem targetPartitions_eq (same : searchRange.partitions = partitions)
    (listed : (available.map PartitionRange.partitions).Perm counts) :
    targetPartitions searchRange available = largest partitions counts := by
  rw [targetPartitions, same, ← List.foldl_map, largest]
  exact listed.foldl_eq _

private theorem largest_mem : largest partitions counts ∈ partitions :: counts := by
  rw [largest]
  induction counts generalizing partitions with
  | nil => exact List.mem_singleton_self _
  | cons count rest ih =>
    rw [List.foldl_cons]
    rcases List.mem_cons.mp (@ih (max partitions count)) with own | later
    · rcases max_choice partitions count with first | second
      · rw [own, first]
        exact List.mem_cons_self
      · rw [own, second]
        exact List.mem_cons_of_mem _ List.mem_cons_self
    · exact List.mem_cons_of_mem _ (List.mem_cons_of_mem _ later)

private theorem le_largest : ∀ count ∈ partitions :: counts, count ≤ largest partitions counts := by
  have bounded : ∀ first, first ≤ counts.foldl max first ∧ ∀ count ∈ counts, count ≤ counts.foldl max first := by
    induction counts with
    | nil => exact fun first => ⟨le_rfl, fun count member => absurd member List.not_mem_nil⟩
    | cons head rest ih =>
      intro first
      obtain ⟨grows, held⟩ := ih (max first head)
      rw [List.forall_mem_cons, List.foldl_cons]
      exact ⟨(le_max_left _ _).trans grows, (le_max_right _ _).trans grows, held⟩
  exact List.forall_mem_cons.mpr (bounded partitions)

end Largest

/-- One range for each of the counts. -/
private def fillers (counts : List Nat) : List PartitionRange := counts.map fun count => ⟨0, 1, count⟩

private theorem fillers_partitions (counts : List Nat) : (fillers counts).map PartitionRange.partitions = counts := by
  rw [fillers, List.map_map]
  exact List.map_id counts

private theorem fillers_valid {counts : List Nat} (positive : ∀ count ∈ counts, 0 < count) :
    ∀ range ∈ fillers counts, range.Valid := by
  intro range member
  obtain ⟨count, inside, rfl⟩ := List.mem_map.mp member
  exact ⟨Nat.one_pos, positive count inside⟩

section Uneven
variable {count target : Nat} {others : List PartitionRange}

/-- A count that does not divide the target, with products that do not overflow. -/
private structure Uneven (count target : Nat) : Prop where
  several : 1 < count
  below : target / count * count < target
  smaller : count < target
  fits : target * target < 2 ^ 64

private theorem Uneven.of_not_dvd (positive : 0 < count) (le : count ≤ target) (fits : target < 2 ^ 32)
    (uneven : ¬ count ∣ target) : Uneven count target where
  several := by
    refine Nat.lt_of_le_of_ne positive fun one => uneven ?_
    rw [← one]
    exact one_dvd _
  below := lt_of_le_of_ne (Nat.div_mul_le_self target count) fun same =>
    uneven ⟨target / count, by rw [Nat.mul_comm, same]⟩
  smaller := lt_of_le_of_ne le fun same => uneven (same ▸ dvd_rfl)
  fits := by
    calc target * target < 2 ^ 32 * 2 ^ 32 := Nat.mul_self_lt_mul_self fits
      _ = 2 ^ 64 := by norm_num

private theorem Uneven.quotient_pos (uneven : Uneven count target) : 0 < target / count :=
  Nat.div_pos uneven.smaller.le (by have := uneven.several; omega)

private theorem Uneven.quotient_lt (uneven : Uneven count target) : target / count < target :=
  Nat.div_lt_self (Nat.lt_of_le_of_lt (Nat.zero_le _) uneven.smaller) uneven.several

/-- The first of `count` parts ends behind its rounded end. -/
private theorem Uneven.rounded_below (uneven : Uneven count target) :
    ((target / count : Nat) : ℚ) / target < 1 / count := by
  have large : (0 : ℚ) < target := by exact_mod_cast Nat.lt_of_le_of_lt (Nat.zero_le _) uneven.smaller
  have small : (0 : ℚ) < count := by exact_mod_cast Nat.lt_of_le_of_lt (Nat.zero_le _) uneven.several
  rw [div_lt_div_iff₀ large small, one_mul]
  exact_mod_cast uneven.below

/-- All but the first of `count` parts start behind the rounded start. -/
private theorem Uneven.rest_misses (uneven : Uneven count target) :
    ¬ Spans ⟨1, count, count⟩ (((target / count : Nat) : ℚ) / target) := by
  intro spans
  refine absurd spans.1 (not_le_of_gt ?_)
  simpa [lowerEnd] using uneven.rounded_below

private theorem Uneven.normalise_first (uneven : Uneven count target) :
    PartitionRange.normalise target ⟨0, 1, count⟩ = (0, target / count) := by
  have fits := uneven.fits
  have small : 1 * target < 2 ^ 64 := by nlinarith [uneven.smaller]
  rw [PartitionRange.normalise, Nat.mod_eq_of_lt small, Nat.one_mul, Nat.zero_mul, Nat.zero_mod, Nat.zero_div]

private theorem Uneven.normalise_rest (uneven : Uneven count target) :
    PartitionRange.normalise target ⟨1, count, count⟩ = (target / count, target) := by
  have valid : PartitionRange.Valid ⟨1, count, count⟩ := ⟨uneven.several, le_rfl⟩
  have fits : count * target < 2 ^ 64 := Nat.lt_of_le_of_lt (Nat.mul_le_mul_right _ uneven.smaller.le) uneven.fits
  rw [normalise_eq valid fits, Nat.one_mul, Nat.mul_div_cancel_left _ valid.partitions_pos]

private theorem Uneven.normalise_own (uneven : Uneven count target) {start stop : Nat} (ordered : start ≤ stop)
    (within : stop ≤ target) : PartitionRange.normalise target ⟨start, stop, target⟩ = (start, stop) :=
  PartitionRange.normalise_self (by have := uneven.smaller; dsimp only; omega) ordered
    (Nat.lt_of_le_of_lt (Nat.mul_le_mul_right _ within) uneven.fits)

/-- The search range is the first of `count` parts and is taken for the part of the target it is rounded to. -/
private theorem Uneven.search_rounded (uneven : Uneven count target) (valid : ∀ range ∈ others, range.Valid)
    (scaled : targetPartitions ⟨0, 1, count⟩ (⟨0, target / count, target⟩ :: others) = target) :
    ∃ selection, getNonOverlappingPartitions ⟨0, 1, count⟩ (⟨0, target / count, target⟩ :: others) =
        .ok (some selection) ∧ ¬ Contained ⟨0, 1, count⟩ (⟨0, target / count, target⟩ :: others) selection := by
  have positive := uneven.quotient_pos
  have stored := uneven.normalise_own (Nat.zero_le _) uneven.quotient_lt.le
  have rounded := uneven.normalise_first
  obtain ⟨swept, picked⟩ := first_suffices scaled (by rw [stored, rounded]) (by rw [rounded]; exact positive)
    (by rw [stored, rounded])
  apply not_contained ⟨Nat.one_pos, uneven.several.le⟩ (List.forall_mem_cons.mpr ⟨⟨positive, uneven.quotient_lt.le⟩, valid⟩)
    swept
  · exact ⟨(div_nonneg (Nat.cast_nonneg _) (Nat.cast_nonneg _)).trans' (by simp [lowerEnd]),
      by simpa [upperEnd] using uneven.rounded_below⟩
  · intro range picks spans
    rw [picked range picks] at spans
    exact lt_irrefl _ spans.2

/-- All but the first of `count` parts are taken for a range that starts before them. -/
private theorem Uneven.stored_rounded (uneven : Uneven count target) (valid : ∀ range ∈ others, range.Valid)
    (scaled : targetPartitions ⟨target / count, target, target⟩ (⟨1, count, count⟩ :: others) = target) :
    ∃ selection, getNonOverlappingPartitions ⟨target / count, target, target⟩ (⟨1, count, count⟩ :: others) =
        .ok (some selection) ∧ ¬ Contained ⟨target / count, target, target⟩ (⟨1, count, count⟩ :: others) selection := by
  have smaller := uneven.quotient_lt
  have own := uneven.normalise_own smaller.le le_rfl
  have rounded := uneven.normalise_rest
  obtain ⟨swept, picked⟩ := first_suffices scaled (by rw [own, rounded]) (by rw [own]; exact smaller)
    (by rw [own, rounded])
  apply not_contained ⟨smaller, le_rfl⟩ (List.forall_mem_cons.mpr ⟨⟨uneven.several, le_rfl⟩, valid⟩) swept
  · have large : (0 : ℚ) < target := by exact_mod_cast Nat.lt_of_le_of_lt (Nat.zero_le _) smaller
    exact ⟨le_rfl, div_lt_div_of_pos_right (by exact_mod_cast smaller) large⟩
  · intro range picks spans
    rw [picked range picks] at spans
    exact uneven.rest_misses spans

/-- A range on the target count and all but the first of `count` parts are taken for the whole. -/
private theorem Uneven.joint_rounded (uneven : Uneven count target) {partitions : Nat} (divides : partitions ∣ target)
    (valid : ∀ range ∈ others, range.Valid)
    (scaled : targetPartitions ⟨0, partitions, partitions⟩ (⟨0, target / count, target⟩ :: ⟨1, count, count⟩ :: others) =
      target) :
    ∃ selection, getNonOverlappingPartitions ⟨0, partitions, partitions⟩
        (⟨0, target / count, target⟩ :: ⟨1, count, count⟩ :: others) = .ok (some selection) ∧
      ¬ Contained ⟨0, partitions, partitions⟩ (⟨0, target / count, target⟩ :: ⟨1, count, count⟩ :: others) selection := by
  have smaller := uneven.quotient_lt
  have positive := uneven.quotient_pos
  have large : 0 < target := positive.trans smaller
  have whole : 0 < partitions := Nat.pos_of_dvd_of_pos divides large
  have fits : partitions * target < 2 ^ 64 :=
    Nat.lt_of_le_of_lt (Nat.mul_le_mul_right _ (Nat.le_of_dvd large divides)) uneven.fits
  have own : PartitionRange.normalise target ⟨0, partitions, partitions⟩ = (0, target) := by
    rw [normalise_eq ⟨whole, le_rfl⟩ fits, Nat.zero_mul, Nat.zero_div, Nat.mul_div_cancel_left _ whole]
  have front := uneven.normalise_own (Nat.zero_le _) smaller.le
  have rounded := uneven.normalise_rest
  obtain ⟨rest, kept⟩ : ∃ rest, candidates ⟨0, partitions, partitions⟩
      (⟨0, target / count, target⟩ :: ⟨1, count, count⟩ :: others) =
        ⟨0, target / count, target⟩ :: ⟨1, count, count⟩ :: rest := by
    have first : Meets target ⟨0, partitions, partitions⟩ ⟨0, target / count, target⟩ := by
      rw [Meets, own, front]
      exact ⟨large, positive⟩
    have second : Meets target ⟨0, partitions, partitions⟩ ⟨1, count, count⟩ := by
      rw [Meets, own, rounded]
      exact ⟨smaller, large⟩
    rw [candidates, scaled, List.filter_cons, if_pos (decide_eq_true first), List.filter_cons,
      if_pos (decide_eq_true second)]
    exact ⟨_, rfl⟩
  apply not_contained ⟨whole, le_rfl⟩
  · exact List.forall_mem_cons.mpr ⟨⟨positive, smaller.le⟩, List.forall_mem_cons.mpr ⟨⟨uneven.several, le_rfl⟩, valid⟩⟩
  · rw [SweptInOrder, kept, scaled, sweeps_cons, sweeps_cons, own, front, rounded]
    exact ⟨fun _ => le_rfl, .inr ⟨fun _ => le_max_right _ _, .inl (le_max_right _ _)⟩⟩
  · have scale : (0 : ℚ) < target := by exact_mod_cast large
    have one : upperEnd ⟨0, partitions, partitions⟩ = 1 := div_self (by exact_mod_cast whole.ne')
    refine ⟨(div_nonneg (Nat.cast_nonneg (target / count)) scale.le).trans' (by simp [lowerEnd]), ?_⟩
    rw [one, div_lt_one scale]
    exact_mod_cast smaller
  · intro range picked spans
    rw [PickedInOrder, kept, scaled, picks_cons, picks_cons, own, front, rounded] at picked
    rcases picked with ⟨rfl, _⟩ | ⟨_, ⟨rfl, _⟩ | ⟨unfinished, _⟩⟩
    · exact lt_irrefl _ spans.2
    · exact uneven.rest_misses spans
    · exact lt_irrefl _ unfinished

/-- Whichever count does not divide the largest, there are ranges on these counts for which too much is claimed. -/
private theorem overClaims {partitions : Nat} {counts : List Nat} (positive : ∀ count ∈ partitions :: counts, 0 < count)
    (small : largest partitions counts < 2 ^ 32) (member : count ∈ partitions :: counts)
    (unequal : ¬ count ∣ largest partitions counts) : ¬ NeverOverClaims partitions counts := by
  intro contained
  have uneven := Uneven.of_not_dvd (positive count member) (le_largest count member) small unequal
  have held : ∀ rest : List Nat, rest.Subperm counts → ∀ range ∈ fillers rest, range.Valid := fun rest inside =>
    fillers_valid fun other present => positive other (List.mem_cons_of_mem _ (inside.subset present))
  have smaller := uneven.quotient_lt
  rcases List.mem_cons.mp (@largest_mem partitions counts) with own | stored
  · -- The search range has the largest count, so one of the stored ranges is rounded.
    have inside : count ∈ counts := (List.mem_cons.mp member).resolve_left fun same => by
      have := uneven.smaller
      omega
    have listed : (count :: counts.erase count).Perm counts := (List.perm_cons_erase inside).symm
    have valid := held _ (List.erase_subperm count counts)
    have names : ((⟨1, count, count⟩ :: fillers (counts.erase count)).map PartitionRange.partitions).Perm counts := by
      rw [List.map_cons, fillers_partitions]
      exact listed
    obtain ⟨selection, selected, missed⟩ := uneven.stored_rounded valid (targetPartitions_eq own names)
    exact missed (contained _ _ selection ⟨smaller, le_rfl⟩
      (List.forall_mem_cons.mpr ⟨⟨uneven.several, le_rfl⟩, valid⟩) own names selected)
  · have listed : (largest partitions counts :: counts.erase (largest partitions counts)).Perm counts :=
      (List.perm_cons_erase stored).symm
    by_cases divides : partitions ∣ largest partitions counts
    · -- The search range is exact, and a range on the largest count closes up with a rounded one.
      have other : count ≠ partitions := fun same => by
        have below := uneven.below
        rw [same, Nat.div_mul_cancel divides] at below
        exact lt_irrefl _ below
      have inside : count ∈ counts.erase (largest partitions counts) :=
        (List.mem_erase_of_ne uneven.smaller.ne).mpr ((List.mem_cons.mp member).resolve_left other)
      have valid := held _ ((List.erase_subperm count (counts.erase (largest partitions counts))).trans
        (List.erase_subperm _ counts))
      have front : PartitionRange.Valid ⟨0, largest partitions counts / count, largest partitions counts⟩ :=
        ⟨uneven.quotient_pos, smaller.le⟩
      have rest : PartitionRange.Valid ⟨1, count, count⟩ := ⟨uneven.several, le_rfl⟩
      have names : ((⟨0, largest partitions counts / count, largest partitions counts⟩ :: ⟨1, count, count⟩ ::
          fillers ((counts.erase (largest partitions counts)).erase count)).map PartitionRange.partitions).Perm counts := by
        rw [List.map_cons, List.map_cons, fillers_partitions]
        exact ((List.perm_cons_erase inside).symm.cons _).trans listed
      obtain ⟨selection, selected, missed⟩ := uneven.joint_rounded divides valid (targetPartitions_eq rfl names)
      exact missed (contained _ _ selection ⟨positive _ List.mem_cons_self, le_rfl⟩
        (List.forall_mem_cons.mpr ⟨front, List.forall_mem_cons.mpr ⟨rest, valid⟩⟩) rfl names selected)
    · -- The search range itself is rounded.
      have rounded := Uneven.of_not_dvd (positive _ List.mem_cons_self) (le_largest _ List.mem_cons_self) small divides
      have valid := held _ (List.erase_subperm (largest partitions counts) counts)
      have front : PartitionRange.Valid ⟨0, largest partitions counts / partitions, largest partitions counts⟩ :=
        ⟨rounded.quotient_pos, rounded.quotient_lt.le⟩
      have names : ((⟨0, largest partitions counts / partitions, largest partitions counts⟩ ::
          fillers (counts.erase (largest partitions counts))).map PartitionRange.partitions).Perm counts := by
        rw [List.map_cons, fillers_partitions]
        exact listed
      obtain ⟨selection, selected, missed⟩ := rounded.search_rounded valid (targetPartitions_eq rfl names)
      exact missed (contained _ _ selection ⟨Nat.one_pos, rounded.several.le⟩ (List.forall_mem_cons.mpr ⟨front, valid⟩) rfl
        names selected)

end Uneven

/-- The positions that a search on these counts compares are exact, and so nothing is
claimed too much, if and only if every partition count divides the largest one. -/
theorem selection_contained_iff (partitions : Nat) (counts : List Nat)
    (positive : ∀ count ∈ partitions :: counts, 0 < count) (fits : ∀ count ∈ partitions :: counts, count < 2 ^ 32) :
    NeverOverClaims partitions counts ↔ ∀ count ∈ partitions :: counts, count ∣ largest partitions counts := by
  have small : largest partitions counts < 2 ^ 32 := fits _ largest_mem
  constructor
  · intro contained
    by_contra uneven
    push Not at uneven
    obtain ⟨count, member, unequal⟩ := uneven
    exact overClaims positive small member unequal contained
  · intro divides searchRange available selection valid ranges same listed selected
    have scaled := targetPartitions_eq same listed
    have known (range : PartitionRange) (member : range ∈ searchRange :: available) :
        range.partitions ∈ partitions :: counts := by
      rcases List.mem_cons.mp member with rfl | stored
      · exact same ▸ List.mem_cons_self
      · exact List.mem_cons_of_mem _ (listed.subset (List.mem_map_of_mem stored))
    have proper : ∀ range ∈ searchRange :: available, range.Valid := List.forall_mem_cons.mpr ⟨valid, ranges⟩
    refine contained_of_divides valid ranges (fun range member => ?_) (fun range member => ?_) selected
    · exact scaled ▸ divides _ (known range member)
    · rw [scaled]
      calc range.stop * largest partitions counts
          ≤ range.partitions * largest partitions counts := Nat.mul_le_mul_right _ (proper range member).within
        _ < 2 ^ 32 * 2 ^ 32 := Nat.mul_lt_mul'' (fits _ (known range member)) small
        _ = 2 ^ 64 := by norm_num

/-- The middle of four partitions from two halves. -/
theorem middle_of_halves_contained :
    Contained ⟨1, 3, 4⟩ [⟨0, 1, 2⟩, ⟨1, 2, 2⟩] [⟨0, ⟨1, 2, 4⟩⟩, ⟨1, ⟨2, 3, 4⟩⟩] :=
  (selection_contained_iff 4 [2, 2] (by decide) (by decide)).mpr (by decide) ⟨1, 3, 4⟩ [⟨0, 1, 2⟩, ⟨1, 2, 2⟩] _ (by decide)
    (by decide) rfl (.refl _) (by decide)

/-- A half, found as the first of three partitions: two fifths are in the half and not in the third. -/
theorem third_found_for_half :
    getNonOverlappingPartitions ⟨0, 1, 2⟩ [⟨0, 1, 3⟩] = .ok (some [⟨0, ⟨0, 1, 3⟩⟩]) ∧
      ¬ Contained ⟨0, 1, 2⟩ [⟨0, 1, 3⟩] [⟨0, ⟨0, 1, 3⟩⟩] := by
  refine ⟨by decide, fun contained => ?_⟩
  obtain ⟨overlap, member, range, found, spans⟩ := contained (2 / 5) (by norm_num [Spans, lowerEnd, upperEnd])
  cases List.mem_singleton.mp member
  cases found
  norm_num [Spans, lowerEnd, upperEnd] at spans

end DatafusionRay.Proofs.RescaledCoverage
