import DatafusionRay.Foundation.Interval
import DatafusionRay.Streaming.Generation

/-! The addresses found for a stream are accepted by the sum of their sizes. The
sum is right if and only if as many partitions are left out as locations overlap, so
only locations that do not overlap make an accepted answer an exact cover. -/

namespace DatafusionRay.Proofs.AddressCover
open Streaming Foundation

def Holds (range : PartitionRange) (point : Nat) : Prop := range.start ≤ point ∧ point < range.stop

instance (range : PartitionRange) (point : Nat) : Decidable (Holds range point) := inferInstanceAs (Decidable (_ ∧ _))

/-- The parts to read are disjoint, make up the requested range, and each lies within a
location that has its address and can be read at the checkpoint. -/
structure ExactCover (requested : PartitionRange) (checkpoint : Nat) (inputDetail : GenerationInputDetail)
    (addresses : List (String × String × PartitionRange)) : Prop where
  disjoint : addresses.Pairwise fun left right => ∀ point, ¬ (Holds left.2.2 point ∧ Holds right.2.2 point)
  union : ∀ point, (∃ address ∈ addresses, Holds address.2.2 point) ↔ Holds requested point
  contained : ∀ address ∈ addresses, ∃ location ∈ inputDetail.locations, location.address = address.2.1 ∧
    (location.offsetRange.1 ≤ checkpoint ∧ checkpoint < location.offsetRange.2) ∧
    ∀ point, Holds address.2.2 point → Holds location.partitions point

/-- An answer is an exact cover, and without a cover there is none. -/
def CoversExactly (requested : PartitionRange) (checkpoint : Nat) (inputDetail : GenerationInputDetail) : Prop :=
  (∀ addresses, getAddressesForStream requested checkpoint inputDetail = .ok addresses →
    ExactCover requested checkpoint inputDetail addresses) ∧
  ((∃ point, Holds requested point ∧ ∀ location ∈ inputDetail.openAt checkpoint, ¬ Holds location.partitions point) →
    ∃ error, getAddressesForStream requested checkpoint inputDetail = .error error)

section Locations
variable (inputDetail : GenerationInputDetail) (checkpoint : Nat)

def start (location : GenerationInputLocation) : Nat := location.partitions.start

def stop (location : GenerationInputLocation) : Nat := location.partitions.stop

/-- How many open locations hold a partition. -/
def servers (point : Nat) : Nat := coverage start stop (inputDetail.openAt checkpoint) point

/-- The partitions of the requested range that no open location holds. -/
def leftOut (requested : PartitionRange) : Nat :=
  gaps start stop (inputDetail.openAt checkpoint) requested.start requested.stop

/-- How many open locations hold a partition beside another one, over the requested range. -/
def doubled (requested : PartitionRange) : Nat :=
  surplus start stop (inputDetail.openAt checkpoint) requested.start requested.stop

end Locations

section Lookup
variable {requested : PartitionRange} {checkpoint : Nat} {inputDetail : GenerationInputDetail}

private theorem holds_intersection {left right : PartitionRange} {point : Nat} :
    Holds (left.intersection right) point ↔ Holds left point ∧ Holds right point := by
  rcases Nat.lt_or_ge (max left.start right.start) (min left.stop right.stop) with overlap | apart
  · rw [PartitionRange.intersection_of_lt overlap]
    simp only [Holds]
    omega
  · rw [PartitionRange.intersection_of_le apart]
    simp only [Holds, PartitionRange.empty]
    omega

private theorem serve_eq_some (nonempty : requested.start < requested.stop) {location : GenerationInputLocation}
    {part : PartitionRange} (served : location.serve requested checkpoint = some part) :
    (location.offsetRange.1 ≤ checkpoint ∧ checkpoint < location.offsetRange.2) ∧
      part = requested.intersection location.partitions := by
  by_cases open_ : location.offsetRange.1 ≤ checkpoint ∧ checkpoint < location.offsetRange.2
  · refine ⟨open_, ?_⟩
    rcases location.serve_cases requested open_ with ⟨-, empty⟩ | ⟨missing, -⟩ | ⟨found, -⟩
    · rw [PartitionRange.isEmpty, beq_iff_eq] at empty
      omega
    · cases missing.symm.trans served
    · cases found.symm.trans served
      rfl
  · rw [GenerationInputLocation.serve, if_neg open_] at served
    cases served

private theorem serve_of_holds {location : GenerationInputLocation} {point : Nat}
    (open_ : location.offsetRange.1 ≤ checkpoint ∧ checkpoint < location.offsetRange.2) (asked : Holds requested point)
    (held : Holds location.partitions point) :
    location.serve requested checkpoint = some (requested.intersection location.partitions) := by
  have both := holds_intersection.mpr ⟨asked, held⟩
  rcases location.serve_cases requested open_ with ⟨-, empty⟩ | ⟨-, empty⟩ | ⟨found, -⟩
  · rw [PartitionRange.isEmpty, beq_iff_eq] at empty
    rw [Holds] at asked
    omega
  · rw [PartitionRange.isEmpty, beq_iff_eq] at empty
    rw [Holds] at both
    omega
  · exact found

def found (requested : PartitionRange) (checkpoint : Nat) (inputDetail : GenerationInputDetail) :
    List (String × String × PartitionRange) :=
  inputDetail.locations.filterMap fun location => (location.serve requested checkpoint).map fun part =>
    (inputDetail.streamId, location.address, part)

private theorem mem_openAt {location : GenerationInputLocation} :
    location ∈ inputDetail.openAt checkpoint ↔
      location ∈ inputDetail.locations ∧ location.offsetRange.1 ≤ checkpoint ∧ checkpoint < location.offsetRange.2 := by
  simp [GenerationInputDetail.openAt]

private theorem found_contained (nonempty : requested.start < requested.stop) {address : String × String × PartitionRange}
    (member : address ∈ found requested checkpoint inputDetail) :
    ∃ location ∈ inputDetail.openAt checkpoint, location.address = address.2.1 ∧
      address.2.2 = requested.intersection location.partitions := by
  obtain ⟨location, listed, built⟩ := List.mem_filterMap.mp member
  obtain ⟨part, served, rfl⟩ := Option.map_eq_some_iff.mp built
  obtain ⟨open_, rfl⟩ := serve_eq_some nonempty served
  exact ⟨location, mem_openAt.mpr ⟨listed, open_⟩, rfl, rfl⟩

private theorem found_holds (nonempty : requested.start < requested.stop) {point : Nat} :
    (∃ address ∈ found requested checkpoint inputDetail, Holds address.2.2 point) ↔
      Holds requested point ∧ ∃ location ∈ inputDetail.openAt checkpoint, Holds location.partitions point := by
  constructor
  · rintro ⟨address, member, held⟩
    obtain ⟨location, open_, -, same⟩ := found_contained nonempty member
    rw [same, holds_intersection] at held
    exact ⟨held.1, location, open_, held.2⟩
  · rintro ⟨asked, location, member, held⟩
    obtain ⟨listed, open_⟩ := mem_openAt.mp member
    have served := serve_of_holds open_ asked held
    refine ⟨_, List.mem_filterMap.mpr ⟨location, listed, by rw [served]; rfl⟩, ?_⟩
    exact holds_intersection.mpr ⟨asked, held⟩

/-- The parts found are disjoint if no partition of the requested range has two servers. -/
private theorem found_disjoint (nonempty : requested.start < requested.stop) :
    ((found requested checkpoint inputDetail).Pairwise fun left right =>
        ∀ point, ¬ (Holds left.2.2 point ∧ Holds right.2.2 point)) ↔
      ∀ point, Holds requested point → servers inputDetail checkpoint point ≤ 1 := by
  simp only [servers, coverage_le_one]
  rw [GenerationInputDetail.openAt, List.pairwise_filter, found, List.pairwise_filterMap]
  refine List.Pairwise.iff fun left right => ?_
  constructor
  · intro apart leftOpen rightOpen point asked both
    simp only [Bool.and_eq_true, decide_eq_true_eq] at leftOpen rightOpen
    have leftServed := serve_of_holds leftOpen asked both.1
    have rightServed := serve_of_holds rightOpen asked both.2
    refine apart _ (by rw [leftServed]; rfl) _ (by rw [rightServed]; rfl) point ⟨?_, ?_⟩
    · exact holds_intersection.mpr ⟨asked, both.1⟩
    · exact holds_intersection.mpr ⟨asked, both.2⟩
  · intro apart first firstBuilt second secondBuilt point both
    obtain ⟨leftPart, leftServed, rfl⟩ := Option.map_eq_some_iff.mp firstBuilt
    obtain ⟨rightPart, rightServed, rfl⟩ := Option.map_eq_some_iff.mp secondBuilt
    obtain ⟨leftOpen, rfl⟩ := serve_eq_some nonempty leftServed
    obtain ⟨rightOpen, rfl⟩ := serve_eq_some nonempty rightServed
    simp only [holds_intersection] at both
    exact apart (by simp [leftOpen]) (by simp [rightOpen]) point both.1.1 ⟨both.1.2, both.2.2⟩

/-- Gaps and overlaps are all that the comparison of the sizes can see. -/
private theorem accepted_iff_balanced (nonempty : requested.start < requested.stop) :
    (((found requested checkpoint inputDetail).map fun address => address.2.2.size).sum % 2 ^ 64 =
        requested.size % 2 ^ 64) ↔
      leftOut inputDetail checkpoint requested ≡ doubled inputDetail checkpoint requested [MOD 2 ^ 64] := by
  have total := sum_found_sizes requested checkpoint inputDetail
  have balance := @sum_overlap_add_gaps _ start stop _ _ (inputDetail.openAt checkpoint) (Nat.le_of_lt nonempty)
  have sums : ((found requested checkpoint inputDetail).map fun address => address.2.2.size).sum +
      leftOut inputDetail checkpoint requested = requested.size + doubled inputDetail checkpoint requested := by
    rw [found, total, PartitionRange.size_of_le (Nat.le_of_lt nonempty)]
    exact balance
  constructor
  · intro accepted
    apply Nat.ModEq.add_left_cancel accepted
    rw [sums]
  · intro balanced
    apply Nat.ModEq.add_right_cancel balanced
    rw [sums]

private theorem getAddressesForStream_of_balanced (nonempty : requested.start < requested.stop)
    (balanced : leftOut inputDetail checkpoint requested ≡ doubled inputDetail checkpoint requested [MOD 2 ^ 64]) :
    getAddressesForStream requested checkpoint inputDetail = .ok (found requested checkpoint inputDetail) :=
  if_pos ((accepted_iff_balanced nonempty).mpr balanced)

private theorem getAddressesForStream_of_unbalanced (nonempty : requested.start < requested.stop)
    (unbalanced : ¬ leftOut inputDetail checkpoint requested ≡ doubled inputDetail checkpoint requested [MOD 2 ^ 64]) :
    ∃ error, getAddressesForStream requested checkpoint inputDetail = .error error :=
  ⟨_, if_neg fun accepted => unbalanced ((accepted_iff_balanced nonempty).mp accepted)⟩

/-- Without overlaps the accepted parts leave no gap: a gap of `2 ^ 64` partitions does not fit a range. -/
private theorem ExactCover.of_single (nonempty : requested.start < requested.stop) (bounded : requested.stop < 2 ^ 64)
    (single : ∀ point, Holds requested point → servers inputDetail checkpoint point ≤ 1)
    (balanced : leftOut inputDetail checkpoint requested ≡ doubled inputDetail checkpoint requested [MOD 2 ^ 64]) :
    ExactCover requested checkpoint inputDetail (found requested checkpoint inputDetail) := by
  have none : doubled inputDetail checkpoint requested = 0 := surplus_eq_zero single
  have small : leftOut inputDetail checkpoint requested ≤ requested.stop - requested.start := gaps_le _
  have complete : leftOut inputDetail checkpoint requested = 0 := by
    rw [none] at balanced
    exact Nat.eq_zero_of_dvd_of_lt ((Nat.modEq_zero_iff_dvd).mp balanced) (by omega)
  refine ⟨(found_disjoint nonempty).mpr single, fun point => ?_, fun address member => ?_⟩
  · rw [found_holds nonempty]
    refine and_iff_left_of_imp fun asked => ?_
    exact gaps_eq_zero.mp complete point asked
  · obtain ⟨location, open_, same, part⟩ := found_contained nonempty member
    obtain ⟨listed, inside⟩ := mem_openAt.mp open_
    refine ⟨location, listed, same, inside, fun point held => ?_⟩
    rw [part, holds_intersection] at held
    exact held.2

end Lookup

/-- Answers are exact covers if and only if no partition has two servers, or the
overlaps do not make up for the gaps. -/
theorem covers_exactly_iff (requested : PartitionRange) (checkpoint : Nat) (inputDetail : GenerationInputDetail)
    (nonempty : requested.start < requested.stop) (bounded : requested.stop < 2 ^ 64) :
    CoversExactly requested checkpoint inputDetail ↔
      (∀ point, requested.start ≤ point → point < requested.stop → servers inputDetail checkpoint point ≤ 1) ∨
        ¬ leftOut inputDetail checkpoint requested ≡ doubled inputDetail checkpoint requested [MOD 2 ^ 64] := by
  constructor
  · intro exact_
    refine or_iff_not_imp_right.mpr fun balanced => ?_
    have cover := exact_.1 _ (getAddressesForStream_of_balanced nonempty (not_not.mp balanced))
    intro point above below
    exact (found_disjoint nonempty).mp cover.disjoint point ⟨above, below⟩
  · intro allowed
    by_cases balanced : leftOut inputDetail checkpoint requested ≡ doubled inputDetail checkpoint requested [MOD 2 ^ 64]
    · have single := allowed.resolve_right (not_not.mpr balanced)
      have answer := getAddressesForStream_of_balanced nonempty balanced
      have cover := ExactCover.of_single nonempty bounded (fun point asked => single point asked.1 asked.2) balanced
      constructor
      · intro addresses accepted
        cases answer.symm.trans accepted
        exact cover
      · rintro ⟨point, asked, missing⟩
        obtain ⟨-, location, open_, held⟩ := (found_holds nonempty).mp ((cover.union point).mpr asked)
        exact False.elim (missing location open_ held)
    · obtain ⟨error, refused⟩ := getAddressesForStream_of_unbalanced nonempty balanced
      constructor
      · intro addresses accepted
        cases refused.symm.trans accepted
      · intro _
        exact ⟨error, refused⟩

/-- Two halves that are served by one location each. -/
theorem halves_cover_exactly :
    CoversExactly ⟨0, 4, 4⟩ 0 ⟨"shuffle", [⟨"worker-0", (0, 8), ⟨0, 2, 4⟩⟩, ⟨"worker-1", (0, 8), ⟨2, 4, 4⟩⟩]⟩ :=
  (covers_exactly_iff _ _ _ (by decide) (by decide)).mpr (.inl fun point above below => by
    interval_cases point <;> decide)

/-- Two locations serve the same half, and nothing serves the other one. -/
theorem same_half_twice_accepted :
    getAddressesForStream ⟨0, 4, 4⟩ 0
        ⟨"shuffle", [⟨"worker-0", (0, 8), ⟨0, 2, 4⟩⟩, ⟨"worker-1", (0, 8), ⟨0, 2, 4⟩⟩]⟩ =
      .ok [("shuffle", "worker-0", ⟨0, 2, 4⟩), ("shuffle", "worker-1", ⟨0, 2, 4⟩)] := by decide

end DatafusionRay.Proofs.AddressCover
