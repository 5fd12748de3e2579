import Mathlib

/-! Half-open intervals of natural numbers that follow one another without a gap. -/

namespace DatafusionRay.Foundation

universe u

variable {α : Type u} {lower upper : α → Nat}

/-- The intervals lead from `first` to `last`, each starting where the previous one stops. -/
def Chain (lower upper : α → Nat) : Nat → List α → Nat → Prop
  | first, [], last => first = last
  | first, item :: rest, last => lower item = first ∧ first ≤ upper item ∧ Chain lower upper (upper item) rest last

theorem Chain.le {first last : Nat} {items : List α} (chain : Chain lower upper first items last) : first ≤ last := by
  induction items generalizing first with
  | nil => exact Nat.le_of_eq chain
  | cons item rest ih => exact Nat.le_trans chain.2.1 (ih chain.2.2)

theorem Chain.filter_eq_nil {first last : Nat} {items : List α} (chain : Chain lower upper first items last)
    {point : Nat} (outside : point < first ∨ last ≤ point) :
    items.filter (fun item => lower item ≤ point && point < upper item) = [] := by
  induction items generalizing first with
  | nil => rfl
  | cons item rest ih =>
    obtain ⟨starts, ordered, later⟩ := chain
    have bounded := later.le
    rw [List.filter_cons_of_neg, ih later (by omega)]
    simp only [Bool.and_eq_true, decide_eq_true_eq]
    omega

/-- A point between the ends lies in exactly one of the intervals. -/
theorem Chain.filter_eq_singleton {first last : Nat} {items : List α} (chain : Chain lower upper first items last)
    {point : Nat} (above : first ≤ point) (below : point < last) :
    ∃ item ∈ items, lower item ≤ point ∧ point < upper item ∧
      items.filter (fun item => lower item ≤ point && point < upper item) = [item] := by
  induction items generalizing first with
  | nil =>
    have same : first = last := chain
    omega
  | cons item rest ih =>
    obtain ⟨starts, ordered, later⟩ := chain
    by_cases inside : point < upper item
    · refine ⟨item, List.mem_cons_self, by omega, inside, ?_⟩
      rw [List.filter_cons_of_pos, later.filter_eq_nil (.inl inside)]
      simp only [Bool.and_eq_true, decide_eq_true_eq]
      omega
    · obtain ⟨found, member, reached, before, only⟩ := ih later (Nat.le_of_not_lt inside)
      refine ⟨found, List.mem_cons_of_mem _ member, reached, before, ?_⟩
      rw [List.filter_cons_of_neg, only]
      simp [inside]

/-- How many of the intervals hold the point. -/
def coverage (lower upper : α → Nat) (items : List α) (point : Nat) : Nat :=
  items.countP fun item => lower item ≤ point && point < upper item

/-- The points of a stretch that no interval holds. -/
def gaps (lower upper : α → Nat) (items : List α) (first last : Nat) : Nat :=
  ((Finset.Ico first last).filter fun point => coverage lower upper items point = 0).card

/-- The intervals of a stretch beyond the first, summed over its points. -/
def surplus (lower upper : α → Nat) (items : List α) (first last : Nat) : Nat :=
  ∑ point ∈ Finset.Ico first last, (coverage lower upper items point - 1)

theorem coverage_pos {items : List α} {point : Nat} :
    0 < coverage lower upper items point ↔ ∃ item ∈ items, lower item ≤ point ∧ point < upper item := by
  simp [coverage, List.countP_pos_iff]

theorem coverage_le_one {items : List α} {inside : Nat → Prop} :
    (∀ point, inside point → coverage lower upper items point ≤ 1) ↔
      items.Pairwise fun left right => ∀ point, inside point →
        ¬ ((lower left ≤ point ∧ point < upper left) ∧ lower right ≤ point ∧ point < upper right) := by
  induction items with
  | nil => simp [coverage]
  | cons item rest ih =>
    rw [List.pairwise_cons, ← ih]
    constructor
    · intro single
      refine ⟨fun other member point within both => ?_, fun point within => ?_⟩
      · have here := single point within
        have later : 0 < coverage lower upper rest point := coverage_pos.mpr ⟨other, member, both.2⟩
        rw [coverage, List.countP_cons_of_pos (by simpa using both.1)] at here
        rw [coverage] at later
        omega
      · have here := single point within
        rw [coverage, List.countP_cons] at here
        rw [coverage]
        omega
    · intro apart point within
      obtain ⟨first, others⟩ := apart
      have later := others point within
      by_cases holds : lower item ≤ point ∧ point < upper item
      · have none : ¬ 0 < coverage lower upper rest point := by
          intro covered
          obtain ⟨other, member, both⟩ := coverage_pos.mp covered
          exact first other member point within ⟨holds, both⟩
        rw [coverage] at none
        rw [coverage, List.countP_cons_of_pos (by simpa using holds)]
        omega
      · rw [coverage] at later
        rw [coverage, List.countP_cons_of_neg (by simpa using holds)]
        exact later

private theorem sum_overlap_succ {first last : Nat} (items : List α) (ordered : first ≤ last) :
    (items.map fun item => min (last + 1) (upper item) - max first (lower item)).sum =
      (items.map fun item => min last (upper item) - max first (lower item)).sum + coverage lower upper items last := by
  rw [coverage]
  induction items with
  | nil => rfl
  | cons item rest ih =>
    simp only [List.map_cons, List.sum_cons, ih, List.countP_cons, Bool.and_eq_true, decide_eq_true_eq]
    split <;> omega

/-- Summed over the intervals or over the points, the overlaps with a stretch come to the same. -/
theorem sum_overlap_eq_coverage {first last : Nat} (items : List α) (ordered : first ≤ last) :
    (items.map fun item => min last (upper item) - max first (lower item)).sum =
      ∑ point ∈ Finset.Ico first last, coverage lower upper items point := by
  obtain ⟨length, rfl⟩ := Nat.exists_eq_add_of_le ordered
  induction length with
  | zero =>
    have zero : ∀ item ∈ items, min first (upper item) - max first (lower item) = 0 := fun _ _ => by omega
    exact (congrArg List.sum (List.map_congr_left zero)).trans (by simp)
  | succ length ih =>
    rw [← Nat.add_assoc, sum_overlap_succ items (Nat.le_add_right _ _), ih (Nat.le_add_right _ _),
      Finset.sum_Ico_succ_top (Nat.le_add_right _ _)]

/-- Intervals that hold each point of a stretch exactly once overlap it in exactly its length. -/
theorem sum_overlap {first last : Nat} (items : List α) (ordered : first ≤ last)
    (once : ∀ point, first ≤ point → point < last → coverage lower upper items point = 1) :
    (items.map fun item => min last (upper item) - max first (lower item)).sum = last - first := by
  have single : ∀ point ∈ Finset.Ico first last, coverage lower upper items point = 1 := by
    intro point member
    obtain ⟨above, below⟩ := Finset.mem_Ico.mp member
    exact once point above below
  rw [sum_overlap_eq_coverage items ordered, Finset.sum_congr rfl single]
  simp

/-- A stretch is overlapped in its length, less the gaps and with the surplus. -/
theorem sum_overlap_add_gaps {first last : Nat} (items : List α) (ordered : first ≤ last) :
    (items.map fun item => min last (upper item) - max first (lower item)).sum + gaps lower upper items first last =
      (last - first) + surplus lower upper items first last := by
  have counted : gaps lower upper items first last =
      ∑ point ∈ Finset.Ico first last, if coverage lower upper items point = 0 then 1 else 0 := by
    rw [gaps, Finset.card_filter]
  have length : last - first = ∑ _point ∈ Finset.Ico first last, 1 := by simp
  rw [sum_overlap_eq_coverage items ordered, counted, length, surplus, ← Finset.sum_add_distrib,
    ← Finset.sum_add_distrib]
  refine Finset.sum_congr rfl fun point _ => ?_
  split <;> omega

theorem surplus_eq_zero {first last : Nat} {items : List α}
    (single : ∀ point, first ≤ point ∧ point < last → coverage lower upper items point ≤ 1) :
    surplus lower upper items first last = 0 := by
  apply Finset.sum_eq_zero
  intro point member
  have here := single point (Finset.mem_Ico.mp member)
  omega

theorem gaps_le {first last : Nat} (items : List α) : gaps lower upper items first last ≤ last - first := by
  refine (Finset.card_filter_le _ _).trans ?_
  rw [Nat.card_Ico]

theorem gaps_eq_zero {first last : Nat} {items : List α} :
    gaps lower upper items first last = 0 ↔
      ∀ point, first ≤ point ∧ point < last → ∃ item ∈ items, lower item ≤ point ∧ point < upper item := by
  rw [gaps, Finset.card_eq_zero, Finset.filter_eq_empty_iff]
  refine forall_congr' fun point => ?_
  rw [Finset.mem_Ico, ← coverage_pos, Nat.pos_iff_ne_zero]

end DatafusionRay.Foundation
