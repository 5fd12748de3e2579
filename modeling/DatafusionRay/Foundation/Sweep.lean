import Mathlib

/-! A sweep visits half-open intervals in the order of a list and extends what it
has reached by each of them that does not leave a gap. -/

namespace DatafusionRay.Foundation

universe u v w

section Sweep
variable {α : Type u} {β : Type v} [LinearOrder β] {lower upper : α → β} {first last : β}

/-- The furthest end among the items, and at least `first`. -/
def reach (upper : α → β) (first : β) (items : List α) : β :=
  items.foldl (fun reached item => max reached (upper item)) first

@[simp] theorem reach_nil : reach upper first [] = first := rfl

@[simp] theorem reach_cons (item : α) (items : List α) :
    reach upper first (item :: items) = reach upper (max first (upper item)) items := rfl

/-- Some items at the front lead from `first` to `last`: each of them that ends
beyond all before it starts no later than these reach. -/
def Sweeps (lower upper : α → β) (first last : β) (items : List α) : Prop :=
  ∃ seen rest, items = seen ++ rest ∧ seen ≠ [] ∧ last ≤ reach upper first seen ∧
    ∀ before item after, seen = before ++ item :: after → reach upper first before < upper item →
      lower item ≤ reach upper first before

/-- The item ends beyond all before it, none of which ends at `last` or later. -/
def Picks (upper : α → β) (first last : β) (items : List α) (item : α) : Prop :=
  ∃ before after, items = before ++ item :: after ∧ (∀ earlier ∈ before, upper earlier < last) ∧
    reach upper first before < upper item

theorem not_sweeps_nil : ¬ Sweeps lower upper first last [] := by
  rintro ⟨seen, rest, split, nonempty, _⟩
  exact nonempty (List.append_eq_nil_iff.mp split.symm).1

theorem sweeps_cons {item : α} {items : List α} :
    Sweeps lower upper first last (item :: items) ↔
      (first < upper item → lower item ≤ first) ∧
        (last ≤ max first (upper item) ∨ Sweeps lower upper (max first (upper item)) last items) := by
  constructor
  · rintro ⟨_ | ⟨head, seen⟩, rest, split, nonempty, ends, gapless⟩
    · exact False.elim (nonempty rfl)
    · obtain ⟨rfl, rfl⟩ := List.cons.inj split
      refine ⟨gapless [] item seen rfl, ?_⟩
      by_cases alone : seen = []
      · subst alone
        exact .inl ends
      · refine .inr ⟨seen, rest, rfl, alone, ends, fun before next after same => ?_⟩
        exact gapless (item :: before) next after (by rw [same, List.cons_append])
  · rintro ⟨starts, ends | ⟨seen, rest, rfl, nonempty, ends, gapless⟩⟩
    · refine ⟨[item], items, rfl, List.cons_ne_nil _ _, ends, fun before next after same => ?_⟩
      cases before with
      | nil =>
        obtain ⟨rfl, _⟩ := List.cons.inj same
        exact starts
      | cons head before => simp at same
    · refine ⟨item :: seen, rest, rfl, List.cons_ne_nil _ _, ends, fun before next after same => ?_⟩
      cases before with
      | nil =>
        obtain ⟨rfl, _⟩ := List.cons.inj same
        exact starts
      | cons head before =>
        obtain ⟨rfl, later⟩ := List.cons.inj same
        exact gapless before next after later

theorem Picks.mem {items : List α} {item : α} (picks : Picks upper first last items item) : item ∈ items := by
  obtain ⟨before, after, rfl, _⟩ := picks
  exact List.mem_append_right _ List.mem_cons_self

theorem not_picks_nil {item : α} : ¬ Picks upper first last [] item := by
  rintro ⟨before, after, split, _⟩
  simp at split

theorem picks_cons {head item : α} {items : List α} :
    Picks upper first last (head :: items) item ↔
      item = head ∧ first < upper head ∨ upper head < last ∧ Picks upper (max first (upper head)) last items item := by
  constructor
  · rintro ⟨_ | ⟨other, before⟩, after, split, unfinished, further⟩
    · obtain ⟨rfl, rfl⟩ := List.cons.inj split
      exact .inl ⟨rfl, further⟩
    · obtain ⟨rfl, rfl⟩ := List.cons.inj split
      rw [List.forall_mem_cons] at unfinished
      exact .inr ⟨unfinished.1, before, after, rfl, unfinished.2, further⟩
  · rintro (⟨rfl, further⟩ | ⟨unfinished, before, after, rfl, others, further⟩)
    · exact ⟨[], items, rfl, nofun, further⟩
    · exact ⟨head :: before, after, rfl, List.forall_mem_cons.mpr ⟨unfinished, others⟩, further⟩

/-- Intervals in the order of their starts are swept if they cover the stretch. -/
theorem sweeps_of_sorted {items : List α} (sorted : items.Pairwise fun left right => lower left ≤ lower right)
    (nonempty : first < last)
    (covers : ∀ point, first ≤ point → point < last → ∃ item ∈ items, lower item ≤ point ∧ point < upper item) :
    Sweeps lower upper first last items := by
  induction items generalizing first with
  | nil =>
    obtain ⟨item, member, _⟩ := covers first le_rfl nonempty
    exact False.elim (List.not_mem_nil member)
  | cons head rest ih =>
    rw [List.pairwise_cons] at sorted
    refine sweeps_cons.mpr ⟨fun _ => ?_, ?_⟩
    · obtain ⟨item, member, starts, _⟩ := covers first le_rfl nonempty
      rcases List.mem_cons.mp member with rfl | later
      · exact starts
      · exact (sorted.1 item later).trans starts
    · by_cases ends : last ≤ max first (upper head)
      · exact .inl ends
      · refine .inr (ih sorted.2 (lt_of_not_ge ends) fun point above below => ?_)
        obtain ⟨item, member, starts, stops⟩ := covers point ((le_max_left _ _).trans above) below
        rcases List.mem_cons.mp member with rfl | later
        · exact absurd stops (not_lt_of_ge ((le_max_right _ _).trans above))
        · exact ⟨item, later, starts, stops⟩

section Map
variable {γ : Type w} {f : γ → α} {items : List γ}

theorem sweeps_map :
    Sweeps lower upper first last (items.map f) ↔ Sweeps (lower ∘ f) (upper ∘ f) first last items := by
  induction items generalizing first with
  | nil => exact iff_of_false not_sweeps_nil not_sweeps_nil
  | cons item items ih => rw [List.map_cons, sweeps_cons, sweeps_cons, ih, Function.comp_apply, Function.comp_apply]

theorem picks_map {picked : α} :
    Picks upper first last (items.map f) picked ↔ ∃ item, Picks (upper ∘ f) first last items item ∧ f item = picked := by
  induction items generalizing first with
  | nil => exact iff_of_false not_picks_nil fun ⟨_, picks, _⟩ => not_picks_nil picks
  | cons item items ih =>
    simp only [List.map_cons, picks_cons, ih, Function.comp_apply]
    constructor
    · rintro (⟨rfl, further⟩ | ⟨unfinished, next, picks, rfl⟩)
      · exact ⟨item, .inl ⟨rfl, further⟩, rfl⟩
      · exact ⟨next, .inr ⟨unfinished, picks⟩, rfl⟩
    · rintro ⟨next, ⟨rfl, further⟩ | ⟨unfinished, picks⟩, rfl⟩
      · exact .inl ⟨rfl, further⟩
      · exact .inr ⟨unfinished, next, picks, rfl⟩

end Map

end Sweep

end DatafusionRay.Foundation
