import Mathlib

/-! Several lists that are taken apart from their fronts into one, and the removal of
an element that puts the last one in its place. -/

namespace DatafusionRay.Foundation

variable {κ α : Type} [DecidableEq κ]

/-- What has come out of the inputs, each of which keeps its order, and what is left of
every one of them. -/
def Interleaved (inputs left : κ → List α) (merged : List α) : Prop :=
  ∃ tagged : List (κ × α), tagged.map Prod.snd = merged ∧
    ∀ key, (tagged.filter fun entry => entry.1 = key).map Prod.snd ++ left key = inputs key

namespace Interleaved

theorem start (inputs : κ → List α) : Interleaved inputs inputs [] := ⟨[], rfl, fun _ => rfl⟩

theorem take {inputs left : κ → List α} {merged rest : List α} {key : κ} {item : α}
    (interleaved : Interleaved inputs left merged) (front : left key = item :: rest) :
    Interleaved inputs (Function.update left key rest) (merged ++ [item]) := by
  obtain ⟨tagged, rfl, parts⟩ := interleaved
  refine ⟨tagged ++ [(key, item)], by simp, fun other => ?_⟩
  rw [List.filter_append, List.map_append]
  by_cases same : other = key
  · subst same
    simpa [front] using parts other
  · simpa [same, Ne.symm same] using parts other

section Complete
variable {ι : Type}

/-- The tags of the elements within their lists, put to those of the lists. -/
private theorem exists_pairs {tagged : List (κ × α)} {tags : κ → List (ι × α)}
    (same : ∀ key, (tagged.filter fun entry => entry.1 = key).map Prod.snd = (tags key).map Prod.snd) :
    ∃ pairs : List ((κ × ι) × α), pairs.map Prod.snd = tagged.map Prod.snd ∧
      ∀ key, ((pairs.filter fun entry => entry.1.1 = key).map fun entry => (entry.1.2, entry.2)) = tags key := by
  induction tagged generalizing tags with
  | nil => exact ⟨[], rfl, fun key => (List.map_eq_nil_iff.mp (same key).symm).symm⟩
  | cons entry rest ih =>
    obtain ⟨key, item⟩ := entry
    have here := same key
    rw [List.filter_cons_of_pos (by simp), List.map_cons] at here
    obtain ⟨⟨index, item'⟩, later, split, rfl, parts⟩ := List.map_eq_cons_iff.mp here.symm
    have left : ∀ other, (rest.filter fun entry => entry.1 = other).map Prod.snd =
        (Function.update tags key later other).map Prod.snd := by
      intro other
      by_cases equal : other = key
      · rw [equal, Function.update_self, parts]
      · have kept := same other
        rw [List.filter_cons_of_neg (by simpa using Ne.symm equal)] at kept
        rw [Function.update_of_ne equal, kept]
    obtain ⟨pairs, items, grouped⟩ := ih left
    refine ⟨((key, index), item') :: pairs, by simp [items], fun other => ?_⟩
    by_cases equal : other = key
    · rw [equal, List.filter_cons_of_pos (by simp), List.map_cons, grouped, Function.update_self, split]
    · rw [List.filter_cons_of_neg (by simpa using Ne.symm equal), grouped, Function.update_of_ne equal]

variable [DecidableEq ι]

/-- Lists that were interleaved themselves. -/
theorem nest {lists : κ → List α} {inputs : κ → ι → List α} {merged : List α}
    (within : ∀ key, Interleaved (inputs key) (fun _ => []) (lists key))
    (gathered : Interleaved lists (fun _ => []) merged) :
    Interleaved (fun pair : κ × ι => inputs pair.1 pair.2) (fun _ => []) merged := by
  choose tags items parts using within
  obtain ⟨tagged, rfl, outer⟩ := gathered
  simp only [List.append_nil] at parts outer
  have same : ∀ key, (tagged.filter fun entry => entry.1 = key).map Prod.snd = (tags key).map Prod.snd := by
    intro key
    rw [outer, items]
  obtain ⟨pairs, kept, grouped⟩ := exists_pairs same
  refine ⟨pairs, kept, fun pair => ?_⟩
  have inner := congrArg (fun list => (list.filter fun entry => entry.1 = pair.2).map Prod.snd) (grouped pair.1)
  simp only [List.filter_map, List.filter_filter, List.map_map, parts] at inner
  have matching : pairs.filter (fun entry => entry.1 = pair) =
      pairs.filter fun entry => decide (entry.1.2 = pair.2) && decide (entry.1.1 = pair.1) := by
    apply List.filter_congr
    intro entry _
    simp [Prod.ext_iff, Bool.and_comm]
  rw [List.append_nil, matching]
  exact inner

/-- The inputs under other names. Two of them may get one name only if one is empty. -/
theorem rename {inputs : κ → List α} {renamed : ι → List α} {merged : List α} (name : κ → ι)
    (interleaved : Interleaved inputs (fun _ => []) merged)
    (distinct : ∀ key other, inputs key ≠ [] → inputs other ≠ [] → name key = name other → key = other)
    (values : ∀ key, inputs key ≠ [] → renamed (name key) = inputs key)
    (covered : ∀ index, renamed index ≠ [] → ∃ key, name key = index ∧ inputs key ≠ []) :
    Interleaved renamed (fun _ => []) merged := by
  obtain ⟨tagged, rfl, parts⟩ := interleaved
  simp only [List.append_nil] at parts
  have filled : ∀ entry ∈ tagged, inputs entry.1 ≠ [] := by
    intro entry member empty
    have none := List.map_eq_nil_iff.mp ((parts entry.1).trans empty)
    exact List.not_mem_nil (none ▸ List.mem_filter.mpr ⟨member, by simp⟩)
  refine ⟨tagged.map fun entry => (name entry.1, entry.2), by simp, fun index => ?_⟩
  rw [List.append_nil, List.filter_map, List.map_map]
  by_cases empty : renamed index = []
  · have none : tagged.filter (fun entry => decide (name entry.1 = index)) = [] := by
      apply List.filter_eq_nil_iff.mpr
      intro entry member named
      have value := values entry.1 (filled entry member)
      rw [of_decide_eq_true named, empty] at value
      exact filled entry member value.symm
    rw [empty]
    exact congrArg _ none
  · obtain ⟨key, rfl, nonempty⟩ := covered index empty
    rw [values key nonempty, ← parts key]
    apply congrArg
    apply List.filter_congr
    intro entry member
    simp only [Function.comp_apply, decide_eq_decide]
    exact ⟨distinct _ _ (filled entry member) nonempty, congrArg name⟩

end Complete

end Interleaved

/-- The last element takes the place of the one that is removed. -/
def swapRemove (items : List α) (position : Nat) : List α :=
  match items.getLast? with
  | none => []
  | some last => (items.set position last).dropLast

theorem swapRemove_last (front : List α) (item : α) : swapRemove (front ++ [item]) front.length = front := by
  simp [swapRemove]

theorem swapRemove_middle (front back : List α) (item last : α) :
    swapRemove (front ++ item :: (back ++ [last])) front.length = front ++ last :: back := by
  have ends : (front ++ item :: (back ++ [last])).getLast? = some last := by
    rw [← List.cons_append, ← List.append_assoc, List.getLast?_concat]
  rw [swapRemove, ends]
  change ((front ++ item :: (back ++ [last])).set front.length last).dropLast = _
  rw [List.set_append_right _ _ le_rfl, Nat.sub_self, List.set_cons_zero, ← List.cons_append, ← List.append_assoc,
    List.dropLast_concat]

end DatafusionRay.Foundation
