import Mathlib

/-! Fallible passes over a list. A traversal stops at its first error. A stateful
filter over a stream of results lets errors pass through, and an error of the
filter itself does not end the stream. -/

namespace DatafusionRay.Foundation

variable {σ ι ω ε : Type}

theorem bind_eq_ok {result : Except ε ι} {next : ι → Except ε ω} {value : ω} :
    (result >>= next) = .ok value ↔ ∃ middle, result = .ok middle ∧ next middle = .ok value := by
  cases result with
  | error error => simp [bind, Except.bind]
  | ok middle => simp [bind, Except.bind]

theorem mapError_eq_ok {change : ε → σ} {result : Except ε ι} {value : ι} :
    result.mapError change = .ok value ↔ result = .ok value := by
  cases result <;> simp [Except.mapError]

theorem mapM_error {f : ι → Except ε ω} {items : List ι} {error : ε}
    (failed : items.mapM f = .error error) : ∃ item ∈ items, f item = .error error := by
  induction items with
  | nil => cases failed
  | cons head rest ih =>
    rw [List.mapM_cons] at failed
    cases first : f head with
    | error other =>
      rw [first] at failed
      cases failed
      exact ⟨head, List.mem_cons_self, first⟩
    | ok value =>
      rw [first] at failed
      cases later : rest.mapM f with
      | ok values =>
        simp only [later, bind, Except.bind, pure, Except.pure] at failed
        cases failed
      | error other =>
        simp only [later, bind, Except.bind] at failed
        cases failed
        obtain ⟨item, member, same⟩ := ih later
        exact ⟨item, List.mem_cons_of_mem _ member, same⟩

theorem mapM_ok {f : ι → Except ε ω} {items : List ι} {results : List ω} (passed : items.mapM f = .ok results) :
    List.Forall₂ (fun item result => f item = .ok result) items results := by
  induction items generalizing results with
  | nil =>
    cases passed
    exact .nil
  | cons head rest ih =>
    rw [List.mapM_cons, bind_eq_ok] at passed
    obtain ⟨value, first, passed⟩ := passed
    rw [bind_eq_ok] at passed
    obtain ⟨values, later, same⟩ := passed
    cases same
    exact .cons first (ih later)

theorem mapM_of_forall₂ {f : ι → Except ε ω} {items : List ι} {results : List ω}
    (every : List.Forall₂ (fun item result => f item = .ok result) items results) : items.mapM f = .ok results := by
  induction every with
  | nil => rfl
  | cons head _ ih =>
    rw [List.mapM_cons, head, ih]
    rfl

/-- The results can be had one by one. -/
theorem mapM_exists_iff {f : ι → Except ε ω} {relation : ι → ω → Prop} {items : List ι} :
    (∃ results, items.mapM f = .ok results ∧ List.Forall₂ relation items results) ↔
      ∀ item ∈ items, ∃ result, f item = .ok result ∧ relation item result := by
  constructor
  · rintro ⟨results, passed, related⟩
    have both := (mapM_ok passed).mp (fun _ _ ok held => And.intro ok held) related
    intro item member
    obtain ⟨position, bound, rfl⟩ := List.mem_iff_getElem.mp member
    have pairs := List.forall₂_iff_get.mp both
    exact ⟨_, pairs.2 position bound (pairs.1 ▸ bound)⟩
  · intro every
    induction items with
    | nil => exact ⟨[], rfl, .nil⟩
    | cons head rest ih =>
      obtain ⟨result, passes, holds⟩ := every head List.mem_cons_self
      obtain ⟨results, passed, related⟩ := ih fun item member => every item (List.mem_cons_of_mem _ member)
      refine ⟨result :: results, ?_, .cons holds related⟩
      rw [List.mapM_cons, passes, passed]
      rfl

theorem mapM_mem {f : ι → Except ε ω} {items : List ι} {results : List ω} (passed : items.mapM f = .ok results)
    {result : ω} (member : result ∈ results) : ∃ item ∈ items, f item = .ok result := by
  obtain ⟨position, bound, rfl⟩ := List.mem_iff_getElem.mp member
  have pairs := List.forall₂_iff_get.mp (mapM_ok passed)
  exact ⟨_, List.get_mem items ⟨position, pairs.1 ▸ bound⟩, pairs.2 position _ bound⟩

theorem mapM_eq_ok {f : ι → Except ε ω} {items : List ι} (result : ι → ω)
    (every : ∀ item ∈ items, f item = .ok (result item)) : items.mapM f = .ok (items.map result) := by
  induction items with
  | nil => rfl
  | cons head rest ih =>
    rw [List.forall_mem_cons] at every
    rw [List.mapM_cons, every.1, ih every.2]
    rfl

/-- What every step keeps of the elements taken so far holds of all of them in the end. -/
theorem foldlM_ok {step : σ → ι → Except ε σ} (invariant : List ι → σ → Prop) {items : List ι} {first last : σ}
    (each : ∀ {done item before after}, item ∈ items → step before item = .ok after → invariant done before →
      invariant (done ++ [item]) after)
    (initial : invariant [] first) (folded : items.foldlM step first = .ok last) : invariant items last := by
  suffices later : ∀ done rest before, done ++ rest = items → invariant done before →
      rest.foldlM step before = .ok last → invariant items last from later [] items first rfl initial folded
  intro done rest before split held folded
  induction rest generalizing done before with
  | nil =>
    cases folded
    rwa [← split, List.append_nil]
  | cons item rest ih =>
    rw [List.foldlM_cons, bind_eq_ok] at folded
    obtain ⟨middle, stepped, folded⟩ := folded
    apply ih (done ++ [item]) middle _ _ folded
    · rw [← split, ← List.append_cons]
    · exact each (split ▸ List.mem_append_right _ List.mem_cons_self) stepped held

def tryFilterMap (step : σ → ι → σ × Except ε (Option ω)) : σ → List (Except ε ι) → σ × List (Except ε ω)
  | state, [] => (state, [])
  | state, .error error :: rest =>
    let later := tryFilterMap step state rest
    (later.1, .error error :: later.2)
  | state, .ok item :: rest =>
    let here := step state item
    let later := tryFilterMap step here.1 rest
    match here.2 with
    | .ok none => later
    | .ok (some emitted) => (later.1, .ok emitted :: later.2)
    | .error error => (later.1, .error error :: later.2)

namespace TryFilterMap
variable (step : σ → ι → σ × Except ε (Option ω))

theorem append (state : σ) (first second : List (Except ε ι)) :
    tryFilterMap step state (first ++ second) =
      ((tryFilterMap step (tryFilterMap step state first).1 second).1,
        (tryFilterMap step state first).2 ++ (tryFilterMap step (tryFilterMap step state first).1 second).2) := by
  induction first generalizing state with
  | nil => rfl
  | cons result rest ih =>
    cases result with
    | error error => simp only [List.cons_append, tryFilterMap, ih]
    | ok item =>
      simp only [List.cons_append, tryFilterMap, ih]
      split <;> simp

theorem map {κ : Type} (wrap : κ → ι) (state : σ) (results : List (Except ε κ)) :
    tryFilterMap step state (results.map (Except.map wrap)) =
      tryFilterMap (fun state item => step state (wrap item)) state results := by
  induction results generalizing state with
  | nil => rfl
  | cons result rest ih =>
    cases result with
    | error error => simp only [List.map_cons, Except.map, tryFilterMap, ih]
    | ok item => simp only [List.map_cons, Except.map, tryFilterMap, ih]

/-- Without errors in the stream every item takes one step. -/
theorem state_ok (state : σ) (items : List ι) :
    (tryFilterMap step state (items.map .ok)).1 = items.foldl (fun state item => (step state item).1) state := by
  induction items generalizing state with
  | nil => rfl
  | cons item rest ih =>
    simp only [List.map_cons, tryFilterMap, List.foldl_cons, ← ih]
    split <;> rfl

end TryFilterMap

end DatafusionRay.Foundation
