import Mathlib

/-! Streams that are asked for one item after the other until they answer that
there is none. -/

namespace DatafusionRay.Foundation

universe u v

variable {σ : Type u} {ω : Type v} {poll : σ → Option ω × σ}

/-- The items a stream answers with, up to its end. -/
inductive Yields (poll : σ → Option ω × σ) : σ → List ω → Prop where
  | done {state after : σ} (ended : poll state = (none, after)) : Yields poll state []
  | next {state after : σ} {item : ω} {rest : List ω} (answered : poll state = (some item, after))
      (later : Yields poll after rest) : Yields poll state (item :: rest)

namespace Yields

theorem unique {state : σ} {first second : List ω} (left : Yields poll state first) (right : Yields poll state second) :
    first = second := by
  induction left generalizing second with
  | done ended =>
    cases right with
    | done _ => rfl
    | next answered _ => cases ended.symm.trans answered
  | next answered _ ih =>
    cases right with
    | done ended => cases ended.symm.trans answered
    | next again later =>
      cases answered.symm.trans again
      rw [ih later]

theorem congr {first second : σ} {items : List ω} (same : poll first = poll second) (yields : Yields poll second items) :
    Yields poll first items := by
  cases yields with
  | done ended => exact .done (same.trans ended)
  | next answered later => exact .next (same.trans answered) later

/-- A stream that keeps an assertion under which it always has another item does not end. -/
theorem false_of_endless {assertion : σ → Prop}
    (endless : ∀ state, assertion state → ∃ item after, poll state = (some item, after) ∧ assertion after)
    {state : σ} {items : List ω} (yields : Yields poll state items) (holds : assertion state) : False := by
  induction yields with
  | done ended =>
    obtain ⟨item, after, answered, -⟩ := endless _ holds
    cases ended.symm.trans answered
  | next answered _ ih =>
    obtain ⟨item, after, again, later⟩ := endless _ holds
    cases answered.symm.trans again
    exact ih later

end Yields

end DatafusionRay.Foundation
