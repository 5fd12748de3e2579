import DatafusionRay.Foundation.ThreadLocal

/-! A loop that takes the top of a stack and may push more onto it, until the stack is
empty or an item fails. It ends because something on the stack gets less with every item. -/

namespace DatafusionRay.Foundation
open Threaded

variable {α θ ε : Type} {visit : α → List α → Threaded θ ε (List α)}

/-- The top of the stack stands first. Without fuel for another item there is no result. -/
def workList (visit : α → List α → Threaded θ ε (List α)) : Nat → List α → θ → Option (Except ε Unit × θ)
  | _, [], thread => some (.ok (), thread)
  | 0, _ :: _, _ => none
  | fuel + 1, next :: stack, thread =>
    match (visit next stack).outcome thread with
    | (.ok stack, after) => workList visit fuel stack after
    | (.error error, after) => some (.error error, after)

theorem workList_of_returns {next : α} {stack pushed : List α} {before after : θ}
    (visited : Returns (visit next stack) before pushed after) (fuel : Nat) :
    workList visit (fuel + 1) (next :: stack) before = workList visit fuel pushed after := by
  rw [workList, visited]

/-- A loop that has succeeded has kept the invariant of its visits. -/
theorem workList_returns {invariant : List α → θ → Prop}
    (kept : ∀ next stack pushed before after, invariant (next :: stack) before →
      Returns (visit next stack) before pushed after → invariant pushed after)
    {fuel : Nat} {stack : List α} {thread after : θ} (initial : invariant stack thread)
    (succeeded : workList visit fuel stack thread = some (.ok (), after)) : invariant [] after := by
  induction fuel generalizing stack thread with
  | zero =>
    cases stack with
    | nil =>
      cases succeeded
      exact initial
    | cons next stack => cases succeeded
  | succ fuel ih =>
    cases stack with
    | nil =>
      rw [workList] at succeeded
      cases succeeded
      exact initial
    | cons next stack =>
      rw [workList] at succeeded
      cases visited : (visit next stack).outcome thread with
      | mk result middle =>
        rw [visited] at succeeded
        cases result with
        | ok pushed => exact ih (kept _ _ _ _ _ initial visited) succeeded
        | error error => cases succeeded

/-- An invariant of the visits with a weight that each of them lowers: the loop ends for
every fuel above the weight, and a loop that succeeds leaves the invariant of an empty
stack. It does succeed if all visits return. -/
theorem workList_halts {invariant : List α → θ → Prop} {weight : List α → Nat}
    (kept : ∀ next stack pushed before after, invariant (next :: stack) before →
      Returns (visit next stack) before pushed after → invariant pushed after ∧ weight pushed < weight (next :: stack))
    {stack : List α} {thread : θ} (initial : invariant stack thread) :
    ∃ result after, (∀ fuel, weight stack < fuel → workList visit fuel stack thread = some (result, after)) ∧
      (result = .ok () → invariant [] after) ∧
      ((∀ next stack before, invariant (next :: stack) before →
        ∃ pushed after, Returns (visit next stack) before pushed after) → result = .ok ()) := by
  induction size : weight stack using Nat.strong_induction_on generalizing stack thread with
  | _ size ih =>
    subst size
    cases stack with
    | nil =>
      refine ⟨.ok (), thread, ?_, fun _ => initial, fun _ => rfl⟩
      intro fuel _
      rw [workList]
    | cons next stack =>
      cases visited : (visit next stack).outcome thread with
      | mk result after =>
        cases result with
        | ok pushed =>
          obtain ⟨later, lowered⟩ := kept _ _ _ _ _ initial visited
          obtain ⟨result, last, halts, correct, succeeds⟩ := ih _ lowered later rfl
          refine ⟨result, last, ?_, correct, succeeds⟩
          intro fuel enough
          cases fuel with
          | zero => exact absurd enough (Nat.not_lt_zero _)
          | succ fuel =>
            rw [workList_of_returns visited]
            apply halts
            exact Nat.lt_of_lt_of_le lowered (Nat.le_of_lt_succ enough)
        | error error =>
          refine ⟨.error error, after, ?_, nofun, ?_⟩
          · intro fuel enough
            cases fuel with
            | zero => exact absurd enough (Nat.not_lt_zero _)
            | succ fuel => rw [workList, visited]
          · intro returns
            obtain ⟨pushed, last, returned⟩ := returns _ _ _ initial
            cases visited.symm.trans returned

end DatafusionRay.Foundation
