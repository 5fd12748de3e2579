import DatafusionRay.Streaming.Barrier

/-! The queue of a barrier counts the participants that are still missing. -/

namespace DatafusionRay.Proofs.Barrier
open Streaming InnerQueueState

variable {κ : Type}

/-- `live` participants are left and `arrived` of them wait for this round's result. -/
structure Matches (state : InnerQueueState κ) (live arrived : Nat) : Prop where
  count : state.count = live
  created : 0 < state.created
  queue : match state.synchronisationQueue with
    | none => live ≤ 1 ∧ arrived = 0
    | some slots => arrived < live ∧ slots =
        List.replicate (live - arrived - 1) (.receiver (state.created - 1)) ++ [.sender (state.created - 1)]
  function : state.computationFunction.isSome = decide (0 < arrived)

private theorem Matches.fresh {count created : Nat} {queue : Option (List QueueSlot)}
    (made : createStateQueue count created = .ok queue) :
    Matches (⟨count, none, queue, created + 1⟩ : InnerQueueState κ) count 0 where
  count := rfl
  created := Nat.succ_pos _
  queue := by
    rw [createStateQueue_eq] at made
    cases made
    by_cases few : count ≤ 1
    · simp [few]
    · simp only [few, if_false]
      exact ⟨by omega, by simp⟩
  function := rfl

theorem Matches.opened (count : Nat) : Matches (InnerQueueState.opened count : InnerQueueState κ) count 0 := by
  rw [opened_eq]
  exact .fresh (createStateQueue_eq count 0)

/-- There is a slot for each participant that is missing. -/
theorem Matches.slots {state : InnerQueueState κ} {live arrived : Nat} (counted : Matches state live arrived)
    {slots : List QueueSlot} (queued : state.synchronisationQueue = some slots) : slots.length + arrived = live := by
  have queue := counted.queue
  rw [queued] at queue
  obtain ⟨missing, rfl⟩ := queue
  rw [List.length_append, List.length_replicate, List.length_singleton]
  omega

/-- What a call of a participant can be: one more waits, or the round is over
and the last one computes with the function that was stored first. -/
inductive Arrival (before : InnerQueueState κ) (function : κ) (live arrived : Nat) :
    Except Failure (InnerQueueState κ × BarrierTurn κ) → Prop where
  | wait {after} (missing : arrived + 1 < live) (created : after.created = before.created)
      (stored : after.computationFunction = some (before.computationFunction.getD function))
      (present : after.synchronisationQueue.isSome = before.synchronisationQueue.isSome)
      (next : Matches after live (arrived + 1)) :
      Arrival before function live arrived (.ok (after, .wait (before.created - 1)))
  | last {after} (complete : live = arrived + 1) (created : after.created = before.created + 1)
      (present : before.synchronisationQueue.isSome) (next : Matches after live 0) :
      Arrival before function live arrived
        (.ok (after, .compute (some (before.computationFunction.getD function)) (some (before.created - 1))))
  | alone {after} (single : live = 1) (first : arrived = 0) (created : after.created = before.created)
      (absent : after.synchronisationQueue = none) (next : Matches after live 0) :
      Arrival before function live arrived
        (.ok (after, .compute (some (before.computationFunction.getD function)) none))

theorem computeResult_arrival {before : InnerQueueState κ} {live arrived : Nat} (function : κ)
    (counted : Matches before live arrived) (missing : arrived < live) :
    Arrival before function live arrived (before.computeResult function) := by
  obtain ⟨count, computation, queue, created⟩ := before
  obtain ⟨rfl, positive, queued, stored⟩ := counted
  dsimp only at positive queued stored missing
  cases queue with
  | none =>
    obtain ⟨few, rfl⟩ := queued
    exact .alone (by dsimp only; omega) rfl rfl rfl ⟨rfl, positive, ⟨few, rfl⟩, rfl⟩
  | some slots =>
    obtain ⟨_, rfl⟩ := queued
    obtain ⟨others, same⟩ : ∃ others, count - arrived - 1 = others := ⟨_, rfl⟩
    cases others with
    | zero =>
      simp only [computeResult, popQueueInner, same, List.replicate_zero, List.nil_append, createStateQueue_eq]
      exact .last (by omega) rfl rfl (.fresh (createStateQueue_eq _ _))
    | succ others =>
      simp only [computeResult, popQueueInner, same, List.replicate_succ, List.cons_append]
      refine .wait (by omega) rfl rfl rfl ⟨rfl, positive, ⟨by omega, ?_⟩, by simp⟩
      rw [show count - (arrived + 1) - 1 = others by omega]

inductive Departure (before : InnerQueueState κ) (live arrived : Nat) :
    Except Failure (InnerQueueState κ × BarrierTurn κ) → Prop where
  | wait {after} (missing : arrived + 1 < live) (created : after.created = before.created)
      (stored : after.computationFunction = before.computationFunction)
      (present : after.synchronisationQueue.isSome = before.synchronisationQueue.isSome)
      (next : Matches after (live - 1) arrived) :
      Departure before live arrived (.ok (after, .wait (before.created - 1)))
  | last {after} (complete : live = arrived + 1) (created : after.created = before.created + 1)
      (present : before.synchronisationQueue.isSome) (next : Matches after (live - 1) 0) :
      Departure before live arrived
        (.ok (after, .compute before.computationFunction (some (before.created - 1))))
  | alone {after} (single : live = 1) (first : arrived = 0) (created : after.created = before.created)
      (absent : after.synchronisationQueue = none) (next : Matches after (live - 1) 0) :
      Departure before live arrived (.ok (after, .compute before.computationFunction none))

theorem removeParticipant_departure {before : InnerQueueState κ} {live arrived : Nat}
    (counted : Matches before live arrived) (missing : arrived < live) :
    Departure before live arrived before.removeParticipant := by
  obtain ⟨count, computation, queue, created⟩ := before
  obtain ⟨rfl, positive, queued, stored⟩ := counted
  dsimp only at positive queued stored missing
  cases queue with
  | none =>
    obtain ⟨few, rfl⟩ := queued
    exact .alone (by dsimp only; omega) rfl rfl rfl ⟨rfl, positive, ⟨by dsimp only; omega, rfl⟩, rfl⟩
  | some slots =>
    obtain ⟨_, rfl⟩ := queued
    obtain ⟨others, same⟩ : ∃ others, count - arrived - 1 = others := ⟨_, rfl⟩
    cases others with
    | zero =>
      simp only [removeParticipant, popQueueInner, same, List.replicate_zero, List.nil_append, createStateQueue_eq]
      exact .last (by omega) rfl rfl (.fresh (createStateQueue_eq _ _))
    | succ others =>
      simp only [removeParticipant, popQueueInner, same, List.replicate_succ, List.cons_append]
      refine .wait (by omega) rfl rfl rfl ⟨rfl, positive, ⟨by omega, ?_⟩, stored⟩
      rw [show count - 1 - arrived - 1 = others by omega]

end DatafusionRay.Proofs.Barrier
