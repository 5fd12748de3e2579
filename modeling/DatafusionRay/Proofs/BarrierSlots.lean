import DatafusionRay.Foundation.Execution
import DatafusionRay.Proofs.BarrierMoves

/-! The queue of a barrier against the participants it is made for. It is created from
a count that departures lower in the middle of a round, and those who leave take a
slot as well. Still there is a slot for each participant who is missing, whatever the
order of arrivals and departures, so no call of theirs can panic. -/

namespace DatafusionRay.Proofs.Barrier
open Streaming Foundation BarrierSession InnerQueueState

variable {ι κ τ : Type} [Fintype ι] [DecidableEq ι] {outcome : κ → Except DataFusionError τ}

/-- The participants who have not left and have not arrived in the current round. -/
def missing (session : BarrierSession ι κ τ) : Finset ι :=
  session.present.filter fun participant => participant ∉ session.arrivals.map Prod.fst

/-- The slots of a queue in the order in which they are taken: receivers, and the one
sender of their channel as the last. -/
def EndsWithSender (queue : List QueueSlot) : Prop :=
  ∃ receivers channel, queue = receivers ++ [.sender channel] ∧ ∀ slot ∈ receivers, slot = .receiver channel

structure SlotsMatch (session : BarrierSession ι κ τ) : Prop where
  slots : ∀ queue, session.inner.synchronisationQueue = some queue → queue.length = (missing session).card
  sender : ∀ queue, session.inner.synchronisationQueue = some queue → EndsWithSender queue
  running : ∀ participant, (session.participants participant).phase ≠ .panicked
  compute : ∀ participant, (session.participants participant).phase = .idle → ∀ function,
    ∃ turn, session.inner.computeResult function = .ok turn
  remove : ∀ participant, (session.participants participant).phase = .idle →
    ∃ turn, session.inner.removeParticipant = .ok turn

private theorem Matches.endsWithSender {state : InnerQueueState κ} {live arrived : Nat}
    (counted : Matches state live arrived) {queue : List QueueSlot} (queued : state.synchronisationQueue = some queue) :
    EndsWithSender queue := by
  have slots := counted.queue
  rw [queued] at slots
  obtain ⟨_, rfl⟩ := slots
  refine ⟨_, _, rfl, ?_⟩
  intro slot member
  exact List.eq_of_mem_replicate member

section Calls
variable {state : InnerQueueState κ} {live arrived : Nat} (counted : Matches state live arrived) (open_ : arrived < live)
include counted open_

private theorem Matches.compute_returns (function : κ) : ∃ turn, state.computeResult function = .ok turn := by
  have answer := computeResult_arrival function counted open_
  cases result : state.computeResult function with
  | error failure =>
    rw [result] at answer
    cases answer
  | ok turn => exact ⟨turn, rfl⟩

private theorem Matches.remove_returns : ∃ turn, state.removeParticipant = .ok turn := by
  have answer := removeParticipant_departure counted open_
  cases result : state.removeParticipant with
  | error failure =>
    rw [result] at answer
    cases answer
  | ok turn => exact ⟨turn, rfl⟩

end Calls

private theorem missing_eq (session : BarrierSession ι κ τ) :
    missing session = session.present \ (session.arrivals.map Prod.fst).toFinset := by
  ext participant
  simp only [missing, Finset.mem_filter, Finset.mem_sdiff, List.mem_toFinset]

section Seats
variable {session : BarrierSession ι κ τ} (seated : Seated session)
include seated

private theorem Seated.arrived_present : (session.arrivals.map Prod.fst).toFinset ⊆ session.present := by
  intro participant member
  obtain ⟨channel, waiting⟩ := (seated.arrived participant).mp (List.mem_toFinset.mp member)
  apply mem_present.mpr
  rw [waiting]
  nofun

private theorem Seated.card_missing : (Barrier.missing session).card + session.arrivals.length = session.present.card := by
  rw [missing_eq, ← seated.card_arrived]
  exact Finset.card_sdiff_add_card_eq_card seated.arrived_present

theorem Seated.slotsMatch : SlotsMatch session where
  slots queue queued := by
    have taken := seated.counted.slots queued
    have left := seated.card_missing
    omega
  sender queue queued := seated.counted.endsWithSender queued
  running := seated.running
  compute participant idle function := seated.counted.compute_returns (seated.missing idle) function
  remove participant idle := seated.counted.remove_returns (seated.missing idle)

end Seats

/-- However the calls interleave, the queue of the barrier matches the participants who
are missing, and neither the queue nor the assertion behind it can panic. -/
theorem slots_match_participants (outcome : κ → Except DataFusionError τ) (scripts : ι → List κ)
    (actions : List (BarrierAction ι)) (last : BarrierSession ι κ τ)
    (executed : run (BarrierSession.step outcome) (.start scripts) actions = some last) :
    InnerQueueState.new (Fintype.card ι) = .ok (BarrierSession.start scripts : BarrierSession ι κ τ).inner ∧
      SlotsMatch last := by
  have kept (before : BarrierSession ι κ τ) (action : BarrierAction ι) (after : BarrierSession ι κ τ)
      (stepped : before.step outcome action = some after) (seated : Seated before) : Seated after :=
    seated.move (step_moves seated stepped)
  have seated := run_preserves kept executed (.start scripts)
  exact ⟨new_eq _, seated.slotsMatch⟩

/-- Of three participants one leaves while another waits; one slot is left for the third. -/
theorem third_participant_has_slot :
    ∃ session : BarrierSession (Fin 3) Nat Nat,
      run (BarrierSession.step fun value => .ok value) (.start fun participant => if participant = 0 then [] else [7])
          [.compute 1, .remove 0] = some session ∧
        session.inner.synchronisationQueue = some [.sender 0] ∧ SlotsMatch session := by
  refine ⟨_, rfl, rfl, ?_⟩
  apply (slots_match_participants (fun value => .ok value) (fun participant => if participant = 0 then [] else [7])
    [.compute 1, .remove 0] _ ?_).2
  rfl

end DatafusionRay.Proofs.Barrier
