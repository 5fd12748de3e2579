import DatafusionRay.Streaming.Item

/-! A barrier whose last participant computes one result for all. Each round
has a queue with a sender for the last participant and a receiver for every
other one. The queue sits behind an asynchronous lock that is held while the
result is computed, so each call is one step. -/

namespace DatafusionRay.Streaming

/-- The two ends of a one-shot channel, which is named by its order of creation. -/
inductive QueueSlot where
  | sender (channel : Nat)
  | receiver (channel : Nat)
  deriving DecidableEq, Repr

/-- What a participant has to do after its turn: wait for the result on a
channel, or compute it, from the stored function if there is one, and send it on
the channel if there is one. -/
inductive BarrierTurn (κ : Type) where
  | wait (channel : Nat)
  | compute (function : Option κ) (sender : Option Nat)
  deriving DecidableEq, Repr

/-- The queue is in the order in which its slots are taken, the sender last. -/
structure InnerQueueState (κ : Type) where
  count : Nat
  computationFunction : Option κ
  synchronisationQueue : Option (List QueueSlot)
  created : Nat
  deriving DecidableEq, Repr

namespace InnerQueueState
variable {κ : Type}

def createStateQueueUnchecked (count channel : Nat) : Except Failure (List QueueSlot) :=
  if 1 < count then .ok (List.replicate (count - 1) (.receiver channel) ++ [.sender channel])
  else .error (.panicked "Barrier count must be greater than 1")

def createStateQueue (count channel : Nat) : Except Failure (Option (List QueueSlot)) := do
  if count ≤ 1 then return none
  return some (← createStateQueueUnchecked count channel)

def new (count : Nat) : Except Failure (InnerQueueState κ) := do
  return ⟨count, none, ← createStateQueue count 0, 1⟩

def popQueueInner (state : InnerQueueState κ) : Except Failure (InnerQueueState κ × BarrierTurn κ) :=
  match state.synchronisationQueue with
  | none => .ok ({ state with computationFunction := none }, .compute state.computationFunction none)
  | some [] => .error (.panicked "Barrier ran out of states. Are there more consumers than expected?")
  | some (.receiver channel :: rest) => .ok ({ state with synchronisationQueue := some rest }, .wait channel)
  | some (.sender channel :: _) => do
    let queue ← createStateQueue state.count state.created
    return ({ state with
        computationFunction := none
        synchronisationQueue := queue
        created := state.created + 1 },
      .compute state.computationFunction (some channel))

/-- The first participant of a round stores its function for the last one. -/
def computeResult (state : InnerQueueState κ) (function : κ) : Except Failure (InnerQueueState κ × BarrierTurn κ) :=
  popQueueInner { state with computationFunction := some (state.computationFunction.getD function) }

def removeParticipant (state : InnerQueueState κ) : Except Failure (InnerQueueState κ × BarrierTurn κ) :=
  popQueueInner { state with count := state.count - 1 }

/-- A queue is created for more than one participant only, so the assertion holds. -/
theorem createStateQueue_eq (count channel : Nat) :
    createStateQueue count channel =
      .ok (if count ≤ 1 then none else some (List.replicate (count - 1) (.receiver channel) ++ [.sender channel])) := by
  by_cases few : count ≤ 1
  · rw [createStateQueue, if_pos few, if_pos few]
    rfl
  · rw [createStateQueue, if_neg few, if_neg few, createStateQueueUnchecked, if_pos (Nat.lt_of_not_le few)]
    rfl

theorem new_isSome (count : Nat) : (new count : Except Failure (InnerQueueState κ)).toOption.isSome := by
  rw [new, createStateQueue_eq]
  rfl

/-- The state of a barrier that nobody has called yet. -/
def opened (count : Nat) : InnerQueueState κ := (new count).toOption.get (new_isSome count)

theorem new_eq (count : Nat) : (new count : Except Failure (InnerQueueState κ)) = .ok (opened count) := by
  unfold opened
  generalize new_isSome count = returned
  generalize new count = created at returned ⊢
  cases created with
  | error failure => cases returned
  | ok state => rfl

theorem opened_eq (count : Nat) :
    (opened count : InnerQueueState κ) =
      ⟨count, none, if count ≤ 1 then none else some (List.replicate (count - 1) (.receiver 0) ++ [.sender 0]), 1⟩ := by
  have made := new_eq (κ := κ) count
  rw [new, createStateQueue_eq] at made
  exact (Except.ok.inj made).symm

@[simp] theorem opened_count (count : Nat) : (opened count : InnerQueueState κ).count = count := by rw [opened_eq]

@[simp] theorem opened_function (count : Nat) : (opened count : InnerQueueState κ).computationFunction = none := by
  rw [opened_eq]

end InnerQueueState

section Result
variable {τ : Type}

/-- What the last participant sends to the others. -/
def sendableResult : Except DataFusionError τ → Except String τ
  | .ok value => .ok value
  | .error error =>
    let shown := error.display
    .error s!"Error computing result: {shown}"

/-- What `compute_result` returns after it has waited. -/
def receivedResult : Except String τ → Except DataFusionError τ
  | .ok value => .ok value
  | .error message => .error (.internal message)

def allFinished : DataFusionError :=
  .internal "All users of the barrier have finished, there is no result to share"

def receiverDropped : DataFusionError := .internal "Barrier receiver was dropped before the result was sent."

end Result

end DatafusionRay.Streaming
