import DatafusionRay.Streaming.Barrier
import DatafusionRay.Streaming.Item

/-! A `BarrierWithResult` with everyone who uses it. Each participant computes
results round after round and leaves at the end. What a round has seen so far and
what was executed is kept on the side. -/

namespace DatafusionRay.Streaming

inductive BarrierPhase where
  | idle
  | waiting (round channel : Nat)
  | removed
  | panicked
  deriving DecidableEq, Repr

def BarrierPhase.WaitsOn (channel : Nat) : BarrierPhase → Prop
  | .waiting _ other => other = channel
  | _ => False

instance (channel : Nat) : ∀ phase : BarrierPhase, Decidable (phase.WaitsOn channel)
  | .waiting _ other => inferInstanceAs (Decidable (other = channel))
  | .idle | .removed | .panicked => .isFalse id

/-- The script holds the computations of the calls to come. What a call returned
is kept with its round. -/
structure Participant (κ τ : Type) where
  script : List κ
  phase : BarrierPhase
  returned : List (Nat × Except DataFusionError τ)

/-- An executed computation with the calls that had arrived for it and the
participants that were left. -/
structure Execution (ι κ : Type) where
  round : Nat
  function : κ
  arrivals : List (ι × κ)
  present : Finset ι

structure BarrierSession (ι κ τ : Type) where
  inner : InnerQueueState κ
  round : Nat
  arrivals : List (ι × κ)
  participants : ι → Participant κ τ
  sent : Nat → Option (Except String τ)
  executions : List (Execution ι κ)

inductive BarrierAction (ι : Type) where
  | compute (participant : ι)
  | receive (participant : ι)
  | remove (participant : ι)
  deriving DecidableEq, Repr

namespace BarrierSession
variable {ι κ τ : Type} [Fintype ι] [DecidableEq ι]

def start (scripts : ι → List κ) : BarrierSession ι κ τ where
  inner := .opened (Fintype.card ι)
  round := 0
  arrivals := []
  participants participant := ⟨scripts participant, .idle, []⟩
  sent _ := none
  executions := []

def present (session : BarrierSession ι κ τ) : Finset ι :=
  Finset.univ.filter fun participant => (session.participants participant).phase ≠ .removed

def update (session : BarrierSession ι κ τ) (participant : ι) (next : Participant κ τ) : BarrierSession ι κ τ :=
  { session with participants := Function.update session.participants participant next }

/-- The computing branches of `pop_queue_inner`. The receivers of a round are dropped
once nobody waits on them, and sending then fails. -/
def settle (outcome : κ → Except DataFusionError τ) (session : BarrierSession ι κ τ) (function : Option κ)
    (sender : Option Nat) : BarrierSession ι κ τ × Except DataFusionError τ :=
  let result := match function with
    | some function => outcome function
    | none => .error allFinished
  let ended := { session with
    round := session.round + 1
    arrivals := []
    executions := session.executions ++
      function.toList.map fun function => ⟨session.round, function, session.arrivals, session.present⟩ }
  match sender with
  | none => (ended, result)
  | some channel =>
    if ∃ participant, (session.participants participant).phase.WaitsOn channel then
      ({ ended with sent := Function.update session.sent channel (some (sendableResult result)) }, result)
    else (ended, .error receiverDropped)

def compute (outcome : κ → Except DataFusionError τ) (session : BarrierSession ι κ τ) (participant : ι)
    (current : Participant κ τ) (function : κ) (rest : List κ) : BarrierSession ι κ τ :=
  let arrived := { session with arrivals := session.arrivals ++ [(participant, function)] }
  match session.inner.computeResult function with
  | .error _ => session.update participant { current with phase := .panicked }
  | .ok (inner, .wait channel) =>
    { arrived with inner }.update participant ⟨rest, .waiting session.round channel, current.returned⟩
  | .ok (inner, .compute stored sender) =>
    let (ended, result) := { arrived with inner }.settle outcome stored sender
    ended.update participant ⟨rest, .idle, current.returned ++ [(session.round, result)]⟩

def remove (outcome : κ → Except DataFusionError τ) (session : BarrierSession ι κ τ) (participant : ι)
    (current : Participant κ τ) : BarrierSession ι κ τ :=
  let left := session.update participant { current with phase := .removed }
  match session.inner.removeParticipant with
  | .error _ => session.update participant { current with phase := .panicked }
  | .ok (inner, .wait _) => { left with inner }
  | .ok (inner, .compute stored sender) => ({ left with inner }.settle outcome stored sender).1

def step (outcome : κ → Except DataFusionError τ) (session : BarrierSession ι κ τ) :
    BarrierAction ι → Option (BarrierSession ι κ τ)
  | .compute participant =>
    let current := session.participants participant
    match current.phase, current.script with
    | .idle, function :: rest => some (session.compute outcome participant current function rest)
    | _, _ => none
  | .receive participant =>
    let current := session.participants participant
    match current.phase with
    | .waiting round channel =>
      (session.sent channel).map fun value =>
        session.update participant
          { current with phase := .idle, returned := current.returned ++ [(round, receivedResult value)] }
    | _ => none
  | .remove participant =>
    let current := session.participants participant
    match current.phase, current.script with
    | .idle, [] => some (session.remove outcome participant current)
    | _, _ => none

end BarrierSession

end DatafusionRay.Streaming
