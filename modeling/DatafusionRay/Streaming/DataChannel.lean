import DatafusionRay.Streaming.Item

/-! One exchange channel with the task that writes it and the streams that read
it. Data and status sit behind two separate locks, so each function on
`DataChannelState` is one critical section and the task may be preempted between
any two of them. -/

namespace DatafusionRay.Streaming

inductive ChannelStatus where
  | running
  | finished
  | error (error : DataFusionError)
  | cancelled (lastCheckpoint validUntil : Nat)
  deriving DecidableEq, Repr

/-- `OnceNotify` objects are named by their order of creation. Notifying one
closes its semaphore for good: later waits return at once. -/
structure DataChannelState (ρ : Type) where
  vec : List (StreamItem ρ)
  notification : Option Nat
  status : ChannelStatus
  created : Nat
  notified : List Nat
  deriving DecidableEq, Repr

namespace DataChannelState
variable {ρ : Type}

def create : DataChannelState ρ := ⟨[], some 0, .running, 1, []⟩

/-- Under the data lock: append the item and swap in a fresh notification. -/
def pushBack (state : DataChannelState ρ) (item : StreamItem ρ) : DataChannelState ρ :=
  { state with vec := state.vec ++ [item], notification := some state.created, created := state.created + 1 }

def setStatus (state : DataChannelState ρ) (status : ChannelStatus) : DataChannelState ρ :=
  { state with status }

def clearNotification (state : DataChannelState ρ) : DataChannelState ρ :=
  { state with notification := none }

def notify (state : DataChannelState ρ) (notification : Nat) : DataChannelState ρ :=
  { state with notified := notification :: state.notified }

end DataChannelState

structure DataChannelSender where
  nextIndex : Nat := 0
  lastCheckpoint : Nat := 0
  deriving DecidableEq, Repr

def DataChannelSender.advance {ρ : Type} (sender : DataChannelSender) : StreamItem ρ → DataChannelSender
  | .marker marker => ⟨sender.nextIndex + 1, marker.checkpointNumber⟩
  | .recordBatch _ => { sender with nextIndex := sender.nextIndex + 1 }

/-- The two callers of `cancel_with_status`. -/
inductive CancelCaller where
  | send
  | drop
  deriving DecidableEq, Repr

/-- Where the writing task stands between two critical sections. A replaced
notification is fired outside the lock it was taken under. -/
inductive SenderPhase where
  | ready
  | pushed (replaced : Option Nat)
  | cancelling (caller : CancelCaller)
  | cleared (caller : CancelCaller) (replaced : Option Nat)
  | dropping
  | dropped
  deriving DecidableEq, Repr

inductive ReaderPhase where
  | checking
  | reading (isFinished : Bool)
  | waiting (notification : Nat)
  | ended
  | failed (error : DataFusionError)
  deriving DecidableEq, Repr

/-- A stream returned by `DataChannel::stream`, before any partition filter. -/
structure Reader (ρ : Type) where
  index : Nat := 0
  yielded : List (StreamItem ρ) := []
  phase : ReaderPhase := .checking
  deriving DecidableEq, Repr

namespace Reader
variable {ρ : Type}

def checkStatus (status : ChannelStatus) (index : Nat) : ReaderPhase :=
  match status with
  | .running => .reading false
  | .finished => .reading true
  | .error error => .failed error
  | .cancelled lastCheckpoint validUntil =>
    if index = validUntil then .ended
    else if validUntil ≤ index then
      .failed (.execution s!"Channel was cancelled at checkpoint {lastCheckpoint}, last valid index {validUntil}")
    else .reading true

def readNext (state : DataChannelState ρ) (isFinished : Bool) (reader : Reader ρ) : Reader ρ :=
  match state.vec[reader.index]? with
  | some item => ⟨reader.index + 1, reader.yielded ++ [item], .checking⟩
  | none =>
    match state.notification with
    | some notification => { reader with phase := if isFinished then .ended else .waiting notification }
    | none => { reader with phase := .failed (.execution "Channel has been closed") }

def step (state : DataChannelState ρ) (reader : Reader ρ) : Option (Reader ρ) :=
  match reader.phase with
  | .checking => some { reader with phase := checkStatus state.status reader.index }
  | .reading isFinished => some (reader.readNext state isFinished)
  | .waiting notification =>
    if notification ∈ state.notified then some { reader with phase := .checking } else none
  | .ended | .failed _ => none

end Reader

/-- A `RemoteExchangeOperatorFunction::run` over its remaining input, together
with the channel it writes and the readers opened on that channel. -/
structure Exchange (ρ : Type) where
  state : DataChannelState ρ
  sender : DataChannelSender
  phase : SenderPhase
  input : List (StreamResult ρ)
  panicked : Bool
  readers : List (Reader ρ)
  deriving Repr

inductive ExchangeAction where
  | sender
  | abort
  | openReader
  | reader (position : Nat)
  deriving DecidableEq, Repr

namespace Exchange
variable {ρ : Type}

def start (input : List (StreamResult ρ)) : Exchange ρ := ⟨.create, {}, .ready, input, false, []⟩

def push (exchange : Exchange ρ) (item : StreamItem ρ) (rest : List (StreamResult ρ)) : Exchange ρ :=
  { exchange with
    state := exchange.state.pushBack item
    sender := exchange.sender.advance item
    phase := .pushed exchange.state.notification
    input := rest }

/-- The first half of `cancel_with_status`. -/
def cancel (exchange : Exchange ρ) (caller : CancelCaller) (status : ChannelStatus) : Exchange ρ :=
  { exchange with state := exchange.state.setStatus status, phase := .cancelling caller }

def beginDrop (exchange : Exchange ρ) : Exchange ρ :=
  exchange.cancel .drop (.cancelled exchange.sender.lastCheckpoint exchange.sender.nextIndex)

/-- The second half of `cancel_with_status`. -/
def clear (exchange : Exchange ρ) (caller : CancelCaller) : Exchange ρ :=
  { exchange with
    state := exchange.state.clearNotification
    phase := .cleared caller exchange.state.notification }

def afterCancel : CancelCaller → SenderPhase
  | .send => .ready
  | .drop => .dropped

/-- The loop of `run` and the calls it makes. `send` unwraps the notification it
replaced, and a panic there drops the sender while the task unwinds. -/
def senderStep (exchange : Exchange ρ) : Option (Exchange ρ) :=
  match exchange.phase with
  | .ready =>
    match exchange.input with
    | [] => some exchange.beginDrop
    | .ok item :: rest => some (exchange.push item rest)
    | .error error :: rest => some ({ exchange with input := rest }.cancel .send (.error error))
  | .pushed (some replaced) => some { exchange with state := exchange.state.notify replaced, phase := .ready }
  | .pushed none => some { exchange with phase := .dropping, panicked := true }
  | .cancelling caller => some (exchange.clear caller)
  | .cleared caller (some replaced) =>
    some { exchange with state := exchange.state.notify replaced, phase := afterCancel caller }
  | .cleared caller none => some { exchange with phase := afterCancel caller }
  | .dropping => some exchange.beginDrop
  | .dropped => none

/-- Aborting a task drops its future where it awaits, which for this loop is
only between two `send` calls. -/
def step (exchange : Exchange ρ) : ExchangeAction → Option (Exchange ρ)
  | .sender => exchange.senderStep
  | .abort => if exchange.phase = .ready then some { exchange with phase := .dropping } else none
  | .openReader => some { exchange with readers := exchange.readers ++ [{}] }
  | .reader position =>
    exchange.readers[position]?.bind fun reader =>
      (reader.step exchange.state).map fun next => { exchange with readers := exchange.readers.set position next }

end Exchange

end DatafusionRay.Streaming
