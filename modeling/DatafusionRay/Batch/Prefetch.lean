import DatafusionRay.Batch.MaxRows
import DatafusionRay.Foundation.BoundedChannel
import DatafusionRay.Streaming.Item

/-! The plan node that reads ahead. A task of its own takes the batches of the input and
sends them through a bounded channel to the stream that the node returns. -/

namespace DatafusionRay.Batch
open Streaming (DataFusionError Failure)
open Foundation

variable {ρ : Type}

/-- Where the spawned task is. -/
inductive ConsumeTask (ρ : Type) where
  | reading
  | sending (batch : BatchResult ρ)
  | finished
  | panicked

/-- The task, the channel and the stream that is returned, with what it has yielded. -/
structure PrefetchStream (ρ : Type) where
  inputStream : List (BatchResult ρ)
  task : ConsumeTask ρ
  channel : BoundedChannel (BatchResult ρ)
  yielded : List (BatchResult ρ)
  ended : Bool

namespace PrefetchStream

def start (bufSize : Nat) (inputStream : List (BatchResult ρ)) : PrefetchStream ρ :=
  ⟨inputStream, .reading, .new bufSize, [], false⟩

/-- What may happen next: the input answers or panics, a batch is sent, the stream is
polled or dropped. -/
inductive Action where
  | next
  | inputPanics
  | send
  | recv
  | drop
  deriving DecidableEq, Repr

/-- The sender goes with the task, however that ends. A send to a stream that has been
dropped is unwrapped. -/
def step (stream : PrefetchStream ρ) : Action → Option (PrefetchStream ρ)
  | .next =>
    match stream.task, stream.inputStream with
    | .reading, batch :: rest => some { stream with inputStream := rest, task := .sending batch }
    | .reading, [] => some { stream with task := .finished, channel := stream.channel.dropSender }
    | _, _ => none
  | .inputPanics =>
    match stream.task with
    | .reading => some { stream with task := .panicked, channel := stream.channel.dropSender }
    | _ => none
  | .send =>
    match stream.task with
    | .sending batch =>
      match stream.channel.send batch with
      | some (.ok channel) => some { stream with task := .reading, channel }
      | some (.error ()) => some { stream with task := .panicked, channel := stream.channel.dropSender }
      | none => none
    | _ => none
  | .recv =>
    if stream.ended || stream.channel.receiverGone then none
    else
      match stream.channel.recv with
      | some (some batch, channel) => some { stream with yielded := stream.yielded ++ [batch], channel }
      | some (none, channel) => some { stream with ended := true, channel }
      | none => none
  | .drop => if stream.channel.receiverGone then none else some { stream with channel := stream.channel.dropReceiver }

end PrefetchStream

def maxPermits : Nat := 2 ^ 61 - 1

/-- `PrefetchExec::execute`. The channel is made before the input is executed. -/
def PrefetchExec.execute (bufSize : Nat) (input : Except DataFusionError (List (BatchResult ρ))) :
    Except Failure (PrefetchStream ρ) :=
  if bufSize = 0 then .error (.panicked "mpsc bounded channel requires buffer > 0")
  else if maxPermits < bufSize then
    .error (.panicked s!"a semaphore may not have more than MAX_PERMITS permits ({maxPermits})")
  else
    match input with
    | .error error => .error (.error error)
    | .ok inputStream => .ok (.start bufSize inputStream)

end DatafusionRay.Batch
