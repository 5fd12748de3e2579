import DatafusionRay.Foundation.Execution
import DatafusionRay.Streaming.DataChannel

/-! Everything one action of an exchange can do, guards included. The invariants
of the channel are case analyses over these moves and never unfold the step. -/

namespace DatafusionRay.Proofs.Channel
open Streaming Foundation

variable {ρ : Type}

theorem checkStatus_reading_false {status : ChannelStatus} {index : Nat}
    (checked : Reader.checkStatus status index = .reading false) : status = .running := by
  cases status with
  | running => rfl
  | error _ | finished => simp [Reader.checkStatus] at checked
  | cancelled _ _ =>
    simp only [Reader.checkStatus] at checked
    split at checked
    next => cases checked
    next => split at checked <;> cases checked

theorem checkStatus_reading_true {status : ChannelStatus} {index : Nat}
    (checked : Reader.checkStatus status index = .reading true) :
    status = .finished ∨ ∃ lastCheckpoint validUntil,
      status = .cancelled lastCheckpoint validUntil ∧ index < validUntil := by
  cases status with
  | running | error _ => simp [Reader.checkStatus] at checked
  | finished => exact .inl rfl
  | cancelled lastCheckpoint validUntil =>
    simp only [Reader.checkStatus] at checked
    split at checked
    next => cases checked
    next =>
      split at checked
      next => cases checked
      next before => exact .inr ⟨_, _, rfl, Nat.lt_of_not_le before⟩

theorem checkStatus_ended {status : ChannelStatus} {index : Nat}
    (checked : Reader.checkStatus status index = .ended) :
    ∃ lastCheckpoint, status = .cancelled lastCheckpoint index := by
  cases status with
  | running | error _ | finished => simp [Reader.checkStatus] at checked
  | cancelled lastCheckpoint validUntil =>
    simp only [Reader.checkStatus] at checked
    split at checked
    next same => exact ⟨lastCheckpoint, by rw [same]⟩
    next => split at checked <;> cases checked

theorem checkStatus_failed {status : ChannelStatus} {index : Nat} {error : DataFusionError}
    (checked : Reader.checkStatus status index = .failed error) :
    status = .error error ∨ ∃ lastCheckpoint validUntil,
      status = .cancelled lastCheckpoint validUntil ∧ validUntil < index := by
  cases status with
  | running | finished => simp [Reader.checkStatus] at checked
  | error _ =>
    cases checked
    exact .inl rfl
  | cancelled lastCheckpoint validUntil =>
    simp only [Reader.checkStatus] at checked
    split at checked
    next => cases checked
    next other =>
      split at checked
      next beyond => exact .inr ⟨_, _, rfl, by omega⟩
      next => cases checked

inductive ReaderMove (state : DataChannelState ρ) (reader : Reader ρ) : Reader ρ → Prop where
  | check (checking : reader.phase = .checking) :
      ReaderMove state reader { reader with phase := Reader.checkStatus state.status reader.index }
  | take {isFinished item} (reading : reader.phase = .reading isFinished)
      (found : state.vec[reader.index]? = some item) :
      ReaderMove state reader ⟨reader.index + 1, reader.yielded ++ [item], .checking⟩
  | finish {notification} (reading : reader.phase = .reading true)
      (missing : state.vec[reader.index]? = none) (present : state.notification = some notification) :
      ReaderMove state reader { reader with phase := .ended }
  | wait {notification} (reading : reader.phase = .reading false)
      (missing : state.vec[reader.index]? = none) (present : state.notification = some notification) :
      ReaderMove state reader { reader with phase := .waiting notification }
  | closed {isFinished} (reading : reader.phase = .reading isFinished)
      (missing : state.vec[reader.index]? = none) (absent : state.notification = none) :
      ReaderMove state reader { reader with phase := .failed (.execution "Channel has been closed") }
  | wake {notification} (waiting : reader.phase = .waiting notification)
      (fired : notification ∈ state.notified) :
      ReaderMove state reader { reader with phase := .checking }

theorem reader_moves {state : DataChannelState ρ} {reader next : Reader ρ}
    (stepped : reader.step state = some next) : ReaderMove state reader next := by
  unfold Reader.step at stepped
  split at stepped
  next checking =>
    cases stepped
    exact .check checking
  next isFinished reading =>
    cases stepped
    unfold Reader.readNext
    split
    next item found => exact .take reading found
    next missing =>
      split
      next notification present =>
        cases isFinished with
        | true => exact .finish reading missing present
        | false => exact .wait reading missing present
      next absent => exact .closed reading missing absent
  next notification waiting =>
    split at stepped
    next fired =>
      cases stepped
      exact .wake waiting fired
    next => cases stepped
  next => cases stepped
  next => cases stepped

inductive Move (before : Exchange ρ) : ExchangeAction → Exchange ρ → Prop where
  | push {item rest} (ready : before.phase = .ready) (next : before.input = .ok item :: rest) :
      Move before .sender (before.push item rest)
  | fail {error rest} (ready : before.phase = .ready) (next : before.input = .error error :: rest) :
      Move before .sender ({ before with input := rest }.cancel .send (.error error))
  | notify {replaced} (pushed : before.phase = .pushed (some replaced)) :
      Move before .sender { before with state := before.state.notify replaced, phase := .ready }
  | panic (pushed : before.phase = .pushed none) :
      Move before .sender { before with phase := .dropping, panicked := true }
  | clear {caller} (cancelling : before.phase = .cancelling caller) : Move before .sender (before.clear caller)
  | wakeAll {caller replaced} (cleared : before.phase = .cleared caller (some replaced)) :
      Move before .sender { before with state := before.state.notify replaced, phase := Exchange.afterCancel caller }
  | resume {caller} (cleared : before.phase = .cleared caller none) :
      Move before .sender { before with phase := Exchange.afterCancel caller }
  | finish (ready : before.phase = .ready) (consumed : before.input = []) : Move before .sender before.beginDrop
  | drop (dropping : before.phase = .dropping) : Move before .sender before.beginDrop
  | abort (ready : before.phase = .ready) : Move before .abort { before with phase := .dropping }
  | openReader : Move before .openReader { before with readers := before.readers ++ [{}] }
  | reader {position reader next} (found : before.readers[position]? = some reader)
      (moved : ReaderMove before.state reader next) :
      Move before (.reader position) { before with readers := before.readers.set position next }

private theorem sender_moves {before after : Exchange ρ} (stepped : before.senderStep = some after) :
    Move before .sender after := by
  unfold Exchange.senderStep at stepped
  split at stepped
  next ready =>
    split at stepped
    next consumed =>
      cases stepped
      exact .finish ready consumed
    next item rest next =>
      cases stepped
      exact .push ready next
    next error rest next =>
      cases stepped
      exact .fail ready next
  next replaced pushed =>
    cases stepped
    exact .notify pushed
  next pushed =>
    cases stepped
    exact .panic pushed
  next caller cancelling =>
    cases stepped
    exact .clear cancelling
  next caller replaced cleared =>
    cases stepped
    exact .wakeAll cleared
  next caller cleared =>
    cases stepped
    exact .resume cleared
  next dropping =>
    cases stepped
    exact .drop dropping
  next => cases stepped

theorem step_moves {before after : Exchange ρ} {action : ExchangeAction}
    (stepped : before.step action = some after) : Move before action after := by
  cases action with
  | sender => exact sender_moves stepped
  | abort =>
    simp only [Exchange.step] at stepped
    split at stepped
    next ready =>
      cases stepped
      exact .abort ready
    next => cases stepped
  | openReader =>
    cases stepped
    exact .openReader
  | reader position =>
    simp only [Exchange.step, Option.bind_eq_some_iff, Option.map_eq_some_iff] at stepped
    obtain ⟨reader, found, next, moved, rfl⟩ := stepped
    exact .reader found (reader_moves moved)

/-- A property that every move keeps holds after every schedule. -/
theorem moves_preserve {assertion : Exchange ρ → Prop}
    (kept : ∀ {before action after}, Move before action after → assertion before → assertion after)
    {first last : Exchange ρ} {actions : List ExchangeAction}
    (executed : run Exchange.step first actions = some last) (initial : assertion first) : assertion last :=
  run_preserves (fun _ _ _ stepped => kept (step_moves stepped)) executed initial

end DatafusionRay.Proofs.Channel
