import Mathlib.Data.List.Basic

/-! A first-in first-out channel with a fixed number of places between one sender and one
receiver. An operation that has to wait has no result. -/

namespace DatafusionRay.Foundation

structure BoundedChannel (α : Type) where
  capacity : Nat
  queue : List α
  senderGone : Bool
  receiverGone : Bool
  bounded : queue.length ≤ capacity

namespace BoundedChannel
variable {α : Type}

def new (capacity : Nat) : BoundedChannel α := ⟨capacity, [], false, false, Nat.zero_le _⟩

/-- Waits for a free place, and fails if nobody will receive. -/
def send (channel : BoundedChannel α) (value : α) : Option (Except Unit (BoundedChannel α)) :=
  if channel.receiverGone then some (.error ())
  else if room : channel.queue.length < channel.capacity then
    some (.ok { channel with
      queue := channel.queue ++ [value]
      bounded := by
        rw [List.length_append]
        exact room })
  else none

/-- Waits for a value, and has none once the sender is gone and the queue is empty. -/
def recv (channel : BoundedChannel α) : Option (Option α × BoundedChannel α) :=
  match channel.queue.head? with
  | some value =>
    some (some value, { channel with
      queue := channel.queue.tail
      bounded := by
        rw [List.length_tail]
        exact Nat.le_trans (Nat.sub_le _ _) channel.bounded })
  | none => if channel.senderGone then some (none, channel) else none

def dropSender (channel : BoundedChannel α) : BoundedChannel α := { channel with senderGone := true }

/-- What is still in the queue is dropped with the receiver. -/
def dropReceiver (channel : BoundedChannel α) : BoundedChannel α :=
  { channel with queue := [], receiverGone := true, bounded := Nat.zero_le _ }

variable {channel next : BoundedChannel α} {value : α}

theorem send_eq_ok (sent : channel.send value = some (.ok next)) :
    ∃ bounded, next = ⟨channel.capacity, channel.queue ++ [value], channel.senderGone, channel.receiverGone, bounded⟩ := by
  rw [send] at sent
  split at sent
  · cases sent
  · split at sent
    · cases sent
      exact ⟨_, rfl⟩
    · cases sent

theorem send_eq_error {failed : Unit} (sent : channel.send value = some (.error failed)) : channel.receiverGone = true := by
  rw [send] at sent
  split at sent
  next gone => exact gone
  next =>
    split at sent
    · cases sent
    · cases sent

/-- With its receiver, a channel makes a sender wait only as long as it is full. -/
theorem send_waits (present : channel.receiverGone = false) (waits : channel.send value = none) :
    channel.queue.length = channel.capacity := by
  rw [send, present, if_neg Bool.false_ne_true] at waits
  split at waits
  · cases waits
  next full => exact Nat.le_antisymm channel.bounded (Nat.le_of_not_lt full)

theorem recv_eq_some (received : channel.recv = some (some value, next)) :
    ∃ rest bounded, channel.queue = value :: rest ∧
      next = ⟨channel.capacity, rest, channel.senderGone, channel.receiverGone, bounded⟩ := by
  obtain ⟨capacity, queue, senderGone, receiverGone, bounded⟩ := channel
  cases queue with
  | nil =>
    rw [recv] at received
    simp only [List.head?_nil] at received
    split at received <;> cases received
  | cons first rest =>
    cases received
    exact ⟨rest, _, rfl, rfl⟩

theorem recv_eq_none (received : channel.recv = some (none, next)) :
    channel.queue = [] ∧ channel.senderGone = true ∧ next = channel := by
  rw [recv] at received
  split at received
  · cases received
  next empty =>
    split at received
    next gone =>
      cases received
      exact ⟨List.head?_eq_none_iff.mp empty, gone, rfl⟩
    next => cases received

/-- A receiver waits only for an empty channel whose sender may still send. -/
theorem recv_waits (waits : channel.recv = none) : channel.queue = [] ∧ channel.senderGone = false := by
  rw [recv] at waits
  split at waits
  · cases waits
  next empty =>
    split at waits
    · cases waits
    next present => exact ⟨List.head?_eq_none_iff.mp empty, Bool.eq_false_iff.mpr present⟩

end BoundedChannel

end DatafusionRay.Foundation
