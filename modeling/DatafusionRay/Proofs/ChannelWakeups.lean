import DatafusionRay.Proofs.ChannelMoves

/-! A reader waits on a copy of the channel's notification, while the sender swaps
that notification under the lock and fires the old one after it. Whatever a
reader still waits on is either in the channel or in the sender's hands. -/

namespace DatafusionRay.Proofs.Channel
open Streaming Foundation

variable {ρ : Type}

/-- The sender has taken the notification out of the channel and has yet to fire it. -/
def Firing (phase : SenderPhase) (notification : Nat) : Prop :=
  phase = .pushed (some notification) ∨ ∃ caller, phase = .cleared caller (some notification)

/-- The notification is still in the channel, which has not got to the reader's index. -/
def Pending (state : DataChannelState ρ) (reader : Reader ρ) (notification : Nat) : Prop :=
  state.notification = some notification ∧ state.vec[reader.index]? = none

structure Wakes (exchange : Exchange ρ) : Prop where
  taken : (exchange.phase = .dropped ∨ ∃ caller replaced, exchange.phase = .cleared caller replaced) →
    exchange.state.notification = none
  awaited : ∀ reader ∈ exchange.readers, ∀ notification, reader.phase = .waiting notification →
    notification ∉ exchange.state.notified →
      Pending exchange.state reader notification ∨ Firing exchange.phase notification

theorem Wakes.start (program : List (StreamResult ρ)) : Wakes (Exchange.start program) where
  taken := by rintro (impossible | ⟨_, _, impossible⟩) <;> cases impossible
  awaited := nofun

section Sender
variable {before : Exchange ρ} (wakes : Wakes before)
include wakes

private theorem Wakes.pending (idle : ∀ notification, ¬ Firing before.phase notification) {reader : Reader ρ}
    (member : reader ∈ before.readers) {notification : Nat} (waiting : reader.phase = .waiting notification)
    (unfired : notification ∉ before.state.notified) : Pending before.state reader notification := by
  rcases wakes.awaited reader member notification waiting unfired with pending | firing
  · exact pending
  · exact False.elim (idle notification firing)

/-- A step between two locks that fires nothing and takes nothing keeps every wait. -/
private theorem Wakes.between {phase : SenderPhase} {after : Exchange ρ}
    (idle : ∀ notification, ¬ Firing before.phase notification) (next : after.phase = phase)
    (open_ : phase ≠ .dropped ∧ ∀ caller replaced, phase ≠ .cleared caller replaced)
    (notification : after.state.notification = before.state.notification) (vec : after.state.vec = before.state.vec)
    (notified : after.state.notified = before.state.notified) (readers : after.readers = before.readers) :
    Wakes after where
  taken := by
    rintro (dropped | ⟨caller, replaced, cleared⟩)
    · exact absurd (next.symm.trans dropped) open_.1
    · exact absurd (next.symm.trans cleared) (open_.2 caller replaced)
  awaited := by
    intro reader member awaited waiting unfired
    rw [readers] at member
    rw [notified] at unfired
    have pending := wakes.pending idle member waiting unfired
    exact .inl ⟨notification.trans pending.1, vec ▸ pending.2⟩

/-- Firing the notification that was taken wakes those who wait on it. -/
private theorem Wakes.fire {replaced : Nat} {phase : SenderPhase} (firing : ∀ other, Firing before.phase other → other = replaced)
    (closed : phase = .dropped → before.state.notification = none)
    (uncleared : ∀ caller replaced, phase ≠ .cleared caller replaced) :
    Wakes { before with state := before.state.notify replaced, phase } where
  taken := by
    rintro (dropped | ⟨caller, other, cleared⟩)
    · exact closed dropped
    · exact absurd cleared (uncleared caller other)
  awaited := by
    intro reader member notification waiting unfired
    rw [DataChannelState.notify, List.mem_cons, not_or] at unfired
    rcases wakes.awaited reader member notification waiting unfired.2 with pending | held
    · exact .inl pending
    · exact absurd (firing notification held) unfired.1

end Sender

private theorem not_firing {phase idle : SenderPhase} (at_ : phase = idle)
    (pushed : ∀ replaced, idle ≠ .pushed (some replaced)) (cleared : ∀ caller replaced, idle ≠ .cleared caller replaced)
    (notification : Nat) : ¬ Firing phase notification := by
  rintro (same | ⟨caller, same⟩)
  · exact pushed notification (at_.symm.trans same)
  · exact cleared caller _ (at_.symm.trans same)

private theorem Wakes.push {before : Exchange ρ} (wakes : Wakes before) (ready : before.phase = .ready)
    (item : StreamItem ρ) (rest : List (StreamResult ρ)) : Wakes (before.push item rest) where
  taken := by rintro (impossible | ⟨_, _, impossible⟩) <;> cases impossible
  awaited := by
    intro reader member notification waiting unfired
    have pending := wakes.pending (not_firing ready nofun nofun) member waiting unfired
    exact .inr (.inl (congrArg SenderPhase.pushed pending.1))

private theorem Wakes.clear {before : Exchange ρ} (wakes : Wakes before) {caller : CancelCaller}
    (cancelling : before.phase = .cancelling caller) : Wakes (before.clear caller) where
  taken := fun _ => rfl
  awaited := by
    intro reader member notification waiting unfired
    have pending := wakes.pending (not_firing cancelling nofun nofun) member waiting unfired
    exact .inr (.inr ⟨caller, congrArg (SenderPhase.cleared caller) pending.1⟩)

private theorem checkStatus_not_waiting {status : ChannelStatus} {index : Nat} (notification : Nat) :
    Reader.checkStatus status index ≠ .waiting notification := by
  intro same
  cases status with
  | running | finished | error _ => cases same
  | cancelled _ _ =>
    simp only [Reader.checkStatus] at same
    split at same
    · cases same
    · split at same <;> cases same

/-- A reader starts to wait only when it has found no item and cloned what the channel holds. -/
private theorem Wakes.reader {before : Exchange ρ} (wakes : Wakes before) {position : Nat} {reader next : Reader ρ}
    (moved : ReaderMove before.state reader next) :
    Wakes { before with readers := before.readers.set position next } where
  taken := wakes.taken
  awaited := by
    intro other member notification waiting unfired
    rcases List.mem_or_eq_of_mem_set member with old | rfl
    · exact wakes.awaited other old notification waiting unfired
    · cases moved with
      | check _ => exact absurd waiting (checkStatus_not_waiting _)
      | take _ _ | finish _ _ _ | closed _ _ _ | wake _ _ => cases waiting
      | wait _ missing present =>
        cases waiting
        exact .inl ⟨present, missing⟩

theorem Wakes.move {before after : Exchange ρ} {action : ExchangeAction} (moved : Move before action after)
    (wakes : Wakes before) : Wakes after := by
  cases moved with
  | push ready _ => exact wakes.push ready _ _
  | clear cancelling => exact wakes.clear cancelling
  | notify pushed =>
    refine wakes.fire (fun other firing => ?_) nofun nofun
    rw [pushed] at firing
    rcases firing with same | ⟨_, impossible⟩
    · cases same
      rfl
    · cases impossible
  | @wakeAll caller replaced cleared =>
    refine wakes.fire (fun other firing => ?_) (fun _ => wakes.taken (.inr ⟨_, _, cleared⟩)) ?_
    · rw [cleared] at firing
      rcases firing with impossible | ⟨_, same⟩
      · cases impossible
      · cases same
        rfl
    · cases caller <;> nofun
  | @resume caller cleared =>
    have gone := wakes.taken (.inr ⟨_, _, cleared⟩)
    refine ⟨fun _ => gone, fun reader member notification waiting unfired => ?_⟩
    rcases wakes.awaited reader member notification waiting unfired with pending | firing
    · exact .inl pending
    · rw [cleared] at firing
      rcases firing with impossible | ⟨_, impossible⟩ <;> cases impossible
  | fail idle _ | finish idle _ | abort idle | panic idle | drop idle =>
    exact wakes.between (not_firing idle nofun nofun) rfl ⟨nofun, nofun⟩ rfl rfl rfl rfl
  | openReader =>
    refine ⟨wakes.taken, fun reader member notification waiting unfired => ?_⟩
    rcases List.mem_append.mp member with old | new
    · exact wakes.awaited reader old notification waiting unfired
    · cases List.mem_singleton.mp new
      cases waiting
  | reader _ moved => exact wakes.reader moved

/-- No reader waits for a notification that nobody will fire: it is still in the
channel, which has nothing for the reader and is not dropped, or the sender has
just taken it out and fires it next. -/
theorem no_lost_wakeup (program : List (StreamResult ρ)) (actions : List ExchangeAction) (exchange : Exchange ρ)
    (executed : run Exchange.step (.start program) actions = some exchange) (reader : Reader ρ)
    (member : reader ∈ exchange.readers) (notification : Nat) (waiting : reader.phase = .waiting notification)
    (unfired : notification ∉ exchange.state.notified) :
    (exchange.state.vec[reader.index]? = none ∧ exchange.phase ≠ .dropped ∧
        exchange.state.notification = some notification) ∨
      Firing exchange.phase notification := by
  have wakes := moves_preserve (fun moved => Wakes.move moved) executed (Wakes.start program)
  rcases wakes.awaited reader member notification waiting unfired with pending | firing
  · refine .inl ⟨pending.2, fun dropped => ?_, pending.1⟩
    have none := wakes.taken (.inl dropped)
    rw [pending.1] at none
    cases none
  · exact .inr firing

/-- A reader that came before the first item: the item is in, its notification about to be fired. -/
theorem early_reader_woken :
    run Exchange.step (.start [.ok (.marker ⟨7⟩)]) [.openReader, .reader 0, .reader 0, .sender] =
        some (⟨⟨[.marker ⟨7⟩], some 1, .running, 2, []⟩, ⟨1, 7⟩, .pushed (some 0), [], false, [⟨0, [], .waiting 0⟩]⟩ :
          Exchange Nat) ∧
      Firing (.pushed (some 0)) 0 := by
  refine ⟨rfl, ?_⟩
  rcases @no_lost_wakeup Nat [.ok (.marker ⟨7⟩)] [.openReader, .reader 0, .reader 0, .sender] _ rfl ⟨0, [], .waiting 0⟩
    List.mem_cons_self 0 rfl List.not_mem_nil with ⟨missing, _⟩ | firing
  · cases missing
  · exact firing

end DatafusionRay.Proofs.Channel
