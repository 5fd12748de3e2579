import DatafusionRay.Proofs.ChannelMoves

/-! Every reader of an exchange channel replays the pushed items from the start,
and can only end cleanly after the sender's drop has fixed the last of them. -/

namespace DatafusionRay.Proofs.Channel
open Streaming Foundation

variable {ρ : Type}

def pushes (sends : List (StreamResult ρ)) : List (StreamItem ρ) := sends.filterMap Except.toOption

/-- The drop of the sender has set the channel's final status. -/
def leaving : SenderPhase → Bool
  | .cancelling .drop | .cleared .drop _ | .dropped => true
  | _ => false

/-- What a reader knows of the items pushed so far. -/
structure Replays (vec : List (StreamItem ρ)) (left : Bool) (reader : Reader ρ) : Prop where
  yielded : reader.yielded = vec.take reader.index
  bounded : reader.index ≤ vec.length
  behind : reader.phase = .reading true → left = true ∧ reader.index < vec.length
  ended : reader.phase = .ended → left = true ∧ reader.index = vec.length

structure Delivers (program : List (StreamResult ρ)) (exchange : Exchange ρ) : Prop where
  consumed : ∃ sends, program = sends ++ exchange.input ∧ exchange.state.vec = pushes sends
  counted : exchange.sender.nextIndex = exchange.state.vec.length
  unfinished : exchange.state.status ≠ .finished
  cancelled : ∀ lastCheckpoint validUntil, exchange.state.status = .cancelled lastCheckpoint validUntil →
    leaving exchange.phase = true ∧ validUntil = exchange.state.vec.length
  left : leaving exchange.phase = true →
    ∃ lastCheckpoint, exchange.state.status = .cancelled lastCheckpoint exchange.state.vec.length
  readers : ∀ reader ∈ exchange.readers, Replays exchange.state.vec (leaving exchange.phase) reader

theorem Delivers.start (program : List (StreamResult ρ)) : Delivers program (.start program) where
  consumed := ⟨[], rfl, rfl⟩
  counted := rfl
  unfinished := nofun
  cancelled := nofun
  left := nofun
  readers := nofun

private theorem Replays.leave {vec : List (StreamItem ρ)} {left later : Bool} {reader : Reader ρ}
    (replays : Replays vec left reader) (kept : left = true → later = true) : Replays vec later reader :=
  ⟨replays.yielded, replays.bounded, fun reading => (replays.behind reading).imp_left kept,
    fun ended => (replays.ended ended).imp_left kept⟩

private theorem Replays.push {vec : List (StreamItem ρ)} {reader : Reader ρ} (item : StreamItem ρ)
    (replays : Replays vec false reader) : Replays (vec ++ [item]) false reader where
  yielded := by rw [List.take_append_of_le_length replays.bounded, replays.yielded]
  bounded := by
    have := replays.bounded
    simp only [List.length_append]
    omega
  behind reading := nomatch (replays.behind reading).1
  ended ended := nomatch (replays.ended ended).1

/-- The status check lets a reader end only at the index the drop recorded. -/
private theorem Replays.check {exchange : Exchange ρ} {program : List (StreamResult ρ)} {reader : Reader ρ}
    (delivers : Delivers program exchange)
    (replays : Replays exchange.state.vec (leaving exchange.phase) reader) :
    Replays exchange.state.vec (leaving exchange.phase)
      { reader with phase := Reader.checkStatus exchange.state.status reader.index } := by
  refine ⟨replays.yielded, replays.bounded, fun reading => ?_, fun ended => ?_⟩
  · rcases checkStatus_reading_true reading with finished | ⟨_, _, status, before⟩
    · exact False.elim (delivers.unfinished finished)
    · obtain ⟨left, valid⟩ := delivers.cancelled _ _ status
      exact ⟨left, valid ▸ before⟩
  · obtain ⟨_, status⟩ := checkStatus_ended ended
    exact delivers.cancelled _ _ status

private theorem Replays.take {vec : List (StreamItem ρ)} {left : Bool} {reader : Reader ρ} {item : StreamItem ρ}
    (replays : Replays vec left reader) (found : vec[reader.index]? = some item) :
    Replays vec left ⟨reader.index + 1, reader.yielded ++ [item], .checking⟩ where
  yielded := by rw [List.take_add_one, found, replays.yielded]; rfl
  bounded := (List.getElem?_eq_some_iff.mp found).1
  behind := nofun
  ended := nofun

theorem Replays.move {exchange : Exchange ρ} {program : List (StreamResult ρ)} {reader next : Reader ρ}
    (delivers : Delivers program exchange)
    (replays : Replays exchange.state.vec (leaving exchange.phase) reader)
    (moved : ReaderMove exchange.state reader next) :
    Replays exchange.state.vec (leaving exchange.phase) next := by
  cases moved with
  | check _ => exact replays.check delivers
  | take _ found => exact replays.take found
  | finish reading missing _ =>
    have beyond := List.getElem?_eq_none_iff.mp missing
    have inside := (replays.behind reading).2
    omega
  | wait _ _ _ | closed _ _ _ | wake _ _ => exact ⟨replays.yielded, replays.bounded, nofun, nofun⟩

private theorem Delivers.push {program : List (StreamResult ρ)} {exchange : Exchange ρ} {item rest}
    (delivers : Delivers program exchange) (ready : exchange.phase = .ready)
    (next : exchange.input = .ok item :: rest) : Delivers program (exchange.push item rest) where
  consumed := by
    obtain ⟨sends, split, pushed⟩ := delivers.consumed
    refine ⟨sends ++ [.ok item], by rw [split, next]; simp [Exchange.push], ?_⟩
    simp [Exchange.push, DataChannelState.pushBack, pushed, pushes, Except.toOption]
  counted := by
    have := delivers.counted
    cases item <;> simp [Exchange.push, DataChannelSender.advance, DataChannelState.pushBack, this]
  unfinished := delivers.unfinished
  cancelled lastCheckpoint validUntil status := by
    have left := (delivers.cancelled _ _ status).1
    rw [ready] at left
    cases left
  left := nofun
  readers reader member := by
    have replays := delivers.readers reader member
    rw [ready] at replays
    exact Replays.push item replays

private theorem Delivers.fail {program : List (StreamResult ρ)} {exchange : Exchange ρ} {error rest}
    (delivers : Delivers program exchange) (ready : exchange.phase = .ready)
    (next : exchange.input = .error error :: rest) :
    Delivers program ({ exchange with input := rest }.cancel .send (.error error)) where
  consumed := by
    obtain ⟨sends, split, pushed⟩ := delivers.consumed
    refine ⟨sends ++ [.error error], by rw [split, next]; simp [Exchange.cancel], ?_⟩
    simp [Exchange.cancel, DataChannelState.setStatus, pushed, pushes, Except.toOption]
  counted := delivers.counted
  unfinished := nofun
  cancelled := nofun
  left := nofun
  readers reader member := by
    refine (delivers.readers reader member).leave fun left => ?_
    rw [ready] at left
    cases left

private theorem Delivers.drop {program : List (StreamResult ρ)} {exchange : Exchange ρ}
    (delivers : Delivers program exchange) : Delivers program exchange.beginDrop where
  consumed := delivers.consumed
  counted := delivers.counted
  unfinished := nofun
  cancelled lastCheckpoint validUntil status := by
    simp only [Exchange.beginDrop, Exchange.cancel, DataChannelState.setStatus, ChannelStatus.cancelled.injEq] at status
    exact ⟨rfl, status.2.symm.trans delivers.counted⟩
  left _ := ⟨_, congrArg (ChannelStatus.cancelled exchange.sender.lastCheckpoint) delivers.counted⟩
  readers reader member := (delivers.readers reader member).leave fun _ => rfl

private theorem Delivers.quiet {program : List (StreamResult ρ)} {exchange after : Exchange ρ}
    (delivers : Delivers program exchange) (input : after.input = exchange.input)
    (vec : after.state.vec = exchange.state.vec) (status : after.state.status = exchange.state.status)
    (sender : after.sender = exchange.sender) (readers : after.readers = exchange.readers)
    (leaves : leaving after.phase = leaving exchange.phase) : Delivers program after where
  consumed := by rw [input, vec]; exact delivers.consumed
  counted := by rw [sender, vec]; exact delivers.counted
  unfinished := by rw [status]; exact delivers.unfinished
  cancelled lastCheckpoint validUntil same := by
    rw [status] at same
    rw [vec, leaves]
    exact delivers.cancelled _ _ same
  left := by rw [leaves, status, vec]; exact delivers.left
  readers := by rw [readers, vec, leaves]; exact delivers.readers

theorem Delivers.move {program : List (StreamResult ρ)} {before after : Exchange ρ} {action : ExchangeAction}
    (moved : Move before action after) (delivers : Delivers program before) : Delivers program after := by
  cases moved with
  | push ready next => exact delivers.push ready next
  | fail ready next => exact delivers.fail ready next
  | finish _ _ | drop _ => exact delivers.drop
  | notify pushed => exact delivers.quiet rfl rfl rfl rfl rfl (by simp [pushed, leaving])
  | panic pushed => exact delivers.quiet rfl rfl rfl rfl rfl (by simp [pushed, leaving])
  | abort ready => exact delivers.quiet rfl rfl rfl rfl rfl (by simp [ready, leaving])
  | @clear caller cancelling =>
    exact delivers.quiet rfl rfl rfl rfl rfl (by cases caller <;> simp [cancelling, leaving, Exchange.clear])
  | @wakeAll caller _ cleared | @resume caller cleared =>
    exact delivers.quiet rfl rfl rfl rfl rfl (by cases caller <;> simp [cleared, leaving, Exchange.afterCancel])
  | openReader =>
    refine { delivers with readers := fun reader member => ?_ }
    rcases List.mem_append.mp member with old | new
    · exact delivers.readers reader old
    · cases List.mem_singleton.mp new
      exact ⟨rfl, Nat.zero_le _, nofun, nofun⟩
  | reader found moved =>
    refine { delivers with readers := fun other member => ?_ }
    rcases List.mem_or_eq_of_mem_set member with old | rfl
    · exact delivers.readers other old
    · have replays := (delivers.readers _ (List.mem_of_getElem? found)).move delivers moved
      exact replays

theorem run_delivers {program : List (StreamResult ρ)} {actions : List ExchangeAction} {exchange : Exchange ρ}
    (executed : run Exchange.step (.start program) actions = some exchange) : Delivers program exchange :=
  moves_preserve Delivers.move executed (.start program)

/-- At every moment of every schedule the yielded items are the first few of
those pushed by the `send` calls made so far, and a clean end has seen them all. -/
theorem reader_yields_sent_items (program : List (StreamResult ρ)) (actions : List ExchangeAction)
    (exchange : Exchange ρ) (executed : run Exchange.step (.start program) actions = some exchange) :
    ∃ sends, program = sends ++ exchange.input ∧ exchange.state.vec = pushes sends ∧
      ∀ reader ∈ exchange.readers, (∃ k ≤ (pushes sends).length, reader.yielded = (pushes sends).take k) ∧
        (reader.phase = .ended → leaving exchange.phase = true ∧ reader.yielded = pushes sends) := by
  have delivers := run_delivers executed
  obtain ⟨sends, split, pushed⟩ := delivers.consumed
  refine ⟨sends, split, pushed, fun reader member => ?_⟩
  have replays := delivers.readers reader member
  rw [pushed] at replays
  refine ⟨⟨_, replays.bounded, replays.yielded⟩, fun ended => ?_⟩
  obtain ⟨left, complete⟩ := replays.ended ended
  exact ⟨left, by rw [replays.yielded, complete, List.take_length]⟩

def twoSends : List (StreamResult Nat) := [.ok (.recordBatch ⟨[1, 2]⟩), .ok (.marker ⟨1⟩)]

def waitThenDrain : List ExchangeAction :=
  [.openReader, .reader 0, .reader 0, .sender, .sender, .reader 0, .reader 0, .reader 0, .sender, .sender,
    .sender, .sender, .sender, .reader 0, .reader 0, .reader 0]

theorem reader_yields_sent_items_drained :
    ∃ exchange, run Exchange.step (.start twoSends) waitThenDrain = some exchange ∧
      ∃ reader ∈ exchange.readers, reader.phase = .ended ∧ reader.yielded = pushes twoSends := by
  obtain ⟨exchange, executed⟩ := Option.isSome_iff_exists.mp
    (by decide : (run Exchange.step (.start twoSends) waitThenDrain).isSome = true)
  obtain ⟨sends, split, pushed, readers⟩ := reader_yields_sent_items twoSends waitThenDrain exchange executed
  refine ⟨exchange, executed, ?_⟩
  have concrete : (run Exchange.step (.start twoSends) waitThenDrain).map
      (fun exchange => (exchange.readers.map Reader.phase, exchange.input.length)) = some ([.ended], 0) := by decide
  rw [executed, Option.map_some, Option.some.injEq, Prod.mk.injEq] at concrete
  obtain ⟨phases, consumed⟩ := concrete
  obtain ⟨reader, only, ended⟩ := List.map_eq_singleton_iff.mp phases
  have member : reader ∈ exchange.readers := by simp [only]
  refine ⟨reader, member, ended, ?_⟩
  rw [((readers reader member).2 ended).2, split, List.eq_nil_of_length_eq_zero consumed, List.append_nil]

end DatafusionRay.Proofs.Channel
