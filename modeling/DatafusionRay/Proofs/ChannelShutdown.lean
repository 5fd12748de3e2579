import DatafusionRay.Proofs.ChannelDelivery

/-! The drop of the sender sets the status and clears the notification under two
locks, and a reader checks the one and reads the other under the same two locks.
A reader fails exactly when the clear falls between its check and its read while
it has no item left to take. -/

namespace DatafusionRay.Proofs.Channel
open Streaming Foundation

variable {ρ : Type}

/-- The reader saw a running channel and has already yielded all of its items. -/
def Caught (exchange : Exchange ρ) (reader : Reader ρ) : Prop :=
  reader.phase = .reading false ∧ reader.index = exchange.state.vec.length

instance (exchange : Exchange ρ) : DecidablePred (Caught exchange) :=
  fun _ => inferInstanceAs (Decidable (_ ∧ _))

/-- The second half of the drop is not taken while some reader is caught. -/
def ClearsUncaught (exchange : Exchange ρ) (action : ExchangeAction) : Prop :=
  action = .sender → exchange.phase = .cancelling .drop → ∀ reader ∈ exchange.readers, ¬ Caught exchange reader

instance (exchange : Exchange ρ) (action : ExchangeAction) : Decidable (ClearsUncaught exchange action) :=
  inferInstanceAs (Decidable (_ → _ → ∀ reader ∈ exchange.readers, ¬ Caught exchange reader))

def cleared : SenderPhase → Bool
  | .cleared .drop _ | .dropped => true
  | _ => false

/-- The writing side of an exchange whose input holds no error. -/
structure Sending (exchange : Exchange ρ) : Prop where
  input : ∀ result ∈ exchange.input, ∃ item, result = .ok item
  uncancelled : exchange.phase ≠ .cancelling .send ∧ ∀ replaced, exchange.phase ≠ .cleared .send replaced
  unbroken : exchange.phase ≠ .pushed none
  status : ∀ error, exchange.state.status ≠ .error error
  absent : exchange.state.notification = none → cleared exchange.phase = true

private theorem leaving_of_cleared {phase : SenderPhase} (shut : cleared phase = true) : leaving phase = true := by
  cases phase with
  | cleared caller _ => cases caller <;> simp_all [cleared, leaving]
  | _ => simp_all [cleared, leaving]

theorem Sending.start {program : List (StreamResult ρ)}
    (sends : ∀ result ∈ program, ∃ item, result = .ok item) : Sending (.start program) where
  input := sends
  uncancelled := ⟨nofun, nofun⟩
  unbroken := nofun
  status := nofun
  absent := nofun

private theorem Sending.notification_ne_none {exchange : Exchange ρ} (sending : Sending exchange)
    (opened : cleared exchange.phase = false) : exchange.state.notification ≠ none := by
  intro missing
  rw [sending.absent missing] at opened
  cases opened

private theorem Sending.push {exchange : Exchange ρ} {item rest} (sending : Sending exchange)
    (ready : exchange.phase = .ready) (next : exchange.input = .ok item :: rest) :
    Sending (exchange.push item rest) where
  input result member := sending.input result (by rw [next]; exact List.mem_cons_of_mem _ member)
  uncancelled := ⟨nofun, nofun⟩
  unbroken broken := sending.notification_ne_none (by rw [ready]; rfl) (SenderPhase.pushed.inj broken)
  status := sending.status
  absent := nofun

private theorem Sending.drop {exchange : Exchange ρ} (sending : Sending exchange)
    (opened : cleared exchange.phase = false) : Sending exchange.beginDrop where
  input := sending.input
  uncancelled := ⟨nofun, nofun⟩
  unbroken := nofun
  status := nofun
  absent missing := False.elim (sending.notification_ne_none opened missing)

private theorem Sending.clear {exchange : Exchange ρ} {caller : CancelCaller} (sending : Sending exchange)
    (cancelling : exchange.phase = .cancelling caller) : Sending (exchange.clear caller) := by
  cases caller with
  | send => exact False.elim (sending.uncancelled.1 cancelling)
  | drop =>
    exact ⟨sending.input, ⟨nofun, nofun⟩, nofun, sending.status, fun _ => rfl⟩

private theorem Sending.quiet {exchange after : Exchange ρ} (sending : Sending exchange)
    (input : after.input = exchange.input) (status : after.state.status = exchange.state.status)
    (notification : after.state.notification = exchange.state.notification)
    (uncancelled : after.phase ≠ .cancelling .send ∧ ∀ replaced, after.phase ≠ .cleared .send replaced)
    (unbroken : after.phase ≠ .pushed none)
    (clears : cleared after.phase = cleared exchange.phase) : Sending after where
  input := by rw [input]; exact sending.input
  uncancelled := uncancelled
  unbroken := unbroken
  status := by rw [status]; exact sending.status
  absent := by rw [notification, clears]; exact sending.absent

private theorem Sending.resume {exchange : Exchange ρ} {state : DataChannelState ρ} {caller : CancelCaller}
    {replaced : Option Nat} (sending : Sending exchange) (clear : exchange.phase = .cleared caller replaced)
    (status : state.status = exchange.state.status)
    (notification : state.notification = exchange.state.notification) :
    Sending { exchange with state, phase := Exchange.afterCancel caller } := by
  cases caller with
  | send => exact False.elim (sending.uncancelled.2 _ clear)
  | drop =>
    exact sending.quiet rfl status notification ⟨nofun, nofun⟩ nofun (by rw [clear]; rfl)

theorem Sending.move {before after : Exchange ρ} {action : ExchangeAction} (moved : Move before action after)
    (sending : Sending before) : Sending after := by
  cases moved with
  | push ready next => exact sending.push ready next
  | fail _ next =>
    obtain ⟨item, impossible⟩ := sending.input _ (by rw [next]; exact List.mem_cons_self)
    cases impossible
  | finish ready _ => exact sending.drop (by rw [ready]; rfl)
  | drop dropping => exact sending.drop (by rw [dropping]; rfl)
  | notify pushed | panic pushed =>
    exact sending.quiet rfl rfl rfl ⟨nofun, nofun⟩ nofun (by rw [pushed]; rfl)
  | abort ready =>
    exact sending.quiet rfl rfl rfl ⟨nofun, nofun⟩ nofun (by rw [ready]; rfl)
  | clear cancelling => exact sending.clear cancelling
  | wakeAll clear => exact sending.resume clear rfl rfl
  | resume clear => exact sending.resume clear rfl rfl
  | openReader | reader _ _ => exact { sending with }

structure Served (vec : List (StreamItem ρ)) (shut : Bool) (reader : Reader ρ) : Prop where
  unfailed : ∀ error, reader.phase ≠ .failed error
  pending : shut = true → reader.phase = .reading false → reader.index < vec.length

def Serves (exchange : Exchange ρ) : Prop :=
  ∀ reader ∈ exchange.readers, Served exchange.state.vec (cleared exchange.phase) reader

private theorem Served.check {program : List (StreamResult ρ)} {exchange : Exchange ρ} {reader : Reader ρ}
    (sending : Sending exchange) (delivers : Delivers program exchange) (member : reader ∈ exchange.readers) :
    Served exchange.state.vec (cleared exchange.phase)
      { reader with phase := Reader.checkStatus exchange.state.status reader.index } := by
  refine ⟨fun error failed => ?_, fun shut reading => ?_⟩
  · rcases checkStatus_failed failed with status | ⟨_, _, status, beyond⟩
    · exact sending.status _ status
    · have valid := (delivers.cancelled _ _ status).2
      have within := (delivers.readers reader member).bounded
      omega
  · obtain ⟨_, status⟩ := delivers.left (leaving_of_cleared shut)
    rw [checkStatus_reading_false reading] at status
    cases status

private theorem Served.move {program : List (StreamResult ρ)} {exchange : Exchange ρ} {reader next : Reader ρ}
    (sending : Sending exchange) (delivers : Delivers program exchange) (serves : Serves exchange)
    (member : reader ∈ exchange.readers) (moved : ReaderMove exchange.state reader next) :
    Served exchange.state.vec (cleared exchange.phase) next := by
  cases moved with
  | check _ => exact .check sending delivers member
  | take _ _ | finish _ _ _ | wait _ _ _ | wake _ _ => exact ⟨nofun, nofun⟩
  | @closed isFinished reading missing absent =>
    have beyond := List.getElem?_eq_none_iff.mp missing
    have inside : reader.index < exchange.state.vec.length := by
      cases isFinished with
      | true => exact ((delivers.readers reader member).behind reading).2
      | false => exact (serves reader member).pending (sending.absent absent) reading
    omega

private theorem Serves.quiet {exchange after : Exchange ρ} (serves : Serves exchange)
    (readers : after.readers = exchange.readers)
    (unshut : cleared after.phase = true → cleared exchange.phase = true ∧ after.state.vec = exchange.state.vec) :
    Serves after := by
  intro reader member
  rw [readers] at member
  refine ⟨(serves reader member).unfailed, fun shut reading => ?_⟩
  obtain ⟨already, vec⟩ := unshut shut
  exact vec ▸ (serves reader member).pending already reading

private theorem Serves.move {program : List (StreamResult ρ)} {before after : Exchange ρ}
    {action : ExchangeAction} (moved : Move before action after) (uncaught : ClearsUncaught before action)
    (sending : Sending before) (delivers : Delivers program before) (serves : Serves before) : Serves after := by
  cases moved with
  | push _ _ | fail _ _ | notify _ | panic _ | finish _ _ | drop _ | abort _ => exact serves.quiet rfl nofun
  | @clear caller cancelling =>
    cases caller with
    | send => exact False.elim (sending.uncancelled.1 cancelling)
    | drop =>
      intro reader member
      refine ⟨(serves reader member).unfailed, fun _ reading => ?_⟩
      have within := (delivers.readers reader member).bounded
      exact Nat.lt_of_le_of_ne within fun complete => uncaught rfl cancelling reader member ⟨reading, complete⟩
  | @wakeAll caller _ clear | @resume caller clear =>
    cases caller with
    | send => exact False.elim (sending.uncancelled.2 _ clear)
    | drop => exact serves.quiet rfl fun _ => ⟨by rw [clear]; rfl, rfl⟩
  | openReader =>
    intro reader member
    rcases List.mem_append.mp member with old | new
    · exact serves reader old
    · cases List.mem_singleton.mp new
      exact ⟨nofun, nofun⟩
  | reader found moved =>
    intro other member
    rcases List.mem_or_eq_of_mem_set member with old | rfl
    · exact serves other old
    · have served := Served.move sending delivers serves (List.mem_of_getElem? found) moved
      exact served

private theorem run_serves {program : List (StreamResult ρ)} {actions : List ExchangeAction} {exchange : Exchange ρ}
    (sends : ∀ result ∈ program, ∃ item, result = .ok item)
    (executed : run Exchange.step (.start program) actions = some exchange)
    (guarded : Guarded Exchange.step ClearsUncaught (.start program) actions) :
    Sending exchange ∧ Delivers program exchange ∧ Serves exchange := by
  have kept (before : Exchange ρ) (action : ExchangeAction) (after : Exchange ρ)
      (stepped : before.step action = some after) (uncaught : ClearsUncaught before action)
      (valid : Sending before ∧ Delivers program before ∧ Serves before) :
      Sending after ∧ Delivers program after ∧ Serves after := by
    obtain ⟨sending, delivers, serves⟩ := valid
    have moved := step_moves stepped
    exact ⟨sending.move moved, delivers.move moved, serves.move moved uncaught sending delivers⟩
  exact guarded_preserves kept executed guarded ⟨.start sends, .start program, nofun⟩

private theorem caught_reader_fails {exchange : Exchange ρ} {reader : Reader ρ} {position : Nat}
    (cancelling : exchange.phase = .cancelling .drop) (found : exchange.readers[position]? = some reader)
    (caught : Caught exchange reader) :
    run Exchange.step exchange [.sender, .reader position] = some { exchange.clear .drop with
      readers := exchange.readers.set position
        { reader with phase := .failed (.execution "Channel has been closed") } } := by
  have missing : exchange.state.vec[reader.index]? = none :=
    List.getElem?_eq_none_iff.mpr (Nat.le_of_eq caught.2.symm)
  simp [run, Exchange.step, Exchange.senderStep, cancelling, Exchange.clear, found, Reader.step, caught.1,
    Reader.readNext, DataChannelState.clearNotification, missing]

/-- While every clear step leaves no reader caught, no reader fails; the first
clear that does catch a reader can be followed by that reader's failure. -/
theorem no_reader_fails (program : List (StreamResult ρ)) (sends : ∀ result ∈ program, ∃ item, result = .ok item)
    (actions : List ExchangeAction) (exchange : Exchange ρ)
    (executed : run Exchange.step (.start program) actions = some exchange)
    (guarded : Guarded Exchange.step ClearsUncaught (.start program) actions) :
    (∀ reader ∈ exchange.readers, ∀ error, reader.phase ≠ .failed error) ∧
      (¬ ClearsUncaught exchange .sender → ∃ position after,
        run Exchange.step exchange [.sender, .reader position] = some after ∧
        ∃ reader ∈ after.readers, reader.phase = .failed (.execution "Channel has been closed")) := by
  refine ⟨fun reader member => ((run_serves sends executed guarded).2.2 reader member).unfailed,
    fun unguarded => ?_⟩
  simp only [ClearsUncaught, forall_const, not_forall, not_not] at unguarded
  obtain ⟨cancelling, reader, member, caught⟩ := unguarded
  obtain ⟨position, inside, found⟩ := List.mem_iff_getElem.mp member
  refine ⟨position, _, caught_reader_fails cancelling (List.getElem?_eq_some_iff.mpr ⟨inside, found⟩) caught,
    _, List.mem_set inside _, rfl⟩

/-- The clean schedule: the reader drains the channel before the drop begins and
checks the status again only after it is over. -/
theorem no_reader_fails_after_drop :
    ∃ exchange, run Exchange.step (.start twoSends) waitThenDrain = some exchange ∧
      ∀ reader ∈ exchange.readers, ∀ error, reader.phase ≠ .failed error := by
  obtain ⟨exchange, executed⟩ := Option.isSome_iff_exists.mp
    (by decide : (run Exchange.step (.start twoSends) waitThenDrain).isSome = true)
  refine ⟨exchange, executed, (no_reader_fails twoSends ?_ waitThenDrain exchange executed ?_).1⟩
  · simp [twoSends]
  · decide

/-- The reader has yielded the only item and seen a running channel when the drop sets and clears. -/
theorem drop_fails_caught_reader :
    (run Exchange.step (.start ([.ok (.marker ⟨1⟩)] : List (StreamResult Nat)))
      [.openReader, .sender, .sender, .reader 0, .reader 0, .reader 0, .sender, .sender, .reader 0]).map
        (fun exchange => exchange.readers.map fun reader => (reader.yielded, reader.phase)) =
      some [([.marker ⟨1⟩], .failed (.execution "Channel has been closed"))] := by decide

end DatafusionRay.Proofs.Channel
