import DatafusionRay.Proofs.ChannelDelivery

/-! Sending an error empties the notification slot that the next item expects to
be full. The loop of the exchange goes on after an error, so the first item behind
one makes it panic; further errors do no harm. -/

namespace DatafusionRay.Proofs.Channel
open Streaming Foundation

variable {ρ : Type}

/-- In no schedule does a `send` panic or a reader yield an item from behind an error. -/
def SendsSafely (program : List (StreamResult ρ)) : Prop :=
  ∀ actions exchange, run Exchange.step (.start program) actions = some exchange →
    exchange.panicked = false ∧
      ∀ reader ∈ exchange.readers, reader.yielded <+: pushes (program.takeWhile Except.isOk)

/-- No item stands behind the first error. -/
def ErrorsLast (program : List (StreamResult ρ)) : Prop := ∀ item, .ok item ∉ program.dropWhile Except.isOk

theorem ErrorsLast.tail {result : StreamResult ρ} {rest : List (StreamResult ρ)} (last : ErrorsLast (result :: rest)) :
    ErrorsLast rest := by
  intro item member
  cases result with
  | ok other => exact last item member
  | error error => exact last item (List.mem_cons_of_mem _ (List.dropWhile_subset _ member))

theorem ErrorsLast.behind {error : DataFusionError} {rest : List (StreamResult ρ)}
    (last : ErrorsLast (.error error :: rest)) (item : StreamItem ρ) : .ok item ∉ rest := by
  intro member
  exact last item (List.mem_cons_of_mem _ member)

/-- The drop of the sender has begun. -/
def departing : SenderPhase → Bool
  | .dropping | .cancelling .drop | .cleared .drop _ | .dropped => true
  | _ => false

/-- The slot is full as long as an item is still to be sent. -/
structure Supplied (exchange : Exchange ρ) : Prop where
  input : ErrorsLast exchange.input
  full : ∀ item, .ok item ∈ exchange.input → departing exchange.phase = false → exchange.state.notification ≠ none
  failing : exchange.phase = .cancelling .send ∨ (∃ replaced, exchange.phase = .cleared .send replaced) →
    ∀ item, .ok item ∉ exchange.input
  unbroken : exchange.phase ≠ .pushed none
  unpanicked : exchange.panicked = false

theorem Supplied.start {program : List (StreamResult ρ)} (last : ErrorsLast program) : Supplied (.start program) where
  input := last
  full := by intro item _ _ missing; cases missing
  failing := by rintro (cancelling | ⟨replaced, cleared⟩) <;> contradiction
  unbroken := by intro broken; cases broken
  unpanicked := rfl

private theorem Supplied.push {exchange : Exchange ρ} {item rest} (supplied : Supplied exchange)
    (ready : exchange.phase = .ready) (next : exchange.input = .ok item :: rest) :
    Supplied (exchange.push item rest) where
  input := by
    have last := supplied.input
    rw [next] at last
    exact last.tail
  full := by intro other _ _ missing; cases missing
  failing := by rintro (cancelling | ⟨replaced, cleared⟩) <;> contradiction
  unbroken := by
    intro broken
    have missing : exchange.state.notification = none := SenderPhase.pushed.inj broken
    exact supplied.full item (by rw [next]; exact List.mem_cons_self) (by rw [ready]; rfl) missing
  unpanicked := supplied.unpanicked

private theorem Supplied.fail {exchange : Exchange ρ} {error rest} (supplied : Supplied exchange)
    (next : exchange.input = .error error :: rest) :
    Supplied ({ exchange with input := rest }.cancel .send (.error error)) := by
  have last := supplied.input
  rw [next] at last
  constructor
  · exact last.tail
  · intro item member
    exact False.elim (last.behind item member)
  · intro _ item
    exact last.behind item
  · intro broken
    cases broken
  · exact supplied.unpanicked

/-- A move of the sender that keeps the slot, and only leaves a phase for one that asks no more of it. -/
private theorem Supplied.quiet {exchange after : Exchange ρ} (supplied : Supplied exchange)
    (input : after.input = exchange.input) (panicked : after.panicked = exchange.panicked)
    (full : ∀ item, .ok item ∈ exchange.input → departing after.phase = false → after.state.notification ≠ none)
    (settled : after.phase ≠ .cancelling .send ∧ ∀ replaced, after.phase ≠ .cleared .send replaced)
    (unbroken : after.phase ≠ .pushed none) : Supplied after where
  input := input ▸ supplied.input
  full := input ▸ full
  failing := by
    rintro (cancelling | ⟨replaced, cleared⟩)
    · exact False.elim (settled.1 cancelling)
    · exact False.elim (settled.2 replaced cleared)
  unbroken := unbroken
  unpanicked := panicked.trans supplied.unpanicked

private theorem Supplied.depart {exchange after : Exchange ρ} (supplied : Supplied exchange)
    (input : after.input = exchange.input) (panicked : after.panicked = exchange.panicked)
    (departs : departing after.phase = true) : Supplied after := by
  apply supplied.quiet input panicked
  · intro item _ staying
    rw [departs] at staying
    cases staying
  · constructor
    · intro cancelling
      rw [cancelling] at departs
      cases departs
    · intro replaced cleared
      rw [cleared] at departs
      cases departs
  · intro broken
    rw [broken] at departs
    cases departs

private theorem Supplied.clear {exchange : Exchange ρ} {caller : CancelCaller} (supplied : Supplied exchange)
    (cancelling : exchange.phase = .cancelling caller) : Supplied (exchange.clear caller) := by
  cases caller with
  | drop => exact supplied.depart rfl rfl rfl
  | send =>
    have none := supplied.failing (.inl cancelling)
    constructor
    · exact supplied.input
    · intro item member
      exact False.elim (none item member)
    · intro _
      exact none
    · intro broken
      cases broken
    · exact supplied.unpanicked

private theorem Supplied.resume {exchange after : Exchange ρ} {caller : CancelCaller} {replaced : Option Nat}
    (supplied : Supplied exchange) (cleared : exchange.phase = .cleared caller replaced)
    (input : after.input = exchange.input) (panicked : after.panicked = exchange.panicked)
    (phase : after.phase = Exchange.afterCancel caller) : Supplied after := by
  cases caller with
  | drop => exact supplied.depart input panicked (by rw [phase]; rfl)
  | send =>
    apply supplied.quiet input panicked
    · intro item member
      exact False.elim (supplied.failing (.inr ⟨replaced, cleared⟩) item member)
    · rw [phase]
      constructor
      · intro cancelling
        cases cancelling
      · intro other again
        cases again
    · rw [phase]
      intro broken
      cases broken

private theorem Supplied.notify {exchange : Exchange ρ} {replaced : Nat} (supplied : Supplied exchange)
    (pushed : exchange.phase = .pushed (some replaced)) :
    Supplied { exchange with state := exchange.state.notify replaced, phase := .ready } := by
  refine supplied.quiet rfl rfl ?_ ⟨?_, ?_⟩ ?_
  · intro item member _
    exact supplied.full item member (by rw [pushed]; rfl)
  · intro cancelling
    cases cancelling
  · intro other cleared
    cases cleared
  · intro broken
    cases broken

theorem Supplied.move {before after : Exchange ρ} {action : ExchangeAction} (moved : Move before action after)
    (supplied : Supplied before) : Supplied after := by
  cases moved with
  | push ready next => exact supplied.push ready next
  | fail _ next => exact supplied.fail next
  | notify pushed => exact supplied.notify pushed
  | panic pushed => exact False.elim (supplied.unbroken pushed)
  | clear cancelling => exact supplied.clear cancelling
  | wakeAll cleared => exact supplied.resume cleared rfl rfl rfl
  | resume cleared => exact supplied.resume cleared rfl rfl rfl
  | finish _ _ | drop _ | abort _ => exact supplied.depart rfl rfl rfl
  | openReader | reader _ _ => exact { supplied with }

section Panics
variable {exchange : Exchange ρ} {rest : List (StreamResult ρ)}

private theorem sends_item {item : StreamItem ρ} {notification : Nat} (ready : exchange.phase = .ready)
    (next : exchange.input = .ok item :: rest) (full : exchange.state.notification = some notification) :
    ∃ after, run Exchange.step exchange [.sender, .sender] = some after ∧ after.phase = .ready ∧ after.input = rest := by
  have pushed : exchange.step .sender = some (exchange.push item rest) := by
    simp only [Exchange.step, Exchange.senderStep, ready, next]
  have notified : (exchange.push item rest).step .sender = some { exchange.push item rest with
      state := (exchange.push item rest).state.notify notification, phase := .ready } := by
    simp only [Exchange.step, Exchange.senderStep, Exchange.push, full]
  exact ⟨_, run_cons_eq_some.mpr ⟨_, pushed, run_cons_eq_some.mpr ⟨_, notified, rfl⟩⟩, rfl, rfl⟩

private theorem item_panics {item : StreamItem ρ} (ready : exchange.phase = .ready)
    (next : exchange.input = .ok item :: rest) (empty : exchange.state.notification = none) :
    ∃ after, run Exchange.step exchange [.sender, .sender] = some after ∧ after.panicked = true := by
  have pushed : exchange.step .sender = some (exchange.push item rest) := by
    simp only [Exchange.step, Exchange.senderStep, ready, next]
  have panics : (exchange.push item rest).step .sender = some { exchange.push item rest with
      phase := .dropping, panicked := true } := by
    simp only [Exchange.step, Exchange.senderStep, Exchange.push, empty]
  exact ⟨_, run_cons_eq_some.mpr ⟨_, pushed, run_cons_eq_some.mpr ⟨_, panics, rfl⟩⟩, rfl⟩

/-- The exchange after the two halves of a cancel with an error. -/
private def closed (exchange : Exchange ρ) (error : DataFusionError) (rest : List (StreamResult ρ)) : Exchange ρ :=
  ({ exchange with input := rest }.cancel .send (.error error)).clear .send

private theorem sends_error {error : DataFusionError} (ready : exchange.phase = .ready)
    (next : exchange.input = .error error :: rest) :
    ∃ after, run Exchange.step exchange [.sender, .sender, .sender] = some after ∧ after.phase = .ready ∧
      after.input = rest ∧ after.state.notification = none := by
  have cancelled : exchange.step .sender = some ({ exchange with input := rest }.cancel .send (.error error)) := by
    simp only [Exchange.step, Exchange.senderStep, ready, next]
  have cleared : ({ exchange with input := rest }.cancel .send (.error error)).step .sender =
      some (closed exchange error rest) := rfl
  have phase : (closed exchange error rest).phase = .cleared .send exchange.state.notification := rfl
  have resumed : ∃ after, (closed exchange error rest).step .sender = some after ∧ after.phase = .ready ∧
      after.input = rest ∧ after.state.notification = none := by
    simp only [Exchange.step, Exchange.senderStep, phase]
    cases exchange.state.notification with
    | none => exact ⟨_, rfl, rfl, rfl, rfl⟩
    | some replaced => exact ⟨_, rfl, rfl, rfl, rfl⟩
  obtain ⟨after, stepped, again, remaining, empty⟩ := resumed
  refine ⟨after, ?_, again, remaining, empty⟩
  exact run_cons_eq_some.mpr ⟨_, cancelled, run_cons_eq_some.mpr ⟨_, cleared, run_cons_eq_some.mpr ⟨_, stepped, rfl⟩⟩⟩

/-- Once the slot is empty, errors keep it so until the next item panics. -/
private theorem panics_behind_error (ready : exchange.phase = .ready) (empty : exchange.state.notification = none)
    {item : StreamItem ρ} (member : .ok item ∈ exchange.input) :
    ∃ actions after, run Exchange.step exchange actions = some after ∧ after.panicked = true := by
  induction input : exchange.input generalizing exchange with
  | nil =>
    rw [input] at member
    cases member
  | cons result rest ih =>
    cases result with
    | ok first =>
      obtain ⟨after, executed, panicked⟩ := item_panics ready input empty
      exact ⟨_, after, executed, panicked⟩
    | error error =>
      obtain ⟨middle, started, again, remaining, still⟩ := sends_error ready input
      rw [input] at member
      have later : .ok item ∈ middle.input := by
        rw [remaining]
        exact (List.mem_cons.mp member).resolve_left (by intro same; cases same)
      obtain ⟨actions, after, executed, panicked⟩ := ih again still later remaining
      exact ⟨_, after, run_trans started executed, panicked⟩

private theorem panics_of_item_behind (ready : exchange.phase = .ready) {item : StreamItem ρ}
    (member : .ok item ∈ exchange.input.dropWhile Except.isOk) :
    ∃ actions after, run Exchange.step exchange actions = some after ∧ after.panicked = true := by
  induction input : exchange.input generalizing exchange with
  | nil =>
    rw [input] at member
    cases member
  | cons result rest ih =>
    rw [input] at member
    cases result with
    | error error =>
      obtain ⟨middle, started, again, remaining, empty⟩ := sends_error ready input
      have later : .ok item ∈ middle.input := by
        rw [remaining]
        exact (List.mem_cons.mp member).resolve_left (by intro same; cases same)
      obtain ⟨actions, after, executed, panicked⟩ := panics_behind_error again empty later
      exact ⟨_, after, run_trans started executed, panicked⟩
    | ok first =>
      cases slot : exchange.state.notification with
      | none =>
        obtain ⟨after, executed, panicked⟩ := item_panics ready input slot
        exact ⟨_, after, executed, panicked⟩
      | some notification =>
        obtain ⟨middle, started, again, remaining⟩ := sends_item ready input slot
        have later : .ok item ∈ middle.input.dropWhile Except.isOk := by
          rw [remaining]
          exact member
        obtain ⟨actions, after, executed, panicked⟩ := ih again later remaining
        exact ⟨_, after, run_trans started executed, panicked⟩

end Panics

private theorem pushes_of_errorsLast {program : List (StreamResult ρ)} (last : ErrorsLast program) :
    pushes program = pushes (program.takeWhile Except.isOk) := by
  induction program with
  | nil => rfl
  | cons result rest ih =>
    cases result with
    | ok item =>
      have later := ih last.tail
      rw [List.takeWhile_cons_of_pos rfl]
      exact congrArg (List.cons item) later
    | error error =>
      rw [List.takeWhile_cons_of_neg (by intro same; cases same), pushes, List.filterMap_eq_nil_iff.mpr]
      · rfl
      · intro other member
        cases other with
        | ok item => exact False.elim (last item member)
        | error later => rfl

/-- Sending is safe if and only if no item follows an error. -/
theorem sends_safely_iff (program : List (StreamResult ρ)) :
    SendsSafely program ↔ ∀ item, .ok item ∉ program.dropWhile Except.isOk := by
  constructor
  · intro safe item member
    obtain ⟨actions, after, executed, panicked⟩ := @panics_of_item_behind _ (.start program) rfl item member
    rw [(safe actions after executed).1] at panicked
    cases panicked
  · intro last actions exchange executed
    refine ⟨(moves_preserve Supplied.move executed (.start last)).unpanicked, fun reader member => ?_⟩
    have delivers := run_delivers executed
    obtain ⟨sends, split, pushed⟩ := delivers.consumed
    have sent : exchange.state.vec <+: pushes program := by
      rw [pushed, split, pushes, pushes, List.filterMap_append]
      exact List.prefix_append _ _
    rw [← pushes_of_errorsLast last, (delivers.readers reader member).yielded]
    exact (List.take_prefix _ _).trans sent

/-- A marker behind an error: the send panics, and the drop that follows then lets a
reader have the marker and end without the error. -/
theorem item_behind_error_panics :
    (run Exchange.step (.start ([.error (.execution "disk full"), .ok (.marker ⟨1⟩)] : List (StreamResult Nat)))
      [.openReader, .sender, .sender, .sender, .sender, .sender, .sender, .sender, .sender, .reader 0, .reader 0,
        .reader 0]).map
        (fun exchange => (exchange.panicked, exchange.readers.map fun reader => (reader.yielded, reader.phase))) =
      some (true, [([.marker ⟨1⟩], .ended)]) := by decide

end DatafusionRay.Proofs.Channel
