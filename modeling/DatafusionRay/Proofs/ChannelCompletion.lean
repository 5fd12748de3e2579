import DatafusionRay.Proofs.ChannelShutdown

/-! When a clean end of a reader means that the exchange has sent all of its
input. The drop overwrites an error status and does not tell an aborted run from
a finished one, so either can be followed by a clean end. -/

namespace DatafusionRay.Proofs.Channel
open Streaming Foundation

variable {ρ : Type}

/-- The drop of an exchange that saw no error and was not aborted follows its whole input. -/
structure Completing (exchange : Exchange ρ) : Prop extends Sending exchange where
  undropped : exchange.phase ≠ .dropping
  complete : leaving exchange.phase = true → exchange.input = []

private theorem Completing.move {before after : Exchange ρ} {action : ExchangeAction}
    (moved : Move before action after) (unaborted : action ≠ .abort) (completing : Completing before) :
    Completing after := by
  refine { completing.toSending.move moved with undropped := ?_, complete := ?_ }
  · cases moved with
    | push _ _ | fail _ _ | notify _ | clear _ | finish _ _ | drop _ => nofun
    | panic pushed => exact False.elim (completing.unbroken pushed)
    | @wakeAll caller _ _ | @resume caller _ => cases caller <;> nofun
    | abort _ => exact False.elim (unaborted rfl)
    | openReader | reader _ _ => exact completing.undropped
  · cases moved with
    | push _ _ | fail _ _ | notify _ => nofun
    | panic pushed => exact False.elim (completing.unbroken pushed)
    | @clear caller cancelling =>
      cases caller with
      | send => nofun
      | drop => exact fun _ => completing.complete (by rw [cancelling]; rfl)
    | @wakeAll caller _ clear | @resume caller clear =>
      cases caller with
      | send => nofun
      | drop => exact fun _ => completing.complete (by rw [clear]; rfl)
    | finish _ consumed => exact fun _ => consumed
    | drop dropping => exact False.elim (completing.undropped dropping)
    | abort _ => exact False.elim (unaborted rfl)
    | openReader | reader _ _ => exact completing.complete

private theorem run_completing {first last : Exchange ρ} {actions : List ExchangeAction}
    (unaborted : .abort ∉ actions) (executed : run Exchange.step first actions = some last)
    (completing : Completing first) : Completing last := by
  have guarded : Guarded Exchange.step (fun _ action => action ≠ .abort) first actions :=
    guarded_of_forall first fun action member same => unaborted (same ▸ member)
  exact guarded_preserves (fun _ _ _ stepped unaborted valid => valid.move (step_moves stepped) unaborted)
    executed guarded completing

def senderRank (exchange : Exchange ρ) : Nat :=
  4 * exchange.input.length + match exchange.phase with
    | .cancelling .send => 5
    | .pushed _ | .cleared .send _ => 4
    | .ready | .dropping => 3
    | .cancelling .drop => 2
    | .cleared .drop _ => 1
    | .dropped => 0

private theorem sender_progress (exchange : Exchange ρ) (undone : exchange.phase ≠ .dropped) :
    ∃ next, exchange.senderStep = some next ∧ senderRank next < senderRank exchange := by
  cases phase : exchange.phase with
  | ready =>
    rcases input : exchange.input with _ | ⟨_ | item, rest⟩
    all_goals
      refine ⟨_, by rw [Exchange.senderStep, phase, input], ?_⟩
      simp only [senderRank, Exchange.beginDrop, Exchange.cancel, Exchange.push, phase, input, List.length_cons]
      omega
  | pushed replaced =>
    cases replaced
    all_goals
      refine ⟨_, by rw [Exchange.senderStep, phase], ?_⟩
      simp only [senderRank, phase]
      omega
  | cancelling caller =>
    refine ⟨_, by rw [Exchange.senderStep, phase], ?_⟩
    cases caller <;> simp [senderRank, Exchange.clear, phase]
  | cleared caller replaced =>
    cases replaced
    all_goals
      refine ⟨_, by rw [Exchange.senderStep, phase], ?_⟩
      cases caller <;> simp [senderRank, Exchange.afterCancel, phase]
  | dropping =>
    refine ⟨_, by rw [Exchange.senderStep, phase], ?_⟩
    simp [senderRank, Exchange.beginDrop, Exchange.cancel, phase]
  | dropped => exact False.elim (undone phase)

/-- Left alone, the writing task always gets through its drop. -/
theorem sender_drops (exchange : Exchange ρ) :
    ∃ actions last, .abort ∉ actions ∧ run Exchange.step exchange actions = some last ∧ last.phase = .dropped := by
  by_cases done : exchange.phase = .dropped
  · exact ⟨[], exchange, nofun, rfl, done⟩
  · obtain ⟨next, stepped, lower⟩ := sender_progress exchange done
    obtain ⟨rest, last, unaborted, executed, dropped⟩ := sender_drops next
    refine ⟨.sender :: rest, last, ?_, run_cons_eq_some.mpr ⟨next, stepped, executed⟩, dropped⟩
    simpa using unaborted
termination_by senderRank exchange

private theorem reader_takes {exchange : Exchange ρ} {position : Nat} {reader : Reader ρ} {lastCheckpoint : Nat}
    {item : StreamItem ρ} (status : exchange.state.status = .cancelled lastCheckpoint exchange.state.vec.length)
    (found : exchange.readers[position]? = some reader) (checking : reader.phase = .checking)
    (present : exchange.state.vec[reader.index]? = some item) :
    run Exchange.step exchange [.reader position, .reader position] = some { exchange with
      readers := exchange.readers.set position ⟨reader.index + 1, reader.yielded ++ [item], .checking⟩ } := by
  have inside : position < exchange.readers.length := (List.getElem?_eq_some_iff.mp found).1
  have before : reader.index < exchange.state.vec.length := (List.getElem?_eq_some_iff.mp present).1
  have checks : reader.step exchange.state = some { reader with phase := .reading true } := by
    simp [Reader.step, checking, Reader.checkStatus, status, Nat.ne_of_lt before, Nat.not_le_of_lt before]
  have takes : ({ reader with phase := .reading true } : Reader ρ).step exchange.state =
      some ⟨reader.index + 1, reader.yielded ++ [item], .checking⟩ := by
    simp [Reader.step, Reader.readNext, present]
  simp only [run, Exchange.step, found, Option.bind_some, checks, Option.map_some, List.getElem?_set_self inside,
    takes, List.set_set]

private theorem reader_drains (exchange : Exchange ρ) {position lastCheckpoint : Nat} {reader : Reader ρ}
    (status : exchange.state.status = .cancelled lastCheckpoint exchange.state.vec.length)
    (found : exchange.readers[position]? = some reader) (checking : reader.phase = .checking)
    (within : reader.index ≤ exchange.state.vec.length) :
    ∃ actions last, .abort ∉ actions ∧ run Exchange.step exchange actions = some last ∧
      last.input = exchange.input ∧ ∃ reader ∈ last.readers, reader.phase = .ended := by
  have inside : position < exchange.readers.length := (List.getElem?_eq_some_iff.mp found).1
  rcases Nat.eq_or_lt_of_le within with complete | before
  · refine ⟨[.reader position],
      { exchange with readers := exchange.readers.set position { reader with phase := .ended } }, by simp, ?_, rfl,
      _, List.mem_set inside _, rfl⟩
    simp [run, Exchange.step, found, Reader.step, checking, Reader.checkStatus, status, complete]
  · have taken := reader_takes status found checking (List.getElem?_eq_getElem before)
    obtain ⟨rest, last, unaborted, executed, input, ended⟩ := reader_drains
      { exchange with
        readers := exchange.readers.set position
          (Reader.mk (reader.index + 1) (reader.yielded ++ [exchange.state.vec[reader.index]]) .checking) }
      status (List.getElem?_set_self inside) rfl before
    exact ⟨_, last, by simpa using unaborted, run_trans taken executed, input, ended⟩
termination_by exchange.state.vec.length - reader.index

private theorem dropped_ends {program : List (StreamResult ρ)} {exchange : Exchange ρ}
    (delivers : Delivers program exchange) (dropped : exchange.phase = .dropped) :
    ∃ actions last, .abort ∉ actions ∧ run Exchange.step exchange actions = some last ∧
      last.input = exchange.input ∧ ∃ reader ∈ last.readers, reader.phase = .ended := by
  obtain ⟨lastCheckpoint, status⟩ := delivers.left (by rw [dropped]; rfl)
  obtain ⟨actions, last, unaborted, drained, input, ended⟩ := reader_drains
    { exchange with readers := exchange.readers ++ [{}] } status List.getElem?_concat_length rfl (Nat.zero_le _)
  exact ⟨.openReader :: actions, last, by simpa using unaborted, run_cons_eq_some.mpr ⟨_, rfl, drained⟩, input, ended⟩

/-- Every clean end follows a complete and error-free input, in every run that
may or may not be aborted. -/
def CleanEndsComplete (mayAbort : Bool) (program : List (StreamResult ρ)) : Prop :=
  ∀ actions exchange, (mayAbort = false → .abort ∉ actions) →
    run Exchange.step (.start program) actions = some exchange →
      ∀ reader ∈ exchange.readers, reader.phase = .ended →
        exchange.input = [] ∧ ∀ error, .error error ∉ program

private theorem errors_end_cleanly {program : List (StreamResult ρ)} {mayAbort : Bool}
    (complete : CleanEndsComplete mayAbort program) (error : DataFusionError) : .error error ∉ program := by
  obtain ⟨before, dropped, quiet, sent, phase⟩ := sender_drops (.start program)
  obtain ⟨after, last, unaborted, drained, _, reader, member, ended⟩ := dropped_ends (run_delivers sent) phase
  refine (complete (before ++ after) last (fun _ => ?_) (run_trans sent drained) reader member ended).2 error
  simp [quiet, unaborted]

private theorem aborts_end_cleanly {program : List (StreamResult ρ)} (complete : CleanEndsComplete true program) :
    program = [] := by
  obtain ⟨dropped, aborted, phase, untouched⟩ : ∃ exchange,
      run Exchange.step (.start program) [.abort, .sender, .sender, .sender] = some exchange ∧
        exchange.phase = .dropped ∧ exchange.input = program := ⟨_, rfl, rfl, rfl⟩
  obtain ⟨after, last, _, drained, input, reader, member, ended⟩ := dropped_ends (run_delivers aborted) phase
  rw [← untouched, ← input]
  exact (complete _ last nofun (run_trans aborted drained) reader member ended).1

/-- A clean end means a complete stream exactly for an input without errors whose
run cannot be aborted (or has nothing to send). -/
theorem clean_ends_complete_iff (mayAbort : Bool) (program : List (StreamResult ρ)) :
    CleanEndsComplete mayAbort program ↔
      (∀ error, .error error ∉ program) ∧ (mayAbort = false ∨ program = []) := by
  constructor
  · intro complete
    refine ⟨errors_end_cleanly complete, ?_⟩
    cases mayAbort with
    | false => exact .inl rfl
    | true => exact .inr (aborts_end_cleanly complete)
  · rintro ⟨clean, allowed⟩ actions exchange unaborted executed reader member ended
    have delivers := run_delivers executed
    have left := ((delivers.readers reader member).ended ended).1
    refine ⟨?_, clean⟩
    rcases allowed with never | empty
    · have sends : ∀ result ∈ program, ∃ item, result = .ok item := by
        intro result found
        cases result with
        | ok item => exact ⟨item, rfl⟩
        | error error => exact False.elim (clean error found)
      exact (run_completing (unaborted never) executed
        { Sending.start sends with undropped := nofun, complete := nofun }).complete left
    · obtain ⟨sends, split, _⟩ := delivers.consumed
      exact (List.append_eq_nil_iff.mp (split.symm.trans empty)).2

/-- A failed input whose only reader is opened after the drop: it ends without an item and without the error. -/
theorem failed_input_ends_cleanly :
    (run Exchange.step (.start ([.error (.execution "disk full")] : List (StreamResult Nat)))
      [.sender, .sender, .sender, .sender, .sender, .sender, .openReader, .reader 0]).map
        (fun exchange => exchange.readers.map fun reader => (reader.yielded, reader.phase)) =
      some [([], .ended)] := by decide

end DatafusionRay.Proofs.Channel
