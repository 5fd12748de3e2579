import DatafusionRay.Batch.Prefetch
import DatafusionRay.Foundation.Execution

/-! Reading ahead loses nothing. Every batch of the input is with the stream's reader, in
the channel, in the hands of the task or still ahead of it, in the order of the input; and
as long as the reader stays and the input does not panic, one of the two sides can go on. -/

namespace DatafusionRay.Proofs.Prefetching
open Batch Foundation PrefetchStream

variable {ρ : Type}

section Moves

inductive Move (stream : PrefetchStream ρ) : Action → PrefetchStream ρ → Prop where
  | read {batch rest} (reading : stream.task = .reading) (more : stream.inputStream = batch :: rest) :
      Move stream .next { stream with inputStream := rest, task := .sending batch }
  | finish (reading : stream.task = .reading) (done : stream.inputStream = []) :
      Move stream .next { stream with task := .finished, channel := stream.channel.dropSender }
  | interrupt (reading : stream.task = .reading) :
      Move stream .inputPanics { stream with task := .panicked, channel := stream.channel.dropSender }
  | send {batch channel} (sending : stream.task = .sending batch) (sent : stream.channel.send batch = some (.ok channel)) :
      Move stream .send { stream with task := .reading, channel }
  | refuse {batch} (sending : stream.task = .sending batch) (gone : stream.channel.receiverGone = true) :
      Move stream .send { stream with task := .panicked, channel := stream.channel.dropSender }
  | receive {batch channel} (present : stream.channel.receiverGone = false)
      (received : stream.channel.recv = some (some batch, channel)) :
      Move stream .recv { stream with yielded := stream.yielded ++ [batch], channel }
  | close {channel} (listening : stream.ended = false) (received : stream.channel.recv = some (none, channel)) :
      Move stream .recv { stream with ended := true, channel }
  | drop : Move stream .drop { stream with channel := stream.channel.dropReceiver }

theorem move_of_step {stream next : PrefetchStream ρ} {action : Action} (stepped : stream.step action = some next) :
    Move stream action next := by
  cases action with
  | next =>
    simp only [step] at stepped
    split at stepped
    next reading more => cases stepped; exact .read reading more
    next reading done => cases stepped; exact .finish reading done
    next => cases stepped
  | inputPanics =>
    simp only [step] at stepped
    split at stepped
    next reading => cases stepped; exact .interrupt reading
    next => cases stepped
  | send =>
    simp only [step] at stepped
    split at stepped
    next sending =>
      split at stepped
      next sent => cases stepped; exact .send sending sent
      next refused => cases stepped; exact .refuse sending (BoundedChannel.send_eq_error refused)
      next => cases stepped
    next => cases stepped
  | recv =>
    simp only [step] at stepped
    split at stepped
    next => cases stepped
    next polled =>
      obtain ⟨listening, present⟩ := Bool.or_eq_false_iff.mp (Bool.eq_false_iff.mpr polled)
      split at stepped
      next received => cases stepped; exact .receive present received
      next received => cases stepped; exact .close listening received
      next => cases stepped
  | drop =>
    simp only [step] at stepped
    split at stepped
    next => cases stepped
    next => cases stepped; exact .drop

end Moves

/-- The batch that the task has taken from the input and not yet sent. -/
def held : ConsumeTask ρ → List (BatchResult ρ)
  | .sending batch => [batch]
  | _ => []

/-- What has been read and not yet been yielded. -/
def ahead (stream : PrefetchStream ρ) : List (BatchResult ρ) := stream.channel.queue ++ held stream.task

def halted : ConsumeTask ρ → Bool
  | .finished | .panicked => true
  | _ => false

structure Accounts (bufSize : Nat) (items : List (BatchResult ρ)) (stream : PrefetchStream ρ) : Prop where
  capacity : stream.channel.capacity = bufSize
  yielded : stream.yielded <+: items
  order : stream.channel.receiverGone = false → stream.yielded ++ ahead stream ++ stream.inputStream = items
  sender : stream.channel.senderGone = halted stream.task
  finished : stream.task = .finished → stream.inputStream = []
  listening : halted stream.task = false → stream.ended = false
  ended : stream.ended = true → stream.channel.queue = []

section Accounts
variable {bufSize : Nat} {items : List (BatchResult ρ)} {stream next : PrefetchStream ρ} {action : Action}

theorem start_accounts : Accounts bufSize items (.start bufSize items) where
  capacity := rfl
  yielded := List.nil_prefix
  order _ := rfl
  sender := rfl
  finished := nofun
  listening _ := rfl
  ended := nofun

theorem step_accounts (stepped : stream.step action = some next) (accounts : Accounts bufSize items stream) :
    Accounts bufSize items next := by
  cases move_of_step stepped with
  | read reading more =>
    have working : halted stream.task = false := congrArg halted reading
    refine ⟨accounts.capacity, accounts.yielded, fun present => ?_, accounts.sender.trans working, fun finished => ?_,
      fun _ => accounts.listening working, accounts.ended⟩
    · rw [← accounts.order present, more]
      simp [ahead, reading, held]
    · cases finished
  | finish reading done =>
    refine ⟨accounts.capacity, accounts.yielded, fun present => ?_, rfl, fun _ => done, fun working => ?_, accounts.ended⟩
    · rw [← accounts.order present]
      simp [ahead, reading, held, BoundedChannel.dropSender]
    · cases working
  | interrupt reading =>
    refine ⟨accounts.capacity, accounts.yielded, fun present => ?_, rfl, fun finished => ?_, fun working => ?_,
      accounts.ended⟩
    · rw [← accounts.order present]
      simp [ahead, reading, held, BoundedChannel.dropSender]
    · cases finished
    · cases working
  | send sending sent =>
    have working : halted stream.task = false := congrArg halted sending
    obtain ⟨bounded, rfl⟩ := BoundedChannel.send_eq_ok sent
    refine ⟨accounts.capacity, accounts.yielded, fun present => ?_, accounts.sender.trans working, fun finished => ?_,
      fun _ => accounts.listening working, fun ended => ?_⟩
    · rw [← accounts.order present]
      simp [ahead, sending, held]
    · cases finished
    · cases (accounts.listening working).symm.trans ended
  | refuse sending gone =>
    refine ⟨accounts.capacity, accounts.yielded, fun present => ?_, rfl, fun finished => ?_, fun working => ?_,
      accounts.ended⟩
    · cases gone.symm.trans present
    · cases finished
    · cases working
  | receive present received =>
    obtain ⟨rest, bounded, queued, rfl⟩ := BoundedChannel.recv_eq_some received
    have order := accounts.order present
    rw [ahead, queued] at order
    refine ⟨accounts.capacity, ⟨rest ++ held stream.task ++ stream.inputStream, ?_⟩, fun _ => ?_, accounts.sender,
      accounts.finished, accounts.listening, fun ended => ?_⟩
    · rw [← order]
      simp
    · rw [← order]
      simp [ahead]
    · cases queued.symm.trans (accounts.ended ended)
  | close listening received =>
    obtain ⟨empty, gone, rfl⟩ := BoundedChannel.recv_eq_none received
    refine { accounts with listening := fun working => ?_, ended := fun _ => empty }
    cases (gone.symm.trans accounts.sender).trans working
  | drop =>
    refine { accounts with order := fun present => ?_, ended := fun _ => rfl }
    cases present

theorem run_accounts {actions : List Action} (executed : run step (.start bufSize items) actions = some stream) :
    Accounts bufSize items stream :=
  run_preserves (fun _ _ _ stepped accounts => step_accounts stepped accounts) executed start_accounts

theorem Accounts.ahead_le (accounts : Accounts bufSize items stream) : (ahead stream).length ≤ bufSize + 1 := by
  have bounded := stream.channel.bounded
  rw [accounts.capacity] at bounded
  rw [ahead, List.length_append]
  apply Nat.add_le_add bounded
  cases stream.task <;> simp [held]

end Accounts

/-- The reader stays and the input does not panic. -/
def Undisturbed (action : Action) : Prop := action ≠ .inputPanics ∧ action ≠ .drop

def Intact (stream : PrefetchStream ρ) : Prop := stream.task ≠ .panicked ∧ stream.channel.receiverGone = false

/-- What is left to do: three actions for each batch, and one for each side to come to its end. -/
def work (stream : PrefetchStream ρ) : Nat :=
  3 * stream.inputStream.length + 2 * (held stream.task).length + stream.channel.queue.length +
    (if halted stream.task then 0 else 1) + (if stream.ended then 0 else 1)

section Undisturbed
variable {bufSize : Nat} {items : List (BatchResult ρ)} {stream next : PrefetchStream ρ} {action : Action}

theorem step_intact (stepped : stream.step action = some next) (undisturbed : Undisturbed action) (intact : Intact stream) :
    Intact next := by
  cases move_of_step stepped with
  | read | finish => exact ⟨nofun, intact.2⟩
  | interrupt => exact absurd rfl undisturbed.1
  | send sending sent =>
    obtain ⟨bounded, rfl⟩ := BoundedChannel.send_eq_ok sent
    exact ⟨nofun, intact.2⟩
  | refuse sending gone => cases gone.symm.trans intact.2
  | receive present received =>
    obtain ⟨rest, bounded, queued, rfl⟩ := BoundedChannel.recv_eq_some received
    exact intact
  | close listening received =>
    obtain ⟨empty, gone, rfl⟩ := BoundedChannel.recv_eq_none received
    exact intact
  | drop => exact absurd rfl undisturbed.2

theorem step_work (stepped : stream.step action = some next) (undisturbed : Undisturbed action) (intact : Intact stream) :
    work next < work stream := by
  cases move_of_step stepped with
  | read reading more =>
    simp only [work, reading, more, held, halted, List.length_cons, List.length_nil, Bool.false_eq_true, if_false]
    omega
  | finish reading done =>
    simp [work, reading, held, halted, BoundedChannel.dropSender]
  | interrupt => exact absurd rfl undisturbed.1
  | send sending sent =>
    obtain ⟨bounded, rfl⟩ := BoundedChannel.send_eq_ok sent
    simp only [work, sending, held, halted, List.length_append, List.length_cons, List.length_nil, Bool.false_eq_true, if_false]
    omega
  | refuse sending gone => cases gone.symm.trans intact.2
  | receive present received =>
    obtain ⟨rest, bounded, queued, rfl⟩ := BoundedChannel.recv_eq_some received
    simp only [work, queued, List.length_cons]
    omega
  | close listening received =>
    obtain ⟨empty, gone, rfl⟩ := BoundedChannel.recv_eq_none received
    simp [work, listening]
  | drop => exact absurd rfl undisturbed.2

/-- As long as the stream has not ended, its reader or the task can go on. -/
theorem Accounts.progress (accounts : Accounts bufSize items stream) (positive : 0 < bufSize) (intact : Intact stream)
    (listening : stream.ended = false) : ∃ action, Undisturbed action ∧ (stream.step action).isSome := by
  have polled : (stream.ended || stream.channel.receiverGone) = false := by rw [listening, intact.2]; rfl
  cases received : stream.channel.recv with
  | some result =>
    obtain ⟨value, channel⟩ := result
    refine ⟨.recv, ⟨nofun, nofun⟩, ?_⟩
    cases value <;> simp [step, polled, received]
  | none =>
    obtain ⟨empty, present⟩ := BoundedChannel.recv_waits received
    rw [accounts.sender] at present
    cases task : stream.task with
    | reading =>
      refine ⟨.next, ⟨nofun, nofun⟩, ?_⟩
      cases input : stream.inputStream <;> simp [step, task, input]
    | sending batch =>
      refine ⟨.send, ⟨nofun, nofun⟩, ?_⟩
      cases sent : stream.channel.send batch with
      | some result => cases result <;> simp [step, task, sent]
      | none =>
        have full := BoundedChannel.send_waits intact.2 sent
        rw [empty, accounts.capacity] at full
        exact absurd full.symm (Nat.ne_of_gt positive)
    | finished => rw [task] at present; cases present
    | panicked => exact absurd task intact.1

theorem Accounts.complete (accounts : Accounts bufSize items stream) (intact : Intact stream) (ended : stream.ended = true) :
    stream.yielded = items := by
  have order := accounts.order intact.2
  cases task : stream.task with
  | reading => cases (accounts.listening (congrArg halted task)).symm.trans ended
  | sending batch => cases (accounts.listening (congrArg halted task)).symm.trans ended
  | panicked => exact absurd task intact.1
  | finished =>
    rw [ahead, accounts.ended ended, task, accounts.finished task] at order
    simpa [held] using order

end Undisturbed

/-- Whatever the schedule, the stream yields the batches and errors of the input in their
order, and at most one more than the buffer holds is read ahead of it. If its reader stays
and the input does not panic, no schedule goes on for ever, and one that cannot go on has
ended the stream with everything the input had. -/
theorem prefetch_lossless {bufSize : Nat} {items : List (BatchResult ρ)} {opened stream : PrefetchStream ρ}
    {actions : List Action} (executed : PrefetchExec.execute bufSize (.ok items) = .ok opened)
    (ran : run step opened actions = some stream) :
    stream.yielded <+: items ∧ (ahead stream).length ≤ bufSize + 1 ∧
      ((∀ action ∈ actions, Undisturbed action) →
        stream.yielded ++ ahead stream ++ stream.inputStream = items ∧ actions.length ≤ 3 * items.length + 2 ∧
        ((∀ action, Undisturbed action → stream.step action = none) → stream.ended = true ∧ stream.yielded = items)) := by
  rw [PrefetchExec.execute] at executed
  split at executed
  next => cases executed
  next positive =>
    split at executed
    next => cases executed
    next =>
      cases executed
      have accounts := run_accounts ran
      refine ⟨accounts.yielded, accounts.ahead_le, fun undisturbed => ?_⟩
      have initial : Intact (.start bufSize items : PrefetchStream ρ) := ⟨nofun, rfl⟩
      obtain ⟨intact, short⟩ := guarded_length (fun _ _ _ stepped undisturbed intact =>
        ⟨step_intact stepped undisturbed intact, step_work stepped undisturbed intact⟩) ran
        (guarded_of_forall _ undisturbed) initial
      have whole : work (.start bufSize items : PrefetchStream ρ) = 3 * items.length + 2 := rfl
      refine ⟨accounts.order intact.2, by omega, fun stuck => ?_⟩
      have ended : stream.ended = true := by
        by_contra listening
        obtain ⟨action, allowed, enabled⟩ :=
          accounts.progress (Nat.pos_of_ne_zero positive) intact (Bool.eq_false_iff.mpr listening)
        rw [stuck action allowed] at enabled
        cases enabled
      exact ⟨ended, accounts.complete intact ended⟩

/-- A batch and an error behind it. -/
def twoItems : List (BatchResult Nat) := [.ok ⟨[1, 2]⟩, .error (.execution "connection reset")]

/-- The second item is taken from the input while the first one fills the buffer. -/
def readAhead : List Action := [.next, .send, .next, .recv, .send, .next, .recv, .recv]

def afterReadAhead : PrefetchStream Nat := (run step (.start 1 twoItems) readAhead).getD (.start 1 twoItems)

theorem two_items_prefetched :
    PrefetchExec.execute 1 (.ok twoItems) = .ok (.start 1 twoItems) ∧
      run step (.start 1 twoItems) readAhead = some afterReadAhead ∧
      afterReadAhead.ended = true ∧ afterReadAhead.yielded = twoItems := by
  have executed : PrefetchExec.execute 1 (.ok twoItems) = .ok (.start 1 twoItems) := rfl
  have ran : run step (.start 1 twoItems) readAhead = some afterReadAhead := rfl
  have undisturbed : ∀ action ∈ readAhead, Undisturbed action := by
    unfold Undisturbed
    decide
  have stuck (action : Action) (allowed : Undisturbed action) : afterReadAhead.step action = none := by
    cases action with
    | next | send | recv => rfl
    | inputPanics => exact absurd rfl allowed.1
    | drop => exact absurd rfl allowed.2
  obtain ⟨-, -, lossless⟩ := prefetch_lossless executed ran
  exact ⟨executed, ran, (lossless undisturbed).2.2 stuck⟩

end DatafusionRay.Proofs.Prefetching
