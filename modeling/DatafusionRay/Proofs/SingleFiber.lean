import DatafusionRay.Proofs.FiberProgress

/-! A remote source with one fiber. Nobody else takes part in its barrier, so it
goes on behind every marker at which the answer is not Pause. -/

namespace DatafusionRay.Proofs.Fibers
open Streaming Foundation RunningFibers

variable {ρ : Type} {check : Nat → Except DataFusionError FiberState}

def pauses (check : Nat → Except DataFusionError FiberState) (number : Nat) : Bool :=
  match check number with
  | .ok .pause => true
  | .ok .«continue» | .error _ => false

/-- The markers up to the first one at which the answer is Pause. -/
def reached (check : Nat → Except DataFusionError FiberState) : List Nat → List Nat
  | [] => []
  | number :: rest => number :: if pauses check number then [] else reached check rest

theorem reached_eq_self {numbers : List Nat} (running : ∀ number ∈ numbers, pauses check number = false) :
    reached check numbers = numbers := by
  induction numbers with
  | nil => rfl
  | cons number rest ih =>
    rw [List.forall_mem_cons] at running
    simp [reached, running.1, ih running.2]

theorem reached_append {earlier later : List Nat} {last : Nat}
    (running : ∀ number ∈ earlier, pauses check number = false) (paused : pauses check last = true) :
    reached check (earlier ++ last :: later) = earlier ++ [last] := by
  induction earlier with
  | nil => simp [reached, paused]
  | cons number rest ih =>
    rw [List.forall_mem_cons] at running
    simp [reached, running.1, ih running.2]

/-- How the markers that were put out have been answered. -/
inductive Answered (check : Nat → Except DataFusionError FiberState) (awaited : Option Nat) (fiber : RunningFiber ρ)
    (numbers : List Nat) : Prop where
  | before (phase : fiber.phase = .streaming) (unchecked : ∀ marker rest, fiber.remaining ≠ .check marker :: rest)
      (free : awaited = none) (running : ∀ number ∈ numbers, pauses check number = false)
  | checking {earlier last rest} (phase : fiber.phase = .streaming) (next : fiber.remaining = .check last :: rest)
      (free : awaited = none) (split : numbers = earlier ++ [last.checkpointNumber])
      (running : ∀ number ∈ earlier, pauses check number = false)
  | polling {earlier last} (phase : fiber.phase = .polling last) (split : numbers = earlier ++ [last])
      (running : ∀ number ∈ earlier, pauses check number = false)
  | paused {earlier last} (phase : fiber.phase = .paused) (split : numbers = earlier ++ [last])
      (running : ∀ number ∈ earlier, pauses check number = false) (answer : pauses check last = true)
  | finished (phase : fiber.phase = .finished) (running : ∀ number ∈ numbers, pauses check number = false)

structure Alone (check : Nat → Except DataFusionError FiberState) (items : List (SResult ρ))
    (running : RunningFibers ρ) : Prop where
  calm : running.panicked = false
  queue : running.shared.sharedTriggerState.synchronisationQueue = none
  function : running.shared.sharedTriggerState.computationFunction = none
  fiber : ∃ fiber done, running.fibers = [fiber] ∧ Stands items done fiber ∧
    okItems (running.output.map Prod.snd) = okItems done ∧
    Answered check running.shared.currentlyWaitingOnMarker fiber (markersOf done)

private theorem Alone.start (lastCompletedMarker : Nat) (items : List (SResult ρ)) :
    Alone check items (.start lastCompletedMarker [items]) where
  calm := rfl
  queue := rfl
  function := rfl
  fiber := ⟨_, [], rfl, .start items, rfl, .before rfl (fun _ _ => insertStreamInstructions_ne_check) rfl nofun⟩

private theorem Answered.answer {fiber : RunningFiber ρ} {earlier : List Nat} {last : Nat}
    (unchecked : ∀ marker rest, fiber.remaining ≠ .check marker :: rest)
    (running : ∀ number ∈ earlier, pauses check number = false) :
    Answered check none { fiber with phase := answerPhase (check last) } (earlier ++ [last]) := by
  cases answer : check last with
  | ok state =>
    cases state with
    | pause => exact .paused rfl rfl running (by rw [pauses, answer])
    | «continue» =>
      refine .before rfl unchecked rfl (List.forall_mem_append.mpr ⟨running, ?_⟩)
      simp [pauses, answer]
  | error error =>
    refine .before rfl unchecked rfl (List.forall_mem_append.mpr ⟨running, ?_⟩)
    simp [pauses, answer]

private theorem computeResult_alone {state : InnerQueueState Nat} (queue : state.synchronisationQueue = none)
    (function : state.computationFunction = none) (number : Nat) :
    state.computeResult number = .ok (state, .compute (some number) none) := by
  obtain ⟨count, _, _, created⟩ := state
  cases queue
  cases function
  rfl

private theorem removeParticipant_alone {state : InnerQueueState Nat} (queue : state.synchronisationQueue = none)
    (function : state.computationFunction = none) :
    state.removeParticipant = .ok ({ state with count := state.count - 1 }, .compute none none) := by
  obtain ⟨count, _, _, created⟩ := state
  cases queue
  cases function
  rfl

private theorem Answered.emit {awaited : Option Nat} {fiber : RunningFiber ρ} {items done : List (SResult ρ)}
    {result : SResult ρ} {rest : List (RunningFiberCheckMarker (SResult ρ))} (stands : Stands items done fiber)
    (streaming : fiber.phase = .streaming) (next : fiber.remaining = .item result :: rest)
    (answered : Answered check awaited fiber (markersOf done)) :
    Answered check awaited ⟨rest, .streaming⟩ (markersOf (done ++ [result])) := by
  cases answered with
  | before _ _ free running =>
    rw [markersOf_append]
    rcases (stands.emit streaming next).2 with ⟨marker, later, marked, rfl⟩ | ⟨unmarked, unchecked⟩
    · exact .checking rfl rfl free (by rw [marked]) running
    · exact .before rfl unchecked free (by simpa [unmarked] using running)
  | checking _ check _ _ _ => cases check.symm.trans next
  | polling phase _ _ | paused phase _ _ _ | finished phase _ =>
    rw [streaming] at phase
    cases phase

section Moves
variable {awaited : Option Nat} {fiber : RunningFiber ρ} {numbers : List Nat}
  {rest : List (RunningFiberCheckMarker (SResult ρ))}

private theorem Answered.lock {later : Option Nat} {marker : Marker} (answered : Answered check awaited fiber numbers)
    (streaming : fiber.phase = .streaming) (next : fiber.remaining = .check marker :: rest) :
    Answered check later ⟨rest, .polling marker.checkpointNumber⟩ numbers := by
  cases answered with
  | before _ unchecked _ _ => exact False.elim (unchecked _ _ next)
  | checking _ same _ split running =>
    cases same.symm.trans next
    exact .polling rfl split running
  | polling phase _ _ | paused phase _ _ _ | finished phase _ =>
    rw [streaming] at phase
    cases phase

/-- A fiber in its stream has left nobody waiting for a marker. -/
private theorem Answered.free (answered : Answered check awaited fiber numbers) (streaming : fiber.phase = .streaming) :
    awaited = none := by
  cases answered with
  | before _ _ free _ | checking _ _ free _ _ => exact free
  | polling phase _ _ | paused phase _ _ _ | finished phase _ =>
    rw [streaming] at phase
    cases phase

private theorem Answered.compute {number : Nat} (answered : Answered check awaited fiber numbers)
    (polling : fiber.phase = .polling number) (unchecked : ∀ marker rest, fiber.remaining ≠ .check marker :: rest) :
    Answered check none { fiber with phase := answerPhase (check number) } numbers := by
  cases answered with
  | polling phase same running =>
    cases phase.symm.trans polling
    rw [same]
    exact .answer unchecked running
  | before phase _ _ _ | checking phase _ _ _ _ | paused phase _ _ _ | finished phase _ =>
    rw [polling] at phase
    cases phase

private theorem Answered.finish (answered : Answered check awaited fiber numbers)
    (streaming : fiber.phase = .streaming) (next : fiber.remaining = .finished :: rest) :
    Answered check awaited ⟨rest, .finished⟩ numbers := by
  cases answered with
  | before _ _ _ running => exact .finished rfl running
  | checking _ same _ _ _ => cases same.symm.trans next
  | polling phase _ _ | paused phase _ _ _ | finished phase _ =>
    rw [streaming] at phase
    cases phase

private theorem Answered.unwaiting {channel : Nat} (answered : Answered check awaited fiber numbers) :
    fiber.phase ≠ .waiting channel := by
  intro waiting
  cases answered with
  | before phase _ _ _ | checking phase _ _ _ _ | polling phase _ _ | paused phase _ _ _ | finished phase _ =>
    rw [waiting] at phase
    cases phase

end Moves

private theorem Alone.step {items : List (SResult ρ)} {before after : RunningFibers ρ} {position : Nat}
    (stepped : RunningFibers.step check before position = some after) (alone : Alone check items before) :
    Alone check items after := by
  obtain ⟨current, _, found, moved⟩ := step_moves stepped
  obtain ⟨fiber, done, only, stands, emitted, answered⟩ := alone.fiber
  obtain ⟨rfl, rfl⟩ : position = 0 ∧ current = fiber := by
    rw [only, List.getElem?_singleton] at found
    split at found
    next first => exact ⟨first, (Option.some.inj found).symm⟩
    next => cases found
  cases moved with
  | @emit result rest streaming next =>
    refine ⟨alone.calm, alone.queue, alone.function, ⟨rest, .streaming⟩, done ++ [result], ?_,
      (stands.emit streaming next).1, ?_, answered.emit stands streaming next⟩
    · simp [RunningFibers.emit, setFiber, only, streaming]
    · simp [RunningFibers.emit, setFiber, okItems_append, emitted]
  | @lock marker rest streaming next _ =>
    exact ⟨alone.calm, alone.queue, alone.function, ⟨rest, .polling marker.checkpointNumber⟩, done,
      by simp [setFiber, only], stands.lock streaming next, emitted, answered.lock streaming next⟩
  | conflict streaming next awaited _ =>
    rw [answered.free streaming] at awaited
    cases awaited
  | @compute number polling =>
    obtain ⟨_, _, _, split, last, _, remaining⟩ := stands.polled polling
    rw [RunningFibers.compute, computeResult_alone alone.queue alone.function]
    dsimp only
    rw [settle_eq]
    refine ⟨alone.calm, alone.queue, alone.function, { current with phase := answerPhase (check number) }, done, ?_,
      .answer split last remaining _, ?_, ?_⟩
    · simp [computeAndSend, setTrigger, SharedFiberState.runComputation, only]
    · have errors : okItems (answerItems (check number) : List (SResult ρ)) = [] := okItems_errors (answerItems_errors _)
      simp [computeAndSend, setTrigger, SharedFiberState.runComputation, okItems_append, emitted, errors,
        Function.comp_def]
    · exact answered.compute polling fun _ _ next => insertStreamInstructions_ne_check (remaining.symm.trans next)
  | @finish rest streaming next =>
    rw [RunningFibers.finish, removeParticipant_alone alone.queue alone.function]
    refine ⟨alone.calm, alone.queue, alone.function, ⟨rest, .finished⟩, done, ?_,
      .finished (stands.whole streaming next) rfl, emitted, answered.finish streaming next⟩
    simp [setFiber, setTrigger, only]
  | receive waiting _ => exact False.elim (answered.unwaiting waiting)

theorem run_alone {items : List (SResult ρ)} {lastCompletedMarker : Nat} {actions : List Nat} {running : RunningFibers ρ}
    (executed : run (RunningFibers.step check) (.start lastCompletedMarker [items]) actions = some running) :
    Alone check items running :=
  run_preserves (fun _ _ _ => Alone.step) executed (.start lastCompletedMarker items)

/-- Every fiber's stream has ended, at its end or at a Pause. -/
def Completed (running : RunningFibers ρ) : Prop :=
  running.panicked = false ∧ ∀ fiber ∈ running.fibers, fiber.phase = .finished ∨ fiber.phase = .paused

instance (running : RunningFibers ρ) : Decidable (Completed running) := inferInstanceAs (Decidable (_ ∧ _))

/-- A single fiber puts out its stream up to the first marker at which it is told to pause. -/
theorem Alone.completed {items : List (SResult ρ)} {running : RunningFibers ρ} (alone : Alone check items running)
    (completed : Completed running) :
    ∃ done todo, items = done ++ todo ∧ okItems (running.output.map Prod.snd) = okItems done ∧
      markersOf done = reached check (markersOf items) := by
  obtain ⟨fiber, done, only, stands, emitted, answered⟩ := alone.fiber
  obtain ⟨todo, split⟩ := stands.split
  refine ⟨done, todo, split, emitted, ?_⟩
  rcases completed.2 fiber (by simp [only]) with ended | paused
  · cases answered with
    | finished _ running => rw [stands.ended ended, reached_eq_self running]
    | before phase _ _ _ | checking phase _ _ _ _ | polling phase _ _ | paused phase _ _ _ =>
      rw [ended] at phase
      cases phase
  · cases answered with
    | paused _ same running answer =>
      rw [split, markersOf_append, same, List.append_assoc, List.singleton_append, reached_append running answer]
    | before phase _ _ _ | checking phase _ _ _ _ | polling phase _ _ | finished phase _ =>
      rw [paused] at phase
      cases phase

theorem Alone.whole {items : List (SResult ρ)} {running : RunningFibers ρ} (alone : Alone check items running)
    (completed : Completed running) (continues : ∀ number ∈ markersOf items, pauses check number = false) :
    okItems (running.output.map Prod.snd) = okItems items := by
  obtain ⟨fiber, done, only, stands, emitted, answered⟩ := alone.fiber
  obtain ⟨todo, split⟩ := stands.split
  rw [emitted]
  rcases completed.2 fiber (by simp [only]) with ended | paused
  · rw [stands.ended ended]
  · cases answered with
    | @paused _ last _ same _ answer =>
      have member : last ∈ markersOf items := by
        rw [split, markersOf_append, same]
        exact List.mem_append_left _ (List.mem_append_right _ List.mem_cons_self)
      rw [continues last member] at answer
      cases answer
    | before phase _ _ _ | checking phase _ _ _ _ | polling phase _ _ | finished phase _ =>
      rw [paused] at phase
      cases phase

theorem Alone.completed_of_halted {items : List (SResult ρ)} {running : RunningFibers ρ}
    (alone : Alone check items running) (halted : Halted (RunningFibers.step check) running) : Completed running := by
  obtain ⟨fiber, done, only, stands, emitted, answered⟩ := alone.fiber
  have found : running.fibers[0]? = some fiber := by simp [only]
  have disabled := halted 0
  refine ⟨alone.calm, ?_⟩
  rw [only, List.forall_mem_singleton]
  cases answered with
  | finished phase _ => exact .inl phase
  | paused phase _ _ _ => exact .inr phase
  | before phase _ _ _ | checking phase _ _ _ _ => exact False.elim (stands.enabled phase alone.calm found disabled)
  | polling phase _ _ => simp [RunningFibers.step, alone.calm, found, phase] at disabled

end DatafusionRay.Proofs.Fibers
