import DatafusionRay.Proofs.FiberAlignment

/-! Fibers with any streams and any answers of the shared state. A round of the barrier
ends when all who take part have arrived at the same marker, so a fiber that pauses does
it behind a marker of its own stream for which the answer was Pause. -/

namespace DatafusionRay.Proofs.Fibers
open Streaming Foundation RunningFibers Barrier

variable {ρ : Type} {check : Nat → Except DataFusionError FiberState}

/-- The fiber stands right behind a marker with this number. -/
def Behind (items : List (SResult ρ)) (fiber : RunningFiber ρ) (number : Nat) : Prop :=
  ∃ done marker todo, items = done ++ .ok (.marker marker) :: todo ∧ marker.checkpointNumber = number ∧
    fiber.remaining = insertStreamInstructions todo

theorem Behind.mem {items : List (SResult ρ)} {fiber : RunningFiber ρ} {number : Nat} (behind : Behind items fiber number) :
    number ∈ markersOf items := by
  obtain ⟨done, marker, todo, rfl, rfl, -⟩ := behind
  rw [markersOf_append]
  exact List.mem_append_right _ List.mem_cons_self

theorem Stands.behind {items done : List (SResult ρ)} {fiber : RunningFiber ρ} (stands : Stands items done fiber)
    {number : Nat} (polling : fiber.phase = .polling number) : Behind items fiber number := by
  obtain ⟨before, marker, todo, split, rfl, same, remaining⟩ := stands.polled polling
  exact ⟨before, marker, todo, by rw [split, List.append_assoc, List.singleton_append], same, remaining⟩

/-- Where a fiber is while the shared state waits for a marker, and what it may be told:
`pauses` holds of the markers for which the answer was Pause. -/
inductive Heeds (pauses : Nat → Prop) (shared : SharedFiberState) (items : List (SResult ρ)) (fiber : RunningFiber ρ) :
    Prop where
  | streaming (phase : fiber.phase = .streaming)
  | polling {number} (phase : fiber.phase = .polling number) (behind : Behind items fiber number)
      (awaited : shared.currentlyWaitingOnMarker = some number)
  | pending {number} (phase : fiber.phase = .waiting (shared.sharedTriggerState.created - 1))
      (behind : Behind items fiber number) (awaited : shared.currentlyWaitingOnMarker = some number)
  | released {channel number} (phase : fiber.phase = .waiting channel)
      (earlier : channel + 1 < shared.sharedTriggerState.created) (behind : Behind items fiber number)
      (told : (channel, .ok .pause) ∈ shared.results → pauses number)
  | paused {number} (phase : fiber.phase = .paused) (behind : Behind items fiber number) (answer : pauses number)
  | finished (phase : fiber.phase = .finished)

section Heeds
variable {pauses : Nat → Prop} {shared later : SharedFiberState} {items : List (SResult ρ)} {fiber : RunningFiber ρ}

theorem Heeds.mono (heeds : Heeds pauses shared items fiber)
    (awaited : ∀ number, shared.currentlyWaitingOnMarker = some number → later.currentlyWaitingOnMarker = some number)
    (created : later.sharedTriggerState.created = shared.sharedTriggerState.created)
    (results : later.results = shared.results) : Heeds pauses later items fiber := by
  cases heeds with
  | streaming phase => exact .streaming phase
  | polling phase behind held => exact .polling phase behind (awaited _ held)
  | pending phase behind held => exact .pending (created ▸ phase) behind (awaited _ held)
  | released phase earlier behind told => exact .released phase (created ▸ earlier) behind (results ▸ told)
  | paused phase behind answer => exact .paused phase behind answer
  | finished phase => exact .finished phase

theorem Heeds.weaken {weaker : Nat → Prop} (heeds : Heeds pauses shared items fiber)
    (weakens : ∀ number, pauses number → weaker number) : Heeds weaker shared items fiber := by
  cases heeds with
  | streaming phase => exact .streaming phase
  | polling phase behind held => exact .polling phase behind held
  | pending phase behind held => exact .pending phase behind held
  | released phase earlier behind told => exact .released phase earlier behind fun sent => weakens _ (told sent)
  | paused phase behind answer => exact .paused phase behind (weakens _ answer)
  | finished phase => exact .finished phase

theorem Heeds.polled (heeds : Heeds pauses shared items fiber) {number : Nat} (polling : fiber.phase = .polling number) :
    Behind items fiber number ∧ shared.currentlyWaitingOnMarker = some number := by
  cases heeds with
  | polling phase behind awaited =>
    cases phase.symm.trans polling
    exact ⟨behind, awaited⟩
  | streaming phase | pending phase _ _ | released phase _ _ _ | paused phase _ _ | finished phase =>
    rw [polling] at phase
    cases phase

/-- A fiber that waits for the round under way is behind the awaited marker. -/
theorem Heeds.waited (heeds : Heeds pauses shared items fiber)
    (waiting : fiber.phase = .waiting (shared.sharedTriggerState.created - 1)) :
    ∃ number, Behind items fiber number ∧ shared.currentlyWaitingOnMarker = some number := by
  cases heeds with
  | pending _ behind awaited => exact ⟨_, behind, awaited⟩
  | released phase earlier _ _ =>
    cases phase.symm.trans waiting
    omega
  | streaming phase | polling phase _ _ | paused phase _ _ | finished phase =>
    rw [waiting] at phase
    cases phase

theorem Heeds.halted (heeds : Heeds pauses shared items fiber) (paused : fiber.phase = .paused) :
    ∃ number, Behind items fiber number ∧ pauses number := by
  cases heeds with
  | paused _ behind answer => exact ⟨_, behind, answer⟩
  | streaming phase | polling phase _ _ | pending phase _ _ | released phase _ _ _ | finished phase =>
    rw [paused] at phase
    cases phase

end Heeds

/-- What holds between two polls of the fibers. `spare` of those whom the barrier counts
have no fiber, and the first of them started behind the marker `first`. -/
structure Rounds (pauses : Nat → Prop) (spare first : Nat) (streams : List (List (SResult ρ)))
    (running : RunningFibers ρ) : Prop where
  progress : Progress streams running
  heeds : ∀ (position : Nat) items fiber, streams[position]? = some items → running.fibers[position]? = some fiber →
    Heeds pauses running.shared items fiber
  barrier : Matches running.shared.sharedTriggerState (spare + live running.fibers)
    (arrived (running.shared.sharedTriggerState.created - 1) running.fibers)
  stored : ∀ number, running.shared.sharedTriggerState.computationFunction = some number →
    running.shared.currentlyWaitingOnMarker = some number
  sent : ∀ entry ∈ running.shared.results, entry.1 + 1 < running.shared.sharedTriggerState.created
  awaited : ∀ number, running.shared.currentlyWaitingOnMarker = some number → number ∈ streams.flatMap markersOf
  completed : running.shared.lastCompletedMarker ∈ first :: streams.flatMap markersOf

theorem Rounds.weaken {pauses weaker : Nat → Prop} {spare first : Nat} {streams : List (List (SResult ρ))}
    {running : RunningFibers ρ} (rounds : Rounds pauses spare first streams running)
    (weakens : ∀ number, pauses number → weaker number) : Rounds weaker spare first streams running :=
  { rounds with
    heeds := fun position items fiber given found => (rounds.heeds position items fiber given found).weaken weakens }

theorem arrived_le_live (channel : Nat) (fibers : List (RunningFiber ρ)) : arrived channel fibers ≤ live fibers := by
  refine List.countP_mono_left fun fiber _ waiting => ?_
  simp [of_decide_eq_true waiting]

/-- When one is missing, everybody else has come to the end or waits. -/
theorem others_rest {fibers : List (RunningFiber ρ)} {fiber : RunningFiber ρ} {position spare channel : Nat}
    (single : spare + live fibers = arrived channel fibers + 1) (found : fibers[position]? = some fiber)
    (present : fiber.phase ≠ .finished) (apart : fiber.phase ≠ .waiting channel) {other : Nat} {current : RunningFiber ρ}
    (different : other ≠ position) (located : fibers[other]? = some current) :
    current.phase = .finished ∨ current.phase = .waiting channel := by
  by_contra neither
  rw [not_or] at neither
  have there : (fibers.set position ⟨[], .finished⟩)[other]? = some current :=
    (List.getElem?_set_ne different.symm).trans located
  have lives := live_set ⟨[], .finished⟩ found
  have waits := arrived_set channel ⟨[], .finished⟩ found
  have fewer := live_set ⟨[], .finished⟩ there
  have still := arrived_set channel ⟨[], .finished⟩ there
  have bound := arrived_le_live channel ((fibers.set position ⟨[], .finished⟩).set other ⟨[], .finished⟩)
  simp only [present, apart, neither.1, neither.2, ne_eq, not_false_eq_true, not_true_eq_false, if_true, if_false,
    reduceCtorEq] at lives waits fewer still
  omega

section Step
variable {pauses : Nat → Prop} {spare first : Nat} {streams : List (List (SResult ρ))} {before after : RunningFibers ρ}
  {position : Nat} {fiber : RunningFiber ρ}

theorem Rounds.missing (rounds : Rounds pauses spare first streams before)
    (found : before.fibers[position]? = some fiber) (present : fiber.phase ≠ .finished) :
    arrived (before.shared.sharedTriggerState.created - 1) before.fibers < spare + live before.fibers := by
  have positive : 0 < live before.fibers :=
    List.countP_pos_iff.mpr ⟨fiber, List.mem_of_getElem? found, by simpa using present⟩
  have queued := rounds.barrier.queue
  split at queued
  next => omega
  next => exact queued.1

theorem Rounds.own (rounds : Rounds pauses spare first streams before) (found : before.fibers[position]? = some fiber) :
    ∃ items done, streams[position]? = some items ∧ Stands items done fiber ∧ Heeds pauses before.shared items fiber := by
  have inside : position < streams.length := rounds.progress.size ▸ (List.getElem?_eq_some_iff.mp found).1
  have given : streams[position]? = some streams[position] := List.getElem?_eq_getElem inside
  obtain ⟨done, stands, -⟩ := rounds.progress.stands _ _ _ given found
  exact ⟨_, done, given, stands, rounds.heeds _ _ _ given found⟩

/-- One fiber has moved, and the shared state with it. -/
private theorem Rounds.moved (rounds : Rounds pauses spare first streams before) (progress : Progress streams after)
    {next : RunningFiber ρ} (fibers : after.fibers = before.fibers.set position next)
    (own : ∀ items, streams[position]? = some items → Heeds pauses after.shared items next)
    (others : ∀ (other : Nat) items current, other ≠ position → before.fibers[other]? = some current →
      Heeds pauses before.shared items current → Heeds pauses after.shared items current)
    (barrier : Matches after.shared.sharedTriggerState (spare + live after.fibers)
      (arrived (after.shared.sharedTriggerState.created - 1) after.fibers))
    (stored : ∀ number, after.shared.sharedTriggerState.computationFunction = some number →
      after.shared.currentlyWaitingOnMarker = some number)
    (sent : ∀ entry ∈ after.shared.results, entry.1 + 1 < after.shared.sharedTriggerState.created)
    (awaited : ∀ number, after.shared.currentlyWaitingOnMarker = some number → number ∈ streams.flatMap markersOf)
    (completed : after.shared.lastCompletedMarker ∈ first :: streams.flatMap markersOf) :
    Rounds pauses spare first streams after where
  progress := progress
  heeds other items current given located := by
    rw [fibers] at located
    rcases FiniteMap.getElem?_set_cases located with ⟨rfl, rfl⟩ | ⟨apart, located⟩
    · exact own items given
    · exact others other items current apart located (rounds.heeds other items current given located)
  barrier := barrier
  stored := stored
  sent := sent
  awaited := awaited
  completed := completed

/-- A move that leaves the shared state alone. -/
private theorem Rounds.aside (rounds : Rounds pauses spare first streams before) (progress : Progress streams after)
    (found : before.fibers[position]? = some fiber) (next : RunningFiber ρ) (shared : after.shared = before.shared)
    (fibers : after.fibers = before.fibers.set position next) (present : fiber.phase ≠ .finished)
    (still : next.phase ≠ .finished) (apart : fiber.phase ≠ .waiting (before.shared.sharedTriggerState.created - 1))
    (away : next.phase ≠ .waiting (before.shared.sharedTriggerState.created - 1))
    (own : ∀ items, streams[position]? = some items → Heeds pauses before.shared items next) :
    Rounds pauses spare first streams after := by
  obtain ⟨lives, waits⟩ := counts_keep found present still apart away
  refine rounds.moved progress fibers ?_ ?_ ?_ ?_ ?_ ?_ ?_
  · rwa [shared]
  · rw [shared]
    exact fun _ _ _ _ _ heeds => heeds
  · rw [shared, fibers, lives, waits]
    exact rounds.barrier
  · rw [shared]
    exact rounds.stored
  · rw [shared]
    exact rounds.sent
  · rw [shared]
    exact rounds.awaited
  · rw [shared]
    exact rounds.completed

private theorem Rounds.lock (rounds : Rounds pauses spare first streams before) (found : before.fibers[position]? = some fiber)
    {marker : Marker} {rest : List (RunningFiberCheckMarker (SResult ρ))} (streaming : fiber.phase = .streaming)
    (next : fiber.remaining = .check marker :: rest)
    (free : ∀ existing, before.shared.currentlyWaitingOnMarker = some existing → existing = marker.checkpointNumber)
    (shared : after.shared = { before.shared with currentlyWaitingOnMarker := some marker.checkpointNumber })
    (fibers : after.fibers = before.fibers.set position ⟨rest, .polling marker.checkpointNumber⟩)
    (progress : Progress streams after) : Rounds pauses spare first streams after := by
  obtain ⟨items, done, given, stands, -⟩ := rounds.own found
  have behind := (stands.lock streaming next).behind rfl
  have kept : ∀ number, before.shared.currentlyWaitingOnMarker = some number →
      after.shared.currentlyWaitingOnMarker = some number := by
    intro number held
    rw [shared, free number held]
  obtain ⟨lives, waits⟩ : live after.fibers = live before.fibers ∧
      arrived (before.shared.sharedTriggerState.created - 1) after.fibers = _ := by
    rw [fibers]
    exact counts_keep found (by simp [streaming]) (by simp) (by simp [streaming]) (by simp)
  refine rounds.moved progress fibers (fun other same => ?_) (fun _ _ _ _ _ heeds => ?_) ?_ ?_ ?_ ?_ ?_
  · cases given.symm.trans same
    exact .polling rfl behind (by rw [shared])
  · exact heeds.mono kept (by rw [shared]) (by rw [shared])
  · rw [shared, lives, waits]
    exact rounds.barrier
  · intro number held
    apply kept
    rw [shared] at held
    exact rounds.stored number held
  · rw [shared]
    exact rounds.sent
  · intro number held
    rw [shared, Option.some.injEq] at held
    exact List.mem_flatMap.mpr ⟨items, List.mem_of_getElem? given, held ▸ behind.mem⟩
  · rw [shared]
    exact rounds.completed

/-- What the fiber that completes a round makes of the shared state. A Pause is the answer
for the marker of the function that was stored. -/
structure Computed (check : Nat → Except DataFusionError FiberState) (before after : SharedFiberState)
    (function sender : Option Nat) : Prop where
  trigger : after.sharedTriggerState = before.sharedTriggerState
  completed : after.lastCompletedMarker = function.getD before.lastCompletedMarker
  awaited : ∀ number, after.currentlyWaitingOnMarker = some number →
    function = none ∧ before.currentlyWaitingOnMarker = some number
  results : ∀ entry ∈ after.results, entry ∈ before.results ∨ (sender = some entry.1 ∧
    (entry.2 = .ok .pause → ∃ number, function = some number ∧ check number = .ok .pause))

private theorem runComputation_pause {shared : SharedFiberState} {function : Option Nat}
    (answer : (shared.runComputation check function).2 = .ok .pause) :
    ∃ number, function = some number ∧ check number = .ok .pause := by
  cases function with
  | none => cases answer
  | some number => exact ⟨number, rfl, answer⟩

private theorem sendableResult_pause {answer : Except DataFusionError FiberState} (sent : sendableResult answer = .ok .pause) :
    answer = .ok .pause := by
  cases answer with
  | error error => cases sent
  | ok state =>
    cases sent
    rfl

private theorem runComputation_computed (shared : SharedFiberState) (function sender : Option Nat) :
    Computed check shared (shared.runComputation check function).1 function sender := by
  cases function with
  | none => exact ⟨rfl, rfl, fun _ held => ⟨rfl, held⟩, fun _ member => .inl member⟩
  | some number => exact ⟨rfl, rfl, nofun, fun _ member => .inl member⟩

theorem computeAndSend_computed (function sender : Option Nat) :
    Computed check before.shared (before.computeAndSend check function sender).1.shared function sender ∧
      ((before.computeAndSend check function sender).2 = .ok .pause →
        ∃ number, function = some number ∧ check number = .ok .pause) := by
  simp only [computeAndSend]
  split
  next => exact ⟨runComputation_computed _ _ _, runComputation_pause⟩
  next channel =>
    have computed := @runComputation_computed check before.shared function (some channel)
    split
    next =>
      refine ⟨{ computed with results := fun entry member => ?_ }, runComputation_pause⟩
      rcases List.mem_append.mp member with old | new
      · exact computed.results entry old
      · cases List.mem_singleton.mp new
        exact .inr ⟨rfl, fun sent => runComputation_pause (sendableResult_pause sent)⟩
    next =>
      refine ⟨computed, fun dropped => ?_⟩
      cases dropped

/-- Nobody else is on the way to the barrier, and the answer is sent on a channel that is not of the next round. -/
private structure Closed (before trigger : InnerQueueState Nat) (fibers : List (RunningFiber ρ)) (position : Nat)
    (sender : Option Nat) : Prop where
  created : before.created ≤ trigger.created
  channel : ∀ channel, sender = some channel → channel + 1 < trigger.created
  others : ∀ (other : Nat) current, other ≠ position → fibers[other]? = some current →
    current.phase = .finished ∨ (current.phase = .waiting (before.created - 1) ∧ trigger.created = before.created + 1)

section Closed
variable {state trigger : InnerQueueState Nat} {fibers : List (RunningFiber ρ)}

private theorem Closed.last (complete : spare + live fibers = arrived (state.created - 1) fibers + 1)
    (created : trigger.created = state.created + 1) (positive : 0 < state.created) (found : fibers[position]? = some fiber)
    (present : fiber.phase ≠ .finished) (apart : fiber.phase ≠ .waiting (state.created - 1)) :
    Closed state trigger fibers position (some (state.created - 1)) := by
  refine ⟨by omega, fun channel same => ?_, fun other current different located => ?_⟩
  · cases same
    omega
  · have rests := others_rest complete found present apart different located
    exact rests.imp_right fun waits => ⟨waits, created⟩

private theorem Closed.alone (single : spare + live fibers = 1) (nobody : arrived (state.created - 1) fibers = 0)
    (created : trigger.created = state.created) (found : fibers[position]? = some fiber)
    (present : fiber.phase ≠ .finished) (apart : fiber.phase ≠ .waiting (state.created - 1)) :
    Closed state trigger fibers position none := by
  refine ⟨Nat.le_of_eq created.symm, fun channel same => ?_, fun other current different located => ?_⟩
  · cases same
  · have rests := others_rest (single.trans (by rw [nobody])) found present apart different located
    refine .inl (rests.resolve_right fun waits => ?_)
    exact List.countP_eq_zero.mp nobody current (List.mem_of_getElem? located) (decide_eq_true waits)

end Closed

/-- The last fiber of a round, or the only one, has computed and leaves the shared state ready for the next round. -/
private theorem Rounds.complete (rounds : Rounds pauses spare first streams before) (progress : Progress streams after)
    (position : Nat) (next : RunningFiber ρ) (fibers : after.fibers = before.fibers.set position next)
    {trigger : InnerQueueState Nat} {function sender : Option Nat}
    (computed : Computed check { before.shared with sharedTriggerState := trigger } after.shared function sender)
    (answers : ∀ number, check number = .ok .pause → pauses number)
    (known : ∀ number, function = some number → before.shared.currentlyWaitingOnMarker = some number)
    (closed : Closed before.shared.sharedTriggerState trigger before.fibers position sender)
    (counted : Matches trigger (spare + live after.fibers) 0)
    (away : ∀ channel, next.phase ≠ .waiting channel)
    (own : ∀ items, streams[position]? = some items → Heeds pauses after.shared items next) :
    Rounds pauses spare first streams after := by
  have positive := rounds.barrier.created
  have later : after.shared.sharedTriggerState = trigger := computed.trigger
  refine rounds.moved progress fibers own (fun other items current different located heeds => ?_) ?_ ?_ ?_ ?_ ?_
  · rcases closed.others other current different located with ended | ⟨waiting, grown⟩
    · exact .finished ended
    · obtain ⟨number, behind, awaited⟩ := heeds.waited waiting
      refine .released waiting (by rw [later]; omega) behind fun told => ?_
      rcases computed.results _ told with old | ⟨-, answer⟩
      · -- The results so far are those of earlier rounds.
        have early := rounds.sent _ old
        dsimp only at early
        omega
      · obtain ⟨stored, held, paused⟩ := answer rfl
        cases awaited.symm.trans (known stored held)
        exact answers _ paused
  · rw [later]
    have nobody : arrived (trigger.created - 1) after.fibers = 0 := by
      refine List.countP_eq_zero.mpr fun current member waits => ?_
      have waiting := of_decide_eq_true waits
      rw [fibers] at member
      obtain ⟨other, located⟩ := List.mem_iff_getElem?.mp member
      rcases FiniteMap.getElem?_set_cases located with ⟨_, rfl⟩ | ⟨apart, located⟩
      · exact away _ waiting
      · rcases closed.others other current apart located with ended | ⟨earlier, grown⟩
        · rw [waiting] at ended
          cases ended
        · rw [waiting, FiberPhase.waiting.injEq] at earlier
          omega
    rw [nobody]
    exact counted
  · intro number held
    have function := counted.function
    rw [later] at held
    simp [held] at function
  · intro entry member
    rw [later]
    rcases computed.results entry member with old | ⟨new, -⟩
    · exact Nat.lt_of_lt_of_le (rounds.sent entry old) closed.created
    · exact closed.channel entry.1 new
  · intro number held
    exact rounds.awaited number (computed.awaited number held).2
  · rw [computed.completed]
    cases same : function with
    | none => exact rounds.completed
    | some number => exact List.mem_cons_of_mem _ (rounds.awaited number (known number same))

private theorem answerPhase_stays (answer : Except DataFusionError FiberState) :
    answerPhase answer ≠ .finished ∧ ∀ channel, answerPhase answer ≠ .waiting channel := by
  rcases answer with error | _ | _ <;> simp [answerPhase]

/-- What a fiber behind a marker is told by its own computation, on whatever channel it is sent on. -/
private theorem computeAndSend_heeds {items : List (SResult ρ)} {number : Nat} (behind : Behind items fiber number)
    (answers : ∀ number, check number = .ok .pause → pauses number) (sender : Option Nat) :
    Heeds pauses (before.computeAndSend check (some number) sender).1.shared items
      { fiber with phase := answerPhase (before.computeAndSend check (some number) sender).2 } := by
  have pause := (@computeAndSend_computed _ check before (some number) sender).2
  rcases answer : (before.computeAndSend check (some number) sender).2 with error | _ | _
  · exact .streaming rfl
  · exact .streaming rfl
  · obtain ⟨stored, held, paused⟩ := pause answer
    cases held
    exact .paused rfl behind (answers _ paused)

/-- A round that ends with a fiber that polls, as the last of several or alone. -/
private theorem Rounds.answer (rounds : Rounds pauses spare first streams before)
    (found : before.fibers[position]? = some fiber) {number : Nat} (polling : fiber.phase = .polling number)
    (answers : ∀ number, check number = .ok .pause → pauses number) {trigger : InnerQueueState Nat} {sender : Option Nat}
    (closed : Closed before.shared.sharedTriggerState trigger before.fibers position sender)
    (counted : Matches trigger (spare + live before.fibers) 0)
    (progress : Progress streams (((before.setTrigger trigger).computeAndSend check (some number) sender).1.settle position
      fiber ((before.setTrigger trigger).computeAndSend check (some number) sender).2)) :
    Rounds pauses spare first streams (((before.setTrigger trigger).computeAndSend check (some number) sender).1.settle position
      fiber ((before.setTrigger trigger).computeAndSend check (some number) sender).2) := by
  obtain ⟨items, -, given, -, heeds⟩ := rounds.own found
  obtain ⟨behind, awaited⟩ := heeds.polled polling
  have computed := (@computeAndSend_computed _ check (before.setTrigger trigger) (some number) sender).1
  have told := @computeAndSend_heeds _ check pauses (before.setTrigger trigger) fiber items number behind answers sender
  have fibers : ((before.setTrigger trigger).computeAndSend check (some number) sender).1.fibers = before.fibers :=
    computeAndSend_fibers
  generalize (before.setTrigger trigger).computeAndSend check (some number) sender = outcome at computed told fibers progress ⊢
  rw [settle_eq, fibers] at progress ⊢
  refine rounds.complete progress position { fiber with phase := answerPhase outcome.2 } rfl computed answers
    (fun other same => ?_) closed ?_ (answerPhase_stays _).2 (fun other same => ?_)
  · cases same
    exact awaited
  · have kept := live_set { fiber with phase := answerPhase outcome.2 } found
    simp only [polling, (answerPhase_stays _).1, ne_eq, reduceCtorEq, not_false_eq_true, if_true] at kept
    rw [Nat.add_right_cancel kept]
    exact counted
  · cases given.symm.trans same
    exact told

private theorem live_departed {fibers : List (RunningFiber ρ)} (rest : List (RunningFiberCheckMarker (SResult ρ)))
    (found : fibers[position]? = some fiber) (present : fiber.phase ≠ .finished) (spare : Nat) :
    spare + live (fibers.set position ⟨rest, .finished⟩) = spare + live fibers - 1 := by
  have lives := live_set ⟨rest, .finished⟩ found
  simp only [present, ne_eq, not_false_eq_true, not_true_eq_false, if_true, if_false] at lives
  omega

/-- A round that ends with a fiber that leaves. -/
private theorem Rounds.depart (rounds : Rounds pauses spare first streams before)
    (found : before.fibers[position]? = some fiber) (present : fiber.phase ≠ .finished)
    (rest : List (RunningFiberCheckMarker (SResult ρ))) (answers : ∀ number, check number = .ok .pause → pauses number)
    {trigger : InnerQueueState Nat} {sender : Option Nat}
    (closed : Closed before.shared.sharedTriggerState trigger before.fibers position sender)
    (counted : Matches trigger (spare + live before.fibers - 1) 0)
    (progress : Progress streams (((before.setTrigger trigger).computeAndSend check
      before.shared.sharedTriggerState.computationFunction sender).1.setFiber position ⟨rest, .finished⟩)) :
    Rounds pauses spare first streams (((before.setTrigger trigger).computeAndSend check
      before.shared.sharedTriggerState.computationFunction sender).1.setFiber position ⟨rest, .finished⟩) := by
  have computed := (@computeAndSend_computed _ check (before.setTrigger trigger)
    before.shared.sharedTriggerState.computationFunction sender).1
  refine rounds.complete progress position ⟨rest, .finished⟩ (by simp [setFiber, setTrigger]) computed answers rounds.stored
    closed ?_ (by simp) (fun _ _ => .finished rfl)
  simp only [setFiber, computeAndSend_fibers, setTrigger]
  rw [live_departed rest found present spare]
  exact counted

private theorem Rounds.compute (rounds : Rounds pauses spare first streams before)
    (found : before.fibers[position]? = some fiber) {number : Nat} (polling : fiber.phase = .polling number)
    (answers : ∀ number, check number = .ok .pause → pauses number)
    (progress : Progress streams (before.compute check position fiber number)) :
    Rounds pauses spare first streams (before.compute check position fiber number) := by
  obtain ⟨items, done, given, -, heeds⟩ := rounds.own found
  obtain ⟨behind, awaited⟩ := heeds.polled polling
  have function : before.shared.sharedTriggerState.computationFunction.getD number = number := by
    cases stored : before.shared.sharedTriggerState.computationFunction with
    | none => rfl
    | some earlier => exact Option.some.inj ((rounds.stored earlier stored).symm.trans awaited)
  have arrival := computeResult_arrival number rounds.barrier (rounds.missing found (by simp [polling]))
  rw [RunningFibers.compute] at progress ⊢
  generalize before.shared.sharedTriggerState.computeResult number = outcome at arrival progress ⊢
  cases arrival with
  | wait missing created stored present counted =>
    have lives := live_set { fiber with phase := .waiting (before.shared.sharedTriggerState.created - 1) } found
    have waits := arrived_set (before.shared.sharedTriggerState.created - 1)
      { fiber with phase := .waiting (before.shared.sharedTriggerState.created - 1) } found
    simp only [polling, ne_eq, reduceCtorEq, not_false_eq_true, if_false, if_true, Nat.add_zero] at lives waits
    refine rounds.moved progress rfl (fun other same => ?_) (fun _ _ _ _ _ heeds => ?_) ?_ ?_ ?_ rounds.awaited
      rounds.completed
    · cases given.symm.trans same
      exact .pending (by simp [setTrigger, setFiber, created]) behind awaited
    · exact heeds.mono (fun _ held => held) created rfl
    · simp only [setFiber, setTrigger]
      rw [created, Nat.add_right_cancel lives, waits]
      exact counted
    · intro other held
      simp only [setFiber, setTrigger, stored, function, Option.some.injEq] at held
      exact held ▸ awaited
    · simpa only [setFiber, setTrigger, created] using rounds.sent
  | last complete created present counted =>
    dsimp only at progress ⊢
    rw [function] at progress ⊢
    exact rounds.answer found polling answers
      (.last complete created rounds.barrier.created found (by simp [polling]) (by simp [polling])) counted progress
  | alone single nobody created absent counted =>
    dsimp only at progress ⊢
    rw [function] at progress ⊢
    exact rounds.answer found polling answers
      (.alone single nobody created found (by simp [polling]) (by simp [polling])) counted progress

private theorem Rounds.finish (rounds : Rounds pauses spare first streams before)
    (found : before.fibers[position]? = some fiber) {rest : List (RunningFiberCheckMarker (SResult ρ))}
    (streaming : fiber.phase = .streaming) (answers : ∀ number, check number = .ok .pause → pauses number)
    (progress : Progress streams (before.finish check position { fiber with remaining := rest })) :
    Rounds pauses spare first streams (before.finish check position { fiber with remaining := rest }) := by
  have departure := removeParticipant_departure rounds.barrier (rounds.missing found (by simp [streaming]))
  rw [RunningFibers.finish] at progress ⊢
  generalize before.shared.sharedTriggerState.removeParticipant = outcome at departure progress ⊢
  cases departure with
  | wait missing created stored present counted =>
    have waits := arrived_set (before.shared.sharedTriggerState.created - 1) ⟨rest, .finished⟩ found
    simp only [streaming, reduceCtorEq, if_false, Nat.add_zero] at waits
    have fewer := live_departed rest found (by simp [streaming])
    refine rounds.moved progress rfl (fun _ _ => .finished rfl) (fun _ _ _ _ _ heeds => ?_) ?_ ?_ ?_ rounds.awaited
      rounds.completed
    · exact heeds.mono (fun _ held => held) created rfl
    · simp only [setFiber, setTrigger]
      rw [created, waits, fewer spare]
      exact counted
    · intro number held
      simp only [setFiber, setTrigger, stored] at held
      exact rounds.stored number held
    · simpa only [setFiber, setTrigger, created] using rounds.sent
  | last complete created present counted =>
    exact rounds.depart found (by simp [streaming]) rest answers
      (.last complete created rounds.barrier.created found (by simp [streaming]) (by simp [streaming])) counted progress
  | alone single nobody created absent counted =>
    exact rounds.depart found (by simp [streaming]) rest answers
      (.alone single nobody created found (by simp [streaming]) (by simp [streaming])) counted progress

private theorem Rounds.receive (rounds : Rounds pauses spare first streams before)
    (found : before.fibers[position]? = some fiber) {channel : Nat} {sent : Except String FiberState}
    (waiting : fiber.phase = .waiting channel) (delivered : before.shared.results.lookup channel = some sent)
    (progress : Progress streams (before.receive position fiber sent)) :
    Rounds pauses spare first streams (before.receive position fiber sent) := by
  obtain ⟨items, done, given, -, heeds⟩ := rounds.own found
  have member : (channel, sent) ∈ before.shared.results := by
    obtain ⟨front, back, same, -⟩ := List.lookup_eq_some_iff.mp delivered
    simp [same]
  have earlier := rounds.sent _ member
  obtain ⟨number, behind, told⟩ : ∃ number, Behind items fiber number ∧
      ((channel, .ok .pause) ∈ before.shared.results → pauses number) := by
    cases heeds with
    | released phase _ behind told =>
      cases phase.symm.trans waiting
      exact ⟨_, behind, told⟩
    | pending phase _ _ =>
      cases phase.symm.trans waiting
      dsimp only at earlier
      omega
    | streaming phase | polling phase _ _ | paused phase _ _ | finished phase =>
      rw [waiting] at phase
      cases phase
  rw [RunningFibers.receive, settle_eq] at progress ⊢
  refine rounds.aside progress found _ rfl rfl (by simp [waiting]) ?_ ?_ ?_ fun other same => ?_
  · rcases sent with error | _ | _ <;> simp [answerPhase, receivedResult]
  · rw [waiting, Ne, FiberPhase.waiting.injEq]
    dsimp only at earlier
    omega
  · rcases sent with error | _ | _ <;> simp [answerPhase, receivedResult]
  · cases given.symm.trans same
    rcases sent with error | _ | _
    · exact .streaming rfl
    · exact .streaming rfl
    · exact .paused rfl behind (told member)

theorem Rounds.step (stepped : RunningFibers.step check before position = some after)
    (answers : ∀ number, check number = .ok .pause → pauses number)
    (rounds : Rounds pauses spare first streams before) : Rounds pauses spare first streams after := by
  have progress := rounds.progress.step stepped
  obtain ⟨fiber, _, found, moved⟩ := step_moves stepped
  cases moved with
  | @emit result rest streaming next =>
    refine rounds.aside progress found { fiber with remaining := rest } rfl rfl ?_ ?_ ?_ ?_
      fun _ _ => .streaming streaming
    all_goals simp [streaming]
  | lock streaming next free => exact rounds.lock found streaming next free rfl rfl progress
  | @conflict marker rest existing error streaming next awaited different =>
    refine rounds.aside progress found ⟨rest, .streaming⟩ rfl rfl ?_ ?_ ?_ ?_ fun _ _ => .streaming rfl
    all_goals simp [streaming]
  | compute polling => exact rounds.compute found polling answers progress
  | finish streaming next => exact rounds.finish found streaming answers progress
  | receive waiting delivered => exact rounds.receive found waiting delivered progress

end Step

/-- The fibers of a pull, whose barrier counts every address. -/
theorem Rounds.start {pauses : Nat → Prop} {first count : Nat} {streams : List (List (SResult ρ))}
    (enough : streams.length ≤ count) :
    Rounds pauses (count - streams.length) first streams
      { RunningFibers.start first streams with shared := .new first count } where
  progress := { Progress.start first streams with }
  heeds position items fiber given found := by
    simp only [RunningFibers.start, List.getElem?_map, given, Option.map_some, Option.some.injEq] at found
    exact .streaming (by rw [← found])
  barrier := by
    have streaming : live (RunningFibers.start first streams).fibers = streams.length := by
      rw [live, List.countP_eq_length.mpr]
      · simp [RunningFibers.start]
      · intro fiber member
        obtain ⟨items, -, rfl⟩ := List.mem_map.mp member
        rfl
    have nobody channel : arrived channel (RunningFibers.start first streams).fibers = 0 := by
      refine List.countP_eq_zero.mpr fun fiber member => ?_
      obtain ⟨items, -, rfl⟩ := List.mem_map.mp member
      simp
    rw [streaming, Nat.sub_add_cancel enough, nobody]
    exact .opened count
  stored _ held := by cases (InnerQueueState.opened_function count).symm.trans held
  sent := nofun
  awaited := nofun
  completed := List.mem_cons_self

end DatafusionRay.Proofs.Fibers
