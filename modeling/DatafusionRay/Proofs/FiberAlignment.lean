import DatafusionRay.Proofs.BarrierRounds
import DatafusionRay.Proofs.FiberProgress

/-! Fibers that carry the same markers stay together: as long as the shared state
answers Continue, no fiber passes a marker before all of them have put it out.
The invariant ties each fiber's position to the round of the barrier. -/

namespace DatafusionRay.Proofs.Fibers
open Streaming Foundation RunningFibers Barrier

variable {ρ : Type} {check : Nat → Except DataFusionError FiberState}

def passed (position : Nat) (output : List (Nat × SResult ρ)) : Nat := (markersOf (emittedBy position output)).length

theorem passed_append (position : Nat) (first second : List (Nat × SResult ρ)) :
    passed position (first ++ second) = passed position first + passed position second := by
  simp only [passed, emittedBy_append, markersOf_append, List.length_append]

def live (fibers : List (RunningFiber ρ)) : Nat := fibers.countP fun fiber => fiber.phase ≠ .finished

def arrived (channel : Nat) (fibers : List (RunningFiber ρ)) : Nat :=
  fibers.countP fun fiber => fiber.phase = .waiting channel

/-- Where a fiber is while the barrier is in a round: before the round's marker,
behind it and on the way to the barrier, or still to be told of the last round. -/
inductive InRound (round : Nat) (shared : SharedFiberState) (fiber : RunningFiber ρ) (level : Nat) : Prop where
  | before (phase : fiber.phase = .streaming) (unchecked : ∀ marker rest, fiber.remaining ≠ .check marker :: rest)
      (same : level = round)
  | checking {marker rest} (phase : fiber.phase = .streaming) (next : fiber.remaining = .check marker :: rest)
      (same : level = round + 1)
  | polling {marker} (phase : fiber.phase = .polling marker) (same : level = round + 1)
  | pending (phase : fiber.phase = .waiting (shared.sharedTriggerState.created - 1)) (same : level = round + 1)
  | released {channel} (phase : fiber.phase = .waiting channel) (earlier : channel + 1 < shared.sharedTriggerState.created)
      (sent : shared.results.lookup channel = some (.ok .«continue»)) (same : level = round)
  | finished (phase : fiber.phase = .finished) (same : level = round)

theorem InRound.least {round level : Nat} {shared : SharedFiberState} {fiber : RunningFiber ρ}
    (within : InRound round shared fiber level) : round ≤ level := by
  cases within <;> omega

theorem InRound.of_streaming {round level : Nat} {shared : SharedFiberState} {fiber : RunningFiber ρ}
    (within : InRound round shared fiber level) (streaming : fiber.phase = .streaming) :
    ((∀ marker rest, fiber.remaining ≠ .check marker :: rest) ∧ level = round) ∨
      ((∃ marker rest, fiber.remaining = .check marker :: rest) ∧ level = round + 1) := by
  cases within with
  | before _ unchecked same => exact .inl ⟨unchecked, same⟩
  | checking _ next same => exact .inr ⟨⟨_, _, next⟩, same⟩
  | polling phase _ | pending phase _ | released phase _ _ _ | finished phase _ =>
    rw [streaming] at phase
    cases phase

/-- A fiber that waits for the result of the current round has passed the round's marker. -/
theorem InRound.of_waiting {round level : Nat} {shared : SharedFiberState} {fiber : RunningFiber ρ}
    (within : InRound round shared fiber level) {channel : Nat} (waiting : fiber.phase = .waiting channel)
    (current : shared.sharedTriggerState.created ≤ channel + 1) : level = round + 1 := by
  cases within with
  | pending _ same => exact same
  | released phase earlier _ _ =>
    cases phase.symm.trans waiting
    omega
  | before phase _ _ | checking phase _ _ | polling phase _ | finished phase _ =>
    rw [waiting] at phase
    cases phase

/-- A later state of the barrier that still owes the same results. -/
theorem InRound.mono {round level : Nat} {shared later : SharedFiberState} {fiber : RunningFiber ρ}
    (within : InRound round shared fiber level) (results : later.results = shared.results)
    (grown : shared.sharedTriggerState.created ≤ later.sharedTriggerState.created)
    (current : fiber.phase = .waiting (shared.sharedTriggerState.created - 1) →
      later.sharedTriggerState.created = shared.sharedTriggerState.created) :
    InRound round later fiber level := by
  cases within with
  | before phase unchecked same => exact .before phase unchecked same
  | checking phase next same => exact .checking phase next same
  | polling phase same => exact .polling phase same
  | pending phase same => exact .pending (by rw [current phase, phase]) same
  | released phase earlier sent same => exact .released phase (by omega) (by rw [results, sent]) same
  | finished phase same => exact .finished phase same

structure Aligned (markers : List Nat) (streams : List (List (SResult ρ))) (round : Nat) (running : RunningFibers ρ) :
    Prop where
  carried : ∀ items ∈ streams, markersOf items = markers
  calm : running.panicked = false
  size : running.fibers.length = streams.length
  stands : ∀ position items fiber, streams[position]? = some items → running.fibers[position]? = some fiber →
    Stands items (emittedBy position running.output) fiber ∧
      InRound round running.shared fiber (passed position running.output)
  barrier : Matches running.shared.sharedTriggerState (live running.fibers)
    (arrived (running.shared.sharedTriggerState.created - 1) running.fibers)
  shared : running.shared.sharedTriggerState.synchronisationQueue.isSome → 2 ≤ running.fibers.length
  awaited : ∀ marker, running.shared.currentlyWaitingOnMarker = some marker → markers[round]? = some marker
  stored : ∀ marker, running.shared.sharedTriggerState.computationFunction = some marker → markers[round]? = some marker
  sent : ∀ entry ∈ running.shared.results, entry.1 + 1 < running.shared.sharedTriggerState.created
  ordered : ∀ time position item, running.output[time]? = some (position, item) → ∀ other < streams.length,
    passed position (running.output.take time) ≤ passed other (running.output.take time)

section Counting
variable {α : Type} {items : List α} {position : Nat} {old : α}

theorem countP_set_found (p : α → Bool) (new : α) (found : items[position]? = some old) :
    (items.set position new).countP p + (if p old then 1 else 0) = items.countP p + (if p new then 1 else 0) := by
  obtain ⟨inside, rfl⟩ := List.getElem?_eq_some_iff.mp found
  rw [List.countP_set inside]
  split
  next holds =>
    have positive : 0 < items.countP p := List.countP_pos_iff.mpr ⟨_, List.getElem_mem inside, holds⟩
    omega
  next => omega

variable {fibers : List (RunningFiber ρ)} {fiber : RunningFiber ρ}

theorem live_set (next : RunningFiber ρ) (found : fibers[position]? = some fiber) :
    live (fibers.set position next) + (if fiber.phase ≠ .finished then 1 else 0) =
      live fibers + (if next.phase ≠ .finished then 1 else 0) := by
  simpa only [live, decide_eq_true_eq] using countP_set_found (fun fiber => decide (fiber.phase ≠ .finished)) next found

theorem arrived_set (channel : Nat) (next : RunningFiber ρ) (found : fibers[position]? = some fiber) :
    arrived channel (fibers.set position next) + (if fiber.phase = .waiting channel then 1 else 0) =
      arrived channel fibers + (if next.phase = .waiting channel then 1 else 0) := by
  simpa only [arrived, decide_eq_true_eq] using
    countP_set_found (fun fiber => decide (fiber.phase = .waiting channel)) next found

theorem others_wait {channel : Nat} (single : fibers.length = arrived channel fibers + 1)
    (found : fibers[position]? = some fiber) (apart : fiber.phase ≠ .waiting channel) {other : Nat}
    {current : RunningFiber ρ} (different : other ≠ position) (located : fibers[other]? = some current) :
    current.phase = .waiting channel := by
  have replaced := arrived_set channel ⟨[], .waiting channel⟩ found
  simp only [apart, if_false, if_true, Nat.add_zero] at replaced
  have every := List.countP_eq_length.mp (replaced.trans (by rw [List.length_set, single]))
  exact of_decide_eq_true
    (every current (List.mem_of_getElem? ((List.getElem?_set_ne different.symm).trans located)))

theorem counts_keep {channel : Nat} {next : RunningFiber ρ} (found : fibers[position]? = some fiber)
    (present : fiber.phase ≠ .finished) (still : next.phase ≠ .finished) (apart : fiber.phase ≠ .waiting channel)
    (away : next.phase ≠ .waiting channel) :
    live (fibers.set position next) = live fibers ∧ arrived channel (fibers.set position next) = arrived channel fibers := by
  have lives := live_set next found
  have waits := arrived_set channel next found
  simp only [present, still, ne_eq, not_false_eq_true, if_true] at lives
  simp only [apart, away, if_false] at waits
  omega

end Counting

section Facts
variable {markers : List Nat} {streams : List (List (SResult ρ))} {round : Nat} {running : RunningFibers ρ}
  {position : Nat} {fiber : RunningFiber ρ}

theorem marker_at {items done todo before : List (SResult ρ)} {marker : Marker} (split : items = done ++ todo)
    (last : done = before ++ [.ok (.marker marker)]) (level : (markersOf done).length = round + 1) :
    (markersOf items)[round]? = some marker.checkpointNumber := by
  subst last
  have here : (markersOf before).length = round := by simpa [markersOf_append] using level
  rw [split, markersOf_append, markersOf_append, markersOf_marker, List.append_assoc, ← here]
  simp

theorem Aligned.own (aligned : Aligned markers streams round running) (found : running.fibers[position]? = some fiber) :
    ∃ items, streams[position]? = some items ∧ markersOf items = markers ∧
      Stands items (emittedBy position running.output) fiber ∧
      InRound round running.shared fiber (passed position running.output) := by
  have inside : position < streams.length := aligned.size ▸ (List.getElem?_eq_some_iff.mp found).1
  have given : streams[position]? = some streams[position] := List.getElem?_eq_getElem inside
  exact ⟨_, given, aligned.carried _ (List.getElem_mem inside), aligned.stands _ _ _ given found⟩

theorem Aligned.missing (aligned : Aligned markers streams round running) (found : running.fibers[position]? = some fiber)
    (present : fiber.phase ≠ .finished) :
    arrived (running.shared.sharedTriggerState.created - 1) running.fibers < live running.fibers := by
  have positive : 0 < live running.fibers :=
    List.countP_pos_iff.mpr ⟨fiber, List.mem_of_getElem? found, by simpa using present⟩
  have queued := aligned.barrier.queue
  split at queued
  next => omega
  next => exact queued.1

theorem Aligned.passed_le (aligned : Aligned markers streams round running)
    (found : running.fibers[position]? = some fiber) : passed position running.output ≤ markers.length := by
  obtain ⟨items, _, carried, stands, _⟩ := aligned.own found
  obtain ⟨todo, split⟩ := stands.split
  rw [passed, ← carried, split, markersOf_append, List.length_append]
  exact Nat.le_add_right _ _

/-- While some fiber is behind the round's marker, none has come to its end. -/
theorem Aligned.none_finished (aligned : Aligned markers streams round running)
    (found : running.fibers[position]? = some fiber) (level : passed position running.output = round + 1) :
    ∀ other ∈ running.fibers, other.phase ≠ .finished := by
  intro other member ended
  obtain ⟨place, located⟩ := List.mem_iff_getElem?.mp member
  obtain ⟨items, _, carried, stands, within⟩ := aligned.own located
  have bound := aligned.passed_le found
  have whole : passed place running.output = markers.length := by rw [passed, ← stands.ended ended, carried]
  have here : passed place running.output = round := by
    cases within with
    | finished _ same => exact same
    | before phase _ _ | checking phase _ _ | polling phase _ | pending phase _ | released phase _ _ _ =>
      rw [ended] at phase
      cases phase
  omega

theorem Aligned.live_eq (aligned : Aligned markers streams round running)
    (found : running.fibers[position]? = some fiber) (level : passed position running.output = round + 1) :
    live running.fibers = running.fibers.length :=
  List.countP_eq_length.mpr fun other member => by simpa using aligned.none_finished found level other member

end Facts

section Step
variable {markers : List Nat} {streams : List (List (SResult ρ))} {round : Nat} {before : RunningFibers ρ}
  {position : Nat} {fiber : RunningFiber ρ}

private theorem forall_set {holds : Nat → List (SResult ρ) → RunningFiber ρ → Prop} {next : RunningFiber ρ}
    (own : ∀ items, streams[position]? = some items → holds position items next)
    (others : ∀ other items current, other ≠ position → streams[other]? = some items →
      before.fibers[other]? = some current → holds other items current) :
    ∀ other items current, streams[other]? = some items → (before.fibers.set position next)[other]? = some current →
      holds other items current := by
  intro other items current given located
  rcases FiniteMap.getElem?_set_cases located with ⟨rfl, rfl⟩ | ⟨apart, located⟩
  · exact own items given
  · exact others other items current apart given located

private theorem Aligned.quiet (aligned : Aligned markers streams round before)
    {next : RunningFiber ρ} {shared : SharedFiberState} {later : Nat}
    (own : ∀ items, streams[position]? = some items → Stands items (emittedBy position before.output) next ∧
      InRound later shared next (passed position before.output))
    (others : ∀ other current, other ≠ position → before.fibers[other]? = some current →
      InRound round before.shared current (passed other before.output) →
      InRound later shared current (passed other before.output))
    (barrier : Matches shared.sharedTriggerState (live (before.fibers.set position next))
      (arrived (shared.sharedTriggerState.created - 1) (before.fibers.set position next)))
    (queue : shared.sharedTriggerState.synchronisationQueue.isSome → 2 ≤ before.fibers.length)
    (awaited : ∀ marker, shared.currentlyWaitingOnMarker = some marker → markers[later]? = some marker)
    (stored : ∀ marker, shared.sharedTriggerState.computationFunction = some marker → markers[later]? = some marker)
    (sent : ∀ entry ∈ shared.results, entry.1 + 1 < shared.sharedTriggerState.created) :
    Aligned markers streams later { before with fibers := before.fibers.set position next, shared } where
  carried := aligned.carried
  calm := aligned.calm
  size := by simp [aligned.size]
  stands := forall_set own fun other items current different given located =>
    have standing := aligned.stands other items current given located
    ⟨standing.1, others other current different located standing.2⟩
  barrier := barrier
  shared := by simpa using queue
  awaited := awaited
  stored := stored
  sent := sent
  ordered := aligned.ordered

private theorem Aligned.emit (aligned : Aligned markers streams round before)
    (found : before.fibers[position]? = some fiber) {result : SResult ρ}
    {rest : List (RunningFiberCheckMarker (SResult ρ))} (streaming : fiber.phase = .streaming)
    (next : fiber.remaining = .item result :: rest) :
    Aligned markers streams round ((before.setFiber position { fiber with remaining := rest }).emit position result) := by
  have mine : emittedBy position [(position, result)] = [result] := emittedBy_map_self position [result]
  obtain ⟨_, _, _, _, within⟩ := aligned.own found
  have level : passed position before.output = round := by
    rcases within.of_streaming streaming with ⟨_, same⟩ | ⟨⟨_, _, check⟩, _⟩
    · exact same
    · cases check.symm.trans next
  refine ⟨aligned.carried, aligned.calm, by simp [setFiber, RunningFibers.emit, aligned.size], ?_, ?_, ?_,
    aligned.awaited, aligned.stored, aligned.sent, ?_⟩
  · refine forall_set (fun items given => ?_) fun other items current different given located => ?_
    · obtain ⟨further, marked⟩ := ((aligned.stands _ _ _ given found).1).emit streaming next
      refine ⟨?_, ?_⟩
      · simpa only [RunningFibers.emit, setFiber, emittedBy_append, mine, streaming] using further
      · rw [show ((before.setFiber position { fiber with remaining := rest }).emit position result).output =
          before.output ++ [(position, result)] from rfl, passed_append, level, passed, mine]
        rcases marked with ⟨_, _, marked, checked⟩ | ⟨unmarked, unchecked⟩
        · exact .checking streaming checked (by rw [marked]; rfl)
        · exact .before streaming unchecked (by rw [unmarked]; rfl)
    · have standing := aligned.stands other items current given located
      have theirs : emittedBy other [(position, result)] = [] := emittedBy_map_ne (Ne.symm different) [result]
      simpa only [RunningFibers.emit, setFiber, passed, emittedBy_append, theirs, List.append_nil] using standing
  · obtain ⟨lives, waits⟩ : live (before.fibers.set position { fiber with remaining := rest }) = live before.fibers ∧
        arrived (before.shared.sharedTriggerState.created - 1)
          (before.fibers.set position { fiber with remaining := rest }) = _ :=
      counts_keep found (by simp [streaming]) (by simp [streaming]) (by simp [streaming]) (by simp [streaming])
    simp only [RunningFibers.emit, setFiber]
    rw [lives, waits]
    exact aligned.barrier
  · simpa [setFiber, RunningFibers.emit] using aligned.shared
  · intro time other item located third inside
    simp only [RunningFibers.emit, setFiber] at located ⊢
    rcases Nat.lt_or_ge time before.output.length with early | late
    · rw [List.getElem?_append_left early] at located
      rw [List.take_append_of_le_length (Nat.le_of_lt early)]
      exact aligned.ordered time other item located third inside
    · rw [List.getElem?_append_right late, List.getElem?_singleton] at located
      have now : time = before.output.length := by
        split at located
        next => omega
        next => cases located
      subst now
      simp only [Nat.sub_self, if_true, Option.some.injEq, Prod.mk.injEq] at located
      obtain ⟨rfl, rfl⟩ := located
      rw [List.take_left, level]
      obtain ⟨current, there⟩ := exists_fiber aligned.size inside
      obtain ⟨_, _, _, _, within⟩ := aligned.own there
      exact within.least

private theorem Aligned.behind (aligned : Aligned markers streams round before)
    (found : before.fibers[position]? = some fiber) {number : Nat}
    (behind : (∃ marker rest, fiber.phase = .streaming ∧ fiber.remaining = .check marker :: rest ∧
      marker.checkpointNumber = number) ∨ fiber.phase = .polling number) :
    passed position before.output = round + 1 ∧ markers[round]? = some number := by
  obtain ⟨items, _, carried, stands, within⟩ := aligned.own found
  rw [← carried]
  rcases behind with ⟨marker, rest, streaming, next, rfl⟩ | polling
  · have level : passed position before.output = round + 1 := by
      rcases within.of_streaming streaming with ⟨unchecked, _⟩ | ⟨_, same⟩
      · exact False.elim (unchecked _ _ next)
      · exact same
    obtain ⟨_, _, _, split, last, same, _⟩ := (stands.lock streaming next).polled rfl
    exact ⟨level, same ▸ marker_at split last level⟩
  · have level : passed position before.output = round + 1 := by
      cases within with
      | polling _ same => exact same
      | before phase _ _ | checking phase _ _ | pending phase _ | released phase _ _ _ | finished phase _ =>
        rw [polling] at phase
        cases phase
    obtain ⟨_, _, _, split, last, same, _⟩ := stands.polled polling
    exact ⟨level, same ▸ marker_at split last level⟩

private theorem Aligned.lock (aligned : Aligned markers streams round before)
    (found : before.fibers[position]? = some fiber) {marker : Marker}
    {rest : List (RunningFiberCheckMarker (SResult ρ))} (streaming : fiber.phase = .streaming)
    (next : fiber.remaining = .check marker :: rest) :
    Aligned markers streams round
      ({ before with shared :=
          { before.shared with currentlyWaitingOnMarker := some marker.checkpointNumber } }.setFiber position
        ⟨rest, .polling marker.checkpointNumber⟩) := by
  obtain ⟨level, marked⟩ := aligned.behind found (.inl ⟨marker, rest, streaming, next, rfl⟩)
  obtain ⟨lives, waits⟩ : live (before.fibers.set position ⟨rest, .polling marker.checkpointNumber⟩) = live before.fibers ∧
      arrived (before.shared.sharedTriggerState.created - 1)
        (before.fibers.set position ⟨rest, .polling marker.checkpointNumber⟩) = _ :=
    counts_keep found (by simp [streaming]) (by simp) (by simp [streaming]) (by simp)
  refine aligned.quiet (fun items given => ?_) (fun _ _ _ _ within => ?_) ?_ aligned.shared
    (fun other held => ?_) aligned.stored aligned.sent
  · exact ⟨(aligned.stands _ _ _ given found).1.lock streaming next, .polling rfl level⟩
  · exact within.mono rfl (Nat.le_refl _) fun _ => rfl
  · rw [lives, waits]
    exact aligned.barrier
  · cases held
    exact marked

/-- The result of the round under way has not been sent. -/
private theorem Aligned.unsent (aligned : Aligned markers streams round before) :
    before.shared.results.lookup (before.shared.sharedTriggerState.created - 1) = none := by
  refine List.lookup_eq_none_iff.mpr fun entry member => ?_
  have early := aligned.sent entry member
  have created := aligned.barrier.created
  simp only [bne_iff_ne]
  omega

private theorem Aligned.receive (aligned : Aligned markers streams round before)
    (found : before.fibers[position]? = some fiber) {channel : Nat} {sent : Except String FiberState}
    (waiting : fiber.phase = .waiting channel) (delivered : before.shared.results.lookup channel = some sent) :
    Aligned markers streams round (before.receive position fiber sent) := by
  obtain ⟨_, _, _, _, within⟩ := aligned.own found
  obtain ⟨earlier, known, level⟩ : channel + 1 < before.shared.sharedTriggerState.created ∧
      before.shared.results.lookup channel = some (.ok .«continue») ∧ passed position before.output = round := by
    cases within with
    | pending phase _ =>
      cases phase.symm.trans waiting
      rw [aligned.unsent] at delivered
      cases delivered
    | released phase earlier known same =>
      cases phase.symm.trans waiting
      exact ⟨earlier, known, same⟩
    | before phase _ _ | checking phase _ _ | polling phase _ | finished phase _ =>
      rw [waiting] at phase
      cases phase
  cases delivered.symm.trans known
  obtain ⟨lives, waits⟩ : live (before.fibers.set position { fiber with phase := .streaming }) = live before.fibers ∧
      arrived (before.shared.sharedTriggerState.created - 1)
        (before.fibers.set position { fiber with phase := .streaming }) = _ :=
    counts_keep found (by simp [waiting]) (by simp) (by rw [waiting, Ne, FiberPhase.waiting.injEq]; omega) (by simp)
  refine aligned.quiet (fun items given => ?_) (fun _ _ _ _ within => within) ?_ aligned.shared aligned.awaited
    aligned.stored aligned.sent
  · obtain ⟨_, _, _, split, _, remaining⟩ := (aligned.stands _ _ _ given found).1.waited waiting
    exact ⟨.streaming split rfl remaining,
      .before rfl (fun _ _ next => insertStreamInstructions_ne_check (remaining.symm.trans next)) level⟩
  · rw [lives, waits]
    exact aligned.barrier

private theorem computeAndSend_continue {marker : Nat} {sender : Option Nat} (continues : check marker = .ok .«continue»)
    (heard : ∀ channel, sender = some channel → before.hasReceiver channel = true) :
    before.computeAndSend check (some marker) sender =
      ({ before with shared :=
          { before.shared with
            lastCompletedMarker := marker
            currentlyWaitingOnMarker := none
            results := before.shared.results ++ sender.toList.map (·, .ok .«continue») } }, .ok .«continue») := by
  cases sender with
  | none => simp [computeAndSend, SharedFiberState.runComputation, continues]
  | some channel => simp [computeAndSend, SharedFiberState.runComputation, continues, heard channel rfl, sendableResult]

/-- The last fiber of a round tells the others to go on, and the next round begins. -/
private theorem Aligned.complete (aligned : Aligned markers streams round before)
    (found : before.fibers[position]? = some fiber) {marker : Nat} (polling : fiber.phase = .polling marker)
    {trigger : InnerQueueState Nat} {sender : Option Nat} {stored : Nat}
    (others : ∀ other current, other ≠ position → before.fibers[other]? = some current →
      sender = some (before.shared.sharedTriggerState.created - 1) ∧
        current.phase = .waiting (before.shared.sharedTriggerState.created - 1))
    (created : trigger.created = before.shared.sharedTriggerState.created + sender.toList.length)
    (channel : ∀ channel ∈ sender, channel = before.shared.sharedTriggerState.created - 1)
    (next : Matches trigger (live before.fibers) 0)
    (queue : trigger.synchronisationQueue.isSome → 2 ≤ before.fibers.length) :
    Aligned markers streams (round + 1)
      { before with
        fibers := before.fibers.set position { fiber with phase := .streaming }
        shared :=
          { sharedTriggerState := trigger
            lastCompletedMarker := stored
            currentlyWaitingOnMarker := none
            results := before.shared.results ++ sender.toList.map (·, .ok .«continue») } } := by
  have positive := aligned.barrier.created
  obtain ⟨level, _⟩ := aligned.behind found (.inr polling)
  have none_waits : arrived (trigger.created - 1) (before.fibers.set position { fiber with phase := .streaming }) = 0 := by
    refine List.countP_eq_zero.mpr fun current member => ?_
    obtain ⟨other, located⟩ := List.mem_iff_getElem?.mp member
    rcases FiniteMap.getElem?_set_cases located with ⟨_, rfl⟩ | ⟨apart, located⟩
    · simp
    · obtain ⟨rfl, waiting⟩ := others other current apart located
      simp only [Option.toList_some, List.length_singleton] at created
      simp only [waiting, created, FiberPhase.waiting.injEq, decide_eq_true_eq]
      omega
  refine aligned.quiet (fun items given => ?_) (fun other current different located within => ?_) ?_ queue nofun
    (fun other held => ?_) ?_
  · obtain ⟨_, _, _, split, _, _, remaining⟩ := (aligned.stands _ _ _ given found).1.polled polling
    exact ⟨.streaming split rfl remaining,
      .before rfl (fun _ _ next => insertStreamInstructions_ne_check (remaining.symm.trans next)) level⟩
  · obtain ⟨rfl, waiting⟩ := others other current different located
    simp only [Option.toList_some, List.length_singleton] at created
    refine .released waiting (by dsimp only; omega) ?_ ?_
    · simp [List.lookup_append, aligned.unsent]
    · exact within.of_waiting waiting (by omega)
  · have lives := live_set { fiber with phase := .streaming } found
    simp only [polling] at lives
    rw [none_waits, Nat.add_right_cancel lives]
    exact next
  · have function := next.function
    dsimp only at held
    simp [held] at function
  · rw [List.forall_mem_append]
    refine ⟨fun entry member => Nat.lt_of_lt_of_le (aligned.sent entry member) (by dsimp only; omega), fun entry member => ?_⟩
    obtain ⟨number, given, rfl⟩ := List.mem_map.mp member
    have same := channel number (Option.mem_toList.mp given)
    have counted := List.length_pos_of_mem given
    dsimp only
    omega

private theorem Aligned.compute (aligned : Aligned markers streams round before)
    (continues : ∀ marker ∈ markers, check marker = .ok .«continue») (found : before.fibers[position]? = some fiber)
    {marker : Nat} (polling : fiber.phase = .polling marker) :
    ∃ later, Aligned markers streams later (before.compute check position fiber marker) := by
  obtain ⟨level, marked⟩ := aligned.behind found (.inr polling)
  have everybody := aligned.live_eq found level
  have positive := aligned.barrier.created
  have awaited : markers[round]? =
      some (before.shared.sharedTriggerState.computationFunction.getD marker) := by
    cases stored : before.shared.sharedTriggerState.computationFunction with
    | none => exact marked
    | some first => exact aligned.stored first stored
  have answer := continues _ (List.mem_of_getElem? awaited)
  have arrival := computeResult_arrival marker aligned.barrier (aligned.missing found (by simp [polling]))
  unfold RunningFibers.compute
  generalize before.shared.sharedTriggerState.computeResult marker = outcome at arrival ⊢
  cases arrival with
  | wait missing created stored present next =>
    refine ⟨round, aligned.quiet (fun items given => ⟨?_, .pending ?_ level⟩) (fun _ _ _ _ within => ?_) ?_ ?_
      aligned.awaited ?_ ?_⟩
    · obtain ⟨_, _, _, split, last, _, remaining⟩ := (aligned.stands _ _ _ given found).1.polled polling
      exact .waiting split last rfl remaining
    · simp only [setTrigger, created]
    · exact within.mono rfl (Nat.le_of_eq created.symm) fun _ => created
    · have lives := live_set { fiber with phase := .waiting (before.shared.sharedTriggerState.created - 1) } found
      have waits := arrived_set (before.shared.sharedTriggerState.created - 1)
        { fiber with phase := .waiting (before.shared.sharedTriggerState.created - 1) } found
      simp only [polling, reduceCtorEq, if_false, if_true] at lives waits
      rw [setTrigger, created, Nat.add_right_cancel lives, show arrived _ _ = _ from waits]
      exact next
    · exact fun queue => aligned.shared (present ▸ queue)
    · intro other held
      simp only [setTrigger, stored] at held
      exact held ▸ awaited
    · simpa only [setTrigger, created] using aligned.sent
  | last complete created present next =>
    have several := aligned.shared present
    dsimp only
    rw [computeAndSend_continue answer ?_]
    · refine ⟨round + 1, aligned.complete found polling (fun other current different located => ⟨rfl, ?_⟩) ?_ ?_ next
        fun _ => several⟩
      · exact others_wait (everybody.symm.trans complete) found (by simp [polling]) different located
      · exact created
      · simp
    · intro channel same
      cases same
      obtain ⟨current, member, waits⟩ := List.countP_pos_iff.mp
        (show 0 < arrived (before.shared.sharedTriggerState.created - 1) before.fibers by omega)
      exact List.any_eq_true.mpr ⟨current, member, waits⟩
  | alone single first created absent next =>
    dsimp only
    rw [computeAndSend_continue answer fun _ none => by cases none]
    refine ⟨round + 1, aligned.complete found polling (fun other current different located => ?_) created (by simp) next
      ?_⟩
    · have inside := (List.getElem?_eq_some_iff.mp found).1
      have there := (List.getElem?_eq_some_iff.mp located).1
      omega
    · intro queue
      simp only [setTrigger, absent] at queue
      cases queue

private theorem computeAndSend_unheard {sender : Option Nat}
    (unheard : ∀ channel, sender = some channel → before.hasReceiver channel = false) :
    (before.computeAndSend check none sender).1 = before := by
  cases sender with
  | none => rfl
  | some channel => simp [computeAndSend, SharedFiberState.runComputation, unheard channel rfl]

private theorem Aligned.end_arrived (aligned : Aligned markers streams round before) (done : round = markers.length)
    {channel : Nat} (current : before.shared.sharedTriggerState.created ≤ channel + 1) :
    arrived channel before.fibers = 0 := by
  refine List.countP_eq_zero.mpr fun other member waits => ?_
  obtain ⟨place, located⟩ := List.mem_iff_getElem?.mp member
  obtain ⟨_, _, _, _, within⟩ := aligned.own located
  have bound := aligned.passed_le located
  have level := within.of_waiting (of_decide_eq_true waits) current
  omega

private theorem Aligned.at_end (aligned : Aligned markers streams round before)
    (found : before.fibers[position]? = some fiber) {rest : List (RunningFiberCheckMarker (SResult ρ))}
    (streaming : fiber.phase = .streaming) (next : fiber.remaining = .finished :: rest) :
    streams[position]? = some (emittedBy position before.output) ∧ passed position before.output = round ∧
      round = markers.length := by
  obtain ⟨items, given, carried, stands, within⟩ := aligned.own found
  have whole := stands.whole streaming next
  have level : passed position before.output = round := by
    rcases within.of_streaming streaming with ⟨_, same⟩ | ⟨⟨_, _, check⟩, _⟩
    · exact same
    · cases check.symm.trans next
  exact ⟨whole ▸ given, level, by rw [← level, passed, ← whole, carried]⟩

private theorem Aligned.leave (aligned : Aligned markers streams round before)
    (found : before.fibers[position]? = some fiber) {rest : List (RunningFiberCheckMarker (SResult ρ))}
    (streaming : fiber.phase = .streaming) (next : fiber.remaining = .finished :: rest)
    {trigger : InnerQueueState Nat} (grown : before.shared.sharedTriggerState.created ≤ trigger.created)
    (queue : trigger.synchronisationQueue.isSome → before.shared.sharedTriggerState.synchronisationQueue.isSome)
    (counted : Matches trigger (live before.fibers - 1) 0) :
    Aligned markers streams round
      ((before.setTrigger trigger).setFiber position { fiber with remaining := rest, phase := .finished }) := by
  obtain ⟨given, level, done⟩ := aligned.at_end found streaming next
  have positive := aligned.barrier.created
  have nobody : arrived (before.shared.sharedTriggerState.created - 1) before.fibers = 0 :=
    aligned.end_arrived done (by omega)
  have lives : live (before.fibers.set position { fiber with remaining := rest, phase := .finished }) + 1 =
      live before.fibers := by
    simpa [streaming] using live_set { fiber with remaining := rest, phase := .finished } found
  have waits : arrived (trigger.created - 1)
      (before.fibers.set position { fiber with remaining := rest, phase := .finished }) = 0 := by
    have kept := arrived_set (trigger.created - 1) { fiber with remaining := rest, phase := .finished } found
    rw [aligned.end_arrived done (by omega)] at kept
    simpa [streaming] using kept
  refine aligned.quiet (fun other same => ?_) (fun other current _ located within => ?_) ?_
    (fun present => aligned.shared (queue present)) aligned.awaited (fun marker held => ?_)
    fun entry member => Nat.lt_of_lt_of_le (aligned.sent entry member) grown
  · cases given.symm.trans same
    exact ⟨.finished rfl rfl, .finished rfl level⟩
  · refine within.mono rfl grown fun waiting => ?_
    have pending := List.countP_eq_zero.mp nobody current (List.mem_of_getElem? located)
    simp [waiting] at pending
  · simp only [setTrigger]
    rw [waits, Nat.eq_sub_of_add_eq lives]
    exact counted
  · have function := counted.function
    simp only [setTrigger] at held
    simp [held] at function

private theorem Aligned.finish (aligned : Aligned markers streams round before)
    (found : before.fibers[position]? = some fiber) {rest : List (RunningFiberCheckMarker (SResult ρ))}
    (streaming : fiber.phase = .streaming) (next : fiber.remaining = .finished :: rest) :
    Aligned markers streams round (before.finish check position { fiber with remaining := rest }) := by
  obtain ⟨_, _, done⟩ := aligned.at_end found streaming next
  have positive := aligned.barrier.created
  have nobody : arrived (before.shared.sharedTriggerState.created - 1) before.fibers = 0 :=
    aligned.end_arrived done (by omega)
  have unstored : before.shared.sharedTriggerState.computationFunction = none := by
    have function := aligned.barrier.function
    rw [nobody] at function
    simpa using function
  have departure := removeParticipant_departure aligned.barrier (aligned.missing found (by simp [streaming]))
  rw [nobody] at departure
  unfold RunningFibers.finish
  generalize before.shared.sharedTriggerState.removeParticipant = outcome at departure ⊢
  cases departure with
  | wait _ created _ present counted =>
    exact aligned.leave found streaming next (Nat.le_of_eq created.symm) (fun queue => present ▸ queue) counted
  | last _ created present counted =>
    have unheard : ∀ trigger channel, some (before.shared.sharedTriggerState.created - 1) = some channel →
        (before.setTrigger trigger).hasReceiver channel = false := by
      intro trigger channel same
      cases same
      exact List.any_eq_false.mpr (List.countP_eq_zero.mp nobody)
    rw [unstored]
    dsimp only
    rw [computeAndSend_unheard (unheard _)]
    exact aligned.leave found streaming next (by omega) (fun _ => present) counted
  | alone _ _ created absent counted =>
    rw [unstored]
    dsimp only
    rw [computeAndSend_unheard fun _ none => by cases none]
    exact aligned.leave found streaming next (Nat.le_of_eq created.symm) (by simp [absent]) counted

private theorem Aligned.step (continues : ∀ marker ∈ markers, check marker = .ok .«continue»)
    {after : RunningFibers ρ} (stepped : RunningFibers.step check before position = some after)
    (aligned : Aligned markers streams round before) : ∃ later, Aligned markers streams later after := by
  obtain ⟨fiber, _, found, moved⟩ := step_moves stepped
  cases moved with
  | emit streaming next => exact ⟨_, aligned.emit found streaming next⟩
  | lock streaming next _ => exact ⟨_, aligned.lock found streaming next⟩
  | @conflict marker rest _ _ streaming next awaited different =>
    have here := (aligned.behind found (.inl ⟨marker, rest, streaming, next, rfl⟩)).2
    exact False.elim (different (Option.some.inj ((aligned.awaited _ awaited).symm.trans here)))
  | compute polling => exact aligned.compute continues found polling
  | finish streaming next => exact ⟨_, aligned.finish found streaming next⟩
  | receive waiting delivered => exact ⟨_, aligned.receive found waiting delivered⟩

end Step

private theorem Aligned.start {markers : List Nat} {streams : List (List (SResult ρ))}
    (carried : ∀ items ∈ streams, markersOf items = markers) (lastCompletedMarker : Nat) :
    Aligned markers streams 0 (.start lastCompletedMarker streams) where
  carried := carried
  calm := rfl
  size := by simp [RunningFibers.start]
  stands position items fiber given found := by
    simp only [RunningFibers.start, List.getElem?_map, given, Option.map_some, Option.some.injEq] at found
    subst found
    exact ⟨.start items, .before rfl (fun _ _ => insertStreamInstructions_ne_check) rfl⟩
  barrier := by
    have everybody : live (RunningFibers.start lastCompletedMarker streams).fibers = streams.length := by
      simp [live, RunningFibers.start]
    have nobody channel : arrived channel (RunningFibers.start lastCompletedMarker streams).fibers = 0 := by
      simp [arrived, RunningFibers.start]
    rw [everybody, nobody]
    exact .opened _
  shared queue := by
    simp only [RunningFibers.start, SharedFiberState.new, InnerQueueState.opened_eq] at queue
    split at queue
    next => cases queue
    next several =>
      simp only [RunningFibers.start, List.length_map]
      omega
  awaited := nofun
  stored _ held := by cases (InnerQueueState.opened_function streams.length).symm.trans held
  sent := nofun
  ordered := nofun

/-- Every schedule keeps the fibers within one round. -/
theorem run_aligned {markers : List Nat} {streams : List (List (SResult ρ))} {lastCompletedMarker : Nat}
    {actions : List Nat} {running : RunningFibers ρ} (carried : ∀ items ∈ streams, markersOf items = markers)
    (continues : ∀ marker ∈ markers, check marker = .ok .«continue»)
    (executed : run (RunningFibers.step check) (.start lastCompletedMarker streams) actions = some running) :
    ∃ round, Aligned markers streams round running := by
  have kept : ∀ before position after, RunningFibers.step check before position = some after →
      (∃ round, Aligned markers streams round before) → ∃ round, Aligned markers streams round after :=
    fun _ _ _ stepped ⟨_, aligned⟩ => aligned.step continues stepped
  exact run_preserves kept executed ⟨0, .start carried lastCompletedMarker⟩

end DatafusionRay.Proofs.Fibers
