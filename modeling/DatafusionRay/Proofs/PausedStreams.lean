import DatafusionRay.Foundation.TryFilterMap
import DatafusionRay.Proofs.FiberRounds
import DatafusionRay.Proofs.SingleFiber
import DatafusionRay.Streaming.RunningStream

/-! A remote source under scheduling updates. It ends when its fibers have all
finished or paused, since a second pull opens nothing: what a paused fiber has not
read yet, and what other addresses serve by then, is lost. -/

namespace DatafusionRay.Proofs.PausedStreams
open Streaming Foundation Fibers RunningStream

variable {ρ : Type} {peers : Peers ρ} {task : RunningTask} {source : RemoteSourceFunction}

/-- A stream serves the source if it was asked for at the pull, or if it should be asked for now. -/
def Serves (stream : RunningStream ρ) (key : String × String × PartitionRange) : Prop :=
  (∃ fibers, stream.fibers = some fibers ∧ key ∈ fibers.addresses) ∨
    ∃ generationId addresses, key ∈ addresses ∧
      stream.source.addressesAt stream.task.schedulingDetails stream.currentMarker = .ok (generationId, addresses)

/-- What came from the fiber of a stream; nothing if it has none. -/
def emittedFrom (fibers : PulledFibers ρ) (key : String × String × PartitionRange) : List (SResult ρ) :=
  emittedBy ((fiberKeys fibers.addresses).idxOf key) fibers.running.output

/-- Every item of every stream that serves the source has been put out. -/
def Lossless (peers : Peers ρ) (stream : RunningStream ρ) (fibers : PulledFibers ρ) : Prop :=
  ∀ key items, Serves stream key → createRemoteStream peers key.1 key.2.1 key.2.2 = .ok items →
    okItems (emittedFrom fibers key) = okItems items

def updatesOf (actions : List Action) : List TaskSchedulingDetailsUpdate :=
  actions.filterMap fun
    | .update details => some details
    | .pull | .poll _ | .drained => none

/-- The scheduling details that the operators see after some updates. -/
def detailsAfter (task : RunningTask) (updates : List TaskSchedulingDetailsUpdate) : SchedulingDetails :=
  (task.updateAll updates).schedulingDetails

/-- The fibers of a source that is pulled after some updates. -/
def PulledAfter (peers : Peers ρ) (task : RunningTask) (source : RemoteSourceFunction)
    (updates : List TaskSchedulingDetailsUpdate) (pulled : PulledFibers ρ) : Prop :=
  source.pull peers (detailsAfter task updates) source.loadedCheckpoint = .ok pulled

/-- The generation and the addresses of a pull are those that the details name at a marker,
as far as they name any. -/
def Unchanged (source : RemoteSourceFunction) (pulled : PulledFibers ρ) (details : SchedulingDetails) (marker : Nat) : Prop :=
  ∀ generation inputs, details.current source.streamIds marker = .ok (generation, inputs) →
    generation.id = pulled.generationId ∧
      ∀ addresses, getAddresses generation.partitions marker source.streamIds inputs = .ok addresses →
        ∀ address, address ∈ addresses ↔ address ∈ pulled.addresses

/-- No update after the pull changes the generation or the addresses at a marker that has an item behind it. -/
def Undisturbed (peers : Peers ρ) (task : RunningTask) (source : RemoteSourceFunction)
    (updates : List TaskSchedulingDetailsUpdate) : Prop :=
  ∀ before during after pulled, updates = before ++ during ++ after → PulledAfter peers task source before pulled →
    ∀ items ∈ pulled.streams, ∀ done marker todo, items = done ++ .ok (.marker marker) :: todo → okItems todo ≠ [] →
      Unchanged source pulled (detailsAfter task (before ++ during)) marker.checkpointNumber

/-- A stream without a fiber is empty, if the pull or the last update names it at the loaded
checkpoint or at a marker that can be the last completed one. -/
def Unmissed (peers : Peers ρ) (task : RunningTask) (source : RemoteSourceFunction)
    (updates : List TaskSchedulingDetailsUpdate) : Prop :=
  ∀ before after pulled, updates = before ++ after → PulledAfter peers task source before pulled →
    ∀ key items, key ∉ fiberKeys pulled.addresses → createRemoteStream peers key.1 key.2.1 key.2.2 = .ok items →
      (key ∈ pulled.addresses ∨ ∃ number ∈ source.loadedCheckpoint :: pulled.streams.flatMap markersOf,
        ∃ generationId addresses, key ∈ addresses ∧
          source.addressesAt (detailsAfter task updates) number = .ok (generationId, addresses)) →
      okItems items = []

section Pull
variable {details : SchedulingDetails} {marker : Nat} {fibers : PulledFibers ρ}

theorem unchanged_iff : Unchanged source fibers details marker ↔ fibers.check source details marker ≠ .ok .pause := by
  rw [Unchanged, PulledFibers.check, SchedulingDetails.checkGenerationAndAddresses]
  cases details.current source.streamIds marker with
  | error error =>
    refine iff_of_true (fun _ _ named => ?_) (fun paused => ?_)
    · cases named
    · cases paused
  | ok current =>
    obtain ⟨generation, inputs⟩ := current
    simp only [Except.ok.injEq, Prod.mk.injEq, and_imp, forall_apply_eq_imp_iff, forall_eq', bind, Except.bind, pure, Except.pure]
    by_cases same : generation.id = fibers.generationId
    · cases getAddresses generation.partitions marker source.streamIds inputs with
      | error error => simp [same]
      | ok addresses => simp [same, iff_def, forall_and]
    · simp [same]

theorem pull_eq_ok (pulled : source.pull peers details marker = .ok fibers) :
    List.Forall₂ (fun key items => createRemoteStream peers key.1 key.2.1 key.2.2 = .ok items)
        (fiberKeys fibers.addresses) fibers.streams ∧
      fibers.running = { RunningFibers.start marker fibers.streams with shared := .new marker fibers.addresses.length } := by
  obtain ⟨⟨generationId, addresses⟩, -, rest⟩ := bind_eq_ok.mp pulled
  obtain ⟨streams, created, same⟩ := bind_eq_ok.mp rest
  cases same
  exact ⟨mapM_ok created, rfl⟩

theorem length_fiberKeys_le (addresses : List (String × String × PartitionRange)) :
    (fiberKeys addresses).length ≤ addresses.length :=
  (nodup_fiberKeys addresses).subperm (fun _ => mem_of_mem_fiberKeys) |>.length_le

end Pull

/-- What a step of the source can be. -/
inductive Moves (peers : Peers ρ) (stream : RunningStream ρ) : Action → RunningStream ρ → Prop where
  | update (details) : Moves peers stream (.update details)
      { stream with task := stream.task.updateSchedulingDetails details }
  | failed (pulling : stream.phase = .pulling) :
      Moves peers stream .pull { stream with pullCalled := true, phase := .panicked }
  | again (pulling : stream.phase = .pulling) (called : stream.pullCalled = true) :
      Moves peers stream .pull { stream with pullCalled := true, phase := .ended }
  | pull {fibers} (pulling : stream.phase = .pulling) (first : stream.pullCalled = false)
      (passed : stream.source.pull peers stream.task.schedulingDetails stream.currentMarker = .ok fibers) :
      Moves peers stream .pull { stream with
        pullCalled := true, fibers := some fibers, phase := if fibers.streams.isEmpty then .ended else .merging }
  | poll {position fibers running} (merging : stream.phase = .merging) (held : stream.fibers = some fibers)
      (stepped : fibers.running.step (stream.check fibers) position = some running) :
      Moves peers stream (.poll position) { stream with fibers := some { fibers with running } }
  | drained {fibers} (merging : stream.phase = .merging) (held : stream.fibers = some fibers)
      (rested : isDrained fibers.running = true) : Moves peers stream .drained { stream with phase := .pulling }

theorem step_moves {stream after : RunningStream ρ} {action : Action} (stepped : step peers stream action = some after) :
    Moves peers stream action after := by
  cases action with
  | update details =>
    cases stepped
    exact .update details
  | pull =>
    simp only [step] at stepped
    split at stepped
    next pulling =>
      cases called : stream.pullCalled with
      | true =>
        rw [pull, called, if_pos rfl] at stepped
        cases stepped
        exact .again pulling called
      | false =>
        rw [pull, called, if_neg Bool.false_ne_true] at stepped
        cases passed : stream.source.pull peers stream.task.schedulingDetails stream.currentMarker with
        | error error =>
          rw [passed] at stepped
          cases stepped
          exact .failed pulling
        | ok fibers =>
          rw [passed] at stepped
          cases stepped
          exact .pull pulling called passed
    next => cases stepped
  | poll position =>
    simp only [step] at stepped
    split at stepped
    next fibers merging held =>
      obtain ⟨running, moved, rfl⟩ := Option.map_eq_some_iff.mp stepped
      exact .poll merging held moved
    next => cases stepped
  | drained =>
    simp only [step] at stepped
    split at stepped
    next fibers merging held =>
      split at stepped
      next rested =>
        cases stepped
        exact .drained merging held rested
      next => cases stepped
    next => cases stepped

/-- The fibers of a source, which were pulled after the updates `before`. A fiber pauses
at a marker only if the check does so after some of the updates `during`. -/
structure Opened (peers : Peers ρ) (task : RunningTask) (source : RemoteSourceFunction)
    (before during : List TaskSchedulingDetailsUpdate) (fibers : PulledFibers ρ) : Prop where
  pulled : ∃ pulled, PulledAfter peers task source before pulled ∧ pulled.generationId = fibers.generationId ∧
    pulled.addresses = fibers.addresses ∧ pulled.streams = fibers.streams
  rounds : Rounds (fun number => ∃ part, part <+: during ∧
      fibers.check source (detailsAfter task (before ++ part)) number = .ok .pause)
    (fibers.addresses.length - fibers.streams.length) source.loadedCheckpoint fibers.streams fibers.running

/-- What holds of a source after some updates. Between two pulls, and at its end, it has
only fibers that will not move again. -/
structure Traced (peers : Peers ρ) (task : RunningTask) (source : RemoteSourceFunction)
    (updates : List TaskSchedulingDetailsUpdate) (stream : RunningStream ρ) : Prop where
  updated : stream.task = task.updateAll updates
  kept : stream.source = source
  unpulled : stream.pullCalled = false → stream.fibers = none
  opened : ∀ fibers, stream.fibers = some fibers →
    ∃ before during, updates = before ++ during ∧ Opened peers task source before during fibers
  rested : stream.phase = .ended ∨ (stream.phase = .pulling ∧ stream.pullCalled = true) →
    ∃ fibers, stream.fibers = some fibers ∧ isDrained fibers.running = true

section Trace
variable {updates : List TaskSchedulingDetailsUpdate} {stream after : RunningStream ρ}

theorem Traced.start : Traced peers task source [] (.start task source) where
  updated := rfl
  kept := rfl
  unpulled _ := rfl
  opened := nofun
  rested := nofun

private theorem Traced.update (traced : Traced peers task source updates stream) (details : TaskSchedulingDetailsUpdate) :
    Traced peers task source (updates ++ [details]) { stream with task := stream.task.updateSchedulingDetails details } := by
  refine ⟨?_, traced.kept, traced.unpulled, fun fibers held => ?_, traced.rested⟩
  · rw [traced.updated, RunningTask.updateAll, RunningTask.updateAll, List.foldl_append]
    rfl
  · obtain ⟨before, during, rfl, opened⟩ := traced.opened fibers held
    refine ⟨before, during ++ [details], List.append_assoc _ _ _, opened.pulled, ?_⟩
    exact opened.rounds.weaken fun number ⟨part, early, paused⟩ =>
      ⟨part, early.trans (List.prefix_append _ _), paused⟩

private theorem Traced.pull {fibers : PulledFibers ρ} (traced : Traced peers task source updates stream)
    (first : stream.pullCalled = false)
    (passed : stream.source.pull peers stream.task.schedulingDetails stream.currentMarker = .ok fibers) :
    Traced peers task source updates { stream with
      pullCalled := true, fibers := some fibers, phase := if fibers.streams.isEmpty then .ended else .merging } := by
  have marker : stream.currentMarker = source.loadedCheckpoint := by
    rw [currentMarker, traced.unpulled first, traced.kept]
  rw [traced.kept, traced.updated, marker] at passed
  obtain ⟨created, running⟩ := pull_eq_ok passed
  have enough : fibers.streams.length ≤ fibers.addresses.length :=
    created.length_eq ▸ length_fiberKeys_le fibers.addresses
  refine ⟨traced.updated, traced.kept, nofun, fun other held => ?_, fun rested => ⟨fibers, rfl, ?_⟩⟩
  · cases held
    refine ⟨updates, [], (List.append_nil _).symm, ⟨fibers, passed, rfl, rfl, rfl⟩, ?_⟩
    rw [running]
    exact .start enough
  · cases empty : fibers.streams.isEmpty with
    | true =>
      rw [running, List.isEmpty_iff.mp empty]
      rfl
    | false => simp [empty] at rested

private theorem Traced.poll {position : Nat} {fibers : PulledFibers ρ} {running : RunningFibers ρ}
    (traced : Traced peers task source updates stream) (merging : stream.phase = .merging)
    (held : stream.fibers = some fibers)
    (stepped : fibers.running.step (stream.check fibers) position = some running) :
    Traced peers task source updates { stream with fibers := some { fibers with running } } := by
  refine ⟨traced.updated, traced.kept, fun first => ?_, fun other same => ?_, by simp [merging]⟩
  · cases (traced.unpulled first).symm.trans held
  · cases same
    obtain ⟨before, during, rfl, opened⟩ := traced.opened fibers held
    refine ⟨before, during, rfl, opened.pulled, opened.rounds.step stepped fun number paused => ?_⟩
    refine ⟨during, List.prefix_rfl, ?_⟩
    rw [RunningStream.check, traced.kept, traced.updated] at paused
    exact paused

theorem Traced.step {past : List Action} {action : Action} (stepped : step peers stream action = some after)
    (traced : Traced peers task source (updatesOf past) stream) :
    Traced peers task source (updatesOf (past ++ [action])) after := by
  rw [updatesOf, List.filterMap_append]
  have quiet {next : RunningStream ρ} (holds : Traced peers task source (updatesOf past) next) :
      Traced peers task source (updatesOf past ++ []) next := by rwa [List.append_nil]
  cases step_moves stepped with
  | update details => exact traced.update details
  | failed pulling => exact quiet ⟨traced.updated, traced.kept, nofun, traced.opened, by simp⟩
  | again pulling called =>
    exact quiet ⟨traced.updated, traced.kept, nofun, traced.opened, fun _ => traced.rested (.inr ⟨pulling, called⟩)⟩
  | pull pulling first passed => exact quiet (traced.pull first passed)
  | poll merging held moved => exact quiet (traced.poll merging held moved)
  | drained merging held rested =>
    exact quiet ⟨traced.updated, traced.kept, traced.unpulled, traced.opened, fun _ => ⟨_, held, rested⟩⟩

end Trace

theorem mem_insertStreamInstructions {result : SResult ρ} {todo : List (SResult ρ)} :
    .item result ∈ insertStreamInstructions todo ↔ result ∈ todo := by
  induction todo using insertStreamInstructions.induct with
  | case1 => simp [insertStreamInstructions]
  | case2 marker rest ih => simp [insertStreamInstructions, ih]
  | case3 other rest unmarked ih => simp [insertStreamInstructions, ih]

theorem okItems_eq_nil_iff {results : List (SResult ρ)} : okItems results = [] ↔ ∀ item, .ok item ∉ results := by
  rw [okItems, List.filterMap_eq_nil_iff]
  constructor
  · intro none item member
    cases none _ member
  · intro absent result member
    cases result with
    | error error => rfl
    | ok item => exact False.elim (absent item member)

section Lossless
variable {before during : List TaskSchedulingDetailsUpdate} {fibers : PulledFibers ρ}
  {key : String × String × PartitionRange}

theorem Opened.created (opened : Opened peers task source before during fibers) :
    List.Forall₂ (fun key items => createRemoteStream peers key.1 key.2.1 key.2.2 = .ok items)
      (fiberKeys fibers.addresses) fibers.streams := by
  obtain ⟨pulled, passed, -, addresses, streams⟩ := opened.pulled
  rw [← addresses, ← streams]
  exact (pull_eq_ok passed).1

theorem Opened.fiber (opened : Opened peers task source before during fibers)
    (inside : key ∈ fiberKeys fibers.addresses) :
    ∃ items fiber, createRemoteStream peers key.1 key.2.1 key.2.2 = .ok items ∧
      fibers.streams[(fiberKeys fibers.addresses).idxOf key]? = some items ∧
      fibers.running.fibers[(fiberKeys fibers.addresses).idxOf key]? = some fiber := by
  have bound := List.idxOf_lt_length_iff.mpr inside
  have matching : (fiberKeys fibers.addresses).idxOf key < fibers.streams.length := opened.created.length_eq ▸ bound
  obtain ⟨fiber, found⟩ := exists_fiber opened.rounds.progress.size matching
  have created := opened.created.get bound matching
  simp only [List.get_eq_getElem, List.getElem_idxOf] at created
  exact ⟨_, fiber, created, List.getElem?_eq_getElem matching, found⟩

theorem Opened.emittedFrom_absent (opened : Opened peers task source before during fibers)
    (absent : key ∉ fiberKeys fibers.addresses) : emittedFrom fibers key = [] := by
  rw [emittedFrom, List.idxOf_eq_length absent, opened.created.length_eq, emittedBy, List.filterMap_eq_nil_iff]
  intro entry member
  exact if_neg (Nat.ne_of_lt (opened.rounds.progress.origin entry member))

/-- A fiber at rest has put out its whole stream, unless the check paused it in front of an item. -/
theorem Opened.whole {after : List TaskSchedulingDetailsUpdate} (opened : Opened peers task source before during fibers)
    (undisturbed : Undisturbed peers task source (before ++ during ++ after)) (drained : isDrained fibers.running = true)
    {position : Nat} {items : List (SResult ρ)} {fiber : RunningFiber ρ}
    (given : fibers.streams[position]? = some items) (found : fibers.running.fibers[position]? = some fiber) :
    okItems (emittedBy position fibers.running.output) = okItems items := by
  obtain ⟨done, stands, emitted⟩ := opened.rounds.progress.stands position items fiber given found
  have rests : fiber.phase = .paused ∨ fiber.phase = .finished := by
    simp only [isDrained, Bool.and_eq_true, List.all_eq_true, Bool.or_eq_true, decide_eq_true_eq] at drained
    exact drained.2 fiber (List.mem_of_getElem? found)
  rw [emitted]
  rcases rests with paused | finished
  · obtain ⟨number, ⟨front, marker, todo, split, rfl, remaining⟩, part, ⟨later, rfl⟩, answer⟩ :=
      (opened.rounds.heeds position items fiber given found).halted paused
    obtain ⟨pulled, passed, generation, addresses, streams⟩ := opened.pulled
    have nothing : okItems todo = [] := by
      by_contra more
      have opened : items ∈ pulled.streams := by
        rw [streams]
        exact List.mem_of_getElem? given
      have unchanged := undisturbed before part (later ++ after) pulled (by simp) passed items opened front marker todo split more
      rw [unchanged_iff, PulledFibers.check, generation, addresses] at unchanged
      exact unchanged answer
    obtain ⟨_, _, rest, whole, _, same⟩ := stands.halted paused
    have none : okItems rest = [] := by
      rw [okItems_eq_nil_iff] at nothing ⊢
      intro item member
      rw [← mem_insertStreamInstructions, ← same, remaining, mem_insertStreamInstructions] at member
      exact nothing item member
    rw [whole, okItems_append, none, List.append_nil]
  · rw [stands.ended finished]

theorem Opened.lossless {updates : List TaskSchedulingDetailsUpdate} {stream : RunningStream ρ}
    (opened : Opened peers task source before during fibers) (split : updates = before ++ during)
    (undisturbed : Undisturbed peers task source updates) (unmissed : Unmissed peers task source updates)
    (traced : Traced peers task source updates stream) (held : stream.fibers = some fibers)
    (drained : isDrained fibers.running = true) : Lossless peers stream fibers := by
  intro key items serves created
  by_cases inside : key ∈ fiberKeys fibers.addresses
  · obtain ⟨own, fiber, same, given, found⟩ := opened.fiber inside
    cases same.symm.trans created
    rw [split, ← List.append_nil (before ++ during)] at undisturbed
    exact opened.whole undisturbed drained given found
  · obtain ⟨pulled, passed, -, addresses, streams⟩ := opened.pulled
    rw [opened.emittedFrom_absent inside, unmissed before during pulled split passed key items (addresses ▸ inside) created]
    · rfl
    · rcases serves with ⟨other, open_, member⟩ | ⟨generationId, now, member, located⟩
      · cases open_.symm.trans held
        exact .inl (addresses ▸ member)
      · refine .inr ⟨stream.currentMarker, ?_, generationId, now, member, ?_⟩
        · rw [currentMarker, held, streams]
          exact opened.rounds.completed
        · rw [detailsAfter, ← traced.updated, ← traced.kept]
          exact located

end Lossless

section Runs
variable {stream : RunningStream ρ}

end Runs

/-- A source that has ended puts out nothing more. -/
theorem ended_for_good {stream later : RunningStream ρ} {actions : List Action} (ended : stream.phase = .ended)
    (executed : run (step peers) stream actions = some later) : later.phase = .ended ∧ later.fibers = stream.fibers := by
  have kept (before : RunningStream ρ) (action : Action) (after : RunningStream ρ)
      (stepped : step peers before action = some after)
      (still : before.phase = .ended ∧ before.fibers = stream.fibers) :
      after.phase = .ended ∧ after.fibers = stream.fibers := by
    cases step_moves stepped with
    | update details => exact still
    | failed phase | again phase _ | pull phase _ _ | poll phase _ _ | drained phase _ _ =>
      rw [still.1] at phase
      cases phase
  exact run_preserves kept executed ⟨ended, rfl⟩

end DatafusionRay.Proofs.PausedStreams
