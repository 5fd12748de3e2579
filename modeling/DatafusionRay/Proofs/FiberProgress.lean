import DatafusionRay.Foundation.FiniteMap
import DatafusionRay.Proofs.FiberMoves

/-! How far a fiber has come in its own stream, in every run and whatever the
shared state answers: it has put out a leading part of its items in order, and
beside them only errors. -/

namespace DatafusionRay.Proofs.Fibers
open Streaming Foundation RunningFibers

variable {ρ : Type} {check : Nat → Except DataFusionError FiberState}

/-- The fiber has put out `done` of its items and stands at the instructions that follow. -/
inductive Stands (items done : List (SResult ρ)) (fiber : RunningFiber ρ) : Prop where
  | streaming {todo} (split : items = done ++ todo) (phase : fiber.phase = .streaming)
      (remaining : fiber.remaining = insertStreamInstructions todo)
  | checking {before marker todo} (split : items = done ++ todo) (last : done = before ++ [.ok (.marker marker)])
      (phase : fiber.phase = .streaming) (remaining : fiber.remaining = .check marker :: insertStreamInstructions todo)
  | polling {before marker todo} (split : items = done ++ todo) (last : done = before ++ [.ok (.marker marker)])
      (phase : fiber.phase = .polling marker.checkpointNumber)
      (remaining : fiber.remaining = insertStreamInstructions todo)
  | waiting {before marker todo channel} (split : items = done ++ todo)
      (last : done = before ++ [.ok (.marker marker)]) (phase : fiber.phase = .waiting channel)
      (remaining : fiber.remaining = insertStreamInstructions todo)
  | paused {before marker todo} (split : items = done ++ todo) (last : done = before ++ [.ok (.marker marker)])
      (phase : fiber.phase = .paused) (remaining : fiber.remaining = insertStreamInstructions todo)
  | finished (whole : items = done) (phase : fiber.phase = .finished)

theorem Stands.start (items : List (SResult ρ)) : Stands items [] ⟨insertStreamInstructions items, .streaming⟩ :=
  .streaming rfl rfl rfl

theorem Stands.split {items done : List (SResult ρ)} {fiber : RunningFiber ρ} (stands : Stands items done fiber) :
    ∃ todo, items = done ++ todo := by
  cases stands with
  | finished whole _ => exact ⟨[], by simp [whole]⟩
  | streaming split _ _ | checking split _ _ _ | polling split _ _ _ | waiting split _ _ _ | paused split _ _ _ =>
    exact ⟨_, split⟩

theorem answerItems_errors (answer : Except DataFusionError FiberState) :
    ∀ item ∈ (answerItems answer : List (SResult ρ)), ∃ error, item = .error error := by
  rcases answer with error | state
  · intro item member
    exact ⟨error, List.mem_singleton.mp member⟩
  · exact nofun

/-- The next item of a stream, which is a marker exactly if a check follows it. -/
theorem Stands.emit {items done : List (SResult ρ)} {fiber : RunningFiber ρ} {result : SResult ρ}
    {rest : List (RunningFiberCheckMarker (SResult ρ))} (stands : Stands items done fiber)
    (streaming : fiber.phase = .streaming) (next : fiber.remaining = .item result :: rest) :
    Stands items (done ++ [result]) ⟨rest, .streaming⟩ ∧
      ((∃ marker later, markersOf [result] = [marker.checkpointNumber] ∧ rest = .check marker :: later) ∨
        (markersOf [result] = [] ∧ ∀ marker later, rest ≠ .check marker :: later)) := by
  cases stands with
  | streaming split _ remaining =>
    obtain ⟨later, rfl, marked⟩ := insertStreamInstructions_item (remaining.symm.trans next)
    have longer : items = (done ++ [result]) ++ later := by rw [split, List.append_assoc, List.singleton_append]
    rcases marked with ⟨marker, rfl, rfl⟩ | ⟨unmarked, rfl⟩
    · exact ⟨.checking longer rfl rfl rfl, .inl ⟨marker, _, rfl, rfl⟩⟩
    · exact ⟨.streaming longer rfl rfl, .inr ⟨unmarked, fun _ _ => insertStreamInstructions_ne_check⟩⟩
  | checking _ _ _ remaining =>
    rw [remaining] at next
    cases next
  | polling _ _ phase _ | waiting _ _ phase _ | paused _ _ phase _ | finished _ phase =>
    rw [streaming] at phase
    cases phase

section Moves
variable {items done : List (SResult ρ)} {fiber : RunningFiber ρ}

theorem Stands.lock {marker : Marker} {rest : List (RunningFiberCheckMarker (SResult ρ))}
    (stands : Stands items done fiber) (streaming : fiber.phase = .streaming)
    (next : fiber.remaining = .check marker :: rest) :
    Stands items done ⟨rest, .polling marker.checkpointNumber⟩ := by
  cases stands with
  | streaming _ _ remaining => exact False.elim (insertStreamInstructions_ne_check (remaining.symm.trans next))
  | checking split last _ remaining =>
    cases remaining.symm.trans next
    exact .polling split last rfl rfl
  | polling _ _ phase _ | waiting _ _ phase _ | paused _ _ phase _ | finished _ phase =>
    rw [streaming] at phase
    cases phase

theorem Stands.polled {number : Nat} (stands : Stands items done fiber) (polling : fiber.phase = .polling number) :
    ∃ before marker todo, items = done ++ todo ∧ done = before ++ [.ok (.marker marker)] ∧
      marker.checkpointNumber = number ∧ fiber.remaining = insertStreamInstructions todo := by
  cases stands with
  | polling split last phase remaining =>
    cases phase.symm.trans polling
    exact ⟨_, _, _, split, last, rfl, remaining⟩
  | streaming _ phase _ | checking _ _ phase _ | waiting _ _ phase _ | paused _ _ phase _ | finished _ phase =>
    rw [polling] at phase
    cases phase

theorem Stands.waited {channel : Nat} (stands : Stands items done fiber) (waiting : fiber.phase = .waiting channel) :
    ∃ before marker todo, items = done ++ todo ∧ done = before ++ [.ok (.marker marker)] ∧
      fiber.remaining = insertStreamInstructions todo := by
  cases stands with
  | waiting split last _ remaining => exact ⟨_, _, _, split, last, remaining⟩
  | streaming _ phase _ | checking _ _ phase _ | polling _ _ phase _ | paused _ _ phase _ | finished _ phase =>
    rw [waiting] at phase
    cases phase

theorem Stands.answer {before todo : List (SResult ρ)} {marker : Marker} (split : items = done ++ todo)
    (last : done = before ++ [.ok (.marker marker)]) (remaining : fiber.remaining = insertStreamInstructions todo)
    (answer : Except DataFusionError FiberState) : Stands items done { fiber with phase := answerPhase answer } := by
  rcases answer with error | state
  · exact .streaming split rfl remaining
  · cases state with
    | «continue» => exact .streaming split rfl remaining
    | pause => exact .paused split last rfl remaining

theorem Stands.whole {rest : List (RunningFiberCheckMarker (SResult ρ))} (stands : Stands items done fiber)
    (streaming : fiber.phase = .streaming) (next : fiber.remaining = .finished :: rest) : items = done := by
  cases stands with
  | streaming split _ remaining =>
    obtain ⟨rfl, _⟩ := insertStreamInstructions_finished (remaining.symm.trans next)
    rw [split, List.append_nil]
  | checking _ _ _ remaining => cases remaining.symm.trans next
  | polling _ _ phase _ | waiting _ _ phase _ | paused _ _ phase _ | finished _ phase =>
    rw [streaming] at phase
    cases phase

theorem Stands.enabled {running : RunningFibers ρ} {position : Nat} (stands : Stands items done fiber)
    (streaming : fiber.phase = .streaming) (calm : running.panicked = false)
    (found : running.fibers[position]? = some fiber) : step check running position ≠ none := by
  have more : fiber.remaining ≠ [] := by
    cases stands with
    | streaming _ _ remaining =>
      rw [remaining]
      exact insertStreamInstructions_ne_nil
    | checking _ _ _ remaining =>
      rw [remaining]
      exact List.cons_ne_nil _ _
    | polling _ _ phase _ | waiting _ _ phase _ | paused _ _ phase _ | finished _ phase =>
      rw [streaming] at phase
      cases phase
  obtain ⟨next, rest, head⟩ := List.exists_cons_of_ne_nil more
  cases next <;> simp [step, calm, found, streaming, head]

theorem Stands.ended (stands : Stands items done fiber) (ended : fiber.phase = .finished) : items = done := by
  cases stands with
  | finished whole _ => exact whole
  | streaming _ phase _ | checking _ _ phase _ | polling _ _ phase _ | waiting _ _ phase _ | paused _ _ phase _ =>
    rw [ended] at phase
    cases phase

/-- A paused fiber stands behind a marker. -/
theorem Stands.halted (stands : Stands items done fiber) (paused : fiber.phase = .paused) :
    ∃ before marker todo, items = done ++ todo ∧ done = before ++ [.ok (.marker marker)] ∧
      fiber.remaining = insertStreamInstructions todo := by
  cases stands with
  | paused split last _ remaining => exact ⟨_, _, _, split, last, remaining⟩
  | streaming _ phase _ | checking _ _ phase _ | polling _ _ phase _ | waiting _ _ phase _ | finished _ phase =>
    rw [paused] at phase
    cases phase

/-- A move puts out the fiber's next item, or nothing but errors. -/
theorem Stands.advance {next : RunningFiber ρ} {out : List (SResult ρ)} (stands : Stands items done fiber)
    (advance : Advance fiber next out) :
    Stands items (done ++ out) next ∨ (Stands items done next ∧ ∀ item ∈ out, ∃ error, item = .error error) := by
  cases advance with
  | emit => exact .inl (stands.emit rfl rfl).1
  | lock => exact .inr ⟨stands.lock rfl rfl, nofun⟩
  | conflict =>
    cases stands.lock rfl rfl with
    | polling split _ _ remaining =>
      exact .inr ⟨.streaming split rfl remaining, fun item member => ⟨_, List.mem_singleton.mp member⟩⟩
    | streaming _ phase _ | checking _ _ phase _ | waiting _ _ phase _ | paused _ _ phase _ | finished _ phase =>
      cases phase
  | wait =>
    obtain ⟨_, _, _, split, last, _, remaining⟩ := stands.polled rfl
    exact .inr ⟨.waiting split last rfl remaining, nofun⟩
  | answer answer =>
    obtain ⟨_, _, _, split, last, _, remaining⟩ := stands.polled rfl
    exact .inr ⟨.answer split last remaining answer, answerItems_errors answer⟩
  | receive answer =>
    obtain ⟨_, _, _, split, last, remaining⟩ := stands.waited rfl
    exact .inr ⟨.answer split last remaining answer, answerItems_errors answer⟩
  | finish => exact .inr ⟨.finished (stands.whole rfl rfl) rfl, nofun⟩

end Moves

def okItems (results : List (SResult ρ)) : List (SItem ρ) := results.filterMap Except.toOption

theorem okItems_append (first second : List (SResult ρ)) : okItems (first ++ second) = okItems first ++ okItems second :=
  List.filterMap_append

theorem okItems_errors {results : List (SResult ρ)} (errors : ∀ item ∈ results, ∃ error, item = .error error) :
    okItems results = [] := by
  refine List.filterMap_eq_nil_iff.mpr fun item member => ?_
  obtain ⟨error, rfl⟩ := errors item member
  rfl

theorem exists_fiber {streams : List (List (SResult ρ))} {running : RunningFibers ρ} {position : Nat}
    (size : running.fibers.length = streams.length) (inside : position < streams.length) :
    ∃ fiber, running.fibers[position]? = some fiber :=
  ⟨_, List.getElem?_eq_getElem (size ▸ inside)⟩

structure Progress (streams : List (List (SResult ρ))) (running : RunningFibers ρ) : Prop where
  size : running.fibers.length = streams.length
  origin : ∀ entry ∈ running.output, entry.1 < streams.length
  stands : ∀ position items fiber, streams[position]? = some items → running.fibers[position]? = some fiber →
    ∃ done, Stands items done fiber ∧ okItems (emittedBy position running.output) = okItems done

theorem Progress.start (lastCompletedMarker : Nat) (streams : List (List (SResult ρ))) :
    Progress streams (.start lastCompletedMarker streams) where
  size := by simp [RunningFibers.start]
  origin := nofun
  stands position items fiber given found := by
    simp only [RunningFibers.start, List.getElem?_map, given, Option.map_some, Option.some.injEq] at found
    exact ⟨[], found ▸ .start items, rfl⟩

theorem Progress.step {streams : List (List (SResult ρ))} {before after : RunningFibers ρ} {position : Nat}
    (stepped : RunningFibers.step check before position = some after) (progress : Progress streams before) :
    Progress streams after := by
  obtain ⟨fiber, _, found, moved⟩ := step_moves stepped
  rcases moved.effect with rfl | ⟨_, next, out, advance, fibers, output⟩
  · exact { progress with }
  · have inside : position < before.fibers.length := (List.getElem?_eq_some_iff.mp found).1
    refine ⟨by rw [fibers, List.length_set, progress.size], ?_, ?_⟩
    · rw [output, List.forall_mem_append]
      refine ⟨progress.origin, fun entry member => ?_⟩
      obtain ⟨_, _, rfl⟩ := List.mem_map.mp member
      exact progress.size ▸ inside
    · intro other items current given located
      rw [fibers] at located
      rw [output, emittedBy_append, okItems_append]
      rcases FiniteMap.getElem?_set_cases located with ⟨rfl, rfl⟩ | ⟨apart, located⟩
      · obtain ⟨done, stands, emitted⟩ := progress.stands other items fiber given found
        rw [emittedBy_map_self, emitted]
        rcases stands.advance advance with further | ⟨still, errors⟩
        · exact ⟨done ++ out, further, (okItems_append _ _).symm⟩
        · exact ⟨done, still, by rw [okItems_errors errors, List.append_nil]⟩
      · obtain ⟨done, stands, emitted⟩ := progress.stands other items current given located
        rw [emittedBy_map_ne (Ne.symm apart), emitted]
        exact ⟨done, stands, List.append_nil _⟩

theorem run_progress {streams : List (List (SResult ρ))} {lastCompletedMarker : Nat} {actions : List Nat}
    {running : RunningFibers ρ}
    (executed : run (RunningFibers.step check) (.start lastCompletedMarker streams) actions = some running) :
    Progress streams running :=
  run_preserves (fun _ _ _ => Progress.step) executed (.start lastCompletedMarker streams)

end DatafusionRay.Proofs.Fibers
