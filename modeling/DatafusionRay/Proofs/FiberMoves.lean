import DatafusionRay.Foundation.Execution
import DatafusionRay.Streaming.Fibers

/-! What one poll of a fiber can do, what it costs, and which items of the
merged output come from which fiber. -/

namespace DatafusionRay.Proofs.Fibers
open Streaming Foundation RunningFibers

variable {ρ : Type} {check : Nat → Except DataFusionError FiberState}

inductive FiberMove (check : Nat → Except DataFusionError FiberState) (before : RunningFibers ρ) (position : Nat)
    (fiber : RunningFiber ρ) : RunningFibers ρ → Prop where
  | emit {result rest} (streaming : fiber.phase = .streaming) (next : fiber.remaining = .item result :: rest) :
      FiberMove check before position fiber
        ((before.setFiber position { fiber with remaining := rest }).emit position result)
  | lock {marker rest} (streaming : fiber.phase = .streaming) (next : fiber.remaining = .check marker :: rest)
      (free : ∀ existing, before.shared.currentlyWaitingOnMarker = some existing → existing = marker.checkpointNumber) :
      FiberMove check before position fiber
        ({ before with shared :=
            { before.shared with currentlyWaitingOnMarker := some marker.checkpointNumber } }.setFiber position
          ⟨rest, .polling marker.checkpointNumber⟩)
  | conflict {marker rest existing error} (streaming : fiber.phase = .streaming)
      (next : fiber.remaining = .check marker :: rest)
      (awaited : before.shared.currentlyWaitingOnMarker = some existing)
      (different : existing ≠ marker.checkpointNumber) :
      FiberMove check before position fiber (before.settle position { fiber with remaining := rest } (.error error))
  | compute {marker} (polling : fiber.phase = .polling marker) :
      FiberMove check before position fiber (before.compute check position fiber marker)
  | finish {rest} (streaming : fiber.phase = .streaming) (next : fiber.remaining = .finished :: rest) :
      FiberMove check before position fiber (before.finish check position { fiber with remaining := rest })
  | receive {channel sent} (waiting : fiber.phase = .waiting channel)
      (delivered : before.shared.results.lookup channel = some sent) :
      FiberMove check before position fiber (before.receive position fiber sent)

private theorem beginPoll_moves {before : RunningFibers ρ} {position : Nat} {fiber : RunningFiber ρ} {marker : Marker}
    {rest : List (RunningFiberCheckMarker (SResult ρ))} (streaming : fiber.phase = .streaming)
    (next : fiber.remaining = .check marker :: rest) :
    FiberMove check before position fiber
      (before.beginPoll position { fiber with remaining := rest } marker.checkpointNumber) := by
  unfold beginPoll
  split
  next free => exact .lock streaming next (by simp [free])
  next existing awaited =>
    split
    next same =>
      have unchanged : before = { before with shared :=
          { before.shared with currentlyWaitingOnMarker := some marker.checkpointNumber } } := by
        rw [← same, ← awaited]
      have locked : FiberMove check before position fiber _ := .lock streaming next fun other held => by
        rw [awaited, Option.some.injEq] at held
        rw [← held, same]
      rwa [← unchanged] at locked
    next different => exact .conflict streaming next awaited different

theorem step_moves {before after : RunningFibers ρ} {position : Nat} (stepped : step check before position = some after) :
    ∃ fiber, before.panicked = false ∧ before.fibers[position]? = some fiber ∧
      FiberMove check before position fiber after := by
  unfold step at stepped
  split at stepped
  next => cases stepped
  next calm =>
    split at stepped
    next => cases stepped
    next fiber found =>
      refine ⟨fiber, by simpa using calm, found, ?_⟩
      split at stepped
      next result rest streaming next =>
        cases stepped
        exact .emit streaming next
      next marker rest streaming next =>
        cases stepped
        exact beginPoll_moves streaming next
      next rest streaming next =>
        cases stepped
        exact .finish streaming next
      next => cases stepped
      next marker polling =>
        cases stepped
        exact .compute polling
      next channel waiting =>
        obtain ⟨sent, delivered, rfl⟩ := Option.map_eq_some_iff.mp stepped
        exact .receive waiting delivered
      next => cases stepped
      next => cases stepped

def answerPhase : Except DataFusionError FiberState → FiberPhase
  | .ok .pause => .paused
  | .ok .«continue» | .error _ => .streaming

def answerItems : Except DataFusionError FiberState → List (SResult ρ)
  | .ok _ => []
  | .error error => [.error error]

/-- One fiber's own view of a move, with the items it puts out. -/
inductive Advance : RunningFiber ρ → RunningFiber ρ → List (SResult ρ) → Prop where
  | emit {result rest} : Advance ⟨.item result :: rest, .streaming⟩ ⟨rest, .streaming⟩ [result]
  | lock {marker rest} : Advance ⟨.check marker :: rest, .streaming⟩ ⟨rest, .polling marker.checkpointNumber⟩ []
  | conflict {marker rest error} : Advance ⟨.check marker :: rest, .streaming⟩ ⟨rest, .streaming⟩ [.error error]
  | wait {marker channel rest} : Advance ⟨rest, .polling marker⟩ ⟨rest, .waiting channel⟩ []
  | answer {marker rest} (answer) :
      Advance ⟨rest, .polling marker⟩ ⟨rest, answerPhase answer⟩ (answerItems answer)
  | receive {channel rest} (answer) :
      Advance ⟨rest, .waiting channel⟩ ⟨rest, answerPhase answer⟩ (answerItems answer)
  | finish {rest} : Advance ⟨.finished :: rest, .streaming⟩ ⟨rest, .finished⟩ []

/-- What a move does to the fibers and to the output, unless the barrier panics. -/
structure Effect (before : RunningFibers ρ) (position : Nat) (fiber : RunningFiber ρ) (after : RunningFibers ρ) :
    Prop where
  calm : after.panicked = before.panicked
  advanced : ∃ next items, Advance fiber next items ∧ after.fibers = before.fibers.set position next ∧
    after.output = before.output ++ items.map (position, ·)

section Settle
variable {running : RunningFibers ρ} {position : Nat} {fiber : RunningFiber ρ}

theorem settle_eq (answer : Except DataFusionError FiberState) :
    running.settle position fiber answer =
      { running with
        fibers := running.fibers.set position { fiber with phase := answerPhase answer }
        output := running.output ++ (answerItems answer).map (position, ·) } := by
  rcases answer with error | state
  · rfl
  · cases state <;> simp [settle, setFiber, answerPhase, answerItems]

@[simp] theorem computeAndSend_fibers {function sender : Option Nat} :
    (running.computeAndSend check function sender).1.fibers = running.fibers := by
  simp only [computeAndSend]
  split
  next => rfl
  next => split <;> rfl

@[simp] theorem computeAndSend_output {function sender : Option Nat} :
    (running.computeAndSend check function sender).1.output = running.output := by
  simp only [computeAndSend]
  split
  next => rfl
  next => split <;> rfl

@[simp] theorem computeAndSend_panicked {function sender : Option Nat} :
    (running.computeAndSend check function sender).1.panicked = running.panicked := by
  simp only [computeAndSend]
  split
  next => rfl
  next => split <;> rfl

end Settle

theorem FiberMove.effect {before after : RunningFibers ρ} {position : Nat} {fiber : RunningFiber ρ}
    (moved : FiberMove check before position fiber after) :
    after = { before with panicked := true } ∨ Effect before position fiber after := by
  obtain ⟨remaining, phase⟩ := fiber
  cases moved with
  | emit streaming next =>
    dsimp only at streaming next
    subst streaming next
    exact .inr ⟨rfl, _, _, .emit, rfl, rfl⟩
  | lock streaming next free =>
    dsimp only at streaming next
    subst streaming next
    exact .inr ⟨rfl, _, _, .lock, rfl, by simp [setFiber]⟩
  | conflict streaming next awaited different =>
    dsimp only at streaming next
    subst streaming next
    rw [settle_eq]
    exact .inr ⟨rfl, _, _, .conflict, rfl, rfl⟩
  | compute polling =>
    dsimp only at polling
    subst polling
    unfold RunningFibers.compute
    split
    next => exact .inl rfl
    next trigger channel popped => exact .inr ⟨rfl, _, _, .wait, rfl, by simp [setFiber, setTrigger]⟩
    next trigger function sender popped =>
      dsimp only
      rw [settle_eq]
      refine .inr ⟨by simp [setTrigger], _, _,
        .answer ((before.setTrigger trigger).computeAndSend check function sender).2, ?_, ?_⟩
      · simp [setTrigger]
      · simp [setTrigger]
  | finish streaming next =>
    dsimp only at streaming next
    subst streaming next
    unfold RunningFibers.finish
    split
    next => exact .inl rfl
    next trigger channel popped => exact .inr ⟨rfl, _, _, .finish, rfl, by simp [setFiber, setTrigger]⟩
    next trigger function sender popped =>
      refine .inr ⟨by simp [setFiber, setTrigger], _, _, .finish, ?_, ?_⟩
      · simp [setFiber, setTrigger]
      · simp [setFiber, setTrigger]
  | receive waiting delivered =>
    dsimp only at waiting
    subst waiting
    rw [RunningFibers.receive, settle_eq]
    exact .inr ⟨rfl, _, _, .receive _, rfl, rfl⟩

def fiberRank (fiber : RunningFiber ρ) : Nat :=
  3 * fiber.remaining.length + match fiber.phase with
    | .polling _ => 2
    | .waiting _ => 1
    | .streaming | .paused | .finished => 0

def fibersRank (running : RunningFibers ρ) : Nat :=
  (running.fibers.map fiberRank).sum + if running.panicked then 0 else 1

private theorem answerPhase_rank (answer : Except DataFusionError FiberState)
    (remaining : List (RunningFiberCheckMarker (SResult ρ))) :
    fiberRank ⟨remaining, answerPhase answer⟩ = 3 * remaining.length := by
  rcases answer with error | state
  · rfl
  · cases state <;> rfl

private theorem Advance.lowers {fiber next : RunningFiber ρ} {items : List (SResult ρ)}
    (advance : Advance fiber next items) : fiberRank next < fiberRank fiber := by
  cases advance with
  | answer _ | receive _ =>
    rw [answerPhase_rank]
    simp [fiberRank]
  | _ =>
    simp only [fiberRank, List.length_cons]
    omega

private theorem sum_map_set {α : Type} (items : List α) (weight : α → Nat) (new : α) {position : Nat} {old : α}
    (found : items[position]? = some old) :
    ((items.set position new).map weight).sum + weight old = (items.map weight).sum + weight new := by
  induction items generalizing position with
  | nil => simp at found
  | cons head rest ih =>
    cases position with
    | zero =>
      simp only [List.getElem?_cons_zero, Option.some.injEq] at found
      subst found
      simp only [List.set_cons_zero, List.map_cons, List.sum_cons]
      omega
    | succ position =>
      have inner := ih (by simpa using found)
      simp only [List.set_cons_succ, List.map_cons, List.sum_cons]
      omega

/-- Every schedule of the fibers is finite. -/
theorem step_lowers {before after : RunningFibers ρ} {position : Nat} (stepped : step check before position = some after) :
    fibersRank after < fibersRank before := by
  obtain ⟨fiber, calm, found, moved⟩ := step_moves stepped
  rcases moved.effect with rfl | ⟨same, next, items, advance, fibers, _⟩
  · simp [fibersRank, calm]
  · have replaced := sum_map_set before.fibers fiberRank next found
    have lower := advance.lowers
    rw [fibersRank, fibersRank, fibers, same]
    omega

section Output

/-- The items of the merged output that come from one fiber. -/
def emittedBy (position : Nat) (output : List (Nat × SResult ρ)) : List (SResult ρ) :=
  output.filterMap fun entry => if entry.1 = position then some entry.2 else none

theorem emittedBy_append (position : Nat) (first second : List (Nat × SResult ρ)) :
    emittedBy position (first ++ second) = emittedBy position first ++ emittedBy position second :=
  List.filterMap_append

@[simp] theorem emittedBy_map_self (position : Nat) (items : List (SResult ρ)) :
    emittedBy position (items.map (position, ·)) = items := by
  induction items with
  | nil => rfl
  | cons item rest ih => simp [emittedBy]

theorem emittedBy_map_ne {position other : Nat} (different : other ≠ position) (items : List (SResult ρ)) :
    emittedBy position (items.map (other, ·)) = [] := by
  simp [emittedBy, different]

def markersOf (items : List (SResult ρ)) : List Nat :=
  items.filterMap fun item => item.toOption.bind SItem.marker?

theorem markersOf_append (first second : List (SResult ρ)) :
    markersOf (first ++ second) = markersOf first ++ markersOf second :=
  List.filterMap_append

@[simp] theorem markersOf_marker (marker : Marker) :
    markersOf ([.ok (.marker marker)] : List (SResult ρ)) = [marker.checkpointNumber] := rfl

end Output

section Instructions
variable {todo : List (SResult ρ)} {rest : List (RunningFiberCheckMarker (SResult ρ))}

theorem insertStreamInstructions_item {result : SResult ρ}
    (next : insertStreamInstructions todo = .item result :: rest) :
    ∃ later, todo = result :: later ∧
      ((∃ marker, result = .ok (.marker marker) ∧ rest = .check marker :: insertStreamInstructions later) ∨
        (markersOf [result] = [] ∧ rest = insertStreamInstructions later)) := by
  rcases todo with _ | ⟨head, later⟩
  · simp [insertStreamInstructions] at next
  · refine ⟨later, ?_⟩
    rcases head with error | batch | marker | generation
    all_goals
      simp only [insertStreamInstructions, List.cons.injEq, RunningFiberCheckMarker.item.injEq] at next
      obtain ⟨rfl, rfl⟩ := next
      refine ⟨rfl, ?_⟩
    · exact .inr ⟨rfl, rfl⟩
    · exact .inr ⟨rfl, rfl⟩
    · exact .inl ⟨marker, rfl, rfl⟩
    · exact .inr ⟨rfl, rfl⟩

theorem insertStreamInstructions_ne_check {marker : Marker} : insertStreamInstructions todo ≠ .check marker :: rest := by
  rcases todo with _ | ⟨_ | _ | _ | _, _⟩ <;> simp [insertStreamInstructions]

theorem insertStreamInstructions_finished (next : insertStreamInstructions todo = .finished :: rest) :
    todo = [] ∧ rest = [] := by
  rcases todo with _ | ⟨_ | _ | _ | _, _⟩ <;> simp_all [insertStreamInstructions]

theorem insertStreamInstructions_ne_nil : insertStreamInstructions todo ≠ [] := by
  rcases todo with _ | ⟨_ | _ | _ | _, _⟩ <;> simp [insertStreamInstructions]

end Instructions

end DatafusionRay.Proofs.Fibers
