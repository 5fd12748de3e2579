import DatafusionRay.Streaming.Coordinator

/-! The state ids of a task. The operators that count store under an id of their
own making, so the ids that the task definition gives are never the ones in use. -/

namespace DatafusionRay.Proofs.StateIds
open Streaming

variable {ρ : Type} {task : TaskDefinition2 ρ} {generation : GenerationSpec}

/-- The ids under which the operators of the task store their checkpoints. -/
def recordedStateIds (task : TaskDefinition2 ρ) (generation : GenerationSpec) : List String :=
  (task.operator.stateBackends generation).map StateBackend.stateId

theorem recordedStateIds_eq (task : TaskDefinition2 ρ) (generation : GenerationSpec) :
    recordedStateIds task generation = task.usedStateIds.map fun stateId => s!"{stateId}-count-star" := by
  rw [recordedStateIds, OperatorDefinition.stateBackends, TaskDefinition2.usedStateIds, List.map_flatMap,
    List.map_flatMap]
  congr 1
  funext leaf
  obtain ⟨stateId, spec⟩ := leaf
  cases spec <;> rfl

private theorem length_recorded (stateId : String) : stateId.length < (s!"{stateId}-count-star").length := by
  have suffix : (s!"{stateId}-count-star").length = stateId.length + 11 := by
    change (stateId ++ "-count-star").length = _
    rw [String.length_append]
    rfl
  omega

private theorem recorded_ne (stateId : String) : s!"{stateId}-count-star" ≠ stateId := by
  intro same
  have longer := length_recorded stateId
  rw [same] at longer
  omega

theorem given_ids_agree_iff (task : TaskDefinition2 ρ) (generation : GenerationSpec) :
    (∀ stateId, stateId ∈ task.usedStateIds ↔ stateId ∈ recordedStateIds task generation) ↔
      recordedStateIds task generation = [] := by
  rw [recordedStateIds_eq]
  constructor
  · intro same
    cases longest : task.usedStateIds.argmax String.length with
    | none => rw [List.argmax_eq_none.mp longest, List.map_nil]
    | some stateId =>
      -- The longest given id is recorded under a longer one, which would have to be given too.
      have member := List.argmax_mem longest
      have recorded := (same s!"{stateId}-count-star").mpr (List.mem_map_of_mem member)
      have shorter := List.le_of_mem_argmax recorded longest
      have longer := length_recorded stateId
      omega
  · intro none_ stateId
    rw [none_, List.map_eq_nil_iff.mp none_]

/-- Whatever the only stateful operator of a task has stored for a range, the look-up
of `scale_up` finds. -/
def FindsCompleted (task : TaskDefinition2 ρ) (generation : GenerationSpec) : Prop :=
  ∀ recorded, recordedStateIds task generation = [recorded] →
    ∀ (latestJson : String → Option LatestText) (range : PartitionRange) (found : String × List (String × PartitionRange)),
      getLatestOperatorCheckpoints (latestJson recorded) recorded range = .ok found →
      ∃ used, task.usedStateIds = [used] ∧ getLatestOperatorCheckpoints (latestJson used) used range = .ok found

def oneOperator (stateId : String) : String → Option LatestText := fun other =>
  if other = stateId then some (.ok ⟨[⟨"1", [⟨.full, 0, "operators/checkpoints/a"⟩]⟩]⟩) else none

/-- The look-up misses what the only stateful operator of a task has stored. -/
theorem findsCompleted_iff (task : TaskDefinition2 ρ) (generation : GenerationSpec) :
    FindsCompleted task generation ↔ (recordedStateIds task generation).length ≠ 1 := by
  constructor
  · intro finds single
    obtain ⟨recorded, only⟩ := List.length_eq_one_iff.mp single
    have stored : getLatestOperatorCheckpoints (oneOperator recorded recorded) recorded .full =
        .ok ("1", [("operators/checkpoints/a", .full)]) := by
      rw [oneOperator, if_pos rfl]
      rfl
    obtain ⟨used, given, found⟩ := finds recorded only (oneOperator recorded) .full _ stored
    have same : s!"{used}-count-star" = recorded := by
      rw [recordedStateIds_eq, given] at only
      exact (List.cons.inj only).1
    have different : used ≠ recorded := same ▸ (recorded_ne used).symm
    rw [oneOperator, if_neg different] at found
    cases found
  · intro several recorded single
    rw [single] at several
    exact absurd rfl several

/-- The given ids are the ones in use only if no operator of the task has state, and
a single stateful operator is never found. -/
theorem advertised_state_ids_iff (task : TaskDefinition2 ρ) (generation : GenerationSpec) :
    ((∀ stateId, stateId ∈ task.usedStateIds ↔ stateId ∈ recordedStateIds task generation) ↔
      recordedStateIds task generation = []) ∧
    (FindsCompleted task generation ↔ (recordedStateIds task generation).length ≠ 1) :=
  ⟨given_ids_agree_iff task generation, findsCompleted_iff task generation⟩

/-- A counting task has stored a checkpoint of the full range, and `scale_up` looks for it elsewhere. -/
theorem count_star_checkpoints_missed :
    let task : TaskDefinition2 Nat := ⟨"task", .mk "1" "nested" (.nested ⟨[], [.mk "2" "state" .countStar [] []], []⟩) [] []⟩
    recordedStateIds task ⟨"initial", .full, []⟩ = ["state-count-star"] ∧ task.usedStateIds = ["state"] ∧
    scaleUpCheckpoints (oneOperator "state-count-star") task 1 =
      .error (.failed (.error (.internal ("No viable checkpoints found for operator state in range " ++
        "PartitionRange \x7b start: 0, end: 34, partitions: 34 \x7d")))) :=
  ⟨rfl, rfl, rfl⟩

end DatafusionRay.Proofs.StateIds
