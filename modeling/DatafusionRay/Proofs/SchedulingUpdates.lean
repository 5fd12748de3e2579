import DatafusionRay.Foundation.TryFilterMap
import DatafusionRay.Streaming.RunningTask

/-! Sequences of scheduling updates. The task runner accumulates them, but its
operators see the last update alone. -/

namespace DatafusionRay.Proofs.SchedulingUpdates
open Streaming Foundation RunningTask

variable {inputs : List GenerationInputDetail} {generations : List GenerationSpec}
  {updates : List TaskSchedulingDetailsUpdate}

/-- All generations that the updates bring, in order. -/
def received (updates : List TaskSchedulingDetailsUpdate) : List GenerationSpec :=
  updates.filterMap TaskSchedulingDetailsUpdate.generation

/-- The input details of the most recent update that has some. -/
def latestInputs (inputs : List GenerationInputDetail) (updates : List TaskSchedulingDetailsUpdate) :
    List GenerationInputDetail :=
  (updates.filterMap TaskSchedulingDetailsUpdate.inputDetails).getLast?.getD inputs

private theorem updateAll_append (task : RunningTask) (first second : List TaskSchedulingDetailsUpdate) :
    task.updateAll (first ++ second) = (task.updateAll first).updateAll second :=
  List.foldl_append

theorem updateAll_state (inputs : List GenerationInputDetail) (generations : List GenerationSpec)
    (updates : List TaskSchedulingDetailsUpdate) :
    ((start inputs generations).updateAll updates).generations = generations ++ received updates ∧
      ((start inputs generations).updateAll updates).inputLocations = latestInputs inputs updates := by
  induction updates using List.reverseRecOn with
  | nil => exact ⟨(List.append_nil _).symm, rfl⟩
  | append_singleton earlier last ih =>
    rw [updateAll_append]
    constructor
    · change ((start inputs generations).updateAll earlier).generations ++ last.generation.toList = _
      rw [ih.1, received, received, List.filterMap_append, List.append_assoc]
      cases given : last.generation <;> simp [given]
    · change last.inputDetails.getD ((start inputs generations).updateAll earlier).inputLocations = _
      rw [ih.2, latestInputs, latestInputs, List.filterMap_append]
      cases given : last.inputDetails <;> simp [given]

/-- The operators see the runner's state, both parts of it are there, and so no check
of a remote source at a marker misses one of them. -/
structure Accumulated (inputs : List GenerationInputDetail) (generations : List GenerationSpec)
    (updates : List TaskSchedulingDetailsUpdate) (seen : SchedulingDetails) : Prop where
  agrees : seen = ⟨some (generations ++ received updates), some (latestInputs inputs updates)⟩
  present : seen.generations.isSome = true ∧ seen.inputDetails.isSome = true
  checks : ∀ streamIds currentGenerationId currentAddresses marker,
    seen.checkGenerationAndAddresses streamIds currentGenerationId currentAddresses marker ∉
      [.error (.internal "No initial generations were provided"), .error (.internal "No initial input_details were provided")]

private theorem getAddresses_error {partitions : PartitionRange} {checkpoint : Nat} {streamIds : List String}
    {details : List GenerationInputDetail} {error : DataFusionError}
    (failed : getAddresses partitions checkpoint streamIds details = .error error) :
    ∃ message, error = .execution message := by
  simp only [getAddresses, bind, Except.bind] at failed
  split at failed
  next missing =>
    cases failed
    obtain ⟨streamId, -, absent⟩ := mapM_error missing
    split at absent
    · cases absent
    · cases absent
      exact ⟨_, rfl⟩
  next found =>
    split at failed
    next missing =>
      cases failed
      obtain ⟨detail, -, short⟩ := mapM_error missing
      simp only [getAddressesForStream] at short
      split at short
      · cases short
      · cases short
        exact ⟨_, rfl⟩
    next => cases failed

private theorem check_error {generations : List GenerationSpec} {inputs : List GenerationInputDetail}
    {streamIds : List String} {currentGenerationId : String} {currentAddresses : List (String × String × PartitionRange)}
    {marker : Nat} {error : DataFusionError}
    (failed : SchedulingDetails.checkGenerationAndAddresses ⟨some generations, some inputs⟩ streamIds currentGenerationId
      currentAddresses marker = .error error) : ∃ message, error = .execution message := by
  cases found : findCurrentGeneration streamIds generations marker with
  | error other =>
    simp only [SchedulingDetails.checkGenerationAndAddresses, SchedulingDetails.current, found, bind, Except.bind] at failed
    cases failed
    simp only [findCurrentGeneration] at found
    split at found
    · cases found
    · cases found
      exact ⟨_, rfl⟩
  | ok generation =>
    simp only [SchedulingDetails.checkGenerationAndAddresses, SchedulingDetails.current, found, bind, Except.bind, pure,
      Except.pure] at failed
    split at failed
    · cases failed
    · cases addresses : getAddresses generation.partitions marker streamIds inputs with
      | error other =>
        rw [addresses] at failed
        cases failed
        exact getAddresses_error addresses
      | ok listed =>
        rw [addresses] at failed
        dsimp only at failed
        split at failed <;> cases failed

theorem Accumulated.of_agrees {seen : SchedulingDetails}
    (agrees : seen = ⟨some (generations ++ received updates), some (latestInputs inputs updates)⟩) :
    Accumulated inputs generations updates seen := by
  subst agrees
  refine ⟨rfl, ⟨rfl, rfl⟩, fun streamIds currentGenerationId currentAddresses marker missing => ?_⟩
  rw [List.mem_cons, List.mem_singleton] at missing
  rcases missing with failed | failed
  · obtain ⟨message, impossible⟩ := check_error failed
    cases impossible
  · obtain ⟨message, impossible⟩ := check_error failed
    cases impossible

theorem accumulated_iff (inputs : List GenerationInputDetail) (generations : List GenerationSpec)
    (updates : List TaskSchedulingDetailsUpdate) :
    Accumulated inputs generations updates ((start inputs generations).updateAll updates).schedulingDetails ↔
      ∀ last, updates.getLast? = some last → generations = [] ∧ received updates.dropLast = [] ∧
        last.generation.isSome = true ∧ last.inputDetails.isSome = true := by
  rcases List.eq_nil_or_concat' updates with rfl | ⟨earlier, last, rfl⟩
  · constructor
    · intro _ last impossible
      cases impossible
    · intro _
      apply Accumulated.of_agrees
      simp [updateAll, start, received, latestInputs]
  · have seen : ((start inputs generations).updateAll (earlier ++ [last])).schedulingDetails =
        ⟨last.generation.map fun generation => [generation], last.inputDetails⟩ := by
      rw [updateAll_append]
      rfl
    have all : received (earlier ++ [last]) = received earlier ++ last.generation.toList := by
      rw [received, List.filterMap_append]
      cases given : last.generation <;> simp [received, given]
    simp only [seen, List.getLast?_concat, List.dropLast_concat, Option.some.injEq, forall_eq']
    constructor
    · intro accumulated
      obtain ⟨whole, given⟩ := SchedulingDetails.mk.inj accumulated.agrees
      rw [all] at whole
      cases new : last.generation with
      | none => rw [new] at whole; cases whole
      | some generation =>
        have only : [] ++ [generation] = (generations ++ received earlier) ++ [generation] := by
          simpa [new] using whole
        obtain ⟨first, rest⟩ := List.append_eq_nil_iff.mp (List.append_cancel_right only).symm
        exact ⟨first, rest, rfl, by rw [given]; rfl⟩
    · rintro ⟨first, rest, new, given⟩
      apply Accumulated.of_agrees
      obtain ⟨generation, new⟩ := Option.isSome_iff_exists.mp new
      obtain ⟨details, given⟩ := Option.isSome_iff_exists.mp given
      rw [all, first, rest, new, given]
      simp [latestInputs, given]

/-- The runner's state accumulates all updates. The operators see it exactly if there
was no update, or if the last update alone makes up all of it. -/
theorem updates_accumulate_iff (inputs : List GenerationInputDetail) (generations : List GenerationSpec)
    (updates : List TaskSchedulingDetailsUpdate) :
    (((start inputs generations).updateAll updates).generations = generations ++ received updates ∧
      ((start inputs generations).updateAll updates).inputLocations = latestInputs inputs updates) ∧
    (Accumulated inputs generations updates ((start inputs generations).updateAll updates).schedulingDetails ↔
      ∀ last, updates.getLast? = some last → generations = [] ∧ received updates.dropLast = [] ∧
        last.generation.isSome = true ∧ last.inputDetails.isSome = true) :=
  ⟨updateAll_state inputs generations updates, accumulated_iff inputs generations updates⟩

/-- A first generation, and then only new input details. -/
theorem partial_update_hides_generation :
    let task := (start [] [⟨"initial", .unit, []⟩]).updateAll [⟨none, some []⟩]
    task.generations = [⟨"initial", .unit, []⟩] ∧ task.schedulingDetails = ⟨none, some []⟩ ∧
      task.schedulingDetails.checkGenerationAndAddresses ["stream"] "initial" [] 1 =
        .error (.internal "No initial generations were provided") :=
  ⟨rfl, rfl, rfl⟩

end DatafusionRay.Proofs.SchedulingUpdates
