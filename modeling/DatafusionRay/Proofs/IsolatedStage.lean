import DatafusionRay.Batch.ProcessorService
import DatafusionRay.Proofs.StageReads

/-! A stage that is spread over several workers with an isolator below it. Each worker makes
pieces of the partitions in its own group, and whoever reads the stage from all workers gets
what the stage would yield in one place. -/

namespace DatafusionRay.Proofs.IsolatedStage
open Batch StageReaderStream StageReads Foundation
open Streaming (RecordBatch)

variable {ρ σ : Type} {piece : List (BatchResult ρ) → List (BatchResult ρ)} {count : UInt64}
  {input : Nat → List (BatchResult ρ)} {groups : List (List Nat)}

/-- What a stage may yield that makes a piece of each of its input partitions, in any order. -/
def OneByOne (piece : List (BatchResult ρ) → List (BatchResult ρ)) (count : Nat) (input : Nat → List (BatchResult ρ))
    (output : List (BatchResult ρ)) : Prop :=
  Interleaved (fun partition => if partition < count then piece (input partition) else []) (fun _ => []) output

/-- What it may yield on a worker that has an isolator below it. -/
def IsolatedOutput (piece : List (BatchResult ρ) → List (BatchResult ρ)) (count : UInt64)
    (input : Nat → List (BatchResult ρ)) (group : List Nat) (output : List (RecordBatch ρ)) : Prop :=
  ∃ isolated, (∀ partition < count.toNat,
      PartitionIsolatorExec.execute count (fun actual => .ok (input actual)) (some group) partition =
        .ok (isolated partition)) ∧
    OneByOne piece count.toNat isolated (output.map .ok)

/-- The piece that a worker makes of one of its partitions. -/
def workerPiece (piece : List (BatchResult ρ) → List (BatchResult ρ)) (count : Nat) (input : Nat → List (BatchResult ρ))
    (group : List Nat) (slot : Nat) : List (BatchResult ρ) :=
  if slot < count then piece (group[slot]?.elim [] input) else []

theorem IsolatedOutput.pieces {group : List Nat} {output : List (RecordBatch ρ)}
    (isolated : IsolatedOutput piece count input group output) :
    Interleaved (workerPiece piece count.toNat input group) (fun _ => []) (output.map .ok) := by
  obtain ⟨streams, executes, yielded⟩ := isolated
  have same : workerPiece piece count.toNat input group =
      fun partition => if partition < count.toNat then piece (streams partition) else [] := by
    funext partition
    rw [workerPiece]
    split
    · next below =>
      have stream := executes partition below
      rw [PartitionIsolatorExec.execute] at stream
      simp only [if_neg (Nat.lt_asymm below)] at stream
      cases here : group[partition]? with
      | none =>
        rw [here] at stream
        exact congrArg piece (Except.ok.inj stream)
      | some actual =>
        rw [here] at stream
        exact congrArg piece (Except.ok.inj stream)
    · rfl
  rw [same]
  exact yielded

theorem workerPiece_ne_nil (idle : piece [] = []) {group : List Nat} {slot : Nat}
    (nonempty : workerPiece piece count.toNat input group slot ≠ []) :
    ∃ actual, group[slot]? = some actual ∧ workerPiece piece count.toNat input group slot = piece (input actual) := by
  rw [workerPiece] at nonempty ⊢
  split at nonempty
  · next below =>
    rw [if_pos below]
    cases here : group[slot]? with
    | none =>
      rw [here] at nonempty
      exact absurd idle nonempty
    | some actual => exact ⟨actual, rfl, rfl⟩
  · exact absurd rfl nonempty

theorem group_listed {worker slot actual : Nat} (here : (groups.getD worker [])[slot]? = some actual) :
    ∃ group, groups[worker]? = some group ∧ group[slot]? = some actual := by
  rw [List.getD_eq_getElem?_getD] at here
  cases found : groups[worker]? with
  | none =>
    rw [found] at here
    cases here
  | some group =>
    rw [found] at here
    exact ⟨group, rfl, here⟩

/-- No partition is in two places of the groups. -/
theorem place_unique (distinct : groups.flatten.Nodup) {worker other slot place actual : Nat}
    (here : (groups.getD worker [])[slot]? = some actual) (there : (groups.getD other [])[place]? = some actual) :
    (worker, slot) = (other, place) := by
  obtain ⟨each, apart⟩ := List.nodup_flatten.mp distinct
  obtain ⟨group, listed, at_⟩ := group_listed here
  obtain ⟨otherGroup, otherListed, otherAt⟩ := group_listed there
  have same : worker = other := by
    by_contra different
    obtain ⟨bound, rfl⟩ := List.getElem?_eq_some_iff.mp listed
    obtain ⟨otherBound, rfl⟩ := List.getElem?_eq_some_iff.mp otherListed
    rcases Nat.lt_or_gt_of_ne different with before | after
    · exact List.pairwise_iff_getElem.mp apart _ _ bound otherBound before (List.mem_of_getElem? at_)
        (List.mem_of_getElem? otherAt)
    · exact List.pairwise_iff_getElem.mp apart _ _ otherBound bound after (List.mem_of_getElem? otherAt)
        (List.mem_of_getElem? at_)
  subst same
  cases listed.symm.trans otherListed
  have bound : slot < group.length := (List.getElem?_eq_some_iff.mp at_).1
  rw [(List.getElem?_inj bound (each group (List.mem_of_getElem? listed))).mp (at_.trans otherAt.symm)]

theorem mem_groups {actual : Nat} (member : actual ∈ groups.flatten) :
    ∃ (worker slot : Nat) (group : List Nat), groups[worker]? = some group ∧ group[slot]? = some actual := by
  obtain ⟨group, listed, inside⟩ := List.mem_flatten.mp member
  obtain ⟨worker, found⟩ := List.mem_iff_getElem?.mp listed
  obtain ⟨slot, here⟩ := List.mem_iff_getElem?.mp inside
  exact ⟨worker, slot, group, found, here⟩

/-- The pieces of all workers are those of all partitions. -/
theorem pieces_gathered (idle : piece [] = []) {total : Nat} (divided : groups.flatten.Perm (List.range total))
    (fits : ∀ group ∈ groups, group.length ≤ count.toNat) {merged : List (BatchResult ρ)}
    (gathered : Interleaved (fun pair : Nat × Nat => workerPiece piece count.toNat input (groups.getD pair.1 []) pair.2)
      (fun _ => []) merged) : OneByOne piece total input merged := by
  have distinct : groups.flatten.Nodup := divided.nodup_iff.mpr List.nodup_range
  have below : ∀ {worker slot actual : Nat}, (groups.getD worker [])[slot]? = some actual → actual < total := by
    intro worker slot actual here
    obtain ⟨group, listed, at_⟩ := group_listed here
    have member := List.mem_flatten.mpr ⟨group, List.mem_of_getElem? listed, List.mem_of_getElem? at_⟩
    exact List.mem_range.mp (divided.mem_iff.mp member)
  refine gathered.rename (fun pair => ((groups.getD pair.1 [])[pair.2]?).getD 0) ?_ ?_ ?_
  · intro pair other nonempty otherNonempty same
    obtain ⟨actual, here, -⟩ := workerPiece_ne_nil idle nonempty
    obtain ⟨otherActual, there, -⟩ := workerPiece_ne_nil idle otherNonempty
    simp only [here, there, Option.getD_some] at same
    exact place_unique distinct here (same ▸ there)
  · intro pair nonempty
    obtain ⟨actual, here, value⟩ := workerPiece_ne_nil idle nonempty
    simp only [here, Option.getD_some]
    rw [value, if_pos (below here)]
  · intro actual nonempty
    by_cases inside : actual < total
    · obtain ⟨worker, slot, group, listed, here⟩ := mem_groups (divided.mem_iff.mpr (List.mem_range.mpr inside))
      have at_ : (groups.getD worker [])[slot]? = some actual := by
        rw [List.getD_eq_getElem?_getD, listed]
        exact here
      have bound : slot < count.toNat :=
        Nat.lt_of_lt_of_le (List.getElem?_eq_some_iff.mp here).1 (fits group (List.mem_of_getElem? listed))
      refine ⟨(worker, slot), by simp only [at_, Option.getD_some], ?_⟩
      simp only [workerPiece, at_, if_pos bound]
      rwa [if_pos inside] at nonempty
    · exact absurd (if_neg inside) nonempty

/-- There is no worker past the last group, and no piece from it. -/
theorem pieces_of_workers (idle : piece [] = []) {outputs : List (List (RecordBatch ρ))}
    (isolated : List.Forall₂ (IsolatedOutput piece count input) groups outputs) (worker : Nat) :
    Interleaved (workerPiece piece count.toNat input (groups.getD worker [])) (fun _ => [])
      ((outputs.map (·.map .ok)).getD worker []) := by
  induction isolated generalizing worker with
  | nil =>
    refine ⟨[], rfl, fun slot => ?_⟩
    simp [workerPiece, idle]
  | cons head rest ih =>
    cases worker with
    | zero => exact head.pieces
    | succ worker => exact ih worker

/-- What workers without errors send comes through as it is. -/
theorem opened_clean (name : String) (outputs : List (List (RecordBatch ρ))) :
    opened name (outputs.map fun output => .ok (output.map .ok)) = outputs.map (·.map .ok) ∧
      refusals name (outputs.map fun output => .ok (output.map .ok)) = [] := by
  induction outputs with
  | nil => exact ⟨rfl, rfl⟩
  | cons output rest ih =>
    refine ⟨?_, ih.2⟩
    have here : adapt name (output.map .ok) = output.map .ok := by
      rw [adapt, List.map_map]
      rfl
    rw [List.map_cons, List.map_cons, ← here, ← ih.1]
    rfl

/-- A stage that is spread over workers, each with the partitions of its group, is read as if
it ran in one place. -/
theorem isolated_stage_gathers {reader : DFRayStageReaderExec σ} {partition : Nat} {clientMap : ServiceClients}
    {doGet : String → Nat → DoGet ρ} {first last : StageReaderStream ρ} {actions : List Action}
    (executes : reader.execute partition (some clientMap) doGet = .ok first) (ran : run step first actions = some last)
    (finished : last.phase = .finished) {addresses : List String}
    (found : clientMap.lookup (reader.stageId.toNat, partition) = some addresses)
    {outputs : List (List (RecordBatch ρ))}
    (answers : addresses.map (doGet · partition) = outputs.map fun output => .ok (output.map .ok))
    (isolated : List.Forall₂ (IsolatedOutput piece count input) groups outputs) (idle : piece [] = []) {total : Nat}
    (divided : groups.flatten.Perm (List.range total)) (fits : ∀ group ∈ groups, group.length ≤ count.toNat) :
    OneByOne piece total input last.yielded := by
  obtain ⟨others, looked, same⟩ := execute_eq_ok executes
  cases found.symm.trans looked
  have initial : Reading first.name (outputs.map fun output => .ok (output.map .ok)) first := by
    rw [same, answers]
    exact .connecting [] _ rfl
  obtain ⟨left, interleaved, all⟩ :=
    (run_preserves step_reading ran initial).reads.merged (opened_clean first.name outputs).2
  rw [(opened_clean first.name outputs).1, funext (all finished)] at interleaved
  exact pieces_gathered idle divided fits (.nest (pieces_of_workers idle isolated) interleaved)

def crossed (address : String) (_ : Nat) : DoGet Nat := .ok [.ok ⟨[2 - address.length]⟩]

def numbered (partition : Nat) : List (BatchResult Nat) := [.ok ⟨[partition]⟩]

theorem numbered_isolated (actual : Nat) : IsolatedOutput id 1 numbered [actual] [⟨[actual]⟩] := by
  refine ⟨fun _ => numbered actual, fun partition below => ?_, [(0, .ok ⟨[actual]⟩)], rfl, fun partition => ?_⟩
  · obtain rfl : partition = 0 := Nat.lt_one_iff.mp below
    rfl
  · cases partition with
    | zero => rfl
    | succ partition => simp

/-- Each of two workers has the other's partition, and the second one answers first. -/
theorem crossed_workers_gathered :
    ∃ first last, (⟨1, (), 7⟩ : DFRayStageReaderExec Unit).execute 0 (some [((7, 0), ["a", "bb"])]) crossed = .ok first ∧
      run step first [.doGet, .doGet, .combine, .poll ⟨1, []⟩, .poll ⟨1, []⟩, .poll ⟨0, []⟩] = some last ∧
      last.yielded = [.ok ⟨[0]⟩, .ok ⟨[1]⟩] ∧ OneByOne id 2 numbered last.yielded := by
  have executes : (⟨1, (), 7⟩ : DFRayStageReaderExec Unit).execute 0 (some [((7, 0), ["a", "bb"])]) crossed =
      .ok ⟨"RayStageReaderExec[7-0]:", .connecting [crossed "a" 0, crossed "bb" 0] [] false, []⟩ := rfl
  have ran : run step ⟨"RayStageReaderExec[7-0]:", .connecting [crossed "a" 0, crossed "bb" 0] [] false, []⟩
      [.doGet, .doGet, .combine, .poll ⟨1, []⟩, .poll ⟨1, []⟩, .poll ⟨0, []⟩] =
        some ⟨"RayStageReaderExec[7-0]:", .finished, [.ok ⟨[0]⟩, .ok ⟨[1]⟩]⟩ := rfl
  refine ⟨_, _, executes, ran, rfl, ?_⟩
  have answers : ["a", "bb"].map (crossed · 0) =
      [[⟨[1]⟩], [⟨[0]⟩]].map fun output => (.ok (output.map .ok) : DoGet Nat) := rfl
  have isolated : List.Forall₂ (IsolatedOutput id 1 numbered) [[1], [0]] [[⟨[1]⟩], [⟨[0]⟩]] :=
    .cons (numbered_isolated 1) (.cons (numbered_isolated 0) .nil)
  exact isolated_stage_gathers executes ran rfl rfl answers isolated rfl (.swap 0 1 []) (by decide)

end DatafusionRay.Proofs.IsolatedStage
