import DatafusionRay.Proofs.CountSnapshots
import DatafusionRay.Proofs.KeyCounts
import DatafusionRay.Proofs.SourceResume

/-! A source with a counting operator behind it, run to its end and started again
from one of its checkpoints. The rows in front of the restored marker are those of
the snapshot and the source replays the others, so the final count is the same. -/

namespace DatafusionRay.Proofs.PipelineRestart
open Foundation Streaming SourceResume CountSnapshots

variable {ρ τ σ : Type}

/-- What a pipeline that ran to its end has left: the checkpoint directories that it
added to those on its machine, and what it emitted. -/
structure Finished (τ : Type) where
  taken : List (String × Db)
  emitted : List (SResult τ)

def Finished.counts (finished : Finished τ) : Option (List τ) :=
  match finished.emitted.getLast? with
  | some (.ok (.recordBatch batch)) => some batch.rows
  | _ => none

def Finished.snapshot (finished : Finished τ) (checkpoint : Nat) : Option Db :=
  (finished.taken.find? fun directory => directory.1.startsWith s!"{checkpoint}__").map Prod.snd

/-- A pipeline by the names of its checkpoint directories, the directories that it finds
on its machine, the remote storage and the checkpoint that it loads. -/
abbrev Pipeline (τ : Type) :=
  (Nat → String) → List (String × Db) → RemoteStorage → Nat → Except Failure (Finished τ)

def countStarPipeline (source : SourceOperator ρ) (stateId : String) (generations : Option (List GenerationSpec)) :
    Pipeline UInt64 := fun uuid leftover remote checkpoint => do
  let function ← (CountStarFunction.init stateId generations leftover).mapError .error
  let source ← source.createOperatorFunction.load checkpoint
  let function ← function.load remote checkpoint
  let items ← source.run
  let (function, emitted) := function.run uuid (items.map .ok)
  return ⟨function.state.checkpoints.drop leftover.length, emitted⟩

def countByKeyPipeline (source : SourceOperator ρ) (column : RecordBatch ρ → Except DataFusionError ColumnarValue)
    (stateId : String) (partitions : PartitionRange) : Pipeline (UInt64 × UInt64) :=
  fun uuid leftover remote checkpoint => do
    let function := CountByKeyFunction.init stateId partitions leftover
    let source ← source.createOperatorFunction.load checkpoint
    let function ← function.load remote checkpoint
    let items ← source.run
    let (function, emitted) := function.run column uuid (items.map .ok)
    return ⟨function.state.checkpoints.drop leftover.length, emitted⟩

/-- What a new instance finds for the checkpoint, on its machine or in the remote storage, is this snapshot. -/
def Restores (leftover : List (String × Db)) (remote : RemoteStorage) (stateId : String) (partitions : PartitionRange)
    (checkpoint : Nat) (snapshot : Db) : Prop :=
  (StateBackend.openNew s!"{stateId}-count-star" partitions leftover).moveToCheckpoint remote checkpoint partitions =
    .ok { StateBackend.openNew s!"{stateId}-count-star" partitions leftover with openDb := snapshot }

/-- A run from the beginning comes to its end, whatever it finds on its machine. It
passes the markers on and then emits the counts. -/
def Completes (pipeline : Pipeline τ) (numbers : List Nat) (correct : List τ → Prop) : Prop :=
  ∀ uuid leftover remote, ∃ first counts, pipeline uuid leftover remote 0 = .ok first ∧
    first.emitted = numbers.map (fun number => .ok (.marker ⟨number⟩)) ++ [.ok (.recordBatch ⟨counts⟩)] ∧ correct counts

/-- Started again from any checkpoint of a finished run, with the snapshot that this
run took, the pipeline ends with the same counts. The run's own directories lead to
this snapshot. -/
def RestartAgrees (pipeline : Pipeline τ) (stateId : String) (partitions : PartitionRange) : Prop :=
  ∀ uuid leftover remote first, pipeline uuid leftover remote 0 = .ok first →
    ∀ checkpoint, .ok (.marker ⟨checkpoint⟩) ∈ first.emitted →
      ∃ snapshot, first.snapshot checkpoint = some snapshot ∧
        (∀ stored, Restores first.taken stored stateId partitions checkpoint snapshot) ∧
        ∀ otherUuid found stored, Restores found stored stateId partitions checkpoint snapshot →
          ∃ second, pipeline otherUuid found stored checkpoint = .ok second ∧
            ∃ counts recounts, first.counts = some counts ∧ second.counts = some recounts ∧ counts.Perm recounts

/-- The directories of a run restore what they hold for a number. -/
theorem Finished.restores {finished : Finished τ} {checkpoint : Nat} {snapshot : Db}
    (held : finished.snapshot checkpoint = some snapshot) (remote : RemoteStorage) (stateId : String)
    (partitions : PartitionRange) : Restores finished.taken remote stateId partitions checkpoint snapshot := by
  obtain ⟨directory, found, rfl⟩ := Option.map_eq_some_iff.mp held
  exact @StateBackend.moveToCheckpoint_local remote
    (.openNew s!"{stateId}-count-star" partitions finished.taken) checkpoint partitions directory found

def rowsOf (items : List (SItem ρ)) : List ρ := (batches items).flatMap RecordBatch.rows

@[simp] theorem rowsOf_nil : rowsOf ([] : List (SItem ρ)) = [] := rfl

@[simp] theorem rowsOf_batch (batch : RecordBatch ρ) (rest : List (SItem ρ)) :
    rowsOf (.recordBatch batch :: rest) = batch.rows ++ rowsOf rest := rfl

@[simp] theorem rowsOf_marker (marker : Marker) (rest : List (SItem ρ)) : rowsOf (.marker marker :: rest) = rowsOf rest :=
  rfl

theorem rowsOf_append (first second : List (SItem ρ)) : rowsOf (first ++ second) = rowsOf first ++ rowsOf second := by
  rw [rowsOf, batches_append, List.flatMap_append, rowsOf, rowsOf]

/-- An operator that counts the rows of its input, as long as it accepts the batches.
`Counted` says which rows its counts stand for, `Stored` which rows a snapshot stands for,
and `Correct` what is to be emitted for the rows. -/
structure RowCounter (ρ τ σ : Type) where
  step : (Nat → String) → σ → SItem ρ → σ × Except DataFusionError (Option (SItem τ))
  final : σ → List τ
  checkpoints : σ → List (String × Db)
  Accepts : RecordBatch ρ → Prop
  Counted : List ρ → σ → Prop
  Stored : List ρ → Db → Prop
  Correct : List ρ → List τ → Prop
  onGeneration : ∀ uuid function generation, (step uuid function (.generation generation)).1 = function
  onBatch : ∀ uuid {batch function rows}, Accepts batch → Counted rows function →
    (step uuid function (.recordBatch batch)).2 = .ok none ∧
    checkpoints (step uuid function (.recordBatch batch)).1 = checkpoints function ∧
    Counted (rows ++ batch.rows) (step uuid function (.recordBatch batch)).1
  onMarker : ∀ uuid marker {function rows}, Counted rows function →
    (step uuid function (.marker marker)).2 = .ok (some (.marker marker)) ∧
    (∃ (name : String) (snapshot : Db), checkpoints (step uuid function (.marker marker)).1 =
      checkpoints function ++ [(s!"{marker.checkpointNumber}__{name}", snapshot)] ∧ Stored rows snapshot) ∧
    Counted rows (step uuid function (.marker marker)).1
  correct : ∀ {rows function}, Counted rows function → Correct rows (final function)
  agree : ∀ rows {first second}, Counted rows first → Counted rows second → (final first).Perm (final second)

namespace RowCounter
variable (counter : RowCounter ρ τ σ)

def after (uuid : Nat → String) (function : σ) (items : List (SItem ρ)) : σ :=
  items.foldl (fun function item => (counter.step uuid function item).1) function

def finish (uuid : Nat → String) (function : σ) (items : List (SItem ρ)) : Finished τ :=
  let ended := tryFilterMap (counter.step uuid) function (items.map .ok)
  ⟨(counter.checkpoints ended.1).drop (counter.checkpoints function).length,
    ended.2 ++ [.ok (.recordBatch ⟨counter.final ended.1⟩)]⟩

variable {counter} {uuid : Nat → String} {function : σ} {rows : List ρ}

@[simp] theorem after_nil : counter.after uuid function [] = function := rfl

@[simp] theorem after_cons (item : SItem ρ) (rest : List (SItem ρ)) :
    counter.after uuid function (item :: rest) = counter.after uuid (counter.step uuid function item).1 rest := rfl

theorem after_append (first second : List (SItem ρ)) :
    counter.after uuid function (first ++ second) = counter.after uuid (counter.after uuid function first) second :=
  List.foldl_append

theorem finish_taken {items : List (SItem ρ)} {taken : List (String × Db)}
    (added : counter.checkpoints (counter.after uuid function items) = counter.checkpoints function ++ taken) :
    (counter.finish uuid function items).taken = taken := by
  rw [finish, TryFilterMap.state_ok]
  exact (congrArg (List.drop (counter.checkpoints function).length) added).trans List.drop_left

@[simp] theorem finish_counts (items : List (SItem ρ)) :
    (counter.finish uuid function items).counts = some (counter.final (counter.after uuid function items)) := by
  simp only [Finished.counts, finish, List.getLast?_append, List.getLast?_singleton, Option.some_or, after,
    TryFilterMap.state_ok]

def NamedIn (items : List (SItem ρ)) (directory : String × Db) : Prop :=
  ∃ (number : Nat) (name : String), .marker ⟨number⟩ ∈ items ∧ directory.1 = s!"{number}__{name}"

private theorem NamedIn.cons {items : List (SItem ρ)} {directory : String × Db} (item : SItem ρ)
    (named : NamedIn items directory) : NamedIn (item :: items) directory := by
  obtain ⟨number, name, known, same⟩ := named
  exact ⟨number, name, List.mem_cons_of_mem _ known, same⟩

/-- A run counts all rows of its input and takes a checkpoint at its markers only. -/
theorem after_counted (uuid : Nat → String) (counted : counter.Counted rows function) {items : List (SItem ρ)}
    (accepted : ∀ batch ∈ batches items, counter.Accepts batch) :
    counter.Counted (rows ++ rowsOf items) (counter.after uuid function items) ∧
    ∃ taken, counter.checkpoints (counter.after uuid function items) = counter.checkpoints function ++ taken ∧
      ∀ directory ∈ taken, NamedIn items directory := by
  induction items generalizing function rows with
  | nil => exact ⟨by simpa using counted, [], by simp, by simp⟩
  | cons item rest ih =>
    rcases item with batch | marker | generation
    · obtain ⟨here, later⟩ := List.forall_mem_cons.mp accepted
      obtain ⟨-, kept, more⟩ := counter.onBatch uuid here counted
      obtain ⟨total, taken, added, named⟩ := ih more later
      exact ⟨by simpa using total, taken, kept ▸ added, fun directory member => (named directory member).cons _⟩
    · obtain ⟨-, ⟨name, snapshot, kept, -⟩, same⟩ := counter.onMarker uuid marker counted
      obtain ⟨total, taken, added, named⟩ := ih same accepted
      rw [kept, List.append_assoc] at added
      refine ⟨total, _, added, ?_⟩
      intro directory member
      rcases List.mem_cons.mp member with rfl | later
      · exact ⟨marker.checkpointNumber, name, List.mem_cons_self, rfl⟩
      · exact (named directory later).cons _
    · obtain ⟨total, taken, added, named⟩ := ih counted accepted
      rw [after_cons, counter.onGeneration]
      exact ⟨total, taken, added, fun directory member => (named directory member).cons _⟩

/-- A source has no generations, so the markers pass through and nothing else. -/
theorem finish_emitted (uuid : Nat → String) (counted : counter.Counted rows function) {items : List (StreamItem ρ)}
    (accepted : ∀ batch, .recordBatch batch ∈ items → counter.Accepts batch) :
    (counter.finish uuid function (items.map .ofStreamItem)).emitted =
      ((items.map SItem.ofStreamItem).filterMap SItem.marker?).map (fun number => .ok (.marker ⟨number⟩)) ++
        [.ok (.recordBatch ⟨counter.final (counter.after uuid function (items.map .ofStreamItem))⟩)] := by
  suffices passed : (tryFilterMap (counter.step uuid) function ((items.map SItem.ofStreamItem).map .ok)).2 =
      ((items.map SItem.ofStreamItem).filterMap SItem.marker?).map fun number => .ok (.marker ⟨number⟩) by
    rw [finish, passed, TryFilterMap.state_ok]
    rfl
  induction items generalizing function rows with
  | nil => rfl
  | cons item rest ih =>
    have later : ∀ batch, .recordBatch batch ∈ rest → counter.Accepts batch :=
      fun batch member => accepted batch (List.mem_cons_of_mem _ member)
    rcases item with marker | batch
    · obtain ⟨passes, -, same⟩ := counter.onMarker uuid marker counted
      have emitted := ih same later
      simp only [List.map_cons, SItem.ofStreamItem, tryFilterMap, passes, emitted, List.filterMap_cons,
        SItem.marker?]
    · obtain ⟨silent, -, more⟩ := counter.onBatch uuid (accepted batch List.mem_cons_self) counted
      have emitted := ih more later
      simp only [List.map_cons, SItem.ofStreamItem, tryFilterMap, silent, emitted, List.filterMap_cons,
        SItem.marker?]

/-- The first checkpoint with a number is the one that was taken at the first marker with it. -/
theorem snapshot_stored (uuid : Nat → String) (fresh : counter.Counted [] function)
    {before after : List (SItem ρ)} {checkpoint : Nat} (absent : ∀ item ∈ before, item.marker? ≠ some checkpoint)
    (accepted : ∀ batch ∈ batches (before ++ .marker ⟨checkpoint⟩ :: after), counter.Accepts batch) :
    ∃ snapshot, (counter.finish uuid function (before ++ .marker ⟨checkpoint⟩ :: after)).snapshot checkpoint = some snapshot ∧
      counter.Stored (rowsOf before) snapshot := by
  rw [batches_append, List.forall_mem_append] at accepted
  have behind : ∀ batch ∈ batches after, counter.Accepts batch := accepted.2
  obtain ⟨counted, earlier, taken, named⟩ := after_counted uuid fresh accepted.1
  obtain ⟨-, ⟨name, snapshot, here, stored⟩, still⟩ := counter.onMarker uuid ⟨checkpoint⟩ counted
  obtain ⟨-, later, further, -⟩ := after_counted uuid still behind
  refine ⟨snapshot, ?_, stored⟩
  have all : counter.checkpoints (counter.after uuid function (before ++ .marker ⟨checkpoint⟩ :: after)) =
      counter.checkpoints function ++ (earlier ++ (s!"{checkpoint}__{name}", snapshot) :: later) := by
    rw [after_append, after_cons, further, here, taken]
    simp only [List.append_assoc, List.singleton_append]
  have skipped : StateBackend.NoneNumbered earlier checkpoint := by
    intro directory member found
    obtain ⟨number, name, known, same⟩ := named directory member
    rw [same, directory_startsWith_iff] at found
    exact absent _ known (congrArg some found)
  have first : (s!"{checkpoint}__{name}").startsWith s!"{checkpoint}__" = true :=
    (directory_startsWith_iff checkpoint checkpoint name).mpr rfl
  rw [Finished.snapshot, finish_taken all, List.find?_append, skipped.find?, Option.none_or, List.find?_cons]
  simp only [first, Option.map_some]

theorem finish_counts_perm {first second : σ} {uuid otherUuid : Nat → String} {items replayed : List (SItem ρ)}
    (fresh : counter.Counted [] first) (restored : counter.Counted rows second)
    (accepted : ∀ batch ∈ batches items, counter.Accepts batch)
    (reaccepted : ∀ batch ∈ batches replayed, counter.Accepts batch) (split : rowsOf items = rows ++ rowsOf replayed) :
    ∃ counts recounts, (counter.finish uuid first items).counts = some counts ∧
      (counter.finish otherUuid second replayed).counts = some recounts ∧ counts.Perm recounts := by
  refine ⟨_, _, finish_counts items, finish_counts replayed, ?_⟩
  apply counter.agree (rows ++ rowsOf replayed)
  · exact split ▸ (after_counted uuid fresh accepted).1
  · exact (after_counted otherUuid restored reaccepted).1

end RowCounter

/-- The pipeline is the source with the counter behind it: a new instance has
counted nothing, one that restores a snapshot has counted the rows of the snapshot. -/
structure Implements (source : SourceOperator ρ) (counter : RowCounter ρ τ σ) (pipeline : Pipeline τ) (stateId : String)
    (partitions : PartitionRange) : Prop where
  fresh : ∀ leftover, ∃ function, counter.Counted [] function ∧
    ∀ uuid remote, pipeline uuid leftover remote 0 =
      (emittedFrom source.createOperatorFunction 0).map (counter.finish uuid function)
  restored : ∀ {leftover remote checkpoint snapshot rows}, 0 < checkpoint →
    Restores leftover remote stateId partitions checkpoint snapshot → counter.Stored rows snapshot →
    ∃ function, counter.Counted rows function ∧
      ∀ uuid, pipeline uuid leftover remote checkpoint =
        (emittedFrom source.createOperatorFunction checkpoint).map (counter.finish uuid function)

/-- The rows of all iterations. -/
def iteratedRows (iterations : Nat) (items : List (StreamItem ρ)) : List ρ :=
  (List.replicate iterations (rowsOf (items.map .ofStreamItem))).flatten

private theorem rowsOf_emitted {items : List (StreamItem ρ)} {markers iterations : Nat} {emitted : List (SItem ρ)}
    (numbered : Numbered markers items) (some_ : 1 ≤ markers) (iterated : 1 ≤ iterations)
    (full : emittedFrom (SourceOperator.createOperatorFunction ⟨items, iterations⟩) 0 = .ok emitted) :
    rowsOf emitted = iteratedRows iterations items := by
  rw [rowsOf, emitted_batches numbered some_ iterated full, List.flatten_eq_flatMap, List.flatMap_assoc, List.flatMap_def,
    List.map_replicate]
  rfl

private theorem accepts_emitted {items : List (StreamItem ρ)} {markers iterations : Nat} {emitted : List (SItem ρ)}
    {accepts : RecordBatch ρ → Prop} (numbered : Numbered markers items) (some_ : 1 ≤ markers) (iterated : 1 ≤ iterations)
    (accepted : ∀ batch, .recordBatch batch ∈ items → accepts batch)
    (full : emittedFrom (SourceOperator.createOperatorFunction ⟨items, iterations⟩) 0 = .ok emitted) :
    ∀ batch ∈ batches emitted, accepts batch := by
  intro batch member
  rw [emitted_batches numbered some_ iterated full, List.mem_flatten] at member
  obtain ⟨copy, replica, member⟩ := member
  rw [List.eq_of_mem_replicate replica, mem_batches, List.mem_map] at member
  obtain ⟨item, listed, same⟩ := member
  cases item <;> cases same
  exact accepted batch listed

private theorem accepts_items {accepts : RecordBatch ρ → Prop} {items : List (StreamItem ρ)}
    (accepted : ∀ batch ∈ batches (items.map .ofStreamItem), accepts batch) (batch : RecordBatch ρ)
    (member : .recordBatch batch ∈ items) : accepts batch :=
  accepted batch (mem_batches.mpr (List.mem_map.mpr ⟨_, member, rfl⟩))

section Implemented
variable {items : List (StreamItem ρ)} {markers iterations : Nat} {counter : RowCounter ρ τ σ} {pipeline : Pipeline τ}
  {stateId : String} {partitions : PartitionRange}

theorem Implements.completes (implements : Implements ⟨items, iterations⟩ counter pipeline stateId partitions)
    (numbered : Numbered markers items) (some_ : 1 ≤ markers) (small : markers < 2 ^ 64) (iterated : 1 ≤ iterations)
    (accepted : ∀ batch, .recordBatch batch ∈ items → counter.Accepts batch) :
    Completes pipeline ((List.range' 1 (markers * iterations)).map (· % 2 ^ 64))
      (counter.Correct (iteratedRows iterations items)) := by
  intro uuid leftover remote
  obtain ⟨function, fresh, started⟩ := implements.fresh leftover
  obtain ⟨emitted, full⟩ := @emittedFrom_zero_ok _ items markers iterations numbered some_
  have all := accepts_emitted numbered some_ iterated accepted full
  have counted := (RowCounter.after_counted uuid fresh all).1
  rw [List.nil_append, rowsOf_emitted numbered some_ iterated full] at counted
  refine ⟨counter.finish uuid function (emitted.map .ofStreamItem), _, by rw [started, full]; rfl, ?_,
    counter.correct counted⟩
  rw [RowCounter.finish_emitted uuid fresh (accepts_items all), emitted_numbers numbered some_ small iterated full]

/-- The finished run around a checkpoint, and what an instance that is restarted there
counts: the rows of the snapshot and those that the source replays. -/
private theorem Implements.resumes (implements : Implements ⟨items, iterations⟩ counter pipeline stateId partitions)
    (numbered : Numbered markers items) (some_ : 1 ≤ markers) (small : markers < 2 ^ 64) (iterated : 1 ≤ iterations)
    {emitted : List (SItem ρ)} (accepted : ∀ batch ∈ batches emitted, counter.Accepts batch)
    (full : emittedFrom (SourceOperator.createOperatorFunction ⟨items, iterations⟩) 0 = .ok emitted) {checkpoint : Nat}
    (known : checkpoint ∈ emitted.filterMap SItem.marker?) :
    ∃ before after, emitted = before ++ .marker ⟨checkpoint⟩ :: after ∧
      (∀ item ∈ before, item.marker? ≠ some checkpoint) ∧
      ∀ {found stored snapshot}, counter.Stored (rowsOf before) snapshot →
        Restores found stored stateId partitions checkpoint snapshot →
        ∃ second rows replayed, counter.Counted rows second ∧ (∀ batch ∈ batches replayed, counter.Accepts batch) ∧
          rowsOf emitted = rows ++ rowsOf replayed ∧
          ∀ uuid, pipeline uuid found stored checkpoint = .ok (counter.finish uuid second replayed) := by
  rcases Nat.eq_zero_or_pos checkpoint with rfl | positive
  · -- A marker number that has wrapped around to zero: the restart begins from nothing.
    obtain ⟨item, member, marked⟩ := List.mem_filterMap.mp known
    obtain ⟨before, after, rfl, new⟩ := List.eq_append_cons_of_mem (SItem.marker?_eq_some.mp marked ▸ member)
    refine ⟨before, after, rfl, ?_, fun {found stored snapshot} _ _ => ?_⟩
    · intro item member marked
      exact new (SItem.marker?_eq_some.mp marked ▸ member)
    · obtain ⟨function, fresh, started⟩ := implements.fresh found
      exact ⟨function, [], _, fresh, accepted, rfl, fun uuid => by rw [started, full]; rfl⟩
  · have bounds : checkpoint ≤ markers * iterations ∧ checkpoint < 2 ^ 64 := by
      rw [emitted_numbers numbered some_ small iterated full, List.mem_map] at known
      obtain ⟨number, inside, rfl⟩ := known
      rw [List.mem_range'_1] at inside
      have least := Nat.mod_le number (2 ^ 64)
      exact ⟨by omega, Nat.mod_lt _ (by decide)⟩
    obtain ⟨before, after, replayed, whole, absent, resumed, same, -⟩ :=
      emitted_around_marker numbered some_ positive bounds.1 (.inl bounds.2)
    cases full.symm.trans whole
    refine ⟨before, after, rfl, absent, fun stored restores => ?_⟩
    obtain ⟨second, counted, restarted⟩ := implements.restored positive restores stored
    refine ⟨second, _, _, counted, ?_, ?_, fun uuid => by rw [restarted, resumed]; rfl⟩
    · intro batch member
      apply accepted
      rw [batches_append]
      exact List.mem_append_right _ (same ▸ member)
    · have rows : rowsOf replayed = rowsOf after := congrArg (List.flatMap RecordBatch.rows) same
      rw [rowsOf_append, rowsOf_marker, rowsOf_marker, rows]

theorem Implements.restartAgrees (implements : Implements ⟨items, iterations⟩ counter pipeline stateId partitions)
    (numbered : Numbered markers items) (small : markers < 2 ^ 64) (iterated : 1 ≤ iterations)
    (accepted : ∀ batch, .recordBatch batch ∈ items → counter.Accepts batch) :
    RestartAgrees pipeline stateId partitions := by
  intro uuid leftover remote first ran checkpoint reached
  obtain ⟨function, fresh, started⟩ := implements.fresh leftover
  rw [started] at ran
  rcases Nat.eq_zero_or_pos markers with rfl | some_
  · rw [emittedFrom_zero_unmarked numbered] at ran
    cases ran
  obtain ⟨emitted, full⟩ := @emittedFrom_zero_ok _ items markers iterations numbered some_
  rw [full] at ran
  cases ran
  have all := accepts_emitted numbered some_ iterated accepted full
  have known : checkpoint ∈ (emitted.map SItem.ofStreamItem).filterMap SItem.marker? := by
    rw [RowCounter.finish_emitted uuid fresh (accepts_items all)] at reached
    simpa using reached
  obtain ⟨before, after, split, absent, resumes⟩ := implements.resumes numbered some_ small iterated all full known
  obtain ⟨snapshot, held, stored⟩ := RowCounter.snapshot_stored uuid fresh absent (split ▸ all)
  rw [split]
  refine ⟨snapshot, held, fun remote => Finished.restores held remote stateId partitions, ?_⟩
  intro otherUuid found remote restores
  obtain ⟨second, rows, replayed, counted, reaccepted, together, restarted⟩ := resumes stored restores
  rw [split] at all together
  exact ⟨_, restarted otherUuid, RowCounter.finish_counts_perm fresh counted all reaccepted together⟩

end Implemented

private theorem bind_emitted (source : SourceOperatorFunction ρ) (checkpoint : Nat)
    (finish : List (SItem ρ) → Finished τ) :
    (do let source ← source.load checkpoint
        let items ← source.run
        return finish items) = (emittedFrom source checkpoint).map finish := by
  unfold emittedFrom
  cases source.load checkpoint with
  | error failure => rfl
  | ok loaded =>
    change (loaded.run >>= fun items => pure (finish items)) = (loaded.run).map finish
    cases loaded.run <;> rfl

section CountStar
open CountStarFunction

def countStarCounter : RowCounter ρ UInt64 CountStarFunction where
  step uuid function item := onItem uuid function (some item)
  final function := [function.localCount]
  checkpoints function := function.state.checkpoints
  Accepts _ := True
  Counted rows function := function.localCount = .ofNat rows.length
  Stored rows snapshot := snapshot.lookup countKey = some (toBeBytes (.ofNat rows.length))
  Correct rows counts := counts = [.ofNat rows.length]
  onGeneration _ _ _ := rfl
  onBatch uuid batch function rows _ counted := by
    refine ⟨rfl, rfl, ?_⟩
    simp [onItem, counted, RecordBatch.numRows]
  onMarker uuid marker function rows counted := by
    refine ⟨rfl, ⟨_, _, rfl, ?_⟩, counted⟩
    simp [StateBackend.put, counted]
  correct counted := by rw [counted]
  agree rows first second counted recounted := by rw [counted, recounted]

theorem countStar_implements (source : SourceOperator ρ) (stateId : String) (generation : GenerationSpec)
    (others : List GenerationSpec) :
    Implements source countStarCounter (countStarPipeline source stateId (some (generation :: others))) stateId
      generation.partitions := by
  constructor
  · intro leftover
    refine ⟨⟨.openNew s!"{stateId}-count-star" generation.partitions leftover, 0, generation.partitions⟩, rfl, ?_⟩
    intro uuid remote
    rw [← bind_emitted]
    simp only [countStarPipeline, CountStarFunction.run_eq]
    rfl
  · intro leftover remote checkpoint snapshot rows positive restores stored
    refine ⟨⟨{ StateBackend.openNew s!"{stateId}-count-star" generation.partitions leftover with openDb := snapshot },
      .ofNat rows.length, generation.partitions⟩, rfl, fun uuid => ?_⟩
    have loaded : load remote ⟨.openNew s!"{stateId}-count-star" generation.partitions leftover, 0, generation.partitions⟩
        checkpoint =
        .ok ⟨{ StateBackend.openNew s!"{stateId}-count-star" generation.partitions leftover with openDb := snapshot },
          .ofNat rows.length, generation.partitions⟩ := by
      have value : snapshot.lookup countKey = some (toBeBytes (.ofNat rows.length)) := stored
      unfold Restores at restores
      simp only [load, if_pos positive, restores, bind, Except.bind, StateBackend.get, value, decodeCount,
        fromBeBytes_toBeBytes]
      rfl
    rw [← bind_emitted]
    simp only [countStarPipeline, init, Except.mapError, bind, Except.bind, loaded, CountStarFunction.run_eq]
    rfl

end CountStar

section CountByKey
open CountByKeyFunction KeyCounts

variable (column : RecordBatch ρ → Except DataFusionError ColumnarValue) (key : ρ → UInt64)

theorem countByKey_run (uuid : Nat → String) (function : CountByKeyFunction) (results : List (SResult ρ)) :
    function.run column uuid results =
      ((tryFilterMap (fun function item => onItem column uuid function (some item)) function results).1,
        (tryFilterMap (fun function item => onItem column uuid function (some item)) function results).2 ++
          [.ok (.recordBatch ⟨(tryFilterMap (fun function item => onItem column uuid function (some item)) function
            results).1.localCounts.entries.map fun entry => (entry.1, entry.2)⟩)]) := by
  rw [CountByKeyFunction.run, TryFilterMap.append, TryFilterMap.map]
  rfl

def tally (rows : List ρ) : Counts := (rows.map key).foldl increment ∅

/-- One entry for each key that occurs, with the number of its rows. -/
def TalliesKeys (keys : List UInt64) (counts : List (UInt64 × UInt64)) : Prop :=
  (counts.map Prod.fst).Nodup ∧
    ∀ other, counts.lookup other = if keys.count other = 0 then none else some (.ofNat (keys.count other))

private theorem talliesKeys_entries {rows : List ρ} {counts : Counts}
    (counted : ∀ other, counts.lookup other = (tally key rows).lookup other) :
    TalliesKeys (rows.map key) (counts.entries.map fun entry => (entry.1, entry.2)) := by
  constructor
  · rw [List.map_map]
    exact counts.nodupKeys
  · intro other
    rw [FiniteMap.lookup_pairs]
    refine (counted other).trans ?_
    rw [tally, lookup_increments]
    simp

def countByKeyCounter : RowCounter ρ (UInt64 × UInt64) CountByKeyFunction where
  step uuid function item := onItem column uuid function (some item)
  final function := function.localCounts.entries.map fun entry => (entry.1, entry.2)
  checkpoints function := function.state.checkpoints
  Accepts batch := column batch = .ok (.array (batch.rows.map key))
  Counted rows function := (∀ other, function.localCounts.lookup other = (tally key rows).lookup other) ∧
    Within function.state.openDb function.localCounts
  Stored rows snapshot := ∃ counts, Holds snapshot counts ∧ ∀ other, counts.lookup other = (tally key rows).lookup other
  Correct rows := TalliesKeys (rows.map key)
  onGeneration _ _ _ := rfl
  onBatch uuid batch function rows accepted counted := by
    have updated : updateLocalCounts column function.localCounts batch =
        .ok ((batch.rows.map key).foldl increment function.localCounts) := by
      rw [updateLocalCounts, accepted]
      rfl
    simp only [onItem, updated, true_and]
    refine ⟨fun other => ?_, counted.2.tally _⟩
    rw [tally, List.map_append, List.foldl_append]
    exact lookup_tally counted.1 _ other
  onMarker uuid marker function rows counted := by
    have holds := counted.2.storeCounts_holds
    exact ⟨rfl, ⟨_, _, rfl, _, holds, counted.1⟩, counted.1, holds.within⟩
  correct counted := talliesKeys_entries key counted.1
  agree rows first second counted recounted := by
    apply List.Perm.map
    apply FiniteMap.entries_perm
    intro other
    rw [counted.1, recounted.1]

theorem countByKey_fresh (stateId : String) (partitions : PartitionRange) (leftover : List (String × Db)) :
    (countByKeyCounter column key).Counted [] (init stateId partitions leftover) := by
  refine ⟨fun _ => rfl, fun _ member => ?_⟩
  cases member

theorem countByKey_implements (source : SourceOperator ρ) (stateId : String) (partitions : PartitionRange) :
    Implements source (countByKeyCounter column key) (countByKeyPipeline source column stateId partitions) stateId
      partitions := by
  constructor
  · intro leftover
    refine ⟨init stateId partitions leftover, countByKey_fresh column key stateId partitions leftover, ?_⟩
    intro uuid remote
    rw [← bind_emitted]
    simp only [countByKeyPipeline, countByKey_run]
    rfl
  · rintro leftover remote checkpoint snapshot rows positive restores ⟨counts, holds, same⟩
    obtain ⟨decoded, read, equal⟩ := holds.decodeCounts_ok
    have loaded : load remote (init stateId partitions leftover) checkpoint =
        .ok ⟨{ StateBackend.openNew s!"{stateId}-count-star" partitions leftover with openDb := snapshot }, decoded,
          partitions⟩ := by
      unfold Restores at restores
      simp only [load, if_pos positive, init, restores, bind, Except.bind, read]
      rfl
    refine ⟨⟨{ StateBackend.openNew s!"{stateId}-count-star" partitions leftover with openDb := snapshot }, decoded,
      partitions⟩, ⟨fun other => (equal other).trans (same other), ?_⟩, fun uuid => ?_⟩
    · intro stored member
      obtain ⟨counted, known, encoded⟩ := holds.within stored member
      refine ⟨counted, ?_, encoded⟩
      rw [← AList.lookup_isSome, equal, AList.lookup_isSome]
      exact known
    · rw [← bind_emitted]
      simp only [countByKeyPipeline, bind, Except.bind, loaded, countByKey_run]
      rfl

end CountByKey

section Main
variable {items : List (StreamItem ρ)} {markers iterations : Nat}
  {column : RecordBatch ρ → Except DataFusionError ColumnarValue} {key : ρ → UInt64}

/-- Both pipelines run to their end, with the markers of all iterations and the counts
of all their rows, and can be started again from every checkpoint that they have reached. -/
theorem restart_equivalence (numbered : Numbered markers items) (small : markers < 2 ^ 64) (iterated : 1 ≤ iterations)
    (keyed : ∀ batch, .recordBatch batch ∈ items → column batch = .ok (.array (batch.rows.map key)))
    (stateId : String) (generation : GenerationSpec) (others : List GenerationSpec) :
    (1 ≤ markers →
      Completes (countStarPipeline ⟨items, iterations⟩ stateId (some (generation :: others)))
        ((List.range' 1 (markers * iterations)).map (· % 2 ^ 64))
        (fun counts => counts = [.ofNat (iteratedRows iterations items).length]) ∧
      Completes (countByKeyPipeline ⟨items, iterations⟩ column stateId generation.partitions)
        ((List.range' 1 (markers * iterations)).map (· % 2 ^ 64))
        (TalliesKeys ((iteratedRows iterations items).map key))) ∧
    RestartAgrees (countStarPipeline ⟨items, iterations⟩ stateId (some (generation :: others))) stateId
      generation.partitions ∧
    RestartAgrees (countByKeyPipeline ⟨items, iterations⟩ column stateId generation.partitions) stateId
      generation.partitions := by
  have star := countStar_implements ⟨items, iterations⟩ stateId generation others
  have byKey := countByKey_implements column key ⟨items, iterations⟩ stateId generation.partitions
  refine ⟨fun some_ => ⟨?_, ?_⟩, ?_, ?_⟩
  · exact star.completes numbered some_ small iterated fun _ _ => trivial
  · exact byKey.completes numbered some_ small iterated keyed
  · exact star.restartAgrees numbered small iterated fun _ _ => trivial
  · exact byKey.restartAgrees numbered small iterated keyed

/-- Two iterations on the empty range, for which no remote checkpoint can be found: the second run restores from the
first one's own directories. -/
theorem restart_of_two_iterations :
    ∃ first second,
      countStarPipeline ⟨twoMarkers, 2⟩ "state" (some [⟨"initial", .empty, []⟩]) (fun _ => "a") []
        ⟨fun _ => none, fun _ => none⟩ 0 = .ok first ∧
      first.emitted = [.ok (.marker ⟨1⟩), .ok (.marker ⟨2⟩), .ok (.marker ⟨3⟩), .ok (.marker ⟨4⟩), .ok (.recordBatch ⟨[4]⟩)] ∧
      countStarPipeline ⟨twoMarkers, 2⟩ "state" (some [⟨"initial", .empty, []⟩]) (fun _ => "b") first.taken
        ⟨fun _ => none, fun _ => none⟩ 3 = .ok second ∧
      first.counts = second.counts := by
  obtain ⟨runs, agrees, -⟩ := @restart_equivalence Nat twoMarkers 2 2 (fun batch => .ok (.array (batch.rows.map .ofNat)))
    .ofNat (by decide) (by decide) (by decide) (fun _ _ => rfl) "state" ⟨"initial", .empty, []⟩ []
  obtain ⟨first, counts, ran, emitted, rfl⟩ := (runs (by decide)).1 (fun _ => "a") [] ⟨fun _ => none, fun _ => none⟩
  obtain ⟨snapshot, -, restores, restarts⟩ := agrees _ _ _ _ ran 3 (by rw [emitted]; decide)
  obtain ⟨second, again, counts, recounts, counted, recounted, same⟩ :=
    restarts (fun _ => "b") first.taken ⟨fun _ => none, fun _ => none⟩ (restores _)
  refine ⟨first, second, ran, emitted, again, ?_⟩
  have known : first.counts = some [4] := by
    rw [Finished.counts, emitted]
    rfl
  cases counted.symm.trans known
  rw [counted, recounted, List.perm_singleton.mp same.symm]

end Main

end DatafusionRay.Proofs.PipelineRestart
