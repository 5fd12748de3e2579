import DatafusionRay.Streaming.Source
import Mathlib

/-! Where a source goes on after it has loaded a checkpoint. The items are the
right ones for every checkpoint, but the iteration that is resumed keeps the
marker numbers of the list. -/

namespace DatafusionRay.Proofs.SourceResume
open Streaming SourceOperatorFunction

variable {ρ : Type}

/-- What the source emits after a load. -/
def emittedFrom (source : SourceOperatorFunction ρ) (checkpoint : Nat) : Except Failure (List (SItem ρ)) := do
  (← source.load checkpoint).run

/-- The items from the first marker with the number on. -/
def fromMarker (number : Nat) (items : List (SItem ρ)) : List (SItem ρ) :=
  items.dropWhile fun item => item.marker? ≠ some number

/-- Loading the checkpoint cuts the full stream at its marker. -/
def ResumesAt (source : SourceOperatorFunction ρ) (checkpoint : Nat) : Prop :=
  ∃ emitted, emittedFrom source 0 = .ok emitted ∧ emittedFrom source checkpoint = .ok (fromMarker checkpoint emitted)

def batches (items : List (SItem ρ)) : List (RecordBatch ρ) :=
  items.filterMap fun
    | .recordBatch batch => some batch
    | .marker _ | .generation _ => none

theorem mem_batches {batch : RecordBatch ρ} {items : List (SItem ρ)} : batch ∈ batches items ↔ .recordBatch batch ∈ items := by
  rw [batches, List.mem_filterMap]
  constructor
  · rintro ⟨item, member, same⟩
    cases item <;> cases same
    exact member
  · intro member
    exact ⟨_, member, rfl⟩

theorem batches_append (first second : List (SItem ρ)) : batches (first ++ second) = batches first ++ batches second :=
  List.filterMap_append

/-- The list holds the markers 1 to `markers` in this order. -/
def Numbered (markers : Nat) (items : List (StreamItem ρ)) : Prop :=
  items.filterMap StreamItem.marker? = List.range' 1 markers

instance (markers : Nat) (items : List (StreamItem ρ)) : Decidable (Numbered markers items) :=
  inferInstanceAs (Decidable (_ = _))

section Numbered
variable {items : List (StreamItem ρ)} {markers : Nat}

private theorem maxMarker_eq (numbered : Numbered markers items) (some_ : 1 ≤ markers) : maxMarker items = .ok markers := by
  have greatest : (List.range' 1 markers).max? = some markers := by
    rw [List.max?_eq_some_iff]
    refine ⟨by simp [List.mem_range'_1]; omega, fun other member => ?_⟩
    rw [List.mem_range'_1] at member
    omega
  rw [maxMarker, numbered, greatest]

private theorem split_at_marker {number : Nat} (present : number ∈ items.filterMap StreamItem.marker?) :
    ∃ before after, items = before ++ .marker ⟨number⟩ :: after ∧ (∀ item ∈ before, item.marker? ≠ some number) ∧
      items.findIdx? (fun item => item.marker? = some number) = some before.length := by
  induction items with
  | nil => cases present
  | cons item rest ih =>
    by_cases here : item.marker? = some number
    · refine ⟨[], rest, ?_, nofun, by simp [List.findIdx?_cons, here]⟩
      cases item with
      | marker cut =>
        cases here
        rfl
      | recordBatch batch => cases here
    · have later : number ∈ rest.filterMap StreamItem.marker? := by
        obtain ⟨other, member, marked⟩ := List.mem_filterMap.mp present
        rcases List.mem_cons.mp member with rfl | member
        · exact False.elim (here marked)
        · exact List.mem_filterMap.mpr ⟨other, member, marked⟩
      obtain ⟨before, after, rfl, absent, found⟩ := ih later
      refine ⟨item :: before, after, rfl, List.forall_mem_cons.mpr ⟨here, absent⟩, ?_⟩
      simp only [List.findIdx?_cons, here, decide_false, found]
      rfl

end Numbered

def laterItems (items : List (StreamItem ρ)) (markers iterations current : Nat) : List (StreamItem ρ) :=
  (List.range' (current + 1) (iterations - (current + 1))).flatMap (iterationItems items markers)

section Emitted
variable {items : List (StreamItem ρ)} {markers iterations checkpoint : Nat}

private theorem run_eq (numbered : Numbered markers items) (some_ : 1 ≤ markers) (offset current : Nat) :
    run ⟨items, offset, current, iterations⟩ =
      .ok ((items.drop offset ++ laterItems items markers iterations current).map .ofStreamItem) := by
  simp only [run, maxMarker_eq numbered some_, bind, Except.bind, pure, Except.pure, List.flatten_cons, laterItems,
    List.flatMap_def]

private theorem emittedFrom_zero (numbered : Numbered markers items) (some_ : 1 ≤ markers) :
    emittedFrom (SourceOperator.createOperatorFunction ⟨items, iterations⟩) 0 =
      .ok ((items ++ laterItems items markers iterations 0).map .ofStreamItem) :=
  run_eq numbered some_ 0 0

private theorem emittedFrom_marker (numbered : Numbered markers items) (some_ : 1 ≤ markers) (positive : 1 ≤ checkpoint)
    {before after : List (StreamItem ρ)}
    (split : items = before ++ .marker ⟨1 + (checkpoint - 1) % markers⟩ :: after)
    (found : items.findIdx? (fun item => item.marker? = some (1 + (checkpoint - 1) % markers)) = some before.length) :
    emittedFrom (SourceOperator.createOperatorFunction ⟨items, iterations⟩) checkpoint =
      .ok ((.marker ⟨1 + (checkpoint - 1) % markers⟩ :: after ++
        laterItems items markers iterations ((checkpoint - 1) / markers)).map .ofStreamItem) := by
  have loaded : (SourceOperator.createOperatorFunction ⟨items, iterations⟩).load checkpoint =
      .ok ⟨items, before.length, (checkpoint - 1) / markers, iterations⟩ := by
    simp only [load, SourceOperator.createOperatorFunction, if_pos (Nat.lt_of_lt_of_le Nat.zero_lt_one positive),
      maxMarker_eq numbered some_, bind, Except.bind, if_neg (Nat.ne_of_gt (Nat.lt_of_lt_of_le Nat.zero_lt_one some_)),
      found, pure, Except.pure]
  rw [emittedFrom, loaded]
  simp only [bind, Except.bind, run_eq numbered some_]
  rw [split, List.drop_left]

@[simp] private theorem ofStreamItem_marker? (item : StreamItem ρ) : (SItem.ofStreamItem item).marker? = item.marker? := by
  cases item <;> rfl

private theorem renumber_marker? (iteration : Nat) (item : StreamItem ρ) :
    (renumber markers iteration item).marker? =
      item.marker?.map fun number => (iteration * markers + number) % 2 ^ 64 := by
  cases item <;> rfl

private theorem batches_iterationItems (items : List (StreamItem ρ)) (markers iteration : Nat) :
    batches ((iterationItems items markers iteration).map .ofStreamItem) = batches (items.map .ofStreamItem) := by
  induction items with
  | nil => rfl
  | cons item rest ih =>
    cases item with
    | marker cut => exact ih
    | recordBatch batch => exact congrArg (batch :: ·) ih

private theorem smaller_before (numbered : Numbered markers items) {number : Nat} {before after : List (StreamItem ρ)}
    (split : items = before ++ .marker ⟨number⟩ :: after) {item : StreamItem ρ} (member : item ∈ before) {other : Nat}
    (marked : item.marker? = some other) : other < number := by
  have ordered : (items.filterMap StreamItem.marker?).Pairwise (· < ·) := numbered ▸ List.pairwise_lt_range'
  rw [split, List.filterMap_append, List.pairwise_append] at ordered
  exact ordered.2.2 other (List.mem_filterMap.mpr ⟨item, member, marked⟩) number (by simp [StreamItem.marker?])

private theorem marker_le (numbered : Numbered markers items) {item : StreamItem ρ} (member : item ∈ items) {number : Nat}
    (marked : item.marker? = some number) : 1 ≤ number ∧ number ≤ markers := by
  have inside : number ∈ List.range' 1 markers := numbered ▸ List.mem_filterMap.mpr ⟨item, member, marked⟩
  rw [List.mem_range'_1] at inside
  omega

private theorem laterItems_split {current : Nat} (positive : 1 ≤ current) (inside : current < iterations) :
    laterItems items markers iterations 0 =
      (List.range' 1 (current - 1)).flatMap (iterationItems items markers) ++
        (iterationItems items markers current ++ laterItems items markers iterations current) := by
  have range : List.range' 1 (iterations - 1) =
      List.range' 1 (current - 1) ++ current :: List.range' (current + 1) (iterations - (current + 1)) := by
    rw [← List.range'_succ, ← Nat.sub_add_cancel positive, Nat.add_sub_cancel, Nat.add_comm (current - 1) 1,
      List.range'_append_1]
    congr 1
    omega
  simp only [laterItems, Nat.zero_add, range, List.flatMap_append, List.flatMap_cons]

private theorem absent_before (numbered : Numbered markers items) {current search : Nat}
    {before after : List (StreamItem ρ)} (positive : 1 ≤ current) (split : items = before ++ .marker ⟨search⟩ :: after)
    (small : current * markers + search < 2 ^ 64) :
    ∀ item ∈ items ++ (List.range' 1 (current - 1)).flatMap (iterationItems items markers) ++
      iterationItems before markers current, item.marker? ≠ some (current * markers + search) := by
  have found : 1 ≤ search ∧ search ≤ markers := marker_le numbered (split ▸ List.mem_append_right _ List.mem_cons_self) rfl
  intro item member marked
  -- In the first iteration, in a whole later one, or in the part of the marker's own iteration.
  rcases List.mem_append.mp member with earlier | same
  · rcases List.mem_append.mp earlier with first | later
    · have bound := marker_le numbered first marked
      have once : 1 * markers ≤ current * markers := Nat.mul_le_mul_right _ positive
      omega
    · obtain ⟨iteration, range, inside⟩ := List.mem_flatMap.mp later
      obtain ⟨original, listed, rfl⟩ := List.mem_map.mp inside
      rw [renumber_marker?, Option.map_eq_some_iff] at marked
      obtain ⟨number, marked, same⟩ := marked
      rw [List.mem_range'_1] at range
      have bound := marker_le numbered listed marked
      have multiple : (iteration + 1) * markers ≤ current * markers := Nat.mul_le_mul_right _ (by omega)
      rw [Nat.succ_mul] at multiple
      rw [Nat.mod_eq_of_lt] at same <;> omega
  · obtain ⟨original, listed, rfl⟩ := List.mem_map.mp same
    rw [renumber_marker?, Option.map_eq_some_iff] at marked
    obtain ⟨number, marked, same⟩ := marked
    have smaller := smaller_before numbered split listed marked
    rw [Nat.mod_eq_of_lt] at same <;> omega

theorem emittedFrom_zero_ok (numbered : Numbered markers items) (some_ : 1 ≤ markers) :
    ∃ emitted : List (StreamItem ρ),
      emittedFrom (SourceOperator.createOperatorFunction ⟨items, iterations⟩) 0 = .ok (emitted.map .ofStreamItem) :=
  ⟨_, emittedFrom_zero numbered some_⟩

theorem emittedFrom_zero_unmarked (numbered : Numbered 0 items) :
    emittedFrom (SourceOperator.createOperatorFunction ⟨items, iterations⟩) 0 =
      .error (.error (.internal "No markers found in source operator items")) := by
  have none_ : maxMarker items = .error (.error (.internal "No markers found in source operator items")) := by
    rw [maxMarker, show items.filterMap StreamItem.marker? = [] from numbered]
    rfl
  change run ⟨items, 0, 0, iterations⟩ = _
  simp only [run, none_, bind, Except.bind]

private theorem iterationItems_numbers (numbered : Numbered markers items) (iteration : Nat) :
    (iterationItems items markers iteration).filterMap StreamItem.marker? =
      (List.range' (iteration * markers + 1) markers).map (· % 2 ^ 64) := by
  have renumbered : (iterationItems items markers iteration).filterMap StreamItem.marker? =
      (items.filterMap StreamItem.marker?).map fun number => (iteration * markers + number) % 2 ^ 64 := by
    rw [iterationItems, List.filterMap_map, List.map_filterMap]
    exact List.filterMap_congr fun item _ => renumber_marker? iteration item
  rw [renumbered, numbered, ← List.map_add_range', List.map_map]
  rfl

/-- Iterations one behind the other count on. -/
private theorem iterations_numbers (numbered : Numbered markers items) (first count : Nat) :
    ((List.range' first count).flatMap (iterationItems items markers)).filterMap StreamItem.marker? =
      (List.range' (first * markers + 1) (markers * count)).map (· % 2 ^ 64) := by
  induction count generalizing first with
  | zero => rfl
  | succ count ih =>
    have next : (first + 1) * markers + 1 = first * markers + 1 + markers := by
      rw [Nat.succ_mul]
      omega
    rw [List.range'_succ, List.flatMap_cons, List.filterMap_append, iterationItems_numbers numbered, ih, next,
      ← List.map_append, List.range'_append_1, Nat.mul_succ, Nat.add_comm markers]

private theorem filterMap_ofStreamItem (items : List (StreamItem ρ)) :
    (items.map SItem.ofStreamItem).filterMap SItem.marker? = items.filterMap StreamItem.marker? := by
  rw [List.filterMap_map]
  exact List.filterMap_congr fun item _ => ofStreamItem_marker? item

/-- The whole stream has the markers of all iterations in order. -/
theorem emitted_numbers (numbered : Numbered markers items) (some_ : 1 ≤ markers) (small : markers < 2 ^ 64)
    (iterated : 1 ≤ iterations) {emitted : List (SItem ρ)}
    (ran : emittedFrom (SourceOperator.createOperatorFunction ⟨items, iterations⟩) 0 = .ok emitted) :
    emitted.filterMap SItem.marker? = (List.range' 1 (markers * iterations)).map (· % 2 ^ 64) := by
  rw [emittedFrom_zero numbered some_] at ran
  cases ran
  have first : items.filterMap StreamItem.marker? = (List.range' 1 markers).map (· % 2 ^ 64) := by
    rw [show items.filterMap StreamItem.marker? = List.range' 1 markers from numbered]
    refine (List.map_congr_left fun number member => ?_).trans (List.map_id _) |>.symm
    rw [List.mem_range'_1] at member
    exact Nat.mod_eq_of_lt (by omega)
  have total : markers + markers * (iterations - 1) = markers * iterations := by
    rw [Nat.add_comm, ← Nat.mul_succ, Nat.succ_eq_add_one, Nat.sub_add_cancel iterated]
  rw [filterMap_ofStreamItem, List.filterMap_append, laterItems, iterations_numbers numbered, first, ← List.map_append,
    Nat.zero_add, Nat.one_mul, Nat.add_comm markers 1, List.range'_append_1, total]

/-- Every iteration has the batches of the list. -/
theorem emitted_batches (numbered : Numbered markers items) (some_ : 1 ≤ markers) (iterated : 1 ≤ iterations)
    {emitted : List (SItem ρ)}
    (ran : emittedFrom (SourceOperator.createOperatorFunction ⟨items, iterations⟩) 0 = .ok emitted) :
    batches emitted = (List.replicate iterations (batches (items.map .ofStreamItem))).flatten := by
  rw [emittedFrom_zero numbered some_] at ran
  cases ran
  have later (first count : Nat) :
      batches (((List.range' first count).flatMap (iterationItems items markers)).map .ofStreamItem) =
        (List.replicate count (batches (items.map .ofStreamItem))).flatten := by
    induction count generalizing first with
    | zero => rfl
    | succ count ih =>
      rw [List.range'_succ, List.flatMap_cons, List.map_append, batches_append, batches_iterationItems, ih,
        List.replicate_succ, List.flatten_cons]
  obtain ⟨more, rfl⟩ : ∃ more, iterations = more + 1 := ⟨iterations - 1, (Nat.sub_add_cancel iterated).symm⟩
  rw [List.map_append, batches_append, laterItems, Nat.zero_add, Nat.add_sub_cancel, later, List.replicate_succ,
    List.flatten_cons]

private theorem emittedFrom_zero_later (numbered : Numbered markers items) (some_ : 1 ≤ markers) {current search : Nat}
    {before after : List (StreamItem ρ)} (positive : 1 ≤ current) (inside : current < iterations)
    (split : items = before ++ .marker ⟨search⟩ :: after) (small : current * markers + search < 2 ^ 64) :
    emittedFrom (SourceOperator.createOperatorFunction ⟨items, iterations⟩) 0 =
      .ok ((items ++ (List.range' 1 (current - 1)).flatMap (iterationItems items markers) ++
          iterationItems before markers current).map .ofStreamItem ++ .marker ⟨current * markers + search⟩ ::
        (iterationItems after markers current ++ laterItems items markers iterations current).map .ofStreamItem) := by
  have here : iterationItems items markers current =
      iterationItems before markers current ++
        .marker ⟨current * markers + search⟩ :: iterationItems after markers current := by
    rw [split, iterationItems, List.map_append, List.map_cons, renumber, Nat.mod_eq_of_lt small]
    rfl
  rw [emittedFrom_zero numbered some_, laterItems_split positive inside, here]
  simp [SItem.ofStreamItem]

private theorem emittedFrom_head (numbered : Numbered markers items) (some_ : 1 ≤ markers) (positive : 1 ≤ checkpoint) :
    ∃ before after, items = before ++ .marker ⟨1 + (checkpoint - 1) % markers⟩ :: after ∧
      (∀ item ∈ before, item.marker? ≠ some (1 + (checkpoint - 1) % markers)) ∧
      emittedFrom (SourceOperator.createOperatorFunction ⟨items, iterations⟩) checkpoint =
        .ok (.marker ⟨1 + (checkpoint - 1) % markers⟩ ::
          (after ++ laterItems items markers iterations ((checkpoint - 1) / markers)).map .ofStreamItem) := by
  have below : (checkpoint - 1) % markers < markers := Nat.mod_lt _ some_
  have present : 1 + (checkpoint - 1) % markers ∈ items.filterMap StreamItem.marker? := by
    rw [numbered, List.mem_range'_1]
    omega
  obtain ⟨before, after, split, absent, found⟩ := split_at_marker present
  exact ⟨before, after, split, absent, emittedFrom_marker numbered some_ positive split found⟩

/-- The full stream around the marker of a checkpoint, beside what the source
emits after loading the checkpoint. -/
theorem emitted_around_marker (numbered : Numbered markers items) (some_ : 1 ≤ markers) (positive : 1 ≤ checkpoint)
    (within : checkpoint ≤ markers * iterations) (representable : checkpoint < 2 ^ 64 ∨ checkpoint ≤ markers) :
    ∃ before after replayed,
      emittedFrom (SourceOperator.createOperatorFunction ⟨items, iterations⟩) 0 =
        .ok (before ++ .marker ⟨checkpoint⟩ :: after) ∧
      (∀ item ∈ before, item.marker? ≠ some checkpoint) ∧
      emittedFrom (SourceOperator.createOperatorFunction ⟨items, iterations⟩) checkpoint =
        .ok (.marker ⟨1 + (checkpoint - 1) % markers⟩ :: replayed) ∧
      batches replayed = batches after ∧ (checkpoint ≤ markers → replayed = after) := by
  obtain ⟨before, after, split, absent, resumed⟩ := emittedFrom_head numbered some_ positive
  rcases Nat.lt_or_ge markers checkpoint with behind | inside
  · -- The marker stands in a later iteration.
    have position : (checkpoint - 1) / markers * markers + (1 + (checkpoint - 1) % markers) = checkpoint := by
      have division := Nat.div_add_mod (checkpoint - 1) markers
      rw [Nat.mul_comm] at division
      omega
    have small : (checkpoint - 1) / markers * markers + (1 + (checkpoint - 1) % markers) < 2 ^ 64 := by
      rw [position]
      exact representable.resolve_right (Nat.not_le_of_lt behind)
    have current : 1 ≤ (checkpoint - 1) / markers := (Nat.one_le_div_iff some_).mpr (by omega)
    have last : (checkpoint - 1) / markers < iterations :=
      (Nat.div_lt_iff_lt_mul some_).mpr (by rw [Nat.mul_comm]; omega)
    have full := emittedFrom_zero_later numbered some_ current last split small
    have earlier := absent_before numbered current split small
    rw [position] at full earlier
    refine ⟨_, _, _, full, ?_, resumed, ?_, fun inside => absurd inside (Nat.not_le_of_lt behind)⟩
    · intro item member
      obtain ⟨emitted, inside, rfl⟩ := List.mem_map.mp member
      rw [ofStreamItem_marker?]
      exact earlier emitted inside
    · rw [List.map_append, List.map_append, batches_append, batches_append, batches_iterationItems]
  · -- The marker stands in the list itself.
    have number : 1 + (checkpoint - 1) % markers = checkpoint := by
      rw [Nat.mod_eq_of_lt] <;> omega
    rw [number] at split absent
    rw [Nat.div_eq_of_lt (by omega)] at resumed
    refine ⟨before.map .ofStreamItem, (after ++ laterItems items markers iterations 0).map .ofStreamItem, _, ?_, ?_,
      resumed, rfl, fun _ => rfl⟩
    · rw [emittedFrom_zero numbered some_, split]
      simp [SItem.ofStreamItem]
    · intro item member
      obtain ⟨emitted, inside, rfl⟩ := List.mem_map.mp member
      rw [ofStreamItem_marker?]
      exact absent emitted inside

private theorem fromMarker_split {number : Nat} {before after : List (SItem ρ)}
    (absent : ∀ item ∈ before, item.marker? ≠ some number) :
    fromMarker number (before ++ .marker ⟨number⟩ :: after) = .marker ⟨number⟩ :: after := by
  rw [fromMarker, List.dropWhile_append_of_pos fun item member => by simpa using absent item member]
  simp [SItem.marker?]

private theorem fromMarker_head {number : Nat} {items rest : List (SItem ρ)} {item : SItem ρ}
    (cut : fromMarker number items = item :: rest) : item.marker? = some number := by
  have first := List.head?_dropWhile_not (fun item : SItem ρ => item.marker? ≠ some number) items
  rw [show items.dropWhile _ = _ from cut] at first
  simpa using first

/-- For a list with the markers 1 to `markers` and every checkpoint of the full
stream: loading it continues the full stream iff its marker stands in the list
itself. In a later iteration the first marker already has another number. -/
theorem resumes_iff (numbered : Numbered markers items) (some_ : 1 ≤ markers) (positive : 1 ≤ checkpoint)
    (within : checkpoint ≤ markers * iterations) :
    ResumesAt (SourceOperator.createOperatorFunction ⟨items, iterations⟩) checkpoint ↔ checkpoint ≤ markers := by
  constructor
  · rintro ⟨emitted, _, resumed⟩
    obtain ⟨_, _, _, _, head⟩ := emittedFrom_head numbered some_ positive
    have number := fromMarker_head (Except.ok.inj (resumed.symm.trans head))
    have below : (checkpoint - 1) % markers < markers := Nat.mod_lt _ some_
    have same : 1 + (checkpoint - 1) % markers = checkpoint := Option.some.inj number
    omega
  · intro inside
    obtain ⟨before, after, replayed, full, absent, resumed, _, whole⟩ :=
      emitted_around_marker numbered some_ positive within (.inr inside)
    refine ⟨_, full, ?_⟩
    have number : 1 + (checkpoint - 1) % markers = checkpoint := by
      rw [Nat.mod_eq_of_lt] <;> omega
    rw [resumed, fromMarker_split absent, number, whole inside]

end Emitted

def twoMarkers : List (StreamItem Nat) :=
  [.recordBatch ⟨[1]⟩, .marker ⟨1⟩, .recordBatch ⟨[2]⟩, .marker ⟨2⟩]

theorem resumes_in_list :
    ResumesAt (SourceOperator.createOperatorFunction ⟨twoMarkers, 2⟩) 2 :=
  (resumes_iff (by decide : Numbered 2 twoMarkers) (by decide) (by decide) (by decide)).mpr (by decide)

/-- Checkpoint 3 is the first marker of the second iteration. The restarted source
emits it as marker 1, and marker 4 behind it as marker 2. -/
theorem second_iteration_numbered_as_first :
    emittedFrom (SourceOperator.createOperatorFunction ⟨twoMarkers, 2⟩) 0 =
      .ok [.recordBatch ⟨[1]⟩, .marker ⟨1⟩, .recordBatch ⟨[2]⟩, .marker ⟨2⟩,
        .recordBatch ⟨[1]⟩, .marker ⟨3⟩, .recordBatch ⟨[2]⟩, .marker ⟨4⟩] ∧
    emittedFrom (SourceOperator.createOperatorFunction ⟨twoMarkers, 2⟩) 3 =
      .ok [.marker ⟨1⟩, .recordBatch ⟨[2]⟩, .marker ⟨2⟩] ∧
    ¬ ResumesAt (SourceOperator.createOperatorFunction ⟨twoMarkers, 2⟩) 3 := by
  refine ⟨rfl, rfl, ?_⟩
  rintro ⟨emitted, full, resumed⟩
  cases full
  cases resumed

end DatafusionRay.Proofs.SourceResume
