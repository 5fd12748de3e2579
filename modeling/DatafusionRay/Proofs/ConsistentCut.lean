import DatafusionRay.Proofs.CountSnapshots
import DatafusionRay.Proofs.SingleFiber

/-! The row counter behind a remote source. Each fiber passes its own copy of a
marker on, so the counter stores one checkpoint for each copy. -/

namespace DatafusionRay.Proofs.ConsistentCut
open Streaming Foundation Fibers CountSnapshots

variable {ρ : Type} {check : Nat → Except DataFusionError FiberState}

/-- The local checkpoints with a number, as `find_checkpoint` tells them. -/
def checkpointsNumbered (number : Nat) (function : CountStarFunction) : List (String × Db) :=
  function.state.checkpoints.filter fun directory => directory.1.startsWith s!"{number}__"

/-- There is exactly one checkpoint with the number, and it holds the count. -/
def StoredOnce (number count : Nat) (function : CountStarFunction) : Prop :=
  ∃ directory snapshot bytes value, checkpointsNumbered number function = [(directory, snapshot)] ∧
    snapshot.lookup CountStarFunction.countKey = some bytes ∧ fromBeBytes? bytes = some value ∧ value.toNat = count

def rowsPreceding (streams : List (List (SResult ρ))) (number : Nat) : Nat :=
  (streams.map fun items => rowsBefore number (okItems items)).sum

def ConsistentCuts (streams : List (List (SResult ρ))) (markers : List Nat) (function : CountStarFunction) : Prop :=
  ∀ number ∈ markers, StoredOnce number (rowsPreceding streams number) function

theorem filterMap_okItems (results : List (SResult ρ)) :
    (okItems results).filterMap SItem.marker? = markersOf results := by
  rw [okItems, List.filterMap_filterMap]
  rfl

section Stored
variable {function : CountStarFunction} {uuid : Nat → String} {results : List (SResult ρ)} {number : Nat}

private theorem numbered_recorded (unused : checkpointsNumbered number function = []) (zero : function.localCount = 0)
    (uuid : Nat → String) (results : List (SResult ρ)) :
    List.Forall₂ Recorded ((cuts 0 (okItems results)).filter fun cut => cut.1 = number)
      (checkpointsNumbered number (function.run uuid results).1) := by
  have start : function.localCount = .ofNat 0 := zero
  obtain ⟨⟨taken, checkpoints, recorded⟩, _⟩ := run_recorded uuid results start
  rw [checkpointsNumbered] at unused
  rw [checkpointsNumbered, checkpoints, List.filter_append, unused, List.nil_append]
  refine List.rel_filter (fun cut directory record => ?_) recorded
  obtain ⟨⟨name, named⟩, _⟩ := record
  dsimp only
  rw [named, directory_startsWith_iff, decide_eq_true_eq]

/-- What the counter has stored under a number depends on the first marker with it and on how many there are. -/
theorem storedOnce_iff (unused : checkpointsNumbered number function = []) (zero : function.localCount = 0) {count : Nat} :
    StoredOnce number count (function.run uuid results).1 ↔
      (markersOf results).count number = 1 ∧ rowsBefore number (okItems results) % 2 ^ 64 = count := by
  have recorded := numbered_recorded unused zero uuid results
  have counted : (markersOf results).count number =
      ((cuts 0 (okItems results)).filter fun cut => cut.1 = number).length := by
    rw [← filterMap_okItems, ← cuts_numbers 0, List.count, List.countP_map, List.countP_eq_length_filter]
    rfl
  rw [counted]
  constructor
  · rintro ⟨directory, snapshot, bytes, value, single, stored, decoded, rfl⟩
    rw [single] at recorded
    have length := recorded.length_eq
    have present : number ∈ (okItems results).filterMap SItem.marker? := by
      rw [filterMap_okItems, ← List.one_le_count_iff, counted, length]
      exact Nat.le_refl 1
    obtain ⟨later, first⟩ := cuts_filter_eq_cons 0 present
    refine ⟨length, ?_⟩
    rw [first] at recorded
    cases recorded with
    | cons record _ =>
      rw [record.2, Option.some.injEq] at stored
      rw [← stored, fromBeBytes_toBeBytes, Option.some.injEq] at decoded
      simp [← decoded]
  · rintro ⟨single, rfl⟩
    have present : number ∈ (okItems results).filterMap SItem.marker? := by
      rw [filterMap_okItems, ← List.one_le_count_iff, counted, single]
    obtain ⟨later, first⟩ := cuts_filter_eq_cons 0 present
    obtain rfl : later = [] := by
      rw [first, List.length_cons] at single
      exact List.eq_nil_of_length_eq_zero (Nat.succ.inj single)
    rw [first] at recorded
    cases found : checkpointsNumbered number (function.run uuid results).1 with
    | nil =>
      rw [found] at recorded
      cases recorded
    | cons directory others =>
      rw [found] at recorded
      cases recorded with
      | cons record rest =>
        cases rest
        exact ⟨_, _, _, _, found, record.2, fromBeBytes_toBeBytes _, by simp⟩

end Stored

section Fibers
variable {streams : List (List (SResult ρ))} {running : RunningFibers ρ}

private theorem count_two (number : Nat) (output : List (Nat × SResult ρ)) {first second : Nat} (different : first ≠ second) :
    (markersOf (emittedBy first output)).count number + (markersOf (emittedBy second output)).count number ≤
      (markersOf (output.map Prod.snd)).count number := by
  induction output with
  | nil => exact Nat.le_refl 0
  | cons entry rest ih =>
    obtain ⟨position, result⟩ := entry
    have alone : markersOf (([(position, result)] ++ rest).map Prod.snd) = markersOf [result] ++ markersOf (rest.map Prod.snd) :=
      markersOf_append [result] _
    have share (other : Nat) : (markersOf (emittedBy other [(position, result)])).count number =
        if position = other then (markersOf [result]).count number else 0 := by
      by_cases same : position = other <;> simp [emittedBy, same, markersOf]
    rw [← List.singleton_append, emittedBy_append, emittedBy_append, markersOf_append, markersOf_append, alone,
      List.count_append, List.count_append, List.count_append, share, share]
    split <;> split <;> omega

private theorem first_emitted {items : List (SResult ρ)} {number : Nat} {later : List Nat}
    (progress : Progress streams running) (completed : Completed running) (position : Nat)
    (given : streams[position]? = some items) (carried : markersOf items = number :: later) :
    1 ≤ (markersOf (emittedBy position running.output)).count number := by
  obtain ⟨fiber, found⟩ := exists_fiber progress.size (List.getElem?_eq_some_iff.mp given).1
  obtain ⟨done, stands, emitted⟩ := progress.stands position items fiber given found
  rw [← filterMap_okItems, emitted, filterMap_okItems, List.one_le_count_iff]
  rcases completed.2 fiber (List.mem_of_getElem? found) with ended | paused
  · rw [← stands.ended ended, carried]
    exact List.mem_cons_self
  · obtain ⟨before, marker, todo, split, last, _⟩ := stands.halted paused
    rw [split, markersOf_append, last, markersOf_append, markersOf_marker] at carried
    rw [last, markersOf_append, markersOf_marker]
    cases earlier : markersOf before with
    | nil => simp_all
    | cons head rest => simp_all

end Fibers

/-- None of the directories goes by one of the numbers. -/
def Unused (leftover : List (String × Db)) (numbers : List Nat) : Prop :=
  ∀ number ∈ numbers, StateBackend.NoneNumbered leftover number

theorem init_fresh {stateId : String} {generations : Option (List GenerationSpec)} {leftover : List (String × Db)}
    {function : CountStarFunction} (created : CountStarFunction.init stateId generations leftover = .ok function) :
    function.state.checkpoints = leftover ∧ function.localCount = 0 := by
  unfold CountStarFunction.init at created
  split at created
  next => cases created
  next => cases created
  next =>
    cases created
    exact ⟨rfl, rfl⟩

theorem Unused.numbered {numbers : List Nat} {function : CountStarFunction}
    (unused : Unused function.state.checkpoints numbers) {number : Nat} (member : number ∈ numbers) :
    checkpointsNumbered number function = [] :=
  List.filter_eq_nil_iff.mpr (unused number member)

section Cuts
variable {streams : List (List (SResult ρ))} {items second : List (SResult ρ)} {markers : List Nat}
  {lastCompletedMarker : Nat} {actions : List Nat} {running : RunningFibers ρ} {function : CountStarFunction}
  {uuid : Nat → String}

private theorem cuts_alone_iff (carried : markersOf items = markers) (unused : Unused function.state.checkpoints markers)
    (zero : function.localCount = 0)
    (executed : run (RunningFibers.step check) (.start lastCompletedMarker [items]) actions = some running)
    (completed : Completed running) :
    ConsistentCuts [items] markers (function.run uuid (running.output.map Prod.snd)).1 ↔
      (reached check markers).Nodup ∧ markers ⊆ reached check markers ∧
        ∀ number ∈ markers, rowsPreceding [items] number < 2 ^ 64 := by
  obtain ⟨done, todo, split, emitted, met⟩ := (run_alone executed).completed completed
  rw [carried] at met
  have markers_eq : markersOf (running.output.map Prod.snd) = reached check markers := by
    rw [← filterMap_okItems, emitted, filterMap_okItems, met]
  have within : reached check markers ⊆ markers := by
    rw [← met, ← carried, split, markersOf_append]
    exact List.subset_append_left _ _
  have rows : ∀ number ∈ reached check markers, rowsBefore number (okItems done) = rowsPreceding [items] number := by
    intro number member
    rw [← met, ← filterMap_okItems] at member
    simp [rowsPreceding, split, okItems_append, rowsBefore_append member]
  have stored : ConsistentCuts [items] markers (function.run uuid (running.output.map Prod.snd)).1 ↔
      ∀ number ∈ markers, (reached check markers).count number = 1 ∧
        rowsBefore number (okItems done) % 2 ^ 64 = rowsPreceding [items] number := by
    rw [← markers_eq, ← emitted]
    exact forall₂_congr fun number member => storedOnce_iff (unused.numbered member) zero
  rw [stored]
  constructor
  · intro cut
    refine ⟨?_, ?_, ?_⟩
    · refine List.nodup_iff_count_le_one.mpr fun number => ?_
      by_cases member : number ∈ reached check markers
      · exact Nat.le_of_eq (cut number (within member)).1
      · rw [List.count_eq_zero_of_not_mem member]
        exact Nat.zero_le 1
    · exact fun number member => List.count_pos_iff.mp (by rw [(cut number member).1]; exact Nat.one_pos)
    · intro number member
      rw [← (cut number member).2]
      exact Nat.mod_lt _ (by decide)
  · rintro ⟨distinct, met, small⟩ number member
    refine ⟨List.count_eq_one_of_mem distinct (met member), ?_⟩
    rw [rows number (met member), Nat.mod_eq_of_lt (small number member)]

private theorem cuts_shared_fail {first : Nat} {later : List Nat}
    (given : streams[0]? = some items ∧ streams[1]? = some second)
    (carried : markersOf items = first :: later ∧ markersOf second = first :: later)
    (unused : Unused function.state.checkpoints (first :: later)) (zero : function.localCount = 0)
    (executed : run (RunningFibers.step check) (.start lastCompletedMarker streams) actions = some running)
    (completed : Completed running) :
    ¬ ConsistentCuts streams (first :: later) (function.run uuid (running.output.map Prod.snd)).1 := by
  intro cut
  have progress := run_progress executed
  have own := first_emitted progress completed 0 given.1 carried.1
  have other := first_emitted progress completed 1 given.2 carried.2
  have several := count_two first running.output Nat.zero_ne_one
  have single := ((storedOnce_iff (unused.numbered List.mem_cons_self) zero).mp (cut first List.mem_cons_self)).1
  omega

end Cuts

/-- Over every completed run of the fibers, on a machine without directories that go
by the markers' numbers: the counter has exactly one checkpoint
for each marker, with the rows in front of it, iff there are no markers, or there is
one fiber that meets each number once, is not told to pause before it has met all of
them, and whose counts fit into a `u64`. -/
theorem consistent_cuts_iff {streams : List (List (SResult ρ))} {markers : List Nat} {lastCompletedMarker : Nat}
    {actions : List Nat} {running : RunningFibers ρ} {stateId : String} {generations : Option (List GenerationSpec)}
    {leftover : List (String × Db)} {function : CountStarFunction} (uuid : Nat → String) (nonempty : streams ≠ [])
    (carried : ∀ items ∈ streams, markersOf items = markers)
    (created : CountStarFunction.init stateId generations leftover = .ok function) (unused : Unused leftover markers)
    (executed : run (RunningFibers.step check) (.start lastCompletedMarker streams) actions = some running)
    (completed : Completed running) :
    ConsistentCuts streams markers (function.run uuid (running.output.map Prod.snd)).1 ↔
      markers = [] ∨ (streams.length = 1 ∧ (reached check markers).Nodup ∧ markers ⊆ reached check markers ∧
        ∀ number ∈ markers, rowsPreceding streams number < 2 ^ 64) := by
  obtain ⟨rfl, zero⟩ := init_fresh created
  cases markers with
  | nil => exact ⟨fun _ => .inl rfl, fun _ => nofun⟩
  | cons first later =>
    rcases streams with _ | ⟨items, _ | ⟨second, others⟩⟩
    · exact absurd rfl nonempty
    · rw [cuts_alone_iff (carried items (by simp)) unused zero executed completed]
      simp
    · refine iff_of_false (cuts_shared_fail ⟨rfl, rfl⟩ ⟨carried items (by simp), carried second (by simp)⟩ unused zero
        executed completed) ?_
      rintro (absent | ⟨single, _⟩)
      · cases absent
      · cases single

def wholeGeneration : List GenerationSpec := [⟨"initial", ⟨0, 1, 1⟩, []⟩]

def oneFiber : List (List (SResult Nat)) := [[.ok (.recordBatch ⟨[1, 2]⟩), .ok (.marker ⟨1⟩)]]

theorem consistent_cuts_one_fiber :
    ∃ function running, CountStarFunction.init "task" (some wholeGeneration) [] = .ok function ∧
      run (RunningFibers.step fun _ => .ok .«continue») (.start 0 oneFiber) [0, 0, 0, 0, 0] = some running ∧
      ConsistentCuts oneFiber [1] (function.run (fun _ => "uuid") (running.output.map Prod.snd)).1 := by
  obtain ⟨running, executed⟩ := Option.isSome_iff_exists.mp
    (by decide :
      (run (RunningFibers.step fun _ => .ok .«continue») (.start 0 oneFiber) [0, 0, 0, 0, 0]).isSome = true)
  have completed : (run (RunningFibers.step fun _ => .ok .«continue») (.start 0 oneFiber) [0, 0, 0, 0, 0]).map
      (fun running => decide (Completed running)) = some true := by decide
  rw [executed, Option.map_some, Option.some.injEq, decide_eq_true_eq] at completed
  refine ⟨_, running, rfl, executed, (consistent_cuts_iff (fun _ => "uuid") (by decide) (by decide)
    (rfl : CountStarFunction.init "task" (some wholeGeneration) [] = _)
    (fun number _ => StateBackend.noneNumbered_nil number) executed completed).mpr ?_⟩
  exact .inr ⟨rfl, by decide, by decide, by decide⟩

def slowSecondFiber : List (List (SResult Nat)) :=
  [[.ok (.recordBatch ⟨[1]⟩), .ok (.marker ⟨1⟩)], [.ok (.recordBatch ⟨[2]⟩), .ok (.marker ⟨1⟩)]]

/-- The first fiber passes its copy of the marker on before the second one's row has come. -/
theorem slow_fiber_row_missed :
    ∃ function running, CountStarFunction.init "task" (some wholeGeneration) [] = .ok function ∧
      run (RunningFibers.step fun _ => .ok .«continue») (.start 0 slowSecondFiber) [0, 0, 0, 0, 1, 1, 1, 1, 0, 0, 1] =
        some running ∧
      Completed running ∧ rowsPreceding slowSecondFiber 1 = 2 ∧
      cuts 0 (okItems (running.output.map Prod.snd)) = [(1, 1), (1, 2)] ∧
      ¬ ConsistentCuts slowSecondFiber [1] (function.run (fun _ => "uuid") (running.output.map Prod.snd)).1 := by
  obtain ⟨running, executed⟩ := Option.isSome_iff_exists.mp
    (by decide : (run (RunningFibers.step fun _ => .ok .«continue») (.start 0 slowSecondFiber)
      [0, 0, 0, 0, 1, 1, 1, 1, 0, 0, 1]).isSome = true)
  have facts : (run (RunningFibers.step fun _ => .ok .«continue») (.start 0 slowSecondFiber)
      [0, 0, 0, 0, 1, 1, 1, 1, 0, 0, 1]).map (fun running => (decide (Completed running),
        cuts 0 (okItems (running.output.map Prod.snd)), markersOf (running.output.map Prod.snd))) =
      some (true, [(1, 1), (1, 2)], [1, 1]) := by decide
  rw [executed, Option.map_some, Option.some.injEq, Prod.mk.injEq, Prod.mk.injEq, decide_eq_true_eq] at facts
  obtain ⟨completed, stored, markers⟩ := facts
  refine ⟨_, running, rfl, executed, completed, by decide, stored, fun cut => ?_⟩
  have single := ((storedOnce_iff rfl rfl).mp (cut 1 List.mem_cons_self)).1
  rw [markers] at single
  cases single

end DatafusionRay.Proofs.ConsistentCut
