import DatafusionRay.Foundation.FiniteMap
import DatafusionRay.Foundation.TryFilterMap
import DatafusionRay.Proofs.CoverageSweep
import DatafusionRay.Streaming.Coordinator

/-! Lookups scan the recorded checkpoints from the oldest on and stop at the first
one whose ranges sweep the search range, unless the search of an entry panics. -/

namespace DatafusionRay.Proofs.CheckpointLookup
open Streaming Foundation CheckpointSelection CoverageSweep CompleteCheckpoint

/-- The search of such ranges ends without a panic: it divides by no zero count,
and it has a candidate in case rescaling leaves nothing of the search range. -/
def Searchable (searchRange : PartitionRange) (available : List PartitionRange) : Prop :=
  ¬ ZeroCount searchRange available ∧ (Collapsed searchRange available → candidates searchRange available ≠ [])

def ranges (entry : CheckpointEntry) : List PartitionRange := entry.partitions.map PartitionInfo.partitionRange

/-- No entry is searched that would panic: each one is searchable, unless one
before it answers the search. -/
def SafelyOrdered (searchRange : PartitionRange) (entries : List CheckpointEntry) : Prop :=
  ∀ before entry after, entries = before ++ entry :: after →
    (∀ earlier ∈ before, ¬ SweptInOrder searchRange (ranges earlier)) → Searchable searchRange (ranges entry)

def Returns {α : Type} (result : Except Failure α) : Prop := ∀ message, result ≠ .error (.panicked message)

section Entry
variable {searchRange : PartitionRange} {entry : CheckpointEntry}

inductive CoverAnswer (searchRange : PartitionRange) (entry : CheckpointEntry) :
    Except Failure (Option (List (String × PartitionRange))) → Prop where
  | panic {message} (unsearchable : ¬ Searchable searchRange (ranges entry)) :
      CoverAnswer searchRange entry (.error (.panicked message))
  | gap (searchable : Searchable searchRange (ranges entry)) (unswept : ¬ SweptInOrder searchRange (ranges entry)) :
      CoverAnswer searchRange entry (.ok none)
  | covered {infos} (searchable : Searchable searchRange (ranges entry))
      (swept : SweptInOrder searchRange (ranges entry)) : CoverAnswer searchRange entry (.ok (some infos))

theorem cover_answers : CoverAnswer searchRange entry (entry.cover searchRange) := by
  have answer := @getNonOverlappingPartitions_answers searchRange (ranges entry)
  unfold CheckpointEntry.cover
  rw [show entry.partitions.map PartitionInfo.partitionRange = ranges entry from rfl]
  generalize getNonOverlappingPartitions searchRange (ranges entry) = result at answer
  cases answer with
  | zeroCount zero => exact .panic fun searchable => searchable.1 zero
  | gap counts open_ unswept => exact .gap ⟨counts, fun collapsed => absurd collapsed open_⟩ unswept
  | stuck counts collapsed none => exact .panic fun searchable => searchable.2 collapsed none
  | @covered selection counts swept stored _ =>
    simp only [bind, Except.bind, pure, Except.pure]
    split
    next failure failed =>
      -- Every selected index is a position in the entry's list.
      obtain ⟨overlap, member, outside⟩ := mapM_error failed
      obtain ⟨range, found⟩ := stored overlap member
      rw [ranges, List.getElem?_map, Option.map_eq_some_iff] at found
      obtain ⟨info, present, _⟩ := found
      rw [present] at outside
      cases outside
    next infos _ => exact .covered ⟨counts, fun _ => candidates_of_swept swept⟩ swept

end Entry

section Scan
variable {searchRange : PartitionRange} {entry : CheckpointEntry} {entries : List CheckpointEntry}

theorem safelyOrdered_cons :
    SafelyOrdered searchRange (entry :: entries) ↔
      Searchable searchRange (ranges entry) ∧
        (¬ SweptInOrder searchRange (ranges entry) → SafelyOrdered searchRange entries) := by
  constructor
  · intro safe
    refine ⟨safe [] entry entries rfl nofun, fun unswept before next after split others => ?_⟩
    exact safe (entry :: before) next after (by rw [split, List.cons_append]) (List.forall_mem_cons.mpr ⟨unswept, others⟩)
  · rintro ⟨first, later⟩ before next after split others
    cases before with
    | nil =>
      obtain ⟨rfl, rfl⟩ := List.cons.inj split
      exact first
    | cons head before =>
      obtain ⟨rfl, rfl⟩ := List.cons.inj split
      rw [List.forall_mem_cons] at others
      exact later others.1 before next after rfl others.2

theorem findCover_returns_iff :
    Returns (findCover searchRange entries) ↔ SafelyOrdered searchRange entries := by
  induction entries with
  | nil => exact ⟨fun _ before _ _ split => by simp at split, fun _ _ impossible => by cases impossible⟩
  | cons entry entries ih =>
    rw [safelyOrdered_cons, ← ih, findCover]
    have answer := @cover_answers searchRange entry
    generalize entry.cover searchRange = result at answer
    cases answer with
    | @panic message unsearchable =>
      exact iff_of_false (fun returns => returns message rfl) fun safe => unsearchable safe.1
    | gap searchable unswept => simp [searchable, unswept, bind, Except.bind]
    | covered searchable swept => simp [Returns, searchable, swept, bind, Except.bind, pure, Except.pure]

end Scan

section Lookup
variable {file : Option LatestText} {operatorId checkpointId : String} {searchRange : PartitionRange}

/-- What follows a search without a panic of its own panics exactly if the search does. -/
private theorem returns_bind_iff {α β : Type} {result : Except Failure α} {next : α → Except Failure β}
    (returns : ∀ value, Returns (next value)) : Returns (result >>= next) ↔ Returns result := by
  cases result with
  | error failure => simp [Returns, bind, Except.bind]
  | ok value => exact iff_of_true (returns value) nofun

private theorem read_bind {β : Type} (latest : LatestCheckpoints) (next : LatestCheckpoints → Except Failure β) :
    ((Except.ok latest).mapError Failure.error >>= next) = next latest := rfl

/-- A file that cannot be parsed is an error, and what is made of an answer is none of a search's panics. -/
private theorem lookup_returns_iff {β : Type} (select : LatestCheckpoints → List CheckpointEntry)
    {next : Option (String × List (String × PartitionRange)) → Except Failure β} (returns : ∀ found, Returns (next found)) :
    Returns ((readLatestJson file).mapError Failure.error >>= fun latest => findCover searchRange (select latest) >>= next) ↔
      ∀ latest, readLatestJson file = .ok latest → SafelyOrdered searchRange (select latest) := by
  cases readLatestJson file with
  | error error =>
    refine iff_of_true (fun message panicked => ?_) (fun latest read => ?_)
    · cases panicked
    · cases read
  | ok latest =>
    rw [read_bind, returns_bind_iff returns, findCover_returns_iff]
    simp only [Except.ok.injEq, forall_eq']

private theorem operatorCheckpoints_returns_iff :
    Returns (getOperatorCheckpoints file operatorId searchRange checkpointId) ↔
      ∀ latest, readLatestJson file = .ok latest →
        SafelyOrdered searchRange (latest.completedCheckpoints.filter fun entry => entry.id == checkpointId) := by
  apply lookup_returns_iff fun latest => latest.completedCheckpoints.filter fun entry => entry.id == checkpointId
  intro found message panicked
  cases found <;> cases panicked

private theorem latestCheckpoints_returns_iff :
    Returns (getLatestOperatorCheckpoints file operatorId searchRange) ↔
      ∀ latest, readLatestJson file = .ok latest → SafelyOrdered searchRange latest.completedCheckpoints := by
  apply lookup_returns_iff LatestCheckpoints.completedCheckpoints
  intro found message panicked
  cases found <;> cases panicked

end Lookup

/-- The lookups return exactly if no entry that they come to is one whose search panics. -/
theorem lookups_return_iff (file : Option LatestText) (operatorId checkpointId : String)
    (searchRange : PartitionRange) :
    (Returns (getOperatorCheckpoints file operatorId searchRange checkpointId) ∧
      Returns (getLatestOperatorCheckpoints file operatorId searchRange)) ↔
    ∀ latest, readLatestJson file = .ok latest →
      SafelyOrdered searchRange (latest.completedCheckpoints.filter fun entry => entry.id == checkpointId) ∧
        SafelyOrdered searchRange latest.completedCheckpoints := by
  rw [operatorCheckpoints_returns_iff, latestCheckpoints_returns_iff]
  simp only [imp_and, forall_and]

/-- The range of a task scheduled without partitions has count zero, and a copy
beyond the number of partitions gets a range without one. -/
theorem degenerate_ranges_panic :
    getOperatorCheckpoints (some (.ok (update ⟨"1", ⟨.empty, 1000, "operators/count/checkpoints/a"⟩⟩ ⟨[]⟩))) "count" .empty
          "1" =
        .error (.panicked "attempt to divide by zero") ∧
      (scaleUpPartitions 35)[34]? = some ⟨34, 34, 34⟩ ∧
      getLatestOperatorCheckpoints (some (.ok (update ⟨"1", ⟨.full, 1000, "operators/count/checkpoints/a"⟩⟩ ⟨[]⟩))) "count"
          ⟨34, 34, 34⟩ =
        .error (.panicked "Search algorithm finished without returning the success case") := by
  decide

section Recording

/-- The listing behind `complete_checkpoint` calls that all succeed, from no file on. -/
def record (calls : List CompleteCheckpoint) : LatestCheckpoints := calls.foldl (fun latest call => call.update latest) ⟨[]⟩

/-- The checkpoint ids in the order in which they were first recorded. -/
def recordedIds (calls : List CompleteCheckpoint) : List String := (calls.map checkpointId).eraseDups

def recordedInfos (calls : List CompleteCheckpoint) (id : String) : List PartitionInfo :=
  (calls.filter fun call => call.checkpointId == id).map partitionInfo

private theorem insert_entries {ids : List String} {infos : String → List PartitionInfo} (call : CompleteCheckpoint)
    (distinct : ids.Nodup) (new : call.checkpointId ∉ ids → infos call.checkpointId = []) :
    call.insert (ids.map fun id => ⟨id, infos id⟩) =
      (if call.checkpointId ∈ ids then ids else ids ++ [call.checkpointId]).map fun id =>
        ⟨id, infos id ++ if call.checkpointId = id then [call.partitionInfo] else []⟩ := by
  induction ids with
  | nil => simp [CompleteCheckpoint.insert, new List.not_mem_nil]
  | cons id rest ih =>
    rw [List.nodup_cons] at distinct
    rw [List.map_cons, CompleteCheckpoint.insert]
    split
    next own =>
      have own : id = call.checkpointId := own
      subst own
      rw [if_pos List.mem_cons_self, List.map_cons, if_pos rfl]
      refine congrArg (List.cons _) (List.map_congr_left fun other member => ?_)
      have different : call.checkpointId ≠ other := fun same => distinct.1 (same ▸ member)
      rw [if_neg different, List.append_nil]
    next other =>
      have other : call.checkpointId ≠ id := fun same => other same.symm
      have absent : call.checkpointId ∉ rest → infos call.checkpointId = [] := fun missing =>
        new (List.not_mem_cons_of_ne_of_not_mem other missing)
      rw [ih distinct.2 absent]
      by_cases old : call.checkpointId ∈ rest
      · rw [if_pos old, if_pos (List.mem_cons_of_mem _ old), List.map_cons, if_neg other, List.append_nil]
      · rw [if_neg old, if_neg (List.not_mem_cons_of_ne_of_not_mem other old), List.cons_append, List.map_cons,
          if_neg other, List.append_nil]

theorem record_entries (calls : List CompleteCheckpoint) :
    (record calls).completedCheckpoints = (recordedIds calls).map fun id => ⟨id, recordedInfos calls id⟩ := by
  induction calls using List.reverseRecOn with
  | nil => rfl
  | append_singleton calls call ih =>
    have absent : call.checkpointId ∉ recordedIds calls → recordedInfos calls call.checkpointId = [] := by
      intro missing
      rw [recordedInfos, List.map_eq_nil_iff, List.filter_eq_nil_iff]
      intro other member same
      exact missing (List.mem_eraseDups.mpr (List.mem_map.mpr ⟨other, member, eq_of_beq same⟩))
    have distinct : (recordedIds calls).Nodup := FiniteMap.nodup_eraseDups _
    rw [record, List.foldl_append, ← record, List.foldl_cons, List.foldl_nil, update, ih,
      insert_entries call distinct absent]
    simp only [recordedIds, List.map_append, List.map_cons, List.map_nil, FiniteMap.eraseDups_append_singleton,
      List.mem_eraseDups]
    refine List.map_congr_left fun id _ => ?_
    by_cases same : call.checkpointId = id
    · simp [recordedInfos, same]
    · simp [recordedInfos, same]

end Recording

section Latest
variable {searchRange : PartitionRange} {latest : LatestCheckpoints} {operatorId : String}

private theorem findCover_listed {entries : List CheckpointEntry} {found : String × List (String × PartitionRange)}
    (answered : findCover searchRange entries = .ok (some found)) : ∃ entry ∈ entries, entry.id = found.1 := by
  induction entries with
  | nil => cases answered
  | cons head rest ih =>
    rw [findCover] at answered
    cases cover : head.cover searchRange with
    | error failure =>
      rw [cover] at answered
      cases answered
    | ok result =>
      rw [cover] at answered
      cases result with
      | some infos =>
        cases answered
        exact ⟨head, List.mem_cons_self, rfl⟩
      | none =>
        obtain ⟨entry, member, same⟩ := ih answered
        exact ⟨entry, List.mem_cons_of_mem _ member, same⟩

private theorem findCover_found_iff {before after : List CheckpointEntry} {entry : CheckpointEntry}
    (different : ∀ earlier ∈ before, earlier.id ≠ entry.id) (others : ∀ later ∈ after, later.id ≠ entry.id) :
    (∃ infos, findCover searchRange (before ++ entry :: after) = .ok (some (entry.id, infos))) ↔
      (Searchable searchRange (ranges entry) ∧ SweptInOrder searchRange (ranges entry)) ∧
        ∀ earlier ∈ before, Searchable searchRange (ranges earlier) ∧ ¬ SweptInOrder searchRange (ranges earlier) := by
  induction before with
  | nil =>
    rw [List.nil_append, findCover]
    have answer := @cover_answers searchRange entry
    generalize entry.cover searchRange = result at answer
    cases answer with
    | panic unsearchable => simp [unsearchable, bind, Except.bind]
    | covered searchable swept => simp [searchable, swept, bind, Except.bind, pure, Except.pure]
    | gap searchable unswept =>
      simp only [unswept, and_false, false_and, iff_false]
      rintro ⟨infos, answered⟩
      obtain ⟨later, member, same⟩ := findCover_listed answered
      exact others later member same
  | cons head before ih =>
    rw [List.forall_mem_cons] at different
    rw [List.cons_append, findCover, List.forall_mem_cons]
    have answer := @cover_answers searchRange head
    generalize head.cover searchRange = result at answer
    cases answer with
    | panic unsearchable => simp [unsearchable, bind, Except.bind]
    | gap searchable unswept => simpa [searchable, unswept, bind, Except.bind] using ih different.2
    | covered searchable swept => simp [swept, different.1, bind, Except.bind, pure, Except.pure]

private theorem latest_eq_ok_iff {id : String} :
    (∃ infos, getLatestOperatorCheckpoints (some (.ok latest)) operatorId searchRange = .ok (id, infos)) ↔
      ∃ infos, findCover searchRange latest.completedCheckpoints = .ok (some (id, infos)) := by
  have parsed : readLatestJson (some (.ok latest)) = .ok latest := rfl
  rw [getLatestOperatorCheckpoints, parsed, read_bind]
  rcases findCover searchRange _ with failure | _ | found
  · simp [bind, Except.bind]
  · simp [bind, Except.bind, throw, throwThe, MonadExceptOf.throw]
  · simp [bind, Except.bind, pure, Except.pure]

end Latest

def recordedRanges (calls : List CompleteCheckpoint) (id : String) : List PartitionRange :=
  (recordedInfos calls id).map PartitionInfo.partitionRange

/-- `newest` covers the search range, and no id that was recorded after it does. -/
structure NewestCovering (calls : List CompleteCheckpoint) (searchRange : PartitionRange) (older : List String)
    (newest : String) (newer : List String) : Prop where
  order : recordedIds calls = older ++ newest :: newer
  covered : CoveredBy searchRange (recordedRanges calls newest)
  stale : ∀ id ∈ newer, ¬ CoveredBy searchRange (recordedRanges calls id)

/-- The newest covering checkpoint is returned exactly if its ranges sweep the
search range and those of no older checkpoint do. -/
theorem latest_found_iff (calls : List CompleteCheckpoint) (operatorId : String) (searchRange : PartitionRange) :
    (∀ older newest newer, NewestCovering calls searchRange older newest newer →
      ∃ infos, getLatestOperatorCheckpoints (some (.ok (record calls))) operatorId searchRange = .ok (newest, infos)) ↔
    ∀ older newest newer, NewestCovering calls searchRange older newest newer →
      (Searchable searchRange (recordedRanges calls newest) ∧ SweptInOrder searchRange (recordedRanges calls newest)) ∧
        ∀ id ∈ older, Searchable searchRange (recordedRanges calls id) ∧
          ¬ SweptInOrder searchRange (recordedRanges calls id) := by
  refine forall_congr' fun older => forall_congr' fun newest => forall_congr' fun newer => imp_congr_right fun covering => ?_
  have distinct : (recordedIds calls).Nodup := FiniteMap.nodup_eraseDups _
  rw [covering.order, List.nodup_append, List.nodup_cons] at distinct
  obtain ⟨_, ⟨later, _⟩, earlier⟩ := distinct
  rw [latest_eq_ok_iff, record_entries, covering.order, List.map_append, List.map_cons]
  rw [findCover_found_iff]
  · simp only [List.forall_mem_map]
    rfl
  · simp only [List.forall_mem_map]
    exact fun id member => earlier id member newest List.mem_cons_self
  · simp only [List.forall_mem_map]
    exact fun id member same => later (same ▸ member)

/-- Two complete checkpoints of all partitions: the older one is returned. -/
theorem older_checkpoint_returned :
    let calls : List CompleteCheckpoint :=
      [⟨"1", ⟨.full, 1000, "operators/count/checkpoints/a"⟩⟩, ⟨"2", ⟨.full, 2000, "operators/count/checkpoints/b"⟩⟩]
    NewestCovering calls .full ["1"] "2" [] ∧
      getLatestOperatorCheckpoints (some (.ok (record calls))) "count" .full =
        .ok ("1", [("operators/count/checkpoints/a", .full)]) := by
  intro calls
  refine ⟨⟨by decide, fun partition above below => ?_, nofun⟩, by decide⟩
  exact ⟨.full, by decide, above, below⟩

end DatafusionRay.Proofs.CheckpointLookup
