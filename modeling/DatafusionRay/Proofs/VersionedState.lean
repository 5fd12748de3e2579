import DatafusionRay.Foundation.Execution
import DatafusionRay.Foundation.FiniteMap
import DatafusionRay.Proofs.CountSnapshots

/-! The state backend as a versioned map. Snapshots are found by their number and
the order of a directory listing, which also has what earlier backends left there. So
a number leads back to its latest snapshot only if all directories that go by this
number hold the same. -/

namespace DatafusionRay.Proofs.VersionedState
open Foundation Streaming CountSnapshots
open StateBackend (moveListed)

/-- A backend with the log of its checkpoint calls: the number and the map that was current. -/
structure Ledger where
  backend : StateBackend
  taken : List (Nat × Db)

/-- A move sees the remote storage and the checkpoint directories in the order in
which the file system lists them. -/
inductive Call where
  | put (key value : Bytes)
  | checkpoint (uuid : String) (number : Nat) (range : PartitionRange)
  | moveToCheckpoint (remote : RemoteStorage) (listing : List (String × Db)) (number : Nat) (range : PartitionRange)

/-- The directories that earlier backends with the same id and range have left are there from the start. -/
def openLedger (stateId : String) (partitions : PartitionRange) (leftover : List (String × Db)) : Ledger :=
  ⟨.openNew stateId partitions leftover, []⟩

/-- A call that fails leaves the backend as it was. Directory names are not used
twice, and a listing has each directory once. -/
def step (ledger : Ledger) : Call → Option Ledger
  | .put key value => some { ledger with backend := ledger.backend.put key value }
  | .checkpoint uuid number range =>
    if ∃ directory ∈ ledger.backend.checkpoints, directory.1 = s!"{number}__{uuid}" then none
    else some ⟨ledger.backend.checkpoint uuid number range, ledger.taken ++ [(number, ledger.backend.openDb)]⟩
  | .moveToCheckpoint remote listing number range =>
    if listing.Perm ledger.backend.checkpoints then
      match moveListed remote listing ledger.backend number range with
      | .ok backend => some { ledger with backend }
      | .error _ => some ledger
    else none

/-- The map of the most recent checkpoint with the number. -/
def Ledger.latest (ledger : Ledger) (number : Nat) : Option Db :=
  ((ledger.taken.filter fun entry => entry.1 = number).getLast?).map Prod.snd

/-- `get` and `iterate` of the backend see exactly this map. -/
def Sees (backend : StateBackend) (map : Db) : Prop :=
  (∀ key, backend.get key = map.lookup key) ∧ backend.openDb.entries.Perm map.entries

/-- The directories have what was left over and the snapshots of the log. -/
structure Logged (leftover : List (String × Db)) (ledger : Ledger) : Prop where
  logged : ∀ directory ∈ ledger.backend.checkpoints, directory ∈ leftover ∨ ∃ (number : Nat) (uuid : String),
    directory.1 = s!"{number}__{uuid}" ∧ (number, directory.2) ∈ ledger.taken
  stored : ∀ entry ∈ ledger.taken, ∃ uuid : String, (s!"{entry.1}__{uuid}", entry.2) ∈ ledger.backend.checkpoints
  kept : ∀ directory ∈ leftover, directory ∈ ledger.backend.checkpoints

/-- A snapshot that goes by a number: one of the log, or a directory that was left over. -/
def GoesBy (leftover : List (String × Db)) (ledger : Ledger) (number : Nat) (snapshot : Db) : Prop :=
  (number, snapshot) ∈ ledger.taken ∨ ∃ name, (name, snapshot) ∈ leftover ∧ name.startsWith s!"{number}__" = true

/-- A call takes a new snapshot or leaves directories and log as they are. -/
theorem step_cases {ledger next : Ledger} {call : Call} (stepped : step ledger call = some next) :
    (next.backend.checkpoints.Perm ledger.backend.checkpoints ∧ next.taken = ledger.taken) ∨
    ∃ (uuid : String) (number : Nat),
      next.backend.checkpoints = ledger.backend.checkpoints ++ [(s!"{number}__{uuid}", ledger.backend.openDb)] ∧
      next.taken = ledger.taken ++ [(number, ledger.backend.openDb)] := by
  cases call with
  | put key value =>
    cases stepped
    exact .inl ⟨.refl _, rfl⟩
  | checkpoint uuid number range =>
    simp only [step] at stepped
    split at stepped
    · cases stepped
    · cases stepped
      exact .inr ⟨uuid, number, rfl, rfl⟩
  | moveToCheckpoint remote listing number range =>
    simp only [step] at stepped
    split at stepped
    · rename_i listed
      split at stepped
      · rename_i moved succeeded
        cases stepped
        obtain ⟨snapshot, rfl⟩ := StateBackend.moveToCheckpoint_frame succeeded
        exact .inl ⟨listed, rfl⟩
      · cases stepped
        exact .inl ⟨.refl _, rfl⟩
    · cases stepped

theorem step_logged {leftover : List (String × Db)} {ledger next : Ledger} {call : Call}
    (stepped : step ledger call = some next) (logged : Logged leftover ledger) : Logged leftover next := by
  rcases step_cases stepped with ⟨same, log⟩ | ⟨uuid, number, added, log⟩
  · refine ⟨?_, ?_, ?_⟩
    · intro directory member
      rw [log]
      exact logged.logged directory (same.mem_iff.mp member)
    · intro entry member
      rw [log] at member
      obtain ⟨uuid, held⟩ := logged.stored entry member
      exact ⟨uuid, same.mem_iff.mpr held⟩
    · exact fun directory member => same.mem_iff.mpr (logged.kept directory member)
  · constructor
    · intro directory member
      rw [added] at member
      rw [log]
      rcases List.mem_append.mp member with old | here
      · rcases logged.logged directory old with earlier | ⟨number, uuid, named, known⟩
        · exact .inl earlier
        · exact .inr ⟨number, uuid, named, List.mem_append_left _ known⟩
      · cases List.mem_singleton.mp here
        exact .inr ⟨number, uuid, rfl, List.mem_append_right _ (List.mem_singleton_self _)⟩
    · intro entry member
      rw [log] at member
      rw [added]
      rcases List.mem_append.mp member with old | here
      · obtain ⟨uuid, held⟩ := logged.stored entry old
        exact ⟨uuid, List.mem_append_left _ held⟩
      · cases List.mem_singleton.mp here
        exact ⟨uuid, List.mem_append_right _ (List.mem_singleton_self _)⟩
    · intro directory member
      rw [added]
      exact List.mem_append_left _ (logged.kept directory member)

theorem run_logged {stateId : String} {partitions : PartitionRange} {leftover : List (String × Db)} {calls : List Call}
    {ledger : Ledger} (called : run step (openLedger stateId partitions leftover) calls = some ledger) :
    Logged leftover ledger := by
  apply run_preserves (fun _ _ _ => step_logged) called
  refine ⟨fun directory member => .inl member, ?_, fun directory member => member⟩
  exact fun entry member => absurd member List.not_mem_nil

section Moves
variable {leftover : List (String × Db)} {ledger : Ledger} {number : Nat} {remote : RemoteStorage}
  {listing : List (String × Db)} {range : PartitionRange}

theorem moveListed_taken (logged : Logged leftover ledger) (listed : listing.Perm ledger.backend.checkpoints) {snapshot : Db}
    (known : (number, snapshot) ∈ ledger.taken) :
    ∃ restored, GoesBy leftover ledger number restored ∧
      moveListed remote listing ledger.backend number range =
        .ok { ledger.backend with checkpoints := listing, openDb := restored } := by
  obtain ⟨uuid, held⟩ := logged.stored _ known
  have prefixed := (directory_startsWith_iff number number uuid).mpr rfl
  cases found : listing.find? fun other => other.1.startsWith s!"{number}__" with
  | none =>
    have unnamed := List.find?_eq_none.mp found _ (listed.mem_iff.mpr held)
    exact absurd prefixed unnamed
  | some directory =>
    refine ⟨directory.2, ?_, StateBackend.moveToCheckpoint_local found⟩
    have member := listed.mem_iff.mp (List.mem_of_find?_eq_some found)
    have matches_ := List.find?_some found
    rcases logged.logged directory member with earlier | ⟨other, uuid, named, logged_⟩
    · exact .inr ⟨directory.1, earlier, matches_⟩
    · rw [named, directory_startsWith_iff] at matches_
      exact .inl (matches_ ▸ logged_)

/-- A directory with the number is moved to if it is listed first. -/
private theorem exists_listing_of_mem {directory : String × Db}
    (held : directory ∈ ledger.backend.checkpoints) (prefixed : directory.1.startsWith s!"{number}__" = true) :
    ∃ listing, listing.Perm ledger.backend.checkpoints ∧
      moveListed remote listing ledger.backend number range =
        .ok { ledger.backend with checkpoints := listing, openDb := directory.2 } := by
  refine ⟨_, (List.perm_cons_erase held).symm, ?_⟩
  apply StateBackend.moveToCheckpoint_local
  exact List.find?_cons_of_pos prefixed

theorem exists_listing (logged : Logged leftover ledger) {snapshot : Db} (known : GoesBy leftover ledger number snapshot) :
    ∃ listing, listing.Perm ledger.backend.checkpoints ∧
      moveListed remote listing ledger.backend number range =
        .ok { ledger.backend with checkpoints := listing, openDb := snapshot } := by
  rcases known with taken | ⟨name, earlier, prefixed⟩
  · obtain ⟨uuid, held⟩ := logged.stored _ taken
    exact exists_listing_of_mem held ((directory_startsWith_iff number number uuid).mpr rfl)
  · exact exists_listing_of_mem (logged.kept _ earlier) prefixed

end Moves

private theorem latest_taken {ledger : Ledger} {number : Nat} {snapshot : Db} (latest : ledger.latest number = some snapshot) :
    (number, snapshot) ∈ ledger.taken := by
  obtain ⟨entry, last, rfl⟩ := Option.map_eq_some_iff.mp latest
  obtain ⟨member, same⟩ := List.mem_filter.mp (List.mem_of_getLast? last)
  rw [decide_eq_true_eq] at same
  exact same ▸ member

/-- After any calls, moving to a number leads to its most recent snapshot under every
order of the directories exactly if all snapshots that go by the number are that map. -/
theorem move_sees_latest_iff {stateId : String} {partitions : PartitionRange} {leftover : List (String × Db)}
    {calls : List Call} {ledger : Ledger}
    (called : run step (openLedger stateId partitions leftover) calls = some ledger) {number : Nat} {snapshot : Db}
    (latest : ledger.latest number = some snapshot) :
    (∀ remote listing range, listing.Perm ledger.backend.checkpoints →
      ∃ moved, moveListed remote listing ledger.backend number range = .ok moved ∧ Sees moved snapshot) ↔
    ∀ older, GoesBy leftover ledger number older → ∀ key, older.lookup key = snapshot.lookup key := by
  have logged := run_logged called
  constructor
  · intro sees older known
    obtain ⟨listing, listed, restored⟩ := exists_listing logged known
    obtain ⟨moved, succeeded, same, -⟩ := sees ⟨fun _ => none, fun _ => none⟩ listing .empty listed
    cases restored.symm.trans succeeded
    exact same
  · intro equal remote listing range listed
    obtain ⟨restored, known, moved⟩ := moveListed_taken logged listed (latest_taken latest)
    exact ⟨_, moved, equal restored known, FiniteMap.entries_perm (equal restored known)⟩

def twoCheckpoints (first second : Nat) : List Call :=
  [.put [0] [1], .checkpoint "a" first .full, .put [0] [2], .checkpoint "b" second .full]

/-- An earlier backend has left a checkpoint with another number. -/
def earlierThird : List (String × Db) := [("3__c", (∅ : Db).insert [0] [9])]

theorem move_sees_single_snapshot :
    ∃ ledger snapshot, run step (openLedger "state" .full earlierThird) (twoCheckpoints 1 2) = some ledger ∧
      ledger.latest 1 = some snapshot ∧
      ∀ remote listing range, listing.Perm ledger.backend.checkpoints →
        ∃ moved, moveListed remote listing ledger.backend 1 range = .ok moved ∧ Sees moved snapshot := by
  have called : run step (openLedger "state" .full earlierThird) (twoCheckpoints 1 2) = some _ := rfl
  refine ⟨_, (∅ : Db).insert [0] [1], called, rfl, (move_sees_latest_iff called rfl).mpr ?_⟩
  rintro older (known | ⟨name, earlier, prefixed⟩) key
  · have only : older = (∅ : Db).insert [0] [1] := by simpa [openLedger, StateBackend.openNew, StateBackend.put] using known
    rw [only]
  · cases List.mem_singleton.mp earlier
    exact absurd ((directory_startsWith_iff 3 1 "c").mp prefixed) (by decide)

/-- The number is taken twice, and the directory of the first time is listed first. -/
theorem retaken_number_restores_older :
    ∃ ledger moved, run step (openLedger "state" .full []) (twoCheckpoints 1 1) = some ledger ∧
      (ledger.latest 1).map (·.lookup [0]) = some (some [2]) ∧
      moveListed ⟨fun _ => none, fun _ => none⟩ ledger.backend.checkpoints ledger.backend 1 .full = .ok moved ∧
      moved.get [0] = some [1] := by
  refine ⟨_, ?moved, rfl, rfl, ?restored, ?older⟩
  case restored =>
    have prefixed := (directory_startsWith_iff 1 1 "a").mpr rfl
    refine @StateBackend.moveToCheckpoint_local _ _ 1 .full (toString 1 ++ "__" ++ "a", (∅ : Db).insert [0] [1]) ?_
    exact List.find?_cons_of_pos prefixed
  case older => rfl

end DatafusionRay.Proofs.VersionedState
