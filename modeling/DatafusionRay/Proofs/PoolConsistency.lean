import DatafusionRay.Batch.ProcessorPool
import DatafusionRay.Foundation.Execution

/-! The supervisor's stages and the pool's bookkeeping. A query releases what the
stages hold before it knows that it can have its own processors, and the stages
are only replaced at the end: an exception in between leaves them stale. -/

namespace DatafusionRay.Proofs.PoolConsistency
open Batch Foundation DFRayProcessorPool

/-- Each processor is in use or available, and those in use are the ones with a stage. -/
structure Consistent (supervisor : DFRayContextSupervisor) : Prop where
  disjoint : Disjoint supervisor.pool.acquired supervisor.pool.available
  whole : supervisor.pool.acquired ∪ supervisor.pool.available = supervisor.pool.pool
  bounded : supervisor.pool.pool.card ≤ supervisor.pool.maxWorkers
  staged : (supervisor.stages.map Prod.fst).toFinset = supervisor.pool.acquired

/-- A processor without an address is still being started. -/
structure Tracked (pool : DFRayProcessorPool) : Prop where
  known : ∀ key ∈ pool.pool, (pool.addrs key).isSome ∨ key ∈ pool.processorsStarted ∨ key ∈ pool.needAddress
  ready : pool.processorsReady = true → ∀ key ∈ pool.pool, (pool.addrs key).isSome

structure Supported (supervisor : DFRayContextSupervisor) : Prop where
  tracked : Tracked supervisor.pool
  addressed : ∀ key ∈ supervisor.stages.map Prod.fst, (supervisor.pool.addrs key).isSome
  distinct : (supervisor.stages.map Prod.fst).Nodup

section Pool
variable {before after : DFRayProcessorPool}

theorem newProcessors_eq (pool : DFRayProcessorPool) (names : List String)
    (unready : names ≠ [] ∨ pool.processorsReady = false) :
    pool.newProcessors names =
      { pool with
        processorsReady := false
        pool := pool.pool ∪ names.toFinset
        processorsStarted := pool.processorsStarted ∪ names.toFinset
        available := pool.available ∪ names.toFinset } := by
  induction names generalizing pool with
  | nil =>
    simp only [newProcessors, List.foldl_nil, List.toFinset_nil, Finset.union_empty]
    rw [← unready.resolve_left (not_not.mpr rfl)]
  | cons name rest ih =>
    rw [newProcessors, List.foldl_cons, ← newProcessors, ih _ (.inr rfl)]
    simp only [newProcessor, List.toFinset_cons, Finset.insert_union, Finset.union_insert]

/-- What `start` leaves alone whatever becomes of it. -/
structure Started (before after : DFRayProcessorPool) : Prop where
  maxWorkers : after.maxWorkers = before.maxWorkers
  pool : after.pool = before.pool
  acquired : after.acquired = before.acquired
  available : after.available = before.available
  addrs : ∀ key, (before.addrs key).isSome → (after.addrs key).isSome
  tracked : Tracked before → Tracked after

private theorem started_refl (pool : DFRayProcessorPool) : Started pool pool :=
  ⟨rfl, rfl, rfl, rfl, fun _ => id, id⟩

private theorem getAddrs_isSome (pool : DFRayProcessorPool) (addr : String → String) {key : String}
    (known : key ∈ pool.needAddress ∨ (pool.addrs key).isSome) : ((pool.waitForGetAddrs addr).addrs key).isSome := by
  simp only [waitForGetAddrs]
  split
  next => rfl
  next unasked => exact known.resolve_left unasked

/-- All processors are ready once the start has returned. -/
private theorem served_addressed (tracked : Tracked before) (addr : String → String) {key : String}
    (member : key ∈ before.pool) : ((before.waitForProcessorsStarted.waitForGetAddrs addr).addrs key).isSome := by
  refine getAddrs_isSome _ addr ?_
  rcases tracked.known key member with known | started | asked
  · exact .inr known
  · exact .inl (Finset.mem_union_right _ started)
  · exact .inl (Finset.mem_union_left _ asked)

theorem start_started (pool : DFRayProcessorPool) (startup : Startup) (addr : String → String) :
    Started pool (pool.start startup addr).1 := by
  unfold start
  split
  next => exact started_refl pool
  next notReady =>
    split
    next => exact started_refl pool
    next =>
      cases startup with
      | notStarted error => exact started_refl pool
      | noAddress error =>
        refine ⟨rfl, rfl, rfl, rfl, fun _ => id, fun tracked => ⟨fun key member => ?_, fun ready => absurd ready notReady⟩⟩
        rcases tracked.known key member with known | started | asked
        · exact .inl known
        · exact .inr (.inr (Finset.mem_union_right _ started))
        · exact .inr (.inr (Finset.mem_union_left _ asked))
      | served =>
        refine ⟨rfl, rfl, rfl, rfl, fun key known => ?_, fun tracked => ?_⟩
        · exact getAddrs_isSome pool.waitForProcessorsStarted addr (.inr known)
        · have addressed (key : String) (member : key ∈ pool.pool) := served_addressed tracked addr member
          exact ⟨fun key member => .inl (addressed key member), fun _ => addressed⟩

theorem start_result (pool : DFRayProcessorPool) (startup : Startup) (addr : String → String)
    (unready : pool.processorsReady = false) (pending : pool.processorsStarted ≠ ∅) :
    (startup = .served ∧ (pool.start startup addr).2 = .ok () ∧
        (Tracked pool → ∀ key ∈ pool.pool, ((pool.start startup addr).1.addrs key).isSome)) ∨
      startup ≠ .served ∧ ∃ error, (pool.start startup addr).2 = .error error := by
  have idle : ¬ pool.processorsReady = true := by
    rw [unready]
    nofun
  simp only [start, if_neg idle, if_neg pending]
  cases startup with
  | served => exact .inl ⟨rfl, rfl, fun tracked key member => served_addressed tracked addr member⟩
  | notStarted error | noAddress error => exact .inr ⟨nofun, _, rfl⟩

/-- Releasing what is in use gives it all back. -/
theorem release_eq (pool : DFRayProcessorPool) (keys : List String) (distinct : keys.Nodup)
    (used : ∀ key ∈ keys, key ∈ pool.acquired) :
    pool.release keys =
      ({ pool with acquired := pool.acquired \ keys.toFinset, available := pool.available ∪ keys.toFinset }, .ok ()) := by
  induction keys generalizing pool with
  | nil => simp [release]
  | cons key rest ih =>
    rw [List.nodup_cons] at distinct
    rw [List.forall_mem_cons] at used
    rw [release, if_pos used.1, ih _ distinct.2]
    · simp only [List.toFinset_cons, Finset.insert_union, Finset.union_insert, Finset.sdiff_insert, Finset.erase_sdiff_comm]
    · intro other member
      exact Finset.mem_erase.mpr ⟨ne_of_mem_of_not_mem member distinct.1, used.2 other member⟩

section LookUp
variable {find : String → Option String} {keys : List String}

theorem lookUp_all (found : ∀ key ∈ keys, (find key).isSome) :
    ∃ values, lookUp find keys = .ok values ∧ values.length = keys.length := by
  induction keys with
  | nil => exact ⟨[], rfl, rfl⟩
  | cons key rest ih =>
    rw [List.forall_mem_cons] at found
    obtain ⟨value, present⟩ := Option.isSome_iff_exists.mp found.1
    obtain ⟨values, looked, same⟩ := ih found.2
    refine ⟨value :: values, ?_, by rw [List.length_cons, List.length_cons, same]⟩
    rw [lookUp, List.mapM_cons, present, ← lookUp, looked]
    rfl

theorem lookUp_missing (missing : ¬ ∀ key ∈ keys, (find key).isSome) : ∃ key, lookUp find keys = .error (.keyError key) := by
  induction keys with
  | nil => exact absurd nofun missing
  | cons key rest ih =>
    rw [lookUp, List.mapM_cons, ← lookUp]
    cases present : find key with
    | none => exact ⟨key, rfl⟩
    | some value =>
      rw [List.forall_mem_cons, present] at missing
      obtain ⟨other, looked⟩ := ih fun found => missing ⟨rfl, found⟩
      refine ⟨other, ?_⟩
      rw [looked]
      rfl

theorem lookUp_id (found : ∀ key ∈ keys, find key = some key) : lookUp find keys = .ok keys := by
  induction keys with
  | nil => rfl
  | cons key rest ih =>
    rw [List.forall_mem_cons] at found
    rw [lookUp, List.mapM_cons, found.1, ← lookUp, ih found.2]
    rfl

end LookUp

end Pool

/-- Nothing is in use. -/
structure Idle (pool : DFRayProcessorPool) : Prop where
  acquired : pool.acquired = ∅
  available : pool.available = pool.pool
  bounded : pool.pool.card ≤ pool.maxWorkers
  tracked : Tracked pool

/-- The pool after the processors that were missing have been created, as far as this went. -/
structure Grown (before after : DFRayProcessorPool) : Prop extends Idle after where
  maxWorkers : after.maxWorkers = before.maxWorkers
  addrs : ∀ key, (before.addrs key).isSome → (after.addrs key).isSome

/-- The picks are different available processors, as many as are needed. -/
def Chosen (pool : DFRayProcessorPool) (need : Nat) (picks : List String) : Prop :=
  picks.length = need ∧ picks.Nodup ∧ ∀ pick ∈ picks, pick ∈ pool.pool

inductive PopAnswer (pool : DFRayProcessorPool) (need : Nat) (picks : List String) :
    DFRayProcessorPool × Except PyError (List String × List String) → Prop where
  | granted {addrs} (chosen : Chosen pool need picks) (addressed : ∀ key ∈ picks, (pool.addrs key).isSome)
      (length : addrs.length = need) : PopAnswer pool need picks (pool.take picks, .ok (picks, addrs))
  | unaddressed {error} (chosen : Chosen pool need picks) (missing : ¬ ∀ key ∈ picks, (pool.addrs key).isSome) :
      PopAnswer pool need picks (pool.take picks, .error error)

inductive AcquireAnswer (pool : DFRayProcessorPool) (need : Nat) (choices : Choices) :
    DFRayProcessorPool × Except PyError (List String × List String) → Prop where
  | refused {error} (above : pool.maxWorkers < need) : AcquireAnswer pool need choices (pool, .error error)
  | unstarted {started error} (fits : need ≤ pool.maxWorkers) (short : pool.pool.card < need)
      (failed : choices.startup ≠ .served) (grown : Grown pool started) :
      AcquireAnswer pool need choices (started, .error error)
  | created {started answer} (fits : need ≤ pool.maxWorkers) (short : pool.pool.card < need)
      (served : choices.startup = .served) (grown : Grown pool started)
      (ready : ∀ key ∈ started.pool, (started.addrs key).isSome) (popped : PopAnswer started need choices.picks answer) :
      AcquireAnswer pool need choices answer
  | reused {answer} (fits : need ≤ pool.maxWorkers) (enough : need ≤ pool.pool.card)
      (popped : PopAnswer pool need choices.picks answer) : AcquireAnswer pool need choices answer

section Acquire
variable {pool started : DFRayProcessorPool} {need : Nat}

theorem Idle.grown (quiet : Idle pool) : Grown pool pool := ⟨quiet, rfl, fun _ => id⟩

theorem Grown.ran (grown : Grown pool started) {after : DFRayProcessorPool} (ran : Started started after) :
    Grown pool after where
  acquired := ran.acquired.trans grown.acquired
  available := by rw [ran.available, ran.pool, grown.available]
  bounded := by
    rw [ran.pool, ran.maxWorkers]
    exact grown.bounded
  tracked := ran.tracked grown.tracked
  maxWorkers := ran.maxWorkers.trans grown.maxWorkers
  addrs := fun key known => ran.addrs key (grown.addrs key known)

/-- Making up for the processors that are missing. -/
theorem newProcessors_grown (quiet : Idle pool) (fits : need ≤ pool.maxWorkers) (short : pool.pool.card < need)
    {names : List String} (count : names.length = need - pool.pool.card) (distinct : names.Nodup)
    (fresh : ∀ name ∈ names, name ∉ pool.pool) :
    Grown pool (pool.newProcessors names) ∧ (pool.newProcessors names).pool.card = need ∧
      (pool.newProcessors names).processorsReady = false ∧ (pool.newProcessors names).processorsStarted ≠ ∅ := by
  have nonempty : names ≠ [] := List.ne_nil_of_length_pos (by omega)
  have size : (pool.pool ∪ names.toFinset).card = need := by
    rw [Finset.card_union_of_disjoint, List.toFinset_card_of_nodup distinct, count]
    · omega
    · exact Finset.disjoint_left.mpr fun key old new => fresh key (List.mem_toFinset.mp new) old
  rw [newProcessors_eq pool _ (.inl nonempty)]
  refine ⟨⟨⟨quiet.acquired, ?_, size.le.trans fits, fun key member => ?_, nofun⟩, rfl, fun _ => id⟩, size, rfl, ?_⟩
  · rw [quiet.available]
  · rcases Finset.mem_union.mp member with old | new
    · rcases quiet.tracked.known key old with known | started | asked
      · exact .inl known
      · exact .inr (.inl (Finset.mem_union_left _ started))
      · exact .inr (.inr asked)
    · exact .inr (.inl (Finset.mem_union_right _ new))
  · intro empty
    rw [Finset.union_eq_empty, List.toFinset_eq_empty_iff] at empty
    exact nonempty empty.2

theorem popProcessors_answers (quiet : Idle pool) (enough : need ≤ pool.pool.card) {picks : List String}
    {answer : DFRayProcessorPool × Except PyError (List String × List String)}
    (popped : pool.popProcessors need picks = some answer) : PopAnswer pool need picks answer := by
  rw [popProcessors, quiet.available, if_neg (Nat.not_lt.mpr enough)] at popped
  split at popped
  next chosen =>
    obtain ⟨length, distinct, inside⟩ := chosen
    cases popped
    rw [lookUp_id fun key member => if_pos (inside key member)]
    by_cases addressed : ∀ key ∈ picks, (pool.addrs key).isSome
    · obtain ⟨addrs, looked, same⟩ := lookUp_all addressed
      rw [looked]
      exact .granted ⟨length, distinct, inside⟩ addressed (same.trans length)
    · obtain ⟨key, looked⟩ := lookUp_missing addressed
      rw [looked]
      exact .unaddressed ⟨length, distinct, inside⟩ addressed
  next => cases popped

theorem acquire_answers (quiet : Idle pool) {choices : Choices}
    {answer : DFRayProcessorPool × Except PyError (List String × List String)}
    (acquired : pool.acquire need choices = some answer) : AcquireAnswer pool need choices answer := by
  rw [acquire] at acquired
  simp only [quiet.available, quiet.acquired, Finset.card_empty, Nat.add_zero] at acquired
  have bounded := quiet.bounded
  split at acquired
  next above =>
    cases acquired
    exact .refused (by omega)
  next fits =>
    split at acquired
    next short =>
      split at acquired
      next fresh =>
        have count : choices.names.length = need - pool.pool.card := by omega
        obtain ⟨grown, size, unready, pending⟩ :=
          newProcessors_grown quiet (by omega) (by omega) count fresh.2.1 fresh.2.2
        have ran := grown.ran (start_started (pool.newProcessors choices.names) choices.startup choices.addr)
        have result := start_result (pool.newProcessors choices.names) choices.startup choices.addr unready pending
        have same := (start_started (pool.newProcessors choices.names) choices.startup choices.addr).pool
        generalize (pool.newProcessors choices.names).start choices.startup choices.addr = outcome at *
        obtain ⟨started, reply⟩ := outcome
        rcases result with ⟨served, rfl, ready⟩ | ⟨failed, error, rfl⟩
        · have enough : need ≤ started.pool.card := by
            rw [same, size]
          exact .created (by omega) (by omega) served ran (same ▸ ready grown.tracked)
            (popProcessors_answers ran.toIdle enough acquired)
        · cases acquired
          exact .unstarted (by omega) (by omega) failed ran
      next => cases acquired
    next enough => exact .reused (by omega) (by omega) (popProcessors_answers quiet (by omega) acquired)

end Acquire

/-- The query fits, what it must create starts and what it picks has an address;
or it fails before it picks and no stage holds a processor. -/
def Admissible (supervisor : DFRayContextSupervisor) : SupervisorAction → Prop
  | .start _ _ => True
  | .newQuery query =>
    let need := query.stageDatas.length
    if supervisor.pool.maxWorkers < need then supervisor.stages = []
    else if supervisor.pool.pool.card < need then query.choices.startup = .served ∨ supervisor.stages = []
    else ∀ key ∈ query.choices.picks, (supervisor.pool.addrs key).isSome

instance (supervisor : DFRayContextSupervisor) : ∀ action, Decidable (Admissible supervisor action)
  | .start _ _ => .isTrue trivial
  | .newQuery _ => inferInstanceAs (Decidable (ite _ _ _))

/-- The pool after the release that a query begins with. -/
private theorem release_idle {supervisor : DFRayContextSupervisor} (consistent : Consistent supervisor)
    (supported : Supported supervisor) :
    ∃ idle, supervisor.pool.release (supervisor.stages.map Prod.fst) = (idle, .ok ()) ∧ Idle idle ∧
      idle.maxWorkers = supervisor.pool.maxWorkers ∧ idle.pool = supervisor.pool.pool ∧
        idle.addrs = supervisor.pool.addrs := by
  have used (key : String) (member : key ∈ supervisor.stages.map Prod.fst) : key ∈ supervisor.pool.acquired := by
    rw [← consistent.staged]
    exact List.mem_toFinset.mpr member
  refine ⟨_, release_eq _ _ supported.distinct used, ⟨?_, ?_, consistent.bounded, ?_⟩, rfl, rfl, rfl⟩
  · rw [consistent.staged]
    exact Finset.sdiff_self _
  · rw [consistent.staged, Finset.union_comm]
    exact consistent.whole
  · exact ⟨supported.tracked.known, supported.tracked.ready⟩

section Query
variable {supervisor : DFRayContextSupervisor} (supported : Supported supervisor) {pool : DFRayProcessorPool}
  (quiet : Idle pool) (addrs : ∀ key, (supervisor.pool.addrs key).isSome → (pool.addrs key).isSome)
include supported quiet addrs

/-- A query that fails before it picks leaves the stages as they were. -/
private theorem failed_kept :
    Supported { supervisor with pool } ∧ (Consistent { supervisor with pool } ↔ supervisor.stages = []) := by
  refine ⟨⟨quiet.tracked, fun key member => addrs key (supported.addressed key member), supported.distinct⟩, ?_⟩
  constructor
  · intro kept
    have staged := kept.staged
    rw [quiet.acquired, List.toFinset_eq_empty_iff, List.map_eq_nil_iff] at staged
    exact staged
  · intro none
    refine ⟨?_, ?_, quiet.bounded, ?_⟩
    · rw [quiet.acquired]
      exact Finset.disjoint_empty_left _
    · rw [quiet.acquired, quiet.available]
      exact Finset.empty_union _
    · rw [none, quiet.acquired]
      rfl

/-- A query that picks a processor without an address has taken it nevertheless. -/
private theorem unaddressed_kept {picks : List String} (missing : ¬ ∀ key ∈ picks, (pool.addrs key).isSome) :
    Supported { supervisor with pool := pool.take picks } ∧ ¬ Consistent { supervisor with pool := pool.take picks } := by
  refine ⟨⟨⟨quiet.tracked.known, quiet.tracked.ready⟩, fun key member => addrs key (supported.addressed key member),
    supported.distinct⟩, fun kept => missing fun key member => addrs key (supported.addressed key ?_)⟩
  have acquired : key ∈ (pool.take picks).acquired := Finset.mem_union_right _ (List.mem_toFinset.mpr member)
  rw [← kept.staged] at acquired
  exact List.mem_toFinset.mp acquired

end Query

/-- A query that gets its processors gives each of them a stage. -/
private theorem granted_kept {pool : DFRayProcessorPool} (quiet : Idle pool) {need : Nat} {picks : List String}
    (chosen : Chosen pool need picks) (addressed : ∀ key ∈ picks, (pool.addrs key).isSome)
    {stages : List (String × InternalStageData)} (keys : stages.map Prod.fst = picks) :
    Supported ⟨pool.take picks, stages⟩ ∧ Consistent ⟨pool.take picks, stages⟩ := by
  have inside : picks.toFinset ⊆ pool.pool := fun key member => chosen.2.2 key (List.mem_toFinset.mp member)
  refine ⟨⟨⟨quiet.tracked.known, quiet.tracked.ready⟩, ?_, ?_⟩, ⟨?_, ?_, quiet.bounded, ?_⟩⟩
  · rw [keys]
    exact addressed
  · rw [keys]
    exact chosen.2.1
  · simp only [take, quiet.acquired, Finset.empty_union]
    exact Finset.disjoint_sdiff
  · simp only [take, quiet.acquired, Finset.empty_union, quiet.available]
    exact Finset.union_sdiff_of_subset inside
  · simp only [take, quiet.acquired, Finset.empty_union, keys]

private theorem staged_keys {picks addrs : List String} {stageDatas : List StageData}
    (needed : picks.length = stageDatas.length) (length : addrs.length = stageDatas.length) :
    (List.zipWith (fun key (stage, addr) => (key, (⟨stage, addr⟩ : InternalStageData))) picks
      (stageDatas.zip addrs)).map Prod.fst = picks := by
  induction picks generalizing stageDatas addrs with
  | nil => rfl
  | cons key rest ih =>
    cases stageDatas with
    | nil => cases needed
    | cons stage stages =>
      cases addrs with
      | nil => cases length
      | cons addr others =>
        rw [List.zip_cons_cons, List.zipWith_cons_cons, List.map_cons,
          ih (Nat.succ.inj needed) (Nat.succ.inj length)]

/-- What a query can come to in a consistent state, and whether it was admissible. -/
inductive QueryAnswer (supervisor : DFRayContextSupervisor) (query : NewQuery) :
    DFRayContextSupervisor → Except PyError Unit → Prop where
  | failed {pool error} (quiet : Idle pool)
      (addrs : ∀ key, (supervisor.pool.addrs key).isSome → (pool.addrs key).isSome)
      (cause : supervisor.pool.maxWorkers < query.stageDatas.length ∨ query.choices.startup ≠ .served)
      (exactly : Admissible supervisor (.newQuery query) ↔ supervisor.stages = []) :
      QueryAnswer supervisor query { supervisor with pool } (.error error)
  | unaddressed {pool error} (quiet : Idle pool) (addrs : pool.addrs = supervisor.pool.addrs)
      (inside : ∀ key ∈ query.choices.picks, key ∈ supervisor.pool.pool)
      (missing : ¬ ∀ key ∈ query.choices.picks, (supervisor.pool.addrs key).isSome)
      (inadmissible : ¬ Admissible supervisor (.newQuery query)) :
      QueryAnswer supervisor query { supervisor with pool := pool.take query.choices.picks } (.error error)
  | granted {pool stages} (quiet : Idle pool) (chosen : Chosen pool query.stageDatas.length query.choices.picks)
      (addressed : ∀ key ∈ query.choices.picks, (pool.addrs key).isSome)
      (keys : stages.map Prod.fst = query.choices.picks) (admissible : Admissible supervisor (.newQuery query)) :
      QueryAnswer supervisor query ⟨pool.take query.choices.picks, stages⟩
        (DFRayContextSupervisor.updatePlans stages query.updated)

theorem newQuery_answers {supervisor after : DFRayContextSupervisor} (consistent : Consistent supervisor)
    (supported : Supported supervisor) {query : NewQuery} {result : Except PyError Unit}
    (answered : supervisor.newQuery query = some (after, result)) : QueryAnswer supervisor query after result := by
  obtain ⟨idle, released, quiet, maxWorkers, pool, addrs⟩ := release_idle consistent supported
  simp only [DFRayContextSupervisor.newQuery, released, Option.map_eq_some_iff] at answered
  obtain ⟨answer, acquired, answered⟩ := answered
  have known (key : String) (present : (supervisor.pool.addrs key).isSome) : (idle.addrs key).isSome := addrs ▸ present
  cases acquire_answers quiet acquired with
  | refused above =>
    cases answered
    rw [maxWorkers] at above
    refine .failed quiet known (.inl above) ?_
    rw [Admissible, if_pos above]
  | unstarted fits short failed grown =>
    cases answered
    rw [maxWorkers] at fits
    rw [pool] at short
    refine .failed grown.toIdle (fun key present => grown.addrs key (known key present)) (.inr failed) ?_
    rw [Admissible, if_neg (Nat.not_lt.mpr fits), if_pos short]
    exact or_iff_right failed
  | created fits short served grown ready popped =>
    rw [maxWorkers] at fits
    rw [pool] at short
    cases popped with
    | granted chosen addressed length =>
      cases answered
      refine .granted grown.toIdle chosen addressed (staged_keys chosen.1 length) ?_
      rw [Admissible, if_neg (Nat.not_lt.mpr fits), if_pos short]
      exact .inl served
    | unaddressed chosen missing => exact False.elim (missing fun key member => ready key (chosen.2.2 key member))
  | reused fits enough popped =>
    rw [maxWorkers] at fits
    rw [pool] at enough
    have exactly : Admissible supervisor (.newQuery query) ↔
        ∀ key ∈ query.choices.picks, (idle.addrs key).isSome := by
      rw [Admissible, if_neg (Nat.not_lt.mpr fits), if_neg (Nat.not_lt.mpr enough), addrs]
    cases popped with
    | granted chosen addressed length =>
      cases answered
      exact .granted quiet chosen addressed (staged_keys chosen.1 length) (exactly.mpr addressed)
    | unaddressed chosen missing =>
      cases answered
      exact .unaddressed quiet addrs (fun key member => pool ▸ chosen.2.2 key member) (addrs ▸ missing)
        (exactly.not.mpr missing)

theorem newQuery_kept {supervisor after : DFRayContextSupervisor} (consistent : Consistent supervisor)
    (supported : Supported supervisor) {query : NewQuery} {result : Except PyError Unit}
    (answered : supervisor.newQuery query = some (after, result)) :
    Supported after ∧ (Consistent after ↔ Admissible supervisor (.newQuery query)) := by
  cases newQuery_answers consistent supported answered with
  | failed quiet addrs _ exactly =>
    obtain ⟨kept, holds⟩ := failed_kept supported quiet addrs
    exact ⟨kept, holds.trans exactly.symm⟩
  | unaddressed quiet addrs _ missing inadmissible =>
    obtain ⟨kept, breaks⟩ := unaddressed_kept supported quiet (fun _ present => addrs ▸ present) (addrs ▸ missing)
    exact ⟨kept, iff_of_false breaks inadmissible⟩
  | granted quiet chosen addressed keys admissible =>
    obtain ⟨kept, holds⟩ := granted_kept quiet chosen addressed keys
    exact ⟨kept, iff_of_true holds admissible⟩

/-- Where the bookkeeping is right, a query that fits gets its processors. -/
theorem feasible_query_granted {supervisor after : DFRayContextSupervisor} (consistent : Consistent supervisor)
    (supported : Supported supervisor) {query : NewQuery} {result : Except PyError Unit}
    (fits : query.stageDatas.length ≤ supervisor.pool.maxWorkers) (served : query.choices.startup = .served)
    (addressed : ∀ key ∈ query.choices.picks, key ∈ supervisor.pool.pool → (supervisor.pool.addrs key).isSome)
    (answered : supervisor.newQuery query = some (after, result)) :
    after.stages.map Prod.fst = query.choices.picks ∧
      result = DFRayContextSupervisor.updatePlans after.stages query.updated := by
  cases newQuery_answers consistent supported answered with
  | failed _ _ cause _ =>
    rcases cause with above | failed
    · exact absurd fits (Nat.not_le.mpr above)
    · exact absurd served failed
  | unaddressed _ _ inside missing _ =>
    exact absurd (fun key member => addressed key member (inside key member)) missing
  | granted _ _ _ keys _ => exact ⟨keys, rfl⟩

theorem step_kept (before : DFRayContextSupervisor) (action : SupervisorAction) (after : DFRayContextSupervisor)
    (stepped : before.step action = some after) (consistent : Consistent before) (supported : Supported before) :
    Supported after ∧ (Consistent after ↔ Admissible before action) := by
  cases action with
  | newQuery query =>
    obtain ⟨⟨_, result⟩, answered, rfl⟩ := Option.map_eq_some_iff.mp stepped
    exact newQuery_kept consistent supported answered
  | start startup addr =>
    cases stepped
    have started := start_started before.pool startup addr
    refine ⟨⟨started.tracked supported.tracked, fun key member => started.addrs key (supported.addressed key member),
      supported.distinct⟩, iff_of_true ⟨?_, ?_, ?_, ?_⟩ trivial⟩
    · rw [started.acquired, started.available]
      exact consistent.disjoint
    · rw [started.acquired, started.available, started.pool]
      exact consistent.whole
    · rw [started.pool, started.maxWorkers]
      exact consistent.bounded
    · rw [started.acquired]
      exact consistent.staged

theorem init_consistent {workerPoolMax : Nat} {names : List String} (distinct : names.Nodup)
    (enough : names.length ≤ workerPoolMax) :
    Consistent (.init workerPoolMax names) ∧ Supported (.init workerPoolMax names) := by
  rw [DFRayContextSupervisor.init, init, newProcessors_eq _ _ (.inr rfl)]
  simp only [Finset.empty_union]
  refine ⟨⟨Finset.disjoint_empty_left _, Finset.empty_union _, ?_, rfl⟩, ⟨⟨fun key member => .inr (.inl member), nofun⟩,
    nofun, List.nodup_nil⟩⟩
  rw [List.toFinset_card_of_nodup distinct]
  exact enough

/-- From a new supervisor, the bookkeeping is right between all calls exactly if
every query is admissible where it is made. -/
theorem always_consistent_iff (workerPoolMax : Nat) (names : List String) (distinct : names.Nodup)
    (enough : names.length ≤ workerPoolMax) (calls : List SupervisorAction) (last : DFRayContextSupervisor)
    (executed : run DFRayContextSupervisor.step (.init workerPoolMax names) calls = some last) :
    Always DFRayContextSupervisor.step Consistent (.init workerPoolMax names) calls ↔
      Guarded DFRayContextSupervisor.step Admissible (.init workerPoolMax names) calls := by
  obtain ⟨consistent, supported⟩ := init_consistent distinct enough
  exact always_iff_guarded step_kept executed consistent supported

def oneStage : StageData := ⟨1, [], 1, false⟩

/-- A query with a stage for each of the picks. -/
def queryFor (picks : List String) : SupervisorAction :=
  .newQuery ⟨picks.map fun _ => oneStage, ⟨[], .served, id, picks⟩, .ok ()⟩

/-- Two queries, one after the other, on the only processor. -/
theorem repeated_query_consistent :
    Always DFRayContextSupervisor.step Consistent (.init 1 ["a"]) [.start .served id, queryFor ["a"], queryFor ["a"]] := by
  exact (always_consistent_iff 1 ["a"] (by decide) (by decide) _ _ rfl).mpr (by decide)

/-- A query for more than the maximum fails after the release. The processor is
available but still has its stage, and the next query cannot release it. -/
theorem refused_query_breaks_next :
    ∃ supervisor, run DFRayContextSupervisor.step (.init 1 ["a"])
        [.start .served id, queryFor ["a"], queryFor ["a", "b"]] = some supervisor ∧
      supervisor.stages.map Prod.fst = ["a"] ∧ supervisor.pool.acquired = ∅ ∧
        (supervisor.newQuery ⟨[oneStage], ⟨[], .served, id, ["a"]⟩, .ok ()⟩).map Prod.snd = some (.error (.keyError "a")) :=
  ⟨_, rfl, rfl, rfl, rfl⟩

end DatafusionRay.Proofs.PoolConsistency
