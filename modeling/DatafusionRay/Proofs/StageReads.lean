import DatafusionRay.Batch.StageReader
import DatafusionRay.Foundation.Execution
import DatafusionRay.Proofs.CombinedPolling

/-! The stream of a stage reader over all of its polls. It yields what every client sends,
each client's batches in their order, unless a client refuses; then it yields the errors
of those that did and nothing else. -/

namespace DatafusionRay.Proofs.StageReads
open Batch StageReaderStream CombinedRecordBatchStream CombinedPolling Foundation

variable {ρ σ : Type}

/-- The streams of the clients that have answered with one. -/
def opened (name : String) (clients : List (DoGet ρ)) : List (List (BatchResult ρ)) :=
  clients.filterMap fun client => client.toOption.map (adapt name)

/-- The errors of the clients that have not. -/
def refusals (name : String) : List (DoGet ρ) → List (BatchResult ρ)
  | [] => []
  | .ok _ :: rest => refusals name rest
  | .error error :: rest => .error (getError name error) :: refusals name rest

theorem opened_append (name : String) (first second : List (DoGet ρ)) :
    opened name (first ++ second) = opened name first ++ opened name second := List.filterMap_append

theorem refusals_append (name : String) (first second : List (DoGet ρ)) :
    refusals name (first ++ second) = refusals name first ++ refusals name second := by
  induction first with
  | nil => rfl
  | cons client rest ih =>
    cases client with
    | ok stream => exact ih
    | error error => exact congrArg (_ :: ·) ih

/-- What is left of each stream is in the entry with its key. -/
structure Holds (left : Nat → List (BatchResult ρ)) (entries : List (Entry ρ)) : Prop where
  distinct : (entries.map Entry.key).Nodup
  has : ∀ entry ∈ entries, left entry.key = entry.remaining
  held : ∀ key, left key ≠ [] → ∃ entry ∈ entries, entry.key = key

namespace Holds
variable {left : Nat → List (BatchResult ρ)} {entries others ended : List (Entry ρ)}

theorem perm (holds : Holds left entries) (same : entries.Perm others) : Holds left others where
  distinct := (same.map Entry.key).nodup_iff.mp holds.distinct
  has entry present := holds.has entry (same.mem_iff.mpr present)
  held key some := by
    obtain ⟨entry, present, named⟩ := holds.held key some
    exact ⟨entry, same.mem_iff.mp present, named⟩

theorem drop_ended (holds : Holds left (others ++ ended)) (gone : ∀ entry ∈ ended, entry.remaining = []) :
    Holds left others where
  distinct := by
    have distinct := holds.distinct
    rw [List.map_append] at distinct
    exact distinct.of_append_left
  has entry present := holds.has entry (List.mem_append_left ended present)
  held key some := by
    obtain ⟨entry, present, rfl⟩ := holds.held key some
    cases List.mem_append.mp present with
    | inl still => exact ⟨entry, still, rfl⟩
    | inr finished => exact False.elim (some ((holds.has entry present).trans (gone entry finished)))

theorem deliver {entry : Entry ρ} {rest : List (BatchResult ρ)}
    (holds : Holds left (entry :: others)) :
    Holds (Function.update left entry.key rest) ({ entry with remaining := rest } :: others) where
  distinct := holds.distinct
  has other present := by
    cases List.mem_cons.mp present with
    | inl same => simp [same]
    | inr later =>
      have apart : other.key ≠ entry.key := by
        intro same
        exact (List.nodup_cons.mp holds.distinct).1 (same ▸ List.mem_map_of_mem later)
      rw [Function.update_of_ne apart]
      exact holds.has other (List.mem_cons_of_mem entry later)
  held key some := by
    by_cases same : key = entry.key
    · exact ⟨_, List.mem_cons_self, same.symm⟩
    · rw [Function.update_of_ne same] at some
      obtain ⟨other, present, named⟩ := holds.held key some
      cases List.mem_cons.mp present with
      | inl first => exact False.elim (same (first ▸ named.symm))
      | inr later => exact ⟨other, List.mem_cons_of_mem _ later, named⟩

theorem new (streams : List (List (BatchResult ρ))) :
    Holds (fun key => streams.getD key []) (CombinedRecordBatchStream.new streams).entries where
  distinct := by
    have keys : ((CombinedRecordBatchStream.new streams).entries.map Entry.key) = List.range streams.length := by
      apply List.ext_getElem <;> simp [CombinedRecordBatchStream.new]
    rw [keys]
    exact List.nodup_range
  has entry present := by
    obtain ⟨position, inside, rfl⟩ := List.mem_mapIdx.mp present
    simp [inside]
  held key some := by
    have inside : key < streams.length := by
      by_contra outside
      exact some (by simp [List.getD, Nat.le_of_not_lt outside])
    exact ⟨⟨key, streams[key]⟩, List.mem_mapIdx.mpr ⟨key, inside, rfl⟩, rfl⟩

end Holds

/-- What has been yielded and what the combined stream still holds make up the inputs. -/
def Merging (inputs : Nat → List (BatchResult ρ)) (yielded : List (BatchResult ρ)) (entries : List (Entry ρ)) : Prop :=
  ∃ left, Interleaved inputs left yielded ∧ Holds left entries

namespace Merging
variable {inputs : Nat → List (BatchResult ρ)} {yielded : List (BatchResult ρ)} {entries after : List (Entry ρ)}
  {unasked : List (Entry ρ)} {pending : List Nat}

theorem item {item : BatchResult ρ} (merging : Merging inputs yielded entries)
    (merge : Merge pending entries (.ready (some item)) after unasked) : Merging inputs (yielded ++ [item]) after := by
  obtain ⟨left, interleaved, holds⟩ := merging
  cases merge with
  | deliver entry item rest idle unasked ended ready next before waits gone after =>
    have all : Holds left ((entry :: (idle ++ unasked)) ++ ended) := holds.perm before
    have live := all.drop_ended fun other present => (gone other present).2
    have front : left entry.key = item :: rest := (live.has entry List.mem_cons_self).trans next
    exact ⟨_, interleaved.take front, live.deliver.perm after.symm⟩

theorem wait (merging : Merging inputs yielded entries) (merge : Merge pending entries .pending after unasked) :
    Merging inputs yielded after := by
  obtain ⟨left, interleaved, holds⟩ := merging
  cases merge with
  | wait ended live idle before gone =>
    exact ⟨left, interleaved, (holds.perm before).drop_ended fun other present => (gone other present).2⟩

theorem finish (merging : Merging inputs yielded entries) (merge : Merge pending entries (.ready none) after unasked) :
    Interleaved inputs (fun _ => []) yielded := by
  obtain ⟨left, interleaved, holds⟩ := merging
  cases merge with
  | finish gone =>
    have empty : left = fun _ => [] := by
      funext key
      by_contra some
      obtain ⟨entry, present, rfl⟩ := holds.held key some
      exact some ((holds.has entry present).trans (gone entry present).2)
    rwa [empty] at interleaved

end Merging

/-- Where the stream is in its work. -/
inductive Reading (name : String) (clients : List (DoGet ρ)) : StageReaderStream ρ → Prop
  | connecting (answered waiting : List (DoGet ρ)) (all : clients = answered ++ waiting) :
      Reading name clients ⟨name, .connecting waiting (opened name answered) !(refusals name answered).isEmpty,
        refusals name answered⟩
  | combining {yielded : List (BatchResult ρ)} {combined : CombinedRecordBatchStream ρ} (none : refusals name clients = [])
      (merging : Merging (fun key => (opened name clients).getD key []) yielded combined.entries) :
      Reading name clients ⟨name, .combining combined, yielded⟩
  | merged {yielded : List (BatchResult ρ)} (none : refusals name clients = [])
      (interleaved : Interleaved (fun key => (opened name clients).getD key []) (fun _ => []) yielded) :
      Reading name clients ⟨name, .finished, yielded⟩
  | refused (some : refusals name clients ≠ []) : Reading name clients ⟨name, .finished, refusals name clients⟩

theorem step_reading {name : String} {clients : List (DoGet ρ)} (before : StageReaderStream ρ) (action : Action)
    (after : StageReaderStream ρ) (stepped : before.step action = some after) (reading : Reading name clients before) :
    Reading name clients after := by
  cases reading with
  | connecting answered waiting all =>
    cases action with
    | doGet =>
      cases waiting with
      | nil => cases stepped
      | cons client rest =>
        have all : clients = (answered ++ [client]) ++ rest := by rw [all, List.append_assoc]; rfl
        have further : Reading name clients _ := .connecting (answered ++ [client]) rest all
        rw [opened_append, refusals_append] at further
        cases client with
        | ok received =>
          cases stepped
          rwa [show refusals name [(.ok received : DoGet ρ)] = [] from rfl, List.append_nil] at further
        | error error =>
          cases stepped
          have noted : (refusals name answered ++ [(.error (getError name error) : BatchResult ρ)]).isEmpty = false := by simp
          rwa [show refusals name [(.error error : DoGet ρ)] = [.error (getError name error)] from rfl, noted,
            show opened name [(.error error : DoGet ρ)] = [] from rfl, List.append_nil] at further
    | combine =>
      cases waiting with
      | cons client rest => cases stepped
      | nil =>
        cases stepped
        rw [List.append_nil] at all
        subst all
        cases failed : (refusals name clients).isEmpty with
        | true =>
          have none := List.isEmpty_iff.mp failed
          rw [none]
          exact .combining none ⟨_, .start _, .new _⟩
        | false => exact .refused (List.isEmpty_eq_false_iff.mp failed)
    | poll choice => cases stepped
  | combining none merging =>
    cases action with
    | doGet => cases stepped
    | combine => cases stepped
    | poll choice =>
      obtain ⟨result, polls, same⟩ := Option.map_eq_some_iff.mp stepped
      obtain ⟨⟨answer, entries, asked⟩, unasked, rfl, merge, -⟩ := pollNext_merge polls
      subst same
      cases answer with
      | pending => exact .combining none (merging.wait merge)
      | ready value =>
        cases value with
        | none => exact .merged none (merging.finish merge)
        | some item => exact .combining none (merging.item merge)
  | merged none interleaved => cases action <;> cases stepped
  | refused some => cases action <;> cases stepped

def total (streams : List (List (BatchResult ρ))) : Nat := (streams.map List.length).sum

/-- A bound on the steps that remain if all senders are ready. -/
def work (stream : StageReaderStream ρ) : Nat :=
  match stream.phase with
  | .connecting clients streams _ => clients.length + total (streams ++ opened stream.name clients) + 2
  | .combining combined => total (combined.entries.map Entry.remaining) + 1
  | .finished | .panicked _ => 0

/-- Every stream that is asked for an item has got one, or its end. -/
def Prompt : Action → Prop
  | .poll choice => choice.pending = []
  | .doGet | .combine => True

theorem total_perm {first second : List (List (BatchResult ρ))} (same : first.Perm second) : total first = total second :=
  (same.map List.length).sum_eq

theorem total_new (streams : List (List (BatchResult ρ))) :
    total ((CombinedRecordBatchStream.new streams).entries.map Entry.remaining) = total streams := by
  have same : (CombinedRecordBatchStream.new streams).entries.map Entry.remaining = streams := by
    apply List.ext_getElem <;> simp [CombinedRecordBatchStream.new]
  rw [same]

theorem Merge.total_lt {entries after unasked : List (Entry ρ)} {item : BatchResult ρ} {pending : List Nat}
    (merge : Merge pending entries (.ready (some item)) after unasked) :
    total (after.map Entry.remaining) < total (entries.map Entry.remaining) := by
  cases merge with
  | deliver entry item rest idle unasked ended ready next before waits gone after =>
    rw [total_perm (before.map Entry.remaining), total_perm (after.map Entry.remaining)]
    simp only [total, List.map_cons, List.map_append, List.sum_cons, List.sum_append, next, List.length_cons]
    omega

theorem work_lt {name : String} {clients : List (DoGet ρ)} {before after : StageReaderStream ρ} {action : Action}
    (stepped : before.step action = some after) (prompt : Prompt action) (reading : Reading name clients before) :
    work after < work before := by
  cases reading with
  | connecting answered waiting all =>
    cases action with
    | doGet =>
      cases waiting with
      | nil => cases stepped
      | cons client rest =>
        cases client with
        | ok received =>
          cases stepped
          simp [work, opened, Except.toOption]
        | error error =>
          cases stepped
          simp [work, opened, Except.toOption]
    | combine =>
      cases waiting with
      | cons client rest => cases stepped
      | nil =>
        cases stepped
        cases (refusals name answered).isEmpty with
        | true => simp [work, total_new, opened]
        | false => simp [work]
    | poll choice => cases stepped
  | combining none merging =>
    cases action with
    | doGet => cases stepped
    | combine => cases stepped
    | poll choice =>
      obtain ⟨result, polls, same⟩ := Option.map_eq_some_iff.mp stepped
      obtain ⟨⟨answer, entries, asked⟩, unasked, rfl, merge, -⟩ := pollNext_merge polls
      subst same
      cases answer with
      | pending =>
        cases merge with
        | wait ended live idle before gone =>
          obtain ⟨entry, present⟩ := List.exists_mem_of_ne_nil entries live
          have := idle entry present
          rw [show choice.pending = [] from prompt] at this
          cases this
      | ready value =>
        cases value with
        | none => simp [work]
        | some item => exact Nat.succ_lt_succ (Merge.total_lt merge)
  | merged none interleaved => cases action <;> cases stepped
  | refused some => cases action <;> cases stepped

/-- Until the stream has finished there is something it can do without waiting. -/
theorem exists_prompt {name : String} {clients : List (DoGet ρ)} {stream : StageReaderStream ρ}
    (reading : Reading name clients stream) (unfinished : stream.phase ≠ .finished) :
    ∃ action next, Prompt action ∧ stream.step action = some next := by
  cases reading with
  | connecting answered waiting all =>
    cases waiting with
    | nil => exact ⟨.combine, _, trivial, rfl⟩
    | cons client rest => cases client <;> exact ⟨.doGet, _, trivial, rfl⟩
  | combining none merging =>
    have drawn : ∀ combined : CombinedRecordBatchStream ρ, ∃ result, combined.pollNext ⟨0, []⟩ = some result :=
      fun combined => ⟨_, if_pos (Nat.lt_of_lt_of_le Nat.one_pos (le_max_left ..))⟩
    obtain ⟨result, polls⟩ := drawn _
    exact ⟨.poll ⟨0, []⟩, _, rfl, congrArg (Option.map _) polls⟩
  | merged none interleaved => exact False.elim (unfinished rfl)
  | refused some => exact False.elim (unfinished rfl)

/-- What a reader has come to, whatever the order and the timing. -/
structure Reads (name : String) (clients : List (DoGet ρ)) (stream : StageReaderStream ρ) : Prop where
  safe : ∀ failure, stream.phase ≠ .panicked failure
  merged : refusals name clients = [] → ∃ left,
    Interleaved (fun key => (opened name clients).getD key []) left stream.yielded ∧
      (stream.phase = .finished → ∀ key, left key = [])
  refused : refusals name clients ≠ [] → stream.yielded <+: refusals name clients ∧
    (stream.phase = .finished → stream.yielded = refusals name clients)

theorem Reading.reads {name : String} {clients : List (DoGet ρ)} {stream : StageReaderStream ρ}
    (reading : Reading name clients stream) : Reads name clients stream := by
  cases reading with
  | connecting answered waiting all =>
    have split := refusals_append name answered waiting
    rw [← all] at split
    refine ⟨fun _ => nofun, fun none => ?_, fun _ => ⟨⟨_, split.symm⟩, nofun⟩⟩
    rw [(List.append_eq_nil_iff.mp (split.symm.trans none)).1]
    exact ⟨_, .start _, nofun⟩
  | combining none merging =>
    obtain ⟨left, interleaved, -⟩ := merging
    exact ⟨fun _ => nofun, fun _ => ⟨left, interleaved, nofun⟩, fun some => absurd none some⟩
  | merged none interleaved =>
    exact ⟨fun _ => nofun, fun _ => ⟨_, interleaved, fun _ _ => rfl⟩, fun some => absurd none some⟩
  | refused some => exact ⟨fun _ => nofun, fun none => absurd none some, fun _ => ⟨List.prefix_rfl, fun _ => rfl⟩⟩

theorem execute_eq_ok {reader : DFRayStageReaderExec σ} {partition : Nat} {extension : Option ServiceClients}
    {doGet : String → Nat → DoGet ρ} {first : StageReaderStream ρ}
    (executes : reader.execute partition extension doGet = .ok first) :
    ∃ addresses, extension.bind (·.lookup (reader.stageId.toNat, partition)) = some addresses ∧
      first = ⟨first.name, .connecting (addresses.map (doGet · partition)) [] false, []⟩ := by
  cases extension with
  | none => cases executes
  | some clientMap =>
    unfold DFRayStageReaderExec.execute at executes
    simp only [Option.bind_some]
    cases found : clientMap.lookup (reader.stageId.toNat, partition) with
    | none =>
      simp only [found] at executes
      cases executes
    | some addresses =>
      simp only [found] at executes
      cases executes
      exact ⟨addresses, rfl, rfl⟩

/-- The reader can get to its end from wherever it is. -/
theorem exists_finish {name : String} {clients : List (DoGet ρ)} {stream : StageReaderStream ρ}
    (reading : Reading name clients stream) :
    ∃ more final, run step stream more = some final ∧ final.phase = .finished := by
  have kept : ∀ before action after, step before action = some after → Prompt action →
      Reading name clients before → Reading name clients after ∧ work after < work before :=
    fun before action after stepped prompt reading =>
      ⟨step_reading before action after stepped reading, work_lt stepped prompt reading⟩
  have enabled : ∀ state, Reading name clients state → ¬ Halted step state →
      ∃ action next, Prompt action ∧ step state action = some next := by
    intro state reading running
    apply exists_prompt reading
    intro finished
    refine running fun action => ?_
    cases action <;> simp [step, finished]
  obtain ⟨more, final, ran, -, halted⟩ :=
    exists_guarded_halted kept enabled reading
  refine ⟨more, final, ran, ?_⟩
  by_contra unfinished
  obtain ⟨action, next, -, stepped⟩ := exists_prompt (run_preserves step_reading ran reading) unfinished
  rw [halted action] at stepped
  cases stepped

/-- A stage reader yields every batch of every client once, each client's in their order,
or the errors of the clients that refused and no batch; and it can always get to its end. -/
theorem stage_read_complete {reader : DFRayStageReaderExec σ} {partition : Nat} {extension : Option ServiceClients}
    {doGet : String → Nat → DoGet ρ} {first last : StageReaderStream ρ} {actions : List Action}
    (executes : reader.execute partition extension doGet = .ok first) (ran : run step first actions = some last) :
    ∃ addresses, extension.bind (·.lookup (reader.stageId.toNat, partition)) = some addresses ∧
      Reads first.name (addresses.map (doGet · partition)) last ∧
      ∃ more final, run step last more = some final ∧ final.phase = .finished := by
  obtain ⟨addresses, found, same⟩ := execute_eq_ok executes
  have initial : Reading first.name (addresses.map (doGet · partition)) first := by
    rw [same]
    exact .connecting [] (addresses.map (doGet · partition)) rfl
  have reading := run_preserves step_reading ran initial
  exact ⟨addresses, found, reading.reads, exists_finish reading⟩

/-- Two workers with one batch each. -/
def twoWorkers (address : String) (_ : Nat) : DoGet Nat := .ok [.ok ⟨[address.length]⟩]

/-- The second worker has nothing ready at first, so the first one's batch comes before. -/
theorem two_workers_read :
    ∃ first last, (⟨1, (), 7⟩ : DFRayStageReaderExec Unit).execute 0 (some [((7, 0), ["a", "bb"])]) twoWorkers = .ok first ∧
      run step first [.doGet, .doGet, .combine, .poll ⟨1, [1]⟩, .poll ⟨1, []⟩] = some last ∧
      last.yielded = [.ok ⟨[1]⟩, .ok ⟨[2]⟩] ∧ Reads first.name [twoWorkers "a" 0, twoWorkers "bb" 0] last := by
  have executes : (⟨1, (), 7⟩ : DFRayStageReaderExec Unit).execute 0 (some [((7, 0), ["a", "bb"])]) twoWorkers =
      .ok ⟨"RayStageReaderExec[7-0]:", .connecting [twoWorkers "a" 0, twoWorkers "bb" 0] [] false, []⟩ := rfl
  have ran : run step ⟨"RayStageReaderExec[7-0]:", .connecting [twoWorkers "a" 0, twoWorkers "bb" 0] [] false, []⟩
      [.doGet, .doGet, .combine, .poll ⟨1, [1]⟩, .poll ⟨1, []⟩] =
        some ⟨"RayStageReaderExec[7-0]:", .combining ⟨[⟨0, []⟩, ⟨1, []⟩]⟩, [.ok ⟨[1]⟩, .ok ⟨[2]⟩]⟩ := rfl
  obtain ⟨addresses, found, reads, -⟩ := stage_read_complete executes ran
  cases found
  exact ⟨_, _, executes, ran, rfl, reads⟩

end DatafusionRay.Proofs.StageReads
