import DatafusionRay.Foundation.Execution
import DatafusionRay.Proofs.StreamFlow

/-! Which runs of a nested operator deliver its streams. An entry that a take has
reserved cannot be filled any more, so a stream arrives only if it was inserted
before its consumer was first polled. -/

namespace DatafusionRay.Proofs.StreamDelivery
open Streaming Foundation

variable {ν : Type}

/-- Streams lead from lower to higher ranks. -/
def Climbs (nested : NestedOperator (GraphOperator ν)) (rank : Nat → Nat) : Prop :=
  ∀ source target producer consumer streamId,
    nested.operators[source]? = some producer → nested.operators[target]? = some consumer →
      streamId ∈ producer.outputIds.map Prod.snd → streamId ∈ consumer.inputIds.map Prod.snd → rank source < rank target

def Acyclic (nested : NestedOperator (GraphOperator ν)) : Prop := ∃ rank, Climbs nested rank

/-- Nothing failed, no take waits, each take received what was inserted for its
stream, and no value went anywhere else. -/
structure Delivered (nested : NestedOperator (GraphOperator ν)) (state : NestedRun ν) : Prop where
  failure : state.failure = none
  waiting : waiting state = []
  matched : state.taken.Perm state.inserted
  complete : (state.taken.map Prod.fst).Perm (consumers nested)

section Marks
variable {nested : NestedOperator (GraphOperator ν)} {before after : NestedRun ν} {action : NestedAction}

/-- The run failed, or a take waits for an entry that nobody will fill. -/
def Marked (state : NestedRun ν) : Prop := state.failure ≠ none ∨ ∃ entry ∈ state.operators, waitingBy entry ≠ []

theorem Delivered.unmarked (delivered : Delivered nested after) : ¬ Marked after := by
  have none := delivered.waiting
  rw [StreamDelivery.waiting, List.append_eq_nil_iff, List.flatMap_eq_nil_iff] at none
  rintro (fails | ⟨entry, member, waits⟩)
  · exact fails delivered.failure
  · exact waits (none.1 entry member)

private theorem waits_replace {operators front back : List (GraphOperator ν × OperatorPhase ν)}
    {entry changed : GraphOperator ν × OperatorPhase ν} (split : operators = front ++ entry :: back)
    (kept : waitingBy entry ≠ [] → waitingBy changed ≠ []) (waits : ∃ other ∈ operators, waitingBy other ≠ []) :
    ∃ other ∈ front ++ changed :: back, waitingBy other ≠ [] := by
  obtain ⟨other, member, some⟩ := split ▸ waits
  rcases List.mem_append.mp member with earlier | rest
  · exact ⟨other, List.mem_append_left _ earlier, some⟩
  · rcases List.mem_cons.mp rest with rfl | later
    · exact ⟨changed, List.mem_append_right _ List.mem_cons_self, kept some⟩
    · exact ⟨other, List.mem_append_right _ (List.mem_cons_of_mem _ later), some⟩

private theorem Asks.keeps {position : Nat} {takes polled : Takes ν} {resume : Takes ν → NestedRun ν}
    (asks : Asks before action position takes resume) (kept : takes.waiting ≠ [] → polled.waiting ≠ [])
    (waits : ∃ entry ∈ before.operators, waitingBy entry ≠ []) :
    ∃ entry ∈ (resume polled).operators, waitingBy entry ≠ [] := by
  cases asks with
  | input _ asker => exact waits_replace asker kept waits
  | output _ _ => exact waits

theorem step_marked (before : NestedRun ν) (action : NestedAction) (after : NestedRun ν)
    (stepped : before.step nested action = some after) (marked : Marked before) : Marked after := by
  obtain ⟨running, move⟩ := step_moves stepped
  obtain waits := marked.resolve_left (not_not_intro running)
  cases move with
  | sent sends vacant =>
    cases sends with
    | input _ _ => exact .inr waits
    | output _ next _ => exact .inr (waits_replace next id waits)
  | received asks due present => exact .inr (asks.keeps id waits)
  | reserved asks due vacant =>
    exact .inr (asks.keeps (fun _ => List.append_ne_nil_of_right_ne_nil _ (List.cons_ne_nil _ _)) waits)
  | started ready ran => exact .inr (waits_replace ready (fun some => absurd rfl some) waits)
  | occupied _ _ fails | unknownInput _ _ fails | unknownOutput _ _ fails | refused _ _ _ _ fails
  | crashed _ _ fails => exact .inl fails

/-- A take that is polled too early waits for good. -/
theorem unready_marked (before : NestedRun ν) (action : NestedAction) (after : NestedRun ν)
    (stepped : before.step nested action = some after) (unready : ¬ Ready before action) : Marked after := by
  obtain ⟨_, move⟩ := step_moves stepped
  cases move with
  | sent sends _ => cases sends <;> exact absurd trivial unready
  | received asks due present =>
    cases asks with
    | input _ asker =>
      refine absurd (fun operator takes ordinal streamId entry found => ?_) unready
      cases (getElem?_of_split asker).symm.trans entry
      cases (getElem?_of_split due).symm.trans found
      exact present ▸ Option.some_ne_none _
    | output _ _ => exact absurd trivial unready
  | reserved asks due vacant =>
    cases asks with
    | input _ asker =>
      refine .inr ⟨_, List.mem_append_right _ List.mem_cons_self, ?_⟩
      exact List.append_ne_nil_of_right_ne_nil _ (List.cons_ne_nil _ _)
    | output _ _ => exact absurd trivial unready
  | started _ _ => exact absurd trivial unready
  | occupied _ _ fails | unknownInput _ _ fails | unknownOutput _ _ fails | refused _ _ _ _ fails
  | crashed _ _ fails => exact .inl fails

end Marks

section Halt
variable {nested : NestedOperator (GraphOperator ν)} {external : List (Nat × ν)} {state : NestedRun ν}

/-- What an operator does next. -/
def nextAction (position : Nat) : OperatorPhase ν → NestedAction
  | .taking ⟨[], _, _⟩ => .run position
  | .taking _ => .take position 0
  | .inserting _ => .insert position

private theorem poll_isSome {takes : Takes ν} {position : Nat} (inside : position < takes.pending.length) :
    (state.poll takes position).isSome := by
  rw [NestedRun.poll, Option.isSome_map, List.getElem?_eq_getElem inside]
  rfl

private theorem operatorStep_isSome {position : Nat} {operator : GraphOperator ν} {phase : OperatorPhase ν}
    (unfinished : ¬ phase.Finished) (awake : waitingBy (operator, phase) = []) :
    (state.operatorStep position operator phase (nextAction position phase)).isSome := by
  cases phase with
  | inserting outputs =>
    cases outputs with
    | nil => exact absurd trivial unfinished
    | cons first rest =>
      rw [nextAction, NestedRun.operatorStep]
      split <;> rfl
  | taking takes =>
    obtain ⟨pending, waits, received⟩ := takes
    cases pending with
    | nil =>
      cases show waits = [] from awake
      rw [nextAction, NestedRun.operatorStep]
      split <;> rfl
    | cons first rest =>
      have polled := @poll_isSome _ state ⟨first :: rest, waits, received⟩ 0 (Nat.zero_lt_succ _)
      simpa [nextAction, NestedRun.operatorStep] using polled

theorem operator_enabled (running : state.failure = none) (started : state.external = []) {position : Nat}
    {operator : GraphOperator ν} {phase : OperatorPhase ν} (found : state.operators[position]? = some (operator, phase))
    (unfinished : ¬ phase.Finished) (awake : waitingBy (operator, phase) = []) :
    (state.step nested (nextAction position phase)).isSome := by
  have acts : state.step nested (nextAction position phase) =
      state.operatorStep position operator phase (nextAction position phase) := by
    match phase, found with
    | .inserting _, found | .taking ⟨[], _, _⟩, found | .taking ⟨_ :: _, _, _⟩, found =>
      simp [NestedRun.step, nextAction, running, started, found]
  rw [acts]
  exact operatorStep_isSome unfinished awake

private theorem Flowing.awake (flowing : Flowing nested state) {entry : GraphOperator ν × OperatorPhase ν}
    (member : entry ∈ state.operators) : waitingBy entry = [] := by
  have none := flowing.waiting
  rw [StreamDelivery.waiting, List.append_eq_nil_iff, List.flatMap_eq_nil_iff] at none
  exact none.1 entry member

theorem input_enabled (running : state.failure = none) (left : state.external ≠ []) :
    (state.step nested .insertInput).isSome := by
  obtain ⟨⟨ordinal, value⟩, rest, split⟩ := List.exists_cons_of_ne_nil left
  simp only [NestedRun.step, running, NestedRun.insertInput, split, Option.isSome_none, Bool.false_eq_true, if_false]
  split <;> rfl

theorem output_enabled (running : state.failure = none) (started : state.external = [])
    (finished : ∀ entry ∈ state.operators, entry.2.Finished) (left : state.outputs.pending ≠ []) :
    (state.step nested (.takeOutput 0)).isSome := by
  have inside : 0 < state.outputs.pending.length := List.length_pos_iff.mpr left
  rw [NestedRun.step, running]
  simp only [Option.isSome_none, Bool.false_eq_true, if_false, started, List.isEmpty_nil]
  rw [if_pos ⟨trivial, finished⟩, Option.isSome_map]
  exact poll_isSome inside

theorem Flowing.finished (flowing : Flowing nested state) (halted : Halted (NestedRun.step nested) state) :
    state.external = [] ∧ (∀ entry ∈ state.operators, entry.2.Finished) ∧ state.outputs.pending = [] := by
  have stays (action : NestedAction) : ¬ (state.step nested action).isSome := by simp [halted action]
  have started : state.external = [] := by
    by_contra left
    exact stays _ (input_enabled flowing.failure left)
  have finished : ∀ entry ∈ state.operators, entry.2.Finished := by
    intro entry member
    obtain ⟨position, found⟩ := List.mem_iff_getElem?.mp member
    by_contra unfinished
    exact stays _ (operator_enabled flowing.failure started found unfinished (flowing.awake member))
  refine ⟨started, finished, ?_⟩
  by_contra left
  exact stays _ (output_enabled flowing.failure started finished left)

theorem halted_of_finished (started : state.external = []) (finished : ∀ entry ∈ state.operators, entry.2.Finished)
    (done : state.outputs.pending = []) : Halted (NestedRun.step nested) state := by
  intro action
  cases outcome : state.step nested action with
  | none => rfl
  | some after =>
    obtain ⟨_, move⟩ := step_moves outcome
    exfalso
    cases move with
    | sent sends _ | occupied sends _ _ =>
      have later := sends.due.mem_iff.mpr List.mem_cons_self
      rw [due_finished started finished] at later
      exact List.not_mem_nil later
    | received asks due _ | reserved asks due _ | refused asks due _ _ _ =>
      have later := asks.mem_asked due
      rw [asked_finished finished done] at later
      exact List.not_mem_nil later
    | unknownInput next _ _ => cases started.symm.trans next
    | unknownOutput entry _ _ | started entry _ | crashed entry _ _ => exact finished _ (mem_of_split entry)

theorem Flowing.delivered (wired : Wired nested external) (flowing : Flowing nested state)
    (halted : Halted (NestedRun.step nested) state) : Delivered nested state := by
  obtain ⟨started, finished, done⟩ := flowing.finished halted
  have inserted := flowing.inserted
  rw [due_finished started finished, List.append_nil] at inserted
  have taken := flowing.taken
  rw [asked_finished finished done, List.append_nil] at taken
  have same : (producers nested).Perm (consumers nested) :=
    (List.perm_ext_iff_of_nodup wired.produced wired.consumed).mpr wired.matched
  have distinct : state.taken.Nodup := .of_map Prod.fst (taken.nodup_iff.mpr wired.consumed)
  have count : state.inserted.length ≤ state.taken.length := by
    have lengths := (inserted.trans (same.trans taken.symm)).length_eq
    rw [List.length_map, List.length_map] at lengths
    exact Nat.le_of_eq lengths
  exact ⟨flowing.failure, flowing.waiting,
    (List.subperm_of_subset distinct flowing.matched).perm_of_length_le count, taken⟩

end Halt

section Progress
variable {nested : NestedOperator (GraphOperator ν)} {external : List (Nat × ν)} {state next : NestedRun ν}
  {action : NestedAction}
  {streamId : String} {value : ν}

def unstarted (state : NestedRun ν) : List (GraphOperator ν × OperatorPhase ν) :=
  state.operators.filter fun entry => match entry.2 with
    | .taking _ => true
    | .inserting _ => false

/-- The inserts, takes and calls that are left. -/
def work (nested : NestedOperator (GraphOperator ν)) (state : NestedRun ν) : Nat :=
  (due nested state).length + (asked state).length + (unstarted state).length

theorem Sends.lowers (sends : Sends nested state action streamId value next) : work nested next < work nested state := by
  have shorter := sends.due.length_eq
  have asked := sends.asked
  have same : (unstarted next).length = (unstarted state).length := by
    cases sends with
    | input _ _ => rfl
    | output _ next _ => simp [unstarted, next]
  rw [List.length_cons] at shorter
  rw [work, work, asked, same]
  omega

theorem Asks.lowers {position ordinal : Nat} {takes polled : Takes ν} {resume : Takes ν → NestedRun ν}
    {front back : List (Nat × String)} (nested : NestedOperator (GraphOperator ν))
    (asks : Asks state action position takes resume)
    (due : takes.pending = front ++ (ordinal, streamId) :: back) (left : polled.pending = front ++ back) :
    work nested (resume polled) < work nested state := by
  have shorter := (asks.asked due left).length_eq
  have later := asks.due nested polled
  have same : (unstarted (resume polled)).length = (unstarted state).length := by
    cases asks with
    | input _ asker => simp [unstarted, asker]
    | output _ _ => rfl
  rw [List.length_cons] at shorter
  rw [work, work, later, same]
  omega

theorem step_lowers (wired : Wired nested external) (before : NestedRun ν) (action : NestedAction) (after : NestedRun ν)
    (stepped : before.step nested action = some after) (ready : Ready before action) (flowing : Flowing nested before) :
    work nested after < work nested before := by
  have flows := step_flowing wired before action after stepped ready flowing
  obtain ⟨_, move⟩ := step_moves stepped
  cases move with
  | sent sends _ => exact sends.lowers
  | received asks due _ => exact asks.lowers nested due rfl
  | reserved asks due _ => exact asks.lowers nested due rfl
  | started entry ran =>
    have inserts := flows.inserted.length_eq.trans flowing.inserted.length_eq.symm
    have takes := flows.taken.length_eq.trans flowing.taken.length_eq.symm
    simp only [List.length_append, List.length_map, Nat.add_left_cancel_iff] at inserts takes
    rw [work, work, inserts, takes]
    simp [unstarted, entry]
  | occupied _ _ fails | unknownInput _ _ fails | unknownOutput _ _ fails | refused _ _ _ _ fails
  | crashed _ _ fails => exact absurd flows.failure fails

private theorem Flowing.producer (wired : Wired nested external) (flowing : Flowing nested state)
    (started : state.external = []) (later : streamId ∈ asked state) (vacant : state.store.lookup streamId = none) :
    ∃ entry ∈ state.operators, ¬ entry.2.Finished ∧ streamId ∈ entry.1.outputIds.map Prod.snd := by
  have consumed := flowing.taken.mem_iff.mp (List.mem_append_right _ later)
  have produced := flowing.inserted.mem_iff.mpr ((wired.matched streamId).mpr consumed)
  have record := flowing.recorded streamId
  rw [Recorded, vacant] at record
  have pending := (List.mem_append.mp produced).resolve_left record
  rw [due, started] at pending
  obtain ⟨entry, member, owes⟩ := List.mem_flatMap.mp pending
  refine ⟨entry, member, ?_⟩
  obtain ⟨operator, phase⟩ := entry
  cases phase with
  | taking _ => exact ⟨id, owes⟩
  | inserting outputs =>
    obtain ⟨stream, left, known⟩ := List.mem_filterMap.mp owes
    obtain ⟨front, back, split, _⟩ := List.lookup_eq_some_iff.mp known
    refine ⟨?_, List.mem_map_of_mem (List.mem_reverse.mp (mem_of_split split))⟩
    cases outputs with
    | nil => exact absurd left List.not_mem_nil
    | cons first rest => exact id

private theorem Flowing.ready_of_least (wired : Wired nested external) (flowing : Flowing nested state)
    (started : state.external = []) {rank : Nat → Nat} (climbs : Climbs nested rank) {position : Nat}
    {operator : GraphOperator ν} {phase : OperatorPhase ν} (found : state.operators[position]? = some (operator, phase))
    (least : ∀ other entry, state.operators[other]? = some entry → ¬ entry.2.Finished → ¬ rank other < rank position) :
    Ready state (nextAction position phase) := by
  have named {place : Nat} {entry : GraphOperator ν × OperatorPhase ν} (there : state.operators[place]? = some entry) :
      nested.operators[place]? = some entry.1 := by
    rw [← flowing.operators, List.getElem?_map, there]
    rfl
  match phase, found with
  | .inserting _, _ | .taking ⟨[], _, _⟩, _ => trivial
  | .taking ⟨first :: rest, waits, received⟩, found =>
    intro owner takes ordinal streamId entry next vacant
    cases found.symm.trans entry
    have inside := List.mem_of_getElem? next
    have member := List.mem_of_getElem? found
    have later : streamId ∈ asked state :=
      List.mem_append_left _ (List.mem_flatMap.mpr ⟨_, member, List.mem_map_of_mem inside⟩)
    obtain ⟨source, present, unfinished, produces⟩ := flowing.producer wired started later vacant
    obtain ⟨place, there⟩ := List.mem_iff_getElem?.mp present
    have consumes : streamId ∈ operator.inputIds.map Prod.snd :=
      List.mem_map_of_mem ((flowing.proper _ member).1 inside)
    exact least place source there unfinished (climbs _ _ _ _ _ (named there) (named found) produces consumes)

theorem ready_enabled (wired : Wired nested external) (acyclic : Acyclic nested) (state : NestedRun ν)
    (flowing : Flowing nested state) (active : ¬ Halted (NestedRun.step nested) state) :
    ∃ action next, Ready state action ∧ state.step nested action = some next := by
  by_cases started : state.external = []
  · by_cases finished : ∀ entry ∈ state.operators, entry.2.Finished
    · have left : state.outputs.pending ≠ [] := fun done => active (halted_of_finished started finished done)
      obtain ⟨next, stepped⟩ := Option.isSome_iff_exists.mp (output_enabled flowing.failure started finished left)
      exact ⟨.takeOutput 0, next, trivial, stepped⟩
    · -- Among the unfinished operators, the one with the least rank has all its streams in the store.
      obtain ⟨rank, climbs⟩ := acyclic
      push Not at finished
      obtain ⟨some, inside, unfinishedSome⟩ := finished
      obtain ⟨place, there⟩ := List.mem_iff_getElem?.mp inside
      obtain ⟨position, ⟨⟨operator, phase⟩, found, unfinished⟩, least⟩ :=
        (measure rank).wf.has_min {position | ∃ entry, state.operators[position]? = .some entry ∧ ¬ entry.2.Finished}
          ⟨place, some, there, unfinishedSome⟩
      have member := List.mem_of_getElem? found
      have enabled : (state.step nested _).isSome :=
        operator_enabled flowing.failure started found unfinished (flowing.awake member)
      obtain ⟨next, stepped⟩ := Option.isSome_iff_exists.mp enabled
      refine ⟨nextAction position phase, next, flowing.ready_of_least wired started climbs found ?_, stepped⟩
      exact fun other entry there unfinished => least other ⟨entry, there, unfinished⟩
  · obtain ⟨next, stepped⟩ := Option.isSome_iff_exists.mp (input_enabled flowing.failure started)
    exact ⟨.insertInput, next, trivial, stepped⟩

/-- Some order of polling delivers every stream of an acyclic graph. -/
theorem ready_run_exists (wired : Wired nested external) (acyclic : Acyclic nested) : ∃ actions last,
    run (NestedRun.step nested) (.start nested external) actions = some last ∧
      Guarded (NestedRun.step nested) Ready (.start nested external) actions ∧
      Halted (NestedRun.step nested) last := by
  have kept (before : NestedRun ν) (action : NestedAction) (after : NestedRun ν)
      (stepped : before.step nested action = some after) (ready : Ready before action)
      (flowing : Flowing nested before) : Flowing nested after ∧ work nested after < work nested before :=
    ⟨step_flowing wired before action after stepped ready flowing,
      step_lowers wired before action after stepped ready flowing⟩
  exact exists_guarded_halted kept (ready_enabled wired acyclic) (flowing_start wired)

end Progress

/-- Every stream of a wired graph is delivered in exactly those complete runs that
poll no take of an operator before its stream was inserted. -/
theorem delivered_iff_ready (nested : NestedOperator (GraphOperator ν)) (external : List (Nat × ν))
    (wired : Wired nested external) {actions : List NestedAction} {last : NestedRun ν}
    (executed : run (NestedRun.step nested) (.start nested external) actions = some last)
    (halted : Halted (NestedRun.step nested) last) :
    Delivered nested last ↔ Guarded (NestedRun.step nested) Ready (.start nested external) actions := by
  constructor
  · intro delivered
    exact guarded_of_unmarked unready_marked step_marked executed delivered.unmarked
  · intro guarded
    exact (guarded_preserves (step_flowing wired) executed guarded (flowing_start wired)).delivered wired halted

/-- An operator that passes a stream on, listed in front of the one it comes from. -/
def relay : NestedOperator (GraphOperator Nat) where
  inputs := []
  operators := [⟨[⟨"a", 0⟩], [⟨"b", 0⟩], .ok⟩, ⟨[], [⟨"a", 0⟩], fun _ => .ok [(0, 7)]⟩]
  outputs := [(0, "b")]

theorem relay_wired : Wired relay [] where
  produced := by decide
  consumed := by decide
  matched streamId := by simp [producers, consumers, relay, GraphOperator.outputIds, GraphOperator.inputIds, or_comm]
  inputs := List.nodup_nil
  external := .refl _
  outputs := by decide
  runs := by
    intro operator member received same
    rw [relay, List.mem_cons, List.mem_singleton] at member
    rcases member with rfl | rfl
    · exact ⟨received, rfl, same⟩
    · exact ⟨_, rfl, .refl _⟩

theorem relay_acyclic : Acyclic relay := by
  refine ⟨fun position => 1 - position, fun source target producer consumer streamId found there produces consumes => ?_⟩
  match source, target, found, there with
  | 0, 0, rfl, rfl | 0, 1, rfl, rfl | 1, 1, rfl, rfl => simp_all [GraphOperator.outputIds, GraphOperator.inputIds]
  | 1, 0, _, _ => decide

/-- The stream arrives if its producer goes first. -/
theorem producer_first_delivers : ∃ last,
    run (NestedRun.step relay) (.start relay []) [.run 1, .insert 1, .take 0 0, .run 0, .insert 0, .takeOutput 0] =
      some last ∧ Delivered relay last := by
  have executed : (run (NestedRun.step relay) (.start relay [])
      [.run 1, .insert 1, .take 0 0, .run 0, .insert 0, .takeOutput 0]).isSome := rfl
  refine ⟨_, Option.eq_some_of_isSome executed, ?_⟩
  refine (delivered_iff_ready relay [] relay_wired (Option.eq_some_of_isSome executed) ?_).mpr ?_
  · exact halted_of_finished rfl (List.forall_mem_cons.mpr ⟨trivial, List.forall_mem_singleton.mpr trivial⟩) rfl
  · refine ⟨trivial, fun _ ran => ⟨trivial, fun _ inserted => ⟨?_, ?_⟩⟩⟩
    · cases ran
      cases inserted
      intro operator takes ordinal streamId entry found
      cases entry
      cases found
      exact nofun
    · exact fun _ _ => ⟨trivial, fun _ _ => ⟨trivial, fun _ _ => ⟨trivial, fun _ _ => trivial⟩⟩⟩

/-- The producer finds its entry reserved by the operator that waits for it. -/
theorem consumer_first_fails : Wired relay [] ∧ Acyclic relay ∧
    (run (NestedRun.step relay) (.start relay []) [.take 0 0, .run 1, .insert 1]).map NestedRun.failure =
      some (some (.error (.internal "Spot in store already taken"))) :=
  ⟨relay_wired, relay_acyclic, rfl⟩

end DatafusionRay.Proofs.StreamDelivery
