import DatafusionRay.Foundation.Execution
import DatafusionRay.Proofs.BarrierMoves

/-! What the participants of a barrier agree on. Every round is settled by one
execution, after all who are left have arrived, and those who wait receive its
result. The one who executes may not: if all others of the round have left, its
result has no receiver and an error is returned in its place. -/

namespace DatafusionRay.Proofs.Barrier
open Streaming Foundation BarrierSession

variable {ι κ τ : Type} {outcome : κ → Except DataFusionError τ}

structure Agreement (outcome : κ → Except DataFusionError τ) (session : BarrierSession ι κ τ) : Prop where
  once : (session.executions.map Execution.round).Nodup
  stored : ∀ execution ∈ session.executions, execution.arrivals.head?.map Prod.snd = some execution.function
  complete : ∀ execution ∈ session.executions, ∀ participant ∈ execution.present,
    participant ∈ execution.arrivals.map Prod.fst
  returned : ∀ participant, ∀ result ∈ (session.participants participant).returned,
    ∃ execution ∈ session.executions, execution.round = result.1 ∧ Shares (outcome execution.function) result.2
  awaited : ∀ participant round channel, (session.participants participant).phase = .waiting round channel →
    round < session.round → ∃ execution ∈ session.executions, execution.round = round ∧
      session.sent channel = some (sendableResult (outcome execution.function))

theorem Agreement.start [Fintype ι] (scripts : ι → List κ) : Agreement outcome (.start scripts) where
  once := List.nodup_nil
  stored := nofun
  complete := nofun
  returned := nofun
  awaited := nofun

private theorem mem_executed {executions : List (Execution ι κ)} {function : Option κ} {round : Nat}
    {arrivals : List (ι × κ)} {present : Finset ι} {execution : Execution ι κ} :
    execution ∈ executions ++ function.toList.map (fun computed => ⟨round, computed, arrivals, present⟩) ↔
      execution ∈ executions ∨ ∃ computed, function = some computed ∧ ⟨round, computed, arrivals, present⟩ = execution := by
  simp only [List.mem_append, List.mem_map, Option.mem_toList]

/-- Who waits when a round is settled is sent its result, and who waited longer has been sent theirs. -/
private theorem Agreement.delivers [Fintype ι] {session : BarrierSession ι κ τ} (seated : Seated session)
    (agreed : Agreement outcome session) {created : Nat} {sent : Nat → Option (Except String τ)} {present : Finset ι}
    {function : Option κ} {arrivals : List (ι × κ)}
    (delivered : session.arrivals = [] ∧ sent = session.sent ∨ ∃ computed, function = some computed ∧
      created = session.inner.created + 1 ∧
        sent = Function.update session.sent (session.inner.created - 1) (some (sendableResult (outcome computed))))
    {other : ι} {round channel : Nat} (waiting : (session.participants other).phase = .waiting round channel)
    (old : round < session.round + 1) :
    ∃ execution ∈ session.executions ++ function.toList.map fun computed => ⟨session.round, computed, arrivals, present⟩,
      execution.round = round ∧ sent channel = some (sendableResult (outcome execution.function)) := by
  rcases Nat.lt_or_eq_of_le (Nat.le_of_lt_succ old) with less | rfl
  · obtain ⟨execution, found, same, value⟩ := agreed.awaited other round channel waiting less
    refine ⟨execution, List.mem_append_left _ found, same, ?_⟩
    rcases delivered with ⟨_, rfl⟩ | ⟨_, _, _, rfl⟩
    · exact value
    · have := (seated.earlier other round channel waiting).2 less
      exact (Function.update_of_ne (by omega) _ _).trans value
  · have arrived := (seated.arrived other).mpr ⟨channel, waiting⟩
    rcases delivered with ⟨none, _⟩ | ⟨computed, same, _, rfl⟩
    · rw [none] at arrived
      exact False.elim (List.not_mem_nil arrived)
    · have current := seated.current other channel waiting
      obtain rfl : channel = session.inner.created - 1 := by omega
      exact ⟨_, mem_executed.mpr (.inr ⟨computed, same, rfl⟩), rfl, Function.update_self ..⟩

variable [DecidableEq ι]

/-- A step that executes nothing keeps the agreement if what it returns was sent. -/
private theorem Agreement.unsettled {session : BarrierSession ι κ τ} (agreed : Agreement outcome session)
    {inner : InnerQueueState κ} {arrivals : List (ι × κ)} {participant : ι} {next : Participant κ τ}
    (returned : ∀ result ∈ next.returned, result ∈ (session.participants participant).returned ∨
      ∃ execution ∈ session.executions, execution.round = result.1 ∧ Shares (outcome execution.function) result.2)
    (waits : ∀ round channel, next.phase = .waiting round channel → round = session.round) :
    Agreement outcome ⟨inner, session.round, arrivals, Function.update session.participants participant next,
      session.sent, session.executions⟩ := by
  refine ⟨agreed.once, agreed.stored, agreed.complete, fun other result member => ?_, fun other round channel waiting old => ?_⟩
  · by_cases same : other = participant
    · subst same
      simp only [Function.update_self] at member
      rcases returned result member with before | shared
      · exact agreed.returned other result before
      · exact shared
    · simp only [Function.update_of_ne same] at member
      exact agreed.returned other result member
  · rcases waiting_update.mp waiting with ⟨_, waiting⟩ | ⟨_, waiting⟩
    · exact absurd (waits round channel waiting) (Nat.ne_of_lt old)
    · exact agreed.awaited other round channel waiting old

variable [Fintype ι]

private theorem Agreement.settled {session : BarrierSession ι κ τ} (seated : Seated session)
    (agreed : Agreement outcome session) {participant : ι} (idle : (session.participants participant).phase = .idle)
    {inner : InnerQueueState κ} {next : Participant κ τ} {sent : Nat → Option (Except String τ)} {present : Finset ι}
    {function : Option κ} {arrivals : List (ι × κ)} {results : List (Except DataFusionError τ)}
    (phase : next.phase = .idle ∨ next.phase = .removed)
    (returned : next.returned = (session.participants participant).returned ++
      results.map fun result => (session.round, result))
    (executed : function = arrivals.head?.map Prod.snd) (complete : ∀ other ∈ present, other ∈ arrivals.map Prod.fst)
    (delivered : session.arrivals = [] ∧ sent = session.sent ∨ ∃ computed, function = some computed ∧
      inner.created = session.inner.created + 1 ∧
        sent = Function.update session.sent (session.inner.created - 1) (some (sendableResult (outcome computed)))) :
    Agreement outcome ⟨inner, session.round + 1, [], Function.update session.participants participant next, sent,
        session.executions ++ function.toList.map fun computed => ⟨session.round, computed, arrivals, present⟩⟩ ↔
      ∀ result ∈ results, ∃ computed, function = some computed ∧ Shares (outcome computed) result := by
  have awake (round channel : Nat) : next.phase ≠ .waiting round channel := by
    rcases phase with same | same <;> rw [same] <;> nofun
  constructor
  · intro after result member
    obtain ⟨execution, found, round, shares⟩ := after.returned participant (session.round, result) (by
      simp only [Function.update_self, returned]
      exact List.mem_append_right _ (List.mem_map_of_mem member))
    rcases mem_executed.mp found with old | ⟨computed, same, rfl⟩
    · exact absurd round (Nat.ne_of_lt (seated.past execution old))
    · exact ⟨computed, same, shares⟩
  · intro answered
    refine ⟨?_, fun execution member => ?_, fun execution member => ?_, fun other result member => ?_,
      fun other round channel waiting old => ?_⟩
    · rw [List.map_append, List.nodup_append]
      refine ⟨agreed.once, by cases function <;> simp, fun earlier member later added => ?_⟩
      obtain ⟨execution, old, rfl⟩ := List.mem_map.mp member
      obtain ⟨_, found, rfl⟩ := List.mem_map.mp added
      obtain ⟨computed, _, rfl⟩ := List.mem_map.mp found
      exact Nat.ne_of_lt (seated.past execution old)
    · rcases mem_executed.mp member with old | ⟨computed, same, rfl⟩
      · exact agreed.stored execution old
      · exact executed.symm.trans same
    · rcases mem_executed.mp member with old | ⟨computed, same, rfl⟩
      · exact agreed.complete execution old
      · exact complete
    · have kept : result ∈ (session.participants other).returned ∨
          ∃ value ∈ results, result = (session.round, value) := by
        by_cases same : other = participant
        · subst same
          simp only [Function.update_self, returned, List.mem_append, List.mem_map] at member
          exact member.imp_right fun ⟨value, found, same⟩ => ⟨value, found, same.symm⟩
        · simp only [Function.update_of_ne same] at member
          exact .inl member
      rcases kept with old | ⟨value, found, rfl⟩
      · obtain ⟨execution, found, shared⟩ := agreed.returned other result old
        exact ⟨execution, List.mem_append_left _ found, shared⟩
      · obtain ⟨computed, same, shares⟩ := answered value found
        exact ⟨⟨session.round, computed, arrivals, present⟩, mem_executed.mpr (.inr ⟨computed, same, rfl⟩), rfl, shares⟩
    · rw [waiting_unchanged idle awake] at waiting
      exact Agreement.delivers seated agreed delivered waiting old

theorem Agreement.move {session after : BarrierSession ι κ τ} {action : BarrierAction ι} (seated : Seated session)
    (agreed : Agreement outcome session) (moved : Move outcome session action after) :
    Agreement outcome after ↔ Answered outcome session action := by
  cases moved with
  | arrive idle _ _ _ answered =>
    refine iff_of_true (agreed.unsettled (fun result member => .inl member) fun round channel waiting => ?_) answered
    cases waiting
    rfl
  | leave idle _ _ _ =>
    exact iff_of_true (agreed.unsettled (fun result member => .inl member) nofun) trivial
  | settle idle phase returned _ _ _ executed complete delivered answered =>
    exact (Agreement.settled seated agreed idle phase returned executed complete delivered).trans answered
  | @receive participant round channel value waiting sent =>
    refine iff_of_true (agreed.unsettled (fun result member => ?_) nofun) trivial
    rcases List.mem_append.mp member with old | new
    · exact .inl old
    · cases List.mem_singleton.mp new
      have old : round < session.round := by
        refine Nat.lt_of_le_of_ne (seated.earlier _ _ _ waiting).1 ?_
        rintro rfl
        have := seated.current _ _ waiting
        have := seated.sent _ _ sent
        omega
      obtain ⟨execution, found, same, given⟩ := agreed.awaited _ _ _ waiting old
      cases sent.symm.trans given
      exact .inr ⟨execution, found, same, shares_received _⟩

/-- The participants agree in every state of a run exactly if in every step the one
who settles a round is answered. -/
theorem always_agreement_iff (outcome : κ → Except DataFusionError τ) (scripts : ι → List κ)
    (actions : List (BarrierAction ι)) (last : BarrierSession ι κ τ)
    (executed : run (BarrierSession.step outcome) (.start scripts) actions = some last) :
    Always (BarrierSession.step outcome) (Agreement outcome) (.start scripts) actions ↔
      Guarded (BarrierSession.step outcome) (Answered outcome) (.start scripts) actions := by
  refine always_iff_guarded (fun before action after stepped agreed seated => ?_) executed (.start scripts)
    (Seated.start scripts)
  have moved := step_moves seated stepped
  exact ⟨seated.move moved, Agreement.move seated agreed moved⟩

/-- Nobody is left waiting: where nothing can happen any more, all have made their
calls and left. -/
theorem halted_removed {session : BarrierSession ι κ τ} (seated : Seated session) (agreed : Agreement outcome session)
    (halted : Halted (BarrierSession.step outcome) session) (participant : ι) :
    (session.participants participant).phase = .removed := by
  have waiting (other : ι) (left : (session.participants other).phase ≠ .removed) :
      ∃ channel, (session.participants other).phase = .waiting session.round channel := by
    cases phase : (session.participants other).phase with
    | removed => exact absurd phase left
    | panicked => exact absurd phase (seated.running other)
    | idle =>
      cases script : (session.participants other).script with
      | nil =>
        have stopped := halted (.remove other)
        simp [BarrierSession.step, phase, script] at stopped
      | cons function rest =>
        have stopped := halted (.compute other)
        simp [BarrierSession.step, phase, script] at stopped
    | waiting round channel =>
      rcases Nat.lt_or_eq_of_le (seated.earlier other round channel phase).1 with old | rfl
      · obtain ⟨_, _, _, sent⟩ := agreed.awaited other round channel phase old
        have stopped := halted (.receive other)
        simp [BarrierSession.step, phase, sent] at stopped
      · exact ⟨channel, rfl⟩
  have everyone : (session.arrivals.map Prod.fst).toFinset = session.present := by
    ext other
    rw [List.mem_toFinset, seated.arrived, mem_present]
    constructor
    · rintro ⟨channel, same⟩ removed
      cases same.symm.trans removed
    · exact waiting other
  have count := seated.card_arrived
  rw [everyone] at count
  by_contra left
  have positive := Finset.card_pos.mpr ⟨participant, mem_present.mpr left⟩
  have queue := seated.counted.queue
  split at queue
  next => omega
  next => omega

/-- Two participants that meet once and leave one after the other. -/
theorem meeting_agrees :
    Always (BarrierSession.step fun value : Nat => .ok value) (Agreement fun value => .ok value)
      (.start fun _ : Fin 2 => [7]) [.compute 0, .compute 1, .receive 0, .remove 0, .remove 1] := by
  refine (always_agreement_iff _ _ _ _ rfl).mpr ⟨fun _ one => (nomatch one), ?_⟩
  rintro _ ⟨⟩
  refine ⟨fun none => (nomatch none), ?_⟩
  rintro _ ⟨⟩
  exact ⟨trivial, fun _ _ => ⟨trivial, fun _ _ => ⟨trivial, fun _ _ => trivial⟩⟩⟩

/-- One of two has left when the other calls: the computation succeeds, the call fails. -/
theorem survivor_gets_error :
    ∃ session : BarrierSession (Fin 2) Nat Nat,
      run (BarrierSession.step fun value => .ok value) (.start fun participant => if participant = 0 then [] else [7])
          [.remove 0, .compute 1] = some session ∧
        session.executions.map (fun execution => (execution.round, execution.function)) = [(0, 7)] ∧
          (session.participants 1).returned =
            [(0, .error (.internal "Barrier receiver was dropped before the result was sent."))] :=
  ⟨_, rfl, rfl, rfl⟩

end DatafusionRay.Proofs.Barrier
