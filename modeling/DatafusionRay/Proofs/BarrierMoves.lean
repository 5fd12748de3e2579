import DatafusionRay.Proofs.BarrierRounds
import DatafusionRay.Streaming.BarrierSession

/-! Everything one step of a barrier session can do. The slots of the inner queue
are those of the participants that are missing in the current round, so nobody
runs out of slots and the last one to arrive finds all others waiting or gone. -/

namespace DatafusionRay.Proofs.Barrier
open Streaming BarrierSession

variable {ι κ τ : Type} {outcome : κ → Except DataFusionError τ}

section Session
variable [Fintype ι]

/-- The value of the computation, or an error exactly if it has none. -/
def Shares (computed result : Except DataFusionError τ) : Prop :=
  match computed with
  | .ok value => result = .ok value
  | .error _ => ∃ error, result = .error error

/-- Somebody waits for the result of the last one to arrive, or there is none. -/
def Answered (outcome : κ → Except DataFusionError τ) (session : BarrierSession ι κ τ) : BarrierAction ι → Prop
  | .compute participant =>
    session.arrivals = [] → session.inner.synchronisationQueue.map List.length = some 1 →
      ∀ function rest, (session.participants participant).script = function :: rest →
        ∃ error, outcome function = .error error
  | .receive _ | .remove _ => True

/-- The slots of the inner queue are those of the participants who are missing in this round. -/
structure Seated (session : BarrierSession ι κ τ) : Prop where
  counted : Matches session.inner session.present.card session.arrivals.length
  function : session.inner.computationFunction = session.arrivals.head?.map Prod.snd
  distinct : (session.arrivals.map Prod.fst).Nodup
  arrived : ∀ participant, participant ∈ session.arrivals.map Prod.fst ↔
    ∃ channel, (session.participants participant).phase = .waiting session.round channel
  current : ∀ participant channel, (session.participants participant).phase = .waiting session.round channel →
    channel + 1 = session.inner.created
  earlier : ∀ participant round channel, (session.participants participant).phase = .waiting round channel →
    round ≤ session.round ∧ (round < session.round → channel + 1 < session.inner.created)
  sent : ∀ channel value, session.sent channel = some value → channel + 1 < session.inner.created
  past : ∀ execution ∈ session.executions, execution.round < session.round
  running : ∀ participant, (session.participants participant).phase ≠ .panicked

theorem mem_present {session : BarrierSession ι κ τ} {participant : ι} :
    participant ∈ session.present ↔ (session.participants participant).phase ≠ .removed := by
  simp [present]

theorem counted_of_iff {after : BarrierSession ι κ τ} {present : Finset ι}
    (left : ∀ other, other ∈ present ↔ (after.participants other).phase ≠ .removed) {inner : InnerQueueState κ}
    {arrived : Nat} (counted : Matches inner present.card arrived) : Matches inner after.present.card arrived := by
  have same : after.present = present := Finset.ext fun other => mem_present.trans (left other).symm
  rw [same]
  exact counted

theorem Seated.start (scripts : ι → List κ) : Seated (.start scripts : BarrierSession ι κ τ) where
  counted := by
    have everyone : (BarrierSession.start scripts : BarrierSession ι κ τ).present = Finset.univ :=
      Finset.filter_true_of_mem fun _ _ => nofun
    rw [everyone]
    exact .opened _
  function := InnerQueueState.opened_function _
  distinct := List.nodup_nil
  arrived _ := iff_of_false List.not_mem_nil nofun
  current := nofun
  earlier := nofun
  sent := nofun
  past := nofun
  running := nofun

section Seats
variable {session : BarrierSession ι κ τ} (seated : Seated session)
include seated

/-- The receivers of this round are held by those who have arrived. -/
theorem Seated.received_iff :
    (∃ participant, (session.participants participant).phase.WaitsOn (session.inner.created - 1)) ↔
      session.arrivals ≠ [] := by
  have positive := seated.counted.created
  constructor
  · rintro ⟨participant, waits⟩ none
    cases phase : (session.participants participant).phase with
    | idle | removed | panicked => rw [phase] at waits; exact waits
    | waiting round channel =>
      rw [phase] at waits
      cases waits
      obtain ⟨before, old⟩ := seated.earlier _ _ _ phase
      rcases Nat.lt_or_eq_of_le before with less | rfl
      · have := old less
        omega
      · have member := (seated.arrived participant).mpr ⟨_, phase⟩
        rw [none] at member
        exact List.not_mem_nil member
  · intro some_
    obtain ⟨⟨participant, function⟩, rest, same⟩ := List.exists_cons_of_ne_nil some_
    obtain ⟨channel, phase⟩ := (seated.arrived participant).mp (by rw [same]; exact List.mem_cons_self)
    refine ⟨participant, ?_⟩
    rw [phase]
    have := seated.current _ _ phase
    change channel = _
    omega

/-- Only with one slot left can nobody be waiting for a call that is not alone. -/
theorem Seated.answered {participant : ι} (others : session.arrivals ≠ [] ∨ session.present.card ≠ 1 ∨
    session.inner.synchronisationQueue = none) : Answered outcome session (.compute participant) := by
  intro none one
  obtain ⟨slots, queued, length⟩ := Option.map_eq_some_iff.mp one
  have total := seated.counted.slots queued
  rcases others with some_ | several | absent
  · exact absurd none some_
  · rw [none, List.length_nil, length] at total
    exact absurd total.symm several
  · rw [absent] at queued
    cases queued

/-- What the last one to arrive finds stored is what the first one brought. -/
theorem Seated.function_of_arrival (participant : ι) (function : κ) :
    some (session.inner.computationFunction.getD function) =
      (session.arrivals ++ [(participant, function)]).head?.map Prod.snd := by
  rw [seated.function]
  cases session.arrivals <;> rfl

variable [DecidableEq ι]

theorem Seated.arrived_subset {participant : ι} (idle : (session.participants participant).phase = .idle) :
    (session.arrivals.map Prod.fst).toFinset ⊆ session.present.erase participant := by
  intro other member
  obtain ⟨channel, waiting⟩ := (seated.arrived other).mp (List.mem_toFinset.mp member)
  refine Finset.mem_erase.mpr ⟨?_, mem_present.mpr ?_⟩
  · rintro rfl
    rw [idle] at waiting
    cases waiting
  · rw [waiting]
    nofun

theorem Seated.card_arrived : (session.arrivals.map Prod.fst).toFinset.card = session.arrivals.length := by
  rw [List.toFinset_card_of_nodup seated.distinct, List.length_map]

/-- Who has not arrived has a slot of its own. -/
theorem Seated.missing {participant : ι} (idle : (session.participants participant).phase = .idle) :
    session.arrivals.length < session.present.card := by
  have member : participant ∈ session.present := mem_present.mpr (by rw [idle]; nofun)
  have fewer := Finset.card_le_card (seated.arrived_subset idle)
  rw [seated.card_arrived, Finset.card_erase_of_mem member] at fewer
  have positive := Finset.card_pos.mpr ⟨participant, member⟩
  omega

/-- With all slots but one taken, everyone else has arrived. -/
theorem Seated.others_arrived {participant : ι} (idle : (session.participants participant).phase = .idle)
    (full : session.present.card = session.arrivals.length + 1) :
    (session.arrivals.map Prod.fst).toFinset = session.present.erase participant := by
  refine Finset.eq_of_subset_of_card_le (seated.arrived_subset idle) ?_
  rw [seated.card_arrived, Finset.card_erase_of_mem (mem_present.mpr (by rw [idle]; nofun)), full]
  exact Nat.le_refl _

end Seats

section Moves
variable [DecidableEq ι]

/-- Everything a step can do to a session that is seated. -/
inductive Move (outcome : κ → Except DataFusionError τ) (session : BarrierSession ι κ τ) :
    BarrierAction ι → BarrierSession ι κ τ → Prop where
  | arrive {participant function rest inner} (idle : (session.participants participant).phase = .idle)
      (created : inner.created = session.inner.created)
      (stored : inner.computationFunction = (session.arrivals ++ [(participant, function)]).head?.map Prod.snd)
      (counted : Matches inner session.present.card (session.arrivals.length + 1))
      (answered : Answered outcome session (.compute participant)) :
      Move outcome session (.compute participant)
        ⟨inner, session.round, session.arrivals ++ [(participant, function)],
          Function.update session.participants participant
            ⟨rest, .waiting session.round (session.inner.created - 1), (session.participants participant).returned⟩,
          session.sent, session.executions⟩
  | leave {participant inner} (idle : (session.participants participant).phase = .idle)
      (created : inner.created = session.inner.created)
      (stored : inner.computationFunction = session.inner.computationFunction)
      (counted : Matches inner (session.present.card - 1) session.arrivals.length) :
      Move outcome session (.remove participant)
        ⟨inner, session.round, session.arrivals,
          Function.update session.participants participant { session.participants participant with phase := .removed },
          session.sent, session.executions⟩
  | settle {action participant inner function next sent} {results : List (Except DataFusionError τ)}
      {arrivals : List (ι × κ)} {present : Finset ι}
      (idle : (session.participants participant).phase = .idle) (phase : next.phase = .idle ∨ next.phase = .removed)
      (returned : next.returned = (session.participants participant).returned ++
        results.map fun result => (session.round, result))
      (left : ∀ other, other ∈ present ↔ (Function.update session.participants participant next other).phase ≠ .removed)
      (counted : Matches inner present.card 0) (grows : session.inner.created ≤ inner.created)
      (executed : function = arrivals.head?.map Prod.snd) (complete : ∀ other ∈ present, other ∈ arrivals.map Prod.fst)
      (delivered : session.arrivals = [] ∧ sent = session.sent ∨ ∃ computed, function = some computed ∧
        inner.created = session.inner.created + 1 ∧
          sent = Function.update session.sent (session.inner.created - 1) (some (sendableResult (outcome computed))))
      (answered : (∀ result ∈ results, ∃ computed, function = some computed ∧ Shares (outcome computed) result) ↔
        Answered outcome session action) :
      Move outcome session action
        ⟨inner, session.round + 1, [], Function.update session.participants participant next, sent,
          session.executions ++ function.toList.map fun computed => ⟨session.round, computed, arrivals, present⟩⟩
  | receive {participant round channel value}
      (waiting : (session.participants participant).phase = .waiting round channel)
      (sent : session.sent channel = some value) :
      Move outcome session (.receive participant)
        ⟨session.inner, session.round, session.arrivals,
          Function.update session.participants participant
            { session.participants participant with
              phase := .idle
              returned := (session.participants participant).returned ++ [(round, receivedResult value)] },
          session.sent, session.executions⟩

end Moves

end Session

variable [DecidableEq ι]

theorem waitsOn_iff {phase : BarrierPhase} {channel : Nat} :
    phase.WaitsOn channel ↔ ∃ round, phase = .waiting round channel := by
  cases phase with
  | idle | removed | panicked => exact iff_of_false id nofun
  | waiting round other =>
    constructor
    · rintro rfl
      exact ⟨round, rfl⟩
    · rintro ⟨_, same⟩
      cases same
      rfl

private theorem idle_left {phase : BarrierPhase} (idle : phase = .idle) : phase ≠ .removed := by
  rw [idle]
  nofun

private theorem not_waiting {phase : BarrierPhase} (awake : phase = .idle ∨ phase = .removed) (round channel : Nat) :
    phase ≠ .waiting round channel := by
  rcases awake with same | same <;> rw [same] <;> nofun

section Update
variable {participants : ι → Participant κ τ} {participant other : ι} {next : Participant κ τ}

theorem waiting_update {round channel : Nat} :
    (Function.update participants participant next other).phase = .waiting round channel ↔
      other = participant ∧ next.phase = .waiting round channel ∨
        other ≠ participant ∧ (participants other).phase = .waiting round channel := by
  by_cases same : other = participant
  · subst same
    simp
  · simp [same]

/-- A participant that neither waited nor waits does not change who waits. -/
theorem waiting_unchanged {round channel : Nat} (idle : (participants participant).phase = .idle)
    (awake : ∀ round channel, next.phase ≠ .waiting round channel) :
    (Function.update participants participant next other).phase = .waiting round channel ↔
      (participants other).phase = .waiting round channel := by
  rw [waiting_update]
  constructor
  · rintro (⟨_, waiting⟩ | ⟨_, waiting⟩)
    · exact absurd waiting (awake round channel)
    · exact waiting
  · intro waiting
    refine .inr ⟨?_, waiting⟩
    rintro rfl
    rw [idle] at waiting
    cases waiting

theorem phase_update {phase : BarrierPhase} (new : next.phase ≠ phase) (old : ∀ other, (participants other).phase ≠ phase)
    (other : ι) : (Function.update participants participant next other).phase ≠ phase := by
  by_cases same : other = participant
  · subst same
    rwa [Function.update_self]
  · rw [Function.update_of_ne same]
    exact old other

end Update

variable [Fintype ι]

section Present
variable {session : BarrierSession ι κ τ} {participant : ι} (left : (session.participants participant).phase ≠ .removed)
  {next : Participant κ τ}
include left

theorem present_kept (kept : next.phase ≠ .removed) (other : ι) :
    other ∈ session.present ↔ (Function.update session.participants participant next other).phase ≠ .removed := by
  rw [mem_present]
  by_cases same : other = participant
  · subst same
    rw [Function.update_self]
    exact iff_of_true left kept
  · rw [Function.update_of_ne same]

theorem present_removed (removed : next.phase = .removed) (other : ι) :
    other ∈ session.present.erase participant ↔
      (Function.update session.participants participant next other).phase ≠ .removed := by
  rw [Finset.mem_erase, mem_present]
  by_cases same : other = participant
  · subst same
    rw [Function.update_self]
    exact iff_of_false (fun both => both.1 rfl) (not_not.mpr removed)
  · rw [Function.update_of_ne same]
    exact and_iff_right same

theorem card_removed : (session.present.erase participant).card = session.present.card - 1 :=
  Finset.card_erase_of_mem (mem_present.mpr left)

end Present

section Moves
variable {session : BarrierSession ι κ τ} (seated : Seated session)
include seated

private theorem Seated.arrive {participant : ι} (idle : (session.participants participant).phase = .idle)
    {inner : InnerQueueState κ} (created : inner.created = session.inner.created) {function : κ}
    (stored : inner.computationFunction = (session.arrivals ++ [(participant, function)]).head?.map Prod.snd)
    (counted : Matches inner session.present.card (session.arrivals.length + 1)) (rest : List κ)
    (returned : List (Nat × Except DataFusionError τ)) :
    Seated ⟨inner, session.round, session.arrivals ++ [(participant, function)],
      Function.update session.participants participant ⟨rest, .waiting session.round (session.inner.created - 1), returned⟩,
      session.sent, session.executions⟩ := by
  have positive := seated.counted.created
  have absent : ∀ channel, (session.participants participant).phase ≠ .waiting session.round channel := by
    rw [idle]
    nofun
  have left := idle_left idle
  refine ⟨?_, stored, ?_, fun other => ?_, fun other channel waiting => ?_, fun other round channel waiting => ?_,
    fun channel value found => ?_, seated.past, phase_update nofun seated.running⟩
  · rw [List.length_append]
    refine counted_of_iff (present_kept left ?_) counted
    nofun
  · rw [List.map_append, List.map_singleton, List.nodup_append_comm]
    refine List.nodup_cons.mpr ⟨fun member => ?_, seated.distinct⟩
    obtain ⟨channel, waiting⟩ := (seated.arrived participant).mp member
    exact absent channel waiting
  · rw [List.map_append, List.mem_append, seated.arrived]
    simp only [waiting_update, List.map_singleton, List.mem_singleton]
    constructor
    · rintro (⟨channel, waiting⟩ | rfl)
      · refine ⟨channel, .inr ⟨?_, waiting⟩⟩
        rintro rfl
        exact absent channel waiting
      · exact ⟨_, .inl ⟨rfl, rfl⟩⟩
    · rintro ⟨channel, ⟨rfl, _⟩ | ⟨_, waiting⟩⟩
      · exact .inr rfl
      · exact .inl ⟨channel, waiting⟩
  · rw [waiting_update] at waiting
    simp only [created]
    rcases waiting with ⟨_, same⟩ | ⟨_, waiting⟩
    · cases same
      omega
    · exact seated.current other channel waiting
  · rw [waiting_update] at waiting
    simp only [created]
    rcases waiting with ⟨_, same⟩ | ⟨_, waiting⟩
    · cases same
      exact ⟨Nat.le_refl _, fun less => absurd less (Nat.lt_irrefl _)⟩
    · exact seated.earlier other round channel waiting
  · simp only [created]
    exact seated.sent channel value found

private theorem Seated.leave {participant : ι} (idle : (session.participants participant).phase = .idle)
    {inner : InnerQueueState κ} (created : inner.created = session.inner.created)
    (stored : inner.computationFunction = session.inner.computationFunction)
    (counted : Matches inner (session.present.card - 1) session.arrivals.length) {next : Participant κ τ}
    (removed : next.phase = .removed) :
    Seated ⟨inner, session.round, session.arrivals, Function.update session.participants participant next,
      session.sent, session.executions⟩ := by
  have left := idle_left idle
  have awake := not_waiting (.inr removed)
  rw [← card_removed left] at counted
  refine ⟨counted_of_iff (present_removed left removed) counted, stored.trans seated.function, seated.distinct, fun other => ?_,
    fun other channel waiting => ?_, fun other round channel waiting => ?_, fun channel value found => ?_, seated.past,
    phase_update (by rw [removed]; nofun) seated.running⟩
  · simp only [waiting_unchanged idle awake]
    exact seated.arrived other
  · rw [waiting_unchanged idle awake] at waiting
    exact (seated.current other channel waiting).trans created.symm
  · rw [waiting_unchanged idle awake] at waiting
    simp only [created]
    exact seated.earlier other round channel waiting
  · simp only [created]
    exact seated.sent channel value found

private theorem Seated.receive {participant : ι} {round channel : Nat}
    (waiting : (session.participants participant).phase = .waiting round channel) {value : Except String τ}
    (sent : session.sent channel = some value) {next : Participant κ τ} (idle : next.phase = .idle) :
    Seated { session with participants := Function.update session.participants participant next } := by
  have old : round ≠ session.round := by
    rintro rfl
    have := seated.current _ _ waiting
    have := seated.sent _ _ sent
    omega
  have awake := not_waiting (.inl idle)
  have before {other : ι} {round channel : Nat}
      (waits : (Function.update session.participants participant next other).phase = .waiting round channel) :
      (session.participants other).phase = .waiting round channel := by
    rcases waiting_update.mp waits with ⟨_, impossible⟩ | ⟨_, waits⟩
    · exact absurd impossible (awake _ _)
    · exact waits
  refine ⟨counted_of_iff (present_kept (by rw [waiting]; nofun) (by rw [idle]; nofun)) seated.counted, seated.function,
    seated.distinct,
    fun other => ?_, fun other channel waits => seated.current other channel (before waits),
    fun other round channel waits => seated.earlier other round channel (before waits), seated.sent, seated.past,
    phase_update (by rw [idle]; nofun) seated.running⟩
  rw [seated.arrived]
  constructor
  · rintro ⟨channel, waits⟩
    refine ⟨channel, waiting_update.mpr (.inr ⟨?_, waits⟩)⟩
    rintro rfl
    rw [waiting] at waits
    cases waits
    exact old rfl
  · rintro ⟨channel, waits⟩
    exact ⟨channel, before waits⟩

private theorem Seated.settle {participant : ι} (idle : (session.participants participant).phase = .idle)
    {inner : InnerQueueState κ} {next : Participant κ τ} {sent : Nat → Option (Except String τ)} {present : Finset ι}
    {function : Option κ} {arrivals : List (ι × κ)} (phase : next.phase = .idle ∨ next.phase = .removed)
    (left : ∀ other, other ∈ present ↔ (Function.update session.participants participant next other).phase ≠ .removed)
    (counted : Matches inner present.card 0) (grows : session.inner.created ≤ inner.created)
    (delivered : session.arrivals = [] ∧ sent = session.sent ∨ ∃ computed, function = some computed ∧
      inner.created = session.inner.created + 1 ∧
        sent = Function.update session.sent (session.inner.created - 1) (some (sendableResult (outcome computed)))) :
    Seated ⟨inner, session.round + 1, [], Function.update session.participants participant next, sent,
      session.executions ++ function.toList.map fun computed => ⟨session.round, computed, arrivals, present⟩⟩ := by
  have positive := seated.counted.created
  have awake := not_waiting phase
  have before {other : ι} {round channel : Nat}
      (waits : (Function.update session.participants participant next other).phase = .waiting round channel) :
      (session.participants other).phase = .waiting round channel ∧ round ≤ session.round := by
    rw [waiting_unchanged idle awake] at waits
    exact ⟨waits, (seated.earlier other round channel waits).1⟩
  refine ⟨?_, ?_, List.nodup_nil, fun other => ?_, fun other channel waits => ?_, fun other round channel waits => ?_,
    fun channel value found => ?_, fun execution member => ?_, phase_update ?_ seated.running⟩
  · exact counted_of_iff left counted
  · exact Option.not_isSome_iff_eq_none.mp (by rw [counted.function]; nofun)
  · exact iff_of_false List.not_mem_nil fun ⟨_, waits⟩ => absurd (before waits).2 (Nat.not_succ_le_self _)
  · exact absurd (before waits).2 (Nat.not_succ_le_self _)
  · obtain ⟨waits, bounded⟩ := before waits
    refine ⟨Nat.le_succ_of_le bounded, fun _ => ?_⟩
    rcases Nat.lt_or_eq_of_le bounded with less | rfl
    · exact Nat.lt_of_lt_of_le ((seated.earlier other round channel waits).2 less) grows
    · have arrived := (seated.arrived other).mpr ⟨channel, waits⟩
      rcases delivered with ⟨none, _⟩ | ⟨_, _, created, _⟩
      · rw [none] at arrived
        exact False.elim (List.not_mem_nil arrived)
      · have := seated.current other channel waits
        simp only [created]
        omega
  · rcases delivered with ⟨_, rfl⟩ | ⟨_, _, created, rfl⟩
    · exact Nat.lt_of_lt_of_le (seated.sent channel value found) grows
    · simp only [created]
      by_cases same : channel = session.inner.created - 1
      · omega
      · exact Nat.lt_succ_of_lt (seated.sent channel value ((Function.update_of_ne same _ _).symm.trans found))
  · rcases List.mem_append.mp member with old | new
    · exact Nat.lt_succ_of_lt (seated.past execution old)
    · obtain ⟨computed, _, rfl⟩ := List.mem_map.mp new
      exact Nat.lt_succ_self _
  · rcases phase with same | same <;> rw [same] <;> nofun

theorem Seated.move {action : BarrierAction ι} {after : BarrierSession ι κ τ} (moved : Move outcome session action after) :
    Seated after := by
  cases moved with
  | arrive idle created stored counted _ => exact seated.arrive idle created stored counted _ _
  | leave idle created stored counted => exact seated.leave idle created stored counted rfl
  | settle idle phase _ left counted grows _ _ delivered _ =>
    exact seated.settle idle phase left counted grows delivered
  | receive waiting sent => exact seated.receive waiting sent rfl

end Moves

theorem shares_refl (computed : Except DataFusionError τ) : Shares computed computed := by
  cases computed with
  | ok value => rfl
  | error error => exact ⟨error, rfl⟩

theorem shares_received (computed : Except DataFusionError τ) :
    Shares computed (receivedResult (sendableResult computed)) := by
  cases computed with
  | ok value => rfl
  | error error => exact ⟨_, rfl⟩

theorem shares_error {computed : Except DataFusionError τ} {error : DataFusionError} :
    Shares computed (.error error) ↔ ∃ cause, computed = .error cause := by
  cases computed with
  | ok value => exact iff_of_false nofun nofun
  | error cause => exact iff_of_true ⟨error, rfl⟩ ⟨cause, rfl⟩

/-- Only without a queue is there no sender. -/
private theorem queue_of_unsent {state after : InnerQueueState κ} {function : κ} {stored : Option κ}
    (computed : state.computeResult function = .ok (after, .compute stored none)) : state.synchronisationQueue = none := by
  simp only [InnerQueueState.computeResult, InnerQueueState.popQueueInner, InnerQueueState.createStateQueue_eq] at computed
  split at computed
  next absent => exact absent
  all_goals cases computed

section Steps
variable {session : BarrierSession ι κ τ} (seated : Seated session) {participant : ι}
  (idle : (session.participants participant).phase = .idle)
include seated idle

private theorem Seated.all_arrived (full : session.present.card = session.arrivals.length + 1) (function : κ) :
    ∀ other ∈ session.present, other ∈ (session.arrivals ++ [(participant, function)]).map Prod.fst := by
  intro other member
  rw [List.map_append, List.mem_append]
  by_cases same : other = participant
  · exact .inr (List.mem_singleton.mpr same)
  · refine .inl (List.mem_toFinset.mp ?_)
    rw [seated.others_arrived idle full]
    exact Finset.mem_erase.mpr ⟨same, member⟩

/-- The turn of the last one to arrive, with what it returns. -/
private theorem Seated.compute_settles {inner : InnerQueueState κ} {function : κ} {rest : List κ}
    (full : session.present.card = session.arrivals.length + 1) (counted : Matches inner session.present.card 0)
    (grows : session.inner.created ≤ inner.created) {sent : Nat → Option (Except String τ)}
    {result : Except DataFusionError τ}
    (delivered : session.arrivals = [] ∧ sent = session.sent ∨ inner.created = session.inner.created + 1 ∧
      sent = Function.update session.sent (session.inner.created - 1)
        (some (sendableResult (outcome (session.inner.computationFunction.getD function)))))
    (answered : Shares (outcome (session.inner.computationFunction.getD function)) result ↔
      Answered outcome session (.compute participant)) :
    Move outcome session (.compute participant)
      ⟨inner, session.round + 1, [],
        Function.update session.participants participant
          ⟨rest, .idle, (session.participants participant).returned ++ [(session.round, result)]⟩, sent,
        session.executions ++ [⟨session.round, session.inner.computationFunction.getD function,
          session.arrivals ++ [(participant, function)], session.present⟩]⟩ := by
  have left := idle_left idle
  refine .settle idle (.inl rfl) (show _ = _ ++ List.map _ [result] from rfl) (present_kept left ?_) counted grows
    (seated.function_of_arrival participant function) (seated.all_arrived idle full function)
    (delivered.imp_right fun given => ⟨_, rfl, given⟩) ?_
  · nofun
  · simpa using answered

theorem compute_moves {function : κ} {rest : List κ} (script : (session.participants participant).script = function :: rest) :
    Move outcome session (.compute participant)
      (session.compute outcome participant (session.participants participant) function rest) := by
  have answer := computeResult_arrival function seated.counted (seated.missing idle)
  unfold BarrierSession.compute
  cases result : session.inner.computeResult function with
  | error failure =>
    rw [result] at answer
    cases answer
  | ok turn =>
    rw [result] at answer
    cases answer with
    | wait missing created stored _ next =>
      refine .arrive idle created (stored.trans (seated.function_of_arrival participant function)) next (seated.answered ?_)
      by_cases none : session.arrivals = []
      · rw [none, List.length_nil] at missing
        exact .inr (.inl (Nat.ne_of_gt missing))
      · exact .inl none
    | last complete created present next =>
      have grows := (Nat.le_succ _).trans created.ge
      by_cases none : session.arrivals = []
      · simp only [BarrierSession.settle, if_neg (seated.received_iff.not.mpr (not_not.mpr none))]
        refine seated.compute_settles idle complete next grows (.inl ⟨none, rfl⟩) (shares_error.trans ?_)
        rw [seated.function, none]
        obtain ⟨slots, queued⟩ := Option.isSome_iff_exists.mp present
        have one : session.inner.synchronisationQueue.map List.length = some 1 := by
          have total := seated.counted.slots queued
          rw [queued, Option.map_some, Option.some.injEq]
          omega
        constructor
        · intro fails _ _ other others same
          cases script.symm.trans same
          exact fails
        · intro answered
          exact answered none one function rest script
      · simp only [BarrierSession.settle, if_pos (seated.received_iff.mpr none)]
        exact seated.compute_settles idle complete next grows (.inr ⟨created, rfl⟩)
          (iff_of_true (shares_refl _) (seated.answered (.inl none)))
    | alone single first created absent next =>
      have none := List.length_eq_zero_iff.mp first
      refine seated.compute_settles idle (by omega) next created.ge (.inl ⟨none, rfl⟩)
        (iff_of_true (shares_refl _) (seated.answered (.inr (.inr (queue_of_unsent result)))))

/-- A participant that leaves as the last one missing settles the round for the others. -/
private theorem Seated.remove_settles {inner : InnerQueueState κ} {next : Participant κ τ}
    (removed : next.phase = .removed) (returned : next.returned = (session.participants participant).returned)
    (full : session.present.card = session.arrivals.length + 1) (counted : Matches inner (session.present.card - 1) 0)
    (grows : session.inner.created ≤ inner.created) {sent : Nat → Option (Except String τ)}
    (delivered : session.arrivals = [] ∧ sent = session.sent ∨ ∃ computed,
      session.inner.computationFunction = some computed ∧ inner.created = session.inner.created + 1 ∧
        sent = Function.update session.sent (session.inner.created - 1) (some (sendableResult (outcome computed)))) :
    Move outcome session (.remove participant)
      ⟨inner, session.round + 1, [], Function.update session.participants participant next, sent,
        session.executions ++ session.inner.computationFunction.toList.map fun computed =>
          ⟨session.round, computed, session.arrivals, session.present.erase participant⟩⟩ := by
  have left := idle_left idle
  rw [← card_removed left] at counted
  refine .settle idle (.inr removed) (show _ = _ ++ List.map _ [] by rw [returned, List.map_nil, List.append_nil])
    (present_removed left removed) counted grows seated.function (fun other member => ?_) delivered
    (iff_of_true nofun trivial)
  rw [← seated.others_arrived idle full] at member
  exact List.mem_toFinset.mp member

theorem remove_moves :
    Move outcome session (.remove participant)
      (session.remove outcome participant (session.participants participant)) := by
  have answer := removeParticipant_departure seated.counted (seated.missing idle)
  have left {next : Participant κ τ} (removed : next.phase = .removed) (inner : InnerQueueState κ) : BarrierSession.present
      { session.update participant next with inner } = session.present.erase participant :=
    Finset.ext fun other => mem_present.trans (present_removed (idle_left idle) removed other).symm
  have receivers {next : Participant κ τ} (removed : next.phase = .removed) :
      (∃ other, (Function.update session.participants participant next other).phase.WaitsOn (session.inner.created - 1)) ↔
        session.arrivals ≠ [] := by
    have awake := not_waiting (.inr removed)
    simp only [waitsOn_iff, waiting_unchanged idle awake]
    simp only [← waitsOn_iff, seated.received_iff]
  unfold BarrierSession.remove
  cases result : session.inner.removeParticipant with
  | error failure =>
    rw [result] at answer
    cases answer
  | ok turn =>
    rw [result] at answer
    cases answer with
    | wait missing created stored _ next => exact .leave idle created stored next
    | last complete created present next =>
      have grows := (Nat.le_succ _).trans created.ge
      by_cases none : session.arrivals = []
      · simp only [BarrierSession.settle, left]
        rw [if_neg]
        · refine seated.remove_settles idle ?_ ?_ complete next grows (.inl ⟨none, rfl⟩) <;> rfl
        · exact (receivers rfl).not.mpr (not_not.mpr none)
      · obtain ⟨arrival, others, same⟩ := List.exists_cons_of_ne_nil none
        have stored : session.inner.computationFunction = some arrival.2 := by
          rw [seated.function, same]
          rfl
        simp only [BarrierSession.settle, left]
        rw [if_pos]
        · refine seated.remove_settles idle ?_ ?_ complete next grows (.inr ⟨arrival.2, stored, created, ?_⟩)
          · rfl
          · rfl
          · simp only [stored, BarrierSession.update]
        · exact (receivers rfl).mpr none
    | alone single first created absent next =>
      have none := List.length_eq_zero_iff.mp first
      simp only [BarrierSession.settle, left]
      refine seated.remove_settles idle ?_ ?_ (by omega) next created.ge (.inl ⟨none, rfl⟩) <;> rfl

end Steps

theorem step_moves {session after : BarrierSession ι κ τ} (seated : Seated session) {action : BarrierAction ι}
    (stepped : session.step outcome action = some after) : Move outcome session action after := by
  cases action with
  | compute participant =>
    simp only [BarrierSession.step] at stepped
    split at stepped
    next function rest idle script =>
      cases stepped
      exact compute_moves seated idle script
    next => cases stepped
  | receive participant =>
    simp only [BarrierSession.step] at stepped
    split at stepped
    next round channel waiting =>
      obtain ⟨value, sent, rfl⟩ := Option.map_eq_some_iff.mp stepped
      exact .receive waiting sent
    next => cases stepped
  | remove participant =>
    simp only [BarrierSession.step] at stepped
    split at stepped
    next idle _ =>
      cases stepped
      exact remove_moves seated idle
    next => cases stepped

end DatafusionRay.Proofs.Barrier
