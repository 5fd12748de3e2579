import DatafusionRay.Foundation.FiniteMap
import DatafusionRay.Proofs.StreamMoves

/-! How the streams of a nested operator flow through its store as long as no take is
polled before its stream was inserted: what was inserted and what is still due make
up all producers, and what was taken and what is still asked for all consumers. -/

namespace DatafusionRay.Proofs.StreamDelivery
open Streaming Foundation

variable {ν : Type}

def producers (nested : NestedOperator (GraphOperator ν)) : List String :=
  nested.inputs.map Prod.snd ++ nested.operators.flatMap fun operator => operator.outputIds.map Prod.snd

def consumers (nested : NestedOperator (GraphOperator ν)) : List String :=
  (nested.operators.flatMap fun operator => operator.inputIds.map Prod.snd) ++ nested.outputs.map Prod.snd

/-- Each stream has one producer and one consumer, and each operator returns one
stream for each of its outputs when it is given one for each of its inputs. -/
structure Wired (nested : NestedOperator (GraphOperator ν)) (external : List (Nat × ν)) : Prop where
  produced : (producers nested).Nodup
  consumed : (consumers nested).Nodup
  matched : ∀ streamId, streamId ∈ producers nested ↔ streamId ∈ consumers nested
  inputs : (nested.inputs.map Prod.fst).Nodup
  external : (external.map Prod.fst).Perm (nested.inputs.map Prod.fst)
  outputs : ∀ operator ∈ nested.operators, (operator.outputIds.map Prod.fst).Nodup
  runs : ∀ operator ∈ nested.operators, ∀ received, (received.map Prod.fst).Perm (operator.inputIds.map Prod.fst) →
    ∃ outputs, operator.run received = .ok outputs ∧ (outputs.map Prod.fst).Perm (operator.outputIds.map Prod.fst)

/-- The takes of an operator that wait for their entry. -/
def waitingBy : GraphOperator ν × OperatorPhase ν → List (Nat × String)
  | (_, .taking takes) => takes.waiting
  | (_, .inserting _) => []

def waiting (state : NestedRun ν) : List (Nat × String) := state.operators.flatMap waitingBy ++ state.outputs.waiting

/-- An operator's take is polled only when its stream is in the store. -/
def Ready (state : NestedRun ν) : NestedAction → Prop
  | .take position input => ∀ operator takes ordinal streamId,
      state.operators[position]? = some (operator, .taking takes) → takes.pending[input]? = some (ordinal, streamId) →
        state.store.lookup streamId ≠ none
  | _ => True

/-- Where streams with these ordinals go. -/
def destinations (streamIds : List (Nat × String)) (streams : List (Nat × ν)) : List String :=
  streams.filterMap fun stream => lookupOrdinal streamIds stream.1

section Destinations
variable {streamIds : List (Nat × String)} {streams : List (Nat × ν)}

private theorem lookupOrdinal_of_mem (distinct : (streamIds.map Prod.fst).Nodup) {entry : Nat × String}
    (member : entry ∈ streamIds) : lookupOrdinal streamIds entry.1 = some entry.2 := by
  refine FiniteMap.lookup_of_mem ?_ (List.mem_reverse.mpr member)
  rwa [List.map_reverse, List.nodup_reverse]

private theorem destinations_perm (distinct : (streamIds.map Prod.fst).Nodup)
    (same : (streams.map Prod.fst).Perm (streamIds.map Prod.fst)) :
    (destinations streamIds streams).Perm (streamIds.map Prod.snd) := by
  have reached := same.filterMap (lookupOrdinal streamIds)
  rw [List.filterMap_map, List.filterMap_map] at reached
  refine reached.trans (.of_eq ?_)
  rw [← List.filterMap_eq_map]
  exact List.filterMap_congr fun entry member => lookupOrdinal_of_mem distinct member

private theorem destinations_known (distinct : (streamIds.map Prod.fst).Nodup)
    (same : (streams.map Prod.fst).Perm (streamIds.map Prod.fst)) {stream : Nat × ν} (member : stream ∈ streams) :
    lookupOrdinal streamIds stream.1 ≠ none := by
  obtain ⟨entry, inside, ordinal⟩ := List.mem_map.mp (same.mem_iff.mp (List.mem_map_of_mem member))
  rw [← ordinal, lookupOrdinal_of_mem distinct inside]
  exact Option.some_ne_none _

end Destinations

/-- The streams an operator has yet to insert. -/
def dueBy : GraphOperator ν × OperatorPhase ν → List String
  | (operator, .taking _) => operator.outputIds.map Prod.snd
  | (operator, .inserting outputs) => destinations operator.outputIds outputs

/-- The streams an operator has yet to take. -/
def askedBy : GraphOperator ν × OperatorPhase ν → List String
  | (_, .taking takes) => takes.pending.map Prod.snd
  | (_, .inserting _) => []

def due (nested : NestedOperator (GraphOperator ν)) (state : NestedRun ν) : List String :=
  destinations nested.inputs state.external ++ state.operators.flatMap dueBy

def asked (state : NestedRun ν) : List String :=
  state.operators.flatMap askedBy ++ state.outputs.pending.map Prod.snd

/-- An operator has taken or will take each of its inputs, and knows where its outputs go. -/
def Proper : GraphOperator ν × OperatorPhase ν → Prop
  | (operator, .taking takes) =>
    takes.pending ⊆ operator.inputIds ∧
      (takes.received.map Prod.fst ++ takes.pending.map Prod.fst).Perm (operator.inputIds.map Prod.fst)
  | (operator, .inserting outputs) => ∀ stream ∈ outputs, lookupOrdinal operator.outputIds stream.1 ≠ none

/-- What the store says about a stream. -/
def Recorded (state : NestedRun ν) (streamId : String) : Prop :=
  match state.store.lookup streamId with
  | none => streamId ∉ state.inserted.map Prod.fst
  | some .waiting => False
  | some (.stored none) => streamId ∈ state.taken.map Prod.fst
  | some (.stored (some value)) => (streamId, value) ∈ state.inserted ∧ streamId ∉ state.taken.map Prod.fst

/-- What holds as long as no take is polled too early. -/
structure Flowing (nested : NestedOperator (GraphOperator ν)) (state : NestedRun ν) : Prop where
  failure : state.failure = none
  operators : state.operators.map Prod.fst = nested.operators
  waiting : waiting state = []
  known : ∀ stream ∈ state.external, lookupOrdinal nested.inputs stream.1 ≠ none
  proper : ∀ entry ∈ state.operators, Proper entry
  inserted : (state.inserted.map Prod.fst ++ due nested state).Perm (producers nested)
  taken : (state.taken.map Prod.fst ++ asked state).Perm (consumers nested)
  matched : state.taken ⊆ state.inserted
  recorded : ∀ streamId, Recorded state streamId

section Flow
variable {nested : NestedOperator (GraphOperator ν)} {external : List (Nat × ν)} {state next : NestedRun ν}
  {action : NestedAction}
  {streamId : String} {value : ν}

theorem flowing_start (wired : Wired nested external) : Flowing nested (NestedRun.start nested external) where
  failure := rfl
  operators := by simp [NestedRun.start, Function.comp_def]
  waiting := by simp [StreamDelivery.waiting, NestedRun.start, waitingBy]
  known _ member := destinations_known wired.inputs wired.external member
  proper := by simp [NestedRun.start, Proper]
  inserted := by
    have reached := destinations_perm wired.inputs wired.external
    simpa [NestedRun.start, due, producers, List.flatMap_map, dueBy] using reached.append_right _
  taken := by simp [NestedRun.start, asked, consumers, List.flatMap_map, askedBy]
  matched := List.nil_subset _
  recorded streamId := by simp [Recorded, NestedRun.start]

theorem Sends.due (sends : Sends nested state action streamId value next) :
    (due nested state).Perm (streamId :: due nested next) := by
  cases sends with
  | input next known => simp [StreamDelivery.due, destinations, next, known]
  | output _ next known =>
    simp only [StreamDelivery.due, next, List.flatMap_append, List.flatMap_cons, dueBy, destinations,
      List.filterMap_cons, known, List.cons_append]
    exact (List.perm_middle.append_left _).trans List.perm_middle

theorem Sends.asked (sends : Sends nested state action streamId value next) : asked next = asked state := by
  cases sends with
  | input _ _ => rfl
  | output _ next _ => simp [StreamDelivery.asked, next, askedBy]

theorem Sends.waiting (sends : Sends nested state action streamId value next) : waiting next = waiting state := by
  cases sends with
  | input _ _ => rfl
  | output _ next _ => simp [StreamDelivery.waiting, next, waitingBy]

theorem Sends.operators (sends : Sends nested state action streamId value next) :
    next.operators.map Prod.fst = state.operators.map Prod.fst := by
  cases sends with
  | input _ _ => rfl
  | output _ next _ => simp [next]

theorem Sends.fields (sends : Sends nested state action streamId value next) :
    next.failure = state.failure ∧ next.taken = state.taken ∧ next.external ⊆ state.external := by
  cases sends with
  | input next _ => exact ⟨rfl, rfl, next ▸ List.subset_cons_self _ _⟩
  | output _ _ _ => exact ⟨rfl, rfl, List.Subset.refl _⟩

private theorem proper_replace {operators front back : List (GraphOperator ν × OperatorPhase ν)}
    {entry changed : GraphOperator ν × OperatorPhase ν} (split : operators = front ++ entry :: back)
    (proper : ∀ other ∈ operators, Proper other) (kept : Proper entry → Proper changed) :
    ∀ other ∈ front ++ changed :: back, Proper other := by
  subst split
  rw [List.forall_mem_append, List.forall_mem_cons] at proper ⊢
  exact ⟨proper.1, kept proper.2.1, proper.2.2⟩

theorem Sends.proper (sends : Sends nested state action streamId value next)
    (proper : ∀ entry ∈ state.operators, Proper entry) : ∀ entry ∈ next.operators, Proper entry := by
  cases sends with
  | input _ _ => exact proper
  | output _ next _ => exact proper_replace next proper fun known => (List.forall_mem_cons.mp known).2

/-- The record of a stream depends on its own entry and its own values only. -/
private theorem recorded_kept (old : Recorded state streamId) (store : next.store.lookup streamId = state.store.lookup streamId)
    (inserted : ∀ value, (streamId, value) ∈ next.inserted ↔ (streamId, value) ∈ state.inserted)
    (taken : streamId ∈ next.taken.map Prod.fst ↔ streamId ∈ state.taken.map Prod.fst) : Recorded next streamId := by
  have keys : streamId ∈ next.inserted.map Prod.fst ↔ streamId ∈ state.inserted.map Prod.fst := by
    simp only [List.mem_map, Prod.exists, exists_and_right, exists_eq_right, inserted]
  unfold Recorded at old ⊢
  rw [store]
  split at old
  · exact fun member => old (keys.mp member)
  · exact old
  · exact taken.mpr old
  · next value _ => exact ⟨(inserted value).mpr old.1, fun member => old.2 (taken.mp member)⟩

theorem Flowing.sent (flowing : Flowing nested state) (sends : Sends nested state action streamId value next)
    (vacant : state.store.lookup streamId = none) :
    Flowing nested { next with
      store := AList.insert streamId (.stored (some value)) state.store
      inserted := state.inserted ++ [(streamId, value)] } := by
  obtain ⟨failure, taken, external⟩ := sends.fields
  have fresh := flowing.recorded streamId
  rw [Recorded, vacant] at fresh
  refine ⟨failure.trans flowing.failure, sends.operators.trans flowing.operators, sends.waiting.trans flowing.waiting,
    fun stream member => flowing.known stream (external member), sends.proper flowing.proper, ?_, ?_, ?_,
    fun other => ?_⟩
  · have moved := sends.due.append_left (state.inserted.map Prod.fst)
    simpa [StreamDelivery.due] using moved.symm.trans flowing.inserted
  · exact (taken ▸ sends.asked ▸ flowing.taken :)
  · exact fun entry member => List.mem_append_left _ (flowing.matched (taken ▸ member))
  · by_cases same : other = streamId
    · subst same
      rw [Recorded, AList.lookup_insert]
      refine ⟨List.mem_append_right _ List.mem_cons_self, fun member => fresh ?_⟩
      exact List.map_subset _ flowing.matched (taken ▸ member)
    · exact recorded_kept (flowing.recorded other) (AList.lookup_insert_ne same) (by simp [same]) (by rw [taken])

section Ask
variable {position : Nat} {takes polled : Takes ν} {resume : Takes ν → NestedRun ν}

theorem Asks.fields (asks : Asks state action position takes resume) (polled : Takes ν) :
    (resume polled).failure = state.failure ∧ (resume polled).inserted = state.inserted ∧
      (resume polled).external = state.external ∧
      (resume polled).operators.map Prod.fst = state.operators.map Prod.fst := by
  cases asks with
  | input _ asker => simp [asker]
  | output _ _ => exact ⟨rfl, rfl, rfl, rfl⟩

theorem Asks.due (asks : Asks state action position takes resume) (nested : NestedOperator (GraphOperator ν)) (polled : Takes ν) :
    due nested (resume polled) = due nested state := by
  cases asks with
  | input _ asker => simp [StreamDelivery.due, asker, dueBy]
  | output _ _ => rfl

theorem Asks.waiting (asks : Asks state action position takes resume) (same : polled.waiting = takes.waiting) :
    waiting (resume polled) = waiting state := by
  cases asks with
  | input _ asker => simp [StreamDelivery.waiting, asker, waitingBy, same]
  | output _ _ => simp [StreamDelivery.waiting, same]

theorem Asks.asked (asks : Asks state action position takes resume) {ordinal : Nat} {front back : List (Nat × String)}
    (due : takes.pending = front ++ (ordinal, streamId) :: back) (left : polled.pending = front ++ back) :
    (asked state).Perm (streamId :: asked (resume polled)) := by
  cases asks with
  | input _ asker =>
    simp only [StreamDelivery.asked, asker, askedBy, due, left, List.flatMap_append, List.flatMap_cons, List.map_append,
      List.map_cons, List.append_assoc, List.cons_append]
    exact (List.perm_middle.append_left _).trans List.perm_middle
  | output _ _ =>
    simp only [StreamDelivery.asked, due, left, List.map_append, List.map_cons]
    exact (List.perm_middle.append_left _).trans List.perm_middle

theorem Asks.mem_asked (asks : Asks state action position takes resume) {ordinal : Nat} {front back : List (Nat × String)}
    (due : takes.pending = front ++ (ordinal, streamId) :: back) : streamId ∈ StreamDelivery.asked state :=
  (@Asks.asked _ _ _ _ _ _ ⟨front ++ back, [], []⟩ _ asks _ _ _ due rfl).mem_iff.mpr List.mem_cons_self

theorem Asks.proper (asks : Asks state action position takes resume)
    (left : polled.pending ⊆ takes.pending)
    (same : (polled.received.map Prod.fst ++ polled.pending.map Prod.fst).Perm
      (takes.received.map Prod.fst ++ takes.pending.map Prod.fst))
    (proper : ∀ entry ∈ state.operators, Proper entry) : ∀ entry ∈ (resume polled).operators, Proper entry := by
  cases asks with
  | input _ asker => exact proper_replace asker proper fun old => ⟨List.Subset.trans left old.1, same.trans old.2⟩
  | output _ _ => exact proper

theorem Flowing.received (flowing : Flowing nested state) {ordinal : Nat}
    {front back : List (Nat × String)} (asks : Asks state action front.length takes resume)
    (due : takes.pending = front ++ (ordinal, streamId) :: back)
    (present : state.store.lookup streamId = some (.stored (some value))) (left : polled.pending = front ++ back)
    (waits : polled.waiting = takes.waiting) (gained : polled.received = takes.received ++ [(ordinal, value)]) :
    Flowing nested { resume polled with
      store := AList.insert streamId (.stored none) state.store
      taken := state.taken ++ [(streamId, value)] } := by
  obtain ⟨failure, inserted, external, operators⟩ := asks.fields polled
  have stored := flowing.recorded streamId
  rw [Recorded, present] at stored
  refine ⟨failure.trans flowing.failure, operators.trans flowing.operators, (asks.waiting waits).trans flowing.waiting,
    fun stream member => flowing.known stream (external ▸ member), asks.proper ?_ ?_ flowing.proper, ?_, ?_, ?_,
    fun other => ?_⟩
  · simp [due, left]
  · simp only [due, left, gained, List.map_append, List.map_cons, List.map_nil, List.append_assoc,
      List.singleton_append]
    exact List.perm_middle.symm.append_left _
  · have kept := flowing.inserted
    rwa [← asks.due nested polled, ← inserted] at kept
  · have moved := (asks.asked due left).append_left (state.taken.map Prod.fst)
    simpa [StreamDelivery.asked] using moved.symm.trans flowing.taken
  · intro entry member
    rw [inserted]
    rcases List.mem_append.mp member with old | new
    · exact flowing.matched old
    · cases List.mem_singleton.mp new
      exact stored.1
  · by_cases same : other = streamId
    · subst same
      rw [Recorded, AList.lookup_insert]
      simp
    · exact recorded_kept (flowing.recorded other) (AList.lookup_insert_ne same) (by simp [inserted]) (by simp [same])

end Ask

theorem Flowing.member (flowing : Flowing nested state) {entry : GraphOperator ν × OperatorPhase ν}
    (inside : entry ∈ state.operators) : entry.1 ∈ nested.operators := by
  rw [← flowing.operators]
  exact List.mem_map_of_mem inside

section Start
variable {front back : List (GraphOperator ν × OperatorPhase ν)} {operator : GraphOperator ν}
  {received outputs : List (Nat × ν)}

theorem Flowing.runs (wired : Wired nested external) (flowing : Flowing nested state)
    (entry : (operator, .taking ⟨[], [], received⟩) ∈ state.operators) :
    ∃ outputs, operator.run received = .ok outputs ∧
      (outputs.map Prod.fst).Perm (operator.outputIds.map Prod.fst) := by
  have complete := (flowing.proper _ entry).2
  rw [List.map_nil, List.append_nil] at complete
  exact wired.runs operator (flowing.member entry) received complete

theorem Flowing.started (wired : Wired nested external) (flowing : Flowing nested state)
    (ready : state.operators = front ++ (operator, .taking ⟨[], [], received⟩) :: back)
    (ran : operator.run received = .ok outputs) :
    Flowing nested { state with operators := front ++ (operator, .inserting outputs) :: back } := by
  have entry := mem_of_split ready
  obtain ⟨results, same, ordinals⟩ := flowing.runs wired entry
  cases ran.symm.trans same
  have distinct := wired.outputs operator (flowing.member entry)
  have reached := destinations_perm distinct ordinals
  obtain ⟨failure, operators, waiting, known, proper, inserted, taken, matched, recorded⟩ := flowing
  refine ⟨failure, ?_, ?_, known, proper_replace ready proper ?_, ?_, ?_, matched, recorded⟩
  · simpa [ready] using operators
  · simpa [StreamDelivery.waiting, ready, waitingBy] using waiting
  · exact fun _ stream => destinations_known distinct ordinals
  · simp only [due, ready, List.flatMap_append, List.flatMap_cons, dueBy] at inserted ⊢
    refine (List.Perm.append_left _ (List.Perm.append_left _ (List.Perm.append_left _ ?_))).trans inserted
    exact reached.append_right _
  · simpa [asked, ready, askedBy] using taken

end Start

/-- A stream that is still to be inserted is not in the store. -/
theorem Flowing.vacant (wired : Wired nested external) (flowing : Flowing nested state)
    (later : streamId ∈ due nested state) : state.store.lookup streamId = none := by
  have distinct := flowing.inserted.nodup_iff.mpr wired.produced
  have fresh : streamId ∉ state.inserted.map Prod.fst := fun old => List.disjoint_of_nodup_append distinct old later
  have record := flowing.recorded streamId
  unfold Recorded at record
  split at record
  case h_1 vacant => exact vacant
  case h_2 => exact False.elim record
  case h_3 => exact absurd (List.map_subset _ flowing.matched record) fresh
  case h_4 value _ => exact absurd (List.mem_map_of_mem record.1) fresh

/-- A stream that is still to be taken is in the store once it was inserted. -/
theorem Flowing.present (wired : Wired nested external) (flowing : Flowing nested state)
    (later : streamId ∈ asked state) {item : StoreItem ν} (held : state.store.lookup streamId = some item) :
    ∃ value, item = .stored (some value) := by
  have distinct := flowing.taken.nodup_iff.mpr wired.consumed
  have record := flowing.recorded streamId
  rw [Recorded, held] at record
  match item, record with
  | .waiting, record => exact False.elim record
  | .stored none, record => exact False.elim (List.disjoint_of_nodup_append distinct record later)
  | .stored (some value), _ => exact ⟨value, rfl⟩

theorem due_finished (started : state.external = []) (finished : ∀ entry ∈ state.operators, entry.2.Finished) :
    due nested state = [] := by
  rw [due, started, List.append_eq_nil_iff, List.flatMap_eq_nil_iff]
  refine ⟨rfl, fun entry member => ?_⟩
  match entry, finished entry member with
  | (operator, .inserting []), _ => rfl

theorem asked_finished (finished : ∀ entry ∈ state.operators, entry.2.Finished)
    (done : state.outputs.pending = []) : asked state = [] := by
  rw [asked, done, List.append_eq_nil_iff, List.flatMap_eq_nil_iff]
  refine ⟨fun entry member => ?_, rfl⟩
  match entry, finished entry member with
  | (operator, .inserting []), _ => rfl

/-- Every stream is in the store once the operators are finished. -/
theorem Flowing.outputs_present (wired : Wired nested external) (flowing : Flowing nested state)
    (started : state.external = []) (finished : ∀ entry ∈ state.operators, entry.2.Finished)
    (later : streamId ∈ asked state) : state.store.lookup streamId ≠ none := by
  have consumed := flowing.taken.mem_iff.mp (List.mem_append_right _ later)
  have inserted := flowing.inserted.mem_iff.mpr ((wired.matched streamId).mpr consumed)
  rw [due_finished started finished, List.append_nil] at inserted
  intro vacant
  have record := flowing.recorded streamId
  rw [Recorded, vacant] at record
  exact record inserted

theorem step_flowing (wired : Wired nested external) (before : NestedRun ν) (action : NestedAction)
    (after : NestedRun ν) (stepped : before.step nested action = some after) (ready : Ready before action)
    (flowing : Flowing nested before) : Flowing nested after := by
  obtain ⟨_, move⟩ := step_moves stepped
  cases move with
  | sent sends vacant => exact flowing.sent sends vacant
  | received asks due present => exact flowing.received asks due present rfl rfl rfl
  | started entry ran => exact flowing.started wired entry ran
  | occupied sends taken _ =>
    exact absurd (flowing.vacant wired (sends.due.mem_iff.mpr List.mem_cons_self)) taken
  | unknownInput next unknown _ => exact absurd unknown (flowing.known _ (next ▸ List.mem_cons_self))
  | unknownOutput next unknown _ =>
    exact absurd unknown (flowing.proper _ (mem_of_split next) _ List.mem_cons_self)
  | reserved asks due vacant =>
    have later := asks.mem_asked due
    cases asks with
    | input _ asker =>
      exact absurd vacant (ready _ _ _ _ (getElem?_of_split asker) (getElem?_of_split due))
    -- The outputs of the nested operator are polled when everything has been inserted.
    | output started finished => exact absurd vacant (flowing.outputs_present wired started finished later)
  | refused asks due present empty _ =>
    obtain ⟨value, same⟩ := flowing.present wired (asks.mem_asked due) present
    exact absurd same (empty value)
  | crashed entry ran _ =>
    obtain ⟨outputs, same, _⟩ := flowing.runs wired (mem_of_split entry)
    cases ran.symm.trans same

end Flow

end DatafusionRay.Proofs.StreamDelivery
