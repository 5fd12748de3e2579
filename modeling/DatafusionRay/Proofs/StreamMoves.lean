import DatafusionRay.Streaming.NestedOperator

/-! What a step of a nested operator can do: a stream goes into the store or out of
it, a take reserves its entry, an operator starts, or the run fails. -/

namespace DatafusionRay.Proofs.StreamDelivery
open Streaming

variable {ν : Type} {nested : NestedOperator (GraphOperator ν)} {state after : NestedRun ν} {action : NestedAction}
  {streamId : String} {value : ν}

/-- The action inserts the value, and the state but for the store goes on as `next`. -/
inductive Sends (nested : NestedOperator (GraphOperator ν)) (state : NestedRun ν) :
    NestedAction → String → ν → NestedRun ν → Prop
  | input {ordinal streamId value rest} (next : state.external = (ordinal, value) :: rest)
      (known : lookupOrdinal nested.inputs ordinal = some streamId) :
      Sends nested state .insertInput streamId value { state with external := rest }
  | output {front back operator ordinal streamId value rest} (started : state.external = [])
      (next : state.operators = front ++ (operator, .inserting ((ordinal, value) :: rest)) :: back)
      (known : lookupOrdinal operator.outputIds ordinal = some streamId) :
      Sends nested state (.insert front.length) streamId value
        { state with operators := front ++ (operator, .inserting rest) :: back }

/-- The action polls a take, and the state but for the store goes on with what becomes of the takes. -/
inductive Asks (state : NestedRun ν) : NestedAction → Nat → Takes ν → (Takes ν → NestedRun ν) → Prop
  | input {front back operator takes position} (started : state.external = [])
      (asker : state.operators = front ++ (operator, .taking takes) :: back) :
      Asks state (.take front.length position) position takes fun takes =>
        { state with operators := front ++ (operator, .taking takes) :: back }
  | output {position} (started : state.external = []) (finished : ∀ entry ∈ state.operators, entry.2.Finished) :
      Asks state (.takeOutput position) position state.outputs fun outputs => { state with outputs }

/-- Everything a step can do. -/
inductive Move (nested : NestedOperator (GraphOperator ν)) (state : NestedRun ν) : NestedAction → NestedRun ν → Prop
  | sent {action streamId value next} (sends : Sends nested state action streamId value next)
      (vacant : state.store.lookup streamId = none) :
      Move nested state action
        { next with
          store := AList.insert streamId (.stored (some value)) state.store
          inserted := state.inserted ++ [(streamId, value)] }
  | occupied {action streamId value next after} (sends : Sends nested state action streamId value next)
      (taken : state.store.lookup streamId ≠ none) (fails : after.failure ≠ none) : Move nested state action after
  | unknownInput {ordinal value rest after} (next : state.external = (ordinal, value) :: rest)
      (unknown : lookupOrdinal nested.inputs ordinal = none) (fails : after.failure ≠ none) :
      Move nested state .insertInput after
  | unknownOutput {front back operator ordinal value rest after}
      (next : state.operators = front ++ (operator, .inserting ((ordinal, value) :: rest)) :: back)
      (unknown : lookupOrdinal operator.outputIds ordinal = none) (fails : after.failure ≠ none) :
      Move nested state (.insert front.length) after
  | received {action front back takes resume ordinal streamId value}
      (asks : Asks state action front.length takes resume)
      (due : takes.pending = front ++ (ordinal, streamId) :: back)
      (present : state.store.lookup streamId = some (.stored (some value))) :
      Move nested state action
        { resume ⟨front ++ back, takes.waiting, takes.received ++ [(ordinal, value)]⟩ with
          store := AList.insert streamId (.stored none) state.store
          taken := state.taken ++ [(streamId, value)] }
  | reserved {action front back takes resume ordinal streamId}
      (asks : Asks state action front.length takes resume)
      (due : takes.pending = front ++ (ordinal, streamId) :: back) (vacant : state.store.lookup streamId = none) :
      Move nested state action
        { resume ⟨front ++ back, takes.waiting ++ [(ordinal, streamId)], takes.received⟩ with
          store := AList.insert streamId .waiting state.store }
  | refused {action front back takes resume ordinal streamId item after}
      (asks : Asks state action front.length takes resume)
      (due : takes.pending = front ++ (ordinal, streamId) :: back)
      (present : state.store.lookup streamId = some item) (empty : ∀ value, item ≠ .stored (some value))
      (fails : after.failure ≠ none) : Move nested state action after
  | started {front back operator received outputs}
      (ready : state.operators = front ++ (operator, .taking ⟨[], [], received⟩) :: back)
      (ran : operator.run received = .ok outputs) :
      Move nested state (.run front.length)
        { state with operators := front ++ (operator, .inserting outputs) :: back }
  | crashed {front back operator received failure after}
      (ready : state.operators = front ++ (operator, .taking ⟨[], [], received⟩) :: back)
      (ran : operator.run received = .error failure) (fails : after.failure ≠ none) :
      Move nested state (.run front.length) after

private theorem split_at {α : Type} {items : List α} {position : Nat} {item : α}
    (found : items[position]? = some item) :
    ∃ front back, items = front ++ item :: back ∧ position = front.length := by
  obtain ⟨inside, rfl⟩ := List.getElem?_eq_some_iff.mp found
  refine ⟨items.take position, items.drop (position + 1), ?_, ?_⟩
  · rw [List.getElem_cons_drop, List.take_append_drop]
  · rw [List.length_take, Nat.min_eq_left (Nat.le_of_lt inside)]

theorem getElem?_of_split {α : Type} {items front back : List α} {item : α} (split : items = front ++ item :: back) :
    items[front.length]? = some item := by
  rw [split, List.getElem?_append_right (Nat.le_refl _), Nat.sub_self, List.getElem?_cons_zero]

theorem mem_of_split {α : Type} {items front back : List α} {item : α} (split : items = front ++ item :: back) :
    item ∈ items := List.mem_of_getElem? (getElem?_of_split split)

private theorem insert_moves {next : NestedRun ν} (sends : Sends nested state action streamId value next)
    (store : next.store = state.store) (inserted : next.inserted = state.inserted) :
    Move nested state action (next.insert streamId value) := by
  rw [NestedRun.insert, Store.insert, store, inserted]
  split
  case h_1 same =>
    split at same
    · cases same
    · next vacant =>
      cases same
      exact .sent sends vacant
  case h_2 same =>
    split at same
    · next taken => exact .occupied sends (by rw [taken]; exact Option.some_ne_none _) (Option.some_ne_none _)
    · cases same

/-- What the first poll of a take can answer. -/
inductive Polled (state : NestedRun ν) (takes : Takes ν) : Nat → NestedRun ν → Takes ν → Prop
  | received {front back ordinal streamId value} (due : takes.pending = front ++ (ordinal, streamId) :: back)
      (present : state.store.lookup streamId = some (.stored (some value))) :
      Polled state takes front.length
        { state with
          store := AList.insert streamId (.stored none) state.store
          taken := state.taken ++ [(streamId, value)] }
        ⟨front ++ back, takes.waiting, takes.received ++ [(ordinal, value)]⟩
  | reserved {front back ordinal streamId} (due : takes.pending = front ++ (ordinal, streamId) :: back)
      (vacant : state.store.lookup streamId = none) :
      Polled state takes front.length { state with store := AList.insert streamId .waiting state.store }
        ⟨front ++ back, takes.waiting ++ [(ordinal, streamId)], takes.received⟩
  | refused {front back ordinal streamId item next polled} (due : takes.pending = front ++ (ordinal, streamId) :: back)
      (present : state.store.lookup streamId = some item) (empty : ∀ value, item ≠ .stored (some value))
      (fails : next.failure ≠ none) : Polled state takes front.length next polled

private theorem poll_answers {position : Nat} {takes polled : Takes ν} {next : NestedRun ν}
    (polls : state.poll takes position = some (next, polled)) : Polled state takes position next polled := by
  obtain ⟨⟨ordinal, streamId⟩, found, same⟩ := Option.map_eq_some_iff.mp polls
  obtain ⟨front, back, due, rfl⟩ := split_at found
  have erased : takes.pending.eraseIdx front.length = front ++ back := by
    rw [due, List.eraseIdx_append_of_length_le (Nat.le_refl _), Nat.sub_self, List.eraseIdx_cons_zero]
  simp only [Store.take, erased] at same
  cases held : state.store.lookup streamId with
  | none =>
    simp only [held] at same
    cases same
    exact .reserved due held
  | some item =>
    cases item with
    | waiting =>
      simp only [held] at same
      cases same
      exact .refused due held nofun (Option.some_ne_none _)
    | stored content =>
      cases content with
      | none =>
        simp only [held] at same
        cases same
        exact .refused due held nofun (Option.some_ne_none _)
      | some value =>
        simp only [held] at same
        cases same
        exact .received due held

section Operator
variable {front back : List (GraphOperator ν × OperatorPhase ν)} {operator : GraphOperator ν} {phase : OperatorPhase ν}

private theorem set_entry (entry : state.operators = front ++ (operator, phase) :: back) (other : OperatorPhase ν) :
    state.operators.set front.length (operator, other) = front ++ (operator, other) :: back := by
  rw [entry, List.set_append_right _ _ (Nat.le_refl _), Nat.sub_self, List.set_cons_zero]

private theorem take_moves {input : Nat} (started : state.external = [])
    (entry : state.operators = front ++ (operator, phase) :: back)
    (stepped : state.operatorStep front.length operator phase (.take front.length input) = some after) :
    Move nested state (.take front.length input) after := by
  cases phase with
  | inserting outputs => cases outputs <;> cases stepped
  | taking takes =>
    obtain ⟨⟨next, polled⟩, polls, rfl⟩ := Option.map_eq_some_iff.mp stepped
    have answer := poll_answers polls
    cases answer with
    | received due present =>
      have move : Move nested state _ _ := .received (.input started entry) due present
      rwa [← set_entry entry] at move
    | reserved due vacant =>
      have move : Move nested state _ _ := .reserved (.input started entry) due vacant
      rwa [← set_entry entry] at move
    | refused due present empty fails => exact .refused (.input started entry) due present empty fails

private theorem run_moves (entry : state.operators = front ++ (operator, phase) :: back)
    (stepped : state.operatorStep front.length operator phase (.run front.length) = some after) :
    Move nested state (.run front.length) after := by
  match phase, stepped with
  | .inserting [], stepped | .inserting (_ :: _), stepped => cases stepped
  | .taking ⟨_ :: _, _, _⟩, stepped | .taking ⟨[], _ :: _, _⟩, stepped => cases stepped
  | .taking ⟨[], [], received⟩, stepped =>
    rw [NestedRun.operatorStep] at stepped
    split at stepped
    · next outputs ran =>
      cases stepped
      rw [NestedRun.setPhase, set_entry entry]
      exact .started entry ran
    · next failure ran =>
      cases stepped
      exact .crashed entry ran (Option.some_ne_none _)

private theorem insert_output_moves (started : state.external = [])
    (entry : state.operators = front ++ (operator, phase) :: back)
    (stepped : state.operatorStep front.length operator phase (.insert front.length) = some after) :
    Move nested state (.insert front.length) after := by
  match phase, stepped with
  | .taking _, stepped | .inserting [], stepped => cases stepped
  | .inserting ((ordinal, value) :: rest), stepped =>
    rw [NestedRun.operatorStep] at stepped
    split at stepped
    · next streamId known =>
      cases stepped
      rw [NestedRun.setPhase, set_entry entry]
      exact insert_moves (.output started entry known) rfl rfl
    · next unknown =>
      cases stepped
      exact .unknownOutput entry unknown (Option.some_ne_none _)

end Operator

private theorem insertInput_moves (stepped : state.insertInput nested = some after) :
    Move nested state .insertInput after := by
  unfold NestedRun.insertInput at stepped
  split at stepped
  · cases stepped
  · next ordinal value rest next =>
    split at stepped
    · next streamId known =>
      cases stepped
      exact insert_moves (.input next known) rfl rfl
    · next unknown =>
      cases stepped
      exact .unknownInput next unknown (Option.some_ne_none _)

private theorem operatorStep_of_step {position : Nat}
    (stepped : (if state.external.isEmpty then
      state.operators[position]?.bind fun (operator, phase) => state.operatorStep position operator phase action
      else none) = some after) :
    state.external = [] ∧ ∃ front back operator phase, state.operators = front ++ (operator, phase) :: back ∧
      position = front.length ∧ state.operatorStep position operator phase action = some after := by
  split at stepped
  · next started =>
    obtain ⟨⟨operator, phase⟩, found, acts⟩ := Option.bind_eq_some_iff.mp stepped
    obtain ⟨front, back, entry, place⟩ := split_at found
    exact ⟨List.isEmpty_iff.mp started, front, back, operator, phase, entry, place, acts⟩
  · cases stepped

/-- A step is one of the moves. -/
theorem step_moves (stepped : state.step nested action = some after) :
    state.failure = none ∧ Move nested state action after := by
  unfold NestedRun.step at stepped
  split at stepped
  · cases stepped
  · next running =>
    refine ⟨Option.not_isSome_iff_eq_none.mp running, ?_⟩
    cases action with
    | insertInput => exact insertInput_moves stepped
    | take position input =>
      obtain ⟨started, front, back, operator, phase, entry, rfl, acts⟩ := operatorStep_of_step stepped
      exact take_moves started entry acts
    | run position =>
      obtain ⟨_, front, back, operator, phase, entry, rfl, acts⟩ := operatorStep_of_step stepped
      exact run_moves entry acts
    | insert position =>
      obtain ⟨started, front, back, operator, phase, entry, rfl, acts⟩ := operatorStep_of_step stepped
      exact insert_output_moves started entry acts
    | takeOutput position =>
      dsimp only at stepped
      split at stepped
      · next finished =>
        obtain ⟨⟨next, polled⟩, polls, rfl⟩ := Option.map_eq_some_iff.mp stepped
        have asks : Asks state (.takeOutput position) position state.outputs _ :=
          .output (List.isEmpty_iff.mp finished.1) finished.2
        cases poll_answers polls with
        | received due present => exact .received asks due present
        | reserved due vacant => exact .reserved asks due vacant
        | refused due present empty fails => exact .refused asks due present empty fails
      · cases stepped

end DatafusionRay.Proofs.StreamDelivery
