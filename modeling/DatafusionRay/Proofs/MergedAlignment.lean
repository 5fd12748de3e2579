import DatafusionRay.Foundation.Execution
import DatafusionRay.Foundation.FiniteMap
import DatafusionRay.Streaming.MergedStream

/-! The merge of inputs that carry the same markers, over every shuffle and every pattern
of pending inputs. Read with one input's batches only, the output is that input. -/

namespace DatafusionRay.Proofs.MergedAlignment
open Streaming Foundation FiniteMap MergedActionStream

variable {ρ : Type}

/-- An item of the output with the position of the input it comes from. -/
inductive Emitted (ρ : Type) where
  | marker (marker : Marker)
  | recordBatch (position : Nat) (batch : RecordBatch ρ)

def markersOf (items : List (StreamItem ρ)) : List Marker :=
  items.filterMap fun
    | .marker marker => some marker
    | .recordBatch _ => none

/-- What was put out, as one of the inputs sees it: its own batches and the markers. -/
def part (position : Nat) (emitted : List (Emitted ρ)) : List (StreamItem ρ) :=
  emitted.filterMap fun
    | .marker marker => some (.marker marker)
    | .recordBatch origin batch => if origin = position then some (.recordBatch batch) else none

def emittedMarkers (emitted : List (Emitted ρ)) : List Marker :=
  emitted.filterMap fun
    | .marker marker => some marker
    | .recordBatch _ _ => none

section Inputs
variable (inputs : List (Nat × List (StreamItem ρ)))

/-- A batch is put out with the ordinal of its input. -/
inductive Tagged : Emitted ρ → OrdinalStreamResult ρ → Prop
  | marker (marker : Marker) : Tagged (.marker marker) (.ok (.marker marker))
  | recordBatch {position ordinal : Nat} {items : List (StreamItem ρ)} (batch : RecordBatch ρ)
      (given : inputs[position]? = some (ordinal, items)) :
      Tagged (.recordBatch position batch) (.ok (.recordBatch ordinal batch))

/-- Every input sees a leading part of its items. -/
def Follows (emitted : List (Emitted ρ)) : Prop :=
  ∀ (position ordinal : Nat) items, inputs[position]? = some (ordinal, items) → part position emitted <+: items

/-- Every input sees all of its items. -/
def Complete (emitted : List (Emitted ρ)) : Prop :=
  ∀ (position ordinal : Nat) items, inputs[position]? = some (ordinal, items) → part position emitted = items

end Inputs

section Parts
variable (position : Nat) (emitted : List (Emitted ρ))

private theorem part_append (more : List (Emitted ρ)) :
    part position (emitted ++ more) = part position emitted ++ part position more := List.filterMap_append

private theorem part_marker (marker : Marker) :
    part position (emitted ++ [.marker marker]) = part position emitted ++ [.marker marker] := part_append _ _ _

private theorem part_own (batch : RecordBatch ρ) :
    part position (emitted ++ [.recordBatch position batch]) = part position emitted ++ [.recordBatch batch] := by
  simp [part]

private theorem part_other {origin : Nat} (other : origin ≠ position) (batch : RecordBatch ρ) :
    part position (emitted ++ [.recordBatch origin batch]) = part position emitted := by
  simp [part, other]

private theorem emittedMarkers_append (more : List (Emitted ρ)) :
    emittedMarkers (emitted ++ more) = emittedMarkers emitted ++ emittedMarkers more := List.filterMap_append

private theorem markersOf_part : markersOf (part position emitted) = emittedMarkers emitted := by
  rw [markersOf, part, emittedMarkers, List.filterMap_filterMap]
  apply List.filterMap_congr
  intro item _
  cases item with
  | marker marker => rfl
  | recordBatch origin batch =>
    dsimp only
    split <;> rfl

private theorem markersOf_append (first second : List (StreamItem ρ)) :
    markersOf (first ++ second) = markersOf first ++ markersOf second := List.filterMap_append

end Parts

/-- The marker that a blocked input has already given up. -/
def heldBack (checkpoint : Option Nat) (input : InputStream ρ) : List (StreamItem ρ) :=
  if input.blocked then checkpoint.toList.map fun number => .marker ⟨number⟩ else []

/-- Where an input stands: what was put out of it, the marker it is blocked at, and the rest. -/
structure Stands (checkpoint : Option Nat) (emitted : List (Emitted ρ)) (position ordinal : Nat)
    (items : List (StreamItem ρ)) (input : InputStream ρ) : Prop where
  ordinal : input.ordinal = ordinal
  ended : input.done = true → input.remaining = []
  blocked : input.blocked = true → checkpoint.isSome
  split : ∃ rest, input.remaining = rest.map .ok ∧ items = part position emitted ++ heldBack checkpoint input ++ rest

structure Merging (inputs : List (Nat × List (StreamItem ρ))) (markers : List Marker) (emitted : List (Emitted ρ))
    (merged : MergedActionStream ρ) : Prop where
  size : merged.inputs.length = inputs.length
  same : ∀ (position ordinal : Nat) items, inputs[position]? = some (ordinal, items) → markersOf items = markers
  stands : ∀ (position ordinal : Nat) items input, inputs[position]? = some (ordinal, items) →
    merged.inputs[position]? = some input → Stands merged.currentCheckpoint emitted position ordinal items input
  current : ∀ number, merged.currentCheckpoint = some number → emittedMarkers emitted ++ [⟨number⟩] <+: markers

section Steps
variable {inputs : List (Nat × List (StreamItem ρ))} {markers : List Marker} {emitted : List (Emitted ρ)}
variable {merged : MergedActionStream ρ} {checkpoint : Option Nat} {position ordinal : Nat}
variable {items : List (StreamItem ρ)} {input : InputStream ρ}

private theorem Stands.held (stands : Stands checkpoint emitted position ordinal items input)
    (open_ : input.blocked = false) : ∃ rest, input.remaining = rest.map .ok ∧ items = part position emitted ++ rest := by
  obtain ⟨rest, remaining, split⟩ := stands.split
  refine ⟨rest, remaining, ?_⟩
  simpa [heldBack, open_] using split

/-- A change of one input, with what it puts out and what becomes of the checkpoint. -/
private theorem Merging.update (merging : Merging inputs markers emitted merged) {position : Nat} {input : InputStream ρ}
    {more : List (Emitted ρ)} {checkpoint : Option Nat}
    (own : ∀ (ordinal : Nat) items, inputs[position]? = some (ordinal, items) →
      Stands checkpoint more position ordinal items input)
    (others : ∀ (other ordinal : Nat) items input, other ≠ position → inputs[other]? = some (ordinal, items) →
      Stands merged.currentCheckpoint emitted other ordinal items input → Stands checkpoint more other ordinal items input)
    (current : ∀ number, checkpoint = some number → emittedMarkers more ++ [⟨number⟩] <+: markers) :
    Merging inputs markers more ⟨merged.inputs.set position input, checkpoint⟩ := by
  refine ⟨?_, merging.same, ?_, current⟩
  · rw [List.length_set]
    exact merging.size
  · intro other ordinal items found given held
    rcases getElem?_set_cases held with ⟨rfl, rfl⟩ | ⟨apart, held⟩
    · exact own ordinal items given
    · exact others other ordinal items found apart given (merging.stands other ordinal items found given held)

private theorem Merging.stream_of (merging : Merging inputs markers emitted merged)
    (given : inputs[position]? = some (ordinal, items)) : ∃ input, merged.inputs[position]? = some input := by
  have inside := (List.getElem?_eq_some_iff.mp given).1
  rw [← merging.size] at inside
  exact ⟨_, List.getElem?_eq_getElem inside⟩

private theorem Merging.input_of (merging : Merging inputs markers emitted merged)
    (found : merged.inputs[position]? = some input) : ∃ ordinal items, inputs[position]? = some (ordinal, items) := by
  have inside := (List.getElem?_eq_some_iff.mp found).1
  rw [merging.size] at inside
  exact ⟨_, _, List.getElem?_eq_getElem inside⟩

theorem Merging.follows (merging : Merging inputs markers emitted merged) : Follows inputs emitted := by
  intro position ordinal items given
  obtain ⟨input, found⟩ := merging.stream_of given
  obtain ⟨rest, _, split⟩ := (merging.stands position ordinal items input given found).split
  rw [split, List.append_assoc]
  exact List.prefix_append _ _

private theorem Merging.unchanged (merging : Merging inputs markers emitted merged)
    (found : merged.inputs[position]? = some input) :
    Merging inputs markers emitted (merged.setInput position input) :=
  merging.update (fun ordinal items given => merging.stands position ordinal items input given found)
    (fun _ _ _ _ _ _ stands => stands) merging.current

/-- An input that has answered with its end. -/
private theorem Merging.finish (merging : Merging inputs markers emitted merged) {position : Nat} {input : InputStream ρ}
    (found : merged.inputs[position]? = some input) (empty : input.remaining = []) :
    Merging inputs markers emitted (merged.setInput position { input with done := true }) := by
  refine merging.update (fun ordinal items given => ?_) (fun _ _ _ _ _ _ stands => stands) merging.current
  obtain ⟨tagged, _, blocked, split⟩ := merging.stands position ordinal items input given found
  exact ⟨tagged, fun _ => empty, blocked, split⟩

/-- An input that is not blocked puts out a batch. -/
private theorem Merging.batch (merging : Merging inputs markers emitted merged)
    (given : inputs[position]? = some (ordinal, items)) (found : merged.inputs[position]? = some input)
    (open_ : input.blocked = false) (waiting : input.done = false) {batch : RecordBatch ρ} {later : List (StreamItem ρ)}
    (split : items = part position emitted ++ .recordBatch batch :: later) :
    Merging inputs markers (emitted ++ [.recordBatch position batch])
      (merged.setInput position { input with remaining := later.map .ok }) := by
  refine merging.update (fun _ _ again => ?_) (fun other ordinal items input apart _ stands => ?_) ?_
  · cases given.symm.trans again
    have stands := merging.stands position ordinal items input given found
    refine ⟨stands.ordinal, fun done => absurd done (by simp [waiting]), fun blocked => absurd blocked (by simp [open_]),
      later, rfl, ?_⟩
    rw [part_own, split]
    simp [heldBack, open_]
  · refine ⟨stands.ordinal, stands.ended, stands.blocked, ?_⟩
    rw [part_other other emitted (Ne.symm apart)]
    exact stands.split
  · rw [emittedMarkers_append]
    simpa [emittedMarkers] using merging.current

/-- Two inputs cannot come to different markers. -/
private theorem Merging.next_marker (merging : Merging inputs markers emitted merged)
    (given : inputs[position]? = some (ordinal, items)) {marker : Marker} {later : List (StreamItem ρ)}
    (split : items = part position emitted ++ .marker marker :: later) :
    emittedMarkers emitted ++ [marker] <+: markers := by
  rw [← merging.same position ordinal items given, split, markersOf_append, markersOf_part]
  exact ⟨markersOf later, by simp [markersOf]⟩

/-- An input comes to a marker and is blocked. -/
private theorem Merging.block (merging : Merging inputs markers emitted merged)
    (given : inputs[position]? = some (ordinal, items)) (found : merged.inputs[position]? = some input)
    (waiting : input.done = false) {marker : Marker} {later : List (StreamItem ρ)}
    (split : items = part position emitted ++ .marker marker :: later) :
    Merging inputs markers emitted
      (MergedActionStream.block merged position { input with remaining := later.map .ok } marker) := by
  have next := merging.next_marker given split
  have agreed : merged.currentCheckpoint.getD marker.checkpointNumber = marker.checkpointNumber := by
    cases checkpoint : merged.currentCheckpoint with
    | none => rfl
    | some number =>
      have again := merging.current number checkpoint
      have same := (List.prefix_of_prefix_length_le again next (by simp)).eq_of_length (by simp)
      cases List.append_cancel_left same
      rfl
  rw [MergedActionStream.block, agreed]
  refine merging.update (fun _ _ again => ?_) (fun other ordinal items input apart given stands => ?_) ?_
  · cases given.symm.trans again
    have stands := merging.stands position ordinal items input given found
    refine ⟨stands.ordinal, fun done => absurd done (by simp [waiting]), fun _ => rfl, later, rfl, ?_⟩
    rw [split]
    simp [heldBack]
  · cases checkpoint : merged.currentCheckpoint with
    | none =>
      -- Nothing was blocked before the first marker.
      have open_ : input.blocked = false := by
        apply Bool.eq_false_iff.mpr
        intro blocked
        have set := stands.blocked blocked
        rw [checkpoint] at set
        cases set
      obtain ⟨rest, remaining, rest_eq⟩ := stands.held open_
      exact ⟨stands.ordinal, stands.ended, fun _ => rfl, rest, remaining, by simp [heldBack, open_, rest_eq]⟩
    | some number =>
      rw [checkpoint] at agreed stands
      cases agreed
      exact stands
  · intro number same
    cases same
    exact next

/-- The answers of a poll: nothing yet, the next item, or the end once all is put out. -/
inductive Outcome (inputs : List (Nat × List (StreamItem ρ))) (markers : List Marker) (emitted : List (Emitted ρ)) :
    Poll (Option (OrdinalStreamResult ρ)) × MergedActionStream ρ → Prop
  | pending {merged : MergedActionStream ρ} (merging : Merging inputs markers emitted merged) :
      Outcome inputs markers emitted (.pending, merged)
  | item {merged : MergedActionStream ρ} {entry : Emitted ρ} {item : OrdinalStreamResult ρ}
      (tagged : Tagged inputs entry item) (merging : Merging inputs markers (emitted ++ [entry]) merged) :
      Outcome inputs markers emitted (.ready (some item), merged)
  | ended {merged : MergedActionStream ρ} (merging : Merging inputs markers emitted merged)
      (complete : Complete inputs emitted) : Outcome inputs markers emitted (.ready none, merged)

/-- An input that has ended has passed all markers, so no other is still blocked at one. -/
private theorem Merging.all_blocked (merging : Merging inputs markers emitted merged) {number : Nat}
    (checkpoint : merged.currentCheckpoint = some number)
    (covered : ∀ (position : Nat) input, merged.inputs[position]? = some input → input.blocked = true ∨ input.remaining = [])
    (given : inputs[position]? = some (ordinal, items)) (found : merged.inputs[position]? = some input) :
    input.blocked = true := by
  rcases covered position input found with blocked | empty
  · exact blocked
  · by_contra open_
    obtain ⟨rest, remaining, split⟩ := (merging.stands position ordinal items input given found).held
      (Bool.eq_false_iff.mpr open_)
    rw [empty] at remaining
    obtain rfl := List.map_eq_nil_iff.mp remaining.symm
    have longer := (merging.current number checkpoint).length_le
    rw [← merging.same position ordinal items given, split, List.append_nil, markersOf_part, List.length_append] at longer
    simp at longer

private theorem Merging.release (merging : Merging inputs markers emitted merged) {number : Nat}
    (checkpoint : merged.currentCheckpoint = some number)
    (covered : ∀ (position : Nat) input, merged.inputs[position]? = some input → input.blocked = true ∨ input.remaining = []) :
    Merging inputs markers (emitted ++ [.marker ⟨number⟩])
      ⟨merged.inputs.map fun input => { input with blocked := false }, none⟩ := by
  refine ⟨?_, merging.same, ?_, ?_⟩
  · rw [List.length_map]
    exact merging.size
  · intro position ordinal items released given held
    rw [List.getElem?_map, Option.map_eq_some_iff] at held
    obtain ⟨input, found, rfl⟩ := held
    have stands := merging.stands position ordinal items input given found
    have blocked := merging.all_blocked checkpoint covered given found
    obtain ⟨rest, remaining, split⟩ := stands.split
    refine ⟨stands.ordinal, stands.ended, fun none => absurd none (by simp), rest, remaining, ?_⟩
    rw [part_marker, split]
    simp [heldBack, blocked, checkpoint]
  · intro other impossible
    cases impossible

private theorem Merging.finishPoll (merging : Merging inputs markers emitted merged) {somePending : Bool}
    (covered : ∀ (position : Nat) input, merged.inputs[position]? = some input →
      somePending = true ∨ input.blocked = true ∨ input.remaining = []) :
    Outcome inputs markers emitted (merged.finishPoll somePending) := by
  rw [MergedActionStream.finishPoll]
  cases somePending with
  | true => exact .pending merging
  | false =>
    have covered : ∀ (position : Nat) input, merged.inputs[position]? = some input →
        input.blocked = true ∨ input.remaining = [] := by
      intro position input found
      exact (covered position input found).resolve_left Bool.false_ne_true
    rw [if_neg Bool.false_ne_true]
    split
    next blocked =>
      obtain ⟨input, member, blocked⟩ := List.any_eq_true.mp blocked
      obtain ⟨position, found⟩ := List.mem_iff_getElem?.mp member
      obtain ⟨ordinal, items, given⟩ := merging.input_of found
      obtain ⟨number, checkpoint⟩ := Option.isSome_iff_exists.mp
        ((merging.stands position ordinal items input given found).blocked blocked)
      rw [checkpoint]
      exact .item (.marker ⟨number⟩) (merging.release checkpoint covered)
    next open_ =>
      refine .ended merging fun position ordinal items given => ?_
      obtain ⟨input, found⟩ := merging.stream_of given
      have unblocked : input.blocked = false := by
        apply Bool.eq_false_iff.mpr
        intro blocked
        exact open_ (List.any_eq_true.mpr ⟨input, List.mem_of_getElem? found, blocked⟩)
      have empty := (covered position input found).resolve_left (by simp [unblocked])
      obtain ⟨rest, remaining, split⟩ := (merging.stands position ordinal items input given found).held unblocked
      rw [empty] at remaining
      obtain rfl := List.map_eq_nil_iff.mp remaining.symm
      rw [split, List.append_nil]

/-- A poll of one input: it is pending, has ended, or gives its next item. -/
private theorem pollNext_cases {isPending : Bool} (ended : input.done = true → input.remaining = [])
    {rest : List (StreamItem ρ)} (remaining : input.remaining = rest.map .ok) :
    (isPending = true ∧ input.pollNext isPending = (.pending, input)) ∨
      (rest = [] ∧ input.pollNext isPending = (.ready none, { input with done := true })) ∨
      ∃ item later, rest = item :: later ∧ input.done = false ∧
        input.pollNext isPending = (.ready (some (.ok item)), { input with remaining := later.map .ok }) := by
  rw [InputStream.pollNext]
  cases done : input.done with
  | true =>
    have empty := ended done
    rw [remaining] at empty
    refine .inr (.inl ⟨List.map_eq_nil_iff.mp empty, ?_⟩)
    rw [if_pos rfl, ← done]
  | false =>
    cases isPending with
    | true => exact .inl ⟨rfl, rfl⟩
    | false =>
      cases rest with
      | nil =>
        rw [List.map_nil] at remaining
        rw [remaining]
        exact .inr (.inl ⟨rfl, rfl⟩)
      | cons item later =>
        rw [List.map_cons] at remaining
        rw [remaining]
        exact .inr (.inr ⟨item, later, rfl, rfl, rfl⟩)

/-- What the loop knows while it has some positions to go: they are not blocked, and all
others are blocked or have ended, unless one was pending. -/
structure Looping (merged : MergedActionStream ρ) (somePending : Bool) (order : List Nat) : Prop where
  unblocked : ∀ position ∈ order, ∀ input, merged.inputs[position]? = some input → input.blocked = false
  covered : ∀ (position : Nat) input, merged.inputs[position]? = some input →
    position ∈ order ∨ somePending = true ∨ input.blocked = true ∨ input.remaining = []

private theorem Looping.next {somePending : Bool} {rest : List Nat} (looping : Looping merged somePending (position :: rest))
    (fresh : position ∉ rest) {polled : InputStream ρ} {checkpoint : Option Nat} {stillPending : Bool}
    (kept : somePending = true → stillPending = true)
    (left : stillPending = true ∨ polled.blocked = true ∨ polled.remaining = []) :
    Looping ⟨merged.inputs.set position polled, checkpoint⟩ stillPending rest := by
  constructor
  · intro other member input held
    rcases getElem?_set_cases held with ⟨rfl, _⟩ | ⟨_, held⟩
    · exact absurd member fresh
    · exact looping.unblocked other (List.mem_cons_of_mem _ member) input held
  · intro other input held
    rcases getElem?_set_cases held with ⟨_, rfl⟩ | ⟨apart, held⟩
    · exact .inr left
    · rcases looping.covered other input held with member | pending | stopped
      · exact .inl ((List.mem_cons.mp member).resolve_left apart)
      · exact .inr (.inl (kept pending))
      · exact .inr (.inr stopped)

private theorem Merging.pollInputs {isPending : Nat → Bool} {order : List Nat} (distinct : order.Nodup)
    (merging : Merging inputs markers emitted merged) {somePending : Bool} (looping : Looping merged somePending order) :
    Outcome inputs markers emitted (MergedActionStream.pollInputs isPending merged somePending order) := by
  induction order generalizing merged somePending with
  | nil =>
    apply merging.finishPoll
    intro position input found
    exact (looping.covered position input found).resolve_left List.not_mem_nil
  | cons position rest ih =>
    rw [List.nodup_cons] at distinct
    rw [MergedActionStream.pollInputs]
    cases found : merged.inputs[position]? with
    | none =>
      apply ih distinct.2 merging
      constructor
      · intro other member
        exact looping.unblocked other (List.mem_cons_of_mem _ member)
      · intro other input held
        rcases looping.covered other input held with member | stopped
        · rcases List.mem_cons.mp member with rfl | member
          · cases found.symm.trans held
          · exact .inl member
        · exact .inr stopped
    | some input =>
      obtain ⟨ordinal, items, given⟩ := merging.input_of found
      have stands := merging.stands position ordinal items input given found
      have open_ := looping.unblocked position List.mem_cons_self input found
      obtain ⟨todo, remaining, split⟩ := stands.held open_
      rcases @pollNext_cases _ input (isPending position) stands.ended todo remaining with
        ⟨_, polled⟩ | ⟨rfl, polled⟩ | ⟨item, later, rfl, waiting, polled⟩
      · simp only [polled]
        exact ih distinct.2 (merging.unchanged found) (looping.next distinct.1 (fun _ => rfl) (.inl rfl))
      · simp only [polled]
        exact ih distinct.2 (merging.finish found remaining)
          (looping.next distinct.1 id (.inr (.inr remaining)))
      · cases item with
        | recordBatch batch =>
          have tagged : Tagged inputs (.recordBatch position batch) (.ok (.recordBatch input.ordinal batch)) := by
            rw [stands.ordinal]
            exact .recordBatch batch given
          simp only [polled]
          exact .item tagged (merging.batch given found open_ waiting split)
        | marker marker =>
          simp only [polled]
          exact ih distinct.2 (merging.block given found waiting split)
            (looping.next distinct.1 id (.inr (.inl rfl)))

private theorem mem_unblocked : position ∈ merged.unblocked ↔
    ∃ input, merged.inputs[position]? = some input ∧ input.blocked = false := by
  rw [unblocked, List.mem_filter, List.mem_range]
  constructor
  · intro ⟨inside, open_⟩
    rw [List.getElem?_eq_getElem inside] at open_ ⊢
    exact ⟨_, rfl, by simpa using open_⟩
  · intro ⟨input, found, open_⟩
    exact ⟨(List.getElem?_eq_some_iff.mp found).1, by simp [found, open_]⟩

private theorem Merging.poll (merging : Merging inputs markers emitted merged) {choice : Choice}
    {result : Poll (Option (OrdinalStreamResult ρ)) × MergedActionStream ρ}
    (polled : merged.pollNext choice = some result) : Outcome inputs markers emitted result := by
  rw [pollNext] at polled
  split at polled
  next shuffled =>
    cases polled
    have distinct : choice.order.Nodup := shuffled.nodup_iff.mpr (List.nodup_range.filter _)
    apply merging.pollInputs distinct
    constructor
    · intro position member input found
      obtain ⟨same, held, open_⟩ := mem_unblocked.mp (shuffled.mem_iff.mp member)
      cases found.symm.trans held
      exact open_
    · intro position input found
      cases blocked : input.blocked with
      | true => exact .inr (.inr (.inl rfl))
      | false => exact .inl (shuffled.mem_iff.mpr (mem_unblocked.mpr ⟨input, found, blocked⟩))
  next => cases polled

private theorem pollNext_pending {isPending : Bool} {after : InputStream ρ}
    (answered : input.pollNext isPending = (.pending, after)) : isPending = true := by
  rw [InputStream.pollNext] at answered
  cases isPending with
  | true => rfl
  | false =>
    cases done : input.done <;> cases todo : input.remaining <;> simp [done, todo] at answered

/-- A poll is pending only if one of its inputs is. -/
private theorem pollInputs_pending {isPending : Nat → Bool} {order : List Nat} {somePending : Bool}
    (answered : (MergedActionStream.pollInputs isPending merged somePending order).1 = .pending) :
    somePending = true ∨ ∃ position ∈ order, isPending position = true := by
  induction order generalizing merged somePending with
  | nil =>
    cases somePending with
    | true => exact .inl rfl
    | false =>
      rw [MergedActionStream.pollInputs, MergedActionStream.finishPoll, if_neg Bool.false_ne_true] at answered
      split at answered
      · split at answered <;> cases answered
      · cases answered
  | cons position rest ih =>
    have later : (somePending = true ∨ ∃ other ∈ rest, isPending other = true) →
        somePending = true ∨ ∃ other ∈ position :: rest, isPending other = true := by
      intro earlier
      rcases earlier with pending | ⟨other, member, pending⟩
      · exact .inl pending
      · exact .inr ⟨other, List.mem_cons_of_mem _ member, pending⟩
    rw [MergedActionStream.pollInputs] at answered
    cases found : merged.inputs[position]? with
    | none =>
      rw [found] at answered
      exact later (ih answered)
    | some input =>
      rw [found] at answered
      dsimp only at answered
      split at answered
      next => cases answered
      next => exact later (ih answered)
      next => cases answered
      next polled => exact .inr ⟨position, List.mem_cons_self, pollNext_pending polled⟩
      next => exact later (ih answered)

end Steps

section Runs
variable {inputs : List (Nat × List (StreamItem ρ))} {markers : List Marker}

/-- The inputs as streams that end without an error. -/
def streams (inputs : List (Nat × List (StreamItem ρ))) : List (Nat × List (StreamResult ρ)) :=
  inputs.map fun input => (input.1, input.2.map .ok)

/-- What holds of a run after any number of polls. -/
structure Delivered (inputs : List (Nat × List (StreamItem ρ))) (markers : List Marker) (run : MergedRun ρ)
    (emitted : List (Emitted ρ)) : Prop where
  output : List.Forall₂ (Tagged inputs) emitted run.output
  merging : Merging inputs markers emitted run.stream
  ended : .ready none ∈ run.answers → Complete inputs emitted

private theorem delivered_start (same : ∀ input ∈ inputs, markersOf input.2 = markers) :
    Delivered inputs markers (.start (streams inputs)) [] := by
  refine ⟨.nil, ⟨?_, ?_, ?_, ?_⟩, fun absurd_ => absurd absurd_ List.not_mem_nil⟩
  · simp [MergedRun.start, mergeInputs, streams]
  · intro position ordinal items given
    exact same _ (List.mem_of_getElem? given)
  · intro position ordinal items input given found
    simp only [MergedRun.start, mergeInputs, streams, List.map_map, List.getElem?_map, given, Option.map_some,
      Option.some.injEq, Function.comp_apply] at found
    subst found
    exact ⟨rfl, fun done => absurd done Bool.false_ne_true, fun blocked => absurd blocked Bool.false_ne_true, items, rfl,
      by simp [part, heldBack]⟩
  · intro number set
    cases set

/-- Once all is put out nothing can be added. -/
private theorem Complete.grow {emitted more : List (Emitted ρ)} (complete : Complete inputs emitted)
    (follows : Follows inputs (emitted ++ more)) : Complete inputs (emitted ++ more) := by
  intro position ordinal items given
  have shorter := follows position ordinal items given
  have whole := complete position ordinal items given
  apply shorter.eq_of_length_le
  rw [part_append, ← whole, List.length_append]
  exact Nat.le_add_right _ _

private theorem output_append (stream : MergedActionStream ρ) (answers more : List (Poll (Option (OrdinalStreamResult ρ)))) :
    MergedRun.output ⟨stream, answers ++ more⟩ = MergedRun.output ⟨stream, answers⟩ ++ MergedRun.output ⟨stream, more⟩ :=
  List.filterMap_append

private theorem Delivered.step {run next : MergedRun ρ} {choice : Choice} {emitted : List (Emitted ρ)}
    (delivered : Delivered inputs markers run emitted) (stepped : run.step choice = some next) :
    ∃ more, Delivered inputs markers next more := by
  rw [MergedRun.step, Option.map_eq_some_iff] at stepped
  obtain ⟨⟨answer, stream⟩, polled, rfl⟩ := stepped
  cases delivered.merging.poll polled with
  | pending merging =>
    refine ⟨emitted, ?_, merging, fun ended => delivered.ended ?_⟩
    · rw [output_append]
      simpa [MergedRun.output] using delivered.output
    · simpa using ended
  | @item _ entry item tagged merging =>
    refine ⟨emitted ++ [entry], ?_, merging, fun ended => ?_⟩
    · rw [output_append]
      exact List.rel_append delivered.output (.cons tagged .nil)
    · have earlier : .ready none ∈ run.answers := by simpa using ended
      exact (delivered.ended earlier).grow merging.follows
  | ended merging complete =>
    refine ⟨emitted, ?_, merging, fun _ => complete⟩
    rw [output_append]
    simpa [MergedRun.output] using delivered.output

private theorem delivered_run (same : ∀ input ∈ inputs, markersOf input.2 = markers) {choices : List Choice}
    {last : MergedRun ρ} (executed : run MergedRun.step (.start (streams inputs)) choices = some last) :
    ∃ emitted, Delivered inputs markers last emitted := by
  have kept : ∀ (before : MergedRun ρ) (choice : Choice) (after : MergedRun ρ), before.step choice = some after →
      (∃ emitted, Delivered inputs markers before emitted) → ∃ emitted, Delivered inputs markers after emitted := by
    intro before choice after stepped ⟨emitted, delivered⟩
    exact delivered.step stepped
  exact run_preserves kept executed ⟨[], delivered_start same⟩

/-- As many items as all inputs have together. -/
def total (inputs : List (Nat × List (StreamItem ρ))) : Nat := (inputs.map fun input => input.2.length).sum

/-- Each item is in the part of some input: a batch in that of its own, a marker in all. -/
private theorem length_le_parts {emitted : List (Emitted ρ)} {output : List (OrdinalStreamResult ρ)}
    (nonempty : inputs ≠ []) (tagged : List.Forall₂ (Tagged inputs) emitted output) :
    emitted.length ≤ ∑ position : Fin inputs.length, (part position emitted).length := by
  induction tagged with
  | nil => exact Nat.zero_le _
  | @cons entry item rest results tagged _ ih =>
    have seen : ∃ position : Fin inputs.length, (part position [entry]).length = 1 := by
      cases tagged with
      | marker marker => exact ⟨⟨0, List.length_pos_of_ne_nil nonempty⟩, rfl⟩
      | @recordBatch position ordinal items batch given =>
        refine ⟨⟨position, (List.getElem?_eq_some_iff.mp given).1⟩, ?_⟩
        simp [part]
    obtain ⟨position, counted⟩ := seen
    have one : (part position [entry]).length ≤ ∑ position : Fin inputs.length, (part position [entry]).length :=
      Finset.single_le_sum (f := fun other : Fin inputs.length => (part other [entry]).length)
        (fun _ _ => Nat.zero_le _) (Finset.mem_univ position)
    have split : ∀ position : Fin inputs.length,
        (part position (entry :: rest)).length = (part position [entry]).length + (part position rest).length := by
      intro position
      rw [← List.singleton_append, part_append, List.length_append]
    rw [List.length_cons, Finset.sum_congr rfl fun position _ => split position, Finset.sum_add_distrib]
    omega

private theorem Delivered.length_le {last : MergedRun ρ} {emitted : List (Emitted ρ)} (nonempty : inputs ≠ [])
    (delivered : Delivered inputs markers last emitted) : last.output.length ≤ total inputs := by
  rw [← delivered.output.length_eq]
  calc emitted.length
    _ ≤ ∑ position : Fin inputs.length, (part position emitted).length := length_le_parts nonempty delivered.output
    _ ≤ ∑ position : Fin inputs.length, inputs[position.1].2.length := by
      apply Finset.sum_le_sum
      intro position _
      exact (delivered.merging.follows position _ _ (List.getElem?_eq_getElem position.2)).length_le
    _ = total inputs := Fin.sum_univ_fun_getElem inputs fun input => input.2.length

/-- Polls without a pending input answer with an item or with the end. -/
private theorem answers_of_run {first last : MergedRun ρ} {choices : List Choice}
    (executed : run MergedRun.step first choices = some last) (ready : ∀ choice ∈ choices, choice.pending = []) :
    ∃ more, last.answers = first.answers ++ more ∧ more.length = choices.length ∧ .pending ∉ more := by
  induction choices generalizing first with
  | nil =>
    cases executed
    exact ⟨[], by simp⟩
  | cons choice rest ih =>
    rw [List.forall_mem_cons] at ready
    obtain ⟨next, stepped, remaining⟩ := run_cons_eq_some.mp executed
    obtain ⟨more, grown, length, answered⟩ := ih remaining ready.2
    rw [MergedRun.step, Option.map_eq_some_iff] at stepped
    obtain ⟨⟨answer, stream⟩, polled, rfl⟩ := stepped
    have now : .pending ≠ answer := by
      rintro rfl
      rw [pollNext] at polled
      split at polled
      next =>
        have outcome := congrArg Prod.fst (Option.some.inj polled)
        rcases pollInputs_pending outcome with impossible | ⟨position, _, pending⟩
        · cases impossible
        · simp [ready.1] at pending
      next => cases polled
    refine ⟨answer :: more, ?_, ?_, ?_⟩
    · rw [grown]
      simp
    · rw [List.length_cons, length, List.length_cons]
    · rw [List.mem_cons, not_or]
      exact ⟨now, answered⟩

private theorem length_output {stream : MergedActionStream ρ} {answers : List (Poll (Option (OrdinalStreamResult ρ)))}
    (ready : .pending ∉ answers) (open_ : .ready none ∉ answers) :
    (MergedRun.output ⟨stream, answers⟩).length = answers.length := by
  induction answers with
  | nil => rfl
  | cons answer rest ih =>
    rw [List.mem_cons, not_or] at ready open_
    have later := ih ready.2 open_.2
    cases answer with
    | pending => exact absurd rfl ready.1
    | ready item =>
      cases item with
      | none => exact absurd rfl open_.1
      | some item => simpa [MergedRun.output] using later

/-- The output of a run, up to any poll, is made of leading parts of the inputs that are
cut at the same markers, and of the whole inputs at its end. The end comes as soon as the
inputs answer: any shuffle may be next, and more polls without a pending input than there are
items reach it. -/
structure AlignedRun (inputs : List (Nat × List (StreamItem ρ))) (last : MergedRun ρ) : Prop where
  aligned : ∃ emitted, List.Forall₂ (Tagged inputs) emitted last.output ∧ Follows inputs emitted ∧
    (.ready none ∈ last.answers → Complete inputs emitted)
  enabled : ∀ order pending, order.Perm last.stream.unblocked → (last.step ⟨order, pending⟩).isSome
  ends : ∀ more final, run MergedRun.step last more = some final → (∀ choice ∈ more, choice.pending = []) →
    total inputs < more.length → .ready none ∈ final.answers

/-- Inputs that carry the same markers are aligned by the merge. -/
theorem merged_inputs_aligned (inputs : List (Nat × List (StreamItem ρ))) (markers : List Marker) (choices : List Choice)
    (last : MergedRun ρ) (nonempty : inputs ≠ []) (same : ∀ input ∈ inputs, markersOf input.2 = markers)
    (executed : run MergedRun.step (.start (streams inputs)) choices = some last) : AlignedRun inputs last := by
  refine ⟨?_, ?_, ?_⟩
  · obtain ⟨emitted, delivered⟩ := delivered_run same executed
    exact ⟨emitted, delivered.output, delivered.merging.follows, delivered.ended⟩
  · intro order pending shuffled
    simp [MergedRun.step, pollNext, shuffled]
  · intro more final continued ready enough
    by_contra open_
    obtain ⟨emitted, delivered⟩ := delivered_run same (run_trans executed continued)
    obtain ⟨answers, grown, length, answered⟩ := answers_of_run continued ready
    have bounded := delivered.length_le nonempty
    have whole : final = ⟨final.stream, last.answers ++ answers⟩ := by rw [← grown]
    have unfinished : .ready none ∉ answers := fun member => open_ (grown ▸ List.mem_append_right _ member)
    rw [whole, output_append, List.length_append, length_output answered unfinished, length] at bounded
    omega

/-- The second input is pending at first, and has its batch after the marker only. -/
def twoInputs : List (Nat × List (StreamItem Nat)) :=
  [(0, [.recordBatch ⟨[1]⟩, .marker ⟨1⟩, .recordBatch ⟨[2]⟩]), (5, [.marker ⟨1⟩, .recordBatch ⟨[3]⟩])]

def twoInputsRead : MergedRun Nat :=
  ⟨⟨[⟨0, false, [], true⟩, ⟨5, false, [], true⟩], none⟩,
    [.ready (some (.ok (.recordBatch 0 ⟨[1]⟩))), .pending, .ready (some (.ok (.marker ⟨1⟩))),
      .ready (some (.ok (.recordBatch 5 ⟨[3]⟩))), .ready (some (.ok (.recordBatch 0 ⟨[2]⟩))), .ready none]⟩

theorem two_inputs_aligned :
    run MergedRun.step (.start (streams twoInputs))
        [⟨[1, 0], [1]⟩, ⟨[0, 1], [1]⟩, ⟨[1], []⟩, ⟨[1, 0], []⟩, ⟨[1, 0], []⟩, ⟨[0, 1], []⟩] = some twoInputsRead ∧
      AlignedRun twoInputs twoInputsRead :=
  have executed : run MergedRun.step (.start (streams twoInputs))
      [⟨[1, 0], [1]⟩, ⟨[0, 1], [1]⟩, ⟨[1], []⟩, ⟨[1, 0], []⟩, ⟨[1, 0], []⟩, ⟨[0, 1], []⟩] = some twoInputsRead := rfl
  ⟨executed, merged_inputs_aligned twoInputs [⟨1⟩] _ _ (by decide) (by decide) executed⟩

end Runs

end DatafusionRay.Proofs.MergedAlignment
