import DatafusionRay.Proofs.PipelineRestart

/-! What the counts by key are counts of. The value buffer of the key column is
read without its validity bits, so a null row counts for the value that happens to
lie in its slot. -/

namespace DatafusionRay.Proofs.KeyTally
open Foundation Streaming CountByKeyFunction KeyCounts SourceResume PipelineRestart

variable {ρ τ σ : Type}

/-- The rows in front of each marker of a stream that `rows` have come before. -/
def markedRows (rows : List ρ) : List (SItem ρ) → List (List ρ)
  | [] => []
  | .marker _ :: rest => rows :: markedRows rows rest
  | .recordBatch batch :: rest => markedRows (rows ++ batch.rows) rest
  | .generation _ :: rest => markedRows rows rest

/-- Every marker leaves one checkpoint, which stands for the rows in front of it. -/
theorem after_stored {counter : RowCounter ρ τ σ} (uuid : Nat → String) {rows : List ρ} {function : σ}
    (counted : counter.Counted rows function) {items : List (SItem ρ)}
    (accepted : ∀ batch ∈ batches items, counter.Accepts batch) :
    ∃ taken, counter.checkpoints (counter.after uuid function items) = counter.checkpoints function ++ taken ∧
      List.Forall₂ (fun rows directory => counter.Stored rows directory.2) (markedRows rows items) taken := by
  induction items generalizing function rows with
  | nil => exact ⟨[], (List.append_nil _).symm, .nil⟩
  | cons item rest ih =>
    rcases item with batch | marker | generation
    · obtain ⟨here, later⟩ := List.forall_mem_cons.mp accepted
      obtain ⟨-, kept, more⟩ := counter.onBatch uuid here counted
      obtain ⟨taken, added, stored⟩ := ih more later
      exact ⟨taken, kept ▸ added, stored⟩
    · obtain ⟨-, ⟨name, snapshot, kept, here⟩, same⟩ := counter.onMarker uuid marker counted
      obtain ⟨taken, added, stored⟩ := ih same accepted
      rw [kept, List.append_assoc] at added
      exact ⟨_, added, .cons here stored⟩
    · obtain ⟨taken, added, stored⟩ := ih counted accepted
      rw [RowCounter.after_cons, counter.onGeneration]
      exact ⟨taken, added, stored⟩

/-- The rows whose key is this value. -/
def keyRows (slots : List KeySlot) (key : UInt64) : Nat := slots.count ⟨key, true⟩

/-- The null rows whose slot happens to hold this value. -/
def nullRows (slots : List KeySlot) (key : UInt64) : Nat := slots.count ⟨key, false⟩

/-- Exactly the keys that occur are found, with the number of their rows. -/
def Tallies (slots : List KeySlot) (found : UInt64 → Option UInt64) : Prop :=
  ∀ key, (found key).map UInt64.toNat = if keyRows slots key = 0 then none else some (keyRows slots key)

/-- The operator from its `init` over a whole input, on a machine with some checkpoint directories. -/
def counting (slot : ρ → KeySlot) (uuid : Nat → String) (stateId : String) (partitions : PartitionRange)
    (leftover : List (String × Db)) (items : List (SItem ρ)) : CountByKeyFunction × List (SResult (UInt64 × UInt64)) :=
  (init stateId partitions leftover).run (slotColumn slot) uuid (items.map .ok)

/-- The final batch has one row for each key that occurs, and the state written at each
marker holds the keys in front of it, both with their numbers of rows. -/
structure CountsKeys (slot : ρ → KeySlot) (uuid : Nat → String) (stateId : String) (partitions : PartitionRange)
    (leftover : List (String × Db)) (items : List (SItem ρ)) : Prop where
  final : ∃ rows : List (UInt64 × UInt64),
    (counting slot uuid stateId partitions leftover items).2.getLast? = some (.ok (.recordBatch ⟨rows⟩)) ∧
    (rows.map Prod.fst).Nodup ∧ Tallies ((rowsOf items).map slot) fun key => rows.lookup key
  stored : List.Forall₂ (fun rows directory => ∃ counts, Holds directory.2 counts ∧ Tallies (rows.map slot) counts.lookup)
    (markedRows [] items) ((counting slot uuid stateId partitions leftover items).1.state.checkpoints.drop leftover.length)

/-- No key has as many rows as a count can hold, and there is no null row, short of
`2 ^ 64` of them over the value of a key. -/
def Countable (slots : List KeySlot) : Prop :=
  ∀ key, keyRows slots key < 2 ^ 64 ∧ 2 ^ 64 ∣ nullRows slots key ∧ (keyRows slots key = 0 → nullRows slots key = 0)

section Lookup
variable (slot : ρ → KeySlot)

private theorem count_values (rows : List ρ) (key : UInt64) :
    (rows.map fun row => (slot row).value).count key =
      keyRows (rows.map slot) key + nullRows (rows.map slot) key := by
  induction rows with
  | nil => rfl
  | cons row rest ih =>
    rw [keyRows, nullRows] at *
    rcases here : slot row with ⟨value, valid⟩
    rw [List.map_cons, List.map_cons, List.count_cons, List.count_cons, List.count_cons, ih, here]
    cases valid <;> by_cases same : value = key <;> simp [same] <;> omega

private theorem lookup_tally_values (rows : List ρ) (key : UInt64) :
    ((tally (fun row => (slot row).value) rows).lookup key).map UInt64.toNat =
      if keyRows (rows.map slot) key + nullRows (rows.map slot) key = 0 then none
      else some ((keyRows (rows.map slot) key + nullRows (rows.map slot) key) % 2 ^ 64) := by
  rw [tally, lookup_increments, count_values]
  split
  next => simp
  next => simp [UInt64.toNat_ofNat']

/-- The values in the slots tally with the keys if nulls leave no trace. -/
theorem tallies_values_iff (rows : List ρ) :
    Tallies (rows.map slot) (tally (fun row => (slot row).value) rows).lookup ↔ Countable (rows.map slot) := by
  refine forall_congr' fun key => ?_
  rw [lookup_tally_values]
  generalize keyRows (rows.map slot) key = keyed
  generalize nullRows (rows.map slot) key = nulls
  by_cases absent : keyed = 0
  · subst absent
    by_cases none : nulls = 0 <;> simp [none]
  · simp only [absent, Nat.add_eq_zero_iff, false_and, if_false, Option.some.injEq, false_implies, and_true]
    omega

end Lookup

section Run
variable (slot : ρ → KeySlot) (uuid : Nat → String) (stateId : String) (partitions : PartitionRange)
  (leftover : List (String × Db)) (items : List (SItem ρ))

/-- The counter of the values in the slots, which is what the operator is. -/
private abbrev slotCounter : RowCounter ρ (UInt64 × UInt64) CountByKeyFunction :=
  countByKeyCounter (slotColumn slot) fun row => (slot row).value

private theorem counting_eq :
    counting slot uuid stateId partitions leftover items =
      ((slotCounter slot).after uuid (init stateId partitions leftover) items,
        ((slotCounter slot).finish uuid (init stateId partitions leftover) items).emitted) := by
  rw [counting, countByKey_run, TryFilterMap.state_ok, RowCounter.finish, TryFilterMap.state_ok]
  rfl

/-- The operator counts the values in the slots: in memory all of them, and at each marker those in front of it. -/
private theorem counting_counted :
    (∀ key, (counting slot uuid stateId partitions leftover items).1.localCounts.lookup key =
      (tally (fun row => (slot row).value) (rowsOf items)).lookup key) ∧
    List.Forall₂ (fun rows directory => ∃ counts, Holds directory.2 counts ∧
      ∀ key, counts.lookup key = (tally (fun row => (slot row).value) rows).lookup key)
      (markedRows [] items)
      ((counting slot uuid stateId partitions leftover items).1.state.checkpoints.drop leftover.length) := by
  have fresh := countByKey_fresh (slotColumn slot) (fun row => (slot row).value) stateId partitions leftover
  have accepted : ∀ batch ∈ batches items, (slotCounter slot).Accepts batch := fun _ _ => rfl
  have counted := (RowCounter.after_counted uuid fresh accepted).1
  obtain ⟨taken, added, stored⟩ := after_stored uuid fresh accepted
  rw [counting_eq]
  refine ⟨counted.1, ?_⟩
  have dropped : ((slotCounter slot).after uuid (init stateId partitions leftover) items).state.checkpoints.drop
      leftover.length = taken := (congrArg (List.drop leftover.length) added).trans List.drop_left
  rw [dropped]
  exact stored

private theorem counting_emits :
    (counting slot uuid stateId partitions leftover items).2.getLast? =
      some (.ok (.recordBatch ⟨(counting slot uuid stateId partitions leftover items).1.localCounts.entries.map
        fun entry => (entry.1, entry.2)⟩)) := by
  rw [counting, countByKey_run, List.getLast?_append, List.getLast?_singleton, Option.some_or]

end Run

section Snapshot
variable (slot : ρ → KeySlot) {rows : List ρ}

private theorem tallies_iff_countable {found : UInt64 → Option UInt64}
    (same : ∀ key, found key = (tally (fun row => (slot row).value) rows).lookup key) :
    Tallies (rows.map slot) found ↔ Countable (rows.map slot) := by
  rw [← tallies_values_iff]
  exact forall_congr' fun key => by rw [same key]

/-- A database holds only one set of counts. -/
private theorem stored_iff_countable {db : Db}
    (written : ∃ counts, Holds db counts ∧
      ∀ key, counts.lookup key = (tally (fun row => (slot row).value) rows).lookup key) :
    (∃ counts, Holds db counts ∧ Tallies (rows.map slot) counts.lookup) ↔ Countable (rows.map slot) := by
  obtain ⟨counts, holds, same⟩ := written
  constructor
  · rintro ⟨others, again, tallied⟩
    refine (tallies_iff_countable slot fun key => ?_).mp tallied
    rw [← same]
    apply Option.map_injective toBeBytes_injective
    rw [← again.found, holds.found]
  · intro countable
    exact ⟨counts, holds, (tallies_iff_countable slot same).mpr countable⟩

private theorem forall₂_iff_forall {α β : Type} {relation known : α → β → Prop} {condition : α → Prop} {left : List α}
    {right : List β} (pairs : List.Forall₂ known left right)
    (decides : ∀ first second, known first second → (relation first second ↔ condition first)) :
    List.Forall₂ relation left right ↔ ∀ first ∈ left, condition first := by
  induction pairs with
  | nil => simp
  | cons here _ ih => rw [List.forall₂_cons, List.forall_mem_cons, decides _ _ here, ih]

end Snapshot

/-- Keys are counted if and only if, at every marker and at the end, nulls leave no
trace and no count has wrapped around. -/
theorem counts_keys_iff (slot : ρ → KeySlot) (uuid : Nat → String) (stateId : String) (partitions : PartitionRange)
    (leftover : List (String × Db)) (items : List (SItem ρ)) :
    CountsKeys slot uuid stateId partitions leftover items ↔
      ∀ rows ∈ markedRows [] items ++ [rowsOf items], Countable (rows.map slot) := by
  obtain ⟨counted, taken⟩ := counting_counted slot uuid stateId partitions leftover items
  have emitted := counting_emits slot uuid stateId partitions leftover items
  have stored := forall₂_iff_forall taken fun rows directory => @stored_iff_countable _ slot rows directory.2
  have final := tallies_iff_countable slot fun key => (FiniteMap.lookup_pairs _ key).trans (counted key)
  rw [List.forall_mem_append, List.forall_mem_singleton, ← stored, ← final]
  constructor
  · intro counts
    obtain ⟨rows, last, -, tallied⟩ := counts.final
    cases emitted.symm.trans last
    exact ⟨counts.stored, tallied⟩
  · rintro ⟨snapshots, tallied⟩
    refine ⟨⟨_, emitted, ?_, tallied⟩, snapshots⟩
    rw [List.map_map]
    exact (counting slot uuid stateId partitions leftover items).1.localCounts.nodupKeys

/-- A null row over a zero in the value buffer is counted as a row of key 0. -/
theorem null_row_counted :
    (counting id (fun _ => "a") "2" .unit [] [.recordBatch ⟨[⟨7, true⟩, ⟨0, false⟩, ⟨7, true⟩]⟩]).2 =
      [.ok (.recordBatch ⟨[(7, 2), (0, 1)]⟩)] := by decide

end DatafusionRay.Proofs.KeyTally
