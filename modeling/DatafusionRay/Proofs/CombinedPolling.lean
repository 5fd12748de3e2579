import DatafusionRay.Batch.CombinedStream

/-! One poll of a combined stream. The loop asks every entry at most once although
entries change their places while it goes round, and it comes to no answer but an item
only after it has asked all of them. -/

namespace DatafusionRay.Proofs.CombinedPolling
open Batch CombinedRecordBatchStream Foundation
open Streaming (Poll)
open scoped List

variable {ρ α : Type}

/-- How far the loop has gone round: the entries as they lie, the index, the entries that
it has still to ask, the next one first, and those that it has asked and kept. -/
inductive Scan (start : Nat) : List α → Nat → List α → List α → Prop
  /-- From the start up. -/
  | rising {idx : Nat} (front kept ahead : List α) (more : ahead ≠ []) (starts : start = front.length)
      (place : idx = front.length + kept.length) : Scan start (front ++ kept ++ ahead) idx (ahead ++ front) kept
  /-- From the bottom up to the start. Removals may have left the start beyond the end. -/
  | wrapped {idx : Nat} (low ahead high : List α) (more : ahead ≠ []) (below : low.length + ahead.length ≤ start)
      (reaches : high ≠ [] → low.length + ahead.length = start) (place : idx = low.length) :
      Scan start (low ++ ahead ++ high) idx ahead (low ++ high)
  | complete (entries : List α) (idx : Nat) : Scan start entries idx [] entries

namespace Scan
variable {start idx : Nat} {entries waiting kept : List α} {entry : α}

theorem begin (drawn : start < max 1 entries.length) :
    ∃ waiting, waiting.Perm entries ∧ Scan start entries start waiting [] := by
  by_cases inside : start < entries.length
  · have front : (entries.take start).length = start := List.length_take_of_le (Nat.le_of_lt inside)
    have scan : Scan start _ start _ _ :=
      rising (entries.take start) [] (entries.drop start) (by simpa using inside) front.symm (by simp [front])
    rw [List.append_nil, List.take_append_drop] at scan
    refine ⟨_, ?_, scan⟩
    exact List.perm_append_comm.trans (by rw [List.take_append_drop])
  · obtain rfl : entries = [] := by
      rw [← List.length_eq_zero_iff]
      omega
    exact ⟨[], .nil, complete [] start⟩

theorem entries_perm (scan : Scan start entries idx waiting kept) : entries.Perm (kept ++ waiting) := by
  cases scan with
  | rising front kept ahead more starts place =>
    rw [List.append_assoc, ← List.append_assoc kept]
    exact List.perm_append_comm
  | wrapped low ahead high more below reaches place =>
    rw [List.append_assoc, List.append_assoc]
    exact List.perm_append_comm.append_left low
  | complete entries idx => simp

/-- The entry that the loop asks is the next one that it has not asked. -/
theorem asks (scan : Scan start entries idx (entry :: waiting) kept) : entries[idx]? = some entry := by
  generalize next : entry :: waiting = ahead at scan
  cases scan with
  | rising front kept ahead more starts place =>
    cases ahead with
    | nil => exact False.elim (more rfl)
    | cons first rest =>
      cases next
      rw [place, ← List.length_append, List.getElem?_append_right le_rfl, Nat.sub_self]
      rfl
  | wrapped low ahead high more below reaches place =>
    cases next
    simp [place]
  | complete entries idx => cases next

/-- Behind the last entry the loop goes on at the bottom. -/
theorem wrap (front high : List α) (starts : start = front.length) : Scan start (front ++ high) 0 front high := by
  cases front with
  | nil => exact complete high 0
  | cons first rest =>
    exact wrapped [] (first :: rest) high (by simp) (by simp [starts]) (by simp [starts]) rfl

/-- The loop goes on after an entry that has nothing ready. -/
theorem passed (scan : Scan start entries idx (entry :: waiting) kept) :
    ∃ next waiting' kept', advance idx entries.length = .ok next ∧ Scan start entries next waiting' kept' ∧
      waiting'.Perm waiting ∧ kept'.Perm (entry :: kept) := by
  obtain ⟨inside, -⟩ := List.getElem?_eq_some_iff.mp scan.asks
  refine ⟨(idx + 1) % entries.length, ?_⟩
  simp only [advance, Nat.ne_of_gt (Nat.zero_lt_of_lt inside), if_false, true_and]
  generalize next : entry :: waiting = ahead at scan
  cases scan with
  | rising front kept ahead more starts place =>
    cases ahead with
    | nil => exact False.elim (more rfl)
    | cons first rest =>
      cases next
      refine ⟨rest ++ front, kept ++ [entry], ?_, .refl _, List.perm_append_singleton entry kept⟩
      have shape : front ++ kept ++ entry :: rest = front ++ (kept ++ [entry]) ++ rest := by simp
      rw [shape]
      cases rest with
      | nil =>
        have top : idx + 1 = (front ++ (kept ++ [entry]) ++ []).length := by simp [place, Nat.add_assoc]
        rw [top, Nat.mod_self, List.append_nil]
        exact wrap front (kept ++ [entry]) starts
      | cons second rest =>
        rw [Nat.mod_eq_of_lt (by simp [place]; omega)]
        exact rising front (kept ++ [entry]) (second :: rest) (by simp) starts (by simp [place, Nat.add_assoc])
  | wrapped low ahead high more below reaches place =>
    cases next
    have moved : (low ++ [entry] ++ high).Perm (entry :: (low ++ high)) := by simp
    cases waiting with
    | nil => exact ⟨[], _, complete _ _, .nil, moved⟩
    | cons second rest =>
      refine ⟨second :: rest, low ++ [entry] ++ high, ?_, .refl _, moved⟩
      have shape : low ++ entry :: second :: rest ++ high = low ++ [entry] ++ second :: rest ++ high := by simp
      rw [shape, Nat.mod_eq_of_lt (by simp [place])]
      apply wrapped (low ++ [entry]) (second :: rest) high (by simp) (by simp at below ⊢; omega)
      · intro some
        have := reaches some
        simp at this ⊢
        omega
      · simp [place]
  | complete entries idx => cases next

/-- The loop goes on after an entry that has ended. -/
theorem removed (scan : Scan start entries idx (entry :: waiting) kept) :
    ∃ next waiting' kept', afterRemoval start idx (swapRemove entries idx).length = .ok next ∧
      Scan start (swapRemove entries idx) next waiting' kept' ∧ waiting'.Perm waiting ∧ kept'.Perm kept := by
  generalize next : entry :: waiting = ahead at scan
  cases scan with
  | rising front kept ahead more starts place =>
    rw [← List.length_append] at place
    cases ahead with
    | nil => exact False.elim (more rfl)
    | cons first rest =>
      cases next
      cases rest using List.reverseRecOn with
      | nil =>
        rw [place, swapRemove_last]
        exact ⟨0, front, kept, by simp [afterRemoval], wrap front kept starts, .refl _, .refl _⟩
      | append_singleton rest last =>
        rw [place, swapRemove_middle]
        -- What is swapped in comes from further up and has not been asked.
        refine ⟨(front ++ kept).length, last :: rest ++ front, kept, ?_,
          rising front kept (last :: rest) (by simp) starts (by simp), ?_, .refl _⟩
        · simp [afterRemoval, starts]
        · exact (List.perm_append_singleton last rest).symm.append_right front
  | wrapped low ahead high more below reaches place =>
    cases next
    subst place
    cases high using List.reverseRecOn with
    | nil =>
      cases waiting using List.reverseRecOn with
      | nil =>
        rw [List.append_nil, List.append_nil, swapRemove_last]
        exact ⟨0, [], low, by simp [afterRemoval], complete low 0, .nil, .refl _⟩
      | append_singleton rest last =>
        rw [List.append_nil, swapRemove_middle]
        simp only [List.length_cons, List.length_append, List.length_nil] at below
        refine ⟨low.length, last :: rest, low ++ [], ?_, ?_, (List.perm_append_singleton last rest).symm, .refl _⟩
        · simp [afterRemoval]
          omega
        · have further : Scan start (low ++ (last :: rest) ++ []) low.length _ _ :=
            wrapped low (last :: rest) [] (by simp) (by simp; omega) (by simp) rfl
          rwa [List.append_nil] at further
    | append_singleton high last =>
      -- What is swapped in comes from the start or beyond, so it is passed over.
      have starts := reaches (by simp)
      have shape : low ++ entry :: waiting ++ (high ++ [last]) = low ++ entry :: ((waiting ++ high) ++ [last]) := by simp
      rw [shape, swapRemove_middle]
      simp only [List.length_cons] at starts
      have skips : afterRemoval start low.length (low ++ last :: (waiting ++ high)).length =
          .ok ((low.length + 1) % (low ++ last :: (waiting ++ high)).length) := by
        simp [afterRemoval, advance]
        omega
      refine ⟨_, waiting, low ++ [last] ++ high, skips, ?_, .refl _, ?_⟩
      · cases waiting with
        | nil => simpa using complete (low ++ last :: high) _
        | cons second rest =>
          have place : low.length + 1 < (low ++ last :: (second :: rest ++ high)).length := by simp
          rw [Nat.mod_eq_of_lt place]
          have further : Scan start (low ++ [last] ++ second :: rest ++ high) (low.length + 1) _ _ :=
            wrapped (low ++ [last]) (second :: rest) high (by simp) (by simp at starts ⊢; omega)
              (fun _ => by simp at starts ⊢; omega) (by simp)
          simpa using further
      · rw [List.append_assoc]
        exact (List.perm_append_comm).append_left low
  | complete entries idx => cases next

end Scan

def Ended (pending : List Nat) (entry : Entry ρ) : Prop := entry.key ∉ pending ∧ entry.remaining = []

/-- What a poll may come to, with the streams that it has not asked. Of those it has asked
it removes the ones that have ended; the others are pending, but for the one whose item it
delivers. The order of the streams plays no part in it. -/
inductive Merge (pending : List Nat) (entries : List (Entry ρ)) :
    Poll (Option (BatchResult ρ)) → List (Entry ρ) → List (Entry ρ) → Prop
  | deliver {left : List (Entry ρ)} (entry : Entry ρ) (item : BatchResult ρ) (rest : List (BatchResult ρ))
      (idle unasked ended : List (Entry ρ)) (ready : entry.key ∉ pending) (next : entry.remaining = item :: rest)
      (before : entries.Perm (entry :: (idle ++ unasked ++ ended))) (waits : ∀ other ∈ idle, other.key ∈ pending)
      (gone : ∀ other ∈ ended, Ended pending other)
      (after : left.Perm ({ entry with remaining := rest } :: (idle ++ unasked))) :
      Merge pending entries (.ready (some item)) left unasked
  | wait {left : List (Entry ρ)} (ended : List (Entry ρ)) (live : left ≠ []) (idle : ∀ entry ∈ left, entry.key ∈ pending)
      (before : entries.Perm (left ++ ended)) (gone : ∀ other ∈ ended, Ended pending other) :
      Merge pending entries .pending left []
  | finish (gone : ∀ entry ∈ entries, Ended pending entry) : Merge pending entries (.ready none) [] []

/-- Only an item leaves streams unasked. -/
theorem Merge.all_asked {pending : List Nat} {entries left unasked : List (Entry ρ)} {answer : Poll (Option (BatchResult ρ))}
    (merge : Merge pending entries answer left unasked) (noItem : ∀ item, answer ≠ .ready (some item)) : unasked = [] := by
  cases merge with
  | deliver entry item => exact absurd rfl (noItem item)
  | wait | finish => rfl

/-- An entry that has ended makes no difference. -/
theorem Merge.ended {pending : List Nat} {entries fewer left unasked : List (Entry ρ)}
    {answer : Poll (Option (BatchResult ρ))} {entry : Entry ρ} (merge : Merge pending fewer answer left unasked)
    (gone : Ended pending entry) (more : entries.Perm (entry :: fewer)) : Merge pending entries answer left unasked := by
  cases merge with
  | deliver other item rest idle unasked ended ready next before waits allGone after =>
    refine .deliver other item rest idle unasked (entry :: ended) ready next ?_ waits
      (List.forall_mem_cons.mpr ⟨gone, allGone⟩) after
    calc entries
      _ ~ entry :: fewer := more
      _ ~ entry :: other :: (idle ++ unasked ++ ended) := before.cons entry
      _ ~ other :: entry :: (idle ++ unasked ++ ended) := .swap ..
      _ ~ other :: (idle ++ unasked ++ entry :: ended) := List.perm_middle.symm.cons other
  | wait ended live idle before allGone =>
    refine .wait (entry :: ended) live idle ?_ (List.forall_mem_cons.mpr ⟨gone, allGone⟩)
    exact (more.trans (before.cons entry)).trans List.perm_middle.symm
  | finish allGone =>
    apply Merge.finish
    intro other present
    rw [more.mem_iff] at present
    exact List.forall_mem_cons.mpr ⟨gone, allGone⟩ other present

/-- What is put in the place of an entry has the same others beside it. -/
theorem set_perm {entries others : List α} {idx : Nat} {entry : α} (found : entries[idx]? = some entry)
    (beside : entries.Perm (entry :: others)) (changed : α) : (entries.set idx changed).Perm (changed :: others) := by
  obtain ⟨inside, rfl⟩ := List.getElem?_eq_some_iff.mp found
  have split : entries.take idx ++ entries[idx] :: entries.drop (idx + 1) = entries := by simp
  have same : (entries.take idx ++ entries.drop (idx + 1)).Perm others :=
    (List.perm_middle.symm.trans ((List.Perm.of_eq split).trans beside)).cons_inv
  rw [List.set_eq_take_append_cons_drop, if_pos inside]
  exact List.perm_middle.trans (same.cons changed)

/-- The loop from any of its turns on. It leaves entries unasked only for an item. -/
theorem pollEntries_merge {pending : List Nat} {start idx turns : Nat} {entries waiting kept : List (Entry ρ)}
    (scan : Scan start entries idx waiting kept) (left : waiting.length = turns)
    (idle : ∀ entry ∈ kept, entry.key ∈ pending) (asked : List Nat) :
    ∃ polled unasked, pollEntries pending start turns entries idx asked = .ok polled ∧
      Merge pending entries polled.answer polled.entries unasked ∧
      (polled.asked ++ unasked.map Entry.key).Perm (asked ++ waiting.map Entry.key) := by
  induction turns generalizing entries idx waiting kept asked with
  | zero =>
    obtain rfl : waiting = [] := List.length_eq_zero_iff.mp left
    have same : entries.Perm kept := by simpa using scan.entries_perm
    refine ⟨_, [], rfl, ?_, by simp⟩
    cases entries with
    | nil => exact .finish (by simp)
    | cons first rest =>
      refine .wait [] (by simp) ?_ (by simp) (by simp)
      intro entry present
      exact idle entry (same.mem_iff.mp present)
  | succ turns ih =>
    obtain ⟨entry, rest, rfl⟩ := List.exists_cons_of_length_eq_add_one left
    have left : rest.length = turns := by simpa using left
    have found := scan.asks
    have counted : ∀ {waiting' : List (Entry ρ)}, waiting'.Perm rest →
        (asked ++ [entry.key] ++ waiting'.map Entry.key).Perm (asked ++ (entry :: rest).map Entry.key) := by
      intro waiting' same
      rw [List.append_assoc]
      exact ((same.map Entry.key).cons entry.key).append_left asked
    by_cases isPending : entry.key ∈ pending
    · obtain ⟨next, waiting', kept', advanced, scan', sameWaiting, sameKept⟩ := scan.passed
      have idle' : ∀ other ∈ kept', other.key ∈ pending := by
        intro other present
        obtain rfl | earlier := List.mem_cons.mp (sameKept.mem_iff.mp present)
        · exact isPending
        · exact idle other earlier
      obtain ⟨polled, unasked, ran, merge, all⟩ :=
        ih scan' (sameWaiting.length_eq.trans left) idle' (asked ++ [entry.key])
      refine ⟨polled, unasked, ?_, merge, all.trans (counted sameWaiting)⟩
      simp only [pollEntries, found, Entry.pollNext, isPending, decide_true, if_true, advanced]
      exact ran
    · cases next : entry.remaining with
      | nil =>
        obtain ⟨place, waiting', kept', moved, scan', sameWaiting, sameKept⟩ := scan.removed
        have idle' : ∀ other ∈ kept', other.key ∈ pending := fun other present =>
          idle other (sameKept.mem_iff.mp present)
        obtain ⟨polled, unasked, ran, merge, all⟩ :=
          ih scan' (sameWaiting.length_eq.trans left) idle' (asked ++ [entry.key])
        have before : entries.Perm (entry :: swapRemove entries idx) := by
          calc entries
            _ ~ kept ++ entry :: rest := scan.entries_perm
            _ ~ entry :: (kept ++ rest) := List.perm_middle
            _ ~ entry :: (kept' ++ waiting') := (sameKept.symm.append sameWaiting.symm).cons entry
            _ ~ entry :: swapRemove entries idx := scan'.entries_perm.symm.cons entry
        refine ⟨polled, unasked, ?_, merge.ended ⟨isPending, next⟩ before, all.trans (counted sameWaiting)⟩
        simp only [pollEntries, found, Entry.pollNext, isPending, decide_false, Bool.false_eq_true, if_false, next, moved]
        exact ran
      | cons item later =>
        have beside : entries.Perm (entry :: (kept ++ rest)) := scan.entries_perm.trans List.perm_middle
        refine ⟨⟨.ready (some item), entries.set idx { entry with remaining := later }, asked ++ [entry.key]⟩, rest, ?_, ?_,
          by simp⟩
        · simp [pollEntries, found, Entry.pollNext, isPending, next]
        · exact .deliver entry item later kept rest [] isPending next (by simpa using beside) idle (by simp)
            (set_perm found beside _)

theorem pollNext_merge {stream : CombinedRecordBatchStream ρ} {choice : Choice}
    {result : Except Streaming.Failure (Polled ρ)} (polls : stream.pollNext choice = some result) :
    ∃ polled unasked, result = .ok polled ∧ Merge choice.pending stream.entries polled.answer polled.entries unasked ∧
      (polled.asked ++ unasked.map Entry.key).Perm (stream.entries.map Entry.key) := by
  obtain ⟨drawn, same⟩ := Option.ite_none_right_eq_some.mp polls
  cases same
  obtain ⟨waiting, same, scan⟩ := Scan.begin drawn
  have idle : ∀ entry ∈ ([] : List (Entry ρ)), entry.key ∈ choice.pending := by simp
  obtain ⟨polled, unasked, ran, merge, all⟩ := pollEntries_merge scan same.length_eq idle []
  exact ⟨polled, unasked, ran, merge, all.trans (same.map Entry.key)⟩

/-- A poll never indexes out of range nor divides by zero, and asks no stream twice. Of
those that it asks it removes exactly the ones that have ended: the one that delivers and
those that are pending stay. It says that nothing is ready, or that all is over, only after
it has asked every one. -/
theorem poll_asks_each_once {stream : CombinedRecordBatchStream ρ} {choice : Choice}
    {result : Except Streaming.Failure (Polled ρ)} (polls : stream.pollNext choice = some result) :
    ∃ polled unasked, result = .ok polled ∧
      Merge choice.pending stream.entries polled.answer polled.entries unasked ∧
      (polled.asked ++ unasked.map Entry.key).Perm (stream.entries.map Entry.key) ∧
      ((∀ item, polled.answer ≠ .ready (some item)) → polled.asked.Perm (stream.entries.map Entry.key)) := by
  obtain ⟨polled, unasked, ran, merge, all⟩ := pollNext_merge polls
  refine ⟨polled, unasked, ran, merge, all, fun noItem => ?_⟩
  rwa [merge.all_asked noItem, List.map_nil, List.append_nil] at all

/-- The third of four streams is drawn. The first two end, and the last ones, which have
been asked before, take their places. -/
theorem poll_asks_four :
    CombinedRecordBatchStream.pollNext (ρ := Nat) ⟨[⟨0, []⟩, ⟨1, []⟩, ⟨2, []⟩, ⟨3, []⟩]⟩ ⟨2, [2, 3]⟩ =
        some (.ok ⟨.pending, [⟨3, []⟩, ⟨2, []⟩], [2, 3, 0, 1]⟩) ∧
      [2, 3, 0, 1].Perm [0, 1, 2, 3] := by
  have polls : CombinedRecordBatchStream.pollNext (ρ := Nat) ⟨[⟨0, []⟩, ⟨1, []⟩, ⟨2, []⟩, ⟨3, []⟩]⟩ ⟨2, [2, 3]⟩ =
      some (.ok ⟨.pending, [⟨3, []⟩, ⟨2, []⟩], [2, 3, 0, 1]⟩) := rfl
  obtain ⟨polled, unasked, same, -, -, asked⟩ := poll_asks_each_once polls
  cases same
  exact ⟨polls, asked (fun item given => by cases given)⟩

end DatafusionRay.Proofs.CombinedPolling
