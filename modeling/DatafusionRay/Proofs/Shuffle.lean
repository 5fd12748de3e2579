import DatafusionRay.Foundation.Interval
import DatafusionRay.Foundation.TryFilterMap
import DatafusionRay.Proofs.StreamSections

/-! A partitioned exchange between the copies of two tasks. A row reaches a reader when
its hash lies in the reader's range and in the range of the copy that sent it, and when
every copy that the reader asks has its channel in the store of its worker. A worker
keeps one channel for the stream, that of the copy which published last. -/

namespace DatafusionRay.Proofs.Shuffle
open Streaming Foundation StreamSections

variable {ρ : Type}

/-- Ranges over one partition count that hold each partition exactly once. -/
structure Splits (partitions : Nat) (ranges : List PartitionRange) : Prop where
  same : ∀ range ∈ ranges, range.partitions = partitions
  ordered : ∀ range ∈ ranges, range.start ≤ range.stop
  within : ∀ range ∈ ranges, range.stop ≤ partitions
  once : ∀ point < partitions, (ranges.countP fun range => range.start ≤ point && point < range.stop) = 1

/-- One copy of the producing task and all that it has sent. -/
structure UpstreamCopy (ρ : Type) where
  address : String
  offsetRange : Nat × Nat
  generation : GenerationSpec
  sent : List (StreamItem ρ)

namespace UpstreamCopy

def partitions (copy : UpstreamCopy ρ) : PartitionRange := copy.generation.partitions

def location (copy : UpstreamCopy ρ) : GenerationInputLocation := ⟨copy.address, copy.offsetRange, copy.partitions⟩

def rows (copy : UpstreamCopy ρ) : List ρ := copy.sent.flatMap StreamItem.rows

end UpstreamCopy

/-- The store of the worker at an address when the copies have published the stream in
this order, each on the channel of its place. -/
def stores (streamId : String) (hash : RowHash ρ) (order : List (UpstreamCopy ρ)) (address : String) :
    ExchangeChannelStore ρ :=
  order.zipIdx.foldl (fun store entry =>
    if entry.1.address = address then
      (RemoteExchangeOperatorFunction.init ⟨streamId, some hash⟩ store entry.2 [entry.1.generation]).toOption.getD store
    else store) ∅

/-- Workers that can be reached, and that send what a copy has sent on its channel. -/
structure Publishes (streamId : String) (hash : RowHash ρ) (order : List (UpstreamCopy ρ)) (peers : Peers ρ) :
    Prop where
  reached : ∀ address, peers.getClient address = .ok (stores streamId hash order address)
  carried : ∀ channel copy filter, order[channel]? = some copy →
    Carries (peers.received copy.address channel filter) (copy.sent.map (filterItem filter))

/-- All rows of the streams that a reader of the partitions opens. It gets nothing if one of them is refused. -/
def delivered (peers : Peers ρ) (streamId : String) (locations : List GenerationInputLocation) (checkpoint : Nat)
    (reader : PartitionRange) : List ρ :=
  match RemoteSourceFunction.pull peers ⟨some [⟨"reader", reader, []⟩], some [⟨streamId, locations⟩]⟩
    ⟨[streamId], checkpoint⟩ checkpoint with
  | .error _ => []
  | .ok fibers => fibers.streams.flatMap arrivedRows

/-- In whatever order the copies publish, exactly one reader gets a row, as often as it was sent. -/
def DeliveredOnce [DecidableEq ρ] (copies : List (UpstreamCopy ρ)) (streamId : String) (hash : RowHash ρ)
    (checkpoint : Nat) (readers : List PartitionRange) : Prop :=
  ∀ order peers, order.Perm copies → Publishes streamId hash order peers →
    ∀ row ∈ copies.flatMap UpstreamCopy.rows,
      (readers.map fun reader =>
          (delivered peers streamId (copies.map UpstreamCopy.location) checkpoint reader).count row).filter (0 < ·) =
        [(copies.flatMap UpstreamCopy.rows).count row]

/-- No other copy runs on the worker of the copy. -/
def Alone (copies : List (UpstreamCopy ρ)) (copy : UpstreamCopy ρ) : Prop :=
  (copies.countP fun other => other.address == copy.address) = 1

instance (copies : List (UpstreamCopy ρ)) : DecidablePred (Alone copies) := fun _ => inferInstanceAs (Decidable (_ = _))

private theorem eq_of_countP_eq_one {α : Type} {items : List α} {chosen : α → Bool} {first second : α}
    (one : items.countP chosen = 1) (left : first ∈ items) (leftChosen : chosen first = true) (right : second ∈ items)
    (rightChosen : chosen second = true) : first = second := by
  rw [List.countP_eq_length_filter, List.length_eq_one_iff] at one
  obtain ⟨only, same⟩ := one
  have here := List.mem_filter.mpr ⟨left, leftChosen⟩
  have there := List.mem_filter.mpr ⟨right, rightChosen⟩
  rw [same, List.mem_singleton] at here there
  exact here.trans there.symm

section Stores
variable {streamId : String} {hash : RowHash ρ} {order before after : List (UpstreamCopy ρ)}
  {copy : UpstreamCopy ρ} {address : String} {peers : Peers ρ} {range : PartitionRange}

private theorem stores_append_singleton :
    stores streamId hash (order ++ [copy]) address =
      if copy.address = address then
        (stores streamId hash order address).create streamId (some ⟨hash, copy.partitions⟩) order.length
      else stores streamId hash order address := by
  simp only [stores, List.zipIdx_append, List.foldl_append, List.zipIdx_singleton, List.foldl_cons, List.foldl_nil,
    Nat.zero_add]
  split
  next => rfl
  next => rfl

/-- The copies at an address have one that published last. -/
private theorem exists_last (present : ∃ copy ∈ order, copy.address = address) :
    ∃ before copy after, order = before ++ copy :: after ∧ copy.address = address ∧
      ∀ later ∈ after, later.address ≠ address := by
  induction order with
  | nil => simp at present
  | cons head rest ih =>
    by_cases more : ∃ copy ∈ rest, copy.address = address
    · obtain ⟨before, copy, after, rfl, here, free⟩ := ih more
      exact ⟨head :: before, copy, after, rfl, here, free⟩
    · obtain ⟨copy, member, here⟩ := present
      rcases List.mem_cons.mp member with rfl | later
      · exact ⟨[], copy, rest, rfl, here, fun other inside same => more ⟨other, inside, same⟩⟩
      · exact absurd ⟨copy, later, here⟩ more

private theorem lookup_stores (free : ∀ later ∈ after, later.address ≠ copy.address) :
    (stores streamId hash (before ++ copy :: after) copy.address).lookup streamId =
      some ⟨before.length, some ⟨hash, copy.partitions⟩⟩ := by
  induction after using List.reverseRecOn with
  | nil =>
    rw [stores_append_singleton, if_pos rfl, ExchangeChannelStore.create, AList.lookup_insert]
  | append_singleton rest later ih =>
    have elsewhere : later.address ≠ copy.address := free later (by simp)
    rw [show before ++ copy :: (rest ++ [later]) = (before ++ copy :: rest) ++ [later] by simp,
      stores_append_singleton, if_neg elsewhere]
    exact ih fun other inside => free other (List.mem_append_left _ inside)

/-- A request is answered by the copy that published last, if it has some of the partitions. -/
private theorem createRemoteStream_eq_ok (publishes : Publishes streamId hash (before ++ copy :: after) peers)
    (free : ∀ later ∈ after, later.address ≠ copy.address) {arrived : List (SResult ρ)} :
    createRemoteStream peers streamId copy.address range = .ok arrived ↔
      (copy.partitions.intersection range).isEmpty = false ∧
        arrived = peers.received copy.address before.length (some ⟨hash, copy.partitions.intersection range⟩) := by
  simp only [createRemoteStream, publishes.reached, getStream, ExchangeChannelStore.stream, lookup_stores free,
    Option.getD_some, bind, Except.bind]
  cases (copy.partitions.intersection range).isEmpty with
  | true => simp [Except.mapError, throw, throwThe, MonadExceptOf.throw]
  | false => simp [Except.mapError, pure, Except.pure, eq_comm]

private theorem arrivedRows_received (publishes : Publishes streamId hash (before ++ copy :: after) peers) :
    arrivedRows (peers.received copy.address before.length (some ⟨hash, range⟩)) =
      copy.rows.filter fun row => range.containsHash (hash row) := by
  have carried := publishes.carried before.length copy (some ⟨hash, range⟩) (by simp)
  rw [carried.rows, List.flatMap_map, UpstreamCopy.rows, List.filter_flatMap]
  simp only [rows_filterItem]

end Stores

section Addresses
variable {partitions checkpoint : Nat} {copies : List (UpstreamCopy ρ)} {streamId : String} {reader : PartitionRange}

private theorem getAddresses_eq (split : Splits partitions (copies.map UpstreamCopy.partitions))
    (opened : ∀ copy ∈ copies, copy.offsetRange.1 ≤ checkpoint ∧ checkpoint < copy.offsetRange.2)
    (ordered : reader.start ≤ reader.stop) (within : reader.stop ≤ partitions) :
    getAddresses reader checkpoint [streamId] [⟨streamId, copies.map UpstreamCopy.location⟩] =
      .ok (copies.filterMap fun copy =>
        (copy.location.serve reader checkpoint).map fun range => (streamId, copy.address, range)) := by
  have every : GenerationInputDetail.openAt ⟨streamId, copies.map UpstreamCopy.location⟩ checkpoint =
      copies.map UpstreamCopy.location := by
    rw [GenerationInputDetail.openAt, List.filter_eq_self]
    intro location member
    obtain ⟨copy, present, rfl⟩ := List.mem_map.mp member
    have inside := opened copy present
    simp [UpstreamCopy.location, inside]
  have total := sum_found_sizes reader checkpoint ⟨streamId, copies.map UpstreamCopy.location⟩
  rw [every, List.map_map] at total
  have covered : (copies.map fun copy => min reader.stop copy.partitions.stop - max reader.start copy.partitions.start).sum =
      reader.size := by
    rw [PartitionRange.size_of_le ordered]
    refine sum_overlap copies ordered fun point _ below => ?_
    have once := split.once point (Nat.lt_of_lt_of_le below within)
    rwa [List.countP_map] at once
  have found : getAddressesForStream reader checkpoint ⟨streamId, copies.map UpstreamCopy.location⟩ =
      .ok (copies.filterMap fun copy => (copy.location.serve reader checkpoint).map fun range =>
        (streamId, copy.address, range)) := by
    rw [getAddressesForStream]
    dsimp only at total ⊢
    rw [if_pos (congrArg (· % 2 ^ 64) (total.trans covered)), List.filterMap_map]
    rfl
  simp only [getAddresses, List.mapM_cons, List.mapM_nil, List.find?_cons, BEq.rfl, bind, Except.bind, pure,
    Except.pure, found, List.flatten_cons, List.flatten_nil, List.append_nil]

end Addresses

private theorem intersection_partitions {left right : PartitionRange}
    (overlap : (left.intersection right).isEmpty = false) : (left.intersection right).partitions = left.partitions := by
  rw [PartitionRange.intersection_isEmpty, decide_eq_false_iff_not, Nat.not_le] at overlap
  rw [PartitionRange.intersection_of_lt overlap]

/-- Copies of a split have no partition in common. -/
private theorem intersection_isEmpty_of_split {partitions : Nat} {left right : UpstreamCopy ρ}
    {front back : List (UpstreamCopy ρ)}
    (split : Splits partitions ((front ++ left :: back).map UpstreamCopy.partitions)) (other : right ∈ front ++ back)
    (reader : PartitionRange) :
    (right.partitions.intersection (reader.intersection left.partitions)).isEmpty = true := by
  rw [PartitionRange.intersection_isEmpty, decide_eq_true_eq]
  rcases Nat.lt_or_ge (max reader.start left.partitions.start) (min reader.stop left.partitions.stop) with overlap | apart
  · rw [PartitionRange.intersection_of_lt overlap]
    dsimp only
    by_contra common
    -- A partition of both copies would be counted twice.
    have below := split.within left.partitions (by simp)
    have once := split.once (max right.partitions.start (max reader.start left.partitions.start)) (by omega)
    rw [List.countP_map, List.countP_append, List.countP_cons] at once
    have twice : 0 < (front ++ back).countP ((fun range : PartitionRange =>
        decide (range.start ≤ max right.partitions.start (max reader.start left.partitions.start)) &&
          decide (max right.partitions.start (max reader.start left.partitions.start) < range.stop)) ∘
        UpstreamCopy.partitions) := by
      refine List.countP_pos_iff.mpr ⟨right, other, ?_⟩
      simp only [Function.comp_apply, Bool.and_eq_true, decide_eq_true_eq]
      omega
    rw [List.countP_append] at twice
    rw [if_pos (by simp only [Function.comp_apply, Bool.and_eq_true, decide_eq_true_eq]; omega)] at once
    omega
  · rw [PartitionRange.intersection_of_le apart]
    simp [PartitionRange.empty]

section Delivery
variable {partitions checkpoint : Nat} {copies order : List (UpstreamCopy ρ)} {streamId : String}
  {hash : RowHash ρ} {reader : PartitionRange} {peers : Peers ρ} {row : ρ}

private theorem delivered_eq {locations : List GenerationInputLocation} {addresses : List (String × String × PartitionRange)}
    (located : getAddresses reader checkpoint [streamId] [⟨streamId, locations⟩] = .ok addresses) :
    delivered peers streamId locations checkpoint reader =
      match (fiberKeys addresses).mapM fun key => createRemoteStream peers key.1 key.2.1 key.2.2 with
      | .error _ => []
      | .ok streams => streams.flatMap arrivedRows := by
  have current : SchedulingDetails.current ⟨some [⟨"reader", reader, []⟩], some [⟨streamId, locations⟩]⟩ [streamId] checkpoint =
      .ok (⟨"reader", reader, []⟩, [⟨streamId, locations⟩]) := rfl
  simp only [delivered, RemoteSourceFunction.pull, RemoteSourceFunction.addressesAt, current, located, bind, Except.bind, pure,
    Except.pure]
  cases (fiberKeys addresses).mapM fun key => createRemoteStream peers key.1 key.2.1 key.2.2 with
  | error error => rfl
  | ok streams => rfl

private theorem containsHash_of_mem_delivered (split : Splits partitions (copies.map UpstreamCopy.partitions))
    (opened : ∀ copy ∈ copies, copy.offsetRange.1 ≤ checkpoint ∧ checkpoint < copy.offsetRange.2)
    {readers : List PartitionRange} (downstream : Splits partitions readers) (reading : reader ∈ readers)
    (perm : order.Perm copies) (publishes : Publishes streamId hash order peers)
    (member : row ∈ delivered peers streamId (copies.map UpstreamCopy.location) checkpoint reader) :
    reader.containsHash (hash row) = true := by
  rw [delivered_eq (getAddresses_eq split opened (downstream.ordered _ reading) (downstream.within _ reading))] at member
  split at member
  next => cases member
  next streams created =>
    obtain ⟨arrived, inside, here⟩ := List.mem_flatMap.mp member
    obtain ⟨key, kept, creation⟩ := mapM_mem created inside
    obtain ⟨copy, present, chosen⟩ := List.mem_filterMap.mp (mem_of_mem_fiberKeys kept)
    obtain ⟨range, served, rfl⟩ := Option.map_eq_some_iff.mp chosen
    obtain ⟨before, last, after, rfl, place, free⟩ := exists_last ⟨copy, perm.mem_iff.mpr present, rfl⟩
    simp only [← place] at creation free
    obtain ⟨overlap, rfl⟩ := (createRemoteStream_eq_ok publishes free).mp creation
    rw [arrivedRows_received publishes] at here
    have held := (List.mem_filter.mp here).2
    have count : last.partitions.partitions = partitions :=
      split.same _ (List.mem_map_of_mem (perm.mem_iff.mp (by simp)))
    rcases copy.location.serve_cases reader (opened copy present) with ⟨whole, _⟩ | ⟨missing, _⟩ | ⟨found, nonempty⟩
    · cases whole.symm.trans served
      rw [PartitionRange.intersection_isEmpty] at overlap
      simp [PartitionRange.empty] at overlap
    · cases missing.symm.trans served
    · cases found.symm.trans served
      have common : reader.partitions = partitions := downstream.same _ reading
      have own : copy.location.partitions.partitions = partitions := split.same _ (List.mem_map_of_mem present)
      have part : (reader.intersection copy.location.partitions).partitions = partitions :=
        (intersection_partitions nonempty).trans common
      rw [PartitionRange.containsHash_intersection (count.trans part.symm), Bool.and_eq_true,
        PartitionRange.containsHash_intersection (common.trans own.symm), Bool.and_eq_true] at held
      exact held.2.1

/-- The copies that a reader asks. -/
private def asked (reader : PartitionRange) (copies : List (UpstreamCopy ρ)) : List (UpstreamCopy ρ) :=
  copies.filter fun copy => !(reader.intersection copy.partitions).isEmpty

private theorem mem_asked {copy : UpstreamCopy ρ} :
    copy ∈ asked reader copies ↔ copy ∈ copies ∧ (reader.intersection copy.partitions).isEmpty = false := by
  simp [asked]

private theorem requests_eq (nonempty : reader.start < reader.stop)
    (opened : ∀ copy ∈ copies, copy.offsetRange.1 ≤ checkpoint ∧ checkpoint < copy.offsetRange.2) :
    (copies.filterMap fun copy => (copy.location.serve reader checkpoint).map fun range => (streamId, copy.address, range)) =
      (asked reader copies).map fun copy => (streamId, copy.address, reader.intersection copy.partitions) := by
  induction copies with
  | nil => rfl
  | cons copy rest ih =>
    have later := ih fun other inside => opened other (List.mem_cons_of_mem _ inside)
    have filled : reader.isEmpty = false := beq_eq_false_iff_ne.mpr (Nat.ne_of_lt nonempty)
    rw [asked] at later ⊢
    rcases copy.location.serve_cases reader (opened copy List.mem_cons_self) with ⟨_, empty⟩ | ⟨missing, empty⟩ | ⟨found, overlap⟩
    · rw [filled] at empty
      cases empty
    · have apart : (reader.intersection copy.partitions).isEmpty = true := empty
      rw [List.filterMap_cons_none (by rw [missing]; rfl), later, List.filter_cons, apart]
      rfl
    · have meets : (reader.intersection copy.partitions).isEmpty = false := overlap
      rw [List.filterMap_cons_some (by rw [found]; rfl), later, List.filter_cons, meets]
      rfl

/-- Two copies on one worker can publish such that a request for the one meets the other. -/
private theorem delivered_refused (split : Splits partitions (copies.map UpstreamCopy.partitions))
    (opened : ∀ copy ∈ copies, copy.offsetRange.1 ≤ checkpoint ∧ checkpoint < copy.offsetRange.2)
    (nonempty : reader.start < reader.stop) (within : reader.stop ≤ partitions) {other : UpstreamCopy ρ}
    (inside : other ∈ asked reader copies) (shared : ¬ Alone copies other) (hash : RowHash ρ) (streamId : String) :
    ∃ order : List (UpstreamCopy ρ), order.Perm copies ∧ ∀ peers, Publishes streamId hash order peers →
      delivered peers streamId (copies.map UpstreamCopy.location) checkpoint reader = [] := by
  obtain ⟨key, kept, place⟩ := exists_mem_fiberKeys (List.mem_map_of_mem
    (f := fun copy : UpstreamCopy ρ => (streamId, copy.address, reader.intersection copy.partitions)) inside)
  obtain ⟨copy, asks, rfl⟩ := List.mem_map.mp (mem_of_mem_fiberKeys kept)
  have worker : copy.address = other.address := congrArg Prod.snd place
  obtain ⟨present, _⟩ := mem_asked.mp asks
  obtain ⟨front, back, rfl⟩ := List.append_of_mem present
  -- Some other copy runs on the worker of the copy that the reader asks there.
  obtain ⟨rival, elsewhere, together⟩ : ∃ rival ∈ front ++ back, (rival.address == other.address) = true := by
    rw [← List.countP_pos_iff, Nat.pos_iff_ne_zero]
    intro none
    apply shared
    rw [Alone, List.countP_append, List.countP_cons, if_pos (beq_iff_eq.mpr worker)]
    rw [List.countP_append] at none
    omega
  have member : rival ∈ front ++ copy :: back := by
    rcases List.mem_append.mp elsewhere with left | right
    · exact List.mem_append_left _ left
    · exact List.mem_append_right _ (List.mem_cons_of_mem _ right)
  obtain ⟨first, last, same⟩ := List.append_of_mem member
  refine ⟨first ++ last ++ [rival], ?_, fun peers publishes => ?_⟩
  · rw [same]
    exact (List.perm_append_singleton rival (first ++ last)).trans List.perm_middle.symm
  · rw [delivered_eq ((getAddresses_eq split opened (Nat.le_of_lt nonempty) within).trans
      (congrArg _ (requests_eq nonempty opened)))]
    split
    next => rfl
    next streams created =>
      obtain ⟨position, bound, found⟩ := List.getElem_of_mem kept
      have creation := (mapM_ok created).get bound ((mapM_ok created).length_eq ▸ bound)
      rw [List.get_eq_getElem, found] at creation
      simp only [worker, ← eq_of_beq together] at creation
      have answer := ((createRemoteStream_eq_ok publishes (by simp)).mp creation).1
      rw [intersection_isEmpty_of_split split elsewhere] at answer
      cases answer

end Delivery

/-- Workers that send on each channel what its copy has sent, item by item. -/
def workers (streamId : String) (hash : RowHash ρ) (order : List (UpstreamCopy ρ)) : Peers ρ where
  getClient address := .ok (stores streamId hash order address)
  received _ channel filter :=
    (order[channel]?.map UpstreamCopy.sent).getD [] |>.map fun item => .ok (.ofStreamItem (filterItem filter item))

private theorem publishes_workers (streamId : String) (hash : RowHash ρ) (order : List (UpstreamCopy ρ)) :
    Publishes streamId hash order (workers streamId hash order) where
  reached _ := rfl
  carried channel copy filter found := by
    have unchanged := Carries.unchanged (copy.sent.map (filterItem filter))
    simpa only [workers, found, Option.map_some, Option.getD_some, List.map_map, Function.comp_def] using unchanged

section Once
variable [DecidableEq ρ] {partitions checkpoint : Nat} {copies order : List (UpstreamCopy ρ)} {streamId : String}
  {hash : RowHash ρ} {reader : PartitionRange} {readers : List PartitionRange} {peers : Peers ρ} {row : ρ}

private theorem Splits.below {ranges : List PartitionRange} (splits : Splits partitions ranges) {range : PartitionRange}
    (member : range ∈ ranges) {key : UInt64} (held : range.containsHash key = true) :
    key.toNat % partitions < partitions := by
  have inside := (PartitionRange.containsHash_iff.mp held).2
  rw [splits.same range member] at inside
  exact Nat.lt_of_lt_of_le inside (splits.within range member)

private theorem Splits.countP_containsHash (downstream : Splits partitions readers) {key : UInt64}
    (below : key.toNat % partitions < partitions) : (readers.countP fun reader => reader.containsHash key) = 1 := by
  rw [← downstream.once _ below]
  refine List.countP_congr fun reader present => ?_
  rw [PartitionRange.containsHash, downstream.same reader present]

private theorem nonempty_of_containsHash {key : UInt64} (held : reader.containsHash key = true) :
    reader.start < reader.stop := by
  have inside := PartitionRange.containsHash_iff.mp held
  omega

private theorem DeliveredOnce.exists_reader (once : DeliveredOnce copies streamId hash checkpoint readers)
    (perm : order.Perm copies) (publishes : Publishes streamId hash order peers)
    (present : row ∈ copies.flatMap UpstreamCopy.rows) :
    ∃ reader ∈ readers, (delivered peers streamId (copies.map UpstreamCopy.location) checkpoint reader).count row =
      (copies.flatMap UpstreamCopy.rows).count row := by
  have only := once order peers perm publishes row present
  have counted := List.mem_of_mem_filter (only ▸ List.mem_singleton_self ((copies.flatMap UpstreamCopy.rows).count row))
  obtain ⟨reader, listed, same⟩ := List.mem_map.mp counted
  exact ⟨reader, listed, same⟩

private theorem DeliveredOnce.alone (once : DeliveredOnce copies streamId hash checkpoint readers)
    (upstream : Splits partitions (copies.map UpstreamCopy.partitions)) (downstream : Splits partitions readers)
    (opened : ∀ copy ∈ copies, copy.offsetRange.1 ≤ checkpoint ∧ checkpoint < copy.offsetRange.2)
    (present : row ∈ copies.flatMap UpstreamCopy.rows) (listed : reader ∈ readers)
    (held : reader.containsHash (hash row) = true) {other : UpstreamCopy ρ} (asks : other ∈ copies)
    (overlap : (reader.intersection other.partitions).isEmpty = false) : Alone copies other := by
  by_contra shared
  obtain ⟨order, perm, nothing⟩ := delivered_refused upstream opened (nonempty_of_containsHash held)
    (downstream.within reader listed) (mem_asked.mpr ⟨asks, overlap⟩) shared hash streamId
  have publishes := publishes_workers streamId hash order
  obtain ⟨getter, reads, count⟩ := once.exists_reader perm publishes present
  have got : row ∈ delivered _ streamId (copies.map UpstreamCopy.location) checkpoint getter :=
    List.count_pos_iff.mp (count ▸ List.count_pos_iff.mpr present)
  have itself : getter = reader := by
    apply eq_of_countP_eq_one (downstream.countP_containsHash (downstream.below listed held)) reads _ listed held
    exact containsHash_of_mem_delivered upstream opened downstream reads perm publishes got
  rw [itself, nothing _ publishes] at got
  cases got

end Once

end DatafusionRay.Proofs.Shuffle
