import DatafusionRay.Proofs.ChannelDelivery
import DatafusionRay.Proofs.ConsistentCut
import DatafusionRay.Proofs.StreamSections

/-! A row counter behind a remote source that reads one channel, restarted from a
checkpoint. The count is restored, but the channel is read from its beginning. -/

namespace DatafusionRay.Proofs.ExchangeRecovery
open Streaming Foundation Fibers CountSnapshots ConsistentCut StreamSections

variable {ρ : Type}

/-- The one channel that a source reads under its scheduling details. -/
structure Route (ρ : Type) where
  details : SchedulingDetails
  streamIds : List String
  generation : GenerationSpec
  streamId : String
  address : String
  partitions : PartitionRange
  store : ExchangeChannelStore ρ
  channel : Nat
  filter : Option (ChannelPartitioningDetails ρ)
  served : store.stream streamId partitions = .ok (channel, filter)

namespace Route

/-- The details select this channel and no other at a marker. -/
def Open (route : Route ρ) (marker : Nat) : Prop :=
  ∃ inputDetails, route.details.current route.streamIds marker = .ok (route.generation, inputDetails) ∧
    getAddresses route.generation.partitions marker route.streamIds inputDetails =
      .ok [(route.streamId, route.address, route.partitions)]

/-- The peers serve the channel, and what its stream yields arrives through the filter, in batches of any size. -/
structure Reaches (route : Route ρ) (peers : Peers ρ) (yielded : List (StreamItem ρ)) : Prop where
  client : peers.getClient route.address = .ok route.store
  received : Carries (peers.received route.address route.channel route.filter) (yielded.map (filterItem route.filter))

def items (route : Route ρ) (yielded : List (StreamItem ρ)) : List (SItem ρ) :=
  (yielded.map (filterItem route.filter)).map .ofStreamItem

def markers (route : Route ρ) (yielded : List (StreamItem ρ)) : List Nat := (route.items yielded).filterMap SItem.marker?

def check (route : Route ρ) : Nat → Except DataFusionError FiberState :=
  route.details.checkGenerationAndAddresses route.streamIds route.generation.id
    [(route.streamId, route.address, route.partitions)]

variable {route : Route ρ} {peers : Peers ρ} {yielded : List (StreamItem ρ)}

theorem check_eq_continue {marker : Nat} (open_ : route.Open marker) : route.check marker = .ok .«continue» := by
  obtain ⟨inputDetails, current, addresses⟩ := open_
  simp [check, SchedulingDetails.checkGenerationAndAddresses, current, addresses, bind, Except.bind, pure, Except.pure]

/-- What arrives of the channel, under whatever checkpoint it is asked for. -/
def arrived (route : Route ρ) (peers : Peers ρ) : List (SResult ρ) :=
  peers.received route.address route.channel route.filter

theorem pull_eq {checkpoint : Nat} (open_ : route.Open checkpoint) (reaches : route.Reaches peers yielded) :
    (RemoteSourceFunction.load ⟨route.streamIds, 0⟩ checkpoint).pull peers route.details checkpoint =
      .ok ⟨route.generation.id, [(route.streamId, route.address, route.partitions)], [route.arrived peers],
        .start checkpoint [route.arrived peers]⟩ := by
  obtain ⟨inputDetails, current, addresses⟩ := open_
  have request : createRemoteStream peers route.streamId route.address route.partitions = .ok (route.arrived peers) := by
    simp [createRemoteStream, getStream, reaches.client, route.served, bind, Except.bind, pure, Except.pure,
      Except.mapError, arrived]
  simp [RemoteSourceFunction.pull, RemoteSourceFunction.addressesAt, RemoteSourceFunction.load, current, addresses, fiberKeys,
    request, bind, Except.bind, pure, Except.pure, RunningFibers.start]

end Route

/-- `operator_main_loop` of the task up to the end of its input: the source is
loaded and pulled, its fibers run, and the counter consumes what they put out. -/
def TaskRun (peers : Peers ρ) (details : SchedulingDetails) (streamIds : List String) (uuid : Nat → String)
    (function : CountStarFunction) (checkpoint : Nat) (after : CountStarFunction) (emitted : List (SResult UInt64)) :
    Prop :=
  let source := RemoteSourceFunction.load ⟨streamIds, 0⟩ checkpoint
  ∃ fibers actions running, source.pull peers details checkpoint = .ok fibers ∧
    run (RunningFibers.step (fibers.check source details)) fibers.running actions = some running ∧ Completed running ∧
    function.run uuid (running.output.map Prod.snd) = (after, emitted)

section Sections
variable {first second : List (StreamItem ρ)}

private theorem rowCount_sections (items : List (StreamItem ρ)) :
    rowCount (items.map .ofStreamItem) = (items.flatMap StreamItem.rows).length := by
  rw [List.length_flatMap, rowCount, List.map_map]
  congr 2
  funext item
  cases item <;> rfl

private theorem rowsBefore_sections (number : Nat) (items : List (StreamItem ρ)) :
    rowsBefore number (items.map .ofStreamItem) = (sections items).1.length +
      (((sections items).2.takeWhile fun section_ => section_.1.checkpointNumber ≠ number).map
        fun section_ => section_.2.length).sum := by
  induction items with
  | nil => rfl
  | cons item rest ih =>
    rw [List.map_cons, rowsBefore_cons, ih]
    cases item with
    | marker cut =>
      by_cases here : cut.checkpointNumber = number
      · simp [SItem.ofStreamItem, SItem.marker?, sections, here]
      · simp [SItem.ofStreamItem, SItem.marker?, SItem.numRows, sections, here]
    | recordBatch batch =>
      simp [SItem.ofStreamItem, SItem.marker?, SItem.numRows, RecordBatch.numRows, sections, Nat.add_assoc]

/-- Streams with the same sections have the same markers and the same rows in front of each. -/
private theorem counts_of_sections (same : sections first = sections second) :
    (first.map SItem.ofStreamItem).filterMap SItem.marker? = (second.map SItem.ofStreamItem).filterMap SItem.marker? ∧
      rowCount (first.map .ofStreamItem) = rowCount (second.map .ofStreamItem) ∧
      ∀ number, rowsBefore number (first.map .ofStreamItem) = rowsBefore number (second.map .ofStreamItem) := by
  refine ⟨?_, ?_, fun number => ?_⟩
  · rw [filterMap_marker?, filterMap_marker?, same]
  · rw [rowCount_sections, rowCount_sections, flatMap_rows, flatMap_rows, same]
  · rw [rowsBefore_sections, rowsBefore_sections, same]

end Sections

private theorem okItems_items (items : List (StreamItem ρ)) :
    okItems (items.map fun item => .ok (.ofStreamItem item)) = items.map .ofStreamItem := by
  simp [okItems, List.filterMap_map, Function.comp_def, Except.toOption]

section Task
variable {route : Route ρ} {peers : Peers ρ} {yielded : List (StreamItem ρ)} {uuid : Nat → String}
  {function : CountStarFunction} {checkpoint : Nat}

/-- The counter consumes as many rows as the channel has, in front of each of the same markers. -/
private theorem TaskRun.consumed {after : CountStarFunction} {emitted : List (SResult UInt64)}
    (finished : TaskRun peers route.details route.streamIds uuid function checkpoint after emitted)
    (reaches : route.Reaches peers yielded) (open_ : route.Open checkpoint)
    (opens : ∀ marker ∈ route.markers yielded, route.Open marker) :
    ∃ results : List (SResult ρ), function.run uuid results = (after, emitted) ∧ markersOf results = route.markers yielded ∧
      rowCount (okItems results) = rowCount (route.items yielded) ∧
      ∀ number, rowsBefore number (okItems results) = rowsBefore number (route.items yielded) := by
  obtain ⟨fibers, actions, running, pulled, executed, completed, counted⟩ := finished
  rw [Route.pull_eq open_ reaches] at pulled
  cases pulled
  obtain ⟨items, arrived, same⟩ := reaches.received
  obtain ⟨marked, rows, preceding⟩ := counts_of_sections same
  have heard : markersOf (route.arrived peers) = route.markers yielded := by
    rw [Route.arrived, arrived, ← filterMap_okItems, okItems_items, marked]
    rfl
  have whole : okItems (running.output.map Prod.snd) = items.map .ofStreamItem := by
    rw [(run_alone executed).whole completed, Route.arrived, arrived, okItems_items]
    intro marker member
    rw [heard] at member
    change pauses route.check marker = false
    rw [pauses, Route.check_eq_continue (opens marker member)]
  refine ⟨_, counted, ?_, ?_, fun number => ?_⟩
  · rw [← filterMap_okItems, whole, marked]
    rfl
  · rw [whole, rows, Route.items]
  · rw [whole, preceding, Route.items]

private theorem TaskRun.emits {after : CountStarFunction} {emitted : List (SResult UInt64)} {rows : Nat}
    (finished : TaskRun peers route.details route.streamIds uuid function checkpoint after emitted)
    (reaches : route.Reaches peers yielded) (open_ : route.Open checkpoint)
    (opens : ∀ marker ∈ route.markers yielded, route.Open marker) (base : function.localCount = .ofNat rows) :
    emitted.getLast? = some (.ok (.recordBatch ⟨[.ofNat (rows + rowCount (route.items yielded))]⟩)) := by
  obtain ⟨results, counted, -, rows, -⟩ := finished.consumed reaches open_ opens
  have last := run_emits_count uuid function results
  rwa [(run_recorded uuid results base).2, counted, rows] at last

private theorem exists_taskRun (reaches : route.Reaches peers yielded) (open_ : route.Open checkpoint) :
    ∃ after emitted, TaskRun peers route.details route.streamIds uuid function checkpoint after emitted := by
  have lowers : ∀ before position next, RunningFibers.step route.check before position = some next →
      fibersRank next < fibersRank (before : RunningFibers ρ) := fun _ _ _ => step_lowers
  obtain ⟨actions, running, executed, halted⟩ :=
    exists_halted lowers (.start checkpoint [route.arrived peers])
  exact ⟨_, _, _, actions, running, Route.pull_eq open_ reaches, executed,
    (run_alone executed).completed_of_halted halted, rfl⟩

end Task

private theorem ended_yielded {program : List (StreamResult ρ)} {actions : List ExchangeAction} {exchange : Exchange ρ}
    {reader : Reader ρ} (executed : run Exchange.step (.start program) actions = some exchange)
    (opened : reader ∈ exchange.readers) (ended : reader.phase = .ended) : reader.yielded = exchange.state.vec := by
  have replays := (Channel.run_delivers executed).readers reader opened
  rw [replays.yielded, (replays.ended ended).2, List.take_length]

private theorem load_eq_ok {remote : RemoteStorage} {function : CountStarFunction} {checkpoint : Nat} {snapshot : Db}
    {bytes : Bytes} {value : UInt64} (positive : 0 < checkpoint)
    (restored : function.state.moveToCheckpoint remote checkpoint function.currentPartitionRange =
      .ok { function.state with openDb := snapshot })
    (found : snapshot.lookup CountStarFunction.countKey = some bytes) (decoded : fromBeBytes? bytes = some value) :
    function.load remote checkpoint =
      .ok { function with state := { function.state with openDb := snapshot }, localCount := value } := by
  rw [CountStarFunction.load, if_pos positive, restored]
  simp only [bind, Except.bind, StateBackend.get, found, CountStarFunction.decodeCount, decoded]
  rfl

private theorem TaskRun.recovers {route : Route ρ} {peers : Peers ρ} {yielded : List (StreamItem ρ)} {stateId : String}
    {leftover again : List (String × Db)} {uuid : Nat → String} {function after restarted recovered : CountStarFunction}
    {emitted : List (SResult UInt64)} {checkpoint : Nat} {directory : String} {snapshot : Db} {remote : RemoteStorage}
    (finished : TaskRun peers route.details route.streamIds uuid function 0 after emitted)
    (reaches : route.Reaches peers yielded) (opens : ∀ marker ∈ 0 :: route.markers yielded, route.Open marker)
    (single : (route.markers yielded).count checkpoint = 1)
    (created : CountStarFunction.init stateId route.details.generations leftover = .ok function)
    (unused : StateBackend.NoneNumbered leftover checkpoint)
    (taken : (directory, snapshot) ∈ checkpointsNumbered checkpoint after)
    (recreated : CountStarFunction.init stateId route.details.generations again = .ok restarted)
    (restored : 0 < checkpoint →
      restarted.state.moveToCheckpoint remote checkpoint restarted.currentPartitionRange =
        .ok { restarted.state with openDb := snapshot })
    (loaded : restarted.load remote checkpoint = .ok recovered) :
    recovered.localCount = .ofNat (if checkpoint = 0 then 0 else rowsBefore checkpoint (route.items yielded)) := by
  rw [List.forall_mem_cons] at opens
  obtain ⟨results, counted, marked, -, rows⟩ := finished.consumed reaches opens.1 opens.2
  rw [← marked] at single
  obtain ⟨rfl, zero⟩ := init_fresh created
  have stored : StoredOnce checkpoint _ after :=
    counted ▸ (storedOnce_iff (List.filter_eq_nil_iff.mpr unused) zero).mpr ⟨single, rfl⟩
  obtain ⟨place, saved, bytes, value, only, found, decoded, count⟩ := stored
  rw [only, List.mem_singleton, Prod.mk.injEq] at taken
  obtain ⟨_, rfl⟩ := taken
  by_cases first : checkpoint = 0
  · subst first
    cases loaded
    exact (init_fresh recreated).2
  · have positive := Nat.pos_of_ne_zero first
    rw [load_eq_ok positive (restored positive) found decoded] at loaded
    cases loaded
    rw [if_neg first, ← rows]
    apply UInt64.toNat.inj
    simpa using count

private theorem ofNat_add_eq_iff (base rows : Nat) : UInt64.ofNat (base + rows) = .ofNat (0 + rows) ↔ 2 ^ 64 ∣ base := by
  rw [← UInt64.toNat_inj]
  simp only [UInt64.toNat_ofNat', Nat.zero_add]
  omega

/-- The channel has been read to its end twice: by the task that ran from checkpoint
0 and by the one that was restarted from a marker with the snapshot taken there. The
restarted task comes to its end, but the rows in front of the marker are read and
counted again: its count is the same iff, to a `u64`, there are none. -/
theorem recovered_count_iff {program : List (StreamResult ρ)} {actions : List ExchangeAction} {exchange : Exchange ρ}
    {first second : Reader ρ} {route : Route ρ} {peers again : Peers ρ} {checkpoint : Nat} {stateId : String}
    {leftover leftoverAgain : List (String × Db)} {function after restarted recovered : CountStarFunction}
    {emitted : List (SResult UInt64)} {directory : String} {snapshot : Db} {remote : RemoteStorage}
    (uuid uuidAgain : Nat → String)
    (executed : run Exchange.step (.start program) actions = some exchange)
    (opened : first ∈ exchange.readers ∧ second ∈ exchange.readers)
    (ended : first.phase = .ended ∧ second.phase = .ended)
    (reaches : route.Reaches peers first.yielded ∧ route.Reaches again second.yielded)
    (increasing : (route.markers exchange.state.vec).Pairwise (· < ·))
    (marked : checkpoint ∈ route.markers exchange.state.vec)
    (opens : ∀ marker ∈ 0 :: route.markers exchange.state.vec, route.Open marker)
    (created : CountStarFunction.init stateId route.details.generations leftover = .ok function)
    (unused : StateBackend.NoneNumbered leftover checkpoint)
    (finished : TaskRun peers route.details route.streamIds uuid function 0 after emitted)
    (taken : (directory, snapshot) ∈ checkpointsNumbered checkpoint after)
    (recreated : CountStarFunction.init stateId route.details.generations leftoverAgain = .ok restarted)
    (restored : 0 < checkpoint →
      restarted.state.moveToCheckpoint remote checkpoint restarted.currentPartitionRange =
        .ok { restarted.state with openDb := snapshot })
    (loaded : restarted.load remote checkpoint = .ok recovered) :
    (∃ later repeated,
      TaskRun again route.details route.streamIds uuidAgain recovered checkpoint later repeated) ∧
    ∀ later repeated, TaskRun again route.details route.streamIds uuidAgain recovered checkpoint later repeated →
      (repeated.getLast? = emitted.getLast? ↔
        checkpoint = 0 ∨ 2 ^ 64 ∣ rowsBefore checkpoint (route.items exchange.state.vec)) := by
  rw [ended_yielded executed opened.1 ended.1, ended_yielded executed opened.2 ended.2] at reaches
  have single : (route.markers exchange.state.vec).count checkpoint = 1 :=
    List.count_eq_one_of_mem (increasing.imp Nat.ne_of_lt) marked
  have base := finished.recovers reaches.1 opens single created unused taken recreated restored loaded
  have zero : function.localCount = .ofNat 0 := (init_fresh created).2
  rw [List.forall_mem_cons] at opens
  have here := opens.2 checkpoint marked
  refine ⟨exists_taskRun reaches.2 here, fun later repeated finishedAgain => ?_⟩
  rw [finished.emits reaches.1 opens.1 opens.2 zero, finishedAgain.emits reaches.2 here opens.2 base]
  simp only [Option.some.injEq, Except.ok.injEq, SItem.recordBatch.injEq, RecordBatch.mk.injEq, List.cons.injEq,
    and_true, ofNat_add_eq_iff]
  split
  next zeroth => simp [zeroth]
  next later => simp [later]

def soleRoute : Route Nat where
  details := ⟨some [⟨"initial", .unit, []⟩], some [⟨"numbers", [⟨"worker", (0, 2 <<< 31), .unit⟩]⟩]⟩
  streamIds := ["numbers"]
  generation := ⟨"initial", .unit, []⟩
  streamId := "numbers"
  address := "worker"
  partitions := .unit
  store := ExchangeChannelStore.create ∅ "numbers" (some ⟨fun _ => 0, .unit⟩) 0
  channel := 0
  filter := some ⟨fun _ => 0, .unit⟩
  served := rfl

def solePeers (yielded : List (StreamItem Nat)) : Peers Nat :=
  ⟨fun _ => .ok soleRoute.store, fun _ _ filter => (yielded.map (filterItem filter)).map fun item => .ok (.ofStreamItem item)⟩

def firstCheckpoint (snapshot : Db) : RemoteStorage :=
  ⟨fun _ => some ⟨[⟨"1", [⟨.unit, 0, "snapshot"⟩]⟩]⟩, fun _ => some snapshot⟩

private theorem soleRoute_open : ∀ marker ∈ [0, 1], soleRoute.Open marker := by
  rw [List.forall_mem_cons, List.forall_mem_singleton]
  exact ⟨⟨_, rfl, rfl⟩, ⟨_, rfl, rfl⟩⟩

private theorem soleRoute_restart {yielded : List (StreamItem Nat)} (marked : soleRoute.markers yielded = [1]) :
    ∃ function after emitted directory snapshot recovered,
      CountStarFunction.init "task" soleRoute.details.generations [] = .ok function ∧
        TaskRun (solePeers yielded) soleRoute.details soleRoute.streamIds (fun _ => "first") function 0 after emitted ∧
        (directory, snapshot) ∈ checkpointsNumbered 1 after ∧
        function.state.moveToCheckpoint (firstCheckpoint snapshot) 1 function.currentPartitionRange =
          .ok { function.state with openDb := snapshot } ∧
        function.load (firstCheckpoint snapshot) 1 = .ok recovered := by
  have reaches : soleRoute.Reaches (solePeers yielded) yielded := ⟨rfl, .unchanged _⟩
  have opens : ∀ marker ∈ soleRoute.markers yielded, soleRoute.Open marker := by
    rw [marked]
    exact fun marker member => soleRoute_open marker (List.mem_cons_of_mem 0 member)
  obtain ⟨function, created⟩ : ∃ function, CountStarFunction.init "task" soleRoute.details.generations [] = .ok function :=
    ⟨_, rfl⟩
  obtain ⟨empty, zero⟩ := init_fresh created
  have absent : checkpointsNumbered 1 function = [] := by
    rw [checkpointsNumbered, empty]
    rfl
  obtain ⟨after, emitted, finished⟩ : ∃ after emitted, TaskRun (solePeers yielded) soleRoute.details soleRoute.streamIds
      (fun _ => "first") function 0 after emitted := exists_taskRun reaches (soleRoute_open 0 (by decide))
  obtain ⟨results, counted, heard, -, -⟩ := finished.consumed reaches (soleRoute_open 0 (by decide)) opens
  have single : (markersOf results).count 1 = 1 := by
    rw [heard]
    exact congrArg (List.count 1) marked
  have stored : StoredOnce 1 _ after := counted ▸ (storedOnce_iff absent zero).mpr ⟨single, rfl⟩
  obtain ⟨directory, snapshot, bytes, value, only, found, decoded, _⟩ := stored
  have moved : function.state.moveToCheckpoint (firstCheckpoint snapshot) 1 function.currentPartitionRange =
      .ok { function.state with openDb := snapshot } := by
    cases created
    exact StateBackend.moveToCheckpoint_eq_ok (StateBackend.noneNumbered_nil 1) rfl rfl
  exact ⟨function, after, emitted, directory, snapshot, _, created, finished, by simp [only], moved,
    load_eq_ok Nat.one_pos moved found decoded⟩

def sendThenReadTwice : List ExchangeAction :=
  [.sender, .sender, .sender, .sender, .sender, .sender, .sender, .openReader, .openReader,
    .reader 0, .reader 0, .reader 0, .reader 0, .reader 0, .reader 1, .reader 1, .reader 1, .reader 1, .reader 1]

theorem recovered_count_nothing_before :
    ∃ function after recovered later emitted repeated,
      TaskRun (solePeers [.marker ⟨1⟩, .recordBatch ⟨[1, 2]⟩]) soleRoute.details soleRoute.streamIds (fun _ => "first")
        function 0 after emitted ∧
      TaskRun (solePeers [.marker ⟨1⟩, .recordBatch ⟨[1, 2]⟩]) soleRoute.details soleRoute.streamIds (fun _ => "second")
        recovered 1 later repeated ∧
      repeated.getLast? = emitted.getLast? := by
  obtain ⟨exchange, executed⟩ := Option.isSome_iff_exists.mp (by decide :
    (run Exchange.step (.start [.ok (.marker ⟨1⟩), .ok (.recordBatch ⟨[1, 2]⟩)]) sendThenReadTwice).isSome = true)
  have facts : (run Exchange.step (.start [.ok (.marker ⟨1⟩), .ok (.recordBatch ⟨[1, 2]⟩)]) sendThenReadTwice).map
      (fun exchange => (exchange.state.vec, exchange.readers)) =
      some ([.marker ⟨1⟩, .recordBatch ⟨[1, 2]⟩],
        [⟨2, [.marker ⟨1⟩, .recordBatch ⟨[1, 2]⟩], .ended⟩, ⟨2, [.marker ⟨1⟩, .recordBatch ⟨[1, 2]⟩], .ended⟩]) := by
    decide
  rw [executed, Option.map_some, Option.some.injEq, Prod.mk.injEq] at facts
  obtain ⟨vec, readers⟩ := facts
  have marked : soleRoute.markers exchange.state.vec = [1] := by
    rw [vec]
    rfl
  obtain ⟨function, after, emitted, directory, snapshot, recovered, created, finished, taken, moved, loaded⟩ :=
    soleRoute_restart (vec ▸ marked)
  have opened : (⟨2, [.marker ⟨1⟩, .recordBatch ⟨[1, 2]⟩], .ended⟩ : Reader Nat) ∈ exchange.readers := by simp [readers]
  have reaches : soleRoute.Reaches (solePeers [.marker ⟨1⟩, .recordBatch ⟨[1, 2]⟩])
      [.marker ⟨1⟩, .recordBatch ⟨[1, 2]⟩] := ⟨rfl, .unchanged _⟩
  obtain ⟨⟨later, repeated, finishedAgain⟩, same⟩ := recovered_count_iff (fun _ => "first") (fun _ => "second") executed
    ⟨opened, opened⟩ ⟨rfl, rfl⟩ ⟨reaches, reaches⟩ (by rw [marked]; decide) (by rw [marked]; decide)
    (by rw [marked]; exact soleRoute_open) created (StateBackend.noneNumbered_nil 1) finished taken created (fun _ => moved) loaded
  exact ⟨function, after, recovered, later, emitted, repeated, finished, finishedAgain,
    (same later repeated finishedAgain).mpr (.inr (by rw [vec]; decide))⟩

/-- The one row in front of the marker is counted twice. -/
theorem restarted_task_counts_twice :
    ∃ function after recovered later emitted repeated directory snapshot,
      CountStarFunction.init "task" soleRoute.details.generations [] = .ok function ∧
      TaskRun (solePeers [.recordBatch ⟨[1]⟩, .marker ⟨1⟩]) soleRoute.details soleRoute.streamIds (fun _ => "first")
        function 0 after emitted ∧
      (directory, snapshot) ∈ checkpointsNumbered 1 after ∧
      function.load (firstCheckpoint snapshot) 1 = .ok recovered ∧
      TaskRun (solePeers [.recordBatch ⟨[1]⟩, .marker ⟨1⟩]) soleRoute.details soleRoute.streamIds (fun _ => "second")
        recovered 1 later repeated ∧
      emitted.getLast? = some (.ok (.recordBatch ⟨[1]⟩)) ∧ repeated.getLast? = some (.ok (.recordBatch ⟨[2]⟩)) := by
  have reaches : soleRoute.Reaches (solePeers [.recordBatch ⟨[1]⟩, .marker ⟨1⟩]) [.recordBatch ⟨[1]⟩, .marker ⟨1⟩] :=
    ⟨rfl, .unchanged _⟩
  have marked : soleRoute.markers [.recordBatch ⟨[1]⟩, .marker ⟨1⟩] = [1] := rfl
  have opens : ∀ marker ∈ 0 :: soleRoute.markers [.recordBatch ⟨[1]⟩, .marker ⟨1⟩], soleRoute.Open marker := soleRoute_open
  obtain ⟨function, after, emitted, directory, snapshot, recovered, created, finished, taken, moved, loaded⟩ :=
    soleRoute_restart marked
  obtain ⟨later, repeated, finishedAgain⟩ : ∃ later repeated, TaskRun (solePeers [.recordBatch ⟨[1]⟩, .marker ⟨1⟩])
      soleRoute.details soleRoute.streamIds (fun _ => "second") recovered 1 later repeated :=
    exists_taskRun reaches (soleRoute_open 1 (by decide))
  have base := finished.recovers reaches opens (by decide) created (StateBackend.noneNumbered_nil 1) taken created
    (fun _ => moved) loaded
  have zero : function.localCount = .ofNat 0 := (init_fresh created).2
  rw [List.forall_mem_cons] at opens
  exact ⟨function, after, recovered, later, emitted, repeated, directory, snapshot, created, finished, taken, loaded,
    finishedAgain, finished.emits reaches opens.1 opens.2 zero,
    finishedAgain.emits reaches (soleRoute_open 1 (by decide)) opens.2 base⟩

end DatafusionRay.Proofs.ExchangeRecovery
