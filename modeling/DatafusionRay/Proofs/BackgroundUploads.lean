import DatafusionRay.Proofs.UploadCompleteness
import DatafusionRay.Streaming.BackgroundSync

/-! Uploads in the background come out as uploads in the foreground would, one after the
other: the checkpoints are attempted in the order in which the operator took them, what is
listed is the database of that moment, and an attempt that fails holds up no other. -/

namespace DatafusionRay.Proofs.BackgroundUploads
open Streaming Foundation BackgroundSync

section Moves

/-- The actions of the background side, which also lets a waiting send go through. -/
def Background : Action → Prop
  | .send | .receive | .finish => True
  | _ => False

inductive Move (sync : BackgroundSync) : Action → BackgroundSync → Prop where
  | put {key value} : Move sync (.put key value) { sync with backend := sync.backend.put key value }
  | restore {remote listing checkpoint range} (db : Db) :
      Move sync (.moveToCheckpoint remote listing checkpoint range) { sync with backend := { sync.backend with openDb := db } }
  | checkpoint {uuid checkpointId range} (present : sync.dropped = false) (quiet : sync.sending = none)
      (absent : sync.backend.checkpoints.lookup s!"{checkpointId}__{uuid}" = none) :
      Move sync (.checkpoint uuid checkpointId range) { sync with
        backend := sync.backend.checkpoint uuid checkpointId range
        sending := some (toString checkpointId, range, s!"{checkpointId}__{uuid}") }
  | reject {uuid checkpointId range} : Move sync (.checkpoint uuid checkpointId range) sync
  | send {request channel} (waiting : sync.sending = some request) (sent : sync.channel.send request = some (.ok channel)) :
      Move sync .send { sync with sending := none, channel }
  | refuse {request} (waiting : sync.sending = some request) (gone : sync.channel.receiverGone = true) :
      Move sync .send { sync with sending := none }
  | drop (present : sync.dropped = false) : Move sync .drop { sync with
      dropped := true, sending := none, lost := sync.sending, channel := sync.channel.dropSender }
  | receive {request channel} (free : sync.uploading = none) (received : sync.channel.recv = some (some request, channel)) :
      Move sync .receive { sync with uploading := some request, channel }
  | stop {channel} (going : sync.stopped = false) (free : sync.uploading = none)
      (received : sync.channel.recv = some (none, channel)) :
      Move sync .receive { sync with stopped := true, channel := channel.dropReceiver }
  | finish {request} (held : sync.uploading = some request) :
      Move sync .finish { sync with uploading := none, attempted := sync.attempted ++ [request] }

variable {sync next : BackgroundSync} {action : Action}

theorem idle_eq_true : sync.idle = true ↔ sync.dropped = false ∧ sync.sending = none := by
  rw [idle, Bool.and_eq_true, Bool.not_eq_true', Option.isNone_iff_eq_none]

theorem move_of_step (stepped : sync.step action = some next) : Move sync action next := by
  cases action with
  | put key value =>
    simp only [step] at stepped
    split at stepped
    · cases stepped
      exact .put
    · cases stepped
  | moveToCheckpoint remote listing checkpoint range =>
    simp only [step] at stepped
    split at stepped
    · split at stepped
      next moved =>
        cases stepped
        exact .restore _
      next =>
        cases stepped
        exact .restore sync.backend.openDb
    · cases stepped
  | checkpoint uuid checkpointId range =>
    simp only [step] at stepped
    split at stepped
    next ready =>
      obtain ⟨present, quiet⟩ := idle_eq_true.mp ready
      split at stepped
      next absent => cases stepped; exact .checkpoint present quiet absent
      next => cases stepped; exact .reject
    next => cases stepped
  | send =>
    simp only [step] at stepped
    split at stepped
    next waiting =>
      split at stepped
      next sent => cases stepped; exact .send waiting sent
      next refused => cases stepped; exact .refuse waiting (BoundedChannel.send_eq_error refused)
      next => cases stepped
    next => cases stepped
  | drop =>
    simp only [step] at stepped
    split at stepped
    next => cases stepped
    next present => cases stepped; exact .drop (Bool.eq_false_of_not_eq_true present)
  | receive =>
    simp only [step] at stepped
    split at stepped
    next => cases stepped
    next ready =>
      obtain ⟨going, free⟩ := Bool.or_eq_false_iff.mp (Bool.eq_false_iff.mpr ready)
      have free : sync.uploading = none := Option.isSome_eq_false_iff.mp free |> Option.isNone_iff_eq_none.mp
      split at stepped
      next received => cases stepped; exact .receive free received
      next received => cases stepped; exact .stop going free received
      next => cases stepped
  | finish =>
    simp only [step] at stepped
    split at stepped
    next held => cases stepped; exact .finish held
    next => cases stepped

end Moves

/-- The checkpoints that have been taken and not yet been attempted, oldest first. -/
def outstanding (sync : BackgroundSync) : List SyncRequest :=
  sync.uploading.toList ++ sync.channel.queue ++ sync.sending.toList

structure Accounts (sync : BackgroundSync) : Prop where
  capacity : sync.channel.capacity = 1
  sender : sync.channel.senderGone = sync.dropped
  receiver : sync.channel.receiverGone = sync.stopped
  quiet : sync.dropped = true → sync.sending = none
  waited : sync.dropped = false → sync.lost = none
  stopped : sync.stopped = true → sync.dropped = true ∧ sync.channel.queue = [] ∧ sync.uploading = none
  order : sync.attempted ++ outstanding sync ++ sync.lost.toList = sync.backend.backgroundSync

section Accounts
variable {sync next : BackgroundSync} {action : Action}

theorem openNew_accounts (stateId : String) (partitions : PartitionRange) (leftover : List (String × Db)) :
    Accounts (.openNew stateId partitions leftover) where
  capacity := rfl
  sender := rfl
  receiver := rfl
  quiet _ := rfl
  waited _ := rfl
  stopped := Bool.noConfusion
  order := rfl

theorem step_accounts (stepped : sync.step action = some next) (accounts : Accounts sync) : Accounts next := by
  cases move_of_step stepped with
  | put | restore | reject => exact { accounts with }
  | checkpoint present quiet absent =>
    refine { accounts with quiet := ?_, stopped := ?_, order := ?_ }
    · intro dropped
      cases present.symm.trans dropped
    · intro stopped
      cases present.symm.trans (accounts.stopped stopped).1
    · rw [StateBackend.checkpoint, ← accounts.order]
      simp [outstanding, quiet, accounts.waited present]
  | send waiting sent =>
    obtain ⟨bounded, rfl⟩ := BoundedChannel.send_eq_ok sent
    refine { accounts with quiet := fun _ => rfl, stopped := fun stopped => ?_, order := ?_ }
    · cases (accounts.quiet (accounts.stopped stopped).1).symm.trans waiting
    · rw [← accounts.order]
      simp [outstanding, waiting]
  | refuse waiting gone =>
    have dropped := (accounts.stopped (accounts.receiver.symm.trans gone)).1
    cases (accounts.quiet dropped).symm.trans waiting
  | drop present =>
    refine { accounts with
      sender := rfl, quiet := fun _ => rfl, waited := Bool.noConfusion
      stopped := fun stopped => ⟨rfl, (accounts.stopped stopped).2⟩, order := ?_ }
    rw [← accounts.order, accounts.waited present]
    simp [outstanding, BoundedChannel.dropSender]
  | receive free received =>
    obtain ⟨rest, bounded, queued, rfl⟩ := BoundedChannel.recv_eq_some received
    refine { accounts with stopped := fun stopped => ?_, order := ?_ }
    · cases queued.symm.trans (accounts.stopped stopped).2.1
    · rw [← accounts.order]
      simp [outstanding, free, queued]
  | stop going free received =>
    obtain ⟨empty, gone, rfl⟩ := BoundedChannel.recv_eq_none received
    refine { accounts with
      receiver := rfl, stopped := fun _ => ⟨accounts.sender.symm.trans gone, rfl, free⟩, order := ?_ }
    rw [← accounts.order]
    simp [outstanding, empty, BoundedChannel.dropReceiver]
  | finish held =>
    refine { accounts with
      stopped := fun stopped => ⟨(accounts.stopped stopped).1, (accounts.stopped stopped).2.1, rfl⟩, order := ?_ }
    rw [← accounts.order]
    simp [outstanding, held]

theorem run_accounts {stateId : String} {partitions : PartitionRange} {leftover : List (String × Db)} {actions : List Action}
    (executed : run step (.openNew stateId partitions leftover) actions = some sync) : Accounts sync :=
  run_preserves (fun _ _ _ => step_accounts) executed (openNew_accounts stateId partitions leftover)

end Accounts

section Progress
variable {sync next : BackgroundSync} {action : Action}

private theorem length_toList_le {α : Type} (value : Option α) : value.toList.length ≤ 1 := by
  cases value <;> simp

theorem Accounts.outstanding_le (accounts : Accounts sync) : (outstanding sync).length ≤ 3 := by
  have queued := sync.channel.bounded
  rw [accounts.capacity] at queued
  have uploading := length_toList_le sync.uploading
  have sending := length_toList_le sync.sending
  simp only [outstanding, List.length_append]
  omega

/-- How many actions the background side has left. -/
def work (sync : BackgroundSync) : Nat :=
  3 * sync.sending.toList.length + 2 * sync.channel.queue.length + sync.uploading.toList.length +
    (if sync.stopped then 0 else 1)

theorem Accounts.work_le (accounts : Accounts sync) : work sync ≤ 7 := by
  have queued := sync.channel.bounded
  rw [accounts.capacity] at queued
  have uploading := length_toList_le sync.uploading
  have sending := length_toList_le sync.sending
  rw [work]
  split <;> omega

theorem step_work (stepped : sync.step action = some next) (background : Background action) : work next < work sync := by
  cases move_of_step stepped with
  | put | restore | checkpoint | reject | drop => exact background.elim
  | send waiting sent =>
    obtain ⟨bounded, rfl⟩ := BoundedChannel.send_eq_ok sent
    simp only [work, waiting, Option.toList_some, Option.toList_none, List.length_append, List.length_cons, List.length_nil]
    omega
  | refuse waiting gone =>
    simp only [work, waiting, Option.toList_some, Option.toList_none, List.length_cons, List.length_nil]
    omega
  | receive free received =>
    obtain ⟨rest, bounded, queued, rfl⟩ := BoundedChannel.recv_eq_some received
    simp only [work, free, queued, Option.toList_some, Option.toList_none, List.length_cons, List.length_nil]
    omega
  | stop going free received =>
    obtain ⟨empty, gone, rfl⟩ := BoundedChannel.recv_eq_none received
    simp [work, going, empty, BoundedChannel.dropReceiver]
  | finish held =>
    simp only [work, held, Option.toList_some, Option.toList_none, List.length_cons, List.length_nil]
    omega

/-- The background side comes to rest only when every checkpoint has been attempted. -/
theorem Accounts.attempted (accounts : Accounts sync) (resting : ∀ action, Background action → sync.step action = none) :
    outstanding sync = [] := by
  cases held : sync.uploading with
  | some request =>
    have finishing := resting .finish trivial
    simp [step, held] at finishing
  | none =>
    cases stopped : sync.stopped with
    | true =>
      obtain ⟨dropped, empty, free⟩ := accounts.stopped stopped
      simp [outstanding, free, empty, accounts.quiet dropped]
    | false =>
      have waits : sync.channel.recv = none := by
        have receiving := resting .receive trivial
        rw [step, stopped, held] at receiving
        cases received : sync.channel.recv with
        | none => rfl
        | some result =>
          obtain ⟨value, channel⟩ := result
          cases value <;> simp [received] at receiving
      obtain ⟨empty, -⟩ := BoundedChannel.recv_waits waits
      cases waiting : sync.sending with
      | none => simp [outstanding, held, empty, waiting]
      | some request =>
        -- the channel is empty and its receiver is there, so the send goes through
        have full : sync.channel.queue.length = sync.channel.capacity := by
          apply BoundedChannel.send_waits (accounts.receiver.trans stopped)
          have sending := resting .send trivial
          rw [step, waiting] at sending
          cases sent : sync.channel.send request with
          | none => rfl
          | some result => cases result <;> simp [sent] at sending
        rw [empty, accounts.capacity] at full
        cases full

end Progress

/-- Whatever the schedule, the checkpoints are attempted in the order in which they were
taken, each of them once, with at most three of them outstanding. The only one that is
never attempted is one whose call was waiting for the channel when the backend was dropped.
The background side needs at most seven actions to come to rest, and then nothing is
outstanding. -/
theorem background_uploads_ordered {stateId : String} {partitions : PartitionRange} {leftover : List (String × Db)}
    {actions : List Action} {sync : BackgroundSync}
    (executed : run step (.openNew stateId partitions leftover) actions = some sync) :
    sync.attempted ++ outstanding sync ++ sync.lost.toList = sync.backend.backgroundSync ∧
    (sync.dropped = false → sync.lost = none) ∧
    (outstanding sync).length ≤ 3 ∧
    ∀ more last, run step sync more = some last → (∀ action ∈ more, Background action) →
      more.length ≤ 7 ∧ ((∀ action, Background action → last.step action = none) → outstanding last = []) := by
  have accounts := run_accounts executed
  refine ⟨accounts.order, accounts.waited, accounts.outstanding_le, fun more last ran background => ?_⟩
  obtain ⟨settled, short⟩ := guarded_length
    (fun _ _ _ stepped background accounts => ⟨step_accounts stepped accounts, step_work stepped background⟩) ran
    (guarded_of_forall _ background) accounts
  have bound := accounts.work_le
  exact ⟨by omega, settled.attempted⟩

/-- Two checkpoints are taken, and the backend is dropped while a third waits for the channel. -/
def threeCheckpoints : List Action :=
  [.put [0] [1], .checkpoint "a" 1 .full, .send, .receive, .put [0] [2], .checkpoint "b" 2 .full, .send,
    .checkpoint "c" 3 .full, .drop, .finish, .receive, .finish, .receive]

def afterThreeCheckpoints : BackgroundSync :=
  (run step (.openNew "count" .full []) threeCheckpoints).getD (.openNew "count" .full [])

theorem three_checkpoints_attempted :
    run step (.openNew "count" .full []) threeCheckpoints = some afterThreeCheckpoints ∧
      afterThreeCheckpoints.attempted ++ [("3", .full, "3__c")] =
        [("1", .full, "1__a"), ("2", .full, "2__b"), ("3", .full, "3__c")] := by
  have executed : run step (.openNew "count" .full []) threeCheckpoints = some afterThreeCheckpoints := rfl
  obtain ⟨order, -⟩ := background_uploads_ordered executed
  refine ⟨executed, ?_⟩
  rw [show outstanding afterThreeCheckpoints = [] from rfl, List.append_nil] at order
  exact order

end DatafusionRay.Proofs.BackgroundUploads
