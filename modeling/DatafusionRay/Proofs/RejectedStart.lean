import DatafusionRay.Foundation.Execution
import DatafusionRay.Streaming.WorkerProcess

/-! What a start that is refused leaves behind. The operator task was spawned all
the same, and each exchange output that it initialises before the abort takes
its stream id away from the task that runs. -/

namespace DatafusionRay.Proofs.RejectedStart
open Streaming Foundation

variable {ρ : Type}

/-- Everything a step can do to the channels of a worker. -/
inductive ExchangeMove (publishing : Prop) (before : DataExchangeManager ρ) : DataExchangeManager ρ → Prop where
  | create (publishes : publishing) (streamId : String) (details : Option (ChannelPartitioningDetails ρ)) :
      ExchangeMove publishing before
        ⟨before.exchangeChannelStore.create streamId details before.created, before.created + 1⟩
  | keep (silent : ¬ publishing) : ExchangeMove publishing before before

/-- The operator is an exchange output and its first generation is there. -/
def Publishes (generations : Option (List GenerationSpec)) (spec : RunningSpec ρ) : Prop :=
  ∃ output generation rest, spec = .remoteExchangeOutput output ∧ generations = some (generation :: rest)

def TaskPublishes (leaves : List (String × RunningSpec ρ)) (generations : Option (List GenerationSpec)) :
    TaskStep → Prop
  | .init leaf _ => ∃ stateId spec, leaves[leaf]? = some (stateId, spec) ∧ Publishes generations spec
  | .load _ | .run _ => False

theorem initOperator_moves (exchange : DataExchangeManager ρ) (details : SchedulingDetails)
    (opened : Except DataFusionError Unit) (stateId : String) (spec : RunningSpec ρ) :
    (∃ next, initOperator exchange details opened stateId spec = .ok next ∧
        ExchangeMove (Publishes details.generations spec) exchange next) ∨
      ∃ failure, initOperator exchange details opened stateId spec = .error failure ∧
        ¬ Publishes details.generations spec := by
  have silent (other : ∀ output, spec ≠ .remoteExchangeOutput output) : ¬ Publishes details.generations spec :=
    fun ⟨output, _, _, same, _⟩ => other output same
  cases spec with
  | identity | source | remoteExchangeInput | nested => exact .inl ⟨exchange, rfl, .keep (silent nofun)⟩
  | countStar | countByKey =>
    simp only [initOperator]
    split
    iterate 2 exact .inr ⟨_, rfl, silent nofun⟩
    exact .inl ⟨exchange, rfl, .keep (silent nofun)⟩
  | remoteExchangeOutput output =>
    simp only [initOperator]
    split
    next missing => exact .inr ⟨_, rfl, fun ⟨_, _, _, _, found⟩ => by rw [missing] at found; cases found⟩
    next generations found =>
      cases generations with
      | nil => exact .inr ⟨_, rfl, fun ⟨_, _, _, _, other⟩ => by rw [found] at other; cases other⟩
      | cons generation rest => exact .inl ⟨_, rfl, .create ⟨output, generation, rest, rfl, found⟩ _ _⟩

theorem task_moves {task next : OperatorTask ρ} {exchange after : DataExchangeManager ρ} {step : TaskStep}
    (stepped : task.step exchange step = some (next, after)) :
    next.definition = task.definition ∧ next.runner = task.runner ∧
      ExchangeMove (TaskPublishes task.definition.operator.leaves task.runner.schedulingDetails.generations step)
        exchange after := by
  unfold OperatorTask.step at stepped
  split at stepped
  case h_1 pending leaf opened _ =>
    split at stepped
    next =>
      obtain ⟨⟨stateId, spec⟩, found, outcome⟩ := Option.map_eq_some_iff.mp stepped
      have same : TaskPublishes task.definition.operator.leaves task.runner.schedulingDetails.generations (.init leaf opened) ↔
          Publishes task.runner.schedulingDetails.generations spec := by
        simp [TaskPublishes, found]
      rcases initOperator_moves exchange task.runner.schedulingDetails opened stateId spec with
        ⟨_, done, moved⟩ | ⟨failure, failed, silent⟩
      · simp only [done] at outcome
        cases outcome
        exact ⟨rfl, rfl, propext same ▸ moved⟩
      · simp only [failed] at outcome
        cases outcome
        exact ⟨rfl, rfl, .keep (same.not.mpr silent)⟩
    next => cases stepped
  case h_8 => cases stepped
  all_goals
    cases stepped
    exact ⟨rfl, rfl, .keep id⟩

/-- Every stream is published on a channel that was created. -/
def Issued (exchange : DataExchangeManager ρ) : Prop :=
  ∀ streamId output, exchange.exchangeChannelStore.lookup streamId = some output → output.channel < exchange.created

/-- Some stream is published on a channel created after `first` were. -/
def Newer (first : Nat) (exchange : DataExchangeManager ρ) : Prop :=
  first ≤ exchange.created ∧
    ∃ streamId output, exchange.exchangeChannelStore.lookup streamId = some output ∧ first ≤ output.channel

section Move
variable {publishing : Prop} {before after : DataExchangeManager ρ} (moved : ExchangeMove publishing before after)
include moved

theorem ExchangeMove.issued (issued : Issued before) : Issued after := by
  cases moved with
  | keep _ => exact issued
  | create _ streamId details =>
    intro other output found
    by_cases same : other = streamId
    · subst same
      rw [ExchangeChannelStore.create, AList.lookup_insert] at found
      cases found
      exact Nat.lt_succ_self _
    · rw [ExchangeChannelStore.create, AList.lookup_insert_ne same] at found
      exact Nat.lt_succ_of_lt (issued other output found)

theorem ExchangeMove.created_le : before.created ≤ after.created := by
  cases moved with
  | keep _ => exact Nat.le_refl _
  | create _ _ _ => exact Nat.le_succ _

theorem ExchangeMove.eq_of_silent (silent : ¬ publishing) : after = before := by
  cases moved with
  | keep _ => rfl
  | create publishes _ _ => exact False.elim (silent publishes)

theorem ExchangeMove.newer_of_publishing {first : Nat} (earlier : first ≤ before.created) (publishes : publishing) :
    Newer first after := by
  cases moved with
  | keep silent => exact False.elim (silent publishes)
  | create _ streamId details =>
    exact ⟨Nat.le_succ_of_le earlier, streamId, _, AList.lookup_insert _, earlier⟩

theorem ExchangeMove.newer {first : Nat} (newer : Newer first before) : Newer first after := by
  cases moved with
  | keep _ => exact newer
  | create _ streamId details =>
    obtain ⟨earlier, other, output, found, late⟩ := newer
    by_cases same : other = streamId
    · exact ⟨Nat.le_succ_of_le earlier, streamId, _, AList.lookup_insert _, earlier⟩
    · refine ⟨Nat.le_succ_of_le earlier, other, output, ?_, late⟩
      rw [ExchangeChannelStore.create, AList.lookup_insert_ne same]
      exact found

end Move

theorem worker_moves {worker next : WorkerProcess ρ} {action : WorkerAction ρ} (stepped : worker.step action = some next) :
    ∃ publishing, ExchangeMove publishing worker.exchange next.exchange := by
  have kept (same : next.exchange = worker.exchange) : ∃ publishing, ExchangeMove publishing worker.exchange next.exchange :=
    ⟨False, same ▸ .keep id⟩
  cases action with
  | startTask request =>
    simp only [WorkerProcess.step] at stepped
    split at stepped <;> exact kept (by cases stepped; rfl)
  | register position =>
    obtain ⟨task, _, registered⟩ := Option.bind_eq_some_iff.mp stepped
    split at registered
    next =>
      cases registered
      refine kept ?_
      unfold WorkerProcess.register
      split <;> rfl
    next => cases registered
  | updateInput taskId update =>
    simp only [WorkerProcess.step] at stepped
    split at stepped
    next => exact kept (by cases stepped; rfl)
    next =>
      obtain ⟨task, _, rfl⟩ := Option.map_eq_some_iff.mp stepped
      exact kept rfl
  | task position taskStep =>
    obtain ⟨task, _, moved⟩ := Option.bind_eq_some_iff.mp stepped
    obtain ⟨⟨after, exchange⟩, taken, rfl⟩ := Option.map_eq_some_iff.mp moved
    exact ⟨_, (task_moves taken).2.2⟩
  | abort position =>
    obtain ⟨task, _, aborted⟩ := Option.bind_eq_some_iff.mp stepped
    split at aborted
    next =>
      cases aborted
      exact kept rfl
    next => cases aborted

theorem reachable_issued {actions : List (WorkerAction ρ)} {worker : WorkerProcess ρ}
    (reached : run WorkerProcess.step .start actions = some worker) : Issued worker.exchange := by
  have initial : Issued (WorkerProcess.start : WorkerProcess ρ).exchange := nofun
  have kept (before : WorkerProcess ρ) (action : WorkerAction ρ) (after : WorkerProcess ρ)
      (stepped : before.step action = some after) (issued : Issued before.exchange) : Issued after.exchange := by
    obtain ⟨_, moved⟩ := worker_moves stepped
    exact moved.issued issued
  exact run_preserves kept reached initial

section Call
variable {request : StartTask ρ} {position : Nat}

/-- The actions of a call on the operator task that it has spawned. -/
inductive CallAction (position : Nat) : WorkerAction ρ → Prop where
  | task (step : TaskStep) : CallAction position (.task position step)
  | register : CallAction position (.register position)
  | abort : CallAction position (.abort position)

/-- The step initialises an exchange output of the task that the call has spawned. -/
def StepPublishes (request : StartTask ρ) : TaskStep → Prop :=
  TaskPublishes request.definition.operator.leaves (some request.details.generations)

def ActionPublishes (request : StartTask ρ) : WorkerAction ρ → Prop
  | .task _ step => StepPublishes request step
  | _ => False

/-- The task at the position is the one that the call has spawned, with the details it was given. -/
def Spawned (request : StartTask ρ) (position : Nat) (worker : WorkerProcess ρ) : Prop :=
  ∃ task, worker.tasks[position]? = some task ∧ task.definition = request.definition ∧
    task.runner.schedulingDetails.generations = some request.details.generations

private theorem spawned_set {worker : WorkerProcess ρ} {task next : OperatorTask ρ} {tasks : List (OperatorTask ρ)}
    (found : tasks[position]? = some task) (replaced : worker.tasks = tasks.set position next)
    (definition : next.definition = request.definition)
    (generations : next.runner.schedulingDetails.generations = some request.details.generations) :
    Spawned request position worker := by
  refine ⟨next, ?_, definition, generations⟩
  rw [replaced]
  exact List.getElem?_set_self (List.getElem?_eq_some_iff.mp found).1

theorem call_moves {worker next : WorkerProcess ρ} {action : WorkerAction ρ} (own : CallAction position action)
    (spawned : Spawned request position worker) (stepped : worker.step action = some next) :
    Spawned request position next ∧ ExchangeMove (ActionPublishes request action) worker.exchange next.exchange := by
  obtain ⟨task, found, definition, generations⟩ := spawned
  cases own with
  | task step =>
    simp only [WorkerProcess.step, found, Option.bind_some, Option.map_eq_some_iff] at stepped
    obtain ⟨⟨after, exchange⟩, taken, rfl⟩ := stepped
    obtain ⟨sameDefinition, sameRunner, moved⟩ := task_moves taken
    refine ⟨spawned_set found rfl (sameDefinition.trans definition) (by rw [sameRunner, generations]), ?_⟩
    rw [definition, generations] at moved
    exact moved
  | register =>
    simp only [WorkerProcess.step, found, Option.bind_some] at stepped
    split at stepped
    next =>
      cases stepped
      unfold WorkerProcess.register
      split <;> exact ⟨spawned_set found rfl definition generations, .keep id⟩
    next => cases stepped
  | abort =>
    simp only [WorkerProcess.step, found, Option.bind_some] at stepped
    split at stepped
    next =>
      cases stepped
      refine ⟨spawned_set found rfl ?_ ?_, .keep id⟩ <;> unfold OperatorTask.abort <;> split <;> assumption
    next => cases stepped

/-- Over the actions of a call: the channels are as they were, or one of those published is new. -/
theorem call_run {worker last : WorkerProcess ρ} {actions : List (WorkerAction ρ)}
    (own : ∀ action ∈ actions, CallAction position action) (spawned : Spawned request position worker)
    (executed : run WorkerProcess.step worker actions = some last) {first : Nat}
    (earlier : first ≤ worker.exchange.created) :
    ((∀ action ∈ actions, ¬ ActionPublishes request action) → last.exchange = worker.exchange) ∧
      ((∃ action ∈ actions, ActionPublishes request action) ∨ Newer first worker.exchange → Newer first last.exchange) := by
  induction actions generalizing worker with
  | nil =>
    cases executed
    refine ⟨fun _ => rfl, ?_⟩
    rintro (⟨_, member, _⟩ | newer)
    · exact False.elim (List.not_mem_nil member)
    · exact newer
  | cons action rest ih =>
    rw [List.forall_mem_cons] at own
    obtain ⟨next, stepped, remaining⟩ := run_cons_eq_some.mp executed
    obtain ⟨spawnedNext, moved⟩ := call_moves own.1 spawned stepped
    obtain ⟨unchanged, renewed⟩ := ih own.2 spawnedNext remaining (earlier.trans moved.created_le)
    constructor
    · intro silent
      rw [List.forall_mem_cons] at silent
      exact (unchanged silent.2).trans (moved.eq_of_silent silent.1)
    · rintro (⟨other, member, publishes⟩ | newer)
      · rcases List.mem_cons.mp member with rfl | later
        · exact renewed (.inr (moved.newer_of_publishing earlier publishes))
        · exact renewed (.inl ⟨other, later, publishes⟩)
      · exact renewed (.inr (moved.newer newer))

end Call

/-- What follows the spawn in a call whose id is taken: the steps that the operator
task takes before the check and between the check and the abort. -/
def afterSpawn (position : Nat) (before after : List TaskStep) : List (WorkerAction ρ) :=
  before.map (.task position) ++ .register position :: (after.map (.task position) ++ [.abort position])

def rejectedCall (request : StartTask ρ) (position : Nat) (before after : List TaskStep) : List (WorkerAction ρ) :=
  if request.definition.operator.inputs ≠ [] ∨ request.definition.operator.outputs ≠ [] then [.startTask request]
  else .startTask request :: afterSpawn position before after

private theorem mem_afterSpawn {position : Nat} {before after : List TaskStep} {action : WorkerAction ρ} :
    action ∈ afterSpawn position before after ↔
      (∃ step ∈ before ++ after, action = .task position step) ∨ action = .register position ∨ action = .abort position := by
  grind [afterSpawn]

/-- Nothing is spawned, or no exchange output of the spawned task is initialised. -/
def Harmless (request : StartTask ρ) (steps : List TaskStep) : Prop :=
  request.definition.operator.inputs ≠ [] ∨ request.definition.operator.outputs ≠ [] ∨
    ∀ step ∈ steps, ¬ StepPublishes request step

/-- The check refuses an id that is taken and leaves the running tasks alone. -/
theorem register_taken {worker : WorkerProcess ρ} {position : Nat} {task : OperatorTask ρ}
    (taken : task.definition.taskId ∈ worker.runningTasks) (found : worker.tasks[position]? = some task) :
    (worker.register position task).runningTasks = worker.runningTasks ∧
      (worker.register position task).tasks[position]?.bind OperatorTask.reply =
        some (.error (WorkerProcess.alreadyRunning task.definition.taskId)) := by
  obtain ⟨running, present⟩ := Option.isSome_iff_exists.mp (AList.lookup_isSome.mpr taken)
  rw [WorkerProcess.register, present]
  refine ⟨rfl, ?_⟩
  rw [List.getElem?_set_self (List.getElem?_eq_some_iff.mp found).1]
  rfl

/-- Only a call that the check refused gets as far as the abort. -/
theorem rejected_start_keeps_streams_iff (history : List (WorkerAction ρ)) (worker last : WorkerProcess ρ)
    (reached : run WorkerProcess.step .start history = some worker) (request : StartTask ρ) (before after : List TaskStep)
    (called : run WorkerProcess.step worker (rejectedCall request worker.tasks.length before after) = some last) :
    (∀ streamId, last.exchange.exchangeChannelStore.lookup streamId =
      worker.exchange.exchangeChannelStore.lookup streamId) ↔ Harmless request (before ++ after) := by
  by_cases streams : request.definition.operator.inputs ≠ [] ∨ request.definition.operator.outputs ≠ []
  · rw [rejectedCall, if_pos streams, run, WorkerProcess.step, if_pos streams] at called
    cases called
    exact iff_of_true (fun _ => rfl) (streams.imp_right .inl)
  · rw [rejectedCall, if_neg streams] at called
    obtain ⟨started, stepped, remaining⟩ := run_cons_eq_some.mp called
    rw [WorkerProcess.step, if_neg streams] at stepped
    cases stepped
    have spawned : Spawned request worker.tasks.length { worker with tasks := worker.tasks ++ [.spawn request] } :=
      ⟨_, List.getElem?_concat_length, rfl, rfl⟩
    have own : ∀ action : WorkerAction ρ, action ∈ afterSpawn worker.tasks.length before after →
        CallAction worker.tasks.length action := by
      intro action member
      rcases mem_afterSpawn.mp member with ⟨step, _, rfl⟩ | rfl | rfl
      · exact .task step
      · exact .register
      · exact .abort
    obtain ⟨unchanged, renewed⟩ := call_run own spawned remaining (Nat.le_refl _)
    constructor
    · refine fun same => .inr (.inr fun step member publishes => ?_)
      have executed : (.task worker.tasks.length step : WorkerAction ρ) ∈ afterSpawn worker.tasks.length before after :=
        mem_afterSpawn.mpr (.inl ⟨step, member, rfl⟩)
      obtain ⟨_, streamId, output, found, late⟩ := renewed (.inl ⟨_, executed, publishes⟩)
      have early := reachable_issued reached streamId output ((same streamId).symm.trans found)
      exact absurd late (Nat.not_le.mpr early)
    · rintro (some | some | silent) streamId
      · exact absurd (.inl some) streams
      · exact absurd (.inr some) streams
      · rw [unchanged fun action member => ?_]
        rcases mem_afterSpawn.mp member with ⟨step, own, rfl⟩ | rfl | rfl
        · exact silent step own
        · exact id
        · exact id

/-- A task with one exchange output, started under the same id by each call. -/
def outputTask (checkpoint : Nat) : StartTask Nat :=
  ⟨⟨"task", .mk "1" "1" (.remoteExchangeOutput ⟨"out", none⟩) [] []⟩, ⟨[⟨"initial_generation", .unit, []⟩], []⟩, checkpoint⟩

def startedOnce : List (WorkerAction Nat) := [.startTask (outputTask 0), .register 0, .task 0 (.init 0 (.ok ()))]

/-- A second start that is aborted before its operator is initialised. -/
theorem early_abort_keeps_streams :
    ∃ worker last : WorkerProcess Nat, run WorkerProcess.step .start startedOnce = some worker ∧
      run WorkerProcess.step worker (rejectedCall (outputTask 5) 1 [] []) = some last ∧
        ∀ streamId, last.exchange.exchangeChannelStore.lookup streamId =
          worker.exchange.exchangeChannelStore.lookup streamId := by
  refine ⟨_, _, rfl, rfl, ?_⟩
  exact (rejected_start_keeps_streams_iff startedOnce _ _ rfl (outputTask 5) [] [] rfl).mpr
    (.inr (.inr nofun))

/-- The second start is refused, but its operator was initialised first: the stream
of the running task now names the channel of the aborted one. -/
theorem late_abort_replaces_stream :
    ∃ worker last : WorkerProcess Nat, run WorkerProcess.step .start startedOnce = some worker ∧
      run WorkerProcess.step worker (rejectedCall (outputTask 5) 1 [.init 0 (.ok ())] []) = some last ∧
        (last.tasks[1]?.bind OperatorTask.reply) = some (.error (.internal "Task with ID task is already running")) ∧
          (worker.exchange.exchangeChannelStore.lookup "out").map OutputStream.channel = some 0 ∧
            (last.exchange.exchangeChannelStore.lookup "out").map OutputStream.channel = some 1 :=
  ⟨_, _, rfl, rfl, rfl, rfl, rfl⟩

end DatafusionRay.Proofs.RejectedStart
