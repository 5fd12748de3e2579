import Mathlib

/-! Fallible programs on a thread. What they have written to the storage of the thread
outlives their errors, and the end of a scope runs whichever way the scope is left. -/

namespace DatafusionRay.Foundation

/-- A program that may fail, on a thread whose storage it can read and write. -/
abbrev Threaded (θ ε α : Type) := ExceptT ε (StateM θ) α

namespace Threaded
variable {θ ε α β ι : Type}

/-- The result of a program and the thread it leaves. -/
def outcome (program : Threaded θ ε α) (thread : θ) : Except ε α × θ := program.run thread

def ofExcept (result : Except ε α) : Threaded θ ε α := ExceptT.mk (pure result)

/-- Runs `release` at the end of a program, after an error as well. -/
def releasing (release : θ → θ) (program : Threaded θ ε α) : Threaded θ ε α :=
  ExceptT.mk fun thread => ((program.outcome thread).1, release (program.outcome thread).2)

def mapError {ε' : Type} (change : ε → ε') (program : Threaded θ ε α) : Threaded θ ε' α :=
  ExceptT.mk fun thread => ((program.outcome thread).1.mapError change, (program.outcome thread).2)

/-- Runs a program on one of several threads. -/
def onThread [DecidableEq ι] (key : ι) (program : Threaded θ ε α) : Threaded (ι → θ) ε α :=
  ExceptT.mk fun threads => ((program.outcome (threads key)).1, Function.update threads key (program.outcome (threads key)).2)

@[simp] theorem outcome_ofExcept (result : Except ε α) (thread : θ) :
    (ofExcept result : Threaded θ ε α).outcome thread = (result, thread) := rfl

@[simp] theorem outcome_releasing (release : θ → θ) (program : Threaded θ ε α) (thread : θ) :
    (releasing release program).outcome thread = ((program.outcome thread).1, release (program.outcome thread).2) :=
  rfl

theorem outcome_bind (program : Threaded θ ε α) (next : α → Threaded θ ε β) (thread : θ) :
    (program >>= next).outcome thread =
      match program.outcome thread with
      | (.ok value, after) => (next value).outcome after
      | (.error error, after) => (.error error, after) := by
  simp only [outcome, ExceptT.run, bind, ExceptT.bind, ExceptT.mk, StateT.bind]
  cases program thread with
  | mk result after => cases result <;> rfl

section Keeps
variable {kept : θ → Prop}

/-- A program leaves the thread in a state that is kept, whether it fails or not. -/
def Keeps (kept : θ → Prop) (program : Threaded θ ε α) : Prop :=
  ∀ thread, kept thread → kept (program.outcome thread).2

theorem keeps_pure (value : α) : Keeps kept (pure value : Threaded θ ε α) := fun _ holds => holds

theorem keeps_throw (error : ε) : Keeps kept (throw error : Threaded θ ε α) := fun _ holds => holds

theorem keeps_ofExcept (result : Except ε α) : Keeps kept (ofExcept result : Threaded θ ε α) := fun _ holds => holds

theorem Keeps.bind {program : Threaded θ ε α} {next : α → Threaded θ ε β} (first : Keeps kept program)
    (rest : ∀ value, Keeps kept (next value)) : Keeps kept (program >>= next) := by
  intro thread holds
  have middle := first thread holds
  rw [outcome_bind]
  cases executed : program.outcome thread with
  | mk result after =>
    rw [executed] at middle
    cases result with
    | ok value => exact rest value after middle
    | error error => exact middle

theorem Keeps.foldlM {step : β → ι → Threaded θ ε β} {items : List ι}
    (each : ∀ item ∈ items, ∀ state, Keeps kept (step state item)) (first : β) :
    Keeps kept (items.foldlM step first) := by
  induction items generalizing first with
  | nil => exact keeps_pure first
  | cons item rest ih =>
    rw [List.foldlM_cons]
    apply (each item List.mem_cons_self first).bind
    intro state
    exact ih (fun other member => each other (List.mem_cons_of_mem _ member)) state

theorem Keeps.mapM {read : ι → Threaded θ ε α} {items : List ι} (each : ∀ item ∈ items, Keeps kept (read item)) :
    Keeps kept (items.mapM read) := by
  induction items with
  | nil => exact keeps_pure []
  | cons item rest ih =>
    rw [List.mapM_cons]
    apply (each item List.mem_cons_self).bind
    intro head
    apply (ih fun other member => each other (List.mem_cons_of_mem _ member)).bind
    intro tail
    exact keeps_pure (head :: tail)

/-- A scope that `release` ends leaves what is kept, whatever its program has done to the
thread it was entered with. -/
theorem keeps_scope {release : θ → θ} (restored : ∀ thread, kept (release thread)) {enter : θ → Except ε θ}
    {program : Threaded θ ε α} {next : α → Threaded θ ε β} (rest : ∀ value, Keeps kept (next value)) :
    Keeps kept (do
      let thread ← get
      let entered ← .ofExcept (enter thread)
      set entered
      let value ← releasing release program
      next value) := by
  intro thread holds
  have scope : ∀ entered, kept ((releasing release program >>= next).outcome entered).2 := by
    intro entered
    rw [outcome_bind, outcome_releasing]
    cases (program.outcome entered).1 with
    | ok value => exact rest value _ (restored _)
    | error error => exact restored _
  rw [outcome_bind]
  change kept ((ofExcept (enter thread) >>= _ : Threaded θ ε β).outcome thread).2
  rw [outcome_bind, outcome_ofExcept]
  cases enter thread with
  | error error => exact holds
  | ok entered => exact scope entered

end Keeps

section Returns

/-- A program succeeds on a thread with this value and leaves that thread. -/
def Returns (program : Threaded θ ε α) (before : θ) (value : α) (after : θ) : Prop :=
  program.outcome before = (.ok value, after)

theorem returns_pure (value : α) (thread : θ) : Returns (pure value : Threaded θ ε α) thread value thread := rfl

theorem returns_ofExcept {result : Except ε α} {value : α} (passed : result = .ok value) (thread : θ) :
    Returns (ofExcept result) thread value thread := by
  rw [Returns, outcome_ofExcept, passed]

theorem returns_get (thread : θ) : Returns (get : Threaded θ ε θ) thread thread thread := rfl

theorem returns_set (before after : θ) : Returns (set after : Threaded θ ε PUnit) before () after := rfl

theorem returns_modify (change : θ → θ) (thread : θ) :
    Returns (modify change : Threaded θ ε PUnit) thread () (change thread) := rfl

theorem Returns.bind {program : Threaded θ ε α} {next : α → Threaded θ ε β} {before middle after : θ} {value : α}
    {result : β} (first : Returns program before value middle) (rest : Returns (next value) middle result after) :
    Returns (program >>= next) before result after := by
  rw [Returns, outcome_bind, first]
  exact rest

theorem returns_bind_iff {program : Threaded θ ε α} {next : α → Threaded θ ε β} {before after : θ} {result : β} :
    Returns (program >>= next) before result after ↔
      ∃ value middle, Returns program before value middle ∧ Returns (next value) middle result after := by
  constructor
  · intro returned
    rw [Returns, outcome_bind] at returned
    cases executed : program.outcome before with
    | mk first middle =>
      rw [executed] at returned
      cases first with
      | ok value => exact ⟨value, middle, executed, returned⟩
      | error error => cases returned
  · rintro ⟨value, middle, first, rest⟩
    exact first.bind rest

/-- A program in two parts fails in the first of them, or in the second after the first. -/
theorem outcome_bind_eq_error {program : Threaded θ ε α} {next : α → Threaded θ ε β} {before after : θ} {error : ε}
    (failed : (program >>= next).outcome before = (.error error, after)) :
    program.outcome before = (.error error, after) ∨
      ∃ value middle, Returns program before value middle ∧ (next value).outcome middle = (.error error, after) := by
  rw [outcome_bind] at failed
  cases executed : program.outcome before with
  | mk first middle =>
    rw [executed] at failed
    cases first with
    | ok value => exact .inr ⟨value, middle, executed, failed⟩
    | error error =>
      cases failed
      exact .inl rfl

theorem returns_pure_iff {value result : α} {before after : θ} :
    Returns (pure value : Threaded θ ε α) before result after ↔ result = value ∧ after = before := by
  constructor
  · rintro ⟨⟩
    exact ⟨rfl, rfl⟩
  · rintro ⟨rfl, rfl⟩
    exact returns_pure _ _

theorem returns_mapError_iff {ε' : Type} {change : ε → ε'} {program : Threaded θ ε α} {before after : θ} {value : α} :
    Returns (mapError change program) before value after ↔ Returns program before value after := by
  change ((program.outcome before).1.mapError change, (program.outcome before).2) = _ ↔ program.outcome before = _
  rcases program.outcome before with ⟨_ | _, thread⟩
  · exact iff_of_false nofun nofun
  · rw [Prod.mk.injEq, Prod.mk.injEq, Except.mapError, Except.ok.injEq, Except.ok.injEq]

theorem returns_onThread_iff [DecidableEq ι] {key : ι} {program : Threaded θ ε α} {before after : ι → θ} {value : α} :
    Returns (onThread key program) before value after ↔
      Returns program (before key) value (after key) ∧ ∀ other, other ≠ key → after other = before other := by
  change ((program.outcome (before key)).1, Function.update before key (program.outcome (before key)).2) = _ ↔
    program.outcome (before key) = _ ∧ _
  rw [Prod.mk.injEq, Prod.ext_iff, and_assoc]
  apply and_congr_right
  intro _
  rw [Function.update_eq_iff, eq_comm]
  apply and_congr_right
  intro _
  exact forall₂_congr fun other _ => eq_comm

theorem Returns.onThread [DecidableEq ι] {key : ι} {program : Threaded θ ε α} {threads : ι → θ} {value : α} {after : θ}
    (returned : Returns program (threads key) value after) :
    Returns (onThread key program) threads value (Function.update threads key after) := by
  rw [returns_onThread_iff, Function.update_self]
  exact ⟨returned, fun other different => Function.update_of_ne different _ _⟩

section Loop
variable {step : β → ι → Threaded θ ε β} {invariant : List ι → β → θ → Prop}

/-- A loop that returns has kept its invariant up to the last item. -/
theorem Returns.foldlM {items : List ι} {first last : β} {before after : θ}
    (kept : ∀ item rest state next thread thread', invariant (item :: rest) state thread →
      Returns (step state item) thread next thread' → invariant rest next thread')
    (initial : invariant items first before) (returned : Returns (items.foldlM step first) before last after) :
    invariant [] last after := by
  induction items generalizing first before with
  | nil =>
    obtain ⟨rfl, rfl⟩ := returns_pure_iff.mp returned
    exact initial
  | cons item rest ih =>
    rw [List.foldlM_cons, returns_bind_iff] at returned
    obtain ⟨next, middle, stepped, rest⟩ := returned
    exact ih (kept _ _ _ _ _ _ initial stepped) rest

/-- A loop returns if each of its steps does. -/
theorem exists_returns_foldlM {items : List ι} {first : β} {before : θ}
    (kept : ∀ item rest state next thread thread', invariant (item :: rest) state thread →
      Returns (step state item) thread next thread' → invariant rest next thread')
    (returns : ∀ item rest state thread, invariant (item :: rest) state thread →
      ∃ next thread', Returns (step state item) thread next thread')
    (initial : invariant items first before) : ∃ last after, Returns (items.foldlM step first) before last after := by
  induction items generalizing first before with
  | nil => exact ⟨first, before, returns_pure _ _⟩
  | cons item rest ih =>
    obtain ⟨next, middle, stepped⟩ := returns _ _ _ _ initial
    obtain ⟨last, after, later⟩ := ih (kept _ _ _ _ _ _ initial stepped)
    refine ⟨last, after, ?_⟩
    rw [List.foldlM_cons]
    exact stepped.bind later

/-- A loop that fails does so at a step that it has come to with its invariant. -/
theorem outcome_foldlM_eq_error {items : List ι} {first : β} {before after : θ} {error : ε}
    (kept : ∀ item rest state next thread thread', invariant (item :: rest) state thread →
      Returns (step state item) thread next thread' → invariant rest next thread')
    (initial : invariant items first before) (failed : (items.foldlM step first).outcome before = (.error error, after)) :
    ∃ item rest state thread thread', invariant (item :: rest) state thread ∧
      (step state item).outcome thread = (.error error, thread') := by
  induction items generalizing first before with
  | nil => cases failed
  | cons item rest ih =>
    rw [List.foldlM_cons] at failed
    cases outcome_bind_eq_error failed with
    | inl here => exact ⟨item, rest, first, before, after, initial, here⟩
    | inr later =>
      obtain ⟨next, middle, stepped, failed⟩ := later
      exact ih (kept _ _ _ _ _ _ initial stepped) failed

end Loop

theorem Returns.releasing {release : θ → θ} {program : Threaded θ ε α} {before after : θ} {value : α}
    (body : Returns program before value after) : Returns (releasing release program) before value (release after) := by
  rw [Returns, outcome_releasing, body]

end Returns

end Threaded

end DatafusionRay.Foundation
