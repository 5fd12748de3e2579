import DatafusionRay.Batch.StageOptimizer

/-! What the optimizer rule makes of a plan: the plan itself once the markers are taken
out, with one stage for each operator that needs one, numbered from below, and the last
number at the root. -/

namespace DatafusionRay.Proofs.StageMarking
open Batch RayStageOptimizerRule PhysicalPlan
open Streaming (DataFusionError)

variable {ν π : Type}

mutual

/-- The plan without its stages. -/
def erase : PhysicalPlan ν π → PhysicalPlan ν π
  | .exec operator children => .exec operator (eraseAll children)
  | .stage input _ _ => erase input

def eraseAll : List (PhysicalPlan ν π) → List (PhysicalPlan ν π)
  | [] => []
  | plan :: rest => erase plan :: eraseAll rest

end

mutual

/-- The inputs of the stages and their numbers, each stage after those below it. -/
def stages : PhysicalPlan ν π → List (PhysicalPlan ν π × Nat)
  | .exec _ children => stagesOfAll children
  | .stage input _ stageId => stages input ++ [(input, stageId)]

def stagesOfAll : List (PhysicalPlan ν π) → List (PhysicalPlan ν π × Nat)
  | [] => []
  | plan :: rest => stages plan ++ stagesOfAll rest

end

mutual

/-- The parts of the plan that are to be stages, in the same order. -/
def boundaries : PhysicalPlan ν π → List (PhysicalPlan ν π)
  | .exec operator children =>
    boundariesOfAll children ++ if operator.isBoundary then [.exec operator children] else []
  | .stage input _ _ => boundaries input

def boundariesOfAll : List (PhysicalPlan ν π) → List (PhysicalPlan ν π)
  | [] => []
  | plan :: rest => boundaries plan ++ boundariesOfAll rest

end

mutual

/-- The operators that ought to be right below a stage and are not. -/
def exposed : PhysicalPlan ν π → List (Operator ν)
  | .exec operator children => exposedOfAll children ++ if operator.isBoundary then [operator] else []
  | .stage (.exec _ children) _ _ => exposedOfAll children
  | .stage (.stage input properties stageId) _ _ => exposed (.stage input properties stageId)

def exposedOfAll : List (PhysicalPlan ν π) → List (Operator ν)
  | [] => []
  | plan :: rest => exposed plan ++ exposedOfAll rest

end

variable (operators : Operators ν π)

mutual

/-- Every operator takes the children it has, and every stage has the properties of its
input. -/
def Valid : PhysicalPlan ν π → Prop
  | .exec operator children =>
    operators.withNewChildren operator (propertiesOfAll operators children) = .ok () ∧ ValidAll children
  | .stage input properties _ => properties = input.properties operators ∧ Valid input

def ValidAll : List (PhysicalPlan ν π) → Prop
  | [] => True
  | plan :: rest => Valid plan ∧ ValidAll rest

end

/-- A stage has a larger number than those it reads from. -/
def Ordered (numbered : List (PhysicalPlan ν π × Nat)) : Prop :=
  ∀ stage ∈ numbered, ∀ inner ∈ stages stage.1, inner.2 < stage.2

/-- What a marked plan has to do with the plan. -/
structure Marks (plan marked : PhysicalPlan ν π) (stageCounter : Nat) : Prop where
  erased : erase marked = plan
  properties : marked.properties operators = plan.properties operators
  valid : Valid operators marked
  numbered : (stages marked).map (Prod.map erase id) = (boundaries plan).zipIdx stageCounter
  boxed : exposed marked = []
  ordered : Ordered (stages marked)

structure MarksAll (plans marked : List (PhysicalPlan ν π)) (stageCounter : Nat) : Prop where
  erased : eraseAll marked = plans
  properties : propertiesOfAll operators marked = propertiesOfAll operators plans
  valid : ValidAll operators marked
  numbered : (stagesOfAll marked).map (Prod.map erase id) = (boundariesOfAll plans).zipIdx stageCounter
  boxed : exposedOfAll marked = []
  ordered : Ordered (stagesOfAll marked)

variable {operators}

theorem lt_of_numbered {numbered : List (PhysicalPlan ν π × Nat)} {parts : List (PhysicalPlan ν π)} {stageCounter : Nat}
    (same : numbered.map (Prod.map erase id) = parts.zipIdx stageCounter) {stage : PhysicalPlan ν π × Nat}
    (present : stage ∈ numbered) : stage.2 < stageCounter + parts.length := by
  have mapped : Prod.map erase id stage ∈ parts.zipIdx stageCounter := same ▸ List.mem_map_of_mem present
  have := (List.mem_zipIdx mapped).2.1
  simpa [Nat.add_comm] using this

/-- A stage that is put over a marked plan gets the next number and is above all others. -/
theorem numbered_newStage {plan marked : PhysicalPlan ν π} {parts : List (PhysicalPlan ν π)} {stageCounter : Nat}
    (erased : erase marked = plan) (numbered : (stages marked).map (Prod.map erase id) = parts.zipIdx stageCounter)
    (ordered : Ordered (stages marked)) :
    (stages (marked.newStage operators (stageCounter + parts.length))).map (Prod.map erase id) =
        (parts ++ [plan]).zipIdx stageCounter ∧
      Ordered (stages (marked.newStage operators (stageCounter + parts.length))) := by
  refine ⟨?_, ?_⟩
  · rw [List.zipIdx_append, ← numbered, ← erased]
    simp [PhysicalPlan.newStage, stages]
  · intro stage present
    cases List.mem_append.mp present with
    | inl below => exact ordered stage below
    | inr root =>
      rw [List.mem_singleton.mp root]
      intro inner present
      exact lt_of_numbered numbered present

/-- The closure puts a stage over an operator that needs one and leaves any other alone. -/
theorem up_marks {operator : Operator ν} {children below : List (PhysicalPlan ν π)} {stageCounter : Nat}
    (taken : operators.withNewChildren operator (propertiesOfAll operators children) = .ok ())
    (marks : MarksAll operators children below stageCounter) :
    ∃ marked, up operators (.exec operator below) (stageCounter + (boundariesOfAll children).length) =
        .ok (marked, stageCounter + (boundaries (.exec operator children)).length) ∧
      Marks operators (.exec operator children) marked.data stageCounter := by
  have erased : erase (.exec operator below) = .exec operator children := by rw [erase, marks.erased]
  have properties : (PhysicalPlan.exec operator below).properties operators =
      (PhysicalPlan.exec operator children).properties operators := by
    rw [PhysicalPlan.properties, PhysicalPlan.properties, marks.properties]
  have valid : Valid operators (.exec operator below) := by
    rw [Valid, marks.properties]
    exact ⟨taken, marks.valid⟩
  cases needs : operator.isBoundary with
  | false =>
    have same : boundaries (PhysicalPlan.exec operator children) = boundariesOfAll children := by simp [boundaries, needs]
    have kept : (PhysicalPlan.exec operator below).isBoundary = false := needs
    refine ⟨⟨.exec operator below, false⟩, by simp [up, kept, same], erased, properties, valid, ?_, ?_, marks.ordered⟩
    · rw [same]
      exact marks.numbered
    · simp [exposed, needs, marks.boxed]
  | true =>
    have same : boundaries (PhysicalPlan.exec operator children) =
        boundariesOfAll children ++ [.exec operator children] := by simp [boundaries, needs]
    have marked : (PhysicalPlan.exec operator below).isBoundary = true := needs
    obtain ⟨numbered, ordered⟩ : _ ∧ Ordered (stages ((PhysicalPlan.exec operator below).newStage operators _)) :=
      numbered_newStage erased marks.numbered marks.ordered
    refine ⟨⟨(PhysicalPlan.exec operator below).newStage operators _, true⟩, ?_, erased, properties, ⟨rfl, valid⟩, ?_, ?_,
      ordered⟩
    · simp [up, marked, same, Nat.add_assoc]
    · rw [same]
      exact numbered
    · simp [PhysicalPlan.newStage, exposed, marks.boxed]

theorem Marks.cons {plan first : PhysicalPlan ν π} {rest others : List (PhysicalPlan ν π)} {stageCounter : Nat}
    (marks : Marks operators plan first stageCounter)
    (marksRest : MarksAll operators rest others (stageCounter + (boundaries plan).length)) :
    MarksAll operators (plan :: rest) (first :: others) stageCounter where
  erased := by rw [eraseAll, marks.erased, marksRest.erased]
  properties := by rw [propertiesOfAll, propertiesOfAll, marks.properties, marksRest.properties]
  valid := ⟨marks.valid, marksRest.valid⟩
  numbered := by
    rw [stagesOfAll, boundariesOfAll, List.map_append, marks.numbered, marksRest.numbered, List.zipIdx_append]
  boxed := by rw [exposedOfAll, marks.boxed, marksRest.boxed, List.append_nil]
  ordered stage present := by
    cases List.mem_append.mp present with
    | inl left => exact marks.ordered stage left
    | inr right => exact marksRest.ordered stage right

mutual

theorem transformUp_marks (datafusion : TransformUp operators) : ∀ (plan : PhysicalPlan ν π), stages plan = [] →
    Valid operators plan → ∀ stageCounter, ∃ marked,
      datafusion.transformUp (up operators) plan stageCounter = .ok (marked, stageCounter + (boundaries plan).length) ∧
        Marks operators plan marked.data stageCounter
  | .exec operator children, plain, ⟨taken, valid⟩, stageCounter => by
    obtain ⟨below, transformed, marks⟩ := transformAll_marks datafusion children plain valid stageCounter
    obtain ⟨marked, rewritten, marks'⟩ := up_marks taken marks
    refine ⟨⟨marked.data, below.transformed || marked.transformed⟩, ?_, marks'⟩
    have retaken : operators.withNewChildren operator (propertiesOfAll operators below.data) = .ok () := by
      rw [marks.properties, taken]
    rw [datafusion.exec, transformed]
    cases changed : below.transformed <;> simp [bind, Except.bind, changed, retaken, rewritten, pure, Except.pure]
  | .stage input properties stageId, plain, _, _ => by
    simp [stages] at plain

theorem transformAll_marks (datafusion : TransformUp operators) : ∀ (plans : List (PhysicalPlan ν π)),
    stagesOfAll plans = [] → ValidAll operators plans → ∀ stageCounter, ∃ marked,
      transformAll (datafusion.transformUp (up operators)) plans stageCounter =
          .ok (marked, stageCounter + (boundariesOfAll plans).length) ∧
        MarksAll operators plans marked.data stageCounter
  | [], _, _, stageCounter => ⟨⟨[], false⟩, rfl, rfl, rfl, trivial, rfl, rfl, nofun⟩
  | plan :: rest, plain, ⟨valid, validRest⟩, stageCounter => by
    obtain ⟨plainFirst, plainRest⟩ := List.append_eq_nil_iff.mp plain
    obtain ⟨first, transformed, marks⟩ := transformUp_marks datafusion plan plainFirst valid stageCounter
    obtain ⟨others, transformedRest, marksRest⟩ :=
      transformAll_marks datafusion rest plainRest validRest (stageCounter + (boundaries plan).length)
    refine ⟨⟨first.data :: others.data, first.transformed || others.transformed⟩, ?_, marks.cons marksRest⟩
    rw [transformAll, transformed, boundariesOfAll, List.length_append, ← Nat.add_assoc]
    simp only [bind, Except.bind, transformedRest]
    rfl

end

/-- The rule succeeds and gives back the plan with stages in it: one over each operator
that needs one and one over the whole plan, numbered in the order from below, so that the
root has the last number and every stage a larger one than the stages below it. -/
theorem optimize_marks_stages (datafusion : TransformUp operators) {plan : PhysicalPlan ν π} (plain : stages plan = [])
    (valid : Valid operators plan) :
    ∃ marked, optimize operators datafusion plan = .ok marked ∧ erase marked = plan ∧
      marked.properties operators = plan.properties operators ∧ Valid operators marked ∧
      (stages marked).map (Prod.map erase id) = (boundaries plan ++ [plan]).zipIdx ∧ exposed marked = [] ∧
      Ordered (stages marked) := by
  obtain ⟨result, transformed, marks⟩ := transformUp_marks datafusion plan plain valid 0
  obtain ⟨numbered, ordered⟩ : _ ∧ Ordered (stages (result.data.newStage operators _)) :=
    numbered_newStage marks.erased marks.numbered marks.ordered
  refine ⟨result.data.newStage operators _, ?_, marks.erased, marks.properties, ⟨rfl, marks.valid⟩, numbered, ?_, ordered⟩
  · rw [optimize, transformed]
    rfl
  · have boxed := marks.boxed
    cases below : result.data with
    | exec operator children =>
      rw [below, exposed, List.append_eq_nil_iff] at boxed
      exact boxed.1
    | stage input properties stageId =>
      rw [below] at boxed
      exact boxed

section Recursive
variable {σ : Type} (operators) (rewrite : Rewrite σ (PhysicalPlan ν π))

mutual

/-- A `transform_up` by recursion on the plan. -/
def transformPlan : Rewrite σ (PhysicalPlan ν π)
  | .exec operator children, state => do
    let (below, state) ← transformPlans children state
    if below.transformed then operators.withNewChildren operator (propertiesOfAll operators below.data)
    let (plan, state) ← rewrite (.exec operator below.data) state
    return (⟨plan.data, below.transformed || plan.transformed⟩, state)
  | .stage input properties stageId, state => do
    let (below, state) ← transformPlan input state
    let (plan, state) ← rewrite (.stage below.data properties stageId) state
    return (⟨plan.data, below.transformed || plan.transformed⟩, state)

def transformPlans : Rewrite σ (List (PhysicalPlan ν π))
  | [], state => return (⟨[], false⟩, state)
  | first :: rest, state => do
    let (first, state) ← transformPlan first state
    let (rest, state) ← transformPlans rest state
    return (⟨first.data :: rest.data, first.transformed || rest.transformed⟩, state)

end

theorem transformPlans_eq (plans : List (PhysicalPlan ν π)) (state : σ) :
    transformPlans operators rewrite plans state = transformAll (transformPlan operators rewrite) plans state := by
  induction plans generalizing state with
  | nil => rfl
  | cons first rest ih =>
    rw [transformPlans, transformAll]
    simp only [ih]

end Recursive

def recursive (operators : Operators ν π) : TransformUp operators where
  transformUp := transformPlan operators
  exec rewrite operator children state := by rw [transformPlan, transformPlans_eq]
  stage rewrite input properties stageId state := by rw [transformPlan]

/-- Operators whose properties are their partition counts. -/
def counting : Operators Nat Nat where
  properties
    | .repartition partitions, _ => partitions
    | .other partitions, [] => partitions
    | _, children => children.foldr max 1
  withNewChildren
    | .nestedLoopJoin _, children =>
      if children.length = 2 then .ok () else .error (.internal "Wrong number of children")
    | _, _ => .ok ()

/-- A sorted join of a repartitioned scan with another one. -/
def sortedJoin : PhysicalPlan Nat Nat :=
  .exec (.sort 0) [.exec (.nestedLoopJoin 0) [.exec (.repartition 4) [.exec (.other 2) []], .exec (.other 3) []]]

/-- The repartitioning is stage 0, the join stage 1 and the sort stage 2. -/
theorem sortedJoin_marked :
    ∃ marked, optimize counting (recursive counting) sortedJoin = .ok marked ∧ erase marked = sortedJoin ∧
      (stages marked).map Prod.snd = [0, 1, 2, 3] := by
  have plain : stages sortedJoin = [] := rfl
  have valid : Valid counting sortedJoin := ⟨rfl, ⟨rfl, ⟨rfl, ⟨rfl, trivial⟩, trivial⟩, ⟨rfl, trivial⟩, trivial⟩, trivial⟩
  obtain ⟨marked, optimized, erased, -, -, numbered, -, -⟩ := optimize_marks_stages (recursive counting) plain valid
  refine ⟨marked, optimized, erased, ?_⟩
  have ids := congrArg (List.map Prod.snd) numbered
  rw [List.map_map] at ids
  exact ids

end DatafusionRay.Proofs.StageMarking
