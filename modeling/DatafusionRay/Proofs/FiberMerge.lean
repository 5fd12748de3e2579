import DatafusionRay.Proofs.FiberAlignment

/-! The merged output of a remote source, over every interleaving of its fibers:
each stream comes through in order and whole, and the streams are cut at the same markers. -/

namespace DatafusionRay.Proofs.Fibers
open Streaming Foundation RunningFibers

variable {ρ : Type} {check : Nat → Except DataFusionError FiberState}

/-- The leading items of a stream up to and including its first `count` markers. -/
def throughMarkers : Nat → List (SResult ρ) → List (SResult ρ)
  | _, [] => []
  | count, item :: rest =>
    if count = 0 then [] else item :: throughMarkers (count - (markersOf [item]).length) rest

theorem throughMarkers_prefix {items done todo : List (SResult ρ)} {count : Nat} (split : items = done ++ todo)
    (enough : count ≤ (markersOf done).length) : throughMarkers count items <+: done := by
  subst split
  induction done generalizing count with
  | nil =>
    obtain rfl : count = 0 := Nat.le_zero.mp enough
    cases todo <;> simp [throughMarkers]
  | cons item rest ih =>
    rw [← List.singleton_append, markersOf_append, List.length_append] at enough
    rw [List.cons_append, throughMarkers]
    split
    next => exact List.nil_prefix
    next => exact (List.prefix_cons_inj item).mpr (ih (by omega))

/-- What the fibers may have put out: leading parts of their streams, where every
item comes after all fibers have put out all their items through its last marker. -/
structure Merged (streams : List (List (SResult ρ))) (output : List (Nat × SResult ρ)) : Prop where
  origin : ∀ entry ∈ output, entry.1 < streams.length
  kept : ∀ position items, streams[position]? = some items → emittedBy position output <+: items
  cut : ∀ time position item, output[time]? = some (position, item) → ∀ other items, streams[other]? = some items →
    throughMarkers (passed position (output.take time)) items <+: emittedBy other (output.take time)
  apart : ∀ early first item late second later, output[early]? = some (first, item) → output[late]? = some (second, later) →
    passed first (output.take early) < passed second (output.take late) → early < late

private theorem passed_take_le (position : Nat) (output : List (Nat × SResult ρ)) {early late : Nat} (ordered : early ≤ late) :
    passed position (output.take early) ≤ passed position (output.take late) := by
  obtain ⟨more, split⟩ := List.take_prefix_take_left ordered (l := output)
  rw [← split, passed_append]
  exact Nat.le_add_right _ _

theorem Aligned.merged {markers : List Nat} {streams : List (List (SResult ρ))} {round : Nat} {running : RunningFibers ρ}
    (aligned : Aligned markers streams round running) (progress : Progress streams running) :
    Merged streams running.output := by
  have kept : ∀ position items, streams[position]? = some items → emittedBy position running.output <+: items := by
    intro position items given
    obtain ⟨fiber, found⟩ := exists_fiber aligned.size (List.getElem?_eq_some_iff.mp given).1
    obtain ⟨todo, split⟩ := (aligned.stands position items fiber given found).1.split
    exact ⟨todo, split.symm⟩
  refine ⟨progress.origin, kept, ?_, ?_⟩
  · intro time position item located other items given
    have level := aligned.ordered time position item located other (List.getElem?_eq_some_iff.mp given).1
    have earlier : emittedBy other (running.output.take time) <+: emittedBy other running.output := by
      refine ⟨emittedBy other (running.output.drop time), ?_⟩
      rw [← emittedBy_append, List.take_append_drop]
    obtain ⟨todo, split⟩ := earlier.trans (kept other items given)
    exact throughMarkers_prefix split.symm level
  · intro early first item late second later located found less
    by_contra reversed
    have inside := progress.origin _ (List.mem_of_getElem? located)
    have level := aligned.ordered late second later found first inside
    have grown := passed_take_le first running.output (Nat.le_of_not_lt reversed)
    omega

private theorem Aligned.stuck {markers : List Nat} {streams : List (List (SResult ρ))} {round : Nat}
    {running : RunningFibers ρ} (aligned : Aligned markers streams round running) {position : Nat}
    {fiber : RunningFiber ρ} (found : running.fibers[position]? = some fiber)
    (disabled : RunningFibers.step check running position = none) :
    fiber.phase = .finished ∨ fiber.phase = .waiting (running.shared.sharedTriggerState.created - 1) := by
  obtain ⟨items, _, _, stands, within⟩ := aligned.own found
  cases within with
  | finished phase _ => exact .inl phase
  | pending phase _ => exact .inr phase
  | before phase _ _ | checking phase _ _ => exact False.elim (stands.enabled phase aligned.calm found disabled)
  | polling phase _ => simp [RunningFibers.step, aligned.calm, found, phase] at disabled
  | released phase _ sent _ => simp [RunningFibers.step, aligned.calm, found, phase, sent] at disabled

/-- No schedule gets stuck before the ends of the streams. -/
theorem Aligned.complete_of_halted {markers : List Nat} {streams : List (List (SResult ρ))} {round : Nat}
    {running : RunningFibers ρ} (aligned : Aligned markers streams round running)
    (halted : Halted (RunningFibers.step check) running) {position : Nat} {items : List (SResult ρ)}
    (given : streams[position]? = some items) : emittedBy position running.output = items := by
  obtain ⟨fiber, found⟩ := exists_fiber aligned.size (List.getElem?_eq_some_iff.mp given).1
  obtain ⟨stands, within⟩ := aligned.stands position items fiber given found
  rcases aligned.stuck found (halted position) with ended | waiting
  · exact (stands.ended ended).symm
  · have level : passed position running.output = round + 1 := within.of_waiting waiting (by omega)
    have everybody : arrived (running.shared.sharedTriggerState.created - 1) running.fibers = running.fibers.length := by
      refine List.countP_eq_length.mpr fun other member => ?_
      obtain ⟨place, located⟩ := List.mem_iff_getElem?.mp member
      have going := aligned.none_finished found level other member
      exact decide_eq_true ((aligned.stuck located (halted place)).resolve_left going)
    have missing := aligned.missing found (by simp [waiting])
    rw [everybody, aligned.live_eq found level] at missing
    exact False.elim (Nat.lt_irrefl _ missing)

/-- The fibers of a remote source whose streams carry the same markers. As long as
the answer at a marker is Continue, every schedule can be continued until no fiber
can move, the output is cut at the markers all along, and at the end it is whole. -/
theorem merged_output_aligned {markers : List Nat} {streams : List (List (SResult ρ))} {lastCompletedMarker : Nat}
    {actions : List Nat} {running : RunningFibers ρ} (carried : ∀ items ∈ streams, markersOf items = markers)
    (continues : ∀ marker ∈ markers, check marker = .ok .«continue»)
    (executed : run (RunningFibers.step check) (.start lastCompletedMarker streams) actions = some running) :
    running.panicked = false ∧ Merged streams running.output ∧
      (∃ more last, run (RunningFibers.step check) running more = some last ∧ Halted (RunningFibers.step check) last) ∧
      (Halted (RunningFibers.step check) running →
        ∀ position items, streams[position]? = some items → emittedBy position running.output = items) := by
  obtain ⟨round, aligned⟩ := run_aligned carried continues executed
  refine ⟨aligned.calm, aligned.merged (run_progress executed), ?_, ?_⟩
  · exact exists_halted (fun _ _ _ => step_lowers) running
  · exact fun halted _ _ given => aligned.complete_of_halted halted given

def twoFibers : List (List (SResult Nat)) :=
  [[.ok (.recordBatch ⟨[1]⟩), .ok (.marker ⟨1⟩), .ok (.recordBatch ⟨[2]⟩)],
    [.ok (.marker ⟨1⟩), .ok (.recordBatch ⟨[3]⟩)]]

def secondWaits : List Nat := [1, 1, 1, 0, 0, 0, 0, 1, 1, 0, 0, 1]

theorem merged_output_aligned_two_fibers :
    ∃ running, run (RunningFibers.step fun _ => .ok .«continue») (.start 0 twoFibers) secondWaits = some running ∧
      Merged twoFibers running.output ∧
      ∀ position items, twoFibers[position]? = some items → emittedBy position running.output = items := by
  obtain ⟨running, executed⟩ := Option.isSome_iff_exists.mp
    (by decide :
      (run (RunningFibers.step fun _ => .ok .«continue») (.start 0 twoFibers) secondWaits).isSome = true)
  obtain ⟨_, merged, _, whole⟩ := merged_output_aligned (by decide : ∀ items ∈ twoFibers, markersOf items = [1])
    (fun _ _ => rfl) executed
  refine ⟨running, executed, merged, whole fun position => ?_⟩
  have ended : (run (RunningFibers.step fun _ => .ok .«continue») (.start 0 twoFibers) secondWaits).map
      (fun running => running.fibers.all fun fiber => fiber.phase = .finished) = some true := by decide
  rw [executed, Option.map_some, Option.some.injEq, List.all_eq_true] at ended
  unfold RunningFibers.step
  split
  next => rfl
  next =>
    split
    next => rfl
    next fiber found => simp [of_decide_eq_true (ended fiber (List.mem_of_getElem? found))]

end DatafusionRay.Proofs.Fibers
