import DatafusionRay.Foundation.Execution
import Mathlib

/-! Clients that read a shared register once and later overwrite it once with a
value computed from what they read. No update is lost exactly when every write
still finds the content its client has read. -/

namespace DatafusionRay.Foundation.ReadModifyWrite

universe u v w

inductive Phase (β : Type w) where
  | idle
  | loaded (value : β)
  | returned
  deriving DecidableEq, Repr

structure Session (ι : Type u) (σ : Type v) (β : Type w) where
  register : σ
  phases : ι → Phase β

variable {ι : Type u} {σ : Type v} {β : Type w} [DecidableEq ι]

def start (register : σ) : Session ι σ β := ⟨register, fun _ => .idle⟩

def advance (read : σ → β) (update : ι → β → σ) (session : Session ι σ β) (client : ι) : Option (Session ι σ β) :=
  match session.phases client with
  | .idle => some { session with phases := Function.update session.phases client (.loaded (read session.register)) }
  | .loaded value => some ⟨update client value, Function.update session.phases client .returned⟩
  | .returned => none

/-- If the client's next step is its write, nobody has changed what it read. -/
def Fresh (read : σ → β) (session : Session ι σ β) (client : ι) : Prop :=
  ∀ value, session.phases client = .loaded value → value = read session.register

instance [DecidableEq β] (read : σ → β) (session : Session ι σ β) (client : ι) :
    Decidable (Fresh read session client) :=
  match phase : session.phases client with
  | .idle | .returned => .isTrue fun _ loaded => by simp [phase] at loaded
  | .loaded value => decidable_of_iff (value = read session.register) (by simp [Fresh, phase])

/-- An update adds its own client to those the content lists and keeps the others. -/
structure Accumulates (read : σ → β) (update : ι → β → σ) (listed : β → ι → Prop) : Prop where
  adds : ∀ client value, listed (read (update client value)) client
  keeps : ∀ client value other, listed value other → listed (read (update client value)) other

structure Identifies (read : σ → β) (update : ι → β → σ) (listed : β → ι → Prop) : Prop where
  only : ∀ client value other, listed (read (update client value)) other → other = client ∨ listed value other

variable {read : σ → β} {update : ι → β → σ} {listed : β → ι → Prop}

inductive Move (read : σ → β) (update : ι → β → σ) (before : Session ι σ β) (client : ι) : Session ι σ β → Prop where
  | load (idle : before.phases client = .idle) : Move read update before client
      { before with phases := Function.update before.phases client (.loaded (read before.register)) }
  | store {value} (loaded : before.phases client = .loaded value) : Move read update before client
      ⟨update client value, Function.update before.phases client .returned⟩

theorem advance_moves {before after : Session ι σ β} {client : ι}
    (stepped : advance read update before client = some after) : Move read update before client after := by
  unfold advance at stepped
  split at stepped
  next idle =>
    cases stepped
    exact .load idle
  next value loaded =>
    cases stepped
    exact .store loaded
  next => cases stepped

theorem Move.returned {before after : Session ι σ β} {client other : ι} (moved : Move read update before client after)
    (returned : before.phases other = .returned) : after.phases other = .returned := by
  cases moved with
  | load idle =>
    have distinct : other ≠ client := fun same => by simp [same, idle] at returned
    simpa [distinct] using returned
  | store _ =>
    by_cases same : other = client <;> simp [same, returned]

/-- Fresh writes never lose the update of a client that has returned. -/
theorem fresh_lists (accumulates : Accumulates read update listed) {register : σ} {last : Session ι σ β}
    {actions : List ι} (executed : run (advance read update) (start register) actions = some last)
    (fresh : Guarded (advance read update) (Fresh read) (start register) actions) {client : ι}
    (returned : last.phases client = .returned) : listed (read last.register) client := by
  have kept (before : Session ι σ β) (action : ι) (after : Session ι σ β)
      (stepped : advance read update before action = some after) (current : Fresh read before action)
      (listing : ∀ client, before.phases client = .returned → listed (read before.register) client) :
      ∀ client, after.phases client = .returned → listed (read after.register) client := by
    intro client done
    cases advance_moves stepped with
    | load _ =>
      by_cases same : client = action
      · simp [same] at done
      · exact listing client (by simpa [same] using done)
    | store loaded =>
      by_cases same : client = action
      · exact same ▸ accumulates.adds client _
      · rw [current _ loaded]
        exact accumulates.keeps action _ client (listing client (by simpa [same] using done))
  exact guarded_preserves kept executed fresh nofun client returned

def Misses (listed : β → ι → Prop) (session : Session ι σ β) (value : β) : Prop :=
  ∃ client, session.phases client = .returned ∧ ¬ listed value client

/-- Only clients that have returned are listed, in the register and in what was read. -/
structure Known (read : σ → β) (listed : β → ι → Prop) (session : Session ι σ β) : Prop where
  register : ∀ client, listed (read session.register) client → session.phases client = .returned
  loaded : ∀ reader value, session.phases reader = .loaded value →
    ∀ client, listed value client → session.phases client = .returned

def Dated (read : σ → β) (listed : β → ι → Prop) (session : Session ι σ β) : Prop :=
  ∀ reader value, session.phases reader = .loaded value →
    value = read session.register ∨ Misses listed session value

/-- An update has been lost, and no pending write can bring all of them back. -/
structure Lossy (read : σ → β) (listed : β → ι → Prop) (session : Session ι σ β) : Prop where
  register : Misses listed session (read session.register)
  loaded : ∀ reader value, session.phases reader = .loaded value → Misses listed session value

private theorem Misses.move {before after : Session ι σ β} {client : ι} {value : β}
    (moved : Move read update before client after) (misses : Misses listed before value) :
    Misses listed after value := by
  obtain ⟨other, returned, unlisted⟩ := misses
  exact ⟨other, moved.returned returned, unlisted⟩

private theorem Known.move (identifies : Identifies read update listed) {before after : Session ι σ β} {client : ι}
    (moved : Move read update before client after) (known : Known read listed before) :
    Known read listed after := by
  refine ⟨fun other listing => ?_, fun reader value held other listing => ?_⟩
  · cases moved with
    | load idle => exact (Move.load idle : Move read update before client _).returned (known.register other listing)
    | store loaded =>
      rcases identifies.only _ _ _ listing with rfl | earlier
      · simp
      · exact (Move.store loaded : Move read update before client _).returned (known.loaded _ _ loaded _ earlier)
  · apply moved.returned
    cases moved with
    | load _ =>
      by_cases same : reader = client
      · simp only [same, Function.update_self, Phase.loaded.injEq] at held
        exact known.register other (held ▸ listing)
      · exact known.loaded reader value (by simpa [same] using held) other listing
    | store _ =>
      by_cases same : reader = client
      · simp [same] at held
      · exact known.loaded reader value (by simpa [same] using held) other listing

private theorem misses_writer {before : Session ι σ β} {client reader : ι} {value stale : β} {register : σ}
    (known : Known read listed before) (loaded : before.phases client = .loaded value)
    (held : Function.update before.phases client .returned reader = .loaded stale) :
    Misses listed ⟨register, Function.update before.phases client .returned⟩ stale := by
  refine ⟨client, by simp, fun listing => ?_⟩
  by_cases same : reader = client
  · simp [same] at held
  · have returned := known.loaded reader stale (by simpa [same] using held) client listing
    rw [loaded] at returned
    cases returned

private theorem Dated.move {before after : Session ι σ β} {client : ι}
    (moved : Move read update before client after) (known : Known read listed before)
    (dated : Dated read listed before) : Dated read listed after := by
  intro reader value held
  cases moved with
  | load idle =>
    by_cases same : reader = client
    · simp only [same, Function.update_self, Phase.loaded.injEq] at held
      exact .inl held.symm
    · rcases dated reader value (by simpa [same] using held) with current | misses
      · exact .inl current
      · exact .inr (misses.move (Move.load idle : Move read update before client _))
  | store loaded => exact .inr (misses_writer known loaded held)

private theorem lossy_of_store (identifies : Identifies read update listed) {before : Session ι σ β} {client : ι}
    {value : β} (known : Known read listed before) (loaded : before.phases client = .loaded value)
    (misses : Misses listed before value) :
    Lossy read listed ⟨update client value, Function.update before.phases client .returned⟩ := by
  refine ⟨?_, fun _ _ held => misses_writer known loaded held⟩
  obtain ⟨other, returned, unlisted⟩ := misses
  have distinct : other ≠ client := by
    rintro rfl
    rw [loaded] at returned
    cases returned
  refine ⟨other, by simpa [distinct] using returned, fun listing => ?_⟩
  exact (identifies.only _ _ _ listing).elim distinct unlisted

private theorem Lossy.move (identifies : Identifies read update listed) {before after : Session ι σ β} {client : ι}
    (moved : Move read update before client after) (known : Known read listed before)
    (lossy : Lossy read listed before) : Lossy read listed after := by
  cases moved with
  | load idle =>
    have moved : Move read update before client _ := .load idle
    refine ⟨lossy.register.move moved, fun reader value held => ?_⟩
    by_cases same : reader = client
    · simp only [same, Function.update_self, Phase.loaded.injEq] at held
      exact held ▸ lossy.register.move moved
    · exact (lossy.loaded reader value (by simpa [same] using held)).move moved
  | store loaded => exact lossy_of_store identifies known loaded (lossy.loaded _ _ loaded)

private theorem fresh_or_lossy (identifies : Identifies read update listed) {first last : Session ι σ β}
    {actions : List ι} (executed : run (advance read update) first actions = some last)
    (known : Known read listed first) (dated : Dated read listed first) :
    Guarded (advance read update) (Fresh read) first actions ∨ Lossy read listed last := by
  induction actions generalizing first with
  | nil => exact .inl trivial
  | cons action rest ih =>
    obtain ⟨next, stepped, remaining⟩ := run_cons_eq_some.mp executed
    have moved := advance_moves stepped
    by_cases fresh : Fresh read first action
    · refine (ih remaining (known.move identifies moved) (dated.move moved known)).imp_left fun guarded => ?_
      refine ⟨fresh, fun other same => ?_⟩
      rw [stepped, Option.some.injEq] at same
      exact same ▸ guarded
    · simp only [Fresh, not_forall] at fresh
      obtain ⟨value, loaded, stale⟩ := fresh
      have lost : Lossy read listed next := by
        cases moved with
        | load idle => simp [idle] at loaded
        | store held =>
          rw [held, Phase.loaded.injEq] at loaded
          subst loaded
          exact lossy_of_store identifies known held ((dated _ _ held).resolve_left stale)
      have kept (before : Session ι σ β) (client : ι) (after : Session ι σ β)
          (stepped : advance read update before client = some after)
          (valid : Known read listed before ∧ Lossy read listed before) :
          Known read listed after ∧ Lossy read listed after :=
        ⟨valid.1.move identifies (advance_moves stepped), valid.2.move identifies (advance_moves stepped) valid.1⟩
      exact .inr (run_preserves kept remaining ⟨known.move identifies (advance_moves stepped), lost⟩).2

/-- If clients are told apart and none is listed at the start, then a session in
which all have returned and are listed made every write on what it had read. -/
theorem listed_fresh (identifies : Identifies read update listed) {register : σ} {last : Session ι σ β}
    {actions : List ι} (executed : run (advance read update) (start register) actions = some last)
    (unlisted : ∀ client, ¬ listed (read register) client)
    (complete : ∀ client, listed (read last.register) client) :
    Guarded (advance read update) (Fresh read) (start register) actions := by
  rcases fresh_or_lossy identifies executed ⟨fun client listing => False.elim (unlisted client listing), nofun⟩ nofun
    with fresh | lossy
  · exact fresh
  · obtain ⟨client, _, lost⟩ := lossy.register
    exact False.elim (lost (complete client))

end DatafusionRay.Foundation.ReadModifyWrite
