import DatafusionRay.Streaming.ClientManager

/-! Calls for clients in any interleaving. Whichever call is the first to enter a client
for an address decides for all of them. -/

namespace DatafusionRay.Proofs.SharedClients
open Streaming DataClientManager Foundation

variable {ι : Type} {addresses : ι → String} {before after : DataClientManager ι} {action : Action ι}

/-- Every client is one for the address it is found under, and is what the calls for that
address have been given. -/
structure Shared (addresses : ι → String) (manager : DataClientManager ι) : Prop where
  own : ∀ address client, manager.clientMap address = some client → client.address = address
  made : ∀ call client, manager.phases call = .entering client → client.address = addresses call
  agreed : ∀ call client, manager.phases call = .returned (.ok client) →
    manager.clientMap (addresses call) = some client

namespace Shared

theorem new : Shared addresses (DataClientManager.new : DataClientManager ι) := ⟨nofun, nofun, nofun⟩

theorem insert (shared : Shared addresses before) {address : String} {client : FlightClient}
    (free : before.clientMap address = none) (named : client.address = address) :
    Shared addresses { before with clientMap := Function.update before.clientMap address (some client) } := by
  refine ⟨fun other found entry => ?_, shared.made, fun call found returned => ?_⟩
  · by_cases same : other = address
    · subst same
      cases (Function.update_self ..).symm.trans entry
      exact named
    · exact shared.own other found ((Function.update_of_ne same ..).symm.trans entry)
  · have entry := shared.agreed call found returned
    have apart : addresses call ≠ address := by
      intro same
      rw [same, free] at entry
      cases entry
    exact (Function.update_of_ne apart ..).trans entry

end Shared

variable [DecidableEq ι]

/-- All that a step can do. -/
inductive Move (addresses : ι → String) (before : DataClientManager ι) : Action ι → DataClientManager ι → Prop
  | found {call : ι} {client : FlightClient} (phase : before.phases call = .searching)
      (entry : before.clientMap (addresses call) = some client) :
      Move addresses before (.search call) (before.proceed call (.returned (.ok client)))
  | absent {call : ι} (phase : before.phases call = .searching) (entry : before.clientMap (addresses call) = none) :
      Move addresses before (.search call) (before.proceed call .connecting)
  | refused {call : ι} {error : DataFusionError} (phase : before.phases call = .connecting) :
      Move addresses before (.connect call (.error error)) (before.proceed call (.returned (.error error)))
  | connected {call : ι} (phase : before.phases call = .connecting) :
      Move addresses before (.connect call (.ok ())) { before.proceed call
        (.entering ⟨addresses call, before.connections⟩) with connections := before.connections + 1 }
  | occupied {call : ι} {newClient client : FlightClient} (phase : before.phases call = .entering newClient)
      (entry : before.clientMap (addresses call) = some client) :
      Move addresses before (.enter call) (before.proceed call (.returned (.ok client)))
  | vacant {call : ι} {newClient : FlightClient} (phase : before.phases call = .entering newClient)
      (entry : before.clientMap (addresses call) = none) :
      Move addresses before (.enter call) { before.proceed call (.returned (.ok newClient)) with
        clientMap := Function.update before.clientMap (addresses call) (some newClient) }

theorem move_of_step (stepped : step addresses before action = some after) : Move addresses before action after := by
  cases action with
  | search call =>
    cases phase : before.phases call with
    | searching =>
      cases entry : before.clientMap (addresses call) with
      | some client =>
        simp only [step, phase, entry, Option.some.injEq] at stepped
        exact stepped ▸ .found phase entry
      | none =>
        simp only [step, phase, entry, Option.some.injEq] at stepped
        exact stepped ▸ .absent phase entry
    | connecting | entering | returned =>
      simp only [step, phase, reduceCtorEq] at stepped
  | connect call outcome =>
    cases phase : before.phases call with
    | connecting =>
      cases outcome with
      | error error =>
        simp only [step, phase, Option.some.injEq] at stepped
        exact stepped ▸ .refused phase
      | ok done =>
        simp only [step, phase, Option.some.injEq] at stepped
        exact stepped ▸ .connected phase
    | searching | entering | returned =>
      simp only [step, phase, reduceCtorEq] at stepped
  | enter call =>
    cases phase : before.phases call with
    | entering newClient =>
      cases entry : before.clientMap (addresses call) with
      | some client =>
        simp only [step, phase, entry, Option.some.injEq] at stepped
        exact stepped ▸ .occupied phase entry
      | none =>
        simp only [step, phase, entry, Option.some.injEq] at stepped
        exact stepped ▸ .vacant phase entry
    | searching | connecting | returned =>
      simp only [step, phase, reduceCtorEq] at stepped

/-- An entry of the map stays what it is. -/
theorem step_keeps_entry {address : String} {client : FlightClient} (stepped : step addresses before action = some after)
    (entry : before.clientMap address = some client) : after.clientMap address = some client := by
  cases move_of_step stepped with
  | found | absent | refused | connected | occupied => exact entry
  | @vacant call newClient phase free =>
    have apart : address ≠ addresses call := by
      intro same
      rw [same, free] at entry
      cases entry
    exact (Function.update_of_ne apart ..).trans entry

theorem Shared.proceed (shared : Shared addresses before) (call : ι) {phase : Phase}
    (made : ∀ client, phase = .entering client → client.address = addresses call)
    (agreed : ∀ client, phase = .returned (.ok client) → before.clientMap (addresses call) = some client) :
    Shared addresses (before.proceed call phase) := by
  refine ⟨shared.own, fun other client entered => ?_, fun other client returned => ?_⟩
  · by_cases same : other = call
    · subst same
      exact made client ((Function.update_self ..).symm.trans entered)
    · exact shared.made other client ((Function.update_of_ne same ..).symm.trans entered)
  · by_cases same : other = call
    · subst same
      exact agreed client ((Function.update_self ..).symm.trans returned)
    · exact shared.agreed other client ((Function.update_of_ne same ..).symm.trans returned)

theorem step_shared (before : DataClientManager ι) (action : Action ι) (after : DataClientManager ι)
    (stepped : step addresses before action = some after) (shared : Shared addresses before) :
    Shared addresses after := by
  cases move_of_step stepped with
  | @found call client phase entry =>
    refine shared.proceed call nofun fun other same => ?_
    cases same
    exact entry
  | @absent call phase entry => exact shared.proceed call nofun nofun
  | @refused call error phase => exact shared.proceed call nofun nofun
  | @connected call phase =>
    have entering : Shared addresses (before.proceed call (.entering ⟨addresses call, before.connections⟩)) := by
      refine shared.proceed call (fun other same => ?_) nofun
      cases same
      rfl
    exact ⟨entering.own, entering.made, entering.agreed⟩
  | @occupied call newClient client phase entry =>
    refine shared.proceed call nofun fun other same => ?_
    cases same
    exact entry
  | @vacant call newClient phase free =>
    -- The client is entered and returned at once, under the lock.
    refine (shared.insert free (shared.made call newClient phase)).proceed call nofun fun other same => ?_
    cases same
    exact Function.update_self ..

/-- What a call has returned stays returned. -/
theorem step_keeps_result {call : ι} {result : Except DataFusionError FlightClient}
    (stepped : step addresses before action = some after) (returned : before.phases call = .returned result) :
    after.phases call = .returned result := by
  have apart {other : ι} {old new : Phase} (phase : before.phases other = old) (busy : old ≠ .returned result) :
      Function.update before.phases other new call = .returned result := by
    rw [Function.update_of_ne]
    · exact returned
    · rintro rfl
      exact busy (phase.symm.trans returned)
  cases move_of_step stepped with
  | found phase | absent phase | refused phase | connected phase | occupied phase | vacant phase =>
    exact apart phase Phase.noConfusion

/-- A failed connection is reported to its caller, and the map stays as it is. -/
theorem connect_refused {call : ι} {error : DataFusionError}
    (stepped : step addresses before (.connect call (.error error)) = some after) :
    after.clientMap = before.clientMap ∧ after.phases call = .returned (.error error) := by
  cases move_of_step stepped with
  | refused phase => exact ⟨rfl, Function.update_self ..⟩

/-- A call fails only if its own connection does. -/
theorem step_refused {call : ι} {error : DataFusionError} (stepped : step addresses before action = some after)
    (failed : after.phases call = .returned (.error error)) :
    before.phases call = .returned (.error error) ∨ action = .connect call (.error error) := by
  have unchanged : ∀ {other : ι} {phase : Phase},
      Function.update before.phases other phase call = .returned (.error error) → phase ≠ .returned (.error error) →
        before.phases call = .returned (.error error) := by
    intro other phase same another
    by_cases own : call = other
    · subst own
      exact False.elim (another ((Function.update_self ..).symm.trans same))
    · exact (Function.update_of_ne own ..).symm.trans same
  cases move_of_step stepped with
  | found | absent | connected | occupied | vacant => exact .inl (unchanged failed nofun)
  | @refused other cause phase =>
    by_cases own : call = other
    · subst own
      cases (Function.update_self ..).symm.trans failed
      exact .inr rfl
    · exact .inl ((Function.update_of_ne own ..).symm.trans failed)

/-- The calls that have failed are those whose connections have. -/
theorem run_refused_iff {actions : List (Action ι)} {call : ι} {error : DataFusionError}
    (ran : run (step addresses) DataClientManager.new actions = some after) :
    after.phases call = .returned (.error error) ↔ Action.connect call (.error error) ∈ actions := by
  have tracked : ∀ past before action after, step addresses before action = some after →
      (before.phases call = .returned (.error error) ↔ Action.connect call (.error error) ∈ past) →
        (after.phases call = .returned (.error error) ↔ Action.connect call (.error error) ∈ past ++ [action]) := by
    intro past before action after stepped known
    rw [List.mem_append, List.mem_singleton, ← known]
    constructor
    · intro failed
      exact (step_refused stepped failed).imp_right Eq.symm
    · rintro (earlier | rfl)
      · exact step_keeps_result stepped earlier
      · exact (connect_refused stepped).2
  refine run_traced tracked ran (iff_of_false ?_ List.not_mem_nil)
  exact Phase.noConfusion

/-- Whatever the interleaving, all calls for an address that succeed, now or later, are
given one and the same client, which is connected to that address; and a client in the map
is never replaced. A call fails if and only if its own connection does, and a connection
that fails leaves the map as it is. -/
theorem get_client_agrees {actions more : List (Action ι)} {middle last : DataClientManager ι}
    (ran : run (step addresses) DataClientManager.new actions = some middle)
    (continued : run (step addresses) middle more = some last) :
    (∀ first second client other, addresses first = addresses second →
      middle.phases first = .returned (.ok client) → last.phases second = .returned (.ok other) → client = other) ∧
    (∀ call client, last.phases call = .returned (.ok client) → client.address = addresses call) ∧
    (∀ address client, middle.clientMap address = some client → last.clientMap address = some client) ∧
    (∀ call error, last.phases call = .returned (.error error) ↔ Action.connect call (.error error) ∈ actions ++ more) ∧
    ∀ call error next, step addresses middle (.connect call (.error error)) = some next →
      next.clientMap = middle.clientMap := by
  have shared : Shared addresses middle := run_preserves step_shared ran .new
  have final : Shared addresses last := run_preserves step_shared continued shared
  have kept (address : String) (client : FlightClient) (entry : middle.clientMap address = some client) :
      last.clientMap address = some client := by
    have keeps : ∀ before action after, step addresses before action = some after →
        before.clientMap address = some client → after.clientMap address = some client := fun _ _ _ => step_keeps_entry
    exact run_preserves keeps continued entry
  refine ⟨fun first second client other same early late => ?_, fun call client returned => ?_, kept,
    fun call error => run_refused_iff (run_trans ran continued), fun call error next stepped => (connect_refused stepped).1⟩
  · have entry := kept _ _ (shared.agreed first client early)
    rw [same] at entry
    exact Option.some.inj (entry.symm.trans (final.agreed second other late))
  · exact final.own _ client (final.agreed call client returned)

/-- Two calls for one address both find nothing and connect, and the second one enters first. -/
def twoCalls : List (Action Bool) :=
  [.search true, .search false, .connect true (.ok ()), .connect false (.ok ()), .enter false, .enter true]

def afterTwoCalls : DataClientManager Bool := (run (step fun _ => "a") DataClientManager.new twoCalls).getD .new

/-- The connection of the first call is dropped. -/
theorem two_calls_agree :
    run (step fun _ => "a") DataClientManager.new twoCalls = some afterTwoCalls ∧
      afterTwoCalls.phases false = .returned (.ok ⟨"a", 1⟩) ∧
      ∀ client, afterTwoCalls.phases true = .returned (.ok client) → client = ⟨"a", 1⟩ := by
  have ran : run (step fun _ => "a") DataClientManager.new twoCalls = some afterTwoCalls := rfl
  have stayed : run (step fun _ => "a") afterTwoCalls [] = some afterTwoCalls := rfl
  have returned : afterTwoCalls.phases false = .returned (.ok ⟨"a", 1⟩) := rfl
  exact ⟨ran, returned, fun client other => (get_client_agrees ran stayed).1 true false client _ rfl other returned⟩

end DatafusionRay.Proofs.SharedClients
