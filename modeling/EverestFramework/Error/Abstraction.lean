import EverestFramework.Error.Bus

/-!
# The error manager as a set of active errors

What the global error manager is for: it keeps the set of active error
identities.  Raising a declared error whose identity is not active activates
it and announces the raise; clearing a declared error whose identity is
active deactivates it and announces the clear; every other call changes
nothing.

The bus refines this design: on every reachable bus, one handler call moves
the stored identities and the fan-outs as the abstract step moves the active
set and the announcements (`step_abstraction`), so every run of the handlers
from construction is a run of the abstract model (`run_abstraction`).
-/

namespace EverestFramework.Error.Abstraction

open EverestFramework.Error.Database
open EverestFramework.Error.ManagerReqGlobal
open EverestFramework.Error.Bus

/-- The active identities, in activation order, and everything announced so far. -/
structure ActiveErrors where
  active : List ErrorIdentity
  announced : List Notification
deriving DecidableEq, Repr

namespace ActiveErrors

/-- Nothing active, nothing announced. -/
def empty : ActiveErrors := ⟨[], []⟩

/-- One call, for the declared types `declared`. -/
def step (declared : ErrorType → Bool) (errors : ActiveErrors) : ErrorEvent → ActiveErrors
  | .raised error =>
    if declared error.type ∧ error.identity ∉ errors.active then
      ⟨errors.active ++ [error.identity], errors.announced ++ [⟨.raise, error⟩]⟩
    else errors
  | .cleared error =>
    if declared error.type ∧ error.identity ∈ errors.active then
      ⟨errors.active.filter (· ≠ error.identity), errors.announced ++ [⟨.clear, error⟩]⟩
    else errors
  | .subscribe => errors

/-- A sequence of calls. -/
def run (declared : ErrorType → Bool) (errors : ActiveErrors) (events : List ErrorEvent) :
    ActiveErrors :=
  events.foldl (step declared) errors

end ActiveErrors

/-- What a bus shows of the abstract state: the stored identities and the fan-outs. -/
def abstraction (bus : ErrorBus) : ActiveErrors :=
  ⟨bus.manager.database.identities, bus.fanouts⟩

theorem identities_eraseIdentity (database : ErrorDatabase) (identity : ErrorIdentity) :
    (database.eraseIdentity identity).identities = database.identities.filter (· ≠ identity) := by
  rw [ErrorDatabase.identities, ErrorDatabase.identities, ErrorDatabase.eraseIdentity,
    List.filter_map]
  congr 1
  exact List.filter_congr fun error _ => by simp

/-- On a reachable bus, one call moves the abstraction by the abstract step. -/
theorem step_abstraction {bus : ErrorBus} (invariant : bus.Invariant)
    (event : ErrorEvent) :
    abstraction (bus.step event) = (abstraction bus).step bus.manager.errorTypeMap.has event := by
  cases event with
  | raised error =>
    cases declared : bus.manager.errorTypeMap.has error.type
    · simp [ErrorBus.step, ErrorBus.record, abstraction, ActiveErrors.step, declared,
        bus.manager.onErrorRaised_of_not_has error declared, HandlerExit.fanout]
    by_cases active : error.identity ∈ bus.manager.database.identities
    · simp [ErrorBus.step, ErrorBus.record, abstraction, ActiveErrors.step, active,
        bus.manager.onErrorRaised_of_mem error declared active, HandlerExit.fanout]
    · simp [ErrorBus.step, ErrorBus.record, abstraction, ActiveErrors.step, declared,
        active, bus.manager.onErrorRaised_of_not_mem error declared active, HandlerExit.fanout]
  | cleared error =>
    cases declared : bus.manager.errorTypeMap.has error.type
    · simp [ErrorBus.step, ErrorBus.record, abstraction, ActiveErrors.step, declared,
        bus.manager.onErrorCleared_of_not_has error declared, HandlerExit.fanout]
    by_cases active : error.identity ∈ bus.manager.database.identities
    · obtain ⟨_, single⟩ := ErrorDatabase.exists_ofIdentity_eq_singleton invariant.nodup active
      simp [ErrorBus.step, ErrorBus.record, abstraction, ActiveErrors.step, declared,
        active, bus.manager.onErrorCleared_of_ofIdentity_eq_singleton error declared single,
        HandlerExit.fanout, identities_eraseIdentity]
    · simp [ErrorBus.step, ErrorBus.record, abstraction, ActiveErrors.step, active,
        bus.manager.onErrorCleared_of_not_mem error declared active, HandlerExit.fanout]
  | subscribe => rfl

/--
Every run of the handlers from construction stores exactly the identities
the abstract model has active, in activation order, and fans out exactly its
announcements.
-/
theorem run_abstraction (errorTypeMap : ErrorTypeMap) (events : List ErrorEvent) :
    abstraction ((ErrorBus.init errorTypeMap).run events) =
      ActiveErrors.empty.run errorTypeMap.has events := by
  suffices reachable : ∀ bus : ErrorBus, bus.Invariant →
      abstraction (bus.run events) = (abstraction bus).run bus.manager.errorTypeMap.has events from
    reachable _ (ErrorBus.invariant_init errorTypeMap)
  induction events with
  | nil => exact fun _ _ => rfl
  | cons event later ih =>
    intro bus invariant
    rw [ErrorBus.run_cons, ih _ (invariant.step event), ErrorBus.step_errorTypeMap,
      step_abstraction invariant]
    rfl

end EverestFramework.Error.Abstraction
