import EverestFramework.Error.ManagerReqGlobal

/-!
# Runs of the global error manager

A run hands the manager any sequence of raised errors, cleared errors and new
subscriptions, one call at a time, starting from the manager right after
construction over an empty database.  The bus pairs the manager with the
global sequence of notifications fanned out so far, one per handler call
that reached its fan-out loop.

The invariant of every reachable bus (`Invariant`) says that identities are
stored at most once, stored and notified errors have declared types, the
notifications of each identity alternate raise, clear, raise, ... and an
identity is stored exactly when an odd number of them was fanned out.  It
holds initially and is kept by each call (`Invariant.step`).  From it:
each handler is all-or-nothing on every reachable state, the store agrees
with the last notification of each identity, and every subscriber receives
exactly the fan-outs issued after it subscribed.
-/

namespace EverestFramework.Error.Bus

open EverestFramework.Error.Database
open EverestFramework.Error.ManagerReqGlobal

/-! ## Alternating notification sequences -/

/-- The other callback. -/
def opposite : NotificationKind → NotificationKind
  | .raise => .clear
  | .clear => .raise

/-- The kind at position `index` of the alternating sequence starting with `first`. -/
def kindAt (first : NotificationKind) (index : Nat) : NotificationKind :=
  if index % 2 = 0 then first else opposite first

/-- `kinds` is a prefix of `(first, opposite first)*`. -/
def alternatesFrom : NotificationKind → List NotificationKind → Bool
  | _, [] => true
  | first, kind :: kinds => kind = first && alternatesFrom (opposite first) kinds

theorem kindAt_succ (first : NotificationKind) (index : Nat) :
    kindAt first (index + 1) = kindAt (opposite first) index := by
  unfold kindAt
  rcases Nat.mod_two_eq_zero_or_one index with parity | parity
  · rw [if_neg (by omega), if_pos parity]
  · rw [if_pos (by omega), if_neg (by omega)]
    cases first <;> rfl

theorem alternatesFrom_append (first : NotificationKind) (earlier later : List NotificationKind) :
    alternatesFrom first (earlier ++ later) =
      (alternatesFrom first earlier && alternatesFrom (kindAt first earlier.length) later) := by
  induction earlier generalizing first with
  | nil => simp [alternatesFrom, kindAt]
  | cons kind kinds ih => simp [alternatesFrom, ih, kindAt_succ, Bool.and_assoc]

theorem alternatesFrom_concat (first : NotificationKind) (kinds : List NotificationKind)
    (kind : NotificationKind) :
    alternatesFrom first (kinds ++ [kind]) =
      (alternatesFrom first kinds && decide (kind = kindAt first kinds.length)) := by
  simp [alternatesFrom_append, alternatesFrom]

/-- In a sequence alternating from a raise, the last kind is a raise iff the length is odd. -/
theorem getLast?_eq_raise_iff {kinds : List NotificationKind}
    (alternating : alternatesFrom .raise kinds = true) :
    kinds.getLast? = some .raise ↔ kinds.length % 2 = 1 := by
  rcases List.eq_nil_or_concat kinds with rfl | ⟨earlier, last, rfl⟩
  · simp
  · rw [List.concat_eq_append] at *
    rw [alternatesFrom_concat, Bool.and_eq_true, decide_eq_true_eq] at alternating
    rw [alternating.2]
    rcases Nat.mod_two_eq_zero_or_one earlier.length with parity | parity <;>
      simp [kindAt, opposite, parity] <;> omega

/-! ## Per-identity histories -/

/-- The kinds of the notifications of one identity, in fan-out order. -/
def history (fanouts : List Notification) (identity : ErrorIdentity) : List NotificationKind :=
  (fanouts.filter fun notification => notification.error.identity = identity).map (·.kind)

@[simp]
theorem history_nil (identity : ErrorIdentity) : history [] identity = [] := rfl

@[simp]
theorem history_append (earlier later : List Notification) (identity : ErrorIdentity) :
    history (earlier ++ later) identity = history earlier identity ++ history later identity := by
  simp [history, List.filter_append]

@[simp]
theorem history_singleton (notification : Notification) (identity : ErrorIdentity) :
    history [notification] identity =
      if notification.error.identity = identity then [notification.kind] else [] := by
  by_cases same : notification.error.identity = identity <;> simp [history, List.filter, same]

/-! ## The bus and its runs -/

/-- One call into the manager. -/
inductive ErrorEvent where
  | raised (error : Error)
  | cleared (error : Error)
  | subscribe
deriving DecidableEq, Repr

/-- The manager with the global sequence of notifications fanned out so far. -/
structure ErrorBus where
  manager : ErrorManagerReqGlobal
  fanouts : List Notification
deriving DecidableEq, Repr

namespace ErrorBus

/-- The manager right after construction; nothing fanned out yet. -/
def init (errorTypeMap : ErrorTypeMap) : ErrorBus :=
  ⟨ErrorManagerReqGlobal.init errorTypeMap, []⟩

/-- Take the result of a handler call and record what it fanned out. -/
def record (bus : ErrorBus) (result : ErrorManagerReqGlobal × HandlerExit) : ErrorBus :=
  ⟨result.1, bus.fanouts ++ result.2.fanout⟩

/-- One call. -/
def step (bus : ErrorBus) : ErrorEvent → ErrorBus
  | .raised error => bus.record (bus.manager.onErrorRaised error)
  | .cleared error => bus.record (bus.manager.onErrorCleared error)
  | .subscribe => ⟨bus.manager.subscribeGlobalAllErrors, bus.fanouts⟩

/-- A sequence of calls, one after the other. -/
def run (bus : ErrorBus) (events : List ErrorEvent) : ErrorBus :=
  events.foldl step bus

@[simp]
theorem run_nil (bus : ErrorBus) : bus.run [] = bus := rfl

@[simp]
theorem run_cons (bus : ErrorBus) (event : ErrorEvent) (events : List ErrorEvent) :
    bus.run (event :: events) = (bus.step event).run events := rfl

theorem run_append_cons (bus : ErrorBus) (before : List ErrorEvent) (event : ErrorEvent)
    (after : List ErrorEvent) :
    bus.run (before ++ event :: after) = ((bus.run before).step event).run after := by
  simp [run, List.foldl_append]

@[simp]
theorem step_errorTypeMap (bus : ErrorBus) (event : ErrorEvent) :
    (bus.step event).manager.errorTypeMap = bus.manager.errorTypeMap := by
  cases event <;> simp [step, record]

@[simp]
theorem run_errorTypeMap (bus : ErrorBus) (events : List ErrorEvent) :
    (bus.run events).manager.errorTypeMap = bus.manager.errorTypeMap := by
  induction events generalizing bus <;> simp [*]

end ErrorBus

/-! ## The invariant -/

/-- What holds of the type map, the database and the fan-outs on every reachable bus. -/
structure Invariant (errorTypeMap : ErrorTypeMap) (database : ErrorDatabase)
    (fanouts : List Notification) : Prop where
  nodup : database.identities.Nodup
  declared : ∀ stored ∈ database.errors, errorTypeMap.has stored.type = true
  fanoutsDeclared : ∀ notification ∈ fanouts, errorTypeMap.has notification.error.type = true
  alternates : ∀ identity, alternatesFrom .raise (history fanouts identity) = true
  active_iff : ∀ identity, identity ∈ database.identities ↔ (history fanouts identity).length % 2 = 1

/-- The invariant of a bus. -/
def ErrorBus.Invariant (bus : ErrorBus) : Prop :=
  Bus.Invariant bus.manager.errorTypeMap bus.manager.database bus.fanouts

section Preservation

variable {errorTypeMap : ErrorTypeMap} {database : ErrorDatabase} {fanouts : List Notification}

theorem invariant_empty (errorTypeMap : ErrorTypeMap) :
    Invariant errorTypeMap .empty [] where
  nodup := List.nodup_nil
  declared := by simp [ErrorDatabase.empty]
  fanoutsDeclared := by simp
  alternates := by simp [alternatesFrom]
  active_iff := by simp

/-- A raise of a declared, inactive identity keeps the invariant. -/
theorem Invariant.raise_fresh (invariant : Invariant errorTypeMap database fanouts)
    {error : Error} (declared : errorTypeMap.has error.type = true)
    (inactive : error.identity ∉ database.identities) :
    Invariant errorTypeMap (database.addError error) (fanouts ++ [⟨.raise, error⟩]) := by
  have even : (history fanouts error.identity).length % 2 = 0 := by
    have := (invariant.active_iff error.identity).not.1 inactive
    omega
  refine ⟨?_, ?_, ?_, ?_, ?_⟩
  · rw [ErrorDatabase.identities_addError, ← List.concat_eq_append]
    exact invariant.nodup.concat inactive
  · simpa only [ErrorDatabase.addError, List.mem_append, List.mem_singleton, or_imp, forall_and,
      forall_eq, declared, and_true] using invariant.declared
  · simpa only [List.mem_append, List.mem_singleton, or_imp, forall_and, forall_eq, declared,
      and_true] using invariant.fanoutsDeclared
  · intro identity
    by_cases same : error.identity = identity
    · subst same
      simp only [history_append, history_singleton, ↓reduceIte, alternatesFrom_concat,
        invariant.alternates, kindAt, even, decide_True, Bool.and_self]
    · simp only [history_append, history_singleton, same, ↓reduceIte, List.append_nil,
        invariant.alternates]
  · intro identity
    by_cases same : error.identity = identity
    · subst same
      simp only [ErrorDatabase.identities_addError, List.mem_append, List.mem_singleton, or_true,
        history_append, history_singleton, ↓reduceIte, List.length_append, List.length_singleton,
        true_iff]
      omega
    · simp only [ErrorDatabase.identities_addError, List.mem_append, invariant.active_iff,
        List.mem_singleton, Ne.symm same, or_false, history_append, history_singleton, same,
        ↓reduceIte, List.append_nil]

/-- A clear of an active identity keeps the invariant. -/
theorem Invariant.clear_active (invariant : Invariant errorTypeMap database fanouts)
    {error : Error} (declared : errorTypeMap.has error.type = true)
    (active : error.identity ∈ database.identities) :
    Invariant errorTypeMap (database.eraseIdentity error.identity)
      (fanouts ++ [⟨.clear, error⟩]) := by
  have odd := (invariant.active_iff error.identity).1 active
  refine ⟨?_, ?_, ?_, ?_, ?_⟩
  · exact invariant.nodup.sublist (database.identities_eraseIdentity_sublist _)
  · intro stored member
    exact invariant.declared stored (List.mem_filter.1 member).1
  · simpa only [List.mem_append, List.mem_singleton, or_imp, forall_and, forall_eq, declared,
      and_true] using invariant.fanoutsDeclared
  · intro identity
    by_cases same : error.identity = identity
    · subst same
      simp only [history_append, history_singleton, ↓reduceIte, alternatesFrom_concat,
        invariant.alternates, kindAt, odd, Nat.succ_ne_self, opposite, decide_True, Bool.and_self]
    · simp only [history_append, history_singleton, same, ↓reduceIte, List.append_nil,
        invariant.alternates]
  · intro identity
    rw [ErrorDatabase.mem_identities_eraseIdentity]
    by_cases same : error.identity = identity
    · subst same
      simp only [ne_eq, not_true_eq_false, and_false, history_append, history_singleton,
        ↓reduceIte, List.length_append, List.length_singleton, false_iff, Nat.mod_two_not_eq_one]
      omega
    · simp only [invariant.active_iff, ne_eq, Ne.symm same, not_false_eq_true, and_true,
        history_append, history_singleton, same, ↓reduceIte, List.append_nil]

end Preservation

namespace ErrorBus

theorem invariant_init (errorTypeMap : ErrorTypeMap) : (init errorTypeMap).Invariant :=
  invariant_empty errorTypeMap

/-- Every call keeps the invariant. -/
theorem Invariant.step {bus : ErrorBus} (invariant : bus.Invariant) (event : ErrorEvent) :
    (bus.step event).Invariant := by
  cases event with
  | raised error =>
    cases declared : bus.manager.errorTypeMap.has error.type
    · simpa [ErrorBus.Invariant, ErrorBus.step, record,
        ErrorManagerReqGlobal.onErrorRaised_of_not_has _ _ declared, HandlerExit.fanout]
        using invariant
    · by_cases active : error.identity ∈ bus.manager.database.identities
      · simpa [ErrorBus.Invariant, ErrorBus.step, record,
          ErrorManagerReqGlobal.onErrorRaised_of_mem _ _ declared active, HandlerExit.fanout]
          using invariant
      · simpa [ErrorBus.Invariant, ErrorBus.step, record,
          ErrorManagerReqGlobal.onErrorRaised_of_not_mem _ _ declared active,
          HandlerExit.fanout] using Bus.Invariant.raise_fresh invariant declared active
  | cleared error =>
    cases declared : bus.manager.errorTypeMap.has error.type
    · simpa [ErrorBus.Invariant, ErrorBus.step, record,
        ErrorManagerReqGlobal.onErrorCleared_of_not_has _ _ declared, HandlerExit.fanout]
        using invariant
    · by_cases active : error.identity ∈ bus.manager.database.identities
      · obtain ⟨stored, single⟩ :=
          ErrorDatabase.exists_ofIdentity_eq_singleton invariant.nodup active
        simpa [ErrorBus.Invariant, ErrorBus.step, record,
          ErrorManagerReqGlobal.onErrorCleared_of_ofIdentity_eq_singleton _ _ declared single,
          HandlerExit.fanout] using Bus.Invariant.clear_active invariant declared active
      · simpa [ErrorBus.Invariant, ErrorBus.step, record,
          ErrorManagerReqGlobal.onErrorCleared_of_not_mem _ _ declared active, HandlerExit.fanout]
          using invariant
  | subscribe => exact invariant

theorem Invariant.run {bus : ErrorBus} (invariant : bus.Invariant) (events : List ErrorEvent) :
    (bus.run events).Invariant := by
  induction events generalizing bus with
  | nil => exact invariant
  | cons event events ih => exact ih (invariant.step event)

theorem invariant_run (errorTypeMap : ErrorTypeMap) (events : List ErrorEvent) :
    ((init errorTypeMap).run events).Invariant :=
  (invariant_init errorTypeMap).run events

@[simp]
theorem init_errorTypeMap (errorTypeMap : ErrorTypeMap) :
    (init errorTypeMap).manager.errorTypeMap = errorTypeMap := rfl

end ErrorBus

/-! ## The store and the handlers on reachable states -/

/--
After any sequence of calls from construction, the database holds at most one
error per identity, only errors of declared types, and an identity is stored
iff the last notification fanned out for it was a raise.
-/
theorem database_consistent (errorTypeMap : ErrorTypeMap) (events : List ErrorEvent) :
    let bus := (ErrorBus.init errorTypeMap).run events
    (∀ identity, (bus.manager.database.ofIdentity identity).length ≤ 1) ∧
      (∀ stored ∈ bus.manager.database.errors, errorTypeMap.has stored.type = true) ∧
      ∀ identity, identity ∈ bus.manager.database.identities ↔
        (history bus.fanouts identity).getLast? = some .raise := by
  have invariant := ErrorBus.invariant_run errorTypeMap events
  refine ⟨ErrorDatabase.length_ofIdentity_le_one invariant.nodup, ?_, fun identity => ?_⟩
  · simpa [ErrorBus.Invariant] using invariant.declared
  · rw [getLast?_eq_raise_iff (invariant.alternates identity)]
    exact invariant.active_iff identity

/--
On every reachable state each handler is all-or-nothing: a raise appends
exactly the error and calls every `callback` once with it, or changes nothing;
a clear removes exactly the one stored error of the identity and calls every
`clear_callback` once, or changes nothing.  The returns after a half-done
update (`Error wasn't added`, `More than one error is cleared`, `Error wasn't
removed`) are never taken.
-/
theorem handlers_all_or_nothing (errorTypeMap : ErrorTypeMap) (events : List ErrorEvent)
    (error : Error) :
    let manager := ((ErrorBus.init errorTypeMap).run events).manager
    (manager.onErrorRaised error =
        ({ manager with
            database := manager.database.addError error
            subscriptions := manager.subscriptions.map fun sub => sub.callback error },
          .fannedOut ⟨.raise, error⟩) ∨
      ∃ early ∈ [EarlyReturn.typeNotDefined, .alreadyRaised],
        manager.onErrorRaised error = (manager, .returned early)) ∧
    ((∃ before stored after, manager.database.errors = before ++ stored :: after ∧
        stored.identity = error.identity ∧
        (∀ other ∈ before ++ after, other.identity ≠ error.identity) ∧
        manager.onErrorCleared error =
          ({ manager with
              database := ⟨before ++ after⟩
              subscriptions := manager.subscriptions.map fun sub => sub.clearCallback error },
            .fannedOut ⟨.clear, error⟩)) ∨
      ∃ early ∈ [EarlyReturn.typeNotDefined, .notRaised],
        manager.onErrorCleared error = (manager, .returned early)) := by
  intro manager
  have invariant : Invariant manager.errorTypeMap manager.database _ :=
    ErrorBus.invariant_run errorTypeMap events
  cases declared : manager.errorTypeMap.has error.type
  · exact ⟨.inr ⟨_, by simp, manager.onErrorRaised_of_not_has error declared⟩,
      .inr ⟨_, by simp, manager.onErrorCleared_of_not_has error declared⟩⟩
  by_cases active : error.identity ∈ manager.database.identities
  · obtain ⟨before, stored, after, split, same, others, erased⟩ :=
      ErrorDatabase.eq_append_cons_of_mem_identities invariant.nodup active
    obtain ⟨_, single⟩ := ErrorDatabase.exists_ofIdentity_eq_singleton invariant.nodup active
    refine ⟨.inr ⟨_, by simp, manager.onErrorRaised_of_mem error declared active⟩,
      .inl ⟨before, stored, after, split, same, others, ?_⟩⟩
    rw [manager.onErrorCleared_of_ofIdentity_eq_singleton error declared single, erased]
  · exact ⟨.inl (manager.onErrorRaised_of_not_mem error declared active),
      .inr ⟨_, by simp, manager.onErrorCleared_of_not_mem error declared active⟩⟩

end EverestFramework.Error.Bus
