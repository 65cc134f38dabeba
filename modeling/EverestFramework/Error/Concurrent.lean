import EverestFramework.Error.ManagerReqGlobal
import Mathlib.Data.List.Permutation

/-!
# Concurrent handler calls

The handlers take no lock of their own: only each `ErrorDatabase` call is
atomic.  A handler call is therefore a thread that takes one atomic step per
database call, and calls running on different MQTT handler threads
interleave at that granularity.  The type check before the first call and
the fan-out after the last one touch no shared state that another handler
writes, so they are taken together with the database call next to them.

Run alone, a thread computes exactly the sequential handler
(`HandlerThread.run_alone`), and a serial schedule computes the sequential
execution of the calls (`Interleaving.run_serial`).  Interleaved, the
check-then-add of `on_error_raised` is not atomic: a clear can remove the
error between the add and the re-check, after which neither handler leaves
a trace that any sequential order would (`raise_clear_race`).
-/

namespace EverestFramework.Error.Concurrent

open EverestFramework.Error.Database
open EverestFramework.Error.ManagerReqGlobal

/-- A call into one of the two handlers. -/
inductive HandlerCall where
  | raised (error : Error)
  | cleared (error : Error)
deriving DecidableEq, Repr

/-- The sequential handler of a call. -/
def HandlerCall.handle : HandlerCall → ErrorManagerReqGlobal → ErrorManagerReqGlobal × HandlerExit
  | .raised error, manager => manager.onErrorRaised error
  | .cleared error, manager => manager.onErrorCleared error

/-- The calls run one after the other, each to completion. -/
def sequential (manager : ErrorManagerReqGlobal) (calls : List HandlerCall) :
    ErrorManagerReqGlobal :=
  calls.foldl (fun current call => (call.handle current).1) manager

/-- The database call a raise thread makes next. -/
inductive RaiseStage where
  | entry
  | adding
  | rechecking
deriving DecidableEq, Repr

/-- The database call a clear thread makes next. -/
inductive ClearStage where
  | entry
  | removing
deriving DecidableEq, Repr

/-- A handler call in progress. -/
inductive HandlerThread where
  | raising (error : Error) (stage : RaiseStage)
  | clearing (error : Error) (stage : ClearStage)
  | finished (exit : HandlerExit)
deriving DecidableEq, Repr

/-- The thread of a call, before its first step. -/
def HandlerCall.thread : HandlerCall → HandlerThread
  | .raised error => .raising error .entry
  | .cleared error => .clearing error .entry

namespace HandlerThread

/-- Whether the call has returned. -/
def isFinished : HandlerThread → Bool
  | .finished _ => true
  | _ => false

/-- One atomic database call of a thread, with the local work around it. -/
def step (manager : ErrorManagerReqGlobal) : HandlerThread → ErrorManagerReqGlobal × HandlerThread
  | .raising error .entry =>
    if !manager.errorTypeMap.has error.type then
      (manager, .finished (.returned .typeNotDefined))
    else if !(manager.database.getErrors (identityFilters error)).isEmpty then
      (manager, .finished (.returned .alreadyRaised))
    else
      (manager, .raising error .adding)
  | .raising error .adding =>
    ({ manager with database := manager.database.addError error }, .raising error .rechecking)
  | .raising error .rechecking =>
    if (manager.database.getErrors (identityFilters error)).length ≠ 1 then
      (manager, .finished (.returned .notAdded))
    else
      ({ manager with subscriptions := manager.subscriptions.map fun sub => sub.callback error },
        .finished (.fannedOut ⟨.raise, error⟩))
  | .clearing error .entry =>
    if !manager.errorTypeMap.has error.type then
      (manager, .finished (.returned .typeNotDefined))
    else if (manager.database.getErrors (identityFilters error)).isEmpty then
      (manager, .finished (.returned .notRaised))
    else
      (manager, .clearing error .removing)
  | .clearing error .removing =>
    let (database, res) := manager.database.removeErrors (identityFilters error)
    if res.length > 1 then
      ({ manager with database }, .finished (.returned .moreThanOneCleared))
    else if res.isEmpty then
      ({ manager with database }, .finished (.returned .notRemoved))
    else
      ({ manager with
          database
          subscriptions := manager.subscriptions.map fun sub => sub.clearCallback error },
        .finished (.fannedOut ⟨.clear, error⟩))
  | .finished exit => (manager, .finished exit)

/-- A thread running alone for a number of steps. -/
def runAlone (manager : ErrorManagerReqGlobal) (thread : HandlerThread) :
    Nat → ErrorManagerReqGlobal × HandlerThread
  | 0 => (manager, thread)
  | steps + 1 =>
    let (manager', thread') := thread.step manager
    runAlone manager' thread' steps

/--
Run alone, the thread of a call takes at most three steps and ends exactly as
the sequential handler does.
-/
theorem run_alone (manager : ErrorManagerReqGlobal) (call : HandlerCall) :
    runAlone manager call.thread 3 = ((call.handle manager).1, .finished (call.handle manager).2) := by
  cases call with
  | raised error =>
    cases declared : manager.errorTypeMap.has error.type
    · simp [HandlerCall.thread, HandlerCall.handle, runAlone, step, declared,
        manager.onErrorRaised_of_not_has error declared]
    by_cases active : error.identity ∈ manager.database.identities
    · have stored : manager.database.ofIdentity error.identity ≠ [] :=
        mt (ErrorDatabase.ofIdentity_eq_nil_iff _ _).1 (not_not.2 active)
      simp [HandlerCall.thread, HandlerCall.handle, runAlone, step, declared, stored,
        manager.onErrorRaised_of_mem error declared active]
    · have fresh := (ErrorDatabase.ofIdentity_eq_nil_iff _ _).2 active
      simp [HandlerCall.thread, HandlerCall.handle, runAlone, step, declared, fresh,
        manager.onErrorRaised_of_not_mem error declared active]
  | cleared error =>
    cases declared : manager.errorTypeMap.has error.type
    · simp [HandlerCall.thread, HandlerCall.handle, runAlone, step, declared,
        manager.onErrorCleared_of_not_has error declared]
    by_cases active : error.identity ∈ manager.database.identities
    · have stored : manager.database.ofIdentity error.identity ≠ [] :=
        mt (ErrorDatabase.ofIdentity_eq_nil_iff _ _).1 (not_not.2 active)
      by_cases several : 1 < (manager.database.ofIdentity error.identity).length
      · simp [HandlerCall.thread, HandlerCall.handle, runAlone, step, declared, stored, several,
          manager.onErrorCleared_of_one_lt_length error declared several]
      · have one : (manager.database.ofIdentity error.identity).length = 1 := by
          have := List.length_pos.2 stored
          omega
        obtain ⟨kept, single⟩ := List.length_eq_one.1 one
        simp [HandlerCall.thread, HandlerCall.handle, runAlone, step, declared, single,
          manager.onErrorCleared_of_ofIdentity_eq_singleton error declared single]
    · have fresh := (ErrorDatabase.ofIdentity_eq_nil_iff _ _).2 active
      simp [HandlerCall.thread, HandlerCall.handle, runAlone, step, declared, fresh,
        manager.onErrorCleared_of_not_mem error declared active]

end HandlerThread

/-- The shared manager and the handler calls running on it. -/
structure Interleaving where
  manager : ErrorManagerReqGlobal
  threads : List HandlerThread
deriving DecidableEq, Repr

namespace Interleaving

/-- The calls started on a manager, none of them stepped yet. -/
def start (manager : ErrorManagerReqGlobal) (calls : List HandlerCall) : Interleaving :=
  ⟨manager, calls.map HandlerCall.thread⟩

/-- Let the thread at an index take one step; any other index changes nothing. -/
def stepThread (system : Interleaving) (index : Nat) : Interleaving :=
  match system.threads[index]? with
  | none => system
  | some thread =>
    let (manager, thread') := thread.step system.manager
    ⟨manager, system.threads.set index thread'⟩

/-- Run a schedule: the thread indices in the order they take their steps. -/
def run (system : Interleaving) (schedule : List Nat) : Interleaving :=
  schedule.foldl stepThread system

/-- Every call has returned. -/
def Finished (system : Interleaving) : Prop :=
  system.threads.all HandlerThread.isFinished = true

instance (system : Interleaving) : Decidable system.Finished :=
  inferInstanceAs (Decidable (_ = true))

theorem run_append (system : Interleaving) (first second : List Nat) :
    system.run (first ++ second) = (system.run first).run second := by
  simp [run, List.foldl_append]

/-- Stepping one thread several times in a row runs it alone. -/
theorem run_replicate {system : Interleaving} {index : Nat} {thread : HandlerThread}
    (current : system.threads[index]? = some thread) (steps : Nat) :
    system.run (List.replicate (steps + 1) index) =
      ⟨(thread.runAlone system.manager (steps + 1)).1,
        system.threads.set index (thread.runAlone system.manager (steps + 1)).2⟩ := by
  induction steps generalizing system thread with
  | zero => simp [run, stepThread, current, HandlerThread.runAlone]
  | succ steps ih =>
    have bound := (List.getElem?_eq_some_iff.1 current).1
    rw [List.replicate_succ, run, List.foldl_cons, ← run]
    simp only [stepThread, current]
    rw [ih (List.getElem?_set_self bound)]
    simp [HandlerThread.runAlone, List.set_set]

/-- The serial schedule: each thread, from the one at `first` on, takes three steps in turn. -/
def serialFrom (first count : Nat) : List Nat :=
  (List.range' first count).flatMap fun index => List.replicate 3 index

theorem serialFrom_succ (first count : Nat) :
    serialFrom first (count + 1) = List.replicate 3 first ++ serialFrom (first + 1) count := by
  simp [serialFrom, List.range'_succ]

/--
Run in the serial schedule after some finished calls, the remaining calls
compute exactly their sequential execution, and every call returns.
-/
theorem run_serialFrom (manager : ErrorManagerReqGlobal) (done : List HandlerThread)
    (calls : List HandlerCall) :
    ∃ returned : List HandlerThread,
      (Interleaving.mk manager (done ++ calls.map HandlerCall.thread)).run
          (serialFrom done.length calls.length) =
        ⟨sequential manager calls, done ++ returned⟩ ∧
      returned.all HandlerThread.isFinished = true := by
  induction calls generalizing manager done with
  | nil => exact ⟨[], by simp [serialFrom, run, sequential], rfl⟩
  | cons call calls ih =>
    have current : (done ++ (call :: calls).map HandlerCall.thread)[done.length]? =
        some call.thread := by
      rw [List.getElem?_append_right (le_refl _)]
      simp
    obtain ⟨returned, ran, finished⟩ :=
      ih (call.handle manager).1 (done ++ [.finished (call.handle manager).2])
    refine ⟨.finished (call.handle manager).2 :: returned, ?_, by
      rw [List.all_cons, finished]
      rfl⟩
    rw [List.length_cons, serialFrom_succ, run_append, run_replicate current,
      HandlerThread.run_alone]
    simpa [List.set_append_right, sequential] using ran

/-- A serial schedule of the threads is the sequential execution of the calls. -/
theorem run_serial (manager : ErrorManagerReqGlobal) (calls : List HandlerCall) :
    let final := (start manager calls).run (serialFrom 0 calls.length)
    final.manager = sequential manager calls ∧ final.Finished := by
  obtain ⟨returned, ran, finished⟩ := run_serialFrom manager [] calls
  simp only [List.nil_append, List.length_nil] at ran
  simp [start, ran, Finished, finished]

end Interleaving

/-- Two runs ended with the same database and the same notifications per subscription. -/
def SameOutcome (left right : ErrorManagerReqGlobal) : Prop :=
  left.database = right.database ∧
    List.Forall₂ (fun first second => first.received.Perm second.received)
      left.subscriptions right.subscriptions

/-- Some sequential order of the calls ends as a given interleaved run did. -/
def Linearizable (manager : ErrorManagerReqGlobal) (calls : List HandlerCall)
    (final : ErrorManagerReqGlobal) : Prop :=
  ∃ order, order.Perm calls ∧ SameOutcome final (sequential manager order)

/-! ## The race between a raise and a clear -/

/-- An error of the one declared type. -/
def raceError : Error := ⟨"E", "", ⟨"m", "i"⟩, ""⟩

/-- A manager over an empty database with one subscription. -/
def raceManager : ErrorManagerReqGlobal := ⟨⟨["E"]⟩, .empty, [⟨[]⟩]⟩

/-- A raise and a clear of one error, scheduled raise, raise, clear, clear, raise. -/
def racedRun : Interleaving :=
  (Interleaving.start raceManager [.raised raceError, .cleared raceError]).run [0, 0, 1, 1, 0]

/-- Two raises of one error, alternating. -/
def doubledRun : Interleaving :=
  (Interleaving.start raceManager [.raised raceError, .raised raceError]).run [0, 1, 0, 1, 0, 1]

/--
In `racedRun` the raise adds the error, the clear finds it, removes it and
notifies `clear_callback`, and the raise's re-check then finds nothing and
returns at `Error wasn't added`.  The subscriber saw a clear without a raise
and the database is empty, which no sequential order gives.  In `doubledRun`
both raises pass the emptiness check and the identity is stored twice.
-/
theorem raise_clear_race :
    racedRun.Finished ∧ ¬ Linearizable raceManager [.raised raceError, .cleared raceError] racedRun.manager ∧
    doubledRun.Finished ∧ ¬ doubledRun.manager.database.identities.Nodup := by
  refine ⟨by decide, ?_, by decide, by decide⟩
  rintro ⟨order, perm, same⟩
  have orders := List.mem_permutations'.2 perm
  simp only [List.permutations', List.flatMap_cons, List.permutations'Aux, List.flatMap_nil,
    List.singleton_append, List.map_cons, List.map_nil, List.append_nil, List.mem_cons,
    List.mem_singleton, List.not_mem_nil, or_false] at orders
  rcases orders with rfl | rfl
  · have notified : (sequential raceManager [.raised raceError, .cleared raceError]).subscriptions =
        [⟨[⟨.raise, raceError⟩, ⟨.clear, raceError⟩]⟩] := by decide
    have raced : racedRun.manager.subscriptions = [⟨[⟨.clear, raceError⟩]⟩] := by decide
    have lengths := (List.forall₂_cons.1 (notified ▸ raced ▸ same.2)).1.length_eq
    simp at lengths
  · exact absurd same.1 (by decide)

end EverestFramework.Error.Concurrent
