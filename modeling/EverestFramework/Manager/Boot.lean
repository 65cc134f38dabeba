import EverestFramework.Manager.StartModules
import EverestFramework.System.SubProcess
import Mathlib.Data.List.Perm.Basic

/-!
# Spawning the modules and reaping them

`spawn_modules` forks one child per queued module and keeps the pid of each
child in `module_handles`.  `boot` then runs its reap loop until it leaves:
each iteration calls `waitpid(-1, &wstatus, ...)`, throws when the call fails
or returns a pid `module_handles` does not know, and otherwise erases the
module; while `modules_started`, `shutdown_modules` then signals every other
tracked module and `boot` returns `EXIT_FAILURE`.

`waitpid` is modelled over the manager's unreaped children: it returns the
pid of one that exited, or `-1` (`ECHILD`) when there is none.  The loop
runner `Loop.run` is shared by both builds; this module has the part of the
iteration they share (`Supervisor.reap`) and the base build, where
`waitpid` blocks.  Whenever the children are exactly the tracked modules and
the others of the build (`Tracked`), reaping a module leaves them so and
signals only tracked children that are still unreaped (`reap_settled`).

In the base build the manager's children are exactly the spawned modules, so
`boot` leaves the loop at the first iteration: with `EXIT_FAILURE` after the
first exit, or, when no module was spawned, through the `waitpid() failed`
branch (`baseStep_afterStart`, `all_standalone_waitpid_fails`).
-/

namespace EverestFramework.Manager.Boot

open EverestFramework.Manager.ReadyBarrier
open EverestFramework.Manager.StartModules
open EverestFramework.System.SubProcess

/-! ## `spawn_modules` -/

/-- `std::map<pid_t, std::string>`, from pid to module name. -/
abbrev ModuleHandles := List (Pid × String)

/-- `started_modules[pid] = name`: overwrite the entry of a pid, or add one. -/
def insertHandle (handles : ModuleHandles) (pid : Pid) (name : String) : ModuleHandles :=
  if handles.any (·.1 = pid) then handles.map fun entry => if entry.1 = pid then (pid, name) else entry
  else handles ++ [(pid, name)]

theorem insertHandle_of_not_mem {handles : ModuleHandles} {pid : Pid} (name : String)
    (fresh : pid ∉ handles.map Prod.fst) : insertHandle handles pid name = handles ++ [(pid, name)] := by
  rw [insertHandle, if_neg]
  simp only [List.any_eq_true, decide_eq_true_eq, not_exists, not_and]
  exact fun entry member same => fresh (List.mem_map.2 ⟨entry, member, same⟩)

/-- What the system does at the forks of one `spawn_modules` call. -/
structure ForkResults where
  /-- The pid of the child of the fork with this index. -/
  pid : Nat → Pid
  /-- How the child started for a module ends. -/
  childEnd : ModuleStartInfo → ChildEnd

/-- The pids of `count` forks from the fork with this index on. -/
def forkedPids (forks : ForkResults) (index : Nat) : Nat → List Pid
  | 0 => []
  | count + 1 => forks.pid index :: forkedPids forks (index + 1) count

/--
`spawn_modules`: fork each module in turn and record its pid; the error of
`check_child_executed` is thrown.  `none` while a read blocks.
-/
def spawnModules (MAX_PIPE_MESSAGE_SIZE : Nat) (forks : ForkResults) :
    Nat → ModuleHandles → List ModuleStartInfo → Option (Except Bytes ModuleHandles)
  | _, startedModules, [] => some (.ok startedModules)
  | index, startedModules, module :: later =>
    match checkChildExecuted MAX_PIPE_MESSAGE_SIZE (forks.pid index)
        ((forks.childEnd module).run MAX_PIPE_MESSAGE_SIZE afterCreate) with
    | none => none
    | some (.error text) => some (.error text)
    | some (.ok childPid) =>
      spawnModules MAX_PIPE_MESSAGE_SIZE forks (index + 1)
        (insertHandle startedModules childPid module.name) later

/-- `check_child_executed` returns only the pid it was given. -/
theorem eq_of_checkChildExecuted_eq_ok {MAX_PIPE_MESSAGE_SIZE : Nat} {pid childPid : Pid}
    {pipe : PacketPipe}
    (executed : checkChildExecuted MAX_PIPE_MESSAGE_SIZE pid pipe = some (.ok childPid)) :
    childPid = pid := by
  simp only [checkChildExecuted, Option.map_eq_some'] at executed
  obtain ⟨_, -, result⟩ := executed
  split at result <;> simp_all

/--
When the forks return distinct pids, the pids `spawn_modules` records are
those of its forks, after the ones it started with.
-/
theorem keys_spawnModules {MAX_PIPE_MESSAGE_SIZE : Nat} {forks : ForkResults} {index : Nat}
    {startedModules handles : ModuleHandles} {modules : List ModuleStartInfo}
    (fresh : (startedModules.map Prod.fst ++ forkedPids forks index modules.length).Nodup)
    (spawned : spawnModules MAX_PIPE_MESSAGE_SIZE forks index startedModules modules =
      some (.ok handles)) :
    handles.map Prod.fst = startedModules.map Prod.fst ++ forkedPids forks index modules.length := by
  induction modules generalizing index startedModules with
  | nil => simp_all [spawnModules, forkedPids]
  | cons module later ih =>
    simp only [spawnModules] at spawned
    split at spawned
    · cases spawned
    · cases spawned
    · rename_i executed
      have same := eq_of_checkChildExecuted_eq_ok executed
      subst same
      simp only [List.length_cons, forkedPids] at fresh ⊢
      have notStarted : forks.pid index ∉ startedModules.map Prod.fst :=
        fun old => (List.nodup_append.1 fresh).2.2 old (List.mem_cons_self _ _)
      rw [insertHandle_of_not_mem _ notStarted] at spawned
      rw [ih (by simpa using fresh) spawned]
      simp

/-- `start_modules`: the registration loop, then `spawn_modules` on the queued modules. -/
def startModules (environment : StartEnvironment) (ignoredModules standaloneModules : List ModuleId)
    (MAX_PIPE_MESSAGE_SIZE : Nat) (forks : ForkResults) (mainConfig : MainConfig)
    (modulesReady : ModulesReady) : Option (Except Bytes (Registration × ModuleHandles)) :=
  match registerModules environment ignoredModules standaloneModules mainConfig modulesReady with
  | .error message => some (.error (utf8Bytes message))
  | .ok registration =>
    (spawnModules MAX_PIPE_MESSAGE_SIZE forks 0 [] registration.modulesToSpawn).map
      fun spawned => spawned.map fun moduleHandles => (registration, moduleHandles)

/-- When `start_modules` returns, its handles are those `spawn_modules` returned for its queue. -/
theorem spawnModules_of_startModules {environment : StartEnvironment}
    {ignoredModules standaloneModules : List ModuleId} {MAX_PIPE_MESSAGE_SIZE : Nat}
    {forks : ForkResults} {mainConfig : MainConfig} {modulesReady : ModulesReady}
    {registration : Registration} {moduleHandles : ModuleHandles}
    (started : startModules environment ignoredModules standaloneModules MAX_PIPE_MESSAGE_SIZE forks
      mainConfig modulesReady = some (.ok (registration, moduleHandles))) :
    spawnModules MAX_PIPE_MESSAGE_SIZE forks 0 [] registration.modulesToSpawn =
      some (.ok moduleHandles) := by
  unfold startModules at started
  split at started
  · cases started
  · rename_i registered _
    cases spawning : spawnModules MAX_PIPE_MESSAGE_SIZE forks 0 [] registered.modulesToSpawn with
    | none => simp [spawning] at started
    | some spawned =>
      cases spawned with
      | error => simp [spawning, Except.map] at started
      | ok handles =>
        simp only [spawning, Option.map_some', Except.map, Option.some.injEq, Except.ok.injEq,
          Prod.mk.injEq] at started
        obtain ⟨rfl, rfl⟩ := started
        exact spawning

/-! ## The supervisor state and `shutdown_modules` -/

/-- The signals `shutdown_modules` sends. -/
inductive Signal where
  | sigterm
  | sigkill
deriving DecidableEq, Repr

/--
The `kill` calls of `shutdown_modules` for the given children: `SIGTERM` to
each, and `SIGKILL` where `SIGTERM` failed.
-/
def shutdownKills (killSucceeds : Pid → Signal → Bool) (modules : ModuleHandles) :
    List (Pid × Signal) :=
  modules.flatMap fun child =>
    if killSucceeds child.1 .sigterm then [(child.1, .sigterm)]
    else [(child.1, .sigterm), (child.1, .sigkill)]

theorem mem_shutdownKills {killSucceeds : Pid → Signal → Bool} {modules : ModuleHandles}
    {kill : Pid × Signal} (killed : kill ∈ shutdownKills killSucceeds modules) :
    kill.1 ∈ modules.map Prod.fst := by
  simp only [shutdownKills, List.mem_flatMap] at killed
  obtain ⟨child, member, killed⟩ := killed
  have targets : ∀ kill ∈ (if killSucceeds child.1 .sigterm then [(child.1, Signal.sigterm)]
      else [(child.1, .sigterm), (child.1, .sigkill)]), kill.1 = child.1 := by
    split <;> simp
  exact List.mem_map.2 ⟨child, member, (targets kill killed).symm⟩

/-- The variables of `boot` the reap loop reads and writes, and the manager's children. -/
structure Supervisor where
  /-- `*config`, replaced on `restart_modules`. -/
  mainConfig : MainConfig
  moduleHandles : ModuleHandles
  modulesStarted : Bool
  restartModules : Bool
  modulesReady : ModulesReady
  /-- The handlers registered on the ready topics. -/
  handlers : List (String × ModuleReadyHandler)
  /-- The children `waitpid` has not returned yet. -/
  unreaped : List Pid
  /-- The `kill` calls made so far. -/
  kills : List (Pid × Signal)

namespace Supervisor

/-- The supervisor `boot` enters the loop with, after `start_modules`. -/
def afterStart (mainConfig : MainConfig) (registration : Registration)
    (moduleHandles : ModuleHandles) (children : List Pid) : Supervisor :=
  ⟨mainConfig, moduleHandles, true, false, registration.modulesReady, registration.handlers,
    children, []⟩

/--
`shutdown_modules(module_handles, ...)`: unregister every ready handler,
clear `modules_ready`, then signal each tracked module.
-/
def shutdownModules (killSucceeds : Pid → Signal → Bool) (supervisor : Supervisor) : Supervisor :=
  { supervisor with
    handlers := supervisor.handlers.filter fun registered =>
      !supervisor.modulesReady.any fun entry => entry.2.token = some registered.2
    modulesReady := []
    kills := supervisor.kills ++ shutdownKills killSucceeds supervisor.moduleHandles }

/-- `waitpid` has returned `pid`: the child is reaped. -/
def waited (supervisor : Supervisor) (pid : Pid) : Supervisor :=
  { supervisor with unreaped := supervisor.unreaped.erase pid }

@[simp] theorem shutdownModules_moduleHandles (killSucceeds : Pid → Signal → Bool)
    (supervisor : Supervisor) :
    (supervisor.shutdownModules killSucceeds).moduleHandles = supervisor.moduleHandles := rfl

@[simp] theorem shutdownModules_unreaped (killSucceeds : Pid → Signal → Bool)
    (supervisor : Supervisor) :
    (supervisor.shutdownModules killSucceeds).unreaped = supervisor.unreaped := rfl

@[simp] theorem shutdownModules_modulesReady (killSucceeds : Pid → Signal → Bool)
    (supervisor : Supervisor) : (supervisor.shutdownModules killSucceeds).modulesReady = [] := rfl

@[simp] theorem shutdownModules_kills (killSucceeds : Pid → Signal → Bool)
    (supervisor : Supervisor) :
    (supervisor.shutdownModules killSucceeds).kills =
      supervisor.kills ++ shutdownKills killSucceeds supervisor.moduleHandles := rfl

@[simp] theorem waited_moduleHandles (supervisor : Supervisor) (pid : Pid) :
    (supervisor.waited pid).moduleHandles = supervisor.moduleHandles := rfl

@[simp] theorem waited_unreaped (supervisor : Supervisor) (pid : Pid) :
    (supervisor.waited pid).unreaped = supervisor.unreaped.erase pid := rfl

@[simp] theorem waited_kills (supervisor : Supervisor) (pid : Pid) :
    (supervisor.waited pid).kills = supervisor.kills := rfl

@[simp] theorem waited_modulesStarted (supervisor : Supervisor) (pid : Pid) :
    (supervisor.waited pid).modulesStarted = supervisor.modulesStarted := rfl

end Supervisor

/-! ## The loop -/

/-- How `boot` leaves the reap loop. -/
inductive ReapExit where
  /-- `return EXIT_FAILURE` after a module died. -/
  | exitFailure
  /-- `throw runtime_error("Syscall to waitpid() failed (...)")`. -/
  | waitpidFailed
  /-- `throw runtime_error("Unkown child width pid (...) died.")`. -/
  | unknownChild (pid : Pid)
  /-- `throw runtime_error("The controller process exited.")`. -/
  | controllerExited
  /-- `return EXIT_FAILURE` after an error in the IPC with the controller. -/
  | ipcError
  /-- An exception of `start_modules` or of reloading the config. -/
  | threw (message : Bytes)
deriving DecidableEq, Repr

/-- The two `runtime_error` branches on the result of `waitpid`. -/
def ReapExit.isReapError : ReapExit → Bool
  | .waitpidFailed | .unknownChild _ => true
  | _ => false

/-- The reap loop between two iterations. -/
inductive Loop where
  | running (supervisor : Supervisor)
  | left (exit : ReapExit) (supervisor : Supervisor)

/-- The variables of `boot` in either state. -/
def Loop.supervisor : Loop → Supervisor
  | .running supervisor | .left _ supervisor => supervisor

/-- Continue the iteration while the loop has not left. -/
def Loop.andThen (loop : Loop) (next : Supervisor → Option Loop) : Option Loop :=
  match loop with
  | .running supervisor => next supervisor
  | .left exit supervisor => some (.left exit supervisor)

/--
`while (true)`: one iteration per element of the list, given what the system
does during it.  A step returns `none` when the system cannot do that.
-/
def Loop.run {Iteration : Type} (step : Supervisor → Iteration → Option Loop) :
    Loop → List Iteration → Option Loop
  | loop, [] => some loop
  | loop, iteration :: later =>
    loop.andThen fun supervisor => (step supervisor iteration).bind (Loop.run step · later)

/-- A loop that has left stays left, whatever the system does next. -/
@[simp]
theorem Loop.run_left {Iteration : Type} (step : Supervisor → Iteration → Option Loop)
    (exit : ReapExit) (supervisor : Supervisor) :
    ∀ iterations : List Iteration,
      (Loop.left exit supervisor).run step iterations = some (.left exit supervisor)
  | [] => rfl
  | _ :: _ => rfl

/--
A property of the loop that the start has and that every iteration from a
running loop keeps holds at the end of every run.
-/
theorem Loop.run_induction {Iteration : Type} {step : Supervisor → Iteration → Option Loop}
    (property : Loop → Prop)
    (preserved : ∀ supervisor iteration loop, property (.running supervisor) →
      step supervisor iteration = some loop → property loop) :
    ∀ {iterations : List Iteration} {loop final : Loop}, property loop →
      loop.run step iterations = some final → property final
  | [], _, _, holds, ran => Option.some.inj ran ▸ holds
  | _ :: _, .left _ _, _, holds, ran => Option.some.inj ran ▸ holds
  | _ :: _, .running _, _, holds, ran => by
    obtain ⟨next, stepped, ran⟩ := Option.bind_eq_some.1 ran
    exact Loop.run_induction property preserved (preserved _ _ _ holds stepped) ran

/-- The branch for a child `waitpid` returned that is not the controller. -/
def Supervisor.reap (killSucceeds : Pid → Signal → Bool) (supervisor : Supervisor) (pid : Pid) :
    Loop :=
  if pid ∈ supervisor.moduleHandles.map Prod.fst then
    let supervisor :=
      { supervisor with moduleHandles := supervisor.moduleHandles.eraseP (·.1 = pid) }
    if supervisor.modulesStarted then
      .left .exitFailure { supervisor.shutdownModules killSucceeds with modulesStarted := false }
    else .running supervisor
  else .left (.unknownChild pid) supervisor

/-- One iteration of the base build: `waitpid(-1, &wstatus, 0)` returns the child `exited`. -/
def baseStep (killSucceeds : Pid → Signal → Bool) (supervisor : Supervisor) (exited : Pid) :
    Option Loop :=
  if supervisor.unreaped = [] then some (.left .waitpidFailed supervisor)
  else if exited ∈ supervisor.unreaped then some ((supervisor.waited exited).reap killSucceeds exited)
  else none

/-! ## Tracked children -/

/--
The children of the manager are exactly the tracked modules and `others`,
all distinct.
-/
structure Tracked (others : List Pid) (supervisor : Supervisor) : Prop where
  nodup : (others ++ supervisor.moduleHandles.map Prod.fst).Nodup
  children : supervisor.unreaped.Perm (others ++ supervisor.moduleHandles.map Prod.fst)

theorem Tracked.mem_unreaped {others : List Pid} {supervisor : Supervisor}
    (tracked : Tracked others supervisor) {pid : Pid} (module : pid ∈ supervisor.moduleHandles.map Prod.fst) :
    pid ∈ supervisor.unreaped :=
  tracked.children.mem_iff.2 (List.mem_append_right _ module)

/--
How an iteration changes the kill log: not at all, or by one
`shutdown_modules` of the handles it leaves.
-/
def KillsOf (killSucceeds : Pid → Signal → Bool) (before after : Supervisor) : Prop :=
  after.kills = before.kills ∨
    after.kills = before.kills ++ shutdownKills killSucceeds after.moduleHandles

/-- A loop that left did so through neither `runtime_error` branch of the reap, and tracks only unreaped children. -/
def LeftCleanly (exit : ReapExit) (supervisor : Supervisor) : Prop :=
  exit.isReapError = false ∧
    ∀ pid ∈ supervisor.moduleHandles.map Prod.fst, pid ∈ supervisor.unreaped

/--
An iteration from a tracked state ended well: a running loop tracks its
children again, and a loop that left did so cleanly; the kills, if any, are
one `shutdown_modules` of the handles it ends with.
-/
def Loop.Settled (others : List Pid) (killSucceeds : Pid → Signal → Bool) (before : Supervisor) :
    Loop → Prop
  | .running after => Tracked others after ∧ KillsOf killSucceeds before after
  | .left exit after => LeftCleanly exit after ∧ KillsOf killSucceeds before after

/-- As `Loop.Settled`, and a loop still running has signalled nothing. -/
def Loop.SettledSilently (others : List Pid) (killSucceeds : Pid → Signal → Bool)
    (before : Supervisor) : Loop → Prop
  | .running after => Tracked others after ∧ after.kills = before.kills
  | .left exit after => LeftCleanly exit after ∧ KillsOf killSucceeds before after

theorem KillsOf.of_kills_eq {killSucceeds : Pid → Signal → Bool} {before before' after : Supervisor}
    (same : before'.kills = before.kills) (kills : KillsOf killSucceeds before' after) :
    KillsOf killSucceeds before after := by
  unfold KillsOf at *
  rwa [same] at kills

theorem Loop.Settled.of_kills_eq {others : List Pid} {killSucceeds : Pid → Signal → Bool}
    {before before' : Supervisor} {loop : Loop} (same : before'.kills = before.kills)
    (settled : loop.Settled others killSucceeds before') : loop.Settled others killSucceeds before := by
  cases loop with
  | running after => exact ⟨settled.1, settled.2.of_kills_eq same⟩
  | left exit after => exact ⟨settled.1, settled.2.of_kills_eq same⟩

/-- The kills of such an iteration target tracked modules that `waitpid` has not returned. -/
theorem KillsOf.targets_unreaped {killSucceeds : Pid → Signal → Bool} {before after : Supervisor}
    (kills : KillsOf killSucceeds before after)
    (unreaped : ∀ pid ∈ after.moduleHandles.map Prod.fst, pid ∈ after.unreaped) :
    ∀ kill ∈ after.kills.drop before.kills.length,
      kill.1 ∈ after.moduleHandles.map Prod.fst ∧ kill.1 ∈ after.unreaped := by
  intro kill killed
  rcases kills with same | added
  · simp [same] at killed
  · rw [added, List.drop_left] at killed
    exact ⟨mem_shutdownKills killed, unreaped _ (mem_shutdownKills killed)⟩

theorem keys_eraseP (handles : ModuleHandles) (pid : Pid) :
    (handles.eraseP (·.1 = pid)).map Prod.fst = (handles.map Prod.fst).erase pid := by
  rw [List.erase_eq_eraseP, List.eraseP_map]
  congr 2
  funext entry
  by_cases same : entry.1 = pid
  · simp [same]
  · simp [same, Ne.symm same]

/--
Reaping a tracked module keeps the children tracked; while the modules are
started it leaves the loop with `EXIT_FAILURE`, having signalled only the
other tracked modules.
-/
theorem reap_settled (killSucceeds : Pid → Signal → Bool) {others : List Pid}
    {supervisor : Supervisor} {pid : Pid} (tracked : Tracked others supervisor)
    (child : pid ∈ supervisor.unreaped) (notOther : pid ∉ others) :
    ((supervisor.waited pid).reap killSucceeds pid).SettledSilently others killSucceeds supervisor := by
  have module : pid ∈ supervisor.moduleHandles.map Prod.fst := by
    simpa [notOther] using tracked.children.mem_iff.1 child
  have erased : Tracked others { supervisor.waited pid with
      moduleHandles := supervisor.moduleHandles.eraseP (·.1 = pid) } := by
    have keys := keys_eraseP supervisor.moduleHandles pid
    constructor
    · simpa [keys, List.erase_append_right _ notOther] using tracked.nodup.erase pid
    · simpa [keys, List.erase_append_right _ notOther] using tracked.children.erase pid
  unfold Supervisor.reap
  cases started : supervisor.modulesStarted
  · simp only [Supervisor.waited_moduleHandles, Supervisor.waited_modulesStarted, module, started,
      if_true, Bool.false_eq_true, if_false]
    exact ⟨⟨erased.nodup, erased.children⟩, rfl⟩
  · simp only [Supervisor.waited_moduleHandles, Supervisor.waited_modulesStarted, module, started,
      if_true]
    exact ⟨⟨rfl, fun _ => erased.mem_unreaped⟩, .inr rfl⟩

/-! ## The base build -/

/--
The first iteration of the base build from the state `boot` enters it with:
the `waitpid() failed` branch when no module was spawned, and otherwise
`EXIT_FAILURE` after signalling every tracked module but the one that exited.
-/
theorem baseStep_afterStart (killSucceeds : Pid → Signal → Bool) (mainConfig : MainConfig)
    (registration : Registration) (moduleHandles : ModuleHandles) (exited : Pid) :
    let entry := Supervisor.afterStart mainConfig registration moduleHandles
      (moduleHandles.map Prod.fst)
    baseStep killSucceeds entry exited =
      if moduleHandles = [] then some (.left .waitpidFailed entry)
      else if exited ∈ moduleHandles.map Prod.fst then
        some (.left .exitFailure
          { entry with
            moduleHandles := moduleHandles.eraseP (·.1 = exited)
            modulesStarted := false
            modulesReady := []
            handlers := registration.handlers.filter fun registered =>
              !registration.modulesReady.any fun entry => entry.2.token = some registered.2
            unreaped := (moduleHandles.map Prod.fst).erase exited
            kills := shutdownKills killSucceeds (moduleHandles.eraseP (·.1 = exited)) })
      else none := by
  by_cases none : moduleHandles = []
  · subst none
    rfl
  · have children : moduleHandles.map Prod.fst ≠ [] := by simpa using none
    simp only [baseStep, Supervisor.afterStart, children, none, if_false]
    split_ifs with member
    · simp [Supervisor.reap, member, Supervisor.waited, Supervisor.shutdownModules]
    · rfl

/-- A config whose only module is marked standalone. -/
def standaloneOnlyConfig : MainConfig :=
  ⟨[("a", ⟨"A", [], true⟩)], by decide⟩

/--
With every module standalone, `start_modules` spawns nothing, the manager has
no child, and the first iteration of the base build takes its
`waitpid() failed` branch whatever the system does.
-/
theorem all_standalone_waitpid_fails (MAX_PIPE_MESSAGE_SIZE : Nat) (forks : ForkResults)
    (killSucceeds : Pid → Signal → Bool) :
    ∃ registration,
      startModules binaryEnvironment [] (bootStandaloneModules [] standaloneOnlyConfig)
          MAX_PIPE_MESSAGE_SIZE forks standaloneOnlyConfig [] = some (.ok (registration, [])) ∧
      ∀ exited, baseStep killSucceeds (.afterStart standaloneOnlyConfig registration [] []) exited =
        some (.left .waitpidFailed (.afterStart standaloneOnlyConfig registration [] [])) :=
  ⟨_, rfl, fun _ => rfl⟩

end EverestFramework.Manager.Boot
