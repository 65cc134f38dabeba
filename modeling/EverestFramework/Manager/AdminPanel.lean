import EverestFramework.Manager.Boot

/-!
# The reap loop with `ENABLE_ADMIN_PANEL`

With the admin panel the manager also starts the controller before the
modules, polls with `waitpid(-1, &wstatus, WNOHANG)`, restarts the modules
once every one of them has been reaped after a `restart_modules` message, and
handles the controller's messages in the same loop.

Here the controller is a child of the manager for as long as the loop runs,
so `waitpid` never fails, and every child it returns is the controller or a
tracked module: the children stay exactly the controller and the tracked
modules (`adminStep_settled`).  Along every run, each iteration leaves through
neither `runtime_error` branch of the reap and signals only tracked modules
that are still unreaped (`adminLoop_safe`).
-/

namespace EverestFramework.Manager.AdminPanel

open EverestFramework.Manager.ReadyBarrier
open EverestFramework.Manager.StartModules
open EverestFramework.Manager.Boot
open EverestFramework.System.SubProcess

/-- What `controller_handle.receive_message()` returns, by the branch it takes. -/
inductive ControllerMessage where
  /--
  Status `OK` with method `restart_modules`; `reloaded` is the config built
  by `Config(rs, true)`, or its exception.
  -/
  | restartModules (reloaded : Except String MainConfig)
  /-- Status `OK` with method `check_config`. -/
  | checkConfig
  /-- Status `OK` with another method. -/
  | unknownMethod
  /-- Status `ERROR`. -/
  | error
  /-- Status `TIMEOUT`. -/
  | timeout

/-- What the system does during one iteration. -/
structure AdminIteration where
  /-- The child `waitpid(-1, &wstatus, WNOHANG)` returns; `none` when none has exited. -/
  exited : Option Pid
  /-- The forks of a restart in this iteration. -/
  forks : ForkResults
  message : ControllerMessage

section Loop

variable (environment : StartEnvironment) (ignoredModules standaloneModules : List ModuleId)
  (MAX_PIPE_MESSAGE_SIZE : Nat) (controller : Pid) (killSucceeds : Pid → Signal → Bool)

/--
`waitpid(-1, &wstatus, WNOHANG)` and the branches on its result: `0` when no
child has exited, `-1` when the manager has no child.
-/
def waitNoHang (supervisor : Supervisor) : Option Pid → Option Loop
  | none =>
    some (if supervisor.unreaped = [] then .left .waitpidFailed supervisor else .running supervisor)
  | some pid =>
    if pid ∈ supervisor.unreaped then
      some (if pid = controller then .left .controllerExited (supervisor.waited pid)
        else (supervisor.waited pid).reap killSucceeds pid)
    else none

/--
`module_handles.size() == 0 && restart_modules`: start the modules again
with the config of the last `restart_modules`.  The forked pids are new
children, distinct from every unreaped one.
-/
def restartIfReaped (supervisor : Supervisor) (forks : ForkResults) : Option Loop :=
  if supervisor.moduleHandles.isEmpty && supervisor.restartModules then
    match startModules environment ignoredModules standaloneModules MAX_PIPE_MESSAGE_SIZE forks
        supervisor.mainConfig supervisor.modulesReady with
    | none => none
    | some (.error message) => some (.left (.threw message) supervisor)
    | some (.ok (registration, moduleHandles)) =>
      let spawned := forkedPids forks 0 registration.modulesToSpawn.length
      if (supervisor.unreaped ++ spawned).Nodup then
        some (.running
          { supervisor with
            moduleHandles
            modulesReady := registration.modulesReady
            handlers := supervisor.handlers ++ registration.handlers
            unreaped := supervisor.unreaped ++ spawned
            restartModules := false
            modulesStarted := true })
      else none
  else some (.running supervisor)

/-- The branches on the controller's message. -/
def receive (supervisor : Supervisor) : ControllerMessage → Loop
  | .restartModules reloaded =>
    let supervisor := supervisor.shutdownModules killSucceeds
    match reloaded with
    | .error message => .left (.threw (utf8Bytes message)) supervisor
    | .ok mainConfig =>
      .running { supervisor with mainConfig, modulesStarted := false, restartModules := true }
  | .error => .left .ipcError supervisor
  | .checkConfig | .unknownMethod | .timeout => .running supervisor

/-- One iteration of the loop of the admin build. -/
def adminStep (supervisor : Supervisor) (iteration : AdminIteration) : Option Loop :=
  (waitNoHang controller killSucceeds supervisor iteration.exited).bind fun loop =>
    loop.andThen fun supervisor =>
      (restartIfReaped environment ignoredModules standaloneModules MAX_PIPE_MESSAGE_SIZE
          supervisor iteration.forks).bind fun loop =>
        loop.andThen fun supervisor => some (receive killSucceeds supervisor iteration.message)

/-- The supervisor the admin build enters the loop with: the controller is its first child. -/
def adminEntry (mainConfig : MainConfig) (registration : Registration)
    (moduleHandles : ModuleHandles) : Supervisor :=
  .afterStart mainConfig registration moduleHandles (controller :: moduleHandles.map Prod.fst)

/-! ## Each part of an iteration keeps the children tracked -/

variable {environment ignoredModules standaloneModules MAX_PIPE_MESSAGE_SIZE controller killSucceeds}

theorem waitNoHang_settled {supervisor : Supervisor} {exited : Option Pid} {loop : Loop}
    (tracked : Tracked [controller] supervisor)
    (waited : waitNoHang controller killSucceeds supervisor exited = some loop) :
    loop.SettledSilently [controller] killSucceeds supervisor := by
  have running : supervisor.unreaped ≠ [] :=
    List.ne_nil_of_mem (tracked.children.mem_iff.2 (List.mem_cons_self _ _))
  cases exited with
  | none =>
    obtain rfl := Option.some.inj waited
    simpa [waitNoHang, running, Loop.SettledSilently] using tracked
  | some pid =>
    simp only [waitNoHang] at waited
    split_ifs at waited with child isController
    · obtain rfl := Option.some.inj waited
      refine ⟨⟨rfl, fun module member => ?_⟩, .inl rfl⟩
      have distinct : module ≠ pid := by
        rintro rfl
        exact (List.nodup_cons.1 tracked.nodup).1 (by simpa [isController] using member)
      exact (List.mem_erase_of_ne distinct).2 (tracked.mem_unreaped member)
    · obtain rfl := Option.some.inj waited
      exact reap_settled killSucceeds tracked child (by simpa using isController)

theorem restartIfReaped_settled {supervisor : Supervisor} {forks : ForkResults} {loop : Loop}
    (tracked : Tracked [controller] supervisor)
    (restarted : restartIfReaped environment ignoredModules standaloneModules
      MAX_PIPE_MESSAGE_SIZE supervisor forks = some loop) :
    loop.SettledSilently [controller] killSucceeds supervisor := by
  unfold restartIfReaped at restarted
  split_ifs at restarted with reaped
  · simp only [Bool.and_eq_true, List.isEmpty_iff] at reaped
    split at restarted
    · cases restarted
    · obtain rfl := Option.some.inj restarted
      exact ⟨⟨rfl, by simp [reaped.1]⟩, .inl rfl⟩
    · rename_i registration moduleHandles started
      dsimp only at restarted
      split_ifs at restarted with fresh
      obtain rfl := Option.some.inj restarted
      have alone : supervisor.unreaped.Perm [controller] := by
        simpa [reaped.1] using tracked.children
      have keys := keys_spawnModules (by simpa using (List.nodup_append.1 fresh).2.1)
        (spawnModules_of_startModules started)
      simp only [List.map_nil, List.nil_append] at keys
      refine ⟨⟨?_, ?_⟩, rfl⟩
      · simpa [keys] using (alone.append_right _).nodup_iff.1 fresh
      · simpa [keys] using alone.append_right _
  · obtain rfl := Option.some.inj restarted
    exact ⟨tracked, rfl⟩

theorem receive_settled {supervisor : Supervisor} (message : ControllerMessage)
    (tracked : Tracked [controller] supervisor) :
    (receive killSucceeds supervisor message).Settled [controller] killSucceeds supervisor := by
  have unreaped := fun (pid : Pid) => @Tracked.mem_unreaped _ _ tracked pid
  cases message with
  | restartModules reloaded =>
    cases reloaded with
    | error message => exact ⟨⟨rfl, unreaped⟩, .inr rfl⟩
    | ok mainConfig => exact ⟨⟨tracked.nodup, tracked.children⟩, .inr rfl⟩
  | error => exact ⟨⟨rfl, unreaped⟩, .inl rfl⟩
  | checkConfig | unknownMethod | timeout => exact ⟨tracked, .inl rfl⟩

/-! ## Whole iterations and whole runs -/

/--
From a tracked state, an iteration of the admin build never takes the
`waitpid() failed` or the unknown-child branch, keeps the children tracked
while the loop runs, and signals only tracked, unreaped modules.
-/
theorem adminStep_settled {supervisor : Supervisor} {iteration : AdminIteration} {loop : Loop}
    (tracked : Tracked [controller] supervisor)
    (stepped : adminStep environment ignoredModules standaloneModules MAX_PIPE_MESSAGE_SIZE
      controller killSucceeds supervisor iteration = some loop) :
    loop.Settled [controller] killSucceeds supervisor := by
  obtain ⟨waited, waiting, stepped⟩ := Option.bind_eq_some.1 stepped
  have first := waitNoHang_settled tracked waiting
  cases waited with
  | left exit after =>
    obtain rfl := Option.some.inj stepped
    exact first
  | running afterWait =>
    obtain ⟨trackedWait, sameKills⟩ := first
    obtain ⟨restarted, restarting, stepped⟩ := Option.bind_eq_some.1 stepped
    have second : restarted.SettledSilently [controller] killSucceeds afterWait :=
      restartIfReaped_settled trackedWait restarting
    cases restarted with
    | left exit after =>
      obtain rfl := Option.some.inj stepped
      exact ⟨second.1, second.2.of_kills_eq sameKills⟩
    | running afterRestart =>
      obtain rfl := Option.some.inj stepped
      have third : (receive killSucceeds afterRestart iteration.message).Settled [controller]
          killSucceeds afterRestart := receive_settled iteration.message second.1
      exact third.of_kills_eq (second.2.trans sameKills)

theorem tracked_adminEntry {mainConfig : MainConfig} {registration : Registration}
    {moduleHandles : ModuleHandles} (fresh : (controller :: moduleHandles.map Prod.fst).Nodup) :
    Tracked [controller] (adminEntry controller mainConfig registration moduleHandles) :=
  ⟨fresh, .refl _⟩

/--
Along every run of the admin build from the state `boot` enters the loop
with, when the controller and the spawned modules have distinct pids: each
iteration signals only tracked modules that `waitpid` has not returned, and
the loop never leaves through the `waitpid() failed` or the unknown-child
branch.
-/
theorem adminLoop_safe (mainConfig : MainConfig) (registration : Registration)
    (moduleHandles : ModuleHandles) (fresh : (controller :: moduleHandles.map Prod.fst).Nodup)
    (iterations : List AdminIteration) (supervisor : Supervisor) (iteration : AdminIteration)
    (loop : Loop)
    (reached : (Loop.running (adminEntry controller mainConfig registration moduleHandles)).run
      (adminStep environment ignoredModules standaloneModules MAX_PIPE_MESSAGE_SIZE controller
        killSucceeds) iterations = some (.running supervisor))
    (stepped : adminStep environment ignoredModules standaloneModules MAX_PIPE_MESSAGE_SIZE
      controller killSucceeds supervisor iteration = some loop) :
    (∀ kill ∈ loop.supervisor.kills.drop supervisor.kills.length,
      kill.1 ∈ loop.supervisor.moduleHandles.map Prod.fst ∧ kill.1 ∈ loop.supervisor.unreaped) ∧
    ∀ exit after, loop = .left exit after → exit.isReapError = false := by
  have tracked : Tracked [controller] supervisor :=
    Loop.run_induction (fun loop => ∀ supervisor, loop = .running supervisor →
        Tracked [controller] supervisor)
      (fun _ _ loop holds stepped supervisor running => by
        have settled := adminStep_settled (holds _ rfl) stepped
        subst running
        exact settled.1)
      (fun _ running => by cases running; exact tracked_adminEntry fresh) reached _ rfl
  have settled := adminStep_settled tracked stepped
  cases loop with
  | running after =>
    exact ⟨settled.2.targets_unreaped fun _ => settled.1.mem_unreaped, by simp⟩
  | left exit after =>
    refine ⟨settled.2.targets_unreaped settled.1.2, ?_⟩
    rintro exit' after' ⟨⟩
    exact settled.1.1

end Loop

/-- No child exits, and the controller asks for a restart with a valid config. -/
def restartIteration : AdminIteration :=
  ⟨none, ⟨fun index => index + 10, fun _ => .execs⟩, .restartModules (.ok standaloneOnlyConfig)⟩

/--
With the controller `1` and one module `2`, a `restart_modules` signals the
module, which is tracked and unreaped.
-/
theorem adminLoop_safe_restart :
    let entry := adminEntry 1 standaloneOnlyConfig ⟨[], [], []⟩ [(2, "a")]
    let loop := receive (fun _ _ => true) entry (.restartModules (.ok standaloneOnlyConfig))
    (∀ kill ∈ loop.supervisor.kills.drop entry.kills.length,
      kill.1 ∈ loop.supervisor.moduleHandles.map Prod.fst ∧ kill.1 ∈ loop.supervisor.unreaped) ∧
    ∀ exit after, loop = .left exit after → exit.isReapError = false :=
  @adminLoop_safe binaryEnvironment [] [] 1024 1 (fun _ _ => true) standaloneOnlyConfig ⟨[], [], []⟩
    [(2, "a")] (by decide) [] _ restartIteration _ rfl rfl

end EverestFramework.Manager.AdminPanel
