import EverestFramework.Manager.ReadyBarrier
import EverestFramework.System.Format
import Mathlib.Data.List.Nodup

/-!
# Registering and starting the modules

`start_modules` walks the main config.  For every module that is not ignored
it adds an entry to `modules_ready`, registers the module's ready handler on
`<module prefix>/ready`, and, unless the module is standalone, looks for its
binary, `index.js` or `module.py` and queues it for `spawn_modules`; finding
none of them throws.  `boot` builds the standalone list from the command line
and the config beforehand.

The MQTT thread is running while the loop registers handlers, so a ready
message of a standalone module can be handled between two iterations.  The
startup model interleaves the loop iterations, the spawn after the loop, and
ready messages to registered handlers (a module started by the manager only
after the spawn).  In such a run the handler of an early standalone module
can find every entry registered so far ready, and publish the global signal
before the later modules are in the table (`standalone_ready_opens_barrier`).
-/

namespace EverestFramework.Manager.StartModules

open EverestFramework.Manager.ReadyBarrier
open EverestFramework.System.Format

/-- The fields of a main config entry that the manager reads. -/
structure ModuleConfig where
  /-- `module`, the module type. -/
  module : String
  /-- `capabilities`, empty when absent. -/
  capabilities : List String
  /-- `standalone`, false when absent. -/
  standalone : Bool
deriving DecidableEq, Repr

/-- `config.get_main_config()`, a JSON object: its module ids are unique. -/
structure MainConfig where
  entries : List (ModuleId × ModuleConfig)
  nodup : (entries.map Prod.fst).Nodup

/-- The standalone list `boot` builds: the `--standalone` ids, then the ids marked standalone. -/
def bootStandaloneModules (commandLine : List ModuleId) (mainConfig : MainConfig) : List ModuleId :=
  mainConfig.entries.foldl
    (fun standaloneModules entry =>
      if entry.2.standalone && !standaloneModules.contains entry.1 then
        standaloneModules ++ [entry.1]
      else standaloneModules)
    commandLine

/--
The loop that builds the standalone list, over entries with distinct ids:
it appends the ids marked standalone that the list does not hold yet.
-/
theorem foldl_bootStandalone (entries : List (ModuleId × ModuleConfig))
    (nodup : (entries.map Prod.fst).Nodup) (standaloneModules : List ModuleId) :
    entries.foldl
        (fun standaloneModules entry =>
          if entry.2.standalone && !standaloneModules.contains entry.1 then
            standaloneModules ++ [entry.1]
          else standaloneModules)
        standaloneModules =
      standaloneModules ++ ((entries.filter fun entry => entry.2.standalone).map Prod.fst).filter
        (· ∉ standaloneModules) := by
  induction entries generalizing standaloneModules with
  | nil => exact (List.append_nil _).symm
  | cons entry later ih =>
    rw [List.map_cons, List.nodup_cons] at nodup
    rw [List.foldl_cons]
    by_cases marked : entry.2.standalone = true
    · by_cases named : entry.1 ∈ standaloneModules
      · rw [if_neg (by simp [named]), ih nodup.2, List.filter_cons, if_pos marked, List.map_cons,
          List.filter_cons, if_neg (by simpa using named)]
      · have others : ∀ moduleId ∈ (later.filter fun entry => entry.2.standalone).map Prod.fst,
            decide (moduleId ∉ standaloneModules ++ [entry.1]) =
              decide (moduleId ∉ standaloneModules) := by
          intro moduleId member
          obtain ⟨other, otherMember, rfl⟩ := List.mem_map.1 member
          have distinct : other.1 ≠ entry.1 := fun same =>
            nodup.1 (same ▸ List.mem_map_of_mem Prod.fst (List.mem_filter.1 otherMember).1)
          simp [distinct]
        rw [if_pos (by simp [marked, named]), ih nodup.2, List.filter_congr others, List.filter_cons,
          if_pos marked, List.map_cons, List.filter_cons, if_pos (by simpa using named),
          List.append_assoc, List.singleton_append]
    · rw [if_neg (by simp [marked]), ih nodup.2, List.filter_cons, if_neg marked]

/--
`boot`'s standalone list: the `--standalone` ids, followed by the ids the
config marks standalone that the command line does not name, in config order.
-/
theorem bootStandaloneModules_eq_append (commandLine : List ModuleId) (mainConfig : MainConfig) :
    bootStandaloneModules commandLine mainConfig =
      commandLine ++
        ((mainConfig.entries.filter fun entry => entry.2.standalone).map Prod.fst).filter
          (· ∉ commandLine) :=
  foldl_bootStandalone mainConfig.entries mainConfig.nodup commandLine

/-- `ModuleStartInfo::Language`. -/
inductive Language where
  | cpp
  | javascript
  | python
deriving DecidableEq, Repr

/-- `ModuleStartInfo`: how to start one module. -/
structure ModuleStartInfo where
  name : String
  printableName : String
  language : Language
  path : String
  capabilities : List String
deriving DecidableEq, Repr

/-- What `start_modules` reads from the configuration, the settings and the file system. -/
structure StartEnvironment where
  /-- `config.mqtt_module_prefix`. -/
  mqttModulePrefix : ModuleId → String
  /-- `config.printable_identifier`. -/
  printableIdentifier : ModuleId → String
  /-- `rs->modules_dir`. -/
  modulesDir : String
  /-- `rs->mqtt_everest_prefix`. -/
  mqttEverestPrefix : String
  /-- `fs::exists`. -/
  pathExists : String → Bool
  /-- `fs::canonical`. -/
  canonical : String → String

/-- What the loop of `start_modules` has built so far. -/
structure Registration where
  modulesReady : ModulesReady
  /-- The handlers registered with `register_handler`, with their topics. -/
  handlers : List (String × ModuleReadyHandler)
  modulesToSpawn : List ModuleStartInfo
deriving DecidableEq, Repr

/-- `path.has_filename()` on POSIX: the path is not empty and does not end in `/`. -/
def hasFilename (path : String) : Bool :=
  match path.toList.getLast? with
  | none => false
  | some last => last != '/'

/--
`path / name` of `std::filesystem` on POSIX: an absolute `name` replaces the
path; otherwise a separator comes first only when the path has a filename.
-/
def joinPath (directory name : String) : String :=
  if name.toList.head? = some '/' then name
  else if hasFilename directory then directory ++ "/" ++ name
  else directory ++ name

/--
The text of the `runtime_error` thrown when no start file is found.  The
format string ends after the `js` line and the text meant for the `py` line
is passed as its first argument, so every placeholder takes the argument
before the intended one.
-/
def notFoundMessage (moduleName moduleType binaryPath : String) : String :=
  "module: " ++ "    py:  \x7b\x7d\n" ++ " (" ++ moduleName ++ ") cannot be loaded because no Binary, " ++
    "JavaScript or Python module has been found\n  checked paths:\n    binary: " ++ moduleType ++
    "\n    js:  " ++ binaryPath ++ "\n"

/-- The format string of that error, as the source writes it in pieces. -/
def notFoundFormat : String :=
  "module: \x7b\x7d (\x7b\x7d) cannot be loaded because no Binary, JavaScript or Python " ++
    "module has been found\n" ++ "  checked paths:\n" ++ "    binary: \x7b\x7d\n" ++ "    js:  \x7b\x7d\n"

/--
`notFoundMessage` is what `fmt::format` makes of the format string and the
arguments of the source; the last two arguments are left over.
-/
theorem notFoundMessage_eq_format (moduleName moduleType binaryPath javascriptLibraryPath
    pythonModulePath : String) :
    format notFoundFormat ["    py:  \x7b\x7d\n", moduleName, moduleType, binaryPath,
        javascriptLibraryPath, pythonModulePath] =
      .ok (notFoundMessage moduleName moduleType binaryPath) := by
  have layout : notFoundFormat.toList =
      "module: ".toList ++ '\x7b' :: '\x7d' :: (" (".toList ++ '\x7b' :: '\x7d' ::
        (") cannot be loaded because no Binary, ".toList ++
          ("JavaScript or Python module has been found\n  checked paths:\n    binary: ".toList ++
            '\x7b' :: '\x7d' :: ("\n    js:  ".toList ++ '\x7b' :: '\x7d' ::
              ("\n".toList ++ []))))) := by
    rfl
  rw [format, layout, formatChars_text _ (by decide), formatChars_field,
    formatChars_text _ (by decide), formatChars_field, formatChars_text _ (by decide),
    formatChars_text _ (by decide), formatChars_field, formatChars_text _ (by decide),
    formatChars_field, formatChars_text _ (by decide), formatChars_nil]
  simp only [Functor.map, Except.map, notFoundMessage, String.append_assoc, String.append_empty]

/-- The body of the loop of `start_modules` for one entry of the main config. -/
def registerModule (environment : StartEnvironment) (ignoredModules standaloneModules : List ModuleId)
    (registration : Registration) (entry : ModuleId × ModuleConfig) : Except String Registration :=
  let moduleName := entry.1
  if ignoredModules.contains moduleName then
    .ok registration
  else
    let moduleType := entry.2.module
    let handler : ModuleReadyHandler :=
      ⟨moduleName, standaloneModules, environment.mqttEverestPrefix⟩
    let modulesReady := (registration.modulesReady.emplace moduleName ⟨false, none⟩).modify
      moduleName fun info => { info with token := some handler }
    let handlers :=
      registration.handlers ++ [(environment.mqttModulePrefix moduleName ++ "/ready", handler)]
    if standaloneModules.contains moduleName then
      .ok { registration with modulesReady, handlers }
    else
      let modulePath := joinPath environment.modulesDir moduleType
      let binaryPath := joinPath modulePath moduleType
      let javascriptLibraryPath := joinPath modulePath "index.js"
      let pythonModulePath := joinPath modulePath "module.py"
      let queue (language : Language) (path : String) : Except String Registration :=
        .ok ⟨modulesReady, handlers, registration.modulesToSpawn ++
          [⟨moduleName, environment.printableIdentifier moduleName, language, path,
            entry.2.capabilities⟩]⟩
      if environment.pathExists binaryPath then
        queue .cpp binaryPath
      else if environment.pathExists javascriptLibraryPath then
        queue .javascript (environment.canonical javascriptLibraryPath)
      else if environment.pathExists pythonModulePath then
        queue .python (environment.canonical pythonModulePath)
      else
        .error (notFoundMessage moduleName moduleType binaryPath)

/-- The loop of `start_modules` over the whole main config, from the current ready table. -/
def registerModules (environment : StartEnvironment) (ignoredModules standaloneModules : List ModuleId)
    (mainConfig : MainConfig) (modulesReady : ModulesReady) : Except String Registration :=
  mainConfig.entries.foldlM (registerModule environment ignoredModules standaloneModules)
    ⟨modulesReady, [], []⟩

/--
Whichever branch it takes, an iteration on a module that is not ignored gives
the module its row with the module's ready handler.
-/
theorem modulesReady_registerModule {environment : StartEnvironment}
    {ignoredModules standaloneModules : List ModuleId} {registration next : Registration}
    {entry : ModuleId × ModuleConfig}
    (registered : registerModule environment ignoredModules standaloneModules registration entry =
      .ok next) (notIgnored : ignoredModules.contains entry.1 = false) :
    next.modulesReady = (registration.modulesReady.emplace entry.1 ⟨false, none⟩).modify entry.1
      fun info => { info with token := some ⟨entry.1, standaloneModules,
        environment.mqttEverestPrefix⟩ } := by
  unfold registerModule at registered
  dsimp only at registered
  rw [notIgnored, if_neg Bool.false_ne_true] at registered
  -- standalone, binary, `index.js`, `module.py`, nothing found
  obtain ⟨-, registered⟩ | ⟨-, registered⟩ := ite_eq_iff.mp registered
  · cases registered; rfl
  obtain ⟨-, registered⟩ | ⟨-, registered⟩ := ite_eq_iff.mp registered
  · cases registered; rfl
  obtain ⟨-, registered⟩ | ⟨-, registered⟩ := ite_eq_iff.mp registered
  · cases registered; rfl
  obtain ⟨-, registered⟩ | ⟨-, registered⟩ := ite_eq_iff.mp registered
  · cases registered; rfl
  · cases registered

/-- One iteration keeps the table's keys and adds the entry's module unless it is ignored. -/
theorem mem_keys_registerModule {environment : StartEnvironment}
    {ignoredModules standaloneModules : List ModuleId} {registration next : Registration}
    {entry : ModuleId × ModuleConfig}
    (registered : registerModule environment ignoredModules standaloneModules registration entry =
      .ok next) (key : ModuleId) :
    key ∈ next.modulesReady.keys ↔
      key ∈ registration.modulesReady.keys ∨ (key = entry.1 ∧ entry.1 ∉ ignoredModules) := by
  cases ignored : ignoredModules.contains entry.1
  case true =>
    have member : entry.1 ∈ ignoredModules := List.elem_iff.mp ignored
    unfold registerModule at registered
    rw [if_pos ignored] at registered
    cases registered
    exact (or_iff_left fun ⟨_, notMember⟩ => notMember member).symm
  case false =>
    have notMember : entry.1 ∉ ignoredModules := by simpa using ignored
    rw [modulesReady_registerModule registered ignored, ModulesReady.keys_modify,
      ModulesReady.mem_keys_emplace]
    simp only [notMember, not_false_eq_true, and_true]

/-! ## Startup: the loop interleaved with ready messages -/

/-- The state of `start_modules` and of the ready handlers while the MQTT thread runs. -/
structure Startup where
  registration : Registration
  /-- The main config entries the loop has not reached. -/
  pending : List (ModuleId × ModuleConfig)
  /-- `spawn_modules` has started the queued modules. -/
  spawned : Bool
  /-- The status updates and publishes of the ready handlers so far. -/
  outputs : List ManagerOutput
deriving DecidableEq, Repr

/-- One thing that can happen during startup. -/
inductive StartupAction where
  /-- The next iteration of the loop. -/
  | iterate
  /-- `spawn_modules`, after the loop. -/
  | spawn
  /-- A ready message with payload `true` handled by a registered handler. -/
  | deliver (handler : ModuleReadyHandler)
deriving DecidableEq, Repr

namespace Startup

/-- `start_modules` entered with an empty ready table. -/
def start (mainConfig : MainConfig) : Startup :=
  ⟨⟨[], [], []⟩, mainConfig.entries, false, []⟩

/--
One step, if it can happen: a ready message reaches only a registered
handler, and one of a module started by the manager only after the spawn.
-/
def step (environment : StartEnvironment) (ignoredModules standaloneModules : List ModuleId)
    (startup : Startup) : StartupAction → Option Startup
  | .iterate =>
    match startup.pending with
    | [] => none
    | entry :: later =>
      match registerModule environment ignoredModules standaloneModules startup.registration entry with
      | .ok registration => some { startup with registration, pending := later }
      | .error _ => none
  | .spawn =>
    if startup.pending.isEmpty && !startup.spawned then some { startup with spawned := true }
    else none
  | .deliver handler =>
    if handler ∈ startup.registration.handlers.map Prod.snd &&
        (standaloneModules.contains handler.moduleName || startup.spawned) then
      (handler.handle startup.registration.modulesReady true).map fun handled =>
        { startup with
          registration := { startup.registration with modulesReady := handled.1 }
          outputs := startup.outputs ++ handled.2 }
    else none

/-- A sequence of steps, as long as each can happen. -/
def run (environment : StartEnvironment) (ignoredModules standaloneModules : List ModuleId)
    (startup : Startup) : List StartupAction → Option Startup
  | [] => some startup
  | action :: later =>
    (startup.step environment ignoredModules standaloneModules action).bind fun next =>
      next.run environment ignoredModules standaloneModules later

end Startup

/-! ## What a published ready signal guarantees -/

/-- Every module the loop has passed and does not ignore has an entry in `modules_ready`. -/
def Startup.Registered (mainConfig : MainConfig) (ignoredModules : List ModuleId) (startup : Startup) :
    Prop :=
  ∃ processed, mainConfig.entries = processed ++ startup.pending ∧
    ∀ entry ∈ processed, entry.1 ∉ ignoredModules → entry.1 ∈ startup.registration.modulesReady.keys

section Registered

variable {environment : StartEnvironment} {ignoredModules standaloneModules : List ModuleId}
  {mainConfig : MainConfig}

theorem Startup.registered_start : (Startup.start mainConfig).Registered mainConfig ignoredModules :=
  ⟨[], rfl, by simp⟩

theorem Startup.Registered.step {startup next : Startup} {action : StartupAction}
    (registered : startup.Registered mainConfig ignoredModules)
    (stepped : startup.step environment ignoredModules standaloneModules action = some next) :
    next.Registered mainConfig ignoredModules := by
  obtain ⟨processed, entries, passed⟩ := registered
  cases action with
  | iterate =>
    simp only [Startup.step] at stepped
    cases pending : startup.pending with
    | nil => simp [pending] at stepped
    | cons entry later =>
      cases iterated : registerModule environment ignoredModules standaloneModules
          startup.registration entry with
      | error message => simp [pending, iterated] at stepped
      | ok registration =>
        simp only [pending, iterated, Option.some.injEq] at stepped
        subst stepped
        refine ⟨processed ++ [entry], by simp [entries, pending], fun passedEntry member notIgnored => ?_⟩
        rw [mem_keys_registerModule iterated]
        rcases List.mem_append.1 member with old | new
        · exact .inl (passed passedEntry old notIgnored)
        · rw [List.mem_singleton.1 new] at notIgnored ⊢
          exact .inr ⟨rfl, notIgnored⟩
  | spawn =>
    simp only [Startup.step] at stepped
    split_ifs at stepped
    cases stepped
    exact ⟨processed, entries, passed⟩
  | deliver handler =>
    simp only [Startup.step] at stepped
    split_ifs at stepped
    obtain ⟨handled, handling, rfl⟩ := Option.map_eq_some'.1 stepped
    obtain ⟨updated, set, rfl⟩ := Option.map_eq_some'.1 handling
    exact ⟨processed, entries, fun entry member notIgnored =>
      (ModulesReady.keys_setReady set).symm ▸ passed entry member notIgnored⟩

theorem Startup.Registered.run {startup final : Startup} {actions : List StartupAction}
    (registered : startup.Registered mainConfig ignoredModules)
    (ran : startup.run environment ignoredModules standaloneModules actions = some final) :
    final.Registered mainConfig ignoredModules := by
  induction actions generalizing startup with
  | nil => exact Option.some.inj ran ▸ registered
  | cons action later ih =>
    obtain ⟨next, stepped, ran⟩ := Option.bind_eq_some.1 ran
    exact ih (registered.step stepped) ran

end Registered

/--
Whenever a ready handler publishes `<mqtt_everest_prefix>ready`, every module
of the main config that the loop has already registered and does not ignore
is ready; once the loop is done, that is every module not ignored.  A module
the loop has not reached yet is not covered.
-/
theorem published_after_registered {environment : StartEnvironment}
    {ignoredModules standaloneModules : List ModuleId} (mainConfig : MainConfig)
    (actions : List StartupAction) (startup next : Startup) (handler : ModuleReadyHandler)
    (ran : (Startup.start mainConfig).run environment ignoredModules standaloneModules actions =
      some startup)
    (delivered : startup.step environment ignoredModules standaloneModules (.deliver handler) =
      some next)
    (published : ManagerOutput.publish (handler.mqttEverestPrefix ++ "ready") true ∈
      next.outputs.drop startup.outputs.length) :
    ∀ entry ∈ mainConfig.entries, entry ∉ startup.pending → entry.1 ∉ ignoredModules →
      ∃ info, (entry.1, info) ∈ next.registration.modulesReady ∧ info.ready = true := by
  obtain ⟨processed, entries, passed⟩ := Startup.registered_start.run ran
  intro entry member notPending notIgnored
  have processedEntry : entry ∈ processed := by
    rw [entries, List.mem_append] at member
    exact member.resolve_right notPending
  simp only [Startup.step] at delivered
  split_ifs at delivered
  obtain ⟨handled, handling, rfl⟩ := Option.map_eq_some'.1 delivered
  obtain ⟨updated, set, rfl⟩ := Option.map_eq_some'.1 handling
  have allReady := (publish_mem_readyOutputs handler updated).1 (by simpa using published)
  obtain ⟨stored, storedMember, storedKey⟩ := List.mem_map.1
    ((ModulesReady.keys_setReady set).symm ▸ passed entry processedEntry notIgnored)
  refine ⟨stored.2, storedKey ▸ storedMember, ?_⟩
  exact List.all_eq_true.1 allReady stored storedMember

/-- An installation where every module has a binary. -/
def binaryEnvironment : StartEnvironment :=
  ⟨fun moduleId => "everest/modules/" ++ moduleId, id, "/usr/libexec/everest/modules", "everest/",
    fun _ => true, id⟩

/-- A standalone module `a` and a module `b` started by the manager. -/
def standaloneFirstConfig : MainConfig :=
  ⟨[("a", ⟨"A", [], true⟩), ("b", ⟨"B", [], false⟩)], by decide⟩

/-- The startup once `a` and `b` are registered, the modules spawned and `b` ready. -/
def bReadyStartup : Startup :=
  ((Startup.start standaloneFirstConfig).run binaryEnvironment [] ["a"]
    [.iterate, .iterate, .spawn, .deliver ⟨"b", ["a"], "everest/"⟩]).getD
    (Startup.start standaloneFirstConfig)

/-- `published_after_registered` when `a` reports ready after the loop is done: `b` is ready. -/
theorem published_after_registered_both :
    ∃ info, ("b", info) ∈
        ((bReadyStartup.step binaryEnvironment [] ["a"] (.deliver ⟨"a", ["a"], "everest/"⟩)).getD
          bReadyStartup).registration.modulesReady ∧ info.ready = true :=
  @published_after_registered binaryEnvironment [] ["a"] standaloneFirstConfig
    [.iterate, .iterate, .spawn, .deliver ⟨"b", ["a"], "everest/"⟩] bReadyStartup _
    ⟨"a", ["a"], "everest/"⟩ rfl rfl (by decide) ("b", ⟨"B", [], false⟩) (by decide) (by decide)
    (by decide)

/-! ## Runs on small configurations -/

/--
The standalone module `a` is registered first; its ready message, handled
before the loop reaches `b`, finds the table `{a}` all ready: the handler
publishes `everest/ready` and reports `ALL_MODULES_STARTED` while `b` is not
even in `modules_ready`.
-/
theorem standalone_ready_opens_barrier :
    ∃ startup,
      (Startup.start standaloneFirstConfig).run binaryEnvironment []
          (bootStandaloneModules [] standaloneFirstConfig)
          [.iterate, .deliver ⟨"a", bootStandaloneModules [] standaloneFirstConfig, "everest/"⟩] =
        some startup ∧
      ManagerOutput.publish "everest/ready" true ∈ startup.outputs ∧
      ManagerOutput.statusUpdate .allModulesStarted ∈ startup.outputs ∧
      "b" ∉ startup.registration.modulesReady.keys :=
  ⟨_, rfl, by decide, by decide, by decide⟩

/-- A module `a` started by the manager and a module `s` marked standalone. -/
def waitingConfig : MainConfig :=
  ⟨[("a", ⟨"A", [], false⟩), ("s", ⟨"S", [], true⟩)], by decide⟩

/--
With `a` registered and not ready, the ready message of the standalone module
`s` makes the count of ready entries (one) equal the table size minus the
number of standalone modules (two minus one): the handler reports
`WAITING_FOR_STANDALONE_MODULES` although `a`, started by the manager, is not
ready.
-/
theorem standalone_ready_reports_waiting :
    bootStandaloneModules [] waitingConfig = ["s"] ∧
    ∃ registration updated,
      registerModules binaryEnvironment [] (bootStandaloneModules [] waitingConfig) waitingConfig [] =
        .ok registration ∧
      (ModuleReadyHandler.mk "s" (bootStandaloneModules [] waitingConfig) "everest/").handle
          registration.modulesReady true =
        some (updated, [.statusUpdate .waitingForStandaloneModules]) ∧
      ∃ info, ("a", info) ∈ updated ∧ info.ready = false :=
  ⟨rfl, _, _, rfl, rfl, _, List.mem_cons_self _ _, rfl⟩

end EverestFramework.Manager.StartModules
