import EverestFramework.Manager.Boot

/-!
# What `start_modules` returns

This module proves the postcondition of `start_modules` over every main
config, every list of ignored modules and every list of standalone modules.
It assumes that the ready table is empty on entry, that the forks return
distinct pids and that every child execs.  File existence is an arbitrary
oracle.  Under these assumptions `start_modules` throws exactly when a module
that is neither ignored nor standalone has no start file.  Otherwise it
returns, and then:

* the table holds exactly the modules that are not ignored;
* each of them has its ready handler registered on `<module prefix>/ready`;
* the pid map has one entry per spawned module;
* each spawned module is queued with the language of its first start file
  (`firstStartLanguage`).

The proof follows the code.  `registerModule_cases` says once everything one
iteration of the loop can do.  The loop lemmas carry each part of the
postcondition along `foldlM`.  `spawnModules_of_execs` gives the pid map of
children that exec.
-/

namespace EverestFramework.Manager.StartPostcondition

open EverestFramework.Manager.ReadyBarrier
open EverestFramework.Manager.StartModules
open EverestFramework.Manager.Boot
open EverestFramework.System.SubProcess

/-! ## The start file -/

/--
The language of the first start file of a module type, in the order
`start_modules` looks for them: `<modules_dir>/<type>/<type>`, then
`index.js`, then `module.py`.  `none` when there is none.
-/
def firstStartLanguage (environment : StartEnvironment) (moduleType : String) : Option Language :=
  let modulePath := joinPath environment.modulesDir moduleType
  if environment.pathExists (joinPath modulePath moduleType) then some .cpp
  else if environment.pathExists (joinPath modulePath "index.js") then some .javascript
  else if environment.pathExists (joinPath modulePath "module.py") then some .python
  else none

/-! ## One iteration -/

section Loop

variable (environment : StartEnvironment) (ignoredModules standaloneModules : List ModuleId)

/--
Everything one iteration of the loop can do with a main config entry.  It
leaves an ignored module out.  For any other module it adds the module's row
and registers its ready handler; unless the module is standalone, it also
queues the module with the language of its first start file, and throws when
there is none.
-/
theorem registerModule_cases (registration : Registration) (entry : ModuleId × ModuleConfig) :
    (entry.1 ∈ ignoredModules ∧
        registerModule environment ignoredModules standaloneModules registration entry =
          .ok registration) ∨
      (entry.1 ∉ ignoredModules ∧ ∃ queued : List ModuleStartInfo,
        queued.map (fun module => (module.name, some module.language)) =
          (if entry.1 ∈ standaloneModules then []
            else [(entry.1, firstStartLanguage environment entry.2.module)]) ∧
        registerModule environment ignoredModules standaloneModules registration entry =
          .ok ⟨(registration.modulesReady.emplace entry.1 ⟨false, none⟩).modify entry.1
              fun info => { info with token := some ⟨entry.1, standaloneModules,
                environment.mqttEverestPrefix⟩ },
            registration.handlers ++ [(environment.mqttModulePrefix entry.1 ++ "/ready",
              ⟨entry.1, standaloneModules, environment.mqttEverestPrefix⟩)],
            registration.modulesToSpawn ++ queued⟩) ∨
      (entry.1 ∉ ignoredModules ∧ entry.1 ∉ standaloneModules ∧
        firstStartLanguage environment entry.2.module = none ∧
        ∃ message, registerModule environment ignoredModules standaloneModules registration entry =
          .error message) := by
  unfold registerModule firstStartLanguage
  dsimp only
  cases ignored : ignoredModules.contains entry.1
  case true => exact .inl ⟨List.elem_iff.mp ignored, rfl⟩
  have notIgnored : entry.1 ∉ ignoredModules := by simpa using ignored
  cases standalone : standaloneModules.contains entry.1
  case true =>
    exact .inr (.inl ⟨notIgnored, [], by rw [if_pos (List.elem_iff.mp standalone)]; rfl,
      by rw [List.append_nil]; rfl⟩)
  have notStandalone : entry.1 ∉ standaloneModules := by simpa using standalone
  refine .inr ?_
  set modulePath := joinPath environment.modulesDir entry.2.module
  -- the binary, `index.js`, `module.py`, and none of them
  cases binary : environment.pathExists (joinPath modulePath entry.2.module)
  case true => exact .inl ⟨notIgnored, _, by rw [if_neg notStandalone]; rfl, rfl⟩
  cases javascript : environment.pathExists (joinPath modulePath "index.js")
  case true => exact .inl ⟨notIgnored, _, by rw [if_neg notStandalone]; rfl, rfl⟩
  cases python : environment.pathExists (joinPath modulePath "module.py")
  case true => exact .inl ⟨notIgnored, _, by rw [if_neg notStandalone]; rfl, rfl⟩
  exact .inr ⟨notIgnored, notStandalone, rfl, _, rfl⟩

/-- A spawnable module that an iteration queues has a first start file. -/
theorem firstStartLanguage_ne_none {queued : List ModuleStartInfo} {entry : ModuleId × ModuleConfig}
    (notStandalone : entry.1 ∉ standaloneModules)
    (queuedAs : queued.map (fun module => (module.name, some module.language)) =
      (if entry.1 ∈ standaloneModules then []
        else [(entry.1, firstStartLanguage environment entry.2.module)])) :
    firstStartLanguage environment entry.2.module ≠ none := by
  rw [if_neg notStandalone] at queuedAs
  cases queued with
  | nil => cases queuedAs
  | cons module later =>
    rw [← (Prod.mk.inj (List.cons.inj queuedAs).1).2]
    exact Option.some_ne_none _

/-! ## The loop -/

theorem foldlM_cons_of_ok {registration next : Registration} {entry : ModuleId × ModuleConfig}
    (later : List (ModuleId × ModuleConfig))
    (registered : registerModule environment ignoredModules standaloneModules registration entry =
      .ok next) :
    (entry :: later).foldlM (registerModule environment ignoredModules standaloneModules)
        registration =
      later.foldlM (registerModule environment ignoredModules standaloneModules) next := by
  rw [List.foldlM_cons, registered]
  rfl

theorem foldlM_cons_of_error {registration : Registration} {entry : ModuleId × ModuleConfig}
    {message : String} (later : List (ModuleId × ModuleConfig))
    (failed : registerModule environment ignoredModules standaloneModules registration entry =
      .error message) :
    (entry :: later).foldlM (registerModule environment ignoredModules standaloneModules)
        registration = .error message := by
  rw [List.foldlM_cons, failed]
  rfl

/--
The loop throws exactly when it reaches a module that is neither ignored nor
standalone and has no start file.
-/
theorem foldlM_registerModule_error_iff (entries : List (ModuleId × ModuleConfig))
    (registration : Registration) :
    (∃ message, entries.foldlM (registerModule environment ignoredModules standaloneModules)
        registration = .error message) ↔
      ∃ entry ∈ entries, entry.1 ∉ ignoredModules ∧ entry.1 ∉ standaloneModules ∧
        firstStartLanguage environment entry.2.module = none := by
  induction entries generalizing registration with
  | nil => exact iff_of_false (fun ⟨_, ran⟩ => by cases ran) (by simp)
  | cons entry later ih =>
    rw [List.exists_mem_cons_iff]
    rcases registerModule_cases environment ignoredModules standaloneModules registration entry with
      ⟨ignored, registered⟩ | ⟨-, queued, queuedAs, registered⟩ |
        ⟨notIgnored, notStandalone, noFile, message, registered⟩
    · rw [foldlM_cons_of_ok environment ignoredModules standaloneModules later registered, ih]
      exact (or_iff_right fun ⟨notIgnored, _⟩ => notIgnored ignored).symm
    · rw [foldlM_cons_of_ok environment ignoredModules standaloneModules later registered, ih]
      exact (or_iff_right fun ⟨_, notStandalone, noFile⟩ =>
        firstStartLanguage_ne_none environment standaloneModules notStandalone queuedAs noFile).symm
    · rw [foldlM_cons_of_error environment ignoredModules standaloneModules later registered]
      exact iff_of_true ⟨message, rfl⟩ (.inl ⟨notIgnored, notStandalone, noFile⟩)

/--
From a table without the config's modules, the loop adds exactly the modules
that are not ignored, in the config's order.
-/
theorem keys_foldlM_registerModule {entries : List (ModuleId × ModuleConfig)}
    {registration next : Registration}
    (fresh : ∀ entry ∈ entries, entry.1 ∉ registration.modulesReady.keys)
    (nodup : (entries.map Prod.fst).Nodup)
    (ran : entries.foldlM (registerModule environment ignoredModules standaloneModules)
      registration = .ok next) :
    next.modulesReady.keys =
      registration.modulesReady.keys ++ (entries.map Prod.fst).filter (· ∉ ignoredModules) := by
  induction entries generalizing registration with
  | nil => cases ran; simp
  | cons entry later ih =>
    rw [List.map_cons, List.nodup_cons] at nodup
    have laterFresh := fun other member => fresh other (List.mem_cons_of_mem entry member)
    rcases registerModule_cases environment ignoredModules standaloneModules registration entry with
      ⟨ignored, registered⟩ | ⟨notIgnored, queued, -, registered⟩ | ⟨-, -, -, message, registered⟩
    · rw [foldlM_cons_of_ok environment ignoredModules standaloneModules later registered] at ran
      simp [ih laterFresh nodup.2 ran, ignored]
    · rw [foldlM_cons_of_ok environment ignoredModules standaloneModules later registered] at ran
      have added : ((registration.modulesReady.emplace entry.1 ⟨false, none⟩).modify entry.1
          fun info => { info with token := some ⟨entry.1, standaloneModules,
            environment.mqttEverestPrefix⟩ }).keys =
          registration.modulesReady.keys ++ [entry.1] := by
        rw [ModulesReady.keys_modify,
          ModulesReady.keys_emplace_of_not_mem _ (fresh entry (List.mem_cons_self _ _))]
      have stillFresh : ∀ other ∈ later, other.1 ∉ registration.modulesReady.keys ++ [entry.1] := by
        intro other member
        rw [List.mem_append, List.mem_singleton, not_or]
        exact ⟨laterFresh other member,
          fun same => nodup.1 (same ▸ List.mem_map_of_mem Prod.fst member)⟩
      rw [ih (added ▸ stillFresh) nodup.2 ran, added]
      simp [notIgnored]
    · rw [foldlM_cons_of_error environment ignoredModules standaloneModules later registered] at ran
      cases ran

/--
The loop queues the modules that are neither ignored nor standalone, in the
config's order, each with the language of its first start file.
-/
theorem modulesToSpawn_foldlM_registerModule {entries : List (ModuleId × ModuleConfig)}
    {registration next : Registration}
    (ran : entries.foldlM (registerModule environment ignoredModules standaloneModules)
      registration = .ok next) :
    next.modulesToSpawn.map (fun module => (module.name, some module.language)) =
      registration.modulesToSpawn.map (fun module => (module.name, some module.language)) ++
        (entries.filter fun entry => entry.1 ∉ ignoredModules ∧ entry.1 ∉ standaloneModules).map
          fun entry => (entry.1, firstStartLanguage environment entry.2.module) := by
  induction entries generalizing registration with
  | nil => cases ran; simp
  | cons entry later ih =>
    rcases registerModule_cases environment ignoredModules standaloneModules registration entry with
      ⟨ignored, registered⟩ | ⟨notIgnored, queued, queuedAs, registered⟩ |
        ⟨-, -, -, message, registered⟩
    · rw [foldlM_cons_of_ok environment ignoredModules standaloneModules later registered] at ran
      simp [ih ran, ignored]
    · rw [foldlM_cons_of_ok environment ignoredModules standaloneModules later registered] at ran
      rw [ih ran, List.map_append, queuedAs]
      by_cases standalone : entry.1 ∈ standaloneModules <;> simp [notIgnored, standalone]
    · rw [foldlM_cons_of_error environment ignoredModules standaloneModules later registered] at ran
      cases ran

/-- Every row of the table holds the token of a handler registered on `<module prefix>/ready`. -/
def HandlersRegistered (registration : Registration) : Prop :=
  ∀ entry ∈ registration.modulesReady, ∃ handler, entry.2.token = some handler ∧
    (environment.mqttModulePrefix entry.1 ++ "/ready", handler) ∈ registration.handlers

theorem HandlersRegistered.step {registration next : Registration} {entry : ModuleId × ModuleConfig}
    (registered : HandlersRegistered environment registration)
    (iterated : registerModule environment ignoredModules standaloneModules registration entry =
      .ok next) :
    HandlersRegistered environment next := by
  rcases registerModule_cases environment ignoredModules standaloneModules registration entry with
    ⟨-, same⟩ | ⟨-, queued, -, added⟩ | ⟨-, -, -, message, failed⟩
  · rw [same] at iterated
    cases iterated
    exact registered
  · rw [added] at iterated
    cases iterated
    intro row member
    obtain ⟨old, oldMember, rfl⟩ := List.mem_map.mp member
    by_cases same : old.1 = entry.1
    · exact ⟨⟨entry.1, standaloneModules, environment.mqttEverestPrefix⟩, by simp [same],
        by simp [same]⟩
    · have kept : old ∈ registration.modulesReady := by
        unfold ModulesReady.emplace at oldMember
        split_ifs at oldMember
        · exact oldMember
        · simpa [Prod.ext_iff, same] using oldMember
      obtain ⟨handler, token, topic⟩ := registered old kept
      rw [if_neg same]
      exact ⟨handler, token, List.mem_append_left _ topic⟩
  · rw [failed] at iterated
    cases iterated

theorem HandlersRegistered.foldlM {entries : List (ModuleId × ModuleConfig)}
    {registration next : Registration} (registered : HandlersRegistered environment registration)
    (ran : entries.foldlM (registerModule environment ignoredModules standaloneModules)
      registration = .ok next) :
    HandlersRegistered environment next := by
  induction entries generalizing registration with
  | nil =>
    cases ran
    exact registered
  | cons entry later ih =>
    cases iterated :
        registerModule environment ignoredModules standaloneModules registration entry with
    | error message =>
      rw [foldlM_cons_of_error environment ignoredModules standaloneModules later iterated] at ran
      cases ran
    | ok mid =>
      rw [foldlM_cons_of_ok environment ignoredModules standaloneModules later iterated] at ran
      exact ih (registered.step environment ignoredModules standaloneModules iterated) ran

end Loop

/-! ## Children that exec -/

/-- A child whose exec succeeds closes the pipe unwritten, and the parent returns its pid. -/
theorem checkChildExecuted_execs (MAX_PIPE_MESSAGE_SIZE : Nat) (pid : Pid) :
    checkChildExecuted MAX_PIPE_MESSAGE_SIZE pid
      (ChildEnd.execs.run MAX_PIPE_MESSAGE_SIZE afterCreate) = some (.ok pid) :=
  rfl

theorem length_forkedPids (forks : ForkResults) :
    ∀ index count, (forkedPids forks index count).length = count
  | _, 0 => rfl
  | index, count + 1 => congrArg Nat.succ (length_forkedPids forks (index + 1) count)

theorem mem_forkedPids {forks : ForkResults} :
    ∀ {index count : Nat} {pid : Pid}, pid ∈ forkedPids forks index count →
      ∃ fork, index ≤ fork ∧ forks.pid fork = pid
  | _, 0, _, member => absurd member (List.not_mem_nil _)
  | index, count + 1, _, member => by
    rcases List.mem_cons.mp member with rfl | later
    · exact ⟨index, le_rfl, rfl⟩
    · obtain ⟨fork, after, same⟩ := mem_forkedPids later
      exact ⟨fork, by omega, same⟩

/-- Forks that return distinct pids give distinct pids to consecutive forks. -/
theorem nodup_forkedPids {forks : ForkResults} (distinctPids : Function.Injective forks.pid) :
    ∀ index count, (forkedPids forks index count).Nodup
  | _, 0 => List.nodup_nil
  | index, count + 1 => by
    refine List.nodup_cons.mpr ⟨fun member => ?_, nodup_forkedPids distinctPids (index + 1) count⟩
    obtain ⟨fork, after, same⟩ := mem_forkedPids member
    have := distinctPids same
    omega

/--
When every child execs, `spawn_modules` records each module under the pid of
its fork, in the order of the queue.
-/
theorem spawnModules_of_execs {forks : ForkResults}
    (execs : ∀ module, forks.childEnd module = .execs) (MAX_PIPE_MESSAGE_SIZE : Nat) :
    ∀ {index : Nat} {startedModules : ModuleHandles} {modules : List ModuleStartInfo},
      (startedModules.map Prod.fst ++ forkedPids forks index modules.length).Nodup →
      spawnModules MAX_PIPE_MESSAGE_SIZE forks index startedModules modules =
        some (.ok (startedModules ++
          (forkedPids forks index modules.length).zip (modules.map ModuleStartInfo.name)))
  | _, startedModules, [], _ => by simp [spawnModules, forkedPids]
  | index, startedModules, module :: later, fresh => by
    simp only [List.length_cons, forkedPids] at fresh ⊢
    have notStarted : forks.pid index ∉ startedModules.map Prod.fst :=
      fun old => (List.nodup_append.1 fresh).2.2 old (List.mem_cons_self _ _)
    have laterFresh : ((startedModules ++ [(forks.pid index, module.name)]).map Prod.fst ++
        forkedPids forks (index + 1) later.length).Nodup := by
      simpa using fresh
    rw [spawnModules, execs, checkChildExecuted_execs]
    dsimp only
    rw [insertHandle_of_not_mem _ notStarted,
      spawnModules_of_execs execs MAX_PIPE_MESSAGE_SIZE laterFresh]
    simp

/-! ## `start_modules` -/

/--
`start_modules` from an empty ready table, with forks that return distinct
pids and children that all exec.  It throws exactly when a module that is
neither ignored nor standalone has no start file.  Otherwise the table holds
exactly the modules that are not ignored, each with its handler registered on
`<module prefix>/ready`.  The pid map has one entry per module that is
neither ignored nor standalone, under distinct pids, and each such module is
queued for `spawn_modules` with the language of its first start file.
-/
theorem startModules_postcondition (environment : StartEnvironment)
    (ignoredModules standaloneModules : List ModuleId) (MAX_PIPE_MESSAGE_SIZE : Nat)
    (forks : ForkResults) (mainConfig : MainConfig) (distinctPids : Function.Injective forks.pid)
    (execs : ∀ module, forks.childEnd module = .execs) :
    ∃ result, startModules environment ignoredModules standaloneModules MAX_PIPE_MESSAGE_SIZE forks
        mainConfig [] = some result ∧
      ((∃ message, result = .error message) ↔
        ∃ entry ∈ mainConfig.entries, entry.1 ∉ ignoredModules ∧ entry.1 ∉ standaloneModules ∧
          firstStartLanguage environment entry.2.module = none) ∧
      ∀ registration moduleHandles, result = .ok (registration, moduleHandles) →
        registration.modulesReady.keys =
          (mainConfig.entries.map Prod.fst).filter (· ∉ ignoredModules) ∧
        (∀ entry ∈ registration.modulesReady, ∃ handler, entry.2.token = some handler ∧
          (environment.mqttModulePrefix entry.1 ++ "/ready", handler) ∈ registration.handlers) ∧
        (moduleHandles.map Prod.fst).Nodup ∧
        moduleHandles.map Prod.snd =
          (mainConfig.entries.filter fun entry =>
            entry.1 ∉ ignoredModules ∧ entry.1 ∉ standaloneModules).map Prod.fst ∧
        registration.modulesToSpawn.map (fun module => (module.name, some module.language)) =
          (mainConfig.entries.filter fun entry =>
            entry.1 ∉ ignoredModules ∧ entry.1 ∉ standaloneModules).map
            fun entry => (entry.1, firstStartLanguage environment entry.2.module) := by
  have loopErrors := foldlM_registerModule_error_iff environment ignoredModules standaloneModules
    mainConfig.entries ⟨[], [], []⟩
  cases registered : registerModules environment ignoredModules standaloneModules mainConfig [] with
  | error message =>
    exact ⟨.error (utf8Bytes message), by simp only [startModules, registered],
      iff_of_true ⟨_, rfl⟩ (loopErrors.mp ⟨message, registered⟩), fun _ _ failed => by cases failed⟩
  | ok registration =>
    have queue := modulesToSpawn_foldlM_registerModule environment ignoredModules standaloneModules
      registered
    have names : registration.modulesToSpawn.map ModuleStartInfo.name =
        (mainConfig.entries.filter fun entry =>
          entry.1 ∉ ignoredModules ∧ entry.1 ∉ standaloneModules).map Prod.fst := by
      simpa [List.map_map, Function.comp_def] using congrArg (List.map Prod.fst) queue
    have pids := nodup_forkedPids distinctPids 0 registration.modulesToSpawn.length
    have lengths : (forkedPids forks 0 registration.modulesToSpawn.length).length =
        (registration.modulesToSpawn.map ModuleStartInfo.name).length := by
      rw [length_forkedPids, List.length_map]
    have spawned := @spawnModules_of_execs forks execs MAX_PIPE_MESSAGE_SIZE 0 []
      registration.modulesToSpawn (by simpa using pids)
    refine ⟨_, by simp only [startModules, registered, spawned, Option.map_some', Except.map]; rfl,
      ?_, ?_⟩
    · refine iff_of_false (fun ⟨_, failed⟩ => by cases failed) fun bad => ?_
      obtain ⟨message, failed⟩ := loopErrors.mpr bad
      exact absurd (registered.symm.trans failed) (by simp)
    · rintro _ _ ⟨⟩
      refine ⟨?_, HandlersRegistered.foldlM environment ignoredModules standaloneModules
        (fun _ member => absurd member (List.not_mem_nil _)) registered, ?_, ?_,
        by simpa using queue⟩
      · simpa using keys_foldlM_registerModule environment ignoredModules standaloneModules
          (by simp [ModulesReady.keys]) mainConfig.nodup registered
      · simpa [List.map_fst_zip _ _ lengths.le] using pids
      · simpa [List.map_snd_zip _ _ lengths.ge] using names

/-- `startModules_postcondition` for `a` standalone and `b` started from its binary. -/
theorem startModules_postcondition_standaloneFirst :
    ∃ result, startModules binaryEnvironment [] ["a"] 1024 ⟨id, fun _ => .execs⟩
        standaloneFirstConfig [] = some result ∧
      ((∃ message, result = .error message) ↔
        ∃ entry ∈ standaloneFirstConfig.entries, entry.1 ∉ ([] : List ModuleId) ∧ entry.1 ∉ ["a"] ∧
          firstStartLanguage binaryEnvironment entry.2.module = none) ∧
      ∀ registration moduleHandles, result = .ok (registration, moduleHandles) →
        registration.modulesReady.keys =
          (standaloneFirstConfig.entries.map Prod.fst).filter (· ∉ ([] : List ModuleId)) ∧
        (∀ entry ∈ registration.modulesReady, ∃ handler, entry.2.token = some handler ∧
          (binaryEnvironment.mqttModulePrefix entry.1 ++ "/ready", handler) ∈
            registration.handlers) ∧
        (moduleHandles.map Prod.fst).Nodup ∧
        moduleHandles.map Prod.snd =
          (standaloneFirstConfig.entries.filter fun entry =>
            entry.1 ∉ ([] : List ModuleId) ∧ entry.1 ∉ ["a"]).map Prod.fst ∧
        registration.modulesToSpawn.map (fun module => (module.name, some module.language)) =
          (standaloneFirstConfig.entries.filter fun entry =>
            entry.1 ∉ ([] : List ModuleId) ∧ entry.1 ∉ ["a"]).map
            fun entry => (entry.1, firstStartLanguage binaryEnvironment entry.2.module) :=
  startModules_postcondition binaryEnvironment [] ["a"] 1024 ⟨id, fun _ => .execs⟩
    standaloneFirstConfig Function.injective_id fun _ => rfl

end EverestFramework.Manager.StartPostcondition
