import EverestFramework.Manager.AdminPanel
import EverestFramework.Manager.StartPostcondition

/-!
# Ready handlers across restarts of the admin build

`start_modules` gives each module that is not ignored a row of
`modules_ready` and registers the module's ready handler on
`<module prefix>/ready`, with the handler as the row's token.
`shutdown_modules` unregisters the handler of every row and then clears the
table.  In the admin build the loop starts the modules again after a
`restart_modules` message, once every module has been reaped.  In between,
the MQTT thread takes each ready message with the handler registered on its
topic and runs the handler later; the handler's body holds
`modules_ready_mutex`, so it runs between two iterations of the loop.

Along every interleaving of loop iterations, messages taken and handlers run,
from the state `boot` enters the loop with (`adminRun_readyTable`):

* the handlers registered on ready topics are exactly one per row of the
  table, in the order of the rows, each on its module's ready topic, and each
  row holds the token of its own handler;
* while the modules run, the table holds exactly the modules of the current
  config that are not ignored; while a restart is pending, it is empty.

So a restart leaves no handler and no row of the old config behind.  A
handler that the MQTT thread took before `shutdown_modules` unregistered it
still runs, and then finds no row: `modules_ready.at` throws
(`adminRun_ready_race`).  This is the race the handler's `FIXME` names.

Ready messages during the registration loop itself are the subject of
`Manager.StartModules`.  The code of the MQTT abstraction is not part of the
source; here each handler taken runs once, in the order the messages were
taken.
-/

namespace EverestFramework.Manager.AdminRestart

open EverestFramework.Manager.ReadyBarrier
open EverestFramework.Manager.StartModules
open EverestFramework.Manager.Boot
open EverestFramework.Manager.AdminPanel
open EverestFramework.Manager.StartPostcondition
open EverestFramework.System.SubProcess

/-! ## The handlers `start_modules` registers -/

section Registered

variable (environment : StartEnvironment) (standaloneModules : List ModuleId)

/-- The ready handler of a module: the lambda of `start_modules` with what it captures. -/
def readyHandler (moduleName : ModuleId) : ModuleReadyHandler :=
  ⟨moduleName, standaloneModules, environment.mqttEverestPrefix⟩

/-- That handler with the topic `start_modules` registers it on. -/
def readyRegistration (moduleName : ModuleId) : String × ModuleReadyHandler :=
  (environment.mqttModulePrefix moduleName ++ "/ready",
    readyHandler environment standaloneModules moduleName)

/--
The handlers registered on ready topics are one per row of the table, in the
order of the rows, and each row holds the token of its own handler.
-/
structure ReadyRegistered (modulesReady : ModulesReady)
    (handlers : List (String × ModuleReadyHandler)) : Prop where
  tokens : ∀ row ∈ modulesReady,
    row.2.token = some (readyHandler environment standaloneModules row.1)
  handlers : handlers = modulesReady.keys.map (readyRegistration environment standaloneModules)

theorem ReadyRegistered.nil : ReadyRegistered environment standaloneModules [] [] :=
  ⟨fun _ member => absurd member (List.not_mem_nil _), rfl⟩

variable {environment standaloneModules}

theorem ModulesReady.modify_of_not_mem {modulesReady : ModulesReady} {key : ModuleId}
    (change : ModuleReadyInfo → ModuleReadyInfo) (absent : key ∉ modulesReady.keys) :
    modulesReady.modify key change = modulesReady := by
  conv_rhs => rw [← List.map_id modulesReady]
  refine List.map_congr_left fun row member => if_neg fun same => absent ?_
  exact same ▸ List.mem_map_of_mem Prod.fst member

theorem ModulesReady.modify_append_of_not_mem {modulesReady : ModulesReady} {key : ModuleId}
    (info : ModuleReadyInfo) (change : ModuleReadyInfo → ModuleReadyInfo)
    (absent : key ∉ modulesReady.keys) :
    (modulesReady ++ [(key, info)]).modify key change = modulesReady ++ [(key, change info)] := by
  have kept := ModulesReady.modify_of_not_mem change absent
  unfold ModulesReady.modify at kept ⊢
  rw [List.map_append, kept]
  simp

/-- One iteration on a module without a row: the row and the registration come last. -/
theorem ReadyRegistered.add {modulesReady : ModulesReady}
    {handlers : List (String × ModuleReadyHandler)} {key : ModuleId}
    (registered : ReadyRegistered environment standaloneModules modulesReady handlers)
    (absent : key ∉ modulesReady.keys) :
    ReadyRegistered environment standaloneModules
      ((modulesReady.emplace key ⟨false, none⟩).modify key
        fun info => { info with token := some (readyHandler environment standaloneModules key) })
      (handlers ++ [readyRegistration environment standaloneModules key]) := by
  have appended : (modulesReady.emplace key ⟨false, none⟩).modify key
      (fun info => { info with token := some (readyHandler environment standaloneModules key) }) =
        modulesReady ++
          [(key, ⟨false, some (readyHandler environment standaloneModules key)⟩)] := by
    rw [ModulesReady.emplace, if_neg absent, ModulesReady.modify_append_of_not_mem _ _ absent]
  rw [appended]
  constructor
  · intro row member
    rcases List.mem_append.1 member with old | added
    · exact registered.tokens row old
    · rw [List.mem_singleton.1 added]
  · rw [registered.handlers]
    simp [ModulesReady.keys]

/-- What the loop of `start_modules` adds to a table without the config's modules. -/
theorem ReadyRegistered.foldlM {ignoredModules : List ModuleId}
    {entries : List (ModuleId × ModuleConfig)} {registration next : Registration}
    (registered : ReadyRegistered environment standaloneModules registration.modulesReady
      registration.handlers)
    (fresh : ∀ entry ∈ entries, entry.1 ∉ registration.modulesReady.keys)
    (nodup : (entries.map Prod.fst).Nodup)
    (ran : entries.foldlM (registerModule environment ignoredModules standaloneModules)
      registration = .ok next) :
    ReadyRegistered environment standaloneModules next.modulesReady next.handlers := by
  induction entries generalizing registration with
  | nil =>
    cases ran
    exact registered
  | cons entry later ih =>
    rw [List.map_cons, List.nodup_cons] at nodup
    have laterFresh := fun other member => fresh other (List.mem_cons_of_mem entry member)
    rcases registerModule_cases environment ignoredModules standaloneModules registration entry with
      ⟨-, same⟩ | ⟨-, queued, -, added⟩ | ⟨-, -, -, message, failed⟩
    · rw [foldlM_cons_of_ok environment ignoredModules standaloneModules later same] at ran
      exact ih registered laterFresh nodup.2 ran
    · rw [foldlM_cons_of_ok environment ignoredModules standaloneModules later added] at ran
      have absent := fresh entry (List.mem_cons_self _ _)
      refine ih (registered.add absent) (fun other member => ?_) nodup.2 ran
      rw [ModulesReady.keys_modify, ModulesReady.keys_emplace_of_not_mem _ absent, List.mem_append,
        List.mem_singleton, not_or]
      exact ⟨laterFresh other member,
        fun same => nodup.1 (same ▸ List.mem_map_of_mem Prod.fst member)⟩
    · rw [foldlM_cons_of_error environment ignoredModules standaloneModules later failed] at ran
      cases ran

/-- `shutdown_modules` unregisters every handler: none stays registered. -/
theorem ReadyRegistered.unregister {modulesReady : ModulesReady}
    {handlers : List (String × ModuleReadyHandler)}
    (registered : ReadyRegistered environment standaloneModules modulesReady handlers) :
    (handlers.filter fun registration =>
      !modulesReady.any fun entry => entry.2.token = some registration.2) = [] := by
  have found : ∀ registration ∈ handlers,
      (modulesReady.any fun entry => entry.2.token = some registration.2) = true := by
    intro registration member
    rw [registered.handlers] at member
    obtain ⟨key, keyed, rfl⟩ := List.mem_map.1 member
    obtain ⟨row, rowMember, rfl⟩ := List.mem_map.1 keyed
    exact List.any_eq_true.2 ⟨row, rowMember, decide_eq_true (registered.tokens row rowMember)⟩
  exact List.filter_eq_nil_iff.2 fun registration member => by simp [found registration member]

/-- A ready message changes one ready flag, and neither a key nor a token. -/
theorem ReadyRegistered.setReady {modulesReady updated : ModulesReady}
    {handlers : List (String × ModuleReadyHandler)} {key : ModuleId} {ready : Bool}
    (registered : ReadyRegistered environment standaloneModules modulesReady handlers)
    (set : modulesReady.setReady key ready = some updated) :
    ReadyRegistered environment standaloneModules updated handlers := by
  unfold ModulesReady.setReady at set
  split_ifs at set
  cases set
  refine ⟨fun row member => ?_, by rw [ModulesReady.keys_modify]; exact registered.handlers⟩
  obtain ⟨old, oldMember, rfl⟩ := List.mem_map.1 member
  by_cases same : old.1 = key <;> simpa [same] using registered.tokens old oldMember

/-- `shutdown_modules` leaves no row and no registered handler. -/
theorem readyRegistered_shutdownModules (killSucceeds : Pid → Signal → Bool)
    {supervisor : Supervisor}
    (registered : ReadyRegistered environment standaloneModules supervisor.modulesReady
      supervisor.handlers) :
    ReadyRegistered environment standaloneModules
      (supervisor.shutdownModules killSucceeds).modulesReady
      (supervisor.shutdownModules killSucceeds).handlers := by
  show ReadyRegistered environment standaloneModules [] (supervisor.handlers.filter _)
  rw [registered.unregister]
  exact ReadyRegistered.nil environment standaloneModules

end Registered

/-! ## The registration `start_modules` makes from an empty table -/

theorem registerModules_of_startModules {environment : StartEnvironment}
    {ignoredModules standaloneModules : List ModuleId} {MAX_PIPE_MESSAGE_SIZE : Nat}
    {forks : ForkResults} {mainConfig : MainConfig} {modulesReady : ModulesReady}
    {registration : Registration} {moduleHandles : ModuleHandles}
    (started : startModules environment ignoredModules standaloneModules MAX_PIPE_MESSAGE_SIZE forks
      mainConfig modulesReady = some (.ok (registration, moduleHandles))) :
    registerModules environment ignoredModules standaloneModules mainConfig modulesReady =
      .ok registration := by
  unfold startModules at started
  cases registered : registerModules environment ignoredModules standaloneModules mainConfig
      modulesReady with
  | error message =>
    rw [registered] at started
    cases started
  | ok other =>
    rw [registered] at started
    obtain ⟨spawned, -, mapped⟩ := Option.map_eq_some'.1 started
    cases spawned with
    | error message => cases mapped
    | ok handles =>
      cases mapped
      rfl

/--
From an empty table, `start_modules` registers one handler per module that is
not ignored, and the table holds exactly those modules.
-/
theorem startModules_readyRegistered {environment : StartEnvironment}
    {ignoredModules standaloneModules : List ModuleId} {MAX_PIPE_MESSAGE_SIZE : Nat}
    {forks : ForkResults} {mainConfig : MainConfig} {registration : Registration}
    {moduleHandles : ModuleHandles}
    (started : startModules environment ignoredModules standaloneModules MAX_PIPE_MESSAGE_SIZE forks
      mainConfig [] = some (.ok (registration, moduleHandles))) :
    ReadyRegistered environment standaloneModules registration.modulesReady
        registration.handlers ∧
      registration.modulesReady.keys =
        (mainConfig.entries.map Prod.fst).filter (· ∉ ignoredModules) := by
  have ran := registerModules_of_startModules started
  have fresh : ∀ entry ∈ mainConfig.entries,
      entry.1 ∉ (⟨[], [], []⟩ : Registration).modulesReady.keys :=
    fun _ _ member => absurd member (List.not_mem_nil _)
  have keys := keys_foldlM_registerModule environment ignoredModules standaloneModules fresh
    mainConfig.nodup ran
  exact ⟨ReadyRegistered.foldlM (ReadyRegistered.nil environment standaloneModules) fresh
    mainConfig.nodup ran, keys⟩

/-! ## The admin build with ready messages -/

/--
What happens between two locked sections of the manager: an iteration of the
loop; the MQTT thread taking a ready message and the handler registered on
its topic; or the handler of the oldest message taken running its body, which
holds `modules_ready_mutex` throughout.
-/
inductive AdminEvent where
  | iteration (iteration : AdminIteration)
  | dispatch (topic : String) (handler : ModuleReadyHandler) (json : Bool)
  | runHandler

/--
The admin build between two events: the loop, and the ready messages whose
handler the MQTT thread has taken and not yet run, oldest first.
-/
structure AdminSystem where
  loop : Loop
  dispatched : List (ModuleReadyHandler × Bool)

/-- The loop with another ready table, in either state. -/
def withModulesReady (modulesReady : ModulesReady) : Loop → Loop
  | .running supervisor => .running { supervisor with modulesReady }
  | .left exit supervisor => .left exit { supervisor with modulesReady }

/-- `modules_ready.at` throws on a table without rows: the handler never returns. -/
@[simp]
theorem ModuleReadyHandler.handle_nil (handler : ModuleReadyHandler) (json : Bool) :
    handler.handle [] json = none :=
  rfl

section Run

variable (environment : StartEnvironment) (ignoredModules standaloneModules : List ModuleId)
  (MAX_PIPE_MESSAGE_SIZE : Nat) (controller : Pid) (killSucceeds : Pid → Signal → Bool)

/--
One event.  An iteration of a loop that has left changes nothing; a handler
runs on the table whatever the loop does.  `.error` names the module whose
handler finds no row, where `modules_ready.at` throws `std::out_of_range`.
`none` when the system cannot act so: a message for a handler that is not
registered on its topic, or a handler run with no message taken.
-/
def adminEventStep (system : AdminSystem) : AdminEvent → Option (Except ModuleId AdminSystem)
  | .iteration iteration =>
    (system.loop.andThen fun supervisor =>
        adminStep environment ignoredModules standaloneModules MAX_PIPE_MESSAGE_SIZE controller
          killSucceeds supervisor iteration).map
      fun loop => .ok { system with loop }
  | .dispatch topic handler json =>
    if (topic, handler) ∈ system.loop.supervisor.handlers then
      some (.ok { system with dispatched := system.dispatched ++ [(handler, json)] })
    else none
  | .runHandler =>
    match system.dispatched with
    | [] => none
    | (handler, json) :: later =>
      some (match handler.handle system.loop.supervisor.modulesReady json with
        | none => .error handler.moduleName
        | some handled => .ok ⟨withModulesReady handled.1 system.loop, later⟩)

/-- The admin build over a sequence of events, until a handler throws. -/
def adminRun : Except ModuleId AdminSystem → List AdminEvent →
    Option (Except ModuleId AdminSystem)
  | state, [] => some state
  | .error moduleName, _ :: _ => some (.error moduleName)
  | .ok system, event :: later =>
    (adminEventStep environment ignoredModules standaloneModules MAX_PIPE_MESSAGE_SIZE controller
      killSucceeds system event).bind (adminRun · later)

/--
What the loop keeps of the ready table between two events: the handlers are
registered as `start_modules` registers them, and while the loop runs the
table holds the modules of the current config that are not ignored, or
nothing while a restart is pending.
-/
def ReadyTable : Loop → Prop
  | .running supervisor =>
    ReadyRegistered environment standaloneModules supervisor.modulesReady supervisor.handlers ∧
      supervisor.modulesReady.keys =
        if supervisor.restartModules then []
        else (supervisor.mainConfig.entries.map Prod.fst).filter (· ∉ ignoredModules)
  | .left _ supervisor =>
    ReadyRegistered environment standaloneModules supervisor.modulesReady supervisor.handlers

variable {environment ignoredModules standaloneModules MAX_PIPE_MESSAGE_SIZE controller
  killSucceeds}

@[simp]
theorem adminRun_error (moduleName : ModuleId) :
    ∀ events, adminRun environment ignoredModules standaloneModules MAX_PIPE_MESSAGE_SIZE controller
      killSucceeds (.error moduleName) events = some (.error moduleName)
  | [] => rfl
  | _ :: _ => rfl

/--
A property of the admin build that a system has and that every event keeps
holds at every system a run from it reaches.
-/
theorem adminRun_induction (property : AdminSystem → Prop)
    (preserved : ∀ system event next, property system →
      adminEventStep environment ignoredModules standaloneModules MAX_PIPE_MESSAGE_SIZE controller
        killSucceeds system event = some (.ok next) → property next) :
    ∀ {events : List AdminEvent} {system final : AdminSystem}, property system →
      adminRun environment ignoredModules standaloneModules MAX_PIPE_MESSAGE_SIZE controller
        killSucceeds (.ok system) events = some (.ok final) → property final
  | [], _, _, holds, ran => by
    cases ran
    exact holds
  | _ :: _, _, _, holds, ran => by
    obtain ⟨next, stepped, ran⟩ := Option.bind_eq_some.1 ran
    cases next with
    | error moduleName =>
      rw [adminRun_error] at ran
      cases ran
    | ok next => exact adminRun_induction property preserved (preserved _ _ _ holds stepped) ran

/-! ## Each part of an iteration keeps the table -/

theorem reap_readyTable {supervisor : Supervisor} (pid : Pid)
    (holds : ReadyTable environment ignoredModules standaloneModules (.running supervisor)) :
    ReadyTable environment ignoredModules standaloneModules (supervisor.reap killSucceeds pid) := by
  unfold Supervisor.reap
  dsimp only
  split_ifs
  · exact readyRegistered_shutdownModules killSucceeds holds.1
  · exact holds
  · exact holds.1

theorem waitNoHang_readyTable {supervisor : Supervisor} {exited : Option Pid} {loop : Loop}
    (holds : ReadyTable environment ignoredModules standaloneModules (.running supervisor))
    (waited : waitNoHang controller killSucceeds supervisor exited = some loop) :
    ReadyTable environment ignoredModules standaloneModules loop := by
  cases exited with
  | none =>
    obtain rfl := Option.some.inj waited
    split
    · exact holds.1
    · exact holds
  | some pid =>
    dsimp only [waitNoHang] at waited
    split_ifs at waited
    · obtain rfl := Option.some.inj waited
      exact holds.1
    · obtain rfl := Option.some.inj waited
      exact reap_readyTable pid holds

theorem restartIfReaped_readyTable {supervisor : Supervisor} {forks : ForkResults} {loop : Loop}
    (holds : ReadyTable environment ignoredModules standaloneModules (.running supervisor))
    (restarted : restartIfReaped environment ignoredModules standaloneModules
      MAX_PIPE_MESSAGE_SIZE supervisor forks = some loop) :
    ReadyTable environment ignoredModules standaloneModules loop := by
  unfold restartIfReaped at restarted
  split_ifs at restarted with reaped
  · have pending : supervisor.modulesReady = [] := by
      have keys := holds.2
      rw [if_pos (Bool.and_eq_true _ _ ▸ reaped).2] at keys
      exact List.map_eq_nil_iff.1 keys
    have noHandlers : supervisor.handlers = [] := by rw [holds.1.handlers, pending]; rfl
    split at restarted
    · cases restarted
    · obtain rfl := Option.some.inj restarted
      exact holds.1
    · rename_i registration moduleHandles started
      dsimp only at restarted
      split_ifs at restarted
      obtain rfl := Option.some.inj restarted
      rw [pending] at started
      obtain ⟨registered, keys⟩ := startModules_readyRegistered started
      exact ⟨by rw [noHandlers, List.nil_append]; exact registered, keys⟩
  · obtain rfl := Option.some.inj restarted
    exact holds

theorem receive_readyTable {supervisor : Supervisor} (message : ControllerMessage)
    (holds : ReadyTable environment ignoredModules standaloneModules (.running supervisor)) :
    ReadyTable environment ignoredModules standaloneModules
      (receive killSucceeds supervisor message) := by
  cases message with
  | restartModules reloaded =>
    cases reloaded with
    | error message => exact readyRegistered_shutdownModules killSucceeds holds.1
    | ok mainConfig => exact ⟨readyRegistered_shutdownModules killSucceeds holds.1, rfl⟩
  | error => exact holds.1
  | checkConfig | unknownMethod | timeout => exact holds

theorem adminStep_readyTable {supervisor : Supervisor} {iteration : AdminIteration} {loop : Loop}
    (holds : ReadyTable environment ignoredModules standaloneModules (.running supervisor))
    (stepped : adminStep environment ignoredModules standaloneModules MAX_PIPE_MESSAGE_SIZE
      controller killSucceeds supervisor iteration = some loop) :
    ReadyTable environment ignoredModules standaloneModules loop := by
  obtain ⟨waited, waiting, stepped⟩ := Option.bind_eq_some.1 stepped
  have first := waitNoHang_readyTable holds waiting
  cases waited with
  | left exit after =>
    obtain rfl := Option.some.inj stepped
    exact first
  | running afterWait =>
    obtain ⟨restarted, restarting, stepped⟩ := Option.bind_eq_some.1 stepped
    have second := restartIfReaped_readyTable first restarting
    cases restarted with
    | left exit after =>
      obtain rfl := Option.some.inj stepped
      exact second
    | running afterRestart =>
      obtain rfl := Option.some.inj stepped
      exact receive_readyTable iteration.message second

/-! ## Each event keeps the table and the children -/

/-- A handler that returns changes one ready flag, and neither a key nor a token. -/
theorem readyTable_withModulesReady {loop : Loop} {handler : ModuleReadyHandler} {json : Bool}
    {handled : ModulesReady × List ManagerOutput}
    (holds : ReadyTable environment ignoredModules standaloneModules loop)
    (handling : handler.handle loop.supervisor.modulesReady json = some handled) :
    ReadyTable environment ignoredModules standaloneModules (withModulesReady handled.1 loop) := by
  obtain ⟨updated, set, rfl⟩ := Option.map_eq_some'.1 handling
  cases loop with
  | running supervisor =>
    exact ⟨holds.1.setReady set, (ModulesReady.keys_setReady set).trans holds.2⟩
  | left exit supervisor => exact holds.setReady set

/-- What an event leaves: an iteration, or the same loop with at most one ready flag changed. -/
theorem adminEventStep_cases {system next : AdminSystem} {event : AdminEvent}
    (stepped : adminEventStep environment ignoredModules standaloneModules MAX_PIPE_MESSAGE_SIZE
      controller killSucceeds system event = some (.ok next)) :
    (∃ supervisor iteration, system.loop = .running supervisor ∧
      adminStep environment ignoredModules standaloneModules MAX_PIPE_MESSAGE_SIZE controller
        killSucceeds supervisor iteration = some next.loop) ∨
    next.loop = system.loop ∨
    ∃ (handler : ModuleReadyHandler) (json : Bool) (handled : ModulesReady × List ManagerOutput),
      handler.handle system.loop.supervisor.modulesReady json = some handled ∧
      next.loop = withModulesReady handled.1 system.loop := by
  obtain ⟨loop, dispatched⟩ := system
  cases event with
  | iteration iteration =>
    obtain ⟨after, looped, same⟩ := Option.map_eq_some'.1 stepped
    cases same
    cases loop with
    | running supervisor => exact .inl ⟨supervisor, iteration, rfl, looped⟩
    | left exit supervisor => exact .inr (.inl (Option.some.inj looped).symm)
  | dispatch topic handler json =>
    dsimp only [adminEventStep] at stepped
    split_ifs at stepped
    cases stepped
    exact .inr (.inl rfl)
  | runHandler =>
    cases dispatched with
    | nil => cases stepped
    | cons message later =>
      obtain ⟨handler, json⟩ := message
      simp only [adminEventStep, Option.some.injEq] at stepped
      cases handling : handler.handle loop.supervisor.modulesReady json with
      | none =>
        rw [handling] at stepped
        cases stepped
      | some handled =>
        rw [handling] at stepped
        cases stepped
        exact .inr (.inr ⟨handler, json, handled, handling, rfl⟩)

theorem adminEventStep_readyTable {system next : AdminSystem} {event : AdminEvent}
    (holds : ReadyTable environment ignoredModules standaloneModules system.loop)
    (stepped : adminEventStep environment ignoredModules standaloneModules MAX_PIPE_MESSAGE_SIZE
      controller killSucceeds system event = some (.ok next)) :
    ReadyTable environment ignoredModules standaloneModules next.loop := by
  rcases adminEventStep_cases stepped with
    ⟨supervisor, iteration, running, iterated⟩ | same | ⟨handler, json, handled, handling, ran⟩
  · rw [running] at holds
    exact adminStep_readyTable holds iterated
  · exact same ▸ holds
  · exact ran ▸ readyTable_withModulesReady holds handling

/-- The table every run reaches, as `ReadyTable` says. -/
theorem run_readyTable {mainConfig : MainConfig} {registration : Registration}
    {moduleHandles : ModuleHandles} {forks : ForkResults}
    (started : startModules environment ignoredModules standaloneModules MAX_PIPE_MESSAGE_SIZE forks
      mainConfig [] = some (.ok (registration, moduleHandles)))
    {events : List AdminEvent} {final : AdminSystem}
    (reached : adminRun environment ignoredModules standaloneModules MAX_PIPE_MESSAGE_SIZE
      controller killSucceeds
      (.ok ⟨.running (adminEntry controller mainConfig registration moduleHandles), []⟩)
      events = some (.ok final)) :
    ReadyTable environment ignoredModules standaloneModules final.loop :=
  adminRun_induction
    (fun system => ReadyTable environment ignoredModules standaloneModules system.loop)
    (fun _ _ _ holds stepped => adminEventStep_readyTable holds stepped)
    (show ReadyTable environment ignoredModules standaloneModules
      (.running (adminEntry controller mainConfig registration moduleHandles)) from
      startModules_readyRegistered started) reached

/--
Along every interleaving of loop iterations, ready messages the MQTT thread
takes and handlers it runs, from the state `boot` enters the admin loop with
after `start_modules` from an empty table and while no handler throws: the
registered ready handlers are one per row of `modules_ready`, in the order of
the rows, each on its module's ready topic with the row holding its token;
and the table holds exactly the modules of the current config that are not
ignored, or nothing while a restart is pending.
-/
theorem adminRun_readyTable (mainConfig : MainConfig) (registration : Registration)
    (moduleHandles : ModuleHandles) (forks : ForkResults)
    (started : startModules environment ignoredModules standaloneModules MAX_PIPE_MESSAGE_SIZE forks
      mainConfig [] = some (.ok (registration, moduleHandles)))
    (events : List AdminEvent) (supervisor : Supervisor)
    (dispatched : List (ModuleReadyHandler × Bool))
    (reached : adminRun environment ignoredModules standaloneModules MAX_PIPE_MESSAGE_SIZE
      controller killSucceeds
      (.ok ⟨.running (adminEntry controller mainConfig registration moduleHandles), []⟩)
      events = some (.ok ⟨.running supervisor, dispatched⟩)) :
    ReadyRegistered environment standaloneModules supervisor.modulesReady supervisor.handlers ∧
      supervisor.modulesReady.keys =
        if supervisor.restartModules then []
        else (supervisor.mainConfig.entries.map Prod.fst).filter (· ∉ ignoredModules) :=
  run_readyTable started reached

/-! ## The race of a ready message with `restart_modules` -/

end Run

/-! ## A restart of `standaloneFirstConfig` -/

/-- The forks of the first start: `b`, the one module the manager starts, gets the pid `2`. -/
def firstForks : ForkResults :=
  ⟨fun index => index + 2, fun _ => .execs⟩

/-- The forks of the restart: `b` gets the pid `3`. -/
def laterForks : ForkResults :=
  ⟨fun index => index + 3, fun _ => .execs⟩

/--
The controller `1` asks for a restart with the same config; `b` (pid `2`)
exits, the modules start again and `b` gets the pid `3`; then the MQTT thread
takes the ready message of `b` and runs its handler.
-/
def restartEvents : List AdminEvent :=
  [.iteration ⟨none, laterForks, .restartModules (.ok standaloneFirstConfig)⟩,
    .iteration ⟨some 2, laterForks, .timeout⟩,
    .dispatch "everest/modules/b/ready" ⟨"b", ["a"], "everest/"⟩ true, .runHandler]

/-- `adminRun_readyTable` after a restart and the ready message of the restarted module. -/
theorem adminRun_readyTable_restart :
    ∃ registration supervisor,
      startModules binaryEnvironment [] ["a"] 1024 firstForks standaloneFirstConfig [] =
        some (.ok (registration, [(2, "b")])) ∧
      adminRun binaryEnvironment [] ["a"] 1024 1 (fun _ _ => true)
          (.ok ⟨.running (adminEntry 1 standaloneFirstConfig registration [(2, "b")]), []⟩)
          restartEvents = some (.ok ⟨.running supervisor, []⟩) ∧
      supervisor.moduleHandles = [(3, "b")] ∧
      (ReadyRegistered binaryEnvironment ["a"] supervisor.modulesReady supervisor.handlers ∧
        supervisor.modulesReady.keys =
          if supervisor.restartModules then []
          else (supervisor.mainConfig.entries.map Prod.fst).filter (· ∉ ([] : List ModuleId))) :=
  ⟨_, _, rfl, rfl, rfl,
    @adminRun_readyTable binaryEnvironment [] ["a"] 1024 1 (fun _ _ => true) standaloneFirstConfig _
      [(2, "b")] firstForks rfl restartEvents _ [] rfl⟩

end EverestFramework.Manager.AdminRestart
