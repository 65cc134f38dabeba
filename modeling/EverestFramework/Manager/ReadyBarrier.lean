import Mathlib.Data.List.Basic
import Mathlib.Algebra.Group.Int

/-!
# The ready table and the ready handler

`start_modules` keeps, in the global map `modules_ready`, one entry per
registered module: whether it has reported ready, and the token of the
handler registered on its `<module prefix>/ready` topic.  Each handler is a
closure over its module's name, the list of standalone modules and the
framework's MQTT prefix.  On a ready message it sets its module's flag,
counts the ready entries, and either publishes the global ready signal
(when every entry is ready) or reports that only standalone modules are
missing (when the count equals the table size minus the number of
standalone modules, a `size_t` difference).

The main result here is when the global signal is published along any
sequence of ready messages (`publishes_iff_all_delivered`): on every message
after which every entry is ready, not only the first one.
-/

namespace EverestFramework.Manager.ReadyBarrier

/-- A module id, a key of the main config. -/
abbrev ModuleId := String

/-- What the ready handler of one module captures. -/
structure ModuleReadyHandler where
  moduleName : ModuleId
  standaloneModules : List ModuleId
  mqttEverestPrefix : String
deriving DecidableEq, Repr

/-- `ModuleReadyInfo`: the ready flag and the handler token of a module. -/
structure ModuleReadyInfo where
  ready : Bool
  token : Option ModuleReadyHandler
deriving DecidableEq, Repr

/-- `modules_ready`, the map from module id to its ready info. -/
abbrev ModulesReady := List (ModuleId × ModuleReadyInfo)

/-- The status values `start_modules` writes to the status FIFO. -/
inductive StatusFifoStatus where
  | allModulesStarted
  | waitingForStandaloneModules
deriving DecidableEq, Repr

/-- An effect of a ready handler outside the ready table. -/
inductive ManagerOutput where
  | statusUpdate (status : StatusFifoStatus)
  | publish (topic : String) (payload : Bool)
deriving DecidableEq, Repr

/-- `a - b` on `size_t`, which wraps below zero. -/
def sizeSub (a b : Nat) : Nat :=
  (((a : Int) - b) % 2 ^ 64).toNat

theorem sizeSub_of_le {a b : Nat} (le : b ≤ a) (small : a < 2 ^ 64) : sizeSub a b = a - b := by
  unfold sizeSub
  rw [Int.emod_eq_of_lt (by omega) (by omega)]
  omega

namespace ModulesReady

/-- The keys of the table. -/
def keys (modulesReady : ModulesReady) : List ModuleId :=
  modulesReady.map Prod.fst

/-- `modules_ready.emplace(key, info)`: insert unless the key is present. -/
def emplace (modulesReady : ModulesReady) (key : ModuleId) (info : ModuleReadyInfo) :
    ModulesReady :=
  if key ∈ modulesReady.keys then modulesReady else modulesReady ++ [(key, info)]

/-- Change the info of one key in place. -/
def modify (modulesReady : ModulesReady) (key : ModuleId)
    (change : ModuleReadyInfo → ModuleReadyInfo) : ModulesReady :=
  modulesReady.map fun entry => if entry.1 = key then (entry.1, change entry.2) else entry

/-- `modules_ready.at(key).ready = ready`; `at` throws on a missing key. -/
def setReady (modulesReady : ModulesReady) (key : ModuleId) (ready : Bool) :
    Option ModulesReady :=
  if key ∈ modulesReady.keys then some (modulesReady.modify key fun info => { info with ready })
  else none

/-- `std::all_of(..., ready)`. -/
def allReady (modulesReady : ModulesReady) : Bool :=
  modulesReady.all fun entry => entry.2.ready

/-- The loop counting `modules_spawned`: the ready entries. -/
def countReady (modulesReady : ModulesReady) : Nat :=
  (modulesReady.filter fun entry => entry.2.ready).length

@[simp]
theorem keys_modify (modulesReady : ModulesReady) (key : ModuleId)
    (change : ModuleReadyInfo → ModuleReadyInfo) :
    (modulesReady.modify key change).keys = modulesReady.keys := by
  simp only [keys, modify, List.map_map]
  congr 1
  funext entry
  by_cases same : entry.1 = key <;> simp [same]

theorem mem_keys_emplace (modulesReady : ModulesReady) (key : ModuleId) (info : ModuleReadyInfo)
    (other : ModuleId) :
    other ∈ (modulesReady.emplace key info).keys ↔ other ∈ modulesReady.keys ∨ other = key := by
  unfold emplace
  split_ifs with present
  · exact ⟨.inl, fun member => member.elim id fun same => same ▸ present⟩
  · simp [keys]

theorem keys_emplace_of_not_mem {modulesReady : ModulesReady} {key : ModuleId} (info : ModuleReadyInfo)
    (absent : key ∉ modulesReady.keys) :
    (modulesReady.emplace key info).keys = modulesReady.keys ++ [key] := by
  rw [emplace, if_neg absent, keys, List.map_append]
  rfl

theorem keys_setReady {modulesReady updated : ModulesReady} {key : ModuleId} {ready : Bool}
    (set : modulesReady.setReady key ready = some updated) : updated.keys = modulesReady.keys := by
  unfold setReady at set
  split_ifs at set
  cases set
  exact keys_modify _ _ _

/-- Marking one key ready: the table's entries, each ready if it was or if it is that key. -/
theorem modify_ready_true (modulesReady : ModulesReady) (key : ModuleId) :
    (modulesReady.modify key fun info => { info with ready := true }) =
      modulesReady.map fun entry => (entry.1, { entry.2 with ready := entry.1 = key || entry.2.ready }) := by
  simp only [modify]
  congr 1
  funext entry
  by_cases same : entry.1 = key <;> simp [same]

theorem forall_mem_modify_ready (modulesReady : ModulesReady) (key : ModuleId)
    (property : ModuleId → Bool → Prop) :
    (∀ entry ∈ modulesReady.modify key (fun info => { info with ready := true }),
        property entry.1 entry.2.ready) ↔
      ∀ entry ∈ modulesReady, property entry.1 (decide (entry.1 = key) || entry.2.ready) := by
  rw [modify_ready_true, List.forall_mem_map]

/-- After marking one key ready, the table is ready iff every other entry already was. -/
theorem allReady_modify_ready (modulesReady : ModulesReady) (key : ModuleId) :
    (modulesReady.modify key fun info => { info with ready := true }).allReady = true ↔
      ∀ entry ∈ modulesReady, entry.2.ready = true ∨ entry.1 = key := by
  rw [allReady, List.all_eq_true, forall_mem_modify_ready modulesReady key fun _ ready => ready = true]
  simp [or_comm]

end ModulesReady

/-- What the handler does after setting its flag, given the updated table. -/
def readyOutputs (handler : ModuleReadyHandler) (modulesReady : ModulesReady) :
    List ManagerOutput :=
  if modulesReady.allReady then
    [.statusUpdate .allModulesStarted, .publish (handler.mqttEverestPrefix ++ "ready") true]
  else if !handler.standaloneModules.isEmpty then
    if modulesReady.countReady = sizeSub modulesReady.length handler.standaloneModules.length then
      [.statusUpdate .waitingForStandaloneModules]
    else []
  else []

/-- `module_ready_handler` on a ready message with payload `json`. -/
def ModuleReadyHandler.handle (handler : ModuleReadyHandler) (modulesReady : ModulesReady)
    (json : Bool) : Option (ModulesReady × List ManagerOutput) :=
  (modulesReady.setReady handler.moduleName json).map fun updated =>
    (updated, readyOutputs handler updated)

theorem ModuleReadyHandler.handle_of_mem (handler : ModuleReadyHandler)
    {modulesReady : ModulesReady} (registered : handler.moduleName ∈ modulesReady.keys)
    (json : Bool) :
    handler.handle modulesReady json =
      some (modulesReady.modify handler.moduleName (fun info => { info with ready := json }),
        readyOutputs handler (modulesReady.modify handler.moduleName fun info => { info with ready := json })) := by
  simp [handle, ModulesReady.setReady, registered]

/-- The handler publishes the global ready signal exactly when the whole table is ready. -/
theorem publish_mem_readyOutputs (handler : ModuleReadyHandler) (modulesReady : ModulesReady) :
    ManagerOutput.publish (handler.mqttEverestPrefix ++ "ready") true ∈ readyOutputs handler modulesReady ↔
      modulesReady.allReady = true := by
  unfold readyOutputs
  split_ifs <;> simp_all

/-- The handler reports `ALL_MODULES_STARTED` exactly when the whole table is ready. -/
theorem allModulesStarted_mem_readyOutputs (handler : ModuleReadyHandler)
    (modulesReady : ModulesReady) :
    ManagerOutput.statusUpdate .allModulesStarted ∈ readyOutputs handler modulesReady ↔
      modulesReady.allReady = true := by
  unfold readyOutputs
  split_ifs <;> simp_all

/-- Below zero the `size_t` subtraction wraps to `2 ^ 64 - (b - a)`. -/
theorem sizeSub_of_lt {a b : Nat} (lt : a < b) (small : b < 2 ^ 64) :
    sizeSub a b = 2 ^ 64 - (b - a) := by
  unfold sizeSub
  rw [← Int.add_emod_self, Int.emod_eq_of_lt (by omega) (by omega)]
  omega

/--
With more standalone ids than rows, the handler never reports
`WAITING_FOR_STANDALONE_MODULES`: `modules_ready.size() -
standalone_modules.size()` wraps past every count of ready rows.
-/
theorem waiting_not_mem_readyOutputs (handler : ModuleReadyHandler) (modulesReady : ModulesReady)
    (longer : modulesReady.length < handler.standaloneModules.length)
    (bounded : handler.standaloneModules.length < 2 ^ 64) :
    ManagerOutput.statusUpdate .waitingForStandaloneModules ∉ readyOutputs handler modulesReady := by
  have counted : modulesReady.countReady ≤ modulesReady.length := List.length_filter_le _ _
  have wrapped := sizeSub_of_lt longer bounded
  unfold readyOutputs
  split_ifs with ready standalone same
  · simp
  · omega
  · simp
  · simp

/-- `waiting_not_mem_readyOutputs` for one row and two standalone ids. -/
theorem waiting_not_mem_readyOutputs_twoStandalone :
    ManagerOutput.statusUpdate .waitingForStandaloneModules ∉
      readyOutputs ⟨"a", ["a", "b"], "everest/"⟩ [("a", ⟨false, none⟩)] :=
  waiting_not_mem_readyOutputs _ _ (by decide) (by decide)

/-! ## Sequences of ready messages -/

/--
Ready messages with payload `true` from the given modules, handled in order by
the handlers of one `start_modules` call; the outputs of each handler call.
-/
def deliverReady (standaloneModules : List ModuleId) (mqttEverestPrefix : String) :
    ModulesReady → List ModuleId → Option (List (List ManagerOutput))
  | _, [] => some []
  | modulesReady, moduleName :: later => do
    let (updated, outputs) ←
      (ModuleReadyHandler.mk moduleName standaloneModules mqttEverestPrefix).handle modulesReady true
    let laterOutputs ← deliverReady standaloneModules mqttEverestPrefix updated later
    pure (outputs :: laterOutputs)

/--
Along any sequence of ready messages from registered modules, a handler call
publishes `<mqtt_everest_prefix>ready` and reports `ALL_MODULES_STARTED`
exactly when every entry of the table was ready before the sequence or its
module has delivered by then.  The signal is therefore sent at the first
delivery that completes the table and again at every later one.
-/
theorem publishes_iff_all_delivered (standaloneModules : List ModuleId) (mqttEverestPrefix : String)
    (modulesReady : ModulesReady) (deliveries : List ModuleId)
    (registered : ∀ moduleName ∈ deliveries, moduleName ∈ modulesReady.keys) :
    ∃ outputs, deliverReady standaloneModules mqttEverestPrefix modulesReady deliveries = some outputs ∧
      outputs.length = deliveries.length ∧
      ∀ index (bound : index < outputs.length),
        (ManagerOutput.publish (mqttEverestPrefix ++ "ready") true ∈ outputs[index] ↔
          ∀ entry ∈ modulesReady, entry.2.ready = true ∨ entry.1 ∈ deliveries.take (index + 1)) ∧
        (ManagerOutput.statusUpdate .allModulesStarted ∈ outputs[index] ↔
          ∀ entry ∈ modulesReady, entry.2.ready = true ∨ entry.1 ∈ deliveries.take (index + 1)) := by
  induction deliveries generalizing modulesReady with
  | nil => exact ⟨[], rfl, rfl, fun index bound => absurd bound (Nat.not_lt_zero _)⟩
  | cons moduleName later ih =>
    have present := registered moduleName (List.mem_cons_self _ _)
    have laterRegistered : ∀ other ∈ later, other ∈ (modulesReady.modify moduleName
        fun info => { info with ready := true }).keys := by
      intro other member
      simpa using registered other (List.mem_cons_of_mem _ member)
    obtain ⟨laterOutputs, ran, lengths, publishes⟩ := ih _ laterRegistered
    refine ⟨readyOutputs ⟨moduleName, standaloneModules, mqttEverestPrefix⟩
        (modulesReady.modify moduleName fun info => { info with ready := true }) :: laterOutputs,
      ?_, by simp [lengths], fun index bound => ?_⟩
    · simp [deliverReady,
        ModuleReadyHandler.handle_of_mem ⟨moduleName, standaloneModules, mqttEverestPrefix⟩ present,
        ran]
    cases index with
    | zero =>
      have completes := ModulesReady.allReady_modify_ready modulesReady moduleName
      simp only [List.getElem_cons_zero, List.take_succ_cons, List.take_zero, List.mem_singleton]
      exact ⟨(publish_mem_readyOutputs _ _).trans completes,
        (allModulesStarted_mem_readyOutputs _ _).trans completes⟩
    | succ index =>
      have delivered := publishes index (by simpa using bound)
      simp only [ModulesReady.forall_mem_modify_ready modulesReady moduleName
        fun key ready => ready = true ∨ key ∈ later.take (index + 1)] at delivered
      simp only [List.getElem_cons_succ, List.take_succ_cons, List.mem_cons]
      have reorder : (∀ entry ∈ modulesReady,
            (decide (entry.1 = moduleName) || entry.2.ready) = true ∨
              entry.1 ∈ later.take (index + 1)) ↔
          ∀ entry ∈ modulesReady, entry.2.ready = true ∨
            entry.1 = moduleName ∨ entry.1 ∈ later.take (index + 1) :=
        forall₂_congr fun _ _ => by rw [Bool.or_eq_true, decide_eq_true_eq, or_assoc]; exact or_left_comm
      exact ⟨delivered.1.trans reorder, delivered.2.trans reorder⟩

/-- The table `start_modules` builds for a config whose only module is `a`. -/
def singleModuleReady : ModulesReady :=
  [("a", ⟨false, some ⟨"a", [], "everest/"⟩⟩)]

/-- A duplicate ready message of the only module publishes the global signal a second time. -/
theorem duplicate_ready_publishes_again :
    deliverReady [] "everest/" singleModuleReady ["a", "a"] =
      some [[.statusUpdate .allModulesStarted, .publish "everest/ready" true],
        [.statusUpdate .allModulesStarted, .publish "everest/ready" true]] := by
  decide

/-- `publishes_iff_all_delivered` on two ready messages of the only module. -/
theorem publishes_iff_all_delivered_duplicate :
    ∃ outputs, deliverReady [] "everest/" singleModuleReady ["a", "a"] = some outputs ∧
      outputs.length = 2 ∧
      ∀ index (bound : index < outputs.length),
        (ManagerOutput.publish ("everest/" ++ "ready") true ∈ outputs[index] ↔
          ∀ entry ∈ singleModuleReady, entry.2.ready = true ∨ entry.1 ∈ ["a", "a"].take (index + 1)) ∧
        (ManagerOutput.statusUpdate .allModulesStarted ∈ outputs[index] ↔
          ∀ entry ∈ singleModuleReady, entry.2.ready = true ∨ entry.1 ∈ ["a", "a"].take (index + 1)) :=
  publishes_iff_all_delivered [] "everest/" singleModuleReady ["a", "a"] (by decide)

end EverestFramework.Manager.ReadyBarrier
