import Mathlib.Data.List.Basic

/-!
# `set_caps`

`set_caps` turns the capability names a module requests into `cap_value_t`
values with `cap_from_name`, then adds them to the inheritable set of the
process with one `cap_set_flag` call and raises each of them in the ambient
set.  The value vector is sized with `resize(capabilities.size())` and then
filled with `emplace_back()`, so it holds one zero per requested name ahead
of the requested values, and zero is `CAP_CHOWN`.

`setCaps_of_resolved` and `setCaps_of_unresolved` give the result and the
library calls of `set_caps` for every list of names and every
`cap_from_name`.
-/

namespace EverestFramework.System.Capabilities

/-- `cap_value_t`; `0` is `CAP_CHOWN`. -/
abbrev CapValue := Nat

/-- The capability set `cap_set_flag` changes. -/
inductive CapFlag where
  | inheritable
deriving DecidableEq, Repr

/-- The value `cap_set_flag` and `cap_set_ambient` set. -/
inductive CapFlagValue where
  | set
deriving DecidableEq, Repr

/--
A libcap call of `set_caps` after its loop.  The `cap_from_name` lookups of
the loop are the function `capFromName` and are not recorded.
-/
inductive CapCall where
  | capGetProc
  | capSetFlag (flag : CapFlag) (values : List CapValue) (value : CapFlagValue)
  | capSetProc
  | capFree
  | capSetAmbient (capability : CapValue) (value : CapFlagValue)
deriving DecidableEq, Repr

/-- The error `set_caps` returns for a name `cap_from_name` does not know. -/
def unknownCapabilityMessage (capName : String) : String :=
  "Failed to get capability value for capability name " ++ capName

/--
The loop of `set_caps`: for each name, `emplace_back()` a value and let
`cap_from_name` fill it, returning the error for the first unknown name.
-/
def fillCapabilityValues (capFromName : String → Option CapValue) :
    List CapValue → List String → Except String (List CapValue)
  | capabilityValues, [] => .ok capabilityValues
  | capabilityValues, capName :: later =>
    match capFromName capName with
    | none => .error (unknownCapabilityMessage capName)
    | some capValue => fillCapabilityValues capFromName (capabilityValues ++ [capValue]) later

/-- The calls made once every name is known. -/
def applyCapabilities (capabilityValues : List CapValue) : List CapCall :=
  [.capGetProc, .capSetFlag .inheritable capabilityValues .set, .capSetProc, .capFree] ++
    capabilityValues.map fun capValue => .capSetAmbient capValue .set

/-- `set_caps`: the returned error text (empty on success) and the libcap calls made. -/
def setCaps (capFromName : String → Option CapValue) (capabilities : List String) :
    String × List CapCall :=
  match fillCapabilityValues capFromName (List.replicate capabilities.length 0) capabilities with
  | .error message => (message, [])
  | .ok capabilityValues => ("", applyCapabilities capabilityValues)

theorem fillCapabilityValues_of_resolved (capFromName : String → Option CapValue)
    (capabilityValues : List CapValue) {capabilities : List String} {values : List CapValue}
    (resolved : List.Forall₂ (fun capName capValue => capFromName capName = some capValue)
      capabilities values) :
    fillCapabilityValues capFromName capabilityValues capabilities = .ok (capabilityValues ++ values) := by
  induction resolved generalizing capabilityValues with
  | nil => simp [fillCapabilityValues]
  | cons found _ ih => simp [fillCapabilityValues, found, ih]

theorem fillCapabilityValues_of_unresolved (capFromName : String → Option CapValue)
    (capabilityValues : List CapValue) {capabilities : List String} {capName : String}
    (first : capabilities.find? (fun name => (capFromName name).isNone) = some capName) :
    fillCapabilityValues capFromName capabilityValues capabilities =
      .error (unknownCapabilityMessage capName) := by
  induction capabilities generalizing capabilityValues with
  | nil => simp at first
  | cons name later ih =>
    cases found : capFromName name with
    | none =>
      simp only [List.find?_cons, found, Option.isNone_none, Option.some.injEq] at first
      subst first
      simp [fillCapabilityValues, found]
    | some capValue =>
      simp only [found, Option.isNone_some, Bool.false_eq_true, not_false_eq_true,
        List.find?_cons_of_neg] at first
      simp [fillCapabilityValues, found, ih _ first]

/--
When every requested name is known, `set_caps` returns the empty string and
passes one zero per name followed by the requested values to `cap_set_flag`
and, one by one, to `cap_set_ambient`.
-/
theorem setCaps_of_resolved (capFromName : String → Option CapValue) {capabilities : List String}
    {values : List CapValue}
    (resolved : List.Forall₂ (fun capName capValue => capFromName capName = some capValue)
      capabilities values) :
    setCaps capFromName capabilities =
      ("", applyCapabilities (List.replicate capabilities.length 0 ++ values)) := by
  simp [setCaps, fillCapabilityValues_of_resolved capFromName _ resolved]

/--
An unknown name makes `set_caps` return the error naming the first one: it
makes none of the calls after the loop.
-/
theorem setCaps_of_unresolved (capFromName : String → Option CapValue) {capabilities : List String}
    {capName : String}
    (first : capabilities.find? (fun name => (capFromName name).isNone) = some capName) :
    setCaps capFromName capabilities = (unknownCapabilityMessage capName, []) := by
  simp [setCaps, fillCapabilityValues_of_unresolved capFromName _ first]

/-- `cap_from_name` for one name: `cap_net_bind_service` is capability 10. -/
def netBindServiceOnly (capName : String) : Option CapValue :=
  if capName = "cap_net_bind_service" then some 10 else none

/-- An unknown second name: `set_caps` names it and makes none of the calls after the loop. -/
theorem setCaps_unknown_second :
    ["cap_net_bind_service", "cap_sys_nice"].find? (fun name => (netBindServiceOnly name).isNone) =
        some "cap_sys_nice" ∧
      setCaps netBindServiceOnly ["cap_net_bind_service", "cap_sys_nice"] =
        (unknownCapabilityMessage "cap_sys_nice", []) :=
  ⟨by decide, setCaps_of_unresolved netBindServiceOnly (by decide)⟩

/--
Requesting only `cap_net_bind_service` also adds capability 0, `CAP_CHOWN`, to
the inheritable and the ambient set.
-/
theorem setCaps_adds_cap_chown :
    setCaps netBindServiceOnly ["cap_net_bind_service"] =
      ("", [.capGetProc, .capSetFlag .inheritable [0, 10] .set, .capSetProc, .capFree,
        .capSetAmbient 0 .set, .capSetAmbient 10 .set]) :=
  setCaps_of_resolved netBindServiceOnly (.cons rfl .nil)

end EverestFramework.System.Capabilities
