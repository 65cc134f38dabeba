import EverestFramework.Manager.Boot

/-!
# Executing a module in the forked child

`spawn_modules` runs `exec_module` in each child, which dispatches on the
module's language to `exec_cpp_module`, `exec_javascript_module` or
`exec_python_module`.  Each sets the module's environment, builds its
argument vector and calls `execv` or `execvp`; if the exec returns, it calls
`send_error_and_exit` with a message naming the binary, the arguments and
`strerror(errno)`.

Every such message starts with `Syscall to execv() with`, so it is never
empty.  As soon as `MAX_PIPE_MESSAGE_SIZE > 1` the parent therefore tells a
failed exec from a successful one for every module
(`checkChildExecuted_moduleChildEnd`), and `spawn_modules` returns exactly
when every exec succeeds and otherwise throws with the message of the first
module whose exec failed (`spawnModules_moduleChildEnd`).
-/

namespace EverestFramework.Manager.ExecModule

open EverestFramework.Manager.StartModules
open EverestFramework.Manager.Boot
open EverestFramework.System.SubProcess
open EverestFramework.System.Format

/-- The runtime settings the exec functions read. -/
structure ExecSettings where
  /-- `rs->prefix`. -/
  installPrefix : String
  /-- `rs->config_file`. -/
  configFile : String
  /-- `rs->validate_schema`. -/
  validateSchema : Bool
  /-- `defaults::LIB_DIR`, defined outside these sources. -/
  libDir : String
  /-- `defaults::NAMESPACE`, defined outside these sources. -/
  everestNamespace : String

/-- A `setenv(name, value, overwrite)` call. -/
structure SetEnv where
  name : String
  value : String
  overwrite : Bool
deriving DecidableEq, Repr

/-- An `execv` of a path, or an `execvp` of a name looked up in `PATH`. -/
structure ExecCall where
  binary : String
  searchPath : Bool
  arguments : List String
deriving DecidableEq, Repr

/-- What an exec function does: its `setenv` calls, its exec, and its message if the exec returns. -/
structure ExecPlan where
  environment : List SetEnv
  call : ExecCall
  /-- The message for `send_error_and_exit`, given `strerror(errno)`. -/
  failure : String → String

/--
The message of every exec function when its exec returns: the binary, the
arguments after the first, and the error.
-/
def execFailedMessage (binary : String) (arguments : List String) (errorText : String) : String :=
  "Syscall to execv() with \"" ++ binary ++ " " ++ " ".intercalate arguments.tail ++ "\" failed (" ++
    errorText ++ ")"

/-- The format string of that message, as the three exec functions write it. -/
def execvFailedFormat : String :=
  "Syscall to execv() with \"\x7b\x7d \x7b\x7d\" failed (\x7b\x7d)"

/--
`execFailedMessage` is what `fmt::format` makes of the format string, the
binary, the arguments after the first joined with blanks, and the error text.
-/
theorem execFailedMessage_eq_format (binary : String) (arguments : List String)
    (errorText : String) :
    format execvFailedFormat [binary, " ".intercalate arguments.tail, errorText] =
      .ok (execFailedMessage binary arguments errorText) := by
  have layout : execvFailedFormat.toList =
      "Syscall to execv() with \"".toList ++ '\x7b' :: '\x7d' :: (" ".toList ++ '\x7b' :: '\x7d' ::
        ("\" failed (".toList ++ '\x7b' :: '\x7d' :: (")".toList ++ []))) := by
    rfl
  rw [format, layout, formatChars_text _ (by decide), formatChars_field,
    formatChars_text _ (by decide), formatChars_field, formatChars_text _ (by decide),
    formatChars_field, formatChars_text _ (by decide), formatChars_nil]
  simp only [Functor.map, Except.map, execFailedMessage, String.append_assoc, String.append_empty]

/-- The two `setenv` calls on `rs->validate_schema`. -/
def validateSchemaEnvironment (validateSchema : Bool) : List SetEnv :=
  (if validateSchema then [⟨"EV_VALIDATE_SCHEMA", "1", true⟩] else []) ++
    (if !validateSchema then [⟨"EV_DONT_VALIDATE_SCHEMA", "", false⟩] else [])

/-- `rs->prefix / defaults::LIB_DIR / defaults::NAMESPACE / name`. -/
def libraryPath (settings : ExecSettings) (name : String) : String :=
  joinPath (joinPath (joinPath settings.installPrefix settings.libDir) settings.everestNamespace) name

/-- `exec_cpp_module`: `execv` of the module's binary. -/
def execCppModule (settings : ExecSettings) (module : ModuleStartInfo) : ExecPlan :=
  let arguments := [module.printableName, "--prefix", settings.installPrefix, "--conf",
    settings.configFile, "--module", module.name]
  ⟨[], ⟨module.path, false, arguments⟩, execFailedMessage module.path arguments⟩

/-- `exec_javascript_module`: `execvp` of `node` on the module's `index.js`. -/
def execJavascriptModule (settings : ExecSettings) (module : ModuleStartInfo) : ExecPlan :=
  let arguments := ["node", "--unhandled-rejections=strict", module.path]
  ⟨[⟨"NODE_PATH", libraryPath settings "node_modules", false⟩, ⟨"EV_MODULE", module.name, true⟩,
      ⟨"EV_PREFIX", settings.installPrefix, false⟩, ⟨"EV_CONF_FILE", settings.configFile, false⟩] ++
      validateSchemaEnvironment settings.validateSchema,
    ⟨"node", true, arguments⟩, execFailedMessage "node" arguments⟩

/-- `exec_python_module`: `execvp` of `python3` on the module's `module.py`. -/
def execPythonModule (settings : ExecSettings) (module : ModuleStartInfo) : ExecPlan :=
  let arguments := ["python3", module.path]
  ⟨[⟨"EV_MODULE", module.name, true⟩, ⟨"EV_PREFIX", settings.installPrefix, false⟩,
      ⟨"EV_CONF_FILE", settings.configFile, false⟩,
      ⟨"PYTHONPATH", libraryPath settings "everestpy", false⟩] ++
      validateSchemaEnvironment settings.validateSchema,
    ⟨"python3", true, arguments⟩, execFailedMessage "python3" arguments⟩

/-- `exec_module`: the exec function of the module's language. -/
def execModule (settings : ExecSettings) (module : ModuleStartInfo) : ExecPlan :=
  match module.language with
  | .cpp => execCppModule settings module
  | .javascript => execJavascriptModule settings module
  | .python => execPythonModule settings module

/--
How the child of a module ends in `spawn_modules`, given which execs return
and with which `strerror(errno)`.
-/
def moduleChildEnd (settings : ExecSettings) (execError : ExecCall → Option String)
    (module : ModuleStartInfo) : ChildEnd :=
  match execError (execModule settings module).call with
  | none => .execs
  | some errorText => .sendsError (utf8Bytes ((execModule settings module).failure errorText))

/-- The failure message of the first module whose exec returns. -/
def firstExecFailure (settings : ExecSettings) (execError : ExecCall → Option String) :
    List ModuleStartInfo → Option String
  | [] => none
  | module :: later =>
    match execError (execModule settings module).call with
    | some errorText => some ((execModule settings module).failure errorText)
    | none => firstExecFailure settings execError later

/-! ## The parent sees every failed exec -/

theorem utf8Bytes_execFailedMessage_ne_nil (binary : String) (arguments : List String)
    (errorText : String) : utf8Bytes (execFailedMessage binary arguments errorText) ≠ [] := by
  have start : utf8Bytes "Syscall to execv() with \"" ≠ [] := by decide
  simp [execFailedMessage, utf8Bytes_append, start]

theorem execModule_failure (settings : ExecSettings) (module : ModuleStartInfo) :
    ∃ binary arguments, (execModule settings module).failure = execFailedMessage binary arguments := by
  unfold execModule
  split <;> exact ⟨_, _, rfl⟩

/--
With `MAX_PIPE_MESSAGE_SIZE > 1`, the parent returns the pid of a module's
child exactly when its exec succeeded, and otherwise throws with the first
`MAX_PIPE_MESSAGE_SIZE - 1` bytes of the exec function's message.
-/
theorem checkChildExecuted_moduleChildEnd (settings : ExecSettings)
    (execError : ExecCall → Option String) (module : ModuleStartInfo) {MAX_PIPE_MESSAGE_SIZE : Nat}
    (room : 1 < MAX_PIPE_MESSAGE_SIZE) (pid : Pid) :
    checkChildExecuted MAX_PIPE_MESSAGE_SIZE pid
        ((moduleChildEnd settings execError module).run MAX_PIPE_MESSAGE_SIZE afterCreate) =
      some (match execError (execModule settings module).call with
        | none => .ok pid
        | some errorText => .error (forkedChildPrefix ++
            cString ((utf8Bytes ((execModule settings module).failure errorText)).take
              (MAX_PIPE_MESSAGE_SIZE - 1)))) := by
  unfold moduleChildEnd
  cases execError (execModule settings module).call with
  | none => rfl
  | some errorText =>
    obtain ⟨binary, arguments, failure⟩ := execModule_failure settings module
    have written := utf8Bytes_execFailedMessage_ne_nil binary arguments errorText
    rw [failure]
    exact checkChildExecuted_of_written pid
      (by simpa [List.take_eq_nil_iff, written] using Nat.sub_ne_zero_of_lt room)

/--
`spawn_modules` over children that run `exec_module`: it returns exactly when
no exec fails, and otherwise throws with the message of the first module
whose exec failed.
-/
theorem spawnModules_moduleChildEnd (settings : ExecSettings) (execError : ExecCall → Option String)
    {MAX_PIPE_MESSAGE_SIZE : Nat} (room : 1 < MAX_PIPE_MESSAGE_SIZE) (pids : Nat → Pid) :
    ∀ (index : Nat) (startedModules : ModuleHandles) (modules : List ModuleStartInfo),
      ∃ handles, spawnModules MAX_PIPE_MESSAGE_SIZE ⟨pids, moduleChildEnd settings execError⟩ index
          startedModules modules =
        some (match firstExecFailure settings execError modules with
          | none => .ok handles
          | some failure =>
            .error (forkedChildPrefix ++ cString ((utf8Bytes failure).take (MAX_PIPE_MESSAGE_SIZE - 1))))
  | _, startedModules, [] => ⟨startedModules, rfl⟩
  | index, startedModules, module :: later => by
    have parent := checkChildExecuted_moduleChildEnd settings execError module room (pids index)
    simp only [spawnModules, parent, firstExecFailure]
    cases execError (execModule settings module).call with
    | none => exact spawnModules_moduleChildEnd settings execError room pids _ _ later
    | some errorText => exact ⟨startedModules, rfl⟩

/-- Settings of an installation under `/usr`. -/
def usrSettings : ExecSettings :=
  ⟨"/usr", "/etc/everest/config.yaml", true, "lib", "everest"⟩

/-- A C++ module `a` of type `A`. -/
def cppModule : ModuleStartInfo :=
  ⟨"a", "a:A", .cpp, "/usr/libexec/everest/modules/A/A", []⟩

/-- Every exec returns with `ENOENT`. -/
def missingBinaries : ExecCall → Option String :=
  fun _ => some "No such file or directory"

/-- `spawnModules_moduleChildEnd` for one C++ module whose binary is missing. -/
theorem spawnModules_missing_binary :
    1 < 1024 ∧
      ∃ handles, spawnModules 1024 ⟨id, moduleChildEnd usrSettings missingBinaries⟩ 0 [] [cppModule] =
        some (match firstExecFailure usrSettings missingBinaries [cppModule] with
          | none => .ok handles
          | some failure => .error (forkedChildPrefix ++ cString ((utf8Bytes failure).take (1024 - 1)))) :=
  ⟨by decide, spawnModules_moduleChildEnd usrSettings missingBinaries (by decide) id 0 [] [cppModule]⟩

end EverestFramework.Manager.ExecModule
