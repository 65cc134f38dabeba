import EverestFramework.Manager.StartModules
import EverestFramework.System.SubProcess
import EverestFramework.System.Format

/-!
# Starting the controller of the admin build

`start_controller` forks the controller with `SubProcess::create`.  The child
finds its binary next to `/proc/self/exe` and calls `execl`; if `execl`
returns, the child formats a message and passes it to
`send_error_and_exit`.  The parent sends the boot message and returns the
pid `check_child_executed` gives it.

The message's format string, `Syscall to execl() with "{} {}" failed ({})`,
has three replacement fields and the call passes two arguments, the binary
and `strerror(errno)`.  `fmt::format` then throws `format_error` at the third
field, before `send_error_and_exit` runs.  The exception leaves `boot` in the
child, `main` returns `EXIT_FAILURE`, and the child's exit closes the pipe
with nothing written.  The parent reads that as a successful exec: for every
outcome of `execl`, `start_controller` returns the child's pid
(`startController_returns_pid`).

`fmt::format` is the model of `System.Format`.  The socket pair, the boot
message and what the `SubProcess::create(run_as_user)` overload does in the
child are not part of the source and are left out.
-/

namespace EverestFramework.Manager.StartController

open EverestFramework.Manager.StartModules
open EverestFramework.System.SubProcess
open EverestFramework.System.Format

/-! ## The message of a failed `execl` -/

/-- The format string of the message the controller child sends when `execl` returns. -/
def execlFailedFormat : String :=
  "Syscall to execl() with \"\x7b\x7d \x7b\x7d\" failed (\x7b\x7d)"

/--
The message of a failed `execl` is never formatted: its third field finds no
argument, whatever the binary and the error text.
-/
theorem format_execlFailed (controllerBinary errorText : String) :
    format execlFailedFormat [controllerBinary, errorText] = .error "argument not found" := by
  have layout : execlFailedFormat.toList =
      "Syscall to execl() with \"".toList ++ '\x7b' :: '\x7d' :: (" ".toList ++ '\x7b' :: '\x7d' ::
        ("\" failed (".toList ++ '\x7b' :: '\x7d' :: ")".toList)) := by
    rfl
  rw [format, layout, formatChars_text _ (by decide), formatChars_field,
    formatChars_text _ (by decide), formatChars_field, formatChars_text _ (by decide),
    formatChars_field_nil]
  rfl

/-! ## The controller child and the parent -/

section Start

variable (MAX_PIPE_MESSAGE_SIZE : Nat)

/--
What the controller child leaves in the pipe, given the directory of
`fs::canonical("/proc/self/exe")` (`none` when `canonical` throws) and the
error text of `execl` (`none` when the exec succeeds).  An exception in the
child leaves `boot`; `main` returns `EXIT_FAILURE`, and the exit closes the
write end.
-/
def controllerChild (binDir : Option String) (execlError : Option String) (pipe : PacketPipe) :
    PacketPipe :=
  match binDir with
  | none => pipe.close
  | some binDir =>
    match execlError with
    | none => pipe.close
    | some errorText =>
      match format execlFailedFormat [joinPath binDir "controller", errorText] with
      | .ok message => sendErrorAndExit MAX_PIPE_MESSAGE_SIZE pipe (utf8Bytes message)
      | .error _ => pipe.close

/--
`start_controller`: the parent's `check_child_executed` after the controller
child `controllerPid` has ended.
-/
def startController (controllerPid : Pid) (binDir execlError : Option String) :
    Option (Except Bytes Pid) :=
  checkChildExecuted MAX_PIPE_MESSAGE_SIZE controllerPid
    (controllerChild MAX_PIPE_MESSAGE_SIZE binDir execlError afterCreate)

/-- Whatever happens in it, the controller child closes the pipe with nothing written. -/
theorem controllerChild_afterCreate (binDir execlError : Option String) :
    controllerChild MAX_PIPE_MESSAGE_SIZE binDir execlError afterCreate = afterCreate.close := by
  unfold controllerChild
  cases binDir with
  | none => rfl
  | some binDir =>
    cases execlError with
    | none => rfl
    | some errorText =>
      dsimp only
      rw [format_execlFailed]

/--
For every outcome of `fs::canonical` and of `execl`, `start_controller`
returns the controller child's pid: a failed `execl` is never reported.
-/
theorem startController_returns_pid (controllerPid : Pid) (binDir execlError : Option String) :
    startController MAX_PIPE_MESSAGE_SIZE controllerPid binDir execlError =
      some (.ok controllerPid) := by
  rw [startController, controllerChild_afterCreate]
  rfl

end Start

end EverestFramework.Manager.StartController
