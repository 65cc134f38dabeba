import Mathlib.Data.List.Infix

/-!
# The exec-failure pipe of `SubProcess`

`SubProcess::create` opens a pipe with `O_CLOEXEC | O_DIRECT` before it
forks.  The child keeps the write end: a successful `exec` closes it with
nothing written, and every failure path before the exec calls
`send_error_and_exit(message)`, which writes at most
`MAX_PIPE_MESSAGE_SIZE - 1` bytes of the message and exits.  The parent
closes its write end and `check_child_executed` reads once: zero bytes mean
the exec succeeded, anything else is the child's error, formatted through
`c_str()`.

With `O_DIRECT` the pipe is a packet channel: a write of `k > 0` bytes
queues one packet, a write of no bytes queues nothing, and a read returns the
next packet, or zero bytes once every write end is closed.

`checkChildExecuted_after_child` gives the parent's result for every way the
child can end: an empty message is read as a successful exec, and the text of
the error stops at the first NUL byte of the message.
-/

namespace EverestFramework.System.SubProcess

/-- The bytes of a `std::string`. -/
abbrev Bytes := List UInt8

/-- A process id. -/
abbrev Pid := Nat

/-- The `O_DIRECT` pipe: the packets written and not read, and the open write ends. -/
structure PacketPipe where
  packets : List Bytes
  writeEnds : Nat
deriving DecidableEq, Repr

namespace PacketPipe

/-- `write`: a write of no bytes queues no packet. -/
def write (pipe : PacketPipe) (bytes : Bytes) : PacketPipe :=
  if bytes = [] then pipe else { pipe with packets := pipe.packets ++ [bytes] }

/-- `close` of one write end. -/
def close (pipe : PacketPipe) : PacketPipe :=
  { pipe with writeEnds := pipe.writeEnds - 1 }

/--
`read(fd, buffer, size)`: the next packet, cut to `size` bytes, or no bytes
once every write end is closed; `none` while the read blocks.
-/
def read (pipe : PacketPipe) (size : Nat) : Option Bytes :=
  match pipe.packets with
  | packet :: _ => some (packet.take size)
  | [] => if pipe.writeEnds = 0 then some [] else none

end PacketPipe

/-- The pipe in the parent right after `create`: empty, the child holding the only write end. -/
def afterCreate : PacketPipe := ⟨[], 1⟩

/-- How a forked child ends: its exec succeeds, or it calls `send_error_and_exit`. -/
inductive ChildEnd where
  | execs
  | sendsError (message : Bytes)
deriving DecidableEq, Repr

/-- The bytes of `message.c_str()`: everything before the first NUL. -/
def cString (buffer : Bytes) : Bytes :=
  buffer.takeWhile fun byte => byte ≠ 0

/-- The UTF-8 bytes of a text, as `c_str()` and `write` see them. -/
def utf8Bytes (text : String) : Bytes :=
  text.toUTF8.data.toList

theorem utf8Bytes_append (first second : String) :
    utf8Bytes (first ++ second) = utf8Bytes first ++ utf8Bytes second := by
  simp [utf8Bytes, String.toUTF8, String.append]

/-- The fixed part of the error `check_child_executed` throws. -/
def forkedChildPrefix : Bytes :=
  utf8Bytes "Forked child process did not complete exec():\n"

section Protocol

variable (MAX_PIPE_MESSAGE_SIZE : Nat)

/-- `send_error_and_exit(message)`: write at most `MAX_PIPE_MESSAGE_SIZE - 1` bytes, then close. -/
def sendErrorAndExit (pipe : PacketPipe) (message : Bytes) : PacketPipe :=
  (pipe.write (message.take (min message.length (MAX_PIPE_MESSAGE_SIZE - 1)))).close

/-- What the child leaves in the pipe. -/
def ChildEnd.run : ChildEnd → PacketPipe → PacketPipe
  | .execs, pipe => pipe.close
  | .sendsError message, pipe => sendErrorAndExit MAX_PIPE_MESSAGE_SIZE pipe message

/--
`check_child_executed`: read into a buffer of `MAX_PIPE_MESSAGE_SIZE` NUL
bytes; a read of `k > 0` bytes throws with the buffer's C string, a read of
zero bytes returns the pid.  `none` while the read blocks.
-/
def checkChildExecuted (pid : Pid) (pipe : PacketPipe) : Option (Except Bytes Pid) :=
  (pipe.read MAX_PIPE_MESSAGE_SIZE).map fun received =>
    if received.length > 0 then
      .error (forkedChildPrefix ++
        cString (received ++ List.replicate (MAX_PIPE_MESSAGE_SIZE - received.length) 0))
    else .ok pid

end Protocol

/-- The NUL padding after the bytes read does not change the C string. -/
theorem cString_append_zeros (bytes : Bytes) (count : Nat) :
    cString (bytes ++ List.replicate count 0) = cString bytes := by
  have noZeros :
      (List.replicate count (0 : UInt8)).takeWhile (fun byte => decide (byte ≠ 0)) = [] := by
    simp [List.takeWhile_replicate]
  unfold cString
  rw [List.takeWhile_append, noZeros, List.append_nil]
  split_ifs with whole
  · exact ((List.takeWhile_prefix _).eq_of_length whole).symm
  · rfl

/-- `send_error_and_exit` writes the first `MAX_PIPE_MESSAGE_SIZE - 1` bytes of the message. -/
theorem sendErrorAndExit_afterCreate (MAX_PIPE_MESSAGE_SIZE : Nat) (message : Bytes) :
    sendErrorAndExit MAX_PIPE_MESSAGE_SIZE afterCreate message =
      (afterCreate.write (message.take (MAX_PIPE_MESSAGE_SIZE - 1))).close := by
  have written : message.take (min message.length (MAX_PIPE_MESSAGE_SIZE - 1)) =
      message.take (MAX_PIPE_MESSAGE_SIZE - 1) := by
    rw [List.take_eq_take]
    omega
  rw [sendErrorAndExit, written]

/-- A child whose `send_error_and_exit` writes no byte is read as a successful exec. -/
theorem checkChildExecuted_of_nothing_written {MAX_PIPE_MESSAGE_SIZE : Nat} (pid : Pid)
    {message : Bytes} (empty : message.take (MAX_PIPE_MESSAGE_SIZE - 1) = []) :
    checkChildExecuted MAX_PIPE_MESSAGE_SIZE pid
      ((ChildEnd.sendsError message).run MAX_PIPE_MESSAGE_SIZE afterCreate) = some (.ok pid) := by
  rw [ChildEnd.run, sendErrorAndExit_afterCreate]
  simp [checkChildExecuted, empty, afterCreate, PacketPipe.write, PacketPipe.close, PacketPipe.read]

/--
A child whose `send_error_and_exit` writes some bytes makes the parent throw
with those bytes up to their first NUL.
-/
theorem checkChildExecuted_of_written {MAX_PIPE_MESSAGE_SIZE : Nat} (pid : Pid) {message : Bytes}
    (written : message.take (MAX_PIPE_MESSAGE_SIZE - 1) ≠ []) :
    checkChildExecuted MAX_PIPE_MESSAGE_SIZE pid
        ((ChildEnd.sendsError message).run MAX_PIPE_MESSAGE_SIZE afterCreate) =
      some (.error (forkedChildPrefix ++ cString (message.take (MAX_PIPE_MESSAGE_SIZE - 1)))) := by
  have fits : (message.take (MAX_PIPE_MESSAGE_SIZE - 1)).take MAX_PIPE_MESSAGE_SIZE =
      message.take (MAX_PIPE_MESSAGE_SIZE - 1) := by
    rw [List.take_take]
    congr 1
    omega
  have nonempty : 0 < (message.take (MAX_PIPE_MESSAGE_SIZE - 1)).length := List.length_pos.2 written
  have queued : (afterCreate.write (message.take (MAX_PIPE_MESSAGE_SIZE - 1))).close =
      ⟨[message.take (MAX_PIPE_MESSAGE_SIZE - 1)], 0⟩ := by
    simp [PacketPipe.write, PacketPipe.close, afterCreate, written]
  rw [ChildEnd.run, sendErrorAndExit_afterCreate, queued]
  simp only [checkChildExecuted, PacketPipe.read, fits, Option.map_some', gt_iff_lt, nonempty,
    if_true, cString_append_zeros]

/--
For every way the child ends, the parent's `check_child_executed` returns
the pid when the exec succeeded or when the child wrote no byte (an empty
message, or `MAX_PIPE_MESSAGE_SIZE ≤ 1`); otherwise it throws with the bytes
written up to their first NUL.
-/
theorem checkChildExecuted_after_child (MAX_PIPE_MESSAGE_SIZE : Nat) (pid : Pid)
    (child : ChildEnd) :
    checkChildExecuted MAX_PIPE_MESSAGE_SIZE pid (child.run MAX_PIPE_MESSAGE_SIZE afterCreate) =
      some (match child with
        | .execs => .ok pid
        | .sendsError message =>
          if message.take (MAX_PIPE_MESSAGE_SIZE - 1) = [] then .ok pid
          else .error (forkedChildPrefix ++ cString (message.take (MAX_PIPE_MESSAGE_SIZE - 1)))) := by
  cases child with
  | execs => rfl
  | sendsError message =>
    by_cases empty : message.take (MAX_PIPE_MESSAGE_SIZE - 1) = []
    · simpa only [empty, if_true] using checkChildExecuted_of_nothing_written pid empty
    · simpa only [empty, if_false] using checkChildExecuted_of_written pid empty

/-- A child that fails with an empty message is read as a successful exec. -/
theorem empty_error_reads_as_exec :
    checkChildExecuted 1024 42 ((ChildEnd.sendsError []).run 1024 afterCreate) = some (.ok 42) :=
  rfl

end EverestFramework.System.SubProcess
