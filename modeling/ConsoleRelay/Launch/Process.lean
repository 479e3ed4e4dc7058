import ConsoleRelay.OsError
import ConsoleRelay.Path

/-! Child processes: how one is started, how it ends, and what it writes. -/
namespace ConsoleRelay.Launch

/-- What a command holds of a string. One with a NUL byte cannot be passed on, and a mark stands for
it. -/
def withoutNul (s : Bytes) : Bytes :=
  if s.contains 0 then Utf8.ofString "<string-with-nul>" else s

theorem zero_not_mem_withoutNul (s : Bytes) : 0 ∉ withoutNul s := by
  rw [withoutNul]
  split
  · decide
  · next h => exact mt List.contains_iff_mem.mpr h

/-- A program to start and its arguments, and whether one of them came with a NUL byte. -/
structure Command where
  program : Path
  args : List Bytes
  sawNul : Bool
  program_clean : 0 ∉ program
  args_clean : ∀ arg ∈ args, 0 ∉ arg
  deriving DecidableEq, Repr

namespace Command

def new (program : Path) (args : List Bytes) : Command where
  program := withoutNul program
  args := args.map withoutNul
  sawNul := (program :: args).any (·.contains 0)
  program_clean := zero_not_mem_withoutNul program
  args_clean arg harg := by
    obtain ⟨s, -, rfl⟩ := List.mem_map.mp harg
    exact zero_not_mem_withoutNul s

def listing (c : Command) : List Bytes := c.program :: c.args

end Command

inductive Finish where
  | exited (code : UInt8)
  | killed (signal : Nat)
  deriving DecidableEq, Repr

def failureExitCode : Nat := 1

namespace Finish

/-- The end that a raw wait status stands for: without a signal in its low seven bits, the exit code
is in the byte above. -/
def ofWaitStatus (raw : Int32) : Finish :=
  let bits := raw.toUInt32.toNat
  if bits % 128 == 0 then .exited (UInt8.ofNat (bits / 256 % 256)) else .killed (bits % 128)

/-- The exit code handed on; a process without one counts as failed. -/
def exitCode : Finish → Nat
  | .exited code => code.toNat
  | .killed _ => failureExitCode

def signalNames : List String := [
  "SIGHUP", "SIGINT", "SIGQUIT", "SIGILL", "SIGTRAP", "SIGABRT", "SIGBUS", "SIGFPE", "SIGKILL",
  "SIGUSR1", "SIGSEGV", "SIGUSR2", "SIGPIPE", "SIGALRM", "SIGTERM", "SIGSTKFLT", "SIGCHLD",
  "SIGCONT", "SIGSTOP", "SIGTSTP", "SIGTTIN", "SIGTTOU", "SIGURG", "SIGXCPU", "SIGXFSZ",
  "SIGVTALRM", "SIGPROF", "SIGWINCH", "SIGIO", "SIGPWR", "SIGSYS"]

def describe : Finish → Text
  | .exited code => "exit status: ".toList ++ decimal code.toNat
  | .killed signal =>
    "signal: ".toList ++ decimal signal ++
      match signalNames[signal - 1]? with
      | some name => " (".toList ++ name.toList ++ ")".toList
      | none => []

end Finish

inductive Stream where
  | output
  | errors
  deriving DecidableEq, Repr

structure Written where
  stream : Stream
  bytes : Bytes
  deriving DecidableEq, Repr

/-- A child that ran to its end, and what it wrote in order. -/
structure Child where
  finish : Finish
  written : List Written
  deriving DecidableEq, Repr

/-- Start a command. `start` is the operating system, which is not asked where a string with a NUL
byte has been left out. -/
def Command.spawn (start : Command → Except OsError Child) (c : Command) : Except OsError Child :=
  if c.sawNul then .error .nulInArgument else start c

end ConsoleRelay.Launch
