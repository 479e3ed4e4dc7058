import ConsoleRelay.Host.Shell.Interpreter

/-!
A stand-in for the operating system.

The launcher itself knows the system only as a function from commands to an error or a child, and
what is said of it holds of every such function. Where no process can be started, a machine takes
the system's place: a disk with files and a few tools, and a shell that runs scripts on it. A
program named with a separator is taken from there, any other is searched for.
-/
namespace ConsoleRelay

open Launch (Command Child)

/-- A machine: its files, and the variables that a program finds in its environment. -/
structure Machine where
  disk : Disk
  environment : List (Bytes × Bytes) := []
  deriving DecidableEq, Repr

namespace Machine

def searchPath : List Path := [Utf8.ofString "/usr/bin", Utf8.ofString "/bin"]

def pathVariable : Bytes × Bytes :=
  (Utf8.ofString "PATH", (searchPath.intersperse [0x3A]).flatten)

def image (m : Machine) (c : Command) : Except OsError Image :=
  if c.program.contains Path.separator then
    Executable.resolve m.disk Executable.chainLimit c.program c.program c.args
  else if c.program.isEmpty then .error .notFound
  else if Disk.nameLimit < c.program.length then .error .nameTooLong
  else Executable.search m.disk c.program c.args false searchPath

def execute (m : Machine) (c : Command) : Except OsError (Child × Disk) := do
  return Shell.execute (pathVariable :: m.environment) m.disk (← m.image c)

def start (m : Machine) (c : Command) : Except OsError Child := (m.execute c).map Prod.fst

end Machine

end ConsoleRelay
