import ConsoleRelay.Launch.Config
import ConsoleRelay.Launch.Process

/-!
The launcher: from a configuration and arguments to a child process.

The program is looked for beside the launcher first. The command line is measured as if it were
joined by single spaces, and no child is started when it reaches the limit.
-/
namespace ConsoleRelay.Launch

structure Launcher where
  program : Path
  flag : Text
  maxCommandLine : Nat
  deriving DecidableEq, Repr

inductive LaunchError where
  | tooLong (length limit : Nat)
  | notStarted (program : Path) (cause : OsError)
  deriving DecidableEq, Repr

def LaunchError.causes : LaunchError → List Text
  | .tooLong length limit =>
    ["Arguments string is too long! (".toList ++ decimal length ++ " characters, limit ".toList ++
      decimal limit ++ ")".toList]
  | .notStarted program cause => ["Failed to launch ".toList ++ Utf8.lossy program, cause.message]

inductive Action where
  | log (r : Record)
  | spawn (c : Command)
  | child (w : Written)
  deriving DecidableEq, Repr

namespace Launcher

def target : String := "console_launch::launch"

/-- The program to start: beside the launcher if it is relative and a file there. -/
def resolveProgram (fs : FileSystem) (program : Path) : Option Path → Path
  | none => program
  | some dir =>
    if !Path.isAbsolute program && fs.isFile (Path.join dir program) then Path.join dir program
    else program

def ofConfig (fs : FileSystem) (c : Config) (dir : Option Path) : Launcher :=
  ⟨resolveProgram fs c.program dir, c.flag, c.maxCommandLine⟩

/-- The length of program, flag and arguments joined by single spaces. -/
def commandLineLength (l : Launcher) (args : List Bytes) : Nat :=
  args.foldl (fun length arg => length + 1 + arg.length)
    (l.program.length + 1 + (Utf8.encode l.flag).length)

/-- The child's command, unless its line reaches the limit. -/
def command (l : Launcher) (args : List Bytes) : Except LaunchError Command :=
  let length := l.commandLineLength args
  if l.maxCommandLine ≤ length then .error (.tooLong length l.maxCommandLine)
  else .ok (.new l.program (Utf8.encode l.flag :: args))

/-- Start the child and wait for it. `start` is the operating system. -/
def run (start : Command → Except OsError Child) (l : Launcher) (args : List Bytes) :
    List Action × Except LaunchError Child :=
  match l.command args with
  | .error e => ([], .error e)
  | .ok command =>
    let announced : Action := .log ⟨.info, target,
      "Launching ".toList ++ Utf8.lossy l.program ++ " ".toList ++ l.flag ++ " (".toList ++
        decimal args.length ++ " forwarded arguments)".toList⟩
    match command.spawn start with
    | .error cause => ([announced, .spawn command], .error (.notStarted l.program cause))
    | .ok child =>
      ([announced, .spawn command] ++ child.written.map .child ++
        [.log ⟨.debug, target, "Child exited with ".toList ++ child.finish.describe⟩], .ok child)

def describe (l : Launcher) : Text :=
  Quoted.record "Launcher" (Config.fields ⟨l.program, l.flag, l.maxCommandLine⟩)

end Launcher

end ConsoleRelay.Launch
