import ConsoleRelay.Launch.Launcher
import ConsoleRelay.Launch.LogFilter
import ConsoleRelay.Text.Plain

/-!
The launcher as a program: everything it was started with, what it does, and what it prints.
-/
namespace ConsoleRelay.Launch

/-- What the launcher is started with: its own name and arguments, the two environment variables,
and the directory it is in. -/
structure Invocation where
  argv : List Bytes
  configVariable : Option Bytes
  logVariable : Option Bytes
  directory : Option Path
  deriving DecidableEq, Repr

inductive RunError where
  | config (e : ConfigError)
  | launch (e : LaunchError)
  deriving DecidableEq, Repr

def RunError.causes : RunError → List Text
  | .config e => "Failed to load launch configuration".toList :: e.causes
  | .launch e => e.causes

/-- What the launcher is built on: the reader of its configuration, and the engine for the patterns
of its log filter. -/
structure Libraries where
  toml : Toml.Reader
  patterns : PatternEngine

namespace Invocation

def logVariableName : String := "CONSOLE_LAUNCH_LOG"

/-- What the child finds in its environment of the launcher's own variables. -/
def environment (i : Invocation) : List (Bytes × Bytes) :=
  [(Config.variableName, i.configVariable), (logVariableName, i.logVariable)].filterMap fun v =>
    v.2.map fun value => (Utf8.ofString v.1, value)

def target : String := "console_launch"

/-- The arguments handed on: all but the launcher's own name. -/
def forwarded (i : Invocation) : List Bytes := i.argv.drop 1

/-- What the launcher does and how it ends. `start` is the operating system. -/
def perform (toml : Toml.Reader) (fs : FileSystem) (start : Command → Except OsError Child)
    (i : Invocation) : List Action × Except RunError Child :=
  let located : Action := .log ⟨.debug, target,
    "Launcher directory: ".toList ++ Quoted.optional Quoted.path i.directory⟩
  let (records, config) := Config.resolve toml fs i.configVariable i.directory
  match config with
  | .error e => (located :: records.map .log, .error (.config e))
  | .ok c =>
    let (actions, result) := (Launcher.ofConfig fs c i.directory).run start i.forwarded
    (located :: records.map .log ++ actions, result.mapError .launch)

def exitCode : Except RunError Child → Nat
  | .ok child => child.finish.exitCode
  | .error _ => failureExitCode

structure Printout where
  exitCode : Nat
  written : List Written
  deriving DecidableEq, Repr

/-- What an action writes. Log lines are written without terminal controls. -/
def written (f : LogFilter) : Action → List Written
  | .log r => if f.admits r then [⟨.errors, Plain.strip (Utf8.encode r.line)⟩] else []
  | .spawn _ => []
  | .child w => [w]

def complaint : Except RunError Child → List Written
  | .ok _ => []
  | .error e => [⟨.errors, Utf8.encode (chained e.causes ++ "\n".toList)⟩]

def printout (libraries : Libraries) (fs : FileSystem) (start : Command → Except OsError Child)
    (i : Invocation) : Printout :=
  let filter := LogFilter.ofVariable libraries.patterns i.logVariable
  let (actions, result) := i.perform libraries.toml fs start
  ⟨exitCode result,
   filter.warnings.map (fun w => ⟨.errors, Utf8.encode w⟩) ++
     actions.flatMap (written filter) ++ complaint result⟩

def Printout.stream (p : Printout) (s : Stream) : Bytes :=
  (p.written.filter (·.stream == s)).flatMap Written.bytes

end Invocation

end ConsoleRelay.Launch
