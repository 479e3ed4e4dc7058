import ConsoleRelay.FileSystem
import ConsoleRelay.Log
import ConsoleRelay.Text.Quoted
import ConsoleRelay.Toml.Document
import ConsoleRelay.Toml.Writer

/-!
The launch configuration: its defaults, its file, and where that file is looked for.

A file named by the environment wins and is never replaced by another one, however broken it is.
Without one, the file beside the launcher is read if it is there; otherwise the defaults hold.
-/
namespace ConsoleRelay.Launch

structure Config where
  program : Path
  flag : Text
  maxCommandLine : Nat
  deriving DecidableEq, Repr

/-- Why a configuration cannot be loaded. The cause of a malformed file is told by the reader. -/
inductive ConfigError where
  | unreadable (path : Path) (cause : OsError)
  | malformed (path : Path) (cause : Text)
  | emptyProgram (path : Path)
  deriving DecidableEq, Repr

/-- An error in one line, with all its causes. -/
def chained (causes : List Text) : Text := List.intercalate ": ".toList causes

/-- The links of an error, outermost first. -/
def ConfigError.causes : ConfigError → List Text
  | .unreadable path cause =>
    ["Failed to read config file: ".toList ++ Quoted.path path, cause.message]
  | .malformed path cause => ["Failed to parse config file: ".toList ++ Quoted.path path, cause]
  | .emptyProgram path =>
    ["Config file ".toList ++ Quoted.path path ++ " sets an empty program".toList]

namespace Config

def variableName : String := "CONSOLE_LAUNCH_CONFIG"

def fileName : String := "console-launch.toml"

def defaultLimit : Nat := 32767

def default : Config := ⟨Utf8.ofString "Rained", "--console".toList, defaultLimit⟩

/-- Equality of configurations, where programs are compared as paths. -/
def same (a b : Config) : Bool :=
  Path.same a.program b.program && a.flag == b.flag && a.maxCommandLine == b.maxCommandLine

def text? (t : Toml.Table) (key : String) (unset : Text) : Option Text :=
  match t.find? key.toList with
  | none => some unset
  | some (.string s) => some s
  | some _ => none

def count? (t : Toml.Table) (key : String) (unset : Nat) : Option Nat :=
  match t.find? key.toList with
  | none => some unset
  | some (.integer (.ofNat n)) => some n
  | some _ => none

/-- The configuration a table sets. Other keys are not looked at. -/
def ofTable? (t : Toml.Table) : Option Config := do
  let program ←
    match t.find? "program".toList with
    | none => some default.program
    | some (.string s) => some (Utf8.encode s)
    | some _ => none
  let flag ← text? t "flag" default.flag
  let limit ← count? t "max_command_line" default.maxCommandLine
  return ⟨program, flag, limit⟩

def ofDocument? (toml : Toml.Reader) (document : Text) : Option Config :=
  toml.parse? document >>= ofTable?

def readText (fs : FileSystem) (path : Path) : Except OsError Text := do
  match Utf8.decode? (← fs.read path) with
  | some t => return t
  | none => throw .invalidText

def load (toml : Toml.Reader) (fs : FileSystem) (path : Path) : Except ConfigError Config :=
  match readText fs path with
  | .error cause => .error (.unreadable path cause)
  | .ok document =>
    match ofDocument? toml document with
    | none => .error (.malformed path (toml.complaint document))
    | some config => if config.program.isEmpty then .error (.emptyProgram path) else .ok config

def locate (fs : FileSystem) (named : Option Path) (dir : Option Path) : Option Path :=
  match named.filter fun p => !p.isEmpty with
  | some path => some path
  | none => (dir.map fun d => Path.join d (Utf8.ofString fileName)).filter fs.isFile

def target : String := "console_launch::config"

/-- The configuration in force, and what is logged on the way. -/
def resolve (toml : Toml.Reader) (fs : FileSystem) (named : Option Path) (dir : Option Path) :
    List Record × Except ConfigError Config :=
  match locate fs named dir with
  | some path =>
    ([⟨.info, target, "Loading configuration from: ".toList ++ Quoted.path path⟩],
      load toml fs path)
  | none => ([⟨.debug, target, "No configuration file, using defaults".toList⟩], .ok default)

def fields (c : Config) : List (String × Text) :=
  [("program", Quoted.path c.program), ("flag", Quoted.text c.flag),
   ("max_command_line", decimal c.maxCommandLine)]

def describe (c : Config) : Text := Quoted.record "LaunchConfig" c.fields

def document (c : Config) : Text :=
  Toml.Writer.line "program" (Toml.Writer.string (Utf8.lossy c.program)) ++
    Toml.Writer.line "flag" (Toml.Writer.string c.flag) ++
    Toml.Writer.line "max_command_line" (decimal c.maxCommandLine)

end Config

end ConsoleRelay.Launch
