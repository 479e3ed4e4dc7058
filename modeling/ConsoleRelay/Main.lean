import ConsoleRelay.Launch.CommandLine

/-!
The launcher's command line.

What the launcher was started with is taken from the environment; the run itself is
`Invocation.printout`. The libraries, the files and the starting of processes belong to the caller.
-/
namespace ConsoleRelay.Launch.Main

def bytes (s : String) : Bytes := Utf8.ofString s

def write (w : Written) : IO Unit := do
  let stream ← match w.stream with
    | .output => IO.getStdout
    | .errors => IO.getStderr
  stream.write (ByteArray.mk w.bytes.toArray)
  stream.flush

def invocation (args : List String) : IO Invocation := do
  let app ← IO.appPath
  return ⟨bytes app.toString :: args.map bytes,
    (← IO.getEnv Config.variableName).map bytes,
    (← IO.getEnv Invocation.logVariableName).map bytes,
    app.parent.map fun dir => bytes dir.toString⟩

/-- Run the launcher and return its exit code. -/
def run (libraries : Libraries) (fs : FileSystem) (start : Command → Except OsError Child)
    (args : List String) : IO UInt32 := do
  let p := (← invocation args).printout libraries fs start
  p.written.forM write
  return UInt32.ofNat p.exitCode

end ConsoleRelay.Launch.Main
