import ConsoleRelay.Host.Shell.State

/-!
Signals: their names and numbers, what they do to a process, and how the end by one is announced.
-/
namespace ConsoleRelay.Shell.Signal

open ConsoleRelay.Launch (Finish)

def largest : Nat := 64

/-- The names of the signals, from 1 on. Some have only a number, and those of the upper half are
counted from the nearer end. -/
def names : List String := [
  "HUP", "INT", "QUIT", "ILL", "TRAP", "ABRT", "BUS", "FPE", "KILL", "USR1", "SEGV", "USR2", "PIPE",
  "ALRM", "TERM", "16", "CHLD", "CONT", "STOP", "TSTP", "TTIN", "TTOU", "URG", "XCPU", "XFSZ",
  "VTALRM", "PROF", "WINCH", "IO", "PWR", "SYS", "32", "33", "RTMIN"] ++
  (List.range 15).map (fun n => "RTMIN+" ++ String.ofList (decimal (n + 1))) ++
  (List.range 14).map (fun n => "RTMAX-" ++ String.ofList (decimal (14 - n))) ++ ["RTMAX"]

/-- What is said of a process that a signal ended, from 1 on. -/
def descriptions : List String := [
  "Hangup", "Interrupt", "Quit", "Illegal instruction", "Trace/breakpoint trap", "Aborted",
  "Bus error", "Floating point exception", "Killed", "User defined signal 1", "Segmentation fault",
  "User defined signal 2", "Broken pipe", "Alarm clock", "Terminated", "Stack fault",
  "Child exited", "Continued", "Stopped (signal)", "Stopped", "Stopped (tty input)",
  "Stopped (tty output)", "Urgent I/O condition", "CPU time limit exceeded",
  "File size limit exceeded", "Virtual timer expired", "Profiling timer expired", "Window changed",
  "I/O possible", "Power failure", "Bad system call"]

def describe (signal : Nat) : Bytes :=
  match descriptions[signal - 1]? with
  | some s => bytes s
  | none =>
    if signal ≤ 33 then bytes "Unknown signal " ++ ascii (decimal signal)
    else bytes "Real-time signal " ++ ascii (decimal (signal - 34))

def upper (b : UInt8) : UInt8 := if 0x61 ≤ b && b ≤ 0x7A then b - 32 else b

/-- The signal that a number or a name stands for; 0 is the end of a process. -/
def ofBytes? (bs : Bytes) : Option Nat :=
  if !bs.isEmpty && bs.all isDigit then
    let n := bs.foldl (fun n b => n * 10 + (b.toNat - 0x30)) 0
    if n ≤ largest then some n else none
  else
    let name := bs.map upper
    if name == bytes "EXIT" then some 0
    else (names.findIdx? fun s => bytes s == name).map (· + 1)

def isHarmless (signal : Nat) : Bool := [0, 17, 18, 19, 20, 21, 22, 23, 28].contains signal

def isCertain (signal : Nat) : Bool := signal = 9 || signal = 19

def endJob (id : Nat) (f : Finish) : Run Unit :=
  updateWorld fun w =>
    { w with jobs := w.jobs.map fun j => if j.id == id then { j with finish := some f } else j }

/-- Send a signal to a process. One that does not exist is refused. -/
def send (target signal : Nat) : Run Bool := do
  let s ← get
  let p := s.process
  if (p.id :: p.ancestors).contains target then
    match if isCertain signal then none else s.world.traps.lookup (target, signal) with
    | some action =>
      if !action.isEmpty then
        updateWorld fun w => { w with signals := w.signals ++ [(target, signal)] }
      return true
    | none =>
      if isHarmless signal then return true
      else if target = p.id then throw (.killed target signal)
      else
        updateWorld fun w => { w with doomed := (target, signal) :: w.doomed }
        return true
  else
    match s.world.jobs.find? fun j => j.id == target && j.finish.isNone with
    | some job =>
      let caught := (s.world.traps.lookup (job.id, signal)).isSome && !isCertain signal
      if !isHarmless signal && !caught then
        endJob target (.killed signal)
      return true
    | none => return false

/-- Announce the end of a process, if a signal was the cause and it is not a usual one. -/
def announce : Finish → Run Unit
  | .exited _ => return
  | .killed signal =>
    if signal = 2 || signal = 13 then return else putError (describe signal ++ [0x0A])

end ConsoleRelay.Shell.Signal
