import ConsoleRelay.Host.Disk
import ConsoleRelay.Launch.Process
import ConsoleRelay.Host.Shell.Syntax

/-!
Processes of the machine: what they share, what each of them has, and how they read and write.

A process is run to its end before the one that started it goes on, so that one state is enough for
all of them: the world, which they share, and the process at work.
-/
namespace ConsoleRelay.Shell

open ConsoleRelay.Launch (Stream Written Finish)

/-- What an open file leads to: a stream of the launcher, the null device, a pipe or text, or a
file. -/
inductive Channel where
  | stream (s : Stream)
  | null
  | buffer (content : Bytes) (pos : Nat)
  | file (loc : Location) (pos : Nat) (appends reads writes : Bool)
  deriving DecidableEq, Repr

structure Variable where
  value : Option Bytes
  exported : Bool := false
  fixed : Bool := false
  deriving DecidableEq, Repr

structure Function where
  line : Nat
  body : Command

inductive Skip where
  | nothing
  | loops (n : Nat) (again : Bool)
  | function
  deriving DecidableEq, Repr

/-- A process. `shellId` is the process of the script as a whole, `ancestors` are those that wait
for it; `line` is where its script is and `functionLine` where the function it is in starts; `label`
is the builtin it is in, and `trapStatus` the status before the trap it is in; `optionPlace` is how
far `getopts` has come, an argument and a letter in it. -/
structure Process where
  id : Nat
  shellId : Nat
  ancestors : List Nat := []
  name : Bytes
  args : List Bytes := []
  bindings : List (Bytes × Variable) := []
  functions : List (Bytes × Function) := []
  options : List Char := []
  directory : Location
  descriptors : List (Nat × Nat) := []
  status : Nat := 0
  outputStatus : Nat := 0
  trapStatus : Option Nat := none
  line : Nat := 0
  functionLine : Nat := 0
  label : Option Bytes := none
  skip : Skip := .nothing
  loops : Nat := 0
  inFunction : Bool := false
  locals : List (List (Bytes × Option Variable)) := []
  jobs : List Nat := []
  optionPlace : Nat × Nat := (1, 0)
  mask : Nat := 18
  documents : List (Nat × Word) := []
  nextDocument : Nat := 0

/-- A command in the background: the process that runs it, and how it ended, once it has. -/
structure Job where
  id : Nat
  process : Process
  command : Command
  finish : Option Finish := none

/-- What all processes share. The texts written are kept latest first; `traps` hold what a process
does on a signal, or at its end for 0, `signals` those that have come and wait for their trap, and
`doomed` the processes that a signal has ended while another one is at work. -/
structure World where
  disk : Disk
  written : List Written := []
  channels : Array Channel := #[]
  nextId : Nat := 4097
  jobs : List Job := []
  traps : List ((Nat × Nat) × Bytes) := []
  signals : List (Nat × Nat) := []
  doomed : List (Nat × Nat) := []

structure State where
  world : World
  process : Process

/-- Why a process does not go on: it exits, it failed with a complaint, it has ended as something
else, a signal ended a process, or the bound on its steps was reached. -/
inductive Stop where
  | exit
  | failed
  | ended (f : Finish)
  | killed (id signal : Nat)
  | exhausted
  deriving DecidableEq, Repr

abbrev Run := ExceptT Stop (StateM State)

def ascii (t : Text) : Bytes := t.map byte

def update (f : Process → Process) : Run Unit := modify fun s => { s with process := f s.process }

def updateWorld (f : World → World) : Run Unit := modify fun s => { s with world := f s.world }

def self : Run Process := return (← get).process

def disk : Run Disk := do
  let s ← get
  return { s.world.disk with current := s.process.directory }

def setDisk (d : Disk) : Run Unit := updateWorld fun w => { w with disk := d }

def setStatus (n : Nat) : Run Unit := update fun p => { p with status := n }

def newChannel (c : Channel) : Run Nat := do
  let n := (← get).world.channels.size
  updateWorld fun w => { w with channels := w.channels.push c }
  return n

def channel? (fd : Nat) : Run (Option (Nat × Channel)) := do
  let s ← get
  return do
    let id ← s.process.descriptors.lookup fd
    let c ← s.world.channels[id]?
    return (id, c)

def setChannel (id : Nat) (c : Channel) : Run Unit :=
  updateWorld fun w => { w with channels := w.channels.modify id fun _ => c }

def write (fd : Nat) (bs : Bytes) : Run (Except OsError Unit) := do
  match ← channel? fd with
  | none => return .error .badDescriptor
  | some (id, c) =>
    match c with
    | .stream s =>
      updateWorld fun w => { w with written := ⟨s, bs⟩ :: w.written }
      return .ok ()
    | .null => return .ok ()
    | .buffer content pos =>
      setChannel id (.buffer (content ++ bs) pos)
      return .ok ()
    | .file loc pos appends reads writes =>
      if !writes then return .error .badDescriptor
      let d := (← get).world.disk
      let size := match d.entry? loc with
        | some (.file content _) => content.length
        | _ => 0
      let pos := if appends then size else pos
      setDisk (d.writeAt loc pos bs)
      setChannel id (.file loc (pos + bs.length) appends reads writes)
      return .ok ()

def remaining (fd : Nat) : Run (Except OsError Bytes) := do
  match ← channel? fd with
  | none => return .error .badDescriptor
  | some (_, c) =>
    match c with
    | .stream _ | .null => return .ok []
    | .buffer content pos => return .ok (content.drop pos)
    | .file loc pos _ reads _ =>
      if !reads then return .error .badDescriptor
      match (← get).world.disk.entry? loc with
      | some .directory => return .error .isADirectory
      | some e => return (Disk.content e).map (·.drop pos)
      | none => return .ok []

def advance (fd n : Nat) : Run Unit := do
  match ← channel? fd with
  | some (id, .buffer content pos) => setChannel id (.buffer content (pos + n))
  | some (id, .file loc pos a r w) => setChannel id (.file loc (pos + n) a r w)
  | _ => return

def readAll (fd : Nat) : Run (Except OsError Bytes) := do
  match ← remaining fd with
  | .error e => return .error e
  | .ok bs =>
    advance fd bs.length
    return .ok bs

def put (bs : Bytes) : Run Unit := do
  let _ ← write 1 bs

def putError (bs : Bytes) : Run Unit := do
  let _ ← write 2 bs

/-- Complain: the name of the shell, the line, and the builtin at work stand in front. -/
def complain (message : Bytes) : Run Unit := do
  let p ← self
  let label := match p.label with
    | some l => l ++ bytes ": "
    | none => []
  let place := p.name ++ bytes ": " ++ ascii (decimal p.line) ++ bytes ": "
  putError (place ++ label ++ message ++ [0x0A])

def misuse : Nat := 2

def failWith (message : Bytes) : Run α := do
  complain message
  setStatus misuse
  throw .failed

def Process.lookup? (p : Process) (name : Bytes) : Option Bytes :=
  (p.bindings.lookup name).bind Variable.value

def Process.has (p : Process) (option : Char) : Bool := p.options.contains option

def Process.withVariable (p : Process) (name : Bytes) (v : Variable) : Process :=
  { p with bindings := (name, v) :: p.bindings.filter (·.1 != name) }

def assign (name value : Bytes) (exported : Bool := false) : Run Unit := do
  let p ← self
  let old := (p.bindings.lookup name).getD ⟨none, false, false⟩
  if old.fixed then failWith (name ++ bytes ": is read only")
  update (·.withVariable name
    { old with value := some value, exported := old.exported || exported || p.has 'a' })

def Process.environment (p : Process) : List (Bytes × Bytes) :=
  p.bindings.filterMap fun v =>
    if v.2.exported then v.2.value.map fun value => (v.1, value) else none

def pathOf (loc : Location) : Bytes :=
  if loc.isEmpty then [Path.separator] else loc.flatMap fun name => Path.separator :: name

/-- Run steps in another process and come back to the one at work, unless a signal has ended that.
The result is how the other one ended. -/
def within (p : Process) (steps : Run Unit) : Run Finish := do
  let before ← self
  update fun _ => p
  let outcome ← (tryCatch (do steps; return (none : Option Stop)) fun e => return some e)
  let after ← self
  update fun _ => before
  if let some signal := (← get).world.doomed.lookup before.id then throw (.killed before.id signal)
  match outcome with
  | none | some .exit | some .failed => return .exited (UInt8.ofNat after.status)
  | some (.ended f) => return f
  | some (.killed id signal) =>
    if id = p.id then return .killed signal else throw (.killed id signal)
  | some .exhausted => throw .exhausted

/-- A copy of the process at work with a number of its own. Of the traps it keeps the signals that
are passed over. -/
def fork : Run Process := do
  let s ← get
  let p := s.process
  let id := s.world.nextId
  let passed := s.world.traps.filter fun t => t.1.1 == p.id && t.2.isEmpty
  updateWorld fun w =>
    { w with nextId := id + 1, traps := passed.map (fun t => ((id, t.1.2), [])) ++ w.traps }
  return { p with id := id, ancestors := p.id :: p.ancestors, jobs := [], trapStatus := none }

def trap? (signal : Nat) : Run (Option Bytes) := do
  let s ← get
  return s.world.traps.lookup (s.process.id, signal)

def setTrap (signal : Nat) (action : Option Bytes) : Run Unit := do
  let id := (← self).id
  updateWorld fun w => { w with
    traps := (action.toList.map fun a => ((id, signal), a)) ++
      w.traps.filter (·.1 != (id, signal)) }

def hasTraps : Run Bool := do
  let s ← get
  return s.world.traps.any fun t => t.1.1 == s.process.id && !t.2.isEmpty

def statusOf : Finish → Nat
  | .exited code => code.toNat
  | .killed signal => 128 + signal

end ConsoleRelay.Shell
