import ConsoleRelay.Host.Shell.Builtins
import ConsoleRelay.Host.Shell.FileTools
import ConsoleRelay.Host.Shell.Redirecting

/-!
The command interpreter of the machine that stands in for the operating system: running commands,
scripts and the programs they start.

All functions of the mutual block take a bound on the depth of their calls first, and a loop goes
one step deeper with every round.
-/
namespace ConsoleRelay.Shell

open ConsoleRelay.Launch (Finish Written Child)

/-- How a command is run: whether its status is only tested, and whether its process ends with
it. -/
structure Mode where
  tested : Bool := false
  last : Bool := false
  deriving DecidableEq, Repr

inductive Meaning where
  | builtin (b : Builtin) (special : Bool)
  | function (f : Function)
  | program

/-- The meaning of a name. A function is never named like a special builtin and goes before the
others. -/
def Process.meaning (p : Process) (name : Bytes) (functions : Bool) : Meaning :=
  match (if functions then p.functions.lookup name else none), Builtin.ofName? name with
  | some f, _ => .function f
  | none, some b => .builtin b (Builtin.isSpecialName name)
  | none, none => .program

/-- The fields of an argument that may be an assignment, which is not split. -/
def Word.declared (substitute : Command → Run Bytes) (w : Word) : Run (List Bytes) := do
  match assignment? w with
  | some (name, value) => return [name ++ 0x3D :: (← Word.text substitute value)]
  | none => w.fields substitute

inductive Round where
  | goesOn
  | again
  | ends
  deriving DecidableEq, Repr

def nextRound : Run Round := do
  match (← self).skip with
  | .nothing => return .goesOn
  | .function => return .ends
  | .loops n again =>
    if n ≤ 1 then
      update fun p => { p with skip := .nothing }
      return if again then .again else .ends
    else
      update fun p => { p with skip := .loops (n - 1) again }
      return .ends

def skips : Run Bool := return (← self).skip != .nothing

def checkStatus (mode : Mode) : Run Unit := do
  let p ← self
  if !mode.tested && p.has 'e' && p.status ≠ 0 then throw .exit

/-- The signal that comes first of those that wait for the process at work. -/
def nextSignal : Run (Option Nat) := do
  let s ← get
  let mine := (s.world.signals.filter (·.1 == s.process.id)).map Prod.snd
  return mine.min?

def forgetSignal (signal : Nat) : Run Unit := do
  let id := (← self).id
  updateWorld fun w => { w with signals := w.signals.filter (· != (id, signal)) }

/-- Set the variables in front of a command one after the other, so that a value may use those
before it. The result is the values. -/
def assignEach (substitute : Command → Run Bytes) (exported : Bool) :
    List (Bytes × Word) → Run (List (Bytes × Bytes))
  | [] => return []
  | (name, word) :: rest => do
    let value ← Word.text substitute word
    assign name value exported
    return (name, value) :: (← assignEach substitute exported rest)

def putBack (saved : List (Bytes × Option Variable)) : Run Unit :=
  saved.forM fun v => update fun p =>
    match v.2 with
    | some old => p.withVariable v.1 old
    | none => { p with bindings := p.bindings.filter (·.1 != v.1) }

/-- Show a command before it is run, on the error stream as it was before its redirections. -/
def showCommand (errors : Option Nat) (values : List (Bytes × Bytes)) (args : List Bytes) :
    Run Unit := do
  let p ← self
  if p.has 'x' then
    let shown := values.map (fun v => v.1 ++ 0x3D :: v.2) ++ args
    let lead := (p.lookup? (bytes "PS4")).getD []
    let now := p.descriptors.lookup 2
    setDescriptor 2 errors
    putError (lead ++ (shown.intersperse [0x20]).flatten ++ [0x0A])
    setDescriptor 2 now

def commandOptions (args : List Bytes) : Run (Option Bool × List Bytes) := do
  let (given, rest) ← leadingLetters ['p', 'v', 'V'] args
  let kind := if given.contains 'V' then some false
    else if given.contains 'v' then some true
    else none
  return (kind, rest)

def defaultPath : Bytes :=
  bytes "/usr/local/sbin:/usr/local/bin:/usr/sbin:/usr/bin:/sbin:/bin"

def initialVariables (p : Process) : List (Bytes × Variable) :=
  let plain := fun (name : String) (value : Bytes) =>
    (bytes name, (⟨some value, false, false⟩ : Variable))
  let imported := (p.environment.filter fun v =>
    isName v.1 && ["IFS", "PWD", "PPID"].all (bytes · != v.1)).map fun v =>
      (v.1, (⟨some v.2, true, false⟩ : Variable))
  let own := [
    plain "PATH" defaultPath, plain "IFS" defaultSeparators, plain "OPTIND" (bytes "1"),
    plain "PS1" (bytes "$ "), plain "PS2" (bytes "> "), plain "PS4" (bytes "+ "),
    (bytes "PWD", ⟨some (pathOf p.directory), true, false⟩),
    plain "PPID" (decimalBytes (p.ancestors.headD (p.id - 1)))]
  imported ++ own.filter fun v => !imported.any (·.1 == v.1)

def Process.asShell (p : Process) (name : Bytes) : Process :=
  { id := p.id, shellId := p.id, ancestors := p.ancestors, name := name,
    bindings := initialVariables p, directory := p.directory, descriptors := p.descriptors,
    mask := p.mask }

def startStatus : OsError → Nat
  | .notFound | .notADirectory | .nameTooLong | .tooManyLevels => 127
  | _ => 126

def startError (name : Bytes) (e : OsError) : Bytes :=
  name ++ bytes ": " ++
    match e with
    | .notFound | .notADirectory => bytes "not found"
    | e => bytes e.description

/-- Drop the traps of the process at work, except for the signals that are passed over. -/
def dropTraps : Run Unit := do
  let id := (← self).id
  updateWorld fun w => { w with traps := w.traps.filter fun t => t.1.1 != id || t.2.isEmpty }

def callLimit : Nat := 1000

/-- Arguments of `env`: whether the environment starts empty, the variables it sets, and the
command. -/
def envArguments : List Bytes → Bool × List (Bytes × Bytes) × List Bytes
  | [] => (false, [], [])
  | arg :: args =>
    if arg == bytes "-i" || arg == bytes "-" then
      let (_, values, command) := envArguments args
      (true, values, command)
    else if arg == bytes "--" then (false, [], args)
    else if (bytes "-S").isPrefixOf arg then
      (false, [], ((splitOn 0x20 (arg.drop 2)).filter fun w => !w.isEmpty) ++ args)
    else
      match splitAssignment arg with
      | (name, some value) =>
        let (bare, values, command) := envArguments args
        (bare, (name, value) :: values, command)
      | (_, none) => (false, [], arg :: args)

/-- Run steps of a builtin, whose faults end the shell only if it is special. -/
def labelled (name : Bytes) (special : Bool) (steps : Run α) : Run (Option α) := do
  let before := (← self).label
  update fun p => { p with label := some name }
  let outcome ← tryCatch (Except.ok <$> steps) fun e => return Except.error e
  update fun p => { p with label := before }
  match outcome with
  | .ok a => return some a
  | .error e => if e = .failed && !special then return none else throw e

def linesUpTo (count : Nat) (text : Bytes) : Bytes := ((linesOf text).take count).flatten

def showLines (s : Source) (text : Bytes) : Run Unit := do
  if s.isFile && (← self).has 'v' then putError text

def endIfSpecial (special : Bool) : Run Unit := if special then throw .failed else pure ()

mutual

def eval : Nat → Mode → Command → Run Unit
  | 0, _, _ => throw .exhausted
  | n + 1, mode, c => do
    if (← self).has 'n' then return
    runTraps n
    match c with
    | .nothing => pure ()
    | .simple line assignments words redirections =>
      evalSimple n mode line assignments words redirections
      checkStatus mode
    | .pipeline commands =>
      evalPipeline n mode none commands
      checkStatus mode
    | .negation c =>
      eval n { tested := true } c
      if !(← skips) then update fun p => { p with status := if p.status = 0 then 1 else 0 }
    | .both first second =>
      eval n { tested := true } first
      if (← self).status = 0 && !(← skips) then eval n mode second
    | .either first second =>
      eval n { tested := true } first
      if (← self).status ≠ 0 && !(← skips) then eval n mode second
    | .sequence first second =>
      eval n { tested := mode.tested } first
      if !(← skips) then eval n mode second
    | .background c =>
      let p ← fork
      let input ← newChannel .null
      let child := { p with descriptors := (0, input) :: p.descriptors.filter (·.1 != 0) }
      updateWorld fun w => { w with jobs := w.jobs ++ [⟨p.id, child, c, none⟩] }
      update fun q => { q with jobs := p.id :: q.jobs, status := 0 }
    | .redirected line c redirections =>
      update fun p => { p with line := line }
      let rs ← redirections.mapM (Redirection.prepare (substitute n))
      restoring rs do
        if ← performAll rs then eval n { tested := mode.tested } c
    | .subshell line c redirections =>
      update fun p => { p with line := line }
      let rs ← redirections.mapM (Redirection.prepare (substitute n))
      let finish ← within (← fork) (conclude n do
        if ← performAll rs then eval n { tested := mode.tested, last := true } c)
      Signal.announce finish
      setStatus (statusOf finish)
      checkStatus mode
    | .conditional test yes no =>
      eval n { tested := true } test
      if !(← skips) then
        if (← self).status = 0 then eval n mode yes
        else
          match no with
          | some no => eval n mode no
          | none => setStatus 0
    | .loop negated test body =>
      update fun p => { p with loops := p.loops + 1 }
      evalLoop n mode negated test body 0
      update fun p => { p with loops := p.loops - 1 }
    | .each line name words body =>
      update fun p => { p with line := line }
      let values ← Word.allFields (substitute n) words
      update fun p => { p with loops := p.loops + 1 }
      evalEach n mode name body values 0
      update fun p => { p with loops := p.loops - 1 }
    | .choose line word items =>
      update fun p => { p with line := line }
      let text ← Word.text (substitute n) word
      evalItems n mode text items
    | .define line name body =>
      update fun p =>
        { p with
          functions := (name, ⟨line, body⟩) :: p.functions.filter (·.1 != name), status := 0 }
    runTraps n
    if mode.last then throw .exit

def evalLoop : Nat → Mode → Bool → Command → Command → Nat → Run Unit
  | 0, _, _, _, _, _ => throw .exhausted
  | n + 1, mode, negated, test, body, status => do
    eval n { tested := true } test
    let failed := (← self).status ≠ 0
    match ← nextRound with
    | .ends =>
      if !(← skips) then setStatus status
    | .again => evalLoop n mode negated test body status
    | .goesOn =>
      if failed != negated then setStatus status
      else
        eval n { tested := mode.tested } body
        let status := (← self).status
        match ← nextRound with
        | .ends => return
        | _ => evalLoop n mode negated test body status

def evalEach : Nat → Mode → Bytes → Command → List Bytes → Nat → Run Unit
  | 0, _, _, _, _, _ => throw .exhausted
  | _ + 1, _, _, _, [], status => setStatus status
  | n + 1, mode, name, body, value :: values, _ => do
    assign name value
    eval n { tested := mode.tested } body
    let status := (← self).status
    match ← nextRound with
    | .ends => return
    | _ => evalEach n mode name body values status

def evalItems : Nat → Mode → Bytes → List (List Word × Command) → Run Unit
  | 0, _, _, _ => throw .exhausted
  | _ + 1, _, _, [] => setStatus 0
  | n + 1, mode, text, (patterns, body) :: items => do
    if ← patterns.anyM fun w => do return (← Word.pattern (substitute n) w).holds text then
      match body with
      | .nothing => setStatus 0
      | body => eval n mode body
    else evalItems n mode text items

/-- Run commands joined by pipes, each with what the one before it wrote. -/
def evalPipeline : Nat → Mode → Option Nat → List Command → Run Unit
  | 0, _, _, _ => throw .exhausted
  | _ + 1, _, _, [] => return
  | n + 1, mode, input, c :: commands => do
    let p ← fork
    let output ← if commands.isEmpty then pure none else some <$> newChannel (.buffer [] 0)
    let finish ← within p (conclude n do
      if input.isSome then setDescriptor 0 input
      if output.isSome then setDescriptor 1 output
      eval n { tested := mode.tested, last := true } c)
    if commands.isEmpty then
      Signal.announce finish
      setStatus (statusOf finish)
    evalPipeline n mode output commands

/-- Run a simple command: its words are expanded first, then redirections are made, then variables
are set. -/
def evalSimple : Nat → Mode → Nat → List (Bytes × Word) → List Word → List Redirection → Run Unit
  | 0, _, _, _, _, _ => throw .exhausted
  | n + 1, mode, line, assignments, words, redirections => do
    update fun p => { p with line := line, outputStatus := 0 }
    let (first, others) ← Word.leading (substitute n) words
    let name := first.headD []
    let meaning := (← self).meaning name true
    let declares := match meaning with
      | .builtin b _ => b.takesAssignments
      | _ => false
    let more ← others.mapM fun w =>
      if declares then Word.declared (substitute n) w else w.fields (substitute n)
    let args := first ++ more.flatten
    let special := match meaning with
      | .builtin _ special => special
      | _ => false
    let replaces := match meaning with
      | .builtin .exec _ => true
      | _ => false
    let own := !args.isEmpty && !special
    let errors := (← self).descriptors.lookup 2
    let rs ← redirections.mapM (Redirection.prepare (substitute n))
    let body : Run Unit := do
      if ← performAll rs then
        let before := (← self).bindings
        let values ← assignEach (substitute n) (own || (replaces && 1 < args.length)) assignments
        let saved := if own then assignments.map fun a => (a.1, before.lookup a.1) else []
        showCommand errors values args
        match args with
        | [] => update fun p => { p with status := p.outputStatus }
        | _ :: rest => perform n mode meaning special name rest
        putBack saved
      else endIfSpecial special
    if replaces && args.length = 1 then body else restoring rs body

def perform : Nat → Mode → Meaning → Bool → Bytes → List Bytes → Run Unit
  | 0, _, _, _, _, _ => throw .exhausted
  | n + 1, mode, meaning, special, name, args => do
    match meaning with
    | .program => runProgram n mode (name :: args)
    | .function f => callFunction n mode f args
    | .builtin .command _ =>
      let asked ← labelled name special (commandOptions args)
      match asked with
      | none => return
      | some (some brief, target :: _) => setStatus (← describeCommand brief target)
      | some (none, target :: rest) =>
        perform n mode ((← self).meaning target false) false target rest
      | some (_, []) => setStatus 0
    | .builtin b _ =>
      match ← labelled name special (performBuiltin n mode b args) with
      | some status => setStatus status
      | none => return

def performBuiltin : Nat → Mode → Builtin → List Bytes → Run Nat
  | 0, _, _, _ => throw .exhausted
  | n + 1, mode, b, args => do
    match b with
    | .eval => evalText n { tested := mode.tested } false (args.intersperse [0x20]).flatten
    | .source => sourceFile n args
    | .exec =>
      match args with
      | [] => return 0
      | name :: rest =>
        replaceBy n name rest
        return 0
    | .wait => waitFor n args
    | b => b.perform args

/-- Run the commands of a text, which may be that of a file. The result is the status of the last
one, or 0. -/
def evalText : Nat → Mode → Bool → Bytes → Run Nat
  | 0, _, _, _ => throw .exhausted
  | n + 1, mode, isFile, text => do
    let s : Source := { rest := text, isFile := isFile, nextDocument := (← self).nextDocument }
    evalSource n mode s 0

def evalSource : Nat → Mode → Source → Nat → Run Nat
  | 0, _, _, _ => throw .exhausted
  | n + 1, mode, s, status => do
    match s.next with
    | .error e =>
      showLines s (linesUpTo (e.line + 1 - s.line) s.rest)
      update fun p => { p with line := e.line }
      failWith (bytes "Syntax error: " ++ e.message)
    | .ok (none, _) =>
      showLines s s.rest
      return status
    | .ok (some c, after) =>
      showLines s (s.rest.take (s.rest.length - after.rest.length))
      let s := after
      update fun p => { p with
        documents := s.documents ++ p.documents, nextDocument := s.nextDocument }
      eval n mode c
      let p ← self
      let status := match c with
        | .nothing => status
        | _ => p.status
      if ← skips then return status else evalSource n mode { s with documents := [] } status

def sourceFile : Nat → List Bytes → Run Nat
  | 0, _ => throw .exhausted
  | _ + 1, [] => return 0
  | n + 1, name :: _ => do
    let d ← disk
    let p ← self
    let found :=
      if name.contains Path.separator then some name
      else (p.searchPath.map fun dir => Path.join dir name).find? fun path => d.isFile path
    match found with
    | none => failWith (name ++ bytes ": not found")
    | some path =>
      match d.read path with
      | .error e => failWith (openError false path e)
      | .ok content =>
        update fun p => { p with label := some path }
        let status ← evalText n {} true content
        update fun p => { p with skip := if p.skip = .function then .nothing else p.skip }
        return status

def callFunction : Nat → Mode → Function → List Bytes → Run Unit
  | 0, _, _, _ => throw .exhausted
  | n + 1, mode, f, args => do
    let before ← self
    if callLimit ≤ before.locals.length then
      failWith (bytes "Maximum function recursion depth (" ++ decimalBytes callLimit ++
        bytes ") reached")
    update fun p => { p with
      args := args, loops := 0, functionLine := f.line, locals := [] :: p.locals }
    eval n { tested := mode.tested } f.body
    putBack ((← self).locals.headD [])
    update fun p => { p with
      args := before.args, loops := before.loops, functionLine := before.functionLine,
      locals := p.locals.drop 1, skip := if p.skip = .function then .nothing else p.skip }

/-- Run a program, whose name is searched for if it has no separator. -/
def runProgram : Nat → Mode → List Bytes → Run Unit
  | 0, _, _ => throw .exhausted
  | _ + 1, _, [] => return
  | n + 1, mode, name :: args => do
    let p ← self
    let d ← disk
    let found :=
      if name.contains Path.separator then Found.path name
      else findProgram d name p.searchPath
    match found with
    | .nothing =>
      complain (startError name .notFound)
      setStatus 127
    | .denied =>
      complain (startError name .permissionDenied)
      setStatus 127
    | .path path =>
      if mode.last && !(← hasTraps) then become n path name args
      else
        let finish ← within (← fork) (conclude n (become n path name args))
        Signal.announce finish
        setStatus (statusOf finish)

/-- Go on as another program, whose name is searched for if it has no separator. -/
def replaceBy : Nat → Bytes → List Bytes → Run Unit
  | 0, _, _ => throw .exhausted
  | n + 1, name, args => do
    let p ← self
    let d ← disk
    let found :=
      if name.contains Path.separator then Found.path name
      else findProgram d name p.searchPath
    match found with
    | .path path => become n path name args
    | .denied =>
      complain (startError name .permissionDenied)
      setStatus 126
      throw .exit
    | .nothing =>
      complain (startError name .notFound)
      setStatus 127
      throw .exit

/-- Go on as the program at a path. A file that is neither a program nor names one is a script. -/
def become : Nat → Path → Bytes → List Bytes → Run Unit
  | 0, _, _, _ => throw .exhausted
  | n + 1, path, name, args => do
    match Executable.resolve (← disk) Executable.chainLimit path name args with
    | .ok image => runImage n image
    | .error .badExecutable => runImage n ⟨.shell, bytes "/bin/sh", path :: args⟩
    | .error e =>
      complain (startError name e)
      setStatus (startStatus e)
      throw .exit

/-- Run a program of the machine in the process at work, which ends with it. -/
def runImage : Nat → Image → Run Unit
  | 0, _ => throw .exhausted
  | n + 1, image => do
    dropTraps
    match image.tool with
    | .shell =>
      update fun p => p.asShell image.name
      conclude n (runShell n image.args)
      throw (.ended (.exited (UInt8.ofNat (← self).status)))
    | .env =>
      update fun p => { p with name := image.name }
      let status ← runEnv n image.args
      throw (.ended (.exited (UInt8.ofNat status)))
    | tool =>
      if tool = .sleep then runJobs n
      update fun p => { p with name := image.name }
      let status ← Tool.run tool image.args
      throw (.ended (.exited (UInt8.ofNat status)))

def runEnv : Nat → List Bytes → Run Nat
  | 0, _ => throw .exhausted
  | n + 1, args => do
    let (bare, values, command) := envArguments args
    if bare then update fun p => { p with bindings := [] }
    values.forM fun v => update fun p => p.withVariable v.1 ⟨some v.2, true, false⟩
    match command with
    | [] => printenvTool []
    | name :: rest =>
      if name.head? == some 0x2D && name.length ≠ 1 then
        let option := name.drop 1
        reportUse (bytes "invalid option -- '" ++ option.take 1 ++ [0x27])
        return 125
      else
        let d ← disk
        let p ← self
        let image :=
          if name.contains Path.separator then
            Executable.resolve d Executable.chainLimit name name rest
          else Executable.search d name rest false
            (if (p.lookup? (bytes "PATH")).isSome then p.searchPath
              else [bytes "/bin", bytes "/usr/bin"])
        match image with
        | .ok image =>
          runImage n image
          return 0
        | .error .badExecutable =>
          runImage n ⟨.shell, bytes "/bin/sh", name :: rest⟩
          return 0
        | .error e =>
          report (refusal (inQuotes name) e)
          if name.any isSpace then report (bytes "use -[v]S to pass options in shebang lines")
          return if e = .notFound || e = .notADirectory then 127 else 126

/-- Run a shell by its arguments: commands after `-c`, a script file, or what it reads. -/
def runShell : Nat → List Bytes → Run Unit
  | 0, _ => throw .exhausted
  | n + 1, args => do
    let a ← readOptions true args.length { rest := args }
    if a.commands then
      match a.rest with
      | [] => failWith (bytes "-c requires an argument")
      | script :: rest =>
        update fun p => { p with name := rest.headD p.name, args := rest.tail }
        setStatus (← evalText n {} false script)
    else
      match a.rest with
      | file :: rest =>
        if (← self).has 's' then runInput n a.rest
        else
          let d ← disk
          match d.read file with
          | .error .isADirectory => return
          | .error e => failWith (openError false file e)
          | .ok content =>
            update fun p => { p with name := file, args := rest }
            setStatus (← evalText n {} true content)
      | [] => runInput n []

def runInput : Nat → List Bytes → Run Unit
  | 0, _ => throw .exhausted
  | n + 1, args => do
    setOption true 's'
    update fun p => { p with args := args }
    let script := (← readAll 0).toOption.getD []
    setStatus (← evalText n {} true script)

/-- Run steps to the end of a process, and its trap for the end after them. -/
def conclude : Nat → Run Unit → Run Unit
  | 0, _ => throw .exhausted
  | n + 1, steps => do
    tryCatch steps fun e => if e = .exit || e = .failed then return else throw e
    match ← trap? 0 with
    | none => return
    | some action =>
      setTrap 0 none
      let status := (← self).status
      update fun p => { p with skip := .nothing, loops := 0, trapStatus := some status }
      let left ← tryCatch (do let _ ← evalText n {} false action; return false) fun e =>
        if e = .exit || e = .failed then return true else throw e
      if !left then setStatus status

def runTraps : Nat → Run Unit
  | 0 => throw .exhausted
  | n + 1 => do
    match ← nextSignal with
    | none => return
    | some signal =>
      if ← skips then return
      forgetSignal signal
      match ← trap? signal with
      | none => return
      | some action =>
        let p ← self
        update fun q => { q with trapStatus := some (p.trapStatus.getD p.status) }
        let _ ← evalText n {} false action
        update fun q => { q with
          trapStatus := p.trapStatus
          status := if q.skip = .function then q.status else p.status }
        runTraps n

def runJobs : Nat → Run Unit
  | 0 => throw .exhausted
  | n + 1 => do
    match (← get).world.jobs.find? fun j => j.finish.isNone with
    | none => return
    | some job =>
      Signal.endJob job.id (.exited 0)
      let finish ← within job.process (conclude n (eval n { last := true } job.command))
      Signal.endJob job.id finish
      runJobs n

/-- Wait for jobs, and give the status of the last one that was named. -/
def waitFor : Nat → List Bytes → Run Nat
  | 0, _ => throw .exhausted
  | n + 1, args => do
    match args with
    | [] =>
      runJobs n
      return 0
    | arg :: rest =>
      if arg.head? == some 0x25 then failWith (bytes "No such job: " ++ arg)
      let id ← numberOf arg
      runJobs n
      let p ← self
      let job := (← get).world.jobs.find? fun j => j.id == id && p.jobs.contains id
      let finish := job.bind Job.finish
      let status ← match finish with
        | none => pure 127
        | some finish =>
          Signal.announce finish
          pure (statusOf finish)
      if rest.isEmpty then return status else waitFor n rest

def substitute : Nat → Command → Run Bytes
  | 0, _ => throw .exhausted
  | n + 1, c => do
    let p ← fork
    let output ← newChannel (.buffer [] 0)
    let finish ← within p (conclude n do
      setDescriptor 1 (some output)
      eval n { last := true } c)
    Signal.announce finish
    update fun p => { p with outputStatus := statusOf finish }
    let content := match (← get).world.channels[output]? with
      | some (.buffer bs _) => bs
      | _ => []
    return ((content.filter (· != 0)).reverse.dropWhile (· == 0x0A)).reverse

end

def depthLimit : Nat := 100000

def firstId : Nat := 4096

/-- Run a program on a disk to its end. The disk is left with what it did to the files. -/
def execute (environment : List (Bytes × Bytes)) (d : Disk) (image : Image) : Child × Disk :=
  let bindings := environment.map fun v => (v.1, (⟨some v.2, true, false⟩ : Variable))
  let p : Process := {
    id := firstId, shellId := firstId, name := image.name, bindings := bindings,
    directory := d.current, descriptors := [(0, 0), (1, 1), (2, 2)] }
  let world : World := { disk := d, channels := #[.null, .stream .output, .stream .errors] }
  let steps : Run Finish := do
    let finish ← within p (runImage depthLimit image)
    runJobs depthLimit
    return finish
  let (result, s) := (steps.run).run ⟨world, p⟩
  let finish := match result with
    | .ok f => f
    | .error _ => .killed 9
  (⟨finish, s.world.written.reverse⟩, { s.world.disk with current := d.current })

end ConsoleRelay.Shell
