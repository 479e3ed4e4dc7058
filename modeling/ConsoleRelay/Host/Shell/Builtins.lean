import ConsoleRelay.Host.Executable
import ConsoleRelay.Host.Shell.Condition
import ConsoleRelay.Host.Shell.Parser
import ConsoleRelay.Host.Shell.Printing
import ConsoleRelay.Host.Shell.Signal

/-!
Builtins: commands that the interpreter performs itself.

Those that run other commands are only named here. Each of the others takes its arguments and gives
its status.
-/
namespace ConsoleRelay.Shell

inductive Builtin where
  | break
  | cd
  | colon
  | command
  | continue
  | echo
  | eval
  | exec
  | exit
  | export
  | failure
  | getopts
  | ignored
  | kill
  | local
  | printf
  | pwd
  | read
  | readonly
  | return
  | set
  | shift
  | source
  | test
  | bracket
  | trap
  | type
  | umask
  | unset
  | wait
  deriving DecidableEq, Repr

namespace Builtin

def names : List (String × Builtin) := [
  (".", .source), (":", .colon), ("[", .bracket), ("alias", .ignored), ("bg", .ignored),
  ("break", .break), ("cd", .cd), ("chdir", .cd), ("command", .command), ("continue", .continue),
  ("echo", .echo), ("eval", .eval), ("exec", .exec), ("exit", .exit), ("export", .export),
  ("false", .failure), ("fg", .ignored), ("getopts", .getopts), ("hash", .ignored),
  ("jobs", .ignored), ("kill", .kill), ("local", .local), ("printf", .printf), ("pwd", .pwd),
  ("read", .read), ("readonly", .readonly), ("return", .return), ("set", .set), ("shift", .shift),
  ("test", .test), ("times", .ignored), ("trap", .trap), ("true", .colon), ("type", .type),
  ("ulimit", .ignored), ("umask", .umask), ("unalias", .ignored), ("unset", .unset),
  ("wait", .wait)]

def ofName? (name : Bytes) : Option Builtin :=
  (names.find? fun b => bytes b.1 == name).map Prod.snd

/-- Whether a name is that of a builtin whose faults end the shell. -/
def isSpecialName (name : Bytes) : Bool :=
  specialBuiltins.any (bytes · == name) || name == bytes "local"

def takesAssignments : Builtin → Bool
  | .export | .readonly | .local => true
  | _ => false

end Builtin

def badNumber (arg : Bytes) : Run α := failWith (bytes "Illegal number: " ++ arg)

def largestNumber : Nat := 2147483647

def numberOf (arg : Bytes) : Run Nat := do
  match Condition.number arg with
  | .ok (.ofNat n) => if n ≤ largestNumber then return n else badNumber arg
  | _ => badNumber arg

def withoutOptions (args : List Bytes) : Run (List Bytes) := do
  match args with
  | arg :: rest =>
    match arg with
    | [0x2D, 0x2D] => return rest
    | 0x2D :: b :: _ => failWith (bytes "Illegal option -" ++ [b])
    | _ => return args
  | [] => return []

/-- The letters in front of the arguments, each of which has to be known. -/
def leadingLetters (known : List Char) : List Bytes → Run (List Char × List Bytes)
  | [] => return ([], [])
  | arg :: rest => do
    match arg with
    | [0x2D, 0x2D] => return ([], rest)
    | 0x2D :: b :: more =>
      let letters := (b :: more).map fun c => Char.ofNat c.toNat
      match letters.find? fun c => !known.contains c with
      | some c => failWith (bytes "Illegal option -" ++ [byte c])
      | none =>
        let (others, args) ← leadingLetters known rest
        return (letters ++ others, args)
    | _ => return ([], arg :: rest)

def singleQuoted (bs : Bytes) : Bytes :=
  0x27 :: bs.flatMap (fun b => if b == 0x27 then bytes "'\"'\"'" else [b]) ++ [0x27]

def print (name : Bytes) (bs : Bytes) : Run Nat := do
  if bs.isEmpty then return 0
  else
    match ← write 1 bs with
    | .ok _ => return 0
    | .error _ =>
      complain (name ++ bytes ": I/O error")
      return 1

def printfBuiltin (args : List Bytes) : Run Nat := do
  match ← withoutOptions args with
  | [] => failWith (bytes "usage: printf format [arg ...]")
  | format :: args =>
    let (halt, s) := Printing.run format args
    s.faults.forM fun f => complain (f.1 ++ bytes ": " ++ bytes f.2.message)
    match halt with
    | some (.fault message) =>
      complain message
      let _ ← print (bytes "printf") s.printed
      setStatus misuse
      throw .failed
    | _ =>
      let status ← print (bytes "printf") s.printed
      return if s.faults.isEmpty then status else 1

def testBuiltin (bracket : Bool) (args : List Bytes) : Run Nat := do
  if bracket && args.getLast? != some (bytes "]") then failWith (bytes "missing ]")
  else
    match Condition.evaluate (← disk) (if bracket then args.dropLast else args) with
    | .ok holds => return if holds then 0 else 1
    | .error message => failWith message

/-- Change the directory: to the one named, to the one before for a dash, or home. A path is
followed by its names alone. -/
def cdBuiltin (args : List Bytes) : Run Nat := do
  let back := args.head? == some (bytes "-")
  let (_, args) ← if back then pure ([], args) else leadingLetters ['L', 'P'] args
  let p ← self
  let valueOf := fun name => (p.lookup? (bytes name)).getD []
  let target := if back then valueOf "OLDPWD" else args.head?.getD (valueOf "HOME")
  let target := if target.isEmpty then Path.here else target
  let d ← disk
  let loc := d.place target
  if d.entry? loc == some .directory && target.length < Disk.pathLimit then
    update fun p => { p with directory := loc }
    assign (bytes "OLDPWD") (pathOf p.directory) true
    assign (bytes "PWD") (pathOf loc) true
    if back then put (pathOf loc ++ [0x0A])
    return 0
  else failWith (bytes "can't cd to " ++ target)

def listVariables (lead : Bytes) (which : Variable → Bool) : Run Nat := do
  let p ← self
  let vs := (p.bindings.filter fun v => which v.2).mergeSort fun a b => nameLe a.1 b.1
  put (vs.flatMap fun v =>
    lead ++ v.1 ++ (match v.2.value with
      | some value => 0x3D :: singleQuoted value
      | none => []) ++ [0x0A])
  return 0

def splitAssignment (arg : Bytes) : Bytes × Option Bytes :=
  let name := arg.takeWhile (· != 0x3D)
  (name, if name.length < arg.length then some (arg.drop (name.length + 1)) else none)

def markVariables (mark : Variable → Variable) (args : List Bytes) : Run Nat := do
  args.forM fun arg => do
    let (name, value) := splitAssignment arg
    demandName name
    if let some value := value then assign name value
    update fun p => p.withVariable name (mark ((p.bindings.lookup name).getD ⟨none, false, false⟩))
  return 0

def markBuiltin (lead : String) (which : Variable → Bool) (mark : Variable → Variable)
    (args : List Bytes) : Run Nat := do
  let (given, args) ← leadingLetters ['p'] args
  if args.isEmpty || given.contains 'p' then listVariables (bytes lead) which
  else markVariables mark args

def localBuiltin (args : List Bytes) : Run Nat := do
  if (← self).locals.isEmpty then failWith (bytes "not in a function")
  args.forM fun arg => do
    let (name, value) := splitAssignment arg
    demandName name
    let p ← self
    let old := p.bindings.lookup name
    update fun p => { p with locals := match p.locals with
      | frame :: frames =>
        (if frame.any (·.1 == name) then frame else (name, old) :: frame) :: frames
      | [] => [] }
    if let some value := value then assign name value
  return 0

def unsetBuiltin (args : List Bytes) : Run Nat := do
  let (given, args) ← leadingLetters ['f', 'v'] args
  args.forM fun name => do
    if given.contains 'f' then
      update fun p => { p with functions := p.functions.filter (·.1 != name) }
    else
      demandName name
      let p ← self
      if (p.bindings.lookup name).any Variable.fixed then failWith (name ++ bytes ": is read only")
      update fun p => { p with bindings := p.bindings.filter (·.1 != name) }
  return 0

def optionNames : List (String × Char) := [
  ("errexit", 'e'), ("noglob", 'f'), ("ignoreeof", 'I'), ("interactive", 'i'), ("monitor", 'm'),
  ("noexec", 'n'), ("stdin", 's'), ("xtrace", 'x'), ("verbose", 'v'), ("vi", 'V'), ("emacs", 'E'),
  ("noclobber", 'C'), ("allexport", 'a'), ("notify", 'b'), ("nounset", 'u'), ("privileged", 'p'),
  ("nolog", '.'), ("debug", ':')]

def setOption (on : Bool) (c : Char) : Run Unit :=
  update fun p =>
    { p with options := if on then c :: p.options.filter (· != c) else p.options.filter (· != c) }

def demandOption (on : Bool) (c : Char) : Run Unit := do
  if optionLetters.contains c then setOption on c
  else failWith (bytes "Illegal option -" ++ [byte c])

def charsOf (bs : Bytes) : List Char := bs.map fun b => Char.ofNat b.toNat

def listOptions (table : Bool) : Run Unit := do
  let p ← self
  if table then put (bytes "Current option settings\n")
  optionNames.forM fun o =>
    if table then
      put (Format.Layout.pad ⟨{ left := true }, 16, none⟩ (bytes o.1) ++
        bytes (if p.has o.2 then "on\n" else "off\n"))
    else put (bytes ((if p.has o.2 then "set -o " else "set +o ") ++ o.1 ++ "\n"))

/-- What options ask for besides settings: whether commands follow, whether `--` ended them, and the
arguments after them. -/
structure Asked where
  commands : Bool := false
  dashes : Bool := false
  rest : List Bytes
  deriving DecidableEq, Repr

/-- One letter of an option. An `o` takes a name from the arguments. `starts` tells whether a shell
is started with them. -/
def takeLetter (starts on : Bool) (a : Asked) (c : Char) : Run Asked := do
  if c == 'c' && starts then return { a with commands := true }
  else if c == 'l' && starts then return a
  else if c == 'o' then
    match a.rest with
    | [] =>
      listOptions on
      return a
    | name :: rest =>
      match optionNames.find? fun o => bytes o.1 == name with
      | some o =>
        setOption on o.2
        return { a with rest := rest }
      | none => failWith (bytes "Illegal option -o " ++ name)
  else
    demandOption on c
    return a

/-- Options in front of arguments. The first argument bounds their number. -/
def readOptions (starts : Bool) : Nat → Asked → Run Asked
  | 0, a => return a
  | n + 1, a => do
    match a.rest with
    | [0x2D] :: rest =>
      if !starts then
        setOption false 'x'
        setOption false 'v'
      return { a with rest := rest }
    | [0x2D, 0x2D] :: rest => return { a with dashes := true, rest := rest }
    | (0x2D :: letters) :: rest =>
      let a := { a with rest := rest }
      readOptions starts n (← (charsOf letters).foldlM (takeLetter starts true) a)
    | (0x2B :: letters) :: rest =>
      let a := { a with rest := rest }
      readOptions starts n (← (charsOf letters).foldlM (takeLetter starts false) a)
    | _ => return a

def setBuiltin (args : List Bytes) : Run Nat := do
  if args.isEmpty then listVariables [] fun v => v.value.isSome
  else
    let a ← readOptions false args.length { rest := args }
    if !a.rest.isEmpty || a.dashes then update fun p => { p with args := a.rest }
    return 0

def shiftBuiltin (args : List Bytes) : Run Nat := do
  let n ← match args.head? with
    | some arg => numberOf arg
    | none => pure 1
  if (← self).args.length < n then failWith (bytes "can't shift that many")
  update fun p => { p with args := p.args.drop n }
  return 0

def skipLoops (again : Bool) (args : List Bytes) : Run Nat := do
  let n ← match args.head? with
    | some arg =>
      let n ← numberOf arg
      if n = 0 then badNumber arg
      pure n
    | none => pure 1
  let p ← self
  let n := min n p.loops
  if n ≠ 0 then update fun p => { p with skip := .loops n again }
  return 0

def endStatus (args : List Bytes) : Run Nat := do
  match args.head? with
  | some arg => numberOf arg
  | none => return (← self).status

/-- End the shell. In a trap the status before it counts. -/
def exitBuiltin (args : List Bytes) : Run Nat := do
  let status ← match args.head? with
    | some arg => numberOf arg
    | none => do
      let p ← self
      pure (p.trapStatus.getD p.status)
  setStatus (status % 256)
  throw .exit

def returnBuiltin (args : List Bytes) : Run Nat := do
  let status ← endStatus args
  update fun p => { p with skip := .function }
  return status

/-- A line as cells: a backslash quotes what follows it, unless the line is raw. -/
def lineCells (raw : Bool) : Bytes → List Cell
  | [] => []
  | [b] => [.mark ⟨b, false⟩ true]
  | b :: c :: rest =>
    if b == 0x5C && !raw then .mark ⟨c, true⟩ false :: lineCells raw rest
    else .mark ⟨b, false⟩ true :: lineCells raw (c :: rest)

/-- The bytes of a line, and whether it was ended. A backslash joins the next one to it. -/
def takeLine (raw : Bool) : Bytes → Bytes × Nat × Bool
  | [] => ([], 0, false)
  | [b] => if b == 0x0A then ([], 1, true) else ([b], 1, false)
  | b :: c :: rest =>
    if b == 0x0A then ([], 1, true)
    else if b == 0x5C && !raw then
      let (line, n, ended) := takeLine raw rest
      if c == 0x0A then (line, n + 2, ended) else (b :: c :: line, n + 2, ended)
    else
      let (line, n, ended) := takeLine raw (c :: rest)
      (b :: line, n + 1, ended)

def Cell.separates (which : UInt8 → Bool) : Cell → Bool
  | .mark m splits => splits && which m.byte
  | _ => false

/-- The values of a line for a number of names. The last one takes what is left, without white
separators at its end, and without a separator that only ends it. -/
def lineFields (separators : Bytes) : Nat → List Cell → List Bytes
  | 0, _ => []
  | n + 1, cs =>
    let white := Cell.separates fun b => separators.contains b && isWhite b
    let any := Cell.separates separators.contains
    let cs := cs.dropWhile white
    let field := cs.takeWhile fun c => !any c
    let after := (cs.drop field.length).dropWhile white
    let after := match after with
      | c :: rest => if any c then rest.dropWhile white else after
      | [] => []
    if n = 0 then
      let last := if after.isEmpty then field else (cs.reverse.dropWhile white).reverse
      [Cell.text last]
    else Cell.text field :: lineFields separators n after

def readBuiltin (args : List Bytes) : Run Nat := do
  let (given, names) ← leadingLetters ['r', 'p'] args
  let names := if given.contains 'p' then names.drop 1 else names
  if names.isEmpty then failWith (bytes "arg count")
  else
    let input := (← remaining 0).toOption.getD []
    let raw := given.contains 'r'
    let (line, taken, ended) := takeLine raw input
    advance 0 taken
    let p ← self
    let values := lineFields p.separators names.length (lineCells raw line)
    (names.zip values).forM fun v => do
      demandName v.1
      assign v.1 v.2
    return if ended then 0 else 1

/-- The name of a signal in a list; 0 is the end of a process. -/
def signalName (signal : Nat) : Bytes :=
  if signal = 0 then bytes "EXIT"
  else
    match Signal.names[signal - 1]? with
    | some name => bytes name
    | none => decimalBytes signal

def trapBuiltin (args : List Bytes) : Run Nat := do
  let args ← if args.head? == some (bytes "-") then pure args else withoutOptions args
  match args with
  | [] =>
    (List.range (Signal.largest + 1)).forM fun signal => do
      match ← trap? signal with
      | some action =>
        put (bytes "trap -- " ++ singleQuoted action ++ [0x20] ++ signalName signal ++ [0x0A])
      | none => return
    return 0
  | first :: rest =>
    let resets := rest.isEmpty || first == bytes "-" || (!first.isEmpty && first.all isDigit)
    let action := if resets then none else some first
    let signals := if resets && first != bytes "-" then first :: rest else rest
    let rec change : List Bytes → Run Nat
      | [] => return 0
      | name :: names => do
        match Signal.ofBytes? name with
        | none =>
          putError (bytes "trap: " ++ name ++ bytes ": bad trap\n")
          return 1
        | some signal =>
          setTrap signal action
          change names
    change signals

def killUse : Bytes :=
  bytes "Usage: kill [-s sigspec | -signum | -sigspec] [pid | job]... or\nkill -l [exitstatus]"

/-- Send a signal to processes. A number after a dash names a group, of which there is none. -/
def sendAll (signal : Nat) (targets : List Bytes) : Run Nat := do
  if targets.isEmpty then failWith killUse
  let results ← targets.mapM fun target => do
    let group := target.head? == some 0x2D
    let n ← numberOf (if group then target.drop 1 else target)
    if !group && (← Signal.send n signal) then return true
    else
      complain (bytes "No such process\n")
      return false
  return if results.all id then 0 else 1

def killBuiltin (args : List Bytes) : Run Nat := do
  match args with
  | [] => failWith killUse
  | first :: rest =>
    if first == bytes "-l" then
      match rest with
      | [] =>
        put (bytes "0\n" ++ (Signal.names.flatMap fun s => bytes s ++ [0x0A]))
        return 0
      | number :: _ =>
        let n ← numberOf number
        let signal := if 128 < n then n - 128 else n
        if signal = 0 || Signal.largest < signal then
          failWith (bytes "invalid signal number or exit status: " ++ number)
        put (signalName signal ++ [0x0A])
        return 0
    else if first == bytes "-s" then
      match rest with
      | [] => failWith (bytes "No arg for -s option")
      | name :: targets =>
        match Signal.ofBytes? name with
        | some signal => sendAll signal (← withoutOptions targets)
        | none => failWith (bytes "invalid signal number or name: " ++ name)
    else if first == bytes "--" then sendAll 15 rest
    else
      match first with
      | 0x2D :: name =>
        match Signal.ofBytes? name with
        | some signal => sendAll signal rest
        | none => failWith (bytes "Illegal option -" ++ name.take 1)
      | _ => sendAll 15 args

def umaskBuiltin (args : List Bytes) : Run Nat := do
  let p ← self
  match args with
  | [] =>
    let layout : Format.Layout := ⟨{ zero := true }, 4, none⟩
    put (layout.padNumber true [] (Nat.toDigits 8 p.mask) ++ [0x0A])
    return 0
  | mode :: _ =>
    if mode == bytes "-S" then
      let rights := fun (n : Nat) =>
        (if n / 4 % 2 = 0 then "r" else "") ++ (if n / 2 % 2 = 0 then "w" else "") ++
          (if n % 2 = 0 then "x" else "")
      put (bytes ("u=" ++ rights (p.mask / 64) ++ ",g=" ++ rights (p.mask / 8 % 8) ++ ",o=" ++
        rights (p.mask % 8) ++ "\n"))
      return 0
    else if !mode.isEmpty && mode.all isOctal then
      update fun p => { p with mask := mode.foldl (fun n b => n * 8 + (b.toNat - 0x30)) 0 % 512 }
      return 0
    else if mode.head?.any isDigit then badNumber mode
    else failWith (bytes "Illegal mode: " ++ mode)

def Process.searchPath (p : Process) : List Path :=
  (splitPath ((p.lookup? (bytes "PATH")).getD [])).map fun dir =>
    if dir.isEmpty then Path.here else dir
where
  /-- The pieces of a search path. -/
  splitPath : Bytes → List Bytes
    | [] => [[]]
    | b :: bs =>
      match splitPath bs with
      | [] => [[b]]
      | piece :: more => if b == 0x3A then [] :: piece :: more else (b :: piece) :: more

def isExecutable : Entry → Bool
  | .file _ executable => executable
  | .tool _ => true
  | _ => false

inductive Found where
  | path (p : Path)
  | denied
  | nothing
  deriving DecidableEq, Repr

def findProgram (d : Disk) (name : Bytes) : List Path → Found
  | [] => .nothing
  | dir :: dirs =>
    let path := if dir == Path.here then Path.here ++ Path.separator :: name else Path.join dir name
    match d.find path with
    | .ok e =>
      if isExecutable e then .path path
      else
        match findProgram d name dirs with
        | .nothing => .denied
        | found => found
    | .error _ => findProgram d name dirs

def describeCommand (brief : Bool) (name : Bytes) : Run Nat := do
  let p ← self
  let d ← disk
  let say := fun (long : String) => do
    put ((if brief then name else name ++ bytes (" is " ++ long)) ++ [0x0A])
    return 0
  let located := fun (path : Path) => do
    put ((if brief then path else name ++ bytes " is " ++ path) ++ [0x0A])
    return 0
  if (Keyword.ofBytes? name).isSome then say "a shell keyword"
  else if (p.functions.lookup name).isSome then say "a shell function"
  else if (Builtin.ofName? name).isSome then
    say (if Builtin.isSpecialName name then "a special shell builtin" else "a shell builtin")
  else
    let found :=
      if name.contains Path.separator then
        match d.find name with
        | .ok e => if isExecutable e then Found.path name else .nothing
        | .error _ => .nothing
      else findProgram d name p.searchPath
    match found with
    | .path path => located path
    | _ =>
      if !brief then put (name ++ bytes ": not found\n")
      return 127

def typeBuiltin (args : List Bytes) : Run Nat := do
  let results ← args.mapM (describeCommand false)
  return results.foldl (fun a b => if b = 0 then a else b) 0

/-- How a letter is treated by `getopts`: not at all, on its own, or with a value. -/
def letterKind (letters : Bytes) (c : UInt8) : Option Bool :=
  match letters with
  | [] => none
  | b :: rest =>
    let valued := rest.head? == some 0x3A
    if b == c && b != 0x3A then some valued else letterKind rest c

def getoptsBuiltin (args : List Bytes) : Run Nat := do
  match args with
  | letters :: name :: given =>
    let p ← self
    let given := if given.isEmpty then p.args else given
    let index := natOf (((p.lookup? (bytes "OPTIND")).getD (bytes "1")).takeWhile isDigit)
    let offset := if p.optionPlace.1 = index then p.optionPlace.2 else 0
    let within := if offset = 0 then [] else (given.getD (index - 2) []).drop offset
    let silent := letters.head? == some 0x3A
    let finish (next offset : Nat) (option : Bytes) (status : Nat) : Run Nat := do
      assign (bytes "OPTIND") (decimalBytes next)
      demandName name
      assign name option
      update fun p => { p with optionPlace := (next, offset) }
      return status
    let forget : Run Unit :=
      update fun p => { p with bindings := p.bindings.filter (·.1 != bytes "OPTARG") }
    let current : Option (Bytes × Nat × Nat) :=
      if !within.isEmpty then some (within, index, offset)
      else
        match given[index - 1]? with
        | some (0x2D :: c :: more) => some (c :: more, index + 1, 1)
        | _ => none
    match current with
    | none => finish index 0 (bytes "?") 1
    | some ([0x2D], next, _) => finish next 0 (bytes "?") 1
    | some ([], next, _) => finish next 0 (bytes "?") 1
    | some (c :: more, next, offset) =>
      let after := if more.isEmpty then 0 else offset + 1
      match letterKind letters c with
      | none =>
        if silent then assign (bytes "OPTARG") [c]
        else
          putError (bytes "Illegal option -" ++ [c, 0x0A])
          forget
        finish next after (bytes "?") 0
      | some false =>
        assign (bytes "OPTARG") []
        finish next after [c] 0
      | some true =>
        if !more.isEmpty then
          assign (bytes "OPTARG") more
          finish next 0 [c] 0
        else
          match given[next - 1]? with
          | some value =>
            assign (bytes "OPTARG") value
            finish (next + 1) 0 [c] 0
          | none =>
            if silent then
              assign (bytes "OPTARG") [c]
              finish next 0 (bytes ":") 0
            else
              putError (bytes "No arg for -" ++ [c] ++ bytes " option\n")
              forget
              finish next 0 (bytes "?") 0
  | _ => failWith (bytes "Usage: getopts optstring var [arg]")

def Builtin.perform : Builtin → List Bytes → Run Nat
  | .echo, args => print (bytes "echo") (Shell.echo args)
  | .printf, args => printfBuiltin args
  | .test, args => testBuiltin false args
  | .bracket, args => testBuiltin true args
  | .failure, _ => return 1
  | .cd, args => cdBuiltin args
  | .pwd, args => do
    let _ ← leadingLetters ['L', 'P'] args
    print (bytes "pwd") (pathOf (← self).directory ++ [0x0A])
  | .export, args =>
    markBuiltin "export " Variable.exported (fun v => { v with exported := true }) args
  | .readonly, args =>
    markBuiltin "readonly " Variable.fixed (fun v => { v with fixed := true }) args
  | .local, args => localBuiltin args
  | .unset, args => unsetBuiltin args
  | .set, args => setBuiltin args
  | .shift, args => shiftBuiltin args
  | .break, args => skipLoops false args
  | .continue, args => skipLoops true args
  | .exit, args => exitBuiltin args
  | .return, args => returnBuiltin args
  | .read, args => readBuiltin args
  | .trap, args => trapBuiltin args
  | .kill, args => killBuiltin args
  | .umask, args => umaskBuiltin args
  | .type, args => typeBuiltin args
  | .getopts, args => getoptsBuiltin args
  | .colon, _ | .command, _ | .eval, _ | .exec, _ | .ignored, _ | .source, _ | .wait, _ =>
    return 0

end ConsoleRelay.Shell
