import ConsoleRelay.Host.Shell.Condition
import ConsoleRelay.Host.Shell.Options
import ConsoleRelay.Host.Shell.Printing

/-!
Programs that read, make or print text.
-/
namespace ConsoleRelay.Shell

/-- The lines of a text, each with its end if it has one. -/
def linesOf : Bytes → List Bytes
  | [] => []
  | b :: bs =>
    if b == 0x0A then [b] :: linesOf bs
    else
      match linesOf bs with
      | [] => [[b]]
      | line :: more => (b :: line) :: more

def chomp (line : Bytes) : Bytes := if line.getLast? == some 0x0A then line.dropLast else line

def terminated (line : Bytes) : Bytes := chomp line ++ [0x0A]

/-- The content of the file that a program is given, or of its input. -/
def contentOf (name : Bytes) : Run (Except OsError Bytes) := do
  if name == bytes "-" then readAll 0
  else
    let d ← disk
    return d.read name

def inQuotes (name : Bytes) : Bytes := 0x27 :: name ++ [0x27]

def unclear : Bytes := bytes " \t\n!\"$&()*;<=>?[\\^|" ++ [0x60]

def clearly (name : Bytes) : Bytes :=
  let alone := [bytes "\x7b", bytes "\x7d"].contains name
  let first := name.head? == some (byte '#') || name.head? == some (byte '~')
  if name.isEmpty || alone || first || name.any unclear.contains then inQuotes name
  else if name.contains 0x27 then 0x22 :: name ++ [0x22]
  else name

def refusal (what : Bytes) (e : OsError) : Bytes := what ++ bytes ": " ++ bytes e.description

def fileRefusal (name : Bytes) (e : OsError) : Bytes := refusal (clearly name) e

/-- An error of a file that could not be opened for reading, in a complaint. -/
def unopened (name : Bytes) (e : OsError) : Bytes :=
  if e = .isADirectory then bytes "error reading " ++ refusal (inQuotes name) e
  else bytes "cannot open " ++ refusal (inQuotes name ++ bytes " for reading") e

/-- Run a step with the content of each file, or of the input if none is named. The status is 1 if
any of them could not be read. -/
def eachFile (message : Bytes → OsError → Bytes) (names : List Bytes)
    (step : Bytes → Bytes → Run Unit) : Run Nat := do
  let names := if names.isEmpty then [bytes "-"] else names
  let results ← names.mapM fun name => do
    match ← contentOf name with
    | .ok content =>
      step name content
      return true
    | .error e =>
      report (message name e)
      return false
  return if results.all id then 0 else 1

def joined (names : List Bytes) : Run (Bytes × Nat) := do
  let names := if names.isEmpty then [bytes "-"] else names
  let results ← names.mapM fun name => do
    match ← contentOf name with
    | .ok content => return (content, true)
    | .error e =>
      report (fileRefusal name e)
      return ([], false)
  return (results.flatMap Prod.fst, if results.all Prod.snd then 0 else 1)

/-- Where a program's input is read from: a location and a position in it. -/
def sourceOf (name : Bytes) : Run (Option (Location × Nat)) := do
  if name == bytes "-" then
    match ← channel? 0 with
    | some (_, .file loc pos ..) => return some (loc, pos)
    | _ => return none
  else
    let d ← disk
    return (d.locate name).toOption.map fun loc => (loc, 0)

/-- Whether a file is the one that the output goes to, and would be read from what was written. -/
def feedsItself (name : Bytes) : Run Bool := do
  let d ← disk
  match ← channel? 1, ← sourceOf name with
  | some (_, .file target written appends _ _), some (loc, pos) =>
    let size := match d.entry? loc with
      | some (.file content _) => content.length
      | _ => 0
    return target == loc && decide (pos < if appends then size else written)
  | _, _ => return false

def catTool (args : List Bytes) : Run Nat :=
  withOptions "unE" "" 1 args fun o => do
    let names := if o.operands.isEmpty then [bytes "-"] else o.operands
    let own ← names.filterM feedsItself
    own.forM fun name => report (name ++ bytes ": input file is output file")
    let others := names.filter fun name => !own.contains name
    let (content, failed) ←
      if others.isEmpty then pure ([], 0) else joined others
    let status := if own.isEmpty then failed else 1
    let lines := linesOf content
    let marked := if o.has 'E' then lines.map fun l =>
        if l.getLast? == some 0x0A then chomp l ++ bytes "$\n" else l
      else lines
    let numbered := if o.has 'n' then marked.mapIdx fun i l =>
        Format.Layout.pad ⟨{}, 6, none⟩ (decimalBytes (i + 1)) ++ [0x09] ++ l
      else marked
    put numbered.flatten
    return status

def teeTool (args : List Bytes) : Run Nat :=
  withOptions "ai" "" 1 args fun o => do
    let content := (← readAll 0).toOption.getD []
    put content
    let results ← o.operands.mapM fun name => do
      let d ← disk
      match d.locateFile name with
      | .error e =>
        report (fileRefusal name e)
        return false
      | .ok loc =>
        let old := match d.entry? loc with
          | some (.file bs _) => bs
          | _ => []
        let executable := match d.entry? loc with
          | some (.file _ x) => x
          | _ => false
        if d.entry? loc != some .null then
          setDisk (d.put loc (.file ((if o.has 'a' then old else []) ++ content) executable))
        return true
    return if results.all id then 0 else 1

/-- A count that may be written as an option of its own, as in `-3`. -/
def countOption : List Bytes → List Bytes
  | arg :: args =>
    match arg with
    | 0x2D :: b :: more =>
      if (b :: more).all isDigit then bytes "-n" :: (b :: more) :: args else arg :: args
    | arg => arg :: args
  | [] => []

/-- Print a part of each file. With several files each has its name above it. -/
def eachPart (o : Options) (part : Bytes → Bytes) : Run Nat := do
  let titled := 1 < o.operands.length && !o.has 'q'
  let names := if o.operands.isEmpty then [bytes "-"] else o.operands
  let mut first := true
  let mut status := 0
  for name in names do
    match ← contentOf name with
    | .error e =>
      report (unopened name e)
      status := 1
    | .ok content =>
      if titled then
        let title := if name == bytes "-" then bytes "standard input" else name
        put ((if first then [] else [0x0A]) ++ bytes "==> " ++ title ++ bytes " <==\n")
      first := false
      put (part content)
  return status

def headTool (args : List Bytes) : Run Nat :=
  withOptions "q" "nc" 1 (countOption args) fun o =>
    eachPart o fun content =>
      match o.value? 'c' with
      | some n => content.take (natOf n)
      | none => ((linesOf content).take (((o.value? 'n').map natOf).getD 10)).flatten

def lastOf {α : Type} (count : Bytes) (xs : List α) : List α :=
  match count with
  | 0x2B :: n => xs.drop (natOf n - 1)
  | 0x2D :: n => xs.drop (xs.length - natOf n)
  | n => xs.drop (xs.length - natOf n)

/-- The last lines or bytes of files, or those from a given one on. -/
def tailTool (args : List Bytes) : Run Nat :=
  withOptions "q" "nc" 1 (countOption args) fun o =>
    eachPart o fun content =>
      match o.value? 'c' with
      | some n => lastOf n content
      | none => (lastOf ((o.value? 'n').getD (bytes "10")) (linesOf content)).flatten

def wordCount : Bool → Bytes → Nat
  | _, [] => 0
  | inWord, b :: bs =>
    if isSpaceByte b then wordCount false bs
    else (if inWord then 0 else 1) + wordCount true bs

/-- Counts of lines, words and bytes of files and of all of them. The columns are as wide as the
number of all bytes. -/
def wcTool (args : List Bytes) : Run Nat :=
  withOptions "lwc" "" 1 args fun o => do
    let all := !o.has 'l' && !o.has 'w' && !o.has 'c'
    let counts := fun (bs : Bytes) =>
      (if all || o.has 'l' then [bs.count 0x0A] else []) ++
      (if all || o.has 'w' then [wordCount false bs] else []) ++
      (if all || o.has 'c' then [bs.length] else [])
    let d ← disk
    let sizes := o.operands.map fun name => (((d.read name).toOption.getD []).length)
    let width :=
      if (counts []).length = 1 && o.operands.length ≤ 1 then 1
      else if o.operands.isEmpty then 7
      else (decimal (sizes.foldl (· + ·) 0)).length
    let shown := fun (ns : List Nat) =>
      let cells := ns.map fun n => Format.Layout.pad ⟨{}, width, none⟩ (decimalBytes n)
      (cells.intersperse [0x20]).flatten
    let mut total := counts []
    let mut status := 0
    for name in (if o.operands.isEmpty then [bytes "-"] else o.operands) do
      match ← contentOf name with
      | .error e =>
        report (fileRefusal name e)
        status := 1
      | .ok content =>
        total := total.zipWith (· + ·) (counts content)
        put (shown (counts content) ++ (if o.operands.isEmpty then [] else 0x20 :: name) ++ [0x0A])
    if 1 < o.operands.length then put (shown total ++ bytes " total\n")
    return status

/-- Numbers from one to another. The first argument bounds how many. -/
def range (last step : Int) : Nat → Int → List Int
  | 0, _ => []
  | n + 1, i =>
    if (0 < step && last < i) || (step < 0 && i < last) then []
    else i :: range last step n (i + step)

def seqTool (args : List Bytes) : Run Nat := do
  match args.drop 3, args.find? fun a => (Condition.number a).toOption.isNone with
  | extra :: _, _ =>
    reportUse (bytes "extra operand " ++ inQuotes extra)
    return 1
  | [], some wrong =>
    reportUse (bytes "invalid floating point argument: " ++ inQuotes wrong)
    return 1
  | [], none =>
    let numbers := args.filterMap fun a => (Condition.number a).toOption
    match numbers with
    | [] =>
      reportUse (bytes "missing operand")
      return 1
    | one :: more =>
      let (first, step, last) := match more with
        | [] => (1, 1, one)
        | [last] => (one, 1, last)
        | step :: last :: _ => (one, step, last)
      if step == 0 then
        reportUse (bytes "invalid Zero increment value: '0'")
        return 1
      else
        put ((range last step ((last - first) / step + 1).toNat first).flatMap fun i =>
          ascii (signedDecimal i) ++ [0x0A])
        return 0

def leadingNumber (line : Bytes) : Int :=
  let rest := line.dropWhile isSpace
  match rest with
  | 0x2D :: r => -(natOf (r.takeWhile isDigit) : Int)
  | r => natOf (r.takeWhile isDigit)

def runs : List Bytes → List (Nat × Bytes)
  | [] => []
  | l :: ls =>
    match runs ls with
    | (n, m) :: more => if l == m then (n + 1, m) :: more else (1, l) :: (n, m) :: more
    | [] => [(1, l)]

/-- Lines in order. Nothing is printed if a file cannot be read. -/
def sortTool (args : List Bytes) : Run Nat :=
  withOptions "rnu" "" 2 args fun o => do
    let d ← disk
    match o.operands.filterMap fun name =>
        if name == bytes "-" then none else
        match d.read name with
        | .error e => some (name, e)
        | .ok _ => none with
    | (name, e) :: _ =>
      let lead := if e = .isADirectory then "read failed: " else "cannot read: "
      report (bytes lead ++ fileRefusal name e)
      return 2
    | [] =>
      let (content, _) ← joined o.operands
      let le := fun (a b : Bytes) =>
        if o.has 'n' then
          leadingNumber a < leadingNumber b || (leadingNumber a == leadingNumber b && nameLe a b)
        else nameLe a b
      let sorted := ((linesOf content).map chomp).mergeSort fun a b =>
        if o.has 'r' then le b a else le a b
      let kept := if o.has 'u' then (runs sorted).map Prod.snd else sorted
      put (kept.flatMap terminated)
      return 0

def uniqTool (args : List Bytes) : Run Nat :=
  withOptions "cdu" "" 1 args fun o => do
    let (content, status) ← joined (o.operands.take 1)
    let rs := (runs ((linesOf content).map chomp)).filter fun r =>
      (!o.has 'd' || 1 < r.1) && (!o.has 'u' || r.1 == 1)
    put (rs.flatMap fun r =>
      (if o.has 'c' then Format.Layout.pad ⟨{}, 7, none⟩ (decimalBytes r.1) ++ [0x20] else []) ++
        r.2 ++ [0x0A])
    return status

def splitOn (separator : UInt8) : Bytes → List Bytes
  | [] => [[]]
  | b :: bs =>
    match splitOn separator bs with
    | [] => [[b]]
    | piece :: more => if b == separator then [] :: piece :: more else (b :: piece) :: more

def listed (list : Bytes) (n : Nat) : Bool :=
  (splitOn (byte ',') list).any fun item =>
    match splitOn (byte '-') item with
    | [one] => natOf one == n
    | [low, high] => (low.isEmpty || natOf low ≤ n) && (high.isEmpty || n ≤ natOf high)
    | _ => false

def selected {α : Type} (list : Bytes) (xs : List α) : List α :=
  (xs.mapIdx fun i x => (i + 1, x)).filterMap fun x => if listed list x.1 then some x.2 else none

def cutTool (args : List Bytes) : Run Nat :=
  withOptions "s" "dfcb" 1 args fun o =>
    eachFile fileRefusal o.operands fun _ content => do
      let delimiter := ((o.value? 'd').bind List.head?).getD 0x09
      let lines := (linesOf content).map chomp
      match o.value? 'f', (o.value? 'c').or (o.value? 'b') with
      | some list, _ =>
        put ((lines.map fun l =>
          if l.contains delimiter then
            ((selected list (splitOn delimiter l)).intersperse [delimiter]).flatten ++ [0x0A]
          else if o.has 's' then [] else l ++ [0x0A]).flatten)
      | none, some list => put (lines.flatMap fun l => selected list l ++ [0x0A])
      | none, none => report (bytes "you must specify a list of bytes, characters, or fields")

def byteRange (low high : UInt8) : Bytes :=
  (List.range (high.toNat + 1 - low.toNat)).map fun i => UInt8.ofNat (low.toNat + i)

/-- The bytes of a set with ranges. The first argument bounds its length. -/
def setBytes : Nat → Bytes → Bytes
  | 0, _ => []
  | n + 1, bs =>
    match bs with
    | [] => []
    | 0x5C :: rest =>
      let (value, taken) := escape rest
      value :: setBytes n (rest.drop taken)
    | low :: 0x2D :: high :: rest => byteRange low high ++ setBytes n rest
    | b :: rest => b :: setBytes n rest

def trSet (bs : Bytes) : Bytes :=
  match kinds.find? fun k => bytes ("[:" ++ k.1 ++ ":]") == bs with
  | some k => (byteRange 0 255).filter k.2
  | none => setBytes bs.length bs

def trTool (args : List Bytes) : Run Nat :=
  withOptions "dsc" "" 1 args fun o => do
    let content := (← readAll 0).toOption.getD []
    let first := trSet (o.operands.headD [])
    let isIn := fun b => first.contains b != o.has 'c'
    let second := trSet ((o.operands.drop 1).headD [])
    let replaced :=
      if o.has 'd' then content.filter fun b => !isIn b
      else if second.isEmpty then content
      else content.map fun b =>
        if isIn b then
          let i := if o.has 'c' then second.length else first.idxOf b
          second.getD i (second.getLastD b)
        else b
    let squeezed := fun b => if o.has 'd' || second.isEmpty then isIn b else second.contains b
    let result :=
      if o.has 's' && !o.has 'd' then
        (replaced.foldl (fun kept b =>
          if squeezed b && kept.head? == some b then kept else b :: kept) []).reverse
      else replaced
    put result
    return 0

def trimSlashes (p : Bytes) : Bytes :=
  let kept := (p.reverse.dropWhile (· == Path.separator)).reverse
  if kept.isEmpty && !p.isEmpty then [Path.separator] else kept

def lastName (p : Bytes) : Bytes :=
  let p := trimSlashes p
  if p == [Path.separator] then p else (Path.names p).getLastD []

def parentPath (p : Bytes) : Bytes :=
  let p := trimSlashes p
  if p == [Path.separator] then p
  else
    match (Path.names p).dropLast with
    | [] => Path.here
    | names => trimSlashes ((names.intersperse [Path.separator]).flatten ++ [Path.separator])

def basenameTool (args : List Bytes) : Run Nat := do
  match args with
  | [] =>
    reportUse (bytes "missing operand")
    return 1
  | _ :: _ :: extra :: _ =>
    reportUse (bytes "extra operand " ++ inQuotes extra)
    return 1
  | path :: rest =>
    let name := lastName path
    let ending := rest.headD []
    let cut := !ending.isEmpty && ending.isSuffixOf name && ending != name
    put ((if cut then name.take (name.length - ending.length) else name) ++ [0x0A])
    return 0

def dirnameTool (args : List Bytes) : Run Nat := do
  if args.isEmpty then
    reportUse (bytes "missing operand")
    return 1
  else
    put (args.flatMap fun p => parentPath p ++ [0x0A])
    return 0

/-- The options of the program `echo`: letters only, and only those that it knows. -/
def echoOptions : List Bytes → List UInt8 × List Bytes
  | [] => ([], [])
  | arg :: args =>
    match arg with
    | 0x2D :: b :: more =>
      if (b :: more).all fun c => "neE".toList.any (byte · == c) then
        let (given, rest) := echoOptions args
        (b :: more ++ given, rest)
      else ([], arg :: args)
    | arg => ([], arg :: args)

def echoTool (args : List Bytes) : Run Nat := do
  let (given, args) := echoOptions args
  let escapes := (given.filter (· != byte 'n')).getLast? == some (byte 'e')
  let (text, goes) := if escapes then echoed args else ((args.intersperse [0x20]).flatten, true)
  put (text ++ (if goes && !given.contains (byte 'n') then [0x0A] else []))
  return 0

def printfTool (args : List Bytes) : Run Nat := do
  match if args.head? == some (bytes "--") then args.drop 1 else args with
  | [] =>
    reportUse (bytes "missing operand")
    return 1
  | format :: args =>
    let (halt, s) := Printing.run format args
    put s.printed
    s.faults.forM fun f => report (inQuotes f.1 ++ bytes ": " ++ bytes f.2.programMessage)
    match halt, s.args with
    | some (.fault message), _ =>
      report message
      return 1
    | none, extra :: _ =>
      report (bytes "warning: ignoring excess arguments, starting with " ++ inQuotes extra)
      return if s.faults.isEmpty then 0 else 1
    | _, _ => return if s.faults.isEmpty then 0 else 1

def testTool (bracket : Bool) (args : List Bytes) : Run Nat := do
  if bracket && args.getLast? != some (bytes "]") then
    report (bytes "missing ']'")
    return misuse
  else
    match Condition.evaluate (← disk) (if bracket then args.dropLast else args) with
    | .ok holds => return if holds then 0 else 1
    | .error message =>
      report message
      return misuse

end ConsoleRelay.Shell
