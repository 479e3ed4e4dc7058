import ConsoleRelay.Host.Shell.TextTools

/-!
Programs that make, change, list and remove files.
-/
namespace ConsoleRelay.Shell

/-- Run a step for each of some names. The status is the one given if any of them failed. -/
def eachName (failure : Nat) (names : List Bytes) (step : Bytes → Run Bool) : Run Nat := do
  let results ← names.mapM step
  return if results.all id then 0 else failure

def missingOperand (what : String) : Run Nat := do
  reportUse (bytes what)
  return 1

def attempt (doing : Bytes) (result : Except OsError Disk) : Run Bool := do
  match result with
  | .ok d =>
    setDisk d
    return true
  | .error e =>
    report (refusal doing e)
    return false

/-- The directories on the way to a path, which are made if they are missing. -/
def makeWay (d : Disk) (base : Location) : List Bytes → Except OsError Disk
  | [] => .ok d
  | name :: names =>
    if name.isEmpty || name == Path.here then makeWay d base names
    else if name == Path.above then makeWay d base.dropLast names
    else
      let loc := base ++ [name]
      match d.entry? loc with
      | some .directory => makeWay d loc names
      | some _ => .error (if names.all List.isEmpty then .exists else .notADirectory)
      | none =>
        if Disk.nameLimit < name.length then .error .nameTooLong
        else makeWay (d.put loc .directory) loc names

def mkdirTool (args : List Bytes) : Run Nat :=
  withOptions "pv" "m" 1 args fun o => do
    if o.operands.isEmpty then missingOperand "missing operand"
    else eachName 1 o.operands fun name => do
      let d ← disk
      attempt (bytes "cannot create directory " ++ inQuotes name)
        (if o.has 'p' then makeWay d (d.start name) (Path.names name) else d.makeDirectory name)

def withoutDirectory (d : Disk) (name : Bytes) : Except OsError Disk := do
  let loc ← d.locate name
  match d.entry? loc with
  | some .directory => if (d.names loc).isEmpty then return d.remove loc else throw .notEmpty
  | _ => throw .notADirectory

def rmdirTool (args : List Bytes) : Run Nat :=
  withOptions "p" "" 1 args fun o => do
    if o.operands.isEmpty then missingOperand "missing operand"
    else eachName 1 o.operands fun name => do
      attempt (bytes "failed to remove " ++ inQuotes name) (withoutDirectory (← disk) name)

/-- The disk without a file, or without a directory and all that is in it. -/
def without (d : Disk) (recursive force : Bool) (name : Bytes) : Except OsError Disk :=
  match d.locate name with
  | .error .notFound => if force then .ok d else .error .notFound
  | .error e => .error e
  | .ok loc =>
    match d.entry? loc with
    | some .directory => if recursive then .ok (d.remove loc) else .error .isADirectory
    | _ => .ok (d.remove loc)

def rmTool (args : List Bytes) : Run Nat :=
  withOptions "rRfdv" "" 1 args fun o => do
    if o.operands.isEmpty then
      if o.has 'f' then return 0 else missingOperand "missing operand"
    else eachName 1 o.operands fun name => do
      attempt (bytes "cannot remove " ++ inQuotes name)
        (without (← disk) (o.has 'r' || o.has 'R') (o.has 'f') name)

def touchTool (args : List Bytes) : Run Nat :=
  withOptions "cam" "trd" 1 args fun o => do
    if o.operands.isEmpty then missingOperand "missing file operand"
    else eachName 1 o.operands fun name => do
      let d ← disk
      let result : Except OsError Disk := do
        let (loc, slash) ← d.locateNew name
        match d.entry? loc with
        | some .directory => return d
        | some _ => if slash then throw .notADirectory else return d
        | none =>
          if slash then throw .notFound
          else if o.has 'c' then return d
          else return d.put loc (.file [] false)
      attempt (bytes "cannot touch " ++ inQuotes name) result

/-- The disk with a copy of what a location holds, and of all below it. -/
def copied (d : Disk) (source target : Location) : Disk :=
  (d.entries.filter fun e => source.isPrefixOf e.1).foldl
    (fun d e => d.put (target ++ e.1.drop source.length) e.2) d

/-- Where a file goes that is copied or moved to a path: into a directory under its own name. -/
def destination (d : Disk) (source target : Bytes) : Except OsError Location := do
  let (loc, slash) ← d.locateNew target
  match d.entry? loc with
  | some .directory => return loc ++ [lastName source]
  | _ => if slash then throw .notADirectory else return loc

def transfer (o : Options)
    (step : Disk → Bytes → Location → Location → Run Bool) : Run Nat := do
  match o.operands.reverse with
  | [] => missingOperand "missing file operand"
  | [one] => missingOperand ("missing destination file operand after '" ++
      String.ofList (Utf8.lossy one) ++ "'")
  | target :: sources =>
    let several := 1 < sources.length
    if several && !(← disk).isDirectory target then
      let e := match (← disk).find target with
        | .error e => e
        | .ok _ => .notADirectory
      report (bytes "target " ++ refusal (inQuotes target) e)
      return 1
    else eachName 1 sources.reverse fun source => do
      let d ← disk
      match d.locate source with
      | .error e =>
        report (bytes "cannot stat " ++ refusal (inQuotes source) e)
        return false
      | .ok loc =>
        match destination d source target with
        | .error e =>
          report (bytes "cannot create regular file " ++ refusal (inQuotes target) e)
          return false
        | .ok new => step d source loc new

def cpTool (args : List Bytes) : Run Nat :=
  withOptions "rRapf" "" 1 args fun o =>
    transfer o fun d source loc new => do
      let recursive := o.has 'r' || o.has 'R' || o.has 'a'
      match d.entry? loc with
      | some .directory =>
        if recursive then
          setDisk (copied d loc new)
          return true
        else
          report (bytes "-r not specified; omitting directory " ++ inQuotes source)
          return false
      | some e =>
        if loc == new then
          report (inQuotes source ++ bytes " and " ++ inQuotes (new.getLastD []) ++
            bytes " are the same file")
          return false
        else
          let kept := match e, d.entry? new with
            | .file content _, some (.file _ x) => Entry.file content x
            | e, _ => e
          if d.entry? new != some .null then setDisk (d.put new kept)
          return true
      | none => return false

def mvTool (args : List Bytes) : Run Nat :=
  withOptions "fiv" "" 1 args fun o =>
    transfer o fun d source loc new => do
      if loc == new then
        report (inQuotes source ++ bytes " and " ++ inQuotes (new.getLastD []) ++
          bytes " are the same file")
        return false
      else
        setDisk (d.move loc new)
        return true

/-- Whether a mode makes a file executable, if it says anything about that. -/
def modeSays (mode : Bytes) : Option Bool :=
  if !mode.isEmpty && mode.all isOctal then some (mode.any fun b => (b.toNat - 0x30) % 2 == 1)
  else
    let signs := mode.dropWhile fun b => "ugoa".toList.any (byte · == b)
    match signs with
    | 0x2B :: what => if what.contains (byte 'x') then some true else none
    | 0x2D :: what => if what.contains (byte 'x') then some false else none
    | 0x3D :: what => some (what.contains (byte 'x'))
    | _ => none

def chmodTool (args : List Bytes) : Run Nat := do
  match args with
  | [] => missingOperand "missing operand"
  | [mode] => missingOperand ("missing operand after '" ++ String.ofList (Utf8.lossy mode) ++ "'")
  | mode :: names =>
    eachName 1 names fun name => do
      let d ← disk
      match d.locate name with
      | .error e =>
        report (bytes "cannot access " ++ refusal (inQuotes name) e)
        return false
      | .ok loc =>
        match d.entry? loc with
        | some (.file content x) =>
          setDisk (d.put loc (.file content ((modeSays mode).getD x)))
          return true
        | _ => return true

def listing (d : Disk) (o : Options) (loc : Location) : List Bytes :=
  let names := (d.names loc).mergeSort nameLe
  if o.has 'a' then Path.here :: Path.above :: names
  else if o.has 'A' then names
  else names.filter fun n => n.head? != some 0x2E

def lsTool (args : List Bytes) : Run Nat :=
  withOptions "1aAd" "" 2 args fun o => do
    let d ← disk
    let names := (if o.operands.isEmpty then [Path.here] else o.operands).mergeSort nameLe
    let failed ← names.filterM fun name => do
      match d.locate name with
      | .error e =>
        report (bytes "cannot access " ++ refusal (inQuotes name) e)
        return true
      | .ok _ => return false
    let found := names.filter fun n => !failed.contains n
    let directories := found.filter fun n => d.isDirectory n && !o.has 'd'
    let files := found.filter fun n => !directories.contains n
    put (files.flatMap (· ++ [0x0A]))
    let titled := 1 < names.length
    directories.mapIdx (fun i n => (i, n)) |>.forM fun x => do
      match d.locate x.2 with
      | .ok loc =>
        let gap := if x.1 ≠ 0 || !files.isEmpty then [0x0A] else []
        let title := if titled then gap ++ x.2 ++ bytes ":\n" else []
        put (title ++ (listing d o loc).flatMap (· ++ [0x0A]))
      | .error _ => return
    return if failed.isEmpty then 0 else 2

def pwdTool (args : List Bytes) : Run Nat :=
  withOptions "LP" "" 1 args fun o => do
    if !o.operands.isEmpty then report (bytes "ignoring non-option arguments")
    put (pathOf (← self).directory ++ [0x0A])
    return 0

/-- Whether a text is a span of time: a number with a unit. -/
def isSpan (bs : Bytes) : Bool :=
  let number := if bs.getLast?.any fun b => "smhd".toList.any (byte · == b) then bs.dropLast else bs
  match realAt number with
  | (some _, []) => number.head? != some 0x2D
  | _ => false

def sleepTool (args : List Bytes) : Run Nat := do
  let wrong := args.filter fun a => !isSpan a
  if args.isEmpty then
    reportUse (bytes "missing operand")
    return 1
  else if wrong.isEmpty then return 0
  else
    wrong.dropLast.forM fun a => report (bytes "invalid time interval " ++ inQuotes a)
    reportUse (bytes "invalid time interval " ++ inQuotes (wrong.getLastD []))
    return 1

def printenvTool (args : List Bytes) : Run Nat := do
  let environment := (← self).environment
  match args with
  | [] =>
    put (environment.flatMap fun v => v.1 ++ [0x3D] ++ v.2 ++ [0x0A])
    return 0
  | names =>
    eachName 1 names fun name => do
      match environment.lookup name with
      | some value =>
        put (value ++ [0x0A])
        return true
      | none => return false

/-- Run a program of the machine that starts no other, and give its status. -/
def Tool.run : Tool → List Bytes → Run Nat
  | .true, _ | .shell, _ | .env, _ => return 0
  | .false, _ => return 1
  | .echo, args => echoTool args
  | .printf, args => printfTool args
  | .test, args => testTool false args
  | .bracket, args => testTool true args
  | .pwd, args => pwdTool args
  | .sleep, args => sleepTool args
  | .cat, args => catTool args
  | .tee, args => teeTool args
  | .head, args => headTool args
  | .tail, args => tailTool args
  | .wc, args => wcTool args
  | .seq, args => seqTool args
  | .sort, args => sortTool args
  | .uniq, args => uniqTool args
  | .cut, args => cutTool args
  | .tr, args => trTool args
  | .basename, args => basenameTool args
  | .dirname, args => dirnameTool args
  | .ls, args => lsTool args
  | .mkdir, args => mkdirTool args
  | .rmdir, args => rmdirTool args
  | .rm, args => rmTool args
  | .touch, args => touchTool args
  | .cp, args => cpTool args
  | .mv, args => mvTool args
  | .chmod, args => chmodTool args
  | .printenv, args => printenvTool args

end ConsoleRelay.Shell
