import ConsoleRelay.Host.Shell.Arithmetic
import ConsoleRelay.Host.Shell.Pattern
import ConsoleRelay.Host.Shell.State

/-!
Expansion of words.

A word is first made into cells, which remember what was quoted and what may be split. The cells are
then split into fields, and fields with open patterns are replaced by the files they hold for.
Commands whose output a word asks for are run by the caller.
-/
namespace ConsoleRelay.Shell

/-- What a word is made into: a byte, a quoted piece without text, or a place where a field ends. -/
inductive Cell where
  | mark (m : Mark) (splits : Bool)
  | empty
  | boundary
  deriving DecidableEq, Repr

/-- Text as cells. Quoted text is there even if it is empty. -/
def Cell.ofText (quoted splits : Bool) (bs : Bytes) : List Cell :=
  if quoted && bs.isEmpty then [.empty] else bs.map fun b => .mark ⟨b, quoted⟩ (splits && !quoted)

def Cell.mark? : Cell → Option Mark
  | .mark m _ => some m
  | _ => none

def Cell.marks (cs : List Cell) : List Mark := cs.filterMap Cell.mark?

def Cell.text (cs : List Cell) : Bytes := (Cell.marks cs).map Mark.byte

def defaultSeparators : Bytes := [0x20, 0x09, 0x0A]

def Process.separators (p : Process) : Bytes := (p.lookup? (bytes "IFS")).getD defaultSeparators

def isWhite (b : UInt8) : Bool := defaultSeparators.contains b

/-- Fields while they are made: those that are complete, latest first, the one that is open, and
whether white separators have just ended one, so that another separator may still join them. -/
structure Fields where
  done : List (List Mark) := []
  current : Option (List Mark) := none
  joins : Bool := false
  deriving DecidableEq, Repr

def Fields.finish (f : Fields) : Fields :=
  match f.current with
  | some ms => { done := ms.reverse :: f.done, joins := true }
  | none => f

def Fields.add (separators : Bytes) (f : Fields) : Cell → Fields
  | .empty => { f with current := some (f.current.getD []), joins := false }
  | .boundary => f.finish
  | .mark m splits =>
    if splits && separators.contains m.byte then
      if isWhite m.byte then f.finish
      else if f.current.isNone && f.joins then { f with joins := false }
      else { done := (f.current.getD []).reverse :: f.done }
    else { f with current := some (m :: f.current.getD []), joins := false }

def splitFields (separators : Bytes) (cs : List Cell) : List (List Mark) :=
  (cs.foldl (Fields.add separators) {}).finish.done.reverse

inductive Value where
  | one (bs : Bytes)
  | all (args : List Bytes)
  deriving DecidableEq, Repr

def Process.joint (p : Process) : Bytes :=
  match p.lookup? (bytes "IFS") with
  | some separators => separators.take 1
  | none => [0x20]

def Value.text (joint : Bytes) : Value → Bytes
  | .one bs => bs
  | .all args => (args.intersperse joint).flatten

def decimalBytes (n : Nat) : Bytes := ascii (decimal n)

def natOf (bs : Bytes) : Nat := bs.foldl (fun n b => n * 10 + (b.toNat - 0x30)) 0

def optionLetters : List Char := "efIimnsxvVECabup".toList

def Process.value? (p : Process) (name : Bytes) : Option Value :=
  match name with
  | [0x40] | [0x2A] => some (.all p.args)
  | [0x23] => some (.one (decimalBytes p.args.length))
  | [0x3F] => some (.one (decimalBytes p.status))
  | [0x2D] => some (.one (ascii (optionLetters.reverse.filter p.has)))
  | [0x24] => some (.one (decimalBytes p.shellId))
  | [0x21] => p.jobs.head?.map fun id => .one (decimalBytes id)
  | name =>
    if name.all isDigit then
      match natOf name with
      | 0 => some (.one p.name)
      | n + 1 => p.args[n]?.map .one
    else (p.lookup? name).map .one

/-- The cells of a value. In full expansion the arguments stay apart, unless they are asked for as
one quoted text. -/
def Value.cells (joint : Bytes) (full quoted apart : Bool) : Value → List Cell
  | .one bs => Cell.ofText quoted true bs
  | .all args =>
    if full && (apart || !quoted) then
      ((args.map (Cell.ofText quoted true)).intersperse [.boundary]).flatten
    else Cell.ofText quoted true (Value.text joint (.all args))

def compute (expression : Bytes) : Run Bytes := do
  let p ← self
  let lookup := fun name => (p.value? name).map (Value.text p.joint)
  match Arithmetic.evaluate lookup expression with
  | .error e => failWith (e.message expression)
  | .ok (v, assigned) =>
    assigned.reverse.forM fun a => assign a.1 (ascii (signedDecimal a.2.toInt))
    return ascii (signedDecimal v.toInt)

def demandName (name : Bytes) : Run Unit := do
  if !isName name then failWith (name ++ bytes ": bad variable name")

mutual

/-- The cells of a part. `full` tells whether the arguments can stay apart, `loose` whether plain
text may be split. -/
def Part.cells (substitute : Command → Run Bytes) (full loose : Bool) : Part → Run (List Cell)
  | .plain bs => return Cell.ofText false loose bs
  | .quoted bs => return Cell.ofText true false bs
  | .output inQuotes body => return Cell.ofText inQuotes true (← substitute body)
  | .arithmetic inQuotes expression => do
    let cs ← Part.cellsOf substitute false false expression
    return Cell.ofText inQuotes true (← compute (Cell.text cs))
  | .parameter inQuotes name op strict word => do
    let p ← self
    let value := p.value? name
    let text := (value.map (Value.text p.joint)).getD []
    let missing := value.isNone || (strict && text.isEmpty)
    let shown := (value.getD (.one [])).cells p.joint full inQuotes (name == [0x40])
    let nothing := Cell.ofText inQuotes false []
    let unset : Run Unit := do
      if value.isNone && p.has 'u' then failWith (name ++ bytes ": parameter not set")
    match op with
    | .unknown => failWith (bytes "Bad substitution")
    | .value =>
      unset
      return shown
    | .length =>
      unset
      return Cell.ofText inQuotes true (decimalBytes text.length)
    | .default =>
      if missing then
        let cs ← Part.cellsOf substitute full (!inQuotes) word
        return if cs.isEmpty then nothing else cs
      else return shown
    | .alternative =>
      if missing then return nothing
      else
        let cs ← Part.cellsOf substitute full (!inQuotes) word
        return if cs.isEmpty then nothing else cs
    | .assign =>
      if missing then
        demandName name
        let new := Cell.text (← Part.cellsOf substitute false false word)
        assign name new
        return Cell.ofText inQuotes true new
      else return shown
    | .insist =>
      if missing then
        let given := Cell.text (← Part.cellsOf substitute false false word)
        let reason := if !word.isEmpty then given
          else if strict then bytes "parameter not set or null"
          else bytes "parameter not set"
        failWith (name ++ bytes ": " ++ reason)
      else return shown
    | .trimEnd longest =>
      unset
      if value.isNone then return nothing
      let ms := Cell.marks (← Part.cellsOf substitute false false word)
      return Cell.ofText inQuotes true ((Pattern.of ms).trimEnd longest text)
    | .trimStart longest =>
      unset
      if value.isNone then return nothing
      let ms := Cell.marks (← Part.cellsOf substitute false false word)
      return Cell.ofText inQuotes true ((Pattern.of ms).trimStart longest text)

def Part.cellsOf (substitute : Command → Run Bytes) (full loose : Bool) :
    List Part → Run (List Cell)
  | [] => return []
  | part :: parts => do
    let cs ← Part.cells substitute full loose part
    return cs ++ (← Part.cellsOf substitute full loose parts)

end

/-- A word with the home directory in place of a tilde at its start. -/
def Word.withHome (home : Option Bytes) (w : Word) : Word :=
  match w, home with
  | .plain (0x7E :: rest) :: parts, some dir =>
    if rest.head? == some Path.separator then .quoted dir :: .plain rest :: parts
    else if rest.isEmpty && parts.isEmpty then [.quoted dir]
    else w
  | _, _ => w

def Word.cells (substitute : Command → Run Bytes) (full : Bool) (w : Word) : Run (List Cell) := do
  let home := (← self).lookup? (bytes "HOME")
  Part.cellsOf substitute full false (w.withHome home)

def components : List Mark → List (List Mark)
  | [] => [[]]
  | m :: ms =>
    match components ms with
    | [] => [[m]]
    | c :: cs => if m.byte == Path.separator then [] :: c :: cs else (m :: c) :: cs

def nameLe : Bytes → Bytes → Bool
  | [], _ => true
  | _ :: _, [] => false
  | a :: as, b :: bs => if a == b then nameLe as bs else a < b

/-- The names in the directory that a path leads to, with those of the directory itself and of the
one above. -/
def namesIn (d : Disk) (path : Bytes) : List Bytes :=
  match d.locate (if path.isEmpty then Path.here else path) with
  | .error _ => []
  | .ok loc =>
    match d.entry? loc with
    | some .directory => (Path.here :: Path.above :: d.names loc).mergeSort nameLe
    | _ => []

/-- The paths that components hold for, after what has been matched of them. -/
def matching (d : Disk) (before : Bytes) : List (List Mark) → List Bytes
  | [] => []
  | c :: cs =>
    let pattern := Pattern.of c
    let names :=
      if pattern.isOpen then
        (namesIn d before).filter fun name =>
          pattern.holds name &&
            (name.head? != some 0x2E || (c.head?.map Mark.byte) == some 0x2E)
      else [c.map Mark.byte]
    match cs with
    | [] => (names.map (before ++ ·)).filter fun path => (d.find path).toOption.isSome
    | cs => names.flatMap fun name => matching d (before ++ name ++ [Path.separator]) cs

def Field.paths (d : Disk) (field : List Mark) : List Bytes :=
  let itself := [field.map Mark.byte]
  if (Pattern.of field).isOpen then
    let found := matching d [] (components field)
    if found.isEmpty then itself else found
  else itself

def Word.fields (substitute : Command → Run Bytes) (w : Word) : Run (List Bytes) := do
  let cs ← w.cells substitute true
  let p ← self
  let fields := splitFields p.separators cs
  if p.has 'f' then return fields.map (·.map Mark.byte)
  else
    let d ← disk
    return fields.flatMap (Field.paths d)

def Word.allFields (substitute : Command → Run Bytes) (ws : List Word) : Run (List Bytes) := do
  return (← ws.mapM (Word.fields substitute)).flatten

/-- The fields of the first word that has any, and the words after it. -/
def Word.leading (substitute : Command → Run Bytes) : List Word → Run (List Bytes × List Word)
  | [] => return ([], [])
  | w :: ws => do
    let fields ← w.fields substitute
    if fields.isEmpty then Word.leading substitute ws else return (fields, ws)

def Word.text (substitute : Command → Run Bytes) (w : Word) : Run Bytes := do
  return Cell.text (← w.cells substitute false)

def Word.pattern (substitute : Command → Run Bytes) (w : Word) : Run Pattern := do
  return Pattern.of (Cell.marks (← w.cells substitute false))

end ConsoleRelay.Shell
