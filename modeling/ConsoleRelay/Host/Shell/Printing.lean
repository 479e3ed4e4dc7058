import ConsoleRelay.Format.Rendering
import ConsoleRelay.Host.Shell.Arithmetic
import ConsoleRelay.Host.Shell.Expansion

/-!
Printing by the builtins `echo` and `printf`: escapes, and formats that are used again for as long
as there are arguments.
-/
namespace ConsoleRelay.Shell

def isOctal (b : UInt8) : Bool := 0x30 ≤ b && b ≤ 0x37

def escapes : List (Char × UInt8) := [
  ('\\', 0x5C), ('a', 0x07), ('b', 0x08), ('e', 0x1B), ('f', 0x0C), ('n', 0x0A), ('r', 0x0D),
  ('t', 0x09), ('v', 0x0B)]

/-- The byte that an escape stands for and how many bytes it takes after the backslash. One that is
unknown is a backslash. -/
def escape (after : Bytes) : UInt8 × Nat :=
  let digits := (after.take 3).takeWhile isOctal
  if digits.isEmpty then
    match after with
    | [] => (0x5C, 0)
    | b :: _ =>
      match escapes.find? fun e => byte e.1 == b with
      | some e => (e.2, 1)
      | none => (0x5C, 0)
  else (UInt8.ofNat (digits.foldl (fun n b => n * 8 + (b.toNat - 0x30)) 0), digits.length)

/-- A text with its escapes replaced, and whether printing goes on after it. The first argument
bounds its length. -/
def unescapeFrom : Nat → Bytes → Bytes × Bool
  | 0, _ => ([], true)
  | _ + 1, [] => ([], true)
  | n + 1, b :: rest =>
    if b != 0x5C then
      let (more, goes) := unescapeFrom n rest
      (b :: more, goes)
    else if rest.head? == some (byte 'c') then ([], false)
    else
      let octal := rest.head? == some (byte '0') && (rest.drop 1).head?.any isOctal
      let rest := if octal then rest.drop 1 else rest
      let (value, taken) := escape rest
      let (more, goes) := unescapeFrom n (rest.drop taken)
      (value :: more, goes)

/-- A text with its escapes replaced, and whether printing goes on after it. -/
def unescape (bs : Bytes) : Bytes × Bool := unescapeFrom (bs.length + 1) bs

/-- The texts of `echo` with blanks between them, and whether printing goes on after them. -/
def echoed : List Bytes → Bytes × Bool
  | [] => ([], true)
  | arg :: args =>
    let (text, goes) := unescape arg
    if goes then
      let (more, goes) := echoed args
      (text ++ (if args.isEmpty then [] else [0x20]) ++ more, goes)
    else (text, false)

def echo (args : List Bytes) : Bytes :=
  let (silent, args) := match args with
    | first :: rest => if first == bytes "-n" then (true, rest) else (false, args)
    | [] => (false, [])
  let (text, goes) := echoed args
  text ++ (if goes && !silent then [0x0A] else [])

inductive Trouble where
  | notNumeric
  | leftOver
  | outOfRange
  deriving DecidableEq, Repr

def Trouble.message : Trouble → String
  | .notNumeric => "expected numeric value"
  | .leftOver => "not completely converted"
  | .outOfRange => "Numerical result out of range"

def Trouble.programMessage : Trouble → String
  | .notNumeric => "expected a numeric value"
  | .leftOver => "value not completely converted"
  | .outOfRange => "Numerical result out of range"

/-- Printing by a format: the arguments that are left, what has been printed, and the arguments that
are at fault. -/
structure Printing where
  args : List Bytes
  printed : Bytes := []
  faults : List (Bytes × Trouble) := []
  deriving DecidableEq, Repr

/-- Why printing stops: an argument asked for it, or the format is at fault. -/
inductive Halt where
  | asked
  | fault (message : Bytes)
  deriving DecidableEq, Repr

abbrev Print := ExceptT Halt (StateM Printing)

def takeArgument : Print (Option Bytes) := do
  match (← get).args with
  | [] => return none
  | arg :: args =>
    modify fun s => { s with args := args }
    return some arg

def note (arg : Bytes) (t : Trouble) : Print Unit :=
  modify fun s => { s with faults := s.faults ++ [(arg, t)] }

def isSpaceByte (b : UInt8) : Bool := b == 0x20 || (0x09 ≤ b && b ≤ 0x0D)

/-- The integer at the start of a text, if there is one, and what follows it. -/
def integerAt (bs : Bytes) : Option Int × Bytes :=
  let (negative, rest) := match bs.dropWhile isSpaceByte with
    | 0x2D :: r => (true, r)
    | 0x2B :: r => (false, r)
    | r => (false, r)
  if rest.head?.any isDigit then
    let (n, after) := Arithmetic.unsigned rest
    (some (if negative then -(n : Int) else n), after)
  else (none, bs)

/-- The next argument as a word of 64 bits. A quote in front asks for the byte after it. -/
def takeInteger (signed : Bool) : Print UInt64 := do
  match ← takeArgument with
  | none => return 0
  | some arg =>
    match arg with
    | 0x22 :: rest | 0x27 :: rest => return UInt64.ofNat ((rest.head?.getD 0).toNat)
    | arg =>
      let (found, after) := integerAt arg
      let n := found.getD 0
      let low : Int := if signed then -(Nat.pow 2 63 : Int) else -(Nat.pow 2 64 - 1 : Int)
      let high : Int := if signed then Nat.pow 2 63 - 1 else Nat.pow 2 64 - 1
      if !after.isEmpty then note arg (if found.isSome then .leftOver else .notNumeric)
      else if n < low || high < n then note arg .outOfRange
      let kept := if n < low then (if signed then low else high) else min n high
      return UInt64.ofNat (kept % Nat.pow 2 64).toNat

/-- The decimal number at the start of a text as a double, and what follows it. -/
def realAt (bs : Bytes) : Option Float × Bytes :=
  let (negative, rest) := match bs.dropWhile isSpaceByte with
    | 0x2D :: r => (true, r)
    | 0x2B :: r => (false, r)
    | r => (false, r)
  let whole := rest.takeWhile isDigit
  let rest := rest.drop whole.length
  let (places, rest) := match rest with
    | 0x2E :: r =>
      (r.takeWhile isDigit,
        if whole.isEmpty && !r.head?.any isDigit then rest else r.dropWhile isDigit)
    | r => ([], r)
  if whole.isEmpty && places.isEmpty then (none, bs)
  else
    let (exponent, rest) : Int × Bytes := match rest with
      | e :: r =>
        let (minus, digits) := match r with
          | 0x2D :: r => (true, r)
          | 0x2B :: r => (false, r)
          | r => (false, r)
        if (e == byte 'e' || e == byte 'E') && digits.head?.any isDigit then
          let n : Int := natOf (digits.takeWhile isDigit)
          (if minus then -n else n, digits.dropWhile isDigit)
        else (0, e :: r)
      | [] => (0, [])
    let power := exponent - places.length
    let x := Float.ofScientific (natOf (whole ++ places)) (power < 0) power.natAbs
    (some (if negative then -x else x), rest)

def takeReal : Print UInt64 := do
  match ← takeArgument with
  | none => return 0
  | some arg =>
    match arg with
    | 0x22 :: rest | 0x27 :: rest => return (Float.ofNat ((rest.head?.getD 0).toNat)).toBits
    | arg =>
      let (found, after) := realAt arg
      if !after.isEmpty then note arg (if found.isSome then .leftOver else .notNumeric)
      return (found.getD 0).toBits

/-- A number in a format, or the argument that an asterisk stands for. -/
def takeExtent (format : Bytes) : Print (Option Int × Bytes) := do
  match format with
  | 0x2A :: rest =>
    let w ← takeInteger true
    return (some (Format.signedBits 32 w), rest)
  | _ =>
    let digits := format.takeWhile isDigit
    return (if digits.isEmpty then none else some (natOf digits), format.drop digits.length)

def convert (l : Format.Layout) (spelled : Bytes) (conversion : UInt8) : Print Bytes := do
  let integer (radix : Format.Radix) : Print Bytes := do
    return l.integer radix [] (← takeInteger false).toNat
  let real (style : Format.Style) (upper : Bool) : Print Bytes := do
    return l.real style upper (← takeReal)
  match Char.ofNat conversion.toNat with
  | 's' => return l.string (some ((← takeArgument).getD []))
  | 'b' =>
    let (text, goes) := unescape ((← takeArgument).getD [])
    let shown := l.string (some text)
    if goes then return shown
    else
      modify fun s => { s with printed := s.printed ++ shown }
      throw .asked
  | 'c' => return l.pad [(((← takeArgument).getD []).head?).getD 0]
  | 'd' | 'i' =>
    let n := Format.signedBits 64 (← takeInteger true)
    return l.integer .decimal (l.flags.sign (decide (n < 0))) n.natAbs
  | 'o' => integer .octal
  | 'u' => integer .decimal
  | 'x' => integer .hex
  | 'X' => integer .upperHex
  | 'f' => real .fixed false
  | 'F' => real .fixed true
  | 'e' => real .scientific false
  | 'E' => real .scientific true
  | 'g' => real .general false
  | 'G' => real .general true
  | 'a' => real .binary false
  | 'A' => real .binary true
  | _ => throw (.fault (spelled ++ bytes ": invalid directive"))

/-- Print one directive, after its percent sign. The result is what follows it. -/
def directive (format : Bytes) : Print Bytes := do
  let marks := format.takeWhile fun b => "#-+ 0".toList.any (byte · == b)
  let (width, rest) ← takeExtent (format.drop marks.length)
  let (precision, rest) ← match rest with
    | 0x2E :: r =>
      let (p, r) ← takeExtent r
      pure (some (p.getD 0), r)
    | r => pure (none, r)
  match rest with
  | [] => throw (.fault (bytes "missing format character"))
  | conversion :: rest =>
    let has := fun c => marks.contains (byte c)
    let w := width.getD 0
    let flags : Format.Flags := ⟨has '#', has '+', has ' ', has '-' || w < 0, has '0'⟩
    let limit := precision.bind fun p => if p < 0 then none else some p.toNat
    let spelled := 0x25 :: format.take (format.length - rest.length)
    let text ← convert ⟨flags.settled, w.natAbs, limit⟩ spelled conversion
    modify fun s => { s with printed := s.printed ++ text }
    return rest

/-- Print a format once. The first argument bounds its length. -/
def printOnce : Nat → Bytes → Print Unit
  | 0, _ => return
  | _ + 1, [] => return
  | n + 1, b :: rest => do
    let literal := fun (c : UInt8) => modify fun s => { s with printed := s.printed ++ [c] }
    if b == 0x5C then
      let (value, taken) := escape rest
      literal value
      printOnce n (rest.drop taken)
    else if b != 0x25 then
      literal b
      printOnce n rest
    else if rest.head? == some 0x25 then
      literal b
      printOnce n (rest.drop 1)
    else printOnce n (← directive rest)

/-- Print a format for as long as it takes arguments and there are any. The first argument bounds
how often. -/
def printAll (format : Bytes) : Nat → Print Unit
  | 0 => return
  | n + 1 => do
    let before := (← get).args.length
    printOnce (format.length + 1) format
    let after := (← get).args.length
    if after ≠ 0 && after < before then printAll format n

def Printing.run (format : Bytes) (args : List Bytes) : Option Halt × Printing :=
  let (result, s) := ((printAll format (args.length + 1)).run).run { args := args }
  (match result with
   | .ok _ => none
   | .error h => some h, s)

end ConsoleRelay.Shell
