import ConsoleRelay.Format.Argument
import ConsoleRelay.Format.Real

/-!
Rendering a format with its arguments.

Directives are rendered left to right, each taking the arguments it needs from the front. The
result is either the whole text or a fault; there is no partial text.
-/
namespace ConsoleRelay.Format

/-- Bytes of a text that has ASCII characters only. -/
def ascii (t : Text) : Bytes := t.map fun c => UInt8.ofNat c.toNat

def blanks (n : Nat) : Bytes := List.replicate n 0x20

/-- A directive whose extents have been looked up. -/
structure Layout where
  flags : Flags
  width : Nat
  precision : Option Nat
  deriving DecidableEq, Repr

def Layout.pad (l : Layout) (body : Bytes) : Bytes :=
  if l.flags.left then body ++ blanks (l.width - body.length)
  else blanks (l.width - body.length) ++ body

/-- Pad a number: zeros go between what stands in front (sign and base) and the digits. -/
def Layout.padNumber (l : Layout) (zeros : Bool) (front digits : Text) : Bytes :=
  if zeros && l.flags.zero && !l.flags.left then
    ascii (front ++ List.replicate (l.width - front.length - digits.length) '0' ++ digits)
  else l.pad (ascii (front ++ digits))

/-- Pad a finite real. Where both flags are left standing, a decimal one is filled up with zeros on
the right and a binary one not at all. -/
def Layout.padReal (l : Layout) (style : Style) (front digits : Text) : Bytes :=
  if l.flags.zero && l.flags.left then
    let missing := if style = .binary then 0 else l.width - front.length - digits.length
    ascii (front ++ digits ++ List.replicate missing '0')
  else l.padNumber true front digits

def Flags.sign (f : Flags) (negative : Bool) : Text :=
  if negative then ['-'] else if f.plus then ['+'] else if f.blank then [' '] else []

/-- The digits of a magnitude with at least as many digits as the precision asks for. -/
def magnitude (radix : Radix) (precision : Option Nat) (alternate : Bool) (n : Nat) : Text :=
  let digits : Text :=
    if n == 0 && precision == some 0 then []
    else
      match radix with
      | .octal => Nat.toDigits 8 n
      | .decimal => decimal n
      | .hex => hex n
      | .upperHex => (hex n).map upperHex
  let filled := zeroFill (precision.getD 0) digits
  if radix == .octal && alternate && filled.head? != some '0' then '0' :: filled else filled

/-- What stands in front of the digits of a base in the alternate form. -/
def baseMark (radix : Radix) (alternate : Bool) (n : Nat) : Text :=
  if alternate && n != 0 then
    match radix with
    | .hex => "0x".toList
    | .upperHex => "0X".toList
    | _ => []
  else []

def Layout.integer (l : Layout) (radix : Radix) (sign : Text) (n : Nat) : Bytes :=
  l.padNumber l.precision.isNone (sign ++ baseMark radix l.flags.alternate n)
    (magnitude radix l.precision l.flags.alternate n)

/-- A string, cut to the precision. A missing one reads `(null)` where that fits. -/
def Layout.string (l : Layout) : Option Bytes → Bytes
  | some s => l.pad (match l.precision with | some p => s.take p | none => s)
  | none =>
    let shown : Bool := match l.precision with | some p => decide (6 ≤ p) | none => true
    l.pad (if shown then ascii "(null)".toList else [])

def Layout.pointer (l : Layout) (w : UInt64) : Bytes :=
  if w == 0 then l.pad (ascii "(nil)".toList)
  else
    Layout.integer { l with flags := { l.flags with alternate := true } } .hex
      (l.flags.sign false) w.toNat

def Layout.real (l : Layout) (style : Style) (upper : Bool) (bits : UInt64) : Bytes :=
  let fold := fun (t : Text) => if upper then t.map upperHex else t
  let value := Real.ofBits bits
  let sign := l.flags.sign value.negative
  let places := l.precision.getD 6
  let keepPoint := l.flags.alternate
  match value with
  | .nan _ => l.padNumber false sign (fold "nan".toList)
  | .infinite _ => l.padNumber false sign (fold "inf".toList)
  | .finite _ m e =>
    match style with
    | .fixed => l.padReal style sign (fixedText m e places keepPoint)
    | .scientific => l.padReal style sign (fold (scientificText m e places keepPoint))
    | .general => l.padReal style sign (fold (generalText m e places keepPoint))
    | .binary =>
      l.padReal style (sign ++ fold "0x".toList) (fold (binaryText m e l.precision keepPoint))

/-- A directive that is copied: flags in a fixed order, then width, precision and the byte. -/
def Layout.copied (l : Layout) (byte : Bytes) : Bytes :=
  let f := l.flags
  let mark := fun (on : Bool) (c : Char) => if on then [c] else []
  let flags := mark f.alternate '#' ++ mark f.plus '+' ++ mark (f.blank && !f.plus) ' ' ++
    mark f.left '-' ++ mark f.zero '0'
  let width := if l.width = 0 then [] else decimal l.width
  let precision := match l.precision with | some n => '.' :: decimal n | none => []
  ascii ('%' :: flags ++ width ++ precision) ++ byte

/-- The flags in force: padding on the right overrides zeros. -/
def Flags.settled (f : Flags) : Flags := { f with zero := f.zero && !f.left }

/-- The flags where the width is negative, which asks for padding on the right. A lenient directive
keeps its zeros then. -/
def Flags.turned (f : Flags) (lenient : Bool) : Flags :=
  { f with left := true, zero := f.zero && lenient }

def resolveWidth (d : Directive) (args : List Argument) :
    Except Fault (Flags × Nat × List Argument) :=
  let f := d.flags.settled
  match d.width with
  | .absent => .ok (f, 0, args)
  | .fixed n => .ok (f, n, args)
  | .argument => do
    let (w, rest) ← takeWord args
    let n := signedBits 32 w
    return (if n < 0 then f.turned d.lenient else f, n.natAbs, rest)

/-- Look up the precision. A negative one is none. -/
def resolvePrecision (args : List Argument) :
    Extent → Except Fault (Option Nat × List Argument)
  | .absent => .ok (none, args)
  | .fixed n => .ok (some n, args)
  | .argument => do
    let (w, rest) ← takeWord args
    let n := signedBits 32 w
    return (if n < 0 then none else some n.toNat, rest)

/-- Render one conversion. A character of the long size is a wide one, which the "C" locale has a
byte for only if it is ASCII. A string of the long size would be of wide characters too, which no
argument has; only a missing one is rendered. -/
def renderConversion (l : Layout) (d : Directive) (args : List Argument) :
    Except Fault (Bytes × List Argument) :=
  match d.conversion with
  | .signed => do
    let (w, rest) ← takeWord args
    let n := signedBits d.size.bits w
    return (l.integer .decimal (l.flags.sign (decide (n < 0))) n.natAbs, rest)
  | .unsigned radix => do
    let (w, rest) ← takeWord args
    return (l.integer radix [] (lowBits d.size.bits w), rest)
  | .char => do
    let (w, rest) ← takeWord args
    if d.size = .long ∧ 0x7F < lowBits 32 w then throw .wideCharacter
    else return (l.pad [UInt8.ofNat w.toNat], rest)
  | .string => do
    let (s, rest) ← takeString args
    if d.size = .long ∧ s.isSome then throw .argumentMismatch else return (l.string s, rest)
  | .pointer => do
    let (w, rest) ← takeWord args
    return (l.pointer w, rest)
  | .real style upper => do
    let (bits, rest) ← takeReal args
    return (l.real style upper bits, rest)
  | .percent => .ok ([0x25], args)
  | .unknown b => .ok (l.copied [b], args)
  | .cutOff => .ok (l.copied [], args)

def renderItem (item : Item) (args : List Argument) : Except Fault (Bytes × List Argument) :=
  match item with
  | .literal b => .ok ([b], args)
  | .directive d => do
    let (flags, width, args) ← resolveWidth d args
    let (precision, args) ← resolvePrecision args d.precision
    renderConversion ⟨flags, width, precision⟩ d args

def renderItems : List Item → List Argument → Except Fault Bytes
  | [], _ => .ok []
  | item :: items, args => do
    let (text, rest) ← renderItem item args
    let more ← renderItems items rest
    return text ++ more

def render (format : Bytes) (args : List Argument) : Except Fault Bytes := do
  let items ← read format
  let text ← renderItems items args
  if text.length ≤ maxCount then return text else throw .tooLong

end ConsoleRelay.Format
