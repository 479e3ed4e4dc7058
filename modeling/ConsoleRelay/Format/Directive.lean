import ConsoleRelay.Text.Utf8

/-!
Trace formats: literal bytes and conversion directives.

`read` takes a format apart byte by byte. A format that ends inside a directive is at fault, and so
is a width or precision above the largest count. From the first directive with an unknown conversion
on, the format is read leniently: a directive cut off by the end stands for itself and a number out
of range counts as absent.
-/
namespace ConsoleRelay.Format

structure Flags where
  alternate : Bool := false
  plus : Bool := false
  blank : Bool := false
  left : Bool := false
  zero : Bool := false
  deriving DecidableEq, Repr

/-- A width or a precision. -/
inductive Extent where
  | absent
  | fixed (n : Nat)
  | argument
  deriving DecidableEq, Repr

/-- How many bits of an integer argument count. -/
inductive Size where
  | byte
  | short
  | plain
  | long
  deriving DecidableEq, Repr

def Size.bits : Size → Nat
  | .byte => 8
  | .short => 16
  | .plain => 32
  | .long => 64

inductive Radix where
  | octal
  | decimal
  | hex
  | upperHex
  deriving DecidableEq, Repr

inductive Style where
  | fixed
  | scientific
  | general
  | binary
  deriving DecidableEq, Repr

/-- What a directive writes. An unknown conversion is copied; `cutOff` is one that lost its
conversion byte to the end of the format. -/
inductive Conversion where
  | signed
  | unsigned (radix : Radix)
  | char
  | string
  | pointer
  | real (style : Style) (upper : Bool)
  | percent
  | unknown (byte : UInt8)
  | cutOff
  deriving DecidableEq, Repr

def conversions : List (Char × Conversion) := [
  ('d', .signed), ('i', .signed), ('u', .unsigned .decimal), ('o', .unsigned .octal),
  ('x', .unsigned .hex), ('X', .unsigned .upperHex), ('c', .char), ('s', .string), ('p', .pointer),
  ('f', .real .fixed false), ('F', .real .fixed true),
  ('e', .real .scientific false), ('E', .real .scientific true),
  ('g', .real .general false), ('G', .real .general true),
  ('a', .real .binary false), ('A', .real .binary true), ('%', .percent)]

def Conversion.ofByte (b : UInt8) : Conversion :=
  (conversions.lookup (Char.ofNat b.toNat)).getD (.unknown b)

def Conversion.isKnown : Conversion → Bool
  | .unknown _ | .cutOff => false
  | _ => true

/-- One conversion directive, and whether it was read leniently. -/
structure Directive where
  flags : Flags := {}
  width : Extent := .absent
  precision : Extent := .absent
  size : Size := .plain
  conversion : Conversion := .cutOff
  lenient : Bool := false
  deriving DecidableEq, Repr

inductive Item where
  | literal (byte : UInt8)
  | directive (d : Directive)
  deriving DecidableEq, Repr

inductive Fault where
  | incomplete
  | numberTooLarge
  | tooLong
  | argumentMismatch
  | wideCharacter
  deriving DecidableEq, Repr

def maxCount : Nat := 2147483647

/-- How far a directive has been read. -/
inductive Stage where
  | flags
  | widthDigits (n : Nat)
  | widthDone
  | point
  | precisionDigits (n : Nat)
  | precisionDone
  | half
  | long
  | sized
  deriving DecidableEq, Repr

/-- The state of reading: whether an unknown conversion has been met, and the open directive. -/
structure Reading where
  lenient : Bool := false
  openDirective : Option (Directive × Stage) := none
  deriving DecidableEq, Repr

def digit? (b : UInt8) : Option Nat := if 0x30 ≤ b && b ≤ 0x39 then some (b.toNat - 0x30) else none

def Directive.flag? (d : Directive) (b : UInt8) : Option Directive :=
  match Char.ofNat b.toNat with
  | '#' => some { d with flags := { d.flags with alternate := true } }
  | '+' => some { d with flags := { d.flags with plus := true } }
  | ' ' => some { d with flags := { d.flags with blank := true } }
  | '-' => some { d with flags := { d.flags with left := true } }
  | '0' => some { d with flags := { d.flags with zero := true } }
  | _ => none

/-- A finished number as an extent. -/
def extentOf (lenient : Bool) (n : Nat) : Except Fault Extent :=
  if n ≤ maxCount then .ok (.fixed n)
  else if lenient then .ok .absent
  else .error .numberTooLarge

def conclude (r : Reading) (d : Directive) (b : UInt8) : List Item × Reading :=
  let c := Conversion.ofByte b
  let lenient := r.lenient || !c.isKnown
  ([.directive { d with conversion := c, lenient := lenient }], ⟨lenient, none⟩)

/-- A byte where a length modifier or the conversion may stand. -/
def sizeOrEnd (r : Reading) (d : Directive) (b : UInt8) : List Item × Reading :=
  match Char.ofNat b.toNat with
  | 'h' => ([], { r with openDirective := some ({ d with size := .short }, .half) })
  | 'l' => ([], { r with openDirective := some ({ d with size := .long }, .long) })
  | 'j' | 'z' | 't' => ([], { r with openDirective := some ({ d with size := .long }, .sized) })
  | _ => conclude r d b

/-- A byte where a precision, a length modifier or the conversion may stand. -/
def pointOrSize (r : Reading) (d : Directive) (b : UInt8) : List Item × Reading :=
  if b == 0x2E then
    ([], { r with openDirective := some ({ d with precision := .fixed 0 }, .point) })
  else sizeOrEnd r d b

def inside (r : Reading) (d : Directive) (b : UInt8) :
    Stage → Except Fault (List Item × Reading)
  | .flags =>
    match d.flag? b with
    | some d' => .ok ([], { r with openDirective := some (d', .flags) })
    | none =>
      if b == 0x2A then
        .ok ([], { r with openDirective := some ({ d with width := .argument }, .widthDone) })
      else
        match digit? b with
        | some k => .ok ([], { r with openDirective := some (d, .widthDigits k) })
        | none => .ok (pointOrSize r d b)
  | .widthDigits n =>
    match digit? b with
    | some k => .ok ([], { r with openDirective := some (d, .widthDigits (n * 10 + k)) })
    | none => do
      let width ← extentOf r.lenient n
      return pointOrSize r { d with width := width } b
  | .widthDone => .ok (pointOrSize r d b)
  | .point =>
    if b == 0x2A then
      .ok ([], { r with openDirective := some ({ d with precision := .argument }, .precisionDone) })
    else
      match digit? b with
      | some k => .ok ([], { r with openDirective := some (d, .precisionDigits k) })
      | none => .ok (sizeOrEnd r d b)
  | .precisionDigits n =>
    match digit? b with
    | some k => .ok ([], { r with openDirective := some (d, .precisionDigits (n * 10 + k)) })
    | none => do
      let precision ← extentOf r.lenient n
      return sizeOrEnd r { d with precision := precision } b
  | .precisionDone => .ok (sizeOrEnd r d b)
  | .half =>
    if b == 0x68 then .ok ([], { r with openDirective := some ({ d with size := .byte }, .sized) })
    else .ok (conclude r d b)
  | .long =>
    if b == 0x6C then .ok ([], { r with openDirective := some (d, .sized) })
    else .ok (conclude r d b)
  | .sized => .ok (conclude r d b)

def advance (r : Reading) (b : UInt8) : Except Fault (List Item × Reading) :=
  match r.openDirective with
  | none =>
    if b == 0x25 then .ok ([], { r with openDirective := some ({}, .flags) })
    else .ok ([.literal b], r)
  | some (d, stage) => inside r d b stage

/-- A number that the end of the format left open. -/
def Stage.settle (d : Directive) : Stage → Directive
  | .widthDigits n => if n ≤ maxCount then { d with width := .fixed n } else d
  | .precisionDigits n =>
    { d with precision := if n ≤ maxCount then .fixed n else .absent }
  | _ => d

def close (r : Reading) : Except Fault (List Item) :=
  match r.openDirective with
  | none => .ok []
  | some (d, stage) =>
    if r.lenient then .ok [.directive { stage.settle d with lenient := true }]
    else .error .incomplete

def readFrom : Reading → Bytes → Except Fault (List Item)
  | r, [] => close r
  | r, b :: bs => do
    let (items, r') ← advance r b
    let rest ← readFrom r' bs
    return items ++ rest

def read (format : Bytes) : Except Fault (List Item) := readFrom {} format

end ConsoleRelay.Format
