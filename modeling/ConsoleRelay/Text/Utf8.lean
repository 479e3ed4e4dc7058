/-!
UTF-8 as a byte-at-a-time reader.

`pieces` cuts any byte string into characters and broken runs, where a broken run is a maximal
invalid subpart: a lead byte with as many of its continuation bytes as were there, or one byte that
starts nothing. Everything that looks at characters goes through it: lossy text, strict decoding,
and quoting.
-/
namespace ConsoleRelay

/-- Raw bytes: file contents, paths, arguments and rendered messages. -/
abbrev Bytes := List UInt8

abbrev Text := List Char

namespace Utf8

def encode (t : Text) : Bytes := t.flatMap String.utf8EncodeChar

def ofString (s : String) : Bytes := encode s.toList

/-- A byte of the form `10xxxxxx`. -/
def isContinuation (b : UInt8) : Bool := 0x80 ≤ b && b < 0xC0

/-- What a byte string is cut into. -/
inductive Piece where
  | char (c : Char)
  | broken (bytes : Bytes)
  deriving DecidableEq, Repr

/-- A character begun but not finished: the bytes so far, the value they stand for, how many more
are due, and the range the next one has to lie in. -/
structure Begun where
  seen : Bytes
  value : Nat
  due : Nat
  low : UInt8
  high : UInt8
  deriving DecidableEq, Repr

/-- What a lead byte promises. The ranges leave out overlong forms, surrogates and values above
U+10FFFF. -/
def lead (b : UInt8) : Option Begun :=
  if 0xC2 ≤ b && b ≤ 0xDF then some ⟨[b], b.toNat - 0xC0, 1, 0x80, 0xBF⟩
  else if b == 0xE0 then some ⟨[b], 0, 2, 0xA0, 0xBF⟩
  else if b == 0xED then some ⟨[b], 0xD, 2, 0x80, 0x9F⟩
  else if 0xE1 ≤ b && b ≤ 0xEF then some ⟨[b], b.toNat - 0xE0, 2, 0x80, 0xBF⟩
  else if b == 0xF0 then some ⟨[b], 0, 3, 0x90, 0xBF⟩
  else if 0xF1 ≤ b && b ≤ 0xF3 then some ⟨[b], b.toNat - 0xF0, 3, 0x80, 0xBF⟩
  else if b == 0xF4 then some ⟨[b], 4, 3, 0x80, 0x8F⟩
  else none

def start (b : UInt8) : List Piece × Option Begun :=
  if b < 0x80 then ([.char (Char.ofNat b.toNat)], none)
  else
    match lead b with
    | some o => ([], some o)
    | none => ([.broken [b]], none)

def extend (o : Begun) (b : UInt8) : List Piece × Option Begun :=
  let value := o.value * 64 + (b.toNat - 0x80)
  if o.due ≤ 1 then ([.char (Char.ofNat value)], none)
  else ([], some ⟨o.seen ++ [b], value, o.due - 1, 0x80, 0xBF⟩)

/-- Read a byte. One that does not fit breaks the open character off and is read afresh. -/
def feed : Option Begun → UInt8 → List Piece × Option Begun
  | none, b => start b
  | some o, b =>
    if o.low ≤ b && b ≤ o.high then extend o b
    else (.broken o.seen :: (start b).1, (start b).2)

/-- The end of the bytes breaks off what is still open. -/
def finish : Option Begun → List Piece
  | none => []
  | some o => [.broken o.seen]

def piecesFrom : Option Begun → Bytes → List Piece
  | st, [] => finish st
  | st, b :: bs => (feed st b).1 ++ piecesFrom (feed st b).2 bs

def pieces (bs : Bytes) : List Piece := piecesFrom none bs

def replacement : Char := '\uFFFD'

def Piece.toChar : Piece → Char
  | .char c => c
  | .broken _ => replacement

def Piece.char? : Piece → Option Char
  | .char c => some c
  | .broken _ => none

/-- Text of any bytes: each broken run reads as one replacement character. -/
def lossy (bs : Bytes) : Text := (pieces bs).map Piece.toChar

/-- Text of valid UTF-8 only. -/
def decode? (bs : Bytes) : Option Text := (pieces bs).mapM Piece.char?

end Utf8

end ConsoleRelay
