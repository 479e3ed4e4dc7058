import ConsoleRelay.Text.Numeral
import ConsoleRelay.Text.Printable

/-!
Quoted text, as it appears in diagnostics.

Three things are quoted, all between double quotes: text, paths (whose broken bytes show as
upper-case `\xFF`) and raw bytes (whose control and broken bytes show as lower-case `\xff`, and
where the single quote is escaped too).
-/
namespace ConsoleRelay.Quoted

/-- A character escaped by its number, as in U+200B. -/
def byNumber (c : Char) : Text := "\\u\x7b".toList ++ hex c.toNat ++ "\x7d".toList

def char (c : Char) : Text :=
  if c = '\x00' then "\\0".toList
  else if c = '\t' then "\\t".toList
  else if c = '\n' then "\\n".toList
  else if c = '\r' then "\\r".toList
  else if c = '\x22' then "\\\"".toList
  else if c = '\\' then "\\\\".toList
  else if Printable.isPrintable c then [c]
  else byNumber c

def asciiChar (c : Char) : Text :=
  if c = '\x00' then "\\0".toList
  else if c = '\t' then "\\t".toList
  else if c = '\n' then "\\n".toList
  else if c = '\r' then "\\r".toList
  else if c = '\x22' then "\\\"".toList
  else if c = '\x27' then "\\'".toList
  else if c = '\\' then "\\\\".toList
  else if Printable.isPrintable c then [c]
  else "\\x".toList ++ byteHex (UInt8.ofNat c.toNat)

def pathPiece : Utf8.Piece → Text
  | .char c => char c
  | .broken bs => bs.flatMap fun b => "\\x".toList ++ (byteHex b).map upperHex

def rawPiece : Utf8.Piece → Text
  | .char c => if c.toNat < 0x80 then asciiChar c else char c
  | .broken bs => bs.flatMap fun b => "\\x".toList ++ byteHex b

def enclose (body : Text) : Text := '\x22' :: body ++ ['\x22']

def text (t : Text) : Text := enclose (t.flatMap char)

def path (bs : Bytes) : Text := enclose ((Utf8.pieces bs).flatMap pathPiece)

def raw (bs : Bytes) : Text := enclose ((Utf8.pieces bs).flatMap rawPiece)

def optional (describe : α → Text) : Option α → Text
  | none => "None".toList
  | some a => "Some(".toList ++ describe a ++ ")".toList

def truth (b : Bool) : Text := if b then "true".toList else "false".toList

/-- A named record: its fields in order, between braces. -/
def record (name : String) (fields : List (String × Text)) : Text :=
  name.toList ++ " \x7b ".toList ++
    List.intercalate ", ".toList (fields.map fun f => f.1.toList ++ ": ".toList ++ f.2) ++
    " \x7d".toList

end ConsoleRelay.Quoted
