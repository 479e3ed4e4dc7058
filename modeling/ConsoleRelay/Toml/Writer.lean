import ConsoleRelay.Text.Numeral

/-!
Writing TOML values as the library `toml` does.

A string is written in the first of these forms that holds it without escapes: between double
quotes, between single quotes, between three double quotes, between three single quotes. Where none
does, it is written with escapes between double quotes, three of them if it has a line break. A tab
never decides about the form.
-/
namespace ConsoleRelay.Toml.Writer

inductive Form where
  | basic
  | literal
  | blockBasic
  | blockLiteral
  deriving DecidableEq, Repr

def Form.isBlock : Form → Bool
  | .basic | .literal => false
  | .blockBasic | .blockLiteral => true

def Form.isBasic : Form → Bool
  | .basic | .blockBasic => true
  | .literal | .blockLiteral => false

def Form.delimiter : Form → Text
  | .basic => "\"".toList
  | .literal => "'".toList
  | .blockBasic => "\"\"\"".toList
  | .blockLiteral => "'''".toList

/-- A control character that can only be written as an escape: tabs and line breaks do without. -/
def isControl (c : Char) : Bool := (c.toNat < 0x20 && c != '\t' && c != '\n') || c.toNat == 0x7F

/-- The longest run of a character in a text. The second argument is the run that is open. -/
def longestRun (c : Char) : Nat → Text → Nat
  | run, [] => run
  | run, d :: t => if d = c then longestRun c (run + 1) t else max run (longestRun c 0 t)

def Form.holds (form : Form) (t : Text) : Bool :=
  let quotes := longestRun (if form.isBasic then '\x22' else '\x27') 0 t
  !t.any isControl && (form.isBlock || !t.contains '\n') && (!form.isBasic || !t.contains '\\') &&
    quotes ≤ (if form.isBlock then 2 else 0)

def Form.of (t : Text) : Form :=
  (([.basic, .literal, .blockBasic, .blockLiteral] : List Form).find? (·.holds t)).getD
    (if t.contains '\n' then .blockBasic else .basic)

def shortEscapes : List (Char × String) := [
  ('\x08', "\\b"), ('\t', "\\t"), ('\n', "\\n"), ('\x0C', "\\f"), ('\r', "\\r"), ('\x22', "\\\""),
  ('\\', "\\\\")]

def numericEscape (c : Char) : Text :=
  let digits := (hex c.toNat).map upperHex
  "\\u".toList ++ List.replicate (4 - digits.length) '0' ++ digits

def escape (c : Char) : Text :=
  match shortEscapes.lookup c with
  | some e => e.toList
  | none => if isControl c then numericEscape c else [c]

/-- The body of a string with escapes. In a block line breaks stay, and so do double quotes until a
third one would follow in a row; the first argument counts those in a row since the last escape. -/
def escaped (block : Bool) : Nat → Text → Text
  | _, [] => []
  | quotes, c :: t =>
    if c = '\x22' then
      if block && quotes < 2 then c :: escaped block (quotes + 1) t
      else escape c ++ escaped block 0 t
    else if block && c = '\n' then c :: escaped block 0 t
    else escape c ++ escaped block 0 t

/-- A string. A block with a line break in it starts on a line of its own. -/
def string (t : Text) : Text :=
  let form := Form.of t
  form.delimiter ++ (if form.isBlock && t.contains '\n' then ['\n'] else []) ++
    (if form.isBasic then escaped form.isBlock 0 t else t) ++ form.delimiter

def line (key : String) (value : Text) : Text :=
  key.toList ++ " = ".toList ++ value ++ "\n".toList

end ConsoleRelay.Toml.Writer
