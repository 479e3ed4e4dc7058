import ConsoleRelay.Host.Shell.Syntax

/-!
Tokens of the command interpreter, and the source they are read from.
-/
namespace ConsoleRelay.Shell

inductive Arrow where
  | file (access : Access)
  | duplicate
  | document (strip : Bool)
  deriving DecidableEq, Repr

inductive Keyword where
  | negation
  | case
  | «do»
  | done
  | elseIf
  | «else»
  | esac
  | fi
  | «for»
  | «if»
  | «in»
  | «then»
  | until
  | while
  | openBrace
  | closeBrace
  deriving DecidableEq, Repr

def Keyword.spellings : List (String × Keyword) := [
  ("!", .negation), ("case", .case), ("do", .do), ("done", .done), ("elif", .elseIf),
  ("else", .else), ("esac", .esac), ("fi", .fi), ("for", .for), ("if", .if), ("in", .in),
  ("then", .then), ("until", .until), ("while", .while), ("\x7b", .openBrace),
  ("\x7d", .closeBrace)]

def Keyword.ofBytes? (bs : Bytes) : Option Keyword :=
  (spellings.find? fun k => bytes k.1 == bs).map Prod.snd

def Keyword.spelling (k : Keyword) : String :=
  ((spellings.find? fun s => s.2 == k).map Prod.fst).getD ""

def Keyword.endsList : Keyword → Bool
  | .do | .done | .elseIf | .else | .esac | .fi | .then | .closeBrace => true
  | _ => false

/-- A token. A word knows whether any of it was quoted. -/
inductive Token where
  | endOfFile
  | newline
  | semicolon
  | ampersand
  | both
  | either
  | pipe
  | openParen
  | closeParen
  | endOfCase
  | arrow (fd : Nat) (a : Arrow)
  | word (parts : Word) (quoted : Bool)
  | keyword (k : Keyword)

def Token.describe : Token → String
  | .endOfFile => "end of file"
  | .newline => "newline"
  | .semicolon => "\";\""
  | .ampersand => "\"&\""
  | .both => "\"&&\""
  | .either => "\"||\""
  | .pipe => "\"|\""
  | .openParen => "\"(\""
  | .closeParen => "\")\""
  | .endOfCase => "\";;\""
  | .arrow .. => "redirection"
  | .word .. => "word"
  | .keyword k => "\"" ++ k.spelling ++ "\""

def Token.endsList : Token → Bool
  | .endOfFile | .closeParen | .endOfCase => true
  | .keyword k => k.endsList
  | _ => false

/-- The token with a keyword in place of the word that spells it. -/
def Token.withKeywords : Token → Token
  | .word [.plain bs] false =>
    match Keyword.ofBytes? bs with
    | some k => .keyword k
    | none => .word [.plain bs] false
  | t => t

structure Waiting where
  id : Nat
  delimiter : Bytes
  strip : Bool
  literal : Bool
  deriving DecidableEq, Repr

/-- A script while it is read: what is left of it, the line, a token given back, and the
here-documents of the current line and of the lines before. That of a file may be shown as it is
read. -/
structure Source where
  rest : Bytes
  isFile : Bool := false
  line : Nat := 1
  returned : Option Token := none
  waiting : List Waiting := []
  documents : List (Nat × Word) := []
  nextDocument : Nat := 0

structure SyntaxError where
  line : Nat
  message : Bytes
  deriving DecidableEq, Repr

abbrev Reader := StateT Source (Except SyntaxError)

namespace Reader

def fail (message : String) : Reader α := do
  throw ⟨(← get).line, bytes message⟩

def unexpected (t : Token) (expected : Option Token := none) : Reader α :=
  fail (t.describe ++ " unexpected" ++
    match expected with
    | some e => " (expecting " ++ e.describe ++ ")"
    | none => "")

def skip (n : Nat) : Reader Unit := modify fun s =>
  { s with rest := s.rest.drop n, line := s.line + (s.rest.take n).count 0x0A }

def takeWhile (p : UInt8 → Bool) : Reader Bytes := do
  let bs := (← get).rest.takeWhile p
  skip bs.length
  return bs

def joinLines : Reader Unit := do
  let s ← get
  let rec count : Bytes → Nat
    | 0x5C :: 0x0A :: r => count r + 1
    | _ => 0
  skip (2 * count s.rest)

def peek : Reader (Option UInt8) := do
  joinLines
  return (← get).rest.head?

def accept (c : Char) : Reader Bool := do
  if (← peek) == some (byte c) then
    skip 1
    return true
  else return false

def giveBack (t : Token) : Reader Unit := modify fun s => { s with returned := some t }

end Reader

end ConsoleRelay.Shell
