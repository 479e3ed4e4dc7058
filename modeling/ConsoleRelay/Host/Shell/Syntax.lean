import ConsoleRelay.Text.Numeral

/-!
The language of the command interpreter, as trees. The interpreter runs on the machine that stands
in for the operating system.

A word is kept as its parts, so that quoted and unquoted ones can be told apart when it is expanded.
A here-document is named by a number, since its text follows on later lines than the command.
-/
namespace ConsoleRelay.Shell

def byte (c : Char) : UInt8 := UInt8.ofNat c.toNat

def bytes (s : String) : Bytes := Utf8.ofString s

def isSpace (b : UInt8) : Bool := b == 0x20 || b == 0x09

def isDigit (b : UInt8) : Bool := 0x30 ≤ b && b ≤ 0x39

def isNameStart (b : UInt8) : Bool :=
  (0x41 ≤ b && b ≤ 0x5A) || (0x61 ≤ b && b ≤ 0x7A) || b == 0x5F

def isNameByte (b : UInt8) : Bool := isNameStart b || isDigit b

def isName (bs : Bytes) : Bool := bs.head?.any isNameStart && bs.all isNameByte

inductive Operator where
  | value
  | length
  | default
  | assign
  | insist
  | alternative
  | trimEnd (longest : Bool)
  | trimStart (longest : Bool)
  | unknown
  deriving DecidableEq, Repr

inductive Access where
  | read
  | write
  | replace
  | append
  | readWrite
  deriving DecidableEq, Repr

mutual

/-- A part of a word. A parameter's `strict` form takes an empty value for a missing one. -/
inductive Part where
  | plain (bytes : Bytes)
  | quoted (bytes : Bytes)
  | parameter (quoted : Bool) (name : Bytes) (op : Operator) (strict : Bool) (word : List Part)
  | output (quoted : Bool) (body : Command)
  | arithmetic (quoted : Bool) (expression : List Part)

inductive Redirection where
  | file (fd : Nat) (access : Access) (target : List Part)
  | duplicate (fd : Nat) (target : List Part)
  | document (fd : Nat) (id : Nat)

/-- A command. Those that can fail on their own know their line. -/
inductive Command where
  | nothing
  | simple (line : Nat) (assignments : List (Bytes × List Part)) (words : List (List Part))
      (redirections : List Redirection)
  | pipeline (commands : List Command)
  | negation (c : Command)
  | both (first second : Command)
  | either (first second : Command)
  | sequence (first second : Command)
  | background (c : Command)
  | redirected (line : Nat) (c : Command) (redirections : List Redirection)
  | subshell (line : Nat) (c : Command) (redirections : List Redirection)
  | conditional (test yes : Command) (no : Option Command)
  | loop (negated : Bool) (test body : Command)
  | each (line : Nat) (name : Bytes) (words : List (List Part)) (body : Command)
  | choose (line : Nat) (word : List Part) (items : List (List (List Part) × Command))
  | define (line : Nat) (name : Bytes) (body : Command)

end

def Command.andThen (first : Command) : Command → Command
  | .nothing => first
  | second => .sequence first second

/-- A command with redirections around it. Those of a subshell take the place of its own. -/
def Command.withRedirections (line : Nat) (rs : List Redirection) (c : Command) : Command :=
  match rs, c with
  | [], c => c
  | rs, .subshell own body _ => .subshell own body rs
  | rs, c => .redirected line c rs

abbrev Word := List Part

def Word.arguments : Word := [.parameter true (bytes "@") .value false []]

def Word.addPlain (bs : Bytes) : Word → Word
  | .plain cs :: w => .plain (bs ++ cs) :: w
  | w => .plain bs :: w

end ConsoleRelay.Shell
