import ConsoleRelay.Host.Shell.Arithmetic
import ConsoleRelay.Host.Shell.Expansion

/-!
Conditions of the builtin `test`: about files, texts and numbers.

A word is an operator or an operand depending on what follows it, so that every text can be an
operand.
-/
namespace ConsoleRelay.Shell.Condition

inductive Sign where
  | unary (c : Char)
  | binary (s : String)
  | both
  | either
  | negation
  | opening
  | closing
  deriving DecidableEq, Repr

def letters : List Char := "rwxefdcbpugksthLOGSzn".toList

def comparisons : List String := [
  "=", "!=", "<", ">", "-eq", "-ne", "-ge", "-gt", "-le", "-lt", "-nt", "-ot", "-ef"]

def Sign.ofBytes? (bs : Bytes) : Option Sign :=
  if bs == bytes "!" then some .negation
  else if bs == bytes "(" then some .opening
  else if bs == bytes ")" then some .closing
  else if bs == bytes "-a" then some .both
  else if bs == bytes "-o" then some .either
  else
    match comparisons.find? fun c => bytes c == bs with
    | some c => some (.binary c)
    | none =>
      match bs with
      | [0x2D, b] => (letters.find? fun c => byte c == b).map .unary
      | _ => none

def isBinary (bs : Bytes) : Bool :=
  match Sign.ofBytes? bs with
  | some (.binary _) => true
  | _ => false

inductive Lexeme where
  | nothing
  | operand
  | sign (s : Sign)
  deriving DecidableEq, Repr

/-- What the first of some words is. A unary operator without an operand, or in front of a binary
one, is an operand. -/
def lex : List Bytes → Lexeme
  | [] => .nothing
  | w :: rest =>
    match Sign.ofBytes? w with
    | none => .operand
    | some (.unary c) =>
      match rest with
      | [] => .operand
      | [_] => .sign (.unary c)
      | t :: _ => if isBinary t then .operand else .sign (.unary c)
    | some .opening => if rest.isEmpty then .operand else .sign .opening
    | some s => .sign s

abbrev Complaint := Bytes

def number (bs : Bytes) : Except Complaint Int :=
  let (negative, rest) := match bs.dropWhile fun b => b == 0x20 || (0x09 ≤ b && b ≤ 0x0D) with
    | 0x2D :: r => (true, r)
    | 0x2B :: r => (false, r)
    | r => (false, r)
  let digits := rest.takeWhile isDigit
  let after := (rest.drop digits.length).dropWhile fun b => b == 0x20 || (0x09 ≤ b && b ≤ 0x0D)
  if digits.isEmpty || !after.isEmpty then .error (bytes "Illegal number: " ++ bs)
  else .ok (if negative then -(natOf digits : Int) else natOf digits)

def unary (d : Disk) (c : Char) (operand : Bytes) : Except Complaint Bool :=
  let entry := (d.find operand).toOption
  match c with
  | 'z' => .ok operand.isEmpty
  | 'n' => .ok !operand.isEmpty
  | 't' => do
    let _ ← number operand
    return false
  | 'e' | 'r' | 'w' | 'O' | 'G' => .ok entry.isSome
  | 'f' => .ok (d.isFile operand)
  | 'd' => .ok (d.isDirectory operand)
  | 'x' => .ok (match entry with
    | some .directory | some (.file _ true) | some (.tool _) => true
    | _ => false)
  | 's' => .ok (match entry with
    | some (.file content _) => !content.isEmpty
    | some .directory | some (.tool _) => true
    | _ => false)
  | 'c' => .ok (entry == some .null)
  | _ => .ok false

def binary (d : Disk) (s : String) (a b : Bytes) : Except Complaint Bool :=
  let numbers (holds : Int → Int → Bool) : Except Complaint Bool := do
    let x ← number a
    let y ← number b
    return holds x y
  match s with
  | "=" => .ok (a == b)
  | "!=" => .ok (a != b)
  | "<" => .ok (nameLe a b && a != b)
  | ">" => .ok !nameLe a b
  | "-eq" => numbers (· == ·)
  | "-ne" => numbers (· != ·)
  | "-ge" => numbers fun x y => y ≤ x
  | "-gt" => numbers fun x y => y < x
  | "-le" => numbers fun x y => x ≤ y
  | "-lt" => numbers fun x y => x < y
  | "-ef" => .ok (match d.locate a, d.locate b with
    | .ok x, .ok y => x == y
    | _, _ => false)
  | _ => .ok false

mutual

/-- Conditions of which one has to hold. The words start with the first of them and the result's
with the last word read. The first argument bounds the depth. -/
def either (d : Disk) : Nat → Lexeme → List Bytes → Except Complaint (Bool × List Bytes)
  | 0, _, ws => .ok (false, ws)
  | n + 1, x, ws => do
    let (a, ws) ← both d n x ws
    match lex (ws.drop 1) with
    | .sign .either =>
      let (b, ws) ← either d n (lex (ws.drop 2)) (ws.drop 2)
      return (a || b, ws)
    | _ => return (a, ws)

def both (d : Disk) : Nat → Lexeme → List Bytes → Except Complaint (Bool × List Bytes)
  | 0, _, ws => .ok (false, ws)
  | n + 1, x, ws => do
    let (a, ws) ← negated d n x ws
    match lex (ws.drop 1) with
    | .sign .both =>
      let (b, ws) ← both d n (lex (ws.drop 2)) (ws.drop 2)
      return (a && b, ws)
    | _ => return (a, ws)

def negated (d : Disk) : Nat → Lexeme → List Bytes → Except Complaint (Bool × List Bytes)
  | 0, _, ws => .ok (false, ws)
  | n + 1, x, ws => do
    match x with
    | .sign .negation =>
      let next := lex (ws.drop 1)
      let (a, ws) ← negated d n next (if next == .nothing then ws else ws.drop 1)
      return (!a, ws)
    | x => single d n x ws

/-- A condition in parentheses, a unary or binary one, or a text that is not empty. -/
def single (d : Disk) : Nat → Lexeme → List Bytes → Except Complaint (Bool × List Bytes)
  | 0, _, ws => .ok (false, ws)
  | n + 1, x, ws => do
    match x with
    | .nothing => return (false, ws)
    | .sign .opening =>
      let inner := ws.drop 1
      match lex inner with
      | .sign .closing => return (false, inner)
      | next =>
        let (a, ws) ← either d n next inner
        match lex (ws.drop 1) with
        | .sign .closing => return (a, ws.drop 1)
        | _ => throw (bytes "closing paren expected")
    | .sign (.unary c) =>
      match ws.drop 1 with
      | [] => throw (ws.headD [] ++ bytes ": argument expected")
      | operand :: rest => return (← unary d c operand, operand :: rest)
    | _ =>
      match lex (ws.drop 1) with
      | .sign (.binary s) =>
        match ws.drop 2 with
        | [] => throw (bytes s ++ bytes ": argument expected")
        | operand :: rest => return (← binary d s (ws.headD []) operand, operand :: rest)
      | _ => return (!(ws.headD []).isEmpty, ws)

end

def general (d : Disk) (x : Lexeme) (ws : List Bytes) : Except Complaint Bool := do
  let (a, rest) ← either d (4 * ws.length + 8) x ws
  match rest with
  | w :: _ :: _ => throw (w ++ bytes ": unexpected operator")
  | _ => return a

/-- The value of a condition. Three and four words are read by their own rules first. -/
def evaluate (d : Disk) : List Bytes → Except Complaint Bool
  | [] => .ok false
  | [a, op, b] =>
    if isBinary op then general d .operand [a, op, b]
    else if a == bytes "(" && b == bytes ")" then general d (lex [op]) [op]
    else if a == bytes "!" then (evaluate d [op, b]).map not
    else general d (lex [a, op, b]) [a, op, b]
  | [a, b, c, e] =>
    if a == bytes "(" && e == bytes ")" then general d (lex [b, c]) [b, c]
    else if a == bytes "!" then (evaluate d [b, c, e]).map not
    else general d (lex [a, b, c, e]) [a, b, c, e]
  | ws => general d (lex ws) ws
termination_by ws => ws.length

end ConsoleRelay.Shell.Condition
