import ConsoleRelay.Host.Shell.Syntax

/-!
Arithmetic expressions over 64-bit integers.

Operands that are not needed are read but not evaluated, so that they neither assign nor divide.
-/
namespace ConsoleRelay.Shell.Arithmetic

inductive Fault where
  | expected (what : String)
  | divisionByZero
  | badNumber (text : Bytes)
  deriving DecidableEq, Repr

def Fault.message (expression : Bytes) : Fault → Bytes
  | .expected what =>
    bytes "arithmetic expression: expecting " ++ bytes what ++ bytes ": \"" ++ expression ++ [0x22]
  | .divisionByZero =>
    bytes "arithmetic expression: division by zero: \"" ++ expression ++ [0x22]
  | .badNumber text => bytes "Illegal number: " ++ text

inductive Symbol where
  | number (n : Int64)
  | name (bs : Bytes)
  | operator (s : String)
  deriving DecidableEq, Repr

def operators : List String := [
  "<<=", ">>=", "<<", ">>", "<=", ">=", "==", "!=", "&&", "||", "+=", "-=", "*=", "/=", "%=", "&=",
  "|=", "^=", "+", "-", "*", "/", "%", "<", ">", "=", "!", "~", "&", "|", "^", "?", ":", "(", ")"]

def digitValue? (b : UInt8) : Option Nat :=
  if isDigit b then some (b.toNat - 0x30)
  else if 0x61 ≤ b && b ≤ 0x66 then some (b.toNat - 0x57)
  else if 0x41 ≤ b && b ≤ 0x46 then some (b.toNat - 0x37)
  else none

/-- The digits of a base that come first, as a number, and the rest. -/
def digits (base : Nat) (bs : Bytes) : Nat × Bytes :=
  let isDigitOf := fun b => (digitValue? b).any (· < base)
  ((bs.takeWhile isDigitOf).foldl (fun n b => n * base + (digitValue? b).getD 0) 0,
   bs.dropWhile isDigitOf)

def largest : Nat := 9223372036854775807

/-- A number at the start of a text, in base sixteen after `0x`, in base eight after `0`. -/
def unsigned : Bytes → Nat × Bytes
  | 0x30 :: 0x78 :: b :: r | 0x30 :: 0x58 :: b :: r =>
    if (digitValue? b).isSome then digits 16 (b :: r) else (0, 0x78 :: b :: r)
  | 0x30 :: r => digits 8 (0x30 :: r)
  | bs => digits 10 bs

/-- The number a text stands for, with blanks around it. An empty text is zero. -/
def number? (text : Bytes) : Option Int :=
  let blank := fun (b : UInt8) => b == 0x20 || (0x09 ≤ b && b ≤ 0x0D)
  let (negative, rest) := match text.dropWhile blank with
    | 0x2D :: r => (true, r)
    | 0x2B :: r => (false, r)
    | r => (false, r)
  if rest.isEmpty then if negative then none else some 0
  else if !rest.head?.any isDigit then none
  else
    let (n, after) := unsigned rest
    if (after.dropWhile blank).isEmpty then
      some (if negative then -(min n (largest + 1) : Int) else (min n largest : Int))
    else none

/-- The tokens of an expression. A byte that starts none ends it as an operator of its own. The
first argument bounds their number. -/
def symbols : Nat → Bytes → List Symbol
  | 0, _ => []
  | _ + 1, [] => []
  | n + 1, b :: r =>
    if b == 0x20 || b == 0x09 || b == 0x0A then symbols n r
    else if isDigit b then
      let (v, rest) := unsigned (b :: r)
      .number (Int64.ofNat (min v largest)) :: symbols n rest
    else if isNameStart b then
      .name ((b :: r).takeWhile isNameByte) :: symbols n ((b :: r).dropWhile isNameByte)
    else
      match operators.find? fun o => (bytes o).isPrefixOf (b :: r) with
      | some o => .operator o :: symbols n ((b :: r).drop (bytes o).length)
      | none => [.operator ""]

/-- Evaluation: what is left of the tokens, and the variables as they are changed. -/
structure State where
  rest : List Symbol
  assigned : List (Bytes × Int64) := []

abbrev Eval := StateT State (Except Fault)

def levels : List (List String) := [
  ["|"], ["^"], ["&"], ["==", "!="], ["<", "<=", ">", ">="], ["<<", ">>"], ["+", "-"],
  ["*", "/", "%"]]

def truth (b : Bool) : Int64 := if b then 1 else 0

def apply (o : String) (a b : Int64) : Except Fault Int64 :=
  match o with
  | "|" => .ok (a ||| b)
  | "^" => .ok (a ^^^ b)
  | "&" => .ok (a &&& b)
  | "==" => .ok (truth (a == b))
  | "!=" => .ok (truth (a != b))
  | "<" => .ok (truth (a < b))
  | "<=" => .ok (truth (a ≤ b))
  | ">" => .ok (truth (b < a))
  | ">=" => .ok (truth (b ≤ a))
  | "<<" => .ok (a <<< b)
  | ">>" => .ok (a >>> b)
  | "+" => .ok (a + b)
  | "-" => .ok (a - b)
  | "*" => .ok (a * b)
  | "/" => if b == 0 then .error .divisionByZero else .ok (a / b)
  | "%" => if b == 0 then .error .divisionByZero else .ok (a % b)
  | _ => .ok b

def operator? (os : List String) : Eval (Option String) := do
  match (← get).rest with
  | .operator o :: rest =>
    if os.contains o then
      modify fun s => { s with rest := rest }
      return some o
    else return none
  | _ => return none

def demand (o : String) (what : String) : Eval Unit := do
  if (← operator? [o]).isNone then throw (.expected what)

def valueOf (lookup : Bytes → Option Bytes) (name : Bytes) : Eval Int64 := do
  match (← get).assigned.lookup name with
  | some v => return v
  | none =>
    let text := (lookup name).getD []
    match number? text with
    | some n => return Int64.ofInt n
    | none => throw (.badNumber text)

def assignments : List (String × String) := [
  ("=", ""), ("+=", "+"), ("-=", "-"), ("*=", "*"), ("/=", "/"), ("%=", "%"), ("&=", "&"),
  ("|=", "|"), ("^=", "^"), ("<<=", "<<"), (">>=", ">>")]

mutual

/-- An assignment or a conditional. The flag tells whether it is needed. -/
def assignment (lookup : Bytes → Option Bytes) : Nat → Bool → Eval Int64
  | 0, _ => throw (.expected "primary")
  | n + 1, needed => do
    match (← get).rest with
    | .name x :: .operator o :: rest =>
      match assignments.lookup o with
      | some before =>
        modify fun s => { s with rest := rest }
        let v ← assignment lookup n needed
        if needed then
          let v ← if before == "" then pure v else do apply before (← valueOf lookup x) v
          modify fun s => { s with assigned := (x, v) :: s.assigned }
          return v
        else return v
      | none => conditional lookup n needed
    | _ => conditional lookup n needed

def conditional (lookup : Bytes → Option Bytes) : Nat → Bool → Eval Int64
  | 0, _ => throw (.expected "primary")
  | n + 1, needed => do
    let test ← disjunction lookup n needed
    match ← operator? ["?"] with
    | none => return test
    | some _ =>
      let yes ← assignment lookup n (needed && test != 0)
      demand ":" "':'"
      let no ← conditional lookup n (needed && test == 0)
      return if test != 0 then yes else no

def disjunction (lookup : Bytes → Option Bytes) : Nat → Bool → Eval Int64
  | 0, _ => throw (.expected "primary")
  | n + 1, needed => do
    let a ← conjunction lookup n needed
    match ← operator? ["||"] with
    | none => return a
    | some _ =>
      let b ← disjunction lookup n (needed && a == 0)
      return truth (a != 0 || b != 0)

def conjunction (lookup : Bytes → Option Bytes) : Nat → Bool → Eval Int64
  | 0, _ => throw (.expected "primary")
  | n + 1, needed => do
    let a ← binary lookup n needed levels
    match ← operator? ["&&"] with
    | none => return a
    | some _ =>
      let b ← conjunction lookup n (needed && a != 0)
      return truth (a != 0 && b != 0)

def binary (lookup : Bytes → Option Bytes) : Nat → Bool → List (List String) → Eval Int64
  | 0, _, _ => throw (.expected "primary")
  | n + 1, needed, [] => primary lookup n needed
  | n + 1, needed, os :: stronger => do
    let a ← binary lookup n needed stronger
    binaryRest lookup n needed os stronger a

def binaryRest (lookup : Bytes → Option Bytes) :
    Nat → Bool → List String → List (List String) → Int64 → Eval Int64
  | 0, _, _, _, _ => throw (.expected "primary")
  | n + 1, needed, os, stronger, a => do
    match ← operator? os with
    | none => return a
    | some o =>
      let b ← binary lookup n needed stronger
      let v ← if needed then apply o a b else pure b
      binaryRest lookup n needed os stronger v

def primary (lookup : Bytes → Option Bytes) : Nat → Bool → Eval Int64
  | 0, _ => throw (.expected "primary")
  | n + 1, needed => do
    let s ← get
    match s.rest with
    | .number v :: rest =>
      set { s with rest := rest }
      return v
    | .name x :: rest =>
      set { s with rest := rest }
      if needed then valueOf lookup x else return 0
    | .operator o :: rest =>
      set { s with rest := rest }
      match o with
      | "(" =>
        let v ← assignment lookup n needed
        demand ")" "')'"
        return v
      | "-" => return -(← primary lookup n needed)
      | "+" => primary lookup n needed
      | "!" => return truth ((← primary lookup n needed) == 0)
      | "~" => return ~~~(← primary lookup n needed)
      | _ => throw (.expected "primary")
    | [] => throw (.expected "primary")

end

def evaluate (lookup : Bytes → Option Bytes) (expression : Bytes) :
    Except Fault (Int64 × List (Bytes × Int64)) := do
  let ss := symbols (expression.length + 1) expression
  let (v, s) ← (assignment lookup (32 * (ss.length + 1)) true).run { rest := ss }
  if s.rest.isEmpty then return (v, s.assigned) else throw (.expected "EOF")

end ConsoleRelay.Shell.Arithmetic
