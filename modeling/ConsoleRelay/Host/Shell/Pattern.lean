import ConsoleRelay.Host.Shell.Syntax

/-!
Patterns: `*` for any text, `?` for any byte, `[...]` for a byte of a set, and every other byte for
itself. A quoted byte always stands for itself, and so does one after a backslash.
-/
namespace ConsoleRelay.Shell

structure Mark where
  byte : UInt8
  quoted : Bool
  deriving DecidableEq, Repr

inductive Member where
  | range (low high : UInt8)
  | kind (name : Bytes)
  deriving DecidableEq, Repr

inductive Atom where
  | any
  | one
  | only (b : UInt8)
  | set (negated : Bool) (members : List Member)
  deriving DecidableEq, Repr

abbrev Pattern := List Atom

def kinds : List (String × (UInt8 → Bool)) :=
  let upper := fun (b : UInt8) => 0x41 ≤ b && b ≤ 0x5A
  let lower := fun (b : UInt8) => 0x61 ≤ b && b ≤ 0x7A
  let alpha := fun b => upper b || lower b
  let alnum := fun b => alpha b || isDigit b
  let graph := fun (b : UInt8) => 0x21 ≤ b && b ≤ 0x7E
  [("alnum", alnum), ("alpha", alpha), ("blank", isSpace),
   ("cntrl", fun b => b < 0x20 || b == 0x7F), ("digit", isDigit), ("graph", graph),
   ("lower", lower), ("print", fun b => graph b || b == 0x20),
   ("punct", fun b => graph b && !alnum b),
   ("space", fun b => b == 0x20 || (0x09 ≤ b && b ≤ 0x0D)), ("upper", upper),
   ("xdigit", fun b => isDigit b || (0x41 ≤ b && b ≤ 0x46) || (0x61 ≤ b && b ≤ 0x66))]

def Member.holds (b : UInt8) : Member → Bool
  | .range low high => low ≤ b && b ≤ high
  | .kind name => kinds.any fun k => bytes k.1 == name && k.2 b

/-- Marks in which a byte after a backslash is quoted and the backslash is gone. -/
def resolveEscapes : List Mark → List Mark
  | [] => []
  | [m] => [m]
  | m :: next :: rest =>
    if m.byte == 0x5C && !m.quoted then ⟨next.byte, true⟩ :: resolveEscapes rest
    else m :: resolveEscapes (next :: rest)

/-- The kind that a text in a set names, after its opening bracket and colon. -/
def kind? (ms : List Mark) : Option (Bytes × List Mark) :=
  let name := (ms.takeWhile fun m => isNameStart m.byte).map Mark.byte
  match ms.drop name.length with
  | ⟨0x3A, _⟩ :: ⟨0x5D, _⟩ :: r =>
    if kinds.any (bytes ·.1 == name) then some (name, r) else none
  | _ => none

/-- The members of a set up to its closing bracket, which cannot be the first byte. The first
argument bounds their number. -/
def members : Nat → Bool → List Mark → Option (List Member × List Mark)
  | 0, _, _ => none
  | _ + 1, _, [] => none
  | n + 1, first, m :: r =>
    if m.byte == 0x5D && !m.quoted && !first then some ([], r)
    else
      let single : Option (List Member × List Mark) :=
        match r with
        | ⟨0x2D, _⟩ :: high :: r' =>
          if high.byte == 0x5D && !high.quoted then
            (members n false r).map fun x => (.range m.byte m.byte :: x.1, x.2)
          else (members n false r').map fun x => (.range m.byte high.byte :: x.1, x.2)
        | _ => (members n false r).map fun x => (.range m.byte m.byte :: x.1, x.2)
      if m.byte == 0x5B && !m.quoted then
        match r with
        | ⟨0x3A, _⟩ :: r' =>
          match kind? r' with
          | some (name, r'') => (members n false r'').map fun x => (.kind name :: x.1, x.2)
          | none => single
        | _ => single
      else single

/-- The pattern of an expanded word. The first argument bounds its length. -/
def Pattern.ofMarks : Nat → List Mark → Pattern
  | 0, _ => []
  | _ + 1, [] => []
  | n + 1, m :: r =>
    if m.quoted then .only m.byte :: ofMarks n r
    else if m.byte == byte '*' then .any :: ofMarks n r
    else if m.byte == byte '?' then .one :: ofMarks n r
    else if m.byte == byte '[' then
      let (negated, r') := match r with
        | ⟨0x21, false⟩ :: r' | ⟨0x5E, false⟩ :: r' => (true, r')
        | _ => (false, r)
      match members (r.length + 1) true r' with
      | some (ms, rest) => .set negated ms :: ofMarks n rest
      | none => .only m.byte :: ofMarks n r
    else .only m.byte :: ofMarks n r

def Pattern.of (ms : List Mark) : Pattern := Pattern.ofMarks (ms.length + 1) (resolveEscapes ms)

def Atom.holds (b : UInt8) : Atom → Bool
  | .any | .one => true
  | .only c => b == c
  | .set negated ms => (ms.any (·.holds b)) != negated

def Pattern.holds : Pattern → Bytes → Bool
  | [], bs => bs.isEmpty
  | .any :: p, [] => Pattern.holds p []
  | .any :: p, b :: bs => Pattern.holds p (b :: bs) || Pattern.holds (.any :: p) bs
  | _ :: _, [] => false
  | a :: p, b :: bs => a.holds b && Pattern.holds p bs
termination_by p bs => p.length + bs.length

def Pattern.isOpen (p : Pattern) : Bool :=
  p.any fun a => match a with
    | .only _ => false
    | _ => true

def splits (bs : Bytes) : List (Bytes × Bytes) :=
  (List.range (bs.length + 1)).map fun n => (bs.take n, bs.drop n)

/-- A text without the shortest or longest start that a pattern holds for. -/
def Pattern.trimStart (p : Pattern) (longest : Bool) (bs : Bytes) : Bytes :=
  let candidates := if longest then (splits bs).reverse else splits bs
  ((candidates.find? fun s => p.holds s.1).map Prod.snd).getD bs

/-- A text without the shortest or longest end that a pattern holds for. -/
def Pattern.trimEnd (p : Pattern) (longest : Bool) (bs : Bytes) : Bytes :=
  let candidates := if longest then splits bs else (splits bs).reverse
  ((candidates.find? fun s => p.holds s.2).map Prod.fst).getD bs

end ConsoleRelay.Shell
