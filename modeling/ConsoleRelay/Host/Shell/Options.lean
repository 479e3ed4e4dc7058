import ConsoleRelay.Host.Shell.State

/-!
Options of programs: letters after a dash, in any place before `--`, some with a value.
-/
namespace ConsoleRelay.Shell

structure Options where
  given : List (Char × Bytes) := []
  operands : List Bytes := []
  deriving DecidableEq, Repr

namespace Options

def has (o : Options) (c : Char) : Bool := o.given.any (·.1 == c)

def value? (o : Options) (c : Char) : Option Bytes := (o.given.reverse.lookup c)

def add (c : Char) (value : Bytes) (o : Options) : Options :=
  { o with given := (c, value) :: o.given }

def addOperand (arg : Bytes) (o : Options) : Options := { o with operands := arg :: o.operands }

/-- The letters of one argument, and whether the last one takes the next argument as its value. -/
def letters (plain valued : List Char) : Bytes → Except Bytes (List (Char × Bytes) × Option Char)
  | [] => .ok ([], none)
  | b :: rest =>
    let c := Char.ofNat b.toNat
    if plain.contains c then do
      let (more, open?) ← letters plain valued rest
      return ((c, []) :: more, open?)
    else if valued.contains c then
      if rest.isEmpty then .ok ([], some c) else .ok ([(c, rest)], none)
    else .error (bytes "invalid option -- '" ++ [b, 0x27])

def read (plain valued : List Char) : List Bytes → Except Bytes Options
  | [] => .ok {}
  | arg :: args =>
    match arg with
    | [0x2D, 0x2D] => .ok ⟨[], args⟩
    | 0x2D :: 0x2D :: _ => .error (bytes "unrecognized option '" ++ arg ++ [0x27])
    | 0x2D :: b :: more => do
      let (given, waiting) ← letters plain valued (b :: more)
      match waiting, args with
      | none, args => return given.foldr (fun g o => o.add g.1 g.2) (← read plain valued args)
      | some c, value :: args =>
        return given.foldr (fun g o => o.add g.1 g.2) ((← read plain valued args).add c value)
      | some c, [] =>
        throw (bytes "option requires an argument -- '" ++ [byte c, 0x27])
    | arg => return (← read plain valued args).addOperand arg

end Options

/-- A complaint of a program, with the name it was started by in front. -/
def report (message : Bytes) : Run Unit := do
  putError ((← self).name ++ bytes ": " ++ message ++ [0x0A])

def reportUse (message : Bytes) : Run Unit := do
  report message
  putError (bytes "Try '" ++ (← self).name ++ bytes " --help' for more information.\n")

/-- Run a program with its options read. One that was used wrongly ends with the status given. -/
def withOptions (plain valued : String) (wrong : Nat) (args : List Bytes)
    (body : Options → Run Nat) : Run Nat := do
  match Options.read plain.toList valued.toList args with
  | .ok o => body o
  | .error message =>
    reportUse message
    return wrong

end ConsoleRelay.Shell
