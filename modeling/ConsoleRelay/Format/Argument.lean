import ConsoleRelay.Format.Directive

/-! Arguments of a trace, and taking them in order. -/
namespace ConsoleRelay.Format

/-- An argument as it was passed: a 64-bit word, the bits of a double, or a string. -/
inductive Argument where
  | word (w : UInt64)
  | real (bits : UInt64)
  | string (s : Option Bytes)
  deriving DecidableEq, Repr

def lowBits (bits : Nat) (w : UInt64) : Nat := w.toNat % Nat.pow 2 bits

/-- The low bits of a word in two's complement. -/
def signedBits (bits : Nat) (w : UInt64) : Int :=
  if lowBits bits w < Nat.pow 2 (bits - 1) then lowBits bits w
  else (lowBits bits w : Int) - Nat.pow 2 bits

def takeWord : List Argument → Except Fault (UInt64 × List Argument)
  | .word w :: rest => .ok (w, rest)
  | _ => .error .argumentMismatch

def takeReal : List Argument → Except Fault (UInt64 × List Argument)
  | .real bits :: rest => .ok (bits, rest)
  | _ => .error .argumentMismatch

def takeString : List Argument → Except Fault (Option Bytes × List Argument)
  | .string s :: rest => .ok (s, rest)
  | _ => .error .argumentMismatch

end ConsoleRelay.Format
