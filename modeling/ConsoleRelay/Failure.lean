import ConsoleRelay.Text.Quoted

/-! Pointers to callback interfaces, and what can go wrong with them. -/
namespace ConsoleRelay

/-- Interfaces are numbered in the order they are made; no number is used twice. -/
abbrev Handle := Nat

/-- A pointer handed in by the host: null, an interface made earlier, or any other address. -/
inductive Pointer where
  | null
  | interface (h : Handle)
  | elsewhere (address : Nat)
  deriving DecidableEq, Repr

namespace Pointer

/-- The pointer to an address where no interface was ever made. -/
def ofAddress : Nat → Pointer
  | 0 => .null
  | n + 1 => .elsewhere (n + 1)

def label (h : Handle) : Text := "<h".toList ++ decimal h ++ ">".toList

def text : Pointer → Text
  | .null => "0x0".toList
  | .interface h => label h
  | .elsewhere a => "0x".toList ++ hex a

def describe : Pointer → Text
  | .null => "0".toList
  | .interface h => label h
  | .elsewhere a => decimal a

end Pointer

inductive Failure where
  | nullHandle
  | unknownHandle (p : Pointer)
  | format (reason : Text)
  deriving DecidableEq, Repr

/-- The status a C caller sees. -/
inductive Status where
  | ok
  | nullHandle
  | unknownHandle
  | formatFailed
  deriving DecidableEq, Repr

namespace Status

def name : Status → String
  | .ok => "Ok"
  | .nullHandle => "NullHandle"
  | .unknownHandle => "UnknownHandle"
  | .formatFailed => "FormatFailed"

def code : Status → Int32
  | .ok => 0
  | .nullHandle => 1
  | .unknownHandle => 2
  | .formatFailed => 3

end Status

namespace Failure

def status : Failure → Status
  | .nullHandle => .nullHandle
  | .unknownHandle _ => .unknownHandle
  | .format _ => .formatFailed

def message : Failure → Text
  | .nullHandle => "Null callback interface handle".toList
  | .unknownHandle p =>
    "Callback interface handle ".toList ++ p.text ++
      " is not live (never created or already destroyed)".toList
  | .format reason => "Failed to render trace message: ".toList ++ reason

def describe : Failure → Text
  | .nullHandle => "NullHandle".toList
  | .unknownHandle p => "UnknownHandle(".toList ++ p.describe ++ ")".toList
  | .format reason => "Format(".toList ++ Quoted.text reason ++ ")".toList

end Failure

end ConsoleRelay
