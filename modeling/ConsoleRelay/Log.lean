import ConsoleRelay.Text.Utf8

/-! Log records, how severe they are, and which of them pass. -/
namespace ConsoleRelay

inductive Severity where
  | error
  | warn
  | info
  | debug
  | trace
  deriving DecidableEq, Repr

namespace Severity

/-- The position in the order of severities; less is more severe. -/
def rank : Severity → Nat
  | .error => 1
  | .warn => 2
  | .info => 3
  | .debug => 4
  | .trace => 5

def name : Severity → String
  | .error => "ERROR"
  | .warn => "WARN"
  | .info => "INFO"
  | .debug => "DEBUG"
  | .trace => "TRACE"

end Severity

/-- The least severe records that are let through. -/
inductive Verbosity where
  | off
  | upTo (s : Severity)
  deriving DecidableEq, Repr

namespace Verbosity

def all : Verbosity := .upTo .trace

def admits : Verbosity → Severity → Bool
  | .off, _ => false
  | .upTo limit, s => s.rank ≤ limit.rank

def names : List (String × Verbosity) := [
  ("off", .off), ("error", .upTo .error), ("warn", .upTo .warn), ("info", .upTo .info),
  ("debug", .upTo .debug), ("trace", .upTo .trace)]

/-- The setting of a name, in letters of either case. -/
def ofName? (t : Text) : Option Verbosity :=
  (names.find? fun n => n.1.toList == t.map Char.toLower).map Prod.snd

end Verbosity

structure Record where
  severity : Severity
  target : String
  text : Text
  deriving DecidableEq, Repr

def Record.line (r : Record) : Text :=
  "[".toList ++ r.severity.name.toList ++ " ".toList ++ r.target.toList ++ "] ".toList ++ r.text ++
    "\n".toList

end ConsoleRelay
