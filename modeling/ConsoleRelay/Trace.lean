import ConsoleRelay.Failure
import ConsoleRelay.Format.Rendering
import ConsoleRelay.Message

/-! Traces: a format and its arguments rendered into a bounded message. -/
namespace ConsoleRelay.Trace

def renderFailed : Failure := .format "vsnprintf returned -1".toList

/-- The bounded message of a format and its arguments. -/
def message (format : Bytes) (args : List Format.Argument) : Except Failure Message :=
  match Format.render format args with
  | .ok rendered => .ok (Message.ofRendered rendered)
  | .error _ => .error renderFailed

end ConsoleRelay.Trace
