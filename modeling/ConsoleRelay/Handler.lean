import ConsoleRelay.Fatal
import ConsoleRelay.Failure
import ConsoleRelay.Log

/-!
Handlers: who is told about traces and fatal errors.

A handler answers a notification with the events it causes and says whether it crashed after them.
It keeps no state of its own.
-/
namespace ConsoleRelay

abbrev SinkId := String

/-- What a host function does once it has noted its event. -/
inductive Reaction where
  | returns
  | crashes
  deriving DecidableEq, Repr

def Reaction.isCrash : Reaction → Bool
  | .returns => false
  | .crashes => true

/-- The receivers of notifications: two optional C functions, two optional closures, the log, or an
observer that sees the raw notification. -/
inductive Handler where
  | sinks (log fatal : Option SinkId)
  | closures (onLog onFatal : Option Reaction)
  | forwarder
  | observer (reaction : Reaction)
  deriving DecidableEq, Repr

inductive Event where
  | log (r : Record)
  | logSink (sink : SinkId) (text : Bytes)
  | fatalSink (sink : SinkId) (report : FatalReport)
  | onLog (h : Handle) (text : Text)
  | onFatal (h : Handle) (report : FatalReport)
  | observedLog (h : Handle) (text : Bytes)
  | observedFatal (h : Handle) (report : FatalReport)
  deriving DecidableEq, Repr

/-- Whether an event is seen at a verbosity. Only log records are ever held back. -/
def Event.isSeen (v : Verbosity) : Event → Bool
  | .log r => v.admits r.severity
  | _ => true

structure Reply where
  events : List Event := []
  crashed : Bool := false
  deriving DecidableEq, Repr

namespace Handler

def target : String := "bgfx_interop::handler"

def forwardTarget : String := "bgfx"

def log (h : Handle) (text : Bytes) : Handler → Reply
  | .sinks (some sink) _ => { events := [.logSink sink text] }
  | .sinks none _ =>
    { events := [.log ⟨.warn, target,
        "Dropping bgfx trace, no log sink installed: ".toList ++ trimEnd (Utf8.lossy text)⟩] }
  | .closures (some reaction) _ => ⟨[.onLog h (readable text)], reaction.isCrash⟩
  | .closures none _ => {}
  | .forwarder => { events := [.log ⟨.debug, forwardTarget, readable text⟩] }
  | .observer reaction => ⟨[.observedLog h text], reaction.isCrash⟩

def fatal (h : Handle) (report : FatalReport) : Handler → Reply
  | .sinks _ (some sink) => { events := [.fatalSink sink report] }
  | .sinks _ none =>
    { events := [.log ⟨.warn, target,
        "Dropping bgfx fatal error, no fatal sink installed: ".toList ++ report.display⟩] }
  | .closures _ (some reaction) => ⟨[.onFatal h report], reaction.isCrash⟩
  | .closures _ none => {}
  | .forwarder => { events := [.log ⟨.error, forwardTarget, report.display⟩] }
  | .observer reaction => ⟨[.observedFatal h report], reaction.isCrash⟩

def sinkLabel (kind : String) (sink : SinkId) : Text :=
  "<".toList ++ kind.toList ++ "_".toList ++ sink.toList ++ ">".toList

def describe : Handler → Text
  | .sinks log fatal =>
    Quoted.record "ForeignSinks"
      [("log", Quoted.optional (sinkLabel "log") log),
       ("fatal", Quoted.optional (sinkLabel "fatal") fatal)]
  | .closures onLog onFatal =>
    Quoted.record "Callbacks"
      [("log", Quoted.truth onLog.isSome), ("fatal", Quoted.truth onFatal.isSome)]
  | .forwarder => "LogForwarder".toList
  | .observer _ => "Recorder".toList

end Handler

end ConsoleRelay
