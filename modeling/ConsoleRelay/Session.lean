import ConsoleRelay.Handler
import ConsoleRelay.Trace

/-!
Sessions: the life of callback interfaces under a host's calls.

An interface is an adapter around a handler. Those made by `create` are registered as live until
they are destroyed; those made by `adapter` belong to the maker and are never registered. A step
answers with a result and the events it causes; `run` shows of these what the verbosity in force
lets through.
-/
namespace ConsoleRelay

/-- An interface: its handler, whether it was made through the registry, and whether it still
exists. -/
structure Adapter where
  handler : Handler
  registered : Bool
  alive : Bool := true
  deriving DecidableEq, Repr

inductive Receiver where
  | itself
  | null
  | noTable
  deriving DecidableEq, Repr

namespace Adapter

def target : String := "bgfx_interop::adapter"

def released (h : Handle) : Event :=
  .log ⟨.debug, target, "Releasing bgfx callback interface at ".toList ++ Pointer.label h⟩

/-- What a slot shows of a handler's reply: a crash ends in the adapter and is logged. -/
def guarded (slot : String) (reply : Reply) : List Event :=
  reply.events ++
    if reply.crashed then
      [.log ⟨.error, target, "bgfx callback handler panicked in ".toList ++ slot.toList⟩]
    else []

def origin (file : Option Bytes) (line : UInt16) : Text :=
  Utf8.lossy (file.getD []) ++ ":".toList ++ decimal line.toNat

def trace (h : Handle) (handler : Handler) (file : Option Bytes) (line : UInt16)
    (format : Bytes) (args : List Format.Argument) : List Event :=
  match Trace.message format args with
  | .ok m =>
    (if m.truncated then
      [.log ⟨.trace, target, "bgfx trace from ".toList ++ origin file line ++
        " truncated to ".toList ++ decimal m.len ++ " bytes".toList⟩]
    else []) ++ guarded "trace_vargs" (handler.log h m.cString)
  | .error e =>
    [.log ⟨.warn, target, "Dropping bgfx trace from ".toList ++ origin file line ++
      ": ".toList ++ e.message⟩]

/-- The slot for traces, which needs an interface and a format. It is specified for null and for
interfaces made here. One without a table, which only a foreign caller can pass, is outside of that,
and to take it for null is a convention. -/
def traceSlot (h : Handle) (handler : Handler) (receiver : Receiver) (file : Option Bytes)
    (line : UInt16) (format : Option Bytes) (args : List Format.Argument) : List Event :=
  if receiver = .itself then
    match format with
    | some f => trace h handler file line f args
    | none => []
  else []

/-- The variadic entry for C callers. It looks at the interface, its table and the format before it
calls the slot. -/
def traceEntry (h : Handle) (handler : Handler) (receiver : Receiver) (file : Option Bytes)
    (line : UInt16) (format : Option Bytes) (args : List Format.Argument) : List Event :=
  if receiver = .null || receiver = .noTable || format.isNone then []
  else traceSlot h handler receiver file line format args

/-- The slot for fatal errors, which needs an interface. It is specified for null and for interfaces
made here, as `traceSlot` is. -/
def fatalSlot (h : Handle) (handler : Handler) (receiver : Receiver) (report : FatalReport) :
    List Event :=
  if receiver = .itself then guarded "fatal" (handler.fatal h report) else []

/-- An interface in a diagnostic; one that belongs to its maker shows its table too. -/
def describe (h : Handle) (a : Adapter) : Text :=
  Quoted.record "Adapter" [("interface", Pointer.label h), ("handler", a.handler.describe)] ++
    if a.registered then [] else " BgfxCallbackVtbl \x7b .. \x7d".toList

end Adapter

/-- The calls of the dispatch table. `trace` is the variadic entry in front of `traceArgs`. -/
inductive Call where
  | trace (file : Option Bytes) (line : UInt16) (format : Option Bytes)
      (args : List Format.Argument)
  | traceArgs (file : Option Bytes) (line : UInt16) (format : Option Bytes)
      (args : List Format.Argument)
  | fatal (report : FatalReport)
  | profilerBegin (name : Option Bytes) (color : UInt32) (file : Option Bytes) (line : UInt16)
  | profilerBeginLiteral (name : Option Bytes) (color : UInt32) (file : Option Bytes)
      (line : UInt16)
  | profilerEnd
  | cacheReadSize (id : UInt64)
  | cacheRead (id : UInt64) (buffer : Bytes)
  | cacheWrite (id : UInt64) (data : Bytes)
  | screenShot (file : Option Bytes) (width height pitch : UInt32) (data : Bytes) (flipped : Bool)
  | captureBegin (width height pitch : UInt32) (format : Int32) (flipped : Bool)
  | captureEnd
  | captureFrame (data : Bytes)
  deriving DecidableEq, Repr

inductive Result where
  | nothing
  | handle (h : Handle)
  | status (s : Status)
  | destroyed (outcome : Option Failure)
  | count (n : Nat)
  | same (b : Bool)
  | text (t : Text)
  | cacheSize (n : Nat)
  | cached (found : Bool) (buffer : Bytes)
  deriving DecidableEq, Repr

/-- One step of a session. `destroy` is the C entry point, `tryDestroy` the one that returns the
failure instead of logging it. -/
inductive Step where
  | create (log fatal : Option SinkId)
  | adapter (handler : Handler)
  | destroy (p : Pointer)
  | tryDestroy (p : Pointer)
  | drop (h : Handle)
  | liveCount
  | setVerbosity (v : Verbosity)
  | roundTrip (h : Handle)
  | describe (h : Handle)
  | directLog (h : Handle) (text : Bytes)
  | call (h : Handle) (receiver : Receiver) (c : Call)
  deriving DecidableEq, Repr

/-- Everything a session remembers: all interfaces ever made, by number, the registry of live
handles, and the verbosity. -/
structure Session where
  adapters : List Adapter := []
  live : List Handle := []
  verbosity : Verbosity := .all
  deriving DecidableEq, Repr

structure Outcome where
  result : Result
  events : List Event
  deriving DecidableEq, Repr

namespace Session

def registryTarget : String := "bgfx_interop::exports"

/-- The interface with a number, if it still exists. -/
def alive? (s : Session) (h : Handle) : Option Adapter := s.adapters[h]?.filter Adapter.alive

def add (s : Session) (a : Adapter) : Session := { s with adapters := s.adapters ++ [a] }

def bury (s : Session) (h : Handle) : Session :=
  { s with adapters := s.adapters.modify h fun a => { a with alive := false } }

def create (s : Session) (log fatal : Option SinkId) : Session × Outcome :=
  let h := s.adapters.length
  let s' := s.add ⟨.sinks log fatal, true, true⟩
  ({ s' with live := h :: s'.live },
   ⟨.handle h, [.log ⟨.debug, registryTarget,
      "Created bgfx callback interface at ".toList ++ Pointer.label h ++ " (log sink: ".toList ++
        Quoted.truth log.isSome ++ ", fatal sink: ".toList ++ Quoted.truth fatal.isSome ++
        ")".toList⟩]⟩)

def unregister (s : Session) (h : Handle) : Session := { s.bury h with live := s.live.erase h }

/-- Destroy a live handle; null and unknown pointers are refused. -/
def release (s : Session) : Pointer → Except Failure (Session × List Event)
  | .null => .error .nullHandle
  | .interface h =>
    if s.live.contains h then .ok (s.unregister h, [Adapter.released h])
    else .error (.unknownHandle (.interface h))
  | .elsewhere a => .error (.unknownHandle (.elsewhere a))

/-- The destroying entry point for C: the failure is logged and reported as a status. -/
def destroy (s : Session) (p : Pointer) : Session × Outcome :=
  match s.release p with
  | .ok (s', events) => (s', ⟨.status .ok, events⟩)
  | .error e =>
    (s, ⟨.status e.status,
      [.log ⟨.error, registryTarget, "destroy_bgfx_interface: ".toList ++ e.message⟩]⟩)

def tryDestroy (s : Session) (p : Pointer) : Session × Outcome :=
  match s.release p with
  | .ok (s', events) => (s', ⟨.destroyed none, events⟩)
  | .error e => (s, ⟨.destroyed (some e), []⟩)

/-- Drop an interface that belongs to its maker. -/
def drop (s : Session) (h : Handle) : Session × Outcome :=
  match s.alive? h with
  | some a =>
    if a.registered then (s, ⟨.nothing, []⟩) else (s.bury h, ⟨.nothing, [Adapter.released h]⟩)
  | none => (s, ⟨.nothing, []⟩)

/-- What a slot does. Only traces and fatal errors reach the handler; profiling, capturing and the
cache are not supported, so that every cache read misses. -/
def answer (h : Handle) (a : Adapter) (receiver : Receiver) : Call → Outcome
  | .trace file line format args =>
    ⟨.nothing, Adapter.traceEntry h a.handler receiver file line format args⟩
  | .traceArgs file line format args =>
    ⟨.nothing, Adapter.traceSlot h a.handler receiver file line format args⟩
  | .fatal report => ⟨.nothing, Adapter.fatalSlot h a.handler receiver report⟩
  | .cacheReadSize _ => ⟨.cacheSize 0, []⟩
  | .cacheRead _ buffer => ⟨.cached false buffer, []⟩
  | .profilerBegin .. | .profilerBeginLiteral .. | .profilerEnd | .cacheWrite .. | .screenShot ..
  | .captureBegin .. | .captureEnd | .captureFrame _ => ⟨.nothing, []⟩

/-- Ask a live interface; one that has gone does not answer. -/
def ask (s : Session) (h : Handle) (f : Adapter → Outcome) : Session × Outcome :=
  match s.alive? h with
  | some a => (s, f a)
  | none => (s, ⟨.nothing, []⟩)

def step (s : Session) : Step → Session × Outcome
  | .create log fatal => s.create log fatal
  | .adapter handler =>
    (s.add ⟨handler, false, true⟩, ⟨.handle s.adapters.length, []⟩)
  | .destroy p => s.destroy p
  | .tryDestroy p => s.tryDestroy p
  | .drop h => s.drop h
  | .liveCount => (s, ⟨.count s.live.length, []⟩)
  | .setVerbosity v => ({ s with verbosity := v }, ⟨.nothing, []⟩)
  | .roundTrip h => s.ask h fun _ => ⟨.same true, []⟩
  | .describe h => s.ask h fun a => ⟨.text (a.describe h), []⟩
  | .directLog h text => s.ask h fun a => ⟨.nothing, (a.handler.log h text).events⟩
  | .call h receiver c => s.ask h fun a => answer h a receiver c

def seen (v : Verbosity) (o : Outcome) : Outcome :=
  { o with events := o.events.filter (·.isSeen v) }

def run : Session → List Step → List Outcome × Session
  | s, [] => ([], s)
  | s, st :: sts =>
    let (s', o) := s.step st
    let (os, last) := run s' sts
    (seen s.verbosity o :: os, last)

def outcomes (steps : List Step) : List Outcome := (run {} steps).1

end Session

end ConsoleRelay
