import ConsoleRelay.Proofs.Message.Storage
import ConsoleRelay.Proofs.Session.Run

/-!
What reaches the sinks of a session.

The calls of sinks follow from the steps alone: whoever knows which interfaces exist can tell from
each step which sink it calls and with what, and neither the registry nor the verbosity is asked.
`deliveries` says so without running the session, and every run agrees with it.
-/
namespace ConsoleRelay

/-- What a handler is told: a trace message as a C string, or a fatal error. -/
inductive Notice where
  | message (text : Bytes)
  | fatal (report : FatalReport)
  deriving DecidableEq, Repr

/-- A sink is called with a notice; a message goes to a log sink, a report to a fatal sink. -/
abbrev SinkCall := SinkId × Notice

namespace Handler

/-- How a handler takes a notice. -/
def take (h : Handle) (handler : Handler) : Notice → Reply
  | .message text => handler.log h text
  | .fatal report => handler.fatal h report

/-- The sink that a handler has for a notice. -/
def sink? : Handler → Notice → Option SinkId
  | .sinks log _, .message _ => log
  | .sinks _ fatal, .fatal _ => fatal
  | _, _ => none

/-- The call of a sink by which a handler passes a notice on. -/
def delivery? (handler : Handler) (n : Notice) : Option SinkCall := (handler.sink? n).map (·, n)

end Handler

namespace SinkCall

/-- The text, of a call of one log sink. -/
def messageTo? (x : SinkId) : SinkCall → Option Bytes
  | (y, .message text) => if y = x then some text else none
  | _ => none

/-- The report, of a call of one fatal sink. -/
def reportTo? (x : SinkId) : SinkCall → Option FatalReport
  | (y, .fatal report) => if y = x then some report else none
  | _ => none

end SinkCall

namespace Event

/-- The call of a sink that an event is. -/
def sinkCall? : Event → Option SinkCall
  | .logSink x text => some (x, .message text)
  | .fatalSink x report => some (x, .fatal report)
  | _ => none

/-- The text, of an event that calls one log sink. -/
def logged? (x : SinkId) : Event → Option Bytes
  | .logSink y text => if y = x then some text else none
  | _ => none

/-- The report, of an event that calls one fatal sink. -/
def reported? (x : SinkId) : Event → Option FatalReport
  | .fatalSink y report => if y = x then some report else none
  | _ => none

theorem logged?_eq (x : SinkId) (e : Event) : e.logged? x = e.sinkCall?.bind (·.messageTo? x) := by
  cases e <;> rfl

theorem reported?_eq (x : SinkId) (e : Event) :
    e.reported? x = e.sinkCall?.bind (·.reportTo? x) := by
  cases e <;> rfl

end Event

theorem Handler.sinkCalls_take (h : Handle) (handler : Handler) (n : Notice) :
    (handler.take h n).events.filterMap Event.sinkCall? = (handler.delivery? n).toList := by
  cases handler with
  | sinks log fatal => cases n <;> cases log <;> cases fatal <;> rfl
  | closures onLog onFatal => cases n <;> cases onLog <;> cases onFatal <;> rfl
  | forwarder => cases n <;> rfl
  | observer reaction => cases n <;> rfl

theorem Adapter.sinkCalls_guarded (slot : String) (reply : Reply) :
    (Adapter.guarded slot reply).filterMap Event.sinkCall? =
      reply.events.filterMap Event.sinkCall? := by
  rw [Adapter.guarded, List.filterMap_append]
  split_ifs <;> simp [Event.sinkCall?]

namespace Session

/-- What a trace tells: its message, up to the first NUL, if the format renders. -/
def traceNotice? (format : Bytes) (args : List Format.Argument) : Option Notice :=
  match Trace.message format args with
  | .ok m => some (.message (m.bytes.takeWhile (· != 0)))
  | .error _ => none

/-- What a call tells the handler of its interface. Null is told apart in the slots; an interface
without a table is outside what they are specified for, except in the variadic entry, and counts as
none of the session's. -/
def notice? : Receiver → Call → Option Notice
  | .itself, .trace _ _ (some format) args => traceNotice? format args
  | .itself, .traceArgs _ _ (some format) args => traceNotice? format args
  | .itself, .fatal report => some (.fatal report)
  | _, _ => none

/-- The call of a sink that one step makes, given the interfaces before it. -/
def delivery? (as : List Adapter) : Step → Option SinkCall
  | .call h receiver c =>
    (aliveIn as h).bind fun a => (notice? receiver c).bind a.handler.delivery?
  | _ => none

/-- The calls of sinks that steps make, in their order, given the interfaces before them. -/
def deliveries : List Adapter → List Step → List SinkCall
  | _, [] => []
  | as, st :: sts => (delivery? as st).toList ++ deliveries (nextPopulation as st) sts

/-- The calls of sinks among the outcomes of a run. -/
def sinkCalls (os : List Outcome) : List SinkCall :=
  os.flatMap fun o => o.events.filterMap Event.sinkCall?

theorem message_cString {format : Bytes} {args : List Format.Argument} {m : Message}
    (h : Trace.message format args = .ok m) : m.cString = m.bytes.takeWhile (· != 0) := by
  unfold Trace.message at h
  split at h
  next rendered _ =>
    cases h
    exact Message.cString_ofRendered rendered
  next => cases h

theorem sinkCalls_trace (h : Handle) (handler : Handler) (file : Option Bytes) (line : UInt16)
    (format : Bytes) (args : List Format.Argument) :
    (Adapter.trace h handler file line format args).filterMap Event.sinkCall? =
      ((traceNotice? format args).bind handler.delivery?).toList := by
  cases hm : Trace.message format args with
  | error e =>
    simp only [Adapter.trace, traceNotice?, hm]
    rfl
  | ok m =>
    simp only [Adapter.trace, traceNotice?, hm, List.filterMap_append, Adapter.sinkCalls_guarded,
      message_cString hm, Option.bind_some]
    rw [← Handler.sinkCalls_take h handler]
    cases m.truncated <;> rfl

theorem sinkCalls_traceSlot (h : Handle) (handler : Handler) (receiver : Receiver)
    (file : Option Bytes) (line : UInt16) (format : Option Bytes)
    (args : List Format.Argument) :
    (Adapter.traceSlot h handler receiver file line format args).filterMap Event.sinkCall? =
      ((notice? receiver (.traceArgs file line format args)).bind handler.delivery?).toList := by
  cases receiver with
  | itself =>
    cases format with
    | some f => exact sinkCalls_trace h handler file line f args
    | none => rfl
  | null => rfl
  | noTable => rfl

theorem sinkCalls_answer (h : Handle) (a : Adapter) (receiver : Receiver) (c : Call) :
    (answer h a receiver c).events.filterMap Event.sinkCall? =
      ((notice? receiver c).bind a.handler.delivery?).toList := by
  cases c with
  | trace file line format args =>
    rw [answer, traceEntry_eq_traceSlot, sinkCalls_traceSlot]
    cases receiver <;> cases format <;> rfl
  | traceArgs file line format args => exact sinkCalls_traceSlot h _ receiver file line format args
  | fatal report =>
    cases receiver with
    | itself =>
      change (Adapter.guarded "fatal" (a.handler.fatal h report)).filterMap _ = _
      rw [Adapter.sinkCalls_guarded]
      exact Handler.sinkCalls_take h a.handler (.fatal report)
    | null => rfl
    | noTable => rfl
  | _ => cases receiver <;> rfl

/-- Holding back log records holds back no call of a sink. -/
theorem sinkCalls_seen (v : Verbosity) (events : List Event) :
    (events.filter (·.isSeen v)).filterMap Event.sinkCall? =
      events.filterMap Event.sinkCall? := by
  rw [List.filterMap_filter]
  congr 1
  funext e
  cases e with
  | log r => cases hv : v.admits r.severity <;> simp [Event.isSeen, Event.sinkCall?, hv]
  | _ => rfl

theorem sinkCalls_destroying {s : Session} {st : Step} {p : Pointer}
    (hst : st = .destroy p ∨ st = .tryDestroy p) :
    (s.step st).2.events.filterMap Event.sinkCall? = [] := by
  by_cases hp : ∀ h, p = .interface h → h ∉ s.live
  · apply List.filterMap_eq_nil_iff.mpr
    intro e he
    obtain ⟨text, rfl⟩ := (destroying_refused hst hp).2.1 e he
    rfl
  · simp only [not_forall, not_not] at hp
    obtain ⟨h, rfl, hl⟩ := hp
    rw [(destroying_live hst hl).2.1]
    rfl

theorem sinkCalls_ask (s : Session) (h : Handle) (f : Adapter → Outcome) :
    (s.ask h f).2.events.filterMap Event.sinkCall? =
      ((s.alive? h).map fun a => (f a).events.filterMap Event.sinkCall?).getD [] := by
  unfold ask
  cases s.alive? h <;> rfl

/-- What one step delivers follows from the interfaces and the step. -/
theorem sinkCalls_step (s : Session) {st : Step} (hst : ∀ h text, st ≠ .directLog h text) :
    (s.step st).2.events.filterMap Event.sinkCall? = (delivery? s.adapters st).toList := by
  cases st with
  | call h receiver c =>
    simp only [step, sinkCalls_ask, alive?_eq, delivery?, sinkCalls_answer]
    cases aliveIn s.adapters h <;> rfl
  | directLog h text => exact absurd rfl (hst h text)
  | destroy p => exact sinkCalls_destroying (.inl rfl)
  | tryDestroy p => exact sinkCalls_destroying (.inr rfl)
  | drop h =>
    simp only [step, drop]
    split
    · split <;> rfl
    · rfl
  | roundTrip h =>
    simp only [step, sinkCalls_ask]
    cases s.alive? h <;> rfl
  | describe h =>
    simp only [step, sinkCalls_ask]
    cases s.alive? h <;> rfl
  | _ => rfl

/-- A run calls the sinks as its steps tell, whatever its verbosity. -/
theorem sinkCalls_run {s : Session} (hs : Consistent s) {steps : List Step}
    (hdirect : ∀ h text, Step.directLog h text ∉ steps) :
    sinkCalls (run s steps).1 = deliveries s.adapters steps := by
  induction steps generalizing s with
  | nil => rfl
  | cons st sts ih =>
    have hchange := step_change s st
    have hrest : ∀ h text, Step.directLog h text ∉ sts := fun h text hmem =>
      hdirect h text (List.mem_cons_of_mem _ hmem)
    have hst : ∀ h text, st ≠ .directLog h text := by
      rintro h text rfl
      exact hdirect h text List.mem_cons_self
    have hfirst : (seen s.verbosity (s.step st).2).events.filterMap Event.sinkCall? =
        (delivery? s.adapters st).toList :=
      (sinkCalls_seen s.verbosity _).trans (sinkCalls_step s hst)
    rw [run_cons, sinkCalls, List.flatMap_cons, hfirst, deliveries, hs.nextPopulation_eq hchange,
      ← ih (hs.change hchange) hrest, sinkCalls]

/-- The texts one log sink was called with, in order. -/
def logCalls (x : SinkId) (os : List Outcome) : List Bytes :=
  os.flatMap fun o => o.events.filterMap (Event.logged? x)

/-- The reports one fatal sink was called with, in order. -/
def fatalCalls (x : SinkId) (os : List Outcome) : List FatalReport :=
  os.flatMap fun o => o.events.filterMap (Event.reported? x)

theorem logCalls_eq (x : SinkId) (os : List Outcome) :
    logCalls x os = (sinkCalls os).filterMap (SinkCall.messageTo? x) := by
  simp only [logCalls, sinkCalls, List.filterMap_flatMap, List.filterMap_filterMap,
    ← Event.logged?_eq]

theorem fatalCalls_eq (x : SinkId) (os : List Outcome) :
    fatalCalls x os = (sinkCalls os).filterMap (SinkCall.reportTo? x) := by
  simp only [fatalCalls, sinkCalls, List.filterMap_flatMap, List.filterMap_filterMap,
    ← Event.reported?_eq]

/-- The steps without changes of verbosity. -/
def untuned (steps : List Step) : List Step :=
  steps.filter fun
    | .setVerbosity _ => false
    | _ => true

theorem deliveries_untuned (as : List Adapter) (steps : List Step) :
    deliveries as (untuned steps) = deliveries as steps := by
  induction steps generalizing as with
  | nil => rfl
  | cons st sts ih =>
    cases st with
    | setVerbosity v => exact ih as
    | _ => exact congrArg (_ ++ ·) (ih _)

/-- Whether a step tells a handler anything. -/
def Notifies (st : Step) : Prop :=
  ∃ h receiver c, st = .call h receiver c ∧ (notice? receiver c).isSome

theorem notifies_of_delivery? {as : List Adapter} {st : Step} {call : SinkCall}
    (h : delivery? as st = some call) : Notifies st := by
  unfold delivery? at h
  split at h
  next k receiver c =>
    obtain ⟨a, -, h⟩ := Option.bind_eq_some_iff.mp h
    obtain ⟨n, hn, -⟩ := Option.bind_eq_some_iff.mp h
    exact ⟨k, receiver, c, rfl, by simp [hn]⟩
  next => cases h

theorem notifies_of_sinkCall {steps : List Step}
    (hdirect : ∀ h text, Step.directLog h text ∉ steps) :
    ∀ q ∈ history steps, ∀ e ∈ q.2.events, e.sinkCall?.isSome → Notifies q.1 := by
  induction steps using List.reverseRecOn with
  | nil => simp
  | append_singleton steps st ih =>
    intro q hq e he hcall
    rw [history_concat, List.mem_append, List.mem_singleton] at hq
    rcases hq with hq | rfl
    · exact ih (fun h text hmem => hdirect h text (List.mem_append_left _ hmem)) q hq e he hcall
    · obtain ⟨call, hcall⟩ := Option.isSome_iff_exists.mp hcall
      have hmem : call ∈ ((after steps).step st).2.events.filterMap Event.sinkCall? :=
        List.mem_filterMap.mpr ⟨e, (List.mem_filter.mp he).1, hcall⟩
      rw [sinkCalls_step _ fun h text hst => hdirect h text (by simp [hst]),
        Option.mem_toList] at hmem
      exact notifies_of_delivery? hmem

/-- Without direct calls of handlers, each sink is called just as the steps tell: one call for each
notice to an interface that exists and has that sink, in the order of the steps. No other step
calls a sink, and changes of verbosity change nothing. -/
theorem sink_deliveries (steps : List Step) (hdirect : ∀ h text, Step.directLog h text ∉ steps)
    (x : SinkId) :
    logCalls x (outcomes steps) = (deliveries [] steps).filterMap (SinkCall.messageTo? x) ∧
    fatalCalls x (outcomes steps) = (deliveries [] steps).filterMap (SinkCall.reportTo? x) ∧
    (∀ q ∈ history steps, ∀ e ∈ q.2.events, e.sinkCall?.isSome → Notifies q.1) ∧
    logCalls x (outcomes (untuned steps)) = logCalls x (outcomes steps) ∧
    fatalCalls x (outcomes (untuned steps)) = fatalCalls x (outcomes steps) := by
  have hall : sinkCalls (outcomes steps) = deliveries [] steps :=
    sinkCalls_run consistent_empty hdirect
  have huntuned : sinkCalls (outcomes (untuned steps)) = deliveries [] steps := by
    rw [← deliveries_untuned]
    exact sinkCalls_run consistent_empty fun h text hmem =>
      hdirect h text (List.mem_filter.mp hmem).1
  simp only [logCalls_eq, fatalCalls_eq, hall, huntuned, true_and, and_true]
  exact notifies_of_sinkCall hdirect

/-- Two interfaces share a log sink. One is destroyed, after which only the other one's trace comes
through; a fatal report keeps its code and its missing strings while nothing is logged. -/
def sharedSink : List Step := [
  .create (some "a") (some "b"),
  .adapter (.sinks (some "a") none),
  .call 0 .itself (.trace none 1 (some (Utf8.ofString "n=%d")) [.word 7]),
  .setVerbosity .off,
  .call 0 .itself (.fatal ⟨none, 9, -3, none⟩),
  .call 0 .noTable (.trace none 1 (some (Utf8.ofString "lost")) []),
  .call 1 .itself (.fatal ⟨none, 9, -3, none⟩),
  .destroy (.interface 0),
  .call 0 .itself (.trace none 1 (some (Utf8.ofString "gone")) []),
  .call 1 .itself (.traceArgs none 2 (some (Utf8.ofString "[%c]")) [.word 0])]

theorem sink_deliveries_sharedSink :
    (∀ h text, Step.directLog h text ∉ sharedSink) ∧
    logCalls "a" (outcomes sharedSink) = [Utf8.ofString "n=7", Utf8.ofString "["] ∧
    fatalCalls "b" (outcomes sharedSink) = [⟨none, 9, -3, none⟩] := by
  have hdirect : ∀ h text, Step.directLog h text ∉ sharedSink := by simp [sharedSink]
  refine ⟨hdirect, ?_, ?_⟩
  · rw [(sink_deliveries sharedSink hdirect "a").1]
    decide +kernel
  · rw [(sink_deliveries sharedSink hdirect "b").2.1]
    decide +kernel

end Session

end ConsoleRelay
