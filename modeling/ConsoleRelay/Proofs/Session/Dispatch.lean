import ConsoleRelay.Proofs.Message.Storage
import ConsoleRelay.Proofs.Session.Verbosity

/-!
The way of a trace to its handler.

The variadic entry and the slot are interchangeable in every session. What a trace shows is what the
adapter notes about it, followed by what the handler does with the one message it is handed, if
there is one to hand over.
-/
namespace ConsoleRelay.Session

theorem getElem?_outcomes_around (past rest : List Step) (st : Step) :
    (outcomes (past ++ st :: rest))[past.length]? =
      some (seen (inForce past) ((after past).step st).2) := by
  rw [getElem?_outcomes]
  simp [verbosity_after]

/-- What an adapter puts on record about a trace: that its format did not render, or that its
rendering is longer than 255 bytes. -/
def notes (file : Option Bytes) (line : UInt16) : Except Format.Fault Bytes → List Event
  | .error _ => [.log ⟨.warn, "bgfx_interop::adapter",
      "Dropping bgfx trace from ".toList ++ Utf8.lossy (file.getD []) ++ ":".toList ++
        decimal line.toNat ++ ": Failed to render trace message: vsnprintf returned -1".toList⟩]
  | .ok r =>
    if 255 < r.length then
      [.log ⟨.trace, "bgfx_interop::adapter",
        "bgfx trace from ".toList ++ Utf8.lossy (file.getD []) ++ ":".toList ++
          decimal line.toNat ++ " truncated to ".toList ++ decimal (Message.ofRendered r).len ++
          " bytes".toList⟩]
    else []

/-- The messages a handler is handed for a trace: one, if the format rendered. -/
def handed : Except Format.Fault Bytes → List Bytes
  | .error _ => []
  | .ok r => [(Message.ofRendered r).bytes.takeWhile (· != 0)]

/-- What comes of handing messages to a handler one after the other. -/
def invoked (h : Handle) (handler : Handler) (texts : List Bytes) : List Event :=
  texts.flatMap fun text => Adapter.guarded "trace_vargs" (handler.log h text)

theorem trace_eq (h : Handle) (handler : Handler) (file : Option Bytes) (line : UInt16)
    (format : Bytes) (args : List Format.Argument) :
    Adapter.trace h handler file line format args =
      notes file line (Format.render format args) ++
        invoked h handler (handed (Format.render format args)) := by
  cases hr : Format.render format args with
  | error e =>
    have hm : Trace.message format args = .error Trace.renderFailed := by
      simp only [Trace.message, hr]
    have htext : ": ".toList ++ Trace.renderFailed.message =
        ": Failed to render trace message: vsnprintf returned -1".toList := by decide
    rw [Adapter.trace, hm]
    simp only [notes, handed, invoked, Adapter.origin, List.append_assoc, htext]
    rfl
  | ok r =>
    have hm : Trace.message format args = .ok (Message.ofRendered r) := by
      simp only [Trace.message, hr]
    rw [Adapter.trace, hm]
    simp only [notes, handed, invoked, Adapter.origin, List.append_assoc,
      Message.truncated_ofRendered, decide_eq_true_eq, Message.cString_ofRendered,
      List.flatMap_singleton]
    rfl

theorem step_call {s : Session} {h : Handle} {a : Adapter} (ha : s.alive? h = some a)
    (receiver : Receiver) (c : Call) :
    s.step (.call h receiver c) = (s, answer h a receiver c) := by
  rw [step, ask, ha]

theorem outcome_of_call {past : List Step} {h : Handle} {a : Adapter}
    (ha : (after past).alive? h = some a) (receiver : Receiver) (c : Call) (rest : List Step) :
    (outcomes (past ++ .call h receiver c :: rest))[past.length]? =
      some (seen (inForce past) (answer h a receiver c)) := by
  rw [getElem?_outcomes_around, step_call ha]

theorem outcomes_congr_call {past : List Step} {h : Handle} {a : Adapter}
    (ha : (after past).alive? h = some a) {receiver : Receiver} {c c' : Call}
    (hc : answer h a receiver c = answer h a receiver c') (rest : List Step) :
    outcomes (past ++ .call h receiver c :: rest) =
      outcomes (past ++ .call h receiver c' :: rest) := by
  rw [outcomes_around, outcomes_around, step_call ha, step_call ha, hc]

/-- Wherever in a session a live interface is asked to trace, the variadic entry and the slot do the
same. Without an interface, a table or a format nothing is seen. Else what the verbosity lets
through is the adapter's note, if there is one, and then what the handler does with the message it
is handed, which file and line have no part in. -/
theorem trace_dispatch (past rest : List Step) {h : Handle} {a : Adapter}
    (ha : (after past).alive? h = some a) (file : Option Bytes) (line : UInt16)
    (format : Option Bytes) (args : List Format.Argument) :
    let entry := fun receiver =>
      outcomes (past ++ .call h receiver (.trace file line format args) :: rest)
    let slot := fun receiver =>
      outcomes (past ++ .call h receiver (.traceArgs file line format args) :: rest)
    entry .itself = slot .itself ∧ entry .null = slot .null ∧
      (entry .null)[past.length]? = some ⟨.nothing, []⟩ ∧
      (entry .noTable)[past.length]? = some ⟨.nothing, []⟩ ∧
      (format = none → (entry .itself)[past.length]? = some ⟨.nothing, []⟩) ∧
      ∀ f, format = some f →
        (entry .itself)[past.length]? = some ⟨.nothing,
          (notes file line (Format.render f args) ++
            invoked h a.handler (handed (Format.render f args))).filter
              (·.isSeen (inForce past))⟩ := by
  have hsame (receiver : Receiver) : answer h a receiver (.trace file line format args) =
      answer h a receiver (.traceArgs file line format args) :=
    congrArg (Outcome.mk .nothing)
      (traceEntry_eq_traceSlot h a.handler receiver file line format args)
  refine ⟨outcomes_congr_call ha (hsame _) rest, outcomes_congr_call ha (hsame _) rest,
    outcome_of_call ha .null _ rest, outcome_of_call ha .noTable _ rest, ?_, ?_⟩
  · rintro rfl
    exact outcome_of_call ha .itself _ rest
  · rintro f rfl
    rw [← trace_eq]
    exact outcome_of_call ha .itself _ rest

/-- An observer that crashes, while only errors are logged. -/
def brittle : List Step := [.adapter (.observer .crashes), .setVerbosity (.upTo .error)]

theorem trace_dispatch_brittle :
    (after brittle).alive? 0 = some ⟨.observer .crashes, false, true⟩ ∧
    (outcomes (brittle ++ [.call 0 .itself (.trace none 7 (some (Utf8.ofString "%s"))
        [.string (some (List.replicate 300 0x78))])]))[2]? =
      some ⟨.nothing, [.observedLog 0 (List.replicate 252 0x78 ++ Utf8.ofString "..."),
        .log ⟨.error, "bgfx_interop::adapter",
          "bgfx callback handler panicked in trace_vargs".toList⟩]⟩ := by
  have ha : (after brittle).alive? 0 = some ⟨.observer .crashes, false, true⟩ := by decide
  obtain ⟨-, -, -, -, -, hshown⟩ := trace_dispatch brittle [] ha none 7
    (some (Utf8.ofString "%s")) [.string (some (List.replicate 300 0x78))]
  refine ⟨ha, (hshown _ rfl).trans ?_⟩
  decide +kernel

end ConsoleRelay.Session
