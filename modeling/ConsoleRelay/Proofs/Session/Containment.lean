import ConsoleRelay.Proofs.Session.Delivery
import ConsoleRelay.Proofs.Session.Verbosity

/-!
Crashes of handlers end where they happen.

A run whose handlers crash is compared with the run in which the same handlers note the same events
and return. Each step has the same result and the same events; a call whose handler crashed is
followed by one error record that names the slot, and nothing later is different.
-/
namespace ConsoleRelay

/-- The slot that brings a notice. -/
def Notice.slot : Notice → String
  | .message _ => "trace_vargs"
  | .fatal _ => "fatal"

namespace Handler

/-- The handler that notes the same events and always returns. -/
def tamed : Handler → Handler
  | .closures onLog onFatal =>
    .closures (onLog.map fun _ => .returns) (onFatal.map fun _ => .returns)
  | .observer _ => .observer .returns
  | handler => handler

/-- Whether a handler crashes on a notice: a closure for its own kind only, an observer on both. -/
def crashesOn : Handler → Notice → Bool
  | .closures onLog _, .message _ => onLog == some .crashes
  | .closures _ onFatal, .fatal _ => onFatal == some .crashes
  | .observer reaction, _ => reaction == .crashes
  | _, _ => false

theorem take_tamed (h : Handle) (handler : Handler) (n : Notice) :
    handler.tamed.take h n = ⟨(handler.take h n).events, false⟩ := by
  cases handler with
  | sinks log fatal => cases n <;> cases log <;> cases fatal <;> rfl
  | closures onLog onFatal => cases n <;> cases onLog <;> cases onFatal <;> rfl
  | forwarder => cases n <;> rfl
  | observer reaction => cases n <;> rfl

theorem crashed_take (h : Handle) (handler : Handler) (n : Notice) :
    (handler.take h n).crashed = handler.crashesOn n := by
  cases handler with
  | sinks log fatal => cases n <;> cases log <;> cases fatal <;> rfl
  | closures onLog onFatal =>
    cases n with
    | message text =>
      cases onLog with
      | none => rfl
      | some reaction => cases reaction <;> rfl
    | fatal report =>
      cases onFatal with
      | none => rfl
      | some reaction => cases reaction <;> rfl
  | forwarder => cases n <;> rfl
  | observer reaction => cases n <;> cases reaction <;> rfl

theorem describe_tamed (handler : Handler) : handler.tamed.describe = handler.describe := by
  cases handler with
  | closures onLog onFatal => cases onLog <;> cases onFatal <;> rfl
  | _ => rfl

end Handler

theorem Adapter.describe_tamed (h : Handle) (a : Adapter) :
    (a.recast Handler.tamed).describe h = a.describe h := by
  rw [Adapter.describe, Adapter.describe, Adapter.recast, Handler.describe_tamed]

def Step.tamed : Step → Step
  | .adapter handler => .adapter handler.tamed
  | st => st

theorem Step.tamed_eq_recast : Step.tamed = Step.recast Handler.tamed id := by
  funext st
  cases st <;> rfl

def Adapter.crashRecord (slot : String) : Event :=
  .log ⟨.error, "bgfx_interop::adapter",
    "bgfx callback handler panicked in ".toList ++ slot.toList⟩

theorem Adapter.guarded_take (h : Handle) (handler : Handler) (n : Notice) :
    Adapter.guarded n.slot (handler.take h n) =
      Adapter.guarded n.slot (handler.tamed.take h n) ++
        if handler.crashesOn n then [Adapter.crashRecord n.slot] else [] := by
  have htamed : Adapter.guarded n.slot (handler.tamed.take h n) = (handler.take h n).events := by
    rw [Handler.take_tamed]
    exact List.append_nil _
  rw [htamed, ← Handler.crashed_take h handler n]
  rfl

namespace Session

/-- The notice that a call crashes a handler with. -/
def crash? (handler : Handler) (receiver : Receiver) (c : Call) : Option Notice :=
  (notice? receiver c).filter handler.crashesOn

def crashRecords (crash : Option Notice) : List Event :=
  crash.toList.map fun n => Adapter.crashRecord n.slot

theorem crashRecords_filter (handler : Handler) (n : Notice) :
    crashRecords ((some n).filter handler.crashesOn) =
      if handler.crashesOn n then [Adapter.crashRecord n.slot] else [] := by
  cases hc : handler.crashesOn n <;> simp [crashRecords, Option.filter, hc]

theorem trace_tamed (h : Handle) (handler : Handler) (file : Option Bytes) (line : UInt16)
    (format : Bytes) (args : List Format.Argument) :
    Adapter.trace h handler file line format args =
      Adapter.trace h handler.tamed file line format args ++
        crashRecords ((traceNotice? format args).filter handler.crashesOn) := by
  cases hm : Trace.message format args with
  | error e =>
    simp only [Adapter.trace, traceNotice?, hm]
    exact (List.append_nil _).symm
  | ok m =>
    simp only [Adapter.trace, traceNotice?, hm, crashRecords_filter, List.append_assoc]
    rw [← message_cString hm]
    exact congrArg _ (Adapter.guarded_take h handler (.message m.cString))

theorem traceSlot_tamed (h : Handle) (handler : Handler) (receiver : Receiver)
    (file : Option Bytes) (line : UInt16) (format : Option Bytes)
    (args : List Format.Argument) :
    Adapter.traceSlot h handler receiver file line format args =
      Adapter.traceSlot h handler.tamed receiver file line format args ++
        crashRecords (crash? handler receiver (.traceArgs file line format args)) := by
  cases receiver with
  | itself =>
    cases format with
    | some f => exact trace_tamed h handler file line f args
    | none => rfl
  | null => rfl
  | noTable => rfl

/-- What one call shows: all that the tamed handler shows, and then the record of a crash. -/
theorem answer_tamed (h : Handle) (a : Adapter) (receiver : Receiver) (c : Call) :
    answer h a receiver c =
      ⟨(answer h (a.recast Handler.tamed) receiver c).result,
        (answer h (a.recast Handler.tamed) receiver c).events ++
          crashRecords (crash? a.handler receiver c)⟩ := by
  cases c with
  | trace file line format args =>
    simp only [answer, traceEntry_eq_traceSlot, Outcome.mk.injEq, true_and]
    rw [traceSlot_tamed]
    cases receiver <;> cases format <;> rfl
  | traceArgs file line format args =>
    simp only [answer, Outcome.mk.injEq, true_and]
    exact traceSlot_tamed h a.handler receiver file line format args
  | fatal report =>
    simp only [answer, Outcome.mk.injEq, true_and]
    cases receiver with
    | itself =>
      simp only [crash?, notice?, crashRecords_filter]
      exact Adapter.guarded_take h a.handler (.fatal report)
    | null => rfl
    | noTable => rfl
  | _ => cases receiver <;> rfl

/-- The notice that a step crashes a handler with, given the interfaces before it. -/
def crashAt? (as : List Adapter) : Step → Option Notice
  | .call h receiver c => (aliveIn as h).bind fun a => crash? a.handler receiver c
  | _ => none

theorem crashAt?_plain {as : List Adapter} {st : Step} (hst : question? st = none) :
    crashAt? as st = none := by
  cases st with
  | call h receiver c => cases hst
  | _ => rfl

/-- One step of the session with crashing handlers, against that with tamed ones. -/
theorem step_tamed (s : Session) {st : Step} (hst : ∀ h text, st ≠ .directLog h text) :
    (s.step st).2 =
      ⟨((s.recast Handler.tamed id).step st.tamed).2.result,
        ((s.recast Handler.tamed id).step st.tamed).2.events ++
          crashRecords (crashAt? s.adapters st)⟩ := by
  rw [Step.tamed_eq_recast]
  cases st with
  | call h receiver c =>
    rw [step_recast_question (h := h) (q := fun a => answer h a receiver c) rfl]
    simp only [step, ask, crashAt?, alive?_eq]
    cases aliveIn s.adapters h with
    | none => rfl
    | some a => exact answer_tamed h a receiver c
  | describe h =>
    rw [step_recast_question (h := h) (q := fun a => ⟨.text (a.describe h), []⟩) rfl]
    simp only [step, ask]
    cases s.alive? h with
    | none => rfl
    | some a =>
      simp only [Function.comp_apply, Adapter.describe_tamed]
      rfl
  | roundTrip h =>
    rw [step_recast_question (h := h) (q := fun _ => ⟨.same true, []⟩) rfl]
    simp only [step, ask]
    cases s.alive? h <;> rfl
  | directLog h text => exact absurd rfl (hst h text)
  | _ =>
    rw [step_recast_plain (fun _ _ => rfl) rfl, crashAt?_plain rfl]
    exact congrArg (Outcome.mk _) (List.append_nil _).symm

/-- What a run shows of the crash in a step, after the steps before it. -/
def crashShown (past : List Step) (st : Step) : List Event :=
  match crashAt? (population past) st with
  | some n => if (inForce past).admits .error then [Adapter.crashRecord n.slot] else []
  | none => []

theorem filter_crashRecords (past : List Step) (st : Step) :
    (crashRecords (crashAt? (population past) st)).filter (·.isSeen (inForce past)) =
      crashShown past st := by
  unfold crashShown
  cases crashAt? (population past) st with
  | none => rfl
  | some n => exact List.filter_cons

/-- Crashes of handlers are contained. Compared with the run in which every handler notes its event
and returns, each step has the same result and the same events, and then, if its handler crashed and
errors are shown, one record that names the slot. The sessions stay the same except for the
handlers. -/
theorem crashes_contained (steps : List Step) (hdirect : ∀ h text, Step.directLog h text ∉ steps) :
    outcomes steps = (steps.zip (outcomes (steps.map Step.tamed))).mapIdx (fun i x =>
      ⟨x.2.result, x.2.events ++ crashShown (steps.take i) x.1⟩) ∧
    after (steps.map Step.tamed) =
      { after steps with
        adapters := (after steps).adapters.map (Adapter.recast Handler.tamed) } := by
  constructor
  · apply List.ext_getElem?
    intro i
    rw [List.getElem?_mapIdx, List.zip, List.getElem?_zipWith, Step.tamed_eq_recast,
      getElem?_outcomes_recast (fun _ _ => rfl) rfl, ← Step.tamed_eq_recast, getElem?_outcomes]
    cases hi : steps[i]? with
    | none => rfl
    | some st =>
      have hst : ∀ h text, st ≠ .directLog h text := by
        rintro h text rfl
        exact hdirect h text (List.mem_of_getElem? hi)
      simp only [Option.map_some]
      rw [step_tamed _ hst, seen, List.filter_append, adapters_after, verbosity_after,
        filter_crashRecords]
      rfl
  · rw [Step.tamed_eq_recast]
    exact after_recast (fun _ _ => rfl) rfl steps

/-- One closure of two crashes, an observer crashes after a cut message, a format that cannot be
rendered reaches no handler, and one crash falls into a time without log. Both interfaces go on
working and one is dropped. -/
def shaky : List Step := [
  .adapter (.closures (some .returns) (some .crashes)),
  .adapter (.observer .crashes),
  .call 0 .itself (.trace none 1 (some (Utf8.ofString "fine")) []),
  .call 0 .itself (.fatal ⟨none, 2, 1, none⟩),
  .call 1 .itself (.traceArgs none 3 (some (Utf8.ofString "%300d")) [.word 1]),
  .call 1 .itself (.trace none 4 (some (Utf8.ofString "100%")) []),
  .setVerbosity .off,
  .call 1 .itself (.fatal ⟨none, 5, 7, none⟩),
  .setVerbosity (.upTo .error),
  .call 1 .null (.fatal ⟨none, 6, 7, none⟩),
  .call 0 .itself (.fatal ⟨none, 7, 1, none⟩),
  .drop 1]

theorem crashes_contained_shaky :
    (∀ h text, Step.directLog h text ∉ shaky) ∧
    (outcomes shaky).map (·.events) =
      List.zipWith (· ++ ·) ((outcomes (shaky.map Step.tamed)).map (·.events))
        [[], [], [], [Adapter.crashRecord "fatal"], [Adapter.crashRecord "trace_vargs"], [], [], [],
          [], [], [Adapter.crashRecord "fatal"], []] := by
  have hdirect : ∀ h text, Step.directLog h text ∉ shaky := by simp [shaky]
  refine ⟨hdirect, ?_⟩
  rw [(crashes_contained shaky hdirect).1]
  decide +kernel

end Session

end ConsoleRelay
