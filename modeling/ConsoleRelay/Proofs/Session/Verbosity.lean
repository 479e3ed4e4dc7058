import ConsoleRelay.Proofs.Session.Recast

/-!
What the verbosity of a session decides.

The verbosity in force at a step is the last one set before it. It holds back the log records that
are less severe, and nothing else: a run shows what the same run shows at full verbosity, less those
records.
-/
namespace ConsoleRelay

/-- Whether a record is less severe than a level. Every record is less severe than `off`. -/
def Verbosity.outranks : Verbosity → Severity → Bool
  | .off, _ => true
  | .upTo limit, s => limit.rank < s.rank

namespace Event

/-- Whether an event is a log record that is less severe than a level. -/
def isBelow (v : Verbosity) : Event → Bool
  | .log r => v.outranks r.severity
  | _ => false

def isRecord : Event → Bool
  | .log _ => true
  | _ => false

theorem isSeen_eq (v : Verbosity) (e : Event) : e.isSeen v = !e.isBelow v := by
  cases e with
  | log r =>
    cases v with
    | off => rfl
    | upTo limit =>
      simp only [isSeen, isBelow, Verbosity.admits, Verbosity.outranks, ← decide_not, Nat.not_lt]
  | _ => rfl

theorem isSeen_all (e : Event) : e.isSeen .all = true := by
  cases e with
  | log r =>
    have hrank : r.severity.rank ≤ Severity.trace.rank := by cases r.severity <;> decide
    exact decide_eq_true hrank
  | _ => rfl

theorem isSeen_of_not_isRecord (v : Verbosity) {e : Event} (he : e.isRecord = false) :
    e.isSeen v = true := by
  cases e with
  | log r => cases he
  | _ => rfl

end Event

/-- A step that sets no verbosity but the full one. -/
def Step.loud : Step → Step
  | .setVerbosity _ => .setVerbosity .all
  | st => st

theorem Step.loud_eq_recast : Step.loud = Step.recast id fun _ => .all := by
  funext st
  cases st <;> rfl

namespace Session

def tuned? : Step → Option Verbosity
  | .setVerbosity v => some v
  | _ => none

/-- The verbosity in force after some steps: the last one they set, if any, and else the full
one. -/
def inForce (past : List Step) : Verbosity := (past.filterMap tuned?).getLastD .all

theorem verbosity_step (s : Session) (st : Step) :
    (s.step st).1.verbosity = (tuned? st).getD s.verbosity := by
  cases ht : tuned? st with
  | some v =>
    cases st <;> cases ht
    rfl
  | none =>
    have hc := step_change s st
    generalize (s.step st).1 = s' at hc
    cases hc with
    | made ha => rfl
    | unregistered hst hlive => rfl
    | dropped hst ha hown => rfl
    | retuned hst =>
      subst hst
      cases ht
    | nothing hmade hlive hown => rfl

theorem verbosity_after (past : List Step) : (after past).verbosity = inForce past := by
  induction past using List.reverseRecOn with
  | nil => rfl
  | append_singleton past st ih =>
    rw [after_concat, verbosity_step, ih]
    cases ht : tuned? st <;> simp [inForce, List.filterMap_append, ht]

theorem seen_all (o : Outcome) : seen .all o = o := by
  have hevents : o.events.filter (·.isSeen .all) = o.events :=
    List.filter_eq_self.mpr fun e _ => Event.isSeen_all e
  rw [seen, hevents]

/-- At full verbosity a run shows everything its steps cause. -/
theorem getElem?_outcomes_loud (steps : List Step) (i : Nat) :
    (outcomes (steps.map Step.loud))[i]? =
      steps[i]?.map fun st => ((after (steps.take i)).step st).2 := by
  have hstep (s : Session) (st : Step) :
      ((s.recast id fun _ => .all).step (st.recast id fun _ => .all)).2 = (s.step st).2 := by
    cases hst : question? st with
    | none => rw [step_recast_plain (fun _ _ => rfl) hst]
    | some x =>
      rw [step_recast_question hst, Adapter.recast_id, Function.comp_id, step_question hst]
  rw [Step.loud_eq_recast, getElem?_outcomes_recast (fun _ _ => rfl) rfl]
  simp only [seen_all, hstep]

theorem filter_not_isRecord_seen (v : Verbosity) (o : Outcome) :
    (seen v o).events.filter (!·.isRecord) = o.events.filter (!·.isRecord) := by
  rw [seen, List.filter_filter]
  apply List.filter_congr
  intro e _
  cases he : e.isRecord with
  | true => rfl
  | false => simp [Event.isSeen_of_not_isRecord v he]

theorem outcomes_eq_loud (steps : List Step) :
    outcomes steps = (outcomes (steps.map Step.loud)).mapIdx fun i o =>
      seen (inForce (steps.take i)) o := by
  apply List.ext_getElem?
  intro i
  rw [List.getElem?_mapIdx, getElem?_outcomes_loud, getElem?_outcomes, Option.map_map,
    verbosity_after]
  rfl

/-- The verbosity only filters. Compared with the run in which every setting is the full one, each
step has the same result, and its events are the same in the same order, without exactly the log
records less severe than the verbosity in force. Calls of sinks, closures and observers stay. -/
theorem verbosity_only_filters (steps : List Step) :
    outcomes steps = (outcomes (steps.map Step.loud)).mapIdx (fun i o =>
      ⟨o.result, o.events.filter fun e => !e.isBelow (inForce (steps.take i))⟩) ∧
    (outcomes steps).map (fun o => o.events.filter (!·.isRecord)) =
      (outcomes (steps.map Step.loud)).map fun o => o.events.filter (!·.isRecord) := by
  constructor
  · rw [outcomes_eq_loud]
    simp only [seen, Event.isSeen_eq]
  · rw [outcomes_eq_loud]
    apply List.ext_getElem?
    intro i
    simp only [List.getElem?_map, List.getElem?_mapIdx, Option.map_map, Function.comp_def,
      filter_not_isRecord_seen]

example : (outcomes [.create none none, .setVerbosity (.upTo .warn), .create none none,
    .call 0 .itself (.fatal ⟨none, 1, 0, none⟩)]).map (·.events.length) = [1, 0, 0, 1] := by
  decide +kernel

end Session

end ConsoleRelay
