import ConsoleRelay.Proofs.Session.Run

/-!
Two sessions side by side, of which the second has other handlers and other settings.

Neither handlers nor settings steer a session. If the steps of a session are recast and C sinks are
left alone, it goes through the same states, recast in the same way, and only what the interfaces
answer can differ.
-/
namespace ConsoleRelay

/-- An interface with another handler. -/
def Adapter.recast (f : Handler → Handler) (a : Adapter) : Adapter :=
  { a with handler := f a.handler }

theorem Adapter.recast_id : Adapter.recast id = id := rfl

/-- A step with another handler or another setting. -/
def Step.recast (f : Handler → Handler) (g : Verbosity → Verbosity) : Step → Step
  | .adapter handler => .adapter (f handler)
  | .setVerbosity v => .setVerbosity (g v)
  | st => st

namespace Session

variable {f : Handler → Handler} {g : Verbosity → Verbosity}

/-- A session with other handlers and another setting. -/
def recast (f : Handler → Handler) (g : Verbosity → Verbosity) (s : Session) : Session :=
  ⟨s.adapters.map (Adapter.recast f), s.live, g s.verbosity⟩

theorem alive?_recast (s : Session) (h : Handle) :
    (s.recast f g).alive? h = (s.alive? h).map (Adapter.recast f) := by
  simp only [alive?, recast, List.getElem?_map]
  cases s.adapters[h]? with
  | none => rfl
  | some a => cases ha : a.alive <;> simp [Option.filter, Adapter.recast, ha]

theorem add_recast (s : Session) (a : Adapter) :
    (s.recast f g).add (a.recast f) = (s.add a).recast f g := by
  simp [add, recast]

theorem bury_recast (s : Session) (h : Handle) :
    (s.recast f g).bury h = (s.bury h).recast f g := by
  simp only [bury, recast, Session.mk.injEq, and_self, and_true]
  apply List.ext_getElem?
  intro k
  rw [List.getElem?_map, List.getElem?_modify, List.getElem?_modify, List.getElem?_map]
  cases s.adapters[k]? with
  | none => rfl
  | some a => by_cases hk : h = k <;> simp [hk, Adapter.recast]

theorem unregister_recast (s : Session) (h : Handle) :
    (s.recast f g).unregister h = (s.unregister h).recast f g := by
  rw [unregister, bury_recast]
  rfl

theorem release_recast (s : Session) (p : Pointer) :
    (s.recast f g).release p = (s.release p).map fun x => (x.1.recast f g, x.2) := by
  by_cases hp : ∀ h, p = .interface h → h ∉ s.live
  · rw [release_refused hp, release_refused (s := s.recast f g) hp]
    rfl
  · simp only [not_forall, not_not] at hp
    obtain ⟨h, rfl, hl⟩ := hp
    rw [release_live hl, release_live (s := s.recast f g) hl, unregister_recast]
    rfl

theorem drop_recast (s : Session) (h : Handle) :
    (s.recast f g).drop h = ((s.drop h).1.recast f g, (s.drop h).2) := by
  simp only [drop, alive?_recast, bury_recast]
  cases s.alive? h with
  | none => rfl
  | some a => cases hr : a.registered <;> simp [Adapter.recast, hr]

theorem ask_recast (s : Session) (h : Handle) (q : Adapter → Outcome) :
    (s.recast f g).ask h q = (s.recast f g, (s.ask h (q ∘ Adapter.recast f)).2) := by
  simp only [ask, alive?_recast]
  cases s.alive? h <;> rfl

theorem question?_recast {st : Step} {x : Handle × (Adapter → Outcome)}
    (hst : question? st = some x) : question? (st.recast f g) = some x := by
  cases st <;> cases hst <;> rfl

/-- A recast session answers as the session would with the other handlers. -/
theorem step_recast_question {st : Step} {h : Handle} {q : Adapter → Outcome}
    (hst : question? st = some (h, q)) (s : Session) :
    (s.recast f g).step (st.recast f g) =
      ((s.step st).1.recast f g, (s.ask h (q ∘ Adapter.recast f)).2) := by
  rw [step_question (question?_recast hst), step_question hst, ask_recast, ask_state]

/-- Every other step shows the same. -/
theorem step_recast_plain (hf : ∀ log fatal, f (.sinks log fatal) = .sinks log fatal) {st : Step}
    (hst : question? st = none) (s : Session) :
    (s.recast f g).step (st.recast f g) = ((s.step st).1.recast f g, (s.step st).2) := by
  cases st with
  | create log fatal =>
    have hadd : (s.recast f g).add ⟨.sinks log fatal, true, true⟩ =
        (s.add ⟨.sinks log fatal, true, true⟩).recast f g := by
      rw [← add_recast, Adapter.recast, hf]
    simp only [step, Step.recast, create, hadd]
    simp [recast, add]
  | adapter handler =>
    simp only [step, Step.recast]
    rw [← add_recast]
    simp [Adapter.recast, recast]
  | destroy p =>
    simp only [step, Step.recast, destroy, release_recast]
    cases s.release p <;> rfl
  | tryDestroy p =>
    simp only [step, Step.recast, tryDestroy, release_recast]
    cases s.release p <;> rfl
  | drop h => exact drop_recast s h
  | liveCount => rfl
  | setVerbosity v => rfl
  | roundTrip h => cases hst
  | describe h => cases hst
  | directLog h text => cases hst
  | call h receiver c => cases hst

theorem step_recast_state (hf : ∀ log fatal, f (.sinks log fatal) = .sinks log fatal)
    (s : Session) (st : Step) :
    ((s.recast f g).step (st.recast f g)).1 = (s.step st).1.recast f g := by
  cases hst : question? st with
  | none => rw [step_recast_plain hf hst]
  | some x => rw [step_recast_question hst]

/-- Recast steps lead to the recast session. -/
theorem after_recast (hf : ∀ log fatal, f (.sinks log fatal) = .sinks log fatal)
    (hg : g .all = .all) (steps : List Step) :
    after (steps.map (Step.recast f g)) = (after steps).recast f g := by
  induction steps using List.reverseRecOn with
  | nil => simp [recast, hg]
  | append_singleton steps st ih =>
    rw [List.map_append, List.map_singleton, after_concat, after_concat, ih,
      step_recast_state hf]

theorem getElem?_outcomes_recast (hf : ∀ log fatal, f (.sinks log fatal) = .sinks log fatal)
    (hg : g .all = .all) (steps : List Step) (i : Nat) :
    (outcomes (steps.map (Step.recast f g)))[i]? = steps[i]?.map fun st =>
      seen (g (after (steps.take i)).verbosity)
        (((after (steps.take i)).recast f g).step (st.recast f g)).2 := by
  rw [getElem?_outcomes, ← List.map_take, after_recast hf hg, List.getElem?_map, Option.map_map]
  rfl

end Session

end ConsoleRelay
