import ConsoleRelay.Session
import Mathlib.Data.List.Induction

/-!
Runs of sessions, and what one step does to the interfaces.

A run is taken apart at its last step: what the host has seen so far is its history, and the
session it has led to is the one the next step starts from. `Change` lists everything a step can do
to a session. Every run keeps the registry consistent: it holds just the registered interfaces that
exist. Therefore the interfaces there are follow from the steps alone, and `nextPopulation` tells
them without a look at the registry.
-/
namespace ConsoleRelay

/-- The status a destroying step reports, through either entry point. -/
def Result.status? : Result → Option Status
  | .status s => some s
  | .destroyed none => some .ok
  | .destroyed (some e) => some e.status
  | _ => none

namespace Session

@[simp] theorem run_nil (s : Session) : run s [] = ([], s) := rfl

@[simp] theorem run_cons (s : Session) (st : Step) (sts : List Step) :
    run s (st :: sts) =
      (seen s.verbosity (s.step st).2 :: (run (s.step st).1 sts).1,
        (run (s.step st).1 sts).2) := rfl

theorem run_append (s : Session) (sts sts' : List Step) :
    run s (sts ++ sts') =
      ((run s sts).1 ++ (run (run s sts).2 sts').1, (run (run s sts).2 sts').2) := by
  induction sts generalizing s with
  | nil => rfl
  | cons st sts ih => simp [ih]

@[simp] theorem length_run (s : Session) (sts : List Step) : (run s sts).1.length = sts.length := by
  induction sts generalizing s with
  | nil => rfl
  | cons st sts ih => simp [ih]

/-- The session after steps from the beginning. -/
def after (steps : List Step) : Session := (run {} steps).2

/-- What a host has seen: each step with its visible outcome. -/
def history (steps : List Step) : List (Step × Outcome) := steps.zip (outcomes steps)

@[simp] theorem after_nil : after [] = {} := rfl

@[simp] theorem history_nil : history [] = [] := rfl

@[simp] theorem after_concat (steps : List Step) (st : Step) :
    after (steps ++ [st]) = ((after steps).step st).1 := by
  rw [after, run_append]
  rfl

@[simp] theorem history_concat (steps : List Step) (st : Step) :
    history (steps ++ [st]) = history steps ++
      [(st, seen (after steps).verbosity ((after steps).step st).2)] := by
  rw [history, outcomes, run_append, List.zip_append (by simp)]
  rfl

@[simp] theorem length_history (steps : List Step) : (history steps).length = steps.length := by
  simp [history, outcomes]

/-- What a step shows depends on the steps before it and on nothing after it. -/
theorem getElem?_run (s : Session) (steps : List Step) (i : Nat) :
    (run s steps).1[i]? = steps[i]?.map fun st =>
      seen (run s (steps.take i)).2.verbosity ((run s (steps.take i)).2.step st).2 := by
  induction steps generalizing s i with
  | nil => rfl
  | cons st sts ih =>
    cases i with
    | zero => rfl
    | succ i => exact ih (s.step st).1 i

theorem getElem?_outcomes (steps : List Step) (i : Nat) :
    (outcomes steps)[i]? = steps[i]?.map fun st =>
      seen (after (steps.take i)).verbosity ((after (steps.take i)).step st).2 :=
  getElem?_run {} steps i

/-- A run around one of its steps. -/
theorem outcomes_around (past rest : List Step) (st : Step) :
    outcomes (past ++ st :: rest) = outcomes past ++
      seen (after past).verbosity ((after past).step st).2 ::
        (run ((after past).step st).1 rest).1 := by
  rw [outcomes, run_append, run_cons]
  rfl

/-- Everything that happens in a run, whether or not it is shown. -/
def caused : Session → List Step → List Event
  | _, [] => []
  | s, st :: sts => (s.step st).2.events ++ caused (s.step st).1 sts

theorem caused_concat (s : Session) (steps : List Step) (st : Step) :
    caused s (steps ++ [st]) = caused s steps ++ ((run s steps).2.step st).2.events := by
  induction steps generalizing s with
  | nil => simp [caused]
  | cons st' sts ih => simp [caused, ih]

/-- The interface with a number among those made, if it still exists. -/
def aliveIn (as : List Adapter) (h : Handle) : Option Adapter := as[h]?.filter Adapter.alive

theorem alive?_eq (s : Session) (h : Handle) : s.alive? h = aliveIn s.adapters h := rfl

theorem aliveIn_eq_some {as : List Adapter} {h : Handle} {a : Adapter} :
    aliveIn as h = some a ↔ as[h]? = some a ∧ a.alive = true := by
  simp [aliveIn, Option.filter_eq_some_iff]

theorem aliveIn_concat (as : List Adapter) {a : Adapter} (ha : a.alive = true) (h : Handle) :
    aliveIn (as ++ [a]) h = if h = as.length then some a else aliveIn as h := by
  rcases Nat.lt_trichotomy h as.length with hlt | rfl | hgt
  · rw [if_neg (Nat.ne_of_lt hlt), aliveIn, aliveIn, List.getElem?_append_left hlt]
  · simp [aliveIn, ha]
  · rw [if_neg (Nat.ne_of_gt hgt), aliveIn, aliveIn, List.getElem?_eq_none (by simp; omega),
      List.getElem?_eq_none (by omega)]

theorem aliveIn_modify_dead (as : List Adapter) (h k : Handle) :
    aliveIn (as.modify h fun a => { a with alive := false }) k =
      if k = h then none else aliveIn as k := by
  by_cases hk : k = h
  · subst hk
    simp [aliveIn]
  · rw [if_neg hk, aliveIn, aliveIn, List.getElem?_modify_ne _ _ (Ne.symm hk)]

/-- The interface a step makes. -/
def made? : Step → Option Adapter
  | .create log fatal => some ⟨.sinks log fatal, true, true⟩
  | .adapter handler => some ⟨handler, false, true⟩
  | _ => none

/-- The handle a step asks to destroy, through either entry point. -/
def destroys? : Step → Option Handle
  | .destroy (.interface h) | .tryDestroy (.interface h) => some h
  | _ => none

theorem made?_alive {st : Step} {a : Adapter} (h : made? st = some a) : a.alive = true := by
  cases st <;> simp only [made?, reduceCtorEq, Option.some.injEq] at h <;> subst h <;> rfl

theorem destroys?_made {st : Step} {a : Adapter} (h : made? st = some a) : destroys? st = none := by
  cases st <;> simp only [made?, reduceCtorEq] at h <;> rfl

theorem step_of_destroys? {st : Step} {h : Handle} (hst : destroys? st = some h) :
    st = .destroy (.interface h) ∨ st = .tryDestroy (.interface h) := by
  unfold destroys? at hst
  split at hst <;> cases hst <;> simp

theorem made?_destroys {st : Step} {h : Handle} (hst : destroys? st = some h) :
    made? st = none := by
  rcases step_of_destroys? hst with rfl | rfl <;> rfl

/-- Everything a step can do to a session. -/
inductive Change (s : Session) (st : Step) : Session → Prop where
  | made {a : Adapter} (h : made? st = some a) :
      Change s st { s.add a with
        live := if a.registered then s.adapters.length :: s.live else s.live }
  | unregistered {h : Handle} (hst : destroys? st = some h) (hlive : h ∈ s.live) :
      Change s st (s.unregister h)
  | dropped {h : Handle} {a : Adapter} (hst : st = .drop h) (ha : s.alive? h = some a)
      (hown : a.registered = false) : Change s st (s.bury h)
  | retuned {v : Verbosity} (hst : st = .setVerbosity v) : Change s st { s with verbosity := v }
  | nothing (hmade : made? st = none) (hlive : ∀ h, destroys? st = some h → h ∉ s.live)
      (hown : ∀ h a, st = .drop h → s.alive? h = some a → a.registered = true) : Change s st s

theorem release_live {s : Session} {h : Handle} (hl : h ∈ s.live) :
    s.release (.interface h) = .ok (s.unregister h, [Adapter.released h]) := by
  simp [release, hl]

theorem release_refused {s : Session} {p : Pointer} (hp : ∀ h, p = .interface h → h ∉ s.live) :
    s.release p = .error (if p = .null then .nullHandle else .unknownHandle p) := by
  cases p with
  | null => rfl
  | interface h => simp [release, hp h rfl]
  | elsewhere a => rfl

theorem destroying_live {s : Session} {st : Step} {h : Handle}
    (hst : st = .destroy (.interface h) ∨ st = .tryDestroy (.interface h)) (hl : h ∈ s.live) :
    (s.step st).1 = s.unregister h ∧ (s.step st).2.events = [Adapter.released h] ∧
      (s.step st).2.result.status? = some .ok := by
  rcases hst with rfl | rfl
  · rw [step, destroy, release_live hl]
    exact ⟨rfl, rfl, rfl⟩
  · rw [step, tryDestroy, release_live hl]
    exact ⟨rfl, rfl, rfl⟩

theorem destroying_refused {s : Session} {st : Step} {p : Pointer}
    (hst : st = .destroy p ∨ st = .tryDestroy p) (hp : ∀ h, p = .interface h → h ∉ s.live) :
    (s.step st).1 = s ∧
      (∀ e ∈ (s.step st).2.events, ∃ text, e = .log ⟨.error, registryTarget, text⟩) ∧
      (s.step st).2.result.status? =
        some (if p = .null then .nullHandle else .unknownHandle) := by
  have hstatus : (if p = .null then Failure.nullHandle else .unknownHandle p).status =
      if p = .null then .nullHandle else .unknownHandle := by
    split_ifs <;> rfl
  rcases hst with rfl | rfl
  · rw [step, destroy, release_refused hp]
    exact ⟨rfl, by simp, congrArg some hstatus⟩
  · rw [step, tryDestroy, release_refused hp]
    exact ⟨rfl, by simp, congrArg some hstatus⟩

theorem destroying_change {s : Session} {st : Step} {p : Pointer}
    (hst : st = .destroy p ∨ st = .tryDestroy p) : Change s st (s.step st).1 := by
  by_cases hp : ∀ h, p = .interface h → h ∉ s.live
  · rw [(destroying_refused hst hp).1]
    rcases hst with rfl | rfl <;>
      exact .nothing rfl (fun h hh => hp h (by cases p <;> simp_all [destroys?])) (by simp)
  · simp only [not_forall, not_not] at hp
    obtain ⟨h, rfl, hl⟩ := hp
    rw [(destroying_live hst hl).1]
    rcases hst with rfl | rfl <;> exact .unregistered rfl hl

theorem drop_own {s : Session} {h : Handle} {a : Adapter} (ha : s.alive? h = some a)
    (hown : a.registered = false) :
    s.drop h = (s.bury h, ⟨.nothing, [Adapter.released h]⟩) := by
  simp [drop, ha, hown]

theorem drop_refused {s : Session} {h : Handle}
    (hh : ∀ a, s.alive? h = some a → a.registered = true) : s.drop h = (s, ⟨.nothing, []⟩) := by
  unfold drop
  split
  next a ha => rw [if_pos (hh a ha)]
  next => rfl

theorem drop_change (s : Session) (h : Handle) : Change s (.drop h) (s.drop h).1 := by
  by_cases hh : ∀ a, s.alive? h = some a → a.registered = true
  · rw [drop_refused hh]
    refine .nothing rfl (by simp [destroys?]) (fun k a hk ha => ?_)
    cases hk
    exact hh a ha
  · simp only [not_forall, Bool.not_eq_true] at hh
    obtain ⟨a, ha, hown⟩ := hh
    rw [drop_own ha hown]
    exact .dropped rfl ha hown

theorem ask_state (s : Session) (h : Handle) (f : Adapter → Outcome) : (s.ask h f).1 = s := by
  unfold ask
  split <;> rfl

/-- What a step asks of an interface, for the steps that do no more than that. -/
def question? : Step → Option (Handle × (Adapter → Outcome))
  | .roundTrip h => some (h, fun _ => ⟨.same true, []⟩)
  | .describe h => some (h, fun a => ⟨.text (a.describe h), []⟩)
  | .directLog h text => some (h, fun a => ⟨.nothing, (a.handler.log h text).events⟩)
  | .call h receiver c => some (h, fun a => answer h a receiver c)
  | _ => none

theorem step_question {st : Step} {h : Handle} {q : Adapter → Outcome}
    (hst : question? st = some (h, q)) (s : Session) : s.step st = s.ask h q := by
  cases st <;> cases hst <;> rfl

/-- The variadic entry and the slot behind it do the same. -/
theorem traceEntry_eq_traceSlot (h : Handle) (handler : Handler) (receiver : Receiver)
    (file : Option Bytes) (line : UInt16) (format : Option Bytes)
    (args : List Format.Argument) : Adapter.traceEntry h handler receiver file line format args =
      Adapter.traceSlot h handler receiver file line format args := by
  cases receiver <;> cases format <;> rfl

theorem Change.idle {s : Session} {st : Step} (hmade : made? st = none)
    (hdestroys : destroys? st = none) (hdrop : ∀ h, st ≠ .drop h) : Change s st s :=
  .nothing hmade (by simp [hdestroys]) (fun h _ hst => absurd hst (hdrop h))

theorem step_change (s : Session) (st : Step) : Change s st (s.step st).1 := by
  cases st with
  | create log fatal => exact .made (a := ⟨.sinks log fatal, true, true⟩) rfl
  | adapter handler => exact .made (a := ⟨handler, false, true⟩) rfl
  | destroy p => exact destroying_change (.inl rfl)
  | tryDestroy p => exact destroying_change (.inr rfl)
  | drop h => exact drop_change s h
  | setVerbosity v => exact .retuned rfl
  | liveCount => exact .idle rfl rfl (by simp)
  | roundTrip h => exact (ask_state s h _).symm ▸ .idle rfl rfl (by simp)
  | describe h => exact (ask_state s h _).symm ▸ .idle rfl rfl (by simp)
  | directLog h text => exact (ask_state s h _).symm ▸ .idle rfl rfl (by simp)
  | call h receiver c => exact (ask_state s h _).symm ▸ .idle rfl rfl (by simp)

/-- The registry holds each registered interface that exists, and each only once. -/
structure Consistent (s : Session) : Prop where
  nodup : s.live.Nodup
  mem_live : ∀ h, h ∈ s.live ↔ ∃ a, s.alive? h = some a ∧ a.registered = true

theorem consistent_empty : Consistent {} := ⟨List.nodup_nil, by simp [alive?]⟩

theorem Consistent.lt_length {s : Session} (hs : Consistent s) {h : Handle} (hl : h ∈ s.live) :
    h < s.adapters.length := by
  obtain ⟨a, ha, -⟩ := (hs.mem_live h).mp hl
  exact (List.getElem?_eq_some_iff.mp (aliveIn_eq_some.mp ha).1).1

theorem Consistent.change {s s' : Session} {st : Step} (hs : Consistent s)
    (hc : Change s st s') : Consistent s' := by
  cases hc with
  | @made a ha =>
    have halive (h : Handle) : aliveIn (s.adapters ++ [a]) h =
        if h = s.adapters.length then some a else s.alive? h :=
      aliveIn_concat s.adapters (made?_alive ha) h
    have hfresh : s.adapters.length ∉ s.live := fun hl => absurd (hs.lt_length hl) (by simp)
    cases hr : a.registered with
    | true =>
      refine ⟨List.nodup_cons.mpr ⟨hfresh, hs.nodup⟩, fun h => ?_⟩
      simp only [alive?_eq, add, halive, ↓reduceIte, List.mem_cons, hs.mem_live]
      split_ifs with hh <;> simp [hh, hr]
    | false =>
      refine ⟨hs.nodup, fun h => ?_⟩
      simp only [alive?_eq, add, halive, Bool.false_eq_true, ↓reduceIte, hs.mem_live]
      split_ifs with hh
      · subst hh
        simp [hr, aliveIn]
      · rfl
  | @unregistered h hst hlive =>
    refine ⟨hs.nodup.erase h, fun k => ?_⟩
    simp only [unregister, bury, alive?_eq, aliveIn_modify_dead, hs.nodup.mem_erase_iff,
      hs.mem_live]
    split_ifs with hk <;> simp [hk]
  | @dropped h a hst ha hown =>
    refine ⟨hs.nodup, fun k => ?_⟩
    simp only [bury, alive?_eq, aliveIn_modify_dead, hs.mem_live]
    split_ifs with hk
    · subst hk
      rw [alive?_eq] at ha
      simp [ha, hown]
    · rfl
  | retuned hst => exact ⟨hs.nodup, hs.mem_live⟩
  | nothing hmade hlive hown => exact hs

theorem consistent_after (steps : List Step) : Consistent (after steps) := by
  induction steps using List.reverseRecOn with
  | nil => exact consistent_empty
  | append_singleton steps st ih =>
    rw [after_concat]
    exact ih.change (step_change _ st)

/-- The interfaces after one more step, as the step alone tells: destroying ends a registered one,
dropping ends one of its maker. -/
def nextPopulation (as : List Adapter) : Step → List Adapter
  | .create log fatal => as ++ [⟨.sinks log fatal, true, true⟩]
  | .adapter handler => as ++ [⟨handler, false, true⟩]
  | .destroy (.interface h) | .tryDestroy (.interface h) =>
    as.modify h fun a => { a with alive := a.alive && !a.registered }
  | .drop h => as.modify h fun a => { a with alive := a.alive && a.registered }
  | _ => as

theorem modify_congr {α : Type} {l : List α} {i : Nat} {f g : α → α}
    (h : ∀ a, l[i]? = some a → f a = g a) : l.modify i f = l.modify i g := by
  apply List.ext_getElem?
  intro j
  by_cases hj : i = j
  · subst hj
    rw [List.getElem?_modify_eq, List.getElem?_modify_eq]
    cases ha : l[i]? with
    | none => rfl
    | some a => exact congrArg some (h a ha)
  · rw [List.getElem?_modify_ne _ _ hj, List.getElem?_modify_ne _ _ hj]

theorem modify_self {α : Type} {l : List α} {i : Nat} {f : α → α}
    (h : ∀ a, l[i]? = some a → f a = a) : l.modify i f = l := by
  rw [modify_congr (g := id) h, List.modify_id]

theorem nextPopulation_made {as : List Adapter} {st : Step} {a : Adapter}
    (h : made? st = some a) : nextPopulation as st = as ++ [a] := by
  cases st <;> simp only [made?, reduceCtorEq, Option.some.injEq] at h <;> subst h <;> rfl

theorem nextPopulation_destroys {as : List Adapter} {st : Step} {h : Handle}
    (hst : destroys? st = some h) : nextPopulation as st =
      as.modify h fun a => { a with alive := a.alive && !a.registered } := by
  rcases step_of_destroys? hst with rfl | rfl <;> rfl

theorem nextPopulation_idle {as : List Adapter} {st : Step} (hmade : made? st = none)
    (hdestroys : destroys? st = none) (hdrop : ∀ h, st ≠ .drop h) : nextPopulation as st = as := by
  unfold nextPopulation
  split <;> simp_all [made?, destroys?]

/-- While the registry is consistent, what a step does to the interfaces follows from the step
alone. -/
theorem Consistent.nextPopulation_eq {s s' : Session} {st : Step} (hs : Consistent s)
    (hc : Change s st s') : nextPopulation s.adapters st = s'.adapters := by
  cases hc with
  | made ha => exact nextPopulation_made ha
  | @unregistered h hst hlive =>
    obtain ⟨a, ha, hreg⟩ := (hs.mem_live h).mp hlive
    rw [nextPopulation_destroys hst]
    apply modify_congr
    intro b hb
    rw [(aliveIn_eq_some.mp ha).1, Option.some.injEq] at hb
    simp [← hb, hreg]
  | @dropped h a hst ha hown =>
    subst hst
    apply modify_congr
    intro b hb
    rw [(aliveIn_eq_some.mp ha).1, Option.some.injEq] at hb
    simp [← hb, hown]
  | retuned hst => rw [hst]; rfl
  | nothing hmade hlive hown =>
    cases hd : destroys? st with
    | some h =>
      rw [nextPopulation_destroys hd]
      apply modify_self
      intro a ha
      have hnot : ¬ (a.alive = true ∧ a.registered = true) := fun hboth =>
        hlive h hd ((hs.mem_live h).mpr ⟨a, aliveIn_eq_some.mpr ⟨ha, hboth.1⟩, hboth.2⟩)
      have hkept : (a.alive && !a.registered) = a.alive := by
        cases hal : a.alive <;> simp_all
      rw [hkept]
    | none =>
      by_cases hdrop : ∀ h, st ≠ .drop h
      · exact nextPopulation_idle hmade hd hdrop
      · simp only [not_forall, not_not] at hdrop
        obtain ⟨h, rfl⟩ := hdrop
        apply modify_self
        intro a ha
        have hkept : (a.alive && a.registered) = a.alive := by
          cases hal : a.alive with
          | false => rfl
          | true => exact hown h a rfl (aliveIn_eq_some.mpr ⟨ha, hal⟩)
        rw [hkept]

/-- The interfaces there are after some steps, as the steps alone tell. -/
def population (past : List Step) : List Adapter := past.foldl nextPopulation []

theorem adapters_after (past : List Step) : (after past).adapters = population past := by
  induction past using List.reverseRecOn with
  | nil => rfl
  | append_singleton past st ih =>
    rw [after_concat, ← (consistent_after past).nextPopulation_eq (step_change _ st), ih,
      population, population, List.foldl_append]
    rfl

end Session

end ConsoleRelay
