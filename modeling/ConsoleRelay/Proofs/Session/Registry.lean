import ConsoleRelay.Proofs.Session.Run
import Mathlib.Data.List.Nodup

/-!
The registry of live handles over whole runs.

The ledger of a run balances: the live handles and those destroyed are together the handles that
were created, each once. Hence a destroying step succeeds exactly on the handles created and not
yet destroyed, whatever else happened in between. Every release leaves one record, and no
interface has two.
-/
namespace ConsoleRelay

open scoped List

namespace Session

/-- The handle that a creating step returned. -/
def created? : Step × Outcome → Option Handle
  | (.create _ _, ⟨.handle h, _⟩) => some h
  | _ => none

/-- The handle that a destroying step succeeded on. -/
def destroyed? (x : Step × Outcome) : Option Handle :=
  if x.2.result.status? = some .ok then destroys? x.1 else none

def created (past : List (Step × Outcome)) : List Handle := past.filterMap created?

def destroyed (past : List (Step × Outcome)) : List Handle := past.filterMap destroyed?

/-- A pointer to a handle that was created and that no destroying step has succeeded on. -/
def Outstanding (past : List (Step × Outcome)) : Pointer → Prop
  | .interface h => h ∈ created past ∧ h ∉ destroyed past
  | _ => False

instance (past : List (Step × Outcome)) : DecidablePred (Outstanding past)
  | .interface h => inferInstanceAs (Decidable (h ∈ created past ∧ h ∉ destroyed past))
  | .null | .elsewhere _ => .isFalse id

def creates : Step → Bool
  | .create _ _ => true
  | _ => false

theorem created?_step (s : Session) (v : Verbosity) (st : Step) :
    created? (st, seen v (s.step st).2) =
      (made? st).bind fun a => if a.registered then some s.adapters.length else none := by
  cases st <;> rfl

/-- A step hands out a registered handle if and only if it is a creating one. -/
theorem length_created?_step (s : Session) (v : Verbosity) (st : Step) :
    (created? (st, seen v (s.step st).2)).toList.length = if creates st then 1 else 0 := by
  rw [created?_step]
  cases st <;> rfl

theorem destroyed?_step (s : Session) (v : Verbosity) (st : Step) :
    destroyed? (st, seen v (s.step st).2) = (destroys? st).filter (· ∈ s.live) := by
  change (if (s.step st).2.result.status? = some .ok then destroys? st else none) = _
  cases hd : destroys? st with
  | none => simp
  | some h =>
    have hst := step_of_destroys? hd
    by_cases hl : h ∈ s.live
    · simp [(destroying_live hst hl).2.2, Option.filter, hl]
    · have hrefused := destroying_refused hst (s := s) (by simpa using hl)
      simp [hrefused.2.2, Option.filter, hl]

/-- The live handles and those destroyed are the handles created, each once. -/
structure Ledger (past : List (Step × Outcome)) (s : Session) : Prop where
  balance : (s.live ++ destroyed past).Perm (created past)
  nodup : (created past).Nodup
  bounded : ∀ h ∈ created past, h < s.adapters.length

theorem Ledger.fresh {past : List (Step × Outcome)} {s : Session} (hl : Ledger past s) :
    s.adapters.length ∉ created past := fun hmem =>
  absurd (hl.bounded _ hmem) (Nat.lt_irrefl _)

theorem filterMap_concat {α β : Type} (f : α → Option β) (l : List α) (x : α) :
    (l ++ [x]).filterMap f = l.filterMap f ++ (f x).toList := by
  rw [List.filterMap_append]
  cases h : f x <;> simp [h]

theorem created_concat (past : List (Step × Outcome)) (x : Step × Outcome) :
    created (past ++ [x]) = created past ++ (created? x).toList :=
  filterMap_concat created? past x

theorem destroyed_concat (past : List (Step × Outcome)) (x : Step × Outcome) :
    destroyed (past ++ [x]) = destroyed past ++ (destroyed? x).toList :=
  filterMap_concat destroyed? past x

/-- As many handles are handed out as there are creating steps. -/
theorem length_created_history (steps : List Step) :
    (created (history steps)).length = steps.countP creates := by
  induction steps using List.reverseRecOn with
  | nil => rfl
  | append_singleton steps st ih =>
    rw [history_concat, created_concat, List.length_append, ih, length_created?_step,
      List.countP_append, List.countP_singleton]

/-- A step that neither creates nor destroys keeps the ledger. -/
theorem Ledger.idle {past : List (Step × Outcome)} {s s' : Session} {x : Step × Outcome}
    (hl : Ledger past s) (hcreated : created? x = none) (hdestroyed : destroyed? x = none)
    (hlive : s'.live = s.live) (hlen : s.adapters.length ≤ s'.adapters.length) :
    Ledger (past ++ [x]) s' := by
  have hcs : created (past ++ [x]) = created past := by
    rw [created_concat, hcreated, Option.toList_none, List.append_nil]
  have hds : destroyed (past ++ [x]) = destroyed past := by
    rw [destroyed_concat, hdestroyed, Option.toList_none, List.append_nil]
  refine ⟨?_, ?_, ?_⟩
  · rw [hcs, hds, hlive]
    exact hl.balance
  · rw [hcs]
    exact hl.nodup
  · intro h hh
    rw [hcs] at hh
    exact Nat.lt_of_lt_of_le (hl.bounded h hh) hlen

theorem Ledger.create {past : List (Step × Outcome)} {s : Session} {x : Step × Outcome}
    {a : Adapter} (hl : Ledger past s) (hcreated : created? x = some s.adapters.length)
    (hdestroyed : destroyed? x = none) :
    Ledger (past ++ [x]) { s.add a with live := s.adapters.length :: s.live } := by
  have hcs : created (past ++ [x]) = created past ++ [s.adapters.length] := by
    rw [created_concat, hcreated, Option.toList_some]
  have hds : destroyed (past ++ [x]) = destroyed past := by
    rw [destroyed_concat, hdestroyed, Option.toList_none, List.append_nil]
  refine ⟨?_, ?_, ?_⟩
  · rw [hcs, hds]
    exact (hl.balance.cons _).trans (List.perm_append_singleton _ _).symm
  · rw [hcs]
    exact List.Nodup.append hl.nodup (List.nodup_singleton _) (by simpa using hl.fresh)
  · intro h hh
    rw [hcs, List.mem_append, List.mem_singleton] at hh
    rw [add, List.length_append, List.length_singleton]
    rcases hh with hh | rfl
    · exact Nat.lt_succ_of_lt (hl.bounded h hh)
    · exact Nat.lt_succ_self _

theorem Ledger.destroy {past : List (Step × Outcome)} {s : Session} {x : Step × Outcome}
    {h : Handle} (hl : Ledger past s) (hcreated : created? x = none)
    (hdestroyed : destroyed? x = some h) (hlive : h ∈ s.live) :
    Ledger (past ++ [x]) (s.unregister h) := by
  have hcs : created (past ++ [x]) = created past := by
    rw [created_concat, hcreated, Option.toList_none, List.append_nil]
  have hds : destroyed (past ++ [x]) = destroyed past ++ [h] := by
    rw [destroyed_concat, hdestroyed, Option.toList_some]
  refine ⟨?_, ?_, ?_⟩
  · rw [hcs, hds]
    calc s.live.erase h ++ (destroyed past ++ [h])
        = (s.live.erase h ++ destroyed past) ++ [h] := (List.append_assoc _ _ _).symm
      _ ~ (h :: s.live.erase h) ++ destroyed past := List.perm_append_singleton _ _
      _ ~ s.live ++ destroyed past := (List.perm_cons_erase hlive).symm.append_right _
      _ ~ created past := hl.balance
  · rw [hcs]
    exact hl.nodup
  · intro k hk
    rw [hcs] at hk
    simpa [unregister, bury] using hl.bounded k hk

/-- What a step does to the registry is what its outcome tells. -/
theorem Ledger.change {past : List (Step × Outcome)} {s s' : Session} {st : Step} {o : Outcome}
    (hl : Ledger past s) (hc : Change s st s')
    (hcreated : created? (st, o) =
      (made? st).bind fun a => if a.registered then some s.adapters.length else none)
    (hdestroyed : destroyed? (st, o) = (destroys? st).filter (· ∈ s.live)) :
    Ledger (past ++ [(st, o)]) s' := by
  cases hc with
  | @made a ha =>
    rw [ha, Option.bind_some] at hcreated
    rw [destroys?_made ha, Option.filter_none] at hdestroyed
    cases hr : a.registered with
    | true => exact hl.create (by simpa [hr] using hcreated) hdestroyed
    | false => exact hl.idle (by simpa [hr] using hcreated) hdestroyed rfl (by simp [add])
  | @unregistered h hst hlive =>
    rw [made?_destroys hst, Option.bind_none] at hcreated
    rw [hst, Option.filter_some, decide_eq_true hlive, if_pos rfl] at hdestroyed
    exact hl.destroy hcreated hdestroyed hlive
  | @dropped h a hst ha hown =>
    subst hst
    exact hl.idle hcreated hdestroyed rfl (by simp [bury])
  | retuned hst =>
    subst hst
    exact hl.idle hcreated hdestroyed rfl (Nat.le_refl _)
  | nothing hmade hlive hown =>
    rw [hmade, Option.bind_none] at hcreated
    refine hl.idle hcreated (hdestroyed.trans ?_) rfl (Nat.le_refl _)
    simpa [Option.filter_eq_none_iff] using hlive

theorem ledger_after (steps : List Step) : Ledger (history steps) (after steps) := by
  induction steps using List.reverseRecOn with
  | nil => exact ⟨.refl _, List.nodup_nil, by simp [created]⟩
  | append_singleton steps st ih =>
    rw [after_concat, history_concat]
    exact ih.change (step_change _ st) (created?_step _ _ st) (destroyed?_step _ _ st)

theorem Ledger.mem_live {past : List (Step × Outcome)} {s : Session} (hl : Ledger past s)
    (h : Handle) : h ∈ s.live ↔ h ∈ created past ∧ h ∉ destroyed past := by
  have hmem : h ∈ s.live ∨ h ∈ destroyed past ↔ h ∈ created past := by
    rw [← List.mem_append]
    exact hl.balance.mem_iff
  have hsplit := List.nodup_append.mp (hl.balance.nodup_iff.mpr hl.nodup)
  constructor
  · intro hlive
    exact ⟨hmem.mp (.inl hlive), fun hd => hsplit.2.2 h hlive h hd rfl⟩
  · rintro ⟨hc, hd⟩
    exact (hmem.mpr hc).resolve_right hd

theorem Ledger.length_live {past : List (Step × Outcome)} {s : Session} (hl : Ledger past s) :
    s.live.length + (destroyed past).length = (created past).length := by
  rw [← List.length_append]
  exact hl.balance.length_eq

theorem Ledger.outstanding_iff {past : List (Step × Outcome)} {s : Session} (hl : Ledger past s)
    (p : Pointer) : Outstanding past p ↔ ∃ h, p = .interface h ∧ h ∈ s.live := by
  cases p <;> simp [Outstanding, hl.mem_live]

theorem Ledger.not_live {past : List (Step × Outcome)} {s : Session} (hl : Ledger past s)
    {p : Pointer} (hp : ¬ Outstanding past p) : ∀ h, p = .interface h → h ∉ s.live :=
  fun h hph hlive => hp ((hl.outstanding_iff p).mpr ⟨h, hph, hlive⟩)

/-- Whether destroying succeeds can be told from the past alone. -/
theorem Ledger.status {past : List (Step × Outcome)} {s : Session} (hl : Ledger past s)
    {st : Step} {p : Pointer} (hst : st = .destroy p ∨ st = .tryDestroy p) :
    (s.step st).2.result.status? = some (if p = .null then .nullHandle
      else if Outstanding past p then .ok else .unknownHandle) := by
  by_cases hp : Outstanding past p
  · obtain ⟨h, rfl, hlive⟩ := (hl.outstanding_iff p).mp hp
    simp [(destroying_live hst hlive).2.2, hp]
  · rw [(destroying_refused hst (hl.not_live hp)).2.2, if_neg hp]

/-- Whether an event is anything but the record of a release. -/
def Quiet : Event → Prop
  | .log r => r.severity ≠ .debug ∨ r.target ≠ Adapter.target
  | _ => True

theorem quiet_log (h : Handle) (text : Bytes) (handler : Handler) :
    ∀ e ∈ (handler.log h text).events, Quiet e := by
  cases handler with
  | sinks log fatal => cases log <;> simp [Handler.log, Quiet]
  | closures onLog onFatal => cases onLog <;> simp [Handler.log, Quiet]
  | forwarder => simp [Handler.log, Quiet, Handler.forwardTarget, Adapter.target]
  | observer reaction => simp [Handler.log, Quiet]

theorem quiet_fatal (h : Handle) (report : FatalReport) (handler : Handler) :
    ∀ e ∈ (handler.fatal h report).events, Quiet e := by
  cases handler with
  | sinks log fatal => cases fatal <;> simp [Handler.fatal, Quiet]
  | closures onLog onFatal => cases onFatal <;> simp [Handler.fatal, Quiet]
  | forwarder => simp [Handler.fatal, Quiet]
  | observer reaction => simp [Handler.fatal, Quiet]

theorem quiet_guarded {slot : String} {reply : Reply} (hr : ∀ e ∈ reply.events, Quiet e) :
    ∀ e ∈ Adapter.guarded slot reply, Quiet e := by
  intro e he
  rcases List.mem_append.mp he with he | he
  · exact hr e he
  · split at he <;> simp_all [Quiet]

theorem quiet_trace (h : Handle) (handler : Handler) (file : Option Bytes) (line : UInt16)
    (format : Bytes) (args : List Format.Argument) :
    ∀ e ∈ Adapter.trace h handler file line format args, Quiet e := by
  intro e he
  unfold Adapter.trace at he
  split at he
  next m _ =>
    rcases List.mem_append.mp he with he | he
    · cases hm : m.truncated <;> simp_all [Quiet]
    · exact quiet_guarded (quiet_log h _ handler) e he
  next => simp_all [Quiet]

theorem quiet_traceSlot (h : Handle) (handler : Handler) (receiver : Receiver)
    (file : Option Bytes) (line : UInt16) (format : Option Bytes)
    (args : List Format.Argument) :
    ∀ e ∈ Adapter.traceSlot h handler receiver file line format args, Quiet e := by
  intro e he
  unfold Adapter.traceSlot at he
  split at he
  · cases format with
    | none => simp at he
    | some f => exact quiet_trace h handler file line f args e he
  · simp at he

theorem quiet_answer (h : Handle) (a : Adapter) (receiver : Receiver) (c : Call) :
    ∀ e ∈ (answer h a receiver c).events, Quiet e := by
  intro e he
  cases c with
  | trace file line format args =>
    rw [answer, traceEntry_eq_traceSlot] at he
    exact quiet_traceSlot _ _ _ _ _ _ _ e he
  | traceArgs file line format args => exact quiet_traceSlot _ _ _ _ _ _ _ e he
  | fatal report =>
    simp only [answer, Adapter.fatalSlot] at he
    split at he
    · exact quiet_guarded (quiet_fatal h report a.handler) e he
    · simp at he
  | _ => simp [answer] at he

theorem released_injective {h k : Handle} (heq : Adapter.released h = Adapter.released k) :
    h = k := by
  simp only [Adapter.released, Pointer.label, Event.log.injEq, Record.mk.injEq, true_and,
    List.append_cancel_left_eq, List.append_cancel_right_eq] at heq
  exact decimal_injective heq

theorem count_quiet {events : List Event} (hq : ∀ e ∈ events, Quiet e) (h : Handle) :
    events.count (Adapter.released h) = 0 := by
  apply List.count_eq_zero.mpr
  intro hmem
  simpa [Quiet, Adapter.released] using hq _ hmem

theorem count_released (h k : Handle) :
    [Adapter.released k].count (Adapter.released h) = if h = k then 1 else 0 := by
  by_cases hk : h = k
  · simp [hk]
  · rw [if_neg hk]
    apply List.count_eq_zero.mpr
    intro hmem
    exact hk (released_injective (List.mem_singleton.mp hmem))

/-- How often an interface has gone: once if it was made and does not exist any more. -/
def departures (as : List Adapter) (h : Handle) : Nat :=
  if as[h]?.any (!·.alive) then 1 else 0

theorem departures_le_one (as : List Adapter) (h : Handle) : departures as h ≤ 1 := by
  unfold departures
  split <;> omega

theorem departures_concat (as : List Adapter) {a : Adapter} (ha : a.alive = true) (h : Handle) :
    departures (as ++ [a]) h = departures as h := by
  rcases Nat.lt_trichotomy h as.length with hlt | rfl | hgt
  · rw [departures, departures, List.getElem?_append_left hlt]
  · simp [departures, ha]
  · rw [departures, departures, List.getElem?_eq_none (by simp; omega),
      List.getElem?_eq_none (by omega)]

/-- An interface that goes has not gone before. -/
theorem departures_bury {s : Session} {k : Handle} {a : Adapter} (ha : s.alive? k = some a)
    (h : Handle) : departures (s.bury k).adapters h =
      (if h = k then 1 else 0) + departures s.adapters h := by
  obtain ⟨hget, halive⟩ := aliveIn_eq_some.mp ha
  by_cases hk : h = k
  · subst hk
    simp [departures, bury, hget, halive]
  · rw [if_neg hk, Nat.zero_add, departures, departures, bury,
      List.getElem?_modify_ne _ _ (Ne.symm hk)]

theorem quiet_refused {events : List Event}
    (hevents : ∀ e ∈ events, ∃ text, e = .log ⟨.error, registryTarget, text⟩) :
    ∀ e ∈ events, Quiet e := by
  intro e he
  obtain ⟨text, rfl⟩ := hevents e he
  simp [Quiet]

/-- Asking an interface releases nothing if none of the answers does. -/
theorem quiet_ask {s : Session} {h : Handle} {f : Adapter → Outcome}
    (hf : ∀ a, ∀ e ∈ (f a).events, Quiet e) :
    ∀ e ∈ (s.ask h f).2.events, Quiet e := by
  unfold ask
  split
  next a _ => exact hf a
  next => simp

theorem releases_destroying {s : Session} (hs : Consistent s) {st : Step} {p : Pointer}
    (hst : st = .destroy p ∨ st = .tryDestroy p) (h : Handle) :
    departures (s.step st).1.adapters h =
      (s.step st).2.events.count (Adapter.released h) + departures s.adapters h := by
  by_cases hp : ∀ k, p = .interface k → k ∉ s.live
  · obtain ⟨hsame, hevents, -⟩ := destroying_refused hst hp
    rw [hsame, count_quiet (quiet_refused hevents), Nat.zero_add]
  · simp only [not_forall, not_not] at hp
    obtain ⟨k, rfl, hl⟩ := hp
    obtain ⟨hnext, hevents, -⟩ := destroying_live hst hl
    obtain ⟨a, ha, -⟩ := (hs.mem_live k).mp hl
    rw [hnext, hevents, count_released]
    exact departures_bury ha h

/-- Each step records as many releases of an interface as it lets it go. -/
theorem releases_step {s : Session} (hs : Consistent s) (st : Step) (h : Handle) :
    departures (s.step st).1.adapters h =
      (s.step st).2.events.count (Adapter.released h) + departures s.adapters h := by
  have hask {k : Handle} {f : Adapter → Outcome} (hf : ∀ a, ∀ e ∈ (f a).events, Quiet e) :
      departures (s.ask k f).1.adapters h =
        (s.ask k f).2.events.count (Adapter.released h) + departures s.adapters h := by
    rw [ask_state, count_quiet (quiet_ask hf), Nat.zero_add]
  cases st with
  | create log fatal =>
    have hq : ∀ e ∈ (s.create log fatal).2.events, Quiet e := by
      simp [create, Quiet, registryTarget, Adapter.target]
    change departures (s.create log fatal).1.adapters h = (s.create log fatal).2.events.count _ + _
    rw [count_quiet hq, Nat.zero_add]
    exact departures_concat _ rfl h
  | adapter handler => exact (departures_concat _ rfl h).trans (Nat.zero_add _).symm
  | destroy p => exact releases_destroying hs (.inl rfl) h
  | tryDestroy p => exact releases_destroying hs (.inr rfl) h
  | drop k =>
    change departures (s.drop k).1.adapters h = (s.drop k).2.events.count _ + _
    by_cases hk : ∀ a, s.alive? k = some a → a.registered = true
    · rw [drop_refused hk, List.count_nil, Nat.zero_add]
    · simp only [not_forall, Bool.not_eq_true] at hk
      obtain ⟨a, ha, hown⟩ := hk
      rw [drop_own ha hown, count_released]
      exact departures_bury ha h
  | liveCount => exact (Nat.zero_add _).symm
  | setVerbosity v => exact (Nat.zero_add _).symm
  | roundTrip k => exact hask (by simp)
  | describe k => exact hask (by simp)
  | directLog k text => exact hask fun a => quiet_log k text a.handler
  | call k receiver c => exact hask fun a => quiet_answer k a receiver c

/-- Over a run, an interface is released once if it has gone and never before. -/
theorem releases_after (steps : List Step) (h : Handle) :
    (caused {} steps).count (Adapter.released h) = departures (after steps).adapters h := by
  induction steps using List.reverseRecOn with
  | nil => rfl
  | append_singleton steps st ih =>
    rw [caused_concat, List.count_append, ih, after_concat,
      releases_step (consistent_after steps) st h, Nat.add_comm]
    rfl

/-- A step from a session lets one live interface go and leaves every other as it was. -/
structure Releases (s : Session) (h : Handle) (next : Session × Outcome) : Prop where
  existed : (s.alive? h).isSome
  gone : next.1.alive? h = none
  others : ∀ k, k ≠ h → next.1.adapters[k]? = s.adapters[k]?
  registry : ∀ k, k ∈ next.1.live ↔ k ∈ s.live ∧ k ≠ h
  recorded : next.2.events = [Adapter.released h]

theorem releases_of_live {s : Session} (hs : Consistent s) {st : Step} {h : Handle}
    (hst : st = .destroy (.interface h) ∨ st = .tryDestroy (.interface h)) (hl : h ∈ s.live) :
    Releases s h (s.step st) := by
  obtain ⟨hnext, hevents, -⟩ := destroying_live hst hl
  obtain ⟨a, ha, -⟩ := (hs.mem_live h).mp hl
  refine ⟨by simp [ha], ?_, fun k hk => ?_, fun k => ?_, hevents⟩
  · rw [hnext, alive?_eq, unregister, bury, aliveIn_modify_dead, if_pos rfl]
  · rw [hnext, unregister, bury, List.getElem?_modify_ne _ _ (Ne.symm hk)]
  · rw [hnext, unregister, hs.nodup.mem_erase_iff, and_comm]

/-- A step from a session answers a handle that nothing had before. The interface under it exists
and is registered, and every other is as it was. -/
structure Issues (s : Session) (h : Handle) (next : Session × Outcome) : Prop where
  answered : next.2.result = .handle h
  fresh : s.adapters[h]? = none
  existing : (next.1.alive? h).isSome
  others : ∀ k, k ≠ h → next.1.adapters[k]? = s.adapters[k]?
  registry : ∀ k, k ∈ next.1.live ↔ k ∈ s.live ∨ k = h

theorem issues_create (s : Session) (log fatal : Option SinkId) :
    Issues s s.adapters.length (s.step (.create log fatal)) where
  answered := rfl
  fresh := List.getElem?_eq_none (Nat.le_refl _)
  existing := by
    change (aliveIn (s.adapters ++ [⟨.sinks log fatal, true, true⟩]) _).isSome
    rw [aliveIn_concat _ rfl, if_pos rfl, Option.isSome_some]
  others k hk := by
    change (s.adapters ++ [_])[k]? = s.adapters[k]?
    rcases Nat.lt_or_gt_of_ne hk with hlt | hgt
    · exact List.getElem?_append_left hlt
    · rw [List.getElem?_eq_none (by simp; omega), List.getElem?_eq_none (by omega)]
  registry k := List.mem_cons.trans Or.comm

/-- What the registry promises, whatever the steps so far: destroying reports null for null,
success for a handle created and not destroyed since, and unknown for all else. Success lets
exactly that interface go and refusal changes nothing; creating hands out a handle that was never
there. The live count is the number of creating steps less that of successful destroying ones, and
no interface is released twice. -/
theorem registry_over_runs (steps : List Step) :
    (∀ p, ∀ st ∈ [Step.destroy p, Step.tryDestroy p],
      (((after steps).step st).2.result.status? = some .nullHandle ↔ p = .null) ∧
      (((after steps).step st).2.result.status? = some .ok ↔ Outstanding (history steps) p) ∧
      (((after steps).step st).2.result.status? = some .unknownHandle ↔
        p ≠ .null ∧ ¬ Outstanding (history steps) p) ∧
      (∀ h, p = .interface h → Outstanding (history steps) p →
        Releases (after steps) h ((after steps).step st)) ∧
      (¬ Outstanding (history steps) p → ((after steps).step st).1 = after steps ∧
        ∀ h, Adapter.released h ∉ ((after steps).step st).2.events)) ∧
    (∀ log fatal, ∃ h, h ∉ created (history steps) ∧
      Issues (after steps) h ((after steps).step (.create log fatal))) ∧
    (created (history steps)).length = steps.countP creates ∧
    ((after steps).step .liveCount).2.result =
      .count ((created (history steps)).length - (destroyed (history steps)).length) ∧
    (destroyed (history steps)).length ≤ (created (history steps)).length ∧
    ∀ h, (caused {} steps).count (Adapter.released h) ≤ 1 := by
  have hledger := ledger_after steps
  have hlength := hledger.length_live
  refine ⟨?_, fun log fatal => ⟨_, hledger.fresh, issues_create _ log fatal⟩,
    length_created_history steps, ?_, by omega,
    fun h => releases_after steps h ▸ departures_le_one _ h⟩
  · intro p st hmem
    have hst : st = .destroy p ∨ st = .tryDestroy p := by simpa using hmem
    have hnull : p = .null → ¬ Outstanding (history steps) p := by
      rintro rfl
      exact id
    rw [hledger.status hst]
    refine ⟨?_, ?_, ?_, ?_, fun hp => ?_⟩
    · split_ifs <;> simp_all
    · split_ifs <;> simp_all
    · split_ifs <;> simp_all
    · rintro h rfl ho
      exact releases_of_live (consistent_after steps) hst ((hledger.mem_live h).mpr ho)
    · obtain ⟨hsame, hevents, -⟩ := destroying_refused hst (hledger.not_live hp)
      exact ⟨hsame, fun h => List.count_eq_zero.mp (count_quiet (quiet_refused hevents) h)⟩
  · change Result.count (after steps).live.length = _
    rw [← hlength, Nat.add_sub_cancel]

example : (outcomes [.create none none, .adapter .forwarder, .tryDestroy (.interface 1),
    .destroy (.interface 0), .tryDestroy (.interface 0), .destroy .null]).map (·.result.status?) =
    [none, none, some .unknownHandle, some .ok, some .unknownHandle, some .nullHandle] := by
  decide +kernel

end Session

end ConsoleRelay
