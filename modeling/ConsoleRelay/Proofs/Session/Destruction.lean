import ConsoleRelay.Proofs.Session.Verbosity

/-!
The two ways to destroy an interface.

Both entry points ask the registry the same question. They differ in how they tell a refusal: one
returns it, the other puts it on record and returns a status. No later step can tell which of them
was used.
-/
namespace ConsoleRelay

/-- The same request through the other entry point. -/
def Step.crossed : Step → Step
  | .destroy p => .tryDestroy p
  | .tryDestroy p => .destroy p
  | st => st

namespace Session

/-- A session with the other entry point at the chosen steps. -/
def crossing (chosen : Nat → Bool) (steps : List Step) : List Step :=
  steps.mapIdx fun i st => if chosen i then st.crossed else st

/-- The answers of the two entry points to one request. -/
inductive Corresponds (p : Pointer) : Status → Option Failure → Prop where
  | destroyed : Corresponds p .ok none
  | null (hp : p = .null) : Corresponds p .nullHandle (some .nullHandle)
  | unknown (hp : p ≠ .null) : Corresponds p .unknownHandle (some (.unknownHandle p))

/-- What the entry point for C puts on record: a refusal, by its text. -/
def refusal : Option Failure → List Event
  | none => []
  | some e => [.log ⟨.error, "bgfx_interop::exports",
      "destroy_bgfx_interface: ".toList ++ e.message⟩]

theorem filter_refusal (v : Verbosity) (failure : Option Failure) :
    (refusal failure).filter (·.isSeen v) = if v.admits .error then refusal failure else [] := by
  cases failure with
  | none => simp [refusal]
  | some e => simp [refusal, List.filter_cons, Event.isSeen]

theorem corresponds_of_refused (p : Pointer) :
    Corresponds p (if p = .null then Failure.nullHandle else .unknownHandle p).status
      (some (if p = .null then .nullHandle else .unknownHandle p)) := by
  by_cases hp : p = .null
  · rw [if_pos hp]
    exact .null hp
  · rw [if_neg hp]
    exact .unknown hp

/-- One request through either entry point, in any session. -/
theorem destroy_beside_tryDestroy (s : Session) (p : Pointer) :
    ∃ s' status failure events, Corresponds p status failure ∧
      s.step (.tryDestroy p) = (s', ⟨.destroyed failure, events⟩) ∧
      s.step (.destroy p) = (s', ⟨.status status, events ++ refusal failure⟩) := by
  by_cases hp : ∀ h, p = .interface h → h ∉ s.live
  · have hrelease := release_refused hp
    refine ⟨s, _, _, [], corresponds_of_refused p, ?_, ?_⟩
    · rw [step, tryDestroy, hrelease]
    · rw [step, destroy, hrelease]
      rfl
  · simp only [not_forall, not_not] at hp
    obtain ⟨h, rfl, hlive⟩ := hp
    have hrelease := release_live hlive
    refine ⟨s.unregister h, .ok, none, [Adapter.released h], .destroyed, ?_, ?_⟩
    · rw [step, tryDestroy, hrelease]
    · rw [step, destroy, hrelease]
      rfl

/-- What a step shows, and what another one shows in its place: the same, or the same request
answered by the one entry point and by the other. -/
inductive Agrees (v : Verbosity) : Step → Step → Outcome → Outcome → Prop where
  | same (st : Step) (o : Outcome) : Agrees v st st o o
  | crossed {p : Pointer} {status : Status} {failure : Option Failure} (events : List Event)
      (h : Corresponds p status failure) :
      Agrees v (.destroy p) (.tryDestroy p)
        ⟨.status status, events ++ if v.admits .error then refusal failure else []⟩
        ⟨.destroyed failure, events⟩
  | symm {st st' : Step} {o o' : Outcome} (h : Agrees v st st' o o') : Agrees v st' st o' o

theorem agrees_destroy (s : Session) (v : Verbosity) (p : Pointer) :
    Agrees v (.destroy p) (.tryDestroy p) (seen v (s.step (.destroy p)).2)
      (seen v (s.step (.tryDestroy p)).2) := by
  obtain ⟨s', status, failure, events, hanswers, htry, hdestroy⟩ := destroy_beside_tryDestroy s p
  rw [htry, hdestroy, seen, seen, List.filter_append, filter_refusal]
  exact .crossed _ hanswers

theorem agrees_crossed (s : Session) (v : Verbosity) (st : Step) :
    Agrees v st st.crossed (seen v (s.step st).2) (seen v (s.step st.crossed).2) := by
  cases st with
  | destroy p => exact agrees_destroy s v p
  | tryDestroy p => exact .symm (agrees_destroy s v p)
  | _ => exact .same _ _

theorem state_crossed (s : Session) (st : Step) : (s.step st.crossed).1 = (s.step st).1 := by
  have hstate (p : Pointer) : (s.step (.tryDestroy p)).1 = (s.step (.destroy p)).1 := by
    obtain ⟨s', status, failure, events, -, htry, hdestroy⟩ := destroy_beside_tryDestroy s p
    rw [htry, hdestroy]
  cases st with
  | destroy p => exact hstate p
  | tryDestroy p => exact (hstate p).symm
  | _ => rfl

theorem after_crossing (chosen : Nat → Bool) (steps : List Step) :
    after (crossing chosen steps) = after steps := by
  induction steps using List.reverseRecOn with
  | nil => rfl
  | append_singleton steps st ih =>
    rw [crossing, List.mapIdx_concat, after_concat, after_concat, ← crossing, ih]
    split
    · exact state_crossed (after steps) st
    · rfl

theorem take_crossing (chosen : Nat → Bool) (steps : List Step) (n : Nat) :
    (crossing chosen steps).take n = crossing chosen (steps.take n) := by
  apply List.ext_getElem?
  intro i
  simp only [crossing, List.getElem?_take, List.getElem?_mapIdx]
  split <;> rfl

/-- The entry points for destroying are interchangeable, at any of the steps of a session. The
session is the same at every moment. Each step shows the same; one that goes through the other entry
point shows the same answer in the other form, and a refusal is put on record by the entry point for
C alone, last of all and if errors are shown. -/
theorem destroy_entries_agree (steps : List Step) (chosen : Nat → Bool) :
    (∀ n, after ((crossing chosen steps).take n) = after (steps.take n)) ∧
    ∀ i st, steps[i]? = some st → ∃ o o',
      (outcomes steps)[i]? = some o ∧ (outcomes (crossing chosen steps))[i]? = some o' ∧
      Agrees (inForce (steps.take i)) st (if chosen i then st.crossed else st) o o' := by
  have hstate (n : Nat) : after ((crossing chosen steps).take n) = after (steps.take n) := by
    rw [take_crossing, after_crossing]
  refine ⟨hstate, fun i st hst => ?_⟩
  have hcrossed : (crossing chosen steps)[i]? = some (if chosen i then st.crossed else st) := by
    rw [crossing, List.getElem?_mapIdx, hst]
    rfl
  rw [getElem?_outcomes, getElem?_outcomes, hst, hcrossed, hstate, verbosity_after]
  refine ⟨_, _, rfl, rfl, ?_⟩
  split
  · exact agrees_crossed (after (steps.take i)) _ st
  · exact .same st _

/-- The second of two requests to destroy one handle. -/
theorem destroy_entries_agree_stale :
    Agrees .all (.tryDestroy (.interface 0)) (.destroy (.interface 0))
      ⟨.destroyed (some (.unknownHandle (.interface 0))), []⟩
      ⟨.status .unknownHandle, [.log ⟨.error, "bgfx_interop::exports",
        ("destroy_bgfx_interface: Callback interface handle <h0> is not live " ++
          "(never created or already destroyed)").toList⟩]⟩ := by
  obtain ⟨-, hagree⟩ := destroy_entries_agree
    [.create none none, .destroy (.interface 0), .tryDestroy (.interface 0)] (· == 2)
  obtain ⟨o, o', ho, ho', hstale⟩ := hagree 2 _ rfl
  have hshown : o = ⟨.destroyed (some (.unknownHandle (.interface 0))), []⟩ :=
    Option.some.inj (ho.symm.trans (by decide +kernel))
  have hcrossed : o' = ⟨.status .unknownHandle, [.log ⟨.error, "bgfx_interop::exports",
      ("destroy_bgfx_interface: Callback interface handle <h0> is not live " ++
        "(never created or already destroyed)").toList⟩]⟩ :=
    Option.some.inj (ho'.symm.trans (by decide +kernel))
  rwa [hshown, hcrossed] at hstale

end Session

end ConsoleRelay
