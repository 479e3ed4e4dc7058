import ConsoleRelay.Proofs.Session.Run

/-!
Steps that leave nothing behind.

Calls of the dispatch table, questions and refused destroying leave a session as it was, whatever
they showed and whether or not the handler crashed. Hence they can be left out of a run, any of
them and any number of them: every step that stays has the outcome it had.
-/
namespace ConsoleRelay.Session

/-- The entries of a list at the positions that are kept. -/
def kept {α : Type} (keep : Nat → Bool) (l : List α) : List α :=
  (l.zipIdx.filter fun x => keep x.2).map Prod.fst

@[simp] theorem kept_nil {α : Type} (keep : Nat → Bool) : kept keep ([] : List α) = [] := rfl

theorem kept_concat {α : Type} (keep : Nat → Bool) (l : List α) (x : α) :
    kept keep (l ++ [x]) = kept keep l ++ if keep l.length then [x] else [] := by
  cases hk : keep l.length <;> simp [kept, List.zipIdx_append, List.filter_append, hk]

/-- The steps that may be left out, told by what the host has seen: calls, questions about the live
count or about an interface, and destroying that did not succeed. -/
def Omissible : Step × Outcome → Prop
  | (.call .., _) | (.liveCount, _) | (.describe _, _) | (.roundTrip _, _) => True
  | (.destroy _, o) | (.tryDestroy _, o) => o.result.status? ≠ some .ok
  | _ => False

instance : DecidablePred Omissible
  | (.call .., _) | (.liveCount, _) | (.describe _, _) | (.roundTrip _, _) => .isTrue trivial
  | (.destroy _, o) | (.tryDestroy _, o) =>
    inferInstanceAs (Decidable (o.result.status? ≠ some .ok))
  | (.create .., _) | (.adapter _, _) | (.drop _, _) | (.setVerbosity _, _)
  | (.directLog .., _) => .isFalse id

theorem step_of_question {st : Step} (hst : (question? st).isSome) (s : Session) :
    (s.step st).1 = s := by
  obtain ⟨⟨h, q⟩, hq⟩ := Option.isSome_iff_exists.mp hst
  rw [step_question hq, ask_state]

theorem step_of_refused {s : Session} {st : Step} {p : Pointer}
    (hst : st = .destroy p ∨ st = .tryDestroy p)
    (hstatus : (s.step st).2.result.status? ≠ some .ok) : (s.step st).1 = s := by
  refine (destroying_refused hst fun h hp hl => ?_).1
  subst hp
  exact hstatus (destroying_live hst hl).2.2

/-- A step that may be left out leaves the session as it was. -/
theorem step_omissible {s : Session} {v : Verbosity} {st : Step}
    (hst : Omissible (st, seen v (s.step st).2)) : (s.step st).1 = s := by
  cases st with
  | call h receiver c => exact step_of_question rfl s
  | describe h => exact step_of_question rfl s
  | roundTrip h => exact step_of_question rfl s
  | liveCount => rfl
  | destroy p => exact step_of_refused (.inl rfl) hst
  | tryDestroy p => exact step_of_refused (.inr rfl) hst
  | create log fatal => exact hst.elim
  | adapter handler => exact hst.elim
  | drop h => exact hst.elim
  | setVerbosity w => exact hst.elim
  | directLog h text => exact hst.elim

/-- Callbacks carry no hidden state. Leave any calls, questions and refused destroying out of a run:
every other step keeps its result and its events, and the session ends the same. -/
theorem omission_unseen (steps : List Step) (keep : Nat → Bool)
    (homitted : ∀ x ∈ kept (fun i => !keep i) (history steps), Omissible x) :
    history (kept keep steps) = kept keep (history steps) ∧
      after (kept keep steps) = after steps := by
  -- The session without the omitted steps has come just as far, so the next step shows the same.
  induction steps using List.reverseRecOn with
  | nil => exact ⟨rfl, rfl⟩
  | append_singleton steps st ih =>
    rw [history_concat, kept_concat, length_history] at homitted
    obtain ⟨hhistory, hafter⟩ := ih fun x hx => homitted x (List.mem_append_left _ hx)
    rw [history_concat, kept_concat, kept_concat, length_history, after_concat]
    cases hkeep : keep steps.length with
    | true => simp only [if_true, history_concat, after_concat, hhistory, hafter, and_self]
    | false =>
      have hlast : Omissible (st, seen (after steps).verbosity ((after steps).step st).2) :=
        homitted _ (List.mem_append_right _ (by simp [hkeep]))
      have hst : ((after steps).step st).1 = after steps := step_omissible hlast
      simp only [Bool.false_eq_true, if_false, List.append_nil, hhistory, hafter, hst, and_self]

/-- A crashing handler, a format that cannot be rendered, a cut message, a missing sink, refused
destroying, and questions, between steps that stay. -/
def busy : List Step := [
  .create (some "a") none,
  .adapter (.observer .crashes),
  .call 1 .itself (.trace none 3 (some (Utf8.ofString "x")) []),
  .call 0 .itself (.trace none 4 (some (Utf8.ofString "100%")) []),
  .destroy (.interface 1),
  .directLog 1 (Utf8.ofString "y"),
  .call 0 .itself (.traceArgs none 5 (some (Utf8.ofString "%300d")) [.word 1]),
  .setVerbosity (.upTo .info),
  .call 0 .itself (.fatal ⟨none, 9, -3, none⟩),
  .liveCount,
  .tryDestroy .null,
  .call 1 .itself (.cacheRead 7 [1, 2]),
  .describe 1,
  .roundTrip 0,
  .destroy (.interface 0),
  .tryDestroy (.interface 0),
  .drop 1]

/-- What stays of it: the steps that make, tune, drop or destroy, and one direct call. -/
def essential (i : Nat) : Bool := i ∈ [0, 1, 5, 7, 14, 16]

theorem omission_unseen_busy :
    (∀ x ∈ kept (fun i => !essential i) (history busy), Omissible x) ∧
    kept essential (history busy) = history [.create (some "a") none, .adapter (.observer .crashes),
      .directLog 1 (Utf8.ofString "y"), .setVerbosity (.upTo .info), .destroy (.interface 0),
      .drop 1] := by
  have homitted : ∀ x ∈ kept (fun i => !essential i) (history busy), Omissible x := by
    decide +kernel
  exact ⟨homitted, (omission_unseen busy essential homitted).1.symm⟩

end ConsoleRelay.Session
