import ConsoleRelay.Proofs.Message.Storage
import ConsoleRelay.Trace

/-!
What holds of the storage of every message.

However a message came about, it is the one of some text. Its text leaves room for the terminator,
the terminator is in its place, and no later access to the storage is out of range.
-/
namespace ConsoleRelay.Message
open Utf8

theorem store?_of_le {cells : Bytes} {pos : Nat} (src : Bytes)
    (h : pos + src.length ≤ cells.length) :
    ∃ cells', store? cells pos src = some cells' ∧ cells'.length = cells.length := by
  refine ⟨_, if_pos h, ?_⟩
  simp only [List.length_append, List.length_take, List.length_drop]
  omega

/-- Cutting stays within the storage, wherever the text of a message ends. -/
theorem markTruncated?_of_length {m : Message} (hm : m.cells.length = 256) :
    ∃ m', markTruncated? m = some m' ∧ m'.cells.length = 256 := by
  have hlimit : min (maxLen - marker.length) m.len ≤ 252 := Nat.min_le_left _ _
  obtain ⟨cut, hback, hcut⟩ :=
    @backOff?_greatest m.cells (min (maxLen - marker.length) m.len) (by omega)
  have hle : cut + marker.length ≤ 255 := Nat.add_le_add_right (hcut.1.1.trans hlimit) 3
  obtain ⟨marked, hmark, hmarked⟩ := @store?_of_le m.cells cut marker (by omega)
  obtain ⟨ended, hend, hended⟩ :=
    @store?_of_le marked (cut + marker.length) [0] (by rw [List.length_singleton]; omega)
  refine ⟨⟨ended, cut + marker.length, true⟩, ?_, (hended.trans hmarked).trans hm⟩
  simp only [markTruncated?, hback, hmark, hend, Option.bind_eq_bind, Option.bind_some]
  rfl

/-- What the three fields of a message have to do with each other. -/
structure WellFormed (m : Message) : Prop where
  length_cells : m.cells.length = 256
  len_le : m.len ≤ 255
  terminated : m.cells[m.len]? = some 0
  marked : m.truncated = true → 3 ≤ m.len ∧ marker <:+ m.bytes

theorem length_cells_ofRendered (t : Bytes) : (ofRendered t).cells.length = 256 := by
  have heq := ofRendered?_eq t
  rw [ofRendered?_eq_some] at heq
  split_ifs at heq with h
  · rw [Option.some.inj heq]
    exact length_filled t
  · obtain ⟨m, hm, hlen⟩ := @markTruncated?_of_length ⟨filled t, 255, false⟩ (length_filled t)
    rw [hm, Option.some.injEq] at heq
    rw [heq, hlen]

theorem wellFormed_ofRendered (t : Bytes) : WellFormed (ofRendered t) := by
  have hcells := length_cells_ofRendered t
  have hend := terminated_ofRendered t
  by_cases h : t.length ≤ 255
  · have hcut := (bytes_ofRendered_short h).1
    obtain ⟨rest, heq⟩ := ofRendered_short h
    refine ⟨hcells, ?_, hend, fun htrue => ?_⟩
    · rw [heq]
      exact h
    · rw [hcut] at htrue
      cases htrue
  · obtain ⟨c, rest, hc, heq⟩ := ofRendered_long (Nat.lt_of_not_le h)
    have hle : c ≤ 252 := hc.1.1
    have hlen : (t.take c ++ marker).length = c + 3 := by
      rw [List.length_append, List.length_take_of_le (by omega)]
      rfl
    rw [heq] at hcells hend ⊢
    refine ⟨hcells, ?_, hend, fun _ => ⟨?_, ?_⟩⟩
    · change (t.take c ++ marker).length ≤ 255
      omega
    · change 3 ≤ (t.take c ++ marker).length
      omega
    · rw [bytes_mk true rfl]
      exact List.suffix_append _ _

theorem WellFormed.room?_eq {m : Message} (h : WellFormed m) : room? m = some (255 - m.len) :=
  if_pos h.len_le

/-- What is done with a message: it is started anew, rendered or written to, a copy of it is put
aside, or such a copy takes its place. -/
inductive Edit where
  | new
  | render (r : Bytes)
  | write (s : Bytes)
  | save
  | restore (i : Nat)
  deriving DecidableEq, Repr

/-- A message and the copies that were put aside. -/
structure Editor where
  current : Message := empty
  copies : List Message := []
  deriving DecidableEq, Repr

namespace Editor

/-- Carry out an edit, unless an access to the storage is out of range. -/
def step? (e : Editor) : Edit → Option Editor
  | .new => some { e with current := empty }
  | .render r => (ofRendered? r).map fun m => { e with current := m }
  | .write s => (write? e.current s).map fun m => { e with current := m }
  | .save => some { e with copies := e.copies ++ [e.current] }
  | .restore i => some { e with current := e.copies.getD i e.current }

/-- Carry out edits one after the other, from an empty message on. -/
def run? (edits : List Edit) : Option Editor := edits.foldlM step? {}

/-- Every message at hand is the message of some text. -/
def OfTexts (e : Editor) : Prop :=
  (∃ t, e.current = ofRendered t) ∧ ∀ m ∈ e.copies, ∃ t, m = ofRendered t

theorem step?_ofTexts {e : Editor} (he : e.OfTexts) (edit : Edit) :
    ∃ e', e.step? edit = some e' ∧ e'.OfTexts := by
  obtain ⟨⟨t, ht⟩, hcopies⟩ := he
  cases edit with
  | new => exact ⟨_, rfl, ⟨[], ofRendered_nil.symm⟩, hcopies⟩
  | render r =>
    refine ⟨{ e with current := ofRendered r }, ?_, ⟨r, rfl⟩, hcopies⟩
    rw [step?, ofRendered?_eq_some, Option.map_some]
  | write s =>
    -- Writing goes on with the text the message is of, also after a cut.
    refine ⟨{ e with current := ofRendered (t ++ s) }, ?_, ⟨t ++ s, rfl⟩, hcopies⟩
    rw [step?, ht, write?_ofRendered s (ofRendered?_eq_some t), ofRendered?_eq_some,
      Option.map_some]
  | save =>
    refine ⟨_, rfl, ⟨t, ht⟩, fun m hm => ?_⟩
    rcases List.mem_append.mp hm with hm | hm
    · exact hcopies m hm
    · rw [List.mem_singleton.mp hm]
      exact ⟨t, ht⟩
  | restore i =>
    refine ⟨_, rfl, ?_, hcopies⟩
    cases hi : e.copies[i]? with
    | none => exact ⟨t, by simp [List.getD, hi, ht]⟩
    | some m =>
      obtain ⟨u, hu⟩ := hcopies m (List.mem_of_getElem? hi)
      exact ⟨u, by simp [List.getD, hi, hu]⟩

theorem foldlM_ofTexts {e : Editor} (he : e.OfTexts) (edits : List Edit) :
    ∃ e', edits.foldlM step? e = some e' ∧ e'.OfTexts := by
  induction edits generalizing e with
  | nil => exact ⟨e, rfl, he⟩
  | cons edit edits ih =>
    obtain ⟨next, hstep, hnext⟩ := step?_ofTexts he edit
    obtain ⟨last, hrun, hlast⟩ := ih hnext
    refine ⟨last, ?_, hlast⟩
    rw [List.foldlM_cons, hstep]
    exact hrun

theorem run?_concat {edits : List Edit} {e : Editor} (h : run? edits = some e) (edit : Edit) :
    run? (edits ++ [edit]) = e.step? edit := by
  rw [run?] at h ⊢
  rw [List.foldlM_append, h]
  change (e.step? edit >>= fun e' => pure e') = _
  rw [bind_pure]

/-- The message of a trace is one that rendering gives. -/
theorem step?_render_of_message {format : Bytes} {args : List Format.Argument} {m : Message}
    (h : Trace.message format args = .ok m) (e : Editor) :
    ∃ r, e.step? (.render r) = some { e with current := m } := by
  unfold Trace.message at h
  split at h
  next r _ =>
    cases h
    exact ⟨r, by rw [step?, ofRendered?_eq_some, Option.map_some]⟩
  next => cases h

theorem run?_ofTexts (edits : List Edit) : ∃ e, run? edits = some e ∧ e.OfTexts :=
  foldlM_ofTexts ⟨⟨[], ofRendered_nil.symm⟩, by simp⟩ edits

/-- Edits are never stopped, and after any of them the fields of the message agree: its text ends in
front of the terminator, and with the marker if it was cut. Every further access is within the
storage, the C string is the text up to its first NUL, and a message that was cut stays as it is.
The messages of traces are among those that edits give. -/
theorem message_after_edits (edits : List Edit) :
    ∃ e, run? edits = some e ∧
      let m := e.current
      m.cells.length = 256 ∧ m.len ≤ 255 ∧ m.cells[m.len]? = some 0 ∧
      (m.truncated = true → 3 ≤ m.len ∧ ofString "..." <:+ m.bytes) ∧
      m.room? = some (255 - m.len) ∧ (∀ s, (m.write? s).isSome) ∧ m.markTruncated?.isSome ∧
      m.cString? = some (m.bytes.takeWhile (· != 0)) ∧
      (m.truncated = true → ∀ s, m.write? s = some m) ∧
      ∀ format args m', Trace.message format args = .ok m' →
        ∃ r, run? (edits ++ [.render r]) = some { e with current := m' } := by
  obtain ⟨e, hrun, ⟨t, ht⟩, -⟩ := run?_ofTexts edits
  refine ⟨e, hrun, ?_⟩
  have hm : WellFormed e.current := ht ▸ wellFormed_ofRendered t
  obtain ⟨cut, hcut, -⟩ := markTruncated?_of_length hm.length_cells
  refine ⟨hm.length_cells, hm.len_le, hm.terminated, hm.marked, hm.room?_eq, fun s => ?_, ?_,
    cString?_of_terminated hm.terminated, fun h s => write?_truncated s h, ?_⟩
  · rw [ht, write?_ofRendered s (ofRendered?_eq_some t), ofRendered?_eq_some]
    rfl
  · rw [hcut]
    rfl
  · intro format args m' hm'
    obtain ⟨r, hr⟩ := step?_render_of_message hm' e
    exact ⟨r, (run?_concat hrun _).trans hr⟩

end Editor

end ConsoleRelay.Message
