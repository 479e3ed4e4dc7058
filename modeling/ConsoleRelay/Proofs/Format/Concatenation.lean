import ConsoleRelay.Proofs.Format.Grammar
import ConsoleRelay.Proofs.Session.Dispatch

/-!
Traces whose format is put together from two.

The segments of a written format take just the arguments they need, so that what stands behind the
format is rendered with what is left of the arguments, as if it stood alone. The whole fails where
one part fails, however long the text in front of the failure is, and else is the message of both
texts.
-/
namespace ConsoleRelay.Format
open Utf8

/-! Rendering -/

theorem eq_word_of_kinds {a : List Argument} (h : a.map Argument.kind = [.word]) :
    ∃ w, a = [.word w] := by
  obtain ⟨x, rfl, hx⟩ := List.map_eq_singleton_iff.mp h
  cases x with
  | word w => exact ⟨w, rfl⟩
  | real | string => cases hx

theorem resolveWidth_of_kinds {d : Directive} {a : List Argument}
    (h : a.map Argument.kind = d.width.needs) :
    ∃ flags width, ∀ more, resolveWidth d (a ++ more) = .ok (flags, width, more) := by
  obtain ⟨flags, width, precision, size, conversion, lenient⟩ := d
  cases width with
  | absent | fixed =>
    obtain rfl := List.map_eq_nil_iff.mp h
    exact ⟨_, _, fun _ => rfl⟩
  | argument =>
    obtain ⟨w, rfl⟩ := eq_word_of_kinds h
    exact ⟨_, _, fun _ => rfl⟩

theorem resolvePrecision_of_kinds {p : Extent} {a : List Argument}
    (h : a.map Argument.kind = p.needs) :
    ∃ precision, ∀ more, resolvePrecision (a ++ more) p = .ok (precision, more) := by
  cases p with
  | absent | fixed =>
    obtain rfl := List.map_eq_nil_iff.mp h
    exact ⟨_, fun _ => rfl⟩
  | argument =>
    obtain ⟨w, rfl⟩ := eq_word_of_kinds h
    exact ⟨_, fun _ => rfl⟩

/-- With arguments of the kinds it needs, a conversion takes these and no others, and whether it
fails does not depend on what follows. -/
theorem renderConversion_of_kinds (l : Layout) {d : Directive} {a : List Argument}
    (h : a.map Argument.kind = d.conversion.needs) :
    ∃ result, ∀ more, renderConversion l d (a ++ more) = Except.map (·, more) result := by
  obtain ⟨flags, width, precision, size, conversion, lenient⟩ := d
  cases conversion with
  | signed | unsigned | pointer =>
    obtain ⟨w, rfl⟩ := eq_word_of_kinds h
    exact ⟨.ok _, fun _ => rfl⟩
  | char =>
    obtain ⟨w, rfl⟩ := eq_word_of_kinds h
    by_cases hwide : size = .long ∧ 0x7F < lowBits 32 w
    · exact ⟨.error .wideCharacter, fun _ => if_pos hwide⟩
    · exact ⟨.ok _, fun _ => if_neg hwide⟩
  | string =>
    obtain ⟨x, rfl, hx⟩ := List.map_eq_singleton_iff.mp h
    cases x with
    | word | real => cases hx
    | string s =>
      by_cases hwide : size = .long ∧ s.isSome
      · exact ⟨.error .argumentMismatch, fun _ => if_pos hwide⟩
      · exact ⟨.ok _, fun _ => if_neg hwide⟩
  | real style upper =>
    obtain ⟨x, rfl, hx⟩ := List.map_eq_singleton_iff.mp h
    cases x with
    | word | string => cases hx
    | real bits => exact ⟨.ok _, fun _ => rfl⟩
  | percent | unknown | cutOff =>
    obtain rfl := List.map_eq_nil_iff.mp h
    exact ⟨.ok _, fun _ => rfl⟩

/-- A segment takes the arguments it needs and no others. -/
theorem Segment.renderItem_item (s : Segment) {a : List Argument}
    (h : a.map Argument.kind = s.needs) :
    ∃ result, ∀ more, renderItem s.item (a ++ more) = Except.map (·, more) result := by
  cases s with
  | literal b ordinary =>
    obtain rfl := List.map_eq_nil_iff.mp h
    exact ⟨.ok [b], fun _ => rfl⟩
  | directive o letter c known =>
    obtain ⟨widths, rest, rfl, hwidth, hrest⟩ := List.map_eq_append_iff.mp h
    obtain ⟨precisions, own, rfl, hprecision, hown⟩ := List.map_eq_append_iff.mp hrest
    obtain ⟨flags, width, hw⟩ := resolveWidth_of_kinds (d := o.directive c) hwidth
    obtain ⟨precision, hp⟩ := resolvePrecision_of_kinds hprecision
    obtain ⟨result, hc⟩ :=
      renderConversion_of_kinds ⟨flags, width, precision⟩ (d := o.directive c) hown
    refine ⟨result, fun more => ?_⟩
    rw [item, renderItem, List.append_assoc, hw, List.append_assoc]
    change (resolvePrecision (precisions ++ (own ++ more)) o.precision.extent >>= _) = _
    rw [hp]
    exact hc more

theorem renderFront_items (segments : List Segment) {a : List Argument}
    (h : a.map Argument.kind = segments.flatMap Segment.needs) :
    ∃ result, ∀ more,
      renderFront (segments.map Segment.item) (a ++ more) = Except.map (·, more) result := by
  induction segments generalizing a with
  | nil =>
    obtain rfl := List.map_eq_nil_iff.mp h
    exact ⟨.ok [], fun _ => rfl⟩
  | cons s segments ih =>
    rw [List.flatMap_cons] at h
    obtain ⟨own, rest, rfl, hown, hrest⟩ := List.map_eq_append_iff.mp h
    obtain ⟨result, hresult⟩ := s.renderItem_item hown
    obtain ⟨results, hresults⟩ := ih hrest
    refine ⟨result >>= fun text => (text ++ ·) <$> results, fun more => ?_⟩
    rw [List.map_cons, renderFront, List.append_assoc, hresult]
    cases result with
    | error e => rfl
    | ok text =>
      change (renderFront _ (rest ++ more) >>= _) = _
      rw [hresults]
      cases results <;> rfl

theorem renderItems_append_of_renderFront {items : List Item} {a b : List Argument} {x : Bytes}
    (h : renderFront items (a ++ b) = .ok (x, b)) (more : List Item) :
    renderItems (items ++ more) (a ++ b) = (x ++ ·) <$> renderItems more b := by
  rw [renderItems_eq_renderFront, renderFront_append, h]
  change Prod.fst <$> (renderFront more b >>= fun p => pure (x ++ p.1, p.2)) = _
  rw [renderItems_eq_renderFront]
  simp

/-- A text, unless it is longer than the largest count. -/
def bounded (text : Bytes) : Except Fault Bytes :=
  if text.length ≤ maxCount then .ok text else .error .tooLong

theorem bounded_of_le {text : Bytes} (h : text.length ≤ maxCount) : bounded text = .ok text :=
  if_pos h

theorem bounded_eq_ok {text y : Bytes} (h : bounded text = .ok y) :
    text = y ∧ text.length ≤ maxCount := by
  unfold bounded at h
  split at h
  · next hle => exact ⟨Except.ok.inj h, hle⟩
  · cases h

theorem bounded_append_of_error {y : Bytes} {e : Fault} (x : Bytes) (h : bounded y = .error e) :
    bounded (x ++ y) = .error .tooLong := by
  apply if_neg
  intro hle
  rw [List.length_append] at hle
  rw [bounded_of_le (by omega)] at h
  cases h

/-- Behind a format that stands by itself another one fails as it does alone or renders the same
text; only the length of both texts together can still be too large. -/
theorem Yields.render_append {f : Bytes} {a : List Argument} {x : Bytes} (h : Yields f a x)
    (g : Bytes) (b : List Argument) :
    (∃ e, Format.render g b = .error e ∧ Format.render (f ++ g) (a ++ b) = .error e) ∨
      ∃ y, Format.render g b = bounded y ∧ Format.render (f ++ g) (a ++ b) = bounded (x ++ y) := by
  obtain ⟨items, hscan, hfront⟩ := h
  have hwhole : Format.render (f ++ g) (a ++ b) =
      Format.read g >>= fun more => renderItems more b >>= fun y => bounded (x ++ y) := by
    change (Format.read (f ++ g) >>= fun more => renderItems more (a ++ b) >>= bounded) = _
    rw [read_append_of_scan hscan]
    simp only [bind_map_left, renderItems_append_of_renderFront (hfront b)]
  have hpart : Format.render g b =
      Format.read g >>= fun more => renderItems more b >>= bounded := rfl
  rw [hwhole, hpart]
  cases Format.read g with
  | error e => exact .inl ⟨e, rfl, rfl⟩
  | ok more =>
    change (∃ e, (renderItems more b >>= bounded) = .error e ∧
      (renderItems more b >>= fun y => bounded (x ++ y)) = .error e) ∨
        ∃ y, (renderItems more b >>= bounded) = bounded y ∧
          (renderItems more b >>= fun y => bounded (x ++ y)) = bounded (x ++ y)
    cases renderItems more b with
    | error e => exact .inl ⟨e, rfl, rfl⟩
    | ok y => exact .inr ⟨y, rfl, rfl⟩

/-- While both texts together are not too long, the whole fails or renders as its second part. -/
theorem Yields.render_append_of_length {f : Bytes} {a : List Argument} {x : Bytes}
    (h : Yields f a x) (g : Bytes) (b : List Argument)
    (hlen : ∀ y, Format.render g b = .ok y → x.length + y.length ≤ maxCount) :
    (∃ e e', Format.render g b = .error e ∧ Format.render (f ++ g) (a ++ b) = .error e') ∨
      ∃ y, Format.render g b = .ok y ∧ Format.render (f ++ g) (a ++ b) = .ok (x ++ y) := by
  rcases h.render_append g b with ⟨e, hg, hwhole⟩ | ⟨y, hg, hwhole⟩
  · exact .inl ⟨e, e, hg, hwhole⟩
  · cases hy : bounded y with
    | error e =>
      rw [bounded_append_of_error x hy] at hwhole
      exact .inl ⟨e, _, hg.trans hy, hwhole⟩
    | ok y' =>
      obtain ⟨rfl, -⟩ := bounded_eq_ok hy
      have hfits := hlen y (hg.trans hy)
      rw [bounded_of_le (by rwa [List.length_append])] at hwhole
      exact .inr ⟨y, hg.trans hy, hwhole⟩

/-- A format that renders with arguments of the kinds it needs stands by itself. -/
theorem yields_written {segments : List Segment} {a : List Argument} {x : Bytes}
    (ha : a.map Argument.kind = segments.flatMap Segment.needs)
    (hx : render (written segments) a = .ok x) : Yields (written segments) a x := by
  rcases scan_written segments with hscan | hrefused
  · obtain ⟨result, hresult⟩ := renderFront_items segments ha
    obtain ⟨text, rfl⟩ : ∃ text, result = .ok text := by
      cases result with
      | ok text => exact ⟨text, rfl⟩
      | error e =>
        have hfront := hresult []
        rw [List.append_nil] at hfront
        rw [render_of_scan hscan rfl, hfront] at hx
        cases hx
    have hyields : Yields (written segments) a text := ⟨_, hscan, hresult⟩
    -- The same with nothing behind it shows what the text is.
    have halone := hyields.render_append [] []
    rw [List.append_nil, List.append_nil, hx] at halone
    rcases halone with ⟨e, -, he⟩ | ⟨y, hy, hbounded⟩
    · cases he
    · obtain rfl : y = [] := (bounded_eq_ok (show bounded y = .ok [] from hy.symm)).1
      rw [List.append_nil] at hbounded
      rwa [(bounded_eq_ok hbounded.symm).1] at hyields
  · obtain ⟨e, he⟩ := hrefused []
    rw [List.append_nil] at he
    rw [render, he] at hx
    cases hx

/-- A malformed directive makes a format fail wherever it stands behind known conversions, whatever
the arguments are. -/
theorem Malformed.render_written {g : Bytes} (hg : Malformed g) (front : List Segment)
    (args : List Argument) : ∃ e, render (written front ++ g) args = .error e := by
  have hread : ∃ e, Format.read (written front ++ g) = .error e := by
    rcases scan_written front with hscan | hrefused
    · obtain ⟨e, he⟩ := hg.read
      refine ⟨e, ?_⟩
      rw [read_append_of_scan hscan, he]
      rfl
    · exact hrefused g
  obtain ⟨e, he⟩ := hread
  refine ⟨e, ?_⟩
  rw [render, he]
  rfl

end ConsoleRelay.Format

namespace ConsoleRelay.Trace
open Utf8 Format

theorem message_of_ok {f x : Bytes} {a : List Argument} (h : render f a = .ok x) :
    message f a = .ok (Message.ofRendered x) := by
  simp only [message, h]

theorem message_of_error {f : Bytes} {a : List Argument} {e : Fault} (h : render f a = .error e) :
    message f a = .error renderFailed := by
  simp only [message, h]

theorem exists_render_of_message {f : Bytes} {a : List Argument} {m : Message}
    (h : message f a = .ok m) : ∃ x, render f a = .ok x ∧ m = Message.ofRendered x := by
  cases hx : render f a with
  | ok x =>
    rw [message_of_ok hx] at h
    exact ⟨x, rfl, (Except.ok.inj h).symm⟩
  | error e =>
    rw [message_of_error hx] at h
    cases h

theorem bytes_of_not_truncated {x : Bytes} (h : (Message.ofRendered x).truncated = false) :
    (Message.ofRendered x).bytes = x := by
  rw [Message.truncated_ofRendered, decide_eq_false_iff_not, Nat.not_lt] at h
  exact (Message.bytes_ofRendered_short h).2

theorem traceSlot_of_error {f : Bytes} {args : List Argument} {e : Fault}
    (h : render f args = .error e) (handle : Handle) (handler : Handler) (file : Option Bytes)
    (line : UInt16) :
    Adapter.traceSlot handle handler .itself file line (some f) args =
      Session.notes file line (.error e) := by
  change Adapter.trace handle handler file line f args = _
  rw [Session.trace_eq, h]
  rfl

/-- A trace whose format is put together from a front of known conversions, with the arguments it
needs, and any other format. If the front renders, the whole fails just where the rest fails by
itself, and two messages that are not cut make up the message of both texts. Where a malformed
directive follows the front, nothing reaches a handler, however long the text of the front is. -/
theorem trace_of_concatenation {front : List Segment} {a : List Argument}
    (ha : a.map Argument.kind = front.flatMap Segment.needs) {m : Message}
    (hm : message (written front) a = .ok m) (g : Bytes) (b : List Argument)
    (hlen : ∀ x y, render (written front) a = .ok x → render g b = .ok y →
      x.length + y.length ≤ 2147483647) :
    ((∃ e, message (written front ++ g) (a ++ b) = .error e) ↔ ∃ e, message g b = .error e) ∧
      (∀ n, message g b = .ok n → m.truncated = false → n.truncated = false →
        ∃ w, message (written front ++ g) (a ++ b) = .ok w ∧
          if m.bytes.length + n.bytes.length ≤ 255 then
            w.truncated = false ∧ w.bytes = m.bytes ++ n.bytes
          else
            w.truncated = true ∧
              ∃ c, IsGreatest {i | i ≤ 252 ∧ Boundary (m.bytes ++ n.bytes) i} c ∧
                w.bytes = (m.bytes ++ n.bytes).take c ++ ofString "...") ∧
      (Malformed g → ∀ args, ∃ e, render (written front ++ g) args = .error e ∧
        message (written front ++ g) args = .error renderFailed ∧
        ∀ handle handler file line,
          Adapter.traceSlot handle handler .itself file line (some (written front ++ g)) args =
            Session.notes file line (.error e)) := by
  obtain ⟨x, hx, rfl⟩ := exists_render_of_message hm
  have hparts := (yields_written ha hx).render_append_of_length g b fun y => hlen x y hx
  refine ⟨?_, ?_, ?_⟩
  · rcases hparts with ⟨e, e', hg, hwhole⟩ | ⟨y, hg, hwhole⟩
    · rw [message_of_error hg, message_of_error hwhole]
    · rw [message_of_ok hg, message_of_ok hwhole]
      simp only [reduceCtorEq]
  · intro n hn hcut hcut'
    obtain ⟨y, hy, rfl⟩ := exists_render_of_message hn
    rcases hparts with ⟨e, e', hg, -⟩ | ⟨y', hg, hwhole⟩
    · rw [hy] at hg
      cases hg
    · obtain rfl := Except.ok.inj (hy.symm.trans hg)
      refine ⟨_, message_of_ok hwhole, ?_⟩
      rw [bytes_of_not_truncated hcut, bytes_of_not_truncated hcut', ← List.length_append]
      split_ifs with hfits
      · exact Message.bytes_ofRendered_short hfits
      · obtain ⟨c, hc, htruncated, hbytes⟩ := Message.bytes_ofRendered_long (Nat.lt_of_not_le hfits)
        exact ⟨htruncated, c, hc, hbytes⟩
  · intro hg args
    obtain ⟨e, he⟩ := hg.render_written front args
    exact ⟨e, he, message_of_error he, traceSlot_of_error he⟩

theorem string_mem_conversions : ('s', .string) ∈ conversions := by decide

theorem percent_mem_conversions : ('%', .percent) ∈ conversions := by decide

/-- A string filled up to a width that is among the arguments, and a percent sign. -/
def wide : List Segment :=
  [.directive ⟨[.left], .argument, .number [⟨2, by decide⟩], .none⟩ 's' .string
    string_mem_conversions,
   .directive ⟨[], .absent, .absent, .none⟩ '%' .percent percent_mem_conversions]

theorem trace_of_concatenation_wide :
    let a : List Argument := [.word 250, .string (some (ofString "abc"))]
    let x := ofString "ab" ++ List.replicate 248 0x20 ++ ofString "%"
    written wide = ofString "%-*.2s%%" ∧ a.map Argument.kind = wide.flatMap Segment.needs ∧
      render (written wide) a = .ok x ∧
      (∃ w c, message (written wide ++ ofString "é%s")
          (a ++ [.string (some (ofString "éé"))]) = .ok w ∧ w.truncated = true ∧
        IsGreatest {i | i ≤ 252 ∧ Boundary (x ++ ofString "ééé") i} c ∧
        w.bytes = (x ++ ofString "ééé").take c ++ ofString "...") ∧
      Malformed (ofString "%") ∧
      (∃ e, message (written wide ++ ofString "%") (a ++ []) = .error e) ∧
      ∃ e, Adapter.traceSlot 0 .forwarder .itself none 7 (some (written wide ++ ofString "%")) a =
        Session.notes none 7 (.error e) := by
  intro a x
  have ha : a.map Argument.kind = wide.flatMap Segment.needs := by decide
  have hx : render (written wide) a = .ok x := by decide +kernel
  have hy : render (ofString "é%s") [.string (some (ofString "éé"))] = .ok (ofString "ééé") := by
    decide +kernel
  have hlen : ∀ x' y', render (written wide) a = .ok x' →
      render (ofString "é%s") [.string (some (ofString "éé"))] = .ok y' →
      x'.length + y'.length ≤ 2147483647 := by
    intro x' y' hx' hy'
    rw [← Except.ok.inj (hx.symm.trans hx'), ← Except.ok.inj (hy.symm.trans hy')]
    decide +kernel
  have hshort : (Message.ofRendered x).truncated = false := by
    rw [Message.truncated_ofRendered]
    decide +kernel
  have hshort' : (Message.ofRendered (ofString "ééé")).truncated = false := by
    rw [Message.truncated_ofRendered]
    decide +kernel
  have hcut : Malformed (ofString "%") := .cutOff ⟨[], .absent, .absent, .none⟩
  have hbad : render (ofString "%") [] = .error .incomplete := by decide
  obtain ⟨-, hwhole, -⟩ := trace_of_concatenation ha (message_of_ok hx) _ _ hlen
  obtain ⟨hfails, -, hdropped⟩ := trace_of_concatenation ha (message_of_ok hx) (ofString "%") []
    (by simp only [hbad, reduceCtorEq, false_imp_iff, implies_true])
  refine ⟨by decide +kernel, ha, hx, ?_, hcut, hfails.mpr ⟨_, message_of_error hbad⟩, ?_⟩
  · have hlong : ¬ x.length + (ofString "ééé").length ≤ 255 := by decide +kernel
    have hcrossed := hwhole _ (message_of_ok hy) hshort hshort'
    simp only [bytes_of_not_truncated hshort, bytes_of_not_truncated hshort', if_neg hlong]
      at hcrossed
    obtain ⟨w, hw, htruncated, c, hc, hbytes⟩ := hcrossed
    exact ⟨w, c, hw, htruncated, hc, hbytes⟩
  · obtain ⟨e, -, -, hslot⟩ := hdropped hcut a
    exact ⟨e, hslot 0 .forwarder none 7⟩

end ConsoleRelay.Trace
