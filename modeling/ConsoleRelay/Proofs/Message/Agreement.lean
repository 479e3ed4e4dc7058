import ConsoleRelay.Proofs.Format.Composition
import ConsoleRelay.Proofs.Message.Storage
import ConsoleRelay.Trace
import Mathlib.Data.List.TakeWhile

/-!
Two ways to one message.

A trace can be put into a format with its arguments and rendered at once, or written as text part by
part. Both give the same message.
-/
namespace ConsoleRelay
open Utf8

namespace Message

/-- A rendering without NUL reaches a sink as the whole of its message. -/
theorem cString_ofRendered_of_notMem {r : Bytes} (hr : 0 ∉ r) :
    (ofRendered r).cString = (ofRendered r).bytes := by
  have hbytes : 0 ∉ (ofRendered r).bytes := by
    by_cases hfits : r.length ≤ 255
    · rwa [(bytes_ofRendered_short hfits).2]
    · obtain ⟨c, -, -, hbytes⟩ := bytes_ofRendered_long (Nat.lt_of_not_le hfits)
      rw [hbytes, List.mem_append, not_or]
      exact ⟨fun h => hr (List.mem_of_mem_take h), by decide⟩
  rw [cString_ofRendered, List.takeWhile_eq_self_iff]
  intro b hb
  exact bne_iff_ne.mpr fun hzero => hbytes (hzero ▸ hb)

end Message

namespace Trace
open Format

/-- A part of a trace: text that stands in the format itself, or an argument. -/
inductive Fragment where
  | literal (t : Text)
  | string (t : Text)
  | number (n : Int64)
  deriving DecidableEq, Repr

namespace Fragment

/-- What a fragment reads as. -/
def shown : Fragment → Text
  | .literal t | .string t => t
  | .number n => signedDecimal n.toInt

/-- Text as it stands in a format, with every percent sign doubled. -/
def escaped (t : Text) : Text := t.flatMap fun c => if c = '%' then ['%', '%'] else [c]

/-- A fragment as it stands in a format. -/
def format : Fragment → Bytes
  | .literal t => encode (escaped t)
  | .string _ => ofString "%s"
  | .number _ => ofString "%lld"

/-- The arguments that go with a fragment. -/
def arguments : Fragment → List Argument
  | .literal _ => []
  | .string t => [.string (some (encode t))]
  | .number n => [.word n.toUInt64]

end Fragment

theorem yields_escaped (t : Text) : Yields (encode (Fragment.escaped t)) [] (encode t) := by
  induction t with
  | nil => exact .nil
  | cons c t ih =>
    have hfirst : Yields (encode (if c = '%' then ['%', '%'] else [c])) []
        (String.utf8EncodeChar c) := by
      split_ifs with hc
      · subst hc
        exact yields_percent
      · -- No other character has the byte of the percent sign in it, so this one is literal.
        rw [encode_cons, encode_nil, List.append_nil]
        apply yields_literals
        intro hmem
        exact hc (Char.toNat_inj.mp (toNat_of_mem_encodeChar (by decide) hmem))
    rw [Fragment.escaped, List.flatMap_cons, encode_append, encode_cons]
    exact hfirst.append ih

theorem Fragment.yields (f : Fragment) : Yields f.format f.arguments (encode f.shown) := by
  cases f with
  | literal t => exact yields_escaped t
  | string t => exact yields_string (encode t)
  | number n => exact yields_number n

theorem yields_fragments (fs : List Fragment) :
    Yields (fs.flatMap Fragment.format) (fs.flatMap Fragment.arguments)
      (encode (fs.flatMap Fragment.shown)) := by
  induction fs with
  | nil => exact .nil
  | cons f fs ih =>
    rw [List.flatMap_cons, List.flatMap_cons, List.flatMap_cons, encode_append]
    exact f.yields.append ih

theorem nul_notMem_shown {fs : List Fragment}
    (hnul : ∀ t, Fragment.literal t ∈ fs ∨ .string t ∈ fs → '\x00' ∉ t) :
    '\x00' ∉ fs.flatMap Fragment.shown := by
  intro h
  obtain ⟨f, hf, hmem⟩ := List.mem_flatMap.mp h
  cases f with
  | literal t => exact hnul t (.inl hf) hmem
  | string t => exact hnul t (.inr hf) hmem
  | number n => exact absurd (toNat_of_mem_signedDecimal hmem).1 (by decide)

/-- Fragments of text without NUL that are rendered through a format, and the same fragments written
one after the other, give one message: the whole text, if it fits. A sink is handed all of it. -/
theorem rendering_agrees_with_writing (fs : List Fragment)
    (hnul : ∀ t, Fragment.literal t ∈ fs ∨ .string t ∈ fs → '\x00' ∉ t)
    (hlen : (encode (fs.flatMap Fragment.shown)).length ≤ 2147483647) :
    ∃ m w, message (fs.flatMap Fragment.format) (fs.flatMap Fragment.arguments) = .ok m ∧
      (fs.map fun f => encode f.shown).foldlM Message.write? .empty = some w ∧
      m.bytes = w.bytes ∧ m.len = w.len ∧ m.cString = w.cString ∧ m.truncated = w.truncated ∧
      m.cString = m.bytes ∧ ((encode (fs.flatMap Fragment.shown)).length ≤ 255 →
        m.bytes = encode (fs.flatMap Fragment.shown)) := by
  have hrender := (yields_fragments fs).render hlen
  have hwhole : (fs.map fun f => encode f.shown).flatten = encode (fs.flatMap Fragment.shown) := by
    rw [List.flatMap_def, encode_flatten, List.map_map]
    rfl
  have hwrite := Message.foldlM_write? [] (fs.map fun f => encode f.shown)
  rw [Message.ofRendered_nil, List.nil_append, hwhole] at hwrite
  refine ⟨_, _, ?_, hwrite, rfl, rfl, rfl, rfl, ?_, fun hfits =>
    (Message.bytes_ofRendered_short hfits).2⟩
  · simp only [message, hrender]
  · exact Message.cString_ofRendered_of_notMem (nul_notMem_encode (nul_notMem_shown hnul))

/-- A percent sign, two-byte characters across the limit and the least integer. -/
def crowded : List Fragment :=
  [.literal "100%: ".toList, .string (List.replicate 200 'é'), .number (-9223372036854775808)]

theorem rendering_agrees_with_writing_crowded :
    crowded.flatMap Fragment.format = ofString "100%%: %s%lld" ∧
    (∀ t, Fragment.literal t ∈ crowded ∨ .string t ∈ crowded → '\x00' ∉ t) ∧
    (encode (crowded.flatMap Fragment.shown)).length = 426 ∧
    ∃ m w, message (ofString "100%%: %s%lld") (crowded.flatMap Fragment.arguments) = .ok m ∧
      (crowded.map fun f => encode f.shown).foldlM Message.write? .empty = some w ∧
      m.bytes = w.bytes ∧ m.len = w.len ∧ m.cString = w.cString ∧ m.truncated = w.truncated := by
  have hformat : crowded.flatMap Fragment.format = ofString "100%%: %s%lld" := by decide +kernel
  have hnul : ∀ t, Fragment.literal t ∈ crowded ∨ .string t ∈ crowded → '\x00' ∉ t := by
    intro t ht
    simp only [crowded, List.mem_cons, Fragment.literal.injEq, Fragment.string.injEq, reduceCtorEq,
      List.not_mem_nil, or_false, false_or] at ht
    rcases ht with rfl | rfl <;> decide +kernel
  have hlen : (encode (crowded.flatMap Fragment.shown)).length = 426 := by decide +kernel
  obtain ⟨m, w, hm, hw, hbytes, hlength, hstring, hcut, -⟩ :=
    rendering_agrees_with_writing crowded hnul (by omega)
  rw [hformat] at hm
  exact ⟨hformat, hnul, hlen, m, w, hm, hw, hbytes, hlength, hstring, hcut⟩

end Trace

end ConsoleRelay
