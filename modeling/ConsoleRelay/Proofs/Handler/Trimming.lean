import ConsoleRelay.Handler
import ConsoleRelay.Proofs.Utf8.Decoding
import Mathlib.Data.List.DropRight

/-!
The text that handlers show of a message.

Bytes read as text have one beginning that the blanks at the end are cut from. Every handler that
shows text shows that one, and so does a fatal report.
-/
namespace ConsoleRelay

/-- `t` is a text without the blanks it ends in. -/
structure Trimmed (whole t : Text) : Prop where
  blank_rest : ∃ w, whole = t ++ w ∧ ∀ c ∈ w, isBlank c = true
  solid_end : ∀ c, t.getLast? = some c → isBlank c = false

theorem trimEnd_eq_rdropWhile (t : Text) : trimEnd t = t.rdropWhile isBlank := rfl

theorem trimmed_trimEnd (whole : Text) : Trimmed whole (trimEnd whole) := by
  rw [trimEnd_eq_rdropWhile]
  refine ⟨⟨whole.rtakeWhile isBlank, List.rdropWhile_append_rtakeWhile.symm, fun c => ?_⟩, ?_⟩
  · exact List.mem_rtakeWhile_imp
  · intro c hc
    have hne : whole.rdropWhile isBlank ≠ [] := by
      rintro hnil
      simp [hnil] at hc
    have hlast := List.rdropWhile_last_not isBlank whole hne
    rw [List.getLast?_eq_some_getLast hne, Option.some.injEq] at hc
    rwa [hc, Bool.not_eq_true] at hlast

theorem Trimmed.eq_trimEnd {whole t : Text} (h : Trimmed whole t) : t = trimEnd whole := by
  obtain ⟨w, rfl, hw⟩ := h.blank_rest
  -- The blanks go one and all, and nothing of what they stood behind.
  have hrest : trimEnd (t ++ w) = trimEnd t := by
    rw [trimEnd, List.reverse_append, List.dropWhile_append_of_pos (by simpa using hw), trimEnd]
  have hself : trimEnd t = t := by
    rw [trimEnd_eq_rdropWhile, List.rdropWhile_eq_self_iff]
    intro hne
    rw [h.solid_end _ (List.getLast?_eq_some_getLast hne)]
    exact Bool.false_ne_true
  rw [hrest, hself]

theorem LossyText.text_ofBytes (bs : Bytes) : (ofBytes bs).text = Utf8.lossy bs := by
  rw [ofBytes]
  cases hdecode : Utf8.decode? bs with
  | none => rfl
  | some t =>
    obtain rfl := Utf8.decode?_eq_some_iff.mp hdecode
    exact (Utf8.lossy_encode t).symm

theorem LossyText.text_trimEnd (t : LossyText) : t.trimEnd.text = ConsoleRelay.trimEnd t.text := by
  cases t <;> rfl

/-- Whether the text is a view or a copy makes no difference to what is shown. -/
theorem readable_eq (bs : Bytes) : readable bs = trimEnd (Utf8.lossy bs) := by
  rw [readable, LossyText.text_trimEnd, LossyText.text_ofBytes]

/-- Bytes read as text have one beginning that the trailing blanks are cut from. Closures are given
it, the forwarder logs it, a missing log sink is reported with it, and it is the message of a fatal
report. Nothing more can be cut from it, and of encoded text it is a beginning. -/
theorem handlers_show_trimmed (b : Bytes) :
    ∃ t, Trimmed (Utf8.lossy b) t ∧ (∀ u, Trimmed (Utf8.lossy b) u → u = t) ∧
      (∀ h reaction onFatal,
        ((Handler.closures (some reaction) onFatal).log h b).events = [.onLog h t]) ∧
      (∀ h, (Handler.forwarder.log h b).events = [.log ⟨.debug, "bgfx", t⟩]) ∧
      (∀ h fatal, ((Handler.sinks none fatal).log h b).events =
        [.log ⟨.warn, "bgfx_interop::handler",
          "Dropping bgfx trace, no log sink installed: ".toList ++ t⟩]) ∧
      (∀ file line code, (FatalReport.mk file line code (some b)).messageText = t) ∧
      trimEnd t = t ∧ ∀ u, b = Utf8.encode u → t <+: u := by
  have hshown := readable_eq b
  refine ⟨trimEnd (Utf8.lossy b), trimmed_trimEnd _, fun u hu => hu.eq_trimEnd, ?_, ?_,
    fun _ _ => rfl, fun _ _ _ => hshown, List.rdropWhile_idempotent isBlank _, ?_⟩
  · intro h reaction onFatal
    rw [← hshown]
    rfl
  · intro h
    rw [← hshown]
    rfl
  · rintro u rfl
    rw [Utf8.lossy_encode]
    exact List.rdropWhile_prefix isBlank u

/-- A multi-byte blank and a sequence cut off at the end: the blank stays, as it is not the last
character. -/
example : readable [0x61, 0xC2, 0xA0, 0xE2, 0x80] = ['a', '\u00A0', Utf8.replacement] := by decide

end ConsoleRelay
