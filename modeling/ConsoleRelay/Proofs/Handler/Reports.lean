import ConsoleRelay.Handler
import ConsoleRelay.Proofs.Format.Composition
import Mathlib.Data.List.TakeWhile

/-!
Fatal reports as they are read in a log.

The text of a report is taken apart from the left: behind the file, the line ends at the first
closing parenthesis and the kind of error at the next colon, whatever the message holds. The kind
tells the code, since only codes without a name are shown as numbers.
-/
namespace ConsoleRelay

theorem eq_of_append_delimiter {d : Char} {x y u v : Text} (hx : d ∉ x) (hy : d ∉ y)
    (h : x ++ d :: u = y ++ d :: v) : x = y ∧ u = v := by
  have hfront {t rest : Text} (ht : d ∉ t) : (t ++ d :: rest).takeWhile (· != d) = t := by
    have hpass : ∀ c ∈ t, (c != d) = true := by
      intro c hc
      exact bne_iff_ne.mpr fun heq => ht (heq ▸ hc)
    rw [List.takeWhile_append_of_pos hpass, List.takeWhile_cons_of_neg (by simp), List.append_nil]
  have hxy : x = y := by rw [← hfront hx, h, hfront hy]
  subst hxy
  exact ⟨rfl, (List.cons.inj (List.append_cancel_left h)).2⟩

namespace Fatal

theorem code_of_ofCode? {raw : Int32} {f : Fatal} (h : ofCode? raw = some f) : f.code = raw := by
  have hfound := List.find?_some h
  simpa using hfound

theorem name_injective {f g : Fatal} (h : f.name = g.name) : f = g := by
  revert h
  cases f <;> cases g <;> decide

theorem notMem_name (f : Fatal) : '(' ∉ f.name.toList ∧ ':' ∉ f.name.toList := by
  cases f <;> decide

end Fatal

namespace FatalReport

variable {r r' : FatalReport}

theorem kindText_of_some {f : Fatal} (hf : r.fatal? = some f) : r.kindText = f.name.toList := by
  simp only [kindText, hf]

theorem kindText_of_none (hf : r.fatal? = none) :
    r.kindText = "Unknown(".toList ++ signedDecimal r.code.toInt ++ ")".toList := by
  simp only [kindText, hf]

theorem colon_notMem_kindText (r : FatalReport) : ':' ∉ r.kindText := by
  cases hf : r.fatal? with
  | some f =>
    rw [kindText_of_some hf]
    exact f.notMem_name.2
  | none =>
    have hnumber : ':' ∉ signedDecimal r.code.toInt := by
      intro hmem
      have hrange := Format.toNat_of_mem_signedDecimal hmem
      exact absurd hrange.2 (by decide)
    rw [kindText_of_none hf, List.mem_append, List.mem_append]
    rintro ((hmem | hmem) | hmem)
    · exact absurd hmem (by decide)
    · exact hnumber hmem
    · exact absurd hmem (by decide)

/-- A kind is a number in parentheses just if the code has no name. -/
theorem mem_kindText_iff (r : FatalReport) : '(' ∈ r.kindText ↔ r.fatal? = none := by
  cases hf : r.fatal? with
  | some f =>
    rw [kindText_of_some hf]
    simpa using f.notMem_name.1
  | none =>
    rw [kindText_of_none hf]
    simp

theorem code_eq_of_kindText (h : r.kindText = r'.kindText) : r.code = r'.code := by
  have hnamed : r.fatal? = none ↔ r'.fatal? = none := by
    rw [← mem_kindText_iff, h, mem_kindText_iff]
  cases hf : r.fatal? with
  | some f =>
    obtain ⟨f', hf'⟩ : ∃ f', r'.fatal? = some f' := by
      rw [← Option.ne_none_iff_exists', ← hnamed.ne, hf]
      exact Option.some_ne_none f
    rw [kindText_of_some hf, kindText_of_some hf', String.toList_inj] at h
    rw [← Fatal.code_of_ofCode? hf, Fatal.name_injective h, Fatal.code_of_ofCode? hf']
  | none =>
    rw [kindText_of_none hf, kindText_of_none (hnamed.mp hf)] at h
    have hnumber := List.append_cancel_left (List.append_cancel_right h)
    exact Int32.toInt_inj.mp (signedDecimal_injective hnumber)

theorem display_eq (r : FatalReport) :
    r.display = r.fileText ++ '(' :: (decimal r.line.toNat ++ ')' ::
      ([':', ' '] ++ (r.kindText ++ ':' :: ' ' :: r.messageText))) := by
  simp [display]

/-- Two reports that say the same of one file. -/
structure Alike (r r' : FatalReport) : Prop where
  line : r.line = r'.line
  code : r.code = r'.code
  message : r.messageText = r'.messageText

theorem Alike.kindText (h : Alike r r') : r.kindText = r'.kindText := by
  simp only [FatalReport.kindText, fatal?, h.code]

theorem Alike.of_display (hfile : r.fileText = r'.fileText) (h : r.display = r'.display) :
    Alike r r' := by
  have hline (q : FatalReport) : ')' ∉ decimal q.line.toNat := by
    intro hmem
    have hrange := Format.toNat_of_mem_signedDecimal (i := Int.ofNat q.line.toNat) hmem
    exact absurd hrange.1 (by decide)
  rw [display_eq, display_eq, hfile] at h
  have hbehind := (List.cons.inj (List.append_cancel_left h)).2
  obtain ⟨hlines, htails⟩ := eq_of_append_delimiter (hline r) (hline r') hbehind
  have hkinds := List.append_cancel_left htails
  obtain ⟨hkind, hmessage⟩ :=
    eq_of_append_delimiter (colon_notMem_kindText r) (colon_notMem_kindText r') hkinds
  refine ⟨UInt16.toNat_inj.mp (decimal_injective hlines), code_eq_of_kindText hkind, ?_⟩
  exact (List.cons.inj hmessage).2

theorem display_eq_iff (hfile : r.fileText = r'.fileText) :
    r.display = r'.display ↔ Alike r r' := by
  constructor
  · exact Alike.of_display hfile
  · intro h
    rw [display_eq, display_eq, hfile, h.line, h.kindText, h.message]

/-- Of reports whose files read the same, equal texts mean equal lines, codes and messages. So the
record of a forwarder tells them, and so does the warning about a missing sink. -/
theorem report_text_unambiguous (hfile : r.fileText = r'.fileText) :
    (r.display = r'.display ↔ Alike r r') ∧
    (∀ h h', (Handler.forwarder.fatal h r).events = (Handler.forwarder.fatal h' r').events ↔
      Alike r r') ∧
    ∀ log log' h h', ((Handler.sinks log none).fatal h r).events =
      ((Handler.sinks log' none).fatal h' r').events ↔ Alike r r' := by
  have hdisplay := display_eq_iff hfile
  refine ⟨hdisplay, fun h h' => ?_, fun log log' h h' => ?_⟩
  · rw [← hdisplay]
    simp [Handler.fatal]
  · rw [← hdisplay]
    simp [Handler.fatal]

/-- A message that looks like the end of another report, and two ways to end its line. -/
theorem report_text_unambiguous_nested :
    let r : FatalReport := ⟨none, 7, -5, some (Utf8.ofString "Unknown(-5): x\n")⟩
    let r' : FatalReport := ⟨some [], 7, -5, some (Utf8.ofString "Unknown(-5): x \t")⟩
    r.fileText = r'.fileText ∧ r.display = r'.display ∧ Alike r r' := by
  intro r r'
  have hfile : r.fileText = r'.fileText := by decide +kernel
  have htext : r.display = r'.display := by decide +kernel
  exact ⟨hfile, htext, (report_text_unambiguous hfile).1.mp htext⟩

/-- Where the files differ, one text may stand for two reports. -/
example : (FatalReport.mk (some (Utf8.ofString "a")) 1 0
      (some (Utf8.ofString "(2): DeviceLost: m"))).display =
    (FatalReport.mk (some (Utf8.ofString "a(1): DebugCheck: ")) 2 4
      (some (Utf8.ofString "m"))).display := by
  decide +kernel

end FatalReport

end ConsoleRelay
