import ConsoleRelay.Proofs.Format.Composition
import Mathlib.Data.Fintype.Basic
import Mathlib.Tactic.FinCases

/-!
Formats as they are written.

A written format is a list of segments: literal bytes and directives, each with its flags, width,
precision, length modifier and conversion. From the syntax alone it is known which arguments a
segment needs. The reader takes each directive for what it was written as and is then where it
started, so that no segment has an influence on the next; a number out of range or an end inside a
directive is refused, whatever stands around it.
-/
namespace ConsoleRelay.Format

/-! Syntax -/

/-- A flag as it is written. -/
inductive Mark where
  | alternate
  | plus
  | blank
  | left
  | zero
  deriving DecidableEq, Repr

def Mark.byte : Mark → UInt8
  | .alternate => 0x23
  | .plus => 0x2B
  | .blank => 0x20
  | .left => 0x2D
  | .zero => 0x30

/-- The flags with one more of them set. -/
def Mark.on (f : Flags) : Mark → Flags
  | .alternate => { f with alternate := true }
  | .plus => { f with plus := true }
  | .blank => { f with blank := true }
  | .left => { f with left := true }
  | .zero => { f with zero := true }

def digitByte (k : Fin 10) : UInt8 := UInt8.ofNat (0x30 + k)

/-- The number that digits continue. -/
def numeral (n : Nat) (ks : List (Fin 10)) : Nat := ks.foldl (fun n k => n * 10 + k.val) n

/-- A width as it is written. A zero in front of it would be a flag. -/
inductive WrittenWidth where
  | absent
  | argument
  | number (first : Fin 10) (nonzero : first ≠ 0) (more : List (Fin 10))

def WrittenWidth.bytes : WrittenWidth → Bytes
  | .absent => []
  | .argument => [0x2A]
  | .number first _ more => digitByte first :: more.map digitByte

def WrittenWidth.extent : WrittenWidth → Extent
  | .absent => .absent
  | .argument => .argument
  | .number first _ more => .fixed (numeral first more)

/-- A precision as it is written. Its point may stand alone. -/
inductive WrittenPrecision where
  | absent
  | argument
  | number (digits : List (Fin 10))

def WrittenPrecision.bytes : WrittenPrecision → Bytes
  | .absent => []
  | .argument => [0x2E, 0x2A]
  | .number digits => 0x2E :: digits.map digitByte

def WrittenPrecision.extent : WrittenPrecision → Extent
  | .absent => .absent
  | .argument => .argument
  | .number digits => .fixed (numeral 0 digits)

/-- A length modifier as it is written. -/
inductive Modifier where
  | none
  | h
  | hh
  | l
  | ll
  | j
  | z
  | t
  deriving DecidableEq, Repr

def Modifier.bytes : Modifier → Bytes
  | .none => []
  | .h => [0x68]
  | .hh => [0x68, 0x68]
  | .l => [0x6C]
  | .ll => [0x6C, 0x6C]
  | .j => [0x6A]
  | .z => [0x7A]
  | .t => [0x74]

def Modifier.size : Modifier → Size
  | .none => .plain
  | .h => .short
  | .hh => .byte
  | .l | .ll | .j | .z | .t => .long

/-- A directive without its conversion. -/
structure Opening where
  marks : List Mark
  width : WrittenWidth
  precision : WrittenPrecision
  modifier : Modifier

/-- A fixed extent that is not above the largest count. -/
def Extent.InRange : Extent → Prop
  | .fixed n => n ≤ maxCount
  | _ => True

namespace Opening

def bytes (o : Opening) : Bytes :=
  0x25 :: (o.marks.map Mark.byte ++ (o.width.bytes ++ (o.precision.bytes ++ o.modifier.bytes)))

def flags (o : Opening) : Flags := o.marks.foldl Mark.on {}

def directive (o : Opening) (c : Conversion) : Directive :=
  { flags := o.flags, width := o.width.extent, precision := o.precision.extent,
    size := o.modifier.size, conversion := c }

def InRange (o : Opening) : Prop := o.width.extent.InRange ∧ o.precision.extent.InRange

end Opening

/-- A part of a format as it is written: a literal byte, or a directive with one of the known
conversions, of which the percent sign is one. -/
inductive Segment where
  | literal (byte : UInt8) (ordinary : byte ≠ 0x25)
  | directive (o : Opening) (letter : Char) (c : Conversion) (known : (letter, c) ∈ conversions)

/-- What an argument is. -/
inductive Kind where
  | word
  | real
  | string
  deriving DecidableEq, Repr

def Argument.kind : Argument → Kind
  | .word _ => .word
  | .real _ => .real
  | .string _ => .string

def Extent.needs : Extent → List Kind
  | .argument => [.word]
  | _ => []

/-- The argument a conversion writes. -/
def Conversion.needs : Conversion → List Kind
  | .signed | .unsigned _ | .char | .pointer => [.word]
  | .string => [.string]
  | .real .. => [.real]
  | .percent | .unknown _ | .cutOff => []

namespace Segment

def bytes : Segment → Bytes
  | .literal b _ => [b]
  | .directive o letter _ _ => o.bytes ++ [UInt8.ofNat letter.toNat]

/-- The kinds of the arguments a segment takes, in order. -/
def needs : Segment → List Kind
  | .literal .. => []
  | .directive o _ c _ => o.width.extent.needs ++ (o.precision.extent.needs ++ c.needs)

def item : Segment → Item
  | .literal b _ => .literal b
  | .directive o _ c _ => .directive (o.directive c)

def InRange : Segment → Prop
  | .literal .. => True
  | .directive o _ _ _ => o.InRange

end Segment

/-- The bytes of a format. -/
def written (segments : List Segment) : Bytes := segments.flatMap Segment.bytes

/-- The beginnings of formats that cannot be rendered: a directive that the end of the format cuts
off, or one with a number out of range and anything behind it. A letter that is no conversion is not
among them, since a directive with one is copied. -/
inductive Malformed : Bytes → Prop where
  | cutOff (o : Opening) : Malformed o.bytes
  | oversize (o : Opening) (large : ¬ o.InRange) (rest : Bytes) : Malformed (o.bytes ++ rest)

/-! Reading -/

/-- The state of reading inside a directive while all conversions were known. -/
def opened (d : Directive) (s : Stage) : Reading := ⟨false, some (d, s)⟩

theorem scan_cons_of_advance {r r' : Reading} {b : UInt8} (h : advance r b = .ok ([], r'))
    (bs : Bytes) : scan r (b :: bs) = scan r' bs := by
  rw [scan, h]
  change (scan r' bs >>= fun p => pure ([] ++ p.1, p.2)) = _
  simp

theorem scan_cons_congr {r r' : Reading} {b : UInt8} (h : advance r b = advance r' b)
    (bs : Bytes) : scan r (b :: bs) = scan r' (b :: bs) := by
  rw [scan, scan, h]

theorem readFrom_congr {r r' : Reading} {bs bs' : Bytes} (h : scan r bs = scan r' bs') :
    readFrom r bs = readFrom r' bs' := by
  rw [readFrom_eq_scan, readFrom_eq_scan, h]

theorem flag?_byte (d : Directive) (m : Mark) :
    d.flag? m.byte = some { d with flags := m.on d.flags } := by
  cases m <;> rfl

theorem digit?_digitByte (k : Fin 10) : digit? (digitByte k) = some k.val := by
  revert k
  decide

theorem flag?_digitByte {k : Fin 10} (hk : k ≠ 0) (d : Directive) :
    d.flag? (digitByte k) = none := by
  fin_cases k
  · exact absurd rfl hk
  all_goals rfl

theorem digitByte_ne_star (k : Fin 10) : (digitByte k == 0x2A) = false := by
  revert k
  decide

theorem scan_marks (f : Flags) (marks : List Mark) (bs : Bytes) :
    scan (opened { flags := f } .flags) (marks.map Mark.byte ++ bs) =
      scan (opened { flags := marks.foldl Mark.on f } .flags) bs := by
  induction marks generalizing f with
  | nil => rfl
  | cons m marks ih =>
    have hstep : advance (opened { flags := f } .flags) m.byte =
        .ok ([], opened { flags := m.on f } .flags) := by
      simp only [advance, opened, inside, flag?_byte]
    rw [List.map_cons, List.cons_append, scan_cons_of_advance hstep, ih, List.foldl_cons]

/-- A stage that counts digits: each one continues the number, and a number that has become too
large is refused with the byte behind it. -/
structure Counts (d : Directive) (stage : Nat → Stage) : Prop where
  digit : ∀ n b k, digit? b = some k →
    advance (opened d (stage n)) b = .ok ([], opened d (stage (n * 10 + k)))
  large : ∀ n b, digit? b = none → maxCount < n → ∃ e, advance (opened d (stage n)) b = .error e

theorem extentOf_of_le {n : Nat} (h : n ≤ maxCount) (lenient : Bool) :
    extentOf lenient n = .ok (.fixed n) := if_pos h

theorem extentOf_of_lt {n : Nat} (h : maxCount < n) : extentOf false n = .error .numberTooLarge :=
  if_neg (Nat.not_le.mpr h)

theorem counts_digits (d : Directive) {stage : Nat → Stage}
    (hstage : stage = .widthDigits ∨ stage = .precisionDigits) : Counts d stage where
  digit n b k hb := by
    rcases hstage with rfl | rfl
    all_goals simp only [advance, opened, inside, hb]
  large n b hb hn := by
    rcases hstage with rfl | rfl
    all_goals
      simp only [advance, opened, inside, hb, extentOf_of_lt hn]
      exact ⟨_, rfl⟩

theorem Counts.scan_digits {d : Directive} {stage : Nat → Stage} (h : Counts d stage) (n : Nat)
    (ks : List (Fin 10)) (bs : Bytes) :
    scan (opened d (stage n)) (ks.map digitByte ++ bs) =
      scan (opened d (stage (numeral n ks))) bs := by
  induction ks generalizing n with
  | nil => rfl
  | cons k ks ih =>
    have hstep := h.digit n _ _ (digit?_digitByte k)
    rw [List.map_cons, List.cons_append, scan_cons_of_advance hstep, ih]
    rfl

/-- Once a number is too large, nothing that follows makes up for it. -/
theorem Counts.readFrom_large {d : Directive} {stage : Nat → Stage} (h : Counts d stage) {n : Nat}
    (hn : maxCount < n) (bs : Bytes) : ∃ e, readFrom (opened d (stage n)) bs = .error e := by
  induction bs generalizing n with
  | nil => exact ⟨.incomplete, rfl⟩
  | cons b bs ih =>
    cases hb : digit? b with
    | some k =>
      rw [readFrom_congr (scan_cons_of_advance (h.digit n b k hb) bs)]
      exact ih (by omega)
    | none =>
      obtain ⟨e, he⟩ := h.large n b hb hn
      refine ⟨e, ?_⟩
      rw [readFrom, he]
      rfl

/-- A byte that can follow a width: neither a flag nor a star nor a digit. -/
structure EndsWidth (b : UInt8) : Prop where
  flag : ∀ d : Directive, d.flag? b = none
  star : (b == 0x2A) = false
  digit : digit? b = none

theorem endsWidth_point : EndsWidth 0x2E := ⟨fun _ => rfl, rfl, rfl⟩

theorem scan_widthNumber (f : Flags) {first : Fin 10} (nonzero : first ≠ 0) (more : List (Fin 10))
    (bs : Bytes) :
    scan (opened { flags := f } .flags) ((WrittenWidth.number first nonzero more).bytes ++ bs) =
      scan (opened { flags := f } (.widthDigits (numeral first more))) bs := by
  have hfirst : advance (opened { flags := f } .flags) (digitByte first) =
      .ok ([], opened { flags := f } (.widthDigits first)) := by
    simp only [advance, opened, inside, flag?_digitByte nonzero, digitByte_ne_star,
      digit?_digitByte, Bool.false_eq_true, ↓reduceIte]
  rw [WrittenWidth.bytes, List.cons_append, scan_cons_of_advance hfirst]
  exact (counts_digits _ (.inl rfl)).scan_digits first more bs

/-- Behind a width, whatever was written of it, the reader stands as if the width were complete. -/
theorem scan_width (f : Flags) {w : WrittenWidth} (hw : w.extent.InRange) {b : UInt8}
    (hb : EndsWidth b) (bs : Bytes) :
    scan (opened { flags := f } .flags) (w.bytes ++ b :: bs) =
      scan (opened { flags := f, width := w.extent } .widthDone) (b :: bs) := by
  cases w with
  | absent =>
    apply scan_cons_congr
    simp only [advance, opened, inside, hb.flag, hb.star, hb.digit, WrittenWidth.extent]
    rfl
  | argument => exact scan_cons_of_advance rfl _
  | number first nonzero more =>
    rw [scan_widthNumber]
    apply scan_cons_congr
    simp only [advance, opened, inside, hb.digit, extentOf_of_le hw, WrittenWidth.extent]
    rfl

/-- A byte that can follow a precision: one that can follow a width, and no point. -/
structure EndsPrecision (b : UInt8) : Prop extends EndsWidth b where
  point : (b == 0x2E) = false

theorem scan_point (f : Flags) (w : Extent) (bs : Bytes) :
    scan (opened { flags := f, width := w } .widthDone) (0x2E :: bs) =
      scan (opened { flags := f, width := w, precision := .fixed 0 } .point) bs :=
  scan_cons_of_advance rfl bs

theorem scan_precisionNumber (f : Flags) (w : Extent) (k : Fin 10) (ks : List (Fin 10))
    (bs : Bytes) :
    scan (opened { flags := f, width := w } .widthDone)
        ((WrittenPrecision.number (k :: ks)).bytes ++ bs) =
      scan (opened { flags := f, width := w, precision := .fixed 0 }
        (.precisionDigits (numeral 0 (k :: ks)))) bs := by
  have hfirst : advance (opened { flags := f, width := w, precision := .fixed 0 } .point)
      (digitByte k) =
      .ok ([], opened { flags := f, width := w, precision := .fixed 0 } (.precisionDigits k)) := by
    simp only [advance, opened, inside, digitByte_ne_star, digit?_digitByte, Bool.false_eq_true,
      ↓reduceIte]
  have hvalue : numeral 0 (k :: ks) = numeral k ks := by simp [numeral]
  rw [WrittenPrecision.bytes, List.cons_append, scan_point, List.map_cons, List.cons_append,
    scan_cons_of_advance hfirst, hvalue]
  exact (counts_digits _ (.inr rfl)).scan_digits k ks bs

theorem scan_precision (f : Flags) (w : Extent) {p : WrittenPrecision} (hp : p.extent.InRange)
    {b : UInt8} (hb : EndsPrecision b) (bs : Bytes) :
    scan (opened { flags := f, width := w } .widthDone) (p.bytes ++ b :: bs) =
      scan (opened { flags := f, width := w, precision := p.extent } .precisionDone) (b :: bs) := by
  cases p with
  | absent =>
    apply scan_cons_congr
    simp only [advance, opened, inside, pointOrSize, hb.point, WrittenPrecision.extent]
    rfl
  | argument => exact (scan_point f w _).trans (scan_cons_of_advance rfl _)
  | number digits =>
    cases digits with
    | nil =>
      apply (scan_point f w _).trans
      apply scan_cons_congr
      simp only [advance, opened, inside, hb.star, hb.digit, WrittenPrecision.extent]
      rfl
    | cons k ks =>
      rw [scan_precisionNumber]
      apply scan_cons_congr
      simp only [advance, opened, inside, hb.digit, extentOf_of_le hp, WrittenPrecision.extent]
      rfl

/-- The byte of a conversion: it continues nothing that stands in front of it, is no length modifier
and names a known conversion. -/
structure Concludes (b : UInt8) (c : Conversion) : Prop extends EndsPrecision b where
  ends : ∀ r d, sizeOrEnd r d b = conclude r d b
  notShort : (b == 0x68) = false
  notLong : (b == 0x6C) = false
  names : Conversion.ofByte b = c
  known : c.isKnown = true

theorem concludes_of_mem : ∀ p ∈ conversions, Concludes (UInt8.ofNat p.1.toNat) p.2 := by
  simp only [conversions, List.forall_mem_cons, List.not_mem_nil, false_imp_iff, implies_true,
    and_true]
  and_intros <;>
    exact ⟨⟨⟨fun _ => rfl, rfl, rfl⟩, rfl⟩, fun _ _ => rfl, rfl, rfl, rfl, rfl⟩

theorem Concludes.conclude_eq {b : UInt8} {c : Conversion} (h : Concludes b c) (d : Directive)
    (s : Stage) :
    conclude (opened d s) d b =
      ([.directive { d with conversion := c, lenient := false }], {}) := by
  simp only [conclude, opened, h.names, h.known]
  rfl

theorem scan_concluded {r : Reading} {b : UInt8} {item : Item}
    (h : advance r b = .ok ([item], {})) : scan r [b] = .ok ([item], {}) := by
  rw [scan, h]
  rfl

/-- A length modifier and the conversion end a directive. -/
theorem scan_modifier {d : Directive} (hd : d.size = .plain) (m : Modifier) {b : UInt8}
    {c : Conversion} (hb : Concludes b c) :
    scan (opened d .precisionDone) (m.bytes ++ [b]) =
      .ok ([.directive { d with size := m.size, conversion := c, lenient := false }], {}) := by
  have hend {d : Directive} {s : Stage}
      (h : advance (opened d s) b = .ok (conclude (opened d s) d b)) :
      scan (opened d s) [b] =
        .ok ([.directive { d with conversion := c, lenient := false }], {}) := by
    apply scan_concluded
    rw [h, hb.conclude_eq]
  have hshort (d : Directive) :
      advance (opened d .half) b = .ok (conclude (opened d .half) d b) := by
    simp only [advance, opened, inside, hb.notShort]
    rfl
  have hlong (d : Directive) :
      advance (opened d .long) b = .ok (conclude (opened d .long) d b) := by
    simp only [advance, opened, inside, hb.notLong]
    rfl
  have hplain : advance (opened d .precisionDone) b =
      .ok (conclude (opened d .precisionDone) d b) := by
    simp only [advance, opened, inside, hb.ends]
  cases m with
  | none =>
    rw [Modifier.size, ← hd]
    exact hend hplain
  | h => exact (scan_cons_of_advance rfl _).trans (hend (hshort _))
  | hh =>
    exact (scan_cons_of_advance rfl _).trans ((scan_cons_of_advance rfl _).trans (hend rfl))
  | l => exact (scan_cons_of_advance rfl _).trans (hend (hlong _))
  | ll =>
    exact (scan_cons_of_advance rfl _).trans ((scan_cons_of_advance rfl _).trans (hend rfl))
  | j | z | t => exact (scan_cons_of_advance rfl _).trans (hend rfl)

/-- What follows a width is a point or what may follow a precision. -/
theorem exists_endsWidth (p : WrittenPrecision) {b : UInt8} (hb : EndsPrecision b) (bs : Bytes) :
    ∃ b' bs', p.bytes ++ b :: bs = b' :: bs' ∧ EndsWidth b' := by
  cases p with
  | absent => exact ⟨b, bs, rfl, hb.toEndsWidth⟩
  | argument | number => exact ⟨_, _, rfl, endsWidth_point⟩

theorem scan_opening (o : Opening) (bs : Bytes) :
    scan {} (o.bytes ++ bs) = scan (opened { flags := o.flags } .flags)
      (o.width.bytes ++ (o.precision.bytes ++ (o.modifier.bytes ++ bs))) := by
  have hstart : advance {} 0x25 = .ok ([], opened {} .flags) := rfl
  rw [Opening.bytes, List.cons_append, scan_cons_of_advance hstart]
  simp only [List.append_assoc]
  exact scan_marks {} o.marks _

theorem scan_extents {o : Opening} (ho : o.InRange) {b : UInt8} (hb : EndsPrecision b)
    (bs : Bytes) :
    scan (opened { flags := o.flags } .flags) (o.width.bytes ++ (o.precision.bytes ++ b :: bs)) =
      scan (opened { flags := o.flags, width := o.width.extent, precision := o.precision.extent }
        .precisionDone) (b :: bs) := by
  obtain ⟨b', bs', hprecision, hb'⟩ := exists_endsWidth o.precision hb bs
  rw [hprecision, scan_width o.flags ho.1 hb', ← hprecision, scan_precision o.flags _ ho.2 hb]

/-- A directive is read as what it was written for, and nothing of it is left behind. -/
theorem scan_directive {o : Opening} (ho : o.InRange) {b : UInt8} {c : Conversion}
    (hb : Concludes b c) : scan {} (o.bytes ++ [b]) = .ok ([.directive (o.directive c)], {}) := by
  have hnext : ∃ b' bs', o.modifier.bytes ++ [b] = b' :: bs' ∧ EndsPrecision b' := by
    cases o.modifier with
    | none => exact ⟨b, [], rfl, hb.toEndsPrecision⟩
    | h | hh | l | ll | j | z | t => exact ⟨_, _, rfl, ⟨⟨fun _ => rfl, rfl, rfl⟩, rfl⟩⟩
  obtain ⟨b', bs', hmodifier, hb'⟩ := hnext
  rw [scan_opening, hmodifier, scan_extents ho hb', ← hmodifier]
  exact scan_modifier rfl o.modifier hb

/-- Without its conversion a directive stays open. -/
theorem scan_cutOff {o : Opening} (ho : o.InRange) :
    ∃ d s, scan {} o.bytes = .ok ([], opened d s) := by
  have hscan := scan_opening o []
  simp only [List.append_nil] at hscan
  rw [hscan]
  cases hm : o.modifier with
  | h | hh | l | ll | j | z | t =>
    rw [Modifier.bytes, scan_extents ho ⟨⟨fun _ => rfl, rfl, rfl⟩, rfl⟩]
    exact ⟨_, _, rfl⟩
  | none =>
    rw [Modifier.bytes, List.append_nil]
    cases hp : o.precision with
    | absent =>
      rw [WrittenPrecision.bytes, List.append_nil]
      cases hw : o.width with
      | absent | argument => exact ⟨_, _, rfl⟩
      | number first nonzero more =>
        have hnumber := scan_widthNumber o.flags nonzero more []
        rw [List.append_nil] at hnumber
        exact ⟨_, _, hnumber⟩
    | argument =>
      exact ⟨_, _, scan_width o.flags ho.1 endsWidth_point _⟩
    | number digits =>
      rw [WrittenPrecision.bytes, scan_width o.flags ho.1 endsWidth_point]
      cases digits with
      | nil => exact ⟨_, _, rfl⟩
      | cons k ks =>
        have hnumber := scan_precisionNumber o.flags o.width.extent k ks []
        rw [List.append_nil] at hnumber
        exact ⟨_, _, hnumber⟩

/-- A number out of range is refused. -/
theorem read_oversize {o : Opening} (ho : ¬ o.InRange) (rest : Bytes) :
    ∃ e, read (o.bytes ++ rest) = .error e := by
  obtain ⟨marks, width, precision, modifier⟩ := o
  rw [read, readFrom_congr (scan_opening _ rest)]
  by_cases hw : width.extent.InRange
  · cases precision with
    | absent | argument => exact absurd ⟨hw, trivial⟩ ho
    | number digits =>
      have hp : maxCount < numeral 0 digits := Nat.lt_of_not_le fun h => ho ⟨hw, h⟩
      cases digits with
      | nil => exact absurd hp (Nat.not_lt_zero _)
      | cons k ks =>
        have hscan := (scan_width (marks.foldl Mark.on {}) hw endsWidth_point _).trans
          (scan_precisionNumber _ _ k ks (modifier.bytes ++ rest))
        exact (readFrom_congr hscan).symm ▸ (counts_digits _ (.inr rfl)).readFrom_large hp _
  · cases width with
    | absent | argument => exact absurd trivial hw
    | number first nonzero more =>
      have hlarge : maxCount < numeral first more := Nat.lt_of_not_le hw
      rw [readFrom_congr (scan_widthNumber _ nonzero more _)]
      exact (counts_digits _ (.inl rfl)).readFrom_large hlarge _

theorem Malformed.read {bs : Bytes} (h : Malformed bs) : ∃ e, read bs = .error e := by
  cases h with
  | oversize o large rest => exact read_oversize large rest
  | cutOff o =>
    by_cases ho : o.InRange
    · obtain ⟨d, s, hscan⟩ := scan_cutOff ho
      refine ⟨.incomplete, ?_⟩
      rw [Format.read, readFrom_eq_scan, hscan]
      rfl
    · have hread := read_oversize ho []
      rwa [List.append_nil] at hread

theorem Segment.scan_bytes {s : Segment} (hs : s.InRange) :
    scan {} s.bytes = .ok ([s.item], {}) := by
  cases s with
  | literal b ordinary =>
    apply scan_concluded
    simp only [advance, beq_iff_eq, ordinary, ↓reduceIte, item]
  | directive o letter c known => exact scan_directive hs (concludes_of_mem _ known)

/-- What is read after a format that ends between directives, after known conversions only, is read
as if it stood alone. -/
theorem read_append_of_scan {f : Bytes} {items : List Item} (hf : scan {} f = .ok (items, {}))
    (g : Bytes) : read (f ++ g) = (items ++ ·) <$> read g := by
  rw [read, readFrom_eq_scan, scan_append, hf]
  change ((scan {} g >>= fun p => pure (items ++ p.1, p.2)) >>= _) = _
  rw [read, readFrom_eq_scan]
  simp only [bind_assoc, pure_bind, map_bind, List.append_assoc]
  rfl

/-- A format is read segment by segment, or some number in it is refused, whatever follows. -/
theorem scan_written (segments : List Segment) :
    scan {} (written segments) = .ok (segments.map Segment.item, {}) ∨
      ∀ rest, ∃ e, read (written segments ++ rest) = .error e := by
  induction segments with
  | nil => exact .inl rfl
  | cons s segments ih =>
    rw [written, List.flatMap_cons, ← written]
    by_cases hs : s.InRange
    · rcases ih with ih | ih
      · left
        rw [scan_append, Segment.scan_bytes hs]
        change (scan {} (written segments) >>= fun p => pure ([s.item] ++ p.1, p.2)) = _
        rw [ih]
        rfl
      · right
        intro rest
        obtain ⟨e, he⟩ := ih rest
        refine ⟨e, ?_⟩
        rw [List.append_assoc, read_append_of_scan (Segment.scan_bytes hs), he]
        rfl
    · right
      cases s with
      | literal => exact absurd trivial hs
      | directive o letter c known =>
        intro rest
        rw [Segment.bytes, List.append_assoc, List.append_assoc]
        exact read_oversize hs _

end ConsoleRelay.Format
