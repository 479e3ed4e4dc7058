import ConsoleRelay.Format.Rendering
import ConsoleRelay.Proofs.Utf8.Encoding

/-!
Formats put one behind the other.

A format that ends between directives, with known conversions only, leaves no trace in what is read
after it, and rendering takes its arguments from the front. Such formats, their arguments and their
texts are joined piece by piece; literal bytes and directives without flags, width and precision are
the pieces.
-/
namespace ConsoleRelay.Format
open Utf8

/-- Read the bytes of a format without ending it. -/
def scan : Reading → Bytes → Except Fault (List Item × Reading)
  | r, [] => .ok ([], r)
  | r, b :: bs => do
    let (items, r') ← advance r b
    let (rest, last) ← scan r' bs
    return (items ++ rest, last)

/-- Render items and keep the arguments that are left. -/
def renderFront : List Item → List Argument → Except Fault (Bytes × List Argument)
  | [], args => .ok ([], args)
  | item :: items, args => do
    let (text, rest) ← renderItem item args
    let (more, last) ← renderFront items rest
    return (text ++ more, last)

theorem readFrom_eq_scan (r : Reading) (bs : Bytes) : readFrom r bs = do
    let (items, last) ← scan r bs
    let rest ← close last
    return items ++ rest := by
  induction bs generalizing r with
  | nil =>
    show close r = close r >>= fun rest => pure ([] ++ rest)
    simp
  | cons b bs ih => simp [readFrom, scan, ih, -bind_pure_comp]

theorem scan_append (r : Reading) (as bs : Bytes) : scan r (as ++ bs) = do
    let (items, mid) ← scan r as
    let (rest, last) ← scan mid bs
    return (items ++ rest, last) := by
  induction as generalizing r with
  | nil =>
    show scan r bs = scan r bs >>= fun p => pure ([] ++ p.1, p.2)
    simp
  | cons a as ih => simp [scan, ih]

theorem renderItems_eq_renderFront (items : List Item) (args : List Argument) :
    renderItems items args = Prod.fst <$> renderFront items args := by
  induction items generalizing args with
  | nil => rfl
  | cons item items ih => simp [renderItems, renderFront, ih]

theorem renderFront_append (items more : List Item) (args : List Argument) :
    renderFront (items ++ more) args = do
      let (text, mid) ← renderFront items args
      let (rest, last) ← renderFront more mid
      return (text ++ rest, last) := by
  induction items generalizing args with
  | nil =>
    show renderFront more args = renderFront more args >>= fun p => pure ([] ++ p.1, p.2)
    simp
  | cons item items ih => simp [renderFront, ih]

/-- What a format is rendered to once it has been read to an end between directives. -/
theorem render_of_scan {format : Bytes} {items : List Item} {r : Reading}
    (hscan : scan {} format = .ok (items, r)) (hopen : r.openDirective = none)
    (args : List Argument) : render format args = renderFront items args >>= fun p =>
      if p.1.length ≤ maxCount then .ok p.1 else .error .tooLong := by
  have hread : read format = .ok items := by
    rw [read, readFrom_eq_scan, hscan]
    change (close r >>= fun rest => pure (items ++ rest)) = _
    rw [close, hopen]
    exact congrArg Except.ok (List.append_nil items)
  rw [render, hread]
  change (renderItems items args >>= fun text => _) = _
  rw [renderItems_eq_renderFront, bind_map_left]
  rfl

/-- A format that stands by itself renders a text: it leaves no directive open and no leniency
behind, and takes just these arguments, whatever follows them. -/
def Yields (format : Bytes) (args : List Argument) (text : Bytes) : Prop :=
  ∃ items, scan {} format = .ok (items, {}) ∧
    ∀ more, renderFront items (args ++ more) = .ok (text, more)

theorem Yields.nil : Yields [] [] [] := ⟨[], rfl, fun _ => rfl⟩

theorem Yields.append {f g : Bytes} {a b : List Argument} {x y : Bytes} (hf : Yields f a x)
    (hg : Yields g b y) : Yields (f ++ g) (a ++ b) (x ++ y) := by
  obtain ⟨is, hscan, hrender⟩ := hf
  obtain ⟨js, hscan', hrender'⟩ := hg
  refine ⟨is ++ js, ?_, fun more => ?_⟩
  · rw [scan_append, hscan]
    change (scan {} g >>= fun p => pure (is ++ p.1, p.2)) = _
    rw [hscan']
    rfl
  · rw [renderFront_append, List.append_assoc, hrender]
    change (renderFront js (b ++ more) >>= fun p => pure (x ++ p.1, p.2)) = _
    rw [hrender']
    rfl

theorem Yields.render {f : Bytes} {a : List Argument} {x : Bytes} (h : Yields f a x)
    (hlen : x.length ≤ maxCount) : render f a = .ok x := by
  obtain ⟨items, hscan, hrender⟩ := h
  have hfront := hrender []
  rw [List.append_nil] at hfront
  rw [render_of_scan hscan rfl, hfront]
  exact if_pos hlen

theorem yields_literal {b : UInt8} (hb : b ≠ 0x25) : Yields [b] [] [b] := by
  refine ⟨[.literal b], ?_, fun _ => rfl⟩
  simp only [scan, advance, beq_iff_eq, hb, ↓reduceIte]
  rfl

theorem yields_literals {bs : Bytes} (hbs : 0x25 ∉ bs) : Yields bs [] bs := by
  induction bs with
  | nil => exact .nil
  | cons b bs ih =>
    rw [List.mem_cons, not_or] at hbs
    exact (yields_literal (Ne.symm hbs.1)).append (ih hbs.2)

/-- The layout of a directive without flags, width and precision. -/
def Layout.plain : Layout := ⟨{}, 0, none⟩

theorem Layout.pad_plain (body : Bytes) : plain.pad body = body := by
  simp [plain, pad, blanks]

theorem Layout.integer_plain (sign : Text) (n : Nat) :
    plain.integer .decimal sign n = ascii (sign ++ decimal n) := by
  have hmark : baseMark .decimal plain.flags.alternate n = [] := rfl
  have hdigits : magnitude .decimal plain.precision plain.flags.alternate n = decimal n := by
    simp [magnitude, plain, zeroFill]
  rw [integer, hmark, hdigits, List.append_nil]
  exact pad_plain _

/-- A directive without flags, width and precision renders its conversion. -/
theorem yields_directive {format text : Bytes} {size : Size} {c : Conversion}
    {args : List Argument}
    (hscan : scan {} format = .ok ([.directive { size := size, conversion := c }], {}))
    (hrender : ∀ more, renderConversion .plain { size := size, conversion := c } (args ++ more) =
      .ok (text, more)) : Yields format args text := by
  refine ⟨_, hscan, fun more => ?_⟩
  change (renderConversion .plain { size := size, conversion := c } (args ++ more) >>=
    fun p => pure (p.1 ++ [], p.2)) = _
  rw [hrender]
  exact congrArg (fun t => Except.ok (t, more)) (List.append_nil text)

theorem yields_percent : Yields [0x25, 0x25] [] [0x25] :=
  yields_directive rfl fun _ => rfl

theorem yields_string (s : Bytes) : Yields (ofString "%s") [.string (some s)] s :=
  yields_directive rfl fun more =>
    congrArg (fun t => Except.ok (t, more)) (Layout.pad_plain s)

theorem signedBits_toUInt64 (n : Int64) : signedBits 64 n.toUInt64 = n.toInt := by
  have hlow : lowBits 64 n.toUInt64 = n.toBitVec.toNat :=
    Nat.mod_eq_of_lt n.toUInt64.toNat_lt
  rw [signedBits, hlow, ← Int64.toInt_toBitVec, BitVec.toInt_eq_toNat_cond]
  simp only [Nat.pow_eq]
  split <;> split <;> omega

theorem ascii_eq_encode {t : Text} (ht : ∀ c ∈ t, c.toNat < 0x80) : ascii t = encode t := by
  induction t with
  | nil => rfl
  | cons c t ih =>
    rw [List.forall_mem_cons] at ht
    rw [encode_cons, encodeChar_ascii ht.1, ← ih ht.2]
    rfl

/-- A printed integer has digits and a minus sign only. -/
theorem toNat_of_mem_signedDecimal {c : Char} {i : Int} (h : c ∈ signedDecimal i) :
    0x2D ≤ c.toNat ∧ c.toNat ≤ 0x39 := by
  have hdigit {n : Nat} (hc : c ∈ decimal n) : 0x2D ≤ c.toNat ∧ c.toNat ≤ 0x39 := by
    have hd : c.isDigit = true := Nat.isDigit_of_mem_toDigits (by decide) (by decide) hc
    have hrange := Char.isDigit_iff_toNat.mp hd
    exact ⟨Nat.le_trans (by decide) hrange.1, hrange.2⟩
  cases i with
  | ofNat n => exact hdigit h
  | negSucc n =>
    rcases List.mem_cons.mp h with rfl | h
    · decide
    · exact hdigit h

theorem sign_append_decimal (i : Int) :
    Layout.plain.flags.sign (decide (i < 0)) ++ decimal i.natAbs = signedDecimal i := by
  cases i with
  | ofNat n => rfl
  | negSucc n =>
    have hneg : decide (Int.negSucc n < 0) = true := decide_eq_true (Int.negSucc_lt_zero n)
    rw [hneg]
    rfl

theorem yields_number (n : Int64) :
    Yields (ofString "%lld") [.word n.toUInt64] (encode (signedDecimal n.toInt)) := by
  have hscan : scan {} (ofString "%lld") =
      .ok ([.directive { size := .long, conversion := .signed }], {}) := rfl
  have hascii : ∀ c ∈ signedDecimal n.toInt, c.toNat < 0x80 := fun c hc =>
    Nat.lt_of_le_of_lt (toNat_of_mem_signedDecimal hc).2 (by decide)
  apply yields_directive hscan
  intro more
  have hbits : signedBits Size.long.bits n.toUInt64 = n.toInt := signedBits_toUInt64 n
  change Except.ok (Layout.plain.integer .decimal _ _, more) = _
  rw [hbits, Layout.integer_plain, sign_append_decimal, ascii_eq_encode hascii]

end ConsoleRelay.Format
