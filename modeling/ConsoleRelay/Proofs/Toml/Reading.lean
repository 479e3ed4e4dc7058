import ConsoleRelay.Proofs.Toml.Tables
import Mathlib.Data.List.TakeWhile

/-!
Documents read back as they were written.

A document here has one line for each key, with a string between double quotes or a number in
decimal behind the equals sign. The reader gives every value back, whatever characters the strings
hold, and takes the lines one by one.
-/
namespace ConsoleRelay.Toml

/-! Strings -/

/-- The characters that a string between double quotes cannot hold as they are: the quote, the
backslash and the control characters. -/
def isReserved (c : Char) : Bool := c == '\x22' || c == '\\' || c.toNat < 0x20 || c.toNat == 0x7F

/-- A number with four hexadecimal digits at least. -/
def fourHex (n : Nat) : Text := List.replicate (4 - (hex n).length) '0' ++ hex n

/-- Four hexadecimal digits, with letters of either case, that stand for a character. -/
def FourDigits (c : Char) (digits : Text) : Prop := digits.map Char.toLower = fourHex c.toNat

/-- A text as it is written between double quotes: reserved characters by four digits, all others as
they are. -/
inductive Spelled : Text → Text → Prop where
  | nil : Spelled [] []
  | plain {c : Char} {t w : Text} : isReserved c = false → Spelled t w → Spelled (c :: t) (c :: w)
  | escaped {c : Char} {digits t w : Text} : isReserved c = true → FourDigits c digits →
      Spelled t w → Spelled (c :: t) ('\\' :: 'u' :: (digits ++ w))

theorem toLower_of_le {c : Char} (h : 0x80 ≤ c.toNat) : c.toLower = c := by
  apply dif_neg
  rintro ⟨-, hz⟩
  have hz' : c.toNat ≤ 90 := hz
  omega

theorem hexValue?_toLower (c : Char) : hexValue? c.toLower = hexValue? c := by
  by_cases hc : c.toNat < 0x80
  · have hall : ∀ n < 0x80, hexValue? (Char.ofNat n).toLower = hexValue? (Char.ofNat n) := by
      decide +kernel
    rw [← Char.ofNat_toNat c]
    exact hall _ hc
  · rw [toLower_of_le (Nat.le_of_not_lt hc)]

theorem scalarOf?_toLower (digits : Text) :
    scalarOf? (digits.map Char.toLower) = scalarOf? digits := by
  have hvalues : hexValue? ∘ Char.toLower = hexValue? := funext hexValue?_toLower
  rw [scalarOf?, scalarOf?, List.mapM_map, hvalues]

/-- All characters that may be reserved are given back by their digits. -/
theorem scalarOf?_fourHex : ∀ n < 0x80, scalarOf? (fourHex n) = some (Char.ofNat n) := by
  decide +kernel

theorem toNat_of_isReserved {c : Char} (h : isReserved c = true) : c.toNat < 0x80 := by
  simp only [isReserved, Bool.or_eq_true, beq_iff_eq, decide_eq_true_eq] at h
  rcases h with ((rfl | rfl) | h) | h
  · decide
  · decide
  · omega
  · omega

theorem scalarOf?_of_fourDigits {c : Char} {digits : Text} (hc : isReserved c = true)
    (h : FourDigits c digits) : scalarOf? digits = some c := by
  rw [← scalarOf?_toLower, h, scalarOf?_fourHex _ (toNat_of_isReserved hc), Char.ofNat_toNat]

theorem FourDigits.exists_eq {c : Char} {digits : Text} (hc : isReserved c = true)
    (h : FourDigits c digits) : ∃ a b x y, digits = [a, b, x, y] := by
  have hall : ∀ n < 0x80, (fourHex n).length = 4 := by decide +kernel
  have hlen : digits.length = 4 := by
    rw [← hall _ (toNat_of_isReserved hc), ← h, List.length_map]
  match digits, hlen with
  | [a, b, x, y], _ => exact ⟨a, b, x, y, rfl⟩

theorem exists_fourDigits {c : Char} (hc : isReserved c = true) :
    ∃ digits, FourDigits c digits := by
  have hall : ∀ n < 0x80, (fourHex n).map Char.toLower = fourHex n := by decide +kernel
  exact ⟨_, hall _ (toNat_of_isReserved hc)⟩

theorem exists_spelled (t : Text) : ∃ w, Spelled t w := by
  induction t with
  | nil => exact ⟨[], .nil⟩
  | cons c t ih =>
    obtain ⟨w, hw⟩ := ih
    cases hc : isReserved c with
    | false => exact ⟨_, .plain hc hw⟩
    | true =>
      obtain ⟨digits, hdigits⟩ := exists_fourDigits hc
      exact ⟨_, .escaped hc hdigits hw⟩

theorem isBasicChar_of_not_isReserved {c : Char} (h : isReserved c = false) :
    c ≠ '\x22' ∧ c ≠ '\\' ∧ isBasicChar c = true := by
  simp only [isReserved, Bool.or_eq_false_iff, beq_eq_false_iff_ne, decide_eq_false_iff_not,
    Nat.not_lt] at h
  obtain ⟨⟨⟨hquote, hslash⟩, hlow⟩, hdel⟩ := h
  simp [isBasicChar, isCommentChar, hquote, hslash, hlow, hdel]

theorem basicBody_plain {c : Char} (hc : isReserved c = false) (n : Nat) (r : Text) :
    basicBody (n + 1) (c :: r) = cons c (basicBody n r) := by
  obtain ⟨hquote, hslash, hbasic⟩ := isBasicChar_of_not_isReserved hc
  simp only [basicBody, beq_iff_eq, hquote, hslash, hbasic, ↓reduceIte]

theorem basicBody_escaped {c : Char} {digits : Text} (hc : isReserved c = true)
    (h : FourDigits c digits) (n : Nat) (r : Text) :
    basicBody (n + 1) ('\\' :: 'u' :: (digits ++ r)) = cons c (basicBody n r) := by
  obtain ⟨a, b, x, y, rfl⟩ := h.exists_eq hc
  have hescape : escape? ('u' :: a :: b :: x :: y :: r) = some (c, r) := by
    rw [escape?, scalarOf?_of_fourDigits hc h, Option.map_some]
  change (escape? ('u' :: a :: b :: x :: y :: r) >>= fun p => cons p.1 (basicBody n p.2)) = _
  rw [hescape]
  rfl

/-- The body of a string is read back, whatever follows its closing quote. -/
theorem basicBody_spelled {t w : Text} (h : Spelled t w) (rest : Text) {n : Nat}
    (hn : w.length < n) : basicBody n (w ++ '\x22' :: rest) = some (t, rest) := by
  induction h generalizing n with
  | nil =>
    obtain ⟨n, rfl⟩ := Nat.exists_eq_add_one_of_ne_zero (Nat.ne_zero_of_lt hn)
    rfl
  | plain hc _ ih =>
    obtain ⟨n, rfl⟩ := Nat.exists_eq_add_one_of_ne_zero (Nat.ne_zero_of_lt hn)
    rw [List.cons_append, basicBody_plain hc, ih (by simp at hn; omega)]
    rfl
  | escaped hc hdigits _ ih =>
    obtain ⟨n, rfl⟩ := Nat.exists_eq_add_one_of_ne_zero (Nat.ne_zero_of_lt hn)
    rw [List.cons_append, List.cons_append, List.append_assoc, basicBody_escaped hc hdigits,
      ih (by simp at hn; omega)]
    rfl

/-- What stands at the end of a line: a line break, or nothing at the end of the document. -/
def AtLineEnd (rest : Text) : Prop := rest = [] ∨ ∃ more, rest = '\n' :: more

theorem tripled?_of_second_ne {quote a b : Char} (hb : b ≠ quote) (r : Text) :
    tripled? quote (a :: b :: r) = none := by
  cases r with
  | nil => rfl
  | cons c r => simp [tripled?, hb]

theorem tripled?_spelled {t w rest : Text} (h : Spelled t w) (hrest : AtLineEnd rest) :
    tripled? '\x22' ('\x22' :: (w ++ '\x22' :: rest)) = none := by
  cases h with
  | nil =>
    rcases hrest with rfl | ⟨more, rfl⟩
    · rfl
    · rfl
  | plain hc _ => exact tripled?_of_second_ne (isBasicChar_of_not_isReserved hc).1 _
  | escaped _ _ _ => exact tripled?_of_second_ne (by decide) _

theorem string?_spelled {t w rest : Text} (h : Spelled t w) (hrest : AtLineEnd rest) :
    string? ('\x22' :: (w ++ '\x22' :: rest)) = some (t, rest) := by
  have hliteral : tripled? '\x27' ('\x22' :: (w ++ '\x22' :: rest)) = none := by
    cases w ++ '\x22' :: rest with
    | nil => rfl
    | cons b r =>
      cases r with
      | nil => rfl
      | cons c r => rfl
  have hlen : w.length < (w ++ '\x22' :: rest).length + 1 := by
    rw [List.length_append]
    omega
  simp only [string?, tripled?_spelled h hrest, hliteral, lineString?]
  exact basicBody_spelled h rest hlen

theorem value?_spelled (depth : Nat) {t w rest : Text} (h : Spelled t w) (hrest : AtLineEnd rest) :
    value? depth ('\x22' :: (w ++ '\x22' :: rest)) = some (.string t, rest) := by
  rw [value?, string?_spelled h hrest]
  rfl

/-! Numbers -/

/-- The value of a decimal digit. -/
def digitValue (c : Char) : Nat := c.toNat - 48

theorem digitIn?_of_isDigit {c : Char} (hc : c.isDigit = true) :
    digitIn? 10 c = some (digitValue c) := by
  obtain ⟨hlow, hhigh⟩ := Char.isDigit_iff_toNat.mp hc
  have hrange : '0' ≤ c ∧ c ≤ '9' := ⟨hlow, hhigh⟩
  have hsmall : c.toNat - 48 < 10 := Nat.sub_lt_left_of_lt_add hlow (Nat.lt_succ_of_le hhigh)
  rw [digitIn?, hexValue?, if_pos hrange, Option.filter_some, if_pos (decide_eq_true hsmall)]
  rfl

theorem moreDigits_append {ds rest : Text} (hds : ∀ c ∈ ds, c.isDigit = true)
    (hrest : AtLineEnd rest) :
    moreDigits 10 (ds ++ rest) = some (ds.map digitValue, rest) := by
  induction ds with
  | nil =>
    rcases hrest with rfl | ⟨more, rfl⟩
    · rfl
    · rfl
  | cons c ds ih =>
    rw [List.forall_mem_cons] at hds
    have hne : c ≠ '_' := by
      rintro rfl
      exact absurd hds.1 (by decide)
    rw [List.cons_append, moreDigits]
    · simp only [digitIn?_of_isDigit hds.1, ih hds.2]
      rfl
    · exact fun _ _ h _ => hne h
    · exact fun h _ => hne h

theorem valueOf_map_digitValue (ds : Text) :
    valueOf 10 (ds.map digitValue) = Nat.ofDigitChars 10 ds 0 := by
  rw [valueOf, List.foldl_map, Nat.ofDigitChars]
  congr 1
  funext n c
  rw [Nat.mul_comm]
  rfl

theorem isDigit_of_mem_decimal {n : Nat} {c : Char} (hc : c ∈ decimal n) : c.isDigit = true :=
  Nat.isDigit_of_mem_toDigits (by decide) (by decide) hc

/-- A number other than zero is written without zeros in front. -/
theorem exists_decimal_eq {n : Nat} (hn : n ≠ 0) : ∃ c ds, decimal n = c :: ds ∧ c ≠ '0' := by
  induction n using Nat.strongRecOn with
  | ind n ih =>
    by_cases hlt : n < 10
    · refine ⟨n.digitChar, [], Nat.toDigits_of_lt_base hlt, fun hzero => hn ?_⟩
      have htoNat := Nat.toNat_digitChar_of_lt_ten hlt
      rw [hzero] at htoNat
      simp at htoNat
      omega
    · obtain ⟨c, ds, hds, hc⟩ := ih (n / 10) (by omega) (by omega)
      refine ⟨c, ds ++ [(n % 10).digitChar], ?_, hc⟩
      rw [decimal, Nat.toDigits_of_base_le (by decide) (Nat.le_of_not_lt hlt)]
      exact congrArg (· ++ _) hds

theorem wholeDigits?_decimal (n : Nat) {rest : Text} (hrest : AtLineEnd rest) :
    ∃ ds, wholeDigits? (decimal n ++ rest) = some (ds, rest) ∧ valueOf 10 ds = n := by
  by_cases hn : n = 0
  · subst hn
    exact ⟨[0], rfl, rfl⟩
  · obtain ⟨c, cs, hcs, hc⟩ := exists_decimal_eq hn
    have hdigits : ∀ d ∈ c :: cs, d.isDigit = true := fun d hd => isDigit_of_mem_decimal (hcs ▸ hd)
    rw [List.forall_mem_cons] at hdigits
    refine ⟨(c :: cs).map digitValue, ?_, ?_⟩
    · rw [hcs, List.cons_append, wholeDigits?]
      · simp only [digits?, digitIn?_of_isDigit hdigits.1, moreDigits_append hdigits.2 hrest]
        rfl
      · exact fun _ h => hc (List.cons.inj h).1
    · rw [valueOf_map_digitValue, ← hcs]
      exact Nat.ofDigitChars_ten_toDigits

theorem exists_digit_eq (n : Nat) (rest : Text) :
    ∃ c r, decimal n ++ rest = c :: r ∧ c.isDigit = true := by
  obtain ⟨c, ds, hds⟩ : ∃ c ds, decimal n = c :: ds :=
    List.exists_cons_of_ne_nil Nat.toDigits_ne_nil
  refine ⟨c, ds ++ rest, congrArg (· ++ rest) hds, isDigit_of_mem_decimal (n := n) ?_⟩
  rw [hds]
  exact List.mem_cons_self

theorem looksLikeMoment_decimal (n : Nat) {rest : Text} (hrest : AtLineEnd rest) :
    looksLikeMoment (decimal n ++ rest) = false := by
  have hnone : rest.takeWhile Char.isDigit = [] := by
    rcases hrest with rfl | ⟨more, rfl⟩
    · rfl
    · rfl
  have hdigits : (decimal n ++ rest).takeWhile Char.isDigit = decimal n := by
    rw [List.takeWhile_append_of_pos fun c hc => isDigit_of_mem_decimal hc, hnone, List.append_nil]
  rw [looksLikeMoment, hdigits, List.drop_left]
  rcases hrest with rfl | ⟨more, rfl⟩
  · rfl
  · rfl

theorem sign_decimal (n : Nat) (rest : Text) :
    sign (decimal n ++ rest) = (false, decimal n ++ rest) := by
  obtain ⟨c, r, hcr, hc⟩ := exists_digit_eq n rest
  rw [hcr]
  unfold sign
  split
  · next h => cases h; exact absurd hc (by decide)
  · next h => cases h; exact absurd hc (by decide)
  · rfl

theorem specialFloat?_decimal (n : Nat) (rest : Text) :
    specialFloat? (decimal n ++ rest) = none := by
  obtain ⟨c, r, hcr, hc⟩ := exists_digit_eq n rest
  rw [specialFloat?, sign_decimal, hcr]
  split
  · next h => cases h; exact absurd hc (by decide)
  · next h => cases h; exact absurd hc (by decide)
  · rfl

/-- Behind a zero the line ends, so that no other base is announced. -/
theorem eq_newline_of_decimal_eq {n : Nat} {rest r : Text} {x : Char} (hrest : AtLineEnd rest)
    (h : decimal n ++ rest = '0' :: x :: r) : x = '\n' := by
  by_cases hn : n = 0
  · subst hn
    have htail : rest = x :: r := (List.cons.inj h).2
    rcases hrest with rfl | ⟨more, rfl⟩
    · cases htail
    · exact (List.cons.inj htail).1.symm
  · obtain ⟨c, ds, hds, hc⟩ := exists_decimal_eq hn
    rw [hds] at h
    exact absurd (List.cons.inj h).1 hc

theorem decimalNumber?_decimal {n : Nat} (hn : n ≤ 9223372036854775807) {rest : Text}
    (hrest : AtLineEnd rest) : decimalNumber? (decimal n ++ rest) = some (.integer n, rest) := by
  obtain ⟨ds, hds, hvalue⟩ := wholeDigits?_decimal n hrest
  have hint : integer? false n = some (.integer n) := if_pos (Nat.lt_succ_of_le hn)
  simp only [decimalNumber?, sign_decimal, hds, Option.bind_eq_bind, Option.bind_some]
  rcases hrest with rfl | ⟨more, rfl⟩
  · simp only [hvalue, hint]
    rfl
  · simp only [hvalue, hint]
    rfl

theorem number?_decimal {n : Nat} (hn : n ≤ 9223372036854775807) {rest : Text}
    (hrest : AtLineEnd rest) : number? (decimal n ++ rest) = some (.integer n, rest) := by
  unfold number?
  rw [if_neg (by rw [looksLikeMoment_decimal n hrest]; decide)]
  split
  · next h => exact absurd (eq_newline_of_decimal_eq hrest h) (by decide)
  · next h => exact absurd (eq_newline_of_decimal_eq hrest h) (by decide)
  · next h => exact absurd (eq_newline_of_decimal_eq hrest h) (by decide)
  · rw [specialFloat?_decimal]
    exact decimalNumber?_decimal hn hrest

theorem value?_decimal (depth : Nat) {n : Nat} (hn : n ≤ 9223372036854775807) {rest : Text}
    (hrest : AtLineEnd rest) : value? depth (decimal n ++ rest) = some (.integer n, rest) := by
  have hnumber := number?_decimal hn hrest
  obtain ⟨c, r, hcr, hc⟩ := exists_digit_eq n rest
  rw [hcr] at hnumber ⊢
  have hne {d : Char} (hd : d.isDigit = false) : c ≠ d := by
    rintro rfl
    rw [hc] at hd
    cases hd
  rw [value?, hc]
  · exact hnumber
  · exact hne rfl
  · exact hne rfl
  · exact hne rfl
  · exact hne rfl
  · exact fun _ h _ => hne rfl h
  · exact fun _ h _ => hne rfl h

/-! Lines -/

theorem skipSpaces_of_not_isSpace {c : Char} (hc : isSpace c = false) (r : Text) :
    skipSpaces (c :: r) = c :: r := by
  rw [skipSpaces, List.dropWhile_cons, hc]
  rfl

theorem ne_of_isBareChar {c d : Char} (hc : isBareChar c = true) (hd : isBareChar d = false) :
    c ≠ d := by
  rintro rfl
  rw [hc] at hd
  cases hd

theorem isSpace_of_isBareChar {c : Char} (hc : isBareChar c = true) : isSpace c = false := by
  have hblank := ne_of_isBareChar hc (d := ' ') rfl
  have htab := ne_of_isBareChar hc (d := '\t') rfl
  simp only [isSpace, Bool.or_eq_false_iff, beq_eq_false_iff_ne]
  exact ⟨hblank, htab⟩

/-- A key that is written without quotes. -/
def IsBare (key : Text) : Prop := key ≠ [] ∧ ∀ c ∈ key, isBareChar c = true

/-- A bare key is read up to the blank in front of its equals sign. -/
theorem key?_bare {key : Text} (hkey : IsBare key) (r : Text) :
    key? (key ++ ' ' :: '=' :: r) = some (([], key), '=' :: r) := by
  obtain ⟨hne, hall⟩ := hkey
  obtain ⟨c, k, rfl⟩ := List.exists_cons_of_ne_nil hne
  have hc : isBareChar c = true := hall c List.mem_cons_self
  have hskip : skipSpaces (c :: k ++ ' ' :: '=' :: r) = c :: k ++ ' ' :: '=' :: r :=
    skipSpaces_of_not_isSpace (isSpace_of_isBareChar hc) _
  have htake : (c :: k ++ ' ' :: '=' :: r).takeWhile isBareChar = c :: k := by
    rw [List.takeWhile_append_of_pos hall]
    exact List.append_nil _
  have hdrop : (c :: k ++ ' ' :: '=' :: r).dropWhile isBareChar = ' ' :: '=' :: r := by
    rw [List.dropWhile_append_of_pos hall]
    rfl
  have hquote : ((c :: k ++ ' ' :: '=' :: r).head? == some '\x22' ||
      (c :: k ++ ' ' :: '=' :: r).head? == some '\x27') = false := by
    have hdouble := ne_of_isBareChar hc (d := '\x22') rfl
    have hsingle := ne_of_isBareChar hc (d := '\x27') rfl
    simp [hdouble, hsingle]
  have hpart : keyPart? (c :: k ++ ' ' :: '=' :: r) = some (c :: k, '=' :: r) := by
    simp only [keyPart?, hskip, hquote, htake, hdrop]
    rfl
  rw [key?, hpart]
  rfl

theorem lineRest?_of_atLineEnd {rest : Text} (h : AtLineEnd rest) :
    lineRest? rest = some (rest.drop 1) := by
  rcases h with rfl | ⟨more, rfl⟩
  · rfl
  · rfl

theorem keyValueLine?_bare (d : Draft) {key v rest : Text} {value : Value} (hkey : IsBare key)
    (hspace : skipSpaces (v ++ rest) = v ++ rest)
    (hvalue : value? (depthLimit - 1) (v ++ rest) = some (value, rest)) (hrest : AtLineEnd rest) :
    keyValueLine? d (key ++ ' ' :: '=' :: ' ' :: (v ++ rest)) =
      (d.keyValue [] key value).map (·, rest.drop 1) := by
  have hexpect : expect? '=' ('=' :: ' ' :: (v ++ rest)) = some (' ' :: (v ++ rest)) := rfl
  have hskip : skipSpaces (' ' :: (v ++ rest)) = v ++ rest := hspace
  simp only [keyValueLine?, key?_bare hkey, Option.bind_eq_bind, Option.bind_some, hexpect, hskip,
    hvalue, lineRest?_of_atLineEnd hrest]
  cases d.keyValue [] key value with
  | none => rfl
  | some d' => rfl

/-- A line that sets a bare key is read as such. -/
theorem line?_bare (d : Draft) {key : Text} (hkey : IsBare key) (r : Text) :
    line? d (key ++ r) = keyValueLine? d (key ++ r) := by
  obtain ⟨hne, hall⟩ := hkey
  obtain ⟨c, k, rfl⟩ := List.exists_cons_of_ne_nil hne
  have hc : isBareChar c = true := hall c List.mem_cons_self
  rw [List.cons_append, line?, skipSpaces_of_not_isSpace (isSpace_of_isBareChar hc)]
  split
  · next h => cases h
  · next h => exact absurd (List.cons.inj h).1 (ne_of_isBareChar hc rfl)
  · next h => exact absurd (List.cons.inj h).1 (ne_of_isBareChar hc rfl)
  · next h => exact absurd (List.cons.inj h).1 (ne_of_isBareChar hc rfl)
  · next h => exact absurd (List.cons.inj h).1 (ne_of_isBareChar hc rfl)
  · next h => exact absurd (List.cons.inj h).1 (ne_of_isBareChar hc rfl)
  · rfl

/-! Documents -/

/-- A value as it is written behind the equals sign. -/
inductive WrittenValue : Value → Text → Prop where
  | string {t w : Text} : Spelled t w → WrittenValue (.string t) ('\x22' :: (w ++ ['\x22']))
  | integer (n : Nat) : WrittenValue (.integer n) (decimal n)

/-- A document with one line `key = value` for each key of a table, in its order. The last line may
do without a line break. -/
inductive WrittenDocument : Table → Text → Prop where
  | nil : WrittenDocument [] []
  | last {key w : Text} {v : Value} : WrittenValue v w →
      WrittenDocument [(key, v)] (key ++ " = ".toList ++ w)
  | line {key w document : Text} {v : Value} {t : Table} : WrittenValue v w →
      WrittenDocument t document →
      WrittenDocument ((key, v) :: t) (key ++ " = ".toList ++ w ++ '\n' :: document)

/-- A table can be written if its values can. -/
theorem exists_writtenDocument {t : Table} (h : ∀ f ∈ t, ∃ w, WrittenValue f.2 w) :
    ∃ document, WrittenDocument t document := by
  induction t with
  | nil => exact ⟨[], .nil⟩
  | cons f t ih =>
    rw [List.forall_mem_cons] at h
    obtain ⟨w, hw⟩ := h.1
    obtain ⟨document, hdocument⟩ := ih h.2
    exact ⟨_, .line hw hdocument⟩

theorem WrittenValue.read {v : Value} {w rest : Text} (h : WrittenValue v w) (hv : v.InRange)
    (hrest : AtLineEnd rest) :
    skipSpaces (w ++ rest) = w ++ rest ∧ ∀ depth, value? depth (w ++ rest) = some (v, rest) := by
  cases h with
  | string hspelled =>
    rw [List.cons_append, List.append_assoc]
    exact ⟨rfl, fun depth => value?_spelled depth hspelled hrest⟩
  | integer n =>
    have hn : n ≤ 9223372036854775807 := by
      have hmax : (n : Int) < 9223372036854775808 := hv.2
      omega
    refine ⟨?_, fun depth => value?_decimal depth hn hrest⟩
    obtain ⟨c, r, hcr, hc⟩ := exists_digit_eq n rest
    rw [hcr]
    apply skipSpaces_of_not_isSpace
    apply isSpace_of_isBareChar
    simp [isBareChar, Char.isAlphanum, hc]

theorem Draft.keyValue_new {d : Draft} (hcurrent : d.current = []) {key : Text}
    (hnew : d.root.find? key = none) (v : Value) :
    d.keyValue [] key v = some { d with root := d.root ++ [(key, v)] } := by
  simp [keyValue, hcurrent, Table.update, Table.insertPath, Table.insertNew, hnew]

theorem line?_written {d : Draft} (hcurrent : d.current = []) {key w rest : Text} {v : Value}
    (hkey : IsBare key) (hnew : d.root.find? key = none) (hv : v.InRange) (h : WrittenValue v w)
    (hrest : AtLineEnd rest) :
    line? d (key ++ " = ".toList ++ w ++ rest) =
      some ({ d with root := d.root ++ [(key, v)] }, rest.drop 1) := by
  obtain ⟨hspace, hvalue⟩ := h.read hv hrest
  have hline : key ++ " = ".toList ++ w ++ rest = key ++ ' ' :: '=' :: ' ' :: (w ++ rest) := by
    simp
  rw [hline, line?_bare d hkey, keyValueLine?_bare d hkey hspace (hvalue _) hrest,
    Draft.keyValue_new hcurrent hnew]
  rfl

theorem lines?_of_line? {d d' : Draft} {cs r : Text} (h : line? d cs = some (d', r)) (n : Nat) :
    lines? (n + 1) d cs = lines? n d' r := by
  cases cs with
  | nil =>
    cases h
    rw [lines?, lines?]
  | cons c cs =>
    rw [lines?, h]
    · rfl
    · exact List.cons_ne_nil c cs

/-- The lines of a document add its table to what was read before. -/
theorem lines?_written {t : Table} {document : Text} (h : WrittenDocument t document) {d : Draft}
    (hcurrent : d.current = []) (hbare : ∀ f ∈ t, IsBare f.1) (hsound : (d.root ++ t : Table).Sound)
    {n : Nat} (hn : document.length ≤ n) :
    lines? n d document = some { d with root := d.root ++ t } := by
  -- Each line moves one key from the table to the draft, so that what both hold together stays.
  induction h generalizing d n with
  | nil => rw [lines?, List.append_nil]
  | last hv =>
    obtain ⟨hnew, hrange⟩ := hsound.of_append
    have hline := line?_written hcurrent (hbare _ List.mem_cons_self) hnew hrange hv (.inl rfl)
    rw [List.append_nil] at hline
    obtain ⟨n, rfl⟩ : ∃ m, n = m + 1 := Nat.exists_eq_add_of_le' (by simp at hn; omega)
    rw [lines?_of_line? hline]
    exact lines?.eq_1 ..
  | @line key w document v t hv _ ih =>
    obtain ⟨hnew, hrange⟩ := hsound.of_append
    have hline := line?_written hcurrent (hbare _ List.mem_cons_self) hnew hrange hv
      (.inr ⟨document, rfl⟩)
    obtain ⟨n, rfl⟩ : ∃ m, n = m + 1 := Nat.exists_eq_add_of_le' (by simp at hn; omega)
    have hroot : d.root ++ (key, v) :: t = d.root ++ [(key, v)] ++ t := List.append_cons ..
    have hlen : document.length ≤ n := by
      simp only [List.length_append, List.length_cons] at hn
      omega
    rw [lines?_of_line? hline, hroot]
    exact ih (d := { d with root := d.root ++ [(key, v)] }) hcurrent
      (fun f hf => hbare f (List.mem_cons_of_mem _ hf)) (hroot ▸ hsound) hlen

theorem skipMark_written {t : Table} {document : Text} (h : WrittenDocument t document)
    (hbare : ∀ f ∈ t, IsBare f.1) : skipMark document = document := by
  have hkey {key r : Text} (hkey : IsBare key) : skipMark (key ++ r) = key ++ r := by
    obtain ⟨c, k, rfl⟩ := List.exists_cons_of_ne_nil hkey.1
    have hc : c ≠ '\uFEFF' := ne_of_isBareChar (hkey.2 c List.mem_cons_self) (by decide)
    rw [List.cons_append, skipMark]
    exact fun _ h => hc (List.cons.inj h).1
  cases h with
  | nil => rfl
  | last _ =>
    rw [List.append_assoc]
    exact hkey (hbare _ List.mem_cons_self)
  | line _ _ =>
    rw [List.append_assoc, List.append_assoc]
    exact hkey (hbare _ List.mem_cons_self)

/-- A sound table of strings and numbers is read back from its document. -/
theorem parse?_written {t : Table} {document : Text} (h : WrittenDocument t document)
    (hbare : ∀ f ∈ t, IsBare f.1) (hsound : t.Sound) : parse? document = some t := by
  have hlines : lines? (document.length + 1) {} document = some { root := t } :=
    lines?_written (d := {}) h rfl hbare hsound (Nat.le_succ _)
  rw [parse?, skipMark_written h hbare, hlines]
  rfl

end ConsoleRelay.Toml
