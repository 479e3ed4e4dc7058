import ConsoleRelay.Text.Utf8

/-!
Encoded text read back by the byte-at-a-time reader.

The bytes of one character are a lead byte and the continuation bytes it promises, so that the
reader gives the character back and stands between characters again. Over a whole text this makes
strict and lossy decoding inverse to encoding.
-/
namespace ConsoleRelay.Utf8

@[simp] theorem encode_nil : encode [] = [] := rfl

@[simp] theorem encode_cons (c : Char) (t : Text) :
    encode (c :: t) = String.utf8EncodeChar c ++ encode t := rfl

@[simp] theorem encode_append (t u : Text) : encode (t ++ u) = encode t ++ encode u :=
  List.flatMap_append

theorem encode_flatten (parts : List Text) :
    encode parts.flatten = (parts.map encode).flatten := by
  induction parts with
  | nil => rfl
  | cons t parts ih => simp [ih]

theorem isContinuation_iff {b : UInt8} :
    isContinuation b = true ↔ 0x80 ≤ b.toNat ∧ b.toNat < 0xC0 := by
  simp [isContinuation, UInt8.le_iff_toNat_le, UInt8.lt_iff_toNat_lt]

/-- A continuation byte that carries six bits. -/
theorem isContinuation_ofNat {x : Nat} (h : x < 0x40) :
    isContinuation (UInt8.ofNat (x + 0x80)) = true := by
  rw [isContinuation_iff, UInt8.toNat_ofNat_of_lt' (by simp [UInt8.size]; omega)]
  omega

theorem piecesFrom_ascii {b : UInt8} (bs : Bytes) (h : b.toNat < 0x80) :
    piecesFrom none (b :: bs) = .char (Char.ofNat b.toNat) :: piecesFrom none bs := by
  have hb : b < 0x80 := UInt8.lt_iff_toNat_lt.mpr h
  simp [piecesFrom, feed, start, hb]

theorem piecesFrom_lead {b : UInt8} {o : Begun} (bs : Bytes) (h : 0x80 ≤ b.toNat)
    (ho : lead b = some o) : piecesFrom none (b :: bs) = piecesFrom (some o) bs := by
  have hb : ¬ b < 0x80 := by
    rw [UInt8.lt_iff_toNat_lt]
    exact Nat.not_lt.mpr h
  simp [piecesFrom, feed, start, hb, ho]

/-- A byte that fits and is not the last one due keeps the character open. -/
theorem piecesFrom_open {seen bs : Bytes} {value due : Nat} {low high b : UInt8}
    (hl : low ≤ b) (hh : b ≤ high) (hd : 1 < due) :
    piecesFrom (some ⟨seen, value, due, low, high⟩) (b :: bs) =
      piecesFrom (some ⟨seen ++ [b], value * 64 + (b.toNat - 0x80), due - 1, 0x80, 0xBF⟩) bs := by
  simp [piecesFrom, feed, extend, hl, hh, Nat.not_le.mpr hd]

/-- The last byte due closes the character. -/
theorem piecesFrom_close {seen bs : Bytes} {value : Nat} {low high b : UInt8}
    (hl : low ≤ b) (hh : b ≤ high) :
    piecesFrom (some ⟨seen, value, 1, low, high⟩) (b :: bs) =
      .char (Char.ofNat (value * 64 + (b.toNat - 0x80))) :: piecesFrom none bs := by
  simp [piecesFrom, feed, extend, hl, hh]

theorem fits_of_isContinuation {b : UInt8} (h : isContinuation b = true) :
    0x80 ≤ b ∧ b ≤ 0xBF := by
  rw [isContinuation_iff] at h
  simp only [UInt8.le_iff_toNat_le, UInt8.reduceToNat]
  omega

theorem lead_two {b : UInt8} (hl : 0xC2 ≤ b.toNat) (hh : b.toNat ≤ 0xDF) :
    lead b = some ⟨[b], b.toNat - 0xC0, 1, 0x80, 0xBF⟩ := by
  simp [lead, UInt8.le_iff_toNat_le, hl, hh]

/-- A lead byte of three accepts every second byte that makes neither an overlong form nor a
surrogate. -/
theorem lead_three {b s : UInt8} (hl : 0xE0 ≤ b.toNat) (hh : b.toNat ≤ 0xEF)
    (hs : isContinuation s = true) (h0 : b.toNat = 0xE0 → 0xA0 ≤ s.toNat)
    (hd : b.toNat = 0xED → s.toNat ≤ 0x9F) :
    ∃ low high, lead b = some ⟨[b], b.toNat - 0xE0, 2, low, high⟩ ∧ low ≤ s ∧ s ≤ high := by
  rw [isContinuation_iff] at hs
  simp only [lead, UInt8.le_iff_toNat_le, Bool.and_eq_true, decide_eq_true_eq, beq_iff_eq,
    ← UInt8.toNat_inj, UInt8.reduceToNat]
  rw [if_neg (by omega)]
  by_cases he : b.toNat = 0xE0
  · exact ⟨0xA0, 0xBF, by simp [he], h0 he, by simp; omega⟩
  rw [if_neg he]
  by_cases hD : b.toNat = 0xED
  · exact ⟨0x80, 0x9F, by simp [hD], by simp; omega, hd hD⟩
  rw [if_neg hD, if_pos (by omega)]
  exact ⟨0x80, 0xBF, rfl, by simp; omega, by simp; omega⟩

/-- A lead byte of four accepts every second byte that makes neither an overlong form nor a value
above U+10FFFF. -/
theorem lead_four {b s : UInt8} (hl : 0xF0 ≤ b.toNat) (hh : b.toNat ≤ 0xF4)
    (hs : isContinuation s = true) (h0 : b.toNat = 0xF0 → 0x90 ≤ s.toNat)
    (h4 : b.toNat = 0xF4 → s.toNat ≤ 0x8F) :
    ∃ low high, lead b = some ⟨[b], b.toNat - 0xF0, 3, low, high⟩ ∧ low ≤ s ∧ s ≤ high := by
  rw [isContinuation_iff] at hs
  simp only [lead, UInt8.le_iff_toNat_le, Bool.and_eq_true, decide_eq_true_eq, beq_iff_eq,
    ← UInt8.toNat_inj, UInt8.reduceToNat]
  rw [if_neg (by omega), if_neg (by omega), if_neg (by omega), if_neg (by omega)]
  by_cases he : b.toNat = 0xF0
  · exact ⟨0x90, 0xBF, by simp [he], h0 he, by simp; omega⟩
  rw [if_neg he]
  by_cases hF : b.toNat = 0xF4
  · exact ⟨0x80, 0x8F, by simp [hF], by simp; omega, h4 hF⟩
  rw [if_pos (by omega)]
  exact ⟨0x80, 0xBF, rfl, by simp; omega, by simp; omega⟩

theorem piecesFrom_two {a b : UInt8} (bs : Bytes) (hl : 0xC2 ≤ a.toNat) (hh : a.toNat ≤ 0xDF)
    (hb : isContinuation b = true) :
    piecesFrom none (a :: b :: bs) =
      .char (Char.ofNat ((a.toNat - 0xC0) * 64 + (b.toNat - 0x80))) :: piecesFrom none bs := by
  obtain ⟨hbl, hbh⟩ := fits_of_isContinuation hb
  rw [piecesFrom_lead _ (by omega) (lead_two hl hh), piecesFrom_close hbl hbh]

theorem piecesFrom_three {a b c : UInt8} (bs : Bytes) (hl : 0xE0 ≤ a.toNat)
    (hh : a.toNat ≤ 0xEF) (hb : isContinuation b = true) (hc : isContinuation c = true)
    (h0 : a.toNat = 0xE0 → 0xA0 ≤ b.toNat) (hd : a.toNat = 0xED → b.toNat ≤ 0x9F) :
    piecesFrom none (a :: b :: c :: bs) =
      .char (Char.ofNat (((a.toNat - 0xE0) * 64 + (b.toNat - 0x80)) * 64 + (c.toNat - 0x80))) ::
        piecesFrom none bs := by
  obtain ⟨low, high, ho, hbl, hbh⟩ := lead_three hl hh hb h0 hd
  obtain ⟨hcl, hch⟩ := fits_of_isContinuation hc
  rw [piecesFrom_lead _ (by omega) ho, piecesFrom_open hbl hbh (by omega),
    piecesFrom_close hcl hch]

theorem piecesFrom_four {a b c d : UInt8} (bs : Bytes) (hl : 0xF0 ≤ a.toNat)
    (hh : a.toNat ≤ 0xF4) (hb : isContinuation b = true) (hc : isContinuation c = true)
    (hd : isContinuation d = true) (h0 : a.toNat = 0xF0 → 0x90 ≤ b.toNat)
    (h4 : a.toNat = 0xF4 → b.toNat ≤ 0x8F) :
    piecesFrom none (a :: b :: c :: d :: bs) =
      .char (Char.ofNat ((((a.toNat - 0xF0) * 64 + (b.toNat - 0x80)) * 64 + (c.toNat - 0x80)) * 64 +
        (d.toNat - 0x80))) :: piecesFrom none bs := by
  obtain ⟨low, high, ho, hbl, hbh⟩ := lead_four hl hh hb h0 h4
  obtain ⟨hcl, hch⟩ := fits_of_isContinuation hc
  obtain ⟨hdl, hdh⟩ := fits_of_isContinuation hd
  rw [piecesFrom_lead _ (by omega) ho, piecesFrom_open hbl hbh (by omega),
    piecesFrom_open hcl hch (by omega), piecesFrom_close hdl hdh]

/-- The reader gives an encoded character back and stands between characters again. -/
theorem piecesFrom_encodeChar (c : Char) (bs : Bytes) :
    piecesFrom none (String.utf8EncodeChar c ++ bs) = .char c :: piecesFrom none bs := by
  have hc : Char.ofNat c.val.toNat = c := Char.ofNat_toNat c
  have hv : c.val.toNat < 0xD800 ∨ 0xDFFF < c.val.toNat ∧ c.val.toNat < 0x110000 := c.valid
  have hn {n : Nat} (h : n < 256) : (UInt8.ofNat n).toNat = n := UInt8.toNat_ofNat_of_lt' h
  fun_cases String.utf8EncodeChar with
  | case1 v h1 =>
    have hb := hn (show v < 256 by omega)
    simp only [List.cons_append, List.nil_append]
    rw [piecesFrom_ascii bs (by omega), hb, hc]
  | case2 v h1 h2 =>
    have ha := hn (show v / 64 % 0x20 + 0xC0 < 256 by omega)
    have hb := hn (show v % 0x40 + 0x80 < 256 by omega)
    have hvalue : v / 64 % 0x20 * 64 + v % 0x40 = v := by omega
    simp only [List.cons_append, List.nil_append]
    rw [piecesFrom_two bs (by omega) (by omega) (isContinuation_ofNat (by omega)), ha, hb,
      Nat.add_sub_cancel, Nat.add_sub_cancel, hvalue, hc]
  | case3 v h1 h2 h3 =>
    have ha := hn (show v / 4096 % 0x10 + 0xE0 < 256 by omega)
    have hb := hn (show v / 64 % 0x40 + 0x80 < 256 by omega)
    have hd := hn (show v % 0x40 + 0x80 < 256 by omega)
    have hvalue : (v / 4096 % 0x10 * 64 + v / 64 % 0x40) * 64 + v % 0x40 = v := by omega
    simp only [List.cons_append, List.nil_append]
    rw [piecesFrom_three bs (by omega) (by omega) (isContinuation_ofNat (by omega))
      (isContinuation_ofNat (by omega)) (by omega) (by omega), ha, hb, hd,
      Nat.add_sub_cancel, Nat.add_sub_cancel, Nat.add_sub_cancel, hvalue, hc]
  | case4 v h1 h2 h3 =>
    have ha := hn (show v / 262144 % 0x08 + 0xF0 < 256 by omega)
    have hb := hn (show v / 4096 % 0x40 + 0x80 < 256 by omega)
    have hd := hn (show v / 64 % 0x40 + 0x80 < 256 by omega)
    have he := hn (show v % 0x40 + 0x80 < 256 by omega)
    have hvalue : ((v / 262144 % 0x08 * 64 + v / 4096 % 0x40) * 64 + v / 64 % 0x40) * 64 +
        v % 0x40 = v := by omega
    simp only [List.cons_append, List.nil_append]
    rw [piecesFrom_four bs (by omega) (by omega) (isContinuation_ofNat (by omega))
      (isContinuation_ofNat (by omega)) (isContinuation_ofNat (by omega)) (by omega) (by omega),
      ha, hb, hd, he, Nat.add_sub_cancel, Nat.add_sub_cancel, Nat.add_sub_cancel,
      Nat.add_sub_cancel, hvalue, hc]

@[simp] theorem pieces_encode (t : Text) : pieces (encode t) = t.map .char := by
  induction t with
  | nil => rfl
  | cons c t ih =>
    rw [encode_cons, pieces, piecesFrom_encodeChar, List.map_cons]
    exact congrArg (Piece.char c :: ·) ih

@[simp] theorem lossy_encode (t : Text) : lossy (encode t) = t := by
  simp [lossy, Function.comp_def, Piece.toChar]

@[simp] theorem decode?_encode (t : Text) : decode? (encode t) = some t := by
  induction t with
  | nil => rfl
  | cons c t ih =>
    simp only [decode?, pieces_encode, List.map_cons, List.mapM_cons, Piece.char?] at ih ⊢
    simp [ih]

theorem encodeChar_ascii {c : Char} (h : c.toNat < 0x80) :
    String.utf8EncodeChar c = [UInt8.ofNat c.toNat] := by
  rw [String.utf8EncodeChar]
  exact if_pos (Nat.le_of_lt_succ h)

/-- An ASCII byte stands in no character but its own. -/
theorem toNat_of_mem_encodeChar {c : Char} {b : UInt8} (hb : b.toNat < 0x80)
    (h : b ∈ String.utf8EncodeChar c) : c.toNat = b.toNat := by
  have hhigh {n : Nat} (hlow : 0x80 ≤ n) (hlt : n < 256) : b ≠ UInt8.ofNat n := by
    rintro rfl
    rw [UInt8.toNat_ofNat_of_lt' hlt] at hb
    omega
  have hrest (n : Nat) : b ≠ UInt8.ofNat (n % 0x40 + 0x80) := hhigh (by omega) (by omega)
  revert h
  fun_cases String.utf8EncodeChar with
  | case1 v h1 =>
    intro h
    rw [List.mem_singleton.mp h, UInt8.toNat_ofNat_of_lt' (show v < 256 by omega)]
    rfl
  | case2 v h1 h2 =>
    simp only [List.mem_cons, hhigh (show 0x80 ≤ v / 64 % 0x20 + 0xC0 by omega) (by omega),
      hrest, List.not_mem_nil, or_self, false_imp_iff]
  | case3 v h1 h2 h3 =>
    simp only [List.mem_cons, hhigh (show 0x80 ≤ v / 4096 % 0x10 + 0xE0 by omega) (by omega),
      hrest, List.not_mem_nil, or_self, false_imp_iff]
  | case4 v h1 h2 h3 =>
    simp only [List.mem_cons, hhigh (show 0x80 ≤ v / 262144 % 0x08 + 0xF0 by omega) (by omega),
      hrest, List.not_mem_nil, or_self, false_imp_iff]

theorem nul_notMem_encode {t : Text} (ht : '\x00' ∉ t) : 0 ∉ encode t := by
  intro h
  obtain ⟨c, hc, hmem⟩ := List.mem_flatMap.mp h
  have hzero : c = '\x00' := Char.toNat_inj.mp (toNat_of_mem_encodeChar (by decide) hmem)
  exact ht (hzero ▸ hc)

end ConsoleRelay.Utf8
