import ConsoleRelay.Proofs.Utf8.Encoding
import Mathlib.Tactic.SplitIfs

/-!
Strict decoding accepts encoded text and nothing else.

An open character has the value of the bytes seen so far, so that whichever bytes complete it, the
character read is the one with these bytes. A reader that breaks nothing off has therefore read the
encoding of its characters.
-/
namespace ConsoleRelay.Utf8

theorem ofNat_eq_of_toNat {n : Nat} {b : UInt8} (h : n = b.toNat) : UInt8.ofNat n = b := by
  rw [h, UInt8.ofNat_toNat]

theorem toNat_ofNat_of_isValidChar {n : Nat} (h : n.isValidChar) :
    (Char.ofNat n).val.toNat = n := by
  rw [Char.ofNat, dif_pos h]
  rfl

theorem encodeChar_two {a b : UInt8} (hl : 0xC2 ≤ a.toNat) (hh : a.toNat ≤ 0xDF)
    (hb : isContinuation b = true) :
    String.utf8EncodeChar (Char.ofNat ((a.toNat - 0xC0) * 64 + (b.toNat - 0x80))) = [a, b] := by
  rw [isContinuation_iff] at hb
  have hv := toNat_ofNat_of_isValidChar (n := (a.toNat - 0xC0) * 64 + (b.toNat - 0x80))
    (by unfold Nat.isValidChar; omega)
  rw [String.utf8EncodeChar, hv, if_neg (by omega), if_pos (by omega),
    ofNat_eq_of_toNat (b := a) (by omega), ofNat_eq_of_toNat (b := b) (by omega)]

theorem encodeChar_three {a b c : UInt8} (hl : 0xE0 ≤ a.toNat) (hh : a.toNat ≤ 0xEF)
    (hb : isContinuation b = true) (hc : isContinuation c = true)
    (h0 : a.toNat = 0xE0 → 0xA0 ≤ b.toNat) (hd : a.toNat = 0xED → b.toNat ≤ 0x9F) :
    String.utf8EncodeChar (Char.ofNat
      (((a.toNat - 0xE0) * 64 + (b.toNat - 0x80)) * 64 + (c.toNat - 0x80))) = [a, b, c] := by
  rw [isContinuation_iff] at hb hc
  have hv := toNat_ofNat_of_isValidChar
    (n := ((a.toNat - 0xE0) * 64 + (b.toNat - 0x80)) * 64 + (c.toNat - 0x80))
    (by unfold Nat.isValidChar; omega)
  rw [String.utf8EncodeChar, hv, if_neg (by omega), if_neg (by omega), if_pos (by omega),
    ofNat_eq_of_toNat (b := a) (by omega), ofNat_eq_of_toNat (b := b) (by omega),
    ofNat_eq_of_toNat (b := c) (by omega)]

theorem encodeChar_four {a b c d : UInt8} (hl : 0xF0 ≤ a.toNat) (hh : a.toNat ≤ 0xF4)
    (hb : isContinuation b = true) (hc : isContinuation c = true) (hd : isContinuation d = true)
    (h0 : a.toNat = 0xF0 → 0x90 ≤ b.toNat) (h4 : a.toNat = 0xF4 → b.toNat ≤ 0x8F) :
    String.utf8EncodeChar (Char.ofNat
      ((((a.toNat - 0xF0) * 64 + (b.toNat - 0x80)) * 64 + (c.toNat - 0x80)) * 64 +
        (d.toNat - 0x80))) = [a, b, c, d] := by
  rw [isContinuation_iff] at hb hc hd
  have hv := toNat_ofNat_of_isValidChar
    (n := (((a.toNat - 0xF0) * 64 + (b.toNat - 0x80)) * 64 + (c.toNat - 0x80)) * 64 +
      (d.toNat - 0x80))
    (by unfold Nat.isValidChar; omega)
  rw [String.utf8EncodeChar, hv, if_neg (by omega), if_neg (by omega), if_neg (by omega),
    ofNat_eq_of_toNat (b := a) (by omega), ofNat_eq_of_toNat (b := b) (by omega),
    ofNat_eq_of_toNat (b := c) (by omega), ofNat_eq_of_toNat (b := d) (by omega)]

/-- Whichever bytes that fit are added to an open character, once the given number of them is
complete the character read has the bytes seen. -/
def Begun.Faithful : Nat → Begun → Prop
  | 0, o => ∀ b, o.low ≤ b → b ≤ o.high →
      String.utf8EncodeChar (Char.ofNat (o.value * 64 + (b.toNat - 0x80))) = o.seen ++ [b]
  | n + 1, o => ∀ b, o.low ≤ b → b ≤ o.high → Faithful n
      ⟨o.seen ++ [b], o.value * 64 + (b.toNat - 0x80), n + 1, 0x80, 0xBF⟩

/-- An open character that is due one byte at least and shows what it has seen. -/
def Begun.Sound (o : Begun) : Prop := ∃ n, o.due = n + 1 ∧ o.Faithful n

theorem isContinuation_of_fits {b : UInt8} (hl : 0x80 ≤ b) (hh : b ≤ 0xBF) :
    isContinuation b = true := by
  rw [isContinuation_iff]
  exact ⟨hl, Nat.lt_succ_of_le hh⟩

theorem faithful_two {a : UInt8} (hl : 0xC2 ≤ a.toNat) (hh : a.toNat ≤ 0xDF) :
    Begun.Faithful 0 ⟨[a], a.toNat - 0xC0, 1, 0x80, 0xBF⟩ := fun _ hbl hbh =>
  encodeChar_two hl hh (isContinuation_of_fits hbl hbh)

theorem faithful_three {a low high : UInt8} {value : Nat} (hl : 0xE0 ≤ a.toNat)
    (hh : a.toNat ≤ 0xEF) (hvalue : value = a.toNat - 0xE0) (hlow : 0x80 ≤ low)
    (hhigh : high ≤ 0xBF) (h0 : a.toNat = 0xE0 → 0xA0 ≤ low) (hd : a.toNat = 0xED → high ≤ 0x9F) :
    Begun.Faithful 1 ⟨[a], value, 2, low, high⟩ := by
  simp only [Begun.Faithful, hvalue]
  intro b hbl hbh c hcl hch
  have hb := isContinuation_of_fits (UInt8.le_trans hlow hbl) (UInt8.le_trans hbh hhigh)
  have hc := isContinuation_of_fits hcl hch
  rw [encodeChar_three hl hh hb hc
    (fun h => UInt8.le_iff_toNat_le.mp (UInt8.le_trans (h0 h) hbl))
    (fun h => UInt8.le_iff_toNat_le.mp (UInt8.le_trans hbh (hd h)))]
  rfl

theorem faithful_four {a low high : UInt8} {value : Nat} (hl : 0xF0 ≤ a.toNat)
    (hh : a.toNat ≤ 0xF4) (hvalue : value = a.toNat - 0xF0) (hlow : 0x80 ≤ low)
    (hhigh : high ≤ 0xBF) (h0 : a.toNat = 0xF0 → 0x90 ≤ low) (h4 : a.toNat = 0xF4 → high ≤ 0x8F) :
    Begun.Faithful 2 ⟨[a], value, 3, low, high⟩ := by
  simp only [Begun.Faithful, hvalue]
  intro b hbl hbh c hcl hch d hdl hdh
  have hb := isContinuation_of_fits (UInt8.le_trans hlow hbl) (UInt8.le_trans hbh hhigh)
  have hc := isContinuation_of_fits hcl hch
  have hd := isContinuation_of_fits hdl hdh
  rw [encodeChar_four hl hh hb hc hd
    (fun h => UInt8.le_iff_toNat_le.mp (UInt8.le_trans (h0 h) hbl))
    (fun h => UInt8.le_iff_toNat_le.mp (UInt8.le_trans hbh (h4 h)))]
  rfl

/-- A lead byte shows itself. -/
theorem lead_sound {a : UInt8} {o : Begun} (h : lead a = some o) :
    o.Sound ∧ o.seen = [a] := by
  simp only [lead, Bool.and_eq_true, decide_eq_true_eq, beq_iff_eq, UInt8.le_iff_toNat_le,
    ← UInt8.toNat_inj, UInt8.reduceToNat] at h
  split_ifs at h with h2 hE0 hED h3 hF0 h4 hF4 <;> cases h
  · exact ⟨⟨0, rfl, faithful_two h2.1 h2.2⟩, rfl⟩
  · exact ⟨⟨1, rfl, faithful_three (by omega) (by omega) (by omega) (by decide) (by decide)
      (fun _ => by decide) (by omega)⟩, rfl⟩
  · exact ⟨⟨1, rfl, faithful_three (by omega) (by omega) (by omega) (by decide) (by decide)
      (by omega) (fun _ => by decide)⟩, rfl⟩
  · exact ⟨⟨1, rfl, faithful_three (by omega) (by omega) rfl (by decide) (by decide)
      (by omega) (by omega)⟩, rfl⟩
  · exact ⟨⟨2, rfl, faithful_four (by omega) (by omega) (by omega) (by decide) (by decide)
      (fun _ => by decide) (by omega)⟩, rfl⟩
  · exact ⟨⟨2, rfl, faithful_four (by omega) (by omega) rfl (by decide) (by decide)
      (by omega) (by omega)⟩, rfl⟩
  · exact ⟨⟨2, rfl, faithful_four (by omega) (by omega) (by omega) (by decide) (by decide)
      (by omega) (fun _ => by decide)⟩, rfl⟩

/-- The bytes of the character that is open. -/
def pending : Option Begun → Bytes
  | none => []
  | some o => o.seen

theorem start_cases (b : UInt8) :
    (∃ bytes, Piece.broken bytes ∈ (start b).1) ∨
    (∃ o, start b = ([], some o) ∧ o.Sound ∧ o.seen = [b]) ∨
    ∃ c, start b = ([.char c], none) ∧ String.utf8EncodeChar c = [b] := by
  rw [start]
  split
  · next hb =>
    have hlt : b.toNat < 0x80 := UInt8.lt_iff_toNat_lt.mp hb
    have hv : (Char.ofNat b.toNat).toNat = b.toNat :=
      toNat_ofNat_of_isValidChar (.inl (Nat.lt_trans hlt (by decide)))
    refine .inr (.inr ⟨_, rfl, ?_⟩)
    rw [encodeChar_ascii (hv.symm ▸ hlt), hv, UInt8.ofNat_toNat]
  · cases ho : lead b with
    | some o => exact .inr (.inl ⟨o, rfl, lead_sound ho⟩)
    | none => exact .inl ⟨[b], List.mem_singleton_self _⟩

/-- A byte that fits is added to the open character or completes it. -/
theorem extend_cases {o : Begun} (ho : o.Sound) {b : UInt8} (hl : o.low ≤ b) (hh : b ≤ o.high) :
    (∃ o', extend o b = ([], some o') ∧ o'.Sound ∧ o'.seen = o.seen ++ [b]) ∨
    ∃ c, extend o b = ([.char c], none) ∧ String.utf8EncodeChar c = o.seen ++ [b] := by
  obtain ⟨n, hdue, hfaithful⟩ := ho
  cases n with
  | zero =>
    refine .inr ⟨_, ?_, hfaithful b hl hh⟩
    simp only [extend, hdue, Nat.le_refl, ↓reduceIte]
  | succ n =>
    refine .inl ⟨_, ?_, ⟨n, rfl, hfaithful b hl hh⟩, rfl⟩
    have hmore : ¬ n + 1 + 1 ≤ 1 := by omega
    simp only [extend, hdue, hmore, ↓reduceIte, Nat.add_sub_cancel]

/-- A byte breaks something off, or it is added to the open character, or it completes it. -/
theorem feed_cases {st : Option Begun} (hst : ∀ o ∈ st, o.Sound) (b : UInt8) :
    (∃ bytes, Piece.broken bytes ∈ (feed st b).1) ∨
    (∃ o, feed st b = ([], some o) ∧ o.Sound ∧ o.seen = pending st ++ [b]) ∨
    ∃ c, feed st b = ([.char c], none) ∧ String.utf8EncodeChar c = pending st ++ [b] := by
  cases st with
  | none => exact start_cases b
  | some o =>
    rw [feed]
    split
    · next hfits =>
      rw [Bool.and_eq_true, decide_eq_true_eq, decide_eq_true_eq] at hfits
      exact .inr (extend_cases (hst o rfl) hfits.1 hfits.2)
    · exact .inl ⟨o.seen, List.mem_cons_self⟩

theorem eq_encode_of_piecesFrom {st : Option Begun} (hst : ∀ o ∈ st, o.Sound) {bs : Bytes}
    {t : Text} (h : piecesFrom st bs = t.map .char) : pending st ++ bs = encode t := by
  -- The bytes of the open character wait in `pending` until it is complete.
  induction bs generalizing st t with
  | nil =>
    cases st with
    | none =>
      obtain rfl : t = [] := List.map_eq_nil_iff.mp h.symm
      rfl
    | some o =>
      have hmem : Piece.broken o.seen ∈ t.map .char := h ▸ List.mem_singleton_self _
      simp at hmem
  | cons b bs ih =>
    rw [piecesFrom] at h
    rcases feed_cases hst b with ⟨bytes, hbroken⟩ | ⟨o, hfeed, ho, hseen⟩ | ⟨c, hfeed, hc⟩
    · have hmem : Piece.broken bytes ∈ t.map .char := h ▸ List.mem_append_left _ hbroken
      simp at hmem
    · rw [hfeed] at h
      have hrest : pending (some o) ++ bs = encode t := ih (by simpa using ho) h
      rw [← hrest, pending, hseen, List.append_cons]
    · rw [hfeed] at h
      obtain ⟨c', t, rfl, hc', hrest⟩ := List.map_eq_cons_iff.mp h.symm
      obtain rfl : c' = c := by simpa using hc'
      have hbs : bs = encode t := ih (by simp) hrest.symm
      rw [encode_cons, hc, ← hbs, List.append_cons]

theorem mapM_char?_eq_some {ps : List Piece} {t : Text} (h : ps.mapM Piece.char? = some t) :
    ps = t.map .char := by
  induction ps generalizing t with
  | nil =>
    cases h
    rfl
  | cons p ps ih =>
    rw [List.mapM_cons] at h
    obtain ⟨c, hc, h⟩ := Option.bind_eq_some_iff.mp h
    obtain ⟨t, ht, h⟩ := Option.bind_eq_some_iff.mp h
    cases h
    cases p with
    | char c' =>
      cases hc
      rw [List.map_cons, ← ih ht]
    | broken bytes => cases hc

theorem encode_eq_nil_iff {t : Text} : encode t = [] ↔ t = [] := by
  constructor
  · intro h
    have hdecoded := decode?_encode t
    rw [h] at hdecoded
    exact (Option.some.inj hdecoded).symm
  · rintro rfl
    rfl

theorem decode?_eq_some_iff {bs : Bytes} {t : Text} : decode? bs = some t ↔ bs = encode t := by
  constructor
  · intro h
    have hnone : ∀ o ∈ (none : Option Begun), o.Sound := by simp
    exact eq_encode_of_piecesFrom hnone (mapM_char?_eq_some h)
  · rintro rfl
    exact decode?_encode t

end ConsoleRelay.Utf8
