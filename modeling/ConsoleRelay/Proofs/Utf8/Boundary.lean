import ConsoleRelay.Proofs.Utf8.Encoding
import Mathlib.Order.Bounds.Basic

/-!
Positions where bytes may be cut.

A boundary is the front or a byte that continues nothing. Whatever the bytes are, lossy decoding
splits there, because such a byte breaks off any character that is still open and is read afresh.
In encoded text the boundaries before the end are the places between characters.
-/
namespace ConsoleRelay.Utf8

/-- A position that is the front or holds a byte not of the form `10xxxxxx`. -/
def Boundary (bs : Bytes) (i : Nat) : Prop := i = 0 ∨ ∃ b, bs[i]? = some b ∧ b &&& 0xC0 ≠ 0x80

theorem isContinuation_iff_mask (b : UInt8) : isContinuation b = true ↔ b &&& 0xC0 = 0x80 := by
  have h : ∀ n < 256, isContinuation (UInt8.ofNat n) = true ↔ UInt8.ofNat n &&& 0xC0 = 0x80 := by
    decide +kernel
  simpa using h b.toNat b.toNat_lt

theorem boundary_iff {bs : Bytes} {i : Nat} :
    Boundary bs i ↔ i = 0 ∨ ∃ b, bs[i]? = some b ∧ isContinuation b = false := by
  simp only [Boundary, ne_eq, ← isContinuation_iff_mask, Bool.not_eq_true]

/-- The range of the next byte holds continuation bytes only. -/
def Begun.Expects (o : Begun) : Prop := 0x80 ≤ o.low ∧ o.high ≤ 0xBF

theorem lead_expects {b : UInt8} {o : Begun} (h : lead b = some o) : o.Expects := by
  unfold lead at h
  split_ifs at h <;> cases h <;> simp [Begun.Expects]

theorem start_expects (b : UInt8) : ∀ o ∈ (start b).2, o.Expects := by
  intro o ho
  unfold start at ho
  split_ifs at ho
  · simp at ho
  · cases hl : lead b with
    | none => simp [hl] at ho
    | some l =>
      simp only [hl, Option.mem_def, Option.some.injEq] at ho
      exact ho ▸ lead_expects hl

/-- Whatever is read, an open character goes on expecting continuation bytes only. -/
theorem feed_expects (st : Option Begun) (b : UInt8) : ∀ o ∈ (feed st b).2, o.Expects := by
  intro o ho
  cases st with
  | none => exact start_expects b o ho
  | some p =>
    simp only [feed] at ho
    split_ifs at ho with hf
    · unfold extend at ho
      dsimp only at ho
      split_ifs at ho
      · simp at ho
      · simp only [Option.mem_def, Option.some.injEq] at ho
        subst ho
        simp [Begun.Expects]
    · exact start_expects b o ho

/-- A byte that continues nothing ends the open character and is read afresh. -/
theorem feed_of_not_continuation {st : Option Begun} {b : UInt8} (hst : ∀ o ∈ st, o.Expects)
    (hb : isContinuation b = false) : feed st b = (finish st ++ (start b).1, (start b).2) := by
  cases st with
  | none => rfl
  | some o =>
    obtain ⟨hl, hh⟩ := hst o rfl
    have hout : ¬ (o.low ≤ b ∧ b ≤ o.high) := by
      intro hin
      have hc : isContinuation b = true := by
        rw [isContinuation_iff]
        simp only [UInt8.le_iff_toNat_le, UInt8.reduceToNat] at hl hh hin
        omega
      exact absurd hc (by simp [hb])
    simp [feed, finish, hout]

theorem piecesFrom_of_not_continuation {st : Option Begun} {b : UInt8} (bs : Bytes)
    (hst : ∀ o ∈ st, o.Expects) (hb : isContinuation b = false) :
    piecesFrom st (b :: bs) = finish st ++ pieces (b :: bs) := by
  simp only [pieces, piecesFrom, feed_of_not_continuation hst hb, List.append_assoc]
  rfl

/-- Reading splits in front of a byte that continues nothing. -/
theorem piecesFrom_append {st : Option Begun} {b : UInt8} (as bs : Bytes)
    (hst : ∀ o ∈ st, o.Expects) (hb : isContinuation b = false) :
    piecesFrom st (as ++ b :: bs) = piecesFrom st as ++ pieces (b :: bs) := by
  induction as generalizing st with
  | nil => exact piecesFrom_of_not_continuation bs hst hb
  | cons a as ih =>
    simp only [List.cons_append, piecesFrom, ih (feed_expects st a), List.append_assoc]

theorem lossy_append {b : UInt8} (as bs : Bytes) (hb : isContinuation b = false) :
    lossy (as ++ b :: bs) = lossy as ++ lossy (b :: bs) := by
  have h := @piecesFrom_append none b as bs (by simp) hb
  simp only [lossy, pieces] at h ⊢
  rw [h, List.map_append]

/-- The text up to a boundary is a beginning of the whole text, also for bytes that are not
UTF-8. -/
theorem lossy_take_prefix {bs : Bytes} {i : Nat} (h : Boundary bs i) :
    lossy (bs.take i) <+: lossy bs := by
  rcases boundary_iff.mp h with rfl | ⟨b, hi, hb⟩
  · exact List.nil_prefix
  · obtain ⟨hlt, rfl⟩ := List.getElem?_eq_some_iff.mp hi
    have hsplit := lossy_append (bs.take i) (bs.drop (i + 1)) hb
    rw [← List.drop_eq_getElem_cons hlt, List.take_append_drop] at hsplit
    exact ⟨_, hsplit.symm⟩

/-- A character is one byte that starts it and bytes that continue it. -/
theorem encodeChar_shape (c : Char) : ∃ b bs, String.utf8EncodeChar c = b :: bs ∧
    isContinuation b = false ∧ ∀ x ∈ bs, isContinuation x = true := by
  have hlead {n : Nat} (hn : n < 256) (h : n < 0x80 ∨ 0xC0 ≤ n) :
      isContinuation (UInt8.ofNat n) = false := by
    rw [← Bool.not_eq_true, isContinuation_iff, UInt8.toNat_ofNat_of_lt' hn]
    omega
  have hrest (n : Nat) : isContinuation (UInt8.ofNat (n % 0x40 + 0x80)) = true :=
    isContinuation_ofNat (Nat.mod_lt _ (by decide))
  fun_cases String.utf8EncodeChar with
  | case1 v h1 => exact ⟨_, _, rfl, hlead (by omega) (by omega), by simp⟩
  | case2 v h1 h2 =>
    exact ⟨_, _, rfl, hlead (by omega) (by omega), List.forall_mem_singleton.mpr (hrest _)⟩
  | case3 v h1 h2 h3 =>
    refine ⟨_, _, rfl, hlead (by omega) (by omega), ?_⟩
    exact List.forall_mem_cons.mpr ⟨hrest _, List.forall_mem_singleton.mpr (hrest _)⟩
  | case4 v h1 h2 h3 =>
    refine ⟨_, _, rfl, hlead (by omega) (by omega), ?_⟩
    exact List.forall_mem_cons.mpr ⟨hrest _,
      List.forall_mem_cons.mpr ⟨hrest _, List.forall_mem_singleton.mpr (hrest _)⟩⟩

/-- Inside a character no position is a boundary. -/
theorem encodeChar_interior {c : Char} {i : Nat} {b : UInt8} (hi : 0 < i)
    (hb : (String.utf8EncodeChar c)[i]? = some b) : isContinuation b = true := by
  obtain ⟨a, as, heq, -, has⟩ := encodeChar_shape c
  obtain ⟨j, rfl⟩ : ∃ j, i = j + 1 := ⟨i - 1, by omega⟩
  rw [heq, List.getElem?_cons_succ] at hb
  exact has b (List.mem_of_getElem? hb)

/-- A boundary of encoded text is the end of some of its characters. -/
theorem exists_prefix_of_boundary {t : Text} {i : Nat} (h : Boundary (encode t) i) :
    ∃ p, p <+: t ∧ (encode p).length = i := by
  rw [boundary_iff] at h
  induction t generalizing i with
  | nil =>
    rcases h with rfl | ⟨b, hi, -⟩
    · exact ⟨[], List.nil_prefix, rfl⟩
    · simp at hi
  | cons c t ih =>
    rcases h with rfl | ⟨b, hi, hb⟩
    · exact ⟨[], List.nil_prefix, rfl⟩
    rw [encode_cons] at hi
    by_cases hlt : i < (String.utf8EncodeChar c).length
    · rw [List.getElem?_append_left hlt] at hi
      rcases Nat.eq_zero_or_pos i with rfl | hpos
      · exact ⟨[], List.nil_prefix, rfl⟩
      · simp [encodeChar_interior hpos hi] at hb
    · have hle := Nat.not_lt.mp hlt
      rw [List.getElem?_append_right hle] at hi
      obtain ⟨p, hp, hlen⟩ := ih (.inr ⟨b, hi, hb⟩)
      refine ⟨c :: p, List.cons_prefix_cons.mpr ⟨rfl, hp⟩, ?_⟩
      rw [encode_cons, List.length_append, hlen]
      omega

/-- The end of some characters of a text, but not of all, is a boundary. -/
theorem boundary_of_prefix {p t : Text} (hp : p <+: t)
    (hlt : (encode p).length < (encode t).length) : Boundary (encode t) (encode p).length := by
  obtain ⟨q, rfl⟩ := hp
  cases q with
  | nil => simp at hlt
  | cons c q =>
    obtain ⟨b, bs, heq, hb, -⟩ := encodeChar_shape c
    refine boundary_iff.mpr (.inr ⟨b, ?_, hb⟩)
    rw [encode_append, encode_cons, heq, List.getElem?_append_right le_rfl]
    simp

/-- `p` is the longest beginning of a text that takes at most `n` bytes. -/
structure LongestWithin (n : Nat) (t p : Text) : Prop where
  isPrefix : p <+: t
  fits : (encode p).length ≤ n
  longest : ∀ q, q <+: t → (encode q).length ≤ n → q <+: p

/-- In a text that does not fit, the last boundary within a limit ends the longest beginning that
does. -/
theorem longestWithin_of_greatest {t : Text} {n i : Nat} (hn : n < (encode t).length)
    (hi : IsGreatest {j | j ≤ n ∧ Boundary (encode t) j} i) :
    ∃ p, LongestWithin n t p ∧ encode p = (encode t).take i := by
  obtain ⟨p, hp, hlen⟩ := exists_prefix_of_boundary hi.1.2
  refine ⟨p, ⟨hp, hlen ▸ hi.1.1, fun q hq hle => ?_⟩, ?_⟩
  · have hqi : (encode q).length ≤ i := hi.2 ⟨hle, boundary_of_prefix hq (by omega)⟩
    rcases List.prefix_or_prefix_of_prefix hq hp with h | h
    · exact h
    · obtain ⟨r, rfl⟩ := h
      have hr : r = [] := by
        cases r with
        | nil => rfl
        | cons c r =>
          have hpos := c.utf8Size_pos
          simp only [encode_append, encode_cons, List.length_append,
            String.length_utf8EncodeChar] at hqi
          omega
      simp [hr]
  · obtain ⟨q, rfl⟩ := hp
    simp [← hlen]

/-- At most three bytes are left free by the longest beginning of a text that does not fit. -/
theorem LongestWithin.length_ge {n : Nat} {t p : Text} (h : LongestWithin n t p)
    (hn : n < (encode t).length) : n < (encode p).length + 4 := by
  obtain ⟨q, hq⟩ := h.isPrefix
  cases q with
  | nil =>
    have hfits := h.fits
    rw [List.append_nil] at hq
    subst hq
    omega
  | cons c q =>
    by_contra hle
    have hfour := c.utf8Size_le_four
    have hlong : p ++ [c] <+: p := by
      apply h.longest
      · exact ⟨q, by simpa using hq⟩
      · simp only [encode_append, encode_cons, encode_nil, List.length_append,
          String.length_utf8EncodeChar, List.length_nil]
        omega
    have hlen := hlong.length_le
    rw [List.length_append, List.length_singleton] at hlen
    omega

end ConsoleRelay.Utf8
