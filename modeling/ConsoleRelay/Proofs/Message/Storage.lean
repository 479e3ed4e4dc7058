import ConsoleRelay.Message
import ConsoleRelay.Proofs.Utf8.Boundary

/-!
The storage of a bounded message.

Writing a text in pieces and rendering it at once fill the same cells: up to 255 bytes the whole
text, beyond that the text up to the last boundary at or before byte 252 and the marker. The
invariant of a sequence of writes is that the message is the one of the text written so far; no
access to the storage is ever out of range.
-/
namespace ConsoleRelay.Message
open Utf8

/-- The storage of a text before it is cut: as much as fits, then zeros. -/
def filled (t : Bytes) : Bytes := t.take 255 ++ List.replicate (256 - min 255 t.length) 0

@[simp] theorem length_filled (t : Bytes) : (filled t).length = 256 := by
  simp only [filled, List.length_append, List.length_take, List.length_replicate]
  omega

theorem filled_of_le {t : Bytes} (h : t.length ≤ 255) :
    filled t = t ++ List.replicate (256 - t.length) 0 := by
  rw [filled, List.take_of_length_le h, Nat.min_eq_right h]

theorem filled_append_of_lt {t : Bytes} (s : Bytes) (h : 255 < t.length) :
    filled (t ++ s) = filled t := by
  rw [filled, filled, List.take_append_of_le_length (by omega), List.length_append,
    Nat.min_eq_left (by omega), Nat.min_eq_left (by omega)]

theorem filled_getElem? {t : Bytes} {i : Nat} (hi : i < 255) (ht : i < t.length) :
    (filled t)[i]? = t[i]? := by
  rw [filled, List.getElem?_append_left (by simp; omega), List.getElem?_take_of_lt hi]

theorem store?_after (front src rest : Bytes) (h : src.length ≤ rest.length) :
    store? (front ++ rest) front.length src = some (front ++ src ++ rest.drop src.length) := by
  rw [store?, if_pos (by simpa using h)]
  simp [List.drop_append]

theorem store?_filled {t s : Bytes} (h : t.length + s.length ≤ 255) :
    store? (filled t) t.length s = some (filled (t ++ s)) := by
  rw [filled_of_le (by omega), filled_of_le (by simpa using h),
    store?_after t s _ (by simp; omega)]
  simp [Nat.sub_sub]

theorem store?_terminator {t : Bytes} (h : t.length ≤ 255) :
    store? (filled t) t.length [0] = some (filled t) := by
  obtain ⟨k, hk⟩ : ∃ k, 256 - t.length = k + 1 := ⟨255 - t.length, by omega⟩
  rw [filled_of_le h, store?_after t [0] _ (by simp; omega), hk, List.replicate_succ]
  simp

theorem filled_take (t : Bytes) : filled (t.take 255) = filled t := by
  simp [filled, List.take_take, List.length_take]

theorem ofRendered?_eq (t : Bytes) : ofRendered? t =
    if t.length ≤ 255 then some ⟨filled t, t.length, false⟩
    else markTruncated? ⟨filled t, 255, false⟩ := by
  have hstore : store? empty.cells 0 (t.take maxLen ++ [0]) = some (filled t) := by
    obtain ⟨k, hk⟩ : ∃ k, 256 - min 255 t.length = k + 1 := ⟨255 - min 255 t.length, by omega⟩
    have hlen : (t.take 255 ++ [0]).length = min 255 t.length + 1 := by simp
    have h := store?_after [] (t.take 255 ++ [0]) (List.replicate 256 0) (by
      rw [hlen, List.length_replicate]; omega)
    rw [hlen, List.drop_replicate, show 256 - (min 255 t.length + 1) = k by omega] at h
    rw [List.nil_append, List.nil_append, List.append_assoc, List.singleton_append] at h
    rw [filled, hk, List.replicate_succ]
    exact h
  simp only [ofRendered?, hstore]
  rfl

/-- Writing to a message that is not cut goes on with its text. -/
theorem write?_filled {t : Bytes} (s : Bytes) (ht : t.length ≤ 255) :
    write? ⟨filled t, t.length, false⟩ s = ofRendered? (t ++ s) := by
  rw [ofRendered?_eq]
  by_cases hs : s = []
  · subst hs
    simp [write?, ht]
  have hroom : room? ⟨filled t, t.length, false⟩ = some (255 - t.length) := if_pos ht
  have hlen : (s.take (255 - t.length)).length = min (255 - t.length) s.length :=
    List.length_take
  have hfill : filled (t ++ s.take (255 - t.length)) = filled (t ++ s) := by
    rw [← filled_take (t ++ s), List.take_append, List.take_of_length_le ht]
  have hstore := store?_filled (t := t) (s := s.take (255 - t.length)) (by omega)
  have hend := store?_terminator (t := t ++ s.take (255 - t.length)) (by simp; omega)
  rw [hfill] at hstore hend
  rw [List.length_append] at hend
  simp only [write?, hroom, hstore, hend, Bool.false_or, List.isEmpty_iff, hs, ↓reduceIte,
    Option.bind_eq_bind, Option.bind_some]
  rw [hlen, List.length_append]
  split_ifs with h1 h2
  · omega
  · rw [show t.length + min (255 - t.length) s.length = 255 by omega]
  · rw [show min (255 - t.length) s.length = s.length by omega]
  · omega

/-- A message that was cut takes no more text. -/
theorem write?_truncated {m : Message} (s : Bytes) (h : m.truncated = true) :
    write? m s = some m := by
  simp [write?, h]

theorem markTruncated?_truncated {m m' : Message} (h : markTruncated? m = some m') :
    m'.truncated = true := by
  simp only [markTruncated?, Option.bind_eq_bind, Option.bind_eq_some_iff] at h
  obtain ⟨_, _, _, _, _, _, hm⟩ := h
  exact Option.some.inj hm ▸ rfl

/-- The step of a sequence of writes: the message of a text and a piece more is the message of the
two joined. -/
theorem write?_ofRendered {t : Bytes} {m : Message} (s : Bytes) (h : ofRendered? t = some m) :
    write? m s = ofRendered? (t ++ s) := by
  rw [ofRendered?_eq] at h
  by_cases ht : t.length ≤ 255
  · rw [if_pos ht] at h
    cases h
    exact write?_filled s ht
  · rw [if_neg ht] at h
    rw [write?_truncated s (markTruncated?_truncated h), ofRendered?_eq,
      if_neg (by rw [List.length_append]; omega), filled_append_of_lt s (by omega), h]

/-- Backing off finds the last boundary at or before a position of the storage. -/
theorem backOff?_greatest {cells : Bytes} {n : Nat} (hn : n < cells.length) :
    ∃ c, backOff? cells n = some c ∧ IsGreatest {d | d ≤ n ∧ Boundary cells d} c := by
  induction n with
  | zero => exact ⟨0, rfl, ⟨le_rfl, .inl rfl⟩, fun d hd => hd.1⟩
  | succ n ih =>
    have hget : cells[n + 1]? = some cells[n + 1] := List.getElem?_eq_getElem hn
    cases hb : isContinuation cells[n + 1] with
    | false =>
      refine ⟨n + 1, by simp [backOff?, hget, hb], ⟨le_rfl, ?_⟩, fun d hd => hd.1⟩
      exact boundary_iff.mpr (.inr ⟨_, hget, hb⟩)
    | true =>
      obtain ⟨c, hc, ⟨hle, hbound⟩, hgreatest⟩ := ih (by omega)
      refine ⟨c, by simp [backOff?, hget, hb, hc], ⟨by omega, hbound⟩, fun d hd => ?_⟩
      apply hgreatest
      refine ⟨?_, hd.2⟩
      rcases boundary_iff.mp hd.2 with rfl | ⟨b, hdget, hdb⟩
      · omega
      · have hne : d ≠ n + 1 := by
          rintro rfl
          rw [hget, Option.some.injEq] at hdget
          rw [← hdget, hb] at hdb
          exact absurd hdb (by decide)
        have hle := hd.1
        omega

/-- A text that does not fit is kept up to its last boundary at or before byte 252. -/
theorem ofRendered?_long {t : Bytes} (ht : 255 < t.length) :
    ∃ c rest, IsGreatest {d | d ≤ 252 ∧ Boundary t d} c ∧
      ofRendered? t = some ⟨t.take c ++ marker ++ 0 :: rest, c + 3, true⟩ := by
  obtain ⟨c, hback, hc⟩ := @backOff?_greatest (filled t) 252 (by simp)
  have hset : {d | d ≤ 252 ∧ Boundary (filled t) d} = {d | d ≤ 252 ∧ Boundary t d} := by
    ext d
    simp only [Set.mem_ofPred_eq, and_congr_right_iff]
    intro hd
    rw [Boundary, Boundary, filled_getElem? (by omega) (by omega)]
  rw [hset] at hc
  have hle : c ≤ 252 := hc.1.1
  have hfront : (filled t).take c = t.take c := by
    rw [filled, List.take_append_of_le_length (by simp; omega), List.take_take,
      Nat.min_eq_left (by omega)]
  have hlen : (t.take c).length = c := by simp; omega
  have hmarked : store? (filled t) c marker =
      some (t.take c ++ marker ++ (filled t).drop (c + 3)) := by
    have h := store?_after (t.take c) marker ((filled t).drop c) (by simp [marker]; omega)
    rwa [hlen, ← hfront, List.take_append_drop, hfront, List.drop_drop] at h
  have hended : store? (t.take c ++ marker ++ (filled t).drop (c + 3)) (c + marker.length) [0] =
      some (t.take c ++ marker ++ 0 :: (filled t).drop (c + 4)) := by
    have h := store?_after (t.take c ++ marker) [0] ((filled t).drop (c + 3)) (by simp; omega)
    rwa [List.length_append, hlen, List.drop_drop, List.append_assoc _ [0]] at h
  refine ⟨c, (filled t).drop (c + 4), hc, ?_⟩
  rw [ofRendered?_eq, if_neg (by omega)]
  simp only [markTruncated?, show min (maxLen - marker.length) 255 = 252 from rfl, hback, hmarked,
    hended, Option.bind_eq_bind, Option.bind_some]
  rfl

theorem ofRendered?_eq_some (t : Bytes) : ofRendered? t = some (ofRendered t) := by
  have h : ∃ m, ofRendered? t = some m := by
    by_cases ht : t.length ≤ 255
    · exact ⟨_, by rw [ofRendered?_eq, if_pos ht]⟩
    · obtain ⟨c, rest, -, h⟩ := ofRendered?_long (Nat.lt_of_not_le ht)
      exact ⟨_, h⟩
  obtain ⟨m, hm⟩ := h
  rw [ofRendered, hm, Option.getD_some]

theorem write_ofRendered (t s : Bytes) : (ofRendered t).write s = ofRendered (t ++ s) := by
  rw [write, write?_ofRendered s (ofRendered?_eq_some t), ofRendered?_eq_some, Option.getD_some]

theorem ofRendered_nil : ofRendered [] = empty := by
  rw [ofRendered, ofRendered?_eq, if_pos (by simp), Option.getD_some]
  rfl

/-- Every write of a sequence is accepted, and the message is that of the text written so far. -/
theorem foldlM_write? (t : Bytes) (parts : List Bytes) :
    parts.foldlM write? (ofRendered t) = some (ofRendered (t ++ parts.flatten)) := by
  induction parts generalizing t with
  | nil => simp
  | cons s parts ih =>
    rw [List.foldlM_cons, write?_ofRendered s (ofRendered?_eq_some t), ofRendered?_eq_some]
    simpa using ih (t ++ s)

theorem writeAll_ofRendered (t : Bytes) (parts : List Bytes) :
    (ofRendered t).writeAll parts = ofRendered (t ++ parts.flatten) := by
  induction parts generalizing t with
  | nil => simp [writeAll]
  | cons s parts ih =>
    have h := ih (t ++ s)
    simp only [writeAll, List.foldl_cons, write_ofRendered] at h ⊢
    simpa using h

/-- A text written piece by piece gives the message of the whole. -/
theorem format_eq_ofRendered (parts : List Bytes) : format parts = ofRendered parts.flatten := by
  rw [format, ← ofRendered_nil, writeAll_ofRendered, List.nil_append]

theorem bytes_mk {text rest : Bytes} {n : Nat} (b : Bool) (h : text.length = n) :
    (⟨text ++ rest, n, b⟩ : Message).bytes = text :=
  List.take_left' h

/-- With its terminator in place, a message is a C string: its text up to the first NUL. -/
theorem cString?_of_terminated {m : Message} (h : m.cells[m.len]? = some 0) :
    cString? m = some (m.bytes.takeWhile (· != 0)) := by
  have hlt : m.len < m.cells.length := (List.getElem?_eq_some_iff.mp h).1
  have hslice : m.cells.take (m.len + 1) = m.bytes ++ [0] := by
    rw [List.take_add_one, h]
    rfl
  simp only [cString?, hslice]
  rw [if_pos hlt, if_pos (by simp), List.takeWhile_append]
  split_ifs with hall
  · simp [(List.takeWhile_prefix (· != 0)).eq_of_length hall]
  · rfl

/-- A text that fits is held whole, with its terminator behind it. -/
theorem ofRendered_short {t : Bytes} (h : t.length ≤ 255) :
    ∃ rest, ofRendered t = ⟨t ++ 0 :: rest, t.length, false⟩ := by
  obtain ⟨k, hk⟩ : ∃ k, 256 - t.length = k + 1 := ⟨255 - t.length, by omega⟩
  refine ⟨List.replicate k 0, ?_⟩
  rw [ofRendered, ofRendered?_eq, if_pos h, Option.getD_some, filled_of_le h, hk,
    List.replicate_succ]

theorem ofRendered_long {t : Bytes} (h : 255 < t.length) :
    ∃ c rest, IsGreatest {d | d ≤ 252 ∧ Boundary t d} c ∧
      ofRendered t = ⟨t.take c ++ marker ++ 0 :: rest, (t.take c ++ marker).length, true⟩ := by
  obtain ⟨c, rest, hc, hsome⟩ := ofRendered?_long h
  have hle : c ≤ 252 := hc.1.1
  have hlen : (t.take c ++ marker).length = c + 3 := by simp [marker]; omega
  exact ⟨c, rest, hc, by rw [ofRendered, hsome, Option.getD_some, hlen]⟩

theorem bytes_ofRendered_short {t : Bytes} (h : t.length ≤ 255) :
    (ofRendered t).truncated = false ∧ (ofRendered t).bytes = t := by
  obtain ⟨rest, heq⟩ := ofRendered_short h
  rw [heq]
  exact ⟨rfl, bytes_mk false rfl⟩

theorem bytes_ofRendered_long {t : Bytes} (h : 255 < t.length) :
    ∃ c, IsGreatest {d | d ≤ 252 ∧ Boundary t d} c ∧ (ofRendered t).truncated = true ∧
      (ofRendered t).bytes = t.take c ++ marker := by
  obtain ⟨c, rest, hc, heq⟩ := ofRendered_long h
  refine ⟨c, hc, ?_⟩
  rw [heq]
  exact ⟨rfl, bytes_mk true rfl⟩

theorem truncated_ofRendered (t : Bytes) : (ofRendered t).truncated = decide (255 < t.length) := by
  by_cases h : t.length ≤ 255
  · rw [(bytes_ofRendered_short h).1, decide_eq_false (Nat.not_lt.mpr h)]
  · have hlong := Nat.lt_of_not_le h
    obtain ⟨c, -, hcut, -⟩ := bytes_ofRendered_long hlong
    rw [hcut, decide_eq_true hlong]

theorem terminated_ofRendered (t : Bytes) :
    (ofRendered t).cells[(ofRendered t).len]? = some 0 := by
  have hend (text rest : Bytes) : (text ++ 0 :: rest)[text.length]? = some 0 := by simp
  by_cases h : t.length ≤ 255
  · obtain ⟨rest, heq⟩ := ofRendered_short h
    rw [heq]
    exact hend t rest
  · obtain ⟨c, rest, -, heq⟩ := ofRendered_long (Nat.lt_of_not_le h)
    rw [heq]
    exact hend (t.take c ++ marker) rest

/-- A sink is handed the bytes of a message up to the first NUL. -/
theorem cString_ofRendered (t : Bytes) :
    (ofRendered t).cString = (ofRendered t).bytes.takeWhile (· != 0) := by
  rw [cString, cString?_of_terminated (terminated_ofRendered t), Option.getD_some]

end ConsoleRelay.Message
