import ConsoleRelay.Proofs.Message.Storage
import ConsoleRelay.Trace

/-!
What a message shows of a text that may be too long.

For texts written in pieces the result depends on their concatenation alone and is never anything
but UTF-8. For renderings, which may hold any bytes, the cut never changes how what is kept reads.
-/
namespace ConsoleRelay.Message
open Utf8

theorem marker_eq : marker = encode "...".toList := rfl

/-- The message of a text that does not fit is the longest beginning that leaves room for the
marker, and the marker. -/
theorem ofRendered_encode_long {t : Text} (h : 255 < (encode t).length) :
    ∃ p, LongestWithin 252 t p ∧ (ofRendered (encode t)).truncated = true ∧
      (ofRendered (encode t)).bytes = encode (p ++ "...".toList) := by
  obtain ⟨c, hc, hcut, hbytes⟩ := bytes_ofRendered_long h
  obtain ⟨p, hp, hpc⟩ := longestWithin_of_greatest (by omega) hc
  refine ⟨p, hp, hcut, ?_⟩
  rw [hbytes, ← hpc, marker_eq, encode_append]

/-- Writing texts one after the other keeps the whole while it fits in 255 bytes, and else the
longest beginning of at most 252 bytes with the marker behind it. No write is refused, how the text
was divided does not matter, and the result is always UTF-8. -/
theorem format_of_texts (parts : List Text) :
    let whole := parts.flatten
    let m := format (parts.map encode)
    (parts.map encode).foldlM write? empty = some m ∧ m = format [encode whole] ∧
      decode? m.bytes = some m.lossy ∧
      if (encode whole).length ≤ 255 then
        m.truncated = false ∧ m.bytes = encode whole ∧ m.lossy = whole
      else
        m.truncated = true ∧ 252 ≤ m.bytes.length ∧ m.bytes.length ≤ 255 ∧
          ∃ p, LongestWithin 252 whole p ∧ m.bytes = encode (p ++ "...".toList) ∧
            m.lossy = p ++ "...".toList := by
  intro whole m
  have hm : m = ofRendered (encode whole) := by
    rw [encode_flatten]
    exact format_eq_ofRendered _
  have hrun : (parts.map encode).foldlM write? empty = some m := by
    rw [hm, encode_flatten, ← ofRendered_nil]
    exact foldlM_write? [] (parts.map encode)
  have hone : m = format [encode whole] := by
    rw [hm, format_eq_ofRendered, List.flatten_singleton]
  refine ⟨hrun, hone, ?_⟩
  split_ifs with hfits
  · obtain ⟨hcut, hbytes⟩ := bytes_ofRendered_short hfits
    rw [← hm] at hcut hbytes
    simp [lossy, hbytes, hcut]
  · have hlong := Nat.lt_of_not_le hfits
    obtain ⟨p, hp, hcut, hbytes⟩ := ofRendered_encode_long hlong
    rw [← hm] at hcut hbytes
    have hge := hp.length_ge (by omega)
    have hle := hp.fits
    have hlen : m.bytes.length = (encode p).length + 3 := by
      rw [hbytes, encode_append, List.length_append]
      rfl
    have hlossy : m.lossy = p ++ "...".toList := by rw [lossy, hbytes, lossy_encode]
    refine ⟨?_, hcut, by omega, by omega, p, hp, hbytes, hlossy⟩
    rw [hlossy, hbytes, decode?_encode]

/-- The message of any rendering is the rendering itself while it fits, and else what stands in
front of its last boundary at or before byte 252, with the marker behind it. What is kept reads as
the beginning of the whole reads, also where the bytes are not UTF-8. -/
theorem message_of_rendering (r : Bytes) :
    ∃ m, ofRendered? r = some m ∧
      (∀ format args, Format.render format args = .ok r → Trace.message format args = .ok m) ∧
      if r.length ≤ 255 then m.truncated = false ∧ m.bytes = r
      else
        m.truncated = true ∧ ∃ c, IsGreatest {d | d ≤ 252 ∧ Boundary r d} c ∧
          m.bytes = r.take c ++ ofString "..." ∧
          m.lossy = Utf8.lossy (r.take c) ++ "...".toList ∧
          Utf8.lossy (r.take c) <+: Utf8.lossy r := by
  refine ⟨ofRendered r, ofRendered?_eq_some r, ?_, ?_⟩
  · intro format args h
    simp only [Trace.message, h]
  split_ifs with hfits
  · exact bytes_ofRendered_short hfits
  · obtain ⟨c, hc, hcut, hbytes⟩ := bytes_ofRendered_long (Nat.lt_of_not_le hfits)
    refine ⟨hcut, c, hc, hbytes, ?_, lossy_take_prefix hc.1.2⟩
    rw [lossy, hbytes]
    exact lossy_append _ _ (by decide)

example : (ofRendered (List.replicate 300 0x80)).bytes = ofString "..." := by decide +kernel

end ConsoleRelay.Message
