import ConsoleRelay.Toml.Document
import Mathlib.Data.List.Nodup

/-!
What every document's table is like.

Headers and keys only ever add a key that was not there or change what is below one, and a value is
written with its key once. So no key of a table occurs twice, and every number in it has 64 bits,
along the whole of any document.
-/
namespace ConsoleRelay.Toml

/-- A value that is an integer has 64 bits. -/
def Value.InRange : Value → Prop
  | .integer i => -9223372036854775808 ≤ i ∧ i < 9223372036854775808
  | _ => True

namespace Table

/-- The invariant of a table on its top level. -/
structure Sound (t : Table) : Prop where
  distinct : (t.map Prod.fst).Nodup
  ranged : ∀ f ∈ t, f.2.InRange

theorem sound_nil : Sound [] := ⟨List.nodup_nil, fun _ h => absurd h List.not_mem_nil⟩

theorem find?_eq_none_iff {t : Table} {key : Text} :
    t.find? key = none ↔ key ∉ t.map Prod.fst := by
  rw [find?, List.lookup_eq_none_iff]
  simp only [bne_iff_ne, List.mem_map, not_exists, not_and]
  exact ⟨fun h f hf heq => h f hf heq.symm, fun h f hf heq => h f hf heq.symm⟩

theorem mem_of_find? {t : Table} {key : Text} {v : Value} (h : t.find? key = some v) :
    (key, v) ∈ t := by
  obtain ⟨before, after, rfl, -⟩ := List.lookup_eq_some_iff.mp h
  exact List.mem_append_right _ List.mem_cons_self

/-- Where keys are distinct, a table holds a key's value if and only if that is what is found. -/
theorem find?_eq_some_iff {t : Table} (ht : (t.map Prod.fst).Nodup) {key : Text} {v : Value} :
    t.find? key = some v ↔ (key, v) ∈ t := by
  refine ⟨mem_of_find?, fun h => ?_⟩
  obtain ⟨before, after, rfl⟩ := List.append_of_mem h
  refine List.lookup_eq_some_iff.mpr ⟨before, after, rfl, fun f hf => bne_iff_ne.mpr ?_⟩
  rw [List.map_append, List.map_cons] at ht
  rintro rfl
  exact List.disjoint_of_nodup_append ht (List.mem_map_of_mem hf) List.mem_cons_self

theorem Sound.append {t : Table} (ht : Sound t) {key : Text} {v : Value}
    (hnew : t.find? key = none) (hv : v.InRange) : Sound (t ++ [(key, v)]) where
  distinct := by
    rw [List.map_append, List.map_singleton, ← List.concat_eq_append]
    exact ht.distinct.concat (find?_eq_none_iff.mp hnew)
  ranged := by
    rw [List.forall_mem_append]
    exact ⟨ht.ranged, List.forall_mem_singleton.mpr hv⟩

theorem Sound.of_append {t t' : Table} {key : Text} {v : Value}
    (h : (t ++ (key, v) :: t' : Table).Sound) : t.find? key = none ∧ v.InRange := by
  have hdistinct := h.distinct
  rw [List.map_append, List.map_cons] at hdistinct
  have hmember : (key, v) ∈ t ++ (key, v) :: t' := List.mem_append_right _ List.mem_cons_self
  refine ⟨find?_eq_none_iff.mpr fun hmem => ?_, h.ranged _ hmember⟩
  exact List.disjoint_of_nodup_append hdistinct hmem List.mem_cons_self

theorem Sound.perm {t t' : Table} (ht : Sound t) (h : t'.Perm t) : Sound t' where
  distinct := (h.map Prod.fst).nodup_iff.mpr ht.distinct
  ranged f hf := ht.ranged f (h.mem_iff.mp hf)

theorem Sound.set {t : Table} (ht : Sound t) (key : Text) {v : Value} (hv : v.InRange) :
    Sound (t.set key v) := by
  rw [Table.set]
  split
  · have hkeys : (t.map fun f => if f.1 = key then (key, v) else f).map Prod.fst =
        t.map Prod.fst := by
      rw [List.map_map]
      apply List.map_congr_left
      intro f _
      simp only [Function.comp_apply]
      split <;> simp_all
    refine ⟨hkeys ▸ ht.distinct, fun f hf => ?_⟩
    obtain ⟨g, hg, rfl⟩ := List.mem_map.mp hf
    split
    · exact hv
    · exact ht.ranged g hg
  · next hnone => exact ht.append (by simpa using hnone) hv

theorem Sound.insertNew {t t' : Table} (ht : Sound t) {key : Text} {v : Value} (hv : v.InRange)
    (h : insertNew key v t = some t') : Sound t' := by
  rw [Table.insertNew] at h
  split at h
  · cases h
  · next hnone =>
    obtain rfl := Option.some.inj h
    exact ht.append (by simpa using hnone) hv

/-- A change further down sets one key to a table or to an array of tables. -/
theorem exists_set_of_update {byKey : Bool} {change : Origin → Table → Option Table}
    {origin : Origin} {key : Text} {path : List Text} {t t' : Table}
    (h : update byKey change origin (key :: path) t = some t') :
    ∃ v : Value, v.InRange ∧ t' = t.set key v := by
  rw [update] at h
  split at h
  · obtain ⟨sub, -, h⟩ := Option.bind_eq_some_iff.mp h
    exact ⟨.table _ sub, trivial, (Option.some.inj h).symm⟩
  · split at h
    · cases h
    · obtain ⟨sub, -, h⟩ := Option.bind_eq_some_iff.mp h
      exact ⟨.table _ sub, trivial, (Option.some.inj h).symm⟩
  · split at h
    · cases h
    · obtain ⟨last, -, h⟩ := Option.bind_eq_some_iff.mp h
      exact ⟨.tables _, trivial, (Option.some.inj h).symm⟩
  · cases h

theorem Sound.update {byKey : Bool} {change : Origin → Table → Option Table}
    (hchange : ∀ {origin t t'}, Sound t → change origin t = some t' → Sound t') {origin : Origin}
    {path : List Text} {t t' : Table} (ht : Sound t)
    (h : update byKey change origin path t = some t') : Sound t' := by
  cases path with
  | nil => exact hchange ht h
  | cons key path =>
    obtain ⟨v, hv, rfl⟩ := exists_set_of_update h
    exact ht.set key hv

theorem Sound.insertPath {origin : Origin} {path : List Text} {key : Text} {v : Value}
    {t t' : Table} (ht : Sound t) (hv : v.InRange) (h : insertPath origin path key v t = some t') :
    Sound t' := by
  refine ht.update (fun ht h => ?_) h
  split at h
  · exact ht.insertNew hv h
  · cases h

theorem Sound.define {key : Text} {t t' : Table} (ht : Sound t) (h : define key t = some t') :
    Sound t' := by
  rw [Table.define] at h
  split at h
  · obtain rfl := Option.some.inj h
    exact ht.set key trivial
  · obtain rfl := Option.some.inj h
    exact ht.set key trivial
  · cases h

theorem Sound.appendElement {key : Text} {t t' : Table} (ht : Sound t)
    (h : Table.append key t = some t') : Sound t' := by
  rw [Table.append] at h
  split at h
  · obtain rfl := Option.some.inj h
    exact ht.set key trivial
  · obtain rfl := Option.some.inj h
    exact ht.set key trivial
  · cases h

end Table

namespace Draft

theorem sound_keyValue {d d' : Draft} {path : List Text} {key : Text} {v : Value}
    (hd : d.root.Sound) (hv : v.InRange) (h : d.keyValue path key v = some d') : d'.root.Sound := by
  obtain ⟨root, hroot, h⟩ := Option.bind_eq_some_iff.mp h
  obtain rfl := Option.some.inj h
  exact hd.update (fun ht h => ht.insertPath hv h) hroot

theorem sound_header {d d' : Draft} {path : List Text} {key : Text} (hd : d.root.Sound)
    (h : d.header path key = some d') : d'.root.Sound := by
  obtain ⟨root, hroot, h⟩ := Option.bind_eq_some_iff.mp h
  obtain rfl := Option.some.inj h
  exact hd.update (fun ht h => ht.define h) hroot

theorem sound_arrayHeader {d d' : Draft} {path : List Text} {key : Text} (hd : d.root.Sound)
    (h : d.arrayHeader path key = some d') : d'.root.Sound := by
  obtain ⟨root, hroot, h⟩ := Option.bind_eq_some_iff.mp h
  obtain rfl := Option.some.inj h
  exact hd.update (fun ht h => ht.appendElement h) hroot

end Draft

/-! Values -/

theorem inRange_of_integer? {negative : Bool} {n : Nat} {v : Value}
    (h : integer? negative n = some v) : v.InRange := by
  simp only [integer?, Nat.pow_eq] at h
  split at h
  · split at h
    · next hn =>
      obtain rfl := Option.some.inj h
      exact ⟨by omega, by omega⟩
    · cases h
  · split at h
    · next hn =>
      obtain rfl := Option.some.inj h
      exact ⟨by omega, by omega⟩
    · cases h

theorem inRange_of_basedInteger? {base : Nat} {cs r : Text} {v : Value}
    (h : basedInteger? base cs = some (v, r)) : v.InRange := by
  obtain ⟨⟨ds, rest⟩, -, h⟩ := Option.bind_eq_some_iff.mp h
  obtain ⟨v', hv', h⟩ := Option.bind_eq_some_iff.mp h
  cases h
  exact inRange_of_integer? hv'

theorem inRange_of_decimalNumber? {cs r : Text} {v : Value}
    (h : decimalNumber? cs = some (v, r)) : v.InRange := by
  obtain ⟨⟨whole, rest⟩, -, h⟩ := Option.bind_eq_some_iff.mp h
  simp only at h
  split at h
  · obtain ⟨rest', -, h⟩ := Option.bind_eq_some_iff.mp h
    cases h
    trivial
  · obtain ⟨rest', -, h⟩ := Option.bind_eq_some_iff.mp h
    cases h
    trivial
  · obtain ⟨rest', -, h⟩ := Option.bind_eq_some_iff.mp h
    cases h
    trivial
  · obtain ⟨v', hv', h⟩ := Option.bind_eq_some_iff.mp h
    cases h
    exact inRange_of_integer? hv'

theorem inRange_of_specialFloat? {cs r : Text} {v : Value}
    (h : specialFloat? cs = some (v, r)) : v.InRange := by
  rw [specialFloat?] at h
  split at h
  · cases h
    trivial
  · cases h
    trivial
  · cases h

theorem inRange_of_moment? {cs r : Text} {v : Value} (h : moment? cs = some (v, r)) :
    v.InRange := by
  have hmoment {rest : Text} (h : some (Value.moment (consumed cs rest), rest) = some (v, r)) :
      v.InRange := by
    cases h
    trivial
  unfold moment? at h
  split at h
  · obtain ⟨rest, -, h⟩ := Option.bind_eq_some_iff.mp h
    exact hmoment h
  · obtain ⟨date, -, h⟩ := Option.bind_eq_some_iff.mp h
    simp only at h
    split at h
    · split at h
      · obtain ⟨time, -, h⟩ := Option.bind_eq_some_iff.mp h
        obtain ⟨rest, -, h⟩ := Option.bind_eq_some_iff.mp h
        exact hmoment h
      · exact hmoment h
    · exact hmoment h

theorem inRange_of_number? {cs r : Text} {v : Value} (h : number? cs = some (v, r)) :
    v.InRange := by
  unfold number? at h
  split at h
  · exact inRange_of_moment? h
  · split at h
    · exact inRange_of_basedInteger? h
    · exact inRange_of_basedInteger? h
    · exact inRange_of_basedInteger? h
    · cases hspecial : specialFloat? cs with
      | some p =>
        rw [hspecial] at h
        cases h
        exact inRange_of_specialFloat? hspecial
      | none =>
        rw [hspecial] at h
        exact inRange_of_decimalNumber? h

theorem inRange_of_value? {depth : Nat} {cs r : Text} {v : Value}
    (h : value? depth cs = some (v, r)) : v.InRange := by
  unfold value? at h
  split at h
  · cases h
  · obtain ⟨p, -, h⟩ := Option.map_eq_some_iff.mp h
    cases h
    trivial
  · obtain ⟨p, -, h⟩ := Option.map_eq_some_iff.mp h
    cases h
    trivial
  · split at h
    · cases h
    · obtain ⟨p, -, h⟩ := Option.map_eq_some_iff.mp h
      cases h
      trivial
  · split at h
    · cases h
    · split at h
      · cases h
        trivial
      · obtain ⟨p, -, h⟩ := Option.map_eq_some_iff.mp h
        cases h
        trivial
  · cases h
    trivial
  · cases h
    trivial
  · split at h
    · exact inRange_of_number? h
    · cases h

/-! Documents -/

theorem sound_keyValueLine? {d d' : Draft} {cs r : Text} (hd : d.root.Sound)
    (h : keyValueLine? d cs = some (d', r)) : d'.root.Sound := by
  obtain ⟨⟨⟨path, key⟩, _⟩, -, h⟩ := Option.bind_eq_some_iff.mp h
  obtain ⟨_, -, h⟩ := Option.bind_eq_some_iff.mp h
  obtain ⟨⟨v, _⟩, hv, h⟩ := Option.bind_eq_some_iff.mp h
  obtain ⟨_, -, h⟩ := Option.bind_eq_some_iff.mp h
  obtain ⟨next, hnext, h⟩ := Option.bind_eq_some_iff.mp h
  cases h
  exact Draft.sound_keyValue hd (inRange_of_value? hv) hnext

theorem sound_headerLine? {d d' : Draft} {cs r : Text} (hd : d.root.Sound)
    (h : headerLine? d cs = some (d', r)) : d'.root.Sound := by
  obtain ⟨⟨⟨path, key⟩, _⟩, -, h⟩ := Option.bind_eq_some_iff.mp h
  obtain ⟨_, -, h⟩ := Option.bind_eq_some_iff.mp h
  obtain ⟨_, -, h⟩ := Option.bind_eq_some_iff.mp h
  obtain ⟨next, hnext, h⟩ := Option.bind_eq_some_iff.mp h
  cases h
  exact Draft.sound_header hd hnext

theorem sound_arrayHeaderLine? {d d' : Draft} {cs r : Text} (hd : d.root.Sound)
    (h : arrayHeaderLine? d cs = some (d', r)) : d'.root.Sound := by
  obtain ⟨⟨⟨path, key⟩, _⟩, -, h⟩ := Option.bind_eq_some_iff.mp h
  obtain ⟨_, -, h⟩ := Option.bind_eq_some_iff.mp h
  obtain ⟨_, -, h⟩ := Option.bind_eq_some_iff.mp h
  obtain ⟨_, -, h⟩ := Option.bind_eq_some_iff.mp h
  obtain ⟨next, hnext, h⟩ := Option.bind_eq_some_iff.mp h
  cases h
  exact Draft.sound_arrayHeader hd hnext

theorem sound_line? {d d' : Draft} {cs r : Text} (hd : d.root.Sound)
    (h : line? d cs = some (d', r)) : d'.root.Sound := by
  unfold line? at h
  split at h
  · cases h
    exact hd
  · obtain ⟨_, -, h⟩ := Option.map_eq_some_iff.mp h
    cases h
    exact hd
  · exact sound_arrayHeaderLine? hd h
  · exact sound_headerLine? hd h
  · cases h
    exact hd
  · obtain ⟨_, -, h⟩ := Option.map_eq_some_iff.mp h
    cases h
    exact hd
  · exact sound_keyValueLine? hd h

theorem sound_lines? {n : Nat} {d d' : Draft} {cs : Text} (hd : d.root.Sound)
    (h : lines? n d cs = some d') : d'.root.Sound := by
  fun_induction lines? n d cs with
  | case1 _ d =>
    cases h
    exact hd
  | case2 => cases h
  | case3 d cs hcs n ih =>
    obtain ⟨⟨next, r⟩, hline, h⟩ := Option.bind_eq_some_iff.mp h
    exact ih next r (sound_line? hd hline) h

/-- The table of any document is sound. -/
theorem sound_parse? {document : Text} {t : Table} (h : parse? document = some t) : t.Sound := by
  obtain ⟨d, hd, rfl⟩ := Option.map_eq_some_iff.mp h
  exact sound_lines? Table.sound_nil hd

end ConsoleRelay.Toml
