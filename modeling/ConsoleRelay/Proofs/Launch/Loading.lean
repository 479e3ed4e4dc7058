import ConsoleRelay.Launch.Config
import ConsoleRelay.Proofs.Toml.Reading
import ConsoleRelay.Proofs.Utf8.Decoding

/-!
Which files a configuration is loaded from, and what it then is.

Three keys of a document's table are looked at. A document is accepted if each of them that is set
has a value of its kind and the program is not empty; a key that is not set takes its default. In
particular every choice of settings is loaded from the file it is written to.
-/
namespace ConsoleRelay.Launch.Config

open Toml (Table Value)

/-! One key -/

/-- A setting has the value of its key in a table, or its default where the key is not set. -/
def Takes (t : Table) (key : String) (x unset : Value) : Prop :=
  (∀ v, (key.toList, v) ∈ t → v = x) ∧ ((∀ v, (key.toList, v) ∉ t) → x = unset)

theorem takes_iff {t : Table} (ht : (t.map Prod.fst).Nodup) {key : String} {x unset : Value} :
    Takes t key x unset ↔ (t.find? key.toList).getD unset = x := by
  cases hfind : t.find? key.toList with
  | none =>
    have hunset : ∀ v, (key.toList, v) ∉ t := fun v hv =>
      Table.find?_eq_none_iff.mp hfind (List.mem_map_of_mem hv)
    constructor
    · exact fun h => (h.2 hunset).symm
    · exact fun h => ⟨fun v hv => absurd hv (hunset v), fun _ => h.symm⟩
  | some v =>
    have hmem := (Table.find?_eq_some_iff ht).mp hfind
    constructor
    · exact fun h => h.1 v hmem
    · rintro rfl
      refine ⟨fun v' hv' => ?_, fun hunset => absurd hmem (hunset v)⟩
      rw [← Table.find?_eq_some_iff ht, hfind] at hv'
      exact (Option.some.inj hv').symm

theorem Takes.mem_or_eq {t : Table} {key : String} {x unset : Value} (h : Takes t key x unset) :
    (key.toList, x) ∈ t ∨ x = unset := by
  by_cases hset : ∃ v, (key.toList, v) ∈ t
  · obtain ⟨v, hv⟩ := hset
    obtain rfl := h.1 v hv
    exact .inl hv
  · exact .inr (h.2 (not_exists.mp hset))

theorem Takes.congr {t t' : Table} {key : String} {x unset : Value} (h : Takes t key x unset)
    (hagree : ∀ v, (key.toList, v) ∈ t ↔ (key.toList, v) ∈ t') : Takes t' key x unset := by
  simpa only [Takes, hagree] using h

/-- A key whose values are of the kind given takes one of them or the default. -/
theorem exists_takes_iff {α : Type} {t : Table} (ht : (t.map Prod.fst).Nodup) {key : String}
    (kind : α → Value) (unset : α) :
    (∃ a, Takes t key (kind a) (kind unset)) ↔ ∀ v, (key.toList, v) ∈ t → ∃ a, v = kind a := by
  constructor
  · rintro ⟨a, h⟩ v hv
    exact ⟨a, h.1 v hv⟩
  · intro h
    simp only [takes_iff ht]
    cases hfind : t.find? key.toList with
    | none => exact ⟨unset, rfl⟩
    | some v => exact h v (Table.mem_of_find? hfind)

theorem takes_of_mem_iff {α : Type} {t : Table} {key : String} (kind : α → Value) {set : Option α}
    (h : ∀ v, (key.toList, v) ∈ t ↔ ∃ a ∈ set, v = kind a) (unset : α) :
    Takes t key (kind (set.getD unset)) (kind unset) := by
  cases set with
  | none =>
    refine ⟨fun v hv => ?_, fun _ => rfl⟩
    obtain ⟨a, ha, -⟩ := (h v).mp hv
    cases ha
  | some a =>
    refine ⟨fun v hv => ?_, fun hunset => absurd ((h _).mpr ⟨a, rfl, rfl⟩) (hunset _)⟩
    obtain ⟨b, hb, rfl⟩ := (h v).mp hv
    cases hb
    rfl

theorem text?_eq_some_iff {t : Table} (ht : (t.map Prod.fst).Nodup) {key : String}
    {unset s : Text} : text? t key unset = some s ↔ Takes t key (.string s) (.string unset) := by
  rw [takes_iff ht, text?]
  cases t.find? key.toList with
  | none => simp
  | some v => cases v <;> simp

theorem count?_eq_some_iff {t : Table} (ht : (t.map Prod.fst).Nodup) {key : String}
    {unset n : Nat} : count? t key unset = some n ↔ Takes t key (.integer n) (.integer unset) := by
  rw [takes_iff ht, count?]
  cases t.find? key.toList with
  | none =>
    simp only [Option.some.injEq, Option.getD_none, Value.integer.injEq, Int.natCast_inj]
  | some v =>
    cases v with
    | integer i =>
      cases i with
      | ofNat m =>
        simp only [Option.some.injEq, Option.getD_some, Value.integer.injEq, Int.ofNat_eq_natCast,
          Int.natCast_inj]
      | negSucc m => simp
    | _ => simp

/-! Tables -/

/-- The configuration that a table sets, with the default of each key that is not set. Only the
program is text in a table and bytes in a configuration, also where it is the default. -/
structure SetBy (t : Table) (c : Config) : Prop where
  program : ∃ s, c.program = Utf8.encode s ∧ Takes t "program" (.string s) (.string "Rained".toList)
  flag : Takes t "flag" (.string c.flag) (.string default.flag)
  limit : Takes t "max_command_line" (.integer c.maxCommandLine) (.integer default.maxCommandLine)

/-- A table in which every setting is of its kind. -/
structure WellTyped (t : Table) : Prop where
  program : ∀ v, ("program".toList, v) ∈ t → ∃ s, v = .string s
  flag : ∀ v, ("flag".toList, v) ∈ t → ∃ s, v = .string s
  limit : ∀ v, ("max_command_line".toList, v) ∈ t → ∃ n : Nat, v = .integer n

/-- Tables that agree on the settings. -/
def Agree (t t' : Table) : Prop :=
  ∀ key ∈ ["program", "flag", "max_command_line"], ∀ v,
    (key.toList, v) ∈ t ↔ (key.toList, v) ∈ t'

theorem Agree.symm {t t' : Table} (h : Agree t t') : Agree t' t :=
  fun key hkey v => (h key hkey v).symm

theorem ofTable?_eq (t : Table) :
    ofTable? t = do
      let program ← text? t "program" "Rained".toList
      let flag ← text? t "flag" default.flag
      let limit ← count? t "max_command_line" default.maxCommandLine
      return ⟨Utf8.encode program, flag, limit⟩ := by
  rw [ofTable?, text?.eq_def t "program"]
  cases t.find? "program".toList with
  | none => rfl
  | some v => cases v <;> rfl

theorem ofTable?_eq_some_iff {t : Table} (ht : (t.map Prod.fst).Nodup) {c : Config} :
    ofTable? t = some c ↔ SetBy t c := by
  rw [ofTable?_eq]
  constructor
  · intro h
    obtain ⟨program, hprogram, h⟩ := Option.bind_eq_some_iff.mp h
    obtain ⟨flag, hflag, h⟩ := Option.bind_eq_some_iff.mp h
    obtain ⟨limit, hlimit, h⟩ := Option.bind_eq_some_iff.mp h
    cases h
    exact ⟨⟨program, rfl, (text?_eq_some_iff ht).mp hprogram⟩, (text?_eq_some_iff ht).mp hflag,
      (count?_eq_some_iff ht).mp hlimit⟩
  · rintro ⟨⟨s, hs, hprogram⟩, hflag, hlimit⟩
    rw [(text?_eq_some_iff ht).mpr hprogram, (text?_eq_some_iff ht).mpr hflag,
      (count?_eq_some_iff ht).mpr hlimit]
    exact congrArg some (hs ▸ rfl)

theorem wellTyped_iff {t : Table} (ht : (t.map Prod.fst).Nodup) :
    WellTyped t ↔ ∃ c, SetBy t c := by
  constructor
  · intro h
    obtain ⟨s, hs⟩ := (exists_takes_iff ht .string "Rained".toList).mpr h.program
    obtain ⟨flag, hflag⟩ := (exists_takes_iff ht .string default.flag).mpr h.flag
    obtain ⟨n, hn⟩ := (exists_takes_iff ht (fun n : Nat => .integer n) _).mpr h.limit
    exact ⟨⟨Utf8.encode s, flag, n⟩, ⟨s, rfl, hs⟩, hflag, hn⟩
  · rintro ⟨c, ⟨s, -, hprogram⟩, hflag, hlimit⟩
    exact ⟨fun v hv => ⟨s, hprogram.1 v hv⟩, fun v hv => ⟨c.flag, hflag.1 v hv⟩,
      fun v hv => ⟨c.maxCommandLine, hlimit.1 v hv⟩⟩

theorem SetBy.congr {t t' : Table} {c : Config} (h : SetBy t c) (hagree : Agree t t') :
    SetBy t' c := by
  obtain ⟨⟨s, hs, hprogram⟩, hflag, hlimit⟩ := h
  exact ⟨⟨s, hs, hprogram.congr (hagree "program" (by simp))⟩,
    hflag.congr (hagree "flag" (by simp)), hlimit.congr (hagree "max_command_line" (by simp))⟩

/-- Only a table that says so makes the program empty. -/
theorem SetBy.program_eq_nil_iff {t : Table} {c : Config} (h : SetBy t c) :
    c.program = [] ↔ ("program".toList, .string []) ∈ t := by
  obtain ⟨s, hs, hprogram⟩ := h.program
  rw [hs, Utf8.encode_eq_nil_iff]
  constructor
  · rintro rfl
    rcases hprogram.mem_or_eq with hmem | hdefault
    · exact hmem
    · cases hdefault
  · intro hmem
    exact (Value.string.inj (hprogram.1 _ hmem)).symm

/-- A table's numbers have 64 bits, and so has the limit it sets. -/
theorem SetBy.limit_lt {t : Table} (ht : t.Sound) {c : Config} (h : SetBy t c) :
    c.maxCommandLine < 9223372036854775808 := by
  rcases h.limit.mem_or_eq with hmem | hdefault
  · have hrange : (c.maxCommandLine : Int) < 9223372036854775808 := (ht.ranged _ hmem).2
    omega
  · have hlimit : c.maxCommandLine = default.maxCommandLine :=
      Int.ofNat.inj (Value.integer.inj hdefault)
    rw [hlimit]
    decide

theorem program_default_ne_nil : default.program ≠ [] := by decide

/-! Files -/

/-- A file system with one file. -/
def holding (path : Path) (content : Bytes) : FileSystem where
  isFile p := p == path
  read p := if p = path then .ok content else .error .notFound

theorem read_holding (path : Path) (content : Bytes) :
    (holding path content).read path = .ok content := if_pos rfl

theorem read_holding_of_ne {path p : Path} (h : p ≠ path) (content : Bytes) :
    (holding path content).read p = .error .notFound := if_neg h

theorem readText_of_read {fs : FileSystem} {path : Path} {document : Text}
    (h : fs.read path = .ok (Utf8.encode document)) : readText fs path = .ok document := by
  simp only [readText, h, bind, Except.bind, Utf8.decode?_encode]
  rfl

section

variable {complaint : Text → Text} {fs : FileSystem} {path : Path} {document : Text}

theorem ofDocument?_eq_some_iff {c : Config} :
    ofDocument? (Toml.reader complaint) document = some c ↔
      ∃ t, Toml.parse? document = some t ∧ SetBy t c := by
  rw [ofDocument?, Option.bind_eq_bind, Option.bind_eq_some_iff]
  apply exists_congr
  intro t
  apply and_congr_right
  intro ht
  exact ofTable?_eq_some_iff (Toml.sound_parse? ht).distinct

/-- Whether the program is empty can be told from the table. -/
theorem exists_ofDocument?_iff (q : Prop → Prop) :
    (∃ c, ofDocument? (Toml.reader complaint) document = some c ∧ q (c.program = [])) ↔
      ∃ t, Toml.parse? document = some t ∧ WellTyped t ∧
        q (("program".toList, .string []) ∈ t) := by
  simp only [ofDocument?_eq_some_iff]
  constructor
  · rintro ⟨c, ⟨t, ht, hset⟩, hq⟩
    rw [hset.program_eq_nil_iff] at hq
    exact ⟨t, ht, (wellTyped_iff (Toml.sound_parse? ht).distinct).mpr ⟨c, hset⟩, hq⟩
  · rintro ⟨t, ht, htyped, hq⟩
    obtain ⟨c, hset⟩ := (wellTyped_iff (Toml.sound_parse? ht).distinct).mp htyped
    rw [← hset.program_eq_nil_iff] at hq
    exact ⟨c, ⟨t, ht, hset⟩, hq⟩

/-- A readable file is malformed, sets an empty program, or is accepted. -/
theorem load_cases (complaint : Text → Text) (h : fs.read path = .ok (Utf8.encode document)) :
    (ofDocument? (Toml.reader complaint) document = none ∧
      load (Toml.reader complaint) fs path = .error (.malformed path (complaint document))) ∨
    (∃ c, ofDocument? (Toml.reader complaint) document = some c ∧ c.program = [] ∧
      load (Toml.reader complaint) fs path = .error (.emptyProgram path)) ∨
    ∃ c, ofDocument? (Toml.reader complaint) document = some c ∧ c.program ≠ [] ∧
      load (Toml.reader complaint) fs path = .ok c := by
  simp only [load, readText_of_read h]
  cases ofDocument? (Toml.reader complaint) document with
  | none => exact .inl ⟨rfl, rfl⟩
  | some c =>
    by_cases hempty : c.program = []
    · exact .inr (.inl ⟨c, rfl, hempty, if_pos (List.isEmpty_iff.mpr hempty)⟩)
    · exact .inr (.inr ⟨c, rfl, hempty, if_neg (mt List.isEmpty_iff.mp hempty)⟩)

theorem load_eq_ok_iff (h : fs.read path = .ok (Utf8.encode document)) {c : Config} :
    load (Toml.reader complaint) fs path = .ok c ↔
      ofDocument? (Toml.reader complaint) document = some c ∧ c.program ≠ [] := by
  rcases load_cases complaint h with ⟨hc, hload⟩ | ⟨c', hc, hempty, hload⟩ | ⟨c', hc, hne, hload⟩
  · simp [hc, hload]
  · rw [hload, hc, Option.some.injEq]
    refine iff_of_false nofun ?_
    rintro ⟨rfl, hne⟩
    exact hne hempty
  · rw [hload, hc, Option.some.injEq, Except.ok.injEq]
    refine (and_iff_left_of_imp ?_).symm
    rintro rfl
    exact hne

theorem load_eq_emptyProgram_iff (h : fs.read path = .ok (Utf8.encode document)) :
    load (Toml.reader complaint) fs path = .error (.emptyProgram path) ↔
      ∃ c, ofDocument? (Toml.reader complaint) document = some c ∧ c.program = [] := by
  rcases load_cases complaint h with ⟨hc, hload⟩ | ⟨c, hc, hempty, hload⟩ | ⟨c, hc, hne, hload⟩
  · simp [hc, hload]
  · simp [hc, hload, hempty]
  · simp [hc, hload, hne]

/-- What is loaded from a readable file, however the reader words its complaints. -/
theorem load_of_document (complaint : Text → Text)
    (h : fs.read path = .ok (Utf8.encode document)) :
    let toml := Toml.reader complaint
    ((∃ c, load toml fs path = .ok c) ↔
      ∃ t, Toml.parse? document = some t ∧ WellTyped t ∧ ("program".toList, .string []) ∉ t) ∧
    (∀ t c, Toml.parse? document = some t → load toml fs path = .ok c →
      SetBy t c ∧ c.maxCommandLine < 9223372036854775808) ∧
    (∀ fs' path' document' t t' c, fs'.read path' = .ok (Utf8.encode document') →
      Toml.parse? document = some t → Toml.parse? document' = some t' → Agree t t' →
      (load toml fs path = .ok c ↔ load toml fs' path' = .ok c)) ∧
    (load toml fs path = .error (.emptyProgram path) ↔
      ∃ t, Toml.parse? document = some t ∧ WellTyped t ∧ ("program".toList, .string []) ∈ t) ∧
    ∀ e, load toml fs path = .error e → e ≠ .emptyProgram path →
      e = .malformed path (complaint document) ∧ e.causes =
        ["Failed to parse config file: ".toList ++ Quoted.path path, complaint document] := by
  intro toml
  refine ⟨?_, fun t c ht hload => ?_, fun fs' path' document' t t' c h' ht ht' hagree => ?_, ?_,
    fun e he hne => ?_⟩
  · simp only [toml, load_eq_ok_iff h]
    exact exists_ofDocument?_iff Not
  · obtain ⟨t', ht', hset⟩ := ofDocument?_eq_some_iff.mp ((load_eq_ok_iff h).mp hload).1
    obtain rfl : t' = t := Option.some.inj (ht'.symm.trans ht)
    exact ⟨hset, hset.limit_lt (Toml.sound_parse? ht)⟩
  · rw [load_eq_ok_iff h, load_eq_ok_iff h', ofDocument?_eq_some_iff, ofDocument?_eq_some_iff]
    simp only [ht, ht', Option.some.injEq, exists_eq_left']
    apply and_congr_left
    intro _
    exact ⟨fun hset => hset.congr hagree, fun hset => hset.congr hagree.symm⟩
  · rw [load_eq_emptyProgram_iff h]
    exact exists_ofDocument?_iff id
  · rcases load_cases complaint h with ⟨-, hload⟩ | ⟨c, -, -, hload⟩ | ⟨c, -, -, hload⟩
    · cases hload.symm.trans he
      exact ⟨rfl, rfl⟩
    · cases hload.symm.trans he
      exact absurd rfl hne
    · cases hload.symm.trans he

/-- A program in another table than the first is not looked at. -/
theorem load_of_document_with_tables :
    let document := "flag = ''\n[other]\nprogram = 1\n".toList
    let fs := holding [0x61] (Utf8.encode document)
    fs.read [0x61] = .ok (Utf8.encode document) ∧
      ∃ c, load (Toml.reader id) fs [0x61] = .ok c ∧ c.program = default.program ∧ c.flag = [] := by
  intro document fs
  have hread : fs.read [0x61] = .ok (Utf8.encode document) := read_holding _ _
  have hparse : Toml.parse? document = some [("flag".toList, .string []),
      ("other".toList, .table .defined [("program".toList, .integer 1)])] := rfl
  obtain ⟨haccepted, hset, -⟩ := load_of_document id hread
  obtain ⟨c, hc⟩ := haccepted.mpr ⟨_, hparse, ⟨by simp, by simp, by simp⟩, by simp⟩
  obtain ⟨⟨s, hs, hprogram⟩, hflag, -⟩ := (hset _ c hparse hc).1
  refine ⟨hread, c, hc, ?_, ?_⟩
  · cases hprogram.2 (by simp)
    exact hs
  · exact (Value.string.inj (hflag.1 (.string []) (by simp))).symm

end

/-! Written settings -/

/-- Settings for a file. Each of them may be left out. -/
structure Settings where
  program : Option Text
  flag : Option Text
  limit : Option Nat
  program_ne : program ≠ some []
  limit_le : ∀ n ∈ limit, n ≤ 9223372036854775807

namespace Settings

/-- The keys and values of the settings that are not left out. -/
def entries (s : Settings) : Table :=
  (s.program.map fun t => ("program".toList, .string t)).toList ++
    (s.flag.map fun t => ("flag".toList, .string t)).toList ++
    (s.limit.map fun n => ("max_command_line".toList, .integer n)).toList

/-- The configuration with the settings given, and the default for those left out. -/
def config (s : Settings) : Config where
  program := (s.program.map Utf8.encode).getD default.program
  flag := s.flag.getD default.flag
  maxCommandLine := s.limit.getD default.maxCommandLine

/-- The keys in use. -/
def keys : List Text := ["program".toList, "flag".toList, "max_command_line".toList]

theorem sublist_keys (s : Settings) : (s.entries.map Prod.fst).Sublist keys := by
  have hone {α : Type} (o : Option α) (key : Text) (kind : α → Value) :
      ((o.map fun a => (key, kind a)).toList.map Prod.fst).Sublist [key] := by
    cases o with
    | none => exact List.nil_sublist _
    | some a => exact List.Sublist.refl _
  rw [entries, List.map_append, List.map_append]
  exact ((hone s.program _ _).append (hone s.flag _ _)).append (hone s.limit _ _)

theorem mem_entries {s : Settings} {f : Text × Value} :
    f ∈ s.entries ↔ (∃ t ∈ s.program, f = ("program".toList, .string t)) ∨
      (∃ t ∈ s.flag, f = ("flag".toList, .string t)) ∨
      ∃ n ∈ s.limit, f = ("max_command_line".toList, .integer (n : Nat)) := by
  simp only [entries, List.mem_append, Option.mem_toList, Option.map_eq_some_iff, Option.mem_def,
    or_assoc, @eq_comm _ f]

theorem sound_entries (s : Settings) : s.entries.Sound where
  distinct := s.sublist_keys.nodup (by decide)
  ranged f hf := by
    rcases mem_entries.mp hf with ⟨t, -, rfl⟩ | ⟨t, -, rfl⟩ | ⟨n, hn, rfl⟩
    · trivial
    · trivial
    · have hle := s.limit_le n hn
      exact ⟨by omega, by omega⟩

theorem isBare_of_mem_entries {s : Settings} {f : Text × Value} (hf : f ∈ s.entries) :
    Toml.IsBare f.1 := by
  have hkeys : ∀ key ∈ keys, key ≠ [] ∧ key.all Toml.isBareChar = true := by decide
  obtain ⟨hne, hall⟩ := hkeys f.1 (s.sublist_keys.subset (List.mem_map_of_mem hf))
  exact ⟨hne, List.all_eq_true.mp hall⟩

theorem exists_writtenValue {s : Settings} {f : Text × Value} (hf : f ∈ s.entries) :
    ∃ w, Toml.WrittenValue f.2 w := by
  rcases mem_entries.mp hf with ⟨t, -, rfl⟩ | ⟨t, -, rfl⟩ | ⟨n, -, rfl⟩
  · obtain ⟨w, hw⟩ := Toml.exists_spelled t
    exact ⟨_, .string hw⟩
  · obtain ⟨w, hw⟩ := Toml.exists_spelled t
    exact ⟨_, .string hw⟩
  · exact ⟨_, .integer n⟩

theorem setBy_config {s : Settings} {t : Table} (h : t.Perm s.entries) : SetBy t s.config where
  program := by
    have htext : s.config.program = Utf8.encode (s.program.getD "Rained".toList) := by
      rw [config]
      cases s.program <;> rfl
    refine ⟨_, htext, takes_of_mem_iff .string (fun v => ?_) _⟩
    rw [h.mem_iff, mem_entries]
    simp
  flag := by
    refine takes_of_mem_iff .string (fun v => ?_) _
    rw [h.mem_iff, mem_entries]
    simp
  limit := by
    refine takes_of_mem_iff (fun n : Nat => .integer n) (fun v => ?_) _
    rw [h.mem_iff, mem_entries]
    simp

theorem program_config_ne_nil (s : Settings) : s.config.program ≠ [] := by
  rw [config]
  cases hs : s.program with
  | none => exact program_default_ne_nil
  | some t =>
    refine mt Utf8.encode_eq_nil_iff.mp ?_
    rintro rfl
    exact s.program_ne hs

end Settings

/-- Whatever the settings are, they can be written in any order, and they are loaded from every file
they are written to. -/
theorem load_written (complaint : Text → Text) (s : Settings) {t : Table}
    (horder : t.Perm s.entries) :
    (∃ document, Toml.WrittenDocument t document) ∧
      ∀ fs path document, Toml.WrittenDocument t document →
        fs.read path = .ok (Utf8.encode document) →
        load (Toml.reader complaint) fs path = .ok s.config := by
  constructor
  · apply Toml.exists_writtenDocument
    intro f hf
    exact Settings.exists_writtenValue (horder.mem_iff.mp hf)
  · intro fs path document hwritten hread
    have hbare : ∀ f ∈ t, Toml.IsBare f.1 := fun f hf =>
      Settings.isBare_of_mem_entries (horder.mem_iff.mp hf)
    have hparse := Toml.parse?_written hwritten hbare (s.sound_entries.perm horder)
    have hset := Settings.setBy_config horder
    exact (load_eq_ok_iff hread).mpr
      ⟨ofDocument?_eq_some_iff.mpr ⟨t, hparse, hset⟩, s.program_config_ne_nil⟩

/-- The limit comes first and is the largest there is; the flag is left out. -/
theorem load_written_escaped :
    let document := "max_command_line = 9223372036854775807\n".toList ++
      "program = \"\\u0022\\u005C\\u0000é#\"".toList
    load (Toml.reader id) (holding [0x61] (Utf8.encode document)) [0x61] =
      .ok ⟨Utf8.ofString "\"\\\x00é#", default.flag, 9223372036854775807⟩ := by
  intro document
  have hrest : Toml.Spelled ['é', '#'] ['é', '#'] := .plain rfl (.plain rfl .nil)
  have hnul := @Toml.Spelled.escaped '\x00' ['0', '0', '0', '0'] _ _ rfl rfl hrest
  have hslash := @Toml.Spelled.escaped '\\' ['0', '0', '5', 'C'] _ _ rfl rfl hnul
  have hquote := @Toml.Spelled.escaped '\x22' ['0', '0', '2', '2'] _ _ rfl rfl hslash
  have hlast := @Toml.WrittenDocument.last "program".toList _ _ (.string hquote)
  have hwritten := @Toml.WrittenDocument.line "max_command_line".toList _ _ _ _
    (.integer 9223372036854775807) hlast
  obtain ⟨-, hload⟩ := load_written id
    ⟨some "\"\\\x00é#".toList, none, some 9223372036854775807, by simp, by simp⟩
    (List.Perm.swap _ _ _)
  exact hload _ [0x61] document hwritten (read_holding _ _)

end ConsoleRelay.Launch.Config
