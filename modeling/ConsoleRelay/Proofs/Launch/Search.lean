import ConsoleRelay.Launch.Launcher
import ConsoleRelay.Proofs.Launch.Loading

/-!
Where a configuration comes from.

A file named by the environment is the only one that counts: what is wrong with it is reported, and
no other file and no default takes its place. Without one, the file beside the launcher is loaded if
it is there. On every way the program is not empty, and it stays so where it is looked for.
-/
namespace ConsoleRelay

theorem Path.join_ne_nil (dir : Path) {p : Path} (hp : p ≠ []) : Path.join dir p ≠ [] := by
  rw [Path.join]
  split
  · exact hp
  · split
    · exact List.append_ne_nil_of_right_ne_nil _ hp
    · exact List.append_ne_nil_of_right_ne_nil _ (List.cons_ne_nil _ _)

namespace Launch

namespace Config

/-- A file that no configuration can be loaded from, and what is reported of it. -/
inductive Broken (complaint : Text → Text) (fs : FileSystem) (path : Path) :
    ConfigError → Prop where
  | unreadable {cause : OsError} :
      fs.read path = .error cause → Broken complaint fs path (.unreadable path cause)
  | notText {bytes : Bytes} :
      fs.read path = .ok bytes → (∀ t, bytes ≠ Utf8.encode t) →
      Broken complaint fs path (.unreadable path .invalidText)
  | malformed {document : Text} :
      fs.read path = .ok (Utf8.encode document) →
      (¬ ∃ t, Toml.parse? document = some t ∧ WellTyped t) →
      Broken complaint fs path (.malformed path (complaint document))
  | emptyProgram {document : Text} {t : Toml.Table} :
      fs.read path = .ok (Utf8.encode document) → Toml.parse? document = some t → WellTyped t →
      ("program".toList, .string []) ∈ t → Broken complaint fs path (.emptyProgram path)

section

variable {toml : Toml.Reader} {complaint : Text → Text} {fs : FileSystem} {path : Path}

theorem load_of_read_error {cause : OsError} (h : fs.read path = .error cause) :
    load toml fs path = .error (.unreadable path cause) := by
  simp only [load, readText, h, bind, Except.bind]

theorem load_of_not_text {bytes : Bytes} (h : fs.read path = .ok bytes)
    (hbytes : ∀ t, bytes ≠ Utf8.encode t) :
    load toml fs path = .error (.unreadable path .invalidText) := by
  have hdecode : Utf8.decode? bytes = none :=
    Option.eq_none_iff_forall_ne_some.mpr fun t ht => hbytes t (Utf8.decode?_eq_some_iff.mp ht)
  simp only [load, readText, h, bind, Except.bind, hdecode]
  rfl

theorem ofDocument?_eq_none_iff {document : Text} :
    ofDocument? (Toml.reader complaint) document = none ↔
      ¬ ∃ t, Toml.parse? document = some t ∧ WellTyped t := by
  have hsome : (∃ c, ofDocument? (Toml.reader complaint) document = some c) ↔
      ∃ t, Toml.parse? document = some t ∧ WellTyped t := by
    simpa only [and_true] using exists_ofDocument?_iff fun _ => True
  rw [← hsome, not_exists, Option.eq_none_iff_forall_ne_some]

/-- Loading fails exactly on broken files, and reports what is wrong with them. -/
theorem load_eq_error_iff {e : ConfigError} :
    load (Toml.reader complaint) fs path = .error e ↔ Broken complaint fs path e := by
  constructor
  · intro he
    -- In the order of loading: the bytes, their text, the table of the text.
    cases hread : fs.read path with
    | error cause =>
      cases (load_of_read_error hread).symm.trans he
      exact .unreadable hread
    | ok bytes =>
      by_cases hbytes : ∃ document, bytes = Utf8.encode document
      · obtain ⟨document, rfl⟩ := hbytes
        rcases load_cases complaint hread with
          ⟨hc, hload⟩ | ⟨c, hc, hempty, hload⟩ | ⟨c, hc, hne, hload⟩
        · cases hload.symm.trans he
          exact .malformed hread (ofDocument?_eq_none_iff.mp hc)
        · cases hload.symm.trans he
          obtain ⟨t, ht, htyped, hmem⟩ := (exists_ofDocument?_iff id).mp ⟨c, hc, hempty⟩
          exact .emptyProgram hread ht htyped hmem
        · cases hload.symm.trans he
      · rw [not_exists] at hbytes
        cases (load_of_not_text hread hbytes).symm.trans he
        exact .notText hread hbytes
  · intro he
    cases he with
    | unreadable hread => exact load_of_read_error hread
    | notText hread hbytes => exact load_of_not_text hread hbytes
    | malformed hread hnone =>
      simp only [load, readText_of_read hread, ofDocument?_eq_none_iff.mpr hnone]
      rfl
    | emptyProgram hread ht htyped hmem =>
      exact (load_eq_emptyProgram_iff hread).mpr
        ((exists_ofDocument?_iff id).mpr ⟨_, ht, htyped, hmem⟩)

/-- A configuration comes from a file that is text. -/
theorem read_of_load {c : Config} (h : load (Toml.reader complaint) fs path = .ok c) :
    ∃ document, fs.read path = .ok (Utf8.encode document) := by
  cases hread : fs.read path with
  | error cause => cases (load_of_read_error hread).symm.trans h
  | ok bytes =>
    by_contra hbytes
    have hnot : ∀ t, bytes ≠ Utf8.encode t := fun t ht => hbytes ⟨t, ht ▸ rfl⟩
    cases (load_of_not_text hread hnot).symm.trans h

theorem program_ne_nil_of_load {c : Config} (h : load toml fs path = .ok c) : c.program ≠ [] := by
  rw [load] at h
  split at h
  · cases h
  · split at h
    · cases h
    · split at h
      · cases h
      · next hempty =>
        cases h
        exact mt List.isEmpty_iff.mpr hempty

/-- A load depends on nothing but what is read from its path. -/
theorem load_congr {fs' : FileSystem} (h : fs'.read path = fs.read path) :
    load toml fs' path = load toml fs path := by
  rw [load, load, readText, readText, h]

end

/-! The search -/

inductive Source where
  | file (path : Path)
  | defaults

/-- The order of the search: a file named by the environment, one beside the launcher, the defaults.
An empty name counts as none. -/
inductive Sought (fs : FileSystem) (named dir : Option Path) : Source → Prop where
  | named {path : Path} : named = some path → path ≠ [] → Sought fs named dir (.file path)
  | beside {d : Path} : named = none ∨ named = some [] → dir = some d →
      fs.isFile (Path.join d (Utf8.ofString "console-launch.toml")) = true →
      Sought fs named dir (.file (Path.join d (Utf8.ofString "console-launch.toml")))
  | nowhere : named = none ∨ named = some [] →
      (∀ d, dir = some d →
        fs.isFile (Path.join d (Utf8.ofString "console-launch.toml")) = false) →
      Sought fs named dir .defaults

/-- What a source holds: an error of a broken file, the settings of any other, or the defaults. -/
inductive Holds (complaint : Text → Text) (fs : FileSystem) :
    Source → Except ConfigError Config → Prop where
  | broken {path : Path} {e : ConfigError} :
      Broken complaint fs path e → Holds complaint fs (.file path) (.error e)
  | settings {path : Path} {document : Text} {t : Toml.Table} {c : Config} :
      fs.read path = .ok (Utf8.encode document) → Toml.parse? document = some t → SetBy t c →
      c.program ≠ [] → Holds complaint fs (.file path) (.ok c)
  | defaults : Holds complaint fs .defaults (.ok default)

namespace Source

def ofFile : Option Path → Source
  | some path => .file path
  | none => .defaults

def load (toml : Toml.Reader) (fs : FileSystem) : Source → Except ConfigError Config
  | .file path => Config.load toml fs path
  | .defaults => .ok default

/-- What is logged of a source. -/
def record : Source → Record
  | .file path =>
    ⟨.info, "console_launch::config", "Loading configuration from: ".toList ++ Quoted.path path⟩
  | .defaults =>
    ⟨.debug, "console_launch::config", "No configuration file, using defaults".toList⟩

end Source

section

variable {complaint : Text → Text} {fs : FileSystem} {named dir : Option Path}

theorem sought_locate (fs : FileSystem) (named dir : Option Path) :
    Sought fs named dir (.ofFile (locate fs named dir)) := by
  have hunnamed (hnamed : named = none ∨ named = some []) :
      Sought fs named dir (.ofFile (locate fs none dir)) := by
    cases dir with
    | none => exact .nowhere hnamed fun d hd => nomatch hd
    | some d =>
      have hlocate : locate fs none (some d) =
          if fs.isFile (Path.join d (Utf8.ofString fileName)) then
            some (Path.join d (Utf8.ofString fileName))
          else none := rfl
      rw [hlocate]
      split
      · next hfile => exact .beside hnamed rfl hfile
      · next hfile =>
        refine .nowhere hnamed fun d' hd' => ?_
        cases hd'
        exact Bool.eq_false_iff.mpr hfile
  cases named with
  | none => exact hunnamed (.inl rfl)
  | some path =>
    cases path with
    | nil => exact hunnamed (.inr rfl)
    | cons b bs => exact .named rfl (List.cons_ne_nil b bs)

theorem Sought.unique {s s' : Source} (h : Sought fs named dir s) (h' : Sought fs named dir s') :
    s = s' := by
  cases h <;> cases h' <;> simp_all

theorem sought_iff {s : Source} :
    Sought fs named dir s ↔ s = .ofFile (locate fs named dir) := by
  constructor
  · exact fun h => h.unique (sought_locate fs named dir)
  · rintro rfl
    exact sought_locate fs named dir

theorem resolve_of_sought (toml : Toml.Reader) {s : Source} (h : Sought fs named dir s) :
    resolve toml fs named dir = ([s.record], s.load toml fs) := by
  obtain rfl := sought_iff.mp h
  rw [resolve]
  cases locate fs named dir <;> rfl

theorem holds_iff {s : Source} {r : Except ConfigError Config} :
    Holds complaint fs s r ↔ r = s.load (Toml.reader complaint) fs := by
  constructor
  · intro h
    cases h with
    | broken hbroken => exact (load_eq_error_iff.mpr hbroken).symm
    | settings hread ht hset hne =>
      exact ((load_eq_ok_iff hread).mpr ⟨ofDocument?_eq_some_iff.mpr ⟨_, ht, hset⟩, hne⟩).symm
    | defaults => rfl
  · rintro rfl
    cases s with
    | defaults => exact .defaults
    | file path =>
      cases hload : load (Toml.reader complaint) fs path with
      | error e =>
        rw [Source.load, hload]
        exact .broken (load_eq_error_iff.mp hload)
      | ok c =>
        obtain ⟨document, hread⟩ := read_of_load hload
        obtain ⟨hc, hne⟩ := (load_eq_ok_iff hread).mp hload
        obtain ⟨t, ht, hset⟩ := ofDocument?_eq_some_iff.mp hc
        rw [Source.load, hload]
        exact .settings hread ht hset hne

end

theorem resolve_named (toml : Toml.Reader) (fs : FileSystem) {path : Path} (hpath : path ≠ [])
    (dir : Option Path) : (resolve toml fs (some path) dir).2 = load toml fs path := by
  rw [resolve_of_sought toml (.named rfl hpath)]
  rfl

theorem resolve_beside (toml : Toml.Reader) (fs : FileSystem) {named : Option Path}
    (hnamed : named = none ∨ named = some []) (d : Path) :
    (resolve toml fs named (some d)).2 =
      if fs.isFile (Path.join d (Utf8.ofString fileName)) then
        load toml fs (Path.join d (Utf8.ofString fileName))
      else .ok default := by
  split
  · next hfile =>
    rw [resolve_of_sought toml (.beside hnamed rfl hfile)]
    rfl
  · next hfile =>
    have hnone : ∀ d', some d = some d' →
        fs.isFile (Path.join d' (Utf8.ofString "console-launch.toml")) = false := by
      rintro d' ⟨⟩
      exact Bool.eq_false_iff.mpr hfile
    rw [resolve_of_sought toml (.nowhere hnamed hnone)]
    rfl

theorem resolve_nowhere (toml : Toml.Reader) (fs : FileSystem) {named : Option Path}
    (hnamed : named = none ∨ named = some []) : (resolve toml fs named none).2 = .ok default := by
  have hnone : ∀ d, (none : Option Path) = some d →
      fs.isFile (Path.join d (Utf8.ofString "console-launch.toml")) = false := nofun
  rw [resolve_of_sought toml (.nowhere hnamed hnone)]
  rfl

theorem program_ne_nil_of_resolve {toml : Toml.Reader} {fs : FileSystem} {named dir : Option Path}
    {c : Config} (h : (resolve toml fs named dir).2 = .ok c) : c.program ≠ [] := by
  rw [resolve] at h
  split at h
  · exact program_ne_nil_of_load h
  · cases h
    exact program_default_ne_nil

end Config

theorem Launcher.program_ofConfig_ne_nil (fs : FileSystem) {c : Config} (hc : c.program ≠ [])
    (dir : Option Path) : (Launcher.ofConfig fs c dir).program ≠ [] := by
  rw [ofConfig]
  cases dir with
  | none => exact hc
  | some d =>
    rw [resolveProgram]
    split
    · exact Path.join_ne_nil d hc
    · exact hc

namespace Config

/-- Where the configuration comes from, for every environment, directory and file system. -/
theorem resolve_search (complaint : Text → Text) (fs : FileSystem) (named dir : Option Path) :
    let toml := Toml.reader complaint
    (∀ path, named = some path → path ≠ [] →
      (resolve toml fs named dir).2 = load toml fs path ∧
      (∀ fs' dir', fs'.read path = fs.read path →
        (resolve toml fs' named dir').2 = load toml fs path) ∧
      ∀ e, (resolve toml fs named dir).2 = .error e ↔ Broken complaint fs path e) ∧
    (named = none ∨ named = some [] →
      (dir = none → (resolve toml fs named dir).2 = .ok default) ∧
      ∀ d, dir = some d → (resolve toml fs named dir).2 =
        if fs.isFile (Path.join d (Utf8.ofString "console-launch.toml")) then
          load toml fs (Path.join d (Utf8.ofString "console-launch.toml"))
        else .ok default) ∧
    ∀ c, (resolve toml fs named dir).2 = .ok c →
      c.program ≠ [] ∧ ∀ fs' dir', (Launcher.ofConfig fs' c dir').program ≠ [] := by
  intro toml
  refine ⟨?_, fun hnamed => ⟨?_, ?_⟩, fun c hc => ?_⟩
  · rintro path rfl hpath
    refine ⟨resolve_named toml fs hpath dir, fun fs' dir' hread => ?_, fun e => ?_⟩
    · rw [resolve_named toml fs' hpath dir', load_congr hread]
    · rw [resolve_named toml fs hpath dir, load_eq_error_iff]
  · rintro rfl
    exact resolve_nowhere toml fs hnamed
  · rintro d rfl
    exact resolve_beside toml fs hnamed d
  · have hprogram := program_ne_nil_of_resolve hc
    exact ⟨hprogram, fun fs' dir' => Launcher.program_ofConfig_ne_nil fs' hprogram dir'⟩

/-- A file beside the launcher does not stand in for one that is named and missing. -/
theorem resolve_search_missing :
    (resolve (Toml.reader id) (holding (Utf8.ofString "bin/console-launch.toml") [])
      (some (Utf8.ofString "a")) (some (Utf8.ofString "bin"))).2 =
      .error (.unreadable (Utf8.ofString "a") .notFound) := by
  have hnamed : Utf8.ofString "a" ≠ [] := by decide
  have hmissing : Utf8.ofString "a" ≠ Utf8.ofString "bin/console-launch.toml" := by decide
  obtain ⟨-, -, herror⟩ := (resolve_search id _ _ _).1 _ rfl hnamed
  exact (herror _).mpr (.unreadable (read_holding_of_ne hmissing []))

end Config

end Launch

end ConsoleRelay
