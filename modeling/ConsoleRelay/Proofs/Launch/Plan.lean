import ConsoleRelay.Launch.Launcher
import ConsoleRelay.Proofs.Launch.Loading
import Mathlib.Data.List.Forall2

/-!
What a launcher plans to start.

The program is looked for beside the launcher, at the path that names the directory and then the
program. In an absolute directory that path is absolute, and so a second look finds the same. The
command line is measured as it would be written, with single spaces in between, and growing
arguments never bring a line back under the limit.
-/
namespace ConsoleRelay

namespace Path

theorem names_ne_nil (p : Path) : names p ≠ [] := by
  cases p with
  | nil => simp [names]
  | cons b bs =>
    rw [names]
    split
    · simp
    · split <;> simp

theorem names_append (a b : Path) : names (a ++ separator :: b) = names a ++ names b := by
  induction a with
  | nil =>
    obtain ⟨n, ns, hb⟩ := List.exists_cons_of_ne_nil (names_ne_nil b)
    simp [names, hb]
  | cons x xs ih =>
    obtain ⟨n, ns, hxs⟩ := List.exists_cons_of_ne_nil (names_ne_nil xs)
    rw [hxs] at ih
    simp only [List.cons_append, names, ih, hxs]
    split <;> rfl

/-- The names in a path that lead further: neither empty nor `.`. -/
def leading (p : Path) : List Bytes := (names p).filter fun n => !n.isEmpty && n != here

theorem leading_append (a b : Path) : leading (a ++ separator :: b) = leading a ++ leading b := by
  rw [leading, names_append, List.filter_append]
  rfl

theorem components_eq_leading {p : Path} (hp : isAbsolute p = true) :
    components p = leading p := by
  cases p with
  | nil => cases hp
  | cons b bs =>
    have hb : b = separator := by simpa [isAbsolute] using hp
    have hhead : (names (b :: bs)).head? = some [] := by
      rw [hb, ← List.nil_append (separator :: bs), names_append]
      rfl
    rw [components, hhead]
    rfl

theorem filter_components (p : Path) : (components p).filter (· != here) = leading p := by
  have hkept : (leading p).filter (· != here) = leading p := by
    apply List.filter_eq_self.mpr
    intro n hn
    exact (Bool.and_eq_true_iff.mp (List.mem_filter.mp hn).2).2
  rw [components]
  split
  · rw [List.filter_cons_of_neg (by simp)]
    exact hkept
  · exact hkept

theorem isAbsolute_join {dir : Path} (hdir : isAbsolute dir = true) (p : Path) :
    isAbsolute (join dir p) = true := by
  cases dir with
  | nil => cases hdir
  | cons b bs =>
    rw [join]
    split
    · assumption
    · split <;> exact hdir

/-- A relative path in a directory is named by the directory and then by the path. -/
theorem components_join {dir p : Path} (hdir : isAbsolute dir = true)
    (hp : isAbsolute p = false) :
    components (join dir p) = components dir ++ (components p).filter (· != here) := by
  have hjoin : leading (join dir p) = leading dir ++ leading p := by
    rw [join, if_neg (by simp [hp])]
    split
    next hend =>
      -- The separator is there already, with an empty name behind it.
      have hlast : dir.getLast? = some separator := by
        cases dir with
        | nil => cases hdir
        | cons b bs => simpa using hend
      obtain ⟨front, rfl⟩ := List.getLast?_eq_some_iff.mp hlast
      have hempty : leading [] = [] := rfl
      rw [List.append_assoc, List.singleton_append, leading_append, leading_append, hempty,
        List.append_nil]
    next => exact leading_append dir p
  rw [components_eq_leading (isAbsolute_join hdir p), components_eq_leading hdir,
    filter_components, hjoin]

end Path

namespace Launch

namespace Launcher

theorem resolveProgram_kept {fs : FileSystem} {p dir : Path}
    (h : Path.isAbsolute p = true ∨ fs.isFile (Path.join dir p) = false) :
    resolveProgram fs p (some dir) = p := by
  rw [resolveProgram, if_neg]
  rcases h with h | h <;> simp [h]

theorem resolveProgram_beside {fs : FileSystem} {p dir : Path} (hp : Path.isAbsolute p = false)
    (hfile : fs.isFile (Path.join dir p) = true) :
    resolveProgram fs p (some dir) = Path.join dir p := by
  rw [resolveProgram, if_pos (by simp [hp, hfile])]

/-- Where a program is found: beside the launcher if it is relative and a file there, else as it is
written. -/
inductive Found (fs : FileSystem) (p : Path) (dir : Option Path) : Path → Prop where
  | beside {d : Path} : dir = some d → Path.isAbsolute p = false →
      fs.isFile (Path.join d p) = true → Found fs p dir (Path.join d p)
  | kept : (∀ d, dir = some d → Path.isAbsolute p = true ∨ fs.isFile (Path.join d p) = false) →
      Found fs p dir p

theorem resolveProgram_of_found {fs : FileSystem} {p found : Path} {dir : Option Path}
    (h : Found fs p dir found) : resolveProgram fs p dir = found := by
  cases h with
  | beside hdir hp hfile =>
    rw [hdir]
    exact resolveProgram_beside hp hfile
  | kept hkept =>
    cases dir with
    | none => rfl
    | some d => exact resolveProgram_kept (hkept d rfl)

theorem found_resolveProgram (fs : FileSystem) (p : Path) (dir : Option Path) :
    Found fs p dir (resolveProgram fs p dir) := by
  cases dir with
  | none => exact .kept nofun
  | some d =>
    by_cases hkeep : Path.isAbsolute p = true ∨ fs.isFile (Path.join d p) = false
    · rw [resolveProgram_kept hkeep]
      exact .kept fun d' hd' => Option.some.inj hd' ▸ hkeep
    · rw [not_or, Bool.not_eq_true, Bool.not_eq_false] at hkeep
      rw [resolveProgram_beside hkeep.1 hkeep.2]
      exact .beside rfl hkeep.1 hkeep.2

/-- Beside a launcher in an absolute directory, a program is kept as it is unless it is relative and
a file there. Then the plan has the file's absolute path, which names the directory and then the
program. To plan again with the program found changes nothing. -/
theorem program_resolution (fs : FileSystem) (c : Config) {dir : Path}
    (hdir : Path.isAbsolute dir = true) :
    let l := ofConfig fs c (some dir)
    l.flag = c.flag ∧ l.maxCommandLine = c.maxCommandLine ∧
    (l.program = c.program ↔
      Path.isAbsolute c.program = true ∨ fs.isFile (Path.join dir c.program) = false) ∧
    (l.program ≠ c.program → Path.isAbsolute c.program = false ∧
      l.program = Path.join dir c.program ∧ Path.isAbsolute l.program = true ∧
      fs.isFile l.program = true ∧ Path.components l.program =
        Path.components dir ++ (Path.components c.program).filter (· != Path.here)) ∧
    ofConfig fs { c with program := l.program } (some dir) = l := by
  intro l
  by_cases hkeep : Path.isAbsolute c.program = true ∨ fs.isFile (Path.join dir c.program) = false
  · have hl : l.program = c.program := resolveProgram_kept hkeep
    refine ⟨rfl, rfl, iff_of_true hl hkeep, fun hne => absurd hl hne, ?_⟩
    rw [hl]
  · have hrel : Path.isAbsolute c.program = false := by
      rw [not_or, Bool.not_eq_true] at hkeep
      exact hkeep.1
    have hfile : fs.isFile (Path.join dir c.program) = true := by
      rw [not_or, Bool.not_eq_false] at hkeep
      exact hkeep.2
    have hl : l.program = Path.join dir c.program := resolveProgram_beside hrel hfile
    have habs : Path.isAbsolute l.program = true := hl ▸ Path.isAbsolute_join hdir c.program
    have hne : l.program ≠ c.program := by
      intro heq
      rw [heq, hrel] at habs
      cases habs
    refine ⟨rfl, rfl, iff_of_false hne hkeep, fun _ => ⟨hrel, hl, habs, ?_, ?_⟩, ?_⟩
    · rw [hl, hfile]
    · rw [hl, Path.components_join hdir hrel]
    · have hagain : resolveProgram fs l.program (some dir) = l.program :=
        resolveProgram_kept (.inl habs)
      rw [ofConfig, hagain]
      rfl

/-- Dots are names as they are written: the path found goes up and down again. -/
theorem program_resolution_dotted :
    let dir := Utf8.ofString "/opt/tool/"
    let c : Config := { Config.default with program := Utf8.ofString "./bin/../run" }
    let fs := Config.holding (Utf8.ofString "/opt/tool/./bin/../run") []
    Path.isAbsolute dir = true ∧ (ofConfig fs c (some dir)).program ≠ c.program ∧
    Path.components (ofConfig fs c (some dir)).program =
      ["opt", "tool", "bin", "..", "run"].map Utf8.ofString := by
  intro dir c fs
  have hdir : Path.isAbsolute dir = true := by decide
  obtain ⟨-, -, hkept, hfound, -⟩ := program_resolution fs c hdir
  have hne : (ofConfig fs c (some dir)).program ≠ c.program := by
    rw [ne_eq, hkept]
    decide
  obtain ⟨-, -, -, -, hnames⟩ := hfound hne
  refine ⟨hdir, hne, ?_⟩
  rw [hnames]
  decide

/-- In a relative directory a second look may find another file. -/
example :
    let fs : FileSystem := ⟨fun p => p == Utf8.ofString "bin/x" || p == Utf8.ofString "bin/bin/x",
      fun _ => .error .notFound⟩
    let found := resolveProgram fs (Utf8.ofString "x") (some (Utf8.ofString "bin"))
    found = Utf8.ofString "bin/x" ∧
      resolveProgram fs found (some (Utf8.ofString "bin")) = Utf8.ofString "bin/bin/x" := by
  decide

end Launcher

/-! The limit on the command line -/

namespace Command

theorem listing_new (program : Path) (args : List Bytes) :
    (new program args).listing = (program :: args).map fun s =>
      if 0 ∈ s then Utf8.ofString "<string-with-nul>" else s := by
  change (program :: args).map withoutNul = _
  apply List.map_congr_left
  intro s _
  simp only [withoutNul, List.contains_iff_mem]

theorem sawNul_new {program : Path} {args : List Bytes} :
    (new program args).sawNul = true ↔ ∃ s ∈ program :: args, 0 ∈ s := by
  simp only [new, List.any_eq_true, List.contains_iff_mem]

end Command

theorem intercalate_merge (x y : Bytes) (zs : List Bytes) :
    List.intercalate [0x20] (x :: y :: zs) = List.intercalate [0x20] ((x ++ 0x20 :: y) :: zs) := by
  cases zs with
  | nil => simp [List.intercalate]
  | cons z zs => simp [List.intercalate_cons_cons]

theorem length_intercalate (x : Bytes) (xs : List Bytes) :
    (List.intercalate [0x20] (x :: xs)).length =
      xs.foldl (fun length y => length + 1 + y.length) x.length := by
  induction xs generalizing x with
  | nil => simp [List.intercalate]
  | cons y ys ih =>
    have hmerged : (x ++ 0x20 :: y).length = x.length + 1 + y.length := by
      rw [List.length_append, List.length_cons]
      omega
    rw [intercalate_merge, ih, List.foldl_cons, hmerged]

/-- More arguments, anywhere among the others, or longer ones. -/
abbrev Grown : List Bytes → List Bytes → Prop :=
  List.SublistForall₂ fun arg arg' => arg.length ≤ arg'.length

namespace Launcher

variable {l : Launcher} {args args' : List Bytes}

theorem commandLineLength_eq (l : Launcher) (args : List Bytes) :
    l.commandLineLength args =
      (List.intercalate [0x20] (l.program :: Utf8.encode l.flag :: args)).length := by
  rw [length_intercalate]
  rfl

theorem le_foldl_length (args : List Bytes) (start : Nat) :
    start ≤ args.foldl (fun length arg => length + 1 + arg.length) start := by
  induction args generalizing start with
  | nil => exact Nat.le_refl start
  | cons arg args ih =>
    have hrest := ih (start + 1 + arg.length)
    rw [List.foldl_cons]
    omega

theorem commandLineLength_mono (l : Launcher) (h : Grown args args') :
    l.commandLineLength args ≤ l.commandLineLength args' := by
  have hfold {start start' : Nat} (hstart : start ≤ start') :
      args.foldl (fun length arg => length + 1 + arg.length) start ≤
        args'.foldl (fun length arg => length + 1 + arg.length) start' := by
    induction h generalizing start start' with
    | nil => exact hstart.trans (le_foldl_length _ start')
    | cons hlonger _ ih =>
      rw [List.foldl_cons, List.foldl_cons]
      exact ih (by omega)
    | cons_right _ ih =>
      rw [List.foldl_cons]
      exact ih (by omega)
  exact hfold (Nat.le_refl _)

theorem command_eq_ok_iff {c : Command} : l.command args = .ok c ↔
    l.commandLineLength args < l.maxCommandLine ∧
      c = .new l.program (Utf8.encode l.flag :: args) := by
  unfold command
  by_cases hle : l.maxCommandLine ≤ l.commandLineLength args
  · simp [hle, Nat.not_lt.mpr hle]
  · simp [hle, Nat.not_le.mp hle, eq_comm]

theorem command_eq_error_iff {e : LaunchError} : l.command args = .error e ↔
    l.maxCommandLine ≤ l.commandLineLength args ∧
      e = .tooLong (l.commandLineLength args) l.maxCommandLine := by
  unfold command
  by_cases hle : l.maxCommandLine ≤ l.commandLineLength args
  · simp [hle, eq_comm]
  · simp [hle]

/-- The length of a command line is that of program, flag and arguments joined by single spaces.
Below the limit they make up the command, as they are or, where a NUL byte is inside, by a mark in
their place. From the limit on, length and limit are reported; grown arguments are refused too. -/
theorem command_line_limit (l : Launcher) (args : List Bytes) :
    let given := l.program :: Utf8.encode l.flag :: args
    let length := (List.intercalate [0x20] given).length
    l.commandLineLength args = length ∧
    ((∃ c, l.command args = .ok c) ↔ length < l.maxCommandLine) ∧
    (∀ c, l.command args = .ok c → c.listing = given.map fun s =>
      if 0 ∈ s then Utf8.ofString "<string-with-nul>" else s) ∧
    (∀ e, l.command args = .error e ↔
      l.maxCommandLine ≤ length ∧ e = .tooLong length l.maxCommandLine) ∧
    ∀ args', Grown args args' → (∃ e, l.command args = .error e) →
      ∃ e, l.command args' = .error e := by
  intro given length
  have hlength : l.commandLineLength args = length := commandLineLength_eq l args
  rw [← hlength]
  refine ⟨rfl, ⟨?_, ?_⟩, ?_, fun e => command_eq_error_iff, ?_⟩
  · rintro ⟨c, hc⟩
    exact (command_eq_ok_iff.mp hc).1
  · intro hlt
    exact ⟨_, command_eq_ok_iff.mpr ⟨hlt, rfl⟩⟩
  · intro c hc
    obtain ⟨-, rfl⟩ := command_eq_ok_iff.mp hc
    exact Command.listing_new _ _
  · rintro args' hgrown ⟨e, he⟩
    have hle := (command_eq_error_iff.mp he).1
    exact ⟨_, command_eq_error_iff.mpr ⟨hle.trans (commandLineLength_mono l hgrown), rfl⟩⟩

/-- The limit itself is too long, and an empty argument makes it no shorter. -/
theorem command_line_limit_exclusive :
    let l (limit : Nat) : Launcher := ⟨Utf8.ofString "prog", "-f".toList, limit⟩
    (l 7).command [] = .error (.tooLong 7 7) ∧ (∃ e, (l 7).command [[]] = .error e) ∧
    ∃ c, (l 8).command [] = .ok c ∧ c.listing = [Utf8.ofString "prog", Utf8.ofString "-f"] := by
  intro l
  obtain ⟨-, -, -, hrefused, hgrown⟩ := command_line_limit (l 7) []
  have hseven : (l 7).command [] = .error (.tooLong 7 7) := (hrefused _).mpr (by decide)
  obtain ⟨-, haccepted, hlisted, -, -⟩ := command_line_limit (l 8) []
  obtain ⟨c, hc⟩ := haccepted.mpr (by decide)
  refine ⟨hseven, hgrown [[]] .nil ⟨_, hseven⟩, c, hc, (hlisted c hc).trans ?_⟩
  decide

/-- An argument with a NUL byte does not get into the command as it is. -/
theorem listing_of_nul_argument :
    let l : Launcher := ⟨Utf8.ofString "p", "--console".toList, 512⟩
    let arg := Utf8.ofString "nul\x00inside"
    l.commandLineLength [arg] < l.maxCommandLine ∧
    ¬ ∃ c, l.command [arg] = .ok c ∧ c.listing = [l.program, Utf8.encode l.flag, arg] := by
  intro l arg
  refine ⟨by decide, ?_⟩
  rintro ⟨c, hc, hlisting⟩
  obtain ⟨-, rfl⟩ := command_eq_ok_iff.mp hc
  revert hlisting
  decide

end Launcher

end Launch

end ConsoleRelay
