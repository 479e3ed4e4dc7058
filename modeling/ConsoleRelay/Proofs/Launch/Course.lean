import ConsoleRelay.Host.Machine
import ConsoleRelay.Launch.CommandLine
import ConsoleRelay.Proofs.Launch.Plan
import ConsoleRelay.Proofs.Launch.Search

/-!
The launcher from its arguments to its exit code.

A run looks for its configuration and for the program, measures the command line, and asks the
operating system to start one command, in this order. The rules below say what each run comes to,
without the functions that do the work. Whatever goes wrong ends the run: the causes are printed
after the log and the exit code is 1. Otherwise the exit code is the child's. The operating system
is any function from commands to an error or a child that ran to its end.
-/
namespace ConsoleRelay.Launch

/-- The exit code of a process, if it did not die of a signal. -/
def Finish.code? : Finish → Option Nat
  | .exited code => some code.toNat
  | .killed _ => none

/-- A run in full: records, the commands it tries to start, what a child writes, records again, its
exit code, and the links of the error it ends with. -/
structure Transcript where
  before : List Record
  commands : List Command := []
  output : List Written := []
  after : List Record := []
  code : Nat := 1
  causes : List Text := []

namespace Transcript

def actions (t : Transcript) : List Action :=
  t.before.map .log ++ t.commands.map .spawn ++ t.output.map .child ++ t.after.map .log

def lines (filter : LogFilter) (records : List Record) : List Written :=
  (records.filter filter.admits).map fun r => ⟨.errors, Plain.strip (Utf8.encode r.line)⟩

def told : List Text → List Written
  | [] => []
  | causes => [⟨.errors, Utf8.encode (List.intercalate ": ".toList causes ++ "\n".toList)⟩]

/-- What is printed: what was wrong with the filter, the records that it lets through with the
child's output in between, and the error. -/
def printed (filter : LogFilter) (t : Transcript) : List Written :=
  filter.warnings.map (fun w => ⟨.errors, Utf8.encode w⟩) ++ lines filter t.before ++ t.output ++
    lines filter t.after ++ told t.causes

end Transcript

/-- What is told of a configuration that cannot be loaded: which file it is, and what was wrong with
it. -/
inductive ConfigError.Told : ConfigError → List Text → Prop where
  | unreadable (path : Path) (cause : OsError) : Told (.unreadable path cause)
      ["Failed to read config file: ".toList ++ Quoted.path path, cause.message]
  | malformed (path : Path) (cause : Text) : Told (.malformed path cause)
      ["Failed to parse config file: ".toList ++ Quoted.path path, cause]
  | emptyProgram (path : Path) : Told (.emptyProgram path)
      ["Config file ".toList ++ Quoted.path path ++ " sets an empty program".toList]

theorem ConfigError.told_iff {e : ConfigError} {links : List Text} :
    e.Told links ↔ links = e.causes := by
  constructor
  · intro h
    cases h <;> rfl
  · rintro rfl
    cases e with
    | unreadable path cause => exact .unreadable path cause
    | malformed path cause => exact .malformed path cause
    | emptyProgram path => exact .emptyProgram path

namespace Command

theorem zero_not_mem_listing (c : Command) : ∀ s ∈ c.listing, 0 ∉ s
  | _, .head _ => c.program_clean
  | _, .tail _ hs => c.args_clean _ hs

theorem eq_of_listing {c c' : Command} (hlisting : c.listing = c'.listing)
    (hnul : c.sawNul = c'.sawNul) : c = c' := by
  cases c
  cases c'
  obtain ⟨rfl, rfl⟩ := List.cons.inj hlisting
  cases hnul
  rfl

/-- A command of strings without NUL holds them as they are. -/
theorem eq_new_of_listing {c : Command} {program : Path} {args : List Bytes}
    (hlisting : c.listing = program :: args) (hnul : c.sawNul = false) : c = new program args := by
  have hclean : ∀ s ∈ program :: args, 0 ∉ s := hlisting ▸ c.zero_not_mem_listing
  apply eq_of_listing
  · rw [hlisting, listing_new]
    exact ((List.map_congr_left fun s hs => if_neg (hclean s hs)).trans (List.map_id _)).symm
  · rw [hnul, eq_comm, ← Bool.not_eq_true, sawNul_new]
    rintro ⟨s, hs, hzero⟩
    exact hclean s hs hzero

theorem spawn_of_sawNul {c : Command} (h : c.sawNul = true)
    (start : Command → Except OsError Child) : c.spawn start = .error .nulInArgument := if_pos h

theorem spawn_of_clean {c : Command} (h : c.sawNul = false)
    (start : Command → Except OsError Child) : c.spawn start = start c :=
  if_neg (Bool.eq_false_iff.mp h)

end Command

theorem Finish.exitCode_eq (f : Finish) : f.exitCode = f.code?.getD 1 := by
  cases f <;> rfl

namespace Launcher

variable {start : Command → Except OsError Child} {l : Launcher} {args : List Bytes}
  {command : Command}

def announced (program : Path) (flag : Text) (args : List Bytes) : Record :=
  ⟨.info, "console_launch::launch", "Launching ".toList ++ Utf8.lossy program ++ " ".toList ++
    flag ++ " (".toList ++ decimal args.length ++ " forwarded arguments)".toList⟩

def ended (child : Child) : Record :=
  ⟨.debug, "console_launch::launch", "Child exited with ".toList ++ child.finish.describe⟩

theorem run_of_error {e : LaunchError} (hcommand : l.command args = .error e) :
    l.run start args = ([], .error e) := by
  simp only [run, hcommand]

theorem run_of_refused (hcommand : l.command args = .ok command) {cause : OsError}
    (hspawn : command.spawn start = .error cause) :
    l.run start args = ([.log (announced l.program l.flag args), .spawn command],
      .error (.notStarted l.program cause)) := by
  simp only [run, hcommand, hspawn]
  rfl

theorem run_of_child (hcommand : l.command args = .ok command) {child : Child}
    (hspawn : command.spawn start = .ok child) :
    l.run start args = ([.log (announced l.program l.flag args), .spawn command] ++
      child.written.map .child ++ [.log (ended child)], .ok child) := by
  simp only [run, hcommand, hspawn]
  rfl

end Launcher

namespace Invocation

/-- The records in front of a launch: where the launcher is, and where its configuration. -/
def opening (i : Invocation) (source : Config.Source) : List Record :=
  [⟨.debug, "console_launch", "Launcher directory: ".toList ++
    Quoted.optional Quoted.path i.directory⟩, source.record]

/-- The strings that a child is to be given: its program, the flag, and the launcher's own arguments
without its name. -/
def given (i : Invocation) (program : Path) (flag : Text) : List Bytes :=
  program :: Utf8.encode flag :: i.argv.tail

def lineLength (strings : List Bytes) : Nat := (List.intercalate [0x20] strings).length

/-- A configuration, where it comes from, and the program it leads to. -/
structure Prepared (complaint : Text → Text) (fs : FileSystem) (i : Invocation)
    (source : Config.Source) (c : Config) (program : Path) : Prop where
  sought : Config.Sought fs i.configVariable i.directory source
  holds : Config.Holds complaint fs source (.ok c)
  found : Launcher.Found fs c.program i.directory program

/-- What a run comes to. Without a configuration, or with a command line that reaches the limit, no
command is started. Otherwise just one is: the program with the flag and all arguments as they are.
Only where one of them has a NUL byte, which no command can hold, the command has a mark in its
place, and is refused. -/
inductive Rules (complaint : Text → Text) (fs : FileSystem)
    (start : Command → Except OsError Child) (i : Invocation) : Transcript → Prop where
  | unresolved {source : Config.Source} {e : ConfigError} {links : List Text} :
      Config.Sought fs i.configVariable i.directory source →
      Config.Holds complaint fs source (.error e) → e.Told links →
      Rules complaint fs start i {
        before := i.opening source
        causes := "Failed to load launch configuration".toList :: links }
  | tooLong {source : Config.Source} {c : Config} {program : Path} :
      Prepared complaint fs i source c program →
      c.maxCommandLine ≤ lineLength (i.given program c.flag) →
      Rules complaint fs start i {
        before := i.opening source
        causes := ["Arguments string is too long! (".toList ++
          decimal (lineLength (i.given program c.flag)) ++ " characters, limit ".toList ++
          decimal c.maxCommandLine ++ ")".toList] }
  | nul {source : Config.Source} {c : Config} {program : Path} {command : Command} :
      Prepared complaint fs i source c program →
      lineLength (i.given program c.flag) < c.maxCommandLine →
      (∃ s ∈ i.given program c.flag, 0 ∈ s) →
      command.listing = (i.given program c.flag).map (fun s =>
        if 0 ∈ s then Utf8.ofString "<string-with-nul>" else s) →
      command.sawNul = true →
      Rules complaint fs start i {
        before := i.opening source ++ [Launcher.announced program c.flag i.argv.tail]
        commands := [command]
        causes := ["Failed to launch ".toList ++ Utf8.lossy program,
          "nul byte found in provided data".toList] }
  | refused {source : Config.Source} {c : Config} {program : Path} {command : Command}
      {cause : OsError} :
      Prepared complaint fs i source c program →
      lineLength (i.given program c.flag) < c.maxCommandLine →
      command.listing = i.given program c.flag → command.sawNul = false →
      start command = .error cause →
      Rules complaint fs start i {
        before := i.opening source ++ [Launcher.announced program c.flag i.argv.tail]
        commands := [command]
        causes := ["Failed to launch ".toList ++ Utf8.lossy program, cause.message] }
  | ran {source : Config.Source} {c : Config} {program : Path} {command : Command}
      {child : Child} :
      Prepared complaint fs i source c program →
      lineLength (i.given program c.flag) < c.maxCommandLine →
      command.listing = i.given program c.flag → command.sawNul = false →
      start command = .ok child →
      Rules complaint fs start i {
        before := i.opening source ++ [Launcher.announced program c.flag i.argv.tail]
        commands := [command]
        output := child.written
        after := [Launcher.ended child]
        code := child.finish.code?.getD 1 }

/-- A run is as a transcript says. Of the commands in it, the operating system is asked for those
without a mark, and its other answers make no difference. -/
structure Follows (libraries : Libraries) (fs : FileSystem)
    (start : Command → Except OsError Child) (i : Invocation) (t : Transcript) : Prop where
  actions : (i.perform libraries.toml fs start).1 = t.actions
  asked : ∀ start', (∀ c ∈ t.commands, c.sawNul = false → start' c = start c) →
    i.perform libraries.toml fs start' = i.perform libraries.toml fs start
  exitCode : (i.printout libraries fs start).exitCode = t.code
  written : (i.printout libraries fs start).written =
    t.printed (LogFilter.ofVariable libraries.patterns i.logVariable)

variable {libraries : Libraries} {complaint : Text → Text} {fs : FileSystem}
  {start : Command → Except OsError Child} {i : Invocation} {source : Config.Source} {c : Config}
  {program : Path}

theorem flatMap_written (filter : LogFilter) (t : Transcript) :
    t.actions.flatMap (written filter) =
      Transcript.lines filter t.before ++ t.output ++ Transcript.lines filter t.after := by
  have hlog (rs : List Record) :
      (rs.map Action.log).flatMap (written filter) = Transcript.lines filter rs := by
    induction rs with
    | nil => rfl
    | cons r rs ih =>
      rw [List.map_cons, List.flatMap_cons, ih, Transcript.lines, Transcript.lines, written,
        List.filter_cons]
      split <;> rfl
  have hspawn (cs : List Command) : (cs.map Action.spawn).flatMap (written filter) = [] := by
    simp [written]
  have hchild (ws : List Written) : (ws.map Action.child).flatMap (written filter) = ws := by
    simp [List.flatMap_map, written]
  rw [Transcript.actions, List.flatMap_append, List.flatMap_append, List.flatMap_append, hlog,
    hspawn, hchild, hlog, List.append_nil]

/-- Whoever knows what a run does, whatever the operating system would do with other commands, knows
what it prints. -/
theorem Follows.of_perform {t : Transcript} {actions : List Action}
    {result : Except RunError Child}
    (hperform : ∀ start', (∀ c ∈ t.commands, c.sawNul = false → start' c = start c) →
      i.perform libraries.toml fs start' = (actions, result))
    (hactions : t.actions = actions)
    (hcode : Invocation.exitCode result = t.code)
    (htold : Invocation.complaint result = Transcript.told t.causes) :
    i.Follows libraries fs start t := by
  subst hactions
  have hself := hperform start fun _ _ _ => rfl
  refine ⟨by rw [hself], fun start' h => (hperform start' h).trans hself.symm, ?_, ?_⟩
  · simp only [printout, hself, hcode]
  · simp only [printout, hself, flatMap_written, htold, Transcript.printed, List.append_assoc]

theorem perform_of_error {e : ConfigError}
    (hsought : Config.Sought fs i.configVariable i.directory source)
    (hholds : Config.Holds complaint fs source (.error e)) :
    i.perform (Toml.reader complaint) fs start =
      ((i.opening source).map .log, .error (.config e)) := by
  simp only [perform, Config.resolve_of_sought _ hsought, ← Config.holds_iff.mp hholds]
  rfl

theorem perform_of_prepared (h : Prepared complaint fs i source c program) :
    i.perform (Toml.reader complaint) fs start =
      ((i.opening source).map .log ++
          ((⟨program, c.flag, c.maxCommandLine⟩ : Launcher).run start i.argv.tail).1,
        ((⟨program, c.flag, c.maxCommandLine⟩ : Launcher).run start i.argv.tail).2.mapError
          .launch) := by
  have hprogram : Launcher.ofConfig fs c i.directory = ⟨program, c.flag, c.maxCommandLine⟩ := by
    rw [Launcher.ofConfig, Launcher.resolveProgram_of_found h.found]
  simp only [perform, Config.resolve_of_sought _ h.sought, ← Config.holds_iff.mp h.holds, hprogram,
    forwarded, List.drop_one]
  rfl

/-- A prepared launch goes as far as its launcher does. -/
theorem Prepared.follows {patterns : PatternEngine} (h : Prepared complaint fs i source c program)
    {t : Transcript} {actions : List Action} {result : Except LaunchError Child}
    (hrun : ∀ start', (∀ c ∈ t.commands, c.sawNul = false → start' c = start c) →
      (⟨program, c.flag, c.maxCommandLine⟩ : Launcher).run start' i.argv.tail = (actions, result))
    (hactions : t.actions = (i.opening source).map .log ++ actions)
    (hcode : Invocation.exitCode (result.mapError .launch) = t.code)
    (htold : Invocation.complaint (result.mapError .launch) = Transcript.told t.causes) :
    i.Follows ⟨Toml.reader complaint, patterns⟩ fs start t := by
  refine .of_perform (fun start' hstart => ?_) hactions hcode htold
  rw [perform_of_prepared h, hrun start' hstart]

theorem commandLineLength_given (c : Config) (program : Path) (i : Invocation) :
    (⟨program, c.flag, c.maxCommandLine⟩ : Launcher).commandLineLength i.argv.tail =
      lineLength (i.given program c.flag) :=
  Launcher.commandLineLength_eq _ _

theorem command_tooLong (hlength : c.maxCommandLine ≤ lineLength (i.given program c.flag)) :
    (⟨program, c.flag, c.maxCommandLine⟩ : Launcher).command i.argv.tail =
      .error (.tooLong (lineLength (i.given program c.flag)) c.maxCommandLine) := by
  rw [Launcher.command_eq_error_iff, commandLineLength_given]
  exact ⟨hlength, rfl⟩

theorem command_new (hlength : lineLength (i.given program c.flag) < c.maxCommandLine) :
    (⟨program, c.flag, c.maxCommandLine⟩ : Launcher).command i.argv.tail =
      .ok (.new program (Utf8.encode c.flag :: i.argv.tail)) := by
  rw [Launcher.command_eq_ok_iff, commandLineLength_given]
  exact ⟨hlength, rfl⟩

/-- Whatever the rules say of a run, the launcher does. -/
theorem Rules.follows {t : Transcript} (h : Rules complaint fs start i t)
    (patterns : PatternEngine) : i.Follows ⟨Toml.reader complaint, patterns⟩ fs start t := by
  cases h with
  | unresolved hsought hholds htold =>
    obtain rfl := ConfigError.told_iff.mp htold
    refine .of_perform (fun start' _ => perform_of_error hsought hholds) ?_ rfl rfl
    simp [Transcript.actions]
  | tooLong hprepared hlength =>
    refine hprepared.follows (fun start' _ => Launcher.run_of_error (command_tooLong hlength))
      ?_ rfl rfl
    simp [Transcript.actions]
  | @nul _ c program command hprepared hlength hnul hlisting hsaw =>
    have hcommand : command = .new program (Utf8.encode c.flag :: i.argv.tail) :=
      Command.eq_of_listing (hlisting.trans (Command.listing_new _ _).symm)
        (hsaw.trans (Command.sawNul_new.mpr hnul).symm)
    refine hprepared.follows (fun start' _ => Launcher.run_of_refused
      ((command_new hlength).trans (congrArg _ hcommand.symm))
      (Command.spawn_of_sawNul hsaw start')) ?_ rfl rfl
    simp [Transcript.actions]
  | @refused _ c program command cause hprepared hlength hlisting hsaw hstart =>
    have hcommand := Command.eq_new_of_listing hlisting hsaw
    refine hprepared.follows (fun start' hsame => Launcher.run_of_refused
      ((command_new hlength).trans (congrArg _ hcommand.symm)) ?_) ?_ rfl rfl
    · rw [Command.spawn_of_clean hsaw, hsame command (List.mem_singleton_self _) hsaw, hstart]
    · simp [Transcript.actions]
  | @ran _ c program command child hprepared hlength hlisting hsaw hstart =>
    have hcommand := Command.eq_new_of_listing hlisting hsaw
    refine hprepared.follows (fun start' hsame => Launcher.run_of_child
      ((command_new hlength).trans (congrArg _ hcommand.symm)) ?_) ?_ child.finish.exitCode_eq rfl
    · rw [Command.spawn_of_clean hsaw, hsame command (List.mem_singleton_self _) hsaw, hstart]
    · simp [Transcript.actions]

theorem exists_prepared (complaint : Text → Text) (fs : FileSystem) (i : Invocation) :
    (∃ source e, Config.Sought fs i.configVariable i.directory source ∧
      Config.Holds complaint fs source (.error e)) ∨
    ∃ source c program, Prepared complaint fs i source c program := by
  have hsought := Config.sought_locate fs i.configVariable i.directory
  generalize Config.Source.ofFile (Config.locate fs i.configVariable i.directory) = source
    at hsought
  have hholds : Config.Holds complaint fs source (source.load (Toml.reader complaint) fs) :=
    Config.holds_iff.mpr rfl
  cases hload : source.load (Toml.reader complaint) fs with
  | error e => exact .inl ⟨source, e, hsought, hload ▸ hholds⟩
  | ok c =>
    exact .inr ⟨source, c, _, hsought, hload ▸ hholds,
      Launcher.found_resolveProgram fs c.program i.directory⟩

/-- A prepared launch whose line is short enough starts one command, marked or not. -/
theorem Prepared.exists_rules (h : Prepared complaint fs i source c program)
    (hlength : lineLength (i.given program c.flag) < c.maxCommandLine)
    (start : Command → Except OsError Child) : ∃ t, Rules complaint fs start i t := by
  have hlisting := Command.listing_new program (Utf8.encode c.flag :: i.argv.tail)
  have hsaw := @Command.sawNul_new program (Utf8.encode c.flag :: i.argv.tail)
  by_cases hnul : ∃ s ∈ i.given program c.flag, 0 ∈ s
  · exact ⟨_, .nul h hlength hnul hlisting (hsaw.mpr hnul)⟩
  · have hclean : ∀ s ∈ i.given program c.flag, 0 ∉ s := fun s hs hzero => hnul ⟨s, hs, hzero⟩
    have hgiven := hlisting.trans ((List.map_congr_left fun s hs => if_neg (hclean s hs)).trans
      (List.map_id _))
    have hunmarked := Bool.eq_false_iff.mpr (mt hsaw.mp hnul)
    cases hstart : start (.new program (Utf8.encode c.flag :: i.argv.tail)) with
    | error cause => exact ⟨_, .refused h hlength hgiven hunmarked hstart⟩
    | ok child => exact ⟨_, .ran h hlength hgiven hunmarked hstart⟩

/-- The rules leave no run out. -/
theorem exists_rules (complaint : Text → Text) (fs : FileSystem)
    (start : Command → Except OsError Child) (i : Invocation) :
    ∃ t, Rules complaint fs start i t := by
  rcases exists_prepared complaint fs i with ⟨_, _, hsought, hholds⟩ | ⟨_, c, program, h⟩
  · exact ⟨_, .unresolved hsought hholds (ConfigError.told_iff.mpr rfl)⟩
  · rcases Nat.lt_or_ge (lineLength (i.given program c.flag)) c.maxCommandLine with hlt | hle
    · exact h.exists_rules hlt start
    · exact ⟨_, .tooLong h hle⟩

/-- The launcher end to end, whatever its arguments, its environment, the files, the operating
system, the wording of its reader and the patterns of its log: each run comes to something by the
rules, and nothing else happens. -/
theorem launch_course (complaint : Text → Text) (patterns : PatternEngine) (fs : FileSystem)
    (start : Command → Except OsError Child) (i : Invocation) :
    (∃ t, i.Rules complaint fs start t) ∧
      ∀ t, i.Rules complaint fs start t →
        i.Follows ⟨Toml.reader complaint, patterns⟩ fs start t :=
  ⟨exists_rules complaint fs start i, fun _ h => h.follows patterns⟩

/-- Arguments of any bytes are handed on, and a child that a signal ends has failed. -/
theorem launch_course_killed :
    let fs := Config.holding (Utf8.ofString "c") (Utf8.ofString "program = \"p\"")
    let i : Invocation := ⟨[Utf8.ofString "launch", Utf8.ofString "--", [], [0xFF]],
      some (Utf8.ofString "c"), none, none⟩
    let command : Command :=
      .new (Utf8.ofString "p") [Utf8.ofString "--console", Utf8.ofString "--", [], [0xFF]]
    let start (asked : Command) : Except OsError Child :=
      if asked = command then .ok ⟨.killed 9, []⟩ else .error .notFound
    let libraries : Libraries := ⟨Toml.reader id, fun _ => .ok fun _ => true⟩
    command.listing = i.given (Utf8.ofString "p") "--console".toList ∧
    .spawn command ∈ (i.perform libraries.toml fs start).1 ∧
    (i.printout libraries fs start).exitCode = 1 := by
  intro fs i command start libraries
  have hlisting : command.listing = i.given (Utf8.ofString "p") "--console".toList := by decide
  have hprepared : Prepared id fs i (.file (Utf8.ofString "c"))
      ⟨Utf8.ofString "p", "--console".toList, 32767⟩ (Utf8.ofString "p") :=
    ⟨.named rfl (by decide), Config.holds_iff.mpr (by decide +kernel), .kept nofun⟩
  have hrun := Rules.ran hprepared (by decide) hlisting (by decide)
    (show start command = .ok ⟨.killed 9, []⟩ from if_pos rfl)
  have hfollows := (launch_course id libraries.patterns fs start i).2 _ hrun
  refine ⟨hlisting, ?_, hfollows.exitCode⟩
  rw [hfollows.actions]
  simp [Transcript.actions]

/-- A flag with a NUL byte does not get to the child as it is. -/
theorem spawned_of_nul_flag :
    let fs := Config.holding (Utf8.ofString "c") (Utf8.ofString "flag = \"a\\u0000b\"")
    let i : Invocation := ⟨[Utf8.ofString "launch", []], some (Utf8.ofString "c"), none, none⟩
    let toml := Toml.reader id
    let given := [Utf8.ofString "Rained", Utf8.ofString "a\x00b", []]
    (Config.resolve toml fs i.configVariable i.directory).2 =
      .ok ⟨Utf8.ofString "Rained", "a\x00b".toList, 32767⟩ ∧
    lineLength given < 32767 ∧
    ¬ ∃ command : Command, command.listing = given ∧
      .spawn command ∈ (i.perform toml fs fun _ => .error .notFound).1 := by
  intro fs i toml given
  refine ⟨by decide +kernel, by decide, ?_⟩
  rintro ⟨command, hlisting, -⟩
  exact command.zero_not_mem_listing (Utf8.ofString "a\x00b") (hlisting ▸ by decide) (by decide)

/-- A script beside the launcher, run on a machine with the shell. -/
example :
    let script := Disk.add (.empty []) [Utf8.ofString "Rained"]
      (.file (Utf8.ofString "#!/bin/sh\nexit 3\n") true)
    let i : Invocation := ⟨[Utf8.ofString "/launch", Utf8.ofString "--", []], none, none,
      some (Utf8.ofString "/")⟩
    i.printout ⟨Toml.reader id, fun _ => .ok fun _ => true⟩ script.fileSystem
      (Machine.mk script []).start = ⟨3, []⟩ := by
  decide +kernel

end Invocation

end ConsoleRelay.Launch
