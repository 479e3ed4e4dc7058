import ConsoleRelay.Log
import ConsoleRelay.Text.Blank

/-!
Log filters: which records of which modules are written.

A filter is a list of directives separated by commas: a level for everything, a module, or a module
with its level. The directive with the longest matching module decides. A filter without directives
lets errors through. Behind a slash there may be a pattern, which the messages have to match too.
-/
namespace ConsoleRelay.Launch

/-- One directive: a module, or everything, and how verbose it is. -/
structure LogDirective where
  scope : Option Text
  verbosity : Verbosity
  deriving DecidableEq, Repr

/-- A library for patterns: which texts a pattern matches, or what is wrong with it. -/
abbrev PatternEngine := Text → Except Text (Text → Bool)

structure LogFilter where
  directives : List LogDirective := []
  accepts : Text → Bool := fun _ => true
  warnings : List Text := []

namespace LogFilter

def splitAt (separator : Char) : Text → List Text
  | [] => [[]]
  | c :: cs =>
    match splitAt separator cs with
    | [] => [[c]]
    | part :: parts => if c == separator then [] :: part :: parts else (c :: part) :: parts

def trim (t : Text) : Text := trimEnd (t.dropWhile isBlank)

def specificity (d : LogDirective) : Nat := (d.scope.map List.length).getD 0

def concerns (target : String) (d : LogDirective) : Bool :=
  match d.scope with
  | none => true
  | some scope => scope.isPrefixOf target.toList

/-- The directive that decides about a target: the most specific one, the last of equals. -/
def deciding? (directives : List LogDirective) (target : String) : Option LogDirective :=
  (directives.filter (concerns target)).foldl
    (fun best d =>
      match best with
      | none => some d
      | some b => if specificity b ≤ specificity d then some d else some b)
    none

def effective (f : LogFilter) : List LogDirective :=
  if f.directives.isEmpty then [⟨none, .upTo .error⟩] else f.directives

def admits (f : LogFilter) (r : Record) : Bool :=
  match deciding? f.effective r.target with
  | some d => d.verbosity.admits r.severity && f.accepts r.text
  | none => false

/-- Add a directive, in place of an earlier one for the same module. -/
def add (f : LogFilter) (d : LogDirective) : LogFilter :=
  if f.directives.any (·.scope == d.scope) then
    { f with directives := f.directives.map fun e => if e.scope == d.scope then d else e }
  else { f with directives := f.directives ++ [d] }

def warn (f : LogFilter) (what : Text) : LogFilter :=
  { f with warnings := f.warnings ++
    ["warning: invalid ".toList ++ what ++ ", ignoring it\n".toList] }

def quoted (spec : Text) : Text := "logging spec '".toList ++ spec ++ "'".toList

def addSpec (f : LogFilter) (spec : Text) : LogFilter :=
  if spec.isEmpty then f
  else
    match splitAt '=' spec with
    | [only] =>
      match Verbosity.ofName? only with
      | some v => f.add ⟨none, v⟩
      | none => f.add ⟨some only, .all⟩
    | [scope, level] =>
      if (trim level).isEmpty then f.add ⟨some scope, .all⟩
      else
        match Verbosity.ofName? (trim level) with
        | some v => f.add ⟨some scope, v⟩
        | none => f.warn (quoted (trim level))
    | _ => f.warn (quoted spec)

def ofSpecs (t : Text) : LogFilter := ((splitAt ',' t).map trim).foldl addSpec {}

def restrict (engine : PatternEngine) (f : LogFilter) (pattern : Text) : LogFilter :=
  match engine pattern with
  | .ok accepts => { f with accepts }
  | .error cause => f.warn ("regex filter - ".toList ++ cause)

def ofText (engine : PatternEngine) (t : Text) : LogFilter :=
  match splitAt '/' t with
  | [specs] => ofSpecs specs
  | [specs, pattern] => restrict engine (ofSpecs specs) pattern
  | _ => warn {} (quoted t ++ " (too many '/'s)".toList)

/-- The filter of an environment variable: warnings where it is unset or no text. -/
def ofVariable (engine : PatternEngine) (value : Option Bytes) : LogFilter :=
  ofText engine ((value.bind Utf8.decode?).getD "warn".toList)

end LogFilter

end ConsoleRelay.Launch
