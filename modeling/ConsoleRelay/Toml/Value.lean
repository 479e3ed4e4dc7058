import ConsoleRelay.Text.Utf8

/-!
TOML values, and the tables that a document's headers and keys build up.

A table remembers how it came to be, because that decides who may add to it: a header may name a
table that longer headers only implied, dotted keys may extend what dotted keys began, and nothing
may add to an inline table. The values and the rules are those of TOML 1.0 and of the library
`toml`.
-/
namespace ConsoleRelay.Toml

/-- How a table came to be: by its own header, by a longer header, or by dotted keys. -/
inductive Origin where
  | defined
  | implied
  | dotted
  deriving DecidableEq, Repr

/-- A TOML value. Floats and moments in time keep the text they were written with. -/
inductive Value where
  | string (t : Text)
  | integer (i : Int)
  | float (written : Text)
  | boolean (b : Bool)
  | moment (written : Text)
  | array (items : List Value)
  | inline (fields : List (Text × Value))
  | table (origin : Origin) (fields : List (Text × Value))
  | tables (elements : List (List (Text × Value)))

/-- A table's keys and values in the order they were set. -/
abbrev Table := List (Text × Value)

namespace Table

def find? (t : Table) (key : Text) : Option Value := t.lookup key

/-- The table with a key set, in its old place if it had one. -/
def set (t : Table) (key : Text) (v : Value) : Table :=
  if (t.find? key).isSome then t.map fun f => if f.1 = key then (key, v) else f
  else t ++ [(key, v)]

/-- Change the table at a path below a table. Missing tables on the way are made. Dotted keys do
not enter a table that has a header; an array of tables is entered at its last element. -/
def update (byKey : Bool) (change : Origin → Table → Option Table) :
    Origin → List Text → Table → Option Table
  | origin, [], t => change origin t
  | _, key :: path, t =>
    match t.find? key with
    | none => do
      let made := if byKey then Origin.dotted else Origin.implied
      let sub ← update byKey change made path []
      return t.set key (.table made sub)
    | some (.table origin sub) =>
      if byKey && origin == .defined then none
      else do
        let sub' ← update byKey change origin path sub
        return t.set key (.table origin sub')
    | some (.tables elements) =>
      match elements.reverse with
      | [] => none
      | last :: before => do
        let last' ← update byKey change .defined path last
        return t.set key (.tables (last' :: before).reverse)
    | some _ => none

def insertNew (key : Text) (v : Value) (t : Table) : Option Table :=
  if (t.find? key).isSome then none else some (t ++ [(key, v)])

/-- Set a dotted key below a table. All but its last part lead through tables that dotted keys
made. -/
def insertPath (origin : Origin) (path : List Text) (key : Text) (v : Value) (t : Table) :
    Option Table :=
  update true
    (fun reached sub => if path.isEmpty || reached == .dotted then insertNew key v sub else none)
    origin path t

def define (key : Text) (t : Table) : Option Table :=
  match t.find? key with
  | none => some (t.set key (.table .defined []))
  | some (.table .implied sub) => some (t.set key (.table .defined sub))
  | some _ => none

def append (key : Text) (t : Table) : Option Table :=
  match t.find? key with
  | none => some (t.set key (.tables [[]]))
  | some (.tables elements) => some (t.set key (.tables (elements ++ [[]])))
  | some _ => none

end Table

/-- The part of a document read so far: all its tables and the path of the current header. -/
structure Draft where
  root : Table := []
  current : List Text := []

namespace Draft

def keyValue (d : Draft) (path : List Text) (key : Text) (v : Value) : Option Draft := do
  let root ← Table.update false (fun origin t => Table.insertPath origin path key v t)
    .defined d.current d.root
  return { d with root := root }

def header (d : Draft) (path : List Text) (key : Text) : Option Draft := do
  let root ← Table.update false (fun _ t => Table.define key t) .defined path d.root
  return ⟨root, path ++ [key]⟩

def arrayHeader (d : Draft) (path : List Text) (key : Text) : Option Draft := do
  let root ← Table.update false (fun _ t => Table.append key t) .defined path d.root
  return ⟨root, path ++ [key]⟩

end Draft

end ConsoleRelay.Toml
