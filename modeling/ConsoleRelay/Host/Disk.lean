import ConsoleRelay.FileSystem
import ConsoleRelay.Host.Tool

/-!
A tree of files, for the machine that stands in for the operating system. Its paths are walked name
by name from the root or from the current directory, and every name on the way is looked up in a
directory.
-/
namespace ConsoleRelay

abbrev Location := List Bytes

/-- What a location holds. `null` is the device that is always empty. -/
inductive Entry where
  | directory
  | file (content : Bytes) (executable : Bool)
  | tool (t : Tool)
  | null
  deriving DecidableEq, Repr

structure Disk where
  entries : List (Location × Entry) := []
  current : Location := []
  deriving DecidableEq, Repr

namespace Disk

def nameLimit : Nat := 255

def pathLimit : Nat := 4096

def entry? (d : Disk) (loc : Location) : Option Entry :=
  if loc.isEmpty then some .directory else d.entries.lookup loc

/-- The disk with an entry at a location, in place of what was there. -/
def put (d : Disk) (loc : Location) (e : Entry) : Disk :=
  { d with entries := (loc, e) :: d.entries.filter (·.1 != loc) }

def remove (d : Disk) (loc : Location) : Disk :=
  { d with entries := d.entries.filter fun e => !loc.isPrefixOf e.1 }

/-- The disk with a location and all that is below it moved to another. -/
def move (d : Disk) (source target : Location) : Disk :=
  { d with entries := (d.remove target).entries.map fun e =>
      if source.isPrefixOf e.1 then (target ++ e.1.drop source.length, e.2) else e }

def names (d : Disk) (loc : Location) : List Bytes :=
  d.entries.filterMap fun e =>
    if e.1.dropLast == loc && !e.1.isEmpty then e.1.getLast? else none

/-- The disk with a directory and all directories above it. The first argument is what of the
location exists already. -/
def makeDirectories (base : Location) : Location → Disk → Disk
  | [], d => d
  | name :: names, d =>
    let loc := base ++ [name]
    let d' := if (d.entry? loc).isSome then d else d.put loc .directory
    makeDirectories loc names d'

def add (d : Disk) (loc : Location) (e : Entry) : Disk :=
  (makeDirectories [] loc.dropLast d).put loc e

def start (d : Disk) (p : Path) : Location := if Path.isAbsolute p then [] else d.current

def place (d : Disk) (p : Path) : Location :=
  (Path.names p).foldl
    (fun loc name =>
      if name.isEmpty || name == Path.here then loc
      else if name == Path.above then loc.dropLast
      else loc ++ [name])
    (d.start p)

/-- Where the names on a path lead. Every name is looked up in a directory. -/
def walk (d : Disk) : Location → List Bytes → Except OsError Location
  | loc, [] => .ok loc
  | loc, name :: names =>
    match d.entry? loc with
    | none => .error .notFound
    | some .directory =>
      if name.isEmpty || name == Path.here then walk d loc names
      else if name == Path.above then walk d loc.dropLast names
      else if nameLimit < name.length then .error .nameTooLong
      else if (d.entry? (loc ++ [name])).isSome then walk d (loc ++ [name]) names
      else .error .notFound
    | some _ => .error .notADirectory

def locate (d : Disk) (p : Path) : Except OsError Location :=
  if p.contains 0 then .error .nulInName
  else if p.isEmpty then .error .notFound
  else if pathLimit ≤ p.length then .error .nameTooLong
  else d.walk (d.start p) (Path.names p)

def find (d : Disk) (p : Path) : Except OsError Entry := do
  let loc ← d.locate p
  match d.entry? loc with
  | some e => return e
  | none => throw .notFound

def isFile (d : Disk) (p : Path) : Bool :=
  match d.find p with
  | .ok (.file ..) | .ok (.tool _) => true
  | _ => false

def isDirectory (d : Disk) (p : Path) : Bool :=
  match d.find p with
  | .ok .directory => true
  | _ => false

def image : Bytes := [0x7F, 0x45, 0x4C, 0x46, 0x02, 0x01, 0x01, 0x80]

def content : Entry → Except OsError Bytes
  | .file content _ => .ok content
  | .tool _ => .ok image
  | .null => .ok []
  | .directory => .error .isADirectory

def read (d : Disk) (p : Path) : Except OsError Bytes := do content (← d.find p)

/-- The location of something to be made, which need not exist, and whether the path asks for a
directory. -/
def locateNew (d : Disk) (p : Path) : Except OsError (Location × Bool) := do
  if p.isEmpty then throw .notFound
  let names := Path.names p
  let kept := (names.reverse.dropWhile List.isEmpty).reverse
  let last := kept.getLastD []
  let slash := kept.length < names.length
  let dir ← d.walk (d.start p) kept.dropLast
  match d.entry? dir with
  | some .directory =>
    if last.isEmpty || last == Path.here then return (dir, true)
    else if last == Path.above then return (dir.dropLast, true)
    else if nameLimit < last.length then throw .nameTooLong
    else return (dir ++ [last], slash)
  | some _ => throw .notADirectory
  | none => throw .notFound

def locateFile (d : Disk) (p : Path) : Except OsError Location := do
  let (loc, slash) ← d.locateNew p
  match d.entry? loc with
  | some .directory => throw .isADirectory
  | some _ => if slash then throw .notADirectory else return loc
  | none => if slash then throw .isADirectory else return loc

def makeDirectory (d : Disk) (p : Path) : Except OsError Disk := do
  let (loc, _) ← d.locateNew p
  if (d.entry? loc).isSome then throw .exists else return d.put loc .directory

/-- Bytes with others written over them from a position on, and zeros before it if there is
nothing. -/
def overwrite (old : Bytes) (pos : Nat) (new : Bytes) : Bytes :=
  old.take pos ++ List.replicate (pos - old.length) 0 ++ new ++ old.drop (pos + new.length)

def writeAt (d : Disk) (loc : Location) (pos : Nat) (bs : Bytes) : Disk :=
  match d.entry? loc with
  | some (.file old executable) => d.put loc (.file (overwrite old pos bs) executable)
  | _ => d

def fileSystem (d : Disk) : FileSystem := ⟨d.isFile, d.read⟩

def directories : List String := [
  "/boot", "/dev", "/etc", "/home", "/lib", "/media", "/mnt", "/opt", "/proc", "/root", "/run",
  "/sbin", "/srv", "/sys", "/tmp", "/usr/bin", "/usr/lib", "/usr/local/bin", "/usr/sbin",
  "/usr/share", "/var/lib", "/var/tmp", "/bin"]

/-- A machine with its programs, a list of users, and an empty current directory. -/
def empty (current : Location) : Disk :=
  let root : Disk := ⟨[], current⟩
  let place := fun (s : String) => root.place (Utf8.ofString s)
  let bare := directories.foldl (fun d s => makeDirectories [] (place s) d) root
  let named := (bare.put (place "/dev/null") .null).put (place "/etc/passwd")
    (.file (Utf8.ofString "root:x:0:0:root:/root:/bin/sh\n") false)
  let equipped := Tool.names.foldl
    (fun (d : Disk) t =>
      (d.put (place ("/bin/" ++ t.1)) (.tool t.2)).put (place ("/usr/bin/" ++ t.1)) (.tool t.2))
    named
  makeDirectories [] current equipped

end Disk

end ConsoleRelay
