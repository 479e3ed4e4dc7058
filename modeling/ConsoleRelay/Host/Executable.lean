import ConsoleRelay.Host.Disk

/-!
Executable files of the machine that stands in for the operating system: what runs when one is
started.

A file either is a program of the machine or names the one that interprets it on its first line.
Only the start of a file is looked at for that.
-/
namespace ConsoleRelay

/-- A program of the machine with the name it is started by and the arguments after that. -/
structure Image where
  tool : Tool
  name : Bytes
  args : List Bytes
  deriving DecidableEq, Repr

namespace Executable

def headLength : Nat := 256

def isBlank (b : UInt8) : Bool := b == 0x20 || b == 0x09

def endsName (b : UInt8) : Bool := isBlank b || b == 0

def cString (bs : Bytes) : Bytes := bs.takeWhile (· != 0)

def trimEnd (bs : Bytes) : Bytes := (bs.reverse.dropWhile isBlank).reverse

/-- The interpreter on a line and its argument, which is all that follows. -/
def ofLine (line : Bytes) : Option (Path × List Bytes) :=
  match line.dropWhile isBlank with
  | [] => none
  | line =>
    let name := line.takeWhile fun b => !endsName b
    match line.drop name.length with
    | [] => some (name, [])
    | b :: rest =>
      if b == 0 then some (name, []) else some (name, [cString (rest.dropWhile isBlank)])

/-- The interpreter that a file names, and its argument. Without a line end in the head of the file
the name has to end there, and zeros fill it up. -/
def interpreter? : Bytes → Option (Path × List Bytes)
  | 0x23 :: 0x21 :: r =>
    let head := r.take (headLength - 2)
    if head.contains 0x0A then ofLine (trimEnd (head.takeWhile (· != 0x0A)))
    else
      let filled := head ++ List.replicate (headLength - 2 - head.length) 0
      if (filled.dropWhile isBlank).any endsName then ofLine (trimEnd filled.dropLast) else none
  | _ => none

def chainLimit : Nat := 6

/-- What runs when the file at a path is started with a name and arguments. The first argument
bounds the chain of interpreters; that a file is there and may be executed is found out first. An
interpreter without a name is the current directory, which cannot be executed. -/
def resolve (d : Disk) : Nat → Path → Bytes → List Bytes → Except OsError Image
  | n, path, name, args => do
    match ← d.find path with
    | .directory | .null | .file _ false => throw .permissionDenied
    | .tool t => if n = 0 then throw .tooManyLevels else return ⟨t, name, args⟩
    | .file content true =>
      match n with
      | 0 => throw .tooManyLevels
      | n + 1 =>
        match interpreter? content with
        | some ([], _) => throw .permissionDenied
        | some (interpreter, first) =>
          resolve d n interpreter interpreter (first ++ path :: args)
        | none => throw .badExecutable

/-- Try a program in one directory after the other. One that may not be executed is passed over, but
decides the error if nothing else is found. -/
def search (d : Disk) (name : Bytes) (args : List Bytes) (denied : Bool) :
    List Path → Except OsError Image
  | [] => .error (if denied then .permissionDenied else .notFound)
  | dir :: dirs =>
    match resolve d chainLimit (Path.join dir name) name args with
    | .error .notFound | .error .notADirectory => search d name args denied dirs
    | .error .permissionDenied => search d name args true dirs
    | result => result

end Executable

end ConsoleRelay
