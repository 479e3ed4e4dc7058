import ConsoleRelay.Host.Shell.Expansion

/-!
Redirections: their words are expanded first, then the descriptors are changed one after the other.
-/
namespace ConsoleRelay.Shell

/-- A redirection whose words have been expanded. A duplicate of nothing closes the descriptor. -/
inductive Prepared where
  | file (fd : Nat) (access : Access) (path : Path)
  | duplicate (fd : Nat) (source : Option Nat)
  | text (fd : Nat) (content : Bytes)
  deriving DecidableEq, Repr

def Prepared.fd : Prepared → Nat
  | .file fd .. | .duplicate fd _ | .text fd _ => fd

def Redirection.prepare (substitute : Command → Run Bytes) : Redirection → Run Prepared
  | .file fd access target => return .file fd access (← Word.text substitute target)
  | .duplicate fd target => do
    match ← Word.text substitute target with
    | [0x2D] => return .duplicate fd none
    | [b] =>
      if isDigit b then return .duplicate fd (some (b.toNat - 0x30))
      else failWith (bytes "Syntax error: Bad fd number")
    | _ => failWith (bytes "Syntax error: Bad fd number")
  | .document fd id => do
    let word := ((← self).documents.lookup id).getD []
    return .text fd (Cell.text (← Part.cellsOf substitute false false word))

def openError (creates : Bool) (path : Path) (e : OsError) : Bytes :=
  let reason := match e with
    | .notFound | .notADirectory => if creates then "Directory nonexistent" else "No such file"
    | e => e.description
  bytes (if creates then "cannot create " else "cannot open ") ++ path ++ bytes ": " ++ bytes reason

def openFile (access : Access) (path : Path) : Run (Except Bytes Channel) := do
  let d ← disk
  let refuse := fun (e : OsError) => Except.error (openError (access != .read) path e)
  if access = .read then
    match d.locate path with
    | .error e => return refuse e
    | .ok loc =>
      return if d.entry? loc == some .null then .ok .null else .ok (.file loc 0 false true false)
  else
    match d.locateFile path with
    | .error e => return refuse e
    | .ok loc =>
      match d.entry? loc with
      | some .null => return .ok .null
      | some (.file _ executable) =>
        if access = .write && (← self).has 'C' then return refuse .exists
        else
          if access = .write || access = .replace then setDisk (d.put loc (.file [] executable))
          return .ok (.file loc 0 (access == .append) (access == .readWrite) true)
      | some _ => return refuse .permissionDenied
      | none =>
        setDisk (d.put loc (.file [] false))
        return .ok (.file loc 0 (access == .append) (access == .readWrite) true)

def setDescriptor (fd : Nat) (channel : Option Nat) : Run Unit :=
  update fun p => { p with descriptors :=
    (channel.toList.map fun id => (fd, id)) ++ p.descriptors.filter (·.1 != fd) }

/-- Perform a redirection. The result is a complaint if that is not possible. -/
def Prepared.perform : Prepared → Run (Option Bytes)
  | .file fd access path => do
    match ← openFile access path with
    | .error message => return some message
    | .ok c =>
      setDescriptor fd (some (← newChannel c))
      return none
  | .duplicate fd none => do
    setDescriptor fd none
    return none
  | .duplicate fd (some source) => do
    match (← self).descriptors.lookup source with
    | some id =>
      setDescriptor fd (some id)
      return none
    | none =>
      return some (ascii (decimal source) ++ bytes ": " ++ bytes OsError.badDescriptor.description)
  | .text fd content => do
    setDescriptor fd (some (← newChannel (.buffer content 0)))
    return none

/-- Perform redirections up to the first that is not possible, and complain about that. -/
def performAll : List Prepared → Run Bool
  | [] => return true
  | r :: rs => do
    match ← r.perform with
    | none => performAll rs
    | some message =>
      complain message
      setStatus misuse
      return false

def restoring (rs : List Prepared) (steps : Run Unit) : Run Unit := do
  let before := (← self).descriptors
  let back : Run Unit := rs.forM fun r => setDescriptor r.fd (before.lookup r.fd)
  let outcome ← tryCatch (do steps; return (none : Option Stop)) fun e => return some e
  back
  match outcome with
  | none => return
  | some e => throw e

end ConsoleRelay.Shell
