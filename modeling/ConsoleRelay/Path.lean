import ConsoleRelay.Text.Utf8

/-! Paths as bytes: joining, comparing and taking apart. -/
namespace ConsoleRelay

abbrev Path := Bytes

namespace Path

def separator : UInt8 := 0x2F

def isAbsolute (p : Path) : Bool := p.head? == some separator

/-- A path seen from a directory; an absolute one stays as it is. -/
def join (dir p : Path) : Path :=
  if isAbsolute p then p
  else if dir.isEmpty || dir.getLast? == some separator then dir ++ p
  else dir ++ separator :: p

/-- The names between separators, empty ones included. -/
def names : Path → List Bytes
  | [] => [[]]
  | b :: bs =>
    match names bs with
    | [] => [[b]]
    | name :: more => if b == separator then [] :: name :: more else (b :: name) :: more

def here : Bytes := [0x2E]

def above : Bytes := [0x2E, 0x2E]

/-- The names that matter: neither empty nor `.`, except for a `.` at the start of a relative
path. -/
def components (p : Path) : List Bytes :=
  let kept := (names p).filter fun n => !n.isEmpty && n != here
  if (names p).head? == some here then here :: kept else kept

/-- Whether two paths have the same components from the same start. -/
def same (p q : Path) : Bool := isAbsolute p == isAbsolute q && components p == components q

end Path

end ConsoleRelay
