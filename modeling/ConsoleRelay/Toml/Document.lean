import ConsoleRelay.Toml.Scalar

/-!
Reading TOML 1.0 documents: nested values, lines and whole documents.

The reader stands for the library `toml`, and keeps to its limits where TOML leaves them open:
values and keys nest less than 80 deep, integers have 64 bits, and a float that overflows to
infinity is refused. What the library says of a document that it refuses is left to a parameter.
-/
namespace ConsoleRelay.Toml

/-- The items of an array up to its bracket. A comma may follow the last one. -/
def arrayItems (item : Text → Option (Value × Text)) : Nat → Text → Option (List Value × Text)
  | 0, _ => none
  | n + 1, cs =>
    match skipVoid false cs with
    | ']' :: r => some ([], r)
    | r => do
      let (v, r) ← item r
      match skipVoid false r with
      | ']' :: r => return ([v], r)
      | ',' :: r =>
        let (vs, r) ← arrayItems item n r
        return (v :: vs, r)
      | _ => none

/-- The fields of an inline table up to its brace, on one line and without a comma at the end. -/
def inlineFields (item : Text → Option (Value × Text)) : Nat → Table → Text → Option (Table × Text)
  | 0, _, _ => none
  | n + 1, t, cs => do
    let ((path, key), r) ← key? cs
    let r ← expect? '=' r
    let (v, r) ← item (skipSpaces r)
    let t' ← Table.insertPath .defined path key v t
    match skipSpaces r with
    | '\x7d' :: r => return (t', r)
    | ',' :: r => inlineFields item n t' r
    | _ => none

/-- A value nested no deeper than the first argument. -/
def value? : Nat → Text → Option (Value × Text)
  | depth, cs =>
    match cs with
    | [] => none
    | '\x22' :: _ | '\x27' :: _ => (string? cs).map fun p => (.string p.1, p.2)
    | '[' :: r =>
      match depth with
      | 0 => none
      | d + 1 => (arrayItems (value? d) (r.length + 1) r).map fun p => (.array p.1, p.2)
    | '\x7b' :: r =>
      match depth with
      | 0 => none
      | d + 1 =>
        match skipSpaces r with
        | '\x7d' :: r => some (.inline [], r)
        | _ => (inlineFields (value? d) (r.length + 1) [] r).map fun p => (.inline p.1, p.2)
    | 't' :: 'r' :: 'u' :: 'e' :: r => some (.boolean true, r)
    | 'f' :: 'a' :: 'l' :: 's' :: 'e' :: r => some (.boolean false, r)
    | c :: _ =>
      if c.isDigit || c == '+' || c == '-' || c == 'i' || c == 'n' then number? cs else none

def keyValueLine? (d : Draft) (cs : Text) : Option (Draft × Text) := do
  let ((path, key), r) ← key? cs
  let r ← expect? '=' r
  let (v, r) ← value? (depthLimit - 1) (skipSpaces r)
  let r ← lineRest? r
  let d ← d.keyValue path key v
  return (d, r)

def headerLine? (d : Draft) (cs : Text) : Option (Draft × Text) := do
  let ((path, key), r) ← key? cs
  let r ← expect? ']' r
  let r ← lineRest? r
  let d ← d.header path key
  return (d, r)

def arrayHeaderLine? (d : Draft) (cs : Text) : Option (Draft × Text) := do
  let ((path, key), r) ← key? cs
  let r ← expect? ']' r
  let r ← expect? ']' r
  let r ← lineRest? r
  let d ← d.arrayHeader path key
  return (d, r)

def line? (d : Draft) (cs : Text) : Option (Draft × Text) :=
  match skipSpaces cs with
  | [] => some (d, [])
  | '#' :: r => (lineEnd? (r.dropWhile isCommentChar)).map (d, ·)
  | '[' :: '[' :: r => arrayHeaderLine? d r
  | '[' :: r => headerLine? d r
  | '\n' :: r => some (d, r)
  | '\r' :: r => (newline? ('\r' :: r)).map (d, ·)
  | r => keyValueLine? d r

/-- The lines of a document. The first argument bounds their number. -/
def lines? : Nat → Draft → Text → Option Draft
  | _, d, [] => some d
  | 0, _, _ => none
  | n + 1, d, cs => do
    let (d, r) ← line? d cs
    lines? n d r

/-- The text without a byte order mark in front. -/
def skipMark : Text → Text
  | '\uFEFF' :: r => r
  | cs => cs

/-- The top-level table of a document. -/
def parse? (document : Text) : Option Table :=
  (lines? (document.length + 1) {} (skipMark document)).map Draft.root

/-- A library that reads documents. What it says of a document that it refuses, or that does not
have the shape asked for, is its own text. -/
structure Reader where
  parse? : Text → Option Table
  complaint : Text → Text

/-- The reader of these modules, with complaints of any wording. -/
def reader (complaint : Text → Text) : Reader := ⟨parse?, complaint⟩

end ConsoleRelay.Toml
