import ConsoleRelay.Text.Numeral
import ConsoleRelay.Toml.Value

/-!
The parts of a TOML document that do not nest: blanks, comments, strings, numbers, moments and keys.

Each reader takes the text in front of it and returns what it read with the rest, or nothing if the
text is malformed. The limits are those of the library `toml`: keys of less than 80 parts, integers
of 64 bits, and no float that overflows to infinity.
-/
namespace ConsoleRelay.Toml

def isSpace (c : Char) : Bool := c == ' ' || c == '\t'

def skipSpaces (cs : Text) : Text := cs.dropWhile isSpace

/-- A character that may stand in a comment: no control character but the tab. -/
def isCommentChar (c : Char) : Bool := c == '\t' || (0x20 ≤ c.toNat && c.toNat != 0x7F)

def newline? : Text → Option Text
  | '\n' :: r => some r
  | '\r' :: '\n' :: r => some r
  | _ => none

/-- The text after the end of a line, which the end of the document is too. -/
def lineEnd? : Text → Option Text
  | [] => some []
  | cs => newline? cs

def lineRest? (cs : Text) : Option Text :=
  match skipSpaces cs with
  | '#' :: r => lineEnd? (r.dropWhile isCommentChar)
  | r => lineEnd? r

def skipVoid (inComment : Bool) : Text → Text
  | [] => []
  | c :: r =>
    if inComment && isCommentChar c then skipVoid true r
    else if isSpace c || c == '\n' then skipVoid false r
    else if c == '#' then skipVoid true r
    else
      match c, r with
      | '\r', '\n' :: r' => skipVoid false r'
      | _, _ => c :: r

/-! Strings -/

def scalar? (n : Nat) : Option Char := if n.isValidChar then some (Char.ofNat n) else none

/-- The character that hexadecimal digits stand for. -/
def scalarOf? (digits : Text) : Option Char := do
  let values ← digits.mapM hexValue?
  scalar? (values.foldl (fun n d => n * 16 + d) 0)

def escapes : List (Char × Char) := [
  ('b', '\x08'), ('t', '\t'), ('n', '\n'), ('f', '\x0C'), ('r', '\r'), ('\x22', '\x22'),
  ('\\', '\\')]

def escape? : Text → Option (Char × Text)
  | 'u' :: a :: b :: c :: d :: r => (scalarOf? [a, b, c, d]).map (·, r)
  | 'U' :: a :: b :: c :: d :: e :: f :: g :: h :: r =>
    (scalarOf? [a, b, c, d, e, f, g, h]).map (·, r)
  | c :: r => (escapes.lookup c).map (·, r)
  | [] => none

def isBasicChar (c : Char) : Bool := isCommentChar c && c != '\x22' && c != '\\'

def isLiteralChar (c : Char) : Bool := isCommentChar c && c != '\x27'

def cons (c : Char) : Option (Text × Text) → Option (Text × Text) :=
  Option.map fun p => (c :: p.1, p.2)

/-- The body of a basic string with its closing quote. The first argument bounds the number of
characters. -/
def basicBody : Nat → Text → Option (Text × Text)
  | 0, _ => none
  | n + 1, cs =>
    match cs with
    | [] => none
    | c :: r =>
      if c == '\x22' then some ([], r)
      else if c == '\\' then do
        let (ch, r') ← escape? r
        cons ch (basicBody n r')
      else if isBasicChar c then cons c (basicBody n r)
      else none

/-- The text after the blanks and line breaks that a backslash at the end of a line removes. -/
def joinedLine? (cs : Text) : Option Text := do
  let r ← newline? (skipSpaces cs)
  return skipBreaks r
where
  /-- The text after blanks and line breaks. -/
  skipBreaks : Text → Text
    | [] => []
    | c :: r =>
      if isSpace c || c == '\n' then skipBreaks r
      else
        match c, r with
        | '\r', '\n' :: r' => skipBreaks r'
        | _, _ => c :: r

/-- The end of a multi-line string after three quotes: up to two quotes belong to its text. -/
def closing (quote : Char) : Text → Text × Text
  | a :: b :: r =>
    if a == quote && b == quote then ([quote, quote], r)
    else if a == quote then ([quote], b :: r)
    else ([], a :: b :: r)
  | [a] => if a == quote then ([quote], []) else ([], [a])
  | [] => ([], [])

def tripled? (quote : Char) : Text → Option Text
  | a :: b :: c :: r => if a == quote && b == quote && c == quote then some r else none
  | _ => none

def multiBasicBody : Nat → Text → Option (Text × Text)
  | 0, _ => none
  | n + 1, cs =>
    match tripled? '\x22' cs with
    | some r => some (closing '\x22' r)
    | none =>
      match cs with
      | [] => none
      | '\\' :: r =>
        match joinedLine? r with
        | some r' => multiBasicBody n r'
        | none => do
          let (ch, r') ← escape? r
          cons ch (multiBasicBody n r')
      | c :: r =>
        match newline? (c :: r) with
        | some r' => cons '\n' (multiBasicBody n r')
        | none =>
          if isBasicChar c || c == '\x22' then cons c (multiBasicBody n r) else none

def multiLiteralBody : Nat → Text → Option (Text × Text)
  | 0, _ => none
  | n + 1, cs =>
    match tripled? '\x27' cs with
    | some r => some (closing '\x27' r)
    | none =>
      match cs with
      | [] => none
      | c :: r =>
        match newline? (c :: r) with
        | some r' => cons '\n' (multiLiteralBody n r')
        | none =>
          if isLiteralChar c || c == '\x27' then cons c (multiLiteralBody n r) else none

def literalBody (cs : Text) : Option (Text × Text) :=
  match cs.dropWhile isLiteralChar with
  | '\x27' :: r => some (cs.takeWhile isLiteralChar, r)
  | _ => none

def skipFirstBreak (cs : Text) : Text := (newline? cs).getD cs

/-- A string of one line, as in a key. -/
def lineString? : Text → Option (Text × Text)
  | '\x22' :: r => basicBody (r.length + 1) r
  | '\x27' :: r => literalBody r
  | _ => none

def string? (cs : Text) : Option (Text × Text) :=
  match tripled? '\x22' cs, tripled? '\x27' cs with
  | some r, _ => multiBasicBody (r.length + 1) (skipFirstBreak r)
  | _, some r => multiLiteralBody (r.length + 1) (skipFirstBreak r)
  | none, none => lineString? cs

/-! Numbers -/

def digitIn? (base : Nat) (c : Char) : Option Nat := (hexValue? c).filter (· < base)

/-- More digits of a number; an underscore stands between two digits only. -/
def moreDigits (base : Nat) : Text → Option (List Nat × Text)
  | [] => some ([], [])
  | '_' :: c :: r => do
    let d ← digitIn? base c
    let (ds, r') ← moreDigits base r
    return (d :: ds, r')
  | ['_'] => none
  | c :: r =>
    match digitIn? base c with
    | some d => do
      let (ds, r') ← moreDigits base r
      return (d :: ds, r')
    | none => some ([], c :: r)

def digits? (base : Nat) : Text → Option (List Nat × Text)
  | [] => none
  | c :: r => do
    let d ← digitIn? base c
    let (ds, r') ← moreDigits base r
    return (d :: ds, r')

def valueOf (base : Nat) (ds : List Nat) : Nat := ds.foldl (fun n d => n * base + d) 0

def sign : Text → Bool × Text
  | '-' :: r => (true, r)
  | '+' :: r => (false, r)
  | cs => (false, cs)

def wholeDigits? : Text → Option (List Nat × Text)
  | '0' :: r => some ([0], r)
  | cs => digits? 10 cs

def integer? (negative : Bool) (n : Nat) : Option Value :=
  if negative then if n ≤ Nat.pow 2 63 then some (.integer (-n)) else none
  else if n < Nat.pow 2 63 then some (.integer n) else none

def exponent? : Text → Option (Int × Text)
  | 'e' :: r | 'E' :: r => do
    let (negative, r) := sign r
    let (ds, r) ← digits? 10 r
    return (if negative then -(valueOf 10 ds : Int) else valueOf 10 ds, r)
  | _ => none

/-- Whether `m * 10 ^ e` is too large for a double, that is at least `2 ^ 1024 - 2 ^ 970`. -/
def overflows (m : Nat) (e : Int) : Bool :=
  let size : Int := (Nat.toDigits 10 m).length + e
  if m == 0 || size < 300 then false
  else if 400 < size then true
  else (Nat.pow 2 1024 - Nat.pow 2 970) * Nat.pow 10 (-e).toNat ≤ m * Nat.pow 10 e.toNat

def floatRest? (negative : Bool) (whole : List Nat) : Text → Option Text
  | '.' :: r => do
    let (ds, r) ← digits? 10 r
    let m := valueOf 10 (whole ++ ds)
    match r with
    | 'e' :: _ | 'E' :: _ =>
      let (e, r) ← exponent? r
      if !negative && overflows m (e - ds.length) then none else some r
    | r => if !negative && overflows m (-(ds.length : Int)) then none else some r
  | cs => do
    let (e, r) ← exponent? cs
    if !negative && overflows (valueOf 10 whole) e then none else some r

def consumed (cs rest : Text) : Text := cs.take (cs.length - rest.length)

def decimalNumber? (cs : Text) : Option (Value × Text) := do
  let (negative, r) := sign cs
  let (whole, r) ← wholeDigits? r
  match r with
  | '.' :: _ | 'e' :: _ | 'E' :: _ =>
    let rest ← floatRest? negative whole r
    return (.float (consumed cs rest), rest)
  | _ =>
    let v ← integer? negative (valueOf 10 whole)
    return (v, r)

def specialFloat? (cs : Text) : Option (Value × Text) :=
  match (sign cs).2 with
  | 'i' :: 'n' :: 'f' :: r => some (.float (consumed cs r), r)
  | 'n' :: 'a' :: 'n' :: r => some (.float (consumed cs r), r)
  | _ => none

def basedInteger? (base : Nat) (cs : Text) : Option (Value × Text) := do
  let (ds, r) ← digits? base cs
  let v ← integer? false (valueOf base ds)
  return (v, r)

/-! Moments -/

def fixedNumber? (count : Nat) (cs : Text) : Option (Nat × Text) := do
  let ds ← (cs.take count).mapM (digitIn? 10)
  if ds.length == count then return (valueOf 10 ds, cs.drop count) else none

def twoDigits? (low high : Nat) (cs : Text) : Option (Nat × Text) := do
  let (n, r) ← fixedNumber? 2 cs
  if low ≤ n && n ≤ high then return (n, r) else none

def expect? (c : Char) : Text → Option Text
  | d :: r => if d == c then some r else none
  | [] => none

def daysIn (year month : Nat) : Nat :=
  if month == 2 then
    if year % 4 == 0 && (year % 100 != 0 || year % 400 == 0) then 29 else 28
  else if month == 4 || month == 6 || month == 9 || month == 11 then 30
  else 31

def date? (cs : Text) : Option Text := do
  let (year, r) ← fixedNumber? 4 cs
  let r ← expect? '-' r
  let (month, r) ← twoDigits? 1 12 r
  let r ← expect? '-' r
  let (_, r) ← twoDigits? 1 (daysIn year month) r
  return r

/-- A time of day; its second may be a leap second. -/
def time? (cs : Text) : Option Text := do
  let (_, r) ← twoDigits? 0 23 cs
  let r ← expect? ':' r
  let (_, r) ← twoDigits? 0 59 r
  let r ← expect? ':' r
  let (_, r) ← twoDigits? 0 60 r
  match r with
  | '.' :: f => if (f.takeWhile Char.isDigit).isEmpty then none else return f.dropWhile Char.isDigit
  | _ => return r

def offset? : Text → Option Text
  | 'Z' :: r | 'z' :: r => some r
  | '+' :: r | '-' :: r => do
    let (_, r) ← twoDigits? 0 23 r
    let r ← expect? ':' r
    let (_, r) ← twoDigits? 0 59 r
    return r
  | cs => some cs

def moment? (cs : Text) : Option (Value × Text) := do
  match cs with
  | _ :: _ :: ':' :: _ =>
    let r ← time? cs
    return (.moment (consumed cs r), r)
  | _ =>
    let r ← date? cs
    let rest ← match r with
      | c :: a :: b :: ':' :: more =>
        if (c == 'T' || c == 't' || c == ' ') && a.isDigit && b.isDigit then do
          let r ← time? (a :: b :: ':' :: more)
          offset? r
        else some r
      | _ => some r
    return (.moment (consumed cs rest), rest)

def looksLikeMoment (cs : Text) : Bool :=
  let n := (cs.takeWhile Char.isDigit).length
  match cs.drop n with
  | '-' :: _ => n == 4
  | ':' :: _ => n == 2
  | _ => false

def number? (cs : Text) : Option (Value × Text) :=
  if looksLikeMoment cs then moment? cs
  else
    match cs with
    | '0' :: 'x' :: r => basedInteger? 16 r
    | '0' :: 'o' :: r => basedInteger? 8 r
    | '0' :: 'b' :: r => basedInteger? 2 r
    | _ => (specialFloat? cs).orElse fun _ => decimalNumber? cs

/-! Keys -/

def isBareChar (c : Char) : Bool := c.isAlphanum || c == '-' || c == '_'

def keyPart? (cs : Text) : Option (Text × Text) := do
  let r := skipSpaces cs
  if r.head? == some '\x22' || r.head? == some '\x27' then
    let (t, r) ← lineString? r
    return (t, skipSpaces r)
  else
    let name := r.takeWhile isBareChar
    if name.isEmpty then none else return (name, skipSpaces (r.dropWhile isBareChar))

def moreParts : Nat → Text → Option (List Text × Text)
  | 0, _ => none
  | n + 1, '.' :: r => do
    let (part, r) ← keyPart? r
    let (parts, r) ← moreParts n r
    return (part :: parts, r)
  | _ + 1, cs => some ([], cs)

def depthLimit : Nat := 80

/-- A key: the path in front of its last part, and that part. -/
def key? (cs : Text) : Option ((List Text × Text) × Text) := do
  let (first, r) ← keyPart? cs
  let (more, r) ← moreParts (r.length + 1) r
  if depthLimit ≤ more.length + 1 then none
  else return (((first :: more).dropLast, more.getLastD first), r)

end ConsoleRelay.Toml
