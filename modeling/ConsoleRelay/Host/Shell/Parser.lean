import ConsoleRelay.Host.Shell.Token

/-!
Reading scripts.

A script is read one complete command at a time, as it is run, so that a fault in it does not keep
the commands before it from running. All functions of the mutual block take a bound on the depth of
their calls first; `depth` is enough for a source.
-/
namespace ConsoleRelay.Shell

inductive Context where
  | word
  | quotes
  | braces (quoted : Bool)
  | document
  | arithmetic (level : Nat)
  deriving DecidableEq, Repr

def Context.isQuoted : Context → Bool
  | .word | .braces false => false
  | _ => true

def isDelimiter (b : UInt8) : Bool := isSpace b || b == 0x0A || ";&|<>()".toList.any (byte · == b)

def isSpecial (b : UInt8) : Bool :=
  isDelimiter b || "$\\'\"\x7d".toList.any (byte · == b) || b == 0x60

def isSpecialParameter (b : UInt8) : Bool := "@*#?-$!".toList.any (byte · == b)

def wordOperators : List (Char × Operator) := [
  ('-', .default), ('=', .assign), ('?', .insist), ('+', .alternative)]

/-- Whether a backslash in a context escapes a byte. Outside quotes it escapes every byte. -/
def Context.escapes (b : UInt8) : Context → Bool
  | .word | .braces false => true
  | .quotes | .arithmetic _ => b == byte '$' || b == 0x60 || b == byte '\x22' || b == byte '\\'
  | .braces true =>
    b == byte '$' || b == 0x60 || b == byte '\x22' || b == byte '\\' || b == byte '\x7d'
  | .document => b == byte '$' || b == 0x60 || b == byte '\\'

def Context.add (ctx : Context) (bs : Bytes) (w : Word) : Word :=
  if ctx.isQuoted then .quoted bs :: w else w.addPlain bs

/-- The text between backquotes: without the backslashes in front of those bytes they escape there.
The result holds the rest after the closing backquote, or nothing if there is none. -/
def backquoted (inQuotes : Bool) : Bytes → Bytes × Option Bytes
  | [] => ([], none)
  | 0x60 :: r => ([], some r)
  | 0x5C :: 0x0A :: r => backquoted inQuotes r
  | 0x5C :: b :: r =>
    let (text, rest) := backquoted inQuotes r
    if b == 0x5C || b == 0x60 || b == byte '$' || (inQuotes && b == byte '\x22') then
      (b :: text, rest)
    else (0x5C :: b :: text, rest)
  | b :: r =>
    let (text, rest) := backquoted inQuotes r
    (b :: text, rest)

/-- A line and what follows it, if it ends with a line break. -/
def splitLine (bs : Bytes) : Bytes × Option Bytes :=
  match bs.dropWhile (· != 0x0A) with
  | [] => (bs, none)
  | _ :: r => (bs.takeWhile (· != 0x0A), some r)

/-- The lines of a here-document up to its delimiter, and how many bytes they take with it. The
first argument bounds the number of lines. -/
def documentLines (w : Waiting) : Nat → Bytes → Bytes × Nat
  | 0, _ => ([], 0)
  | _ + 1, [] => ([], 0)
  | n + 1, bs =>
    let (line, rest) := splitLine bs
    let shown := if w.strip then line.dropWhile (· == 0x09) else line
    let taken := line.length + (if rest.isSome then 1 else 0)
    if shown == w.delimiter then ([], taken)
    else
      let (more, count) := documentLines w n (rest.getD [])
      (shown ++ (if rest.isSome then [0x0A] else []) ++ more, taken + count)

/-- The text of a word without its quoting, as a delimiter has it. -/
def literalText : Word → Bytes
  | [] => []
  | .plain bs :: w | .quoted bs :: w => bs ++ literalText w
  | .parameter _ name .. :: w => byte '$' :: name ++ literalText w
  | _ :: w => literalText w

def assignment? : Word → Option (Bytes × Word)
  | .plain bs :: w =>
    let name := bs.takeWhile (· != byte '=')
    match bs.drop name.length with
    | _ :: value =>
      if isName name then some (name, if value.isEmpty then w else .plain value :: w) else none
    | [] => none
  | _ => none

def specialBuiltins : List String := [
  ".", ":", "break", "continue", "eval", "exec", "exit", "export", "readonly", "return", "set",
  "shift", "times", "trap", "unset"]

open Reader

mutual

/-- The parts up to the end of a context, and whether any of them was quoted. -/
def readParts : Nat → Context → Reader (Word × Bool)
  | 0, _ => fail "Word too deep"
  | n + 1, ctx => do
    let s ← get
    match s.rest with
    | [] =>
      match ctx with
      | .word | .document => return ([], false)
      | .braces false => fail "Missing '\x7d'"
      | .quotes | .braces true => fail "Unterminated quoted string"
      | .arithmetic _ => fail "Missing '))'"
    | b :: r =>
      if !isSpecial b then
        let bs ← takeWhile fun b => !isSpecial b
        let (w, q) ← readParts n ctx
        return (ctx.add bs w, q)
      else if b == byte '\\' then
        skip 1
        match r with
        | [] => return ([.quoted [b]], true)
        | c :: _ =>
          if c == 0x0A then
            skip 1
            readParts n ctx
          else if ctx.escapes c then
            skip 1
            let (w, _) ← readParts n ctx
            return (.quoted [c] :: w, true)
          else
            let (w, q) ← readParts n ctx
            return (ctx.add [b] w, q)
      else if b == byte '$' then
        skip 1
        let part ← readDollar n ctx
        let (w, q) ← readParts n ctx
        match part with
        | .plain bs => return (ctx.add bs w, q)
        | part => return (part :: w, q)
      else if b == 0x60 then
        skip 1
        let part ← readBackquotes n ctx
        let (w, q) ← readParts n ctx
        return (part :: w, q)
      else
        match ctx with
        | .word =>
          if isDelimiter b then return ([], false) else readQuotes n ctx b
        | .braces q =>
          if b == byte '\x7d' then
            skip 1
            return ([], false)
          else if q && b == byte '\x27' then readByte n ctx b
          else readQuotes n ctx b
        | .quotes =>
          if b == byte '\x22' then
            skip 1
            return ([], false)
          else readByte n ctx b
        | .document => readByte n ctx b
        | .arithmetic level =>
          if b == byte '(' then
            skip 1
            let (w, q) ← readParts n (.arithmetic (level + 1))
            return (ctx.add [b] w, q)
          else if b == byte ')' then
            skip 1
            match level with
            | 0 =>
              if ← accept ')' then return ([], false)
              else
                let (w, q) ← readParts n ctx
                return (ctx.add [b] w, q)
            | level + 1 =>
              let (w, q) ← readParts n (.arithmetic level)
              return (ctx.add [b] w, q)
          else readByte n ctx b

def readByte : Nat → Context → UInt8 → Reader (Word × Bool)
  | 0, _, _ => fail "Word too deep"
  | n + 1, ctx, b => do
    skip 1
    let (w, q) ← readParts n ctx
    return (ctx.add [b] w, q)

def readQuotes : Nat → Context → UInt8 → Reader (Word × Bool)
  | 0, _, _ => fail "Word too deep"
  | n + 1, ctx, b => do
    if b == byte '\x27' then
      skip 1
      let text ← takeWhile (· != byte '\x27')
      if (← get).rest.isEmpty then fail "Unterminated quoted string"
      skip 1
      let (w, _) ← readParts n ctx
      return (.quoted text :: w, true)
    else if b == byte '\x22' then
      skip 1
      let (inner, _) ← readParts n .quotes
      let (w, _) ← readParts n ctx
      let inner := if inner.isEmpty then [Part.quoted []] else inner
      return (inner ++ w, true)
    else readByte n ctx b

def readDollar : Nat → Context → Reader Part
  | 0, _ => fail "Word too deep"
  | n + 1, ctx => do
    let quoted := ctx.isQuoted
    match ← peek with
    | none => return .plain [byte '$']
    | some b =>
      if b == byte '(' then
        skip 1
        if ← accept '(' then
          let (w, _) ← readParts n (.arithmetic 0)
          return .arithmetic quoted w
        else
          let waiting := (← get).waiting
          modify fun s => { s with waiting := [] }
          let body ← readList n true true
          match ← readToken n false false with
          | .closeParen =>
            modify fun s => { s with waiting := waiting }
            return .output quoted body
          | t => unexpected t (some .closeParen)
      else if b == byte '\x7b' then
        skip 1
        readBraces n ctx
      else if isNameStart b then
        return .parameter quoted (← takeWhile isNameByte) .value false []
      else if isDigit b || isSpecialParameter b then
        skip 1
        return .parameter quoted [b] .value false []
      else return .plain [byte '$']

def readBraces : Nat → Context → Reader Part
  | 0, _ => fail "Word too deep"
  | n + 1, ctx => do
    let quoted := ctx.isQuoted
    let finish (name : Bytes) (op : Operator) (strict : Bool) : Reader Part := do
      let inner := match op with
        | .trimEnd _ | .trimStart _ => false
        | _ => quoted
      let (w, _) ← readParts n (.braces inner)
      return .parameter quoted name op strict w
    let operator (name : Bytes) : Reader Part := do
      let strict ← accept ':'
      match ← peek with
      | none => finish name .value strict
      | some b =>
        match wordOperators.lookup (Char.ofNat b.toNat) with
        | some op =>
          skip 1
          finish name op strict
        | none =>
          if b == byte '\x7d' then
            if strict then skip 1
            finish name .value strict
          else if !strict && b == byte '%' then
            skip 1
            finish name (.trimEnd (← accept '%')) false
          else if !strict && b == byte '#' then
            skip 1
            finish name (.trimStart (← accept '#')) false
          else finish name .unknown false
    match ← peek with
    | none => finish [] .unknown false
    | some b =>
      if isNameStart b then operator (← takeWhile isNameByte)
      else if isDigit b then operator (← takeWhile isDigit)
      else if b == byte '#' then
        skip 1
        match ← peek with
        | some c =>
          if isNameByte c then
            let name ← if isDigit c then takeWhile isDigit else takeWhile isNameByte
            finish name .length false
          else
            let closes := (← get).rest.drop 1 |>.head? |>.any (· == byte '\x7d')
            if c != byte '\x7d' && closes then
              skip 1
              if isSpecialParameter c then finish [c] .length false else finish [] .unknown false
            else operator [b]
        | none => operator [b]
      else if isSpecialParameter b then
        skip 1
        operator [b]
      else finish [] .unknown false

def readBackquotes : Nat → Context → Reader Part
  | 0, _ => fail "Word too deep"
  | n + 1, ctx => do
    let s ← get
    match backquoted (ctx == .quotes) s.rest with
    | (_, none) =>
      skip s.rest.length
      fail "EOF in backquote substitution"
    | (text, some rest) =>
      set { s with rest := text, line := 1, returned := none, waiting := [] }
      let body ← readList n true true
      modify fun t =>
        { t with
          rest := rest, returned := none, waiting := s.waiting
          line := s.line + (s.rest.take (s.rest.length - rest.length)).count 0x0A }
      return .output ctx.isQuoted body

/-- The texts of the here-documents that wait, at the start of a line. -/
def readDocuments : Nat → Reader Unit
  | 0 => fail "Word too deep"
  | n + 1 => do
    let s ← get
    match s.waiting with
    | [] => return
    | w :: waiting =>
      let (text, taken) := documentLines w (s.rest.length + 1) s.rest
      let after := { s with
        waiting := waiting, rest := s.rest.drop taken
        line := s.line + (s.rest.take taken).count 0x0A }
      let word ← if w.literal then pure [Part.quoted text] else do
        set { after with rest := text, line := s.line, returned := none, waiting := [] }
        let (parts, _) ← readParts n .document
        pure parts
      modify fun t =>
        { after with
          documents := (w.id, word) :: t.documents, nextDocument := t.nextDocument
          returned := s.returned }
      readDocuments n

def readArrow : Nat → Option Nat → Reader Token
  | 0, _ => fail "Word too deep"
  | _ + 1, fd => do
    if ← accept '>' then
      let out := fd.getD 1
      if ← accept '>' then return .arrow out (.file .append)
      else if ← accept '|' then return .arrow out (.file .replace)
      else if ← accept '&' then return .arrow out .duplicate
      else return .arrow out (.file .write)
    else
      skip 1
      let input := fd.getD 0
      if ← accept '<' then return .arrow input (.document (← accept '-'))
      else if ← accept '&' then return .arrow input .duplicate
      else if ← accept '>' then return .arrow input (.file .readWrite)
      else return .arrow input (.file .read)

/-- The next token. With `lines`, line ends are passed over; with `keywords`, keywords are told from
words. -/
def readToken : Nat → Bool → Bool → Reader Token
  | 0, _, _ => fail "Word too deep"
  | n + 1, lines, keywords => do
    let t ← readRaw n
    match t with
    | .newline => if lines then readToken n lines keywords else return t
    | t => return if keywords then t.withKeywords else t

def readRaw : Nat → Reader Token
  | 0 => fail "Word too deep"
  | n + 1 => do
    let s ← get
    match s.returned with
    | some t =>
      set { s with returned := none }
      return t
    | none =>
      match ← peek with
      | none =>
        readDocuments n
        return .endOfFile
      | some b =>
        if isSpace b then
          skip 1
          readRaw n
        else if b == byte '#' then
          let _ ← takeWhile (· != 0x0A)
          readRaw n
        else if b == 0x0A then
          skip 1
          readDocuments n
          return .newline
        else if b == byte '&' then
          skip 1
          return if ← accept '&' then .both else .ampersand
        else if b == byte '|' then
          skip 1
          return if ← accept '|' then .either else .pipe
        else if b == byte ';' then
          skip 1
          return if ← accept ';' then .endOfCase else .semicolon
        else if b == byte '(' then
          skip 1
          return .openParen
        else if b == byte ')' then
          skip 1
          return .closeParen
        else if b == byte '<' || b == byte '>' then readArrow n none
        else
          let (w, quoted) ← readParts n .word
          let next := (← get).rest.head?
          match w, quoted with
          | [.plain [d]], false =>
            if isDigit d && (next == some (byte '<') || next == some (byte '>')) then
              readArrow n (some (d.toNat - 0x30))
            else return .word w quoted
          | _, _ => return .word w quoted

def readTarget : Nat → Nat → Arrow → Reader Redirection
  | 0, _, _ => fail "Word too deep"
  | n + 1, fd, arrow => do
    match ← readToken n false false with
    | .word w quoted =>
      match arrow with
      | .file access => return .file fd access w
      | .duplicate => return .duplicate fd w
      | .document strip =>
        let id := (← get).nextDocument
        modify fun s => { s with
          nextDocument := id + 1
          waiting := s.waiting ++ [⟨id, literalText w, strip, quoted⟩] }
        return .document fd id
    | t => unexpected t

def readRedirections : Nat → Reader (List Redirection)
  | 0 => fail "Word too deep"
  | n + 1 => do
    match ← readToken n false true with
    | .arrow fd a =>
      let r ← readTarget n fd a
      return r :: (← readRedirections n)
    | t =>
      giveBack t
      return []

/-- A list of commands. One that goes over `lines` ends in front of the first token that ends lists;
it may be `empty`. Any other ends with its line. -/
def readList : Nat → Bool → Bool → Reader Command
  | 0, _, _ => fail "Word too deep"
  | n + 1, lines, empty => do
    match ← readToken n lines true with
    | .newline => return .nothing
    | .endOfFile =>
      giveBack .endOfFile
      return .nothing
    | t =>
      giveBack t
      if empty && t.endsList then return .nothing
      else
        let first ← readAndOr n
        let t ← readToken n false true
        let first := match t with
          | .ampersand => .background first
          | _ => first
        match t with
        | .endOfFile =>
          giveBack t
          return first
        | .ampersand | .semicolon => return first.andThen (← readList n lines lines)
        | .newline =>
          if lines then return first.andThen (← readList n true true) else return first
        | t =>
          if lines then
            giveBack t
            return first
          else unexpected t

def readAndOr : Nat → Reader Command
  | 0 => fail "Word too deep"
  | n + 1 => do
    let first ← readPipeline n false
    readAndOrRest n first

def readAndOrRest : Nat → Command → Reader Command
  | 0, _ => fail "Word too deep"
  | n + 1, first => do
    match ← readToken n false true with
    | .both => readAndOrRest n (.both first (← readPipeline n true))
    | .either => readAndOrRest n (.either first (← readPipeline n true))
    | t =>
      giveBack t
      return first

def readPipeline : Nat → Bool → Reader Command
  | 0, _ => fail "Word too deep"
  | n + 1, lines => do
    match ← readToken n lines true with
    | .keyword .negation => return .negation (← readPiped n (← readCommand n false))
    | t =>
      giveBack t
      readPiped n (← readCommand n false)

def readPiped : Nat → Command → Reader Command
  | 0, _ => fail "Word too deep"
  | n + 1, first => do
    match ← readToken n false true with
    | .pipe =>
      let more ← readPipes n
      return .pipeline (first :: more)
    | t =>
      giveBack t
      return first

def readPipes : Nat → Reader (List Command)
  | 0 => fail "Word too deep"
  | n + 1 => do
    let c ← readCommand n true
    match ← readToken n false true with
    | .pipe => return c :: (← readPipes n)
    | t =>
      giveBack t
      return [c]

def expect : Nat → Keyword → Reader Unit
  | 0, _ => fail "Word too deep"
  | n + 1, k => do
    match ← readToken n true true with
    | .keyword k' => if k = k' then return else unexpected (.keyword k') (some (.keyword k))
    | t => unexpected t (some (.keyword k))

def readCommand : Nat → Bool → Reader Command
  | 0, _ => fail "Word too deep"
  | n + 1, lines => do
    let t ← readToken n lines true
    let line := (← get).line
    match t with
    | .word .. | .arrow .. =>
      giveBack t
      readSimple n line [] [] []
    | .openParen =>
      let body ← readList n true false
      match ← readToken n true true with
      | .closeParen => return .subshell line body (← readRedirections n)
      | t => unexpected t (some .closeParen)
    | .keyword .openBrace =>
      let body ← readList n true false
      expect n .closeBrace
      readRedirected n line body
    | .keyword .if =>
      let c ← readConditional n
      expect n .fi
      readRedirected n line c
    | .keyword .while => readRedirected n line (← readLoop n false)
    | .keyword .until => readRedirected n line (← readLoop n true)
    | .keyword .for => readRedirected n line (← readEach n line)
    | .keyword .case =>
      match ← readToken n false false with
      | .word w _ =>
        expect n .in
        readRedirected n line (.choose line w (← readItems n))
      | t => unexpected t (some (.word [] false))
    | t => unexpected t

def readRedirected : Nat → Nat → Command → Reader Command
  | 0, _, _ => fail "Word too deep"
  | n + 1, line, c => do
    return c.withRedirections line (← readRedirections n)

def readConditional : Nat → Reader Command
  | 0 => fail "Word too deep"
  | n + 1 => do
    let test ← readList n true false
    expect n .then
    let yes ← readList n true false
    match ← readToken n true true with
    | .keyword .elseIf => return .conditional test yes (some (← readConditional n))
    | .keyword .else => return .conditional test yes (some (← readList n true false))
    | t =>
      giveBack t
      return .conditional test yes none

def readLoop : Nat → Bool → Reader Command
  | 0, _ => fail "Word too deep"
  | n + 1, negated => do
    let test ← readList n true false
    expect n .do
    let body ← readList n true false
    expect n .done
    return .loop negated test body

def readEach : Nat → Nat → Reader Command
  | 0, _ => fail "Word too deep"
  | n + 1, line => do
    match ← readToken n false false with
    | .word [.plain name] false =>
      if !isName name then fail "Bad for loop variable"
      let words ← match ← readToken n true true with
        | .keyword .in => readWords n
        | .semicolon => pure [Word.arguments]
        | t =>
          giveBack t
          pure [Word.arguments]
      expect n .do
      let body ← readList n true false
      expect n .done
      return .each line name words body
    | _ => fail "Bad for loop variable"

def readWords : Nat → Reader (List Word)
  | 0 => fail "Word too deep"
  | n + 1 => do
    match ← readToken n false false with
    | .word w _ => return w :: (← readWords n)
    | .newline | .semicolon => return []
    | t => unexpected t

def readItems : Nat → Reader (List (List Word × Command))
  | 0 => fail "Word too deep"
  | n + 1 => do
    match ← readToken n true true with
    | .keyword .esac => return []
    | t =>
      let t ← match t with
        | .openParen => readToken n false false
        | t => pure t
      let patterns ← readPatterns n t
      let body ← readList n true true
      match ← readToken n true true with
      | .keyword .esac => return [(patterns, body)]
      | .endOfCase => return (patterns, body) :: (← readItems n)
      | t => unexpected t (some .endOfCase)

/-- The patterns of an item, of which the first token has been read. What is no word holds for
nothing but an empty text. -/
def readPatterns : Nat → Token → Reader (List Word)
  | 0, _ => fail "Word too deep"
  | n + 1, t => do
    let w : Word := match t with
      | .word w _ => w
      | .keyword k => [Part.plain (bytes k.spelling)]
      | _ => []
    match ← readToken n false false with
    | .pipe =>
      let t ← readToken n false false
      return w :: (← readPatterns n t)
    | .closeParen => return [w]
    | t => unexpected t (some .closeParen)

def readSimple : Nat → Nat → List (Bytes × Word) → List Word → List Redirection → Reader Command
  | 0, _, _, _, _ => fail "Word too deep"
  | n + 1, line, assignments, words, redirections => do
    match ← readToken n false false with
    | .word w _ =>
      match assignment? w, words with
      | some a, [] => readSimple n line (assignments ++ [a]) words redirections
      | _, _ => readSimple n line assignments (words ++ [w]) redirections
    | .arrow fd a =>
      let r ← readTarget n fd a
      readSimple n line assignments words (redirections ++ [r])
    | .openParen =>
      match assignments, words, redirections with
      | [], [w], [] =>
        match ← readToken n false false with
        | .closeParen =>
          let name := match w with
            | [.plain name] => name
            | _ => []
          if !isName name || specialBuiltins.any (bytes · == name) then fail "Bad function name"
          let line := (← get).line
          return .define line name (← readCommand n true)
        | t => unexpected t (some .closeParen)
      | _, _, _ =>
        giveBack .openParen
        return .simple line assignments words redirections
    | t =>
      giveBack t
      return .simple line assignments words redirections

end

def Source.depth (s : Source) : Nat := 8 * s.rest.length + 64

def Source.next (s : Source) : Except SyntaxError (Option Command × Source) := do
  let s := { s with returned := none }
  let (_, s') ← (joinLines).run s
  if s'.rest.isEmpty then return (none, s')
  else
    let (c, s'') ← (readList s.depth false false).run s
    return (some c, s'')

end ConsoleRelay.Shell
