import ConsoleRelay.Text.Quoted

/-!
Bounded messages: text rendered into 256 bytes of storage.

A message holds at most 255 bytes and a terminating NUL. What does not fit is cut in front of a
character and the marker is put in its place. Every access to the storage is checked: the functions
with a question mark return `none` where an index, a slice or a difference would be out of range,
and the plain ones fall back to the message they were given.
-/
namespace ConsoleRelay

/-- Storage for one message: all its cells, how many of them are text, and whether text was cut. -/
structure Message where
  cells : Bytes
  len : Nat
  truncated : Bool
  deriving DecidableEq, Repr

namespace Message

/-- Cells of storage, terminator included. -/
def capacity : Nat := 256

def maxLen : Nat := capacity - 1

def marker : Bytes := [0x2E, 0x2E, 0x2E]

def empty : Message := ⟨List.replicate capacity 0, 0, false⟩

def bytes (m : Message) : Bytes := m.cells.take m.len

def store? (cells : Bytes) (pos : Nat) (src : Bytes) : Option Bytes :=
  if pos + src.length ≤ cells.length then
    some (cells.take pos ++ src ++ cells.drop (pos + src.length))
  else none

/-- Walk back from a position to one that is 0 or does not hold a continuation byte. -/
def backOff? (cells : Bytes) : Nat → Option Nat
  | 0 => some 0
  | c + 1 =>
    match cells[c + 1]? with
    | none => none
    | some b => if Utf8.isContinuation b then backOff? cells c else some (c + 1)

def markTruncated? (m : Message) : Option Message := do
  let cut ← backOff? m.cells (min (maxLen - marker.length) m.len)
  let marked ← store? m.cells cut marker
  let ended ← store? marked (cut + marker.length) [0]
  return ⟨ended, cut + marker.length, true⟩

def room? (m : Message) : Option Nat := if m.len ≤ maxLen then some (maxLen - m.len) else none

/-- Append text. A message that was cut stays as it is. -/
def write? (m : Message) (s : Bytes) : Option Message :=
  if m.truncated || s.isEmpty then some m
  else do
    let room ← room? m
    let taken := s.take room
    let filled ← store? m.cells m.len taken
    let ended ← store? filled (m.len + taken.length) [0]
    let written : Message := ⟨ended, m.len + taken.length, m.truncated⟩
    if taken.length < s.length then markTruncated? written else some written

def write (m : Message) (s : Bytes) : Message := (write? m s).getD m

def writeAll (m : Message) (parts : List Bytes) : Message := parts.foldl write m

def format (parts : List Bytes) : Message := writeAll empty parts

/-- The message of a whole rendering, of which only the first 255 bytes reach the storage. -/
def ofRendered? (rendered : Bytes) : Option Message := do
  let cells ← store? empty.cells 0 (rendered.take maxLen ++ [0])
  if rendered.length ≤ maxLen then return ⟨cells, rendered.length, false⟩
  else markTruncated? ⟨cells, maxLen, false⟩

def ofRendered (rendered : Bytes) : Message := (ofRendered? rendered).getD empty

/-- The cells up to the first NUL, if there is one no later than the terminator. -/
def cString? (m : Message) : Option Bytes :=
  if m.len < m.cells.length then
    let slice := m.cells.take (m.len + 1)
    if slice.contains 0 then some (slice.takeWhile (· != 0)) else none
  else none

/-- The text as a sink sees it, up to the first NUL. -/
def cString (m : Message) : Bytes := (cString? m).getD []

def lossy (m : Message) : Text := Utf8.lossy m.bytes

def describe (m : Message) : Text :=
  Quoted.record "BoundedMessage"
    [("text", Quoted.text m.lossy), ("truncated", Quoted.truth m.truncated)]

end Message

end ConsoleRelay
