import ConsoleRelay.Text.Utf8

/-!
Text without terminal controls.

Bytes are read by a machine that follows the control sequences of terminals. What it would print,
and the blanks among the controls, are kept; all else is dropped.
-/
namespace ConsoleRelay.Plain

/-- Where in a control sequence the machine is. `char` is inside a character, with the number of
bytes that are due; `text` swallows what a sequence carries, up to its terminator. -/
inductive Mode where
  | ground
  | char (due : Nat)
  | escape
  | escapeRest
  | control
  | command
  | device
  | deviceParameter
  | deviceRest
  | text
  deriving DecidableEq, Repr

/-- The controls that are kept: tab, line feed, form feed and carriage return. -/
def isBlank (b : UInt8) : Bool := b == 0x09 || b == 0x0A || b == 0x0C || b == 0x0D

def isIntermediate (b : UInt8) : Bool := 0x20 ≤ b && b ≤ 0x2F

def endsEscape (b : UInt8) : Bool := 0x30 ≤ b && b ≤ 0x7E

/-- A byte that ends a control sequence or starts a device's text. -/
def isFinal (b : UInt8) : Bool := 0x40 ≤ b && b ≤ 0x7E

def due (b : UInt8) : Nat :=
  if 0xC2 ≤ b && b ≤ 0xDF then 1
  else if 0xE0 ≤ b && b ≤ 0xEF then 2
  else if 0xF0 ≤ b && b ≤ 0xF4 then 3
  else 0

/-- Read a byte outside of sequences: whether it is kept, and the mode after it. -/
def ground (b : UInt8) : Bool × Mode :=
  if due b ≠ 0 then (true, .char (due b)) else ((0x20 ≤ b && b ≤ 0x7E) || isBlank b, .ground)

def escape (b : UInt8) : Mode :=
  if isIntermediate b then .escapeRest
  else if b == 0x5B then .control
  else if b == 0x5D then .command
  else if b == 0x50 then .device
  else if b == 0x58 || b == 0x5E || b == 0x5F then .text
  else if endsEscape b then .ground
  else .escape

/-- Read a byte: whether it is kept, and the mode after it. Three bytes end any sequence. -/
def step (m : Mode) (b : UInt8) : Bool × Mode :=
  match m with
  | .char n => (true, if n ≤ 1 then .ground else .char (n - 1))
  | m =>
    if b == 0x18 || b == 0x1A then (false, .ground)
    else if b == 0x1B then (false, .escape)
    else
      match m with
      | .ground | .char _ => ground b
      | .escape => if isBlank b then (true, .ground) else (false, escape b)
      | .escapeRest =>
        if isBlank b then (true, .ground)
        else (false, if endsEscape b then .ground else .escapeRest)
      | .control =>
        if isBlank b then (true, .ground) else (false, if isFinal b then .ground else .control)
      | .command => (false, if b == 0x07 then .ground else .command)
      | .device =>
        (false, if isIntermediate b then .deviceRest
          else if 0x30 ≤ b && b ≤ 0x3F then .deviceParameter
          else if isFinal b then .text
          else .device)
      | .deviceParameter =>
        (false, if isIntermediate b then .deviceRest
          else if 0x3C ≤ b && b ≤ 0x7E then .text
          else .deviceParameter)
      | .deviceRest => (false, if endsEscape b then .text else .deviceRest)
      | .text => (false, if b == 0x9C then .ground else .text)

def stripFrom : Mode → Bytes → Bytes
  | _, [] => []
  | m, b :: bs =>
    let (kept, next) := step m b
    if kept then b :: stripFrom next bs else stripFrom next bs

/-- Bytes without terminal controls. -/
def strip (bs : Bytes) : Bytes := stripFrom .ground bs

end ConsoleRelay.Plain
