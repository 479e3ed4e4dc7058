import ConsoleRelay.Text.Utf8

/-! Blank characters and the removal of blanks at the end of a text. -/
namespace ConsoleRelay

/-- The Unicode property White_Space. -/
def isBlank (c : Char) : Bool :=
  let n := c.toNat
  (9 ≤ n && n ≤ 13) || n == 0x20 || n == 0x85 || n == 0xA0 || n == 0x1680 ||
    (0x2000 ≤ n && n ≤ 0x200A) || n == 0x2028 || n == 0x2029 || n == 0x202F || n == 0x205F ||
    n == 0x3000

def trimEnd (t : Text) : Text := (t.reverse.dropWhile isBlank).reverse

/-- Bytes read as text: a view of them where they are UTF-8, and else a copy with replacements. -/
inductive LossyText where
  | borrowed (t : Text)
  | owned (t : Text)
  deriving DecidableEq, Repr

namespace LossyText

def ofBytes (bs : Bytes) : LossyText :=
  match Utf8.decode? bs with
  | some t => .borrowed t
  | none => .owned (Utf8.lossy bs)

def text : LossyText → Text
  | .borrowed t => t
  | .owned t => t

/-- A view is shortened in place, a copy is copied again. -/
def trimEnd : LossyText → LossyText
  | .borrowed t => .borrowed (ConsoleRelay.trimEnd t)
  | .owned t => .owned (ConsoleRelay.trimEnd t)

end LossyText

/-- What a reader of a message sees: its text with the trailing line break removed. -/
def readable (bs : Bytes) : Text := (LossyText.ofBytes bs).trimEnd.text

end ConsoleRelay
