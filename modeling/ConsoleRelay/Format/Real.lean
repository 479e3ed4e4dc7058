import ConsoleRelay.Text.Numeral

/-!
Exact text of doubles.

A finite double is `mantissa * 2 ^ exponent`; its digits are computed with natural numbers only and
rounded once, a half going to the even neighbour.
-/
namespace ConsoleRelay.Format

/-- A double taken apart. -/
inductive Real where
  | nan (negative : Bool)
  | infinite (negative : Bool)
  | finite (negative : Bool) (mantissa : Nat) (exponent : Int)
  deriving DecidableEq, Repr

def Real.negative : Real → Bool
  | .nan n | .infinite n | .finite n _ _ => n

def fractionField (bits : UInt64) : Nat := bits.toNat % Nat.pow 2 52

def exponentField (bits : UInt64) : Nat := bits.toNat / Nat.pow 2 52 % Nat.pow 2 11

def signField (bits : UInt64) : Bool := bits.toNat / Nat.pow 2 63 % 2 == 1

def Real.ofBits (bits : UInt64) : Real :=
  let e := exponentField bits
  let f := fractionField bits
  if e == 2047 then
    if f == 0 then .infinite (signField bits) else .nan (signField bits)
  else if e == 0 then .finite (signField bits) f (-1074)
  else .finite (signField bits) (Nat.pow 2 52 + f) ((e : Int) - 1075)

/-- The integer nearest to a quotient, a half going to the even one. -/
def roundDiv (num den : Nat) : Nat :=
  let q := num / den
  let r := num % den
  if 2 * r < den then q
  else if den < 2 * r then q + 1
  else if q % 2 == 0 then q else q + 1

/-- Numerator and denominator of `m * 2 ^ e`. -/
def ratio (m : Nat) (e : Int) : Nat × Nat := (m * Nat.pow 2 e.toNat, Nat.pow 2 (-e).toNat)

def zeroFill (len : Nat) (digits : Text) : Text :=
  List.replicate (len - digits.length) '0' ++ digits

/-- The point and what follows it; without digits the point stands only on request. -/
def fraction (keepPoint : Bool) (digits : Text) : Text :=
  if digits.isEmpty && !keepPoint then [] else '.' :: digits

def dropZeros (digits : Text) : Text := (digits.reverse.dropWhile (· == '0')).reverse

def fixedDigits (m : Nat) (e : Int) (places : Nat) : Text × Text :=
  let (num, den) := ratio m e
  let n := roundDiv (num * Nat.pow 10 places) den
  let after := if places == 0 then [] else zeroFill places (decimal (n % Nat.pow 10 places))
  (decimal (n / Nat.pow 10 places), after)

/-- The decimal exponent of a positive quotient: the largest power of ten not above it. -/
def decimalExponent (num den : Nat) : Int :=
  let guess : Int := ((decimal num).length : Int) - (decimal den).length
  if den * Nat.pow 10 guess.toNat ≤ num * Nat.pow 10 (-guess).toNat then guess else guess - 1

/-- The leading digit, the digits after it and the decimal exponent, for a number of digits after
the point. -/
def scientificDigits (m : Nat) (e : Int) (places : Nat) : Text × Text × Int :=
  if m == 0 then (['0'], List.replicate places '0', 0)
  else
    let (num, den) := ratio m e
    let x := decimalExponent num den
    let shift := (places : Int) - x
    let n := roundDiv (num * Nat.pow 10 shift.toNat) (den * Nat.pow 10 (-shift).toNat)
    let (n, x) := if n == Nat.pow 10 (places + 1) then (Nat.pow 10 places, x + 1) else (n, x)
    let digits := decimal n
    (digits.take 1, digits.drop 1, x)

def exponentText (x : Int) : Text :=
  'e' :: (if x < 0 then '-' else '+') :: zeroFill 2 (decimal x.natAbs)

def fixedText (m : Nat) (e : Int) (places : Nat) (keepPoint : Bool) : Text :=
  let (whole, after) := fixedDigits m e places
  whole ++ fraction keepPoint after

def scientificText (m : Nat) (e : Int) (places : Nat) (keepPoint : Bool) : Text :=
  let (first, after, x) := scientificDigits m e places
  first ++ fraction keepPoint after ++ exponentText x

/-- Whether rounding to a number of significant digits turns a number below a power of ten into that
power. -/
def roundsUpTo (m : Nat) (e : Int) (precision : Nat) (x : Int) : Bool :=
  m != 0 && x == precision && decimalExponent (ratio m e).1 (ratio m e).2 < x

/-- The shorter of the two notations for a number of significant digits. Zeros at the end are
dropped unless the alternate form keeps them; it does not keep them where only rounding made the
number too large for fixed notation. -/
def generalText (m : Nat) (e : Int) (precision : Nat) (alternate : Bool) : Text :=
  let p := max precision 1
  let (first, after, x) := scientificDigits m e (p - 1)
  if -4 ≤ x ∧ x < p then
    let (whole, after) := fixedDigits m e ((p : Int) - 1 - x).toNat
    whole ++ fraction alternate (if alternate then after else dropZeros after)
  else
    let kept := alternate && !roundsUpTo m e p x
    first ++ fraction alternate (if kept then after else dropZeros after) ++ exponentText x

/-- Hexadecimal digits of the mantissa, rounded to a number of places if one is given, with the
binary exponent. -/
def binaryText (m : Nat) (e : Int) (places : Option Nat) (keepPoint : Bool) : Text :=
  let x : Int := if m == 0 then 0 else e + 52
  let scaled :=
    match places with
    | some p => if p < 13 then roundDiv m (Nat.pow 16 (13 - p)) else m * Nat.pow 16 (p - 13)
    | none => m
  let width := places.getD 13
  let after := if width == 0 then [] else zeroFill width (hex (scaled % Nat.pow 16 width))
  let after := if places.isNone then dropZeros after else after
  hex (scaled / Nat.pow 16 width) ++ fraction keepPoint after ++
    'p' :: (if x < 0 then '-' else '+') :: decimal x.natAbs

end ConsoleRelay.Format
