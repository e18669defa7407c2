import SpanExport.Number.Binary64
import SpanExport.Number.Digits

/-!
# Decimals and binary64 numbers

A written decimal is rounded to the nearest binary64 number, and a binary64 number is written
with the fewest digits that round back to it.
-/

namespace SpanExport

/-- The decimal `coefficient * 10 ^ exponent`. -/
structure Decimal where
  coefficient : Nat
  exponent : Int
deriving DecidableEq

namespace Decimal

/-- The exponent of the first digit, plus one: the decimal is below ten to this power. -/
def magnitude (d : Decimal) : Int := (Digits.ofNat 10 d.coefficient).length + d.exponent

/-- The nearest binary64 number. A decimal of more than 400 places before the point is an
infinity and one with more than 400 zeros after it is zero, whatever its digits are. -/
def toBinary64 (negative : Bool) (d : Decimal) : Binary64 :=
  if d.coefficient = 0 ∨ d.magnitude < -400 then .signedZero negative
  else if 400 < d.magnitude then .infinite negative
  else if 0 ≤ d.exponent then
    .ofRatio negative (d.coefficient * Nat.pow 10 d.exponent.toNat) 1
  else
    .ofRatio negative d.coefficient (Nat.pow 10 (-d.exponent).toNat)

end Decimal

/-! ## The fewest digits -/

namespace Shortest

/-- The nearer one of the two multiples of `10 ^ k` around `n` if both are `good`, or the one
that is. Of two equally near ones it is the even multiple. -/
def neighbour? (good : Nat → Bool) (n k : Nat) : Option Nat :=
  let grid := Nat.pow 10 k
  let below := n / grid * grid
  let above := below + grid
  if good below ∧ (good above → roundDiv n grid * grid = below) then some below
  else if good above then some above
  else none

/-- A good multiple of the largest power of ten, from `10 ^ k` down, that has one near `n`;
`n` itself where no power of ten has one. -/
def coarsest (good : Nat → Bool) (n : Nat) : Nat → Nat
  | 0 => n
  | k + 1 => (neighbour? good n (k + 1)).getD (coarsest good n k)

/-- A finite number as a multiple of `10 ^ -1074`, which it always is. -/
def scaled (mant exp : Nat) : Nat := Binary64.units mant exp * Nat.pow 5 1074

/-- The multiple of `10 ^ -1074` with the fewest digits that rounds to the number. -/
def decimalOf (mant exp : Nat) (canonical : Canonical mant exp) : Nat :=
  let n := scaled mant exp
  let good (m : Nat) : Bool := 
    .ofRatio false m (Nat.pow 10 1074) = Binary64.finite false mant exp canonical
  coarsest good n ((Digits.ofNat 10 n).length - 1)

/-- The digits without the zeros at their end. -/
def stripZeros (ds : List Char) : List Char := (ds.reverse.dropWhile (· == '0')).reverse

end Shortest

/-! ## Layout -/

namespace Binary64

/-- The exponent of ten is written with its sign and two digits at least. -/
def exponentText (e : Int) : List Char :=
  'e' :: (if e < 0 then '-' else '+') :: Digits.padded 2 10 e.natAbs

/-- The digits of a number that is `0.ds` times `10 ^ point`. Positional notation reaches from
four zeros after the point to sixteen digits before it, and always has a digit after the
point. -/
def layout (ds : List Char) (point : Int) : List Char :=
  if point < -3 ∨ 16 < point then
    match ds with
    | [d] => d :: exponentText (point - 1)
    | ds => ds.take 1 ++ '.' :: ds.drop 1 ++ exponentText (point - 1)
  else if point ≤ 0 then
    '0' :: '.' :: List.replicate (-point).toNat '0' ++ ds
  else if ds.length ≤ point.toNat then
    ds ++ List.replicate (point.toNat - ds.length) '0' ++ ['.', '0']
  else
    ds.take point.toNat ++ '.' :: ds.drop point.toNat

def magnitudeText (mant exp : Nat) (canonical : Canonical mant exp) : List Char :=
  if mant = 0 then ['0', '.', '0'] else
    let ds := Digits.text 10 (Shortest.decimalOf mant exp canonical)
    layout (Shortest.stripZeros ds) (ds.length - 1074)

def chars : Binary64 → List Char
  | .nan => ['n', 'a', 'n']
  | .infinite negative => if negative then ['-', 'i', 'n', 'f'] else ['i', 'n', 'f']
  | .finite negative mant exp canonical =>
    if negative then '-' :: magnitudeText mant exp canonical
    else magnitudeText mant exp canonical

/-- The fewest digits that read back as the number. -/
def text (x : Binary64) : String := String.ofList x.chars

end Binary64

end SpanExport
