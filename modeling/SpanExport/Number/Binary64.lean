import SpanExport.Number.Rounding

/-!
# Binary64 numbers

A finite number is `± mant * 2 ^ exp` units, the unit being `2 ^ -1074`. In the canonical form
the mantissa has 53 bits, or fewer and the exponent is zero; so equal numbers are equal terms,
except that there are two zeros. Everything is computed exactly and rounded once.
-/

namespace SpanExport

/-- The unit that every finite number is a multiple of is one over this. -/
def unitsPerOne : Nat := Nat.pow 2 1074

/-- The mantissas and exponents that numbers have. -/
def Canonical (mant exp : Nat) : Prop :=
  mant < Nat.pow 2 53 ∧ (exp = 0 ∨ Nat.pow 2 52 ≤ mant) ∧ exp ≤ 2045

instance (mant exp : Nat) : Decidable (Canonical mant exp) := inferInstanceAs (Decidable (_ ∧ _))

inductive Binary64 where
  | nan
  | infinite (negative : Bool)
  | finite (negative : Bool) (mant exp : Nat) (canonical : Canonical mant exp)
deriving DecidableEq

namespace Binary64

/-- A finite magnitude in units. -/
def units (mant exp : Nat) : Nat := mant * Nat.pow 2 exp

/-- Zero with either sign. -/
def signedZero (negative : Bool) : Binary64 := .finite negative 0 0 (by decide)

def zero : Binary64 := signedZero false

def one : Binary64 := .finite false (Nat.pow 2 52) 1022 (by decide)

instance : Inhabited Binary64 := ⟨zero⟩

/-! ## Rounding -/

/-- A mantissa and an exponent beyond the largest number are an infinity. -/
def pack (negative : Bool) (mant exp : Nat) : Binary64 :=
  if h : Canonical mant exp then .finite negative mant exp h else .infinite negative

/-- The power of two by which a quotient of `q` units exceeds 53 bits. -/
def binade (q : Nat) : Nat := q.log2 - 52

/-- The number nearest to `num / den`, a tie going to the even mantissa. -/
def ofRatio (negative : Bool) (num den : Nat) : Binary64 :=
  let exp := binade (num * unitsPerOne / den)
  let mant := roundDiv (num * unitsPerOne) (den * Nat.pow 2 exp)
  if mant = Nat.pow 2 53 then pack negative (Nat.pow 2 52) (exp + 1) else pack negative mant exp

/-- The number nearest to the quotient of two integers. -/
def ofIntRatio (num : Int) (den : Nat) : Binary64 := ofRatio (num < 0) num.natAbs den

/-! ## Tests and operations -/

def isZero : Binary64 → Bool
  | .finite _ mant _ _ => mant == 0
  | _ => false

/-- The number lies between zero and one, ends included. -/
def inUnitInterval : Binary64 → Bool
  | .finite false mant exp _ => units mant exp ≤ unitsPerOne
  | .finite true mant _ _ => mant == 0
  | _ => false

/-- The number lies strictly between zero and one. -/
def isProperFraction : Binary64 → Bool
  | .finite false mant exp _ => 0 < mant && units mant exp < unitsPerOne
  | _ => false

/-- One divided by the number, rounded; the inverse of a zero is an infinity. -/
def inverse : Binary64 → Binary64
  | .nan => .nan
  | .infinite negative => signedZero negative
  | .finite negative mant exp _ =>
    if mant = 0 then .infinite negative else ofRatio negative unitsPerOne (units mant exp)

def signed (negative : Bool) (n : Nat) : Int := if negative then -(n : Int) else n

/-- The nearest integer, a tie going to the even one; there is none near an infinity. -/
def round? : Binary64 → Option Int
  | .finite negative mant exp _ => some (signed negative (roundDiv (units mant exp) unitsPerOne))
  | _ => none

/-- The integer part of a finite magnitude. -/
def truncate (negative : Bool) (mant exp : Nat) : Int :=
  signed negative (units mant exp / unitsPerOne)

end Binary64

end SpanExport
