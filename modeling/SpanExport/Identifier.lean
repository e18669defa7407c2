import SpanExport.Number.Digits

/-!
# Identifiers of traces and spans

An identifier is written as hexadecimal digits in lower case: 32 of them for a trace, 16 for a
span. A number that needs more is not cut, and a sign takes the place of a zero.
-/

namespace SpanExport.Identifier

/-- The sign and the digits, with zeros between them up to the width. -/
def hexChars (width : Nat) (n : Int) : List Char :=
  if n < 0 then '-' :: Digits.padded (width - 1) 16 n.natAbs else Digits.padded width 16 n.natAbs

def hex (width : Nat) (n : Int) : String := String.ofList (hexChars width n)

def traceText (id : Int) : String := hex 32 id

def spanText (id : Int) : String := hex 16 id

end SpanExport.Identifier
