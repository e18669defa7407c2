import SpanExport.Number.Numeral
import SpanExport.Text.Utf8
import SpanExport.Value.Text

/-!
# Values as integers

A number loses its fraction and a text or bytes are read as a numeral. Nothing else is an
integer.
-/

namespace SpanExport

inductive IntegerError where
  | nan
  | infinite
  /-- The text, as a literal, is no numeral. -/
  | noNumeral (literal : String)
  | tooManyDigits (count : Nat)
  | noNumber (kind : String)
deriving DecidableEq

namespace IntegerError

/-- A literal is shown up to its 200th character. -/
def message : IntegerError → String
  | .nan => "cannot convert float NaN to integer"
  | .infinite => "cannot convert float infinity to integer"
  | .noNumeral literal =>
    "invalid literal for int() with base 10: " ++ String.ofList (literal.toList.take 200)
  | .tooManyDigits count =>
    "Exceeds the limit (4300 digits) for integer string conversion: value has " ++
      toString count ++ " digits; use sys.set_int_max_str_digits() to increase the limit"
  | .noNumber kind =>
    "int() argument must be a string, a bytes-like object or a real number, not '" ++ kind ++ "'"

def ofReading (literal : String) : Numeral.ReadError → IntegerError
  | .noNumeral => .noNumeral literal
  | .tooManyDigits count => .tooManyDigits count

end IntegerError

namespace Value

/-- Bytes are read as the characters of their code points, of which those beyond ASCII are
neither digits nor blanks. No more than 200 of them are shown. -/
def bytesToInteger (data : List UInt8) : Except IntegerError Int :=
  let cs := data.map fun b => if b < 0x80 then Char.ofNat b.toNat else Utf8.replacement
  (Numeral.readChars cs).mapError (.ofReading (Text.quotedBytes (data.take 200)))

def toInteger : Value → Except IntegerError Int
  | .bool b => .ok (if b then 1 else 0)
  | .int n => .ok n
  | .float .nan => .error .nan
  | .float (.infinite _) => .error .infinite
  | .float (.finite negative mant exp _) => .ok (Binary64.truncate negative mant exp)
  | .text s => (Numeral.readInteger s).mapError (.ofReading (Text.quoted s))
  | .bytes data | .buffer data | .view data => bytesToInteger data
  | v => .error (.noNumber v.kind)

/-- The integer that a status code stands for; a missing one counts as zero. -/
def statusInteger : Value → Except IntegerError Int
  | .null => .ok 0
  | .status code => .ok code.toInt
  | v => v.toInteger

end Value

end SpanExport
