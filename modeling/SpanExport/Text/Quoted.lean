import SpanExport.Number.Digits
import SpanExport.Text.Printable

/-!
# Quoted texts and bytes

A text stands between single quotes, or between double ones if it has single ones and no
double ones. Inside, the quote and the backslash follow a backslash, and what cannot be printed
is named by its code point.
-/

namespace SpanExport.Text

def single : Char := '\x27'
def double : Char := '\x22'
def backslash : Char := '\x5c'

/-- The quote to stand around characters. -/
def quoteFor (cs : List Char) : Char :=
  if cs.contains single && !cs.contains double then double else single

/-- A tab, line feed or carriage return by its letter, and a quote or backslash by itself. -/
def shortEscape? (quote c : Char) : Option Char :=
  if c = quote ∨ c = backslash then some c
  else if c = '\t' then some 't'
  else if c = '\n' then some 'n'
  else if c = '\r' then some 'r'
  else none

/-- A code point by the shortest of the three hexadecimal forms that fits. -/
def hexEscape (n : Nat) : List Char :=
  if n < 0x100 then backslash :: 'x' :: Digits.padded 2 16 n
  else if n < 0x10000 then backslash :: 'u' :: Digits.padded 4 16 n
  else backslash :: 'U' :: Digits.padded 8 16 n

def escape (quote c : Char) : List Char :=
  match shortEscape? quote c with
  | some e => [backslash, e]
  | none => if isPrintable c then [c] else hexEscape c.toNat

def quotedChars (cs : List Char) : List Char :=
  quoteFor cs :: cs.flatMap (escape (quoteFor cs)) ++ [quoteFor cs]

def quoted (s : String) : String := String.ofList (quotedChars s.toList)

/-! ## Bytes -/

/-- The character is escaped by itself if it is the given one or a backslash, and by number if
it is not printable ASCII. -/
def escapeByte (escaped c : Char) : List Char :=
  match shortEscape? escaped c with
  | some e => [backslash, e]
  | none => if 0x20 ≤ c.toNat ∧ c.toNat < 0x7F then [c] else hexEscape c.toNat

/-- The characters of the bytes' code points in quotes after a `b`. -/
def quotedByteChars (escaped : Char) (cs : List Char) : List Char :=
  'b' :: quoteFor cs :: cs.flatMap (escapeByte escaped) ++ [quoteFor cs]

def byteChars (data : List UInt8) : List Char := data.map fun b => Char.ofNat b.toNat

/-- Bytes, in which the quote around them is escaped. -/
def quotedBytes (data : List UInt8) : String :=
  String.ofList (quotedByteChars (quoteFor (byteChars data)) (byteChars data))

/-- Bytes that may change, in which a single quote is escaped whatever stands around them. -/
def quotedBuffer (data : List UInt8) : String :=
  "bytearray(" ++ String.ofList (quotedByteChars single (byteChars data)) ++ ")"

end SpanExport.Text
