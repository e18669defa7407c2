import SpanExport.Number.Decimal
import SpanExport.Text.Blank
import SpanExport.Text.DecimalDigit

/-!
# Reading numerals

An integer is an optional sign and digits; a real number has a point, an exponent, or is one of
the words for infinity and nan. Blanks around it do not count, the digits are those of any
script, and one underscore may stand between two digits.
-/

namespace SpanExport.Numeral

/-- A numeral without the blanks around it, its sign read and the rest left. -/
def signAndRest (cs : List Char) : Bool × List Char :=
  match Text.trimBy Text.isBlank cs with
  | '-' :: rest => (true, rest)
  | '+' :: rest => (false, rest)
  | rest => (false, rest)

/-! ## Integers -/

/-- Digits with single underscores between them, and what follows them. The flag says that a
digit came right before. An underscore needs a digit on both sides. -/
def digits? (afterDigit : Bool) : List Char → Option (List Nat × List Char)
  | [] => if afterDigit then some ([], []) else none
  | c :: cs =>
    match Text.digitValue? c with
    | some d => (digits? true cs).map fun (ds, rest) => (d :: ds, rest)
    | none =>
      if c = '_' then if afterDigit then digits? false cs else none
      else if afterDigit then some ([], c :: cs) else none

/-- The most digits that an integer is read from or written with. -/
def digitLimit : Nat := 4300

inductive ReadError where
  | noNumeral
  | tooManyDigits (count : Nat)
deriving DecidableEq

/-- The digits are counted before what follows them is looked at. -/
def readChars (cs : List Char) : Except ReadError Int :=
  match digits? false (signAndRest cs).2 with
  | none => .error .noNumeral
  | some (ds, rest) =>
    if digitLimit < ds.length then .error (.tooManyDigits ds.length)
    else if rest ≠ [] then .error .noNumeral
    else .ok (Binary64.signed (signAndRest cs).1 (Digits.toNat 10 ds))

def readInteger (s : String) : Except ReadError Int := readChars s.toList

/-! ## Real numbers -/

/-- The underscores between two digits are left out; any other stops the reading. -/
def joined? (afterDigit : Bool) : List Char → Option (List Char)
  | [] => some []
  | c :: cs =>
    if c = '_' then
      if afterDigit ∧ (cs.head?.bind Text.digitValue?).isSome then joined? false cs else none
    else (joined? (Text.digitValue? c).isSome cs).map (c :: ·)

/-- The digits that a text begins with, and the rest of it. -/
def leadingDigits : List Char → List Nat × List Char
  | [] => ([], [])
  | c :: cs =>
    match Text.digitValue? c with
    | some d => (d :: (leadingDigits cs).1, (leadingDigits cs).2)
    | none => ([], c :: cs)

/-- Nothing, or an `e` with a signed number of at least one digit. -/
def exponent? : List Char → Option Int
  | [] => some 0
  | e :: cs =>
    let (negative, rest) :=
      match cs with
      | '-' :: rest => (true, rest)
      | '+' :: rest => (false, rest)
      | rest => (false, rest)
    match leadingDigits rest with
    | ([], _) => none
    | (ds, []) => if e = 'e' ∨ e = 'E' then some (Binary64.signed negative (Digits.toNat 10 ds)) else none
    | _ => none

/-- Digits with a point among them or not, at least one, and an exponent or none. -/
def decimal? (cs : List Char) : Option Decimal :=
  let (whole, rest) := leadingDigits cs
  let (part, rest) :=
    match rest with
    | '.' :: rest => leadingDigits rest
    | rest => ([], rest)
  if whole = [] ∧ part = [] then none
  else (exponent? rest).map fun e => ⟨Digits.toNat 10 (whole ++ part), e - part.length⟩

/-- The words for what is not finite, in letters of any case. -/
def word? (negative : Bool) (cs : List Char) : Option Binary64 :=
  let s := String.ofList (cs.map Char.toLower)
  if s = "inf" ∨ s = "infinity" then some (.infinite negative)
  else if s = "nan" then some .nan
  else none

def realChars? (cs : List Char) : Option Binary64 :=
  let (negative, rest) := signAndRest cs
  match word? negative rest with
  | some x => some x
  | none => ((joined? false rest).bind decimal?).map (·.toBinary64 negative)

/-- The number that a text is read as, rounded to nearest. -/
def readReal? (s : String) : Option Binary64 := realChars? s.toList

end SpanExport.Numeral
