import SpanExport.Number.Decimal
import SpanExport.Number.Numeral
import SpanExport.Text.Quoted
import SpanExport.Value.Basic

/-!
# The text of a value

A mapping is written with its keys and values in braces, each part as a literal: texts and
bytes in quotes, sequences in brackets, dates and timestamps by their parts. Only an integer of
too many digits has no text.
-/

namespace SpanExport

/-- The value holds an integer that is too long to write. -/
inductive TextError where
  | integerTooLong
deriving DecidableEq

namespace TextError

def message : TextError → String
  | .integerTooLong =>
    "Exceeds the limit (4300 digits) for integer string conversion; " ++
      "use sys.set_int_max_str_digits() to increase the limit"

end TextError

/-- An integer in base ten, of 4300 digits at most. -/
def integerText (n : Int) : Except TextError String :=
  if Numeral.digitLimit < (Digits.ofNat 10 n.natAbs).length then .error .integerTooLong
  else .ok (String.ofList (Digits.decimal n))

namespace Value

def boolText (b : Bool) : String := if b then "True" else "False"

/-- The step is left out where it is one. -/
def rangeText (start stop step : Int) : Except TextError String := do
  let start ← integerText start
  let stop ← integerText stop
  if step = 1 then return "range(" ++ start ++ ", " ++ stop ++ ")"
  return "range(" ++ start ++ ", " ++ stop ++ ", " ++ (← integerText step) ++ ")"

/-- A tuple of one item has a comma after it. -/
def tupleText : List String → String
  | [item] => "(" ++ item ++ ",)"
  | items => "(" ++ ", ".intercalate items ++ ")"

/-! ## Dates and timestamps -/

def callText (name : String) (args : List String) : String :=
  name ++ "(" ++ ", ".intercalate args ++ ")"

def dateParts (d : Date) : List String := [toString d.year, toString d.month, toString d.day]

def dateLiteral (d : Date) : String := callText "datetime.date" (dateParts d)

/-- Whole days, which may be negative, and the seconds after them; what is zero is left out. -/
def spanLiteral (seconds : Int) : String :=
  let days := seconds / 86400
  let rest := seconds % 86400
  callText "datetime.timedelta"
    (if seconds = 0 then ["0"]
     else (if days = 0 then [] else ["days=" ++ toString days]) ++
       if rest = 0 then [] else ["seconds=" ++ toString rest])

def offsetLiteral (seconds : Int) : String :=
  if seconds = 0 then "datetime.timezone.utc" else callText "datetime.timezone" [spanLiteral seconds]

/-- Seconds and microseconds are left out from the end where they are zero. -/
def timestampLiteral (t : Timestamp) : String :=
  callText "datetime.datetime"
    (dateParts t.date ++ [toString t.hour, toString t.minute] ++
      (if t.microsecond ≠ 0 then [toString t.second, toString t.microsecond]
       else if t.second ≠ 0 then [toString t.second] else []) ++
      match t.offset with
      | some seconds => ["tzinfo=" ++ offsetLiteral seconds]
      | none => [])

/-! ## All values -/

mutual

/-- The value as a literal, the way it is written inside a mapping. -/
def literal : Value → Except TextError String
  | .null => .ok "None"
  | .bool b => .ok (boolText b)
  | .int n => integerText n
  | .float x => .ok x.text
  | .text s => .ok (Text.quoted s)
  | .timestamp t => .ok (timestampLiteral t)
  | .date d => .ok (dateLiteral d)
  | .status code => .ok ("<StatusCode." ++ code.name ++ ": " ++ toString code.toInt ++ ">")
  | .bytes data => .ok (Text.quotedBytes data)
  | .buffer data => .ok (Text.quotedBuffer data)
  | .view _ => .ok "<memory>"
  | .list items => return "[" ++ ", ".intercalate (← literals items) ++ "]"
  | .tuple items => return tupleText (← literals items)
  | .range start stop step => rangeText start stop step
  | .mapping entries => return "\x7b" ++ ", ".intercalate (← entryTexts entries) ++ "\x7d"
  | .object s => .ok s

def literals : List Value → Except TextError (List String)
  | [] => .ok []
  | item :: items => return (← literal item) :: (← literals items)

def entryTexts : List (Value × Value) → Except TextError (List String)
  | [] => .ok []
  | (key, value) :: entries =>
    return ((← literal key) ++ ": " ++ (← literal value)) :: (← entryTexts entries)

end

/-- The plain text of a value: a literal, except that texts, dates, timestamps and codes stand
by themselves. -/
def plainText : Value → Except TextError String
  | .text s => .ok s
  | .date d => .ok d.text
  | .timestamp t => .ok (t.textWith " ")
  | .status code => .ok ("StatusCode." ++ code.name)
  | .object s => .ok s
  | v => v.literal

def shown (v : Value) : String :=
  match v.plainText with
  | .ok s => s
  | .error e => e.message

end Value

end SpanExport
