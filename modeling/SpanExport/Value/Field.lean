import SpanExport.Text.Utf8
import SpanExport.Value.Text

/-!
# Values of event fields

An event field is null, a truth value, a number, a text, a timestamp, or a list of such. Every
value is turned into one: bytes are read as text, sequences become lists, and what is left is
written out.
-/

namespace SpanExport.Value

mutual

/-- The values that a field holds. -/
def isField : Value → Bool
  | .null | .bool _ | .int _ | .float _ | .text _ | .timestamp _ => true
  | .list items => areFields items
  | _ => false

def areFields : List Value → Bool
  | [] => true
  | item :: items => isField item && areFields items

end

def byteInts (data : List UInt8) : Value := .list (data.map fun b => .int b.toNat)

mutual

def toField : Value → Except TextError Value
  | .null => .ok .null
  | .bool b => .ok (.bool b)
  | .int n => .ok (.int n)
  | .float x => .ok (.float x)
  | .text s => .ok (.text s)
  | .timestamp t => .ok (.timestamp t)
  | .bytes data | .buffer data => .ok (.text (Utf8.decode data))
  | .view data => .ok (byteInts data)
  | .list items | .tuple items => .list <$> toFields items
  | .range start stop step => .ok (.list ((rangeItems start stop step).map .int))
  | .date d => .text <$> (Value.date d).plainText
  | .status code => .text <$> (Value.status code).plainText
  | .mapping entries => .text <$> (Value.mapping entries).plainText
  | .object s => .text <$> (Value.object s).plainText

def toFields : List Value → Except TextError (List Value)
  | [] => .ok []
  | item :: items => return (← toField item) :: (← toFields items)

end

end SpanExport.Value
