import SpanExport.Number.Numeral
import SpanExport.Text.Quoted
import SpanExport.Value.Fields

/-!
# Attributes as text

An attribute is a text with a key, an equals sign and a value. A value that reads as a truth
value, an integer or a number, tried in this order, is taken as that.
-/

namespace SpanExport

inductive AttributeError where
  /-- The text has no equals sign or nothing before it. -/
  | malformed (text : String)
  /-- What was given is no text at all. -/
  | noText (kind : String)
deriving DecidableEq

namespace AttributeError

def message : AttributeError → String
  | .malformed text => "expected KEY=VALUE, got " ++ Text.quoted text
  | .noText kind => "'" ++ kind ++ "' object has no attribute 'partition'"

end AttributeError

namespace Attribute

def splitAtEquals? : List Char → Option (List Char × List Char)
  | [] => none
  | c :: cs =>
    if c = '=' then some ([], cs)
    else (splitAtEquals? cs).map fun (before, after) => (c :: before, after)

def readValue (raw : String) : Value :=
  let word := raw.map Char.toLower
  if word = "true" then .bool true
  else if word = "false" then .bool false
  else match Numeral.readInteger raw with
    | .ok n => .int n
    | .error _ =>
      match Numeral.readReal? raw with
      | some x => .float x
      | none => .text raw

def readText (text : String) : Except AttributeError (String × Value) :=
  match splitAtEquals? text.toList with
  | none | some ([], _) => .error (.malformed text)
  | some (key, raw) => .ok (String.ofList key, readValue (String.ofList raw))

def read : Value → Except AttributeError (String × Value)
  | .text text => readText text
  | v => .error (.noText v.kind)

/-- All attributes. A key that occurs again keeps its place and takes the new value. -/
def readAll (given : List Value) : Except AttributeError Fields :=
  Fields.ofList <$> given.mapM read

end Attribute

end SpanExport
