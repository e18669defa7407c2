import SpanExport.Span
import SpanExport.Tracing.Sdk
import SpanExport.Value.Text

/-!
# Spans being recorded

A span takes attributes, notes and a status until it ends, and keeps the newest of them.
What it takes is made of texts, numbers, bytes, sequences and mappings alone, and cannot be
changed any more by the application.

This is the span of `opentelemetry-sdk`: how it freezes a value, which attribute or note gives way
where the limits of its provider are reached, and which status stands.
-/

namespace SpanExport

namespace Value

mutual

/-- The value with tuples for all sequences but texts and bytes, texts for what is neither number
nor sequence nor mapping, and texts for the keys of mappings; a key that counts as nothing is
left out with its value. -/
def frozen : Value → Except TextError Value
  | .list items | .tuple items => .tuple <$> frozenItems items
  | .buffer data | .view data => .ok (.tuple (data.map fun b => .int b.toNat))
  | .range start stop step => .ok (.tuple ((rangeItems start stop step).map .int))
  | .mapping entries => mappingOf <$> frozenEntries entries
  | .timestamp t => .text <$> (Value.timestamp t).plainText
  | .date d => .text <$> (Value.date d).plainText
  | .status code => .text <$> (Value.status code).plainText
  | .object s => .ok (.text s)
  | v => .ok v

def frozenItems : List Value → Except TextError (List Value)
  | [] => .ok []
  | item :: items => return (← frozen item) :: (← frozenItems items)

def frozenEntries : List (Value × Value) → Except TextError (List (Value × Value))
  | [] => .ok []
  | (key, value) :: entries =>
    if key.isTruthy then
      return (.text (← key.plainText), ← frozen value) :: (← frozenEntries entries)
    else frozenEntries entries

end

end Value

/-- Sets an attribute at the end. The oldest one gives way if there are too many, and one
without a name is not kept. -/
def setAttribute (limits : AttributeLimits) (attributes : Fields) (key : String) (value : Value) :
    Except TextError Fields :=
  if key = "" ∨ limits.count = some 0 then .ok attributes
  else
    let others := attributes.erase key
    let kept := if limits.count.any (· ≤ others.size) then others.dropFirst else others
    (fun value => kept.putLast key (limits.shorten value)) <$> value.frozen

def initialAttributes (limits : AttributeLimits) (attributes : Fields) : Except TextError Fields :=
  attributes.entries.foldlM (fun kept (key, value) => setAttribute limits kept key value) .empty

structure Recording where
  name : Value
  context : SpanContext
  parent : Option SpanParent
  start : Int
  limits : SpanLimits
  finish : Option Int := none
  code : StatusCode := .unset
  description : Option String := none
  attributes : Fields
  notes : List Note := []

namespace Recording

def addNote (r : Recording) (a : Note) : Recording :=
  let all := r.notes ++ [a]
  { r with notes := all.drop (all.length - r.limits.notes.getD all.length) }

/-- An unset status is not taken up, an ok status is final, and only an error is described. -/
def setStatus (r : Recording) (code : StatusCode) (description : Option String) : Recording :=
  if r.code = .ok ∨ code = .unset then r
  else { r with code, description := if code = .error then description else none }

def rename (r : Recording) (name : Value) : Recording := { r with name }

def isEnded (r : Recording) : Bool := r.finish.isSome

def span (r : Recording) : Span where
  name := r.name
  context := some r.context
  parent := r.parent
  start := some r.start
  finish := r.finish
  status := some { code := .status r.code, description := r.description }
  attributes := r.attributes
  notes := r.notes

end Recording

end SpanExport
