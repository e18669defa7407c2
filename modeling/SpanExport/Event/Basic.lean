import SpanExport.Value.Fields

/-!
# Events

An event is a set of fields on its way to a dataset.
-/

namespace SpanExport

/-- Where an event goes, and how many events it stands for. -/
structure Target where
  writekey : Value
  dataset : Value
  apiHost : Value
  sampleRate : Value

/-- An event reaches nothing if one of these is an empty text. -/
def Target.isComplete (t : Target) : Bool :=
  !t.apiHost.isEmptyText && !t.writekey.isEmptyText && !t.dataset.isEmptyText

inductive Setting where
  | writekey (v : Value)
  | dataset (v : Value)
  | apiHost (v : Value)
  | sampleRate (v : Value)

def Target.set (t : Target) : Setting → Target
  | .writekey v => { t with writekey := v }
  | .dataset v => { t with dataset := v }
  | .apiHost v => { t with apiHost := v }
  | .sampleRate v => { t with sampleRate := v }

structure Event where
  fields : Fields
  target : Target
  createdAt : Option Timestamp

end SpanExport
