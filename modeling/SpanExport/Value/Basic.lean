import SpanExport.Number.Binary64
import SpanExport.Time.Timestamp

/-!
# Values

The values that an application attaches to its spans or sets things up with, which of them count
as nothing, and the equality of keys that decides which entries of a mapping are one.
-/

namespace SpanExport

inductive StatusCode where
  | unset
  | ok
  | error
deriving DecidableEq

namespace StatusCode

def toInt : StatusCode → Int
  | .unset => 0
  | .ok => 1
  | .error => 2

def name : StatusCode → String
  | .unset => "UNSET"
  | .ok => "OK"
  | .error => "ERROR"

end StatusCode

inductive Value where
  | null
  | bool (b : Bool)
  | int (n : Int)
  | float (x : Binary64)
  | text (s : String)
  | timestamp (t : Timestamp)
  | date (d : Date)
  | status (code : StatusCode)
  | bytes (data : List UInt8)
  /-- Bytes that may change. -/
  | buffer (data : List UInt8)
  /-- A window on bytes, which counts as a sequence of integers. -/
  | view (data : List UInt8)
  | list (items : List Value)
  | tuple (items : List Value)
  | range (start stop step : Int)
  | mapping (entries : List (Value × Value))
  /-- Anything else, known by its text alone. -/
  | object (text : String)

instance : Inhabited Value := ⟨.null⟩

namespace Value

/-! ## Sequences of integers -/

/-- How many numbers there are from `start` on, `step` apart, before `stop`. -/
def rangeLength (start stop step : Int) : Nat :=
  if 0 < step then ((stop - start + step - 1) / step).toNat
  else ((start - stop - step - 1) / -step).toNat

def rangeItems (start stop step : Int) : List Int :=
  (List.range (rangeLength start stop step)).map fun i : Nat => start + (i : Int) * step

/-! ## Truth -/

/-- A value counts as true unless it is null, false, zero, or has no parts. -/
def isTruthy : Value → Bool
  | .null => false
  | .bool b => b
  | .int n => n != 0
  | .float x => !x.isZero
  | .text s => s != ""
  | .bytes data | .buffer data | .view data => !data.isEmpty
  | .list items | .tuple items => !items.isEmpty
  | .range start stop step => rangeLength start stop step != 0
  | .mapping entries => !entries.isEmpty
  | .timestamp _ | .date _ | .status _ | .object _ => true

def isEmptyText : Value → Bool
  | .text s => s == ""
  | _ => false

/-! ## Keys of a mapping -/

/-- The exact value of a finite number as a quotient; a truth value counts as one or zero. -/
def ratio? : Value → Option (Int × Nat)
  | .bool b => some (if b then 1 else 0, 1)
  | .int n => some (n, 1)
  | .float (.finite negative mant exp _) =>
    some (Binary64.signed negative (Binary64.units mant exp), unitsPerOne)
  | _ => none

def keyBytes? : Value → Option (List UInt8)
  | .bytes data | .view data => some data
  | _ => none

/-- Two ranges are one if they have the same items; the step of a single item does not count. -/
def sameRange (a b c a' b' c' : Int) : Bool :=
  let n := rangeLength a b c
  n == rangeLength a' b' c' && (n == 0 || (a == a' && (n == 1 || c == c')))

mutual

/-- Two keys are one if they are equal numbers of whatever type, the same instant, the same
bytes, ranges of the same items, or the same otherwise. -/
def sameKey : Value → Value → Bool
  | .null, .null => true
  | .text s, .text t => s == t
  | .float (.infinite a), .float (.infinite b) => a == b
  | .timestamp a, .timestamp b => a.sameInstant b
  | .date a, .date b => a == b
  | .status a, .status b => a == b
  | .range a b c, .range a' b' c' => sameRange a b c a' b' c'
  | .tuple a, .tuple b => sameKeys a b
  | a, b =>
    match ratio? a, ratio? b, keyBytes? a, keyBytes? b with
    | some (n, d), some (m, e), _, _ => n * e == m * d
    | _, _, some xs, some ys => xs == ys
    | _, _, _, _ => false

def sameKeys : List Value → List Value → Bool
  | [], [] => true
  | a :: as, b :: bs => sameKey a b && sameKeys as bs
  | _, _ => false

end

/-- An entry with a known key takes the place of the old one and keeps its key. -/
def putEntry (key value : Value) : List (Value × Value) → List (Value × Value)
  | [] => [(key, value)]
  | (k, v) :: rest => if sameKey k key then (k, value) :: rest else (k, v) :: putEntry key value rest

/-- The mapping that results from writing the entries one after the other. -/
def mappingOf (entries : List (Value × Value)) : Value :=
  .mapping (entries.foldl (fun written (k, v) => putEntry k v written) [])

/-! ## Kinds -/

def kind : Value → String
  | .null => "NoneType"
  | .bool _ => "bool"
  | .int _ => "int"
  | .float _ => "float"
  | .text _ => "str"
  | .timestamp _ => "datetime.datetime"
  | .date _ => "datetime.date"
  | .status _ => "StatusCode"
  | .bytes _ => "bytes"
  | .buffer _ => "bytearray"
  | .view _ => "memoryview"
  | .list _ => "list"
  | .tuple _ => "tuple"
  | .range .. => "range"
  | .mapping _ => "dict"
  | .object _ => "object"

end Value

end SpanExport
