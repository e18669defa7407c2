import SpanExport.Value.Text

/-!
# Quantities

A number as an application gives it: an integer, a binary64 number, or a truth value, which
counts as one or zero. No other value can be compared with a number or divide one.
-/

namespace SpanExport

inductive Quantity where
  | bool (b : Bool)
  | int (n : Int)
  | float (x : Binary64)
deriving DecidableEq

namespace Quantity

def toValue : Quantity → Value
  | .bool b => .bool b
  | .int n => .int n
  | .float x => .float x

def text : Quantity → Except TextError String
  | .bool b => .ok (Value.boolText b)
  | .int n => integerText n
  | .float x => .ok x.text

/-! ## Tests -/

def isZero : Quantity → Bool
  | .bool b => !b
  | .int n => n == 0
  | .float x => x.isZero

/-- The quantity lies between zero and one, ends included. -/
def inUnitInterval : Quantity → Bool
  | .bool _ => true
  | .int n => n == 0 || n == 1
  | .float x => x.inUnitInterval

/-- One divided by a quantity that is not zero, rounded to nearest. -/
def inverse : Quantity → Binary64
  | .bool b => if b then .one else .infinite false
  | .int n => .ofRatio (n < 0) 1 n.natAbs
  | .float x => x.inverse

end Quantity

/-! ## Values as quantities -/

/-- What a value of some kind was used for though it is no number. -/
inductive QuantityError where
  | comparison (symbol kind : String)
  | division (kind : String)
deriving DecidableEq

namespace QuantityError

def message : QuantityError → String
  | .comparison symbol kind =>
    "'" ++ symbol ++ "' not supported between instances of 'int' and '" ++ kind ++ "'"
  | .division kind => "unsupported operand type(s) for /: 'int' and '" ++ kind ++ "'"

end QuantityError

namespace Value

def quantity? : Value → Option Quantity
  | .bool b => some (.bool b)
  | .int n => some (.int n)
  | .float x => some (.float x)
  | _ => none

/-- The quantity that an integer is compared with. -/
def comparand (symbol : String) (v : Value) : Except QuantityError Quantity :=
  match v.quantity? with
  | some q => .ok q
  | none => .error (.comparison symbol v.kind)

/-- The quantity that an integer is divided by. -/
def divisor (v : Value) : Except QuantityError Quantity :=
  match v.quantity? with
  | some q => .ok q
  | none => .error (.division v.kind)

end Value

end SpanExport
