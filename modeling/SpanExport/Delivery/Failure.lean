import SpanExport.Attribute
import SpanExport.Configuration
import SpanExport.Delivery.WriteKey
import SpanExport.Event.Fixed
import SpanExport.Value.Integer

/-!
# Failures

All that a call can end with instead of a result.
-/

namespace SpanExport

inductive Failure where
  | configuration (cause : ConfigurationError)
  | attribute (cause : AttributeError)
  | target (cause : TargetError)
  | fixed (cause : FixedError)
  | quantity (cause : QuantityError)
  | text (cause : TextError)
  | status (cause : IntegerError)
  /-- The client refused to be made, to take an event, or to close. -/
  | client (message : String)
  | noInstrumentation
  /-- The application raised an error of its own. -/
  | application (kind message : String)
deriving DecidableEq

def Failure.message : Failure → String
  | .configuration cause => cause.message
  | .attribute cause => cause.message
  | .target cause => cause.message
  | .fixed cause => cause.message
  | .quantity cause => cause.message
  | .text cause => cause.message
  | .status cause => cause.message
  | .client message => message
  | .noInstrumentation =>
    "FastAPI instrumentation requires additional dependencies. " ++
      "Install with: pip install honeytrace[fastapi]"
  | .application _ message => message

end SpanExport
