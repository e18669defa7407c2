import SpanExport.Number.Numeral
import SpanExport.Value.Quantity

/-!
# Configuration

Where events go and what is added to them. A configuration holds values as an application gives
them. It is checked as a whole, or read from the environment and then checked.
-/

namespace SpanExport

def defaultApiHost : String := "https://api.honeycomb.io"

structure Configuration where
  writekey : Value
  dataset : Value
  sampleFraction : Value := .float .one
  serviceName : Value := .text ""
  apiHost : Value := .text defaultApiHost
  debug : Value := .bool false

inductive ConfigurationError where
  | emptyDataset
  /-- The fraction is no number, so the configuration cannot be checked. -/
  | fraction (cause : QuantityError)
  | fractionOutOfRange (fraction : Quantity)
  | emptyApiHost
  | fractionNotANumber (raw : String)
deriving DecidableEq

namespace ConfigurationError

/-- A fraction that is too long to write is reported as that. -/
def message : ConfigurationError → String
  | .emptyDataset => "dataset cannot be empty"
  | .fraction cause => cause.message
  | .fractionOutOfRange q =>
    match q.text with
    | .ok text => "sample_fraction must be between 0 and 1, got " ++ text
    | .error e => e.message
  | .emptyApiHost => "api_host cannot be empty"
  | .fractionNotANumber raw =>
    "HONEYCOMB_SAMPLE_FRACTION is not a number: " ++ Text.quoted raw

end ConfigurationError

namespace Configuration

/-- The first thing that is wrong, in the order dataset, fraction, host. -/
def check (c : Configuration) : Except ConfigurationError Configuration :=
  if !c.dataset.isTruthy then .error .emptyDataset
  else match c.sampleFraction.comparand "<=" with
    | .error e => .error (.fraction e)
    | .ok fraction =>
      if !fraction.inUnitInterval then .error (.fractionOutOfRange fraction)
      else if !c.apiHost.isTruthy then .error .emptyApiHost
      else .ok c

end Configuration

/-! ## The environment -/

abbrev Environment := String → Option String

namespace Environment

def ofList (settings : List (String × String)) : Environment := fun name => settings.lookup name

/-- A switch is on if its trimmed text is one of these words in letters of any case. -/
def isOn (s : String) : Bool :=
  let word := (Text.trimmed s).map Char.toLower
  word == "1" || word == "true" || word == "yes" || word == "on"

def fraction (env : Environment) : Except ConfigurationError Binary64 :=
  let raw := (env "HONEYCOMB_SAMPLE_FRACTION").getD "1"
  match Numeral.readReal? raw with
  | some x => .ok x
  | none => .error (.fractionNotANumber raw)

/-- The settings as they are, not checked. A variable that is set counts even if it is empty. -/
def configuration (env : Environment) : Except ConfigurationError Configuration := do
  let fraction ← env.fraction
  return {
    writekey := .text ((env "HONEYCOMB_WRITEKEY").getD "")
    dataset := .text ((env "HONEYCOMB_DATASET").getD "")
    sampleFraction := .float fraction
    serviceName :=
      .text ((env "HONEYCOMB_SERVICE_NAME").getD ((env "OTEL_SERVICE_NAME").getD ""))
    apiHost := .text ((env "HONEYCOMB_API_HOST").getD defaultApiHost)
    debug := .bool (isOn ((env "HONEYCOMB_DEBUG").getD "")) }

end Environment

def Configuration.ofEnvironment (env : Environment) : Except ConfigurationError Configuration := do
  (← env.configuration).check

end SpanExport
