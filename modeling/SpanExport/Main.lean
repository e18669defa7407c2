import SpanExport.CommandLine.Run
import Std.Time.DateTime.Timestamp

/-!
# The command

The program reads its words and the environment, and draws identifiers and the time once. The
events of the run stay in its journal: sending them on is left to a transmission.
-/

namespace SpanExport.Command

/-- The variables that have a meaning here. The SDK is taken at its defaults. -/
def variableNames : List String :=
  ["HONEYCOMB_WRITEKEY", "HONEYCOMB_DATASET", "HONEYCOMB_SAMPLE_FRACTION",
    "HONEYCOMB_SERVICE_NAME", "HONEYCOMB_API_HOST", "HONEYCOMB_DEBUG", "OTEL_SERVICE_NAME"]

def readEnvironment : IO Environment := do
  let set ← variableNames.filterMapM fun name => do
    return (← IO.getEnv name).map fun value => (name, value)
  return .ofList set

/-- A number of as many random bytes. -/
def drawNumber (bytes : Nat) : IO Int := do
  let data ← IO.getRandomBytes bytes.toUSize
  return Digits.toNat 256 (data.toList.map UInt8.toNat)

/-- A session that begins now. Each reading of its clock is a microsecond after the one before,
and each identifier is one more than the one before. -/
def newSession : IO Session := do
  let now := (← Std.Time.Timestamp.now).toNanosecondsSinceUnixEpoch.val
  let traceId ← drawNumber 16
  let spanId ← drawNumber 8
  return {
    clock := ⟨fun k => now + 1000 * k, 0⟩
    traceIds := ⟨fun k => traceId + k, 0⟩
    spanIds := ⟨fun k => spanId + k, 0⟩
    environment := ← readEnvironment }

end SpanExport.Command

def main (words : List String) : IO UInt32 := do
  let outcome := SpanExport.runCommand words (← SpanExport.Command.newSession)
  match outcome.result with
  | .ok report =>
    IO.print report.stdout
    IO.eprint report.stderr
    return report.exitCode.toUInt32
  | .error e =>
    IO.eprintln e.message
    return 1
