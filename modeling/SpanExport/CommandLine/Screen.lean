import SpanExport.CommandLine.Arguments

/-!
# What the command line shows

The texts for help, version and mistakes, and the exit codes that go with them.
-/

namespace SpanExport

namespace Screen

def usage : String :=
  "usage: honeytrace [-h] [--writekey WRITEKEY] [--dataset DATASET]\n" ++
  "                  [--service-name SERVICE_NAME]\n" ++
  "                  [--sample-fraction SAMPLE_FRACTION] [--api-host API_HOST]\n" ++
  "                  [-n NAME] [--annotation ANNOTATION] [--attr KEY=VALUE] [-v]\n" ++
  "                  [--version]\n"

def options : String :=
  "options:\n" ++
  "  -h, --help            show this help message and exit\n" ++
  "  --writekey WRITEKEY   Honeycomb write key (defaults to $HONEYCOMB_WRITEKEY)\n" ++
  "  --dataset DATASET     Dataset to send the span to (defaults to\n" ++
  "                        $HONEYCOMB_DATASET)\n" ++
  "  --service-name SERVICE_NAME\n" ++
  "                        Value of the service_name field (defaults to\n" ++
  "                        $HONEYCOMB_SERVICE_NAME)\n" ++
  "  --sample-fraction SAMPLE_FRACTION\n" ++
  "                        Fraction of traces kept upstream (default: 1)\n" ++
  "  --api-host API_HOST   Honeycomb API host (defaults to $HONEYCOMB_API_HOST)\n" ++
  "  -n NAME, --name NAME  Name of the test span (default: honeytrace-test)\n" ++
  "  --annotation ANNOTATION\n" ++
  "                        Message of an annotation to record on the span\n" ++
  "  --attr KEY=VALUE      Span attribute, may be repeated\n" ++
  "  -v, --verbose         Enable verbose output\n" ++
  "  --version             show program's version number and exit\n"

def help : String :=
  usage ++ "\nSend a test OpenTelemetry span to Honeycomb\n\n" ++ options ++
    "\nExample: honeytrace --dataset my-traces --name smoke-test\n"

def version : String := "honeytrace 0.1.0\n"

end Screen

structure Report where
  stdout : String := ""
  stderr : String := ""
  exitCode : Nat
deriving DecidableEq

/-- A request to stop ends well; a mistake is shown after the usage. -/
def Stop.report : Stop → Report
  | .help => { stdout := Screen.help, exitCode := 0 }
  | .version => { stdout := Screen.version, exitCode := 0 }
  | .misuse cause =>
    { stderr := Screen.usage ++ "honeytrace: error: " ++ cause.message ++ "\n", exitCode := 2 }

end SpanExport
