/-!
# Options of the command line

The options with their spellings, in the order in which they are listed.
-/

namespace SpanExport

inductive CommandOption where
  | help
  | writekey
  | dataset
  | serviceName
  | sampleFraction
  | apiHost
  | name
  | note
  | attr
  | verbose
  | version
deriving DecidableEq

namespace CommandOption

def all : List CommandOption :=
  [.help, .writekey, .dataset, .serviceName, .sampleFraction, .apiHost, .name, .note, .attr,
    .verbose, .version]

def letter? : CommandOption → Option Char
  | .help => some 'h'
  | .name => some 'n'
  | .verbose => some 'v'
  | _ => none

def long : CommandOption → String
  | .help => "--help"
  | .writekey => "--writekey"
  | .dataset => "--dataset"
  | .serviceName => "--service-name"
  | .sampleFraction => "--sample-fraction"
  | .apiHost => "--api-host"
  | .name => "--name"
  | .note => "--annotation"
  | .attr => "--attr"
  | .verbose => "--verbose"
  | .version => "--version"

def short? (o : CommandOption) : Option String :=
  o.letter?.map fun c => String.ofList ['-', c]

def spellings (o : CommandOption) : List String := o.short?.toList ++ [o.long]

/-- The name in messages: all spellings with a slash between them. -/
def label (o : CommandOption) : String := "/".intercalate o.spellings

def takesValue : CommandOption → Bool
  | .help | .verbose | .version => false
  | _ => true

def ofLetter? (c : Char) : Option CommandOption := all.find? fun o => o.letter? = some c

def ofSpelling? (s : String) : Option CommandOption := all.find? fun o => s ∈ o.spellings

end CommandOption

end SpanExport
