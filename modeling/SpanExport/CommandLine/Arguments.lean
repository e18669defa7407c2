import SpanExport.CommandLine.Word
import SpanExport.Configuration

/-!
# Arguments

The words of a command line are taken from left to right. Help and version stop at once, so a
mistake before them is reported and one after them is not; operands are counted as unrecognized
at the end.
-/

namespace SpanExport

/-- The value of each option that was given: a text, a number, or an empty list. -/
structure Arguments where
  writekey : Option Value := none
  dataset : Option Value := none
  serviceName : Option Value := none
  sampleFraction : Option Value := none
  apiHost : Option Value := none
  name : Value := .text "honeytrace-test"
  note : Option Value := none
  attributes : List Value := []
  verbose : Bool := false

inductive UsageError where
  | ambiguous (word : String) (spellings : List String)
  | missingValue (o : CommandOption)
  | unexpectedValue (o : CommandOption) (value : String)
  | invalidNumber (o : CommandOption) (value : String)
  | unrecognized (words : List String)
deriving DecidableEq

namespace UsageError

def message : UsageError → String
  | .ambiguous word spellings =>
    "ambiguous option: " ++ word ++ " could match " ++ ", ".intercalate spellings
  | .missingValue o => "argument " ++ o.label ++ ": expected one argument"
  | .unexpectedValue o value =>
    "argument " ++ o.label ++ ": ignored explicit argument " ++ Text.quoted value
  | .invalidNumber o value =>
    "argument " ++ o.label ++ ": invalid float value: " ++ Text.quoted value
  | .unrecognized words => "unrecognized arguments: " ++ " ".intercalate words

end UsageError

/-- Why there are no arguments to go on with. -/
inductive Stop where
  | help
  | version
  | misuse (cause : UsageError)
deriving DecidableEq

namespace Arguments

/-! ## One option -/

def setFlag (args : Arguments) : CommandOption → Except Stop Arguments
  | .help => .error .help
  | .version => .error .version
  | _ => .ok { args with verbose := true }

/-- The value that a text after an option stands for. The text `--` stands for no values at all,
also after an equals sign. -/
def readValue (o : CommandOption) (text : String) : Except UsageError Value :=
  if text = "--" then .ok (.list [])
  else if o = .sampleFraction then
    match Numeral.readReal? text with
    | some x => .ok (.float x)
    | none => .error (.invalidNumber o text)
  else .ok (.text text)

/-- An option with its value. Attributes add up; of all other options the last one counts. -/
def setValue (args : Arguments) (o : CommandOption) (value : Value) : Arguments :=
  match o with
  | .writekey => { args with writekey := some value }
  | .dataset => { args with dataset := some value }
  | .serviceName => { args with serviceName := some value }
  | .sampleFraction => { args with sampleFraction := some value }
  | .apiHost => { args with apiHost := some value }
  | .name => { args with name := value }
  | .note => { args with note := some value }
  | .attr => { args with attributes := args.attributes ++ [value] }
  | .help | .verbose | .version => args

def setText (args : Arguments) (o : CommandOption) (text : String) : Except Stop Arguments :=
  match readValue o text with
  | .ok value => .ok (setValue args o value)
  | .error cause => .error (.misuse cause)

/-- The flags that a word sets, and the option that it ends with if that takes a value, with
what the word holds of it. -/
structure Cluster where
  flags : List CommandOption
  last : Option (CommandOption × Option String)

/-- A flag with one dash may be followed by the letters of more options. -/
def cluster (o : CommandOption) : List Char → Except UsageError Cluster
  | [] => if o.takesValue then .ok ⟨[], some (o, none)⟩ else .ok ⟨[o], none⟩
  | c :: cs =>
    if o.takesValue then .ok ⟨[], some (o, some (String.ofList (c :: cs)))⟩
    else match CommandOption.ofLetter? c with
      | some next => (cluster next cs).map fun k => { k with flags := o :: k.flags }
      | none => .error (.unexpectedValue o (String.ofList (c :: cs)))

/-- What a word with an option asks for. Only a flag with one dash lets its value be letters of
other options. -/
def clusterOf (o : CommandOption) (isShort : Bool) (value : Option String) :
    Except UsageError Cluster :=
  match value with
  | none => cluster o []
  | some value =>
    if o.takesValue then .ok ⟨[], some (o, some value)⟩
    else if isShort ∧ value ≠ "" then cluster o value.toList
    else .error (.unexpectedValue o value)

/-! ## All words -/

/-- Takes the words one by one, with the unrecognized ones so far in order. -/
def take (args : Arguments) (extras : List String) :
    List (String × Word) → Except Stop (Arguments × List String)
  | [] => .ok (args, extras)
  | (word, kind) :: rest =>
    match kind with
    | .operand | .terminator | .unknown => take args (extras ++ [word]) rest
    | .option o isShort value =>
      match clusterOf o isShort value with
      | .error e => .error (.misuse e)
      | .ok ⟨flags, none⟩ =>
        match flags.foldlM setFlag args with
        | .error stop => .error stop
        | .ok args => take args extras rest
      | .ok ⟨flags, some (last, some value)⟩ =>
        match flags.foldlM setFlag args >>= (setText · last value) with
        | .error stop => .error stop
        | .ok args => take args extras rest
      | .ok ⟨flags, some (last, none)⟩ =>
        match rest with
        | (value, .operand) :: rest =>
          match flags.foldlM setFlag args >>= (setText · last value) with
          | .error stop => .error stop
          | .ok args => take args extras rest
        | _ => .error (.misuse (.missingValue last))

def parse (words : List String) : Except Stop Arguments :=
  match Word.classifyAll words with
  | .error (word, spellings) => .error (.misuse (.ambiguous word spellings))
  | .ok kinds =>
    match take {} [] kinds with
    | .error stop => .error stop
    | .ok (args, []) => .ok args
    | .ok (_, extras) => .error (.misuse (.unrecognized extras))

/-! ## Configuration -/

/-- The settings of the environment under the options that were given, checked. -/
def configuration (args : Arguments) (env : Environment) :
    Except ConfigurationError Configuration := do
  let base ← env.configuration
  Configuration.check {
    writekey := args.writekey.getD base.writekey
    dataset := args.dataset.getD base.dataset
    sampleFraction := args.sampleFraction.getD base.sampleFraction
    serviceName := args.serviceName.getD base.serviceName
    apiHost := args.apiHost.getD base.apiHost
    debug := if base.debug.isTruthy then base.debug else .bool args.verbose }

end Arguments

end SpanExport
