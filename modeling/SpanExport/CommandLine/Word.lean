import SpanExport.Attribute
import SpanExport.CommandLine.Option
import SpanExport.Text.DecimalDigit

/-!
# Words of the command line

Each word is an operand or an option, perhaps with a value in it. Long options may be
abbreviated as long as only one is meant. After the word `--` there are only operands.
-/

namespace SpanExport

inductive Word where
  | operand
  /-- The word `--`, which is no operand itself. -/
  | terminator
  /-- An option, whether it is spelled with one dash, and the value that the word holds. -/
  | option (o : CommandOption) (isShort : Bool) (value : Option String)
  | unknown
deriving DecidableEq

namespace Word

/-- A negative number of plain notation, with or without a point. -/
def isNegativeNumber (s : String) : Bool :=
  let cs := s.toList
  match if cs.getLast? = some '\n' then cs.dropLast else cs with
  | '-' :: rest =>
    let whole := rest.takeWhile fun c => (Text.digitValue? c).isSome
    match rest.drop whole.length with
    | [] => whole != []
    | '.' :: part => part != [] && part.all fun c => (Text.digitValue? c).isSome
    | _ => false
  | _ => false

def splitAtEquals? (s : String) : Option (String × String) :=
  (Attribute.splitAtEquals? s.toList).map fun (before, after) =>
    (String.ofList before, String.ofList after)

/-- The word is an option in full, or one in full before an equals sign. -/
def inFull? (s : String) : Option Word :=
  match CommandOption.ofSpelling? s with
  | some o => some (.option o (o.long ≠ s) none)
  | none =>
    match splitAtEquals? s with
    | none => none
    | some (spelling, value) =>
      (CommandOption.ofSpelling? spelling).map fun o => .option o (o.long ≠ spelling) (some value)

def longMatches (s : String) : List Word :=
  let (start, value) :=
    match splitAtEquals? s with
    | some (start, value) => (start, some value)
    | none => (s, none)
  (CommandOption.all.filter fun o => start.toList.isPrefixOf o.long.toList).map fun o =>
    .option o false value

/-- The option whose letter follows the single dash; the rest of the word is its value. -/
def shortMatches : List Char → List Word
  | c :: rest => (CommandOption.ofLetter? c).toList.map fun o => .option o true (some (String.ofList rest))
  | [] => []

def abbreviated (s : String) : List Word :=
  match s.toList with
  | '-' :: '-' :: _ => longMatches s
  | _ :: rest => shortMatches rest
  | [] => []

/-- The spelling by which an option is named among several matches. -/
def spelling : Word → String
  | .option o isShort _ => if isShort then o.short?.getD o.long else o.long
  | _ => ""

/-- A word before `--`. An abbreviation with several matches is refused with the spellings of
all of them. -/
def classify (s : String) : Except (List String) Word :=
  match s.toList with
  | '-' :: _ :: _ =>
    match inFull? s with
    | some w => .ok w
    | none =>
      match abbreviated s with
      | [w] => .ok w
      | w :: ws => .error ((w :: ws).map spelling)
      | [] =>
        if isNegativeNumber s ∨ s.toList.contains ' ' then .ok .operand else .ok .unknown
  | _ => .ok .operand

def classifyAll : List String → Except (String × List String) (List (String × Word))
  | [] => .ok []
  | s :: rest =>
    if s = "--" then .ok ((s, .terminator) :: rest.map (·, .operand))
    else match classify s with
      | .error spellings => .error (s, spellings)
      | .ok w => (classifyAll rest).map ((s, w) :: ·)

end Word

end SpanExport
