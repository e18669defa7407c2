import SpanExport.Text.Blank
import SpanExport.Value.Basic

/-!
# Write keys

A write key says who writes. A key of the older kind takes any dataset as it is. Under every
other key a dataset has no spaces around it, and there is a name for the one that was left empty.

These are the rules by which `libhoney` makes a client, with the errors of those it does not make.
-/

namespace SpanExport

/-- Why a key and a dataset make no target. -/
inductive TargetError where
  | dataset (kind : String)
  | key (kind : String)
  /-- Only a key that is a text can be matched. -/
  | keyOfBytes
deriving DecidableEq

namespace TargetError

def message : TargetError → String
  | .dataset kind => "'" ++ kind ++ "' object has no attribute 'strip'"
  | .key kind => "expected string or bytes-like object, got '" ++ kind ++ "'"
  | .keyOfBytes => "cannot use a string pattern on a bytes-like object"

end TargetError

namespace WriteKey

/-! ## Keys of the older kind -/

def isLowerHex (c : Char) : Bool := c.isDigit || ('a' ≤ c && c ≤ 'f')

def isLowerAlphanumeric (c : Char) : Bool := c.isDigit || c.isLower

def withoutLineEnd (cs : List Char) : List Char :=
  if cs.getLast? = some '\n' then cs.dropLast else cs

def isClassicChars (cs : List Char) : Bool :=
  (cs.length == 32 && cs.all isLowerHex) ||
    match cs with
    | 'h' :: 'c' :: c :: 'i' :: 'c' :: '_' :: rest =>
      c.isLower && rest.length == 58 && rest.all isLowerAlphanumeric
    | _ => false

/-- Keys of the older kind: none at all, 32 hexadecimal digits, or 58 letters and digits after
`hc`, a letter and `ic_`. A line feed after the digits does not count. -/
def isClassic (key : Value) : Except TargetError Bool :=
  if !key.isTruthy then .ok true
  else match key with
    | .text s => .ok (isClassicChars (withoutLineEnd s.toList))
    | .bytes _ | .buffer _ | .view _ => .error .keyOfBytes
    | v => .error (.key v.kind)

/-! ## Datasets -/

/-- What the trimming makes of something, if that is something else. -/
def changed? {α : Type} [DecidableEq α] (trim : α → α) (a : α) : Option α :=
  if trim a = a then none else some (trim a)

/-- The dataset without the spaces around it, if there are any. -/
def trimmed? : Value → Except TargetError (Option Value)
  | .text s => .ok (.text <$> changed? Text.trimmed s)
  | .bytes data => .ok (.bytes <$> changed? Text.trimmedBytes data)
  | .buffer data => .ok (.buffer <$> changed? Text.trimmedBytes data)
  | v => .error (.dataset v.kind)

/-- What a dataset becomes under a newer key, if it does not stay as it is. -/
def correction? (dataset : Value) : Except TargetError (Option Value) := do
  let trimmed ← trimmed? dataset
  return if dataset.isTruthy then trimmed else some (.text "unknown_dataset")

/-- The dataset that is written to under a key. Where there is nothing to correct, any key will
do, even one that cannot be matched. -/
def dataset (key dataset : Value) : Except TargetError Value := do
  match ← correction? dataset with
  | none => return dataset
  | some corrected => return if ← isClassic key then dataset else corrected

end WriteKey

end SpanExport
