/-!
# Reading UTF-8

Bytes become characters one byte at a time. A sequence that breaks off becomes one
replacement character, and the byte that broke it is read anew.
-/

namespace SpanExport.Utf8

/-- A sequence not yet complete: the bits so far, the bounds of the next byte, and how many
bytes follow that one. -/
structure Pending where
  bits : Nat
  low : Nat
  high : Nat
  more : Nat

def replacement : Char := '\uFFFD'

/-- The first byte of a sequence of two, three or four. Its successor is bounded more narrowly
where the sequence would be longer than needed, a surrogate, or beyond the last code point. -/
def lead? (b : Nat) : Option Pending :=
  if b < 0xC2 then none
  else if b < 0xE0 then some ⟨b - 0xC0, 0x80, 0xBF, 0⟩
  else if b = 0xE0 then some ⟨0x0, 0xA0, 0xBF, 1⟩
  else if b = 0xED then some ⟨0xD, 0x80, 0x9F, 1⟩
  else if b < 0xF0 then some ⟨b - 0xE0, 0x80, 0xBF, 1⟩
  else if b = 0xF0 then some ⟨0, 0x90, 0xBF, 2⟩
  else if b < 0xF4 then some ⟨b - 0xF0, 0x80, 0xBF, 2⟩
  else if b = 0xF4 then some ⟨4, 0x80, 0x8F, 2⟩
  else none

def start (b : Nat) : List Char × Option Pending :=
  if b < 0x80 then ([Char.ofNat b], none)
  else match lead? b with
    | some p => ([], some p)
    | none => ([replacement], none)

def continueWith (p : Pending) (b : Nat) : List Char × Option Pending :=
  if p.low ≤ b ∧ b ≤ p.high then
    let bits := p.bits * 0x40 + (b - 0x80)
    match p.more with
    | 0 => ([Char.ofNat bits], none)
    | more + 1 => ([], some ⟨bits, 0x80, 0xBF, more⟩)
  else
    (replacement :: (start b).1, (start b).2)

def feed (pending : Option Pending) (b : Nat) : List Char × Option Pending :=
  match pending with
  | none => start b
  | some p => continueWith p b

def decodeFrom (pending : Option Pending) : List UInt8 → List Char
  | [] => if pending.isSome then [replacement] else []
  | b :: bs => (feed pending b.toNat).1 ++ decodeFrom (feed pending b.toNat).2 bs

/-- The text of bytes, each part that is no UTF-8 replaced. -/
def decode (bytes : List UInt8) : String := String.ofList (decodeFrom none bytes)

end SpanExport.Utf8
