import SpanExport.Text.CodePoints

/-!
# Blanks

What may stand around a numeral, and what trimming a text removes. The second set has the four
information separators besides.
-/

namespace SpanExport.Text

def blankRanges : List (Nat × Nat) :=
  [(0x09, 0x0D), (0x20, 0x20), (0x85, 0x85), (0xA0, 0xA0), (0x1680, 0x1680), (0x2000, 0x200A),
    (0x2028, 0x2029), (0x202F, 0x202F), (0x205F, 0x205F), (0x3000, 0x3000)]

/-- A blank around a numeral. -/
def isBlank (c : Char) : Bool := inRanges blankRanges c

/-- A blank or one of the separators U+001C to U+001F. -/
def isSpace (c : Char) : Bool := isBlank c || inRanges [(0x1C, 0x1F)] c

/-- The items without those at both ends that satisfy `p`. -/
def trimBy {α : Type} (p : α → Bool) (items : List α) : List α :=
  ((items.dropWhile p).reverse.dropWhile p).reverse

/-- The text without the spaces at its ends. -/
def trimmed (s : String) : String := String.ofList (trimBy isSpace s.toList)

/-- The bytes without the ASCII blanks at their ends. -/
def trimmedBytes (data : List UInt8) : List UInt8 :=
  trimBy (fun b => b == 0x20 || (0x09 ≤ b && b ≤ 0x0D)) data

end SpanExport.Text
