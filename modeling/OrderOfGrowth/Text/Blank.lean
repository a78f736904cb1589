import OrderOfGrowth.Text.Basic
import OrderOfGrowth.Text.CodeRanges

/-! # Blanks — the characters of property White_Space, and trimming

    A blank is a character with the Unicode property White_Space: the ASCII blanks, U+0085, the
    no-break and typographic spaces and the two separators, but not the zero-width characters. -/

namespace OrderOfGrowth

/-- The code points with the property White_Space. -/
def blankRanges : CodeRanges :=
  [(0x9, 0xD), (0x20, 0x20), (0x85, 0x85), (0xA0, 0xA0), (0x1680, 0x1680), (0x2000, 0x200A),
   (0x2028, 0x2029), (0x202F, 0x202F), (0x205F, 0x205F), (0x3000, 0x3000)]

/-- Has the character the property White_Space? -/
def isBlank (c : Char) : Bool := blankRanges.has c.toNat

namespace Text

/-- The text without its leading blanks. -/
def trimStart (t : Text) : Text := t.dropWhile isBlank

/-- The text without its trailing blanks. -/
def trimEnd (t : Text) : Text := (t.reverse.dropWhile isBlank).reverse

/-- The text without blanks at either end. -/
def trim (t : Text) : Text := t.trimStart.trimEnd

end Text

end OrderOfGrowth
