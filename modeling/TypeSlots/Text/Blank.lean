import TypeSlots.Text.CharClass

/-!
# Blank characters and trimming

`isBlank` is the White_Space property of characters: the ASCII blanks, next line, no-break space,
and the Unicode spaces and separators. Zero-width characters (U+200B, U+FEFF) and the Mongolian
vowel separator are not in it. `trim` takes blanks off both ends of a text and leaves those inside.
-/

set_option autoImplicit false

namespace TypeSlots.Text

/-- The characters with the White_Space property. -/
def whiteSpace : CharClass where
  ranges := [
    (0x0009, 0x000D), (0x0020, 0x0020), (0x0085, 0x0085), (0x00A0, 0x00A0), (0x1680, 0x1680),
    (0x2000, 0x200A), (0x2028, 0x2029), (0x202F, 0x202F), (0x205F, 0x205F), (0x3000, 0x3000)]

/-- Whether a character is blank. -/
def isBlank (c : Char) : Bool :=
  whiteSpace.contains c

/-- Text without the blanks at its start. -/
def trimStart (cs : List Char) : List Char :=
  cs.dropWhile isBlank

/-- Text without the blanks at its end. -/
def trimEnd (cs : List Char) : List Char :=
  (cs.reverse.dropWhile isBlank).reverse

/-- Text without the blanks at either end. -/
def trim (cs : List Char) : List Char :=
  trimEnd (trimStart cs)

/-- Control: the ends of the ranges, and three characters that look blank and are not. -/
example :
    (['\t', '\r', '\x20', '\u0085', '\u2000', '\u200A', '\u3000'].all isBlank) = true ∧
      (['\x1c', '\u180E', '\u200B', '\uFEFF'].any isBlank) = false := by
  decide

end TypeSlots.Text
