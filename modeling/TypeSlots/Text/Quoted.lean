import TypeSlots.Text.Hex
import TypeSlots.Text.Hidden
import TypeSlots.Text.Utf8

/-!
# Text in double quotes

The quoted form of a text puts it between double quotes and makes every character visible. A quote,
a backslash and four common controls are written as a backslash and a letter, any other hidden
character by its code point in lower-case hexadecimal between braces after `\u`, and all else as
itself. Octets that are not text have a quoted form too: an octet outside every character is `\x`
with two upper-case hexadecimal digits.
-/

set_option autoImplicit false

namespace TypeSlots.Text

/-- The letter that stands for a character after a backslash. -/
def shorthand? : Char → Option Char
  | '"' => some '"'
  | '\\' => some '\\'
  | '\n' => some 'n'
  | '\r' => some 'r'
  | '\t' => some 't'
  | '\x00' => some '0'
  | _ => none

/-- The form of a character that is written by its code point. -/
def codeForm (c : Char) : List Char :=
  '\\' :: 'u' :: '\x7b' :: Nat.toDigits 16 c.toNat ++ ['\x7d']

/-- The quoted form of one character. -/
def quoteChar (c : Char) : List Char :=
  match shorthand? c with
  | some letter => ['\\', letter]
  | none => if isHidden c then codeForm c else [c]

/-- The quoted form of an octet outside every character. -/
def quoteOctet (b : UInt8) : List Char :=
  ['\\', 'x', upperDigit (b.toNat / 16), upperDigit (b.toNat % 16)]

/-- The quoted form of a piece of an octet string. -/
def quotePiece : Piece → List Char
  | .char c => quoteChar c
  | .stray b => quoteOctet b

/-- A sequence of quoted forms between its quotes. -/
def enclose (forms : List Char) : String :=
  String.ofList ('"' :: forms ++ ['"'])

/-- The quoted form of a text. -/
def quoted (s : String) : String :=
  enclose (s.toList.flatMap quoteChar)

/-- The quoted form of an octet string. -/
def quotedOctets (bs : List UInt8) : String :=
  enclose ((pieces bs).flatMap quotePiece)

end TypeSlots.Text
