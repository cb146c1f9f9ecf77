import TypeSlots.Numeral

/-!
# Records as compact JSON

A record is a list of named cells, each empty, a number or a text. Its compact form is a JSON object
without blanks whose members keep the order of the cells. In a JSON string a quote, a backslash and
five controls are written as a backslash and a letter, the other controls below U+0020 as `\u` and
four lower-case hexadecimal digits, and all else as itself.
-/

set_option autoImplicit false

namespace TypeSlots.Text

/-- The content of one cell of a record. -/
inductive Cell where
  | null
  | number (n : Nat)
  | text (s : String)
  deriving DecidableEq

/-- Named cells, in the order in which they are written. -/
abbrev Record := List (String × Cell)

/-- The letter that stands for a character after a backslash in a JSON string. -/
def jsonShorthand? : Char → Option Char
  | '"' => some '"'
  | '\\' => some '\\'
  | '\x08' => some 'b'
  | '\x0c' => some 'f'
  | '\n' => some 'n'
  | '\r' => some 'r'
  | '\t' => some 't'
  | _ => none

/-- The form of one character in a JSON string. -/
def jsonChar (c : Char) : List Char :=
  match jsonShorthand? c with
  | some letter => ['\\', letter]
  | none =>
    if c.toNat < 0x20 then
      ['\\', 'u', '0', '0', Nat.digitChar (c.toNat / 16), Nat.digitChar (c.toNat % 16)]
    else [c]

/-- A JSON string. -/
def jsonString (s : String) : List Char :=
  '"' :: (s.toList.flatMap jsonChar ++ ['"'])

/-- The compact form of a cell. -/
def Cell.compact : Cell → List Char
  | null => ['n', 'u', 'l', 'l']
  | number n => Numeral.decimal n
  | text s => jsonString s

namespace Record

/-- The compact form of one member. -/
def member (m : String × Cell) : List Char :=
  jsonString m.1 ++ ':' :: m.2.compact

/-- The compact forms of members, separated by commas. -/
def members : Record → List Char
  | [] => []
  | [m] => member m
  | m :: n :: ms => member m ++ ',' :: members (n :: ms)

/-- The compact form of a record. -/
def compact (r : Record) : String :=
  String.ofList ('\x7b' :: (members r ++ ['\x7d']))

end Record

end TypeSlots.Text
