import TypeSlots.Text.Quoted

/-!
# Reading quoted octets

`unquote?` reads octets back from their quoted form. Nothing is lost in quoting
(`unquote?_quotedOctets`): an octet outside every character cannot be mistaken for a text that looks
like its form, because a backslash in a text is written twice.
-/

set_option autoImplicit false

namespace TypeSlots.Text

/-- The character that a letter after a backslash stands for. -/
def longhand? : Char → Option Char
  | '"' => some '"'
  | '\\' => some '\\'
  | 'n' => some '\n'
  | 'r' => some '\r'
  | 't' => some '\t'
  | '0' => some '\x00'
  | _ => none

/-- A piece in front of those that were read after it. -/
def before (p : Piece) (read : Option (List Piece × List Char)) :
    Option (List Piece × List Char) :=
  read.map fun r => (p :: r.1, r.2)

/-- Reads quoted forms up to the closing quote; the text after it is returned beside the pieces.
The state is the number that the digits so far have written, inside the braces of a code point. -/
def readForms : Option Nat → List Char → Option (List Piece × List Char)
  | _, [] => none
  | some n, c :: rest =>
    if c = '\x7d' then before (.char (Char.ofNat n)) (readForms none rest)
    else readForms (some (16 * n + hexValue c)) rest
  | none, '"' :: rest => some ([], rest)
  | none, '\\' :: 'u' :: '\x7b' :: rest => readForms (some 0) rest
  | none, '\\' :: 'x' :: high :: low :: rest =>
    before (.stray (UInt8.ofNat (16 * hexValue high + hexValue low))) (readForms none rest)
  | none, '\\' :: letter :: rest =>
    (longhand? letter).bind fun c => before (.char c) (readForms none rest)
  | none, c :: rest => before (.char c) (readForms none rest)

/-- The octets whose quoted form a text is. -/
def unquote? (s : String) : Option (List UInt8) :=
  match s.toList with
  | '"' :: forms =>
    match readForms none forms with
    | some (ps, []) => some (ps.flatMap Piece.octets)
    | _ => none
  | _ => none

/-- A letter stands for the character that it was written for. -/
theorem longhand?_of_shorthand? {c letter : Char} (h : shorthand? c = some letter) :
    longhand? letter = some c ∧ letter ≠ 'u' ∧ letter ≠ 'x' := by
  unfold shorthand? at h
  split at h <;> cases h <;> decide

/-- A quote and a backslash have a letter. -/
theorem ne_of_shorthand?_eq_none {c : Char} (h : shorthand? c = none) : c ≠ '"' ∧ c ≠ '\\' := by
  constructor <;> rintro rfl <;> cases h

/-- The digits of a number hold no brace. -/
theorem brace_notMem_toDigits (n : Nat) : '\x7d' ∉ Nat.toDigits 16 n := by
  induction n using Nat.strongRecOn with
  | ind n ih =>
    rw [Nat.toDigits_eq_if (by decide)]
    have hd : ∀ d < 16, '\x7d' ≠ Nat.digitChar d := by decide
    split
    · rename_i h
      simp [hd n h]
    · rw [List.mem_append, not_or]
      exact ⟨ih (n / 16) (by omega), by simp [hd _ (Nat.mod_lt n (by decide))]⟩

/-- The digits of a code point are read up to the closing brace. -/
theorem readForms_digits (n : Nat) (digits rest : List Char) (h : '\x7d' ∉ digits) :
    readForms (some n) (digits ++ '\x7d' :: rest) =
      before (.char (Char.ofNat (digits.foldl (fun n c => 16 * n + hexValue c) n)))
        (readForms none rest) := by
  induction digits generalizing n with
  | nil => simp [readForms]
  | cons d ds ih =>
    have hd : d ≠ '\x7d' := fun e => h (by simp [e])
    have hds : '\x7d' ∉ ds := fun e => h (by simp [e])
    simp [readForms, hd, ih _ hds]

/-- The form of a character is read as that character. -/
theorem readForms_quoteChar (c : Char) (rest : List Char) :
    readForms none (quoteChar c ++ rest) = before (.char c) (readForms none rest) := by
  unfold quoteChar
  split
  · rename_i letter h
    obtain ⟨hl, hu, hx⟩ := longhand?_of_shorthand? h
    simp [readForms, hl, hu, hx]
  · rename_i h
    obtain ⟨hq, hb⟩ := ne_of_shorthand?_eq_none h
    split
    · have hn := hexNumber_toDigits c.toNat
      rw [hexNumber] at hn
      simp [codeForm, readForms, readForms_digits 0 _ rest (brace_notMem_toDigits _), hn]
    · simp [readForms, hb]

/-- The form of a piece is read as that piece. -/
theorem readForms_quotePiece (p : Piece) (rest : List Char) :
    readForms none (quotePiece p ++ rest) = before p (readForms none rest) := by
  cases p with
  | char c => exact readForms_quoteChar c rest
  | stray b =>
    have hb := b.toNat_lt
    have hh := hexValue_upperDigit (show b.toNat / 16 < 16 by omega)
    have hl := hexValue_upperDigit (show b.toNat % 16 < 16 by omega)
    have hn : 16 * (b.toNat / 16) + b.toNat % 16 = b.toNat := by omega
    simp [quotePiece, quoteOctet, readForms, hh, hl, hn]

/-- The forms of pieces are read as those pieces. -/
theorem readForms_flatMap (ps : List Piece) (rest : List Char) :
    readForms none (ps.flatMap quotePiece ++ '"' :: rest) = some (ps, rest) := by
  induction ps with
  | nil => simp [readForms]
  | cons p ps ih =>
    rw [List.flatMap_cons, List.append_assoc, readForms_quotePiece, ih]
    rfl

/-- Octets are read back from their quoted form. -/
theorem unquote?_quotedOctets (bs : List UInt8) : unquote? (quotedOctets bs) = some bs := by
  have h := readForms_flatMap (pieces bs) []
  simp [unquote?, quotedOctets, enclose, h, flatMap_octets_pieces]

end TypeSlots.Text
