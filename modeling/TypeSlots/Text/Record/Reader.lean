import TypeSlots.Text.Hex
import TypeSlots.Text.Record

/-!
# Reading compact records

`Record.read?` reads a record back from its compact form. It accepts every compact form and gives
the record that was written (`read?_compact`), so no two records share a text (`compact_inj`).
-/

set_option autoImplicit false

namespace TypeSlots.Text

/-! ## Reading -/

/-- The character that a letter after a backslash stands for in a JSON string. -/
def jsonLonghand? : Char → Option Char
  | '"' => some '"'
  | '\\' => some '\\'
  | 'b' => some '\x08'
  | 'f' => some '\x0c'
  | 'n' => some '\n'
  | 'r' => some '\r'
  | 't' => some '\t'
  | _ => none

/-- Reads a JSON string after its opening quote; the text after the closing quote is returned beside
the characters. -/
def readString : List Char → Option (List Char × List Char)
  | [] => none
  | '"' :: rest => some ([], rest)
  | '\\' :: 'u' :: a :: b :: c :: d :: rest =>
    (readString rest).map fun r => (Char.ofNat (hexNumber [a, b, c, d]) :: r.1, r.2)
  | '\\' :: letter :: rest =>
    (jsonLonghand? letter).bind fun c => (readString rest).map fun r => (c :: r.1, r.2)
  | c :: rest => (readString rest).map fun r => (c :: r.1, r.2)

/-- Reads the content of a cell; the text after it is returned beside it. -/
def Cell.read (cs : List Char) : Option (Cell × List Char) :=
  match cs.takeWhile Char.isDigit with
  | [] =>
    match cs with
    | '"' :: rest => (readString rest).map fun r => (.text (String.ofList r.1), r.2)
    | 'n' :: 'u' :: 'l' :: 'l' :: rest => some (.null, rest)
    | _ => none
  | digits => some (.number (Nat.ofDigitChars 10 digits 0), cs.dropWhile Char.isDigit)

namespace Record

/-- Reads a name with its cell; the text after them is returned beside them. -/
def readMember : List Char → Option ((String × Cell) × List Char)
  | '"' :: rest =>
    (readString rest).bind fun (name, rest) =>
      match rest with
      | ':' :: rest => (Cell.read rest).map fun r => ((String.ofList name, r.1), r.2)
      | _ => none
  | _ => none

/-- Reads one or more members, but not more than a limit, up to the closing brace. -/
def readMembers : Nat → List Char → Option (Record × List Char)
  | 0, _ => none
  | limit + 1, cs =>
    (readMember cs).bind fun (m, rest) =>
      match rest with
      | ',' :: rest => (readMembers limit rest).map fun r => (m :: r.1, r.2)
      | '\x7d' :: rest => some ([m], rest)
      | _ => none

/-- The record whose compact form a text is. It has fewer members than the text has characters. -/
def read? (s : String) : Option Record :=
  match s.toList with
  | ['\x7b', '\x7d'] => some []
  | '\x7b' :: rest =>
    match readMembers rest.length rest with
    | some (r, []) => some r
    | _ => none
  | _ => none

end Record

/-! ## Reading what is written -/

/-- A letter stands for the character that it was written for. -/
theorem jsonLonghand?_of_jsonShorthand? {c letter : Char} (h : jsonShorthand? c = some letter) :
    jsonLonghand? letter = some c ∧ letter ≠ 'u' := by
  unfold jsonShorthand? at h
  split at h <;> cases h <;> decide

/-- A quote and a backslash have a letter in a JSON string. -/
theorem ne_of_jsonShorthand?_eq_none {c : Char} (h : jsonShorthand? c = none) :
    c ≠ '"' ∧ c ≠ '\\' := by
  constructor <;> rintro rfl <;> cases h

/-- The form of a character is read as that character. -/
theorem readString_jsonChar (c : Char) (rest : List Char) :
    readString (jsonChar c ++ rest) = (readString rest).map fun r => (c :: r.1, r.2) := by
  unfold jsonChar
  split
  · rename_i letter h
    obtain ⟨hl, hu⟩ := jsonLonghand?_of_jsonShorthand? h
    simp [readString, hl, hu]
  · rename_i h
    obtain ⟨hq, hb⟩ := ne_of_jsonShorthand?_eq_none h
    split
    · have hh := hexValue_digitChar (show c.toNat / 16 < 16 by omega)
      have hl := hexValue_digitChar (show c.toNat % 16 < 16 by omega)
      have hn : 16 * (c.toNat / 16) + c.toNat % 16 = c.toNat := by omega
      have hz : hexValue '0' = 0 := by decide
      simp [readString, hexNumber, hh, hl, hn, hz]
    · simp [readString, hb]

/-- A text is read back from its JSON string. -/
theorem readString_flatMap (cs rest : List Char) :
    readString (cs.flatMap jsonChar ++ '"' :: rest) = some (cs, rest) := by
  induction cs with
  | nil => simp [readString]
  | cons c cs ih => rw [List.flatMap_cons, List.append_assoc, readString_jsonChar, ih]; rfl

/-- The digits of a number are taken as a whole, if no digit follows them. -/
theorem takeWhile_decimal (n : Nat) (rest : List Char) (h : ∀ c ∈ rest.head?, c.isDigit = false) :
    (Numeral.decimal n ++ rest).takeWhile Char.isDigit = Numeral.decimal n ∧
      (Numeral.decimal n ++ rest).dropWhile Char.isDigit = rest := by
  have hd : ∀ c ∈ Numeral.decimal n, c.isDigit = true := fun c hc =>
    Nat.isDigit_of_mem_toDigits (by decide) (by decide) hc
  rw [List.takeWhile_append_of_pos hd, List.dropWhile_append_of_pos hd]
  cases rest with
  | nil => simp
  | cons c cs =>
    have hc : c.isDigit = false := h c rfl
    simp [hc]

/-- A cell is read back from its compact form, if no digit follows it. -/
theorem Cell.read_compact (cell : Cell) (rest : List Char)
    (h : ∀ c ∈ rest.head?, c.isDigit = false) :
    Cell.read (cell.compact ++ rest) = some (cell, rest) := by
  cases cell with
  | null => rfl
  | text s => simp [compact, jsonString, read, readString_flatMap]
  | number n =>
    obtain ⟨ht, hd⟩ := takeWhile_decimal n rest h
    obtain ⟨c, cs, hc⟩ := List.exists_cons_of_ne_nil (Nat.toDigits_ne_nil (b := 10) (n := n))
    have hn : Nat.ofDigitChars 10 (c :: cs) 0 = n := hc ▸ Nat.ofDigitChars_ten_toDigits
    simp only [compact, read, ht, hd]
    simp only [Numeral.decimal, hc, hn]

namespace Record

/-- A member is read back from its compact form, if no digit follows it. -/
theorem readMember_member (m : String × Cell) (rest : List Char)
    (h : ∀ c ∈ rest.head?, c.isDigit = false) :
    readMember (member m ++ rest) = some (m, rest) := by
  simp [member, jsonString, readMember, readString_flatMap, Cell.read_compact m.2 rest h]

/-- Members are read back from their compact forms. -/
theorem readMembers_members (m : String × Cell) (ms : Record) (limit : Nat)
    (h : ms.length < limit) :
    readMembers limit (members (m :: ms) ++ ['\x7d']) = some (m :: ms, []) := by
  induction ms generalizing m limit with
  | nil =>
    cases limit with
    | zero => exact absurd h (Nat.not_lt_zero _)
    | succ limit =>
      rw [readMembers, members, readMember_member m _ (by simp)]
      rfl
  | cons n ns ih =>
    cases limit with
    | zero => exact absurd h (Nat.not_lt_zero _)
    | succ limit =>
      have hl : ns.length < limit := Nat.lt_of_succ_lt_succ h
      rw [readMembers, members, List.append_assoc, List.cons_append,
        readMember_member m _ (by simp)]
      simp [ih n limit hl]

/-- There are no more members than characters in their compact forms. -/
theorem length_le_length_members (r : Record) : r.length ≤ (members r).length := by
  induction r with
  | nil => simp
  | cons m ms ih =>
    cases ms with
    | nil => simp [members, member, jsonString]
    | cons n ns =>
      simp only [members, List.length_cons, List.length_append] at ih ⊢
      omega

/-- A record is read back from its compact form. -/
theorem read?_compact (r : Record) : read? (compact r) = some r := by
  cases r with
  | nil => rfl
  | cons m ms =>
    obtain ⟨cs, hcs⟩ : ∃ cs, members (m :: ms) = '"' :: cs := by
      cases ms <;> exact ⟨_, rfl⟩
    have hl := length_le_length_members (m :: ms)
    rw [hcs, List.length_cons, List.length_cons] at hl
    have hr := readMembers_members m ms (cs.length + 1 + 1) (by omega)
    rw [hcs, List.cons_append] at hr
    simp [read?, compact, hcs, hr]

/-- Two records with the same compact form are the same. -/
theorem compact_inj {r s : Record} : compact r = compact s ↔ r = s := by
  refine ⟨fun h => ?_, fun h => h ▸ rfl⟩
  have := read?_compact r
  rw [h, read?_compact s] at this
  exact (Option.some.inj this).symm

end Record

end TypeSlots.Text
