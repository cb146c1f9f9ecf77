import TypeSlots.Numeral
import Mathlib.Data.List.TakeWhile

/-!
# What a numeral of one octet is

`Denotes` is the grammar of numerals with their exact values, without any limit, and `Misread`
says which defect a text has, by the longest run of digits at its start. Reading gives a value
exactly when the grammar gives it and it is an octet (`readOctet_eq_ok_iff`), and a defect exactly
when the text has it (`readOctet_eq_error_iff`). Both follow from one description of the digit loop
(`accumulate_eq`): the loop stops early only where the value of the whole run is too large anyway.
-/

set_option autoImplicit false

namespace TypeSlots.Numeral

/-- A text is a numeral with a value: one plus sign at most, and one or more ASCII digits. -/
inductive Denotes : List Char → Nat → Prop
  | plain {digits : List Char} :
    digits ≠ [] → (∀ c ∈ digits, c.isDigit = true) → Denotes digits (Nat.ofDigitChars 10 digits 0)
  | signed {digits : List Char} :
    digits ≠ [] → (∀ c ∈ digits, c.isDigit = true) →
      Denotes ('+' :: digits) (Nat.ofDigitChars 10 digits 0)

/-- A text is a numeral whose value fits one octet. -/
def IsOctet (cs : List Char) : Prop :=
  ∃ n, n ≤ 255 ∧ Denotes cs n

/-- The longest run of digits at the start of a text, after a plus sign that something follows. -/
def leadingRun (cs : List Char) : List Char :=
  (unsigned cs).takeWhile Char.isDigit

/-- The defect of a text that is no numeral of one octet. -/
inductive Misread : List Char → Defect → Prop
  | empty : Misread [] .empty
  | tooLarge {cs : List Char} :
    cs ≠ [] → 255 < Nat.ofDigitChars 10 (leadingRun cs) 0 → Misread cs .tooLarge
  | invalidDigit {cs : List Char} :
    cs ≠ [] → Nat.ofDigitChars 10 (leadingRun cs) 0 ≤ 255 → ¬ IsOctet cs →
      Misread cs .invalidDigit

/-! ## The digit loop -/

theorem digit?_of_isDigit {c : Char} (h : c.isDigit = true) :
    digit? c = some (c.toNat - '0'.toNat) := by
  simp [digit?, h]

theorem digit?_of_not_isDigit {c : Char} (h : ¬ c.isDigit = true) : digit? c = none := by
  simp [digit?, h]

/-- More digits never make a value smaller. -/
theorem le_ofDigitChars (cs : List Char) (value : Nat) : value ≤ Nat.ofDigitChars 10 cs value := by
  rw [Nat.ofDigitChars_eq_ofDigitChars_zero]
  have hpos : 0 < 10 ^ cs.length := Nat.pow_pos (by decide)
  have hmul : value ≤ 10 ^ cs.length * value := Nat.le_mul_of_pos_left value hpos
  omega

/-- The digit loop by the longest run. The value of the run decides whether the text is too
large, and only then does it matter whether anything follows the run. -/
theorem accumulate_eq (limit value : Nat) (cs : List Char) (hv : value ≤ limit) :
    accumulate limit value cs =
      if limit < Nat.ofDigitChars 10 (cs.takeWhile Char.isDigit) value then .error .tooLarge
      else if cs.all Char.isDigit then .ok (Nat.ofDigitChars 10 cs value)
      else .error .invalidDigit := by
  -- By induction on the text, for every value within the limit that was read before it.
  induction cs generalizing value with
  | nil =>
    have hn : ¬ limit < value := by omega
    simp [accumulate, hn]
  | cons c rest ih =>
    by_cases hd : c.isDigit = true
    · rw [accumulate, digit?_of_isDigit hd, List.takeWhile_cons_of_pos hd, Nat.ofDigitChars_cons,
        Nat.ofDigitChars_cons]
      simp only [List.all_cons, hd, Bool.true_and]
      by_cases hle : 10 * value + (c.toNat - '0'.toNat) ≤ limit
      · rw [if_pos hle, ih _ hle]
      · -- The run goes on, but its value has passed the limit already.
        have hrun := le_ofDigitChars (rest.takeWhile Char.isDigit)
          (10 * value + (c.toNat - '0'.toNat))
        rw [if_neg hle, if_pos (by omega)]
    · have hn : ¬ limit < value := by omega
      rw [accumulate, digit?_of_not_isDigit hd, List.takeWhile_cons_of_neg hd]
      simp [hd, hn]

/-! ## Numerals -/

/-- A numeral is what its digits are, and the digits are what is left of it without the sign. -/
theorem denotes_iff (cs : List Char) (n : Nat) :
    Denotes cs n ↔
      cs ≠ [] ∧ (unsigned cs).all Char.isDigit = true ∧
        Nat.ofDigitChars 10 (unsigned cs) 0 = n := by
  constructor
  · rintro (⟨hne, hall⟩ | ⟨hne, hall⟩)
    · have hu : unsigned cs = cs := by
        rw [unsigned.eq_def]
        split
        · have := hall '+' (by simp)
          simp at this
        · rfl
      exact ⟨hne, by rw [hu]; simpa using hall, by rw [hu]⟩
    · obtain ⟨d, ds, rfl⟩ := List.exists_cons_of_ne_nil hne
      exact ⟨by simp, by simpa [unsigned] using hall, rfl⟩
  · rintro ⟨hne, hall, rfl⟩
    rw [unsigned.eq_def] at hall ⊢
    split at hall
    · exact .signed (by simp) (by simpa using hall)
    · exact .plain hne (by simpa using hall)

theorem Denotes.ne_nil {cs : List Char} {n : Nat} (h : Denotes cs n) : cs ≠ [] :=
  ((denotes_iff cs n).1 h).1

/-- A numeral has one value. -/
theorem Denotes.unique {cs : List Char} {m n : Nat} (hm : Denotes cs m) (hn : Denotes cs n) :
    m = n := by
  obtain ⟨-, -, rfl⟩ := (denotes_iff cs m).1 hm
  obtain ⟨-, -, rfl⟩ := (denotes_iff cs n).1 hn
  rfl

/-- In a numeral the longest run is the whole text without its sign. -/
theorem leadingRun_eq_unsigned {cs : List Char} (h : (unsigned cs).all Char.isDigit = true) :
    leadingRun cs = unsigned cs :=
  List.takeWhile_eq_self_iff.2 (by simpa using h)

/-- A text is a numeral of one octet when it is made of digits and its longest run fits. -/
theorem isOctet_iff (cs : List Char) :
    IsOctet cs ↔
      cs ≠ [] ∧ (unsigned cs).all Char.isDigit = true ∧
        Nat.ofDigitChars 10 (leadingRun cs) 0 ≤ 255 := by
  constructor
  · rintro ⟨n, hle, hn⟩
    obtain ⟨hne, hall, rfl⟩ := (denotes_iff cs n).1 hn
    rw [leadingRun_eq_unsigned hall]
    exact ⟨hne, hall, hle⟩
  · rintro ⟨hne, hall, hle⟩
    rw [leadingRun_eq_unsigned hall] at hle
    exact ⟨_, hle, (denotes_iff cs _).2 ⟨hne, hall, rfl⟩⟩

/-! ## Reading -/

theorem readOctet_nil : readOctet [] = .error .empty := rfl

/-- What is read from a text that is not empty. -/
theorem readOctet_of_ne_nil {cs : List Char} (h : cs ≠ []) :
    readOctet cs =
      if 255 < Nat.ofDigitChars 10 (leadingRun cs) 0 then .error .tooLarge
      else if (unsigned cs).all Char.isDigit then
        .ok (UInt8.ofNat (Nat.ofDigitChars 10 (unsigned cs) 0))
      else .error .invalidDigit := by
  obtain ⟨c, rest, rfl⟩ := List.exists_cons_of_ne_nil h
  rw [readOctet, read, accumulate_eq 255 0 _ (Nat.zero_le _), leadingRun]
  split
  · rfl
  · split <;> rfl

/-- Reading gives a value exactly when the text is a numeral with that value. -/
theorem readOctet_eq_ok_iff (cs : List Char) (b : UInt8) :
    readOctet cs = .ok b ↔ Denotes cs b.toNat := by
  rw [denotes_iff]
  by_cases hne : cs = []
  · subst hne
    simp [readOctet_nil]
  · rw [readOctet_of_ne_nil hne]
    by_cases hall : (unsigned cs).all Char.isDigit = true
    · rw [leadingRun_eq_unsigned hall, if_pos hall]
      constructor
      · intro h
        split at h
        · cases h
        · rename_i hle
          cases h
          refine ⟨hne, hall, ?_⟩
          rw [UInt8.toNat_ofNat_of_lt' (Nat.lt_succ_of_le (Nat.le_of_not_lt hle))]
      · rintro ⟨-, -, hval⟩
        have hlt := b.toNat_lt
        rw [hval, if_neg (by omega), UInt8.ofNat_toNat]
    · rw [if_neg hall]
      constructor
      · intro h
        split at h <;> cases h
      · rintro ⟨-, h, -⟩
        exact absurd h hall

/-- Reading fails exactly with the defect of the text. -/
theorem readOctet_eq_error_iff (cs : List Char) (d : Defect) :
    readOctet cs = .error d ↔ Misread cs d := by
  by_cases hne : cs = []
  · subst hne
    rw [readOctet_nil]
    constructor
    · rintro ⟨⟩
      exact .empty
    · rintro (_ | ⟨h, -⟩ | ⟨h, -⟩)
      · rfl
      · exact absurd rfl h
      · exact absurd rfl h
  · rw [readOctet_of_ne_nil hne]
    constructor
    · intro h
      split at h
      · rename_i hbig
        cases h
        exact .tooLarge hne hbig
      · rename_i hfits
        split at h
        · cases h
        · rename_i hall
          cases h
          exact .invalidDigit hne (by omega) fun ho => hall ((isOctet_iff cs).1 ho).2.1
    · rintro (_ | ⟨-, hbig⟩ | ⟨-, hfits, hno⟩)
      · exact absurd rfl hne
      · rw [if_pos hbig]
      · rw [if_neg (by omega), if_neg fun hall => hno ((isOctet_iff cs).2 ⟨hne, hall, hfits⟩)]

/-- A numeral of one octet has an octet for its value. -/
theorem isOctet_iff_exists_denotes (cs : List Char) :
    IsOctet cs ↔ ∃ b : UInt8, Denotes cs b.toNat := by
  constructor
  · rintro ⟨n, hle, hn⟩
    refine ⟨UInt8.ofNat n, ?_⟩
    rwa [UInt8.toNat_ofNat_of_lt' (Nat.lt_succ_of_le hle)]
  · rintro ⟨b, hb⟩
    exact ⟨b.toNat, Nat.le_of_lt_succ b.toNat_lt, hb⟩

/-- A text that is no numeral of one octet has a defect, and no other text has one. -/
theorem exists_misread_iff (cs : List Char) : (∃ d, Misread cs d) ↔ ¬ IsOctet cs := by
  rw [isOctet_iff_exists_denotes]
  simp only [← readOctet_eq_ok_iff, ← readOctet_eq_error_iff]
  cases readOctet cs with
  | ok b => simp
  | error d => simp

/-- Control: what decides between the two defects is the run, not the length of the text. -/
example :
    readOctet "256x".toList = .error .tooLarge ∧ readOctet "25x6".toList = .error .invalidDigit ∧
      readOctet "+000255".toList = .ok 255 := by
  decide

end TypeSlots.Numeral
