import TypeSlots.Proofs.Numeral.Grammar
import Mathlib.Data.List.Basic
import Mathlib.Data.List.Induction

/-!
# Canonical numerals

A numeral is canonical if it has no sign and no zero that does not count. Of all the numerals with a
value exactly one is canonical, and it is the one that `decimal` writes (`canonical_denotes_iff`).
So a canonical numeral is found again from its value.
-/

set_option autoImplicit false

namespace TypeSlots.Numeral

/-- A text is digits only, and starts with a zero only where it is that zero. -/
structure Canonical (cs : List Char) : Prop where
  ne_nil : cs ≠ []
  isDigit : ∀ c ∈ cs, c.isDigit = true
  leading : cs.head? = some '0' → cs = ['0']

/-- A canonical text is a numeral without a sign. -/
theorem Canonical.denotes {cs : List Char} (h : Canonical cs) :
    Denotes cs (Nat.ofDigitChars 10 cs 0) :=
  .plain h.ne_nil h.isDigit

/-! ## The digits of a number -/

theorem decimal_ne_nil (n : Nat) : decimal n ≠ [] :=
  Nat.toDigits_ne_nil

theorem decimal_zero : decimal 0 = ['0'] :=
  Nat.toDigits_zero 10

theorem decimal_of_lt_ten {d : Nat} (h : d < 10) : decimal d = [d.digitChar] :=
  Nat.toDigits_of_lt_base h

/-- The last digit of a number comes after the digits of the rest, unless the rest is zero. -/
theorem decimal_snoc {n d : Nat} (hn : 0 < n) (hd : d < 10) :
    decimal (10 * n + d) = decimal n ++ [d.digitChar] := by
  rw [decimal, ← Nat.toDigits_append_toDigits (by decide) hn hd, Nat.toDigits_of_lt_base hd,
    decimal]

/-- Only zero is written with a zero in front. -/
theorem head?_decimal_ne_zero {n : Nat} (h : 0 < n) : (decimal n).head? ≠ some '0' := by
  induction n using Nat.base_induction 10 (by decide) with
  | single d hd =>
    intro hhead
    rw [decimal_of_lt_ten hd, List.head?_cons, Option.some.injEq, Nat.digitChar_eq_zero] at hhead
    omega
  | digit n d hd hn ih =>
    rw [decimal_snoc hn hd, List.head?_append_of_ne_nil _ (decimal_ne_nil n)]
    exact ih hn

/-- What is written for a number is canonical. -/
theorem canonical_decimal (n : Nat) : Canonical (decimal n) where
  ne_nil := decimal_ne_nil n
  isDigit _ hc := Nat.isDigit_of_mem_toDigits (by decide) (by decide) hc
  leading hhead := by
    rcases Nat.eq_zero_or_pos n with rfl | hn
    · exact decimal_zero
    · exact absurd hhead (head?_decimal_ne_zero hn)

/-! ## The number of the digits -/

/-- A digit is the one that is written for its value. -/
theorem exists_digitChar_eq {c : Char} (h : c.isDigit = true) :
    ∃ d, d < 10 ∧ d.digitChar = c ∧ c.toNat - '0'.toNat = d := by
  have hrange : 48 ≤ c.toNat ∧ c.toNat ≤ 57 := Char.isDigit_iff_toNat.1 h
  have hlt : c.toNat - '0'.toNat < 10 := by
    show c.toNat - 48 < 10
    omega
  refine ⟨c.toNat - '0'.toNat, hlt, ?_, rfl⟩
  apply Char.toNat_inj.1
  rw [Nat.toNat_digitChar_of_lt_ten hlt]
  show 48 + (c.toNat - 48) = c.toNat
  omega

/-- The digits before the last one of a canonical text are canonical, if there are any. -/
theorem Canonical.of_append {cs rest : List Char} (h : Canonical (cs ++ rest)) (hcs : cs ≠ []) :
    Canonical cs where
  ne_nil := hcs
  isDigit c hc := h.isDigit c (List.mem_append_left rest hc)
  leading hhead := by
    -- With a zero in front the whole text is that zero, and so is what comes first in it.
    have hwhole : cs ++ rest = ['0'] := h.leading (by rw [List.head?_append_of_ne_nil _ hcs, hhead])
    rcases List.append_eq_singleton_iff.1 hwhole with ⟨rfl, -⟩ | ⟨hzero, -⟩
    · exact absurd rfl hcs
    · exact hzero

/-- A canonical text is what is written for its value. -/
theorem Canonical.decimal_eq {cs : List Char} (h : Canonical cs) :
    decimal (Nat.ofDigitChars 10 cs 0) = cs := by
  induction cs using List.reverseRecOn with
  | nil => exact absurd rfl h.ne_nil
  | append_singleton front c ih =>
    obtain ⟨d, hd, rfl, hvalue⟩ := exists_digitChar_eq (h.isDigit c (by simp))
    rw [Nat.ofDigitChars_append, Nat.ofDigitChars_cons, Nat.ofDigitChars_nil, hvalue]
    by_cases hfront : front = []
    · subst hfront
      rw [Nat.ofDigitChars_nil, Nat.mul_zero, Nat.zero_add, decimal_of_lt_ten hd]
      rfl
    · have hcanonical : Canonical front := h.of_append hfront
      have hdecimal := ih hcanonical
      rcases Nat.eq_zero_or_pos (Nat.ofDigitChars 10 front 0) with hzero | hpos
      · rw [hzero, decimal_zero] at hdecimal
        subst hdecimal
        have hwhole := h.leading rfl
        simp at hwhole
      · rw [decimal_snoc hpos hd, hdecimal]

/-- A number has one canonical numeral, the one that is written for it. -/
theorem canonical_denotes_iff (cs : List Char) (n : Nat) :
    Canonical cs ∧ Denotes cs n ↔ cs = decimal n := by
  constructor
  · rintro ⟨hcanonical, hn⟩
    rw [← hcanonical.denotes.unique hn, hcanonical.decimal_eq]
  · rintro rfl
    have hcanonical := canonical_decimal n
    refine ⟨hcanonical, ?_⟩
    have hvalue : Nat.ofDigitChars 10 (decimal n) 0 = n := Nat.ofDigitChars_ten_toDigits
    have hdenotes := hcanonical.denotes
    rwa [hvalue] at hdenotes

end TypeSlots.Numeral
