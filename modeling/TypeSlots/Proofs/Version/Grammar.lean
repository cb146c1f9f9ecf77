import TypeSlots.Proofs.Version.Outcome

/-!
# The grammar of versions

`Names t m n` is the grammar of version texts, with the exact numbers that a text stands for and
without any limit on them. A text is read as a version exactly when, without the blanks at its ends,
it is in the grammar with the two numbers of that version (`parse_eq_ok_iff`); a text in the grammar
is refused only for a number above 255 (`exists_parse_eq_ok_iff`).
-/

set_option autoImplicit false

namespace TypeSlots.Version

open Numeral (Denotes)
open Text (Trimmed isBlank)

/-- A text names a major and a minor number: as two numerals with a point between them, or as the
major numeral alone, the minor number being zero. -/
inductive Names : List Char → Nat → Nat → Prop
  | bare {major : List Char} {m : Nat} : Denotes major m → Names major m 0
  | dotted {major minor : List Char} {m n : Nat} :
    Denotes major m → Denotes minor n → Names (major ++ '.' :: minor) m n

/-- The characters that occur in version texts. -/
def IsVersionChar (c : Char) : Prop :=
  c.isDigit = true ∨ c = '+' ∨ c = '.'

/-! ## The characters of a version text -/

theorem isDigit_or_eq_plus {cs : List Char} {n : Nat} (h : Denotes cs n) :
    ∀ c ∈ cs, c.isDigit = true ∨ c = '+' := by
  cases h with
  | plain _ hall => exact fun c hc => .inl (hall c hc)
  | signed _ hall =>
    intro c hc
    rcases List.mem_cons.1 hc with rfl | hc
    · exact .inr rfl
    · exact .inl (hall c hc)

theorem isVersionChar_of_denotes {cs : List Char} {n : Nat} (h : Denotes cs n) :
    ∀ c ∈ cs, IsVersionChar c := by
  intro c hc
  rcases isDigit_or_eq_plus h c hc with hd | hp
  · exact .inl hd
  · exact .inr (.inl hp)

theorem point_notMem {cs : List Char} {n : Nat} (h : Denotes cs n) : '.' ∉ cs := by
  intro hmem
  have := isDigit_or_eq_plus h '.' hmem
  simp at this

/-- No character of a version text is a blank or a minus sign. -/
theorem IsVersionChar.plain {c : Char} (h : IsVersionChar c) : isBlank c = false ∧ c ≠ '-' := by
  rcases h with h | rfl | rfl
  · refine ⟨?_, by rintro rfl; simp at h⟩
    have hrange : 48 ≤ c.toNat ∧ c.toNat ≤ 57 := Char.isDigit_iff_toNat.1 h
    by_contra hb
    have hin : Text.whiteSpace.contains c = true := by simpa [isBlank] using hb
    obtain ⟨r, hr, hlo, hhi⟩ := (Text.CharClass.contains_iff Text.whiteSpace c).1 hin
    simp only [Text.whiteSpace, List.mem_cons, List.not_mem_nil, or_false] at hr
    rcases hr with rfl | rfl | rfl | rfl | rfl | rfl | rfl | rfl | rfl | rfl <;> simp at hlo hhi <;>
      omega
  · decide
  · decide

theorem Names.isVersionChar {t : List Char} {m n : Nat} (h : Names t m n) :
    ∀ c ∈ t, IsVersionChar c := by
  intro c hc
  cases h with
  | bare hm => exact isVersionChar_of_denotes hm c hc
  | dotted hm hn =>
    rcases List.mem_append.1 hc with hc | hc
    · exact isVersionChar_of_denotes hm c hc
    · rcases List.mem_cons.1 hc with rfl | hc
      · exact .inr (.inr rfl)
      · exact isVersionChar_of_denotes hn c hc

/-- A version text has one point at most. -/
theorem Names.count_point {t : List Char} {m n : Nat} (h : Names t m n) : t.count '.' ≤ 1 := by
  -- Numerals have no point in them, so the only one is that of the grammar.
  cases h with
  | bare hm => simp [List.count_eq_zero_of_not_mem (point_notMem hm)]
  | dotted hm hn =>
    simp [List.count_append, List.count_eq_zero_of_not_mem (point_notMem hm),
      List.count_eq_zero_of_not_mem (point_notMem hn)]

/-! ## Reading by the grammar -/

/-- A text is read as a version exactly when it names the numbers of that version. -/
theorem parse_eq_ok_iff (text : String) (v : Version) :
    parse text = .ok v ↔
      ∃ t, Trimmed text.toList t ∧ Names t v.major.toNat v.minor.toNat := by
  rw [parse_eq_iff]
  constructor
  · intro h
    cases h with
    | alone hp ha =>
      obtain ⟨t, ht, hd⟩ := hp
      cases hd with
      | whole _ => exact ⟨_, ht, .bare ha⟩
    | both hp ha hb =>
      obtain ⟨t, ht, hd⟩ := hp
      cases hd with
      | point _ => exact ⟨_, ht, .dotted ha hb⟩
  · obtain ⟨a, b⟩ := v
    rintro ⟨t, ht, hnames⟩
    generalize hn : b.toNat = n at hnames
    cases hnames with
    | bare ha =>
      have hb : b = 0 := UInt8.toNat_inj.1 hn
      subst hb
      exact .alone ⟨_, ht, .whole (point_notMem ha)⟩ ha
    | dotted ha hb =>
      subst hn
      exact .both ⟨_, ht, .point (point_notMem ha)⟩ ha hb

/-- The numbers that a text names are those of its parts. -/
theorem Names.exists_divided {t : List Char} {m n : Nat} (h : Names t m n) :
    ∃ major minor?, Divided t major minor? ∧ Denotes major m ∧
      (minor? = none → n = 0) ∧ ∀ minor ∈ minor?, Denotes minor n := by
  cases h with
  | bare hm => exact ⟨_, _, .whole (point_notMem hm), hm, fun _ => rfl, by simp⟩
  | dotted hm hn => exact ⟨_, _, .point (point_notMem hm), hm, by simp, by simpa using hn⟩

/-- A text names one pair of numbers at most. -/
theorem Names.unique {t : List Char} {m n m' n' : Nat} (h : Names t m n) (h' : Names t m' n') :
    m = m' ∧ n = n' := by
  obtain ⟨major, minor?, hd, hm, hnone, hsome⟩ := h.exists_divided
  obtain ⟨major', minor?', hd', hm', hnone', hsome'⟩ := h'.exists_divided
  have he := hd.splitPoint_eq.symm.trans hd'.splitPoint_eq
  simp only [Prod.mk.injEq] at he
  obtain ⟨rfl, rfl⟩ := he
  refine ⟨hm.unique hm', ?_⟩
  cases minor? with
  | none => rw [hnone rfl, hnone' rfl]
  | some minor => exact (hsome minor rfl).unique (hsome' minor rfl)

/-- A text in the grammar is read unless one of its numbers is above the largest octet. -/
theorem exists_parse_eq_ok_iff {text : String} {t : List Char} {m n : Nat}
    (ht : Trimmed text.toList t) (h : Names t m n) :
    (∃ v, parse text = .ok v) ↔ m ≤ 255 ∧ n ≤ 255 := by
  constructor
  · rintro ⟨v, hv⟩
    obtain ⟨t', ht', h'⟩ := (parse_eq_ok_iff text v).1 hv
    have he : t' = t := ((Text.trimmed_iff _ _).1 ht').symm.trans ((Text.trimmed_iff _ _).1 ht)
    subst he
    obtain ⟨hm, hn⟩ := h.unique h'
    have hmajor := v.major.toNat_lt
    have hminor := v.minor.toNat_lt
    omega
  · rintro ⟨hm, hn⟩
    refine ⟨⟨UInt8.ofNat m, UInt8.ofNat n⟩, (parse_eq_ok_iff text _).2 ⟨t, ht, ?_⟩⟩
    rwa [UInt8.toNat_ofNat_of_lt' (Nat.lt_succ_of_le hm),
      UInt8.toNat_ofNat_of_lt' (Nat.lt_succ_of_le hn)]

/-- Reading accepts exactly the grammar of versions. A text is read as a version exactly when its
trimmed text names the two numbers of it; a number above 255 is refused and never reduced; an
accepted text has one point at most and no blank, minus sign or non-ASCII digit in it; and every
text is read or refused. -/
theorem parse_accepts_exactly_names (text : String) :
    (∀ a b : UInt8, parse text = .ok ⟨a, b⟩ ↔
      ∃ t, Trimmed text.toList t ∧ Names t a.toNat b.toNat) ∧
    (∀ t m n, Trimmed text.toList t → Names t m n →
      ((∃ v, parse text = .ok v) ↔ m ≤ 255 ∧ n ≤ 255)) ∧
    (∀ v, parse text = .ok v → ∃ t, Trimmed text.toList t ∧ t.count '.' ≤ 1 ∧
      ∀ c ∈ t, (c.isDigit = true ∨ c = '+' ∨ c = '.') ∧ isBlank c = false ∧ c ≠ '-') ∧
    ((∃ v, parse text = .ok v) ∨ ∃ fault, parse text = .error fault) := by
  refine ⟨fun a b => parse_eq_ok_iff text ⟨a, b⟩, fun t m n => exists_parse_eq_ok_iff, ?_, ?_⟩
  · intro v hv
    obtain ⟨t, ht, hnames⟩ := (parse_eq_ok_iff text v).1 hv
    refine ⟨t, ht, hnames.count_point, fun c hc => ?_⟩
    have hchar := hnames.isVersionChar c hc
    exact ⟨hchar, hchar.plain⟩
  · cases parse text with
    | ok v => exact .inl ⟨v, rfl⟩
    | error fault => exact .inr ⟨fault, rfl⟩

/-- Control: blanks, signs and zeros that do not count, and a number that is too large. -/
example :
    parse "\u2003+003.09\n" = .ok ⟨3, 9⟩ ∧ (parse "3.256").toOption = none := by
  decide +kernel

end TypeSlots.Version
