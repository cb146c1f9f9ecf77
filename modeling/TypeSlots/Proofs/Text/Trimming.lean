import TypeSlots.Text.Blank
import Mathlib.Data.List.DropRight
import Mathlib.Data.List.TakeWhile

/-!
# What trimming leaves

`Trimmed cs t` says, without taking blanks off one by one, that `t` is what is left of `cs`: only
blanks stand around it, and neither of its ends is blank. There is exactly one such text, and it is
the one that `trim` gives (`trimmed_iff`).
-/

set_option autoImplicit false

namespace TypeSlots.Text

/-- `t` is `cs` without the blanks at either end. -/
structure Trimmed (cs t : List Char) : Prop where
  cut : ∃ before after : List Char, cs = before ++ t ++ after ∧
    (∀ c ∈ before, isBlank c = true) ∧ (∀ c ∈ after, isBlank c = true)
  head : ∀ c ∈ t.head?, isBlank c = false
  last : ∀ c ∈ t.getLast?, isBlank c = false

theorem trimEnd_eq_rdropWhile (cs : List Char) : trimEnd cs = cs.rdropWhile isBlank := rfl

/-- Blanks at the start do not count. -/
theorem trimStart_append {before : List Char} (h : ∀ c ∈ before, isBlank c = true)
    (cs : List Char) : trimStart (before ++ cs) = trimStart cs :=
  List.dropWhile_append_of_pos h

/-- Nothing is taken off the start of a text that does not start with a blank. -/
theorem trimStart_eq_self {cs : List Char} (h : ∀ c ∈ cs.head?, isBlank c = false) :
    trimStart cs = cs := by
  cases cs with
  | nil => rfl
  | cons c rest =>
    have hc := h c rfl
    exact List.dropWhile_cons_of_neg (by simp [hc])

/-- The end of a text is the start of the text read backwards. -/
theorem trimEnd_eq_reverse (cs : List Char) : trimEnd cs = (trimStart cs.reverse).reverse := rfl

theorem trimEnd_append {after : List Char} (h : ∀ c ∈ after, isBlank c = true)
    (cs : List Char) : trimEnd (cs ++ after) = trimEnd cs := by
  rw [trimEnd_eq_reverse, List.reverse_append, trimStart_append (by simpa using h),
    ← trimEnd_eq_reverse]

theorem trimEnd_eq_self {cs : List Char} (h : ∀ c ∈ cs.getLast?, isBlank c = false) :
    trimEnd cs = cs := by
  rw [trimEnd_eq_reverse, trimStart_eq_self (by simpa using h), List.reverse_reverse]

/-- The start of a trimmed text is not blank, however much was taken off its end. -/
theorem isBlank_head_of_prefix_trimStart {cs t : List Char} (h : t <+: trimStart cs) :
    ∀ c ∈ t.head?, isBlank c = false := by
  intro c hc
  cases t with
  | nil => simp at hc
  | cons d rest =>
    obtain ⟨tail, htail⟩ := h
    have hd : d = c := by simpa using hc
    have hhead := List.head?_dropWhile_not isBlank cs
    rw [← trimStart, ← htail] at hhead
    exact hd ▸ hhead

/-- Trimming leaves the trimmed text. -/
theorem trimmed_trim (cs : List Char) : Trimmed cs (trim cs) := by
  refine ⟨⟨cs.takeWhile isBlank, (trimStart cs).rtakeWhile isBlank, ?_, ?_, ?_⟩, ?_, ?_⟩
  · rw [List.append_assoc, trim, trimEnd_eq_rdropWhile, List.rdropWhile_append_rtakeWhile]
    exact List.takeWhile_append_dropWhile.symm
  · exact fun c hc => List.mem_takeWhile_imp hc
  · exact fun c hc => List.mem_rtakeWhile_imp hc
  · exact isBlank_head_of_prefix_trimStart (List.rdropWhile_prefix _ _)
  · intro c hc
    have hne : (trimStart cs).rdropWhile isBlank ≠ [] := by
      intro he
      rw [trim, trimEnd_eq_rdropWhile, he] at hc
      simp at hc
    have hlast := List.rdropWhile_last_not isBlank (trimStart cs) hne
    rw [trim, trimEnd_eq_rdropWhile, List.getLast?_eq_getLast_of_ne_nil hne] at hc
    cases hc
    simpa using hlast

/-- There is one trimmed text, and `trim` gives it. -/
theorem trimmed_iff (cs t : List Char) : Trimmed cs t ↔ trim cs = t := by
  constructor
  · rintro ⟨⟨before, after, rfl, hbefore, hafter⟩, hhead, hlast⟩
    rw [trim, List.append_assoc, trimStart_append hbefore]
    cases t with
    | nil =>
      have hnil : trimStart after = [] := List.dropWhile_eq_nil_iff.2 hafter
      rw [List.nil_append, hnil]
      rfl
    | cons c rest =>
      have hstart : trimStart (c :: rest ++ after) = c :: rest ++ after :=
        trimStart_eq_self (by simpa using hhead)
      rw [hstart, trimEnd_append hafter, trimEnd_eq_self hlast]
  · rintro rfl
    exact trimmed_trim cs

end TypeSlots.Text
