import Mathlib.Data.List.Basic

/-!
# Searching for what is one of its kind

A first-match search depends on the order of the list where several items match. Where only one item
can match, the search finds that item wherever it is (`find?_eq_some_iff_of_unique`), so the order
does not matter (`find?_eq_of_perm`).
-/

set_option autoImplicit false

namespace TypeSlots.Lookup

variable {α : Type} {p : α → Bool}

/-- A search for what only one item can be finds it wherever it is. -/
theorem find?_eq_some_iff_of_unique {xs : List α}
    (h : ∀ a ∈ xs, ∀ b ∈ xs, p a = true → p b = true → a = b) (x : α) :
    xs.find? p = some x ↔ x ∈ xs ∧ p x = true := by
  constructor
  · intro hfind
    exact ⟨List.mem_of_find?_eq_some hfind, List.find?_some hfind⟩
  · rintro ⟨hx, hp⟩
    cases hfind : xs.find? p with
    | none => exact absurd hp (List.find?_eq_none.1 hfind x hx)
    | some y =>
      rw [h y (List.mem_of_find?_eq_some hfind) x hx (List.find?_some hfind) hp]

/-- A search for what only one item can be does not depend on the order of the items. -/
theorem find?_eq_of_perm {xs ys : List α} (hperm : ys.Perm xs)
    (h : ∀ a ∈ xs, ∀ b ∈ xs, p a = true → p b = true → a = b) : ys.find? p = xs.find? p := by
  have h' : ∀ a ∈ ys, ∀ b ∈ ys, p a = true → p b = true → a = b := by
    intro a ha b hb
    exact h a (hperm.mem_iff.1 ha) b (hperm.mem_iff.1 hb)
  apply Option.ext
  intro x
  rw [find?_eq_some_iff_of_unique h', find?_eq_some_iff_of_unique h, hperm.mem_iff]

end TypeSlots.Lookup
