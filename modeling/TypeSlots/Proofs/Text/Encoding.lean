import TypeSlots.Text.Utf8

/-!
# Which octets are text

Octets are read as a text exactly when they are its UTF-8 sequence (`text?_eq_some_iff`). So octets
that are no text are those that no text is encoded by, whatever their stray parts look like.
-/

set_option autoImplicit false

namespace TypeSlots.Text

/-- Pieces that are characters throughout are the pieces of those characters. -/
theorem eq_map_char_of_mapM_char? {ps : List Piece} {cs : List Char}
    (h : ps.mapM Piece.char? = some cs) : ps = cs.map .char := by
  induction ps generalizing cs with
  | nil =>
    cases h
    rfl
  | cons p ps ih =>
    cases p with
    | stray b => simp [List.mapM_cons, Piece.char?] at h
    | char c =>
      simp only [List.mapM_cons, Piece.char?, Option.bind_eq_bind, Option.bind_some,
        Option.bind_eq_some_iff] at h
      obtain ⟨rest, hrest, hcs⟩ := h
      cases hcs
      rw [ih hrest, List.map_cons]

theorem flatMap_octets_map_char (cs : List Char) :
    (cs.map Piece.char).flatMap Piece.octets = utf8 cs := by
  rw [List.flatMap_map, utf8]
  rfl

/-- Octets are a text exactly when they encode it. -/
theorem text?_eq_some_iff (octets : List UInt8) (text : String) :
    text? octets = some text ↔ octets = utf8 text.toList := by
  constructor
  · intro h
    obtain ⟨cs, hcs, rfl⟩ := Option.map_eq_some_iff.1 h
    rw [String.toList_ofList, ← flatMap_octets_map_char, ← eq_map_char_of_mapM_char? hcs,
      flatMap_octets_pieces]
  · rintro rfl
    exact text?_utf8 text

/-- Octets that no text is encoded by are no text. -/
theorem text?_eq_none_iff (octets : List UInt8) :
    text? octets = none ↔ ¬ ∃ text : String, octets = utf8 text.toList := by
  simp only [← text?_eq_some_iff, ← Option.isSome_iff_exists, Option.not_isSome_iff_eq_none]

end TypeSlots.Text
