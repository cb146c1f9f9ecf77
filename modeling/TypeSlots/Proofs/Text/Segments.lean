import TypeSlots.Text.Utf8

/-!
# Where characters stand among octets

Reading octets from the left finds every character that stands among them, wherever it stands
(`pieces_append_char`): no sequence of UTF-8 starts inside another one, so a reader that begins
before a character never runs into it (`pieces_append_of_not_across`). An octet is stray exactly if
it lies in no character at all. The pieces are the only way to divide octets so (`segmented_iff`).
-/

set_option autoImplicit false

namespace TypeSlots.Text

/-- Some character starts in the first of two octet strings and ends in the second one. -/
def Across (before after : List UInt8) : Prop :=
  ∃ c left right, String.utf8EncodeChar c = left ++ right ∧ left ≠ [] ∧ right ≠ [] ∧
    left <:+ before ∧ right <+: after

/-- An octet, standing between others, lies in some character. -/
def InCharacter (before : List UInt8) (octet : UInt8) (after : List UInt8) : Prop :=
  ∃ c left right, String.utf8EncodeChar c = left ++ octet :: right ∧
    left <:+ before ∧ right <+: after

/-- Pieces divide octets into characters and the octets that lie in none. -/
structure Segmented (octets : List UInt8) (ps : List Piece) : Prop where
  whole : ps.flatMap Piece.octets = octets
  stray_outside : ∀ first octet last, ps = first ++ .stray octet :: last →
    ¬ InCharacter (first.flatMap Piece.octets) octet (last.flatMap Piece.octets)

/-! ## Dividing octets between characters -/

/-- Octets have no leading character if and only if they do not start with the sequence of one. -/
theorem leading?_eq_none_iff (octets : List UInt8) :
    leading? octets = none ↔ ∀ c rest, octets ≠ String.utf8EncodeChar c ++ rest := by
  constructor
  · rintro hnone c rest rfl
    rw [leading?_append] at hnone
    cases hnone
  · intro h
    rw [Option.eq_none_iff_forall_ne_some]
    intro c hc
    exact h c _ (eq_append_of_leading? hc)

/-- Octets without a leading character get none from octets that no character runs into. -/
theorem leading?_append_eq_none {before after : List UInt8} (hne : before ≠ [])
    (hnone : leading? before = none) (h : ¬ Across before after) :
    leading? (before ++ after) = none := by
  rw [leading?_eq_none_iff] at hnone ⊢
  intro c rest heq
  -- The sequence of the character would end within the first octets, or else go across.
  rcases List.append_eq_append_iff.1 heq with ⟨right, hsequence, hafter⟩ | ⟨more, hbefore, -⟩
  · cases right with
    | nil => exact hnone c [] (by rw [hsequence, List.append_nil, List.append_nil])
    | cons b right =>
      exact h ⟨c, before, b :: right, hsequence, hne, List.cons_ne_nil _ _,
        List.suffix_refl _, hafter ▸ List.prefix_append _ _⟩
  · exact hnone c more hbefore

/-- A character that goes across the end of the last octets goes across the end of all. -/
theorem Across.of_suffix {before more after : List UInt8} (h : Across before after)
    (hsuffix : before <:+ more) : Across more after := by
  obtain ⟨c, left, right, hc, hleft, hright, hbefore, hafter⟩ := h
  exact ⟨c, left, right, hc, hleft, hright, hbefore.trans hsuffix, hafter⟩

/-- Octets that no character goes across are read part by part. -/
theorem pieces_append_of_not_across {before after : List UInt8} (h : ¬ Across before after) :
    pieces (before ++ after) = pieces before ++ pieces after := by
  fun_induction pieces before with
  | case1 => rfl
  | case2 b rest c hc ih =>
    have hrest := eq_append_of_leading? hc
    rw [drop_utf8Size] at hrest
    have hnext : ¬ Across (rest.drop (c.utf8Size - 1)) after := by
      intro hacross
      exact h (hacross.of_suffix ⟨String.utf8EncodeChar c, hrest.symm⟩)
    rw [hrest, List.append_assoc, pieces_append, ih hnext, List.cons_append]
  | case3 b rest hnone ih =>
    have hnext : ¬ Across rest after := by
      intro hacross
      exact h (hacross.of_suffix (List.suffix_cons b rest))
    have hleading : leading? (b :: (rest ++ after)) = none :=
      leading?_append_eq_none (List.cons_ne_nil b rest) hnone h
    rw [List.cons_append, pieces, hleading, ih hnext]
    rfl

/-- Only the first octet of a sequence is one that a sequence may start with. -/
theorem isUTF8FirstByte_iff_eq_nil {c : Char} {left right : List UInt8} {b : UInt8}
    (h : String.utf8EncodeChar c = left ++ b :: right) : b.IsUTF8FirstByte ↔ left = [] := by
  have hlength : left.length < (String.utf8EncodeChar c).length := by
    simp [h]
  have hb : (String.utf8EncodeChar c)[left.length] = b := by
    simp [h]
  rw [← hb, UInt8.isUTF8FirstByte_getElem_utf8EncodeChar, List.length_eq_zero_iff]

/-- No character goes across the start of another one. -/
theorem not_across_char (before : List UInt8) (c : Char) (after : List UInt8) :
    ¬ Across before (String.utf8EncodeChar c ++ after) := by
  rintro ⟨d, left, right, hd, hleft, hright, -, hprefix⟩
  -- The first octet of `c` would be an octet of `d` that is not the first one there.
  obtain ⟨b, tail, hc⟩ : ∃ b tail, String.utf8EncodeChar c = b :: tail :=
    List.exists_cons_of_ne_nil String.utf8EncodeChar_ne_nil
  obtain ⟨b', right, rfl⟩ := List.exists_cons_of_ne_nil hright
  rw [hc, List.cons_append] at hprefix
  obtain ⟨rfl, -⟩ := List.cons_prefix_cons.1 hprefix
  have hstart : String.utf8EncodeChar c = [] ++ b' :: tail := hc
  have hfirst : b'.IsUTF8FirstByte := (isUTF8FirstByte_iff_eq_nil hstart).2 rfl
  exact hleft ((isUTF8FirstByte_iff_eq_nil hd).1 hfirst)

/-- A character is found wherever it stands. -/
theorem pieces_append_char (before : List UInt8) (c : Char) (after : List UInt8) :
    pieces (before ++ (String.utf8EncodeChar c ++ after)) =
      pieces before ++ .char c :: pieces after := by
  rw [pieces_append_of_not_across (not_across_char before c after), pieces_append]

/-! ## The one division -/

theorem InCharacter.append {before : List UInt8} {octet : UInt8} {after : List UInt8}
    (h : InCharacter before octet after) (more : List UInt8) :
    InCharacter (more ++ before) octet after := by
  obtain ⟨c, left, right, hc, hleft, hright⟩ := h
  exact ⟨c, left, right, hc, hleft.trans (List.suffix_append _ _), hright⟩

/-- The pieces after the first divide the octets after it. -/
theorem Segmented.tail {octets : List UInt8} {p : Piece} {ps : List Piece}
    (h : Segmented octets (p :: ps)) : Segmented (ps.flatMap Piece.octets) ps where
  whole := rfl
  stray_outside := by
    intro first octet last hps hin
    apply h.stray_outside (p :: first) octet last (by rw [hps, List.cons_append])
    rw [List.flatMap_cons]
    exact hin.append p.octets

/-- An octet that lies in no character is no start of one. -/
theorem leading?_eq_none_of_not_inCharacter {octet : UInt8} {rest : List UInt8}
    (h : ¬ InCharacter [] octet rest) : leading? (octet :: rest) = none := by
  rw [leading?_eq_none_iff]
  intro c more heq
  obtain ⟨b, right, hsequence⟩ : ∃ b right, String.utf8EncodeChar c = b :: right :=
    List.exists_cons_of_ne_nil String.utf8EncodeChar_ne_nil
  rw [hsequence] at heq
  obtain ⟨rfl, hrest⟩ := List.cons.inj heq
  exact h ⟨c, [], right, hsequence, List.suffix_refl _, ⟨_, hrest.symm⟩⟩

theorem Segmented.pieces_eq {octets : List UInt8} {ps : List Piece} (h : Segmented octets ps) :
    pieces octets = ps := by
  induction ps generalizing octets with
  | nil =>
    rw [← h.whole]
    simp [pieces]
  | cons p ps ih =>
    have hps := ih h.tail
    rw [← h.whole, List.flatMap_cons]
    cases p with
    | char c => exact (pieces_append c _).trans (congrArg (Piece.char c :: ·) hps)
    | stray b =>
      have hnone := leading?_eq_none_of_not_inCharacter (h.stray_outside [] b ps rfl)
      rw [Piece.octets, List.singleton_append, pieces, hnone]
      exact congrArg (Piece.stray b :: ·) hps

/-- Of a stray octet and a character among the same pieces one stands before the other. -/
theorem stray_before_or_after_char {first last ps qs : List Piece} {octet : UInt8} {c : Char}
    (h : first ++ .stray octet :: last = ps ++ .char c :: qs) :
    (∃ more, ps = first ++ .stray octet :: more) ∨ ∃ more, first = ps ++ .char c :: more := by
  rcases List.append_eq_append_iff.1 h with ⟨more, hmore, hrest⟩ | ⟨more, hmore, hrest⟩
  · cases more with
    | nil => simp at hrest
    | cons p more =>
      obtain ⟨rfl, -⟩ := List.cons.inj hrest
      exact Or.inl ⟨more, hmore⟩
  · cases more with
    | nil => simp at hrest
    | cons p more =>
      obtain ⟨rfl, -⟩ := List.cons.inj hrest
      exact Or.inr ⟨more, hmore⟩

/-- A stray octet among the pieces lies in no character. -/
theorem not_inCharacter_of_pieces_eq {octets : List UInt8} {first last : List Piece}
    {octet : UInt8} (h : pieces octets = first ++ .stray octet :: last) :
    ¬ InCharacter (first.flatMap Piece.octets) octet (last.flatMap Piece.octets) := by
  rintro ⟨c, left, right, hc, ⟨before, hbefore⟩, ⟨after, hafter⟩⟩
  have hwhole := flatMap_octets_pieces octets
  rw [h, List.flatMap_append, List.flatMap_cons, ← hbefore, ← hafter] at hwhole
  have hoctets : octets = before ++ (String.utf8EncodeChar c ++ after) := by
    rw [← hwhole, hc]
    simp [Piece.octets]
  have hpieces := pieces_append_char before c after
  rw [← hoctets, h] at hpieces
  rcases stray_before_or_after_char hpieces with ⟨more, hmore⟩ | ⟨more, hmore⟩
  · have hoverfull := flatMap_octets_pieces before
    rw [hmore, List.flatMap_append, ← hbefore] at hoverfull
    have hlength := congrArg List.length hoverfull
    simp only [List.flatMap_cons, Piece.octets, List.length_append, List.length_singleton]
      at hlength
    omega
  · rw [hmore, List.flatMap_append, flatMap_octets_pieces, List.append_cancel_left_eq] at hbefore
    have hlength := congrArg List.length hbefore
    simp only [hc, List.flatMap_cons, Piece.octets, List.length_append, List.length_cons]
      at hlength
    omega

/-- Octets are divided into characters and stray octets in one way, which is how they are read. -/
theorem segmented_iff (octets : List UInt8) (ps : List Piece) :
    Segmented octets ps ↔ pieces octets = ps := by
  constructor
  · exact Segmented.pieces_eq
  · rintro rfl
    exact ⟨flatMap_octets_pieces octets, fun _ _ _ h => not_inCharacter_of_pieces_eq h⟩

end TypeSlots.Text
