/-!
# Octets as text

A value made of octets need not be text. `pieces` reads it as UTF-8 from the left: each well-formed
sequence is a character, and an octet that starts none is stray. Nothing is lost
(`flatMap_octets_pieces`), and the octets of a text are read back as its characters
(`pieces_utf8`). `text?` gives the text when no octet is stray (`text?_utf8`).
-/

set_option autoImplicit false

namespace TypeSlots.Text

/-- A part of an octet string: a character, or an octet that belongs to none. -/
inductive Piece where
  | char (c : Char)
  | stray (octet : UInt8)
  deriving DecidableEq

namespace Piece

/-- The octets that a piece stands for. -/
def octets : Piece → List UInt8
  | char c => String.utf8EncodeChar c
  | stray b => [b]

/-- The character of a piece that is one. -/
def char? : Piece → Option Char
  | char c => some c
  | stray _ => none

end Piece

/-- The UTF-8 octets of a text. -/
def utf8 (cs : List Char) : List UInt8 :=
  cs.flatMap String.utf8EncodeChar

/-- The character whose UTF-8 sequence starts the octets. No sequence is longer than four. -/
def leading? (bs : List UInt8) : Option Char :=
  (bs.take 4).toByteArray.utf8DecodeChar? 0

/-- Octets start with the sequence of their leading character. -/
theorem eq_append_of_leading? {bs : List UInt8} {c : Char} (h : leading? bs = some c) :
    bs = String.utf8EncodeChar c ++ bs.drop c.utf8Size := by
  obtain ⟨r, hr⟩ := ByteArray.exists_of_utf8DecodeChar?_eq_some h
  have ht : bs.take 4 = String.utf8EncodeChar c ++ r.data.toList := by
    simpa using congrArg (fun b : ByteArray => b.data.toList) hr
  have hb : bs = String.utf8EncodeChar c ++ (r.data.toList ++ bs.drop 4) := by
    rw [← List.append_assoc, ← ht, List.take_append_drop]
  rw [← String.length_utf8EncodeChar, hb, List.drop_left]

/-- Every character is found at the start of its own sequence. -/
theorem leading?_append (c : Char) (bs : List UInt8) :
    leading? (String.utf8EncodeChar c ++ bs) = some c := by
  have hl : (String.utf8EncodeChar c).length ≤ 4 := by
    simpa using c.utf8Size_le_four
  rw [leading?, List.take_append, List.take_of_length_le hl, List.toByteArray_append]
  exact ByteArray.utf8DecodeChar?_utf8EncodeChar_append

/-- The pieces of an octet string. -/
def pieces : List UInt8 → List Piece
  | [] => []
  | b :: rest =>
    match leading? (b :: rest) with
    | some c => .char c :: pieces (rest.drop (c.utf8Size - 1))
    | none => .stray b :: pieces rest
  termination_by bs => bs.length

/-- The rest after a leading character, seen from the second octet. -/
theorem drop_utf8Size (c : Char) (b : UInt8) (rest : List UInt8) :
    (b :: rest).drop c.utf8Size = rest.drop (c.utf8Size - 1) := by
  obtain ⟨n, hn⟩ := Nat.exists_eq_add_of_lt c.utf8Size_pos
  simp [hn]

/-- The pieces hold all octets in order. -/
theorem flatMap_octets_pieces (bs : List UInt8) : (pieces bs).flatMap Piece.octets = bs := by
  fun_induction pieces bs with
  | case1 => rfl
  | case2 b rest c hc ih =>
    rw [List.flatMap_cons, ih, ← drop_utf8Size c b rest]
    exact (eq_append_of_leading? hc).symm
  | case3 b rest hc ih => simp [Piece.octets, ih]

/-- A character's sequence is one piece, whatever follows it. -/
theorem pieces_append (c : Char) (bs : List UInt8) :
    pieces (String.utf8EncodeChar c ++ bs) = .char c :: pieces bs := by
  have hc := leading?_append c bs
  cases hs : String.utf8EncodeChar c with
  | nil => exact absurd (congrArg List.length hs) (by simp [Nat.ne_of_gt c.utf8Size_pos])
  | cons b tail =>
    have ht : tail.length = c.utf8Size - 1 := by
      have := String.length_utf8EncodeChar c
      rw [hs] at this
      exact Nat.eq_sub_of_add_eq this
    rw [hs] at hc
    rw [List.cons_append, pieces, ← List.cons_append, hc]
    simp [← ht]

/-- The octets of a text are read back as its characters. -/
theorem pieces_utf8 (cs : List Char) : pieces (utf8 cs) = cs.map .char := by
  induction cs with
  | nil => simp [utf8, pieces]
  | cons c cs ih =>
    have he : utf8 (c :: cs) = String.utf8EncodeChar c ++ utf8 cs := rfl
    rw [he, pieces_append, ih, List.map_cons]

/-- The text that octets encode, if they are well formed throughout. -/
def text? (bs : List UInt8) : Option String :=
  ((pieces bs).mapM Piece.char?).map String.ofList

/-- The octets of a text are that text. -/
theorem text?_utf8 (s : String) : text? (utf8 s.toList) = some s := by
  have h : ∀ cs : List Char, (cs.map Piece.char).mapM Piece.char? = some cs := by
    intro cs
    induction cs with
    | nil => rfl
    | cons c cs ih => simp [List.mapM_cons, Piece.char?, ih]
  simp [text?, pieces_utf8, h]

end TypeSlots.Text
