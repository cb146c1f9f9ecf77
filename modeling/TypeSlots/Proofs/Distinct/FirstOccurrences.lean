import TypeSlots.Distinct
import TypeSlots.Proofs.Fault.Leftmost
import TypeSlots.Proofs.Slot.Tags
import TypeSlots.Proofs.Version.Canonical
import Mathlib.Data.List.Induction
import Mathlib.Data.List.Nodup

/-!
# Distinct values are first occurrences

Of values that texts name, those are kept that stand at a position without an equal one before it
(`firsts`, `eraseDups_eq_firsts`). One more item is kept unless it is there already
(`firsts_append_singleton`), and from this step follow the laws of all lists: no value is kept
twice, values that are distinct stay as they are, and after some items those of further items are
kept that are new (`firsts_append`). Where every value is read from its text, the laws go over to
texts (`keepsFirsts`): so it is for versions, availabilities and signatures.
-/

set_option autoImplicit false

namespace TypeSlots.Distinct

variable {α : Type} [DecidableEq α]

/-- The items that are not equal to an earlier one, in their order. -/
def firsts (items : List α) : List α :=
  (positions items).filterMap fun i => items[i]?

/-! ## One more item -/

theorem positions_append_singleton (items : List α) (a : α) :
    positions (items ++ [a]) = positions items ++ if a ∈ items then [] else [items.length] := by
  have hbefore : ∀ i ∈ List.range items.length,
      ((items ++ [a])[i]?.any fun b => !((items ++ [a]).take i).contains b) =
        items[i]?.any fun b => !(items.take i).contains b := by
    intro i hi
    have hlt := List.mem_range.1 hi
    rw [List.getElem?_append_left hlt, List.take_append_of_le_length (Nat.le_of_lt hlt)]
  rw [positions, List.length_append, List.length_singleton, List.range_succ, List.filter_append,
    List.filter_congr hbefore, ← positions]
  by_cases ha : a ∈ items <;> simp [ha]

/-- One more item is kept unless it is there already. -/
theorem firsts_append_singleton (items : List α) (a : α) :
    firsts (items ++ [a]) = if a ∈ items then firsts items else firsts items ++ [a] := by
  have hbefore : ∀ i ∈ positions items, (items ++ [a])[i]? = items[i]? := by
    intro i hi
    have hlt : i < items.length := List.mem_range.1 (List.mem_of_mem_filter hi)
    exact List.getElem?_append_left hlt
  rw [firsts, positions_append_singleton, List.filterMap_append, List.filterMap_congr hbefore,
    ← firsts]
  by_cases ha : a ∈ items <;> simp [ha]

/-! ## All items -/

/-- Removing duplicates keeps the first occurrences. -/
theorem eraseDups_eq_firsts (items : List α) : items.eraseDups = firsts items := by
  induction items using List.reverseRecOn with
  | nil => rfl
  | append_singleton items a ih =>
    rw [firsts_append_singleton, List.eraseDups_append, ih, List.removeAll]
    by_cases ha : a ∈ items <;> simp [ha, List.eraseDups_cons]

theorem mem_firsts (items : List α) (a : α) : a ∈ firsts items ↔ a ∈ items := by
  rw [← eraseDups_eq_firsts, List.mem_eraseDups]

/-- No item is kept twice. -/
theorem nodup_firsts (items : List α) : (firsts items).Nodup := by
  induction items using List.reverseRecOn with
  | nil => exact List.nodup_nil
  | append_singleton items a ih =>
    rw [firsts_append_singleton]
    split
    · exact ih
    · rename_i ha
      rw [← List.concat_eq_append, List.nodup_concat, mem_firsts]
      exact ⟨ha, ih⟩

/-- Items without duplicates stay as they are. -/
theorem firsts_eq_self {items : List α} (h : items.Nodup) : firsts items = items := by
  induction items using List.reverseRecOn with
  | nil => rfl
  | append_singleton items a ih =>
    rw [← List.concat_eq_append, List.nodup_concat] at h
    rw [firsts_append_singleton, if_neg h.1, ih h.2]

/-- After some items, those of further items are kept that are new. -/
theorem firsts_append (items more : List α) :
    firsts (items ++ more) = firsts items ++ (firsts more).filter fun a => a ∉ items := by
  -- By induction on the further items: the last one is kept unless it is on either side.
  induction more using List.reverseRecOn with
  | nil => simp [firsts, positions]
  | append_singleton more a ih =>
    rw [← List.append_assoc, firsts_append_singleton, firsts_append_singleton, ih]
    by_cases hmore : a ∈ more
    · simp [hmore]
    · by_cases hitems : a ∈ items <;> simp [hmore, hitems]

/-! ## Texts -/

/-- Distinct values are read from texts and written again. A value that was named by an earlier text
is left out, and no other. -/
structure KeepsFirsts (parse : String → Except Fault α) (text : α → String)
    (distinct : List String → Except Fault (List String)) : Prop where
  /-- The leftmost text that names no value is the fault. -/
  refused_iff : ∀ texts fault, distinct texts = .error fault ↔ LeftmostFault parse texts fault
  /-- There is a result exactly if every text names a value. -/
  readable_iff : ∀ texts, (∃ kept, distinct texts = .ok kept) ↔
    ∀ t ∈ texts, ∃ value, parse t = .ok value
  /-- The result has the texts of the values that are not equal to an earlier one. -/
  accepted_iff : ∀ texts kept, distinct texts = .ok kept ↔
    ∃ values, ReadAs parse texts values ∧ kept = (firsts values).map text
  nodup : ∀ texts kept, distinct texts = .ok kept → kept.Nodup
  /-- A result stays as it is when it is read again. -/
  again : ∀ texts kept, distinct texts = .ok kept → distinct kept = .ok kept
  /-- The result of two lists one after the other is that of the first, and what is new in that of
  the second. -/
  append_iff : ∀ texts more kept, distinct (texts ++ more) = .ok kept ↔
    ∃ first second, distinct texts = .ok first ∧ distinct more = .ok second ∧
      kept = first ++ second.filter fun t => t ∉ first
  /-- One more text adds nothing exactly if an earlier one names its value. -/
  repeated_iff : ∀ texts t kept value, distinct texts = .ok kept → parse t = .ok value →
    (distinct (texts ++ [t]) = .ok kept ↔ ∃ s ∈ texts, parse s = .ok value)

/-- The texts of the distinct values that texts name. -/
def readTexts (parse : String → Except Fault α) (text : α → String) (texts : List String) :
    Except Fault (List String) :=
  (read parse texts).map fun values => values.map text

variable {parse : String → Except Fault α} {text : α → String}

theorem readTexts_eq_map (texts : List String) :
    readTexts parse text texts = (texts.mapM parse).map fun values => (firsts values).map text := by
  rw [readTexts, read]
  cases texts.mapM parse with
  | error fault => rfl
  | ok values => exact congrArg (fun kept => Except.ok (kept.map text)) (eraseDups_eq_firsts values)

theorem readTexts_eq_ok_iff (texts kept : List String) :
    readTexts parse text texts = .ok kept ↔
      ∃ values, ReadAs parse texts values ∧ kept = (firsts values).map text := by
  rw [readTexts_eq_map, map_mapM_eq_ok_iff]

theorem readTexts_eq_error_iff (texts : List String) (fault : Fault) :
    readTexts parse text texts = .error fault ↔ LeftmostFault parse texts fault := by
  rw [readTexts_eq_map, map_mapM_eq_error_iff]

/-- There is a result exactly if every text names a value. -/
theorem exists_readTexts_iff (texts : List String) :
    (∃ kept, readTexts parse text texts = .ok kept) ↔
      ∀ t ∈ texts, ∃ value, parse t = .ok value := by
  rw [← exists_readAs_iff]
  constructor
  · rintro ⟨kept, h⟩
    obtain ⟨values, hread, -⟩ := (readTexts_eq_ok_iff texts kept).1 h
    exact ⟨values, hread⟩
  · rintro ⟨values, hread⟩
    exact ⟨_, (readTexts_eq_ok_iff texts _).2 ⟨values, hread, rfl⟩⟩

/-- The texts of first occurrences, in terms of texts. -/
theorem map_firsts_append (h : ∀ a, parse (text a) = .ok a) (values more : List α) :
    (firsts (values ++ more)).map text = (firsts values).map text ++
      ((firsts more).map text).filter fun t => t ∉ (firsts values).map text := by
  have hnew : ∀ a ∈ firsts more,
      decide (a ∉ values) = decide (text a ∉ (firsts values).map text) := by
    intro a _
    rw [decide_eq_decide, List.mem_map_of_injective (injective_of_read_write h), mem_firsts]
  rw [firsts_append, List.map_append, List.filter_map, List.filter_congr hnew]
  rfl

/-- The results of two lists, and that of one after the other. -/
theorem readTexts_append (h : ∀ a, parse (text a) = .ok a) {texts more first second : List String}
    (hfirst : readTexts parse text texts = .ok first)
    (hsecond : readTexts parse text more = .ok second) :
    readTexts parse text (texts ++ more) = .ok (first ++ second.filter fun t => t ∉ first) := by
  obtain ⟨values, hread, rfl⟩ := (readTexts_eq_ok_iff texts first).1 hfirst
  obtain ⟨values', hread', rfl⟩ := (readTexts_eq_ok_iff more second).1 hsecond
  exact (readTexts_eq_ok_iff _ _).2 ⟨_, hread.append hread', (map_firsts_append h _ _).symm⟩

theorem readTexts_append_eq_ok_iff (h : ∀ a, parse (text a) = .ok a)
    (texts more kept : List String) :
    readTexts parse text (texts ++ more) = .ok kept ↔
      ∃ first second, readTexts parse text texts = .ok first ∧
        readTexts parse text more = .ok second ∧
        kept = first ++ second.filter fun t => t ∉ first := by
  constructor
  · intro hkept
    have hall := (exists_readTexts_iff (texts ++ more)).1 ⟨kept, hkept⟩
    rw [List.forall_mem_append] at hall
    obtain ⟨first, hfirst⟩ := (exists_readTexts_iff texts).2 hall.1
    obtain ⟨second, hsecond⟩ := (exists_readTexts_iff more).2 hall.2
    rw [readTexts_append h hfirst hsecond] at hkept
    exact ⟨first, second, hfirst, hsecond, (Except.ok.inj hkept).symm⟩
  · rintro ⟨first, second, hfirst, hsecond, rfl⟩
    exact readTexts_append h hfirst hsecond

/-- A result is the texts of distinct values, which stay as they are. -/
theorem readTexts_again (h : ∀ a, parse (text a) = .ok a) {texts kept : List String}
    (hkept : readTexts parse text texts = .ok kept) : readTexts parse text kept = .ok kept := by
  obtain ⟨values, -, rfl⟩ := (readTexts_eq_ok_iff texts kept).1 hkept
  refine (readTexts_eq_ok_iff _ _).2 ⟨_, readAs_map h (firsts values), ?_⟩
  rw [firsts_eq_self (nodup_firsts values)]

theorem readTexts_singleton {t : String} {value : α} (ht : parse t = .ok value) :
    readTexts parse text [t] = .ok [text value] := by
  refine (readTexts_eq_ok_iff _ _).2 ⟨[value], .cons ht .nil, ?_⟩
  rw [firsts_eq_self (List.nodup_singleton value), List.map_singleton]

/-- One more text adds nothing exactly if an earlier one names its value. -/
theorem readTexts_append_singleton_iff (h : ∀ a, parse (text a) = .ok a)
    {texts kept : List String} {t : String} {value : α}
    (hkept : readTexts parse text texts = .ok kept) (ht : parse t = .ok value) :
    readTexts parse text (texts ++ [t]) = .ok kept ↔ ∃ s ∈ texts, parse s = .ok value := by
  obtain ⟨values, hread, hvalues⟩ := (readTexts_eq_ok_iff texts kept).1 hkept
  have hmem : text value ∈ kept ↔ ∃ s ∈ texts, parse s = .ok value := by
    rw [hvalues, List.mem_map_of_injective (injective_of_read_write h), mem_firsts, hread.mem_iff]
  rw [readTexts_append h hkept (readTexts_singleton ht), ← hmem, Except.ok.injEq]
  by_cases hvalue : text value ∈ kept <;> simp [hvalue]

/-- Where values are read again from their texts, the first occurrences are kept. -/
theorem keepsFirsts (h : ∀ a, parse (text a) = .ok a) :
    KeepsFirsts parse text (readTexts parse text) where
  refused_iff := readTexts_eq_error_iff
  readable_iff := exists_readTexts_iff
  accepted_iff := readTexts_eq_ok_iff
  nodup texts kept hkept := by
    obtain ⟨values, -, rfl⟩ := (readTexts_eq_ok_iff texts kept).1 hkept
    exact (nodup_firsts values).map (injective_of_read_write h)
  again _ _ := readTexts_again h
  append_iff := readTexts_append_eq_ok_iff h
  repeated_iff _ _ _ _ := readTexts_append_singleton_iff h

/-- Removing duplicates keeps first occurrences. For versions, availabilities and signatures
alike: the leftmost text that names no value is the fault; if all texts name values, the result has
the texts of the values that are not equal to an earlier one, in their order and no text twice. The
result stays as it is when it is read again, and that of two lists one after the other is the result
of the first with what is new in the result of the second. Two texts are one item exactly if they
name the same value, for versions however they are written. -/
theorem first_occurrences_are_kept :
    KeepsFirsts Version.parse Version.text versions ∧
    KeepsFirsts Availability.parse Availability.tag availabilities ∧
    KeepsFirsts Signature.parse Signature.tag signatures ∧
    (∀ a b v w, Version.parse a = .ok v → Version.parse b = .ok w →
      (versions [a, b] = .ok [v.text] ↔ v = w)) := by
  have hversions : KeepsFirsts Version.parse Version.text versions := keepsFirsts Version.parse_text
  refine ⟨hversions, keepsFirsts Availability.readByTag.parse_tag,
    keepsFirsts Signature.readByTag.parse_tag, ?_⟩
  intro a b v w ha hb
  have hrepeated := hversions.repeated_iff [a] b [v.text] w (readTexts_singleton ha) hb
  rw [List.singleton_append] at hrepeated
  rw [hrepeated]
  simp [ha]

/-- Two lists of versions that share one in different spellings: the second list adds the other
version only, and the whole result stays as it is. -/
theorem first_occurrences_of_respelled :
    versions [" +3.09", "3.10"] = .ok ["3.9", "3.10"] ∧
      versions ["03.9", "4", "3.9 "] = .ok ["3.9", "4.0"] ∧
      versions [" +3.09", "3.10", "03.9", "4", "3.9 "] = .ok ["3.9", "3.10", "4.0"] ∧
      versions ["3.9", "3.10", "4.0"] = .ok ["3.9", "3.10", "4.0"] ∧
      versions [" +3.09", "03.9"] = .ok ["3.9"] := by
  obtain ⟨hversions, -, -, hmerged⟩ := first_occurrences_are_kept
  have hfirst : versions [" +3.09", "3.10"] = .ok ["3.9", "3.10"] := by decide +kernel
  have hsecond : versions ["03.9", "4", "3.9 "] = .ok ["3.9", "4.0"] := by decide +kernel
  have hwhole := (hversions.append_iff [" +3.09", "3.10"] ["03.9", "4", "3.9 "]
    ["3.9", "3.10", "4.0"]).2 ⟨_, _, hfirst, hsecond, by decide⟩
  refine ⟨hfirst, hsecond, hwhole, hversions.again _ _ hwhole, ?_⟩
  exact (hmerged " +3.09" "03.9" ⟨3, 9⟩ ⟨3, 9⟩ (by decide +kernel) (by decide +kernel)).2 rfl

end TypeSlots.Distinct
