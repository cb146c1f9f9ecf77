import TypeSlots.Proofs.Fault.Leftmost
import TypeSlots.Proofs.Version.Order

/-!
# Sorting versions

Texts are sorted by the versions that they name. The sorted versions are known from the versions
read: they are the same ones, in ascending order of their ranks, and there is one such list only
(`Ascending.eq_of_perm`, `sortTexts_eq_ok`). So neither the order of the texts nor the way in which
a version is written makes a difference, and sorted texts stay as they are. Texts that are not all
versions have the fault of the leftmost one that is none (`sortTexts_eq_error_iff`).
-/

set_option autoImplicit false

namespace TypeSlots.Version

/-- No version comes before one with a smaller rank. -/
def Ascending (versions : List Version) : Prop :=
  versions.Pairwise fun v w => v.rank ≤ w.rank

/-- Ascending lists of the same versions are the same list. -/
theorem Ascending.eq_of_perm {versions versions' : List Version} (h : Ascending versions)
    (h' : Ascending versions') (hperm : versions.Perm versions') : versions = versions' := by
  apply List.Perm.eq_of_pairwise _ h h' hperm
  intro v w _ _ hle hge
  exact rank_injective (Nat.le_antisymm hle hge)

/-- Sorting by the order of versions makes a list ascending. -/
theorem ascending_mergeSort (versions : List Version) :
    Ascending (versions.mergeSort fun v w => (compare v w).isLE) := by
  have hsorted := List.pairwise_mergeSort compare_trans compare_total versions
  exact hsorted.imp fun {v w} hle => (isLE_compare_iff v w).1 hle

/-! ## Sorting texts -/

/-- Texts are sorted by sorting the versions that are read. -/
theorem sortTexts_eq_map (texts : List String) :
    sortTexts texts = (texts.mapM parse).map fun versions =>
      (versions.mergeSort fun v w => (compare v w).isLE).map text := by
  rw [sortTexts]
  cases texts.mapM parse <;> rfl

/-- Texts that name versions are sorted into the ascending list of these, whatever it is found by.
-/
theorem sortTexts_eq_ok {texts : List String} {versions sorted : List Version}
    (hread : ReadAs parse texts versions) (hperm : sorted.Perm versions) (h : Ascending sorted) :
    sortTexts texts = .ok (sorted.map text) := by
  have hsame : sorted = versions.mergeSort fun v w => (compare v w).isLE :=
    h.eq_of_perm (ascending_mergeSort versions) (hperm.trans (List.mergeSort_perm versions _).symm)
  rw [sortTexts_eq_map, map_mapM_eq_ok_iff]
  exact ⟨versions, hread, congrArg (List.map text) hsame⟩

/-- Texts are refused for the leftmost of them that names no version. -/
theorem sortTexts_eq_error_iff (texts : List String) (fault : Fault) :
    sortTexts texts = .error fault ↔ LeftmostFault parse texts fault := by
  rw [sortTexts_eq_map, map_mapM_eq_error_iff]

/-- Texts are sorted by the numbers that they name. If some text names no version, the fault is
that of the leftmost such text. If all do, the result has the canonical texts of their versions,
each as often as it was read, in ascending order of the ranks. It is the same for the texts in any
other order and for any other spelling of their versions, and it stays as it is when it is sorted
again. -/
theorem texts_are_sorted_by_rank (texts : List String) :
    (∀ fault, sortTexts texts = .error fault ↔ LeftmostFault parse texts fault) ∧
    ((∃ fault, LeftmostFault parse texts fault) ↔ ∃ t ∈ texts, ∃ fault, parse t = .error fault) ∧
    ((∀ t ∈ texts, ∃ v, parse t = .ok v) → ∃ versions sorted,
      ReadAs parse texts versions ∧ sortTexts texts = .ok (sorted.map text) ∧
      (sorted.map text).Perm (versions.map text) ∧ Ascending sorted ∧
      (∀ texts', texts'.Perm texts → sortTexts texts' = .ok (sorted.map text)) ∧
      (∀ texts', List.Forall₂ (fun t t' => parse t' = parse t) texts texts' →
        sortTexts texts' = .ok (sorted.map text)) ∧
      sortTexts (sorted.map text) = .ok (sorted.map text)) := by
  refine ⟨sortTexts_eq_error_iff texts, exists_leftmostFault_iff texts, ?_⟩
  intro hall
  obtain ⟨versions, hread⟩ := (exists_readAs_iff texts).2 hall
  obtain ⟨sorted, hperm, hsorted⟩ :
      ∃ sorted : List Version, sorted.Perm versions ∧ Ascending sorted :=
    ⟨_, List.mergeSort_perm versions _, ascending_mergeSort versions⟩
  refine ⟨versions, sorted, hread, sortTexts_eq_ok hread hperm hsorted, hperm.map text, hsorted,
    ?_, ?_, ?_⟩
  · intro texts' htexts
    obtain ⟨versions', hread', hversions⟩ := hread.of_perm htexts
    exact sortTexts_eq_ok hread' (hperm.trans hversions.symm) hsorted
  · intro texts' halike
    exact sortTexts_eq_ok (hread.of_alike halike) hperm hsorted
  · exact sortTexts_eq_ok (readAs_map parse_text sorted) (List.Perm.refl sorted) hsorted

/-- Three texts, two of them for one version: sorted they are the same as in another order and in
other spellings. -/
theorem respelled_texts_are_sorted_by_rank :
    (∀ t ∈ ["3.10", " +3.09", "3.9"], ∃ v, parse t = .ok v) ∧
    ∃ sorted : List Version, sortTexts ["3.10", " +3.09", "3.9"] = .ok (sorted.map text) ∧
      sorted.length = 3 ∧ Ascending sorted ∧
      sortTexts ["3.9", "3.10", " +3.09"] = .ok (sorted.map text) ∧
      sortTexts ["03.010", "3.9", "3.9 "] = .ok (sorted.map text) ∧
      sortTexts (sorted.map text) = .ok (sorted.map text) := by
  have hall : ∀ t ∈ ["3.10", " +3.09", "3.9"], ∃ v, parse t = .ok v := by
    have hten : parse "3.10" = .ok ⟨3, 10⟩ := by decide +kernel
    have hnine : parse " +3.09" = .ok ⟨3, 9⟩ := by decide +kernel
    have hplain : parse "3.9" = .ok ⟨3, 9⟩ := by decide +kernel
    intro t ht
    simp only [List.mem_cons, List.not_mem_nil, or_false] at ht
    rcases ht with rfl | rfl | rfl
    · exact ⟨_, hten⟩
    · exact ⟨_, hnine⟩
    · exact ⟨_, hplain⟩
  obtain ⟨versions, sorted, hread, hsort, hperm, hsorted, horder, hspelling, hagain⟩ :=
    (texts_are_sorted_by_rank ["3.10", " +3.09", "3.9"]).2.2 hall
  have hlength : sorted.length = 3 := by
    have h := hperm.length_eq
    rw [List.length_map, List.length_map, ← List.Forall₂.length_eq hread] at h
    exact h
  refine ⟨hall, sorted, hsort, hlength, hsorted, horder _ (by decide), hspelling _ ?_, hagain⟩
  exact .cons (by decide +kernel) (.cons (by decide +kernel) (.cons (by decide +kernel) .nil))

end TypeSlots.Version
