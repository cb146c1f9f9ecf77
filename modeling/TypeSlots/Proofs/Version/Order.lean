import TypeSlots.Proofs.Version.Canonical

/-!
# The order of versions

The order of versions is that of one number, the rank: the major number counts 256 times the minor
one (`compare_eq_compare_rank`). No two versions have one rank, and no two have one text, so
whatever is seen of the standing of two versions follows from their ranks (`consistent_standing`);
the partial order, which has the versions before and after one another, is the same
(`compare?_eq_some_compare`). Two texts are compared by the versions that they name, the first one
being read first (`compareTexts_eq_ok`, `compareTexts_eq_error_iff`).
-/

set_option autoImplicit false

namespace TypeSlots.Version

/-- The place of a version among all versions. -/
def rank (v : Version) : Nat :=
  256 * v.major.toNat + v.minor.toNat

/-- A version is known by its rank: the minor number is smaller than the weight of a major one. -/
theorem rank_injective : Function.Injective rank := by
  intro v w h
  have hv := v.minor.toNat_lt
  have hw := w.minor.toNat_lt
  simp only [rank] at h
  have hmajor : v.major.toNat = w.major.toNat := by omega
  have hminor : v.minor.toNat = w.minor.toNat := by omega
  cases v
  cases w
  rw [Version.mk.injEq]
  exact ⟨UInt8.toNat_inj.1 hmajor, UInt8.toNat_inj.1 hminor⟩

/-- Of two ranks the major numbers decide, and the minor ones where these are equal. -/
theorem rank_lt_iff (v w : Version) :
    v.rank < w.rank ↔ v.major.toNat < w.major.toNat ∨
      v.major.toNat = w.major.toNat ∧ v.minor.toNat < w.minor.toNat := by
  have hv := v.minor.toNat_lt
  have hw := w.minor.toNat_lt
  simp only [rank]
  omega

/-- The order of versions in terms of their numbers. -/
theorem compare_eq_then (v w : Version) :
    compare v w =
      (compare v.major.toNat w.major.toNat).then (compare v.minor.toNat w.minor.toNat) := by
  rw [← UInt8.compare_eq_toNat_compare_toNat, ← UInt8.compare_eq_toNat_compare_toNat]
  rfl

/-- Versions are ordered by their ranks. -/
theorem compare_eq_compare_rank (v w : Version) : compare v w = compare v.rank w.rank := by
  rcases Nat.lt_trichotomy v.rank w.rank with hlt | heq | hgt
  · rw [Nat.compare_eq_lt.2 hlt, compare_eq_then, Ordering.then_eq_lt, Nat.compare_eq_lt,
      Nat.compare_eq_eq, Nat.compare_eq_lt]
    exact (rank_lt_iff v w).1 hlt
  · rw [rank_injective heq, Nat.compare_eq_eq.2 rfl, compare_eq_then, Ordering.then_eq_eq,
      Nat.compare_eq_eq, Nat.compare_eq_eq]
    exact ⟨rfl, rfl⟩
  · rw [Nat.compare_eq_gt.2 hgt, compare_eq_then, Ordering.then_eq_gt, Nat.compare_eq_gt,
      Nat.compare_eq_eq, Nat.compare_eq_gt]
    rcases (rank_lt_iff w v).1 hgt with hmajor | ⟨hmajor, hminor⟩
    · exact Or.inl hmajor
    · exact Or.inr ⟨hmajor.symm, hminor⟩

/-- Octets stand to each other as in their order. -/
theorem compareOctets?_eq_some_compare (a b : UInt8) :
    compareOctets? a b = some (compare a b) := rfl

/-- Any two versions can be compared, and the partial order has them as the order does. -/
theorem compare?_eq_some_compare (v w : Version) : compare? v w = some (compare v w) := by
  have hcompare : compare v w = (compare v.major w.major).then (compare v.minor w.minor) := rfl
  rw [compare?, compareOctets?_eq_some_compare, compareOctets?_eq_some_compare, hcompare]
  cases compare v.major w.major <;> rfl

theorem isLE_compare_iff (v w : Version) : (compare v w).isLE = true ↔ v.rank ≤ w.rank := by
  rw [compare_eq_compare_rank, Nat.isLE_compare]

theorem compare_trans (u v w : Version) (huv : (compare u v).isLE = true)
    (hvw : (compare v w).isLE = true) : (compare u w).isLE = true := by
  rw [isLE_compare_iff] at huv hvw ⊢
  exact Nat.le_trans huv hvw

theorem compare_total (v w : Version) : ((compare v w).isLE || (compare w v).isLE) = true := by
  rw [Bool.or_eq_true, isLE_compare_iff, isLE_compare_iff]
  exact Nat.le_total v.rank w.rank

theorem compare_swap (v w : Version) : (compare v w).swap = compare w v := by
  rw [compare_eq_compare_rank, compare_eq_compare_rank, Nat.compare_swap]

/-- Where the order of a first and a second version is that of the second and a third, it is that of
the first and the third. -/
theorem compare_eq_of_compare_eq {u v w : Version} {o : Ordering} (huv : compare u v = o)
    (hvw : compare v w = o) : compare u w = o := by
  rw [compare_eq_compare_rank] at huv hvw ⊢
  cases o with
  | lt =>
    rw [Nat.compare_eq_lt] at huv hvw ⊢
    exact Nat.lt_trans huv hvw
  | eq =>
    rw [Nat.compare_eq_eq] at huv hvw ⊢
    exact huv.trans hvw
  | gt =>
    rw [Nat.compare_eq_gt] at huv hvw ⊢
    exact Nat.lt_trans hvw huv

/-! ## The earlier and the later version -/

theorem rank_later (v w : Version) : (later v w).rank = max v.rank w.rank := by
  rw [later, apply_ite rank, Nat.max_def]
  exact if_congr (isLE_compare_iff v w) rfl rfl

theorem rank_earlier (v w : Version) : (earlier v w).rank = min v.rank w.rank := by
  rw [earlier, apply_ite rank, Nat.min_def]
  exact if_congr (isLE_compare_iff v w) rfl rfl

theorem later_comm (v w : Version) : later v w = later w v := by
  apply rank_injective
  rw [rank_later, rank_later, Nat.max_comm]

theorem earlier_comm (v w : Version) : earlier v w = earlier w v := by
  apply rank_injective
  rw [rank_earlier, rank_earlier, Nat.min_comm]

/-- Of two versions one is the earlier and the other the later. -/
theorem earlier_later_perm (v w : Version) : [earlier v w, later v w].Perm [v, w] := by
  rw [earlier, later]
  split
  · exact List.Perm.refl _
  · exact List.Perm.swap v w []

/-! ## Standings -/

/-- Everything seen of a standing agrees with the ranks of the two versions. -/
structure Standing.Consistent (s : Standing) (v w : Version) : Prop where
  lt_iff : s.order = .lt ↔ v.rank < w.rank
  eq_iff : s.order = .eq ↔ v.rank = w.rank
  gt_iff : s.order = .gt ↔ w.rank < v.rank
  equal_iff : s.equal = true ↔ s.order = .eq
  text_eq_iff : v.text = w.text ↔ s.order = .eq
  isBefore_iff : s.isBefore = true ↔ s.order = .lt
  isAtLeast_iff : s.isAtLeast = true ↔ s.order ≠ .lt
  rank_later : s.later.rank = max v.rank w.rank
  rank_earlier : s.earlier.rank = min v.rank w.rank
  texts_perm : [s.earlier.text, s.later.text].Perm [v.text, w.text]

/-- The standing of two versions agrees with their ranks. -/
theorem consistent_standing (v w : Version) : (standing v w).Consistent v w := by
  have horder : (standing v w).order = compare v.rank w.rank := compare_eq_compare_rank v w
  have heq : (standing v w).order = .eq ↔ v = w := by
    rw [horder, Nat.compare_eq_eq]
    exact rank_injective.eq_iff
  constructor
  · rw [horder, Nat.compare_eq_lt]
  · rw [horder, Nat.compare_eq_eq]
  · rw [horder, Nat.compare_eq_gt]
  · rw [heq, standing, decide_eq_true_iff]
  · rw [heq]
    exact text_injective.eq_iff
  · simp only [standing, compare?_eq_some_compare, Option.some.injEq, decide_eq_true_iff]
  · simp only [standing, compare?_eq_some_compare, Option.some.injEq, decide_eq_true_iff]
    cases compare v w <;> decide
  · exact rank_later v w
  · exact rank_earlier v w
  · exact (earlier_later_perm v w).map text

/-! ## Comparing texts -/

theorem compareTexts_eq_ok {a b : String} {v w : Version} (ha : parse a = .ok v)
    (hb : parse b = .ok w) : compareTexts a b = .ok (standing v w) := by
  rw [compareTexts, ha, hb]
  rfl

/-- The fault of a comparison is that of the first text, or that of the second one if the first
names a version. -/
theorem compareTexts_eq_error_iff (a b : String) (fault : Fault) :
    compareTexts a b = .error fault ↔
      parse a = .error fault ∨ (∃ v, parse a = .ok v) ∧ parse b = .error fault := by
  rw [compareTexts]
  cases parse a with
  | error first => simp [bind, Except.bind]
  | ok v =>
    cases parse b with
    | error second => simp [bind, Except.bind]
    | ok w => simp [bind, Except.bind, pure, Except.pure]

/-- Texts are compared by the numbers that they name. A text that names no version makes its
fault that of the comparison, the first text before the second. Where both name versions, all that
is seen of their standing agrees with their ranks; with the texts exchanged the order is turned
round, and the earlier and the later version are the same. Of three texts the order is transitive.
-/
theorem texts_are_compared_by_rank :
    (∀ a b fault, compareTexts a b = .error fault ↔
      parse a = .error fault ∨ (∃ v, parse a = .ok v) ∧ parse b = .error fault) ∧
    (∀ a b v w, parse a = .ok v → parse b = .ok w →
      ∃ s s', compareTexts a b = .ok s ∧ compareTexts b a = .ok s' ∧ s.Consistent v w ∧
        s'.order = s.order.swap ∧ s'.earlier = s.earlier ∧ s'.later = s.later) ∧
    (∀ a b c u v w, parse a = .ok u → parse b = .ok v → parse c = .ok w →
      ∃ s t r, compareTexts a b = .ok s ∧ compareTexts b c = .ok t ∧ compareTexts a c = .ok r ∧
        (s.order.isLE = true → t.order.isLE = true → r.order.isLE = true) ∧
        ∀ o, s.order = o → t.order = o → r.order = o) := by
  refine ⟨compareTexts_eq_error_iff, ?_, ?_⟩
  · intro a b v w ha hb
    refine ⟨_, _, compareTexts_eq_ok ha hb, compareTexts_eq_ok hb ha, consistent_standing v w, ?_⟩
    exact ⟨(compare_swap v w).symm, earlier_comm w v, later_comm w v⟩
  · intro a b c u v w ha hb hc
    refine ⟨_, _, _, compareTexts_eq_ok ha hb, compareTexts_eq_ok hb hc, compareTexts_eq_ok ha hc,
      ?_⟩
    exact ⟨compare_trans u v w, fun o => compare_eq_of_compare_eq⟩

/-- A blank, a sign and a zero do not count, and the minor number nine comes before ten; both come
before the next major number. -/
theorem respelled_text_is_compared_by_rank :
    parse " +3.09" = .ok ⟨3, 9⟩ ∧ parse "3.10" = .ok ⟨3, 10⟩ ∧ parse "4" = .ok ⟨4, 0⟩ ∧
    ∃ s t r, compareTexts " +3.09" "3.10" = .ok s ∧ compareTexts "3.10" "4" = .ok t ∧
      compareTexts " +3.09" "4" = .ok r ∧ s.order = .lt ∧ t.order = .lt ∧ r.order = .lt := by
  have hnine : parse " +3.09" = .ok ⟨3, 9⟩ := by decide +kernel
  have hten : parse "3.10" = .ok ⟨3, 10⟩ := by decide +kernel
  have hfour : parse "4" = .ok ⟨4, 0⟩ := by decide +kernel
  obtain ⟨-, hpairs, htriples⟩ := texts_are_compared_by_rank
  obtain ⟨s, -, hs, -, hsranks, -⟩ := hpairs _ _ _ _ hnine hten
  obtain ⟨t, -, ht, -, htranks, -⟩ := hpairs _ _ _ _ hten hfour
  obtain ⟨s', t', r, hs', ht', hr, -, htrans⟩ := htriples _ _ _ _ _ _ hnine hten hfour
  obtain rfl : s = s' := Except.ok.inj (hs.symm.trans hs')
  obtain rfl : t = t' := Except.ok.inj (ht.symm.trans ht')
  have hlt : s.order = .lt := hsranks.lt_iff.2 (by decide)
  have hlt' : t.order = .lt := htranks.lt_iff.2 (by decide)
  exact ⟨hnine, hten, hfour, s, t, r, hs, ht, hr, hlt, hlt', htrans .lt hlt hlt'⟩

end TypeSlots.Version
