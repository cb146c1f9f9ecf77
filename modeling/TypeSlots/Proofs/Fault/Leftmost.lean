import TypeSlots.Fault.Basic
import Mathlib.Data.List.Forall2
import Mathlib.Data.List.Perm.Basic

/-!
# Reading items in order

Items are read one after the other, and the first failure ends the reading. So the reading succeeds
with one value to an item (`ReadAs`, `mapM_eq_ok_iff`), or it fails with the fault of the leftmost
item that cannot be read (`LeftmostFault`, `mapM_eq_error_iff`), and there is one unless all items
can be read (`exists_leftmostFault_iff`), and whatever is made of the values then fails alike
(`map_mapM_eq_ok_iff`, `map_mapM_eq_error_iff`). The values move with the items (`ReadAs.of_perm`),
items that are read alike may take each other's place (`ReadAs.of_alike`), and values that can be
read again from what is written for them are read as themselves (`readAs_map`).
-/

set_option autoImplicit false

namespace TypeSlots

variable {α β : Type}

/-- Items are read as values, one to an item and in the same order. -/
def ReadAs (read : α → Except Fault β) (items : List α) (values : List β) : Prop :=
  List.Forall₂ (fun item value => read item = .ok value) items values

/-- The fault of an item that cannot be read, after items that can. -/
def LeftmostFault (read : α → Except Fault β) (items : List α) (fault : Fault) : Prop :=
  ∃ before item after, items = before ++ item :: after ∧
    (∀ x ∈ before, ∃ value, read x = .ok value) ∧ read item = .error fault

variable {read : α → Except Fault β}

theorem leftmostFault_cons_of_error {item : α} {fault : Fault} (h : read item = .error fault)
    (items : List α) (fault' : Fault) :
    LeftmostFault read (item :: items) fault' ↔ fault = fault' := by
  constructor
  · rintro ⟨before, x, after, hitems, hbefore, hx⟩
    cases before with
    | nil =>
      cases hitems
      exact Except.error.inj (h.symm.trans hx)
    | cons y before =>
      cases hitems
      obtain ⟨value, hvalue⟩ := hbefore item List.mem_cons_self
      rw [h] at hvalue
      cases hvalue
  · rintro rfl
    exact ⟨[], item, items, rfl, by simp, h⟩

theorem leftmostFault_cons_of_ok {item : α} {value : β} (h : read item = .ok value)
    (items : List α) (fault : Fault) :
    LeftmostFault read (item :: items) fault ↔ LeftmostFault read items fault := by
  constructor
  · rintro ⟨before, x, after, hitems, hbefore, hx⟩
    cases before with
    | nil =>
      cases hitems
      rw [h] at hx
      cases hx
    | cons y before =>
      cases hitems
      exact ⟨before, x, after, rfl, fun z hz => hbefore z (List.mem_cons_of_mem _ hz), hx⟩
  · rintro ⟨before, x, after, rfl, hbefore, hx⟩
    refine ⟨item :: before, x, after, rfl, ?_, hx⟩
    intro z hz
    rcases List.mem_cons.1 hz with rfl | hz
    · exact ⟨value, h⟩
    · exact hbefore z hz

/-! ## The two endings -/

theorem mapM_cons_of_error {item : α} {fault : Fault} (h : read item = .error fault)
    (items : List α) : (item :: items).mapM read = .error fault := by
  rw [List.mapM_cons, h]
  rfl

theorem mapM_cons_of_ok {item : α} {value : β} (h : read item = .ok value) (items : List α) :
    (item :: items).mapM read = (items.mapM read).map (value :: ·) := by
  rw [List.mapM_cons, h]
  cases items.mapM read <;> rfl

/-- A reading succeeds with one value to an item. -/
theorem mapM_eq_ok_iff (items : List α) (values : List β) :
    items.mapM read = .ok values ↔ ReadAs read items values := by
  induction items generalizing values with
  | nil =>
    rw [ReadAs, List.forall₂_nil_left_iff]
    constructor
    · intro h
      exact (Except.ok.inj h).symm
    · rintro rfl
      rfl
  | cons item items ih =>
    rw [ReadAs, List.forall₂_cons_left_iff]
    cases h : read item with
    | error fault =>
      rw [mapM_cons_of_error h]
      simp
    | ok value =>
      rw [mapM_cons_of_ok h]
      constructor
      · intro hmap
        cases hrest : items.mapM read with
        | error fault =>
          rw [hrest] at hmap
          cases hmap
        | ok rest =>
          rw [hrest] at hmap
          exact ⟨value, rest, rfl, (ih rest).1 hrest, (Except.ok.inj hmap).symm⟩
      · rintro ⟨value', rest, hvalue, hrest, rfl⟩
        rw [(ih rest).2 hrest]
        exact congrArg (fun v => Except.ok (v :: rest)) (Except.ok.inj hvalue)

/-- A reading fails with the fault of the leftmost item that cannot be read. -/
theorem mapM_eq_error_iff (items : List α) (fault : Fault) :
    items.mapM read = .error fault ↔ LeftmostFault read items fault := by
  induction items with
  | nil =>
    constructor
    · intro h
      cases h
    · rintro ⟨before, item, after, hitems, -⟩
      simp at hitems
  | cons item items ih =>
    cases h : read item with
    | error fault' =>
      rw [mapM_cons_of_error h, leftmostFault_cons_of_error h, Except.error.injEq]
    | ok value =>
      rw [mapM_cons_of_ok h, leftmostFault_cons_of_ok h, ← ih]
      cases items.mapM read with
      | error fault' => exact Iff.rfl
      | ok values =>
        constructor
        · intro hok
          cases hok
        · intro hok
          cases hok

/-- Items have values exactly if all of them can be read. -/
theorem exists_readAs_iff (items : List α) :
    (∃ values, ReadAs read items values) ↔ ∀ item ∈ items, ∃ value, read item = .ok value := by
  induction items with
  | nil =>
    constructor
    · rintro - item hitem
      cases hitem
    · intro _
      exact ⟨[], List.Forall₂.nil⟩
  | cons item items ih =>
    rw [List.forall_mem_cons, ← ih]
    constructor
    · rintro ⟨values, hvalues⟩
      cases hvalues with
      | cons hvalue hrest => exact ⟨⟨_, hvalue⟩, _, hrest⟩
    · rintro ⟨⟨value, hvalue⟩, rest, hrest⟩
      exact ⟨value :: rest, List.Forall₂.cons hvalue hrest⟩

/-- There is a leftmost fault exactly if some item cannot be read. -/
theorem exists_leftmostFault_iff (items : List α) :
    (∃ fault, LeftmostFault read items fault) ↔
      ∃ item ∈ items, ∃ fault, read item = .error fault := by
  constructor
  · rintro ⟨fault, before, item, after, rfl, -, hitem⟩
    exact ⟨item, by simp, fault, hitem⟩
  · rintro ⟨item, hmem, fault, hitem⟩
    cases h : items.mapM read with
    | error fault' => exact ⟨fault', (mapM_eq_error_iff items fault').1 h⟩
    | ok values =>
      have hall := (exists_readAs_iff items).1 ⟨values, (mapM_eq_ok_iff items values).1 h⟩
      obtain ⟨value, hvalue⟩ := hall item hmem
      rw [hitem] at hvalue
      cases hvalue

/-! ## What is made of the values -/

variable {γ : Type}

/-- What is made of the values is there when the values are. -/
theorem map_mapM_eq_ok_iff (f : List β → γ) (items : List α) (result : γ) :
    (items.mapM read).map f = .ok result ↔
      ∃ values, ReadAs read items values ∧ result = f values := by
  simp only [← mapM_eq_ok_iff]
  cases items.mapM read with
  | error fault => simp [Except.map]
  | ok values => simp [Except.map, eq_comm]

/-- A reading fails alike, whatever would be made of the values. -/
theorem map_mapM_eq_error_iff (f : List β → γ) (items : List α) (fault : Fault) :
    (items.mapM read).map f = .error fault ↔ LeftmostFault read items fault := by
  rw [← mapM_eq_error_iff]
  cases items.mapM read with
  | error fault' => simp [Except.map]
  | ok values => simp [Except.map]

/-! ## Other items -/

/-- The values are those of the items. -/
theorem ReadAs.mem_iff {items : List α} {values : List β} (h : ReadAs read items values)
    (value : β) : value ∈ values ↔ ∃ item ∈ items, read item = .ok value := by
  induction h with
  | nil => simp
  | cons hitem _ ih => simp [ih, hitem, eq_comm]

theorem ReadAs.append {items items' : List α} {values values' : List β}
    (h : ReadAs read items values) (h' : ReadAs read items' values') :
    ReadAs read (items ++ items') (values ++ values') :=
  List.rel_append h h'

/-- Items in another order have their values in another order. -/
theorem ReadAs.of_perm {items items' : List α} {values : List β} (h : ReadAs read items values)
    (hperm : items'.Perm items) : ∃ values', ReadAs read items' values' ∧ values'.Perm values :=
  List.perm_comp_forall₂ hperm h

/-- Items that are read alike have the same values. -/
theorem ReadAs.of_alike {items items' : List α} {values : List β} (h : ReadAs read items values)
    (halike : List.Forall₂ (fun item item' => read item' = read item) items items') :
    ReadAs read items' values := by
  induction halike generalizing values with
  | nil => exact h
  | cons hitem _ ih =>
    cases h with
    | cons hvalue hvalues => exact List.Forall₂.cons (hitem.trans hvalue) (ih hvalues)

/-! ## What is written for values -/

variable {write : β → α}

/-- Values that are read again from what is written for them are told apart by it. -/
theorem injective_of_read_write (h : ∀ b, read (write b) = .ok b) : Function.Injective write := by
  intro b c hbc
  have hb := h b
  rw [hbc, h c] at hb
  exact (Except.ok.inj hb).symm

/-- What is written for values is read as these. -/
theorem readAs_map (h : ∀ b, read (write b) = .ok b) (values : List β) :
    ReadAs read (values.map write) values := by
  rw [ReadAs, List.forall₂_map_left_iff, List.forall₂_same]
  intro b _
  exact h b

end TypeSlots
