import TypeSlots.Slot.Recipe
import Mathlib.Data.List.Basic
import Mathlib.Data.List.Induction

/-!
# What a recipe makes

Each setting of a recipe changes one field, and of the settings of one field the last one counts. So
the slot that a recipe makes is known from its names, its signature and the last argument that it
gives for each field (`Makes`): one more setting keeps this (`Makes.step`), hence every recipe makes
its slot (`makes_build`), and the slots on the way are those that the settings so far make
(`getElem?_states`). Two recipes make one slot exactly if they agree in these respects
(`Makes.eq_iff`); the order of settings of different fields and the settings that are overwritten
later are not among them.
-/

set_option autoImplicit false

namespace TypeSlots

namespace Setting

/-- A field of a slot that settings change. -/
inductive Field where
  | index
  | opcode
  | availability
  deriving DecidableEq

variable {A β : Type}

/-- The field that a setting changes. -/
def field : Setting A → Field
  | index _ => .index
  | opcode _ => .opcode
  | availability _ => .availability

/-- The argument for the index. -/
def index? : Setting A → Option UInt8
  | index value => some value
  | _ => none

/-- The argument for the opcode. -/
def opcode? : Setting A → Option String
  | opcode value => some value
  | _ => none

/-- The argument for the availability. -/
def availability? : Setting A → Option A
  | availability value => some value
  | _ => none

/-- The last argument of a kind that is among some settings. -/
def last? (argument? : Setting A → Option β) (settings : List (Setting A)) : Option β :=
  (settings.filterMap argument?).getLast?

/-! ## Last arguments -/

theorem last?_append (argument? : Setting A → Option β) (first rest : List (Setting A)) :
    last? argument? (first ++ rest) = (last? argument? rest).or (last? argument? first) := by
  rw [last?, List.filterMap_append, List.getLast?_append, ← last?, ← last?]

theorem last?_singleton (argument? : Setting A → Option β) (x : Setting A) :
    last? argument? [x] = argument? x := by
  cases h : argument? x <;> simp [last?, h]

/-- The argument of a setting counts only if the settings after it give none. -/
theorem last?_cons (argument? : Setting A → Option β) (x : Setting A) (rest : List (Setting A)) :
    last? argument? (x :: rest) = (last? argument? rest).or (argument? x) := by
  rw [← List.singleton_append, last?_append, last?_singleton]

/-- The arguments of a kind are those of the settings of one field. -/
def ArgumentsOf (f : Field) (argument? : Setting A → Option β) : Prop :=
  ∀ x, argument? x ≠ none ↔ x.field = f

theorem argumentsOf_index : ArgumentsOf .index (index? : Setting A → Option UInt8) := by
  intro x
  cases x <;> simp [index?, field]

theorem argumentsOf_opcode : ArgumentsOf .opcode (opcode? : Setting A → Option String) := by
  intro x
  cases x <;> simp [opcode?, field]

theorem argumentsOf_availability :
    ArgumentsOf .availability (availability? : Setting A → Option A) := by
  intro x
  cases x <;> simp [availability?, field]

/-- Settings of other fields do not count for the last argument of a field. -/
theorem ArgumentsOf.last?_filter {f : Field} {argument? : Setting A → Option β}
    (h : ArgumentsOf f argument?) (settings : List (Setting A)) :
    last? argument? (settings.filter fun x => x.field = f) = last? argument? settings := by
  rw [last?, last?, List.filterMap_filter]
  congr 1
  apply List.filterMap_congr
  intro x _
  by_cases hx : x.field = f
  · simp [hx]
  · have hnone : argument? x = none := by
      by_contra hne
      exact hx ((h x).1 hne)
    simp [hnone]

/-- A setting with another one of its field after it does not count for a last argument. -/
theorem ArgumentsOf.last?_overwritten {f : Field} {argument? : Setting A → Option β}
    (h : ArgumentsOf f argument?) {x y : Setting A} {after : List (Setting A)} (hy : y ∈ after)
    (hfield : y.field = x.field) (before : List (Setting A)) :
    last? argument? (before ++ x :: after) = last? argument? (before ++ after) := by
  rw [last?_append, last?_append, last?_cons]
  by_cases hx : argument? x = none
  · rw [hx, Option.or_none]
  · have hargument : argument? y ≠ none := (h y).2 (hfield.trans ((h x).1 hx))
    have hlast : last? argument? after ≠ none := by
      intro hnone
      rw [last?, List.getLast?_eq_none_iff, List.filterMap_eq_nil_iff] at hnone
      exact hargument (hnone y hy)
    obtain ⟨value, hvalue⟩ := Option.ne_none_iff_exists'.1 hlast
    rw [hvalue, Option.some_or, Option.some_or]

/-! ## One setting -/

theorem index_apply (s : Slot) (x : Setting Availability) :
    (x.apply s).index = x.index?.or s.index := by
  cases x <;> rfl

theorem opcode_apply (s : Slot) (x : Setting Availability) :
    (x.apply s).opcode = x.opcode?.or s.opcode := by
  cases x <;> rfl

theorem availability_apply (s : Slot) (x : Setting Availability) :
    (x.apply s).availability = x.availability?.getD s.availability := by
  cases x <;> rfl

/-- No setting changes the names or the signature of a slot. -/
theorem names_apply (s : Slot) (x : Setting Availability) :
    (x.apply s).method = s.method ∧ (x.apply s).pointer = s.pointer ∧
      (x.apply s).signature = s.signature := by
  cases x <;> exact ⟨rfl, rfl, rfl⟩

end Setting

namespace Recipe

open Setting

/-- The recipe with other settings. -/
def withSettings (r : Recipe Signature Availability) (settings : List (Setting Availability)) :
    Recipe Signature Availability :=
  { r with settings := settings }

/-- A slot has the names and the signature of a recipe, and the last argument for each field, or
what a plain slot has there. -/
structure Makes (r : Recipe Signature Availability) (s : Slot) : Prop where
  method : s.method = r.method
  pointer : s.pointer = r.pointer
  signature : s.signature = r.signature
  index : s.index = last? index? r.settings
  opcode : s.opcode = last? opcode? r.settings
  availability : s.availability = (last? availability? r.settings).getD .any

/-! ## All settings -/

/-- One more setting keeps the slot the one that the settings make. -/
theorem Makes.step {r : Recipe Signature Availability} {s : Slot} (h : r.Makes s)
    (x : Setting Availability) : (r.withSettings (r.settings ++ [x])).Makes (x.apply s) := by
  obtain ⟨hmethod, hpointer, hsignature⟩ := names_apply s x
  constructor
  · exact hmethod.trans h.method
  · exact hpointer.trans h.pointer
  · exact hsignature.trans h.signature
  · rw [index_apply, withSettings, last?_append, last?_singleton, h.index]
  · rw [opcode_apply, withSettings, last?_append, last?_singleton, h.opcode]
  · rw [availability_apply, withSettings, last?_append, last?_singleton, h.availability,
      Option.getD_or]

/-- The slot after one more setting. -/
theorem build_append_singleton (r : Recipe Signature Availability)
    (settings : List (Setting Availability)) (x : Setting Availability) :
    (r.withSettings (settings ++ [x])).build = x.apply (r.withSettings settings).build :=
  List.foldl_append

/-- A recipe makes its slot. -/
theorem makes_build (r : Recipe Signature Availability) : r.Makes r.build := by
  have hsettings : ∀ settings, (r.withSettings settings).Makes (r.withSettings settings).build := by
    intro settings
    induction settings using List.reverseRecOn with
    | nil => exact ⟨rfl, rfl, rfl, rfl, rfl, rfl⟩
    | append_singleton settings x ih =>
      rw [build_append_singleton]
      exact ih.step x
  exact hsettings r.settings

theorem length_slotsAfter (s : Slot) (settings : List (Setting Availability)) :
    (slotsAfter s settings).length = settings.length := by
  induction settings generalizing s with
  | nil => rfl
  | cons x settings ih => rw [slotsAfter, List.length_cons, ih, List.length_cons]

theorem getElem?_slotsAfter (s : Slot) (done rest : List (Setting Availability)) :
    (s :: slotsAfter s (done ++ rest))[done.length]? = some (done.foldl Setting.apply s) := by
  induction done generalizing s with
  | nil => rfl
  | cons x done ih =>
    rw [List.length_cons, List.getElem?_cons_succ, List.foldl_cons]
    exact ih (x.apply s)

/-- The slot after some of the settings is the one that these settings make. -/
theorem getElem?_states {r : Recipe Signature Availability}
    {done rest : List (Setting Availability)} (h : r.settings = done ++ rest) :
    r.states[done.length]? = some (r.withSettings done).build := by
  rw [states, h]
  exact getElem?_slotsAfter r.start done rest

/-- Every slot on the way is the one that some of the settings make. -/
theorem exists_makes_of_mem_states {r : Recipe Signature Availability} {s : Slot}
    (h : s ∈ r.states) :
    ∃ done rest, r.settings = done ++ rest ∧ (r.withSettings done).Makes s := by
  obtain ⟨i, hi⟩ := List.getElem?_of_mem h
  have hlt : i < r.states.length := (List.getElem?_eq_some_iff.1 hi).1
  rw [states, List.length_cons, length_slotsAfter] at hlt
  have hsettings : r.settings = r.settings.take i ++ r.settings.drop i :=
    (List.take_append_drop i r.settings).symm
  have hslot := getElem?_states hsettings
  rw [List.length_take_of_le (Nat.le_of_lt_succ hlt), hi] at hslot
  refine ⟨_, _, hsettings, ?_⟩
  rw [Option.some.inj hslot]
  exact makes_build _

/-! ## What is seen of a slot -/

/-- Two recipes make one slot exactly if they agree on names, signature and last arguments. -/
theorem Makes.eq_iff {r r' : Recipe Signature Availability} {s s' : Slot} (h : r.Makes s)
    (h' : r'.Makes s') :
    s = s' ↔ r.method = r'.method ∧ r.pointer = r'.pointer ∧ r.signature = r'.signature ∧
      last? index? r.settings = last? index? r'.settings ∧
      last? opcode? r.settings = last? opcode? r'.settings ∧
      (last? availability? r.settings).getD .any =
        (last? availability? r'.settings).getD .any := by
  rw [← h.method, ← h'.method, ← h.pointer, ← h'.pointer, ← h.signature, ← h'.signature,
    ← h.index, ← h'.index, ← h.opcode, ← h'.opcode, ← h.availability, ← h'.availability]
  cases s
  cases s'
  rw [Slot.mk.injEq]

/-- Control: a plain slot is for every version already, so to set that makes no other slot. -/
example :
    (⟨"a", "p", .unary, [.availability .any]⟩ : Recipe Signature Availability).build =
      (⟨"a", "p", .unary, []⟩ : Recipe Signature Availability).build :=
  rfl

theorem Makes.suite? {r : Recipe Signature Availability} {s : Slot} (h : r.Makes s) :
    s.suite? = r.start.suite? :=
  congrArg Suite.ofPointer? h.pointer

theorem Makes.operator? {r : Recipe Signature Availability} {s : Slot} (h : r.Makes s) :
    s.operator? = (last? opcode? r.settings).map Slot.operatorOf := by
  rw [Slot.operator?, h.opcode]

theorem Makes.isReflected_iff {r : Recipe Signature Availability} {s : Slot} (h : r.Makes s) :
    s.isReflected = true ↔ r.signature = .binaryNumber ∧ last? index? r.settings = some 1 := by
  rw [Slot.isReflected, Bool.and_eq_true, beq_iff_eq, beq_iff_eq, h.signature, h.index]

/-! ## Settings that make no difference -/

/-- Settings make the same slot if they give the same last arguments. -/
theorem build_withSettings_eq {r : Recipe Signature Availability}
    {settings settings' : List (Setting Availability)}
    (h : ∀ {β : Type} (f : Field) (argument? : Setting Availability → Option β),
      ArgumentsOf f argument? → last? argument? settings = last? argument? settings') :
    (r.withSettings settings).build = (r.withSettings settings').build := by
  apply ((makes_build _).eq_iff (makes_build _)).2
  refine ⟨rfl, rfl, rfl, ?_, ?_, ?_⟩
  · exact h .index index? argumentsOf_index
  · exact h .opcode opcode? argumentsOf_opcode
  · have hlast := h .availability availability? argumentsOf_availability
    exact congrArg (fun last => last.getD .any) hlast

/-- The order of settings of different fields makes no difference. -/
theorem build_eq_of_filter_field_eq (r : Recipe Signature Availability)
    {settings settings' : List (Setting Availability)}
    (h : ∀ f, (settings.filter fun x => x.field = f) = settings'.filter fun x => x.field = f) :
    (r.withSettings settings).build = (r.withSettings settings').build := by
  apply build_withSettings_eq
  intro β f argument? hf
  rw [← hf.last?_filter settings, h f, hf.last?_filter settings']

/-- A setting of a field that is set again later makes no difference. -/
theorem build_eq_of_overwritten (r : Recipe Signature Availability) {x y : Setting Availability}
    {after : List (Setting Availability)} (hy : y ∈ after) (hfield : y.field = x.field)
    (before : List (Setting Availability)) :
    (r.withSettings (before ++ x :: after)).build = (r.withSettings (before ++ after)).build := by
  apply build_withSettings_eq
  intro β f argument? hf
  exact hf.last?_overwritten hy hfield before

/-- The last setting of each field decides, and nothing else does. A recipe makes a slot with
its names and its signature, and with the last argument for each field; where no setting gives one,
the slot has no index, no opcode and is for every version. Two recipes make one slot exactly if they
agree on all this. So settings of different fields may change places, and a setting may be left out
where its field is set again later. After every setting the suite is that of the plain slot, the
operator is that of the last opcode so far, and the slot is the reflected half of a pair exactly if
its signature is that of binary numbers and the last index so far is one. -/
theorem last_settings_decide (r : Recipe Signature Availability) :
    r.Makes r.build ∧
    (∀ r' : Recipe Signature Availability, r.build = r'.build ↔
      r.method = r'.method ∧ r.pointer = r'.pointer ∧ r.signature = r'.signature ∧
      last? index? r.settings = last? index? r'.settings ∧
      last? opcode? r.settings = last? opcode? r'.settings ∧
      (last? availability? r.settings).getD .any =
        (last? availability? r'.settings).getD .any) ∧
    (∀ settings : List (Setting Availability),
      (∀ f, (settings.filter fun x => x.field = f) = r.settings.filter fun x => x.field = f) →
      (r.withSettings settings).build = r.build) ∧
    (∀ before x after, r.settings = before ++ x :: after →
      (∃ y ∈ after, y.field = x.field) → (r.withSettings (before ++ after)).build = r.build) ∧
    r.states.length = r.settings.length + 1 ∧
    (∀ done rest, r.settings = done ++ rest → ∃ s, r.states[done.length]? = some s ∧
      (r.withSettings done).Makes s ∧ s.suite? = r.start.suite? ∧
      s.operator? = (last? opcode? done).map Slot.operatorOf ∧
      (s.isReflected = true ↔ r.signature = .binaryNumber ∧ last? index? done = some 1)) := by
  have hmakes := makes_build r
  refine ⟨hmakes, fun r' => hmakes.eq_iff (makes_build r'), ?_, ?_, ?_, ?_⟩
  · intro settings h
    exact build_eq_of_filter_field_eq r h
  · rintro before x after hsettings ⟨y, hy, hfield⟩
    rw [← build_eq_of_overwritten r hy hfield before, ← hsettings]
    rfl
  · rw [states, List.length_cons, length_slotsAfter]
  · intro done rest hsettings
    have hdone := makes_build (r.withSettings done)
    exact ⟨_, getElem?_states hsettings, hdone, hdone.suite?, hdone.operator?,
      hdone.isReflected_iff⟩

/-- A recipe that sets the index twice. -/
def reflectedAddition : Recipe Signature Availability where
  method := "__radd__"
  pointer := "nb_add"
  signature := .binaryNumber
  settings := [.index 0, .opcode "BINARY_ADD", .availability .any, .index 1]

/-- The recipe with settings in another order, or without the first index, makes the same slot,
which is reflected after its last setting. -/
theorem last_settings_decide_reflectedAddition :
    (∀ f, ([.availability .any, .index 0, .index 1, .opcode "BINARY_ADD"].filter
      fun x : Setting Availability => x.field = f) =
        reflectedAddition.settings.filter fun x => x.field = f) ∧
    (reflectedAddition.withSettings
      [.availability .any, .index 0, .index 1, .opcode "BINARY_ADD"]).build =
        reflectedAddition.build ∧
    (reflectedAddition.withSettings [.opcode "BINARY_ADD", .availability .any, .index 1]).build =
      reflectedAddition.build ∧
    ∃ s, reflectedAddition.states[4]? = some s ∧ s.operator? = some "ADD" ∧
      s.isReflected = true := by
  obtain ⟨-, -, hreorder, hoverwritten, -, hstates⟩ := last_settings_decide reflectedAddition
  have hfilter : ∀ f, ([.availability .any, .index 0, .index 1, .opcode "BINARY_ADD"].filter
      fun x : Setting Availability => x.field = f) =
        reflectedAddition.settings.filter fun x => x.field = f := by
    intro f
    cases f <;> rfl
  refine ⟨hfilter, hreorder _ hfilter, ?_, ?_⟩
  · exact hoverwritten [] (.index 0) _ rfl ⟨.index 1, by simp, rfl⟩
  · obtain ⟨s, hs, -, -, hoperator, hreflected⟩ := hstates reflectedAddition.settings [] rfl
    exact ⟨s, hs, hoperator.trans (by decide +kernel), hreflected.2 ⟨rfl, rfl⟩⟩

end Recipe

end TypeSlots
