import TypeSlots.Proofs.Fault.Chain
import Mathlib.Data.List.Basic

/-!
# What a report says

A report is the wording of a fault and then, under a heading, one numbered line to a cause
(`report_eq`). The causes are met by going from a fault to its immediate cause as long as there is
one (`getElem?_causes_zero`, `getElem?_causes_succ`).

A wording may look like the heading or like a line of a report. As long as no wording has a line
break in it, a report still tells how many causes there are and how each is worded: the breaks end
the lines and nothing else (`eq_of_numberedLines_eq`), so reports are equal exactly when the
wordings are (`report_eq_iff_messages_eq`).
-/

set_option autoImplicit false

namespace TypeSlots.Fault

/-- The lines for causes with given wordings, numbered from `number` as far as 32 bits go. -/
def numberedLines (number : Int32) (texts : List String) : String :=
  String.join (texts.mapIdx fun i text => reportLine (number + .ofNat i) text)

/-- What a report adds to the wording of a fault: a heading and the lines of the causes, if there
are any. -/
def causeSection : List String → String
  | [] => ""
  | text :: texts => "\ncaused by:\n" ++ numberedLines 0 (text :: texts)

/-- No wording of a fault or of one of its causes has a line break in it. -/
def OneLine (fault : Fault) : Prop :=
  ∀ link ∈ fault.links, '\n' ∉ link.message.toList

instance (fault : Fault) : Decidable fault.OneLine :=
  inferInstanceAs (Decidable (∀ link ∈ fault.links, '\n' ∉ link.message.toList))

/-! ## The causes in turn -/

theorem numberedLines_cons (number : Int32) (text : String) (texts : List String) :
    numberedLines number (text :: texts) =
      reportLine number text ++ numberedLines (number + 1) texts := by
  have hfirst : number + .ofNat 0 = number := Int32.add_zero number
  have hnext : (fun i text => reportLine (number + .ofNat (i + 1)) text) =
      fun i text => reportLine (number + 1 + .ofNat i) text := by
    funext i text
    rw [Nat.add_comm i 1, Int32.ofNat_add, ← Int32.add_assoc]
    rfl
  rw [numberedLines, List.mapIdx_cons, String.join_cons, hnext, hfirst]
  rfl

/-- One line is written for a fault, and then those for its cause under the next number. -/
theorem reportFrom_eq_line (number : Int32) (fault : Fault) :
    fault.reportFrom number = reportLine number fault.message ++
      (fault.cause?.map fun cause => cause.reportFrom (number + 1)).getD "" := by
  cases fault with
  | numeral defect => exact (String.append_empty).symm
  | stated problem => exact (String.append_empty).symm
  | wrapped problem cause => rfl

/-- A fault and its causes are written one line to each. -/
theorem reportFrom_eq_numberedLines (number : Int32) (fault : Fault) :
    fault.reportFrom number = numberedLines number (fault.links.map message) := by
  induction fault generalizing number with
  | numeral defect =>
    rw [reportFrom_eq_line, links, List.map_cons, numberedLines_cons]
    rfl
  | stated problem =>
    rw [reportFrom_eq_line, links, List.map_cons, numberedLines_cons]
    rfl
  | wrapped problem cause ih =>
    rw [reportFrom_eq_line, links_wrapped, List.map_cons, numberedLines_cons, ← ih]
    rfl

/-- A report is the wording of the fault and the lines of its causes. -/
theorem report_eq (fault : Fault) :
    fault.report = fault.message ++ causeSection (fault.causes.map message) := by
  cases fault with
  | numeral defect => exact (String.append_empty).symm
  | stated problem => exact (String.append_empty).symm
  | wrapped problem cause =>
    have hlines := reportFrom_eq_numberedLines 0 cause
    rw [links, List.map_cons] at hlines
    rw [causes, List.map_cons, causeSection, ← hlines, ← String.append_assoc]
    rfl

/-! ## The numbers of the lines -/

/-- Control: the number after that of the last place that 32 bits can count. -/
example : reportLine (.ofNat 2147483648) "a" = "  - -2147483648: a\n" := by
  decide +kernel

/-! ## Telling reports apart -/

/-- A text without a mark is not one that has the mark somewhere. -/
theorem ne_append_mark {mark : Char} {text : List Char} (h : mark ∉ text)
    (first rest : List Char) : text ≠ first ++ mark :: rest := by
  rintro rfl
  exact h (List.mem_append_right _ List.mem_cons_self)

/-- A text without a mark is all that stands before the first mark. -/
theorem append_mark_inj {mark : Char} {first first' rest rest' : List Char} (h : mark ∉ first)
    (h' : mark ∉ first') (heq : first ++ mark :: rest = first' ++ mark :: rest') :
    first = first' ∧ rest = rest' := by
  -- If one of the two were longer, the mark after the other one would stand in it.
  rcases List.append_eq_append_iff.1 heq with ⟨more, hfirst, hmore⟩ | ⟨more, hfirst, hmore⟩
  · cases more with
    | nil => exact ⟨by simp [hfirst], by simpa using hmore⟩
    | cons c more =>
      obtain ⟨rfl, -⟩ := List.cons.inj hmore
      exact absurd hfirst (ne_append_mark h' first more)
  · cases more with
    | nil => exact ⟨by simp [hfirst], by simpa using hmore.symm⟩
    | cons c more =>
      obtain ⟨rfl, -⟩ := List.cons.inj hmore
      exact absurd hfirst (ne_append_mark h first' more)

theorem toList_reportLine_append (number : Int32) (text rest : String) :
    (reportLine number text ++ rest).toList =
      ("  - " ++ number.toInt.repr ++ ": ").toList ++ (text.toList ++ '\n' :: rest.toList) := by
  simp [reportLine]

/-- The line of a number tells its text, and what follows it. -/
theorem reportLine_append_inj {number : Int32} {text text' rest rest' : String}
    (h : '\n' ∉ text.toList) (h' : '\n' ∉ text'.toList)
    (heq : reportLine number text ++ rest = reportLine number text' ++ rest') :
    text = text' ∧ rest = rest' := by
  have hlist := congrArg String.toList heq
  rw [toList_reportLine_append, toList_reportLine_append, List.append_cancel_left_eq] at hlist
  obtain ⟨htext, hrest⟩ := append_mark_inj h h' hlist
  exact ⟨String.toList_inj.1 htext, String.toList_inj.1 hrest⟩

/-- No line is empty. -/
theorem numberedLines_cons_ne_empty (number : Int32) (text : String) (texts : List String) :
    numberedLines number (text :: texts) ≠ "" := by
  intro hempty
  have hlist := congrArg String.toList hempty
  rw [numberedLines_cons, toList_reportLine_append] at hlist
  simp at hlist

/-- Lines without further breaks tell how many texts there are, and each text. -/
theorem eq_of_numberedLines_eq {number : Int32} {texts texts' : List String}
    (h : ∀ text ∈ texts, '\n' ∉ text.toList) (h' : ∀ text ∈ texts', '\n' ∉ text.toList)
    (heq : numberedLines number texts = numberedLines number texts') : texts = texts' := by
  induction texts generalizing number texts' with
  | nil =>
    cases texts' with
    | nil => rfl
    | cons text' texts' => exact absurd heq.symm (numberedLines_cons_ne_empty number text' texts')
  | cons text texts ih =>
    cases texts' with
    | nil => exact absurd heq (numberedLines_cons_ne_empty number text texts)
    | cons text' texts' =>
      rw [numberedLines_cons, numberedLines_cons] at heq
      obtain ⟨rfl, hrest⟩ := reportLine_append_inj (h _ List.mem_cons_self)
        (h' _ List.mem_cons_self) heq
      have hnext : texts = texts' := by
        apply ih _ _ hrest
        · exact fun t ht => h t (List.mem_cons_of_mem _ ht)
        · exact fun t ht => h' t (List.mem_cons_of_mem _ ht)
      rw [hnext]

theorem toList_append_causeSection_nil (text : String) :
    (text ++ causeSection []).toList = text.toList := by
  simp [causeSection]

theorem toList_append_causeSection_cons (text cause : String) (causes : List String) :
    (text ++ causeSection (cause :: causes)).toList =
      text.toList ++ '\n' :: ("caused by:\n" ++ numberedLines 0 (cause :: causes)).toList := by
  simp [causeSection]

/-- A wording without a break is told from the section of causes after it. -/
theorem append_causeSection_inj {text text' : String} {causes causes' : List String}
    (h : ∀ t ∈ text :: causes, '\n' ∉ t.toList) (h' : ∀ t ∈ text' :: causes', '\n' ∉ t.toList)
    (heq : text ++ causeSection causes = text' ++ causeSection causes') :
    text = text' ∧ causes = causes' := by
  obtain ⟨htext, hcauses⟩ := List.forall_mem_cons.1 h
  obtain ⟨htext', hcauses'⟩ := List.forall_mem_cons.1 h'
  have hlist := congrArg String.toList heq
  -- A section of causes starts with a break, which no wording on the other side can hold.
  cases causes with
  | nil =>
    rw [toList_append_causeSection_nil] at hlist
    cases causes' with
    | nil =>
      rw [toList_append_causeSection_nil] at hlist
      exact ⟨String.toList_inj.1 hlist, rfl⟩
    | cons cause' causes' =>
      rw [toList_append_causeSection_cons] at hlist
      exact absurd hlist (ne_append_mark htext _ _)
  | cons cause causes =>
    rw [toList_append_causeSection_cons] at hlist
    cases causes' with
    | nil =>
      rw [toList_append_causeSection_nil] at hlist
      exact absurd hlist.symm (ne_append_mark htext' _ _)
    | cons cause' causes' =>
      rw [toList_append_causeSection_cons] at hlist
      obtain ⟨hwording, hsection⟩ := append_mark_inj htext htext' hlist
      have hlines := (String.append_right_inj _).1 (String.toList_inj.1 hsection)
      exact ⟨String.toList_inj.1 hwording, eq_of_numberedLines_eq hcauses hcauses' hlines⟩

/-- A report identifies its chain. Two faults without line breaks in their wordings have the same
report exactly when they are worded alike, and so are as many causes of them, in the same order. -/
theorem report_eq_iff_messages_eq {a b : Fault} (ha : a.OneLine) (hb : b.OneLine) :
    a.report = b.report ↔
      a.message = b.message ∧ a.causes.map message = b.causes.map message := by
  rw [report_eq, report_eq]
  constructor
  · intro heq
    apply append_causeSection_inj _ _ heq
    · simpa [OneLine, links] using ha
    · simpa [OneLine, links] using hb
  · rintro ⟨hmessage, hcauses⟩
    rw [hmessage, hcauses]

/-- Two faults that differ in kind only, one link being worded like a heading: their reports are the
same, and so are the wordings. -/
theorem messages_eq_of_lookalike_reports :
    (wrapped (.note "caused by:") (numeral .empty)).OneLine ∧
    (wrapped (.note "caused by:") (stated (.note Numeral.Defect.empty.message))).OneLine ∧
    (wrapped (.note "caused by:") (numeral .empty)).report =
      (wrapped (.note "caused by:") (stated (.note Numeral.Defect.empty.message))).report ∧
    (wrapped (.note "caused by:") (numeral .empty)).message =
      (wrapped (.note "caused by:") (stated (.note Numeral.Defect.empty.message))).message ∧
    (wrapped (.note "caused by:") (numeral .empty)).causes.map message =
      (wrapped (.note "caused by:") (stated (.note Numeral.Defect.empty.message))).causes.map
        message := by
  have hreport : (wrapped (.note "caused by:") (numeral .empty)).report =
      (wrapped (.note "caused by:") (stated (.note Numeral.Defect.empty.message))).report := by
    decide +kernel
  have hleft : (wrapped (.note "caused by:") (numeral .empty)).OneLine := by decide +kernel
  have hright :
      (wrapped (.note "caused by:") (stated (.note Numeral.Defect.empty.message))).OneLine := by
    decide +kernel
  exact ⟨hleft, hright, hreport, (report_eq_iff_messages_eq hleft hright).1 hreport⟩

/-- Control: a line break in a wording can hide a cause. -/
example :
    (stated (.note "a\ncaused by:\n  - 0: b\n")).report =
      (wrapped (.note "a") (stated (.note "b"))).report := by
  decide +kernel

end TypeSlots.Fault
