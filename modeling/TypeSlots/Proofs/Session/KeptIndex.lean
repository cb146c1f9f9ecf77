import TypeSlots.Session
import TypeSlots.Proofs.Dispatch.Operators

/-!
# The index that a session keeps

The index of methods is made for the first question about it, and the session keeps it. A question
is answered from the index, from the environment or from the tables (`Query.source`), and all that
it can do follows from this. As long as the index that a session holds is that of the table
(`Faithful`), one request leaves it so (`Faithful.answer`), and so does a whole session
(`Faithful.after`); an index that has been made stays (`Indexed.after`). Making the index is
reported once in a session, with the first question about it, and not at all in a session that
starts with it (`indexReports_proceed`). A question that is not about the environment has one answer
in all sessions that hold the index (`Query.answer_eq_of_indexed`).
-/

set_option autoImplicit false

namespace TypeSlots

/-- Whether a question is about the environment. -/
def Query.readsEnvironment : Query → Bool
  | variableValue _ => true
  | targetVersion => true
  | targetSlots => true
  | _ => false

/-- Whether a question is about the index of methods. -/
def Query.usesIndex : Query → Bool
  | indexed _ => true
  | indexedMethods => true
  | index => true
  | _ => false

/-- Whether a request asks about the index of methods. -/
def Request.usesIndex : Request → Bool
  | ask q => q.usesIndex
  | _ => false

/-- Whether an event is the report that the index was made. -/
def Event.isIndexReport : Event → Bool
  | slotsIndexed .. => true
  | _ => false

namespace Session

variable {table : List Slot} {tables : Catalogue} {session : Session}

/-- The session after some requests. -/
def after (tables : Catalogue) (session : Session) (rs : List Request) : Session :=
  (proceed tables session rs).2

/-- The reports of some replies that the index was made. -/
def indexReports (replies : List Reply) : List Event :=
  replies.flatMap fun reply => reply.answer.events.filter Event.isIndexReport

/-- If the session holds an index, then that of a table. -/
def Faithful (table : List Slot) (session : Session) : Prop :=
  ∀ made, session.index? = some made → made = .ofTable table

/-- The session holds the index of a table. -/
def Indexed (table : List Slot) (session : Session) : Prop :=
  session.index? = some (.ofTable table)

/-- The report that the index of a table was made. -/
def madeReport (table : List Slot) : Event :=
  .slotsIndexed table.length (MethodIndex.ofTable table).groups.size

/-! ## Asking for the index -/

theorem faithful_fresh (table : List Slot) (env : Environment) : (fresh env).Faithful table := by
  intro made h
  cases h

theorem Indexed.faithful (h : session.Indexed table) : session.Faithful table := by
  intro made hmade
  exact (Option.some.inj (h.symm.trans hmade)).symm

/-- The answer is the index of the table, with a report if it has not been there, and the session
holds it from then on. -/
theorem Faithful.index_eq (h : session.Faithful table) :
    index table session =
      (⟨.ofTable table, if session.index?.isNone then [madeReport table] else []⟩,
        { session with index? := some (.ofTable table) }) := by
  obtain ⟨env, index?⟩ := session
  cases index? with
  | none => rfl
  | some made =>
    obtain rfl : made = .ofTable table := h made rfl
    rfl

/-- Asking for the index changes no variable. -/
theorem environment_index (table : List Slot) (session : Session) :
    (index table session).2.environment = session.environment := by
  obtain ⟨env, index?⟩ := session
  cases index? <;> rfl

theorem indexed_opened (table : List Slot) (env : Environment) :
    (opened table env).Indexed table := rfl

end Session

/-! ## One request -/

namespace Query

open Session

variable {tables : Catalogue} {session session' : Session}

/-- The journal of the operators has no report of the index. -/
theorem filter_isIndexReport_operators (table : List Slot) :
    (Dispatch.operators table).events.filter Event.isIndexReport = [] := by
  have hevents : (Dispatch.operators table).events = Dispatch.overridesIn table ++
      [.operatorsMapped (table.foldl Dispatch.enter (.quiet .empty)).value.size] :=
    congrArg (· ++ [_]) (Dispatch.entered_foldl table).events
  rw [hevents, List.filter_eq_nil_iff]
  intro e he
  rcases List.mem_append.1 he with hover | hlast
  · have hlevel := Dispatch.level_of_mem_overridesIn hover
    cases e <;> simp [Event.level, Event.isIndexReport] at *
  · obtain rfl := List.mem_singleton.1 hlast
    simp [Event.isIndexReport]

theorem filter_isIndexReport_ofValue (value : Option (List UInt8)) :
    (Target.ofValue value).events.filter Event.isIndexReport = [] := by
  cases value with
  | none => rfl
  | some octets =>
    rw [Target.ofValue]
    cases Target.read octets <;> rfl

/-- What a question is answered from. Only what is drawn from the index can report that the index
was made, and can change the session. -/
inductive Source (tables : Catalogue) (q : Query) : Prop
  | index {f : MethodIndex → q.Answer} :
    (∀ session, q.answer tables session =
      ((Session.index tables.slots session).1.map f, (Session.index tables.slots session).2)) →
    q.usesIndex = true → q.readsEnvironment = false → Source tables q
  | environment {f : Environment → Logged q.Answer} :
    (∀ session : Session, q.answer tables session = (f session.environment, session)) →
    q.usesIndex = false → q.readsEnvironment = true →
    (∀ env, (f env).events.filter Event.isIndexReport = []) → Source tables q
  | catalogue {answer : Logged q.Answer} :
    (∀ session, q.answer tables session = (answer, session)) →
    q.usesIndex = false → q.readsEnvironment = false →
    answer.events.filter Event.isIndexReport = [] → Source tables q

/-- Every question has one of the three sources. -/
theorem source (tables : Catalogue) (q : Query) : q.Source tables := by
  cases q with
  | indexed _ => exact .index (fun _ => rfl) rfl rfl
  | indexedMethods => exact .index (fun _ => rfl) rfl rfl
  | index => exact .index (f := id) (fun _ => rfl) rfl rfl
  | variableValue name =>
    exact .environment (f := fun env => .quiet (env.get? name)) (fun _ => rfl) rfl rfl fun _ => rfl
  | targetVersion =>
    exact .environment (fun _ => rfl) rfl rfl fun _ => filter_isIndexReport_ofValue _
  | targetSlots =>
    exact .environment (fun _ => rfl) rfl rfl fun _ => filter_isIndexReport_ofValue _
  | operators => exact .catalogue (fun _ => rfl) rfl rfl (filter_isIndexReport_operators _)
  | operator _ => exact .catalogue (fun _ => rfl) rfl rfl (filter_isIndexReport_operators _)
  | _ => exact .catalogue (fun _ => rfl) rfl rfl rfl

/-- A question changes no variable. -/
theorem environment_answer (tables : Catalogue) (q : Query) (session : Session) :
    (q.answer tables session).2.environment = session.environment := by
  cases q.source tables with
  | index h => exact (congrArg (·.2.environment) (h session)).trans (environment_index _ _)
  | environment h => exact congrArg (·.2.environment) (h session)
  | catalogue h => exact congrArg (·.2.environment) (h session)

/-- A question about the index leaves the session with it, and any other question leaves the session
as it is. -/
theorem index?_answer (h : session.Faithful tables.slots) (q : Query) :
    (q.answer tables session).2.index? =
      if q.usesIndex then some (.ofTable tables.slots) else session.index? := by
  cases q.source tables with
  | index hanswer huses =>
    rw [hanswer, huses, h.index_eq]
    rfl
  | environment hanswer huses =>
    rw [hanswer, huses]
    rfl
  | catalogue hanswer huses =>
    rw [hanswer, huses]
    rfl

/-- A question leaves a session that holds the index as it is. -/
theorem answer_snd_of_indexed (h : session.Indexed tables.slots) (q : Query) :
    (q.answer tables session).2 = session := by
  have hindex : (q.answer tables session).2.index? = session.index? := by
    rw [index?_answer h.faithful, h]
    exact ite_self _
  exact Session.ext (environment_answer tables q session) hindex

/-- A question that is not about the environment has one answer in all sessions that hold the
index. -/
theorem answer_eq_of_indexed {q : Query} (hq : q.readsEnvironment = false)
    (h : session.Indexed tables.slots) (h' : session'.Indexed tables.slots) :
    (q.answer tables session).1 = (q.answer tables session').1 := by
  cases q.source tables with
  | index hanswer =>
    rw [hanswer, hanswer, h.faithful.index_eq, h'.faithful.index_eq, h, h']
  | environment _ _ hreads => exact absurd (hq.symm.trans hreads) (by decide)
  | catalogue hanswer => rw [hanswer, hanswer]

/-- Only a question about the index reports that it was made, if it has not been there. -/
theorem filter_isIndexReport_answer (h : session.Faithful tables.slots) (q : Query) :
    (q.answer tables session).1.events.filter Event.isIndexReport =
      if q.usesIndex && session.index?.isNone then [madeReport tables.slots] else [] := by
  cases q.source tables with
  | index hanswer huses =>
    rw [hanswer, huses, h.index_eq]
    cases session.index?.isNone <;> rfl
  | environment hanswer huses _ hevents =>
    rw [hanswer, huses]
    exact hevents _
  | catalogue hanswer huses _ hevents =>
    rw [hanswer, huses]
    exact hevents

end Query

namespace Session

variable {tables : Catalogue} {session : Session}

/-- A request about the index leaves the session with it, and any other request leaves the index as
it is. -/
theorem index?_answer (h : session.Faithful tables.slots) (r : Request) :
    (r.answer tables session).2.index? =
      if r.usesIndex then some (.ofTable tables.slots) else session.index? := by
  cases r with
  | set name value => rfl
  | unset name => rfl
  | ask q => exact Query.index?_answer h q

/-- One request leaves the index that a session holds that of the table. -/
theorem Faithful.answer (h : session.Faithful tables.slots) (r : Request) :
    (r.answer tables session).2.Faithful tables.slots := by
  intro made hmade
  rw [index?_answer h] at hmade
  split at hmade
  · exact (Option.some.inj hmade).symm
  · exact h made hmade

/-- One request leaves the index in a session that holds it. -/
theorem Indexed.answer (h : session.Indexed tables.slots) (r : Request) :
    (r.answer tables session).2.Indexed tables.slots := by
  rw [Indexed, index?_answer h.faithful, h]
  exact ite_self _

theorem filter_isIndexReport_answer (h : session.Faithful tables.slots) (r : Request) :
    (r.answer tables session).1.events.filter Event.isIndexReport =
      if r.usesIndex && session.index?.isNone then [madeReport tables.slots] else [] := by
  cases r with
  | set name value => rfl
  | unset name => rfl
  | ask q => exact Query.filter_isIndexReport_answer h q

/-! ## A whole session -/

theorem after_cons (tables : Catalogue) (session : Session) (r : Request) (rs : List Request) :
    after tables session (r :: rs) = after tables (r.answer tables session).2 rs := rfl

theorem Faithful.after (h : session.Faithful tables.slots) (rs : List Request) :
    (session.after tables rs).Faithful tables.slots := by
  induction rs generalizing session with
  | nil => exact h
  | cons r rs ih => exact ih (h.answer r)

theorem Indexed.after (h : session.Indexed tables.slots) (rs : List Request) :
    (session.after tables rs).Indexed tables.slots := by
  induction rs generalizing session with
  | nil => exact h
  | cons r rs ih => exact ih (h.answer r)

/-- In a session the making of the index is reported once, if there is a question about it and it
has not been made before, and otherwise never. -/
theorem indexReports_proceed (h : session.Faithful tables.slots) (rs : List Request) :
    indexReports (proceed tables session rs).1 =
      if session.index?.isNone && rs.any Request.usesIndex then [madeReport tables.slots]
      else [] := by
  induction rs generalizing session with
  | nil => simp [proceed, indexReports]
  | cons r rs ih =>
    have hrest := ih (h.answer r)
    rw [index?_answer h] at hrest
    rw [indexReports] at hrest ⊢
    rw [proceed_cons, List.flatMap_cons, hrest, filter_isIndexReport_answer h]
    -- Whoever asks first makes the index, so the requests after that one find it.
    by_cases hr : r.usesIndex = true
    · simp [hr]
    · simp [hr]

end Session

end TypeSlots
