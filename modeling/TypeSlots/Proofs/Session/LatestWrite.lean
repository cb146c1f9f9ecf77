import TypeSlots.Proofs.Session.KeptIndex
import TypeSlots.Proofs.Target.Selection
import Mathlib.Data.List.Induction

/-!
# What the answers of a session depend on

The value of a variable at some point of a session is the one that the latest request to write it
has left there (`Latest`, `latest_iff`). A question writes nothing, so every variable has the value
that it has without the question (`environment_after_ask`). The target version and the slots to use
are worked out anew from the value of the target variable at the moment of the question. Of what
other questions leave to the next ones there is only the index of methods, and where this has been
made before the session starts, they have one answer throughout.
-/

set_option autoImplicit false

namespace TypeSlots

/-- Whether a request writes a variable: it sets it or unsets it. -/
def Request.writes (name : VariableName) : Request → Bool
  | set changed _ => changed == name
  | unset erased => erased == name
  | ask _ => false

namespace Session

variable {env : Environment} {name : VariableName}

/-- No request of a list writes a variable. -/
def Unwritten (name : VariableName) (rs : List Request) : Prop :=
  ∀ r ∈ rs, r.writes name = false

/-- The value of a variable after some requests: what the latest request to write it has left, or
what it was before all of them. -/
inductive Latest (env : Environment) (name : VariableName) :
    List Request → Option (List UInt8) → Prop
  | unwritten {past : List Request} :
    Unwritten name past → Latest env name past (env.get? name)
  | set {before after : List Request} {octets : List UInt8} :
    Unwritten name after → Latest env name (before ++ .set name octets :: after) (some octets)
  | unset {before after : List Request} :
    Unwritten name after → Latest env name (before ++ .unset name :: after) none

/-- The reply to a question that is asked after some requests and before others. -/
def replyBetween (tables : Catalogue) (session : Session) (past : List Request) (q : Query)
    (rest : List Request) : Option Reply :=
  (proceed tables session (past ++ .ask q :: rest)).1[past.length]?

/-! ## One request -/

/-- A request that does not write a variable leaves its value. -/
theorem get?_answer {r : Request} (h : r.writes name = false) (tables : Catalogue)
    (session : Session) :
    (r.answer tables session).2.environment.get? name = session.environment.get? name := by
  cases r with
  | set changed value =>
    have hne : ¬ name = changed := by
      rintro rfl
      simp [Request.writes] at h
    exact (Environment.get?_set _ _ _ _).trans (if_neg hne)
  | unset erased =>
    have hne : ¬ name = erased := by
      rintro rfl
      simp [Request.writes] at h
    exact (Environment.get?_unset _ _ _).trans (if_neg hne)
  | ask q => exact congrArg (fun env => env.get? name) (q.environment_answer tables session)

theorem unwritten_nil (name : VariableName) : Unwritten name [] := by
  intro r hr
  simp at hr

theorem Unwritten.snoc {rs : List Request} (h : Unwritten name rs) {r : Request}
    (hr : r.writes name = false) : Unwritten name (rs ++ [r]) := by
  intro x hx
  rcases List.mem_append.1 hx with hx | hx
  · exact h x hx
  · obtain rfl := List.mem_singleton.1 hx
    exact hr

/-- One more request that does not write a variable leaves its latest value. -/
theorem Latest.snoc {past : List Request} {value : Option (List UInt8)}
    (h : Latest env name past value) {r : Request} (hr : r.writes name = false) :
    Latest env name (past ++ [r]) value := by
  cases h with
  | unwritten hpast => exact .unwritten (hpast.snoc hr)
  | set hafter =>
    rw [List.append_assoc, List.cons_append]
    exact .set (hafter.snoc hr)
  | unset hafter =>
    rw [List.append_assoc, List.cons_append]
    exact .unset (hafter.snoc hr)

/-! ## A whole session -/

theorem after_append (tables : Catalogue) (session : Session) (past rest : List Request) :
    after tables session (past ++ rest) = after tables (after tables session past) rest := by
  rw [after, proceed_append]
  rfl

/-- A question is answered within the session that the requests before it have left. -/
theorem replyBetween_eq (tables : Catalogue) (session : Session) (past : List Request) (q : Query)
    (rest : List Request) :
    replyBetween tables session past q rest =
      some ⟨.ask q, (q.answer tables (after tables session past)).1⟩ := by
  have hlength := length_proceed tables session past
  rw [replyBetween, proceed_append, List.getElem?_append_right (by omega), hlength, Nat.sub_self]
  rfl

/-- Sessions in one environment stay in one environment, whatever index they hold. -/
theorem environment_after_congr (tables : Catalogue) {session session' : Session}
    (h : session.environment = session'.environment) (rs : List Request) :
    (after tables session rs).environment = (after tables session' rs).environment := by
  induction rs generalizing session session' with
  | nil => exact h
  | cons r rs ih =>
    apply ih
    cases r with
    | set name value => exact congrArg (fun env => env.set name value) h
    | unset name => exact congrArg (fun env => env.unset name) h
    | ask q => exact ((q.environment_answer _ _).trans h).trans (q.environment_answer _ _).symm

/-- With a question more, the environment is the same. -/
theorem environment_after_ask (tables : Catalogue) (session : Session) (past : List Request)
    (q : Query) (rest : List Request) :
    (after tables session (past ++ .ask q :: rest)).environment =
      (after tables session (past ++ rest)).environment := by
  rw [after_append, after_append, after_cons]
  exact environment_after_congr tables (q.environment_answer _ _) rest

/-- In a session that holds the index, the other replies are the same with a question more. -/
theorem Indexed.eraseIdx_proceed {tables : Catalogue} {session : Session}
    (h : session.Indexed tables.slots) (past : List Request) (q : Query) (rest : List Request) :
    (proceed tables session (past ++ .ask q :: rest)).1.eraseIdx past.length =
      (proceed tables session (past ++ rest)).1 := by
  have hlength := length_proceed tables session past
  have hsame : ((Request.ask q).answer tables (session.after tables past)).2 =
      session.after tables past := q.answer_snd_of_indexed (h.after past)
  rw [proceed_append, proceed_append, List.eraseIdx_append_of_length_le (by omega), hlength,
    Nat.sub_self]
  show _ ++ (proceed tables (session.after tables past) (.ask q :: rest)).1.eraseIdx 0 = _
  rw [proceed_cons, List.eraseIdx_zero, List.tail_cons, hsame]
  rfl

/-- Requests that do not write a variable leave its value. -/
theorem Unwritten.get?_after {rs : List Request} (h : Unwritten name rs) (tables : Catalogue)
    (session : Session) :
    (after tables session rs).environment.get? name = session.environment.get? name := by
  induction rs generalizing session with
  | nil => rfl
  | cons r rs ih =>
    have hrest := ih (fun x hx => h x (List.mem_cons_of_mem r hx)) (r.answer tables session).2
    exact hrest.trans (get?_answer (h r List.mem_cons_self) tables session)

theorem Latest.get?_after {session : Session} {past : List Request} {value : Option (List UInt8)}
    (h : Latest session.environment name past value) (tables : Catalogue) :
    (after tables session past).environment.get? name = value := by
  cases h with
  | unwritten hpast => exact hpast.get?_after tables session
  | set hafter =>
    rw [after_append]
    refine (hafter.get?_after tables _).trans ?_
    exact (Environment.get?_set _ _ _ _).trans (if_pos rfl)
  | unset hafter =>
    rw [after_append]
    refine (hafter.get?_after tables _).trans ?_
    exact (Environment.get?_unset _ _ _).trans (if_pos rfl)

/-- Every variable has a latest value. -/
theorem exists_latest (env : Environment) (name : VariableName) (past : List Request) :
    ∃ value, Latest env name past value := by
  -- From the end of the session: the last request writes the variable, or what was written before
  -- it still counts.
  induction past using List.reverseRecOn with
  | nil => exact ⟨_, .unwritten (unwritten_nil name)⟩
  | append_singleton past r ih =>
    obtain ⟨value, h⟩ := ih
    by_cases hr : r.writes name = false
    · exact ⟨value, h.snoc hr⟩
    · cases r with
      | set changed octets =>
        obtain rfl : changed = name := by simpa [Request.writes] using hr
        exact ⟨_, .set (unwritten_nil changed)⟩
      | unset erased =>
        obtain rfl : erased = name := by simpa [Request.writes] using hr
        exact ⟨_, .unset (unwritten_nil erased)⟩
      | ask q => exact absurd rfl hr

/-- A variable has its latest value and no other. -/
theorem latest_iff (tables : Catalogue) (session : Session) (name : VariableName)
    (past : List Request) (value : Option (List UInt8)) :
    Latest session.environment name past value ↔
      (after tables session past).environment.get? name = value := by
  constructor
  · exact fun h => h.get?_after tables
  · rintro rfl
    obtain ⟨value, h⟩ := exists_latest session.environment name past
    rwa [h.get?_after tables]

/-! ## What does not count -/

/-- Of requests that do not write a variable none is left among those that do. -/
theorem Unwritten.filter_eq_nil {rs : List Request} (h : Unwritten name rs) :
    rs.filter (Request.writes name) = [] := by
  apply List.filter_eq_nil_iff.2
  intro r hr
  simp [h r hr]

/-- Only the requests that write a variable count for its latest value. -/
theorem Latest.filter {past : List Request} {value : Option (List UInt8)}
    (h : Latest env name past value) :
    Latest env name (past.filter (Request.writes name)) value := by
  cases h with
  | unwritten hpast =>
    rw [hpast.filter_eq_nil]
    exact .unwritten (unwritten_nil name)
  | set hafter =>
    rw [List.filter_append, List.filter_cons_of_pos (by simp [Request.writes]),
      hafter.filter_eq_nil]
    exact .set (unwritten_nil name)
  | unset hafter =>
    rw [List.filter_append, List.filter_cons_of_pos (by simp [Request.writes]),
      hafter.filter_eq_nil]
    exact .unset (unwritten_nil name)

/-- Of the environment before all requests only the variable itself counts. -/
theorem Latest.of_get?_eq {env' : Environment} (hget : env.get? name = env'.get? name)
    {past : List Request} {value : Option (List UInt8)} (h : Latest env name past value) :
    Latest env' name past value := by
  cases h with
  | unwritten hpast =>
    rw [hget]
    exact .unwritten hpast
  | set hafter => exact .set hafter
  | unset hafter => exact .unset hafter

/-- Sessions that write a variable in the same way leave it with one value, whatever they ask and
whatever else they write. -/
theorem get?_after_eq_of_filter_eq (tables : Catalogue) {session session' : Session}
    (hget : session.environment.get? name = session'.environment.get? name)
    {past past' : List Request}
    (hwrites : past.filter (Request.writes name) = past'.filter (Request.writes name)) :
    (after tables session past).environment.get? name =
      (after tables session' past').environment.get? name := by
  have h := ((latest_iff tables session name past _).2 rfl).filter.of_get?_eq hget
  have h' := ((latest_iff tables session' name past' _).2 rfl).filter
  rw [hwrites] at h
  exact ((latest_iff tables session' name _ _).1 h).symm.trans
    ((latest_iff tables session' name _ _).1 h')

/-! ## The target of a session -/

/-- The answers about the target, by the environment. -/
theorem answer_target (tables : Catalogue) (session : Session) :
    (Query.answer tables .targetVersion session).1 = Target.version session.environment ∧
      (Query.answer tables .targetSlots session).1 =
        Target.slots tables.slots session.environment :=
  ⟨rfl, rfl⟩

/-- Environments with one value of the target variable have one target and the same slots. -/
theorem target_congr {env' : Environment}
    (h : env.get? Environment.targetVariable = env'.get? Environment.targetVariable)
    (table : List Slot) :
    Target.version env = Target.version env' ∧
      Target.slots table env = Target.slots table env' := by
  have hversion : Target.version env = Target.version env' := by
    rw [Target.version, Target.version, h]
  refine ⟨hversion, ?_⟩
  rw [Target.slots_eq, Target.slots_eq, hversion]

/-- A session reads its configuration anew, and asking changes nothing. At every point of a session
each variable has one latest value, that of the latest request to write it, and it is this value
that a question about the variable is answered with. The target version and the slots to use, with
their events, are what this value of the target variable selects; so they are the same in two
sessions that write this variable in the same way, whatever else these write and ask. With a
question more, a session leaves the environment that it leaves without, and where the index has been
made before, every other request has the same reply, and a question that is not about the
environment is answered everywhere as at the start. Making the index is reported once, with the
first question about it, and never where it has been made before. -/
theorem session_answers_by_latest_write (tables : Catalogue) :
    (∀ (session : Session) name past, ∃ value, Latest session.environment name past value ∧
      ∀ rest, replyBetween tables session past (.variableValue name) rest =
        some ⟨.ask (.variableValue name), .quiet value⟩) ∧
    (∀ (session : Session) past value,
      Latest session.environment Environment.targetVariable past value → ∀ rest,
      ∃ target used,
        replyBetween .standard session past .targetVersion rest =
          some ⟨.ask .targetVersion, target⟩ ∧
        replyBetween .standard session past .targetSlots rest =
          some ⟨.ask .targetSlots, used⟩ ∧
        Target.Selection value target used) ∧
    (∀ (session session' : Session) past past' rest rest',
      session.environment.get? Environment.targetVariable =
        session'.environment.get? Environment.targetVariable →
      past.filter (Request.writes Environment.targetVariable) =
        past'.filter (Request.writes Environment.targetVariable) →
      replyBetween tables session past .targetVersion rest =
        replyBetween tables session' past' .targetVersion rest' ∧
      replyBetween tables session past .targetSlots rest =
        replyBetween tables session' past' .targetSlots rest') ∧
    (∀ (session : Session) past q rest,
      (after tables session (past ++ .ask q :: rest)).environment =
        (after tables session (past ++ rest)).environment) ∧
    (∀ env past q rest,
      (run tables env (past ++ .ask q :: rest)).1.eraseIdx past.length =
        (run tables env (past ++ rest)).1) ∧
    (∀ env (q : Query), q.readsEnvironment = false → ∀ past rest,
      replyBetween tables (opened tables.slots env) past q rest =
        replyBetween tables (opened tables.slots env) [] q []) ∧
    (∀ session : Session, session.Faithful tables.slots → ∀ rs,
      indexReports (proceed tables session rs).1 =
        if session.index?.isNone && rs.any Request.usesIndex then [madeReport tables.slots]
        else []) := by
  refine ⟨?_, ?_, ?_, environment_after_ask tables, ?_, ?_, fun _ => indexReports_proceed⟩
  · intro session name past
    obtain ⟨value, h⟩ := exists_latest session.environment name past
    refine ⟨value, h, fun rest => ?_⟩
    rw [replyBetween_eq, ← h.get?_after tables]
    rfl
  · intro session past value h rest
    obtain ⟨hversion, hslots⟩ := answer_target .standard (after .standard session past)
    refine ⟨_, _, replyBetween_eq _ _ _ _ _, replyBetween_eq _ _ _ _ _, ?_⟩
    rw [hversion, hslots, ← h.get?_after .standard]
    exact Target.selection_ofValue _
  · intro session session' past past' rest rest' hget hwrites
    obtain ⟨hversion, hslots⟩ :=
      target_congr (get?_after_eq_of_filter_eq tables hget hwrites) tables.slots
    obtain ⟨htarget, hused⟩ := answer_target tables (after tables session past)
    obtain ⟨htarget', hused'⟩ := answer_target tables (after tables session' past')
    constructor
    · rw [replyBetween_eq, replyBetween_eq, htarget, htarget', hversion]
    · rw [replyBetween_eq, replyBetween_eq, hused, hused', hslots]
  · intro env past q rest
    exact (indexed_opened tables.slots env).eraseIdx_proceed past q rest
  · intro env q hq past rest
    have hopened := indexed_opened tables.slots env
    rw [replyBetween_eq, replyBetween_eq,
      Query.answer_eq_of_indexed hq (hopened.after past) (hopened.after [])]

/-- Requests after which the target variable has the second value that it is set to: there are
questions about the first value and about the index, and a variable is set whose name is no text. -/
def secondWrite : List Request :=
  [.set Environment.targetVariable [50], .ask .targetVersion, .ask .indexedMethods] ++
    .set Environment.targetVariable [51, 46, 57] :: [.set ⟨[0xFF]⟩ [52]]

theorem session_reads_second_write :
    Latest .empty Environment.targetVariable secondWrite (some [51, 46, 57]) ∧
    (∃ target used,
      replyBetween .standard (fresh .empty) secondWrite .targetVersion
          [.unset Environment.targetVariable] = some ⟨.ask .targetVersion, target⟩ ∧
      replyBetween .standard (fresh .empty) secondWrite .targetSlots
          [.unset Environment.targetVariable] = some ⟨.ask .targetSlots, used⟩ ∧
      Target.Selection (some [51, 46, 57]) target used) ∧
    indexReports (proceed .standard (fresh .empty) secondWrite).1 = [madeReport Slot.table] := by
  have hlatest : Latest .empty Environment.targetVariable secondWrite (some [51, 46, 57]) := by
    apply Latest.set
    intro r hr
    obtain rfl := List.mem_singleton.1 hr
    decide +kernel
  obtain ⟨-, htarget, -, -, -, -, hreports⟩ := session_answers_by_latest_write .standard
  have hreport := hreports (fresh .empty) (faithful_fresh _ _) secondWrite
  exact ⟨hlatest, htarget (fresh .empty) secondWrite _ hlatest _, hreport.trans (if_pos rfl)⟩

end Session

end TypeSlots
