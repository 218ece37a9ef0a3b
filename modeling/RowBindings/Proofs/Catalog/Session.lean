import RowBindings.Catalog.Session
import RowBindings.Proofs.Catalog.Modifiers

/-!
# The queries for a schema

A schema is read with one query after the other: its enumeration types, its tables, then the columns
of each table listed. They are sent in this order up to the first that fails, and nothing is read
then; if none fails, the schema is made of their rows, in the order of the rows.
-/

namespace RowBindings.Catalog

/-! ## What is said about a failed query -/

/-- The schema that a query is about. -/
def Query.schema : Query → String
  | .enumerations schema | .tables schema | .columns schema _ => schema

/-- What is said about a failed query tells it from the others for the same schema. -/
theorem QueryFailure.query_eq_of_message_eq {schema : String} {q other : Query}
    (hq : q.schema = schema) (hother : other.schema = schema)
    (h : (⟨schema, q⟩ : QueryFailure).message = (⟨schema, other⟩ : QueryFailure).message) :
    q = other := by
  subst hother
  have htext := congrArg String.toList h
  -- the three kinds of messages differ in their fourth word
  cases q with
  | enumerations =>
    cases other with
    | enumerations => exact congrArg Query.enumerations hq
    | tables => exact absurd htext (by simp [message])
    | columns => exact absurd htext (by simp [message])
  | tables =>
    cases other with
    | enumerations => exact absurd htext (by simp [message])
    | tables => exact congrArg Query.tables hq
    | columns => exact absurd htext (by simp [message])
  | columns schema table =>
    cases other with
    | enumerations => exact absurd htext (by simp [message])
    | tables => exact absurd htext (by simp [message])
    | columns schema' table' =>
      have htable : table = table' := by
        rwa [message, message, String.append_left_inj, String.append_right_inj] at h
      rw [htable, show schema = schema' from hq]

namespace Session

variable (s : Session) (schema : String)

/-! ## Queries up to the first that fails -/

/-- A query is the first of a list to fail, after those that are `sent` before it. -/
structure FailsFirst (queries sent : List Query) (q : Query) : Prop where
  position : ∃ after, queries = sent ++ q :: after
  answered : ∀ other ∈ sent, s.answers other = true
  failed : s.answers q = false

/-- The first query of a list fails, or it succeeds and one of the others is the first to fail. -/
theorem failsFirst_cons_iff {first q : Query} {queries sent : List Query} :
    s.FailsFirst (first :: queries) sent q
      ↔ (s.answers first = false ∧ q = first ∧ sent = [])
        ∨ (s.answers first = true ∧ ∃ rest, sent = first :: rest ∧ s.FailsFirst queries rest q) := by
  constructor
  · rintro ⟨⟨after, hsplit⟩, hanswered, hfailed⟩
    cases sent with
    | nil =>
      obtain ⟨rfl, -⟩ := List.cons.inj hsplit
      exact Or.inl ⟨hfailed, rfl, rfl⟩
    | cons other rest =>
      obtain ⟨rfl, hrest⟩ := List.cons.inj hsplit
      obtain ⟨hfirst, hanswered⟩ := List.forall_mem_cons.1 hanswered
      exact Or.inr ⟨hfirst, rest, rfl, ⟨after, hrest⟩, hanswered, hfailed⟩
  · rintro (⟨hfailed, rfl, rfl⟩ | ⟨hfirst, rest, rfl, ⟨after, rfl⟩, hanswered, hfailed⟩)
    · exact ⟨⟨queries, rfl⟩, fun _ hmem => absurd hmem List.not_mem_nil, hfailed⟩
    · exact ⟨⟨after, rfl⟩, List.forall_mem_cons.2 ⟨hfirst, hanswered⟩, hfailed⟩

/-- Every query of a list succeeds, or one is the first to fail. -/
theorem answers_or_failsFirst (queries : List Query) :
    (∀ q ∈ queries, s.answers q = true) ∨ ∃ sent q, s.FailsFirst queries sent q := by
  induction queries with
  | nil => exact Or.inl fun _ hmem => absurd hmem List.not_mem_nil
  | cons first queries ih =>
    cases hfirst : s.answers first with
    | false => exact Or.inr ⟨[], first, (s.failsFirst_cons_iff).2 (Or.inl ⟨hfirst, rfl, rfl⟩)⟩
    | true =>
      rcases ih with hall | ⟨sent, q, hq⟩
      · exact Or.inl (List.forall_mem_cons.2 ⟨hfirst, hall⟩)
      · exact Or.inr ⟨first :: sent, q,
          (s.failsFirst_cons_iff).2 (Or.inr ⟨hfirst, sent, rfl, hq⟩)⟩

/-! ## The columns of tables -/

/-- The queries for the columns of the tables listed. -/
def columnQueries (listed : List (String × String)) : List Query :=
  listed.map fun entry => .columns schema entry.1

/-- A table as it is read. -/
def loadTable (listed : String × String) : Table where
  schema := schema
  name := listed.1
  kind := listed.2
  columns := (s.columnRows schema listed.1).map loadColumn

/-- Tables none of whose queries fails are read in order. -/
theorem readTables_of_answers {listed : List (String × String)}
    (h : ∀ entry ∈ listed, s.answers (.columns schema entry.1) = true) :
    s.readTables schema listed
      = (.ok (listed.map (s.loadTable schema)), columnQueries schema listed) := by
  induction listed with
  | nil => rfl
  | cons entry listed ih =>
    obtain ⟨name, kind⟩ := entry
    rw [List.forall_mem_cons] at h
    simp only [readTables, h.1, if_true, ih h.2]
    rfl

/-- Reading tables ends with the first query that fails, and no table is kept. -/
theorem readTables_of_failsFirst {listed : List (String × String)} {sent : List Query} {q : Query}
    (h : s.FailsFirst (columnQueries schema listed) sent q) :
    s.readTables schema listed = (.error ⟨schema, q⟩, sent ++ [q]) := by
  induction listed generalizing sent with
  | nil =>
    obtain ⟨after, hsplit⟩ := h.position
    exact absurd hsplit (List.append_ne_nil_of_right_ne_nil sent (List.cons_ne_nil q after)).symm
  | cons entry listed ih =>
    obtain ⟨name, kind⟩ := entry
    rcases s.failsFirst_cons_iff.1 h with ⟨hfailed, rfl, rfl⟩ | ⟨hfirst, rest, rfl, hrest⟩
    · simp only [readTables, hfailed, Bool.false_eq_true, if_false, List.nil_append]
    · simp only [readTables, hfirst, if_true, ih hrest]
      rfl

/-! ## Whole schemas -/

/-- Whether every query for a schema succeeds. -/
structure AnswersAll : Prop where
  enumerations : s.answers (.enumerations schema) = true
  tables : s.answers (.tables schema) = true
  columns : ∀ listed ∈ s.tableRows schema, s.answers (.columns schema listed.1) = true

/-- The queries for a schema, in the order in which they are sent. -/
def schemaQueries : List Query :=
  .enumerations schema :: .tables schema :: columnQueries schema (s.tableRows schema)

theorem answersAll_iff :
    s.AnswersAll schema ↔ ∀ q ∈ s.schemaQueries schema, s.answers q = true := by
  rw [schemaQueries, List.forall_mem_cons, List.forall_mem_cons, columnQueries, List.forall_mem_map]
  exact ⟨fun h => ⟨h.enumerations, h.tables, h.columns⟩, fun h => ⟨h.1, h.2.1, h.2.2⟩⟩

theorem schema_of_mem_schemaQueries {q : Query} (hq : q ∈ s.schemaQueries schema) :
    q.schema = schema := by
  rcases List.mem_cons.1 hq with rfl | hq
  · rfl
  · rcases List.mem_cons.1 hq with rfl | hq
    · rfl
    · obtain ⟨entry, -, rfl⟩ := List.mem_map.1 hq
      rfl

/-- A schema none of whose queries fails is read whole, with all of its queries. -/
theorem readSchema_of_answers (h : s.AnswersAll schema) :
    s.readSchema schema
      = (.ok
          { name := schema
            tables := (s.tableRows schema).map (s.loadTable schema)
            enumerations := s.enumerationRows schema },
        s.schemaQueries schema) := by
  simp only [readSchema, h.enumerations, h.tables, Bool.not_true, Bool.false_eq_true, if_false,
    readTables_of_answers s schema h.columns]
  rfl

@[inherit_doc readSchema_of_answers]
theorem readSchema_of_answersAll (h : s.AnswersAll schema) :
    (s.readSchema schema).1 = .ok
      { name := schema
        tables := (s.tableRows schema).map (s.loadTable schema)
        enumerations := s.enumerationRows schema } :=
  congrArg Prod.fst (s.readSchema_of_answers schema h)

/-- Reading a schema ends with the first query that fails, and nothing is kept. -/
theorem readSchema_of_failsFirst {sent : List Query} {q : Query}
    (h : s.FailsFirst (s.schemaQueries schema) sent q) :
    s.readSchema schema = (.error ⟨schema, q⟩, sent ++ [q]) := by
  rcases s.failsFirst_cons_iff.1 h with ⟨hfailed, rfl, rfl⟩ | ⟨henums, sent, rfl, h'⟩
  · simp only [readSchema, hfailed, Bool.not_false, if_true, List.nil_append]
  · rcases s.failsFirst_cons_iff.1 h' with ⟨hfailed, rfl, rfl⟩ | ⟨htables, sent, rfl, hcolumns⟩
    · simp only [readSchema, henums, hfailed, Bool.not_true, Bool.not_false, Bool.false_eq_true,
        if_false, if_true, List.cons_append, List.nil_append]
    · simp only [readSchema, henums, htables, Bool.not_true, Bool.false_eq_true, if_false,
        s.readTables_of_failsFirst schema hcolumns]
      rfl

/-- Either every query for a schema succeeds and all of them are sent; then the enumeration types are
those of the rows, and there is a table for each row, in order, with its kind and its own columns,
whose types have lost their modifiers and which are otherwise those of the rows; such a type has no
parentheses and single blanks between its words, and is kept if it was like this. Or the queries up
to the first that fails are sent and none after it; then nothing is read, and the failure is told by
a message that no other of the queries has. -/
theorem readSchema_all_or_first_failure :
    ((∀ q ∈ s.schemaQueries schema, s.answers q = true)
      ∧ s.readSchema schema
        = (.ok
            { name := schema
              enumerations := s.enumerationRows schema
              tables := (s.tableRows schema).map fun (name, kind) =>
                { schema, name, kind
                  columns := (s.columnRows schema name).map fun row =>
                    { row with
                      dataType := stripModifiers row.dataType
                      ddlType := stripModifiers row.ddlType } } },
          s.schemaQueries schema)
      ∧ ∀ listed ∈ s.tableRows schema, ∀ row ∈ s.columnRows schema listed.1,
        ∀ type ∈ [row.dataType, row.ddlType],
          IsTidy (stripModifiers type) ∧ (IsTidy type → stripModifiers type = type))
    ∨ ∃ sent q, s.FailsFirst (s.schemaQueries schema) sent q
      ∧ s.readSchema schema = (.error ⟨schema, q⟩, sent ++ [q])
      ∧ ∀ other ∈ s.schemaQueries schema,
        (⟨schema, other⟩ : QueryFailure).message = (⟨schema, q⟩ : QueryFailure).message →
          other = q := by
  rcases s.answers_or_failsFirst (s.schemaQueries schema) with hall | ⟨sent, q, hq⟩
  · refine Or.inl ⟨hall, s.readSchema_of_answers schema ((s.answersAll_iff schema).2 hall), ?_⟩
    intro listed _ row _ type _
    exact ⟨isTidy_stripModifiers type, (isTidy_iff_stripModifiers_eq_self type).1⟩
  · refine Or.inr ⟨sent, q, hq, s.readSchema_of_failsFirst schema hq, ?_⟩
    have hmem : q ∈ s.schemaQueries schema := by
      obtain ⟨after, hsplit⟩ := hq.position
      rw [hsplit]
      exact List.mem_append_right sent List.mem_cons_self
    intro other hother hmessage
    exact QueryFailure.query_eq_of_message_eq (s.schema_of_mem_schemaQueries schema hother)
      (s.schema_of_mem_schemaQueries schema hmem) hmessage

end Session

end RowBindings.Catalog
