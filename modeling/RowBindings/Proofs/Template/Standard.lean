import Mathlib.Data.List.Forall2
import RowBindings.Generation.Renderer
import RowBindings.Proofs.Template.Execution
import RowBindings.Proofs.Text.Lines

/-!
# The texts of the standard templates

The standard templates are given as trees. Here are their texts, and the proof that reading the
texts gives the trees. It runs the reader on each text: the tree that is read is compared with the
one that is given by a sound test, and the text is given by its lines, since a long text is
expensive to take apart.
-/

namespace RowBindings.Template

/-! ## Equality of trees -/

/-- Whether two expressions are the same. Expressions of kinds that no standard template contains
count as different. -/
def Expr.alike : Expr → Expr → Bool
  | .name n, .name m => n == m
  | .field e n, .field f m => alike e f && n == m
  | .filter n e [], .filter m f [] => n == m && alike e f
  | .call e [.positional a], .call f [.positional b] => alike e f && alike a b
  | _, _ => false

mutual

/-- Whether two statements are the same. Statements of kinds that no standard template contains
count as different. -/
def Stmt.alike : Stmt → Stmt → Bool
  | .text s, .text t => s == t
  | .emit e, .emit f => e.alike f
  | .cond test body otherwise, .cond test' body' otherwise' =>
    test.alike test' && Stmt.allAlike body body' && Stmt.allAlike otherwise otherwise'
  | .each (.name n) iter none body [], .each (.name m) iter' none body' [] =>
    n == m && iter.alike iter' && Stmt.allAlike body body'
  | .define n params [] body, .define m params' [] body' =>
    n == m && params == params' && Stmt.allAlike body body'
  | _, _ => false

@[inherit_doc Stmt.alike]
def Stmt.allAlike : List Stmt → List Stmt → Bool
  | [], [] => true
  | s :: ss, t :: ts => s.alike t && Stmt.allAlike ss ts
  | _, _ => false

end

theorem Expr.eq_of_alike {e f : Expr} (h : e.alike f = true) : e = f := by
  fun_induction Expr.alike e f with
  | case1 => rw [eq_of_beq h]
  | case2 e n f m ih =>
    rw [Bool.and_eq_true] at h
    rw [ih h.1, eq_of_beq h.2]
  | case3 n e m f ih =>
    rw [Bool.and_eq_true] at h
    rw [eq_of_beq h.1, ih h.2]
  | case4 e a f b ihe iha =>
    rw [Bool.and_eq_true] at h
    rw [ihe h.1, iha h.2]
  | case5 => cases h

mutual

theorem Stmt.eq_of_alike {s t : Stmt} (h : s.alike t = true) : s = t := by
  fun_cases Stmt.alike s t with
  | case1 => rw [eq_of_beq h]
  | case2 => rw [Expr.eq_of_alike h]
  | case3 test body otherwise test' body' otherwise' =>
    simp only [Stmt.alike, Bool.and_eq_true] at h
    obtain ⟨⟨htest, hbody⟩, hotherwise⟩ := h
    rw [Expr.eq_of_alike htest, Stmt.eq_of_allAlike hbody, Stmt.eq_of_allAlike hotherwise]
  | case4 n iter body m iter' body' =>
    simp only [Stmt.alike, Bool.and_eq_true, beq_iff_eq] at h
    obtain ⟨⟨hname, hiter⟩, hbody⟩ := h
    rw [hname, Expr.eq_of_alike hiter, Stmt.eq_of_allAlike hbody]
  | case5 n params body m params' body' =>
    simp only [Stmt.alike, Bool.and_eq_true, beq_iff_eq] at h
    obtain ⟨⟨hname, hparams⟩, hbody⟩ := h
    rw [hname, hparams, Stmt.eq_of_allAlike hbody]
  | case6 => simp_all [Stmt.alike]

theorem Stmt.eq_of_allAlike {ss ts : List Stmt} (h : Stmt.allAlike ss ts = true) : ss = ts := by
  fun_cases Stmt.allAlike ss ts with
  | case1 => rfl
  | case2 s ss t ts =>
    simp only [Stmt.allAlike, Bool.and_eq_true] at h
    rw [Stmt.eq_of_alike h.1, Stmt.eq_of_allAlike h.2]
  | case3 => simp_all [Stmt.allAlike]

end

/-- Whether reading gave this tree. -/
def Tree.isReadAs (t : Tree) : Except Fault Tree → Bool
  | .ok u => Stmt.allAlike u.body t.body && u.blocks.isEmpty && t.blocks.isEmpty
  | .error _ => false

theorem Tree.eq_of_isReadAs {t : Tree} {read : Except Fault Tree} (h : t.isReadAs read = true) :
    read = .ok t := by
  cases read with
  | error fault => cases h
  | ok u =>
    obtain ⟨body, blocks⟩ := t
    obtain ⟨body', blocks'⟩ := u
    simp only [Tree.isReadAs, Bool.and_eq_true, List.isEmpty_iff] at h
    obtain ⟨⟨hbody, hblocks'⟩, hblocks⟩ := h
    rw [Stmt.eq_of_allAlike hbody, hblocks', hblocks]

/-! ## Reading a text given by lines -/

/-- Passes a list on. Its elements are taken out first, once and for all: where the list is used
several times they would be taken out each time anew. -/
def spelledOut {α β : Type} : List α → (List α → β) → β
  | [], use => use []
  | a :: as, use => spelledOut as fun bs => use (a :: bs)

theorem spelledOut_eq {α β : Type} (as : List α) (use : List α → β) :
    spelledOut as use = use as := by
  induction as generalizing use with
  | nil => rfl
  | cons a as ih => exact ih _

/-- The text that consists of these lines. -/
def textOfLines (lines : List String) : String :=
  String.join (lines.map (· ++ "\n"))

/-- Whether reading the text that consists of these lines gives this tree. -/
def Tree.isReadFrom (t : Tree) (lines : List (List Char)) : Bool :=
  spelledOut (lines.flatMap (· ++ ['\n'])) fun text =>
    spelledOut (dropLastLineEnd text) fun cs =>
      t.isReadAs (Tree.ofTokens (Lexer.outsideTags (cs.length + 1) { rest := cs }))

theorem toList_textOfLines {lines : List String} {chars : List (List Char)}
    (h : List.Forall₂ (fun line cs => line = String.ofList cs) lines chars) :
    (textOfLines lines).toList = chars.flatMap (· ++ ['\n']) := by
  induction h with
  | nil => rfl
  | cons hline _ ih =>
    rw [textOfLines, List.map_cons, String.join_cons, String.toList_append, String.toList_append,
      Text.toList_eq_of_eq_ofList hline, List.flatMap_cons, ← ih]
    rfl

/-- Reading a text gives a tree if the test says so of its lines. -/
theorem ofText_eq_of_isReadFrom {t : Tree} {lines : List String} {chars : List (List Char)}
    (hlines : List.Forall₂ (fun line cs => line = String.ofList cs) lines chars)
    (h : t.isReadFrom chars = true) : Tree.ofText (textOfLines lines) = .ok t := by
  rw [Tree.isReadFrom, spelledOut_eq, spelledOut_eq, ← toList_textOfLines hlines] at h
  exact Tree.eq_of_isReadAs h

namespace Standard

/-! ## The texts -/

/-- The text of the template for the record of a table. -/
def recordLines : List String := [
  "/// \x7b\x7b struct.name \x7d\x7d represents \x7b\x7b struct.table.schema \x7d\x7d.\x7b\x7b struct.table.name \x7d\x7d",
  "\x7b% if deprecated %\x7d",
  "#[deprecated]",
  "\x7b% endif %\x7d",
  "#[derive(Debug, Clone, PartialEq)]",
  "pub struct \x7b\x7b struct.name \x7d\x7d \x7b",
  "\x7b% for f in struct.fields %\x7d",
  "    /// \x7b\x7b f.column.name \x7d\x7d",
  "    pub \x7b\x7b f.name \x7d\x7d: \x7b\x7b f.type \x7d\x7d,",
  "\x7b% endfor %\x7d",
  "\x7d"]

/-- The text of the template for the functions of a record. -/
def methodsLines : List String := [
  "\x7b% macro bind(fields) %\x7d&[\x7b% for f in fields %\x7d&self.\x7b\x7b f \x7d\x7d, \x7b% endfor %\x7d]\x7b% endmacro %\x7d",
  "impl \x7b\x7b struct.name \x7d\x7d \x7b",
  "    /// Inserts the \x7b\x7b struct.name \x7d\x7d into the database.",
  "\x7b% if deprecated %\x7d",
  "    #[deprecated]",
  "\x7b% endif %\x7d",
  "    pub fn create<C: GenericClient>(&mut self, db: &mut C) -> Result<(), postgres::Error> \x7b",
  "\x7b% if struct.auto_gen_pk %\x7d",
  "        let row = db.query_one(",
  "            \x7b\x7b create_insert_sql(struct) | rust_str \x7d\x7d,",
  "            \x7b\x7b bind(create_insert_params(struct)) \x7d\x7d,",
  "        )?;",
  "\x7b% for f in create_insert_scan(struct) %\x7d",
  "        self.\x7b\x7b f \x7d\x7d = row.get(\x7b\x7b loop.index0 \x7d\x7d);",
  "\x7b% endfor %\x7d",
  "\x7b% else %\x7d",
  "        db.execute(",
  "            \x7b\x7b create_insert_sql(struct) | rust_str \x7d\x7d,",
  "            \x7b\x7b bind(create_insert_params(struct)) \x7d\x7d,",
  "        )?;",
  "\x7b% endif %\x7d",
  "        Ok(())",
  "    \x7d",
  "",
  "    /// Inserts the \x7b\x7b struct.name \x7d\x7d unless it conflicts with an existing row.",
  "    /// Returns `false` when the insert was skipped.",
  "\x7b% if deprecated %\x7d",
  "    #[deprecated]",
  "\x7b% endif %\x7d",
  "    pub fn create_on_conflict_do_nothing<C: GenericClient>(",
  "        &mut self,",
  "        db: &mut C,",
  "    ) -> Result<bool, postgres::Error> \x7b",
  "\x7b% if struct.auto_gen_pk %\x7d",
  "        let row = db.query_opt(",
  "            \x7b\x7b create_insert_on_conflict_do_nothing_sql(struct) | rust_str \x7d\x7d,",
  "            \x7b\x7b bind(create_insert_params(struct)) \x7d\x7d,",
  "        )?;",
  "        match row \x7b",
  "            Some(row) => \x7b",
  "\x7b% for f in create_insert_scan(struct) %\x7d",
  "                self.\x7b\x7b f \x7d\x7d = row.get(\x7b\x7b loop.index0 \x7d\x7d);",
  "\x7b% endfor %\x7d",
  "                Ok(true)",
  "            \x7d",
  "            None => Ok(false),",
  "        \x7d",
  "\x7b% else %\x7d",
  "        let affected = db.execute(",
  "            \x7b\x7b create_insert_on_conflict_do_nothing_sql(struct) | rust_str \x7d\x7d,",
  "            \x7b\x7b bind(create_insert_params(struct)) \x7d\x7d,",
  "        )?;",
  "        Ok(affected > 0)",
  "\x7b% endif %\x7d",
  "    \x7d",
  "\x7b% if struct.has_primary_key %\x7d",
  "",
  "    /// Selects the \x7b\x7b struct.name \x7d\x7d with the given primary key.",
  "\x7b% if deprecated %\x7d",
  "    #[deprecated]",
  "\x7b% endif %\x7d",
  "    pub fn get_by_pk<C: GenericClient>(",
  "        db: &mut C,",
  "        \x7b\x7b create_select_by_pk_func_params(struct) \x7d\x7d,",
  "    ) -> Result<Option<Self>, postgres::Error> \x7b",
  "        let row = db.query_opt(",
  "            \x7b\x7b create_select_by_pk_sql(struct) | rust_str \x7d\x7d,",
  "            &[\x7b% for p in create_select_by_pk_sql_params(struct) %\x7d&\x7b\x7b p \x7d\x7d, \x7b% endfor %\x7d],",
  "        )?;",
  "        Ok(row.map(|row| Self \x7b",
  "\x7b% for f in create_select_by_pk_scan(struct) %\x7d",
  "            \x7b\x7b f \x7d\x7d: row.get(\x7b\x7b loop.index0 \x7d\x7d),",
  "\x7b% endfor %\x7d",
  "        \x7d))",
  "    \x7d",
  "\x7b% endif %\x7d",
  "\x7d"]

/-- The text of the template for the type of an enumeration. -/
def enumerationLines : List String := [
  "/// \x7b\x7b enum.name \x7d\x7d represents \x7b\x7b enum.pg_enum.schema \x7d\x7d.\x7b\x7b enum.pg_enum.name \x7d\x7d",
  "\x7b% if deprecated %\x7d",
  "#[deprecated]",
  "\x7b% endif %\x7d",
  "#[derive(Debug, Clone, Copy, PartialEq, Eq, Hash, ToSql, FromSql)]",
  "#[postgres(name = \x7b\x7b enum.pg_enum.name | rust_str \x7d\x7d)]",
  "pub enum \x7b\x7b enum.name \x7d\x7d \x7b",
  "\x7b% for v in enum.values %\x7d",
  "    /// \x7b\x7b v.name \x7d\x7d",
  "    #[postgres(name = \x7b\x7b v.value | rust_str \x7d\x7d)]",
  "    \x7b\x7b v.variant \x7d\x7d,",
  "\x7b% endfor %\x7d",
  "\x7d",
  "",
  "/// Nullable \x7b\x7b enum.name \x7d\x7d",
  "\x7b% if deprecated %\x7d",
  "#[deprecated]",
  "\x7b% endif %\x7d",
  "pub type \x7b\x7b enum.nullable_name \x7d\x7d = Option<\x7b\x7b enum.name \x7d\x7d>;",
  "",
  "impl \x7b\x7b enum.name \x7d\x7d \x7b",
  "    /// Label as stored in the database",
  "\x7b% if deprecated %\x7d",
  "    #[deprecated]",
  "\x7b% endif %\x7d",
  "    pub const fn as_str(&self) -> &'static str \x7b",
  "        match *self \x7b",
  "\x7b% for v in enum.values %\x7d",
  "            Self::\x7b\x7b v.variant \x7d\x7d => \x7b\x7b v.value | rust_str \x7d\x7d,",
  "\x7b% endfor %\x7d",
  "        \x7d",
  "    \x7d",
  "\x7d"]

/-! ## What they are read as -/

-- the characters of each line are found when the line is compared with them, one line after the
-- other; the kernel then runs the test on the characters

theorem ofText_record : Tree.ofText (textOfLines recordLines) = .ok record := by
  apply ofText_eq_of_isReadFrom
  · unfold recordLines
    repeat (apply List.Forall₂.cons; · exact rfl)
    exact .nil
  · decide +kernel

theorem ofText_methods : Tree.ofText (textOfLines methodsLines) = .ok methods := by
  apply ofText_eq_of_isReadFrom
  · unfold methodsLines
    repeat (apply List.Forall₂.cons; · exact rfl)
    exact .nil
  · decide +kernel

theorem ofText_enumeration : Tree.ofText (textOfLines enumerationLines) = .ok enumeration := by
  apply ofText_eq_of_isReadFrom
  · unfold enumerationLines
    repeat (apply List.Forall₂.cons; · exact rfl)
    exact .nil
  · decide +kernel

end Standard

end RowBindings.Template

namespace RowBindings.Generation.Renderer

open Template

theorem addTemplate_of_ofText {r : Renderer} {name source : String} {t : Tree}
    (h : Tree.ofText source = .ok t) :
    r.addTemplate name source = .ok { r with environment := { r.environment with
      templates := r.environment.templates ++ [(name, t)] } } := by
  rw [addTemplate, h]

/-- The standard renderer is the one without templates, after the texts are added. -/
theorem addTemplate_standard (helpers : Helpers) (formatter : Formatter) :
    (do
      let r ← addTemplate { environment := { templates := [], helpers }, formatter }
        recordTemplate (textOfLines Standard.recordLines)
      let r ← r.addTemplate methodsTemplate (textOfLines Standard.methodsLines)
      r.addTemplate enumTemplate (textOfLines Standard.enumerationLines))
      = .ok (standard helpers formatter) := by
  rw [addTemplate_of_ofText Standard.ofText_record, ok_bind,
    addTemplate_of_ofText Standard.ofText_methods, ok_bind,
    addTemplate_of_ofText Standard.ofText_enumeration]
  rfl

end RowBindings.Generation.Renderer
