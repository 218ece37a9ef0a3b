import Mathlib.Data.List.Nodup
import Mathlib.Tactic.Tauto
import RowBindings.Model.Record
import RowBindings.Proofs.Identifier
import RowBindings.Proofs.TypeMap.RuleSet

/-!
# Distinct field names

The field name for a column is made from its name alone, by steps that can lead from different names
to one. Which names meet is said exactly: first by what is left of a name before it is escaped, then,
for names in lower case with underscores, by the names themselves. The fields of a record have
distinct names just if no two names of columns meet.
-/

namespace RowBindings

namespace Identifier

/-! ## Names that become one field name -/

/-- What the field name for a column is escaped from: letters, digits and underscores. -/
def stem (name : String) : List Char :=
  sanitize (if isSnake name.toList then name.toList else Text.toSnake name.toList)

/-- The field name for a stem. -/
def ofStem : List Char → String
  | [] => "field_"
  | cs => escape (String.ofList cs)

theorem fieldName_eq_ofStem (name : String) : fieldName name = ofStem (stem name) :=
  rfl

theorem isPlain_of_mem_stem (name : String) : ∀ c ∈ stem name, isPlain c = true :=
  isPlain_of_mem_sanitize _

/-- What a stem may be written as. -/
inductive WrittenAs : List Char → List Char → Prop
  | empty : WrittenAs [] "field_".toList
  | reserved {word : String} (h : word ∈ reserved) :
    WrittenAs word.toList (word.toList ++ ['_'])
  | keyword (cs : List Char) : WrittenAs cs ('r' :: '#' :: cs)
  | kept (cs : List Char) : WrittenAs cs cs

theorem writtenAs_escape (word : String) : WrittenAs word.toList (escape word).toList := by
  rw [escape]
  split
  next h =>
    rw [String.toList_append]
    exact .reserved h
  next =>
    split
    next =>
      rw [String.toList_append]
      exact .keyword word.toList
    next => exact .kept word.toList

theorem writtenAs_ofStem (cs : List Char) : WrittenAs cs (ofStem cs).toList := by
  cases cs with
  | nil => exact .empty
  | cons c cs =>
    have hwritten := writtenAs_escape (String.ofList (c :: cs))
    rwa [String.toList_ofList] at hwritten

/-- Whether a stem is one that escaping makes of another: of the empty one, or of a reserved word. -/
def Merges (s t : List Char) : Prop :=
  (s = [] ∧ t = "field_".toList) ∨ ∃ w ∈ reserved, s = w.toList ∧ t = w.toList ++ ['_']

theorem isPlain_of_reserved {word : String} (h : word ∈ reserved) :
    ∀ c ∈ word.toList ++ ['_'], isPlain c = true := by
  have hall : reserved.all (fun w => (w.toList ++ ['_']).all isPlain) = true := by decide
  exact List.all_eq_true.1 (List.all_eq_true.1 hall word h)

theorem ne_keyword_of_isPlain {cs ds : List Char} (h : ∀ c ∈ cs, isPlain c = true) :
    cs ≠ 'r' :: '#' :: ds := by
  rintro rfl
  exact absurd (h '#' (List.mem_cons_of_mem _ List.mem_cons_self)) (by decide)

theorem isPlain_of_mem_field : ∀ c ∈ "field_".toList, isPlain c = true :=
  List.all_eq_true.1 (by decide)

theorem ne_field_of_reserved {word : String} (h : word ∈ reserved) :
    word.toList ++ ['_'] ≠ "field_".toList := by
  have hall : ∀ w ∈ reserved, w.toList ++ ['_'] ≠ "field_".toList := by decide
  exact hall word h

/-- Two stems written the same are equal, or one of them is what escaping makes of the other. -/
theorem WrittenAs.merges {s t u : List Char} (hs : ∀ c ∈ s, isPlain c = true)
    (ht : ∀ c ∈ t, isPlain c = true) (hsu : WrittenAs s u) (htu : WrittenAs t u) :
    s = t ∨ Merges s t ∨ Merges t s := by
  generalize hv : u = v at htu
  cases hsu with
  | empty =>
    cases htu with
    | empty => exact .inl rfl
    | reserved hword => exact absurd hv.symm (ne_field_of_reserved hword)
    | keyword => exact absurd hv (ne_keyword_of_isPlain isPlain_of_mem_field)
    | kept => exact .inr (.inl (.inl ⟨rfl, hv.symm⟩))
  | reserved hword =>
    cases htu with
    | empty => exact absurd hv (ne_field_of_reserved hword)
    | reserved => exact .inl (List.append_cancel_right hv)
    | keyword => exact absurd hv (ne_keyword_of_isPlain (isPlain_of_reserved hword))
    | kept => exact .inr (.inl (.inr ⟨_, hword, rfl, hv.symm⟩))
  | keyword =>
    cases htu with
    | empty => exact absurd hv.symm (ne_keyword_of_isPlain isPlain_of_mem_field)
    | reserved hword => exact absurd hv.symm (ne_keyword_of_isPlain (isPlain_of_reserved hword))
    | keyword => exact .inl (List.cons_inj_right _ |>.1 (List.cons_inj_right _ |>.1 hv))
    | kept => exact absurd hv.symm (ne_keyword_of_isPlain ht)
  | kept =>
    cases htu with
    | empty => exact .inr (.inr (.inl ⟨rfl, hv⟩))
    | reserved hword => exact .inr (.inr (.inr ⟨_, hword, rfl, hv⟩))
    | keyword => exact absurd hv (ne_keyword_of_isPlain hs)
    | kept => exact .inl hv

theorem ofStem_of_merges {s t : List Char} (h : Merges s t) : ofStem s = ofStem t := by
  have hreserved : ∀ w ∈ reserved, ofStem w.toList = ofStem (w.toList ++ ['_']) := by decide
  rcases h with ⟨rfl, rfl⟩ | ⟨w, hw, rfl, rfl⟩
  · decide
  · exact hreserved w hw

/-- Whether the names of two columns become one field name. -/
def Coincide (a b : String) : Prop :=
  stem a = stem b ∨ Merges (stem a) (stem b) ∨ Merges (stem b) (stem a)

theorem fieldName_eq_iff (a b : String) : fieldName a = fieldName b ↔ Coincide a b := by
  rw [fieldName_eq_ofStem, fieldName_eq_ofStem]
  constructor
  · intro heq
    have hb := writtenAs_ofStem (stem b)
    rw [← heq] at hb
    exact (writtenAs_ofStem (stem a)).merges (isPlain_of_mem_stem a) (isPlain_of_mem_stem b) hb
  · rintro (heq | hab | hba)
    · rw [heq]
    · exact ofStem_of_merges hab
    · exact (ofStem_of_merges hba).symm

/-! ## Names in lower case with underscores -/

/-- Whether the second of two names in lower case with underscores is the field name for the first:
that of a name with a leading digit, or of a reserved word. -/
def Yields (a b : String) : Prop :=
  (a.toList.head?.any Char.isDigit = true ∧ b = "_" ++ a)
  ∨ (a ∈ ["crate", "self", "super", "_"] ∧ b = a ++ "_")

theorem isPlain_of_isSnake {name : List Char} (h : isSnake name = true) :
    ∀ c ∈ name, isPlain c = true := by
  intro c hc
  rw [isSnake, Bool.and_eq_true] at h
  have hsnake := List.all_eq_true.1 h.2 c hc
  have halpha : c.isAlpha = (c.isUpper || c.isLower) := rfl
  simp only [isPlain, Char.isAlphanum, halpha, Bool.or_eq_true] at hsnake ⊢
  tauto

theorem stem_of_isSnake {name : String} (h : isSnake name.toList = true) :
    stem name = guardDigit name.toList := by
  have hkept : name.toList.map (fun c => if isPlain c then c else '_') = name.toList :=
    (List.map_congr_left fun c hc => if_pos (isPlain_of_isSnake h c hc)).trans (List.map_id _)
  rw [stem, if_pos h, sanitize, hkept]

/-- Guarding a digit keeps a text, or puts an underscore before it. -/
theorem guardDigit_eq_iff (cs ds : List Char) :
    guardDigit cs = ds
      ↔ (cs.head?.any Char.isDigit = false ∧ cs = ds)
        ∨ (cs.head?.any Char.isDigit = true ∧ ds = '_' :: cs) := by
  cases cs with
  | nil => simp [guardDigit]
  | cons c cs =>
    rw [guardDigit, List.head?_cons, Option.any_some]
    cases hdigit : c.isDigit with
    | false => simp
    | true => simp [eq_comm]

theorem yields_iff (a b : String) :
    Yields a b ↔ (a.toList.head?.any Char.isDigit = true ∧ b.toList = '_' :: a.toList)
      ∨ (a ∈ ["crate", "self", "super", "_"] ∧ b.toList = a.toList ++ ['_']) := by
  rw [Yields, ← String.toList_inj, ← String.toList_inj, String.toList_append, String.toList_append]
  rfl

theorem guardDigit_eq_guardDigit_iff (cs ds : List Char) :
    guardDigit cs = guardDigit ds
      ↔ cs = ds ∨ (cs.head?.any Char.isDigit = true ∧ ds = '_' :: cs)
        ∨ (ds.head?.any Char.isDigit = true ∧ cs = '_' :: ds) := by
  have hunderscore (es : List Char) : ('_' :: es).head?.any Char.isDigit = false := rfl
  constructor
  · intro heq
    rcases (guardDigit_eq_iff cs _).1 heq with ⟨hc, hcs⟩ | ⟨hc, hcs⟩
    · rcases (guardDigit_eq_iff ds _).1 hcs.symm with ⟨_, hds⟩ | ⟨hd, hds⟩
      · exact .inl hds.symm
      · exact .inr (.inr ⟨hd, hds⟩)
    · rcases (guardDigit_eq_iff ds _).1 hcs with ⟨_, hds⟩ | ⟨_, hds⟩
      · exact .inr (.inl ⟨hc, hds⟩)
      · exact .inl (List.tail_eq_of_cons_eq hds)
  · rintro (rfl | ⟨hc, rfl⟩ | ⟨hd, rfl⟩)
    · rfl
    · rw [(guardDigit_eq_iff cs _).2 (.inr ⟨hc, rfl⟩)]
      exact ((guardDigit_eq_iff _ _).2 (.inl ⟨hunderscore cs, rfl⟩)).symm
    · rw [(guardDigit_eq_iff ds _).2 (.inr ⟨hd, rfl⟩)]
      exact (guardDigit_eq_iff _ _).2 (.inl ⟨hunderscore ds, rfl⟩)

/-- Nothing is guarded where a reserved word results, or one with an underscore behind it. -/
theorem eq_of_guardDigit_reserved {cs rest : List Char} {word : String} (hword : word ∈ reserved)
    (hend : rest ∈ [[], ['_']]) (hne : cs ≠ []) (h : guardDigit cs = word.toList ++ rest) :
    cs = word.toList ++ rest := by
  rcases (guardDigit_eq_iff cs _).1 h with ⟨_, hcs⟩ | ⟨hdigit, hcs⟩
  · exact hcs
  · -- only one reserved word starts with an underscore, and no digit follows that
    have hnone : ∀ w ∈ reserved, ∀ e ∈ [[], ['_']], (w.toList ++ e).head? = some '_' →
        (w.toList ++ e).tail = [] ∨ (w.toList ++ e).tail = ['_'] := by decide
    have htail : (word.toList ++ rest).tail = cs := by rw [hcs, List.tail_cons]
    rcases hnone word hword rest hend (by rw [hcs]; rfl) with hempty | hunderscore
    · exact absurd (htail.symm.trans hempty) hne
    · rw [← htail, hunderscore] at hdigit
      exact absurd hdigit (by decide)

theorem merges_guardDigit_iff {a b : String} (ha : isSnake a.toList = true)
    (hb : isSnake b.toList = true) :
    Merges (guardDigit a.toList) (guardDigit b.toList)
      ↔ a ∈ ["crate", "self", "super", "_"] ∧ b.toList = a.toList ++ ['_'] := by
  have hlower : ∀ w ∈ reserved, isSnake w.toList = true → w ∈ ["crate", "self", "super", "_"] := by
    decide
  have hkept : ∀ w ∈ ["crate", "self", "super", "_"], w ∈ reserved
      ∧ guardDigit w.toList = w.toList ∧ guardDigit (w.toList ++ ['_']) = w.toList ++ ['_'] := by
    decide
  have hne {name : List Char} (h : isSnake name = true) : name ≠ [] := by
    rintro rfl
    exact Bool.noConfusion h
  constructor
  · rintro (⟨hempty, _⟩ | ⟨w, hw, hwa, hwb⟩)
    · rcases (guardDigit_eq_iff _ _).1 hempty with ⟨_, hnil⟩ | ⟨_, hnil⟩
      · exact absurd hnil (hne ha)
      · exact absurd hnil (List.cons_ne_nil _ _).symm
    · have haw : a.toList = w.toList := by
        have heq := eq_of_guardDigit_reserved hw (by simp : [] ∈ [[], ['_']]) (hne ha)
          (hwa.trans (List.append_nil _).symm)
        rwa [List.append_nil] at heq
      have hbw := eq_of_guardDigit_reserved hw (by simp : ['_'] ∈ [[], ['_']]) (hne hb) hwb
      rw [hbw, haw]
      rw [String.toList_inj.1 haw] at ha ⊢
      exact ⟨hlower w hw ha, rfl⟩
  · rintro ⟨hword, hb⟩
    obtain ⟨hreserved, hguard, hguard_⟩ := hkept a hword
    exact .inr ⟨a, hreserved, hguard, by rw [hb, hguard_]⟩

/-- Two different names in lower case with underscores become one field name just if one of them is
the field name for the other. -/
theorem fieldName_eq_iff_of_isSnake {a b : String} (ha : isSnake a.toList = true)
    (hb : isSnake b.toList = true) :
    fieldName a = fieldName b ↔ a = b ∨ Yields a b ∨ Yields b a := by
  rw [fieldName_eq_iff, Coincide, stem_of_isSnake ha, stem_of_isSnake hb,
    guardDigit_eq_guardDigit_iff, merges_guardDigit_iff ha hb, merges_guardDigit_iff hb ha,
    yields_iff, yields_iff, String.toList_inj]
  tauto

end Identifier

namespace Model.Record

open Catalog TypeMap

/-! ## The fields of a record -/

variable (rules : RuleSet) (policy : KeyPolicy) (t : Table)

theorem fieldNames_ofTable :
    (ofTable rules policy t).fields.map (·.name)
      = t.columns.map fun c => Identifier.fieldName c.name := by
  rw [ofTable, List.map_map]
  rfl

theorem ne_of_yields {a b : String} (h : Identifier.Yields a b) : a ≠ b := by
  rintro rfl
  rcases (Identifier.yields_iff a a).1 h with ⟨_, heq⟩ | ⟨_, heq⟩
  · exact List.cons_ne_self _ _ heq.symm
  · exact List.cons_ne_nil _ _ (List.append_right_eq_self.1 heq.symm)

/-- The fields of a record have distinct names just if no two names of columns become one. For names
in lower case with underscores that is so unless one of them is the field name for another, as it is
for a name with a leading digit or a reserved word. -/
theorem fieldNames_nodup_iff (hdistinct : (t.columns.map (·.name)).Nodup) :
    (((ofTable rules policy t).fields.map (·.name)).Nodup
        ↔ t.columns.Pairwise fun c d => ¬Identifier.Coincide c.name d.name)
    ∧ ((∀ c ∈ t.columns, Identifier.isSnake c.name.toList = true) →
      (((ofTable rules policy t).fields.map (·.name)).Nodup
        ↔ ∀ c ∈ t.columns, ∀ d ∈ t.columns, ¬Identifier.Yields c.name d.name)) := by
  rw [fieldNames_ofTable]
  constructor
  · rw [List.Nodup, List.pairwise_map]
    simp only [Ne, Identifier.fieldName_eq_iff]
  · intro hsnake
    constructor
    · intro hnodup c hc d hd hyields
      have hmeet : Identifier.fieldName c.name = Identifier.fieldName d.name :=
        (Identifier.fieldName_eq_iff_of_isSnake (hsnake c hc) (hsnake d hd)).2 (.inr (.inl hyields))
      have hsame : c = d := List.inj_on_of_nodup_map hnodup hc hd hmeet
      exact ne_of_yields hyields (congrArg Column.name hsame)
    · intro hnone
      refine List.pairwise_map.2 ((List.pairwise_map.1 hdistinct).imp_of_mem ?_)
      intro c d hc hd hne hmeet
      rcases (Identifier.fieldName_eq_iff_of_isSnake (hsnake c hc) (hsnake d hd)).1 hmeet with
        heq | hyields | hyields
      · exact hne heq
      · exact hnone c hc d hd hyields
      · exact hnone d hd c hc hyields

/-- A column of text. -/
def textColumn (name : String) : Column where
  ordinal := 0
  name := name
  dataType := "text"
  ddlType := "text"
  notNull := true
  defaultValue := none
  isPrimaryKey := false
  identity := .none

/-- A table whose columns are named by a keyword, a reserved word, with a leading digit and with a
leading underscore. -/
def devices : Table where
  schema := "public"
  name := "devices"
  kind := "r"
  columns := [textColumn "type", textColumn "self", textColumn "2fa", textColumn "_fa"]

/-- A table with two columns for one name, written in different ways. -/
def accounts : Table where
  schema := "public"
  name := "accounts"
  kind := "r"
  columns := [textColumn "userId", textColumn "user_id"]

/-- The columns of `devices` have fields of their own. -/
theorem fieldNames_nodup_devices :
    (devices.columns.map (·.name)).Nodup
    ∧ (∀ c ∈ devices.columns, Identifier.isSnake c.name.toList = true)
    ∧ ((ofTable (.ofFallback "String") {} devices).fields.map (·.name)).Nodup := by
  have hdistinct : (devices.columns.map (·.name)).Nodup := by decide
  have hsnake : ∀ c ∈ devices.columns, Identifier.isSnake c.name.toList = true := by decide
  refine ⟨hdistinct, hsnake,
    ((fieldNames_nodup_iff (.ofFallback "String") {} devices hdistinct).2 hsnake).2 ?_⟩
  simp only [Identifier.Yields]
  decide

/-- The columns of `accounts` have different names, and fields of one name. -/
theorem fieldNames_coincide :
    (accounts.columns.map (·.name)).Nodup
    ∧ (ofTable (.ofFallback "String") {} accounts).fields.map (·.name) = ["user_id", "user_id"]
    ∧ ¬((ofTable (.ofFallback "String") {} accounts).fields.map (·.name)).Nodup := by
  have hnames : (ofTable (.ofFallback "String") {} accounts).fields.map (·.name)
      = ["user_id", "user_id"] := by
    decide +kernel
  refine ⟨by decide, hnames, ?_⟩
  rw [hnames]
  decide

end Model.Record

end RowBindings
