import Mathlib.Data.List.Nodup
import Mathlib.Data.List.Perm.Subperm
import Mathlib.Order.Bounds.Defs
import RowBindings.Model.Enumeration
import RowBindings.Proofs.Text.Lines

/-!
# The variants of an enumeration

A label gets the first of the names to try that none of the labels before it has got: its own
conversion, or that with the least number from two on that makes it a new name. There always is one,
so that the variants of an enumeration are distinct; and labels that are added at the end leave the
variants of those before as they are.
-/

namespace RowBindings.Model

/-! ## Free names -/

/-- Each number gives a name of its own to try. -/
theorem candidate_injective {base : String} {j k : Nat} (hj : 1 ≤ j) (hk : 1 ≤ k)
    (h : candidate base j = candidate base k) : j = k := by
  have hnumbered (n : Nat) : base ++ toString n ≠ base :=
    fun heq => Nat.repr_ne_empty (String.append_eq_left_iff.1 heq)
  unfold candidate at h
  split at h
  · split at h
    · omega
    · exact absurd h.symm (hnumbered k)
  · split at h
    · exact absurd h (hnumbered j)
    · exact Text.toString_injective ((String.append_right_inj base).1 h)

/-- The names to try when these are used. -/
def tries (used : List String) (base : String) : List String :=
  (List.range' 1 (used.length + 1)).map (candidate base)

theorem nodup_tries (used : List String) (base : String) : (tries used base).Nodup := by
  refine List.Nodup.map_on (fun j hj k hk heq => ?_) (List.nodup_range' 1)
  exact candidate_injective (List.mem_range'_1.1 hj).1 (List.mem_range'_1.1 hk).1 heq

/-- One of the names to try is not used: there is one more of them than there are names used. -/
theorem exists_find?_tries (used : List String) (base : String) :
    ∃ name, ((tries used base).find? fun name => !used.contains name) = some name := by
  cases hfind : (tries used base).find? fun name => !used.contains name with
  | some name => exact ⟨name, rfl⟩
  | none =>
    have hused : tries used base ⊆ used := by
      intro name hmem
      simpa using List.find?_eq_none.1 hfind name hmem
    have hlength := ((nodup_tries used base).subperm hused).length_le
    rw [tries, List.length_map, List.length_range'] at hlength
    omega

/-- The name found is the first to try that is not used. -/
theorem freshName_isLeast (used : List String) (base : String) :
    ∃ k, IsLeast {k | 1 ≤ k ∧ candidate base k ∉ used} k ∧ freshName used base = candidate base k := by
  obtain ⟨name, hfind⟩ := exists_find?_tries used base
  have hname : freshName used base = name := by
    rw [freshName]
    exact congrArg (·.getD base) hfind
  obtain ⟨hfree, i, hi, hget, hbefore⟩ := List.find?_eq_some_iff_getElem.1 hfind
  have htry {j : ℕ} (hj : j < (tries used base).length) :
      (tries used base)[j] = candidate base (1 + j) := by
    simp only [tries, List.getElem_map, List.getElem_range', Nat.one_mul]
  rw [htry hi] at hget
  refine ⟨1 + i, ⟨⟨by omega, ?_⟩, ?_⟩, hname.trans hget.symm⟩
  · rw [hget]
    simpa using hfree
  · rintro k ⟨hk, hkfree⟩
    by_contra hlt
    have hused := hbefore (k - 1) (by omega)
    rw [htry, Nat.add_sub_cancel' hk] at hused
    exact hkfree (by simpa using hused)

theorem freshName_notMem (used : List String) (base : String) : freshName used base ∉ used := by
  obtain ⟨k, hleast, hname⟩ := freshName_isLeast used base
  rw [hname]
  exact hleast.1.2

/-- The name that a base gets if some names are taken: the base itself or, if it is taken, the base
with the least number from two on that gives a name that is not. -/
inductive IsFirstFree (taken : List String) (base : String) : String → Prop
  | plain (h : base ∉ taken) : IsFirstFree taken base base
  | numbered {k : ℕ} (h : base ∈ taken) (hk : IsLeast {k | 2 ≤ k ∧ base ++ toString k ∉ taken} k) :
    IsFirstFree taken base (base ++ toString k)

theorem isFirstFree_freshName (used : List String) (base : String) :
    IsFirstFree used base (freshName used base) := by
  obtain ⟨k, ⟨⟨hk, hfree⟩, hleast⟩, hname⟩ := freshName_isLeast used base
  have hfirst : candidate base 1 = base := rfl
  have hnumbered {j : ℕ} (hj : 2 ≤ j) : candidate base j = base ++ toString j :=
    if_neg (by omega)
  by_cases hbase : base ∈ used
  · have htwo : 2 ≤ k := by
      rcases Nat.lt_or_ge 1 k with hlt | hge
      · exact hlt
      · rw [Nat.le_antisymm hge hk, hfirst] at hfree
        exact absurd hbase hfree
    rw [hname, hnumbered htwo]
    refine .numbered hbase ⟨⟨htwo, hnumbered htwo ▸ hfree⟩, ?_⟩
    rintro j ⟨hj, hjfree⟩
    exact hleast ⟨by omega, hnumbered hj ▸ hjfree⟩
  · have hone : k = 1 := Nat.le_antisymm (hleast ⟨Nat.le_refl 1, hbase⟩) hk
    rw [hname, hone, hfirst]
    exact .plain hbase

/-- Only which names are taken matters, not their order. -/
theorem IsFirstFree.of_mem_iff {taken others : List String} {base name : String}
    (h : IsFirstFree taken base name) (hsame : ∀ other, other ∈ taken ↔ other ∈ others) :
    IsFirstFree others base name := by
  cases h with
  | plain hbase => exact .plain (mt (hsame base).2 hbase)
  | numbered hbase hk =>
    simp only [hsame] at hbase hk
    exact .numbered hbase hk

/-! ## Names for labels -/

theorem length_variantNames (used labels : List String) :
    (variantNames used labels).length = labels.length := by
  induction labels generalizing used with
  | nil => rfl
  | cons label labels ih => exact congrArg (· + 1) (ih _)

/-- Names given out are none of those used before. -/
theorem notMem_of_mem_variantNames {used labels : List String} {name : String}
    (h : name ∈ variantNames used labels) : name ∉ used := by
  induction labels generalizing used with
  | nil => cases h
  | cons label labels ih =>
    rcases List.mem_cons.1 h with rfl | h
    · exact freshName_notMem used _
    · exact fun hused => ih h (List.mem_cons_of_mem _ hused)

theorem nodup_variantNames (used labels : List String) : (variantNames used labels).Nodup := by
  induction labels generalizing used with
  | nil => exact List.nodup_nil
  | cons label labels ih =>
    refine List.nodup_cons.2 ⟨fun hmem => ?_, ih _⟩
    exact notMem_of_mem_variantNames hmem List.mem_cons_self

/-- Labels at the end get their names after those before them, which are used by then. -/
theorem variantNames_append (used labels more : List String) :
    variantNames used (labels ++ more)
      = variantNames used labels
        ++ variantNames ((variantNames used labels).reverse ++ used) more := by
  induction labels generalizing used with
  | nil => rfl
  | cons label labels ih =>
    rw [List.cons_append, variantNames, variantNames, ih, List.cons_append, List.reverse_cons,
      List.append_assoc]
    rfl

/-- The names used when a label gets its own are those there before and those of earlier labels. -/
theorem isFirstFree_variantNames (used : List String) {labels : List String} {i : ℕ} {label : String}
    (hlabel : labels[i]? = some label) :
    ∃ name, (variantNames used labels)[i]? = some name
      ∧ IsFirstFree (((variantNames used labels).take i).reverse ++ used)
        (Identifier.typeName label) name := by
  induction labels generalizing used i with
  | nil => cases hlabel
  | cons first labels ih =>
    cases i with
    | zero =>
      cases hlabel
      exact ⟨_, rfl, isFirstFree_freshName used _⟩
    | succ i =>
      obtain ⟨name, hname, hfree⟩ := ih (freshName used (Identifier.typeName first) :: used) hlabel
      refine ⟨name, hname, ?_⟩
      rw [variantNames, List.take_succ_cons, List.reverse_cons, List.append_assoc]
      exact hfree

/-! ## Variants -/

namespace EnumModel

variable (e : Catalog.Enumeration)

/-- There is a variant for each label, in order. -/
theorem values_map_value : (ofEnumeration e).values.map (·.value) = e.labels := by
  have hlength : e.labels.length ≤ (variantNames [] e.labels).length :=
    Nat.le_of_eq (length_variantNames [] e.labels).symm
  rw [ofEnumeration, List.map_map]
  exact List.map_fst_zip hlength

theorem values_map_variant :
    (ofEnumeration e).values.map (·.variant) = variantNames [] e.labels := by
  have hlength : (variantNames [] e.labels).length ≤ e.labels.length :=
    Nat.le_of_eq (length_variantNames [] e.labels)
  rw [ofEnumeration, List.map_map]
  exact List.map_snd_zip hlength

theorem nodup_variants : ((ofEnumeration e).values.map (·.variant)).Nodup := by
  rw [values_map_variant]
  exact nodup_variantNames [] e.labels

/-- The name of a variant is that of the type, an underscore and the variant. -/
theorem values_map_name :
    (ofEnumeration e).values.map (·.name)
      = (variantNames [] e.labels).map ((Identifier.typeName e.name ++ "_") ++ ·) := by
  rw [← values_map_variant, ofEnumeration, List.map_map, List.map_map, List.map_map]
  rfl

/-- Variants are kept when labels are added at the end. -/
theorem values_prefix_append (more : List String) :
    (ofEnumeration e).values <+: (ofEnumeration { e with labels := e.labels ++ more }).values := by
  have hlength : e.labels.length = (variantNames [] e.labels).length :=
    (length_variantNames [] e.labels).symm
  simp only [ofEnumeration]
  rw [variantNames_append, List.zip_append hlength, List.map_append]
  exact List.prefix_append _ _

/-- The variants of an enumeration: one for each label, in order and with the label as it is. Its
name is the first one free when the labels before it have got theirs, so that no two variants have
one name, whatever the labels are. -/
theorem values_ofEnumeration :
    (ofEnumeration e).values.map (·.value) = e.labels
    ∧ ((ofEnumeration e).values.map (·.variant)).Nodup
    ∧ ((ofEnumeration e).values.map (·.name)).Nodup
    ∧ ∀ i label, e.labels[i]? = some label →
      ∃ v, (ofEnumeration e).values[i]? = some v ∧ v.value = label
        ∧ v.typeName = Identifier.typeName e.name
        ∧ v.name = Identifier.typeName e.name ++ "_" ++ v.variant
        ∧ IsFirstFree (((ofEnumeration e).values.take i).map (·.variant))
          (Identifier.typeName label) v.variant := by
  refine ⟨values_map_value e, nodup_variants e, ?_, fun i label hlabel => ?_⟩
  · rw [values_map_name]
    exact (nodup_variantNames [] e.labels).map fun _ _ => (String.append_right_inj _).1
  · obtain ⟨name, hname, hfree⟩ := isFirstFree_variantNames [] hlabel
    have hpair : (e.labels.zip (variantNames [] e.labels))[i]? = some (label, name) :=
      List.getElem?_zip_eq_some.2 ⟨hlabel, hname⟩
    refine ⟨_, (List.getElem?_map ..).trans (congrArg _ hpair), rfl, rfl, rfl, ?_⟩
    rw [List.map_take, values_map_variant]
    refine hfree.of_mem_iff fun other => ?_
    rw [List.append_nil, List.mem_reverse]

/-- An enumeration whose labels are spelt alike, one of them like a name with a number. -/
def stages : Catalog.Enumeration where
  schema := "public"
  name := "stage"
  dbType := "stage"
  labels := ["in_progress", "in-progress", "InProgress2", "in progress"]

/-- The last label finds two names taken, and the number two after the third label's own. -/
theorem values_ofEnumeration_stages :
    stages.labels[3]? = some "in progress"
    ∧ ∃ v, (ofEnumeration stages).values[3]? = some v ∧ v.value = "in progress"
      ∧ v.name = "Stage_" ++ v.variant
      ∧ IsFirstFree ["InProgress", "InProgress2", "InProgress22"] "InProgress" v.variant := by
  have hlabel : stages.labels[3]? = some "in progress" := rfl
  have htype : Identifier.typeName stages.name = "Stage" := by decide +kernel
  have hbase : Identifier.typeName "in progress" = "InProgress" := by decide +kernel
  have htaken : ((ofEnumeration stages).values.take 3).map (·.variant)
      = ["InProgress", "InProgress2", "InProgress22"] := by decide +kernel
  obtain ⟨-, -, -, hvariant⟩ := values_ofEnumeration stages
  obtain ⟨v, hv, hvalue, -, hname, hfree⟩ := hvariant 3 "in progress" hlabel
  rw [htype] at hname
  rw [htaken, hbase] at hfree
  exact ⟨hlabel, v, hv, hvalue, hname, hfree⟩

end EnumModel

end RowBindings.Model
