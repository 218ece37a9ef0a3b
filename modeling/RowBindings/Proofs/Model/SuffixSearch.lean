import Mathlib.Data.Finset.Card
import Mathlib.Data.Finset.Dedup
import Mathlib.Order.Interval.Finset.Nat
import RowBindings.Proofs.Model.Variants

/-!
# The search for a free name

The name of a label is found by insertion into the set of names used: the conversion of the label
first and then, as long as the insertion fails, the conversion with the next number after it. Nothing
in this loop bounds it. What does is that no name is tried twice, so that each failure takes up
another one of the names used. Main statement: at every label the search makes at most as many
failed insertions as there are labels before, ends with the variant of the label, and leaves a set
of just the variants given out so far; so that numbers of 32 bits are enough to count in.
-/

namespace RowBindings.Model

/-! ## Counting -/

/-- Numbers to count in, from two on. -/
class Counter (κ : Type) where
  two : κ
  next : κ → κ
  text : κ → String
  /-- The number that is meant. -/
  value : κ → ℤ

instance : Counter ℕ where
  two := 2
  next := (· + 1)
  text := toString
  value := Nat.cast

/-- These wrap around after the greatest of them. -/
instance : Counter Int32 where
  two := 2
  next := (· + 1)
  text := toString
  value := Int32.toInt

/-- Counting gives the right numbers, written in decimal, up to a limit. -/
structure CountsTo (κ : Type) [Counter κ] (limit : ℤ) : Prop where
  two : Counter.value (Counter.two : κ) = 2
  next : ∀ k : κ, Counter.value k < limit →
    Counter.value (Counter.next k) = Counter.value k + 1
  text : ∀ k : κ, Counter.text k = toString (Counter.value k)

theorem CountsTo.mono {κ : Type} [Counter κ] {limit lower : ℤ} (h : CountsTo κ limit)
    (hle : lower ≤ limit) : CountsTo κ lower where
  two := h.two
  next := fun k hk => h.next k (lt_of_lt_of_le hk hle)
  text := h.text

/-- Numbers without bound count to any limit. -/
theorem countsTo_nat (limit : ℤ) : CountsTo ℕ limit where
  two := rfl
  next := fun k _ => Int.natCast_succ k
  text := fun _ => rfl

/-- Numbers of 32 bits count to the greatest of them. -/
theorem countsTo_int32 : CountsTo Int32 (2 ^ 31 - 1) where
  two := rfl
  next := by
    intro k hk
    change k.toInt < 2 ^ 31 - 1 at hk
    show (k + 1).toInt = k.toInt + 1
    have hlow := Int32.le_toInt k
    have hone : (1 : Int32).toInt = 1 := rfl
    rw [Int32.toInt_add, hone]
    exact Int.bmod_eq_of_le_mul_two (by omega) (by omega)
  text := fun _ => rfl

/-! ## The loops -/

variable {κ : Type} [Counter κ]

/-- Inserts a name into a set: whether the name is new, and the set after it. -/
def insertName (used : Finset String) (name : String) : Bool × Finset String :=
  (name ∉ used, insert name used)

/-- The search for the name of a label before one of its insertions. It counts in `κ`. -/
structure Search (κ : Type) where
  /-- The set of names used. -/
  used : Finset String
  /-- The conversion of the label. -/
  base : String
  /-- The name to insert. -/
  name : String
  /-- The number of the name after it. -/
  suffix : κ

namespace Search

/-- The base comes first, and the number two after it. -/
def start (used : Finset String) (base : String) : Search κ :=
  { used, base, name := base, suffix := Counter.two }

/-- One insertion. It ends the search with the set that it leaves, or the next name is up. -/
def pass (s : Search κ) : Finset String ⊕ Search κ :=
  match insertName s.used s.name with
  | (true, used) => .inl used
  | (false, used) =>
    .inr { s with
      used, name := s.base ++ Counter.text s.suffix, suffix := Counter.next s.suffix }

/-- So many failed insertions lead from one point of the search to another. -/
inductive Fails : ℕ → Search κ → Search κ → Prop
  | refl (s : Search κ) : Fails 0 s s
  | next {failures : ℕ} {s t u : Search κ} (hfails : Fails failures s t) (hpass : t.pass = .inr u) :
      Fails (failures + 1) s u

end Search

/-- The loop over the labels between two of them: the set of names used and the names given out. -/
structure Naming where
  used : Finset String
  given : List String

namespace Naming

/-- A label gets the name whose insertion ends its search. -/
inductive Step (κ : Type) [Counter κ] : Naming → String → Naming → Prop
  | named {p : Naming} {label : String} {failures : ℕ} {s : Search κ} {used : Finset String}
      (hfails : (Search.start p.used (Identifier.typeName label)).Fails failures s)
      (hpass : s.pass = .inl used) : Step κ p label ⟨used, p.given ++ [s.name]⟩

/-- What the loop has come to after some labels. -/
inductive Reaches (κ : Type) [Counter κ] : List String → Naming → Prop
  | start : Reaches κ [] ⟨∅, []⟩
  | step {labels : List String} {label : String} {p q : Naming} (hreaches : Reaches κ labels p)
      (hstep : Step κ p label q) : Reaches κ (labels ++ [label]) q

end Naming

/-! ## One search -/

namespace Search

/-- An insertion that fails leaves the set as it is: the name was in it already. -/
theorem pass_of_mem {s : Search κ} (h : s.name ∈ s.used) :
    s.pass = .inr { s with
      name := s.base ++ Counter.text s.suffix, suffix := Counter.next s.suffix } := by
  have hsame : insert s.name s.used = s.used := Finset.insert_eq_self.2 h
  rw [pass, insertName, hsame, decide_eq_false (not_not.2 h)]

/-- An insertion that ends the search adds a name. -/
theorem pass_of_notMem {s : Search κ} (h : s.name ∉ s.used) :
    s.pass = .inl (insert s.name s.used) := by
  rw [pass, insertName, decide_eq_true h]

theorem notMem_of_pass {s : Search κ} {used : Finset String} (h : s.pass = .inl used) :
    s.name ∉ s.used ∧ used = insert s.name s.used := by
  by_cases hname : s.name ∈ s.used
  · rw [pass_of_mem hname] at h
    cases h
  · rw [pass_of_notMem hname] at h
    cases h
    exact ⟨hname, rfl⟩

theorem mem_of_pass {s t : Search κ} (h : s.pass = .inr t) : s.name ∈ s.used := by
  by_contra hname
  rw [pass_of_notMem hname] at h
  cases h

/-- The search for a base after some failed insertions: the set is as at the start, and the names
inserted so far are in it. -/
structure IsAfter (used : Finset String) (base : String) (failures : ℕ) (s : Search κ) : Prop where
  used_eq : s.used = used
  base_eq : s.base = base
  name_eq : s.name = candidate base (failures + 1)
  suffix_eq : Counter.value s.suffix = failures + 2
  tried : ∀ k, 1 ≤ k → k ≤ failures → candidate base k ∈ used

/-- There are as many names used as have been tried. -/
theorem le_card_of_tried {used : Finset String} {base : String} {failures : ℕ}
    (h : ∀ k, 1 ≤ k → k ≤ failures → candidate base k ∈ used) : failures ≤ used.card := by
  have hsubset : (Finset.Icc 1 failures).image (candidate base) ⊆ used := by
    intro name hname
    obtain ⟨k, hk, rfl⟩ := Finset.mem_image.1 hname
    obtain ⟨hlow, hhigh⟩ := Finset.mem_Icc.1 hk
    exact h k hlow hhigh
  have hcard : ((Finset.Icc 1 failures).image (candidate base)).card = failures := by
    rw [Finset.card_image_of_injOn, Nat.card_Icc, Nat.add_sub_cancel]
    intro j hj k hk heq
    exact candidate_injective (Finset.mem_Icc.1 hj).1 (Finset.mem_Icc.1 hk).1 heq
  exact hcard ▸ Finset.card_le_card hsubset

variable {used : Finset String} {base : String}

theorem isAfter_start (hcounts : CountsTo κ 2) :
    IsAfter used base 0 (start used base : Search κ) where
  used_eq := rfl
  base_eq := rfl
  name_eq := rfl
  suffix_eq := hcounts.two
  tried := by
    intro k hlow hhigh
    omega

/-- One more failed insertion. -/
theorem IsAfter.next {failures : ℕ} {s t : Search κ} (h : IsAfter used base failures s)
    (hcounts : CountsTo κ (used.card + 2)) (hpass : s.pass = .inr t) :
    IsAfter used base (failures + 1) t := by
  have hname := mem_of_pass hpass
  rw [pass_of_mem hname] at hpass
  cases hpass
  have htried : ∀ k, 1 ≤ k → k ≤ failures + 1 → candidate base k ∈ used := by
    intro k hlow hhigh
    rcases Nat.lt_or_ge failures k with hlt | hle
    · rw [Nat.le_antisymm hhigh hlt, ← h.name_eq, ← h.used_eq]
      exact hname
    · exact h.tried k hlow hle
  -- the name just tried is one of those used, so that the counter is below its limit
  have hlimit := le_card_of_tried htried
  have hsuffix := h.suffix_eq
  refine ⟨h.used_eq, h.base_eq, ?_, ?_, htried⟩
  · have hnumbered : candidate base (failures + 1 + 1) = base ++ toString (failures + 2) :=
      if_neg (by omega)
    rw [hnumbered, h.base_eq, hcounts.text, hsuffix]
    rfl
  · rw [hcounts.next _ (by omega), hsuffix]
    omega

theorem isAfter_of_fails {failures : ℕ} {s : Search κ} (hcounts : CountsTo κ (used.card + 2))
    (h : (start used base).Fails failures s) : IsAfter used base failures s := by
  generalize hstart : (start used base : Search κ) = first at h
  -- on the failures, from the first one on: the start stays the same
  induction h with
  | refl => exact hstart ▸ isAfter_start (hcounts.mono (by omega))
  | next _ hpass ih => exact (ih hstart).next hcounts hpass

/-- A name is up after some failures if all before it are used. -/
theorem exists_fails {failures : ℕ} (hcounts : CountsTo κ (used.card + 2))
    (h : ∀ k, 1 ≤ k → k ≤ failures → candidate base k ∈ used) :
    ∃ s : Search κ, (start used base).Fails failures s := by
  induction failures with
  | zero => exact ⟨_, .refl _⟩
  | succ failures ih =>
    obtain ⟨s, hfails⟩ := ih fun k hlow hhigh => h k hlow (by omega)
    have hafter := isAfter_of_fails hcounts hfails
    have hname : s.name ∈ s.used := by
      rw [hafter.name_eq, hafter.used_eq]
      exact h (failures + 1) (by omega) (Nat.le_refl _)
    exact ⟨_, hfails.next (pass_of_mem hname)⟩

/-- A search ends with the first free name, whatever the order of the names used, and adds it. -/
theorem eq_freshName_of_pass {names : List String} {failures : ℕ} {s : Search κ}
    {after : Finset String} (hafter : IsAfter names.toFinset base failures s)
    (hpass : s.pass = .inl after) :
    s.name = freshName names base ∧ after = insert s.name names.toFinset := by
  obtain ⟨hfree, hinsert⟩ := notMem_of_pass hpass
  rw [hafter.used_eq] at hfree hinsert
  obtain ⟨k, hleast, hname⟩ := freshName_isLeast names base
  have hthis : IsLeast {k | 1 ≤ k ∧ candidate base k ∉ names} (failures + 1) := by
    rw [hafter.name_eq, List.mem_toFinset] at hfree
    refine ⟨⟨by omega, hfree⟩, ?_⟩
    rintro j ⟨hj, hjfree⟩
    by_contra hlt
    exact hjfree (List.mem_toFinset.1 (hafter.tried j hj (by omega)))
  rw [hafter.name_eq, hname, hleast.unique hthis]
  rw [hafter.name_eq] at hinsert
  exact ⟨rfl, hinsert⟩

/-- There is an end to each search. -/
theorem exists_pass_eq_inl {names : List String} (base : String) (hcounts : CountsTo κ (names.toFinset.card + 2)) :
    ∃ (failures : ℕ) (s : Search κ) (after : Finset String),
      (start names.toFinset base).Fails failures s ∧ s.pass = .inl after := by
  obtain ⟨k, ⟨⟨hk, hfree⟩, hleast⟩, -⟩ := freshName_isLeast names base
  have htried : ∀ j, 1 ≤ j → j ≤ k - 1 → candidate base j ∈ names.toFinset := by
    intro j hlow hhigh
    by_contra hjfree
    have hle : k ≤ j := hleast ⟨hlow, fun hmem => hjfree (List.mem_toFinset.2 hmem)⟩
    omega
  obtain ⟨s, hfails⟩ := exists_fails hcounts htried
  have hafter := isAfter_of_fails hcounts hfails
  have hname : s.name ∉ s.used := by
    rw [hafter.name_eq, hafter.used_eq, Nat.sub_add_cancel hk, List.mem_toFinset]
    exact hfree
  exact ⟨k - 1, s, _, hfails, pass_of_notMem hname⟩

end Search

/-! ## All labels -/

namespace Naming

/-- Between two labels the set holds just the names given out, which are the variants so far. -/
structure IsAt (labels : List String) (p : Naming) : Prop where
  given_eq : p.given = variantNames [] labels
  used_eq : p.used = p.given.toFinset

theorem IsAt.card_used {labels : List String} {p : Naming} (h : p.IsAt labels) :
    p.used.card = labels.length := by
  rw [h.used_eq, h.given_eq, List.toFinset_card_of_nodup (nodup_variantNames [] labels),
    length_variantNames]

/-- The set as the names given out, last first. -/
theorem IsAt.used_eq_reverse {labels : List String} {p : Naming} (h : p.IsAt labels) :
    p.used = ((variantNames [] labels).reverse).toFinset := by
  rw [h.used_eq, h.given_eq, List.toFinset_reverse]

theorem variantNames_concat (labels : List String) (label : String) :
    variantNames [] (labels ++ [label])
      = variantNames [] labels
        ++ [freshName (variantNames [] labels).reverse (Identifier.typeName label)] := by
  rw [variantNames_append, List.append_nil, variantNames, variantNames]

/-- One more label. -/
theorem IsAt.step {labels : List String} {label : String} {p q : Naming} (h : p.IsAt labels)
    (hcounts : CountsTo κ (labels.length + 2)) (hstep : Step κ p label q) :
    q.IsAt (labels ++ [label]) := by
  cases hstep with
  | @named failures s used hfails hpass =>
    rw [← h.card_used] at hcounts
    have hafter := Search.isAfter_of_fails hcounts hfails
    rw [h.used_eq_reverse] at hafter
    obtain ⟨hname, hused⟩ := Search.eq_freshName_of_pass hafter hpass
    have hgiven : p.given ++ [s.name] = variantNames [] (labels ++ [label]) := by
      rw [variantNames_concat, h.given_eq, hname]
    refine ⟨hgiven, ?_⟩
    rw [hused, ← h.used_eq_reverse, h.used_eq, List.toFinset_append, List.toFinset_cons,
      List.toFinset_nil, Finset.insert_empty, Finset.union_comm]
    rfl

theorem isAt_of_reaches {labels : List String} {p : Naming}
    (hcounts : CountsTo κ (labels.length + 1)) (h : Reaches κ labels p) : p.IsAt labels := by
  induction h with
  | start => exact ⟨rfl, rfl⟩
  | @step labels label p q _ hstep ih =>
    rw [List.length_append, List.length_singleton] at hcounts
    push_cast at hcounts
    exact (ih (hcounts.mono (by omega))).step (hcounts.mono (by omega)) hstep

theorem exists_step {labels : List String} {p : Naming} (h : p.IsAt labels) (label : String)
    (hcounts : CountsTo κ (labels.length + 2)) : ∃ q, Step κ p label q := by
  rw [← h.card_used, h.used_eq_reverse] at hcounts
  obtain ⟨failures, s, after, hfails, hpass⟩ :=
    Search.exists_pass_eq_inl (Identifier.typeName label) hcounts
  rw [← h.used_eq_reverse] at hfails
  exact ⟨_, .named hfails hpass⟩

theorem exists_reaches (labels : List String) (hcounts : CountsTo κ (labels.length + 1)) :
    ∃ p, Reaches κ labels p := by
  induction labels using List.reverseRecOn with
  | nil => exact ⟨_, .start⟩
  | append_singleton labels label ih =>
    rw [List.length_append, List.length_singleton] at hcounts
    push_cast at hcounts
    obtain ⟨p, hreaches⟩ := ih (hcounts.mono (by omega))
    have hat := isAt_of_reaches (hcounts.mono (by omega)) hreaches
    obtain ⟨q, hstep⟩ := exists_step hat label (hcounts.mono (by omega))
    exact ⟨q, hreaches.step hstep⟩

end Naming

namespace EnumModel

/-- How a label of an enumeration gets its name when those in `before` have theirs, counting in
`κ`. -/
structure NamesLabel (κ : Type) [Counter κ] (e : Catalog.Enumeration) (before : List String)
    (label : String) : Prop where
  reached : ∃ p, Naming.Reaches κ before p
  /-- There are at most as many failures as labels before. They leave the set as it is, and the
  number is the one meant: it has not wrapped around. -/
  failures : ∀ p, Naming.Reaches κ before p → ∀ count (s : Search κ),
    (Search.start p.used (Identifier.typeName label)).Fails count s →
      count ≤ before.length ∧ s.used = p.used
        ∧ Counter.value s.suffix = count + 2 ∧ Counter.value s.suffix ≤ before.length + 2
  ends : ∀ p, Naming.Reaches κ before p → ∃ q, Naming.Step κ p label q
  /-- After the label, the set holds one name more, and just the variants up to that of the label. -/
  after : ∀ q, Naming.Reaches κ (before ++ [label]) q →
    q.used.card = before.length + 1 ∧ q.used = q.given.toFinset
      ∧ q.given = ((ofEnumeration e).values.take (before.length + 1)).map (·.variant)

theorem take_values_map_variant {e : Catalog.Enumeration} {before rest : List String}
    (hlabels : e.labels = before ++ rest) :
    ((ofEnumeration e).values.take before.length).map (·.variant) = variantNames [] before := by
  rw [List.map_take, values_map_variant, hlabels, variantNames_append]
  exact List.take_left' (length_variantNames [] before)

theorem namesLabel_of_countsTo {e : Catalog.Enumeration} {before rest : List String}
    {label : String} (hlabels : e.labels = before ++ label :: rest)
    (hcounts : CountsTo κ (before.length + 2)) : NamesLabel κ e before label where
  reached := Naming.exists_reaches before (hcounts.mono (by omega))
  failures := by
    intro p hreaches count s hfails
    have hat := Naming.isAt_of_reaches (hcounts.mono (by omega)) hreaches
    rw [← hat.card_used] at hcounts
    have hafter := Search.isAfter_of_fails hcounts hfails
    have hle := Search.le_card_of_tried hafter.tried
    have hsuffix := hafter.suffix_eq
    rw [hat.card_used] at hle
    exact ⟨hle, hafter.used_eq, hsuffix, by omega⟩
  ends := by
    intro p hreaches
    have hat := Naming.isAt_of_reaches (hcounts.mono (by omega)) hreaches
    exact Naming.exists_step hat label hcounts
  after := by
    intro q hreaches
    have hlength : (before ++ [label]).length = before.length + 1 := by simp
    have hrest : e.labels = (before ++ [label]) ++ rest := by simp [hlabels]
    have hat : q.IsAt (before ++ [label]) := by
      refine Naming.isAt_of_reaches (hcounts.mono ?_) hreaches
      rw [hlength]
      push_cast
      omega
    refine ⟨hat.card_used.trans hlength, hat.used_eq, ?_⟩
    rw [← hlength, take_values_map_variant hrest]
    exact hat.given_eq

/-- The name of every label is found after at most as many failed insertions as there are labels
before it; and numbers of 32 bits do to count them, if there are fewer than `2 ^ 31 - 2` labels. -/
theorem namesLabel_ofEnumeration {e : Catalog.Enumeration} {before rest : List String}
    {label : String} (hlabels : e.labels = before ++ label :: rest) :
    NamesLabel ℕ e before label
      ∧ (e.labels.length < 2 ^ 31 - 2 → NamesLabel Int32 e before label) := by
  refine ⟨namesLabel_of_countsTo hlabels (countsTo_nat _), fun hfew => ?_⟩
  refine namesLabel_of_countsTo hlabels (countsTo_int32.mono ?_)
  rw [hlabels, List.length_append, List.length_cons] at hfew
  omega

/-- Two names are taken already when the last label is converted to the first of them. -/
theorem namesLabel_ofEnumeration_stages :
    stages.labels = ["in_progress", "in-progress", "InProgress2"] ++ "in progress" :: []
      ∧ stages.labels.length < 2 ^ 31 - 2
      ∧ NamesLabel ℕ stages ["in_progress", "in-progress", "InProgress2"] "in progress"
      ∧ NamesLabel Int32 stages ["in_progress", "in-progress", "InProgress2"] "in progress" := by
  have hlabels : stages.labels
      = ["in_progress", "in-progress", "InProgress2"] ++ "in progress" :: [] := rfl
  have hfew : stages.labels.length < 2 ^ 31 - 2 := by decide
  obtain ⟨hnumbers, hwords⟩ := namesLabel_ofEnumeration hlabels
  exact ⟨hlabels, hfew, hnumbers, hwords hfew⟩

end EnumModel

end RowBindings.Model
