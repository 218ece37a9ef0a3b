import RowBindings.Proofs.Connection.Precedence

/-!
# What is loaded

What the settings, the rules and the texts of templates are, said by the files and variables they
come from. The functions that load them give just this, or the first thing that is wrong with it.
-/

namespace RowBindings.Command

open Connection TypeMap

variable {files : Directory} {s : Surroundings} {named : Option String}

/-! ## Texts -/

/-- Without a path there is no text, and with one it is that of the file there. -/
inductive GivesText (files : Directory) : Option String → Option String → Prop
  | unnamed : GivesText files none none
  | named {path text : String} (hread : files.read path = .ok text) :
    GivesText files (some path) (some text)

theorem loadText_eq_ok_iff {failure : String → FileError → Failure} {text : Option String} :
    loadText named files failure = .ok text ↔ GivesText files named text := by
  constructor
  · intro h
    cases named with
    | none =>
      cases h
      exact .unnamed
    | some path =>
      cases hread : files.read path with
      | error cause => simp [loadText, hread, Except.mapError, Except.map] at h
      | ok content =>
        simp only [loadText, hread, Except.mapError, Except.map, Except.ok.injEq] at h
        exact h ▸ .named hread
  · rintro (_ | hread)
    · rfl
    · simp only [loadText, hread, Except.mapError, Except.map]

/-- A text fails to load if a path is named and the file there cannot be read. -/
theorem loadText_eq_error_iff {failure : String → FileError → Failure} {f : Failure} :
    loadText named files failure = .error f
      ↔ ∃ path cause, named = some path ∧ files.read path = .error cause
        ∧ f = failure path cause := by
  cases named with
  | none => simp [loadText]
  | some path =>
    cases hread : files.read path with
    | error cause => simp [loadText, hread, Except.mapError, Except.map, eq_comm]
    | ok content => simp [loadText, hread, Except.mapError, Except.map]

/-! ## Rules -/

/-- Without a path the rules are the standard ones, and with one they are those that the file there
describes. -/
inductive GivesRules (files : Directory) : Option String → RuleSet → Prop
  | unnamed : GivesRules files none .builtin
  | named {path text : String} {rules : RuleSet} (hread : files.read path = .ok text)
    (hrules : RuleSet.ofText text = .ok rules) : GivesRules files (some path) rules

/-- The file at a path cannot be read, or describes no rules. -/
inductive LacksRules (files : Directory) (path : String) : RulesError → Prop
  | unreadable {cause : FileError} (hread : files.read path = .error cause) :
    LacksRules files path (.unreadable path cause)
  | invalid {text : String} {cause : RuleError} (hread : files.read path = .ok text)
    (hrules : RuleSet.ofText text = .error cause) : LacksRules files path (.invalid cause)

variable {a : Arguments}

theorem loadRules_eq_ok_iff {rules : RuleSet} :
    loadRules a files = .ok rules ↔ GivesRules files a.typeMap rules := by
  unfold loadRules
  constructor
  · intro h
    cases hnamed : a.typeMap with
    | none =>
      rw [hnamed] at h
      cases h
      exact .unnamed
    | some path =>
      rw [hnamed] at h
      cases hread : files.read path with
      | error cause => simp [hread] at h
      | ok text =>
        cases hrules : RuleSet.ofText text with
        | error cause => simp [hread, hrules, Except.mapError] at h
        | ok given =>
          simp only [hread, hrules, Except.mapError, Except.ok.injEq] at h
          exact h ▸ .named hread hrules
  · intro h
    generalize a.typeMap = named at h
    cases h with
    | unnamed => rfl
    | named hread hrules => simp only [hread, hrules, Except.mapError]

/-- Rules fail to load if a path is named and the file there gives none. -/
theorem loadRules_eq_error_iff {f : Failure} :
    loadRules a files = .error f
      ↔ ∃ path cause, a.typeMap = some path ∧ LacksRules files path cause
        ∧ f = .rules path cause := by
  unfold loadRules
  constructor
  · intro h
    cases hnamed : a.typeMap with
    | none =>
      rw [hnamed] at h
      cases h
    | some path =>
      rw [hnamed] at h
      cases hread : files.read path with
      | error cause =>
        simp only [hread, Except.error.injEq] at h
        exact ⟨path, _, rfl, .unreadable hread, h.symm⟩
      | ok text =>
        cases hrules : RuleSet.ofText text with
        | error cause =>
          simp only [hread, hrules, Except.mapError, Except.error.injEq] at h
          exact ⟨path, _, rfl, .invalid hread hrules, h.symm⟩
        | ok given => simp [hread, hrules, Except.mapError] at h
  · rintro ⟨path, cause, hnamed, hlacks, rfl⟩
    rw [hnamed]
    cases hlacks with
    | unreadable hread => simp only [hread]
    | invalid hread hrules => simp only [hread, hrules, Except.mapError]

/-! ## Settings -/

/-- The variables that settings come from: those of the process, and after them those of the file at
a path, if one is named and something is there. -/
inductive GivesVariables (s : Surroundings) : Option String → Variables → Prop
  | unnamed : GivesVariables s none s.vars
  | missing {path : String} (hmissing : s.files.has path = false) :
    GivesVariables s (some path) s.vars
  | named {path : String} {given : Variables} (hhas : s.files.has path = true)
    (hgiven : fileAssignments? s path = some given) :
    GivesVariables s (some path) (s.vars ++ given)

/-- The settings that the variables give. -/
def GivesSettings (s : Surroundings) (named : Option String) (settings : Settings) : Prop :=
  ∃ vars, GivesVariables s named vars ∧ Settings.Give vars (.ok settings)

/-- The variables cannot be read, or give no settings. -/
inductive LacksSettings (s : Surroundings) : Option String → SettingsError → Prop
  | unreadable {path : String} (hhas : s.files.has path = true)
    (hgiven : fileAssignments? s path = none) : LacksSettings s (some path) (.unreadable path)
  | invalid {named : Option String} {vars : Variables} {cause : SettingsError}
    (hvars : GivesVariables s named vars) (hgive : Settings.Give vars (.error cause)) :
    LacksSettings s named cause

/-- Where variables are given, the settings are those that they give. -/
theorem loadSettings_of_givesVariables {vars : Variables} (h : GivesVariables s a.envFile vars) :
    loadSettings a s = Settings.ofVariables vars := by
  generalize hnamed : a.envFile = named at h
  cases h with
  | unnamed => exact loadSettings_of_no_file fun path h => nomatch hnamed.symm.trans h
  | missing hmissing =>
    refine loadSettings_of_no_file fun path h => ?_
    cases hnamed.symm.trans h
    exact hmissing
  | named hhas hgiven =>
    exact loadSettings_of_fileAssignments? hnamed hhas hgiven fun _ => List.lookup_append

/-- Variables are given, or a path is named and they cannot be read there. -/
theorem givesVariables_or_unreadable (s : Surroundings) (named : Option String) :
    (∃ vars, GivesVariables s named vars)
    ∨ ∃ path, named = some path ∧ s.files.has path = true ∧ fileAssignments? s path = none := by
  cases named with
  | none => exact Or.inl ⟨_, .unnamed⟩
  | some path =>
    cases hhas : s.files.has path with
    | false => exact Or.inl ⟨_, .missing hhas⟩
    | true =>
      cases hgiven : fileAssignments? s path with
      | none => exact Or.inr ⟨path, rfl, hhas, hgiven⟩
      | some given => exact Or.inl ⟨_, .named hhas hgiven⟩

theorem loadSettings_eq_ok_iff {settings : Settings} :
    loadSettings a s = .ok settings ↔ GivesSettings s a.envFile settings := by
  constructor
  · intro h
    rcases givesVariables_or_unreadable s a.envFile with
      ⟨vars, hvars⟩ | ⟨path, hnamed, hhas, hgiven⟩
    · rw [loadSettings_of_givesVariables hvars] at h
      exact ⟨vars, hvars, Settings.ofVariables_eq_iff.1 h⟩
    · rw [loadSettings_of_unreadable hnamed hhas hgiven] at h
      cases h
  · rintro ⟨vars, hvars, hgive⟩
    rw [loadSettings_of_givesVariables hvars]
    exact Settings.ofVariables_eq_of_give hgive

theorem loadSettings_eq_error_iff {cause : SettingsError} :
    loadSettings a s = .error cause ↔ LacksSettings s a.envFile cause := by
  constructor
  · intro h
    rcases givesVariables_or_unreadable s a.envFile with
      ⟨vars, hvars⟩ | ⟨path, hnamed, hhas, hgiven⟩
    · rw [loadSettings_of_givesVariables hvars] at h
      exact .invalid hvars (Settings.ofVariables_eq_iff.1 h)
    · rw [loadSettings_of_unreadable hnamed hhas hgiven] at h
      cases h
      exact hnamed ▸ .unreadable hhas hgiven
  · intro h
    generalize hnamed : a.envFile = named at h
    cases h with
    | unreadable hhas hgiven => exact loadSettings_of_unreadable hnamed hhas hgiven
    | invalid hvars hgive =>
      rw [loadSettings_of_givesVariables (hnamed ▸ hvars)]
      exact Settings.ofVariables_eq_of_give hgive

end RowBindings.Command
