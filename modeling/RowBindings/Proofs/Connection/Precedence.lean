import Mathlib.Data.List.Induction
import Mathlib.Data.Nat.Digits.Defs
import RowBindings.Command.Program
import RowBindings.Proofs.Command.Directory

/-!
# Where settings come from

A file of variables changes none that is set already, so that of the values of one name that of the
process counts, else the first one in the file. A URL that is not empty decides alone. The other
settings need a port that is a number, a database and a user; of several faults the first one in
this order counts.
-/

namespace RowBindings.Connection

variable {vars given : Variables} {text : String}

/-! ## Files of variables -/

namespace VariableFile

variable {k k' : Known}

/-- What is set is what was set before, and else what was given first. -/
def Extends (vars : Variables) (k : Known) : Prop :=
  ∀ name, k.vars.lookup name = (vars.lookup name).or (k.given.reverse.lookup name)

theorem extends_start (vars : Variables) : Extends vars { vars } := by
  intro name
  rw [List.reverse_nil, List.lookup_nil, Option.or_none]

theorem Extends.assign (h : Extends vars k) (name value : String) :
    Extends vars (k.assign name value) := by
  intro other
  have hgiven : (k.assign name value).given.reverse = k.given.reverse ++ [(name, value)] :=
    List.reverse_cons
  rw [hgiven, List.lookup_append, ← Option.or_assoc, ← h other]
  show (if (k.vars.lookup name).isSome then k.vars else k.vars ++ [(name, value)]).lookup other = _
  by_cases hset : (k.vars.lookup name).isSome
  · rw [if_pos hset]
    by_cases hother : other = name
    · obtain ⟨first, hfirst⟩ := Option.isSome_iff_exists.1 hset
      rw [hother, hfirst, Option.some_or]
    · rw [List.lookup_cons, beq_false_of_ne hother, List.lookup_nil, Option.or_none]
  · rw [if_neg hset, List.lookup_append]

/-- A line is passed over or gives one assignment. -/
theorem readLine_cases {line : List Char} (h : readLine k line = some k') :
    k' = k ∨ ∃ name value, k' = k.assign name value := by
  simp only [VariableFile.readLine] at h
  split at h
  · exact Or.inl (Option.some.inj h).symm
  · obtain ⟨⟨name, rest⟩, -, h⟩ := Option.bind_eq_some_iff.1 h
    right
    split at h
    · exact ⟨name, "", (Option.some.inj h).symm⟩
    · obtain ⟨value, -, h⟩ := Option.bind_eq_some_iff.1 h
      exact ⟨name, value, (Option.some.inj h).symm⟩

theorem Extends.readLine {line : List Char} (h : Extends vars k)
    (hread : readLine k line = some k') : Extends vars k' := by
  rcases readLine_cases hread with rfl | ⟨name, value, rfl⟩
  · exact h
  · exact h.assign name value

theorem Extends.foldlM {lines : List (List Char)} (h : Extends vars k)
    (hread : lines.foldlM VariableFile.readLine k = some k') : Extends vars k' := by
  induction lines generalizing k with
  | nil =>
    cases hread
    exact h
  | cons line lines ih =>
    rw [List.foldlM_cons] at hread
    obtain ⟨next, hline, hrest⟩ := Option.bind_eq_some_iff.1 hread
    exact ih (h.readLine hline) hrest

/-- What is known after a text, unless a line of it cannot be read. -/
def known? (vars : Variables) (text : String) : Option Known := do
  let cs := match text.toList with
    | c :: rest => if c.toNat = 0xFEFF then rest else c :: rest
    | [] => []
  let lines ← joinLines .plain [] (physicalLines cs)
  lines.foldlM readLine { vars }

/-- The assignments of a text in their order, unless one of them cannot be read. A value may refer
to variables that are set. -/
def assignments? (vars : Variables) (text : String) : Option Variables :=
  (known? vars text).map (·.given.reverse)

theorem load_eq_map (vars : Variables) (text : String) :
    load vars text = (known? vars text).map (·.vars) := by
  unfold load known?
  simp only [Option.bind_eq_bind, Option.map_eq_bind, Option.bind_assoc]
  rfl

theorem load_eq_none_iff : load vars text = none ↔ assignments? vars text = none := by
  rw [load_eq_map, assignments?, Option.map_eq_none_iff, Option.map_eq_none_iff]

/-- After a file is read a variable has the value it had, and else the first one the file gives. -/
theorem exists_load_of_assignments? (h : assignments? vars text = some given) :
    ∃ loaded, load vars text = some loaded
      ∧ ∀ name, loaded.lookup name = (vars.lookup name).or (given.lookup name) := by
  obtain ⟨k, hk, rfl⟩ := Option.map_eq_some_iff.1 h
  refine ⟨k.vars, by rw [load_eq_map, hk]; rfl, ?_⟩
  obtain ⟨lines, -, hfold⟩ := Option.bind_eq_some_iff.1 hk
  exact (extends_start vars).foldlM hfold

end VariableFile

/-! ## Ports -/

/-- A text is a number in decimal digits, perhaps after a plus. -/
def IsDecimal (text : String) (n : Nat) : Prop :=
  ∃ digits : List Char, (text.toList = digits ∨ text.toList = '+' :: digits) ∧ digits ≠ []
    ∧ (∀ c ∈ digits, c.isDigit = true)
    ∧ n = Nat.ofDigits 10 (digits.reverse.map fun c => c.toNat - '0'.toNat)

theorem foldl_eq_ofDigits (cs : List Char) :
    cs.foldl (fun n c => n * 10 + (c.toNat - '0'.toNat)) 0
      = Nat.ofDigits 10 (cs.reverse.map fun c => c.toNat - '0'.toNat) := by
  induction cs using List.reverseRecOn with
  | nil => rfl
  | append_singleton cs c ih =>
    rw [List.foldl_append, List.reverse_append, List.reverse_singleton, List.singleton_append,
      List.map_cons, Nat.ofDigits_cons, ← ih]
    show _ * 10 + _ = _ + 10 * _
    omega

theorem digits?_eq_some_iff {cs : List Char} {n : Nat} :
    digits? cs = some n
      ↔ cs ≠ [] ∧ (∀ c ∈ cs, c.isDigit = true)
        ∧ n = Nat.ofDigits 10 (cs.reverse.map fun c => c.toNat - '0'.toNat) := by
  rw [digits?, foldl_eq_ofDigits]
  by_cases hnone : (cs.isEmpty || cs.any fun c => !c.isDigit) = true
  · rw [if_pos hnone]
    refine iff_of_false (fun h => nomatch h) ?_
    rintro ⟨hne, hdigits, -⟩
    simp only [Bool.or_eq_true, List.isEmpty_iff, List.any_eq_true, Bool.not_eq_true'] at hnone
    rcases hnone with hnil | ⟨c, hc, hdigit⟩
    · exact hne hnil
    · rw [hdigits c hc] at hdigit
      exact Bool.noConfusion hdigit
  · rw [if_neg hnone]
    simp only [Bool.or_eq_true, List.isEmpty_iff, List.any_eq_true, Bool.not_eq_true', not_or,
      not_exists, not_and, Bool.not_eq_false] at hnone
    obtain ⟨hne, hdigits⟩ := hnone
    constructor
    · intro h
      exact ⟨hne, hdigits, (Option.some.inj h).symm⟩
    · rintro ⟨-, -, rfl⟩
      rfl

/-- What is left of a text without a plus in front. -/
def withoutPlus (text : String) : List Char :=
  match text.toList with
  | '+' :: rest => rest
  | cs => cs

theorem isDecimal_iff {n : Nat} : IsDecimal text n ↔ digits? (withoutPlus text) = some n := by
  rw [digits?_eq_some_iff]
  constructor
  · rintro ⟨digits, htext, hne, hdigits, hn⟩
    have hrest : withoutPlus text = digits := by
      unfold withoutPlus
      rcases htext with htext | htext
      · -- a plus is no digit
        rw [htext]
        split
        · exact absurd (hdigits _ List.mem_cons_self) (by decide)
        · rfl
      · rw [htext]
        rfl
    rw [hrest]
    exact ⟨hne, hdigits, hn⟩
  · intro h
    refine ⟨withoutPlus text, ?_, h⟩
    unfold withoutPlus
    split
    · next htext => exact Or.inr htext
    · exact Or.inl rfl

theorem port?_eq (text : String) :
    port? text
      = (digits? (withoutPlus text)).bind fun n =>
        if n < UInt16.size then some (UInt16.ofNat n) else none := by
  unfold port?
  dsimp only
  split
  · next n hdigits => rw [show digits? (withoutPlus text) = some n from hdigits, Option.bind_some]
  · next hdigits => rw [show digits? (withoutPlus text) = none from hdigits, Option.bind_none]

theorem port?_eq_some_iff {port : UInt16} : port? text = some port ↔ IsDecimal text port.toNat := by
  rw [port?_eq, isDecimal_iff, Option.bind_eq_some_iff]
  constructor
  · rintro ⟨n, hn, hport⟩
    split at hport
    · next hlt =>
      cases hport
      rwa [UInt16.toNat_ofNat_of_lt' hlt]
    · cases hport
  · intro h
    exact ⟨port.toNat, h, by rw [if_pos port.toNat_lt, UInt16.ofNat_toNat]⟩

theorem port?_eq_none_iff :
    port? text = none ↔ ∀ n, IsDecimal text n → 65535 < n := by
  rw [port?_eq]
  constructor
  · intro h n hn
    rw [isDecimal_iff.1 hn, Option.bind_some] at h
    split at h
    · cases h
    · next hsize => exact Nat.not_lt.1 hsize
  · intro h
    cases hdigits : digits? (withoutPlus text) with
    | none => rfl
    | some n =>
      have hlarge := h n (isDecimal_iff.2 hdigits)
      rw [Option.bind_some, if_neg]
      show ¬ n < 65536
      omega

/-! ## Settings -/

namespace Settings

/-- The text of the port, which has a default. -/
def portText (vars : Variables) : String := (vars.lookup "PGPORT").getD "5432"

/-- No URL is set, or an empty one. -/
def LacksUrl (vars : Variables) : Prop :=
  ∀ text, vars.lookup "DATABASE_URL" = some text → text = ""

/-- What variables give: settings, or an error. -/
inductive Give (vars : Variables) : Except SettingsError Settings → Prop
  /-- A URL that is not empty decides, whatever the other variables are. -/
  | url {text : String} (hurl : vars.lookup "DATABASE_URL" = some text) (hne : text ≠ "") :
    Give vars (.ok (.url text))
  /-- The port is no number, or too large. -/
  | badPort (hurl : LacksUrl vars) (hport : ∀ n, IsDecimal (portText vars) n → 65535 < n) :
    Give vars (.error .badPort)
  | noDatabase {port : UInt16} (hurl : LacksUrl vars)
    (hport : IsDecimal (portText vars) port.toNat)
    (hdatabase : vars.lookup "PGDATABASE" = none) : Give vars (.error (.missing "PGDATABASE"))
  | noUser {port : UInt16} {database : String} (hurl : LacksUrl vars)
    (hport : IsDecimal (portText vars) port.toNat)
    (hdatabase : vars.lookup "PGDATABASE" = some database) (huser : vars.lookup "PGUSER" = none) :
    Give vars (.error (.missing "PGUSER"))
  | parameters {port : UInt16} {database user : String} (hurl : LacksUrl vars)
    (hport : IsDecimal (portText vars) port.toNat)
    (hdatabase : vars.lookup "PGDATABASE" = some database)
    (huser : vars.lookup "PGUSER" = some user) :
    Give vars (.ok (.parameters {
      host := (vars.lookup "PGHOST").getD "localhost"
      port
      database
      user
      password := vars.lookup "PGPASSWORD" }))

theorem ofVariables_of_lacksUrl (h : LacksUrl vars) :
    ofVariables vars = (parametersOf vars).map parameters := by
  unfold ofVariables
  split
  · next text htext => rw [if_pos (String.isEmpty_iff.2 (h text htext))]
  · rfl

theorem parametersOf_of_port? {port : UInt16} (h : port? (portText vars) = some port) :
    parametersOf vars = (do
      let database ← needed vars "PGDATABASE"
      let user ← needed vars "PGUSER"
      return {
        host := (vars.lookup "PGHOST").getD "localhost"
        port
        database
        user
        password := vars.lookup "PGPASSWORD" }) := by
  rw [portText] at h
  unfold parametersOf
  rw [h]
  rfl

theorem ofVariables_eq_of_give {result : Except SettingsError Settings} (h : Give vars result) :
    ofVariables vars = result := by
  cases h with
  | url hurl hne =>
    have hempty : ¬ (String.isEmpty _) = true := fun h => hne (String.isEmpty_iff.1 h)
    simp only [ofVariables, hurl, if_neg hempty]
  | badPort hurl hport =>
    have hnone := port?_eq_none_iff.2 hport
    rw [portText] at hnone
    rw [ofVariables_of_lacksUrl hurl, parametersOf, hnone]
    rfl
  | noDatabase hurl hport hdatabase =>
    rw [ofVariables_of_lacksUrl hurl, parametersOf_of_port? (port?_eq_some_iff.2 hport), needed,
      hdatabase]
    rfl
  | noUser hurl hport hdatabase huser =>
    rw [ofVariables_of_lacksUrl hurl, parametersOf_of_port? (port?_eq_some_iff.2 hport), needed,
      hdatabase, needed, huser]
    rfl
  | parameters hurl hport hdatabase huser =>
    rw [ofVariables_of_lacksUrl hurl, parametersOf_of_port? (port?_eq_some_iff.2 hport), needed,
      hdatabase, needed, huser]
    rfl

theorem exists_give (vars : Variables) : ∃ result, Give vars result := by
  by_cases hurl : LacksUrl vars
  · cases hport : port? (portText vars) with
    | none => exact ⟨_, .badPort hurl (port?_eq_none_iff.1 hport)⟩
    | some port =>
      have hnumber := port?_eq_some_iff.1 hport
      cases hdatabase : vars.lookup "PGDATABASE" with
      | none => exact ⟨_, .noDatabase hurl hnumber hdatabase⟩
      | some database =>
        cases huser : vars.lookup "PGUSER" with
        | none => exact ⟨_, .noUser hurl hnumber hdatabase huser⟩
        | some user => exact ⟨_, .parameters hurl hnumber hdatabase huser⟩
  · simp only [LacksUrl, not_forall] at hurl
    obtain ⟨text, htext, hne⟩ := hurl
    exact ⟨_, .url htext hne⟩

/-- What variables give is what the settings from them are. -/
theorem ofVariables_eq_iff {result : Except SettingsError Settings} :
    ofVariables vars = result ↔ Give vars result := by
  constructor
  · rintro rfl
    obtain ⟨result, hresult⟩ := exists_give vars
    rwa [ofVariables_eq_of_give hresult]
  · exact ofVariables_eq_of_give

/-- Settings depend on the values of variables only. -/
theorem ofVariables_congr {vars other : Variables}
    (h : ∀ name, vars.lookup name = other.lookup name) :
    ofVariables vars = ofVariables other := by
  simp only [ofVariables, parametersOf, needed, h]

end Settings

end RowBindings.Connection

namespace RowBindings.Command

open Connection

variable {a : Arguments} {s : Surroundings} {path : String} {given : Variables}

theorem loadSettings_of_no_file (h : ∀ path, a.envFile = some path → s.files.has path = false) :
    loadSettings a s = Settings.ofVariables s.vars := by
  unfold loadSettings
  cases hfile : a.envFile with
  | none => rfl
  | some path =>
    simp only [h path hfile]
    rfl

/-- The file of variables is there and its text is read. -/
theorem loadSettings_of_file (hfile : a.envFile = some path) (hhas : s.files.has path = true) :
    loadSettings a s
      = match (s.files.read path).toOption.bind (VariableFile.load s.vars) with
        | some vars => Settings.ofVariables vars
        | none => .error (.unreadable path) := by
  unfold loadSettings
  simp only [hfile, hhas, if_true]
  cases (s.files.read path).toOption.bind (VariableFile.load s.vars) <;> rfl

/-- The assignments of the file at a path, unless it or one of them cannot be read. -/
def fileAssignments? (s : Surroundings) (path : String) : Option Variables :=
  (s.files.read path).toOption.bind (VariableFile.assignments? s.vars)

theorem loadSettings_of_unreadable (hfile : a.envFile = some path)
    (hhas : s.files.has path = true) (h : fileAssignments? s path = none) :
    loadSettings a s = .error (.unreadable path) := by
  rw [loadSettings_of_file hfile hhas]
  unfold fileAssignments? at h
  cases hread : (s.files.read path).toOption with
  | none => rfl
  | some text =>
    rw [hread, Option.bind_some] at h
    rw [Option.bind_some, VariableFile.load_eq_none_iff.2 h]

theorem loadSettings_of_fileAssignments? (hfile : a.envFile = some path)
    (hhas : s.files.has path = true) (h : fileAssignments? s path = some given) {vars : Variables}
    (hvars : ∀ name, vars.lookup name = (s.vars.lookup name).or (given.lookup name)) :
    loadSettings a s = Settings.ofVariables vars := by
  obtain ⟨text, hread, hgiven⟩ := Option.bind_eq_some_iff.1 h
  obtain ⟨loaded, hload, hloaded⟩ := VariableFile.exists_load_of_assignments? hgiven
  rw [loadSettings_of_file hfile hhas, hread, Option.bind_some, hload]
  exact Settings.ofVariables_congr fun name => (hloaded name).trans (hvars name).symm

/-- Without a file of variables, or where it is missing, the settings are those that the variables
of the process give. A file with an assignment that cannot be read is an error. With any other file
they are what those variables give of which each has its value in the process, also an empty one, or
else the first one in the file. What variables give is a URL that is not empty, or else parameters,
if the port is a number that is not too large and a database and a user are set. -/
theorem loadSettings_precedence (a : Arguments) (s : Surroundings) :
    ((∀ path, a.envFile = some path → s.files.has path = false) →
      loadSettings a s = Settings.ofVariables s.vars)
    ∧ (∀ path, a.envFile = some path → s.files.has path = true →
      (fileAssignments? s path = none → loadSettings a s = .error (.unreadable path))
      ∧ ∀ given, fileAssignments? s path = some given →
        ∀ vars : Variables,
          (∀ name, vars.lookup name = (s.vars.lookup name).or (given.lookup name)) →
          loadSettings a s = Settings.ofVariables vars)
    ∧ ∀ (vars : Variables) (result : Except SettingsError Settings),
      Settings.ofVariables vars = result ↔ Settings.Give vars result := by
  refine ⟨loadSettings_of_no_file, fun path hfile hhas => ⟨?_, ?_⟩, ?_⟩
  · exact loadSettings_of_unreadable hfile hhas
  · intro given hgiven vars hvars
    exact loadSettings_of_fileAssignments? hfile hhas hgiven hvars
  · intro vars result
    exact Settings.ofVariables_eq_iff

/-- A file with a URL, a port that is no number, and two databases. -/
def variableText : String :=
  "DATABASE_URL=postgres://db/x\nPGPORT=abc\n"
    ++ "PGDATABASE=first\nexport PGDATABASE='second'\nPGUSER=app"

/-- The file, and a process with an empty URL and a port. -/
def fileSurroundings : Surroundings where
  vars := [("DATABASE_URL", ""), ("PGPORT", "+05433")]
  files := { entries := [([".env"], .file (some variableText))] }

theorem read_env : fileSurroundings.files.has ".env" = true
    ∧ fileAssignments? fileSurroundings ".env"
      = some [("DATABASE_URL", "postgres://db/x"), ("PGPORT", "abc"), ("PGDATABASE", "first"),
        ("PGDATABASE", "second"), ("PGUSER", "app")] := by
  have hname : Path.IsName ".env" := ⟨by decide, by decide, by decide, by decide⟩
  have hfind : fileSurroundings.files.find ".env" = .ok (.file (some variableText)) :=
    Directory.find_of_isName hname rfl rfl
  constructor
  · rw [Directory.has, hfind]
  · rw [fileAssignments?, Directory.read, hfind]
    decide +kernel

/-- The empty URL of the process keeps that of the file out, and its port counts. -/
theorem loadSettings_env :
    fileSurroundings.files.has ".env" = true
    ∧ loadSettings { envFile := some ".env" } fileSurroundings
      = .ok (.parameters { port := 5433, database := "first", user := "app" }) := by
  obtain ⟨hhas, hgiven⟩ := read_env
  have hload := ((loadSettings_precedence { envFile := some ".env" } fileSurroundings).2.1
    ".env" rfl hhas).2 _ hgiven (fileSurroundings.vars ++ _) fun _ => List.lookup_append
  refine ⟨hhas, hload.trans ?_⟩
  decide +kernel

end RowBindings.Command
