import RowBindings.Proofs.Command.Loading
import RowBindings.Proofs.Generation.DeclaredNames
import RowBindings.Proofs.Model.FieldNames

/-!
# The stages of the program

The program loads the settings of the connection, reads the rules and the two templates, reads the
schema, generates the file and writes it. It ends at the first of these stages that fails, with
nothing changed and nothing on its output; the database is only asked once everything else has been
read. If no stage fails, the one thing that changes is where the file goes.
-/

namespace RowBindings.Command

open Catalog Connection Generation Model Template TypeMap

/-! ## Stages -/

/-- A stage of the program. -/
inductive Stage
  | settings
  | rules
  | template
  | enumTemplate
  | introspection
  | generation
  | output
  deriving DecidableEq, Repr

/-- Whether the database has been asked when the stage ends. -/
def Stage.hasAsked : Stage → Bool
  | introspection | generation | output => true
  | settings | rules | template | enumTemplate => false

/-- What the arguments say about the generation, with the texts of the files that they name. -/
def Arguments.config (a : Arguments) (rules : RuleSet) (custom customEnum : Option String) :
    Config where
  schema := a.schema
  package := a.package
  rules := rules
  keyPolicy :=
    { generatedTypes := a.keyTypes.getD ({} : KeyPolicy).generatedTypes
      identityIsGenerated := a.identityAsKey }
  selection := { included := a.tables, excluded := a.exclude }
  deprecated := a.deprecated.getD []
  custom := custom
  customEnum := customEnum
  includeEnums := !a.noEnums
  format := !a.noFormat

/-- Everything is read that is read before the database is asked, and the configuration is this. -/
structure Loads (a : Arguments) (s : Surroundings) (c : Config) : Prop where
  settings : ∃ settings, GivesSettings s a.envFile settings
  rules : GivesRules s.files a.typeMap c.rules
  custom : GivesText s.files a.template c.custom
  customEnum : GivesText s.files a.enumTemplate c.customEnum
  config : c = a.config c.rules c.custom c.customEnum

/-- A stage fails, and those before it do not. -/
inductive Stops (a : Arguments) (s : Surroundings) (session : Session) : Stage → Failure → Prop
  | settings {cause : SettingsError} (h : LacksSettings s a.envFile cause) :
    Stops a s session .settings (.settings cause)
  | rules {settings : Settings} {path : String} {cause : RulesError}
    (hsettings : GivesSettings s a.envFile settings) (hpath : a.typeMap = some path)
    (h : LacksRules s.files path cause) : Stops a s session .rules (.rules path cause)
  | template {settings : Settings} {rules : RuleSet} {path : String} {cause : FileError}
    (hsettings : GivesSettings s a.envFile settings) (hrules : GivesRules s.files a.typeMap rules)
    (hpath : a.template = some path) (h : s.files.read path = .error cause) :
    Stops a s session .template (.template path cause)
  | enumTemplate {settings : Settings} {rules : RuleSet} {custom : Option String} {path : String}
    {cause : FileError} (hsettings : GivesSettings s a.envFile settings)
    (hrules : GivesRules s.files a.typeMap rules) (hcustom : GivesText s.files a.template custom)
    (hpath : a.enumTemplate = some path) (h : s.files.read path = .error cause) :
    Stops a s session .enumTemplate (.enumTemplate path cause)
  | introspection {c : Config} {cause : QueryFailure} (hloads : Loads a s c)
    (h : (session.readSchema a.schema).1 = .error cause) :
    Stops a s session .introspection (.catalog cause)
  | generation {c : Config} {schema : Schema} {cause : Generation.Failure} (hloads : Loads a s c)
    (hschema : (session.readSchema a.schema).1 = .ok schema)
    (h : c.generate {} Source.format schema = .error cause) :
    Stops a s session .generation (.generation cause)
  | output {c : Config} {schema : Schema} {code path : String} {cause : FileError}
    (hloads : Loads a s c) (hschema : (session.readSchema a.schema).1 = .ok schema)
    (hcode : c.generate {} Source.format schema = .ok code) (hpath : a.output = some path)
    (h : s.files.write path code = .error cause) :
    Stops a s session .output (.output path cause)

/-- No stage fails, and the code is that of the schema of the database. -/
structure Finishes (a : Arguments) (s : Surroundings) (session : Session) (code : String) :
    Prop where
  generated : ∃ c schema, Loads a s c ∧ (session.readSchema a.schema).1 = .ok schema
    ∧ c.generate {} Source.format schema = .ok code
  written : ∀ path, a.output = some path → ∃ files, s.files.write path code = .ok files

variable {a : Arguments} {s : Surroundings} {session : Session} {texts : List String}

/-! ## Up to the database -/

/-- The configuration is put together from the rules and the templates, read in this order. -/
theorem loadConfig_eq (files : Directory) :
    loadConfig a files = (do
      let rules ← loadRules a files
      let custom ← loadText a.template files .template
      let customEnum ← loadText a.enumTemplate files .enumTemplate
      return a.config rules custom customEnum) := by
  unfold loadConfig Arguments.config
  cases a.keyTypes <;> rfl

theorem Loads.loadConfig {c : Config} (h : Loads a s c) : loadConfig a s.files = .ok c := by
  rw [loadConfig_eq, loadRules_eq_ok_iff.2 h.rules, loadText_eq_ok_iff.2 h.custom,
    loadText_eq_ok_iff.2 h.customEnum]
  exact congrArg Except.ok h.config.symm

/-- Without a configuration the database is not asked. -/
theorem perform_of_loadConfig {settings : Settings} {failure : Failure}
    (hsettings : GivesSettings s a.envFile settings)
    (hfailure : loadConfig a s.files = .error failure) : perform a s = .failed s failure [] := by
  unfold perform
  simp only [loadSettings_eq_ok_iff.2 hsettings, Except.mapError, hfailure]

/-- Where the settings lead to a session, what is generated from it decides. -/
theorem Loads.perform_of_error {c : Config} {failure : Failure} {queries : List Query}
    (h : Loads a s c)
    (hconnect : ∀ settings, GivesSettings s a.envFile settings → s.connect settings = some session)
    (hfailure : generateFrom c session = (.error failure, queries)) :
    perform a s = .failed s failure queries := by
  obtain ⟨settings, hsettings⟩ := h.settings
  unfold perform
  simp only [loadSettings_eq_ok_iff.2 hsettings, Except.mapError, h.loadConfig,
    hconnect settings hsettings, hfailure]

@[inherit_doc Loads.perform_of_error]
theorem Loads.perform_of_ok {c : Config} {code : String} {queries : List Query}
    (h : Loads a s c)
    (hconnect : ∀ settings, GivesSettings s a.envFile settings → s.connect settings = some session)
    (hcode : generateFrom c session = (.ok code, queries)) :
    perform a s = .finished a s code queries := by
  obtain ⟨settings, hsettings⟩ := h.settings
  unfold perform
  simp only [loadSettings_eq_ok_iff.2 hsettings, Except.mapError, h.loadConfig,
    hconnect settings hsettings, hcode]

theorem Loads.schema_eq {c : Config} (h : Loads a s c) : c.schema = a.schema := by
  rw [h.config]
  rfl

/-- Before the database is asked a stage fails, or everything is read. -/
theorem stops_or_loads (a : Arguments) (s : Surroundings) (session : Session) :
    (∃ stage failure, Stops a s session stage failure) ∨ ∃ c, Loads a s c := by
  cases hsettings : loadSettings a s with
  | error cause => exact Or.inl ⟨_, _, .settings (loadSettings_eq_error_iff.1 hsettings)⟩
  | ok settings =>
    replace hsettings := loadSettings_eq_ok_iff.1 hsettings
    cases hrules : loadRules a s.files with
    | error failure =>
      obtain ⟨path, cause, hpath, hlacks, -⟩ := loadRules_eq_error_iff.1 hrules
      exact Or.inl ⟨_, _, .rules hsettings hpath hlacks⟩
    | ok rules =>
      replace hrules := loadRules_eq_ok_iff.1 hrules
      cases hcustom : loadText a.template s.files .template with
      | error failure =>
        obtain ⟨path, cause, hpath, hread, -⟩ := loadText_eq_error_iff.1 hcustom
        exact Or.inl ⟨_, _, .template hsettings hrules hpath hread⟩
      | ok custom =>
        replace hcustom := loadText_eq_ok_iff.1 hcustom
        cases hcustomEnum : loadText a.enumTemplate s.files .enumTemplate with
        | error failure =>
          obtain ⟨path, cause, hpath, hread, -⟩ := loadText_eq_error_iff.1 hcustomEnum
          exact Or.inl ⟨_, _, .enumTemplate hsettings hrules hcustom hpath hread⟩
        | ok customEnum =>
          exact Or.inr ⟨a.config rules custom customEnum, ⟨settings, hsettings⟩, hrules, hcustom,
            loadText_eq_ok_iff.1 hcustomEnum, rfl⟩

/-- A stage fails, or none does. -/
theorem stops_or_finishes :
    (∃ stage failure, Stops a s session stage failure) ∨ ∃ code, Finishes a s session code := by
  rcases stops_or_loads a s session with hstops | ⟨c, hloads⟩
  · exact Or.inl hstops
  · cases hschema : (session.readSchema a.schema).1 with
    | error cause => exact Or.inl ⟨_, _, .introspection hloads hschema⟩
    | ok schema =>
      cases hcode : c.generate {} Source.format schema with
      | error cause => exact Or.inl ⟨_, _, .generation hloads hschema hcode⟩
      | ok code =>
        have hgenerated : ∃ c schema, Loads a s c ∧ (session.readSchema a.schema).1 = .ok schema
            ∧ c.generate {} Source.format schema = .ok code := ⟨c, schema, hloads, hschema, hcode⟩
        cases hpath : a.output with
        | none =>
          refine Or.inr ⟨code, hgenerated, ?_⟩
          intro path h
          rw [hpath] at h
          cases h
        | some path =>
          cases hwrite : s.files.write path code with
          | error cause => exact Or.inl ⟨_, _, .output hloads hschema hcode hpath hwrite⟩
          | ok files =>
            refine Or.inr ⟨code, hgenerated, ?_⟩
            intro other h
            rw [hpath] at h
            cases h
            exact ⟨files, hwrite⟩

/-! ## Outcomes -/

/-- A schema that cannot be read is a failure. -/
theorem Loads.generateFrom_of_error {c : Config} {cause : QueryFailure} (h : Loads a s c)
    (hschema : (session.readSchema a.schema).1 = .error cause) :
    generateFrom c session = (.error (.catalog cause), (session.readSchema a.schema).2) := by
  rw [← h.schema_eq] at hschema ⊢
  simp only [generateFrom, hschema]

/-- From a schema that is read a file is generated. -/
theorem Loads.generateFrom_of_ok {c : Config} {schema : Schema} (h : Loads a s c)
    (hschema : (session.readSchema a.schema).1 = .ok schema) :
    generateFrom c session
      = ((c.generate {} Source.format schema).mapError .generation,
        (session.readSchema a.schema).2) := by
  rw [← h.schema_eq] at hschema ⊢
  simp only [generateFrom, hschema]

/-- A file that is generated is left behind. -/
theorem Loads.perform_of_generate {c : Config} {schema : Schema} {code : String} (h : Loads a s c)
    (hconnect : ∀ settings, GivesSettings s a.envFile settings → s.connect settings = some session)
    (hschema : (session.readSchema a.schema).1 = .ok schema)
    (hcode : c.generate {} Source.format schema = .ok code) :
    perform a s = .finished a s code (session.readSchema a.schema).2 := by
  refine h.perform_of_ok hconnect ?_
  rw [h.generateFrom_of_ok hschema, hcode]
  rfl

/-- A stage that fails leaves nothing behind but its failure, and the queries sent if the database
has been asked. -/
theorem perform_of_stops {stage : Stage} {failure : Failure}
    (h : Stops a s session stage failure)
    (hconnect : ∀ settings, GivesSettings s a.envFile settings →
      s.connect settings = some session) :
    perform a s
      = .failed s failure (if stage.hasAsked then (session.readSchema a.schema).2 else []) := by
  cases h with
  | settings h =>
    unfold perform
    simp only [loadSettings_eq_error_iff.2 h, Except.mapError]
    rfl
  | rules hsettings hpath h =>
    refine perform_of_loadConfig hsettings ?_
    rw [loadConfig_eq, loadRules_eq_error_iff.2 ⟨_, _, hpath, h, rfl⟩]
    rfl
  | template hsettings hrules hpath h =>
    refine perform_of_loadConfig hsettings ?_
    rw [loadConfig_eq, loadRules_eq_ok_iff.2 hrules, loadText_eq_error_iff.2 ⟨_, _, hpath, h, rfl⟩]
    rfl
  | enumTemplate hsettings hrules hcustom hpath h =>
    refine perform_of_loadConfig hsettings ?_
    rw [loadConfig_eq, loadRules_eq_ok_iff.2 hrules, loadText_eq_ok_iff.2 hcustom,
      loadText_eq_error_iff.2 ⟨_, _, hpath, h, rfl⟩]
    rfl
  | introspection hloads h =>
    exact hloads.perform_of_error hconnect (hloads.generateFrom_of_error h)
  | generation hloads hschema h =>
    refine hloads.perform_of_error hconnect ?_
    rw [hloads.generateFrom_of_ok hschema, h]
    rfl
  | output hloads hschema hcode hpath h =>
    rw [hloads.perform_of_generate hconnect hschema hcode]
    simp only [Outcome.finished, hpath, h]
    rfl

/-- The program ends at the first stage that fails, with status 1, nothing on its output and every
file as it was; no query is sent before everything else is read. If no stage fails, its code is that
generated for the schema asked for, as the arguments say. Without a path for the output the code is
on it and no file has changed; with one the output is empty, the path leads to a file with just this
code, and every other place is as it was. -/
theorem run_stages {texts : List String} {a : Arguments} {s : Surroundings} {session : Session}
    (hread : Arguments.read texts = .ok a)
    (hconnect : ∀ settings, GivesSettings s a.envFile settings →
      s.connect settings = some session) :
    ((∃ stage failure, Stops a s session stage failure) ∨ ∃ code, Finishes a s session code)
    ∧ (∀ stage failure, Stops a s session stage failure →
      run texts s =
        { status := 1
          output := ""
          files := s.files
          failure := some failure
          queries := if stage.hasAsked then (session.readSchema a.schema).2 else [] })
    ∧ ∀ code, Finishes a s session code →
      (run texts s).status = 0 ∧ (run texts s).failure = none
      ∧ (run texts s).queries = (session.readSchema a.schema).2
      ∧ match a.output with
        | none => (run texts s).output = code ∧ (run texts s).files = s.files
        | some path =>
          (run texts s).output = "" ∧ (run texts s).files.read path = .ok code
          ∧ ∃ place, s.files.follow path = .ok place
            ∧ (run texts s).files.entry place = some (.file (some code))
            ∧ ∀ other, other ≠ place → (run texts s).files.entry other = s.files.entry other := by
  have hrun : run texts s = perform a s := by
    simp only [run, hread]
  refine ⟨stops_or_finishes, ?_, ?_⟩
  · intro stage failure hstops
    rw [hrun, perform_of_stops hstops hconnect]
    rfl
  · intro code hfinishes
    obtain ⟨c, schema, hloads, hschema, hcode⟩ := hfinishes.generated
    rw [hrun, hloads.perform_of_generate hconnect hschema hcode, Outcome.finished]
    cases hpath : a.output with
    | none => exact ⟨rfl, rfl, rfl, rfl, rfl⟩
    | some path =>
      obtain ⟨files, hwrite⟩ := hfinishes.written path hpath
      simp only [hwrite]
      exact ⟨trivial, trivial, trivial, trivial, Directory.read_of_write hwrite,
        Directory.entry_of_write hwrite⟩

/-! ### A template that is overwritten -/

open Config (emptyTable petSchema)

/-- No rules but the fallback, by which every column has one type. -/
def petRulesText : String :=
  "[[rule]]\nname = \"default\"\ndb_types = []\nnot_null_type = \"Text\"\nnullable_type = \"Text\""

/-- A template that gives the name of a record and the types of its fields. -/
def petTemplateText : String :=
  "\x7b\x7b struct.name \x7d\x7d:\x7b% for f in struct.fields %\x7d"
    ++ " \x7b\x7b f.type \x7d\x7d\x7b% endfor %\x7d"

@[inherit_doc petTemplateText]
def petTemplate : Tree where
  body := [Standard.recordName, .text ":",
    Standard.each "f" (Standard.path "struct" ["fields"]) [.text " ", Standard.put "f" ["type"]]]

/-- A template that gives the name of an enumeration. -/
def petEnumTemplateText : String := "\x7b\x7b enum.name \x7d\x7d"

@[inherit_doc petEnumTemplateText]
def petEnumTemplate : Tree where
  body := [Standard.enumName]

/-- A table with a column. -/
def petTable : Table :=
  { emptyTable "pets" with columns := [Record.textColumn "name"] }

/-- A database with the table and an enumeration. -/
def petSession : Session where
  enumerationRows _ := petSchema.enumerations
  tableRows _ := [(petTable.name, petTable.kind)]
  columnRows _ _ := petTable.columns
  failing := none

/-- The rules and the templates are at hand, and the settings lead to the database. -/
def petSurroundings : Surroundings where
  vars := [("DATABASE_URL", "postgres://localhost/pets")]
  files := { entries :=
    [(["types.toml"], .file (some petRulesText)), (["pets.txt"], .file (some petTemplateText)),
      (["moods.txt"], .file (some petEnumTemplateText))] }
  connect _ := some petSession

/-- Arguments that name all of them, and the template for tables as the output. -/
def petTexts : List String :=
  ["--no-format", "--typemap", "types.toml", "--template", "pets.txt", "--enum-template",
    "moods.txt", "--output", "pets.txt"]

@[inherit_doc petTexts]
def petArguments : Arguments :=
  { typeMap := some "types.toml", template := some "pets.txt", enumTemplate := some "moods.txt",
    output := some "pets.txt", noFormat := true }

/-- What is generated from them. -/
def petCode : String :=
  "// Code generated by pgdao. DO NOT EDIT.\n\n"
    ++ "//! Package `dao`: data access for the `public` schema.\n\nMood\nPets: Text"

/-- The configuration of the arguments. -/
def petConfig : Config :=
  petArguments.config (.ofFallback "Text") (some petTemplateText) (some petEnumTemplateText)

theorem givesRules_pets :
    GivesRules petSurroundings.files (some "types.toml") (.ofFallback "Text") := by
  have hread : petSurroundings.files.read "types.toml" = .ok petRulesText :=
    Directory.read_of_isName ⟨by decide, by decide, by decide, by decide⟩ rfl rfl
  exact .named hread (by decide +kernel)

theorem isName_pets : Path.IsName "pets.txt" :=
  ⟨by decide, by decide, by decide, by decide⟩

theorem read_pets : petSurroundings.files.read "pets.txt" = .ok petTemplateText :=
  Directory.read_of_isName isName_pets rfl rfl

theorem read_moods : petSurroundings.files.read "moods.txt" = .ok petEnumTemplateText :=
  Directory.read_of_isName ⟨by decide, by decide, by decide, by decide⟩ rfl rfl

theorem writesAll_petTemplate {env : Environment} {run : Runner} (name : String) (r : Record)
    (deprecated : Bool) :
    WritesAll env run (initialMachine name (givenFor "struct" (.record r) deprecated))
      petTemplate.body (r.name ++ (":" ++ lines (fun f _ => " " ++ f.type) 0 r.fields)) := by
  have hrecord : HasValue env run (initialMachine name (givenFor "struct" (.record r) deprecated))
      (.name "struct") (.record r) := hasValue_name rfl
  have hfields : HasValue env run
      (initialMachine name (givenFor "struct" (.record r) deprecated))
      (Standard.path "struct" ["fields"]) (.list (r.fields.map Value.ofField)) :=
    hasValue_field hrecord rfl
  have hdepth : (initialMachine name (givenFor "struct" (.record r) deprecated)).depth
      < Machine.depthLimit := by
    show 1 < 500
    omega
  refine writesAll_cons (writes_emitText rfl (hasValue_field hrecord rfl))
    (writesAll_cons (writes_text rfl ":") (writesAll_singleton
      (writes_each hfields hdepth rfl fun f index previous next => ?_)))
  exact writesAll_cons (writes_text rfl " ") (writesAll_singleton
    (writes_emitText rfl (hasValue_field (hasValue_element "f" _ _) rfl)))

theorem writesAll_petEnumTemplate {env : Environment} {run : Runner} (name : String) (m : EnumModel)
    (deprecated : Bool) :
    WritesAll env run (initialMachine name (givenFor "enum" (.ofEnumModel m) deprecated))
      petEnumTemplate.body m.name :=
  writesAll_singleton (writes_emitText rfl (hasValue_field (hasValue_name rfl) rfl))

/-- The renderer with both templates. -/
def petRenderer : Renderer where
  environment :=
    { (Renderer.standard {} .passthrough).environment with
      templates := (Renderer.standard {} .passthrough).environment.templates
        ++ [(customTemplate, petTemplate)] ++ [(customEnumTemplate, petEnumTemplate)] }
  formatter := .passthrough

theorem renderer_pets : petConfig.renderer {} Source.format = .ok petRenderer := by
  have htemplate : Tree.ofText petTemplateText = .ok petTemplate := by
    unfold Tree.ofText Tree.ofTokens
    rfl
  have henumTemplate : Tree.ofText petEnumTemplateText = .ok petEnumTemplate := by
    unfold Tree.ofText Tree.ofTokens
    rfl
  simp only [Config.renderer, Renderer.new, petConfig, Arguments.config, Renderer.addOptional,
    Renderer.addTemplate, htemplate, henumTemplate]
  rfl

theorem tablePiece_pets (r : Record) :
    petConfig.tablePiece petRenderer r
      = .ok (r.name ++ (":" ++ lines (fun f _ => " " ++ f.type) 0 r.fields)) := by
  have hlookup : petRenderer.environment.templates.lookup customTemplate = some petTemplate := rfl
  refine (Config.render_eq_ok_iff hlookup ?_).2 rfl
  exact render_of_writesAll rfl (writesAll_petTemplate _ r _)

theorem enumPiece_pets (m : EnumModel) : petConfig.enumPiece petRenderer m = .ok m.name := by
  have hlookup : petRenderer.environment.templates.lookup customEnumTemplate
      = some petEnumTemplate := rfl
  refine (Config.render_eq_ok_iff hlookup ?_).2 rfl
  exact render_of_writesAll rfl (writesAll_petEnumTemplate _ m _)

theorem generate_pets :
    petConfig.generate {} Source.format { petSchema with tables := [petTable] } = .ok petCode := by
  refine (Config.generate_eq_ok_iff _).2 ⟨petRenderer, _, _, renderer_pets,
    List.forall₂_map_right_iff.2 (List.forall₂_same.2 fun m _ => enumPiece_pets m),
    List.forall₂_map_right_iff.2 (List.forall₂_same.2 fun r _ => tablePiece_pets r), ?_⟩
  decide +kernel

/-- The generated code takes the place of the template that it was made with, and the rules are
kept. -/
theorem run_stages_pets :
    Arguments.read petTexts = .ok petArguments
    ∧ (∀ settings, GivesSettings petSurroundings petArguments.envFile settings →
      petSurroundings.connect settings = some petSession)
    ∧ Loads petArguments petSurroundings petConfig
    ∧ ∃ outcome, run petTexts petSurroundings = outcome
      ∧ outcome.status = 0 ∧ outcome.output = ""
      ∧ outcome.queries = [.enumerations "public", .tables "public", .columns "public" "pets"]
      ∧ petSurroundings.files.read "pets.txt" = .ok petTemplateText
      ∧ outcome.files.read "pets.txt" = .ok petCode
      ∧ outcome.files.entry ["types.toml"] = some (.file (some petRulesText)) := by
  have hread : Arguments.read petTexts = .ok petArguments := by decide +kernel
  have hconnect (settings : Settings)
      (_ : GivesSettings petSurroundings petArguments.envFile settings) :
      petSurroundings.connect settings = some petSession := rfl
  have hsettings : GivesSettings petSurroundings none (.url "postgres://localhost/pets") :=
    ⟨_, .unnamed, .url rfl (by decide)⟩
  have hloads : Loads petArguments petSurroundings petConfig :=
    ⟨⟨_, hsettings⟩, givesRules_pets, .named read_pets, .named read_moods, rfl⟩
  have hfollow : petSurroundings.files.follow "pets.txt" = .ok ["pets.txt"] :=
    Directory.follow_of_isName isName_pets rfl
  have hschema : (petSession.readSchema "public").1
      = .ok { petSchema with tables := [petTable] } := by
    decide +kernel
  have hfinishes : Finishes petArguments petSurroundings petSession petCode := by
    refine ⟨⟨petConfig, _, hloads, hschema, generate_pets⟩, ?_⟩
    rintro path ⟨⟩
    exact ⟨_, Directory.write_eq_ok_iff.2 ⟨_, hfollow, by decide +kernel, by decide, rfl⟩⟩
  obtain ⟨hstatus, -, hqueries, houtput, hwritten, place, hplace, -, hother⟩ :=
    (run_stages hread hconnect).2.2 _ hfinishes
  cases hfollow.symm.trans hplace
  exact ⟨hread, hconnect, hloads, _, rfl, hstatus, houtput, hqueries,
    read_pets, hwritten, hother ["types.toml"] (by decide)⟩

end RowBindings.Command
