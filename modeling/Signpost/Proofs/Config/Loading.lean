import Mathlib
import Signpost.Config.Basic
import Signpost.Proofs.Outcome
import Signpost.Proofs.Table

/-!
# Loading step by step

A configuration is loaded from a document, which may stand in a file, or from the environment after
the variables of a file have been defined. Loading is a run of small steps on a *process*, which has
the configuration and the environment: a value is put under one key, one variable is defined, and
any step may fail and leaves behind what was written before it. A document is read to its end before
its first value is put under a key, so nothing of a malformed one is kept. A file of variables is
worked through line by line, so the variables in front of a malformed line stay defined.

## Main definitions

* `Process`, `LoadStep`: a configuration and its environment, and a step of loading on them.
* `DocumentSource`, `Loading`: what is loaded.
* `Loading.steps`, `Process.load`: the steps of a loading, and what they come to.
* `Loading.outcome`: a loading in terms of whole configurations.
* `Loading.assignments`: the variables that a loading assigns, up to a malformed line.

## Main results

* `EnvFile.environment_readLines`: lines define the variables assigned on them, one by one.
* `Environment.defineAll_eq_self_iff`: when assignments leave an environment as it is.
* `DocumentFormat.isSorted_of_parse`: a document gives every key once.
* `Process.load_eq_adopt`: the steps come to what whole configurations come to.
* `Process.load_allOrNothing`: what a failed and a successful loading leave behind.
-/

namespace Signpost

/-! ### Assigned variables -/

namespace Environment

variable {environment : Environment} {name value : Text} {entries : List (Text × Text)}

/-- The environment with further variables, of which those that are defined already are left out. -/
def defineAll (environment : Environment) (entries : List (Text × Text)) : Environment :=
  entries.foldl (fun environment entry => environment.defineNew entry.1 entry.2) environment

theorem defineAll_cons (environment : Environment) (entry : Text × Text)
    (entries : List (Text × Text)) :
    environment.defineAll (entry :: entries) =
      (environment.defineNew entry.1 entry.2).defineAll entries :=
  rfl

theorem length_vars_defineNew :
    (environment.defineNew name value).vars.length =
      environment.vars.length + if (environment.get? name).isSome then 0 else 1 := by
  rw [defineNew]
  split
  · rfl
  · exact List.length_append

theorem length_vars_le_defineAll (environment : Environment) (entries : List (Text × Text)) :
    environment.vars.length ≤ (environment.defineAll entries).vars.length := by
  induction entries generalizing environment with
  | nil => exact Nat.le_refl _
  | cons entry entries ih =>
    refine Nat.le_trans ?_ (ih _)
    rw [length_vars_defineNew]
    exact Nat.le_add_right _ _

/-- Assignments leave an environment as it is exactly if all their variables are defined. -/
theorem defineAll_eq_self_iff :
    environment.defineAll entries = environment ↔
      ∀ entry ∈ entries, (environment.get? entry.1).isSome := by
  induction entries with
  | nil => exact iff_of_true rfl nofun
  | cons entry entries ih =>
    rw [defineAll_cons, List.forall_mem_cons]
    by_cases hdefined : (environment.get? entry.1).isSome
    · have hself : environment.defineNew entry.1 entry.2 = environment := if_pos hdefined
      rw [hself, ih, and_iff_right hdefined]
    · -- The first variable is new, and none is ever removed.
      refine iff_of_false (fun hall => ?_) fun hall => hdefined hall.1
      have hlength := length_vars_le_defineAll (environment.defineNew entry.1 entry.2) entries
      rw [hall, length_vars_defineNew, if_neg hdefined] at hlength
      exact Nat.not_succ_le_self _ hlength

end Environment

/-! ### Documents -/

theorem Json.readAtom?_ne_object (text : Text) (entries : Table Json) (rest : Text) :
    readAtom? text ≠ some (.object entries, rest) := by
  grind [readAtom?, Option.map_eq_some_iff]

/-- An object is read with every key once. -/
theorem Json.isSorted_of_readValue? {depth steps : Nat} {text rest : Text} {entries : Table Json}
    (h : readValue? depth steps text = some (.object entries, rest)) : Table.IsSorted entries := by
  cases steps with
  | zero => simp [readValue?] at h
  | succ steps =>
    have hempty : Table.IsSorted ([] : Table Json) := Table.isSorted_ofList []
    rw [readValue?] at h
    grind [readAtom?_ne_object, Table.isSorted_ofList, Option.map_eq_some_iff]

theorem Json.isSorted_of_parse? {text : Text} {entries : Table Json}
    (h : parse? text = some (.object entries)) : Table.IsSorted entries := by
  simp only [parse?, Option.bind_eq_bind, Option.bind_eq_some_iff, Option.pure_def,
    Option.some.injEq] at h
  obtain ⟨⟨value, rest⟩, hread, -, -, rfl⟩ := h
  exact isSorted_of_readValue? hread

theorem Toml.isSorted_of_parse? {text : Text} {entries : Table Json}
    (h : parse? text = some entries) : Table.IsSorted entries := by
  simp only [parse?, Option.bind_eq_bind, Option.bind_eq_some_iff, Option.pure_def,
    Option.some.injEq] at h
  obtain ⟨-, -, read, -, rfl⟩ := h
  exact Table.isSorted_ofList read

/-- A document gives every key once. -/
theorem DocumentFormat.isSorted_of_parse {format : DocumentFormat} {environment : Environment}
    {content : Text} {values : Table Json} (h : format.parse environment content = .ok values) :
    Table.IsSorted values := by
  cases format with
  | json =>
    rw [parse] at h
    split at h
    · rename_i entries hread
      exact Except.ok.inj h ▸ Json.isSorted_of_parse? hread
    · simp at h
    · simp at h
  | toml =>
    rw [parse] at h
    split at h
    · rename_i entries hread
      exact Except.ok.inj h ▸ Toml.isSorted_of_parse? hread
    · simp at h
  | env =>
    rw [parse] at h
    split at h
    · exact Except.ok.inj h ▸ Table.isSorted_ofList _
    · simp at h

namespace EnvFile

/-- The logical lines of a file, without a byte order mark at its start. -/
def fileLines (content : Text) : List (Option Text) :=
  logicalLines [] .complete
    (physicalLines ((Text.stripLead? [Char.ofNat 0xfeff] content).getD content))

/-- Lines define the variables assigned on them, one by one. -/
theorem environment_readLines (environment : Environment) (assigned : Assigned)
    (lines : List (Option Text)) :
    (readLines Environment.defineNew environment assigned lines).2.1 =
      environment.defineAll (readLines Environment.defineNew environment assigned lines).1 := by
  induction lines generalizing environment assigned with
  | nil => rfl
  | cons line lines ih =>
    match line with
    | none => rfl
    | some line =>
      rw [readLines]
      match readLine? environment assigned line with
      | none => rfl
      | some none => exact ih environment assigned
      | some (some (name, value)) => exact ih _ _

end EnvFile

/-! ### Steps -/

/-- A configuration and the environment of its process. -/
structure Process where
  config : Configuration
  environment : Environment := {}

/-- A step of loading. It leaves a process behind even if it fails. -/
abbrev LoadStep (α : Type) : Type :=
  ExceptT ConfigError (StateM Process) α

namespace LoadStep

variable {α β : Type}

/-- The outcome of a step and the process that it leaves behind. -/
def outcome (step : LoadStep α) (process : Process) : Except ConfigError α × Process :=
  (ExceptT.run step).run process

/-- Takes a step and passes over its error. -/
def attempt (step : LoadStep α) : LoadStep Unit :=
  modify fun process => (step.outcome process).2

/-- Puts a value under a key. -/
def setValue (key : Text) (value : Json) : LoadStep Unit :=
  modify fun process => { process with config := process.config.insert key value }

/-- Puts values under their keys, one after the other. -/
def setValues : Table Json → LoadStep Unit
  | [] => pure ⟨⟩
  | (key, value) :: values => do
    setValue key value
    setValues values

/-- Puts the variables of the environment under their keys. -/
def setVariables : LoadStep Unit := do
  let process ← get
  let loaded := EnvScope.table ⟨process.config.lead⟩ process.environment
  setValues (loaded.map fun entry => (entry.1, .text entry.2))

/-- Defines a variable, unless it is defined already. -/
def defineVariable (name value : Text) : LoadStep Unit :=
  modify fun process =>
    { process with environment := process.environment.defineNew name value }

/-- Defines the variables assigned on logical lines, one after the other, up to a malformed line. -/
def defineVariables (assigned : EnvFile.Assigned) : List (Option Text) → LoadStep Unit
  | [] => pure ⟨⟩
  | none :: _ => throw .malformedVariables
  | some line :: lines => do
    match EnvFile.readLine? (← get).environment assigned line with
    | none => throw .malformedVariables
    | some none => defineVariables assigned lines
    | some (some (name, value)) =>
      defineVariable name value
      defineVariables ((name, value) :: assigned) lines

theorem outcome_lift (result : Except ConfigError α) (process : Process) :
    outcome (liftM result) process = (result, process) := by
  cases result <;> rfl

theorem outcome_bind (step : LoadStep α) (f : α → LoadStep β) (process : Process) :
    outcome (step >>= f) process =
      match step.outcome process with
      | (.ok a, next) => (f a).outcome next
      | (.error error, next) => (.error error, next) := by
  change (match step.outcome process with
    | (result, next) => ExceptT.bindCont f result next) = _
  rcases step.outcome process with ⟨_ | _, _⟩ <;> rfl

theorem outcome_attempt (step : LoadStep α) (process : Process) :
    (attempt step).outcome process = (.ok ⟨⟩, (step.outcome process).2) :=
  rfl

theorem outcome_setValues (values : Table Json) (process : Process) :
    (setValues values).outcome process =
      (.ok ⟨⟩, { process with config := process.config.addAll values }) := by
  induction values generalizing process with
  | nil => rfl
  | cons entry values ih =>
    have hfirst : (setValue entry.1 entry.2).outcome process =
      (.ok ⟨⟩, { process with config := process.config.insert entry.1 entry.2 }) := rfl
    rw [setValues, outcome_bind, hfirst]
    exact ih _

theorem outcome_setVariables (process : Process) :
    setVariables.outcome process =
      (.ok ⟨⟩, { process with config := process.config.addEnvironment process.environment }) :=
  outcome_setValues _ process

/-- The variables are defined up to the first malformed line, which is reported. -/
theorem outcome_defineVariables (assigned : EnvFile.Assigned) (lines : List (Option Text))
    (process : Process) :
    (defineVariables assigned lines).outcome process =
      let read := EnvFile.readLines Environment.defineNew process.environment assigned lines
      (if read.2.2 then .ok ⟨⟩ else .error .malformedVariables,
        { process with environment := read.2.1 }) := by
  induction lines generalizing assigned process with
  | nil => rfl
  | cons line lines ih =>
    match line with
    | none => rfl
    | some line =>
      rw [EnvFile.readLines]
      change outcome (match EnvFile.readLine? process.environment assigned line with
        | none => throw .malformedVariables
        | some none => defineVariables assigned lines
        | some (some (name, value)) => do
          defineVariable name value
          defineVariables ((name, value) :: assigned) lines) process = _
      match EnvFile.readLine? process.environment assigned line with
      | none => rfl
      | some none => exact ih assigned process
      | some (some (name, value)) =>
        have hfirst : (defineVariable name value).outcome process =
          (.ok ⟨⟩, { process with
            environment := process.environment.defineNew name value }) := rfl
        dsimp only
        rw [outcome_bind, hfirst]
        exact ih _ _

end LoadStep

/-! ### Loadings -/

/-- Where a document is read from. -/
inductive DocumentSource where
  /-- A text. -/
  | text (format : DocumentFormat) (content : Text)
  /-- A file, which may be missing, of the format that belongs to its name if none is given. -/
  | file (path : Text) (format? : Option DocumentFormat) (content? : Option Text)

/-- The format and the text of a document. -/
def DocumentSource.read : DocumentSource → Except ConfigError (DocumentFormat × Text)
  | text format content => .ok (format, content)
  | file path format? content? => do
    let format ← format?.elim (DocumentFormat.ofPath path) .ok
    let content ← content?.elim (.error (.unreadableFile path)) .ok
    return (format, content)

/-- What a configuration is loaded from. -/
inductive Loading where
  /-- A document. -/
  | document (source : DocumentSource)
  /-- The environment after the variables of a file have been defined. Without `path` the file has
  its usual name, and neither its absence nor a malformed line matters. -/
  | envFile (path : Option Text) (content? : Option Text)

namespace Loading

/-- The steps of a loading. -/
def steps : Loading → LoadStep Unit
  | document source => do
    let (format, content) ← liftM source.read
    let values ← liftM (format.parse (← get).environment content)
    LoadStep.setValues values
  | envFile (some path) none => throw (.unreadableVariables path)
  | envFile (some _) (some content) => do
    LoadStep.defineVariables [] (EnvFile.fileLines content)
    LoadStep.setVariables
  | envFile none none => LoadStep.setVariables
  | envFile none (some content) => do
    LoadStep.attempt (LoadStep.defineVariables [] (EnvFile.fileLines content))
    LoadStep.setVariables

/-- The configuration that a loading leads to, or its error, and the environment. -/
def outcome (process : Process) : Loading → Except ConfigError Configuration × Environment
  | document (.text format content) =>
    (process.config.addDocument process.environment format content, process.environment)
  | document (.file path format? content?) =>
    (process.config.addFile process.environment path format? content?, process.environment)
  | envFile path content? => process.config.addEnvFile process.environment path content?

/-- The variables that a loading assigns, in front of a malformed line if there is one. -/
def assignments (environment : Environment) : Loading → List (Text × Text)
  | envFile _ (some content) =>
    (EnvFile.readLines Environment.defineNew environment [] (EnvFile.fileLines content)).1
  | _ => []

end Loading

namespace Process

/-- What the steps of a loading come to, and the process that they leave behind. -/
def load (process : Process) (loading : Loading) : Except ConfigError Unit × Process :=
  loading.steps.outcome process

/-- The process with a new environment, and with a new configuration if there is one. -/
def adopt (process : Process) :
    Except ConfigError Configuration × Environment → Except ConfigError Unit × Process
  | (.ok config, environment) => (.ok ⟨⟩, { config, environment })
  | (.error error, environment) => (.error error, { process with environment })

variable {process : Process}

theorem load_document (process : Process) (source : DocumentSource) :
    process.load (.document source) =
      match source.read >>= fun read => read.1.parse process.environment read.2 with
      | .ok values => (.ok ⟨⟩, { process with config := process.config.addAll values })
      | .error error => (.error error, process) := by
  rw [load, Loading.steps, LoadStep.outcome_bind, LoadStep.outcome_lift]
  match source.read with
  | .error error => rfl
  | .ok (format, content) =>
    change LoadStep.outcome (liftM (format.parse process.environment content) >>= _) process = _
    rw [LoadStep.outcome_bind, LoadStep.outcome_lift, Except.ok_bind]
    match format.parse process.environment content with
    | .error error => rfl
    | .ok values => exact LoadStep.outcome_setValues values process

theorem addFile_eq (config : Configuration) (environment : Environment) (path : Text)
    (format? : Option DocumentFormat) (content? : Option Text) :
    config.addFile environment path format? content? =
      ((DocumentSource.file path format? content?).read >>= fun read =>
        read.1.parse environment read.2).map config.addAll := by
  unfold Configuration.addFile DocumentSource.read
  cases format? with
  | some format => cases content? <;> rfl
  | none =>
    dsimp only [Option.elim]
    cases DocumentFormat.ofPath path <;> cases content? <;> rfl

theorem addEnvFile_eq (config : Configuration) (environment : Environment) (path : Option Text)
    (content : Text) :
    config.addEnvFile environment path (some content) =
      let read := EnvFile.readLines Environment.defineNew environment [] (EnvFile.fileLines content)
      (if path.isSome && !read.2.2 then .error .malformedVariables
        else .ok (config.addEnvironment read.2.1), read.2.1) := by
  rw [Configuration.addEnvFile]
  change (if _ then _ else _) = _
  dsimp only [EnvFile.define, EnvFile.fileLines]
  split <;> rfl

/-- The steps of a loading come to what the whole configurations come to. -/
theorem load_eq_adopt (process : Process) (loading : Loading) :
    process.load loading = process.adopt (loading.outcome process) := by
  match loading with
  | .document source =>
    have houtcome : Loading.outcome process (.document source) =
        ((source.read >>= fun read => read.1.parse process.environment read.2).map
          process.config.addAll, process.environment) := by
      cases source with
      | text format content => rfl
      | file path format? content? => exact congrArg (·, _) (addFile_eq _ _ _ _ _)
    rw [load_document, houtcome]
    cases source.read >>= fun read => read.1.parse process.environment read.2 <;> rfl
  | .envFile (some path) none => rfl
  | .envFile none none => exact LoadStep.outcome_setVariables process
  | .envFile (some path) (some content) =>
    rw [load, Loading.steps, LoadStep.outcome_bind, LoadStep.outcome_defineVariables]
    rw [Loading.outcome, addEnvFile_eq]
    dsimp only [Option.isSome]
    cases (EnvFile.readLines _ process.environment [] (EnvFile.fileLines content)).2.2
    · rfl
    · exact LoadStep.outcome_setVariables _
  | .envFile none (some content) =>
    rw [load, Loading.steps, LoadStep.outcome_bind, Loading.outcome, addEnvFile_eq]
    rw [LoadStep.outcome_attempt, LoadStep.outcome_defineVariables]
    exact LoadStep.outcome_setVariables _

theorem environment_load (process : Process) (loading : Loading) :
    (process.load loading).2.environment =
      process.environment.defineAll (loading.assignments process.environment) := by
  match loading with
  | .document source =>
    rw [load_document]
    cases source.read >>= fun read => read.1.parse process.environment read.2 <;> rfl
  | .envFile path none =>
    rw [load_eq_adopt]
    cases path <;> rfl
  | .envFile path (some content) =>
    rw [load_eq_adopt, Loading.outcome, addEnvFile_eq, Loading.assignments,
      ← EnvFile.environment_readLines]
    dsimp only
    split <;> rfl

theorem config_load_of_error {loading : Loading} {error : ConfigError}
    (h : (process.load loading).1 = .error error) :
    (process.load loading).2.config = process.config := by
  rw [load_eq_adopt] at h ⊢
  revert h
  rcases loading.outcome process with ⟨_ | config, environment⟩
  · exact fun _ => rfl
  · exact nofun

/-- A loading that fails leaves the configuration as it is, and a document that is loaded gives its
values and replaces those under the same key. No document changes the environment. The variables of
a file are defined one by one, those in front of a malformed line even though the loading fails, so
that the environment stays as it is exactly if all of them are defined already. -/
theorem load_allOrNothing (process : Process) (loading : Loading) :
    let result := (process.load loading).1
    let after := (process.load loading).2
    process.load loading = process.adopt (loading.outcome process) ∧
      (∀ error, result = .error error → after.config = process.config) ∧
      after.environment = process.environment.defineAll (loading.assignments process.environment) ∧
      (after.environment = process.environment ↔
        ∀ entry ∈ loading.assignments process.environment,
          (process.environment.get? entry.1).isSome) ∧
      ∀ source, loading = .document source →
        after.environment = process.environment ∧
        (result = .ok ⟨⟩ →
          ∃ format content values, source.read = .ok (format, content) ∧
            format.parse process.environment content = .ok values ∧
            after.config = { process.config with store := after.config.store } ∧
            ∀ key, Table.get? after.config.store key =
              (Table.get? values key).or (Table.get? process.config.store key)) := by
  refine ⟨load_eq_adopt process loading, fun error => config_load_of_error,
    environment_load process loading, ?_, ?_⟩
  · rw [environment_load, Environment.defineAll_eq_self_iff]
  · rintro source rfl
    refine ⟨environment_load process _, fun hresult => ?_⟩
    rw [load_document] at hresult ⊢
    match hread : source.read with
    | .error error => exact absurd hresult (by simp [hread])
    | .ok (format, content) =>
      match hvalues : format.parse process.environment content with
      | .error error => exact absurd hresult (by simp [hread, hvalues])
      | .ok values =>
        refine ⟨format, content, values, rfl, hvalues, ?_⟩
        simp only [Except.ok_bind, hvalues]
        exact ⟨rfl, Table.get?_merge (DocumentFormat.isSorted_of_parse hvalues).nodup _⟩

theorem load_allOrNothing_of_documents :
    let process : Process := { config := { linksKey := "waymark".toList } }
    let list : Loading := .document (.text .json "[]".toList)
    let object : Loading := .document (.text .json "\x7b\"debug\": true\x7d".toList)
    ((process.load list).1 = .error .notAnObject ∧
      (process.load list).2.config = process.config) ∧
    (process.load object).1 = .ok ⟨⟩ ∧
      ∃ format content values, DocumentFormat.parse format {} content = .ok values ∧
        ∀ key, Table.get? (process.load object).2.config.store key =
          (Table.get? values key).or none := by
  have hlist : (Process.load { config := { linksKey := "waymark".toList } }
      (.document (.text .json "[]".toList))).1 = .error .notAnObject := by cbv
  have hobject : (Process.load { config := { linksKey := "waymark".toList } }
      (.document (.text .json "\x7b\"debug\": true\x7d".toList))).1 = .ok ⟨⟩ := by cbv
  refine ⟨⟨hlist, (load_allOrNothing _ _).2.1 _ hlist⟩, hobject, ?_⟩
  obtain ⟨format, content, values, -, hvalues, -, hstore⟩ :=
    ((load_allOrNothing _ _).2.2.2.2 _ rfl).2 hobject
  exact ⟨format, content, values, hvalues, hstore⟩

/-- The variable in front of a malformed line stays defined. -/
theorem load_envFile_leaves_variable :
    ¬∀ (process : Process) (loading : Loading) (error : ConfigError),
      (process.load loading).1 = .error error →
        (process.load loading).2.config = process.config ∧
          (process.load loading).2.environment = process.environment := by
  intro h
  have hsame := (h { config := { linksKey := "waymark".toList } }
    (.envFile (some "app.env".toList) (some "API_VERSION=v2\n!broken\n".toList))
    .malformedVariables (by cbv)).2
  have hlength := congrArg (fun environment => environment.vars.length) hsame
  exact absurd hlength (by cbv)

end Process

end Signpost
