import RoleChain.Settings
import RoleChain.VariableFile

/-!
Settings out of arguments, the environment and files of variables that an argument may name, each
before the next. Options say what stands before the names of variables and how they are compared.
-/
namespace RoleChain.Settings

variable [FieldRules]

/-- How settings are built: what a variable has before the name of a field, whether the case of
its name and an empty value count, and the files to read. -/
structure Options where
  stem : String := Settings.stem
  exactCase : Bool := false
  ignoreEmpty : Bool := false
  files : List String := []

namespace Options

def texts : Datum → List String
  | .text s => [s]
  | .list items => items.map Datum.plain
  | _ => []

def ofArguments (given : List (String × Datum)) : Options :=
  let options : Options := {}
  let flag := fun (name : String) => (Datum.lookup? name given).any Datum.holds
  { stem := match Datum.lookup? "_env_prefix" given with
      | some (.text stem) => stem
      | _ => options.stem
    exactCase := flag "_case_sensitive"
    ignoreEmpty := flag "_env_ignore_empty"
    files := ((Datum.lookup? "_env_file" given).map texts).getD [] }

def key (options : Options) (name : String) : String :=
  if options.exactCase then name else folded name

def variableKey (options : Options) (field : String) : String := options.key (options.stem ++ field)

/-- Variables under their names as they are compared; of several under one name the last counts. -/
def collect (options : Options) (entries : List (String × Option String)) :
    Bindings (Option String) :=
  .ofList ((entries.filter fun entry => !(options.ignoreEmpty && entry.2 == some "")).map
    fun entry => (options.key entry.1, entry.2))

/-- The variables that a file binds; one that is not there binds none. -/
def readFile (options : Options) (env : Environment) (files : Files) (path : String) :
    Except Failure (Bindings (Option String)) :=
  match files.read (.ofString path) with
  | .error _ => .ok .empty
  | .ok content =>
    match Text.ofFile content with
    | .error refusal => .error (.undecodable refusal)
    | .ok text =>
      let bound := VariableFile.expand .file env (VariableFile.read text)
      .ok (options.collect bound.entries)

/-- The variables that the given files bind, each file in place of those before it. -/
def readFiles (options : Options) (env : Environment) (files : Files) :
    List String → Bindings (Option String) → Except Failure (Bindings (Option String))
  | [], bound => .ok bound
  | path :: paths, bound => do
    let more ← options.readFile env files path
    let bound := more.entries.foldl (fun bound entry => bound.update entry.1 entry.2) bound
    options.readFiles env files paths bound

end Options

/-- The first argument for a field; the case of its name does not count. -/
def argument? (field : String) (given : List (String × Datum)) : Option Datum :=
  (given.find? fun entry => sameName entry.1 field).map Prod.snd

def heldOver (options : Options) (env : Environment) (bound : Bindings (Option String))
    (given : List (String × Datum)) (field : SettingsField) : Source → Option Datum
  | .arguments => argument? field.name given
  | .environment =>
    let present := options.collect (env.entries.map fun entry => (entry.1, some entry.2))
    (present.get? (options.variableKey field.name)).join.map .text
  | .files => (bound.get? (options.variableKey field.name)).join.map .text
  | .commandLine | .secrets => none

def field (name : SettingsField) (options : Options) (env : Environment)
    (bound : Bindings (Option String)) (given : List (String × Datum)) : Checked (Option String) :=
  let held := Source.documented.findSome? (heldOver options env bound given name)
  (asOptionalText (held.getD .null)).under name.name

/-- The variables in files that are for no field. They are kept unless they are empty or have the
name of a field. -/
def surplus (options : Options) (bound : Bindings (Option String)) : List (String × Datum) :=
  bound.entries.filterMap fun (name, value) =>
    let fieldNames := [SettingsField.region, .endpointUrl].map SettingsField.name
    let taken := fieldNames ++ fieldNames.map options.variableKey
    match value with
    | none | some "" => none
    | some value =>
      if taken.contains name then none
      else if options.stem.toList.isPrefixOf name.toList then
        some (String.ofList (name.toList.drop options.stem.length), .text value)
      else some (name, .text value)

def extras (given : List (String × Datum)) : List (String × Datum) :=
  given.filter fun entry =>
    !([SettingsField.region, .endpointUrl].any (fun field => sameName entry.1 field.name) ||
      optionNames.contains entry.1)

def build (env : Environment) (files : Files) (given : List (String × Datum)) :
    Except Failure Settings := do
  let options := Options.ofArguments given
  let bound ← options.readFiles env files options.files .empty
  let extra := (Bindings.ofList (surplus options bound ++ extras given)).entries
  (Checked.report title
    (((field .region options env bound given).map fun region endpointUrl =>
      Settings.mk region endpointUrl extra).apply
      (field .endpointUrl options env bound given))).mapError .invalidData

/-- What a source holds for a field; files that cannot be read hold nothing. -/
def held (env : Environment) (files : Files) (given : List (String × Datum))
    (field : SettingsField) (source : Source) : Option Datum :=
  let options := Options.ofArguments given
  let bound := (options.readFiles env files options.files .empty).toOption.getD .empty
  heldOver options env bound given field source

def library : Library where
  build := build
  sources _ := Source.documented
  held := held

end RoleChain.Settings
