import RoleChain.Environment
import RoleChain.Files

/-!
Settings, and the store that the library reads them from. Settings are a snapshot: they are built at
the moment they are configured, from keyword arguments and from whatever else the library that
builds them asks. A failure to build them leaves the store as it was.
-/
namespace RoleChain

inductive SettingsField where
  | region
  | endpointUrl
  deriving DecidableEq

def SettingsField.name : SettingsField → String
  | region => "sts_region"
  | endpointUrl => "sts_endpoint_url"

/-- The region and endpoint of calls to the service, and further values under their own names. -/
structure Settings where
  region : Option String
  endpointUrl : Option String
  extra : List (String × Datum)

namespace Settings

def title : String := "CredentialChainSettings"

def value (s : Settings) : SettingsField → Option String
  | .region => s.region
  | .endpointUrl => s.endpointUrl

def stem : String := "CREDENTIAL_CHAIN_"

/-- The name without the case of its ASCII letters. -/
def folded (name : String) : String := String.ofList (name.toList.map Char.toLower)

def sameName (a b : String) : Bool := folded a == folded b

/-- The arguments that say how settings are built; they are no settings themselves. -/
def optionNames : List String := [
  "_build_sources", "_case_sensitive", "_cli_avoid_json", "_cli_enforce_required",
  "_cli_exit_on_error", "_cli_flag_prefix_char", "_cli_hide_none_type",
  "_cli_ignore_unknown_args", "_cli_implicit_flags", "_cli_kebab_case", "_cli_parse_args",
  "_cli_parse_none_str", "_cli_prefix", "_cli_prog_name", "_cli_settings_source",
  "_cli_shortcuts", "_cli_use_class_docs_for_groups", "_env_file", "_env_file_encoding",
  "_env_ignore_empty", "_env_nested_delimiter", "_env_nested_max_split", "_env_parse_enums",
  "_env_parse_none_str", "_env_prefix", "_env_prefix_target",
  "_nested_model_default_partial_update", "_secrets_dir"]

inductive Source where
  | commandLine
  | arguments
  | environment
  | files
  | secrets
  deriving DecidableEq

/-- The sources in the order in which they count. -/
def Source.documented : List Source := [commandLine, arguments, environment, files, secrets]

/-- The arguments that open a source that is closed without them. -/
def Source.openers : Source → List String
  | commandLine => ["_cli_parse_args", "_cli_settings_source"]
  | files => ["_env_file"]
  | secrets => ["_secrets_dir"]
  | arguments | environment => []

def asOptionalText [FieldRules] : Datum → Checked (Option String)
  | .null => .valid none
  | d => d.asText.map some

/-- A library that builds settings: what it builds from arguments in surroundings, which sources it
asks, and what each of them holds for a field. -/
structure Library where
  build : Environment → Files → List (String × Datum) → Except Failure Settings
  sources : List (String × Datum) → List Source
  held : Environment → Files → List (String × Datum) → SettingsField → Source → Option Datum

/-- The settings that a caller asks for by name. The class that makes them has a name of its own,
which no argument may have. -/
def ask (library : Library) (env : Environment) (files : Files)
    (given : List (String × Datum)) : Except Failure Settings :=
  if (Datum.lookup? "cls" given).isSome then
    .error (.reservedName (title ++ ".get_settings") "cls")
  else library.build env files given

end Settings

/-- What readers have been given before: nothing yet, the settings in force, or older ones. -/
inductive Remembered where
  | nothing
  | current
  | older (settings : Settings)

structure SettingsStore where
  current : Settings
  remembered : Remembered

namespace SettingsStore

def fresh (settings : Settings) : SettingsStore := ⟨settings, .nothing⟩

/-- The settings that a reader is given; it remembers the first it was given. -/
def read (store : SettingsStore) : Settings × SettingsStore :=
  match store.remembered with
  | .nothing => (store.current, { store with remembered := .current })
  | .current => (store.current, store)
  | .older settings => (settings, store)

/-- Whether a reader is given the very settings in force. -/
def isCurrent (store : SettingsStore) : Bool :=
  match store.remembered with
  | .older _ => false
  | _ => true

def configure (library : Settings.Library) (env : Environment) (files : Files)
    (given : List (String × Datum)) (_ : SettingsStore) : Except Failure SettingsStore :=
  (Settings.ask library env files given).map fresh

/-- Puts settings in force and lets readers keep what they remember. -/
def assign (settings : Settings) (store : SettingsStore) : SettingsStore :=
  { current := settings
    remembered := match store.remembered with
      | .current => .older store.current
      | remembered => remembered }

def forget (store : SettingsStore) : SettingsStore := { store with remembered := .nothing }

end SettingsStore

end RoleChain
