import RoleChain.VariableFile
import RoleChain.Log
import RoleChain.Provider
import RoleChain.SessionName
import RoleChain.Text.Uppercase

/-!
What is fixed when the library starts: variables are loaded from a file in the working directory,
and the constants are taken down, among them the level below which records are not shown.
-/
namespace RoleChain.Startup

/-- The file that variables are loaded from. -/
def variablePath : Path := .ofString ".env"

/-- The variable that keeps the file from being loaded. -/
def disablingName : String := "PYTHON_DOTENV_DISABLED"

/-- Whether a text says yes. The case of letters does not count, and the long s is an s. -/
def isYes (text : String) : Bool :=
  let folded := text.toList.map fun c => if c = 'ſ' then 's' else c.toLower
  ["1", "true", "t", "yes", "y"].any fun word => word.toList == folded

def isDisabled (env : Environment) : Bool :=
  ((env.get? disablingName).map isYes).getD false

/-- The environment after the file has been loaded, if there is one, and what kept the rest of the
file from being loaded. -/
def loadEnvironment (env : Environment) (files : Files) : Environment × Option Failure :=
  if isDisabled env then (env, none)
  else match files.read variablePath with
  | .error _ => (env, none)
  | .ok content =>
    match Text.ofFile content with
    | .error refusal => (env, some (.undecodable refusal))
    | .ok text => VariableFile.load text env

def logLevelName : String := "LOG_LEVEL"

/-- The level that the environment asks for, in upper case. -/
def logLevel (env : Environment) : String :=
  Text.upper ((env.get? logLevelName).getD Level.info.label)

def constants (env : Environment) : List (String × Datum) := [
  ("ASSUME_ROLE_SESSION_PURPOSE", .text SessionName.assumeRolePurpose),
  ("ENVIRONMENT_SOURCE_NAME", .text Registry.environmentName),
  ("ENV_ACCESS_KEY_ID", .text Environment.accessKeyId),
  ("ENV_SECRET_ACCESS_KEY", .text Environment.secretAccessKey),
  ("ENV_SECRET_KEY_LEGACY", .text Environment.legacySecretKey),
  ("ENV_SESSION_TOKEN", .text Environment.sessionToken),
  ("LOG_LEVEL", .text (logLevel env)),
  ("MAX_SESSION_NAME_LENGTH", .int SessionName.maxLength),
  ("WEB_IDENTITY_SESSION_PURPOSE", .text SessionName.webIdentityPurpose)]

/-- The variables that the library takes notice of, by how their names begin. -/
def noticed (env : Environment) : List (String × String) :=
  env.entries.filter fun entry =>
    let name := (Text.upper entry.1).toList
    ["AWS_", "CREDENTIAL_CHAIN_", logLevelName].any fun start => start.toList.isPrefixOf name

end RoleChain.Startup
