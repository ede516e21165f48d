import RoleChain.Bindings
import RoleChain.Credentials
import RoleChain.Failure
import RoleChain.Text.Blank

/-!
Environment variables, and the credentials that they hold. The secret key has two names of which
the second is used when the first is unset or empty; blanks around a value do not count.
-/
namespace RoleChain

/-- Variables in the order in which they were last set. -/
abbrev Environment := Bindings String

namespace Environment

def accessKeyId : String := "AWS_ACCESS_KEY_ID"

def secretAccessKey : String := "AWS_SECRET_ACCESS_KEY"

/-- The older name of the secret key. -/
def legacySecretKey : String := "AWS_SECRET_KEY"

def sessionToken : String := "AWS_SESSION_TOKEN"

/-- Why a variable cannot have a name and a value. -/
def refusal? (name value : String) : Option Failure :=
  if '\x00' ∈ name.toList ∨ '\x00' ∈ value.toList then some .embeddedNul
  else if '=' ∈ name.toList then some .illegalVariable
  else if name = "" then some (.system SystemError.invalidArgument)
  else none

/-- Removes each variable in turn and, if there is a value for it, sets it again as the last one,
up to the first that cannot be set. -/
def change : List (String × Option String) → Environment → Environment × Option Failure
  | [], env => (env, none)
  | (name, none) :: rest, env => change rest (env.erase name)
  | (name, some value) :: rest, env =>
    match refusal? name value with
    | some failure => (env.erase name, some failure)
    | none => change rest (env.renew name value)

/-- The value of a variable, empty if it is not set. -/
def value (env : Environment) (name : String) : String :=
  (env.get? name).getD ""

def rawSecret (env : Environment) : String :=
  if env.value secretAccessKey = "" then env.value legacySecretKey
  else env.value secretAccessKey

/-- The credentials that the variables hold. A missing key id is reported before a missing secret
key. -/
def credentials (env : Environment) : Except NotLoaded Credentials :=
  let id := Text.trim (env.value accessKeyId)
  let secret := Text.trim env.rawSecret
  let token := Text.trim (env.value sessionToken)
  if id = "" then .error (.variable accessKeyId)
  else if secret = "" then .error (.variable secretAccessKey)
  else .ok {
    accessKeyId := id
    secretAccessKey := secret
    sessionToken := if token = "" then none else some token
    providerName := "EnvironmentVariable" }

end Environment

end RoleChain
