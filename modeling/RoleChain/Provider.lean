import RoleChain.Environment
import RoleChain.Files
import RoleChain.Profile
import RoleChain.Sts.Transport

/-!
Providers of credentials, and chains of them with hops. A provider holds whatever it needs to load
credentials later; one that is itself a chain holds the configuration its hops are called under.
-/
namespace RoleChain

structure Hop where
  roleArn : String
  externalId : Option String := none
  sessionName : Option String := none
  deriving DecidableEq

def Hop.ofRole (role : Role) : Hop := ⟨role.arn, role.externalId, role.sessionName⟩

def Hop.text (hop : Hop) : String :=
  recordText "AssumeRoleProvider" [
    ("role_arn", Text.quoted hop.roleArn),
    ("external_id", Text.quotedOption hop.externalId),
    ("session_name", Text.quotedOption hop.sessionName)]

/-- A role that is assumed with the token in a file. -/
structure WebIdentityRole where
  tokenFile : Path
  roleArn : String
  sessionName : String
  deriving DecidableEq

def WebIdentityRole.text (role : WebIdentityRole) : String :=
  recordText "WebIdentityTokenRole" [
    ("web_identity_token_file", role.tokenFile.literal),
    ("role_arn", Text.quoted role.roleArn),
    ("session_name", Text.quoted role.sessionName)]

inductive Provider where
  /-- Credentials held in memory. -/
  | static (credentials : Credentials)
  /-- Variables: the given ones, or those of the process when credentials are asked for. -/
  | environment (given : Option Environment)
  | webIdentity (role : WebIdentityRole) (configuration : ClientConfiguration)
  /-- A base and the hops on top of it, with the configuration they are called under, if any. -/
  | chain (base : Provider) (hops : List Hop) (configuration : Option ClientConfiguration)

/-- A base provider followed by the roles to assume, in order. -/
structure ProviderChain where
  base : Provider
  hops : List Hop

/-- The chain as a provider whose hops are called under a configuration, or lack one. -/
def ProviderChain.provider (c : ProviderChain) (configuration : Option ClientConfiguration) :
    Provider :=
  .chain c.base c.hops configuration

/-- How a chain is written, given how its base is. -/
def chainText (base : String) (hops : Nat) : String :=
  recordText "ProviderChain" [("base", base), ("hops", Decimal.digitText hops)]

def Provider.text : Provider → String
  | static credentials => "StaticCredentialsProvider(" ++ credentials.text ++ ")"
  | environment _ =>
    "<credential_chain.credentials.providers.environment.EnvironmentCredentialsProvider object" ++
      " at 0x>"
  | webIdentity role _ =>
    recordText "WebIdentityTokenCredentialsProvider" [
      ("role_arn", Text.quoted role.roleArn),
      ("web_identity_token_file", Text.quoted role.tokenFile.text)]
  | chain base hops _ =>
    "ProfileChainCredentialsProvider(" ++ chainText base.text hops.length ++ ")"

def ProviderChain.text (c : ProviderChain) : String := chainText c.base.text c.hops.length

abbrev Registry := Bindings Provider

namespace Registry

/-- The name of the source that reads the variables of the process. -/
def environmentName : String := "Environment"

/-- The sources that are known when no registry is given. -/
def standard : Registry := Bindings.ofList [(environmentName, .environment none)]

end Registry

end RoleChain
