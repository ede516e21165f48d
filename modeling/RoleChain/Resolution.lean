import RoleChain.Execution

/-!
Resolution of a profile into a chain. The base is looked up or made once; no file is read and no
call is made. A configuration that is not given is taken from the settings.
-/
namespace RoleChain

/-- The configuration that the settings give, over the given transport or the standard one. -/
def ClientConfiguration.fromSettings (transport : Option Transport) : Run ClientConfiguration :=
  .settings fun settings =>
    .done ⟨some (transport.getD .standard), settings.region, settings.endpointUrl⟩

def ClientConfiguration.orSettings (given : Option ClientConfiguration) :
    Run ClientConfiguration :=
  match given with
  | some configuration => .done configuration
  | none => ClientConfiguration.fromSettings none

namespace Base

def profileProviderName : String := "ProfileFile"

def resolve (base : Base) (registry : Registry) (configuration : ClientConfiguration) :
    Run Provider :=
  match base with
  | named name =>
    match registry.get? name with
    | some provider => .done provider
    | none => .fail (.unknownSource name)
  | accessKey id secret sessionToken => .done (.static {
      accessKeyId := id
      secretAccessKey := secret
      sessionToken := sessionToken
      providerName := profileProviderName })
  | webIdentity arn tokenFile sessionName => do
    let sessionName ← match sessionName with
      | some name => Run.done name
      | none => Run.sessionName SessionName.webIdentityPurpose
    return .webIdentity ⟨.ofString tokenFile, arn, sessionName⟩ configuration
  | unsupported value => .fail (.unsupportedBase value)

end Base

def logRoles : List Role → Run Unit
  | [] => .done ()
  | role :: roles => do
    Run.record .info Logger.resolution ("which will be used to assume a role: " ++ role.text)
    logRoles roles

namespace Profile

def resolve (profile : Profile) (registry : Registry)
    (configuration : Option ClientConfiguration) : Run ProviderChain := do
  let configuration ← ClientConfiguration.orSettings configuration
  let base ← profile.base.resolve registry configuration
  Run.record .info Logger.resolution
    ("first credentials will be loaded from " ++ profile.base.text)
  logRoles profile.roles
  return ⟨base, profile.roles.map Hop.ofRole⟩

/-- The provider that a profile declares, its hops called under the same configuration. -/
def provider (profile : Profile) (configuration : Option ClientConfiguration)
    (registry : Option Registry) : Run Provider := do
  let configuration ← ClientConfiguration.orSettings configuration
  let chain ← profile.resolve (registry.getD .standard) (some configuration)
  return chain.provider (some configuration)

end Profile

/-- The names of sessions for purposes, each with a suffix of its own. -/
def sessionNames : List String → Run (List String)
  | [] => .done []
  | purpose :: purposes => do
    let name ← Run.sessionName purpose
    return name :: (← sessionNames purposes)

end RoleChain
