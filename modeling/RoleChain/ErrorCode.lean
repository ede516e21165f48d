/-!
Error codes. A code names the component that failed, the HTTP status that fits, and a number that
is unique among the two; a description follows it.
-/
namespace RoleChain

structure ErrorCode where
  component : String
  status : String
  number : String
  description : String
  deriving DecidableEq

inductive Component where
  | profile
  | provider
  | sts
  deriving DecidableEq

namespace Component

def all : List Component := [profile, provider, sts]

def label : Component → String
  | profile => "Profile"
  | provider => "Provider"
  | sts => "Sts"

/-- The name of the component in listings. -/
def constant : Component → String
  | profile => "PROFILE"
  | provider => "PROVIDER"
  | sts => "STS"

end Component

namespace ErrorCode

def code (e : ErrorCode) : String :=
  "Chain-" ++ e.component ++ "-" ++ e.status ++ "-" ++ e.number

def text (e : ErrorCode) : String :=
  e.code ++ ": " ++ e.description

def unknownProvider : ErrorCode :=
  ⟨Component.profile.label, "400", "00", "Unknown credential source"⟩

def providerFailed : ErrorCode :=
  ⟨Component.provider.label, "502", "00", "Credential provider failed"⟩

def notLoaded : ErrorCode :=
  ⟨Component.provider.label, "401", "00", "No credentials available"⟩

def invalidResponse : ErrorCode :=
  ⟨Component.sts.label, "502", "00", "Invalid delegation response"⟩

/-- The codes of a component, each under its name. -/
def ofComponent : Component → List (String × ErrorCode)
  | .profile => [("UNKNOWN_PROVIDER_ERROR", unknownProvider)]
  | .provider => [("PROVIDER_ERROR", providerFailed), ("CREDENTIALS_NOT_LOADED", notLoaded)]
  | .sts => [("INVALID_RESPONSE_ERROR", invalidResponse)]

def all : List (String × ErrorCode) :=
  Component.all.flatMap ofComponent

end ErrorCode

end RoleChain
