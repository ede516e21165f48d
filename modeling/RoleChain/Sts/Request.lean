import RoleChain.Credentials
import RoleChain.Schema

/-!
Requests to the security token service, and the configuration that each call is made under.
-/
namespace RoleChain

/-- The request to assume a role with the credentials of the caller. -/
structure AssumeRole where
  roleArn : String
  sessionName : String
  externalId : Option String := none
  deriving DecidableEq

/-- The request to assume a role with a token that an identity provider issued. -/
structure AssumeRoleWithWebIdentity where
  roleArn : String
  sessionName : String
  token : String
  deriving DecidableEq

inductive Request where
  | assumeRole (request : AssumeRole)
  | withWebIdentity (request : AssumeRoleWithWebIdentity)
  deriving DecidableEq

namespace Field

def roleArn : FieldName := ⟨"RoleArn", "role_arn"⟩

def sessionName : FieldName := ⟨"RoleSessionName", "role_session_name"⟩

def externalId : FieldName := ⟨"ExternalId", "external_id"⟩

def webIdentityToken : FieldName := ⟨"WebIdentityToken", "web_identity_token"⟩

end Field

namespace AssumeRole

def title : String := "AssumeRoleRequest"

/-- The parameters on the wire; an external id that is not set is left out. -/
def parameters (r : AssumeRole) : List (String × String) :=
  [(Field.roleArn.wire, r.roleArn), (Field.sessionName.wire, r.sessionName)] ++
    (match r.externalId with
    | none => []
    | some id => [(Field.externalId.wire, id)])

/-- The written fields. -/
def fields (r : AssumeRole) : List (String × String) := [
  (Field.roleArn.own, Text.quoted r.roleArn),
  (Field.sessionName.own, Text.quoted r.sessionName),
  (Field.externalId.own, Text.quotedOption r.externalId)]

def ofDatum [FieldRules] : Datum → Checked AssumeRole
  | .mapping entries =>
    (((Field.roleArn.required Datum.asText entries).map AssumeRole.mk).apply
      (Field.sessionName.required Datum.asText entries)).apply
      (Field.externalId.optional Datum.asText entries)
  | _ => .refuse (.notRecord title)

end AssumeRole

namespace AssumeRoleWithWebIdentity

def title : String := "AssumeRoleWithWebIdentityRequest"

def parameters (r : AssumeRoleWithWebIdentity) : List (String × String) := [
  (Field.roleArn.wire, r.roleArn),
  (Field.sessionName.wire, r.sessionName),
  (Field.webIdentityToken.wire, r.token)]

/-- The written fields, without the token. -/
def fields (r : AssumeRoleWithWebIdentity) : List (String × String) := [
  (Field.roleArn.own, Text.quoted r.roleArn),
  (Field.sessionName.own, Text.quoted r.sessionName)]

def ofDatum [FieldRules] : Datum → Checked AssumeRoleWithWebIdentity
  | .mapping entries =>
    (((Field.roleArn.required Datum.asText entries).map AssumeRoleWithWebIdentity.mk).apply
      (Field.sessionName.required Datum.asText entries)).apply
      (Field.webIdentityToken.required Datum.asText entries)
  | _ => .refuse (.notRecord title)

end AssumeRoleWithWebIdentity

namespace Request

def roleArn : Request → String
  | assumeRole r => r.roleArn
  | withWebIdentity r => r.roleArn

def sessionName : Request → String
  | assumeRole r => r.sessionName
  | withWebIdentity r => r.sessionName

def parameters : Request → List (String × String)
  | assumeRole r => r.parameters
  | withWebIdentity r => r.parameters

def operation : Request → String
  | assumeRole _ => "assume_role"
  | withWebIdentity _ => "assume_role_with_web_identity"

/-- The name of the operation in the service's own spelling. -/
def action : Request → String
  | assumeRole _ => "AssumeRole"
  | withWebIdentity _ => "AssumeRoleWithWebIdentity"

end Request

/-- The identity that makes a call, none for an unsigned one, and where the call goes. -/
structure CallConfiguration where
  caller : Option Credentials := none
  region : Option String := none
  endpointUrl : Option String := none
  deriving DecidableEq

structure Call where
  request : Request
  configuration : CallConfiguration
  deriving DecidableEq

end RoleChain
