import RoleChain.Credentials
import RoleChain.Schema

/-!
Answers of the security token service. An answer is read as a whole: a block of credentials counts
only if all four of its members are valid.
-/
namespace RoleChain

structure IssuedCredentials where
  accessKeyId : String
  secretAccessKey : String
  sessionToken : String
  expiration : DateTime
  deriving DecidableEq

/-- The identity that a role gives to a session. -/
structure AssumedRoleUser where
  id : String
  arn : String
  deriving DecidableEq

structure Response where
  credentials : Option IssuedCredentials := none
  user : Option AssumedRoleUser := none
  deriving DecidableEq

namespace Field

def accessKeyId : FieldName := ⟨"AccessKeyId", "access_key_id"⟩

def secretAccessKey : FieldName := ⟨"SecretAccessKey", "secret_access_key"⟩

def sessionToken : FieldName := ⟨"SessionToken", "session_token"⟩

def expiration : FieldName := ⟨"Expiration", "expiration"⟩

def assumedRoleId : FieldName := ⟨"AssumedRoleId", "assumed_role_id"⟩

def arn : FieldName := ⟨"Arn", "arn"⟩

def credentials : FieldName := ⟨"Credentials", "credentials"⟩

def assumedRoleUser : FieldName := ⟨"AssumedRoleUser", "assumed_role_user"⟩

end Field

namespace IssuedCredentials

def title : String := "StsCredentials"

def ofDatum [FieldRules] : Datum → Checked IssuedCredentials
  | .mapping entries =>
    ((((Field.accessKeyId.required Datum.asText entries).map IssuedCredentials.mk).apply
      (Field.secretAccessKey.required Datum.asText entries)).apply
      (Field.sessionToken.required Datum.asText entries)).apply
      (Field.expiration.required Datum.asMoment entries)
  | _ => .refuse (.notRecord title)

/-- The written fields. -/
def fields (c : IssuedCredentials) : List (String × String) := [
  (Field.accessKeyId.own, Text.quoted c.accessKeyId),
  (Field.secretAccessKey.own, Text.quoted c.secretAccessKey),
  (Field.sessionToken.own, Text.quoted c.sessionToken),
  (Field.expiration.own, c.expiration.literal)]

def toCredentials (c : IssuedCredentials) (providerName : String) : Credentials where
  accessKeyId := c.accessKeyId
  secretAccessKey := c.secretAccessKey
  sessionToken := some c.sessionToken
  expiry := some c.expiration
  providerName := providerName

end IssuedCredentials

namespace AssumedRoleUser

def title : String := "AssumedRoleUser"

def ofDatum [FieldRules] : Datum → Checked AssumedRoleUser
  | .mapping entries =>
    ((Field.assumedRoleId.required Datum.asText entries).map AssumedRoleUser.mk).apply
      (Field.arn.required Datum.asText entries)
  | _ => .refuse (.notRecord title)

/-- The written fields. -/
def fields (u : AssumedRoleUser) : List (String × String) := [
  (Field.assumedRoleId.own, Text.quoted u.id),
  (Field.arn.own, Text.quoted u.arn)]

end AssumedRoleUser

namespace Response

def title : String := "AssumeRoleResponse"

def ofDatum [FieldRules] : Datum → Checked Response
  | .mapping entries =>
    ((Field.credentials.optional IssuedCredentials.ofDatum entries).map Response.mk).apply
      (Field.assumedRoleUser.optional AssumedRoleUser.ofDatum entries)
  | _ => .refuse (.notRecord title)

/-- The written fields. -/
def fields (r : Response) : List (String × String) := [
  (Field.credentials.own,
    match r.credentials with
    | none => "None"
    | some c => recordText IssuedCredentials.title c.fields),
  (Field.assumedRoleUser.own,
    match r.user with
    | none => "None"
    | some u => recordText AssumedRoleUser.title u.fields)]

end Response

end RoleChain
