import RoleChain.Provider
import RoleChain.Sts.Response

/-!
The values of the library side by side: how each is written, when two are the same, and how each
refuses a change. Records that are read from data are written without their name as well.
-/
namespace RoleChain

inductive Value where
  | credentials (value : Credentials)
  | base (value : Base)
  | role (value : Role)
  | hop (value : Hop)
  | profile (value : Profile)
  | call (value : CallConfiguration)
  | webIdentityRole (value : WebIdentityRole)
  | issued (value : IssuedCredentials)
  | user (value : AssumedRoleUser)
  | response (value : Response)
  | assumeRole (value : AssumeRole)
  | withWebIdentity (value : AssumeRoleWithWebIdentity)

def CallConfiguration.text (c : CallConfiguration) : String :=
  recordText "StsConfig" [
    ("credentials",
      match c.caller with
      | none => "None"
      | some caller => caller.text),
    ("region", Text.quotedOption c.region),
    ("endpoint_url", Text.quotedOption c.endpointUrl)]

/-- Whether two optional values are the same, given when two values are. -/
def optionAgrees {α : Type} (same : α → α → Bool) : Option α → Option α → Bool
  | none, none => true
  | some a, some b => same a b
  | _, _ => false

def CallConfiguration.agrees (c d : CallConfiguration) : Bool :=
  optionAgrees Credentials.agrees c.caller d.caller && c.region == d.region &&
    c.endpointUrl == d.endpointUrl

def IssuedCredentials.agrees (c d : IssuedCredentials) : Bool :=
  c.accessKeyId == d.accessKeyId && c.secretAccessKey == d.secretAccessKey &&
    c.sessionToken == d.sessionToken && c.expiration.agrees d.expiration

def Response.agrees (r s : Response) : Bool :=
  optionAgrees IssuedCredentials.agrees r.credentials s.credentials && r.user == s.user

def Base.agrees : Base → Base → Bool
  | named n, named m => n == m
  | accessKey i s t, accessKey j u v => i == j && s == u && t == v
  | webIdentity a f s, webIdentity b g t => a == b && f == g && s == t
  | unsupported d, unsupported e => d.agrees e
  | _, _ => false

namespace Value

/-- The name and written fields of a record that is read from data. -/
def record? : Value → Option (String × List (String × String))
  | issued c => some (IssuedCredentials.title, c.fields)
  | user u => some (AssumedRoleUser.title, u.fields)
  | response r => some (Response.title, r.fields)
  | assumeRole r => some (AssumeRole.title, r.fields)
  | withWebIdentity r => some (AssumeRoleWithWebIdentity.title, r.fields)
  | _ => none

def text : Value → String
  | credentials c => c.text
  | base b => b.text
  | role r => r.text
  | hop h => h.text
  | profile p => p.text
  | call c => c.text
  | webIdentityRole r => r.text
  | issued c => recordText IssuedCredentials.title c.fields
  | user u => recordText AssumedRoleUser.title u.fields
  | response r => recordText Response.title r.fields
  | assumeRole r => recordText AssumeRole.title r.fields
  | withWebIdentity r => recordText AssumeRoleWithWebIdentity.title r.fields

/-- The short written form: the fields alone for a record that is read from data. -/
def shortText (v : Value) : String :=
  match v.record? with
  | some (_, fields) => " ".intercalate (fields.map fun field => field.1 ++ "=" ++ field.2)
  | none => v.text

def agrees : Value → Value → Bool
  | credentials c, credentials d => c.agrees d
  | base b, base c => b.agrees c
  | role r, role s => r == s
  | hop h, hop i => h == i
  | profile p, profile q => p.base.agrees q.base && p.roles == q.roles
  | call c, call d => c.agrees d
  | webIdentityRole r, webIdentityRole s => r == s
  | issued c, issued d => c.agrees d
  | user u, user v => u == v
  | response r, response s => r.agrees s
  | assumeRole r, assumeRole s => r == s
  | withWebIdentity r, withWebIdentity s => r == s
  | _, _ => false

/-- The value that cannot be a member of a set, as it stands in a profile that holds it. -/
def unfit? : Value → Option Datum
  | profile ⟨.unsupported d, _⟩ => if d.hasParts then some d else none
  | _ => none

/-- How many members the set of two values has. -/
def distinct (v w : Value) : Except Failure Nat :=
  match v.unfit?, w.unfit? with
  | some d, _ | none, some d => .error (.unhashable d.kindName)
  | none, none => .ok (if v.agrees w then 1 else 2)

/-- Whether a record can be made of a datum that is put where it keeps its kind or its fields. Any
other name is free. -/
def makes (field : String) (new : Datum) : Bool :=
  match field, new with
  | "__class__", _ => false
  | "__dict__", .mapping _ => true
  | "__dict__", _ => false
  | _, _ => true

/-- How a value answers the assignment of a field; most refuse it. A record that is read from data
keeps names that begin with an underscore apart from its fields, and takes them, other than what it
cannot be made of. -/
def assignment (v : Value) (field : String) (new : Datum) : Except Failure Unit :=
  match v.record? with
  | none => .error (.readOnly field)
  | some (title, _) =>
    if field.toList.head? ≠ some '_' then .error (.invalidData ⟨title, [⟨.frozen, [field]⟩]⟩)
    else if makes field new then .ok ()
    else .error (.notMaking field new.kindName)

end Value

end RoleChain
