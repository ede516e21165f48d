import RoleChain.Datum

/-!
Profiles: a base, which says where the first credentials come from, and the roles to assume on
top of it in order. Written forms leave out the secrets of a base.
-/
namespace RoleChain

structure Role where
  arn : String
  externalId : Option String := none
  sessionName : Option String := none
  deriving DecidableEq

inductive Base where
  /-- A source that the registry knows by name. -/
  | named (name : String)
  | accessKey (id secret : String) (sessionToken : Option String)
  | webIdentity (arn tokenFile : String) (sessionName : Option String)
  | unsupported (value : Datum)

structure Profile where
  base : Base
  roles : List Role

def Role.text (r : Role) : String :=
  recordText "RoleArn" [
    ("role_arn", Text.quoted r.arn),
    ("external_id", Text.quotedOption r.externalId),
    ("session_name", Text.quotedOption r.sessionName)]

def Base.text : Base → String
  | named name => recordText "NamedSource" [("name", Text.quoted name)]
  | accessKey id _ _ => recordText "AccessKey" [("access_key_id", Text.quoted id)]
  | webIdentity arn tokenFile sessionName =>
    recordText "WebIdentityToken" [
      ("role_arn", Text.quoted arn),
      ("web_identity_token_file", Text.quoted tokenFile),
      ("session_name", Text.quotedOption sessionName)]
  | unsupported value => value.literal

def Profile.text (p : Profile) : String :=
  recordText "ProfileChain" [
    ("base", p.base.text),
    ("chain", tupleText (p.roles.map Role.text))]

end RoleChain
