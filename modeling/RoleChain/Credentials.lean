import RoleChain.Datum

/-!
Credentials. Their written form shows where they come from, the key id and the expiry, and never
the secret key or the session token.
-/
namespace RoleChain

/-- A set of credentials: temporary ones carry a session token and an expiry. -/
structure Credentials where
  accessKeyId : String
  secretAccessKey : String
  sessionToken : Option String := none
  expiry : Option DateTime := none
  providerName : String := "Static"
  deriving DecidableEq

namespace Credentials

def expiryText : Option DateTime → String
  | none => "None"
  | some t => t.literal

def text (c : Credentials) : String :=
  recordText "Credentials" [
    ("provider_name", Text.quoted c.providerName),
    ("access_key_id", Text.quoted c.accessKeyId),
    ("secret_access_key", "'** redacted **'"),
    ("expiry", expiryText c.expiry)]

/-- Whether two expiries are the same moment. -/
def expiryAgrees : Option DateTime → Option DateTime → Bool
  | none, none => true
  | some s, some t => s.agrees t
  | _, _ => false

/-- Whether two sets of credentials are the same, wherever they come from. -/
def agrees (c d : Credentials) : Bool :=
  c.accessKeyId == d.accessKeyId && c.secretAccessKey == d.secretAccessKey &&
    c.sessionToken == d.sessionToken && expiryAgrees c.expiry d.expiry

end Credentials

end RoleChain
