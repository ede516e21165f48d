/-!
Names of role sessions. A default name is the purpose of the session, a hyphen and a suffix, cut
to the longest name that the service accepts.
-/
namespace RoleChain.SessionName

def maxLength : Nat := 64

/-- The purpose of a session on a hop of a chain. -/
def assumeRolePurpose : String := "assume-role-from-profile"

/-- The purpose of a session that a web identity token opens. -/
def webIdentityPurpose : String := "web-identity-token-profile"

def withSuffix (purpose suffix : String) : String :=
  String.ofList ((purpose ++ "-" ++ suffix).toList.take maxLength)

end RoleChain.SessionName
