/-!
Log records. A record has a level, the name of the logger it came through, and its message.
-/
namespace RoleChain

inductive Level where
  | debug
  | info
  | warning
  | error
  | critical
  deriving DecidableEq

def Level.label : Level → String
  | debug => "DEBUG"
  | info => "INFO"
  | warning => "WARNING"
  | error => "ERROR"
  | critical => "CRITICAL"

structure Record where
  level : Level
  logger : String
  message : String
  deriving DecidableEq

namespace Logger

/-- The logger of environment credentials. The others are named alike, for what they tell of. -/
def environment : String := "credential_chain.credentials.providers.environment"

def webIdentity : String := "credential_chain.credentials.providers.web_identity"

def resolution : String := "credential_chain.profile.exec"

def execution : String := "credential_chain.profile.provider"

def sts : String := "credential_chain.sts.client"

end Logger

end RoleChain
