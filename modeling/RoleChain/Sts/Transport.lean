import RoleChain.Sts.Request

/-!
How calls reach the service. A transport takes a call as it is, or creates a client for each call
and invokes the operation on it. A client is signed with the identity of the caller or unsigned.
-/
namespace RoleChain

/-- Which service a transport talks to: the one that is used where none is given, or a named one. -/
inductive ServiceName where
  | standard
  | named (name : String)
  deriving DecidableEq

inductive TransportKind where
  | direct
  | clientPerCall
  deriving DecidableEq

structure Transport where
  service : ServiceName
  kind : TransportKind
  deriving DecidableEq

/-- The transport that is used where none is given. -/
def Transport.standard : Transport := ⟨.standard, .clientPerCall⟩

structure SigningKeys where
  accessKeyId : String
  secretAccessKey : String
  sessionToken : Option String
  deriving DecidableEq

/-- What a client is created with. A client without keys sends unsigned requests. -/
structure ClientArguments where
  region : Option String
  endpointUrl : Option String
  keys : Option SigningKeys
  deriving DecidableEq

/-- The text if it is present and not empty. -/
def nonEmpty? : Option String → Option String
  | none => none
  | some s => if s = "" then none else some s

/-- What the client for a call is created with. Texts that are empty are left out. -/
def CallConfiguration.clientArguments (c : CallConfiguration) : ClientArguments where
  region := nonEmpty? c.region
  endpointUrl := nonEmpty? c.endpointUrl
  keys := c.caller.map fun caller =>
    ⟨caller.accessKeyId, caller.secretAccessKey, nonEmpty? caller.sessionToken⟩

/-- Configuration that the calls of a chain share. A configuration may lack a transport; calls
under it fail. -/
structure ClientConfiguration where
  transport : Option Transport
  region : Option String := none
  endpointUrl : Option String := none
  deriving DecidableEq

def ClientConfiguration.forCaller (c : ClientConfiguration) (caller : Option Credentials) :
    CallConfiguration where
  caller := caller
  region := c.region
  endpointUrl := c.endpointUrl

end RoleChain
