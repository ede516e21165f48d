import RoleChain.Provider
import RoleChain.Run
import RoleChain.SessionName
import RoleChain.Sts.Response

/-!
Execution of providers and chains. Credentials are loaded from the base; each hop in order then
trades those before it for the credentials of its role. The first failure ends the run and says
at which hop it happened; the failure of a base is passed on as it is.
-/
namespace RoleChain

variable [FieldRules]

/-- The default name of a session, with a fresh suffix. A failure to draw one is raised as it comes
out of where the name is made. -/
def Run.sessionName (purpose : String) (out : Failure → Raised := Failure.alone) : Run String :=
  .suffix fun
    | .ok drawn => .done (SessionName.withSuffix purpose drawn)
    | .error failure => .raise (out failure)

/-- What a caller is told of a failure. One that comes from the thread of a client is handed over
by an event loop: a timeout is made anew and loses its path, the failures of the pool become those
of the loop, so that what the pool has cancelled is a cancellation to the caller, and the end of an
iteration is never handed over. -/
def TransportKind.relay : TransportKind → Failure → Failure
  | .direct, failure => failure.leave.failure
  | .clientPerCall, .system e => .system (if e.isTimeout then e.withoutPath else e)
  | .clientPerCall, .plain .poolCancelled arguments => .cancelled arguments
  | .clientPerCall, .plain .poolState arguments => .plain .loopState arguments
  | .clientPerCall, .plain .exhausted _ => .cancelled []
  | .clientPerCall, failure => failure

namespace Transport

def answer (transport : Transport) (call : Call) : Run Response :=
  .call transport call fun
    | .error failure => .fail (transport.kind.relay failure)
    | .ok data => .ofExcept (((Response.ofDatum data).report Response.title).mapError .invalidData)

/-- Makes a call in the way of the transport. -/
def send (transport : Transport) (call : Call) : Run Response :=
  match transport.kind with
  | .direct => transport.answer call
  | .clientPerCall => do
    Run.record .debug Logger.sts
      ("calling sts:" ++ call.request.action ++ " for " ++ call.request.roleArn)
    Run.client transport.service call.configuration.clientArguments fun
      | some failure => .fail (transport.kind.relay failure)
      | none => transport.answer call

end Transport

/-- Makes a call for a provider. Whatever goes wrong becomes the cause of a failure of that
provider, except for a cancellation. -/
def ClientConfiguration.send (configuration : ClientConfiguration) (providerName : String)
    (caller : Option Credentials) (request : Request) : Run Response :=
  let sent := match configuration.transport with
    | none => Run.fail (.noTransport request.operation)
    | some transport => transport.send ⟨request, configuration.forCaller caller⟩
  sent.rescue fun raised =>
    if raised.failure.isCancellation then .raise raised
    else .failFrom raised.failure
      (.provider raised.failure providerName (some request.roleArn) none)

/-- The credentials in an answer, as those of a provider; an answer without any is refused. -/
def Credentials.ofIssued (issued : Option IssuedCredentials) (providerName : String)
    (role : Option String) : Except Failure Credentials :=
  match issued with
  | none => .error (.invalidResponse "STS credentials must be defined" role none)
  | some c => .ok (c.toCredentials providerName)

namespace Hop

def providerName : String := "AssumeRoleProvider"

/-- The name of the session: the declared one, or a default name with a fresh suffix. -/
def session (hop : Hop) : Run String :=
  match hop.sessionName with
  | some name => .done name
  | none => Run.sessionName SessionName.assumeRolePurpose Failure.leave

def assume (hop : Hop) (caller : Credentials) (configuration : ClientConfiguration) :
    Run Credentials := do
  let name ← hop.session
  let response ← configuration.send providerName (some caller)
    (.assumeRole ⟨hop.roleArn, name, hop.externalId⟩)
  Run.ofExcept (Credentials.ofIssued response.credentials providerName (some hop.roleArn))

/-- The credentials of the role, asked for by the caller. Without a configuration nothing is
asked. -/
def credentials (hop : Hop) (caller : Credentials) (configuration : Option ClientConfiguration) :
    Run Credentials :=
  match configuration with
  | none => .fail .noConfiguration
  | some configuration => hop.assume caller configuration

/-- The failure of a hop at its position, after the warning that goes with it. A failure of another
kind passes as it is. -/
def failAt (hop : Hop) (index : Nat) (raised : Raised) : Run Credentials :=
  let place := hop.roleArn ++ " at hop " ++ Decimal.digitText index
  match raised.failure with
  | .provider cause name role _ => do
    Run.record .warning Logger.execution ("failed to assume role " ++ place)
    Run.failFrom cause (.provider cause name role (some index))
  | .invalidResponse reason role hop => do
    Run.record .warning Logger.execution ("invalid response assuming role " ++ place)
    Run.failFrom (.invalidResponse reason role hop) (.invalidResponse reason role (some index))
  | _ => .raise raised

end Hop

/-- Assumes the roles of the hops, the first of which has the given position, with the credentials
at hand. -/
def assumeAll (configuration : Option ClientConfiguration) :
    Nat → List Hop → Credentials → Run Credentials
  | _, [], credentials => .done credentials
  | index, hop :: hops, credentials => do
    let assumed ← (hop.credentials credentials configuration).rescue (hop.failAt index)
    Run.record .debug Logger.execution ("assumed role " ++ hop.roleArn ++ ": " ++ assumed.text)
    assumeAll configuration (index + 1) hops assumed

/-- Loads credentials with the run of a base and assumes the roles of the hops on top of them. -/
def executeFrom (base : Run Credentials) (hops : List Hop)
    (configuration : Option ClientConfiguration) : Run Credentials := do
  let credentials ← base
  Run.record .debug Logger.execution ("loaded base credentials: " ++ credentials.text)
  assumeAll configuration 0 hops credentials

namespace Environment

def load (env : Environment) : Run Credentials :=
  match env.credentials with
  | .error reason => .fail (.notLoaded reason)
  | .ok credentials => do
    Run.record .debug Logger.environment "loaded credentials from environment"
    return credentials

end Environment

namespace WebIdentityRole

def providerName : String := "WebIdentityToken"

/-- The token in the file at this moment, without blanks around it. -/
def readToken (role : WebIdentityRole) : Run String :=
  .file role.tokenFile fun
    | .ok content =>
      match Text.ofFile content with
      | .ok text => .done (Text.trim text)
      | .error refusal => .fail (.undecodable refusal)
    | .error .nul => .fail .embeddedNul
    | .error (.system error) =>
      .failFrom (.system error) (.notLoaded (.tokenFile role.tokenFile.text error))

def credentials (role : WebIdentityRole) (configuration : ClientConfiguration) :
    Run Credentials := do
  let token ← role.readToken
  Run.record .debug Logger.webIdentity
    ("assuming role " ++ role.roleArn ++ " with web identity token")
  let response ← configuration.send providerName none
    (.withWebIdentity ⟨role.roleArn, role.sessionName, token⟩)
  Run.ofExcept (Credentials.ofIssued response.credentials providerName (some role.roleArn))

end WebIdentityRole

def Provider.provide : Provider → Run Credentials
  | static credentials => .done credentials
  | environment (some env) => env.load
  | environment none => .environment fun env => env.load
  | webIdentity role configuration => role.credentials configuration
  | chain base hops configuration => executeFrom base.provide hops configuration

def ProviderChain.execute (c : ProviderChain) (configuration : Option ClientConfiguration) :
    Run Credentials :=
  executeFrom c.base.provide c.hops configuration

end RoleChain
