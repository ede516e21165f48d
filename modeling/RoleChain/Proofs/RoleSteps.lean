import RoleChain.Proofs.Attempt
import RoleChain.Proofs.TokenFile

/-!
Steps to a role. A hop and a role with the token in a file go the same way: a request is prepared,
one call is made, and the credentials are taken out of the response. What comes of a step is
decided by the exchange of that call.
-/
namespace RoleChain

variable {σ : Type}

/-- One step to a role: a hop and the caller it is made by, or a role with the token in a file. -/
inductive RoleStep where
  | byHop (hop : Hop) (caller : Credentials)
  | byToken (role : WebIdentityRole)

namespace RoleStep

def run [FieldRules] (configuration : ClientConfiguration) : RoleStep → Run Credentials
  | byHop hop caller => hop.credentials caller (some configuration)
  | byToken role => role.credentials configuration

def providerName : RoleStep → String
  | byHop .. => Hop.providerName
  | byToken _ => WebIdentityRole.providerName

def roleArn : RoleStep → String
  | byHop hop _ => hop.roleArn
  | byToken role => role.roleArn

/-- Who makes the call of the step; it is unsigned with the token of a file. -/
def caller? : RoleStep → Option Credentials
  | byHop _ caller => some caller
  | byToken _ => none

/-- What is done before the call: the session is named, or the token is read. -/
def prepare : RoleStep → Run Request
  | byHop hop _ => hop.session.bind fun name =>
    .done (.assumeRole ⟨hop.roleArn, name, hop.externalId⟩)
  | byToken role => role.readToken.bind fun token =>
    (Run.record .debug Logger.webIdentity
      ("assuming role " ++ role.roleArn ++ " with web identity token")).bind fun _ =>
    .done (.withWebIdentity ⟨role.roleArn, role.sessionName, token⟩)

/-- A step asks for the credentials with the request that it has prepared. -/
theorem run_eq [FieldRules] (step : RoleStep) (configuration : ClientConfiguration) :
    step.run configuration =
      step.prepare.bind (configuration.ask step.providerName step.roleArn step.caller?) := by
  cases step with
  | byHop hop caller =>
    rw [prepare, Run.bind_assoc]
    rfl
  | byToken role =>
    rw [prepare, Run.bind_assoc]
    rfl

variable {service : Service σ} {w : World σ}

theorem perform_prepare_byToken (role : WebIdentityRole) {token : String}
    (h : role.token w.files = .ok token) :
    (byToken role).prepare.perform service w =
      ⟨.ok (.withWebIdentity ⟨role.roleArn, role.sessionName, token⟩), w,
        [.logged ⟨.debug, Logger.webIdentity,
          "assuming role " ++ role.roleArn ++ " with web identity token"⟩]⟩ := by
  have hread : role.readToken.perform service w = ⟨.ok token, w, []⟩ := by
    rw [role.perform_readToken, h]
  rw [prepare, Run.perform_bind, hread, Ran.andThen_ok]
  rfl

/-- Whichever request is prepared names the role of the step. -/
theorem roleArn_of_prepare (step : RoleStep) {request : Request}
    (h : (step.prepare.perform service w).result = .ok request) :
    request.roleArn = step.roleArn := by
  cases step with
  | byHop hop caller =>
    simp only [prepare, Run.perform_bind] at h
    generalize hop.session.perform service w = ran at h
    obtain ⟨result, v, events⟩ := ran
    cases result with
    | error raised => cases h
    | ok name =>
      cases h
      rfl
  | byToken role =>
    simp only [prepare, Run.perform_bind, role.perform_readToken] at h
    cases htoken : role.token w.files with
    | error raised =>
      rw [htoken] at h
      cases h
    | ok token =>
      rw [htoken] at h
      cases h
      rfl

variable [FieldRules]

/-- What comes of a step with its request prepared is decided by one exchange. -/
theorem perform_prepared (step : RoleStep) {configuration : ClientConfiguration}
    {transport : Transport} (h : configuration.transport = some transport) {request : Request}
    {v : World σ} {events : List Event}
    (hprepare : step.prepare.perform service w = ⟨.ok request, v, events⟩) :
    let call : Call := ⟨request, configuration.forCaller step.caller?⟩
    let exchanged := transport.exchange service call (v.services transport.service)
    (step.run configuration).perform service w =
      ⟨Credentials.ofExchange step.providerName step.roleArn exchanged.1,
        v.withService transport.service exchanged.2,
        events ++ (transport.notes call ++
          transport.calls service call (v.services transport.service))⟩ := by
  intro call exchanged
  have hresult : (step.prepare.perform service w).result = .ok request := by
    rw [hprepare]
  have hrole := step.roleArn_of_prepare hresult
  have hask := ClientConfiguration.perform_ask h service step.providerName step.caller? request v
  rw [hrole] at hask
  rw [run_eq, Run.perform_bind, hprepare, Ran.andThen_ok, hask]

/-- Whether a step is served with an answer: it comes to its call, nothing keeps the call from the
service, and the service answers so. -/
def IsServed (step : RoleStep) (configuration : ClientConfiguration) (service : Service σ)
    (w : World σ) (answer : Datum) : Prop :=
  ∃ transport request,
    configuration.transport = some transport ∧
    (step.prepare.perform service w).result = .ok request ∧
    let call : Call := ⟨request, configuration.forCaller step.caller?⟩
    let state := (step.prepare.perform service w).world.services transport.service
    transport.refusal service call state = none ∧ (service.answer state call).1 = .data answer

/-- A step that is served comes to what the reading of the answer does. -/
theorem IsServed.result_eq {step : RoleStep} {configuration : ClientConfiguration}
    {answer : Datum} (h : step.IsServed configuration service w answer) :
    ((step.run configuration).perform service w).result =
      Credentials.ofExchange step.providerName step.roleArn
        (((Response.ofDatum answer).report Response.title).mapError .invalidData) := by
  obtain ⟨transport, request, htransport, hresult, hrefusal, hanswer⟩ := h
  generalize hprepare : step.prepare.perform service w = prepared at hresult hrefusal hanswer
  obtain ⟨result, v, events⟩ := prepared
  cases hresult
  rw [step.perform_prepared htransport hprepare]
  simp only [Transport.exchange, hrefusal, hanswer, Transport.understand, Reply.outcome]

end RoleStep

end RoleChain
