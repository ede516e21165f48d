import RoleChain.LaxFields
import RoleChain.Proofs.HopFailure
import RoleChain.Proofs.Likeness

/-!
Clients for calls. A transport that makes a client for each call refines one that takes calls as
they are: a run over the one is the run over the other in which every call is preceded by a record
and a client, and in which a call without a client is not made but fails for want of it. The two end
alike, except that of a timeout in a client no path is told.
-/
namespace RoleChain

/-- The transport to the same service in one of the two ways. -/
def Transport.over (kind : TransportKind) (transport : Transport) : Transport :=
  { transport with kind := kind }

def ClientConfiguration.over (kind : TransportKind) (configuration : ClientConfiguration) :
    ClientConfiguration :=
  { configuration with transport := configuration.transport.map (Transport.over kind) }

def Provider.over (kind : TransportKind) : Provider → Provider
  | static credentials => static credentials
  | environment given => environment given
  | webIdentity role configuration => webIdentity role (configuration.over kind)
  | chain base hops configuration =>
    chain (base.over kind) hops (configuration.map (ClientConfiguration.over kind))

/-- What a caller is told of a failure in a client of its own. -/
def Failure.relayed (failure : Failure) : Failure := TransportKind.clientPerCall.relay failure

/-- Whether a failure comes out of a client as it is: it is no timeout with a path, nothing that the
pool of threads says of its own work, and not the end of an iteration. -/
def Failure.IsKept : Failure → Prop
  | .system e => e.isTimeout = true → e.withoutPath = e
  | .plain kind _ => kind ≠ .poolCancelled ∧ kind ≠ .poolState ∧ kind ≠ .exhausted
  | _ => True

/-- The record before a call that is made on a client. -/
def Call.note (call : Call) : Record :=
  ⟨.debug, Logger.sts, "calling sts:" ++ call.request.action ++ " for " ++ call.request.roleArn⟩

namespace Run

variable {α β γ δ : Type}

/-- The second run is the first with every call made on a client of its own, after a record. For
want of a client it goes on as the first does for a failed call. -/
inductive ByClient (same : α → β → Prop) : Run α → Run β → Prop
  | done {a : α} {b : β} (h : same a b) : ByClient same (.done a) (.done b)
  | raise (raised : Raised) : ByClient same (.raise raised) (.raise raised)
  | log (record : Record) {next : Run α} {next' : Run β} (h : ByClient same next next') :
      ByClient same (.log record next) (.log record next')
  | environment {next : Environment → Run α} {next' : Environment → Run β}
      (h : ∀ env, ByClient same (next env) (next' env)) :
      ByClient same (.environment next) (.environment next')
  | file (path : Path) {next : Except FileError (List UInt8) → Run α}
      {next' : Except FileError (List UInt8) → Run β}
      (h : ∀ content, ByClient same (next content) (next' content)) :
      ByClient same (.file path next) (.file path next')
  | suffix {next : Except Failure String → Run α} {next' : Except Failure String → Run β}
      (h : ∀ drawn, ByClient same (next drawn) (next' drawn)) :
      ByClient same (.suffix next) (.suffix next')
  | call (transport : Transport) (c : Call) {next : Except Failure Datum → Run α}
      {asked : Option Failure → Run β} {answered : Except Failure Datum → Run β}
      (hasked : asked none = .call (transport.over .clientPerCall) c answered)
      (hrefused : ∀ failure, ByClient same (next (.error failure.relayed)) (asked (some failure)))
      (hanswered : ∀ answer, ByClient same (next (answer.mapError Failure.relayed))
        (answered answer)) :
      ByClient same (.call transport c next)
        (.log c.note (.client transport.service c.configuration.clientArguments asked))

namespace ByClient

variable {same : α → β → Prop} {also : γ → δ → Prop} {run : Run α} {run' : Run β}

theorem bind (h : run.ByClient same run') {f : α → Run γ} {g : β → Run δ}
    (hnext : ∀ a b, same a b → (f a).ByClient also (g b)) :
    (run.bind f).ByClient also (run'.bind g) := by
  induction h with
  | done h => exact hnext _ _ h
  | raise raised => exact .raise raised
  | log record _ ih => exact .log record ih
  | environment _ ih => exact .environment ih
  | file path _ ih => exact .file path ih
  | suffix _ ih => exact .suffix ih
  | call transport c hasked _ _ hrefused hanswered =>
    exact .call transport c (congrArg (Run.bind · g) hasked) hrefused hanswered

theorem rescue (h : run.ByClient same run') {f : Raised → Run α} {g : Raised → Run β}
    (hhandler : ∀ raised, (f raised).ByClient same (g raised)) :
    (run.rescue f).ByClient same (run'.rescue g) := by
  induction h with
  | done h => exact .done h
  | raise raised => exact hhandler raised
  | log record _ ih => exact .log record ih
  | environment _ ih => exact .environment ih
  | file path _ ih => exact .file path ih
  | suffix _ ih => exact .suffix ih
  | call transport c hasked _ _ hrefused hanswered =>
    exact .call transport c (congrArg (Run.rescue · g) hasked) hrefused hanswered

end ByClient

end Run

/-! ### Providers made on clients -/

section

variable [FieldRules]

end

/-! ### What comes of a run made on clients -/

/-- A reply as it is told to whoever has made a client for the call. -/
def Reply.relayed : Reply → Reply
  | failure f => failure f.relayed
  | data value => data value
  | silence => silence

theorem Reply.outcome_relayed (reply : Reply) :
    reply.relayed.outcome = reply.outcome.mapError Failure.relayed := by
  cases reply <;> rfl

namespace Service

variable {σ : Type}

/-- The service as it appears to whoever makes a client for each call. For want of a client a call
fails and leaves the service as it is. -/
def throughClients (service : Service σ) : Service σ where
  refusal := service.refusal
  answer state call :=
    match service.refusal state call.configuration.clientArguments with
    | some failure => (.failure failure.relayed, state)
    | none =>
      let (reply, next) := service.answer state call
      (reply.relayed, next)

def NeverRefuses (service : Service σ) : Prop :=
  ∀ state arguments, service.refusal state arguments = none

end Service

/-- A call as it is seen if it is made on a client. -/
def Event.byClient : Event → List Event
  | called transport call =>
    [.logged call.note, .client transport.service call.configuration.clientArguments,
      .called (transport.over .clientPerCall) call]
  | logged record => [.logged record]
  | drew suffix => [.drew suffix]
  | client name arguments => [.client name arguments]

variable {σ α β : Type}

/-- The second run ends as the first, and what is seen of it is the first made on clients. -/
structure Ran.ByClient (service : Service σ) (same : α → β → Prop) (taken : Ran σ α)
    (ran : Ran σ β) : Prop where
  result : ResultsAlike same taken.result ran.result
  world_eq : ran.world = taken.world
  events_eq : service.NeverRefuses → ran.events = taken.events.flatMap Event.byClient

theorem Ran.ByClient.after {service : Service σ} {same : α → β → Prop} {taken : Ran σ α}
    {ran : Ran σ β} (h : Ran.ByClient service same taken ran) {event : Event}
    (hevent : event.byClient = [event]) :
    Ran.ByClient service same (taken.after event) (ran.after event) := by
  refine ⟨h.result, h.world_eq, fun hclients => ?_⟩
  simp only [Ran.after, List.flatMap_cons, hevent, h.events_eq hclients, List.singleton_append]

/-- A run made on clients ends as the run does over the service that appears through them. -/
theorem Run.ByClient.perform {same : α → β → Prop} {run : Run α} {run' : Run β}
    (h : run.ByClient same run') (service : Service σ) (w : World σ) :
    Ran.ByClient service same (run.perform service.throughClients w) (run'.perform service w) := by
  induction h generalizing w with
  | done h => exact ⟨.ok h, rfl, fun _ => rfl⟩
  | raise raised => exact ⟨.error raised, rfl, fun _ => rfl⟩
  | log record _ ih => exact (ih w).after rfl
  | environment _ ih => exact ih _ w
  | file path _ ih => exact ih _ w
  | suffix _ ih => exact (ih _ _).after rfl
  | @call transport c next asked answered hasked _ _ hrefused hanswered =>
    let state := w.services transport.service
    let arguments := c.configuration.clientArguments
    change Ran.ByClient service same _ ((((asked (service.refusal state arguments)).perform service
      w).after (.client transport.service arguments)).after (.logged c.note))
    rw [perform_call]
    -- Without a client the service that appears through clients answers with the failure.
    cases hrefusal : service.refusal state arguments with
    | some failure =>
      have hanswer : service.throughClients.answer state c = (.failure failure.relayed, state) := by
        simp only [Service.throughClients, arguments] at hrefusal ⊢
        rw [hrefusal]
      dsimp only
      rw [hanswer, World.withService_self]
      obtain ⟨hresult, hworld, -⟩ := hrefused failure w
      refine ⟨hresult, hworld, fun hclients => ?_⟩
      rw [hclients] at hrefusal
      cases hrefusal
    | none =>
      have hanswer : service.throughClients.answer state c =
          ((service.answer state c).1.relayed, (service.answer state c).2) := by
        simp only [Service.throughClients, arguments] at hrefusal ⊢
        rw [hrefusal]
      dsimp only
      rw [hanswer, Reply.outcome_relayed, hasked]
      obtain ⟨hresult, hworld, hevents⟩ := hanswered (service.answer state c).1.outcome
        (w.withService transport.service (service.answer state c).2)
      refine ⟨hresult, hworld, fun hclients => ?_⟩
      exact congrArg (fun events => Event.logged c.note :: Event.client transport.service
        arguments :: Event.called (transport.over .clientPerCall) c :: events) (hevents hclients)

/-! ### Calls that are not made -/

namespace Transport

end Transport

/-- The keyword arguments that an operation takes from a request. -/
def Request.Gives (key value : String) : Request → Prop
  | assumeRole r =>
    key = "RoleArn" ∧ value = r.roleArn ∨ key = "RoleSessionName" ∧ value = r.sessionName ∨
      key = "ExternalId" ∧ r.externalId = some value
  | withWebIdentity r =>
    key = "RoleArn" ∧ value = r.roleArn ∨ key = "RoleSessionName" ∧ value = r.sessionName ∨
      key = "WebIdentityToken" ∧ value = r.token

section

variable [FieldRules]

namespace ClientConfiguration

end ClientConfiguration

namespace ComesTo

variable {route : Route σ} {base : Run Credentials} {hops : List Hop} {w : World σ} {k : Nat}
  {a : Attempt σ}

end ComesTo

end

attribute [local instance] FieldRules.lax

end RoleChain
