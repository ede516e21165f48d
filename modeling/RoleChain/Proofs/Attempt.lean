import RoleChain.Proofs.Exchange

/-!
Attempts at a hop. An attempt is made by a caller while the service is in some state; with the
suffix that would be drawn next this fixes the call, what becomes of it, and all that is seen of
it. The credentials of a hop are carried out as one attempt and nothing else.
-/
namespace RoleChain

/-- What a provider raises when a call of its own has failed. -/
def Failure.wrapped (failure : Failure) (providerName roleArn : String) : Raised :=
  if failure.isCancellation then failure.alone
  else ⟨.provider failure providerName (some roleArn) none, some failure⟩

namespace SuffixSource

def NeverFails (source : SuffixSource) : Prop := ∀ n, ∃ suffix, source.stream n = .ok suffix

theorem NeverFails.of_stream {source other : SuffixSource} (h : source.NeverFails)
    (heq : other.stream = source.stream) : other.NeverFails := by
  intro n
  rw [heq]
  exact h n

theorem neverFails_constant (suffix : String) : (constant suffix).NeverFails :=
  fun _ => ⟨suffix, rfl⟩

end SuffixSource

variable {σ : Type}

/-- How the calls of hops reach a service: over which transport, to which region and endpoint. -/
structure Route (σ : Type) where
  service : Service σ
  transport : Transport
  region : Option String := none
  endpointUrl : Option String := none

def Route.configuration (route : Route σ) : ClientConfiguration :=
  ⟨some route.transport, route.region, route.endpointUrl⟩

section

variable [FieldRules]

theorem ClientConfiguration.perform_send {configuration : ClientConfiguration}
    {transport : Transport} (h : configuration.transport = some transport) (service : Service σ)
    (providerName : String) (caller : Option Credentials) (request : Request) (w : World σ) :
    let call : Call := ⟨request, configuration.forCaller caller⟩
    let exchanged := transport.exchange service call (w.services transport.service)
    (configuration.send providerName caller request).perform service w =
      ⟨exchanged.1.mapError fun failure => failure.wrapped providerName request.roleArn,
        w.withService transport.service exchanged.2,
        transport.notes call ++ transport.calls service call (w.services transport.service)⟩ := by
  intro call exchanged
  have hsend : (transport.send call).perform service w =
      ⟨exchanged.1.mapError Failure.alone, w.withService transport.service exchanged.2,
        transport.notes call ++ transport.calls service call (w.services transport.service)⟩ :=
    transport.perform_send service call w
  simp only [ClientConfiguration.send, h, Run.perform_rescue]
  rw [hsend]
  cases exchanged.1 with
  | ok response => rfl
  | error failure =>
    cases hcancel : failure.isCancellation <;>
      simp [Ran.orElse, mapError_error, Failure.alone, Failure.wrapped, Run.failFrom, Run.perform,
        hcancel]

/-- What a provider makes of the response or failure that its call is given. -/
def Credentials.ofExchange (providerName roleArn : String) :
    Except Failure Response → Except Raised Credentials
  | .error failure => .error (failure.wrapped providerName roleArn)
  | .ok response =>
    (Credentials.ofIssued response.credentials providerName (some roleArn)).mapError Failure.alone

/-- Makes a call for a provider and takes the credentials out of the response. -/
def ClientConfiguration.ask (configuration : ClientConfiguration) (providerName roleArn : String)
    (caller : Option Credentials) (request : Request) : Run Credentials :=
  (configuration.send providerName caller request).bind fun response =>
    Run.ofExcept (Credentials.ofIssued response.credentials providerName (some roleArn))

/-- Asking is one exchange with the service. -/
theorem ClientConfiguration.perform_ask {configuration : ClientConfiguration}
    {transport : Transport} (h : configuration.transport = some transport) (service : Service σ)
    (providerName : String) (caller : Option Credentials) (request : Request) (w : World σ) :
    let call : Call := ⟨request, configuration.forCaller caller⟩
    let exchanged := transport.exchange service call (w.services transport.service)
    (configuration.ask providerName request.roleArn caller request).perform service w =
      ⟨Credentials.ofExchange providerName request.roleArn exchanged.1,
        w.withService transport.service exchanged.2,
        transport.notes call ++ transport.calls service call (w.services transport.service)⟩ := by
  intro call exchanged
  have hsend := ClientConfiguration.perform_send h service providerName caller request w
  rw [ask, Run.perform_bind, hsend]
  cases exchanged.1 with
  | error failure => rfl
  | ok response =>
    simp only [mapError_ok, Ran.andThen_ok, Run.perform_ofExcept, List.append_nil]
    rfl

end

/-- One attempt at a hop. -/
structure Attempt (σ : Type) where
  hop : Hop
  caller : Credentials
  /-- The suffix that is next, drawn only for a hop without a session name. -/
  suffix : String
  state : σ

namespace Attempt

def sessionName (a : Attempt σ) : String :=
  a.hop.sessionName.getD (SessionName.withSuffix SessionName.assumeRolePurpose a.suffix)

def call (a : Attempt σ) (route : Route σ) : Call where
  request := .assumeRole ⟨a.hop.roleArn, a.sessionName, a.hop.externalId⟩
  configuration := ⟨some a.caller, route.region, route.endpointUrl⟩

def draws (a : Attempt σ) : List Event :=
  match a.hop.sessionName with
  | some _ => []
  | none => [.drew (.ok a.suffix)]

theorem filter_draws (a : Attempt σ) : a.draws.filter Event.isCall = [] := by
  unfold draws
  cases a.hop.sessionName <;> rfl

/-- What the service sees of the attempt. -/
def calls (a : Attempt σ) (route : Route σ) : List Event :=
  route.transport.calls route.service (a.call route) a.state

def events (a : Attempt σ) (route : Route σ) : List Event :=
  a.draws ++ (route.transport.notes (a.call route) ++ a.calls route)

theorem filter_events (a : Attempt σ) (route : Route σ) :
    (a.events route).filter Event.isCall = a.calls route := by
  simp only [events, List.filter_append, filter_draws, Transport.filter_notes, List.nil_append]
  exact Transport.filter_calls _ _ _ _

/-- What is left of the suffixes by the time of the call. -/
def suffixesAfter (a : Attempt σ) (source : SuffixSource) : SuffixSource :=
  match a.hop.sessionName with
  | some _ => source
  | none => source.next.2

/-- Whether the suffix is the next of a source, or none is drawn. -/
def IsSupplied (a : Attempt σ) (source : SuffixSource) : Prop :=
  a.hop.sessionName = none → source.stream source.position = .ok a.suffix

theorem perform_session (a : Attempt σ) (service : Service σ) {w : World σ}
    (h : a.IsSupplied w.suffixes) :
    a.hop.session.perform service w =
      ⟨.ok a.sessionName, { w with suffixes := a.suffixesAfter w.suffixes }, a.draws⟩ := by
  cases hname : a.hop.sessionName with
  | some name =>
    simp [Hop.session, sessionName, draws, suffixesAfter, hname, Run.perform]
  | none =>
    simp [Hop.session, sessionName, draws, suffixesAfter, hname, Run.sessionName, Run.perform,
      SuffixSource.next, h hname, Ran.after]

variable [FieldRules]

def outcome (a : Attempt σ) (route : Route σ) : Except Failure Response :=
  (route.transport.exchange route.service (a.call route) a.state).1

def next (a : Attempt σ) (route : Route σ) : σ :=
  (route.transport.exchange route.service (a.call route) a.state).2

/-- The credentials that the response holds, if there is one and it holds any. -/
def issued? (a : Attempt σ) (route : Route σ) : Option Credentials :=
  match a.outcome route with
  | .ok ⟨some block, _⟩ => some {
      accessKeyId := block.accessKeyId
      secretAccessKey := block.secretAccessKey
      sessionToken := some block.sessionToken
      expiry := some block.expiration
      providerName := "AssumeRoleProvider" }
  | _ => none

def result (a : Attempt σ) (route : Route σ) : Except Raised Credentials :=
  match a.outcome route with
  | .error failure => .error (failure.wrapped Hop.providerName a.hop.roleArn)
  | .ok response =>
    (Credentials.ofIssued response.credentials Hop.providerName (some a.hop.roleArn)).mapError
      Failure.alone

theorem result_eq_ok_iff (a : Attempt σ) (route : Route σ) (c : Credentials) :
    a.result route = .ok c ↔ a.issued? route = some c := by
  unfold result issued?
  rcases a.outcome route with failure | ⟨_ | block, user⟩
  · simp
  · simp [Credentials.ofIssued, mapError_error]
  · simp only [Credentials.ofIssued, mapError_ok, Except.ok.injEq, Option.some.injEq]
    exact Iff.rfl

theorem issued?_eq_none_iff (a : Attempt σ) (route : Route σ) :
    a.issued? route = none ↔ ∃ raised, a.result route = .error raised := by
  cases hresult : a.result route with
  | error raised =>
    refine ⟨fun _ => ⟨raised, rfl⟩, fun _ => ?_⟩
    cases hissued : a.issued? route with
    | none => rfl
    | some c =>
      rw [(a.result_eq_ok_iff route c).mpr hissued] at hresult
      cases hresult
  | ok c =>
    rw [(a.result_eq_ok_iff route c).mp hresult]
    constructor
    · intro h
      cases h
    · rintro ⟨raised, h⟩
      cases h

def worldAfter (a : Attempt σ) (route : Route σ) (w : World σ) : World σ :=
  { w with suffixes := a.suffixesAfter w.suffixes }.withService route.transport.service
    (a.next route)

theorem worldAfter_state (a : Attempt σ) (route : Route σ) (w : World σ) :
    (a.worldAfter route w).services route.transport.service = a.next route := by
  simp [worldAfter, World.withService]

theorem worldAfter_stream (a : Attempt σ) (route : Route σ) (w : World σ) :
    (a.worldAfter route w).suffixes.stream = w.suffixes.stream := by
  simp only [worldAfter, World.withService, suffixesAfter]
  split <;> rfl

/-- The request of an attempt is an exchange with the service. -/
theorem perform_request (a : Attempt σ) (route : Route σ) {w : World σ}
    (h : w.services route.transport.service = a.state) :
    (route.configuration.ask Hop.providerName a.hop.roleArn (some a.caller)
        (a.call route).request).perform route.service w =
      ⟨a.result route, w.withService route.transport.service (a.next route),
        route.transport.notes (a.call route) ++ a.calls route⟩ := by
  have htransport : route.configuration.transport = some route.transport := rfl
  have hask := ClientConfiguration.perform_ask htransport route.service Hop.providerName
    (some a.caller) (a.call route).request w
  rw [h] at hask
  exact hask

/-- The credentials of a hop are one attempt. -/
theorem perform_supplied (a : Attempt σ) (route : Route σ) {w : World σ}
    (hsuffix : a.IsSupplied w.suffixes)
    (hstate : w.services route.transport.service = a.state) :
    (a.hop.credentials a.caller (some route.configuration)).perform route.service w =
      ⟨a.result route, a.worldAfter route w, a.events route⟩ := by
  let ask (name : String) : Run Credentials :=
    route.configuration.ask Hop.providerName a.hop.roleArn (some a.caller)
      (.assumeRole ⟨a.hop.roleArn, name, a.hop.externalId⟩)
  have hsession := a.perform_session route.service hsuffix
  have hask : (ask a.sessionName).perform route.service
      { w with suffixes := a.suffixesAfter w.suffixes } =
      ⟨a.result route, a.worldAfter route w,
        route.transport.notes (a.call route) ++ a.calls route⟩ := a.perform_request route hstate
  calc (a.hop.credentials a.caller (some route.configuration)).perform route.service w
      = (a.hop.session.bind ask).perform route.service w := rfl
    _ = ⟨a.result route, a.worldAfter route w, a.events route⟩ := by
      rw [Run.perform_bind, hsession, Ran.andThen_ok, hask]
      rfl

theorem perform_credentials (a : Attempt σ) (route : Route σ) {w : World σ}
    (hsuffix : w.suffixes.stream w.suffixes.position = .ok a.suffix)
    (hstate : w.services route.transport.service = a.state) :
    (a.hop.credentials a.caller (some route.configuration)).perform route.service w =
      ⟨a.result route, a.worldAfter route w, a.events route⟩ :=
  a.perform_supplied route (fun _ => hsuffix) hstate

end Attempt

/-- A hop is attempted, unless there is no suffix for the name of its session. -/
theorem Hop.attempted_or_unnamed [FieldRules] (hop : Hop) (caller : Credentials) (route : Route σ)
    (w : World σ) :
    (∃ a : Attempt σ, a.hop = hop ∧ a.caller = caller ∧
      a.state = w.services route.transport.service ∧ a.IsSupplied w.suffixes) ∨
    ∃ failure, hop.sessionName = none ∧
      (hop.credentials caller (some route.configuration)).perform route.service w =
        ⟨.error failure.leave, { w with suffixes := w.suffixes.next.2 },
          [.drew (.error failure)]⟩ := by
  let attempt (suffix : String) : Attempt σ :=
    ⟨hop, caller, suffix, w.services route.transport.service⟩
  cases hname : hop.sessionName with
  | some name =>
    refine Or.inl ⟨attempt "", rfl, rfl, rfl, fun hnone => ?_⟩
    exact absurd (hname.symm.trans hnone) nofun
  | none =>
    cases hdraw : w.suffixes.stream w.suffixes.position with
    | ok suffix => exact Or.inl ⟨attempt suffix, rfl, rfl, rfl, fun _ => hdraw⟩
    | error failure =>
      refine Or.inr ⟨failure, rfl, ?_⟩
      change (Run.bind hop.session _).perform route.service w = _
      rw [Run.perform_bind, session, hname]
      simp only [Run.sessionName, Run.perform, SuffixSource.next, hdraw]
      rfl

end RoleChain
