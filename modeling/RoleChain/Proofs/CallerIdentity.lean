import RoleChain.LaxFields
import RoleChain.Proofs.HopSteps
import RoleChain.Proofs.TokenFile
import RoleChain.Sts.Script

/-!
Whose identity a call is made with. Every call on a client is made right after the client is
created, and for that call alone. The client of a hop has the keys of the credentials that the step
just before it ended with, be it the base or the hop before, and the session token of the same
credentials, if that is not empty; the client of a web identity role has no keys at all. No other
call is ever made, whatever the services answer and wherever a run ends.
-/
namespace RoleChain

variable {σ : Type}

/-! ### The keys of a client -/

theorem nonEmpty?_eq_some_iff (given : Option String) (s : String) :
    nonEmpty? given = some s ↔ given = some s ∧ s ≠ "" := by
  cases given with
  | none => simp [nonEmpty?]
  | some t =>
    by_cases ht : t = ""
    · simp [nonEmpty?, ht, eq_comm]
    · simp only [nonEmpty?, ht, if_false, Option.some.injEq]
      constructor
      · rintro rfl
        exact ⟨rfl, ht⟩
      · exact And.left

namespace ClientArguments

/-- Whether a client goes where a configuration says; what is empty is not said. -/
structure GoTo (arguments : ClientArguments) (region endpointUrl : Option String) : Prop where
  region_iff : ∀ r, arguments.region = some r ↔ region = some r ∧ r ≠ ""
  endpointUrl_iff : ∀ url, arguments.endpointUrl = some url ↔ endpointUrl = some url ∧ url ≠ ""

/-- Whether a client signs with the keys of a caller, and with no session token but the caller's. -/
def SignAs (arguments : ClientArguments) (caller : Credentials) : Prop :=
  ∃ keys, arguments.keys = some keys ∧ keys.accessKeyId = caller.accessKeyId ∧
    keys.secretAccessKey = caller.secretAccessKey ∧
    ∀ token, keys.sessionToken = some token ↔ caller.sessionToken = some token ∧ token ≠ ""

end ClientArguments

namespace CallConfiguration

theorem goTo_clientArguments (c : CallConfiguration) :
    c.clientArguments.GoTo c.region c.endpointUrl :=
  ⟨nonEmpty?_eq_some_iff c.region, nonEmpty?_eq_some_iff c.endpointUrl⟩

theorem signAs_clientArguments {c : CallConfiguration} {caller : Credentials}
    (h : c.caller = some caller) : c.clientArguments.SignAs caller := by
  refine ⟨⟨caller.accessKeyId, caller.secretAccessKey, nonEmpty? caller.sessionToken⟩, ?_, rfl, rfl,
    nonEmpty?_eq_some_iff caller.sessionToken⟩
  rw [clientArguments, h]
  rfl

end CallConfiguration

/-! ### What stands before a call -/

/-- Whether every call among events has a property, given the events before it. -/
def AtCalls (P : List Event → Transport → Call → Prop) (events : List Event) : Prop :=
  ∀ before transport call after, events = before ++ .called transport call :: after →
    P before transport call

namespace AtCalls

variable {P Q : List Event → Transport → Call → Prop} {xs ys : List Event}

theorem of_forall_ne (h : ∀ transport call, ∀ event ∈ xs, event ≠ .called transport call) :
    AtCalls P xs := by
  rintro before transport call after rfl
  exact absurd rfl (h transport call _ (List.mem_append_right before (List.mem_cons_self ..)))

theorem of_filter (h : xs.filter Event.isCall = []) : AtCalls P xs := by
  refine of_forall_ne ?_
  rintro transport call event hevent rfl
  exact List.filter_eq_nil_iff.mp h _ hevent rfl

theorem singleton {transport : Transport} {call : Call} (h : P [] transport call) :
    AtCalls P [.called transport call] := by
  intro before transport' call' after heq
  rcases List.cons_eq_append_iff.mp heq with ⟨rfl, hcall⟩ | ⟨rest, -, hnil⟩
  · cases hcall
    exact h
  · cases (List.append_eq_nil_iff.mp hnil.symm).2

theorem append (hxs : AtCalls P xs) (hys : AtCalls (fun before => P (xs ++ before)) ys) :
    AtCalls P (xs ++ ys) := by
  intro before transport call after heq
  rcases List.append_eq_append_iff.mp heq with ⟨later, rfl, hys'⟩ | ⟨rest, hxs', hrest⟩
  · exact hys later transport call after hys'
  · cases rest with
    | nil =>
      rw [List.append_nil] at hxs'
      subst hxs'
      have hfirst : P (xs ++ []) transport call := hys [] transport call after hrest.symm
      rwa [List.append_nil] at hfirst
    | cons event rest =>
      cases hrest
      exact hxs before transport call rest hxs'

theorem imp (h : AtCalls P xs) (hPQ : ∀ before transport call, P before transport call →
    Q before transport call) : AtCalls Q xs :=
  fun before transport call after heq => hPQ _ _ _ (h before transport call after heq)

end AtCalls

namespace Transport

/-- What is seen of a call before it is made. -/
def ahead (transport : Transport) (call : Call) : List Event :=
  match transport.kind with
  | .direct => []
  | .clientPerCall =>
    transport.notes call ++ [.client transport.service call.configuration.clientArguments]

theorem ne_called_of_mem_ahead (transport transport' : Transport) (call call' : Call) :
    ∀ event ∈ transport.ahead call, event ≠ .called transport' call' := by
  obtain ⟨name, _ | _⟩ := transport
  · intro event hevent
    cases hevent
  · intro event hevent hcalled
    simp only [ahead, notes, List.cons_append, List.nil_append, List.mem_cons, List.not_mem_nil,
      or_false] at hevent
    rcases hevent with rfl | rfl <;> cases hcalled

/-- The service sees a call after what is ahead of it, or no call at all. -/
theorem notes_append_calls (transport : Transport) (service : Service σ) (call : Call) (state : σ) :
    transport.notes call ++ transport.calls service call state = transport.ahead call ∨
      transport.notes call ++ transport.calls service call state =
        transport.ahead call ++ [.called transport call] := by
  obtain ⟨name, _ | _⟩ := transport
  · exact Or.inr rfl
  · cases hrefusal : refusal ⟨name, .clientPerCall⟩ service call state with
    | some failure =>
      left
      simp only [calls, hrefusal]
      rfl
    | none =>
      right
      simp only [calls, hrefusal]
      rfl

theorem atCalls_calls (transport : Transport) (service : Service σ) (call : Call) (state : σ)
    {P : List Event → Transport → Call → Prop} (h : P (transport.ahead call) transport call) :
    AtCalls P (transport.notes call ++ transport.calls service call state) := by
  have hahead : AtCalls P (transport.ahead call) :=
    .of_forall_ne fun transport' call' => transport.ne_called_of_mem_ahead transport' call call'
  rcases transport.notes_append_calls service call state with hcalls | hcalls
  · rw [hcalls]
    exact hahead
  · rw [hcalls]
    refine hahead.append (.singleton ?_)
    rwa [List.append_nil]

/-- A client is the last that is ahead of a call on it. -/
theorem ahead_eq_concat {transport : Transport} (h : transport.kind = .clientPerCall) (call : Call) :
    transport.ahead call =
      transport.notes call ++ [.client transport.service call.configuration.clientArguments] := by
  simp only [ahead, h]

end Transport

/-! ### The calls of hops -/

theorem Hop.filter_session (hop : Hop) (service : Service σ) (w : World σ) :
    (hop.session.perform service w).events.filter Event.isCall = [] := by
  unfold Hop.session
  cases hop.sessionName with
  | some name => rfl
  | none =>
    simp only [Run.sessionName, Run.perform]
    cases w.suffixes.next.1 <;> rfl

/-- The way of the calls of hops under a configuration. -/
def ClientConfiguration.route (configuration : ClientConfiguration) (service : Service σ)
    (transport : Transport) : Route σ :=
  ⟨service, transport, configuration.region, configuration.endpointUrl⟩

theorem ClientConfiguration.configuration_route {configuration : ClientConfiguration}
    {transport : Transport} (h : configuration.transport = some transport) (service : Service σ) :
    (configuration.route service transport).configuration = configuration := by
  obtain ⟨_, region, endpointUrl⟩ := configuration
  cases h
  rfl

theorem Run.events_bind_ofExcept {α β : Type} (service : Service σ) (run : Run α)
    (f : α → Except Failure β) (w : World σ) :
    ((run.bind fun value => ofExcept (f value)).perform service w).events =
      (run.perform service w).events := by
  rw [perform_bind]
  obtain ⟨_ | value, v, events⟩ := run.perform service w
  · rfl
  · simp only [Ran.andThen_ok, perform_ofExcept, List.append_nil]

section

variable [FieldRules]

/-- The attempt that the hops of a chain come to after earlier ones. The first is made by the given
credentials in the given state; where one is issued credentials these make the next, in the state
that it leaves. -/
inductive ComeBy (route : Route σ) :
    List Hop → Credentials → σ → List (Attempt σ) → Attempt σ → Prop
  | first (a : Attempt σ) (hops : List Hop) :
      ComeBy route (a.hop :: hops) a.caller a.state [] a
  | later {a b : Attempt σ} {hops : List Hop} {c : Credentials} {earlier : List (Attempt σ)}
      (issued : a.issued? route = some c) (rest : ComeBy route hops c (a.next route) earlier b) :
      ComeBy route (a.hop :: hops) a.caller a.state (a :: earlier) b

/-- The credentials that the step just before an attempt ended with: those at the start of the
chain, or those that the attempt before was issued. -/
def Attempt.stepBefore (route : Route σ) (first : Credentials) (earlier : List (Attempt σ)) :
    Option Credentials :=
  match earlier.getLast? with
  | none => some first
  | some b => b.issued? route

theorem ComeBy.stepBefore_eq {route : Route σ} {hops : List Hop} {first : Credentials} {state : σ}
    {earlier : List (Attempt σ)} {a : Attempt σ} (h : ComeBy route hops first state earlier a) :
    Attempt.stepBefore route first earlier = some a.caller := by
  induction h with
  | first a hops => rfl
  | @later a b hops c earlier issued rest ih =>
    unfold Attempt.stepBefore at ih ⊢
    cases earlier with
    | nil =>
      rw [← ih]
      exact issued
    | cons d earlier => rwa [List.getLast?_cons_cons]

/-- Whether a call is that of an attempt that hops come to, and nothing has been seen of calls but
the attempts before it and what is ahead of the call. -/
def CalledInTurn (route : Route σ) (hops : List Hop) (first : Credentials) (state : σ)
    (before : List Event) (transport : Transport) (call : Call) : Prop :=
  ∃ earlier a lead, ComeBy route hops first state earlier a ∧ transport = route.transport ∧
    call = a.call route ∧ before = lead ++ transport.ahead call ∧
    lead.filter Event.isCall = earlier.flatMap fun b => b.calls route

namespace Attempt

theorem atCalls_events (a : Attempt σ) (route : Route σ) (hops : List Hop) :
    AtCalls (CalledInTurn route (a.hop :: hops) a.caller a.state) (a.events route) := by
  refine AtCalls.append (.of_filter a.filter_draws) ?_
  refine Transport.atCalls_calls _ _ _ _ ?_
  exact ⟨[], a, a.draws, .first a hops, rfl, rfl, rfl, a.filter_draws⟩

end Attempt

namespace Hop

theorem perform_credentials_unrouted (hop : Hop) (caller : Credentials)
    {configuration : Option ClientConfiguration} (h : ∀ c ∈ configuration, c.transport = none)
    (service : Service σ) (w : World σ) :
    ∃ raised v events, (hop.credentials caller configuration).perform service w =
      ⟨.error raised, v, events⟩ ∧ events.filter Event.isCall = [] := by
  cases configuration with
  | none => exact ⟨_, w, [], rfl, rfl⟩
  | some configuration =>
    have htransport := h configuration rfl
    have hsend (request : Request) : configuration.send providerName (some caller) request =
        .failFrom (.noTransport request.operation) (.provider (.noTransport request.operation)
          providerName (some request.roleArn) none) := by
      rw [ClientConfiguration.send, htransport]
      rfl
    have hsession := hop.filter_session service w
    change ∃ raised v events, (Run.bind hop.session fun name => Run.bind
      (configuration.send providerName (some caller) _) _).perform service w = _ ∧ _
    simp only [hsend, Run.perform_bind]
    generalize hop.session.perform service w = ran at hsession
    obtain ⟨_ | name, v, events⟩ := ran
    · exact ⟨_, v, events, rfl, hsession⟩
    · refine ⟨_, v, events ++ [], rfl, ?_⟩
      rwa [List.append_nil]

end Hop

/-- Without a transport no hop makes a call, since the first fails. -/
theorem atCalls_assumeAll_unrouted {P : List Event → Transport → Call → Prop}
    {configuration : Option ClientConfiguration} (h : ∀ c ∈ configuration, c.transport = none)
    (index : Nat) (hops : List Hop) (first : Credentials) (service : Service σ) (w : World σ) :
    AtCalls P ((assumeAll configuration index hops first).perform service w).events := by
  cases hops with
  | nil => exact .of_filter rfl
  | cons hop hops =>
    obtain ⟨raised, v, events, hstep, hevents⟩ :=
      hop.perform_credentials_unrouted first h service w
    rw [perform_assumeAll_failed _ _ hstep]
    refine .of_filter ?_
    rw [List.filter_append, hevents, Hop.filter_warnings]
    rfl

theorem atCalls_assumeAll (route : Route σ) (index : Nat) (hops : List Hop) (first : Credentials)
    (w : World σ) :
    AtCalls (CalledInTurn route hops first (w.services route.transport.service))
      ((assumeAll (some route.configuration) index hops first).perform route.service w).events := by
  induction hops generalizing index first w with
  | nil => exact .of_filter rfl
  | cons hop hops ih =>
    rcases hop.attempted_or_unnamed first route w with
      ⟨a, rfl, rfl, hstate, hsupplied⟩ | ⟨failure, -, hunnamed⟩
    · have hstep := a.perform_supplied route hsupplied hstate.symm
      rw [← hstate]
      cases hresult : a.result route with
      | error raised =>
        rw [hresult] at hstep
        rw [perform_assumeAll_failed _ _ hstep]
        exact (a.atCalls_events route hops).append (.of_filter (Hop.filter_warnings _ _ _))
      | ok assumed =>
        rw [hresult] at hstep
        rw [perform_assumeAll_assumed _ _ hstep]
        refine (a.atCalls_events route hops).append ?_
        have hissued := (a.result_eq_ok_iff route assumed).mp hresult
        have hlater := ih (index + 1) assumed (a.worldAfter route w)
        rw [a.worldAfter_state route w] at hlater
        have hrecord : AtCalls (fun before => CalledInTurn route (a.hop :: hops) a.caller a.state
            (a.events route ++ before)) [a.hop.assumedEvent assumed] := .of_filter rfl
        refine hrecord.append (hlater.imp ?_)
        -- Ahead of a later call are this attempt, its record, and what was ahead of it already.
        rintro before transport call ⟨earlier, b, lead, hcome, htransport, hcall, rfl, hlead⟩
        refine ⟨a :: earlier, b, a.events route ++ ([a.hop.assumedEvent assumed] ++ lead),
          .later hissued hcome, htransport, hcall, by simp only [List.append_assoc], ?_⟩
        simp only [List.filter_append, a.filter_events, hlead, List.flatMap_cons]
        rfl
    · rw [perform_assumeAll_failed _ _ hunnamed]
      refine .of_filter ?_
      rw [List.filter_append, Hop.filter_warnings]
      rfl

/-! ### The calls of providers -/

namespace Provider

/-- Whether a provider is another or what that is built on, at any depth. -/
inductive Holds : Provider → Provider → Prop
  | self (p : Provider) : Holds p p
  | of_base {base p : Provider} {hops : List Hop} {configuration : Option ClientConfiguration}
      (h : Holds base p) : Holds (.chain base hops configuration) p

/-- Whether credentials are those that the step just before a call ended with, in the chain of the
hop that makes the call: the base of the chain, or else the hop before. All that has been seen of
calls is what the base, the hops before and the creation of the client have made of them. -/
inductive StepBefore (service : Service σ) (w : World σ) (p : Provider)
    (configuration : ClientConfiguration) (before : List Event) (transport : Transport)
    (call : Call) (caller : Credentials) : Prop
  | intro {base : Provider} {hops : List Hop} {first : Credentials} {earlier : List (Attempt σ)}
      {a : Attempt σ}
      (holds : p.Holds (.chain base hops (some configuration)))
      (loaded : (base.provide.perform service w).result = .ok first)
      (comeBy : ComeBy (configuration.route service transport) hops first
        ((base.provide.perform service w).world.services transport.service) earlier a)
      (call_eq : call = a.call (configuration.route service transport))
      (step_eq : Attempt.stepBefore (configuration.route service transport) first earlier =
        some caller)
      (calls_eq : before.filter Event.isCall =
        (base.provide.perform service w).events.filter Event.isCall ++
          (earlier.flatMap (fun b => b.calls (configuration.route service transport)) ++
            (transport.ahead call).filter Event.isCall)) :
      StepBefore service w p configuration before transport call caller

/-- Whether a call is made under a configuration with the identity that is due to it: that of the
step before for a hop, and none for a web identity role. -/
def IsDue (service : Service σ) (w : World σ) (p : Provider) (before : List Event)
    (transport : Transport) (call : Call) : Prop :=
  (∃ lead, before = lead ++ transport.ahead call) ∧
    ∃ configuration : ClientConfiguration, configuration.transport = some transport ∧
      match call.request with
      | .assumeRole _ => ∃ caller,
        p.StepBefore service w configuration before transport call caller ∧
          call.configuration = configuration.forCaller (some caller)
      | .withWebIdentity _ => (∃ role, p.Holds (.webIdentity role configuration)) ∧
          call.configuration = configuration.forCaller none

theorem StepBefore.of_base {service : Service σ} {w : World σ} {base : Provider} {hops : List Hop}
    {configuration : Option ClientConfiguration} {c : ClientConfiguration} {before : List Event}
    {transport : Transport} {call : Call} {caller : Credentials}
    (h : base.StepBefore service w c before transport call caller) :
    (chain base hops configuration).StepBefore service w c before transport call caller := by
  obtain ⟨holds, loaded, comeBy, call_eq, step_eq, calls_eq⟩ := h
  exact ⟨holds.of_base, loaded, comeBy, call_eq, step_eq, calls_eq⟩

theorem IsDue.of_base {service : Service σ} {w : World σ} {base : Provider} {hops : List Hop}
    {configuration : Option ClientConfiguration} {before : List Event} {transport : Transport}
    {call : Call} (h : base.IsDue service w before transport call) :
    (chain base hops configuration).IsDue service w before transport call := by
  obtain ⟨hlead, c, htransport, hmade⟩ := h
  refine ⟨hlead, c, htransport, ?_⟩
  cases hrequest : call.request with
  | assumeRole request =>
    rw [hrequest] at hmade
    obtain ⟨caller, hstep, hconfiguration⟩ := hmade
    exact ⟨caller, hstep.of_base, hconfiguration⟩
  | withWebIdentity request =>
    rw [hrequest] at hmade
    obtain ⟨⟨role, hholds⟩, hconfiguration⟩ := hmade
    exact ⟨⟨role, hholds.of_base⟩, hconfiguration⟩

end Provider

/-- The one call of a web identity role is made under its own configuration and without keys. -/
theorem WebIdentityRole.atCalls_credentials (role : WebIdentityRole)
    (configuration : ClientConfiguration) (service : Service σ) (w : World σ) :
    AtCalls ((Provider.webIdentity role configuration).IsDue service w)
      ((role.credentials configuration).perform service w).events := by
  cases htoken : role.token w.files with
  | error raised =>
    rw [role.perform_credentials_failed configuration htoken]
    exact .of_filter rfl
  | ok token =>
    let note : Event := .logged ⟨.debug, Logger.webIdentity,
      "assuming role " ++ role.roleArn ++ " with web identity token"⟩
    let request : Request := .withWebIdentity ⟨role.roleArn, role.sessionName, token⟩
    have hevents : ((role.credentials configuration).perform service w).events =
        [note] ++ ((configuration.send providerName none request).perform service w).events := by
      rw [← Run.events_bind_ofExcept service (configuration.send providerName none request)
        (fun response => Credentials.ofIssued response.credentials providerName
          (some role.roleArn)) w]
      change (Run.perform service (Run.bind role.readToken _) w).events = _
      rw [Run.perform_bind, role.perform_readToken, htoken, Ran.andThen_ok]
      rfl
    rw [hevents]
    refine AtCalls.append (.of_filter rfl) ?_
    cases htransport : configuration.transport with
    | none =>
      rw [ClientConfiguration.send, htransport]
      exact .of_filter rfl
    | some transport =>
      rw [ClientConfiguration.perform_send htransport]
      refine transport.atCalls_calls service _ _ ?_
      exact ⟨⟨[note], rfl⟩, configuration, htransport, ⟨role, .self _⟩, rfl⟩

namespace Provider

theorem atCalls_assumeAll_due {base : Provider} (hops : List Hop)
    (configuration : Option ClientConfiguration) {service : Service σ} {w : World σ}
    {first : Credentials} (h : (base.provide.perform service w).result = .ok first) :
    AtCalls (fun later => (chain base hops configuration).IsDue service w
        ((base.provide.perform service w).events ++ ([loadedEvent first] ++ later)))
      ((assumeAll configuration 0 hops first).perform service
        (base.provide.perform service w).world).events := by
  by_cases hrouted : ∃ c transport, configuration = some c ∧ c.transport = some transport
  · obtain ⟨c, transport, rfl, htransport⟩ := hrouted
    have hturn := atCalls_assumeAll (c.route service transport) 0 hops first
      (base.provide.perform service w).world
    rw [ClientConfiguration.configuration_route htransport] at hturn
    refine hturn.imp ?_
    rintro before _ _ ⟨earlier, a, lead, hcome, rfl, rfl, rfl, hlead⟩
    refine ⟨⟨(base.provide.perform service w).events ++ ([loadedEvent first] ++ lead),
      by simp only [List.append_assoc]⟩, c, htransport, a.caller, ?_, rfl⟩
    refine .intro (.self _) h hcome rfl hcome.stepBefore_eq ?_
    simp only [List.filter_append, hlead]
    rfl
  · refine atCalls_assumeAll_unrouted ?_ 0 hops first service _
    intro c hc
    cases htransport : c.transport with
    | none => rfl
    | some transport => exact absurd ⟨c, transport, hc, htransport⟩ hrouted

/-- Every call is made with the identity that is due to it. -/
theorem atCalls_provide (p : Provider) (service : Service σ) (w : World σ) :
    AtCalls (p.IsDue service w) (p.provide.perform service w).events := by
  induction p with
  | static credentials => exact .of_filter rfl
  | environment given =>
    have hload (env : Environment) :
        ((env.load.perform service w).events).filter Event.isCall = [] := by
      unfold Environment.load
      cases env.credentials <;> rfl
    cases given with
    | none =>
      rw [provide, Run.perform]
      exact .of_filter (hload w.environment)
    | some env =>
      rw [provide]
      exact .of_filter (hload env)
  | webIdentity role configuration => exact role.atCalls_credentials configuration service w
  | chain base hops configuration ih =>
    have hbase : AtCalls ((chain base hops configuration).IsDue service w)
        (base.provide.perform service w).events :=
      ih.imp fun before transport call hdue => hdue.of_base
    change AtCalls _ ((executeFrom base.provide hops configuration).perform service w).events
    cases hresult : (base.provide.perform service w).result with
    | error raised =>
      rw [perform_executeFrom_failed service configuration base.provide hops hresult]
      exact hbase
    | ok first =>
      rw [perform_executeFrom_loaded service configuration base.provide hops hresult]
      refine hbase.append ?_
      have hloaded : AtCalls (fun before => (chain base hops configuration).IsDue service w
          ((base.provide.perform service w).events ++ before)) [loadedEvent first] :=
        .of_filter rfl
      exact hloaded.append (atCalls_assumeAll_due hops configuration hresult)

/-- Every call that a provider makes on a client is made right after the client is created. The
client of a hop signs with the keys of the step just before it in its chain and with the session
token of that step, unless it is empty; the client of a web identity role has no keys. Both go
where the configuration of the chain or of the role says. -/
theorem identity_of_call (service : Service σ) (p : Provider) (w : World σ)
    {before after : List Event} {transport : Transport} {call : Call}
    (hran : (p.provide.perform service w).events = before ++ .called transport call :: after)
    (hkind : transport.kind = .clientPerCall) :
    ∃ earlier arguments configuration,
      before = earlier ++ [.client transport.service arguments] ∧
      configuration.transport = some transport ∧
      arguments.GoTo configuration.region configuration.endpointUrl ∧
      match call.request with
      | .assumeRole _ => ∃ caller,
        p.StepBefore service w configuration before transport call caller ∧
          arguments.SignAs caller
      | .withWebIdentity _ => (∃ role, p.Holds (.webIdentity role configuration)) ∧
          arguments.keys = none := by
  obtain ⟨⟨lead, hlead⟩, configuration, htransport, hmade⟩ :=
    p.atCalls_provide service w before transport call after hran
  rw [Transport.ahead_eq_concat hkind, ← List.append_assoc] at hlead
  have hgoTo := call.configuration.goTo_clientArguments
  refine ⟨_, call.configuration.clientArguments, configuration, hlead, htransport, ?_⟩
  cases hrequest : call.request with
  | assumeRole request =>
    rw [hrequest] at hmade
    obtain ⟨caller, hstep, hconfiguration⟩ := hmade
    rw [hconfiguration] at hgoTo ⊢
    exact ⟨hgoTo, caller, hstep, CallConfiguration.signAs_clientArguments rfl⟩
  | withWebIdentity request =>
    rw [hrequest] at hmade
    obtain ⟨hrole, hconfiguration⟩ := hmade
    rw [hconfiguration] at hgoTo ⊢
    exact ⟨hgoTo, hrole, rfl⟩

end Provider

end

attribute [local instance] FieldRules.lax

/-- The second of two hops on keys without a session token, called with an empty endpoint. -/
theorem Provider.identity_of_call_second :
    let p : Provider := .chain (.static { accessKeyId := "id", secretAccessKey := "secret" })
      [{ roleArn := "a", sessionName := some "s" }, { roleArn := "b", sessionName := some "t" }]
      (some ⟨some .standard, some "r", some ""⟩)
    let w := World.bare "1" (ScriptState.start {})
    let events := (p.provide.perform ScriptState.service w).events
    let before := events.take 7
    let after := events.drop 8
    let call : Call := ⟨.assumeRole ⟨"b", "t", none⟩, {
      caller := some {
        accessKeyId := "ASIA-a"
        secretAccessKey := "secret-a"
        sessionToken := some "token-a"
        expiry := some Script.echoExpiration
        providerName := "AssumeRoleProvider" }
      region := some "r"
      endpointUrl := some "" }⟩
    events = before ++ .called .standard call :: after ∧
      Transport.standard.kind = .clientPerCall ∧
      ∃ earlier arguments configuration,
        before = earlier ++ [.client .standard arguments] ∧
        configuration.transport = some .standard ∧
        arguments.GoTo configuration.region configuration.endpointUrl ∧
        ∃ caller, p.StepBefore ScriptState.service w configuration before .standard call caller ∧
          arguments.SignAs caller := by
  intro p w events before after call
  have hran : events = before ++ .called .standard call :: after := rfl
  exact ⟨hran, rfl, Provider.identity_of_call ScriptState.service p w hran rfl⟩

end RoleChain
