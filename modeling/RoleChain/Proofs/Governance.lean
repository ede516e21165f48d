import RoleChain.LaxFields
import RoleChain.Proofs.Coupling
import RoleChain.Proofs.Errands
import RoleChain.Proofs.ResolutionEffects

/-!
Which configuration governs a call. Profiles stand on top of each other, each resolved under one
configuration and executed under another. A call with a token goes where the configuration says
under which the base was resolved, and a call of a hop where the one says under which the chain is
executed that the hop belongs to. So another configuration in one place, if it is answered alike,
shows in the calls of that place and nowhere else.
-/
namespace RoleChain

variable {σ τ α : Type}

/-! ### Calls one by one -/

/-- The call that a run makes after so many others is right after a past with that many calls. -/
theorem Run.Along.exists_call {right : History → Act → Prop} {fails : Raised → History → Prop}
    {run : Run α} {past : History} {ends : α → History → Prop} (h : run.Along right fails past ends)
    (service : Service σ) (w : World σ) {k : Nat} {transport : Transport} {call : Call}
    (hcall : (run.perform service w).calls[k]? = some (transport, call)) :
    ∃ before : History, before.calls = past.calls + k ∧ right before (.issued transport call) := by
  induction run generalizing past w k with
  | done value => cases hcall
  | raise raised => cases hcall
  | log record next ih => exact ih h.2 w hcall
  | environment next ih => exact ih _ (h _) w hcall
  | settings next ih => exact h.elim
  | file path next ih => exact ih _ (h.2 _) w hcall
  | suffix next ih => exact ih _ (h _).2 _ hcall
  | client name arguments next ih => exact ih _ (h _).2 w hcall
  | call transport' c next ih =>
    cases k with
    | zero =>
      cases hcall
      exact ⟨past, rfl, h.1⟩
    | succ k =>
      obtain ⟨before, hbefore, hright⟩ := ih _ (h.2 _).2 _ hcall
      refine ⟨before, ?_, hright⟩
      rw [hbefore]
      simp only [History.calls]
      omega

/-- What is laid down for a call: the role that it is for, the configuration that governs it, and
whether it is made as somebody. -/
structure Duty where
  roleArn : String
  configuration : Option ClientConfiguration
  isSigned : Bool

def Errand.duty (errand : Errand) : Duty :=
  ⟨errand.roleArn, errand.configuration?, errand.isSigned⟩

/-- Whether a call is for the role and goes where the configuration says, with credentials or
without. -/
structure Duty.IsMet (duty : Duty) (transport : Transport) (call : Call) : Prop where
  roleArn_eq : call.request.roleArn = duty.roleArn
  governed : ∃ configuration, duty.configuration = some configuration ∧
    configuration.transport = some transport ∧
    call.configuration.region = configuration.region ∧
    call.configuration.endpointUrl = configuration.endpointUrl
  isSigned_eq : call.configuration.caller.isSome = duty.isSigned

/-- Calls for the same duty by the same caller are the same if they say the same. -/
theorem Duty.IsMet.call_eq {duty : Duty} {transport transport' : Transport} {call call' : Call}
    (h : duty.IsMet transport call) (h' : duty.IsMet transport' call')
    (hrequest : call.request = call'.request)
    (hcaller : call.configuration.caller = call'.configuration.caller) :
    transport = transport' ∧ call = call' := by
  obtain ⟨configuration, hduty, htransport, hregion, hendpointUrl⟩ := h.governed
  obtain ⟨configuration', hduty', htransport', hregion', hendpointUrl'⟩ := h'.governed
  obtain rfl : configuration = configuration' := Option.some.inj (hduty.symm.trans hduty')
  refine ⟨Option.some.inj (htransport.symm.trans htransport'), ?_⟩
  obtain ⟨request, caller, region, endpointUrl⟩ := call
  obtain ⟨request', caller', region', endpointUrl'⟩ := call'
  simp only [Call.mk.injEq, CallConfiguration.mk.injEq]
  exact ⟨hrequest, hcaller, hregion.trans hregion'.symm, hendpointUrl.trans hendpointUrl'.symm⟩

theorem Errand.Requests.roleArn_eq {errand : Errand} {request : Request}
    (h : errand.Requests request) : request.roleArn = errand.roleArn := by
  cases errand with
  | token role configuration =>
    obtain ⟨name, token, rfl⟩ := h
    rfl
  | hop hop configuration =>
    obtain ⟨name, rfl⟩ := h
    rfl

/-- The calls of a provider meet the duties of its plan, one by one. -/
theorem Provider.isMet_of_call [FieldRules] (p : Provider) (service : Service σ) (w : World σ) {k : Nat}
    {transport : Transport} {call : Call}
    (hcall : (p.provide.perform service w).calls[k]? = some (transport, call)) :
    ∃ duty, (p.plan.map Errand.duty)[k]? = some duty ∧ duty.IsMet transport call := by
  obtain ⟨past, hpast, hkeeps⟩ := (p.along_provide (List.prefix_refl _)).exists_call service w hcall
  have hturn : IsInTurn p.plan past transport call := hkeeps.isNext
  obtain ⟨errand, configuration, herrand, hconfiguration, htransport, hrequest, -, hcaller,
    hsigned⟩ := hturn.due
  have hk : past.calls = k := hpast.trans (Nat.zero_add k)
  refine ⟨errand.duty, ?_, hrequest.roleArn_eq, ⟨configuration, hconfiguration, htransport, ?_, ?_⟩,
    hsigned⟩
  · rw [List.getElem?_map, ← hk, herrand]
    rfl
  · exact congrArg CallConfiguration.region hcaller
  · exact congrArg CallConfiguration.endpointUrl hcaller

/-! ### Profiles on top of each other -/

/-- Profiles on top of each other. One at the bottom has a base of its own; one above another has
it for its base, and finds it under a name in its registry. Each is resolved under one configuration
and executed under another. -/
inductive ProfileTree where
  | bottom (profile : Profile) (registry : Registry) (building executing : ClientConfiguration)
  | above (below : ProfileTree) (name : String) (roles : List Role) (registry : Registry)
      (building executing : ClientConfiguration)

namespace ProfileTree

def executing : ProfileTree → ClientConfiguration
  | bottom _ _ _ executing => executing
  | above _ _ _ _ _ executing => executing

/-- The chain of the profile on top, after those of the profiles below it. -/
def chain : ProfileTree → Run ProviderChain
  | bottom profile registry building _ => profile.resolve registry (some building)
  | above below name roles registry building _ => do
    let c ← below.chain
    Profile.resolve ⟨.named name, roles⟩
      (registry.update name (c.provider (some below.executing))) (some building)

def execute [FieldRules] (tree : ProfileTree) : Run Credentials := do
  let c ← tree.chain
  c.execute (some tree.executing)

end ProfileTree

theorem Ran.calls_eq_nil {ran : Ran σ α} (h : ran.events.filter Event.isCall = []) :
    ran.calls = [] := by
  refine List.filterMap_eq_nil_iff.mpr fun event hevent => ?_
  have hcall := List.filter_eq_nil_iff.mp h event hevent
  cases event with
  | called transport call => exact absurd rfl hcall
  | logged | drew | client => rfl

/-- A profile is resolved without a call, into its hops on top of what its base stands for. -/
theorem Profile.resolve_under (profile : Profile) (registry : Registry)
    (building : ClientConfiguration) (service : Service σ) (w : World σ) :
    let built := (profile.resolve registry (some building)).perform service w
    built.calls = [] ∧ ∀ c, built.result = .ok c →
      profile.base.StandsFor registry building w.nextSuffix c.base ∧ c.hops = profile.hops := by
  intro built
  have hbuilt := profile.perform_resolve registry (some building) service w
  refine ⟨Ran.calls_eq_nil ?_, fun c hc => ?_⟩
  · rw [show built.events = _ from congrArg Ran.events hbuilt]
    exact profile.filter_draws_told _ _
  · have hresult := (congrArg Ran.result hbuilt).symm.trans hc
    rw [← Base.provider?_eq_ok_iff]
    cases hprovider : profile.base.provider? registry building w.nextSuffix with
    | error raised =>
      simp only [ClientConfiguration.chosen, Option.getD_some, hprovider] at hresult
      cases hresult
    | ok base =>
      simp only [ClientConfiguration.chosen, Option.getD_some, hprovider] at hresult
      cases hresult
      exact ⟨rfl, rfl⟩

theorem Ran.calls_andThen_of_nil {β : Type} {ran : Ran σ α} (h : ran.calls = [])
    {next : α → World σ → Ran σ β} (hnext : ∀ value, ran.result = .ok value →
      (next value ran.world).calls = []) : (ran.andThen next).calls = [] := by
  obtain ⟨_ | value, w, events⟩ := ran
  · exact h
  · change (events ++ (next value w).events).filterMap _ = []
    rw [List.filterMap_append]
    exact List.append_eq_nil_iff.mpr ⟨h, hnext value rfl⟩

namespace Base

/-- What is laid down for a base, given the configuration that it is resolved under. -/
def duties (registry : Registry) (building : ClientConfiguration) : Base → List Duty
  | webIdentity arn _ _ => [⟨arn, some building, false⟩]
  | named name => ((registry.get? name).map fun p => p.plan.map Errand.duty).getD []
  | accessKey .. | unsupported _ => []

theorem StandsFor.duties_eq {base : Base} {registry : Registry} {building : ClientConfiguration}
    {drawn : Except Failure String} {p : Provider}
    (h : base.StandsFor registry building drawn p) :
    p.plan.map Errand.duty = base.duties registry building := by
  cases h with
  | named h =>
    rw [duties, h]
    rfl
  | accessKey | declared | unnamed => rfl

end Base

namespace ProfileTree

/-- What is laid down for all calls, those of the profile at the bottom first. -/
def duties : ProfileTree → List Duty
  | bottom profile registry building executing =>
    profile.base.duties registry building ++ profile.roles.map fun role =>
      ⟨role.arn, some executing, true⟩
  | above below _ roles _ _ executing =>
    below.duties ++ roles.map fun role => ⟨role.arn, some executing, true⟩

/-- A chain whose hops are those of a profile has to do what its base has to do, and then a call for
each role. -/
theorem duties_provider {c : ProviderChain} {profile : Profile} (h : c.hops = profile.hops)
    (executing : ClientConfiguration) :
    (c.provider (some executing)).plan.map Errand.duty = c.base.plan.map Errand.duty ++
      profile.roles.map fun role => ⟨role.arn, some executing, true⟩ := by
  rw [ProviderChain.provider, h]
  simp only [Provider.plan, Profile.hops, List.map_append, List.map_map]
  rfl

/-- Profiles are resolved without a call, and what is laid down is what the chain has to do. -/
theorem chain_duties (tree : ProfileTree) (service : Service σ) (w : World σ) :
    let built := tree.chain.perform service w
    built.calls = [] ∧ ∀ c, built.result = .ok c →
      (c.provider (some tree.executing)).plan.map Errand.duty = tree.duties := by
  induction tree generalizing w with
  | bottom profile registry building executing =>
    obtain ⟨hcalls, hresult⟩ := profile.resolve_under registry building service w
    refine ⟨hcalls, fun c hc => ?_⟩
    obtain ⟨hbase, hhops⟩ := hresult c hc
    rw [duties_provider hhops, hbase.duties_eq]
    rfl
  | above below name roles registry building executing ih =>
    obtain ⟨hcalls, hbelow⟩ := ih w
    let resolve (c : ProviderChain) : Run ProviderChain := Profile.resolve ⟨.named name, roles⟩
      (registry.update name (c.provider (some below.executing))) (some building)
    have hresolve (c : ProviderChain) (v : World σ) := Profile.resolve_under ⟨.named name, roles⟩
      (registry.update name (c.provider (some below.executing))) building service v
    change ((below.chain.bind resolve).perform service w).calls = [] ∧
      ∀ c, ((below.chain.bind resolve).perform service w).result = .ok c → _
    rw [Run.perform_bind]
    refine ⟨Ran.calls_andThen_of_nil hcalls fun c _ => (hresolve c _).1, fun c hc => ?_⟩
    obtain ⟨inner, hinner, houter⟩ := Ran.exists_of_andThen_ok hc
    obtain ⟨hbase, hhops⟩ := (hresolve inner _).2 c houter
    rw [duties_provider hhops, hbase.duties_eq, Base.duties, Bindings.get?_update]
    exact congrArg (· ++ _) (hbelow inner hinner)

end ProfileTree

/-! ### Configurations in place of others -/

/-- The services after the state of one has changed. -/
def ServiceName.put (services : ServiceName → σ) (name : ServiceName) (state : σ) :
    ServiceName → σ :=
  fun n => if n = name then state else services n

/-- Transports under two configurations that are answered alike. Wherever the services have come to
stand, as far as their states can be told apart at all, the same request by the same caller is given
the same answer over the one and the other, or is not made over either. -/
def ClientConfiguration.AnsweredAlike [FieldRules] (service : Service σ) (service' : Service τ)
    (states : (ServiceName → σ) → (ServiceName → τ) → Prop)
    (configuration configuration' : ClientConfiguration) : Prop :=
  Option.Rel (fun transport transport' => ∀ request caller services services',
    states services services' →
      let call : Call := ⟨request, configuration.forCaller caller⟩
      let call' : Call := ⟨request, configuration'.forCaller caller⟩
      let exchanged := transport.exchange service call (services transport.service)
      let exchanged' := transport'.exchange service' call' (services' transport'.service)
      (transport.refusal service call (services transport.service)).isSome =
          (transport'.refusal service' call' (services' transport'.service)).isSome ∧
        exchanged.1 = exchanged'.1 ∧
        states (ServiceName.put services transport.service exchanged.2)
          (ServiceName.put services' transport'.service exchanged'.2))
    configuration.transport configuration'.transport

/-- Worlds that differ in their services only, whose states compare. -/
structure World.SameBut (states : (ServiceName → σ) → (ServiceName → τ) → Prop) (w : World σ)
    (v : World τ) : Prop where
  environment_eq : w.environment = v.environment
  files_eq : w.files = v.files
  suffixes_eq : w.suffixes = v.suffixes
  services : states w.services v.services

/-- Runs that are compared by what is requested and by whom. -/
def Coupling.ofStates (service : Service σ) (service' : Service τ)
    (states : (ServiceName → σ) → (ServiceName → τ) → Prop) : Coupling σ τ where
  service := service
  service' := service'
  worlds := World.SameBut states
  calls one other := one.2.request = other.2.request ∧
    one.2.configuration.caller = other.2.configuration.caller
  environment_eq h := h.environment_eq
  files_eq h := h.files_eq

section

variable {service : Service σ} {service' : Service τ}
  {states : (ServiceName → σ) → (ServiceName → τ) → Prop}

theorem World.SameBut.next {w : World σ} {v : World τ} (h : w.SameBut states v) :
    World.SameBut states { w with suffixes := w.suffixes.next.2 }
      { v with suffixes := v.suffixes.next.2 } :=
  ⟨h.environment_eq, h.files_eq, congrArg (fun s => s.next.2) h.suffixes_eq, h.services⟩

theorem Hop.coupled_session (hop : Hop) :
    Run.Coupled (.ofStates service service' states)
      (fun name name' => hop.request name = hop.request name') hop.session hop.session := by
  unfold session
  cases hop.sessionName with
  | some name => exact .done rfl
  | none =>
    intro w v hworlds
    have hdrawn : w.suffixes.next.1 = v.suffixes.next.1 :=
      congrArg (fun s => s.next.1) hworlds.suffixes_eq
    simp only [Run.sessionName, Run.perform, hdrawn]
    refine Ran.Compare.after ?_ rfl rfl
    cases v.suffixes.next.1 with
    | ok suffix => exact ⟨.ok rfl, hworlds.next, .nil⟩
    | error failure => exact Run.Coupled.raise _ _ _ hworlds.next

section

variable [FieldRules]

/-- Transports that are answered alike are both there, and each call compares. -/
theorem ClientConfiguration.AnsweredAlike.send {configuration configuration' : ClientConfiguration}
    (h : configuration.AnsweredAlike service service' states configuration') {transport : Transport}
    (htransport : configuration.transport = some transport) (caller : Option Credentials)
    (request : Request) : ∃ transport', configuration'.transport = some transport' ∧
      Run.Coupled (.ofStates service service' states) (· = ·)
        (transport.send ⟨request, configuration.forCaller caller⟩)
        (transport'.send ⟨request, configuration'.forCaller caller⟩) := by
  cases htransport' : configuration'.transport with
  | none =>
    rw [AnsweredAlike, htransport, htransport'] at h
    cases h
  | some transport' =>
    rw [AnsweredAlike, htransport, htransport'] at h
    cases h with
    | some h =>
      refine ⟨transport', rfl, Transport.coupled_send ⟨rfl, rfl⟩ fun w v hworlds => ?_⟩
      obtain ⟨hrefusal, hanswer, hstates⟩ := h request caller _ _ hworlds.services
      exact ⟨hrefusal, hanswer, hworlds.environment_eq, hworlds.files_eq, hworlds.suffixes_eq,
        hstates⟩

/-- With configurations that are answered alike each step compares. -/
theorem Coupling.steps_ofStates : Coupling.Steps (.ofStates service service' states) (· = ·)
    (ClientConfiguration.AnsweredAlike service service' states) where
  refl _ := rfl
  named h := ⟨congrArg Request.roleArn h, congrArg Request.operation h⟩
  session := Hop.coupled_session
  noTransport h htransport := by
    unfold ClientConfiguration.AnsweredAlike at h
    rw [htransport] at h
    cases htransport' : ClientConfiguration.transport _ with
    | none => rfl
    | some transport' =>
      rw [htransport'] at h
      cases h
  send h htransport hrequest caller := by
    cases hrequest
    exact h.send htransport caller _

end

variable {configurations : ClientConfiguration → ClientConfiguration → Prop}

/-- A base stands for providers that compare, or is refused for the same reason. -/
theorem Base.reconfigured_provider? (base : Base) {registry registry' : Registry}
    {building building' : ClientConfiguration}
    (hregistry : ∀ name, base = .named name →
      Option.Rel (Provider.Reconfigured configurations) (registry.get? name) (registry'.get? name))
    (hbuilding : ∀ arn tokenFile session, base = .webIdentity arn tokenFile session →
      configurations building building') (drawn : Except Failure String) :
    ResultsAlike (Provider.Reconfigured configurations) (base.provider? registry building drawn)
      (base.provider? registry' building' drawn) := by
  cases base with
  | named name =>
    have h := hregistry name rfl
    simp only [provider?]
    cases hprovider : registry.get? name <;> cases hprovider' : registry'.get? name <;>
      rw [hprovider, hprovider'] at h <;> cases h
    · exact .error _
    · next h => exact .ok h
  | accessKey id secret sessionToken => exact .ok (.static rfl)
  | webIdentity arn tokenFile sessionName =>
    have h := hbuilding arn tokenFile sessionName rfl
    cases sessionName with
    | some session => exact .ok (.webIdentity _ h)
    | none =>
      cases drawn with
      | ok suffix => exact .ok (.webIdentity _ h)
      | error failure => exact .error _
  | unsupported value => exact .error _

theorem Profile.coupled_resolve (profile : Profile) {registry registry' : Registry}
    {building building' : ClientConfiguration}
    (h : ∀ drawn, ResultsAlike (Provider.Reconfigured configurations)
      (profile.base.provider? registry building drawn)
      (profile.base.provider? registry' building' drawn)) :
    Run.Coupled (.ofStates service service' states)
      (fun c c' => c.base.Reconfigured configurations c'.base ∧ c.hops = c'.hops)
      (profile.resolve registry (some building)) (profile.resolve registry' (some building')) := by
  intro w v hworlds
  change Ran.Compare _ _ ((profile.resolve registry (some building)).perform service w)
    ((profile.resolve registry' (some building')).perform service' v)
  have hcalls (registry : Registry) (building : ClientConfiguration) {σ : Type}
      (service : Service σ) (w : World σ) :=
    (profile.resolve_under registry building service w).1
  refine ⟨?_, ?_, ?_⟩
  · have hbase := h v.nextSuffix
    have hsuffix : w.nextSuffix = v.nextSuffix :=
      congrArg (fun s => s.stream s.position) hworlds.suffixes_eq
    rw [profile.perform_resolve, profile.perform_resolve, hsuffix]
    change ResultsAlike _ ((profile.base.provider? registry building v.nextSuffix).map _)
      ((profile.base.provider? registry' building' v.nextSuffix).map _)
    generalize profile.base.provider? registry building v.nextSuffix = one at hbase ⊢
    generalize profile.base.provider? registry' building' v.nextSuffix = other at hbase ⊢
    cases hbase with
    | ok h => exact .ok ⟨h, rfl⟩
    | error raised => exact .error raised
  · rw [profile.perform_resolve, profile.perform_resolve]
    refine ⟨hworlds.environment_eq, hworlds.files_eq, ?_, hworlds.services⟩
    exact congrArg (fun s => if profile.base.isUnnamed then s.next.2 else s) hworlds.suffixes_eq
  · rw [hcalls, hcalls]
    exact .nil

end

namespace ProfileTree

/-- Profiles on top of each other in the same way, with configurations that compare. Under which
configuration a profile is resolved is of no account if its base is another profile. -/
inductive Reconfigured (configurations : ClientConfiguration → ClientConfiguration → Prop) :
    ProfileTree → ProfileTree → Prop
  | bottom (profile : Profile) {registry registry' : Registry}
      {building building' executing executing' : ClientConfiguration}
      (hregistry : ∀ name, profile.base = .named name →
        Option.Rel (Provider.Reconfigured configurations) (registry.get? name)
          (registry'.get? name))
      (hbuilding : configurations building building')
      (hexecuting : configurations executing executing') :
      Reconfigured configurations (.bottom profile registry building executing)
        (.bottom profile registry' building' executing')
  | above {below below' : ProfileTree} (h : Reconfigured configurations below below')
      (name : String) (roles : List Role) (registry registry' : Registry)
      (building building' : ClientConfiguration) {executing executing' : ClientConfiguration}
      (hexecuting : configurations executing executing') :
      Reconfigured configurations (.above below name roles registry building executing)
        (.above below' name roles registry' building' executing')

section

variable {service : Service σ} {service' : Service τ}
  {states : (ServiceName → σ) → (ServiceName → τ) → Prop}
  {configurations : ClientConfiguration → ClientConfiguration → Prop} {tree tree' : ProfileTree}

theorem Reconfigured.executing (h : tree.Reconfigured configurations tree') :
    configurations tree.executing tree'.executing := by
  cases h <;> assumption

theorem Reconfigured.chain (h : tree.Reconfigured configurations tree') :
    Run.Coupled (.ofStates service service' states)
      (fun c c' => c.base.Reconfigured configurations c'.base ∧ c.hops = c'.hops)
      tree.chain tree'.chain := by
  induction h with
  | bottom profile hregistry hbuilding hexecuting =>
    exact profile.coupled_resolve
      (profile.base.reconfigured_provider? hregistry fun _ _ _ _ => hbuilding)
  | above h name roles registry registry' building building' hexecuting ih =>
    refine ih.bind fun c c' hchains => ?_
    obtain ⟨base, hops⟩ := c
    obtain ⟨base', hops'⟩ := c'
    obtain ⟨hbase, rfl⟩ := hchains
    refine Profile.coupled_resolve _ (Base.reconfigured_provider? _ ?_ fun _ _ _ h => nomatch h)
    intro name' hname
    cases hname
    rw [Bindings.get?_update, Bindings.get?_update]
    exact .some (.chain hbase hops (.some h.executing))

theorem Reconfigured.coupled_execute [FieldRules] (h : tree.Reconfigured
      (ClientConfiguration.AnsweredAlike service service' states) tree') :
    Run.Coupled (.ofStates service service' states) (· = ·) tree.execute tree'.execute := by
  refine h.chain.bind fun c c' hchains => ?_
  obtain ⟨base, hops⟩ := c
  obtain ⟨base', hops'⟩ := c'
  obtain ⟨hbase, rfl⟩ := hchains
  exact Coupling.steps_ofStates.provide (.chain hbase hops (.some h.executing))

/-- The calls of a tree meet what is laid down for them, one by one. -/
theorem isMet_of_call [FieldRules] (tree : ProfileTree) (service : Service σ) (w : World σ) {k : Nat}
    {transport : Transport} {call : Call}
    (hcall : (tree.execute.perform service w).calls[k]? = some (transport, call)) :
    ∃ duty, tree.duties[k]? = some duty ∧ duty.IsMet transport call := by
  obtain ⟨hcalls, hbuilt⟩ := tree.chain_duties service w
  change ((tree.chain.bind fun c => c.execute (some tree.executing)).perform service
    w).calls[k]? = _ at hcall
  rw [Run.perform_bind] at hcall
  generalize tree.chain.perform service w = built at hcalls hbuilt hcall
  obtain ⟨_ | c, v, events⟩ := built
  · change events.filterMap Event.call? = [] at hcalls
    change (events.filterMap Event.call?)[k]? = _ at hcall
    rw [hcalls] at hcall
    cases hcall
  · change events.filterMap Event.call? = [] at hcalls
    change ((events ++ ((c.execute (some tree.executing)).perform service v).events).filterMap
      Event.call?)[k]? = _ at hcall
    rw [List.filterMap_append, hcalls, List.nil_append] at hcall
    rw [← hbuilt c rfl]
    exact (c.provider (some tree.executing)).isMet_of_call service v hcall

end

/-- Every call is governed by the configuration of the place that it belongs to: a call with a token
goes out without credentials where the configuration says that the base is resolved under, and the
call of a hop with credentials where the one says that its chain is executed under. With other
configurations that are answered alike the end is the same, and so are all calls for which the
configuration is; the others differ in nothing but where they go. -/
theorem execute_governed [FieldRules] (tree : ProfileTree) (service : Service σ) (w : World σ) :
    let ran := tree.execute.perform service w
    (∀ (k : Nat) (transport : Transport) (call : Call), ran.calls[k]? = some (transport, call) →
      ∃ duty, tree.duties[k]? = some duty ∧ duty.IsMet transport call) ∧
    ∀ (τ : Type) (service' : Service τ) (states : (ServiceName → σ) → (ServiceName → τ) → Prop)
      (tree' : ProfileTree) (w' : World τ),
      tree.Reconfigured (ClientConfiguration.AnsweredAlike service service' states) tree' →
      w.SameBut states w' →
        let ran' := tree'.execute.perform service' w'
        ran.result = ran'.result ∧ ran.calls.length = ran'.calls.length ∧
        ∀ (k : Nat) (transport transport' : Transport) (call call' : Call),
          ran.calls[k]? = some (transport, call) → ran'.calls[k]? = some (transport', call') →
          call.request = call'.request ∧
            call.configuration.caller = call'.configuration.caller ∧
            (tree.duties[k]? = tree'.duties[k]? → transport = transport' ∧ call = call') := by
  intro ran
  refine ⟨fun k transport call => tree.isMet_of_call service w, ?_⟩
  intro τ service' states tree' w' htree hworlds ran'
  have hcoupled : Run.Coupled (.ofStates service service' states) (· = ·)
      tree.execute tree'.execute := htree.coupled_execute
  obtain ⟨hresult, -, hcalls⟩ := hcoupled w w' hworlds
  refine ⟨ResultsAlike.eq_iff.mp hresult, hcalls.length_eq, ?_⟩
  intro k transport transport' call call' hcall hcall'
  obtain ⟨hk, hcallAt⟩ := List.getElem?_eq_some_iff.mp hcall
  obtain ⟨hk', hcallAt'⟩ := List.getElem?_eq_some_iff.mp hcall'
  have hcompared : (Coupling.ofStates service service' states).calls ran.calls[k] ran'.calls[k] :=
    hcalls.get hk hk'
  rw [hcallAt, hcallAt'] at hcompared
  obtain ⟨hrequest, hcaller⟩ := hcompared
  refine ⟨hrequest, hcaller, fun hduties => ?_⟩
  -- Both calls meet what is laid down for their position; where that is the same, so are they.
  obtain ⟨duty, hduty, hmet⟩ := tree.isMet_of_call service w hcall
  obtain ⟨duty', hduty', hmet'⟩ := tree'.isMet_of_call service' w' hcall'
  obtain rfl : duty = duty' := Option.some.inj (hduty.symm.trans (hduties.trans hduty'))
  exact hmet.call_eq hmet' hrequest hcaller

end ProfileTree

attribute [local instance] FieldRules.lax

/-- The hops of the lower of two chains go elsewhere. The call with a token does not, and neither
does the hop of the chain on top. -/
theorem ProfileTree.execute_governed_below :
    let service : Service Unit := {
      refusal := fun _ _ => none
      answer := fun _ call => (.data (Script.echoed call.request.roleArn), ()) }
    let here : ClientConfiguration := ⟨some ⟨.standard, .direct⟩, some "r", none⟩
    let there : ClientConfiguration := ⟨some ⟨.named "t", .clientPerCall⟩, some "s", none⟩
    let tree (executing : ClientConfiguration) : ProfileTree :=
      .above (.bottom ⟨.webIdentity "web" "token" none, [{ arn := "a" }]⟩ .standard here executing)
        "below" [{ arn := "b" }] .standard here here
    let w : World Unit := { World.bare "1" () with files := ⟨fun _ => .ok [0x74]⟩ }
    let ran (executing : ClientConfiguration) := (tree executing).execute.perform service w
    (ran here).result = (ran there).result ∧
      ((ran here).calls.map Prod.fst).map Transport.service = [.standard, .standard, .standard] ∧
      ((ran there).calls.map Prod.fst).map Transport.service =
        [.standard, .named "t", .standard] := by
  intro service here there tree w ran
  have hsame : here.AnsweredAlike service service (fun _ _ => True) here :=
    .some fun _ _ _ _ _ => ⟨rfl, rfl, trivial⟩
  have hother : here.AnsweredAlike service service (fun _ _ => True) there :=
    .some fun _ _ _ _ _ => ⟨rfl, rfl, trivial⟩
  have htree : (tree here).Reconfigured
      (ClientConfiguration.AnsweredAlike service service fun _ _ => True) (tree there) := by
    refine .above (.bottom _ ?_ hsame hother) _ _ _ _ _ _ hsame
    intro name h
    cases h
  have hgoverned := ((tree here).execute_governed service w).2 Unit service (fun _ _ => True)
    (tree there) w htree ⟨rfl, rfl, rfl, trivial⟩
  refine ⟨hgoverned.1, ?_, ?_⟩
  · decide +kernel
  · decide +kernel

end RoleChain
