import RoleChain.Proofs.ResolutionLog

/-!
What a resolution does besides its result. It looks at the settings if no configuration is given,
and at one suffix if a base leaves the name of its session open. It looks at nothing else, so
whatever happens to variables, files and services may as well happen after it. A refused profile
leaves no record; of the settings that were looked at a reader keeps the memory.
-/
namespace RoleChain

variable {σ τ : Type}

/-- Whether a name is made for the session of a base when the base is resolved. -/
def Base.isUnnamed : Base → Bool
  | webIdentity _ _ none => true
  | named _ | accessKey .. | webIdentity _ _ (some _) | unsupported _ => false

/-- The configuration for a base: the given one, or the one that the settings give. -/
def ClientConfiguration.chosen (given : Option ClientConfiguration) (settings : Settings) :
    ClientConfiguration :=
  given.getD ⟨some .standard, settings.region, settings.endpointUrl⟩

namespace World

def nextSuffix (w : World σ) : Except Failure String := w.suffixes.stream w.suffixes.position

/-- The world after the settings have been looked at for want of a configuration. -/
def afterChoice (w : World σ) (given : Option ClientConfiguration) : World σ :=
  { w with settings := if given.isSome then w.settings else w.settings.read.2 }

/-- The world after the name of a session has been made, if it had to be. -/
def afterNaming (w : World σ) (base : Base) : World σ :=
  { w with suffixes := if base.isUnnamed then w.suffixes.next.2 else w.suffixes }

def afterResolving (w : World σ) (base : Base) (given : Option ClientConfiguration) : World σ :=
  (w.afterChoice given).afterNaming base

/-- The world with other variables, files and services. -/
def rearranged (w : World σ) (environment : Environment) (files : Files)
    (services : ServiceName → τ) : World τ :=
  ⟨environment, files, w.settings, w.suffixes, services⟩

end World

/-- The draw that a base makes. -/
def Base.draws (base : Base) (drawn : Except Failure String) : List Event :=
  if base.isUnnamed then [.drew drawn] else []

/-- The provider that a base comes to, given the suffix that is next. -/
def Base.provider? (base : Base) (registry : Registry) (under : ClientConfiguration)
    (drawn : Except Failure String) : Except Raised Provider :=
  match base with
  | named name =>
    match registry.get? name with
    | some provider => .ok provider
    | none => .error (Failure.unknownSource name).alone
  | accessKey id secret sessionToken =>
    .ok (.static ⟨id, secret, sessionToken, none, Base.profileProviderName⟩)
  | webIdentity arn tokenFile (some session) =>
    .ok (.webIdentity ⟨.ofString tokenFile, arn, session⟩ under)
  | webIdentity arn tokenFile none =>
    match drawn with
    | .ok suffix => .ok (.webIdentity ⟨.ofString tokenFile, arn,
        SessionName.withSuffix SessionName.webIdentityPurpose suffix⟩ under)
    | .error failure => .error failure.alone
  | unsupported value => .error (Failure.unsupportedBase value).alone

theorem ClientConfiguration.perform_orSettings (given : Option ClientConfiguration)
    (service : Service σ) (w : World σ) :
    (orSettings given).perform service w =
      ⟨.ok (chosen given w.settings.read.1), w.afterChoice given, []⟩ := by
  cases given <;> rfl

theorem Base.perform_resolve (base : Base) (registry : Registry) (under : ClientConfiguration)
    (service : Service σ) (w : World σ) :
    (base.resolve registry under).perform service w =
      ⟨base.provider? registry under w.nextSuffix, w.afterNaming base,
        base.draws w.nextSuffix⟩ := by
  cases base with
  | named name =>
    simp only [resolve, provider?]
    cases registry.get? name <;> rfl
  | accessKey id secret sessionToken => rfl
  | webIdentity arn tokenFile sessionName =>
    cases sessionName with
    | some session => rfl
    | none =>
      simp only [resolve, provider?, Run.sessionName, bind, Run.bind, Run.perform, World.nextSuffix,
        SuffixSource.next]
      cases w.suffixes.stream w.suffixes.position <;> rfl
  | unsupported value => rfl

namespace Profile

/-- The hops of the roles: one for each, in order, and with the same names. -/
def hops (profile : Profile) : List Hop :=
  profile.roles.map fun role => ⟨role.arn, role.externalId, role.sessionName⟩

/-- What is written of a profile that resolves; of any other nothing is. -/
def told {α : Type} (profile : Profile) : Except Raised α → List Event
  | .ok _ => profile.log.map Event.logged
  | .error _ => []

/-- A resolution is fixed by the settings and the next suffix. -/
theorem perform_resolve (profile : Profile) (registry : Registry)
    (given : Option ClientConfiguration) (service : Service σ) (w : World σ) :
    let provider := profile.base.provider? registry
      (ClientConfiguration.chosen given w.settings.read.1) w.nextSuffix
    (profile.resolve registry given).perform service w =
      ⟨provider.map fun base => ⟨base, profile.hops⟩, w.afterResolving profile.base given,
        profile.base.draws w.nextSuffix ++ profile.told provider⟩ := by
  intro provider
  let finish (base : Provider) : Run ProviderChain :=
    .log profile.base.record ((logRoles profile.roles).bind fun _ =>
      .done ⟨base, profile.roles.map Hop.ofRole⟩)
  have hfinish (base : Provider) (v : World σ) : (finish base).perform service v =
      ⟨.ok ⟨base, profile.hops⟩, v, profile.log.map Event.logged⟩ := by
    change (((logRoles profile.roles).bind _).perform service v).after _ = _
    rw [Run.perform_bind, perform_logRoles, Ran.andThen_ok]
    simp only [Run.perform, List.append_nil, Ran.after, log, List.map_cons, List.map_map]
    rfl
  have hbase : (profile.base.resolve registry
        (ClientConfiguration.chosen given w.settings.read.1)).perform service (w.afterChoice given) =
      ⟨provider, w.afterResolving profile.base given, profile.base.draws w.nextSuffix⟩ :=
    Base.perform_resolve _ _ _ _ _
  change ((ClientConfiguration.orSettings given).bind fun configuration =>
    (profile.base.resolve registry configuration).bind finish).perform service w = _
  rw [Run.perform_bind, ClientConfiguration.perform_orSettings, Ran.andThen_ok, Run.perform_bind,
    hbase]
  cases provider with
  | error raised =>
    simp only [Ran.andThen_error, told, List.append_nil, List.nil_append]
    rfl
  | ok base =>
    simp only [Ran.andThen_ok, hfinish, told, List.nil_append]
    rfl

end Profile

/-! ### What a base comes to -/

namespace Base

/-- A base stands for a provider, given the suffix that is next. -/
inductive StandsFor (registry : Registry) (under : ClientConfiguration)
    (drawn : Except Failure String) : Base → Provider → Prop
  | named {name : String} {provider : Provider} (h : registry.get? name = some provider) :
      StandsFor registry under drawn (.named name) provider
  | accessKey (id secret : String) (sessionToken : Option String) :
      StandsFor registry under drawn (.accessKey id secret sessionToken)
        (.static { accessKeyId := id, secretAccessKey := secret, sessionToken := sessionToken,
                   expiry := none, providerName := "ProfileFile" })
  | declared (arn tokenFile session : String) :
      StandsFor registry under drawn (.webIdentity arn tokenFile (some session))
        (.webIdentity ⟨.ofString tokenFile, arn, session⟩ under)
  | unnamed (arn tokenFile : String) {suffix : String} (h : drawn = .ok suffix) :
      StandsFor registry under drawn (.webIdentity arn tokenFile none)
        (.webIdentity ⟨.ofString tokenFile, arn,
          SessionName.withSuffix "web-identity-token-profile" suffix⟩ under)

/-- A base stands for nothing, and what is said of it. -/
inductive IsRefused (registry : Registry) (drawn : Except Failure String) : Base → Raised → Prop
  | unknown {name : String} (h : registry.get? name = none) :
      IsRefused registry drawn (.named name) (Failure.unknownSource name).alone
  | unsupported (value : Datum) :
      IsRefused registry drawn (.unsupported value) (Failure.unsupportedBase value).alone
  | unnamed (arn tokenFile : String) {failure : Failure} (h : drawn = .error failure) :
      IsRefused registry drawn (.webIdentity arn tokenFile none) failure.alone

section

variable (registry : Registry) (under : ClientConfiguration) (drawn : Except Failure String)

theorem provider?_eq_ok_iff (base : Base) (provider : Provider) :
    base.provider? registry under drawn = .ok provider ↔
      base.StandsFor registry under drawn provider := by
  constructor
  · intro h
    cases base with
    | named name =>
      cases hget : registry.get? name <;> simp only [provider?, hget] at h <;> cases h
      exact .named hget
    | accessKey id secret sessionToken =>
      cases h
      exact .accessKey id secret sessionToken
    | webIdentity arn tokenFile sessionName =>
      cases sessionName with
      | some session =>
        cases h
        exact .declared arn tokenFile session
      | none =>
        cases drawn with
        | error failure => cases h
        | ok suffix =>
          cases h
          exact .unnamed arn tokenFile rfl
    | unsupported value => cases h
  · intro h
    cases h with
    | named h => simp only [provider?, h]
    | accessKey | declared => rfl
    | unnamed arn tokenFile h =>
      rw [h]
      rfl

theorem provider?_eq_error_iff (base : Base) (raised : Raised) :
    base.provider? registry under drawn = .error raised ↔
      base.IsRefused registry drawn raised := by
  constructor
  · intro h
    cases base with
    | named name =>
      cases hget : registry.get? name <;> simp only [provider?, hget] at h <;> cases h
      exact .unknown hget
    | accessKey id secret sessionToken => cases h
    | webIdentity arn tokenFile sessionName =>
      cases sessionName with
      | some session => cases h
      | none =>
        cases drawn with
        | ok suffix => cases h
        | error failure =>
          cases h
          exact .unnamed arn tokenFile rfl
    | unsupported value =>
      cases h
      exact .unsupported value
  · intro h
    cases h with
    | unknown h => simp only [provider?, h]
    | unsupported => rfl
    | unnamed arn tokenFile h =>
      rw [h]
      rfl

end

end Base

namespace Profile

theorem filter_draws_told {α : Type} (profile : Profile) (drawn : Except Failure String)
    (result : Except Raised α) :
    (profile.base.draws drawn ++ profile.told result).filter Event.isCall = [] := by
  have hlog : (profile.log.map Event.logged).filter Event.isCall = [] := by
    rw [List.filter_eq_nil_iff]
    intro event hevent
    obtain ⟨record, -, rfl⟩ := List.mem_map.mp hevent
    exact Bool.false_ne_true
  rw [List.filter_append]
  cases hunnamed : profile.base.isUnnamed <;> cases result <;>
    simp [Base.draws, hunnamed, told, hlog, Event.isCall]

/-- Resolution is all or nothing. It makes no call; the one thing it may use up is a suffix, and the
one thing it may leave is that settings are remembered. A profile that resolves has a hop for each of
its roles; of one that is refused nothing is written. Variables, files and services may be other ones
by the time of the resolution: nothing comes of it, and they stay as they are. -/
theorem resolve_effects (profile : Profile) (registry : Registry)
    (given : Option ClientConfiguration) (service : Service σ) (service' : Service τ) (w : World σ)
    (environment : Environment) (files : Files) (services : ServiceName → τ) :
    let run := profile.resolve registry given
    let built := run.perform service w
    let under := given.getD ⟨some .standard, w.settings.read.1.region, w.settings.read.1.endpointUrl⟩
    (∀ c, built.result = .ok c ↔
      profile.base.StandsFor registry under w.nextSuffix c.base ∧
      c.hops = profile.roles.map fun role => ⟨role.arn, role.externalId, role.sessionName⟩) ∧
    (∀ raised, built.result = .error raised ↔
      profile.base.IsRefused registry w.nextSuffix raised) ∧
    built.events = profile.base.draws w.nextSuffix ++ profile.told built.result ∧
    built.events.filter Event.isCall = [] ∧
    built.world = { w with
      settings := if given.isSome then w.settings else w.settings.read.2
      suffixes := if profile.base.isUnnamed then w.suffixes.next.2 else w.suffixes } ∧
    run.perform service' (w.rearranged environment files services) =
      ⟨built.result, built.world.rearranged environment files services, built.events⟩ := by
  intro run built under
  let provider := profile.base.provider? registry under w.nextSuffix
  -- The one equation that says all of a resolution; each part is read off it.
  have hbuilt : built = ⟨provider.map fun base => ⟨base, profile.hops⟩,
      w.afterResolving profile.base given,
      profile.base.draws w.nextSuffix ++ profile.told provider⟩ :=
    profile.perform_resolve registry given service w
  have hresult : built.result = provider.map fun base => ⟨base, profile.hops⟩ :=
    congrArg Ran.result hbuilt
  have hevents : built.events = profile.base.draws w.nextSuffix ++ profile.told built.result := by
    rw [hresult, hbuilt]
    cases provider <;> rfl
  refine ⟨fun c => ?_, fun raised => ?_, hevents, ?_, ?_, ?_⟩
  · rw [hresult, ← Base.provider?_eq_ok_iff]
    obtain ⟨base, hops⟩ := c
    constructor
    · intro h
      cases hprovider : provider with
      | error raised =>
        rw [hprovider] at h
        cases h
      | ok base' =>
        rw [hprovider] at h
        cases h
        exact ⟨hprovider, rfl⟩
    · rintro ⟨hbase, rfl⟩
      have hprovider : provider = .ok base := hbase
      rw [hprovider]
      rfl
  · rw [hresult, ← Base.provider?_eq_error_iff registry under]
    change _ ↔ provider = .error raised
    cases provider with
    | error raised' => exact ⟨fun h => by cases h; rfl, fun h => by cases h; rfl⟩
    | ok base => exact ⟨fun h => (by cases h), fun h => (by cases h)⟩
  · rw [hevents, filter_draws_told]
  · rw [hbuilt]
    rfl
  · rw [hbuilt]
    exact profile.perform_resolve registry given service'
      (w.rearranged environment files services)

/-- A refused profile, with no configuration given: readers remember the settings that were looked
at, and are told them after others have been put in force. -/
theorem resolve_remembers :
    let profile : Profile := ⟨.named "x", []⟩
    let w := World.bare "1" (ScriptState.start {})
    let built := (profile.resolve .standard none).perform ScriptState.service w
    let later : Settings := ⟨some "r", none, []⟩
    built.result = .error (Failure.unknownSource "x").alone ∧ built.world ≠ w ∧
      (built.world.settings.assign later).read.1 = ⟨none, none, []⟩ ∧
      (w.settings.assign later).read.1 = later := by
  refine ⟨rfl, fun h => ?_, rfl, rfl⟩
  have hremembered := congrArg (fun world => world.settings.remembered) h
  cases hremembered

end Profile

end RoleChain
