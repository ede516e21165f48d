import RoleChain.LaxFields
import RoleChain.Proofs.Exchange
import RoleChain.Proofs.HopSecrecy
import RoleChain.Resolution
import RoleChain.Sts.Script

/-!
Secrecy. Two runs whose inputs differ in secrets only, and whose calls are answered alike, leave
the same records, write their providers and credentials in the same way, and fail in the same way
if they fail. Secrets go into calls and into the secret fields of what is returned, and nowhere
else.
-/
namespace RoleChain

/-- Providers of the same shape that hold the same values up to secrets. -/
def Provider.Alike : Provider → Provider → Prop :=
  Provider.Like Credentials.Alike Environment.Alike (· = ·)

/-- The written forms of a provider and of all that it is made of. -/
def Provider.texts : Provider → List String
  | chain base hops configuration =>
    (chain base hops configuration).text :: chainText base.text hops.length ::
      (hops.map Hop.text ++ base.texts)
  | provider => [provider.text]

namespace Provider.Alike

variable {provider other : Provider}

theorem refl (provider : Provider) : provider.Alike provider := by
  induction provider with
  | static c => exact .static (.refl c)
  | environment given =>
    cases given with
    | none => exact .process
    | some env => exact .given (.refl env)
  | webIdentity role configuration => exact .webIdentity role rfl
  | chain base hops configuration ih =>
    cases configuration with
    | none => exact .chain ih hops .none
    | some configuration => exact .chain ih hops (.some rfl)

theorem text_eq (h : provider.Alike other) : provider.text = other.text := by
  induction h with
  | static h => exact congrArg (fun t => "StaticCredentialsProvider(" ++ t ++ ")") h.text_eq
  | given h => rfl
  | process => rfl
  | webIdentity role h => rfl
  | chain h hops hconfiguration ih =>
    exact congrArg (fun t => "ProfileChainCredentialsProvider(" ++ chainText t hops.length ++ ")")
      ih

theorem texts_eq (h : provider.Alike other) : provider.texts = other.texts := by
  induction h with
  | static h => exact congrArg (fun t => [t]) (text_eq (.static h))
  | given h => rfl
  | process => rfl
  | webIdentity role h => rfl
  | chain h hops hconfiguration ih =>
    have htext := text_eq (.chain h hops hconfiguration)
    have hbase := text_eq h
    unfold texts
    rw [htext, hbase, ih]

end Provider.Alike

structure ProviderChain.Alike (c d : ProviderChain) : Prop where
  base : c.base.Alike d.base
  hops_eq : c.hops = d.hops

/-- The written forms of a chain and of all that it is made of. -/
def ProviderChain.texts (c : ProviderChain) : List String :=
  c.text :: (c.hops.map Hop.text ++ c.base.texts)

theorem ProviderChain.Alike.texts_eq {c d : ProviderChain} (h : c.Alike d) : c.texts = d.texts := by
  simp only [texts, text, h.base.text_eq, h.base.texts_eq, h.hops_eq]

/-- The same base, or keys with the same id. -/
inductive Base.Alike : Base → Base → Prop
  | same (base : Base) : Alike base base
  | accessKey (id secret secret' : String) (sessionToken sessionToken' : Option String) :
      Alike (.accessKey id secret sessionToken) (.accessKey id secret' sessionToken')

theorem Base.Alike.text_eq {base other : Base} (h : base.Alike other) : base.text = other.text := by
  cases h with
  | same => rfl
  | accessKey => rfl

structure Profile.Alike (profile other : Profile) : Prop where
  base : profile.base.Alike other.base
  roles_eq : profile.roles = other.roles

/-- The same names, with providers that are alike. -/
def Registry.Alike (registry other : Registry) : Prop :=
  ∀ name, Option.Rel Provider.Alike (registry.get? name) (other.get? name)

theorem Registry.Alike.refl (registry : Registry) : registry.Alike registry := by
  intro name
  cases registry.get? name with
  | none => exact .none
  | some provider => exact .some (.refl provider)

theorem Registry.Alike.texts_eq {registry other : Registry} (h : registry.Alike other)
    (name : String) :
    (registry.get? name).map Provider.texts = (other.get? name).map Provider.texts := by
  have hname := h name
  generalize registry.get? name = found at hname ⊢
  generalize other.get? name = found' at hname ⊢
  cases hname with
  | none => rfl
  | some h => exact congrArg some h.texts_eq

section

variable [FieldRules]

theorem ProviderChain.Alike.execute {c d : ProviderChain} (h : c.Alike d)
    (configuration : Option ClientConfiguration) :
    (c.execute configuration).Alike Credentials.Alike (d.execute configuration) := by
  have hconfiguration : Option.Rel (· = ·) configuration configuration := by
    cases configuration with
    | none => exact .none
    | some configuration => exact .some rfl
  unfold ProviderChain.execute
  rw [h.hops_eq]
  exact Likeness.secrecy_lawful.executeFrom (Likeness.secrecy_lawful.provide h.base)
    hconfiguration d.hops

theorem Base.resolve_alike {base other : Base} (h : base.Alike other)
    {registry registry' : Registry} (hregistry : registry.Alike registry')
    (configuration : ClientConfiguration) :
    (base.resolve registry configuration).Alike Provider.Alike
      (other.resolve registry' configuration) := by
  cases h with
  | accessKey id secret secret' token token' => exact .done (.static ⟨rfl, rfl, rfl⟩)
  | same =>
    cases base with
    | named name =>
      have hname := hregistry name
      simp only [resolve]
      generalize registry.get? name = found at hname ⊢
      generalize registry'.get? name = found' at hname ⊢
      cases hname with
      | some h => exact .done h
      | none => exact .raise _
    | accessKey id secret token => exact .done (.static ⟨rfl, rfl, rfl⟩)
    | webIdentity arn tokenFile sessionName =>
      cases sessionName with
      | some name => exact .done (.webIdentity _ rfl)
      | none =>
        refine (Run.sessionName_alike _ _).bind ?_
        rintro name _ rfl
        exact .done (.webIdentity _ rfl)
    | unsupported value => exact .raise _

theorem ClientConfiguration.orSettings_alike (given : Option ClientConfiguration) :
    (orSettings given).Alike (· = ·) (orSettings given) := by
  cases given with
  | some configuration => exact .done rfl
  | none => exact .settings fun _ => .done rfl

theorem logRoles_alike (roles : List Role) :
    (logRoles roles).Alike (fun _ _ => True) (logRoles roles) := by
  induction roles with
  | nil => exact .done trivial
  | cons role roles ih => exact .log _ ih

theorem Profile.resolve_alike {profile other : Profile} (h : profile.Alike other)
    {registry registry' : Registry} (hregistry : registry.Alike registry')
    (configuration : Option ClientConfiguration) :
    (profile.resolve registry configuration).Alike ProviderChain.Alike
      (other.resolve registry' configuration) := by
  unfold resolve
  rw [h.base.text_eq, h.roles_eq]
  refine (ClientConfiguration.orSettings_alike configuration).bind ?_
  rintro configuration _ rfl
  refine (Base.resolve_alike h.base hregistry configuration).bind fun base base' hbase => ?_
  have hchain : Run.Alike ProviderChain.Alike
      (.done ⟨base, other.roles.map Hop.ofRole⟩) (.done ⟨base', other.roles.map Hop.ofRole⟩) :=
    .done ⟨hbase, rfl⟩
  exact .log _ ((logRoles_alike other.roles).bind fun _ _ _ => hchain)

end

theorem Run.record_asksNothing (level : Level) (logger message : String) :
    (Run.record level logger message).AsksNothing := fun _ _ _ => rfl

theorem Run.sessionName_asksNothing (purpose : String) :
    (Run.sessionName purpose).AsksNothing := by
  intro σ service w
  simp only [Run.sessionName, Run.heard]
  split <;> rfl

theorem logRoles_asksNothing (roles : List Role) : (logRoles roles).AsksNothing := by
  induction roles with
  | nil => exact fun _ _ _ => rfl
  | cons role roles ih => exact (Run.record_asksNothing _ _ _).bind fun _ => ih

section

variable (registry : Registry)

theorem Base.resolve_asksNothing (base : Base) (configuration : ClientConfiguration) :
    (base.resolve registry configuration).AsksNothing := by
  cases base with
  | named name =>
    simp only [resolve]
    cases registry.get? name <;> exact fun _ _ _ => rfl
  | accessKey id secret token => exact fun _ _ _ => rfl
  | webIdentity arn tokenFile sessionName =>
    cases sessionName with
    | some name => exact fun _ _ _ => rfl
    | none => exact (Run.sessionName_asksNothing _).bind fun _ _ _ _ => rfl
  | unsupported value => exact fun _ _ _ => rfl

theorem Profile.resolve_asksNothing (profile : Profile)
    (configuration : Option ClientConfiguration) :
    (profile.resolve registry configuration).AsksNothing := by
  have hsettings : (ClientConfiguration.orSettings configuration).AsksNothing := by
    cases configuration <;> exact fun _ _ _ => rfl
  refine hsettings.bind fun configuration => ?_
  refine (profile.base.resolve_asksNothing registry configuration).bind fun base => ?_
  refine (Run.record_asksNothing _ _ _).bind fun _ => ?_
  exact (logRoles_asksNothing _).bind fun _ _ _ _ => rfl

end

variable {σ τ : Type}

/-- Whatever is seen when a chain is built and executed is seen again when other secrets are in
their places. Between the two steps the world may change, as long as the two worlds stay alike and
the services answer call for call alike. -/
theorem Profile.secrets_unseen [FieldRules] (service : Service σ) (service' : Service τ)
    {profile profile' : Profile} {registry registry' : Registry} {w : World σ} {w' : World τ}
    (hprofile : profile.Alike profile') (hregistry : registry.Alike registry')
    (hworld : w.Alike w') (building under : Option ClientConfiguration) :
    let built := (profile.resolve registry building).perform service w
    let built' := (profile'.resolve registry' building).perform service' w'
    built.Alike (fun c c' => c.texts = c'.texts) built' ∧
    (∀ name, (registry.get? name).map Provider.texts = (registry'.get? name).map Provider.texts) ∧
    ∀ c c' (v : World σ) (v' : World τ), built.result = .ok c → built'.result = .ok c' →
      v.Alike v' →
      HeardAlike ((c.execute under).heard service v) ((c'.execute under).heard service' v') →
      ((c.execute under).perform service v).Alike (fun d d' => d.Alike d' ∧ d.text = d'.text)
        ((c'.execute under).perform service' v') := by
  intro built built'
  -- Building asks no service, so it needs no assumption on what services say.
  have hbuilt : built.Alike ProviderChain.Alike built' := by
    refine (Profile.resolve_alike hprofile hregistry building).perform hworld ?_
    rw [Profile.resolve_asksNothing]
    exact fun p hp => absurd hp List.not_mem_nil
  refine ⟨hbuilt.mono fun _ _ h => h.texts_eq, hregistry.texts_eq, ?_⟩
  intro c c' v v' hc hc' hexecuting hheard
  have hchains : c.Alike c' := by
    have hresults := hbuilt.result
    rw [hc, hc'] at hresults
    exact hresults.of_ok
  exact ((hchains.execute under).perform hexecuting hheard).mono fun _ _ h => ⟨h, h.text_eq⟩

attribute [local instance] FieldRules.lax

/-- Keys and answers that differ in their secrets. -/
theorem Profile.secrets_unseen_keys :
    let configuration : ClientConfiguration := { transport := some ⟨.standard, .direct⟩ }
    let profile (secret : String) : Profile := ⟨.accessKey "id" secret none, [{ arn := "a" }]⟩
    let answer (secret : String) : Datum := .mapping [("Credentials", .mapping [
      ("AccessKeyId", .text "ASIA"), ("SecretAccessKey", .text secret),
      ("SessionToken", .text secret), ("Expiration", .moment Script.echoExpiration)])]
    let w (secret : String) := World.bare "1"
      (ScriptState.start { default := .always (.respond (answer secret)) })
    let built (secret : String) :=
      ((profile secret).resolve .standard (some configuration)).perform ScriptState.service
        (w secret)
    let ran (c : ProviderChain) (secret : String) :=
      (c.execute (some configuration)).perform ScriptState.service (w secret)
    let heard (c : ProviderChain) (secret : String) :=
      (c.execute (some configuration)).heard ScriptState.service (w secret)
    (profile "s").Alike (profile "t") ∧ Registry.Alike .standard .standard ∧
    (w "s").Alike (w "t") ∧
    ∃ c c', (built "s").result = .ok c ∧ (built "t").result = .ok c' ∧
      HeardAlike (heard c "s") (heard c' "t") ∧
      (ran c "s").Alike (fun d d' => d.Alike d' ∧ d.text = d'.text) (ran c' "t") := by
  intro configuration profile answer w built ran heard
  have hprofile : (profile "s").Alike (profile "t") := ⟨.accessKey _ _ _ _ _, rfl⟩
  have hregistry := Registry.Alike.refl .standard
  have hworld : (w "s").Alike (w "t") := ⟨.refl _, .refl _, rfl, rfl⟩
  let chain (secret : String) : ProviderChain :=
    ⟨.static { accessKeyId := "id", secretAccessKey := secret, providerName := "ProfileFile" },
      [{ roleArn := "a" }]⟩
  have hblocks : IssuedCredentials.BlocksAlike (.mapping [("AccessKeyId", .text "ASIA"),
      ("SecretAccessKey", .text "s"), ("SessionToken", .text "s"),
      ("Expiration", .moment Script.echoExpiration)]) (.mapping [("AccessKeyId", .text "ASIA"),
      ("SecretAccessKey", .text "t"), ("SessionToken", .text "t"),
      ("Expiration", .moment Script.echoExpiration)]) := by
    have htexts : Datum.BothTexts (.text "s") (.text "t") := ⟨⟨"s", rfl⟩, "t", rfl⟩
    refine .mapping (.cons ⟨rfl, Or.inl rfl⟩ (.cons ⟨rfl, Or.inr ⟨?_, htexts⟩⟩
      (.cons ⟨rfl, Or.inr ⟨?_, htexts⟩⟩ (.cons ⟨rfl, Or.inl rfl⟩ .nil))))
    · decide
    · decide
  have hanswers : Response.AnswersAlike (answer "s") (answer "t") :=
    .mapping (.cons ⟨rfl, Or.inr ⟨by decide, hblocks⟩⟩ .nil)
  have hheard : HeardAlike (heard (chain "s") "s") (heard (chain "t") "t") := by
    intro p hp
    have hfirst : p = (.reply (.data (answer "s")), .reply (.data (answer "t"))) :=
      List.mem_singleton.mp hp
    rw [hfirst]
    exact .reply (.data hanswers)
  refine ⟨hprofile, hregistry, hworld, chain "s", chain "t", rfl, rfl, hheard, ?_⟩
  exact (Profile.secrets_unseen ScriptState.service ScriptState.service hprofile hregistry hworld
    (some configuration) (some configuration)).2.2 _ _ _ _ rfl rfl hworld hheard

end RoleChain
