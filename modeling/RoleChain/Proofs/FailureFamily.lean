import RoleChain.LaxFields
import RoleChain.Proofs.HopSteps
import RoleChain.Proofs.TokenFile
import RoleChain.Sts.Script

/-!
The family of failures. Over transports that answer every call, whatever a provider fails with is a
failure to load credentials, whichever providers it is built from and however deep, but for one kind
of input: a token file whose name or content is no text fails as what it is. No token file that
cannot be read is followed by a call.
-/
namespace RoleChain

/-- Whether a failure is that of a call for a role, with no position in a chain so far. -/
def Raised.IsFor (role : String) (raised : Raised) : Prop :=
  (∃ cause name, raised.failure = .provider cause name (some role) none) ∨
    ∃ reason, raised.failure = .invalidResponse reason (some role) none

theorem Raised.IsFor.inFamily {role : String} {raised : Raised} (h : raised.IsFor role) :
    raised.InFamily := by
  rcases h with ⟨cause, name, h⟩ | ⟨reason, h⟩ <;> exact congrArg Failure.family? h

theorem Raised.InFamily.atHop {raised : Raised} (h : raised.InFamily) (index : Nat) :
    (raised.atHop index).InFamily := by
  obtain ⟨failure, source⟩ := raised
  cases failure <;> exact h

variable {σ : Type}

theorem Credentials.isFor_of_ofExchange {providerName roleArn : String}
    {exchanged : Except Failure Response} {raised : Raised}
    (hanswered : ∀ failure, exchanged = .error failure → failure.isCancellation = false)
    (h : Credentials.ofExchange providerName roleArn exchanged = .error raised) :
    raised.IsFor roleArn := by
  cases exchanged with
  | error failure =>
    have hno : failure.isCancellation = false := hanswered failure rfl
    simp only [ofExchange, Failure.wrapped, hno, Bool.false_eq_true, if_false] at h
    cases h
    exact Or.inl ⟨_, _, rfl⟩
  | ok response =>
    obtain ⟨_ | block, user⟩ := response
    · cases h
      exact Or.inr ⟨_, rfl⟩
    · cases h

theorem Hop.exists_session (hop : Hop) (service : Service σ) {w : World σ}
    (h : w.suffixes.NeverFails) :
    ∃ name, (hop.session.perform service w).result = .ok name ∧
      (hop.session.perform service w).records = [] := by
  unfold session
  cases hop.sessionName with
  | some name => exact ⟨name, rfl, rfl⟩
  | none =>
    obtain ⟨suffix, hsuffix⟩ := h w.suffixes.position
    simp only [Run.sessionName, Run.perform, SuffixSource.next, hsuffix]
    exact ⟨_, rfl, rfl⟩

section

variable [FieldRules]

/-- Whether a transport answers every call, with a response or with an exception. -/
def Transport.IsAnswered (transport : Transport) (service : Service σ) : Prop :=
  ∀ state call failure, (transport.exchange service call state).1 = .error failure →
    failure.isCancellation = false

/-- Whether every call under a configuration is answered. A call without a transport fails at
once. -/
def ClientConfiguration.IsAnswered (configuration : ClientConfiguration) (service : Service σ) :
    Prop :=
  ∀ transport, configuration.transport = some transport → transport.IsAnswered service

/-- Whether all calls of a provider are answered; chains have a configuration for those of their
hops. -/
def Provider.IsServed (service : Service σ) : Provider → Prop
  | static _ | environment _ => True
  | webIdentity _ configuration => configuration.IsAnswered service
  | chain base _ configuration =>
    (∃ given, configuration = some given ∧ given.IsAnswered service) ∧ base.IsServed service

variable {service : Service σ}

/-! ### One call -/

/-- What asking for a role fails with is a failure for that role. -/
theorem ClientConfiguration.isFor_of_ask {configuration : ClientConfiguration}
    (hanswered : configuration.IsAnswered service) (providerName : String)
    (caller : Option Credentials) (request : Request) {w : World σ} {raised : Raised}
    (h : ((configuration.ask providerName request.roleArn caller request).perform service w).result =
      .error raised) : raised.IsFor request.roleArn := by
  cases htransport : configuration.transport with
  | none =>
    simp only [ask, send, htransport] at h
    cases h
    exact Or.inl ⟨_, _, rfl⟩
  | some transport =>
    rw [perform_ask htransport] at h
    exact Credentials.isFor_of_ofExchange (fun _ => hanswered transport htransport _ _ _) h

theorem Hop.isFor_of_failed (hop : Hop) (caller : Credentials) {configuration : ClientConfiguration}
    (hanswered : configuration.IsAnswered service) {w : World σ} (hdraws : w.suffixes.NeverFails)
    {raised : Raised} (h : ((hop.credentials caller (some configuration)).perform service w).result =
      .error raised) : raised.IsFor hop.roleArn := by
  obtain ⟨name, hname, -⟩ := hop.exists_session service hdraws
  have hrun : hop.credentials caller (some configuration) = hop.session.bind fun name =>
      configuration.ask providerName hop.roleArn (some caller)
        (.assumeRole ⟨hop.roleArn, name, hop.externalId⟩) := rfl
  rw [hrun, Run.perform_bind] at h
  simp only [Ran.andThen, hname] at h
  exact configuration.isFor_of_ask hanswered providerName (some caller)
    (.assumeRole ⟨hop.roleArn, name, hop.externalId⟩) h

theorem WebIdentityRole.isFor_of_failed (role : WebIdentityRole)
    {configuration : ClientConfiguration} (hanswered : configuration.IsAnswered service)
    {w : World σ} {token : String} (htoken : role.token w.files = .ok token) {raised : Raised}
    (h : ((role.credentials configuration).perform service w).result = .error raised) :
    raised.IsFor role.roleArn := by
  rw [role.perform_credentials_read configuration htoken] at h
  exact configuration.isFor_of_ask hanswered providerName none
    (.withWebIdentity ⟨role.roleArn, role.sessionName, token⟩) h

/-! ### Providers of any depth -/

theorem inFamily_of_assumeAll {configuration : ClientConfiguration}
    (hanswered : configuration.IsAnswered service) (index : Nat) (hops : List Hop)
    (caller : Credentials) {w : World σ} (hdraws : w.suffixes.NeverFails) {raised : Raised}
    (h : ((assumeAll (some configuration) index hops caller).perform service w).result =
      .error raised) : raised.InFamily := by
  induction hops generalizing index caller w with
  | nil => cases h
  | cons hop hops ih =>
    have hfor (raised' : Raised) (hfailed : ((hop.credentials caller (some configuration)).perform
        service w).result = .error raised') : raised'.IsFor hop.roleArn :=
      hop.isFor_of_failed caller hanswered hdraws hfailed
    have hstream := (hop.credentials caller (some configuration)).perform_stream service w
    generalize hstep : (hop.credentials caller (some configuration)).perform service w = ran
      at hfor hstream
    obtain ⟨_ | assumed, v, events⟩ := ran
    · next raised' =>
      rw [perform_assumeAll_failed service _ hstep] at h
      cases h
      exact (hfor raised' rfl).inFamily.atHop index
    · rw [perform_assumeAll_assumed service _ hstep] at h
      exact ih (index + 1) assumed (hdraws.of_stream hstream) h

namespace Provider

/-- The provider at the bottom of chains. -/
def root : Provider → Provider
  | static credentials => static credentials
  | environment given => environment given
  | webIdentity role configuration => webIdentity role configuration
  | chain base _ _ => base.root

/-- A token that cannot be read ends all chains on top of it, before anything is seen of them. -/
theorem perform_provide_unread {p : Provider} {role : WebIdentityRole}
    {configuration : ClientConfiguration} (hroot : p.root = .webIdentity role configuration)
    {w : World σ} {raised : Raised} (h : role.token w.files = .error raised) :
    p.provide.perform service w = ⟨.error raised, w, []⟩ := by
  induction p with
  | static credentials => cases hroot
  | environment given => cases hroot
  | webIdentity role' configuration' =>
    cases hroot
    exact role.perform_credentials_failed configuration h
  | chain base hops configuration' ih =>
    have hbase := ih hroot
    change (executeFrom base.provide hops configuration').perform service w = _
    rw [perform_executeFrom_failed service configuration' base.provide hops (by rw [hbase]), hbase]

/-- A failure outside the family is that of a token file. -/
theorem inFamily_or_unread (p : Provider) (hp : p.IsServed service)
    {w : World σ} (hdraws : w.suffixes.NeverFails) {raised : Raised}
    (hraised : (p.provide.perform service w).result = .error raised) :
    raised.InFamily ∨ ∃ role configuration, p.root = .webIdentity role configuration ∧
      role.token w.files = .error raised := by
  induction p with
  | static credentials => cases hraised
  | environment given =>
    have henv (env : Environment) (h : (env.load.perform service w).result = .error raised) :
        raised.InFamily := by
      unfold Environment.load at h
      cases hcredentials : env.credentials <;> rw [hcredentials] at h <;> cases h
      rfl
    cases given with
    | none =>
      rw [provide, Run.perform] at hraised
      exact Or.inl (henv w.environment hraised)
    | some env =>
      rw [provide] at hraised
      exact Or.inl (henv env hraised)
  | webIdentity role configuration =>
    cases htoken : role.token w.files with
    | ok token =>
      exact Or.inl (role.isFor_of_failed hp htoken hraised).inFamily
    | error raised' =>
      rw [provide, role.perform_credentials_failed configuration htoken] at hraised
      cases hraised
      exact Or.inr ⟨role, configuration, rfl, htoken⟩
  | chain base hops configuration ih =>
    obtain ⟨⟨configuration, rfl, hanswered⟩, hbase⟩ := hp
    change ((executeFrom base.provide hops (some configuration)).perform service w).result = _
      at hraised
    -- Either the base has failed, or a hop has after the base had loaded its credentials.
    cases hresult : (base.provide.perform service w).result with
    | error raised' =>
      rw [perform_executeFrom_failed service _ base.provide hops hresult] at hraised
      cases hraised
      exact ih hbase hresult
    | ok first =>
      rw [perform_executeFrom_loaded service _ base.provide hops hresult] at hraised
      have hstream := base.provide.perform_stream service w
      exact Or.inl (inFamily_of_assumeAll hanswered 0 hops first (hdraws.of_stream hstream) hraised)

/-- What a provider fails with is a failure to load credentials unless its root reads a token file
whose name or content is no text. A token that cannot be read, for that or for any other reason,
is all that comes of the provider: nothing is seen of it, and nothing is changed. -/
theorem provide_family (service : Service σ) (p : Provider) (hp : p.IsServed service) (w : World σ)
    (hdraws : w.suffixes.NeverFails) :
    let ran := p.provide.perform service w
    ((∃ raised, ran.result = .error raised ∧ raised.failure.family? ≠ some .credentials) ↔
      ∃ role configuration, p.root = .webIdentity role configuration ∧
        w.files.IsGarbled role.tokenFile) ∧
    ∀ role configuration raised, p.root = .webIdentity role configuration →
      role.token w.files = .error raised →
        ran = ⟨.error raised, w, []⟩ ∧ (¬ w.files.IsGarbled role.tokenFile → ∃ error,
          raised = ⟨.notLoaded (.tokenFile role.tokenFile.text error), some (.system error)⟩) := by
  intro ran
  have hunread {role configuration raised} (hroot : p.root = .webIdentity role configuration)
      (htoken : role.token w.files = .error raised) : ran = ⟨.error raised, w, []⟩ :=
    perform_provide_unread hroot htoken
  refine ⟨⟨?_, ?_⟩, ?_⟩
  · rintro ⟨raised, hraised, hout⟩
    rcases inFamily_or_unread p hp hdraws hraised with
      hin | ⟨role, configuration, hroot, h⟩
    · exact absurd hin hout
    · rcases role.token_error_cases h with ⟨hgarbled, -⟩ | ⟨-, error, rfl⟩
      · exact ⟨role, configuration, hroot, hgarbled⟩
      · exact absurd rfl hout
  · rintro ⟨role, configuration, hroot, hgarbled⟩
    obtain ⟨raised, htoken⟩ := role.exists_token_error hgarbled
    refine ⟨raised, ?_, ?_⟩
    · rw [hunread hroot htoken]
    · rcases role.token_error_cases htoken with ⟨-, hout⟩ | ⟨hread, -⟩
      · exact hout
      · exact absurd hgarbled hread
  · intro role configuration raised hroot htoken
    refine ⟨hunread hroot htoken, fun hread => ?_⟩
    rcases role.token_error_cases htoken with ⟨hgarbled, -⟩ | ⟨-, hnotLoaded⟩
    · exact absurd hgarbled hread
    · exact hnotLoaded

/-- The credentials of a chain are those of its provider. -/
example (c : ProviderChain) (configuration : ClientConfiguration) :
    c.execute (some configuration) = (c.provider (some configuration)).provide := rfl

end Provider

end

attribute [local instance] FieldRules.lax

/-- A token file of one byte that begins no character, below a chain of one hop. No other file can be
read. -/
theorem Provider.provide_family_garbled :
    let service : Service Unit := {
      refusal := fun _ _ => none
      answer := fun _ _ => (.failure (.plain .general []), ()) }
    let configuration : ClientConfiguration := ⟨some ⟨.standard, .direct⟩, none, none⟩
    let role : WebIdentityRole := ⟨.ofString "/run/token", "web", "session"⟩
    let p : Provider :=
      .chain (.webIdentity role configuration) [{ roleArn := "a" }] (some configuration)
    let files : Files := ⟨fun path =>
      if path = role.tokenFile then .ok [0xff] else .error (.atPath 13 "Permission denied" path.text)⟩
    let w : World Unit := { World.bare "1" () with files := files }
    let ran := p.provide.perform service w
    p.IsServed service ∧ w.suffixes.NeverFails ∧
      (∃ raised, ran.result = .error raised ∧ raised.failure.family? ≠ some .credentials) ∧
      ran = ⟨.error (Failure.undecodable ⟨0xff, 0, 1, .badStart⟩).alone, w, []⟩ := by
  intro service configuration role p files w ran
  have hanswered : configuration.IsAnswered service := by
    intro transport htransport state call failure hfailure
    cases htransport
    cases hfailure
    rfl
  have hp : p.IsServed service := ⟨⟨configuration, rfl, hanswered⟩, hanswered⟩
  have hdraws : w.suffixes.NeverFails := SuffixSource.neverFails_constant "1"
  have hname : '\x00' ∉ role.tokenFile.text.toList := by decide +kernel
  have hlook : files.look role.tokenFile = .ok [0xff] := by simp only [files, if_pos]
  have hread : w.files.read role.tokenFile = .ok [0xff] := by
    change Files.read files role.tokenFile = _
    rw [Files.read, if_neg hname, hlook]
    rfl
  have htoken : role.token w.files =
      .error (Failure.undecodable ⟨0xff, 0, 1, .badStart⟩).alone := by
    rw [WebIdentityRole.token, hread]
    rfl
  have hfamily := provide_family service p hp w hdraws
  exact ⟨hp, hdraws, hfamily.1.mpr ⟨role, configuration, rfl, Or.inr ⟨[0xff], hread, rfl⟩⟩,
    (hfamily.2 role configuration _ rfl htoken).1⟩

end RoleChain
