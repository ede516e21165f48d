import RoleChain.Proofs.Exchange

/-!
Token files. A web identity role reads its token before all else. A file that cannot be read, and
one whose name or content is no text, ends the role there, before anything is seen of it.
-/
namespace RoleChain

variable {σ : Type} {service : Service σ}

/-- Whether a failure is one to load credentials. -/
def Raised.InFamily (raised : Raised) : Prop := raised.failure.family? = some .credentials

/-- Whether the name or the content of a file is no text. -/
def Files.IsGarbled (files : Files) (path : Path) : Prop :=
  '\x00' ∈ path.text.toList ∨ ∃ content, files.read path = .ok content ∧ Text.isUtf8 content = false

theorem Files.read_eq_nul_iff (files : Files) (path : Path) :
    files.read path = .error .nul ↔ '\x00' ∈ path.text.toList := by
  unfold Files.read
  split
  · next h => exact ⟨fun _ => h, fun _ => rfl⟩
  · next h =>
    refine ⟨fun hread => ?_, fun hmem => absurd hmem h⟩
    cases hlook : files.look path <;> rw [hlook] at hread <;> cases hread

theorem Text.isUtf8_eq_false_iff (content : List UInt8) :
    Text.isUtf8 content = false ↔ ∃ refusal, Text.ofFile content = .error refusal := by
  unfold Text.isUtf8 Text.ofFile
  cases Text.decodeUtf8 content with
  | error refusal => exact ⟨fun _ => ⟨refusal, rfl⟩, fun _ => rfl⟩
  | ok chars =>
    constructor
    · intro h
      cases h
    · rintro ⟨refusal, h⟩
      cases h

namespace WebIdentityRole

/-- The token that the role reads from the files, or what it fails with. -/
def token (role : WebIdentityRole) (files : Files) : Except Raised String :=
  match files.read role.tokenFile with
  | .ok content =>
    match Text.ofFile content with
    | .ok text => .ok (Text.trim text)
    | .error refusal => .error (Failure.undecodable refusal).alone
  | .error .nul => .error Failure.embeddedNul.alone
  | .error (.system error) =>
    .error ⟨.notLoaded (.tokenFile role.tokenFile.text error), some (.system error)⟩

theorem perform_readToken (role : WebIdentityRole) (w : World σ) :
    role.readToken.perform service w = ⟨role.token w.files, w, []⟩ := by
  unfold readToken token Run.perform
  cases w.files.read role.tokenFile with
  | error error => cases error <;> rfl
  | ok content =>
    dsimp only
    cases Text.ofFile content <;> rfl

/-- A token cannot be read because its name or content is no text, or because nothing can be read
at its path; only the latter is a failure to load credentials. -/
theorem token_error_cases (role : WebIdentityRole) {files : Files} {raised : Raised}
    (h : role.token files = .error raised) :
    (files.IsGarbled role.tokenFile ∧ ¬ raised.InFamily) ∨
      ¬ files.IsGarbled role.tokenFile ∧ ∃ error,
        raised = ⟨.notLoaded (.tokenFile role.tokenFile.text error), some (.system error)⟩ := by
  unfold Files.IsGarbled
  rw [← Files.read_eq_nul_iff files role.tokenFile]
  simp only [Text.isUtf8_eq_false_iff]
  unfold token at h
  cases hread : files.read role.tokenFile with
  | error error =>
    rw [hread] at h
    cases error with
    | nul =>
      cases h
      exact Or.inl ⟨Or.inl rfl, nofun⟩
    | system error =>
      cases h
      refine Or.inr ⟨?_, _, rfl⟩
      rintro (hnul | ⟨content, hcontent, -⟩)
      · cases hnul
      · cases hcontent
  | ok content =>
    rw [hread] at h
    dsimp only at h
    cases htext : Text.ofFile content with
    | ok text =>
      rw [htext] at h
      cases h
    | error refusal =>
      rw [htext] at h
      cases h
      exact Or.inl ⟨Or.inr ⟨content, rfl, refusal, htext⟩, nofun⟩

theorem exists_token_error (role : WebIdentityRole) {files : Files}
    (h : files.IsGarbled role.tokenFile) : ∃ raised, role.token files = .error raised := by
  unfold token
  rcases h with hnul | ⟨content, hread, hcontent⟩
  · rw [(files.read_eq_nul_iff role.tokenFile).mpr hnul]
    exact ⟨_, rfl⟩
  · obtain ⟨refusal, htext⟩ := (Text.isUtf8_eq_false_iff content).mp hcontent
    rw [hread]
    dsimp only
    rw [htext]
    exact ⟨_, rfl⟩

variable [FieldRules]

theorem perform_credentials_failed (role : WebIdentityRole) (configuration : ClientConfiguration)
    {w : World σ} {raised : Raised} (h : role.token w.files = .error raised) :
    (role.credentials configuration).perform service w = ⟨.error raised, w, []⟩ := by
  change (role.readToken.bind _).perform service w = _
  rw [Run.perform_bind, perform_readToken, h, Ran.andThen_error]

/-- What the role does once it has a token. -/
def present (role : WebIdentityRole) (configuration : ClientConfiguration) (token : String) :
    Run Credentials :=
  (Run.record .debug Logger.webIdentity
    ("assuming role " ++ role.roleArn ++ " with web identity token")).bind fun _ =>
  (configuration.send providerName none
    (.withWebIdentity ⟨role.roleArn, role.sessionName, token⟩)).bind fun response =>
  Run.ofExcept (Credentials.ofIssued response.credentials providerName (some role.roleArn))

theorem perform_credentials_read (role : WebIdentityRole) (configuration : ClientConfiguration)
    {w : World σ} {token : String} (h : role.token w.files = .ok token) :
    (role.credentials configuration).perform service w =
      (role.present configuration token).perform service w := by
  change (role.readToken.bind (role.present configuration)).perform service w = _
  rw [Run.perform_bind, perform_readToken, h, Ran.andThen_ok]
  rfl

end WebIdentityRole

end RoleChain
