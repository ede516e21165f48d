import RoleChain.LaxFields
import RoleChain.Proofs.AnswerKeys
import RoleChain.Proofs.AnswerReading
import RoleChain.Proofs.RoleSteps
import RoleChain.Sts.Script

/-!
What comes of a step that is served. The credentials of an answer are issued whole; an answer in
order that has none is a failure of its own; and every other answer is a failure of the provider,
with the report on the answer as its cause. Which of the three it is, is decided by the known keys
of the answer.
-/
namespace RoleChain.RoleStep

/-- What can come of a step that is served. -/
inductive Outcome where
  | issued (issued : IssuedCredentials)
  | nothing
  | invalid (report : Report)

namespace Outcome

/-- How an outcome looks to whoever takes the step. Credentials have all four members; a failure
names the role. -/
def result (step : RoleStep) : Outcome → Except Raised Credentials
  | issued c => .ok {
      accessKeyId := c.accessKeyId
      secretAccessKey := c.secretAccessKey
      sessionToken := some c.sessionToken
      expiry := some c.expiration
      providerName := step.providerName }
  | nothing => .error
      ⟨.invalidResponse "STS credentials must be defined" (some step.roleArn) none, none⟩
  | invalid report => .error
      ⟨.provider (.invalidData report) step.providerName (some step.roleArn) none,
        some (.invalidData report)⟩

theorem result_injective (step : RoleStep) : Function.Injective (result step) := by
  intro outcome other h
  cases outcome with
  | issued c =>
    cases other with
    | issued d =>
      obtain ⟨id, secret, token, expiration⟩ := c
      obtain ⟨id', secret', token', expiration'⟩ := d
      simp only [result, Except.ok.injEq, Credentials.mk.injEq, Option.some.injEq, and_true] at h
      obtain ⟨rfl, rfl, rfl, rfl⟩ := h
      rfl
    | nothing | invalid => cases h
  | nothing =>
    cases other with
    | nothing => rfl
    | issued | invalid => cases h
  | invalid report =>
    cases other with
    | invalid report' =>
      cases h
      rfl
    | issued | nothing => cases h

variable [FieldRules]

def ofAnswer (answer : Datum) : Outcome :=
  match Response.ofDatum answer with
  | .valid ⟨some c, _⟩ => issued c
  | .valid ⟨none, _⟩ => nothing
  | .invalid issues => invalid ⟨Response.title, issues⟩

theorem ofAnswer_eq_issued_iff {answer : Datum} {c : IssuedCredentials} :
    ofAnswer answer = issued c ↔ Response.Issues answer c := by
  rw [← Response.exists_ofDatum_some_iff]
  unfold ofAnswer
  rcases Response.ofDatum answer with ⟨_ | d, user⟩ | issues <;> simp

theorem ofAnswer_eq_nothing_iff {answer : Datum} :
    ofAnswer answer = nothing ↔ Response.IssuesNothing answer := by
  rw [← Response.exists_ofDatum_none_iff]
  unfold ofAnswer
  rcases Response.ofDatum answer with ⟨_ | d, user⟩ | issues <;> simp

theorem ofAnswer_eq_invalid_iff {answer : Datum} {report : Report} :
    ofAnswer answer = invalid report ↔
      (Response.ofDatum answer).report Response.title = .error report := by
  unfold ofAnswer
  rcases Response.ofDatum answer with ⟨_ | d, user⟩ | issues <;> simp [Checked.report]

/-- An answer that neither issues credentials nor is in order without any is invalid. -/
theorem exists_ofAnswer_eq_invalid_iff {answer : Datum} :
    (∃ report, ofAnswer answer = invalid report) ↔
      (∀ c, ¬ Response.Issues answer c) ∧ ¬ Response.IssuesNothing answer := by
  simp only [← ofAnswer_eq_issued_iff, ← ofAnswer_eq_nothing_iff]
  cases ofAnswer answer <;> simp

end Outcome

section

variable [FieldRules] {σ : Type} {service : Service σ} {w : World σ}

theorem IsServed.result_eq_outcome {step : RoleStep} {configuration : ClientConfiguration}
    {answer : Datum} (h : step.IsServed configuration service w answer) :
    ((step.run configuration).perform service w).result =
      (Outcome.ofAnswer answer).result step := by
  rw [h.result_eq]
  unfold Outcome.ofAnswer
  rcases Response.ofDatum answer with ⟨_ | c, user⟩ | issues
  · rfl
  · rfl
  · rfl

/-- A step that is served with an answer comes to exactly one outcome: credentials with all members
of a whole block, the failure that the answer has no credentials, or the report on an answer that is
neither. Keys that are unknown and the order of keys make no difference. -/
theorem issue_all_or_nothing (step : RoleStep) (configuration : ClientConfiguration)
    {answer : Datum} (hserved : step.IsServed configuration service w answer) :
    let result := ((step.run configuration).perform service w).result
    (∃! outcome : Outcome, result = outcome.result step) ∧
    (∀ c, result = (Outcome.issued c).result step ↔ Response.Issues answer c) ∧
    (result = Outcome.nothing.result step ↔ Response.IssuesNothing answer) ∧
    ((∃ report, result = (Outcome.invalid report).result step) ↔
      (∀ c, ¬ Response.Issues answer c) ∧ ¬ Response.IssuesNothing answer) ∧
    (∀ report, result = (Outcome.invalid report).result step →
      (Response.ofDatum answer).report Response.title = .error report) ∧
    ∀ (service' : Service σ) (v : World σ) (other : Datum),
      step.IsServed configuration service' v other → Datum.SameKnown .answer answer other →
      ((step.run configuration).perform service' v).result = result := by
  intro result
  have hresult : result = (Outcome.ofAnswer answer).result step := hserved.result_eq_outcome
  -- Outcomes that look the same are the same, so each part is one about the outcome of the answer.
  have hiff : ∀ outcome : Outcome,
      result = outcome.result step ↔ Outcome.ofAnswer answer = outcome := by
    intro outcome
    rw [hresult, (Outcome.result_injective step).eq_iff]
  refine ⟨⟨_, hresult, ?_⟩, ?_, ?_, ?_, ?_, ?_⟩
  · intro outcome houtcome
    exact ((hiff outcome).mp houtcome).symm
  · intro c
    rw [hiff, Outcome.ofAnswer_eq_issued_iff]
  · rw [hiff, Outcome.ofAnswer_eq_nothing_iff]
  · simp only [hiff]
    exact Outcome.exists_ofAnswer_eq_invalid_iff
  · intro report hreport
    exact Outcome.ofAnswer_eq_invalid_iff.mp ((hiff _).mp hreport)
  · intro service' v other hother hknown
    have hreading := Response.ofDatum_eq_of_sameKnown hknown
    rw [hother.result_eq, ← hreading]
    exact hserved.result_eq.symm

end

attribute [local instance] FieldRules.lax

/-- A member that stands under its own name counts, and what stands under other keys does not. -/
theorem issue_all_or_nothing_mixed :
    let block : List (String × Datum) := [
      ("AccessKeyId", .text "id"), ("secret_access_key", .text "secret"), ("Note", .int 1),
      ("SessionToken", .bytes [116]), ("Expiration", .moment ⟨2030, 1, 1, 0, 0, 0, 0, none⟩)]
    let answer : Datum := .mapping [("Extra", .null), ("credentials", .mapping block)]
    let step := byHop ⟨"role", none, some "session"⟩ ⟨"caller", "key", none, none, "Static"⟩
    let configuration : ClientConfiguration := ⟨some ⟨.standard, .direct⟩, none, none⟩
    let w := World.bare "0" (ScriptState.start ⟨[], .always (.respond answer), none⟩)
    ((step.run configuration).perform ScriptState.service w).result =
      .ok ⟨"id", "secret", some "t", some ⟨2030, 1, 1, 0, 0, 0, 0, none⟩,
        "AssumeRoleProvider"⟩ := by
  intro block answer step configuration w
  have hserved : step.IsServed configuration ScriptState.service w answer :=
    ⟨⟨.standard, .direct⟩, .assumeRole ⟨"role", "session", none⟩, rfl, rfl, rfl, rfl⟩
  have hissues : Response.Issues answer
      ⟨"id", "secret", "t", ⟨2030, 1, 1, 0, 0, 0, 0, none⟩⟩ :=
    ⟨_, block, rfl, rfl, ⟨⟨_, rfl, rfl⟩, ⟨_, rfl, rfl⟩, ⟨_, rfl, rfl⟩, ⟨_, rfl, rfl⟩⟩,
      Or.inl (Or.inl rfl)⟩
  exact ((issue_all_or_nothing step configuration hserved).2.1 _).mpr hissues

end RoleChain.RoleStep
