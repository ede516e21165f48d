import RoleChain.Sts.Response

/-!
How answers are read. A field is taken from under its name on the wire or, if that is missing, from
under its own. A record is read if it is a mapping and each of its fields is; so an answer issues
credentials with all four members, or none at all, or is refused.
-/
namespace RoleChain

variable {α β : Type}

namespace Checked

theorem map_eq_valid_iff {f : α → β} {check : Checked α} {b : β} :
    check.map f = .valid b ↔ ∃ a, check = .valid a ∧ f a = b := by
  cases check with
  | valid a => simp [map]
  | invalid issues => simp [map]

theorem apply_eq_valid_iff {f : Checked (α → β)} {check : Checked α} {b : β} :
    f.apply check = .valid b ↔ ∃ g a, f = .valid g ∧ check = .valid a ∧ g a = b := by
  cases f with
  | valid g => cases check <;> simp [apply]
  | invalid issues => cases check <;> simp [apply]

theorem under_eq_valid_iff {check : Checked α} {field : String} {a : α} :
    check.under field = .valid a ↔ check = .valid a := by
  cases check <;> simp [under]

end Checked

namespace FieldName

variable {field : FieldName} {entries : List (String × Datum)}

/-- The value of a field: what stands under its name on the wire or, if that is missing, under its
own. -/
def value? (field : FieldName) (entries : List (String × Datum)) : Option Datum :=
  match Datum.lookup? field.wire entries with
  | some value => some value
  | none => Datum.lookup? field.own entries

theorem map_find? (field : FieldName) (entries : List (String × Datum)) :
    (field.find? entries).map Prod.snd = field.value? entries := by
  unfold find? value?
  cases Datum.lookup? field.wire entries with
  | some value => rfl
  | none => simp [Function.comp_def]

theorem value?_eq_some_iff {value : Datum} :
    field.value? entries = some value ↔ ∃ name, field.find? entries = some (name, value) := by
  rw [← map_find?, Option.map_eq_some_iff]
  constructor
  · rintro ⟨⟨name, found⟩, hfind, rfl⟩
    exact ⟨name, hfind⟩
  · rintro ⟨name, hfind⟩
    exact ⟨_, hfind, rfl⟩

theorem value?_eq_none_iff : field.value? entries = none ↔ field.find? entries = none := by
  rw [← map_find?, Option.map_eq_none_iff]

/-- Whether a field is there and is read as the given value. -/
def ReadsAs (field : FieldName) (read : Datum → Checked α) (entries : List (String × Datum))
    (a : α) : Prop :=
  ∃ value, field.value? entries = some value ∧ read value = .valid a

/-- Whether a field is missing or null. -/
def IsVoid (field : FieldName) (entries : List (String × Datum)) : Prop :=
  field.value? entries = none ∨ field.value? entries = some .null

theorem required_eq_valid_iff {read : Datum → Checked α} {a : α} :
    field.required read entries = .valid a ↔ field.ReadsAs read entries a := by
  unfold required ReadsAs
  cases hfind : field.find? entries with
  | none =>
    have hnone := value?_eq_none_iff.mpr hfind
    simp [hnone]
  | some found =>
    obtain ⟨name, value⟩ := found
    have hsome := value?_eq_some_iff.mpr ⟨name, hfind⟩
    simp [hsome, Checked.under_eq_valid_iff]

section

variable {read : Datum → Checked α} (hnull : ∀ a, read .null ≠ .valid a)

include hnull

/-- A field that may be missing is read as nothing if it is missing or null, and else as what the
reading gives. -/
theorem optional_eq_valid_iff {read? : Option α} :
    field.optional read entries = .valid read? ↔
      (field.IsVoid entries ∧ read? = none) ∨
        ∃ a, field.ReadsAs read entries a ∧ read? = some a := by
  unfold optional ReadsAs IsVoid
  cases hfind : field.find? entries with
  | none =>
    have hnone := value?_eq_none_iff.mpr hfind
    simp [hnone, eq_comm]
  | some found =>
    obtain ⟨name, value⟩ := found
    have hsome := value?_eq_some_iff.mpr ⟨name, hfind⟩
    by_cases hvalue : value = .null
    · subst hvalue
      simp [hsome, hnull, eq_comm]
    · have hopen : ((read value).map some).under name = .valid read? ↔
          ∃ a, read value = .valid a ∧ read? = some a := by
        rw [Checked.under_eq_valid_iff, Checked.map_eq_valid_iff]
        simp only [eq_comm]
      simp [hsome, hvalue, hopen]

theorem optional_eq_none_iff :
    field.optional read entries = .valid none ↔ field.IsVoid entries := by
  rw [optional_eq_valid_iff hnull]
  simp

theorem optional_eq_some_iff {a : α} :
    field.optional read entries = .valid (some a) ↔ field.ReadsAs read entries a := by
  rw [optional_eq_valid_iff hnull]
  simp

end

end FieldName

variable [FieldRules]

namespace IssuedCredentials

/-- Whether the members of a block are all there and are read as those of the credentials. -/
structure IsIn (c : IssuedCredentials) (block : List (String × Datum)) : Prop where
  accessKeyId : Field.accessKeyId.ReadsAs Datum.asText block c.accessKeyId
  secretAccessKey : Field.secretAccessKey.ReadsAs Datum.asText block c.secretAccessKey
  sessionToken : Field.sessionToken.ReadsAs Datum.asText block c.sessionToken
  expiration : Field.expiration.ReadsAs Datum.asMoment block c.expiration

theorem ofDatum_null (c : IssuedCredentials) : ofDatum .null ≠ .valid c := by
  intro h
  cases h

/-- A block is read if it is a mapping with all four members. -/
theorem ofDatum_eq_valid_iff {value : Datum} {c : IssuedCredentials} :
    ofDatum value = .valid c ↔ ∃ block, value = .mapping block ∧ c.IsIn block := by
  cases value with
  | mapping block =>
    simp only [ofDatum, Checked.apply_eq_valid_iff, Checked.map_eq_valid_iff,
      FieldName.required_eq_valid_iff, Datum.mapping.injEq, exists_eq_left']
    constructor
    · rintro ⟨_, expiration, ⟨_, token, ⟨_, secret, ⟨id, hid, rfl⟩, hsecret, rfl⟩, htoken, rfl⟩,
        hexpiration, rfl⟩
      exact ⟨hid, hsecret, htoken, hexpiration⟩
    · rintro ⟨hid, hsecret, htoken, hexpiration⟩
      exact ⟨_, _, ⟨_, _, ⟨_, _, ⟨_, hid, rfl⟩, hsecret, rfl⟩, htoken, rfl⟩, hexpiration, rfl⟩
  | null | bool | int | float | text | bytes | moment | list => simp [ofDatum, Checked.refuse]

end IssuedCredentials

namespace AssumedRoleUser

structure IsIn (u : AssumedRoleUser) (block : List (String × Datum)) : Prop where
  id : Field.assumedRoleId.ReadsAs Datum.asText block u.id
  arn : Field.arn.ReadsAs Datum.asText block u.arn

theorem ofDatum_null (u : AssumedRoleUser) : ofDatum .null ≠ .valid u := by
  intro h
  cases h

theorem ofDatum_eq_valid_iff {value : Datum} {u : AssumedRoleUser} :
    ofDatum value = .valid u ↔ ∃ block, value = .mapping block ∧ u.IsIn block := by
  cases value with
  | mapping block =>
    simp only [ofDatum, Checked.apply_eq_valid_iff, Checked.map_eq_valid_iff,
      FieldName.required_eq_valid_iff, Datum.mapping.injEq, exists_eq_left']
    constructor
    · rintro ⟨_, arn, ⟨id, hid, rfl⟩, harn, rfl⟩
      exact ⟨hid, harn⟩
    · rintro ⟨hid, harn⟩
      exact ⟨_, _, ⟨_, hid, rfl⟩, harn, rfl⟩
  | null | bool | int | float | text | bytes | moment | list => simp [ofDatum, Checked.refuse]

end AssumedRoleUser

namespace Response

/-- Whether the user in an answer is missing, null or valid. -/
def HasFineUser (entries : List (String × Datum)) : Prop :=
  Field.assumedRoleUser.IsVoid entries ∨ ∃ (block : List (String × Datum)) (user : AssumedRoleUser),
    Field.assumedRoleUser.value? entries = some (.mapping block) ∧ user.IsIn block

/-- Whether an answer issues credentials: it is a mapping with a whole block of them. -/
def Issues (answer : Datum) (issued : IssuedCredentials) : Prop :=
  ∃ entries block, answer = .mapping entries ∧
    Field.credentials.value? entries = some (.mapping block) ∧ issued.IsIn block ∧
    HasFineUser entries

/-- Whether an answer is in order but issues nothing. -/
def IssuesNothing (answer : Datum) : Prop :=
  ∃ entries, answer = .mapping entries ∧ Field.credentials.IsVoid entries ∧ HasFineUser entries

theorem hasFineUser_iff {entries : List (String × Datum)} :
    HasFineUser entries ↔ ∃ user?,
      Field.assumedRoleUser.optional AssumedRoleUser.ofDatum entries = .valid user? := by
  simp only [FieldName.optional_eq_valid_iff AssumedRoleUser.ofDatum_null, FieldName.ReadsAs,
    AssumedRoleUser.ofDatum_eq_valid_iff]
  constructor
  · rintro (hvoid | ⟨block, user, hvalue, hin⟩)
    · exact ⟨none, Or.inl ⟨hvoid, rfl⟩⟩
    · exact ⟨some user, Or.inr ⟨user, ⟨_, hvalue, block, rfl, hin⟩, rfl⟩⟩
  · rintro ⟨_, ⟨hvoid, -⟩ | ⟨user, ⟨_, hvalue, block, rfl, hin⟩, -⟩⟩
    · exact Or.inl hvoid
    · exact Or.inr ⟨block, user, hvalue, hin⟩

theorem ofDatum_eq_valid_iff {answer : Datum} {response : Response} :
    ofDatum answer = .valid response ↔ ∃ entries, answer = .mapping entries ∧
      Field.credentials.optional IssuedCredentials.ofDatum entries = .valid response.credentials ∧
      Field.assumedRoleUser.optional AssumedRoleUser.ofDatum entries = .valid response.user := by
  cases answer with
  | mapping entries =>
    simp only [ofDatum, Checked.apply_eq_valid_iff, Checked.map_eq_valid_iff, Datum.mapping.injEq,
      exists_eq_left']
    constructor
    · rintro ⟨_, user, ⟨credentials, hcredentials, rfl⟩, huser, rfl⟩
      exact ⟨hcredentials, huser⟩
    · rintro ⟨hcredentials, huser⟩
      exact ⟨_, _, ⟨_, hcredentials, rfl⟩, huser, rfl⟩
  | null | bool | int | float | text | bytes | moment | list => simp [ofDatum, Checked.refuse]

theorem exists_ofDatum_some_iff {answer : Datum} {issued : IssuedCredentials} :
    (∃ user?, ofDatum answer = .valid ⟨some issued, user?⟩) ↔ Issues answer issued := by
  simp only [ofDatum_eq_valid_iff, Issues, hasFineUser_iff,
    FieldName.optional_eq_some_iff IssuedCredentials.ofDatum_null, FieldName.ReadsAs,
    IssuedCredentials.ofDatum_eq_valid_iff]
  constructor
  · rintro ⟨user?, entries, rfl, ⟨_, hvalue, block, rfl, hin⟩, huser⟩
    exact ⟨entries, block, rfl, hvalue, hin, user?, huser⟩
  · rintro ⟨entries, block, rfl, hvalue, hin, user?, huser⟩
    exact ⟨user?, entries, rfl, ⟨_, hvalue, block, rfl, hin⟩, huser⟩

theorem exists_ofDatum_none_iff {answer : Datum} :
    (∃ user?, ofDatum answer = .valid ⟨none, user?⟩) ↔ IssuesNothing answer := by
  simp only [ofDatum_eq_valid_iff, IssuesNothing, hasFineUser_iff,
    FieldName.optional_eq_none_iff IssuedCredentials.ofDatum_null]
  constructor
  · rintro ⟨user?, entries, rfl, hvoid, huser⟩
    exact ⟨entries, rfl, hvoid, user?, huser⟩
  · rintro ⟨entries, rfl, hvoid, user?, huser⟩
    exact ⟨user?, entries, rfl, hvoid, huser⟩

end Response

end RoleChain
