import Mathlib.Data.List.Forall2
import RoleChain.Proofs.Secrets
import RoleChain.Sts.Response

/-!
Answers that are alike. A reading that never looks at a secret, other than to see that it is a
text, gives what is alike or the very same issues.
-/
namespace RoleChain

/-- The same issues, or values that are alike. -/
inductive ChecksAlike {α β : Type} (alike : α → β → Prop) : Checked α → Checked β → Prop
  | valid {a : α} {b : β} (h : alike a b) : ChecksAlike alike (.valid a) (.valid b)
  | invalid (issues : List Issue) : ChecksAlike alike (.invalid issues) (.invalid issues)

namespace ChecksAlike

variable {α β γ δ : Type} {alike : α → β → Prop} {also : γ → δ → Prop}

theorem refl {same : α → α → Prop} (h : ∀ a, same a a) (check : Checked α) :
    ChecksAlike same check check := by
  cases check with
  | valid value => exact .valid (h value)
  | invalid issues => exact .invalid issues

theorem mono {weaker : α → β → Prop} {check : Checked α} {other : Checked β}
    (h : ChecksAlike alike check other) (hmono : ∀ a b, alike a b → weaker a b) :
    ChecksAlike weaker check other := by
  cases h with
  | valid h => exact .valid (hmono _ _ h)
  | invalid issues => exact .invalid issues

theorem map {check : Checked α} {other : Checked β} {f : α → γ} {g : β → δ}
    (h : ChecksAlike alike check other) (hmap : ∀ a b, alike a b → also (f a) (g b)) :
    ChecksAlike also (check.map f) (other.map g) := by
  cases h with
  | valid h => exact .valid (hmap _ _ h)
  | invalid issues => exact .invalid issues

theorem apply {f : Checked (α → γ)} {g : Checked (β → δ)} {check : Checked α} {other : Checked β}
    (hf : ChecksAlike (fun f g => ∀ a b, alike a b → also (f a) (g b)) f g)
    (h : ChecksAlike alike check other) : ChecksAlike also (f.apply check) (g.apply other) := by
  cases hf with
  | valid hf =>
    cases h with
    | valid h => exact .valid (hf _ _ h)
    | invalid issues => exact .invalid issues
  | invalid issues =>
    cases h with
    | valid h => exact .invalid issues
    | invalid more => exact .invalid (issues ++ more)

theorem under {check : Checked α} {other : Checked β} (h : ChecksAlike alike check other)
    (field : String) : ChecksAlike alike (check.under field) (other.under field) := by
  cases h with
  | valid h => exact .valid h
  | invalid issues => exact .invalid _

theorem report {check : Checked α} {other : Checked β} (h : ChecksAlike alike check other)
    (title : String) : ResultsAlike alike (check.report title) (other.report title) := by
  cases h with
  | valid h => exact .ok h
  | invalid issues => exact .error _

theorem eq {check other : Checked α} (h : ChecksAlike (· = ·) check other) : check = other := by
  cases h with
  | valid h => rw [h]
  | invalid issues => rfl

end ChecksAlike

/-- The same value, or two that may stand under one of the given names. -/
def ValuesAlike (names : List String) (alike : Datum → Datum → Prop) (name : String)
    (value other : Datum) : Prop :=
  value = other ∨ name ∈ names ∧ alike value other

theorem ValuesAlike.eq_of_other {names : List String} {alike : Datum → Datum → Prop} {name : String}
    {value other : Datum} (h : ValuesAlike names alike name value other) {field : FieldName}
    (hname : name = field.wire ∨ name = field.own) (hwire : field.wire ∉ names)
    (hown : field.own ∉ names) : value = other := by
  rcases h with heq | ⟨hmem, -⟩
  · exact heq
  · rcases hname with rfl | rfl
    · exact absurd hmem hwire
    · exact absurd hmem hown

theorem ValuesAlike.null_iff {names : List String} {alike : Datum → Datum → Prop} {name : String}
    {value other : Datum} (h : ValuesAlike names alike name value other)
    (hnull : ∀ value other, alike value other → (value = .null ↔ other = .null)) :
    value = .null ↔ other = .null := by
  rcases h with rfl | ⟨-, halike⟩
  · exact Iff.rfl
  · exact hnull value other halike

/-- Entries with the same names in the same order and with values that are alike. -/
def EntriesAlike (names : List String) (alike : Datum → Datum → Prop)
    (entries others : List (String × Datum)) : Prop :=
  List.Forall₂ (fun x y => x.1 = y.1 ∧ ValuesAlike names alike x.1 x.2 y.2) entries others

/-- The same data, or mappings that differ under the given names only. -/
inductive Datum.AlikeUnder (names : List String) (alike : Datum → Datum → Prop) :
    Datum → Datum → Prop
  | same (d : Datum) : AlikeUnder names alike d d
  | mapping {entries others : List (String × Datum)} (h : EntriesAlike names alike entries others) :
      AlikeUnder names alike (.mapping entries) (.mapping others)

namespace FieldName

variable {α : Type} {field : FieldName} {alike : String → Datum → Datum → Prop}
  {entries others : List (String × Datum)}

/-- Whether a field is there in both, under the same name and with values that are alike, or in
neither. -/
def FoundAlike (field : FieldName) (alike : String → Datum → Datum → Prop)
    (entries others : List (String × Datum)) : Prop :=
  Option.Rel (fun x y => x.1 = y.1 ∧ (x.1 = field.wire ∨ x.1 = field.own) ∧ alike x.1 x.2 y.2)
    (field.find? entries) (field.find? others)

theorem foundAlike_of_lookup
    (hwire : Option.Rel (alike field.wire) (Datum.lookup? field.wire entries)
      (Datum.lookup? field.wire others))
    (hown : Option.Rel (alike field.own) (Datum.lookup? field.own entries)
      (Datum.lookup? field.own others)) : field.FoundAlike alike entries others := by
  unfold FoundAlike find?
  generalize Datum.lookup? field.wire entries = found at hwire ⊢
  generalize Datum.lookup? field.wire others = found' at hwire ⊢
  generalize Datum.lookup? field.own entries = own at hown ⊢
  generalize Datum.lookup? field.own others = own' at hown ⊢
  cases hwire with
  | some hvalue => exact .some ⟨rfl, Or.inl rfl, hvalue⟩
  | none =>
    cases hown with
    | some hvalue => exact .some ⟨rfl, Or.inr rfl, hvalue⟩
    | none => exact .none

theorem optional_found {read : Datum → Checked α} {name : String} {value : Datum}
    (h : field.find? entries = some (name, value)) (hvalue : value ≠ .null) :
    field.optional read entries = ((read value).map some).under name := by
  unfold optional
  rw [h]
  cases value <;> first | rfl | exact absurd rfl hvalue

variable {same : α → α → Prop} {read : Datum → Checked α}

theorem FoundAlike.required (h : field.FoundAlike alike entries others)
    (hread : ∀ name value other, name = field.wire ∨ name = field.own →
      alike name value other → ChecksAlike same (read value) (read other)) :
    ChecksAlike same (field.required read entries) (field.required read others) := by
  unfold FoundAlike at h
  unfold FieldName.required
  generalize field.find? entries = found at h ⊢
  generalize field.find? others = found' at h ⊢
  cases h with
  | none => exact .invalid _
  | @some x y hxy =>
    obtain ⟨name, value⟩ := x
    obtain ⟨name', other⟩ := y
    obtain ⟨hname, hfield, hvalue⟩ := hxy
    cases hname
    exact (hread name value other hfield hvalue).under name

theorem FoundAlike.required_eq (h : field.FoundAlike alike entries others)
    (hread : ∀ name value other, name = field.wire ∨ name = field.own →
      alike name value other → read value = read other) :
    ChecksAlike (· = ·) (field.required read entries) (field.required read others) := by
  refine h.required ?_
  intro name value other hname hvalue
  rw [hread name value other hname hvalue]
  exact .refl (fun _ => rfl) _

theorem FoundAlike.optional (h : field.FoundAlike alike entries others)
    (hnull : ∀ name value other, name = field.wire ∨ name = field.own →
      alike name value other → (value = .null ↔ other = .null))
    (hread : ∀ name value other, name = field.wire ∨ name = field.own →
      alike name value other → ChecksAlike same (read value) (read other)) :
    ChecksAlike (Option.Rel same) (field.optional read entries) (field.optional read others) := by
  unfold FoundAlike at h
  generalize hx : field.find? entries = found at h
  generalize hy : field.find? others = found' at h
  cases h with
  | none =>
    simp only [FieldName.optional, hx, hy]
    exact .valid .none
  | @some x y hxy =>
    obtain ⟨name, value⟩ := x
    obtain ⟨name', other⟩ := y
    obtain ⟨hname, hfield, hvalue⟩ := hxy
    cases hname
    have hiff := hnull name value other hfield hvalue
    by_cases hnil : value = .null
    · simp only [FieldName.optional, hx, hy, hnil, hiff.mp hnil]
      exact .valid .none
    · have hother : other ≠ .null := fun heq => hnil (hiff.mpr heq)
      rw [optional_found hx hnil, optional_found hy hother]
      have hsome : ChecksAlike (Option.Rel same) ((read value).map some) ((read other).map some) :=
        (hread name value other hfield hvalue).map fun _ _ hab => .some hab
      exact hsome.under name

theorem FoundAlike.optional_eq (h : field.FoundAlike alike entries others)
    (hnull : ∀ name value other, name = field.wire ∨ name = field.own →
      alike name value other → (value = .null ↔ other = .null))
    (hread : ∀ name value other, name = field.wire ∨ name = field.own →
      alike name value other → read value = read other) :
    ChecksAlike (· = ·) (field.optional read entries) (field.optional read others) := by
  have hoptional : ChecksAlike (Option.Rel (· = ·)) (field.optional read entries)
      (field.optional read others) := by
    refine h.optional hnull ?_
    intro name value other hname hvalue
    rw [hread name value other hname hvalue]
    exact .refl (fun _ => rfl) _
  refine hoptional.mono ?_
  intro a b hab
  cases hab with
  | some heq => exact congrArg some heq
  | none => rfl

end FieldName

namespace EntriesAlike

variable {names : List String} {alike : Datum → Datum → Prop}
  {entries others : List (String × Datum)}

theorem lookup (h : EntriesAlike names alike entries others) (key : String) :
    Option.Rel (ValuesAlike names alike key) (Datum.lookup? key entries)
      (Datum.lookup? key others) := by
  induction h with
  | nil => exact .none
  | @cons x y entries others hxy hrest ih =>
    obtain ⟨hname, hvalue⟩ := hxy
    by_cases hkey : x.1 = key
    · have hx : Datum.lookup? key (x :: entries) = some x.2 := by simp [Datum.lookup?, hkey]
      have hy : Datum.lookup? key (y :: others) = some y.2 := by
        simp [Datum.lookup?, ← hname, hkey]
      rw [hx, hy]
      rw [hkey] at hvalue
      exact .some hvalue
    · have hx : Datum.lookup? key (x :: entries) = Datum.lookup? key entries := by
        simp [Datum.lookup?, hkey]
      have hy : Datum.lookup? key (y :: others) = Datum.lookup? key others := by
        simp [Datum.lookup?, ← hname, hkey]
      rw [hx, hy]
      exact ih

theorem find (h : EntriesAlike names alike entries others) (field : FieldName) :
    field.FoundAlike (ValuesAlike names alike) entries others :=
  FieldName.foundAlike_of_lookup (h.lookup field.wire) (h.lookup field.own)

variable {α : Type} {same : α → α → Prop} (field : FieldName) (read : Datum → Checked α)

theorem required (h : EntriesAlike names alike entries others)
    (hread : ∀ name value other, name = field.wire ∨ name = field.own →
      ValuesAlike names alike name value other → ChecksAlike same (read value) (read other)) :
    ChecksAlike same (field.required read entries) (field.required read others) :=
  (h.find field).required hread

theorem required_same (h : EntriesAlike names alike entries others) (hwire : field.wire ∉ names)
    (hown : field.own ∉ names) :
    ChecksAlike (· = ·) (field.required read entries) (field.required read others) := by
  refine (h.find field).required_eq ?_
  intro name value other hname hvalue
  rw [hvalue.eq_of_other hname hwire hown]

theorem optional (h : EntriesAlike names alike entries others)
    (hnull : ∀ value other, alike value other → (value = .null ↔ other = .null))
    (hread : ∀ name value other, name = field.wire ∨ name = field.own →
      ValuesAlike names alike name value other → ChecksAlike same (read value) (read other)) :
    ChecksAlike (Option.Rel same) (field.optional read entries) (field.optional read others) :=
  (h.find field).optional (fun _ _ _ _ hvalue => hvalue.null_iff hnull) hread

theorem optional_same (h : EntriesAlike names alike entries others)
    (hnull : ∀ value other, alike value other → (value = .null ↔ other = .null))
    (hwire : field.wire ∉ names) (hown : field.own ∉ names) :
    ChecksAlike (· = ·) (field.optional read entries) (field.optional read others) := by
  refine (h.find field).optional_eq (fun _ _ _ _ hvalue => hvalue.null_iff hnull) ?_
  intro name value other hname hvalue
  rw [hvalue.eq_of_other hname hwire hown]

end EntriesAlike

theorem Datum.AlikeUnder.null_iff {names : List String} {alike : Datum → Datum → Prop}
    {value other : Datum} (h : value.AlikeUnder names alike other) :
    value = .null ↔ other = .null := by
  cases h with
  | same => exact Iff.rfl
  | mapping h =>
    constructor
    · intro heq
      cases heq
    · intro heq
      cases heq

/-- Two values that are read as texts. -/
def Datum.BothTexts [FieldRules] (value other : Datum) : Prop :=
  (∃ s, value.asText = .valid s) ∧ ∃ t, other.asText = .valid t

namespace IssuedCredentials

def secretNames : List String :=
  [Field.secretAccessKey.wire, Field.secretAccessKey.own, Field.sessionToken.wire,
    Field.sessionToken.own]

/-- Blocks that were read with the same key id and the same expiration. -/
structure Alike (c d : IssuedCredentials) : Prop where
  accessKeyId_eq : c.accessKeyId = d.accessKeyId
  expiration_eq : c.expiration = d.expiration

theorem Alike.toCredentials {c d : IssuedCredentials} (h : c.Alike d) (providerName : String) :
    (c.toCredentials providerName).Alike (d.toCredentials providerName) :=
  ⟨h.accessKeyId_eq, congrArg some h.expiration_eq, rfl⟩

variable [FieldRules]

/-- Blocks of credentials that differ in texts of secrets only. -/
def BlocksAlike : Datum → Datum → Prop := Datum.AlikeUnder secretNames Datum.BothTexts

/-- A secret is read as some text from both, or in the same way. -/
theorem secret_alike {name : String} {value other : Datum}
    (h : ValuesAlike secretNames Datum.BothTexts name value other) :
    ChecksAlike (fun _ _ => True) value.asText other.asText := by
  rcases h with rfl | ⟨-, ⟨s, hs⟩, t, ht⟩
  · exact .refl (fun _ => trivial) _
  · rw [hs, ht]
    exact .valid trivial

theorem ofDatum_alike {value other : Datum} (h : BlocksAlike value other) :
    ChecksAlike Alike (ofDatum value) (ofDatum other) := by
  cases h with
  | same value => exact .refl (fun _ => ⟨rfl, rfl⟩) _
  | @mapping entries others h =>
    have hid := h.required_same Field.accessKeyId Datum.asText (by decide) (by decide)
    have hsecret := h.required Field.secretAccessKey Datum.asText fun _ _ _ _ => secret_alike
    have htoken := h.required Field.sessionToken Datum.asText fun _ _ _ _ => secret_alike
    have hexpiration := h.required_same Field.expiration Datum.asMoment (by decide) (by decide)
    have hmade : ∀ id id', id = id' → ∀ s s' : String, True → ∀ t t' : String, True →
        ∀ m m', m = m' → Alike ⟨id, s, t, m⟩ ⟨id', s', t', m'⟩ :=
      fun _ _ hid _ _ _ _ _ _ _ _ hm => ⟨hid, hm⟩
    exact (((hid.map hmade).apply hsecret).apply htoken).apply hexpiration

end IssuedCredentials

namespace Response

def blockNames : List String := [Field.credentials.wire, Field.credentials.own]

structure Alike (r s : Response) : Prop where
  credentials_alike : Option.Rel IssuedCredentials.Alike r.credentials s.credentials
  user_eq : r.user = s.user

theorem Alike.refl (r : Response) : r.Alike r := by
  refine ⟨?_, rfl⟩
  cases r.credentials with
  | none => exact .none
  | some c => exact .some ⟨rfl, rfl⟩

variable [FieldRules]

/-- Answers that differ in texts of secrets only. -/
def AnswersAlike : Datum → Datum → Prop :=
  Datum.AlikeUnder blockNames IssuedCredentials.BlocksAlike

theorem ofDatum_alike {value other : Datum} (h : AnswersAlike value other) :
    ChecksAlike Alike (ofDatum value) (ofDatum other) := by
  cases h with
  | same value => exact .refl Alike.refl _
  | @mapping entries others h =>
    have hcredentials : ChecksAlike (Option.Rel IssuedCredentials.Alike)
        (Field.credentials.optional IssuedCredentials.ofDatum entries)
        (Field.credentials.optional IssuedCredentials.ofDatum others) := by
      refine h.optional _ _ (fun _ _ h => h.null_iff) ?_
      rintro name value other - (rfl | ⟨-, halike⟩)
      · exact .refl (fun _ => ⟨rfl, rfl⟩) _
      · exact IssuedCredentials.ofDatum_alike halike
    have huser := h.optional_same Field.assumedRoleUser AssumedRoleUser.ofDatum
      (fun _ _ h => h.null_iff) (by decide) (by decide)
    exact (hcredentials.map fun _ _ hissued _ _ hsame => ⟨hissued, hsame⟩).apply huser

end Response

end RoleChain
