import RoleChain.Proofs.Answers

/-!
Keys in answers. An answer is read at three levels, the answer itself, its block of credentials and
its user, and at each of them under the names of a few fields only. Data that differ in other keys,
at any level, or in the order of keys are read alike.
-/
namespace RoleChain

namespace Datum

theorem lookup?_append (key : String) (before after : List (String × Datum)) :
    lookup? key (before ++ after) = (lookup? key before).or (lookup? key after) := by
  unfold lookup?
  rw [List.find?_append]
  cases before.find? (fun entry => decide (entry.1 = key)) <;> rfl

theorem lookup?_cons_self (key : String) (value : Datum) (after : List (String × Datum)) :
    lookup? key ((key, value) :: after) = some value := by
  simp [lookup?]

theorem lookup?_cons_of_ne {key name : String} (h : name ≠ key) (value : Datum)
    (after : List (String × Datum)) :
    lookup? key ((name, value) :: after) = lookup? key after := by
  simp [lookup?, h]

/-- With distinct keys it does not matter in which order they stand. -/
theorem lookup?_perm {entries others : List (String × Datum)} (h : entries.Perm others)
    (hdistinct : (entries.map Prod.fst).Nodup) (key : String) :
    lookup? key entries = lookup? key others := by
  induction h with
  | nil => rfl
  | @cons entry entries others h ih =>
    obtain ⟨name, value⟩ := entry
    simp only [List.map_cons, List.nodup_cons] at hdistinct
    by_cases hname : name = key
    · subst hname
      rw [lookup?_cons_self, lookup?_cons_self]
    · rw [lookup?_cons_of_ne hname, lookup?_cons_of_ne hname]
      exact ih hdistinct.2
  | swap x y entries =>
    obtain ⟨name, value⟩ := x
    obtain ⟨other, value'⟩ := y
    simp only [List.map_cons, List.nodup_cons, List.mem_cons, not_or] at hdistinct
    have hne : other ≠ name := hdistinct.1.1
    by_cases hname : name = key
    · subst hname
      rw [lookup?_cons_of_ne hne, lookup?_cons_self, lookup?_cons_self]
    · by_cases hother : other = key
      · subst hother
        rw [lookup?_cons_self, lookup?_cons_of_ne hname, lookup?_cons_self]
      · rw [lookup?_cons_of_ne hother, lookup?_cons_of_ne hname, lookup?_cons_of_ne hname,
          lookup?_cons_of_ne hother]
  | trans h h' ih ih' =>
    have hdistinct' := (h.map Prod.fst).nodup_iff.mp hdistinct
    rw [ih hdistinct, ih' hdistinct']

end Datum

/-- Where in an answer a value stands: it is the answer, its block of credentials, its user, or
somewhere else. -/
inductive AnswerLevel where
  | answer
  | credentials
  | user
  | elsewhere
  deriving DecidableEq

namespace AnswerLevel

def fields : AnswerLevel → List FieldName
  | answer => [Field.credentials, Field.assumedRoleUser]
  | credentials =>
    [Field.accessKeyId, Field.secretAccessKey, Field.sessionToken, Field.expiration]
  | user => [Field.assumedRoleId, Field.arn]
  | elsewhere => []

def names (level : AnswerLevel) : List String :=
  level.fields.flatMap fun field => [field.wire, field.own]

/-- The level of what stands under a key. -/
def under : AnswerLevel → String → AnswerLevel
  | answer, key =>
    if key = Field.credentials.wire ∨ key = Field.credentials.own then credentials
    else if key = Field.assumedRoleUser.wire ∨ key = Field.assumedRoleUser.own then user
    else elsewhere
  | credentials, _ | user, _ | elsewhere, _ => elsewhere

end AnswerLevel

/-- Data at a level of an answer that differ in keys that are unknown where they stand, at this
level or below, and in the order of keys, which are distinct in a mapping. -/
inductive Datum.SameKnown : AnswerLevel → Datum → Datum → Prop
  | refl {level : AnswerLevel} (d : Datum) : SameKnown level d d
  | symm {level : AnswerLevel} {d e : Datum} (h : SameKnown level d e) : SameKnown level e d
  | trans {level : AnswerLevel} {d e f : Datum} (h : SameKnown level d e)
      (h' : SameKnown level e f) : SameKnown level d f
  | order {level : AnswerLevel} {entries others : List (String × Datum)}
      (h : entries.Perm others) (hdistinct : (entries.map Prod.fst).Nodup) :
      SameKnown level (.mapping entries) (.mapping others)
  | unknown {level : AnswerLevel} (before after : List (String × Datum)) {key : String}
      (h : key ∉ level.names) (value : Datum) :
      SameKnown level (.mapping (before ++ after)) (.mapping (before ++ (key, value) :: after))
  | entry {level : AnswerLevel} (before after : List (String × Datum)) {key : String}
      {value other : Datum} (h : SameKnown (level.under key) value other) :
      SameKnown level (.mapping (before ++ (key, value) :: after))
        (.mapping (before ++ (key, other) :: after))
  | item {level : AnswerLevel} (before after : List Datum) {value other : Datum}
      (h : SameKnown .elsewhere value other) :
      SameKnown level (.list (before ++ value :: after)) (.list (before ++ other :: after))

namespace AnswerLevel

variable [FieldRules]

def ReadsAlike : AnswerLevel → Datum → Datum → Prop
  | answer, d, e => Response.ofDatum d = Response.ofDatum e
  | credentials, d, e =>
    (d = .null ↔ e = .null) ∧ IssuedCredentials.ofDatum d = IssuedCredentials.ofDatum e
  | user, d, e => (d = .null ↔ e = .null) ∧ AssumedRoleUser.ofDatum d = AssumedRoleUser.ofDatum e
  | elsewhere, d, e => d.asText = e.asText ∧ d.asMoment = e.asMoment

theorem ReadsAlike.refl (level : AnswerLevel) (d : Datum) : level.ReadsAlike d d := by
  cases level <;> simp [ReadsAlike]

theorem ReadsAlike.symm {level : AnswerLevel} {d e : Datum} (h : level.ReadsAlike d e) :
    level.ReadsAlike e d := by
  cases level with
  | answer => exact Eq.symm h
  | credentials => exact ⟨h.1.symm, h.2.symm⟩
  | user => exact ⟨h.1.symm, h.2.symm⟩
  | elsewhere => exact ⟨h.1.symm, h.2.symm⟩

theorem ReadsAlike.trans {level : AnswerLevel} {d e f : Datum} (h : level.ReadsAlike d e)
    (h' : level.ReadsAlike e f) : level.ReadsAlike d f := by
  cases level with
  | answer => exact Eq.trans h h'
  | credentials => exact ⟨h.1.trans h'.1, h.2.trans h'.2⟩
  | user => exact ⟨h.1.trans h'.1, h.2.trans h'.2⟩
  | elsewhere => exact ⟨h.1.trans h'.1, h.2.trans h'.2⟩

/-- Elsewhere what has parts is refused, whatever its parts are. -/
theorem readsAlike_parts {d e : Datum} (hd : d.hasParts = true) (he : e.hasParts = true) :
    elsewhere.ReadsAlike d e :=
  ⟨(Datum.asText_of_hasParts hd).trans (Datum.asText_of_hasParts he).symm,
    (Datum.asMoment_of_hasParts hd).trans (Datum.asMoment_of_hasParts he).symm⟩

theorem readsAlike_list (level : AnswerLevel) (items others : List Datum) :
    level.ReadsAlike (.list items) (.list others) := by
  cases level with
  | answer => rfl
  | credentials => exact ⟨by simp, rfl⟩
  | user => exact ⟨by simp, rfl⟩
  | elsewhere => exact readsAlike_parts rfl rfl

section

variable {entries others : List (String × Datum)}

/-- Mappings with values that are read alike under the keys that are known at a level. -/
def KnownAlike (level : AnswerLevel) (entries others : List (String × Datum)) : Prop :=
  ∀ key ∈ level.names, Option.Rel (level.under key).ReadsAlike (Datum.lookup? key entries)
    (Datum.lookup? key others)

namespace KnownAlike

theorem foundAlike {level : AnswerLevel} (h : level.KnownAlike entries others) {field : FieldName}
    (hfield : field ∈ level.fields) :
    field.FoundAlike (fun key => (level.under key).ReadsAlike) entries others := by
  have hnames : ∀ key ∈ [field.wire, field.own], key ∈ level.names := by
    intro key hkey
    exact List.mem_flatMap.mpr ⟨field, hfield, hkey⟩
  apply FieldName.foundAlike_of_lookup
  · exact h field.wire (hnames _ (by simp))
  · exact h field.own (hnames _ (by simp))

/-- A field of the answer itself is a record. -/
theorem optional_eq {α : Type} {read : Datum → Checked α} (h : answer.KnownAlike entries others)
    (field : FieldName) (hfield : field ∈ answer.fields)
    (hread : ∀ name value other, name = field.wire ∨ name = field.own →
      (answer.under name).ReadsAlike value other →
        (value = .null ↔ other = .null) ∧ read value = read other) :
    field.optional read entries = field.optional read others := by
  have hfound := h.foundAlike hfield
  have halike := hfound.optional_eq
    (fun name value other hname hvalue => (hread name value other hname hvalue).1)
    fun name value other hname hvalue => (hread name value other hname hvalue).2
  exact halike.eq

/-- Below the answer itself a field is a text or a moment. -/
theorem required_eq {level : AnswerLevel} (h : level.KnownAlike entries others)
    (hunder : level.under = fun _ => elsewhere) (field : FieldName)
    (hfield : field ∈ level.fields) :
    field.required Datum.asText entries = field.required Datum.asText others ∧
      field.required Datum.asMoment entries = field.required Datum.asMoment others := by
  have hfound := h.foundAlike hfield
  rw [hunder] at hfound
  have htext := hfound.required_eq fun name value other hname hvalue => hvalue.1
  have hmoment := hfound.required_eq fun name value other hname hvalue => hvalue.2
  exact ⟨htext.eq, hmoment.eq⟩

/-- Mappings are read alike if what stands under the known keys is. -/
theorem readsAlike {level : AnswerLevel} (h : level.KnownAlike entries others) :
    level.ReadsAlike (.mapping entries) (.mapping others) := by
  cases level with
  | answer =>
    have hcredentials : Field.credentials.optional IssuedCredentials.ofDatum entries =
        Field.credentials.optional IssuedCredentials.ofDatum others := by
      refine h.optional_eq Field.credentials (by simp [fields]) ?_
      rintro name value other (rfl | rfl) halike
      · exact halike
      · exact halike
    have huser : Field.assumedRoleUser.optional AssumedRoleUser.ofDatum entries =
        Field.assumedRoleUser.optional AssumedRoleUser.ofDatum others := by
      refine h.optional_eq Field.assumedRoleUser (by simp [fields]) ?_
      rintro name value other (rfl | rfl) halike
      · exact halike
      · exact halike
    change Response.ofDatum _ = Response.ofDatum _
    simp only [Response.ofDatum]
    rw [hcredentials, huser]
  | credentials =>
    have hid := h.required_eq rfl Field.accessKeyId (by simp [fields])
    have hsecret := h.required_eq rfl Field.secretAccessKey (by simp [fields])
    have htoken := h.required_eq rfl Field.sessionToken (by simp [fields])
    have hexpiration := h.required_eq rfl Field.expiration (by simp [fields])
    refine ⟨by simp, ?_⟩
    simp only [IssuedCredentials.ofDatum]
    rw [hid.1, hsecret.1, htoken.1, hexpiration.2]
  | user =>
    have hid := h.required_eq rfl Field.assumedRoleId (by simp [fields])
    have harn := h.required_eq rfl Field.arn (by simp [fields])
    refine ⟨by simp, ?_⟩
    simp only [AssumedRoleUser.ofDatum]
    rw [hid.1, harn.1]
  | elsewhere => exact readsAlike_parts rfl rfl

end KnownAlike

end

theorem rel_refl (level : AnswerLevel) (found : Option Datum) :
    Option.Rel level.ReadsAlike found found := by
  cases found with
  | none => exact .none
  | some value => exact .some (.refl level value)

end AnswerLevel

/-- What differs in unknown keys and in the order of keys only is read alike. -/
theorem Datum.SameKnown.readsAlike [FieldRules] {level : AnswerLevel} {d e : Datum}
    (h : SameKnown level d e) : level.ReadsAlike d e := by
  induction h with
  | refl d => exact .refl _ d
  | symm h ih => exact ih.symm
  | trans h h' ih ih' => exact ih.trans ih'
  | order h hdistinct =>
    apply AnswerLevel.KnownAlike.readsAlike
    intro key hkey
    rw [lookup?_perm h hdistinct]
    exact AnswerLevel.rel_refl _ _
  | @unknown level before after key h value =>
    apply AnswerLevel.KnownAlike.readsAlike
    intro name hname
    have hne : key ≠ name := by
      rintro rfl
      exact h hname
    rw [lookup?_append, lookup?_append, lookup?_cons_of_ne hne]
    exact AnswerLevel.rel_refl _ _
  | @entry level before after key value other h ih =>
    apply AnswerLevel.KnownAlike.readsAlike
    intro name hname
    rw [lookup?_append, lookup?_append]
    -- The first value under a key counts, so what stands behind another of its key has no say.
    cases lookup? name before with
    | some found => exact AnswerLevel.rel_refl _ _
    | none =>
      by_cases hkey : key = name
      · subst hkey
        rw [lookup?_cons_self, lookup?_cons_self]
        exact .some ih
      · rw [lookup?_cons_of_ne hkey, lookup?_cons_of_ne hkey]
        exact AnswerLevel.rel_refl _ _
  | item before after h ih => exact AnswerLevel.readsAlike_list _ _ _

/-- An answer is read for its known keys. -/
theorem Response.ofDatum_eq_of_sameKnown [FieldRules] {answer other : Datum}
    (h : Datum.SameKnown .answer answer other) : ofDatum answer = ofDatum other := h.readsAlike

end RoleChain
