import RoleChain.World

/-!
Inputs that are alike, that is, differ in secrets only. Secrets are the secret key and the session
token, wherever they stand, and the text of a token file. What is read from inputs that are alike
is alike, or it is refused for the same reason: whether there is a secret counts, and never which.
-/
namespace RoleChain

/-- The same failure, or values that are alike. -/
inductive ResultsAlike {ε α β : Type} (alike : α → β → Prop) : Except ε α → Except ε β → Prop
  | ok {a : α} {b : β} (h : alike a b) : ResultsAlike alike (.ok a) (.ok b)
  | error (e : ε) : ResultsAlike alike (.error e) (.error e)

namespace ResultsAlike

variable {ε ε' α β : Type} {alike weaker : α → β → Prop} {result : Except ε α} {other : Except ε β}

theorem mono (h : ResultsAlike alike result other) (hmono : ∀ a b, alike a b → weaker a b) :
    ResultsAlike weaker result other := by
  cases h with
  | ok h => exact .ok (hmono _ _ h)
  | error e => exact .error e

theorem mapError (h : ResultsAlike alike result other) (f : ε → ε') :
    ResultsAlike alike (result.mapError f) (other.mapError f) := by
  cases h with
  | ok h => exact .ok h
  | error e => exact .error (f e)

theorem of_ok {a : α} {b : β}
    (h : ResultsAlike alike (.ok a : Except ε α) (.ok b)) : alike a b := by
  cases h with
  | ok h => exact h

theorem eq_iff {result other : Except ε α} :
    ResultsAlike (· = ·) result other ↔ result = other := by
  constructor
  · intro h
    cases h with
    | ok h => rw [h]
    | error e => rfl
  · rintro rfl
    cases result with
    | ok a => exact .ok rfl
    | error e => exact .error e

end ResultsAlike

namespace Credentials

/-- Credentials that differ in the secret key and the session token only. -/
structure Alike (c d : Credentials) : Prop where
  accessKeyId_eq : c.accessKeyId = d.accessKeyId
  expiry_eq : c.expiry = d.expiry
  providerName_eq : c.providerName = d.providerName

theorem Alike.refl (c : Credentials) : c.Alike c := ⟨rfl, rfl, rfl⟩

theorem Alike.text_eq {c d : Credentials} (h : c.Alike d) : c.text = d.text := by
  simp only [text, h.accessKeyId_eq, h.expiry_eq, h.providerName_eq]

end Credentials

namespace Environment

def secretNames : List String := [secretAccessKey, legacySecretKey, sessionToken]

/-- The same variables up to secrets, with a secret key in both or in neither. -/
structure Alike (env other : Environment) : Prop where
  get_eq : ∀ name, name ∉ secretNames → env.get? name = other.get? name
  blank_iff : Text.trim env.rawSecret = "" ↔ Text.trim other.rawSecret = ""

theorem Alike.refl (env : Environment) : env.Alike env := ⟨fun _ _ => rfl, Iff.rfl⟩

theorem Alike.credentials {env other : Environment} (h : env.Alike other) :
    ResultsAlike Credentials.Alike env.credentials other.credentials := by
  have hid : env.value accessKeyId = other.value accessKeyId := by
    unfold value
    rw [h.get_eq accessKeyId (by decide)]
  unfold Environment.credentials
  rw [hid]
  by_cases hmissing : Text.trim (other.value accessKeyId) = ""
  · simp only [hmissing, if_true]
    exact .error _
  by_cases hblank : Text.trim other.rawSecret = ""
  · simp only [hmissing, h.blank_iff.mpr hblank, hblank, if_true, if_false]
    exact .error _
  · have hsecret : Text.trim env.rawSecret ≠ "" := fun heq => hblank (h.blank_iff.mp heq)
    simp only [hmissing, hsecret, hblank, if_false]
    exact .ok ⟨rfl, rfl, rfl⟩

end Environment

/-- The same bytes, or two texts. -/
def Text.ContentsAlike (content other : List UInt8) : Prop :=
  content = other ∨ (∃ s, Text.ofFile content = .ok s) ∧ ∃ t, Text.ofFile other = .ok t

/-- The same files, up to what the text files say. -/
def Files.Alike (files other : Files) : Prop :=
  ∀ path, ResultsAlike Text.ContentsAlike (files.read path) (other.read path)

theorem Files.Alike.refl (files : Files) : files.Alike files := by
  intro path
  cases files.read path with
  | ok content => exact .ok (Or.inl rfl)
  | error e => exact .error e

end RoleChain
