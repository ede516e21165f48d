import RoleChain.LaxFields
import RoleChain.Proofs.BoundNames
import RoleChain.Proofs.Exchange
import RoleChain.Proofs.TrimmedText

/-!
Credentials from variables. They are read off four variables and nothing else: which of the two
names of the secret key is used, and what is left of a value without the blanks around it, decide
everything. A blank variable is as good as none but in one place: a secret key of blanks hides the
one under the older name.
-/
namespace RoleChain

namespace Environment

/-! ### Blank and selected variables -/

/-- Whether a variable is unset or has nothing but blanks for a value. -/
def IsBlank (env : Environment) (name : String) : Prop :=
  ∀ value, env.get? name = some value → Text.AllBlank value.toList

/-- The name that the secret key is read under: the older one if nothing is set under the other. -/
def secretName (env : Environment) : String :=
  match env.get? secretAccessKey with
  | none => legacySecretKey
  | some value => if value = "" then legacySecretKey else secretAccessKey

theorem value_of_get? {env : Environment} {name value : String} (h : env.get? name = some value) :
    env.value name = value := by
  rw [Environment.value, h]
  rfl

theorem not_isBlank_of_get? {env : Environment} {name value : String}
    (hget : env.get? name = some value) (hset : ¬ Text.AllBlank value.toList) :
    ¬ env.IsBlank name :=
  fun h => hset (h value hget)

theorem exists_value_of_not_isBlank {env : Environment} {name : String} (h : ¬ env.IsBlank name) :
    ∃ value, env.get? name = some value ∧ ¬ Text.AllBlank value.toList := by
  by_contra hnone
  exact h fun value hget => by_contra fun hset => hnone ⟨value, hget, hset⟩

theorem trim_value_eq_empty_iff (env : Environment) (name : String) :
    Text.trim (env.value name) = "" ↔ env.IsBlank name := by
  rw [Text.trim_eq_empty_iff]
  cases hget : env.get? name with
  | none =>
    have hvalue : env.value name = "" := by
      rw [Environment.value, hget]
      rfl
    rw [hvalue]
    refine ⟨fun _ value hvalue => ?_, fun _ c hc => ?_⟩
    · rw [hget] at hvalue
      cases hvalue
    · exact absurd hc List.not_mem_nil
  | some value =>
    rw [value_of_get? hget]
    refine ⟨fun hblank other hother => ?_, fun hblank => hblank value hget⟩
    rw [hget] at hother
    cases hother
    exact hblank

theorem rawSecret_eq (env : Environment) : env.rawSecret = env.value env.secretName := by
  unfold rawSecret secretName
  cases hget : env.get? secretAccessKey with
  | none =>
    have hvalue : env.value secretAccessKey = "" := by
      rw [Environment.value, hget]
      rfl
    rw [if_pos hvalue]
  | some value =>
    rw [value_of_get? hget]
    dsimp only
    split
    · rfl
    · exact (value_of_get? hget).symm

/-! ### What the variables hold -/

/-- The credentials that the variables hold if neither the key id nor the secret key is blank. -/
def held (env : Environment) : Credentials where
  accessKeyId := Text.trim (env.value accessKeyId)
  secretAccessKey := Text.trim (env.value env.secretName)
  sessionToken :=
    if Text.trim (env.value sessionToken) = "" then none
    else some (Text.trim (env.value sessionToken))
  providerName := "EnvironmentVariable"

theorem credentials_of_blank_id {env : Environment} (h : env.IsBlank accessKeyId) :
    env.credentials = .error (.variable accessKeyId) := by
  unfold credentials
  exact if_pos ((env.trim_value_eq_empty_iff accessKeyId).mpr h)

theorem credentials_of_blank_secret {env : Environment} (hid : ¬ env.IsBlank accessKeyId)
    (hsecret : env.IsBlank env.secretName) :
    env.credentials = .error (.variable secretAccessKey) := by
  have htrim : Text.trim env.rawSecret = "" := by
    rw [rawSecret_eq, trim_value_eq_empty_iff]
    exact hsecret
  unfold credentials
  rw [← trim_value_eq_empty_iff] at hid
  simp only [hid, htrim, if_true, if_false]

theorem credentials_of_set {env : Environment} (hid : ¬ env.IsBlank accessKeyId)
    (hsecret : ¬ env.IsBlank env.secretName) : env.credentials = .ok env.held := by
  rw [← trim_value_eq_empty_iff] at hid hsecret
  unfold credentials
  rw [rawSecret_eq]
  simp only [hid, hsecret, if_false]
  rfl

theorem credentials_eq_unset_id_iff (env : Environment) :
    env.credentials = .error (.variable accessKeyId) ↔ env.IsBlank accessKeyId := by
  refine ⟨fun h => ?_, credentials_of_blank_id⟩
  by_contra hid
  by_cases hsecret : env.IsBlank env.secretName
  · rw [credentials_of_blank_secret hid hsecret] at h
    simp [accessKeyId, secretAccessKey] at h
  · rw [credentials_of_set hid hsecret] at h
    cases h

theorem credentials_eq_ok_iff (env : Environment) (c : Credentials) :
    env.credentials = .ok c ↔
      ¬ env.IsBlank accessKeyId ∧ ¬ env.IsBlank env.secretName ∧ env.held = c := by
  constructor
  · intro h
    by_cases hid : env.IsBlank accessKeyId
    · rw [credentials_of_blank_id hid] at h
      cases h
    by_cases hsecret : env.IsBlank env.secretName
    · rw [credentials_of_blank_secret hid hsecret] at h
      cases h
    rw [credentials_of_set hid hsecret] at h
    exact ⟨hid, hsecret, Except.ok.inj h⟩
  · rintro ⟨hid, hsecret, rfl⟩
    exact credentials_of_set hid hsecret

theorem exists_credentials_iff (env : Environment) :
    (∃ c, env.credentials = .ok c) ↔ ¬ env.IsBlank accessKeyId ∧ ¬ env.IsBlank env.secretName := by
  constructor
  · rintro ⟨c, hc⟩
    obtain ⟨hid, hsecret, -⟩ := (env.credentials_eq_ok_iff c).mp hc
    exact ⟨hid, hsecret⟩
  · rintro ⟨hid, hsecret⟩
    exact ⟨_, credentials_of_set hid hsecret⟩

theorem credentials_eq_unset_secret_iff (env : Environment) :
    env.credentials = .error (.variable secretAccessKey) ↔
      ¬ env.IsBlank accessKeyId ∧ env.IsBlank env.secretName := by
  constructor
  · intro h
    have hid : ¬ env.IsBlank accessKeyId := by
      intro hid
      rw [credentials_of_blank_id hid] at h
      simp [accessKeyId, secretAccessKey] at h
    refine ⟨hid, ?_⟩
    by_contra hsecret
    rw [credentials_of_set hid hsecret] at h
    cases h
  · rintro ⟨hid, hsecret⟩
    exact credentials_of_blank_secret hid hsecret

/-- What is left of the three values is all that counts. -/
theorem credentials_congr {env other : Environment}
    (hid : Text.trim (env.value accessKeyId) = Text.trim (other.value accessKeyId))
    (hsecret : Text.trim (env.value env.secretName) = Text.trim (other.value other.secretName))
    (htoken : Text.trim (env.value sessionToken) = Text.trim (other.value sessionToken)) :
    env.credentials = other.credentials := by
  unfold credentials
  rw [rawSecret_eq, rawSecret_eq, hid, hsecret, htoken]

/-! ### Variables that come to the same -/

/-- Whether variables have the values that are looked at: the key id, the session token, and the
secret key under its names, of which the older one counts only if nothing is set under the other. -/
structure AgreesWith (env other : Environment) : Prop where
  accessKeyId_eq : other.get? accessKeyId = env.get? accessKeyId
  secret_eq : other.get? secretAccessKey = env.get? secretAccessKey
  legacy_eq : (∀ value, env.get? secretAccessKey = some value → value = "") →
    other.get? legacySecretKey = env.get? legacySecretKey
  token_eq : other.get? sessionToken = env.get? sessionToken

theorem secretName_eq_legacy {env : Environment}
    (h : ∀ value, env.get? secretAccessKey = some value → value = "") :
    env.secretName = legacySecretKey := by
  unfold secretName
  cases hget : env.get? secretAccessKey with
  | none => rfl
  | some value => exact if_pos (h value hget)

theorem secretName_eq {env : Environment} {value : String}
    (h : env.get? secretAccessKey = some value) (hvalue : value ≠ "") :
    env.secretName = secretAccessKey := by
  unfold secretName
  rw [h]
  exact if_neg hvalue

theorem exists_value_of_not_isEmpty {env : Environment} {name : String}
    (h : ¬ ∀ value, env.get? name = some value → value = "") :
    ∃ value, env.get? name = some value ∧ value ≠ "" := by
  by_contra hnone
  exact h fun value hget => by_contra fun hset => hnone ⟨value, hget, hset⟩

theorem AgreesWith.credentials_eq {env other : Environment} (h : env.AgreesWith other) :
    other.credentials = env.credentials := by
  have hvalue {name : String} (heq : other.get? name = env.get? name) :
      other.value name = env.value name := by
    unfold Environment.value
    rw [heq]
  have hname : other.secretName = env.secretName := by
    unfold secretName
    rw [h.secret_eq]
  have hsecret : other.value other.secretName = env.value env.secretName := by
    rw [hname]
    by_cases hunset : ∀ value, env.get? secretAccessKey = some value → value = ""
    · rw [secretName_eq_legacy hunset]
      exact hvalue (h.legacy_eq hunset)
    · obtain ⟨value, hget, hset⟩ := exists_value_of_not_isEmpty hunset
      rw [secretName_eq hget hset]
      exact hvalue h.secret_eq
  refine credentials_congr ?_ ?_ ?_
  · rw [hvalue h.accessKeyId_eq]
  · rw [hsecret]
  · rw [hvalue h.token_eq]

/-- Whether variables are the given ones but for blanks put around values that are not blank. -/
def PaddedTo (env other : Environment) : Prop :=
  ∀ name, other.get? name = env.get? name ∨ ∃ before value after,
    env.get? name = some value ∧ ¬ Text.AllBlank value.toList ∧
    Text.AllBlank before.toList ∧ Text.AllBlank after.toList ∧
    other.get? name = some (before ++ value ++ after)

theorem paddedTo_update {env : Environment} {name before value after : String}
    (hget : env.get? name = some value) (hset : ¬ Text.AllBlank value.toList)
    (hbefore : Text.AllBlank before.toList) (hafter : Text.AllBlank after.toList) :
    env.PaddedTo (env.update name (before ++ value ++ after)) := by
  intro other
  by_cases hname : other = name
  · subst hname
    exact Or.inr ⟨before, value, after, hget, hset, hbefore, hafter, env.get?_update _ _⟩
  · exact Or.inl (Bindings.get?_update_of_ne hname env _)

theorem PaddedTo.trim_value_eq {env other : Environment} (h : env.PaddedTo other) (name : String) :
    Text.trim (other.value name) = Text.trim (env.value name) := by
  rcases h name with heq | ⟨before, value, after, hget, -, hbefore, hafter, hother⟩
  · unfold Environment.value
    rw [heq]
  · rw [value_of_get? hget, value_of_get? hother, Text.trim, String.toList_append,
      String.toList_append, Text.trimChars_padded hbefore hafter, Text.trim]

theorem PaddedTo.secretName_eq {env other : Environment} (h : env.PaddedTo other) :
    other.secretName = env.secretName := by
  rcases h secretAccessKey with heq | ⟨before, value, after, hget, hset, -, -, hother⟩
  · unfold secretName
    rw [heq]
  · have hvalue : value ≠ "" := by
      rintro rfl
      exact hset fun c hc => absurd hc List.not_mem_nil
    have hpadded : before ++ value ++ after ≠ "" := by
      intro heq
      have hempty := congrArg String.toList heq
      rw [String.toList_append, String.toList_append, List.append_assoc] at hempty
      have hmiddle := (List.append_eq_nil_iff.mp (List.append_eq_nil_iff.mp hempty).2).1
      exact hvalue (String.toList_eq_nil_iff.mp hmiddle)
    rw [Environment.secretName_eq hget hvalue, Environment.secretName_eq hother hpadded]

theorem PaddedTo.credentials_eq {env other : Environment} (h : env.PaddedTo other) :
    other.credentials = env.credentials := by
  refine credentials_congr (h.trim_value_eq _) ?_ (h.trim_value_eq _)
  rw [h.secretName_eq, h.trim_value_eq]

end Environment

/-! ### Variables without the blank ones -/

/-- The bindings of some of the values. -/
def Bindings.keep {α : Type} (b : Bindings α) (p : α → Bool) : Bindings α where
  entries := b.entries.filter fun entry => p entry.2
  distinct := b.distinct.sublist (List.filter_sublist.map Prod.fst)

theorem Bindings.get?_keep {α : Type} (b : Bindings α) (p : α → Bool) (name : String) :
    (b.keep p).get? name = (b.get? name).filter p := by
  obtain ⟨entries, hdistinct⟩ := b
  unfold keep get?
  dsimp only
  induction entries with
  | nil => rfl
  | cons entry rest ih =>
    obtain ⟨hnew, hrest⟩ := List.nodup_cons.mp hdistinct
    simp only [List.filter_cons, List.find?_cons]
    by_cases hname : entry.1 = name
    · simp only [hname, decide_true, Option.map_some, Option.filter_some]
      split
      · simp only [List.find?_cons, hname, decide_true, Option.map_some]
      · -- The name stands nowhere else, so nothing is found once its entry is gone.
        rw [List.find?_eq_none.mpr, Option.map_none]
        intro other hother hsame
        apply hnew
        rw [hname, ← of_decide_eq_true hsame]
        exact List.mem_map_of_mem (List.mem_of_mem_filter hother)
    · simp only [hname, decide_false, ← ih hrest]
      split
      · simp only [List.find?_cons, hname, decide_false]
      · rfl

namespace Environment

def withoutBlanks (env : Environment) : Environment :=
  env.keep fun value => decide (¬ Text.AllBlank value.toList)

theorem get?_withoutBlanks_of_blank {env : Environment} {name : String} (h : env.IsBlank name) :
    env.withoutBlanks.get? name = none := by
  rw [withoutBlanks, Bindings.get?_keep]
  cases hget : env.get? name with
  | none => rfl
  | some value =>
    have hblank : Text.AllBlank value.toList := h value hget
    rw [Option.filter_some, if_neg]
    simpa using hblank

theorem get?_withoutBlanks_of_set {env : Environment} {name : String} (h : ¬ env.IsBlank name) :
    env.withoutBlanks.get? name = env.get? name := by
  obtain ⟨value, hget, hset⟩ := exists_value_of_not_isBlank h
  rw [withoutBlanks, Bindings.get?_keep, hget, Option.filter_some, if_pos (decide_eq_true hset)]

theorem isBlank_withoutBlanks_iff (env : Environment) (name : String) :
    env.withoutBlanks.IsBlank name ↔ env.IsBlank name := by
  by_cases h : env.IsBlank name
  · refine ⟨fun _ => h, fun _ value hvalue => ?_⟩
    rw [get?_withoutBlanks_of_blank h] at hvalue
    cases hvalue
  · unfold IsBlank
    rw [get?_withoutBlanks_of_set h]

theorem trim_value_withoutBlanks (env : Environment) (name : String) :
    Text.trim (env.withoutBlanks.value name) = Text.trim (env.value name) := by
  by_cases h : env.IsBlank name
  · rw [(env.trim_value_eq_empty_iff name).mpr h, trim_value_eq_empty_iff,
      isBlank_withoutBlanks_iff]
    exact h
  · unfold Environment.value
    rw [get?_withoutBlanks_of_set h]

/-- Whether a secret key of blanks stands before a usable one under the older name. -/
structure HidesLegacy (env : Environment) : Prop where
  accessKeyId_set : ¬ env.IsBlank accessKeyId
  secret_blank : ∃ value, env.get? secretAccessKey = some value ∧ value ≠ "" ∧
    Text.AllBlank value.toList
  legacy_set : ¬ env.IsBlank legacySecretKey

theorem HidesLegacy.secret_isBlank {env : Environment} (h : env.HidesLegacy) :
    env.IsBlank secretAccessKey := by
  obtain ⟨value, hget, -, hblank⟩ := h.secret_blank
  intro other hother
  rw [hget] at hother
  cases hother
  exact hblank

theorem HidesLegacy.credentials_eq {env : Environment} (h : env.HidesLegacy) :
    env.credentials = .error (.variable secretAccessKey) := by
  obtain ⟨value, hget, hvalue, -⟩ := h.secret_blank
  refine credentials_of_blank_secret h.accessKeyId_set ?_
  rw [secretName_eq hget hvalue]
  exact h.secret_isBlank

theorem secretName_withoutBlanks {env : Environment} (h : env.IsBlank secretAccessKey) :
    env.withoutBlanks.secretName = legacySecretKey := by
  refine secretName_eq_legacy fun value hvalue => ?_
  rw [get?_withoutBlanks_of_blank h] at hvalue
  cases hvalue

theorem secretName_of_set {env : Environment} (h : ¬ env.IsBlank secretAccessKey) :
    env.secretName = secretAccessKey := by
  obtain ⟨value, hget, hset⟩ := exists_value_of_not_isBlank h
  refine secretName_eq hget ?_
  rintro rfl
  exact hset fun c hc => absurd hc List.not_mem_nil

theorem credentials_withoutBlanks_of_name {env : Environment}
    (h : env.withoutBlanks.secretName = env.secretName) :
    env.withoutBlanks.credentials = env.credentials := by
  refine credentials_congr (env.trim_value_withoutBlanks _) ?_ (env.trim_value_withoutBlanks _)
  rw [h, trim_value_withoutBlanks]

theorem HidesLegacy.credentials_withoutBlanks {env : Environment} (h : env.HidesLegacy) :
    env.withoutBlanks.credentials = .ok env.withoutBlanks.held := by
  apply credentials_of_set
  · rw [isBlank_withoutBlanks_iff]
    exact h.accessKeyId_set
  · rw [secretName_withoutBlanks h.secret_isBlank, isBlank_withoutBlanks_iff]
    exact h.legacy_set

theorem isBlank_secretName_iff {env : Environment} (hid : ¬ env.IsBlank accessKeyId) :
    env.IsBlank env.secretName ↔
      env.IsBlank secretAccessKey ∧ env.IsBlank legacySecretKey ∨ env.HidesLegacy := by
  by_cases hsecret : env.IsBlank secretAccessKey
  · by_cases hunset : ∀ value, env.get? secretAccessKey = some value → value = ""
    · rw [secretName_eq_legacy hunset]
      refine ⟨fun hlegacy => Or.inl ⟨hsecret, hlegacy⟩, ?_⟩
      rintro (⟨-, hlegacy⟩ | h)
      · exact hlegacy
      · obtain ⟨value, hget, hvalue, -⟩ := h.secret_blank
        exact absurd (hunset value hget) hvalue
    · obtain ⟨value, hget, hvalue⟩ := exists_value_of_not_isEmpty hunset
      rw [secretName_eq hget hvalue]
      refine ⟨fun _ => ?_, fun _ => hsecret⟩
      by_cases hlegacy : env.IsBlank legacySecretKey
      · exact Or.inl ⟨hsecret, hlegacy⟩
      · exact Or.inr ⟨hid, ⟨value, hget, hvalue, hsecret value hget⟩, hlegacy⟩
  · rw [secretName_of_set hsecret]
    refine ⟨fun hblank => absurd hblank hsecret, ?_⟩
    rintro (⟨hblank, -⟩ | h)
    · exact hblank
    · exact h.secret_isBlank

/-- But for a secret key of blanks before a usable one, blank variables have no say. -/
theorem credentials_withoutBlanks {env : Environment} (h : ¬ env.HidesLegacy) :
    env.withoutBlanks.credentials = env.credentials := by
  by_cases hid : env.IsBlank accessKeyId
  · rw [credentials_of_blank_id hid,
      credentials_of_blank_id ((env.isBlank_withoutBlanks_iff _).mpr hid)]
  by_cases hsecret : env.IsBlank secretAccessKey
  · have hname := secretName_withoutBlanks hsecret
    by_cases hunset : ∀ value, env.get? secretAccessKey = some value → value = ""
    · exact credentials_withoutBlanks_of_name (hname.trans (secretName_eq_legacy hunset).symm)
    · obtain ⟨value, hget, hvalue⟩ := exists_value_of_not_isEmpty hunset
      have hlegacy : env.IsBlank legacySecretKey := by
        by_contra hset
        exact h ⟨hid, ⟨value, hget, hvalue, hsecret value hget⟩, hset⟩
      have hselected : env.IsBlank env.secretName := by
        rw [secretName_eq hget hvalue]
        exact hsecret
      have hcleared : env.withoutBlanks.IsBlank env.withoutBlanks.secretName := by
        rw [hname, isBlank_withoutBlanks_iff]
        exact hlegacy
      rw [credentials_of_blank_secret hid hselected, credentials_of_blank_secret
        (fun hblank => hid ((env.isBlank_withoutBlanks_iff _).mp hblank)) hcleared]
  · have hcleared : ¬ env.withoutBlanks.IsBlank secretAccessKey :=
      fun hblank => hsecret ((env.isBlank_withoutBlanks_iff _).mp hblank)
    exact credentials_withoutBlanks_of_name
      ((secretName_of_set hcleared).trans (secretName_of_set hsecret).symm)

end Environment

/-! ### The provider of variables -/

section

variable {σ : Type} (service : Service σ)

/-- Whether a text is not empty and neither begins nor ends with a blank. -/
def Text.IsKept (s : String) : Prop := s ≠ "" ∧ Trimmed s.toList

theorem Text.isKept_trim {s : String} (h : trim s ≠ "") : IsKept (trim s) := by
  refine ⟨h, ?_⟩
  rw [toList_trim]
  exact trimmed_trimChars _

def Raised.unset (name : String) : Raised := (Failure.notLoaded (.variable name)).alone

namespace Environment

/-- What is seen of a reading of variables: a record, if there are credentials in them. -/
def events : Except NotLoaded Credentials → List Event
  | .error _ => []
  | .ok _ => [.logged ⟨.debug, Logger.environment, "loaded credentials from environment"⟩]

theorem perform_load (env : Environment) (w : World σ) :
    env.load.perform service w =
      ⟨env.credentials.mapError fun reason => (Failure.notLoaded reason).alone, w,
        events env.credentials⟩ := by
  unfold load
  cases env.credentials with
  | error reason => rfl
  | ok held => rfl

end Environment

/-- Credentials as they are read off variables: no text in them is empty or begins or ends with a
blank, and they do not expire. -/
structure Credentials.AreKept (c : Credentials) : Prop where
  accessKeyId : Text.IsKept c.accessKeyId
  secretAccessKey : Text.IsKept c.secretAccessKey
  sessionToken : ∀ token, c.sessionToken = some token → Text.IsKept token
  expiry_eq : c.expiry = none
  providerName_eq : c.providerName = "EnvironmentVariable"

theorem Environment.areKept_held {env : Environment} (hid : ¬ env.IsBlank accessKeyId)
    (hsecret : ¬ env.IsBlank env.secretName) : env.held.AreKept := by
  rw [← trim_value_eq_empty_iff] at hid hsecret
  refine ⟨Text.isKept_trim hid, Text.isKept_trim hsecret, fun token htoken => ?_, rfl, rfl⟩
  unfold held at htoken
  dsimp only at htoken
  split at htoken
  · cases htoken
  · next hset =>
    cases htoken
    exact Text.isKept_trim hset

namespace Provider

theorem perform_environment [FieldRules] (given : Option Environment) (w : World σ) :
    (environment given).provide.perform service w =
      (given.getD w.environment).load.perform service w := by
  cases given with
  | none => simp only [provide, Run.perform, Option.getD_none]
  | some env => simp only [provide, Option.getD_some]

theorem result_environment [FieldRules] (given : Option Environment) (w : World σ) :
    ((environment given).provide.perform service w).result =
      (given.getD w.environment).credentials.mapError fun reason =>
        (Failure.notLoaded reason).alone := by
  rw [perform_environment, Environment.perform_load]

open Environment in
theorem result_environment_eq_ok_iff [FieldRules] (given : Option Environment) (w : World σ)
    (c : Credentials) :
    ((environment given).provide.perform service w).result = .ok c ↔
      (given.getD w.environment).credentials = .ok c := by
  rw [result_environment]
  cases (given.getD w.environment).credentials with
  | error reason =>
    constructor <;> intro h <;> cases h
  | ok held => simp only [mapError_ok, Except.ok.injEq]

theorem result_environment_eq_unset_iff [FieldRules] (given : Option Environment) (w : World σ)
    (name : String) :
    ((environment given).provide.perform service w).result = .error (Raised.unset name) ↔
      (given.getD w.environment).credentials = .error (.variable name) := by
  rw [result_environment]
  cases (given.getD w.environment).credentials with
  | error reason =>
    simp only [mapError_error, Raised.unset, Failure.alone, Except.error.injEq, Raised.mk.injEq,
      Failure.notLoaded.injEq, and_true]
  | ok held =>
    constructor <;> intro h <;> cases h

open Environment in
/-- A provider of variables, given ones or those of the process, supplies credentials unless the key
id is blank, which is told first, or the secret key is, under the name that it is read under. Blanks
around values have no say, nor have other variables, nor has the older name of the secret key if
something is set under the other. -/
theorem environment_reads [FieldRules] (given : Option Environment) (w : World σ) :
    let env := given.getD w.environment
    let ran := (environment given).provide.perform service w
    (∀ c, ran.result = .ok c → c.AreKept) ∧
    (∀ given' (w' : World σ),
      let env' := given'.getD w'.environment
      let ran' := (environment given').provide.perform service w'
      env.AgreesWith env' ∨ env.PaddedTo env' →
        ran'.result = ran.result ∧ ran'.events = ran.events) ∧
    (ran.result = .error (Raised.unset accessKeyId) ↔ env.IsBlank accessKeyId) ∧
    (ran.result = .error (Raised.unset secretAccessKey) ↔
      ¬ env.IsBlank accessKeyId ∧ env.IsBlank env.secretName) ∧
    ((∃ c, ran.result = .ok c) ↔ ¬ env.IsBlank accessKeyId ∧ ¬ env.IsBlank env.secretName) := by
  intro env ran
  have hok (c : Credentials) : ran.result = .ok c ↔ env.credentials = .ok c :=
    result_environment_eq_ok_iff service given w c
  refine ⟨?_, ?_, ?_, ?_, ?_⟩
  · intro c hc
    obtain ⟨hid, hsecret, rfl⟩ := (env.credentials_eq_ok_iff c).mp ((hok c).mp hc)
    exact areKept_held hid hsecret
  · intro given' w' env' ran' h
    have hcredentials : env'.credentials = env.credentials :=
      h.elim AgreesWith.credentials_eq PaddedTo.credentials_eq
    have hran : ran = _ := perform_environment service given w
    have hran' : ran' = _ := perform_environment service given' w'
    rw [hran, hran', perform_load, perform_load, hcredentials]
    exact ⟨rfl, rfl⟩
  · exact (result_environment_eq_unset_iff service given w _).trans env.credentials_eq_unset_id_iff
  · exact (result_environment_eq_unset_iff service given w _).trans
      env.credentials_eq_unset_secret_iff
  · exact (exists_congr hok).trans env.exists_credentials_iff

section

attribute [local instance] FieldRules.lax

open Environment in
/-- Blanks of several kinds around the secret key, which stands under its older name. -/
theorem environment_reads_padded :
    let env : Environment :=
      .ofList [(accessKeyId, "id"), (secretAccessKey, ""), (legacySecretKey, "key")]
    let env' : Environment := env.update legacySecretKey ("\u2003\t" ++ "key" ++ "\r\n")
    let service : Service Unit := ⟨fun _ _ => none, fun _ _ => (.silence, ())⟩
    let w : World Unit := World.bare "1" ()
    let c : Credentials :=
      { accessKeyId := "id", secretAccessKey := "key", providerName := "EnvironmentVariable" }
    env.PaddedTo env' ∧ ((environment (some env)).provide.perform service w).result = .ok c ∧
      ((environment (some env')).provide.perform service w).result = .ok c := by
  intro env env' service w c
  have hid : env.get? accessKeyId = some "id" := rfl
  have hlegacy : env.get? legacySecretKey = some "key" := rfl
  have hpadded : env.PaddedTo env' :=
    paddedTo_update hlegacy (by decide) (by decide) (by decide)
  have hresult : ((environment (some env)).provide.perform service w).result = .ok c := by
    refine (result_environment_eq_ok_iff service (some env) w c).mpr ?_
    exact (env.credentials_eq_ok_iff c).mpr ⟨not_isBlank_of_get? hid (by decide),
      not_isBlank_of_get? hlegacy (by decide), by decide +kernel⟩
  have hsame := (environment_reads service (some env) w).2.1 (some env') w (Or.inr hpadded)
  exact ⟨hpadded, hresult, hsame.1.trans hresult⟩

end

open Environment in
/-- Variables that are blank have no say, unless a secret key of blanks hides a usable one under the
older name: then the secret key counts as missing, and without the blank variables it would not. -/
theorem environment_blanks [FieldRules] (given : Option Environment) (w : World σ) :
    let env := given.getD w.environment
    let ran := (environment given).provide.perform service w
    let cleared := (environment (given.map withoutBlanks)).provide.perform service
      { w with environment := w.environment.withoutBlanks }
    (cleared.result = ran.result ↔ ¬ env.HidesLegacy) ∧
    (env.HidesLegacy → ran.result = .error (Raised.unset secretAccessKey) ∧
      cleared.result = .ok env.withoutBlanks.held) ∧
    ((∃ c, ran.result = .ok c) ↔ ¬ env.IsBlank accessKeyId ∧
      ¬ (env.IsBlank secretAccessKey ∧ env.IsBlank legacySecretKey) ∧ ¬ env.HidesLegacy) := by
  intro env ran cleared
  have hresult : ran.result = env.credentials.mapError fun reason =>
    (Failure.notLoaded reason).alone := result_environment service given w
  have hcleared : cleared.result = env.withoutBlanks.credentials.mapError fun reason =>
      (Failure.notLoaded reason).alone := by
    have heq : (given.map withoutBlanks).getD w.environment.withoutBlanks = env.withoutBlanks := by
      cases given <;> rfl
    rw [← heq]
    exact result_environment service _ _
  have hhidden (h : env.HidesLegacy) : ran.result = .error (Raised.unset secretAccessKey) ∧
      cleared.result = .ok env.withoutBlanks.held := by
    rw [hresult, hcleared, h.credentials_eq, h.credentials_withoutBlanks]
    exact ⟨rfl, rfl⟩
  refine ⟨⟨fun heq h => ?_, fun h => ?_⟩, hhidden, ?_⟩
  · rw [(hhidden h).1, (hhidden h).2] at heq
    cases heq
  · rw [hresult, hcleared, credentials_withoutBlanks h]
  · have hok (c : Credentials) : ran.result = .ok c ↔ env.credentials = .ok c :=
      result_environment_eq_ok_iff service given w c
    refine (exists_congr hok).trans (env.exists_credentials_iff.trans ?_)
    refine and_congr_right fun hid => ?_
    rw [isBlank_secretName_iff hid, not_or]

attribute [local instance] FieldRules.lax

open Environment in
/-- A secret key of one blank before a usable one. -/
theorem environment_blanks_hidden :
    let env : Environment :=
      .ofList [(accessKeyId, "AKIDENV"), (secretAccessKey, " "), (legacySecretKey, "legacy")]
    let service : Service Unit := ⟨fun _ _ => none, fun _ _ => (.silence, ())⟩
    let w : World Unit := World.bare "1" ()
    env.HidesLegacy ∧
      ((environment (some env)).provide.perform service w).result =
        .error (Raised.unset secretAccessKey) ∧
      ((environment (some env.withoutBlanks)).provide.perform service w).result =
        .ok env.withoutBlanks.held ∧
      env.withoutBlanks.held.secretAccessKey = "legacy" := by
  intro env service w
  have hhides : env.HidesLegacy := by
    have hid : env.get? accessKeyId = some "AKIDENV" := rfl
    have hlegacy : env.get? legacySecretKey = some "legacy" := rfl
    exact ⟨not_isBlank_of_get? hid (by decide), ⟨" ", rfl, by decide, by decide⟩,
      not_isBlank_of_get? hlegacy (by decide)⟩
  obtain ⟨hresult, hcleared⟩ := (environment_blanks service (some env) w).2.1 hhides
  exact ⟨hhides, hresult, hcleared, by decide +kernel⟩

end Provider

end

end RoleChain
