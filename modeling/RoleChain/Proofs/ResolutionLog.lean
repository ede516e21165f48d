import RoleChain.Proofs.WrittenRecords

/-!
The log of a resolution. When a profile is resolved, one record tells of its base and one of each
role, in order, and no other record is written. The records are lines of visible characters, and
they tell the profile but for the secrets of a key.
-/
namespace RoleChain

open Text

variable {σ τ α β : Type}

/-- The records of the level that tells what was resolved. -/
def Ran.infos (ran : Ran σ α) : List Record :=
  ran.records.filter fun record => decide (record.level = .info)

theorem Ran.records_andThen (ran : Ran σ α) {value : α} (h : ran.result = .ok value)
    (next : α → World σ → Ran σ β) :
    (ran.andThen next).records = ran.records ++ (next value ran.world).records := by
  obtain ⟨result, w, events⟩ := ran
  cases h
  exact List.filterMap_append ..

theorem Ran.exists_of_andThen_ok {ran : Ran σ α} {next : α → World σ → Ran σ β} {b : β}
    (h : (ran.andThen next).result = .ok b) :
    ∃ value, ran.result = .ok value ∧ (next value ran.world).result = .ok b := by
  obtain ⟨_ | value, w, events⟩ := ran
  · cases h
  · exact ⟨value, rfl, h⟩

namespace Run

/-- What a run that goes on has written is what its two parts have written. -/
theorem records_bind_of_ok (service : Service σ) {run : Run α} {f : α → Run β} {w : World σ} {b : β}
    (h : ((run.bind f).perform service w).result = .ok b) :
    ∃ value v, (run.perform service w).result = .ok value ∧
      ((f value).perform service v).result = .ok b ∧
      ((run.bind f).perform service w).records =
        (run.perform service w).records ++ ((f value).perform service v).records := by
  rw [perform_bind] at h ⊢
  obtain ⟨value, hvalue, hnext⟩ := Ran.exists_of_andThen_ok h
  exact ⟨value, _, hvalue, hnext, Ran.records_andThen _ hvalue _⟩

end Run

/-- The record that tells of a base. -/
def Base.record (base : Base) : Record :=
  ⟨.info, Logger.resolution, "first credentials will be loaded from " ++ base.text⟩

def Role.record (role : Role) : Record :=
  ⟨.info, Logger.resolution, "which will be used to assume a role: " ++ role.text⟩

/-- All that is told of a profile: its base, and then its roles in order. -/
def Profile.log (profile : Profile) : List Record :=
  profile.base.record :: profile.roles.map Role.record

theorem perform_logRoles (service : Service σ) (roles : List Role) (w : World σ) :
    (logRoles roles).perform service w =
      ⟨.ok (), w, roles.map fun role => .logged role.record⟩ := by
  induction roles with
  | nil => rfl
  | cons role roles ih =>
    change ((logRoles roles).perform service w).after (.logged role.record) = _
    rw [ih]
    rfl

theorem records_logRoles (service : Service σ) (roles : List Role) (w : World σ) :
    ((logRoles roles).perform service w).records = roles.map Role.record := by
  rw [perform_logRoles]
  simp only [Ran.records, List.filterMap_map]
  exact congrFun List.filterMap_eq_map roles

/-- Nothing is written while a configuration is chosen. -/
theorem ClientConfiguration.records_orSettings (given : Option ClientConfiguration)
    (service : Service σ) (w : World σ) :
    ((orSettings given).perform service w).records = [] := by
  cases given <;> rfl

section

variable (registry : Registry) (configuration : ClientConfiguration) (service : Service σ)
  (w : World σ)

/-- Nothing is written while a base is looked up or made. -/
theorem Base.records_resolve (base : Base) :
    ((base.resolve registry configuration).perform service w).records = [] := by
  cases base with
  | named name =>
    simp only [resolve]
    cases registry.get? name <;> rfl
  | accessKey id secret token => rfl
  | webIdentity arn tokenFile sessionName =>
    cases sessionName with
    | some name => rfl
    | none =>
      simp only [resolve, Run.sessionName, bind, Run.bind, Run.perform]
      cases w.suffixes.next.1 <;> rfl
  | unsupported value => rfl

theorem Base.isDeclared_of_resolve {base : Base} {provider : Provider}
    (h : ((base.resolve registry configuration).perform service w).result = .ok provider) :
    base.IsDeclared := by
  cases base with
  | named | accessKey | webIdentity => trivial
  | unsupported value => cases h

end

/-- A profile that resolves has a base of a declared kind and leaves its log and no other record;
its chain has a hop for each role. -/
theorem Profile.records_resolve (profile : Profile) (registry : Registry)
    (building : Option ClientConfiguration) (service : Service σ) (w : World σ) {c : ProviderChain}
    (h : ((profile.resolve registry building).perform service w).result = .ok c) :
    profile.base.IsDeclared ∧ c.hops = profile.roles.map Hop.ofRole ∧
      ((profile.resolve registry building).perform service w).records = profile.log := by
  have hsteps : profile.resolve registry building =
      (ClientConfiguration.orSettings building).bind fun configuration =>
        (profile.base.resolve registry configuration).bind fun base =>
          (Run.log profile.base.record (.done ())).bind fun _ =>
            (logRoles profile.roles).bind fun _ =>
              .done ⟨base, profile.roles.map Hop.ofRole⟩ := rfl
  rw [hsteps] at h ⊢
  obtain ⟨configuration, v, -, hbase, hrecords⟩ := Run.records_bind_of_ok service h
  obtain ⟨base, u, hdeclared, hlogged, hbaseRecords⟩ := Run.records_bind_of_ok service hbase
  obtain ⟨-, t, -, hroles, hloggedRecords⟩ := Run.records_bind_of_ok service hlogged
  obtain ⟨-, s, -, hdone, hrolesRecords⟩ := Run.records_bind_of_ok service hroles
  refine ⟨Base.isDeclared_of_resolve registry configuration service v hdeclared, ?_, ?_⟩
  · cases hdone
    rfl
  · rw [hrecords, hbaseRecords, hloggedRecords, hrolesRecords,
      ClientConfiguration.records_orSettings, Base.records_resolve, records_logRoles]
    exact congrArg (profile.base.record :: ·) (List.append_nil _)

namespace Profile

theorem length_log (profile : Profile) : profile.log.length = 1 + profile.roles.length := by
  simp only [log, List.length_cons, List.length_map]
  omega

theorem level_of_mem_log {profile : Profile} {record : Record} (h : record ∈ profile.log) :
    record.level = .info := by
  rcases List.mem_cons.mp h with rfl | h
  · rfl
  · obtain ⟨role, -, rfl⟩ := List.mem_map.mp h
    rfl

theorem shown_of_mem_log {profile : Profile} (hbase : profile.base.IsDeclared) {record : Record}
    (h : record ∈ profile.log) : Shown record.message := by
  rcases List.mem_cons.mp h with rfl | h
  · have hwords : Shown "first credentials will be loaded from " := by decide +kernel
    exact hwords.append (Base.shown_text hbase)
  · obtain ⟨role, -, rfl⟩ := List.mem_map.mp h
    have hwords : Shown "which will be used to assume a role: " := by decide +kernel
    exact hwords.append role.shown_text

/-- Logs are the same if, and only if, the profiles are the same but for the secrets of a key. -/
theorem log_eq_iff {profile other : Profile} (h : profile.base.IsDeclared)
    (hother : other.base.IsDeclared) :
    profile.log = other.log ↔ profile.base.Alike other.base ∧ profile.roles = other.roles := by
  constructor
  · intro hlog
    obtain ⟨hbase, hroles⟩ := List.cons.inj hlog
    have htext := (String.append_right_inj _).mp (congrArg Record.message hbase)
    refine ⟨Base.alike_of_text h hother htext, ?_⟩
    refine (List.map_inj_right ?_).mp hroles
    intro role role' hrole
    exact Role.text_inj ((String.append_right_inj _).mp (congrArg Record.message hrole))
  · rintro ⟨hbase, hroles⟩
    simp only [log, Base.record, hbase.text_eq, hroles]

/-- The log of a resolution tells the profile, on one line for its base and one for each role, and
nothing else. It does not matter which registry and configuration the profile is resolved under. -/
theorem log_identifies (service : Service σ) (service' : Service τ) (profile other : Profile)
    (registry registry' : Registry) (building building' : Option ClientConfiguration)
    (w : World σ) (w' : World τ) {c c' : ProviderChain}
    (hc : ((profile.resolve registry building).perform service w).result = .ok c)
    (hc' : ((other.resolve registry' building').perform service' w').result = .ok c') :
    let built := (profile.resolve registry building).perform service w
    let built' := (other.resolve registry' building').perform service' w'
    built.infos = profile.base.record :: profile.roles.map Role.record ∧
    built.infos.length = 1 + c.hops.length ∧
    (∀ record ∈ built.infos, ∀ ch ∈ record.message.toList,
      isPrintable ch = true ∧ ch ∉ lineBreaks) ∧
    (built.infos = built'.infos ↔
      profile.base.Alike other.base ∧ profile.roles = other.roles) := by
  intro built built'
  have hinfos (p : Profile) : p.log.filter (fun record => decide (record.level = .info)) = p.log :=
    List.filter_eq_self.mpr fun record h => decide_eq_true (level_of_mem_log h)
  obtain ⟨hbase, hhops, hrecords⟩ := profile.records_resolve registry building service w hc
  obtain ⟨hbase', -, hrecords'⟩ := other.records_resolve registry' building' service' w' hc'
  have hlog : built.infos = profile.log := (congrArg _ hrecords).trans (hinfos profile)
  have hlog' : built'.infos = other.log := (congrArg _ hrecords').trans (hinfos other)
  refine ⟨hlog, ?_, ?_, ?_⟩
  · rw [hlog, length_log, hhops, List.length_map]
  · intro record hrecord ch hch
    rw [hlog] at hrecord
    have hshown := shown_of_mem_log hbase hrecord ch hch
    refine ⟨hshown, fun hbreak => ?_⟩
    rw [isPrintable_of_mem_lineBreaks ch hbreak] at hshown
    cases hshown
  · rw [hlog, hlog']
    exact log_eq_iff hbase hbase'

/-- An external id that is empty is not one that is absent, and keys are told by their ids only. -/
theorem log_identifies_externalId :
    let absent : Profile := ⟨.accessKey "id" "s" none, [{ arn := "a" }]⟩
    let empty : Profile := ⟨.accessKey "id" "t" (some "u"), [{ arn := "a", externalId := some "" }]⟩
    let w := World.bare "1" (ScriptState.start {})
    let built (p : Profile) := (p.resolve .standard none).perform ScriptState.service w
    ∃ c c', (built absent).result = .ok c ∧ (built empty).result = .ok c' ∧
      (built absent).infos.length = 2 ∧ (built absent).infos ≠ (built empty).infos ∧
      absent.base.Alike empty.base := by
  intro absent empty w built
  have hlog := log_identifies ScriptState.service ScriptState.service absent empty .standard
    .standard none none w w rfl rfl
  refine ⟨_, _, rfl, rfl, hlog.2.1, fun h => ?_, .accessKey _ _ _ _ _⟩
  have hroles := (hlog.2.2.2.mp h).2
  cases hroles

end Profile

end RoleChain
