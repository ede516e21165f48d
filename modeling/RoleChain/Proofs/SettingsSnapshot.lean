import RoleChain.Proofs.Footprint
import RoleChain.Proofs.SettingsFields
import RoleChain.Resolution

/-!
Settings as a snapshot. Variables and files change, settings are configured, readers look at them
and configurations are made from them, in any order. Whoever looks is given what the last successful
configuration has built, from the variables and files that there were at that moment. One that fails
changes nothing, and whatever holds a configuration keeps it.
-/
namespace RoleChain

variable {σ : Type}

/-- A reader that is given the settings in force remembers those. -/
theorem SettingsStore.read_of_isCurrent {store : SettingsStore} (h : store.isCurrent = true) :
    store.read.1 = store.current ∧ store.read.2.current = store.current ∧
      store.read.2.isCurrent = true := by
  obtain ⟨current, _ | _ | settings⟩ := store
  · exact ⟨rfl, rfl, rfl⟩
  · exact ⟨rfl, rfl, rfl⟩
  · cases h

/-- What happens to settings and around them. -/
inductive SettingsAct where
  | change (environment : Environment) (files : Files)
  | configure (given : List (String × Datum))
  | read
  /-- A configuration is made from the settings, over a transport or the standard one. -/
  | derive (transport : Option Transport)

/-- What whoever acts is told. -/
inductive SettingsNews where
  | nothing
  | refused (failure : Failure)
  | settings (settings : Settings)
  | configuration (result : Except Raised ClientConfiguration)

namespace SettingsAct

/-- What an act tells, and the world after it. -/
def step (library : Settings.Library) (service : Service σ) :
    SettingsAct → World σ → SettingsNews × World σ
  | change environment files, w => (.nothing, { w with environment := environment, files := files })
  | configure given, w =>
    match w.settings.configure library w.environment w.files given with
    | .error failure => (.refused failure, w)
    | .ok store => (.nothing, { w with settings := store })
  | read, w => (.settings w.settings.read.1, { w with settings := w.settings.read.2 })
  | derive transport, w =>
    let ran := (ClientConfiguration.fromSettings transport).perform service w
    (.configuration ran.result, ran.world)

def after (library : Settings.Library) (service : Service σ) (acts : List SettingsAct)
    (w : World σ) : World σ :=
  acts.foldl (fun w act => (act.step library service w).2) w

/-- Whether an act in a world builds settings. -/
def Builds (library : Settings.Library) (act : SettingsAct) (w : World σ) (s : Settings) : Prop :=
  ∃ given, act = configure given ∧ Settings.ask library w.environment w.files given = .ok s

/-- Whether none of several acts builds settings. -/
def NoneBuilds (library : Settings.Library) (service : Service σ) (w : World σ)
    (acts : List SettingsAct) : Prop :=
  ∀ earlier act later, acts = earlier ++ act :: later →
    ∀ s, ¬ act.Builds library (after library service earlier w) s

/-- The settings in force after acts: those that the last successful configuration has built, where
and when it did, or those at the start if none has succeeded. -/
inductive InForce (library : Settings.Library) (service : Service σ) (w : World σ) :
    List SettingsAct → Settings → Prop
  | start {acts : List SettingsAct} (rest : NoneBuilds library service w acts) :
      InForce library service w acts w.settings.current
  | built {earlier later : List SettingsAct} {given : List (String × Datum)} {s : Settings}
      (ask : Settings.ask library (after library service earlier w).environment
        (after library service earlier w).files given = .ok s)
      (rest : NoneBuilds library service (after library service (earlier ++ [configure given]) w)
        later) :
      InForce library service w (earlier ++ configure given :: later) s

section

variable {library : Settings.Library} {service : Service σ} {w : World σ}
  {acts : List SettingsAct} {act : SettingsAct}

theorem after_append (library : Settings.Library) (service : Service σ)
    (acts more : List SettingsAct) (w : World σ) :
    after library service (acts ++ more) w =
      after library service more (after library service acts w) :=
  List.foldl_append

theorem NoneBuilds.concat (h : NoneBuilds library service w acts)
    (hact : ∀ s, ¬ act.Builds library (after library service acts w) s) :
    NoneBuilds library service w (acts ++ [act]) := by
  intro earlier other later heq
  rcases List.eq_nil_or_concat later with rfl | ⟨later, last, rfl⟩
  · obtain ⟨rfl, hlast⟩ := List.append_inj' heq rfl
    cases hlast
    exact hact
  · rw [List.concat_eq_append, ← List.cons_append, ← List.append_assoc] at heq
    obtain ⟨hacts, -⟩ := List.append_inj' heq rfl
    exact h earlier other later hacts

theorem InForce.concat {s : Settings} (h : InForce library service w acts s)
    (hact : ∀ s, ¬ act.Builds library (after library service acts w) s) :
    InForce library service w (acts ++ [act]) s := by
  cases h with
  | start rest => exact .start (rest.concat hact)
  | @built earlier later given s ask rest =>
    rw [List.append_assoc, List.cons_append]
    refine .built ask (rest.concat ?_)
    rw [← after_append, List.append_assoc, List.singleton_append]
    exact hact

theorem step_configure_ok {given : List (String × Datum)} {s : Settings}
    (h : Settings.ask library w.environment w.files given = .ok s) :
    (configure given).step library service w = (.nothing, { w with settings := .fresh s }) := by
  simp only [step, SettingsStore.configure, h, Except.map]

theorem step_configure_error {given : List (String × Datum)} {failure : Failure}
    (h : Settings.ask library w.environment w.files given = .error failure) :
    (configure given).step library service w = (.refused failure, w) := by
  simp only [step, SettingsStore.configure, h, Except.map]

/-- An act puts the settings that it builds in force, and readers forget others. If it builds none,
readers are given what they were. -/
theorem store_step (library : Settings.Library) (service : Service σ)
    (h : w.settings.isCurrent = true) (act : SettingsAct) :
    let v := (act.step library service w).2
    v.settings.isCurrent = true ∧
      ((∃ s, act.Builds library w s ∧ v.settings.current = s) ∨
        ((∀ s, ¬ act.Builds library w s) ∧ v.settings.current = w.settings.current)) := by
  have hidle {act : SettingsAct} (hact : ∀ given, act ≠ configure given) (s : Settings) :
      ¬ act.Builds library w s := by
    rintro ⟨given, rfl, -⟩
    exact hact given rfl
  obtain ⟨-, hcurrent, hread⟩ := SettingsStore.read_of_isCurrent h
  cases act with
  | change environment files => exact ⟨h, Or.inr ⟨hidle nofun, rfl⟩⟩
  | read => exact ⟨hread, Or.inr ⟨hidle nofun, hcurrent⟩⟩
  | derive transport => exact ⟨hread, Or.inr ⟨hidle nofun, hcurrent⟩⟩
  | configure given =>
    cases hask : Settings.ask library w.environment w.files given with
    | ok s =>
      rw [step_configure_ok hask]
      exact ⟨rfl, Or.inl ⟨s, ⟨given, rfl, hask⟩, rfl⟩⟩
    | error failure =>
      rw [step_configure_error hask]
      refine ⟨h, Or.inr ⟨?_, rfl⟩⟩
      rintro s ⟨_, heq, hbuilt⟩
      cases heq
      rw [hask] at hbuilt
      cases hbuilt

theorem step_of_refused {given : List (String × Datum)} {failure : Failure}
    (h : ((configure given).step library service w).1 = .refused failure) :
    ((configure given).step library service w).2 = w := by
  cases hask : Settings.ask library w.environment w.files given with
  | ok s =>
    rw [step_configure_ok hask] at h
    cases h
  | error failure => rw [step_configure_error hask]

/-- After any acts readers are given the settings in force. -/
theorem inForce_after (library : Settings.Library) (service : Service σ)
    (h : w.settings.isCurrent = true)
    (acts : List SettingsAct) :
    (after library service acts w).settings.isCurrent = true ∧
      InForce library service w acts (after library service acts w).settings.current := by
  induction acts using List.reverseRecOn with
  | nil =>
    refine ⟨h, .start ?_⟩
    intro earlier act later heq
    exact absurd heq (by simp)
  | append_singleton acts act ih =>
    obtain ⟨hcurrent, hforce⟩ := ih
    have hafter : after library service (acts ++ [act]) w =
        (act.step library service (after library service acts w)).2 :=
      after_append library service acts [act] w
    rw [hafter]
    obtain ⟨hstep, ⟨s, ⟨given, rfl, hask⟩, hput⟩ | ⟨hidle, hkept⟩⟩ :=
      store_step library service hcurrent act
    · rw [hput]
      refine ⟨hstep, .built hask ?_⟩
      intro earlier act later heq
      exact absurd heq (by simp)
    · rw [hkept]
      exact ⟨hstep, hforce.concat hidle⟩

end

end SettingsAct

/-- Settings are a snapshot: whatever happens, in any order, readers are given what the last
successful configuration has built. -/
structure Settings.IsSnapshot [FieldRules] (library : Settings.Library) (service : Service σ)
    (w : World σ) : Prop where
  /-- Reads, and configurations that are made from the settings, are given the settings in force. -/
  told : ∀ before : List SettingsAct, ∃ s, SettingsAct.InForce library service w before s ∧
    let v := SettingsAct.after library service before w
    (SettingsAct.read.step library service v).1 = .settings s ∧
    ∀ transport, ((SettingsAct.derive transport).step library service v).1 =
      .configuration (.ok ⟨some (transport.getD .standard), s.region, s.endpointUrl⟩)
  /-- A configuration that fails leaves all as it is. -/
  refused : ∀ (before : List SettingsAct) (given : List (String × Datum)) (failure : Failure),
    let v := SettingsAct.after library service before w
    ((SettingsAct.configure given).step library service v).1 = .refused failure →
      ((SettingsAct.configure given).step library service v).2 = v
  /-- A provider, with the configurations that it holds, does the same whichever settings are in
  force, and leaves those. -/
  kept : ∀ (before : List SettingsAct) (p : Provider) (store : SettingsStore),
    let v := SettingsAct.after library service before w
    let ran := p.provide.perform service v
    p.provide.perform service { v with settings := store } =
      { ran with world := { ran.world with settings := store } }
  /-- What a configuration builds comes from where it should at that moment. -/
  fields : ∀ (environment : Environment) (files : Files) (given : List (String × Datum))
    (s : Settings), ¬ NamesOneOf [sourcesOption] given → ¬ NamesOneOf namingOptions given →
    ask library environment files given = .ok s →
      ∀ field, FieldIs library environment files given field (s.value field)

/-- Over any library that keeps its promises, settings are a snapshot with an update that is all or
nothing. -/
theorem Settings.snapshot [FieldRules] (library : Settings.Library) (hlibrary : library.Lawful)
    (service : Service σ) (w : World σ) (h : w.settings.isCurrent = true) :
    IsSnapshot library service w := by
  refine ⟨fun before => ?_, fun before given failure => SettingsAct.step_of_refused,
    fun before p store => ?_, fun environment files given s hsources hnaming hask => ?_⟩
  · obtain ⟨hcurrent, hforce⟩ := SettingsAct.inForce_after library service h before
    generalize SettingsAct.after library service before w = v at hcurrent hforce
    obtain ⟨hread, -⟩ := SettingsStore.read_of_isCurrent hcurrent
    refine ⟨v.settings.current, hforce, congrArg SettingsNews.settings hread, fun transport => ?_⟩
    change SettingsNews.configuration (.ok ⟨some (transport.getD .standard),
      v.settings.read.1.region, v.settings.read.1.endpointUrl⟩) = _
    rw [hread]
  · exact p.ignoresSettings_provide.perform_withSettings service _ store
  · exact hlibrary.fieldIs hsources hnaming (build_of_ask hask)

attribute [local instance] FieldRules.lax

/-- A configuration after a read, and a refused one after a change of the variable. -/
theorem Settings.snapshot_refused :
    let service : Service Unit := ⟨fun _ _ => none, fun _ _ => (.silence, ())⟩
    let w : World Unit := World.bare "1" ()
    let env : Environment := .ofList [("CREDENTIAL_CHAIN_STS_REGION", "us")]
    let given : List (String × Datum) := [("STS_Region", .text "eu")]
    let garbled : List (String × Datum) := [("sts_region", .int 3)]
    let before : List SettingsAct :=
      [.read, .configure given, .change env .empty, .configure garbled]
    let v := SettingsAct.after library service before w
    library.Lawful ∧ w.settings.isCurrent = true ∧
      (∃ s, SettingsAct.InForce library service w before s ∧
        (SettingsAct.read.step library service v).1 = .settings s ∧
        s.region = some "eu") ∧
      (∃ failure, ((SettingsAct.configure garbled).step library service v).1 = .refused failure) ∧
      ((SettingsAct.configure garbled).step library service v).2 = v ∧
      FieldIs library .empty .empty given .region (some "eu") := by
  intro service w env given garbled before v
  have hcurrent : w.settings.isCurrent = true := rfl
  have hsnapshot := snapshot library library_lawful service w hcurrent
  let s : Settings := ⟨some "eu", none, []⟩
  have hask : ask library .empty .empty given = .ok s := rfl
  have hno : (ask library env .empty garbled).isOk = false := by decide +kernel
  obtain ⟨failure, hgarbled⟩ : ∃ failure, ask library env .empty garbled = .error failure := by
    cases hasked : ask library env .empty garbled with
    | ok settings =>
      rw [hasked] at hno
      cases hno
    | error failure => exact ⟨failure, rfl⟩
  let read : World Unit := { w with settings := w.settings.read.2 }
  let built : World Unit := { read with settings := .fresh s }
  let changed : World Unit := { built with environment := env }
  have hbuilt : (SettingsAct.configure given).step library service read = (.nothing, built) :=
    SettingsAct.step_configure_ok hask
  have hkept : (SettingsAct.configure garbled).step library service changed =
      (.refused failure, changed) := SettingsAct.step_configure_error hgarbled
  have hv : v = changed := by
    have hchanged : v = ((SettingsAct.configure garbled).step library service changed).2 :=
      congrArg (fun moved => ((SettingsAct.configure garbled).step library service
        ((SettingsAct.change env .empty).step library service moved).2).2)
        (congrArg Prod.snd hbuilt)
    exact hchanged.trans (congrArg Prod.snd hkept)
  have hfailed : ((SettingsAct.configure garbled).step library service v).1 = .refused failure :=
    hv ▸ congrArg Prod.fst hkept
  obtain ⟨told, hforce, hread, -⟩ := hsnapshot.told before
  have hregion : told.region = some "eu" := by
    have hsettings : SettingsNews.settings told = .settings s :=
      hread.symm.trans (congrArg (fun v => (SettingsAct.read.step library service v).1) hv)
    cases hsettings
    rfl
  have hnames (names : List String) (hname : "STS_Region" ∉ names) : ¬ NamesOneOf names given := by
    rintro ⟨entry, hentry, hmem⟩
    obtain rfl := List.mem_singleton.mp hentry
    exact hname hmem
  exact ⟨library_lawful, hcurrent, ⟨told, hforce, hread, hregion⟩, ⟨failure, hfailed⟩,
    hsnapshot.refused before garbled failure hfailed, hsnapshot.fields .empty .empty given s
      (hnames _ (by decide)) (hnames _ (by decide)) hask .region⟩

/-- A file that an argument names gives a region that neither an argument nor a variable gives, and
with another beginning for the names of variables the variable gives none. -/
theorem Settings.snapshot_options :
    let service : Service Unit := ⟨fun _ _ => none, fun _ _ => (.silence, ())⟩
    let given : List (String × Datum) := [("_env_file", .text "f.env")]
    let content := "CREDENTIAL_CHAIN_STS_REGION=file\n".toUTF8.toList
    let filed : World Unit := { World.bare "1" () with files := ⟨fun _ => .ok content⟩ }
    let renamed : List (String × Datum) := [("_env_prefix", .text "X_")]
    let bound : World Unit :=
      { World.bare "1" () with environment := .ofList [("CREDENTIAL_CHAIN_STS_REGION", "us")] }
    let read (w : World Unit) := (SettingsAct.read.step library service w).1
    NoneNamed given SettingsField.region.name ∧
      NoneNamed filed.environment.entries "CREDENTIAL_CHAIN_sts_region" ∧
      (∃ s, read (SettingsAct.after library service [.configure given] filed) = .settings s ∧
        s.region = some "file") ∧
      NoneNamed renamed SettingsField.region.name ∧
      ∃ s, read (SettingsAct.after library service [.configure renamed] bound) = .settings s ∧
        s.region = none := by
  intro service given content filed renamed bound read
  refine ⟨?_, ?_, ⟨_, rfl, ?_⟩, ?_, ⟨_, rfl, ?_⟩⟩
  · intro entry hentry
    obtain rfl := List.mem_singleton.mp hentry
    decide
  · exact fun entry hentry => nomatch hentry
  · decide +kernel
  · intro entry hentry
    obtain rfl := List.mem_singleton.mp hentry
    decide
  · decide +kernel

end RoleChain
