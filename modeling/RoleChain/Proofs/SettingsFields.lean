import RoleChain.LaxFields
import RoleChain.Proofs.BoundNames
import RoleChain.VariableSettings

/-!
Fields of settings. What a library promises that builds settings is a law for each source: in which
order they count, which of them stay closed, and which arguments and variables they hold for a field.
From these laws a field is what an argument says, even if it says null; else what the variable for it
holds, whose name is compared without the case of its letters; else what the sources hold that an
argument opens; else nothing. So it is as long as the arguments do not change how names are read.
-/
namespace RoleChain.Settings

/-! ### Laws of a library -/

/-- The options that say how the variables for fields are named and read. -/
def namingOptions : List String := [
  "_case_sensitive", "_env_ignore_empty", "_env_nested_delimiter", "_env_nested_max_split",
  "_env_parse_enums", "_env_parse_none_str", "_env_prefix", "_env_prefix_target",
  "_nested_model_default_partial_update"]

/-- The option that puts other sources in place of the documented ones. -/
def sourcesOption : String := "_build_sources"

/-- Whether an argument has one of several names. -/
def NamesOneOf (names : List String) (given : List (String × Datum)) : Prop :=
  ∃ entry ∈ given, entry.1 ∈ names

/-- Whether no entry has a name, in letters of any case. -/
def NoneNamed {α : Type} (entries : List (String × α)) (name : String) : Prop :=
  ∀ entry ∈ entries, sameName entry.1 name = false

/-- Whether what is held for a name is the value of an entry that has it, in letters of any case; if
there is no such entry, nothing is held. -/
def IsHeld {α : Type} (wrap : α → Datum) (entries : List (String × α)) (name : String) :
    Option Datum → Prop
  | some datum => ∃ entry ∈ entries, sameName entry.1 name = true ∧ wrap entry.2 = datum
  | none => NoneNamed entries name

/-- What a library promises that builds settings. -/
structure Library.Lawful [FieldRules] (library : Library) : Prop where
  /-- A field is made of what the first source holds that holds any, and of null if none does. -/
  built : ∀ {env files given settings}, library.build env files given = .ok settings → ∀ field,
    asOptionalText (((library.sources given).findSome? (library.held env files given field)).getD
      .null) = .valid (settings.value field)
  ordered : ∀ {given}, ¬ NamesOneOf [sourcesOption] given →
    library.sources given = Source.documented
  /-- A source that has to be opened holds nothing unless an argument opens it. -/
  closed : ∀ {source : Source} {given}, source.openers ≠ [] → ¬ NamesOneOf source.openers given →
    ∀ env files field, library.held env files given field source = none
  fromArguments : ∀ {given}, ¬ NamesOneOf namingOptions given → ∀ env files field,
    IsHeld id given field.name (library.held env files given field .arguments)
  fromVariables : ∀ {given}, ¬ NamesOneOf namingOptions given → ∀ env files field,
    IsHeld Datum.text env.entries ("CREDENTIAL_CHAIN_" ++ field.name)
      (library.held env files given field .environment)

/-! ### Where a field comes from -/

/-- Where the value of a field comes from: the first source that holds any for it. -/
inductive FieldIs [FieldRules] (library : Library) (env : Environment) (files : Files)
    (given : List (String × Datum)) (field : SettingsField) : Option String → Prop
  | commandLine {datum : Datum} {value : Option String}
      (opened : NamesOneOf Source.commandLine.openers given)
      (held : library.held env files given field .commandLine = some datum)
      (text : asOptionalText datum = .valid value) : FieldIs library env files given field value
  | argument {entry : String × Datum} {value : Option String}
      (before : library.held env files given field .commandLine = none) (mem : entry ∈ given)
      (name_eq : sameName entry.1 field.name = true) (text : asOptionalText entry.2 = .valid value) :
      FieldIs library env files given field value
  | variable {entry : String × String}
      (before : library.held env files given field .commandLine = none)
      (absent : NoneNamed given field.name) (mem : entry ∈ env.entries)
      (name_eq : sameName entry.1 ("CREDENTIAL_CHAIN_" ++ field.name) = true) :
      FieldIs library env files given field (some entry.2)
  | file {datum : Datum} {value : Option String}
      (before : library.held env files given field .commandLine = none)
      (absent : NoneNamed given field.name)
      (unset : NoneNamed env.entries ("CREDENTIAL_CHAIN_" ++ field.name))
      (opened : NamesOneOf ["_env_file"] given)
      (held : library.held env files given field .files = some datum)
      (text : asOptionalText datum = .valid value) : FieldIs library env files given field value
  | secret {datum : Datum} {value : Option String}
      (before : library.held env files given field .commandLine = none)
      (absent : NoneNamed given field.name)
      (unset : NoneNamed env.entries ("CREDENTIAL_CHAIN_" ++ field.name))
      (unbound : library.held env files given field .files = none)
      (opened : NamesOneOf ["_secrets_dir"] given)
      (held : library.held env files given field .secrets = some datum)
      (text : asOptionalText datum = .valid value) : FieldIs library env files given field value
  | nothing (before : library.held env files given field .commandLine = none)
      (absent : NoneNamed given field.name)
      (unset : NoneNamed env.entries ("CREDENTIAL_CHAIN_" ++ field.name))
      (unbound : library.held env files given field .files = none)
      (untold : library.held env files given field .secrets = none) :
      FieldIs library env files given field none

theorem build_of_ask {library : Library} {env : Environment} {files : Files}
    {given : List (String × Datum)} {settings : Settings} (h : ask library env files given = .ok settings) :
    library.build env files given = .ok settings := by
  unfold ask at h
  split at h
  · cases h
  · exact h

theorem asOptionalText_text [FieldRules] (s : String) :
    asOptionalText (.text s) = .valid (some s) := by
  simp only [asOptionalText, Datum.asText_text, Checked.map]

section

variable [FieldRules] {library : Library}

theorem Library.Lawful.opened (h : library.Lawful) {env : Environment} {files : Files}
    {given : List (String × Datum)} {field : SettingsField} {source : Source} {datum : Datum}
    (hheld : library.held env files given field source = some datum) (hsource : source.openers ≠ []) :
    NamesOneOf source.openers given := by
  by_contra hclosed
  rw [h.closed hsource hclosed] at hheld
  cases hheld

/-- A field of settings that a lawful library builds comes from where it should. -/
theorem Library.Lawful.fieldIs (h : library.Lawful) {env : Environment} {files : Files}
    {given : List (String × Datum)} (hsources : ¬ NamesOneOf [sourcesOption] given)
    (hnaming : ¬ NamesOneOf namingOptions given) {settings : Settings}
    (hbuild : library.build env files given = .ok settings) (field : SettingsField) :
    FieldIs library env files given field (settings.value field) := by
  have hvalue := h.built hbuild field
  rw [h.ordered hsources] at hvalue
  simp only [Source.documented, List.findSome?_cons, List.findSome?_nil] at hvalue
  have harguments := h.fromArguments hnaming env files field
  have hvariables := h.fromVariables hnaming env files field
  -- The sources are gone through in their order, up to the first that holds something.
  cases hcommandLine : library.held env files given field .commandLine with
  | some datum =>
    rw [hcommandLine] at hvalue
    exact .commandLine (h.opened hcommandLine (by decide)) hcommandLine hvalue
  | none =>
  rw [hcommandLine] at hvalue
  cases hargument : library.held env files given field .arguments with
  | some datum =>
    rw [hargument] at hvalue harguments
    obtain ⟨entry, hmem, hname, rfl⟩ := harguments
    exact .argument hcommandLine hmem hname hvalue
  | none =>
  rw [hargument] at hvalue harguments
  cases hvariable : library.held env files given field .environment with
  | some datum =>
    rw [hvariable] at hvalue hvariables
    obtain ⟨entry, hmem, hname, rfl⟩ := hvariables
    obtain hvalue := Checked.valid.inj ((asOptionalText_text entry.2).symm.trans hvalue)
    rw [← hvalue]
    exact .variable hcommandLine harguments hmem hname
  | none =>
  rw [hvariable] at hvalue hvariables
  cases hfile : library.held env files given field .files with
  | some datum =>
    rw [hfile] at hvalue
    exact .file hcommandLine harguments hvariables (h.opened hfile (by decide)) hfile hvalue
  | none =>
  rw [hfile] at hvalue
  cases hsecret : library.held env files given field .secrets with
  | some datum =>
    rw [hsecret] at hvalue
    exact .secret hcommandLine harguments hvariables hfile (h.opened hsecret (by decide)) hsecret
      hvalue
  | none =>
    rw [hsecret] at hvalue
    rw [← Checked.valid.inj hvalue]
    exact .nothing hcommandLine harguments hvariables hfile hsecret

end

/-! ### A lawful library -/

theorem lookup?_of_not_namesOneOf {names : List String} {given : List (String × Datum)}
    (h : ¬ NamesOneOf names given) {name : String} (hname : name ∈ names) :
    Datum.lookup? name given = none := by
  have hnone : ∀ entry ∈ given, ¬ decide (entry.1 = name) = true := by
    intro entry hentry heq
    exact h ⟨entry, hentry, of_decide_eq_true heq ▸ hname⟩
  rw [Datum.lookup?, List.find?_eq_none.mpr hnone]
  rfl

/-- Without options for names the variables are compared without the case of their names, and all of
them count. -/
theorem ofArguments_of_not_namesOneOf {given : List (String × Datum)}
    (h : ¬ NamesOneOf namingOptions given) :
    Options.ofArguments given = { files := (Options.ofArguments given).files } := by
  have hstem : Datum.lookup? "_env_prefix" given = none :=
    lookup?_of_not_namesOneOf h (by decide)
  have hcase : Datum.lookup? "_case_sensitive" given = none :=
    lookup?_of_not_namesOneOf h (by decide)
  have hempty : Datum.lookup? "_env_ignore_empty" given = none :=
    lookup?_of_not_namesOneOf h (by decide)
  simp only [Options.ofArguments, hstem, hcase, hempty, Option.any_none]

theorem isHeld_argument? (given : List (String × Datum)) (name : String) :
    IsHeld id given name (argument? name given) := by
  unfold argument?
  cases hfound : given.find? fun entry => sameName entry.1 name with
  | none =>
    intro entry hentry
    exact Bool.eq_false_iff.mpr (List.find?_eq_none.mp hfound entry hentry)
  | some entry =>
    have hname : sameName entry.1 name = true := by simpa using List.find?_some hfound
    exact ⟨entry, List.mem_of_find?_eq_some hfound, hname, rfl⟩

theorem collect_entries (env : Environment) (paths : List String) :
    Options.collect { files := paths } (env.entries.map fun entry => (entry.1, some entry.2)) =
      Bindings.ofList (env.entries.map fun entry => (folded entry.1, some entry.2)) := by
  let present := env.entries.map fun entry => (entry.1, some entry.2)
  have hkept : (present.filter fun entry => !(false && entry.2 == some "")) = present :=
    List.filter_eq_self.mpr fun _ _ => rfl
  change Bindings.ofList ((present.filter fun entry => !(false && entry.2 == some "")).map
    fun entry => (folded entry.1, entry.2)) = _
  rw [hkept, List.map_map]
  rfl

/-- Of several variables under one name the last is held. -/
theorem isHeld_collect (env : Environment) (paths : List String) (name : String) :
    IsHeld Datum.text env.entries name
      (((Options.collect { files := paths } (env.entries.map fun entry =>
        (entry.1, some entry.2))).get? (folded name)).join.map .text) := by
  have hsame : (fun entry : String × String => sameName entry.1 name) =
      fun entry => decide (folded entry.1 = folded name) := by
    funext entry
    rfl
  have hget : ((Bindings.ofList (env.entries.map fun entry => (folded entry.1, some entry.2))).get?
      (folded name)) =
        ((env.entries.filter fun entry => sameName entry.1 name).getLast?).map fun entry =>
          some entry.2 := by
    rw [Bindings.get?_ofList, List.filter_map, List.getLast?_map, Option.map_map, hsame]
    rfl
  rw [collect_entries, hget]
  cases hlast : (env.entries.filter fun entry => sameName entry.1 name).getLast? with
  | none =>
    have hnone := List.getLast?_eq_none_iff.mp hlast
    exact fun entry hentry => Bool.eq_false_iff.mpr (List.filter_eq_nil_iff.mp hnone entry hentry)
  | some entry =>
    obtain ⟨hmem, hname⟩ := List.mem_filter.mp (List.mem_of_getLast? hlast)
    exact ⟨entry, hmem, hname, rfl⟩

theorem valid_of_report {α β γ ε : Type} {f : α → β → γ} {x : Checked α} {y : Checked β}
    {title : String} {wrap : Report → ε} {value : γ}
    (h : (((x.map f).apply y).report title).mapError wrap = .ok value) :
    ∃ a b, x = .valid a ∧ y = .valid b ∧ value = f a b := by
  cases x with
  | invalid issues => cases y <;> cases h
  | valid a =>
    cases y with
    | invalid issues => cases h
    | valid b =>
      cases h
      exact ⟨a, b, rfl, rfl, rfl⟩

theorem valid_of_under {α : Type} {x : Checked α} {name : String} {value : α}
    (h : x.under name = .valid value) : x = .valid value := by
  cases x with
  | valid other => exact h
  | invalid issues => cases h

theorem value_of_build [FieldRules] {env : Environment} {files : Files}
    {given : List (String × Datum)} {settings : Settings} (h : build env files given = .ok settings) (name : SettingsField) :
    asOptionalText ((Source.documented.findSome? (held env files given name)).getD .null) =
      .valid (settings.value name) := by
  let options := Options.ofArguments given
  change (options.readFiles env files options.files .empty).bind _ = .ok settings at h
  cases hread : options.readFiles env files options.files .empty with
  | error failure =>
    rw [hread] at h
    cases h
  | ok bound =>
    rw [hread] at h
    have hheld : held env files given name = heldOver options env bound given name := by
      funext source
      change heldOver options env ((options.readFiles env files options.files .empty).toOption.getD
        .empty) given name source = _
      rw [hread]
      rfl
    obtain ⟨region, endpointUrl, hregion, hendpoint, rfl⟩ := valid_of_report h
    rw [hheld]
    cases name with
    | region => exact valid_of_under hregion
    | endpointUrl => exact valid_of_under hendpoint

/-- Settings out of arguments, variables and files of variables are built as the laws say. -/
theorem library_lawful [FieldRules] : library.Lawful where
  built h := value_of_build h
  ordered _ := rfl
  closed := by
    intro source given hopeners hclosed env files field
    cases source with
    | commandLine | secrets => rfl
    | arguments | environment => exact absurd rfl hopeners
    | files =>
      have hlookup : Datum.lookup? "_env_file" given = none :=
        lookup?_of_not_namesOneOf hclosed List.mem_cons_self
      have hfiles : (Options.ofArguments given).files = [] := by
        simp only [Options.ofArguments, hlookup, Option.map_none, Option.getD_none]
      simp only [library, held, heldOver, hfiles, Options.readFiles]
      rfl
  fromArguments _ _ _ field := isHeld_argument? _ field.name
  fromVariables := by
    intro given hnaming env files field
    change IsHeld _ _ _ (((Options.collect (Options.ofArguments given) _).get?
      ((Options.ofArguments given).variableKey field.name)).join.map Datum.text)
    rw [ofArguments_of_not_namesOneOf hnaming]
    exact isHeld_collect env _ _

end RoleChain.Settings
