import RoleChain.LaxFields
import RoleChain.Proofs.ExecutionLog

/-!
The log of an execution. A chain tells of the credentials of its base once they are loaded, and then
of its hops. So the log agrees with how the run ends, at every level of chains on top of each other:
the failure of a hop is warned of by the level that it happens in, and the levels on top of that one
pass it on in silence.
-/
namespace RoleChain

variable {σ : Type}

/-! ### All levels -/

/-- The hops of all levels, those of the innermost chain first. -/
def Provider.allHops : Provider → List Hop
  | static _ | environment _ | webIdentity .. => []
  | chain base hops _ => base.allHops ++ hops

/-- The records since the latest that tells of a base, the latest first. -/
def levelRecords (records : List Record) : List Record :=
  records.reverse.takeWhile fun record => !record.tellsLoaded

/-- How a log agrees with the end of a run with hops on all levels. A run that ends with credentials
has told of each hop that it is assumed. One that fails at no hop warns of nothing. One that fails at
a hop warns of it in the end and of nothing before, and as many hops as its position says are told of
since its level has begun. -/
inductive LogAgrees (hops : List Hop) : List Record → Except Raised Credentials → Prop
  | ended {records : List Record} {issued : List Credentials}
      (quiet : ∀ record ∈ records, record.level ≠ .warning)
      (length_eq : issued.length = hops.length)
      (assumed : records.filter Record.tellsAssumed = List.zipWith Hop.assumedRecord hops issued)
      (credentials : Credentials) : LogAgrees hops records (.ok credentials)
  | failed {records : List Record} {raised : Raised}
      (quiet : ∀ record ∈ records, record.level ≠ .warning)
      (position : raised.failure.hopIndex? = none) : LogAgrees hops records (.error raised)
  | refused {records : List Record} {warning : Record} {raised : Raised} {role : String}
      {index : Nat} (quiet : ∀ record ∈ records, record.level ≠ .warning)
      (position : raised.failure.hopIndex? = some (index : Int))
      (role_eq : raised.failure.roleArn? = some role) (warns : warning.WarnsOf role index)
      (assumed : (levelRecords records).countP Record.tellsAssumed = index) :
      LogAgrees hops (records ++ [warning]) (.error raised)

namespace Record

/-- Whether a record is a plain one of something other than an execution. -/
def IsAside (record : Record) : Prop := record.level = .debug ∧ record.logger ≠ Logger.execution

theorem IsAside.begins_eq {record : Record} (h : record.IsAside) (words : String) :
    record.begins words = false := by
  simp only [begins, h.2, decide_false, Bool.and_false, Bool.false_and]

theorem IsAside.level_ne {record : Record} (h : record.IsAside) : record.level ≠ .warning := by
  rw [h.1]
  exact nofun

theorem begins_append (words rest : String) :
    Record.begins words ⟨.debug, Logger.execution, words ++ rest⟩ = true := by
  have hprefix : words.toList.isPrefixOf (words ++ rest).toList = true := by
    rw [String.toList_append, List.isPrefixOf_iff_prefix]
    exact List.prefix_append _ _
  simp only [begins, decide_true, Bool.true_and, hprefix]

end Record

theorem Hop.tellsAssumed_assumedRecord (hop : Hop) (credentials : Credentials) :
    (hop.assumedRecord credentials).tellsAssumed = true := by
  have hwords : "assumed role " ++ hop.roleArn ++ ": " ++ credentials.text =
      "assumed role " ++ (hop.roleArn ++ (": " ++ credentials.text)) := by
    simp only [String.append_assoc]
  rw [assumedRecord, hwords]
  exact Record.begins_append _ _

theorem Hop.tellsLoaded_assumedRecord (hop : Hop) (credentials : Credentials) :
    (hop.assumedRecord credentials).tellsLoaded = false := by
  simp [assumedRecord, Record.tellsLoaded, Record.begins, String.toList_append, List.isPrefixOf]

theorem tellsLoaded_loadedRecord (credentials : Credentials) :
    (loadedRecord credentials).tellsLoaded = true := Record.begins_append _ _

theorem tellsAssumed_loadedRecord (credentials : Credentials) :
    (loadedRecord credentials).tellsAssumed = false := by
  simp [loadedRecord, Record.tellsAssumed, Record.begins, String.toList_append, List.isPrefixOf]

namespace ClientConfiguration

variable (configuration : ClientConfiguration)

theorem isAside_of_mem_notes {action roleArn : String} {record : Record}
    (h : record ∈ configuration.notes action roleArn) : record.IsAside := by
  have hlogger : Logger.sts ≠ Logger.execution := by decide
  obtain ⟨_ | ⟨name, _ | _⟩, region, endpointUrl⟩ := configuration
  · cases h
  · cases h
  · rw [List.mem_singleton.mp h]
    exact ⟨rfl, hlogger⟩

theorem filter_notes {words action roleArn : String} :
    (configuration.notes action roleArn).filter (Record.begins words) = [] :=
  List.filter_eq_nil_iff.mpr fun _ hrecord =>
    Bool.eq_false_iff.mp ((configuration.isAside_of_mem_notes hrecord).begins_eq words)

variable (hops : List Hop) (issued : List Credentials)

/-- No record of hops that are assumed is a warning, and none is of a base. -/
theorem of_mem_assumedLog {record : Record} (h : record ∈ configuration.assumedLog hops issued) :
    record.level ≠ .warning ∧ record.tellsLoaded = false := by
  obtain ⟨⟨hop, credentials⟩, -, hrecord⟩ := List.mem_flatMap.mp h
  rcases List.mem_append.mp hrecord with hnote | hassumed
  · have haside := configuration.isAside_of_mem_notes hnote
    exact ⟨haside.level_ne, haside.begins_eq _⟩
  · rw [List.mem_singleton.mp hassumed]
    exact ⟨nofun, hop.tellsLoaded_assumedRecord credentials⟩

theorem filter_assumedLog :
    (configuration.assumedLog hops issued).filter Record.tellsAssumed =
      List.zipWith Hop.assumedRecord hops issued := by
  induction hops generalizing issued with
  | nil => rfl
  | cons hop hops ih =>
    cases issued with
    | nil => rfl
    | cons credentials issued =>
      have hrest := ih issued
      have hnotes : (configuration.hopNotes hop).filter Record.tellsAssumed = [] :=
        configuration.filter_notes
      unfold assumedLog at hrest ⊢
      simp only [List.zip_cons_cons, List.flatMap_cons, List.filter_append, hnotes, hrest,
        List.filter_cons, hop.tellsAssumed_assumedRecord credentials, if_true, List.filter_nil,
        List.nil_append, List.singleton_append, List.zipWith_cons_cons]

end ClientConfiguration

/-- The records since the latest that tells of a base are those after it. -/
theorem levelRecords_append (below : List Record) (first : Credentials) {records : List Record}
    (h : ∀ record ∈ records, record.tellsLoaded = false) :
    levelRecords (below ++ loadedRecord first :: records) = records.reverse := by
  have hreverse : (below ++ loadedRecord first :: records).reverse =
      records.reverse ++ loadedRecord first :: below.reverse := by
    simp only [List.reverse_append, List.reverse_cons, List.append_assoc, List.singleton_append]
  have hothers : ∀ record ∈ records.reverse, (!record.tellsLoaded) = true := by
    intro record hrecord
    rw [h record (List.mem_reverse.mp hrecord)]
    rfl
  rw [levelRecords, hreverse, List.takeWhile_append_of_pos hothers, List.takeWhile_cons,
    tellsLoaded_loadedRecord]
  exact List.append_nil _

/-- After a base has loaded its credentials the log of all levels goes on with the log of one. -/
theorem HopsTell.logAgrees {configuration : ClientConfiguration} {hops : List Hop}
    {first : Credentials} {issued : List Credentials} {records : List Record}
    {result : Except Raised Credentials}
    (h : HopsTell configuration hops 0 first issued records result) {hopsBelow : List Hop}
    {below : List Record} (hbelow : LogAgrees hopsBelow below (.ok first)) :
    LogAgrees (hopsBelow ++ hops) (below ++ loadedRecord first :: records) result := by
  -- The base has ended well, so its log has no warning and tells of all its hops.
  cases hbelow with
  | @ended _ issuedBelow hquiet hlength hassumed =>
  have hlog := configuration.filter_assumedLog hops issued
  have hbegun (level : List Record) (hlevel : ∀ record ∈ level, record.level ≠ .warning) :
      ∀ record ∈ below ++ loadedRecord first :: level, record.level ≠ .warning := by
    intro record hrecord
    rcases List.mem_append.mp hrecord with hrecord | hrecord
    · exact hquiet record hrecord
    · rcases List.mem_cons.mp hrecord with rfl | hrecord
      · exact nofun
      · exact hlevel record hrecord
  cases h with
  | assumed length_eq =>
    have hloaded : ¬ (loadedRecord first).tellsAssumed = true := by
      rw [tellsAssumed_loadedRecord]
      exact nofun
    have hsilent := hbegun (configuration.assumedLog hops issued)
      fun record hrecord => (configuration.of_mem_assumedLog hops issued hrecord).1
    have hall : (issuedBelow ++ issued).length = (hopsBelow ++ hops).length := by
      rw [List.length_append, List.length_append, hlength, length_eq]
    refine .ended hsilent hall ?_ _
    rw [List.filter_append, hassumed, List.filter_cons_of_neg hloaded, hlog,
      List.zipWith_append hlength.symm]
  | @refused hop raised warning hop_eq position role warns =>
    let level := configuration.assumedLog hops issued ++ configuration.hopNotes hop
    have hlevel : ∀ record ∈ level, record.level ≠ .warning ∧ record.tellsLoaded = false := by
      intro record hrecord
      rcases List.mem_append.mp hrecord with hassumed | hnote
      · exact configuration.of_mem_assumedLog hops issued hassumed
      · have haside := configuration.isAside_of_mem_notes hnote
        exact ⟨haside.level_ne, haside.begins_eq _⟩
    have hcount : (levelRecords (below ++ loadedRecord first :: level)).countP
        Record.tellsAssumed = issued.length := by
      obtain ⟨hlt, -⟩ := List.getElem?_eq_some_iff.mp hop_eq
      have hnotes : (configuration.hopNotes hop).filter Record.tellsAssumed = [] :=
        configuration.filter_notes
      rw [levelRecords_append below first fun record hrecord => (hlevel record hrecord).2,
        List.countP_reverse, List.countP_eq_length_filter, List.filter_append, hlog, hnotes,
        List.append_nil, List.length_zipWith]
      omega
    have hsplit : below ++ loadedRecord first ::
        (configuration.assumedLog hops issued ++ (configuration.hopNotes hop ++ [warning])) =
          (below ++ loadedRecord first :: level) ++ [warning] := by
      simp only [level, List.append_assoc, List.cons_append]
    rw [Nat.zero_add] at position warns
    rw [hsplit]
    exact .refused (hbegun level fun record hrecord => (hlevel record hrecord).1) position role
      warns hcount

/-- What fails below is passed on in silence. -/
theorem LogAgrees.of_error {hops : List Hop} {records : List Record} {raised : Raised}
    (h : LogAgrees hops records (.error raised)) (hopsAbove : List Hop) :
    LogAgrees hopsAbove records (.error raised) := by
  cases h with
  | failed quiet position => exact .failed quiet position
  | refused quiet position role warns assumed => exact .refused quiet position role warns assumed

/-! ### Providers -/

section

variable {service : Service σ}

/-- Records of other things than executions agree with an end at no hop. -/
theorem LogAgrees.of_aside {records : List Record} (h : ∀ record ∈ records, record.IsAside)
    {result : Except Raised Credentials}
    (hresult : ∀ raised, result = .error raised → raised.failure.hopIndex? = none) :
    LogAgrees [] records result := by
  have hquiet : ∀ record ∈ records, record.level ≠ .warning :=
    fun record hrecord => (h record hrecord).level_ne
  cases result with
  | error raised => exact .failed hquiet (hresult raised rfl)
  | ok credentials =>
    have hassumed : records.filter Record.tellsAssumed = [] :=
      List.filter_eq_nil_iff.mpr fun record hrecord =>
        Bool.eq_false_iff.mp ((h record hrecord).begins_eq _)
    have hnone : ([] : List Credentials).length = ([] : List Hop).length := rfl
    exact .ended hquiet hnone hassumed credentials

theorem Environment.logAgrees_load (env : Environment) (w : World σ) :
    let ran := env.load.perform service w
    LogAgrees [] ran.records ran.result := by
  unfold load
  cases env.credentials with
  | error reason =>
    refine .of_aside (by simp [Ran.records, Run.fail, Run.perform]) fun raised hraised => ?_
    cases hraised
    rfl
  | ok credentials =>
    refine .of_aside (fun record hrecord => ?_) fun raised hraised => ?_
    · rw [List.mem_singleton.mp hrecord]
      exact ⟨rfl, by decide⟩
    · cases hraised

/-- A failure that is not of the family of credentials has no position. -/
theorem Raised.hopIndex?_of_not_inFamily {raised : Raised} (h : ¬ raised.InFamily) :
    raised.failure.hopIndex? = none := by
  obtain ⟨failure, source⟩ := raised
  cases failure <;> first | rfl | exact absurd rfl h

namespace WebIdentityRole

theorem hopIndex?_token {role : WebIdentityRole} {files : Files} {raised : Raised}
    (h : role.token files = .error raised) : raised.failure.hopIndex? = none := by
  rcases role.token_error_cases h with ⟨-, hout⟩ | ⟨-, error, rfl⟩
  · exact raised.hopIndex?_of_not_inFamily hout
  · rfl

theorem logAgrees_credentials [FieldRules] (role : WebIdentityRole)
    {configuration : ClientConfiguration} (hanswered : configuration.IsAnswered service)
    (w : World σ) :
    let ran := (role.credentials configuration).perform service w
    LogAgrees [] ran.records ran.result := by
  intro ran
  cases htoken : role.token w.files with
  | error raised =>
    have hran : ran = ⟨.error raised, w, []⟩ := role.perform_credentials_failed configuration htoken
    rw [hran]
    refine .of_aside (by simp [Ran.records]) fun raised' hraised => ?_
    cases hraised
    exact hopIndex?_token htoken
  | ok token =>
    refine .of_aside ?_ fun raised hraised =>
      (role.isFor_of_failed hanswered htoken hraised).hopIndex?_eq
    have hlogger : Logger.webIdentity ≠ Logger.execution := by decide
    have hran : ran = (role.present configuration token).perform service w :=
      role.perform_credentials_read configuration htoken
    have hrecords : ran.records = ⟨.debug, Logger.webIdentity,
        "assuming role " ++ role.roleArn ++ " with web identity token"⟩ ::
          configuration.notes "AssumeRoleWithWebIdentity" role.roleArn := by
      have hsend := configuration.records_send service providerName none
        (.withWebIdentity ⟨role.roleArn, role.sessionName, token⟩) w
      rw [← Run.records_bind fun (response : Response) v => Run.records_ofExcept
        (Credentials.ofIssued response.credentials providerName (some role.roleArn)) service v] at hsend
      rw [hran]
      exact congrArg (List.cons _) hsend
    intro record hrecord
    rw [hrecords] at hrecord
    rcases List.mem_cons.mp hrecord with rfl | hrecord
    · exact ⟨rfl, hlogger⟩
    · exact configuration.isAside_of_mem_notes hrecord

end WebIdentityRole

/-- Whatever a provider is built from, its log agrees with its end. -/
theorem Provider.logAgrees [FieldRules] (p : Provider) (hp : p.IsServed service)
    {w : World σ} (h : w.suffixes.NeverFails) :
    LogAgrees p.allHops (p.provide.perform service w).records
      (p.provide.perform service w).result := by
  induction p with
  | static credentials =>
    exact .of_aside (by simp [Ran.records, provide, Run.perform]) fun _ hraised => (nomatch hraised)
  | environment given =>
    cases given with
    | some env =>
      rw [provide]
      exact env.logAgrees_load w
    | none =>
      rw [provide, Run.perform]
      exact w.environment.logAgrees_load w
  | webIdentity role configuration => exact role.logAgrees_credentials hp w
  | chain base hops configuration ih =>
    obtain ⟨⟨configuration, rfl, hanswered⟩, hbase⟩ := hp
    have hbelow := ih hbase
    change LogAgrees _ ((executeFrom base.provide hops (some configuration)).perform service w).records
      ((executeFrom base.provide hops (some configuration)).perform service w).result
    cases hloaded : (base.provide.perform service w).result with
    | error raised =>
      rw [perform_executeFrom_failed service _ base.provide hops hloaded]
      rw [hloaded] at hbelow
      exact hbelow.of_error _
    | ok first =>
      rw [hloaded] at hbelow
      have hstream := base.provide.perform_stream service w
      obtain ⟨issued, -, htell⟩ := tell_assumeAll hanswered 0 hops first (h.of_stream hstream)
      -- The log of the hops follows that of the base, which stays as it is.
      rw [perform_executeFrom_loaded service _ base.provide hops hloaded]
      have hlog := htell.logAgrees hbelow
      simp only [Ran.records_eq] at hlog ⊢
      rw [List.filterMap_append]
      exact hlog

end

/-! ### What the agreement says -/

namespace LogAgrees

variable {hops : List Hop} {records : List Record} {result : Except Raised Credentials}

theorem countP_warning_le (h : LogAgrees hops records result) :
    records.countP (fun record => record.level = .warning) ≤ 1 := by
  have hnone {quiet : List Record} (hquiet : ∀ record ∈ quiet, record.level ≠ .warning) :
      quiet.countP (fun record => record.level = .warning) = 0 :=
    List.countP_eq_zero.mpr fun record hrecord => by simpa using hquiet record hrecord
  cases h with
  | ended quiet => rw [hnone quiet]; omega
  | failed quiet => rw [hnone quiet]; omega
  | @refused before warning raised role index quiet =>
    have hlast : [warning].countP (fun record => record.level = .warning) ≤ 1 :=
      List.countP_le_length
    rw [List.countP_append, hnone quiet]
    omega

/-- There is a warning if, and only if, the run fails at a hop. -/
theorem exists_warning_iff (h : LogAgrees hops records result) :
    (∃ record ∈ records, record.level = .warning) ↔
      ∃ raised k, result = .error raised ∧ raised.failure.hopIndex? = some k := by
  cases h with
  | ended quiet =>
    constructor
    · rintro ⟨record, hrecord, hlevel⟩
      exact absurd hlevel (quiet record hrecord)
    · rintro ⟨raised, k, hraised, -⟩
      cases hraised
  | failed quiet position =>
    constructor
    · rintro ⟨record, hrecord, hlevel⟩
      exact absurd hlevel (quiet record hrecord)
    · rintro ⟨raised, k, hraised, hk⟩
      cases hraised
      rw [position] at hk
      cases hk
  | @refused before warning raised role index quiet position role_eq warns =>
    refine ⟨fun _ => ⟨raised, _, rfl, position⟩, fun _ => ?_⟩
    exact ⟨warning, List.mem_append_right _ (List.mem_singleton_self _), warns.1⟩

/-- The warning comes last. It names the role and the position of the failure, and so many hops of
the level have been told of before. -/
theorem exists_last {raised : Raised} (h : LogAgrees hops records (.error raised)) {k : Int}
    (hk : raised.failure.hopIndex? = some k) :
    ∃ before warning role, ∃ index : Nat, records = before ++ [warning] ∧ k = index ∧
      raised.failure.roleArn? = some role ∧ warning.WarnsOf role index ∧
      (levelRecords before).countP Record.tellsAssumed = index := by
  cases h with
  | failed quiet position =>
    rw [position] at hk
    cases hk
  | @refused before warning raised role index quiet position role_eq warns assumed =>
    rw [position] at hk
    exact ⟨before, warning, role, index, rfl, (Option.some.inj hk).symm, role_eq, warns, assumed⟩

theorem filter_assumed {credentials : Credentials} (h : LogAgrees hops records (.ok credentials)) :
    ∃ issued : List Credentials, issued.length = hops.length ∧
      records.filter Record.tellsAssumed = List.zipWith Hop.assumedRecord hops issued := by
  cases h with
  | ended quiet length_eq assumed => exact ⟨_, length_eq, assumed⟩

end LogAgrees

/-- How the log of an execution, over a base and with hops of its own and of all levels, agrees with
its outcome. -/
structure LogTells {σ : Type} (configuration : ClientConfiguration) (hops allHops : List Hop)
    (loaded : Ran σ Credentials) (cut : Nat → Ran σ Credentials) (ran : Ran σ Credentials) :
    Prop where
  /-- If the base fails, the log is that of the base. -/
  failed : ∀ raised, loaded.result = .error raised →
    ran.result = .error raised ∧ ran.records = loaded.records
  /-- Else it goes on with a record of the credentials and with what is told of the hops. -/
  goesOn : ∀ first, loaded.result = .ok first → ∃ issued records,
    ran.records = loaded.records ++ loadedRecord first :: records ∧
    (∀ i credentials, issued[i]? = some credentials → (cut (i + 1)).result = .ok credentials) ∧
    HopsTell configuration hops 0 first issued records ran.result
  warnings_le : ran.records.countP (fun record => record.level = .warning) ≤ 1
  /-- There is a warning if, and only if, the run fails at a hop. -/
  warns_iff : (∃ record ∈ ran.records, record.level = .warning) ↔
    ∃ raised k, ran.result = .error raised ∧ raised.failure.hopIndex? = some k
  /-- The warning comes last. It names the role and the position of the failure, and so many hops
  of the level have been assumed before. -/
  last : ∀ raised k, ran.result = .error raised → raised.failure.hopIndex? = some k →
    ∃ before warning role, ∃ index : Nat, ran.records = before ++ [warning] ∧ k = index ∧
      raised.failure.roleArn? = some role ∧ warning.WarnsOf role index ∧
      (levelRecords before).countP Record.tellsAssumed = index
  /-- A run that does not fail tells of every hop of every level once. -/
  complete : ∀ credentials, ran.result = .ok credentials → ∃ issued : List Credentials,
    issued.length = allHops.length ∧
      ran.records.filter Record.tellsAssumed = List.zipWith Hop.assumedRecord allHops issued

/-- The log of an execution agrees with its outcome. -/
theorem ProviderChain.execute_log [FieldRules] (c : ProviderChain)
    (configuration : ClientConfiguration) (service : Service σ) (w : World σ)
    (hserved : (c.provider (some configuration)).IsServed service)
    (hdraws : w.suffixes.NeverFails) :
    let cut (n : Nat) :=
      ((ProviderChain.mk c.base (c.hops.take n)).execute (some configuration)).perform service w
    LogTells configuration c.hops (c.provider (some configuration)).allHops
      (c.base.provide.perform service w) cut
      ((c.execute (some configuration)).perform service w) := by
  intro cut
  have hlog := (c.provider (some configuration)).logAgrees hserved hdraws
  have hexecute : (c.provider (some configuration)).provide = c.execute (some configuration) := rfl
  rw [hexecute] at hlog
  generalize hran : (c.execute (some configuration)).perform service w = ran at hlog
  refine ⟨fun raised hfailed => ?_, fun first hfirst => ?_, hlog.countP_warning_le,
    hlog.exists_warning_iff, fun raised k hraised hk => ?_, fun credentials hended => ?_⟩
  · have hfails := perform_executeFrom_failed service (some configuration) c.base.provide c.hops
      hfailed
    rw [← hran, execute, hfails]
    exact ⟨rfl, rfl⟩
  · obtain ⟨⟨given, hgiven, hanswered⟩, -⟩ := hserved
    cases hgiven
    have hexecuted (hops : List Hop) := perform_executeFrom_loaded service (some configuration)
      c.base.provide hops hfirst
    obtain ⟨issued, hcut, htell⟩ := tell_assumeAll hanswered 0 c.hops first
      (hdraws.of_stream (c.base.provide.perform_stream service w))
    rw [← hran, execute, hexecuted c.hops]
    refine ⟨issued, _, ?_, fun i credentials hi => ?_, htell⟩
    · simp only [Ran.records_eq, List.filterMap_append]
      rfl
    · exact (congrArg Ran.result (hexecuted (c.hops.take (i + 1)))).trans (hcut i credentials hi)
  · rw [hraised] at hlog
    exact hlog.exists_last hk
  · rw [hended] at hlog
    exact hlog.filter_assumed

attribute [local instance] FieldRules.lax

/-- A chain on top of another, of which the service refuses the second hop. -/
theorem ProviderChain.execute_log_refused :
    let service : Service Unit := {
      refusal := fun _ _ => none
      answer := fun _ call =>
        (if call.request.roleArn = "c" then .failure (.unreachable "sts")
          else .data (Script.echoed call.request.roleArn), ()) }
    let configuration : ClientConfiguration := ⟨some ⟨.standard, .clientPerCall⟩, none, none⟩
    let first : Credentials := { accessKeyId := "id", secretAccessKey := "secret" }
    let base : Provider := .chain (.static first) [{ roleArn := "a" }] (some configuration)
    let c : ProviderChain := ⟨base, [{ roleArn := "b" }, { roleArn := "c" }]⟩
    let w : World Unit := World.bare "1" ()
    let ran := (c.execute (some configuration)).perform service w
    (c.provider (some configuration)).IsServed service ∧ w.suffixes.NeverFails ∧
      ∃ raised, ran.result = .error raised ∧ raised.failure.hopIndex? = some 1 ∧
        ∃ before warning role, ∃ index : Nat, ran.records = before ++ [warning] ∧ 1 = (index : Int) ∧
          raised.failure.roleArn? = some role ∧ warning.WarnsOf role index ∧
          (levelRecords before).countP Record.tellsAssumed = index := by
  intro service configuration first base c w ran
  have hanswered : configuration.IsAnswered service := by
    intro transport htransport state call failure hfailure
    cases htransport
    by_cases hrole : call.request.roleArn = "c"
    · simp only [Transport.exchange, Transport.refusal, service, hrole, if_true,
        Transport.understand, Reply.outcome] at hfailure
      cases hfailure
      rfl
    · simp only [Transport.exchange, Transport.refusal, service, hrole, if_false,
        Transport.understand, Reply.outcome] at hfailure
      cases hreport : (Response.ofDatum (Script.echoed call.request.roleArn)).report
          Response.title with
      | ok response =>
        rw [hreport] at hfailure
        cases hfailure
      | error report =>
        rw [hreport] at hfailure
        cases hfailure
        rfl
  have hserved : (c.provider (some configuration)).IsServed service :=
    ⟨⟨configuration, rfl, hanswered⟩, ⟨configuration, rfl, hanswered⟩, trivial⟩
  have hdraws : w.suffixes.NeverFails := SuffixSource.neverFails_constant "1"
  have hraised : ran.result = .error ⟨.provider (.unreachable "sts") Hop.providerName (some "c")
      (some 1), some (.unreachable "sts")⟩ := rfl
  have hlog := c.execute_log configuration service w hserved hdraws
  exact ⟨hserved, hdraws, _, hraised, rfl, hlog.last _ 1 hraised rfl⟩

end RoleChain
