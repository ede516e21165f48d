import RoleChain.Proofs.FailureFamily
import RoleChain.Proofs.ResolutionLog
import RoleChain.Proofs.TwoRuns

/-!
The log of hops. A chain tells of each role once it is assumed, and it warns of the hop that fails,
right after what the transport tells of the call. Nothing else is written of hops, so what is written
of them says how many have been assumed and how they end.
-/
namespace RoleChain

variable {σ α β : Type}

/-! ### What failures and records tell -/

namespace Failure

/-- The position of the hop that failed. -/
def hopIndex? : Failure → Option Int
  | provider _ _ _ hop | invalidResponse _ _ hop => hop
  | _ => none

def roleArn? : Failure → Option String
  | provider _ _ role _ | invalidResponse _ role _ => role
  | _ => none

end Failure

theorem Raised.IsFor.hopIndex?_eq {role : String} {raised : Raised} (h : raised.IsFor role) :
    raised.failure.hopIndex? = none := by
  rcases h with ⟨cause, name, h⟩ | ⟨reason, h⟩ <;> rw [h] <;> rfl

theorem Raised.IsFor.atHop {role : String} {raised : Raised} (h : raised.IsFor role) (index : Nat) :
    (raised.atHop index).failure.hopIndex? = some (index : Int) ∧
      (raised.atHop index).failure.roleArn? = some role := by
  rcases h with ⟨cause, name, h⟩ | ⟨reason, h⟩ <;> rw [Raised.atHop, h] <;> exact ⟨rfl, rfl⟩

namespace Record

/-- Whether a record warns that a role has not been assumed at a position. -/
def WarnsOf (record : Record) (role : String) (index : Nat) : Prop :=
  let place := role ++ " at hop " ++ Decimal.digitText index
  record.level = .warning ∧ record.logger = Logger.execution ∧
    (record.message = "failed to assume role " ++ place ∨
      record.message = "invalid response assuming role " ++ place)

/-- Whether a record is one of executions that begins in certain words. -/
def begins (words : String) (record : Record) : Bool :=
  record.level = .debug && record.logger = Logger.execution &&
    words.toList.isPrefixOf record.message.toList

/-- Whether a record tells that a role has been assumed. -/
def tellsAssumed (record : Record) : Bool := record.begins "assumed role "

/-- Whether a record tells that the credentials of a base have been loaded. -/
def tellsLoaded (record : Record) : Bool := record.begins "loaded base credentials: "

end Record

def loadedRecord (credentials : Credentials) : Record :=
  ⟨.debug, Logger.execution, "loaded base credentials: " ++ credentials.text⟩

def Hop.assumedRecord (hop : Hop) (credentials : Credentials) : Record :=
  ⟨.debug, Logger.execution, "assumed role " ++ hop.roleArn ++ ": " ++ credentials.text⟩

namespace ClientConfiguration

/-- What the transport tells of a call before it is made. -/
def notes (configuration : ClientConfiguration) (action roleArn : String) : List Record :=
  match configuration.transport with
  | some ⟨_, .clientPerCall⟩ =>
    [⟨.debug, Logger.sts, "calling sts:" ++ action ++ " for " ++ roleArn⟩]
  | some ⟨_, .direct⟩ | none => []

/-- What is told of the call for a hop before it is made. -/
def hopNotes (configuration : ClientConfiguration) (hop : Hop) : List Record :=
  configuration.notes "AssumeRole" hop.roleArn

/-- What is told of hops that have been assumed: of each its call and that it has been assumed. -/
def assumedLog (configuration : ClientConfiguration) (hops : List Hop) (issued : List Credentials) :
    List Record :=
  (hops.zip issued).flatMap fun (hop, credentials) =>
    configuration.hopNotes hop ++ [hop.assumedRecord credentials]

end ClientConfiguration

/-! ### Records of calls -/

theorem Ran.records_eq (ran : Ran σ α) : ran.records = ran.events.filterMap Event.record? := by
  unfold records
  congr 1
  funext event
  cases event <;> rfl

/-- A run that goes on without a record has written what was written before. -/
theorem Run.records_bind {service : Service σ} {run : Run α} {f : α → Run β} {w : World σ}
    (hf : ∀ value v, ((f value).perform service v).records = []) :
    ((run.bind f).perform service w).records = (run.perform service w).records := by
  rw [perform_bind]
  cases hresult : (run.perform service w).result with
  | error raised =>
    simp only [Ran.andThen, hresult]
    rfl
  | ok value => rw [Ran.records_andThen _ hresult, hf, List.append_nil]

theorem Run.records_ofExcept (value : Except Failure α) (service : Service σ) (w : World σ) :
    ((Run.ofExcept value).perform service w).records = [] := by
  rw [perform_ofExcept]
  rfl

theorem Transport.records_calls (transport : Transport) (service : Service σ) (call : Call)
    (state : σ) : (transport.calls service call state).filterMap Event.record? = [] := by
  obtain ⟨name, _ | _⟩ := transport
  · rfl
  · simp only [calls]
    cases refusal ⟨name, .clientPerCall⟩ service call state <;> rfl

/-- Whatever comes of a call, what is written of it is written before it is made. -/
theorem ClientConfiguration.records_send [FieldRules] (configuration : ClientConfiguration)
    (service : Service σ) (providerName : String) (caller : Option Credentials) (request : Request)
    (w : World σ) :
    ((configuration.send providerName caller request).perform service w).records =
      configuration.notes request.action request.roleArn := by
  cases htransport : configuration.transport with
  | none =>
    simp only [send, notes, htransport]
    rfl
  | some transport =>
    rw [perform_send htransport, Ran.records_eq, List.filterMap_append, Transport.records_calls,
      List.append_nil]
    obtain ⟨name, _ | _⟩ := transport
    · simp only [notes, htransport]
      rfl
    · simp only [notes, htransport]
      rfl

namespace Hop

theorem records_credentials [FieldRules] (hop : Hop) (caller : Credentials)
    (configuration : ClientConfiguration) (service : Service σ) {w : World σ}
    (h : w.suffixes.NeverFails) :
    ((hop.credentials caller (some configuration)).perform service w).records =
      configuration.hopNotes hop := by
  obtain ⟨name, hname, hrecords⟩ := hop.exists_session service h
  change ((hop.session.bind fun name => (configuration.send providerName (some caller)
    (.assumeRole ⟨hop.roleArn, name, hop.externalId⟩)).bind _).perform service w).records = _
  rw [Run.perform_bind, Ran.records_andThen _ hname, hrecords, List.nil_append,
    Run.records_bind fun _ _ => Run.records_ofExcept _ _ _, ClientConfiguration.records_send]
  rfl

/-- The one record that a hop leaves when a call for its role has failed. -/
theorem exists_warning (hop : Hop) (index : Nat) {raised : Raised} (h : raised.IsFor hop.roleArn) :
    ∃ warning, hop.warnings index raised = [.logged warning] ∧
      warning.WarnsOf hop.roleArn index := by
  unfold warnings
  rcases h with ⟨cause, name, h⟩ | ⟨reason, h⟩
  · simp only [h]
    exact ⟨_, rfl, rfl, rfl, Or.inl rfl⟩
  · simp only [h]
    exact ⟨_, rfl, rfl, rfl, Or.inr rfl⟩

end Hop

/-! ### The hops of one level -/

/-- What is written of hops, the first of which has the given position, and what comes of them. Each
that is assumed is told of. If all are, that is the whole log; else the first that is not is warned
of in the end, and its role and its position are those of the failure. -/
inductive HopsTell (configuration : ClientConfiguration) (hops : List Hop) (index : Nat)
    (first : Credentials) (issued : List Credentials) :
    List Record → Except Raised Credentials → Prop
  | assumed (length_eq : issued.length = hops.length) :
      HopsTell configuration hops index first issued (configuration.assumedLog hops issued)
        (.ok (issued.getLast?.getD first))
  | refused {hop : Hop} {raised : Raised} {warning : Record}
      (hop_eq : hops[issued.length]? = some hop)
      (position : raised.failure.hopIndex? = some ((index + issued.length : Nat) : Int))
      (role : raised.failure.roleArn? = some hop.roleArn)
      (warns : warning.WarnsOf hop.roleArn (index + issued.length)) :
      HopsTell configuration hops index first issued
        (configuration.assumedLog hops issued ++ (configuration.hopNotes hop ++ [warning]))
        (.error raised)

theorem HopsTell.cons {configuration : ClientConfiguration} {hops : List Hop} {index : Nat}
    {assumed : Credentials} {issued : List Credentials} {records : List Record}
    {result : Except Raised Credentials}
    (h : HopsTell configuration hops (index + 1) assumed issued records result) (hop : Hop)
    (first : Credentials) :
    HopsTell configuration (hop :: hops) index first (assumed :: issued)
      (configuration.hopNotes hop ++ hop.assumedRecord assumed :: records) result := by
  have hlog : configuration.hopNotes hop ++ hop.assumedRecord assumed ::
      configuration.assumedLog hops issued =
        configuration.assumedLog (hop :: hops) (assumed :: issued) := by
    simp only [ClientConfiguration.assumedLog, List.zip_cons_cons, List.flatMap_cons,
      List.append_assoc, List.singleton_append]
  cases h with
  | assumed length_eq =>
    have hlast : (assumed :: issued).getLast?.getD first = issued.getLast?.getD assumed := by
      rw [List.getLast?_cons, Option.getD_some]
    rw [hlog, ← hlast]
    exact .assumed (congrArg Nat.succ length_eq)
  | @refused next raised warning hop_eq position role warns =>
    have hnext : (hop :: hops)[(assumed :: issued).length]? = some next := hop_eq
    have hposition : index + 1 + issued.length = index + (assumed :: issued).length := by
      simp only [List.length_cons]
      omega
    rw [hposition] at position warns
    have hrecords : configuration.hopNotes hop ++ hop.assumedRecord assumed ::
        (configuration.assumedLog hops issued ++ (configuration.hopNotes next ++ [warning])) =
          configuration.assumedLog (hop :: hops) (assumed :: issued) ++
            (configuration.hopNotes next ++ [warning]) := by
      rw [← hlog]
      simp only [List.append_assoc, List.cons_append]
    rw [hrecords]
    exact .refused hnext position role warns

/-- The hops of a level leave the log that tells of them. What each was issued is what the chain ends
with if it is cut behind that hop. -/
theorem tell_assumeAll [FieldRules] {service : Service σ} {configuration : ClientConfiguration}
    (hanswered : configuration.IsAnswered service) (index : Nat) (hops : List Hop)
    (first : Credentials) {w : World σ} (h : w.suffixes.NeverFails) :
    let cut n := (assumeAll (some configuration) index (hops.take n) first).perform service w
    let ran := (assumeAll (some configuration) index hops first).perform service w
    ∃ issued, (∀ i credentials, issued[i]? = some credentials →
        (cut (i + 1)).result = .ok credentials) ∧
      HopsTell configuration hops index first issued ran.records ran.result := by
  induction hops generalizing index first w with
  | nil => exact ⟨[], fun _ _ hi => (nomatch hi), .assumed rfl⟩
  | cons hop hops ih =>
    have hnotes := hop.records_credentials first configuration service h
    have hfails (raised : Raised) (hfailed : ((hop.credentials first (some configuration)).perform
        service w).result = .error raised) : raised.IsFor hop.roleArn :=
      hop.isFor_of_failed first hanswered h hfailed
    have hstream := (hop.credentials first (some configuration)).perform_stream service w
    generalize hstep : (hop.credentials first (some configuration)).perform service w = ran
      at hnotes hfails hstream
    obtain ⟨_ | assumed, v, events⟩ := ran
    · next raised =>
      have hfor : raised.IsFor hop.roleArn := hfails raised rfl
      obtain ⟨warning, hwarning, hwarns⟩ := hop.exists_warning index hfor
      obtain ⟨hposition, hrole⟩ := hfor.atHop index
      refine ⟨[], fun _ _ hi => (nomatch hi), ?_⟩
      rw [perform_assumeAll_failed _ _ hstep, hwarning]
      rw [Ran.records_eq] at hnotes ⊢
      rw [List.filterMap_append, hnotes]
      exact .refused rfl hposition hrole hwarns
    · obtain ⟨issued, hcut, htell⟩ := ih (index + 1) assumed (h.of_stream hstream)
      -- A cut behind a hop of the rest is a cut one hop further behind this one.
      refine ⟨assumed :: issued, fun i credentials hi => ?_, ?_⟩
      · dsimp only
        rw [List.take_succ_cons, perform_assumeAll_assumed _ _ hstep]
        cases i with
        | zero => exact congrArg Except.ok (Option.some.inj hi)
        | succ i => exact hcut i credentials hi
      · rw [perform_assumeAll_assumed _ _ hstep]
        have hlog := htell.cons hop first
        rw [Ran.records_eq] at hnotes hlog ⊢
        rw [List.filterMap_append, List.filterMap_cons, hnotes]
        exact hlog

end RoleChain
