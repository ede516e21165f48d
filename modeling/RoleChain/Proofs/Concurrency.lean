import RoleChain.LaxFields
import RoleChain.Proofs.Alone
import RoleChain.Proofs.Attempt
import RoleChain.Proofs.Coupling
import RoleChain.Sts.Script

/-!
Executions side by side. Chains may be shared, but each execution calls services of its own. However
their acts are ordered, and whichever of them are cancelled, each has one call at a time and makes it
with what came of the call before; it does what it would do alone, and it ends as it would end. The
suffixes are all that they share. Each draw is for one request and serves no other.
-/
namespace RoleChain

variable {σ τ α : Type}

/-! ### What a past in order tells -/

namespace History

/-- How many calls have been answered. -/
def answers : History → Nat
  | [] => 0
  | .answered _ :: past => answers past + 1
  | _ :: past => answers past

def issued : History → List (Transport × Call)
  | [] => []
  | .issued transport call :: past => issued past ++ [(transport, call)]
  | _ :: past => issued past

theorem length_issued (past : History) : past.issued.length = past.calls := by
  induction past with
  | nil => rfl
  | cons act past ih => cases act <;> simp [issued, calls, ih]

end History

/-- How many of the first errands leave the name of their session open. -/
def unnamedBefore (plan : List Errand) (k : Nat) : Nat := (plan.take k).countP Errand.isUnnamed

theorem unnamedBefore_succ {plan : List Errand} {k : Nat} {errand : Errand}
    (h : plan[k]? = some errand) :
    unnamedBefore plan (k + 1) = unnamedBefore plan k + if errand.isUnnamed then 1 else 0 := by
  obtain ⟨hlt, rfl⟩ := List.getElem?_eq_some_iff.mp h
  rw [unnamedBefore, List.take_succ_eq_append_getElem hlt, List.countP_append, unnamedBefore]
  simp

theorem Errand.Names.length_eq {errand : Errand} {drawn : List (Except Failure String)}
    {name : String} (h : errand.Names drawn name) : drawn.length = if errand.isUnnamed then 1 else 0 := by
  cases errand with
  | token role configuration =>
    rw [h.1]
    rfl
  | hop hop configuration =>
    simp only [Errand.Names] at h
    cases hname : hop.sessionName with
    | some declared =>
      simp only [hname] at h
      simp [Errand.isUnnamed, hname, h.1]
    | none =>
      simp only [hname] at h
      obtain ⟨suffix, rfl, -⟩ := h
      simp [Errand.isUnnamed, hname]

/-- The name of a session that is left open is made of the one suffix that has been drawn for it. -/
theorem Errand.Names.exists_suffix {errand : Errand} {drawn : List (Except Failure String)}
    {name : String} (h : errand.Names drawn name) (hunnamed : errand.isUnnamed = true) :
    ∃ suffix, drawn = [.ok suffix] ∧
      name = SessionName.withSuffix SessionName.assumeRolePurpose suffix := by
  cases errand with
  | token role configuration => cases hunnamed
  | hop hop configuration =>
    have hname : hop.sessionName = none := Option.isNone_iff_eq_none.mp hunnamed
    simpa only [Errand.Names, hname] using h

section

variable [FieldRules]

/-- What an execution that keeps to its plan has done. One call at most is waited for. Each errand
that leaves the name of its session open has a draw of its own, and so has the next such errand at
most; the request for an errand is named by its draw. -/
structure History.IsOrderly (plan : List Errand) (past : History) : Prop where
  keeps : past.Throughout (KeepsTo plan)
  outstanding : past.calls = past.answers + if past.awaits then 1 else 0
  drawn : ∃ used, past.drawn = used ++ past.fresh ∧
    used.length = unnamedBefore plan past.calls ∧ past.fresh.length ≤ 1
  named : ∀ k transport call, past.issued[k]? = some (transport, call) →
    ∃ errand, plan[k]? = some errand ∧ errand.Requests call.request ∧
      (errand.isUnnamed = true → ∃ suffix, past.drawn[unnamedBefore plan k]? = some (.ok suffix) ∧
        call.request.sessionName = SessionName.withSuffix SessionName.assumeRolePurpose suffix)

namespace History.IsOrderly

variable {plan : List Errand} {past : History}

theorem nil : IsOrderly plan [] :=
  ⟨.nil, rfl, ⟨[], rfl, rfl, Nat.zero_le 1⟩, fun _ _ _ h => (nomatch h)⟩

theorem drew (h : IsOrderly plan past) {suffix : Except Failure String}
    (hright : KeepsTo plan past (.drew suffix)) : IsOrderly plan (.drew suffix :: past) := by
  obtain ⟨hkeeps, houtstanding, ⟨used, hdrawn, hused, -⟩, hnamed⟩ := h
  obtain ⟨hfresh, -⟩ := hright.isNext
  rw [hfresh, List.append_nil] at hdrawn
  refine ⟨Throughout.cons_iff.mpr ⟨hright, hkeeps⟩, houtstanding, ⟨used, ?_, hused, ?_⟩, ?_⟩
  · rw [History.drawn, History.fresh, hdrawn, hfresh]
  · rw [History.fresh, hfresh]
    exact Nat.le_refl 1
  · intro k transport call hcall
    obtain ⟨errand, herrand, hrequest, hname⟩ := hnamed k transport call hcall
    refine ⟨errand, herrand, hrequest, fun hunnamed => ?_⟩
    obtain ⟨s, hs, hsession⟩ := hname hunnamed
    obtain ⟨hlt, -⟩ := List.getElem?_eq_some_iff.mp hs
    refine ⟨s, ?_, hsession⟩
    rwa [History.drawn, List.getElem?_append_left hlt]

theorem answered (h : IsOrderly plan past) {answer : Except Failure Datum}
    (hright : KeepsTo plan past (.answered answer)) : IsOrderly plan (.answered answer :: past) := by
  obtain ⟨hkeeps, houtstanding, hdrawn, hnamed⟩ := h
  refine ⟨Throughout.cons_iff.mpr ⟨hright, hkeeps⟩, ?_, hdrawn, hnamed⟩
  have hawaits : past.awaits = true := hright.isNext
  rw [hawaits, if_pos rfl] at houtstanding
  exact houtstanding

theorem issued (h : IsOrderly plan past) {transport : Transport} {call : Call}
    (hright : KeepsTo plan past (.issued transport call)) :
    IsOrderly plan (.issued transport call :: past) := by
  obtain ⟨hkeeps, houtstanding, ⟨used, hdrawn, hused, -⟩, hnamed⟩ := h
  obtain ⟨hawaits, ⟨errand, configuration, herrand, -, -, hrequest, hnames, -⟩, -⟩ := hright.isNext
  rw [hawaits] at houtstanding
  refine ⟨Throughout.cons_iff.mpr ⟨hright, hkeeps⟩, congrArg (· + 1) houtstanding,
    ⟨past.drawn, (List.append_nil _).symm, ?_, Nat.zero_le 1⟩, ?_⟩
  · rw [History.calls, unnamedBefore_succ herrand, ← hnames.length_eq, hdrawn,
      List.length_append, hused]
  · intro k transport' call' hcall
    rw [History.issued] at hcall
    by_cases hk : k < past.issued.length
    · rw [List.getElem?_append_left hk] at hcall
      exact hnamed k transport' call' hcall
    · obtain ⟨hle, -⟩ := List.getElem?_eq_some_iff.mp hcall
      rw [List.length_append, List.length_singleton] at hle
      obtain rfl : k = past.issued.length := by omega
      rw [List.getElem?_concat_length] at hcall
      cases hcall
      rw [History.length_issued]
      refine ⟨errand, herrand, hrequest, fun hunnamed => ?_⟩
      obtain ⟨suffix, hfresh, hsession⟩ := hnames.exists_suffix hunnamed
      refine ⟨suffix, ?_, hsession⟩
      change past.drawn[_]? = _
      rw [hdrawn, hfresh, ← hused, List.getElem?_concat_length]

/-- An execution that keeps to its plan leaves things in order. -/
theorem of_throughout (h : past.Throughout (KeepsTo plan)) : IsOrderly plan past := by
  induction past with
  | nil => exact nil
  | cons act past ih =>
    obtain ⟨hright, hpast⟩ := Throughout.cons_iff.mp h
    have hordered := ih hpast
    cases act with
    | logged record => exact ⟨h, hordered.outstanding, hordered.drawn, hordered.named⟩
    | client name arguments refusal =>
      exact ⟨h, hordered.outstanding, hordered.drawn, hordered.named⟩
    | drew suffix => exact hordered.drew hright
    | answered answer => exact hordered.answered hright
    | issued transport call => exact hordered.issued hright

end History.IsOrderly

end

/-! ### Names of sessions that are left open -/

/-- Requests that are the same but for the suffix in the name of a session that is left open. -/
inductive Request.SameButName : Request → Request → Prop
  | same (request : Request) : SameButName request request
  | unnamed (arn : String) (externalId : Option String) (suffix suffix' : String) :
      SameButName
        (.assumeRole ⟨arn, SessionName.withSuffix SessionName.assumeRolePurpose suffix, externalId⟩)
        (.assumeRole ⟨arn, SessionName.withSuffix SessionName.assumeRolePurpose suffix', externalId⟩)

namespace Request.SameButName

variable {request request' : Request}

theorem roleArn_eq (h : request.SameButName request') : request.roleArn = request'.roleArn := by
  cases h with
  | same => rfl
  | unnamed => simp only [roleArn]

theorem operation_eq (h : request.SameButName request') :
    request.operation = request'.operation := by
  cases h with
  | same => rfl
  | unnamed => simp only [operation]

end Request.SameButName

/-- Whether calls go to the same place for the same caller and are the same but for such a name. -/
def SameCallButName (one other : Transport × Call) : Prop :=
  one.1 = other.1 ∧ one.2.configuration = other.2.configuration ∧
    one.2.request.SameButName other.2.request

/-- Whether a service answers alike whatever such a name is. -/
def Service.IgnoresNames (service : Service σ) : Prop :=
  ∀ state configuration request request', Request.SameButName request request' →
    service.answer state ⟨request, configuration⟩ = service.answer state ⟨request', configuration⟩

/-- Worlds that differ in suffixes and settings only, and draws in them do not fail. -/
structure World.SameButSuffixes (w v : World σ) : Prop where
  environment_eq : w.environment = v.environment
  files_eq : w.files = v.files
  services_eq : w.services = v.services
  neverFails : w.suffixes.NeverFails
  neverFails' : v.suffixes.NeverFails

/-- Runs that are compared but for names of sessions that are left open. -/
def Coupling.butNames (service : Service σ) : Coupling σ σ where
  service := service
  service' := service
  worlds := World.SameButSuffixes
  calls := SameCallButName
  environment_eq h := h.environment_eq
  files_eq h := h.files_eq

theorem Hop.coupled_session_butNames (service : Service σ) (hop : Hop) :
    Run.Coupled (.butNames service)
      (fun name name' => (hop.request name).SameButName (hop.request name'))
      hop.session hop.session := by
  unfold session
  cases hop.sessionName with
  | some name => exact .done (.same _)
  | none =>
    intro w v hworlds
    obtain ⟨suffix, hsuffix⟩ := hworlds.neverFails w.suffixes.position
    obtain ⟨suffix', hsuffix'⟩ := hworlds.neverFails' v.suffixes.position
    simp only [Run.sessionName, Run.perform, SuffixSource.next, hsuffix, hsuffix']
    refine Ran.Compare.after ?_ rfl rfl
    refine Run.Coupled.done (.unnamed _ _ _ _) _ _ ?_
    exact ⟨hworlds.environment_eq, hworlds.files_eq, hworlds.services_eq, hworlds.neverFails,
      hworlds.neverFails'⟩

theorem Provider.Reconfigured.refl (p : Provider) : p.Reconfigured (· = ·) p := by
  induction p with
  | static credentials => exact .static rfl
  | environment given =>
    cases given with
    | none => exact .process
    | some env => exact .given rfl
  | webIdentity role configuration => exact .webIdentity role rfl
  | chain base hops configuration ih =>
    cases configuration with
    | none => exact .chain ih hops .none
    | some configuration => exact .chain ih hops (.some rfl)

section

variable [FieldRules] {service : Service σ}

theorem Service.IgnoresNames.exchange_eq (hservice : service.IgnoresNames) (transport : Transport)
    (configuration : CallConfiguration) {request request' : Request}
    (h : request.SameButName request') (state : σ) :
    transport.exchange service ⟨request, configuration⟩ state =
      transport.exchange service ⟨request', configuration⟩ state := by
  have hrefusal : transport.refusal service ⟨request, configuration⟩ state =
      transport.refusal service ⟨request', configuration⟩ state := rfl
  simp only [Transport.exchange, hrefusal, hservice state configuration request request' h]

theorem Transport.coupled_send_butNames (hservice : service.IgnoresNames) (transport : Transport)
    (configuration : CallConfiguration) {request request' : Request}
    (h : request.SameButName request') :
    Run.Coupled (.butNames service) (· = ·) (transport.send ⟨request, configuration⟩)
      (transport.send ⟨request', configuration⟩) := by
  refine coupled_send ⟨rfl, rfl, h⟩ fun w v hworlds => ?_
  have hstate : w.services transport.service = v.services transport.service :=
    congrFun hworlds.services_eq transport.service
  have hexchange := hservice.exchange_eq transport configuration h (v.services transport.service)
  intro state state' exchanged exchanged'
  have hsame : exchanged = exchanged' := (congrArg _ hstate).trans hexchange
  refine ⟨?_, congrArg Prod.fst hsame, hworlds.environment_eq, hworlds.files_eq, ?_,
    hworlds.neverFails, hworlds.neverFails'⟩
  · exact congrArg (fun s => (transport.refusal service ⟨request, configuration⟩ s).isSome) hstate
  · simp only [World.withService, hworlds.services_eq, hsame]

/-- A service to which such names are nothing takes each step alike. -/
theorem Coupling.steps_butNames (hservice : service.IgnoresNames) :
    Coupling.Steps (.butNames service) Request.SameButName (· = ·) where
  refl := .same
  named h := ⟨h.roleArn_eq, h.operation_eq⟩
  session := Hop.coupled_session_butNames service
  noTransport h htransport := h ▸ htransport
  send h htransport hrequest caller := by
    cases h
    exact ⟨_, htransport, Transport.coupled_send_butNames hservice _ _ hrequest⟩

end

namespace SuffixSource

/-- A source that gives what has been drawn, and nothing but suffixes after it. -/
def ofDrawn (drawn : List (Except Failure String)) : SuffixSource where
  stream n := (drawn[n]?).getD (.ok "")

theorem gives_ofDrawn (drawn : List (Except Failure String)) : (ofDrawn drawn).Gives drawn := by
  intro n suffix hn
  simp only [ofDrawn, Nat.zero_add, hn, Option.getD_some]

theorem neverFails_ofDrawn {drawn : List (Except Failure String)}
    (h : ∀ d ∈ drawn, ∃ suffix, d = .ok suffix) : (ofDrawn drawn).NeverFails := by
  intro n
  simp only [ofDrawn]
  cases hn : drawn[n]? with
  | none => exact ⟨"", rfl⟩
  | some d => exact h d (List.mem_of_getElem? hn)

end SuffixSource

/-! ### Executions -/

/-- The service that an errand calls, if its configuration has a transport. -/
def Errand.service? (errand : Errand) : Option ServiceName := errand.transport?.map (·.service)

def servicesOf (plan : List Errand) : List ServiceName := plan.filterMap Errand.service?

theorem KeepsTo.within [FieldRules] {plan : List Errand} {past : History} {act : Act}
    (h : KeepsTo plan past act) : act.Within (· ∈ servicesOf plan) := by
  have hmem {k : Nat} {errand : Errand} {transport : Transport} (herrand : plan[k]? = some errand)
      (htransport : errand.transport? = some transport) :
      transport.service ∈ servicesOf plan := by
    refine List.mem_filterMap.mpr ⟨errand, List.mem_of_getElem? herrand, ?_⟩
    rw [Errand.service?, htransport]
    rfl
  cases act with
  | logged | drew | answered => trivial
  | client name arguments refusal =>
    obtain ⟨errand, transport, herrand, htransport, rfl⟩ := h.isNext
    exact hmem herrand htransport
  | issued transport call =>
    obtain ⟨errand, configuration, herrand, hconfiguration, htransport, -⟩ := h.isNext.due
    refine hmem herrand ?_
    rw [Errand.transport?, hconfiguration]
    exact htransport

/-- What holds an execution to its plan. -/
def Rule.ofPlan [FieldRules] (plan : List Errand) : Rule Credentials where
  right := KeepsTo plan
  fails := Fails plan true
  ends := IsReady plan plan.length

/-- A chain and the configuration that it is executed under. -/
structure Execution where
  chain : ProviderChain
  configuration : Option ClientConfiguration

namespace Execution

def provider (e : Execution) : Provider := e.chain.provider e.configuration

def run [FieldRules] (e : Execution) : Run Credentials := e.chain.execute e.configuration

def plan (e : Execution) : List Errand := e.provider.plan

theorem binds_run [FieldRules] (e : Execution) : (Rule.ofPlan e.plan).Binds e.run [] :=
  e.provider.along_provide (List.prefix_refl _)

end Execution

/-- The plan of the execution at a position; where there is none there is nothing to do. -/
def planAt (executions : List Execution) (i : Nat) : List Errand :=
  (executions[i]?.map Execution.plan).getD []

theorem planAt_eq {executions : List Execution} {i : Nat} {e : Execution}
    (h : executions[i]? = some e) : planAt executions i = e.plan := by
  rw [planAt, h]
  rfl

/-- Executions call services of their own. -/
def CallApart (executions : List Execution) : Prop :=
  executions.Pairwise fun e f => ∀ name ∈ servicesOf e.plan, name ∉ servicesOf f.plan

instance (executions : List Execution) : Decidable (CallApart executions) :=
  inferInstanceAs (Decidable (executions.Pairwise _))

theorem CallApart.not_mem {executions : List Execution} (h : CallApart executions) {i j : Nat}
    (hij : i ≠ j) {name : ServiceName} (hi : name ∈ servicesOf (planAt executions i)) :
    name ∉ servicesOf (planAt executions j) := by
  intro hj
  cases hei : executions[i]? with
  | none =>
    rw [planAt, hei] at hi
    cases hi
  | some e =>
    cases hej : executions[j]? with
    | none =>
      rw [planAt, hej] at hj
      cases hj
    | some f =>
      rw [planAt_eq hei] at hi
      rw [planAt_eq hej] at hj
      obtain ⟨hilt, rfl⟩ := List.getElem?_eq_some_iff.mp hei
      obtain ⟨hjlt, rfl⟩ := List.getElem?_eq_some_iff.mp hej
      rcases Nat.lt_or_gt_of_ne hij with hlt | hlt
      · exact List.pairwise_iff_getElem.mp h i j hilt hjlt hlt _ hi hj
      · exact List.pairwise_iff_getElem.mp h j i hjlt hilt hlt _ hj hi

section

variable [FieldRules]

namespace Crowd

/-- Where executions side by side come to with some moves. -/
def ofExecutions (service : Service σ) (w : World σ) (executions : List Execution)
    (moves : List Move) : Crowd σ Credentials :=
  (start w (executions.map Execution.run)).after service moves

variable (service : Service σ) (w : World σ) {executions : List Execution} (moves : List Move)

def ruleAt (executions : List Execution) (i : Nat) : Rule Credentials :=
  .ofPlan (planAt executions i)

theorem binds_ruleAt (i : Nat) (run : Run Credentials)
    (h : (executions.map Execution.run)[i]? = some run) : (ruleAt executions i).Binds run [] := by
  rw [List.getElem?_map, Option.map_eq_some_iff] at h
  obtain ⟨e, he, rfl⟩ := h
  rw [ruleAt, planAt_eq he]
  exact e.binds_run

theorem keeps_ofExecutions :
    (ofExecutions service w executions moves).Keeps (ruleAt executions) :=
  Keeps.after binds_ruleAt moves

variable {i : Nat} {e : Execution}

theorem exists_party_ofExecutions (he : executions[i]? = some e) :
    ∃ party, (ofExecutions service w executions moves).parties[i]? = some party := by
  obtain ⟨hlt, -⟩ := List.getElem?_eq_some_iff.mp he
  have hlength : (ofExecutions service w executions moves).parties.length = executions.length := by
    refine after_induction (motive := fun crowd => crowd.parties.length = executions.length) service
      ?_ moves fun crowd m _ h => length_parties_move.trans h
    simp only [start, List.length_map]
  rw [← hlength] at hlt
  exact ⟨_, List.getElem?_eq_getElem hlt⟩

/-- An execution that is not cancelled does what it does alone with the suffixes that it draws. -/
theorem follows_ofExecutions (hapart : CallApart executions) (he : executions[i]? = some e)
    (hmoves : Move.cancel i ∉ moves) {source : SuffixSource}
    (hgives : source.Gives ((ofExecutions service w executions moves).past i).drawn) :
    (ofExecutions service w executions moves).Follows i
      (e.run.perform service { w with suffixes := source }) := by
  have hrun : (executions.map Execution.run)[i]? = some e.run := by
    rw [List.getElem?_map, he]
    rfl
  exact (tracks_after binds_ruleAt (fun i past act hact => KeepsTo.within hact)
    (fun i j name hij hi => hapart.not_mem hij hi) service moves hrun hmoves hgives).follows

/-- One of several executions side by side. What it has done is in order, whoever is cancelled. With
credentials it has made all its calls, and a failure leaves no suffix that it has drawn unused unless
there is no client for the call. If it is not cancelled it has done, as far as it has come, what it
does alone: with a constant source in the very same world, with any source in a world that gives it
the suffixes that it has drawn, and if names of sessions are nothing to the services, in the same
world but for such names. It comes to its end when it is given the turns. -/
structure KeepsApart (crowd : Crowd σ Credentials) (service : Service σ) (w : World σ)
    (moves : List Move) (i : Nat) (e : Execution) : Prop where
  orderly : (crowd.past i).IsOrderly e.plan
  earned : ∀ credentials, crowd.result? i = some (.ok credentials) →
    IsReady e.plan e.plan.length credentials (crowd.past i)
  leaves : ∀ raised, crowd.result? i = some (.error raised) → Leaves e.plan (crowd.past i)
  ends : ∃ n result, (crowd.after service (List.replicate n (.turn i))).result? i = some result
  constant : Move.cancel i ∉ moves → (∃ suffix, ∀ n, w.suffixes.stream n = .ok suffix) →
    crowd.Follows i (e.run.perform service w)
  given : Move.cancel i ∉ moves → ∀ source, source.Gives (crowd.past i).drawn →
    crowd.Follows i (e.run.perform service { w with suffixes := source })
  butNames : Move.cancel i ∉ moves → w.suffixes.NeverFails → service.IgnoresNames →
    ∃ ran : Ran σ Credentials, crowd.Follows i ran ∧
      ran.result = (e.run.perform service w).result ∧
      List.Forall₂ SameCallButName ran.calls (e.run.perform service w).calls

/-- Executions side by side, each with services of its own. Whatever the moves, what all draw are the
suffixes of the one source in order, and each execution keeps apart from the others. The turns of
every schedule are such moves. -/
theorem executions_apart (service : Service σ) (w : World σ) (executions : List Execution)
    (hapart : CallApart executions) :
    (∀ schedule, ∃ moves, (∀ i, Move.cancel i ∉ moves) ∧
      (ofExecutions service w executions moves).IsAt
        ((Gathering.start w (executions.map Execution.run)).follow service schedule)) ∧
    ∀ moves,
      let crowd := ofExecutions service w executions moves
      w.suffixes.Gives crowd.history.drawn ∧
      ∀ (i : Nat) (e : Execution), executions[i]? = some e →
        crowd.KeepsApart service w moves i e := by
  refine ⟨exists_turns_follow service w _, fun moves => ?_⟩
  intro crowd
  have hkeeps : crowd.Keeps (ruleAt executions) := keeps_ofExecutions service w moves
  have hdraws : crowd.DrawsFrom w.suffixes := drawsFrom service w _ moves
  refine ⟨hdraws.gives, fun i e he => ?_⟩
  obtain ⟨party, hparty⟩ := exists_party_ofExecutions service w moves he
  have hrule : ruleAt executions i = .ofPlan e.plan := by
    rw [ruleAt, planAt_eq he]
  have hright : (crowd.past i).Throughout (KeepsTo e.plan) := by
    have hpast := (hkeeps i party hparty).1
    rwa [hrule] at hpast
  constructor
  case orderly => exact .of_throughout hright
  case earned =>
    intro credentials hresult
    have hends := hkeeps.of_result hresult
    rwa [hrule] at hends
  case leaves =>
    intro raised hresult
    have hfails := hkeeps.of_result hresult
    rw [hrule] at hfails
    exact hfails.leaves
  case ends => exact exists_turns_end service i hparty
  case constant =>
    rintro hmoves ⟨suffix, hsuffix⟩
    -- The source of the world itself gives what is drawn here, though others draw in between.
    have hgives : w.suffixes.Gives (crowd.past i).drawn :=
      SuffixSource.gives_of_constant hsuffix fun d hd => by
        obtain ⟨n, hn⟩ := hdraws.gives.exists_of_mem (mem_drawn_history hd)
        exact hn.symm.trans (hsuffix n)
    exact follows_ofExecutions service w moves hapart he hmoves hgives
  case given =>
    exact fun hmoves source hgives => follows_ofExecutions service w moves hapart he hmoves hgives
  case butNames =>
    intro hmoves hnever hservice
    -- Alone in its own world it would draw other suffixes. So it is first compared to itself with the
    -- suffixes that it has drawn here, and this run to the one in its own world.
    let source : SuffixSource := .ofDrawn (crowd.past i).drawn
    have hgives : source.Gives (crowd.past i).drawn := SuffixSource.gives_ofDrawn _
    have hsource : source.NeverFails := SuffixSource.neverFails_ofDrawn fun d hd => by
      obtain ⟨n, hn⟩ := hdraws.gives.exists_of_mem (mem_drawn_history hd)
      rw [← hn]
      exact hnever n
    have hcompare := (Coupling.steps_butNames hservice).provide
      (.refl e.provider) { w with suffixes := source } w ⟨rfl, rfl, rfl, hsource, hnever⟩
    exact ⟨_, follows_ofExecutions service w moves hapart he hmoves hgives,
      ResultsAlike.eq_iff.mp hcompare.result, hcompare.calls⟩

end Crowd

end

attribute [local instance] FieldRules.lax

/-- Two executions of a chain, the second of which is cancelled while it waits. -/
theorem Crowd.executions_apart_cancelled :
    let service : Service Unit := {
      refusal := fun _ _ => none
      answer := fun _ call => (.data (Script.echoed call.request.roleArn), ()) }
    let first : Credentials := { accessKeyId := "id", secretAccessKey := "s", providerName := "p" }
    let chain : ProviderChain := ⟨.static first, [{ roleArn := "a" }]⟩
    let one : Execution := ⟨chain, some ⟨some ⟨.standard, .direct⟩, none, none⟩⟩
    let other : Execution := ⟨chain, some ⟨some ⟨.named "t", .direct⟩, none, none⟩⟩
    let w := World.bare "1" ()
    let moves : List Move := [.turn 1, .turn 0, .turn 1, .turn 1, .turn 0, .turn 0, .cancel 1,
      .turn 1, .turn 0, .turn 0]
    let crowd := ofExecutions service w [one, other] moves
    let alone := one.run.perform service w
    CallApart [one, other] ∧ .cancel 0 ∉ moves ∧ (crowd.past 1).calls = 1 ∧
      (crowd.result? 1).map Except.isOk = some false ∧
      crowd.result? 0 = some alone.result ∧ alone.result.isOk = true ∧
      (crowd.past 0).events = alone.events := by
  intro service first chain one other w moves crowd alone
  have hapart : CallApart [one, other] := by decide
  have hmoves : Move.cancel 0 ∉ moves := by decide
  have hcalled : (crowd.past 1).calls = 1 := by decide +kernel
  have hcancelled : (crowd.result? 1).map Except.isOk = some false := by decide +kernel
  have hended : (crowd.result? 0).isSome = true := by decide +kernel
  have hissued : alone.result.isOk = true := by decide +kernel
  obtain ⟨result, hresult⟩ := Option.isSome_iff_exists.mp hended
  have hone := ((executions_apart service w _ hapart).2 moves).2 0 one rfl
  obtain ⟨hsame, hevents⟩ := (hone.constant hmoves ⟨"1", fun _ => rfl⟩).result result hresult
  refine ⟨hapart, hmoves, hcalled, hcancelled, ?_, hissued, hevents.symm⟩
  rw [hresult, ← hsame]

/-- Where names of sessions are told to a service they can make a difference: of two executions the
one that draws second fails, and alone it does not. A third draws a suffix that names no call, since
there is no client for it. -/
theorem Crowd.executions_apart_named :
    let service : Service Unit := {
      refusal := fun _ _ => some (.unreachable "sts")
      answer := fun _ call =>
        (if call.request.sessionName = "assume-role-from-profile-0" then
          .data (Script.echoed call.request.roleArn) else .failure (.unreachable "sts"), ()) }
    let chain : ProviderChain :=
      ⟨.static { accessKeyId := "id", secretAccessKey := "s" }, [{ roleArn := "a" }]⟩
    let one : Execution := ⟨chain, some ⟨some ⟨.standard, .direct⟩, none, none⟩⟩
    let other : Execution := ⟨chain, some ⟨some ⟨.named "t", .direct⟩, none, none⟩⟩
    let third : Execution := ⟨chain, some ⟨some ⟨.named "u", .clientPerCall⟩, none, none⟩⟩
    let source : SuffixSource := { stream := fun n => .ok (Decimal.digitText n) }
    let w : World Unit := { World.bare "" () with suffixes := source }
    let moves : List Move := (List.replicate 7 [.turn 1, .turn 0, .turn 2]).flatten
    let crowd := ofExecutions service w [one, other, third] moves
    CallApart [one, other, third] ∧ source.NeverFails ∧ (∀ i, .cancel i ∉ moves) ∧
      (crowd.result? 0).map Except.isOk = some false ∧
      (one.run.perform service w).result.isOk = true ∧
      (crowd.result? 2).map Except.isOk = some false ∧
      (crowd.past 2).drawn.map Except.toOption = [some "2"] ∧
      ∀ made ∈ crowd.history.issued,
        made.2.request.sessionName ≠ SessionName.withSuffix SessionName.assumeRolePurpose "2" := by
  intro service chain one other third source w moves crowd
  refine ⟨by decide, fun n => ⟨_, rfl⟩, fun i hi => ?_, ?_, ?_, ?_, ?_, ?_⟩
  · simp [moves] at hi
  · decide +kernel
  · decide +kernel
  · decide +kernel
  · decide +kernel
  · decide +kernel

end RoleChain
