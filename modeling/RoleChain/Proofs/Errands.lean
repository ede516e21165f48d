import RoleChain.Proofs.Exchange

/-!
Errands. A provider has its calls laid out before it makes any: one with a token, if its root is a
web identity role, and one for each hop of its chains, the innermost chain first. Whatever a run is
told, it keeps to this plan. It does one errand after the other, a call goes out when the call before
it has been answered and its answer made into credentials, and a suffix that is drawn is for the
errand that comes next. A run that fails leaves no suffix that a call of its could have used. What
ends a run is the last that it does: it fails with a cancellation as it is told of it, and a warning
is followed by nothing but the failure that it warns of.
-/
namespace RoleChain

variable {α β : Type}

/-! ### What a run does -/

/-- What a run does and what it is told, one at a time. -/
inductive Act where
  | logged (record : Record)
  | drew (suffix : Except Failure String)
  | client (service : ServiceName) (arguments : ClientArguments) (refusal : Option Failure)
  | issued (transport : Transport) (call : Call)
  | answered (answer : Except Failure Datum)

/-- What has been done up to some moment, the latest first. -/
abbrev History := List Act

namespace History

def calls : History → Nat
  | [] => 0
  | .issued .. :: past => calls past + 1
  | _ :: past => calls past

def awaits : History → Bool
  | [] => false
  | .issued .. :: _ => true
  | .answered _ :: _ => false
  | _ :: past => awaits past

def fresh : History → List (Except Failure String)
  | [] => []
  | .issued .. :: _ => []
  | .drew suffix :: past => suffix :: fresh past
  | _ :: past => fresh past

/-- Whether the latest thing done, records apart, is to ask for a client, and it was refused. -/
def isRefused : History → Bool
  | .client _ _ refusal :: _ => refusal.isSome
  | .logged _ :: past => isRefused past
  | _ => false

/-- The cancellation that the run was told of last, if it was told of one. -/
def cancellation? : History → Option (List Datum)
  | .client _ _ (some (.cancelled arguments)) :: _ => some arguments
  | .answered (.error (.cancelled arguments)) :: _ => some arguments
  | _ => none

/-- Whether the latest thing done is to warn. -/
def hasWarned : History → Bool
  | .logged record :: _ => record.level = .warning
  | _ => false

/-- Whether nothing but a failure may come. -/
def isOver (past : History) : Bool := past.cancellation?.isSome || past.hasWarned

theorem isOver_logged {record : Record} (h : record.level ≠ .warning) (past : History) :
    isOver (.logged record :: past) = false := by
  simp [isOver, cancellation?, hasWarned, h]

/-- The latest answer. -/
def answer? : History → Option (Except Failure Datum)
  | [] => none
  | .answered answer :: _ => some answer
  | _ :: past => answer? past

end History

namespace Run

/-- Whether all that a run may still do, after a past and whatever it is told, is right in its turn;
what holds of its value and its past when it ends with a value, and what of its failure and its past
when it fails. While it waits for a file it may be cancelled. It never looks at the settings. -/
def Along (right : History → Act → Prop) (fails : Raised → History → Prop) :
    Run α → History → (α → History → Prop) → Prop
  | done value, past, ends => ends value past
  | raise raised, past, _ => fails raised past
  | log record next, past, ends =>
    right past (.logged record) ∧ next.Along right fails (.logged record :: past) ends
  | environment next, past, ends => ∀ env, (next env).Along right fails past ends
  | settings _, _, _ => False
  | file _ next, past, ends =>
    fails (Failure.cancelled []).alone past ∧ ∀ content, (next content).Along right fails past ends
  | suffix next, past, ends =>
    ∀ drawn, right past (.drew drawn) ∧ (next drawn).Along right fails (.drew drawn :: past) ends
  | client name arguments next, past, ends =>
    ∀ refusal, right past (.client name arguments refusal) ∧
      (next refusal).Along right fails (.client name arguments refusal :: past) ends
  | call transport c next, past, ends =>
    right past (.issued transport c) ∧
      ∀ answer, right (.issued transport c :: past) (.answered answer) ∧
        (next answer).Along right fails (.answered answer :: .issued transport c :: past) ends

namespace Along

variable {right : History → Act → Prop} {fails fails' : Raised → History → Prop} {run : Run α}
  {past : History} {ends : α → History → Prop}

theorem bind (h : run.Along right fails past ends) {f : α → Run β} {ends' : β → History → Prop}
    (hf : ∀ value past, ends value past → (f value).Along right fails past ends') :
    (run.bind f).Along right fails past ends' := by
  induction run generalizing past with
  | done value => exact hf value past h
  | raise raised => exact h
  | log record next ih => exact ⟨h.1, ih h.2⟩
  | environment next ih => exact fun env => ih env (h env)
  | settings next ih => exact h.elim
  | file path next ih => exact ⟨h.1, fun content => ih content (h.2 content)⟩
  | suffix next ih => exact fun drawn => ⟨(h drawn).1, ih drawn (h drawn).2⟩
  | client name arguments next ih => exact fun refusal => ⟨(h refusal).1, ih refusal (h refusal).2⟩
  | call transport c next ih =>
    exact ⟨h.1, fun answer => ⟨(h.2 answer).1, ih answer (h.2 answer).2⟩⟩

/-- A handler changes what the run fails with and what it leaves then. It does not handle the
cancellation of a run that waits for a file. -/
theorem rescue (h : run.Along right fails past ends) {handler : Raised → Run α}
    (hhandler : ∀ raised past, fails raised past →
      (handler raised).Along right fails' past ends)
    (hcancelled : ∀ past, fails (Failure.cancelled []).alone past →
      fails' (Failure.cancelled []).alone past) :
    (run.rescue handler).Along right fails' past ends := by
  induction run generalizing past with
  | done value => exact h
  | raise raised => exact hhandler raised past h
  | log record next ih => exact ⟨h.1, ih h.2⟩
  | environment next ih => exact fun env => ih env (h env)
  | settings next ih => exact h.elim
  | file path next ih => exact ⟨hcancelled past h.1, fun content => ih content (h.2 content)⟩
  | suffix next ih => exact fun drawn => ⟨(h drawn).1, ih drawn (h drawn).2⟩
  | client name arguments next ih => exact fun refusal => ⟨(h refusal).1, ih refusal (h refusal).2⟩
  | call transport c next ih =>
    exact ⟨h.1, fun answer => ⟨(h.2 answer).1, ih answer (h.2 answer).2⟩⟩

theorem mono_fails (h : run.Along right fails past ends)
    (hfails : ∀ raised past, fails raised past → fails' raised past) :
    run.Along right fails' past ends := by
  induction run generalizing past with
  | done value => exact h
  | raise raised => exact hfails raised past h
  | log record next ih => exact ⟨h.1, ih h.2⟩
  | environment next ih => exact fun env => ih env (h env)
  | settings next ih => exact h.elim
  | file path next ih => exact ⟨hfails _ _ h.1, fun content => ih content (h.2 content)⟩
  | suffix next ih => exact fun drawn => ⟨(h drawn).1, ih drawn (h drawn).2⟩
  | client name arguments next ih => exact fun refusal => ⟨(h refusal).1, ih refusal (h refusal).2⟩
  | call transport c next ih =>
    exact ⟨h.1, fun answer => ⟨(h.2 answer).1, ih answer (h.2 answer).2⟩⟩

theorem ofExcept {value : Except Failure α}
    (hfails : ∀ failure : Failure, fails failure.alone past)
    (h : ∀ a, value = .ok a → ends a past) : (Run.ofExcept value).Along right fails past ends := by
  cases value with
  | error failure => exact hfails failure
  | ok a => exact h a rfl

end Along

end Run

/-! ### What a provider has to do -/

/-- A call that a provider has to make: with a token, or for a hop under the configuration of its
chain, if it has one. -/
inductive Errand where
  | token (role : WebIdentityRole) (configuration : ClientConfiguration)
  | hop (hop : Hop) (configuration : Option ClientConfiguration)

namespace Errand

def configuration? : Errand → Option ClientConfiguration
  | token _ configuration => some configuration
  | hop _ configuration => configuration

def transport? (errand : Errand) : Option Transport := errand.configuration?.bind (·.transport)

def roleArn : Errand → String
  | token role _ => role.roleArn
  | hop h _ => h.roleArn

def isSigned : Errand → Bool
  | token .. => false
  | hop .. => true

/-- The name that credentials are given that the errand comes to. -/
def providerName : Errand → String
  | token .. => WebIdentityRole.providerName
  | hop .. => Hop.providerName

/-- Whether the name of the session is left open. -/
def isUnnamed : Errand → Bool
  | token .. => false
  | hop h _ => h.sessionName.isNone

/-- Whether a name is the one for the session, given the suffixes that have been drawn for it. -/
def Names (errand : Errand) (drawn : List (Except Failure String)) (name : String) : Prop :=
  match errand with
  | token role _ => drawn = [] ∧ name = role.sessionName
  | hop h _ =>
    match h.sessionName with
    | some declared => drawn = [] ∧ name = declared
    | none => ∃ suffix, drawn = [.ok suffix] ∧
        name = SessionName.withSuffix SessionName.assumeRolePurpose suffix

/-- Whether a request is the one for the errand, but for the name of the session. -/
def Requests (errand : Errand) (request : Request) : Prop :=
  match errand with
  | token role _ =>
    ∃ name token, request = .withWebIdentity ⟨role.roleArn, name, token⟩
  | hop h _ => ∃ name, request = .assumeRole ⟨h.roleArn, name, h.externalId⟩

/-- The credentials that the errand comes to with an answer, if it comes to any. -/
def earned? [FieldRules] (errand : Errand) : Except Failure Datum → Option Credentials
  | .error _ => none
  | .ok data =>
    match (Response.ofDatum data).report Response.title with
    | .error _ => none
    | .ok response => response.credentials.map fun c => c.toCredentials errand.providerName

end Errand

/-- The calls that a provider has to make, in order. -/
def Provider.plan : Provider → List Errand
  | static _ | environment _ => []
  | webIdentity role configuration => [.token role configuration]
  | chain base hops configuration => base.plan ++ hops.map fun h => .hop h configuration

/-! ### Failing -/

/-- What a run may leave when it fails. No suffix is left that has been drawn for a call, or the
suffix could not be drawn, or the call cannot be made: it has no transport, or its client is
refused. -/
inductive Leaves (plan : List Errand) (past : History) : Prop
  | nothing (hfresh : past.fresh = [])
  | noSuffix (failure : Failure) (hfresh : past.fresh = [.error failure])
  | noTransport (errand : Errand) (herrand : plan[past.calls]? = some errand)
      (htransport : errand.transport? = none)
  | noClient (hrefused : past.isRefused = true)

theorem Leaves.logged {plan : List Errand} {past : History} (h : Leaves plan past)
    (record : Record) : Leaves plan (.logged record :: past) := by
  cases h with
  | nothing hfresh => exact .nothing hfresh
  | noSuffix failure hfresh => exact .noSuffix failure hfresh
  | noTransport errand herrand htransport => exact .noTransport errand herrand htransport
  | noClient hrefused => exact .noClient hrefused

/-- How a run may fail: what it leaves, that it fails with the cancellation that it was told of, if it
was told of one, and whether it may have warned. -/
structure Fails (plan : List Errand) (warns : Bool) (raised : Raised) (past : History) : Prop where
  leaves : Leaves plan past
  cancelled : ∀ arguments, past.cancellation? = some arguments →
    raised = (Failure.cancelled arguments).alone
  quiet : past.hasWarned = true → warns = true

namespace Fails

variable {plan : List Errand} {warns : Bool} {raised : Raised} {past : History}

/-- A run that goes on may fail with anything. -/
theorem of_goesOn (h : past.isOver = false) (hleaves : Leaves plan past) (raised : Raised) :
    Fails plan warns raised past := by
  obtain ⟨hcancelled, hwarned⟩ := Bool.or_eq_false_iff.mp h
  refine ⟨hleaves, fun arguments hsome => ?_, fun hquiet => ?_⟩
  · rw [hsome] at hcancelled
    cases hcancelled
  · rw [hquiet] at hwarned
    cases hwarned

/-- A failed call, whatever the failure is. -/
theorem relayed (hleaves : Leaves plan past) (kind : TransportKind) {failure : Failure}
    (hcancelled : ∀ arguments, past.cancellation? = some arguments →
      failure = .cancelled arguments) (hquiet : past.hasWarned = false) :
    Fails plan warns (kind.relay failure).alone past := by
  refine ⟨hleaves, fun arguments hsome => ?_, fun h => ?_⟩
  · rw [hcancelled arguments hsome]
    cases kind <;> rfl
  · rw [hquiet] at h
    cases h

/-- A failure that is no cancellation is not that of a run that was told of one. -/
theorem goesOn (h : Fails plan false raised past) (hexception : raised.failure.isCancellation = false) :
    past.isOver = false := by
  cases hwarned : past.hasWarned with
  | true => cases h.quiet hwarned
  | false =>
    cases hcancelled : past.cancellation? with
    | none => simp [History.isOver, hcancelled, hwarned]
    | some arguments =>
      rw [h.cancelled arguments hcancelled] at hexception
      cases hexception

theorem mono (h : Fails plan false raised past) : Fails plan warns raised past :=
  ⟨h.leaves, h.cancelled, fun hwarned => nomatch h.quiet hwarned⟩

end Fails

/-! ### Keeping to a plan -/

variable [FieldRules]

/-- Whether a call is the right one after a past: the plan says so, the call before it has been
answered, and its answer made into the credentials that the call is made with. -/
structure IsInTurn (plan : List Errand) (past : History) (transport : Transport) (call : Call) :
    Prop where
  awaits_eq : past.awaits = false
  due : ∃ errand configuration, plan[past.calls]? = some errand ∧
    errand.configuration? = some configuration ∧ configuration.transport = some transport ∧
    errand.Requests call.request ∧ errand.Names past.fresh call.request.sessionName ∧
    call.configuration = configuration.forCaller call.configuration.caller ∧
    call.configuration.caller.isSome = errand.isSigned
  earned : ∀ k, past.calls = k + 1 → ∃ errand answer, plan[k]? = some errand ∧
    past.answer? = some answer ∧ call.configuration.caller = errand.earned? answer

/-- Whether an act is the next one of a plan after a past. -/
def IsNext (plan : List Errand) (past : History) : Act → Prop
  | .logged _ => True
  | .drew _ => past.fresh = [] ∧ ∃ errand, plan[past.calls]? = some errand ∧ errand.isUnnamed = true
  | .client service _ _ => ∃ errand transport, plan[past.calls]? = some errand ∧
      errand.transport? = some transport ∧ transport.service = service
  | .issued transport call => IsInTurn plan past transport call
  | .answered _ => past.awaits = true

/-- Whether an act is right after a past: the run goes on, and the act is the next one. -/
structure KeepsTo (plan : List Errand) (past : History) (act : Act) : Prop where
  goesOn : past.isOver = false
  isNext : IsNext plan past act

/-- A past in which so many errands are done, the last of which has come to the credentials at
hand. -/
structure IsReady (plan : List Errand) (done : Nat) (credentials : Credentials) (past : History) :
    Prop where
  calls_eq : past.calls = done
  awaits_eq : past.awaits = false
  fresh_eq : past.fresh = []
  goesOn : past.isOver = false
  earned : ∀ k, done = k + 1 → ∃ errand answer, plan[k]? = some errand ∧
    past.answer? = some answer ∧ errand.earned? answer = some credentials

namespace IsReady

variable {plan : List Errand} {done : Nat} {credentials : Credentials} {past : History}

theorem start (plan : List Errand) (credentials : Credentials) : IsReady plan 0 credentials [] :=
  ⟨rfl, rfl, rfl, rfl, fun _ h => nomatch h⟩

theorem logged (h : IsReady plan done credentials past) {record : Record}
    (hlevel : record.level ≠ .warning) : IsReady plan done credentials (.logged record :: past) :=
  ⟨h.calls_eq, h.awaits_eq, h.fresh_eq, History.isOver_logged hlevel past, h.earned⟩

/-- With nothing but a record nothing is done. -/
theorem record (h : IsReady plan done credentials past) {level : Level} (hlevel : level ≠ .warning)
    (logger message : String) {fails : Raised → History → Prop} :
    (Run.record level logger message).Along (KeepsTo plan) fails past
      fun _ => IsReady plan done credentials :=
  ⟨⟨h.goesOn, trivial⟩, h.logged hlevel⟩

end IsReady

/-- A past in which one more errand has been answered, and how. -/
structure IsAnswered (done : Nat) (response : Response) (past : History) : Prop where
  calls_eq : past.calls = done + 1
  awaits_eq : past.awaits = false
  fresh_eq : past.fresh = []
  goesOn : past.isOver = false
  answer : ∃ data, past.answer? = some (.ok data) ∧
    (Response.ofDatum data).report Response.title = .ok response

namespace IsAnswered

variable {plan : List Errand} {done : Nat} {response : Response} {past : History}

/-- The credentials in an answer are those that the errand comes to. -/
theorem ready (h : IsAnswered done response past) {errand : Errand}
    (herrand : plan[done]? = some errand) (role : Option String) :
    (Run.ofExcept (Credentials.ofIssued response.credentials errand.providerName role)).Along
      (KeepsTo plan) (Fails plan false) past (IsReady plan (done + 1)) := by
  refine .ofExcept (fun failure => .of_goesOn h.goesOn (.nothing h.fresh_eq) _)
    fun credentials hissued => ?_
  refine ⟨h.calls_eq, h.awaits_eq, h.fresh_eq, h.goesOn, fun k hk => ?_⟩
  obtain ⟨data, hanswer, hresponse⟩ := h.answer
  cases hk
  refine ⟨errand, .ok data, herrand, hanswer, ?_⟩
  simp only [Errand.earned?, hresponse]
  cases hcredentials : response.credentials with
  | none =>
    rw [hcredentials] at hissued
    cases hissued
  | some block =>
    rw [hcredentials] at hissued
    cases hissued
    rfl

end IsAnswered

section

variable {plan : List Errand} {past : History}

namespace Transport

theorem along_answer {transport : Transport} {call : Call} (hover : past.isOver = false)
    (h : IsInTurn plan past transport call) :
    (transport.answer call).Along (KeepsTo plan) (Fails plan false) past
      (IsAnswered past.calls) := by
  refine ⟨⟨hover, h⟩, fun answer => ⟨⟨rfl, rfl⟩, ?_⟩⟩
  cases answer with
  | error failure =>
    refine .relayed (.nothing rfl) _ (fun arguments hcancelled => ?_) rfl
    cases failure <;> cases hcancelled
    rfl
  | ok data =>
    refine .ofExcept (fun failure => .of_goesOn rfl (.nothing rfl) _) fun response hresponse =>
      ⟨rfl, rfl, rfl, rfl, data, rfl, ?_⟩
    cases hreport : (Response.ofDatum data).report Response.title with
    | error report =>
      rw [hreport] at hresponse
      cases hresponse
    | ok response' =>
      rw [hreport] at hresponse
      cases hresponse
      rfl

/-- A call that is in its turn keeps to the plan, a client that is made for it included. -/
theorem along_send {transport : Transport} {call : Call} (hover : past.isOver = false)
    (h : IsInTurn plan past transport call) :
    (transport.send call).Along (KeepsTo plan) (Fails plan false) past (IsAnswered past.calls) := by
  obtain ⟨name, _ | _⟩ := transport
  · exact along_answer hover h
  · obtain ⟨errand, configuration, herrand, hconfiguration, htransport, -⟩ := h.due
    have hdue : errand.transport? = some ⟨name, .clientPerCall⟩ := by
      rw [Errand.transport?, hconfiguration]
      exact htransport
    refine ⟨⟨hover, trivial⟩, fun refusal => ⟨⟨rfl, errand, _, herrand, hdue, rfl⟩, ?_⟩⟩
    cases refusal with
    | some failure =>
      refine .relayed (.noClient rfl) _ (fun arguments hcancelled => ?_) rfl
      cases failure <;> cases hcancelled
      rfl
    | none => exact along_answer rfl ⟨h.awaits_eq, h.due, h.earned⟩

end Transport

theorem ClientConfiguration.along_send {configuration : ClientConfiguration}
    {caller : Option Credentials} {request : Request} (hover : past.isOver = false)
    (h : ∀ transport, configuration.transport = some transport →
      IsInTurn plan past transport ⟨request, configuration.forCaller caller⟩)
    (hnone : configuration.transport = none → Leaves plan past) (providerName : String) :
    (configuration.send providerName caller request).Along (KeepsTo plan) (Fails plan false) past
      (IsAnswered past.calls) := by
  refine .rescue ?_ (fun raised past hfails => ?_) fun _ hfails => hfails
  · cases htransport : configuration.transport with
    | none => exact .of_goesOn hover (hnone htransport) _
    | some transport => exact transport.along_send hover (h transport htransport)
  · cases hcancel : raised.failure.isCancellation with
    | true => exact hfails
    | false => exact .of_goesOn (hfails.goesOn hcancel) hfails.leaves _

namespace Hop

/-- The past of a call for a hop: a suffix has been drawn if its session has no name. -/
theorem along_session {done : Nat} {caller : Credentials} (hop : Hop)
    {configuration : Option ClientConfiguration} (hready : IsReady plan done caller past)
    (herrand : plan[done]? = some (.hop hop configuration)) :
    hop.session.Along (KeepsTo plan) (Fails plan false) past fun name past =>
      past.calls = done ∧ past.awaits = false ∧ past.isOver = false ∧
        (Errand.hop hop configuration).Names past.fresh name ∧
        ∀ k, done = k + 1 → ∃ errand answer, plan[k]? = some errand ∧
          past.answer? = some answer ∧ errand.earned? answer = some caller := by
  obtain ⟨hcalls, hawaits, hfresh, hover, hearned⟩ := hready
  unfold session
  cases hname : hop.sessionName with
  | some name =>
    refine ⟨hcalls, hawaits, hover, ?_, hearned⟩
    simp only [Errand.Names, hname, and_true]
    exact hfresh
  | none =>
    refine fun drawn => ⟨⟨hover, hfresh, .hop hop configuration, ?_, ?_⟩, ?_⟩
    · rw [hcalls]
      exact herrand
    · simp only [Errand.isUnnamed, hname, Option.isNone_none]
    · cases drawn with
      | error failure =>
        refine Fails.of_goesOn rfl (.noSuffix failure ?_) _
        exact congrArg (_ :: ·) hfresh
      | ok suffix =>
        refine ⟨hcalls, hawaits, rfl, ?_, hearned⟩
        simp only [Errand.Names, hname]
        exact ⟨suffix, congrArg (_ :: ·) hfresh, rfl⟩

/-- With one errand done after the other, a hop is the next. -/
theorem along_credentials {done : Nat} {caller : Credentials} (hop : Hop)
    {configuration : Option ClientConfiguration} (hready : IsReady plan done caller past)
    (herrand : plan[done]? = some (.hop hop configuration)) :
    (hop.credentials caller configuration).Along (KeepsTo plan) (Fails plan false) past
      (IsReady plan (done + 1)) := by
  cases configuration with
  | none => exact .of_goesOn hready.goesOn (.nothing hready.fresh_eq) _
  | some configuration =>
    refine (hop.along_session hready herrand).bind fun name past hnamed => ?_
    obtain ⟨rfl, hawaits, hover, hname, hearned⟩ := hnamed
    refine .bind (configuration.along_send hover (fun transport htransport => ?_)
      (fun hnone => .noTransport _ herrand hnone) _)
      fun response past hanswered => hanswered.ready herrand _
    refine ⟨hawaits, ⟨_, configuration, herrand, rfl, htransport, ⟨name, rfl⟩, hname, rfl, rfl⟩, ?_⟩
    intro k hk
    obtain ⟨errand, answer, hbefore, hanswer, hcaller⟩ := hearned k hk
    exact ⟨errand, answer, hbefore, hanswer, hcaller.symm⟩

/-- A warning is the last that a chain does but fail. -/
theorem along_failAt (hop : Hop) (index : Nat) {raised : Raised} (h : Fails plan false raised past)
    (ends : Credentials → History → Prop) :
    (hop.failAt index raised).Along (KeepsTo plan) (Fails plan true) past ends := by
  obtain ⟨failure, source⟩ := raised
  have hwarned (record : Record) (raised : Raised) :
      Fails plan true raised (.logged record :: past) :=
    ⟨h.leaves.logged record, fun _ hnone => (nomatch hnone), fun _ => rfl⟩
  cases failure with
  | provider => exact ⟨⟨h.goesOn rfl, trivial⟩, hwarned _ _⟩
  | invalidResponse => exact ⟨⟨h.goesOn rfl, trivial⟩, hwarned _ _⟩
  | _ => exact h.mono

end Hop

theorem along_assumeAll {configuration : Option ClientConfiguration} (hops : List Hop)
    {done : Nat} {caller : Credentials} (index : Nat) (hready : IsReady plan done caller past)
    (herrands : (hops.map fun h => Errand.hop h configuration) <+: plan.drop done) :
    (assumeAll configuration index hops caller).Along (KeepsTo plan) (Fails plan true) past
      (IsReady plan (done + hops.length)) := by
  induction hops generalizing done caller index past with
  | nil => exact hready
  | cons hop hops ih =>
    obtain ⟨later, hplan⟩ := herrands
    have hfirst : plan[done]? = some (.hop hop configuration) := by
      rw [← Nat.add_zero done, ← List.getElem?_drop, ← hplan]
      rfl
    have hrest : (hops.map fun h => Errand.hop h configuration) <+: plan.drop (done + 1) := by
      rw [← List.drop_drop, ← hplan]
      exact List.prefix_append _ _
    have hlength : done + (hop :: hops).length = done + 1 + hops.length := by
      rw [List.length_cons]
      omega
    rw [hlength]
    -- With this hop done the rest is due, one place further on in the plan.
    refine .bind (.rescue (hop.along_credentials hready hfirst) (fun raised past hfails =>
      hop.along_failAt index hfails _) fun _ hfails => hfails.mono) fun assumed past hassumed => ?_
    exact .bind (hassumed.record (by decide) _ _) fun _ past hlogged =>
      ih (index + 1) hlogged hrest

theorem Environment.along_load (env : Environment) :
    env.load.Along (KeepsTo plan) (Fails plan true) [] (IsReady plan 0) := by
  unfold load
  cases env.credentials with
  | error reason => exact .of_goesOn rfl (.nothing rfl) _
  | ok credentials =>
    exact ⟨⟨rfl, trivial⟩, (IsReady.start plan credentials).logged (by decide)⟩

-- From here on nobody computes what variables hold.
attribute [local irreducible] Environment.load

namespace WebIdentityRole

/-- The role that is assumed with a token is the first errand. -/
theorem along_credentials {role : WebIdentityRole} {configuration : ClientConfiguration}
    (herrand : plan[0]? = some (.token role configuration)) :
    (role.credentials configuration).Along (KeepsTo plan) (Fails plan false) []
      (IsReady plan 1) := by
  have hfails (raised : Raised) : Fails plan false raised [] := .of_goesOn rfl (.nothing rfl) raised
  have htoken : role.readToken.Along (KeepsTo plan) (Fails plan false) [] fun _ past => past = [] := by
    refine ⟨hfails _, ?_⟩
    rintro ((_ | error) | content)
    · exact hfails _
    · exact hfails _
    · dsimp only
      cases Text.ofFile content with
      | error refusal => exact hfails _
      | ok text => rfl
  refine htoken.bind fun token past hpast => ?_
  subst hpast
  refine ⟨⟨rfl, trivial⟩, ?_⟩
  refine .bind (configuration.along_send rfl (fun transport htransport => ?_)
    (fun _ => .nothing rfl) _) fun response past hanswered => hanswered.ready herrand _
  exact ⟨rfl, ⟨_, configuration, herrand, rfl, htransport, ⟨_, token, rfl⟩, ⟨rfl, rfl⟩, rfl, rfl⟩,
    fun k hk => nomatch hk⟩

end WebIdentityRole

namespace Provider

/-- A provider keeps to its plan, and to every plan that begins with it. -/
theorem along_provide (p : Provider) (h : p.plan <+: plan) :
    p.provide.Along (KeepsTo plan) (Fails plan true) [] (IsReady plan p.plan.length) := by
  induction p with
  | static credentials => exact .start plan credentials
  | environment given =>
    cases given with
    | some env => exact env.along_load
    | none => exact fun env => env.along_load
  | webIdentity role configuration =>
    refine (WebIdentityRole.along_credentials ?_).mono_fails fun _ _ hfails => hfails.mono
    obtain ⟨rest, rfl⟩ := h
    rfl
  | chain base hops configuration ih =>
    -- The plan begins with that of the base, and goes on with the hops.
    have hbase : base.plan <+: plan := (List.prefix_append _ _).trans h
    have hhops : (hops.map fun h => Errand.hop h configuration) <+: plan.drop base.plan.length := by
      obtain ⟨rest, rfl⟩ := h
      simp only [Provider.plan, List.append_assoc, List.drop_left]
      exact List.prefix_append _ _
    rw [Provider.provide, Provider.plan, List.length_append, List.length_map]
    refine (ih hbase).bind fun first past hfirst => ?_
    refine .bind (hfirst.record (by decide) _ _) fun _ past hlogged => ?_
    exact along_assumeAll hops 0 hlogged hhops

end Provider

end

end RoleChain
