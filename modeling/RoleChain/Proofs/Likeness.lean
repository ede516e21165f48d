import RoleChain.Execution
import RoleChain.Proofs.Secrets

/-!
Ways to compare runs. A likeness says when two runs are alike, and when what they are told, what
they ask for and what they come to are. If it is kept by going on and by handlers, and the calls of
alike requests are alike, then so are the runs of providers that are made alike. The parts of a
provider are gone through here once, for every likeness there is.
-/
namespace RoleChain

def Hop.request (hop : Hop) (name : String) : Request :=
  .assumeRole ⟨hop.roleArn, name, hop.externalId⟩

def WebIdentityRole.request (role : WebIdentityRole) (token : String) : Request :=
  .withWebIdentity ⟨role.roleArn, role.sessionName, token⟩

variable [FieldRules]

/-- A way to compare runs, given a way to compare their values. -/
structure Likeness where
  Runs : ∀ {α β : Type}, (α → β → Prop) → Run α → Run β → Prop
  environments : Environment → Environment → Prop
  contents : List UInt8 → List UInt8 → Prop
  configurations : ClientConfiguration → ClientConfiguration → Prop
  requests : Request → Request → Prop
  responses : Response → Response → Prop
  credentials : Credentials → Credentials → Prop

/-- What a likeness has to keep: ends and records are alike if they are the same, going on and
handlers keep runs alike, and each step of a provider is alike where it is told alike. -/
structure Likeness.Lawful (k : Likeness) : Prop where
  done : ∀ {α β : Type} {same : α → β → Prop} {a : α} {b : β}, same a b →
    k.Runs same (.done a) (.done b)
  raise : ∀ {α β : Type} {same : α → β → Prop} (raised : Raised),
    k.Runs same (.raise raised) (.raise raised)
  log : ∀ {α β : Type} {same : α → β → Prop} {run : Run α} {other : Run β} (record : Record),
    k.Runs same run other → k.Runs same (.log record run) (.log record other)
  bind : ∀ {α β γ δ : Type} {same : α → β → Prop} {also : γ → δ → Prop} {run : Run α}
    {other : Run β} {f : α → Run γ} {g : β → Run δ}, k.Runs same run other →
    (∀ a b, same a b → k.Runs also (f a) (g b)) → k.Runs also (run.bind f) (other.bind g)
  rescue : ∀ {α β : Type} {same : α → β → Prop} {run : Run α} {other : Run β}
    {f : Raised → Run α} {g : Raised → Run β}, k.Runs same run other →
    (∀ raised, k.Runs same (f raised) (g raised)) → k.Runs same (run.rescue f) (other.rescue g)
  environment : ∀ {α β : Type} {same : α → β → Prop} {f : Environment → Run α}
    {g : Environment → Run β}, (∀ env other, k.environments env other →
    k.Runs same (f env) (g other)) → k.Runs same (.environment f) (.environment g)
  file : ∀ {α β : Type} {same : α → β → Prop} (path : Path)
    {f : Except FileError (List UInt8) → Run α} {g : Except FileError (List UInt8) → Run β},
    (∀ content other, ResultsAlike k.contents content other → k.Runs same (f content) (g other)) →
    k.Runs same (.file path f) (.file path g)
  session : ∀ hop : Hop,
    k.Runs (fun name other => k.requests (hop.request name) (hop.request other))
      hop.session hop.session
  send : ∀ {configuration configuration' : ClientConfiguration} {transport : Transport}
    {request request' : Request} {caller caller' : Option Credentials},
    k.configurations configuration configuration' → configuration.transport = some transport →
    k.requests request request' → Option.Rel k.credentials caller caller' → ∃ transport',
      configuration'.transport = some transport' ∧ k.Runs k.responses
        (transport.send ⟨request, configuration.forCaller caller⟩)
        (transport'.send ⟨request', configuration'.forCaller caller'⟩)
  noTransport : ∀ {configuration configuration' : ClientConfiguration},
    k.configurations configuration configuration' → configuration.transport = none →
    configuration'.transport = none
  named : ∀ {request request' : Request}, k.requests request request' →
    request.roleArn = request'.roleArn ∧ request.operation = request'.operation
  token : ∀ {content other : List UInt8} (role : WebIdentityRole), k.contents content other →
    ResultsAlike (fun text text' =>
      k.requests (role.request (Text.trim text)) (role.request (Text.trim text')))
      (Text.ofFile content) (Text.ofFile other)
  load : ∀ {env other : Environment}, k.environments env other →
    ResultsAlike k.credentials env.credentials other.credentials
  issued : ∀ {response other : Response} (providerName : String) (role : Option String),
    k.responses response other → ResultsAlike k.credentials
      (Credentials.ofIssued response.credentials providerName role)
      (Credentials.ofIssued other.credentials providerName role)
  text_eq : ∀ {c d : Credentials}, k.credentials c d → c.text = d.text

/-- Providers of the same shape, alike in each place. -/
inductive Provider.Like (credentials : Credentials → Credentials → Prop)
    (environments : Environment → Environment → Prop)
    (configurations : ClientConfiguration → ClientConfiguration → Prop) : Provider → Provider → Prop
  | static {c d : Credentials} (h : credentials c d) :
      Like credentials environments configurations (.static c) (.static d)
  | given {env other : Environment} (h : environments env other) :
      Like credentials environments configurations (.environment (some env))
        (.environment (some other))
  | process : Like credentials environments configurations (.environment none) (.environment none)
  | webIdentity (role : WebIdentityRole) {configuration configuration' : ClientConfiguration}
      (h : configurations configuration configuration') :
      Like credentials environments configurations (.webIdentity role configuration)
        (.webIdentity role configuration')
  | chain {base base' : Provider} (h : Like credentials environments configurations base base')
      (hops : List Hop) {configuration configuration' : Option ClientConfiguration}
      (hconfiguration : Option.Rel configurations configuration configuration') :
      Like credentials environments configurations (.chain base hops configuration)
        (.chain base' hops configuration')

namespace Likeness.Lawful

variable {k : Likeness} (h : k.Lawful)

include h

theorem ofExcept {α β : Type} {same : α → β → Prop} {value : Except Failure α}
    {value' : Except Failure β} (hsame : ResultsAlike same value value') :
    k.Runs same (Run.ofExcept value) (Run.ofExcept value') := by
  cases hsame with
  | ok hsame => exact h.done hsame
  | error failure => exact h.raise failure.alone

/-- A call for a provider: without a transport, and where it goes wrong, the same is raised. -/
theorem sendFor {configuration configuration' : ClientConfiguration} {request request' : Request}
    {caller caller' : Option Credentials} (hconfiguration : k.configurations configuration
      configuration') (hrequest : k.requests request request')
    (hcaller : Option.Rel k.credentials caller caller') (providerName : String) :
    k.Runs k.responses (configuration.send providerName caller request)
      (configuration'.send providerName caller' request') := by
  obtain ⟨hrole, hoperation⟩ := h.named hrequest
  unfold ClientConfiguration.send
  rw [hrole, hoperation]
  refine h.rescue ?_ fun raised => ?_
  · cases htransport : configuration.transport with
    | none =>
      rw [h.noTransport hconfiguration htransport]
      exact h.raise _
    | some transport =>
      obtain ⟨transport', htransport', hsend⟩ := h.send hconfiguration htransport hrequest hcaller
      rw [htransport']
      exact hsend
  · split <;> exact h.raise _

theorem credentialsOf {configuration configuration' : Option ClientConfiguration}
    (hconfiguration : Option.Rel k.configurations configuration configuration') (hop : Hop)
    {c d : Credentials} (hcaller : k.credentials c d) :
    k.Runs k.credentials (hop.credentials c configuration) (hop.credentials d configuration') := by
  cases hconfiguration with
  | none => exact h.raise _
  | some hconfiguration =>
    refine h.bind (h.session hop) fun name name' hname => ?_
    exact h.bind (h.sendFor hconfiguration hname (.some hcaller) _) fun response response'
      hresponse => h.ofExcept (h.issued _ _ hresponse)

theorem failAt {same : Credentials → Credentials → Prop} (hop : Hop) (index : Nat)
    (raised : Raised) : k.Runs same (hop.failAt index raised) (hop.failAt index raised) := by
  unfold Hop.failAt
  split
  · exact h.log _ (h.raise _)
  · exact h.log _ (h.raise _)
  · exact h.raise _

theorem assumeAll {configuration configuration' : Option ClientConfiguration}
    (hconfiguration : Option.Rel k.configurations configuration configuration') (index : Nat)
    (hops : List Hop) {c d : Credentials} (hcaller : k.credentials c d) :
    k.Runs k.credentials (RoleChain.assumeAll configuration index hops c)
      (RoleChain.assumeAll configuration' index hops d) := by
  induction hops generalizing index c d with
  | nil => exact h.done hcaller
  | cons hop hops ih =>
    refine h.bind (h.rescue (h.credentialsOf hconfiguration hop hcaller) (h.failAt hop index)) ?_
    intro assumed assumed' hassumed
    rw [h.text_eq hassumed]
    exact h.log _ (ih (index + 1) hassumed)

theorem executeFrom {base base' : Run Credentials} (hbase : k.Runs k.credentials base base')
    {configuration configuration' : Option ClientConfiguration}
    (hconfiguration : Option.Rel k.configurations configuration configuration')
    (hops : List Hop) :
    k.Runs k.credentials (RoleChain.executeFrom base hops configuration)
      (RoleChain.executeFrom base' hops configuration') := by
  refine h.bind hbase fun first first' hfirst => ?_
  rw [h.text_eq hfirst]
  exact h.log _ (h.assumeAll hconfiguration 0 hops hfirst)

theorem loadAll {env other : Environment} (henv : k.environments env other) :
    k.Runs k.credentials env.load other.load := by
  have hcredentials := h.load henv
  unfold Environment.load
  generalize env.credentials = found at hcredentials ⊢
  generalize other.credentials = found' at hcredentials ⊢
  cases hcredentials with
  | error reason => exact h.raise _
  | ok hfound => exact h.log _ (h.done hfound)

theorem readToken (role : WebIdentityRole) :
    k.Runs (fun token other => k.requests (role.request token) (role.request other))
      role.readToken role.readToken := by
  refine h.file role.tokenFile fun content other hcontent => ?_
  cases hcontent with
  | error error => cases error <;> exact h.raise _
  | ok hcontent =>
    have htoken := h.token role hcontent
    dsimp only
    generalize Text.ofFile _ = text at htoken ⊢
    generalize Text.ofFile _ = text' at htoken ⊢
    cases htoken with
    | ok htoken => exact h.done htoken
    | error refusal => exact h.raise _

theorem webIdentity {configuration configuration' : ClientConfiguration}
    (hconfiguration : k.configurations configuration configuration') (role : WebIdentityRole) :
    k.Runs k.credentials (role.credentials configuration) (role.credentials configuration') := by
  refine h.bind (h.readToken role) fun token token' htoken => ?_
  have hask := h.bind (h.sendFor hconfiguration htoken .none WebIdentityRole.providerName)
    fun response response' hresponse =>
      h.ofExcept (h.issued WebIdentityRole.providerName (some role.roleArn) hresponse)
  exact h.log _ hask

/-- Providers that are made alike do alike. -/
theorem provide {p other : Provider}
    (hp : p.Like k.credentials k.environments k.configurations other) :
    k.Runs k.credentials p.provide other.provide := by
  induction hp with
  | static hc => exact h.done hc
  | given henv => exact h.loadAll henv
  | process => exact h.environment fun _ _ => h.loadAll
  | webIdentity role hconfiguration => exact h.webIdentity hconfiguration role
  | chain _ hops hconfiguration ih => exact h.executeFrom ih hconfiguration hops

end Likeness.Lawful

end RoleChain
