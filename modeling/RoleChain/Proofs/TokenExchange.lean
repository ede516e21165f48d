import RoleChain.LaxFields
import RoleChain.Proofs.Coupling
import RoleChain.Proofs.RoleSteps
import RoleChain.Proofs.TrimmedText
import RoleChain.Sts.Script

/-!
Exchanges of tokens. Files are written and removed and credentials are asked for, in any order. A
role reads its token at the moment that it is asked: what earlier runs have read does not count, and
what has last been written does. With a token it makes one unsigned call; without a file it makes
none.
-/
namespace RoleChain

variable {σ α : Type} {service : Service σ}

/-- No run changes the files. -/
theorem Run.perform_files (service : Service σ) (run : Run α) (w : World σ) :
    (run.perform service w).world.files = w.files := by
  induction run generalizing w with
  | done | raise => rfl
  | log record next ih => exact ih w
  | environment next ih => exact ih _ w
  | settings next ih => exact ih _ _
  | file path next ih => exact ih _ w
  | suffix next ih => exact ih _ _
  | client name arguments next ih => exact ih _ w
  | call transport c next ih => exact ih _ _

/-! ### Files over time -/

namespace Files

/-- The files after one has been written. -/
def write (files : Files) (path : Path) (content : List UInt8) : Files :=
  ⟨fun other => if other = path then .ok content else files.look other⟩

/-- The files after one has been removed. -/
def remove (files : Files) (path : Path) : Files :=
  ⟨fun other => if other = path then .error (.notFound path.text) else files.look other⟩

end Files

/-- What happens over time: a file to which no second path leads is written or removed, the files
become others in whatever way, as by a write through a link, or a provider is asked for
credentials. -/
inductive FileAct where
  | write (path : Path) (content : List UInt8)
  | remove (path : Path)
  | replace (files : Files)
  | provide (p : Provider)

namespace FileAct

def files : FileAct → Files → Files
  | write path content, files => files.write path content
  | remove path, files => files.remove path
  | replace files, _ => files
  | provide _, files => files

/-- Whether an act may change what is found at a path. -/
def Touches (path : Path) : FileAct → Prop
  | write other _ | remove other => other = path
  | replace _ => True
  | provide _ => False

/-- What the last act that may have changed it has left at a path. -/
inductive HasLeft (start : Files) (path : Path) :
    List FileAct → Except SystemError (List UInt8) → Prop
  | start : HasLeft start path [] (start.look path)
  | written (acts : List FileAct) (content : List UInt8) :
      HasLeft start path (acts ++ [write path content]) (.ok content)
  | removed (acts : List FileAct) :
      HasLeft start path (acts ++ [remove path]) (.error (.notFound path.text))
  | replaced (acts : List FileAct) (files : Files) :
      HasLeft start path (acts ++ [replace files]) (files.look path)
  | kept {acts : List FileAct} {found : Except SystemError (List UInt8)} {act : FileAct}
      (h : HasLeft start path acts found) (hact : ¬ act.Touches path) :
      HasLeft start path (acts ++ [act]) found

theorem look_files {act : FileAct} {path : Path} (h : ¬ act.Touches path) (files : Files) :
    (act.files files).look path = files.look path := by
  cases act with
  | write other content => exact if_neg fun heq => h heq.symm
  | remove other => exact if_neg fun heq => h heq.symm
  | replace files => exact absurd trivial h
  | provide p => rfl

variable [FieldRules]

/-- The world after an act. -/
def step (service : Service σ) : FileAct → World σ → World σ
  | provide p, w => (p.provide.perform service w).world
  | act, w => { w with files := act.files w.files }

def after (service : Service σ) (acts : List FileAct) (w : World σ) : World σ :=
  acts.foldl (fun w act => act.step service w) w

theorem after_concat (service : Service σ) (acts : List FileAct) (act : FileAct) (w : World σ) :
    after service (acts ++ [act]) w = act.step service (after service acts w) :=
  List.foldl_append

theorem files_step (act : FileAct) (w : World σ) :
    (act.step service w).files = act.files w.files := by
  cases act with
  | write path content => rfl
  | remove path => rfl
  | replace files => rfl
  | provide p => exact p.provide.perform_files service w

/-- At a path there is what has last been left there. -/
theorem HasLeft.look_after {start : World σ} {path : Path} {acts : List FileAct}
    {found : Except SystemError (List UInt8)} (h : HasLeft start.files path acts found) :
    (after service acts start).files.look path = found := by
  induction h with
  | start => rfl
  | written acts content =>
    rw [after_concat, files_step]
    exact if_pos rfl
  | removed acts =>
    rw [after_concat, files_step]
    exact if_pos rfl
  | replaced acts files =>
    rw [after_concat, files_step]
    rfl
  | kept h hact ih => rw [after_concat, files_step, look_files hact, ih]

end FileAct

/-! ### Tokens -/

/-- Whether bytes are those of a text, with its lines ended in one of the three ways throughout and
with blanks around it. -/
def Text.IsWritten (content : List UInt8) (s : List Char) : Prop :=
  '\r' ∉ s ∧ ∃ before after lineEnd, Text.AllBlank before ∧ Text.AllBlank after ∧
    Text.decodeUtf8 content = .ok (before ++ LineEnd.write lineEnd s ++ after)

namespace WebIdentityRole

variable (role : WebIdentityRole) {files : Files} {content : List UInt8}

theorem token_of_read (hread : files.read role.tokenFile = .ok content) {chars : List Char}
    (htext : Text.decodeUtf8 content = .ok chars) :
    role.token files = .ok (String.ofList (Text.trimChars (Text.lineFeeds chars))) := by
  have hfile : Text.ofFile content = .ok (String.ofList (Text.lineFeeds chars)) := by
    rw [Text.ofFile, htext]
    rfl
  simp only [token, hread, hfile, Text.trim, String.toList_ofList]

theorem token_of_unread {error : SystemError}
    (hread : files.read role.tokenFile = .error (.system error)) :
    role.token files =
      .error ⟨.notLoaded (.tokenFile role.tokenFile.text error), some (.system error)⟩ := by
  simp only [token, hread]

/-- The token says neither how the lines of the file were ended nor what blanks were around its
text. -/
theorem token_of_written (hread : files.read role.tokenFile = .ok content) {s : List Char}
    (h : Text.IsWritten content s) :
    role.token files = .ok (String.ofList (Text.trimChars s)) := by
  obtain ⟨hreturn, before, after, lineEnd, hbefore, hafter, htext⟩ := h
  rw [role.token_of_read hread htext, Text.trimChars_written hbefore hafter hreturn]

/-- The call of the role with a token, which nobody signs. -/
def call (route : Route σ) (token : String) : Call where
  request := .withWebIdentity ⟨role.roleArn, role.sessionName, token⟩
  configuration := ⟨none, route.region, route.endpointUrl⟩

/-- What is seen of the exchange of a token: a record, which does not hold the token, and then one
call over the transport. -/
def events (route : Route σ) (w : World σ) (token : String) : List Event :=
  .logged ⟨.debug, Logger.webIdentity,
    "assuming role " ++ role.roleArn ++ " with web identity token"⟩ ::
  (route.transport.notes (role.call route token) ++
    route.transport.calls route.service (role.call route token)
      (w.services route.transport.service))

/-- Unless there is no client for it, an exchange is exactly one call. -/
theorem calls_events (route : Route σ) (w : World σ) (token : String)
    (h : route.transport.refusal route.service (role.call route token)
      (w.services route.transport.service) = none) :
    (role.events route w token).filterMap Event.call? =
      [(route.transport, role.call route token)] := by
  have hcalls := route.transport.calls_send route.service (role.call route token)
    (w.services route.transport.service)
  rw [h] at hcalls
  exact hcalls

variable [FieldRules]

/-- What the call with a token is given, and the state that the service is left in. -/
def exchange (route : Route σ) (w : World σ) (token : String) : Except Failure Response × σ :=
  route.transport.exchange route.service (role.call route token)
    (w.services route.transport.service)

variable {w : World σ} {token : String}

theorem perform_credentials (route : Route σ) (h : role.token w.files = .ok token) :
    (role.credentials route.configuration).perform route.service w =
      ⟨Credentials.ofExchange providerName role.roleArn (role.exchange route w token).1,
        w.withService route.transport.service (role.exchange route w token).2,
        role.events route w token⟩ := by
  have htransport : route.configuration.transport = some route.transport := rfl
  have hprepare : (RoleStep.byToken role).prepare.perform route.service w = _ :=
    RoleStep.perform_prepare_byToken role h
  exact (RoleStep.byToken role).perform_prepared htransport hprepare

/-- Whether a run is the exchange of a token: one call is sent, unless there is no client for it;
a response is what the run comes to, and a failure is the cause of that of the provider. -/
structure Exchanges (route : Route σ) (w : World σ) (token : String) (ran : Ran σ Credentials) :
    Prop where
  events_eq : ran.events = role.events route w token
  calls_eq : route.transport.refusal route.service (role.call route token)
      (w.services route.transport.service) = none →
    ran.calls = [(route.transport, role.call route token)]
  world_eq : ran.world = w.withService route.transport.service (role.exchange route w token).2
  response : ∀ response, (role.exchange route w token).1 = .ok response →
    ran.result = (Credentials.ofIssued response.credentials "WebIdentityToken"
      (some role.roleArn)).mapError Failure.alone
  failure : ∀ failure, (role.exchange route w token).1 = .error failure →
    failure.isCancellation = false →
    ran.result = .error
      ⟨.provider failure "WebIdentityToken" (some role.roleArn) none, some failure⟩

theorem exchanges_of_token (route : Route σ) (h : role.token w.files = .ok token) :
    role.Exchanges route w token
      ((role.credentials route.configuration).perform route.service w) := by
  rw [role.perform_credentials route h]
  refine ⟨rfl, role.calls_events route w token, rfl, fun response hresponse => ?_,
    fun failure hfailure hcancel => ?_⟩
  · simp only [hresponse]
    rfl
  · simp only [hfailure, Credentials.ofExchange, Failure.wrapped, hcancel]
    rfl

/-- Files with the same token make the same exchange. -/
theorem perform_credentials_of_files (route : Route σ) (v : World σ) {files files' : Files}
    (h : role.token files = .ok token) (h' : role.token files' = .ok token) :
    let run := role.credentials route.configuration
    let first := run.perform route.service { v with files := files }
    run.perform route.service { v with files := files' } =
      { first with world := { first.world with files := files' } } := by
  intro run first
  have hfirst : first = _ := role.perform_credentials (w := { v with files := files }) route h
  rw [hfirst]
  exact role.perform_credentials (w := { v with files := files' }) route h'

end WebIdentityRole

section

variable [FieldRules]

/-- Whether a provider with a token file does with it what it should. It sends the text of the file
without the blanks around it, in one call that nobody signs; where the file cannot be read nothing
is sent and nothing is logged; and neither the blanks nor the way in which lines are ended make a
difference. -/
structure WebIdentityRole.Presents (role : WebIdentityRole) (route : Route σ) (w : World σ) :
    Prop where
  sent : ∀ content chars, w.files.read role.tokenFile = .ok content →
    Text.decodeUtf8 content = .ok chars →
    let token := String.ofList (Text.trimChars (Text.lineFeeds chars))
    Text.Trimmed token.toList ∧ role.Exchanges route w token
      ((Provider.webIdentity role route.configuration).provide.perform route.service w)
  unread : ∀ error, w.files.read role.tokenFile = .error (.system error) →
    (Provider.webIdentity role route.configuration).provide.perform route.service w =
      ⟨.error ⟨.notLoaded (.tokenFile role.tokenFile.text error), some (.system error)⟩, w, []⟩
  layout : ∀ (files files' : Files) (content content' : List UInt8) (s : List Char),
    files.read role.tokenFile = .ok content → Text.IsWritten content s →
    files'.read role.tokenFile = .ok content' → Text.IsWritten content' s →
    let run := (Provider.webIdentity role route.configuration).provide
    let first := run.perform route.service { w with files := files }
    run.perform route.service { w with files := files' } =
      { first with world := { first.world with files := files' } }

theorem WebIdentityRole.presents (role : WebIdentityRole) (route : Route σ) (w : World σ) :
    role.Presents route w where
  sent content chars hread htext := by
    refine ⟨?_, role.exchanges_of_token route (role.token_of_read hread htext)⟩
    rw [String.toList_ofList]
    exact Text.trimmed_trimChars _
  unread error hread :=
    role.perform_credentials_failed route.configuration (role.token_of_unread hread)
  layout files files' content content' s hread hwritten hread' hwritten' :=
    role.perform_credentials_of_files route w (role.token_of_written hread hwritten)
      (role.token_of_written hread' hwritten')

/-- Whatever has happened to the files before, what has last been left at its path is what a
provider with a token file finds, and it does with it what it should. -/
theorem Provider.token_exchange (role : WebIdentityRole) (route : Route σ) (acts : List FileAct)
    (w : World σ) :
    let v := FileAct.after route.service acts w
    (∀ found, FileAct.HasLeft w.files role.tokenFile acts found →
      v.files.look role.tokenFile = found) ∧
    role.Presents route v :=
  ⟨fun _ hleft => hleft.look_after, role.presents route _⟩

end

attribute [local instance] FieldRules.lax

/-- A token that has been replaced since it was last sent. -/
theorem Provider.token_exchange_replaced :
    let role : WebIdentityRole := ⟨.ofString "/run/token", "role", "session"⟩
    let route : Route ScriptState := ⟨ScriptState.service, ⟨.standard, .direct⟩, none, none⟩
    let p := Provider.webIdentity role route.configuration
    let acts : List FileAct := [.write role.tokenFile [97, 10], .provide p] ++
      [.write role.tokenFile [32, 98, 13, 10]]
    let v := FileAct.after route.service acts (World.bare "0" (ScriptState.start {}))
    (p.provide.perform route.service v).calls = [(route.transport, role.call route "b")] := by
  intro role route p acts v
  obtain ⟨hleft, hpresents⟩ :=
    token_exchange role route acts (World.bare "0" (ScriptState.start {}))
  have hlook : v.files.look role.tokenFile = .ok [32, 98, 13, 10] := hleft _ (.written _ _)
  have hnul : '\x00' ∉ role.tokenFile.text.toList := by decide
  have hread : v.files.read role.tokenFile = .ok [32, 98, 13, 10] := by
    rw [Files.read, if_neg hnul, hlook]
    rfl
  have htext : Text.decodeUtf8 [32, 98, 13, 10] = .ok [' ', 'b', '\r', '\n'] := rfl
  exact (hpresents.sent _ _ hread htext).2.calls_eq rfl

end RoleChain
