import RoleChain.Proofs.Likeness
import RoleChain.Proofs.TwoRuns

/-!
Secrecy of steps. A step tells of its caller, and of the credentials it is issued, by their written
forms only; of a request it tells the operation and the role, and of a token file whether it can be
read. So runs that are alike are a likeness in which everything may differ that is secret.
-/
namespace RoleChain

/-- Requests that say the same, up to a token. -/
structure Request.Alike (request other : Request) : Prop where
  operation_eq : request.operation = other.operation
  action_eq : request.action = other.action
  roleArn_eq : request.roleArn = other.roleArn

theorem Credentials.ofIssued_alike {issued other : Option IssuedCredentials}
    (h : Option.Rel IssuedCredentials.Alike issued other) (providerName : String)
    (role : Option String) :
    ResultsAlike Credentials.Alike (Credentials.ofIssued issued providerName role)
      (Credentials.ofIssued other providerName role) := by
  cases h with
  | none => exact .error _
  | some h => exact .ok (h.toCredentials providerName)

/-- Contents that are alike are two texts, or no text for the same reason. -/
theorem Text.ContentsAlike.ofFile {content other : List UInt8}
    (h : Text.ContentsAlike content other) :
    ResultsAlike (fun _ _ => True) (Text.ofFile content) (Text.ofFile other) := by
  rcases h with rfl | ⟨⟨s, hs⟩, t, ht⟩
  · cases Text.ofFile content with
    | ok text => exact .ok trivial
    | error refusal => exact .error refusal
  · rw [hs, ht]
    exact .ok trivial

variable [FieldRules]

theorem Run.sessionName_alike (purpose : String) (out : Failure → Raised) :
    (Run.sessionName purpose out).Alike (· = ·) (Run.sessionName purpose out) := by
  refine .suffix fun drawn => ?_
  cases drawn with
  | ok suffix => exact .done rfl
  | error failure => exact .raise _

theorem Run.Alike.ofExcept {α β : Type} {same : α → β → Prop} {result : Except Failure α}
    {other : Except Failure β} (h : ResultsAlike same result other) :
    (Run.ofExcept result).Alike same (.ofExcept other) := by
  cases h with
  | ok h => exact .done h
  | error failure => exact .raise _

theorem Hop.session_alike (hop : Hop) :
    hop.session.Alike (fun name other => (hop.request name).Alike (hop.request other))
      hop.session := by
  unfold session
  cases hop.sessionName with
  | some name => exact .done ⟨rfl, rfl, rfl⟩
  | none =>
    refine .suffix fun drawn => ?_
    cases drawn with
    | ok suffix => exact .done ⟨rfl, rfl, rfl⟩
    | error failure => exact .raise _

namespace Transport

theorem answer_alike (transport : Transport) (call other : Call) :
    (transport.answer call).Alike Response.Alike (transport.answer other) := by
  refine .call transport call other fun answer answer' h => ?_
  cases h with
  | error failure => exact .raise _
  | ok h =>
    have hreport := (Response.ofDatum_alike h).report Response.title
    exact .ofExcept (hreport.mapError Failure.invalidData)

/-- Of a request only the operation and the role are told. -/
theorem send_alike (transport : Transport) {call other : Call}
    (h : call.request.Alike other.request) :
    (transport.send call).Alike Response.Alike (transport.send other) := by
  obtain ⟨name, _ | _⟩ := transport
  · exact answer_alike _ call other
  · unfold send
    rw [h.action_eq, h.roleArn_eq]
    refine .log _ (.client _ _ _ fun refusal => ?_)
    cases refusal with
    | some failure => exact .raise _
    | none => exact answer_alike _ call other

end Transport

/-- Runs that are alike, with requests that say the same and whatever callers. -/
def Likeness.secrecy : Likeness where
  Runs same run other := run.Alike same other
  environments := Environment.Alike
  contents := Text.ContentsAlike
  configurations := (· = ·)
  requests := Request.Alike
  responses := Response.Alike
  credentials := Credentials.Alike

theorem Likeness.secrecy_lawful : secrecy.Lawful where
  done h := .done h
  raise raised := .raise raised
  log record h := .log record h
  bind h hnext := h.bind hnext
  rescue h hhandler := h.rescue hhandler
  environment h := .environment h
  file path _ _ h := .file path h
  session := Hop.session_alike
  send hconfiguration htransport hrequest _ :=
    ⟨_, hconfiguration ▸ htransport, Transport.send_alike _ hrequest⟩
  noTransport hconfiguration htransport := hconfiguration ▸ htransport
  named h := ⟨h.roleArn_eq, h.operation_eq⟩
  token _ h := h.ofFile.mono fun _ _ _ => ⟨rfl, rfl, rfl⟩
  load h := h.credentials
  issued _ _ h := Credentials.ofIssued_alike h.credentials_alike _ _
  text_eq h := h.text_eq

end RoleChain
