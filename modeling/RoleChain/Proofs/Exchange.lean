import RoleChain.Execution
import RoleChain.World

/-!
Calls over a transport. To whoever makes a call a transport is a machine: in a state of its service
it takes a call and gives a response or a failure, and the service moves on. A transport that makes
a client for each call may fail before the service is asked at all.
-/
namespace RoleChain

/-- Whether something is seen of the calls to a service: a client or the call itself. -/
def Event.isCall : Event → Bool
  | client .. | called .. => true
  | logged _ | drew _ => false

namespace Transport

variable {σ : Type}

/-- Why there is no client for a call. A transport that takes calls as they are needs none. -/
def refusal (transport : Transport) (service : Service σ) (call : Call) (state : σ) :
    Option Failure :=
  match transport.kind with
  | .direct => none
  | .clientPerCall => service.refusal state call.configuration.clientArguments

/-- What a reply of the service comes to. -/
def understand [FieldRules] (transport : Transport) (reply : Reply) : Except Failure Response :=
  match reply.outcome with
  | .error failure => .error (transport.kind.relay failure)
  | .ok data => ((Response.ofDatum data).report Response.title).mapError .invalidData

/-- The response or failure that a call is given, and the state of the service after it. -/
def exchange [FieldRules] (transport : Transport) (service : Service σ) (call : Call) (state : σ) :
    Except Failure Response × σ :=
  match transport.refusal service call state with
  | some failure => (.error (transport.kind.relay failure), state)
  | none =>
    let (reply, next) := service.answer state call
    (transport.understand reply, next)

/-- What the service sees of a call: the call, or the client that is made for it and then the call,
unless there is no client. -/
def calls (transport : Transport) (service : Service σ) (call : Call) (state : σ) : List Event :=
  let called := match transport.refusal service call state with
    | some _ => []
    | none => [.called transport call]
  match transport.kind with
  | .direct => called
  | .clientPerCall =>
    .client transport.service call.configuration.clientArguments :: called

/-- The records that a transport writes before a call. -/
def notes (transport : Transport) (call : Call) : List Event :=
  match transport.kind with
  | .direct => []
  | .clientPerCall => [.logged ⟨.debug, Logger.sts,
      "calling sts:" ++ call.request.action ++ " for " ++ call.request.roleArn⟩]

theorem filter_calls (transport : Transport) (service : Service σ) (call : Call) (state : σ) :
    (transport.calls service call state).filter Event.isCall =
      transport.calls service call state := by
  obtain ⟨name, _ | _⟩ := transport
  · rfl
  · unfold calls
    cases refusal ⟨name, .clientPerCall⟩ service call state <;> rfl

theorem filter_notes (transport : Transport) (call : Call) :
    (transport.notes call).filter Event.isCall = [] := by
  obtain ⟨name, _ | _⟩ := transport <;> rfl

end Transport

theorem mapError_ok {ε ε' α : Type} (f : ε → ε') (value : α) :
    (Except.ok value).mapError f = .ok value := rfl

theorem mapError_error {ε ε' α : Type} (f : ε → ε') (e : ε) :
    (Except.error e : Except ε α).mapError f = .error (f e) := rfl

namespace Ran

variable {σ α β : Type}

theorem andThen_ok (value : α) (w : World σ) (events : List Event)
    (next : α → World σ → Ran σ β) :
    (⟨.ok value, w, events⟩ : Ran σ α).andThen next =
      ⟨(next value w).result, (next value w).world, events ++ (next value w).events⟩ := rfl

theorem andThen_error (raised : Raised) (w : World σ) (events : List Event)
    (next : α → World σ → Ran σ β) :
    (⟨.error raised, w, events⟩ : Ran σ α).andThen next = ⟨.error raised, w, events⟩ := rfl

theorem orElse_ok (value : α) (w : World σ) (events : List Event)
    (handler : Raised → World σ → Ran σ α) :
    (⟨.ok value, w, events⟩ : Ran σ α).orElse handler = ⟨.ok value, w, events⟩ := rfl

theorem orElse_error (raised : Raised) (w : World σ) (events : List Event)
    (handler : Raised → World σ → Ran σ α) :
    (⟨.error raised, w, events⟩ : Ran σ α).orElse handler =
      ⟨(handler raised w).result, (handler raised w).world,
        events ++ (handler raised w).events⟩ := rfl

end Ran

/-- A world without variables and files, with one suffix for all names and one state for all
services. -/
def World.bare {σ : Type} (suffix : String) (state : σ) : World σ where
  environment := .empty
  files := .empty
  settings := .fresh ⟨none, none, []⟩
  suffixes := .constant suffix
  services _ := state

theorem World.withService_self {σ : Type} (w : World σ) (name : ServiceName) :
    w.withService name (w.services name) = w := by
  have hservices : (fun n => if n = name then w.services name else w.services n) = w.services := by
    funext n
    split
    · next h => rw [h]
    · rfl
  unfold World.withService
  rw [hservices]

namespace Run

variable {σ α : Type}

theorem perform_call (service : Service σ) (transport : Transport) (c : Call)
    (next : Except Failure Datum → Run α) (w : World σ) :
    (call transport c next).perform service w =
      let answered := service.answer (w.services transport.service) c
      ((next answered.1.outcome).perform service
        (w.withService transport.service answered.2)).after (.called transport c) := rfl

theorem perform_ofExcept (service : Service σ) (value : Except Failure α) (w : World σ) :
    (ofExcept value).perform service w = ⟨value.mapError Failure.alone, w, []⟩ := by
  cases value <;> rfl

/-- Drawing moves a source on and leaves its suffixes as they are. -/
theorem perform_stream (service : Service σ) (run : Run α) (w : World σ) :
    (run.perform service w).world.suffixes.stream = w.suffixes.stream := by
  induction run generalizing w with
  | done | raise => rfl
  | log record next ih => exact ih w
  | environment next ih => exact ih _ w
  | settings next ih => exact ih _ _
  | file path next ih => exact ih _ w
  | suffix next ih => exact ih _ _
  | client name arguments next ih => exact ih _ w
  | call transport c next ih => exact ih _ _

end Run

namespace Transport

variable [FieldRules] {σ : Type}

theorem perform_answer (transport : Transport) (service : Service σ) (call : Call) (w : World σ) :
    (transport.answer call).perform service w =
      let answered := service.answer (w.services transport.service) call
      ⟨(transport.understand answered.1).mapError Failure.alone,
        w.withService transport.service answered.2, [.called transport call]⟩ := by
  simp only [answer, Run.perform_call, understand]
  generalize service.answer (w.services transport.service) call = answered
  cases answered.1.outcome with
  | error failure => rfl
  | ok data => simp only [Run.perform_ofExcept]; rfl

/-- A call is an exchange with the service, and nothing else is seen of it. -/
theorem perform_send (transport : Transport) (service : Service σ) (call : Call) (w : World σ) :
    let exchanged := transport.exchange service call (w.services transport.service)
    (transport.send call).perform service w =
      ⟨exchanged.1.mapError Failure.alone, w.withService transport.service exchanged.2,
        transport.notes call ++ transport.calls service call (w.services transport.service)⟩ := by
  obtain ⟨name, _ | _⟩ := transport
  · exact perform_answer ⟨name, .direct⟩ service call w
  · cases hrefusal : service.refusal (w.services name) call.configuration.clientArguments with
    | some failure =>
      have hworld := w.withService_self name
      simp [send, exchange, calls, notes, refusal, Run.record, Run.perform, Run.fail, hrefusal,
        hworld, bind, Run.bind, Ran.after, mapError_error]
    | none =>
      have hanswer := perform_answer ⟨name, .clientPerCall⟩ service call w
      simp [send, exchange, calls, notes, refusal, Run.record, Run.perform, hrefusal, hanswer,
        bind, Run.bind, Ran.after]

end Transport

end RoleChain
