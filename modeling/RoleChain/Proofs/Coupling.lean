import Mathlib.Data.List.Forall2
import RoleChain.Proofs.Exchange
import RoleChain.Proofs.Likeness

/-!
Providers of the same shape side by side. Each is carried out in a world of its own, and the worlds
and the calls are compared in some way. If a call for the one compares to the same call for the
other, whoever makes it, then so do their runs: they end alike, and call for call they compare.
-/
namespace RoleChain

variable {σ τ α β γ δ : Type}

def Event.call? : Event → Option (Transport × Call)
  | called transport call => some (transport, call)
  | logged _ | drew _ | client .. => none

/-- The calls that a run has made, in order. -/
def Ran.calls (ran : Ran σ α) : List (Transport × Call) := ran.events.filterMap Event.call?

/-- Of a call over a transport no call is seen if there is no client for it, and else that call. -/
theorem Transport.calls_send (transport : Transport) (service : Service σ) (call : Call) (state : σ) :
    (transport.notes call ++ transport.calls service call state).filterMap Event.call? =
      if (transport.refusal service call state).isSome then [] else [(transport, call)] := by
  obtain ⟨name, _ | _⟩ := transport
  · rfl
  · simp only [notes, calls]
    cases refusal ⟨name, .clientPerCall⟩ service call state <;> rfl

/-- How two runs are compared, each with a service of its own: by the worlds that they are in, which
have the same variables and files, and by their calls. -/
structure Coupling (σ τ : Type) where
  service : Service σ
  service' : Service τ
  worlds : World σ → World τ → Prop
  calls : Transport × Call → Transport × Call → Prop
  environment_eq : ∀ {w : World σ} {v : World τ}, worlds w v → w.environment = v.environment
  files_eq : ∀ {w : World σ} {v : World τ}, worlds w v → w.files = v.files

/-- Two runs that have been carried out compare. -/
structure Ran.Compare (k : Coupling σ τ) (same : α → β → Prop) (ran : Ran σ α) (other : Ran τ β) :
    Prop where
  result : ResultsAlike same ran.result other.result
  world : k.worlds ran.world other.world
  calls : List.Forall₂ k.calls ran.calls other.calls

/-- Runs that compare in all worlds that do. -/
def Run.Coupled (k : Coupling σ τ) (same : α → β → Prop) (run : Run α) (other : Run β) : Prop :=
  ∀ w v, k.worlds w v →
    Ran.Compare k same (run.perform k.service w) (other.perform k.service' v)

namespace Ran.Compare

variable {k : Coupling σ τ} {same : α → β → Prop} {ran : Ran σ α} {other : Ran τ β}

/-- Events that are no calls do not count. -/
theorem after (h : ran.Compare k same other) {event event' : Event}
    (hevent : event.isCall = false) (hevent' : event'.isCall = false) :
    (ran.after event).Compare k same (other.after event') := by
  refine ⟨h.result, h.world, ?_⟩
  cases event <;> cases hevent <;> cases event' <;> cases hevent' <;> exact h.calls

theorem append {ran' : Ran σ γ} {other' : Ran τ δ} {also : γ → δ → Prop}
    (h : List.Forall₂ k.calls ran.calls other.calls) (hlater : ran'.Compare k also other') :
    Ran.Compare k also { ran' with events := ran.events ++ ran'.events }
      { other' with events := other.events ++ other'.events } := by
  refine ⟨hlater.result, hlater.world, ?_⟩
  simp only [Ran.calls, List.filterMap_append]
  exact List.rel_append h hlater.calls

end Ran.Compare

namespace Run.Coupled

variable {k : Coupling σ τ} {same : α → β → Prop} {run : Run α} {other : Run β}

theorem done {a : α} {b : β} (h : same a b) : Coupled k same (.done a) (.done b) :=
  fun _ _ hworlds => ⟨.ok h, hworlds, .nil⟩

theorem raise (raised : Raised) : Coupled k same (.raise raised) (.raise raised) :=
  fun _ _ hworlds => ⟨.error raised, hworlds, .nil⟩

theorem log (h : run.Coupled k same other) (record record' : Record) :
    Coupled k same (.log record run) (.log record' other) :=
  fun w v hworlds => (h w v hworlds).after rfl rfl

theorem environment {next : Environment → Run α} {next' : Environment → Run β}
    (h : ∀ env, (next env).Coupled k same (next' env)) :
    Coupled k same (.environment next) (.environment next') := by
  intro w v hworlds
  simp only [perform, k.environment_eq hworlds]
  exact h v.environment w v hworlds

theorem file (path : Path) {next : Except FileError (List UInt8) → Run α}
    {next' : Except FileError (List UInt8) → Run β}
    (h : ∀ content, (next content).Coupled k same (next' content)) :
    Coupled k same (.file path next) (.file path next') := by
  intro w v hworlds
  simp only [perform, k.files_eq hworlds]
  exact h _ w v hworlds

theorem bind (h : run.Coupled k same other) {f : α → Run γ} {g : β → Run δ} {also : γ → δ → Prop}
    (hnext : ∀ a b, same a b → (f a).Coupled k also (g b)) :
    (run.bind f).Coupled k also (other.bind g) := by
  intro w v hworlds
  obtain ⟨hresult, hworld, hcalls⟩ := h w v hworlds
  rw [perform_bind, perform_bind]
  generalize run.perform k.service w = ran at hresult hworld hcalls ⊢
  generalize other.perform k.service' v = ran' at hresult hworld hcalls ⊢
  obtain ⟨result, w', events⟩ := ran
  obtain ⟨result', v', events'⟩ := ran'
  cases hresult with
  | ok hsame => exact .append hcalls (hnext _ _ hsame w' v' hworld)
  | error raised => exact ⟨.error raised, hworld, hcalls⟩

theorem rescue {other : Run β} (h : run.Coupled k same other) {f : Raised → Run α}
    {g : Raised → Run β} (hhandler : ∀ raised, (f raised).Coupled k same (g raised)) :
    (run.rescue f).Coupled k same (other.rescue g) := by
  intro w v hworlds
  obtain ⟨hresult, hworld, hcalls⟩ := h w v hworlds
  rw [perform_rescue, perform_rescue]
  generalize run.perform k.service w = ran at hresult hworld hcalls ⊢
  generalize other.perform k.service' v = ran' at hresult hworld hcalls ⊢
  obtain ⟨result, w', events⟩ := ran
  obtain ⟨result', v', events'⟩ := ran'
  cases hresult with
  | ok hsame => exact ⟨.ok hsame, hworld, hcalls⟩
  | error raised => exact .append hcalls (hhandler raised w' v' hworld)

end Run.Coupled

variable [FieldRules] {k : Coupling σ τ}

/-- Calls that compare are made both or neither, and if they are answered alike, so are the runs
that make them. -/
theorem Transport.coupled_send {transport transport' : Transport} {call call' : Call}
    (hcalls : k.calls (transport, call) (transport', call'))
    (h : ∀ w v, k.worlds w v →
      let state := w.services transport.service
      let state' := v.services transport'.service
      let exchanged := transport.exchange k.service call state
      let exchanged' := transport'.exchange k.service' call' state'
      (transport.refusal k.service call state).isSome =
          (transport'.refusal k.service' call' state').isSome ∧
        exchanged.1 = exchanged'.1 ∧
        k.worlds (w.withService transport.service exchanged.2)
          (v.withService transport'.service exchanged'.2)) :
    Run.Coupled k (· = ·) (transport.send call) (transport'.send call') := by
  intro w v hworlds
  obtain ⟨hrefusal, hanswer, hafter⟩ := h w v hworlds
  rw [perform_send, perform_send, hanswer]
  refine ⟨ResultsAlike.eq_iff.mpr rfl, hafter, ?_⟩
  simp only [Ran.calls, Transport.calls_send, hrefusal]
  split
  · exact .nil
  · exact .cons hcalls .nil

/-- Providers of the same shape, with configurations that compare in each place. -/
def Provider.Reconfigured (configurations : ClientConfiguration → ClientConfiguration → Prop) :
    Provider → Provider → Prop :=
  Provider.Like (· = ·) (· = ·) configurations

/-- Each step compares: a name for the session of a hop, and a call by a caller. -/
structure Coupling.Steps (k : Coupling σ τ) (requests : Request → Request → Prop)
    (configurations : ClientConfiguration → ClientConfiguration → Prop) : Prop where
  refl : ∀ request, requests request request
  named : ∀ {request request' : Request}, requests request request' →
    request.roleArn = request'.roleArn ∧ request.operation = request'.operation
  session : ∀ hop : Hop, Run.Coupled k
    (fun name name' => requests (hop.request name) (hop.request name')) hop.session hop.session
  noTransport : ∀ {configuration configuration' : ClientConfiguration},
    configurations configuration configuration' → configuration.transport = none →
    configuration'.transport = none
  send : ∀ {configuration configuration' : ClientConfiguration} {transport : Transport}
    {request request' : Request}, configurations configuration configuration' →
    configuration.transport = some transport → requests request request' →
    ∀ caller : Option Credentials, ∃ transport', configuration'.transport = some transport' ∧
      Run.Coupled k (· = ·) (transport.send ⟨request, configuration.forCaller caller⟩)
        (transport'.send ⟨request', configuration'.forCaller caller⟩)

/-- The comparison as a likeness of runs in which all but requests and configurations is the
same. -/
def Coupling.likeness (k : Coupling σ τ) (requests : Request → Request → Prop)
    (configurations : ClientConfiguration → ClientConfiguration → Prop) : Likeness where
  Runs same run other := run.Coupled k same other
  environments := (· = ·)
  contents := (· = ·)
  configurations := configurations
  requests := requests
  responses := (· = ·)
  credentials := (· = ·)

namespace Coupling.Steps

variable {requests : Request → Request → Prop}
  {configurations : ClientConfiguration → ClientConfiguration → Prop}

theorem lawful (h : k.Steps requests configurations) :
    (k.likeness requests configurations).Lawful where
  done hsame := .done hsame
  raise raised := .raise raised
  log record hrun := hrun.log record record
  bind hrun hnext := hrun.bind hnext
  rescue hrun hhandler := hrun.rescue hhandler
  environment hnext := .environment fun env => hnext env env rfl
  file path _ _ hnext := .file path fun content =>
    hnext content content (ResultsAlike.eq_iff.mpr rfl)
  session := h.session
  send hconfiguration htransport hrequest hcaller := by
    cases hcaller with
    | none => exact h.send hconfiguration htransport hrequest none
    | some hc =>
      cases hc
      exact h.send hconfiguration htransport hrequest (some _)
  noTransport := h.noTransport
  named := h.named
  token role hcontent := by
    cases hcontent
    cases Text.ofFile _ with
    | ok text => exact .ok (h.refl _)
    | error refusal => exact .error refusal
  load henv := ResultsAlike.eq_iff.mpr (congrArg Environment.credentials henv)
  issued providerName role hresponse := by
    cases hresponse
    exact ResultsAlike.eq_iff.mpr rfl
  text_eq hc := congrArg Credentials.text hc

/-- Where each step compares, whole providers do. -/
theorem provide (h : k.Steps requests configurations) {p p' : Provider}
    (hp : p.Reconfigured configurations p') : Run.Coupled k (· = ·) p.provide p'.provide :=
  h.lawful.provide hp

end Coupling.Steps

end RoleChain
