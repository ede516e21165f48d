import RoleChain.LaxFields
import RoleChain.Proofs.Footprint
import RoleChain.Sts.Script

/-!
Runs one after the other. A provider keeps nothing of a run: what a run leaves behind is in the
suffixes and in the services, and nowhere else. So over services that forget, and with one suffix
for all names, a run that is repeated does all over again what it did, whatever was run in between.
-/
namespace RoleChain

variable {σ α : Type}

/-- Carries out runs one after the other, each in the world that those before it have left. -/
def Run.performEach (service : Service σ) : List (Run α) → World σ → List (Ran σ α)
  | [], _ => []
  | run :: runs, w =>
    let ran := run.perform service w
    ran :: performEach service runs ran.world

/-! ### Services that forget -/

/-- Whether a service in a state, whatever it is asked from then on, has clients for the same
arguments and gives the same reply to the same call. -/
structure Service.Forgets (service : Service σ) (state : σ) : Prop where
  refusal : ∀ calls arguments,
    service.refusal (service.after state calls) arguments = service.refusal state arguments
  answer : ∀ calls call,
    (service.answer (service.after state calls) call).1 = (service.answer state call).1

/-- A service that never refuses a client and replies by the role of the request forgets. -/
theorem Service.forgets_of_role {service : Service σ} (reply : String → Reply)
    (hrefusal : ∀ state arguments, service.refusal state arguments = none)
    (h : ∀ state call, (service.answer state call).1 = reply call.request.roleArn) (state : σ) :
    service.Forgets state := by
  refine ⟨fun calls arguments => ?_, fun calls call => ?_⟩
  · rw [hrefusal, hrefusal]
  · rw [h, h]

/-- Whether a world is another one after nothing but draws and calls, the settings apart. -/
structure World.IsLater (later : World σ) (service : Service σ) (w : World σ) : Prop where
  environment_eq : later.environment = w.environment
  files_eq : later.files = w.files
  stream_eq : later.suffixes.stream = w.suffixes.stream
  services_eq : ∀ name, ∃ calls, later.services name = service.after (w.services name) calls

namespace World.IsLater

variable {service : Service σ} {w v : World σ}

theorem refl (service : Service σ) (w : World σ) : w.IsLater service w :=
  ⟨rfl, rfl, rfl, fun _ => ⟨[], rfl⟩⟩

theorem after (h : v.IsLater service w) (draws : Nat) (calls : List (Transport × Call)) :
    (v.after service draws calls).IsLater service w := by
  refine ⟨h.environment_eq, h.files_eq, h.stream_eq, fun name => ?_⟩
  obtain ⟨before, hbefore⟩ := h.services_eq name
  refine ⟨before ++ callsTo name calls, ?_⟩
  rw [Service.after_append, ← hbefore]
  rfl

theorem withService (h : v.IsLater service w) (transport : Transport) (call : Call) :
    (v.withService transport.service
      (service.answer (v.services transport.service) call).2).IsLater service w := by
  have hcalled := World.after_withService service v [] transport call 0
  rw [World.after_nothing] at hcalled
  rw [hcalled]
  exact h.after 0 _

end World.IsLater

/-! ### Repeated runs -/

/-- In two later worlds a run does the same. -/
theorem Run.IgnoresSettings.repeats {run : Run α} (h : run.IgnoresSettings) {service : Service σ}
    {w u v : World σ} {suffix : Except Failure String}
    (hconstant : ∀ n, w.suffixes.stream n = suffix)
    (hforgets : ∀ name, service.Forgets (w.services name)) (hu : u.IsLater service w)
    (hv : v.IsLater service w) :
    (run.perform service u).result = (run.perform service v).result ∧
      (run.perform service u).events = (run.perform service v).events := by
  -- Both worlds are later than `w` and give what it gives, and every step keeps them later.
  induction run generalizing u v with
  | done | raise => exact ⟨rfl, rfl⟩
  | log record next ih =>
    simp only [Run.perform, Ran.after]
    obtain ⟨hresult, hevents⟩ := ih h hu hv
    exact ⟨hresult, congrArg (List.cons _) hevents⟩
  | environment next ih =>
    simp only [Run.perform, hu.environment_eq, hv.environment_eq]
    exact ih _ (h _) hu hv
  | settings next ih => exact h.elim
  | file path next ih =>
    simp only [Run.perform, hu.files_eq, hv.files_eq]
    exact ih _ (h _) hu hv
  | suffix next ih =>
    have hdraw {x : World σ} (hx : x.IsLater service w) : x.suffixes.next.1 = suffix := by
      simp only [SuffixSource.next, hx.stream_eq, hconstant]
    simp only [Run.perform, hdraw hu, hdraw hv, Ran.after]
    obtain ⟨hresult, hevents⟩ := ih suffix (h suffix) (hu.after 1 []) (hv.after 1 [])
    exact ⟨hresult, congrArg (List.cons _) hevents⟩
  | client name arguments next ih =>
    have hclient {x : World σ} (hx : x.IsLater service w) :
        service.refusal (x.services name) arguments =
          service.refusal (w.services name) arguments := by
      obtain ⟨calls, hcalls⟩ := hx.services_eq name
      rw [hcalls, (hforgets name).refusal]
    simp only [Run.perform, hclient hu, hclient hv, Ran.after]
    obtain ⟨hresult, hevents⟩ := ih _ (h _) hu hv
    exact ⟨hresult, congrArg (List.cons _) hevents⟩
  | call transport c next ih =>
    have hreply {x : World σ} (hx : x.IsLater service w) :
        (service.answer (x.services transport.service) c).1 =
          (service.answer (w.services transport.service) c).1 := by
      obtain ⟨calls, hcalls⟩ := hx.services_eq transport.service
      rw [hcalls, (hforgets transport.service).answer]
    simp only [Run.perform_call, hreply hu, hreply hv, Ran.after]
    obtain ⟨hresult, hevents⟩ := ih _ (h _) (hu.withService transport c) (hv.withService transport c)
    exact ⟨hresult, congrArg (List.cons _) hevents⟩

/-- Each of several runs does what it would have done first. -/
theorem Run.performEach_repeats {service : Service σ} {w v : World σ}
    {suffix : Except Failure String} (hconstant : ∀ n, w.suffixes.stream n = suffix)
    (hforgets : ∀ name, service.Forgets (w.services name)) (hv : v.IsLater service w)
    {runs : List (Run α)} (h : ∀ run ∈ runs, run.IgnoresSettings) {i : Nat} {run : Run α}
    (hrun : runs[i]? = some run) :
    ∃ ran, (performEach service runs v)[i]? = some ran ∧
      ran.result = (run.perform service w).result ∧
      ran.events = (run.perform service w).events := by
  induction runs generalizing i v with
  | nil => cases hrun
  | cons first runs ih =>
    have hfirst := h first List.mem_cons_self
    cases i with
    | zero =>
      cases hrun
      exact ⟨_, rfl, hfirst.repeats hconstant hforgets hv (.refl service w)⟩
    | succ i =>
      have hlater : (first.perform service v).world.IsLater service w := by
        rw [(hfirst.hasLeft service v).world_eq]
        exact hv.after _ _
      exact ih hlater (fun run hmem => h run (List.mem_cons_of_mem _ hmem)) hrun

namespace Provider

/-- However a provider ends, the suffixes have moved on by what it has drawn and each service by the
calls that it has been given, and nothing else has changed. The same is so of providers side by side,
at each moment and whichever of them have been cancelled: what has reached the services are calls
that they have made. So if there is one suffix for all names and the services forget, each of several
providers one after the other does what it would have done first. -/
theorem provide_leaves [FieldRules] (service : Service σ) (w : World σ) :
    (∀ p : Provider,
      let ran := p.provide.perform service w
      w.suffixes.Gives ran.drawn ∧
      ran.world = { w with
        suffixes := w.suffixes.skip ran.drawn.length
        services := fun name => service.after (w.services name) (callsTo name ran.calls) }) ∧
    (∀ (providers : List Provider) (moves : List Move),
      let crowd := (Crowd.start w (providers.map provide)).after service moves
      w.suffixes.Gives crowd.history.drawn ∧
      ∃ served : List (Nat × Transport × Call),
        (∀ i, (Crowd.callsOf i served).Sublist (crowd.past i).issued) ∧
        crowd.world = { w with
          suffixes := w.suffixes.skip crowd.history.drawn.length
          services := fun name =>
            service.after (w.services name) (callsTo name (served.map Prod.snd)) }) ∧
    ((∃ suffix, ∀ n, w.suffixes.stream n = suffix) →
      (∀ name, service.Forgets (w.services name)) →
      ∀ (providers : List Provider) (i : Nat) (p : Provider), providers[i]? = some p →
        let first := p.provide.perform service w
        ∃ ran, (Run.performEach service (providers.map provide) w)[i]? = some ran ∧
          ran.result = first.result ∧ ran.events = first.events) := by
  have hignores (providers : List Provider) :
      ∀ run ∈ providers.map provide, run.IgnoresSettings := by
    intro run hrun
    obtain ⟨p, -, rfl⟩ := List.mem_map.mp hrun
    exact p.ignoresSettings_provide
  refine ⟨fun p => ?_, fun providers moves => ?_, ?_⟩
  · obtain ⟨hgives, hworld⟩ := p.ignoresSettings_provide.hasLeft service w
    exact ⟨hgives, hworld⟩
  · have hdraws := Crowd.drawsFrom service w (providers.map provide) moves
    obtain ⟨served, hserved⟩ := Crowd.hasLeft (hignores providers) service w moves
    refine ⟨hdraws.gives, served, fun i => ?_, hserved.world_eq⟩
    exact (List.sublist_append_left _ _).trans (hserved.issued i)
  · rintro ⟨suffix, hconstant⟩ hforgets providers i p hp
    have hrun : (providers.map provide)[i]? = some p.provide := by
      rw [List.getElem?_map, hp, Option.map_some]
    exact Run.performEach_repeats hconstant hforgets (.refl service w) (hignores providers) hrun

attribute [local instance] FieldRules.lax

/-- A chain that is executed again after another one has failed, over a service that counts its
calls and refuses one role. -/
theorem provide_leaves_again :
    let service : Service Nat := {
      refusal := fun _ _ => none
      answer := fun count call =>
        (if call.request.roleArn = "b" then .failure (.unreachable "sts")
          else .data (Script.echoed call.request.roleArn), count + 1) }
    let configuration : ClientConfiguration := ⟨some ⟨.standard, .clientPerCall⟩, none, none⟩
    let base : Provider := .static { accessKeyId := "id", secretAccessKey := "secret" }
    let p : Provider := .chain base [{ roleArn := "a" }, { roleArn := "c" }] (some configuration)
    let q : Provider := .chain p [{ roleArn := "b" }] (some configuration)
    let w : World Nat := World.bare "1" 0
    let first := p.provide.perform service w
    (∃ suffix, ∀ n, w.suffixes.stream n = suffix) ∧ (∀ name, service.Forgets (w.services name)) ∧
      ∃ ran, (Run.performEach service ([p, q, p].map provide) w)[2]? = some ran ∧
        ran.result = first.result ∧ ran.events = first.events := by
  intro service configuration base p q w first
  have hconstant : ∃ suffix, ∀ n, w.suffixes.stream n = suffix := ⟨.ok "1", fun _ => rfl⟩
  let reply (role : String) : Reply :=
    if role = "b" then .failure (.unreachable "sts") else .data (Script.echoed role)
  have hforgets (name : ServiceName) : service.Forgets (w.services name) :=
    Service.forgets_of_role reply (fun _ _ => rfl) (fun _ _ => rfl) _
  exact ⟨hconstant, hforgets,
    (provide_leaves service w).2.2 hconstant hforgets [p, q, p] 2 p rfl⟩

end Provider

end RoleChain
