import RoleChain.LaxFields
import RoleChain.Proofs.HopOrder
import RoleChain.Proofs.Nesting
import RoleChain.Proofs.Repetition

/-!
The use of suffixes. A hop that declares the name of its session, whatever that name is, draws
nothing. Any other hop draws one suffix when its turn comes, and its call is the next thing done.
Where there is no suffix the chain ends with the failure of the draw, and the hop makes no call; a
failure of the kinds that are raised for hops is taken for one of this hop. No suffix is drawn twice,
in one execution or in several.
-/
namespace RoleChain

variable {σ : Type}

/-! ### Draws of attempts -/

theorem Transport.deeds_notes (transport : Transport) (call : Call) :
    (transport.notes call).filter Event.isDeed = [] := by
  obtain ⟨name, _ | _⟩ := transport <;> rfl

theorem Transport.deeds_calls (transport : Transport) (service : Service σ) (call : Call)
    (state : σ) : (transport.calls service call state).filter Event.isDeed =
      transport.calls service call state := by
  obtain ⟨name, _ | _⟩ := transport
  · rfl
  · simp only [calls]
    cases refusal ⟨name, .clientPerCall⟩ service call state <;> rfl

namespace Attempt

/-- What an attempt does: it draws a suffix if it needs one, and then it makes its call. -/
def deeds (a : Attempt σ) (route : Route σ) : List Event := a.draws ++ a.calls route

theorem deeds_draws (a : Attempt σ) : a.draws.filter Event.isDeed = a.draws := by
  unfold draws
  cases a.hop.sessionName <;> rfl

theorem deeds_events (a : Attempt σ) (route : Route σ) :
    (a.events route).filter Event.isDeed = a.deeds route := by
  rw [events, List.filter_append, List.filter_append, deeds_draws, Transport.deeds_notes, deeds,
    calls, Transport.deeds_calls, List.nil_append]

theorem sessionName_call (a : Attempt σ) (route : Route σ) :
    (a.call route).request.sessionName = match a.hop.sessionName with
      | some name => name
      | none => String.ofList (("assume-role-from-profile-" ++ a.suffix).toList.take 64) := by
  have hpurpose : SessionName.assumeRolePurpose ++ "-" = "assume-role-from-profile-" := by decide
  change a.sessionName = _
  unfold sessionName
  cases a.hop.sessionName with
  | some name => rfl
  | none => rw [Option.getD_none, SessionName.withSuffix, hpurpose]; rfl

theorem failed_draw_not_mem (a : Attempt σ) (route : Route σ) (failure : Failure) :
    .drew (.error failure) ∉ a.deeds route := by
  intro hdrew
  rcases List.mem_append.mp hdrew with hdrew | hdrew
  · unfold draws at hdrew
    split at hdrew <;> simp at hdrew
  · have hcalls := Transport.filter_calls route.transport route.service (a.call route) a.state
    rw [calls, ← hcalls] at hdrew
    cases (List.mem_filter.mp hdrew).2

end Attempt

/-! ### Failures to draw -/

/-- What a chain raises when a draw has failed for the hop at a position: what the draw has raised,
unless that is of the kinds that are raised for hops, or the end of an iteration, which cannot leave
where it is raised. -/
inductive Failure.LeavesAs (index : Nat) : Failure → Raised → Prop
  | provider (cause : Failure) (name : String) (role : Option String) (hop : Option Int) :
      LeavesAs index (.provider cause name role hop)
        ⟨.provider cause name role (some index), some cause⟩
  | invalidResponse (reason : String) (role : Option String) (hop : Option Int) :
      LeavesAs index (.invalidResponse reason role hop)
        ⟨.invalidResponse reason role (some index), some (.invalidResponse reason role hop)⟩
  | exhausted (arguments : List Datum) :
      LeavesAs index (.plain .exhausted arguments)
        ⟨.plain .state [.text "coroutine raised StopIteration"], some (.plain .exhausted arguments)⟩
  | same {failure : Failure} (unplaced : failure.atHop? index = none)
      (goesOn : ∀ arguments, failure ≠ .plain .exhausted arguments) :
      LeavesAs index failure failure.alone

theorem Failure.leavesAs_leave (failure : Failure) (index : Nat) :
    failure.LeavesAs index (failure.leave.atHop index) := by
  cases failure with
  | provider cause name role hop => exact .provider cause name role hop
  | invalidResponse reason role hop => exact .invalidResponse reason role hop
  | plain kind arguments =>
    cases kind with
    | exhausted => exact .exhausted arguments
    | general | value | state | key | poolCancelled | poolState | loopState => exact .same rfl nofun
  | _ => exact .same rfl nofun

/-! ### Where the hops stop -/

section

variable [FieldRules]

/-- How the hops of a chain, the first of which has the given position, end after attempts at the
first of them: what is done after those, and what comes of it. -/
inductive StopsAfter (route : Route σ) (hops : List Hop) (index : Nat)
    (attempts : List (Attempt σ)) : List Event → Except Raised Credentials → Prop
  /-- All hops have been attempted, or the last attempt is issued nothing. -/
  | attempted (stop : attempts.length = hops.length ∨
      ∃ a ∈ attempts.getLast?, a.issued? route = none) (result : Except Raised Credentials) :
      StopsAfter route hops index attempts [] result
  /-- All attempts are issued credentials, but the next hop finds no suffix for its name. -/
  | unnamed {hop : Hop} (hop_eq : hops[attempts.length]? = some hop) (name : hop.sessionName = none)
      (issued : ∀ a ∈ attempts, a.issued? route ≠ none) (failure : Failure) :
      StopsAfter route hops index attempts [.drew (.error failure)]
        (.error (failure.leave.atHop (index + attempts.length)))

theorem StopsAfter.cons {route : Route σ} {hops : List Hop} {index : Nat}
    {attempts : List (Attempt σ)} {events : List Event} {result : Except Raised Credentials}
    (h : StopsAfter route hops (index + 1) attempts events result) {a : Attempt σ}
    (ha : a.issued? route ≠ none) (hop : Hop) :
    StopsAfter route (hop :: hops) index (a :: attempts) events result := by
  cases h with
  | attempted stop =>
    refine .attempted ?_ result
    rcases stop with hlength | ⟨b, hb, hnone⟩
    · exact Or.inl (by simp only [List.length_cons, hlength])
    · exact Or.inr ⟨b, List.mem_getLast?_cons hb, hnone⟩
  | @unnamed next hop_eq name issued failure =>
    have hnext : (hop :: hops)[(a :: attempts).length]? = some next := hop_eq
    have hposition : index + 1 + attempts.length = index + (a :: attempts).length := by
      simp only [List.length_cons]
      omega
    rw [hposition]
    refine .unnamed hnext name ?_ failure
    intro b hb
    rcases List.mem_cons.mp hb with rfl | hb
    · exact ha
    · exact issued b hb

/-- A draw that fails after the attempts is what the hops end with. -/
theorem StopsAfter.result_eq {route : Route σ} {hops : List Hop} {index : Nat}
    {attempts : List (Attempt σ)} {events : List Event} {result : Except Raised Credentials}
    (h : StopsAfter route hops index attempts events result) {failure : Failure}
    (hdrew : .drew (.error failure) ∈ events) :
    result = .error (failure.leave.atHop (index + attempts.length)) := by
  cases h with
  | attempted => cases hdrew
  | unnamed hop_eq name issued raised =>
    simp only [List.mem_singleton, Event.drew.injEq, Except.error.injEq] at hdrew
    rw [hdrew]

/-- Whatever the service answers and whatever is drawn, the hops are attempts in turn, and what they
do besides is one draw at most. -/
theorem deeds_assumeAll (route : Route σ) (hops : List Hop) (index : Nat) (first : Credentials)
    (w : World σ) :
    let ran := (assumeAll (some route.configuration) index hops first).perform route.service w
    ∃ attempts events,
      InTurn route (hops.take attempts.length) first (w.services route.transport.service)
        attempts ∧
      StopsAfter route hops index attempts events ran.result ∧
      ran.deeds = attempts.flatMap (fun a => a.deeds route) ++ events := by
  induction hops generalizing index first w with
  | nil => exact ⟨[], [], .nil _ _ _, .attempted (Or.inl rfl) _, rfl⟩
  | cons hop hops ih =>
    -- A hop is attempted, or there is no suffix for it and the hops stop before it.
    rcases hop.attempted_or_unnamed first route w with
      ⟨a, rfl, rfl, hstate, hsupplied⟩ | ⟨failure, hname, hunnamed⟩
    · have hstep := a.perform_supplied route hsupplied hstate.symm
      rw [← hstate]
      cases hresult : a.result route with
      | error raised =>
        have hnone : a.issued? route = none := (a.issued?_eq_none_iff route).mpr ⟨raised, hresult⟩
        rw [hresult] at hstep
        rw [perform_assumeAll_failed _ _ hstep]
        refine ⟨[a], [], .refused hnone _, .attempted (Or.inr ⟨a, rfl, hnone⟩) _, ?_⟩
        simp only [Ran.deeds, List.filter_append, a.deeds_events, Hop.deeds_warnings,
          List.flatMap_cons, List.flatMap_nil, List.append_nil]
      | ok assumed =>
        have hissued := (a.result_eq_ok_iff route assumed).mp hresult
        rw [hresult] at hstep
        rw [perform_assumeAll_assumed _ _ hstep]
        obtain ⟨attempts, events, hturn, hstop, hdeeds⟩ :=
          ih (index + 1) assumed (a.worldAfter route w)
        rw [a.worldAfter_state route w] at hturn
        refine ⟨a :: attempts, events, hturn.cons hissued, hstop.cons (by simp [hissued]) _, ?_⟩
        have hrecord : (a.hop.assumedEvent assumed).isDeed = false := rfl
        rw [Ran.deeds] at hdeeds ⊢
        simp only [List.filter_append, a.deeds_events, List.filter_cons, hrecord, hdeeds,
          List.flatMap_cons, List.append_assoc, Bool.false_eq_true, if_false]
    · rw [perform_assumeAll_failed _ _ hunnamed]
      refine ⟨[], [.drew (.error failure)], .nil _ _ _, ?_, ?_⟩
      · exact .unnamed rfl hname (by simp) failure
      · simp only [Ran.deeds, List.filter_append, Hop.deeds_warnings]
        rfl

end

/-! ### Executions -/

/-- What several runs draw, one after the other, is given by the source once each and in order. -/
theorem Run.performEach_gives {α : Type} {runs : List (Run α)} (h : ∀ run ∈ runs, run.IgnoresSettings)
    (service : Service σ) (w : World σ) :
    w.suffixes.Gives ((performEach service runs w).flatMap Ran.drawn) := by
  induction runs generalizing w with
  | nil => exact w.suffixes.gives_nil
  | cons run runs ih =>
    obtain ⟨hgives, hworld⟩ := (h run List.mem_cons_self).hasLeft service w
    have hlater := ih (fun run hmem => h run (List.mem_cons_of_mem _ hmem))
      (run.perform service w).world
    have hsuffixes : (run.perform service w).world.suffixes =
        w.suffixes.skip (run.perform service w).drawn.length := congrArg World.suffixes hworld
    rw [hsuffixes] at hlater
    exact hgives.append hlater

section

variable [FieldRules]

/-- What attempts at the hops of a chain draw and do after its base has loaded credentials. Each has
the declared name for its session, or a name made of a suffix that is drawn right before the call.
They stop at the first hop that is issued nothing, or at one that finds no suffix: that hop makes no
call, and what the draw has raised leaves the chain. -/
structure ProviderChain.DrawsInTurn (c : ProviderChain) (route : Route σ) (first : Credentials)
    (loaded ran : Ran σ Credentials) (attempts : List (Attempt σ)) (events : List Event) : Prop where
  inTurn : InTurn route (c.hops.take attempts.length) first
    (loaded.world.services route.transport.service) attempts
  named : ∀ a ∈ attempts, (a.call route).request.sessionName = match a.hop.sessionName with
    | some name => name
    | none => String.ofList (("assume-role-from-profile-" ++ a.suffix).toList.take 64)
  stops : StopsAfter route c.hops 0 attempts events ran.result
  deeds_eq : ran.deeds =
    loaded.deeds ++ attempts.flatMap (fun a => a.draws ++ a.calls route) ++ events
  leaves : ∀ failure, .drew (.error failure) ∈ events → ∃ raised, ran.result = .error raised ∧
    failure.LeavesAs attempts.length raised

/-- The hops of a chain draw in turn. If the base fails there is no draw but its own. Executions one
after the other never share a draw. -/
theorem ProviderChain.execute_draws (c : ProviderChain) (route : Route σ) (w : World σ) :
    let loaded := c.base.provide.perform route.service w
    let run := c.execute (some route.configuration)
    let ran := run.perform route.service w
    (∀ n, w.suffixes.Gives
      ((Run.performEach route.service (List.replicate n run) w).flatMap Ran.drawn)) ∧
    (∀ raised, loaded.result = .error raised → ran = loaded) ∧
    ∀ first, loaded.result = .ok first →
      ∃ attempts events, c.DrawsInTurn route first loaded ran attempts events := by
  intro loaded run ran
  refine ⟨fun n => ?_, fun raised hfailed => ?_, fun first hfirst => ?_⟩
  · refine Run.performEach_gives (fun other hother => ?_) route.service w
    rw [List.eq_of_mem_replicate hother]
    exact (c.provider (some route.configuration)).ignoresSettings_provide
  · have hran := perform_executeFrom_failed route.service (some route.configuration)
      c.base.provide c.hops hfailed
    rw [← hfailed] at hran
    exact hran
  · have hran : ran = _ := perform_executeFrom_loaded route.service (some route.configuration)
      c.base.provide c.hops hfirst
    obtain ⟨attempts, events, hturn, hstop, hdeeds⟩ :=
      deeds_assumeAll route c.hops 0 first loaded.world
    rw [← show ran.result = _ from congrArg Ran.result hran] at hstop
    refine ⟨attempts, events, hturn, fun a _ => a.sessionName_call route, hstop, ?_, ?_⟩
    · have hevents : ran.events = loaded.events ++ loadedEvent first :: _ := congrArg Ran.events hran
      have hrecord : ¬ (loadedEvent first).isDeed = true := nofun
      rw [Ran.deeds, hevents, List.filter_append, List.filter_cons_of_neg hrecord, List.append_assoc]
      exact congrArg (loaded.deeds ++ ·) hdeeds
    · intro failure hdrew
      have hresult := hstop.result_eq hdrew
      rw [Nat.zero_add] at hresult
      exact ⟨_, hresult, failure.leavesAs_leave attempts.length⟩

end

attribute [local instance] FieldRules.lax

/-- Three hops and one suffix, with an empty name declared for the second hop. -/
theorem ProviderChain.execute_draws_exhausted :
    let route : Route Unit := {
      service := {
        refusal := fun _ _ => none
        answer := fun _ call => (.data (Script.echoed call.request.roleArn), ()) }
      transport := ⟨.standard, .clientPerCall⟩ }
    let first : Credentials := { accessKeyId := "id", secretAccessKey := "secret" }
    let c : ProviderChain := ⟨.static first,
      [{ roleArn := "a" }, { roleArn := "b", sessionName := some "" }, { roleArn := "c" }]⟩
    let w : World Unit := { World.bare "1" () with suffixes := .ofList ["x"] }
    let ran := (c.execute (some route.configuration)).perform route.service w
    let failure : Failure := .plain .state [.text "no suffix left"]
    let loaded := c.base.provide.perform route.service w
    loaded.result = .ok first ∧ ∃ attempts events raised,
      c.DrawsInTurn route first loaded ran attempts events ∧ .drew (.error failure) ∈ events ∧
      ran.result = .error raised ∧ failure.LeavesAs attempts.length raised ∧
      raised = failure.alone := by
  intro route first c w ran failure loaded
  have hfirst : loaded.result = .ok first := rfl
  obtain ⟨-, -, hloaded⟩ := c.execute_draws route w
  obtain ⟨attempts, events, hdraws⟩ := hloaded first hfirst
  have hmem : .drew (.error failure) ∈ ran.deeds := List.mem_of_getLast? rfl
  -- Nothing that is done before the hops stop is a failed draw, so it is done where they stop.
  have hdrew : .drew (.error failure) ∈ events := by
    rw [hdraws.deeds_eq] at hmem
    rcases List.mem_append.mp hmem with hattempts | hevents
    · obtain ⟨a, -, ha⟩ := List.mem_flatMap.mp hattempts
      exact (a.failed_draw_not_mem route failure ha).elim
    · exact hevents
  obtain ⟨raised, hresult, hleaves⟩ := hdraws.leaves failure hdrew
  refine ⟨hfirst, attempts, events, raised, hdraws, hdrew, hresult, hleaves, ?_⟩
  change Failure.LeavesAs _ (.plain .state [.text "no suffix left"]) raised at hleaves
  cases hleaves
  rfl

/-- A draw that fails with a failure of a provider, for the only hop, leaves the chain as a failure
of that hop. And a base that is a chain draws for a hop of its own, though it fails, for want of a
client, without a call: the suffix that is next after it is another one. -/
theorem ProviderChain.execute_draws_replaced :
    let service : Service Unit := {
      refusal := fun _ _ => some (.unreachable "sts")
      answer := fun _ call => (.data (Script.echoed call.request.roleArn), ()) }
    let configuration : ClientConfiguration := ⟨some ⟨.standard, .clientPerCall⟩, none, none⟩
    let first : Provider := .static { accessKeyId := "id", secretAccessKey := "secret" }
    let c : ProviderChain := ⟨first, [{ roleArn := "a" }]⟩
    let above : ProviderChain := ⟨c.provider (some configuration), [{ roleArn := "b" }]⟩
    let failure : Failure := .provider (.plain .value []) "generator" none none
    let failing : SuffixSource := ⟨fun _ => .error failure, 0⟩
    let ran := (c.execute (some configuration)).perform service
      { World.bare "1" () with suffixes := failing }
    let loaded := above.base.provide.perform service (World.bare "1" ())
    let ranAbove := (above.execute (some configuration)).perform service (World.bare "1" ())
    .drew (.error failure) ∈ ran.events ∧ ran.calls = [] ∧
      (∃ raised, ran.result = .error raised ∧ raised.failure ≠ failure ∧
        raised.failure.message = "generator failed to load credentials:  (after 0 successful hops)") ∧
      loaded.result.isOk = false ∧ ranAbove.calls = [] ∧ ranAbove.drawn = [.ok "1"] ∧
      ranAbove.world.suffixes.position = 1 := by
  intro service configuration first c above failure failing ran loaded ranAbove
  have hresult : ran.result = .error ⟨.provider (.plain .value []) "generator" none (some 0),
      some (.plain .value [])⟩ := rfl
  refine ⟨List.mem_cons_of_mem _ List.mem_cons_self, rfl, ⟨_, hresult, ?_, ?_⟩, rfl, rfl, rfl, rfl⟩
  · simp [failure]
  · decide +kernel

end RoleChain
