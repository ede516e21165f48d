import RoleChain.Proofs.Concurrency

/-!
What runs leave behind. Variables and files are looked at and never changed. What a run has drawn
says how far the suffixes have moved on, and what it has called says how far the services have. A
run that does not look at the settings leaves them as they are and does not depend on them, and no
provider looks at them. Among others, and up to a cancellation at any moment, it is the same but for
a call that is still waited for, which may not have reached its service.
-/
namespace RoleChain

variable {σ α β : Type}

/-! ### Runs that do not look at the settings -/

namespace Run

/-- Whether a run never asks for the settings, whatever it is told. -/
def IgnoresSettings : Run α → Prop
  | done _ | raise _ => True
  | log _ next => next.IgnoresSettings
  | environment next => ∀ env, (next env).IgnoresSettings
  | settings _ => False
  | file _ next => ∀ content, (next content).IgnoresSettings
  | suffix next => ∀ drawn, (next drawn).IgnoresSettings
  | client _ _ next => ∀ refusal, (next refusal).IgnoresSettings
  | call _ _ next => ∀ answer, (next answer).IgnoresSettings

namespace IgnoresSettings

variable {run : Run α}

/-- Under other settings the run does the same and leaves those. -/
theorem perform_withSettings (h : run.IgnoresSettings) (service : Service σ) (w : World σ)
    (store : SettingsStore) :
    let ran := run.perform service w
    run.perform service { w with settings := store } =
      { ran with world := { ran.world with settings := store } } := by
  induction run generalizing w with
  | done | raise => rfl
  | log record next ih => exact congrArg (Ran.after _) (ih h w)
  | environment next ih => exact ih _ (h _) w
  | settings next ih => exact h.elim
  | file path next ih => exact ih _ (h _) w
  | suffix next ih =>
    exact congrArg (Ran.after _) (ih _ (h _) { w with suffixes := w.suffixes.next.2 })
  | client name arguments next ih => exact congrArg (Ran.after _) (ih _ (h _) w)
  | call transport c next ih =>
    exact congrArg (Ran.after _) (ih _ (h _) (w.withService transport.service
      (service.answer (w.services transport.service) c).2))

end IgnoresSettings

end Run

/-- What is right in its turn is not to look at the settings. -/
theorem Run.Along.ignoresSettings {right : History → Act → Prop} {fails : Raised → History → Prop}
    {run : Run α} {past : History} {ends : α → History → Prop}
    (h : run.Along right fails past ends) : run.IgnoresSettings := by
  induction run generalizing past with
  | done | raise => trivial
  | log record next ih => exact ih h.2
  | environment next ih => exact fun env => ih env (h env)
  | settings next ih => exact h
  | file path next ih => exact fun content => ih content (h.2 content)
  | suffix next ih => exact fun drawn => ih drawn (h drawn).2
  | client name arguments next ih => exact fun refusal => ih refusal (h refusal).2
  | call transport c next ih => exact fun answer => ih answer (h.2 answer).2

theorem Provider.ignoresSettings_provide [FieldRules] (p : Provider) : p.provide.IgnoresSettings :=
  (p.along_provide (List.prefix_refl _)).ignoresSettings

/-! ### What is drawn and what is called -/

/-- The suffix that an event draws, if it draws one. -/
def Event.draw? : Event → Option (Except Failure String)
  | drew suffix => some suffix
  | logged _ | client .. | called .. => none

def Ran.drawn (ran : Ran σ α) : List (Except Failure String) := ran.events.filterMap Event.draw?

/-- The calls to one service, in order. -/
def callsTo (name : ServiceName) (calls : List (Transport × Call)) : List Call :=
  (calls.filter fun made => made.1.service = name).map Prod.snd

/-- The state that calls leave a service in. -/
def Service.after (service : Service σ) (state : σ) (calls : List Call) : σ :=
  calls.foldl (fun state call => (service.answer state call).2) state

theorem Service.after_append (service : Service σ) (state : σ) (calls later : List Call) :
    service.after state (calls ++ later) = service.after (service.after state calls) later :=
  List.foldl_append

theorem callsTo_append (name : ServiceName) (calls later : List (Transport × Call)) :
    callsTo name (calls ++ later) = callsTo name calls ++ callsTo name later := by
  simp only [callsTo, List.filter_append, List.map_append]

namespace SuffixSource

variable {source : SuffixSource}

/-- What is drawn later is given by what the source is after the draws before. -/
theorem Gives.append {drawn later : List (Except Failure String)} (h : source.Gives drawn)
    (hlater : (source.skip drawn.length).Gives later) : source.Gives (drawn ++ later) := by
  intro n suffix hn
  by_cases hlt : n < drawn.length
  · rw [List.getElem?_append_left hlt] at hn
    exact h n suffix hn
  · rw [List.getElem?_append_right (by omega)] at hn
    have hgiven := hlater _ suffix hn
    have hposition : source.position + drawn.length + (n - drawn.length) = source.position + n := by
      omega
    rwa [skip, hposition] at hgiven

theorem gives_next (source : SuffixSource) : source.Gives [source.next.1] :=
  gives_concat.mpr ⟨source.gives_nil, rfl⟩

end SuffixSource

def World.after (service : Service σ) (w : World σ) (draws : Nat) (calls : List (Transport × Call)) :
    World σ :=
  { w with
    suffixes := w.suffixes.skip draws
    services := fun name => service.after (w.services name) (callsTo name calls) }

namespace World

variable (service : Service σ) (w : World σ) (calls : List (Transport × Call))

theorem after_withService (transport : Transport) (call : Call) (draws : Nat) :
    (w.withService transport.service
        (service.answer (w.services transport.service) call).2).after service draws calls =
      w.after service draws ((transport, call) :: calls) := by
  have hservices : (fun name => service.after
        ((w.withService transport.service
          (service.answer (w.services transport.service) call).2).services name)
        (callsTo name calls)) =
      fun name => service.after (w.services name) (callsTo name ((transport, call) :: calls)) := by
    funext name
    by_cases hname : transport.service = name
    · subst hname
      simp [withService, callsTo, Service.after]
    · simp [withService, callsTo, hname, Ne.symm hname]
  simp only [after, hservices]
  rfl

theorem after_nothing : w.after service 0 [] = w := rfl

theorem after_drawn (draws : Nat) :
    World.after service { w with suffixes := w.suffixes.skip 1 } draws calls =
      w.after service (draws + 1) calls := by
  simp only [after, SuffixSource.skip_skip, Nat.add_comm]

theorem after_after (draws more : Nat) (later : List (Transport × Call)) :
    (w.after service draws calls).after service more later =
      w.after service (draws + more) (calls ++ later) := by
  simp only [after, SuffixSource.skip_skip, callsTo_append, Service.after_append]

end World

/-- What a run leaves behind: what it has drawn are the next suffixes of the source, and the world
has changed by its draws and calls only. -/
structure Ran.HasLeft (ran : Ran σ α) (service : Service σ) (w : World σ) : Prop where
  gives : w.suffixes.Gives ran.drawn
  world_eq : ran.world = w.after service ran.drawn.length ran.calls

namespace Run

/-- Whatever a run does, and however it ends, this is what it leaves behind. -/
theorem IgnoresSettings.hasLeft {run : Run α} (h : run.IgnoresSettings) (service : Service σ)
    (w : World σ) : (run.perform service w).HasLeft service w := by
  induction run generalizing w with
  | done | raise => exact ⟨w.suffixes.gives_nil, rfl⟩
  | log record next ih => exact ⟨(ih h w).gives, (ih h w).world_eq⟩
  | environment next ih => exact ih _ (h _) w
  | settings next ih => exact h.elim
  | file path next ih => exact ih _ (h _) w
  | suffix next ih =>
    obtain ⟨hgives, hworld⟩ := ih _ (h _) { w with suffixes := w.suffixes.skip 1 }
    rw [World.after_drawn] at hworld
    exact ⟨w.suffixes.gives_next.append hgives, hworld⟩
  | client name arguments next ih => exact ⟨(ih _ (h _) w).gives, (ih _ (h _) w).world_eq⟩
  | call transport c next ih =>
    obtain ⟨hgives, hworld⟩ := ih _ (h _) (w.withService transport.service
      (service.answer (w.services transport.service) c).2)
    rw [World.after_withService] at hworld
    exact ⟨hgives, hworld⟩

end Run

/-! ### Among others -/

namespace Party

/-- Whether a run on its way never asks for the settings. -/
def IgnoresSettings : Party α → Prop
  | going rest => rest.IgnoresSettings
  | waiting _ _ next => ∀ answer, (next answer).IgnoresSettings

/-- The call that is waited for, if there is one. -/
def awaited : Party α → List (Transport × Call)
  | going _ => []
  | waiting transport call _ => [(transport, call)]

end Party

namespace Move

/-- The call that a move has the service answer. A cancellation has none answered. -/
def served : Move → Party α → List (Transport × Call)
  | turn _, party => party.awaited
  | cancel _, _ => []

/-- What one move leaves behind. A call that is served or still waited for after it has been waited
for before it or goes out by it. -/
theorem leaves {party : Party α} (h : party.IgnoresSettings) (m : Move) (service : Service σ)
    (w : World σ) :
    let step := m.step service party w
    step.party.IgnoresSettings ∧
    step.world = w.after service (History.drawn step.act.toList).length (m.served party) ∧
    (m.served party ++ step.party.awaited).Sublist
      (party.awaited ++ History.issued step.act.toList) := by
  cases m with
  | turn position =>
    cases party with
    | waiting transport call next =>
      exact ⟨h _, w.after_withService service [] transport call 0, .refl _⟩
    | going rest =>
      cases rest with
      | settings next => exact h.elim
      | done | raise => exact ⟨trivial, rfl, .refl _⟩
      | log | call => exact ⟨h, rfl, .refl _⟩
      | environment | file | suffix | client => exact ⟨h _, rfl, .refl _⟩
  | cancel position =>
    cases party with
    | waiting transport call next => exact ⟨h _, rfl, List.nil_sublist _⟩
    | going rest =>
      cases rest with
      | file | raise | done => exact ⟨trivial, rfl, .refl _⟩
      | client name arguments next => exact ⟨h _, rfl, .refl _⟩
      | log | environment | settings | suffix | call => exact ⟨h, rfl, .refl _⟩

end Move

theorem History.issued_append_act (act : Option Act) (past : History) :
    History.issued (act.toList ++ past) = past.issued ++ History.issued act.toList := by
  rcases act with _ | (_ | _ | _ | _ | _) <;> simp [issued]

namespace Crowd

/-- Of calls with the position of whose they are, those of the run at a position. -/
def callsOf (i : Nat) (made : List (Nat × Transport × Call)) : List (Transport × Call) :=
  (made.filter fun m => m.1 = i).map Prod.snd

theorem callsOf_append_self (i : Nat) (made : List (Nat × Transport × Call))
    (calls : List (Transport × Call)) :
    callsOf i (made ++ calls.map (Prod.mk i)) = callsOf i made ++ calls := by
  simp [callsOf, List.filter_map, Function.comp_def]

theorem callsOf_append_other {i j : Nat} (h : j ≠ i) (made : List (Nat × Transport × Call))
    (calls : List (Transport × Call)) :
    callsOf i (made ++ calls.map (Prod.mk j)) = callsOf i made := by
  simp [callsOf, List.filter_map, Function.comp_def, h]

/-- What runs leave behind among each other, when certain calls have reached their services. Those
that have, and the one that is waited for, are calls that the run has made, in its order. -/
structure HasLeft (crowd : Crowd σ α) (service : Service σ) (w : World σ)
    (served : List (Nat × Transport × Call)) : Prop where
  world_eq : crowd.world = w.after service crowd.history.drawn.length (served.map Prod.snd)
  ignores : ∀ (i : Nat) (party : Party α), crowd.parties[i]? = some party → party.IgnoresSettings
  issued : ∀ i, (callsOf i served ++ (crowd.parties[i]?.map Party.awaited).getD []).Sublist
    (crowd.past i).issued

theorem HasLeft.move {crowd : Crowd σ α} {service : Service σ} {w : World σ}
    {served : List (Nat × Transport × Call)} (h : crowd.HasLeft service w served) (m : Move) :
    ∃ served, (crowd.move service m).HasLeft service w served := by
  cases hparty : crowd.parties[m.position]? with
  | none => exact ⟨served, by rwa [move_of_none hparty]⟩
  | some party =>
    obtain ⟨hafter, hworld, hcalls⟩ := m.leaves (h.ignores _ party hparty) service crowd.world
    refine ⟨served ++ (m.served party).map (Prod.mk m.position), ?_, ?_, ?_⟩
    · rw [history_move hparty, History.drawn_append_act, move_of_some hparty, hworld, h.world_eq,
        World.after_after, List.length_append, List.map_append, List.map_map]
      simp [Function.comp_def]
    · intro i party' hparty'
      by_cases hi : m.position = i
      · subst hi
        rw [parties_move_self hparty] at hparty'
        cases hparty'
        exact hafter
      · rw [parties_move_other hi] at hparty'
        exact h.ignores i party' hparty'
    -- Only the run that moves has made or been served anything.
    · intro i
      by_cases hi : m.position = i
      · subst hi
        have hpast := (h.issued m.position).append_right
          (History.issued (m.step service party crowd.world).act.toList)
        rw [hparty, Option.map_some, Option.getD_some, List.append_assoc] at hpast
        rw [parties_move_self hparty, past_move_self hparty, History.issued_append_act,
          callsOf_append_self, Option.map_some, Option.getD_some, List.append_assoc]
        exact (hcalls.append_left _).trans hpast
      · rw [parties_move_other hi, past_move_other hi, callsOf_append_other hi]
        exact h.issued i

/-- Whatever the moves, runs that never ask for the settings leave no more behind. -/
theorem hasLeft {runs : List (Run α)} (h : ∀ run ∈ runs, run.IgnoresSettings)
    (service : Service σ) (w : World σ) (moves : List Move) :
    ∃ served, ((start w runs).after service moves).HasLeft service w served := by
  refine after_induction service (motive := fun crowd => ∃ served, crowd.HasLeft service w served)
    ⟨[], rfl, fun i party hparty => ?_, fun i => ?_⟩ moves fun crowd m _ hcrowd => ?_
  · simp only [start, List.getElem?_map, Option.map_eq_some_iff] at hparty
    obtain ⟨run, hrun, rfl⟩ := hparty
    exact h run (List.mem_of_getElem? hrun)
  · simp only [start, List.getElem?_map, Option.map_map]
    cases runs[i]? <;> exact List.nil_sublist _
  · obtain ⟨served, hserved⟩ := hcrowd
    exact hserved.move m

end Crowd

end RoleChain
