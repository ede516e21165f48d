import RoleChain.Run

/-!
Surroundings of runs, and how a run is carried out in them. A service is any machine that answers
a call and may change its state by it; every service has a state of its own. Carrying out a run
gives its result, the surroundings after it, and the events in the order in which they happened.
What goes on after a run is carried out in the world that the run has left, and its events follow.
-/
namespace RoleChain

/-- What a service does with a call. Silence lasts until the caller is cancelled. -/
inductive Reply where
  | data (value : Datum)
  | failure (failure : Failure)
  | silence

/-- A service over states of type `σ`: whether clients can be created, and how calls are
answered. -/
structure Service (σ : Type) where
  refusal : σ → ClientArguments → Option Failure
  answer : σ → Call → Reply × σ

/-- Where suffixes of session names come from: the n-th draw gives the n-th of them, or fails. -/
structure SuffixSource where
  stream : Nat → Except Failure String
  position : Nat := 0

namespace SuffixSource

def next (source : SuffixSource) : Except Failure String × SuffixSource :=
  (source.stream source.position, { source with position := source.position + 1 })

def constant (suffix : String) : SuffixSource where
  stream _ := .ok suffix

def ofList (suffixes : List String) : SuffixSource where
  stream n :=
    match suffixes[n]? with
    | some suffix => .ok suffix
    | none => .error (.plain .state [.text "no suffix left"])

/-- The milliseconds of a clock that gives seconds, cut to an integer. -/
def clock (seconds : Binary64) : SuffixSource where
  stream _ :=
    match (seconds.scale 1000).truncate? with
    | some milliseconds => .ok (Decimal.intText milliseconds)
    | none => .error .infiniteClock

end SuffixSource

structure World (σ : Type) where
  environment : Environment
  files : Files
  settings : SettingsStore
  suffixes : SuffixSource
  services : ServiceName → σ

/-- What can be seen of a run from outside. -/
inductive Event where
  | logged (record : Record)
  | drew (suffix : Except Failure String)
  | client (service : ServiceName) (arguments : ClientArguments)
  | called (transport : Transport) (call : Call)

/-- A run that has been carried out. -/
structure Ran (σ α : Type) where
  result : Except Raised α
  world : World σ
  events : List Event

namespace Ran

variable {σ α β : Type}

def after (event : Event) (ran : Ran σ α) : Ran σ α :=
  { ran with events := event :: ran.events }

/-- Goes on with the value of a run in the world that it has left. -/
def andThen (ran : Ran σ α) (next : α → World σ → Ran σ β) : Ran σ β :=
  match ran.result with
  | .error raised => ⟨.error raised, ran.world, ran.events⟩
  | .ok value =>
    let later := next value ran.world
    { later with events := ran.events ++ later.events }

/-- Goes on with the failure of a run in the world that it has left. -/
def orElse (ran : Ran σ α) (handler : Raised → World σ → Ran σ α) : Ran σ α :=
  match ran.result with
  | .ok _ => ran
  | .error raised =>
    let later := handler raised ran.world
    { later with events := ran.events ++ later.events }

theorem after_andThen (event : Event) (ran : Ran σ α) (next : α → World σ → Ran σ β) :
    (ran.after event).andThen next = (ran.andThen next).after event := by
  obtain ⟨_ | _, _, _⟩ := ran <;> rfl

theorem after_orElse (event : Event) (ran : Ran σ α) (handler : Raised → World σ → Ran σ α) :
    (ran.after event).orElse handler = (ran.orElse handler).after event := by
  obtain ⟨_ | _, _, _⟩ := ran <;> rfl

def records (ran : Ran σ α) : List Record :=
  ran.events.filterMap fun
    | .logged record => some record
    | _ => none

end Ran

namespace World

variable {σ : Type}

def withService (w : World σ) (name : ServiceName) (state : σ) : World σ :=
  { w with services := fun n => if n = name then state else w.services n }

end World

/-- What a run is told when a service has replied; a silent one is waited for in vain. -/
def Reply.outcome : Reply → Except Failure Datum
  | data value => .ok value
  | failure f => .error f
  | silence => .error (.cancelled [])

namespace Run

variable {σ α β : Type}

def perform (service : Service σ) : Run α → World σ → Ran σ α
  | done value, w => ⟨.ok value, w, []⟩
  | raise raised, w => ⟨.error raised, w, []⟩
  | log record next, w => (next.perform service w).after (.logged record)
  | environment next, w => (next w.environment).perform service w
  | settings next, w =>
    let (s, store) := w.settings.read
    (next s).perform service { w with settings := store }
  | file path next, w => (next (w.files.read path)).perform service w
  | suffix next, w =>
    let (drawn, source) := w.suffixes.next
    ((next drawn).perform service { w with suffixes := source }).after (.drew drawn)
  | client name arguments next, w =>
    ((next (service.refusal (w.services name) arguments)).perform service w).after
      (.client name arguments)
  | call transport c next, w =>
    let (reply, state) := service.answer (w.services transport.service) c
    ((next reply.outcome).perform service (w.withService transport.service state)).after
      (.called transport c)

theorem perform_bind (service : Service σ) (run : Run α) (f : α → Run β) (w : World σ) :
    (run.bind f).perform service w =
      (run.perform service w).andThen fun value => (f value).perform service := by
  induction run generalizing w with
  | done | raise => rfl
  | log record next ih => simp only [bind, perform, ih, Ran.after_andThen]
  | environment next ih => exact ih _ w
  | settings next ih => exact ih _ _
  | file path next ih => exact ih _ w
  | suffix next ih => simp only [bind, perform, ih, Ran.after_andThen]
  | client name arguments next ih => simp only [bind, perform, ih, Ran.after_andThen]
  | call transport c next ih => simp only [bind, perform, ih, Ran.after_andThen]

theorem perform_rescue (service : Service σ) (run : Run α) (handler : Raised → Run α)
    (w : World σ) :
    (run.rescue handler).perform service w =
      (run.perform service w).orElse fun raised => (handler raised).perform service := by
  induction run generalizing w with
  | done | raise => rfl
  | log record next ih => simp only [rescue, perform, ih, Ran.after_orElse]
  | environment next ih => exact ih _ w
  | settings next ih => exact ih _ _
  | file path next ih => exact ih _ w
  | suffix next ih => simp only [rescue, perform, ih, Ran.after_orElse]
  | client name arguments next ih => simp only [rescue, perform, ih, Ran.after_orElse]
  | call transport c next ih => simp only [rescue, perform, ih, Ran.after_orElse]

end Run

end RoleChain
