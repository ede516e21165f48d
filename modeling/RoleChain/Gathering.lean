import RoleChain.Execution
import RoleChain.World

/-!
Runs side by side in one world. A run gives way when it waits for an answer or for a file, and goes
on when it has a turn again; in between nobody else acts. A schedule says whose turn is next, and
the fair one goes round in the order of the runs. The turns of a run that is alone make up the run,
so what can differ among others is only what the others have done to the world meanwhile.
-/
namespace RoleChain

/-- A run on its way: what is left of it, and how many of its turns pass before it goes on. -/
structure Standing (α : Type) where
  rest : Run α
  wait : Nat := 0

/-- What a run does in one turn, up to where it waits or ends. -/
structure Turn (σ α : Type) where
  standing : Standing α
  world : World σ
  events : List Event

def Turn.after {σ α : Type} (event : Event) (turn : Turn σ α) : Turn σ α :=
  { turn with events := event :: turn.events }

/-- How many turns pass while a call is answered: none where calls are taken as they are, one where
a client makes them. -/
def TransportKind.wait : TransportKind → Nat
  | direct => 0
  | clientPerCall => 1

/-- How many turns pass while a file is opened, read and closed. -/
def Files.wait : Nat := 5

namespace Run

variable {σ α : Type}

/-- Carries out a run up to where it waits or ends. -/
def advance (service : Service σ) : Run α → World σ → Turn σ α
  | done value, w => ⟨⟨done value, 0⟩, w, []⟩
  | raise raised, w => ⟨⟨raise raised, 0⟩, w, []⟩
  | log record next, w => (next.advance service w).after (.logged record)
  | environment next, w => (next w.environment).advance service w
  | settings next, w =>
    let (s, store) := w.settings.read
    (next s).advance service { w with settings := store }
  | file path next, w => ⟨⟨next (w.files.read path), Files.wait⟩, w, []⟩
  | suffix next, w =>
    let (drawn, source) := w.suffixes.next
    ((next drawn).advance service { w with suffixes := source }).after (.drew drawn)
  | client name arguments next, w =>
    ((next (service.refusal (w.services name) arguments)).advance service w).after
      (.client name arguments)
  | call transport c next, w =>
    let (reply, state) := service.answer (w.services transport.service) c
    ⟨⟨next reply.outcome, transport.kind.wait⟩, w.withService transport.service state,
      [.called transport c]⟩

def performAfter (service : Service σ) (turn : Turn σ α) : Ran σ α :=
  let ran := turn.standing.rest.perform service turn.world
  { ran with events := turn.events ++ ran.events }

theorem performAfter_after (service : Service σ) (event : Event) (turn : Turn σ α) :
    performAfter service (turn.after event) = (performAfter service turn).after event := rfl

/-- A turn and what is left after it are the whole run. -/
theorem performAfter_advance (service : Service σ) (run : Run α) (w : World σ) :
    performAfter service (run.advance service w) = run.perform service w := by
  induction run generalizing w with
  | done | raise => rfl
  | log record next ih => simp only [advance, perform, performAfter_after, ih]
  | environment next ih => exact ih _ w
  | settings next ih => exact ih _ _
  | file path next ih => rfl
  | suffix next ih => simp only [advance, perform, performAfter_after, ih]
  | client name arguments next ih => simp only [advance, perform, performAfter_after, ih]
  | call transport c next ih => rfl

end Run

/-- Runs on their way, by position, and what has happened, with the position of who did it. -/
structure Gathering (σ α : Type) where
  world : World σ
  runs : List (Standing α)
  events : List (Nat × Event) := []

def longestWait : Nat := Files.wait + 1

def Provider.waits : Provider → Nat
  | static _ | environment _ => 0
  | webIdentity _ _ => 2
  | chain base hops _ => base.waits + hops.length

/-- How many turns are enough for a chain to be executed. -/
def ProviderChain.turns (c : ProviderChain) : Nat :=
  longestWait * (c.base.waits + c.hops.length) + 1

namespace Gathering

variable {σ α : Type}

def start (world : World σ) (runs : List (Run α)) : Gathering σ α where
  world := world
  runs := runs.map fun run => ⟨run, 0⟩

def giveTurn (service : Service σ) (g : Gathering σ α) (position : Nat) : Gathering σ α :=
  match g.runs[position]? with
  | none => g
  | some ⟨rest, wait + 1⟩ => { g with runs := g.runs.set position ⟨rest, wait⟩ }
  | some ⟨rest, 0⟩ =>
    let turn := rest.advance service g.world
    ⟨turn.world, g.runs.set position turn.standing,
      g.events ++ turn.events.map fun event => (position, event)⟩

def follow (service : Service σ) (schedule : List Nat) (g : Gathering σ α) : Gathering σ α :=
  schedule.foldl (giveTurn service) g

def goRound (runs rounds : Nat) : List Nat := (List.replicate rounds (List.range runs)).flatten

def result? (standing : Standing α) : Option (Except Raised α) :=
  match standing.rest with
  | .done value => some (.ok value)
  | .raise raised => some (.error raised)
  | _ => none

end Gathering

/-- Executes chains side by side, each under its configuration, until all have ended. -/
def executeAll [FieldRules] {σ : Type} (service : Service σ)
    (executions : List (ProviderChain × Option ClientConfiguration)) (world : World σ) :
    Gathering σ Credentials :=
  let rounds := executions.foldl (fun most e => max most e.1.turns) 0
  (Gathering.start world (executions.map fun e => e.1.execute e.2)).follow service
    (Gathering.goRound executions.length rounds)

end RoleChain
