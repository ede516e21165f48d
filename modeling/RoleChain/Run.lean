import RoleChain.Files
import RoleChain.Log
import RoleChain.Settings
import RoleChain.Sts.Transport

/-!
Runs. A run is a tree of what it asks of its surroundings, one request at a node and one subtree
for every answer. It is data: what a run does with an answer is fixed before any answer is given,
so the same run can be carried out alone, among others, or up to a cancellation. Going on with a run
is associative, and ends where the run ends.
-/
namespace RoleChain

inductive Run (α : Type) where
  | done (value : α)
  | raise (raised : Raised)
  | log (record : Record) (next : Run α)
  | environment (next : Environment → Run α)
  | settings (next : Settings → Run α)
  | file (path : Path) (next : Except FileError (List UInt8) → Run α)
  | suffix (next : Except Failure String → Run α)
  /-- Creates a client; an answer is the reason why there is none. -/
  | client (service : ServiceName) (arguments : ClientArguments) (next : Option Failure → Run α)
  | call (transport : Transport) (call : Call) (next : Except Failure Datum → Run α)

namespace Run

variable {α β γ : Type}

def bind : Run α → (α → Run β) → Run β
  | done value, f => f value
  | raise raised, _ => raise raised
  | log record next, f => log record (next.bind f)
  | environment next, f => environment fun env => (next env).bind f
  | settings next, f => settings fun s => (next s).bind f
  | file path next, f => file path fun content => (next content).bind f
  | suffix next, f => suffix fun s => (next s).bind f
  | client service arguments next, f =>
    client service arguments fun refusal => (next refusal).bind f
  | call transport c next, f => call transport c fun answer => (next answer).bind f

theorem bind_done (run : Run α) : run.bind done = run := by
  induction run with
  | done | raise => rfl
  | log record next ih => exact congrArg (log record) ih
  | environment next ih => exact congrArg environment (funext ih)
  | settings next ih => exact congrArg settings (funext ih)
  | file path next ih => exact congrArg (file path) (funext ih)
  | suffix next ih => exact congrArg suffix (funext ih)
  | client service arguments next ih => exact congrArg (client service arguments) (funext ih)
  | call transport c next ih => exact congrArg (call transport c) (funext ih)

theorem bind_assoc (run : Run α) (f : α → Run β) (g : β → Run γ) :
    (run.bind f).bind g = run.bind fun value => (f value).bind g := by
  induction run with
  | done | raise => rfl
  | log record next ih => exact congrArg (log record) ih
  | environment next ih => exact congrArg environment (funext ih)
  | settings next ih => exact congrArg settings (funext ih)
  | file path next ih => exact congrArg (file path) (funext ih)
  | suffix next ih => exact congrArg suffix (funext ih)
  | client service arguments next ih => exact congrArg (client service arguments) (funext ih)
  | call transport c next ih => exact congrArg (call transport c) (funext ih)

instance : Monad Run where
  pure := done
  bind := bind

/-- Goes on with the failure of a run. -/
def rescue : Run α → (Raised → Run α) → Run α
  | done value, _ => done value
  | raise raised, handler => handler raised
  | log record next, handler => log record (next.rescue handler)
  | environment next, handler => environment fun env => (next env).rescue handler
  | settings next, handler => settings fun s => (next s).rescue handler
  | file path next, handler => file path fun content => (next content).rescue handler
  | suffix next, handler => suffix fun s => (next s).rescue handler
  | client service arguments next, handler =>
    client service arguments fun refusal => (next refusal).rescue handler
  | call transport c next, handler => call transport c fun answer => (next answer).rescue handler

/-- Fails with a failure that was raised from no other. -/
def fail (failure : Failure) : Run α := raise failure.alone

/-- Fails with a failure that was raised from another. -/
def failFrom (source failure : Failure) : Run α := raise ⟨failure, some source⟩

def record (level : Level) (logger message : String) : Run Unit :=
  log ⟨level, logger, message⟩ (done ())

def ofExcept : Except Failure α → Run α
  | .ok value => done value
  | .error failure => fail failure

end Run

end RoleChain
