import RoleChain.World

/-!
Scripted services. A script says how each role is answered: always alike, or by a sequence whose
last answer repeats. How far a sequence has come is counted for each role, over all scripts that
a service is given, and only calls that a sequence answers count.
-/
namespace RoleChain

inductive Answer where
  /-- Credentials made from the name of the role. -/
  | echo
  | fail (failure : Failure)
  | respond (data : Datum)
  | wait

inductive Behaviour where
  | always (answer : Answer)
  | sequence (answers : List Answer)

structure Script where
  roles : List (String × Behaviour) := []
  default : Behaviour := .always .echo
  refusal : Option Failure := none

/-- A script and how many calls for each role a sequence has answered. -/
structure ScriptState where
  script : Script
  served : Bindings Nat

namespace Script

def echoExpiration : DateTime := ⟨2030, 1, 1, 0, 0, 0, 0, some (.stated 0)⟩

def echoed (roleArn : String) : Datum :=
  .mapping [("Credentials", .mapping [
    ("AccessKeyId", .text ("ASIA-" ++ roleArn)),
    ("SecretAccessKey", .text ("secret-" ++ roleArn)),
    ("SessionToken", .text ("token-" ++ roleArn)),
    ("Expiration", .moment echoExpiration)])]

def reply (roleArn : String) : Answer → Reply
  | .echo => .data (echoed roleArn)
  | .fail failure => .failure failure
  | .respond data => .data data
  | .wait => .silence

def behaviour (s : Script) (roleArn : String) : Behaviour :=
  ((s.roles.find? fun entry => decide (entry.1 = roleArn)).map Prod.snd).getD s.default

/-- The n-th answer of a sequence; the last repeats. -/
def nth (answers : List Answer) (n : Nat) : Answer :=
  (answers[min n (answers.length - 1)]?).getD .echo

end Script

namespace ScriptState

def start (script : Script) : ScriptState := ⟨script, .empty⟩

/-- The service goes on with another script. -/
def replace (state : ScriptState) (script : Script) : ScriptState := { state with script := script }

def answer (state : ScriptState) (call : Call) : Reply × ScriptState :=
  let arn := call.request.roleArn
  match state.script.behaviour arn with
  | .always a => (Script.reply arn a, state)
  | .sequence answers =>
    let n := (state.served.get? arn).getD 0
    (Script.reply arn (Script.nth answers n),
      { state with served := state.served.update arn (n + 1) })

def service : Service ScriptState where
  refusal state _ := state.script.refusal
  answer := answer

end ScriptState

end RoleChain
