import RoleChain.Bindings
import RoleChain.Failure
import RoleChain.Log
import RoleChain.Template

/-!
Writing to a named logger. A message is a template only when values come with it; named values are
kept beside the message as well, and may rename the logger.
-/
namespace RoleChain.Journal

inductive Method where
  | debug
  | info
  | warning
  | error
  | exception
  | critical
  deriving DecidableEq

def Method.level : Method → Level
  | debug => .debug
  | info => .info
  | warning => .warning
  | error | exception => .error
  | critical => .critical

def Method.name : Method → String
  | debug => "debug"
  | info => "info"
  | warning => "warning"
  | error => "error"
  | exception => "exception"
  | critical => "critical"

def defaultLogger : String := "credential_chain.observability.logger_adaptor"

def loggerKey : String := "logger_name"

structure Entry where
  level : Level
  message : String
  extra : Bindings Datum

/-- The logger that an entry goes through in the end; a named value may put anything in its
place. -/
def Entry.logger (entry : Entry) : Datum :=
  (entry.extra.get? loggerKey).getD .null

/-- The message with its values put in; without any it stands for itself. -/
def message (text : Datum) (values : Template.Values) : Except Template.Refusal String :=
  if values.positional.isEmpty ∧ values.named.isEmpty then .ok text.plain
  else match text with
    | .text template => Template.fill template values
    | _ => .error (.noMember text.kindName "format")

structure Call where
  method : Method
  text : Datum
  values : Template.Values

/-- The logger that is written to, and the one beneath it that it hands its calls on to. -/
inductive Layer where
  | outer
  | inner
  deriving DecidableEq

namespace Layer

def name : Layer → String
  | outer => "ChainLogger"
  | inner => "Logger"

/-- The names that a layer gives to the logger and to the message. No named value may have one. -/
def reserved : Layer → List String
  | outer => ["self", "msg"]
  | inner => ["_Logger__self", "_Logger__message"]

end Layer

/-- The first named value that takes the place of something else in a layer. -/
def clash? (layer : Layer) (call : Call) : Option Failure :=
  (call.values.named.find? fun value => layer.reserved.contains value.1).map fun value =>
    .reservedName (layer.name ++ "." ++ call.method.name) value.1

def entry (logger : String) (call : Call) : Except Failure Entry :=
  match [Layer.outer, Layer.inner].findSome? (clash? · call) with
  | some failure => .error failure
  | none =>
    (message call.text call.values).mapError .template |>.map fun message =>
      ⟨call.method.level, message, .ofList ((loggerKey, .text logger) :: call.values.named)⟩

/-- The entries that calls write, and the failure of the first that writes none. -/
def write (logger : String) : List Call → List Entry × Option Failure
  | [] => ([], none)
  | call :: calls =>
    match entry logger call with
    | .error failure => ([], some failure)
    | .ok e =>
      let (entries, failure) := write logger calls
      (e :: entries, failure)

end RoleChain.Journal
