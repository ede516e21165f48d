import RoleChain.ErrorCode
import RoleChain.Schema
import RoleChain.Template
import RoleChain.Text.Utf8

/-!
Failures by their causes, and the one function that puts them into words. A failure of a hop keeps
the failure below it as its cause, so wording and causes are independent of each other.
-/
namespace RoleChain

/-- The words of a failure that is nothing but the values it was made with. -/
def argumentsText : List Datum → String
  | [] => ""
  | [value] => value.plain
  | values => tupleText (values.map Datum.literal)

inductive SystemKind where
  | general
  | connection
  | timeout
  deriving DecidableEq

/-- A failure that the operating system reports: two to five arguments are its number, its text,
a path, a number that counts elsewhere only, and a second path. -/
structure SystemError where
  kind : SystemKind
  arguments : List Datum

inductive SystemCondition where
  | notPermitted
  | notFound
  | interrupted
  | noProcess
  | noChild
  | wouldBlock
  | alreadyExists
  | notDirectory
  | isDirectory
  | brokenPipe
  | connectionAborted
  | connectionReset
  | connectionRefused
  | timedOut
  | other
  deriving DecidableEq

namespace SystemError

def atPath (number : Int) (text path : String) : SystemError :=
  ⟨.general, [.int number, .text text, .text path]⟩

def notFound (path : String) : SystemError := atPath 2 "No such file or directory" path

def invalidArgument : SystemError := ⟨.general, [.int 22, .text "Invalid argument"]⟩

/-- What stands after the text of a system error: nothing, or a path, after which a second one
follows an arrow. -/
def pathText : List Datum → String
  | [] => ""
  | .null :: _ => ""
  | [path, _, .null] => ": " ++ path.literal
  | [path, _, second] => ": " ++ path.literal ++ " -> " ++ second.literal
  | path :: _ => ": " ++ path.literal

def conditionOfNumber (n : Int) : SystemCondition :=
  if n = 1 ∨ n = 13 then .notPermitted
  else if n = 2 then .notFound
  else if n = 3 then .noProcess
  else if n = 4 then .interrupted
  else if n = 10 then .noChild
  else if n = 11 ∨ n = 114 ∨ n = 115 then .wouldBlock
  else if n = 17 then .alreadyExists
  else if n = 20 then .notDirectory
  else if n = 21 then .isDirectory
  else if n = 32 ∨ n = 108 then .brokenPipe
  else if n = 103 then .connectionAborted
  else if n = 104 then .connectionReset
  else if n = 110 then .timedOut
  else if n = 111 then .connectionRefused
  else .other

/-- The condition that a general error reports by its number. -/
def condition (e : SystemError) : SystemCondition :=
  match e.kind, e.arguments with
  | .general, number :: _ :: rest =>
    if 3 < rest.length then .other
    else match number with
      | .int n => conditionOfNumber n
      | .bool b => conditionOfNumber (if b then 1 else 0)
      | _ => .other
  | _, _ => .other

/-- Whether a number in the place of the path counts what was written, as it does where a call
would have had to wait. -/
def isCount (e : SystemError) : Datum → Bool
  | .int _ | .bool _ | .float _ => decide (e.condition = .wouldBlock)
  | _ => false

def isTimeout (e : SystemError) : Bool :=
  decide (e.kind = .timeout) || decide (e.condition = .timedOut)

/-- The same with nothing but the number and the text if a path follows them. -/
def withoutPath (e : SystemError) : SystemError :=
  match e.arguments with
  | [_, _, .null] | [_, _, .null, _] | [_, _, .null, _, _] => e
  | [number, text, _] | [number, text, _, _] | [number, text, _, _, _] =>
    { e with arguments := [number, text] }
  | _ => e

def message (e : SystemError) : String :=
  match e.arguments with
  | number :: text :: rest =>
    if rest.length ≤ 3 then
      "[Errno " ++ number.plain ++ "] " ++ text.plain ++
        (if rest.head?.any e.isCount then "" else pathText rest)
    else argumentsText e.arguments
  | arguments => argumentsText arguments

end SystemError

/-- Why values do not make the failure that they are given for. -/
inductive Misfit where
  /-- The number of arguments that name the source of credentials is not one. -/
  | arity (given : Nat)
  | notBlocks (kind : String)
  | notBlock (kind : String)
  | notCount (kind : String)
  | countTooLarge
  | noPosition (kind : String)
  deriving DecidableEq

def Misfit.message : Misfit → String
  | arity 0 => "UnknownProviderError.__init__() missing 1 required positional argument: 'name'"
  | arity given =>
    "UnknownProviderError.__init__() takes 2 positional arguments but " ++
      Decimal.digitText (given + 1) ++ " were given"
  | notBlocks kind => "argument of type '" ++ kind ++ "' is not iterable"
  | notBlock kind => "'" ++ kind ++ "' object has no attribute 'get'"
  | notCount kind => "'" ++ kind ++ "' object cannot be interpreted as an integer"
  | countTooLarge => "cannot fit 'int' into an index-sized integer"
  | noPosition kind => "'" ++ kind ++ "' object has no attribute 'at_hop'"

/-- Failures that say nothing but what they were made with. -/
inductive PlainKind where
  | general
  | value
  | state
  | key
  /-- The end of an iteration. -/
  | exhausted
  /-- A piece of work that a pool of threads has cancelled. -/
  | poolCancelled
  /-- An operation on such a piece of work that its state does not allow. -/
  | poolState
  /-- The same for what waits in an event loop. -/
  | loopState
  deriving DecidableEq

inductive NotLoaded where
  | variable (name : String)
  | tokenFile (path : String) (error : SystemError)
  | stated (arguments : List Datum)

inductive Failure where
  | unknownSource (name : String)
  /-- Another failure to resolve a profile. -/
  | profile (arguments : List Datum)
  | unsupportedBase (value : Datum)
  | notLoaded (reason : NotLoaded)
  /-- Another failure to load credentials. -/
  | credentials (arguments : List Datum)
  | invalidResponse (reason : String) (role : Option String) (hop : Option Int)
  | provider (cause : Failure) (name : String) (role : Option String) (hop : Option Int)
  | invalidData (report : Report)
  | service (operation : String) (response : List (String × Datum))
  | unreachable (url : String)
  | system (error : SystemError)
  | plain (kind : PlainKind) (arguments : List Datum)
  /-- A failure of a class that the library does not know. -/
  | foreign (className message : String)
  | cancelled (arguments : List Datum)
  /-- A token file that is no text. -/
  | undecodable (refusal : Text.Utf8Refusal)
  | embeddedNul
  /-- A variable whose name holds an equals sign. -/
  | illegalVariable
  | noTransport (operation : String)
  | noConfiguration
  | infiniteClock
  | template (refusal : Template.Refusal)
  /-- A named value of a log entry that takes the place of something else. -/
  | reservedName (function name : String)
  | readOnly (field : String)
  /-- An assignment of something else to what a value is made of. -/
  | notMaking (field kind : String)
  | unhashable (kind : String)
  | misfit (misfit : Misfit)

inductive Family where
  | profile
  | credentials
  deriving DecidableEq

namespace Failure

/-- The words after a failure that name how many hops succeeded before it. -/
def hopText : Option Int → String
  | none => ""
  | some hop => " (after " ++ Decimal.intText hop ++ " successful hops)"

/-- The words that name the role; an empty name is left out. -/
def roleText : Option String → String
  | none => ""
  | some role => if role = "" then "" else " for role `" ++ role ++ "`"

def serviceText (operation : String) (response : List (String × Datum)) : String :=
  let block := fun (key : String) => match Datum.lookup? key response with
    | some (.mapping entries) => entries
    | _ => []
  let detail := fun (key : String) =>
    ((Datum.lookup? key (block "Error")).map Datum.plain).getD "Unknown"
  let metadata := block "ResponseMetadata"
  let retries := match Datum.lookup? "MaxAttemptsReached" metadata,
      Datum.lookup? "RetryAttempts" metadata with
    | some reached, some attempts =>
      if reached.holds then " (reached max retries: " ++ attempts.plain ++ ")" else ""
    | _, _ => ""
  "An error occurred (" ++ detail "Code" ++ ") when calling the " ++ operation ++ " operation" ++
    retries ++ ": " ++ detail "Message"

def undecodableText (refusal : Text.Utf8Refusal) : String :=
  let place := if refusal.count ≤ 1 then
      "byte 0x" ++ String.ofList (Text.hexDigits 2 refusal.byte.toNat) ++ " in position " ++
        Decimal.digitText refusal.offset
    else "bytes in position " ++ Decimal.digitText refusal.offset ++ "-" ++
      Decimal.digitText (refusal.offset + refusal.count - 1)
  let reason := match refusal.reason with
    | .badStart => "invalid start byte"
    | .badContinuation => "invalid continuation byte"
    | .unexpectedEnd => "unexpected end of data"
  "'utf-8' codec can't decode " ++ place ++ ": " ++ reason

def notLoadedText : NotLoaded → String
  | .variable name => "environment variable not set: " ++ name
  | .tokenFile path error =>
    "could not read web identity token file " ++ path ++ ": " ++ error.message
  | .stated arguments => argumentsText arguments

def plainText : PlainKind → List Datum → String
  | .key, [value] => value.literal
  | _, arguments => argumentsText arguments

def message : Failure → String
  | unknownSource name =>
    "profile referenced `" ++ name ++ "` provider but that provider is not supported"
  | profile arguments => argumentsText arguments
  | unsupportedBase value => "unsupported base provider: " ++ value.literal
  | notLoaded reason => notLoadedText reason
  | credentials arguments => argumentsText arguments
  | invalidResponse reason role hop => reason ++ roleText role ++ hopText hop
  | provider cause name role hop =>
    name ++ " failed to load credentials" ++ roleText role ++ ": " ++ cause.message ++ hopText hop
  | invalidData _ => "<ValidationError>"
  | service operation response => serviceText operation response
  | unreachable url => "Could not connect to the endpoint URL: \"" ++ url ++ "\""
  | system error => error.message
  | plain kind arguments => plainText kind arguments
  | foreign _ message => message
  | cancelled arguments => argumentsText arguments
  | undecodable refusal => undecodableText refusal
  | embeddedNul => "embedded null byte"
  | illegalVariable => "illegal environment variable name"
  | noTransport operation => "'NoneType' object has no attribute '" ++ operation ++ "'"
  | noConfiguration => "'NoneType' object has no attribute 'region'"
  | infiniteClock => "cannot convert float infinity to integer"
  | template refusal => refusal.message
  | reservedName function name =>
    function ++ "() got multiple values for argument '" ++ name ++ "'"
  | readOnly field => "cannot assign to field '" ++ field ++ "'"
  | notMaking field kind =>
    if field = "__class__" then field ++ " must be set to a class, not '" ++ kind ++ "' object"
    else field ++ " must be set to a dictionary, not a '" ++ kind ++ "'"
  | unhashable kind => "unhashable type: '" ++ kind ++ "'"
  | misfit m => m.message

def family? : Failure → Option Family
  | unknownSource _ | profile _ => some .profile
  | notLoaded _ | credentials _ | invalidResponse .. | provider .. => some .credentials
  | _ => none

def code? : Failure → Option ErrorCode
  | unknownSource _ | profile _ => some .unknownProvider
  | notLoaded _ => some .notLoaded
  | credentials _ | provider .. => some .providerFailed
  | invalidResponse .. => some .invalidResponse
  | _ => none

/-- The failure with its position in a chain; only failures of hops have one. -/
def atHop? (hop : Int) : Failure → Option Failure
  | invalidResponse reason role _ => some (invalidResponse reason role (some hop))
  | provider cause name role _ => some (provider cause name role (some hop))
  | _ => none

/-- The failure that names a source of credentials; it takes one argument. -/
def ofSource : List Datum → Except Misfit Failure
  | [name] => .ok (unknownSource name.plain)
  | arguments => .error (.arity arguments.length)

/-- The refusal of an operation by a service that answers with the given data: its blocks, if there
are any, have to be blocks. -/
def ofRefusal (operation : String) (response : Datum) : Except Misfit Failure :=
  match response with
  | .mapping entries =>
    let misfits := ["ResponseMetadata", "Error"].filterMap fun key =>
      match Datum.lookup? key entries with
      | none | some (.mapping _) => none
      | some other => some (Misfit.notBlock other.kindName)
    match misfits with
    | [] => .ok (service operation entries)
    | m :: _ => .error m
  | .null | .bool _ | .int _ | .float _ | .moment _ => .error (.notBlocks response.kindName)
  | .text _ | .bytes _ | .list _ => .error (.notBlock response.kindName)

def ofSystem (e : SystemError) : Except Misfit Failure :=
  match e.arguments with
  | _ :: _ :: count :: _ =>
    if !e.isCount count then .ok (system e)
    else match count with
      | .int n => if Template.isWord n then .ok (system e) else .error .countTooLarge
      | .float _ => .error (.notCount count.kindName)
      | _ => .ok (system e)
  | _ => .ok (system e)

/-- Whether the failure is the end of a run from outside, which nothing may catch. -/
def isCancellation : Failure → Bool
  | cancelled _ => true
  | _ => false

end Failure

/-- A failure on its way out of a run, with the failure it was explicitly raised from. -/
structure Raised where
  failure : Failure
  source : Option Failure

def Failure.alone (failure : Failure) : Raised := ⟨failure, none⟩

/-- A failure as it comes out of the coroutine that it was raised in. The end of an iteration cannot
leave one: it is the source of another failure. -/
def Failure.leave : Failure → Raised
  | .plain .exhausted arguments =>
    ⟨.plain .state [.text "coroutine raised StopIteration"], some (.plain .exhausted arguments)⟩
  | failure => failure.alone

end RoleChain
