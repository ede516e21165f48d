import RoleChain.Environment
import RoleChain.Files
import RoleChain.Text.Blank

/-!
Files of variables. A binding is a name, an equals sign and a value, which may be quoted; a name
alone binds nothing. Values refer to variables between braces, with a default or without. What the
file binds never replaces a variable that is set.
-/
namespace RoleChain.VariableFile

abbrev Binding := String × Option String

def isLineEnd (c : Char) : Bool := c = '\n' || c = '\r'

def isInline (c : Char) : Bool := Text.isBlank c && !isLineEnd c

def dropInline (chars : List Char) : List Char := chars.dropWhile isInline

def dropExport (chars : List Char) : List Char :=
  match chars with
  | 'e' :: 'x' :: 'p' :: 'o' :: 'r' :: 't' :: c :: rest =>
    if isInline c then dropInline rest else chars
  | _ => chars

/-- The characters up to the quote that closes them, and the rest. The character after a backslash
never closes them. -/
def takeQuoted (mark : Char) : List Char → Option (List Char × List Char)
  | [] => none
  | '\\' :: d :: rest => (takeQuoted mark rest).map fun (value, rest) => ('\\' :: d :: value, rest)
  | c :: rest =>
    if c = mark then some ([], rest)
    else (takeQuoted mark rest).map fun (value, rest) => (c :: value, rest)

def doubleEscape : Char → Option Char
  | '\\' => some '\\'
  | '\x27' => some '\x27'
  | '\x22' => some '\x22'
  | 'a' => some '\x07'
  | 'b' => some '\x08'
  | 'f' => some '\x0c'
  | 'n' => some '\n'
  | 'r' => some '\r'
  | 't' => some '\t'
  | 'v' => some '\x0b'
  | _ => none

/-- Between single quotes a backslash escapes itself and the quote only. -/
def singleEscape : Char → Option Char
  | '\\' => some '\\'
  | '\x27' => some '\x27'
  | _ => none

def unescape (escape : Char → Option Char) : List Char → List Char
  | [] => []
  | '\\' :: c :: rest =>
    match escape c with
    | some d => d :: unescape escape rest
    | none => '\\' :: unescape escape (c :: rest)
  | c :: rest => c :: unescape escape rest

def beforeComment : Bool → List Char → List Char
  | _, [] => []
  | afterBlank, c :: rest =>
    if c = '#' ∧ afterBlank then [] else c :: beforeComment (Text.isBlank c) rest

/-- A value without quotes up to the end of the line, and the rest. Blanks at its ends and a
comment do not belong to it. -/
def readPlain (chars : List Char) : List Char × List Char :=
  let line := chars.takeWhile fun c => !isLineEnd c
  (Text.trimChars (beforeComment false line), chars.dropWhile fun c => !isLineEnd c)

/-- The value after an equals sign, and the rest; the value is none if a quote is not closed. -/
def readValue (chars : List Char) : Option (List Char) × List Char :=
  let quoted := fun (mark : Char) (escape : Char → Option Char) (rest : List Char) =>
    match takeQuoted mark rest with
    | some (value, rest) => (some (unescape escape value), rest)
    | none => (none, rest)
  match dropInline chars with
  | '\x27' :: rest => quoted '\x27' singleEscape rest
  | '\x22' :: rest => quoted '\x22' doubleEscape rest
  | _ => let (value, rest) := readPlain chars; (some value, rest)

/-- The name of a binding and the rest: none of them at a comment. The outer none is a line that
has no name. -/
def readName (chars : List Char) : Option (Option (List Char) × List Char) :=
  match chars with
  | '#' :: _ => some (none, chars)
  | '\x27' :: rest =>
    match rest.takeWhile (· != '\x27'), rest.dropWhile (· != '\x27') with
    | c :: name, _ :: rest => some (some (c :: name), rest)
    | _, _ => none
  | _ =>
    let inName := fun c => c != '=' && c != '#' && !Text.isBlank c
    match chars.takeWhile inName with
    | [] => none
    | name => some (some name, chars.dropWhile inName)

def dropComment (chars : List Char) : List Char :=
  match dropInline chars with
  | '#' :: rest => rest.dropWhile fun c => !isLineEnd c
  | _ => chars

def readLineEnd (chars : List Char) : Option (List Char) :=
  match dropInline chars with
  | [] => some []
  | '\r' :: '\n' :: rest => some rest
  | c :: rest => if isLineEnd c then some rest else none

def dropLine (chars : List Char) : List Char :=
  (chars.dropWhile fun c => !isLineEnd c).drop 1

/-- Reads one binding from characters that begin with no blank. A line that does not parse is
skipped from where it fails. -/
def readBinding (chars : List Char) : Option Binding × List Char :=
  let start := dropExport chars
  match readName start with
  | none => (none, dropLine start)
  | some (name, rest) =>
    let rest := dropInline rest
    let (value, rest) := match rest with
      | '=' :: rest =>
        let (value, rest) := readValue rest
        (value.map fun value => some (String.ofList value), rest)
      | rest => (some none, rest)
    match value with
    | none => (none, dropLine rest)
    | some value =>
      let rest := dropComment rest
      match readLineEnd rest with
      | none => (none, dropLine rest)
      | some rest => (name.map fun name => (String.ofList name, value), rest)

/-- Reads bindings; `fuel` bounds their number. -/
def readFrom : Nat → List Char → List Binding
  | 0, _ => []
  | fuel + 1, chars =>
    match chars.dropWhile Text.isBlank with
    | [] => []
    | chars =>
      let (binding, rest) := readBinding chars
      binding.toList ++ readFrom fuel rest

def byteOrderMark : Char := '\ufeff'

/-- The bindings of a text in order; a mark of the order of bytes before them does not count. -/
def read (text : String) : List Binding :=
  let chars := match text.toList with
    | [] => []
    | c :: rest => if c = byteOrderMark then rest else c :: rest
  readFrom (chars.length + 1) chars

def reference? (chars : List Char) : Option (List Char × List Char × List Char) :=
  match chars with
  | '$' :: '\x7b' :: rest =>
    let inName := fun c => c != '\x7d' && c != ':'
    let name := rest.takeWhile inName
    match rest.dropWhile inName with
    | '\x7d' :: rest => some (name, [], rest)
    | ':' :: '-' :: rest =>
      match rest.dropWhile (· != '\x7d') with
      | _ :: after => some (name, rest.takeWhile (· != '\x7d'), after)
      | [] => none
    | _ => none
  | _ => none

/-- Replaces references by what a look-up or their default gives; `fuel` bounds the length. -/
def expandFrom (lookup : String → List Char → List Char) : Nat → List Char → List Char
  | 0, chars => chars
  | _ + 1, [] => []
  | fuel + 1, c :: rest =>
    match reference? (c :: rest) with
    | some (name, default, rest) =>
      lookup (String.ofList name) default ++ expandFrom lookup fuel rest
    | none => c :: expandFrom lookup fuel rest

inductive Precedence where
  | environment
  | file
  deriving DecidableEq

/-- What a reference stands for: a variable that is set or an earlier binding, else its default; a
name bound to nothing is empty. -/
def resolve (precedence : Precedence) (env : Environment) (bound : Bindings (Option String))
    (name : String) (default : List Char) : List Char :=
  let set := (env.get? name).map some
  let found := match precedence with
    | .environment => set <|> bound.get? name
    | .file => bound.get? name <|> set
  match found with
  | some (some value) => value.toList
  | some none => []
  | none => default

def expand (precedence : Precedence) (env : Environment) (bindings : List Binding) :
    Bindings (Option String) :=
  bindings.foldl
    (fun bound (name, value) =>
      let lookup := resolve precedence env bound
      bound.update name (value.map fun value =>
        String.ofList (expandFrom lookup value.toList.length value.toList)))
    .empty

/-- Sets what is bound and not set yet, up to the first variable that cannot be set. -/
def apply : List Binding → Environment → Environment × Option Failure
  | [], env => (env, none)
  | (_, none) :: rest, env => apply rest env
  | (name, some value) :: rest, env =>
    if env.contains name then apply rest env
    else match Environment.refusal? name value with
      | some failure => (env, some failure)
      | none => apply rest (env.renew name value)

def load (text : String) (env : Environment) : Environment × Option Failure :=
  apply (expand .environment env (read text)).entries env

end RoleChain.VariableFile
