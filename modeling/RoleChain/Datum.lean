import RoleChain.Calendar.DateTime
import RoleChain.Text.Quoted

/-!
Untyped data, as services answer with and callers pass in, and its two written forms: the
literal, in which text stands in quotes, and the plain text, in which it stands for itself.
-/
namespace RoleChain

inductive Datum where
  | null
  | bool (value : Bool)
  | int (value : Int)
  | float (value : Binary64)
  | text (value : String)
  | bytes (value : List UInt8)
  | moment (value : DateTime)
  | list (items : List Datum)
  | mapping (entries : List (String × Datum))
  deriving Inhabited

/-- The fields of a record between its name and a closing bracket, each with its label. -/
def recordText (name : String) (fields : List (String × String)) : String :=
  name ++ "(" ++ ", ".intercalate (fields.map fun field => field.1 ++ "=" ++ field.2) ++ ")"

/-- Written values between round brackets; a single one is followed by a comma. -/
def tupleText : List String → String
  | [value] => "(" ++ value ++ ",)"
  | values => "(" ++ ", ".intercalate values ++ ")"

namespace Datum

mutual

/-- The form in which text stands in quotes. -/
def literal : Datum → String
  | null => "None"
  | bool value => if value then "True" else "False"
  | int value => Decimal.intText value
  | float value => value.text
  | text value => Text.quoted value
  | bytes value => Text.quotedBytes value
  | moment value => value.literal
  | list items => "[" ++ ", ".intercalate (literals items) ++ "]"
  | mapping entries => "\x7b" ++ ", ".intercalate (entryLiterals entries) ++ "\x7d"

def literals : List Datum → List String
  | [] => []
  | item :: items => literal item :: literals items

def entryLiteral : String × Datum → String
  | (key, value) => Text.quoted key ++ ": " ++ literal value

def entryLiterals : List (String × Datum) → List String
  | [] => []
  | entry :: entries => entryLiteral entry :: entryLiterals entries

end

/-- The form in which text and moments stand for themselves. -/
def plain : Datum → String
  | text value => value
  | moment value => value.separatedText " "
  | datum => datum.literal

/-- Whether a value counts as true: it is neither null, false, zero nor empty. -/
def holds : Datum → Bool
  | null => false
  | bool value => value
  | int value => value != 0
  | float (.finite _ mantissa _) => mantissa != 0
  | float (.infinite _) => true
  | text value => value != ""
  | bytes value => !value.isEmpty
  | moment _ => true
  | list items => !items.isEmpty
  | mapping entries => !entries.isEmpty

def lookup? (key : String) (entries : List (String × Datum)) : Option Datum :=
  (entries.find? (fun entry => decide (entry.1 = key))).map Prod.snd

/-- The finite number that a value counts as, as a quotient; true counts as one. -/
def quotient? : Datum → Option (Int × Nat)
  | bool value => some (if value then 1 else 0, 1)
  | int value => some (value, 1)
  | float (.finite negative mantissa exponent) =>
    let (num, den) := Binary64.ratio mantissa exponent
    some (if negative then -num else num, den)
  | _ => none

/-- Whether two values without parts are the same; numbers are if they count alike. -/
def atomAgrees (a b : Datum) : Bool :=
  match quotient? a, quotient? b with
  | some (m, d), some (n, e) => m * e == n * d
  | _, _ =>
    match a, b with
    | null, null => true
    | float x, float y => decide (x = y)
    | text s, text t => s == t
    | bytes s, bytes t => s == t
    | moment s, moment t => s.agrees t
    | _, _ => false

mutual

/-- Whether two values are the same. The entries of mappings are the same in any order. -/
def agrees : Datum → Datum → Bool
  | list items, list others => itemsAgree items others
  | mapping entries, mapping others =>
    entries.length == others.length && entriesAgree entries others
  | a, b => atomAgrees a b

def itemsAgree : List Datum → List Datum → Bool
  | [], [] => true
  | a :: items, b :: others => agrees a b && itemsAgree items others
  | _, _ => false

def entryAgrees : String × Datum → List (String × Datum) → Bool
  | (key, value), others =>
    match lookup? key others with
    | some other => agrees value other
    | none => false

def entriesAgree : List (String × Datum) → List (String × Datum) → Bool
  | [], _ => true
  | entry :: entries, others => entryAgrees entry others && entriesAgree entries others

end

/-- Whether a value has parts and can therefore be no member of a set. -/
def hasParts : Datum → Bool
  | list _ | mapping _ => true
  | _ => false

end Datum

end RoleChain
