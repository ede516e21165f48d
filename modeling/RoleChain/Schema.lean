import RoleChain.Datum

/-!
Reading records out of untyped data. A field has a name on the wire and one of its own and is
looked up by the name on the wire first. A reading reports every issue it meets, in the order of
the fields, and gives a record only if there is none. Which single values count as text and which as
moments is for the library that validates them to say.
-/
namespace RoleChain

structure FieldRefusal where
  code : String
  message : String
  deriving DecidableEq

namespace FieldRefusal

def notText : FieldRefusal := ⟨"string_type", "Input should be a valid string"⟩

def notMoment : FieldRefusal := ⟨"datetime_type", "Input should be a valid datetime"⟩

end FieldRefusal

/-- The rules for fields of text and of moments. Text is text and a moment is a moment, and a value
with parts is neither, whatever its parts are. -/
class FieldRules where
  text : Datum → Except FieldRefusal String
  moment : Datum → Except FieldRefusal DateTime
  text_text (s : String) : text (.text s) = .ok s
  moment_moment (t : DateTime) : moment (.moment t) = .ok t
  text_parts (d : Datum) (h : d.hasParts = true) : text d = .error .notText
  moment_parts (d : Datum) (h : d.hasParts = true) : moment d = .error .notMoment

inductive IssueKind where
  | missing
  | notRecord (name : String)
  | refused (refusal : FieldRefusal)
  | frozen
  deriving DecidableEq

/-- What is wrong and where: the names of the fields on the way to the value. -/
structure Issue where
  kind : IssueKind
  path : List String
  deriving DecidableEq

/-- Why data is not the record of a given name. -/
structure Report where
  title : String
  issues : List Issue
  deriving DecidableEq

namespace IssueKind

/-- The short name of the kind. -/
def code : IssueKind → String
  | missing => "missing"
  | notRecord _ => "model_type"
  | refused refusal => refusal.code
  | frozen => "frozen_instance"

def message : IssueKind → String
  | missing => "Field required"
  | notRecord name => "Input should be a valid dictionary or instance of " ++ name
  | refused refusal => refusal.message
  | frozen => "Instance is frozen"

end IssueKind

/-- A value read, or every issue that was met. -/
inductive Checked (α : Type) where
  | valid (value : α)
  | invalid (issues : List Issue)

namespace Checked

variable {α β : Type}

def map (f : α → β) : Checked α → Checked β
  | valid value => valid (f value)
  | invalid issues => invalid issues

/-- Applies what was read to what is read next; the issues of both are kept in order. -/
def apply (f : Checked (α → β)) (x : Checked α) : Checked β :=
  match f, x with
  | valid f, valid value => valid (f value)
  | valid _, invalid issues => invalid issues
  | invalid issues, valid _ => invalid issues
  | invalid issues, invalid more => invalid (issues ++ more)

/-- The reading as part of a larger record, under the given field. -/
def under (field : String) : Checked α → Checked α
  | valid value => valid value
  | invalid issues => invalid (issues.map fun issue => { issue with path := field :: issue.path })

def refuse (kind : IssueKind) : Checked α := invalid [⟨kind, []⟩]

/-- The value read, or the report on the record of the given name. -/
def report (title : String) : Checked α → Except Report α
  | valid value => .ok value
  | invalid issues => .error ⟨title, issues⟩

end Checked

def Checked.ofRule {α : Type} : Except FieldRefusal α → Checked α
  | .ok value => .valid value
  | .error refusal => .refuse (.refused refusal)

namespace Datum

variable [FieldRules]

def asText (d : Datum) : Checked String := .ofRule (FieldRules.text d)

def asMoment (d : Datum) : Checked DateTime := .ofRule (FieldRules.moment d)

theorem asText_text (s : String) : (text s).asText = .valid s := by
  rw [asText, FieldRules.text_text, Checked.ofRule]

theorem asText_of_hasParts {d : Datum} (h : d.hasParts = true) :
    d.asText = .refuse (.refused .notText) := by
  rw [asText, FieldRules.text_parts d h, Checked.ofRule]

theorem asMoment_of_hasParts {d : Datum} (h : d.hasParts = true) :
    d.asMoment = .refuse (.refused .notMoment) := by
  rw [asMoment, FieldRules.moment_parts d h, Checked.ofRule]

end Datum

/-- The two names of a field in untyped data. -/
structure FieldName where
  wire : String
  own : String

namespace FieldName

/-- The value of a field with the name it was found under: the one on the wire if that is
present. -/
def find? (field : FieldName) (entries : List (String × Datum)) : Option (String × Datum) :=
  match Datum.lookup? field.wire entries with
  | some value => some (field.wire, value)
  | none => (Datum.lookup? field.own entries).map fun value => (field.own, value)

variable {α : Type}

def required (field : FieldName) (read : Datum → Checked α) (entries : List (String × Datum)) :
    Checked α :=
  match field.find? entries with
  | none => .invalid [⟨.missing, [field.wire]⟩]
  | some (name, value) => (read value).under name

def optional (field : FieldName) (read : Datum → Checked α) (entries : List (String × Datum)) :
    Checked (Option α) :=
  match field.find? entries with
  | none => .valid none
  | some (_, .null) => .valid none
  | some (name, value) => ((read value).map some).under name

end FieldName

end RoleChain
