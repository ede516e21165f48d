import RoleChain.Template.Layout

/-!
Templates: text with fields between braces, each replaced by a value that is given by position or
by name. A field may walk into its value, convert it and lay it out; a layout may hold fields of
its own. Doubled braces stand for single ones.
-/
namespace RoleChain.Template

structure Values where
  positional : List Datum
  named : List (String × Datum)

/-- A field as written: its name with the steps into the value, a conversion, and a layout that
may hold fields. -/
structure Field where
  name : List Char
  conversion : Option Char
  layout : List Char
  nested : Bool

inductive Numbering where
  | undecided
  | automatic (next : Nat)
  | manual

/-- The name of a field, the character that ends it, and the rest. Within square brackets no
character ends a name. -/
def scanName : Bool → List Char → Except Refusal (List Char × Char × List Char)
  | _, [] => .error .unclosed
  | true, c :: rest => do
    let (name, stop, rest) ← scanName (c != ']') rest
    return (c :: name, stop, rest)
  | false, c :: rest =>
    if c = '\x7b' then .error .openInName
    else if c = '\x7d' ∨ c = ':' ∨ c = '!' then .ok ([], c, rest)
    else do
      let (name, stop, rest) ← scanName (c = '[') rest
      return (c :: name, stop, rest)

/-- A layout up to the brace that closes its field; inner braces come in pairs. -/
def scanLayout : Nat → List Char → Except Refusal (List Char × List Char)
  | _, [] => .error .layoutUnclosed
  | depth, c :: rest =>
    if c = '\x7d' ∧ depth = 0 then .ok ([], rest)
    else do
      let depth := if c = '\x7b' then depth + 1 else if c = '\x7d' then depth - 1 else depth
      let (layout, rest) ← scanLayout depth rest
      return (c :: layout, rest)

def scanField (chars : List Char) : Except Refusal (Field × List Char) := do
  let (name, stop, rest) ← scanName false chars
  let laidOut := fun (conversion : Option Char) (chars : List Char) => do
    let (layout, rest) ← scanLayout 0 chars
    return (Field.mk name conversion layout (layout.any (· = '\x7b')), rest)
  if stop = ':' then laidOut none rest
  else if stop = '!' then
    match rest with
    | [] => throw .conversionMissing
    | c :: [] => laidOut (some c) []
    | c :: d :: rest =>
      if d = '\x7d' then return (⟨name, some c, [], false⟩, rest)
      else if d = ':' then laidOut (some c) rest
      else throw .conversionEnd
  else return (⟨name, none, [], false⟩, rest)

def position? (name : List Char) : Except Refusal (Option Nat) := do
  match ← takeNumber name with
  | (n, []) => return n
  | _ => return none

def select (values : Values) (numbering : Numbering) (first : List Char) :
    Except Refusal (Datum × Numbering) := do
  let at? := fun (n : Nat) (numbering : Numbering) =>
    match values.positional[n]? with
    | some value => Except.ok (value, numbering)
    | none => .error (.noPosition n)
  if first.isEmpty then
    match numbering with
    | .undecided => at? 0 (.automatic 1)
    | .automatic next => at? next (.automatic (next + 1))
    | .manual => throw .toAutomatic
  else
    match ← position? first with
    | some n =>
      match numbering with
      | .automatic _ => throw .toManual
      | _ => at? n .manual
    | none =>
      match Datum.lookup? (String.ofList first) values.named with
      | some value => return (value, numbering)
      | none => throw (.noName (String.ofList first))

/-- What a field can stand for: a value, the kind of one, or several kinds. -/
inductive Subject where
  | value (value : Datum)
  | kind (name : String)
  | kinds (names : List String)

/-- A kind and the kinds it is a special case of, the nearest first. -/
def lineage : String → List String
  | "object" => ["object"]
  | "bool" => ["bool", "int", "object"]
  | kind => [kind, "object"]

def kindMember (kind name : String) : Except Refusal Subject :=
  let above := (lineage kind).drop 1
  if name = "__name__" ∨ name = "__qualname__" then .ok (.value (.text kind))
  else if name = "__module__" then .ok (.value (.text "builtins"))
  else if name = "__class__" then .ok (.kind "type")
  else if name = "__mro__" then .ok (.kinds (lineage kind))
  else if name = "__bases__" then .ok (.kinds (above.take 1))
  else if name = "__base__" then
    .ok (match above with
      | [] => .value .null
      | base :: _ => .kind base)
  else .error (.noKindMember kind name)

def kindsName : String := "tuple"

def kindsMember (name : String) : Except Refusal Subject :=
  if name = "__class__" then .ok (.kind kindsName) else .error (.noMember kindsName name)

/-- The member of a value with a name: every value has its kind, and numbers have their parts. No
other member can be shown. -/
def member (value : Datum) (name : String) : Except Refusal Subject :=
  let parts := match value with
    | .int n => some (Datum.int n, Datum.int 0)
    | .bool b => some (.int (if b then 1 else 0), .int 0)
    | .float x => some (.float x, .float (Binary64.ofInt 0))
    | _ => none
  let isWhole := match value with
    | .int _ | .bool _ => true
    | _ => false
  if name = "__class__" then .ok (.kind value.kindName)
  else match parts with
  | none => .error (.noMember value.kindName name)
  | some (real, imaginary) =>
    if name = "real" ∨ (isWhole ∧ name = "numerator") then .ok (.value real)
    else if name = "imag" then .ok (.value imaginary)
    else if isWhole ∧ name = "denominator" then .ok (.value (.int 1))
    else .error (.noMember value.kindName name)

def element (value : Datum) (name : List Char) : Except Refusal Datum := do
  let index ← position? name
  match value, index with
  | .list items, some n =>
    match items[n]? with
    | some item => return item
    | none => throw (.noElement "list")
  | .text s, some n =>
    match s.toList[n]? with
    | some c => return .text (String.singleton c)
    | none => throw (.noElement "str")
  | .list _, none => throw (.textIndex "list")
  | .text _, none => throw (.textIndex "str")
  | .mapping entries, none =>
    let key := String.ofList name
    match Datum.lookup? key entries with
    | some item => return item
    | none => throw (.noKey (.text key))
  | .mapping _, some n => throw (.noKey (.int n))
  | other, _ => throw (.notIndexed other.kindName)

namespace Subject

def member (name : String) : Subject → Except Refusal Subject
  | value d => Template.member d name
  | kind k => kindMember k name
  | kinds _ => kindsMember name

def element (name : List Char) : Subject → Except Refusal Subject
  | value d => do return .value (← Template.element d name)
  | kind k => do
    let _ ← position? name
    throw (.kindNotIndexed k)
  | kinds names => do
    match ← position? name with
    | none => throw (.textIndex kindsName)
    | some n =>
      match names[n]? with
      | none => throw (.noElement kindsName)
      | some k => return .kind k

end Subject

def isStep (c : Char) : Bool := c = '.' || c = '['

/-- Walks into a value along the steps of a name; `fuel` bounds their number. -/
def walk : Nat → Subject → List Char → Except Refusal Subject
  | _, subject, [] => .ok subject
  | 0, subject, _ => .ok subject
  | fuel + 1, subject, c :: rest =>
    if c = '.' then do
      let name := rest.takeWhile fun d => !isStep d
      if name.isEmpty then throw .emptyStep
      let next ← subject.member (String.ofList name)
      walk fuel next (rest.dropWhile fun d => !isStep d)
    else if c = '[' then do
      let name := rest.takeWhile (· != ']')
      match rest.dropWhile (· != ']') with
      | [] => throw .stepUnclosed
      | _ :: after =>
        if name.isEmpty then throw .emptyStep
        let next ← subject.element name
        walk fuel next after
    else .error .stepUnknown

def asciiChar (c : Char) : List Char :=
  if c.toNat < 0x80 then [c]
  else if c.toNat < 0x100 then '\\' :: 'x' :: Text.hexDigits 2 c.toNat
  else if c.toNat < 0x10000 then '\\' :: 'u' :: Text.hexDigits 4 c.toNat
  else '\\' :: 'U' :: Text.hexDigits 8 c.toNat

namespace Subject

def kindText (kind : String) : String := "<class '" ++ kind ++ "'>"

def literal : Subject → String
  | value d => d.literal
  | kind name => kindText name
  | kinds names => tupleText (names.map kindText)

def plain : Subject → String
  | value d => d.plain
  | subject => subject.literal

def convert (subject : Subject) : Option Char → Except Refusal Subject
  | none => .ok subject
  | some 'r' => .ok (.value (.text subject.literal))
  | some 's' => .ok (.value (.text subject.plain))
  | some 'a' =>
    .ok (.value (.text (String.ofList (subject.literal.toList.flatMap asciiChar))))
  | some c => .error (.unknownConversion c)

/-- The subject in the layout that is written for it; kinds have none. -/
def lay (layout : List Char) (subject : Subject) : Except Refusal String :=
  match subject with
  | value d => Template.lay layout d
  | _ =>
    if layout.isEmpty then .ok subject.plain
    else .error (.layoutUnsupported (match subject with
      | kinds _ => kindsName
      | _ => "type"))

end Subject

/-- Fills a template whose layouts may hold templates `depth - 1` levels deep; `fuel` bounds its
length. -/
def fillFrom (values : Values) : Nat → Nat → Numbering → List Char →
    Except Refusal (List Char × Numbering)
  | 0, _, _, _ => .error .tooDeep
  | _ + 1, 0, numbering, _ => .ok ([], numbering)
  | depth + 1, fuel + 1, numbering, chars => do
    match chars with
    | [] => return ([], numbering)
    | '\x7d' :: rest =>
      match rest with
      | '\x7d' :: rest =>
        let (filled, numbering) ← fillFrom values (depth + 1) fuel numbering rest
        return ('\x7d' :: filled, numbering)
      | _ => throw .loneClose
    | '\x7b' :: rest =>
      match rest with
      | [] => throw .loneOpen
      | '\x7b' :: rest =>
        let (filled, numbering) ← fillFrom values (depth + 1) fuel numbering rest
        return ('\x7b' :: filled, numbering)
      | rest =>
        let (field, rest) ← scanField rest
        let first := field.name.takeWhile fun c => !isStep c
        let steps := field.name.dropWhile fun c => !isStep c
        let (value, numbering) ← select values numbering first
        let subject ← walk (steps.length + 1) (.value value) steps
        let subject ← subject.convert field.conversion
        let (layout, numbering) ←
          if field.nested then
            fillFrom values depth (field.layout.length + 1) numbering field.layout
          else pure (field.layout, numbering)
        let text ← subject.lay layout
        let (filled, numbering) ← fillFrom values (depth + 1) fuel numbering rest
        return (text.toList ++ filled, numbering)
    | c :: rest =>
      let (filled, numbering) ← fillFrom values (depth + 1) fuel numbering rest
      return (c :: filled, numbering)

def fill (template : String) (values : Values) : Except Refusal String := do
  let chars := template.toList
  let (filled, _) ← fillFrom values 2 (chars.length + 1) .undecided chars
  return String.ofList filled

end RoleChain.Template
